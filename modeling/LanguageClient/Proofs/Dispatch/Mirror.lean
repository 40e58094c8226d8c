import LanguageClient.Proofs.Correlation
import LanguageClient.Proofs.Dispatch.Dispatcher
import LanguageClient.Proofs.Steps.Runs

/-!
A session does what dispatching is meant to do. Its tables of listeners are those of a history of
registrations, and whoever was told left a mark; this stays so whatever listeners do, and whether they fail.
-/

namespace LanguageClient

/-- What a listener that was told leaves: its label, and the args or params that came. -/
abbrev Mark := Json × (List Json ⊕ Json)

def Event.mark? (id : SessionId) : Event → Option Mark
  | happened session label _ args => if session = id then some (label, .inl args) else none
  | received session label _ params => if session = id then some (label, .inr params) else none
  | _ => none

def Occasion.content : Occasion → List Json ⊕ Json
  | event _ args => .inl args
  | method _ params => .inr params

def Invocation.mark (i : Invocation) : Mark := (i.label, i.occasion.content)

/-- Whether an operation with a server of this name finds a session. -/
def hearsOf (running : List (Json × SessionId)) (server : Json) : Bool :=
  if server.isNull then running.head?.isSome else (running.find? fun (name, _) => name.key? = server.key?).isSome

/-- The listeners of one kind, as a session keeps them. -/
def Dispatcher.table (d : Dispatcher) (realm : Realm) : List (Json.Key × Listener) :=
  d.history.filterMap fun r => if r.topic.realm = realm then some (r.topic.name, .host r.listener) else none

/-- How a listener is called. -/
def Occasion.call (o : Occasion) (l : Listener) (id : SessionId) : Call :=
  match o with
  | event _ args => .event l id args
  | method _ params => .message l id params

/-- A listener that does the same and does not fail. -/
def Listener.calm : Listener → Listener
  | host callback => host (callbackCalm callback)
  | l => l

/-- The same world, but for the failures of listeners in a session. -/
def World.calm (id : SessionId) (w : World) : World :=
  let ls := (w.session id).listeners
  w.setSession id { w.session id with
    listeners := ⟨ls.events.map fun (name, l) => (name, l.calm), ls.methods.map fun (name, l) => (name, l.calm)⟩ }

/-- A session has the listeners of a dispatcher, and whoever was told is known. -/
structure World.Mirrors (running : List (Json × SessionId)) (id : SessionId) (d : Dispatcher) (w : World) : Prop where
  running : w.running = running
  lt : id < w.sessions.length
  events : (w.session id).listeners.events = d.table .event
  methods : (w.session id).listeners.methods = d.table .method
  told : w.events.reverse.filterMap (Event.mark? id) = d.told.map Invocation.mark
  obedient : ∀ r ∈ d.history, callbackObeys SessionAction.isDispatching r.listener

namespace World

open Act Dispatcher

variable {running : List (Json × SessionId)} {id : SessionId} {d : Dispatcher} {w w' : World} {e : Event}

lemma named_table (d : Dispatcher) (realm : Realm) (name : Json.Key) :
    Listeners.named name (d.table realm) = (d.audience ⟨realm, name⟩).map .host := by
  rw [Listeners.named, table, audience, List.filterMap_filterMap, List.map_filterMap]
  refine List.filterMap_congr fun r _ => ?_
  obtain ⟨⟨realm', name'⟩, listener⟩ := r
  by_cases hc : realm' = realm <;> by_cases hn : name' = name <;> simp [hc, hn]

lemma Mirrors.of_eq (h : w.Mirrors running id d) (hr : w'.running = w.running)
    (hlt : w'.sessions.length = w.sessions.length)
    (hl : (w'.session id).listeners = (w.session id).listeners)
    (he : w'.events.reverse.filterMap (Event.mark? id) = w.events.reverse.filterMap (Event.mark? id)) :
    w'.Mirrors running id d :=
  ⟨hr.trans h.running, hlt ▸ h.lt, hl ▸ h.events, hl ▸ h.methods, he.trans h.told, h.obedient⟩

lemma Mirrors.record (h : w.Mirrors running id d) (he : e.mark? id = none) :
    (w.record e).Mirrors running id d := by
  refine h.of_eq rfl rfl rfl ?_
  rw [World.record, List.reverse_cons, List.filterMap_append, List.filterMap_cons_none he, List.filterMap_nil,
    List.append_nil]

lemma Mirrors.hear {i : Invocation} (h : w.Mirrors running id d) (he : e.mark? id = some i.mark) :
    (w.record e).Mirrors running id (d.hear i) := by
  refine ⟨h.running, h.lt, h.events, h.methods, ?_, h.obedient⟩
  rw [World.record, List.reverse_cons, List.filterMap_append, h.told, List.filterMap_cons_some he, Dispatcher.hear,
    List.map_append]
  rfl

lemma Mirrors.printed (h : w.Mirrors running id d) (lines : List Text) :
    (lines.foldl (fun w line => w.record (.printed line)) w).Mirrors running id d := by
  induction lines generalizing w with
  | nil => exact h
  | cons line lines ih => exact ih (h.record rfl)

lemma Mirrors.log (h : w.Mirrors running id d) (source : Source) (level : Json) (text : Text)
    (cause : Option Fault) : (w.log source level text cause).Mirrors running id d := by
  unfold World.log
  cases w.journal with
  | recorder =>
    dsimp only
    split
    next => exact h
    next => exact h.record rfl
  | loggers setup =>
    have hset : ({ w with journal := .loggers (setup.emit source level text).2 } : World).Mirrors running id d :=
      h.of_eq rfl rfl rfl rfl
    exact hset.printed _

lemma table_register (r : Registration) (d : Dispatcher) (realm : Realm) :
    (d.register r).table realm =
      d.table realm ++ if r.topic.realm = realm then [(r.topic.name, Listener.host r.listener)] else [] := by
  rw [table, Dispatcher.register, List.filterMap_append, table]
  by_cases hc : r.topic.realm = realm <;> simp [hc]

lemma Mirrors.register (h : w.Mirrors running id d) {r : Registration} {ls : Listeners Listener}
    (hr : callbackObeys SessionAction.isDispatching r.listener)
    (hevents : ls.events = (d.register r).table .event) (hmethods : ls.methods = (d.register r).table .method) :
    (w.setSession id { w.session id with listeners := ls }).Mirrors running id (d.register r) := by
  have hsession := session_setSession { w.session id with listeners := ls } h.lt
  refine ⟨h.running, (List.length_set ..).symm ▸ h.lt, ?_, ?_, h.told, ?_⟩
  · rw [hsession, hevents]
  · rw [hsession, hmethods]
  · exact List.forall_mem_append.mpr ⟨h.obedient, List.forall_mem_singleton.mpr hr⟩

lemma Mirrors.onEvent (h : w.Mirrors running id d) (name : Json.Key) {callback : Option Callback}
    (hcallback : callbackObeys SessionAction.isDispatching callback) :
    (w.setSession id { w.session id with
      listeners := (w.session id).listeners.onEvent name (.host callback) }).Mirrors running id
        (d.register ⟨⟨.event, name⟩, callback⟩) := by
  refine h.register hcallback ?_ ?_ <;> rw [table_register, Listeners.onEvent]
  · rw [h.events]
    rfl
  · rw [h.methods]
    exact (List.append_nil _).symm

lemma Mirrors.onMethod (h : w.Mirrors running id d) (name : Json.Key) {callback : Option Callback}
    (hcallback : callbackObeys SessionAction.isDispatching callback) :
    (w.setSession id { w.session id with
      listeners := (w.session id).listeners.onMethod name (.host callback) }).Mirrors running id
        (d.register ⟨⟨.method, name⟩, callback⟩) := by
  refine h.register hcallback ?_ ?_ <;> rw [table_register, Listeners.onMethod]
  · rw [h.events]
    exact (List.append_nil _).symm
  · rw [h.methods]
    rfl

lemma table_calm (d : Dispatcher) (realm : Realm) :
    d.calm.table realm = (d.table realm).map fun (name, l) => (name, l.calm) := by
  rw [table, Dispatcher.calm, List.filterMap_map, table, List.map_filterMap]
  refine List.filterMap_congr fun r _ => ?_
  dsimp only [Function.comp]
  split <;> rfl

lemma Mirrors.calm (h : w.Mirrors running id d) : (w.calm id).Mirrors running id d.calm := by
  refine ⟨h.running, (List.length_set ..).symm ▸ h.lt, ?_, ?_, h.told, ?_⟩
  · rw [World.calm, session_setSession _ h.lt, table_calm, ← h.events]
  · rw [World.calm, session_setSession _ h.lt, table_calm, ← h.methods]
  · refine List.forall_mem_map.mpr fun r hr => ?_
    exact callbackObeys_calm r.listener (h.obedient r hr)

lemma Mirrors.link {i : SessionId} (h : w.Mirrors running id d) (f : Link → Link) :
    (w.setSession i { w.session i with link := (w.session i).link.map f }).Mirrors running id d := by
  refine h.of_eq rfl (List.length_set ..) ?_ rfl
  by_cases hi : id = i
  · subst hi
    rw [session_setSession _ h.lt]
  · rw [session_setSession_of_ne _ hi]

end World

open Act World Dispatcher

variable {call : Caller} {teller : Teller} {running : List (Json × SessionId)} {id : SessionId} {d : Dispatcher}
  {w : World} {o : Occasion}

/-- Whoever is called comes to what a teller says. -/
def Agrees (running : List (Json × SessionId)) (id : SessionId) (call : Caller) (teller : Teller) : Prop :=
  ∀ (o : Occasion) (l : Option Callback) (d : Dispatcher) (w : World), w.Mirrors running id d →
    callbackObeys SessionAction.isDispatching l →
      Ends (call (o.call (.host l) id)) w fun _ v => v.Mirrors running id (teller o l d)

lemma obeys_of_mem_audience {topic : Topic} (h : w.Mirrors running id d) :
    ∀ l ∈ d.audience topic, callbackObeys SessionAction.isDispatching l := by
  intro l hl
  obtain ⟨r, hr, -, rfl⟩ := registered_of_mem_audience hl
  exact h.obedient r hr

/-- Listeners are called one after the other, while the dispatcher and the world go on. -/
lemma ends_callEach_host (ha : Agrees running id call teller) (hd : w.Mirrors running id d) {onFault : Fault → Act Unit}
    (hfault : ∀ f v d, v.Mirrors running id d → Ends (onFault f) v fun r u => r = .ok () ∧ u.Mirrors running id d)
    {ls : List (Option Callback)} (hls : ∀ l ∈ ls, callbackObeys SessionAction.isDispatching l) :
    Ends (Session.callEach call (fun l => o.call l id) onFault (ls.map .host)) w fun r v =>
      r = .ok () ∧ v.Mirrors running id (ls.foldl (fun d l => teller o l d) d) := by
  induction ls generalizing d w with
  | nil => exact ends_pure ⟨rfl, hd⟩
  | cons l ls ih =>
    obtain ⟨hl, hls⟩ := List.forall_mem_cons.mp hls
    refine Ends.attempt_bind ((ha o l d w hd hl).mono fun r v hv => ?_)
    cases r with
    | ok => exact ih hv hls
    | error f =>
      refine Ends.bind ((hfault f v _ hv).mono ?_)
      rintro r u ⟨rfl, hu⟩
      exact next_ok (ih hu hls)

/-- Of the listeners that were there at the beginning one after the other is called, and all are counted. -/
lemma ends_callAudience (ha : Agrees running id call teller) (hd : w.Mirrors running id d) {text : Text}
    {listeners : List Listener} (hl : listeners = (d.audience o.topic).map .host) :
    Ends (do
      Session.callEach call (fun l => o.call l id) (logFault .client text) listeners
      return listeners.length) w fun r v =>
        r = .ok (d.audience o.topic).length ∧ v.Mirrors running id (d.fire teller o) := by
  have hfault : ∀ f v d, v.Mirrors running id d →
      Ends (logFault .client text f) v fun r u => r = .ok () ∧ u.Mirrors running id d :=
    fun _ _ _ hv => ⟨rfl, hv.log _ _ _ _⟩
  rw [hl]
  refine Ends.bind ((ends_callEach_host ha hd hfault (obeys_of_mem_audience hd)).mono ?_)
  rintro r v ⟨rfl, hv⟩
  exact next_ok (ends_pure ⟨by rw [List.length_map], hv⟩)

namespace Session

/-- What a session does when something happened, or when a message came. -/
def fire (call : Caller) (id : SessionId) (name : Json) (o : Occasion) : Act Nat :=
  match o with
  | .event _ args => fireEvent call id name args
  | .method _ params => fireMethod call id name params

lemma ends_fire (ha : Agrees running id call teller) (hd : w.Mirrors running id d) {name : Json}
    (hname : name.key = .ok o.topic.name) :
    Ends (fire call id name o) w fun r v =>
      r = .ok (d.audience o.topic).length ∧ v.Mirrors running id (d.fire teller o) := by
  cases o with
  | event key args =>
    have hnoted : (w.record (.noted id (.fired key))).Mirrors running id d := hd.record rfl
    have hlisteners : (w.session id).listeners.ofEvent key = (d.audience ⟨.event, key⟩).map .host := by
      rw [Listeners.ofEvent, hd.events, named_table]
    refine ends_ok_bind hname (ends_record_bind (ends_getSession_bind ?_))
    exact ends_callAudience (o := .event key args) ha hnoted hlisteners
  | method key params =>
    have hlisteners : (w.session id).listeners.ofMethod key = (d.audience ⟨.method, key⟩).map .host := by
      rw [Listeners.ofMethod, hd.methods, named_table]
    refine ends_ok_bind hname (ends_getSession_bind ?_)
    exact ends_callAudience (o := .method key params) ha hd hlisteners

end Session

/-! Whatever a listener does -/

lemma key_eq_ok {name : Json} {key : Json.Key} (h : name.key? = some key) : name.key = .ok key := by
  rw [Json.key, h]

lemma key_eq_error {name : Json} (h : name.key? = none) : name.key = .error .wrongType := by
  rw [Json.key, h]

/-- A name that is the key of nothing fails at once. -/
lemma Agrees.fireEvent (ha : Agrees running id call teller) (hd : w.Mirrors running id d) (name : Json)
    (args : List Json) :
    Ends (answerCount (Session.fireEvent call id name args)) w fun _ v =>
      v.Mirrors running id ((name.key?.map fun k => d.fire teller (.event k args)).getD d) := by
  cases hk : name.key? with
  | some key =>
    refine Ends.bind ((Session.ends_fire (o := .event key args) ha hd (key_eq_ok hk)).mono ?_)
    rintro r v ⟨rfl, hv⟩
    exact hv
  | none => exact Ends.bind (ends_error_bind (key_eq_error hk) hd)

lemma Agrees.fireMethod (ha : Agrees running id call teller) (hd : w.Mirrors running id d) (name params : Json) :
    Ends (answerCount (Session.fireMethod call id name params)) w fun _ v =>
      v.Mirrors running id ((name.key?.map fun k => d.fire teller (.method k params)).getD d) := by
  cases hk : name.key? with
  | some key =>
    refine Ends.bind ((Session.ends_fire (o := .method key params) ha hd (key_eq_ok hk)).mono ?_)
    rintro r v ⟨rfl, hv⟩
    exact hv
  | none => exact Ends.bind (ends_error_bind (key_eq_error hk) hd)

lemma Agrees.performSession (ha : Agrees running id call teller) (hd : w.Mirrors running id d) {a : SessionAction}
    (hdo : a.isDispatching) (hobeys : a.callbacksObey SessionAction.isDispatching) :
    Ends (performSession call id a) w fun _ v => v.Mirrors running id (d.perform teller a) := by
  cases a
  case onEvent name callback =>
    rw [Dispatcher.perform]
    cases hk : name.key? with
    | some key => exact Ends.bind (ends_ok_bind (key_eq_ok hk) (hd.onEvent key hobeys))
    | none => exact Ends.bind (ends_error_bind (key_eq_error hk) hd)
  case onMethod name callback =>
    rw [Dispatcher.perform]
    cases hk : name.key? with
    | some key => exact Ends.bind (ends_ok_bind (key_eq_ok hk) (hd.onMethod key hobeys))
    | none => exact Ends.bind (ends_error_bind (key_eq_error hk) hd)
  case fireEvent name args => exact ha.fireEvent hd name args
  case fireMethod name params => exact ha.fireMethod hd name params
  all_goals cases hdo

lemma Agrees.performNoted (ha : Agrees running id call teller) (hd : w.Mirrors running id d) {a : SessionAction}
    (hdo : a.isDispatching) (hobeys : a.callbacksObey SessionAction.isDispatching) :
    Ends (performNoted call id a) w fun _ v => v.Mirrors running id (d.perform teller a) :=
  ends_getSession_bind (Ends.attempt_bind ((ha.performSession hd hdo hobeys).mono fun _ _ hv => hv.record rfl))

/-- What is done leaves listeners as they are, and tells none. -/
def Unmoved (running : List (Json × SessionId)) (id : SessionId) (v w : World) : Prop :=
  ∀ d, v.Mirrors running id d → w.Mirrors running id d

instance : Course (Unmoved running id) where
  refl _ _ h := h
  trans h g d hd := g d (h d hd)

instance : Stable (Unmoved running id) fun _ => True where
  step _ _ := trivial

lemma unmoved_answerNothing {a : Act Unit} (h : Within (Unmoved running id) (fun _ => True) a)
    (hd : w.Mirrors running id d) : Ends (answerNothing a) w fun _ v => v.Mirrors running id d := by
  refine Ends.bind ((ends_of_within h trivial).mono fun r v hv => ?_)
  cases r <;> exact hv d hd

/-- If all that runs is the one session, an operation finds it or nothing, as the name says. -/
lemma ends_runningNamed_hears {α : Type} {f : SessionId → Act α} {Q : Except Fault α → World → Prop}
    {server : Json} (hrunning : ∀ entry ∈ running, entry.2 = id) (hd : w.Mirrors running id d)
    (hf : hearsOf running server = true → Ends (f id) w Q)
    (herror : hearsOf running server = false → Q (.error .noServer) w) :
    Ends (runningNamed server >>= f) w Q := by
  rw [runningNamed, bind_assoc]
  refine ends_get_bind ?_
  rw [hd.running]
  have hhears : hearsOf running server = Option.isSome (if server.isNull then running.head?
      else running.find? fun (name, _) => name.key? = server.key?) := by
    rw [hearsOf]
    split <;> rfl
  dsimp only
  split
  next name i h =>
    have hi : (name, i) ∈ running := by
      split at h
      next => exact List.mem_of_head? h
      next => exact List.mem_of_find?_eq_some h
    rw [h] at hhears
    have hid : i = id := hrunning (name, i) hi
    rw [hid]
    exact hf hhears
  next h =>
    rw [h] at hhears
    exact herror hhears

lemma Agrees.perform (ha : Agrees running id call teller) (hrunning : ∀ entry ∈ running, entry.2 = id)
    (hd : w.Mirrors running id d) {a : Action} (hobeys : a.obeys SessionAction.isDispatching) :
    Ends (perform call a) w fun _ v => v.Mirrors running id (d.act teller (hearsOf running) a) := by
  have hset : ∀ {f : World → World}, (∀ v, (f v).sessions = v.sessions) → (∀ v, (f v).running = v.running) →
      (∀ v, (f v).events = v.events) → Ends (answerNothing (modify f)) w fun _ v => v.Mirrors running id d :=
    fun hs hr he => unmoved_answerNothing (within_modify fun v _ d' (hd' : v.Mirrors running id d') =>
      hd'.of_eq (hr v) (by rw [hs v]) (by rw [session, hs v]; rfl) (by rw [he v])) hd
  cases a
  case advance seconds =>
    refine ends_check_bind (fun x _ => ?_) fun e _ => hd
    exact hset (fun _ => rfl) (fun _ => rfl) fun _ => rfl
  case failLaunches | setFocus | setProject => exact hset (fun _ => rfl) (fun _ => rfl) fun _ => rfl
  case link server action =>
    refine ends_linked_bind (fun i => unmoved_answerNothing (within_performLink (fun f => ?_) action) hd) hd
    exact within_modify fun v _ d' (hd' : v.Mirrors running id d') => hd'.link f
  case session server action =>
    rw [Action.obeys, Bool.and_eq_true] at hobeys
    rw [Dispatcher.act]
    refine ends_runningNamed_hears hrunning hd (fun hhears => ?_) fun hhears => ?_
    · rw [if_pos hhears]
      exact ha.performNoted hd hobeys.1 hobeys.2
    · rw [if_neg (hhears ▸ Bool.false_ne_true)]
      exact hd
  all_goals cases hobeys

lemma Agrees.performInner (ha : Agrees running id call teller) (hrunning : ∀ entry ∈ running, entry.2 = id)
    (hd : w.Mirrors running id d) {actions : List Action} (hobeys : actionsObey SessionAction.isDispatching actions) :
    Ends (performInner call actions) w fun r v => r = .ok () ∧
      v.Mirrors running id (actions.foldl (fun d a => d.act teller (hearsOf running) a) d) := by
  induction actions generalizing d w with
  | nil => exact ends_pure ⟨rfl, hd⟩
  | cons a rest ih =>
    rw [actionsObey, Bool.and_eq_true] at hobeys
    refine Ends.attempt_bind ((ha.perform hrunning hd hobeys.1).mono fun r v hv => ends_record_bind ?_)
    exact ih (hv.record rfl) hobeys.2

/-- A listener leaves its mark, and does what it does; whether it fails then makes no difference. -/
lemma Agrees.performCallback (ha : Agrees running id call teller) (hrunning : ∀ entry ∈ running, entry.2 = id)
    (hd : w.Mirrors running id d) {callback : Callback} (hobeys : callback.obeys SessionAction.isDispatching)
    {mark : Json → Event} (hmark : ∀ label, (mark label).mark? id = some (label, o.content)) :
    Ends (performCallback call mark callback) w fun _ v =>
      v.Mirrors running id (Dispatcher.tell teller (hearsOf running) o (some callback) d) := by
  obtain ⟨label, actions, fails⟩ := callback
  have hheard := hd.hear (i := ⟨o, label⟩) (hmark label)
  refine ends_record_bind (Ends.bind ((ha.performInner hrunning hheard hobeys).mono ?_))
  rintro r v ⟨rfl, hv⟩
  cases fails <;> exact hv

lemma agrees_callWithin (hrunning : ∀ entry ∈ running, entry.2 = id) (depth : Nat) :
    Agrees running id (callWithin depth) (tellWithin (hearsOf running) depth) := by
  induction depth with
  | zero => exact fun o l d w hd _ => hd.record rfl
  | succ depth ih =>
    intro o l d w hd hl
    cases l with
    | none => cases o <;> exact hd
    | some callback =>
      cases o with
      | event name args =>
        exact ends_getSession_bind (ih.performCallback hrunning hd hl fun label => if_pos rfl)
      | method name params =>
        exact ends_getSession_bind (ih.performCallback hrunning hd hl fun label => if_pos rfl)

/-- Whatever was registered before, and whatever listeners add, fire and get wrong meanwhile: whoever was a listener
when a call for an occasion started is told, once for each time that it was registered, and counted; in a session
in which no listener fails the same are told, and the same are listeners afterwards. -/
theorem Session.ends_fire_of_history (depth : Nat) (hrunning : ∀ entry ∈ running, entry.2 = id)
    (hw : w.Mirrors running id d) {history : List Action} (hhistory : actionsObey SessionAction.isDispatching history)
    {name : Json} (hname : name.key = .ok o.topic.name) :
    let call := callWithin (depth + 1)
    let teller := tellWithin (hearsOf running) (depth + 1)
    Ends (performInner call history) w fun r u => r = .ok () ∧ ∃ d₁, u.Mirrors running id d₁ ∧
      d₁ = history.foldl (fun d a => d.act teller (hearsOf running) a) d ∧
      Tells o d₁ (d₁.fire teller o) ∧
      Ends (Session.fire call id name o) u (fun r v =>
        r = .ok (d₁.audience o.topic).length ∧ v.Mirrors running id (d₁.fire teller o)) ∧
      Ends (Session.fire call id name o) (u.calm id) fun r v =>
        r = .ok (d₁.audience o.topic).length ∧ v.Mirrors running id (d₁.fire teller o).calm := by
  intro call teller
  have ha : Agrees running id call teller := agrees_callWithin hrunning (depth + 1)
  refine (ha.performInner hrunning hw hhistory).mono ?_
  rintro r u ⟨rfl, hu⟩
  refine ⟨rfl, _, hu, rfl, tells_fire _ depth o _, ends_fire ha hu hname, (ends_fire ha hu.calm hname).mono ?_⟩
  rintro r v ⟨rfl, hv⟩
  rw [audience_calm, List.length_map]
  rw [← calm_fire (isCalm_tellWithin _ _)] at hv
  exact ⟨rfl, hv⟩

/-- A listener that fails adds another one meanwhile, and fires something else; another of the same name is for
methods. -/
theorem Session.ends_fire_of_history_fails :
    let late : Callback := .mk "late" [] none
    let busy : Callback := .mk "busy" [.session .null (.onEvent "saved" (some late)),
      .session .null (.fireEvent "closed" [])] (some "failed")
    let calm : Callback := .mk "calm" [] none
    let history : List Action := [.session .null (.onEvent "saved" (some busy)),
      .session .null (.onMethod "saved" (some calm)), .session .null (.onEvent "closed" (some calm)),
      .session .null (.onEvent "saved" (some calm)), .session .null (.onEvent "saved" (some busy))]
    let running : List (Json × SessionId) := [("server", 0)]
    let call := callWithin nestingLimit
    let teller := tellWithin (hearsOf running) nestingLimit
    let o : Occasion := .event (.text "saved") []
    Ends (performInner call history) (.serving "server") fun r u => r = .ok () ∧ ∃ d₁, u.Mirrors running 0 d₁ ∧
      d₁ = history.foldl (fun d a => d.act teller (hearsOf running) a) {} ∧
      Tells o d₁ (d₁.fire teller o) ∧
      Ends (Session.fire call 0 "saved" o) u (fun r v =>
        r = .ok (d₁.audience o.topic).length ∧ v.Mirrors running 0 (d₁.fire teller o)) ∧
      Ends (Session.fire call 0 "saved" o) (u.calm 0) fun r v =>
        r = .ok (d₁.audience o.topic).length ∧ v.Mirrors running 0 (d₁.fire teller o).calm := by
  intro late busy calm history running call teller o
  have hrunning : ∀ entry ∈ running, entry.2 = 0 := fun entry he => List.mem_singleton.mp he ▸ rfl
  have hw : (World.serving "server").Mirrors running 0 {} :=
    ⟨rfl, Nat.zero_lt_one, rfl, rfl, rfl, fun r hr => absurd hr List.not_mem_nil⟩
  have hhistory : actionsObey SessionAction.isDispatching history := by decide
  exact Session.ends_fire_of_history 199 hrunning hw hhistory rfl

end LanguageClient
