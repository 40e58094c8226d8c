import LanguageClient.Performance
import LanguageClient.Proofs.Session.Lifecycle

/-!
Whatever a host does with its clients, and whatever their servers send: each request is answered at
most once, and with nothing but an answer of its own.
-/

namespace LanguageClient

open Act

variable {call : Caller} {id : SessionId}

/-! Operations of a session -/

lemma handler_isPublic_of_host {callback : Option Callback} (h : callbackIsPublic callback) :
    ∀ handler ∈ hostHandler callback, handler.isPublic := by
  intro handler hh
  obtain ⟨c, rfl, rfl⟩ := Option.map_eq_some_iff.mp hh
  exact h

lemma keeps_addListener {f : Listeners Listener → Listeners Listener} {l : Listener}
    (hl : l.isPublic)
    (hf : ∀ ls k, k ∈ (f ls).events.map (·.2) ++ (f ls).methods.map (·.2) →
      k ∈ ls.events.map (·.2) ++ ls.methods.map (·.2) ∨ k = l) :
    Keeps id (updateSession id fun s => { s with listeners := f s.listeners }) := by
  refine keeps_updateSession fun w _ => .aside _ rfl (List.Sublist.refl _) (Nat.le_refl _) rfl
    (List.Subset.refl _) (fun k hk => ?_) rfl
  rcases hf _ k hk with hk | rfl
  · exact .inl hk
  · exact .inr hl

lemma keeps_onEvent (name : Json) {callback : Option Callback} (h : callbackIsPublic callback) :
    Keeps id (onEvent id name callback) := by
  refine within_check_bind fun key _ => ?_
  refine keeps_addListener (f := fun ls => ls.onEvent key (.host callback)) (l := .host callback) h
    fun ls k hk => ?_
  simp only [Listeners.onEvent, List.map_append, List.map_cons, List.map_nil, List.mem_append,
    List.mem_singleton] at hk ⊢
  tauto

lemma keeps_onMethod (name : Json) {callback : Option Callback} (h : callbackIsPublic callback) :
    Keeps id (onMethod id name callback) := by
  refine within_check_bind fun key _ => ?_
  refine keeps_addListener (f := fun ls => ls.onMethod key (.host callback)) (l := .host callback) h
    fun ls k hk => ?_
  simp only [Listeners.onMethod, List.map_append, List.map_cons, List.map_nil, List.mem_append,
    List.mem_singleton] at hk ⊢
  tauto

lemma keeps_logMessage (message level : Json) : Keeps id (logMessage id message level) := by
  unfold logMessage
  split
  next => exact keeps_getSession_bind fun w _ => ⟨fun v _ => World.leads_log v _ _ _ _⟩
  next => exact within_throw _

lemma Act.Within.answerNothing {P : World → Prop} {a : Act Unit} (h : Within World.Leads P a) :
    Within World.Leads P (answerNothing a) :=
  h.bind_any fun _ => within_pure _

lemma Act.Within.answerFlag {P : World → Prop} {a : Act Bool} (h : Within World.Leads P a) :
    Within World.Leads P (answerFlag a) :=
  h.bind_any fun _ => within_pure _

lemma Act.Within.answerCount {P : World → Prop} {a : Act Nat} (h : Within World.Leads P a) :
    Within World.Leads P (answerCount a) :=
  h.bind_any fun _ => within_pure _

lemma keeps_ask {f : Session → Answer} : Keeps id (do return f (← getSession id)) :=
  keeps_getSession_bind fun _ _ => within_pure _

lemma keeps_performSession (hc : LawfulCaller call) {action : SessionAction}
    (h : action.isPublic) : Keeps id (performSession call id action) := by
  cases action
  all_goals try cases h
  case start => exact Session.keeps_start.answerNothing
  case handshake => exact (Session.keeps_handshake _ _ _ h).answerNothing
  case shutdown => exact (Session.keeps_shutdown hc _).answerNothing
  case teardown => exact (Session.keeps_teardown hc _ _).answerNothing
  case tick => exact (Session.keeps_tick hc).answerNothing
  case readMessages => exact Session.keeps_readMessages.answerCount
  case sendNotifications => exact Session.keeps_sendNotifications.answerCount
  case sendRequests => exact Session.keeps_sendRequests.answerCount
  case dispatchResponses => exact (Session.keeps_dispatchResponses hc).answerCount
  case dispatchErrors => exact (Session.keeps_dispatchErrors hc).answerCount
  case dispatchTimeouts => exact (Session.keeps_expire hc .null).answerCount
  case pushNotification => exact (Session.keeps_pushNotification _ _).answerFlag
  case pushRequest =>
    exact (Session.keeps_pushRequest _ _ _ (handler_isPublic_of_host h)).answerFlag
  case openDocument => exact (Session.keeps_openDocument _).answerNothing
  case closeDocument => exact (Session.keeps_closeDocument _).answerNothing
  case changeDocument => exact (Session.keeps_changeDocument _).answerNothing
  case isDocumentOpen => exact within_check_bind fun key _ => keeps_ask
  case complete => exact (Session.keeps_complete _ (handler_isPublic_of_host h)).answerNothing
  case goTo => exact (Session.keeps_goTo _ _ (handler_isPublic_of_host h)).answerNothing
  case supports =>
    exact keeps_getSession_bind fun _ _ => within_check_bind fun _ _ => within_pure _
  case capabilities => exact keeps_ask
  case serverInfo => exact keeps_ask
  case triggers => exact keeps_ask
  case itemKind kind =>
    rw [performSession]
    split
    next => exact within_pure _
    next => exact within_check_bind fun _ _ => within_pure _
  case config => exact keeps_ask
  case phase => exact keeps_ask
  case onEvent => exact (keeps_onEvent _ h).answerNothing
  case onMethod => exact (keeps_onMethod _ h).answerNothing
  case log => exact (keeps_logMessage _ _).answerNothing
  case nextId =>
    refine Within.answerCount (Session.keeps_advance.bind fun _ => ?_)
    exact keeps_getSession_bind fun _ _ => within_pure _
  case expire => exact (Session.keeps_expire hc _).answerCount
  case contains => exact within_check_bind fun _ _ => keeps_ask
  case pending => exact keeps_ask
  case hasMethod => exact within_check_bind fun _ _ => keeps_ask
  case fireEvent => exact (Session.keeps_fireEvent hc _ _).answerCount
  case fireMethod => exact (Session.keeps_fireMethod hc _ _).answerCount
  case breakTick message =>
    have hb : Keeps id (updateSession id fun s => { s with fault := some message }) :=
      keeps_updateSession_of_eq fun _ _ => rfl
    exact hb.answerNothing

lemma keeps_performNoted (hc : LawfulCaller call) {action : SessionAction} (h : action.isPublic) :
    Keeps id (performNoted call id action) := by
  refine keeps_getSession_bind fun w _ => (keeps_performSession hc h).attempt.bind fun result => ?_
  exact keeps_getSession_bind fun v _ => (within_note _).bind fun _ => within_check result

/-! Links -/

lemma keeps_updateLink (f : Link → Link) : Keeps id (updateLink id f) :=
  keeps_updateSession_of_eq fun _ _ => rfl

lemma keeps_writeMessages (messages : List Json) : Keeps id (writeMessages id messages) := by
  induction messages with
  | nil => exact within_pure ()
  | cons m rest ih => exact within_check_bind fun _ _ => (keeps_updateLink _).bind fun _ => ih

lemma keeps_performLink (action : LinkAction) : Keeps id (performLink id action) := by
  cases action with
  | write messages => exact keeps_writeMessages messages
  | writeBytes data => exact within_check_bind fun _ _ => keeps_updateLink _
  | complain | setAlive | setBroken | setCode => exact keeps_updateLink _

/-! Actions -/

section

variable {α : Type} {R : World → World → Prop} [Course R] {P : World → Prop}
  {Q : SessionId → World → Prop} {server : Json} {f : SessionId → Act α}

lemma within_linked_bind (hq : ∀ w id, P w → id < w.sessions.length → Q id w)
    (hf : ∀ id, Within R (Q id) (f id)) : Within R P (linked server >>= f) := by
  rw [linked, bind_assoc]
  refine within_get_bind fun w hw => ?_
  split
  next id h =>
    have hid : id < w.sessions.length :=
      List.mem_range.mp (List.mem_reverse.mp (List.mem_of_find?_eq_some h))
    rw [pure_bind]
    exact (hf id).mono fun v hv => hv ▸ hq w id hw hid
  next => exact within_throw _

lemma within_runningNamed_bind (hq : ∀ w, P w → ∀ entry ∈ w.running, Q entry.2 w)
    (hf : ∀ id, Within R (Q id) (f id)) : Within R P (runningNamed server >>= f) := by
  rw [runningNamed, bind_assoc]
  refine within_get_bind fun w hw => ?_
  dsimp only
  split
  next name id h =>
    have hid : (name, id) ∈ w.running := by
      split at h
      next => exact List.mem_of_head? h
      next => exact List.mem_of_find?_eq_some h
    rw [pure_bind]
    exact (hf id).mono fun v hv => hv ▸ hq w hw _ hid
  next => exact within_throw _

end

/-- Whatever is done at the other end of a link, it is the link that changes. -/
lemma within_performLink {R : World → World → Prop} [Course R] {P : World → Prop} [Stable R P]
    (hlink : ∀ f, Within R P (updateLink id f)) (action : LinkAction) : Within R P (performLink id action) := by
  have hwrite : ∀ messages, Within R P (writeMessages id messages) := by
    intro messages
    induction messages with
    | nil => exact within_pure ()
    | cons m rest ih => exact within_check_bind fun _ _ => (hlink _).bind fun _ => ih
  cases action with
  | write messages => exact hwrite messages
  | writeBytes data => exact within_check_bind fun _ _ => hlink _
  | complain | setAlive | setBroken | setCode => exact hlink _

section

variable {α : Type} {w : World} {Q : Except Fault α → World → Prop} {server : Json} {f : SessionId → Act α}

lemma ends_linked_bind (hf : ∀ id, Ends (f id) w Q) (herror : Q (.error .noLink) w) :
    Ends (linked server >>= f) w Q := by
  rw [linked, bind_assoc]
  refine ends_get_bind ?_
  split
  next id _ => exact hf id
  next => exact herror

lemma ends_runningNamed_bind (hf : ∀ entry ∈ w.running, Ends (f entry.2) w Q) (herror : Q (.error .noServer) w) :
    Ends (runningNamed server >>= f) w Q := by
  rw [runningNamed, bind_assoc]
  refine ends_get_bind ?_
  dsimp only
  split
  next name id h =>
    refine hf (name, id) ?_
    split at h
    next => exact List.mem_of_head? h
    next => exact List.mem_of_find?_eq_some h
  next => exact herror

end

lemma within_perform (hc : LawfulCaller call) {action : Action} (h : action.isPublic) :
    Within World.Leads World.Sound (perform call action) := by
  have hset : ∀ {f : World → World}, (∀ w, (f w).sessions = w.sessions) →
      (∀ w, (f w).events = w.events) → (∀ w, (f w).running = w.running) →
      Within World.Leads World.Sound (answerNothing (modify f)) := fun hs he hr =>
    (within_modify fun w _ => World.leads_of_fields (hs w) (he w) (hr w)).answerNothing
  cases action
  all_goals try cases h
  case advance =>
    exact within_check_bind fun x _ => hset (fun _ => rfl) (fun _ => rfl) fun _ => rfl
  case failLaunches => exact hset (fun _ => rfl) (fun _ => rfl) fun _ => rfl
  case setFocus => exact hset (fun _ => rfl) (fun _ => rfl) fun _ => rfl
  case setProject => exact hset (fun _ => rfl) (fun _ => rfl) fun _ => rfl
  case link action => exact within_linked_bind (fun _ _ hw hid => ⟨hw, hid⟩) fun id =>
    (keeps_performLink action).answerNothing
  case session action =>
    exact within_runningNamed_bind (fun _ hw entry he => ⟨hw, hw.running entry he⟩) fun id =>
      keeps_performNoted hc h

/-! Callbacks -/

lemma within_performInner (hc : LawfulCaller call) {actions : List Action}
    (h : actionsArePublic actions) : Within World.Leads World.Sound (performInner call actions) := by
  induction actions with
  | nil => exact within_pure ()
  | cons a rest ih =>
    rw [actionsArePublic, Bool.and_eq_true] at h
    refine Within.bind (within_perform hc h.1).attempt fun result => ?_
    exact (within_record fun _ => rfl).bind fun _ => ih h.2

lemma within_performCallback (hc : LawfulCaller call) {callback : Callback} {P : World → Prop}
    {mark : Json → Event} (h : callback.isPublic)
    (hm : ∀ w, P w → w.Leads (w.record (mark callback.label)) ∧ w.Sound) :
    Within World.Leads P (performCallback call mark callback) := by
  obtain ⟨label, actions, fails⟩ := callback
  refine Within.bind_of (Q := World.Sound) (fun w hw => ?_) fun _ => ?_
  · exact ⟨(hm w hw).1, Stable.step (hm w hw).1 (hm w hw).2⟩
  · refine (within_performInner hc h).bind fun _ => ?_
    cases fails with
    | some message => exact within_throw _
    | none => exact within_pure ()

lemma within_performListener (hc : LawfulCaller call) {listener : Listener} {mark : Json → Event}
    (h : listener.isPublic) (hm : ∀ label, (mark label).IsRemark) (params : Json) :
    Keeps id (performListener call id mark params listener) := by
  cases listener with
  | host callback =>
    cases callback with
    | some callback =>
      exact within_performCallback hc h fun w hw => ⟨World.leads_record (hm _) w, hw.sound⟩
    | none => exact within_throw _
  | logMessage | ready => cases h

lemma World.Owes.leads_answered {w : World} {t : Nat} {callback : Callback} {response : Json}
    (h : w.Owes id t (.host callback) response) (title : Text) :
    w.Leads (w.record (.answered id t callback.label title response)) := by
  obtain ⟨g, hacc, hg⟩ := h.accepted
  exact World.leads_answered (.answered t response g callback hacc hg h.resolved h.once) h.resolved

lemma lawfulCaller_performCall (hc : LawfulCaller call) : LawfulCaller (performCall call) where
  answer handler id t response hp := by
    refine within_getSession_bind fun w hw => ?_
    refine Within.mono (Q := World.Owes id t handler response) ?_ fun v hv => hv ▸ hw
    cases handler with
    | host callback =>
      exact within_performCallback hc hp fun w hw => ⟨hw.leads_answered _, hw.known.sound⟩
    | opening callback => exact Session.within_openingAnswered hc hp t response
    | completion | goTo => cases hp
  event listener id args hp :=
    keeps_getSession_bind fun w _ => within_performListener hc hp (fun _ _ => rfl) .null
  message listener id params hp :=
    keeps_getSession_bind fun w _ => within_performListener hc hp (fun _ _ => rfl) params

lemma lawfulCaller_callWithin (depth : Nat) : LawfulCaller (callWithin depth) := by
  induction depth with
  | zero =>
    have hfail : ∀ {P : World → Prop} (c : Call), Within World.Leads P (callWithin 0 c) := fun c =>
      Within.bind_any (within_note _) fun _ => within_throw _
    exact ⟨fun _ _ _ _ _ => hfail _, fun _ _ _ _ => hfail _, fun _ _ _ _ => hfail _⟩
  | succ depth ih => exact lawfulCaller_performCall ih

/-! Runs -/

lemma within_isRunning_bind {α : Type} {f : Bool → Act α}
    (hf : ∀ b, Within World.Leads World.Sound (f b)) :
    Within World.Leads World.Sound (Schedule.isRunning >>= f) :=
  Within.bind ⟨fun w _ => Course.refl w⟩ hf

lemma within_stop (timeout : Json) : Within World.Leads World.Sound (Schedule.stop timeout) := by
  have hlast : Within World.Leads World.Sound (do
      if (← get).scheduler.started then
        let _ ← Act.check timeout.limit
        modify fun w => { w with scheduler := { w.scheduler with started := false } }) := by
    refine within_get_bind fun w hw => ?_
    split
    next =>
      refine within_check_bind fun _ _ => ?_
      exact within_modify fun w _ => World.leads_of_fields rfl rfl rfl
    next => exact within_pure ()
  refine within_isRunning_bind fun b => ?_
  split
  next =>
    refine Within.bind (within_modify fun w _ => World.leads_of_fields rfl rfl rfl) fun _ => ?_
    exact (within_log _ _ _).bind fun _ => hlast
  next => exact hlast

lemma within_act {action : Action} (h : action.isPublic) :
    Within World.Leads World.Sound (act action) :=
  within_perform (lawfulCaller_callWithin nestingLimit) h

lemma within_actLast {action : Action} (h : action.isPublic) :
    Within World.Leads World.Sound (actLast action) :=
  (within_act h).attempt.bind fun result => (within_stop _).bind fun _ => within_check result

/-- A world in which nothing has happened yet: its sessions are as their configurations say. -/
structure World.IsNew (w : World) : Prop where
  sessions : ∀ s ∈ w.sessions, ∃ config, Session.ofConfig config = .ok s
  running : ∀ entry ∈ w.running, entry.2 < w.sessions.length
  events : w.events = []

lemma World.IsNew.sound {w : World} (h : w.IsNew) : w.Sound where
  accounts id := by
    have ha : w.account id = .blank := by
      rw [World.account, h.events, World.session, List.getD_eq_getElem?_getD]
      cases hs : w.sessions[id]? with
      | none => rfl
      | some s =>
        obtain ⟨config, hc⟩ := h.sessions s (List.mem_of_getElem? hs)
        exact Session.account_of_ofConfig hc
    exact ha ▸ .blank
  running := h.running

lemma leads_of_mem_outcomes {w : World} (hw : w.Sound) {actions : List Action}
    (ha : actionsArePublic actions) {o : Outcome} (ho : o ∈ outcomes w actions) :
    w.Leads o.world := by
  induction actions generalizing w with
  | nil => cases ho
  | cons a rest ih =>
    rw [actionsArePublic, Bool.and_eq_true] at ha
    cases rest with
    | nil =>
      obtain rfl := List.mem_singleton.mp ho
      exact (within_actLast ha.1).after w hw
    | cons b rest =>
      have hl : w.Leads ((act a).after w) := (within_act ha.1).after w hw
      rcases List.mem_cons.mp ho with rfl | ho
      · exact hl
      · exact Course.trans hl (ih (Stable.step hl hw) ha.2 ho)

lemma sound_of_mem_outcomes {w : World} (hw : w.IsNew) {actions : List Action}
    (ha : actionsArePublic actions) {o : Outcome} (ho : o ∈ outcomes w actions) : o.world.Sound :=
  Stable.step (leads_of_mem_outcomes hw.sound ha ho) hw.sound

/-- In whatever order things happen, and whatever callbacks do: each request of a session is answered
at most once, after it was registered, and with an answer of its own. -/
theorem correlated_of_mem_outcomes {w : World} (hw : w.IsNew) {actions : List Action}
    (ha : actionsArePublic actions) {o : Outcome} (ho : o ∈ outcomes w actions) (id : SessionId) :
    Correlated (dealings id o.world.events) := by
  have hl := leads_of_mem_outcomes hw.sound ha ho
  have hs : o.world.Sound := Stable.step hl hw.sound
  exact (hs.accounts id).correlated

theorem correlated_of_mem_outcomes_reply_twice :
    let opened := Callback.mk "opened" [.session .null .tick] (some "failed")
    let reply := Message.response (.int 1) (.object [])
    let s : Session := { config := [("name", "server")], name := "server" }
    let w : World := { sessions := [s], running := [("server", 0)] }
    let actions : List Action :=
      [.session .null (.handshake .null "editor" "1" (some opened)), .session .null .tick,
        .link .null (.write [reply, reply]), .session .null .tick]
    w.IsNew ∧ actionsArePublic actions ∧ ∃ o ∈ outcomes w actions,
      (∃ d ∈ dealings 0 o.world.events, d.answers 0) ∧ Correlated (dealings 0 o.world.events) := by
  intro opened reply s w actions
  have hw : w.IsNew := by
    refine ⟨fun s' hs => ⟨.object s.config, ?_⟩, by simp [w], rfl⟩
    obtain rfl := List.mem_singleton.mp hs
    rfl
  have ha : actionsArePublic actions := by decide
  have hd : ∃ o ∈ outcomes w actions, ∃ d ∈ dealings 0 o.world.events, d.answers 0 := by
    decide +kernel
  obtain ⟨o, ho, hd⟩ := hd
  exact ⟨hw, ha, o, ho, hd, correlated_of_mem_outcomes hw ha ho 0⟩

end LanguageClient
