import LanguageClient.Proofs.Registry.Launching
import LanguageClient.Proofs.Registry.Strides

/-!
Treading. Whatever a host asks of its registry and of the features, and whatever it does with its sessions
in accord with a conduct, every session strides on.
-/

namespace LanguageClient

open Act World

variable {c : Conduct} {call : Caller}

/-- Whether a host may do something where registry and features are at its disposal too. -/
def Conduct.permits (c : Conduct) : Action → Bool
  | .session _ action => c.host action && action.callbacksObey c.callback
  | _ => true

/-- Whether an action may start servers. -/
def Action.starts : Action → Bool
  | .registry (.start _ _) | .feature (.openDocument _) => true
  | _ => false

lemma Act.carries_modify {P : World → Prop} {f : World → World} (h : ∀ w, Alike w (f w)) :
    Within (Carries c) P (modify f) :=
  within_modify fun w _ => (h w).carries

/-- What an action answers makes no difference. -/
lemma Act.Within.carries_answers {α : Type} {a : Act α} {f : α → Answer} {P : World → Prop}
    (h : Within (Carries c) P a) : Within (Carries c) P (do return f (← a)) :=
  h.bind_any fun _ => within_pure _

/-! What does not touch sessions -/

lemma Schedule.carries_setRunning {P : World → Prop} (b : Bool) : Within (Carries c) P (Schedule.setRunning b) :=
  carries_modify fun _ => ⟨rfl, rfl, fun _ => rfl⟩

lemma Schedule.carries_isRunning : Within (Carries c) (Orderly c) Schedule.isRunning :=
  within_get_bind fun _ _ => within_pure _

lemma Schedule.carries_stop (timeout : Json) : Within (Carries c) (Orderly c) (Schedule.stop timeout) :=
  ⟨fun w hw => ((goes_stop timeout).after w hw.lawful).carries⟩

lemma Application.carries_setLogging {P : World → Prop} (setup : Logging) : Within (Carries c) P (Application.setLogging setup) :=
  carries_modify fun _ => ⟨rfl, rfl, fun _ => rfl⟩

lemma Application.carries_logging : Within (Carries c) (Orderly c) Application.logging := by
  refine within_get_bind fun w _ => ?_
  split <;> exact within_pure _

/-! The registry -/

namespace Registry

/-- A round through some sessions, and those of them that stay. Each has its tick, whatever came of the
ticks before, and is removed if it is over after that. -/
inductive Turns (call : Caller) :
    List (Json × SessionId) → List (Json × SessionId) → World → World → Prop where
  | done (w : World) : Turns call [] [] w w
  | ended {name id rest stay w v x} (gone : (((Session.tick call id).after w).session id).status = .terminated)
    (removed : Alike (remove name id ((Session.tick call id).after w)) v) (turns : Turns call rest stay v x) :
    Turns call ((name, id) :: rest) stay w x
  | goesOn {name id rest stay w v x}
    (live : (((Session.tick call id).after w).session id).status ≠ .terminated)
    (same : Alike ((Session.tick call id).after w) v) (turns : Turns call rest stay v x) :
    Turns call ((name, id) :: rest) ((name, id) :: stay) w x

/-- Nothing that a tick raises keeps the others from theirs. -/
lemma turns_tickEach (entries : List (Json × SessionId)) (w : World) :
    Ends (tickEach call entries) w fun result x => result = .ok () ∧ ∃ stay, Turns call entries stay w x := by
  induction entries generalizing w with
  | nil => exact ends_pure ⟨rfl, [], .done w⟩
  | cons entry rest ih =>
    obtain ⟨name, id⟩ := entry
    obtain ⟨u, hu⟩ : ∃ u, u = (Session.tick call id).after w := ⟨_, rfl⟩
    have hnext : ∀ v, Alike u v → Ends (do
        if (← getSession id).status = .terminated then
          modify (remove name id)
          log .client Level.debug ("[" ++ name.display ++ "] Removed from running servers")
        tickEach call rest) v fun result x =>
          result = .ok () ∧ ∃ stay, Turns call ((name, id) :: rest) stay w x := fun v huv => by
      have hsession : v.session id = u.session id := by rw [session, session, huv.sessions]
      refine ends_getSession_bind ?_
      split
      next hover =>
        refine Ends.bind ?_
        change Next _ _ (.ok ()) (remove name id v)
        refine next_ok ((isRemark_log _ _ _).bind fun y hy => (ih y).mono ?_)
        rintro result x ⟨rfl, stay, hturns⟩
        have hremoved : Alike (remove name id u) (remove name id v) :=
          ⟨huv.sessions, congrArg (List.filter _) huv.running, huv.stories⟩
        exact ⟨rfl, stay, .ended (hu ▸ hsession ▸ hover) (hu ▸ hremoved.trans hy) hturns⟩
      next hlive =>
        refine (ih v).mono ?_
        rintro result x ⟨rfl, stay, hturns⟩
        exact ⟨rfl, (name, id) :: stay, .goesOn (hu ▸ hsession ▸ hlive) (hu ▸ huv) hturns⟩
    refine Ends.attempt_bind (Ends.mono (Q := fun _ v => v = u) hu.symm ?_)
    rintro result _ rfl
    cases result with
    | ok _ => exact hnext _ (.refl _)
    | error f => exact (isRemark_logFault _ _ _).bind hnext

lemma carries_active (fileName : Json) : Within (Carries c) (Orderly c) (active fileName) :=
  within_get_bind fun _ _ => within_check _

lemma carries_addServer (config : Json) : Within (Carries c) (Orderly c) (addServer config) :=
  within_check_bind fun _ _ => within_check_bind fun _ _ => carries_modify fun _ => ⟨rfl, rfl, fun _ => rfl⟩

lemma carries_remove (name : Json) (id : SessionId) (w : World) : w.Carries c (remove name id w) where
  length := rfl
  running := List.filter_sublist
  strides _ := .refl

/-- A session whose server could be launched runs. -/
lemma treads_append {id : SessionId} {w : World} (name : Json) (hid : id < w.sessions.length) :
    w.Treads c { w with running := w.running ++ [(name, id)] } where
  length := Nat.le_refl _
  running entry he := by
    refine (List.mem_append.mp he).imp_right fun he => ?_
    obtain rfl := List.mem_singleton.mp he
    exact hid
  strides _ := .refl

variable [c.Welcomes] {entries stay : List (Json × SessionId)} {w x : World}

lemma Turns.carries (hc : Abides c call) (h : Turns call entries stay w x) (hw : w.Orderly c)
    (hlt : ∀ entry ∈ entries, entry.2 < w.sessions.length) : w.Carries c x := by
  induction h with
  | done w => exact Course.refl w
  | @ended name id rest stay w v x gone removed turns ih =>
    obtain ⟨hid, hrest⟩ := List.forall_mem_cons.mp hlt
    have hwv : w.Carries c v := Course.trans (Course.trans ((Session.carries_tick hc).after w ⟨hw, hid⟩)
      (carries_remove name id _)) removed.carries
    exact Course.trans hwv (ih (hwv.treads.orderly hw) fun e he => hwv.length ▸ hrest e he)
  | @goesOn name id rest stay w v x live same turns ih =>
    obtain ⟨hid, hrest⟩ := List.forall_mem_cons.mp hlt
    have hwv : w.Carries c v := Course.trans ((Session.carries_tick hc).after w ⟨hw, hid⟩) same.carries
    exact Course.trans hwv (ih (hwv.treads.orderly hw) fun e he => hwv.length ▸ hrest e he)

/-- After a round those run that stay, and those that were not to turn. -/
lemma Turns.running_eq (hc : Abides c call) (h : Turns call entries stay w x) (hw : w.Orderly c)
    (hlt : ∀ entry ∈ entries, entry.2 < w.sessions.length) {before : List (Json × SessionId)}
    (hr : w.running = before ++ entries) (hnames : (w.running.map (·.1.key?)).Nodup) :
    x.running = before ++ stay := by
  induction h generalizing before with
  | done w => exact hr
  | @ended name id rest stay w v x gone removed turns ih =>
    obtain ⟨hid, hrest⟩ := List.forall_mem_cons.mp hlt
    have hmoves : Moves c .host id [] [] w ((Session.tick call id).after w) :=
      (Session.ends_tick hc (Level.room_host c .tick) ⟨hw.lawful, hid⟩).1
    have hwv : w.Carries c v := Course.trans (Course.trans hmoves.carries (carries_remove name id _)) removed.carries
    have hrunning : v.running = before ++ rest := by
      rw [removed.running, remove, hmoves.running, hr]
      rw [hr, List.map_append, List.map_cons] at hnames
      have hnot : ∀ entry ∈ before ++ rest, entry.1.key? ≠ name.key? := fun entry he hkey => by
        have hnodup := List.perm_middle.nodup_iff.mp hnames
        refine (List.nodup_cons.mp hnodup).1 ?_
        rw [← List.map_append]
        exact List.mem_map.mpr ⟨entry, he, hkey⟩
      rw [List.filter_append, List.filter_cons_of_neg (by simp), ← List.filter_append,
        List.filter_eq_self]
      intro entry he
      simp [hnot entry he]
    refine ih (hwv.treads.orderly hw) (fun e he => hwv.length ▸ hrest e he) hrunning ?_
    exact (hwv.running.map _).nodup hnames
  | @goesOn name id rest stay w v x live same turns ih =>
    obtain ⟨hid, hrest⟩ := List.forall_mem_cons.mp hlt
    have hmoves : Moves c .host id [] [] w ((Session.tick call id).after w) :=
      (Session.ends_tick hc (Level.room_host c .tick) ⟨hw.lawful, hid⟩).1
    have hwv : w.Carries c v := Course.trans hmoves.carries same.carries
    have hrunning : v.running = w.running := same.running.trans hmoves.running
    have hnext : v.running = (before ++ [(name, id)]) ++ rest := by
      rw [hrunning, hr, List.append_assoc]
      rfl
    rw [ih (hwv.treads.orderly hw) (fun e he => hwv.length ▸ hrest e he) hnext (hrunning ▸ hnames),
      List.append_assoc]
    rfl

lemma carries_process (hc : Abides c call) : Within (Carries c) (Orderly c) (process call) := by
  refine within_get_bind fun w hw => ?_
  split
  next => exact within_throw _
  next =>
    refine within_of_ends fun v hv => (turns_tickEach w.running v).mono ?_
    rintro result x ⟨-, stay, hturns⟩
    rw [show v = w from hv] at hturns ⊢
    exact hturns.carries hc hw hw.lawful.running

lemma carries_shutdownEach (hc : Abides c call) (timeout : Json) (entries : List (Json × SessionId)) :
    Within (Carries c) (HostsAll c (entries.map (·.2))) (shutdownEach call timeout entries) := by
  induction entries with
  | nil => exact within_pure _
  | cons entry rest ih =>
    refine Within.bind_of (fun w hw => ?_) fun _ => ih
    obtain ⟨hid, hrest⟩ := List.forall_mem_cons.mp hw.lt
    have hcarries := (Session.carries_shutdown hc timeout).after w ⟨hw.orderly, hid⟩
    exact ⟨hcarries, hcarries.treads.orderly hw.orderly, fun other ho => hcarries.length ▸ hrest other ho⟩

lemma carries_shutdown (hc : Abides c call) (timeout : Json) :
    Within (Carries c) (Orderly c) (shutdown call timeout) := by
  refine within_get_bind fun w hw => Within.bind_of (Q := HostsAll c (w.running.map (·.2))) (fun v hv => ?_) fun _ =>
    carries_shutdownEach hc timeout w.running
  subst hv
  have hcleared : v.Carries c { v with running := [] } := ⟨rfl, List.nil_sublist _, fun _ => .refl⟩
  refine ⟨hcleared, hcleared.treads.orderly hw, fun id hid => ?_⟩
  obtain ⟨entry, he, rfl⟩ := List.mem_map.mp hid
  exact hw.lawful.running entry he

/-- The listeners of every session do what they may. -/
lemma featureListeners_obey (config : Fields) :
    ∀ l ∈ featureListeners.all, l.obeys c.callback config := by
  intro l hl
  rcases List.mem_cons.mp hl with rfl | hl
  · exact fun _ => Conduct.Welcomes.settings _
  · rcases List.mem_cons.mp hl with rfl | hl
    · trivial
    · obtain rfl := List.mem_singleton.mp hl
      trivial

lemma treads_addSession {s : Session} {config : Json} (hs : Session.ofConfig config = .ok s) (w : World) :
    w.Treads c { w with sessions := w.sessions ++ [{ s with listeners := featureListeners }] } where
  length := by
    rw [List.length_append]
    exact Nat.le_add_right _ _
  running _ h := .inl h
  strides id := by
    obtain ⟨t, ht⟩ : ∃ t, t = { s with listeners := featureListeners } := ⟨_, rfl⟩
    obtain ⟨v, hv⟩ : ∃ v : World, v = { w with sessions := w.sessions ++ [t] } := ⟨_, rfl⟩
    have hsessions : v.sessions = w.sessions ++ [t] := by rw [hv]
    have hstory : v.story id = w.story id := by rw [hv]; rfl
    rw [← ht, ← hv, position, position, hstory]
    rcases session_append_cases hsessions id with ⟨-, hsame⟩ | ⟨rfl, hnew⟩ | hle
    · rw [hsame]
    · rw [hnew, session_eq_default (Nat.le_refl _), ht, blank_of_ofConfig hs]
      exact .single (.born _ (featureListeners_obey _))
    · have hlt : w.sessions.length ≤ id := by
        rw [hsessions, List.length_append] at hle
        exact Nat.le_of_succ_le hle
      rw [session_eq_default hle, session_eq_default hlt]

lemma treads_launch (name : Json) (config : Fields) (project : Json) :
    Within (Treads c) (Orderly c) (launch name config project) := by
  refine Within.bind ⟨fun w hw => ((isRemark_log _ _ _).carries.after w hw).treads⟩ fun _ => ?_
  refine within_check_bind fun s hs => within_of_ends fun w hw => Ends.bind ?_
  obtain ⟨u, hu⟩ : ∃ u : World, u =
      { w with sessions := w.sessions ++ [{ s with listeners := featureListeners }] } := ⟨_, rfl⟩
  change Next _ _ (.ok w.sessions.length) { w with sessions := w.sessions ++ [_] }
  rw [← hu]
  have hid : w.sessions.length < u.sessions.length := by
    rw [hu, List.length_append]
    exact Nat.lt_succ_self _
  obtain ⟨x, hx⟩ : ∃ x : World, x = u.record (.starting s.title) := ⟨_, rfl⟩
  have hux : Alike u x := hx ▸ alike_record fun _ => rfl
  have hwx : w.Treads c x := Course.trans (hu ▸ treads_addSession hs w) hux.carries.treads
  refine next_ok (ends_record_bind ?_)
  rw [← hx]
  refine ends_check_bind (fun root hroot => ?_) fun f _ => hwx
  have hready : x.Ready c w.sessions.length := ⟨(hwx.orderly hw).lawful, hux.sessions ▸ hid⟩
  refine Ends.attempt_bind (Ends.mono (ends_of_within
    (Session.moves_handshake (Conduct.Welcomes.opens root) rfl) hready) ?_)
  rintro result y hy
  have hwy : w.Treads c y := Course.trans hwx hy.carries.treads
  split
  next =>
    refine Ends.bind ?_
    change Next _ _ (.ok ()) { y with running := y.running ++ [_] }
    exact next_ok (ends_pure (Course.trans hwy (treads_append name (hy.length ▸ hready.lt))))
  next => exact (isRemark_log _ _ _).bind fun z hz => ends_pure (Course.trans hwy hz.carries.treads)
  next => exact ends_throw hwy

lemma treads_startEach (fileName project : Json) (servers : List (Json × Fields)) :
    Within (Treads c) (Orderly c) (startEach fileName project servers) := by
  induction servers with
  | nil => exact within_pure _
  | cons entry rest ih =>
    refine within_check_bind fun patterns _ => within_check_bind fun isFor _ => within_get_bind fun w hw => ?_
    split
    next => exact ih.mono fun _ hv => hv ▸ hw
    next =>
      refine (Within.bind (treads_launch _ _ _) fun started => ?_).mono fun _ hv => hv ▸ hw
      cases started with
      | some id => exact ih.bind_any fun _ => within_pure _
      | none => exact ih

lemma treads_start (fileName project : Json) : Within (Treads c) (Orderly c) (start fileName project) :=
  within_get_bind fun w hw => (treads_startEach fileName project w.servers).mono fun _ hv => hv ▸ hw

end Registry

section

variable [c.Welcomes]

lemma Features.treads_openDocument (doc : Json) : Within (Treads c) (Orderly c) (openDocument doc) := by
  refine within_check_bind fun fileName _ => within_get_bind fun w hw => ?_
  refine (Within.bind (Registry.treads_start _ _) fun _ => ?_).mono fun _ hv => hv ▸ hw
  exact ⟨fun v hv => ((carries_sessionsFor_bind (carries_openIn doc)).after v hv).treads⟩

lemma carries_performFeature {a : FeatureAction} (ha : (Action.feature a).starts = false) :
    Within (Carries c) (Orderly c) (performFeature a) := by
  cases a with
  | openDocument doc => cases ha
  | closeDocument doc => exact Features.carries_sessionsFor_bind (Features.carries_closeIn doc)
  | requestCompletion doc line col => exact Features.carries_requestCompletion doc line col
  | goTo doc line col implementation => exact Features.carries_goTo doc line col _
  | textInput doc selection | complete doc selection => exact Features.carries_textInput doc selection
  | goToDefinition doc selection | goToImplementation doc selection =>
    exact Features.carries_goToSelected _ doc selection

lemma carries_performRegistry (hc : Abides c call) {a : RegistryAction}
    (ha : (Action.registry a).starts = false) : Within (Carries c) (Orderly c) (performRegistry call a) := by
  cases a with
  | addServer config => exact (Registry.carries_addServer config).carries_answers
  | servers => exact within_get_bind fun w _ => within_pure _
  | active fileName => exact (Registry.carries_active fileName).bind fun _ => within_pure _
  | start fileName project => cases ha
  | process => exact (Registry.carries_process hc).carries_answers
  | shutdown timeout => exact (Registry.carries_shutdown hc timeout).carries_answers
  | breakProcess message =>
    exact Act.Within.carries_answers (carries_modify fun _ => ⟨rfl, rfl, fun _ => rfl⟩)

/-! The scheduler and the application -/

namespace Schedule

lemma carries_runOnce (hc : Abides c call) : Within (Carries c) (Orderly c) (runOnce call) := by
  refine Within.bind (Registry.carries_process hc).attempt fun result => ?_
  cases result with
  | ok _ => exact within_pure ()
  | error f => exact (isRemark_logFault _ _ _).carries

lemma carries_start (hc : Abides c call) : Within (Carries c) (Orderly c) (start call) := by
  refine carries_isRunning.bind fun b => ?_
  split
  next =>
    exact (carries_setRunning _).bind fun _ => (isRemark_log _ _ _).carries.bind fun _ => carries_runOnce hc
  next => exact within_pure ()

end Schedule

lemma carries_performScheduler (hc : Abides c call) (a : SchedulerAction) :
    Within (Carries c) (Orderly c) (performScheduler call a) := by
  cases a with
  | interval =>
    have hinterval : Within (Carries c) (Orderly c) Schedule.interval :=
      within_get_bind fun w _ => within_pure _
    exact hinterval.bind fun _ => within_pure _
  | runOnce => exact (Schedule.carries_runOnce hc).carries_answers
  | isRunning => exact Schedule.carries_isRunning.carries_answers
  | start => exact (Schedule.carries_start hc).bind fun _ => Schedule.carries_isRunning.carries_answers
  | stop => exact (Schedule.carries_stop _).bind fun _ => Schedule.carries_isRunning.carries_answers

namespace Application

lemma carries_setUpLogging : Within (Carries c) (Orderly c) setUpLogging := by
  refine within_get_bind fun w hw => (carries_logging.bind fun setup => ?_).mono fun _ hv => hv ▸ hw
  exact (carries_setLogging _).bind fun _ => within_check _

lemma carries_tearDownLogging : Within (Carries c) (Orderly c) tearDownLogging :=
  carries_logging.bind fun _ => carries_setLogging _

lemma carries_start (hc : Abides c call) : Within (Carries c) (Orderly c) (start call) :=
  carries_setUpLogging.bind fun _ => (isRemark_log _ _ _).carries.bind fun _ => Schedule.carries_start hc

lemma carries_shutdown (hc : Abides c call) (timeout : Json) :
    Within (Carries c) (Orderly c) (shutdown call timeout) := by
  refine (isRemark_log _ _ _).carries.bind fun _ => (Schedule.carries_stop _).bind fun _ => ?_
  exact (Registry.carries_shutdown hc timeout).bind fun _ => carries_tearDownLogging

end Application

lemma carries_performApp (hc : Abides c call) (a : AppAction) :
    Within (Carries c) (Orderly c) (performApp call a) := by
  cases a with
  | start => exact (Application.carries_start hc).bind fun _ => Schedule.carries_isRunning.carries_answers
  | shutdown timeout => exact (Application.carries_shutdown hc timeout).carries_answers
  | setUpLogging => exact Application.carries_setUpLogging.carries_answers
  | tearDownLogging => exact Application.carries_tearDownLogging.carries_answers

/-! Actions -/

/-- What starts no servers has every session stride on, and adds none. -/
lemma carries_act {a : Action} (h : c.permits a) (ha : a.starts = false) :
    Within (Carries c) (Orderly c) (act a) := by
  have hc : Abides c (callWithin nestingLimit) := abides_callWithin nestingLimit
  have hadmitted : c.admits .host a → Within (Carries c) (Orderly c) (act a) := fun h =>
    ⟨fun w hw => ((goes_act h).after w hw.lawful).carries⟩
  cases a with
  | registry action => exact carries_performRegistry hc ha
  | feature action => exact (carries_performFeature ha).carries_answers
  | scheduler action => exact carries_performScheduler hc action
  | app action => exact carries_performApp hc action
  | session server action => exact hadmitted h
  | _ => exact hadmitted rfl

lemma treads_act {a : Action} (h : c.permits a) : Within (Treads c) (Orderly c) (act a) := by
  cases hs : a.starts with
  | false => exact ⟨fun w hw => ((carries_act h hs).after w hw).treads⟩
  | true =>
    cases a with
    | registry action =>
      cases action with
      | start fileName project =>
        exact (Registry.treads_start _ _).bind fun _ => within_get_bind fun _ _ => within_pure _
      | _ => cases hs
    | feature action =>
      cases action with
      | openDocument doc => exact (Features.treads_openDocument doc).bind_any fun _ => within_pure _
      | _ => cases hs
    | _ => cases hs

/-- The last action of a host, after which its scheduler is stopped. -/
lemma treads_actLast {a : Action} (h : c.permits a) : Within (Treads c) (Orderly c) (actLast a) :=
  (treads_act h).attempt.bind fun result => Within.bind
    ⟨fun w hw => ((Schedule.carries_stop defaultTimeout).after w hw).treads⟩ fun _ => within_check result

end

end LanguageClient
