import LanguageClient.Proofs.Correlation
import LanguageClient.Proofs.Steps.Lifecycle

/-!
Runs. Whatever a host does in accord with a conduct, each of its sessions takes steps.
-/

namespace LanguageClient

open Act World

variable {c : Conduct} {call : Caller} {ℓ : Level} {id : SessionId}

namespace World

/-- Every session took steps. -/
structure Goes (c : Conduct) (ℓ : Level) (v w : World) : Prop where
  length : w.sessions.length = v.sessions.length
  running : w.running = v.running
  steps : ∀ id K, ℓ.Base K → Steps c id (v.position id K) (w.position id K)

variable {u v w : World}

lemma Moves.goes (h : Moves c ℓ id [] [] v w) : Goes c ℓ v w where
  length := h.length
  running := h.running
  steps other K hK := by
    by_cases ho : other = id
    · subst ho
      exact h.steps K hK
    · exact h.others other ho K hK.areIdle

lemma Goes.moves (h : Goes c .callback v w) : Moves c .callback id [] [] v w where
  length := h.length
  running := h.running
  steps K hK := h.steps id K hK
  others other _ K := h.steps other K

lemma Alike.goes (h : Alike v w) : Goes c ℓ v w :=
  have hm : Moves c ℓ 0 [] [] v w := .of_alike h
  hm.goes

instance : Act.Course (Goes c ℓ) where
  refl w := (Alike.refl w).goes
  trans h g := ⟨g.length.trans h.length, g.running.trans h.running,
    fun id K hK => (h.steps id K hK).trans (g.steps id K hK)⟩

lemma Goes.lawful (h : Goes c ℓ v w) (hv : v.Lawful c) : w.Lawful c where
  sessions id := (h.steps id [] ℓ.base_nil).sound (hv.sessions id)
  running := by
    rw [h.running, h.length]
    exact hv.running

instance : Act.Stable (Goes c ℓ) (Lawful c) := ⟨Goes.lawful⟩

lemma Moves.of_phase {a : SessionAction} {before : Session} {earlier : List Event} (ha : c.may ℓ a)
    (hp : a.isPhase)
    (h : Moves c ℓ id [.phase, .performing a before earlier] [.phase, .performing a before earlier] v w) :
    Moves c ℓ id [.performing a before earlier] [.performing a before earlier] v w where
  length := h.length
  running := h.running
  steps K hK := by
    have hfree : K = [] ∧ c.host a ∨ c.callback a := by
      cases ℓ with
      | host => exact .inl ⟨hK, ha⟩
      | callback => exact .inr ha
    exact .head (.entered hp hfree) ((h.steps K hK).tail .exited)
  others := h.others

end World

/-! Operations of a session -/

lemma room_of_may {a : SessionAction} {before : Session} {earlier : List Event} (ha : c.may ℓ a) :
    ℓ.Room c a [.performing a before earlier] where
  idle := Task.areIdle_singleton rfl
  free K hK := by
    cases ℓ with
    | host => exact .inl (.inr ⟨a, before, earlier, by rw [hK]; rfl⟩)
    | callback => exact .inr (.inr ha)

lemma free_of_may {a : SessionAction} {before : Session} {earlier : List Event} (ha : c.may ℓ a)
    (s : Session) : Session.Free c ℓ [.performing a before earlier] a s := by
  intro K hK
  refine ⟨?_, .inl ((room_of_may ha).free K hK)⟩
  cases ℓ with
  | host =>
    subst hK
    exact .inr (.inl ⟨before, earlier, rfl⟩)
  | callback => exact .inr (.inr ha)

/-- Whoever may answer what is overdue has room for it. -/
lemma moves_expiring {a : SessionAction} {before : Session} {earlier : List Event} {v w : World}
    (ha : c.may ℓ a) (hexpires : a = .dispatchTimeouts ∨ ∃ now, a = .expire now)
    (h : Moves c .callback id [.expiring] [.expiring] v w) :
    Moves c ℓ id [.performing a before earlier] [.performing a before earlier] v w := by
  refine Session.moves_lapsed (fun K hK => ?_) (Task.areIdle_singleton rfl) h
  cases ℓ with
  | host => exact .inl (.inr ⟨a, before, earlier, by rw [hK]; rfl⟩)
  | callback =>
    rcases hexpires with rfl | ⟨now, rfl⟩
    · exact .inr (.inl ha)
    · exact .inr (.inr (.inl ⟨now, ha⟩))

lemma stays_addListener {f : Listeners Listener → Listeners Listener} {l : Listener}
    (hl : ∀ config, l.obeys c.callback config) (hf : ∀ ls, ∀ k ∈ (f ls).all, k ∈ ls.all ∨ k = l) :
    Stays c id [] (updateSession id fun s => { s with listeners := f s.listeners }) :=
  stays_updateSession fun w _ _ => .listened _ fun k hk =>
    (hf (w.session id).listeners k hk).imp_right fun (h : k = l) => h ▸ hl _

lemma stays_onEvent (name : Json) {callback : Option Callback}
    (h : callbackObeys c.callback callback) : Stays c id [] (onEvent id name callback) := by
  refine within_check_bind fun key _ => ?_
  refine stays_addListener (f := fun ls => ls.onEvent key (.host callback)) (l := .host callback)
    (fun _ => h) fun ls k hk => ?_
  simp only [Listeners.all, Listeners.onEvent, List.map_append, List.map_cons, List.map_nil,
    List.mem_append, List.mem_singleton] at hk ⊢
  tauto

lemma stays_onMethod (name : Json) {callback : Option Callback}
    (h : callbackObeys c.callback callback) : Stays c id [] (onMethod id name callback) := by
  refine within_check_bind fun key _ => ?_
  refine stays_addListener (f := fun ls => ls.onMethod key (.host callback)) (l := .host callback)
    (fun _ => h) fun ls k hk => ?_
  simp only [Listeners.all, Listeners.onMethod, List.map_append, List.map_cons, List.map_nil,
    List.mem_append, List.mem_singleton] at hk ⊢
  tauto

lemma stays_logMessage (message level : Json) : Stays c id [] (logMessage id message level) := by
  unfold logMessage
  split
  next => exact stays_getSession_bind fun w _ => (isRemark_logAt _ _ _).within
  next => exact within_throw _

lemma stays_ask {f : Session → Answer} : Stays c id [] (do return f (← getSession id)) :=
  stays_getSession_bind fun _ _ => within_pure _

lemma stays_nextId (ha : c.allows .nextId) : Stays c id [] (nextId id) := by
  refine Within.bind (stays_updateSession fun _ _ _ => .counted ha) fun _ => ?_
  exact stays_getSession_bind fun _ _ => within_pure _

lemma stays_fireEvent (hc : Abides c call) {name : Json} {args : List Json}
    (ha : c.allows (.fireEvent name args)) : Stays c id [] (Session.fireEvent call id name args) := by
  refine within_of_ends fun w hw => ?_
  cases hk : name.key with
  | error f =>
    unfold Session.fireEvent
    rw [hk]
    exact ends_check_bind (fun key h => by cases h) fun f _ => Course.refl w
  | ok key =>
    have hkey : name.key? = some key := by
      unfold Json.key at hk
      split at hk
      next k hk' => exact hk' ▸ congrArg some (Except.ok.inj hk)
      next => cases hk
    refine (Session.ends_fireEvent (L := []) (M := []) hc args hk Task.areIdle_nil hw
      fun u hu => .of_becomes hu fun _ _ => .single (.fired key hkey ha)).mono ?_
    exact fun result v h => h.2.1

variable {P : World → Prop}

lemma Act.Within.answers {α : Type} {a : Act α} {f : α → Answer} {L : List Task}
    (h : Within (Moves c ℓ id L L) P a) : Within (Moves c ℓ id L L) P (do return f (← a)) :=
  h.bind_any fun _ => within_pure _

lemma Act.Ends.answers {α : Type} {a : Act α} {f : α → Answer} {w : World} {Q : World → Prop}
    (h : Ends a w fun _ v => Q v) : Ends (do return f (← a)) w fun _ v => Q v :=
  Ends.bind (h.mono fun result v hv => by cases result <;> exact hv)

/-- Whatever is neither a tick nor a part of one, nor shuts the session down, may be done whatever the
session is in the middle of. -/
lemma stays_performSession (hc : Abides c call) {a : SessionAction} (ha : c.may ℓ a)
    (ho : a.callbacksObey c.callback) (hp : a.isPhase = false) (hr : a.isRound = false)
    (hs : ∀ timeout, a ≠ .shutdown timeout) : Stays c id [] (performSession call id a) := by
  have hall := c.allows_of_may ha
  cases a
  case start => exact Within.answers ⟨fun w hw => (Session.ends_start hw).1⟩
  case handshake => exact (Session.moves_handshake hall ho).answers
  case shutdown timeout => exact (hs timeout rfl).elim
  case teardown => exact Within.answers ⟨fun w hw => (Session.moves_teardown hc _ _ hw).2.1⟩
  case pushNotification => exact (Session.moves_pushNotification hall ho rfl fun _ => rfl).answers
  case pushRequest => exact (Session.moves_pushRequest hall ho rfl fun _ => .host rfl).answers
  case openDocument => exact (Session.moves_openDocument hall).answers
  case closeDocument => exact (Session.moves_closeDocument hall).answers
  case changeDocument => exact (Session.moves_changeDocument hall).answers
  case isDocumentOpen => exact within_check_bind fun key _ => stays_ask
  case complete => exact (Session.moves_complete hall ho).answers
  case goTo => exact (Session.moves_goTo hall ho).answers
  case supports =>
    exact within_getSession_bind fun _ _ => within_check_bind fun _ _ => within_pure _
  case capabilities => exact stays_ask
  case serverInfo => exact stays_ask
  case triggers => exact stays_ask
  case itemKind kind =>
    rw [performSession]
    split
    next => exact within_pure _
    next => exact within_check_bind fun _ _ => within_pure _
  case config => exact stays_ask
  case phase => exact stays_ask
  case onEvent => exact (stays_onEvent _ ho).answers
  case onMethod => exact (stays_onMethod _ ho).answers
  case log => exact (stays_logMessage _ _).answers
  case nextId => exact (stays_nextId hall).answers
  case register | resolve | failAll => cases c.may_isOutside ha
  case contains => exact within_check_bind fun _ _ => stays_ask
  case pending => exact stays_ask
  case hasMethod => exact within_check_bind fun _ _ => stays_ask
  case fireEvent => exact (stays_fireEvent hc hall).answers
  case fireMethod => exact Within.answers ⟨fun w hw => (Session.ends_fireMethod hc _ _ hw).1⟩
  case breakTick message =>
    have hb : Stays c id [] (updateSession id fun s => { s with fault := some message }) :=
      stays_updateSession fun _ _ _ => .spoiled message hall
    exact hb.answers
  all_goals first | (cases hp; done) | cases hr

lemma moves_performPhase (hc : Abides c call) {a : SessionAction} (ha : c.may ℓ a) (hp : a.isPhase)
    (before : Session) (earlier : List Event) :
    Within (Moves c ℓ id [.performing a before earlier] [.performing a before earlier]) (Ready c id)
      (performSession call id a) := by
  have hphase : ∀ {w v : World},
      Moves c ℓ id [.phase, .performing a before earlier] [.phase, .performing a before earlier] w v →
        Moves c ℓ id [.performing a before earlier] [.performing a before earlier] w v :=
    fun h => h.of_phase ha hp
  cases a
  case readMessages =>
    exact Within.answers ⟨fun w hw =>
      hphase (Session.ends_readMessages rfl (room_of_may ha) hw (.inr rfl)).1⟩
  case sendNotifications =>
    exact Within.answers ⟨fun w hw => (Session.ends_sendNotifications hw (free_of_may ha _)).1⟩
  case sendRequests =>
    exact Within.answers ⟨fun w hw =>
      (Session.ends_sendRequests hw (free_of_may ha _) (.inr (c.allows_of_may ha))).moves⟩
  case dispatchResponses =>
    exact Within.answers ⟨fun w hw => hphase (Session.ends_dispatchResponses hc rfl (room_of_may ha) hw).1⟩
  case dispatchErrors =>
    exact Within.answers ⟨fun w hw => hphase (Session.ends_dispatchErrors hc rfl (room_of_may ha) hw).1⟩
  case dispatchTimeouts =>
    exact Within.answers ⟨fun w hw => moves_expiring ha (.inl rfl) (Session.ends_expire hc .null hw).1⟩
  all_goals cases hp

/-- What is so after a tick, or after the end of one. -/
structure Rounds (c : Conduct) (ℓ : Level) (id : SessionId) (L : List Task) (v w : World) : Prop where
  moves : Moves c ℓ id L L v w
  emptied : c.LeavesPhases → (v.session id).Emptied → (w.session id).Emptied
  still : c.LeavesPhases → (v.session id).status = .terminated →
    (w.session id).inbox = (v.session id).inbox

lemma ends_performRound (hc : Abides c call) {a : SessionAction} (ha : c.may ℓ a) (hr : a.isRound)
    (before : Session) (earlier : List Event) {w : World} (hw : w.Ready c id) :
    Ends (performSession call id a) w fun _ v =>
      Rounds c ℓ id [.performing a before earlier] w v := by
  cases a
  case tick =>
    refine Ends.answers ?_
    by_cases hs : (w.session id).status = .terminated
    · refine (Session.ends_tick_idle (.inl hs)).mono ?_
      rintro result v rfl
      exact ⟨Course.refl v, fun _ h => h, fun _ _ => rfl⟩
    · have hroom : ℓ.Room c .tick [.performing .tick before earlier] := room_of_may ha
      refine (Session.ends_tick hc hroom hw).mono fun result v hv => ?_
      exact ⟨hv.1, hv.2.1, fun _ h => (hs h).elim⟩
  case expire now =>
    refine Ends.answers ((Session.ends_expire hc now hw).mono fun result v hv => ?_)
    have hlapsed := Session.moves_over_lapsed hv.1
    refine ⟨moves_expiring ha (.inr ⟨now, rfl⟩) hv.1, fun hp he => hlapsed.emptied (by simp) hp he,
      fun hp hs => hlapsed.inbox_eq (fun t ht => ?_) hp hs⟩
    rw [List.mem_singleton.mp ht]
    rfl
  all_goals cases hr

/-- What ends a session that is not leaving yet leaves it over, unless it ran out of numbers; a session
that is over stays as it is. -/
lemma ends_performSession_isEnding (hc : Abides c call) {a : SessionAction} (ha : a.isEnding)
    {w : World} (hw : w.Ready c id) : Ends (performSession call id a) w fun _ v =>
      ((w.session id).status.isLeaving = false → Quits c id w v ∧
        ((v.session id).status = .terminated ∨ numberLimit ≤ (v.session id).correlator.lastId)) ∧
      ((w.session id).status = .terminated → v = w) := by
  have hlive : (w.session id).status.isLeaving = false → (w.session id).status ≠ .terminated :=
    fun h ht => by rw [ht] at h; cases h
  by_cases ht : (w.session id).status = .terminated
  · -- A session that is over is not looked at again.
    have hleaving : (w.session id).status.isLeaving := by rw [ht]; rfl
    cases a
    case shutdown timeout =>
      refine Ends.bind (ends_getSession_bind ?_)
      dsimp only
      rw [if_pos hleaving]
      exact ends_pure (next_ok (ends_pure ⟨fun h => (hlive h ht).elim, fun _ => rfl⟩))
    case teardown reason timeout =>
      refine Ends.bind (ends_getSession_bind ?_)
      dsimp only
      rw [if_pos ht]
      exact ends_pure (next_ok (ends_pure ⟨fun h => (hlive h ht).elim, fun _ => rfl⟩))
    all_goals cases ha
  · cases a
    case shutdown timeout =>
      refine Ends.bind ((Session.ends_shutdown hc timeout [] hw).mono ?_)
      rintro result v ⟨-, hv⟩
      cases result <;> exact ⟨hv, fun h => (ht h).elim⟩
    case teardown reason timeout =>
      refine Ends.bind (((Session.moves_teardown hc reason timeout hw).and
        (Session.quits_teardown hc reason timeout hw ht)).mono ?_)
      rintro result v ⟨⟨rfl, -, hv⟩, hquits⟩
      exact ⟨fun _ => ⟨hquits, .inl hv⟩, fun h => (ht h).elim⟩
    all_goals cases ha

/-- What is neither a tick nor a part of one may be done whatever else the session is in the middle of. -/
lemma moves_performOther (hc : Abides c call) {a : SessionAction} (ha : c.may ℓ a)
    (ho : a.callbacksObey c.callback) (hp : a.isPhase = false) (hr : a.isRound = false) {w : World}
    (hw : w.Ready c id) (earlier : List Event) :
    let L := [Task.performing a (w.session id) earlier]
    Ends (performSession call id a) w fun _ v => Moves c .callback id L L w v := by
  intro L
  by_cases hs : ∃ timeout, a = .shutdown timeout
  · obtain ⟨timeout, rfl⟩ := hs
    exact Ends.answers ((Session.ends_shutdown hc timeout earlier hw).mono fun _ _ hv => hv.1)
  · have hstays : Stays c id [] (performSession call id a) :=
      stays_performSession hc ha ho hp hr fun timeout h => hs ⟨timeout, h⟩
    exact ends_of_within (hstays.lift (Task.areIdle_singleton rfl)) hw

/-- What an operation makes of its session, and how it leaves it. -/
lemma ends_performSession (hc : Abides c call) {a : SessionAction} (ha : c.may ℓ a)
    (ho : a.callbacksObey c.callback) {w : World} (hw : w.Ready c id) (earlier : List Event) :
    let L := [Task.performing a (w.session id) earlier]
    Ends (performSession call id a) w fun _ v =>
      Moves c ℓ id L L w v ∧ Leaves c id a (w.session id) (v.session id) (v.story id) := by
  intro L
  have hlive : (w.session id).status.isLeaving = false → (w.session id).status ≠ .terminated :=
    fun h ht => by rw [ht] at h; cases h
  cases hp : a.isPhase with
  | true =>
    have he : ¬ a.isEnding := fun h => by cases (SessionAction.isPhase_of_isEnding h).symm.trans hp
    refine (ends_of_within (moves_performPhase hc ha hp (w.session id) earlier) hw).mono fun _ v hv => ?_
    refine ⟨hv, ⟨fun h => (he h).elim, fun hphases => ?_⟩⟩
    exact {
      finished := fun hs => hv.isOver hw hphases (by simp) (hlive hs)
      emptied := fun hhost => by
        have hcallback := hphases a hp
        cases ℓ with
        | host => cases ha.symm.trans (hhost hp)
        | callback => cases ha.symm.trans hcallback
      settled := fun h => (he h).elim
      still := fun h => by cases h.symm.trans hp
      same := fun h => (he h).elim }
  | false =>
  cases hr : a.isRound with
  | true =>
    have he : ¬ a.isEnding := fun h => by
      cases a <;> first | (cases h; done) | cases hr
    refine (ends_performRound hc ha hr (w.session id) earlier hw).mono fun _ v hv => ?_
    refine ⟨hv.moves, ⟨fun h => (he h).elim, fun hphases => ?_⟩⟩
    exact {
      finished := fun hs => hv.moves.isOver hw hphases (by simp) (hlive hs)
      emptied := fun _ hs => hv.emptied hphases (Session.emptied_of_ne (hlive hs))
      settled := fun h => (he h).elim
      still := fun _ hover => hv.still hphases hover.status
      same := fun h => (he h).elim }
  | false =>
    have hends : Ends (performSession call id a) w fun _ v => a.isEnding →
        ((w.session id).status.isLeaving = false → Quits c id w v ∧
          ((v.session id).status = .terminated ∨ numberLimit ≤ (v.session id).correlator.lastId)) ∧
        ((w.session id).status = .terminated → v = w) := by
      by_cases he : a.isEnding
      · exact (ends_performSession_isEnding hc he hw).mono fun _ _ h _ => h
      · exact Ends.mono (Q := fun _ _ => True) trivial fun _ _ _ h => (he h).elim
    refine ((moves_performOther hc ha ho hp hr hw earlier).and hends).mono fun _ v hv => ?_
    obtain ⟨hmoves, hend⟩ := hv
    refine ⟨hmoves.below, ⟨fun he hs => ((hend he).1 hs).2, fun hphases => ?_⟩⟩
    exact {
      finished := fun hs => hmoves.isOver hw hphases (by simp) (hlive hs)
      emptied := fun _ hs => hmoves.emptied (by simp) hphases (Session.emptied_of_ne (hlive hs))
      settled := fun he hs ht r hr =>
        ((hend he).1 hs).1.isSettled hw (hmoves.isOver hw hphases (by simp) (hlive hs) ht).pending hr
      still := fun _ hover => hmoves.inbox_eq (by simp [Task.isAside]) hphases hover.status
      same := fun he ht => by rw [(hend he).2 ht] }

lemma moves_performNoted (hc : Abides c call) {a : SessionAction} (ha : c.may ℓ a)
    (ho : a.callbacksObey c.callback) :
    Within (Moves c ℓ id [] []) (Ready c id) (performNoted call id a) := by
  refine within_of_ends fun w hw => ends_getSession_bind (Ends.attempt_bind ?_)
  have hbegan : Moves c ℓ id [] [.performing a (w.session id) (w.story id)] w w :=
    .of_becomes (Alike.refl w).becomes fun K hK => .single (.began a hK.areIdle)
  refine (ends_performSession hc ha ho hw (w.story id)).mono ?_
  rintro result v ⟨hv, hleaves⟩
  refine ends_getSession_bind (ends_note fun u hu => ?_)
  have hdid : Moves c ℓ id [.performing a (w.session id) (w.story id)] [] v u :=
    .of_becomes hu fun K hK => .single (.did hK.areIdle hleaves)
  exact (hbegan.trans hv).trans hdid

/-! Links -/

lemma stays_updateLink {f : Link → Link} (hf : ∀ l, (f l).closed = l.closed) :
    Stays c id [] (updateLink id f) := by
  refine within_of_ends fun w hw => ends_updateSession hw.lt fun v hv => ?_
  cases hl : (w.session id).link with
  | none =>
    have hs : { w.session id with link := (w.session id).link.map f } = w.session id := by
      rw [hl, Option.map_none, ← hl]
    rw [hs] at hv
    exact .of_becomes hv fun K _ => .refl
  | some l =>
    rw [hl] at hv
    exact .of_becomes hv fun K _ => .single (.relinked _ hl (hf l))

lemma stays_writeMessages (messages : List Json) : Stays c id [] (writeMessages id messages) := by
  induction messages with
  | nil => exact within_pure ()
  | cons m rest ih =>
    refine within_check_bind fun bytes _ => ?_
    exact (stays_updateLink (f := fun l => l.supply bytes) fun _ => rfl).bind fun _ => ih

lemma stays_performLink (action : LinkAction) : Stays c id [] (performLink id action) := by
  cases action with
  | write messages => exact stays_writeMessages messages
  | writeBytes data => exact within_check_bind fun _ _ => stays_updateLink fun _ => rfl
  | complain | setAlive | setBroken | setCode => exact stays_updateLink fun _ => rfl

/-! Actions -/

lemma Act.Within.goes {α : Type} {a : Act α} (h : Within (Moves c ℓ id [] []) P a) :
    Within (Goes c ℓ) P a :=
  ⟨fun w hw => (h.after w hw).goes⟩

lemma goes_perform (hc : Abides c call) {a : Action} (h : c.admits ℓ a) :
    Within (Goes c ℓ) (Lawful c) (perform call a) := by
  have hset : ∀ {f : World → World}, (∀ w, Alike w (f w)) →
      Within (Goes c ℓ) (Lawful c) (answerNothing (modify f)) := fun hf =>
    Within.bind_any (within_modify fun w _ => (hf w).goes) fun _ => within_pure _
  cases a
  case advance => exact within_check_bind fun x _ => hset fun w => ⟨rfl, rfl, fun _ => rfl⟩
  case failLaunches => exact hset fun w => ⟨rfl, rfl, fun _ => rfl⟩
  case setFocus => exact hset fun w => ⟨rfl, rfl, fun _ => rfl⟩
  case setProject => exact hset fun w => ⟨rfl, rfl, fun _ => rfl⟩
  case link action => exact within_linked_bind (fun _ _ hw hid => ⟨hw, hid⟩) fun id =>
    ((stays_performLink action).lift Task.areIdle_nil).answers.goes
  case session action =>
    rw [Conduct.admits, Bool.and_eq_true] at h
    exact within_runningNamed_bind (fun _ hw entry he => ⟨hw, hw.running entry he⟩) fun id =>
      (moves_performNoted hc h.1 h.2).goes
  case registry | feature | scheduler | app => cases h

/-! Features -/

lemma isRemark_say (text : Text) : IsRemark (Features.say id text) :=
  ⟨fun w => ⟨_, rfl, World.alike_log w _ _ _ none⟩⟩

lemma isRemark_sayQuietly (text : Text) : IsRemark (Features.sayQuietly id text) :=
  ⟨fun w => ⟨_, rfl, World.alike_log w _ _ _ none⟩⟩

lemma within_askHost {e : Event} (he : ∀ other, e.concerns other = false) :
    Within (Moves c ℓ id [] []) P (askHost id e) := by
  refine within_of_ends fun w _ => ends_note fun u hu => ?_
  exact .of_becomes (hu.alike (alike_record he)) fun _ _ => .single .asked

lemma stays_onLogMessage (id : SessionId) (params : Json) :
    Stays c id [] (Features.onLogMessage id params) := by
  unfold Features.onLogMessage
  dsimp only
  split
  · exact (isRemark_say _).within
  · exact within_pure ()

lemma stays_onReady :
    Within (Moves c .callback id [] []) (Heeds c id .ready) (Features.onReady id) := by
  refine (isRemark_say _).within.bind fun _ => within_getSession_bind fun w hw => ?_
  have hpush : (w.session id).setting "settings" |>.holds → Stays c id []
      (Session.pushNotification id "workspace/didChangeConfiguration"
        (.object [("settings", (w.session id).setting "settings")])) := fun h =>
    Session.moves_pushNotification (.inr (hw.obeys h)) rfl rfl fun _ => rfl
  dsimp only
  have hrest : Within (Moves c .callback id [] []) (fun _ => True) (do
      if (w.session id).triggers.holds then
        if (w.session id).isVerbose then
          let shown ← Act.check (Features.joined (w.session id).triggers)
          log .client Level.info ((w.session id).tag ++ "Adding triggers for '" ++
            (w.session id).language.display ++ "' - " ++ shown)
        askHost id (.triggered (w.session id).language (w.session id).filePatterns
          (w.session id).triggers)) := by
    split
    · split
      · refine within_check_bind fun shown _ => ?_
        exact (isRemark_log _ _ _).within.bind_any fun _ => within_askHost fun _ => rfl
      · exact within_askHost fun _ => rfl
    · exact within_pure ()
  split
  next h => exact ((hpush h).mono fun v (hv : v = w) => hv ▸ hw.ready).bind_any fun _ => hrest
  · exact hrest.mono fun _ _ => trivial

lemma stays_offer (items : Json) : Stays c id [] (Features.offer id items) := by
  unfold Features.offer
  split
  · refine within_getSession_bind fun w _ => within_check_bind fun entries _ => ?_
    exact within_askHost fun _ => rfl
  · exact within_pure ()

lemma stays_onCompletion (response : Json) : Stays c id [] (Features.onCompletion id response) := by
  refine within_check_bind fun failure _ => ?_
  split
  · exact (isRemark_sayQuietly _).within
  · refine within_check_bind fun result _ => ?_
    split
    · split
      · exact (isRemark_sayQuietly _).within
      · exact stays_offer _
    · exact stays_offer _

lemma stays_onGoTo (method : Text) (response : Json) :
    Stays c id [] (Features.onGoTo method id response) := by
  refine within_check_bind fun failure _ => ?_
  split
  · exact (isRemark_say _).within
  · refine within_check_bind fun result _ => ?_
    dsimp only
    split
    · exact (isRemark_say _).within
    · refine within_check_bind fun range _ => within_check_bind fun path _ => ?_
      refine within_check_bind fun line _ => ?_
      exact within_check_bind fun col _ => within_askHost fun _ => rfl

/-! Callbacks -/

lemma ends_performInner_ok (actions : List Action) (w : World) :
    Ends (performInner call actions) w fun result _ => result = .ok () := by
  induction actions generalizing w with
  | nil => exact ends_pure rfl
  | cons a rest ih =>
    exact Ends.attempt_bind (Ends.mono (Q := fun _ _ => True) trivial fun _ v _ =>
      ends_record_bind (ih _))

lemma goes_performInner (hc : Abides c call) {actions : List Action}
    (h : actionsObey c.callback actions) :
    Within (Goes c .callback) (Lawful c) (performInner call actions) := by
  induction actions with
  | nil => exact within_pure ()
  | cons a rest ih =>
    rw [actionsObey, Bool.and_eq_true] at h
    refine Within.bind (goes_perform hc (c.admits_of_obeys h.1)).attempt fun result => ?_
    have hr : Within (Goes c .callback) (Lawful c) (record (.inner result)) :=
      ⟨fun w _ => (alike_record fun _ => rfl).goes⟩
    exact hr.bind fun _ => ih h.2

lemma ends_performCallback (hc : Abides c call) {callback : Callback} {f : Json → Event}
    (h : callback.obeys c.callback) {w : World}
    (hw : (w.record (f callback.label)).Lawful c) :
    Ends (performCallback call f callback) w fun _ v =>
      Goes c .callback (w.record (f callback.label)) v := by
  obtain ⟨label, actions, fails⟩ := callback
  have hinner := (ends_performInner_ok actions _).and (ends_of_within (goes_performInner hc h) hw)
  refine ends_record_bind (Ends.bind (hinner.mono ?_))
  rintro result v ⟨rfl, hv⟩
  refine next_ok ?_
  cases fails with
  | some message => exact ends_throw hv
  | none => exact ends_pure hv

lemma stays_performListener (hc : Abides c call) {l : Listener} {mark : Json → Event}
    (hm : ∀ label other, (mark label).concerns other = false) (params : Json) :
    Within (Moves c .callback id [] []) (Heeds c id l) (performListener call id mark params l) := by
  cases l with
  | host callback =>
    cases callback with
    | some callback =>
      refine within_of_ends fun w hw => ?_
      have hr : Goes c .callback w (w.record (mark callback.label)) := (alike_record (hm _)).goes
      refine (ends_performCallback hc hw.obeys (hr.lawful hw.ready.lawful)).mono fun result v hv => ?_
      exact (Course.trans hr hv : Goes c .callback w v).moves
    | none => exact within_throw _
  | logMessage => exact (stays_onLogMessage id params).mono fun _ hw => hw.ready
  | ready => exact stays_onReady

/-- A listener of a method is told. -/
lemma moves_performListener (hc : Abides c call) (l : Listener) (title : Text) (params : Json) :
    Within (Moves c .callback id [.telling l params] []) (Heeds c id l)
      (performListener call id (.received id · title params) params l) := by
  have hsilent : (∀ callback, l ≠ .host (some callback)) →
      Within (Moves c .callback id [] []) (Heeds c id l)
        (performListener call id (.received id · title params) params l) →
      Within (Moves c .callback id [.telling l params] []) (Heeds c id l)
        (performListener call id (.received id · title params) params l) := fun hl h =>
    ⟨fun w hw =>
      have hheeded : Moves c .callback id [.telling l params] [] w w :=
        .of_becomes (Alike.refl w).becomes fun _ _ => .single (.heeded hl)
      hheeded.trans (h.after w hw)⟩
  cases l with
  | host callback =>
    cases callback with
    | some callback =>
      refine within_of_ends fun w hw => ?_
      have hr : Becomes id _ _ w (w.record (.received id callback.label title params)) :=
        becomes_record fun _ => rfl
      have hm : Moves c .callback id [.telling (.host (some callback)) params] [] w _ :=
        .of_becomes hr fun K _ => .single .told
      refine (ends_performCallback (f := (.received id · title params)) hc hw.obeys
        (hm.lawful hw.ready.lawful)).mono fun result v hv => ?_
      exact hm.trans hv.moves
    | none => exact hsilent (fun _ h => by cases h) (within_throw _)
  | logMessage =>
    exact hsilent (fun _ h => by cases h) ((stays_onLogMessage id params).mono fun _ hw => hw.ready)
  | ready => exact hsilent (fun _ h => by cases h) stays_onReady

lemma abides_performCall (hc : Abides c call) : Abides c (performCall call) where
  answer handler id ticket m hp w hw := by
    cases handler with
    | host callback =>
      have hr : Becomes id (w.session id) (.answered id ticket callback.label (w.session id).title
          (.object m) :: w.story id) w _ := becomes_record fun _ => rfl
      have hm : Moves c .callback id [.answering ticket (.host callback) m] [] w _ :=
        .of_becomes hr fun K _ => .single .answered
      have hcall := ends_performCallback hc (f := fun label =>
        .answered id ticket label (w.session id).title (.object m)) hp (hm.lawful hw.lawful)
      exact hm.trans hcall.moves
    | opening callback => exact (Session.moves_openingAnswered hc hp ticket m).after w hw
    | completion =>
      have hserved : Moves c .callback id [.answering ticket .completion m] [] w w :=
        .of_becomes (Alike.refl w).becomes fun K _ => .single (.served rfl)
      exact hserved.trans ((stays_onCompletion (.object m)).after w hw)
    | goTo method =>
      have hserved : Moves c .callback id [.answering ticket (.goTo method) m] [] w w :=
        .of_becomes (Alike.refl w).becomes fun K _ => .single (.served rfl)
      exact hserved.trans ((stays_onGoTo method (.object m)).after w hw)
  event l id args := within_getSession_bind fun w hw =>
    (stays_performListener hc (fun _ _ => rfl) .null).mono fun _ hv => hv ▸ hw
  message l id params := ⟨fun w hw =>
    (moves_performListener hc l (w.session id).title params).after w hw⟩
  returns label actions id ticket response w := by
    refine ends_getSession_bind (ends_record_bind (Ends.bind ((ends_performInner_ok _ _).mono ?_)))
    rintro result v rfl
    exact next_ok (ends_pure (.inl ⟨(), rfl⟩))

lemma abides_callWithin (depth : Nat) : Abides c (callWithin depth) := by
  induction depth with
  | succ depth ih => exact abides_performCall ih
  | zero =>
    have hnote : ∀ (e : Call) (w : World), Becomes e.session (w.session e.session)
        (.noted e.session .tooDeep :: w.story e.session) w ((callWithin 0 e).after w) := fun e w =>
      becomes_record fun _ => rfl
    refine ⟨fun handler id ticket m _ w _ => ?_, fun l id args => ⟨fun w _ => ?_⟩,
      fun l id params => ⟨fun w _ => ?_⟩, fun label actions id ticket response w => ?_⟩
    · exact .of_becomes (hnote (.answer handler id ticket (.object m)) w) fun K _ => .single .unheard
    · exact .of_becomes (hnote (.event l id args) w) fun K _ => .single .fellShort
    · exact .of_becomes (hnote (.message l id params) w) fun K _ => .single .untold
    · refine ends_note fun v hv => ends_throw (.inr ?_)
      rw [show v.story id = _ from hv.story]
      exact List.mem_cons_self

/-! Runs -/

lemma goes_stop (timeout : Json) : Within (Goes c .host) (Lawful c) (Schedule.stop timeout) := by
  have hsame : ∀ {v w : World}, w.sessions = v.sessions → w.running = v.running →
      w.events = v.events → Goes c .host v w := fun hs hr he =>
    (⟨hs, hr, fun id => by rw [World.story, he]; rfl⟩ : Alike _ _).goes
  have hlast : Within (Goes c .host) (Lawful c) (do
      if (← get).scheduler.started then
        let _ ← Act.check timeout.limit
        modify fun w => { w with scheduler := { w.scheduler with started := false } }) := by
    refine within_get_bind fun w hw => ?_
    split
    next =>
      exact within_check_bind fun _ _ => within_modify fun w _ => hsame rfl rfl rfl
    next => exact within_pure ()
  have hrunning : Within (Goes c .host) (Lawful c) Schedule.isRunning := ⟨fun w _ => Course.refl w⟩
  refine hrunning.bind fun b => ?_
  split
  next =>
    refine Within.bind (within_modify fun w _ => hsame rfl rfl rfl) fun _ => ?_
    exact Within.bind ⟨fun w _ => (alike_log w _ _ _ none).goes⟩ fun _ => hlast
  next => exact hlast

lemma goes_act {a : Action} (h : c.admits .host a) : Within (Goes c .host) (Lawful c) (act a) :=
  goes_perform (abides_callWithin nestingLimit) h

lemma goes_actLast {a : Action} (h : Within (Goes c .host) (Lawful c) (act a)) :
    Within (Goes c .host) (Lawful c) (actLast a) :=
  h.attempt.bind fun result => (goes_stop _).bind fun _ => within_check result

/-- If each action takes the sessions from step to step, they all do so one after the other. -/
lemma goes_outcomes {actions : List Action} {w : World} (hw : w.Lawful c)
    (ha : ∀ a ∈ actions, Within (Goes c .host) (Lawful c) (act a)) {o : Outcome}
    (ho : o ∈ outcomes w actions) : w.Goes c .host o.world := by
  induction actions generalizing w with
  | nil => cases ho
  | cons a rest ih =>
    rw [List.forall_mem_cons] at ha
    cases rest with
    | nil =>
      obtain rfl := List.mem_singleton.mp ho
      exact (goes_actLast ha.1).after w hw
    | cons b rest =>
      have hl : w.Goes c .host ((act a).after w) := ha.1.after w hw
      rcases List.mem_cons.mp ho with rfl | ho
      · exact hl
      · exact Course.trans hl (ih (hl.lawful hw) ha.2 ho)

/-- A host that acts in accord with a conduct takes its sessions from step to step. -/
lemma goes_of_mem_outcomes {w : World} (hw : w.Lawful c) {actions : List Action}
    (ha : actions.all (c.admits .host)) {o : Outcome} (ho : o ∈ outcomes w actions) :
    w.Goes c .host o.world :=
  goes_outcomes hw (fun a h => goes_act (List.all_eq_true.mp ha a h)) ho

lemma blank_of_ofConfig {config : Json} {s : Session} (h : Session.ofConfig config = .ok s) :
    s = .blank s.config s.name := by
  rw [Session.ofConfig] at h
  cases hm : config.mandatory "name" with
  | error e => rw [hm] at h; cases h
  | ok name =>
    cases hf : config.fields with
    | error e => rw [hm, hf] at h; cases h
    | ok fields =>
      rw [hm, hf] at h
      obtain rfl := Except.ok.inj h
      rfl

namespace World.IsNew

variable {w : World}

lemma position_eq (h : w.IsNew) (id : SessionId) :
    w.position id [] = ⟨.blank (w.session id).config (w.session id).name, [], []⟩ := by
  have hs : w.session id = .blank (w.session id).config (w.session id).name := by
    rw [World.session, List.getD_eq_getElem?_getD]
    cases hget : w.sessions[id]? with
    | none => rfl
    | some s =>
      obtain ⟨config, hc⟩ := h.sessions s (List.mem_of_getElem? hget)
      exact blank_of_ofConfig hc
  rw [World.position, ← hs, World.story, h.events]
  rfl

lemma lawful (h : w.IsNew) : w.Lawful c where
  sessions id := by
    have hp := h.position_eq id
    rw [World.position, Position.mk.injEq] at hp
    rw [hp.1, hp.2.1]
    exact .blank _ _
  running := h.running

end World.IsNew

lemma World.Goes.steps_of_isNew {v w : World} (h : v.Goes c .host w) (hv : v.IsNew) (id : SessionId) :
    Steps c id ⟨.blank (v.session id).config (v.session id).name, [], []⟩ (w.position id []) := by
  rw [← hv.position_eq id]
  exact h.steps id [] rfl

/-- Every session of a run got where it is by steps of the conduct. -/
lemma steps_of_mem_outcomes {w : World} (hw : w.IsNew) {actions : List Action}
    (ha : actions.all (c.admits .host)) {o : Outcome} (ho : o ∈ outcomes w actions)
    (id : SessionId) :
    Steps c id ⟨.blank (w.session id).config (w.session id).name, [], []⟩
      (o.world.position id []) :=
  (goes_of_mem_outcomes hw.lawful ha ho).steps_of_isNew hw id

/-- A world in which a session got where it is by steps of a conduct: one that a host finds, or one of
its callbacks. -/
structure World.Reached (c : Conduct) (id : SessionId) (w : World) : Prop where
  ready : w.Ready c id
  sound : w.Sound
  steps : ∃ config name K, Steps c id ⟨.blank config name, [], []⟩ (w.position id K)

lemma World.reached_of_mem_outcomes {c : Conduct} {w : World} (hw : w.IsNew) {actions : List Action}
    (ha : actions.all (c.admits .host)) {o : Outcome} (ho : o ∈ outcomes w actions) {id : SessionId}
    (hlt : id < w.sessions.length) : o.world.Reached c id where
  ready :=
    have hgoes := goes_of_mem_outcomes hw.lawful ha ho
    ⟨hgoes.lawful hw.lawful, hgoes.length ▸ hlt⟩
  sound := sound_of_mem_outcomes hw (Conduct.actionsArePublic ha) ho
  steps := ⟨_, _, [], steps_of_mem_outcomes hw ha ho id⟩

/-- What a session is in the middle of is no concern of what comes next. -/
lemma World.Reached.position_sound {c : Conduct} {w : World} {id : SessionId} (h : w.Reached c id) :
    (w.position id []).Sound c id := by
  obtain ⟨config, name, K, hK⟩ := h.steps
  have hsound := Steps.sound_position hK (.blank _ _)
  exact ⟨hsound.session, by simp [position], by simp [position], hsound.introduced⟩

/-- A world with one server, of which nothing but its name is known. -/
def World.serving (name : Json) : World where
  sessions := [.blank [("name", name)] name]
  running := [(name, 0)]

lemma World.isNew_serving (name : Json) : (serving name).IsNew where
  sessions s hs := by
    obtain rfl := List.mem_singleton.mp hs
    exact ⟨.object [("name", name)], rfl⟩
  running entry h := by
    obtain rfl := List.mem_singleton.mp h
    exact Nat.zero_lt_one
  events := rfl

end LanguageClient
