import LanguageClient.Proofs.Termination

/-!
Refusals. A server that answers the request to open a session with an error ends the session: the tick
that dispatches the error tears it down, and it was never open.
-/

namespace LanguageClient

open Act World

/-- An answer that refuses: its error is an object that says something. -/
def Fields.Refuses (m : Fields) : Prop :=
  ∃ fields : Fields, m.getD "error" .null = .object fields ∧ fields ≠ []

lemma Fields.Refuses.holds {m : Fields} (h : m.Refuses) : (m.getD "error" .null).holds := by
  obtain ⟨fields, he, hne⟩ := h
  rw [he]
  simpa [Json.holds] using hne

/-- A callback that does not fail of itself. -/
def Callback.IsSteady (callback : Option Callback) : Prop :=
  ∀ label actions fault, callback ≠ some (.mk label actions (some fault))

namespace Refusal

variable {c : Conduct} {id : SessionId} {p q : Position} {t : Nat} {callback : Option Callback}
  {m : Fields}

/-! The request that opens a session -/

/-- A session asks to be opened once. -/
structure AsksOnce (id : SessionId) (p : Position) : Prop where
  fresh : p.session.status = .uninitialized →
    ∀ t callback, .dealt id (.accepted t (some (.opening callback))) ∉ p.events
  only : ∀ t callback u other, .dealt id (.accepted t (some (.opening callback))) ∈ p.events →
    .dealt id (.accepted u (some (.opening other))) ∈ p.events → t = u

lemma uninitialized_of_step (h : Step c id p q) (hq : q.session.status = .uninitialized) :
    p.session.status = .uninitialized := by
  have hrank := h.rank_le
  rw [hq] at hrank
  cases hp : p.session.status <;> simp [hp, Status.rank] at hrank ⊢

lemma AsksOnce.step (hp : AsksOnce id p) (h : Step c id p q)
    (hs : p.session.Sound c id p.events) : AsksOnce id q where
  fresh hq t callback ha := by
    rcases h.opening_accepted_or hs ha with ha | ⟨-, -, hasks, -⟩
    · exact hp.fresh (uninitialized_of_step h hq) t callback ha
    · cases hq.symm.trans hasks
  only t callback u other ha hb := by
    rcases h.opening_accepted_or hs ha with ha | ⟨rfl, hfresh, -⟩ <;>
      rcases h.opening_accepted_or hs hb with hb | ⟨rfl, hfresh', -⟩
    · exact hp.only t callback u other ha hb
    · exact (hp.fresh hfresh' t callback ha).elim
    · exact (hp.fresh hfresh u other hb).elim
    · rfl

lemma AsksOnce.steps (hp : AsksOnce id p) (h : Steps c id p q)
    (hs : p.session.Sound c id p.events) : AsksOnce id q := by
  induction h with
  | refl => exact hp
  | tail hr h ih => exact ih.step h (Steps.sound hr hs)

/-! What becomes of a session that was refused -/

/-- A session that was refused leaves, or is going to: its callback is about to be told, or the reason
for its end is known. A callback that did not come to its end may have let it off. -/
inductive IsDoomed (id : SessionId) (t : Nat) (callback : Option Callback) (m : Fields)
    (p : Position) : Prop where
  | leaves (status : p.session.status.isLeaving)
  | due (reason : p.session.teardownReason.isSome)
  | deep (mem : .noted id .tooDeep ∈ p.events)
  | answering (mem : .answering t (.opening callback) m ∈ p.tasks)
  | refused (mem : .refused t callback m ∈ p.tasks)

lemma teardownReason_of_step (h : Step c id p q) (hp : p.session.teardownReason.isSome) :
    q.session.teardownReason.isSome := by
  cases h
  case deferred item _ _ _ _ _ _ _ | queued item _ _ _ _ _ _ => cases item <;> exact hp
  case took s es t K m reader next running =>
    obtain ⟨responses, errors, he⟩ := Session.exists_enqueue_eq { s with reader } m
    rw [he]
    exact hp
  case doomed => rfl
  all_goals exact hp

/-- Who was refused is doomed for good, unless the session was open. -/
lemma IsDoomed.step (hp : IsDoomed id t callback m p) (h : Step c id p q) (hm : m.Refuses)
    (steady : Callback.IsSteady callback) (begun : p.session.status ≠ .uninitialized)
    (unopened : p.session.status ≠ .initialized) : IsDoomed id t callback m q := by
  cases hp with
  | leaves status =>
    rw [Status.isLeaving_iff_rank] at status
    exact .leaves (Status.isLeaving_iff_rank.mpr (Nat.le_trans status h.rank_le))
  | due reason => exact .due (teardownReason_of_step h reason)
  | deep mem => exact .deep (h.suffix.subset mem)
  | answering mem =>
    have hpop : ∀ {task : Task} {K : List Task}, p.tasks = task :: K →
        task ≠ .answering t (.opening callback) m → .answering t (.opening callback) m ∈ K :=
      fun ht hne => List.mem_of_ne_of_mem hne.symm (ht ▸ mem)
    cases h
    case turnedDown s es K u other m' error =>
      rcases List.mem_cons.mp mem with he | mem
      · obtain ⟨rfl, hopening, rfl⟩ := Task.answering.inj he
        obtain rfl := Handler.opening.inj hopening
        exact .refused (List.mem_append_right _ List.mem_cons_self)
      · exact .answering (List.mem_append_right _ (List.mem_cons_of_mem _ mem))
    case unheard => exact .deep List.mem_cons_self
    case answered => exact .answering (hpop rfl (by simp))
    case served isFeature =>
      refine .answering (hpop rfl fun he => ?_)
      rw [(Task.answering.inj he).2.1] at isFeature
      cases isFeature
    case late error _ | stuck error _ _ _ | welcomed error _ _ =>
      refine .answering ?_
      rcases List.mem_cons.mp mem with he | mem
      · rw [← (Task.answering.inj he).2.2, hm.holds] at error
        cases error
      · simp [mem]
    case resolved => exact .answering (List.mem_append_right _ mem)
    all_goals exact .answering (by simpa using mem)
  | refused mem =>
    cases h
    case doomed => exact .due rfl
    case spared s es K u other m' reason =>
      rcases List.mem_cons.mp mem with he | mem
      · obtain ⟨rfl, rfl, rfl⟩ := Task.refused.inj he
        rcases reason with hs | ⟨f, hf⟩ | ⟨label, actions, fault, rfl⟩ | htoo
        · refine .leaves ?_
          cases hst : s.status <;> simp_all [Status.isLeaving]
        · obtain ⟨fields, he, -⟩ := hm
          rw [he] at hf
          cases hf
        · exact (steady label actions fault rfl).elim
        · exact .deep htoo
      · exact .refused mem
    case turnedDown | welcomed =>
      exact .refused (List.mem_append_right _ (List.mem_cons_of_mem _ (by simpa using mem)))
    all_goals exact .refused (by simpa [Task.mem_owed] using mem)

/-- At the end of a tick that spares the session nothing is left to be done about a refusal. -/
lemma IsDoomed.terminated {s : Session} {es : List Event}
    (h : IsDoomed id t callback m ⟨s, es, [.ticking]⟩) (hparts : Termination.Parts ⟨s, es, [.ticking]⟩)
    (spared : s.endingReason? = none) (shallow : .noted id .tooDeep ∉ es)
    (few : s.correlator.lastId < numberLimit) : s.status = .terminated := by
  cases h with
  | leaves status =>
    cases hs : s.status with
    | shuttingDown =>
      rcases hparts hs with ⟨wasOpen, ht⟩ | hn
      · simp at ht
      · exact absurd few (Nat.not_lt.mpr hn)
    | terminated => rfl
    | _ => simp [hs, Status.isLeaving] at status
  | due reason =>
    obtain ⟨text, ht⟩ := Option.isSome_iff_exists.mp reason
    have ht : s.teardownReason = some text := ht
    simp [Session.endingReason?, ht] at spared
  | deep mem => exact (shallow mem).elim
  | answering mem | refused mem => simp at mem

/-! The invariant -/

/-- What becomes of a session that asked to be opened. -/
structure Awaits (id : SessionId) (t : Nat) (callback : Option Callback) (p : Position) : Prop where
  begun : p.session.status ≠ .uninitialized
  only : ∀ u other, .dealt id (.accepted u (some (.opening other))) ∈ p.events → u = t
  opened : p.session.status = .initialized →
    ∃ m : Fields, .dealt id (.resolved t (.object m)) ∈ p.events ∧ (m.getD "error" .null).holds = false
  refused : ∀ m : Fields, .dealt id (.resolved t (.object m)) ∈ p.events → m.Refuses →
    IsDoomed id t callback m p

lemma initialized_of_step (h : Step c id p q) (hs : p.Sound c id)
    (hq : q.session.status = .initialized) : p.session.status = .initialized ∨
      ∃ u other, ∃ m : Fields, .dealt id (.accepted u (some (.opening other))) ∈ p.events ∧
        .dealt id (.resolved u (.object m)) ∈ p.events ∧ (m.getD "error" .null).holds = false := by
  have hdue := fun u other m ht => hs.answering u (.opening other) m ht
  cases h
  case stuck u other f m error status holds result =>
    have h := hdue _ _ _ List.mem_cons_self
    exact .inr ⟨_, _, m, h.opening, h.resolved, error⟩
  case welcomed u other capabilities serverInfo m error status result =>
    have h := hdue _ _ _ List.mem_cons_self
    exact .inr ⟨_, _, m, h.opening, h.resolved, error⟩
  case deferred item _ _ _ _ _ _ _ | queued item _ _ _ _ _ _ => cases item <;> exact .inl hq
  case took =>
    rw [Session.enqueue] at hq
    split at hq <;> exact .inl hq
  case introduced | parted | saidGoodbye | unheardGoodbye | ended | left => cases hq
  all_goals exact .inl hq

/-- A request is resolved once, and the one that opens the session is the one that was accepted. -/
structure IsSingular (id : SessionId) (t : Nat) (callback : Option Callback) (es : List Event) :
    Prop where
  handler : ∀ handler, .dealt id (.accepted t handler) ∈ es → handler = some (.opening callback)
  resolved : ∀ r r', .dealt id (.resolved t r) ∈ es → .dealt id (.resolved t r') ∈ es → r = r'

lemma IsSingular.of_suffix {es es' : List Event} (h : IsSingular id t callback es') (hs : es <:+ es') :
    IsSingular id t callback es :=
  ⟨fun handler hh => h.handler handler (hs.subset hh),
    fun r r' hr hr' => h.resolved r r' (hs.subset hr) (hs.subset hr')⟩

lemma Awaits.unopened (hp : Awaits id t callback p) (single : IsSingular id t callback p.events)
    (hr : .dealt id (.resolved t (.object m)) ∈ p.events) (hm : m.Refuses) :
    p.session.status ≠ .initialized := by
  intro hs
  obtain ⟨m', hr', hnot⟩ := hp.opened hs
  obtain rfl := Json.object.inj (single.resolved _ _ hr hr')
  rw [hm.holds] at hnot
  cases hnot

lemma Awaits.step (hp : Awaits id t callback p) (h : Step c id p q) (hs : p.Sound c id)
    (steady : Callback.IsSteady callback) (single : IsSingular id t callback q.events) :
    Awaits id t callback q where
  begun hq := hp.begun (uninitialized_of_step h hq)
  only u other ha := by
    rcases h.opening_accepted_or hs.session ha with ha | ⟨-, hfresh, -⟩
    · exact hp.only u other ha
    · exact (hp.begun hfresh).elim
  opened hq := by
    rcases initialized_of_step h hs hq with hs | ⟨u, other, m, ha, hr, hnot⟩
    · obtain ⟨m, hr, hnot⟩ := hp.opened hs
      exact ⟨m, h.suffix.subset hr, hnot⟩
    · obtain rfl := hp.only u other ha
      exact ⟨m, h.suffix.subset hr, hnot⟩
  refused m hr hm := by
    rcases h.deals hs.session hr with hr | hd
    · have hunopened := hp.unopened (single.of_suffix h.suffix) hr hm
      exact (hp.refused m hr hm).step h hm steady hp.begun hunopened
    · cases hd with
      | resolved mem tasks =>
        have hacc := single.handler _ (h.suffix.subset (hs.session.pendingAccepted _ mem))
        refine .answering ?_
        rw [tasks, hacc]
        exact List.mem_cons_self

lemma Awaits.steps (hp : Awaits id t callback p) (h : Steps c id p q) (hs : p.Sound c id)
    (steady : Callback.IsSteady callback) (single : IsSingular id t callback q.events) :
    Awaits id t callback q := by
  induction h with
  | refl => exact hp
  | tail hr h ih =>
    exact (ih (single.of_suffix h.suffix)).step h (Steps.sound_position hr hs) steady single

/-- What becomes of requests is told apart by the account of the session. -/
lemma isSingular_of_sound {w : World} (hw : w.Sound)
    (asked : .dealt id (.accepted t (some (.opening callback))) ∈ w.story id) :
    IsSingular id t callback (w.story id) := by
  have haccount := hw.accounts id
  have hdealt : ∀ {d : Dealing}, (∀ u label response, d ≠ .answered u label response) →
      .dealt id d ∈ w.story id → d ∈ (w.account id).dealings := by
    intro d hd hmem
    have h := (mem_dealings_iff hd).mpr hmem
    rwa [World.dealings_story] at h
  refine ⟨fun handler hh => ?_, fun r r' hr hr' => ?_⟩
  · have heq := eq_of_countP_le_one (haccount.correlated.acceptedOnce t) (hdealt (by simp) hh)
      (hdealt (by simp) asked) (by simp [Dealing.accepts]) (by simp [Dealing.accepts])
    exact (Dealing.accepted.inj heq).2
  · exact haccount.resolvedOnce t r r' (hdealt (by simp) hr) (hdealt (by simp) hr')

end Refusal

/-! Ticks -/

namespace Session

variable {c : Conduct} {call : Caller} {id : SessionId} {w : World}

/-- What a tick does before it dispatches errors. -/
def beforeErrors (call : Caller) (id : SessionId) : Act Unit := do
  let _ ← readMessages id
  let _ ← sendNotifications id
  let _ ← sendRequests id
  let _ ← dispatchResponses call id

lemma drain_eq : drain call id = (do
    beforeErrors call id
    let _ ← dispatchErrors call id
    let _ ← dispatchTimeouts call id) := by
  simp only [drain, beforeErrors, bind_assoc, pure_bind]

lemma ends_beforeErrors (hc : Abides c call) (hw : w.Ready c id)
    (hs : (w.session id).status ≠ .terminated) : Ends (beforeErrors call id) w fun _ v =>
      Moves c .host id [.ticking] [.ticking] w v := by
  refine ends_exchange (Level.room_host c _) hw hs (fun f v hv _ _ _ => hv) fun u hu => ?_
  refine Ends.bind ((ends_dispatchResponses (t := .ticking) hc rfl (Level.room_host c _)
    (hu.moves.ready hw)).mono ?_)
  rintro result v ⟨hv, -⟩
  cases result <;> exact hu.moves.trans hv

/-- How a tick ends: it does nothing, or fails before it comes to the errors, or finds that the session
may go on, or ends it. -/
inductive Ticks (c : Conduct) (call : Caller) (id : SessionId) (w : World) :
    Except Fault Unit → World → Prop where
  | idle {result} : Ticks c call id w result w
  | failed {f v} (fails : (beforeErrors call id).run w = (.error f, v)) :
    Ticks c call id w (.error f) v
  | spared {v} (moves : Moves c .host id [] [.ticking] w v)
    (spared : endingReason? (v.session id) = none) : Ticks c call id w (.ok ()) v
  | finished {v} (status : (v.session id).status = .terminated) : Ticks c call id w (.ok ()) v

lemma ticks_tick (hc : Abides c call) (hw : w.Ready c id) :
    Ends (tick call id) w (Ticks c call id w) := by
  refine ends_getSession_bind ?_
  split
  next => exact ends_throw .idle
  next =>
    split
    next => exact ends_pure .idle
    next hruns =>
      obtain ⟨hs, hl⟩ := runs_of_not hruns
      have hbegin : Moves c .host id [] [.ticking] w w :=
        .of_becomes (Alike.refl w).becomes fun K _ => .single (.ticked hs hl)
      have hrun : Ends (beforeErrors call id) w fun result v =>
        (beforeErrors call id).run w = (result, v) := rfl
      refine Ends.bind ?_
      rw [drain_eq]
      refine Ends.bind ((hrun.and (ends_beforeErrors hc hw hs)).mono ?_)
      rintro result v ⟨hrun, hv⟩
      cases result with
      | error f => exact .failed hrun
      | ok _ =>
        have hw₁ := hv.ready hw
        refine next_ok (Ends.bind
          ((ends_dispatchErrors (t := .ticking) hc rfl (Level.room_host c _) hw₁).mono ?_))
        rintro result x ⟨hx, -, ⟨n, rfl⟩, -⟩
        have hw₂ := hx.ready hw₁
        refine next_ok (Ends.bind ((ends_expire hc .null hw₂).mono ?_))
        rintro result y ⟨hy, hok⟩
        obtain ⟨n, rfl⟩ := hok rfl
        have hexpires : ∀ K, Level.host.Base K → c.Expires ([.ticking] ++ K) := fun K hK =>
          .inr (.inr (.inr ⟨.ticking, K, rfl, rfl, (Level.room_host c _).free K hK⟩))
        have hdrained : Moves c .host id [] [.ticking] w y := ((hbegin.trans hv).trans hx).trans
          (moves_lapsed hexpires (Task.areIdle_singleton rfl) hy)
        refine next_ok (ends_pure (next_ok (ends_getSession_bind ?_)))
        split
        next reason _ =>
          refine (moves_teardown hc _ _ (hdrained.ready hw)).mono ?_
          rintro result z ⟨rfl, -, hz⟩
          exact .finished hz
        next hnone => exact ends_pure (.spared hdrained hnone)

end Session

open Refusal in
/-- A session asked its server to open it, with a callback that does not fail, and a tick takes the
answer. If that is a refusal, the session is over afterwards, or the tick failed before it came to the
errors; and the session was never open meanwhile. -/
theorem ends_tick_of_refuses {c : Conduct} {w : World} {id : SessionId} (hw : w.Reached c id)
    (depth : Nat) (hs : (w.session id).status = .initializing) {t : Nat} {callback : Option Callback}
    (asked : .dealt id (.accepted t (some (.opening callback))) ∈ w.story id)
    (unanswered : ∀ r, .dealt id (.resolved t r) ∉ w.story id)
    (steady : Callback.IsSteady callback) :
    Ends (Session.tick (callWithin depth) id) w fun result v => ∀ m : Fields,
      .dealt id (.resolved t (.object m)) ∈ v.story id → m.Refuses →
      .noted id .tooDeep ∉ v.story id → (v.session id).correlator.lastId < numberLimit →
      ((v.session id).status = .terminated ∨ ∃ f, result = .error f ∧
        (Session.beforeErrors (callWithin depth) id).run w = (.error f, v)) ∧
      ∀ s es, w.story id <:+ es → v.Saw id s es → s.status ≠ .initialized := by
  have hc : Abides c (callWithin depth) := abides_callWithin depth
  have hleads := ends_of_within (Session.keeps_tick (lawfulCaller_callWithin depth)) ⟨hw.sound, hw.ready.lt⟩
  refine (((Session.ends_tick hc (Level.room_host c _) hw.ready).and
    (Session.ticks_tick hc hw.ready)).and hleads).mono ?_
  rintro result v ⟨⟨⟨hmoves, -⟩, hticks⟩, hleads⟩ m hr hm shallow few
  have hsteps := hmoves.steps [] rfl
  have hsingle : IsSingular id t callback (v.story id) :=
    isSingular_of_sound (Stable.step hleads hw.sound) (hsteps.suffix.subset asked)
  obtain ⟨config, name, K, hK⟩ := hw.steps
  have hawaits : Awaits id t callback (w.position id []) := by
    have honce : AsksOnce id (w.position id K) := AsksOnce.steps ⟨by simp, by simp⟩ hK (.blank _ _)
    refine ⟨by simp [position, hs], fun u other hu => ?_, fun h => ?_, fun m hr => ?_⟩
    · exact honce.only u other t callback hu asked
    · cases hs.symm.trans h
    · exact (unanswered _ hr).elim
  refine ⟨?_, fun s es hsuffix saw hopen => ?_⟩
  · cases hticks with
    | idle => exact (unanswered _ hr).elim
    | failed fails => exact .inr ⟨_, rfl, fails⟩
    | finished status => exact .inl status
    | spared moves spared =>
      have hu := moves.steps [] rfl
      have hparts : Termination.Parts (v.position id [.ticking]) :=
        Termination.Parts.steps (p := w.position id []) (by simp [Termination.Parts, position, hs]) hu
      have hdoomed := (hawaits.steps hu hw.position_sound steady hsingle).refused m hr hm
      exact .inl (hdoomed.terminated hparts spared shallow few)
  · obtain ⟨K, hto, hfrom⟩ := exists_position_of_suffix hsteps hsuffix saw
    have hat := hawaits.steps hto hw.position_sound steady (hsingle.of_suffix hfrom.suffix)
    obtain ⟨m', hr', hnot⟩ := hat.opened hopen
    obtain rfl := Json.object.inj (hsingle.resolved _ _ hr (hfrom.suffix.subset hr'))
    rw [hm.holds] at hnot
    cases hnot

/-! A session that is refused, and one that is let off -/

/-- Whether a session asks to be opened with a callback that does not fail. -/
def Dealing.opens (t : Nat) : Dealing → Bool
  | .accepted u (some (.opening (some (.mk _ _ none)))) => u = t
  | _ => false

/-- Whether a request is answered with a refusal. -/
def Dealing.refuses (t : Nat) : Dealing → Bool
  | .resolved u (.object m) => u = t && (Fields.getD m "error" .null matches .object (_ :: _))
  | _ => false

def Dealing.resolves (t : Nat) : Dealing → Bool
  | .resolved u _ => u = t
  | _ => false

lemma Dealing.eq_accepted_of_opens {t : Nat} {d : Dealing} (h : d.opens t) :
    ∃ callback, d = .accepted t (some (.opening callback)) ∧ Callback.IsSteady callback := by
  unfold opens at h
  split at h
  next u label actions =>
    obtain rfl := of_decide_eq_true h
    exact ⟨_, rfl, by simp [Callback.IsSteady]⟩
  next => cases h

lemma Dealing.eq_resolved_of_refuses {t : Nat} {d : Dealing} (h : d.refuses t) :
    ∃ m : Fields, d = .resolved t (.object m) ∧ m.Refuses := by
  unfold refuses at h
  split at h
  next u m =>
    rw [Bool.and_eq_true] at h
    obtain rfl := of_decide_eq_true h.1
    refine ⟨m, rfl, ?_⟩
    have herror := h.2
    split at herror
    next field fields he => exact ⟨field :: fields, he, by simp⟩
    next => cases herror
  next => cases h

/-- The callback that is told of the refusal ticks, and is told before the session ends. -/
theorem ends_tick_of_refuses_code :
    let opened := some (Callback.mk "opened" [.session .null .tick] none)
    let actions : List Action :=
      [.session .null (.handshake .null "editor" "1" opened), .session .null .tick,
        .link .null (.write [Message.errorResponse (.int 1) (.int 1) "no" .null])]
    (World.serving "server").IsNew ∧ actions.all (Conduct.any.admits .host) ∧
      ∃ o ∈ outcomes (.serving "server") actions, (o.world.session 0).status = .initializing ∧
        Act.Ends (Session.tick (callWithin nestingLimit) 0) o.world fun result v =>
          result.isOk ∧ (dealings 0 v.events).countP (·.answers 0) = 1 ∧
            (v.session 0).status = .terminated := by
  intro opened actions
  have hw : (World.serving "server").IsNew := World.isNew_serving "server"
  have ha : actions.all (Conduct.any.admits .host) := by decide
  have hrun : ∃ o ∈ outcomes (.serving "server") actions, (o.world.session 0).status = .initializing ∧
      (∃ d ∈ dealings 0 o.world.events, d.opens 0) ∧
      (∀ d ∈ dealings 0 o.world.events, ¬ d.resolves 0) ∧
      let r := (Session.tick (callWithin nestingLimit) 0).run o.world
      r.1.isOk ∧ (∃ d ∈ dealings 0 r.2.events, d.refuses 0) ∧
        (r.2.story 0).all Event.isSmooth ∧ (r.2.session 0).correlator.lastId < numberLimit ∧
          (dealings 0 r.2.events).countP (·.answers 0) = 1 := by
    decide +kernel
  obtain ⟨o, ho, hs, ⟨d, hd, hopens⟩, hopen, hok, ⟨e, he, hrefuses⟩, hsmooth, hfew, honce⟩ := hrun
  obtain ⟨callback, rfl, hsteady⟩ := Dealing.eq_accepted_of_opens hopens
  obtain ⟨m, rfl, hm⟩ := Dealing.eq_resolved_of_refuses hrefuses
  rw [← World.dealings_story, mem_dealings_iff (by simp)] at hd he
  have hopen : ∀ r, .dealt 0 (.resolved 0 r) ∉ o.world.story 0 := fun r hr => by
    rw [← mem_dealings_iff (by simp), World.dealings_story] at hr
    exact hopen _ hr (by simp [Dealing.resolves])
  have hreached : o.world.Reached .any 0 := World.reached_of_mem_outcomes hw ha ho Nat.zero_lt_one
  have hends := ends_tick_of_refuses hreached nestingLimit hs hd hopen hsteady
  have hshallow := (@isSmooth_of_all 0 _ hsmooth).shallow
  have hover := (hends m he hm hshallow hfew).1.resolve_right fun ⟨f, hf, _⟩ => by
    rw [hf] at hok
    cases hok
  exact ⟨hw, ha, o, ho, hs, hok, honce, hover⟩

/-- The callback fails when it is told of the refusal: the session waits for ever. -/
theorem initializing_of_mem_outcomes_raise :
    let opened := some (Callback.mk "opened" [] (some "no"))
    let actions : List Action :=
      [.session .null (.handshake .null "editor" "1" opened), .session .null .tick,
        .link .null (.write [Message.errorResponse (.int 1) (.int 1) "no" .null])]
    (World.serving "server").IsNew ∧ actions.all (Conduct.any.admits .host) ∧
      ∃ o ∈ outcomes (.serving "server") actions, (o.world.session 0).status = .initializing ∧
        (o.world.session 0).isAlive ∧ (∀ d ∈ dealings 0 o.world.events, ¬ d.resolves 0) ∧
        Act.Ends (Session.tick (callWithin nestingLimit) 0) o.world fun result v =>
          result.isOk ∧ (∃ d ∈ dealings 0 v.events, d.refuses 0) ∧
            (v.session 0).status = .initializing ∧ (v.session 0).teardownReason = none ∧
              (v.session 0).correlator.pending.isEmpty := by
  refine ⟨World.isNew_serving "server", by decide, ?_⟩
  unfold Act.Ends
  decide +kernel

end LanguageClient
