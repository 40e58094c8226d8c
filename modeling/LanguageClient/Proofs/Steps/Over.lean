import LanguageClient.Proofs.Steps.Answering
import LanguageClient.Proofs.Steps.Passage

/-!
What is left of a session that is over. Once its end is through, nothing waits to be sent or answered,
and nothing ever will.
-/

namespace LanguageClient

variable {c : Conduct} {id : SessionId} {p q : Position}

/-! Nothing comes back -/

lemma Session.IsOver.isLeaving {s : Session} (h : s.IsOver) : s.status.isLeaving := by
  rw [h.status]
  rfl

/-- A session that was over when it was buried has nothing left, if nothing was pending. -/
lemma Session.isOver_buried {s : Session} (hs : s.status = .terminated)
    (hp : s.correlator.pending = []) : s.buried.IsOver where
  status := hs
  pending := hp
  notifications := rfl
  requests := rfl
  deferred := rfl
  openDocuments := rfl
  closed l hl := by
    obtain ⟨l', -, rfl⟩ := Option.map_eq_some_iff.mp hl
    rfl

lemma Step.isOver (h : Step c id p q) (hp : p.session.IsOver) : q.session.IsOver := by
  have hleaving := hp.isLeaving
  have hstatus := hp.status
  cases h
  case relinked s es K l l' linked closed =>
    refine { hp with closed := fun k hk => ?_ }
    obtain rfl := Option.some.inj hk
    exact closed.trans (hp.closed l linked)
  case documented s es K documents status fewer =>
    exact { hp with openDocuments := List.subset_nil.mp (hp.openDocuments ▸ fewer) }
  case deferred status lifecycle => rcases status with h | h <;> cases h.symm.trans hstatus
  case queued status =>
    rcases status with h | ⟨h, -⟩
    · cases h.symm.trans hstatus
    · cases h.symm.trans hleaving
  case notified queue free writes => cases queue.symm.trans hp.notifications
  case requested queue free first entry writes | dropped queue free entry =>
    cases queue.symm.trans hp.requests
  case took s es t K m reader next running =>
    obtain ⟨responses, errors, he⟩ := Session.exists_enqueue_eq { s with reader } m
    rw [he]
    exact { hp with }
  case resolved found source reason =>
    have hmem := (Correlator.mem_of_answered? found).1
    rw [hp.pending] at hmem
    cases hmem
  case overtaken => exact { hp with notifications := rfl, requests := rfl, deferred := rfl }
  case buried timeout status settled => exact Session.isOver_buried hstatus hp.pending
  case launched status | introduced status _ _ _ _ | stuck status _ _ | welcomed status _
      | parted _ status | saidGoodbye status _ _ | unheardGoodbye status _ _ | abandoned status _ =>
    cases status.symm.trans hstatus
  case left status => cases status.symm.trans hleaving
  case ended status => exact (status hstatus).elim
  all_goals exact { hp with }

/-- Nothing more comes of a session: it is over, and no answer is about to be given. -/
structure Position.IsSpent (p : Position) : Prop where
  finished : p.session.IsOver
  unanswering : ∀ ticket handler m, .answering ticket handler m ∉ p.tasks

lemma Step.isSpent (h : Step c id p q) (hp : p.IsSpent) : q.IsSpent where
  finished := h.isOver hp.finished
  unanswering ticket handler m ht := by
    have hstatus := hp.finished.status
    cases h
    case resolved found source reason =>
      have hmem := (Correlator.mem_of_answered? found).1
      rw [hp.finished.pending] at hmem
      cases hmem
    all_goals
      first
      | exact hp.unanswering _ _ _ List.mem_cons_self
      | exact hp.unanswering ticket handler m (by simpa using ht)

lemma Steps.isSpent (h : Steps c id p q) (hp : p.IsSpent) : q.IsSpent := by
  induction h with
  | refl => exact hp
  | tail _ h ih => exact h.isSpent ih

/-- Whether nothing was written in an event, and no one was answered. -/
def Event.isIdle : Event → Bool
  | .sent _ _ _ | .answered _ _ _ _ _ => false
  | _ => true

lemma Writes.adds_isIdle {s : Session} {message : Json} {es es' : List Event}
    {result : Except Fault Unit} (h : Writes id s message es result es') (hs : s.IsClosed) :
    Adds Event.isIdle es es' := by
  cases h with
  | sent linked accepts encodes =>
    have hclosed := hs _ linked
    simp [Link.accepts, Link.isAlive, hclosed] at accepts
  | refused | unlinked => exact .single rfl
  | unencodable => exact .refl es

lemma Step.adds_isIdle (h : Step c id p q) (hp : p.IsSpent) : Adds Event.isIdle p.events q.events := by
  have hclosed := hp.finished.closed
  cases h
  case introduced => exact (Adds.single rfl).cons rfl
  case deferred item _ _ _ _ _ _ _ | queued item _ _ _ _ _ _ =>
    exact (Adds.single rfl).acceptance (fun _ _ => rfl) item
  case notified writes | replied writes => exact writes.adds_isIdle hclosed
  case requested writes => exact .trans (.single rfl) (writes.adds_isIdle hclosed)
  case answered => exact (hp.unanswering _ _ _ List.mem_cons_self).elim
  case saidGoodbye told left =>
    exact ((told.adds_isIdle hclosed).trans (left.adds_isIdle hclosed)).cons rfl
  case unheardGoodbye told => exact (told.adds_isIdle hclosed).cons rfl
  case buried s es K last timeout status settled =>
    dsimp only
    unfold Session.burial
    split
    · exact (Adds.single rfl).cons rfl
    · exact .single rfl
  all_goals first | exact .refl _ | exact .single rfl

lemma Steps.adds_isIdle (h : Steps c id p q) (hp : p.IsSpent) :
    Adds Event.isIdle p.events q.events := by
  induction h with
  | refl => exact .refl _
  | tail hr h ih => exact ih.trans (h.adds_isIdle (Steps.isSpent hr hp))

/-! The end -/

/-- What is pending while a session is being ended was so before. -/
lemma Step.pending_subset (h : Step c id p q) (hc : c.LeavesPhases)
    (hp : p.session.status = .terminated) {last : Nat} (ht : .ending last ∈ p.tasks) :
    q.session.correlator.pending ⊆ p.session.correlator.pending := by
  cases h
  case requested queue free first entry writes =>
    rcases free.1 with hs | ⟨before, earlier, rfl⟩ | ha
    · exact (hs hp).elim
    · simp at ht
    · rw [hc .sendRequests rfl] at ha
      cases ha
  case resolved => exact List.filter_subset_self _
  case deferred item _ _ _ _ _ _ _ | queued item _ _ _ _ _ _ =>
    cases item <;> exact List.Subset.refl _
  case took s es t K m reader next running =>
    obtain ⟨responses, errors, he⟩ := Session.exists_enqueue_eq { s with reader } m
    rw [he]
    exact List.Subset.refl _
  all_goals exact List.Subset.refl _

/-- A session that is over is through with its end, or is in the middle of it: then nothing is pending but
what will fail. -/
structure Position.Expires (p : Position) : Prop where
  finished : ∀ last, .ending last ∈ p.tasks → p.session.status = .terminated
  numbered : ∀ last, .ending last ∈ p.tasks → ∀ r ∈ p.session.correlator.pending,
    ∃ n ≤ last, r.Numbered n
  ended : p.session.status = .terminated → (∃ last, .ending last ∈ p.tasks) ∨ p.session.IsOver

lemma Position.expires_of_ne (hp : p.session.status ≠ .terminated)
    (ht : ∀ last, .ending last ∉ p.tasks) : p.Expires where
  finished last h := (ht last h).elim
  numbered last h := (ht last h).elim
  ended h := (hp h).elim

lemma Step.expires (h : Step c id p q) (hc : c.LeavesPhases)
    (hs : p.session.Sound c id p.events) (hp : p.Expires) : q.Expires := by
  cases h.turn with
  | ends status finished tasks rest events =>
    refine ⟨fun _ => h.over_of_ending hp.finished, fun last ht r hr => ?_, fun _ => .inl ?_⟩
    · rw [tasks] at ht
      rcases List.mem_cons.mp ht with he | ht
      · obtain rfl := Task.ending.inj he
        obtain ⟨n, hle, hn, -⟩ := (h.sound hs).numbered r hr
        exact ⟨n, hle, hn⟩
      · exact (status (hp.finished last (rest last ht))).elim
    · exact ⟨_, tasks ▸ List.mem_cons_self⟩
  | buries finished tasks session settled same =>
    -- What is pending has a number up to the last one, and no such number is left.
    have hnone : q.session.correlator.pending = [] := by
      refine List.eq_nil_iff_forall_not_mem.mpr fun r hr => ?_
      obtain ⟨n, hlt, hn⟩ := settled r hr
      rw [session] at hr
      obtain ⟨k, hle, hk⟩ := hp.numbered _ (tasks ▸ List.mem_cons_self) r hr
      obtain rfl := hn.number_eq hk rfl
      omega
    have hpending : p.session.correlator.pending = [] := by
      rw [session] at hnone
      exact hnone
    refine ⟨fun _ => h.over_of_ending hp.finished, fun last ht r hr => ?_, fun _ => .inr ?_⟩
    · rw [hnone] at hr
      cases hr
    · exact session ▸ Session.isOver_buried finished hpending
  | goes status tasks same =>
    refine ⟨fun _ => h.over_of_ending hp.finished, fun last ht r hr => ?_, fun hq => ?_⟩
    · have hmem := (tasks last).mp ht
      exact hp.numbered last hmem r (h.pending_subset hc (hp.finished last hmem) hmem hr)
    · refine (hp.ended (status hq)).imp (fun ⟨last, ht⟩ => ⟨last, (tasks last).mpr ht⟩) h.isOver

lemma Steps.expires (h : Steps c id p q) (hc : c.LeavesPhases)
    (hs : p.session.Sound c id p.events) (hp : p.Expires) : q.Expires := by
  induction h with
  | refl => exact hp
  | tail hr h ih => exact h.expires hc (Steps.sound hr hs) ih

/-! Messages that wait -/

/-- A callback has its turn, and no phase of a tick is run by itself. -/
structure Position.IsCalled (p : Position) : Prop where
  calling : .calling ∈ p.tasks
  phase : .phase ∉ p.tasks

lemma Step.isCalled (h : Step c id p q) (hc : c.LeavesPhases) (hp : p.IsCalled) : q.IsCalled where
  calling := h.calling hp.calling
  phase := h.phase_not_mem hc hp.calling hp.phase

lemma Steps.isCalled (h : Steps c id p q) (hc : c.LeavesPhases) (hp : p.IsCalled) : q.IsCalled := by
  induction h with
  | refl => exact hp
  | tail _ h ih => exact h.isCalled hc ih

lemma Step.inbox_eq_nil (h : Step c id p q) (hphase : .phase ∉ p.tasks)
    (hp : p.session.status = .terminated) (hi : p.session.inbox = ([], [])) :
    q.session.inbox = ([], []) := by
  obtain ⟨hresponses, herrors⟩ := Prod.mk.inj hi
  cases h
  case took running =>
    rcases running with hs | rfl
    · exact (hs hp).elim
    · simp at hphase
  case dispatched queue => cases queue.symm.trans hresponses
  case dispatchedError queue => cases queue.symm.trans herrors
  case overtaken | parted | saidGoodbye | unheardGoodbye | abandoned | buried => rfl
  case deferred item _ _ _ _ _ _ _ | queued item _ _ _ _ _ _ => cases item <;> exact hi
  all_goals exact hi

/-- No message waits once a session is over. -/
def Session.Emptied (s : Session) : Prop := s.status = .terminated → s.inbox = ([], [])

lemma Session.emptied_of_ne {s : Session} (h : s.status ≠ .terminated) : s.Emptied := fun hs => (h hs).elim

/-- A session that came to its end meanwhile is in the middle of it, or no message waits. -/
lemma Steps.emptied (h : Steps c id p q) (hc : c.LeavesPhases) (hp : p.IsCalled)
    (hs : p.session.Emptied) : (∃ last, .ending last ∈ q.tasks) ∨ q.session.Emptied := by
  induction h with
  | refl => exact .inr hs
  | tail hr h ih =>
    cases h.turn with
    | ends status finished tasks rest events => exact .inl ⟨_, tasks ▸ List.mem_cons_self⟩
    | buries finished tasks session settled same => exact .inr fun _ => session ▸ rfl
    | goes status tasks same =>
      refine ih.imp (fun ⟨last, ht⟩ => ⟨last, (tasks last).mpr ht⟩) fun hempty hq => ?_
      exact h.inbox_eq_nil (Steps.isCalled hr hc hp).phase (status hq) (hempty (status hq))

/-- Whether messages are neither taken nor dispatched nor dropped meanwhile. -/
def Task.isAside : Task → Bool
  | answering _ _ _ | opening _ | refused _ _ _ | turning _ _ | telling _ _ | expiring | calling
  | performing _ _ _ => true
  | _ => false

lemma Task.not_isAside_of_drains {t : Task} (h : t.drains) : ¬ t.isAside := by
  cases t <;> simp_all [drains, isAside]

lemma Task.isAside_of_mem_owed {t : Task} {ticket : Nat} {m : Fields} {handler : Option Handler}
    (h : t ∈ owed ticket m handler) : t.isAside := by
  obtain ⟨g, -, rfl⟩ := mem_owed.mp h
  rfl

lemma Step.isAside (h : Step c id p q) (hc : c.LeavesPhases) (hcalling : .calling ∈ p.tasks)
    (hp : p.session.status = .terminated) (ht : ∀ t ∈ p.tasks, t.isAside) :
    (∀ t ∈ q.tasks, t.isAside) ∧ q.session.inbox = p.session.inbox := by
  have hleaving : p.session.status.isLeaving := by rw [hp]; rfl
  cases h
  case fed drains _ _ _ => exact (Task.not_isAside_of_drains drains (ht _ List.mem_cons_self)).elim
  case deferred item _ _ _ _ _ _ _ | queued item _ _ _ _ _ _ => cases item <;> exact ⟨ht, rfl⟩
  case dispatched drains free queue | dispatchedError drains free queue =>
    exact (Task.not_isAside_of_drains drains (ht _ List.mem_cons_self)).elim
  case skipped | took | unread | readAll | overtaken | parted | saidGoodbye | unheardGoodbye
      | abandoned | buried | rested | exited =>
    cases ht _ List.mem_cons_self
  case resolved found source reason =>
    exact ⟨List.forall_mem_append.mpr ⟨fun _ => Task.isAside_of_mem_owed, ht⟩, rfl⟩
  case turnedDown error =>
    rw [List.forall_mem_cons] at ht
    exact ⟨List.forall_mem_append.mpr ⟨fun _ => Task.isAside_of_mem_owed,
      List.forall_mem_cons.mpr ⟨rfl, ht.2⟩⟩, rfl⟩
  case welcomed status result => cases status.symm.trans hp
  case left status => cases status.symm.trans hleaving
  case ended status | ticked status linked => exact (status hp).elim
  case entered isPhase free =>
    rcases free with ⟨rfl, -⟩ | ha
    · simp at hcalling
    · rw [hc _ isPhase] at ha
      cases ha
  case began | hailed | lapsing => exact ⟨List.forall_mem_cons.mpr ⟨rfl, ht⟩, rfl⟩
  all_goals first | exact ⟨ht, rfl⟩ | exact ⟨(List.forall_mem_cons.mp ht).2, rfl⟩

lemma Steps.inbox_eq (h : Steps c id p q) (hc : c.LeavesPhases) (hcalling : .calling ∈ p.tasks)
    (hp : p.session.status = .terminated) (ht : ∀ t ∈ p.tasks, t.isAside) :
    q.session.inbox = p.session.inbox := by
  have hall : .calling ∈ q.tasks ∧ q.session.status = .terminated ∧ (∀ t ∈ q.tasks, t.isAside) ∧
      q.session.inbox = p.session.inbox := by
    induction h with
    | refl => exact ⟨hcalling, hp, ht, rfl⟩
    | tail _ h ih =>
      obtain ⟨hcalling, hstatus, ht, hinbox⟩ := ih
      obtain ⟨ht', hinbox'⟩ := h.isAside hc hcalling hstatus ht
      exact ⟨h.calling hcalling, h.terminated hstatus, ht', hinbox'.trans hinbox⟩
  exact hall.2.2.2

/-! Requests that are pending -/

/-- What is pending when a session is on its way out is resolved before it is not pending any more, and
whoever waits for it is told. -/
lemma Steps.settled (h : Steps c id p q) (hs : p.session.Sound c id p.events)
    (hp : p.session.status.isLeaving) {r : Pending Handler}
    (hr : r ∈ p.session.correlator.pending) :
    r ∈ q.session.correlator.pending ∨
      ∃ m : Fields, .dealt id (.resolved r.ticket (.object m)) ∈ q.events ∧
        ∀ k ∈ r.handler, k.callback?.isSome → q.Tells id r.ticket m k := by
  induction h with
  | refl => exact .inl hr
  | @tail x y hpx h ih =>
    have hleaving : x.session.status.isLeaving :=
      Status.isLeaving_iff_rank.mpr (Nat.le_trans (Status.isLeaving_iff_rank.mp hp) (Steps.rank_le hpx))
    rcases ih with hr | ⟨m, hm, htells⟩
    · exact (h.pending_or (Steps.sound hpx hs) hr).imp_right fun ⟨m, hevents, ht, _⟩ =>
        ⟨m, hevents ▸ List.mem_cons_self, fun k hk _ => Position.tells_of_owed ht hk⟩
    · refine .inr ⟨m, h.suffix.subset hm, fun k hk hsome => h.tells hsome (htells k hk hsome) ?_⟩
      intro hstatus
      rw [hstatus] at hleaving
      cases hleaving

/-! What an operation makes of it -/

/-- A session turned to its end, and nothing came in between. -/
def World.Quits (c : Conduct) (id : SessionId) (v w : World) : Prop :=
  ∃ (L : List Task) (p : Position), (∀ ticket handler m, .answering ticket handler m ∉ L) ∧
    Steps c id (v.position id L) p ∧ p.session.status.isLeaving ∧
    p.session.correlator.pending = (v.session id).correlator.pending ∧
    Steps c id p (w.position id L)

namespace World

variable {ℓ : Level} {L : List Task} {v w : World}

lemma Moves.isOver (h : Moves c ℓ id L L v w) (hv : v.Ready c id) (hc : c.LeavesPhases)
    (hL : ∀ last, .ending last ∉ L) (hs : (v.session id).status ≠ .terminated)
    (hw : (w.session id).status = .terminated) : (w.session id).IsOver := by
  have hsteps := h.steps [] ℓ.base_nil
  rw [List.append_nil] at hsteps
  have hexpires := hsteps.expires hc hv.sound (Position.expires_of_ne hs hL)
  exact (hexpires.ended hw).resolve_left fun ⟨last, ht⟩ => hL last ht

lemma Moves.emptied {M : List Task} (h : Moves c .callback id L M v w) (hL : .phase ∉ L)
    (hc : c.LeavesPhases) (hv : (v.session id).Emptied) (hM : ∀ last, .ending last ∉ M := by simp) :
    (w.session id).Emptied := by
  have hsteps := h.steps [.calling] (Task.areIdle_singleton rfl)
  refine (hsteps.emptied hc ⟨List.mem_append_right L List.mem_cons_self, ?_⟩ hv).resolve_left ?_
  · simpa [position] using hL
  · rintro ⟨last, ht⟩
    exact hM last (by simpa [position] using ht)

lemma Moves.inbox_eq {M : List Task} (h : Moves c .callback id L M v w) (hL : ∀ t ∈ L, t.isAside)
    (hc : c.LeavesPhases) (hv : (v.session id).status = .terminated) :
    (w.session id).inbox = (v.session id).inbox := by
  have hcalling : Task.calling ∈ L ++ [.calling] := List.mem_append_right L List.mem_cons_self
  refine (h.steps [.calling] (Task.areIdle_singleton rfl)).inbox_eq hc hcalling hv ?_
  exact List.forall_mem_append.mpr ⟨hL, fun t ht => by rw [List.mem_singleton.mp ht]; rfl⟩

lemma Quits.of_moves {u : World} {M : List Task} (hL : ∀ ticket handler m, .answering ticket handler m ∉ L)
    (h : Moves c .callback id L M v u) (hu : (u.session id).status.isLeaving)
    (hp : (u.session id).correlator.pending = (v.session id).correlator.pending)
    (g : Moves c .callback id M L u w) : Quits c id v w :=
  ⟨L, u.position id M, hL, by simpa using h.steps [] Task.areIdle_nil, hu, hp,
    by simpa using g.steps [] Task.areIdle_nil⟩

lemma Quits.isSettled (h : Quits c id v w) (hv : v.Ready c id)
    (hw : (w.session id).correlator.pending = []) {r : Pending Handler}
    (hr : r ∈ (v.session id).correlator.pending) : r.IsSettled id (w.story id) := by
  obtain ⟨L, p, hL, hto, hleaving, hpending, hfrom⟩ := h
  rw [← hpending] at hr
  have hsettled := hfrom.settled (hto.sound hv.sound) hleaving hr
  have hnone : r ∉ (w.session id).correlator.pending := by simp [hw]
  obtain ⟨m, hm, htells⟩ := hsettled.resolve_left hnone
  refine ⟨m, hm, fun k hk hsome => ?_⟩
  exact (htells k hk hsome).resolve_right fun ⟨g, ht, _⟩ => hL _ _ _ ht

end World

end LanguageClient
