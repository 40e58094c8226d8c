import LanguageClient.Proofs.Steps.Sound

/-!
How a session ends. It never goes back; once it is over its link is closed, and what waits for an
answer again has a number that was not given before.
-/

namespace LanguageClient

variable {c : Conduct} {id : SessionId} {p q : Position}

lemma Status.eq_terminated_of_rank {s : Status} (h : Status.terminated.rank ≤ s.rank) :
    s = .terminated := by
  cases s <;> simp [rank] at h ⊢

lemma Status.isLeaving_of_or {s : Status} (h : s = .shuttingDown ∨ s = .terminated) : s.isLeaving := by
  rcases h with rfl | rfl <;> rfl

lemma Status.isLeaving_iff_rank {s : Status} : s.isLeaving ↔ Status.shuttingDown.rank ≤ s.rank := by
  cases s <;> decide

lemma Step.rank_le (h : Step c id p q) : p.session.status.rank ≤ q.session.status.rank := by
  cases h
  case introduced status _ _ _ _ => simp [status, Status.rank]
  case deferred item _ _ _ _ _ _ _ | queued item _ _ _ _ _ _ => cases item <;> exact Nat.le_refl _
  case took s es t K m reader next running =>
    obtain ⟨responses, errors, he⟩ := Session.exists_enqueue_eq { s with reader } m
    rw [he]
  case stuck status _ _ => simp [status, Status.rank]
  case welcomed status _ =>
    rw [status]
    exact Nat.le_succ _
  case left s _ _ _ _ status => cases h : s.status <;> simp_all [Status.isLeaving, Status.rank]
  case parted s _ _ _ _ _ | saidGoodbye s _ _ _ _ _ _ _ _ | unheardGoodbye s _ _ _ _ _ _ _
      | ended s _ _ _ =>
    cases s.status <;> simp [Status.rank]
  all_goals exact Nat.le_refl _

lemma Step.terminated (h : Step c id p q) (hp : p.session.status = .terminated) :
    q.session.status = .terminated :=
  Status.eq_terminated_of_rank (hp ▸ h.rank_le)

lemma Steps.rank_le (h : Steps c id p q) : p.session.status.rank ≤ q.session.status.rank := by
  induction h with
  | refl => exact Nat.le_refl _
  | tail _ h ih => exact Nat.le_trans ih h.rank_le

lemma Steps.terminated (h : Steps c id p q) (hp : p.session.status = .terminated) :
    q.session.status = .terminated :=
  Status.eq_terminated_of_rank (hp ▸ h.rank_le)

/-- A session on its way out stays so. -/
lemma Steps.isLeaving (h : Steps c id p q) (hp : p.session.status = .shuttingDown) :
    q.session.status = .shuttingDown ∨ q.session.status = .terminated := by
  have hrank := h.rank_le
  rw [hp] at hrank
  cases hq : q.session.status <;> simp [hq, Status.rank] at hrank ⊢

/-- A session that is not on its way out never was. -/
lemma Steps.live (h : Steps c id p q) (hq : q.session.status.isLeaving = false) :
    p.session.status.isLeaving = false := by
  rw [← Bool.not_eq_true, Status.isLeaving_iff_rank] at hq ⊢
  exact fun hp => hq (Nat.le_trans hp h.rank_le)

/-! The link -/

/-- A session that is over has a closed link, unless it is being ended. -/
def Position.IsShut (p : Position) : Prop :=
  p.session.status = .terminated → (∃ last, .ending last ∈ p.tasks) ∨ p.session.IsClosed

lemma Step.isShut (h : Step c id p q) (hp : p.IsShut) : q.IsShut := by
  intro hq
  cases h
  case relinked s es K l l' linked closed =>
    refine (hp hq).imp_right fun hl k hk => ?_
    obtain rfl := Option.some.inj hk
    exact closed.trans (hl l linked)
  case launched status =>
    rw [status] at hq
    cases hq
  case introduced | stuck | welcomed | left => cases hq
  case deferred item _ _ _ _ _ _ _ | queued item _ _ _ _ _ _ => cases item <;> exact hp hq
  case took s es t K m reader _ _ =>
    obtain ⟨responses, errors, he⟩ := Session.exists_enqueue_eq { s with reader } m
    rw [he] at hq ⊢
    exact hp hq
  case parted | saidGoodbye | unheardGoodbye | ended => exact .inl ⟨_, List.mem_cons_self⟩
  case buried s es K timeout status settled =>
    refine .inr fun l hl => ?_
    obtain ⟨l', -, rfl⟩ := Option.map_eq_some_iff.mp hl
    rfl
  case resolved | turnedDown =>
    exact (hp hq).imp_left fun h => by simpa [Task.mem_owed] using h
  all_goals exact (hp hq).imp_left fun h => by simpa using h

lemma Steps.isShut (h : Steps c id p q) (hp : p.IsShut) : q.IsShut := by
  induction h with
  | refl => exact hp
  | tail _ h ih => exact h.isShut ih

/-- What has run down to where it was begun is over with a closed link, if it is over. -/
lemma Steps.isClosed {s s' : Session} {es es' : List Event} {K : List Task}
    (h : Steps c id ⟨s, es, K⟩ ⟨s', es', K⟩) (hK : ∀ last, .ending last ∉ K) (hs : s.status ≠ .terminated)
    (hs' : s'.status = .terminated) : s'.IsClosed :=
  (h.isShut (fun ht => (hs ht).elim) hs').resolve_left fun ⟨last, hm⟩ => hK last hm

lemma Session.IsClosed.isAlive {s : Session} (h : s.IsClosed) : s.isAlive = false := by
  unfold Session.isAlive
  cases hl : s.link with
  | none => rfl
  | some l =>
    have hc := h l hl
    simp [Link.isAlive, hc]

/-! The end in the events -/

def Event.isEnd : Event → Bool
  | .noted _ .ended => true
  | _ => false

/-- What happened before a session was over, the last first. -/
def beforeEnd (id : SessionId) : List Event → List Event
  | [] => []
  | .noted session .ended :: es => if session = id then es else beforeEnd id es
  | _ :: es => beforeEnd id es

lemma beforeEnd_subset (es : List Event) : beforeEnd id es ⊆ es := by
  fun_induction beforeEnd id es with
  | case1 => exact List.Subset.refl _
  | case2 => exact List.subset_cons_self _ _
  | case3 _ _ _ ih | case4 _ _ _ ih => exact List.subset_cons_of_subset _ ih

lemma beforeEnd_ended (es : List Event) : beforeEnd id (.noted id .ended :: es) = es :=
  if_pos rfl

lemma beforeEnd_writes {s : Session} {message : Json} {es es' : List Event}
    {result : Except Fault Unit} (h : Writes id s message es result es') :
    beforeEnd id es' = beforeEnd id es := by
  cases h <;> rfl

lemma beforeEnd_acceptance (item : Deferred) (es : List Event) :
    beforeEnd id (Deferred.acceptance id item ++ es) = beforeEnd id es := by
  cases item <;> rfl

lemma beforeEnd_burial (s : Session) (timeout : Json) (es : List Event) :
    beforeEnd id (s.burial id timeout ++ es) = beforeEnd id es := by
  unfold Session.burial
  split <;> rfl

/-! What a step does about the end -/

/-- A session comes to its end, is through with it, or has nothing to do with it. -/
inductive Turn (id : SessionId) (p q : Position) : Prop where
  | ends {K : List Task} (status : p.session.status ≠ .terminated)
    (finished : q.session.status = .terminated)
    (tasks : q.tasks = .ending q.session.correlator.lastId :: K)
    (rest : ∀ last, .ending last ∈ K → .ending last ∈ p.tasks)
    (events : ∀ t n, .dealt id (.registered t n) ∈ beforeEnd id q.events →
      .dealt id (.registered t n) ∈ p.events)
  | buries {last : Nat} (finished : p.session.status = .terminated)
    (tasks : p.tasks = .ending last :: q.tasks) (session : q.session = p.session.buried)
    (settled : ∀ r ∈ q.session.correlator.pending, ∃ n, last < n ∧ r.Numbered n)
    (same : beforeEnd id q.events = beforeEnd id p.events)
  | goes (status : q.session.status = .terminated → p.session.status = .terminated)
    (tasks : ∀ last, .ending last ∈ q.tasks ↔ .ending last ∈ p.tasks)
    (same : beforeEnd id q.events = beforeEnd id p.events)

lemma Step.turn (h : Step c id p q) : Turn id p q := by
  have hstatus : ∀ {s : Session}, s.status = .shuttingDown → s.status ≠ .terminated :=
    fun h ht => by cases h.symm.trans ht
  cases h
  case parted status => exact .ends (hstatus status) rfl rfl (by simp) (by simp [beforeEnd_ended])
  case ended status => exact .ends status rfl rfl (by simp) (by simp [beforeEnd_ended])
  case saidGoodbye status told left =>
    refine .ends (hstatus status) rfl rfl (by simp) fun t n hr => ?_
    rw [beforeEnd_ended] at hr
    exact told.mem_of_dealt (left.mem_of_dealt hr)
  case unheardGoodbye status closed told =>
    refine .ends (hstatus status) rfl rfl (by simp) fun t n hr => ?_
    rw [beforeEnd_ended] at hr
    exact told.mem_of_dealt hr
  case buried timeout status settled =>
    exact .buries status rfl rfl settled (beforeEnd_burial _ timeout _)
  case deferred item _ _ _ _ _ _ _ =>
    refine .goes (fun h => ?_) (fun _ => .rfl) (beforeEnd_acceptance item _)
    cases item <;> exact h
  case queued item _ _ _ _ _ _ =>
    refine .goes (fun h => ?_) (fun _ => .rfl) (beforeEnd_acceptance item _)
    cases item <;> exact h
  case took s es t K m reader next running =>
    obtain ⟨responses, errors, he⟩ := Session.exists_enqueue_eq { s with reader } m
    rw [he]
    exact .goes (fun h => h) (fun _ => .rfl) rfl
  case notified writes | replied writes =>
    exact .goes (fun h => h) (fun _ => by simp) (beforeEnd_writes writes)
  case requested writes =>
    have hsame := beforeEnd_writes writes
    exact .goes (fun h => h) (fun _ => .rfl) hsame
  case introduced => exact .goes (by simp [Session.introduce]) (fun _ => .rfl) rfl
  case stuck | welcomed => exact .goes (fun h => by cases h) (fun _ => by simp [Task.mem_owed]) rfl
  case left => exact .goes (by simp) (fun _ => by simp) rfl
  all_goals exact .goes (fun h => h) (fun _ => by simp [Task.mem_owed]) rfl

/-- A session that is being ended is over. -/
lemma Step.over_of_ending (h : Step c id p q) (hp : ∀ last, .ending last ∈ p.tasks →
    p.session.status = .terminated) {last : Nat} (ht : .ending last ∈ q.tasks) :
    q.session.status = .terminated := by
  cases h.turn with
  | ends status finished tasks rest events => exact finished
  | buries finished tasks session settled same => exact h.terminated finished
  | goes status tasks same => exact h.terminated (hp last ((tasks last).mp ht))

/-! What is pending -/

/-- What waits for an answer waited for it before, or has a number that was not given before. -/
def Session.AddsNew (s s' : Session) : Prop :=
  ∀ r ∈ s'.correlator.pending,
    r ∈ s.correlator.pending ∨ ∃ n, s.correlator.lastId < n ∧ r.Numbered n

lemma Session.AddsNew.of_subset {s s' : Session}
    (h : s'.correlator.pending ⊆ s.correlator.pending) : s.AddsNew s' :=
  fun _ hr => .inl (h hr)

lemma Session.AddsNew.trans {s t u : Session} (h : s.AddsNew t) (g : t.AddsNew u)
    (hl : s.correlator.lastId ≤ t.correlator.lastId) : s.AddsNew u := by
  intro r hr
  rcases g r hr with hr | ⟨n, hn, hnumbered⟩
  · exact h r hr
  · exact .inr ⟨n, Nat.lt_of_le_of_lt hl hn, hnumbered⟩

lemma Step.addsNew (h : Step c id p q) (hp : p.session.Sound c id p.events) :
    p.session.AddsNew q.session := by
  cases h
  case deferred item _ _ _ _ _ _ _ | queued item _ _ _ _ _ _ =>
    cases item <;> exact .of_subset (List.Subset.refl _)
  case took s es t K m reader next running =>
    obtain ⟨responses, errors, he⟩ := Session.exists_enqueue_eq { s with reader } m
    rw [he]
    exact .of_subset (List.Subset.refl _)
  case requested s es K r rest p now result es' queue free first entry writes =>
    obtain ⟨-, -, hnumbered⟩ := Correlator.numbered_of_entry entry
    intro k hk
    change k ∈ Correlator.insert p s.correlator.pending at hk
    rw [(hp.insert_eq hnumbered).2, List.mem_append, List.mem_singleton] at hk
    rcases hk with hk | rfl
    · exact .inl hk
    · exact .inr ⟨_, Nat.lt_succ_self _, hnumbered⟩
  case resolved => exact .of_subset (List.filter_subset_self _)
  all_goals exact .of_subset (List.Subset.refl _)

lemma Steps.addsNew (h : Steps c id p q) (hp : p.session.Sound c id p.events) :
    p.session.AddsNew q.session := by
  induction h with
  | refl => exact .of_subset (List.Subset.refl _)
  | tail hr h ih => exact ih.trans (h.addsNew (Steps.sound hr hp)) (Steps.lastId_le hr)

end LanguageClient
