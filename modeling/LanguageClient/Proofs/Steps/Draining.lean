import LanguageClient.Proofs.Steps.Ending

/-!
How messages wait. A tick dispatches all that wait, so that once a callback has had its turn no more
of them wait than before.
-/

namespace LanguageClient

variable {c : Conduct} {id : SessionId} {p q : Position}

/-! Calm -/

lemma Calm.mono {s s' : Session} {es es' : List Event} (h : Calm id s' es') (hs : es <:+ es')
    (hl : s.correlator.lastId ≤ s'.correlator.lastId) : Calm id s es where
  readable f hf := h.readable f (hs.subset hf)
  tame m hm := h.tame m (hs.subset hm)
  few := Nat.lt_of_le_of_lt hl h.few

lemma Step.calm (h : Step c id p q) (hq : Calm id q.session q.events) :
    Calm id p.session p.events :=
  hq.mono h.suffix h.lastId_le

lemma Steps.calm (h : Steps c id p q) (hq : Calm id q.session q.events) :
    Calm id p.session p.events :=
  hq.mono h.suffix h.lastId_le

/-! Tasks of a tick -/

/-- No phase of a tick is run by itself, so that bytes are read only in the course of a tick. -/
structure Position.TicksWhole (p : Position) : Prop where
  phase : .phase ∉ p.tasks
  reading : ∀ K, .reading :: K <:+ p.tasks → .ticking ∈ K

/-- A callback is called, which leaves the phases of a tick alone. -/
structure Position.IsWithinCall (p : Position) : Prop where
  calling : .calling ∈ p.tasks
  whole : p.TicksWhole

/-- A phase of a tick is run by itself only if someone asks for it. -/
lemma Step.phase_or (h : Step c id p q) (hp : .phase ∉ p.tasks) : .phase ∉ q.tasks ∨
    ∃ a before earlier K, p.tasks = .performing a before earlier :: K ∧ a.isPhase ∧
      (K = [] ∧ c.host a ∨ c.callback a) := by
  cases h
  case entered isPhase free => exact .inr ⟨_, _, _, _, rfl, isPhase, free⟩
  case exited => exact (hp List.mem_cons_self).elim
  all_goals exact .inl (by simpa [Task.mem_owed] using hp)

lemma Step.phase_not_mem (h : Step c id p q) (hc : c.LeavesPhases) (hk : .calling ∈ p.tasks)
    (hp : .phase ∉ p.tasks) : .phase ∉ q.tasks :=
  (h.phase_or hp).resolve_right fun ⟨a, before, earlier, K, ht, isPhase, free⟩ => by
    rcases free with ⟨rfl, -⟩ | ha
    · simp [ht] at hk
    · cases ha.symm.trans (hc a isPhase)

lemma Step.reading_suffix (h : Step c id p q) (hp : p.TicksWhole) :
    ∀ K, .reading :: K <:+ q.tasks → .ticking ∈ K := by
  intro K hK
  have hpush : ∀ {t : Task} {K' : List Task}, .reading :: K <:+ t :: K' → t ≠ .reading →
      .reading :: K <:+ K' := by
    intro t K' hs ht
    rcases List.suffix_cons_iff.mp hs with h | h
    · exact (ht (List.cons.inj h).1.symm).elim
    · exact h
  have hskip : ∀ {L K' : List Task}, .reading :: K <:+ L ++ K' → .reading ∉ L → .reading :: K <:+ K' := by
    intro L K' hs hL
    induction L with
    | nil => exact hs
    | cons t L ih =>
      rw [List.mem_cons, not_or] at hL
      exact ih (hpush hs (Ne.symm hL.1)) hL.2
  have hpop : ∀ {t : Task} {K' : List Task}, p.tasks = t :: K' → .reading :: K <:+ K' →
      .ticking ∈ K := fun ht hs => hp.reading K (ht ▸ hs.trans (List.suffix_cons _ _))
  cases h
  case fed t K' data drains free linked running =>
    rcases List.suffix_cons_iff.mp hK with h | h
    · have ht : t ≠ .phase := fun ht => hp.phase (ht ▸ List.mem_cons_self)
      obtain rfl : K = t :: K' := (List.cons.inj h).2
      cases t with
      | ticking => exact List.mem_cons_self
      | phase => exact (ht rfl).elim
      | _ => cases drains
    · exact hp.reading K h
  case resolved => exact hp.reading K (hskip hK (by simp [Task.mem_owed]))
  case dispatched | dispatchedError => exact hp.reading K (hskip hK (by simp))
  case turnedDown | welcomed => exact hpop rfl (hpush (hskip hK (by simp [Task.mem_owed])) (by simp))
  case left | ended | ticked | entered | began | hailed | lapsing => exact hp.reading K (hpush hK (by simp))
  case parted | saidGoodbye | unheardGoodbye => exact hpop rfl (hpush hK (by simp))
  all_goals first | exact hp.reading K hK | exact hpop rfl hK

lemma Step.isWithinCall (h : Step c id p q) (hc : c.LeavesPhases) (hp : p.IsWithinCall) :
    q.IsWithinCall :=
  ⟨h.calling hp.calling, h.phase_not_mem hc hp.calling hp.whole.phase, h.reading_suffix hp.whole⟩

/-! The inbox -/

/-- No more messages wait than in another state. -/
structure Session.WaitsLess (s s₀ : Session) : Prop where
  responses : s.responses <:+ s₀.responses
  errors : s.errors <:+ s₀.errors

lemma Session.WaitsLess.refl (s : Session) : s.WaitsLess s :=
  ⟨List.suffix_refl _, List.suffix_refl _⟩

lemma Session.WaitsLess.trans {s t u : Session} (h : s.WaitsLess t) (g : t.WaitsLess u) :
    s.WaitsLess u :=
  ⟨h.responses.trans g.responses, h.errors.trans g.errors⟩

/-- In the course of a tick more messages may wait for a while. -/
lemma Step.waitsLess (h : Step c id p q) {s₀ : Session} (hw : p.TicksWhole)
    (hc : c.LeavesPhases) (hs : c.Sends p.session.config) (calm : Calm id p.session p.events)
    (hp : .ticking ∈ p.tasks ∨ p.session.WaitsLess s₀) :
    .ticking ∈ q.tasks ∨ q.session.WaitsLess s₀ := by
  have hempty : ∀ s : Session, s.responses = [] → s.errors = [] → s.WaitsLess s₀ := fun s hr he =>
    ⟨hr ▸ List.nil_suffix, he ▸ List.nil_suffix⟩
  cases h
  case ticked => exact .inl List.mem_cons_self
  case rested drained =>
    obtain ⟨hr, he⟩ := drained hc hs calm
    exact .inr (hempty _ hr he)
  case took s es t K m reader next running => exact .inl (List.mem_cons_of_mem _ (hw.reading _ (List.suffix_refl _)))
  case dispatched s es t K m rest drains free queue =>
    refine hp.imp (fun h => by simp_all) fun h => ⟨?_, h.errors⟩
    exact (queue ▸ List.suffix_cons m rest : rest <:+ s.responses).trans h.responses
  case dispatchedError s es t K m rest drains free queue =>
    refine hp.imp (fun h => by simp_all) fun h => ⟨h.responses, ?_⟩
    exact (queue ▸ List.suffix_cons m rest : rest <:+ s.errors).trans h.errors
  case deferred item _ _ _ _ _ _ _ | queued item _ _ _ _ _ _ =>
    cases item <;> exact hp.imp_right fun h => ⟨h.responses, h.errors⟩
  case overtaken | parted | saidGoodbye | unheardGoodbye | abandoned | buried =>
    exact .inr (hempty _ rfl rfl)
  all_goals
    refine hp.imp (fun h => ?_) fun h => ⟨h.responses, h.errors⟩
    simpa [Task.mem_owed] using h

/-- Once a callback has had its turn, no more messages wait than before. -/
lemma Steps.waitsLess (h : Steps c id p q) (hp : p.IsWithinCall) (hq : .ticking ∉ q.tasks)
    (hc : c.LeavesPhases) (hs : c.Sends p.session.config) (calm : Calm id q.session q.events) :
    q.session.WaitsLess p.session := by
  have hall : ∀ r, Steps c id p r → Calm id r.session r.events →
      r.IsWithinCall ∧ (.ticking ∈ r.tasks ∨ r.session.WaitsLess p.session) := by
    intro r hr
    induction hr with
    | refl => exact fun _ => ⟨hp, .inr (.refl _)⟩
    | tail hr h ih =>
      intro hq
      obtain ⟨hw, hp⟩ := ih (h.calm hq)
      have hconfig : c.Sends _ := (Steps.config_eq hr).symm ▸ hs
      exact ⟨h.isWithinCall hc hw, h.waitsLess hw.whole hc hconfig (h.calm hq) hp⟩
  exact (hall q h calm).2.resolve_left hq

end LanguageClient
