import LanguageClient.Proofs.Steps.Answering
import LanguageClient.Proofs.Steps.Runs

/-!
What becomes of the requests of a session that is over. One that was registered before the end is
answered once; one that still waited in a queue is dropped, and never answered.
-/

namespace LanguageClient

namespace Settlement

variable {c : Conduct} {id : SessionId} {p q : Position} {t n : Nat}

/-- A request that is resolved: whoever asked was told, or is about to be. -/
def IsSeenTo (id : SessionId) (p : Position) (t : Nat) (m : Fields) : Prop :=
  ∃ handler, .dealt id (.accepted t handler) ∈ p.events ∧
    ∀ k ∈ handler, k.callback?.isSome → p.Tells id t m k

lemma IsSeenTo.step {m : Fields} (hp : IsSeenTo id p t m) (h : Step c id p q) (steady : p.IsSteady) :
    IsSeenTo id q t m := by
  obtain ⟨handler, hacc, hsee⟩ := hp
  exact ⟨handler, h.suffix.subset hacc, fun k hk hsome => h.tells hsome (hsee k hk hsome) steady⟩

/-! The invariant -/

structure Settles (id : SessionId) (p : Position) : Prop where
  numbered : ∀ t n, .dealt id (.registered t n) ∈ p.events → n ≤ p.session.correlator.lastId
  registered : ∀ t n, .dealt id (.registered t n) ∈ p.events →
    (∃ r ∈ p.session.correlator.pending, r.ticket = t ∧ r.Numbered n) ∨
      ∃ m : Fields, .dealt id (.resolved t (.object m)) ∈ p.events
  resolved : ∀ t m, .dealt id (.resolved t (.object m)) ∈ p.events → IsSeenTo id p t m
  finished : ∀ last, .ending last ∈ p.tasks → p.session.status = .terminated
  ending : ∀ last, .ending last ∈ p.tasks →
    ∀ t n, .dealt id (.registered t n) ∈ beforeEnd id p.events → n ≤ last
  ended : p.session.status = .terminated → (∃ last, .ending last ∈ p.tasks) ∨
    ∀ r ∈ p.session.correlator.pending, ∀ t n, r.Numbered n →
      .dealt id (.registered t n) ∉ beforeEnd id p.events

lemma Settles.blank (config : Fields) (name : Json) :
    Settles id ⟨.blank config name, [], []⟩ where
  numbered _ _ h := (List.not_mem_nil h).elim
  registered _ _ h := (List.not_mem_nil h).elim
  resolved _ _ h := (List.not_mem_nil h).elim
  finished _ h := (List.not_mem_nil h).elim
  ending _ h := (List.not_mem_nil h).elim
  ended := nofun

lemma Settles.ended_step (hp : Settles id p) (h : Step c id p q) (hs : p.Sound c id)
    (hq : q.session.status = .terminated) : (∃ last, .ending last ∈ q.tasks) ∨
      ∀ r ∈ q.session.correlator.pending, ∀ t n, r.Numbered n →
        .dealt id (.registered t n) ∉ beforeEnd id q.events := by
  cases h.turn with
  | ends status finished tasks rest events => exact .inl ⟨_, tasks ▸ List.mem_cons_self⟩
  | buries finished tasks session settled same =>
    refine .inr fun r hr t n hn hreg => ?_
    obtain ⟨k, hlt, hk⟩ := settled r hr
    obtain rfl := hn.number_eq hk rfl
    have hle := hp.ending _ (tasks ▸ List.mem_cons_self) t n (same ▸ hreg)
    omega
  | goes status tasks same =>
    refine (hp.ended (status hq)).imp (fun ⟨last, hl⟩ => ⟨last, (tasks last).mpr hl⟩) fun hnone => ?_
    intro r hr t n hn hreg
    rw [same] at hreg
    rcases h.addsNew hs.session r hr with hr | ⟨k, hlt, hk⟩
    · exact hnone r hr t n hn hreg
    · obtain rfl := hn.number_eq hk rfl
      have hle := hp.numbered t n (beforeEnd_subset _ hreg)
      omega

lemma Settles.step (hp : Settles id p) (h : Step c id p q) (hs : p.Sound c id)
    (smooth : IsSmooth id q.events) : Settles id q where
  numbered t n hr := by
    rcases h.deals hs.session hr with hr | hd
    · exact Nat.le_trans (hp.numbered t n hr) h.lastId_le
    · cases hd
      exact Nat.le_refl _
  registered t n hr := by
    rcases h.deals hs.session hr with hr | hd
    · rcases hp.registered t n hr with ⟨r, hmem, rfl, hn⟩ | ⟨m, hm⟩
      · exact (h.pending_or hs.session hmem).imp (fun hmem => ⟨r, hmem, rfl, hn⟩)
          fun ⟨m, hevents, _⟩ => ⟨m, hevents ▸ List.mem_cons_self⟩
      · exact .inr ⟨m, h.suffix.subset hm⟩
    · cases hd with
      | registered mem numbered => exact .inl ⟨_, mem, rfl, numbered⟩
  resolved t m hr := by
    rcases h.deals hs.session hr with hr | hd
    · have hsteady := hs.isSteady (smooth.answered.of_suffix h.suffix)
      exact (hp.resolved t m hr).step h hsteady
    · cases hd with
      | resolved mem tasks =>
        have hacc := h.suffix.subset (hs.session.pendingAccepted _ mem)
        exact ⟨_, hacc, fun k hk _ => Position.tells_of_owed tasks hk⟩
  finished _ := h.over_of_ending hp.finished
  ending last ht t n hr := by
    cases h.turn with
    | ends status finished tasks rest events =>
      rw [tasks] at ht
      rcases List.mem_cons.mp ht with he | ht
      · obtain rfl := Task.ending.inj he
        exact Nat.le_trans (hp.numbered t n (events t n hr)) h.lastId_le
      · exact (status (hp.finished last (rest last ht))).elim
    | buries finished tasks session settled same =>
      exact hp.ending last (tasks ▸ List.mem_cons_of_mem _ ht) t n (same ▸ hr)
    | goes status tasks same => exact hp.ending last ((tasks last).mp ht) t n (same ▸ hr)
  ended hq := hp.ended_step h hs hq

lemma Settles.steps (hp : Settles id p) (h : Steps c id p q) (hs : p.Sound c id)
    (smooth : IsSmooth id q.events) : Settles id q := by
  induction h with
  | refl => exact hp
  | tail hr h ih =>
    exact (ih (smooth.of_suffix h.suffix)).step h (Steps.sound_position hr hs) smooth

end Settlement

/-- Who was answered was answered once. -/
lemma countP_answers_eq_one {w : World} {id : SessionId} (h : Correlated (dealings id w.events))
    {es : List Event} (hs : es <:+ w.story id) {t : Nat} {label response : Json} {title : Text}
    (mem : .answered id t label title response ∈ es) : (dealings id es).countP (·.answers t) = 1 := by
  have hmem : .answered t label response ∈ dealings id es :=
    List.mem_filterMap.mpr ⟨_, mem, if_pos rfl⟩
  have hpos : 0 < (dealings id es).countP (·.answers t) :=
    List.countP_pos_iff.mpr ⟨_, hmem, by simp [Dealing.answers]⟩
  have hle : (dealings id es).countP (·.answers t) ≤ (dealings id (w.story id)).countP (·.answers t) :=
    (hs.sublist.filterMap _).countP_le
  rw [World.dealings_story] at hle
  have honce := h.answeredOnce t
  omega

/-- Whether the request that opens a session was answered too late. -/
def Event.isLate (t : Nat) : Event → Bool
  | .noted _ (.late u) => u = t
  | _ => false

open Settlement in
/-- Once a session is over and the operation that ended it is through: who asked something with a
request that was registered before the end was answered once, and who asked with one that never was
registered was not answered. -/
theorem settled_of_mem_outcomes {c : Conduct} {w : World} (hw : w.IsNew) {actions : List Action}
    (ha : actions.all (c.admits .host)) {o : Outcome} (ho : o ∈ outcomes w actions) (id : SessionId)
    (smooth : IsSmooth id (o.world.story id)) (hs : (o.world.session id).status = .terminated)
    {t : Nat} (asked : ∃ d ∈ dealings id o.world.events, d.asks t)
    (awaited : ∀ e ∈ o.world.story id, ¬ e.isLate t) :
    ((∃ d ∈ dealings id (beforeEnd id (o.world.story id)), d.registers t) →
      (dealings id o.world.events).countP (·.answers t) = 1) ∧
    ((∀ d ∈ dealings id o.world.events, ¬ d.registers t) →
      (dealings id o.world.events).countP (·.answers t) = 0) := by
  have hsteps := steps_of_mem_outcomes hw ha ho id
  have hsettles := (Settles.blank _ _).steps hsteps (.blank _ _) smooth
  have hsound := sound_of_mem_outcomes hw (Conduct.actionsArePublic ha) ho
  have hcorrelated : Correlated (dealings id o.world.events) := (hsound.accounts id).correlated
  refine ⟨fun hregistered => ?_, fun hnone => ?_⟩
  · obtain ⟨d, hd, hreg⟩ := hregistered
    obtain ⟨n, rfl⟩ := Dealing.eq_registered_of_registers hreg
    have hn : .dealt id (.registered t n) ∈ beforeEnd id (o.world.story id) :=
      mem_dealings_iff (by simp) |>.mp hd
    obtain ⟨m, hm⟩ : ∃ m : Fields, .dealt id (.resolved t (.object m)) ∈ o.world.story id := by
      refine (hsettles.registered t n (beforeEnd_subset _ hn)).resolve_left ?_
      rintro ⟨r, hr, rfl, hnumbered⟩
      have hnot := (hsettles.ended hs).resolve_left (by rintro ⟨last, hl⟩; cases hl)
      exact hnot r hr _ n hnumbered hn
    obtain ⟨d, hd, hasks⟩ := asked
    obtain ⟨h, rfl, hsome⟩ := Dealing.eq_accepted_of_asks hasks
    obtain ⟨handler, hacc, hsee⟩ := hsettles.resolved t m hm
    have hacc' : .accepted t handler ∈ dealings id o.world.events := by
      rw [← World.dealings_story]
      exact (mem_dealings_iff (by simp)).mpr hacc
    have heq := eq_of_countP_le_one (hcorrelated.acceptedOnce t) hd hacc' (by simp [Dealing.accepts])
      (by simp [Dealing.accepts])
    obtain ⟨-, rfl⟩ := Dealing.accepted.inj heq
    have htold := (hsee h rfl hsome).resolve_right (by rintro ⟨g, hg, -⟩; cases hg)
    obtain ⟨label, title, hanswered⟩ : ∃ label title,
        .answered id t label title (.object m) ∈ o.world.story id := by
      cases htold with
      | answered mem => exact ⟨_, _, mem⟩
      | late _ mem => exact (awaited _ mem (by simp [Event.isLate])).elim
      | unheard mem => exact (smooth.shallow mem).elim
    rw [← World.dealings_story]
    exact countP_answers_eq_one hcorrelated (List.suffix_refl _) hanswered
  · refine List.countP_eq_zero.mpr fun d hd hanswers => ?_
    obtain ⟨label, response, rfl⟩ := Dealing.eq_answered_of_answers hanswers
    obtain ⟨later, earlier, hsplit⟩ := List.append_of_mem hd
    obtain ⟨-, -, n, -, -, -, hreg, -⟩ :=
      hcorrelated.answered t label response earlier ⟨later, hsplit.symm⟩
    have hmem : .registered t n ∈ dealings id o.world.events := by
      rw [hsplit]
      exact List.mem_append_right _ (List.mem_cons_of_mem _ hreg)
    exact hnone _ hmem (by simp [Dealing.registers])

/-- A request that is pending when the session is shut down is answered, and one that still waits in a
queue is not. -/
theorem settled_of_mem_outcomes_shutdown :
    let hear := fun label => some (Callback.mk label [] none)
    let w : World := .serving "server"
    let actions : List Action :=
      [.session .null (.handshake .null "editor" "1" (hear "opened")), .session .null .tick,
        .session .null (.pushRequest "hover" .null (hear "hovered") .null),
        .session .null (.shutdown .null)]
    w.IsNew ∧ actions.all (Conduct.any.admits .host) ∧ ∃ o ∈ outcomes w actions,
      (o.world.session 0).status = .terminated ∧
      (dealings 0 o.world.events).countP (·.answers 0) = 1 ∧
      (dealings 0 o.world.events).countP (·.answers 1) = 0 := by
  intro hear w actions
  have hw : w.IsNew := World.isNew_serving "server"
  have ha : actions.all (Conduct.any.admits .host) := by decide
  have hrun : ∃ o ∈ outcomes w actions, (o.world.session 0).status = .terminated ∧
      (o.world.story 0).all Event.isSmooth ∧
      (∀ t ∈ [0, 1], (∃ d ∈ dealings 0 o.world.events, d.asks t) ∧
        ∀ e ∈ o.world.story 0, ¬ e.isLate t) ∧
      (∃ d ∈ dealings 0 (beforeEnd 0 (o.world.story 0)), d.registers 0) ∧
      ∀ d ∈ dealings 0 o.world.events, ¬ d.registers 1 := by
    decide +kernel
  obtain ⟨o, ho, hs, hsmooth, hasked, hfirst, hsecond⟩ := hrun
  have hsmooth : IsSmooth 0 (o.world.story 0) := isSmooth_of_all hsmooth
  obtain ⟨asked, awaited⟩ := hasked 0 (by decide)
  obtain ⟨asked', awaited'⟩ := hasked 1 (by decide)
  refine ⟨hw, ha, o, ho, hs, ?_, ?_⟩
  · exact (settled_of_mem_outcomes hw ha ho 0 hsmooth hs asked awaited).1 hfirst
  · exact (settled_of_mem_outcomes hw ha ho 0 hsmooth hs asked' awaited').2 hsecond

/-- A request that was accepted with a callback, and is forgotten when the session is shut down. -/
theorem unanswered_of_mem_outcomes_shutdown :
    let actions : List Action :=
      [.session .null (.pushRequest "hover" .null (some (.mk "hovered" [] none)) .null),
        .session .null (.shutdown .null)]
    (World.serving "server").IsNew ∧ actions.all (Conduct.any.admits .host) ∧
      ∃ o ∈ outcomes (.serving "server") actions, (o.world.session 0).status = .terminated ∧
        (∃ d ∈ dealings 0 o.world.events, d.asks 0) ∧
        (dealings 0 o.world.events).countP (·.answers 0) = 0 := by
  refine ⟨World.isNew_serving "server", by decide, ?_⟩
  decide +kernel

end LanguageClient
