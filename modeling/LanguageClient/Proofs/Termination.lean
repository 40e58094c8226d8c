import LanguageClient.Proofs.Settlement

/-!
Termination is complete. Whatever brings a session to its end leaves nothing of it behind, and nothing
ever comes of it again.
-/

namespace LanguageClient

namespace Termination

variable {c : Conduct} {id : SessionId} {p q : Position}

/-! Shutting down -/

/-- A session that shuts down is in the middle of it, unless it ran out of numbers. -/
def Parts (p : Position) : Prop :=
  p.session.status = .shuttingDown →
    (∃ wasOpen, .leaving wasOpen ∈ p.tasks) ∨ numberLimit ≤ p.session.correlator.lastId

lemma Parts.step (hp : Parts p) (h : Step c id p q) : Parts q := by
  intro hq
  cases h
  case counted | requested | dropped =>
    exact (hp hq).imp_right fun hn => Nat.le_trans hn (Nat.le_succ _)
  case introduced | stuck | welcomed | parted | saidGoodbye | unheardGoodbye | ended => cases hq
  case deferred item _ _ _ _ _ _ _ | queued item _ _ _ _ _ _ => cases item <;> exact hp hq
  case took s es t K m reader _ _ =>
    obtain ⟨responses, errors, he⟩ := Session.exists_enqueue_eq { s with reader } m
    rw [he] at hq ⊢
    exact hp hq
  case left => exact .inl ⟨_, List.mem_cons_self⟩
  case overtaken status | buried status _ => cases hq.symm.trans status
  case abandoned encodes =>
    exact .inr (not_lt.mp fun hn => encodes (Session.shutdownRequest_encodes hn))
  case turnedDown | resolved => exact (hp hq).imp_left fun h => by simpa [Task.mem_owed] using h
  all_goals exact (hp hq).imp_left fun h => by simpa using h

lemma Parts.steps (hp : Parts p) (h : Steps c id p q) : Parts q := by
  induction h with
  | refl => exact hp
  | tail _ h ih => exact ih.step h

end Termination

/-- A session that had nothing left after some events, and of which nothing came afterwards. -/
structure World.Rests (w : World) (id : SessionId) (s : Session) (es : List Event) : Prop where
  finished : s.IsOver
  inbox : s.inbox = ([], [])
  stays : ∀ s' es', w.Saw id s' es' → es <:+ es' → s'.IsOver
  silent : Adds Event.isIdle es (w.story id)

/-- However a session came to its end, that was complete. An operation that found it over changes
nothing but what a phase of a tick by itself may read. -/
structure World.Terminates (w : World) (id : SessionId) : Prop where
  finished : (w.session id).status.isLeaving → (w.session id).IsOver
  ended : ∀ a before s es, w.Did id a before s es → a.isEnding → before.status.isLeaving = false →
    s.status = .terminated
  settled : ∀ a before s es, w.Did id a before s es → a.isEnding → before.status.isLeaving = false →
    .noted id .tooDeep ∉ es → ∀ r ∈ before.correlator.pending, ∀ h ∈ r.handler, h.callback?.isSome →
      (∀ callback, h = .opening callback → .noted id (.late r.ticket) ∉ es) →
        (dealings id es).countP (·.answers r.ticket) = 1
  rests : ∀ a before s es, w.Did id a before s es → a.isPhase = false →
    before.status.isLeaving = false → s.status = .terminated → w.Rests id s es
  still : ∀ a before s es, w.Did id a before s es → a.isPhase = false → before.IsOver →
    s.inbox = before.inbox
  same : ∀ a before s es, w.Did id a before s es → a.isEnding → before.status = .terminated →
    s = before

section

variable {c : Conduct} {id : SessionId} {w : World} {a : SessionAction} {before s : Session}
  {es : List Event} {K : List Task}

/-- What was the end of a session at some point is all that is left of it. -/
lemma World.Rests.of_leaves (earlier : List Event) (hc : c.LeavesPhases) (idle : Task.AreIdle K)
    (leaves : Leaves c id a before s es)
    (h : Steps c id ⟨s, .noted id (.did a before s) :: es, K⟩ (w.position id []))
    (hphase : a.isPhase = false) (live : before.status.isLeaving = false)
    (hs : s.status = .terminated) : w.Rests id s es := by
  have hconcludes := leaves.concludes hc
  have hover := hconcludes.finished live hs
  have hspent : Position.IsSpent ⟨s, es, .performing a before earlier :: K⟩ := by
    refine ⟨hover, fun ticket handler m ht => ?_⟩
    rcases List.mem_cons.mp ht with ht | ht
    · cases ht
    · cases idle _ ht
  have hon : Steps c id ⟨s, es, .performing a before earlier :: K⟩ (w.position id []) :=
    .head (.did idle leaves) h
  refine ⟨hover, hconcludes.emptied (fun h => by cases h.symm.trans hphase) live hs, ?_, ?_⟩
  · intro s' es' saw hsuffix
    obtain ⟨K', hlater, -⟩ := exists_position_of_suffix hon hsuffix saw
    exact (hlater.isSpent hspent).finished
  · exact hon.adds_isIdle hspent

open Termination in
/-- Between two operations of the host a session is not on its way out any more. -/
lemma World.isOver_of_isLeaving (hc : c.LeavesPhases) {config : Fields} {name : Json}
    (h : Steps c id ⟨.blank config name, [], []⟩ (w.position id []))
    (few : (w.session id).correlator.lastId < numberLimit) (hs : (w.session id).status.isLeaving) :
    (w.session id).IsOver := by
  have hparts : Parts (w.position id []) := Parts.steps (p := ⟨.blank _ _, [], []⟩) nofun h
  have hexpires := h.expires hc (.blank _ _) (Position.expires_of_ne nofun (by simp))
  cases hst : (w.session id).status with
  | shuttingDown =>
    rcases hparts hst with ⟨wasOpen, ht⟩ | hn
    · cases ht
    · exact absurd few (Nat.not_lt.mpr hn)
  | terminated => exact (hexpires.ended hst).resolve_left fun ⟨last, ht⟩ => by cases ht
  | _ => rw [hst] at hs; cases hs

end

/-- Whatever a host does, and whatever its callbacks do but run a phase of a tick by itself. -/
theorem terminates_of_mem_outcomes {c : Conduct} (hc : c.LeavesPhases) {w : World} (hw : w.IsNew)
    {actions : List Action} (ha : actions.all (c.admits .host)) {o : Outcome}
    (ho : o ∈ outcomes w actions) (id : SessionId)
    (few : (o.world.session id).correlator.lastId < numberLimit) : o.world.Terminates id := by
  have hsteps := steps_of_mem_outcomes hw ha ho id
  have hsound := sound_of_mem_outcomes hw (Conduct.actionsArePublic ha) ho
  have hcorrelated : Correlated (dealings id o.world.events) := (hsound.accounts id).correlated
  have hpass : ∀ {a before s es}, o.world.Did id a before s es →
      Leaves c id a before s es ∧ ∃ K, Task.AreIdle K ∧
        Steps c id ⟨s, .noted id (.did a before s) :: es, K⟩ (o.world.position id []) := fun did => by
    obtain ⟨hleaves, K, -, hidle, -, hfrom⟩ := (hsteps.passes did).resolve_left (by simp)
    exact ⟨hleaves, K, hidle, hfrom⟩
  have hended : ∀ {a before s es}, o.world.Did id a before s es → a.isEnding →
      before.status.isLeaving = false → s.status = .terminated := by
    intro a before s es did he live
    obtain ⟨hleaves, K, -, hfrom⟩ := hpass did
    refine (hleaves.ended he live).resolve_right fun hn => ?_
    exact absurd few (Nat.not_lt.mpr (Nat.le_trans hn hfrom.lastId_le))
  exact {
    finished := World.isOver_of_isLeaving hc hsteps few
    ended := fun a before s es => hended
    settled := by
      intro a before s es did he live shallow r hr h hh hsome punctual
      obtain ⟨m, -, htold⟩ := ((hpass did).1.concludes hc).settled he live (hended did he live) r hr
      cases htold h hh hsome with
      | answered mem =>
        exact countP_answers_eq_one hcorrelated ((List.suffix_cons _ _).trans did) mem
      | late opening mem => exact (punctual _ opening mem).elim
      | unheard mem => exact (shallow mem).elim
    rests := by
      intro a before s es did hphase live hs
      obtain ⟨hleaves, K, hidle, hfrom⟩ := hpass did
      exact .of_leaves es hc hidle hleaves hfrom hphase live hs
    still := fun a before s es did => ((hpass did).1.concludes hc).still
    same := fun a before s es did => ((hpass did).1.concludes hc).same }

/-- A request is pending when the session is shut down, and its callback shuts it down again, ticks and
fails. -/
theorem terminates_of_mem_outcomes_shutdown :
    let again := [Action.session .null (.shutdown .null), .session .null .tick]
    let actions : List Action :=
      [.session .null (.handshake .null "editor" "1" none), .session .null .tick,
        .link .null (.write [Message.response (.int 1) (.object [])]), .session .null .tick,
        .session .null (.pushRequest "hover" .null (some (.mk "hovered" again (some "no"))) .null),
        .session .null .tick, .session .null (.shutdown .null), .session .null .tick]
    (World.serving "server").IsNew ∧ actions.all (Conduct.sparing.admits .host) ∧
      ∃ o ∈ outcomes (.serving "server") actions,
        (o.world.session 0).correlator.lastId < numberLimit ∧
        (dealings 0 o.world.events).countP (·.answers 1) = 1 ∧ (o.world.session 0).IsOver ∧
        o.world.Terminates 0 := by
  intro again actions
  have hw : (World.serving "server").IsNew := World.isNew_serving "server"
  have ha : actions.all (Conduct.sparing.admits .host) := by decide
  have hrun : ∃ o ∈ outcomes (.serving "server") actions,
      (o.world.session 0).correlator.lastId < numberLimit ∧
        (dealings 0 o.world.events).countP (·.answers 1) = 1 ∧
          (o.world.session 0).status.isLeaving := by
    decide +kernel
  obtain ⟨o, ho, hfew, honce, hs⟩ := hrun
  have hterminates := terminates_of_mem_outcomes Conduct.leavesPhases_sparing hw ha ho 0 hfew
  exact ⟨hw, ha, o, ho, hfew, honce, hterminates.finished hs, hterminates⟩

/-- Two requests are pending when the session is shut down. The callback of the first one ticks, so that
the server's answer to the second one, which is to open the session, comes too late and is dropped. -/
theorem unanswered_of_mem_outcomes_late :
    let hear := fun label (actions : List Action) => some (Callback.mk label actions none)
    let actions : List Action :=
      [.session .null .start,
        .session .null (.pushRequest "shutdown" .null (hear "left" [.session .null .tick]) .null),
        .session .null .tick, .session .null (.handshake .null "editor" "1" (hear "opened" [])),
        .session .null .tick, .link .null (.write [Message.response (.int 2) (.object [])])]
    let shutdown : Action := .session .null (.shutdown .null)
    (World.serving "server").IsNew ∧
      (actions ++ [shutdown]).all (Conduct.sparing.admits .host) ∧
      ∃ o ∈ outcomes (.serving "server") actions, (o.world.session 0).status = .initializing ∧
        (∃ r ∈ (o.world.session 0).correlator.pending, r.ticket = 1 ∧
          ∃ h ∈ r.handler, h.callback?.isSome) ∧
        ∃ last ∈ outcomes o.world [shutdown],
          (last.world.session 0).status = .terminated ∧
          (dealings 0 last.world.events).countP (·.answers 0) = 1 ∧
          (dealings 0 last.world.events).countP (·.answers 1) = 0 := by
  refine ⟨World.isNew_serving "server", by decide, ?_⟩
  decide +kernel

end LanguageClient
