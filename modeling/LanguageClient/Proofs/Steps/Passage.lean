import LanguageClient.Proofs.Steps.World

/-!
What a session was like on its way. Each operation that comes to its end is noted with the state that it
found and the state that it left, and the session passed through that state.
-/

namespace LanguageClient

variable {c : Conduct} {id : SessionId} {p q : Position}

/-! What is added to the events -/

/-- Nothing was added to the events but what is so. -/
def Adds (f : Event → Bool) (es es' : List Event) : Prop :=
  ∃ new : List Event, es' = new ++ es ∧ ∀ e ∈ new, f e

section

variable {f : Event → Bool} {es es' es'' : List Event}

lemma Adds.refl (es : List Event) : Adds f es es := ⟨[], rfl, by simp⟩

lemma Adds.cons {e : Event} (h : Adds f es es') (he : f e) : Adds f es (e :: es') := by
  obtain ⟨new, rfl, hnew⟩ := h
  exact ⟨e :: new, rfl, List.forall_mem_cons.mpr ⟨he, hnew⟩⟩

lemma Adds.single {e : Event} (he : f e) : Adds f es (e :: es) := (Adds.refl es).cons he

lemma Adds.mono {g : Event → Bool} (h : Adds f es es') (hg : ∀ e, f e → g e) : Adds g es es' := by
  obtain ⟨new, rfl, hnew⟩ := h
  exact ⟨new, rfl, fun e he => hg e (hnew e he)⟩

lemma Adds.trans (h : Adds f es es') (g : Adds f es' es'') : Adds f es es'' := by
  obtain ⟨new, rfl, hnew⟩ := h
  obtain ⟨new', rfl, hnew'⟩ := g
  exact ⟨new' ++ new, by rw [List.append_assoc], List.forall_mem_append.mpr ⟨hnew', hnew⟩⟩

lemma Adds.suffix (h : Adds f es es') : es <:+ es' := by
  obtain ⟨new, rfl, -⟩ := h
  exact List.suffix_append _ _

lemma Adds.mem_of {e : Event} (h : Adds f es es') (he : e ∈ es') (hf : f e = false) : e ∈ es := by
  obtain ⟨new, rfl, hnew⟩ := h
  refine (List.mem_append.mp he).resolve_left fun hm => ?_
  cases hf.symm.trans (hnew e hm)

lemma Adds.suffix_of_cons {e : Event} {before : List Event} (h : Adds f es es')
    (hs : e :: before <:+ es') (he : f e = false) : e :: before <:+ es := by
  obtain ⟨new, rfl, hnew⟩ := h
  induction new with
  | nil => exact hs
  | cons x new ih =>
    rw [List.forall_mem_cons] at hnew
    rcases List.suffix_cons_iff.mp hs with hx | hs
    · obtain ⟨rfl, -⟩ := List.cons.inj hx
      rw [hnew.1] at he
      cases he
    · exact ih hnew.2 hs

lemma Adds.acceptance (h : Adds f es es')
    (hf : ∀ ticket handler, f (.dealt id (.accepted ticket handler))) (item : Deferred) :
    Adds f es (Deferred.acceptance id item ++ es') := by
  cases item with
  | inl n => exact h
  | inr r => exact h.cons (hf _ _)

lemma Writes.adds {s : Session} {message : Json} {result : Except Fault Unit}
    (h : Writes id s message es result es') (sent : f (.sent id s.name message))
    (refused : f (.noted id (.refused message))) (unlinked : f (.noted id (.unlinked message))) :
    Adds f es es' := by
  cases h with
  | sent => exact .single sent
  | refused => exact .single refused
  | unlinked => exact .single unlinked
  | unencodable => exact .refl es

end

/-! Operations that came to their end -/

def Event.isUndone : Event → Bool
  | .noted _ (.did _ _ _) => false
  | _ => true

/-- An operation comes to its end, or another step is taken. -/
lemma Step.did_or (h : Step c id p q) : Adds Event.isUndone p.events q.events ∨
    ∃ s es K a before earlier, p = ⟨s, es, .performing a before earlier :: K⟩ ∧
      q = ⟨s, .noted id (.did a before s) :: es, K⟩ ∧ Task.AreIdle K ∧
        Leaves c id a before s es := by
  cases h
  case did idle leaves => exact .inr ⟨_, _, _, _, _, _, rfl, rfl, idle, leaves⟩
  case deferred item _ _ _ _ _ _ _ | queued item _ _ _ _ _ _ =>
    exact .inl ((Adds.single rfl).acceptance (fun _ _ => rfl) item)
  case introduced => exact .inl ((Adds.single rfl).cons rfl)
  case notified writes | replied writes => exact .inl (writes.adds rfl rfl rfl)
  case requested writes =>
    exact .inl (.trans (.single rfl) (writes.adds rfl rfl rfl))
  case saidGoodbye told left =>
    exact .inl (((told.adds rfl rfl rfl).trans (left.adds rfl rfl rfl)).cons rfl)
  case unheardGoodbye told => exact .inl ((told.adds rfl rfl rfl).cons rfl)
  case buried s es K last timeout status settled =>
    refine .inl ?_
    dsimp only
    unfold Session.burial
    split
    · exact (Adds.single rfl).cons rfl
    · exact .single rfl
  all_goals exact .inl (by first | exact .refl _ | exact .single rfl)

/-- A session got through each operation that it took part in: it was in the middle of it, and it went on
from there. -/
lemma Steps.passes (h : Steps c id p q) {a : SessionAction} {before s : Session} {es : List Event}
    (hs : .noted id (.did a before s) :: es <:+ q.events) :
    .noted id (.did a before s) :: es <:+ p.events ∨
      Leaves c id a before s es ∧ ∃ K earlier, Task.AreIdle K ∧
        Steps c id p ⟨s, es, .performing a before earlier :: K⟩ ∧
        Steps c id ⟨s, .noted id (.did a before s) :: es, K⟩ q := by
  induction h with
  | refl => exact .inl hs
  | tail hr h ih =>
    rcases h.did_or with hadds | ⟨s', es', K, a', before', earlier, rfl, rfl, hidle, hleaves⟩
    · refine (ih (hadds.suffix_of_cons hs rfl)).imp_right ?_
      rintro ⟨hleaves, K, earlier, hidle, hto, hfrom⟩
      exact ⟨hleaves, K, earlier, hidle, hto, hfrom.tail h⟩
    · rcases List.suffix_cons_iff.mp hs with he | hs
      · obtain ⟨hnoted, rfl⟩ := List.cons.inj he
        obtain ⟨rfl, rfl, rfl⟩ := Note.did.inj (Event.noted.inj hnoted).2
        exact .inr ⟨hleaves, K, earlier, hidle, hr, .refl⟩
      · refine (ih hs).imp_right ?_
        rintro ⟨hleaves, K, earlier, hidle, hto, hfrom⟩
        exact ⟨hleaves, K, earlier, hidle, hto, hfrom.tail h⟩

/-- An operation came to its end, after these events. -/
abbrev World.Did (w : World) (id : SessionId) (a : SessionAction) (before s : Session)
    (es : List Event) : Prop :=
  .noted id (.did a before s) :: es <:+ w.story id

/-- How a session was when an operation came to its end, and how it is now. -/
inductive World.Saw (w : World) (id : SessionId) : Session → List Event → Prop where
  | now : Saw w id (w.session id) (w.story id)
  | done {a before s es} (did : .noted id (.did a before s) :: es <:+ w.story id) : Saw w id s es

/-- Whatever is seen of a session later on, it passes through. -/
lemma exists_position_of_suffix {w : World} (h : Steps c id p ⟨w.session id, w.story id, []⟩)
    {s : Session} {es : List Event} (hp : p.events <:+ es) (saw : w.Saw id s es) :
    ∃ K, Steps c id p ⟨s, es, K⟩ ∧ Steps c id ⟨s, es, K⟩ ⟨w.session id, w.story id, []⟩ := by
  cases saw with
  | now => exact ⟨[], h, .refl⟩
  | done did =>
    rcases h.passes did with hs | ⟨hleaves, K, earlier, hidle, hto, hfrom⟩
    · have hlt := (hs.trans hp).length_le
      simp at hlt
    · exact ⟨_, hto, .head (.did hidle hleaves) hfrom⟩

lemma exists_position_of_saw {w : World} (h : Steps c id p ⟨w.session id, w.story id, []⟩)
    (hp : p.events = []) {s : Session} {es : List Event} (saw : w.Saw id s es) :
    ∃ K, Steps c id p ⟨s, es, K⟩ ∧ Steps c id ⟨s, es, K⟩ ⟨w.session id, w.story id, []⟩ :=
  exists_position_of_suffix h (hp ▸ List.nil_suffix) saw

end LanguageClient
