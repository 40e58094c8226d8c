import LanguageClient.Path
import Mathlib.Data.List.TakeDrop
import Mathlib.Tactic.Lemma

/-!
Normal paths. An absolute path is normal if there is nothing to take out of it; taking out what says
nothing makes it so, and leaves its root and its components.
-/

namespace LanguageClient

namespace Text

/-- A text without lone surrogates. -/
def IsScalar (t : Text) : Prop := ∀ c ∈ t, c.isSurrogate = false

instance (t : Text) : Decidable t.IsScalar := inferInstanceAs (Decidable (∀ c ∈ t, c.isSurrogate = false))

variable {sep x : CodePoint} {t : Text}

lemma splitAt_ne_nil (sep : CodePoint) (t : Text) : splitAt sep t ≠ [] := by
  cases t with
  | nil => simp [splitAt]
  | cons x xs =>
    by_cases hx : x = sep
    · simp [splitAt, hx]
    · cases hs : splitAt sep xs <;> simp [splitAt, hx, hs]

lemma splitAt_of_notMem (h : sep ∉ t) : splitAt sep t = [t] := by
  induction t with
  | nil => rfl
  | cons x xs ih =>
    rw [List.mem_cons, not_or] at h
    simp [splitAt, Ne.symm h.1, ih h.2]

lemma splitAt_append (h : sep ∉ t) (rest : Text) : splitAt sep (t ++ sep :: rest) = t :: splitAt sep rest := by
  induction t with
  | nil => simp [splitAt]
  | cons x xs ih =>
    rw [List.mem_cons, not_or] at h
    simp [splitAt, Ne.symm h.1, ih h.2]

lemma joinWith_cons_cons (sep t u : Text) (us : List Text) :
    joinWith sep (t :: u :: us) = t ++ sep ++ joinWith sep (u :: us) := rfl

lemma splitAt_joinWith {ts : List Text} (hne : ts ≠ []) (h : ∀ t ∈ ts, sep ∉ t) :
    splitAt sep (joinWith [sep] ts) = ts := by
  induction ts with
  | nil => exact absurd rfl hne
  | cons t ts ih =>
    obtain ⟨ht, hts⟩ := List.forall_mem_cons.mp h
    cases ts with
    | nil => exact splitAt_of_notMem ht
    | cons u us =>
      rw [joinWith_cons_cons, List.append_assoc, List.singleton_append, splitAt_append ht, ih (by simp) hts]

lemma notMem_of_mem_splitAt {u : Text} (h : u ∈ splitAt sep t) : sep ∉ u ∧ u ⊆ t := by
  induction t generalizing u with
  | nil => simp_all [splitAt]
  | cons x xs ih =>
    by_cases hx : x = sep
    · rw [splitAt, if_pos hx, List.mem_cons] at h
      rcases h with rfl | h
      · simp
      · exact ⟨(ih h).1, List.subset_cons_of_subset x (ih h).2⟩
    · obtain ⟨p, ps, hps⟩ := List.exists_cons_of_ne_nil (splitAt_ne_nil sep xs)
      simp only [splitAt, hx, if_false, hps, List.mem_cons] at h
      rcases h with rfl | h
      · have hp := ih (u := p) (by simp [hps])
        exact ⟨by simp [Ne.symm hx, hp.1], List.cons_subset_cons x hp.2⟩
      · have hu := ih (u := u) (by simp [hps, h])
        exact ⟨hu.1, List.subset_cons_of_subset x hu.2⟩

lemma mem_joinWith {ts : List Text} (h : x ∈ joinWith [sep] ts) : x = sep ∨ ∃ t ∈ ts, x ∈ t := by
  induction ts with
  | nil => simp [joinWith] at h
  | cons t ts ih =>
    cases ts with
    | nil => exact .inr ⟨t, by simp, h⟩
    | cons u us =>
      rw [joinWith_cons_cons, List.mem_append, List.mem_append, List.mem_singleton] at h
      rcases h with (h | h) | h
      · exact .inr ⟨t, by simp, h⟩
      · exact .inl h
      · obtain hx | ⟨s, hs, hx⟩ := ih h
        · exact .inl hx
        · exact .inr ⟨s, List.mem_cons_of_mem t hs, hx⟩

end Text

namespace Path

variable {p q r : Text} {cs : List Text}

/-- A component that says something. -/
def IsComponent (c : Text) : Prop := c ≠ [] ∧ c ≠ [dot] ∧ slash ∉ c

def IsRoot (r : Text) : Prop := r = [slash] ∨ r = [slash, slash]

/-- A root, and then components with one slash between them. -/
inductive IsNormal : Text → Prop
  | intro {r : Text} {cs : List Text} (root : IsRoot r) (components : ∀ c ∈ cs, IsComponent c) :
    IsNormal (r ++ Text.joinWith [slash] cs)

/-- A normal path with the root and the components of another one. -/
structure IsNormalFormOf (p q : Text) : Prop where
  normal : IsNormal q
  root : root q = root p
  components : components q = components p

lemma isRoot_root (h : isAbsolute p) : IsRoot (root p) := by
  unfold isAbsolute at h
  unfold IsRoot root at *
  split at h <;> simp_all

lemma isComponent_of_mem_components {c : Text} (h : c ∈ components p) : IsComponent c ∧ c ⊆ p := by
  rw [components, List.mem_filter] at h
  obtain ⟨hno, hsub⟩ := Text.notMem_of_mem_splitAt h.1
  simp only [Bool.and_eq_true, Bool.not_eq_true', List.isEmpty_eq_false_iff, decide_eq_true_eq] at h
  exact ⟨⟨h.2.1, h.2.2, hno⟩, hsub⟩

lemma components_slash (p : Text) : components (slash :: p) = components p := by
  simp [components, Text.splitAt]

lemma components_join (h : ∀ c ∈ cs, IsComponent c) : components (Text.joinWith [slash] cs) = cs := by
  by_cases hcs : cs = []
  · rw [hcs]
    rfl
  · rw [components, Text.splitAt_joinWith hcs fun c hc => (h c hc).2.2, List.filter_eq_self]
    intro c hc
    simp [(h c hc).1, (h c hc).2.1]

lemma components_ofComponents (hr : IsRoot r) (h : ∀ c ∈ cs, IsComponent c) :
    components (ofComponents r cs) = cs := by
  rcases hr with rfl | rfl <;> simp only [ofComponents, List.cons_append, List.nil_append, components_slash] <;>
    exact components_join h

lemma head_join_ne (h : ∀ c ∈ cs, IsComponent c) : (Text.joinWith [slash] cs).head? ≠ some slash := by
  cases cs with
  | nil => simp [Text.joinWith]
  | cons c cs =>
    obtain ⟨hne, -, hslash⟩ := h c (by simp)
    obtain ⟨x, xs, rfl⟩ := List.exists_cons_of_ne_nil hne
    have hx : x ≠ slash := fun hx => hslash (by simp [hx])
    cases cs <;> simpa [Text.joinWith] using hx

lemma root_ofComponents (hr : IsRoot r) (h : ∀ c ∈ cs, IsComponent c) : root (ofComponents r cs) = r := by
  have hjoin : (Text.joinWith [slash] cs).takeWhile (· = slash) = [] := by
    have hhead := head_join_ne h
    cases hj : Text.joinWith [slash] cs with
    | nil => rfl
    | cons x xs => simp_all
  rcases hr with rfl | rfl <;> simp [root, ofComponents, hjoin]

lemma isNormal_ofComponents (hr : IsRoot r) (h : ∀ c ∈ cs, IsComponent c) : IsNormal (ofComponents r cs) :=
  .intro hr h

lemma isNormal_normalise (h : isAbsolute p) : IsNormal (normalise p) :=
  isNormal_ofComponents (isRoot_root h) fun _ hc => (isComponent_of_mem_components hc).1

lemma components_normalise (h : isAbsolute p) : components (normalise p) = components p :=
  components_ofComponents (isRoot_root h) fun _ hc => (isComponent_of_mem_components hc).1

lemma root_normalise (h : isAbsolute p) : root (normalise p) = root p :=
  root_ofComponents (isRoot_root h) fun _ hc => (isComponent_of_mem_components hc).1

lemma IsNormal.normalise_eq (h : IsNormal p) : normalise p = p := by
  obtain ⟨hr, hcs⟩ := h
  have hcomponents := components_ofComponents hr hcs
  have hroot := root_ofComponents hr hcs
  rw [ofComponents] at hcomponents hroot
  rw [normalise, hcomponents, hroot, ofComponents]

lemma isNormalFormOf_iff (h : isAbsolute p) : IsNormalFormOf p q ↔ q = normalise p := by
  constructor
  · intro hq
    rw [← hq.normal.normalise_eq, normalise, normalise, hq.root, hq.components]
  · rintro rfl
    exact ⟨isNormal_normalise h, root_normalise h, components_normalise h⟩

lemma IsNormal.exists_cons (h : IsNormal p) : ∃ rest, p = slash :: rest := by
  obtain ⟨rfl | rfl, -⟩ := h <;> exact ⟨_, rfl⟩

lemma isAbsolute_slash (p : Text) : isAbsolute (slash :: p) := by
  have hpos : ((slash :: p).takeWhile (· = slash)).length ≠ 0 := by simp
  unfold isAbsolute root
  split
  next h => exact absurd h hpos
  all_goals rfl

lemma IsNormal.isAbsolute (h : IsNormal p) : isAbsolute p := by
  obtain ⟨rest, rfl⟩ := h.exists_cons
  exact isAbsolute_slash rest

lemma mem_ofComponents {x : CodePoint} (hr : IsRoot r) (h : x ∈ ofComponents r cs) : x = slash ∨ ∃ c ∈ cs, x ∈ c := by
  rw [ofComponents, List.mem_append] at h
  rcases h with h | h
  · rcases hr with rfl | rfl <;> simp_all
  · exact Text.mem_joinWith h

lemma mem_normalise {x : CodePoint} (habs : isAbsolute p) (h : x ∈ normalise p) : x = slash ∨ x ∈ p := by
  obtain hx | ⟨c, hc, hx⟩ := mem_ofComponents (isRoot_root habs) h
  · exact .inl hx
  · exact .inr ((isComponent_of_mem_components hc).2 hx)

/-! Paths without detours -/

lemma mem_ascend {c : Text} (h : c ∈ ascend cs) : c ∈ cs := by
  have hfold : ∀ (cs done : List Text), ∀ c ∈ cs.foldl (fun done c => if c = [dot, dot] then done.drop 1 else c :: done)
      done, c ∈ done ∨ c ∈ cs := by
    intro cs
    induction cs with
    | nil => simp
    | cons d ds ih =>
      intro done c hc
      rcases ih _ c hc with hc | hc
      · dsimp only at hc
        split at hc
        next => exact .inl (List.mem_of_mem_drop hc)
        next => exact (List.mem_cons.mp hc).elim (fun hc => .inr (by simp [hc])) .inl
      · exact .inr (List.mem_cons_of_mem d hc)
  rw [ascend, List.mem_reverse] at h
  simpa using hfold cs [] c h

/-- The absolute path that `resolve` starts from. -/
def anchored (p : Text) : Text := if isAbsolute p then p else slash :: p

lemma isAbsolute_anchored (p : Text) : isAbsolute (anchored p) := by
  unfold anchored
  split
  · assumption
  · exact isAbsolute_slash p

lemma isNormal_resolve (p : Text) : IsNormal (resolve p) :=
  isNormal_ofComponents (isRoot_root (isAbsolute_anchored p)) fun _ hc =>
    (isComponent_of_mem_components (mem_ascend hc)).1

lemma mem_resolve {x : CodePoint} (h : x ∈ resolve p) : x = slash ∨ x ∈ p := by
  obtain hx | ⟨c, hc, hx⟩ := mem_ofComponents (isRoot_root (isAbsolute_anchored p)) h
  · exact .inl hx
  · have hp := (isComponent_of_mem_components (mem_ascend hc)).2 hx
    change x ∈ anchored p at hp
    unfold anchored at hp
    split at hp
    · exact .inr hp
    · exact List.mem_cons.mp hp

end Path

end LanguageClient
