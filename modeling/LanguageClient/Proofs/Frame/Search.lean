import LanguageClient.Frame.Reader
import Mathlib.Data.List.Infix
import Mathlib.Tactic.IntervalCases
import Mathlib.Tactic.Lemma

/-!
Searching bytes that arrive in pieces. What was found stays found when more bytes come, and what was
thrown away while a length field was sought could not have been a part of it.
-/

namespace LanguageClient.Frame

/-! The first occurrence of a pattern -/

lemma eq_of_cutAround {pattern bs before after : Bytes}
    (h : cutAround pattern bs = some (before, after)) : bs = before ++ (pattern ++ after) := by
  induction bs generalizing before with
  | nil =>
    cases pattern <;> simp_all [cutAround]
  | cons b bs ih =>
    rw [cutAround] at h
    split at h
    next hp =>
      obtain ⟨rest, hr⟩ := List.isPrefixOf_iff_prefix.mp hp
      simp only [Option.some.injEq, Prod.mk.injEq] at h
      obtain ⟨rfl, rfl⟩ := h
      simp [← hr]
    next =>
      obtain ⟨⟨x, y⟩, hx, he⟩ := Option.map_eq_some_iff.mp h
      simp only [Prod.mk.injEq] at he
      obtain ⟨rfl, rfl⟩ := he
      rw [ih hx, List.cons_append]

lemma cutAround_append {pattern bs before after : Bytes} (more : Bytes)
    (h : cutAround pattern bs = some (before, after)) :
    cutAround pattern (bs ++ more) = some (before, after ++ more) := by
  induction bs generalizing before with
  | nil =>
    cases pattern with
    | nil => cases more <;> simp_all [cutAround]
    | cons => simp [cutAround] at h
  | cons b bs ih =>
    rw [cutAround] at h
    rw [List.cons_append, cutAround]
    split at h
    next hp =>
      have hl : pattern.length ≤ (b :: bs).length := (List.isPrefixOf_iff_prefix.mp hp).length_le
      have hp' : pattern.isPrefixOf (b :: (bs ++ more)) :=
        List.isPrefixOf_iff_prefix.mpr
          ((List.isPrefixOf_iff_prefix.mp hp).trans (List.prefix_append (b :: bs) more))
      simp only [Option.some.injEq, Prod.mk.injEq] at h
      rw [if_pos hp', ← h.1, ← h.2, ← List.cons_append, List.drop_append_of_le_length hl]
    next hp =>
      obtain ⟨⟨x, y⟩, hx, he⟩ := Option.map_eq_some_iff.mp h
      simp only [Prod.mk.injEq] at he
      obtain ⟨rfl, rfl⟩ := he
      -- The pattern is no longer than what is left, so that no byte of `more` helps it here.
      have hl : pattern.length ≤ (b :: bs).length := by
        simp only [eq_of_cutAround hx, List.length_cons, List.length_append]
        omega
      have hp' : ¬ pattern.isPrefixOf (b :: (bs ++ more)) := fun hq =>
        hp (List.isPrefixOf_iff_prefix.mpr (List.prefix_of_prefix_length_le
          (List.isPrefixOf_iff_prefix.mp hq) (List.prefix_append (b :: bs) more) hl))
      rw [if_neg hp', ih hx]
      rfl

lemma cutAround_append_of_notMem {line : Bytes} (h : (13 : UInt8) ∉ line) (bs : Bytes) :
    cutAround separator (line ++ bs) =
      (cutAround separator bs).map fun cut => (line ++ cut.1, cut.2) := by
  induction line with
  | nil => simp
  | cons b line ih =>
    rw [List.mem_cons, not_or] at h
    have hp : ¬ separator.isPrefixOf (b :: (line ++ bs)) := by simp [separator, lineEnd, h.1]
    rw [List.cons_append, cutAround, if_neg hp, ih h.2, Option.map_map]
    rfl

lemma cutAround_lineEnd {b : UInt8} (h : b ≠ 13) (bs : Bytes) :
    cutAround separator (lineEnd ++ b :: bs) =
      (cutAround separator (b :: bs)).map fun cut => (lineEnd ++ cut.1, cut.2) := by
  -- One line end is no separator, neither from its return on nor from its feed on.
  have hreturn : ¬ separator.isPrefixOf (13 :: 10 :: b :: bs) := by
    simp [separator, lineEnd, Ne.symm h]
  have hfeed : ¬ separator.isPrefixOf (10 :: b :: bs) := by simp [separator, lineEnd]
  change cutAround separator (13 :: 10 :: b :: bs) = _
  rw [cutAround, if_neg hreturn, cutAround, if_neg hfeed, Option.map_map]
  rfl

lemma cutAround_separator {bs : Bytes} (h : (13 : UInt8) ∉ bs) (rest : Bytes) :
    cutAround separator (bs ++ (separator ++ rest)) = some (bs, rest) := by
  rw [cutAround_append_of_notMem h]
  simp [separator, lineEnd, cutAround]

lemma cutAround_eq_none_iff (pattern bs : Bytes) : cutAround pattern bs = none ↔ ¬ pattern <:+: bs := by
  induction bs with
  | nil => cases pattern <;> simp [cutAround]
  | cons b bs ih =>
    rw [cutAround, List.infix_cons_iff, ← List.isPrefixOf_iff_prefix, not_or, ← ih]
    split
    next hp => simp [hp]
    next hp => simp [hp]

/-! The first length field -/

lemma lengthMark_eq : lengthMark =
    [99, 111, 110, 116, 101, 110, 116, 45, 108, 101, 110, 103, 116, 104, 58] := by
  decide

@[simp] lemma length_lengthMark : lengthMark.length = 15 := by
  simp [lengthMark_eq]

/-- A length field of any case begins here. -/
def Marked (bs : Bytes) : Prop := lengthMark <+: bs.map lowerByte

instance : DecidablePred Marked :=
  fun bs => inferInstanceAs (Decidable (lengthMark <+: bs.map lowerByte))

lemma isPrefixOf_iff_marked (bs : Bytes) :
    lengthMark.isPrefixOf ((bs.take lengthMark.length).map lowerByte) = true ↔ Marked bs := by
  rw [List.isPrefixOf_iff_prefix, List.map_take, List.prefix_take_iff, Marked]
  simp

lemma Marked.append {bs : Bytes} (h : Marked bs) (more : Bytes) : Marked (bs ++ more) := by
  rw [Marked, List.map_append]
  exact h.trans (List.prefix_append _ _)

lemma Marked.of_append {bs more : Bytes} (h : Marked (bs ++ more)) (hl : 15 ≤ bs.length) :
    Marked bs := by
  rw [Marked, List.map_append] at h
  exact List.prefix_of_prefix_length_le h (List.prefix_append _ _) (by simpa using hl)

lemma Marked.length_le {bs : Bytes} (h : Marked bs) : 15 ≤ bs.length := by
  simpa using List.IsPrefix.length_le h

lemma fromMark?_cons (b : UInt8) (bs : Bytes) :
    fromMark? (b :: bs) = if Marked (b :: bs) then some (b :: bs) else fromMark? bs := by
  rw [fromMark?]
  simp only [isPrefixOf_iff_marked]

lemma fromMark?_of_marked {bs : Bytes} (h : Marked bs) : fromMark? bs = some bs := by
  cases bs with
  | nil => exact absurd h.length_le (by simp)
  | cons b bs => rw [fromMark?_cons, if_pos h]

lemma marked_of_fromMark? {bs found : Bytes} (h : fromMark? bs = some found) :
    Marked found ∧ found <:+ bs := by
  induction bs with
  | nil => simp [fromMark?] at h
  | cons b bs ih =>
    rw [fromMark?_cons] at h
    split at h
    next hm =>
      obtain rfl := Option.some.inj h
      exact ⟨hm, List.suffix_refl _⟩
    next => exact ⟨(ih h).1, (ih h).2.trans (List.suffix_cons b bs)⟩

lemma fromMark?_append {bs found : Bytes} (more : Bytes) (h : fromMark? bs = some found) :
    fromMark? (bs ++ more) = some (found ++ more) := by
  induction bs with
  | nil => simp [fromMark?] at h
  | cons b bs ih =>
    rw [fromMark?_cons] at h
    split at h
    next hm =>
      obtain rfl := Option.some.inj h
      exact fromMark?_of_marked (hm.append more)
    next hm =>
      obtain ⟨hf, hs⟩ := marked_of_fromMark? h
      have hl : 15 ≤ (b :: bs).length :=
        hf.length_le.trans (hs.length_le.trans (Nat.le_succ bs.length))
      rw [List.cons_append, fromMark?_cons, if_neg fun hq => hm (hq.of_append hl), ih h]

lemma fromMark?_eq_none_iff (bs : Bytes) :
    fromMark? bs = none ↔ ¬ lengthMark <:+: bs.map lowerByte := by
  induction bs with
  | nil => simp [fromMark?, lengthMark_eq]
  | cons b bs ih =>
    rw [fromMark?_cons, List.map_cons, List.infix_cons_iff, ← List.map_cons, not_or, ← ih]
    by_cases hm : Marked (b :: bs)
    · rw [Marked, List.map_cons] at hm
      simp [Marked, hm]
    · rw [Marked, List.map_cons] at hm
      simp [Marked, hm]

lemma fromMark?_eq_none_of_append {bs more : Bytes} (h : fromMark? (bs ++ more) = none) :
    fromMark? bs = none := by
  cases hb : fromMark? bs with
  | none => rfl
  | some found => simp [fromMark?_append more hb] at h

/-! What is kept while no length field was found -/

lemma tail_eq (bs : Bytes) : tail bs = bs.drop (bs.length - 14) := by
  simp [tail]

lemma tail_append (bs more : Bytes) : tail (bs ++ more) = tail (tail bs ++ more) := by
  simp only [tail_eq]
  rw [← List.drop_append_of_le_length (Nat.sub_le _ _), List.drop_drop]
  congr 1
  simp only [List.length_append, List.length_drop]
  omega

lemma tail_cons {b : UInt8} {bs : Bytes} (h : 14 ≤ bs.length) : tail (b :: bs) = tail bs := by
  rw [tail_eq, tail_eq, List.length_cons, Nat.succ_sub h, List.drop_succ_cons]

/-- A length field is found in what was kept if it is found at all. -/
lemma fromMark?_tail_append {bs : Bytes} (h : fromMark? bs = none) (more : Bytes) :
    fromMark? (tail bs ++ more) = fromMark? (bs ++ more) := by
  induction bs with
  | nil => rfl
  | cons b bs ih =>
    rw [fromMark?_cons] at h
    split at h
    next => simp at h
    next hm =>
      rcases Nat.lt_or_ge bs.length 14 with hl | hl
      · rw [tail_eq, List.length_cons, Nat.sub_eq_zero_of_le (by omega), List.drop_zero]
      · have hq : ¬ Marked ((b :: bs) ++ more) := fun hq => hm (hq.of_append (by simp; omega))
        rw [List.cons_append] at hq
        rw [tail_cons hl, ih h, List.cons_append, fromMark?_cons, if_neg hq]

lemma not_marked_append {bs more : Bytes} (hb : bs ≠ []) (h : ¬ Marked bs) (hm : Marked more) :
    ¬ Marked (bs ++ more) := by
  intro hq
  have hl : bs.length < 15 := by
    by_contra hl
    exact h (hq.of_append (by omega))
  have hpos : 0 < bs.length := List.length_pos_iff.mpr hb
  -- The colon stands at the end of a length field, and nowhere else in it.
  have hc : ∀ d < 15, 0 < d → lengthMark[14 - d]? ≠ lengthMark[14]? := by
    rw [lengthMark_eq]
    decide
  have hend := List.prefix_iff_getElem?.mp hq 14 (by simp)
  have hhere := List.prefix_iff_getElem?.mp hm (14 - bs.length) (by simp; omega)
  rw [List.map_append, List.getElem?_append_right (by simp; omega), List.length_map] at hend
  refine hc bs.length hl hpos ?_
  rw [List.getElem?_eq_getElem (by simp; omega), List.getElem?_eq_getElem (by simp), ← hhere, hend]

lemma fromMark?_append_of_marked {bs more : Bytes} (h : fromMark? bs = none) (hm : Marked more) :
    fromMark? (bs ++ more) = some more := by
  induction bs with
  | nil => exact fromMark?_of_marked hm
  | cons b bs ih =>
    rw [fromMark?_cons] at h
    split at h
    next => simp at h
    next hb =>
      have hq : ¬ Marked (b :: (bs ++ more)) := not_marked_append (List.cons_ne_nil b bs) hb hm
      rw [List.cons_append, fromMark?_cons, if_neg hq, ih h]

end LanguageClient.Frame
