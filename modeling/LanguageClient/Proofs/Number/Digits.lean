import LanguageClient.Number.Read
import Mathlib.Tactic.Lemma

/-!
Decimal digits of a number, written and read again.
-/

namespace LanguageClient

namespace Number

lemma isDigit_ofChar {c : Char} (h : c.isDigit) : (CodePoint.ofChar c).isDigit := by
  simp only [Char.isDigit, Bool.and_eq_true, decide_eq_true_eq, ge_iff_le, UInt32.le_iff_toNat_le]
    at h
  exact Bool.and_eq_true_iff.mpr ⟨decide_eq_true h.1, decide_eq_true h.2⟩

lemma isDigit_of_mem_ofNat {n : Nat} {c : CodePoint} (h : c ∈ Text.ofNat n) : c.isDigit := by
  obtain ⟨d, hd, rfl⟩ := List.mem_map.mp h
  exact isDigit_ofChar (Nat.isDigit_of_mem_toDigits (by decide) (by decide) hd)

@[simp] lemma ofNat_ne_nil (n : Nat) : Text.ofNat n ≠ [] := by
  simp [Text.ofNat, Text.digits]

lemma length_ofNat_le_iff {n k : Nat} (hk : 0 < k) : (Text.ofNat n).length ≤ k ↔ n < Nat.pow 10 k := by
  rw [Nat.pow_eq]
  simpa [Text.ofNat, Text.digits] using Nat.length_toDigits_le_iff (by decide) hk

lemma ofDigits_ofNat (n : Nat) : ofDigits (Text.ofNat n) = n := by
  have h := Nat.ofDigitChars_ten_toDigits (n := n)
  rw [Nat.ofDigitChars_eq_foldl] at h
  rw [ofDigits, Text.ofNat, Text.digits, List.foldl_map]
  simp only [Nat.mul_comm 10] at h
  exact h

lemma head_ofNat {n : Nat} (hn : 0 < n) : ∃ c rest, Text.ofNat n = c :: rest ∧ c ≠ '0' := by
  induction n using Nat.strongRecOn with
  | _ n ih =>
    rcases Nat.lt_or_ge n 10 with hl | hl
    · refine ⟨n.digitChar, [], by simp [Text.ofNat, Text.digits, Nat.toDigits_of_lt_base hl], ?_⟩
      intro h
      have hd : n.digitChar.toNat = 48 := congrArg CodePoint.val h
      rw [Nat.toNat_digitChar_of_lt_ten hl] at hd
      omega
    · obtain ⟨c, rest, he, hc⟩ := ih (n / 10) (by omega) (by omega)
      refine ⟨c, rest ++ [CodePoint.ofChar (n % 10).digitChar], ?_, hc⟩
      rw [Text.ofNat, Text.digits, Nat.toDigits_of_base_le (by decide) hl, List.map_append]
      rw [Text.ofNat, Text.digits] at he
      rw [he]
      rfl

lemma isDigit_ne {c d : CodePoint} (h : c.isDigit) (hd : d.isDigit = false) : c ≠ d := by
  rintro rfl
  simp [hd] at h

lemma groupedDigits?_of_digits {ds : Text} (hn : ds ≠ []) (h : ∀ c ∈ ds, c.isDigit) :
    groupedDigits? ds = some ds := by
  induction ds with
  | nil => exact (hn rfl).elim
  | cons c ds ih =>
    cases ds with
    | nil => simp [groupedDigits?, h c]
    | cons d ds =>
      have hd : d ≠ '_' := isDigit_ne (h d (by simp)) rfl
      rw [groupedDigits?, h c (by simp), if_neg (by simp), if_neg hd,
        ih (by simp) fun x hx => h x (List.mem_cons_of_mem c hx)]
      rfl

lemma isBlank_of_graphic {c : CodePoint} (hl : 0x21 ≤ c.val) (hu : c.val < 0x85) :
    c.isBlank = false := by
  have h1 : ¬ c.val < 0x9 := by omega
  have h2 : ¬ c.val < 0xE := by omega
  have h3 : ¬ c.val < 0x1C := by omega
  have h4 : ¬ c.val < 0x21 := by omega
  simp only [CodePoint.isBlank, CodePoint.blankBoundaries, Boundary.holds, h1, h2, h3, h4, hu,
    if_true, if_false, Bool.not_false, Bool.not_true]

lemma isBlank_of_isDigit {c : CodePoint} (h : c.isDigit) : c.isBlank = false := by
  simp only [CodePoint.isDigit, CodePoint.within, Bool.and_eq_true, decide_eq_true_eq] at h
  exact isBlank_of_graphic (by omega) (by omega)

lemma dropWhile_of_forall {blank : CodePoint → Bool} {t : Text} (h : ∀ c ∈ t, blank c = false) :
    t.dropWhile blank = t := by
  cases t with
  | nil => rfl
  | cons c t => simp [h c]

lemma trim_of_forall {blank : CodePoint → Bool} {t : Text} (h : ∀ c ∈ t, blank c = false) :
    Text.trim blank t = t := by
  rw [Text.trim, dropWhile_of_forall h, dropWhile_of_forall (by simpa using h), List.reverse_reverse]

lemma trim_padded {blank : CodePoint → Bool} {pad t pad' : Text} (hpad : ∀ c ∈ pad, blank c)
    (hpad' : ∀ c ∈ pad', blank c) (hn : t ≠ []) (h : ∀ c ∈ t, blank c = false) :
    Text.trim blank (pad ++ t ++ pad') = t := by
  have hstart : (pad ++ t ++ pad').dropWhile blank = t ++ pad' := by
    rw [List.append_assoc, List.dropWhile_append_of_pos hpad, List.dropWhile_append,
      dropWhile_of_forall h, if_neg (by simpa using hn)]
  rw [Text.trim, hstart, List.reverse_append, List.dropWhile_append_of_pos (by simpa using hpad'),
    dropWhile_of_forall (by simpa using h), List.reverse_reverse]

lemma ofDigits_zeros_append (k : Nat) (ds : Text) : ofDigits (Text.zeros k ++ ds) = ofDigits ds := by
  induction k with
  | zero => rfl
  | succ k ih => exact ih

lemma isDigit_of_mem_zeros {k : Nat} {c : CodePoint} (h : c ∈ Text.zeros k) : c.isDigit := by
  rw [List.eq_of_mem_replicate h]
  rfl

lemma integer?_of_digits {ds : Text} (hn : ds ≠ []) (h : ∀ c ∈ ds, c.isDigit)
    (hl : ds.length ≤ longestInteger) : integer? ds = some (ofDigits ds : Int) := by
  have hg := groupedDigits?_of_digits hn h
  unfold integer?
  rw [trim_of_forall fun c hc => isBlank_of_isDigit (h c hc)]
  cases ds with
  | nil => exact (hn rfl).elim
  | cons c rest =>
    have hc : c.isDigit := h c List.mem_cons_self
    simp only [isDigit_ne hc (d := '-') rfl, isDigit_ne hc (d := '+') rfl, if_false, hg,
      Option.bind_eq_bind, Option.bind_some, Nat.not_lt.mpr hl]
    rfl

/-! What a number is written with -/

lemma mem_trim {blank : CodePoint → Bool} {c : CodePoint} (hc : blank c = false) {t : Text} (h : c ∈ t) :
    c ∈ Text.trim blank t := by
  have hdrop : ∀ s : Text, c ∈ s → c ∈ s.dropWhile blank := by
    intro s hs
    rw [← List.takeWhile_append_dropWhile (p := blank) (l := s), List.mem_append] at hs
    refine hs.resolve_left fun hm => ?_
    simp [List.all_eq_true.mp List.all_takeWhile c hm] at hc
  rw [Text.trim, List.mem_reverse]
  exact hdrop _ (List.mem_reverse.mpr (hdrop t h))

lemma isDigit_of_mem_grouped {t ds : Text} (h : groupedDigits? t = some ds) {c : CodePoint} (hc : c ∈ t) :
    c.isDigit ∨ c = '_' := by
  fun_induction groupedDigits? t generalizing ds with
  | case1 => cases hc
  | case2 d hd =>
    rw [List.mem_singleton.mp hc]
    exact .inl hd
  | case3 => cases h
  | case4 => cases h
  | case5 d rest hd ih =>
    obtain ⟨read, hread, -⟩ := Option.map_eq_some_iff.mp h
    rw [List.mem_cons, List.mem_cons] at hc
    obtain rfl | rfl | hc := hc
    · exact .inl (by simpa using hd)
    · exact .inr rfl
    · exact ih hread hc
  | case6 d e rest hd he ih =>
    obtain ⟨read, hread, -⟩ := Option.map_eq_some_iff.mp h
    obtain rfl | hc := List.mem_cons.mp hc
    · exact .inl (by simpa using hd)
    · exact ih hread hc

/-- What is no digit and stands in no number makes a text one that is none. -/
lemma integer?_eq_none {t : Text} {c : CodePoint} (h : c ∈ t) (hblank : c.isBlank = false)
    (hother : c ≠ '-' ∧ c ≠ '+' ∧ c ≠ '_') (hdigit : c.isDigit = false) : integer? t = none := by
  have hgroup : ∀ ds : Text, c ∈ ds → groupedDigits? ds = none := fun ds hds => by
    rw [Option.eq_none_iff_forall_ne_some]
    intro read hread
    obtain hd | hd := isDigit_of_mem_grouped hread hds
    · simp [hdigit] at hd
    · exact hother.2.2 hd
  have hm := mem_trim hblank h
  unfold integer?
  cases ht : Text.trim CodePoint.isBlank t with
  | nil => rfl
  | cons d rest =>
    rw [ht, List.mem_cons] at hm
    simp only [Option.bind_eq_bind]
    by_cases hminus : d = '-'
    · have hr : c ∈ rest := hm.resolve_left fun he => hother.1 (he.trans hminus)
      rw [if_pos hminus, hgroup rest hr, Option.bind_none]
    · by_cases hplus : d = '+'
      · have hr : c ∈ rest := hm.resolve_left fun he => hother.2.1 (he.trans hplus)
        rw [if_neg hminus, if_pos hplus, hgroup rest hr, Option.bind_none]
      · rw [if_neg hminus, if_neg hplus, hgroup (d :: rest) (List.mem_cons.mpr hm), Option.bind_none]

end Number

end LanguageClient
