import LanguageClient.Proofs.Path
import LanguageClient.Text.Utf8
import Mathlib.Algebra.Order.Group.Nat
import Mathlib.Data.Nat.Basic
import Mathlib.Tactic.Lemma

/-!
What is encoded is decoded again: a sequence of bytes that stands for a code point yields it,
whatever comes behind. Bytes that need not be well formed yield no surrogates, whatever they are; so bytes
that no text is encoded as become a text with another encoding.
-/

namespace LanguageClient.Utf8

lemma toNat_toUInt8 {n : Nat} (h : n < 0x100) : n.toUInt8.toNat = n :=
  UInt8.toNat_ofNat_of_lt' h

/-! The bytes of one code point -/

lemma first_one {n : Nat} (h : n < 0x80) : first n.toUInt8 = (.start, [some (.ofNat n)]) := by
  simp only [first, toNat_toUInt8 (show n < 0x100 by omega), h, if_true]

lemma first_two {k : Nat} (hl : 2 ≤ k) (hu : k < 0x20) :
    first (0xC0 + k).toUInt8 = (.owed 0 0x80 0xBF k, []) := by
  simp only [first, toNat_toUInt8 (show 0xC0 + k < 0x100 by omega)]
  rw [if_neg (by omega), if_neg (by omega), if_pos (by omega), Nat.add_sub_cancel_left]

/-- The range of the second byte of three leaves out what has a shorter form and the surrogates. -/
def secondOfThree (k : Nat) : UInt8 × UInt8 :=
  if k = 0 then (0xA0, 0xBF) else if k = 0xD then (0x80, 0x9F) else (0x80, 0xBF)

lemma first_three {k : Nat} (hu : k < 0x10) :
    first (0xE0 + k).toUInt8 =
      (.owed 1 (secondOfThree k).1 (secondOfThree k).2 k, []) := by
  simp only [first, secondOfThree, toNat_toUInt8 (show 0xE0 + k < 0x100 by omega), beq_iff_eq]
  rw [if_neg (by omega), if_neg (by omega), if_neg (by omega)]
  by_cases h0 : k = 0
  · simp [h0]
  by_cases hd : k = 0xD
  · simp [hd]
  rw [if_neg (by omega), if_neg (by omega), if_pos (by omega), if_neg h0, if_neg hd,
    Nat.add_sub_cancel_left]

/-- The range of the second byte of four leaves out what has a shorter form and what is too large. -/
def secondOfFour (k : Nat) : UInt8 × UInt8 :=
  if k = 0 then (0x90, 0xBF) else if k = 4 then (0x80, 0x8F) else (0x80, 0xBF)

lemma first_four {k : Nat} (hu : k ≤ 4) :
    first (0xF0 + k).toUInt8 =
      (.owed 2 (secondOfFour k).1 (secondOfFour k).2 k, []) := by
  simp only [first, secondOfFour, toNat_toUInt8 (show 0xF0 + k < 0x100 by omega), beq_iff_eq]
  rw [if_neg (by omega), if_neg (by omega), if_neg (by omega), if_neg (by omega),
    if_neg (by omega), if_neg (by omega)]
  by_cases h0 : k = 0
  · simp [h0]
  by_cases hd : k = 4
  · simp [hd]
  rw [if_neg (by omega), if_pos (by omega), if_neg h0, if_neg hd, Nat.add_sub_cancel_left]

lemma step_owed {lo hi : UInt8} {bits m : Nat} (more : Nat) (hm : m < 0x40)
    (hl : lo.toNat ≤ 0x80 + m) (hh : 0x80 + m ≤ hi.toNat) :
    step (.owed more lo hi bits) (0x80 + m).toUInt8 =
      match more with
      | 0 => (.start, [some (.ofNat (bits * 0x40 + m))])
      | more + 1 => (.owed more 0x80 0xBF (bits * 0x40 + m), []) := by
  have hb := toNat_toUInt8 (show 0x80 + m < 0x100 by omega)
  have hr : (lo ≤ (0x80 + m).toUInt8 && (0x80 + m).toUInt8 ≤ hi) = true := by
    simp only [UInt8.le_iff_toNat_le, hb, hl, hh, decide_true, Bool.and_self]
  cases more <;> simp only [step, hr, if_true, hb, Nat.add_sub_cancel_left]

lemma piecesFrom_first {b : UInt8} {st : State} (h : first b = (st, [])) (rest : Bytes) :
    piecesFrom .start (b :: rest) = piecesFrom st rest := by
  simp only [piecesFrom, step, h, List.nil_append]

lemma piecesFrom_last {lo hi : UInt8} {bits m : Nat} (hm : m < 0x40) (hl : lo.toNat ≤ 0x80 + m)
    (hh : 0x80 + m ≤ hi.toNat) (rest : Bytes) :
    piecesFrom (.owed 0 lo hi bits) ((0x80 + m).toUInt8 :: rest) =
      some (.ofNat (bits * 0x40 + m)) :: piecesFrom .start rest := by
  simp only [piecesFrom, step_owed 0 hm hl hh, List.singleton_append]

lemma piecesFrom_inner {lo hi : UInt8} {bits m : Nat} (more : Nat) (hm : m < 0x40)
    (hl : lo.toNat ≤ 0x80 + m) (hh : 0x80 + m ≤ hi.toNat) (rest : Bytes) :
    piecesFrom (.owed (more + 1) lo hi bits) ((0x80 + m).toUInt8 :: rest) =
      piecesFrom (.owed more 0x80 0xBF (bits * 0x40 + m)) rest := by
  simp only [piecesFrom, step_owed (more + 1) hm hl hh, List.nil_append]

lemma piecesFrom_encodeScalar {n : Nat} (hn : n < 0x110000) (hs : n < 0xD800 ∨ 0xDFFF < n)
    (rest : Bytes) :
    piecesFrom .start (encodeScalar n ++ rest) = some (.ofNat n) :: piecesFrom .start rest := by
  unfold encodeScalar
  split
  next h1 =>
    simp only [List.singleton_append, piecesFrom, step, first_one h1]
  split
  next h2 =>
    simp only [List.cons_append, List.nil_append]
    rw [piecesFrom_first (first_two (by omega) (by omega)),
      piecesFrom_last (Nat.mod_lt n (by decide)) (by simp) (by simp; omega), Nat.div_add_mod']
  split
  next h3 =>
    have hr : (secondOfThree (n / 0x1000)).1.toNat ≤ 0x80 + n / 0x40 % 0x40 ∧
        0x80 + n / 0x40 % 0x40 ≤ (secondOfThree (n / 0x1000)).2.toNat := by
      unfold secondOfThree
      repeat' split
      all_goals simp; omega
    simp only [List.cons_append, List.nil_append]
    rw [piecesFrom_first (first_three (by omega)),
      piecesFrom_inner 0 (Nat.mod_lt _ (by decide)) hr.1 hr.2,
      piecesFrom_last (Nat.mod_lt n (by decide)) (by simp) (by simp; omega)]
    congr 3
    omega
  next h4 =>
    have hr : (secondOfFour (n / 0x40000)).1.toNat ≤ 0x80 + n / 0x1000 % 0x40 ∧
        0x80 + n / 0x1000 % 0x40 ≤ (secondOfFour (n / 0x40000)).2.toNat := by
      unfold secondOfFour
      repeat' split
      all_goals simp; omega
    simp only [List.cons_append, List.nil_append]
    rw [piecesFrom_first (first_four (by omega)),
      piecesFrom_inner 1 (Nat.mod_lt _ (by decide)) hr.1 hr.2,
      piecesFrom_inner 0 (Nat.mod_lt _ (by decide)) (by simp) (by simp; omega),
      piecesFrom_last (Nat.mod_lt n (by decide)) (by simp) (by simp; omega)]
    congr 3
    omega

/-- A byte of a code point is the code point, or no ASCII. -/
lemma toNat_of_mem_encodeScalar {n : Nat} (hn : n < 0x110000) :
    ∀ b ∈ encodeScalar n, b.toNat = n ∨ 0x80 ≤ b.toNat := by
  have hlarge : ∀ m, 0x80 ≤ m → m < 0x100 → m.toUInt8.toNat = n ∨ 0x80 ≤ m.toUInt8.toNat :=
    fun m hl hu => .inr (by rwa [toNat_toUInt8 hu])
  unfold encodeScalar
  split
  next h1 => simp [Nat.mod_eq_of_lt (show n < 256 by omega)]
  repeat' split
  all_goals
    simp only [List.forall_mem_cons]
    refine ⟨hlarge _ (by omega) (by omega), hlarge _ (by omega) (by omega), ?_⟩
  next => simp
  next => exact ⟨hlarge _ (by omega) (by omega), by simp⟩
  next => exact ⟨hlarge _ (by omega) (by omega), hlarge _ (by omega) (by omega), by simp⟩

/-! Texts -/

lemma encodeLossless_append (s t : Text) : encodeLossless (s ++ t) = encodeLossless s ++ encodeLossless t :=
  List.flatMap_append

lemma piecesFrom_encodeLossless {t : Text} (h : ∀ c ∈ t, c.isSurrogate = false) (rest : Bytes) :
    piecesFrom .start (encodeLossless t ++ rest) = t.map some ++ piecesFrom .start rest := by
  induction t with
  | nil => rfl
  | cons c t ih =>
    have hc : c.val < 0xD800 ∨ 0xDFFF < c.val := by
      have hs := h c List.mem_cons_self
      simp only [CodePoint.isSurrogate, CodePoint.within, Bool.and_eq_false_iff,
        decide_eq_false_iff_not] at hs
      omega
    have ht : encodeLossless (c :: t) ++ rest =
        encodeScalar c.val ++ (encodeLossless t ++ rest) := by
      simp [encodeLossless]
    rw [ht, piecesFrom_encodeScalar c.isLt hc, CodePoint.ofNat_val,
      ih fun d hd => h d (List.mem_cons_of_mem c hd)]
    rfl

lemma encode?_of_forall {t : Text} (h : ∀ c ∈ t, c.isSurrogate = false) :
    encode? t = some (encodeLossless t) := by
  rw [encode?, if_neg]
  simpa using h

lemma decode?_encodeLossless {t : Text} (h : ∀ c ∈ t, c.isSurrogate = false) :
    decode? (encodeLossless t) = some t := by
  have hp := piecesFrom_encodeLossless h []
  rw [List.append_nil] at hp
  rw [decode?, pieces, hp, piecesFrom, finish, List.append_nil]
  clear hp h
  induction t with
  | nil => rfl
  | cons c t ih =>
    rw [List.map_cons, List.mapM_cons, ih]
    rfl

/-! Bytes that need not be well formed -/

/-- Every code point that the bytes read so far may still turn out to stand for is a scalar value. -/
def State.IsFair : State → Prop
  | .start => True
  | .owed more lo hi bits => 0x80 ≤ lo.toNat ∧ hi.toNat ≤ 0xBF ∧
    ∀ n, n / 0x40 ^ (more + 1) = bits → lo.toNat ≤ 0x80 + n / 0x40 ^ more % 0x40 →
      0x80 + n / 0x40 ^ more % 0x40 ≤ hi.toNat → n < 0x110000 ∧ (n < 0xD800 ∨ 0xDFFF < n)

/-- An ill-formed stretch, or a scalar value. -/
def IsSound (p : Piece) : Prop := ∀ c ∈ p, c.isSurrogate = false

variable {st : State} {b : UInt8} {bs : Bytes}

lemma isSurrogate_ofNat {n : Nat} (hn : n < 0x110000) (hs : n < 0xD800 ∨ 0xDFFF < n) :
    (CodePoint.ofNat n).isSurrogate = false := by
  simp only [CodePoint.ofNat, dif_pos hn, CodePoint.isSurrogate, CodePoint.within, Bool.and_eq_false_iff,
    decide_eq_false_iff_not]
  omega

lemma isFair_first (b : UInt8) : (first b).1.IsFair := by
  unfold first
  have hb := b.toNat_lt
  simp only [beq_iff_eq]
  repeat' split
  all_goals
    simp only [State.IsFair]
    try exact trivial
  all_goals
    refine ⟨by decide, by decide, fun n hn hl hh => ?_⟩
    simp at hn hl hh
    omega

lemma isSound_of_mem_first {p : Piece} (h : p ∈ (first b).2) : IsSound p := by
  unfold first at h
  simp only [beq_iff_eq] at h
  repeat' split at h
  all_goals
    simp only [List.mem_cons, List.not_mem_nil, or_false] at h
    try subst h
  next hb =>
    rintro c ⟨⟩
    exact isSurrogate_ofNat (by omega) (.inl (by omega))
  all_goals rintro c ⟨⟩

lemma isFair_step (h : st.IsFair) (b : UInt8) :
    (step st b).1.IsFair ∧ ∀ p ∈ (step st b).2, IsSound p := by
  cases st with
  | start => exact ⟨isFair_first b, fun _ hp => isSound_of_mem_first hp⟩
  | owed more lo hi bits =>
    obtain ⟨hlo, hhi, hn⟩ := h
    by_cases hr : lo ≤ b && b ≤ hi
    · obtain ⟨hl, hh⟩ : lo.toNat ≤ b.toNat ∧ b.toNat ≤ hi.toNat := by
        simpa [UInt8.le_iff_toNat_le] using hr
      cases more with
      | zero =>
        have hscalar := hn (bits * 0x40 + (b.toNat - 0x80)) (by omega) (by omega) (by omega)
        simp only [step, hr, if_true]
        refine ⟨trivial, fun p hp => ?_⟩
        obtain rfl := List.mem_singleton.mp hp
        intro c hc
        obtain rfl := Option.mem_some.mp hc
        exact isSurrogate_ofNat hscalar.1 hscalar.2
      | succ more =>
        simp only [step, hr, if_true]
        refine ⟨⟨by decide, by decide, fun n hbits _ _ => ?_⟩, fun p hp => absurd hp List.not_mem_nil⟩
        have hhigh : n / 0x40 ^ (more + 1 + 1) = bits := by
          rw [Nat.pow_succ, ← Nat.div_div_eq_div_mul, hbits]
          omega
        have hlow : 0x80 + n / 0x40 ^ (more + 1) % 0x40 = b.toNat := by
          rw [hbits]
          omega
        exact hn n hhigh (hlow ▸ hl) (hlow ▸ hh)
    · simp only [step, hr]
      exact ⟨isFair_first b, List.forall_mem_cons.mpr ⟨by rintro c ⟨⟩, fun p hp => isSound_of_mem_first hp⟩⟩

lemma isSound_of_mem_piecesFrom (h : st.IsFair) : ∀ p ∈ piecesFrom st bs, IsSound p := by
  induction bs generalizing st with
  | nil =>
    intro p hp
    cases st with
    | start => cases hp
    | owed =>
      obtain rfl := List.mem_singleton.mp hp
      rintro c ⟨⟩
  | cons b bs ih =>
    intro p hp
    obtain ⟨hfair, hout⟩ := isFair_step h b
    rcases List.mem_append.mp hp with hp | hp
    · exact hout p hp
    · exact ih hfair p hp

lemma isScalar_decodeLossy (bs : Bytes) : (decodeLossy bs).IsScalar := by
  have hfair : State.start.IsFair := trivial
  intro c hc
  obtain ⟨p, hp, rfl⟩ := List.mem_map.mp hc
  have hsound := isSound_of_mem_piecesFrom hfair p hp
  cases p with
  | none => decide
  | some c => exact hsound c rfl

end LanguageClient.Utf8
