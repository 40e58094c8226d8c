import LanguageClient.Json.Printer
import LanguageClient.Json.Token
import LanguageClient.Proofs.Number.Digits
import Mathlib.Data.List.TakeDrop

/-!
Tokens of written texts: quoted texts, numbers and punctuation are read as the tokens they were
written for, whatever comes behind them.
-/

namespace LanguageClient.Json.Token

/-- The text `s` is read as `tokens`, with enough fuel left for the rest. -/
def Spells (s : Text) (tokens : List Token) (rest : Text) : Prop :=
  ∀ fuel, (s ++ rest).length ≤ fuel →
    ∃ left, rest.length ≤ left ∧ scan fuel (s ++ rest) = tokens ++ scan left rest

lemma Spells.append {s s' rest : Text} {tokens tokens' : List Token}
    (h : Spells s tokens (s' ++ rest)) (h' : Spells s' tokens' rest) :
    Spells (s ++ s') (tokens ++ tokens') rest := by
  intro fuel hf
  rw [List.append_assoc] at hf
  obtain ⟨left, hl, he⟩ := h fuel hf
  obtain ⟨left', hl', he'⟩ := h' left hl
  exact ⟨left', hl', by rw [List.append_assoc, he, he', List.append_assoc]⟩

lemma spells_token {c : CodePoint} {s rest : Text} {token : Token} (hc : isSpace c = false)
    (hn : next c (s ++ rest) = (token, rest)) (hi : token ≠ .illegal) :
    Spells (c :: s) [token] rest := by
  intro fuel hf
  obtain ⟨fuel, rfl⟩ : ∃ n, fuel = n + 1 := ⟨fuel - 1, by simp at hf; omega⟩
  refine ⟨fuel, by simp at hf; omega, ?_⟩
  rw [List.cons_append, scan, List.dropWhile_cons, hc, if_neg (by simp)]
  simp only [hn]
  cases token <;> simp_all

lemma spells_space {s rest : Text} {tokens : List Token} (h : Spells s tokens rest) :
    Spells (' ' :: s) tokens rest := by
  intro fuel hf
  obtain ⟨fuel, rfl⟩ : ∃ n, fuel = n + 1 := ⟨fuel - 1, by simp at hf; omega⟩
  obtain ⟨left, hl, he⟩ := h (fuel + 1) (by simp at hf ⊢; omega)
  refine ⟨left, hl, ?_⟩
  rw [← he]
  rfl

lemma spells_punctuation {c : CodePoint} {token : Token} (hc : isSpace c = false)
    (hp : punctuation? c = some token) (hi : token ≠ .illegal) (rest : Text) :
    Spells [c] [token] rest :=
  spells_token hc (by simp [next, hp]) hi

/-! Quoted texts -/

lemma unicodeEscape_control : ∀ n < 0x20, ∃ w x y z : CodePoint,
    unicodeEscape n = [CodePoint.ofChar '\\', CodePoint.ofChar 'u', w, x, y, z] ∧
      hex4? w x y z = some (.ofNat n) := by
  intro n hn
  refine ⟨'0', '0', CodePoint.ofChar (n / 16).digitChar, CodePoint.ofChar (n % 16).digitChar, ?_⟩
  revert n
  decide

lemma stringBody?_cons (c : CodePoint) (s : Text) :
    stringBody? (c :: s) =
      if c = '"' then some ([], s)
      else if c = '\\' then
        match s with
        | [] => none
        | e :: s =>
          if e = 'u' then
            match s with
            | w :: x :: y :: z :: s =>
              (hex4? w x y z).bind fun v =>
                (stringBody? s).bind fun (body, s) => some (v :: body, s)
            | _ => none
          else
            (simpleEscape? e).bind fun v =>
              (stringBody? s).bind fun (body, s) => some (v :: body, s)
      else if c.val < 0x20 then none
      else (stringBody? s).map fun (body, s) => (c :: body, s) := by
  rw [stringBody?.eq_def]
  rfl

lemma stringBody?_simple {e v : CodePoint} (he : e ≠ 'u') (hv : simpleEscape? e = some v)
    (s : Text) :
    stringBody? (CodePoint.ofChar '\\' :: e :: s) =
      (stringBody? s).map fun (body, rest) => (v :: body, rest) := by
  rw [stringBody?_cons, if_neg (by decide), if_pos rfl]
  simp only [if_neg he, hv]
  cases stringBody? s <;> rfl

lemma stringBody?_unicode {w x y z v : CodePoint} (hv : hex4? w x y z = some v) (s : Text) :
    stringBody? (CodePoint.ofChar '\\' :: CodePoint.ofChar 'u' :: w :: x :: y :: z :: s) =
      (stringBody? s).map fun (body, rest) => (v :: body, rest) := by
  rw [stringBody?_cons, if_neg (by decide), if_pos rfl]
  simp only [if_true, hv]
  cases stringBody? s <;> rfl

lemma stringBody?_plain {c : CodePoint} (hq : c ≠ '"') (hb : c ≠ '\\') (hc : ¬ c.val < 0x20)
    (s : Text) :
    stringBody? (c :: s) = (stringBody? s).map fun (body, rest) => (c :: body, rest) := by
  rw [stringBody?_cons, if_neg hq, if_neg hb, if_neg hc]

lemma stringBody?_escape (c : CodePoint) (s : Text) :
    stringBody? (escape false c ++ s) =
      (stringBody? s).map fun (body, rest) => (c :: body, rest) := by
  unfold escape
  split
  next h =>
    simp only [Bool.or_eq_true, decide_eq_true_eq] at h
    rcases h with rfl | rfl
    · exact stringBody?_simple (by decide) (by decide) s
    · exact stringBody?_simple (by decide) (by decide) s
  next h =>
  simp only [Bool.or_eq_true, decide_eq_true_eq, not_or] at h
  split
  next hn => rw [hn]; exact stringBody?_simple (e := 'n') (by decide) (by decide) s
  split
  next hr => rw [hr]; exact stringBody?_simple (e := 'r') (by decide) (by decide) s
  split
  next ht => rw [ht]; exact stringBody?_simple (e := 't') (by decide) (by decide) s
  split
  next hf =>
    have hc : c = '\x0C' := CodePoint.ext_val hf
    rw [hc]
    exact stringBody?_simple (e := 'f') (by decide) (by decide) s
  split
  next hb =>
    have hc : c = '\x08' := CodePoint.ext_val hb
    rw [hc]
    exact stringBody?_simple (e := 'b') (by decide) (by decide) s
  split
  next hu =>
    obtain ⟨w, x, y, z, he, hv⟩ := unicodeEscape_control c.val hu
    rw [CodePoint.ofNat_val] at hv
    rw [he]
    exact stringBody?_unicode hv s
  next hu =>
    simp only [Bool.not_false, Bool.or_true, if_true]
    exact stringBody?_plain h.1 h.2 hu s

lemma stringBody?_flatMap (t rest : Text) :
    stringBody? (t.flatMap (escape false) ++ CodePoint.ofChar '"' :: rest) = some (t, rest) := by
  induction t with
  | nil => rw [List.flatMap_nil, List.nil_append, stringBody?_cons, if_pos rfl]
  | cons c t ih => rw [List.flatMap_cons, List.append_assoc, stringBody?_escape, ih]; rfl

lemma joinSurrogates_of_forall {t : Text} (h : ∀ c ∈ t, c.isSurrogate = false) :
    joinSurrogates t = t := by
  induction t with
  | nil => rfl
  | cons a t ih =>
    cases t with
    | nil => rfl
    | cons b t =>
      have ha := h a List.mem_cons_self
      simp only [CodePoint.isSurrogate, CodePoint.within, Bool.and_eq_false_iff,
        decide_eq_false_iff_not] at ha
      have hj : (a.within 0xD800 0xDBFF && b.within 0xDC00 0xDFFF) = false := by
        simp only [CodePoint.within, Bool.and_eq_false_iff, decide_eq_false_iff_not]
        omega
      rw [joinSurrogates, hj, if_neg (by simp), ih fun c hc => h c (List.mem_cons_of_mem a hc)]

lemma spells_quoted {t : Text} (h : ∀ c ∈ t, c.isSurrogate = false) (rest : Text) :
    Spells (quoted false t) [.scalar (.text t)] rest := by
  have hs : quoted false t =
      CodePoint.ofChar '"' :: (t.flatMap (escape false) ++ [CodePoint.ofChar '"']) := rfl
  rw [hs]
  refine spells_token rfl ?_ (by simp)
  have hp : punctuation? (CodePoint.ofChar '"') = none := by decide
  rw [next, hp, List.append_assoc]
  simp only [if_true, List.singleton_append, stringBody?_flatMap, joinSurrogates_of_forall h]

/-! Numbers and words -/

def Closes (rest : Text) : Prop := ∀ c ∈ rest.head?, c = ',' ∨ c = ']' ∨ c = '}'

lemma Closes.cases {rest : Text} (h : Closes rest) :
    rest = [] ∨ ∃ c s, rest = c :: s ∧ c.isDigit = false ∧ c ≠ '.' ∧ c ≠ 'e' ∧ c ≠ 'E' := by
  cases rest with
  | nil => exact .inl rfl
  | cons c s =>
    refine .inr ⟨c, s, rfl, ?_⟩
    rcases h c rfl with rfl | rfl | rfl <;> decide

lemma takeDigits_append {ds rest : Text} (hd : ∀ c ∈ ds, c.isDigit) (hr : Closes rest) :
    takeDigits (ds ++ rest) = (ds, rest) := by
  rw [takeDigits, List.span_eq_takeWhile_dropWhile, List.takeWhile_append_of_pos hd,
    List.dropWhile_append_of_pos hd]
  rcases hr.cases with rfl | ⟨c, s, rfl, hc, -⟩
  · simp
  · simp [hc]

lemma fraction_of_closes {rest : Text} (h : Closes rest) : fraction rest = ([], rest) := by
  rcases h.cases with rfl | ⟨c, s, rfl, -, hc, -⟩
  · rfl
  · simp [fraction, hc]

lemma power_of_closes {rest : Text} (h : Closes rest) : power rest = (none, rest) := by
  rcases h.cases with rfl | ⟨c, s, rfl, -, -, he, hE⟩
  · rfl
  · simp [power, he, hE]

lemma wholePart_ofNat (n : Nat) {rest : Text} (h : Closes rest) :
    wholePart (Text.ofNat n ++ rest) = (Text.ofNat n, rest) := by
  rcases Nat.eq_zero_or_pos n with rfl | hn
  · rfl
  · have ht := takeDigits_append (fun c hc => Number.isDigit_of_mem_ofNat (n := n) hc) h
    obtain ⟨c, s, he, hc⟩ := Number.head_ofNat hn
    rw [he] at ht ⊢
    rw [List.cons_append, wholePart, if_neg hc, ← List.cons_append, ht]

lemma number_ofNat (negative : Bool) {n : Nat} (hn : n < Nat.pow 10 Number.longestInteger) {rest : Text}
    (h : Closes rest) :
    number negative (Text.ofNat n ++ rest) =
      (.scalar (.int (if negative then -(n : Int) else n)), rest) := by
  have hl : ¬ (Text.ofNat n).length > Number.longestInteger :=
    Nat.not_lt.mpr ((Number.length_ofNat_le_iff (by decide)).mpr hn)
  have hv := Number.ofDigits_ofNat n
  rw [number, wholePart_ofNat n h]
  cases ht : Text.ofNat n with
  | nil => exact (Number.ofNat_ne_nil n ht).elim
  | cons c s =>
    rw [ht] at hl hv
    simp only [fraction_of_closes h, power_of_closes h, List.isEmpty_nil, Option.isNone_none,
      Bool.and_self, if_true, if_neg hl, hv]

lemma after?_of_ne {a b : CodePoint} (h : b ≠ a) (word s : Text) :
    after? (a :: word) (b :: s) = none :=
  if_neg h.symm

lemma word?_of_forall {s : Text} (h : ∀ p ∈ words, after? p.1 s = none) : word? s = none := by
  rw [word?, List.findSome?_eq_none_iff]
  rintro ⟨word, v⟩ hp
  simp only [h _ hp, Option.map_none]

lemma word?_of_isDigit {c : CodePoint} (hc : c.isDigit) (s : Text) : word? (c :: s) = none := by
  apply word?_of_forall
  intro p hp
  simp only [words, List.mem_cons, List.not_mem_nil, or_false] at hp
  rcases hp with rfl | rfl | rfl | rfl | rfl | rfl <;>
    exact after?_of_ne (Number.isDigit_ne hc rfl) _ s

lemma word?_minus {c : CodePoint} (hc : c.isDigit) (s : Text) :
    word? (CodePoint.ofChar '-' :: c :: s) = none := by
  apply word?_of_forall
  intro p hp
  simp only [words, List.mem_cons, List.not_mem_nil, or_false] at hp
  rcases hp with rfl | rfl | rfl | rfl | rfl | rfl
  case inr.inr.inr.inr.inr =>
    exact (if_pos rfl).trans (after?_of_ne (Number.isDigit_ne hc rfl) _ s)
  all_goals exact after?_of_ne (by decide) _ _

lemma next_of_isDigit {c : CodePoint} (hc : c.isDigit) (s : Text) :
    next c s = number false (c :: s) := by
  have hne := fun d hd => Number.isDigit_ne (d := d) hc hd
  have hp : punctuation? c = none := by
    simp only [punctuation?, if_neg (hne '[' rfl), if_neg (hne ']' rfl),
      if_neg (hne (CodePoint.ofChar '\x7b') rfl), if_neg (hne (CodePoint.ofChar '\x7d') rfl),
      if_neg (hne ',' rfl), if_neg (hne ':' rfl)]
  simp only [next, hp, if_neg (hne '"' rfl), if_neg (hne '-' rfl), word?_of_isDigit hc]

lemma next_minus {c : CodePoint} (hc : c.isDigit) (s : Text) :
    next (CodePoint.ofChar '-') (c :: s) = number true (c :: s) := by
  have hp : punctuation? (CodePoint.ofChar '-') = none := by decide
  have hq : CodePoint.ofChar '-' ≠ CodePoint.ofChar '"' := by decide
  simp only [next, hp, if_neg hq, word?_minus hc, if_true]

lemma isSpace_of_isDigit {c : CodePoint} (hc : c.isDigit) : isSpace c = false := by
  have hne := fun d hd => Number.isDigit_ne (d := d) hc hd
  simp [isSpace, hne ' ' rfl, hne '\t' rfl, hne '\n' rfl, hne '\r' rfl]

lemma spells_ofInt {n : Int} (hn : n.natAbs < Nat.pow 10 Number.longestInteger) {rest : Text}
    (h : Closes rest) : Spells (Text.ofInt n) [.scalar (.int n)] rest := by
  cases n with
  | ofNat n =>
    have hw := number_ofNat false (n := n) hn h
    rw [Text.ofInt]
    cases ht : Text.ofNat n with
    | nil => exact (Number.ofNat_ne_nil n ht).elim
    | cons c s =>
      have hc : c.isDigit := Number.isDigit_of_mem_ofNat (ht ▸ List.mem_cons_self)
      rw [ht] at hw
      exact spells_token (isSpace_of_isDigit hc) ((next_of_isDigit hc _).trans hw) (by simp)
  | negSucc n =>
    have hw := number_ofNat true (n := n + 1) hn h
    rw [Text.ofInt]
    refine spells_token (by decide) ?_ (by simp)
    cases ht : Text.ofNat (n + 1) with
    | nil => exact (Number.ofNat_ne_nil _ ht).elim
    | cons c s =>
      have hc : c.isDigit := Number.isDigit_of_mem_ofNat (ht ▸ List.mem_cons_self)
      rw [ht] at hw
      exact (next_minus hc _).trans hw

lemma spells_null (rest : Text) : Spells ("null" : Text) [.scalar .null] rest :=
  spells_token (c := 'n') rfl rfl (by simp)

lemma spells_bool (b : Bool) (rest : Text) :
    Spells (if b then "true" else "false" : Text) [.scalar (.bool b)] rest := by
  cases b
  · exact spells_token (c := 'f') rfl rfl (by simp)
  · exact spells_token (c := 't') rfl rfl (by simp)

end LanguageClient.Json.Token
