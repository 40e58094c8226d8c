import LanguageClient.Json.Access
import LanguageClient.Json.Printer
import LanguageClient.Proofs.Number.Digits

/-!
Values without lone surrogates and long integers can be written, and what is written has bytes. Those
without floating point numbers and repeated keys are kept by the wire as they are.
-/

namespace LanguageClient.Json

def isEncodable (t : Text) : Bool := t.all (!·.isSurrogate)

mutual

/-- Whether the wire keeps a value as it is. -/
def isPlain : Json → Bool
  | null | bool _ => true
  | int n => (Text.ofNat n.natAbs).length ≤ Number.longestInteger
  | float _ => false
  | text t => isEncodable t
  | list items => arePlain items
  | object fields => fieldsArePlain fields

def arePlain : List Json → Bool
  | [] => true
  | v :: rest => isPlain v && arePlain rest

def fieldsArePlain : Fields → Bool
  | [] => true
  | (k, v) :: rest =>
    isEncodable k && !(rest.map (·.1)).contains k && isPlain v && fieldsArePlain rest

end

mutual

/-- Whether no text in a value holds a lone surrogate. -/
def isClean : Json → Bool
  | text t => isEncodable t
  | list items => areClean items
  | object fields => fieldsAreClean fields
  | _ => true

def areClean : List Json → Bool
  | [] => true
  | v :: rest => isClean v && areClean rest

def fieldsAreClean : Fields → Bool
  | [] => true
  | (k, v) :: rest => isEncodable k && isClean v && fieldsAreClean rest

end

mutual

def depth : Json → Nat
  | list items => depthOfItems items + 1
  | object fields => depthOfFields fields + 1
  | _ => 0

def depthOfItems : List Json → Nat
  | [] => 0
  | v :: rest => max (depth v) (depthOfItems rest)

def depthOfFields : Fields → Nat
  | [] => 0
  | (_, v) :: rest => max (depth v) (depthOfFields rest)

end

def fits (limit? : Option Nat) (v : Json) : Bool := limit?.all (v.depth ≤ ·)

lemma fieldsArePlain_cons {k : Text} {v : Json} {rest : Fields}
    (h : fieldsArePlain ((k, v) :: rest)) :
    isEncodable k ∧ (∀ q ∈ rest, q.1 ≠ k) ∧ isPlain v ∧ fieldsArePlain rest := by
  simp only [fieldsArePlain, Bool.and_eq_true, Bool.not_eq_true', List.contains_eq_mem,
    decide_eq_false_iff_not, List.mem_map, not_exists, not_and] at h
  exact ⟨h.1.1.1, h.1.1.2, h.1.2, h.2⟩

lemma isEncodable_iff {t : Text} : isEncodable t ↔ ∀ c ∈ t, c.isSurrogate = false := by
  simp [isEncodable]

/-! Written values -/

@[simp] lemma isEncodable_append (s t : Text) :
    isEncodable (s ++ t) = (isEncodable s && isEncodable t) := by
  simp [isEncodable]

lemma isEncodable_of_isDigit {t : Text} (h : ∀ c ∈ t, c.isDigit) : isEncodable t := by
  rw [isEncodable_iff]
  intro c hc
  have hd := h c hc
  simp only [CodePoint.isDigit, CodePoint.within, Bool.and_eq_true, decide_eq_true_eq] at hd
  simp only [CodePoint.isSurrogate, CodePoint.within, Bool.and_eq_false_iff,
    decide_eq_false_iff_not]
  omega

lemma isEncodable_ofInt (n : Int) : isEncodable (Text.ofInt n) := by
  cases n with
  | ofNat n => exact isEncodable_of_isDigit fun c hc => Number.isDigit_of_mem_ofNat hc
  | negSucc n =>
    have hd : isEncodable (Text.ofNat (n + 1)) :=
      isEncodable_of_isDigit fun c hc => Number.isDigit_of_mem_ofNat hc
    rw [Text.ofInt, ← List.singleton_append, isEncodable_append, hd]
    rfl

lemma isEncodable_escape {c : CodePoint} (h : c.isSurrogate = false) :
    isEncodable (escape false c) := by
  have hu : ∀ n < 0x20, isEncodable (unicodeEscape n) := by decide
  have hc : isEncodable [c] := by simp [isEncodable, h]
  unfold escape
  split
  next => rw [← List.singleton_append, isEncodable_append, hc]; rfl
  repeat' split
  any_goals rfl
  next h8 h20 => exact hu c.val h20
  next => exact hc
  all_goals simp_all

lemma isEncodable_quoted {t : Text} (h : isEncodable t) : isEncodable (quoted false t) := by
  have ht : isEncodable (t.flatMap (escape false)) := by
    rw [isEncodable, List.all_flatMap, List.all_eq_true]
    exact fun c hc => isEncodable_escape (isEncodable_iff.mp h c hc)
  rw [quoted, isEncodable_append, isEncodable_append, ht]
  rfl

lemma isEncodable_of_subset {s t : Text} (h : isEncodable t) (hs : s ⊆ t) : isEncodable s :=
  isEncodable_iff.mpr fun c hc => isEncodable_iff.mp h c (hs hc)

lemma isEncodable_zeros (n : Nat) : isEncodable (Text.zeros n) :=
  isEncodable_iff.mpr fun c hc => by rw [List.eq_of_mem_replicate hc]; rfl

lemma isEncodable_ofNat (n : Nat) : isEncodable (Text.ofNat n) :=
  isEncodable_of_isDigit fun _ hc => Number.isDigit_of_mem_ofNat hc

lemma isEncodable_write (style : Shortest.Style) {digits : Text} (h : isEncodable digits) (place : Int) :
    isEncodable (style.write digits place) := by
  have htake : ∀ n, isEncodable (digits.take n) := fun n => isEncodable_of_subset h (List.take_subset n digits)
  have hdrop : ∀ n, isEncodable (digits.drop n) := fun n => isEncodable_of_subset h (List.drop_subset n digits)
  have hmarks : isEncodable "0." ∧ isEncodable "." ∧ isEncodable "e" ∧ isEncodable "-" ∧ isEncodable "+" ∧
      isEncodable [] := by decide
  unfold Shortest.Style.write
  dsimp only
  repeat' split
  all_goals
    simp only [isEncodable_append, h, htake, hdrop, hmarks, isEncodable_zeros, isEncodable_ofNat, Bool.and_self]

lemma isEncodable_finiteText (negative : Bool) (m : Nat) (e : Int) :
    isEncodable (Shortest.finiteText negative m e) := by
  have hsign : isEncodable (Text.ofString (if negative then "-" else "")) := by cases negative <;> decide
  have htrimmed : ∀ n, isEncodable (Text.trimEnd (· == '0') (Text.ofNat n)) := fun n =>
    isEncodable_of_subset (isEncodable_ofNat n) fun c hc =>
      List.mem_reverse.mp ((List.dropWhile_suffix _).subset (List.mem_reverse.mp hc))
  unfold Shortest.finiteText
  dsimp only
  rw [isEncodable_append, hsign, Bool.true_and]
  split
  · decide
  · exact isEncodable_write _ (htrimmed _) _

lemma isEncodable_floatText (x : Float) : isEncodable (floatText x) := by
  unfold floatText
  split
  · decide
  · split <;> decide
  · exact isEncodable_finiteText _ _ _

lemma fieldsAreClean_cons {k : Text} {v : Json} {rest : Fields} (h : fieldsAreClean ((k, v) :: rest)) :
    isEncodable k ∧ isClean v ∧ fieldsAreClean rest := by
  simpa only [fieldsAreClean, Bool.and_eq_true, and_assoc] using h

mutual

lemma isEncodable_renderAt (level : Nat) : (v : Json) → isClean v →
    isEncodable (renderAt wire level v)
  | null, _ => rfl
  | bool b, _ => by cases b <;> rfl
  | int n, _ => isEncodable_ofInt n
  | float x, _ => isEncodable_floatText x
  | text t, h => isEncodable_quoted h
  | list [], _ => rfl
  | list (v :: vs), h => by
    rw [isClean, areClean, Bool.and_eq_true] at h
    simp only [renderAt, isEncodable_append, isEncodable_renderAt (level + 1) v h.1,
      isEncodable_renderItems (level + 1) vs h.2]
    rfl
  | object [], _ => rfl
  | object ((k, v) :: fields), h => by
    obtain ⟨hk, hv, hf⟩ := fieldsAreClean_cons h
    simp only [renderAt, isEncodable_append, isEncodable_renderAt (level + 1) v hv,
      isEncodable_renderFields (level + 1) fields hf]
    rw [show wire.asciiOnly = false from rfl, isEncodable_quoted hk]
    rfl

lemma isEncodable_renderItems (level : Nat) : (vs : List Json) → areClean vs →
    isEncodable (renderItems wire level vs)
  | [], _ => rfl
  | v :: vs, h => by
    rw [areClean, Bool.and_eq_true] at h
    simp only [renderItems, isEncodable_append, isEncodable_renderAt level v h.1,
      isEncodable_renderItems level vs h.2]
    rfl

lemma isEncodable_renderFields (level : Nat) : (fields : Fields) → fieldsAreClean fields →
    isEncodable (renderFields wire level fields)
  | [], _ => rfl
  | (k, v) :: fields, h => by
    obtain ⟨hk, hv, hf⟩ := fieldsAreClean_cons h
    simp only [renderFields, isEncodable_append, isEncodable_renderAt level v hv,
      isEncodable_renderFields level fields hf]
    rw [show wire.asciiOnly = false from rfl, isEncodable_quoted hk]
    rfl

end

mutual

lemma isClean_of_isPlain : (v : Json) → isPlain v → v.isClean
  | null, _ | bool _, _ | int _, _ => rfl
  | float _, h => by cases h
  | text _, h => h
  | list items, h => areClean_of_arePlain items h
  | object fields, h => fieldsAreClean_of_fieldsArePlain fields h

lemma areClean_of_arePlain : (vs : List Json) → arePlain vs → areClean vs
  | [], _ => rfl
  | v :: vs, h => by
    rw [arePlain, Bool.and_eq_true] at h
    rw [areClean, isClean_of_isPlain v h.1, areClean_of_arePlain vs h.2, Bool.and_self]

lemma fieldsAreClean_of_fieldsArePlain : (fields : Fields) → fieldsArePlain fields →
    fieldsAreClean fields
  | [], _ => rfl
  | (k, v) :: fields, h => by
    obtain ⟨hk, -, hpv, hpf⟩ := fieldsArePlain_cons h
    rw [fieldsAreClean, hk, isClean_of_isPlain v hpv, fieldsAreClean_of_fieldsArePlain fields hpf]
    rfl

end

mutual

lemma isWritable_of_isPlain : (v : Json) → isPlain v → v.isWritable
  | null, _ => rfl
  | bool _, _ => rfl
  | int n, h => by
    rw [isPlain, decide_eq_true_eq, Number.length_ofNat_le_iff (by decide)] at h
    rw [isWritable, decide_eq_true h]
  | float _, _ => rfl
  | text _, _ => rfl
  | list items, h => areWritable_of_arePlain items h
  | object fields, h => fieldsAreWritable_of_fieldsArePlain fields h

lemma areWritable_of_arePlain : (vs : List Json) → arePlain vs → areWritable vs
  | [], _ => rfl
  | v :: vs, h => by
    rw [arePlain, Bool.and_eq_true] at h
    rw [areWritable, isWritable_of_isPlain v h.1, areWritable_of_arePlain vs h.2, Bool.and_self]

lemma fieldsAreWritable_of_fieldsArePlain : (fields : Fields) → fieldsArePlain fields →
    fieldsAreWritable fields
  | [], _ => rfl
  | (k, v) :: fields, h => by
    obtain ⟨-, -, hpv, hpf⟩ := fieldsArePlain_cons h
    rw [fieldsAreWritable, isWritable_of_isPlain v hpv,
      fieldsAreWritable_of_fieldsArePlain fields hpf, Bool.and_self]

end

/-! Control characters -/

def isGraphic (t : Text) : Bool := t.all (0x20 ≤ ·.val)

@[simp] lemma isGraphic_append (s t : Text) : isGraphic (s ++ t) = (isGraphic s && isGraphic t) := by
  simp [isGraphic]

lemma isGraphic_ofInt (n : Int) : isGraphic (Text.ofInt n) := by
  have hnat : ∀ n, isGraphic (Text.ofNat n) := fun n => List.all_eq_true.mpr fun c hc => by
    have hd := Number.isDigit_of_mem_ofNat hc
    simp only [CodePoint.isDigit, CodePoint.within, Bool.and_eq_true, decide_eq_true_eq] at hd
    exact decide_eq_true (by omega)
  cases n with
  | ofNat n => exact hnat n
  | negSucc n => exact Bool.and_eq_true_iff.mpr ⟨rfl, hnat (n + 1)⟩

lemma isGraphic_escape (c : CodePoint) : isGraphic (escape false c) := by
  have hu : ∀ n < 0x20, isGraphic (unicodeEscape n) := by decide
  unfold escape
  split
  next hq =>
    rw [Bool.or_eq_true, decide_eq_true_eq, decide_eq_true_eq] at hq
    obtain rfl | rfl := hq <;> rfl
  repeat' split
  any_goals rfl
  next hl => exact hu c.val hl
  next hl _ => exact List.all_eq_true.mpr fun d hd => by simp_all
  all_goals simp_all

lemma isGraphic_quoted (t : Text) : isGraphic (quoted false t) := by
  have ht : isGraphic (t.flatMap (escape false)) := by
    rw [isGraphic, List.all_flatMap, List.all_eq_true]
    exact fun c _ => isGraphic_escape c
  rw [quoted, isGraphic_append, isGraphic_append, ht]
  rfl

mutual

lemma isGraphic_renderAt (level : Nat) : (v : Json) → isPlain v → isGraphic (renderAt wire level v)
  | null, _ => rfl
  | bool b, _ => by cases b <;> rfl
  | int n, _ => isGraphic_ofInt n
  | float _, h => by cases h
  | text t, _ => isGraphic_quoted t
  | list [], _ => rfl
  | list (v :: vs), h => by
    rw [isPlain, arePlain, Bool.and_eq_true] at h
    simp only [renderAt, isGraphic_append, isGraphic_renderAt (level + 1) v h.1,
      isGraphic_renderItems (level + 1) vs h.2]
    rfl
  | object [], _ => rfl
  | object ((k, v) :: fields), h => by
    obtain ⟨-, -, hv, hf⟩ := fieldsArePlain_cons h
    simp only [renderAt, isGraphic_append, isGraphic_renderAt (level + 1) v hv,
      isGraphic_renderFields (level + 1) fields hf]
    rw [show wire.asciiOnly = false from rfl, isGraphic_quoted k]
    rfl

lemma isGraphic_renderItems (level : Nat) : (vs : List Json) → arePlain vs →
    isGraphic (renderItems wire level vs)
  | [], _ => rfl
  | v :: vs, h => by
    rw [arePlain, Bool.and_eq_true] at h
    simp only [renderItems, isGraphic_append, isGraphic_renderAt level v h.1,
      isGraphic_renderItems level vs h.2]
    rfl

lemma isGraphic_renderFields (level : Nat) : (fields : Fields) → fieldsArePlain fields →
    isGraphic (renderFields wire level fields)
  | [], _ => rfl
  | (k, v) :: fields, h => by
    obtain ⟨-, -, hv, hf⟩ := fieldsArePlain_cons h
    simp only [renderFields, isGraphic_append, isGraphic_renderAt level v hv,
      isGraphic_renderFields level fields hf]
    rw [show wire.asciiOnly = false from rfl, isGraphic_quoted k]
    rfl

end

end LanguageClient.Json
