import LanguageClient.Proofs.Frame.Next
import LanguageClient.Proofs.Json.Parser

/-!
What was read can be written again, as far as the length of integers goes: longer ones are not read.
-/

namespace LanguageClient

namespace Number

lemma foldl_lt {ds : Text} (h : ∀ c ∈ ds, c.isDigit) (n : Nat) :
    ds.foldl (fun n c => n * 10 + (c.val - 0x30)) n < (n + 1) * 10 ^ ds.length := by
  induction ds generalizing n with
  | nil => simp
  | cons c ds ih =>
    rw [List.forall_mem_cons] at h
    have hc : c.val - 0x30 ≤ 9 := by
      have hdigit := h.1
      simp only [CodePoint.isDigit, CodePoint.within, Bool.and_eq_true, decide_eq_true_eq] at hdigit
      omega
    calc ds.foldl (fun n c => n * 10 + (c.val - 0x30)) (n * 10 + (c.val - 0x30))
        < (n * 10 + (c.val - 0x30) + 1) * 10 ^ ds.length := ih h.2 _
      _ ≤ ((n + 1) * 10) * 10 ^ ds.length := Nat.mul_le_mul_right _ (by omega)
      _ = (n + 1) * 10 ^ (c :: ds).length := by rw [List.length_cons, Nat.pow_succ']; ac_rfl

lemma ofDigits_lt {ds : Text} (h : ∀ c ∈ ds, c.isDigit) {k : Nat} (hk : ds.length ≤ k) :
    ofDigits ds < Nat.pow 10 k := by
  have hlt := foldl_lt h 0
  rw [Nat.zero_add, Nat.one_mul] at hlt
  exact Nat.lt_of_lt_of_le hlt (Nat.pow_le_pow_right (by decide) hk)

end Number

namespace Json

lemma areWritable_iff {vs : List Json} : areWritable vs ↔ ∀ v ∈ vs, v.isWritable := by
  induction vs with
  | nil => simp [areWritable]
  | cons v vs ih => rw [areWritable, Bool.and_eq_true, ih, List.forall_mem_cons]

lemma fieldsAreWritable_iff {fields : Fields} :
    fieldsAreWritable fields ↔ ∀ p ∈ fields, p.2.isWritable := by
  induction fields with
  | nil => simp [fieldsAreWritable]
  | cons p fields ih => rw [fieldsAreWritable, Bool.and_eq_true, ih, List.forall_mem_cons]

lemma fieldsAreWritable_put {fields : Fields} {v : Json} (h : fieldsAreWritable fields)
    (hv : v.isWritable) (key : Text) : fieldsAreWritable (fields.put key v) := by
  induction fields with
  | nil => simp [Fields.put, fieldsAreWritable, hv]
  | cons p fields ih =>
    rw [fieldsAreWritable, Bool.and_eq_true] at h
    rw [Fields.put]
    split <;> simp [fieldsAreWritable, h, hv, ih h.2]

/-! Tokens -/

namespace Token

def isWritable : Token → Bool
  | scalar v => v.isWritable
  | _ => true

lemma isDigit_of_mem_wholePart {s : Text} {c : CodePoint} (h : c ∈ (wholePart s).1) : c.isDigit := by
  unfold wholePart at h
  split at h
  next d rest =>
    split at h
    next hd =>
      rw [List.mem_singleton.mp h, hd]
      rfl
    next =>
      rw [takeDigits, List.span_eq_takeWhile_dropWhile] at h
      exact List.all_eq_true.mp List.all_takeWhile c h
  next => cases h

lemma isWritable_number (negative : Bool) (s : Text) : (number negative s).1.isWritable := by
  unfold number
  split
  next => rfl
  next whole rest _ hwhole =>
    dsimp only
    split
    next =>
      split
      next => rfl
      next hlong =>
        have hdigits : ∀ c ∈ whole, c.isDigit := fun c hc =>
          isDigit_of_mem_wholePart (s := s) (by rw [hwhole]; exact hc)
        have hsize : ∀ n : Nat, (if negative then -(n : Int) else n).natAbs = n := fun n => by
          cases negative <;> simp
        rw [isWritable, Json.isWritable, decide_eq_true_eq, hsize]
        exact Number.ofDigits_lt hdigits (Nat.not_lt.mp hlong)
    next => rfl

lemma isWritable_of_mem_words {p : Text × Json} (h : p ∈ words) : p.2.isWritable := by
  simp only [words, List.mem_cons, List.not_mem_nil, or_false] at h
  rcases h with rfl | rfl | rfl | rfl | rfl | rfl <;> rfl

lemma isWritable_next (c : CodePoint) (rest : Text) : (next c rest).1.isWritable := by
  unfold next
  split
  next token hp =>
    unfold punctuation? at hp
    repeat' split at hp
    all_goals first | (cases hp; done) | (obtain rfl := Option.some.inj hp; rfl)
  next =>
    split
    next => split <;> rfl
    next =>
      split
      next v after hw =>
        obtain ⟨p, hp, hafter⟩ := List.exists_of_findSome?_eq_some hw
        obtain ⟨t, -, ht⟩ := Option.map_eq_some_iff.mp hafter
        obtain ⟨rfl, -⟩ := Prod.mk.inj ht
        exact isWritable_of_mem_words hp
      next => split <;> exact isWritable_number _ _

lemma isWritable_of_mem_scan {fuel : Nat} {s : Text} {token : Token} (h : token ∈ scan fuel s) :
    token.isWritable := by
  induction fuel generalizing s with
  | zero => cases h
  | succ fuel ih =>
    rw [scan] at h
    split at h
    next => cases h
    next c rest _ =>
      have hnext := isWritable_next c rest
      split at h
      next => rw [List.mem_singleton.mp h]; rfl
      next token' rest' _ heq =>
        rcases List.mem_cons.mp h with rfl | h
        · rwa [heq] at hnext
        · exact ih h

end Token

/-! Values -/

def Frame.isWritable : Frame → Bool
  | items before => areWritable before
  | field before _ => fieldsAreWritable before

namespace Progress

/-- Whether what was read so far can be written. -/
def isWritable : Progress → Bool
  | value outer | firstItem outer | firstKey outer => outer.all Frame.isWritable
  | afterItem items outer => areWritable items && outer.all Frame.isWritable
  | nextKey fields outer | afterKey fields _ outer | afterField fields outer =>
    fieldsAreWritable fields && outer.all Frame.isWritable
  | done v => v.isWritable

lemma isWritable_supply {v : Json} {outer : List Frame} (hv : v.isWritable)
    (ho : outer.all Frame.isWritable) : (supply v outer).isWritable := by
  cases outer with
  | nil => exact hv
  | cons frame outer =>
    rw [List.all_cons, Bool.and_eq_true] at ho
    cases frame with
    | items before =>
      have hbefore : areWritable before := ho.1
      simp [supply, isWritable, areWritable, hv, hbefore, ho.2]
    | field before key =>
      have hbefore : fieldsAreWritable before := ho.1
      simp [supply, isWritable, fieldsAreWritable_put hbefore hv, ho.2]

variable {limit? : Option Nat} {progress progress' : Progress} {token : Token}

lemma isWritable_startValue {outer : List Frame} (ho : outer.all Frame.isWritable)
    (ht : token.isWritable) (h : startValue limit? outer token = .ok progress) :
    progress.isWritable := by
  have hnested : ∀ {p : Progress}, p.isWritable → startNested limit? outer p = .ok progress →
      progress.isWritable := fun hp hs => by
    unfold startNested at hs
    split at hs
    · cases hs
    · obtain rfl := Except.ok.inj hs
      exact hp
  unfold startValue at h
  split at h
  next => exact hnested (p := .firstItem outer) ho h
  next => exact hnested (p := .firstKey outer) ho h
  next v =>
    obtain rfl := Except.ok.inj h
    exact isWritable_supply ht ho
  all_goals cases h

lemma isWritable_step (hp : progress.isWritable) (ht : token.isWritable)
    (h : step limit? progress token = .ok progress') : progress'.isWritable := by
  unfold step at h
  split at h
  case h_1 => exact isWritable_startValue hp ht h
  case h_3 outer _ =>
    have ho : outer.all Frame.isWritable := hp
    exact isWritable_startValue (by rw [List.all_cons, ho]; rfl) ht h
  case h_12 => cases h
  all_goals
    obtain rfl := Except.ok.inj h
    simp only [isWritable, Bool.and_eq_true] at hp
  case h_2 | h_6 => exact isWritable_supply rfl hp
  case h_5 items outer =>
    refine isWritable_supply (areWritable_iff.mpr fun v hv => ?_) hp.2
    exact areWritable_iff.mp hp.1 v (List.mem_reverse.mp hv)
  case h_11 => exact isWritable_supply hp.1 hp.2
  all_goals simpa [isWritable, Frame.isWritable, fieldsAreWritable] using hp

lemma isWritable_foldlM {tokens : List Token} (ht : ∀ token ∈ tokens, token.isWritable)
    (hp : progress.isWritable) (h : tokens.foldlM (step limit?) progress = .ok progress') :
    progress'.isWritable := by
  induction tokens generalizing progress with
  | nil =>
    obtain rfl := Except.ok.inj h
    exact hp
  | cons token tokens ih =>
    rw [List.forall_mem_cons] at ht
    rw [List.foldlM_cons] at h
    cases hs : step limit? progress token with
    | error e =>
      rw [hs] at h
      cases h
    | ok next =>
      rw [hs] at h
      exact ih ht.2 (isWritable_step hp ht.1 hs) h

end Progress

lemma isWritable_of_parse {t : Text} {limit? : Option Nat} {v : Json} (h : parse t limit? = .ok v) :
    v.isWritable := by
  rw [parse, ofTokens] at h
  cases hf : (Token.ofText t).foldlM (Progress.step limit?) (.value []) with
  | error e =>
    rw [hf] at h
    cases h
  | ok progress =>
    have hp := Progress.isWritable_foldlM (fun _ => Token.isWritable_of_mem_scan) rfl hf
    rw [hf] at h
    cases progress with
    | done w =>
      obtain rfl := Except.ok.inj h
      exact hp
    | _ => cases h

end Json

namespace Frame

lemma isWritable_of_decodeBody {limit? : Option Nat} {body : Bytes} {m : Fields}
    (h : decodeBody limit? body = .message m) : (Json.object m).isWritable := by
  unfold decodeBody at h
  split at h
  · cases h
  · split at h
    next hp =>
      obtain rfl := Reading.message.inj h
      exact Json.isWritable_of_parse hp
    all_goals cases h

/-- A message that was read holds no integer that is too long to be written. -/
lemma Reader.isWritable_of_next {r r' : Reader} {m : Fields} (h : r.next = (.message m, r')) :
    (Json.object m).isWritable := by
  have hbody : ∀ {r r' : Reader} {n : Nat}, r.takeBody n = (.message m, r') →
      (Json.object m).isWritable := by
    intro r r' n hb
    unfold takeBody at hb
    split at hb
    · cases hb
    · exact isWritable_of_decodeBody (Prod.mk.inj hb).1
  unfold next at h
  dsimp only at h
  split at h
  · cases h
  · split at h
    · exact hbody h
    · unfold takeFrame at h
      split at h
      · split at h <;> cases h
      · split at h
        · exact hbody h
        · cases h

end Frame

end LanguageClient
