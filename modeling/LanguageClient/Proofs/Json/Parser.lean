import LanguageClient.Json.Parser
import LanguageClient.Proofs.Json.Written

/-!
A plain value is read from its own JSON text. Integers are too long only where such a token stands.
-/

namespace LanguageClient.Json

/-! Rejections -/

namespace Progress

lemma exists_of_foldlM_error {ε σ τ : Type} {f : σ → τ → Except ε σ} {s : σ} {ts : List τ} {e : ε}
    (h : ts.foldlM f s = .error e) : ∃ t ∈ ts, ∃ s, f s t = .error e := by
  induction ts generalizing s with
  | nil => cases h
  | cons t ts ih =>
    rw [List.foldlM_cons] at h
    cases hs : f s t with
    | error e' =>
      rw [hs] at h
      cases h
      exact ⟨t, List.mem_cons_self, s, hs⟩
    | ok s' =>
      rw [hs] at h
      obtain ⟨u, hu, hf⟩ := ih h
      exact ⟨u, List.mem_cons_of_mem t hu, hf⟩

lemma startNested_ne_longInteger {limit? : Option Nat} {outer : List Frame} {progress : Progress}
    {digits : Nat} : startNested limit? outer progress ≠ .error (.longInteger digits) := by
  unfold startNested
  split <;> simp

lemma eq_of_startValue {limit? : Option Nat} {outer : List Frame} {token : Token} {digits : Nat}
    (h : startValue limit? outer token = .error (.longInteger digits)) :
    token = .longInteger digits := by
  cases token <;> simp_all [startValue, startNested_ne_longInteger]

lemma eq_of_step {limit? : Option Nat} {progress : Progress} {token : Token} {digits : Nat}
    (h : step limit? progress token = .error (.longInteger digits)) :
    token = .longInteger digits := by
  unfold step at h
  split at h
  case h_1 => exact eq_of_startValue h
  case h_3 => exact eq_of_startValue h
  all_goals cases h

lemma startNested_none (outer : List Frame) (progress : Progress) :
    startNested none outer progress = .ok progress := rfl

lemma step_none_ne_nestedTooDeep (progress : Progress) (token : Token) :
    step none progress token ≠ .error .nestedTooDeep := by
  have hv : ∀ outer token, startValue none outer token ≠ .error .nestedTooDeep := by
    intro outer token
    cases token <;> simp [startValue, startNested_none]
  unfold step
  split
  case h_1 => exact hv _ _
  case h_3 => exact hv _ _
  all_goals simp

end Progress

lemma mem_of_parse {t : Text} {limit? : Option Nat} {digits : Nat}
    (h : parse t limit? = .error (.longInteger digits)) :
    Token.longInteger digits ∈ Token.ofText t := by
  rw [parse, ofTokens] at h
  cases hf : (Token.ofText t).foldlM (Progress.step limit?) (.value []) with
  | error e =>
    rw [hf] at h
    cases h
    obtain ⟨token, ht, progress, hs⟩ := Progress.exists_of_foldlM_error hf
    exact Progress.eq_of_step hs ▸ ht
  | ok progress =>
    rw [hf] at h
    cases progress <;> cases h

lemma parse_none_ne_nestedTooDeep (t : Text) : parse t none ≠ .error .nestedTooDeep := by
  rw [parse, ofTokens]
  intro h
  cases hf : (Token.ofText t).foldlM (Progress.step none) (.value []) with
  | error e =>
    rw [hf] at h
    cases h
    obtain ⟨token, -, progress, hs⟩ := Progress.exists_of_foldlM_error hf
    exact Progress.step_none_ne_nestedTooDeep progress token hs
  | ok progress =>
    rw [hf] at h
    cases progress <;> cases h

/-! Reading the tokens of a value -/

lemma put_of_notMem {fields : Fields} {key : Text} (h : key ∉ fields.map (·.1)) (v : Json) :
    fields.put key v = fields ++ [(key, v)] := by
  induction fields with
  | nil => rfl
  | cons field fields ih =>
    rw [List.map_cons, List.mem_cons, not_or] at h
    rw [Fields.put, if_neg (Ne.symm h.1), ih h.2]
    rfl

namespace Progress

variable (limit? : Option Nat)

def Allows (outer : List Frame) (levels : Nat) : Prop :=
  ∀ limit ∈ limit?, outer.length + levels ≤ limit

variable {limit?}

lemma Allows.mono {outer : List Frame} {m n : Nat} (h : Allows limit? outer n) (hm : m ≤ n) :
    Allows limit? outer m :=
  fun limit hl => Nat.le_trans (Nat.add_le_add_left hm _) (h limit hl)

lemma Allows.push {outer : List Frame} {n : Nat} (h : Allows limit? outer (n + 1)) (frame : Frame) :
    Allows limit? (frame :: outer) n := by
  intro limit hl
  have := h limit hl
  rw [List.length_cons]
  omega

lemma startNested_of_allows {outer : List Frame} {n : Nat} (h : Allows limit? outer (n + 1))
    (progress : Progress) : startNested limit? outer progress = .ok progress := by
  rw [startNested, if_neg]
  intro ha
  obtain ⟨limit, hl, hle⟩ := (Option.any_eq_true _ _).mp ha
  have := h limit hl
  rw [decide_eq_true_eq] at hle
  omega

lemma step_openList {outer : List Frame} {n : Nat} (h : Allows limit? outer (n + 1)) :
    step limit? (.value outer) .openList = .ok (.firstItem outer) :=
  startNested_of_allows h _

lemma step_openObject {outer : List Frame} {n : Nat} (h : Allows limit? outer (n + 1)) :
    step limit? (.value outer) .openObject = .ok (.firstKey outer) :=
  startNested_of_allows h _

lemma step_firstItem {token : Token} (h : token ≠ .closeList) (outer : List Frame) :
    step limit? (.firstItem outer) token = step limit? (.value (.items [] :: outer)) token := by
  cases token <;> simp_all [step]

lemma tokens_eq_cons (v : Json) : ∃ token rest, v.tokens = token :: rest ∧ token ≠ .closeList := by
  unfold tokens
  split <;> exact ⟨_, _, rfl, by simp⟩

lemma foldlM_ok {p p' : Progress} {token : Token} (h : step limit? p token = .ok p')
    (more : List Token) :
    (token :: more).foldlM (step limit?) p = more.foldlM (step limit?) p' := by
  rw [List.foldlM_cons, h]
  rfl

lemma foldlM_firstItem (v : Json) (outer : List Frame) (more : List Token) :
    (v.tokens ++ more).foldlM (step limit?) (.firstItem outer) =
      (v.tokens ++ more).foldlM (step limit?) (.value (.items [] :: outer)) := by
  obtain ⟨token, rest, ht, hc⟩ := tokens_eq_cons v
  rw [ht, List.cons_append, List.foldlM_cons, List.foldlM_cons, step_firstItem hc]

mutual

/-- The tokens of a value supply it to what is open around it. -/
lemma foldlM_tokens : (v : Json) → isPlain v → (outer : List Frame) → Allows limit? outer v.depth →
    (more : List Token) →
    (v.tokens ++ more).foldlM (step limit?) (.value outer) =
      more.foldlM (step limit?) (supply v outer)
  | null, _, _, _, _ => rfl
  | bool _, _, _, _, _ => rfl
  | int _, _, _, _, _ => rfl
  | float _, _, _, _, _ => rfl
  | text _, _, _, _, _ => rfl
  | list [], _, outer, ha, more =>
    foldlM_ok (step_openList ha) (.closeList :: more)
  | list (v :: vs), h, outer, ha, more => by
    rw [isPlain, arePlain, Bool.and_eq_true] at h
    have hv := foldlM_tokens v h.1 (.items [] :: outer)
      ((ha.push _).mono (Nat.le_max_left _ _)) (itemTokens vs ++ (.closeList :: more))
    have hvs := foldlM_items vs h.2 [v] outer (ha.mono (Nat.succ_le_succ (Nat.le_max_right _ _))) more
    rw [tokens, List.cons_append, foldlM_ok (step_openList ha),
      List.append_assoc, foldlM_firstItem, List.append_assoc, List.singleton_append, hv]
    exact hvs
  | object [], _, outer, ha, more =>
    foldlM_ok (step_openObject ha) (.closeObject :: more)
  | object ((k, v) :: fields), h, outer, ha, more => by
    obtain ⟨-, hk, hpv, hpf⟩ := fieldsArePlain_cons h
    have hv := foldlM_tokens v hpv (.field [] k :: outer)
      ((ha.push _).mono (Nat.le_max_left _ _)) (fieldTokens fields ++ (.closeObject :: more))
    have hfs := foldlM_fields fields hpf [(k, v)] outer
      (ha.mono (Nat.succ_le_succ (Nat.le_max_right _ _))) (by simpa using fun a b hq => hk (a, b) hq) more
    rw [tokens, List.cons_append, foldlM_ok (step_openObject ha),
      List.cons_append, foldlM_ok rfl, List.cons_append, foldlM_ok rfl, List.append_assoc,
      List.append_assoc, List.singleton_append, hv]
    exact hfs

lemma foldlM_items : (vs : List Json) → arePlain vs → (before : List Json) → (outer : List Frame) →
    Allows limit? outer (depthOfItems vs + 1) → (more : List Token) →
    (itemTokens vs ++ (.closeList :: more)).foldlM (step limit?) (.afterItem before outer) =
      more.foldlM (step limit?) (supply (.list (before.reverse ++ vs)) outer)
  | [], _, before, outer, _, more => by
    rw [itemTokens, List.nil_append, foldlM_ok rfl, List.append_nil]
  | v :: vs, h, before, outer, ha, more => by
    rw [arePlain, Bool.and_eq_true] at h
    have hv := foldlM_tokens v h.1 (.items before :: outer)
      ((ha.push _).mono (Nat.le_max_left _ _)) (itemTokens vs ++ (.closeList :: more))
    have hvs := foldlM_items vs h.2 (v :: before) outer
      (ha.mono (Nat.succ_le_succ (Nat.le_max_right _ _))) more
    rw [itemTokens, List.cons_append, foldlM_ok rfl, List.append_assoc, hv]
    refine hvs.trans ?_
    rw [List.reverse_cons, List.append_assoc, List.singleton_append]

lemma foldlM_fields : (fields : Fields) → fieldsArePlain fields → (before : Fields) →
    (outer : List Frame) → Allows limit? outer (depthOfFields fields + 1) →
    (∀ q ∈ fields, q.1 ∉ before.map (·.1)) → (more : List Token) →
    (fieldTokens fields ++ (.closeObject :: more)).foldlM (step limit?) (.afterField before outer) =
      more.foldlM (step limit?) (supply (.object (before ++ fields)) outer)
  | [], _, before, outer, _, _, more => by
    rw [fieldTokens, List.nil_append, foldlM_ok rfl, List.append_nil]
  | (k, v) :: fields, h, before, outer, ha, hb, more => by
    obtain ⟨-, hk, hpv, hpf⟩ := fieldsArePlain_cons h
    have hv := foldlM_tokens v hpv (.field before k :: outer)
      ((ha.push _).mono (Nat.le_max_left _ _)) (fieldTokens fields ++ (.closeObject :: more))
    have hfs := foldlM_fields fields hpf (before ++ [(k, v)]) outer
      (ha.mono (Nat.succ_le_succ (Nat.le_max_right _ _))) (by
        intro q hq
        simp only [List.map_append, List.mem_append, not_or, List.map_cons, List.map_nil,
          List.mem_singleton]
        exact ⟨hb q (List.mem_cons_of_mem _ hq), hk q hq⟩) more
    have hp : supply v (.field before k :: outer) = .afterField (before ++ [(k, v)]) outer := by
      rw [supply, put_of_notMem (hb (k, v) List.mem_cons_self)]
    rw [fieldTokens, List.cons_append, foldlM_ok rfl, List.cons_append, foldlM_ok rfl,
      List.cons_append, foldlM_ok rfl, List.append_assoc, hv, hp]
    refine hfs.trans ?_
    rw [List.append_assoc, List.singleton_append]

end

end Progress

lemma allows_of_fits {limit? : Option Nat} {v : Json} (h : v.fits limit?) :
    Progress.Allows limit? [] v.depth := by
  intro limit hl
  have hf := (Option.all_eq_true _ _).mp h limit hl
  simpa using hf

lemma parse_render {limit? : Option Nat} {v : Json} (hp : isPlain v) (hf : v.fits limit?) :
    parse (v.render wire) limit? = .ok v := by
  have h := Progress.foldlM_tokens v hp [] (allows_of_fits hf) []
  rw [List.append_nil] at h
  rw [parse, ofTokens, ofText_render hp, h]
  rfl

end LanguageClient.Json
