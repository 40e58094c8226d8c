import LanguageClient.Proofs.Json.Plain
import LanguageClient.Proofs.Json.Token

/-!
The tokens of what is written for a plain value.
-/

namespace LanguageClient.Json

mutual

def tokens : Json → List Token
  | list [] => [.openList, .closeList]
  | list (v :: vs) => .openList :: (tokens v ++ (itemTokens vs ++ [.closeList]))
  | object [] => [.openObject, .closeObject]
  | object ((k, v) :: rest) =>
    .openObject :: .scalar (.text k) :: .colon :: (tokens v ++ (fieldTokens rest ++ [.closeObject]))
  | v => [.scalar v]

def itemTokens : List Json → List Token
  | [] => []
  | v :: vs => .comma :: (tokens v ++ itemTokens vs)

def fieldTokens : Fields → List Token
  | [] => []
  | (k, v) :: rest => .comma :: .scalar (.text k) :: .colon :: (tokens v ++ fieldTokens rest)

end

section

open Token

lemma closes_cons {c : CodePoint} (h : c = ',' ∨ c = ']' ∨ c = '}') (s : Text) :
    Closes (c :: s) := by
  intro d hd
  obtain rfl := Option.some.inj hd
  exact h

lemma closes_renderItems (level : Nat) (vs : List Json) (rest : Text) :
    Closes (renderItems wire level vs ++ (CodePoint.ofChar ']' :: rest)) := by
  cases vs with
  | nil => exact closes_cons (.inr (.inl rfl)) rest
  | cons v vs =>
    rw [renderItems, List.append_assoc, List.append_assoc]
    exact closes_cons (c := ',') (.inl rfl) _

lemma closes_renderFields (level : Nat) (fields : Fields) (rest : Text) :
    Closes (renderFields wire level fields ++ (CodePoint.ofChar '\x7d' :: rest)) := by
  cases fields with
  | nil => exact closes_cons (.inr (.inr rfl)) rest
  | cons field fields =>
    rw [renderFields]
    simp only [List.append_assoc]
    exact closes_cons (c := ',') (.inl rfl) _

lemma spells_mark (c : CodePoint) {token : Token} {rest : Text} (hc : isSpace c = false := by rfl)
    (hp : punctuation? c = some token := by rfl) (hi : token ≠ .illegal := by simp) :
    Spells [c] [token] rest :=
  spells_punctuation hc hp hi rest

lemma closes_nil : Closes [] := by
  simp [Closes]

mutual

lemma spells_renderAt (level : Nat) : (v : Json) → isPlain v → ∀ {rest}, Closes rest →
    Spells (renderAt wire level v) (tokens v) rest
  | null, _, rest, _ => spells_null rest
  | bool b, _, rest, _ => spells_bool b rest
  | int n, h, rest, hr => by
    rw [isPlain, decide_eq_true_eq, Number.length_ofNat_le_iff (by decide)] at h
    exact spells_ofInt h hr
  | float x, h, _, _ => by simp [isPlain] at h
  | text t, h, rest, _ => spells_quoted (isEncodable_iff.mp h) rest
  | list [], _, rest, _ => (spells_mark '[').append (spells_mark ']')
  | list (v :: vs), h, rest, hr => by
    rw [isPlain, arePlain, Bool.and_eq_true] at h
    have hv := spells_renderAt (level + 1) v h.1 (closes_renderItems (level + 1) vs rest)
    have hvs := spells_renderItems (level + 1) vs h.2 rest
    have hw : renderAt wire level (.list (v :: vs)) =
        [CodePoint.ofChar '['] ++ (renderAt wire (level + 1) v ++
          (renderItems wire (level + 1) vs ++ [CodePoint.ofChar ']'])) := by
      simp only [renderAt, List.append_assoc]
      rfl
    rw [hw, tokens]
    refine (spells_mark '[').append (Spells.append ?_ (Spells.append hvs (spells_mark ']')))
    simpa only [List.append_assoc, List.singleton_append] using hv
  | object [], _, rest, _ =>
    (spells_mark (CodePoint.ofChar '\x7b')).append (spells_mark (CodePoint.ofChar '\x7d'))
  | object ((k, v) :: fields), h, rest, hr => by
    obtain ⟨hk, -, hpv, hpf⟩ := fieldsArePlain_cons h
    have hv := spells_renderAt (level + 1) v hpv (closes_renderFields (level + 1) fields rest)
    have hfs := spells_renderFields (level + 1) fields hpf rest
    have hw : renderAt wire level (.object ((k, v) :: fields)) =
        [CodePoint.ofChar '\x7b'] ++ (quoted false k ++ ([CodePoint.ofChar ':'] ++
          CodePoint.ofChar ' ' :: (renderAt wire (level + 1) v ++
            (renderFields wire (level + 1) fields ++ [CodePoint.ofChar '\x7d'])))) := by
      simp only [renderAt, List.append_assoc]
      rfl
    rw [hw, tokens]
    refine (spells_mark (CodePoint.ofChar '\x7b')).append
      ((spells_quoted (isEncodable_iff.mp hk) _).append ((spells_mark ':').append (spells_space ?_)))
    refine Spells.append ?_ (hfs.append (spells_mark (CodePoint.ofChar '\x7d')))
    simpa only [List.append_assoc, List.singleton_append] using hv

lemma spells_renderItems (level : Nat) : (vs : List Json) → arePlain vs → (rest : Text) →
    Spells (renderItems wire level vs) (itemTokens vs) (CodePoint.ofChar ']' :: rest)
  | [], _, rest => fun fuel hf => ⟨fuel, hf, rfl⟩
  | v :: vs, h, rest => by
    rw [arePlain, Bool.and_eq_true] at h
    have hv := spells_renderAt level v h.1 (closes_renderItems level vs rest)
    have hvs := spells_renderItems level vs h.2 rest
    have hw : renderItems wire level (v :: vs) =
        [CodePoint.ofChar ','] ++ CodePoint.ofChar ' ' ::
          (renderAt wire level v ++ renderItems wire level vs) := by
      simp only [renderItems, List.append_assoc]
      rfl
    rw [hw, itemTokens]
    exact (spells_mark ',').append (spells_space (hv.append hvs))

lemma spells_renderFields (level : Nat) : (fields : Fields) → fieldsArePlain fields →
    (rest : Text) →
    Spells (renderFields wire level fields) (fieldTokens fields) (CodePoint.ofChar '\x7d' :: rest)
  | [], _, rest => fun fuel hf => ⟨fuel, hf, rfl⟩
  | (k, v) :: fields, h, rest => by
    obtain ⟨hk, -, hpv, hpf⟩ := fieldsArePlain_cons h
    have hv := spells_renderAt level v hpv (closes_renderFields level fields rest)
    have hfs := spells_renderFields level fields hpf rest
    have hw : renderFields wire level ((k, v) :: fields) =
        [CodePoint.ofChar ','] ++ CodePoint.ofChar ' ' :: (quoted false k ++
          ([CodePoint.ofChar ':'] ++ CodePoint.ofChar ' ' ::
            (renderAt wire level v ++ renderFields wire level fields))) := by
      simp only [renderFields, List.append_assoc]
      rfl
    rw [hw, fieldTokens]
    exact (spells_mark ',').append (spells_space ((spells_quoted (isEncodable_iff.mp hk) _).append
      ((spells_mark ':').append (spells_space (hv.append hfs)))))

end

lemma ofText_render {v : Json} (h : isPlain v) : Token.ofText (v.render wire) = v.tokens := by
  obtain ⟨left, -, he⟩ := spells_renderAt 0 v h closes_nil
    (v.render wire).length (by simp [render])
  rw [List.append_nil] at he
  rw [Token.ofText, render, ← List.append_nil v.tokens]
  refine he.trans (congrArg (v.tokens ++ ·) ?_)
  cases left <;> rfl

end

end LanguageClient.Json
