import LanguageClient.Completion
import Mathlib.Data.List.Nodup
import Mathlib.Tactic.Lemma

/-!
Completion items, one after the other. What a list of items comes to is overridden key by key by what
the items behind it come to, and each item by itself comes to one entry or to none.
-/

namespace LanguageClient

/-- A text, or nothing. -/
def Json.IsTextOrNull : Json → Prop
  | null | text _ => True
  | _ => False

def Json.IsIntOrNull : Json → Prop
  | null | int _ => True
  | _ => False

namespace Completion

/-! Tables -/

def keys (d : List Entry) : List Json.Key := d.map (·.key)

/-- What a table says of a key. -/
def info? (d : List Entry) (k : Json.Key) : Option Json := (d.find? (·.key = k)).map (·.info)

/-- A table after what another one says of its keys, and then what only the other one has. -/
def override (d e : List Entry) : List Entry :=
  (d.map fun x => { x with info := (info? e x.key).getD x.info }) ++ e.filter fun y => y.key ∉ keys d

variable {d e : List Entry} {p x : Entry} {k : Json.Key}

lemma put_cons_of_eq (h : x.key = p.key) : put p (x :: e) = { x with info := p.info } :: e := if_pos h

lemma put_cons_of_ne (h : x.key ≠ p.key) : put p (x :: e) = x :: put p e := if_neg h

lemma mem_keys_put : k ∈ keys (put p e) ↔ k = p.key ∨ k ∈ keys e := by
  induction e with
  | nil => simp [put, keys]
  | cons x e ih =>
    by_cases hx : x.key = p.key
    · simp [put_cons_of_eq hx, keys, hx]
    · rw [put_cons_of_ne hx, keys, List.map_cons, List.mem_cons, ← keys, ih, keys, keys, List.map_cons,
        List.mem_cons]
      tauto

lemma nodup_keys_put (h : (keys e).Nodup) : (keys (put p e)).Nodup := by
  induction e with
  | nil => exact List.nodup_singleton _
  | cons x e ih =>
    rw [keys, List.map_cons, List.nodup_cons, ← keys] at h
    by_cases hx : x.key = p.key
    · rw [put_cons_of_eq hx]
      exact List.nodup_cons.mpr h
    · rw [put_cons_of_ne hx, keys, List.map_cons, List.nodup_cons, ← keys, mem_keys_put]
      exact ⟨not_or.mpr ⟨hx, h.1⟩, ih h.2⟩

lemma info?_cons (x : Entry) (e : List Entry) (k : Json.Key) :
    info? (x :: e) k = if x.key = k then some x.info else info? e k := by
  by_cases hx : x.key = k <;> simp [info?, hx]

lemma info?_put (p : Entry) (e : List Entry) (k : Json.Key) :
    info? (put p e) k = if p.key = k then some p.info else info? e k := by
  induction e with
  | nil => exact info?_cons p [] k
  | cons x e ih =>
    by_cases hx : x.key = p.key
    · rw [put_cons_of_eq hx, info?_cons, info?_cons, hx]
      split <;> rfl
    · rw [put_cons_of_ne hx, info?_cons, info?_cons, ih]
      by_cases hk : x.key = k
      · rw [if_pos hk, if_pos hk, if_neg fun hp => hx (hk.trans hp.symm)]
      · rw [if_neg hk, if_neg hk]

/-- An entry is put where its key stands first, or else at the end. -/
lemma put_append (h : p.key ∉ keys d) : put p (d ++ e) = d ++ put p e := by
  induction d with
  | nil => rfl
  | cons x d ih =>
    rw [keys, List.map_cons, List.mem_cons, not_or, ← keys] at h
    rw [List.cons_append, put_cons_of_ne (Ne.symm h.1), ih h.2, List.cons_append]

lemma put_append_of_mem (h : p.key ∈ keys d) : put p (d ++ e) = put p d ++ e := by
  induction d with
  | nil => exact (List.not_mem_nil h).elim
  | cons x d ih =>
    by_cases hx : x.key = p.key
    · rw [List.cons_append, put_cons_of_eq hx, put_cons_of_eq hx, List.cons_append]
    · have hd : p.key ∈ keys d := (List.mem_cons.mp h).resolve_left (Ne.symm hx)
      rw [List.cons_append, put_cons_of_ne hx, put_cons_of_ne hx, ih hd, List.cons_append]

/-- With distinct keys an entry that is put changes what is said of its key, and nothing else. -/
lemma put_eq_map (hd : (keys d).Nodup) (h : p.key ∈ keys d) :
    put p d = d.map fun x => { x with info := if p.key = x.key then p.info else x.info } := by
  induction d with
  | nil => exact (List.not_mem_nil h).elim
  | cons x d ih =>
    rw [keys, List.map_cons, List.nodup_cons, ← keys] at hd
    by_cases hx : x.key = p.key
    · have hrest : d.map (fun x => { x with info := if p.key = x.key then p.info else x.info }) = d := by
        refine (List.map_congr_left fun y hy => ?_).trans (List.map_id d)
        have hne : p.key ≠ y.key := fun hp => hd.1 (hx.trans hp ▸ List.mem_map_of_mem hy)
        rw [if_neg hne, id]
      rw [put_cons_of_eq hx, List.map_cons, hrest, if_pos hx.symm]
    · have hmem : p.key ∈ keys d := (List.mem_cons.mp h).resolve_left (Ne.symm hx)
      rw [put_cons_of_ne hx, ih hd.2 hmem, List.map_cons, if_neg (Ne.symm hx)]

lemma filter_put_of_mem {ks : List Json.Key} (h : p.key ∈ ks) :
    (put p e).filter (fun y => y.key ∉ ks) = e.filter fun y => y.key ∉ ks := by
  induction e with
  | nil => simp [put, h]
  | cons x e ih =>
    by_cases hx : x.key = p.key
    · simp [put_cons_of_eq hx, hx, h]
    · rw [put_cons_of_ne hx, List.filter_cons, List.filter_cons, ih]

lemma filter_put_of_notMem {ks : List Json.Key} (h : p.key ∉ ks) :
    (put p e).filter (fun y => y.key ∉ ks) = put p (e.filter fun y => y.key ∉ ks) := by
  induction e with
  | nil => simp [put, h]
  | cons x e ih =>
    by_cases hx : x.key = p.key
    · have hk : x.key ∉ ks := hx ▸ h
      rw [put_cons_of_eq hx, List.filter_cons_of_pos (by simpa using hk),
        List.filter_cons_of_pos (by simpa using hk), put_cons_of_eq hx]
    · by_cases hk : x.key ∈ ks
      · rw [put_cons_of_ne hx, List.filter_cons_of_neg (by simpa using hk),
          List.filter_cons_of_neg (by simpa using hk), ih]
      · rw [put_cons_of_ne hx, List.filter_cons_of_pos (by simpa using hk),
          List.filter_cons_of_pos (by simpa using hk), put_cons_of_ne hx, ih]

lemma keys_override_left (d e : List Entry) :
    keys (d.map fun x => { x with info := (info? e x.key).getD x.info }) = keys d := by
  rw [keys, List.map_map]
  rfl

/-- What is put behind both tables might have been put into the second one. -/
lemma put_override (hd : (keys d).Nodup) : put p (override d e) = override d (put p e) := by
  have hkeys := keys_override_left d e
  by_cases h : p.key ∈ keys d
  · rw [override, put_append_of_mem (hkeys ▸ h), put_eq_map (hkeys ▸ hd) (hkeys ▸ h), List.map_map, override,
      filter_put_of_mem h]
    congr 1
    refine List.map_congr_left fun x _ => ?_
    rw [Function.comp_apply, info?_put]
    by_cases hx : p.key = x.key <;> simp [hx]
  · rw [override, put_append (hkeys ▸ h), override, filter_put_of_notMem h]
    congr 1
    refine List.map_congr_left fun x hx => ?_
    have hne : p.key ≠ x.key := fun hp => h (hp ▸ List.mem_map_of_mem hx)
    rw [info?_put, if_neg hne]

/-! Items -/

/-- A text that says something. -/
def said : Json → Option Text
  | .text (c :: t) => some (c :: t)
  | _ => none

/-- The name at the place of a kind; kinds are numbered from one. -/
def nameOf : Json → Option Text
  | .int n => if 0 < n then kindNames[n.toNat - 1]? else none
  | _ => none

/-- What an item says of itself. -/
structure Words where
  label : Option Text
  newText : Option Text
  insertText : Option Text
  detail : Option Text
  kind : Option Text

def newTextOf (item : Fields) : Json := (Json.object item).lookup ["textEdit", "newText"] .null

def wordsOf (item : Fields) : Words where
  label := said (item.getD "label" .null)
  newText := said (newTextOf item)
  insertText := said (item.getD "insertText" .null)
  detail := said (item.getD "detail" .null)
  kind := nameOf (item.getD "kind" .null)

/-- An item whose words are texts, as far as they are there. -/
structure IsItem (item : Fields) : Prop where
  label : (item.getD "label" .null).IsTextOrNull
  newText : (newTextOf item).IsTextOrNull
  insertText : (item.getD "insertText" .null).IsTextOrNull
  detail : (item.getD "detail" .null).IsTextOrNull
  kind : (item.getD "kind" .null).IsIntOrNull

/-- Any value, but an object is an item. -/
def IsProper (v : Json) : Prop := ∀ item, v = .object item → IsItem item

namespace Words

/-- What an item goes by. -/
def name? (ws : Words) : Option Text := ws.label <|> ws.newText <|> ws.insertText

/-- The label is longer than the text to insert. -/
def IsSwapped (ws : Words) (label insertText : Text) : Prop :=
  ws.label = some label ∧ ws.insertText = some insertText ∧ insertText.length < label.length

/-- What is shown beside a text to insert in place of its label. -/
def signature (ws : Words) (label : Text) : Text :=
  match ws.detail with
  | some detail => label ++ ": " ++ detail
  | none => label

def info (ws : Words) : Text := (ws.detail <|> ws.kind).getD []

end Words

def entryFor (key info : Text) : Entry := ⟨.text key, key, info⟩

/-- What a value contributes to a table, if anything. -/
inductive Contributes : Json → Option Entry → Prop
  | stray {v} (stray : ∀ item, v ≠ .object item) : Contributes v none
  | silent {item} (nameless : (wordsOf item).name? = none) : Contributes (.object item) none
  | swapped {item label insertText} (swapped : (wordsOf item).IsSwapped label insertText) :
    Contributes (.object item) (some (entryFor insertText ((wordsOf item).signature label)))
  | plain {item name} (named : (wordsOf item).name? = some name)
    (plain : ∀ label insertText, ¬ (wordsOf item).IsSwapped label insertText) :
    Contributes (.object item) (some (entryFor name (wordsOf item).info))

variable {a b v : Json} {item : Fields} {ws : Words}

lemma said_eq_none_iff (h : v.IsTextOrNull) : said v = none ↔ v.holds = false := by
  match v, h with
  | .null, _ | .text [], _ => exact ⟨fun _ => rfl, fun _ => rfl⟩
  | .text (c :: t), _ => simp [said, Json.holds]

lemma said_eq_some_iff {t : Text} : said v = some t ↔ t ≠ [] ∧ v = .text t := by
  match v with
  | .text [] | .null | .bool _ | .int _ | .float _ | .list _ | .object _ => simp [said]
  | .text (c :: u) => simp [said]; grind

lemma said_orElse (h : a.IsTextOrNull) : said (a.orElse b) = (said a <|> said b) := by
  match a, h with
  | .null, _ | .text [], _ | .text (_ :: _), _ => rfl

lemma isTextOrNull_orElse (ha : a.IsTextOrNull) (hb : b.IsTextOrNull) : (a.orElse b).IsTextOrNull := by
  rw [Json.orElse]
  split
  · exact ha
  · exact hb

lemma holds_of_said {t : Text} (h : said v = some t) : v.holds := by
  obtain ⟨hne, rfl⟩ := said_eq_some_iff.mp h
  simpa [Json.holds] using hne

lemma kindName?_eq (h : v.IsIntOrNull) : kindName? v = .ok (nameOf v) := by
  match v, h with
  | .null, _ => rfl
  | .int n, _ =>
    have hpos : (1 ≤ n) = (0 < n) := rfl
    change Except.ok (if (n : Rat).den = 1 && 1 ≤ (n : Rat).num then
      kindNames[(n : Rat).num.toNat - 1]? else none) = _
    simp [nameOf, hpos]

lemma IsItem.said_labelOf (h : IsItem item) : said (labelOf item) = (wordsOf item).name? := by
  change said (((item.getD "label" .null).orElse (newTextOf item)).orElse (item.getD "insertText" .null)) = _
  rw [said_orElse (isTextOrNull_orElse h.label h.newText), said_orElse h.label]
  cases hl : said (item.getD "label" .null) <;> simp [Words.name?, wordsOf, newTextOf, hl]

lemma IsItem.isTextOrNull_labelOf (h : IsItem item) : (labelOf item).IsTextOrNull :=
  isTextOrNull_orElse (isTextOrNull_orElse h.label h.newText) h.insertText

lemma IsItem.infoOf_eq (h : IsItem item) : infoOf item = .ok (.text (wordsOf item).info) := by
  rw [infoOf, Words.info, wordsOf]
  dsimp only
  rw [kindName?_eq h.kind]
  cases hd : said (item.getD "detail" .null) with
  | none =>
    rw [(said_eq_none_iff h.detail).mp hd]
    cases nameOf (item.getD "kind" .null) <;> rfl
  | some detail =>
    obtain ⟨-, he⟩ := said_eq_some_iff.mp hd
    rw [holds_of_said hd, he]
    rfl

lemma size_of_said {t : Text} (h : said v = some t) : v.size = .ok t.length := by
  obtain ⟨-, rfl⟩ := said_eq_some_iff.mp h
  exact congrArg Except.ok (List.length_map _)

/-- Whether the label gives way can always be told. -/
lemma IsItem.labelSaysMore_eq (h : IsItem item) : ∃ b, labelSaysMore item = .ok b ∧
    (b ↔ ∃ label insertText, (wordsOf item).IsSwapped label insertText) := by
  cases hl : said (item.getD "label" .null) with
  | none =>
    refine ⟨false, ?_, by simp [Words.IsSwapped, wordsOf, hl]⟩
    rw [labelSaysMore, (said_eq_none_iff h.label).mp hl]
    rfl
  | some label =>
    cases hi : said (item.getD "insertText" .null) with
    | none =>
      refine ⟨false, ?_, by simp [Words.IsSwapped, wordsOf, hi]⟩
      rw [labelSaysMore, (said_eq_none_iff h.insertText).mp hi, Bool.and_false]
      rfl
    | some insertText =>
      refine ⟨decide (insertText.length < label.length), ?_, by simp [Words.IsSwapped, wordsOf, hl, hi]⟩
      rw [labelSaysMore, holds_of_said hl, holds_of_said hi, size_of_said hl, size_of_said hi]
      rfl

lemma IsItem.exists_contribution (h : IsItem item) : ∃ o, Contributes (.object item) o ∧ entry? item = .ok o := by
  obtain ⟨more, hmore, hiff⟩ := h.labelSaysMore_eq
  rw [ entry?, h.infoOf_eq, hmore]
  dsimp only
  cases hn : said (labelOf item) with
  | none =>
    rw [(said_eq_none_iff h.isTextOrNull_labelOf).mp hn]
    exact ⟨none, .silent (h.said_labelOf ▸ hn), rfl⟩
  | some name =>
    rw [holds_of_said hn]
    obtain ⟨-, hlabel⟩ := said_eq_some_iff.mp hn
    cases more with
    | false =>
      rw [hlabel]
      exact ⟨_, .plain (h.said_labelOf ▸ hn) fun label insertText hs => Bool.false_ne_true (hiff.mpr ⟨_, _, hs⟩), rfl⟩
    | true =>
      obtain ⟨label, insertText, hs⟩ := hiff.mp rfl
      obtain ⟨-, hl⟩ := said_eq_some_iff.mp hs.1
      obtain ⟨-, hi⟩ := said_eq_some_iff.mp hs.2.1
      refine ⟨_, .swapped hs, ?_⟩
      rw [hl, hi, Words.signature, wordsOf]
      dsimp only
      cases hd : said (item.getD "detail" .null) with
      | none =>
        rw [(said_eq_none_iff h.detail).mp hd]
        rfl
      | some detail =>
        obtain ⟨-, he⟩ := said_eq_some_iff.mp hd
        rw [holds_of_said hd, he]
        simp [entryOf, entryFor]
        rfl

lemma Words.ne_nil_of_name? {name : Text} (h : (wordsOf item).name? = some name) : name ≠ [] := by
  have hsaid : ∀ {v : Json}, said v = some name → name ≠ [] := fun h => (said_eq_some_iff.mp h).1
  simp only [name?, wordsOf, Option.orElse_eq_orElse, Option.orElse_eq_or, Option.or_eq_some_iff] at h
  rcases h with h | ⟨-, h | ⟨-, h⟩⟩ <;> exact hsaid h

lemma Contributes.eq_none_iff {o : Option Entry} (h : Contributes v o) :
    o = none ↔ ∀ item, v = .object item → (wordsOf item).name? = none := by
  cases h with
  | stray stray => simpa using fun item hv => (stray item hv).elim
  | silent nameless => simpa using nameless
  | swapped swapped => simp [Words.name?, swapped.1]
  | plain named => simp [named]

lemma Contributes.exists_key {o : Option Entry} (h : Contributes v o) :
    ∀ p ∈ o, ∃ key info : Text, key ≠ [] ∧ p = entryFor key info := by
  intro p hp
  cases h with
  | stray | silent => cases hp
  | swapped swapped =>
    obtain rfl := Option.some.inj hp
    exact ⟨_, _, (said_eq_some_iff.mp swapped.2.1).1, rfl⟩
  | plain named =>
    obtain rfl := Option.some.inj hp
    exact ⟨_, _, Words.ne_nil_of_name? named, rfl⟩

/-! Lists of items -/

lemma IsProper.exists_addItem (h : IsProper v) :
    ∃ o, Contributes v o ∧ ∀ d, addItem d v = .ok (o.elim d fun p => put p d) := by
  cases v with
  | object item =>
    obtain ⟨o, ho, he⟩ := (h item rfl).exists_contribution
    refine ⟨o, ho, fun d => ?_⟩
    rw [addItem, he]
    cases o <;> rfl
  | _ => exact ⟨none, .stray (by simp), fun d => rfl⟩

lemma entries_list (xs : List Json) : entries (.list xs) = xs.foldlM addItem [] := by
  cases xs <;> rfl

lemma override_nil (d : List Entry) : override d [] = d := by
  simp [override, info?]

/-- The same items put behind a second table and behind both. -/
lemma exists_foldlM_addItem {xs : List Json} (hxs : ∀ v ∈ xs, IsProper v) (hd : (keys d).Nodup)
    (he : (keys e).Nodup) : ∃ e', xs.foldlM addItem e = .ok e' ∧
      xs.foldlM addItem (override d e) = .ok (override d e') ∧ (keys e').Nodup := by
  induction xs generalizing e with
  | nil => exact ⟨e, rfl, rfl, he⟩
  | cons v xs ih =>
    rw [List.forall_mem_cons] at hxs
    obtain ⟨o, -, hadd⟩ := hxs.1.exists_addItem
    rw [List.foldlM_cons, List.foldlM_cons, hadd, hadd]
    cases o with
    | none => exact ih hxs.2 he
    | some p =>
      have hput : (some p).elim (override d e) (fun p => put p (override d e)) = override d (put p e) :=
        put_override hd
      rw [hput]
      exact ih hxs.2 (nodup_keys_put he)

/-- What a list of items comes to is overridden by what the items behind it come to: a key that is there
keeps its place. By itself a value contributes one entry with a key that is not empty, if it is an item that
goes by some name, and nothing otherwise. -/
theorem entries_append_of_isProper :
    (∀ xs ys : List Json, (∀ v ∈ xs ++ ys, IsProper v) → ∃ d e, entries (.list xs) = .ok d ∧
      entries (.list ys) = .ok e ∧ entries (.list (xs ++ ys)) = .ok (override d e) ∧
        (keys d).Nodup ∧ (keys e).Nodup) ∧
    ∀ v, IsProper v → ∃ o, Contributes v o ∧ entries (.list [v]) = .ok o.toList ∧
      (o = none ↔ ∀ item, v = .object item → (wordsOf item).name? = none) ∧
      ∀ p ∈ o, ∃ key info : Text, key ≠ [] ∧ p = entryFor key info := by
  refine ⟨fun xs ys h => ?_, fun v h => ?_⟩
  · rw [List.forall_mem_append] at h
    obtain ⟨d, hd, -, hdistinct⟩ := exists_foldlM_addItem (d := []) (e := []) h.1 List.nodup_nil List.nodup_nil
    obtain ⟨e, he, hboth, hdistinct'⟩ := exists_foldlM_addItem (e := []) h.2 hdistinct List.nodup_nil
    rw [override_nil] at hboth
    refine ⟨d, e, (entries_list xs).trans hd, (entries_list ys).trans he, ?_, hdistinct, hdistinct'⟩
    rw [entries_list, List.foldlM_append, hd]
    exact hboth
  · obtain ⟨o, ho, hadd⟩ := h.exists_addItem
    refine ⟨o, ho, ?_, ho.eq_none_iff, ho.exists_key⟩
    rw [entries_list, List.foldlM_cons, hadd]
    cases o <;> rfl

/-- A label gives way to a shorter text to insert, a second item takes its place without being swapped, and
what is no object contributes nothing. -/
theorem entries_append_of_isProper_swapped :
    let opening : Json := .object [("label", "open(path)"), ("insertText", "open"), ("detail", "file")]
    let close : Json := .object [("textEdit", .object [("newText", "close")]), ("kind", .int 3)]
    let again : Json := .object [("label", "open"), ("insertText", "open")]
    (∀ v ∈ [opening, .int 3, close] ++ [again], IsProper v) ∧
      entries (.list ([opening, .int 3, close] ++ [again])) =
        .ok [entryFor "open" "", entryFor "close" "Function"] ∧
      ∃ o, Contributes opening o ∧ entries (.list [opening]) = .ok o.toList := by
  intro opening close again
  have hopen : IsProper opening := by
    rintro item he
    obtain rfl := Json.object.inj he
    exact ⟨trivial, trivial, trivial, trivial, trivial⟩
  have hclose : IsProper close := by
    rintro item he
    obtain rfl := Json.object.inj he
    exact ⟨trivial, trivial, trivial, trivial, trivial⟩
  have hagain : IsProper again := by
    rintro item he
    obtain rfl := Json.object.inj he
    exact ⟨trivial, trivial, trivial, trivial, trivial⟩
  have hstray : IsProper (.int 3) := fun item he => by cases he
  have hall : ∀ v ∈ [opening, .int 3, close] ++ [again], IsProper v := by
    simp [hopen, hclose, hagain, hstray]
  obtain ⟨d, e, hd, he, hboth, -⟩ := entries_append_of_isProper.1 _ _ hall
  obtain ⟨o, ho, hopened, -⟩ := entries_append_of_isProper.2 opening hopen
  refine ⟨hall, ?_, o, ho, hopened⟩
  obtain rfl : [entryFor "open" "open(path): file", entryFor "close" "Function"] = d := Except.ok.inj hd
  obtain rfl : [entryFor "open" ""] = e := Except.ok.inj he
  exact hboth

end Completion

end LanguageClient
