import LanguageClient.Json.Access
import Mathlib.Data.List.TakeDrop
import Mathlib.Tactic.Lemma

/-!
Paths into values. A path may be cut anywhere and followed in two parts. It gives the value that it leads to,
and the default if that is null or if some step does not apply.
-/

namespace LanguageClient

lemma Fields.mem_of_get? {fields : Fields} {key : Text} {v : Json} (h : fields.get? key = some v) :
    (key, v) ∈ fields := by
  induction fields with
  | nil => cases h
  | cons field rest ih =>
    rw [get?] at h
    split at h
    next hkey =>
      obtain rfl := Option.some.inj h
      exact hkey ▸ List.mem_cons_self
    next => exact List.mem_cons_of_mem _ (ih h)

namespace Json

/-- One step of a path. -/
inductive Selector where
  | name (key : Text)
  | index (i : Int)

namespace Selector

def key : Selector → Json
  | name key => .text key
  | index i => .int i

/-- An object has the field, or a list is long enough; a negative index counts from the end. -/
def Applies : Selector → Json → Prop
  | name key, .object fields => key ∈ fields.map Prod.fst
  | index i, .list items => -(items.length : Int) ≤ i ∧ i < items.length
  | _, _ => False

end Selector

/-- A path as it is handed to a lookup. -/
def pathOf (path : List Selector) : List Json := path.map Selector.key

/-- What a selector takes out of a value: the first field of that name, the item with so many items before
it, or the item from which so many are left. -/
inductive Selects : Json → Selector → Json → Prop
  | field {before after : Fields} {key : Text} {v : Json} (first : key ∉ before.map Prod.fst) :
    Selects (.object (before ++ (key, v) :: after)) (.name key) v
  | item {before after : List Json} {v : Json} :
    Selects (.list (before ++ v :: after)) (.index before.length) v
  | fromEnd {before after : List Json} {v : Json} :
    Selects (.list (before ++ v :: after)) (.index (-(v :: after).length)) v

/-- Where a path leads, if every step applies. -/
inductive Leads : Json → List Selector → Json → Prop
  | here {v : Json} : Leads v [] v
  | step {v w u : Json} {s : Selector} {path : List Selector} (selects : Selects v s w)
    (rest : Leads w path u) : Leads v (s :: path) u

variable {v w : Json} {s : Selector} {path : List Selector} {fields before after : Fields} {items : List Json}
  {key : Text} {i : Int} {n : Nat}

/-! Steps -/

lemma get?_append_cons (first : key ∉ before.map Prod.fst) :
    Fields.get? (before ++ (key, v) :: after) key = some v := by
  induction before with
  | nil => exact if_pos rfl
  | cons field before ih =>
    rw [List.map_cons, List.mem_cons, not_or] at first
    exact (if_neg (Ne.symm first.1)).trans (ih first.2)

lemma exists_append_of_mem (h : key ∈ fields.map Prod.fst) :
    ∃ before v after, fields = before ++ (key, v) :: after ∧ key ∉ before.map Prod.fst := by
  induction fields with
  | nil => exact (List.not_mem_nil h).elim
  | cons field rest ih =>
    by_cases hkey : key = field.1
    · exact ⟨[], field.2, rest, by rw [hkey, List.nil_append], List.not_mem_nil⟩
    · obtain ⟨before, v, after, rfl, first⟩ := ih ((List.mem_cons.mp h).resolve_left hkey)
      refine ⟨field :: before, v, after, rfl, ?_⟩
      rw [List.map_cons, List.mem_cons, not_or]
      exact ⟨hkey, first⟩

/-- Each place of a list has two indexes. -/
def IsAt (items : List Json) (i : Int) (n : Nat) : Prop := n < items.length ∧ (i = n ∨ i = n - items.length)

lemma exists_isAt (h : -(items.length : Int) ≤ i ∧ i < items.length) : ∃ n, IsAt items i n := by
  by_cases hi : 0 ≤ i
  · exact ⟨i.toNat, by omega, .inl (by omega)⟩
  · exact ⟨(i + items.length).toNat, by omega, .inr (by omega)⟩

lemma IsAt.item?_eq (h : IsAt items i n) : item? items i = items[n]? := by
  obtain ⟨hn, hi⟩ := h
  have hplace : (if i < 0 then i + (items.length : Int) else i).toNat = n := by
    split <;> omega
  rw [item?, hplace, if_pos (by simp only [Bool.and_eq_true, decide_eq_true_eq]; omega)]

lemma IsAt.selects (h : IsAt items i n) (hv : items[n]? = some v) : Selects (.list items) (.index i) v := by
  obtain ⟨hn, hi⟩ := h
  obtain ⟨-, rfl⟩ := List.getElem?_eq_some_iff.mp hv
  have hsplit : items.take n ++ items[n] :: items.drop (n + 1) = items := by
    rw [List.getElem_cons_drop, List.take_append_drop]
  rcases hi with rfl | rfl
  · have hitem : Selects (.list (items.take n ++ items[n] :: items.drop (n + 1)))
        (.index (items.take n).length) items[n] := .item
    rwa [hsplit, List.length_take_of_le (Nat.le_of_lt hn)] at hitem
  · have hitem : Selects (.list (items.take n ++ items[n] :: items.drop (n + 1)))
        (.index (-(items[n] :: items.drop (n + 1)).length)) items[n] := .fromEnd
    rw [hsplit, List.getElem_cons_drop, List.length_drop] at hitem
    rwa [show (n : Int) - items.length = -(items.length - n : Nat) by omega]

lemma bounds_of_item? (h : item? items i = some v) : -(items.length : Int) ≤ i ∧ i < items.length := by
  rw [item?] at h
  split at h
  next hi => simpa only [Bool.and_eq_true, decide_eq_true_eq] using hi
  next => cases h

lemma child?_of_selects (h : Selects v s w) : v.child? s.key = some w := by
  have hplace (before after : List Json) : (before ++ w :: after)[before.length]? = some w := by
    rw [List.getElem?_append_right (Nat.le_refl _), Nat.sub_self, List.getElem?_cons_zero]
  cases h with
  | field first => exact get?_append_cons first
  | item => exact (IsAt.item?_eq ⟨by simp, .inl rfl⟩).trans (hplace _ _)
  | fromEnd =>
    refine (IsAt.item?_eq ⟨by simp, .inr ?_⟩).trans (hplace _ _)
    rw [List.length_append]
    omega

lemma selects_of_child? (h : v.child? s.key = some w) : Selects v s w := by
  cases s with
  | name key =>
    cases v with
    | object fields =>
      obtain ⟨before, u, after, rfl, first⟩ := exists_append_of_mem (List.mem_map_of_mem (Fields.mem_of_get? h))
      obtain rfl : u = w := Option.some.inj ((get?_append_cons first).symm.trans h)
      exact .field first
    | _ => cases h
  | index i =>
    cases v with
    | list items =>
      obtain ⟨n, hn⟩ := exists_isAt (bounds_of_item? h)
      exact hn.selects (hn.item?_eq ▸ h)
    | _ => cases h

lemma exists_selects_iff : (∃ w, Selects v s w) ↔ s.Applies v := by
  constructor
  · rintro ⟨w, first | _ | _⟩
    · simp [Selector.Applies]
    · simp only [Selector.Applies, List.length_append, List.length_cons]
      omega
    · simp only [Selector.Applies, List.length_append, List.length_cons]
      omega
  · intro h
    cases s with
    | name key =>
      cases v with
      | object fields =>
        obtain ⟨before, w, after, rfl, first⟩ := exists_append_of_mem h
        exact ⟨w, .field first⟩
      | _ => exact h.elim
    | index i =>
      cases v with
      | list items =>
        obtain ⟨n, hn⟩ := exists_isAt h
        exact ⟨_, hn.selects (List.getElem?_eq_getElem hn.1)⟩
      | _ => exact h.elim

/-! Paths -/

lemma walk?_append (v : Json) (ks js : List Json) :
    v.walk? (ks ++ js) = (v.walk? ks).bind fun w => w.walk? js := by
  induction ks generalizing v with
  | nil => rfl
  | cons key ks ih =>
    rw [List.cons_append, walk?, walk?, Option.bind_assoc]
    exact congrArg _ (funext ih)

lemma walk?_eq_some_iff : v.walk? (pathOf path) = some w ↔ Leads v path w := by
  induction path generalizing v with
  | nil =>
    refine ⟨fun h => Option.some.inj h ▸ .here, fun h => ?_⟩
    cases h
    rfl
  | cons s path ih =>
    rw [pathOf, List.map_cons, walk?, Option.bind_eq_some_iff]
    constructor
    · rintro ⟨u, hu, hw⟩
      exact .step (selects_of_child? hu) (ih.mp hw)
    · rintro (_ | ⟨selects, rest⟩)
      exact ⟨_, child?_of_selects selects, ih.mpr rest⟩

/-- From null every path gives the default. -/
lemma lookup_null (path : List Json) (default : Json) : Json.null.lookup path default = default := by
  cases path <;> rfl

lemma lookup_append (v : Json) (ks js : List Json) (default : Json) :
    v.lookup (ks ++ js) default = (v.lookup ks .null).lookup js default := by
  rw [lookup, walk?_append, lookup.eq_def v ks]
  cases v.walk? ks with
  | none => exact (lookup_null js default).symm
  | some w => cases w <;> rfl

lemma lookup_of_leads (h : Leads v path w) (hw : w ≠ .null) (default : Json) :
    v.lookup (pathOf path) default = w := by
  rw [lookup, walk?_eq_some_iff.mpr h]
  cases w with
  | null => exact (hw rfl).elim
  | _ => rfl

lemma lookup_eq_default (h : ∀ w, Leads v path w → w = .null) (default : Json) :
    v.lookup (pathOf path) default = default := by
  rw [lookup]
  cases hw : v.walk? (pathOf path) with
  | none => rfl
  | some w =>
    obtain rfl := h w (walk?_eq_some_iff.mp hw)
    rfl

/-- A path is followed in two parts, null being what the first part gives if it leads nowhere. What the path
leads to is given unless it is null, and in every other case the default is. A step leads on if and only if it
applies. -/
theorem lookup_pathOf (v default : Json) :
    (∀ ks js, v.lookup (pathOf (ks ++ js)) default =
      (v.lookup (pathOf ks) .null).lookup (pathOf js) default) ∧
    (∀ path w, Leads v path w → w ≠ .null → v.lookup (pathOf path) default = w) ∧
    (∀ path, (∀ w, Leads v path w → w = .null) → v.lookup (pathOf path) default = default) ∧
    ∀ s u, (∃ w, Selects u s w) ↔ s.Applies u := by
  refine ⟨fun ks js => ?_, fun path w h hw => lookup_of_leads h hw default,
    fun path h => lookup_eq_default h default, fun s u => exists_selects_iff⟩
  rw [pathOf, List.map_append]
  exact lookup_append v _ _ default

/-- The last item but one of a list in an object is found in one go and in two, and the null in the last one
gives way to the default. -/
theorem lookup_pathOf_fromEnd :
    let v : Json := .object [("a", .list [.int 10, .object [("c", .null)]])]
    Leads v [.name "a", .index (-2)] (.int 10) ∧
      v.lookup (pathOf [.name "a", .index (-2)]) (.int 7) = .int 10 ∧
      (v.lookup (pathOf [.name "a"]) .null).lookup (pathOf [.index (-2)]) (.int 7) = .int 10 ∧
      v.lookup (pathOf [.name "a", .index 1, .name "c"]) (.int 7) = .int 7 := by
  intro v
  have hten : Leads v [.name "a", .index (-2)] (.int 10) := walk?_eq_some_iff.mp rfl
  obtain ⟨hparts, hleads, hdefault, -⟩ := lookup_pathOf v (.int 7)
  refine ⟨hten, hleads _ _ hten (by simp), ?_, hdefault _ fun w hw => ?_⟩
  · rw [← hparts [.name "a"] [.index (-2)]]
    exact hleads _ _ hten (by simp)
  · have hnull : some Json.null = some w := walk?_eq_some_iff.mpr hw
    exact (Option.some.inj hnull).symm

end Json

end LanguageClient
