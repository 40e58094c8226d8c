import LanguageClient.Proofs.Uri.RoundTrip
import Mathlib.Data.List.Forall2

/-!
File names and their bytes. A name may hold bytes that are no text; if its bytes are those of some text,
then the two are cut into components alike.
-/

namespace LanguageClient

namespace Utf8

variable {a rest : Bytes} {b : UInt8} {t : Text}

lemma encodeScalar_of_ascii {n : Nat} (h : n < 0x80) : encodeScalar n = [n.toUInt8] := if_pos h

lemma encodeScalar_ne_nil (n : Nat) : encodeScalar n ≠ [] := by
  unfold encodeScalar
  repeat' split
  all_goals exact List.cons_ne_nil _ _

lemma encodeLossless_cons (c : CodePoint) (t : Text) :
    encodeLossless (c :: t) = encodeScalar c.val ++ encodeLossless t := List.flatMap_cons

lemma encodeLossless_eq_nil (h : encodeLossless t = []) : t = [] := by
  cases t with
  | nil => rfl
  | cons c t =>
    rw [encodeLossless_cons, List.append_eq_nil_iff] at h
    exact absurd h.1 (encodeScalar_ne_nil _)

/-- An ASCII byte among those of a code point is all there is of it. -/
lemma encodeScalar_of_mem {n : Nat} (hn : n < 0x110000) (hb : b.toNat < 0x80) (h : b ∈ encodeScalar n) :
    n = b.toNat ∧ encodeScalar n = [b] := by
  obtain rfl | hlarge := toNat_of_mem_encodeScalar hn b h
  · exact ⟨rfl, by rw [encodeScalar_of_ascii hb, Nat.toUInt8_eq, UInt8.ofNat_toNat]⟩
  · omega

lemma mem_encodeLossless {c : CodePoint} (hc : c.isAscii) (h : c ∈ t) : c.val.toUInt8 ∈ encodeLossless t :=
  List.mem_flatMap.mpr ⟨c, h, by rw [encodeScalar_of_ascii (of_decide_eq_true hc)]; exact List.mem_singleton_self _⟩

/-- Where an ASCII byte stands first, the text is cut as its bytes are. -/
lemma exists_append_of_encodeLossless (hb : b.toNat < 0x80) (ha : b ∉ a) (h : encodeLossless t = a ++ b :: rest) :
    ∃ s u, t = s ++ .ofNat b.toNat :: u ∧ encodeLossless s = a ∧ encodeLossless u = rest := by
  induction t generalizing a with
  | nil => exact absurd h.symm (by simp [encodeLossless])
  | cons c t ih =>
    rw [encodeLossless_cons] at h
    obtain ⟨a', hca, ht⟩ | ⟨rest', hc, hrest⟩ := List.append_eq_append_iff.mp h
    · rw [hca, List.mem_append, not_or] at ha
      obtain ⟨s, u, rfl, hs, hu⟩ := ih ha.2 ht
      exact ⟨c :: s, u, rfl, by rw [encodeLossless_cons, hs, hca], hu⟩
    · cases rest' with
      | nil =>
        rw [List.append_nil] at hc
        obtain ⟨s, u, rfl, hs, hu⟩ := ih List.not_mem_nil hrest.symm
        exact ⟨c :: s, u, rfl, by rw [encodeLossless_cons, hs, hc, List.append_nil], hu⟩
      | cons b' rest' =>
        obtain ⟨rfl, rfl⟩ := List.cons.inj hrest
        obtain ⟨hval, hone⟩ := encodeScalar_of_mem (b := b) c.isLt hb (hc ▸ List.mem_append_right a List.mem_cons_self)
        rw [hone] at hc
        obtain rfl : a = [] := by
          cases a with
          | nil => rfl
          | cons x a => exact absurd (congrArg List.length hc) (by simp)
        obtain ⟨-, rfl⟩ := List.cons.inj hc
        exact ⟨[], t, by rw [← hval, CodePoint.ofNat_val]; rfl, rfl, rfl⟩

end Utf8

namespace Path

variable {r : Text} {cs : List Text}

lemma ne_of_mem_ascend {c : Text} (h : c ∈ ascend cs) : c ≠ [dot, dot] := by
  have hfold : ∀ (cs done : List Text), [dot, dot] ∉ done → [dot, dot] ∉
      cs.foldl (fun done c => if c = [dot, dot] then done.drop 1 else c :: done) done := by
    intro cs
    induction cs with
    | nil => exact fun _ hdone => hdone
    | cons c cs ih =>
      intro done hdone
      refine ih _ ?_
      dsimp only
      split
      next => exact fun hmem => hdone (List.mem_of_mem_drop hmem)
      next hc => exact fun hmem => (List.mem_cons.mp hmem).elim (fun he => hc he.symm) hdone
  rintro rfl
  exact hfold cs [] List.not_mem_nil (List.mem_reverse.mp h)

lemma ascend_of_notMem (h : [dot, dot] ∉ cs) : ascend cs = cs := by
  have hfold : ∀ (cs done : List Text), [dot, dot] ∉ cs →
      cs.foldl (fun done c => if c = [dot, dot] then done.drop 1 else c :: done) done = cs.reverse ++ done := by
    intro cs
    induction cs with
    | nil => exact fun _ _ => rfl
    | cons c cs ih =>
      intro done hcs
      rw [List.mem_cons, not_or] at hcs
      rw [List.foldl_cons, if_neg (Ne.symm hcs.1), ih _ hcs.2, List.reverse_cons, List.append_assoc,
        List.singleton_append]
  rw [ascend, hfold cs [] h, List.append_nil, List.reverse_reverse]

lemma resolve_ofComponents (hr : IsRoot r) (h : ∀ c ∈ cs, IsComponent c) (hup : [dot, dot] ∉ cs) :
    resolve (ofComponents r cs) = ofComponents r cs := by
  rw [resolve, if_pos (isNormal_ofComponents hr h).isAbsolute, root_ofComponents hr h,
    components_ofComponents hr h, ascend_of_notMem hup]

lemma exists_of_resolve (p : Text) : ∃ r cs, resolve p = ofComponents r cs ∧ IsRoot r ∧
    ∀ c ∈ cs, IsComponent c ∧ c ≠ [dot, dot] :=
  ⟨_, _, rfl, isRoot_root (isAbsolute_anchored p), fun _ hc =>
    ⟨(isComponent_of_mem_components (mem_ascend hc)).1, ne_of_mem_ascend hc⟩⟩

end Path

namespace Uri

variable {p q t : Text} {bs : Bytes}

/-- The bytes of a name are those of a text. -/
def Spells (p t : Text) : Prop := fileNameBytes p = .ok (Utf8.encodeLossless t)

lemma exists_of_fileNameBytes_cons {c : CodePoint} (h : fileNameBytes (c :: p) = .ok bs) :
    ∃ rest, fileNameBytes p = .ok rest ∧ ((∃ b : UInt8, c.isSurrogate ∧ 0x80 ≤ b.toNat ∧ bs = b :: rest) ∨
      bs = Utf8.encodeScalar c.val ++ rest) := by
  rw [fileNameBytes] at h
  split at h
  next hc =>
    simp only [CodePoint.within, Bool.and_eq_true, decide_eq_true_eq] at hc
    have hs : c.isSurrogate := by
      simp only [CodePoint.isSurrogate, CodePoint.within, Bool.and_eq_true, decide_eq_true_eq]
      omega
    cases hp : fileNameBytes p with
    | error e => rw [hp] at h; cases h
    | ok rest =>
      rw [hp] at h
      refine ⟨rest, rfl, .inl ⟨_, hs, ?_, (Except.ok.inj h).symm⟩⟩
      rw [Utf8.toNat_toUInt8 (by omega)]
      omega
  split at h
  next => cases h
  next =>
    cases hp : fileNameBytes p with
    | error e => rw [hp] at h; cases h
    | ok rest =>
      rw [hp] at h
      exact ⟨rest, rfl, .inr (Except.ok.inj h).symm⟩

lemma fileNameBytes_append (p q : Text) :
    fileNameBytes (p ++ q) = do return (← fileNameBytes p) ++ (← fileNameBytes q) := by
  induction p with
  | nil =>
    rw [List.nil_append]
    cases fileNameBytes q <;> rfl
  | cons c p ih =>
    rw [List.cons_append, fileNameBytes, fileNameBytes, ih]
    split
    next => cases fileNameBytes p <;> cases fileNameBytes q <;> rfl
    split
    next => rfl
    next =>
      cases fileNameBytes p with
      | error e => rfl
      | ok a =>
        cases fileNameBytes q with
        | error e => rfl
        | ok b => exact congrArg Except.ok (List.append_assoc _ a b).symm

lemma exists_of_fileNameBytes_append (h : fileNameBytes (p ++ q) = .ok bs) :
    ∃ a b, fileNameBytes p = .ok a ∧ fileNameBytes q = .ok b ∧ bs = a ++ b := by
  rw [fileNameBytes_append] at h
  cases hp : fileNameBytes p with
  | error e => rw [hp] at h; cases h
  | ok a =>
    cases hq : fileNameBytes q with
    | error e => rw [hp, hq] at h; cases h
    | ok b =>
      rw [hp, hq] at h
      exact ⟨a, b, rfl, rfl, (Except.ok.inj h).symm⟩

lemma mem_of_mem_fileNameBytes {b : UInt8} (h : fileNameBytes p = .ok bs) (hb : b.toNat < 0x80) (hmem : b ∈ bs) :
    .ofNat b.toNat ∈ p := by
  induction p generalizing bs with
  | nil =>
    cases h
    cases hmem
  | cons c p ih =>
    obtain ⟨rest, hrest, ⟨b', -, hb', rfl⟩ | rfl⟩ := exists_of_fileNameBytes_cons h
    · rw [List.mem_cons] at hmem
      obtain rfl | hmem := hmem
      · omega
      · exact List.mem_cons_of_mem c (ih hrest hmem)
    · obtain hmem | hmem := List.mem_append.mp hmem
      · rw [← (Utf8.encodeScalar_of_mem c.isLt hb hmem).1, CodePoint.ofNat_val]
        exact List.mem_cons_self
      · exact List.mem_cons_of_mem c (ih hrest hmem)

/-- A name with the bytes of an ASCII text is that text. -/
lemma eq_of_spells (h : Spells p t) (ht : ∀ c ∈ t, c.isAscii) : p = t := by
  induction t generalizing p with
  | nil =>
    cases p with
    | nil => rfl
    | cons c p =>
      obtain ⟨rest, -, ⟨b, -, -, hb⟩ | hb⟩ := exists_of_fileNameBytes_cons h
      · cases hb
      · exact absurd (List.append_eq_nil_iff.mp hb.symm).1 (Utf8.encodeScalar_ne_nil _)
  | cons d t ih =>
    obtain ⟨hd, ht⟩ := List.forall_mem_cons.mp ht
    have hd : d.val < 0x80 := of_decide_eq_true hd
    have hbyte := Utf8.toNat_toUInt8 (show d.val < 0x100 by omega)
    cases p with
    | nil =>
      have hnil : Utf8.encodeLossless (d :: t) = [] := (Except.ok.inj h).symm
      cases Utf8.encodeLossless_eq_nil hnil
    | cons c p =>
      obtain ⟨rest, hrest, hb⟩ := exists_of_fileNameBytes_cons h
      rw [Utf8.encodeLossless_cons, Utf8.encodeScalar_of_ascii hd, List.singleton_append] at hb
      obtain ⟨b, -, hlarge, hb⟩ | hb := hb
      · have hsame := congrArg UInt8.toNat (List.cons.inj hb).1
        omega
      · obtain ⟨x, xs, hx⟩ := List.exists_cons_of_ne_nil (Utf8.encodeScalar_ne_nil c.val)
        rw [hx, List.cons_append] at hb
        obtain ⟨rfl, htail⟩ := List.cons.inj hb
        obtain ⟨hval, hone⟩ := Utf8.encodeScalar_of_mem c.isLt (by omega) (hx ▸ List.mem_cons_self)
        obtain rfl : xs = [] := (List.cons.inj (hx.symm.trans hone)).2
        obtain rfl : Utf8.encodeLossless t = rest := htail
        rw [ih hrest ht, CodePoint.ext_val (hval.trans hbyte)]

/-- A name is cut at a slash as the text that it spells. -/
lemma exists_spells_of_append (hslash : Path.slash ∉ p) (h : Spells (p ++ Path.slash :: q) t) :
    ∃ s u, t = s ++ Path.slash :: u ∧ Spells p s ∧ Spells q u := by
  obtain ⟨a, b, ha, hb, hbytes⟩ := exists_of_fileNameBytes_append h
  obtain ⟨rest, hrest, ⟨-, hs, -⟩ | rfl⟩ := exists_of_fileNameBytes_cons hb
  · cases hs
  have hno : 0x2F ∉ a := fun hmem => hslash (mem_of_mem_fileNameBytes ha (by decide) hmem)
  obtain ⟨s, u, rfl, rfl, rfl⟩ := Utf8.exists_append_of_encodeLossless (by decide) hno hbytes
  exact ⟨s, u, rfl, ha, hrest⟩

/-- A text is cut into components as the name that it spells. -/
lemma exists_spelt {cs : List Text} (hcs : ∀ c ∈ cs, Path.slash ∉ c)
    (h : Spells (Text.joinWith [Path.slash] cs) t) :
    ∃ ds, t = Text.joinWith [Path.slash] ds ∧ List.Forall₂ Spells cs ds := by
  induction cs generalizing t with
  | nil => exact ⟨[], Utf8.encodeLossless_eq_nil (Except.ok.inj h).symm, .nil⟩
  | cons c cs ih =>
    obtain ⟨hc, hcs⟩ := List.forall_mem_cons.mp hcs
    cases cs with
    | nil => exact ⟨[t], rfl, .cons h .nil⟩
    | cons c' cs =>
      rw [Text.joinWith_cons_cons, List.append_assoc, List.singleton_append] at h
      obtain ⟨s, u, rfl, hs, hu⟩ := exists_spells_of_append hc h
      obtain ⟨ds, rfl, hds⟩ := ih hcs hu
      cases hds with
      | cons hd hds =>
        refine ⟨_ :: _ :: _, ?_, .cons hs (.cons hd hds)⟩
        rw [Text.joinWith_cons_cons, List.append_assoc, List.singleton_append]

lemma exists_spells_of_slash (h : Spells (Path.slash :: q) t) : ∃ u, t = Path.slash :: u ∧ Spells q u := by
  obtain ⟨s, u, rfl, hs, hu⟩ := exists_spells_of_append (p := []) List.not_mem_nil h
  obtain rfl := Utf8.encodeLossless_eq_nil (Except.ok.inj hs).symm
  exact ⟨u, rfl, hu⟩

/-- No component that says something spells one that does not, nor a step upward. -/
lemma isComponent_of_spells (hp : Path.IsComponent p) (hup : p ≠ [Path.dot, Path.dot]) (h : Spells p t) :
    Path.IsComponent t ∧ t ≠ [Path.dot, Path.dot] := by
  obtain ⟨hne, hdot, hslash⟩ := hp
  refine ⟨⟨?_, ?_, fun hmem => hslash ?_⟩, ?_⟩
  · rintro rfl
    exact hne (eq_of_spells h (by decide))
  · rintro rfl
    exact hdot (eq_of_spells h (by decide))
  · exact mem_of_mem_fileNameBytes h (by decide) (Utf8.mem_encodeLossless (by decide) hmem)
  · rintro rfl
    exact hup (eq_of_spells h (by decide))

lemma resolve_eq_of_spells (hp : Path.resolve p = p) (h : Spells p t) : Path.resolve t = t := by
  obtain ⟨r, cs, he, hr, hcs⟩ := Path.exists_of_resolve p
  obtain ⟨ds, rfl, hds⟩ : ∃ ds, t = Path.ofComponents r ds ∧ List.Forall₂ Spells cs ds := by
    rw [← hp, he, Path.ofComponents] at h
    obtain ⟨u, rfl, hu⟩ : ∃ u, t = r ++ u ∧ Spells (Text.joinWith [Path.slash] cs) u := by
      obtain rfl | rfl := hr
      · exact exists_spells_of_slash h
      · obtain ⟨u, rfl, hu⟩ := exists_spells_of_slash h
        obtain ⟨v, rfl, hv⟩ := exists_spells_of_slash hu
        exact ⟨v, rfl, hv⟩
    obtain ⟨ds, rfl, hds⟩ := exists_spelt (fun c hc => (hcs c hc).1.2.2) hu
    exact ⟨ds, rfl, hds⟩
  have hcomponents : ∀ d ∈ ds, Path.IsComponent d ∧ d ≠ [Path.dot, Path.dot] := by
    clear he h
    induction hds with
    | nil => exact fun d hd => absurd hd List.not_mem_nil
    | cons hcd _ ih =>
      obtain ⟨hc, hcs⟩ := List.forall_mem_cons.mp hcs
      exact List.forall_mem_cons.mpr ⟨isComponent_of_spells hc.1 hc.2 hcd, ih hcs⟩
  exact Path.resolve_ofComponents hr (fun d hd => (hcomponents d hd).1) fun hup => (hcomponents _ hup).2 rfl

end Uri

end LanguageClient
