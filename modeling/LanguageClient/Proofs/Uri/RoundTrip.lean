import LanguageClient.Document
import LanguageClient.Proofs.Path
import LanguageClient.Proofs.Text.Utf8
import Mathlib.Data.List.TakeDrop
import Mathlib.Data.List.TakeWhile
import Mathlib.Tactic.Lemma

/-!
Paths and their URIs. What is written as the URI of a path can be read as one. It is read as the normal form
of the path again, so that normal paths have different URIs if they differ, and documents have if their paths
do.
-/

namespace LanguageClient.Uri

variable {p q t : Text}

/-! Harmless texts -/

/-- A code point that can stand anywhere in a URI without spoiling its authority. -/
def isHarmless (c : CodePoint) : Bool := c ≠ '[' && c ≠ ']' && !disguisedDelimiters.contains c.val

lemma isHarmless_of_mem_escapeByte : ∀ n < 256, (escapeByte (.ofNat n)).all isHarmless := by
  decide +kernel

lemma isHarmless_escape (bs : Bytes) : (escape bs).all isHarmless := by
  induction bs with
  | nil => rfl
  | cons b rest ih =>
    have hb := isHarmless_of_mem_escapeByte b.toNat b.toNat_lt
    rw [UInt8.ofNat_toNat] at hb
    rw [escape, List.flatMap_cons, List.all_append, hb]
    exact ih

lemma isHarmless_of_ofPath {path : Text} (h : ofPath path = .ok t) : t.all isHarmless := by
  unfold ofPath at h
  split at h
  next => cases h
  next =>
    cases hb : fileNameBytes (Path.normalise path) with
    | error f => rw [hb] at h; cases h
    | ok bs =>
      rw [hb] at h
      obtain rfl := Except.ok.inj h
      rw [List.all_append, isHarmless_escape, Bool.and_true]
      decide +kernel

/-! Parts of a URI -/

lemma cutAt_subset {c : CodePoint} {scheme rest : Text} (h : Text.cutAt c t = some (scheme, rest)) :
    rest ⊆ t := by
  induction t generalizing scheme with
  | nil => cases h
  | cons x xs ih =>
    rw [Text.cutAt] at h
    split at h
    next =>
      obtain ⟨-, rfl⟩ := Prod.mk.inj (Option.some.inj h)
      exact List.subset_cons_self _ _
    next =>
      obtain ⟨⟨a, b⟩, hab, he⟩ := Option.map_eq_some_iff.mp h
      obtain ⟨-, rfl⟩ := Prod.mk.inj he
      exact List.subset_cons_of_subset _ (ih hab)

lemma cutScheme_subset (t : Text) : (cutScheme t).2 ⊆ t := by
  unfold cutScheme
  split
  next h =>
    split
    · exact cutAt_subset h
    · exact List.Subset.refl _
  next => exact List.Subset.refl _

lemma cutAuthority_subset (t : Text) : (cutAuthority t).1 ⊆ t := by
  unfold cutAuthority
  split
  next a b rest =>
    split
    · intro c hc
      rw [List.span_eq_takeWhile_dropWhile] at hc
      exact List.mem_cons_of_mem _ (List.mem_cons_of_mem _ (List.takeWhile_subset _ hc))
    · exact List.nil_subset _
  next => exact List.nil_subset _

lemma clean_subset (t : Text) : clean t ⊆ t := fun _ hc =>
  (List.dropWhile_sublist _).subset (List.mem_filter.mp hc).1

/-- Nothing is wrong with an authority that is harmless. -/
lemma exists_rawPath (h : t.all isHarmless) : ∃ path, rawPath t = .ok path := by
  obtain ⟨authority, hauthority⟩ : ∃ a, (cutAuthority (cutScheme (clean t)).2).1 = a := ⟨_, rfl⟩
  have hharmless : ∀ c ∈ authority, isHarmless c := fun c hc =>
    List.all_eq_true.mp h c (clean_subset t (cutScheme_subset _ (cutAuthority_subset _ (hauthority ▸ hc))))
  have hbracket : ∀ c : CodePoint, isHarmless c = false → authority.contains c = false := fun c hc => by
    rw [List.contains_eq_mem, decide_eq_false_iff_not]
    intro hm
    rw [hharmless c hm] at hc
    cases hc
  have hbrackets : checkBrackets authority = .ok () := by
    unfold checkBrackets
    rw [hbracket _ (by decide), hbracket _ (by decide)]
    rfl
  have hdisguise : checkDisguise authority = .ok () := by
    refine if_neg ?_
    rw [Bool.not_eq_true, List.any_eq_false]
    intro c hc hd
    have hc := hharmless c hc
    rw [isHarmless, hd] at hc
    simp at hc
  unfold rawPath
  dsimp only
  rw [hauthority, hbrackets, hdisguise]
  exact ⟨_, rfl⟩

/-- A path can be read from the URI that was written for one. -/
lemma exists_toPath_of_ofPath {path : Text} (h : ofPath path = .ok t) : ∃ p, toPath t = .ok p := by
  obtain ⟨p, hp⟩ := exists_rawPath (isHarmless_of_ofPath h)
  rw [toPath, hp]
  exact ⟨_, rfl⟩

/-! Bytes and their escapes -/

/-- A code point that is neither blank nor the end of a path. -/
def isInert (c : CodePoint) : Bool := c.isAscii && 0x20 < c.val && c ≠ '#' && c ≠ '?'

/-- What reading does with a byte that was written. -/
def readsByte (b : UInt8) : Bool :=
  match escapeByte b with
  | [c] => c ≠ '%' && c.val.toUInt8 = b
  | [c, x, y] => c = '%' &&
    match x.hexDigit?, y.hexDigit? with
    | some x, some y => (x * 16 + y).toUInt8 = b
    | _, _ => false
  | _ => false

lemma inert_escapeByte : ∀ n < 256, (escapeByte (.ofNat n)).all isInert ∧ readsByte (.ofNat n) := by
  decide +kernel

lemma unescapeBytes_cons_of_ne {c : CodePoint} (hc : c ≠ '%') (rest : Text) :
    unescapeBytes (c :: rest) = c.val.toUInt8 :: unescapeBytes rest := by
  match rest with
  | [] | [_] => rfl
  | a :: b :: rest =>
    have hc : (c == CodePoint.ofChar '%') = false := beq_false_of_ne hc
    rw [unescapeBytes, hc]

lemma unescapeBytes_escapeByte (b : UInt8) (rest : Text) :
    unescapeBytes (escapeByte b ++ rest) = b :: unescapeBytes rest := by
  have hb := (inert_escapeByte b.toNat b.toNat_lt).2
  rw [UInt8.ofNat_toNat, readsByte] at hb
  split at hb
  next c he =>
    simp only [Bool.and_eq_true, decide_eq_true_eq] at hb
    rw [he, List.singleton_append, unescapeBytes_cons_of_ne hb.1, hb.2]
  next c x y he =>
    rw [Bool.and_eq_true, decide_eq_true_eq] at hb
    obtain ⟨rfl, hb⟩ := hb
    split at hb
    next m n hm hn =>
      rw [he]
      simp only [List.cons_append, List.nil_append, unescapeBytes, beq_self_eq_true, hm, hn]
      rw [of_decide_eq_true hb]
    next => cases hb
  next => cases hb

lemma unescapeBytes_escape (bs : Bytes) : unescapeBytes (escape bs) = bs := by
  induction bs with
  | nil => rfl
  | cons b bs ih =>
    rw [escape, List.flatMap_cons, unescapeBytes_escapeByte]
    exact congrArg (b :: ·) ih

lemma isInert_of_mem_escape {bs : Bytes} {c : CodePoint} (h : c ∈ escape bs) : isInert c := by
  obtain ⟨b, -, hc⟩ := List.mem_flatMap.mp h
  have hb := (inert_escapeByte b.toNat b.toNat_lt).1
  rw [UInt8.ofNat_toNat] at hb
  exact List.all_eq_true.mp hb c hc

/-! Texts -/

lemma unescapeFrom_of_isAscii (h : ∀ c ∈ t, c.isAscii) (ascii : Text) :
    unescapeFrom ascii t = Utf8.decodeLossy (unescapeBytes (ascii.reverse ++ t)) := by
  induction t generalizing ascii with
  | nil => rw [unescapeFrom, List.append_nil]
  | cons c t ih =>
    obtain ⟨hc, ht⟩ := List.forall_mem_cons.mp h
    rw [unescapeFrom, if_pos hc, ih ht, List.reverse_cons, List.append_assoc, List.singleton_append]

lemma decodeLossy_encodeLossless (h : t.IsScalar) :
    Utf8.decodeLossy (Utf8.encodeLossless t) = t := by
  have hpieces := Utf8.piecesFrom_encodeLossless h []
  rw [List.append_nil] at hpieces
  rw [Utf8.decodeLossy, Utf8.pieces, hpieces, Utf8.piecesFrom, Utf8.finish, List.append_nil, List.map_map]
  exact List.map_id t

lemma unescape_escape (bs : Bytes) : unescape (escape bs) = Utf8.decodeLossy bs := by
  have hascii : ∀ c ∈ escape bs, c.isAscii := fun c hc => by
    have hinert := isInert_of_mem_escape hc
    simp only [isInert, Bool.and_eq_true] at hinert
    exact hinert.1.1.1
  rw [unescape, unescapeFrom_of_isAscii hascii, List.reverse_nil, List.nil_append, unescapeBytes_escape]

lemma fileNameBytes_of_isScalar (h : t.IsScalar) :
    fileNameBytes t = .ok (Utf8.encodeLossless t) := by
  induction t with
  | nil => rfl
  | cons c t ih =>
    obtain ⟨hc, ht⟩ := List.forall_mem_cons.mp h
    have hlow : c.within 0xDC80 0xDCFF = false := by
      simp only [CodePoint.isSurrogate, CodePoint.within, Bool.and_eq_false_iff, decide_eq_false_iff_not] at hc ⊢
      omega
    rw [fileNameBytes, hlow, hc, ih ht]
    rfl

/-! URIs of files -/

/-- The URI of the path that some bytes spell. -/
def fileUri (bs : Bytes) : Text := "file://" ++ escape bs

lemma isScalar_of_mem {u : Text} (h : t.IsScalar) (hu : ∀ c ∈ u, c = Path.slash ∨ c ∈ t) : u.IsScalar := by
  intro c hc
  obtain rfl | hc := hu c hc
  · decide
  · exact h c hc

lemma ofPath_of_isScalar (habs : Path.isAbsolute p) (h : p.IsScalar) :
    ofPath p = .ok (fileUri (Utf8.encodeLossless (Path.normalise p))) := by
  have hnormal := isScalar_of_mem h fun c hc => Path.mem_normalise habs hc
  rw [ofPath, habs, fileNameBytes_of_isScalar hnormal]
  rfl

lemma clean_fileUri (bs : Bytes) : clean (fileUri bs) = fileUri bs := by
  have hmem : ∀ c ∈ fileUri bs, isInert c := by
    intro c hc
    rcases List.mem_append.mp hc with hc | hc
    · have hstart : (Text.ofString "file://").all isInert := by decide +kernel
      exact List.all_eq_true.mp hstart c hc
    · exact isInert_of_mem_escape hc
  have hvisible : ∀ c ∈ fileUri bs, 0x20 < c.val := fun c hc => by
    have hinert := hmem c hc
    simp only [isInert, Bool.and_eq_true, decide_eq_true_eq] at hinert
    exact hinert.1.1.2
  have hdrop : (fileUri bs).dropWhile (·.val ≤ 0x20) = fileUri bs := rfl
  rw [clean, hdrop, List.filter_eq_self]
  intro c hc
  have hval := hvisible c hc
  have hne : ∀ d : CodePoint, d.val ≤ 0x20 → c ≠ d := fun d hd he => by
    rw [he] at hval
    omega
  simp [hne (CodePoint.ofChar '\t') (by decide), hne (CodePoint.ofChar '\r') (by decide),
    hne (CodePoint.ofChar '\n') (by decide)]

lemma before_escape {bs : Bytes} {c : CodePoint} (hc : isInert c = false) :
    Text.before c (escape bs) = escape bs := by
  rw [Text.before, List.takeWhile_eq_self_iff]
  intro d hd
  have hd := isInert_of_mem_escape hd
  rw [decide_eq_true_eq]
  rintro rfl
  rw [hc] at hd
  cases hd

lemma rawPath_fileUri {bs : Bytes} (h : (escape bs).head? = some Path.slash) :
    rawPath (fileUri bs) = .ok (escape bs) := by
  obtain ⟨rest, hrest⟩ : ∃ rest, escape bs = Path.slash :: rest := by
    cases he : escape bs with
    | nil => rw [he] at h; cases h
    | cons c rest =>
      rw [he] at h
      exact ⟨rest, by rw [Option.some.inj h]⟩
  have hscheme : cutScheme (fileUri bs) = (Text.ofString "file", "//" ++ escape bs) := rfl
  have hauthority : cutAuthority ("//" ++ escape bs) = ([], escape bs) := by
    rw [hrest]
    rfl
  unfold rawPath
  rw [clean_fileUri, hscheme]
  dsimp only
  rw [hauthority, before_escape (by decide), before_escape (by decide)]
  rfl

lemma toPath_fileUri {bs : Bytes} (h : (escape bs).head? = some Path.slash) :
    toPath (fileUri bs) = .ok (Utf8.decodeLossy bs) := by
  rw [toPath, rawPath_fileUri h]
  exact congrArg Except.ok (unescape_escape bs)

lemma toPath_of_isScalar (hp : Path.IsNormal p) (h : p.IsScalar) : toPath (fileUri (Utf8.encodeLossless p)) = .ok p := by
  obtain ⟨rest, rfl⟩ := hp.exists_cons
  rw [toPath_fileUri rfl, decodeLossy_encodeLossless h]

lemma exists_ofPath (habs : Path.isAbsolute p) (h : p.IsScalar) :
    ∃ uri, ofPath p = .ok uri ∧ toPath uri = .ok (Path.normalise p) :=
  ⟨_, ofPath_of_isScalar habs h, toPath_of_isScalar (Path.isNormal_normalise habs)
    (isScalar_of_mem h fun _ hc => Path.mem_normalise habs hc)⟩

lemma eq_of_ofPath_eq (hp : Path.IsNormal p) (hq : Path.IsNormal q) (hps : p.IsScalar) (hqs : q.IsScalar)
    (h : ofPath p = ofPath q) : p = q := by
  obtain ⟨uri, huri, hread⟩ := exists_ofPath hp.isAbsolute hps
  obtain ⟨uri', huri', hread'⟩ := exists_ofPath hq.isAbsolute hqs
  rw [huri, huri'] at h
  rw [Except.ok.inj h, hread', hp.normalise_eq, hq.normalise_eq] at hread
  exact (Except.ok.inj hread).symm

lemma document_uri_eq {doc : Json} {f : Text} (h : Document.fileName doc = .ok (.text f)) :
    Document.uri doc = ofPath (Path.resolve f) := by
  rw [Document.uri, h]
  rfl

/-- The URI of an absolute path is read as the normal form of the path, and as nothing else; for a normal
path this is the path itself. So normal paths that differ have different URIs, and so have documents whose
paths differ. -/
theorem toPath_ofPath :
    (∀ p : Text, Path.isAbsolute p → p.IsScalar →
      ∃ uri, ofPath p = .ok uri ∧ ∀ q, toPath uri = .ok q ↔ Path.IsNormalFormOf p q) ∧
    (∀ p q : Text, Path.IsNormal p → Path.IsNormal q → p.IsScalar → q.IsScalar →
      ofPath p >>= toPath = .ok p ∧ (ofPath p = ofPath q → p = q)) ∧
    ∀ (doc doc' : Json) (f f' : Text), Document.fileName doc = .ok (.text f) →
      Document.fileName doc' = .ok (.text f') → f.IsScalar → f'.IsScalar →
        Document.uri doc = Document.uri doc' → Path.resolve f = Path.resolve f' := by
  refine ⟨fun p habs hp => ?_, fun p q hp hq hps hqs => ⟨?_, eq_of_ofPath_eq hp hq hps hqs⟩, ?_⟩
  · obtain ⟨uri, huri, hread⟩ := exists_ofPath habs hp
    refine ⟨uri, huri, fun q => ?_⟩
    rw [hread, Path.isNormalFormOf_iff habs, Except.ok.injEq, eq_comm]
  · obtain ⟨uri, huri, hread⟩ := exists_ofPath hp.isAbsolute hps
    rw [huri]
    exact hp.normalise_eq ▸ hread
  · intro doc doc' f f' hdoc hdoc' hf hf' h
    rw [document_uri_eq hdoc, document_uri_eq hdoc'] at h
    exact eq_of_ofPath_eq (Path.isNormal_resolve f) (Path.isNormal_resolve f')
      (isScalar_of_mem hf fun _ => Path.mem_resolve) (isScalar_of_mem hf' fun _ => Path.mem_resolve) h

/-- Two slashes in front, marks that mean something in a URI, and documents that differ in one letter. -/
theorem toPath_ofPath_marks :
    let p : Text := "//srv/./a b//100%#?;:[é\n/../"
    let q : Text := "//srv/a b/100%#?;:[é\n/.."
    let doc (f : Text) : Json := .object [("filename", f)]
    Path.isAbsolute p ∧ p.IsScalar ∧ q.IsScalar ∧ Path.IsNormal q ∧
      (∃ uri, ofPath p = .ok uri ∧ toPath uri = .ok q) ∧ ofPath q >>= toPath = .ok q ∧
      Document.uri (doc "x/../%41") ≠ Document.uri (doc "A") := by
  intro p q doc
  have habs : Path.isAbsolute p := by decide
  have hp : p.IsScalar := by decide
  have hq : q.IsScalar := by decide
  have hform : Path.IsNormalFormOf p q := (Path.isNormalFormOf_iff habs).mpr (by decide +kernel)
  refine ⟨habs, hp, hq, hform.normal, ?_, (toPath_ofPath.2.1 q q hform.normal hform.normal hq hq).1, fun h => ?_⟩
  · obtain ⟨uri, huri, hread⟩ := toPath_ofPath.1 p habs hp
    exact ⟨uri, huri, (hread q).mpr hform⟩
  · have hsame := toPath_ofPath.2.2 (doc "x/../%41") (doc "A") _ _ rfl rfl (by decide) (by decide) h
    exact absurd hsame (by decide +kernel)

end LanguageClient.Uri
