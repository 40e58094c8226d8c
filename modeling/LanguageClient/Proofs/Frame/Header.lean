import LanguageClient.Frame.Header
import LanguageClient.Frame.Writer
import LanguageClient.Proofs.Number.Digits
import LanguageClient.Proofs.Text.Utf8

/-!
Headers. The last of the lines that name a length is worth what stands behind its colon.
-/

namespace LanguageClient.Frame

def lengthStart : Bytes := Utf8.encodeLossless "Content-Length:"

def ascii (bs : Bytes) : Text := bs.map fun b => .ofNat b.toNat

lemma ascii_append (a b : Bytes) : ascii (a ++ b) = ascii a ++ ascii b := List.map_append

lemma mem_of_mem_ascii {b : UInt8} {bs : Bytes} (h : CodePoint.ofNat b.toNat ∈ ascii bs) : b ∈ bs := by
  obtain ⟨d, hd, he⟩ := List.mem_map.mp h
  have hlt : ∀ b : UInt8, b.toNat < 0x110000 := fun b => Nat.lt_trans (UInt8.toNat_lt b) (by decide)
  rw [CodePoint.ofNat, CodePoint.ofNat, dif_pos (hlt d), dif_pos (hlt b)] at he
  exact UInt8.toNat_inj.mp (congrArg CodePoint.val he) ▸ hd

lemma notMem_ascii {bs : Bytes} (h : (13 : UInt8) ∉ bs) : CodePoint.ofChar '\r' ∉ ascii bs :=
  fun hm => h (mem_of_mem_ascii hm)

/-! Lines -/

/-- A line of a header: a name, a colon, and a value with whatever there is. -/
structure IsLine (line : Bytes) : Prop where
  small : ∀ b ∈ line, b < 0x80
  single : (13 : UInt8) ∉ line
  colon : (58 : UInt8) ∈ line

lemma IsLine.ne_nil {line : Bytes} (h : IsLine line) : line ≠ [] := List.ne_nil_of_mem h.colon

def joinLines (lines : List Bytes) : Bytes := lineEnd.intercalate lines

lemma joinLines_cons (line next : Bytes) (lines : List Bytes) :
    joinLines (line :: next :: lines) = line ++ (lineEnd ++ joinLines (next :: lines)) := by
  rw [joinLines, List.intercalate_cons_cons, List.append_assoc]
  rfl

lemma forall_mem_joinLines {lines : List Bytes} (h : ∀ line ∈ lines, IsLine line) :
    ∀ b ∈ joinLines lines, b < 0x80 := by
  induction lines with
  | nil => simp [joinLines]
  | cons line lines ih =>
    rw [List.forall_mem_cons] at h
    cases lines with
    | nil =>
      rw [joinLines, List.intercalate_singleton]
      exact h.1.small
    | cons next lines =>
      rw [joinLines_cons, List.forall_mem_append, List.forall_mem_append]
      exact ⟨h.1.small, by simp [lineEnd], ih h.2⟩

lemma splitLines_of_notMem {t : Text} (h : CodePoint.ofChar '\r' ∉ t) : splitLines t = [t] := by
  induction t with
  | nil => rfl
  | cons c t ih =>
    rw [List.mem_cons, not_or] at h
    cases t with
    | nil => rfl
    | cons d t =>
      rw [splitLines, ih h.2]
      simp [Ne.symm h.1]

lemma splitLines_append {s : Text} (h : CodePoint.ofChar '\r' ∉ s) (t : Text) :
    splitLines (s ++ CodePoint.ofChar '\r' :: CodePoint.ofChar '\n' :: t) = s :: splitLines t := by
  induction s with
  | nil => rw [List.nil_append, splitLines, if_pos (by decide)]
  | cons c s ih =>
    rw [List.mem_cons, not_or] at h
    have ih := ih h.2
    cases s with
    | nil =>
      rw [List.nil_append] at ih
      rw [List.cons_append, List.nil_append, splitLines, if_neg (by simp [Ne.symm h.1]), ih]
    | cons d s =>
      rw [List.cons_append] at ih
      rw [List.cons_append, List.cons_append, splitLines, if_neg (by simp [Ne.symm h.1]), ih]

lemma splitLines_joinLines {line : Bytes} {lines : List Bytes} (h : ∀ l ∈ line :: lines, IsLine l) :
    splitLines (ascii (joinLines (line :: lines))) = (line :: lines).map ascii := by
  induction lines generalizing line with
  | nil =>
    rw [joinLines, List.intercalate_singleton]
    exact splitLines_of_notMem (notMem_ascii (h line List.mem_cons_self).single)
  | cons next lines ih =>
    rw [List.forall_mem_cons] at h
    rw [joinLines_cons, ascii_append, ascii_append, List.map_cons, ← ih h.2]
    exact splitLines_append (notMem_ascii h.1.single) _

/-! Fields -/

def nameOf (line : Bytes) : Text :=
  Text.lowerAscii (Text.trim CodePoint.isBlank (ascii (line.takeWhile (· ≠ 58))))

def valueOf (line : Bytes) : Bytes := (line.dropWhile (· ≠ 58)).tail

def fieldOf (line : Bytes) : Text × Text := (nameOf line, Text.trim CodePoint.isBlank (ascii (valueOf line)))

lemma cutAt_append {c : CodePoint} {s : Text} (h : c ∉ s) (t : Text) :
    Text.cutAt c (s ++ c :: t) = some (s, t) := by
  induction s with
  | nil => simp [Text.cutAt]
  | cons d s ih =>
    rw [List.mem_cons, not_or] at h
    rw [List.cons_append, Text.cutAt, if_neg (Ne.symm h.1), ih h.2]
    rfl

lemma notMem_takeWhile (line : Bytes) : (58 : UInt8) ∉ line.takeWhile (· ≠ 58) :=
  fun h => by simpa using List.all_eq_true.mp List.all_takeWhile 58 h

lemma eq_append_valueOf {line : Bytes} (h : (58 : UInt8) ∈ line) :
    line = line.takeWhile (· ≠ 58) ++ 58 :: valueOf line := by
  induction line with
  | nil => cases h
  | cons b line ih =>
    by_cases hb : b = 58
    · subst hb
      rfl
    · have hm := (List.mem_cons.mp h).resolve_left (Ne.symm hb)
      rw [List.takeWhile_cons_of_pos (by simpa using hb), valueOf,
        List.dropWhile_cons_of_pos (by simpa using hb), List.cons_append, ← valueOf, ← ih hm]

lemma nameOf_append {start : Bytes} (h : (58 : UInt8) ∈ start) (bs : Bytes) :
    nameOf (start ++ bs) = nameOf start := by
  have hl : (start.takeWhile (· ≠ 58)).length ≠ start.length := fun he => by
    rw [← (List.takeWhile_prefix _).eq_of_length he] at h
    exact notMem_takeWhile start h
  rw [nameOf, List.takeWhile_append, if_neg hl, ← nameOf]

lemma valueOf_append {start : Bytes} (h : (58 : UInt8) ∈ start) (bs : Bytes) :
    valueOf (start ++ bs) = valueOf start ++ bs := by
  have hn : start.dropWhile (· ≠ 58) ≠ [] := fun he => by
    rw [← List.takeWhile_append_dropWhile (p := (· ≠ 58)) (l := start), he, List.append_nil] at h
    exact notMem_takeWhile start h
  rw [valueOf, List.dropWhile_append, if_neg (by simpa using hn), List.tail_append_of_ne_nil hn, ← valueOf]

lemma field?_ascii {line : Bytes} (h : (58 : UInt8) ∈ line) : field? (ascii line) = some (fieldOf line) := by
  have hname : CodePoint.ofChar ':' ∉ ascii (line.takeWhile (· ≠ 58)) :=
    fun hm => notMem_takeWhile line (mem_of_mem_ascii hm)
  have hcut : Text.cutAt (CodePoint.ofChar ':') (ascii line) =
      some (ascii (line.takeWhile (· ≠ 58)), ascii (valueOf line)) := by
    rw [congrArg ascii (eq_append_valueOf h), ascii_append]
    exact cutAt_append hname (ascii (valueOf line))
  rw [field?, hcut]
  rfl

lemma fields?_joinLines {lines : List Bytes} (hn : lines ≠ []) (h : ∀ line ∈ lines, IsLine line) :
    fields? (ascii (joinLines lines)) = some (lines.map fieldOf) := by
  obtain ⟨line, lines, rfl⟩ := List.exists_cons_of_ne_nil hn
  have hfilter : ((line :: lines).map ascii).filter (!·.isEmpty) = (line :: lines).map ascii := by
    rw [List.filter_eq_self]
    intro t ht
    obtain ⟨l, hl, rfl⟩ := List.mem_map.mp ht
    simpa [ascii] using (h l hl).ne_nil
  rw [fields?, splitLines_joinLines h, hfilter]
  clear hn hfilter
  generalize line :: lines = lines at h
  induction lines with
  | nil => rfl
  | cons line lines ih =>
    rw [List.forall_mem_cons] at h
    rw [List.map_cons, List.mapM_cons, field?_ascii h.1.colon, ih h.2]
    rfl

lemma lastLength?_fieldOf {last : Bytes} (hlast : nameOf last = lengthName) {later : List Bytes}
    (hlater : ∀ line ∈ later, nameOf line ≠ lengthName) (earlier : List Bytes) :
    lastLength? ((earlier ++ last :: later).map fieldOf) =
      some (Text.trim CodePoint.isBlank (ascii (valueOf last))) := by
  have hnone : (later.map fieldOf).reverse.find? (fun field => field.1 = lengthName) = none := by
    rw [List.find?_eq_none]
    intro field hf
    obtain ⟨line, hl, rfl⟩ := List.mem_map.mp (List.mem_reverse.mp hf)
    exact fun hname => hlater line hl (of_decide_eq_true hname)
  have hfound : (fieldOf last).1 = lengthName := hlast
  rw [lastLength?, List.map_append, List.map_cons, List.reverse_append, List.reverse_cons,
    List.append_assoc, List.find?_append]
  simp only [hnone, List.singleton_append, List.find?_cons, hfound, decide_true, Option.none_or,
    Option.map_some]
  rfl

def lengthOf (value : Text) : Except HeaderProblem Nat :=
  match Number.integer? (Text.trim CodePoint.isBlank value) with
  | some (.ofNat n) => .ok n
  | _ => .error .invalidLength

lemma parseHeader_joinLines {earlier later : List Bytes} {last : Bytes}
    (h : ∀ line ∈ earlier ++ last :: later, IsLine line) (hlast : nameOf last = lengthName)
    (hlater : ∀ line ∈ later, nameOf line ≠ lengthName) :
    parseHeader (joinLines (earlier ++ last :: later)) = lengthOf (ascii (valueOf last)) := by
  have hany : (joinLines (earlier ++ last :: later)).any (· ≥ 0x80) = false := by
    simpa using forall_mem_joinLines h
  have hfields := fields?_joinLines (by simp) h
  rw [ascii] at hfields
  rw [parseHeader, hany, hfields]
  simp only [Bool.false_eq_true, if_false, lastLength?_fieldOf hlast hlater]
  rfl

lemma parseHeader_of_ascii {value : Bytes} (ha : ∀ b ∈ value, b < 0x80) (hr : (13 : UInt8) ∉ value) :
    parseHeader (lengthStart ++ value) = lengthOf (ascii value) := by
  have hcolon : (58 : UInt8) ∈ lengthStart := by decide
  have hsmall : ∀ b ∈ lengthStart, b < 0x80 := by decide +kernel
  have hsingle : (13 : UInt8) ∉ lengthStart ++ value := by
    rw [List.mem_append, not_or]
    exact ⟨by decide, hr⟩
  have hline : IsLine (lengthStart ++ value) :=
    ⟨List.forall_mem_append.mpr ⟨hsmall, ha⟩, hsingle, List.mem_append_left value hcolon⟩
  have hname : nameOf (lengthStart ++ value) = lengthName := by
    rw [nameOf_append hcolon]
    decide
  have hlines : ∀ line ∈ [] ++ [lengthStart ++ value], IsLine line := by simpa using hline
  have hheader := parseHeader_joinLines hlines hname (List.forall_mem_nil _)
  rw [List.nil_append, joinLines, List.intercalate_singleton, valueOf_append hcolon] at hheader
  exact hheader

lemma parseHeader_of_not_ascii {header : Bytes} (h : ∃ b ∈ header, ¬ b < 0x80) :
    parseHeader header = .error .notAscii := by
  obtain ⟨b, hb, hl⟩ := h
  have hany : header.any (· ≥ 0x80) = true := List.any_eq_true.mpr ⟨b, hb, by simpa using hl⟩
  rw [parseHeader, hany, if_pos rfl]

/-- A brace on the only line of a header, behind the colon, is not in a length. -/
lemma parseHeader_of_brace {start bs : Bytes} (hcolon : (58 : UInt8) ∈ start)
    (hbrace : (125 : UInt8) ∈ bs) (hr : (13 : UInt8) ∉ start ++ bs) :
    ∃ problem, parseHeader (start ++ bs) = .error problem := by
  by_cases hany : (start ++ bs).any (· ≥ 0x80)
  · exact ⟨.notAscii, if_pos hany⟩
  · have hsmall : ∀ b ∈ start ++ bs, b < 0x80 := by
      rw [List.any_eq_true, not_exists] at hany
      exact fun b hb => by simpa [hb] using hany b
    have hline : IsLine (start ++ bs) := ⟨hsmall, hr, List.mem_append_left bs hcolon⟩
    have hfields := fields?_joinLines (List.cons_ne_nil (start ++ bs) []) (by simpa using hline)
    rw [joinLines, List.intercalate_singleton, ascii] at hfields
    have hb : CodePoint.ofChar '\x7d' ∈ ascii (valueOf (start ++ bs)) := by
      rw [valueOf_append hcolon, ascii_append]
      exact List.mem_append_right _ (List.mem_map_of_mem hbrace)
    have hnone : Number.integer? (Text.trim CodePoint.isBlank (ascii (valueOf (start ++ bs)))) = none :=
      Number.integer?_eq_none (Number.mem_trim rfl hb) rfl (by decide) rfl
    rw [parseHeader, if_neg hany, hfields, List.map_singleton]
    by_cases hname : nameOf (start ++ bs) = lengthName
    · have hlast := lastLength?_fieldOf hname (List.forall_mem_nil _) []
      rw [List.nil_append, List.map_singleton] at hlast
      exact ⟨.invalidLength, by simp only [hlast, hnone]⟩
    · have hlast : lastLength? [fieldOf (start ++ bs)] = none := by simp [lastLength?, fieldOf, hname]
      exact ⟨.missingLength, by simp only [hlast]⟩

/-! The header of a frame -/

lemma ascii_encodeLossless {t : Text} (h : ∀ c ∈ t, c.val < 0x80) :
    ascii (Utf8.encodeLossless t) = t := by
  induction t with
  | nil => rfl
  | cons c t ih =>
    have hc := h c List.mem_cons_self
    have he : Utf8.encodeLossless (c :: t) = c.val.toUInt8 :: Utf8.encodeLossless t := by
      simp [Utf8.encodeLossless, Utf8.encodeScalar, hc]
    rw [he, ascii, List.map_cons, Utf8.toNat_toUInt8 (Nat.lt_trans hc (by decide)),
      CodePoint.ofNat_val, ← ascii, ih fun d hd => h d (List.mem_cons_of_mem c hd)]

lemma lt_of_mem_encodeLossless {t : Text} (h : ∀ c ∈ t, c.val < 0x80) {b : UInt8}
    (hb : b ∈ Utf8.encodeLossless t) : ∃ c ∈ t, b.toNat = c.val := by
  obtain ⟨c, hc, hm⟩ := List.mem_flatMap.mp hb
  rw [Utf8.encodeScalar, if_pos (h c hc), List.mem_singleton] at hm
  exact ⟨c, hc, hm ▸ Utf8.toNat_toUInt8 (Nat.lt_trans (h c hc) (by decide))⟩

lemma length_encodeLossless {t : Text} (h : ∀ c ∈ t, c.val < 0x80) :
    (Utf8.encodeLossless t).length = t.length := by
  have ha := congrArg List.length (ascii_encodeLossless h)
  rwa [ascii, List.length_map] at ha

lemma val_of_isDigit {c : CodePoint} (h : c.isDigit) : 0x30 ≤ c.val ∧ c.val < 0x40 := by
  simp only [CodePoint.isDigit, CodePoint.within, Bool.and_eq_true, decide_eq_true_eq] at h
  omega

lemma isDigit_of_mem_zeros_append {k n : Nat} {c : CodePoint} (h : c ∈ Text.zeros k ++ Text.ofNat n) :
    c.isDigit :=
  (List.mem_append.mp h).elim Number.isDigit_of_mem_zeros Number.isDigit_of_mem_ofNat

/-- Zeros may stand in front of a length, and blanks around it. -/
lemma lengthOf_padded {k n : Nat} (h : k + (Text.ofNat n).length ≤ Number.longestInteger) {pad pad' : Text}
    (hpad : ∀ c ∈ pad, c.isBlank) (hpad' : ∀ c ∈ pad', c.isBlank) :
    lengthOf (pad ++ (Text.zeros k ++ Text.ofNat n) ++ pad') = .ok n := by
  have hn : Text.zeros k ++ Text.ofNat n ≠ [] := by simp
  have hd : ∀ c ∈ Text.zeros k ++ Text.ofNat n, c.isDigit := fun c hc => isDigit_of_mem_zeros_append hc
  have hl : (Text.zeros k ++ Text.ofNat n).length ≤ Number.longestInteger := by
    rwa [List.length_append, Text.zeros, List.length_replicate]
  rw [lengthOf, Number.trim_padded hpad hpad' hn fun c hc => Number.isBlank_of_isDigit (hd c hc),
    Number.integer?_of_digits hn hd hl, Number.ofDigits_zeros_append, Number.ofDigits_ofNat]

lemma lengthField_eq : lengthField = lengthStart ++ Utf8.encodeLossless " " := by
  decide

/-- The header of a body of so many bytes would be larger than a header may be. -/
def bodyLimit : Nat := Nat.pow 10 4077

lemma lt_bodyLimit {n : Nat} (h : n ≤ 4077) : n < bodyLimit := by
  rw [bodyLimit, Nat.pow_eq]
  exact Nat.lt_of_le_of_lt h (Nat.lt_pow_self (a := 10) (n := 4077) (by decide))

lemma lt_bodyLimit_iff {n : Nat} : n < bodyLimit ↔ (Text.ofNat n).length ≤ 4077 := by
  rw [bodyLimit, Number.length_ofNat_le_iff (k := 4077) (by decide)]

def lengthText (n : Nat) : Text := CodePoint.ofChar ' ' :: Text.ofNat n

lemma val_of_mem_lengthText {n : Nat} {c : CodePoint} (h : c ∈ lengthText n) :
    0x20 ≤ c.val ∧ c.val < 0x40 := by
  rcases List.mem_cons.mp h with rfl | h
  · decide
  · have := val_of_isDigit (Number.isDigit_of_mem_ofNat h)
    omega

lemma isAscii_lengthText {n : Nat} : ∀ c ∈ lengthText n, c.val < 0x80 :=
  fun _ hc => Nat.lt_trans (val_of_mem_lengthText hc).2 (by decide)

lemma header_eq (n : Nat) :
    header n = lengthStart ++ Utf8.encodeLossless (lengthText n) ++ separator := by
  rw [header, lengthField_eq, List.append_assoc lengthStart]
  rfl

lemma length_lengthText {n : Nat} (h : n < bodyLimit) :
    (Utf8.encodeLossless (lengthText n)).length ≤ 4078 := by
  rw [length_encodeLossless isAscii_lengthText]
  exact Nat.succ_le_succ (lt_bodyLimit_iff.mp h)

lemma mem_lengthText {n : Nat} {b : UInt8} (hb : b ∈ Utf8.encodeLossless (lengthText n)) :
    b < 0x80 ∧ b ≠ 13 := by
  obtain ⟨c, hc, he⟩ := lt_of_mem_encodeLossless isAscii_lengthText hb
  have hv := val_of_mem_lengthText hc
  refine ⟨UInt8.lt_iff_toNat_lt.mpr (he ▸ isAscii_lengthText c hc), ?_⟩
  rintro rfl
  rw [← he] at hv
  exact absurd hv.1 (by decide)

lemma notMem_lengthLine (n : Nat) :
    (13 : UInt8) ∉ lengthStart ++ Utf8.encodeLossless (lengthText n) := by
  rw [List.mem_append, not_or]
  exact ⟨by decide, fun hm => (mem_lengthText hm).2 rfl⟩

lemma parseHeader_lengthText {n : Nat} (h : n < bodyLimit) :
    parseHeader (lengthStart ++ Utf8.encodeLossless (lengthText n)) = .ok n := by
  have hl : 0 + (Text.ofNat n).length ≤ Number.longestInteger := by
    rw [Nat.zero_add]
    exact Nat.le_trans (lt_bodyLimit_iff.mp h) (by decide)
  have hlength : lengthOf ([CodePoint.ofChar ' '] ++ (Text.zeros 0 ++ Text.ofNat n) ++ []) = .ok n :=
    lengthOf_padded hl (by decide) (List.forall_mem_nil _)
  rw [List.append_nil] at hlength
  rw [parseHeader_of_ascii (fun b hb => (mem_lengthText hb).1) (fun hm => (mem_lengthText hm).2 rfl),
    ascii_encodeLossless isAscii_lengthText]
  exact hlength

end LanguageClient.Frame
