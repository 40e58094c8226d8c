import LanguageClient.Proofs.Frame.RoundTrip

/-!
Headers of several lines. The last length field alone tells how long the body is, whatever the other lines
are and in whatever order they stand.
-/

namespace LanguageClient.Frame

lemma exists_joinLines {line : Bytes} (h : IsLine line) (lines : List Bytes) :
    ∃ b bs, b ≠ 13 ∧ joinLines (line :: lines) = b :: bs := by
  obtain ⟨b, bs, rfl⟩ := List.exists_cons_of_ne_nil h.ne_nil
  have hb : b ≠ 13 := fun hb => h.single (hb ▸ List.mem_cons_self)
  cases lines with
  | nil => exact ⟨b, bs, hb, List.intercalate_singleton⟩
  | cons next lines => exact ⟨b, _, hb, joinLines_cons ..⟩

lemma cutAround_joinLines {lines : List Bytes} (h : ∀ line ∈ lines, IsLine line) (rest : Bytes) :
    cutAround separator (joinLines lines ++ (separator ++ rest)) = some (joinLines lines, rest) := by
  induction lines with
  | nil => exact cutAround_separator List.not_mem_nil rest
  | cons line lines ih =>
    rw [List.forall_mem_cons] at h
    cases lines with
    | nil =>
      rw [joinLines, List.intercalate_singleton]
      exact cutAround_separator h.1.single rest
    | cons next lines =>
      obtain ⟨b, bs, hb, hbs⟩ := exists_joinLines (h.2 next List.mem_cons_self) lines
      have ih := ih h.2
      rw [hbs, List.cons_append] at ih
      rw [joinLines_cons, hbs, List.append_assoc, List.append_assoc, List.cons_append,
        cutAround_append_of_notMem h.1.single, cutAround_lineEnd hb, ih]
      rfl

/-! Lengths -/

/-- A line that tells a length, with zeros in front of it, and spaces and tabs around it. -/
structure TellsLength (line : Bytes) (n : Nat) : Prop where
  name : nameOf line = lengthName
  value : ∃ pad pad' k, (∀ b ∈ pad ++ pad', b = 32 ∨ b = 9) ∧ k + (Text.ofNat n).length ≤ 4300 ∧
    valueOf line = pad ++ Utf8.encodeLossless (Text.zeros k ++ Text.ofNat n) ++ pad'

lemma isBlank_of_mem_ascii {pad : Bytes} (h : ∀ b ∈ pad, b = 32 ∨ b = 9) :
    ∀ c ∈ ascii pad, c.isBlank := by
  intro c hc
  obtain ⟨b, hb, rfl⟩ := List.mem_map.mp hc
  obtain rfl | rfl := h b hb <;> decide

lemma TellsLength.lengthOf {line : Bytes} {n : Nat} (h : TellsLength line n) :
    lengthOf (ascii (valueOf line)) = .ok n := by
  obtain ⟨pad, pad', k, hpad, hk, hvalue⟩ := h.value
  rw [List.forall_mem_append] at hpad
  have hsmall : ∀ c ∈ Text.zeros k ++ Text.ofNat n, c.val < 0x80 :=
    fun c hc => Nat.lt_trans (val_of_isDigit (isDigit_of_mem_zeros_append hc)).2 (by decide)
  rw [hvalue, ascii_append, ascii_append, ascii_encodeLossless hsmall]
  exact lengthOf_padded hk (isBlank_of_mem_ascii hpad.1) (isBlank_of_mem_ascii hpad.2)

/-- Whatever the lines of a header are, the last one that names a length is believed: the body behind the
header is read, and nothing is left over. -/
theorem Reader.next_of_lines (limit? : Option Nat) (earlier later : List Bytes) (last body : Bytes)
    (message : Fields) (hlines : ∀ line ∈ earlier ++ last :: later, IsLine line)
    (hlast : TellsLength last body.length) (hlater : ∀ line ∈ later, nameOf line ≠ lengthName)
    (hbody : decodeBody limit? body = .message message) :
    ((fresh limit?).feed (joinLines (earlier ++ last :: later) ++ (separator ++ body))).next =
      (.message message, fresh limit?) := by
  rw [next_feed_fresh, takeFrame]
  simp only [cutAround_joinLines hlines, parseHeader_joinLines hlines hlast.name hlater, hlast.lengthOf]
  rw [takeBody_of_le (Nat.le_refl body.length), List.take_length, List.drop_length, hbody]
  rfl

theorem Reader.next_of_lines_mixed :
    let earlier := [Utf8.encodeLossless "content-length: 5", Utf8.encodeLossless "Note: a:b"]
    let last := Utf8.encodeLossless " CONTENT-length :\t002 "
    let later := [Utf8.encodeLossless ":"]
    ((fresh none).feed (joinLines (earlier ++ last :: later) ++ (separator ++ [123, 125]))).next =
      (.message [], fresh none) := by
  intro earlier last later
  have hsmall : ∀ line ∈ earlier ++ last :: later, ∀ b ∈ line, b < 0x80 := by decide +kernel
  have hsingle : ∀ line ∈ earlier ++ last :: later, (13 : UInt8) ∉ line := by decide
  have hcolon : ∀ line ∈ earlier ++ last :: later, (58 : UInt8) ∈ line := by decide
  have hlines : ∀ line ∈ earlier ++ last :: later, IsLine line :=
    fun line hl => ⟨hsmall line hl, hsingle line hl, hcolon line hl⟩
  have hlast : TellsLength last 2 := ⟨by decide, [9], [32], 2, by simp, by decide, by decide⟩
  exact next_of_lines none earlier later last [123, 125] [] hlines hlast (by decide) rfl

end LanguageClient.Frame
