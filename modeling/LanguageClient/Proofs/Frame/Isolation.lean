import LanguageClient.Proofs.Frame.RoundTrip

/-!
What cannot be read is dropped alone: the messages around it are read as if it were not there.
-/

namespace LanguageClient.Frame

/-- A body that is not the text of an object. -/
structure BadBody (limit? : Option Nat) (body : Bytes) : Prop where
  short : body.length < bodyLimit
  notObject : ∀ t fields, Utf8.decode? body = some t → Json.parse t limit? ≠ .ok (.object fields)
  noLongInteger : ∀ t digits, Utf8.decode? body = some t →
    .longInteger digits ∉ Json.Token.ofText t
  fits : ∀ t, Utf8.decode? body = some t → Json.parse t limit? ≠ .error .nestedTooDeep

/-- A value that is no length, and bytes behind its header in which no length field begins. -/
structure BadHeader (value junk : Bytes) : Prop where
  oneLine : (13 : UInt8) ∉ value
  short : value.length ≤ 4000
  noLength : (∃ b ∈ value, ¬ b < 0x80) ∨
    ∀ n : Nat, Number.integer? (Text.trim CodePoint.isBlank (ascii value)) ≠ some n
  unmarked : ¬ lengthMark <:+: junk.map lowerByte

/-- What may come: a message, a body that is none behind a good header, or a bad header and some
bytes behind it. -/
inductive Segment where
  | message (message : Fields)
  | badBody (body : Bytes)
  | badHeader (value junk : Bytes)

namespace Segment

def bytes : Segment → Checked Bytes
  | message fields => encode (.object fields)
  | badBody body => .ok (frame body)
  | badHeader value junk => .ok (lengthStart ++ value ++ separator ++ junk)

def Valid (limit? : Option Nat) : Segment → Prop
  | message fields => Sendable limit? fields
  | badBody body => BadBody limit? body
  | badHeader value junk => BadHeader value junk

/-- What is made of a segment: of what is bad, a fault with just these bytes. -/
def ReadAs : Segment → Reading → Prop
  | message fields, x => x = .message fields
  | badBody body, x => ∃ reason, x = .malformed reason body
  | badHeader value _, x => ∃ reason, x = .malformed reason (lengthStart ++ value)

end Segment

lemma BadBody.decodeBody {limit? : Option Nat} {body : Bytes} (h : BadBody limit? body) :
    ∃ reason, decodeBody limit? body = .malformed reason body := by
  rw [Frame.decodeBody]
  cases hd : Utf8.decode? body with
  | none => exact ⟨_, rfl⟩
  | some t =>
    cases hp : Json.parse t limit? with
    | ok v =>
      simp only [hp]
      cases v with
      | object fields => exact absurd hp (h.notObject t fields hd)
      | _ => exact ⟨_, rfl⟩
    | error rejection =>
      simp only [hp]
      cases rejection with
      | malformed => exact ⟨_, rfl⟩
      | longInteger digits => exact absurd (Json.mem_of_parse hp) (h.noLongInteger t digits hd)
      | nestedTooDeep => exact absurd hp (h.fits t hd)

lemma BadHeader.parseHeader {value junk : Bytes} (h : BadHeader value junk) :
    ∃ problem, parseHeader (lengthStart ++ value) = .error problem := by
  by_cases ha : ∃ b ∈ value, ¬ b < 0x80
  · obtain ⟨b, hb, hl⟩ := ha
    exact ⟨_, parseHeader_of_not_ascii ⟨b, List.mem_append_right lengthStart hb, hl⟩⟩
  · have hb : ∀ b ∈ value, b < 0x80 := by simpa using ha
    have hn := h.noLength.resolve_left ha
    rw [parseHeader_of_ascii hb h.oneLine, lengthOf]
    cases hi : Number.integer? (Text.trim CodePoint.isBlank (ascii value)) with
    | none => exact ⟨_, rfl⟩
    | some n =>
      cases n with
      | ofNat n => exact absurd hi (hn n)
      | negSucc n => exact ⟨_, rfl⟩

lemma marked_lengthStart (more : Bytes) : Marked (lengthStart ++ more) :=
  Marked.append (by decide) more

lemma marked_frame (body : Bytes) : Marked (frame body) := by
  rw [frame, header_eq, List.append_assoc, List.append_assoc]
  exact marked_lengthStart _

namespace Reader

structure Awaits (limit? : Option Nat) (r : Reader) (junk : Bytes) : Prop where
  quiet : r.Quiet junk
  yields : ∀ part x r', Marked part → Yields (fresh limit?) part x r' → Yields r (junk ++ part) x r'

lemma awaits_fresh (limit? : Option Nat) : Awaits limit? (fresh limit?) [] where
  quiet := quiet_nil (next_fresh limit?)
  yields _ _ _ _ hy := hy

lemma next_lost_of_none {limit? : Option Nat} {bs : Bytes} (h : fromMark? bs = none) :
    (feed { limit?, lost := true } bs).next.1 = .more := by
  rw [next_of_lost rfl h]

lemma next_lost_of_some {limit? : Option Nat} {bs found : Bytes} (h : fromMark? bs = some found) :
    (feed { limit?, lost := true } bs).next = ((fresh limit?).feed found).next := by
  rw [next_of_found rfl h, next_of_not_lost rfl]
  rfl

lemma awaits_lost {limit? : Option Nat} {junk : Bytes} (h : fromMark? junk = none) :
    Awaits limit? { limit?, lost := true } junk where
  quiet p hp := by
    obtain ⟨more, rfl⟩ := hp
    exact next_lost_of_none (fromMark?_eq_none_of_append h)
  yields part x r' hm hy := by
    refine ⟨?_, hy.given, hy.sized, fun p more hne hp => ?_⟩
    · rw [next_lost_of_some (fromMark?_append_of_marked h hm), hy.next]
    · cases hf : fromMark? p with
      | none => exact next_lost_of_none hf
      | some found =>
        have hpart : found ++ more = part := by
          have ha := fromMark?_append more hf
          rw [hp, fromMark?_append_of_marked h hm] at ha
          exact (Option.some.inj ha).symm
        rw [next_lost_of_some hf]
        exact hy.early found more hne hpart

/-- A segment begins with what it is read from; the rest of it is passed over. -/
lemma yields_segment {limit? : Option Nat} {segment : Segment} (h : segment.Valid limit?) :
    ∃ part junk, segment.bytes = .ok (part ++ junk) ∧ Marked part ∧
      ∃ x r', Yields (fresh limit?) part x r' ∧ segment.ReadAs x ∧ Awaits limit? r' junk := by
  cases segment with
  | message fields =>
    have hb : Segment.bytes (.message fields) = .ok (frame (body fields) ++ []) := by
      rw [List.append_nil]
      exact Sendable.encode h
    exact ⟨_, [], hb, marked_frame _, _, _, yields_message h, rfl, awaits_fresh limit?⟩
  | badBody body =>
    have hb : Segment.bytes (.badBody body) = .ok (frame body ++ []) := by
      rw [List.append_nil]
      rfl
    exact ⟨_, [], hb, marked_frame _, _, _, yields_frame (BadBody.short h), BadBody.decodeBody h,
      awaits_fresh limit?⟩
  | badHeader value junk =>
    obtain ⟨problem, hp⟩ := BadHeader.parseHeader h
    have hr : (13 : UInt8) ∉ lengthStart ++ value := by
      rw [List.mem_append, not_or]
      exact ⟨by decide, BadHeader.oneLine h⟩
    have hl : (lengthStart ++ value).length + 3 ≤ headerLimit := by
      have hs : lengthStart.length = 15 := by decide
      have hv := BadHeader.short h
      rw [List.length_append, headerLimit]
      omega
    have hm : Marked (lengthStart ++ value ++ separator) := by
      rw [List.append_assoc]
      exact marked_lengthStart _
    have hj : fromMark? junk = none := (fromMark?_eq_none_iff junk).mpr (BadHeader.unmarked h)
    exact ⟨_, junk, rfl, hm, _, _, yields_header hr hl hp, ⟨_, rfl⟩, awaits_lost hj⟩

lemma run_segments {limit? : Option Nat} {segments : List Segment}
    (h : ∀ segment ∈ segments, segment.Valid limit?) {r : Reader} {junk : Bytes}
    (hr : Awaits limit? r junk) :
    ∃ written, segments.mapM Segment.bytes = .ok written ∧
      ∃ parts r' rest, Run r parts r' ∧ r'.Quiet rest ∧
        bytes parts ++ rest = junk ++ written.flatten ∧
        List.Forall₂ Segment.ReadAs segments (parts.map (·.2)) := by
  induction segments generalizing r junk with
  | nil => exact ⟨[], rfl, [], r, junk, .nil r, hr.quiet, by simp, .nil⟩
  | cons segment segments ih =>
    rw [List.forall_mem_cons] at h
    obtain ⟨part, junk', hb, hm, x, r₁, hy, hx, ha⟩ := yields_segment h.1
    obtain ⟨written, hw, parts, r', rest, hrun, hq, he, hf⟩ := ih h.2 ha
    refine ⟨(part ++ junk') :: written, ?_, (junk ++ part, x) :: parts, r', rest,
      .cons (hr.yields part x r₁ hm hy) hrun, hq, ?_, .cons hx hf⟩
    · rw [List.mapM_cons, hb, hw]
      rfl
    · rw [bytes_cons, List.append_assoc, he, List.flatten_cons]
      simp only [List.append_assoc]

/-- However the bytes of segments are cut, each segment is read as one thing, in their order. -/
theorem receive_segments (limit? : Option Nat) (segments : List Segment)
    (h : ∀ segment ∈ segments, segment.Valid limit?) :
    ∃ written, segments.mapM Segment.bytes = .ok written ∧
      ∀ pieces : List Bytes, pieces.flatten = written.flatten →
        List.Forall₂ Segment.ReadAs segments ((fresh limit?).receive pieces).1.flatten := by
  obtain ⟨written, hw, parts, r', rest, hrun, hq, he, hf⟩ := run_segments h (awaits_fresh limit?)
  refine ⟨written, hw, fun pieces hp => ?_⟩
  have hb : pieces.flatten = bytes parts ++ rest := by rw [hp, he, List.nil_append]
  rw [(hrun.receive (sound_fresh limit?) (next_fresh limit?) hq hb).1]
  exact hf

theorem receive_segments_mixed :
    let value := Utf8.encodeLossless " ten"
    let junk := Utf8.encodeLossless "\x7b\x7d\r\n\r\nContent-Length"
    let segments := [.badHeader value junk, .message [], .badBody [0xFF], .message []]
    (∀ segment ∈ segments, segment.Valid none) ∧
      ∃ written, segments.mapM Segment.bytes = .ok written ∧
        ∀ pieces : List Bytes, pieces.flatten = written.flatten →
          List.Forall₂ Segment.ReadAs segments ((fresh none).receive pieces).1.flatten := by
  intro value junk segments
  have hd : Utf8.decode? [0xFF] = none := by decide
  have hi : Number.integer? (Text.trim CodePoint.isBlank (ascii value)) = none := by decide
  have hh : BadHeader value junk := ⟨by decide, by decide, .inr fun n => by simp [hi], by decide⟩
  have hm : Sendable none [] := ⟨by decide, rfl, lt_bodyLimit (by decide)⟩
  have hb : BadBody none [0xFF] :=
    ⟨lt_bodyLimit (by decide), by simp [hd], by simp [hd],
      fun t _ => Json.parse_none_ne_nestedTooDeep t⟩
  have hs : ∀ segment ∈ segments, segment.Valid none := by
    simp only [segments, List.forall_mem_cons]
    exact ⟨hh, hm, hb, hm, by simp⟩
  exact ⟨hs, receive_segments none segments hs⟩

end Reader

end LanguageClient.Frame
