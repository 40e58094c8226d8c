import LanguageClient.Proofs.Frame.Header
import LanguageClient.Proofs.Frame.Run
import LanguageClient.Proofs.Json.Parser

/-!
Frames that are written are read, each when its last byte has come, however their bytes are cut.
-/

namespace LanguageClient.Frame

lemma not_oversized_decodeBody (limit? : Option Nat) (body : Bytes) :
    ¬ (decodeBody limit? body).isOversized := by
  unfold decodeBody
  repeat' split
  any_goals rw [Reading.malformed, Reading.isOversized]; decide
  all_goals exact Bool.false_ne_true

lemma cutAround_of_append {start rest p more : Bytes} (h : (13 : UInt8) ∉ start)
    (hp : p ++ more = start ++ (separator ++ rest)) :
    cutAround separator p = none ∧ p.length ≤ start.length + 3 ∨
      ∃ q, cutAround separator p = some (start, q) ∧ q ++ more = rest := by
  cases hc : cutAround separator p with
  | none =>
    refine .inl ⟨rfl, ?_⟩
    by_contra hl
    have hl' : (start ++ separator).length ≤ p.length := by
      simp only [List.length_append, separator, lineEnd, List.length_cons, List.length_nil]
      omega
    obtain ⟨q, rfl⟩ := List.prefix_of_prefix_length_le
      ⟨rest, by rw [hp, List.append_assoc]⟩ (List.prefix_append p more) hl'
    rw [List.append_assoc, cutAround_separator h] at hc
    cases hc
  | some cut =>
    obtain ⟨before, after⟩ := cut
    have he := cutAround_append more hc
    rw [hp, cutAround_separator h, Option.some.injEq, Prod.mk.injEq] at he
    obtain ⟨rfl, rfl⟩ := he
    exact .inr ⟨after, rfl, rfl⟩

namespace Reader

variable {limit? : Option Nat} {start body : Bytes}

lemma next_feed_fresh (bs : Bytes) : ((fresh limit?).feed bs).next = takeFrame { limit?, buffer := bs } :=
  next_of_not_lost rfl

lemma next_of_short {p : Bytes} (hc : cutAround separator p = none) (hl : p.length ≤ headerLimit) :
    ((fresh limit?).feed p).next.1 = .more := by
  rw [next_feed_fresh, takeFrame]
  simp [hc, Nat.not_lt.mpr hl]

lemma yields_body (h : (13 : UInt8) ∉ start) (hl : start.length + 3 ≤ headerLimit)
    (hs : parseHeader start = .ok body.length) :
    Yields (fresh limit?) (start ++ (separator ++ body)) (decodeBody limit? body) (fresh limit?) where
  next := by
    rw [next_feed_fresh, takeFrame]
    simp only [cutAround_separator h, hs]
    rw [takeBody_of_le (Nat.le_refl body.length), List.take_length, List.drop_length]
    rfl
  given := decodeBody_ne_more limit? body
  sized := not_oversized_decodeBody limit? body
  early p more hm hp := by
    rcases cutAround_of_append h hp with ⟨hc, hlen⟩ | ⟨q, hc, hq⟩
    · exact next_of_short hc (hlen.trans hl)
    · have hlt : q.length < body.length := by
        rw [← hq, List.length_append]
        have := List.length_pos_iff.mpr hm
        omega
      rw [next_feed_fresh, takeFrame]
      simp only [hc, hs]
      rw [takeBody_of_lt hlt]

lemma yields_header (h : (13 : UInt8) ∉ start) (hl : start.length + 3 ≤ headerLimit)
    {problem : HeaderProblem} (hs : parseHeader start = .error problem) :
    Yields (fresh limit?) (start ++ separator) (.malformed problem.reason start)
      { limit?, lost := true } where
  next := by
    have hc : cutAround separator (start ++ separator) = some (start, []) := by
      simpa only [List.append_nil] using cutAround_separator h []
    rw [next_feed_fresh, takeFrame]
    simp only [hc, hs]
  given := by simp [Reading.malformed]
  sized := by
    rw [Reading.malformed, Reading.isOversized]
    cases problem <;> decide
  early p more hm hp := by
    have hp' : p ++ more = start ++ (separator ++ []) := by rw [hp, List.append_nil]
    rcases cutAround_of_append h hp' with ⟨hc, hlen⟩ | ⟨q, hc, hq⟩
    · exact next_of_short hc (hlen.trans hl)
    · exact absurd (List.append_eq_nil_iff.mp hq).2 hm

lemma yields_frame (h : body.length < bodyLimit) :
    Yields (fresh limit?) (frame body) (decodeBody limit? body) (fresh limit?) := by
  have hl : (lengthStart ++ Utf8.encodeLossless (lengthText body.length)).length + 3 ≤
      headerLimit := by
    have hlt := length_lengthText h
    have hls : lengthStart.length = 15 := by decide
    rw [List.length_append, headerLimit]
    omega
  rw [frame, header_eq, List.append_assoc]
  exact yields_body (notMem_lengthLine body.length) hl (parseHeader_lengthText h)

end Reader

/-! Messages -/

def body (message : Fields) : Bytes := Utf8.encodeLossless ((Json.object message).render Json.wire)

/-- A message that the wire keeps as it is, no deeper than the limit if there is one. -/
structure Sendable (limit? : Option Nat) (message : Fields) : Prop where
  plain : (Json.object message).isPlain
  fits : (Json.object message).fits limit?
  short : (body message).length < bodyLimit

variable {limit? : Option Nat} {message : Fields}

lemma forall_mem_of_isClean {v : Json} (h : v.isClean) :
    ∀ c ∈ v.render Json.wire, c.isSurrogate = false :=
  Json.isEncodable_iff.mp (Json.isEncodable_renderAt 0 v h)

lemma encode_of_isClean {v : Json} (h : v.isClean) (hw : v.isWritable) :
    encode v = .ok (frame (Utf8.encodeLossless (v.render Json.wire))) := by
  rw [encode, hw, Utf8.encode?_of_forall (forall_mem_of_isClean h)]
  rfl

lemma encode_of_isPlain {v : Json} (h : v.isPlain) :
    encode v = .ok (frame (Utf8.encodeLossless (v.render Json.wire))) :=
  encode_of_isClean (Json.isClean_of_isPlain v h) (Json.isWritable_of_isPlain v h)

lemma Sendable.encode (h : Sendable limit? message) :
    encode (.object message) = .ok (frame (body message)) :=
  encode_of_isPlain h.plain

lemma Sendable.decodeBody (h : Sendable limit? message) :
    decodeBody limit? (body message) = .message message := by
  rw [Frame.decodeBody, body, Utf8.decode?_encodeLossless
    (forall_mem_of_isClean (Json.isClean_of_isPlain _ h.plain))]
  simp only [Json.parse_render h.plain h.fits]

namespace Reader

lemma yields_message (h : Sendable limit? message) :
    Yields (fresh limit?) (frame (body message)) (.message message) (fresh limit?) := by
  rw [← h.decodeBody]
  exact yields_frame h.short

lemma quiet_nil {r : Reader} (h : r.next = (.more, r)) : r.Quiet [] := by
  intro p hp
  rw [List.prefix_nil.mp hp, feed_nil, h]

lemma encode_messages {messages : List Fields} (h : ∀ message ∈ messages, Sendable limit? message) :
    messages.mapM (fun message => encode (.object message)) =
      .ok (messages.map fun message => frame (body message)) := by
  induction messages with
  | nil => rfl
  | cons message messages ih =>
    rw [List.forall_mem_cons] at h
    rw [List.mapM_cons, h.1.encode, ih h.2]
    rfl

/-- Messages as parts of what is read, each with its bytes. -/
def messageParts (messages : List Fields) : List (Bytes × Reading) :=
  messages.map fun message => (frame (body message), .message message)

lemma bytes_messageParts (messages : List Fields) :
    bytes (messageParts messages) = (messages.map fun message => frame (body message)).flatten := by
  rw [bytes, messageParts, List.map_map]
  rfl

lemma bytes_messageParts_nil : bytes (messageParts []) = [] := rfl

lemma bytes_messageParts_cons (message : Fields) (messages : List Fields) :
    bytes (messageParts (message :: messages)) = frame (body message) ++ bytes (messageParts messages) := rfl

lemma run_messages {messages : List Fields} (h : ∀ message ∈ messages, Sendable limit? message) :
    Run (fresh limit?) (messageParts messages) (fresh limit?) := by
  induction messages with
  | nil => exact .nil _
  | cons message messages ih =>
    rw [List.forall_mem_cons] at h
    exact .cons (yields_message h.1) (ih h.2)

/-- Messages that are written one after the other are read as they are, in their order, each from
the piece that its last byte came with, and nothing is left over. -/
theorem receive_frames (limit? : Option Nat) (messages : List Fields)
    (h : ∀ message ∈ messages, Sendable limit? message) :
    ∃ frames, messages.mapM (fun message => encode (.object message)) = .ok frames ∧
      ∀ pieces : List Bytes, pieces.flatten = frames.flatten →
        ((fresh limit?).receive pieces).1.flatten = messages.map .message ∧
        ((fresh limit?).receive pieces).2 = fresh limit? ∧
        ((fresh limit?).receive pieces).2.buffered = 0 ∧
        ∀ i j, j < messages.length →
          (j < (((fresh limit?).receive pieces).1.take i).flatten.length ↔
            (frames.take (j + 1)).flatten.length ≤ (pieces.take i).flatten.length) := by
  refine ⟨_, encode_messages h, fun pieces hp => ?_⟩
  have hp' : pieces.flatten = bytes (messageParts messages) ++ [] := by
    rw [hp, bytes_messageParts, List.append_nil]
  obtain ⟨hx, hl, ht⟩ := (run_messages h).receive (sound_fresh limit?) (next_fresh limit?)
    (quiet_nil (next_fresh limit?)) hp'
  rw [feed_nil, drain_of_more (next_fresh limit?)] at hl
  refine ⟨by rw [hx, messageParts, List.map_map]; rfl, hl, by rw [hl]; rfl, fun i j hj => ?_⟩
  rw [← List.map_take, ← bytes_messageParts, messageParts, List.map_take]
  exact ht i j (by rwa [messageParts, List.length_map])

theorem receive_frames_header_in_text :
    let message : Fields := [("id", .int (-1)), ("text", .list [.text "Content-Length: 1\r\n\r\n"])]
    Sendable (some 2) message ∧
      ∃ frames, [message, []].mapM (fun message => encode (.object message)) = .ok frames ∧
        ∀ pieces : List Bytes, pieces.flatten = frames.flatten →
          ((fresh (some 2)).receive pieces).1.flatten = [.message message, .message []] := by
  intro message
  have hm : Sendable (some 2) message := ⟨by decide, by decide, lt_bodyLimit (by decide)⟩
  have hn : Sendable (some 2) [] := ⟨by decide, by decide, lt_bodyLimit (by decide)⟩
  obtain ⟨frames, hw, hr⟩ := receive_frames (some 2) [message, []] (by simp [hm, hn])
  exact ⟨hm, frames, hw, fun pieces hp => (hr pieces hp).1⟩

end Reader

end LanguageClient.Frame
