import LanguageClient.Proofs.Frame.Fields
import LanguageClient.Proofs.Frame.Isolation

/-!
A header that is given up for its size. All bytes that have come are dropped with it, also the beginning of
a length field, and the frame that began there is not found again.
-/

namespace LanguageClient.Frame

variable {limit? : Option Nat} {message : Fields}

/-! The bytes of a message -/

lemma notMem_body (h : (Json.object message).isPlain) : (13 : UInt8) ∉ body message := by
  intro hm
  obtain ⟨c, hc, hb⟩ := List.mem_flatMap.mp hm
  have hgraphic : 0x20 ≤ c.val :=
    of_decide_eq_true (List.all_eq_true.mp (Json.isGraphic_renderAt 0 _ h) c hc)
  have hbyte := Utf8.toNat_of_mem_encodeScalar c.isLt 13 hb
  rw [show (13 : UInt8).toNat = 13 from rfl] at hbyte
  omega

lemma exists_body (message : Fields) : ∃ bs, body message = bs ++ [125] := by
  have hend : ∀ t : Text, Utf8.encodeLossless (t ++ "\x7d") = Utf8.encodeLossless t ++ [125] :=
    fun t => Utf8.encodeLossless_append t _
  cases message with
  | nil => exact ⟨[123], rfl⟩
  | cons field fields => exact ⟨_, hend _⟩

lemma lowerByte_eq_colon {b : UInt8} (h : lowerByte b = 58) : b = 58 := by
  unfold lowerByte at h
  split at h
  next hb =>
    rw [Bool.and_eq_true, decide_eq_true_eq, decide_eq_true_eq, UInt8.le_iff_toNat_le] at hb
    have hsum := congrArg UInt8.toNat h
    rw [UInt8.toNat_add] at hsum
    simp only [UInt8.reduceToNat, Nat.reducePow] at hb hsum
    have := UInt8.toNat_lt b
    omega
  next => exact h

/-- A length field that begins in a body ends before the body does. -/
lemma exists_found {found : Bytes} (h : fromMark? (body message) = some found) :
    ∃ start, found = start ++ [125] ∧ (58 : UInt8) ∈ start := by
  obtain ⟨hm, before, hbefore⟩ := marked_of_fromMark? h
  obtain ⟨bs, hbs⟩ := exists_body message
  have hcolon : (58 : UInt8) ∈ found := by
    have hmem : (58 : UInt8) ∈ found.map lowerByte := hm.subset (by decide)
    obtain ⟨b, hb, he⟩ := List.mem_map.mp hmem
    exact lowerByte_eq_colon he ▸ hb
  obtain ⟨start, last, rfl⟩ : ∃ start last, found = start ++ [last] :=
    ⟨_, _, (List.dropLast_append_getLast (List.ne_nil_of_mem hcolon)).symm⟩
  rw [hbs, ← List.append_assoc, List.append_singleton_inj] at hbefore
  rw [List.mem_append, List.mem_singleton, hbefore.2] at hcolon
  exact ⟨start, by rw [hbefore.2], hcolon.resolve_right (by decide)⟩

lemma fromMark?_append_of_forall {bs : Bytes} (h : ∀ b ∈ bs, lowerByte b ≠ 99) (more : Bytes) :
    fromMark? (bs ++ more) = fromMark? more := by
  induction bs with
  | nil => rfl
  | cons b bs ih =>
    rw [List.forall_mem_cons] at h
    have hb : ¬ Marked (b :: (bs ++ more)) := fun hm => by
      rw [Marked, lengthMark_eq, List.map_cons, List.cons_prefix_cons] at hm
      exact h.1 hm.1.symm
    rw [List.cons_append, fromMark?_cons, if_neg hb, ih h.2]

/-! A reader that has lost the beginning of a frame -/

def Reading.fields? : Reading → Option Fields
  | .message fields => some fields
  | _ => none

/-- What is read of messages when the header of the first one was lost: a header that seems to begin in a
body is taken together with the next header, and that message is lost as well. -/
def afterLoss (messages : List Fields) : List Fields :=
  (messages.dropWhile fun message => (fromMark? (body message)).isSome).tail

lemma afterLoss_of_none {message : Fields} (h : fromMark? (body message) = none) (messages : List Fields) :
    afterLoss (message :: messages) = messages := by
  rw [afterLoss, List.dropWhile_cons_of_neg (by simp [h]), List.tail_cons]

lemma afterLoss_of_some {message : Fields} {found : Bytes} (h : fromMark? (body message) = some found)
    (messages : List Fields) : afterLoss (message :: messages) = afterLoss messages := by
  rw [afterLoss, List.dropWhile_cons_of_pos (by simp [h]), ← afterLoss]

lemma length_afterLoss_lt {messages : List Fields} (h : messages ≠ []) :
    (afterLoss messages).length < messages.length := by
  have hle : (messages.dropWhile fun message => (fromMark? (body message)).isSome).length ≤ messages.length :=
    (List.dropWhile_suffix _).length_le
  have hpos := List.length_pos_iff.mpr h
  rw [afterLoss, List.length_tail]
  omega

namespace Reader

lemma sound_lost (bs : Bytes) : (feed { limit?, lost := true } bs).Sound := by simp [Sound, feed]

lemma drain_lost_of_none {bs : Bytes} (h : fromMark? bs = none) :
    (feed { limit?, lost := true } bs).drain.1 = [] :=
  drain_of_next_more (next_lost_of_none h)

lemma drain_lost_of_some {bs found : Bytes} (h : fromMark? bs = some found) :
    (feed { limit?, lost := true } bs).drain = ((fresh limit?).feed found).drain :=
  drain_congr (sound_lost bs) (sound_fresh limit?) (next_lost_of_some h)

lemma drain_lost_append {bs : Bytes} (h : ∀ b ∈ bs, lowerByte b ≠ 99) (more : Bytes) :
    (feed { limit?, lost := true } (bs ++ more)).drain.1 = (feed { limit?, lost := true } more).drain.1 := by
  have hf := fromMark?_append_of_forall h more
  cases hm : fromMark? more with
  | none => rw [drain_lost_of_none hm, drain_lost_of_none (hf.trans hm)]
  | some found => rw [drain_lost_of_some hm, drain_lost_of_some (hf.trans hm)]

lemma drain_messages {messages : List Fields} (h : ∀ message ∈ messages, Sendable limit? message) :
    ((fresh limit?).feed (bytes (messageParts messages))).drain.1 = messages.map .message := by
  have hd := (run_messages h).drain (sound_fresh limit?) []
  rw [List.append_nil, feed_nil, drain_of_more (next_fresh limit?), List.append_nil] at hd
  rw [hd, messageParts, List.map_map]
  rfl

lemma drain_lost_messages {messages : List Fields} (h : ∀ message ∈ messages, Sendable limit? message)
    {bs : Bytes} (hbs : fromMark? bs = none) :
    (feed { limit?, lost := true } (bs ++ bytes (messageParts messages))).drain.1 =
      messages.map .message := by
  cases messages with
  | nil =>
    rw [bytes_messageParts_nil, List.append_nil]
    exact drain_lost_of_none hbs
  | cons message messages =>
    have hm : Marked (bytes (messageParts (message :: messages))) := by
      rw [bytes_messageParts_cons]
      exact (marked_frame _).append _
    rw [drain_lost_of_some (fromMark?_append_of_marked hbs hm), drain_messages h]

lemma next_oversized {bs : Bytes} (hl : headerLimit < bs.length) (h : cutAround separator bs = none) :
    ((fresh limit?).feed bs).next = (.oversized bs, { limit?, lost := true }) := by
  rw [next_feed_fresh, takeFrame]
  simp only [h]
  rw [if_pos hl]

lemma drain_oversized {bs : Bytes} (hl : headerLimit < bs.length) (h : cutAround separator bs = none) :
    ((fresh limit?).feed bs).drain = ([.oversized bs], { limit?, lost := true }) := by
  have hlost : Reader.drain { limit?, lost := true } = ([], { limit?, lost := true }) :=
    drain_of_more (next_of_lost rfl rfl)
  have hs : ((fresh limit?).feed bs).Sound := sound_fresh limit?
  rw [drain_of_reading hs (next_oversized hl h) (by simp [Reading.oversized, Reading.malformed]), hlost]

lemma drain_fresh_of_notMem {bs : Bytes} (h : (13 : UInt8) ∉ bs) :
    ((fresh limit?).feed bs).drain.1.filterMap Reading.fields? = [] := by
  have hc : cutAround separator bs = none := by
    rw [← List.append_nil bs, cutAround_append_of_notMem h]
    rfl
  rcases Nat.lt_or_ge headerLimit bs.length with hl | hl
  · rw [drain_oversized hl hc]
    rfl
  · rw [drain_of_next_more (next_of_short hc hl)]
    rfl

lemma drain_of_header {start rest : Bytes} (h : (13 : UInt8) ∉ start) {problem : HeaderProblem}
    (hs : parseHeader start = .error problem) :
    ((fresh limit?).feed (start ++ (separator ++ rest))).drain.1 =
      .malformed problem.reason start :: (feed { limit?, lost := true } rest).drain.1 := by
  have hn : ((fresh limit?).feed (start ++ (separator ++ rest))).next =
      (.malformed problem.reason start, feed { limit?, lost := true } rest) := by
    rw [next_feed_fresh, takeFrame]
    simp only [cutAround_separator h, hs]
    rfl
  have hsound : ((fresh limit?).feed (start ++ (separator ++ rest))).Sound := sound_fresh limit?
  rw [drain_of_reading hsound hn (by simp [Reading.malformed])]

lemma filterMap_fields? (messages : List Fields) :
    (messages.map Reading.message).filterMap Reading.fields? = messages := by
  rw [List.filterMap_map]
  exact List.filterMap_some

/-- A body in which a length field seems to begin takes the header behind it along. -/
lemma drain_lost_found {message next : Fields} (h : (Json.object message).isPlain) {found : Bytes}
    (hfound : fromMark? (body message) = some found) (bs : Bytes) :
    (feed { limit?, lost := true } (body message ++ (frame (body next) ++ bs))).drain.1.filterMap
        Reading.fields? =
      (feed { limit?, lost := true } (body next ++ bs)).drain.1.filterMap Reading.fields? := by
  obtain ⟨start, rfl, hcolon⟩ := exists_found hfound
  set line := lengthStart ++ Utf8.encodeLossless (lengthText (body next).length) with hline
  have hr : (13 : UInt8) ∉ start ++ ([125] ++ line) := by
    rw [← List.append_assoc, List.mem_append, not_or]
    exact ⟨fun hm => notMem_body h ((marked_of_fromMark? hfound).2.subset hm), notMem_lengthLine _⟩
  obtain ⟨problem, hproblem⟩ := parseHeader_of_brace hcolon (by simp) hr
  have hbytes : start ++ [125] ++ (frame (body next) ++ bs) =
      start ++ ([125] ++ line) ++ (separator ++ (body next ++ bs)) := by
    rw [frame, header_eq]
    simp only [hline, List.append_assoc]
  rw [drain_lost_of_some (fromMark?_append _ hfound), hbytes, drain_of_header hr hproblem]
  rfl

lemma drain_lost {message : Fields} {messages : List Fields}
    (h : ∀ m ∈ message :: messages, Sendable limit? m) :
    (feed { limit?, lost := true } (body message ++ bytes (messageParts messages))).drain.1.filterMap
      Reading.fields? = afterLoss (message :: messages) := by
  -- A body with a mark hands the loss on to the next message, so that each message may be the first one.
  induction messages generalizing message with
  | nil =>
    rw [List.forall_mem_singleton] at h
    cases hf : fromMark? (body message) with
    | none => rw [drain_lost_messages (List.forall_mem_nil _) hf, filterMap_fields?, afterLoss_of_none hf]
    | some found =>
      have hr : (13 : UInt8) ∉ found :=
        fun hm => notMem_body h.plain ((marked_of_fromMark? hf).2.subset hm)
      rw [bytes_messageParts_nil, List.append_nil, drain_lost_of_some hf, drain_fresh_of_notMem hr,
        afterLoss_of_some hf]
      rfl
  | cons next messages ih =>
    rw [List.forall_mem_cons] at h
    cases hf : fromMark? (body message) with
    | none => rw [drain_lost_messages h.2 hf, filterMap_fields?, afterLoss_of_none hf]
    | some found =>
      rw [bytes_messageParts_cons, drain_lost_found h.1.plain hf, ih h.2, afterLoss_of_some hf]

end Reader

/-! What is dropped -/

lemma not_infix_append {junk start : Bytes} (h : ¬ separator <:+: junk) (hs : (10 : UInt8) ∉ start) :
    ¬ separator <:+: junk ++ start := by
  induction start using List.reverseRecOn with
  | nil => rwa [List.append_nil]
  | append_singleton start b ih =>
    rw [List.mem_append, not_or, List.mem_singleton] at hs
    rw [← List.append_assoc, List.infix_concat_iff, not_or]
    refine ⟨fun hsuffix => ?_, ih hs.1⟩
    obtain ⟨before, hbefore⟩ := hsuffix
    have hlast := congrArg List.getLast? hbefore
    rw [List.getLast?_append_of_ne_nil _ (by decide), List.getLast?_concat] at hlast
    exact hs.2 (Option.some.inj hlast)

lemma lowerByte_ne {b : UInt8} (h : b.toNat < 0x40) : lowerByte b ≠ 99 := by
  have hb : ¬ (0x41 ≤ b && b ≤ 0x5A) := by
    rw [Bool.and_eq_true, decide_eq_true_eq, decide_eq_true_eq, UInt8.le_iff_toNat_le, not_and]
    simp only [UInt8.reduceToNat]
    omega
  rw [lowerByte, if_neg hb]
  rintro rfl
  exact absurd h (by decide)

lemma forall_lowerByte_ne {start line : Bytes} (hs : start ≠ []) (h : start ++ line = lengthStart) (n : Nat) :
    ∀ b ∈ line ++ (Utf8.encodeLossless (lengthText n) ++ separator), lowerByte b ≠ 99 := by
  have hline : ∀ b ∈ line, lowerByte b ≠ 99 := by
    -- Of the letters a length field begins with, its name has the first one alone.
    have htail : ∀ b ∈ lengthStart.tail, lowerByte b ≠ 99 := by decide +kernel
    rw [← h, List.tail_append_of_ne_nil hs] at htail
    exact (List.forall_mem_append.mp htail).2
  have htext : ∀ b ∈ Utf8.encodeLossless (lengthText n), lowerByte b ≠ 99 := by
    intro b hb
    obtain ⟨c, hc, he⟩ := lt_of_mem_encodeLossless isAscii_lengthText hb
    exact lowerByte_ne (he ▸ (val_of_mem_lengthText hc).2)
  exact List.forall_mem_append.mpr ⟨hline, List.forall_mem_append.mpr ⟨htext, by decide +kernel⟩⟩

namespace Reader

lemma receive_junk {junk start : Bytes} (hlong : headerLimit < junk.length) (hjunk : ¬ separator <:+: junk)
    (hs : (10 : UInt8) ∉ start) (rest : Bytes) :
    ((fresh limit?).receive [junk ++ start, rest]).1 =
      [[.oversized (junk ++ start)], (feed { limit?, lost := true } rest).drain.1] := by
  have hlong' : headerLimit < (junk ++ start).length := by
    rw [List.length_append]
    exact Nat.lt_add_right _ hlong
  have hdrop : ((fresh limit?).feed (junk ++ start)).drain = _ :=
    drain_oversized hlong' ((cutAround_eq_none_iff _ _).mpr (not_infix_append hjunk hs))
  simp only [receive, hdrop]

/-- When a header is given up for its size, the messages behind it are all read only if no length field had
begun by then. If one had, its message is not read, and the next ones are read from the first body on in which
no length field seems to begin. -/
theorem receive_oversized (limit? : Option Nat) (messages : List Fields) (hn : messages ≠ [])
    (h : ∀ message ∈ messages, Sendable limit? message) :
    ∃ frames, messages.mapM (fun message => encode (.object message)) = .ok frames ∧
      ∀ junk start rest : Bytes, headerLimit < junk.length → ¬ separator <:+: junk →
        start <+: lengthStart → start ++ rest = frames.flatten →
        ∃ later, ((fresh limit?).receive [junk ++ start, rest]).1 = [[.oversized (junk ++ start)], later] ∧
          (start = [] → later = messages.map .message) ∧
          (start ≠ [] → later.filterMap Reading.fields? = afterLoss messages) ∧
          (later = messages.map .message ↔ start = []) := by
  refine ⟨_, encode_messages h, fun junk start rest hlong hjunk hp hbytes => ?_⟩
  rw [← bytes_messageParts] at hbytes
  obtain ⟨line, hline⟩ := hp
  have hfeed : (10 : UInt8) ∉ start := fun hm =>
    absurd (hline ▸ List.mem_append_left line hm) (by decide : (10 : UInt8) ∉ lengthStart)
  have hwhole : start = [] → (feed { limit?, lost := true } rest).drain.1 = messages.map .message := by
    rintro rfl
    rw [List.nil_append] at hbytes
    have hnone : fromMark? [] = none := rfl
    rw [hbytes]
    exact drain_lost_messages h hnone
  have hcut : start ≠ [] →
      (feed { limit?, lost := true } rest).drain.1.filterMap Reading.fields? = afterLoss messages := by
    intro hs
    obtain ⟨message, messages, rfl⟩ := List.exists_cons_of_ne_nil hn
    rw [bytes_messageParts_cons, frame, header_eq, ← hline] at hbytes
    have hrest : rest = line ++ (Utf8.encodeLossless (lengthText (body message).length) ++ separator) ++
        (body message ++ bytes (messageParts messages)) := by
      simpa only [List.append_assoc, List.append_cancel_left_eq] using hbytes
    rw [hrest, drain_lost_append (forall_lowerByte_ne hs hline _), drain_lost h]
  refine ⟨_, receive_junk hlong hjunk hfeed rest, hwhole, hcut, fun hall => ?_, hwhole⟩
  by_contra hs
  have hlost := hcut hs
  rw [hall, filterMap_fields?] at hlost
  exact (length_afterLoss_lt hn).ne (congrArg List.length hlost).symm

lemma not_infix_replicate {b : UInt8} {pattern : Bytes} (h : ∃ d ∈ pattern, d ≠ b) (n : Nat) :
    ¬ pattern <:+: List.replicate n b := by
  obtain ⟨d, hd, hne⟩ := h
  exact fun hi => hne (List.eq_of_mem_replicate (hi.subset hd))

theorem receive_oversized_cut :
    let junk : Bytes := List.replicate 4097 120
    let start := Utf8.encodeLossless "Content-"
    let messages : List Fields := [[("text", .text "Content-Length: 1")], [], [("id", .int 1)]]
    (∀ message ∈ messages, Sendable none message) ∧
      ∃ frames, messages.mapM (fun message => encode (.object message)) = .ok frames ∧
        ∃ rest later, start ++ rest = frames.flatten ∧
          ((fresh none).receive [junk ++ start, rest]).1 = [[.oversized (junk ++ start)], later] ∧
          later.filterMap Reading.fields? = messages.drop 2 := by
  intro junk start messages
  have h : ∀ message ∈ messages, Sendable none message := by
    simp only [messages, List.forall_mem_cons]
    exact ⟨⟨by decide, rfl, lt_bodyLimit (by decide)⟩, ⟨by decide, rfl, lt_bodyLimit (by decide)⟩,
      ⟨by decide, rfl, lt_bodyLimit (by decide)⟩, List.forall_mem_nil _⟩
  obtain ⟨frames, hw, hr⟩ := receive_oversized none messages (List.cons_ne_nil _ _) h
  refine ⟨h, frames, hw, frames.flatten.drop 8, ?_⟩
  rw [encode_messages h] at hw
  obtain rfl := Except.ok.inj hw
  have hstart : start = (List.map (fun message => frame (body message)) messages).flatten.take 8 := by decide
  have hbytes := List.take_append_drop 8 (messages.map fun message => frame (body message)).flatten
  rw [← hstart] at hbytes
  have hlong : headerLimit < junk.length := by
    rw [List.length_replicate]
    decide
  have hjunk : ¬ separator <:+: junk := not_infix_replicate ⟨13, by decide⟩ 4097
  obtain ⟨later, hlater, -, hlost, -⟩ := hr junk start _ hlong hjunk (by decide) hbytes
  exact ⟨later, hbytes, hlater, hlost (by decide)⟩

theorem lost_of_oversized_cut :
    let junk : Bytes := List.replicate 4097 120
    let start := Utf8.encodeLossless "Content-"
    let rest := Utf8.encodeLossless "Length: 2\r\n\r\n\x7b\x7d"
    let reader := fresh (some Json.Progress.depthLimit)
    4096 < junk.length ∧ ¬ separator <:+: junk ∧ ¬ lengthMark <:+: junk.map lowerByte ∧
      start <+: lengthStart ∧ start ≠ lengthStart ∧ encode (.object []) = .ok (start ++ rest) ∧
      (reader.receive [junk ++ start, rest]).1 ≠ [[.oversized (junk ++ start)], [.message []]] := by
  intro junk start rest reader
  have hlong : 4096 < junk.length := by
    rw [List.length_replicate]
    decide
  have hjunk : ¬ separator <:+: junk := not_infix_replicate ⟨13, by decide⟩ 4097
  have hmark : ¬ lengthMark <:+: junk.map lowerByte := by
    rw [List.map_replicate]
    exact not_infix_replicate ⟨58, by decide⟩ 4097
  have hnone : fromMark? rest = none := by decide
  refine ⟨hlong, hjunk, hmark, by decide, by decide, rfl, ?_⟩
  rw [receive_junk hlong hjunk (by decide), drain_lost_of_none hnone]
  exact fun he => List.cons_ne_nil _ _ (List.cons.inj (List.cons.inj he).2).1.symm

end Reader

end LanguageClient.Frame
