import LanguageClient.Proofs.Pipes.Courses

/-!
The order of what goes through the pipes of a process. Whatever comes in between, the client takes what the
process wrote piece by piece from the first on, and the process is given what was accepted in its order.
-/

namespace LanguageClient.Pipes

variable {p q : Pipes} {es : List Event} {m n : Moment} {answer : Option (Checked Answer)}

/-! Speech -/

@[simp] lemma given_append (es es' : List Event) : given (es ++ es') = given es ++ given es' :=
  List.filterMap_append

lemma speech_of_isPiece {read : List Chunk} (h : ∀ chunk ∈ read, chunk.isPiece) (more : List Chunk) :
    speech (read ++ more) = speech read ++ speech more := by
  induction read with
  | nil => rfl
  | cons chunk rest ih =>
    rw [List.forall_mem_cons] at h
    cases chunk with
    | data bytes =>
      have hne : bytes.isEmpty = false := by simpa [Chunk.isPiece] using h.1
      simp [speech, hne, ih h.2]
    | ends | fails => cases h.1

lemma speech_of_not_isPiece {read : List Chunk} (h : ∃ chunk ∈ read, ¬ chunk.isPiece) (more : List Chunk) :
    speech (read ++ more) = speech read := by
  induction read with
  | nil => simp at h
  | cons chunk rest ih =>
    cases chunk with
    | data bytes =>
      by_cases hempty : bytes.isEmpty
      · simp [speech, hempty]
      · have hrest : ∃ chunk ∈ rest, ¬ chunk.isPiece := by simpa [Chunk.isPiece, hempty] using h
        simp [speech, hempty, ih hrest]
    | ends | fails => rfl

/-! Pumps -/

/-- What the reader does in a step. -/
inductive Reads (p : Pipes) : Pipes → Prop where
  | piece {bytes : Bytes} {rest : List Chunk} (output : p.process.output = .data bytes :: rest)
    (nonempty : bytes ≠ []) :
    Reads p { p with process := { p.process with output := rest }, incoming := p.incoming ++ [bytes] }
  | ended {chunk : Chunk} {rest : List Chunk} (output : p.process.output = chunk :: rest)
    (last : ¬ chunk.isPiece) :
    Reads p { p with process := { p.process with output := rest }, ended := true, reading := false }

lemma reads_of_readStep? (h : p.readStep? = some (q, es)) :
    p.reading ∧ Reads p q ∧ given es = [] := by
  unfold readStep? at h
  split at h
  next => cases h
  next hreading =>
    have hreading : p.reading := by simpa using hreading
    split at h
    next => cases h
    next chunk rest hq =>
      dsimp only at h
      split at h
      next =>
        cases h
        exact ⟨hreading, .ended hq (by simp [Chunk.isPiece]), rfl⟩
      next =>
        cases h
        exact ⟨hreading, .ended hq (by simp [Chunk.isPiece]), rfl⟩
      next bytes hne =>
        cases h
        exact ⟨hreading, .piece hq hne, rfl⟩
      next message =>
        split at h <;> cases h <;> exact ⟨hreading, .ended hq (by simp [Chunk.isPiece]), rfl⟩

/-- What the writer does in a step, and the data that the process is given in it. -/
inductive Writes (p : Pipes) : Pipes → List Bytes → Prop where
  | stopped {rest : List (Option Bytes)} (outgoing : p.outgoing = none :: rest) :
    Writes p { p with outgoing := rest, writing := false } []
  | gave {data : Bytes} {rest : List (Option Bytes)} (process : Process)
    (outgoing : p.outgoing = some data :: rest) :
    Writes p { p with outgoing := rest, process } [data]
  | broke {data : Bytes} {rest : List (Option Bytes)} {written : List Bytes} (process : Process)
    (outgoing : p.outgoing = some data :: rest) (some_or_all : written = [] ∨ written = [data]) :
    Writes p { p with outgoing := rest, process, broken := true, writing := false } written

lemma given_offer {process process' : Process} {data : Bytes} {problem : Option Text}
    (h : offer process data = (process', es, problem)) :
    given es = [data] ∨ given es = [] ∧ problem ≠ none := by
  unfold offer at h
  split at h
  · split at h <;> cases h
    · exact .inr ⟨rfl, by simp⟩
    · exact .inl rfl
  · split at h <;> cases h
    · exact .inr ⟨rfl, by simp⟩
    · exact .inl rfl

lemma writes_of_writeStep? (h : p.writeStep? = some (q, es)) : p.writing ∧ Writes p q (given es) := by
  unfold writeStep? at h
  split at h
  next => cases h
  next hwriting =>
    refine ⟨by simpa using hwriting, ?_⟩
    split at h
    next => cases h
    next rest ho =>
      cases h
      exact .stopped ho
    next data rest ho =>
      split at h
      next process events hoffer =>
        cases h
        obtain hgiven | ⟨-, hne⟩ := given_offer hoffer
        · rw [hgiven]
          exact .gave process ho
        · cases hne rfl
      next process events message hoffer =>
        cases h
        have hgiven := given_offer hoffer
        refine .broke process ho ?_
        rw [given_append]
        rcases hgiven with hgiven | ⟨hgiven, -⟩
        · exact .inr (by rw [hgiven]; rfl)
        · exact .inl (by rw [hgiven]; rfl)

lemma eq_of_listenStep? (h : p.listenStep? = some (q, es)) :
    given es = [] ∧ q.process.output = p.process.output ∧ q.incoming = p.incoming ∧
      q.outgoing = p.outgoing ∧ q.ended = p.ended ∧ q.reading = p.reading ∧ q.writing = p.writing ∧
      q.broken = p.broken ∧ q.closed = p.closed := by
  unfold listenStep? at h
  split at h
  next => cases h
  next =>
    split at h
    next => cases h
    next =>
      dsimp only at h
      split at h <;> cases h <;> exact ⟨rfl, rfl, rfl, rfl, rfl, rfl, rfl, rfl, rfl⟩

namespace Moment

/-! What the process wrote -/

/-- What the reader has read was taken, or waits in the queue. Once something else than a piece was read
nothing follows. -/
structure Hears (m : Moment) : Prop where
  read : ∃ read, m.said = read ++ m.link.process.output ∧
    m.taken ++ m.stage.pieces.flatten ++ m.link.incoming.flatten = speech read ∧
    if m.link.reading then ∀ chunk ∈ read, chunk.isPiece else ∃ chunk ∈ read, ¬ chunk.isPiece
  ended : m.link.ended → m.link.reading = false
  askingOn : m.stage = .askingOn → m.link.ended

lemma hears_launched (name : Text) (process : Process) : (launched name process).Hears where
  read := ⟨[], rfl, rfl, fun _ h => (List.not_mem_nil h).elim⟩
  ended h := by cases h
  askingOn h := by cases h

/-- The same was read, and what is taken and queued is the same in all. -/
lemma Hears.aside (h : m.Hears) {more : List Chunk} (said : n.said = m.said ++ more)
    (output : n.link.process.output = m.link.process.output ++ more)
    (pieces : n.taken ++ n.stage.pieces.flatten ++ n.link.incoming.flatten =
      m.taken ++ m.stage.pieces.flatten ++ m.link.incoming.flatten)
    (reading : n.link.reading = m.link.reading) (ended : n.link.ended = m.link.ended)
    (stage : n.stage = .askingOn → m.stage = .askingOn ∨ m.link.ended) : n.Hears where
  read := by
    obtain ⟨read, hsaid, htaken, hall⟩ := h.read
    refine ⟨read, ?_, pieces.trans htaken, reading ▸ hall⟩
    rw [said, output, hsaid, List.append_assoc]
  ended he := reading ▸ h.ended (ended ▸ he)
  askingOn hs := ended ▸ (stage hs).elim h.askingOn id

lemma Hears.read_step (h : m.Hears) {link : Pipes} (events : List Event) (hr : m.link.reading)
    (reads : Reads m.link link) : Hears { m with link, events } := by
  obtain ⟨read, hsaid, htaken, hall⟩ := h.read
  rw [if_pos hr] at hall
  cases reads with
  | @piece bytes rest output nonempty =>
    refine ⟨⟨read ++ [.data bytes], ?_, ?_, ?_⟩, h.ended, h.askingOn⟩
    · rw [hsaid, output, List.append_assoc, List.singleton_append]
    · have hspeech : speech [.data bytes] = bytes := by simp [speech, nonempty]
      rw [speech_of_isPiece hall, hspeech, ← htaken]
      simp
    · rw [if_pos hr, List.forall_mem_append]
      exact ⟨hall, by simpa [Chunk.isPiece] using nonempty⟩
  | @ended chunk rest output last =>
    refine ⟨⟨read ++ [chunk], ?_, ?_, ?_⟩, fun _ => rfl, fun _ => rfl⟩
    · rw [hsaid, output, List.append_assoc, List.singleton_append]
    · have hspeech : speech [chunk] = [] := by
        cases chunk with
        | data bytes =>
          have hempty : bytes = [] := by simpa [Chunk.isPiece] using last
          rw [hempty]
          rfl
        | ends | fails => rfl
      rw [speech_of_isPiece hall, hspeech, List.append_nil, ← htaken]
    · exact ⟨chunk, List.mem_append_right _ List.mem_cons_self, last⟩

end Moment

/-- What one step does to what was heard. -/
lemma Step.hears (h : Step m answer n) (hm : m.Hears) : n.Hears := by
  cases h with
  | acted output => exact hm.aside rfl output rfl rfl rfl .inl
  | wrote step output =>
    obtain ⟨-, hw⟩ := writes_of_writeStep? step
    generalize given _ = data at hw
    cases hw <;> exact hm.aside rfl output rfl rfl rfl .inl
  | read step =>
    obtain ⟨hreading, hreads, -⟩ := reads_of_readStep? step
    exact hm.read_step _ hreading hreads
  | heard step =>
    obtain ⟨-, houtput, hincoming, -, hended, hreading, -⟩ := eq_of_listenStep? step
    refine hm.aside (List.append_nil _).symm ?_ ?_ hreading hended .inl
    · rw [houtput, List.append_nil]
    · rw [hincoming]
  | noted => exact hm.aside (List.append_nil _).symm (List.append_nil _).symm rfl rfl rfl .inl
  | refused | dead | named | polled => exact hm
  | looked data stage | queued stage | began stage | asked stage | unended stage | spent stage
  | unspent stage | closed stage | marked stage | failed stage | joined stage | returned stage =>
    refine hm.aside (List.append_nil _).symm (List.append_nil _).symm ?_ rfl rfl (fun h => by cases h)
    rw [stage]
    rfl
  | took stage incoming =>
    refine hm.aside (List.append_nil _).symm (List.append_nil _).symm ?_ rfl rfl (fun h => by cases h)
    rw [stage, incoming]
    simp [Stage.pieces]
  | handed stage incoming =>
    refine hm.aside (List.append_nil _).symm (List.append_nil _).symm ?_ rfl rfl (fun h => by cases h)
    rw [stage, incoming]
    simp [Stage.pieces]
  | tookComplaints => exact hm.aside (List.append_nil _).symm (List.append_nil _).symm rfl rfl rfl .inl
  | askedOn stage ended =>
    refine hm.aside (List.append_nil _).symm (List.append_nil _).symm ?_ rfl rfl fun _ => .inr ended
    rw [stage]
    rfl
  | parted stage output =>
    refine hm.aside rfl output ?_ rfl rfl (fun h => by cases h)
    rw [stage]
    rfl

/-! What the process is given -/

namespace Stage

def isWriting : Stage → Bool
  | writing _ => true
  | _ => false

/-- Whether the client is on its way to close the link. -/
def isClosing : Stage → Bool
  | closing | joining | joined _ | ending _ => true
  | _ => false

end Stage

namespace Moment

/-- Whether the writer was told to stop. -/
def isMarked (m : Moment) : Bool := m.link.closed && !(m.stage matches .closing)

/-- The writer has given the process what was accepted, up to what waits in its queue. If it stopped and
nothing broke, nothing was left there. -/
structure Hands (m : Moment) : Prop where
  queue : m.link.writing → ∃ rest, m.accepted = given m.events ++ rest ∧
    m.link.outgoing = rest.map some ++ if m.isMarked then [none] else []
  given : m.link.writing = false → given m.events <+: m.accepted ∧
    (m.link.broken = false → given m.events = m.accepted ∧ m.isMarked)
  writing : m.stage.isWriting → m.link.closed = false
  closing : m.stage.isClosing → m.link.closed
  joined : m.stage = .joined true → m.link.writing = false
  ending : m.stage = .ending true → m.link.writing = false ∧
    ∃ before after, m.events = before ++ .inputClosed :: after ∧
      (m.link.broken = false → Pipes.given before = m.accepted)

lemma hands_launched (name : Text) (process : Process) : (launched name process).Hands where
  queue _ := ⟨[], rfl, rfl⟩
  given h := by cases h
  writing h := by cases h
  closing h := by cases h
  joined h := by cases h
  ending h := by cases h

lemma Hands.given_isFirst (h : m.Hands) : Pipes.given m.events <+: m.accepted := by
  by_cases hw : m.link.writing
  · obtain ⟨rest, hrest, -⟩ := h.queue hw
    exact ⟨rest, hrest.symm⟩
  · exact (h.given (by simpa using hw)).1

/-- The writer does nothing, and the client goes on. -/
lemma Hands.aside (h : m.Hands) (accepted : n.accepted = m.accepted)
    (given : Pipes.given n.events = Pipes.given m.events) (suffix : m.events <+: n.events)
    (outgoing : n.link.outgoing = m.link.outgoing) (writing : n.link.writing = m.link.writing)
    (broken : n.link.broken = m.link.broken) (marked : n.isMarked = m.isMarked)
    (isWriting : n.stage.isWriting → n.link.closed = false)
    (closing : n.stage.isClosing → n.link.closed)
    (joined : n.stage = .joined true → m.stage = .joined true ∨ m.link.writing = false)
    (ending : n.stage = .ending true → m.stage = .ending true) : n.Hands where
  queue := by
    rw [accepted, given, outgoing, writing, marked]
    exact h.queue
  given := by
    rw [accepted, given, writing, broken, marked]
    exact h.given
  writing := isWriting
  closing := closing
  joined hs := writing ▸ (joined hs).elim h.joined id
  ending hs := by
    obtain ⟨hw, before, after, hevents, hall⟩ := h.ending (ending hs)
    obtain ⟨more, hmore⟩ := suffix
    refine ⟨writing ▸ hw, before, after ++ more, ?_, ?_⟩
    · rw [← hmore, hevents, List.append_assoc, List.cons_append]
    · rw [broken, accepted]
      exact hall

lemma Hands.write_step (h : m.Hands) {link : Pipes} {more : List Chunk} (hw : m.link.writing)
    (writes : Writes m.link link (Pipes.given es)) :
    Hands { m with link, said := m.said ++ more, events := m.events ++ es } := by
  obtain ⟨rest, haccepted, hqueue⟩ := h.queue hw
  have hjoined : m.stage ≠ .joined true := fun hs => by simp [h.joined hs] at hw
  have hending : m.stage ≠ .ending true := fun hs => by simp [(h.ending hs).1] at hw
  generalize hes : Pipes.given es = written at writes
  cases writes with
  | @stopped queue outgoing =>
    have hrest : rest = [] ∧ m.isMarked := by
      rw [hqueue] at outgoing
      cases rest with
      | nil => cases hm : m.isMarked <;> simp [hm] at outgoing ⊢
      | cons data rest => cases outgoing
    obtain ⟨rfl, hmarked⟩ := hrest
    have hgiven : Pipes.given (m.events ++ es) = m.accepted := by simp [hes, haccepted]
    exact {
      queue := fun hw => by cases hw
      given := fun _ => ⟨⟨[], by simp [hgiven]⟩, fun _ => ⟨hgiven, hmarked⟩⟩
      writing := h.writing
      closing := h.closing
      joined := fun hs => (hjoined hs).elim
      ending := fun hs => (hending hs).elim }
  | @gave data queue process outgoing =>
    have hrest : ∃ rest', rest = data :: rest' ∧
        queue = rest'.map some ++ if m.isMarked then [none] else [] := by
      rw [hqueue] at outgoing
      cases rest with
      | nil => cases hm : m.isMarked <;> simp [hm] at outgoing
      | cons data' rest' =>
        obtain ⟨hdata, hrest⟩ := List.cons.inj outgoing
        exact ⟨rest', by rw [Option.some.inj hdata], hrest.symm⟩
    obtain ⟨rest', rfl, hqueue'⟩ := hrest
    exact {
      queue := fun _ => ⟨rest', by simp [hes, haccepted], hqueue'⟩
      given := fun hw' => by simp [hw] at hw'
      writing := h.writing
      closing := h.closing
      joined := fun hs => (hjoined hs).elim
      ending := fun hs => (hending hs).elim }
  | @broke data queue written process outgoing some_or_all =>
    have hrest : ∃ rest', rest = data :: rest' := by
      rw [hqueue] at outgoing
      cases rest with
      | nil => cases hm : m.isMarked <;> simp [hm] at outgoing
      | cons data' rest' =>
        exact ⟨rest', by rw [Option.some.inj (List.cons.inj outgoing).1]⟩
    obtain ⟨rest', rfl⟩ := hrest
    have hfirst : Pipes.given (m.events ++ es) <+: m.accepted := by
      rw [given_append, hes, haccepted]
      rcases some_or_all with rfl | rfl
      · exact ⟨data :: rest', by simp⟩
      · exact ⟨rest', by simp⟩
    exact {
      queue := fun hw => by cases hw
      given := fun _ => ⟨hfirst, fun hb => by cases hb⟩
      writing := h.writing
      closing := h.closing
      joined := fun hs => (hjoined hs).elim
      ending := fun hs => (hending hs).elim }

end Moment

/-- What one step does to what was accepted. -/
lemma Step.hands (h : Step m answer n) (hm : m.Hands) : n.Hands := by
  cases h with
  | acted => exact hm.aside rfl rfl List.prefix_rfl rfl rfl rfl rfl hm.writing hm.closing .inl id
  | wrote step =>
    obtain ⟨hwriting, hwrites⟩ := writes_of_writeStep? step
    exact hm.write_step hwriting hwrites
  | @read link events step =>
    obtain ⟨-, hreads, hgiven⟩ := reads_of_readStep? step
    have hevents : given (m.events ++ events) = given m.events := by simp [hgiven]
    have hfirst : m.events <+: m.events ++ events := List.prefix_append _ _
    cases hreads <;> exact hm.aside rfl hevents hfirst rfl rfl rfl rfl hm.writing hm.closing .inl id
  | @heard link events step =>
    obtain ⟨hgiven, -, -, houtgoing, -, -, hwriting, hbroken, hclosed⟩ := eq_of_listenStep? step
    have hmarked : (link.closed && !(m.stage matches .closing)) = m.isMarked := by
      rw [hclosed]
      rfl
    refine hm.aside rfl (by simp [hgiven]) (List.prefix_append _ _) houtgoing hwriting hbroken hmarked
      ?_ ?_ .inl id
    · exact fun hs => hclosed ▸ hm.writing hs
    · exact fun hs => hclosed ▸ hm.closing hs
  | noted aside =>
    have hgiven : given [_] = [] := List.filterMap_cons_none aside
    exact hm.aside rfl (by simp [hgiven]) (List.prefix_append _ _) rfl rfl rfl rfl hm.writing hm.closing
      .inl id
  | refused | dead | named | polled => exact hm
  | looked data stage broken closed =>
    refine hm.aside rfl rfl List.prefix_rfl rfl rfl rfl ?_ (fun _ => closed) ?_ ?_ ?_
    · simp [Moment.isMarked, closed]
    all_goals exact fun h => by cases h
  | @queued data stage =>
    have hclosed := hm.writing (by rw [stage]; rfl)
    have hmarked : m.isMarked = false := by simp [Moment.isMarked, hclosed]
    refine ⟨fun hw => ?_, fun hw => ?_, ?_, ?_, ?_, ?_⟩
    · obtain ⟨rest, haccepted, hqueue⟩ := hm.queue hw
      refine ⟨rest ++ [data], by simp [haccepted], ?_⟩
      simp [hqueue, Moment.isMarked, hclosed]
    · obtain ⟨hfirst, hall⟩ := hm.given hw
      refine ⟨hfirst.trans (List.prefix_append _ _), fun hb => ?_⟩
      cases hmarked.symm.trans (hall hb).2
    all_goals exact fun h => by cases h
  | began stage | asked stage | unended stage | spent stage | unspent stage | returned stage
  | took stage | handed stage | askedOn stage | failed stage =>
    have hmarked : m.link.closed = m.isMarked := by simp [Moment.isMarked, stage]
    refine hm.aside rfl rfl List.prefix_rfl rfl rfl rfl ?_ ?_ ?_ ?_ ?_
    · simp [Moment.isMarked, stage]
    all_goals exact fun h => by cases h
  | tookComplaints => exact hm.aside rfl rfl List.prefix_rfl rfl rfl rfl rfl hm.writing hm.closing .inl id
  | closed stage closed =>
    refine hm.aside rfl rfl List.prefix_rfl rfl rfl rfl ?_ ?_ (fun _ => rfl) ?_ ?_
    · simp [Moment.isMarked, closed]
    all_goals exact fun h => by cases h
  | marked stage =>
    have hclosed := hm.closing (by rw [stage]; rfl)
    have hmarked : m.isMarked = false := by simp [Moment.isMarked, stage]
    refine ⟨fun hw => ?_, fun hw => ?_, ?_, fun _ => hclosed, ?_, ?_⟩
    · obtain ⟨rest, haccepted, hqueue⟩ := hm.queue hw
      refine ⟨rest, haccepted, ?_⟩
      rw [hmarked] at hqueue
      simp [hqueue, Moment.isMarked, hclosed]
    · obtain ⟨hfirst, hall⟩ := hm.given hw
      exact ⟨hfirst, fun hb => by cases hmarked.symm.trans (hall hb).2⟩
    all_goals exact fun h => by cases h
  | joined stage =>
    refine hm.aside rfl rfl List.prefix_rfl rfl rfl rfl ?_ (fun h => by cases h) (fun _ => ?_) ?_ ?_
    · simp [Moment.isMarked, stage]
    · exact hm.closing (by rw [stage]; rfl)
    · exact fun h => .inr (by simpa using h)
    · exact fun h => by cases h
  | @parted stopped more stage output =>
    have hclosed := hm.closing (by rw [stage]; rfl)
    have hgiven : given (m.events ++ [.inputClosed]) = given m.events := by simp [given, Event.data?]
    have hmarked : m.isMarked := by simp [Moment.isMarked, stage, hclosed]
    refine ⟨fun hw => ?_, fun hw => ?_, (fun h => by cases h), fun _ => hclosed, (fun h => by cases h),
      fun h => ?_⟩
    · obtain ⟨rest, haccepted, hqueue⟩ := hm.queue hw
      rw [hmarked] at hqueue
      refine ⟨rest, haccepted.trans (congrArg (· ++ rest) hgiven.symm), hqueue.trans ?_⟩
      simp [Moment.isMarked, closeInput, hclosed]
    · obtain ⟨hfirst, hall⟩ := hm.given hw
      refine ⟨hgiven.symm ▸ hfirst, fun hb => ⟨hgiven.trans (hall hb).1, ?_⟩⟩
      simp [Moment.isMarked, closeInput, hclosed]
    · obtain rfl : stopped = true := by simpa using h
      have hw := hm.joined stage
      exact ⟨hw, m.events, [], rfl, fun hb => ((hm.given hw).2 hb).1⟩

/-! Runs -/

lemma Reached.hears (h : Reached m) : m.Hears := by
  induction h with
  | launched name process => exact Moment.hears_launched name process
  | step _ hs ih => exact hs.hears ih

lemma Reached.hands (h : Reached m) : m.Hands := by
  induction h with
  | launched name process => exact Moment.hands_launched name process
  | step _ hs ih => exact hs.hands ih

namespace Moment

lemma Hears.taken_isFirst (h : m.Hears) : m.taken <+: speech m.said := by
  obtain ⟨read, hsaid, htaken, hall⟩ := h.read
  have hfirst : m.taken <+: speech read := ⟨_, (List.append_assoc _ _ _).symm.trans htaken⟩
  rw [hsaid]
  split at hall
  · exact hfirst.trans (speech_of_isPiece hall _ ▸ List.prefix_append _ _)
  · exact (speech_of_not_isPiece hall _).symm ▸ hfirst

/-- Once the reader has come to the end, all of it was read. -/
lemma Hears.eq_speech (h : m.Hears) (he : m.link.ended) :
    m.taken ++ m.stage.pieces.flatten ++ m.link.incoming.flatten = speech m.said := by
  obtain ⟨read, hsaid, htaken, hall⟩ := h.read
  rw [h.ended he] at hall
  rw [hsaid, htaken]
  exact (speech_of_not_isPiece hall _).symm

end Moment

/-- In whatever order the client, the pumps and the process take their steps: what was taken is the first of
what the process wrote, and all of it once the link is found dead, neither broken nor closed; the process is
given the first of what was accepted, and all of it before its input is closed, if the writer stopped in time
and nothing broke. -/
theorem keeps_order_of_reached (h : Reached m) :
    m.taken <+: speech m.said ∧
    (∀ n, Step m (some (.ok (.flag false))) n → n.link.broken = false → n.link.closed = false →
      n.taken = speech n.said) ∧
    (∃ k, given m.events = m.accepted.take k) ∧
    (∀ code n, m.stage = .ending true → Step m (some (.ok (.value code))) n → n.link.broken = false →
      ∃ before after, n.events = before ++ .inputClosed :: after ∧ given before = n.accepted) := by
  refine ⟨h.hears.taken_isFirst, fun n hs hb hc => ?_, ?_, fun code n hstage hs hb => ?_⟩
  · cases hs with
    | dead _ shut => simp [hb, hc] at shut
    | spent stage incoming =>
      have hall := h.hears.eq_speech (h.hears.askingOn stage)
      rw [stage, incoming] at hall
      simpa [Stage.pieces] using hall
  · exact ⟨_, List.prefix_iff_eq_take.mp h.hands.given_isFirst⟩
  · cases hs with
    | named stage | polled stage => cases hstage.symm.trans stage
    | returned =>
      obtain ⟨-, before, after, hevents, hall⟩ := h.hands.ending hstage
      exact ⟨before, after, hevents, hall hb⟩

/-- A process writes and ends, and the client takes what it wrote. -/
theorem keeps_order_of_reached_ended :
    ∃ m n, Reached m ∧ Step m (some (.ok (.flag false))) n ∧ n.link.broken = false ∧ n.link.closed = false ∧
      n.accepted = [[104]] ∧ n.taken = [105] ∧ speech n.said = [105] ∧
      ∃ k, given m.events = m.accepted.take k := by
  let process : Process := { id := .int 1, program := .standIn (.int 0) false }
  let actions : List Action := [.write [104], .writes (.data [105]), .exits, .takeIncoming]
  obtain ⟨m, hcourse, hidle, hlink, haccepted, htaken, -⟩ :=
    exists_course_of_outcomes actions (m := .launched "server" process) rfl
  have hopen : m.link.broken = false ∧ m.link.closed = false ∧ m.link.ended ∧ m.link.incoming = [] := by
    rw [hlink]
    exact ⟨rfl, rfl, rfl, rfl⟩
  obtain ⟨hbroken, hclosed, hended, hincoming⟩ := hopen
  have hasked := Step.asked hidle hbroken hclosed
  have haskedOn := Step.askedOn (m := { m with stage := .asking }) rfl hended
  have hreached : Reached { m with stage := .askingOn } :=
    (((Reached.launched "server" process).course hcourse).step hasked).step haskedOn
  have hspent := Step.spent (m := { m with stage := .askingOn }) rfl hincoming
  obtain ⟨-, hwhole, hgiven, -⟩ := keeps_order_of_reached hreached
  have htaken : m.taken = [105] := htaken
  have hsaid := hwhole _ hspent hbroken hclosed
  exact ⟨_, _, hreached, hspent, hbroken, hclosed, haccepted, htaken, hsaid.symm.trans htaken, hgiven⟩

end LanguageClient.Pipes
