import LanguageClient.Proofs.Pipes.Steps

/-!
One thing after the other. What is done at a link while the others wait, and the pumps until they come to
rest, is one of the courses that the steps may take.
-/

namespace LanguageClient

/-! A process only adds to what it wrote -/

namespace Process

variable {p q : Process}

lemma output_prefix_emit (p : Process) (w : Job.Written) : p.output <+: (p.emit w).output :=
  List.prefix_append _ _

lemma output_prefix_exit (p : Process) (code : Json) : p.output <+: (p.exit code).output :=
  List.prefix_append _ _

lemma output_prefix_advance (p : Process) : p.output <+: p.advance.output := by
  unfold advance
  split
  next => exact List.prefix_rfl
  next =>
    split
    next => exact List.prefix_rfl
    next =>
      dsimp only
      split
      next code _ => exact (output_prefix_emit _ _).trans (output_prefix_exit _ (.int code))
      next => exact output_prefix_emit _ _

lemma output_prefix_updateJob (p : Process) (f : Job → Job) : p.output <+: (p.updateJob f).output := by
  unfold updateJob
  split
  next j _ => exact output_prefix_advance { p with program := .job (f j) }
  next => exact List.prefix_rfl

lemma output_prefix_of_outlast {fuel : Nat} {left : Option Float} (h : p.outlast fuel left = some q) :
    p.output <+: q.output := by
  induction fuel generalizing p left with
  | zero => cases h
  | succ fuel ih =>
    rw [outlast] at h
    split at h
    next => exact Option.some.inj h ▸ List.prefix_rfl
    next =>
      have hwake : p.output <+: p.wake.output := output_prefix_updateJob _ _
      split at h
      next => cases h
      next =>
        split at h
        next => exact hwake.trans (ih h)
        next =>
          split at h
          next => cases h
          next => exact hwake.trans (ih h)

lemma output_prefix_of_wait {timeout : Option Float} (h : p.wait timeout = some q) :
    p.output <+: q.output := by
  unfold wait at h
  split at h
  next =>
    split at h
    next => cases h
    next =>
      split at h
      next => exact Option.some.inj h ▸ List.prefix_rfl
      next => exact Option.some.inj h ▸ output_prefix_exit _ _
  next => exact output_prefix_of_outlast h

lemma output_prefix_kill (p : Process) : p.output <+: p.kill.output := by
  unfold kill
  split
  next => exact List.prefix_rfl
  next =>
    split
    next => exact List.prefix_rfl
    next => exact output_prefix_exit _ _

end Process

namespace Pipes

variable {p q : Pipes} {es : List Event}

lemma output_prefix_offer (process : Process) (data : Bytes) :
    process.output <+: (offer process data).1.output := by
  unfold offer
  split
  next =>
    split
    next => exact List.prefix_rfl
    next => exact Process.output_prefix_updateJob _ _
  next => split <;> exact List.prefix_rfl

lemma output_prefix_of_writeStep? (h : p.writeStep? = some (q, es)) :
    p.process.output <+: q.process.output := by
  unfold writeStep? at h
  split at h
  next => cases h
  next =>
    split at h
    next => cases h
    next =>
      cases h
      exact List.prefix_rfl
    next data rest _ =>
      have hoffer := output_prefix_offer p.process data
      split at h <;> rename_i he <;> rw [he] at hoffer <;> cases h <;> exact hoffer

/-! Courses -/

/-- Steps from one moment to another. -/
abbrev Course (m n : Moment) : Prop := Relation.ReflTransGen (fun m n => ∃ answer, Step m answer n) m n

lemma Step.course {m n : Moment} {answer : Option (Checked Answer)} (h : Step m answer n) : Course m n :=
  .single ⟨answer, h⟩

lemma Reached.course {m n : Moment} (hm : Reached m) (h : Course m n) : Reached n := by
  induction h with
  | refl => exact hm
  | tail _ hs ih => exact hs.elim fun _ hs => ih.step hs

/-- From where a link is such, in whatever the client is, the others lead it to be so. -/
def Leads (p q : Pipes) (es : List Event) : Prop :=
  ∃ more, ∀ m : Moment, m.link = p →
    Course m { m with link := q, said := m.said ++ more, events := m.events ++ es }

namespace Leads

lemma refl (p : Pipes) : Leads p p [] := ⟨[], fun m hm => by
  subst hm
  simpa using Relation.ReflTransGen.refl⟩

lemma trans {r : Pipes} {es' : List Event} (h : Leads p q es) (g : Leads q r es') :
    Leads p r (es ++ es') := by
  obtain ⟨more, h⟩ := h
  obtain ⟨more', g⟩ := g
  refine ⟨more ++ more', fun m hm => (h m hm).trans ?_⟩
  simpa using g { m with link := q, said := m.said ++ more, events := m.events ++ es } rfl

lemma acted {process : Process} (h : p.process.output <+: process.output) :
    Leads p { p with process } [] := by
  obtain ⟨more, hmore⟩ := h
  refine ⟨more, fun m hm => ?_⟩
  subst hm
  simpa using (Step.acted hmore.symm).course

lemma noted {event : Event} (h : event.data? = none) : Leads p p [event] := ⟨[], fun m hm => by
  subst hm
  simpa using (Step.noted h).course⟩

lemma wrote (h : p.writeStep? = some (q, es)) : Leads p q es := by
  obtain ⟨more, hmore⟩ := output_prefix_of_writeStep? h
  refine ⟨more, fun m hm => ?_⟩
  subst hm
  exact (Step.wrote h hmore.symm).course

lemma read (h : p.readStep? = some (q, es)) : Leads p q es := ⟨[], fun m hm => by
  subst hm
  simpa using (Step.read h).course⟩

lemma heard (h : p.listenStep? = some (q, es)) : Leads p q es := ⟨[], fun m hm => by
  subst hm
  simpa using (Step.heard h).course⟩

lemma pumpUpTo {step? : Pipes → Option (Pipes × List Event)}
    (hstep : ∀ p q es, step? p = some (q, es) → Leads p q es) (fuel : Nat) (p : Pipes) :
    Leads p (pumpUpTo step? fuel p).1 (Pipes.pumpUpTo step? fuel p).2 := by
  induction fuel generalizing p with
  | zero => exact refl p
  | succ fuel ih =>
    rw [Pipes.pumpUpTo]
    split
    next => exact refl p
    next q es hq => exact (hstep p q es hq).trans (ih q)

lemma settleWriter (p : Pipes) : Leads p p.settleWriter.1 p.settleWriter.2 :=
  pumpUpTo (fun _ _ _ => wrote) _ p

lemma settle (p : Pipes) : Leads p p.settle.1 p.settle.2 :=
  ((settleWriter p).trans (pumpUpTo (fun _ _ _ => read) _ _)).trans (pumpUpTo (fun _ _ _ => heard) _ _)

lemma passTime (isDone : Pipes → Bool) (fuel : Nat) (p : Pipes) :
    Leads p (passTime isDone fuel p).1 (Pipes.passTime isDone fuel p).2 := by
  induction fuel generalizing p with
  | zero => exact refl p
  | succ fuel ih =>
    rw [Pipes.passTime]
    split
    next => exact refl p
    next =>
      have hwake : Leads p (p.updateProcess Process.wake) [] := acted (Process.output_prefix_updateJob _ _)
      exact (hwake.trans (settle _)).trans (ih _)

lemma awaitEnd (p : Pipes) (timeout : Json) (limit : Option Float) :
    Leads p (p.awaitEnd timeout limit).1 (p.awaitEnd timeout limit).2 := by
  rw [Pipes.awaitEnd]
  split
  next process hwait => exact (acted (Process.output_prefix_of_wait hwait)).trans (noted rfl)
  next =>
    have hkill := Process.output_prefix_kill p.process
    have hended : p.process.output <+: ((p.process.kill.wait none).getD p.process.kill).output := by
      cases hwait : p.process.kill.wait none with
      | none => exact hkill
      | some process => exact hkill.trans (Process.output_prefix_of_wait hwait)
    have hawaited : ∀ timeout : Json, Leads p p [.awaited timeout] := fun _ => noted rfl
    have hinfo : Leads p p [info ("Terminate timeout expired; Will explicitly kill server " ++ p.name)] :=
      noted rfl
    have hkilled : Leads p p [.killed] := noted rfl
    have hnoted := (((hawaited timeout).trans hinfo).trans hkilled).trans (hawaited .null)
    exact hnoted.trans (acted hended)

end Leads

/-! The client -/

/-- Steps in the course of which the client gets an answer, or none. -/
def Yields (answer : Option (Checked Answer)) (m n : Moment) : Prop :=
  ∃ m' n', Course m m' ∧ Step m' answer n' ∧ Course n' n

lemma Step.yields {answer : Option (Checked Answer)} {m n : Moment} (h : Step m answer n) :
    Yields answer m n :=
  ⟨m, n, .refl, h, .refl⟩

lemma Course.yields {answer : Option (Checked Answer)} {m n k : Moment} (h : Course m n)
    (g : Yields answer n k) : Yields answer m k := by
  obtain ⟨m', n', hm, hs, hn⟩ := g
  exact ⟨m', n', h.trans hm, hs, hn⟩

/-- An idle client does something at a link which is so afterwards. -/
def Performs (p : Pipes) (answer : Option (Checked Answer)) (q : Pipes) (accepted : List Bytes)
    (taken : Bytes) (es : List Event) : Prop :=
  ∃ more, ∀ m : Moment, m.link = p → m.stage = .idle → Yields answer m { m with
    link := q, said := m.said ++ more, accepted := m.accepted ++ accepted
    taken := m.taken ++ taken, events := m.events ++ es }

section

variable {r : Pipes} {answer : Option (Checked Answer)} {accepted : List Bytes} {taken : Bytes}
  {es' : List Event}

lemma Leads.performs (h : Leads p q es) : Performs p none q [] [] es := by
  obtain ⟨more, h⟩ := h
  refine ⟨more, fun m hm _ => ⟨m, m, .refl, ?_, ?_⟩⟩
  · simpa using Step.acted (m := m) (List.append_nil _).symm
  · simpa using h m hm

lemma Leads.performs_trans (h : Leads p q es) (g : Performs q answer r accepted taken es') :
    Performs p answer r accepted taken (es ++ es') := by
  obtain ⟨more, h⟩ := h
  obtain ⟨more', g⟩ := g
  refine ⟨more ++ more', fun m hm hs => Course.yields (h m hm) ?_⟩
  simpa using g { m with link := q, said := m.said ++ more, events := m.events ++ es } rfl hs

lemma Performs.trans_leads (h : Performs p answer q accepted taken es) (g : Leads q r es') :
    Performs p answer r accepted taken (es ++ es') := by
  obtain ⟨more, h⟩ := h
  obtain ⟨more', g⟩ := g
  refine ⟨more ++ more', fun m hm hs => ?_⟩
  obtain ⟨m', n', hm', hs', hn'⟩ := h m hm hs
  refine ⟨m', n', hm', hs', hn'.trans ?_⟩
  simpa using g { m with link := q, said := m.said ++ more, accepted := m.accepted ++ accepted
                         taken := m.taken ++ taken, events := m.events ++ es } rfl

lemma performs_of_step (h : ∀ m : Moment, m.link = p → m.stage = .idle → Step m answer m) :
    Performs p answer p [] [] [] := ⟨[], fun m hm hs => by
  subst hm
  simpa using (h m rfl hs).yields⟩

end

lemma performs_write {data : Bytes} (hb : p.broken = false) (hc : p.closed = false) :
    Performs p (some (.ok .nothing)) { p with outgoing := p.outgoing ++ [some data] } [data] [] [] :=
  ⟨[], fun m hm hs => by
    subst hm
    refine Course.yields (Step.looked data hs hb hc).course ?_
    simpa [hs] using (Step.queued (m := { m with stage := .writing data }) rfl).yields⟩

lemma course_taking {pieces incoming : List Bytes} {m : Moment} (hs : m.stage = .taking pieces)
    (hi : m.link.incoming = incoming) :
    Course m { m with link := { m.link with incoming := [] }, stage := .taking (pieces ++ incoming) } := by
  induction incoming generalizing m pieces with
  | nil =>
    rw [List.append_nil, ← hs, ← hi]
  | cons piece rest ih =>
    refine (Step.took hs hi).course.trans ?_
    simpa using ih (m := { m with link := { m.link with incoming := rest }, stage := .taking (pieces ++ [piece]) })
      rfl rfl

lemma performs_takeIncoming (p : Pipes) :
    Performs p (some (.ok (.data p.takeIncoming.1))) p.takeIncoming.2 [] p.incoming.flatten [] :=
  ⟨[], fun m hm hs => by
    subst hm
    refine Course.yields ((Step.began hs).course.trans (course_taking rfl rfl)) ?_
    simpa [hs, takeIncoming] using (Step.handed (m := { m with
      link := { m.link with incoming := [] }, stage := .taking m.link.incoming }) rfl rfl).yields⟩

lemma performs_takeComplaints (p : Pipes) :
    Performs p (some (.ok (.lines p.takeComplaints.1))) p.takeComplaints.2 [] [] [] :=
  ⟨[], fun m hm hs => by
    subst hm
    simpa [takeComplaints] using (Step.tookComplaints hs).yields⟩

lemma performs_isAlive (p : Pipes) : Performs p (some (.ok (.flag p.isAlive))) p [] [] [] :=
  ⟨[], fun m hm hs => by
    subst hm
    cases hb : m.link.broken with
    | true => simpa [isAlive, hb] using (Step.dead hs (.inl hb)).yields
    | false =>
      cases hc : m.link.closed with
      | true => simpa [isAlive, hb, hc] using (Step.dead hs (.inr hc)).yields
      | false =>
        refine Course.yields (Step.asked hs hb hc).course ?_
        cases he : m.link.ended with
        | false =>
          simpa [isAlive, hb, hc, he, ← hs] using (Step.unended (m := { m with stage := .asking }) rfl he).yields
        | true =>
          refine Course.yields (Step.askedOn (m := { m with stage := .asking }) rfl he).course ?_
          cases hi : m.link.incoming with
          | nil =>
            simpa [isAlive, hb, hc, he, hi, ← hs] using
              (Step.spent (m := { m with stage := .askingOn }) rfl hi).yields
          | cons piece rest =>
            have hne : m.link.incoming ≠ [] := by simp [hi]
            simpa [isAlive, hb, hc, he, hi, ← hs] using
              (Step.unspent (m := { m with stage := .askingOn }) rfl hne).yields⟩

/-- The link is closed, and the writer comes to rest. -/
lemma exists_course_joining (hc : p.closed = false) : ∃ more, ∀ m : Moment, m.link = p → m.stage = .idle →
    Course m { m with
      link := p.refuse.settleWriter.1, stage := .joining, said := m.said ++ more
      events := m.events ++ p.refuse.settleWriter.2 } := by
  obtain ⟨more, hwriter⟩ := Leads.settleWriter p.refuse
  refine ⟨more, fun m hm hs => ?_⟩
  subst hm
  have hmarked := Step.marked (m := { m with link := { m.link with closed := true }, stage := .closing }) rfl
  exact ((Step.closed hs hc).course.trans hmarked.course).trans
    (hwriter { m with link := m.link.refuse, stage := .joining } rfl)

lemma exists_course_ending (p : Pipes) : ∃ more, ∀ m : Moment, m.link = p → m.stage = .joining →
    Course m { m with
      link := p.closeInput.1, stage := .ending (!p.writing), said := m.said ++ more
      events := m.events ++ p.closeInput.2 } := by
  obtain ⟨more, hmore⟩ : p.process.output <+: p.process.endInput.output := Process.output_prefix_updateJob _ _
  refine ⟨more, fun m hm hs => ?_⟩
  subst hm
  have hparted := Step.parted (m := { m with stage := .joined (!m.link.writing) }) rfl hmore.symm
  exact (Step.joined hs).course.trans hparted.course

lemma performs_close (timeout : Json) : Performs p (some ((p.close timeout).1.map .value))
    (p.close timeout).2.1 [] [] (p.close timeout).2.2 := by
  cases hc : p.closed with
  | true =>
    have hclose : p.close timeout = (.ok p.process.poll, p, []) := by rw [close, if_pos hc]
    rw [hclose]
    exact performs_of_step fun m hm hs => hm ▸ Step.polled hs
  | false =>
    obtain ⟨more, hjoining⟩ := exists_course_joining hc
    cases hp : p.patience timeout with
    | error f =>
      have hclose : p.close timeout = (.error f, p.refuse.settleWriter) := by simp [close, hc, hp]
      rw [hclose]
      refine ⟨more, fun m hm hs => Course.yields (hjoining m hm hs) ?_⟩
      simpa [hs, Except.map] using (Step.failed (m := { m with
        link := p.refuse.settleWriter.1, stage := .joining, said := m.said ++ more
        events := m.events ++ p.refuse.settleWriter.2 }) (f := f) rfl).yields
    | ok limit =>
      obtain ⟨more', hending⟩ := exists_course_ending p.refuse.settleWriter.1
      let q := p.refuse.settleWriter.1.closeInput.1
      let r := (q.awaitEnd timeout limit).1
      let waits := debug .client ("Waiting for server " ++ r.name ++ " to terminate...")
      let ends := info (r.name ++ " server terminated with returncode " ++ r.process.poll.display)
      have hclose : p.close timeout = (.ok r.process.poll, r,
          p.refuse.settleWriter.2 ++ p.refuse.settleWriter.1.closeInput.2 ++
            waits :: (q.awaitEnd timeout limit).2 ++ [ends]) := by
        simp [close, hc, hp, q, r, waits, ends]
      have hwaits : Leads q q [waits] := .noted rfl
      have hends : Leads r r [ends] := .noted rfl
      obtain ⟨more'', hended⟩ := (hwaits.trans (.awaitEnd q timeout limit)).trans hends
      rw [hclose]
      refine ⟨more ++ more' ++ more'', fun m hm hs => ?_⟩
      have hjoined := hjoining m hm hs
      have hparted := hending { m with
        link := p.refuse.settleWriter.1, stage := .joining, said := m.said ++ more
        events := m.events ++ p.refuse.settleWriter.2 } rfl rfl
      refine Course.yields ((hjoined.trans hparted).trans (hended _ rfl)) ?_
      simpa [hs, Except.map] using (Step.returned rfl).yields

/-! Actions -/

/-- Whether it is the client that acts, and is answered. -/
def Action.isClient : Action → Bool
  | .writes _ | .complains _ | .inputFails _ _ | .exits | .fails _ => false
  | _ => true

/-- The data that an action has accepted. -/
def Action.accepted : Action → Checked Answer → List Bytes
  | .write data, .ok _ => [data]
  | _, _ => []

/-- What an answer hands over. -/
def handed : Checked Answer → Bytes
  | .ok (.data (some bytes)) => bytes
  | _ => []

lemma handed_takeIncoming (p : Pipes) : handed (.ok (.data p.takeIncoming.1)) = p.incoming.flatten := by
  cases hi : p.incoming <;> simp [takeIncoming, handed, hi]

lemma performs_dataAnswer (p : Pipes) :
    Performs p (some p.dataAnswer.1) p.dataAnswer.2 [] (handed p.dataAnswer.1) [] := by
  have h := performs_takeIncoming p
  rw [← handed_takeIncoming] at h
  exact h

lemma performs_perform (p : Pipes) (a : Action) :
    Performs p (if a.isClient then some (p.perform a).1 else none) (p.perform a).2.1
      (a.accepted (p.perform a).1) (handed (p.perform a).1) (p.perform a).2.2 := by
  cases a with
  | writes chunk =>
    have h : Leads p (p.updateProcess fun q => { q with output := q.output ++ [chunk] }) [] :=
      .acted (List.prefix_append _ _)
    exact h.performs
  | complains chunk =>
    have h : Leads p (p.updateProcess fun q => { q with complaints := q.complaints ++ [chunk] }) [] :=
      .acted List.prefix_rfl
    exact h.performs
  | inputFails part message =>
    have h : Leads p (p.updateProcess fun q => { q with inputFaults := (part, message) :: q.inputFaults }) [] :=
      .acted List.prefix_rfl
    exact h.performs
  | exits =>
    have h : Leads p (p.updateProcess fun q => q.exit (exitCode q)) [] :=
      .acted (Process.output_prefix_exit _ _)
    exact h.performs
  | fails f => exact (Leads.refl p).performs
  | write data =>
    by_cases hshut : p.broken || p.closed
    · have hw : p.write data = .error (.failure (.write (p.name ++ " - Can't write; Transport is closed"))) := by
        rw [write, if_pos hshut]
      simp only [perform, hw]
      exact performs_of_step fun m hm hs => .refused hs (by simpa [hm] using hshut)
    · have hw : p.write data = .ok { p with outgoing := p.outgoing ++ [some data] } := by
        rw [write, if_neg hshut]
      simp only [Bool.or_eq_true, not_or, Bool.not_eq_true] at hshut
      simp only [perform, hw]
      exact performs_write hshut.1 hshut.2
  | takeIncoming => exact performs_dataAnswer p
  | takeComplaints => exact performs_takeComplaints p
  | isAlive => exact performs_isAlive p
  | poll => exact performs_of_step fun m hm hs => hm ▸ Step.polled hs
  | id => exact performs_of_step fun m hm hs => hm ▸ Step.named hs
  | close timeout =>
    have h := performs_close (p := p) timeout
    cases hclose : (p.close timeout).1 with
    | ok code => simpa [perform, hclose, Action.isClient, Action.accepted, handed, Except.map] using h
    | error f => simpa [perform, hclose, Action.isClient, Action.accepted, handed, Except.map] using h
  | awaitIncoming count =>
    have h := (Leads.passTime (fun p => count ≤ p.received) Job.mostNaps p).performs_trans
      (performs_dataAnswer _)
    rw [List.append_nil] at h
    exact h
  | awaitComplaints count =>
    have h := (Leads.passTime (fun p => count ≤ p.complaints.length) Job.mostNaps p).performs_trans
      (performs_takeComplaints _)
    rw [List.append_nil] at h
    exact h
  | awaitDeath =>
    have h := (Leads.passTime (fun p => !p.isAlive) Job.mostNaps p).performs_trans (performs_isAlive _)
    rw [List.append_nil] at h
    exact h

lemma performs_act (p : Pipes) (a : Action) :
    Performs p (if a.isClient then some (p.act a).1 else none) (p.act a).2.1 (a.accepted (p.act a).1)
      (handed (p.act a).1) (p.act a).2.2 :=
  (performs_perform p a).trans_leads (.settle _)

lemma Yields.course {answer : Option (Checked Answer)} {m n : Moment} (h : Yields answer m n) :
    Course m n := by
  obtain ⟨m', n', hm, hs, hn⟩ := h
  exact (hm.trans hs.course).trans hn

/-- Whatever is done at a link one after the other, from an idle client to an idle client. -/
theorem exists_course_of_outcomes (actions : List Action) {m : Moment} (hs : m.stage = .idle) :
    ∃ n, Course m n ∧ n.stage = .idle ∧
      n.link = ((outcomes m.link actions).getLast?.map (·.link)).getD m.link ∧
      n.accepted = m.accepted ++
        (List.zipWith (fun a o => a.accepted o.result) actions (outcomes m.link actions)).flatten ∧
      n.taken = m.taken ++ ((outcomes m.link actions).map fun o => handed o.result).flatten ∧
      n.events = m.events ++ ((outcomes m.link actions).map (·.events)).flatten := by
  induction actions generalizing m with
  | nil => exact ⟨m, .refl, hs, rfl, by simp [outcomes], by simp [outcomes], by simp [outcomes]⟩
  | cons a rest ih =>
    obtain ⟨more, hact⟩ := performs_act m.link a
    obtain ⟨n, hn, hidle, hlink, haccepted, htaken, hevents⟩ := ih (m := { m with
      link := (m.link.act a).2.1, said := m.said ++ more
      accepted := m.accepted ++ a.accepted (m.link.act a).1
      taken := m.taken ++ handed (m.link.act a).1, events := m.events ++ (m.link.act a).2.2 }) hs
    refine ⟨n, (hact m rfl hs).course.trans hn, hidle, hlink.trans ?_, ?_, ?_, ?_⟩
    · rw [outcomes, List.getLast?_cons]
      cases (outcomes (m.link.act a).2.1 rest).getLast? <;> rfl
    · simp [haccepted, outcomes]
    · simp [htaken, outcomes]
    · simp [hevents, outcomes]

end Pipes

end LanguageClient
