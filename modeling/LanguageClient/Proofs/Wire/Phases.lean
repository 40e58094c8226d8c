import LanguageClient.Proofs.Termination
import LanguageClient.Proofs.Wire.Rounds

/-!
The phases of a tick. Whatever is read has its turn once, in the tick in which it is read: first what is no
error, in its order, and then the errors, in theirs, and only then is anything failed that is overdue.
-/

namespace LanguageClient

open Utterance (only)

variable {c : Conduct} {id : SessionId} {p q : Position}

/-! What was added -/

/-- What waited had its turn, in its order, or waits. -/
lemma Position.Accounts.since (hp : p.Accounts id) (hq : q.Accounts id) {b : Bool} {new : List Event}
    (he : q.events = new ++ p.events) (hr : reads id b new = [])
    (running : p.session.status ≠ .terminated) :
    turns id b new ++ q.session.held b <+: p.session.held b ∧
      (q.session.status ≠ .terminated → turns id b new ++ q.session.held b = p.session.held b) := by
  have hturns : turns id b q.events = turns id b p.events ++ turns id b new :=
    he ▸ Event.messages_append new
  have hreads : reads id b q.events = turns id b p.events ++ p.session.held b := by
    rw [he, reads, Event.messages_append, ← reads, hr, List.append_nil, hp.kept running]
  have hturned := hq.turned b
  rw [hturns, hreads, List.append_assoc] at hturned
  refine ⟨(List.prefix_append_right_inj _).mp hturned, fun hs => ?_⟩
  have hkept := hq.kept hs b
  rw [hturns, hreads, List.append_assoc] at hkept
  exact List.append_cancel_left hkept

/-- A request waits until something resolves it that answers it. -/
lemma Steps.pending_or (h : Steps c id p q) (hs : p.session.Sound c id p.events) {r : Pending Handler}
    (hr : r ∈ p.session.correlator.pending) : r ∈ q.session.correlator.pending ∨
      ∃ new, q.events = new ++ p.events ∧ ∃ m : Fields, .dealt id (.resolved r.ticket (.object m)) ∈ new ∧
        Correlator.answerKey? (m.getD "id" .null) = some r.key := by
  induction h with
  | refl => exact .inl hr
  | tail hpx h ih =>
    rcases ih with hr | ⟨new, he, m, hm, hkey⟩
    · refine (h.pending_or (Steps.sound hpx hs) hr).imp_right fun ⟨m, hevents, _, hkey⟩ => ?_
      obtain ⟨new, hnew⟩ := Steps.suffix hpx
      refine ⟨.dealt id (.resolved r.ticket (.object m)) :: new, ?_, m, List.mem_cons_self, hkey⟩
      rw [hevents, ← hnew, List.cons_append]
    · obtain ⟨later, hlater⟩ := h.suffix
      exact .inr ⟨later ++ new, by rw [← hlater, he, List.append_assoc], m, List.mem_append_right _ hm, hkey⟩

lemma enqueued_append (new es : List Event) : enqueued id (new ++ es) = enqueued id es ++ enqueued id new := by
  rw [enqueued, List.reverse_append, List.flatMap_append]
  rfl

lemma Event.isTurnOf.reads_eq {b b' : Bool} {new : List Event} (h : ∀ e ∈ new, e.isTurnOf id b) :
    reads id b' new = [] :=
  messages_eq_nil_of_none fun e he => by
    have hturn := h e he
    rw [isTurnOf, Bool.and_eq_true] at hturn
    exact Option.isNone_iff_eq_none.mp hturn.1

lemma Event.isTurnOf.turns_eq {b b' : Bool} {new : List Event} (h : ∀ e ∈ new, e.isTurnOf id b)
    (hb : b ≠ b') : turns id b' new = [] :=
  messages_eq_nil fun e he m hm => by
    have hturn := h e he
    rw [isTurnOf, Bool.and_eq_true, show e.turn? id = some m from hm] at hturn
    have hkind : m.isError = b := by simpa using hturn.2
    exact hkind ▸ hb

lemma turns_of_exchange {b : Bool} {new : List Event} (h : ∀ e ∈ new, e.isExchange) :
    turns id b new = [] :=
  Event.messages_eq_nil_of_none fun e he => by
    have hexchange := h e he
    cases e with
    | noted session n => cases n <;> first | rfl | cases hexchange
    | _ => rfl

/-! The phases -/

/-- A tick reads and writes, then come the turns of the messages that are no errors and then those of the
errors. No request is resolved before by anything else, and what is queued meanwhile waits at the end. -/
structure IsRound (id : SessionId) (w v : World) (exchange responses errors rest : List Event) : Prop where
  story : v.story id = rest ++ (errors ++ (responses ++ (exchange ++ w.story id)))
  exchanges : ∀ e ∈ exchange, e.isExchange
  responds : ∀ e ∈ responses, e.isTurnOf id false
  rejects : ∀ e ∈ errors, e.isTurnOf id true
  rests : ∀ e ∈ rest, e.isApart id
  turned : turns id false responses <+: reads id false exchange ∧ turns id true errors <+: reads id true exchange
  dispatched : .noted id .ended ∉ responses → turns id false responses = reads id false exchange
  dispatchedErrors : .noted id .ended ∉ errors ++ responses → turns id true errors = reads id true exchange
  resolved : .noted id .ended ∉ errors ++ responses → ∀ ticket (m : Fields),
    .dealt id (.resolved ticket (.object m)) ∈ errors ++ responses → ∃ b, m ∈ reads id b exchange
  answered : .noted id .ended ∉ errors ++ responses → ∀ r ∈ (w.session id).correlator.pending,
    ∀ b, ∀ m ∈ reads id b exchange, m.isReply → Correlator.answerKey? (m.getD "id" .null) = some r.key →
      ∃ m' : Fields, .dealt id (.resolved r.ticket (.object m')) ∈ errors ++ responses ∧
        Correlator.answerKey? (m'.getD "id" .null) = some r.key ∧ ∃ b, m' ∈ reads id b exchange
  waits : (v.session id).status ≠ .terminated → ∀ b, (v.session id).waiting b =
    only b ((enqueued id (rest ++ (errors ++ responses))).map .ofDeferred)

open World

/-- What is known of a session between two phases of a tick. -/
structure World.IsSeen (c : Conduct) (id : SessionId) (w : World) : Prop where
  sound : (w.session id).Sound c id (w.story id)
  accounts : (w.position id [.ticking]).Accounts id
  ended : .noted id .ended ∈ w.story id ↔ (w.session id).status = .terminated
  live : (w.session id).status ≠ .terminated → (w.session id).status.isLeaving = false

/-- A session that is not over leaves only in the course of a shutdown. -/
lemma Steps.isLeaving_eq_false {config : Fields} {name : Json}
    (h : Steps c id ⟨.blank config name, [], []⟩ q) (idle : ∀ wasOpen, .leaving wasOpen ∉ q.tasks)
    (few : q.session.correlator.lastId < numberLimit) (hs : q.session.status ≠ .terminated) :
    q.session.status.isLeaving = false := by
  have hparts : Termination.Parts q := Termination.Parts.steps (fun hs => by cases hs) h
  cases hst : q.session.status with
  | shuttingDown =>
    rcases hparts hst with ⟨wasOpen, hl⟩ | hn
    · exact (idle wasOpen hl).elim
    · exact (not_le.mpr few hn).elim
  | terminated => exact (hs hst).elim
  | _ => rfl

lemma isSeen_of_steps {config : Fields} {name : Json} {w : World}
    (h : Steps c id ⟨.blank config name, [], []⟩ (w.position id [.ticking])) (hc : c.LeavesTicks)
    (few : (w.session id).correlator.lastId < numberLimit) : w.IsSeen c id where
  sound := Steps.sound h (.blank _ _)
  accounts := Steps.accounts h hc (.blank _ _) few (.blank _ _)
  ended := (Steps.attests h (.blank _ _)).ended
  live hs := Steps.isLeaving_eq_false h (by simp [position]) few hs

/-- The end of a session was noted in a part of a tick, if it was over then and not before. -/
lemma World.IsSeen.running {u x : World} {new : List Event} (hx : x.IsSeen c id)
    (he : x.story id = new ++ u.story id) (hu : .noted id .ended ∉ u.story id)
    (hn : .noted id .ended ∉ new) : (x.session id).status ≠ .terminated := fun hs => by
  have hended := hx.ended.mpr hs
  rw [he] at hended
  exact (List.mem_append.mp hended).elim hn hu

section

variable {w u x y v : World} {exchange responses errors : List Event}

/-- What was read in a tick waits to be dispatched. -/
lemma Session.Round.held_eq (h : Session.Round c id w u x y v) (hw : w.IsSeen c id) (hu : u.IsSeen c id)
    (running : (w.session id).status ≠ .terminated) (hnone : ∀ b, (w.session id).held b = [])
    (he : u.story id = exchange ++ w.story id) (hex : ∀ e ∈ exchange, e.isExchange) (b : Bool) :
    (u.session id).held b = reads id b exchange := by
  have hbefore : turns id b (w.story id) ++ (w.session id).held b = reads id b (w.story id) :=
    hw.accounts.kept running b
  have hafter : turns id b (u.story id) ++ (u.session id).held b = reads id b (u.story id) :=
    hu.accounts.kept (by rw [position, h.exchanges.status]; exact running) b
  have hturns : turns id b (u.story id) = turns id b (w.story id) ++ turns id b exchange :=
    he ▸ Event.messages_append exchange
  have hreads : reads id b (u.story id) = reads id b (w.story id) ++ reads id b exchange :=
    he ▸ Event.messages_append exchange
  rw [hnone, List.append_nil] at hbefore
  rw [hturns, turns_of_exchange hex, List.append_nil, hbefore, hreads] at hafter
  exact List.append_cancel_left hafter

/-- A request that was pending when its reply was read is not pending any more when all replies had their
turn. -/
lemma Session.Round.not_pending (h : Session.Round c id w u x y v) (hu : u.Ready c id)
    (live : (y.session id).status.isLeaving = false) {r : Pending Handler}
    (hr : r ∈ (u.session id).correlator.pending) {b : Bool} {m : Fields} (hm : m ∈ (u.session id).held b)
    (hreply : m.isReply) (hkey : Correlator.answerKey? (m.getD "id" .null) = some r.key) :
    r ∉ (y.session id).correlator.pending := by
  have hx := h.responses.moves.ready hu
  obtain ⟨-, hothers, herases⟩ := h.responses.live ((h.errors.moves.steps [] rfl).live live)
  obtain ⟨-, -, herases'⟩ := h.errors.live live
  obtain ⟨n, hle, hn, -⟩ := hu.sound.numbered r hr
  have hgone : r ∉ (x.session id).correlator.pending → r ∉ (y.session id).correlator.pending := fun hr' =>
    Session.not_pending_of_moves hr' hn (Nat.le_trans hle h.responses.moves.lastId_le) hx h.errors.moves
  cases b with
  | false => exact hgone (herases h.dispatched m hm hreply r hr hkey)
  | true =>
    by_cases hr' : r ∈ (x.session id).correlator.pending
    · have hm : m ∈ (x.session id).held true := hothers ▸ hm
      exact herases' h.dispatchedErrors m hm hreply r hr' hkey
    · exact hgone hr'

/-- Nothing that was pending is resolved while messages are exchanged. -/
lemma Session.Exchanges.pending (h : Session.Exchanges c .host id [] w u) (hw : w.IsSeen c id)
    {r : Pending Handler} (hr : r ∈ (w.session id).correlator.pending) :
    r ∈ (u.session id).correlator.pending := by
  refine ((h.moves.steps [] rfl).pending_or hw.sound hr).resolve_right ?_
  rintro ⟨new, he, m, hm, -⟩
  obtain ⟨new', he', hex⟩ := h.exchanged
  obtain rfl : new = new' := List.append_cancel_right (he.symm.trans he')
  cases hex _ hm

/-- What is queued once all that waited was sent, waits. -/
lemma Session.Round.waits (h : Session.Round c id w u x y v)
    (live : (v.session id).status.isLeaving = false) {new : List Event}
    (he : v.story id = new ++ u.story id) (b : Bool) :
    (v.session id).waiting b = only b ((enqueued id new).map .ofDeferred) := by
  have hy := (h.moves.steps [] rfl).live live
  have hx := (h.errors.moves.steps [] rfl).live hy
  have hgathers : Gathers id (u.position id []) (v.position id []) :=
    ((h.responses.live hx).1.gathers.trans (h.errors.live hy).1.gathers).trans (h.rest.live live).1.gathers
  obtain ⟨items, hqueued, hwaits⟩ := hgathers
  have hitems : enqueued id (v.story id) = enqueued id (u.story id) ++ items := hqueued
  rw [he, enqueued_append] at hitems
  have hsent : (u.session id).waiting b = [] := Queues.Exchanges.waiting_eq h.exchanges b
  rw [List.append_cancel_left hitems, ← List.nil_append (only b _), ← hsent]
  exact hwaits b

/-- What is no error has its turn first. -/
lemma Session.Round.turns_responses (h : Session.Round c id w u x y v) (hu : u.IsSeen c id)
    (hx : x.IsSeen c id) (running : (u.session id).status ≠ .terminated)
    (he : x.story id = responses ++ u.story id) (hresponses : ∀ e ∈ responses, e.isTurnOf id false) :
    turns id false responses <+: (u.session id).held false ∧
      (.noted id .ended ∉ responses → turns id false responses = (u.session id).held false) := by
  have hdone : (x.session id).held false = [] := h.dispatched
  have hreads : reads id false responses = [] := Event.isTurnOf.reads_eq hresponses
  obtain ⟨hturned, hall⟩ := hu.accounts.since hx.accounts he hreads running
  rw [position, position, hdone, List.append_nil] at hturned hall
  exact ⟨hturned, fun hn => hall (hx.running he (fun hm => running (hu.ended.mp hm)) hn)⟩

/-- Then the errors have theirs. -/
lemma Session.Round.turns_errors (h : Session.Round c id w u x y v) (hu : u.IsSeen c id)
    (hy : y.IsSeen c id) (running : (u.session id).status ≠ .terminated)
    (he : y.story id = (errors ++ responses) ++ u.story id)
    (hresponses : ∀ e ∈ responses, e.isTurnOf id false) (herrors : ∀ e ∈ errors, e.isTurnOf id true) :
    turns id true errors <+: (u.session id).held true ∧
      (.noted id .ended ∉ errors ++ responses → turns id true errors = (u.session id).held true) := by
  have hdone : (y.session id).held true = [] := h.dispatchedErrors
  have hreads : reads id true (errors ++ responses) = [] := by
    rw [reads, Event.messages_append, ← reads, Event.isTurnOf.reads_eq hresponses,
      Event.isTurnOf.reads_eq herrors]
    rfl
  have hturns : turns id true (errors ++ responses) = turns id true errors := by
    rw [turns, Event.messages_append, ← turns, Event.isTurnOf.turns_eq hresponses (by decide)]
    rfl
  obtain ⟨hturned, hall⟩ := hu.accounts.since hy.accounts he hreads running
  rw [position, position, hdone, List.append_nil, hturns] at hturned hall
  exact ⟨hturned, fun hn => hall (hy.running he (fun hm => running (hu.ended.mp hm)) hn)⟩

/-- Meanwhile nothing else resolves a request. -/
lemma Session.Round.resolved (h : Session.Round c id w u x y v)
    (live : (y.session id).status.isLeaving = false) {new : List Event}
    (he : y.story id = new ++ u.story id) (ticket : Nat) (m : Fields)
    (hm : .dealt id (.resolved ticket (.object m)) ∈ new) : ∃ b, m ∈ (u.session id).held b := by
  obtain ⟨hkeeps, hothers, -⟩ := h.responses.live ((h.errors.moves.steps [] rfl).live live)
  obtain ⟨hkeeps', -⟩ := h.errors.live live
  have hboth : Keeps id (fun m => ∃ b, m ∈ (u.session id).held b) (u.position id []) (y.position id []) :=
    (hkeeps.mono fun m hm => ⟨false, hm⟩).trans (hkeeps'.mono fun m hm => ⟨true, hothers ▸ hm⟩)
  obtain ⟨new', he', hnew'⟩ := hboth.resolved
  obtain rfl : new = new' := List.append_cancel_right (he.symm.trans he')
  exact hnew' ticket m hm

lemma isRound_of_round {config : Fields} {name : Json} (hc : c.LeavesTicks) (sends : c.Sends config)
    (hsteps : Steps c id ⟨.blank config name, [], []⟩ (w.position id [])) (ready : w.Ready c id)
    (running : (w.session id).status ≠ .terminated) (linked : (w.session id).link.isSome)
    (calm : Calm id (v.session id) (v.story id)) (h : Session.Round c id w u x y v) :
    ∃ exchange responses errors rest, IsRound id w v exchange responses errors rest := by
  have hw : Steps c id ⟨.blank config name, [], []⟩ (w.position id [.ticking]) :=
    hsteps.tail (.ticked running linked)
  have hu := hw.trans (h.exchanges.moves.steps [] rfl)
  have hx := hu.trans (h.responses.moves.steps [] rfl)
  have hy := hx.trans (h.errors.moves.steps [] rfl)
  have hycalm := h.moves.calm calm
  have hxcalm := h.errors.moves.calm hycalm
  have hucalm := h.responses.moves.calm hxcalm
  have hwcalm := h.exchanges.moves.calm hucalm
  have hwseen := isSeen_of_steps hw hc hwcalm.few
  have huseen := isSeen_of_steps hu hc hucalm.few
  have hxseen := isSeen_of_steps hx hc hxcalm.few
  have hyseen := isSeen_of_steps hy hc hycalm.few
  have hrunning : (u.session id).status ≠ .terminated := h.exchanges.status ▸ running
  have hnone : ∀ b, (w.session id).held b = [] :=
    hsteps.held_eq_nil hc sends hwcalm (by simp [position])
  obtain ⟨exchange, he, hexchange⟩ := h.exchanges.exchanged
  obtain ⟨responses, hr, hresponses⟩ := h.responses.turned
  obtain ⟨errors, hx', herrors⟩ := h.errors.turned
  obtain ⟨rest, hz, hrest⟩ := h.rest.apart
  have hheld : ∀ b, (u.session id).held b = reads id b exchange :=
    h.held_eq hwseen huseen running hnone he hexchange
  have hboth : y.story id = (errors ++ responses) ++ u.story id := by rw [hx', hr, List.append_assoc]
  have hlive : .noted id .ended ∉ errors ++ responses → (y.session id).status.isLeaving = false := fun hn =>
    hyseen.live (hyseen.running hboth (fun hm => hrunning (huseen.ended.mp hm)) hn)
  have hturns := h.turns_responses huseen hxseen hrunning hr hresponses
  have hturns' := h.turns_errors huseen hyseen hrunning hboth hresponses herrors
  rw [hheld] at hturns hturns'
  have hresolved : .noted id .ended ∉ errors ++ responses → ∀ ticket (m : Fields),
      .dealt id (.resolved ticket (.object m)) ∈ errors ++ responses → ∃ b, m ∈ reads id b exchange :=
    fun hn ticket m hm => by
      obtain ⟨b, hm⟩ := h.resolved (hlive hn) hboth ticket m hm
      exact ⟨b, hheld b ▸ hm⟩
  refine ⟨exchange, responses, errors, rest, ?_, hexchange, hresponses, herrors, hrest,
    ⟨hturns.1, hturns'.1⟩, hturns.2, hturns'.2, hresolved, fun hn r hr' b m hm hreply hkey => ?_,
    fun hs b => ?_⟩
  · rw [← he, ← hr, ← hx']
    exact hz
  · have hpending := h.exchanges.pending hwseen hr'
    have hgone := h.not_pending (h.exchanges.moves.ready ready) (hlive hn) hpending (hheld b ▸ hm) hreply hkey
    obtain ⟨new, hnew, m', hm', hkey'⟩ := (((h.responses.moves.trans h.errors.moves).steps [] rfl).pending_or
      huseen.sound hpending).resolve_left hgone
    obtain rfl : new = errors ++ responses := List.append_cancel_right (hnew.symm.trans hboth)
    exact ⟨m', hm', hkey', hresolved hn _ _ hm'⟩
  · have hlater := h.responses.moves.trans (h.errors.moves.trans h.moves)
    have hv := hu.trans (hlater.steps [] rfl)
    refine h.waits (Steps.isLeaving_eq_false hv (by simp [position]) calm.few hs) ?_ b
    rw [List.append_assoc, ← hboth]
    exact hz

end

/-- What is so after a tick: all that was read in it had its turn in it, or the session had nothing to do;
and over all ticks every message that was read had its turn once, in its order, but for what was lost when
the session ended. -/
structure Ticked (id : SessionId) (w v : World) : Prop where
  emptied : (v.session id).inbox = ([], [])
  turned : ∀ b, turns id b (v.story id) <+: reads id b (v.story id)
  kept : (v.session id).status ≠ .terminated → ∀ b, turns id b (v.story id) = reads id b (v.story id)
  round : (w.session id).status ≠ .terminated → (w.session id).link.isSome →
    ∃ exchange responses errors rest, IsRound id w v exchange responses errors rest
  idle : (w.session id).status = .terminated ∨ (w.session id).link = none → v = w

/-- Whatever a server sends that can be read, and whatever callbacks do but tick themselves: each message
that is read in a tick has its turn in that tick, once and in its order, those that are no errors before
those that are, and all of them before anything is failed that is overdue, unless the session ends before. -/
theorem ticked_of_mem_outcomes (ticks : c.LeavesTicks) {w : World} (hw : w.IsNew)
    (sends : ∀ id, c.Sends (w.session id).config) {actions : List Action}
    (ha : actions.all (c.admits .host)) {o : Outcome} (ho : o ∈ outcomes w actions)
    (hid : id < o.world.sessions.length) :
    Act.Ends (Session.tick (callWithin nestingLimit) id) o.world fun result v =>
      Session.Legible id v → (∀ m, .dealt id (.read m) ∈ v.story id → m.IsProper) →
        result = .ok () ∧ Ticked id o.world v := by
  have hgoes := goes_of_mem_outcomes hw.lawful ha ho
  have hready : o.world.Ready c id := ⟨hgoes.lawful hw.lawful, hid⟩
  have hsteps := steps_of_mem_outcomes hw ha ho id
  have hreads := hsteps.reads_position ticks.unspoiled (.blank _ _)
  have hsends : c.Sends (o.world.session id).config := hsteps.config_eq ▸ sends id
  have hround : Act.Ends (Session.tick (callWithin nestingLimit) id) o.world fun _ v =>
      (o.world.session id).status ≠ .terminated → (o.world.session id).link.isSome →
        Calm id (v.session id) (v.story id) →
          ∃ exchange responses errors rest, IsRound id o.world v exchange responses errors rest := by
    by_cases hruns : (o.world.session id).status ≠ .terminated ∧ (o.world.session id).link.isSome
    · obtain ⟨hs, hl⟩ := hruns
      refine (Session.ends_tick_round (abides_callWithin nestingLimit) ticks hready hreads.unspoiled hs hl).mono ?_
      intro _ v h _ _ calm
      obtain ⟨u, x, y, hr⟩ := h hsends calm
      exact isRound_of_round ticks (sends id) hsteps hready hs hl calm hr
    · exact Act.Ends.mono (Q := fun _ _ => True) trivial fun _ _ _ hs hl => (hruns ⟨hs, hl⟩).elim
  have hidle : Act.Ends (Session.tick (callWithin nestingLimit) id) o.world fun _ v =>
      (o.world.session id).status = .terminated ∨ (o.world.session id).link = none → v = o.world := by
    by_cases hs : (o.world.session id).status = .terminated ∨ (o.world.session id).link = none
    · exact (Session.ends_tick_idle hs).mono fun _ _ hv _ => hv
    · exact Act.Ends.mono (Q := fun _ _ => True) trivial fun _ _ _ h => (hs h).elim
  refine (((Session.ends_tick (abides_callWithin nestingLimit) (Level.room_host c _) hready).and hround).and
    hidle).mono ?_
  rintro result v ⟨⟨⟨hv, -, hend⟩, hround⟩, hidle⟩ legible proper
  have hvsteps := hsteps.trans (hv.steps [] rfl)
  have hattests := Steps.attests hvsteps (.blank _ _)
  have calm : Calm id (v.session id) (v.story id) :=
    ⟨legible.readable, fun m hm => (proper m hm).isTame (hattests.read m hm).2, legible.few⟩
  have haccounts := Steps.accounts hvsteps ticks (.blank _ _) calm.few (.blank _ _)
  have hnone : ∀ b, (v.session id).held b = [] :=
    Steps.held_eq_nil hvsteps ticks (sends id) calm List.not_mem_nil
  have hturned : ∀ b, turns id b (v.story id) ++ (v.session id).held b = turns id b (v.story id) :=
    fun b => by rw [hnone, List.append_nil]
  refine ⟨(hend hreads.unspoiled hsends calm).1, ?_, fun b => ?_, fun hs b => ?_, fun hs hl => ?_, hidle⟩
  · exact Prod.ext (hnone false) (hnone true)
  · exact hturned b ▸ haccounts.turned b
  · exact (hturned b).symm.trans (haccounts.kept hs b)
  · exact hround hs hl calm

/-- An error comes before a notification, whose listener pushes something and fails: the notification has its
turn first, the request is resolved by the error, and what was pushed waits. -/
theorem ticked_of_mem_outcomes_error :
    let seen := Callback.mk "seen" [.session .null (.pushNotification "saved" .null)] (some "no")
    let actions : List Action := [.session .null (.handshake .null "editor" "1" none),
      .session .null .tick, .link .null (.write [Message.response (.int 1) (.object [])]),
      .session .null .tick, .session .null (.onMethod "done" (some seen)),
      .session .null (.pushRequest "hover" .null (some (.mk "hovered" [] none)) .null),
      .session .null .tick,
      .link .null (.write [Message.errorResponse (.int 2) (.int 7) "no" .null,
        Message.notification "done" .null])]
    (World.serving "server").IsNew ∧ actions.all (Conduct.ticking.admits .host) ∧
      ∃ o ∈ outcomes (.serving "server") actions,
        Act.Ends (Session.tick (callWithin nestingLimit) 0) o.world fun result v =>
          result = .ok () ∧ Ticked 0 o.world v ∧ (o.world.session 0).correlator.pending.length = 1 ∧
            (reads 0 true (v.story 0)).length = 1 ∧ (reads 0 false (v.story 0)).length = 2 ∧
              ((v.session 0).waiting false).length = 1 := by
  intro seen actions
  have hw : (World.serving "server").IsNew := World.isNew_serving "server"
  have ha : actions.all (Conduct.ticking.admits .host) := by decide +kernel
  have hrun : ∃ o ∈ outcomes (.serving "server") actions, 0 < o.world.sessions.length ∧
      (o.world.session 0).correlator.pending.length = 1 ∧
      let v := ((Session.tick (callWithin nestingLimit) 0).run o.world).2
      (v.story 0).all (!·.isUnreadable) ∧ (v.session 0).correlator.lastId < numberLimit ∧
        (v.story 0).all Event.isProper ∧ (reads 0 true (v.story 0)).length = 1 ∧
          (reads 0 false (v.story 0)).length = 2 ∧ ((v.session 0).waiting false).length = 1 := by
    decide +kernel
  obtain ⟨o, ho, hid, hpending, hreadable, hfew, hproper, hrest⟩ := hrun
  have hconfig : ∀ id, Conduct.ticking.Sends ((World.serving "server").session id).config := fun id => by
    cases id <;> exact Conduct.sends_ticking rfl rfl
  obtain ⟨hok, hticked⟩ := ticked_of_mem_outcomes Conduct.leavesTicks_ticking hw hconfig ha ho hid
    (legible_of_all hreadable hfew) (isProper_of_all hproper)
  exact ⟨hw, ha, o, ho, hok, hticked, hpending, hrest⟩

end LanguageClient
