import LanguageClient.Proofs.Tick
import LanguageClient.Proofs.Wire.Inbox
import LanguageClient.Proofs.Wire.Replies

/-!
Rounds. A tick reads and writes, then gives each message that is no error its turn, then each error, and
only then fails what is overdue.
-/

namespace LanguageClient

open Utterance (only)

variable {c : Conduct} {id : SessionId} {p q r : Position}

/-! While a callback has its turn -/

def Task.isServed : Task → Bool
  | reading | turning _ _ | expiring => true
  | _ => false

/-- A callback has its turn while only these messages have theirs. -/
structure Position.Serves (P : Fields → Prop) (p : Position) : Prop where
  calling : .calling ∈ p.tasks
  reading : .reading ∉ p.tasks
  turning : ∀ m found, .turning m found ∈ p.tasks → P m
  expiring : .expiring ∈ p.tasks → ∀ m, P m

lemma Step.mem_served (h : Step c id p q) (hc : c.LeavesTicks) (hK : .calling ∈ p.tasks) {t : Task}
    (ht : t.isServed) (hq : t ∈ q.tasks) : t ∈ p.tasks := by
  have hpush : ∀ {k : Task} {K : List Task}, t ∈ k :: K → k.isServed = false → t ∈ K := fun h hk =>
    (List.mem_cons.mp h).resolve_left fun he => by
      rw [he, hk] at ht
      cases ht
  have howed : ∀ {ticket : Nat} {m : Fields} {handler : Option Handler} {K : List Task},
      t ∈ Task.owed ticket m handler ++ K → t ∈ K := fun h =>
    (List.mem_append.mp h).resolve_left fun hm => by
      obtain ⟨_, _, rfl⟩ := Task.mem_owed.mp hm
      cases ht
  cases h
  case fed t' K data drains free linked running =>
    exact (hc.not_nests_of_drains rfl drains hK free).elim
  case dispatched drains free queue | dispatchedError drains free queue =>
    exact (hc.not_nests_of_drains rfl drains hK free).elim
  case lapsing free => exact (hc.not_expires hK free).elim
  case resolved => exact howed hq
  case turnedDown | welcomed => exact List.mem_cons_of_mem _ (hpush (howed hq) rfl)
  case hailed | left | ended | ticked | began => exact hpush hq rfl
  case entered => exact hpush hq rfl
  case parted | saidGoodbye | unheardGoodbye => exact List.mem_cons_of_mem _ (hpush hq rfl)
  all_goals first | exact hq | exact List.mem_cons_of_mem _ hq

lemma Step.serves {P : Fields → Prop} (h : Step c id p q) (hc : c.LeavesTicks) (hp : p.Serves P) :
    q.Serves P where
  calling := h.calling hp.calling
  reading hq := hp.reading (h.mem_served hc hp.calling rfl hq)
  turning m found hq := hp.turning m found (h.mem_served hc hp.calling rfl hq)
  expiring hq := hp.expiring (h.mem_served hc hp.calling rfl hq)

/-! What is queued -/

/-- What is queued waits. -/
def Gathers (id : SessionId) (p q : Position) : Prop :=
  ∃ items, enqueued id q.events = enqueued id p.events ++ items ∧
    ∀ b, q.session.waiting b = p.session.waiting b ++ only b (items.map .ofDeferred)

lemma Gathers.aside (he : Adds (Queues.isAside id) p.events q.events)
    (hw : q.session.waiting = p.session.waiting) : Gathers id p q :=
  ⟨[], by rw [Queues.enqueued_eq_of_adds he, List.append_nil], fun b => by simp [hw]⟩

lemma Gathers.refl (p : Position) : Gathers id p p := .aside (.refl _) rfl

lemma Gathers.trans (h : Gathers id p q) (g : Gathers id q r) : Gathers id p r := by
  obtain ⟨items, he, hw⟩ := h
  obtain ⟨items', he', hw'⟩ := g
  refine ⟨items ++ items', by rw [he', he, List.append_assoc], fun b => ?_⟩
  rw [hw', hw, List.map_append, Utterance.only_append, List.append_assoc]

open Queues in
lemma Step.gathers (h : Step c id p q) (hc : c.LeavesTicks) (hK : .calling ∈ p.tasks)
    (live : q.session.status.isLeaving = false) : Gathers id p q := by
  cases h
  case notified free _ | requested free _ _ _ | dropped free _ => exact (hc.not_hasRoom rfl hK free.2).elim
  case introduced s es K rootUri rootPath name version callback status linked allowed obeys path =>
    let request : Deferred := .inr
      (s.openingRequest (s.openingParams rootUri rootPath name version) callback)
    exact ⟨[request], (enqueued_acceptance request).trans (enqueued_queued request), waiting_introduce _ _⟩
  case deferred item _ _ _ _ _ _ _ =>
    refine .aside ((Adds.single rfl).acceptance (fun _ _ => rfl) item) ?_
    cases item <;> rfl
  case queued s es K a item documents _ _ _ _ _ =>
    refine ⟨[item], (enqueued_acceptance item).trans (enqueued_queued item), fun b => ?_⟩
    have hw := waiting_queue (s := s) item b
    cases item <;> exact hw
  case replied isReply writes => exact .aside (writes.adds (isAside_sent_of_isReply isReply _) rfl rfl) rfl
  case welcomed s es K ticket callback capabilities serverInfo m error status result =>
    exact ⟨_, enqueued_announced s.deferred, waiting_welcome _ _⟩
  case parted | saidGoodbye | unheardGoodbye => cases live
  case overtaken status | buried status _ =>
    cases (Status.isLeaving_of_or (.inr status)).symm.trans live
  case abandoned status _ => cases (Status.isLeaving_of_or (.inl status)).symm.trans live
  case took s es t K m reader next running =>
    obtain ⟨responses, errors, he⟩ := Session.exists_enqueue_eq { s with reader } m
    rw [he]
    exact .aside (.single rfl) rfl
  all_goals exact .aside (by first | exact .refl _ | exact .single rfl) rfl

/-! What goes on -/

def Event.isUnresolved : Event → Bool
  | .dealt _ (.resolved _ _) => false
  | _ => true

/-- A request is resolved for a reason, or nothing is resolved. -/
lemma Step.resolves_or (h : Step c id p q) : Adds Event.isUnresolved p.events q.events ∨
    ∃ (ticket : Nat) (m : Fields) (answered : Json),
      q.events = .dealt id (.resolved ticket (.object m)) :: p.events ∧
        Resolves p.session answered m p.tasks ∧ q.session.status = p.session.status := by
  cases h
  case resolved reason => exact .inr ⟨_, _, _, rfl, reason, rfl⟩
  case introduced => exact .inl ((Adds.single rfl).cons rfl)
  case deferred item _ _ _ _ _ _ _ | queued item _ _ _ _ _ _ =>
    exact .inl ((Adds.single rfl).acceptance (fun _ _ => rfl) item)
  case notified writes | replied writes => exact .inl (writes.adds rfl rfl rfl)
  case requested writes => exact .inl (Adds.trans (.single rfl) (writes.adds rfl rfl rfl))
  case saidGoodbye told left =>
    exact .inl (((told.adds rfl rfl rfl).trans (left.adds rfl rfl rfl)).cons rfl)
  case unheardGoodbye told => exact .inl ((told.adds rfl rfl rfl).cons rfl)
  case buried s es K last timeout status settled =>
    refine .inl ?_
    dsimp only
    unfold Session.burial
    split
    · exact (Adds.single rfl).cons rfl
    · exact .single rfl
  all_goals exact .inl (by first | exact .refl _ | exact .single rfl)

/-- Only these messages resolve requests, and what is queued waits. -/
structure Keeps (id : SessionId) (P : Fields → Prop) (p q : Position) : Prop where
  resolved : ∃ new, q.events = new ++ p.events ∧
    ∀ ticket (m : Fields), .dealt id (.resolved ticket (.object m)) ∈ new → P m
  gathers : Gathers id p q

namespace Keeps

variable {P Q : Fields → Prop}

lemma of_adds (h : Adds Event.isUnresolved p.events q.events) (g : Gathers id p q) : Keeps id P p q := by
  obtain ⟨new, he, hnew⟩ := h
  exact ⟨⟨new, he, fun _ _ hm => by cases hnew _ hm⟩, g⟩

lemma refl (p : Position) : Keeps id P p p := .of_adds (.refl _) (.refl p)

lemma trans (h : Keeps id P p q) (g : Keeps id P q r) : Keeps id P p r := by
  obtain ⟨new, he, hnew⟩ := h.resolved
  obtain ⟨new', he', hnew'⟩ := g.resolved
  refine ⟨⟨new' ++ new, by rw [he', he, List.append_assoc], fun ticket m hm => ?_⟩, h.gathers.trans g.gathers⟩
  exact (List.mem_append.mp hm).elim (hnew' ticket m) (hnew ticket m)

lemma mono (h : Keeps id P p q) (hPQ : ∀ m, P m → Q m) : Keeps id Q p q := by
  obtain ⟨new, he, hnew⟩ := h.resolved
  exact ⟨⟨new, he, fun ticket m hm => hPQ m (hnew ticket m hm)⟩, h.gathers⟩

end Keeps

lemma Step.keeps_of_serves {P : Fields → Prop} (h : Step c id p q) (hc : c.LeavesTicks)
    (hp : p.Serves P) (live : q.session.status.isLeaving = false) : Keeps id P p q := by
  have hgathers := h.gathers hc hp.calling live
  rcases h.resolves_or with hadds | ⟨ticket, m, answered, he, ⟨-, reason⟩, status⟩
  · exact .of_adds hadds hgathers
  · refine ⟨⟨[_], he, fun ticket' k hk => ?_⟩, hgathers⟩
    obtain rfl := (Json.object.inj (Dealing.resolved.inj (Event.dealt.inj (List.mem_singleton.mp hk)).2).2)
    rcases reason with ⟨found, K, ht⟩ | ⟨K, ht⟩ | hleaving
    · exact hp.turning k found (ht ▸ List.mem_cons_self)
    · exact hp.expiring (ht ▸ List.mem_cons_self) k
    · rw [← status, live] at hleaving
      cases hleaving

/-- What is so of a session while a callback has its turn: the inbox is left alone, unless the session
turns to its end. -/
structure Serving (id : SessionId) (P : Fields → Prop) (p q : Position) : Prop where
  apart : Adds (Event.isApart id) p.events q.events
  live : q.session.status.isLeaving = false → Keeps id P p q ∧ q.session.inbox = p.session.inbox

lemma Steps.serving {P : Fields → Prop} (h : Steps c id p q) (hc : c.LeavesTicks) (hp : p.Serves P) :
    Serving id P p q := by
  have hall : q.Serves P ∧ Serving id P p q := by
    induction h with
    | refl => exact ⟨hp, .refl _, fun _ => ⟨.refl p, rfl⟩⟩
    | @tail x y hr h ih =>
      obtain ⟨hx, hserving⟩ := ih
      refine ⟨h.serves hc hx, ?_⟩
      have hkeeps := fun live => (hserving.live (Steps.live (.single h) live)).1.trans
        (h.keeps_of_serves hc hx live)
      cases h.handles hc with
      | goes apart inbox =>
        refine ⟨hserving.apart.trans apart, fun live => ⟨hkeeps live, ?_⟩⟩
        exact inbox.trans (hserving.live (Steps.live (.single h) live)).2
      | takes before => exact (hx.reading (before ▸ List.mem_cons_self)).elim
      | dispatches before => exact (before hx.calling).elim
      | clears apart inbox leaving ended =>
        exact ⟨hserving.apart.trans apart, fun live => by cases live.symm.trans leaving⟩
  exact hall.2

/-! The phases that dispatch -/

open Act World

/-- What is so of a session matters, and not what it is in the middle of. -/
lemma Serving.regardless {P : Fields → Prop} {s s' : Session} {es es' : List Event} {K K' L L' : List Task}
    (h : Serving id P ⟨s, es, K⟩ ⟨s', es', K'⟩) : Serving id P ⟨s, es, L⟩ ⟨s', es', L'⟩ :=
  ⟨h.apart, fun live => ⟨⟨(h.live live).1.resolved, (h.live live).1.gathers⟩, (h.live live).2⟩⟩

lemma World.Moves.serving {P : Fields → Prop} {L M : List Task} {v w : World}
    (h : Moves c .callback id L M v w) (hc : c.LeavesTicks) (reading : .reading ∉ L)
    (turning : ∀ m found, .turning m found ∈ L → P m) (expiring : .expiring ∈ L → ∀ m, P m) :
    Serving id P (v.position id []) (w.position id []) := by
  refine ((h.steps [.calling] (Task.areIdle_singleton rfl)).serving hc ⟨?_, ?_, ?_, ?_⟩).regardless
  · exact List.mem_append_right L List.mem_cons_self
  · simpa [position] using reading
  · simpa [position] using turning
  · simpa [position] using expiring

/-- Whether a message of a kind has its turn, if any has, and none is read. -/
def Event.isTurnOf (id : SessionId) (b : Bool) (e : Event) : Bool :=
  (e.read? id).isNone && (e.turn? id).all (·.isError = b)

lemma Event.isTurnOf_of_isApart {b : Bool} {e : Event} (h : e.isApart id) : e.isTurnOf id b := by
  rw [isApart, Bool.and_eq_true, Option.isNone_iff_eq_none, Option.isNone_iff_eq_none] at h
  rw [isTurnOf, h.1, h.2]
  rfl

def Fields.isReply (m : Fields) : Bool := Message.kindOf m = .response || Message.kindOf m = .error

/-- A message had its turn. -/
structure Turned (id : SessionId) (b : Bool) (m : Fields) (v w : World) : Prop where
  turned : Adds (Event.isTurnOf id b) (v.story id) (w.story id)
  live : (w.session id).status.isLeaving = false →
    Keeps id (· = m) (v.position id []) (w.position id []) ∧
      (v.session id).held b = m :: (w.session id).held b ∧
      (w.session id).held (!b) = (v.session id).held (!b) ∧
      (m.isReply → Session.Erases id (m.getD "id" .null) v w)

/-- Messages of a kind had their turns. -/
structure Passes (c : Conduct) (id : SessionId) (b : Bool) (v w : World) : Prop where
  moves : Moves c .host id [.ticking] [.ticking] v w
  turned : Adds (Event.isTurnOf id b) (v.story id) (w.story id)
  live : (w.session id).status.isLeaving = false →
    Keeps id (· ∈ (v.session id).held b) (v.position id []) (w.position id []) ∧
      (w.session id).held (!b) = (v.session id).held (!b) ∧
      ((w.session id).held b = [] →
        ∀ m ∈ (v.session id).held b, m.isReply → Session.Erases id (m.getD "id" .null) v w)

namespace Passes

variable {b : Bool} {m : Fields} {u v w : World}

lemma refl (w : World) : Passes c id b w w where
  moves := .of_alike (.refl w)
  turned := .refl _
  live _ := ⟨.refl _, rfl, fun hnone m hm => by
    rw [hnone] at hm
    cases hm⟩

lemma cons (first : Turned id b m u v) (hu : u.Ready c id)
    (hm : Moves c .host id [.ticking] [.ticking] u v) (h : Passes c id b v w) : Passes c id b u w where
  moves := hm.trans h.moves
  turned := first.turned.trans h.turned
  live live := by
    obtain ⟨hkeeps, hothers, herases⟩ := h.live live
    obtain ⟨hfirst, hqueue, hother, herased⟩ :=
      first.live ((h.moves.steps [] rfl).live live)
    refine ⟨(hfirst.mono fun k hk => ?_).trans (hkeeps.mono fun k hk => ?_), hothers.trans hother,
      fun hnone k hk hreply => ?_⟩
    · rw [hqueue, hk]
      exact List.mem_cons_self
    · rw [hqueue]
      exact List.mem_cons_of_mem _ hk
    · rw [hqueue] at hk
      rcases List.mem_cons.mp hk with rfl | hk
      · exact (herased hreply).moves hu hm.lastId_le (hm.ready hu) h.moves
      · intro r hr hkey
        by_cases hr' : r ∈ (v.session id).correlator.pending
        · exact herases hnone k hk hreply r hr' hkey
        · obtain ⟨n, hle, hn, -⟩ := hu.sound.numbered r hr
          exact Session.not_pending_of_moves hr' hn (Nat.le_trans hle hm.lastId_le) (hm.ready hu) h.moves

end Passes

lemma turned_of_moves (hc : c.LeavesTicks) {b : Bool} {m : Fields} {s : Session} {w u v : World}
    (hw : w.Ready c id) (hu : Becomes id s (.noted id (.dispatched m s) :: w.story id) w u)
    (queue : (w.session id).held b = m :: s.held b)
    (others : s.held (!b) = (w.session id).held (!b)) (waiting : s.waiting = (w.session id).waiting)
    (pending : s.correlator = (w.session id).correlator) (hv : Moves c .callback id (s.due m) [] u v)
    (erases : m.isReply → Session.Erases id (m.getD "id" .null) u v) : Turned id b m w v := by
  have hkind : m.isError = b := hw.sound.isError_of_held (queue ▸ List.mem_cons_self)
  have hserving : Serving id (· = m) (u.position id []) (v.position id []) := by
    refine hv.serving hc (fun h => (Session.due_apart s m _ h).2 rfl) (fun k found hk => ?_) fun h => ?_
    · rcases Session.mem_due.mp hk with ⟨l, -, ht⟩ | ht
      · cases ht
      · exact (Task.turning.inj ht).1
    · rcases Session.mem_due.mp h with ⟨l, -, ht⟩ | ht <;> cases ht
  have hfirst : Keeps id (· = m) (w.position id []) (u.position id []) := by
    refine .of_adds ?_ (.aside ?_ ?_)
    · rw [position, position, hu.story]
      exact .single rfl
    · rw [position, position, hu.story]
      exact .single rfl
    · rw [position, position, hu.session]
      exact waiting
  refine ⟨?_, fun live => ?_⟩
  · have hadds : Adds (Event.isTurnOf id b) (u.story id) (v.story id) :=
      hserving.apart.mono fun e => Event.isTurnOf_of_isApart
    refine .trans ?_ hadds
    rw [hu.story]
    refine .single ?_
    simp [Event.isTurnOf, Event.read?, Event.turn?, hkind]
  · obtain ⟨hkeeps, hinbox⟩ := hserving.live live
    rw [position, position, hu.session] at hinbox
    refine ⟨hfirst.trans hkeeps, ?_, ?_, fun hreply r hr hkey => ?_⟩
    · rw [queue, Session.held_eq_of_inbox hinbox]
    · rw [← others, Session.held_eq_of_inbox hinbox]
    · refine erases hreply r ?_ hkey
      rw [hu.session, pending]
      exact hr

namespace Session

variable {call : Caller}

lemma ends_dispatchResponsesUpTo_passes (hc : Abides c call) (ticks : c.LeavesTicks) (fuel done : Nat)
    {w : World} (hw : w.Ready c id) :
    Ends (dispatchResponsesUpTo call id fuel done) w fun _ v => Passes c id false w v := by
  induction fuel generalizing done w with
  | zero => exact ends_pure (.refl w)
  | succ fuel ih =>
    refine ends_getSession_bind ?_
    split
    next => exact ends_pure (.refl w)
    next m rest hq =>
      have hmem : m ∈ (w.session id).responses := hq ▸ List.mem_cons_self
      refine ends_turn_bind hw.lt fun u hu => ?_
      have hread : .dealt id (.read m) ∈ u.story id :=
        hu.story ▸ List.mem_cons_of_mem _ (hw.sound.inbox m (List.mem_append_left _ hmem))
      have hmu : Moves c .host id [.ticking] ((u.session id).due m ++ [.ticking]) w u :=
        .of_becomes hu fun K hK => by
          rw [List.append_assoc, hu.session]
          exact .single (.dispatched rfl ((Level.room_host c _).free K hK) hq)
      refine Ends.bind ((ends_dispatchResponse hc (hw.sound.kinds m hmem) (hmu.ready hw) hread).mono ?_)
      rintro result v ⟨hv, -, herases⟩
      have hmv : Moves c .host id [.ticking] [.ticking] w v := hmu.trans (hv.under (Task.areIdle_singleton rfl))
      have hturned : Turned id false m w v := by
        refine turned_of_moves ticks hw hu hq rfl rfl rfl (hu.session ▸ hv) fun hreply => ?_
        simp only [Fields.isReply, Bool.or_eq_true, decide_eq_true_eq] at hreply
        exact herases (hreply.resolve_right (hw.sound.kinds m hmem))
      cases result with
      | error f => exact .cons hturned hw hmv (.refl v)
      | ok _ => exact next_ok ((ih (done + 1) (hmv.ready hw)).mono fun _ x hx => hx.cons hturned hw hmv)

lemma ends_dispatchErrorsUpTo_passes (hc : Abides c call) (ticks : c.LeavesTicks) (fuel done : Nat)
    {w : World} (hw : w.Ready c id) :
    Ends (dispatchErrorsUpTo call id fuel done) w fun _ v => Passes c id true w v := by
  induction fuel generalizing done w with
  | zero => exact ends_pure (.refl w)
  | succ fuel ih =>
    refine ends_getSession_bind ?_
    split
    next => exact ends_pure (.refl w)
    next m rest hq =>
      have hmem : m ∈ (w.session id).errors := hq ▸ List.mem_cons_self
      refine ends_turn_bind hw.lt fun u hu => ?_
      have hread : .dealt id (.read m) ∈ u.story id :=
        hu.story ▸ List.mem_cons_of_mem _ (hw.sound.inbox m (List.mem_append_right _ hmem))
      have hmu : Moves c .host id [.ticking] ((u.session id).due m ++ [.ticking]) w u :=
        .of_becomes hu fun K hK => by
          rw [List.append_assoc, hu.session]
          exact .single (.dispatchedError rfl ((Level.room_host c _).free K hK) hq)
      refine Ends.bind ((ends_dispatchError hc (hw.sound.errorKinds m hmem) (hmu.ready hw) hread).mono ?_)
      rintro result v ⟨hv, rfl, herases⟩
      have hmv : Moves c .host id [.ticking] [.ticking] w v := hmu.trans (hv.under (Task.areIdle_singleton rfl))
      have hturned : Turned id true m w v :=
        turned_of_moves ticks hw hu hq rfl rfl rfl (hu.session ▸ hv) fun _ => herases
      exact next_ok ((ih (done + 1) (hmv.ready hw)).mono fun _ x hx => hx.cons hturned hw hmv)

/-- Both queues were emptied, and then what was overdue was answered. -/
structure Empties (c : Conduct) (id : SessionId) (u x y v : World) : Prop where
  responses : Passes c id false u x
  dispatched : (x.session id).responses = []
  errors : Passes c id true x y
  dispatchedErrors : (y.session id).errors = []
  moves : Moves c .host id [.ticking] [.ticking] y v
  rest : Serving id (fun _ => True) (y.position id []) (v.position id [])

lemma ends_dispatch_empties (hc : Abides c call) (ticks : c.LeavesTicks) {u : World} (hu : u.Ready c id) :
    Ends (do
      let _ ← dispatchResponses call id
      let _ ← dispatchErrors call id
      let _ ← dispatchTimeouts call id) u fun _ v =>
    c.Sends (u.session id).config → Calm id (v.session id) (v.story id) → ∃ x y, Empties c id u x y v := by
  have hroom : ∀ a, Level.host.Room c a [] := Level.room_host c
  refine Ends.bind (((ends_dispatchResponses (t := .ticking) hc rfl (hroom _) hu).and
    (ends_getSession_bind (ends_dispatchResponsesUpTo_passes hc ticks _ 0 hu))).mono ?_)
  rintro result x ⟨⟨-, -, hend⟩, hresponses⟩
  cases result with
  | error f =>
    intro _ calm
    obtain ⟨n, hn⟩ := (hend calm).1
    cases hn
  | ok _ =>
  have hx := hresponses.moves.ready hu
  refine next_ok (Ends.bind (((ends_dispatchErrors (t := .ticking) hc rfl (hroom _) hx).and
    (ends_getSession_bind (ends_dispatchErrorsUpTo_passes hc ticks _ 0 hx))).mono ?_))
  rintro result y ⟨⟨-, -, ⟨n, rfl⟩, hend'⟩, herrors⟩
  have hy := herrors.moves.ready hx
  refine next_ok (Ends.bind ((ends_expire hc .null hy).mono ?_))
  rintro result v ⟨hv, hok⟩
  obtain ⟨n, rfl⟩ := hok rfl
  refine next_ok (ends_pure fun hs calm => ⟨x, y, hresponses, ?_, herrors, ?_, ?_, ?_⟩)
  · have calm' := herrors.moves.calm (hv.calm calm)
    exact ((hend calm').2 ticks.leavesPhases hs).2
  · exact (hend' (hv.calm calm) ticks.leavesPhases (hresponses.moves.config_eq.symm ▸ hs)).2
  · exact moves_lapsed (fun K hK => .inr (.inr (.inr ⟨.ticking, _, rfl, rfl, (hroom _).free K hK⟩)))
      (Task.areIdle_singleton rfl) hv
  · exact hv.serving ticks (by simp) (fun _ _ _ => trivial) fun _ _ => trivial

/-- The phases of a tick, and what came after them. -/
structure Round (c : Conduct) (id : SessionId) (w u x y v : World) : Prop where
  exchanges : Exchanges c .host id [] w u
  responses : Passes c id false u x
  dispatched : (x.session id).responses = []
  errors : Passes c id true x y
  dispatchedErrors : (y.session id).errors = []
  moves : Moves c .host id [.ticking] [] y v
  rest : Serving id (fun _ => True) (y.position id []) (v.position id [])

lemma ends_drain_round (hc : Abides c call) (ticks : c.LeavesTicks) {w : World} (hw : w.Ready c id)
    (hst : (w.session id).status ≠ .terminated) : Ends (drain call id) w fun _ v =>
      c.Sends (w.session id).config → Calm id (v.session id) (v.story id) →
        ∃ u x y, Round c id w u x y v := by
  refine ends_exchange (Level.room_host c _) hw hst (fun f v _ _ _ hfailed hs calm => ?_) fun u hu => ?_
  · exact (hfailed hs (.of_calm calm)).elim
  · have hready := hu.moves.ready hw
    refine ((ends_dispatch hc (Level.room_host c _) hready).and
      (ends_dispatch_empties hc ticks hready)).mono ?_
    rintro result v ⟨⟨-, -, hend⟩, hempties⟩ hs calm
    have hs : c.Sends (u.session id).config := hu.moves.config_eq.symm ▸ hs
    obtain ⟨x, y, he⟩ := hempties hs calm
    have hrested : Moves c .host id [.ticking] [] v v :=
      .of_becomes (Alike.refl v).becomes fun K _ => .single (.rested fun hp _ _ => (hend hs calm).2 hp)
    exact ⟨u, x, y, hu, he.responses, he.dispatched, he.errors, he.dispatchedErrors,
      he.moves.trans hrested, he.rest⟩

lemma ends_tick_round (hc : Abides c call) (ticks : c.LeavesTicks) {w : World} (hw : w.Ready c id)
    (hf : (w.session id).fault = none) (hst : (w.session id).status ≠ .terminated)
    (hl : (w.session id).link.isSome) : Ends (tick call id) w fun _ v =>
      c.Sends (w.session id).config → Calm id (v.session id) (v.story id) →
        ∃ u x y, Round c id w u x y v := by
  have hruns : ¬ ((w.session id).status = .terminated || (w.session id).link.isNone) := by
    simp [hst, Option.isSome_iff_ne_none.mp hl]
  refine ends_getSession_bind ?_
  rw [hf]
  dsimp only
  rw [if_neg hruns]
  refine Ends.bind (((ends_drain hc (Level.room_host c _) hw hst).and
    (ends_drain_round hc ticks hw hst)).mono ?_)
  rintro result z ⟨⟨hz, -⟩, hround⟩
  have hready := hz.ready hw
  cases result with
  | error f => exact hround
  | ok _ =>
    refine next_ok (ends_getSession_bind ?_)
    split
    next =>
      refine (moves_teardown hc _ _ hready).mono ?_
      rintro result v ⟨-, hv, hover⟩ hs calm
      obtain ⟨u, x, y, h⟩ := hround hs (hv.calm calm)
      have hlast : Serving id (fun _ => True) (z.position id []) (v.position id []) :=
        hv.serving ticks List.not_mem_nil (fun _ _ _ => trivial) fun _ _ => trivial
      refine ⟨u, x, y, { h with moves := h.moves.trans hv.below, rest := ⟨h.rest.apart.trans hlast.apart, ?_⟩ }⟩
      intro live
      rw [position, hover] at live
      cases live
    next => exact ends_pure hround

end Session

end LanguageClient
