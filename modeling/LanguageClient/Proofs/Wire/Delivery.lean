import LanguageClient.Proofs.Wire.Silence

/-!
Delivery. What is pushed is written, once and as it was pushed, in the order in which it was pushed; but
for what belongs to the life of a session, which overtakes what is pushed before the session is open.
-/

namespace LanguageClient

/-! What was pushed -/

/-- Whether an item is sent whatever the status. -/
def Deferred.isUrgent (item : Deferred) : Bool := Session.isLifecycle (method item) matches .ok true

def Event.pushed (id : SessionId) : Event → List Deferred
  | .noted session (.queued item) | .noted session (.deferred item) => if session = id then [item] else []
  | _ => []

/-- What a session took to send it, in its order, whether it was deferred or not. -/
def pushed (id : SessionId) (es : List Event) : List Deferred := es.reverse.flatMap (Event.pushed id)

def urgent (items : List Deferred) : List Deferred := items.filter (·.isUrgent)

def patient (items : List Deferred) : List Deferred := items.filter (!·.isUrgent)

/-- A session with which nothing went wrong: it is not leaving, each message was taken by its link, what
was read could be read, the request to open it was answered with nothing that holds but an object, and
there were not too many requests. -/
structure Session.Thrives (id : SessionId) (s : Session) (es : List Event) : Prop where
  live : s.status.isLeaving = false
  accepted : ∀ message, .noted id (.refused message) ∉ es
  linked : ∀ message, .noted id (.unlinked message) ∉ es
  readable : ∀ f, .noted id (.unreadable f) ∉ es
  answered : IsWellAnswered id es
  few : s.correlator.lastId < numberLimit

lemma Steps.thrives {c : Conduct} {id : SessionId} {p q : Position} (h : Steps c id p q)
    (hq : q.session.Thrives id q.events) : p.session.Thrives id p.events where
  live := Steps.live h hq.live
  accepted m hm := hq.accepted m (h.suffix.subset hm)
  linked m hm := hq.linked m (h.suffix.subset hm)
  readable f hf := hq.readable f (h.suffix.subset hf)
  answered := hq.answered.of_suffix h.suffix
  few := Nat.lt_of_le_of_lt h.lastId_le hq.few

namespace Delivery

open Queues
open Utterance (only)

variable {c : Conduct} {id : SessionId} {p q : Position} {s s' : Session} {es es' : List Event}
  {K K' : List Task}

lemma pushed_cons (e : Event) : pushed id (e :: es) = pushed id es ++ e.pushed id := by
  rw [pushed, List.reverse_cons, List.flatMap_append]
  simp [pushed]

def isForeign (id : SessionId) (e : Event) : Bool := isAside id e && (e.pushed id).isEmpty

lemma isAside_of_isForeign {e : Event} (h : isForeign id e) : isAside id e :=
  (Bool.and_eq_true _ _ ▸ h).1

lemma pushed_eq_of_adds (h : Adds (isForeign id) es es') : pushed id es' = pushed id es := by
  obtain ⟨new, rfl, hnew⟩ := h
  induction new with
  | nil => rfl
  | cons e new ih =>
    rw [List.forall_mem_cons, isForeign, Bool.and_eq_true, List.isEmpty_iff] at hnew
    rw [List.cons_append, pushed_cons, hnew.1.2]
    exact (List.append_nil _).trans (ih hnew.2)

lemma urgent_append (items more : List Deferred) : urgent (items ++ more) = urgent items ++ urgent more :=
  List.filter_append ..

lemma patient_append (items more : List Deferred) :
    patient (items ++ more) = patient items ++ patient more :=
  List.filter_append ..

/-! Where what was pushed is to be found -/

/-- Until a session is open it queues what is urgent and defers the rest. Then it queues the notice that
it is open, what was deferred, and whatever else is pushed. -/
structure Posts (id : SessionId) (p : Position) : Prop where
  kept : IsKept id p
  linked : p.session.status = .initializing ∨ p.session.status = .initialized → p.session.link.isSome
  closed : p.session.status = .uninitialized ∨ p.session.status = .initializing →
    enqueued id p.events = urgent (pushed id p.events) ∧
      p.session.deferred = patient (pushed id p.events)
  opened : p.session.status = .initialized → ∃ items earlier later,
    .noted id (.announced items) :: earlier <:+ p.events ∧
      pushed id p.events = pushed id earlier ++ later ∧
        enqueued id p.events = urgent (pushed id earlier) ++
          .inl Session.opened :: (patient (pushed id earlier) ++ later)

lemma Posts.blank (config : Fields) (name : Json) : Posts id ⟨.blank config name, [], []⟩ where
  kept := .blank config name
  linked h := by rcases h with h | h <;> cases h
  closed _ := ⟨rfl, rfl⟩
  opened := nofun

lemma not_closed (hs : s.status = .initialized) :
    ¬ (s.status = .uninitialized ∨ s.status = .initializing) := by
  rintro (h | h) <;> cases hs.symm.trans h

/-- What queues and pushes nothing. -/
lemma Posts.carry (h : Posts id ⟨s, es, K⟩) (kept : IsKept id ⟨s', es', K'⟩)
    (hst : s'.status = s.status) (hl : s.link.isSome → s'.link.isSome) (hd : s'.deferred = s.deferred)
    (hq : enqueued id es' = enqueued id es) (hp : pushed id es' = pushed id es) (hs : es <:+ es') :
    Posts id ⟨s', es', K'⟩ where
  kept := kept
  linked h' := hl (h.linked (hst ▸ h'))
  closed h' := by
    obtain ⟨henqueued, hdeferred⟩ := h.closed (hst ▸ h')
    exact ⟨hp ▸ hq.trans henqueued, hp ▸ hd.trans hdeferred⟩
  opened h' := by
    obtain ⟨items, earlier, later, hannounced, hpushed, henqueued⟩ := h.opened (hst ▸ h')
    exact ⟨items, earlier, later, hannounced.trans hs, hp.trans hpushed, hq.trans henqueued⟩

lemma Posts.aside (h : Posts id ⟨s, es, K⟩) (hst : s'.status = s.status)
    (hl : s.link.isSome → s'.link.isSome) (hd : s'.deferred = s.deferred) (hw : s'.waiting = s.waiting)
    (he : Adds (isForeign id) es es') : Posts id ⟨s', es', K'⟩ := by
  have haside : Adds (isAside id) es es' := he.mono fun _ => isAside_of_isForeign
  refine h.carry (h.kept.aside hw haside) hst hl hd (enqueued_eq_of_adds haside) (pushed_eq_of_adds he) ?_
  obtain ⟨new, rfl, -⟩ := he
  exact List.suffix_append _ _

lemma pushed_sent (server message : Json) : pushed id (.sent id server message :: es) = pushed id es :=
  (pushed_cons _).trans (List.append_nil _)

lemma Posts.tell (h : Posts id ⟨s, es, K⟩) {n : OutgoingNotification}
    {rest : List OutgoingNotification} {result : Except Fault Unit} (queue : s.notifications = n :: rest)
    (sendable : n.IsSendable)
    (writes : Writes id s (Message.notification n.method n.params) es result es')
    (accepted : ∀ message, .noted id (.refused message) ∉ es')
    (linked : ∀ message, .noted id (.unlinked message) ∉ es') :
    Posts id ⟨{ s with notifications := rest }, es', K⟩ := by
  cases writes with
  | refused => exact (accepted _ List.mem_cons_self).elim
  | unlinked => exact (linked _ List.mem_cons_self).elim
  | unencodable _ encodes => exact (encodes sendable).elim
  | sent =>
    exact h.carry (h.kept.tell queue) rfl (fun hl => hl) rfl (enqueued_sent _ _) (pushed_sent _ _)
      (List.suffix_cons _ _)

lemma Posts.ask (h : Posts id ⟨s, es, K⟩) {r : OutgoingRequest} {rest : List OutgoingRequest}
    {number : Json} {t n : Nat} {p : Pending Handler} {result : Except Fault Unit}
    (queue : s.requests = r :: rest) (sendable : (Message.request number r.method r.params).Encodes)
    (writes : Writes id s (Message.request number r.method r.params)
      (.dealt id (.registered t n) :: es) result es')
    (accepted : ∀ message, .noted id (.refused message) ∉ es')
    (linked : ∀ message, .noted id (.unlinked message) ∉ es') :
    Posts id ⟨{ s with requests := rest, correlator := s.correlator.advance.register p }, es', K⟩ := by
  have hbefore : Posts id ⟨s, .dealt id (.registered t n) :: es, K⟩ :=
    h.aside rfl (fun hl => hl) rfl rfl (.single rfl)
  cases writes with
  | refused => exact (accepted _ List.mem_cons_self).elim
  | unlinked => exact (linked _ List.mem_cons_self).elim
  | unencodable _ encodes => exact (encodes sendable).elim
  | sent =>
    exact hbefore.carry (hbefore.kept.ask queue) rfl (fun hl => hl) rfl (enqueued_sent _ _)
      (pushed_sent _ _) (List.suffix_cons _ _)

lemma isForeign_sent_of_isReply {m : Fields} {reply : Json} (h : Message.IsReply m reply) (server : Json) :
    isForeign id (.sent id server reply) := by
  rw [isForeign, isAside_sent_of_isReply h]
  rfl

/-! Pushing -/

lemma pushed_deferred (item : Deferred) :
    pushed id (.noted id (.deferred item) :: es) = pushed id es ++ [item] := by
  rw [pushed_cons, Event.pushed, if_pos rfl]

lemma pushed_queued (item : Deferred) :
    pushed id (.noted id (.queued item) :: es) = pushed id es ++ [item] := by
  rw [pushed_cons, Event.pushed, if_pos rfl]

lemma Posts.defer (h : Posts id ⟨s, es, K⟩) {item : Deferred} (hi : item.isUrgent = false)
    (hs : s.status = .uninitialized ∨ s.status = .initializing) :
    Posts id ⟨{ s with deferred := s.deferred ++ [item] }, .noted id (.deferred item) :: es, K⟩ where
  kept := h.kept.aside rfl (.single rfl)
  linked := h.linked
  closed _ := by
    obtain ⟨henqueued, hdeferred⟩ := h.closed hs
    have hq : enqueued id (.noted id (.deferred item) :: es) = enqueued id es :=
      (enqueued_cons _).trans (List.append_nil _)
    change enqueued id _ = urgent (pushed id _) ∧ s.deferred ++ [item] = patient (pushed id _)
    rw [hq, pushed_deferred, urgent_append, patient_append, ← henqueued, ← hdeferred]
    simp [urgent, patient, hi]
  opened h' := (not_closed h' hs).elim

/-- What is urgent is queued at once. -/
lemma Posts.urge (h : Posts id ⟨s, es, K⟩) {item : Deferred} (hi : item.isUrgent)
    (hs : s.status = .uninitialized ∨ s.status = .initializing)
    (hs' : s'.status = .uninitialized ∨ s'.status = .initializing)
    (hl : s'.status = .initializing → s'.link.isSome) (hd : s'.deferred = s.deferred)
    (hw : ∀ b, s'.waiting b = s.waiting b ++ only b ([item].map .ofDeferred)) :
    Posts id ⟨s', .noted id (.queued item) :: es, K⟩ where
  kept := h.kept.enqueue (enqueued_queued item) (.single rfl) hw
  linked h' := hl (h'.resolve_right fun h' => not_closed h' hs')
  closed _ := by
    obtain ⟨henqueued, hdeferred⟩ := h.closed hs
    change enqueued id _ = urgent (pushed id _) ∧ s'.deferred = patient (pushed id _)
    rw [enqueued_queued, pushed_queued, urgent_append, patient_append, ← henqueued, hd, ← hdeferred]
    simp [urgent, patient, hi]
  opened h' := (not_closed h' hs').elim

lemma Posts.queue (h : Posts id ⟨s, es, K⟩) (item : Deferred) (hs : s.status = .initialized)
    (hst : s'.status = s.status) (hl : s'.link = s.link)
    (hw : ∀ b, s'.waiting b = s.waiting b ++ only b ([item].map .ofDeferred)) :
    Posts id ⟨s', .noted id (.queued item) :: es, K⟩ where
  kept := h.kept.enqueue (enqueued_queued item) (.single rfl) hw
  linked _ := by
    change s'.link.isSome
    rw [hl]
    exact h.linked (.inr hs)
  closed h' := (not_closed (hst.trans hs) h').elim
  opened _ := by
    obtain ⟨items, earlier, later, hannounced, hpushed, henqueued⟩ := h.opened hs
    refine ⟨items, earlier, later ++ [item], hannounced.trans (List.suffix_cons _ _), ?_, ?_⟩
    · rw [pushed_queued, hpushed, List.append_assoc]
    · rw [enqueued_queued, henqueued]
      simp

/-- What was deferred is queued behind the notice that the session is open. -/
lemma Posts.welcome (h : Posts id ⟨s, es, K⟩) (capabilities serverInfo : Json)
    (hs : s.status = .initializing) : Posts id
      ⟨s.welcome capabilities serverInfo, .noted id (.announced s.deferred) :: es, K'⟩ where
  kept := h.kept.enqueue (enqueued_announced s.deferred) (.single rfl) (waiting_welcome _ _)
  linked _ := h.linked (.inl hs)
  closed h' := by rcases h' with h' | h' <;> cases h'
  opened _ := by
    obtain ⟨henqueued, hdeferred⟩ := h.closed (.inr hs)
    refine ⟨s.deferred, es, [], List.suffix_refl _, ?_, ?_⟩
    · exact pushed_cons _
    · rw [enqueued_announced, henqueued, hdeferred, List.append_nil]

/-! Steps -/

lemma Step.posts (h : Step c id p q) (sends : c.Sends p.session.config) (hs : p.Sound c id)
    (hq : q.session.Thrives id q.events) (hp : Posts id p) : Posts id q := by
  cases h
  -- Opening
  case introduced s es K rootUri rootPath name version callback status linked allowed obeys path =>
    let params := s.openingParams rootUri rootPath name version
    have hintroduced : Posts id ⟨s.introduce params callback,
        .noted id (.queued (.inr (s.openingRequest params callback))) :: es, K⟩ :=
      hp.urge rfl (.inl status) (.inr rfl) (fun _ => linked) rfl (waiting_introduce _ _)
    exact hintroduced.aside rfl (fun hl => hl) rfl rfl (.single rfl)
  case deferred s es K a item documents allowed obeys asked tracks status lifecycle =>
    have hdeferred := hp.defer (by rw [Deferred.isUrgent, lifecycle]) status
    refine hdeferred.aside ?_ (fun hl => ?_) ?_ ?_ ((Adds.refl _).acceptance (fun _ _ => rfl) item)
    all_goals cases item <;> first | rfl | exact hl
  case queued s es K a item documents allowed obeys asked tracks status =>
    have hqueued : Posts id ⟨(s.queue item).count item, .noted id (.queued item) :: es, K⟩ := by
      have hst : ((s.queue item).count item).status = s.status := by cases item <;> rfl
      have hlink : ((s.queue item).count item).link = s.link := by cases item <;> rfl
      by_cases hopen : s.status = .initialized
      · exact hp.queue item hopen hst hlink (waiting_queue item)
      · obtain ⟨hlive, lifecycle⟩ := status.resolve_left hopen
        have hclosed : s.status = .uninitialized ∨ s.status = .initializing := by
          cases hs : s.status <;> simp_all [Status.isLeaving]
        refine hp.urge (by rw [Deferred.isUrgent, lifecycle]) hclosed (hst ▸ hclosed) (fun h => ?_) ?_
          (waiting_queue item)
        · rw [hlink]
          exact hp.linked (.inl (hst ▸ h))
        · cases item <;> rfl
    exact hqueued.aside rfl (fun hl => hl) rfl rfl ((Adds.refl _).acceptance (fun _ _ => rfl) item)
  -- Sending
  case notified queue free writes =>
    have hsendable := hs.session.sendsNotifications sends _ (queue ▸ List.mem_cons_self)
    exact hp.tell queue hsendable writes hq.accepted hq.linked
  case requested queue free first entry writes =>
    have hsendable := hs.session.sendsRequests sends _ (queue ▸ List.mem_cons_self)
    exact hp.ask queue (hsendable.encodes _ hq.few) writes hq.accepted hq.linked
  case dropped s es K r rest now f queue free entry =>
    have hsendable := hs.session.sendsRequests sends _ (queue ▸ List.mem_cons_self)
    exact (Session.entry_ne_error hsendable s.nextNumber now f entry).elim
  case replied kind isReply writes =>
    exact hp.aside rfl (fun hl => hl) rfl rfl (writes.adds (isForeign_sent_of_isReply isReply _) rfl rfl)
  -- Answering
  case stuck holds result =>
    exact (hs.not_isWellAnswered List.mem_cons_self holds result hq.answered).elim
  case welcomed status result => exact hp.welcome _ _ status
  -- Ending
  case left | parted | saidGoodbye | unheardGoodbye | ended => cases hq.live
  case overtaken status => cases (Status.isLeaving_of_or (.inr status)).symm.trans hq.live
  case abandoned status encodes => cases (Status.isLeaving_of_or (.inl status)).symm.trans hq.live
  case buried status settled => cases (Status.isLeaving_of_or (.inr status)).symm.trans hq.live
  case documented status fewer => cases status.symm.trans hq.live
  -- Everything else
  case launched => exact hp.aside rfl (fun _ => rfl) rfl rfl (.single rfl)
  case relinked => exact hp.aside rfl (fun _ => rfl) rfl rfl (.refl _)
  case took s es t K m reader next running =>
    obtain ⟨responses, errors, he⟩ := Session.exists_enqueue_eq { s with reader } m
    rw [he]
    exact hp.aside rfl (fun hl => hl) rfl rfl (.single rfl)
  all_goals
    exact hp.aside rfl (fun hl => hl) rfl rfl (by first | exact .refl _ | exact .single rfl)

lemma Steps.posts (h : Steps c id p q) (sends : c.Sends p.session.config) (hs : p.Sound c id)
    (hq : q.session.Thrives id q.events) (hp : Posts id p) : Posts id q := by
  induction h with
  | refl => exact hp
  | tail hr h ih =>
    exact Step.posts h ((Steps.config_eq hr).symm ▸ sends) (Steps.sound_position hr hs) hq
      (ih (Steps.thrives (.single h) hq))

end Delivery

open Utterance (only) in
/-- What was pushed was written in its order, notifications among notifications and requests among
requests, or waits; but before the session is open what is patient is deferred. What is urgent and was
pushed before the session was open comes before the notice that it is open, and what was deferred comes
after it. -/
structure Session.Delivers (id : SessionId) (s : Session) (es : List Event) : Prop where
  closed : s.status = .uninitialized ∨ s.status = .initializing →
    s.deferred = patient (pushed id es) ∧ ∀ b, only b (uttered id es) ++ s.waiting b =
      only b ((urgent (pushed id es)).map Utterance.ofDeferred)
  opened : s.status = .initialized → ∃ items earlier later,
    .noted id (.announced items) :: earlier <:+ es ∧ pushed id es = pushed id earlier ++ later ∧
      ∀ b, only b (uttered id es) ++ s.waiting b = only b ((urgent (pushed id earlier) ++
        .inl Session.opened :: (patient (pushed id earlier) ++ later)).map Utterance.ofDeferred)

namespace Delivery

open Act World Queues
open Utterance (only)

variable {c : Conduct} {id : SessionId} {p : Position} {v w : World}

lemma Posts.delivers (h : Posts id p) : p.session.Delivers id p.events where
  closed hs := by
    obtain ⟨henqueued, hdeferred⟩ := h.closed hs
    exact ⟨hdeferred, fun b => henqueued ▸ h.kept b⟩
  opened hs := by
    obtain ⟨items, earlier, later, hannounced, hpushed, henqueued⟩ := h.opened hs
    exact ⟨items, earlier, later, hannounced, hpushed, fun b => henqueued ▸ h.kept b⟩

lemma posts_of_reached (hw : w.Reached c id) (sends : c.Sends (w.session id).config)
    (thrives : (w.session id).Thrives id (w.story id)) : Posts id (w.position id []) := by
  obtain ⟨config, name, K, hK⟩ := hw.steps
  have hposts : Posts id (w.position id K) :=
    Steps.posts hK ((Steps.config_eq hK).symm ▸ sends) (.blank _ _) thrives (.blank _ _)
  exact ⟨hposts.kept, hposts.linked, hposts.closed, hposts.opened⟩

lemma ends_put_pushed (item : Deferred) (hw : id < w.sessions.length) :
    Ends (Session.put id item (Deferred.method item)) w fun r v =>
      pushed id (v.story id) = pushed id (w.story id) ++ if r matches .ok true then [item] else [] := by
  have hacceptance : ∀ es, pushed id (Deferred.acceptance id item ++ es) = pushed id es := fun es =>
    pushed_eq_of_adds ((Adds.refl es).acceptance (fun _ _ => rfl) item)
  refine (Session.ends_put_given item hw).mono fun r v hv => ?_
  cases hv with
  | dropped leaving alike => rw [alike.stories id]; exact (List.append_nil _).symm
  | failed => exact (List.append_nil _).symm
  | deferred status lifecycle becomes =>
    rw [becomes.story, hacceptance]
    exact pushed_deferred item
  | queued status becomes =>
    rw [becomes.story, hacceptance]
    exact pushed_queued item

/-- What waited when a tick begins is written in its course. -/
lemma ends_tick_written (depth : Nat) (hw : w.Reached c id) (sends : c.Sends (w.session id).config)
    (hf : (w.session id).fault = none) (hs : (w.session id).status = .initialized) :
    Ends (Session.tick (callWithin depth) id) w fun _ v => (v.session id).Thrives id (v.story id) →
      Posts id (w.position id []) → ∀ b,
        only b (uttered id (w.story id)) ++ (w.session id).waiting b <+: only b (uttered id (v.story id)) := by
  have hrunning : (w.session id).status ≠ .terminated := by rw [hs]; nofun
  by_cases hl : (w.session id).link.isSome
  · refine (Session.ends_tick_exchanges (abides_callWithin depth) (Level.room_host c _) hw.ready hf hrunning
      hl).mono ?_
    intro result v hexchanged thrives posts b
    obtain ⟨u, hu, hsuffix, hlegible⟩ := hexchanged sends ⟨thrives.readable, thrives.few⟩
    have hsent : Steps c id (w.position id []) (u.position id [.ticking]) :=
      .head (.ticked hrunning hl) (hu.moves.steps [] rfl)
    have hthrives : (u.session id).Thrives id (u.story id) := {
      live := by rw [hu.status, hs]; rfl
      accepted := fun m hm => thrives.accepted m (hsuffix.subset hm)
      linked := fun m hm => thrives.linked m (hsuffix.subset hm)
      readable := hlegible.readable
      answered := thrives.answered.of_suffix hsuffix
      few := hlegible.few }
    have hkept : only b (uttered id (u.story id)) ++ (u.session id).waiting b =
        only b ((enqueued id (u.story id)).map .ofDeferred) :=
      (Steps.posts hsent sends hw.position_sound hthrives posts).kept b
    rw [Queues.Exchanges.waiting_eq hu, List.append_nil, enqueued_eq_of_exchange hu.exchanged] at hkept
    have hbefore : only b (uttered id (w.story id)) ++ (w.session id).waiting b =
        only b ((enqueued id (w.story id)).map .ofDeferred) := posts.kept b
    rw [hbefore, ← hkept]
    exact (uttered_prefix_of_suffix hsuffix).filter _
  · -- An open session has a link.
    exact Ends.mono (Q := fun _ _ => True) trivial fun _ _ _ _ posts => (hl (posts.linked (.inr hs))).elim

/-- What is written in the course of a tick waited when it began, if callbacks leave it to the host to
speak to servers. -/
lemma ends_tick_waited (depth : Nat) (hw : w.Reached c id) (sends : c.Sends (w.session id).config)
    (hc : c.LeavesSpeaking) :
    Ends (Session.tick (callWithin depth) id) w fun _ v => (v.session id).Thrives id (v.story id) →
      Posts id (w.position id []) → ∀ b,
        only b (uttered id (v.story id)) <+: only b (uttered id (w.story id)) ++ (w.session id).waiting b := by
  refine (Session.ends_tick_hushed (abides_callWithin depth) (hushes_callWithin hc depth) hw.ready).mono ?_
  intro result v hhushed thrives posts b
  obtain ⟨u, K, hexchanged, hsent, hlater, hsilent⟩ := hhushed thrives.live
  have hkept : only b (uttered id (u.story id)) ++ (u.session id).waiting b =
      only b ((enqueued id (u.story id)).map .ofDeferred) :=
    (Steps.posts hsent sends hw.position_sound (Steps.thrives hlater thrives) posts).kept b
  have hbefore : only b (uttered id (w.story id)) ++ (w.session id).waiting b =
      only b ((enqueued id (w.story id)).map .ofDeferred) := posts.kept b
  rw [enqueued_eq_of_exchange hexchanged, ← hbefore] at hkept
  rw [uttered_eq_of_adds (hsilent id), ← hkept]
  exact List.prefix_append _ _

end Delivery

open Act Delivery
open Utterance (only)

/-- However a session got where it is: it keeps what it accepts, and nothing that it was given is lost,
repeated or changed. A tick that finds the session open writes all that waits; and if callbacks leave it
to the host to speak to servers, it writes nothing else. -/
theorem delivers_of_reached {c : Conduct} {w : World} {id : SessionId} (hw : w.Reached c id)
    (sends : c.Sends (w.session id).config) :
    (∀ item, Ends (Session.put id item (Deferred.method item)) w fun r v =>
      pushed id (v.story id) = pushed id (w.story id) ++ if r matches .ok true then [item] else []) ∧
    ((w.session id).Thrives id (w.story id) → (w.session id).Delivers id (w.story id)) ∧
    ∀ depth, (w.session id).fault = none →
      Ends (Session.tick (callWithin depth) id) w fun _ v => (v.session id).Thrives id (v.story id) →
        ((w.session id).status = .initialized → ∀ b, only b (uttered id (w.story id)) ++
          (w.session id).waiting b <+: only b (uttered id (v.story id))) ∧
        (c.LeavesSpeaking → ∀ b, only b (uttered id (v.story id)) <+:
          only b (uttered id (w.story id)) ++ (w.session id).waiting b) := by
  refine ⟨fun item => ends_put_pushed item hw.ready.lt, fun thrives => ?_, fun depth hf => ?_⟩
  · exact (posts_of_reached hw sends thrives).delivers
  have hmoves := (Session.ends_tick (abides_callWithin depth) (Level.room_host c _) hw.ready).mono fun _ _ h => h.1
  have hwritten : Ends (Session.tick (callWithin depth) id) w fun _ v => (w.session id).status = .initialized →
      (v.session id).Thrives id (v.story id) → Posts id (w.position id []) → ∀ b,
        only b (uttered id (w.story id)) ++ (w.session id).waiting b <+: only b (uttered id (v.story id)) :=
    fun hs => ends_tick_written depth hw sends hf hs
  have hwaited : Ends (Session.tick (callWithin depth) id) w fun _ v => c.LeavesSpeaking →
      (v.session id).Thrives id (v.story id) → Posts id (w.position id []) → ∀ b,
        only b (uttered id (v.story id)) <+: only b (uttered id (w.story id)) ++ (w.session id).waiting b :=
    fun hc => ends_tick_waited depth hw sends hc
  refine ((hmoves.and hwritten).and hwaited).mono ?_
  rintro result v ⟨⟨hv, hwritten⟩, hwaited⟩ thrives
  have posts := posts_of_reached hw sends (Steps.thrives (hv.steps [] rfl) thrives)
  exact ⟨fun hs => hwritten hs thrives posts, fun hc => hwaited hc thrives posts⟩

/-! A host that pushes what is plain, and whose callbacks leave it to the host to speak -/

def Conduct.posting : Conduct where
  host a := a.isPlain
  callback a := a.isPlain && !a.speaks
  hostIsOutside a h := by cases a <;> first | rfl | cases h
  callbackIsOutside a h := by cases a <;> first | rfl | cases h

lemma Conduct.leavesSpeaking_posting : posting.LeavesSpeaking := fun a h => by
  change (a.isPlain && !a.speaks) = false
  rw [h, Bool.not_true, Bool.and_false]

lemma Conduct.isPlain_of_posting {a : SessionAction} (h : posting.allows a) : a.isPlain := by
  rcases h with h | h
  · exact h
  · exact (Bool.and_eq_true _ _ ▸ h).1

/-- An event after which a session still thrives. -/
def Event.isHarmless : Event → Bool
  | .noted _ (.refused _) | .noted _ (.unlinked _) | .noted _ (.unreadable _) => false
  | e => e.isSmooth

lemma Session.thrives_of_all {id : SessionId} {s : Session} {es : List Event}
    (hs : s.status.isLeaving = false) (h : es.all Event.isHarmless)
    (hn : s.correlator.lastId < numberLimit) : s.Thrives id es := by
  have hall := List.all_eq_true.mp h
  have hsmooth : es.all Event.isSmooth := List.all_eq_true.mpr fun e he => by
    have hharmless := hall e he
    unfold Event.isHarmless at hharmless
    split at hharmless <;> first | exact hharmless | cases hharmless
  have hsmooth : IsSmooth id es := isSmooth_of_all hsmooth
  exact ⟨hs, fun m hm => (by cases hall _ hm), fun m hm => (by cases hall _ hm),
    fun f hf => (by cases hall _ hf), hsmooth.answered, hn⟩

/-- A request is answered, and its callback pushes a notification, which waits for the next tick. -/
theorem delivers_of_reached_callback :
    let done := some (Callback.mk "done" [.session .null (.pushNotification "changed" .null)] none)
    let actions : List Action :=
      [.session .null (.pushNotification "saved" .null), .session .null (.pushNotification "exit" .null),
        .session .null (.pushRequest "hover" .null done .null),
        .session .null (.handshake .null "editor" "1" none), .session .null .tick,
        .link .null (.write [Message.response (.int 1) (.object [])]), .session .null .tick,
        .session .null .tick, .link .null (.write [Message.response (.int 2) .null])]
    (World.serving "server").IsNew ∧ actions.all (Conduct.posting.admits .host) ∧
      ∃ o ∈ outcomes (.serving "server") actions,
        Act.Ends (Session.put 0 (.inl ⟨"opened", .null⟩) "opened") o.world (fun _ v =>
          pushed 0 (v.story 0) = pushed 0 (o.world.story 0) ++ [.inl ⟨"opened", .null⟩]) ∧
        (o.world.session 0).Delivers 0 (o.world.story 0) ∧
        Act.Ends (Session.tick (callWithin nestingLimit) 0) o.world fun _ v =>
          (pushed 0 (v.story 0)).map (·.method.key?) =
            ["saved", "exit", "hover", "initialize", "changed"].map (some ∘ Json.Key.text) ∧
          (uttered 0 (v.story 0)).map (·.method.key?) =
            ["exit", "initialize", "initialized", "saved", "hover"].map (some ∘ Json.Key.text) ∧
          ∀ b, only b (uttered 0 (o.world.story 0)) ++ (o.world.session 0).waiting b =
            only b (uttered 0 (v.story 0)) := by
  intro done actions
  have hw : (World.serving "server").IsNew := World.isNew_serving "server"
  have ha : actions.all (Conduct.posting.admits .host) := by decide +kernel
  have hrun : ∃ o ∈ outcomes (.serving "server") actions,
      (o.world.session 0).status = .initialized ∧ (o.world.session 0).fault.isNone ∧
      (o.world.story 0).all Event.isHarmless ∧ (o.world.session 0).correlator.lastId < numberLimit ∧
      (((Session.put 0 (.inl ⟨"opened", .null⟩) "opened").run o.world).1 matches .ok true) ∧
      let v := ((Session.tick (callWithin nestingLimit) 0).run o.world).2
      (pushed 0 (v.story 0)).map (·.method.key?) =
        ["saved", "exit", "hover", "initialize", "changed"].map (some ∘ Json.Key.text) ∧
      (uttered 0 (v.story 0)).map (·.method.key?) =
        ["exit", "initialize", "initialized", "saved", "hover"].map (some ∘ Json.Key.text) ∧
      (v.session 0).status.isLeaving = false ∧ (v.story 0).all Event.isHarmless ∧
      (v.session 0).correlator.lastId < numberLimit := by
    decide +kernel
  obtain ⟨o, ho, hs, hf, hharmless, hfew, hput, hpushed, huttered, hlive, hharmless', hfew'⟩ := hrun
  have hreached : o.world.Reached .posting 0 := World.reached_of_mem_outcomes hw ha ho Nat.zero_lt_one
  have hconfig : (o.world.session 0).config = ((World.serving "server").session 0).config :=
    (steps_of_mem_outcomes hw ha ho 0).config_eq
  obtain ⟨hputs, hdelivers, hticks⟩ := delivers_of_reached hreached
    (Conduct.sends_of_isPlain (fun _ ha _ => Conduct.isPlain_of_posting ha) (by rw [hconfig]; rfl)
      (by rw [hconfig]; rfl))
  refine ⟨hw, ha, o, ho, ?_, hdelivers (Session.thrives_of_all (by rw [hs]; rfl) hharmless hfew),
    hpushed, huttered, fun b => ?_⟩
  · exact (hputs (.inl ⟨"opened", .null⟩)).trans
      (congrArg (pushed 0 (o.world.story 0) ++ ·) (if_pos hput))
  · obtain ⟨hwritten, hwaited⟩ := hticks nestingLimit (Option.isNone_iff_eq_none.mp hf)
      (Session.thrives_of_all hlive hharmless' hfew')
    exact (hwritten hs b).eq_of_length_le (hwaited Conduct.leavesSpeaking_posting b).length_le

/-- A notification to exit is pushed after another one, and written before it. -/
theorem not_sublist_of_mem_outcomes_exit :
    let actions : List Action :=
      [.session .null (.pushNotification "saved" .null), .session .null (.pushNotification "exit" .null),
        .session .null (.handshake .null "editor" "1" none), .session .null .tick,
        .link .null (.write [Message.response (.int 1) (.object [])]), .session .null .tick,
        .session .null .tick]
    (World.serving "server").IsNew ∧ actions.all (Conduct.posting.admits .host) ∧
      ∃ o ∈ outcomes (.serving "server") actions, (o.world.session 0).status = .initialized ∧
        (o.world.session 0).Thrives 0 (o.world.story 0) ∧ (∀ b, (o.world.session 0).waiting b = []) ∧
        ¬ (only false ((pushed 0 (o.world.story 0)).map Utterance.ofDeferred)).Sublist
          (only false (uttered 0 (o.world.story 0))) := by
  intro actions
  refine ⟨World.isNew_serving "server", by decide +kernel, ?_⟩
  have hrun : ∃ o ∈ outcomes (.serving "server") actions, (o.world.session 0).status = .initialized ∧
      (o.world.story 0).all Event.isHarmless ∧ (o.world.session 0).correlator.lastId < numberLimit ∧
      (∀ b, ((o.world.session 0).waiting b).isEmpty) ∧
      ¬ ((only false ((pushed 0 (o.world.story 0)).map Utterance.ofDeferred)).map
        (·.method.key?)).Sublist ((only false (uttered 0 (o.world.story 0))).map (·.method.key?)) := by
    decide +kernel
  obtain ⟨o, ho, hs, hharmless, hfew, hempty, hnot⟩ := hrun
  exact ⟨o, ho, hs, Session.thrives_of_all (by rw [hs]; rfl) hharmless hfew,
    fun b => List.isEmpty_iff.mp (hempty b), fun h => hnot (h.map _)⟩

end LanguageClient
