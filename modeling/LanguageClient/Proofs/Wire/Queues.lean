import LanguageClient.Proofs.Steps.Answering
import LanguageClient.Proofs.Steps.Exchange
import LanguageClient.Proofs.Steps.Passage
import LanguageClient.Proofs.Steps.Runs
import LanguageClient.Proofs.Wire.Calls

/-!
Queues on the wire. What is queued is written in the order in which it was queued, notifications among
notifications and requests among requests, and no request is written while a notification waits.
-/

namespace LanguageClient

open Call (Kind)

/-- What a server is told, or asked: a method with what belongs to it. -/
structure Utterance where
  isRequest : Bool
  method : Json
  params : Json

namespace Utterance

/-- What a message says; nothing if it is a reply. -/
def ofMessage? : Json → Option Utterance
  | .object fields =>
    (Fields.get? fields "method").map fun method =>
      ⟨(Fields.get? fields "id").isSome, method, Fields.getD fields "params" .null⟩
  | _ => none

def ofNotification (n : OutgoingNotification) : Utterance := ⟨false, n.method, n.params⟩

def ofRequest (r : OutgoingRequest) : Utterance := ⟨true, r.method, r.params⟩

def ofDeferred : Deferred → Utterance
  | .inl n => ofNotification n
  | .inr r => ofRequest r

lemma ofMessage?_reply {m : Fields} {reply : Json} (h : Message.IsReply m reply) :
    ofMessage? reply = none := by
  cases h <;> rfl

/-- What is said in the one way or in the other: asked, or told. -/
def only (b : Bool) (us : List Utterance) : List Utterance := us.filter (·.isRequest = b)

variable {b : Bool} {us vs : List Utterance}

@[simp]
lemma only_nil : only b [] = [] := rfl

@[simp]
lemma only_append : only b (us ++ vs) = only b us ++ only b vs := List.filter_append ..

lemma only_false_deferred (items : List Deferred) :
    only false (items.map ofDeferred) = (items.filterMap Sum.getLeft?).map ofNotification := by
  induction items with
  | nil => rfl
  | cons item rest ih =>
    cases item with
    | inl n => exact congrArg (ofNotification n :: ·) ih
    | inr r => exact ih

lemma only_true_deferred (items : List Deferred) :
    only true (items.map ofDeferred) = (items.filterMap Sum.getRight?).map ofRequest := by
  induction items with
  | nil => rfl
  | cons item rest ih =>
    cases item with
    | inl n => exact ih
    | inr r => exact congrArg (ofRequest r :: ·) ih

end Utterance

/-! What was written, and what was queued -/

def Event.utterance? (id : SessionId) : Event → Option Utterance
  | .sent session _ message => if session = id then Utterance.ofMessage? message else none
  | _ => none

/-- What the server of a session was told and asked, in its order. -/
def uttered (id : SessionId) (es : List Event) : List Utterance :=
  (es.filterMap (Event.utterance? id)).reverse

/-- What is queued in an event. With the notice that the session is open comes what was deferred. -/
def Event.queued (id : SessionId) : Event → List Deferred
  | .noted session (.queued item) => if session = id then [item] else []
  | .noted session (.announced deferred) =>
    if session = id then .inl Session.opened :: deferred else []
  | _ => []

/-- What was ever queued, in its order. -/
def enqueued (id : SessionId) (es : List Event) : List Deferred :=
  es.reverse.flatMap (Event.queued id)

/-- What waits in the queue of the requests, or of the notifications. -/
def Session.waiting (s : Session) : Bool → List Utterance
  | false => s.notifications.map .ofNotification
  | true => s.requests.map .ofRequest

/-- A host that leaves the life of a session to the client, and sends its requests in the course of
ticks. -/
structure Conduct.TakesTurns (c : Conduct) : Prop where
  requests : ¬ c.allows .sendRequests
  items : ∀ a, c.allows a → ∀ (s : Session) item, a.item? s = some item →
    Kind.ofMethod (Deferred.method item) = .other

lemma Conduct.TakesTurns.ofMethod_eq {c : Conduct} (hc : c.TakesTurns) {a : SessionAction} {s : Session}
    {item : Deferred} (ha : c.allows a) (hi : a.Asks s item) :
    Kind.ofMethod (Deferred.method item) = .other := by
  obtain ⟨item', hi', hmethod, -⟩ := hi.exists_item
  exact hmethod ▸ hc.items a ha s item' hi'

namespace Queues

open Utterance (only)

variable {c : Conduct} {id : SessionId} {p q : Position} {s s' : Session} {es es' : List Event}
  {K K' : List Task}

lemma uttered_cons (e : Event) : uttered id (e :: es) = uttered id es ++ (e.utterance? id).toList := by
  cases he : e.utterance? id with
  | none =>
    rw [uttered, List.filterMap_cons_none he]
    exact (List.append_nil _).symm
  | some u =>
    rw [uttered, List.filterMap_cons_some he]
    exact List.reverse_cons

lemma enqueued_cons (e : Event) : enqueued id (e :: es) = enqueued id es ++ e.queued id := by
  rw [enqueued, List.reverse_cons, List.flatMap_append]
  simp [enqueued]

lemma uttered_prefix_of_suffix (h : es <:+ es') : uttered id es <+: uttered id es' :=
  List.reverse_prefix.mpr (h.filterMap _)

lemma uttered_sent (server message : Json) : uttered id (.sent id server message :: es) =
    uttered id es ++ (Utterance.ofMessage? message).toList := by
  rw [uttered_cons, Event.utterance?, if_pos rfl]

lemma enqueued_sent (server message : Json) :
    enqueued id (.sent id server message :: es) = enqueued id es := by
  rw [enqueued_cons]
  exact List.append_nil _

lemma enqueued_queued (item : Deferred) :
    enqueued id (.noted id (.queued item) :: es) = enqueued id es ++ [item] := by
  rw [enqueued_cons, Event.queued, if_pos rfl]

lemma enqueued_announced (items : List Deferred) : enqueued id (.noted id (.announced items) :: es) =
    enqueued id es ++ .inl Session.opened :: items := by
  rw [enqueued_cons, Event.queued, if_pos rfl]

lemma enqueued_acceptance (item : Deferred) :
    enqueued id (Deferred.acceptance id item ++ es) = enqueued id es := by
  cases item with
  | inl n => rfl
  | inr r =>
    change enqueued id (.dealt id _ :: es) = _
    rw [enqueued_cons]
    exact List.append_nil _

/-- Nothing is said in an event, and nothing is queued. -/
def isAside (id : SessionId) (e : Event) : Bool := (e.utterance? id).isNone && (e.queued id).isEmpty

def isSilent (id : SessionId) (e : Event) : Bool := (e.utterance? id).isNone

lemma isSilent_of_isAside {e : Event} (h : isAside id e) : isSilent id e :=
  (Bool.and_eq_true _ _ ▸ h).1

lemma adds_isSilent_of_quietly (h : Quietly es es') : Adds (isSilent id) es es' := by
  refine Adds.mono h fun e he => ?_
  cases e <;> first | rfl | cases he

lemma uttered_eq_of_adds (h : Adds (isSilent id) es es') : uttered id es' = uttered id es := by
  obtain ⟨new, rfl, hnew⟩ := h
  induction new with
  | nil => rfl
  | cons e new ih =>
    rw [List.forall_mem_cons, isSilent, Option.isNone_iff_eq_none] at hnew
    rw [List.cons_append, uttered_cons, hnew.1]
    exact (List.append_nil _).trans (ih hnew.2)

lemma enqueued_eq_of_forall {new : List Event} (h : ∀ e ∈ new, e.queued id = []) :
    enqueued id (new ++ es) = enqueued id es := by
  induction new with
  | nil => rfl
  | cons e new ih =>
    rw [List.forall_mem_cons] at h
    rw [List.cons_append, enqueued_cons, h.1]
    exact (List.append_nil _).trans (ih h.2)

lemma enqueued_eq_of_adds (h : Adds (isAside id) es es') : enqueued id es' = enqueued id es := by
  obtain ⟨new, rfl, hnew⟩ := h
  refine enqueued_eq_of_forall fun e he => ?_
  have haside := hnew e he
  rw [isAside, Bool.and_eq_true, List.isEmpty_iff] at haside
  exact haside.2

lemma enqueued_eq_of_exchange (h : Adds Event.isExchange es es') :
    enqueued id es' = enqueued id es := by
  obtain ⟨new, rfl, hnew⟩ := h
  refine enqueued_eq_of_forall fun e he => ?_
  have hexchange := hnew e he
  cases e with
  | noted _ n => cases n <;> first | rfl | cases hexchange
  | _ => rfl

lemma enqueued_prefix_of_suffix (h : es <:+ es') : enqueued id es <+: enqueued id es' := by
  obtain ⟨new, rfl⟩ := h
  induction new with
  | nil => exact List.prefix_refl _
  | cons e new ih =>
    rw [List.cons_append, enqueued_cons]
    exact ih.trans (List.prefix_append _ _)

/-- What was said was written, after what was said before. -/
lemma exists_sent_of_uttered {us vs : List Utterance} {u : Utterance}
    (h : uttered id es = us ++ u :: vs) : ∃ server message earlier,
      .sent id server message :: earlier <:+ es ∧ Utterance.ofMessage? message = some u ∧
        uttered id earlier = us := by
  induction es generalizing vs with
  | nil => exact (List.append_ne_nil_of_right_ne_nil us (List.cons_ne_nil u vs) h.symm).elim
  | cons e es ih =>
    have hlater : ∀ {vs}, uttered id es = us ++ u :: vs → ∃ server message earlier,
        .sent id server message :: earlier <:+ e :: es ∧ Utterance.ofMessage? message = some u ∧
          uttered id earlier = us := fun h => by
      obtain ⟨server, message, earlier, hs, hm, hu⟩ := ih h
      exact ⟨server, message, earlier, hs.trans (List.suffix_cons _ _), hm, hu⟩
    rw [uttered_cons] at h
    cases he : e.utterance? id with
    | none =>
      rw [he, Option.toList_none, List.append_nil] at h
      exact hlater h
    | some x =>
      rw [he, Option.toList_some] at h
      rcases List.eq_nil_or_concat vs with rfl | ⟨vs, y, rfl⟩
      · -- It was said last.
        obtain ⟨hus, hx⟩ := List.append_inj' h rfl
        obtain rfl := (List.cons.inj hx).1
        cases e with
        | sent session server message =>
          simp only [Event.utterance?, Option.ite_none_right_eq_some] at he
          obtain ⟨rfl, hm⟩ := he
          exact ⟨server, message, es, List.suffix_refl _, hm, hus⟩
        | _ => cases he
      · rw [List.concat_eq_append, ← List.cons_append, ← List.append_assoc] at h
        exact hlater (List.append_inj' h rfl).1

lemma isAside_sent_of_isReply {m : Fields} {reply : Json} (h : Message.IsReply m reply) (server : Json) :
    isAside id (.sent id server reply) := by
  rw [isAside, Event.utterance?, Utterance.ofMessage?_reply h, ite_self]
  rfl

/-! What is kept -/

/-- Nothing was lost: what was queued was written in its order, or waits. -/
def IsKept (id : SessionId) (p : Position) : Prop :=
  ∀ b, only b (uttered id p.events) ++ p.session.waiting b =
    only b ((enqueued id p.events).map .ofDeferred)

lemma IsKept.blank (config : Fields) (name : Json) : IsKept id ⟨.blank config name, [], []⟩ := fun b => by
  cases b <;> rfl

lemma IsKept.aside (h : IsKept id ⟨s, es, K⟩) (hw : s'.waiting = s.waiting)
    (he : Adds (isAside id) es es') : IsKept id ⟨s', es', K'⟩ := fun b => by
  change only b (uttered id es') ++ s'.waiting b = only b ((enqueued id es').map _)
  rw [uttered_eq_of_adds (he.mono fun _ => isSilent_of_isAside), enqueued_eq_of_adds he, hw]
  exact h b

lemma IsKept.enqueue (h : IsKept id ⟨s, es, K⟩) {items : List Deferred}
    (hq : enqueued id es' = enqueued id es ++ items) (he : Adds (isSilent id) es es')
    (hw : ∀ b, s'.waiting b = s.waiting b ++ only b (items.map .ofDeferred)) :
    IsKept id ⟨s', es', K'⟩ := fun b => by
  change only b (uttered id es') ++ s'.waiting b = only b ((enqueued id es').map _)
  have hkept : only b (uttered id es) ++ s.waiting b = only b ((enqueued id es).map .ofDeferred) := h b
  rw [uttered_eq_of_adds he, hq, hw, List.map_append, Utterance.only_append, ← hkept,
    List.append_assoc]

lemma IsKept.tell (h : IsKept id ⟨s, es, K⟩) {n : OutgoingNotification}
    {rest : List OutgoingNotification} (queue : s.notifications = n :: rest) :
    IsKept id ⟨{ s with notifications := rest },
      .sent id s.name (Message.notification n.method n.params) :: es, K⟩ := fun b => by
  have huttered : uttered id (.sent id s.name (Message.notification n.method n.params) :: es) =
      uttered id es ++ [.ofNotification n] := uttered_sent _ _
  rw [huttered, enqueued_sent, ← h b]
  cases b with
  | true => simp [only, Utterance.ofNotification, Session.waiting]
  | false => simp [only, Utterance.ofNotification, Session.waiting, queue]

lemma IsKept.ask (h : IsKept id ⟨s, es, K⟩) {r : OutgoingRequest} {rest : List OutgoingRequest}
    {number : Json} {p : Pending Handler} (queue : s.requests = r :: rest) :
    IsKept id ⟨{ s with requests := rest, correlator := s.correlator.advance.register p },
      .sent id s.name (Message.request number r.method r.params) :: es, K⟩ := fun b => by
  have huttered : uttered id (.sent id s.name (Message.request number r.method r.params) :: es) =
      uttered id es ++ [.ofRequest r] := uttered_sent _ _
  rw [huttered, enqueued_sent, ← h b]
  cases b with
  | false => simp [only, Utterance.ofRequest, Session.waiting]
  | true => simp [only, Utterance.ofRequest, Session.waiting, queue]

/-! The invariant -/

/-- What is asked was preceded by all that was queued to be told. -/
def Pauses (id : SessionId) (es : List Event) : Prop :=
  ∀ server message earlier, .sent id server message :: earlier <:+ es →
    ∀ u ∈ Utterance.ofMessage? message, u.isRequest →
      only false (uttered id earlier) = only false ((enqueued id earlier).map .ofDeferred)

/-- Nothing was lost, and all that was asked came after what was told. -/
structure IsInStep (id : SessionId) (p : Position) : Prop where
  kept : IsKept id p
  pauses : Pauses id p.events
  linked : p.session.status = .initializing ∨ p.session.status = .initialized → p.session.link.isSome
  waiting : ∀ b, p.session.waiting b ≠ [] → p.session.link.isSome

lemma IsInStep.blank (config : Fields) (name : Json) : IsInStep id ⟨.blank config name, [], []⟩ where
  kept := .blank config name
  pauses _ _ _ h := (List.cons_ne_nil _ _ (List.suffix_nil.mp h)).elim
  linked h := by rcases h with h | h <;> cases h
  waiting b h := by cases b <;> exact (h rfl).elim

lemma Pauses.adds (h : Pauses id es) (he : Adds (isSilent id) es es') : Pauses id es' := by
  intro server message earlier hs u hu hr
  refine h server message earlier (he.suffix_of_cons hs ?_) u hu hr
  rw [isSilent, Event.utterance?, if_pos rfl, show Utterance.ofMessage? message = some u from hu]
  rfl

lemma IsInStep.aside (h : IsInStep id ⟨s, es, K⟩) (hst : s'.status = s.status)
    (hl : s.link.isSome → s'.link.isSome) (hw : s'.waiting = s.waiting)
    (he : Adds (isAside id) es es') : IsInStep id ⟨s', es', K'⟩ := by
  have hsilent : Adds (isSilent id) es es' := he.mono fun _ => isSilent_of_isAside
  refine ⟨h.kept.aside hw he, h.pauses.adds hsilent, fun hs => ?_, fun b hb => ?_⟩
  · exact hl (h.linked (hst ▸ hs))
  · exact hl (h.waiting b (hw ▸ hb))

lemma IsInStep.enqueue (h : IsInStep id ⟨s, es, K⟩) {items : List Deferred}
    (hq : enqueued id es' = enqueued id es ++ items) (he : Adds (isSilent id) es es')
    (hw : ∀ b, s'.waiting b = s.waiting b ++ only b (items.map .ofDeferred))
    (hl : s'.link.isSome) : IsInStep id ⟨s', es', K'⟩ where
  kept := h.kept.enqueue hq he hw
  pauses := h.pauses.adds he
  linked _ := hl
  waiting _ _ := hl

lemma waiting_queue (item : Deferred) (b : Bool) :
    ((s.queue item).count item).waiting b = s.waiting b ++ only b [.ofDeferred item] := by
  cases item <;> cases b <;>
    simp [Session.waiting, Session.queue, Session.count, only, Utterance.ofDeferred,
      Utterance.ofNotification, Utterance.ofRequest]

lemma waiting_introduce (params : Json) (callback : Option Callback) (b : Bool) :
    (s.introduce params callback).waiting b =
      s.waiting b ++ only b ([.inr (s.openingRequest params callback)].map .ofDeferred) := by
  cases b with
  | false => exact (List.append_nil _).symm
  | true => exact List.map_append

/-- The notice that the session is open waits behind what waits already, and what was deferred behind
the notice. -/
lemma waiting_welcome (capabilities serverInfo : Json) (b : Bool) :
    (s.welcome capabilities serverInfo).waiting b =
      s.waiting b ++ only b ((.inl Session.opened :: s.deferred).map .ofDeferred) := by
  cases b with
  | false =>
    rw [Utterance.only_false_deferred]
    simp [Session.waiting, Session.welcome, Session.queue, Session.flush]
  | true =>
    rw [Utterance.only_true_deferred]
    exact List.map_append

lemma IsInStep.tell (h : IsInStep id ⟨s, es, K⟩) {n : OutgoingNotification}
    {rest : List OutgoingNotification} {result : Except Fault Unit}
    (queue : s.notifications = n :: rest) (sendable : n.IsSendable)
    (writes : Writes id s (Message.notification n.method n.params) es result es')
    (hn : ∀ refused, .noted id (.refused refused) ∉ es') :
    IsInStep id ⟨{ s with notifications := rest }, es', K⟩ := by
  have hwaits : s.waiting false ≠ [] := by
    rw [Session.waiting, queue]
    exact List.cons_ne_nil _ _
  cases writes with
  | refused => exact (hn _ List.mem_cons_self).elim
  | unencodable linked encodes => exact (encodes sendable).elim
  | unlinked linked =>
    have hlinked := h.waiting false hwaits
    rw [show s.link = none from linked] at hlinked
    cases hlinked
  | sent linked =>
    refine ⟨h.kept.tell queue, fun server message earlier hs u hu hr => ?_, h.linked,
      fun _ _ => h.waiting false hwaits⟩
    · rcases List.suffix_cons_iff.mp hs with he | hs
      · obtain ⟨hsent, -⟩ := List.cons.inj he
        obtain ⟨-, -, rfl⟩ := Event.sent.inj hsent
        obtain rfl := Option.some.inj hu
        cases hr
      · exact h.pauses server message earlier hs u hu hr

/-- What is asked is what waited longest, and nothing waits to be told. -/
lemma IsInStep.ask (h : IsInStep id ⟨s, es, K⟩) {r : OutgoingRequest} {rest : List OutgoingRequest}
    {number : Json} {t n : Nat} {p : Pending Handler} {result : Except Fault Unit}
    (queue : s.requests = r :: rest) (idle : s.notifications = [])
    (sendable : (Message.request number r.method r.params).Encodes)
    (writes : Writes id s (Message.request number r.method r.params)
      (.dealt id (.registered t n) :: es) result es')
    (hn : ∀ refused, .noted id (.refused refused) ∉ es') :
    IsInStep id ⟨{ s with requests := rest, correlator := s.correlator.advance.register p }, es', K⟩ := by
  have hwaits : s.waiting true ≠ [] := by
    rw [Session.waiting, queue]
    exact List.cons_ne_nil _ _
  have hbefore : IsInStep id ⟨s, .dealt id (.registered t n) :: es, K⟩ :=
    h.aside rfl (fun h => h) rfl (.single rfl)
  cases writes with
  | refused => exact (hn _ List.mem_cons_self).elim
  | unencodable linked encodes => exact (encodes sendable).elim
  | unlinked linked =>
    have hlinked := h.waiting true hwaits
    rw [show s.link = none from linked] at hlinked
    cases hlinked
  | sent linked =>
    refine ⟨hbefore.kept.ask queue, fun server message earlier hs u hu hr => ?_, h.linked,
      fun _ _ => h.waiting true hwaits⟩
    · rcases List.suffix_cons_iff.mp hs with he | hs
      · obtain ⟨-, rfl⟩ := List.cons.inj he
        have hkept := hbefore.kept false
        rw [Session.waiting, show s.notifications = [] from idle] at hkept
        exact (List.append_nil _).symm.trans hkept
      · exact hbefore.pauses server message earlier hs u hu hr

/-! Steps -/

lemma Step.isInStep (h : Step c id p q) (hc : c.TakesTurns) (sends : c.Sends p.session.config)
    (hs : p.Sound c id) (few : q.session.correlator.lastId < numberLimit) (live : q.session.status.isLeaving = false)
    (hn : ∀ refused, .noted id (.refused refused) ∉ q.events) (hp : IsInStep id p) :
    IsInStep id q := by
  cases h
  -- Opening
  case introduced s es K rootUri rootPath name version callback status linked allowed obeys path =>
    let request : Deferred := .inr
      (s.openingRequest (s.openingParams rootUri rootPath name version) callback)
    exact hp.enqueue ((enqueued_acceptance request).trans (enqueued_queued request))
      (adds_isSilent_of_quietly ((Quietly.single rfl).acceptance request)) (waiting_introduce _ _) linked
  case deferred s es K a item documents allowed obeys asked tracks status lifecycle =>
    cases item with
    | inl n => exact hp.aside rfl (fun h => h) rfl (.single rfl)
    | inr r => exact hp.aside rfl (fun h => h) rfl ((Adds.single rfl).cons rfl)
  case queued s es K a item documents allowed obeys asked tracks status =>
    have hstatus : s.status = .initialized := status.resolve_right fun hl =>
      Kind.ofMethod_ne_other hl.2 (hc.ofMethod_eq allowed asked)
    have hlinked : s.link.isSome := hp.linked (.inr hstatus)
    refine hp.enqueue ((enqueued_acceptance item).trans (enqueued_queued item))
      (adds_isSilent_of_quietly ((Quietly.single rfl).acceptance item)) (fun b => ?_) ?_
    · have hw := waiting_queue (s := s) item b
      cases item <;> exact hw
    · cases item <;> exact hlinked
  -- Sending
  case notified queue free writes =>
    have hsendable := hs.session.sendsNotifications sends _ (queue ▸ List.mem_cons_self)
    exact hp.tell queue hsendable writes hn
  case requested queue free first entry writes =>
    have hsendable := hs.session.sendsRequests sends _ (queue ▸ List.mem_cons_self)
    exact hp.ask queue (first.resolve_right hc.requests) (hsendable.encodes _ few) writes hn
  case dropped s es K r rest now f queue free entry =>
    have hsendable := hs.session.sendsRequests sends _ (queue ▸ List.mem_cons_self)
    exact (Session.entry_ne_error hsendable s.nextNumber now f entry).elim
  case replied kind isReply writes =>
    exact hp.aside rfl (fun h => h) rfl (writes.adds (isAside_sent_of_isReply isReply _) rfl rfl)
  -- Answering
  case stuck status holds result =>
    exact ⟨hp.kept, hp.pauses, fun _ => hp.linked (.inl status), hp.waiting⟩
  case welcomed s es K ticket callback capabilities serverInfo m error status result =>
    exact hp.enqueue (enqueued_announced s.deferred) (.single rfl) (waiting_welcome _ _)
      (hp.linked (.inl status))
  -- Ending
  case left | parted | saidGoodbye | unheardGoodbye | ended => cases live
  case overtaken status => cases (Status.isLeaving_of_or (.inr status)).symm.trans live
  case abandoned status encodes => cases (Status.isLeaving_of_or (.inl status)).symm.trans live
  case buried status settled => cases (Status.isLeaving_of_or (.inr status)).symm.trans live
  case documented status fewer => cases status.symm.trans live
  -- Everything else
  case launched => exact hp.aside rfl (fun _ => rfl) rfl (.single rfl)
  case relinked => exact hp.aside rfl (fun _ => rfl) rfl (.refl _)
  case took s es t K m reader next running =>
    obtain ⟨responses, errors, he⟩ := Session.exists_enqueue_eq { s with reader } m
    rw [he]
    exact hp.aside rfl (fun h => h) rfl (.single rfl)
  all_goals
    exact hp.aside rfl (fun h => h) rfl (by first | exact .refl _ | exact .single rfl)

lemma Steps.isInStep (h : Steps c id p q) (hc : c.TakesTurns) (sends : c.Sends p.session.config)
    (hs : p.Sound c id) (few : q.session.correlator.lastId < numberLimit)
    (live : q.session.status.isLeaving = false)
    (hn : ∀ refused, .noted id (.refused refused) ∉ q.events) (hp : IsInStep id p) :
    IsInStep id q := by
  induction h with
  | refl => exact hp
  | tail hr h ih =>
    have hbefore := ih (Nat.lt_of_le_of_lt h.lastId_le few) (Steps.live (.single h) live)
      fun refused hm => hn refused (h.suffix.subset hm)
    exact Step.isInStep h hc ((Steps.config_eq hr).symm ▸ sends) (Steps.sound_position hr hs) few live
      hn hbefore

/-! Exchanges -/

lemma Exchanges.waiting_eq {ℓ : Level} {L : List Task} {v w : World} (h : Session.Exchanges c ℓ id L v w)
    (b : Bool) :
    (w.session id).waiting b = [] := by
  cases b
  · exact congrArg (List.map _) h.notifications
  · exact congrArg (List.map _) h.requests

/-- What is asked after all that is told comes last. -/
lemma eq_only_append {new : List Utterance} (h : ∀ us u vs, new = us ++ u :: vs → u.isRequest →
    only false us = only false new) : new = only false new ++ only true new := by
  induction new with
  | nil => rfl
  | cons x new ih =>
    cases hx : x.isRequest with
    | false =>
      have htold : only false (x :: new) = x :: only false new := List.filter_cons_of_pos (by simp [hx])
      have hasked : only true (x :: new) = only true new := List.filter_cons_of_neg (by simp [hx])
      rw [htold, hasked, List.cons_append, ← ih fun us u vs hnew hu => ?_]
      have hmore := h (x :: us) u vs (congrArg (x :: ·) hnew) hu
      rw [htold, show only false (x :: us) = x :: only false us from
        List.filter_cons_of_pos (by simp [hx])] at hmore
      exact (List.cons.inj hmore).2
    | true =>
      have hnone : only false (x :: new) = [] := (h [] x new rfl hx).symm
      have hall : ∀ u ∈ x :: new, u.isRequest = true := fun u hu => by
        by_contra hf
        have htold : u ∈ only false (x :: new) :=
          List.mem_filter.mpr ⟨hu, decide_eq_true (Bool.not_eq_true _ ▸ hf)⟩
        rw [hnone] at htold
        cases htold
      rw [hnone, List.nil_append]
      exact (List.filter_eq_self.mpr fun u hu => decide_eq_true (hall u hu)).symm

/-- When all that waited was sent and nothing was queued meanwhile: what was told comes first, in its
order, and then what was asked, in its order. -/
lemma IsInStep.exchange (h : IsInStep id ⟨s, es, K⟩) (h' : IsInStep id ⟨s', es', K'⟩)
    (he : Adds Event.isExchange es es') (hw : ∀ b, s'.waiting b = []) :
    uttered id es' = uttered id es ++ (s.waiting false ++ s.waiting true) := by
  have hsuffix : es <:+ es' := by
    obtain ⟨new, rfl, -⟩ := he
    exact List.suffix_append _ _
  have hqueued : enqueued id es' = enqueued id es := enqueued_eq_of_exchange he
  obtain ⟨new, hnew⟩ : uttered id es <+: uttered id es' := uttered_prefix_of_suffix hsuffix
  have hwaited : ∀ b, only b new = s.waiting b := fun b => by
    have hkept' : only b (uttered id es') ++ s'.waiting b = only b ((enqueued id es').map .ofDeferred) :=
      h'.kept b
    have hkept : only b (uttered id es) ++ s.waiting b = only b ((enqueued id es).map .ofDeferred) :=
      h.kept b
    rw [← hnew, hw, hqueued, ← hkept, List.append_nil, Utterance.only_append] at hkept'
    exact List.append_cancel_left hkept'
  rw [← hnew, ← hwaited false, ← hwaited true, ← eq_only_append fun us u vs hsplit hu => ?_]
  -- What is asked was written since, and nothing was queued since.
  have hsaid : uttered id es' = (uttered id es ++ us) ++ u :: vs := by
    rw [← hnew, hsplit, List.append_assoc]
  obtain ⟨server, message, earlier, hsent, hm, hus⟩ := exists_sent_of_uttered hsaid
  have hbefore : ¬ .sent id server message :: earlier <:+ es := fun hs => by
    have hle : (uttered id (.sent id server message :: earlier)).length ≤ (uttered id es).length :=
      (uttered_prefix_of_suffix hs).length_le
    rw [uttered_sent, hm, hus] at hle
    simp at hle
  have hsince : es <:+ earlier := by
    rcases List.suffix_or_suffix_of_suffix hsent hsuffix with hs | hs
    · exact (hbefore hs).elim
    · rcases List.suffix_cons_iff.mp hs with rfl | hs
      · exact (hbefore (List.suffix_refl _)).elim
      · exact hs
  have hsame : enqueued id earlier = enqueued id es := by
    have hle : (enqueued id earlier).length ≤ (enqueued id es').length :=
      (enqueued_prefix_of_suffix ((List.suffix_cons _ _).trans hsent)).length_le
    rw [hqueued] at hle
    exact ((enqueued_prefix_of_suffix hsince).eq_of_length_le hle).symm
  have hpaused := h'.pauses server message earlier hsent u hm hu
  have hkept' : only false (uttered id es') ++ s'.waiting false =
    only false ((enqueued id es').map .ofDeferred) := h'.kept false
  rw [hw, List.append_nil, ← hnew, hqueued, Utterance.only_append] at hkept'
  rw [hus, hsame, ← hkept', Utterance.only_append] at hpaused
  exact List.append_cancel_left hpaused

/-- Nothing is lost in a tick either: it comes to where all that waited was sent, and no callback has had
its turn yet. -/
lemma ends_tick {w : World} (hsteps : Steps c id p (w.position id [])) (hsound : p.Sound c id)
    (hp : IsInStep id p) (hw : w.Ready c id) (turns : c.TakesTurns)
    (sends : c.Sends p.session.config) (hs : (w.session id).status = .initialized)
    (hf : (w.session id).fault = none) :
    Act.Ends (Session.tick (callWithin nestingLimit) id) w fun _ v => Session.Legible id v →
      (∀ refused, .noted id (.refused refused) ∉ v.story id) →
        IsInStep id (w.position id []) ∧ ∃ u, Session.Exchanges c .host id [] w u ∧
          Steps c id (w.position id []) (u.position id [.ticking]) ∧ u.story id <:+ v.story id ∧
            Session.Legible id u ∧ IsInStep id (u.position id [.ticking]) := by
  have hinstep : ∀ {q : Position}, Steps c id p q → q.session.status = .initialized →
      q.session.correlator.lastId < numberLimit →
      (∀ refused, .noted id (.refused refused) ∉ q.events) → IsInStep id q := fun h hs few accepted =>
    Steps.isInStep h turns sends hsound few (by rw [hs]; rfl) accepted hp
  have hrunning : (w.session id).status ≠ .terminated := by rw [hs]; nofun
  by_cases hl : (w.session id).link.isSome
  · refine (Session.ends_tick_exchanges (abides_callWithin nestingLimit) (Level.room_host c _) hw hf hrunning
      hl).mono ?_
    intro result v hexchanged legible accepted
    obtain ⟨u, hu, hsuffix, hlegible⟩ := hexchanged (hsteps.config_eq ▸ sends) legible
    have hsent : Steps c id (w.position id []) (u.position id [.ticking]) :=
      .head (.ticked hrunning hl) (hu.moves.steps [] rfl)
    have haccepted : ∀ refused, .noted id (.refused refused) ∉ u.story id := fun refused hm =>
      accepted refused (hsuffix.subset hm)
    refine ⟨hinstep hsteps hs (Nat.lt_of_le_of_lt hsent.lastId_le hlegible.few) fun refused hm =>
      haccepted refused (hsent.suffix.subset hm), u, hu, hsent, hsuffix, hlegible, ?_⟩
    exact hinstep (hsteps.trans hsent) (hu.status.trans hs) hlegible.few haccepted
  · -- An open session has a link.
    refine (Session.ends_tick (abides_callWithin nestingLimit) (Level.room_host c _) hw).mono ?_
    rintro result v ⟨hv, -⟩ legible accepted
    have hrest := hv.steps [] rfl
    have hstep := hinstep hsteps hs (Nat.lt_of_le_of_lt hrest.lastId_le legible.few) fun refused hm =>
      accepted refused (hrest.suffix.subset hm)
    exact (hl (hstep.linked (.inr hs))).elim

end Queues

/-! A host that pushes what is plain -/

/-- Whether something is sent on account of an operation. -/
def SessionAction.pushes : SessionAction → Bool
  | handshake _ _ _ _ | pushNotification _ _ | pushRequest _ _ _ _ | openDocument _ | closeDocument _
  | changeDocument _ | complete _ _ | goTo _ _ _ => true
  | _ => false

/-- What ticks, or pushes nothing but what can be sent. -/
def SessionAction.isPlain : SessionAction → Bool
  | handshake rootUri name version _ => rootUri.isNull && name.isPlain && version.isPlain
  | pushNotification method params => method.isPlain && params.isPlain
  | pushRequest method params _ timeout => method.isPlain && params.isPlain && timeout.isNull
  | openDocument params | changeDocument params | complete params _ => params.isPlain
  | tick => true
  | _ => false

/-- What pushes nothing but what can be sent, and leaves the life of a session to the client. -/
def SessionAction.isPlainPush : SessionAction → Bool
  | handshake rootUri name version _ => rootUri.isNull && name.isPlain && version.isPlain
  | pushNotification method params =>
    method.isPlain && params.isPlain && Kind.ofMethod method = .other
  | pushRequest method params _ timeout =>
    method.isPlain && params.isPlain && timeout.isNull && Kind.ofMethod method = .other
  | openDocument params | changeDocument params | complete params _ => params.isPlain
  | tick => true
  | _ => false

def Conduct.pushing : Conduct where
  host a := a.isPlainPush
  callback a := a.isPlainPush
  hostIsOutside a h := by cases a <;> first | rfl | cases h
  callbackIsOutside a h := by cases a <;> first | rfl | cases h

lemma Conduct.takesTurns_pushing : pushing.TakesTurns where
  requests h := by rcases h with h | h <;> cases h
  items a ha s item hi := by
    have ha : a.isPlainPush := or_self_iff.mp ha
    cases a <;> simp only [SessionAction.item?, Option.some.injEq, reduceCtorEq] at hi
    case pushNotification | pushRequest =>
      subst hi
      simp only [SessionAction.isPlainPush, Bool.and_eq_true, decide_eq_true_eq] at ha
      exact ha.2
    case openDocument | changeDocument | complete =>
      subst hi
      dsimp only [Deferred.method]
      decide +kernel
    all_goals cases ha

lemma Conduct.sends_of_isPlain {c : Conduct} (hc : ∀ a, c.allows a → a.pushes → a.isPlain) {config : Fields}
    (ht : config.getD "request_timeout" .null = .null)
    (ho : (config.getD "initializationOptions" .null).isPlain) : c.Sends config where
  items a ha s hs item hi := by
    have ha := hc a ha
    have htimeout : s.setting "request_timeout" = .null := by rw [Session.setting, hs, ht]
    cases a <;> simp only [SessionAction.item?, Option.some.injEq, reduceCtorEq] at hi <;>
      replace ha := ha rfl
    case pushNotification =>
      subst hi
      simp only [SessionAction.isPlain, Bool.and_eq_true] at ha
      exact OutgoingNotification.isSendable_of_isPlain ha.1 ha.2
    case pushRequest method params callback timeout =>
      subst hi
      simp only [SessionAction.isPlain, Bool.and_eq_true] at ha
      refine OutgoingRequest.isSendable_of_isPlain ha.1.1 ha.1.2 ?_
      dsimp only
      rw [if_pos ha.2, htimeout]
    case openDocument | changeDocument =>
      subst hi
      refine OutgoingNotification.isSendable_of_isPlain ?_ ha
      dsimp only
      decide +kernel
    case complete =>
      subst hi
      refine OutgoingRequest.isSendable_of_isPlain ?_ ha htimeout
      dsimp only
      decide +kernel
    all_goals cases ha
  opening rootUri name' version callback ha s hs rootPath hpath := by
    have ha := hc _ ha rfl
    simp only [SessionAction.isPlain, Bool.and_eq_true] at ha
    have hoptions : (s.setting "initializationOptions").isPlain := by rw [Session.setting, hs, ho]
    exact isSendable_openingRequest callback ha.1.1 ha.1.2 ha.2 hpath hoptions

lemma Conduct.sends_pushing {config : Fields}
    (ht : config.getD "request_timeout" .null = .null)
    (ho : (config.getD "initializationOptions" .null).isPlain) : pushing.Sends config := by
  refine sends_of_isPlain (fun a ha _ => ?_) ht ho
  have ha : a.isPlainPush := or_self_iff.mp ha
  cases a <;> simp_all [SessionAction.isPlainPush, SessionAction.isPlain]

def Event.isUnreadable : Event → Bool
  | .noted _ (.unreadable _) => true
  | _ => false

lemma legible_of_all {id : SessionId} {v : World} (h : (v.story id).all (!·.isUnreadable))
    (hn : (v.session id).correlator.lastId < numberLimit) : Session.Legible id v where
  readable f hf := by cases List.all_eq_true.mp h _ hf
  few := hn

end LanguageClient
