import LanguageClient.Proofs.Steps.Answering
import LanguageClient.Proofs.Steps.Runs
import Mathlib.Data.List.Nodup
import Mathlib.Data.List.Perm.Subperm

/-!
The numbers of requests. Those that are written count upward, whoever sends them, and so do those that
wait for their answers in the table.
-/

namespace LanguageClient

/-- The id under which a message asks for an answer. -/
def Json.requestId? : Json → Option Json
  | .object fields => if Message.kindOf fields = .request then Fields.get? fields "id" else none
  | _ => none

def Event.requestId? (id : SessionId) : Event → Option Json
  | .sent session _ message => if session = id then message.requestId? else none
  | _ => none

/-- The ids of the requests that were written to the server of a session, the last one first. -/
def requestIds (id : SessionId) (es : List Event) : List Json := es.filterMap (Event.requestId? id)

/-- Ids that were given one after the other, the last one first. -/
def CountsTo (last : Nat) (ids : List Json) : Prop :=
  ∃ ns : List Nat, ids = ns.map Json.ofNat ∧ ns.Pairwise (· > ·) ∧ ∀ n ∈ ns, 0 < n ∧ n ≤ last

lemma CountsTo.nil (last : Nat) : CountsTo last [] := ⟨[], rfl, .nil, by simp⟩

lemma CountsTo.mono {last last' : Nat} {ids : List Json} (h : CountsTo last ids) (hl : last ≤ last') :
    CountsTo last' ids := by
  obtain ⟨ns, hids, hns, hle⟩ := h
  exact ⟨ns, hids, hns, fun n hn => ⟨(hle n hn).1, Nat.le_trans (hle n hn).2 hl⟩⟩

lemma CountsTo.next {last : Nat} {ids : List Json} (h : CountsTo last ids) :
    CountsTo (last + 1) (Json.ofNat (last + 1) :: ids) := by
  obtain ⟨ns, rfl, hns, hle⟩ := h
  refine ⟨(last + 1) :: ns, rfl, List.pairwise_cons.mpr ⟨fun n hn => ?_, hns⟩, ?_⟩
  · exact Nat.lt_succ_of_le (hle n hn).2
  · refine List.forall_mem_cons.mpr ⟨⟨Nat.succ_pos _, Nat.le_refl _⟩, fun n hn => ?_⟩
    exact ⟨(hle n hn).1, Nat.le_succ_of_le (hle n hn).2⟩

lemma CountsTo.sublist {last : Nat} {ids ids' : List Json} (h : CountsTo last ids)
    (hs : ids'.Sublist ids) : CountsTo last ids' := by
  obtain ⟨ns, rfl, hns, hle⟩ := h
  obtain ⟨ns', hsub, rfl⟩ := List.sublist_map_iff.mp hs
  exact ⟨ns', rfl, hns.sublist hsub, fun n hn => hle n (hsub.subset hn)⟩

/-- A request that has a number and no answer yet. -/
structure Pending.IsOpen (p : Pending Handler) (id : SessionId) (es : List Event) : Prop where
  accepted : .dealt id (.accepted p.ticket p.handler) ∈ es
  registered : ∃ n, p.Numbered n ∧ .dealt id (.registered p.ticket n) ∈ es
  unresolved : ∀ response, .dealt id (.resolved p.ticket response) ∉ es
  unanswered : ∀ label title response, .answered id p.ticket label title response ∉ es

/-- The requests of a session have numbers of their own, on the wire and in the table. -/
structure Session.IsNumbered (id : SessionId) (s : Session) (es : List Event) : Prop where
  written : CountsTo s.correlator.lastId (requestIds id es)
  pending : CountsTo s.correlator.lastId (s.correlator.pending.map (·.id)).reverse
  isOpen : ∀ p ∈ s.correlator.pending, p.IsOpen id es

namespace Numbers

variable {c : Conduct} {id : SessionId} {p q : Position} {es es' : List Event}

/-! What is written -/

lemma requestId?_reply {m : Fields} {reply : Json} (h : Message.IsReply m reply) :
    reply.requestId? = none := by
  cases h <;> rfl

def asksNothing (id : SessionId) (e : Event) : Bool := (e.requestId? id).isNone

lemma requestIds_eq_of_adds (h : Adds (asksNothing id) es es') :
    requestIds id es' = requestIds id es := by
  obtain ⟨new, rfl, hnew⟩ := h
  have hnone : new.filterMap (Event.requestId? id) = [] :=
    List.filterMap_eq_nil_iff.mpr fun e he => Option.isNone_iff_eq_none.mp (hnew e he)
  rw [requestIds, List.filterMap_append, hnone, List.nil_append, requestIds]

lemma adds_of_writes {s : Session} {message : Json} {result : Except Fault Unit}
    (h : Writes id s message es result es') (hm : message.requestId? = none) :
    Adds (asksNothing id) es es' :=
  h.adds (by simp [asksNothing, Event.requestId?, hm]) rfl rfl

lemma requestIds_of_writes {s : Session} {n : Nat} {method params : Json} {result : Except Fault Unit}
    (h : Writes id s (Message.request (Json.ofNat n) method params) es result es') :
    requestIds id es' = requestIds id es ∨ requestIds id es' = Json.ofNat n :: requestIds id es := by
  cases h with
  | sent => exact .inr (List.filterMap_cons_some (if_pos rfl))
  | refused | unlinked => exact .inl (requestIds_eq_of_adds (.single rfl))
  | unencodable => exact .inl rfl

/-- A request is written under the next number, or none is. -/
lemma Step.requestIds_or (h : Step c id p q) : requestIds id q.events = requestIds id p.events ∨
    q.session.correlator.lastId = p.session.nextNumber ∧
      requestIds id q.events = Json.ofNat p.session.nextNumber :: requestIds id p.events := by
  have haside : Adds (asksNothing id) p.events q.events →
      requestIds id q.events = requestIds id p.events ∨
        q.session.correlator.lastId = p.session.nextNumber ∧
          requestIds id q.events = Json.ofNat p.session.nextNumber :: requestIds id p.events :=
    fun h => .inl (requestIds_eq_of_adds h)
  cases h
  case requested s es K r rest p now result es' queue free first entry writes =>
    have hdealt : requestIds id (.dealt id (.registered r.ticket s.nextNumber) :: es) = requestIds id es :=
      requestIds_eq_of_adds (.single rfl)
    rcases requestIds_of_writes writes with hids | hids
    · exact .inl (hids.trans hdealt)
    · exact .inr ⟨rfl, hdealt ▸ hids⟩
  case saidGoodbye s es K es₁ es₂ result status told left =>
    have hleft : requestIds id (.noted id .ended :: es₂) = requestIds id es₁ :=
      requestIds_eq_of_adds ((adds_of_writes left rfl).cons rfl)
    exact (requestIds_of_writes told).imp hleft.trans fun hids => ⟨rfl, hleft.trans hids⟩
  case unheardGoodbye s es K f es₁ status closed told =>
    have hended : requestIds id (.noted id .ended :: es₁) = requestIds id es₁ :=
      requestIds_eq_of_adds (.single rfl)
    exact (requestIds_of_writes told).imp hended.trans fun hids => ⟨rfl, hended.trans hids⟩
  case notified writes => exact haside (adds_of_writes writes rfl)
  case replied isReply writes => exact haside (adds_of_writes writes (requestId?_reply isReply))
  case deferred item _ _ _ _ _ _ _ | queued item _ _ _ _ _ _ =>
    exact haside ((Adds.single rfl).acceptance (fun _ _ => rfl) item)
  case introduced => exact haside ((Adds.single rfl).cons rfl)
  case buried s es K last timeout status settled =>
    refine haside ?_
    dsimp only
    unfold Session.burial
    split
    · exact (Adds.single rfl).cons rfl
    · exact .single rfl
  all_goals exact haside (by first | exact .refl _ | exact .single rfl)

lemma Step.written (h : Step c id p q)
    (hp : CountsTo p.session.correlator.lastId (requestIds id p.events)) :
    CountsTo q.session.correlator.lastId (requestIds id q.events) := by
  rcases Step.requestIds_or h with hsame | ⟨hlast, hnext⟩
  · exact hsame ▸ hp.mono h.lastId_le
  · exact hlast ▸ hnext ▸ hp.next

/-! What is pending -/

/-- A new entry stands at the end of the table. -/
lemma Step.pending_sublist_or (h : Step c id p q) (hs : p.session.Sound c id p.events) :
    q.session.correlator.pending.Sublist p.session.correlator.pending ∨
      q.session.correlator.lastId = p.session.nextNumber ∧
        ∃ r : Pending Handler, r.Numbered p.session.nextNumber ∧
          q.session.correlator.pending = p.session.correlator.pending ++ [r] := by
  cases h
  case requested s es K r rest p now result es' queue free first entry writes =>
    obtain ⟨-, -, hnumbered⟩ := Correlator.numbered_of_entry entry
    exact .inr ⟨rfl, p, hnumbered, (hs.insert_eq hnumbered).2⟩
  case resolved => exact .inl List.filter_sublist
  case deferred item _ _ _ _ _ _ _ | queued item _ _ _ _ _ _ =>
    cases item <;> exact .inl (List.Sublist.refl _)
  case took s es t K m reader next running =>
    obtain ⟨responses, errors, he⟩ := Session.exists_enqueue_eq { s with reader } m
    rw [he]
    exact .inl (List.Sublist.refl _)
  all_goals exact .inl (List.Sublist.refl _)

lemma Step.pending (h : Step c id p q) (hs : p.session.Sound c id p.events)
    (hp : CountsTo p.session.correlator.lastId (p.session.correlator.pending.map (·.id)).reverse) :
    CountsTo q.session.correlator.lastId (q.session.correlator.pending.map (·.id)).reverse := by
  rcases Step.pending_sublist_or h hs with hsub | ⟨hlast, r, hr, hnext⟩
  · exact (hp.mono h.lastId_le).sublist (hsub.map _).reverse
  · rw [hlast, hnext, List.map_append, List.reverse_append]
    change CountsTo _ (r.id :: (p.session.correlator.pending.map (·.id)).reverse)
    rw [hr.id]
    exact hp.next

/-! Tickets -/

/-- The tickets of the requests that wait, to be sent or to be answered. -/
def openTickets (s : Session) : List Nat :=
  (s.requests ++ s.deferred.filterMap Sum.getRight?).map (·.ticket) ++
    s.correlator.pending.map (·.ticket)

/-- What a step makes of the requests that wait. -/
inductive Turnover (id : SessionId) (p q : Position) : Prop where
  | keeps (fewer : (openTickets q.session).Subperm (openTickets p.session))
    (tickets : q.session.tickets = p.session.tickets)
    (resolved : ∀ t m, .dealt id (.resolved t m) ∈ q.events → .dealt id (.resolved t m) ∈ p.events)
  | takes (more : (openTickets q.session).Perm (p.session.tickets :: openTickets p.session))
    (tickets : q.session.tickets = p.session.tickets + 1)
    (resolved : ∀ t m, .dealt id (.resolved t m) ∈ q.events → .dealt id (.resolved t m) ∈ p.events)
  | resolves {r : Pending Handler} {m : Json} (mem : r ∈ p.session.correlator.pending)
    (erased : q.session = { p.session with correlator := p.session.correlator.erase r.key })
    (events : q.events = .dealt id (.resolved r.ticket m) :: p.events)

lemma openTickets_welcome (s : Session) (capabilities serverInfo : Json) :
    openTickets (s.welcome capabilities serverInfo) = openTickets s := by
  simp [openTickets, Session.welcome, Session.flush, Session.queue]

lemma openTickets_cleared {s s' : Session} (hr : s'.requests = []) (hd : s'.deferred = [])
    (hp : s'.correlator.pending = s.correlator.pending) :
    (openTickets s').Subperm (openTickets s) := by
  rw [openTickets, hr, hd, hp]
  exact (List.sublist_append_right _ _).subperm

lemma ticket_of_asks {a : SessionAction} {s : Session} {r : OutgoingRequest} (h : a.Asks s (.inr r)) :
    r.ticket = s.tickets := by
  have hitem : ∀ {r}, a.item? s = some (.inr r) → r.ticket = s.tickets := fun h => by
    cases a <;> simp only [SessionAction.item?, Option.some.injEq, Sum.inr.injEq, reduceCtorEq] at h
    all_goals rw [← h]
  cases h with
  | host asked => exact hitem asked
  | feature isFeature asked =>
    have ht := hitem asked
    exact ht

lemma openTickets_queue {s s' : Session} {r : OutgoingRequest} (ht : r.ticket = s.tickets)
    (hr : s'.requests = s.requests ++ [r]) (hd : s'.deferred = s.deferred)
    (hp : s'.correlator = s.correlator) : (openTickets s').Perm (s.tickets :: openTickets s) := by
  rw [openTickets, openTickets, hr, hd, hp]
  simp only [List.map_append, List.map_cons, List.map_nil, List.append_assoc, ht]
  exact List.perm_middle

lemma openTickets_defer {s s' : Session} {r : OutgoingRequest} (ht : r.ticket = s.tickets)
    (hr : s'.requests = s.requests) (hd : s'.deferred = s.deferred ++ [.inr r])
    (hp : s'.correlator = s.correlator) : (openTickets s').Perm (s.tickets :: openTickets s) := by
  rw [openTickets, openTickets, hr, hd, hp]
  have hright : [(.inr r : Deferred)].filterMap Sum.getRight? = [r] := rfl
  simp only [List.filterMap_append, hright, List.map_append, List.map_cons, List.map_nil, ht,
    ← List.append_assoc]
  exact List.perm_append_singleton _ _ |>.append_right _

lemma Step.turnover (h : Step c id p q) (hs : p.session.Sound c id p.events) : Turnover id p q := by
  cases h
  case introduced s es K rootUri rootPath name version callback status linked allowed obeys path =>
    exact .takes (openTickets_queue (r := s.openingRequest _ callback) rfl rfl rfl rfl) rfl (by simp)
  case deferred s es K a item documents allowed obeys asked tracks status lifecycle =>
    cases item with
    | inl n =>
      have hnone : [(.inl n : Deferred)].filterMap Sum.getRight? = [] := rfl
      refine .keeps (List.Perm.subperm (.of_eq ?_)) rfl (by simp [Deferred.acceptance])
      simp only [openTickets, Session.count, List.filterMap_append, hnone, List.append_nil]
    | inr r =>
      refine .takes (openTickets_defer (ticket_of_asks asked) rfl rfl rfl) rfl ?_
      simp [Deferred.acceptance]
  case queued s es K a item documents allowed obeys asked tracks status =>
    cases item with
    | inl n => exact .keeps (.refl _) rfl (by simp [Deferred.acceptance])
    | inr r =>
      refine .takes (openTickets_queue (ticket_of_asks asked) rfl rfl rfl) rfl ?_
      simp [Deferred.acceptance]
  case requested s es K r rest p now result es' queue free first entry writes =>
    obtain ⟨ht, -, hnumbered⟩ := Correlator.numbered_of_entry entry
    refine .keeps (List.Perm.subperm ?_) rfl fun t m hm => by simpa using writes.mem_of_dealt hm
    have hpending : (s.correlator.advance.register p).pending = s.correlator.pending ++ [p] :=
      (hs.insert_eq hnumbered).2
    simp only [openTickets, hpending, queue, List.map_append, List.map_cons, List.map_nil, List.cons_append, ht,
      ← List.append_assoc]
    exact List.perm_append_singleton _ _
  case dropped s es K r rest now f queue free entry =>
    refine .keeps (List.Sublist.subperm ?_) rfl (by simp)
    simp only [openTickets, queue, List.cons_append, List.map_cons]
    exact List.sublist_cons_self _ _
  case took s es t K m reader next running =>
    obtain ⟨responses, errors, he⟩ := Session.exists_enqueue_eq { s with reader } m
    rw [he]
    exact .keeps (.refl _) rfl (by simp)
  case resolved found source reason =>
    exact .resolves (Correlator.mem_of_answered? found).1 rfl rfl
  case welcomed => exact .keeps (by rw [openTickets_welcome]) rfl (by simp)
  case notified writes | replied writes =>
    exact .keeps (.refl _) rfl fun t m hm => writes.mem_of_dealt hm
  case overtaken | parted | abandoned => exact .keeps (openTickets_cleared rfl rfl rfl) rfl (by simp)
  case saidGoodbye told left =>
    refine .keeps (openTickets_cleared rfl rfl rfl) rfl fun t m hm => ?_
    exact told.mem_of_dealt (left.mem_of_dealt (by simpa using hm))
  case unheardGoodbye told =>
    refine .keeps (openTickets_cleared rfl rfl rfl) rfl fun t m hm => ?_
    exact told.mem_of_dealt (by simpa using hm)
  case buried s es K last timeout status settled =>
    refine .keeps (openTickets_cleared rfl rfl rfl) rfl fun t m hm => ?_
    exact (List.mem_append.mp hm).resolve_left (s.dealt_not_mem_burial timeout _)
  all_goals exact .keeps (.refl _) rfl (by simp)

/-- The tickets of the requests that wait are different, and those of requests that were resolved
are not among them. -/
structure IsClear (id : SessionId) (p : Position) : Prop where
  nodup : (openTickets p.session).Nodup
  lt : ∀ t ∈ openTickets p.session, t < p.session.tickets
  resolved : ∀ t m, .dealt id (.resolved t m) ∈ p.events →
    t < p.session.tickets ∧ t ∉ openTickets p.session

lemma IsClear.blank (config : Fields) (name : Json) : IsClear id ⟨.blank config name, [], []⟩ where
  nodup := List.nodup_nil
  lt _ h := (List.not_mem_nil h).elim
  resolved _ _ h := (List.not_mem_nil h).elim

lemma IsClear.step (hp : IsClear id p) (h : Step c id p q) (hs : p.session.Sound c id p.events) :
    IsClear id q := by
  cases Step.turnover h hs with
  | keeps fewer tickets resolved =>
    obtain ⟨l, hperm, hsub⟩ := fewer
    refine ⟨hperm.nodup_iff.mp (hsub.nodup hp.nodup), fun t ht => ?_, fun t m hm => ?_⟩
    · exact tickets ▸ hp.lt t (hsub.subset (hperm.mem_iff.mpr ht))
    · obtain ⟨hlt, hnot⟩ := hp.resolved t m (resolved t m hm)
      exact ⟨tickets ▸ hlt, fun ht => hnot (hsub.subset (hperm.mem_iff.mpr ht))⟩
  | takes more tickets resolved =>
    have hnew : p.session.tickets ∉ openTickets p.session := fun ht => Nat.lt_irrefl _ (hp.lt _ ht)
    refine ⟨more.nodup_iff.mpr (List.nodup_cons.mpr ⟨hnew, hp.nodup⟩), fun t ht => ?_, fun t m hm => ?_⟩
    · rw [tickets]
      rcases List.mem_cons.mp (more.mem_iff.mp ht) with rfl | ht
      · exact Nat.lt_succ_self _
      · exact Nat.lt_succ_of_lt (hp.lt t ht)
    · obtain ⟨hlt, hnot⟩ := hp.resolved t m (resolved t m hm)
      refine ⟨tickets ▸ Nat.lt_succ_of_lt hlt, fun ht => ?_⟩
      rcases List.mem_cons.mp (more.mem_iff.mp ht) with rfl | ht
      · exact Nat.lt_irrefl _ hlt
      · exact hnot ht
  | @resolves r m mem erased events =>
    have hsub : (openTickets q.session).Sublist (openTickets p.session) := by
      rw [erased]
      exact (List.Sublist.refl _).append (List.filter_sublist.map _)
    have hgone : r.ticket ∉ openTickets q.session := by
      rw [erased]
      refine fun ht => (List.mem_append.mp ht).elim (fun ht => ?_) fun ht => ?_
      · exact List.disjoint_of_nodup_append hp.nodup ht (List.mem_map_of_mem mem)
      · obtain ⟨k, hk, hticket⟩ := List.mem_map.mp ht
        obtain ⟨hk, hkey⟩ := List.mem_filter.mp hk
        have hpending := (List.nodup_append.mp hp.nodup).2.1
        obtain rfl := List.inj_on_of_nodup_map hpending hk mem hticket
        simp at hkey
    have htickets : q.session.tickets = p.session.tickets := by rw [erased]
    refine ⟨hsub.nodup hp.nodup, fun t ht => htickets ▸ hp.lt t (hsub.subset ht), fun t k hm => ?_⟩
    rw [events] at hm
    rcases List.mem_cons.mp hm with he | hm
    · obtain ⟨-, he⟩ := Event.dealt.inj he
      obtain ⟨rfl, -⟩ := Dealing.resolved.inj he
      have hmem : r.ticket ∈ openTickets p.session :=
        List.mem_append_right _ (List.mem_map_of_mem mem)
      exact ⟨htickets ▸ hp.lt _ hmem, hgone⟩
    · obtain ⟨hlt, hnot⟩ := hp.resolved t k hm
      exact ⟨htickets ▸ hlt, fun ht => hnot (hsub.subset ht)⟩

def isUnanswered : Event → Bool
  | .answered _ _ _ _ _ => false
  | _ => true

/-- Who is answered had its request resolved. -/
lemma Step.answered_or (h : Step c id p q) (hs : p.Sound c id) :
    Adds isUnanswered p.events q.events ∨ ∃ t label title m,
      q.events = .answered id t label title m :: p.events ∧ .dealt id (.resolved t m) ∈ p.events := by
  cases h
  case answered ticket callback title m =>
    have hdue := hs.answering ticket _ m List.mem_cons_self
    exact .inr ⟨ticket, callback.label, title, .object m, rfl, hdue.resolved⟩
  case deferred item _ _ _ _ _ _ _ | queued item _ _ _ _ _ _ =>
    exact .inl ((Adds.single rfl).acceptance (fun _ _ => rfl) item)
  case introduced => exact .inl ((Adds.single rfl).cons rfl)
  case notified writes | replied writes => exact .inl (writes.adds rfl rfl rfl)
  case requested writes => exact .inl (.trans (.single rfl) (writes.adds rfl rfl rfl))
  case saidGoodbye told left =>
    exact .inl (((told.adds rfl rfl rfl).trans (left.adds rfl rfl rfl)).cons rfl)
  case unheardGoodbye told => exact .inl ((told.adds rfl rfl rfl).cons rfl)
  case buried s es K last timeout status settled =>
    refine .inl ?_
    dsimp only
    unfold Session.burial
    split
    · exact (Adds.single rfl).cons rfl
    · exact .single rfl
  all_goals exact .inl (by first | exact .refl _ | exact .single rfl)

/-- What holds of the requests of a session at every position. -/
structure Keeps (id : SessionId) (p : Position) : Prop where
  written : CountsTo p.session.correlator.lastId (requestIds id p.events)
  pending : CountsTo p.session.correlator.lastId (p.session.correlator.pending.map (·.id)).reverse
  clear : IsClear id p
  answered : ∀ t label title m, .answered id t label title m ∈ p.events →
    .dealt id (.resolved t m) ∈ p.events

lemma Keeps.blank (config : Fields) (name : Json) : Keeps id ⟨.blank config name, [], []⟩ where
  written := .nil _
  pending := .nil _
  clear := .blank config name
  answered _ _ _ _ h := (List.not_mem_nil h).elim

lemma Keeps.step (hp : Keeps id p) (h : Step c id p q) (hs : p.Sound c id) : Keeps id q where
  written := Step.written h hp.written
  pending := Step.pending h hs.session hp.pending
  clear := hp.clear.step h hs.session
  answered t label title m ha := by
    rcases Step.answered_or h hs with hadds | ⟨t', label', title', m', he, hm⟩
    · exact h.suffix.subset (hp.answered t label title m (hadds.mem_of ha rfl))
    · rw [he] at ha ⊢
      rcases List.mem_cons.mp ha with ha | ha
      · obtain ⟨-, rfl, -, -, rfl⟩ := Event.answered.inj ha
        exact List.mem_cons_of_mem _ hm
      · exact List.mem_cons_of_mem _ (hp.answered t label title m ha)

lemma Keeps.steps (hp : Keeps id p) (h : Steps c id p q) (hs : p.Sound c id) : Keeps id q := by
  induction h with
  | refl => exact hp
  | tail hr h ih => exact ih.step h (Steps.sound_position hr hs)

lemma Keeps.isNumbered (hp : Keeps id p) (hs : p.Sound c id) :
    p.session.IsNumbered id p.events where
  written := hp.written
  pending := hp.pending
  isOpen r hr := by
    have hmem : r.ticket ∈ openTickets p.session := List.mem_append_right _ (List.mem_map_of_mem hr)
    have hunresolved : ∀ m, .dealt id (.resolved r.ticket m) ∉ p.events := fun m hm =>
      (hp.clear.resolved _ m hm).2 hmem
    obtain ⟨n, -, hn, hreg⟩ := hs.session.numbered r hr
    exact ⟨hs.session.pendingAccepted r hr, ⟨n, hn, hreg⟩, hunresolved, fun label title m hm =>
      hunresolved m (hp.answered _ label title m hm)⟩

end Numbers

open Numbers in
/-- Whatever a host and its callbacks do, and whatever the servers write: the requests of a session go out
under numbers that were never given before, and at any time those that wait for their answers stand in
the table in the order of their numbers. -/
theorem isNumbered_of_mem_outcomes {w : World} (hw : w.IsNew) {actions : List Action}
    (ha : actions.all (Conduct.any.admits .host)) {o : Outcome} (ho : o ∈ outcomes w actions)
    (id : SessionId) {s : Session} {es : List Event} (saw : o.world.Saw id s es) :
    s.IsNumbered id es := by
  obtain ⟨K, hto, -⟩ := exists_position_of_saw (steps_of_mem_outcomes hw ha ho id) rfl saw
  exact ((Keeps.blank _ _).steps hto (.blank _ _)).isNumbered (Steps.sound_position hto (.blank _ _))

/-- A callback that asks again before it raises, and a request that is still pending at the end. -/
theorem isNumbered_of_mem_outcomes_again :
    let again := some (Callback.mk "again" [.session .null (.pushRequest "again" .null none .null),
      .session .null .tick] (some "no"))
    let actions : List Action :=
      [.session .null (.handshake .null "editor" "1" none), .session .null .tick,
        .session .null (.pushRequest "hover" .null again .null),
        .link .null (.write [Message.response (.int 1) (.object [])]), .session .null .tick,
        .session .null .tick, .link .null (.write [Message.response (.int 2) .null]),
        .session .null .tick, .session .null .nextId, .session .null (.pushRequest "last" .null none .null),
        .session .null .tick]
    (World.serving "server").IsNew ∧ actions.all (Conduct.any.admits .host) ∧
      ∃ o ∈ outcomes (.serving "server") actions,
        (requestIds 0 (o.world.story 0)).map Json.display = ["5", "3", "2", "1"] ∧
        (o.world.session 0).correlator.pending.map (·.id.display) = ["3", "5"] ∧
        (o.world.session 0).IsNumbered 0 (o.world.story 0) := by
  intro again actions
  have hw : (World.serving "server").IsNew := World.isNew_serving "server"
  have ha : actions.all (Conduct.any.admits .host) := by decide
  have hrun : ∃ o ∈ outcomes (.serving "server") actions,
      (requestIds 0 (o.world.story 0)).map Json.display = ["5", "3", "2", "1"] ∧
        (o.world.session 0).correlator.pending.map (·.id.display) = ["3", "5"] := by
    decide +kernel
  obtain ⟨o, ho, hids, hpending⟩ := hrun
  exact ⟨hw, ha, o, ho, hids, hpending, isNumbered_of_mem_outcomes hw ha ho 0 .now⟩

end LanguageClient
