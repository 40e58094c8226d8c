import LanguageClient.Proofs.Session.Calls
import LanguageClient.Proofs.Steps.Ending
import LanguageClient.Proofs.Wire.Calls

/-!
Shapes of a session. What may be written to a server depends on what was written to it before; a
session has one of five shapes, and the shape says which calls its queues may hold.
-/

namespace LanguageClient

open Call (Kind)

/-- A host that does not push what belongs to the life of a session, whose requests to open one can be
written, that sends requests only in the course of ticks, and whose callbacks leave the phases of a
tick alone. -/
structure Conduct.KeepsOrder (c : Conduct) (config : Fields) : Prop where
  phases : c.LeavesPhases
  requests : ¬ c.allows .sendRequests
  items : ∀ a, c.allows a → ∀ (s : Session) item, a.item? s = some item →
    Kind.ofMethod (Deferred.method item) = .other
  opening : ∀ rootUri name version callback, c.allows (.handshake rootUri name version callback) →
    ∀ s : Session, s.config = config → ∀ rootPath, Session.rootPathOf rootUri = .ok rootPath →
      (s.openingRequest (s.openingParams rootUri rootPath name version) callback).IsSendable

namespace Wire

variable {c : Conduct} {id : SessionId} {p q : Position}

/-! Shapes of a session -/

structure IsOpeningRequest (r : OutgoingRequest) : Prop where
  kind : Kind.ofMethod r.method = .opening
  timeout : r.timeout = .null
  sendable : r.IsSendable

/-- The server was asked to open the session, and got no other call. -/
structure HasAsked (id : SessionId) (es : List Event) : Prop where
  asked : .opening ∈ calls id es
  only : ∀ k ∈ calls id es, k = .reply ∨ k = .opening

/-- A session that ends, of which nothing is left to do but to give answers, and what callbacks do
meanwhile. -/
inductive EndsAbove : List Task → Prop where
  | ending {last K} : EndsAbove (.ending last :: K)
  | answering {t handler m K} : EndsAbove K → EndsAbove (.answering t handler m :: K)
  | refused {t callback m K} : EndsAbove K → EndsAbove (.refused t callback m :: K)
  | telling {l params K} : EndsAbove K → EndsAbove (.telling l params :: K)
  | expiring {K} : EndsAbove K → EndsAbove (.expiring :: K)
  | performing {a before earlier K} : EndsAbove K → EndsAbove (.performing a before earlier :: K)

/-- Its server got no call yet. -/
structure IsIdle (id : SessionId) (p : Position) : Prop where
  status : p.session.status ≠ .initialized ∧ p.session.status ≠ .terminated
  fresh : p.session.status = .uninitialized → p.session.requests = []
  notifications : p.session.notifications = []
  requests : p.session.requests = [] ∨
    p.session.link.isSome ∧ ∃ r, p.session.requests = [r] ∧ IsOpeningRequest r
  pending : p.session.correlator.pending = []
  leaving : .leaving true ∉ p.tasks
  answering : ∀ t handler m, .answering t handler m ∉ p.tasks
  silent : ∀ k ∈ calls id p.events, k = .reply

/-- Its server was asked to open it. -/
structure IsAsked (id : SessionId) (p : Position) : Prop where
  status : p.session.status = .initializing ∨ p.session.status = .shuttingDown
  linked : p.session.link.isSome
  notifications : p.session.notifications = []
  requests : p.session.requests = []
  hasAsked : HasAsked id p.events

/-- Its server is to be told that it is open. -/
structure IsWelcome (id : SessionId) (p : Position) : Prop where
  status : p.session.status = .initialized ∨ p.session.status = .shuttingDown
  linked : p.session.link.isSome
  notifications : ∃ rest, p.session.notifications = Session.opened :: rest ∧
    ∀ n ∈ rest, Kind.ofMethod n.method = .other
  requests : ∀ r ∈ p.session.requests, Kind.ofMethod r.method = .other
  hasAsked : HasAsked id p.events
  welcomed : IsWelcomed id p.events

/-- Its server was told that it is open. -/
structure IsOpen (id : SessionId) (p : Position) : Prop where
  status : p.session.status = .initialized ∨ p.session.status = .shuttingDown
  notifications : ∀ n ∈ p.session.notifications, Kind.ofMethod n.method = .other
  requests : ∀ r ∈ p.session.requests, Kind.ofMethod r.method = .other
  asked : .opening ∈ calls id p.events
  told : .opened ∈ calls id p.events
  lasting : .shutdown ∉ calls id p.events

/-- Nothing can be written to its server any more. -/
structure IsOver (p : Position) : Prop where
  status : p.session.status = .terminated
  closed : p.session.IsClosed ∨ EndsAbove p.tasks

inductive Shape (id : SessionId) (p : Position) : Prop where
  | idle (h : IsIdle id p)
  | asked (h : IsAsked id p)
  | welcome (h : IsWelcome id p)
  | opened (h : IsOpen id p)
  | finished (h : IsOver p)

structure Keeps (id : SessionId) (p : Position) : Prop where
  ordered : IsOrdered id p.events
  deferred : ∀ item ∈ p.session.deferred, Kind.ofMethod (Deferred.method item) = .other
  shape : (∃ refused, .noted id (.refused refused) ∈ p.events) ∨ Shape id p

lemma Keeps.blank (config : Fields) (name : Json) : Keeps id ⟨.blank config name, [], []⟩ where
  ordered _ _ _ h := (List.cons_ne_nil _ _ (List.suffix_nil.mp h)).elim
  deferred _ h := (List.not_mem_nil h).elim
  shape := by
    refine .inr (.idle ⟨⟨nofun, nofun⟩, fun _ => rfl, rfl, .inl rfl, rfl, ?_, ?_, ?_⟩)
    · exact List.not_mem_nil
    · exact fun _ _ _ => List.not_mem_nil
    · exact fun _ h => (List.not_mem_nil h).elim

/-! What may be written -/

lemma HasAsked.shutdown_not_mem {es : List Event} (h : HasAsked id es) :
    .shutdown ∉ calls id es := by
  intro hm
  rcases h.only _ hm with h | h <;> cases h

lemma HasAsked.opened_not_mem {es : List Event} (h : HasAsked id es) : .opened ∉ calls id es := by
  intro hm
  rcases h.only _ hm with h | h <;> cases h

lemma IsIdle.shutdown_not_mem (h : IsIdle id p) : .shutdown ∉ calls id p.events := by
  intro hm
  cases h.silent _ hm

/-- A reply may be written to a server that was not told to shut down. -/
lemma Shape.over_or (h : Shape id p) : IsOver p ∨ .shutdown ∉ calls id p.events := by
  cases h with
  | idle h => exact .inr h.shutdown_not_mem
  | asked h => exact .inr h.hasAsked.shutdown_not_mem
  | welcome h => exact .inr h.hasAsked.shutdown_not_mem
  | opened h => exact .inr h.lasting
  | finished h => exact .inl h

lemma Shape.isOver (h : Shape id p) (hs : p.session.status = .terminated) : IsOver p := by
  cases h with
  | idle hi => exact (hi.status.2 hs).elim
  | asked hi | welcome hi | opened hi => rcases hi.status with h | h <;> cases hs.symm.trans h
  | finished hi => exact hi

lemma IsOver.refuses {s : Session} {es es' : List Event} {K : List Task} {message : Json}
    {result : Except Fault Unit} (h : IsOver ⟨s, es, K⟩) (hK : ¬ EndsAbove K)
    (hw : Writes id s message es result es') : ∃ f, result = .error f := by
  have hclosed := h.closed.resolve_right hK
  cases hw with
  | sent linked accepts encodes =>
    have hc := hclosed _ linked
    simp [Link.accepts, Link.isAlive, hc] at accepts
  | refused | unlinked | unencodable => exact ⟨_, rfl⟩

lemma ordered_of_refused {s : Session} {es es' : List Event} {message refused : Json}
    {result : Except Fault Unit} (h : IsOrdered id es) (hr : .noted id (.refused refused) ∈ es)
    (hw : Writes id s message es result es') (hs : StaysRefusing id es') : IsOrdered id es' := by
  refine h.writes hw fun hok => ?_
  subst hok
  cases hw with
  | sent => exact (hs _ _ _ (List.suffix_refl _) _ hr).elim

/-! Steps that write nothing and leave the queues alone -/

/-- What matters of a session is as it was. -/
structure IsSame (s s' : Session) : Prop where
  status : s'.status = s.status
  linked : s.link.isSome → s'.link.isSome
  closed : s.status = .terminated → s.IsClosed → s'.IsClosed
  notifications : s'.notifications = s.notifications
  requests : s'.requests = s.requests
  pending : s.correlator.pending = [] → s'.correlator.pending = []

lemma IsSame.of_eq {s s' : Session} (hs : s'.status = s.status) (hl : s'.link = s.link)
    (hn : s'.notifications = s.notifications) (hr : s'.requests = s.requests)
    (hp : s'.correlator.pending = s.correlator.pending) : IsSame s s' where
  status := hs
  linked h := hl ▸ h
  closed _ h := by rwa [Session.IsClosed, hl]
  notifications := hn
  requests := hr
  pending h := hp.trans h

/-- What matters of what a session is in the middle of is as it was. -/
structure Carries (s : Session) (K K' : List Task) : Prop where
  leaving : .leaving true ∈ K' → .leaving true ∈ K
  answering : s.correlator.pending = [] → ∀ t handler m, .answering t handler m ∈ K' →
    ∃ t handler m, .answering t handler m ∈ K
  ending : s.status = .terminated → EndsAbove K → EndsAbove K'

lemma Carries.refl (s : Session) (K : List Task) : Carries s K K where
  leaving h := h
  answering _ _ _ _ h := ⟨_, _, _, h⟩
  ending _ h := h

lemma Carries.pop {s : Session} {task : Task} {K : List Task} (ht : ∀ last, task ≠ .ending last) :
    Carries s (task :: K) K where
  leaving h := List.mem_cons_of_mem _ h
  answering _ _ _ _ h := ⟨_, _, _, List.mem_cons_of_mem _ h⟩
  ending _ h := by
    cases h with
    | ending => exact (ht _ rfl).elim
    | answering h | refused h | telling h | expiring h | performing h => exact h

lemma Carries.push {s : Session} {task : Task} {K : List Task} (hl : task ≠ .leaving true)
    (ha : ∀ t handler m, task ≠ .answering t handler m)
    (he : s.status = .terminated → ¬ EndsAbove K) : Carries s K (task :: K) where
  leaving h := List.mem_of_ne_of_mem hl.symm h
  answering _ t handler m h := ⟨t, handler, m, List.mem_of_ne_of_mem (ha t handler m).symm h⟩
  ending hs h := (he hs h).elim

lemma not_endsAbove_of_drains {task : Task} {K : List Task} (h : task.drains) : ¬ EndsAbove (task :: K) :=
  fun he => by cases he <;> cases h

lemma Carries.due {s : Session} {K : List Task} (found : Session) (m : Fields) (hK : ¬ EndsAbove K) :
    Carries s K (found.due m ++ K) where
  leaving h := by simpa using h
  answering _ t handler m h := ⟨t, handler, m, by simpa using h⟩
  ending _ h := (hK h).elim

lemma EndsAbove.owed {K : List Task} (h : EndsAbove K) (ticket : Nat) (m : Fields)
    (handler : Option Handler) : EndsAbove (Task.owed ticket m handler ++ K) := by
  cases handler with
  | none => exact h
  | some handler => exact .answering h

lemma HasAsked.quietly {es es' : List Event} (h : HasAsked id es) (hq : Quietly es es') :
    HasAsked id es' := by
  refine ⟨?_, ?_⟩ <;> rw [hq.calls_eq]
  · exact h.asked
  · exact h.only

lemma Shape.aside {s s' : Session} {es es' : List Event} {K K' : List Task}
    (h : Shape id ⟨s, es, K⟩) (hs : IsSame s s') (hK : Carries s K K') (hq : Quietly es es') :
    Shape id ⟨s', es', K'⟩ := by
  have hcalls : calls id es' = calls id es := hq.calls_eq
  cases h with
  | idle h =>
    have hrequests : s'.requests = [] ∨
        s'.link.isSome ∧ ∃ r, s'.requests = [r] ∧ IsOpeningRequest r := by
      rw [hs.requests]
      exact h.requests.imp_right fun ⟨hl, hr⟩ => ⟨hs.linked hl, hr⟩
    have hanswering : ∀ t handler m, .answering t handler m ∉ K' := by
      intro t handler m ht
      obtain ⟨t, handler, m, ht⟩ := hK.answering h.pending t handler m ht
      exact h.answering t handler m ht
    exact .idle ⟨hs.status ▸ h.status, fun hu => hs.requests.trans (h.fresh (hs.status ▸ hu)),
      hs.notifications.trans h.notifications, hrequests,
      hs.pending h.pending, fun hl => h.leaving (hK.leaving hl), hanswering, hcalls ▸ h.silent⟩
  | asked h =>
    exact .asked ⟨hs.status ▸ h.status, hs.linked h.linked, hs.notifications.trans h.notifications,
      hs.requests.trans h.requests, h.hasAsked.quietly hq⟩
  | welcome h =>
    exact .welcome ⟨hs.status ▸ h.status, hs.linked h.linked, hs.notifications ▸ h.notifications,
      hs.requests ▸ h.requests, h.hasAsked.quietly hq, h.welcomed.mono hq.suffix⟩
  | opened h =>
    exact .opened ⟨hs.status ▸ h.status, hs.notifications ▸ h.notifications, hs.requests ▸ h.requests,
      hcalls ▸ h.asked, hcalls ▸ h.told, hcalls ▸ h.lasting⟩
  | finished h =>
    exact .finished ⟨hs.status.trans h.status, h.closed.imp (hs.closed h.status) (hK.ending h.status)⟩

lemma Keeps.aside {s s' : Session} {es es' : List Event} {K K' : List Task}
    (h : Keeps id ⟨s, es, K⟩) (hd : s'.deferred ⊆ s.deferred) (hs : IsSame s s')
    (hK : Carries s K K') (hq : Quietly es es') : Keeps id ⟨s', es', K'⟩ where
  ordered := h.ordered.quietly hq
  deferred item hi := h.deferred item (hd hi)
  shape := h.shape.imp (fun ⟨refused, hr⟩ => ⟨refused, hq.suffix.subset hr⟩) (·.aside hs hK hq)

lemma Keeps.resolve {s : Session} {es : List Event} {K : List Task} {answered : Json}
    {r : Pending Handler} (h : Keeps id ⟨s, es, K⟩)
    (found : s.correlator.answered? answered = some r) (m : Fields) (d : Dealing) :
    Keeps id ⟨{ s with correlator := s.correlator.erase r.key }, .dealt id d :: es,
      Task.owed r.ticket m r.handler ++ K⟩ := by
  have hmem := (Correlator.mem_of_answered? found).1
  have hpending : s.correlator.pending ≠ [] := List.ne_nil_of_mem hmem
  refine h.aside (List.Subset.refl _) ?_ ?_ (.single rfl)
  · exact ⟨rfl, fun h => h, fun _ h => h, rfl, rfl, fun h => (hpending h).elim⟩
  · refine ⟨fun hl => ?_, fun h => (hpending h).elim, fun _ he => he.owed _ _ _⟩
    simpa [Task.mem_owed] using hl

/-! Steps that write -/

lemma not_endsAbove_of_frees {s : Session} {K : List Task} {a : SessionAction}
    (hc : c.LeavesPhases) (ha : a.isPhase) (hs : s.status = .terminated) (hf : c.Frees a s K) :
    ¬ EndsAbove K := by
  rcases hf.1 with h | ⟨before, earlier, rfl⟩ | h
  · exact (h hs).elim
  · rintro ⟨⟩
    rename EndsAbove [] => h
    cases h
  · rw [hc a ha] at h
    cases h

lemma calls_of_writes {s : Session} {es es' : List Event} {message : Json}
    {result : Except Fault Unit} (h : Writes id s message es result es') :
    ∀ k ∈ calls id es', k ∈ calls id es ∨ k = message.callKind := by
  intro k hk
  cases result with
  | error f => exact .inl (h.quietly.calls_eq ▸ hk)
  | ok _ =>
    cases h with
    | sent =>
      rw [calls_sent] at hk
      exact (List.mem_cons.mp hk).symm

lemma calls_subset {es es' : List Event} (h : es <:+ es') : calls id es ⊆ calls id es' :=
  (h.sublist.filterMap _).subset

lemma IsOpen.later {s : Session} {es es' : List Event} {K : List Task} {k : Kind}
    (h : IsOpen id ⟨s, es, K⟩) (hs : es <:+ es') (hk : k ≠ .shutdown)
    (hc : ∀ k' ∈ calls id es', k' ∈ calls id es ∨ k' = k) : IsOpen id ⟨s, es', K⟩ := by
  refine ⟨h.status, h.notifications, h.requests, calls_subset hs h.asked, calls_subset hs h.told, ?_⟩
  intro hm
  rcases hc _ hm with hm | he
  · exact h.lasting hm
  · exact hk he.symm

lemma HasAsked.later {es es' : List Event} (h : HasAsked id es) (hs : es <:+ es')
    (hc : ∀ k ∈ calls id es', k ∈ calls id es ∨ k = .reply) : HasAsked id es' :=
  ⟨calls_subset hs h.asked, fun k hk => (hc k hk).elim (h.only k) .inl⟩

lemma Keeps.reply {s found : Session} {es es' : List Event} {K : List Task} {m : Fields}
    {reply : Json} {result : Except Fault Unit} (h : Keeps id ⟨s, es, .turning m found :: K⟩)
    (isReply : Message.IsReply m reply) (writes : Writes id s reply es result es')
    (hr : StaysRefusing id es') : Keeps id ⟨s, es', .turning m found :: K⟩ := by
  rcases h.shape with ⟨refused, hm⟩ | hshape
  · exact ⟨ordered_of_refused h.ordered hm writes hr, h.deferred,
      .inl ⟨refused, writes.suffix.subset hm⟩⟩
  have hcalls := isReply.callKind ▸ calls_of_writes writes
  have hsuffix := writes.suffix
  rcases hshape.over_or with hover | hlasting
  · have hends : ¬ EndsAbove (.turning m found :: K) := fun he => by cases he
    obtain ⟨f, rfl⟩ := hover.refuses hends writes
    exact h.aside (List.Subset.refl _) (.of_eq rfl rfl rfl rfl rfl)
      (.refl s _) writes.quietly
  · refine ⟨h.ordered.writes writes fun _ => isReply.callKind ▸ hlasting, h.deferred, .inr ?_⟩
    cases hshape with
    | idle h => exact .idle { h with silent := fun k hk => (hcalls k hk).elim (h.silent k) fun h => h }
    | asked h => exact .asked { h with hasAsked := h.hasAsked.later hsuffix hcalls }
    | welcome h =>
      exact .welcome { h with
        hasAsked := h.hasAsked.later hsuffix hcalls, welcomed := h.welcomed.mono hsuffix }
    | opened h => exact .opened (h.later hsuffix (by decide) hcalls)
    | finished h => exact .finished { h with }

lemma Keeps.notify {s : Session} {es es' : List Event} {K : List Task} {n : OutgoingNotification}
    {rest : List OutgoingNotification} {result : Except Fault Unit} (h : Keeps id ⟨s, es, K⟩)
    (hc : c.LeavesPhases) (queue : s.notifications = n :: rest)
    (free : c.Frees .sendNotifications s K)
    (writes : Writes id s (Message.notification n.method n.params) es result es')
    (hr : StaysRefusing id es') : Keeps id ⟨{ s with notifications := rest }, es', K⟩ := by
  rcases h.shape with ⟨refused, hm⟩ | hshape
  · exact ⟨ordered_of_refused h.ordered hm writes hr, h.deferred,
      .inl ⟨refused, writes.suffix.subset hm⟩⟩
  have hempty : s.notifications ≠ [] := by simp [queue]
  cases hshape with
  | idle hi => exact (hempty hi.notifications).elim
  | asked hi => exact (hempty hi.notifications).elim
  | welcome hi =>
    obtain ⟨rest', hn, hrest⟩ := hi.notifications
    obtain ⟨rfl, rfl⟩ := List.cons.inj (queue.symm.trans hn)
    have hmay : MayFollow id es .opened :=
      ⟨hi.hasAsked.asked, hi.hasAsked.opened_not_mem, hi.hasAsked.shutdown_not_mem, hi.welcomed⟩
    refine ⟨h.ordered.writes writes fun _ => hmay, h.deferred, ?_⟩
    cases writes with
    | sent linked accepts encodes =>
      refine .inr (.opened ⟨hi.status, hrest, hi.requests, ?_, ?_, ?_⟩) <;> rw [calls_sent]
      · exact List.mem_cons_of_mem _ hi.hasAsked.asked
      · exact List.mem_cons_self
      · exact List.not_mem_cons_of_ne_of_not_mem (by decide) hi.hasAsked.shutdown_not_mem
    | refused => exact .inl ⟨_, List.mem_cons_self⟩
    | unlinked linked closed =>
      have hl := hi.linked
      rw [show s.link = none from linked] at hl
      cases hl
    | unencodable linked encodes closed => exact (encodes Session.opened_isSendable).elim
  | opened hi =>
    have hkind : Kind.ofMethod n.method = .other :=
      hi.notifications n (queue ▸ List.mem_cons_self)
    have hcalls : ∀ k ∈ calls id es', k ∈ calls id es ∨ k = .other := hkind ▸ calls_of_writes writes
    have hmay : MayFollow id es (Message.notification n.method n.params).callKind := by
      rw [callKind_notification, hkind]
      exact ⟨hi.asked, hi.told, hi.lasting⟩
    have hlater := hi.later writes.suffix (by decide) hcalls
    refine ⟨h.ordered.writes writes fun _ => hmay, h.deferred, .inr (.opened { hlater with
      notifications := fun k hk => hi.notifications k (queue ▸ List.mem_cons_of_mem n hk) })⟩
  | finished hi =>
    obtain ⟨f, rfl⟩ := hi.refuses (not_endsAbove_of_frees hc rfl hi.status free) writes
    exact ⟨h.ordered.quietly writes.quietly, h.deferred, .inr (.finished ⟨hi.status, hi.closed⟩)⟩

lemma Keeps.request {s : Session} {es es' : List Event} {K : List Task} {r : OutgoingRequest}
    {rest : List OutgoingRequest} {entry : Pending Handler} {result : Except Fault Unit}
    (h : Keeps id ⟨s, es, K⟩) (hc : c.LeavesPhases) (hno : ¬ c.allows .sendRequests)
    (few : s.nextNumber < numberLimit) (queue : s.requests = r :: rest) (free : c.Frees .sendRequests s K)
    (first : s.notifications = [] ∨ c.allows .sendRequests)
    (writes : Writes id s (Message.request (Json.ofNat s.nextNumber) r.method r.params)
      (.dealt id (.registered r.ticket s.nextNumber) :: es) result es')
    (hr : StaysRefusing id es') :
    Keeps id ⟨{ s with requests := rest, correlator := s.correlator.advance.register entry }, es',
      K⟩ := by
  have hdealt : Quietly es (.dealt id (.registered r.ticket s.nextNumber) :: es) := .single rfl
  have hordered := h.ordered.quietly hdealt
  have hsuffix := hdealt.suffix.trans writes.suffix
  rcases h.shape with ⟨refused, hm⟩ | hshape
  · exact ⟨ordered_of_refused hordered (List.mem_cons_of_mem _ hm) writes hr, h.deferred,
      .inl ⟨refused, hsuffix.subset hm⟩⟩
  have hempty : s.requests ≠ [] := by simp [queue]
  cases hshape with
  | idle hi =>
    obtain ⟨hlinked, r', hq, hopens⟩ := hi.requests.resolve_left hempty
    obtain ⟨rfl, rfl⟩ := List.cons.inj (queue.symm.trans hq)
    have hsilent : ∀ k ∈ calls id (.dealt id (.registered r.ticket s.nextNumber) :: es), k = .reply :=
      hdealt.calls_eq ▸ hi.silent
    refine ⟨hordered.writes writes fun _ => ?_, h.deferred, ?_⟩
    · rw [callKind_request, hopens.kind]
      exact hsilent
    cases writes with
    | sent linked accepts encodes =>
      have hstatus : s.status = .initializing ∨ s.status = .shuttingDown := by
        have hfresh : s.status ≠ .uninitialized := fun hu => hempty (hi.fresh hu)
        have hnot := hi.status
        cases hs : s.status <;> simp_all
      refine .inr (.asked ⟨hstatus, hlinked, hi.notifications, rfl, ?_, ?_⟩)
      all_goals rw [calls_sent, callKind_request, hopens.kind]
      · exact List.mem_cons_self
      · exact List.forall_mem_cons.mpr ⟨.inr rfl, fun k hk => .inl (hsilent k hk)⟩
    | refused => exact .inl ⟨_, List.mem_cons_self⟩
    | unlinked linked closed =>
      rw [show s.link = none from linked] at hlinked
      cases hlinked
    | unencodable linked encodes closed => exact (encodes (hopens.sendable.encodes _ few)).elim
  | asked hi => exact (hempty hi.requests).elim
  | welcome hi =>
    obtain ⟨rest', hn, -⟩ := hi.notifications
    have hnil := first.resolve_right hno
    rw [hn] at hnil
    cases hnil
  | opened hi =>
    have hkind : Kind.ofMethod r.method = .other := hi.requests r (queue ▸ List.mem_cons_self)
    have hsame : calls id (.dealt id (.registered r.ticket s.nextNumber) :: es) = calls id es :=
      hdealt.calls_eq
    have hcalls : ∀ k ∈ calls id es', k ∈ calls id es ∨ k = .other := by
      rw [← hkind]
      exact hsame ▸ calls_of_writes writes
    refine ⟨hordered.writes writes fun _ => ?_, h.deferred, .inr (.opened ?_)⟩
    · rw [callKind_request, hkind, MayFollow, hdealt.calls_eq]
      exact ⟨hi.asked, hi.told, hi.lasting⟩
    · have hlater := hi.later hsuffix (by decide) hcalls
      exact { hlater with
        requests := fun k hk => hi.requests k (queue ▸ List.mem_cons_of_mem r hk) }
  | finished hi =>
    have hover : IsOver ⟨s, .dealt id (.registered r.ticket s.nextNumber) :: es, K⟩ :=
      ⟨hi.status, hi.closed⟩
    obtain ⟨f, rfl⟩ := hover.refuses (not_endsAbove_of_frees hc rfl hi.status free) writes
    exact ⟨hordered.quietly writes.quietly, h.deferred, .inr (.finished ⟨hi.status, hi.closed⟩)⟩

lemma Keeps.drop {s : Session} {es : List Event} {K : List Task} {r : OutgoingRequest}
    {rest : List OutgoingRequest} {now : Float} {f : Fault} (h : Keeps id ⟨s, es, K⟩)
    (queue : s.requests = r :: rest)
    (entry : Correlator.entry (Json.ofNat s.nextNumber) r.method r.handler r.ticket now r.timeout =
      .error f) :
    Keeps id ⟨{ s with requests := rest, correlator := s.correlator.advance }, es, K⟩ := by
  refine ⟨h.ordered, h.deferred, h.shape.imp_right fun hshape => ?_⟩
  have hempty : s.requests ≠ [] := by simp [queue]
  have hrest : ∀ k ∈ rest, k ∈ s.requests := fun k hk => queue ▸ List.mem_cons_of_mem r hk
  cases hshape with
  | idle hi =>
    obtain ⟨hlinked, r', hq, hopens⟩ := hi.requests.resolve_left hempty
    obtain ⟨rfl, rfl⟩ := List.cons.inj (queue.symm.trans hq)
    rw [hopens.timeout] at entry
    cases entry
  | asked hi => exact (hempty hi.requests).elim
  | welcome hi => exact .welcome { hi with requests := fun k hk => hi.requests k (hrest k hk) }
  | opened hi => exact .opened { hi with requests := fun k hk => hi.requests k (hrest k hk) }
  | finished hi => exact .finished { hi with }

/-! Opening -/

lemma Keeps.introduce {s : Session} {es : List Event} {K : List Task} {params : Json}
    {callback : Option Callback} (h : Keeps id ⟨s, es, K⟩) (hs : s.status = .uninitialized)
    (hl : s.link.isSome) (hsendable : (s.openingRequest params callback).IsSendable) (d : Dealing) :
    Keeps id ⟨s.introduce params callback, .dealt id d :: es, K⟩ := by
  have hq : Quietly es (.dealt id d :: es) := .single rfl
  refine ⟨h.ordered.quietly hq, h.deferred, ?_⟩
  refine h.shape.imp (fun ⟨refused, hr⟩ => ⟨refused, hq.suffix.subset hr⟩) fun hshape => ?_
  have hidle : IsIdle id ⟨s, es, K⟩ := by
    cases hshape with
    | idle hi => exact hi
    | asked hi | welcome hi | opened hi => rcases hi.status with h | h <;> cases hs.symm.trans h
    | finished hi => cases hs.symm.trans hi.status
  have hrequests : (s.introduce params callback).requests = [s.openingRequest params callback] := by
    rw [Session.introduce, show s.requests = [] from hidle.fresh hs, List.nil_append]
  have hopens : IsOpeningRequest (s.openingRequest params callback) := ⟨rfl, rfl, hsendable⟩
  have hstatus : (s.introduce params callback).status = .initializing := rfl
  exact .idle { hidle with
    status := by simp [hstatus]
    fresh := by simp [hstatus]
    requests := .inr ⟨hl, _, hrequests, hopens⟩
    silent := hq.calls_eq ▸ hidle.silent }

lemma Keeps.defer {s : Session} {es : List Event} {K : List Task} {item : Deferred}
    (h : Keeps id ⟨s, es, K⟩) (hi : Kind.ofMethod (Deferred.method item) = .other) :
    Keeps id ⟨{ s with deferred := s.deferred ++ [item] }.count item,
      Deferred.acceptance id item ++ .noted id (.deferred item) :: es, K⟩ := by
  have hq : Quietly es (Deferred.acceptance id item ++ .noted id (.deferred item) :: es) :=
    (Quietly.single rfl).acceptance item
  have hdeferred : ({ s with deferred := s.deferred ++ [item] }.count item).deferred =
      s.deferred ++ [item] := by
    cases item <;> rfl
  have hsame : IsSame s ({ s with deferred := s.deferred ++ [item] }.count item) := by
    cases item <;> exact (.of_eq rfl rfl rfl rfl rfl)
  refine ⟨h.ordered.quietly hq, ?_, ?_⟩
  · rw [hdeferred]
    exact List.forall_mem_append.mpr ⟨h.deferred, List.forall_mem_singleton.mpr hi⟩
  · exact h.shape.imp (fun ⟨refused, hr⟩ => ⟨refused, hq.suffix.subset hr⟩)
      (·.aside hsame (.refl s K) hq)

lemma Keeps.queue {s : Session} {es : List Event} {K : List Task} {item : Deferred}
    (h : Keeps id ⟨s, es, K⟩) (hs : s.status = .initialized)
    (hi : Kind.ofMethod (Deferred.method item) = .other) :
    Keeps id ⟨(s.queue item).count item, Deferred.acceptance id item ++ es, K⟩ := by
  have hq : Quietly es (Deferred.acceptance id item ++ es) := (Quietly.refl es).acceptance item
  have hcalls : calls id (Deferred.acceptance id item ++ es) = calls id es := hq.calls_eq
  refine ⟨h.ordered.quietly hq, ?_, ?_⟩
  · cases item <;> exact h.deferred
  refine h.shape.imp (fun ⟨refused, hr⟩ => ⟨refused, hq.suffix.subset hr⟩) fun hshape => ?_
  cases hshape with
  | idle h => exact (h.status.1 hs).elim
  | asked h => rcases h.status with h | h <;> cases hs.symm.trans h
  | welcome h =>
    obtain ⟨rest, hn, hrest⟩ := h.notifications
    refine .welcome ?_
    cases item with
    | inl n =>
      refine { h with
        notifications := ⟨rest ++ [n], congrArg (· ++ [n]) hn, ?_⟩
        hasAsked := h.hasAsked.quietly hq, welcomed := h.welcomed.mono hq.suffix }
      exact List.forall_mem_append.mpr ⟨hrest, List.forall_mem_singleton.mpr hi⟩
    | inr r =>
      refine { h with
        requests := List.forall_mem_append.mpr ⟨h.requests, List.forall_mem_singleton.mpr hi⟩
        hasAsked := h.hasAsked.quietly hq, welcomed := h.welcomed.mono hq.suffix }
  | opened h =>
    refine .opened ?_
    cases item with
    | inl n =>
      exact { h with
        notifications := List.forall_mem_append.mpr
          ⟨h.notifications, List.forall_mem_singleton.mpr hi⟩ }
    | inr r =>
      exact { h with
        requests := List.forall_mem_append.mpr ⟨h.requests, List.forall_mem_singleton.mpr hi⟩
        asked := hcalls ▸ h.asked, told := hcalls ▸ h.told, lasting := hcalls ▸ h.lasting }
  | finished h => cases hs.symm.trans h.status

lemma Keeps.welcome {s : Session} {es : List Event} {K : List Task} {ticket : Nat}
    {callback : Option Callback} {m : Fields} (capabilities serverInfo : Json)
    (h : Keeps id ⟨s, es, .answering ticket (.opening callback) m :: K⟩)
    (hs : s.status = .initializing) (hw : IsWelcomed id es) (K' : List Task) (n : Note) :
    Keeps id ⟨s.welcome capabilities serverInfo, .noted id n :: es, K'⟩ := by
  have hq : Quietly es (.noted id n :: es) := .single rfl
  refine ⟨h.ordered.quietly hq, fun _ hi => (List.not_mem_nil hi).elim, ?_⟩
  refine h.shape.imp (fun ⟨refused, hr⟩ => ⟨refused, hq.suffix.subset hr⟩) fun hshape => ?_
  cases hshape with
  | idle hi => exact (hi.answering _ _ _ List.mem_cons_self).elim
  | asked hi =>
    refine .welcome ⟨.inl rfl, hi.linked, ⟨s.deferred.filterMap Sum.getLeft?, ?_, ?_⟩, ?_,
      hi.hasAsked.quietly hq, hw.mono hq.suffix⟩
    · change s.notifications ++ [Session.opened] ++ _ = _
      rw [show s.notifications = [] from hi.notifications]
      rfl
    · intro k hk
      obtain ⟨item, hmem, hleft⟩ := List.mem_filterMap.mp hk
      rw [Sum.getLeft?_eq_some_iff.mp hleft] at hmem
      exact h.deferred _ hmem
    · intro k hk
      change k ∈ s.requests ++ _ at hk
      rw [show s.requests = [] from hi.requests, List.nil_append] at hk
      obtain ⟨item, hmem, hright⟩ := List.mem_filterMap.mp hk
      rw [Sum.getRight?_eq_some_iff.mp hright] at hmem
      exact h.deferred _ hmem
  | welcome hi | opened hi => rcases hi.status with h | h <;> cases hs.symm.trans h
  | finished hi => cases hs.symm.trans hi.status

/-! Ending -/

lemma Keeps.leave {s : Session} {es : List Event} {K : List Task} (h : Keeps id ⟨s, es, K⟩)
    (hs : s.status.isLeaving = false) :
    Keeps id ⟨{ s with status := .shuttingDown }, es, .leaving (s.status = .initialized) :: K⟩ := by
  refine ⟨h.ordered, h.deferred, h.shape.imp_right fun hshape => ?_⟩
  cases hshape with
  | idle hi =>
    refine .idle { hi with status := ⟨nofun, nofun⟩, fresh := nofun, leaving := ?_, answering := ?_ }
    · simpa [hi.status.1] using hi.leaving
    · simpa using hi.answering
  | asked hi => exact .asked { hi with status := .inr rfl }
  | welcome hi => exact .welcome { hi with status := .inr rfl }
  | opened hi => exact .opened { hi with status := .inr rfl }
  | finished hi =>
    rw [show s.status = .terminated from hi.status] at hs
    cases hs

lemma Keeps.finished {s s' : Session} {es es' : List Event} {K K' : List Task}
    (h : Keeps id ⟨s, es, K⟩) (hd : s'.deferred ⊆ s.deferred) (hs : s'.status = .terminated)
    (hc : s'.IsClosed ∨ EndsAbove K') (hq : Quietly es es') : Keeps id ⟨s', es', K'⟩ :=
  ⟨h.ordered.quietly hq, fun item hi => h.deferred item (hd hi), .inr (.finished ⟨hs, hc⟩)⟩

lemma Keeps.overtake {s : Session} {es : List Event} {K : List Task} {wasOpen : Bool}
    (h : Keeps id ⟨s, es, .leaving wasOpen :: K⟩) (hs : s.status = .terminated) :
    Keeps id ⟨s.clearQueues, es, K⟩ := by
  refine ⟨h.ordered, fun _ hi => (List.not_mem_nil hi).elim, h.shape.imp_right fun hshape => ?_⟩
  have hover := hshape.isOver hs
  refine .finished ⟨hs, .inl (hover.closed.resolve_right ?_)⟩
  exact nofun

/-- A session that was open asked its server to open it, and has not told it to shut down. -/
lemma Shape.asked_of_leaving {s : Session} {es : List Event} {K : List Task}
    (h : Shape id ⟨s, es, .leaving true :: K⟩) (hs : s.status = .shuttingDown) :
    .opening ∈ calls id es ∧ .shutdown ∉ calls id es := by
  cases h with
  | idle hi => exact (hi.leaving List.mem_cons_self).elim
  | asked hi => exact ⟨hi.hasAsked.asked, hi.hasAsked.shutdown_not_mem⟩
  | welcome hi => exact ⟨hi.hasAsked.asked, hi.hasAsked.shutdown_not_mem⟩
  | opened hi => exact ⟨hi.asked, hi.lasting⟩
  | finished hi => cases hs.symm.trans hi.status

lemma Keeps.sayGoodbye {s s' : Session} {es es₁ es₂ : List Event} {K K' : List Task}
    {result : Except Fault Unit} (h : Keeps id ⟨s, es, .leaving true :: K⟩)
    (hs : s.status = .shuttingDown) (told : Writes id s s.shutdownRequest es (.ok ()) es₁)
    (left : Writes id s exitNotification es₁ result es₂) (hr : StaysRefusing id es₂)
    (hd : s'.deferred = []) (hs' : s'.status = .terminated) (hK : EndsAbove K') :
    Keeps id ⟨s', .noted id .ended :: es₂, K'⟩ := by
  have hsuffix := left.suffix
  cases told with
  | sent linked accepts encodes =>
    have hnone : ¬ ∃ refused, .noted id (.refused refused) ∈ es := fun ⟨refused, hm⟩ =>
      hr _ _ _ hsuffix refused hm
    have hshape := h.shape.resolve_left hnone
    have htold : IsOrdered id (.sent id s.name s.shutdownRequest :: es) :=
      h.ordered.sent (hshape.asked_of_leaving hs)
    have hleft : IsOrdered id es₂ := htold.writes left fun _ => by
      change (calls id _).head? = _
      rw [calls_sent]
      rfl
    exact ⟨hleft.quietly (.single rfl), by simp [hd], .inr (.finished ⟨hs', .inr hK⟩)⟩

lemma Keeps.abandon {s : Session} {es : List Event} {K : List Task}
    (h : Keeps id ⟨s, es, .leaving true :: K⟩) (hs : s.status = .shuttingDown) :
    Keeps id ⟨{ s.clearQueues with correlator := s.correlator.advance }, es, K⟩ := by
  refine ⟨h.ordered, fun _ hi => (List.not_mem_nil hi).elim, h.shape.imp_right fun hshape => ?_⟩
  cases hshape with
  | idle hi => exact (hi.leaving List.mem_cons_self).elim
  | asked hi => exact .asked { hi with notifications := rfl, requests := rfl }
  | welcome hi => exact .asked ⟨.inr hs, hi.linked, rfl, rfl, hi.hasAsked⟩
  | opened hi =>
    exact .opened { hi with
      notifications := fun _ hn => (List.not_mem_nil hn).elim
      requests := fun _ hr => (List.not_mem_nil hr).elim }
  | finished hi => cases hs.symm.trans hi.status

end Wire

end LanguageClient
