import LanguageClient.Proofs.Frame.Pieces
import LanguageClient.Proofs.Steps.Basic
import Mathlib.Data.List.Pairwise

/-!
What holds at every position, whatever the conduct.
-/

namespace LanguageClient

variable {c : Conduct} {id : SessionId} {p q : Position}

lemma Writes.suffix {s : Session} {message : Json} {es es' : List Event}
    {result : Except Fault Unit} (h : Writes id s message es result es') : es <:+ es' := by
  cases h with
  | sent | refused | unlinked => exact List.suffix_cons _ _
  | unencodable => exact List.suffix_refl _

lemma Writes.mem_of_dealt {s : Session} {message : Json} {es es' : List Event}
    {result : Except Fault Unit} {d : Dealing} (h : Writes id s message es result es')
    (hd : .dealt id d ∈ es') : .dealt id d ∈ es := by
  cases h <;> simpa using hd

/-- Nothing that happened is forgotten. -/
lemma Step.suffix (h : Step c id p q) : p.events <:+ q.events := by
  cases h
  case deferred | queued => exact (List.suffix_cons _ _).trans (List.suffix_append _ _)
  case introduced => exact (List.suffix_cons _ _).trans (List.suffix_cons _ _)
  case buried => exact List.suffix_append _ _
  case notified writes | replied writes => exact writes.suffix
  case requested writes => exact (List.suffix_cons _ _).trans writes.suffix
  case unheardGoodbye told => exact told.suffix.trans (List.suffix_cons _ _)
  case saidGoodbye told left => exact (told.suffix.trans left.suffix).trans (List.suffix_cons _ _)
  all_goals first | exact List.suffix_refl _ | exact List.suffix_cons _ _

lemma Steps.suffix (h : Steps c id p q) : p.events <:+ q.events := by
  induction h with
  | refl => exact List.suffix_refl _
  | tail _ h ih => exact ih.trans h.suffix

/-- Callbacks that a session keeps obey the conduct, its requests were accepted and those that wait for
an answer have numbers of their own, its messages that wait were read, its reader gets on, and what
waits to be sent can be sent if the conduct says so. -/
structure Session.Sound (c : Conduct) (id : SessionId) (s : Session) (es : List Event) : Prop where
  listeners : ∀ l ∈ s.listeners.all, l.obeys c.callback s.config
  requests : ∀ r ∈ s.requests, ∀ h ∈ r.handler, h.obeys c.callback
  deferred : ∀ r, .inr r ∈ s.deferred → ∀ h ∈ r.handler, h.obeys c.callback
  pending : ∀ p ∈ s.correlator.pending, ∀ h ∈ p.handler, h.obeys c.callback
  numbered : ∀ p ∈ s.correlator.pending, ∃ n ≤ s.correlator.lastId,
    p.Numbered n ∧ .dealt id (.registered p.ticket n) ∈ es
  keysDiffer : s.correlator.pending.Pairwise fun p q => p.key ≠ q.key
  requestsAccepted : ∀ r ∈ s.requests, .dealt id (.accepted r.ticket r.handler) ∈ es
  deferredAccepted : ∀ r, .inr r ∈ s.deferred → .dealt id (.accepted r.ticket r.handler) ∈ es
  pendingAccepted : ∀ p ∈ s.correlator.pending, .dealt id (.accepted p.ticket p.handler) ∈ es
  inbox : ∀ m ∈ s.responses ++ s.errors, .dealt id (.read m) ∈ es
  kinds : ∀ m ∈ s.responses, Message.kindOf m ≠ .error
  errorKinds : ∀ m ∈ s.errors, Message.kindOf m = .error
  reader : s.reader.Sound
  sendsNotifications : c.Sends s.config → ∀ n ∈ s.notifications, n.IsSendable
  sendsRequests : c.Sends s.config → ∀ r ∈ s.requests, r.IsSendable
  sendsDeferred : c.Sends s.config → ∀ item ∈ s.deferred, Deferred.IsSendable item

namespace Session

variable {s : Session} {es : List Event}

/-- A session of which nothing is known but its configuration. -/
def blank (config : Fields) (name : Json) : Session := { config, name }

lemma Sound.blank (config : Fields) (name : Json) : (blank config name).Sound c id [] where
  listeners _ h := (List.not_mem_nil h).elim
  requests _ h := (List.not_mem_nil h).elim
  deferred _ h := (List.not_mem_nil h).elim
  pending _ h := (List.not_mem_nil h).elim
  numbered _ h := (List.not_mem_nil h).elim
  keysDiffer := .nil
  requestsAccepted _ h := (List.not_mem_nil h).elim
  deferredAccepted _ h := (List.not_mem_nil h).elim
  pendingAccepted _ h := (List.not_mem_nil h).elim
  inbox _ h := (List.not_mem_nil h).elim
  kinds _ h := (List.not_mem_nil h).elim
  errorKinds _ h := (List.not_mem_nil h).elim
  reader := nofun
  sendsNotifications _ _ h := (List.not_mem_nil h).elim
  sendsRequests _ _ h := (List.not_mem_nil h).elim
  sendsDeferred _ _ h := (List.not_mem_nil h).elim

lemma Sound.mono {es' : List Event} (h : s.Sound c id es) (hs : es <:+ es') : s.Sound c id es' where
  listeners := h.listeners
  requests := h.requests
  deferred := h.deferred
  pending := h.pending
  numbered p hp := by
    obtain ⟨n, hle, hn, hreg⟩ := h.numbered p hp
    exact ⟨n, hle, hn, hs.subset hreg⟩
  keysDiffer := h.keysDiffer
  requestsAccepted r hr := hs.subset (h.requestsAccepted r hr)
  deferredAccepted r hr := hs.subset (h.deferredAccepted r hr)
  pendingAccepted p hp := hs.subset (h.pendingAccepted p hp)
  inbox m hm := hs.subset (h.inbox m hm)
  kinds := h.kinds
  errorKinds := h.errorKinds
  reader := h.reader
  sendsNotifications := h.sendsNotifications
  sendsRequests := h.sendsRequests
  sendsDeferred := h.sendsDeferred

lemma Sound.clearQueues (h : s.Sound c id es) : s.clearQueues.Sound c id es where
  listeners := h.listeners
  requests _ hr := (List.not_mem_nil hr).elim
  deferred _ hr := (List.not_mem_nil hr).elim
  pending := h.pending
  numbered := h.numbered
  keysDiffer := h.keysDiffer
  requestsAccepted _ hr := (List.not_mem_nil hr).elim
  deferredAccepted _ hr := (List.not_mem_nil hr).elim
  pendingAccepted := h.pendingAccepted
  inbox _ hm := (List.not_mem_nil hm).elim
  kinds _ hm := (List.not_mem_nil hm).elim
  errorKinds _ hm := (List.not_mem_nil hm).elim
  reader := h.reader
  sendsNotifications _ _ hn := (List.not_mem_nil hn).elim
  sendsRequests _ _ hr := (List.not_mem_nil hr).elim
  sendsDeferred _ _ hi := (List.not_mem_nil hi).elim

/-- What a session may be asked to send: it has a callback of the one who asks, and was accepted. -/
structure Offers (c : Conduct) (id : SessionId) (s : Session) (es : List Event) (item : Deferred) :
    Prop where
  obeys : ∀ r, item = .inr r → ∀ h ∈ r.handler, h.obeys c.callback
  sendable : c.Sends s.config → item.IsSendable
  accepted : ∀ r, item = .inr r → .dealt id (.accepted r.ticket r.handler) ∈ es

lemma offers_of_asks {a : SessionAction} {item : Deferred} (ha : c.allows a)
    (ho : a.callbacksObey c.callback) (hi : a.Asks s item) :
    Offers c id s (Deferred.acceptance id item ++ es) item where
  obeys r hr := by
    subst hr
    cases hi with
    | feature isFeature hi =>
      intro h hh
      exact Option.some.inj hh ▸ Handler.obeys_of_isFeature isFeature
    | host hi =>
    have hmap : ∀ callback, callbackObeys c.callback callback →
        ∀ h ∈ callback.map Handler.host, h.obeys c.callback := by
      intro callback hc h hh
      obtain ⟨k, rfl, rfl⟩ := Option.map_eq_some_iff.mp hh
      exact hc
    cases a <;> simp only [SessionAction.item?, Option.some.injEq, Sum.inr.injEq, reduceCtorEq] at hi
    all_goals
      subst hi
      exact hmap _ ho
  sendable hc := by
    obtain ⟨item', hi', -, hsendable⟩ := hi.exists_item
    exact hsendable (hc.items a ha s rfl item' hi')
  accepted r hr := by
    subst hr
    exact List.mem_cons_self

lemma Sound.queue {item : Deferred} (h : s.Sound c id es) (hi : Offers c id s es item) :
    ((s.queue item).count item).Sound c id es := by
  cases item with
  | inl n =>
    refine { h with sendsNotifications := fun hc k hk => ?_ }
    rcases List.mem_append.mp hk with hk | hk
    · exact h.sendsNotifications hc k hk
    · exact List.mem_singleton.mp hk ▸ hi.sendable hc
  | inr r =>
    refine { h with
      requests := fun q hq => ?_
      requestsAccepted := fun q hq => ?_
      sendsRequests := fun hc q hq => ?_ }
    all_goals rcases List.mem_append.mp hq with hq | hq
    · exact h.requests q hq
    · exact hi.obeys q (congrArg _ (List.mem_singleton.mp hq).symm)
    · exact h.requestsAccepted q hq
    · exact hi.accepted q (congrArg _ (List.mem_singleton.mp hq).symm)
    · exact h.sendsRequests hc q hq
    · exact List.mem_singleton.mp hq ▸ hi.sendable hc

lemma Sound.defer {item : Deferred} (h : s.Sound c id es) (hi : Offers c id s es item) :
    ({ s with deferred := s.deferred ++ [item] }.count item).Sound c id es := by
  have hd : ∀ r, .inr r ∈ s.deferred ++ [item] → ∀ h ∈ r.handler, h.obeys c.callback := by
    intro r hr
    rcases List.mem_append.mp hr with hr | hr
    · exact h.deferred r hr
    · exact hi.obeys r (List.mem_singleton.mp hr).symm
  have ha : ∀ r, .inr r ∈ s.deferred ++ [item] → .dealt id (.accepted r.ticket r.handler) ∈ es := by
    intro r hr
    rcases List.mem_append.mp hr with hr | hr
    · exact h.deferredAccepted r hr
    · exact hi.accepted r (List.mem_singleton.mp hr).symm
  have hs : c.Sends s.config → ∀ i ∈ s.deferred ++ [item], Deferred.IsSendable i := by
    intro hc i him
    rcases List.mem_append.mp him with him | him
    · exact h.sendsDeferred hc i him
    · exact List.mem_singleton.mp him ▸ hi.sendable hc
  cases item <;> exact { h with deferred := hd, deferredAccepted := ha, sendsDeferred := hs }

lemma opened_isSendable : opened.IsSendable := ⟨_, rfl⟩

lemma Sound.welcome (h : s.Sound c id es) (capabilities serverInfo : Json) :
    (s.welcome capabilities serverInfo).Sound c id es where
  listeners := h.listeners
  requests r hr := by
    rcases List.mem_append.mp hr with hr | hr
    · exact h.requests r hr
    · obtain ⟨item, hi, he⟩ := List.mem_filterMap.mp hr
      exact h.deferred r (Sum.getRight?_eq_some_iff.mp he ▸ hi)
  deferred _ hr := (List.not_mem_nil hr).elim
  pending := h.pending
  numbered := h.numbered
  keysDiffer := h.keysDiffer
  requestsAccepted r hr := by
    rcases List.mem_append.mp hr with hr | hr
    · exact h.requestsAccepted r hr
    · obtain ⟨item, hi, he⟩ := List.mem_filterMap.mp hr
      exact h.deferredAccepted r (Sum.getRight?_eq_some_iff.mp he ▸ hi)
  deferredAccepted _ hr := (List.not_mem_nil hr).elim
  pendingAccepted := h.pendingAccepted
  inbox := h.inbox
  kinds := h.kinds
  errorKinds := h.errorKinds
  reader := h.reader
  sendsNotifications hc n hn := by
    rcases List.mem_append.mp hn with hn | hn
    · rcases List.mem_append.mp hn with hn | hn
      · exact h.sendsNotifications hc n hn
      · exact List.mem_singleton.mp hn ▸ opened_isSendable
    · obtain ⟨item, hi, he⟩ := List.mem_filterMap.mp hn
      rw [Sum.getLeft?_eq_some_iff.mp he] at hi
      exact h.sendsDeferred hc _ hi
  sendsRequests hc r hr := by
    rcases List.mem_append.mp hr with hr | hr
    · exact h.sendsRequests hc r hr
    · obtain ⟨item, hi, he⟩ := List.mem_filterMap.mp hr
      rw [Sum.getRight?_eq_some_iff.mp he] at hi
      exact h.sendsDeferred hc _ hi
  sendsDeferred _ _ hi := (List.not_mem_nil hi).elim

lemma Sound.introduce (h : s.Sound c id es) {params : Json} {callback : Option Callback}
    (hc : callbackObeys c.callback callback)
    (hs : c.Sends s.config → (s.openingRequest params callback).IsSendable)
    (ha : .dealt id (.accepted s.tickets (some (.opening callback))) ∈ es) :
    (s.introduce params callback).Sound c id es where
  listeners := h.listeners
  requests r hr := by
    rcases List.mem_append.mp hr with hr | hr
    · exact h.requests r hr
    · obtain rfl := List.mem_singleton.mp hr
      intro g hg
      obtain rfl := Option.some.inj hg
      exact hc
  deferred := h.deferred
  pending := h.pending
  numbered := h.numbered
  keysDiffer := h.keysDiffer
  requestsAccepted r hr := by
    rcases List.mem_append.mp hr with hr | hr
    · exact h.requestsAccepted r hr
    · exact List.mem_singleton.mp hr ▸ ha
  deferredAccepted := h.deferredAccepted
  pendingAccepted := h.pendingAccepted
  inbox := h.inbox
  kinds := h.kinds
  errorKinds := h.errorKinds
  reader := h.reader
  sendsNotifications := h.sendsNotifications
  sendsRequests hc r hr := by
    rcases List.mem_append.mp hr with hr | hr
    · exact h.sendsRequests hc r hr
    · exact List.mem_singleton.mp hr ▸ hs hc
  sendsDeferred := h.sendsDeferred

lemma Sound.next {x : Frame.Reading} {reader : Frame.Reader} (h : s.Sound c id es)
    (hn : s.reader.next = (x, reader)) : ({ s with reader } : Session).Sound c id es :=
  have hr : reader.Sound := by simpa only [hn] using Frame.Reader.sound_next h.reader
  { h with reader := hr }

/-- A message waits among the responses or among the errors. -/
lemma exists_enqueue_eq (s : Session) (m : Fields) :
    ∃ responses errors, s.enqueue m = { s with responses, errors } := by
  rw [enqueue]
  split <;> exact ⟨_, _, rfl⟩

lemma Sound.enqueue {m : Fields} (h : s.Sound c id es) (hm : .dealt id (.read m) ∈ es) :
    (s.enqueue m).Sound c id es := by
  rw [Session.enqueue]
  split
  next hkind =>
    refine { h with inbox := fun k hk => ?_, errorKinds := fun k hk => ?_ }
    · simp only [List.mem_append, List.mem_singleton] at hk
      rcases hk with hk | hk | rfl
      · exact h.inbox k (List.mem_append_left _ hk)
      · exact h.inbox k (List.mem_append_right _ hk)
      · exact hm
    · rcases List.mem_append.mp hk with hk | hk
      · exact h.errorKinds k hk
      · obtain rfl := List.mem_singleton.mp hk
        exact hkind
  next hkind =>
    refine { h with inbox := fun k hk => ?_, kinds := fun k hk => ?_ }
    · simp only [List.mem_append, List.mem_singleton] at hk
      rcases hk with (hk | rfl) | hk
      · exact h.inbox k (List.mem_append_left _ hk)
      · exact hm
      · exact h.inbox k (List.mem_append_right _ hk)
    · rcases List.mem_append.mp hk with hk | hk
      · exact h.kinds k hk
      · obtain rfl := List.mem_singleton.mp hk
        exact hkind

lemma Sound.advance (h : s.Sound c id es) :
    ({ s with correlator := s.correlator.advance } : Session).Sound c id es :=
  have hn : ∀ p ∈ s.correlator.pending, ∃ n ≤ s.correlator.lastId + 1,
      p.Numbered n ∧ .dealt id (.registered p.ticket n) ∈ es := fun p hp => by
    obtain ⟨n, hle, hn⟩ := h.numbered p hp
    exact ⟨n, Nat.le_succ_of_le hle, hn⟩
  { h with numbered := hn }

/-- A number that was not given before has an entry of its own. -/
lemma Sound.insert_eq {p : Pending Handler} (h : s.Sound c id es) (hp : p.Numbered s.nextNumber) :
    (∀ q ∈ s.correlator.pending, q.key ≠ p.key) ∧
      Correlator.insert p s.correlator.pending = s.correlator.pending ++ [p] := by
  have hne : ∀ q ∈ s.correlator.pending, q.key ≠ p.key := by
    intro q hq hk
    obtain ⟨n, hle, hn, -⟩ := h.numbered q hq
    have heq : n = s.correlator.lastId + 1 := hn.number_eq hp hk
    omega
  exact ⟨hne, Account.insert_of_forall_ne hne⟩

lemma Sound.eq_of_key_eq {p q : Pending Handler} (h : s.Sound c id es)
    (hp : p ∈ s.correlator.pending) (hq : q ∈ s.correlator.pending) (hk : p.key = q.key) :
    p = q := by
  by_contra hne
  have hsymm : Std.Symm fun p q : Pending Handler => p.key ≠ q.key := ⟨fun _ _ h => h.symm⟩
  exact h.keysDiffer.forall hp hq hne hk

lemma Sound.register {r : OutgoingRequest} {rest : List OutgoingRequest} {p : Pending Handler}
    {now : Float} (h : s.Sound c id es) (hq : s.requests = r :: rest)
    (hreg : .dealt id (.registered r.ticket s.nextNumber) ∈ es)
    (he : Correlator.entry (Json.ofNat s.nextNumber) r.method r.handler r.ticket now r.timeout =
      .ok p) :
    ({ s with requests := rest, correlator := s.correlator.advance.register p } : Session).Sound
      c id es := by
  obtain ⟨ht, hh, hp⟩ := Correlator.numbered_of_entry he
  obtain ⟨hne, hinsert⟩ := h.insert_eq hp
  have hmem : r ∈ s.requests := hq ▸ List.mem_cons_self
  have hrest : ∀ k ∈ rest, k ∈ s.requests := fun k hk => hq ▸ List.mem_cons_of_mem r hk
  have hpending : ∀ q, q ∈ (s.correlator.advance.register p).pending →
      q ∈ s.correlator.pending ∨ q = p := by
    intro q hq
    change q ∈ Correlator.insert p s.correlator.pending at hq
    rw [hinsert] at hq
    simpa using hq
  refine { h.advance with
    requests := fun k hk => h.requests k (hrest k hk)
    pending := fun q hq => ?_
    numbered := fun q hq => ?_
    keysDiffer := ?_
    requestsAccepted := fun k hk => h.requestsAccepted k (hrest k hk)
    pendingAccepted := fun q hq => ?_
    sendsRequests := fun hc k hk => h.sendsRequests hc k (hrest k hk) }
  · rcases hpending q hq with hq | rfl
    · exact h.pending q hq
    · exact hh ▸ h.requests r hmem
  · rcases hpending q hq with hq | rfl
    · exact h.advance.numbered q hq
    · exact ⟨_, Nat.le_refl _, hp, ht ▸ hreg⟩
  · change (Correlator.insert p s.correlator.pending).Pairwise _
    rw [hinsert, List.pairwise_append]
    refine ⟨h.keysDiffer, List.pairwise_singleton _ _, fun q hq k hk => ?_⟩
    exact List.mem_singleton.mp hk ▸ hne q hq
  · rcases hpending q hq with hq | rfl
    · exact h.pendingAccepted q hq
    · exact ht ▸ hh ▸ h.requestsAccepted r hmem

lemma Sound.erase (h : s.Sound c id es) (key : Json.Key) :
    ({ s with correlator := s.correlator.erase key } : Session).Sound c id es :=
  have hmem : ∀ p ∈ (s.correlator.erase key).pending, p ∈ s.correlator.pending := fun _ hp =>
    List.mem_of_mem_filter hp
  { h with
    pending := fun p hp => h.pending p (hmem p hp)
    numbered := fun p hp => h.numbered p (hmem p hp)
    keysDiffer := h.keysDiffer.filter _
    pendingAccepted := fun p hp => h.pendingAccepted p (hmem p hp) }

end Session

open Session in
lemma Step.sound (h : Step c id p q) (hs : p.session.Sound c id p.events) :
    q.session.Sound c id q.events := by
  have hm := hs.mono h.suffix
  cases h
  case listened ls obey =>
    exact { hm with listeners := fun l hl => (obey l hl).elim (hm.listeners l) fun h => h }
  case introduced s _ _ _ _ _ _ _ status linked allowed obeys path =>
    exact hm.introduce obeys (fun hc => hc.opening _ _ _ _ allowed s rfl _ path)
      List.mem_cons_self
  case deferred allowed obeys asked tracks status lifecycle =>
    exact { hm.defer (offers_of_asks allowed obeys asked) with }
  case queued allowed obeys asked tracks status =>
    exact { hm.queue (offers_of_asks allowed obeys asked) with }
  case notified n rest result es' queue free writes =>
    exact { hm with sendsNotifications := fun hc k hk =>
      hm.sendsNotifications hc k (queue ▸ List.mem_cons_of_mem n hk) }
  case requested r rest p now result es' queue free first entry writes =>
    exact hm.register queue (writes.suffix.subset List.mem_cons_self) entry
  case dropped r rest now f queue free entry =>
    have hrest : ∀ k ∈ rest, k ∈ _ := fun k hk => queue ▸ List.mem_cons_of_mem r hk
    exact { hm.advance with
      requests := fun k hk => hm.requests k (hrest k hk)
      requestsAccepted := fun k hk => hm.requestsAccepted k (hrest k hk)
      sendsRequests := fun hc k hk => hm.sendsRequests hc k (hrest k hk) }
  case took s es t K m reader next running =>
    have hr : ({ s with reader } : Session).Sound c id _ :=
      hm.next next
    exact hr.enqueue List.mem_cons_self
  case skipped next | unread next | readAll next => exact hm.next next
  case dispatched s es t K m rest drains free queue =>
    have hs : ∀ k ∈ rest, k ∈ s.responses := fun k hk => queue ▸ List.mem_cons_of_mem m hk
    refine { hm with inbox := fun k hk => hm.inbox k ?_, kinds := fun k hk => hm.kinds k (hs k hk) }
    rw [queue]
    exact List.mem_cons_of_mem m hk
  case dispatchedError s es t K m rest drains free queue =>
    have hs : ∀ k ∈ rest, k ∈ s.errors := fun k hk => queue ▸ List.mem_cons_of_mem m hk
    refine { hm with
      inbox := fun k hk => hm.inbox k ?_
      errorKinds := fun k hk => hm.errorKinds k (hs k hk) }
    rw [queue]
    rcases List.mem_append.mp hk with hk | hk
    · exact List.mem_append_left _ hk
    · exact List.mem_append_right _ (List.mem_cons_of_mem m hk)
  case resolved answered p m found source reason =>
    exact hm.erase p.key
  case welcomed => exact hm.welcome _ _
  case overtaken => exact hm.clearQueues
  case counted => exact hm.advance
  case parted | buried => exact { hm.clearQueues with }
  case saidGoodbye | unheardGoodbye | abandoned => exact { hm.clearQueues.advance with }
  all_goals exact { hm with }

lemma Steps.sound (h : Steps c id p q) (hs : p.session.Sound c id p.events) :
    q.session.Sound c id q.events := by
  induction h with
  | refl => exact hs
  | tail _ h ih => exact h.sound ih

lemma Step.config_eq (h : Step c id p q) : q.session.config = p.session.config := by
  cases h
  case deferred item _ _ _ _ _ _ _ | queued item _ _ _ _ _ _ => cases item <;> rfl
  case took s es t K m reader next running =>
    obtain ⟨responses, errors, he⟩ := Session.exists_enqueue_eq { s with reader } m
    rw [he]
  all_goals rfl

lemma Steps.config_eq (h : Steps c id p q) : q.session.config = p.session.config := by
  induction h with
  | refl => rfl
  | tail _ h ih => exact h.config_eq.trans ih

lemma Step.name_eq (h : Step c id p q) : q.session.name = p.session.name := by
  cases h
  case deferred item _ _ _ _ _ _ _ | queued item _ _ _ _ _ _ => cases item <;> rfl
  case took s es t K m reader next running =>
    obtain ⟨responses, errors, he⟩ := Session.exists_enqueue_eq { s with reader } m
    rw [he]
  all_goals rfl

lemma Steps.name_eq (h : Steps c id p q) : q.session.name = p.session.name := by
  induction h with
  | refl => rfl
  | tail _ h ih => exact h.name_eq.trans ih

/-- A callback that will not come to its end is never left. -/
lemma Step.calling (h : Step c id p q) (hp : .calling ∈ p.tasks) : .calling ∈ q.tasks := by
  cases h <;> simpa [Task.mem_owed] using hp

lemma Step.lastId_le (h : Step c id p q) :
    p.session.correlator.lastId ≤ q.session.correlator.lastId := by
  cases h
  case counted | requested | dropped | saidGoodbye | unheardGoodbye | abandoned =>
    exact Nat.le_succ _
  case deferred item _ _ _ _ _ _ _ | queued item _ _ _ _ _ _ => cases item <;> exact Nat.le_refl _
  case took s es t K m reader next running =>
    obtain ⟨responses, errors, he⟩ := Session.exists_enqueue_eq { s with reader } m
    rw [he]
  all_goals exact Nat.le_refl _

lemma Steps.lastId_le (h : Steps c id p q) :
    p.session.correlator.lastId ≤ q.session.correlator.lastId := by
  induction h with
  | refl => exact Nat.le_refl _
  | tail _ h ih => exact Nat.le_trans ih h.lastId_le

end LanguageClient
