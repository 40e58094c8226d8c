import LanguageClient.Proofs.Session.Dealings
import Mathlib.Data.List.Perm.Basic
import Mathlib.Logic.Relation

/-!
Accounts of requests. Whatever a session does, a request goes from the queue to the table under a
number of its own, leaves the table with the one answer that is meant for it, and is answered once.
-/

namespace LanguageClient

lemma eq_of_countP_le_one {α : Type} {p : α → Bool} {l : List α} (h : l.countP p ≤ 1) {a b : α}
    (ha : a ∈ l) (hb : b ∈ l) (hpa : p a) (hpb : p b) : a = b := by
  have hfa : a ∈ l.filter p := List.mem_filter.mpr ⟨ha, hpa⟩
  have hfb : b ∈ l.filter p := List.mem_filter.mpr ⟨hb, hpb⟩
  rw [List.countP_eq_length_filter] at h
  rcases hl : l.filter p with _ | ⟨c, _ | ⟨d, rest⟩⟩
  · simp [hl] at hfa
  · rw [hl, List.mem_singleton] at hfa hfb
    rw [hfa, hfb]
  · simp [hl] at h

/-! Accounts -/

/-- What a session has to do with requests, its listeners, and what became of its requests. -/
structure Account where
  tickets : Nat
  waiting : List OutgoingRequest
  lastId : Nat
  pending : List (Pending Handler)
  inbox : List Fields
  listeners : List Listener
  dealings : List Dealing

def Session.account (s : Session) (ds : List Dealing) : Account where
  tickets := s.tickets
  waiting := s.requests ++ s.deferred.filterMap Sum.getRight?
  lastId := s.correlator.lastId
  pending := s.correlator.pending
  inbox := s.responses ++ s.errors
  listeners := s.listeners.events.map (·.2) ++ s.listeners.methods.map (·.2)
  dealings := ds

def Account.blank : Account := ⟨0, [], 0, [], [], [], []⟩

lemma Session.account_of_ofConfig {config : Json} {s : Session} (h : ofConfig config = .ok s) :
    s.account [] = .blank := by
  rw [ofConfig] at h
  cases hm : config.mandatory "name" with
  | error e => rw [hm] at h; cases h
  | ok name =>
    cases hf : config.fields with
    | error e => rw [hm, hf] at h; cases h
    | ok fields =>
      rw [hm, hf] at h
      obtain rfl := Except.ok.inj h
      rfl

structure Pending.Numbered (p : Pending Handler) (n : Nat) : Prop where
  key : p.key = .number (.ofInt n)
  slot : p.slot = Json.ofNat n
  id : p.id = Json.ofNat n

lemma Pending.Numbered.number_eq {p q : Pending Handler} {m n : Nat} (hp : p.Numbered m)
    (hq : q.Numbered n) (h : p.key = q.key) : m = n := by
  rw [hp.key, hq.key, Json.Key.number.injEq, Exact.ofInt, Exact.ofInt, Exact.finite.injEq] at h
  exact_mod_cast h

lemma Correlator.numbered_of_entry {n : Nat} {method : Json} {handler : Option Handler} {ticket : Nat}
    {now : Float} {timeout : Json} {p : Pending Handler}
    (h : Correlator.entry (Json.ofNat n) method handler ticket now timeout = .ok p) :
    p.ticket = ticket ∧ p.handler = handler ∧ p.Numbered n := by
  have hk : (Json.ofNat n).key = .ok (.number (.ofInt n)) := rfl
  unfold Correlator.entry at h
  rw [hk] at h
  split at h
  next =>
    obtain rfl := Except.ok.inj h
    exact ⟨rfl, rfl, rfl, rfl, rfl⟩
  next =>
    cases hf : timeout.toFloat with
    | error e => rw [hf] at h; cases h
    | ok x =>
      rw [hf] at h
      obtain rfl := Except.ok.inj h
      exact ⟨rfl, rfl, rfl, rfl, rfl⟩

/-- A request that was accepted and has no number yet. -/
structure OutgoingRequest.Waits (r : OutgoingRequest) (ds : List Dealing) : Prop where
  accepted : .accepted r.ticket r.handler ∈ ds
  unregistered : ∀ n, .registered r.ticket n ∉ ds

/-- A request that has a number and no answer yet. -/
structure Pending.Waits (p : Pending Handler) (ds : List Dealing) : Prop where
  accepted : .accepted p.ticket p.handler ∈ ds
  unresolved : ∀ response, .resolved p.ticket response ∉ ds
  registered : ∃ n, p.Numbered n ∧ .registered p.ticket n ∈ ds

/-- A response that answers the number of a request. -/
def IsDue (ds : List Dealing) (t : Nat) (response : Json) : Prop :=
  ∃ n, .registered t n ∈ ds ∧ Answers ds n response

section

variable {ds : List Dealing} {d : Dealing}

lemma OutgoingRequest.Waits.cons {r : OutgoingRequest} (h : r.Waits ds)
    (hd : ∀ n, .registered r.ticket n ≠ d) : r.Waits (d :: ds) where
  accepted := List.mem_cons_of_mem d h.accepted
  unregistered n hn := h.unregistered n (List.mem_of_ne_of_mem (hd n) hn)

lemma Pending.Waits.cons {p : Pending Handler} (h : p.Waits ds)
    (hd : ∀ response, .resolved p.ticket response ≠ d) : p.Waits (d :: ds) where
  accepted := List.mem_cons_of_mem d h.accepted
  unresolved response hr := h.unresolved response (List.mem_of_ne_of_mem (hd response) hr)
  registered := by
    obtain ⟨n, hn, hreg⟩ := h.registered
    exact ⟨n, hn, List.mem_cons_of_mem d hreg⟩

lemma IsDue.cons {t : Nat} {response : Json} (h : IsDue ds t response) :
    IsDue (d :: ds) t response := by
  obtain ⟨n, hreg, hans⟩ := h
  exact ⟨n, List.mem_cons_of_mem d hreg, hans.cons d⟩

end

namespace Account

/-- What may happen to an account at once. -/
inductive Move (a : Account) : Account → Prop where
  | aside (b : Account) (tickets : b.tickets = a.tickets) (waiting : b.waiting.Sublist a.waiting)
    (lastId : a.lastId ≤ b.lastId) (pending : b.pending = a.pending) (inbox : b.inbox ⊆ a.inbox)
    (listeners : ∀ l ∈ b.listeners, l ∈ a.listeners ∨ l.isPublic)
    (dealings : b.dealings = a.dealings) : Move a b
  | accepted (r : OutgoingRequest) (waiting : List OutgoingRequest) (ticket : r.ticket = a.tickets)
    (isPublic : ∀ h ∈ r.handler, h.isPublic) (perm : waiting.Perm (r :: a.waiting)) :
    Move a { a with
      tickets := a.tickets + 1, waiting,
      dealings := .accepted r.ticket r.handler :: a.dealings }
  | registered (p : Pending Handler) (accepted : .accepted p.ticket p.handler ∈ a.dealings)
    (new : ∀ n, .registered p.ticket n ∉ a.dealings) (taken : ∀ r ∈ a.waiting, r.ticket ≠ p.ticket)
    (unused : ∀ t, .registered t a.lastId ∉ a.dealings) (numbered : p.Numbered a.lastId) :
    Move a { a with
      pending := Correlator.insert p a.pending,
      dealings := .registered p.ticket a.lastId :: a.dealings }
  | read (m : Fields) (inbox : List Fields) (subset : inbox ⊆ m :: a.inbox) :
    Move a { a with inbox, dealings := .read m :: a.dealings }
  | resolved (p : Pending Handler) (response : Json) (mem : p ∈ a.pending)
    (answers : ∀ n, p.Numbered n → Answers a.dealings n response) :
    Move a { a with
      pending := a.pending.filter fun q => q.key ≠ p.key,
      dealings := .resolved p.ticket response :: a.dealings }
  | answered (t : Nat) (response : Json) (handler : Handler) (callback : Callback)
    (accepted : .accepted t (some handler) ∈ a.dealings)
    (callback? : handler.callback? = some callback) (resolved : .resolved t response ∈ a.dealings)
    (once : ∀ label r, .answered t label r ∉ a.dealings) :
    Move a { a with dealings := .answered t callback.label response :: a.dealings }

/-- What holds of an account at any time. -/
structure Sound (a : Account) : Prop where
  correlated : Correlated a.dealings
  ticketsDiffer : (a.waiting.map (·.ticket)).Nodup
  waiting : ∀ r ∈ a.waiting, r.Waits a.dealings
  accepted : ∀ t handler, .accepted t handler ∈ a.dealings →
    t < a.tickets ∧ ∀ h ∈ handler, h.isPublic
  registered : ∀ t n, .registered t n ∈ a.dealings → n ≤ a.lastId ∧ t < a.tickets
  pending : ∀ p ∈ a.pending, p.Waits a.dealings
  resolved : ∀ t response, .resolved t response ∈ a.dealings → IsDue a.dealings t response
  resolvedOnce : ∀ t r r', .resolved t r ∈ a.dealings → .resolved t r' ∈ a.dealings → r = r'
  answered : ∀ t label response, .answered t label response ∈ a.dealings →
    .resolved t response ∈ a.dealings
  inbox : ∀ m ∈ a.inbox, .read m ∈ a.dealings
  listeners : ∀ l ∈ a.listeners, l.isPublic

variable {a b : Account}

lemma Move.of_eq (h : b = a) : Move a b :=
  h ▸ .aside a rfl (List.Sublist.refl _) (Nat.le_refl _) rfl (List.Subset.refl _)
    (fun _ hl => .inl hl) rfl

lemma Sound.blank : blank.Sound where
  correlated := .nil
  ticketsDiffer := List.nodup_nil
  waiting _ h := (List.not_mem_nil h).elim
  accepted _ _ h := (List.not_mem_nil h).elim
  registered _ _ h := (List.not_mem_nil h).elim
  pending _ h := (List.not_mem_nil h).elim
  resolved _ _ h := (List.not_mem_nil h).elim
  resolvedOnce _ _ _ h := (List.not_mem_nil h).elim
  answered _ _ _ h := (List.not_mem_nil h).elim
  inbox _ h := (List.not_mem_nil h).elim
  listeners _ h := (List.not_mem_nil h).elim

lemma Sound.aside (h : a.Sound) (tickets : b.tickets = a.tickets)
    (waiting : b.waiting.Sublist a.waiting) (lastId : a.lastId ≤ b.lastId)
    (pending : b.pending = a.pending) (inbox : b.inbox ⊆ a.inbox)
    (listeners : ∀ l ∈ b.listeners, l ∈ a.listeners ∨ l.isPublic)
    (dealings : b.dealings = a.dealings) : b.Sound where
  correlated := dealings ▸ h.correlated
  ticketsDiffer := h.ticketsDiffer.sublist (waiting.map _)
  waiting r hr := dealings ▸ h.waiting r (waiting.subset hr)
  accepted t g hg := tickets ▸ h.accepted t g (dealings ▸ hg)
  registered t n hn :=
    have hr := h.registered t n (dealings ▸ hn)
    ⟨Nat.le_trans hr.1 lastId, tickets ▸ hr.2⟩
  pending p hp := dealings ▸ h.pending p (pending ▸ hp)
  resolved t r hr := dealings ▸ h.resolved t r (dealings ▸ hr)
  resolvedOnce t r r' hr hr' := h.resolvedOnce t r r' (dealings ▸ hr) (dealings ▸ hr')
  answered t l r hr := dealings ▸ h.answered t l r (dealings ▸ hr)
  inbox m hm := dealings ▸ h.inbox m (inbox hm)
  listeners l hl := (listeners l hl).elim (h.listeners l) id

lemma Sound.accept (h : a.Sound) (r : OutgoingRequest) (waiting : List OutgoingRequest)
    (ticket : r.ticket = a.tickets) (isPublic : ∀ h ∈ r.handler, h.isPublic)
    (perm : waiting.Perm (r :: a.waiting)) :
    Sound { a with
      tickets := a.tickets + 1, waiting,
      dealings := .accepted r.ticket r.handler :: a.dealings } where
  correlated := by
    refine h.correlated.cons _ (fun t handler he g hg => ?_) (fun t n he => ?_) fun t l x he => ?_
    · obtain ⟨rfl, -⟩ := Dealing.accepted.inj he
      have hlt := (h.accepted _ g hg).1
      omega
    · cases he
    · cases he
  ticketsDiffer := by
    rw [(perm.map _).nodup_iff, List.map_cons, List.nodup_cons]
    refine ⟨fun hm => ?_, h.ticketsDiffer⟩
    obtain ⟨q, hq, he⟩ := List.mem_map.mp hm
    have hlt := (h.accepted _ _ (h.waiting q hq).1).1
    omega
  waiting q hq := by
    rcases List.mem_cons.mp (perm.subset hq) with rfl | hq
    · refine ⟨List.mem_cons_self, fun n hn => ?_⟩
      have hlt := (h.registered _ n (List.mem_of_ne_of_mem (by simp) hn)).2
      omega
    · exact (h.waiting q hq).cons fun _ => by simp
  accepted t handler ht := by
    rcases List.mem_cons.mp ht with he | ht
    · obtain ⟨rfl, rfl⟩ := Dealing.accepted.inj he
      exact ⟨ticket ▸ Nat.lt_succ_self _, isPublic⟩
    · have hacc := h.accepted t handler ht
      exact ⟨Nat.lt_succ_of_lt hacc.1, hacc.2⟩
  registered t n hn := by
    have hr := h.registered t n (by simpa using hn)
    exact ⟨hr.1, Nat.lt_succ_of_lt hr.2⟩
  pending p hp := (h.pending p hp).cons fun _ => by simp
  resolved t response ht := (h.resolved t response (by simpa using ht)).cons
  resolvedOnce t r r' hr hr' := h.resolvedOnce t r r' (by simpa using hr) (by simpa using hr')
  answered t l x ht := List.mem_cons_of_mem _ (h.answered t l x (by simpa using ht))
  inbox m hm := List.mem_cons_of_mem _ (h.inbox m hm)
  listeners := h.listeners

lemma insert_of_forall_ne {p : Pending Handler} {ps : List (Pending Handler)}
    (h : ∀ q ∈ ps, q.key ≠ p.key) : Correlator.insert p ps = ps ++ [p] := by
  induction ps with
  | nil => rfl
  | cons q ps ih =>
    rw [List.forall_mem_cons] at h
    rw [Correlator.insert, if_neg h.1, ih h.2, List.cons_append]

lemma Sound.register (h : a.Sound) (p : Pending Handler)
    (accepted : .accepted p.ticket p.handler ∈ a.dealings)
    (new : ∀ n, .registered p.ticket n ∉ a.dealings) (taken : ∀ r ∈ a.waiting, r.ticket ≠ p.ticket)
    (unused : ∀ t, .registered t a.lastId ∉ a.dealings) (numbered : p.Numbered a.lastId) :
    Sound { a with
      pending := Correlator.insert p a.pending,
      dealings := .registered p.ticket a.lastId :: a.dealings } where
  correlated := by
    refine h.correlated.cons _ (fun t g he => ?_) (fun t n he => ?_) fun t l x he => ?_
    · cases he
    · obtain ⟨rfl, rfl⟩ := Dealing.registered.inj he
      exact ⟨new, unused⟩
    · cases he
  ticketsDiffer := h.ticketsDiffer
  waiting r hr :=
    (h.waiting r hr).cons fun n he => taken r hr (Dealing.registered.inj he).1
  accepted t g hg := h.accepted t g (by simpa using hg)
  registered t n hn := by
    rcases List.mem_cons.mp hn with he | hn
    · obtain ⟨rfl, rfl⟩ := Dealing.registered.inj he
      exact ⟨Nat.le_refl _, (h.accepted _ _ accepted).1⟩
    · exact h.registered t n hn
  pending q hq := by
    have hkeys : ∀ q ∈ a.pending, q.key ≠ p.key := by
      intro q hq hk
      obtain ⟨-, -, n, hn, hreg⟩ := h.pending q hq
      exact unused q.ticket (hn.number_eq numbered hk ▸ hreg)
    rw [insert_of_forall_ne hkeys, List.mem_append, List.mem_singleton] at hq
    rcases hq with hq | rfl
    · exact (h.pending q hq).cons fun _ => by simp
    · refine ⟨List.mem_cons_of_mem _ accepted, fun response hr => ?_, a.lastId, numbered,
        List.mem_cons_self⟩
      obtain ⟨n, hn, -⟩ := h.resolved q.ticket response (by simpa using hr)
      exact new n hn
  resolved t response ht := (h.resolved t response (by simpa using ht)).cons
  resolvedOnce t r r' hr hr' := h.resolvedOnce t r r' (by simpa using hr) (by simpa using hr')
  answered t l x ht := List.mem_cons_of_mem _ (h.answered t l x (by simpa using ht))
  inbox m hm := List.mem_cons_of_mem _ (h.inbox m hm)
  listeners := h.listeners

lemma Sound.read (h : a.Sound) (m : Fields) (inbox : List Fields) (subset : inbox ⊆ m :: a.inbox) :
    Sound { a with inbox, dealings := .read m :: a.dealings } where
  correlated := by
    refine h.correlated.cons _ (fun t g he => ?_) (fun t n he => ?_) fun t l x he => ?_
    all_goals cases he
  ticketsDiffer := h.ticketsDiffer
  waiting r hr := (h.waiting r hr).cons fun _ => by simp
  accepted t g hg := h.accepted t g (by simpa using hg)
  registered t n hn := h.registered t n (by simpa using hn)
  pending p hp := (h.pending p hp).cons fun _ => by simp
  resolved t response ht := (h.resolved t response (by simpa using ht)).cons
  resolvedOnce t r r' hr hr' := h.resolvedOnce t r r' (by simpa using hr) (by simpa using hr')
  answered t l x ht := List.mem_cons_of_mem _ (h.answered t l x (by simpa using ht))
  inbox m' hm := by
    rcases List.mem_cons.mp (subset hm) with rfl | hm
    · exact List.mem_cons_self
    · exact List.mem_cons_of_mem _ (h.inbox m' hm)
  listeners := h.listeners

lemma Sound.resolve (h : a.Sound) (p : Pending Handler) (response : Json) (mem : p ∈ a.pending)
    (answers : ∀ n, p.Numbered n → Answers a.dealings n response) :
    Sound { a with
      pending := a.pending.filter fun q => q.key ≠ p.key,
      dealings := .resolved p.ticket response :: a.dealings } where
  correlated := by
    refine h.correlated.cons _ (fun t g he => ?_) (fun t n he => ?_) fun t l x he => ?_
    all_goals cases he
  ticketsDiffer := h.ticketsDiffer
  waiting r hr := (h.waiting r hr).cons fun _ => by simp
  accepted t g hg := h.accepted t g (by simpa using hg)
  registered t n hn := h.registered t n (by simpa using hn)
  pending q hq := by
    rw [List.mem_filter, decide_eq_true_eq] at hq
    refine (h.pending q hq.1).cons fun r he => ?_
    -- A request has one number, so that another entry with its ticket would have its key.
    obtain ⟨n, hn, hreg⟩ := (h.pending q hq.1).registered
    obtain ⟨m, hm, hreg'⟩ := (h.pending p mem).registered
    rw [(Dealing.resolved.inj he).1] at hreg
    have heq := eq_of_countP_le_one (h.correlated.registeredOnce p.ticket) hreg hreg'
      (by simp [Dealing.registers]) (by simp [Dealing.registers])
    obtain ⟨-, rfl⟩ := Dealing.registered.inj heq
    exact hq.2 (hn.key.trans hm.key.symm)
  resolved t r hr := by
    rcases List.mem_cons.mp hr with he | hr
    · obtain ⟨rfl, rfl⟩ := Dealing.resolved.inj he
      obtain ⟨-, -, n, hn, hreg⟩ := h.pending p mem
      exact ⟨n, List.mem_cons_of_mem _ hreg, (answers n hn).cons _⟩
    · exact (h.resolved t r hr).cons
  resolvedOnce t r r' hr hr' := by
    have hnew : ∀ x, .resolved p.ticket x ∉ a.dealings := (h.pending p mem).unresolved
    rcases List.mem_cons.mp hr with he | hr <;> rcases List.mem_cons.mp hr' with he' | hr'
    · rw [(Dealing.resolved.inj he).2, (Dealing.resolved.inj he').2]
    · exact (hnew r' ((Dealing.resolved.inj he).1 ▸ hr')).elim
    · exact (hnew r ((Dealing.resolved.inj he').1 ▸ hr)).elim
    · exact h.resolvedOnce t r r' hr hr'
  answered t l x ht := List.mem_cons_of_mem _ (h.answered t l x (by simpa using ht))
  inbox m hm := List.mem_cons_of_mem _ (h.inbox m hm)
  listeners := h.listeners

lemma Sound.answer (h : a.Sound) (t : Nat) (response : Json) (handler : Handler)
    (callback : Callback) (accepted : .accepted t (some handler) ∈ a.dealings)
    (callback? : handler.callback? = some callback) (resolved : .resolved t response ∈ a.dealings)
    (once : ∀ label r, .answered t label r ∉ a.dealings) :
    Sound { a with dealings := .answered t callback.label response :: a.dealings } where
  correlated := by
    refine h.correlated.cons _ (fun t g he => ?_) (fun t n he => ?_) fun u l x he => ?_
    · cases he
    · cases he
    · obtain ⟨rfl, rfl, rfl⟩ := Dealing.answered.inj he
      obtain ⟨n, hreg, hans⟩ := h.resolved t response resolved
      exact ⟨once, handler, callback, n, accepted, callback?, rfl, hreg, hans⟩
  ticketsDiffer := h.ticketsDiffer
  waiting r hr := (h.waiting r hr).cons fun _ => by simp
  accepted t g hg := h.accepted t g (by simpa using hg)
  registered t n hn := h.registered t n (by simpa using hn)
  pending p hp := (h.pending p hp).cons fun _ => by simp
  resolved t r hr := (h.resolved t r (by simpa using hr)).cons
  resolvedOnce u r r' hr hr' := h.resolvedOnce u r r' (by simpa using hr) (by simpa using hr')
  answered u l x hx := by
    rcases List.mem_cons.mp hx with he | hx
    · obtain ⟨rfl, rfl, rfl⟩ := Dealing.answered.inj he
      exact List.mem_cons_of_mem _ resolved
    · exact List.mem_cons_of_mem _ (h.answered u l x hx)
  inbox m hm := List.mem_cons_of_mem _ (h.inbox m hm)
  listeners := h.listeners

lemma Sound.move (h : a.Sound) (hm : Move a b) : b.Sound := by
  cases hm with
  | aside _ tickets waiting lastId pending inbox listeners dealings =>
    exact h.aside tickets waiting lastId pending inbox listeners dealings
  | accepted r waiting ticket isPublic perm => exact h.accept r waiting ticket isPublic perm
  | registered p accepted new taken unused numbered =>
    exact h.register p accepted new taken unused numbered
  | read m inbox subset => exact h.read m inbox subset
  | resolved p response mem answers => exact h.resolve p response mem answers
  | answered t response handler callback accepted callback? resolved once =>
    exact h.answer t response handler callback accepted callback? resolved once

lemma Sound.moves (h : a.Sound) (hm : Relation.ReflTransGen Move a b) : b.Sound := by
  induction hm with
  | refl => exact h
  | tail _ hm ih => exact ih.move hm

lemma Move.dealings_subset (h : Move a b) : a.dealings ⊆ b.dealings := by
  cases h with
  | aside _ _ _ _ _ _ _ dealings => rw [dealings]; exact fun _ hd => hd
  | _ => exact List.subset_cons_self _ _

lemma dealings_subset (h : Relation.ReflTransGen Move a b) : a.dealings ⊆ b.dealings := by
  induction h with
  | refl => exact fun _ hd => hd
  | tail _ hm ih => exact List.Subset.trans ih hm.dealings_subset

end Account

end LanguageClient
