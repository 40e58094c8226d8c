import LanguageClient.Proofs.Wire.Queues
import LanguageClient.Proofs.Wire.Turns

/-!
The inbox on the wire. What is read waits in one of two queues, and has its turn in the order in which it
was read; a callback that has its turn meanwhile neither reads nor dispatches.
-/

namespace LanguageClient

open Utterance (only)

variable {c : Conduct} {id : SessionId} {p q : Position}

/-- A host that ticks, and leaves to the ticks what they are made of. -/
structure Conduct.LeavesTicks (c : Conduct) : Prop where
  phases : ∀ a : SessionAction, a.isPhase → ¬ c.allows a
  rounds : ∀ a : SessionAction, a.isRound → c.callback a = false
  unspoiled : ∀ message, ¬ c.allows (.breakTick message)

/-- Whatever a client offers but for the parts of a tick, as long as what is sent is plain; and callbacks do
not tick. -/
def Conduct.ticking : Conduct where
  host a := !a.isOwn && !a.isPhase && !(a matches .breakTick _) && (!a.pushes || a.isPlain)
  callback a :=
    !a.isOwn && !a.isPhase && !(a matches .breakTick _) && (!a.pushes || a.isPlain) && !a.isRound
  hostIsOutside a h := by cases a <;> first | rfl | cases h
  callbackIsOutside a h := by cases a <;> first | rfl | cases h

lemma Conduct.leavesTicks_ticking : ticking.LeavesTicks where
  phases a ha h := by
    rcases h with h | h <;> cases a <;> first | (cases ha; done) | cases h
  rounds a ha := by cases a <;> first | rfl | cases ha
  unspoiled _ h := by rcases h with h | h <;> cases h

lemma Conduct.sends_ticking {config : Fields} (ht : config.getD "request_timeout" .null = .null)
    (ho : (config.getD "initializationOptions" .null).isPlain) : ticking.Sends config := by
  refine sends_of_isPlain (fun a ha hp => ?_) ht ho
  have hplain : !a.pushes || a.isPlain := by
    rcases ha with ha | ha
    · exact (Bool.and_eq_true _ _ ▸ ha).2
    · exact (Bool.and_eq_true _ _ ▸ (Bool.and_eq_true _ _ ▸ ha).1).2
  rwa [hp] at hplain

namespace Conduct.LeavesTicks

lemma callback_phase (hc : c.LeavesTicks) {a : SessionAction} (ha : a.isPhase) : c.callback a = false :=
  Bool.eq_false_iff.mpr fun h => hc.phases a ha (.inr h)

lemma leavesPhases (hc : c.LeavesTicks) : c.LeavesPhases := fun _ ha => hc.callback_phase ha

/-- No phase of a tick is gone through on behalf of a callback. -/
lemma not_nests (hc : c.LeavesTicks) {a : SessionAction} (ha : a.isPhase) {K : List Task}
    (hK : .calling ∈ K) : ¬ c.Nests a K := fun h => by
  rcases h.areOuter (hc.rounds .tick rfl) (hc.callback_phase ha) with rfl | ⟨a, before, earlier, rfl⟩
  · cases hK
  · cases List.mem_singleton.mp hK

lemma not_nests_of_drains (hc : c.LeavesTicks) {a : SessionAction} (ha : a.isPhase) {t : Task}
    {K : List Task} (ht : t.drains) (hK : .calling ∈ t :: K) : ¬ c.Nests a K := by
  refine hc.not_nests ha ((List.mem_cons.mp hK).resolve_left fun h => ?_)
  rw [← h] at ht
  cases ht

lemma not_hasRoom (hc : c.LeavesTicks) {a : SessionAction} (ha : a.isPhase) {K : List Task}
    (hK : .calling ∈ K) : ¬ c.HasRoom a K := fun h => by
  rcases h with h | ⟨t, rest, rfl, ht, h⟩
  · exact hc.not_nests ha hK h
  · exact hc.not_nests_of_drains ha ht hK h

lemma not_expires (hc : c.LeavesTicks) {K : List Task} (hK : .calling ∈ K) : ¬ c.Expires K := fun h => by
  rcases h with h | h | ⟨now, h⟩ | ⟨t, rest, rfl, ht, h⟩
  · exact hc.not_nests (a := .dispatchTimeouts) rfl hK (.inl h)
  · cases (hc.callback_phase rfl).symm.trans h
  · cases (hc.rounds (.expire now) rfl).symm.trans h
  · exact hc.not_nests_of_drains rfl ht hK h

end Conduct.LeavesTicks

/-! Messages, of two kinds -/

def Fields.isError (m : Fields) : Bool := Message.kindOf m = .error

namespace Event

def read? (id : SessionId) : Event → Option Fields
  | .dealt session (.read m) => if session = id then some m else none
  | _ => none

/-- The message that has its turn. -/
def turn? (id : SessionId) : Event → Option Fields
  | .noted session (.dispatched m _) => if session = id then some m else none
  | _ => none

/-- Whether no message is read in an event, and none has its turn. -/
def isApart (id : SessionId) (e : Event) : Bool := (e.read? id).isNone && (e.turn? id).isNone

/-- The messages of a kind, in their order. -/
def messages (f : Event → Option Fields) (b : Bool) (es : List Event) : List Fields :=
  ((es.filterMap f).filter (·.isError = b)).reverse

variable {f : Event → Option Fields} {b : Bool} {es : List Event}

lemma messages_append (new : List Event) :
    messages f b (new ++ es) = messages f b es ++ messages f b new := by
  rw [messages, List.filterMap_append, List.filter_append, List.reverse_append]
  rfl

lemma messages_eq_nil (h : ∀ e ∈ es, ∀ m ∈ f e, m.isError ≠ b) : messages f b es = [] := by
  rw [messages, List.reverse_eq_nil_iff, List.filter_eq_nil_iff]
  intro m hm
  obtain ⟨e, he, hfe⟩ := List.mem_filterMap.mp hm
  simpa using h e he m hfe

lemma messages_eq_nil_of_none (h : ∀ e ∈ es, f e = none) : messages f b es = [] :=
  messages_eq_nil fun e he m hm => by
    rw [h e he] at hm
    cases hm

lemma messages_cons {e : Event} {m : Fields} (h : f e = some m) :
    messages f b (e :: es) = messages f b es ++ [m].filter (·.isError = b) := by
  rw [messages, List.filterMap_cons_some h, ← List.singleton_append, List.filter_append,
    List.reverse_append, messages]
  congr 1
  by_cases hm : m.isError = b <;> simp [hm]

lemma messages_cons_none {e : Event} (h : f e = none) :
    messages f b (e :: es) = messages f b es := by
  rw [messages, List.filterMap_cons_none h, messages]

end Event

def reads (id : SessionId) : Bool → List Event → List Fields := Event.messages (Event.read? id)

def turns (id : SessionId) : Bool → List Event → List Fields := Event.messages (Event.turn? id)

/-- The errors that wait, or the other messages. -/
def Session.held (s : Session) : Bool → List Fields
  | false => s.responses
  | true => s.errors

lemma Session.held_eq_of_inbox {s s' : Session} (h : s'.inbox = s.inbox) (b : Bool) :
    s'.held b = s.held b := by
  obtain ⟨hresponses, herrors⟩ := Prod.mk.inj h
  cases b
  · exact hresponses
  · exact herrors

lemma Session.held_enqueue (s : Session) (m : Fields) (b : Bool) :
    (s.enqueue m).held b = s.held b ++ [m].filter (·.isError = b) := by
  rw [enqueue]
  split
  next hk => cases b <;> simp [held, Fields.isError, hk]
  next hk =>
    have hm : m.isError = false := decide_eq_false hk
    cases b <;> simp [held, hm]

lemma Session.Sound.isError_of_held {s : Session} {es : List Event} (h : s.Sound c id es) {b : Bool}
    {m : Fields} (hm : m ∈ s.held b) : m.isError = b := by
  cases b with
  | false => exact decide_eq_false (h.kinds m hm)
  | true => exact decide_eq_true (h.errorKinds m hm)

section

variable {b : Bool} {es es' : List Event}

lemma reads_eq_of_adds (h : Adds (Event.isApart id) es es') : reads id b es' = reads id b es := by
  obtain ⟨new, rfl, hnew⟩ := h
  have hnone : reads id b new = [] := Event.messages_eq_nil_of_none fun e he => by
    have happart := hnew e he
    rw [Event.isApart, Bool.and_eq_true] at happart
    exact Option.isNone_iff_eq_none.mp happart.1
  rw [reads, Event.messages_append, ← reads, hnone, List.append_nil]

lemma turns_eq_of_adds (h : Adds (Event.isApart id) es es') : turns id b es' = turns id b es := by
  obtain ⟨new, rfl, hnew⟩ := h
  have hnone : turns id b new = [] := Event.messages_eq_nil_of_none fun e he => by
    have happart := hnew e he
    rw [Event.isApart, Bool.and_eq_true] at happart
    exact Option.isNone_iff_eq_none.mp happart.2
  rw [turns, Event.messages_append, ← turns, hnone, List.append_nil]

end

/-! Steps -/

/-- What a step does about the inbox. -/
inductive Handles (id : SessionId) (p q : Position) : Prop where
  | goes (apart : Adds (Event.isApart id) p.events q.events) (inbox : q.session.inbox = p.session.inbox)
  | takes {m : Fields} {t : Task} {K : List Task} (before : p.tasks = .reading :: t :: K)
    (running : p.session.status ≠ .terminated ∨ t = .phase)
    (events : q.events = .dealt id (.read m) :: p.events)
    (inbox : ∀ b, q.session.held b = p.session.held b ++ [m].filter (·.isError = b))
  | dispatches {b : Bool} {m : Fields} {found : Session} (before : .calling ∉ p.tasks)
    (queue : p.session.held b = m :: q.session.held b)
    (others : q.session.held (!b) = p.session.held (!b))
    (events : q.events = .noted id (.dispatched m found) :: p.events)
  | clears (apart : Adds (Event.isApart id) p.events q.events) (inbox : q.session.inbox = ([], []))
    (leaving : q.session.status.isLeaving)
    (ended : q.session.status = .terminated ∨ numberLimit ≤ q.session.correlator.lastId)

lemma Step.handles (h : Step c id p q) (hc : c.LeavesTicks) : Handles id p q := by
  cases h
  case took s es t K m reader next running =>
    exact .takes rfl running rfl fun b => Session.held_enqueue { s with reader } m b
  case dispatched t K m rest drains free queue =>
    exact .dispatches (b := false) (fun h => hc.not_nests_of_drains rfl drains h free) queue rfl rfl
  case dispatchedError t K m rest drains free queue =>
    exact .dispatches (b := true) (fun h => hc.not_nests_of_drains rfl drains h free) queue rfl rfl
  case introduced => exact .goes ((Adds.single rfl).cons rfl) rfl
  case deferred item _ _ _ _ _ _ _ | queued item _ _ _ _ _ _ =>
    refine .goes ((Adds.single rfl).acceptance (fun _ _ => rfl) item) ?_
    cases item <;> rfl
  case notified writes | replied writes => exact .goes (writes.adds rfl rfl rfl) rfl
  case requested writes => exact .goes (Adds.trans (.single rfl) (writes.adds rfl rfl rfl)) rfl
  case overtaken status =>
    exact .clears (.refl _) rfl (Status.isLeaving_of_or (.inr status)) (.inl status)
  case parted => exact .clears (.single rfl) rfl rfl (.inl rfl)
  case saidGoodbye told left =>
    have hsaid : Adds (Event.isApart id) _ _ := (told.adds rfl rfl rfl).trans (left.adds rfl rfl rfl)
    exact .clears (hsaid.cons rfl) rfl rfl (.inl rfl)
  case unheardGoodbye told => exact .clears ((told.adds rfl rfl rfl).cons rfl) rfl rfl (.inl rfl)
  case abandoned status encodes =>
    refine .clears (.refl _) rfl (Status.isLeaving_of_or (.inl status)) (.inr ?_)
    exact not_lt.mp fun hn => encodes (Session.shutdownRequest_encodes hn)
  case buried s es K last timeout status settled =>
    refine .clears ?_ rfl (Status.isLeaving_of_or (.inr status)) (.inl status)
    dsimp only
    unfold Session.burial
    split
    · exact (Adds.single rfl).cons rfl
    · exact .single rfl
  all_goals exact .goes (by first | exact .refl _ | exact .single rfl) rfl

/-! What is accounted for -/

/-- Every message that was read had its turn or waits, in its order; what waits is lost when the session
ends. -/
structure Position.Accounts (id : SessionId) (p : Position) : Prop where
  whole : p.TicksWhole
  turned : ∀ b, turns id b p.events ++ p.session.held b <+: reads id b p.events
  kept : p.session.status ≠ .terminated →
    ∀ b, turns id b p.events ++ p.session.held b = reads id b p.events

namespace Position.Accounts

lemma blank (config : Fields) (name : Json) : Position.Accounts id ⟨.blank config name, [], []⟩ where
  whole := ⟨List.not_mem_nil, fun _ h => (List.cons_ne_nil _ _ (List.suffix_nil.mp h)).elim⟩
  turned b := by cases b <;> exact List.nil_prefix
  kept _ b := by cases b <;> rfl

end Position.Accounts

lemma Step.ticksWhole (h : Step c id p q) (hc : c.LeavesTicks) (hp : p.TicksWhole) : q.TicksWhole where
  phase := (h.phase_or hp.phase).resolve_right fun ⟨a, _, _, _, _, isPhase, free⟩ =>
    hc.phases a isPhase (free.imp_left And.right)
  reading := h.reading_suffix hp

lemma Step.accounts (h : Step c id p q) (hc : c.LeavesTicks) (hs : p.session.Sound c id p.events)
    (few : q.session.correlator.lastId < numberLimit) (hp : p.Accounts id) : q.Accounts id := by
  have hwhole := h.ticksWhole hc hp.whole
  have hrunning : q.session.status ≠ .terminated → p.session.status ≠ .terminated :=
    fun hq ht => hq (h.terminated ht)
  cases h.handles hc with
  | goes apart inbox =>
    have heq : ∀ b, turns id b q.events ++ q.session.held b = turns id b p.events ++ p.session.held b :=
      fun b => by rw [turns_eq_of_adds apart, Session.held_eq_of_inbox inbox]
    refine ⟨hwhole, fun b => ?_, fun hq b => ?_⟩
    · rw [heq, reads_eq_of_adds apart]
      exact hp.turned b
    · rw [heq, reads_eq_of_adds apart]
      exact hp.kept (hrunning hq) b
  | @takes m t K before running events inbox =>
    -- Bytes are read while the session runs, so that nothing was lost yet.
    have ht : t ≠ .phase := fun ht => hp.whole.phase (before ▸ ht ▸ by simp)
    have hkept := hp.kept (running.resolve_right ht)
    have heq : ∀ b, turns id b q.events ++ q.session.held b = reads id b q.events := fun b => by
      have hread : reads id b q.events = reads id b p.events ++ [m].filter (·.isError = b) :=
        events ▸ Event.messages_cons (if_pos rfl)
      have hturned : turns id b q.events = turns id b p.events := events ▸ Event.messages_cons_none rfl
      rw [hread, hturned, inbox, ← List.append_assoc, hkept]
    exact ⟨hwhole, fun b => (heq b) ▸ List.prefix_refl _, fun _ => heq⟩
  | @dispatches b m found before queue others events =>
    have hkind : m.isError = b := hs.isError_of_held (queue ▸ List.mem_cons_self)
    have hread : ∀ b, reads id b q.events = reads id b p.events := fun b =>
      events ▸ Event.messages_cons_none rfl
    have hturned : ∀ b, turns id b q.events = turns id b p.events ++ [m].filter (·.isError = b) :=
      fun b => events ▸ Event.messages_cons (if_pos rfl)
    have heq : ∀ b, turns id b q.events ++ q.session.held b = turns id b p.events ++ p.session.held b := by
      intro b'
      rw [hturned]
      by_cases hb : b' = b
      · rw [hb, queue, List.append_assoc]
        simp [hkind]
      · obtain rfl : b' = !b := by cases b <;> cases b' <;> simp_all
        rw [others]
        simp [hkind]
    exact ⟨hwhole, fun b => by rw [heq, hread]; exact hp.turned b,
      fun hq b => by rw [heq, hread]; exact hp.kept (hrunning hq) b⟩
  | clears apart inbox leaving ended =>
    have hterminated := ended.resolve_right (not_le.mpr few)
    refine ⟨hwhole, fun b => ?_, fun hq => (hq hterminated).elim⟩
    have hnone : q.session.held b = [] := by
      cases b
      · exact (Prod.mk.inj inbox).1
      · exact (Prod.mk.inj inbox).2
    rw [hnone, List.append_nil, turns_eq_of_adds apart, reads_eq_of_adds apart]
    exact (List.prefix_append _ _).trans (hp.turned b)

lemma Steps.accounts (h : Steps c id p q) (hc : c.LeavesTicks) (hs : p.session.Sound c id p.events)
    (few : q.session.correlator.lastId < numberLimit) (hp : p.Accounts id) : q.Accounts id := by
  induction h with
  | refl => exact hp
  | tail hr h ih =>
    exact h.accounts hc (Steps.sound hr hs) few (ih (Nat.lt_of_le_of_lt h.lastId_le few))

/-- Between two ticks no message waits. -/
lemma Steps.held_eq_nil {config : Fields} {name : Json}
    (h : Steps c id ⟨.blank config name, [], []⟩ q) (hc : c.LeavesTicks) (sends : c.Sends config)
    (calm : Calm id q.session q.events) (hq : .ticking ∉ q.tasks) (b : Bool) : q.session.held b = [] := by
  have hall : ∀ r, Steps c id ⟨.blank config name, [], []⟩ r → Calm id r.session r.events →
      r.TicksWhole ∧ (.ticking ∈ r.tasks ∨ r.session.WaitsLess (.blank config name)) := by
    intro r hr
    induction hr with
    | refl =>
      have hblank : Position.Accounts id ⟨.blank config name, [], []⟩ := .blank config name
      exact fun _ => ⟨hblank.whole, .inr (.refl _)⟩
    | tail hr h ih =>
      intro hq
      obtain ⟨hwhole, hp⟩ := ih (h.calm hq)
      have hconfig := Steps.config_eq hr
      dsimp only [Session.blank] at hconfig
      rw [← hconfig] at sends
      exact ⟨h.ticksWhole hc hwhole, h.waitsLess hwhole hc.leavesPhases sends (h.calm hq) hp⟩
  have hless := (hall q h calm).2.resolve_left hq
  cases b
  · exact List.suffix_nil.mp hless.responses
  · exact List.suffix_nil.mp hless.errors

end LanguageClient
