import LanguageClient.Proofs.Steps.Ending
import LanguageClient.Proofs.Steps.Passage
import LanguageClient.Proofs.Wire.Calls

/-!
Turns. A message is dispatched, its listeners are told one after the other, and then it is answered if it
has to be. Nothing else that a session does touches what its message still has to go through.
-/

namespace LanguageClient

variable {c : Conduct} {id : SessionId} {p q : Position}

/-- Whether a task belongs to the turn of a message. -/
def Task.isDue : Task → Bool
  | turning _ _ | telling _ _ => true
  | _ => false

/-- Callbacks leave it to the host to tick and to dispatch. -/
structure Conduct.LeavesDispatch (c : Conduct) : Prop where
  tick : c.callback .tick = false
  responses : c.callback .dispatchResponses = false
  errors : c.callback .dispatchErrors = false

lemma SessionAction.isOwn_of_not (a : SessionAction) (h : !a.isOwn) : a.isOwn = false := by
  simpa using h

/-- Whatever a client offers, but for callbacks no tick and no part of one. -/
def Conduct.reserved : Conduct where
  host a := !a.isOwn
  callback a := !a.isOwn && !a.isPhase && !a.isRound
  hostIsOutside := SessionAction.isOwn_of_not
  callbackIsOutside _ h := by
    rw [Bool.and_assoc, Bool.and_eq_true] at h
    simpa using h.1

lemma Conduct.leavesDispatch_reserved : reserved.LeavesDispatch := ⟨rfl, rfl, rfl⟩

lemma Conduct.Nests.areOuter {a : SessionAction} {K : List Task} (h : c.Nests a K)
    (ht : c.callback .tick = false) (ha : c.callback a = false) : Task.AreOuter K := by
  rcases h with h | h | h
  · exact h
  · cases ht.symm.trans h
  · cases ha.symm.trans h

/-! Events -/

namespace Event

/-- What a session answers its server, or tries to. -/
def reply? (id : SessionId) : Event → Option Json
  | .sent session _ message | .noted session (.refused message) | .noted session (.unlinked message) =>
    if session = id ∧ message.callKind = .reply then some message else none
  | _ => none

def dispatches (id : SessionId) : Event → Bool
  | .noted session (.dispatched _ _) => session = id
  | _ => false

/-- Whether an event neither gives a message its turn nor answers one. -/
def isBeside (id : SessionId) (e : Event) : Bool := (e.reply? id).isNone && !e.dispatches id

/-- The callback that is told of a message, and what it is told. -/
def receipt? (id : SessionId) : Event → Option (Json × Json)
  | .received session label _ params => if session = id then some (label, params) else none
  | _ => none

end Event

/-- What is seen of a listener that is told of a message. -/
def Listener.receipt? (params : Json) : Listener → Option (Json × Json)
  | .host (some callback) => some (callback.label, params)
  | _ => none

lemma Call.Kind.ofMethod_ne_reply (method : Json) : Call.Kind.ofMethod method ≠ .reply := by
  cases method with
  | text t =>
    rw [ofMethod]
    repeat' split
    all_goals nofun
  | _ => nofun

/-- What is no reply is written beside the turns. -/
lemma Writes.beside {s : Session} {message : Json} {es es' : List Event} {result : Except Fault Unit}
    (h : Writes id s message es result es') (hm : message.callKind ≠ .reply) :
    Adds (Event.isBeside id) es es' := by
  have hnone : (if id = id ∧ message.callKind = .reply then some message else none) = none :=
    if_neg fun hr => hm hr.2
  exact h.adds (by rw [Event.isBeside, Event.reply?, hnone]; rfl)
    (by rw [Event.isBeside, Event.reply?, hnone]; rfl) (by rw [Event.isBeside, Event.reply?, hnone]; rfl)

/-! Steps -/

/-- What a step does about the turns of messages. -/
inductive Takes (id : SessionId) (p q : Position) : Prop where
  /-- Nothing: what is pushed is no turn, and what is popped belongs to none. -/
  | goes (P Q : List Task) {K : List Task} (before : p.tasks = P ++ K) (after : q.tasks = Q ++ K)
    (pops : ∀ t ∈ P, t.isDue = false) (pushes : ∀ m found, .turning m found ∉ Q)
    (beside : Adds (Event.isBeside id) p.events q.events)
  | dispatches {t : Task} {K : List Task} {m : Fields} (before : p.tasks = t :: K)
    (after : q.tasks = q.session.due m ++ t :: K) (drains : t.drains) (outer : Task.AreOuter K)
    (read : .dealt id (.read m) ∈ p.events)
    (events : q.events = .noted id (.dispatched m q.session) :: p.events)
  | tells (new : List Event) {l : Listener} {params : Json} (before : p.tasks = .telling l params :: q.tasks)
    (events : q.events = new ++ p.events) (beside : ∀ e ∈ new, Event.isBeside id e)
    (told : .noted id .tooDeep ∈ new ∨ new.filterMap (Event.receipt? id) = (l.receipt? params).toList)
  | answers {m : Fields} {found : Session} {result : Except Fault Unit}
    (before : p.tasks = .turning m found :: q.tasks) (kind : Message.kindOf m = .request)
    (isReply : Message.IsReply m (found.replyTo m))
    (writes : Writes id p.session (found.replyTo m) p.events result q.events)
  | passes {m : Fields} {found : Session} (before : p.tasks = .turning m found :: q.tasks)
    (events : q.events = p.events) (kind : m.IsTame → Message.kindOf m ≠ .request)

lemma Takes.stays (h : Adds (Event.isBeside id) p.events q.events) (ht : q.tasks = p.tasks) :
    Takes id p q :=
  .goes [] [] rfl ht (fun _ hm => (List.not_mem_nil hm).elim) (fun _ _ => List.not_mem_nil) h

lemma Takes.pushes {t : Task} (h : Adds (Event.isBeside id) p.events q.events)
    (ht : q.tasks = t :: p.tasks) (hn : ∀ m found, t ≠ .turning m found) : Takes id p q :=
  .goes [] [t] rfl ht (fun _ hm => (List.not_mem_nil hm).elim)
    (fun m found hm => hn m found (List.mem_singleton.mp hm).symm) h

lemma Takes.pops {t : Task} (h : Adds (Event.isBeside id) p.events q.events)
    (ht : p.tasks = t :: q.tasks) (hn : t.isDue = false) : Takes id p q :=
  .goes [t] [] ht rfl (fun _ hm => (List.mem_singleton.mp hm).symm ▸ hn)
    (fun _ _ => List.not_mem_nil) h

/-- One task gives way to another. -/
lemma Takes.turns {t t' : Task} {K : List Task} (h : Adds (Event.isBeside id) p.events q.events)
    (ht : p.tasks = t :: K) (ht' : q.tasks = t' :: K) (hn : t.isDue = false)
    (hn' : ∀ m found, t' ≠ .turning m found) : Takes id p q :=
  .goes [t] [t'] ht ht' (fun _ hm => (List.mem_singleton.mp hm).symm ▸ hn)
    (fun m found hm => hn' m found (List.mem_singleton.mp hm).symm) h

lemma turning_not_mem_owed {m m' : Fields} {found : Session} {ticket : Nat} {handler : Option Handler} :
    .turning m found ∉ Task.owed ticket m' handler := by
  simp [Task.mem_owed]

lemma Takes.owes {t t' : Task} {K : List Task} {ticket : Nat} {m : Fields} {handler : Option Handler}
    (h : Adds (Event.isBeside id) p.events q.events) (ht : p.tasks = t :: K)
    (ht' : q.tasks = Task.owed ticket m handler ++ t' :: K) (hn : t.isDue = false)
    (hn' : ∀ m found, t' ≠ .turning m found) : Takes id p q := by
  refine .goes [t] (Task.owed ticket m handler ++ [t']) ht ?_ ?_ ?_ h
  · rw [ht', List.append_assoc, List.singleton_append]
  · exact fun _ hm => (List.mem_singleton.mp hm).symm ▸ hn
  · intro k found hk
    rcases List.mem_append.mp hk with hk | hk
    · exact turning_not_mem_owed hk
    · exact hn' k found (List.mem_singleton.mp hk).symm

lemma Step.takes (h : Step c id p q) (hc : c.LeavesDispatch) (hs : p.session.Sound c id p.events) :
    Takes id p q := by
  have hnotification : ∀ method params : Json, (Message.notification method params).callKind ≠ .reply :=
    fun method _ => Call.Kind.ofMethod_ne_reply method
  have hrequest : ∀ n method params : Json, (Message.request n method params).callKind ≠ .reply :=
    fun _ method _ => Call.Kind.ofMethod_ne_reply method
  cases h
  case introduced => exact .stays ((Adds.single rfl).cons rfl) rfl
  case deferred item _ _ _ _ _ _ _ | queued item _ _ _ _ _ _ =>
    exact .stays ((Adds.single rfl).acceptance (fun _ _ => rfl) item) rfl
  case notified writes => exact .stays (writes.beside (hnotification _ _)) rfl
  case requested writes =>
    exact .stays (Adds.trans (Adds.single rfl) (writes.beside (hrequest _ _ _))) rfl
  case fed => exact .pushes (.single rfl) rfl fun _ _ h => by cases h
  case unread => exact .pops (.single rfl) rfl rfl
  case readAll => exact .pops (.refl _) rfl rfl
  case dispatched m rest drains free queue =>
    exact .dispatches rfl rfl drains (free.areOuter hc.tick hc.responses)
      (hs.inbox m (List.mem_append_left _ (queue ▸ List.mem_cons_self))) rfl
  case dispatchedError m rest drains free queue =>
    exact .dispatches rfl rfl drains (free.areOuter hc.tick hc.errors)
      (hs.inbox m (List.mem_append_right _ (queue ▸ List.mem_cons_self))) rfl
  case hailed => exact .pushes (.refl _) rfl fun _ _ h => by cases h
  case told callback params title =>
    refine .tells [_] rfl rfl (fun e he => ?_) (.inr ?_)
    · rw [List.mem_singleton.mp he]
      rfl
    · simp [Event.receipt?, Listener.receipt?]
  case heeded l params silent =>
    refine .tells [] rfl rfl (fun _ he => (List.not_mem_nil he).elim) (.inr ?_)
    cases l with
    | host callback =>
      cases callback with
      | some callback => exact (silent callback rfl).elim
      | none => rfl
    | _ => rfl
  case untold =>
    refine .tells [_] rfl rfl (fun e he => ?_) (.inl List.mem_cons_self)
    rw [List.mem_singleton.mp he]
    rfl
  case replied kind isReply writes => exact .answers rfl kind isReply writes
  case passed kind => exact .passes rfl rfl kind
  case resolved =>
    exact .goes [] _ rfl rfl (fun _ hm => (List.not_mem_nil hm).elim)
      (fun _ _ => turning_not_mem_owed) (.single rfl)
  case turnedDown => exact .owes (.refl _) rfl rfl rfl fun _ _ h => by cases h
  case welcomed => exact .owes (.single rfl) rfl rfl rfl fun _ _ h => by cases h
  case parted => exact .turns (.single rfl) rfl rfl rfl fun _ _ h => by cases h
  case saidGoodbye told left =>
    have hsaid : Adds (Event.isBeside id) _ _ :=
      (told.beside (hrequest _ _ _)).trans (left.beside (hnotification _ _))
    exact .turns (hsaid.cons rfl) rfl rfl rfl fun _ _ h => by cases h
  case unheardGoodbye told =>
    exact .turns ((told.beside (hrequest _ _ _)).cons rfl) rfl rfl rfl fun _ _ h => by cases h
  case ended => exact .pushes (.single rfl) rfl fun _ _ h => by cases h
  case buried s es K last timeout status settled =>
    refine .pops ?_ rfl rfl
    dsimp only
    unfold Session.burial
    split
    · exact (Adds.single rfl).cons rfl
    · exact .single rfl
  case entered => exact .pushes (.refl _) rfl fun _ _ h => by cases h
  case left | lapsing | ticked | began => exact .pushes (.refl _) rfl fun _ _ h => by cases h
  case answered | unheard | late | declared | did =>
    exact .pops (.single rfl) rfl rfl
  case lapsed | served | doomed | spared | stuck | undeclared | overtaken | abandoned | rested | exited =>
    exact .pops (.refl _) rfl rfl
  case launched | fired | fellShort | asked => exact .stays (.single rfl) rfl
  case took => exact .stays (.single rfl) rfl
  all_goals exact .stays (.refl _) rfl

end LanguageClient
