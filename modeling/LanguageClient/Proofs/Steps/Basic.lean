import LanguageClient.Proofs.Frame.RoundTrip
import LanguageClient.Proofs.Session.Account
import LanguageClient.Proofs.Steps.Conduct
import LanguageClient.Session.Documents
import LanguageClient.Session.Lifecycle

/-!
Steps. A session is at a position: its state, the events it took part in, and what it is in the
middle of. Whatever is done with it is a sequence of steps, each of which says when it may be taken.
-/

namespace LanguageClient

/-- Whether a session takes part in an event. -/
def Event.concerns (id : SessionId) : Event → Bool
  | .sent session _ _ | .launched session _ | .closed session _ _ | .dealt session _
  | .noted session _ | .answered session _ _ _ _ | .received session _ _ _ => session = id
  | _ => false

/-- What a session is in the middle of. -/
inductive Task where
  /-- An answer is about to be given. -/
  | answering (ticket : Nat) (handler : Handler) (response : Fields)
  /-- The session was announced as open, and its listeners will be told after the callback. -/
  | opening (callback : Option Callback)
  /-- The server refused to open the session, which will have to end after the callback. -/
  | refused (ticket : Nat) (callback : Option Callback) (response : Fields)
  /-- A message has its turn, and found its session so. -/
  | turning (message : Fields) (found : Session)
  /-- A listener is to be told the params of a message. -/
  | telling (listener : Listener) (params : Json)
  /-- What is overdue is answered. -/
  | expiring
  | leaving (wasOpen : Bool)
  /-- The session is over, and what has a number up to this one is to fail. -/
  | ending (last : Nat)
  | reading
  | ticking
  /-- One phase of a tick by itself. -/
  | phase
  /-- A callback has its turn, and will not come to its end. -/
  | calling
  /-- An operation that found the session so, after these events. -/
  | performing (action : SessionAction) (before : Session) (earlier : List Event)

namespace Task

/-- Whether messages may be taken and dispatched. -/
def drains : Task → Bool
  | ticking | phase => true
  | _ => false

/-- Whether a callback may have its turn meanwhile: not while an answer is about to be given, nor while
messages are read. -/
def isIdle : Task → Bool
  | answering _ _ _ | reading => false
  | _ => true

def AreIdle (K : List Task) : Prop := ∀ t ∈ K, t.isIdle

/-- Whether nothing is under way but an operation of the host. -/
def AreOuter (K : List Task) : Prop := K = [] ∨ ∃ a before earlier, K = [performing a before earlier]

lemma isIdle_of_drains {t : Task} (h : t.drains) : t.isIdle := by
  cases t <;> first | rfl | cases h

lemma AreIdle.append {K L : List Task} (h : AreIdle K) (g : AreIdle L) : AreIdle (K ++ L) :=
  List.forall_mem_append.mpr ⟨h, g⟩

lemma areIdle_nil : AreIdle [] := fun _ h => (List.not_mem_nil h).elim

lemma AreIdle.cons {t : Task} {K : List Task} (ht : t.isIdle) (h : AreIdle K) : AreIdle (t :: K) :=
  List.forall_mem_cons.mpr ⟨ht, h⟩

lemma areIdle_singleton {t : Task} (ht : t.isIdle) : AreIdle [t] := areIdle_nil.cons ht

lemma areIdle_of_drains {t : Task} (h : t.drains) : AreIdle [t] :=
  areIdle_singleton (isIdle_of_drains h)

/-- The answer that is owed to whoever asked, if anyone waits for it. -/
def owed (ticket : Nat) (response : Fields) : Option Handler → List Task
  | some handler => [answering ticket handler response]
  | none => []

lemma mem_owed {t : Task} {ticket : Nat} {response : Fields} {handler : Option Handler} :
    t ∈ owed ticket response handler ↔ ∃ h ∈ handler, t = answering ticket h response := by
  cases handler <;> simp [owed]

end Task

structure Position where
  session : Session
  events : List Event
  /-- What the session is in the middle of, the last begun first. -/
  tasks : List Task

/-! Messages -/

def Json.Encodes (v : Json) : Prop := ∃ bytes, Frame.encode v = .ok bytes

lemma Json.Encodes.isWritable {message : Json} (h : message.Encodes) : message.isWritable := by
  obtain ⟨bytes, hb⟩ := h
  by_contra hw
  rw [Bool.not_eq_true] at hw
  rw [Frame.encode, hw] at hb
  cases hb

lemma encodes_of_isPlain {v : Json} (h : v.isPlain) : v.Encodes := ⟨_, Frame.encode_of_isPlain h⟩

/-- What comes of an attempt to write a message, and the events after it. -/
inductive Writes (id : SessionId) (s : Session) (message : Json) (es : List Event) :
    Except Fault Unit → List Event → Prop where
  | sent {link : Link} (linked : s.link = some link) (accepts : link.accepts)
    (encodes : message.Encodes) : Writes id s message es (.ok ()) (.sent id s.name message :: es)
  | refused {link : Link} {f : Fault} (linked : s.link = some link) (refuses : link.accepts = false)
    (encodes : message.Encodes) (closed : f.isClosed) :
    Writes id s message es (.error f) (.noted id (.refused message) :: es)
  | unlinked {f : Fault} (linked : s.link = none) (closed : f.isClosed) :
    Writes id s message es (.error f) (.noted id (.unlinked message) :: es)
  | unencodable {link : Link} {f : Fault} (linked : s.link = some link)
    (encodes : ¬ message.Encodes) (closed : f.isClosed = false) :
    Writes id s message es (.error f) es

/-- A write looks at the link and the name of a session alone. -/
lemma Writes.of_eq {id : SessionId} {s s' : Session} {message : Json} {es es' : List Event}
    {result : Except Fault Unit} (h : Writes id s message es result es') (hl : s'.link = s.link)
    (hn : s'.name = s.name) : Writes id s' message es result es' := by
  cases h with
  | sent linked accepts encodes => exact hn ▸ .sent (hl ▸ linked) accepts encodes
  | refused linked refuses encodes closed => exact .refused (hl ▸ linked) refuses encodes closed
  | unlinked linked closed => exact .unlinked (hl ▸ linked) closed
  | unencodable linked encodes closed => exact .unencodable (hl ▸ linked) encodes closed

/-- What has bytes fails to be written only because the link is closed. -/
lemma Writes.isClosed {id : SessionId} {s : Session} {message : Json} {es es' : List Event}
    {f : Fault} (h : Writes id s message es (.error f) es') (hm : message.Encodes) : f.isClosed := by
  cases h with
  | refused linked refuses encodes closed => exact closed
  | unlinked linked closed => exact closed
  | unencodable linked encodes closed => exact (encodes hm).elim

/-- What a request of the server is answered with. -/
inductive Message.IsReply (m : Fields) : Json → Prop where
  | done : IsReply m (response (m.getD "id" .null) .null)
  | unhandled {method : Json} (asked : m.get? "method" = some method) :
    IsReply m (errorResponse (m.getD "id" .null) (.int Code.methodNotFound)
      ("Unhandled method " ++ method.display : Text) .null)

/-- A message that no one stumbles over: its method can be looked up, and if it is a request it can be
answered. -/
structure Fields.IsTame (m : Fields) : Prop where
  method : ∀ method, m.get? "method" = some method → ∃ key, method.key = .ok key
  reply : Message.kindOf m = .request → ∀ reply, Message.IsReply m reply → reply.Encodes

/-! Items -/

/-- Numbers below it can be written. -/
def numberLimit : Nat := Nat.pow 10 Number.longestInteger

lemma isPlain_ofNat {n : Nat} (hn : n < numberLimit) : (Json.ofNat n).isPlain := by
  unfold numberLimit at hn
  rw [Json.ofNat, Json.isPlain, decide_eq_true_eq, Int.natAbs_natCast]
  exact (Number.length_ofNat_le_iff (by decide)).mpr hn

/-- A notification that a link can be handed. -/
def OutgoingNotification.IsSendable (n : OutgoingNotification) : Prop :=
  (Message.notification n.method n.params).Encodes

/-- A request that can be registered and that a link can be handed. -/
structure OutgoingRequest.IsSendable (r : OutgoingRequest) : Prop where
  encodes : ∀ n < numberLimit, (Message.request (Json.ofNat n) r.method r.params).Encodes
  timeout : r.timeout = .null ∨ ∃ x, r.timeout.toFloat = .ok x

lemma OutgoingNotification.isSendable_of_isPlain {n : OutgoingNotification} (hm : n.method.isPlain)
    (hp : n.params.isPlain) : n.IsSendable := by
  refine encodes_of_isPlain ?_
  simp only [Message.notification, Json.isPlain, Json.fieldsArePlain, List.map, hm, hp]
  decide +kernel

lemma OutgoingRequest.isSendable_of_isPlain {r : OutgoingRequest} (hm : r.method.isPlain)
    (hp : r.params.isPlain) (ht : r.timeout = .null) : r.IsSendable where
  encodes n hn := by
    refine encodes_of_isPlain ?_
    have hi := isPlain_ofNat hn
    simp only [Message.request, Json.isPlain, Json.fieldsArePlain, List.map, hm, hp, hi]
    decide +kernel
  timeout := .inl ht

namespace Deferred

def IsSendable : Deferred → Prop
  | .inl n => n.IsSendable
  | .inr r => r.IsSendable

def method : Deferred → Json
  | .inl n => n.method
  | .inr r => r.method

/-- What is known of an item that is accepted. -/
def acceptance (id : SessionId) : Deferred → List Event
  | .inl _ => []
  | .inr r => [.dealt id (.accepted r.ticket r.handler)]

end Deferred

namespace SessionAction

/-- What a session is asked to send by an operation. A feature may wait for the answer in place of the
host. -/
inductive Asks (a : SessionAction) (s : Session) : Deferred → Prop where
  | host {item} (asked : a.item? s = some item) : Asks a s item
  | feature {r handler} (isFeature : Handler.isFeature handler)
    (asked : a.item? s = some (.inr r)) : Asks a s (.inr { r with handler := some handler })

/-- What an operation that sends something makes of the open documents. Documents are closed and changed
only while they are open, and opened only while they are not. -/
inductive Tracks (s : Session) : SessionAction → List (Json.Key × Json) → Prop where
  | opened {params uri key} (names : Session.uriOf params = .ok uri) (isKey : uri.key = .ok key)
    (closed : s.isOpen key = false) :
    Tracks s (.openDocument params) (s.openDocuments ++ [(key, uri)])
  | closed {params key} (names : Session.uriOf params >>= Json.key = .ok key) (opened : s.isOpen key) :
    Tracks s (.closeDocument params) (s.openDocuments.filter fun (k, _) => k ≠ key)
  | changed {params key} (names : Session.uriOf params >>= Json.key = .ok key) (opened : s.isOpen key) :
    Tracks s (.changeDocument params) s.openDocuments
  | aside {a} (aside : a.isDocument = false) : Tracks s a s.openDocuments

/-- What is asked for is what the operation sends, but for who waits for the answer. -/
lemma Asks.exists_item {a : SessionAction} {s : Session} {item : Deferred} (h : a.Asks s item) :
    ∃ item', a.item? s = some item' ∧ Deferred.method item' = Deferred.method item ∧
      (Deferred.IsSendable item' → Deferred.IsSendable item) := by
  cases h with
  | host asked => exact ⟨item, asked, rfl, fun h => h⟩
  | feature isFeature asked => exact ⟨_, asked, rfl, fun h => ⟨h.encodes, h.timeout⟩⟩

end SessionAction

def Listeners.all {κ : Type} (ls : Listeners κ) : List κ :=
  ls.events.map (·.2) ++ ls.methods.map (·.2)

namespace Session

/-- A session that took an item: a request uses up a ticket. -/
def count (s : Session) : Deferred → Session
  | .inl _ => s
  | .inr _ => { s with tickets := s.tickets + 1 }

def openingRequest (s : Session) (params : Json) (callback : Option Callback) : OutgoingRequest :=
  ⟨"initialize", params, some (.opening callback), .null, s.tickets⟩

/-- A session that is to ask its server to open it. -/
def introduce (s : Session) (params : Json) (callback : Option Callback) : Session :=
  let requests := s.requests ++ [s.openingRequest params callback]
  { s with status := .initializing, requests, tickets := s.tickets + 1 }

def nextNumber (s : Session) : Nat := s.correlator.lastId + 1

def shutdownRequest (s : Session) : Json :=
  Message.request (Json.ofNat s.nextNumber) "shutdown" .null

/-- What the server wrote and no one has read yet. -/
def incoming? (s : Session) : Option Bytes := s.link.bind Link.incoming

def isAlive (s : Session) : Bool := (s.link.map Link.isAlive).getD false

/-- A session that learnt what its server can do, and is to tell it that it is open. -/
def welcome (s : Session) (capabilities serverInfo : Json) : Session :=
  let s := { s with status := .initialized, capabilities := some capabilities, serverInfo }
  (s.queue (.inl opened)).flush

/-- A session after the last of it. -/
def buried (s : Session) : Session :=
  { s.clearQueues with
    openDocuments := []
    link := s.link.map fun l => { l with closed := true } }

/-- The last that happens to a session: its link is closed, and its listeners are told. -/
def burial (id : SessionId) (s : Session) (timeout : Json) : List Event :=
  match s.link with
  | some _ => [.noted id (.fired (.text "shutdown")), .closed id s.name timeout]
  | none => [.noted id (.fired (.text "shutdown"))]

def IsClosed (s : Session) : Prop := ∀ l ∈ s.link, l.closed

/-- Who is told of a message. -/
def audience (s : Session) (m : Fields) : List Listener :=
  match (m.get? "method").map Json.key with
  | some (.ok key) => s.listeners.ofMethod key
  | _ => []

/-- What is to be done when a message has its turn. -/
def due (s : Session) (m : Fields) : List Task :=
  (s.audience m).map (.telling · (m.getD "params" .null)) ++ [.turning m s]

@[simp] lemma mem_due {s : Session} {m : Fields} {t : Task} : t ∈ s.due m ↔
    (∃ l ∈ s.audience m, t = .telling l (m.getD "params" .null)) ∨ t = .turning m s := by
  simp [due, eq_comm]

/-- What is counted among other tasks is none of what a message gives to do. -/
lemma countP_due {f : Task → Bool} (htelling : ∀ l params, f (.telling l params) = false)
    (hturning : ∀ m found, f (.turning m found) = false) (s : Session) (m : Fields) (K : List Task) :
    (s.due m ++ K).countP f = K.countP f := by
  have hnone : (s.due m).countP f = 0 := List.countP_eq_zero.mpr fun t ht => by
    rcases mem_due.mp ht with ⟨l, -, rfl⟩ | rfl <;> simp [htelling, hturning]
  rw [List.countP_append, hnone, Nat.zero_add]

/-- What a request of the server is answered. -/
def replyTo (s : Session) (m : Fields) : Json :=
  let requestId := m.getD "id" .null
  if (s.audience m).isEmpty then
    Message.errorResponse requestId (.int Message.Code.methodNotFound)
      ("Unhandled method " ++ (m.getD "method" .null).display : Text) .null
  else Message.response requestId .null

/-- A session that is over: nothing waits to be sent or to be answered, and its link is closed. -/
structure IsOver (s : Session) : Prop where
  status : s.status = .terminated
  pending : s.correlator.pending = []
  notifications : s.notifications = []
  requests : s.requests = []
  deferred : s.deferred = []
  openDocuments : s.openDocuments = []
  closed : s.IsClosed

/-- What was read and waits to be dispatched. -/
def inbox (s : Session) : List Fields × List Fields := (s.responses, s.errors)

end Session

def exitNotification : Json := Message.notification "exit" .null

/-- Whatever a session of a configuration is asked to send can be sent. -/
structure Conduct.Sends (c : Conduct) (config : Fields) : Prop where
  items : ∀ a, c.allows a → ∀ s : Session, s.config = config → ∀ item, a.item? s = some item →
    Deferred.IsSendable item
  opening : ∀ rootUri name version callback, c.allows (.handshake rootUri name version callback) →
    ∀ s : Session, s.config = config → ∀ rootPath, Session.rootPathOf rootUri = .ok rootPath →
      (s.openingRequest (s.openingParams rootUri rootPath name version) callback).IsSendable

lemma isPlain_openingParams {s : Session} {name version : Json} (hn : name.isPlain)
    (hv : version.isPlain) (ho : (s.setting "initializationOptions").isPlain) :
    (s.openingParams .null none name version).isPlain := by
  have hc : Session.clientCapabilities.isPlain := by decide +kernel
  simp only [Session.openingParams, Json.isPlain, Json.fieldsArePlain, Json.ofOption, Option.map,
    List.map, hn, hv, ho, hc]
  decide +kernel

/-- A session without a folder can be asked for with plain names. -/
lemma isSendable_openingRequest {s : Session} {rootUri name version : Json} {rootPath : Option Text}
    (callback : Option Callback) (huri : rootUri.isNull) (hname : name.isPlain)
    (hversion : version.isPlain) (hpath : Session.rootPathOf rootUri = .ok rootPath)
    (ho : (s.setting "initializationOptions").isPlain) :
    (s.openingRequest (s.openingParams rootUri rootPath name version) callback).IsSendable := by
  have hnull : rootUri = .null := by cases rootUri <;> first | rfl | cases huri
  subst hnull
  obtain rfl := Except.ok.inj hpath
  have hmethod : Json.isPlain "initialize" := by decide +kernel
  exact OutgoingRequest.isSendable_of_isPlain hmethod (isPlain_openingParams hname hversion ho) rfl

/-- What a server sent could be read, is tame, and there were not too many requests. -/
structure Calm (id : SessionId) (s : Session) (es : List Event) : Prop where
  readable : ∀ f, .noted id (.unreadable f) ∉ es
  tame : ∀ m : Fields, .dealt id (.read m) ∈ es → m.IsTame
  few : s.correlator.lastId < numberLimit

/-! Operations that come to their end -/

/-- What became of an answer for the handler that waited for it: it was given, or it came too late, or
there was no room for the call. -/
inductive Handler.IsTold (id : SessionId) (es : List Event) (ticket : Nat) (m : Fields)
    (h : Handler) : Prop where
  | answered {label title} (mem : .answered id ticket label title (.object m) ∈ es)
  | late {callback} (opening : h = .opening callback) (mem : .noted id (.late ticket) ∈ es)
  | unheard (mem : .noted id .tooDeep ∈ es)

/-- A request that was resolved, so that whoever waited for it was told. -/
def Pending.IsSettled (id : SessionId) (es : List Event) (r : Pending Handler) : Prop :=
  ∃ m : Fields, .dealt id (.resolved r.ticket (.object m)) ∈ es ∧
    ∀ h ∈ r.handler, h.callback?.isSome → h.IsTold id es r.ticket m

/-- How an operation leaves a session if callbacks leave the phases of a tick alone. -/
structure Concludes (c : Conduct) (id : SessionId) (a : SessionAction) (before s : Session)
    (es : List Event) : Prop where
  finished : before.status.isLeaving = false → s.status = .terminated → s.IsOver
  emptied : (a.isPhase → c.host a = false) → before.status.isLeaving = false →
    s.status = .terminated → s.inbox = ([], [])
  settled : a.isEnding → before.status.isLeaving = false → s.status = .terminated →
    ∀ r ∈ before.correlator.pending, r.IsSettled id es
  still : a.isPhase = false → before.IsOver → s.inbox = before.inbox
  same : a.isEnding → before.status = .terminated → s = before

/-- How an operation leaves a session. -/
structure Leaves (c : Conduct) (id : SessionId) (a : SessionAction) (before s : Session)
    (es : List Event) : Prop where
  ended : a.isEnding → before.status.isLeaving = false →
    s.status = .terminated ∨ numberLimit ≤ s.correlator.lastId
  concludes : c.LeavesPhases → Concludes c id a before s es

/-! Steps -/

/-- Whether a phase of a tick may be gone through: a callback does so only if the conduct lets it. -/
def Conduct.Nests (c : Conduct) (a : SessionAction) (tasks : List Task) : Prop :=
  Task.AreOuter tasks ∨ c.callback .tick ∨ c.callback a

/-- Whether what is overdue may be answered. -/
def Conduct.Expires (c : Conduct) (tasks : List Task) : Prop :=
  Task.AreOuter tasks ∨ c.callback .dispatchTimeouts ∨ (∃ now, c.callback (.expire now)) ∨
    ∃ t rest, tasks = t :: rest ∧ t.drains ∧ c.Nests .dispatchTimeouts rest

/-- A request is resolved by what bears its id, and for a reason: the message has its turn, the request is
overdue, or its session is leaving. -/
def Resolves (s : Session) (answered : Json) (m : Fields) (tasks : List Task) : Prop :=
  m.getD "id" .null = answered ∧ ((∃ found rest, tasks = .turning m found :: rest) ∨
    (∃ rest, tasks = .expiring :: rest) ∨ s.status.isLeaving)

/-- Whether a phase of a tick may be gone through, by itself or in the course of a tick. -/
def Conduct.HasRoom (c : Conduct) (a : SessionAction) (tasks : List Task) : Prop :=
  c.Nests a tasks ∨ ∃ t rest, tasks = t :: rest ∧ t.drains ∧ c.Nests a rest

/-- Whether messages may be written: not after the end, unless the host asks for it itself. -/
def Conduct.Frees (c : Conduct) (a : SessionAction) (s : Session) (tasks : List Task) : Prop :=
  (s.status ≠ .terminated ∨ (∃ before earlier, tasks = [.performing a before earlier]) ∨ c.callback a) ∧
    c.HasRoom a tasks

inductive Step (c : Conduct) (id : SessionId) : Position → Position → Prop where
  | listened {s es K} (ls : Listeners Listener)
    (obey : ∀ l ∈ ls.all, l ∈ s.listeners.all ∨ l.obeys c.callback s.config) :
    Step c id ⟨s, es, K⟩ ⟨{ s with listeners := ls }, es, K⟩
  | relinked {s es K l} (l' : Link) (linked : s.link = some l) (closed : l'.closed = l.closed) :
    Step c id ⟨s, es, K⟩ ⟨{ s with link := some l' }, es, K⟩
  | documented {s es K} (documents : List (Json.Key × Json)) (status : s.status.isLeaving)
    (fewer : documents ⊆ s.openDocuments) :
    Step c id ⟨s, es, K⟩ ⟨{ s with openDocuments := documents }, es, K⟩
  | counted {s es K} (allowed : c.allows .nextId) :
    Step c id ⟨s, es, K⟩ ⟨{ s with correlator := s.correlator.advance }, es, K⟩
  | spoiled {s es K} (message : Json) (allowed : c.allows (.breakTick message)) :
    Step c id ⟨s, es, K⟩ ⟨{ s with fault := some message }, es, K⟩
  | fired {s es K name args} (key : Json.Key) (named : name.key? = some key)
    (allowed : c.allows (.fireEvent name args)) :
    Step c id ⟨s, es, K⟩ ⟨s, .noted id (.fired key) :: es, K⟩
  | fellShort {s es K} : Step c id ⟨s, es, K⟩ ⟨s, .noted id .tooDeep :: es, K⟩
  | asked {s es K} : Step c id ⟨s, es, K⟩ ⟨s, .noted id .asking :: es, K⟩
  -- Opening
  | launched {s es K} (linked : s.link = none) (status : s.status = .uninitialized) :
    Step c id ⟨s, es, K⟩ ⟨{ s with link := some {} }, .launched id s.name :: es, K⟩
  | introduced {s es K rootUri rootPath name version callback}
    (status : s.status = .uninitialized) (linked : s.link.isSome)
    (allowed : c.allows (.handshake rootUri name version callback))
    (obeys : callbackObeys c.callback callback)
    (path : Session.rootPathOf rootUri = .ok rootPath) :
    Step c id ⟨s, es, K⟩
      ⟨s.introduce (s.openingParams rootUri rootPath name version) callback,
        .dealt id (.accepted s.tickets (some (.opening callback))) ::
          .noted id (.queued (.inr (s.openingRequest
            (s.openingParams rootUri rootPath name version) callback))) :: es, K⟩
  | deferred {s es K a item documents} (allowed : c.allows a) (obeys : a.callbacksObey c.callback)
    (asked : a.Asks s item) (tracks : a.Tracks s documents)
    (status : s.status = .uninitialized ∨ s.status = .initializing)
    (lifecycle : Session.isLifecycle (Deferred.method item) = .ok false) :
    Step c id ⟨s, es, K⟩
      ⟨{ { s with deferred := s.deferred ++ [item] }.count item with openDocuments := documents },
        Deferred.acceptance id item ++ .noted id (.deferred item) :: es, K⟩
  | queued {s es K a item documents} (allowed : c.allows a) (obeys : a.callbacksObey c.callback)
    (asked : a.Asks s item) (tracks : a.Tracks s documents)
    (status : s.status = .initialized ∨
      s.status.isLeaving = false ∧ Session.isLifecycle (Deferred.method item) = .ok true) :
    Step c id ⟨s, es, K⟩
      ⟨{ (s.queue item).count item with openDocuments := documents },
        Deferred.acceptance id item ++ .noted id (.queued item) :: es, K⟩
  -- Sending
  | notified {s es K n rest result es'} (queue : s.notifications = n :: rest)
    (free : c.Frees .sendNotifications s K)
    (writes : Writes id s (Message.notification n.method n.params) es result es') :
    Step c id ⟨s, es, K⟩ ⟨{ s with notifications := rest }, es', K⟩
  | requested {s es K r rest p now result es'} (queue : s.requests = r :: rest)
    (free : c.Frees .sendRequests s K) (first : s.notifications = [] ∨ c.allows .sendRequests)
    (entry : Correlator.entry (Json.ofNat s.nextNumber) r.method r.handler r.ticket now r.timeout =
      .ok p)
    (writes : Writes id s (Message.request (Json.ofNat s.nextNumber) r.method r.params)
      (.dealt id (.registered r.ticket s.nextNumber) :: es) result es') :
    Step c id ⟨s, es, K⟩
      ⟨{ s with requests := rest, correlator := s.correlator.advance.register p }, es', K⟩
  | dropped {s es K r rest now f} (queue : s.requests = r :: rest)
    (free : c.Frees .sendRequests s K)
    (entry : Correlator.entry (Json.ofNat s.nextNumber) r.method r.handler r.ticket now r.timeout =
      .error f) :
    Step c id ⟨s, es, K⟩ ⟨{ s with requests := rest, correlator := s.correlator.advance }, es, K⟩
  -- Receiving
  | fed {s es t K} (data : Bytes) (drains : t.drains) (free : c.Nests .readMessages K)
    (linked : s.link.isSome) (running : s.status ≠ .terminated ∨ t = .phase) :
    Step c id ⟨s, es, t :: K⟩
      ⟨{ s with reader := s.reader.feed data }, .noted id (.received data) :: es, .reading :: t :: K⟩
  | skipped {s es K f reader} (next : s.reader.next = (.fault (.failure f), reader)) :
    Step c id ⟨s, es, .reading :: K⟩ ⟨{ s with reader }, es, .reading :: K⟩
  | took {s es t K m reader} (next : s.reader.next = (.message m, reader))
    (running : s.status ≠ .terminated ∨ t = .phase) :
    Step c id ⟨s, es, .reading :: t :: K⟩
      ⟨{ s with reader }.enqueue m, .dealt id (.read m) :: es, .reading :: t :: K⟩
  | unread {s es K f reader} (next : s.reader.next = (.fault f, reader)) :
    Step c id ⟨s, es, .reading :: K⟩ ⟨{ s with reader }, .noted id (.unreadable f) :: es, K⟩
  | readAll {s es K reader} (next : s.reader.next = (.more, reader)) :
    Step c id ⟨s, es, .reading :: K⟩ ⟨{ s with reader }, es, K⟩
  -- Dispatching
  | dispatched {s es t K m rest} (drains : t.drains) (free : c.Nests .dispatchResponses K)
    (queue : s.responses = m :: rest) :
    Step c id ⟨s, es, t :: K⟩
      ⟨{ s with responses := rest }, .noted id (.dispatched m { s with responses := rest }) :: es,
        Session.due { s with responses := rest } m ++ t :: K⟩
  | dispatchedError {s es t K m rest} (drains : t.drains) (free : c.Nests .dispatchErrors K)
    (queue : s.errors = m :: rest) :
    Step c id ⟨s, es, t :: K⟩
      ⟨{ s with errors := rest }, .noted id (.dispatched m { s with errors := rest }) :: es,
        Session.due { s with errors := rest } m ++ t :: K⟩
  | hailed {s es K} (l : Listener) (params : Json) :
    Step c id ⟨s, es, K⟩ ⟨s, es, .telling l params :: K⟩
  | told {s es K callback params title} :
    Step c id ⟨s, es, .telling (.host (some callback)) params :: K⟩
      ⟨s, .received id callback.label title params :: es, K⟩
  | heeded {s es K l params} (silent : ∀ callback, l ≠ .host (some callback)) :
    Step c id ⟨s, es, .telling l params :: K⟩ ⟨s, es, K⟩
  | untold {s es K l params} :
    Step c id ⟨s, es, .telling l params :: K⟩ ⟨s, .noted id .tooDeep :: es, K⟩
  | replied {s es K m found result es'} (kind : Message.kindOf m = .request)
    (isReply : Message.IsReply m (found.replyTo m)) (writes : Writes id s (found.replyTo m) es result es') :
    Step c id ⟨s, es, .turning m found :: K⟩ ⟨s, es', K⟩
  | passed {s es K m found} (kind : m.IsTame → Message.kindOf m ≠ .request) :
    Step c id ⟨s, es, .turning m found :: K⟩ ⟨s, es, K⟩
  -- Answering
  | lapsing {s es K} (free : c.Expires K) : Step c id ⟨s, es, K⟩ ⟨s, es, .expiring :: K⟩
  | lapsed {s es K} : Step c id ⟨s, es, .expiring :: K⟩ ⟨s, es, K⟩
  | resolved {s es K answered p} {m : Fields} (found : s.correlator.answered? answered = some p)
    (source : .dealt id (.read m) ∈ es ∨ (m.getD "error" .null).holds)
    (reason : Resolves s answered m K) :
    Step c id ⟨s, es, K⟩
      ⟨{ s with correlator := s.correlator.erase p.key },
        .dealt id (.resolved p.ticket (.object m)) :: es,
        Task.owed p.ticket m p.handler ++ K⟩
  | answered {s es K ticket callback title} {m : Fields} :
    Step c id ⟨s, es, .answering ticket (.host callback) m :: K⟩
      ⟨s, .answered id ticket callback.label title (.object m) :: es, K⟩
  | served {s es K ticket handler m} (isFeature : Handler.isFeature handler) :
    Step c id ⟨s, es, .answering ticket handler m :: K⟩ ⟨s, es, K⟩
  | unheard {s es K ticket handler m} :
    Step c id ⟨s, es, .answering ticket handler m :: K⟩ ⟨s, .noted id .tooDeep :: es, K⟩
  | turnedDown {s es K ticket callback} {m : Fields} (error : (m.getD "error" .null).holds) :
    Step c id ⟨s, es, .answering ticket (.opening callback) m :: K⟩
      ⟨s, es, Task.owed ticket m (callback.map .host) ++ .refused ticket callback m :: K⟩
  | doomed {s es K ticket callback m} (reason : Text) (status : s.status = .initializing) :
    Step c id ⟨s, es, .refused ticket callback m :: K⟩
      ⟨{ s with teardownReason := some reason }, es, K⟩
  | spared {s es K ticket callback} {m : Fields}
    (reason : s.status ≠ .initializing ∨ (∃ f, (m.getD "error" .null).fields = .error f) ∨
      (∃ label actions fault, callback = some (.mk label actions (some fault))) ∨
      .noted id .tooDeep ∈ es) :
    Step c id ⟨s, es, .refused ticket callback m :: K⟩ ⟨s, es, K⟩
  | late {s es K ticket callback} {m : Fields} (error : (m.getD "error" .null).holds = false)
    (status : s.status ≠ .initializing) :
    Step c id ⟨s, es, .answering ticket (.opening callback) m :: K⟩
      ⟨s, .noted id (.late ticket) :: es, K⟩
  | stuck {s es K ticket callback f} {m : Fields} (error : (m.getD "error" .null).holds = false)
    (status : s.status = .initializing) (holds : (m.getD "result" .null).holds)
    (result : (m.getD "result" .null).fields = .error f) :
    Step c id ⟨s, es, .answering ticket (.opening callback) m :: K⟩
      ⟨{ s with status := .initialized }, es, K⟩
  | welcomed {s es K ticket callback capabilities serverInfo} {m : Fields}
    (error : (m.getD "error" .null).holds = false) (status : s.status = .initializing)
    (result : (m.getD "result" .null).holds → ∃ fields, m.getD "result" .null = .object fields) :
    Step c id ⟨s, es, .answering ticket (.opening callback) m :: K⟩
      ⟨s.welcome capabilities serverInfo, .noted id (.announced s.deferred) :: es,
        Task.owed ticket m (callback.map .host) ++ .opening callback :: K⟩
  | declared {s es K callback} :
    Step c id ⟨s, es, .opening callback :: K⟩ ⟨s, .noted id (.fired (.text "initialized")) :: es, K⟩
  | undeclared {s es K callback}
    (reason : (∃ label actions fault, callback = some (.mk label actions (some fault))) ∨
      .noted id .tooDeep ∈ es) :
    Step c id ⟨s, es, .opening callback :: K⟩ ⟨s, es, K⟩
  -- Ending
  | left {s es K t earlier} (status : s.status.isLeaving = false) :
    Step c id ⟨s, es, .performing (.shutdown t) s earlier :: K⟩
      ⟨{ s with status := .shuttingDown }, es,
        .leaving (s.status = .initialized) :: .performing (.shutdown t) s earlier :: K⟩
  | overtaken {s es K wasOpen} (status : s.status = .terminated) :
    Step c id ⟨s, es, .leaving wasOpen :: K⟩ ⟨s.clearQueues, es, K⟩
  | parted {s es K wasOpen} (silent : wasOpen = false ∨ s.isAlive = false)
    (status : s.status = .shuttingDown) :
    Step c id ⟨s, es, .leaving wasOpen :: K⟩
      ⟨{ s.clearQueues with status := .terminated }, .noted id .ended :: es,
        .ending s.correlator.lastId :: K⟩
  | saidGoodbye {s es K es₁ es₂ result} (status : s.status = .shuttingDown)
    (told : Writes id s s.shutdownRequest es (.ok ()) es₁)
    (left : Writes id s exitNotification es₁ result es₂) :
    Step c id ⟨s, es, .leaving true :: K⟩
      ⟨{ s.clearQueues with status := .terminated, correlator := s.correlator.advance },
        .noted id .ended :: es₂, .ending s.nextNumber :: K⟩
  | unheardGoodbye {s es K f es₁} (status : s.status = .shuttingDown) (closed : f.isClosed)
    (told : Writes id s s.shutdownRequest es (.error f) es₁) :
    Step c id ⟨s, es, .leaving true :: K⟩
      ⟨{ s.clearQueues with status := .terminated, correlator := s.correlator.advance },
        .noted id .ended :: es₁, .ending s.nextNumber :: K⟩
  | abandoned {s es K} (status : s.status = .shuttingDown)
    (encodes : ¬ s.shutdownRequest.Encodes) :
    Step c id ⟨s, es, .leaving true :: K⟩
      ⟨{ s.clearQueues with correlator := s.correlator.advance }, es, K⟩
  | ended {s es K} (status : s.status ≠ .terminated) :
    Step c id ⟨s, es, K⟩
      ⟨{ s with status := .terminated }, .noted id .ended :: es, .ending s.correlator.lastId :: K⟩
  | buried {s es K last} (timeout : Json) (status : s.status = .terminated)
    (settled : ∀ p ∈ s.correlator.pending, ∃ n, last < n ∧ p.Numbered n) :
    Step c id ⟨s, es, .ending last :: K⟩ ⟨s.buried, s.burial id timeout ++ es, K⟩
  -- Ticking
  | ticked {s es K} (status : s.status ≠ .terminated) (linked : s.link.isSome) :
    Step c id ⟨s, es, K⟩ ⟨s, es, .ticking :: K⟩
  | rested {s es K} (drained : c.LeavesPhases → c.Sends s.config → Calm id s es →
      s.responses = [] ∧ s.errors = []) :
    Step c id ⟨s, es, .ticking :: K⟩ ⟨s, es, K⟩
  | entered {s es K a before earlier} (isPhase : a.isPhase) (free : K = [] ∧ c.host a ∨ c.callback a) :
    Step c id ⟨s, es, .performing a before earlier :: K⟩
      ⟨s, es, .phase :: .performing a before earlier :: K⟩
  | exited {s es K} : Step c id ⟨s, es, .phase :: K⟩ ⟨s, es, K⟩
  -- Operations
  | began {s es K} (a : SessionAction) (idle : Task.AreIdle K) :
    Step c id ⟨s, es, K⟩ ⟨s, es, .performing a s es :: K⟩
  | did {s es K a before earlier} (idle : Task.AreIdle K) (leaves : Leaves c id a before s es) :
    Step c id ⟨s, es, .performing a before earlier :: K⟩ ⟨s, .noted id (.did a before s) :: es, K⟩

abbrev Steps (c : Conduct) (id : SessionId) : Position → Position → Prop :=
  Relation.ReflTransGen (Step c id)

end LanguageClient
