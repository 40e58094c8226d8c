import LanguageClient.Application
import LanguageClient.Features

/-!
Performing what a host does. Callbacks are performed within the operations that call them, down to a
depth beyond which a call fails.
-/

namespace LanguageClient

/-! The other end of links -/

def holdsLink (w : World) (server : Json) (id : SessionId) : Bool :=
  let s := w.session id
  s.link.isSome && (server.isNull || s.name.key? = server.key?)

/-- The session whose link is meant: the one launched last, or launched last for a name. -/
def linked (server : Json) : Act SessionId := do
  let w ← get
  match (List.range w.sessions.length).reverse.find? (holdsLink w server) with
  | some id => return id
  | none => throw .noLink

def updateLink (id : SessionId) (f : Link → Link) : Act Unit :=
  updateSession id fun s => { s with link := s.link.map f }

def writeMessages (id : SessionId) : List Json → Act Unit
  | [] => pure ()
  | m :: rest => do
    let bytes ← Act.check (Frame.encode m)
    updateLink id fun l => l.supply bytes
    writeMessages id rest

def performLink (id : SessionId) : LinkAction → Act Unit
  | .write messages => writeMessages id messages
  | .writeBytes data => do
    let bytes ← Act.check data
    updateLink id fun l => l.supply bytes
  | .complain lines => updateLink id fun l => { l with complaints := l.complaints ++ lines }
  | .setAlive value => updateLink id fun l => { l with alive := value.holds }
  | .setBroken value => updateLink id fun l => { l with broken := value.holds }
  | .setCode value => updateLink id fun l => { l with code := value }

/-! Sessions -/

def runningNamed (server : Json) : Act SessionId := do
  let w ← get
  let found := if server.isNull then w.running.head?
    else w.running.find? fun (name, _) => name.key? = server.key?
  match found with
  | some (_, id) => return id
  | none => throw .noServer

def answerNothing (a : Act Unit) : Act Answer := do
  a
  return .nothing

def answerFlag (a : Act Bool) : Act Answer := do return .flag (← a)

def answerCount (a : Act Nat) : Act Answer := do return .count (← a)

def hostHandler (callback : Option Callback) : Option Handler := callback.map .host

def onEvent (id : SessionId) (name : Json) (callback : Option Callback) : Act Unit := do
  let key ← Act.check name.key
  updateSession id fun s => { s with listeners := s.listeners.onEvent key (.host callback) }

def onMethod (id : SessionId) (name : Json) (callback : Option Callback) : Act Unit := do
  let key ← Act.check name.key
  updateSession id fun s => { s with listeners := s.listeners.onMethod key (.host callback) }

def logMessage (id : SessionId) (message level : Json) : Act Unit := do
  match Level.ofNumber? level with
  | some _ => logAt .client level ((← getSession id).tag ++ message.display)
  | none => throw .wrongType

def register (id : SessionId) (requestId method : Json) (callback : Option Callback)
    (timeout : Json) : Act Answer := do
  let w ← get
  let p ← Act.check (Correlator.entry requestId method (hostHandler callback)
    (w.session id).tickets w.clock timeout)
  updateSession id fun s =>
    { s with correlator := s.correlator.register p, tickets := s.tickets + 1 }
  return .pending p

def nextId (id : SessionId) : Act Nat := do
  updateSession id fun s => { s with correlator := s.correlator.advance }
  return (← getSession id).correlator.lastId

def describeConfig (s : Session) : Answer :=
  .values [.object s.config, s.name, s.filePatterns, s.setting "settings", .bool s.isVerbose,
    s.language]

def performSession (call : Caller) (id : SessionId) : SessionAction → Act Answer
  | .start => answerNothing (Session.start id)
  | .handshake rootUri name version callback =>
    answerNothing (Session.handshake id rootUri name version callback)
  | .shutdown timeout => answerNothing (Session.shutdown call id timeout)
  | .teardown reason timeout => answerNothing (Session.teardown call id reason timeout)
  | .tick => answerNothing (Session.tick call id)
  | .readMessages => answerCount (Session.readMessages id)
  | .sendNotifications => answerCount (Session.sendNotifications id)
  | .sendRequests => answerCount (Session.sendRequests id)
  | .dispatchResponses => answerCount (Session.dispatchResponses call id)
  | .dispatchErrors => answerCount (Session.dispatchErrors call id)
  | .dispatchTimeouts => answerCount (Session.dispatchTimeouts call id)
  | .pushNotification method params => answerFlag (Session.pushNotification id method params)
  | .pushRequest method params callback timeout =>
    answerFlag (Session.pushRequest id method params (hostHandler callback) timeout)
  | .openDocument params => answerNothing (Session.openDocument id params)
  | .closeDocument params => answerNothing (Session.closeDocument id params)
  | .changeDocument params => answerNothing (Session.changeDocument id params)
  | .isDocumentOpen uri => do
    let key ← Act.check uri.key
    return .flag ((← getSession id).isOpen key)
  | .complete params callback => answerNothing (Session.complete id params (hostHandler callback))
  | .goTo method params callback =>
    answerNothing (Session.goTo id method params (hostHandler callback))
  | .supports method => do
    return .value (← Act.check (Capability.supports (← getSession id).capabilities method))
  | .capabilities => do return .value (Json.ofOption (← getSession id).capabilities)
  | .serverInfo => do return .value (← getSession id).serverInfo
  | .triggers => do return .value (← getSession id).triggers
  | .itemKind kind => do
    if kind.isNull then return .name .null
    return .name (Json.ofOption ((← Act.check (Completion.kindName? kind)).map .text))
  | .config => do return describeConfig (← getSession id)
  | .phase => do
    let status := (← getSession id).status
    return .flags [status = .initializing, status = .initialized, status = .terminated]
  | .onEvent name callback => answerNothing (onEvent id name callback)
  | .onMethod name callback => answerNothing (onMethod id name callback)
  | .log message level => answerNothing (logMessage id message level)
  | .nextId => answerCount (nextId id)
  | .register requestId method callback timeout => register id requestId method callback timeout
  | .resolve requestId response => answerFlag (Session.resolve call id requestId response)
  | .failAll code message => answerCount (Session.failAll call id code message)
  | .expire now => answerCount (Session.expire call id now)
  | .contains requestId => do
    let key ← Act.check requestId.key
    return .flag ((← getSession id).correlator.contains key)
  | .pending => do return .table (← getSession id).correlator.pending
  | .hasMethod name => do
    let key ← Act.check name.key
    return .flag ((← getSession id).listeners.hasMethod key)
  | .fireEvent name args => answerCount (Session.fireEvent call id name args)
  | .fireMethod name params => answerCount (Session.fireMethod call id name params)
  | .breakTick message => answerNothing (updateSession id fun s => { s with fault := some message })

/-- Performs an operation, and notes how it found and left its session. -/
def performNoted (call : Caller) (id : SessionId) (action : SessionAction) : Act Answer := do
  let before ← getSession id
  let result ← (performSession call id action).attempt
  note id (.did action before (← getSession id))
  Act.check result

/-! Everything else -/

def titles (ids : List SessionId) : Act Answer := do
  let w ← get
  return .names (ids.map fun id => .text (w.session id).title)

def performRegistry (call : Caller) : RegistryAction → Act Answer
  | .addServer config => answerNothing (Registry.addServer config)
  | .servers => do
    return .configs ((← get).servers.map fun (name, c) => (name, .object c))
  | .active fileName => do return .names ((← Registry.active fileName).map (·.1))
  | .start fileName project => do titles (← Registry.start fileName project)
  | .process => answerNothing (Registry.process call)
  | .shutdown timeout => answerNothing (Registry.shutdown call timeout)
  | .breakProcess message => answerNothing (modify fun w => { w with processFault := some message })

def performFeature : FeatureAction → Act Unit
  | .openDocument doc => Features.openDocument doc
  | .closeDocument doc => Features.closeDocument doc
  | .requestCompletion doc line col => Features.requestCompletion doc line col
  | .goTo doc line col implementation => Features.goTo doc line col implementation.holds
  | .textInput doc selection => Features.textInput doc selection
  | .complete doc selection => Features.textInput doc selection
  | .goToDefinition doc selection => Features.goToSelected false doc selection
  | .goToImplementation doc selection => Features.goToSelected true doc selection

def performScheduler (call : Caller) : SchedulerAction → Act Answer
  | .interval => do return .name (.text (← Schedule.interval).describe)
  | .runOnce => answerNothing (Schedule.runOnce call)
  | .isRunning => answerFlag Schedule.isRunning
  | .start => do
    Schedule.start call
    answerFlag Schedule.isRunning
  | .stop => do
    Schedule.stop defaultTimeout
    answerFlag Schedule.isRunning

def performApp (call : Caller) : AppAction → Act Answer
  | .start => do
    Application.start call
    answerFlag Schedule.isRunning
  | .shutdown timeout => answerNothing (Application.shutdown call timeout)
  | .setUpLogging => answerNothing Application.setUpLogging
  | .tearDownLogging => answerNothing Application.tearDownLogging

def perform (call : Caller) : Action → Act Answer
  | .advance seconds => do
    let x ← Act.check seconds.toFloat
    answerNothing (modify fun w => { w with clock := w.clock + x })
  | .failLaunches names => answerNothing (modify fun w => { w with failing := names })
  | .setFocus value => answerNothing (modify fun w => { w with focus := value })
  | .setProject value => answerNothing (modify fun w => { w with project := value })
  | .link server action => do
    let id ← linked server
    answerNothing (performLink id action)
  | .session server action => do
    let id ← runningNamed server
    performNoted call id action
  | .registry action => performRegistry call action
  | .feature action => answerNothing (performFeature action)
  | .scheduler action => performScheduler call action
  | .app action => performApp call action

/-! Callbacks -/

/-- The actions of a callback. One that fails stops nothing. -/
def performInner (call : Caller) : List Action → Act Unit
  | [] => pure ()
  | a :: rest => do
    record (.inner (← (perform call a).attempt))
    performInner call rest

/-- A callback of the host: the mark it leaves, then its actions, then its failure. -/
def performCallback (call : Caller) (mark : Json → Event) : Callback → Act Unit
  | .mk label actions fails => do
    record (mark label)
    performInner call actions
    match fails with
    | some message => throw (.host message.display)
    | none => pure ()

def performListener (call : Caller) (id : SessionId) (mark : Json → Event) (params : Json) :
    Listener → Act Unit
  | .host (some callback) => performCallback call mark callback
  | .host none => throw .wrongType
  | .logMessage => Features.onLogMessage id params
  | .ready => Features.onReady id

def performCall (call : Caller) : Call → Act Unit
  | .answer handler id ticket response => do
    let title := (← getSession id).title
    match handler with
    | .host callback =>
      performCallback call (fun label => .answered id ticket label title response) callback
    | .opening callback => Session.openingAnswered call callback id ticket response
    | .completion => Features.onCompletion id response
    | .goTo method => Features.onGoTo method id response
  | .event listener id args => do
    let title := (← getSession id).title
    performListener call id (fun label => .happened id label title args) .null listener
  | .message listener id params => do
    let title := (← getSession id).title
    performListener call id (fun label => .received id label title params) params listener

/-- Calls back, at most so many times within each other. -/
def callWithin : Nat → Caller
  | 0 => fun c => do
    note c.session .tooDeep
    throw .nestedTooDeep
  | depth + 1 => performCall (callWithin depth)

def nestingLimit : Nat := 200

/-- One action of a host, with all that follows from it. -/
def act (a : Action) : Act Answer := perform (callWithin nestingLimit) a

/-! Runs -/

/-- What came of an action, what happened meanwhile, and the world after it. -/
structure Outcome where
  result : Except Fault Answer
  events : List Event
  world : World

def outcome (w : World) (a : Act Answer) : Outcome :=
  let (result, later) := a.run w
  ⟨result, (later.events.take (later.events.length - w.events.length)).reverse, later⟩

/-- An action after which the host has nothing more to do, so that its scheduler is stopped. -/
def actLast (a : Action) : Act Answer := do
  let result ← (act a).attempt
  Schedule.stop defaultTimeout
  Act.check result

/-- Actions of a host one after the other. -/
def outcomes (w : World) : List Action → List Outcome
  | [] => []
  | [a] => [outcome w (actLast a)]
  | a :: rest =>
    let o := outcome w (act a)
    o :: outcomes o.world rest

end LanguageClient
