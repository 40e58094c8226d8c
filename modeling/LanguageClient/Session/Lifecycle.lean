import LanguageClient.Pipes.Start
import LanguageClient.Session.Receiving

/-!
The life of a session: it is started and initialized, ticks while its server lives, is shut down or
loses its server, and is torn down once.
-/

namespace LanguageClient.Session

/-- Starts the program of a configuration, which is expected to fail. -/
def launchProgram (s : Session) : Act Unit := do
  let (result, said) := Pipes.prepare (.object s.config)
  said.forM fun line => log .client Level.debug line
  match result with
  | .error f => throw f
  | .ok _ => throw .noLink

def launch (id : SessionId) : Act Unit := do
  let w ← get
  let s := w.session id
  match w.launcher with
  | .programs => launchProgram s
  | .memory =>
    if w.failing.any fun name => name.same s.name then
      throw (.failure (.spawn (s.name.display ++ " - Failed to start server process")))
    record (.launched id s.name)
    updateSession id fun s => { s with link := some {} }

/-- Launches the server, unless it was launched before. -/
def start (id : SessionId) : Act Unit := do
  let s ← getSession id
  if s.link.isSome then return
  if s.status ≠ .uninitialized then
    throw (.failure (.spawn
      (s.name.display ++ " - Can't start a " ++ s.status.name ++ " server")))
  launch id

def processId : Int := 4242

def flagged (key : Text) (b : Bool) : Json := .object [(key, .bool b)]

def clientCapabilities : Json :=
  let link := flagged "linkSupport" false
  .object [("textDocument", .object
    [("synchronization", .object [("dynamicRegistration", .bool false), ("change", .int 1)]),
      ("completion", .object [("completionItem", flagged "snippetSupport" false)]),
      ("definition", link), ("declaration", link), ("typeDefinition", link),
      ("implementation", link)])]

def openingParams (s : Session) (rootUri : Json) (rootPath : Option Text) (name version : Json) :
    Json :=
  let folders : Json :=
    match rootPath with
    | some path =>
      if path.isEmpty then .null
      else .list [.object [("name", Path.name path), ("uri", rootUri)]]
    | none => .null
  .object [("processId", .int processId),
    ("clientInfo", .object [("name", name), ("version", version)]),
    ("rootPath", Json.ofOption (rootPath.map .text)), ("rootUri", rootUri),
    ("workspaceFolders", folders),
    ("initializationOptions", s.setting "initializationOptions"), ("trace", "off"),
    ("capabilities", clientCapabilities)]

def rootPathOf (rootUri : Json) : Checked (Option Text) := do
  if !rootUri.holds then return none
  match rootUri with
  | .text uri => return some (← Uri.toPath uri)
  | _ => throw .notAnObject

/-- Launches the server and queues the request that opens the session. -/
def handshake (id : SessionId) (rootUri name version : Json) (callback : Option Callback) :
    Act Unit := do
  let s ← getSession id
  if s.status ≠ .uninitialized then
    log .client Level.warning
      (s.tag ++ "Cannot initialize - already in state " ++ s.status.name)
    return
  start id
  let rootPath ← Act.check (rootPathOf rootUri)
  let params := openingParams s rootUri rootPath name version
  updateSession id fun s => { s with status := .initializing }
  log .client Level.debug (s.tag ++ "Initializing ⏳")
  let request : Deferred :=
    .inr ⟨"initialize", params, some (.opening callback), .null, (← getSession id).tickets⟩
  note id (.queued request)
  accept id request fun s => s.queue request

def callBack (call : Caller) (callback : Option Callback) (id : SessionId) (ticket : Nat)
    (response : Json) : Act Unit :=
  match callback with
  | some callback => call (.answer (.host callback) id ticket response)
  | none => pure ()

/-- The server refused to open the session, which ends at the next occasion. -/
def openingRefused (call : Caller) (callback : Option Callback) (id : SessionId) (ticket : Nat)
    (error response : Json) : Act Unit := do
  callBack call callback id ticket response
  let s ← getSession id
  if s.status ≠ .initializing then return
  let code ← Act.check (error.field "code")
  let text ← Act.check (error.field "message")
  log .client Level.error (s.tag ++ "Initialization failed: code=" ++ code.display ++
    ", message=" ++ text.display ++ " 🔴")
  updateSession id fun s => { s with teardownReason := some "Initialization failed" }

/-- What the server said about itself. -/
def learn (id : SessionId) (result : Json) : Act Unit := do
  if result.holds then
    let capabilities := (← Act.check (result.field "capabilities")).orElse (.object [])
    updateSession id fun s => { s with capabilities := some capabilities }
    let info ← Act.check (result.field "serverInfo")
    updateSession id fun s => { s with serverInfo := info }
  else updateSession id fun s => { s with capabilities := some (.object []) }

def opened : OutgoingNotification := ⟨"initialized", .object []⟩

/-- The server will be told that the session is open, and then what was deferred. -/
def announce (id : SessionId) : Act Unit := do
  note id (.announced (← getSession id).deferred)
  updateSession id fun s => (s.queue (.inl opened)).flush

/-- The session is open: the server is told, then comes what was deferred. -/
def openingAccepted (call : Caller) (callback : Option Callback) (id : SessionId) (ticket : Nat)
    (response : Json) : Act Unit := do
  let s ← getSession id
  if s.status ≠ .initializing then
    note id (.late ticket)
    return
  updateSession id fun s => { s with status := .initialized }
  learn id (← Act.check (response.field "result"))
  log .client Level.info (s.tag ++ "Initialized 🚀")
  announce id
  callBack call callback id ticket response
  let _ ← fireEvent call id "initialized" []

/-- The answer to the request that opens the session. -/
def openingAnswered (call : Caller) (callback : Option Callback) (id : SessionId) (ticket : Nat)
    (response : Json) : Act Unit := do
  let error ← Act.check (response.field "error")
  if error.holds then openingRefused call callback id ticket error response
  else openingAccepted call callback id ticket response

/-- Ends a session for good: what is pending fails, what is queued is dropped, and the link is
closed. -/
def teardown (call : Caller) (id : SessionId) (reason timeout : Json) : Act Unit := do
  let s ← getSession id
  if s.status = .terminated then return
  updateSession id fun s => { s with status := .terminated }
  note id .ended
  let _ ← failAll call id (.int Message.Code.transportClosed)
    (s.name.display ++ ": " ++ reason.display : Text)
  updateSession id fun s => { s.clearQueues with openDocuments := [] }
  if (← getSession id).link.isSome then
    record (.closed id s.name timeout)
    updateSession id fun s => { s with link := s.link.map fun l => { l with closed := true } }
  log .client Level.info (s.tag ++ "Terminated; " ++ reason.display)
  let _ ← fireEvent call id "shutdown" []

/-- Tells the server to shut down and to exit, without waiting for its answer. -/
def sayGoodbye (id : SessionId) : Act Unit := do
  updateSession id fun s => { s with correlator := s.correlator.advance }
  let number := Json.ofNat (← getSession id).correlator.lastId
  write id (Message.request number "shutdown" .null)
  write id (Message.notification "exit" .null)

/-- Cancels what is pending, tells the server if it listens, and ends the session. -/
def shutdown (call : Caller) (id : SessionId) (timeout : Json) : Act Unit := do
  let s ← getSession id
  if s.status.isLeaving then return
  log .client Level.info ("Shutdown " ++ s.name.display)
  updateSession id fun s => { s with status := .shuttingDown }
  let _ ← failAll call id (.int Message.Code.requestCancelled)
    (s.name.display ++ " is shutting down" : Text)
  updateSession id clearQueues
  let listens := ((← getSession id).link.map Link.isAlive).getD false
  if s.status = .initialized && listens then
    match ← (sayGoodbye id).attempt with
    | .ok _ => pure ()
    | .error f =>
      if f.isClosed then log .client Level.debug (s.tag ++ f.message?.getD [])
      else throw f
  teardown call id "Shutdown" timeout

/-- The six phases of a tick. -/
def drain (call : Caller) (id : SessionId) : Act Unit := do
  let _ ← readMessages id
  let _ ← sendNotifications id
  let _ ← sendRequests id
  let _ ← dispatchResponses call id
  let _ ← dispatchErrors call id
  let _ ← dispatchTimeouts call id

/-- Why the session has to end. -/
def endingReason? (s : Session) : Option Text :=
  match s.teardownReason, s.link with
  | some reason, _ => some reason
  | none, some link =>
    if link.isAlive then none
    else some ("Server process terminated (" ++ link.returnCode.display ++ ")")
  | none, none => none

/-- Drains the queues once, and ends the session if its server is gone or refused to open it. -/
def tick (call : Caller) (id : SessionId) : Act Unit := do
  let s ← getSession id
  match s.fault with
  | some message => throw (.host message.display)
  | none =>
    if s.status = .terminated || s.link.isNone then return
    drain call id
    match endingReason? (← getSession id) with
    | some reason => teardown call id reason defaultTimeout
    | none => pure ()

end LanguageClient.Session
