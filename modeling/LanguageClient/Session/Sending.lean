import LanguageClient.Session.Calls

/-!
Sending: what is pushed waits in queues, or is deferred until the session is open, and is written
when the queues are drained.
-/

namespace LanguageClient.Session

/-- Methods that are sent whatever the status. -/
def lifecycleMethods : List Text := ["initialize", "shutdown", "exit"]

def isLifecycle (method : Json) : Checked Bool := do
  match ← method.key with
  | .text t => return lifecycleMethods.contains t
  | _ => return false

/-- Changes a session that takes an item. A request uses up a ticket. -/
def accept (id : SessionId) (item : Deferred) (f : Session → Session) : Act Unit :=
  match item with
  | .inl _ => updateSession id f
  | .inr r =>
    deal id (.accepted r.ticket r.handler) fun s => { f s with tickets := s.tickets + 1 }

/-- Queues or defers an item; tells whether it was accepted. -/
def put (id : SessionId) (item : Deferred) (method : Json) : Act Bool := do
  let s ← getSession id
  if s.status.isLeaving then
    log .client Level.warning
      ("Server " ++ s.name.display ++ " was shutdown; Will drop " ++ method.display)
    return false
  if s.status ≠ .initialized then
    if !(← Act.check (isLifecycle method)) then
      log .client Level.debug
        ("Server " ++ s.name.display ++ " is not initialized; Will defer " ++ method.display)
      note id (.deferred item)
      accept id item fun s => { s with deferred := s.deferred ++ [item] }
      return true
  note id (.queued item)
  accept id item fun s => s.queue item
  return true

def pushNotification (id : SessionId) (method params : Json) : Act Bool :=
  put id (.inl ⟨method, params⟩) method

/-- Without a timeout of its own a request has the one of the configuration. -/
def pushRequest (id : SessionId) (method params : Json) (handler : Option Handler)
    (timeout : Json) : Act Bool := do
  let s ← getSession id
  let timeout := if timeout.isNull then s.setting "request_timeout" else timeout
  put id (.inr ⟨method, params, handler, timeout, s.tickets⟩) method

def trafficText (w : World) (message : Json) : Text :=
  message.render (if w.prettyTraffic then Json.pretty else Json.compact)

def logTraffic (s : Session) (direction : Text) (message : Json) : Act Unit := do
  let w ← get
  if w.logsTraffic then
    log .traffic Level.debug (s.tag ++ direction ++ " " ++ trafficText w message)

/-- Hands a message to the link. -/
def write (id : SessionId) (message : Json) : Act Unit := do
  let s ← getSession id
  match s.link with
  | none =>
    note id (.unlinked message)
    throw (.failure (.closed (s.name.display ++ " - Server is not running")))
  | some link =>
    logTraffic s "-->" (← Act.check message.writable)
    let _ ← Act.check (Frame.encode message)
    if link.accepts then record (.sent id s.name message)
    else
      note id (.refused message)
      throw (.failure (.write (s.name.display ++ " - Can't write; Transport is closed")))

/-- Writes a message; that the server is gone is logged. Tells whether it was written. -/
def writeOrLog (id : SessionId) (message : Json) (complaint : Text) : Act Bool := do
  match ← (write id message).attempt with
  | .ok _ => return true
  | .error f =>
    if f.isClosed then
      log .client Level.error ((← getSession id).tag ++ complaint ++ ": " ++ f.message?.getD [])
      return false
    else throw f

def sendNotificationsUpTo (id : SessionId) : Nat → Nat → Act Nat
  | 0, sent => pure sent
  | fuel + 1, sent => do
    match (← getSession id).notifications with
    | [] => return sent
    | n :: rest =>
      updateSession id fun s => { s with notifications := rest }
      let written ← writeOrLog id (Message.notification n.method n.params)
        ("Can't send " ++ n.method.display)
      sendNotificationsUpTo id fuel (if written then sent + 1 else sent)

/-- Sends the notifications that are queued now, and counts those written. -/
def sendNotifications (id : SessionId) : Act Nat := do
  sendNotificationsUpTo id (← getSession id).notifications.length 0

/-- A request is pending before it is written, so that it is answered even if it cannot be. -/
def sendRequest (id : SessionId) (r : OutgoingRequest) : Act Bool := do
  updateSession id fun s => { s with correlator := s.correlator.advance }
  let w ← get
  let number := (w.session id).correlator.lastId
  let p ← Act.check
    (Correlator.entry (Json.ofNat number) r.method r.handler r.ticket w.clock r.timeout)
  deal id (.registered r.ticket number) fun s => { s with correlator := s.correlator.register p }
  writeOrLog id (Message.request (Json.ofNat number) r.method r.params) ("Can't send " ++ r.method.display)

def sendRequestsUpTo (id : SessionId) : Nat → Nat → Act Nat
  | 0, sent => pure sent
  | fuel + 1, sent => do
    match (← getSession id).requests with
    | [] => return sent
    | r :: rest =>
      updateSession id fun s => { s with requests := rest }
      let written ← sendRequest id r
      sendRequestsUpTo id fuel (if written then sent + 1 else sent)

/-- Sends the requests that are queued now, and counts those written. -/
def sendRequests (id : SessionId) : Act Nat := do
  sendRequestsUpTo id (← getSession id).requests.length 0

end LanguageClient.Session
