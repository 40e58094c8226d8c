import LanguageClient.Session.Sending

/-!
Receiving: messages are read into two queues, and are answered, handed to listeners or given to the
requests they answer when the queues are drained.
-/

namespace LanguageClient.Session

def logComplaints (s : Session) : List Json → Act Unit
  | [] => pure ()
  | line :: rest => do
    log .client Level.debug (s.tag ++ "stderr: " ++ line.display)
    logComplaints s rest

def enqueue (s : Session) (message : Fields) : Session :=
  match Message.kindOf message with
  | .error => { s with errors := s.errors ++ [message] }
  | _ => { s with responses := s.responses ++ [message] }

/-- Takes messages from the reader until bytes are missing; a malformed one is logged. -/
def takeMessages (id : SessionId) : Nat → Nat → Act Nat
  | 0, taken => pure taken
  | fuel + 1, taken => do
    let s ← getSession id
    let (reading, reader) := s.reader.next
    updateSession id fun s => { s with reader := reader }
    match reading with
    | .more => return taken
    | .fault (.failure f) =>
      log .client Level.error (s.tag ++ f.message)
      takeMessages id fuel taken
    | .fault f =>
      note id (.unreadable f)
      throw f
    | .message m =>
      logTraffic s "<--" (.object m)
      deal id (.read m) fun s => s.enqueue m
      takeMessages id fuel (taken + 1)

/-- Reads what the server wrote so far, and counts the messages. -/
def readMessages (id : SessionId) : Act Nat := do
  let s ← getSession id
  match s.link with
  | none => return 0
  | some link =>
    updateSession id fun s =>
      { s with link := s.link.map fun l => { l with complaints := [], incoming := none } }
    logComplaints s link.complaints
    match link.incoming with
    | none => return 0
    | some data =>
      note id (.received data)
      updateSession id fun s => { s with reader := s.reader.feed data }
      takeMessages id ((← getSession id).reader.buffered + 1) 0

/-- Every request of the server is answered. -/
def answerRequest (call : Caller) (id : SessionId) (message : Fields) : Act Unit := do
  let method ← Act.check ((Json.object message).mandatory "method")
  let handled ← fireMethod call id method (message.getD "params" .null)
  let requestId := message.getD "id" .null
  let reply :=
    if handled = 0 then
      Message.errorResponse requestId (.int Message.Code.methodNotFound)
        ("Unhandled method " ++ method.display : Text) .null
    else Message.response requestId .null
  let _ ← writeOrLog id reply ("Can't reply to " ++ method.display)

def logVerbosely (id : SessionId) (what : Text) (message : Fields) : Act Unit := do
  let w ← get
  let s := w.session id
  if s.isVerbose then
    log .client Level.info (s.tag ++ what ++ ": " ++ trafficText w (.object message))

def dispatchResponse (call : Caller) (id : SessionId) (message : Fields) : Act Unit := do
  match Message.kindOf message with
  | .response =>
    logVerbosely id "Response" message
    let _ ← resolve call id (message.getD "id" .null) (.object message)
  | .notification =>
    let method ← Act.check ((Json.object message).mandatory "method")
    let _ ← fireMethod call id method (message.getD "params" .null)
  | _ => answerRequest call id message

/-- A message leaves its queue and has its turn. -/
def turn (id : SessionId) (message : Fields) (f : Session → Session) : Act Unit := do
  updateSession id f
  note id (.dispatched message (← getSession id))

def dispatchResponsesUpTo (call : Caller) (id : SessionId) : Nat → Nat → Act Nat
  | 0, done => pure done
  | fuel + 1, done => do
    match (← getSession id).responses with
    | [] => return done
    | m :: rest =>
      turn id m fun s => { s with responses := rest }
      dispatchResponse call id m
      dispatchResponsesUpTo call id fuel (done + 1)

/-- Dispatches the messages without an error that are queued now, and counts them. -/
def dispatchResponses (call : Caller) (id : SessionId) : Act Nat := do
  dispatchResponsesUpTo call id (← getSession id).responses.length 0

def dispatchError (call : Caller) (id : SessionId) (message : Fields) : Act Unit := do
  logVerbosely id "Error" message
  let requestId := message.getD "id" .null
  if requestId.isNull then
    let error := (message.getD "error" .null).orElse (.object [])
    let code := error.lookup ["code"] .null
    let text := error.lookup ["message"] .null
    log .client Level.error
      ((← getSession id).tag ++ "Error: code=" ++ code.display ++ ", message=" ++ text.display)
  else
    let _ ← resolve call id requestId (.object message)

def dispatchErrorsUpTo (call : Caller) (id : SessionId) : Nat → Nat → Act Nat
  | 0, done => pure done
  | fuel + 1, done => do
    match (← getSession id).errors with
    | [] => return done
    | m :: rest =>
      turn id m fun s => { s with errors := rest }
      dispatchError call id m
      dispatchErrorsUpTo call id fuel (done + 1)

/-- Dispatches the messages with an error that are queued now, and counts them. -/
def dispatchErrors (call : Caller) (id : SessionId) : Act Nat := do
  dispatchErrorsUpTo call id (← getSession id).errors.length 0

def dispatchTimeouts (call : Caller) (id : SessionId) : Act Nat := expire call id .null

end LanguageClient.Session
