import LanguageClient.Message.Failure
import LanguageClient.Number.Fixed
import LanguageClient.World

/-!
Calling back: answers go to the handlers of their requests, events and messages to their listeners.
What a callback does wrong is logged and stops nothing else.
-/

namespace LanguageClient.Session

/-- Gives an answer to the request it names, if one is pending. -/
def resolve (call : Caller) (id : SessionId) (answered response : Json) : Act Bool := do
  let s ← getSession id
  match s.correlator.answered? answered with
  | none =>
    log .client Level.warning
      (s.tag ++ "Unmatched response; " ++ (Failure.unmatched answered).message)
    return false
  | some p =>
    deal id (.resolved p.ticket response) fun s =>
      { s with correlator := s.correlator.erase p.key }
    match p.handler with
    | none => pure ()
    | some handler =>
      match ← (call (.answer handler id p.ticket response)).attempt with
      | .ok _ => pure ()
      | .error f =>
        logFault .client (s.tag ++ "Request callback error (" ++ p.method.display ++ ")") f
    return true

def failEach (call : Caller) (id : SessionId) (code message : Json) : List Json → Act Unit
  | [] => pure ()
  | slot :: rest => do
    let _ ← resolve call id slot (Message.errorResponse slot code message .null)
    failEach call id code message rest

/-- Answers everything that is pending with an error, and counts it. -/
def failAll (call : Caller) (id : SessionId) (code message : Json) : Act Nat := do
  let s ← getSession id
  let slots := s.correlator.pending.map (·.slot)
  if !slots.isEmpty then
    log .client Level.warning
      (s.tag ++ "Failing " ++ Text.ofNat slots.length ++ " pending request(s): " ++ message.display)
  failEach call id code message slots
  return slots.length

def timeoutText (p : Pending Handler) (elapsed : Float) : Text :=
  "Request " ++ p.method.display ++ " timed out after " ++ Fixed.text 1 elapsed ++ "s"

def expireEach (call : Caller) (id : SessionId) (now : Json) : List (Pending Handler) → Act Unit
  | [] => pure ()
  | p :: rest => do
    let s ← getSession id
    log .client Level.warning
      (s.tag ++ "Request " ++ p.id.display ++ " (" ++ p.method.display ++ ") timed out")
    let elapsed := (← Act.check now.toFloat) - p.timestamp
    let _ ← resolve call id p.id
      (Message.errorResponse p.id (.int Message.Code.requestTimeout) (timeoutText p elapsed) .null)
    expireEach call id now rest

/-- Answers everything overdue with a timeout, and counts it. -/
def expire (call : Caller) (id : SessionId) (now : Json) : Act Nat := do
  let w ← get
  let now := if now.isNull then Json.float w.clock else now
  let overdue ← Act.check ((w.session id).correlator.overdue now)
  expireEach call id now overdue
  return overdue.length

def callEach (call : Caller) (makeCall : Listener → Call) (onFault : Fault → Act Unit) :
    List Listener → Act Unit
  | [] => pure ()
  | listener :: rest => do
    match ← (call (makeCall listener)).attempt with
    | .ok _ => pure ()
    | .error f => onFault f
    callEach call makeCall onFault rest

/-- Tells the listeners of an event, and counts them. -/
def fireEvent (call : Caller) (id : SessionId) (name : Json) (args : List Json) : Act Nat := do
  let key ← Act.check name.key
  note id (.fired key)
  let s ← getSession id
  let listeners := s.listeners.ofEvent key
  callEach call (fun l => .event l id args)
    (logFault .client (s.tag ++ "Error handling event '" ++ name.display ++ "'")) listeners
  return listeners.length

/-- Hands the params of a message to the listeners of its method, and counts them. -/
def fireMethod (call : Caller) (id : SessionId) (name params : Json) : Act Nat := do
  let key ← Act.check name.key
  let s ← getSession id
  let listeners := s.listeners.ofMethod key
  callEach call (fun l => .message l id params)
    (logFault .client (s.tag ++ "Error handling '" ++ name.display ++ "'")) listeners
  return listeners.length

end LanguageClient.Session
