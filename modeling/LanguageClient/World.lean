import LanguageClient.Completion
import LanguageClient.Logging
import LanguageClient.Session.Basic

/-!
The state that sessions, their registry and their host share, and actions on it. An action may fail;
what it did before stays done.
-/

namespace LanguageClient

abbrev SessionId := Nat

/-- The answer to an action of a host. -/
inductive Answer where
  | nothing
  | flag (b : Bool)
  | flags (bs : List Bool)
  | count (n : Nat)
  | name (v : Json)
  | names (vs : List Json)
  | value (v : Json)
  | values (vs : List Json)
  | configs (entries : List (Json × Json))
  | pending (p : Pending Handler)
  | table (ps : List (Pending Handler))

/-- What becomes of a request, which is known by its ticket, and the messages that may answer it. -/
inductive Dealing where
  | accepted (ticket : Nat) (handler : Option Handler)
  | registered (ticket number : Nat)
  | read (message : Fields)
  | resolved (ticket : Nat) (response : Json)
  | answered (ticket : Nat) (label response : Json)

/-- What a session does that no one is told about. -/
inductive Note where
  | deferred (item : Deferred)
  | queued (item : Deferred)
  /-- The server is to be told that the session is open, and then what was deferred. -/
  | announced (items : List Deferred)
  | fired (name : Json.Key)
  | refused (message : Json)
  /-- A message for which there was no link. -/
  | unlinked (message : Json)
  /-- Bytes that a session took from its link. -/
  | received (data : Bytes)
  | unreadable (fault : Fault)
  /-- A message has its turn, and finds its session so. -/
  | dispatched (message : Fields) (found : Session)
  /-- The request that opens the session was answered when the session did not wait for it. -/
  | late (ticket : Nat)
  /-- A session is over, and what is pending is to fail. -/
  | ended
  /-- The host is asked for something on behalf of a session, which is the next event. -/
  | asking
  /-- An operation is through, and how it found and left its session. -/
  | did (action : SessionAction) (before after : Session)
  | tooDeep

inductive Event where
  | logged (source : Source) (level : Int) (text : Text) (cause : Option Fault)
  | sent (session : SessionId) (server message : Json)
  | launched (session : SessionId) (server : Json)
  | closed (session : SessionId) (server timeout : Json)
  | dealt (session : SessionId) (dealing : Dealing)
  | noted (session : SessionId) (note : Note)
  | answered (session : SessionId) (ticket : Nat) (label : Json) (title : Text) (response : Json)
  | happened (session : SessionId) (label : Json) (title : Text) (args : List Json)
  | received (session : SessionId) (label : Json) (title : Text) (params : Json)
  | inner (result : Except Fault Answer)
  | starting (title : Text)
  | completed (server files : Json) (entries : List Completion.Entry)
  | opened (path : Text) (line col : Json)
  | triggered (language patterns characters : Json)
  | printed (line : Text)

/-- Where log records go: all of them from the debug level on to the events, or to loggers. -/
inductive Journal where
  | recorder
  | loggers (setup : Logging)

/-- How servers are launched: in memory, or as programs that cannot start. -/
inductive Launcher where
  | memory
  | programs
deriving DecidableEq

structure Scheduler where
  hasHost : Bool := true
  focused : Json := .float 0.01
  unfocused : Json := .float 1.0
  running : Bool := false
  /-- Whether it was started and its end was not waited for. -/
  started : Bool := false

structure World where
  clock : Float := 100.0
  sessions : List Session := []
  failing : List Json := []
  launcher : Launcher := .memory
  logsTraffic : Bool := false
  prettyTraffic : Bool := false
  /-- The configured servers by name. -/
  servers : List (Json × Fields) := []
  running : List (Json × SessionId) := []
  processFault : Option Json := none
  focus : Json := .bool true
  project : Json := "/project"
  scheduler : Scheduler := {}
  settings : Json := .null
  journal : Journal := .recorder
  /-- What happened, the last event first. -/
  events : List Event := []

/-- The time that things have to end, if nothing else is said. -/
def defaultTimeout : Json := .float 5.0

abbrev Act := ExceptT Fault (StateM World)

namespace Act

def check {α : Type} (r : Checked α) : Act α := ExceptT.mk (pure r)

/-- Runs an action to its end and gives what came of it. -/
def attempt {α : Type} (a : Act α) : Act (Except Fault α) :=
  ExceptT.mk do
    let r ← a.run
    return .ok r

end Act

namespace World

def session (w : World) (id : SessionId) : Session := w.sessions.getD id default

def setSession (w : World) (id : SessionId) (s : Session) : World :=
  { w with sessions := w.sessions.set id s }

def record (w : World) (e : Event) : World := { w with events := e :: w.events }

def log (w : World) (source : Source) (level : Json) (text : Text) (cause : Option Fault) :
    World :=
  match w.journal with
  | .recorder =>
    let number := (Level.ofNumber? level).getD 0
    if number < Level.debug then w else w.record (.logged source number text cause)
  | .loggers setup =>
    let (lines, setup) := setup.emit source level text
    lines.foldl (fun w line => w.record (.printed line)) { w with journal := .loggers setup }

end World

def record (e : Event) : Act Unit := modify fun w => w.record e

def note (id : SessionId) (n : Note) : Act Unit := record (.noted id n)

/-- Asks something of the host on behalf of a session. -/
def askHost (id : SessionId) (e : Event) : Act Unit := do
  note id .asking
  record e

/-- A record of a level that is given by its number. -/
def logAt (source : Source) (level : Json) (text : Text) : Act Unit :=
  modify fun w => w.log source level text none

def log (source : Source) (level : Int) (text : Text) : Act Unit := logAt source (.int level) text

/-- An error record with its cause. -/
def logFault (source : Source) (text : Text) (cause : Fault) : Act Unit :=
  modify fun w => w.log source (.int Level.error) text (some cause)

def getSession (id : SessionId) : Act Session := do return (← get).session id

def updateSession (id : SessionId) (f : Session → Session) : Act Unit :=
  modify fun w => w.setSession id (f (w.session id))

/-- Changes a session and notes what became of one of its requests. -/
def deal (id : SessionId) (d : Dealing) (f : Session → Session) : Act Unit :=
  modify fun w => (w.setSession id (f (w.session id))).record (.dealt id d)

/-- A new session, which has the next free number. -/
def addSession (s : Session) : Act SessionId := do
  let w ← get
  set { w with sessions := w.sessions ++ [s] }
  return w.sessions.length

/-- What is called back: a handler with an answer, or a listener with what happened. -/
inductive Call where
  | answer (handler : Handler) (session : SessionId) (ticket : Nat) (response : Json)
  | event (listener : Listener) (session : SessionId) (args : List Json)
  | message (listener : Listener) (session : SessionId) (params : Json)

def Call.session : Call → SessionId
  | .answer _ session _ _ | .event _ session _ | .message _ session _ => session

abbrev Caller := Call → Act Unit

end LanguageClient
