import LanguageClient.Correlator
import LanguageClient.Frame.Reader
import LanguageClient.Json.Display
import LanguageClient.Listeners
import LanguageClient.Message.Basic
import LanguageClient.Action

/-!
A session with one server: its status, its link, its queues and its open documents.
-/

namespace LanguageClient

/-- From not started to gone; a session never goes back. -/
inductive Status where
  | uninitialized
  | initializing
  | initialized
  | shuttingDown
  | terminated
deriving DecidableEq

namespace Status

def name : Status → Text
  | uninitialized => "UNINITIALIZED"
  | initializing => "INITIALIZING"
  | initialized => "INITIALIZED"
  | shuttingDown => "SHUTTING_DOWN"
  | terminated => "TERMINATED"

def rank : Status → Nat
  | uninitialized => 0
  | initializing => 1
  | initialized => 2
  | shuttingDown => 3
  | terminated => 4

/-- Whether the session is on its way out. -/
def isLeaving (s : Status) : Bool := s = .shuttingDown || s = .terminated

end Status

/-- A link to a server: what the server wrote and no one has read yet, and how it is. -/
structure Link where
  incoming : Option Bytes := none
  complaints : List Json := []
  alive : Bool := true
  broken : Bool := false
  closed : Bool := false
  code : Json := .int 0

namespace Link

def isAlive (l : Link) : Bool := l.alive && !l.closed

def accepts (l : Link) : Bool := l.isAlive && !l.broken

/-- The code the server ended with; null while it runs. -/
def returnCode (l : Link) : Json := if l.isAlive then .null else l.code

def supply (l : Link) (data : Bytes) : Link :=
  { l with incoming := some (l.incoming.getD [] ++ data) }

end Link

structure OutgoingNotification where
  method : Json
  params : Json

/-- A request of a session is told from all others by its ticket. -/
structure OutgoingRequest where
  method : Json
  params : Json
  handler : Option Handler
  timeout : Json
  ticket : Nat

abbrev Deferred := OutgoingNotification ⊕ OutgoingRequest

structure Session where
  config : Fields
  name : Json
  status : Status := .uninitialized
  link : Option Link := none
  serverInfo : Json := .null
  capabilities : Option Json := none
  reader : Frame.Reader := {}
  correlator : Correlator Handler := {}
  listeners : Listeners Listener := {}
  notifications : List OutgoingNotification := []
  requests : List OutgoingRequest := []
  /-- How many tickets were given to requests. -/
  tickets : Nat := 0
  responses : List Fields := []
  errors : List Fields := []
  deferred : List Deferred := []
  openDocuments : List (Json.Key × Json) := []
  teardownReason : Option Text := none
  /-- Makes every tick fail. -/
  fault : Option Json := none

namespace Session

instance : Inhabited Session := ⟨{ config := [], name := .null }⟩

/-- A session is set up from a configuration with a name. -/
def ofConfig (config : Json) : Checked Session := do
  let name ← config.mandatory "name"
  return { config := ← config.fields, name := name }

def setting (s : Session) (key : Text) : Json := s.config.getD key .null

def filePatterns (s : Session) : Json := s.config.getD "file_patterns" (.list [])

def isVerbose (s : Session) : Bool := (s.setting "verbose").holds

def language (s : Session) : Json := (s.setting "language").orElse s.name

def tag (s : Session) : Text := "[" ++ s.name.display ++ "] "

def title (s : Session) : Text := s.name.display ++ " (" ++ s.status.name ++ ")"

def triggers (s : Session) : Json :=
  (Json.ofOption s.capabilities).lookup ["completionProvider", "triggerCharacters"] (.list [])

def isOpen (s : Session) (uri : Json.Key) : Bool := s.openDocuments.any fun (k, _) => k = uri

def clearQueues (s : Session) : Session :=
  { s with notifications := [], requests := [], responses := [], errors := [], deferred := [] }

/-- What was deferred goes to its queue, in order. -/
def flush (s : Session) : Session :=
  { s with
    notifications := s.notifications ++ s.deferred.filterMap Sum.getLeft?
    requests := s.requests ++ s.deferred.filterMap Sum.getRight?
    deferred := [] }

def queue (s : Session) : Deferred → Session
  | .inl n => { s with notifications := s.notifications ++ [n] }
  | .inr r => { s with requests := s.requests ++ [r] }

def queueLengths (s : Session) : List Nat :=
  [s.notifications.length, s.requests.length, s.responses.length, s.errors.length,
    s.deferred.length]

end Session

end LanguageClient
