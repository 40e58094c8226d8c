import LanguageClient.FileFilter
import LanguageClient.Session.Lifecycle

/-!
Configured servers and the sessions that run them, at most one for each name.
-/

namespace LanguageClient.Registry

def clientName : Json := "Parley"
def clientVersion : Json := "0.1.0"

def mandatoryFields : List Text := ["name", "command", "file_patterns"]

def checkConfig (config : Json) : Checked Fields := do
  let fields ← config.fields
  match mandatoryFields.find? fun k => !(fields.getD k .null).holds with
  | some k =>
    throw (.invalidValue ("Server config is missing '" ++ k ++ "': " ++ config.display))
  | none => return fields

/-- A server of a name that is known replaces it where it stands. -/
def putServer (name : Json) (config : Fields) : List (Json × Fields) → List (Json × Fields)
  | [] => [(name, config)]
  | (n, c) :: rest =>
    if n.key? = name.key? then (n, config) :: rest else (n, c) :: putServer name config rest

def addServer (config : Json) : Act Unit := do
  let fields ← Act.check (checkConfig config)
  let name := fields.getD "name" .null
  let _ ← Act.check name.key
  modify fun w => { w with servers := putServer name fields w.servers }

def isRunning (w : World) (name : Json) : Bool :=
  w.running.any fun (n, _) => n.key? = name.key?

/-- The running sessions that are for a file, by name. -/
def activeAmong (w : World) (fileName : Json) :
    List (Json × SessionId) → Checked (List (Json × SessionId))
  | [] => .ok []
  | (name, id) :: rest => do
    let s := w.session id
    let isFor ← FileFilter.admits s.filePatterns fileName
    let others ← activeAmong w fileName rest
    return if isFor && s.status ≠ .terminated then (name, id) :: others else others

def active (fileName : Json) : Act (List (Json × SessionId)) := do
  let w ← get
  Act.check (activeAmong w fileName w.running)

/-- The listeners that every session has from its start. -/
def featureListeners : Listeners Listener :=
  { events := [(.text "initialized", .ready)]
    methods := [(.text "window/logMessage", .logMessage),
      (.text "window/showMessage", .logMessage)] }

/-- The root of a project as a URI; null without a project. -/
def rootUri (project : Json) : Checked Json := do
  if !project.holds then return .null
  match project with
  | .text p => return .text (← Uri.ofPath p)
  | _ => throw .wrongType

/-- Opens a new session. A server that cannot be launched is logged and has none. -/
def launch (name : Json) (config : Fields) (project : Json) : Act (Option SessionId) := do
  log .client Level.info ("Starting " ++ name.display)
  let s ← Act.check (Session.ofConfig (.object config))
  let id ← addSession { s with listeners := featureListeners }
  record (.starting s.title)
  let root ← Act.check (rootUri project)
  match ← (Session.handshake id root clientName clientVersion none).attempt with
  | .ok _ =>
    modify fun w => { w with running := w.running ++ [(name, id)] }
    return some id
  | .error (.failure (.spawn text)) =>
    log .client Level.error ("[" ++ name.display ++ "] " ++ text)
    return none
  | .error f => throw f

def startEach (fileName project : Json) : List (Json × Fields) → Act (List SessionId)
  | [] => pure []
  | (name, config) :: rest => do
    let patterns ← Act.check ((Json.object config).mandatory "file_patterns")
    if !(← Act.check (FileFilter.admits patterns fileName)) || isRunning (← get) name then
      startEach fileName project rest
    else
      match ← launch name config project with
      | some id => do return id :: (← startEach fileName project rest)
      | none => startEach fileName project rest

/-- Starts the servers for a file that are not running, and gives the new sessions. -/
def start (fileName project : Json) : Act (List SessionId) := do
  startEach fileName project (← get).servers

def remove (name : Json) (id : SessionId) (w : World) : World :=
  { w with running := w.running.filter fun (n, i) => !(n.key? = name.key? && i = id) }

def tickEach (call : Caller) : List (Json × SessionId) → Act Unit
  | [] => pure ()
  | (name, id) :: rest => do
    match ← (Session.tick call id).attempt with
    | .ok _ => pure ()
    | .error f => logFault .client ("[" ++ name.display ++ "] Error processing server") f
    if (← getSession id).status = .terminated then
      modify (remove name id)
      log .client Level.debug ("[" ++ name.display ++ "] Removed from running servers")
    tickEach call rest

/-- Ticks every running session once; those that have ended are removed. -/
def process (call : Caller) : Act Unit := do
  let w ← get
  match w.processFault with
  | some message => throw (.host message.display)
  | none => tickEach call w.running

def shutdownEach (call : Caller) (timeout : Json) : List (Json × SessionId) → Act Unit
  | [] => pure ()
  | (_, id) :: rest => do
    Session.shutdown call id timeout
    shutdownEach call timeout rest

def shutdown (call : Caller) (timeout : Json) : Act Unit := do
  let running := (← get).running
  modify fun w => { w with running := [] }
  shutdownEach call timeout running

end LanguageClient.Registry
