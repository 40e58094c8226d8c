import LanguageClient.Settings
import LanguageClient.Json.Display

/-!
Loggers of the application. A record goes to the sinks of its own logger, if its level reaches the
effective one: the level of the logger, or that of its parent if it is zero.
-/

namespace LanguageClient

namespace Level

def debug : Int := 10
def info : Int := 20
def warning : Int := 30
def error : Int := 40

def names : List (Int × Text) :=
  [(50, "CRITICAL"), (40, "ERROR"), (30, "WARNING"), (20, "INFO"), (10, "DEBUG"), (0, "NOTSET")]

def aliases : List (Text × Int) := [("FATAL", 50), ("WARN", 30)]

def name (level : Int) : Text :=
  match names.find? fun (n, _) => n = level with
  | some (_, name) => name
  | none => "Level " ++ Text.ofInt level

def ofName? (t : Text) : Option Int :=
  (names.findSome? fun (n, name) => if name = t then some n else none).or
    (aliases.findSome? fun (name, n) => if name = t then some n else none)

/-- The number of a level that is given as one. -/
def ofNumber? : Json → Option Int
  | .bool b => some (if b then 1 else 0)
  | .int n => some n
  | _ => none

/-- How a level is written that was given as a number, or as the truth value that counts as one. -/
def title : Json → Text
  | .bool true => "Level True"
  | v => name ((ofNumber? v).getD 0)

/-- A level is given by its number or its name. -/
def read (v : Json) : Checked Json :=
  match ofNumber? v with
  | some _ => .ok v
  | none =>
    match v with
    | .text t =>
      match ofName? t with
      | some n => .ok (.int n)
      | none => .error (.invalidValue ("Unknown level: " ++ Quoted.text t))
    | _ => .error .wrongType

end Level

/-- Where records come from. -/
inductive Source where
  | client
  | traffic
  | features
  | scheduler
deriving DecidableEq

inductive Sink where
  | console
  | file (serial : Nat)
deriving DecidableEq

structure Logger where
  level : Json := .int 0
  sinks : List Sink := []

namespace Logger

def attach (l : Logger) (s : Sink) : Logger :=
  if l.sinks.contains s then l else { l with sinks := l.sinks ++ [s] }

def detach (l : Logger) (s : Sink) : Logger := { l with sinks := l.sinks.filter (· ≠ s) }

def number (l : Logger) : Int := (Level.ofNumber? l.level).getD 0

end Logger

/-- The logger of the plugin, the one of the clients below it, and the one of the traffic below
that. `current` is the log file to give up when logging is torn down; `opened` counts log files. -/
structure Logging where
  plugin : Logger := {}
  client : Logger := {}
  traffic : Logger := {}
  current : Option Nat := none
  opened : Nat := 0
  closed : List Nat := []
  file : Text := []

namespace Logging

def rootLevel : Int := Level.warning

def inherit (l : Logger) (parent : Json) : Json := if l.number = 0 then parent else l.level

def pluginLevel (s : Logging) : Json := inherit s.plugin (.int rootLevel)
def clientLevel (s : Logging) : Json := inherit s.client s.pluginLevel
def trafficLevel (s : Logging) : Json := inherit s.traffic s.clientLevel

def loggerOf (s : Logging) : Source → Logger × Json × Text
  | .client => (s.client, s.clientLevel, "parley.Client")
  | .traffic => (s.traffic, s.trafficLevel, "parley.Client.json")
  | .features | .scheduler => (s.plugin, s.pluginLevel, "parley")

def write (s : Logging) (line : Text) : Logging :=
  if line.any CodePoint.isSurrogate then s else { s with file := s.file ++ line ++ "\n" }

/-- A line as the console shows it, without the line feeds at its end. -/
def consoleLine (line : Text) : Text := Text.trimEnd (· = '\n') line

/-- The lines for the console, and the state with the lines for the file written. Levels that are
not positive reach no sink. -/
def emit (s : Logging) (source : Source) (level : Json) (text : Text) : List Text × Logging :=
  let (logger, effective, name) := s.loggerOf source
  let number := (Level.ofNumber? level).getD 0
  if number ≤ 0 || number < (Level.ofNumber? effective).getD 0 then ([], s)
  else
    let line := "[" ++ name ++ "] " ++ Level.title level ++ " " ++ text
    logger.sinks.foldl
      (fun (lines, s) sink =>
        match sink with
        | .console => (lines ++ [consoleLine line], s)
        | .file _ => (lines, s.write line))
      ([], s)

abbrev Setup := ExceptT Fault (StateM Logging)

def openFile (s : Logging) : Logging :=
  let serial := s.opened
  { s with
    opened := serial + 1
    current := some serial
    traffic := { s.traffic.attach (.file serial) with level := .int Level.debug } }

/-- Attaches the console and sets the levels; with a log file, the traffic is written to it. -/
def setUp (settings : Json) : Setup Unit := do
  modify fun s => { s with plugin := s.plugin.attach .console }
  let level ← liftExcept (Settings.get settings "logger.plugin.level" "INFO" >>= Level.read)
  modify fun s => { s with plugin := { s.plugin with level := level } }
  modify fun s => { s with client := s.client.attach .console }
  let level ← liftExcept (Settings.get settings "logger.client.level" "INFO" >>= Level.read)
  modify fun s => { s with client := { s.client with level := level } }
  let file ← liftExcept (Settings.get settings "log_file" .null)
  if file.holds then modify openFile
where
  liftExcept {α : Type} (r : Checked α) : Setup α := ExceptT.mk (pure r)

/-- Detaches the console and the log file opened last. -/
def tearDown (s : Logging) : Logging :=
  let s := { s with plugin := s.plugin.detach .console, client := s.client.detach .console }
  match s.current with
  | none => s
  | some serial =>
    { s with
      traffic := s.traffic.detach (.file serial)
      closed := serial :: s.closed
      current := none }

end Logging

end LanguageClient
