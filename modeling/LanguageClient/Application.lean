import LanguageClient.Scheduler

/-!
The application: registry, features and scheduler, set up for a host by its settings.
-/

namespace LanguageClient.Application

def logging : Act Logging := do
  match (← get).journal with
  | .loggers setup => return setup
  | .recorder => return {}

def setLogging (setup : Logging) : Act Unit :=
  modify fun w => { w with journal := .loggers setup }

def setUpLogging : Act Unit := do
  let w ← get
  let settings := if w.settings.holds then w.settings else .object []
  let (result, setup) := (Logging.setUp settings).run (← logging)
  setLogging setup
  Act.check result

def tearDownLogging : Act Unit := do
  setLogging (← logging).tearDown

def start (call : Caller) : Act Unit := do
  setUpLogging
  log .features Level.debug "Plugin loaded"
  Schedule.start call

def shutdown (call : Caller) (timeout : Json) : Act Unit := do
  log .features Level.debug "Plugin unloaded"
  Schedule.stop timeout
  Registry.shutdown call timeout
  tearDownLogging

def addServers : List Json → Act Unit
  | [] => pure ()
  | config :: rest => do
    Registry.addServer config
    addServers rest

/-- A world with the application set up in it. -/
def create (settings : Json) : Act Unit := do
  let file ← Act.check (Settings.get settings "log_file" .null)
  let pretty ← Act.check (Settings.get settings "prettify_json" (.bool false))
  modify fun w =>
    { w with
      settings := settings
      journal := .loggers {}
      logsTraffic := file.holds
      prettyTraffic := pretty.holds }
  let servers ← Act.check (Settings.get settings "servers" (.list []))
  addServers (← Act.check servers.elements)
  let focused ← Act.check (Settings.get settings "focused_interval" (.float 0.01))
  let unfocused ← Act.check (Settings.get settings "unfocused_interval" (.float 1.0))
  modify fun w =>
    { w with scheduler := { w.scheduler with focused := focused, unfocused := unfocused } }

end LanguageClient.Application
