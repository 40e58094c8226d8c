import LanguageClient.Registry

/-!
The scheduler ticks the registry, often while the host's window has the focus and seldom otherwise.
It is started with one tick; the next one is left to the clock.
-/

namespace LanguageClient.Schedule

def interval : Act Json := do
  let w ← get
  return if !w.scheduler.hasHost || w.focus.holds then w.scheduler.focused
    else w.scheduler.unfocused

/-- A tick; what goes wrong is logged. -/
def runOnce (call : Caller) : Act Unit := do
  match ← (Registry.process call).attempt with
  | .ok _ => pure ()
  | .error f => logFault .scheduler "Scheduler tick error" f

def isRunning : Act Bool := do return (← get).scheduler.running

def setRunning (b : Bool) : Act Unit :=
  modify fun w =>
    { w with
      scheduler := { w.scheduler with running := b, started := w.scheduler.started || b } }

def start (call : Caller) : Act Unit := do
  if !(← isRunning) then
    setRunning true
    log .scheduler Level.debug "Scheduler started 🟢"
    runOnce call

/-- Stops between two ticks, with a limit on the time to wait for that. A wait that failed is made up
for by the next one. -/
def stop (timeout : Json) : Act Unit := do
  if ← isRunning then
    setRunning false
    log .scheduler Level.debug "Scheduler stopped 🔴"
  if (← get).scheduler.started then
    let _ ← Act.check timeout.limit
    modify fun w => { w with scheduler := { w.scheduler with started := false } }

end LanguageClient.Schedule
