import LanguageClient.Program.Shell.Apart

/-!
Commands that are left to themselves. Such a command goes on until it sleeps; when it wakes it does
again what it has done, and only what it writes beyond that counts.
-/

namespace LanguageClient.Shell

open Run

def setFate (id : Nat) (fate : Fate) : Run Unit :=
  modify fun m => { m with
    children :=
      if m.children.any (·.1 = id) then m.children.map fun c => if c.1 = id then (id, fate) else c
      else m.children ++ [(id, fate)] }

/-- The first child that goes on at some time. -/
def earliest (children : List (Nat × Fate)) (time : Float) : Option (Nat × Sleeper) :=
  children.foldl (fun best (id, fate) =>
    match fate, best with
    | .sleeps s, some (_, t) => if s.time < t.time then some (id, s) else best
    | .sleeps s, none => if s.time ≤ time then some (id, s) else none
    | _, best => best) none

variable (act : Command → Run Unit)

/-- Lets such a command go on until it ends or sleeps once more. -/
def goOn (id : Nat) (sleeper : Sleeper) : Run Unit := do
  let before ← get
  set { before with
    setting := sleeper.setting, naps := sleeper.naps, written := [], children := [] }
  let ended ← apartFrom (act sleeper.command)
  let after ← get
  let count := after.written.length
  set { after with
    setting := before.setting
    naps := before.naps
    clock := before.clock
    children := before.children
    written := after.written.take (count - sleeper.written) ++ before.written }
  match ended with
  | .ok status => setFate id (.ended status)
  | .error (.asleep seconds) =>
    setFate id (.sleeps { sleeper with
      time := sleeper.time + seconds, naps := sleeper.naps + 1, written := count })
  | .error (.killed signal) => throw (.killed signal)
  | .error _ => setFate id (.ended 0)

/-- Starts a command that is not waited for and has no input. -/
def background (command : Command) : Run Unit := do
  let id ← newProcess
  let k ← newStream [] true
  let s ← setting
  let channels := (0, .input k) :: s.channels.filter (·.1 ≠ 0)
  goOn act id ⟨{ s with channels }, command, (← get).clock, 0, 0⟩
  setStatus 0

/-- Lets all such commands go on that have slept long enough. -/
def wakeChildren : Nat → Float → Run Unit
  | 0, _ => pure ()
  | fuel + 1, time => do
    match earliest (← get).children time with
    | some (id, sleeper) =>
      goOn act id sleeper
      wakeChildren fuel time
    | none => pure ()

/-- Waits for such a command, and tells its fate if there is one of this number. -/
def awaitChild : Nat → Nat → Run (Option Fate)
  | 0, _ => throw .hungry
  | fuel + 1, id => do
    let m ← get
    match m.children.lookup id with
    | some (.sleeps sleeper) =>
      if m.clock < sleeper.time then Run.sleep (sleeper.time - m.clock)
      goOn act id sleeper
      awaitChild fuel id
    | fate => return fate

/-- Waits for the commands of some numbers, or for all. Tells the status of the last one. -/
def wait (fuel : Nat) (numbers : List Chars) : Run Nat := do
  if numbers.isEmpty then
    (← get).children.forM fun c => do let _ ← awaitChild act fuel c.1
    return 0
  else
    numbers.foldlM (fun _ text => do
      match ← awaitChild act fuel (← number text) with
      | some (.ended status) => return status
      | some (.killed signal) =>
        complain (Signal.obituary signal ++ ['\n'])
        return 128 + signal
      | _ => return 127) 0

end LanguageClient.Shell
