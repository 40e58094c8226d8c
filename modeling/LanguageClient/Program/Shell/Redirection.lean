import LanguageClient.Program.Machine
import LanguageClient.Program.Shell.Signal

/-!
Pipes, and channels that are led elsewhere.
-/

namespace LanguageClient.Shell

open Run

/-- A mistake that ends a shell. -/
def fatal {α : Type} (text : Chars) : Run α := do
  shellComplains text
  throw .fails

/-- What was written to a pipe, which is taken from it. -/
def takePipe (serial : Nat) : Run (List Chars) := do
  let all := (← get).written
  modify fun m => { m with written := all.filter (·.1 ≠ .pipe serial) }
  return (all.filter (·.1 = .pipe serial)).reverse.map (·.2)

def newPipe : Run Nat := do
  let serial := (← get).pipes
  modify fun m => { m with pipes := serial + 1 }
  return serial

def barrierText : Barrier → String
  | .missing => "Directory nonexistent"
  | .notADirectory => "Directory nonexistent"
  | .isDirectory => "Is a directory"

/-- Sets a channel as a redirection says; what is wrong with it, if it cannot be done. -/
def redirect (channel : Nat) (way : Way) (target : Chars) : Run (Option Chars) := do
  let setOutlet (adds : Bool) : Run (Option Chars) := do
    match ← openOutlet adds target with
    | .ok o => setChannel channel (some (.outlet o)); return none
    | .error why =>
      return some ("cannot create ".toList ++ target ++ ": ".toList ++ (barrierText why).toList)
  let setText (t : Chars) : Run (Option Chars) := do
    setChannel channel (some (.input (← newStream [t] true)))
    return none
  match way with
  | .write => setOutlet false
  | .append | .readWrite => setOutlet true
  | .here => setText target
  | .read =>
    match ← openFile target with
    | .text t => setText t
    | .input k =>
      setChannel channel (some (.input k))
      return none
    | .directory => setText []
    | .missing | .notADirectory =>
      return some ("cannot open ".toList ++ target ++ ": No such file".toList)
  | .copy =>
    if target = ['-'] then
      setChannel channel none
      return none
    match Signal.digitsValue? target with
    | none => fatal "Syntax error: Bad fd number"
    | some n =>
      match ← channel? n with
      | some c => setChannel channel (some c); return none
      | none => return some (target ++ ": Bad file descriptor".toList)

end LanguageClient.Shell
