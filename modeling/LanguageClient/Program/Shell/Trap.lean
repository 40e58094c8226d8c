import LanguageClient.Program.Shell.Redirection

/-!
What a shell does on signals and at its end: the scripts that its traps name. How a script is
performed is given from outside.
-/

namespace LanguageClient.Shell

open Run

/-- Ends a shell that stops on failures. -/
def failIf (tested : Bool) : Run Unit := do
  let s ← setting
  if s.isOn 'e' && !tested && s.status ≠ 0 then throw (.exits s.status)

variable (perform : Chars → Run Unit)

def finish (status : Nat) : Run Unit := do
  match (← setting).traps.lookup "EXIT".toList with
  | none => setStatus status
  | some action =>
    update fun s => { s with traps := s.traps.filter (·.1 ≠ "EXIT".toList), status }
    match ← attempt (perform action) with
    | .ok _ => setStatus status
    | .error (.exits n) => setStatus n
    | .error .fails => setStatus 2
    | .error stop => throw stop

/-- Acts, and does then what the end of a shell was to bring, if the shell has come to its end. -/
def conclude (act : Run Unit) : Run Unit := do
  match ← attempt act with
  | .ok _ => finish perform (← setting).status
  | .error (.exits n) | .error (.returns n) => finish perform n
  | .error .fails => finish perform 2
  | .error stop => throw stop

/-- Acts on the signals that have arrived; what stands apart leaves them to the shell. -/
def actOnSignals : Nat → Run Unit
  | 0 => throw .hungry
  | fuel + 1 => do
    let s ← setting
    match (← get).signals with
    | [] => pure ()
    | signal :: rest =>
      if s.shellTraps?.isNone then
        modify fun m => { m with signals := rest }
        if let some action := s.traps.lookup signal then
          perform action
          setStatus s.status
        actOnSignals fuel

end LanguageClient.Shell
