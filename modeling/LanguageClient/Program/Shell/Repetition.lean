import LanguageClient.Program.Shell.Builtin

/-!
Loops. A command in a loop may leave it, or go on with its next round, and the same for loops around
it.
-/

namespace LanguageClient.Shell

open Run

/-- Performs a round of a loop, and tells whether another one follows. -/
def round (act : Run Bool) : Run Bool := do
  let depth := (← setting).loops
  match ← attempt act with
  | .ok more => return more
  | .error (.leavesLoop n) =>
    update fun s => { s with loops := depth, status := 0 }
    if 1 < n then throw (.leavesLoop (n - 1)) else return false
  | .error (.goesOn n) =>
    update fun s => { s with loops := depth, status := 0 }
    if 1 < n then throw (.goesOn (n - 1)) else return true
  | .error stop => throw stop

/-- Performs a body as long as the outcome of a test is the expected one. Without a round its status
is the given one. -/
def loop (test body : Run Unit) (expected : Bool) : Nat → Nat → Run Unit
  | 0, _ => throw .hungry
  | fuel + 1, status => do
    let goesOn ← round do
      test
      if ((← setting).status = 0) != expected then
        setStatus status
        return false
      body
      return true
    if goesOn then loop test body expected fuel (← setting).status

/-- Performs a body once for each value of a variable. -/
def each (name : Chars) (body : Run Unit) : List Chars → Run Unit
  | [] => pure ()
  | v :: rest => do
    assign name v
    let goesOn ← round do
      body
      return true
    if goesOn then each name body rest

end LanguageClient.Shell
