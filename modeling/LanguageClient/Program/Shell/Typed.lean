import LanguageClient.Program.Shell.Builtin

/-!
Scripts that come through the input. A line is performed as soon as it makes complete commands.
-/

namespace LanguageClient.Shell

open Run

/-- A script that cannot be read ends the shell. -/
def refuse {α : Type} (m : Mistake) : Run α := do
  update fun s => { s with line := m.line }
  fatal m.text

variable (eval : Command → Run Unit)

/-- Goes on with the next chunk of the input, or with the end of the script. -/
def takeMore (source : Source) : Run (Option Source) := do
  let chunk ←
    match ← streamOf 0 with
    | some k => nextChunk k
    | none => pure none
  match chunk with
  | some text => return some { source with rest := source.rest ++ text }
  | none =>
    match Shell.nextLine { source with grows := false } with
    | .ok (some c, after) =>
      eval c
      return some after
    | .ok (none, _) => return none
    | .error m => refuse m

/-- The commands of the next lines of the input, which takes more of it until they are complete;
nothing if there are no more. -/
def typedLine (source : Source) : Run (Option Source) := do
  let known := (source.rest.reverse.dropWhile (· ≠ '\n')).reverse
  match Shell.nextLine { source with rest := known, grows := true } with
  | .ok (some c, after) =>
    eval c
    let rest := after.rest ++ source.rest.drop known.length
    return some { after with rest }
  | .ok (none, _) => takeMore eval source
  | .error m =>
    if m.line < source.line + known.count '\n' then refuse m else takeMore eval source

def typed : Nat → Source → Run Unit
  | 0, _ => throw .hungry
  | fuel + 1, source => do
    if let some source ← typedLine eval source then typed fuel source

end LanguageClient.Shell
