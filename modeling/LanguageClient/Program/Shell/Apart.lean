import LanguageClient.Program.Shell.Builtin

/-!
What goes on apart from the shell that starts it, such as the members of a pipe: it works on its own
setting.
-/

namespace LanguageClient.Shell

open Run

/-- Acts on its own setting. Tells the status, or why it stops if it is not at its end. -/
def apartFrom (act : Run Unit) : Run (Except Stop Nat) := do
  let outer ← setting
  update fun s => { s with
    traps := s.traps.filter fun t => t.2.isEmpty
    shellTraps? := some (s.shellTraps?.getD s.traps)
    isLast := false }
  let ended ← attempt act
  let status := (← setting).status
  modify fun m => { m with setting := outer }
  match ended with
  | .ok _ | .error (.leavesLoop _) | .error (.goesOn _) => return .ok status
  | .error (.exits n) | .error (.returns n) => return .ok n
  | .error .fails => return .ok 2
  | .error stop => return .error stop

/-- The members of a pipe, each of which reads what the one before it writes. -/
def pipe (act : Command → Run Unit) : Option Nat → List Command → Run Unit
  | _, [] => pure ()
  | source?, a :: rest => do
    let serial ← newPipe
    let isEnd := rest.isEmpty
    let ended ← apartFrom do
      if let some k := source? then setChannel 0 (some (.input k))
      if !isEnd then setChannel 1 (some (.outlet (.pipe serial)))
      act a
    match ended with
    | .error (.killed signal) => throw (.killed signal)
    | .ok status =>
      setStatus status
      if !isEnd then
        let k ← newStream (← takePipe serial) true
        pipe act (some k) rest
    | .error stop =>
      if !isEnd then
        let k ← newStream (← takePipe serial) false
        let _ ← attempt (pipe act (some k) rest)
      throw stop

/-- What acting apart writes. Its status is kept. -/
def output (act : Run Unit) : Run Chars := do
  let serial ← newPipe
  let ended ← apartFrom do
    setChannel 1 (some (.outlet (.pipe serial)))
    act
  match ended with
  | .ok status =>
    update fun s => { s with inner := status, status := status }
    return (← takePipe serial).flatten.filter (· ≠ '\x00')
  | .error stop => throw stop

/-- A shell that another one starts, or that takes its place. -/
def innerShell (act : Run Unit) (name : Chars) : Run Nat := do
  let s ← setting
  let outer := (← get).id
  let replaces := s.isLast && s.traps.isEmpty
  if !replaces then
    let n ← newProcess
    modify fun m => { m with id := natChars n }
  let inherited := s.bindings.filter fun (n, _) => s.exported.contains n
  let ended ← apartFrom do
    update fun _ => {
      name, bindings := inherited, exported := inherited.map (·.1), channels := s.channels,
      traps := s.traps.filter (·.2.isEmpty), directory := s.directory, mask := s.mask }
    assign "IFS" " \t\n"
    assign "OPTIND" "1"
    assign "PWD" ('/' :: Files.written s.directory)
    update fun s => { s with exported := "PWD".toList :: s.exported }
    act
  modify fun m => { m with id := outer }
  match ended with
  | .ok status => return status
  | .error (.killed signal) =>
    if replaces then throw (.killed signal)
    let text := Signal.obituary signal
    if !text.isEmpty then complain (text ++ ['\n'])
    return 128 + signal
  | .error stop => throw stop

end LanguageClient.Shell
