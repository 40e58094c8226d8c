import LanguageClient.Program.Shell.Builtin

/-!
Programs that run other programs. How a program starts is given from outside: by where it is, by the
name under which it is called, and by its arguments.
-/

namespace LanguageClient.Utility

open Run

/-- The name of the program that a name or path leads to. -/
def reachable (directory : Files.Place) (name : Chars) : Option Chars :=
  if name.contains '/' then
    match Files.follow directory name with
    | .ok place => if Files.kindOf? place = some .program then place.getLast? else none
    | .error _ => none
  else if Files.programs.any (·.toList = name) then some name else none

/-- Some words together with so many that follow each, as long as there are any. -/
def groups (more : Nat) : List Chars → List (List Chars)
  | [] => []
  | w :: rest => (w :: rest.take more) :: groups more (rest.drop more)
termination_by ws => ws.length
decreasing_by
  rw [List.length_drop]
  exact Nat.lt_succ_of_le (Nat.sub_le _ _)

variable (start : Chars → Chars → List Chars → Run Nat)

/-- Runs the program that a program was given. -/
def runGiven (caller : String) (name : Chars) (args : List Chars) : Run Nat := do
  match reachable (← setting).directory name with
  | some found => start found name args
  | none =>
    complainAs caller (Naming.spoken name ++ ": No such file or directory".toList)
    return 127

/-- Runs a program with some variables set, and with no others if that is asked for. -/
def runWithin (args : List Chars) : Run Nat := do
  let (isEmpty, args) : Bool × List Chars :=
    match args with
    | ['-', 'i'] :: rest | ['-'] :: rest => (true, rest)
    | rest => (false, rest)
  let bindings := args.takeWhile (·.contains '=')
  match args.drop bindings.length with
  | [] => return 0
  | name :: rest =>
    let outer ← setting
    if isEmpty then update fun s => { s with exported := [] }
    bindings.forM fun b => do
      let (n, v) := Shell.binding b
      Shell.restore n v
      update fun s => { s with exported := n :: s.exported }
    let ended ← attempt (runGiven start "env" name rest)
    update fun s => { s with bindings := outer.bindings, exported := outer.exported }
    match ended with
    | .ok status => return status
    | .error stop => throw stop

/-- Runs a program that has only so many seconds. -/
def runLimited (seconds : Float) (name : Chars) (args : List Chars) : Run Nat := do
  let before ← get
  set { before with naps := 0 }
  match ← attempt (runGiven start "timeout" name args) with
  | .ok status =>
    modify fun m => { m with naps := before.naps }
    return status
  | .error (.asleep needed) =>
    if seconds < needed && 0.0 < seconds then
      modify fun m => { m with naps := before.naps, setting := before.setting }
      Run.sleep seconds
      return 124
    else
      set before
      runGiven start "timeout" name args
  | .error stop => throw stop

/-- How the input becomes arguments: how many a program gets at a time, or for which mark each item
stands; whether items end at null characters only; whether nothing runs without items, and whether
each call is told. -/
structure Batch where
  size? : Option Nat := none
  mark? : Option Chars := none
  isPlain : Bool := false
  needsItems : Bool := false
  isTold : Bool := false

/-- The options of a batch, and the command that follows them. -/
def Batch.ofArgs (b : Batch) : List Chars → Batch × List Chars
  | ['-', 'n'] :: n :: rest => ofArgs { b with size? := Shell.Signal.digitsValue? n } rest
  | ('-' :: 'n' :: n) :: rest => ofArgs { b with size? := Shell.Signal.digitsValue? n } rest
  | ['-', 'I'] :: mark :: rest => ofArgs { b with mark? := some mark } rest
  | ('-' :: 'I' :: mark) :: rest => ofArgs { b with mark? := some mark } rest
  | ['-', '0'] :: rest => ofArgs { b with isPlain := true } rest
  | ['-', 'r'] :: rest => ofArgs { b with needsItems := true } rest
  | ['-', 't'] :: rest => ofArgs { b with isTold := true } rest
  | ['-', '-'] :: rest => (b, rest)
  | rest => (b, rest)

/-- The items of a text: lines, or else words. Quotes and backslashes are taken off. They end at a
quote without its partner, which is told. -/
def items (byLine : Bool) : Option Char → Option Chars → Chars → List Chars × Option Char
  | none, item, [] => (item.toList, none)
  | some q, _, [] => ([], some q)
  | some q, item, c :: rest =>
    if c = q then items byLine none item rest
    else if c = '\n' then ([], some q)
    else items byLine (some q) (some (item.getD [] ++ [c])) rest
  | none, item, '\\' :: c :: rest => items byLine none (some (item.getD [] ++ [c])) rest
  | none, item, c :: rest =>
    if c = '\'' || c = '"' then items byLine (some c) (some (item.getD [])) rest
    else if c = '\n' || ((c = ' ' || c = '\t') && !(byLine && item.isSome)) then
      (items byLine none none rest).map (item.toList ++ ·) id
    else items byLine none (some (item.getD [] ++ [c])) rest

def itemsAtNull (t : Chars) : List Chars :=
  let parts := t.splitOn '\x00'
  if parts.getLast? = some [] then parts.dropLast else parts

/-- A text with another one in the place of a mark. -/
def fill (mark new : Chars) : Nat → Chars → Chars
  | n + 1, c :: rest =>
    if mark.isPrefixOf (c :: rest) then new ++ fill mark new n ((c :: rest).drop mark.length)
    else c :: fill mark new n rest
  | _, t => t

/-- The commands that a batch runs. -/
def Batch.commands (b : Batch) (command found : List Chars) : List (List Chars) :=
  match b.mark? with
  | some mark => found.map fun item => command.map fun a => fill mark item a.length a
  | none =>
    if found.isEmpty then if b.needsItems then [] else [command]
    else (groups (b.size?.getD found.length - 1) found).map (command ++ ·)

/-- Runs commands up to one that asks for an end. A failure of one is remembered. -/
def runAll (isTold : Bool) : List (List Chars) → Nat → Run Nat
  | [], status => return status
  | [] :: rest, status => runAll isTold rest status
  | (name :: args) :: rest, status => do
    if isTold then complain (List.intercalate [' '] (name :: args) ++ ['\n'])
    match reachable (← setting).directory name with
    | none =>
      complainAs "xargs" (name ++ ": No such file or directory".toList)
      return 127
    | some found =>
      let own ← start found name args
      if own = 255 then
        complainAs "xargs" (name ++ ": exited with status 255; aborting".toList)
        return 124
      else runAll isTold rest (if own = 0 then status else 123)

/-- Runs a program with what the input holds as its arguments. -/
def runOnInput (args : List Chars) : Run Nat := do
  let (batch, command) := Batch.ofArgs {} args
  let command := if command.isEmpty then ["echo".toList] else command
  let input ←
    match ← streamOf 0 with
    | some k => wholeStream k
    | none => pure []
  let (found, unmatched?) :=
    if batch.isPlain then (itemsAtNull input, none)
    else items batch.mark?.isSome none none input
  let status ←
    if unmatched?.isSome && found.isEmpty then pure 0
    else runAll start batch.isTold (batch.commands command found) 0
  match unmatched? with
  | none => return status
  | some q =>
    let kind := if q = '"' then "double" else "single"
    complainAs "xargs" ("unmatched ".toList ++ kind.toList ++ (" quote; by default quotes are " ++
      "special to xargs unless you use the -0 option").toList)
    return 1

/-- Runs a program that may run others. -/
def call (found : Chars) (args : List Chars) : Run Nat := do
  match String.ofList found with
  | "env" => runWithin start args
  | "timeout" =>
    match args.dropWhile isOption with
    | limit :: name :: rest => runLimited start ((interval? limit).getD 0.0) name rest
    | _ =>
      complain "Try 'timeout --help' for more information.\n"
      return 125
  | "nice" | "nohup" | "stdbuf" =>
    match args.dropWhile isOption with
    | [] => return 0
    | name :: rest => runGiven start (String.ofList found) name rest
  | "xargs" => runOnInput start args
  | _ => run found args

end LanguageClient.Utility
