import LanguageClient.Program.Utility.Copying
import LanguageClient.Program.Utility.Filter

/-!
Programs that a machine has besides its shell. A program takes its arguments, works on its channels
and gives a status.
-/

namespace LanguageClient.Utility

open Run

def seqFrom (step last : Int) : Nat → Int → List Int
  | 0, _ => []
  | fuel + 1, n =>
    if (0 < step && last < n) || (step < 0 && n < last) then []
    else n :: seqFrom step last fuel (n + step)

def seq (args : List Chars) : Run Nat := do
  let numbers := args.map fun a => (Shell.Writing.numberOf a).1
  let print (first step last : Int) : Run Nat := do
    let count := ((last - first).natAbs / max 1 step.natAbs) + 1
    say ((seqFrom step last count first).flatMap fun n => Shell.Arithmetic.intText n ++ newline)
    return 0
  match args.find? fun a => !(Shell.Writing.numberOf a).2, numbers with
  | some a, _ => misused "seq" ("invalid floating point argument: ".toList ++ Naming.spoken a)
  | none, [last] => print 1 1 last
  | none, [first, last] => print first 1 last
  | none, [first, step, last] => print first step last
  | none, [] => misused "seq" "missing operand"
  | none, _ => misused "seq" ("extra operand ".toList ++ Naming.spoken (args.getD 3 []))

def units : List (Char × Float) := [('s', 1.0), ('m', 60.0), ('h', 3600.0), ('d', 86400.0)]

/-- A decimal number of seconds, or of another unit that its last letter names. -/
def interval? (t : Chars) : Option Float :=
  if t = "infinity".toList || t = "inf".toList then some (1.0 / 0.0)
  else
    match Shell.Writing.cutDecimal? t with
    | some (x, []) => if x < 0.0 then none else some x
    | some (x, [c]) => if x < 0.0 then none else (units.lookup c).map (x * ·)
    | _ => none

def noOptions : Options := ⟨[], [("help", 'h'), ("version", 'v')]⟩

def sleep (args : List Chars) : Run Nat := do
  match noOptions.read {} args with
  | .error text => misused "sleep" text
  | .ok call =>
    if !call.letters.isEmpty then return 0
    match call.operands, call.operands.filter fun a => (interval? a).isNone with
    | [], _ => misused "sleep" "missing operand"
    | _, a :: more =>
      (a :: more).forM fun a =>
        complainAs "sleep" ("invalid time interval ".toList ++ Naming.spoken a)
      complain "Try 'sleep --help' for more information.\n"
      return 1
    | operands, [] =>
      Run.sleep ((operands.filterMap interval?).foldl (· + ·) 0.0)
      return 0

def baseName (path : Chars) : Chars :=
  let trimmed := (path.reverse.dropWhile (· = '/')).reverse
  if trimmed.isEmpty && !path.isEmpty then ['/'] else (trimmed.reverse.takeWhile (· ≠ '/')).reverse

def dirName (path : Chars) : Chars :=
  let trimmed := (path.reverse.dropWhile (· = '/')).reverse
  let parent := ((trimmed.reverse.dropWhile (· ≠ '/')).dropWhile (· = '/')).reverse
  if !trimmed.contains '/' then (if trimmed.isEmpty && !path.isEmpty then ['/'] else ['.'])
  else if parent.isEmpty then ['/'] else parent

def sayLine (t : Chars) : Run Nat := do
  say (t ++ newline)
  return 0

def remove (args : List Chars) : Run Nat := do
  let letters := ((args.filter isOption).map (·.drop 1)).flatten
  (args.filter (!isOption ·)).foldlM (fun status path => do
    let full ← pathOf path
    if (← fileText? full).isSome then
      modify fun m => { m with files := m.files.filter (·.1 ≠ full) }
      return status
    else if letters.contains 'f' then return status
    else
      complainAs "rm"
        ("cannot remove ".toList ++ Naming.quoted path ++ ": No such file or directory".toList)
      return 1) 0

def touch (args : List Chars) : Run Nat := do
  args.forM fun path => do
    let full ← pathOf path
    setFile full ((← fileText? full).getD [])
  return 0

/-- Lines without end; more of them than these are never read. -/
def yes (args : List Chars) : Run Nat := do
  let line := (if args.isEmpty then ['y'] else List.intercalate [' '] args) ++ newline
  say (List.replicate 10000 line).flatten
  return 0

/-- The truth of a condition as a status. In brackets it ends with the closing one. -/
def condition (bracketed : Bool) (complains : Chars → Run Unit) (args : List Chars) : Run Nat := do
  if bracketed && args.getLast? ≠ some [']'] then
    complains "missing ]"
    return 2
  let words := if bracketed then args.dropLast else args
  match Shell.Condition.holds (look (← get)) words with
  | .ok holds => return if holds then 0 else 1
  | .error problem =>
    complains problem.text
    return 2

def printf (complains : Chars → Run Unit) (args : List Chars) : Run Nat := do
  match args with
  | [] =>
    complains "usage: printf format [arg ...]"
    return 2
  | format :: args =>
    let flow := Shell.Writing.printf format args
    flow.problems.forM complains
    say flow.text
    match flow.invalid? with
    | some [] =>
      complains "missing format character"
      return 2
    | some directive =>
      complains (directive ++ ": invalid directive".toList)
      return 2
    | none => return if flow.problems.isEmpty then 0 else 1

/-- Where programs of some names are found; all of them have to be. -/
def which (args : List Chars) : Run Nat := do
  let isKnown (name : Chars) : Bool := Files.programs.any (·.toList = name)
  args.forM fun a => do if isKnown a then say ("/usr/bin/".toList ++ a ++ newline)
  return if !args.isEmpty && args.all isKnown then 0 else 1

/-- Runs a program by its name. -/
def run (name : Chars) (args : List Chars) : Run Nat := do
  let shown := String.ofList name
  match shown with
  | "cat" => cat args
  | "head" => head args
  | "tail" => tail args
  | "wc" => wc args
  | "tr" => tr args
  | "sort" => sort args
  | "uniq" => uniq args
  | "tac" => reversed "tac" List.reverse args
  | "rev" => reversed "rev" (List.map mirrored) args
  | "grep" => grep args
  | "cut" => cut args
  | "seq" => seq args
  | "sleep" => sleep args
  | "tee" => tee args
  | "basename" =>
    match args with
    | [] => misused "basename" "missing operand"
    | [a] => sayLine (baseName a)
    | a :: suffix :: _ =>
      let b := baseName a
      sayLine (if b ≠ suffix && suffix.reverse.isPrefixOf b.reverse then
        b.take (b.length - suffix.length) else b)
  | "dirname" =>
    match args with
    | [] => misused "dirname" "missing operand"
    | a :: _ => sayLine (dirName a)
  | "rm" => remove args
  | "touch" => touch args
  | "yes" => yes args
  | "which" => which args
  | "pwd" => sayLine ('/' :: Files.written (← setting).directory)
  | "whoami" => sayLine "root"
  | "uname" => sayLine "Linux"
  | "echo" =>
    say (Shell.Writing.plainEcho args)
    return 0
  | "printf" => printf (complainAs "printf") args
  | "test" => condition false (complainAs "test") args
  | "[" => condition true (complainAs "[") args
  | "false" => return 1
  | _ => return 0

end LanguageClient.Utility
