import LanguageClient.Program.Listing
import LanguageClient.Program.Utility.Input

/-!
Programs that hand on what they read, or the two ends of it.
-/

namespace LanguageClient.Utility

open Run

def catOptions : Options where
  letters := "benstuvAET".toList
  named := [("number-nonblank", 'b'), ("number", 'n'), ("squeeze-blank", 's'),
    ("show-nonprinting", 'v'), ("show-ends", 'E'), ("show-tabs", 'T'), ("show-all", 'A')]

def listing (letters : Chars) : Listing where
  numbers := letters.contains 'n' || letters.contains 'b'
  onlyFilled := letters.contains 'b'
  squeezes := letters.contains 's'
  ends := letters.any ['A', 'e', 'E'].contains
  tabs := letters.any ['A', 't', 'T'].contains
  hidden := letters.any ['A', 'e', 't', 'v'].contains

/-- Lists a stream as it comes. -/
def listUpTo (l : Listing) (k : Nat) : Nat → Listing.Progress → Run Listing.Progress
  | 0, p => return p
  | fuel + 1, p => do
    match ← nextChunk k with
    | some c =>
      let (t, p) := l.text p c
      say t
      listUpTo l k fuel p
    | none => return p

def listStream (l : Listing) (k : Nat) (p : Listing.Progress) : Run Listing.Progress := do
  if l.isPlain then
    copyStream k
    return p
  else listUpTo l k ((← stream k).chunks.length + 1) p

/-- Lists files after each other. -/
def listAll (l : Listing) : List Chars → Listing.Progress → Nat → Run (Listing.Progress × Nat)
  | [], p, status => return (p, status)
  | path :: rest, p, status => do
    let input ← streamOf 0
    let opened ←
      match path, input with
      | ['-'], some k => pure (.input k)
      | ['-'], none => pure .missing
      | path, _ => openFile path
    match opened with
    | .input k => listAll l rest (← listStream l k p) status
    | .text t =>
      let (t, p) := l.text p t
      say t
      listAll l rest p status
    | .directory =>
      complainAs "cat" (Naming.shown path ++ ": Is a directory".toList)
      listAll l rest p 1
    | .notADirectory =>
      complainAs "cat" (Naming.shown path ++ ": Not a directory".toList)
      listAll l rest p 1
    | .missing =>
      complainAs "cat" (Naming.shown path ++
        (if path = ['-'] then ": Bad file descriptor" else ": No such file or directory").toList)
      listAll l rest p 1

def cat (args : List Chars) : Run Nat := do
  match catOptions.read {} args with
  | .error text => misused "cat" text
  | .ok call =>
    let paths := if call.operands.isEmpty then [['-']] else call.operands
    let (p, status) ← listAll (listing call.letters) paths {} 0
    if p.returns then say ['\r']
    if (← channel? 0).isNone && paths.contains ['-'] then
      complain "cat: closing standard input: Bad file descriptor\n"
    return status

/-- The beginning of a stream: so many lines, or characters. What arrived together with the last of
the lines is lost. -/
def beginning (k : Nat) (byLines : Bool) : Nat → Nat → Run Chars
  | 0, _ => return []
  | fuel + 1, left => do
    if left = 0 then return []
    match ← nextChunk k with
    | none => return []
    | some c =>
      if byLines then
        let part := (lines c).take left
        let whole := (part.filter fun l => l.getLast? = some '\n').length
        return part.flatten ++ (← beginning k byLines fuel (left - whole))
      else
        let s ← stream k
        if left < c.length then setStream k { s with chunks := c.drop left :: s.chunks }
        return c.take left ++ (← beginning k byLines fuel (left - c.length))

/-- A count that options give, and the other arguments. -/
def countOption (byLines : Bool) (count : Nat) : List Chars → Option (Bool × Nat × List Chars)
  | ['-', 'n'] :: n :: rest => do countOption true (← natOf? n) rest
  | ['-', 'c'] :: n :: rest => do countOption false (← natOf? n) rest
  | ('-' :: 'n' :: n) :: rest => do countOption true (← natOf? n) rest
  | ('-' :: 'c' :: n) :: rest => do countOption false (← natOf? n) rest
  | ('-' :: d :: n) :: rest => do countOption true (← natOf? (d :: n)) rest
  | rest => some (byLines, count, rest)

def head (args : List Chars) : Run Nat := do
  match countOption true 10 args with
  | none => invalidOption "head" (args.headD [])
  | some (byLines, count, []) =>
    if let some k ← streamOf 0 then
      say (← beginning k byLines ((← stream k).chunks.length + 1) count)
    return 0
  | some (byLines, count, paths) =>
    withTexts "head" openTrouble paths fun t =>
      say (if byLines then ((lines t).take count).flatten else t.take count)

def tail (args : List Chars) : Run Nat := do
  match countOption true 10 args with
  | none => invalidOption "tail" (args.headD [])
  | some (byLines, count, paths) =>
    withTexts "tail" openTrouble paths fun t =>
      let ls := lines t
      say (if byLines then (ls.drop (ls.length - count)).flatten else t.drop (t.length - count))

/-- Copies the input to the output and into files. -/
def tee (args : List Chars) : Run Nat := do
  let adds := args.contains "-a".toList
  let mut outlets : List Outlet := []
  let mut status := 0
  for path in args.filter (!isOption ·) do
    match ← openOutlet adds path with
    | .ok o => outlets := outlets ++ [o]
    | .error why =>
      status := 1
      complainAs "tee" (Naming.shown path ++
        match why with
        | .missing => ": No such file or directory".toList
        | .notADirectory => ": Not a directory".toList
        | .isDirectory => ": Is a directory".toList)
  if let some k ← streamOf 0 then teeUpTo k outlets ((← stream k).chunks.length + 1)
  return status
where
  teeUpTo (k : Nat) (outlets : List Outlet) : Nat → Run Unit
    | 0 => pure ()
    | fuel + 1 => do
      match ← nextChunk k with
      | some c =>
        say c
        outlets.forM fun o => toOutlet o c
        teeUpTo k outlets fuel
      | none => pure ()

end LanguageClient.Utility
