import LanguageClient.Program.Utility.Call

/-!
What programs read: the lines of texts, streams, and files that are named.
-/

namespace LanguageClient.Utility

open Run

/-! Lines -/

/-- The lines of a text, each with its line feed if it has one. -/
def lines (t : Chars) : List Chars :=
  let pieces := Chars.splitAt '\n' t
  (pieces.dropLast.map (· ++ newline)) ++
    match pieces.getLast? with
    | some [] | none => []
    | some last => [last]

def withoutFeed (line : Chars) : Chars := if line.getLast? = some '\n' then line.dropLast else line

/-! Reading -/

/-- Copies a stream as it comes. -/
def copyUpTo (k : Nat) : Nat → Run Unit
  | 0 => pure ()
  | fuel + 1 => do
    match ← nextChunk k with
    | some c => say c; copyUpTo k fuel
    | none => pure ()

def copyStream (k : Nat) : Run Unit := do copyUpTo k ((← stream k).chunks.length + 1)

/-- The text of a file that is named, or of the input. -/
def textOf (name : String) (trouble : Chars → Chars) (path : Chars) : Run (Option Chars) := do
  if path = ['-'] then
    match ← streamOf 0 with
    | some k => return some (← wholeStream k)
    | none => return some []
  match ← openFile path with
  | .text t => return some t
  | .input k => return some (← wholeStream k)
  | .directory =>
    complainAs name (Naming.shown path ++ ": Is a directory".toList)
    return none
  | .missing =>
    complainAs name (trouble path ++ ": No such file or directory".toList)
    return none
  | .notADirectory => complainAs name (trouble path ++ ": Not a directory".toList); return none

/-- Does something with the text of each file, or of the input if none is named. -/
def withTexts (name : String) (trouble : Chars → Chars) (paths : List Chars)
    (use : Chars → Run Unit) : Run Nat := do
  let paths := if paths.isEmpty then [['-']] else paths
  paths.foldlM (fun status path => do
    match ← textOf name trouble path with
    | some t => use t; return status
    | none => return 1) 0

def plainTrouble (path : Chars) : Chars := Naming.shown path

def openTrouble (path : Chars) : Chars :=
  "cannot open ".toList ++ Naming.quoted path ++ " for reading".toList

end LanguageClient.Utility
