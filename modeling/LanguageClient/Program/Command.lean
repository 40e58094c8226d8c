import LanguageClient.Json.Access
import LanguageClient.Program.Files

/-!
Commands that start servers: how they are written for a shell, and why they cannot be started.
-/

namespace LanguageClient.Program

def isSafe (c : CodePoint) : Bool :=
  c.isAsciiLetter || c.isDigit ||
    (['_', '@', '%', '+', '=', ':', ',', '.', '/', '-'] : List Char).any fun d => c = d

/-- A single quote cannot stand inside single quotes, but inside double ones. -/
def quotePoint (c : CodePoint) : Text := if c = '\'' then "'\"'\"'" else [c]

def quoteWord (t : Text) : Text :=
  if t.isEmpty then "''"
  else if t.all isSafe then t
  else "'" ++ t.flatMap quotePoint ++ "'"

/-- Empty values are written as an empty word. -/
def word (v : Json) : Checked Text :=
  match v with
  | .text t => .ok (quoteWord t)
  | v => if v.holds then .error .wrongType else .ok (quoteWord [])

def written (command : Json) : Checked Text := do
  return Text.joinWith " " (← (← command.elements).mapM word)

/-- The words of a command; a text is the only word. -/
def words (command : Json) : Checked (List Text) :=
  match command with
  | .text t => .ok [t]
  | v => do
    (← v.elements).mapM fun w =>
      match w with
      | .text t => .ok t
      | _ => .error .wrongType

/-- The first run of surrogates that no byte of a file name stands for, given by its place and its
members. -/
def surrogates? (before : Nat) : Text → Option (Nat × Text)
  | [] => none
  | c :: rest =>
    if c.isSurrogate && !c.within 0xDC80 0xDCFF then
      some (before, c :: rest.takeWhile CodePoint.isSurrogate)
    else surrogates? (before + 1) rest

/-- What is wrong with a text that holds surrogates. -/
def surrogateProblem (place : Nat) (run : Text) : Text :=
  let what : Text :=
    match run with
    | [c] => "character '\\u" ++ Text.hex 4 c.val ++ "' in position " ++ Text.ofNat place
    | _ =>
      "characters in position " ++ Text.ofNat place ++ "-" ++ Text.ofNat (place + run.length - 1)
  "'utf-8' codec can't encode " ++ what ++ ": surrogates not allowed"

/-- Why the words cannot be handed to a program. -/
def wordProblem? (words : List Text) : Option Text :=
  words.findSome? fun w =>
    match surrogates? 0 w with
    | some (place, run) => some (surrogateProblem place run)
    | none => if w.any fun c => c.val = 0 then some "embedded null byte" else none

/-- Why a command cannot be started. -/
def problem? (words : List Text) : Option Text :=
  match wordProblem? words, words with
  | some text, _ => some text
  | none, executable :: _ =>
    (Files.refusal? (Chars.ofText executable)).map fun r =>
      r.text ++ ": " ++ Quoted.text executable
  | none, [] => none

end LanguageClient.Program
