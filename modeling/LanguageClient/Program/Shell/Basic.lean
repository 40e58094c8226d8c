import LanguageClient.Program.Files

/-!
Scripts of a shell: words with their quotes and what is put into them, and commands made of words.
-/

namespace LanguageClient.Shell

/-- What is made of the value of a variable. Where it says `emptyToo`, an empty value counts as one
that is not there. -/
inductive Change where
  | asIs
  | length
  | fallback (emptyToo : Bool) (word : Chars)
  | assigned (emptyToo : Bool) (word : Chars)
  | demanded (emptyToo : Bool) (word : Chars)
  | replaced (emptyToo : Bool) (word : Chars)
  /-- Without the piece at one end that fits a pattern. -/
  | cut (atEnd longest : Bool) (pattern : Chars)
  | bad

inductive Part where
  | char (c : Char) (quoted : Bool)
  | variable (name : Chars) (quoted : Bool) (change : Change)
  /-- What a script writes, whose lines are those of the script around it or count from one. -/
  | output (script : Chars) (quoted inPlace : Bool)
  | arithmetic (text : Chars) (quoted : Bool)
  /-- Quotes make a word even of nothing. -/
  | quotes

abbrev Word := List Part

inductive Way where
  | write
  | append
  | read
  | readWrite
  | copy
  /-- The word is the text that is read. -/
  | here
deriving DecidableEq

structure Redirect where
  channel : Nat
  way : Way
  target : Word

inductive Command where
  | simple (line : Nat) (assignments : List (Chars × Word)) (words : List Word)
      (redirects : List Redirect)
  | pipe (members : List Command)
  | negated (a : Command)
  | onSuccess (a b : Command)
  | onFailure (a b : Command)
  | next (a b : Command)
  | background (a : Command)
  | apart (a : Command)
  | redirected (line : Nat) (a : Command) (redirects : List Redirect)
  | branch (test a : Command) (b : Option Command)
  | loop (expected : Bool) (test body : Command)
  /-- Without a list of words the arguments are taken. -/
  | each (line : Nat) (name : Chars) (words : Option (List Word)) (body : Command)
  | choose (line : Nat) (word : Word) (branches : List (List Word × Option Command))
  | define (name : Chars) (body : Command)

/-- A script that cannot be read. -/
structure Mistake where
  line : Nat
  text : Chars

def isNameStart (c : Char) : Bool := c.isAlpha || c = '_'

def isNameChar (c : Char) : Bool := c.isAlphanum || c = '_'

def isName : Chars → Bool
  | [] => false
  | c :: rest => isNameStart c && rest.all isNameChar

/-- The text of a word without quotes, in which nothing is put. -/
def bareText? (w : Word) : Option Chars :=
  w.mapM fun p =>
    match p with
    | .char c false => some c
    | _ => none

def reserved : List String :=
  ["!", "case", "do", "done", "elif", "else", "esac", "fi", "for", "if", "in", "then", "until",
    "while", "\x7b", "\x7d"]

/-- The reserved word that a word is. -/
def reserved? (w : Word) : Option Chars :=
  match bareText? w with
  | some t => if reserved.any (·.toList = t) then some t else none
  | none => none

/-- A word that gives a variable its value. -/
def assignment? (w : Word) : Option (Chars × Word) :=
  let front := w.takeWhile fun p =>
    match p with
    | .char c false => c ≠ '='
    | _ => false
  match bareText? front, w.drop front.length with
  | some name, .char _ false :: value => if isName name then some (name, value) else none
  | _, _ => none

end LanguageClient.Shell
