import LanguageClient.Program.Shell.Glob

/-!
Fields: what words come to when everything has been put into them.
-/

namespace LanguageClient.Shell

/-- What a word is made of in the end. -/
inductive Piece where
  /-- A character, which may come from a value that is to be split. -/
  | char (c : Char) (quoted splits : Bool)
  /-- The end of a field. -/
  | gap
  | quotes
  /-- No arguments at all, where arguments were asked for. -/
  | nobody

namespace Piece

def ofText (quoted splits : Bool) (t : Chars) : List Piece := t.map fun c => .char c quoted splits

def marked : Piece → Option Marked
  | .char c quoted _ => some (c, quoted)
  | _ => none

/-- The text of pieces that are not split. -/
def text (ps : List Piece) : Chars :=
  ps.filterMap fun p =>
    match p with
    | .char c _ _ => some c
    | .gap => some ' '
    | _ => none

def isSpaceSeparator (separators : Chars) (c : Char) : Bool :=
  separators.contains c && (c = ' ' || c = '\t' || c = '\n')

/-- A field in the making, the last character first. -/
structure Draft where
  done : List Chars := []
  current? : Option Chars := none
  /-- Whether the last field ended at a blank, so that one more separator may belong to its end. -/
  atBlank : Bool := false

namespace Draft

def finish (d : Draft) : Draft :=
  match d.current? with
  | some t => { d with done := t.reverse :: d.done, current? := none, atBlank := false }
  | none => d

def extend (d : Draft) (c : Char) : Draft :=
  { d with current? := some (c :: d.current?.getD []), atBlank := false }

def add (separators : Chars) (d : Draft) : Piece → Draft
  | .quotes => { d with current? := some (d.current?.getD []), atBlank := false }
  | .nobody => d
  | .gap => d.finish
  | .char c _ splits =>
    if !splits || !separators.contains c then d.extend c
    else if isSpaceSeparator separators c then
      if d.current?.isSome then { d.finish with atBlank := true } else d
    else if d.current?.isSome then d.finish
    else if d.atBlank then { d with atBlank := false }
    else { d with done := [] :: d.done }

end Draft

/-- Nothing but quotes around arguments of which there are none. -/
def isNobody (ps : List Piece) : Bool :=
  (ps.any fun p =>
    match p with
    | .nobody => true
    | _ => false) &&
  ps.all fun p =>
    match p with
    | .nobody => true
    | .quotes => true
    | _ => false

/-- The fields that pieces come to, split at the separators. -/
def fields (separators : Chars) (ps : List Piece) : List Chars :=
  if isNobody ps && (ps.filter fun p => match p with | .quotes => true | _ => false).length ≤ 2 then
    []
  else (ps.foldl (Draft.add separators) {}).finish.done.reverse

end Piece

/-! Lines that are read into variables -/

/-- The characters of a line; a backslash makes the next one plain, unless it counts as itself. -/
def lineMarks (raw : Bool) : Chars → List Marked
  | '\\' :: c :: rest =>
    if raw then ('\\', false) :: lineMarks raw (c :: rest) else (c, true) :: lineMarks raw rest
  | c :: rest => (c, false) :: lineMarks raw rest
  | [] => []

/-- Separators at the front. -/
def dropBlanks (separators : Chars) (ms : List Marked) : List Marked :=
  ms.dropWhile fun m => !m.2 && Piece.isSpaceSeparator separators m.1

def trimBlanks (separators : Chars) (ms : List Marked) : List Marked :=
  (dropBlanks separators (dropBlanks separators ms).reverse).reverse

/-- The first field of a line and what follows its end. -/
def cutField (separators : Chars) (ms : List Marked) : List Marked × List Marked :=
  let isEnd (m : Marked) := !m.2 && separators.contains m.1
  let field := ms.takeWhile (!isEnd ·)
  let rest := dropBlanks separators (ms.drop field.length)
  match rest with
  | m :: more =>
    if isEnd m then (field, dropBlanks separators more) else (field, rest)
  | [] => (field, [])

/-- The last field takes all that is left, but not a single separator at its end. -/
def lastField (separators : Chars) (ms : List Marked) : List Marked :=
  let trimmed := trimBlanks separators ms
  match cutField separators trimmed with
  | (field, []) => field
  | _ => trimmed

/-- The values that a line gives to so many variables. -/
def readFields (separators : Chars) : Nat → List Marked → List Chars
  | 0, _ => []
  | 1, ms => [(lastField separators ms).map (·.1)]
  | n + 2, ms =>
    let (field, rest) := cutField separators (dropBlanks separators ms)
    field.map (·.1) :: readFields separators (n + 1) rest

end LanguageClient.Shell
