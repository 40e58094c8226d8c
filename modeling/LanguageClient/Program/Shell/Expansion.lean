import LanguageClient.Program.Shell.Builtin

/-!
Words and the values, arguments and outputs of scripts that they name. How the output of a script
comes about is given from outside.
-/

namespace LanguageClient.Shell

open Run

/-! Parts of words -/

def isMissing (emptyToo : Bool) : Option Chars → Bool
  | none => true
  | some v => emptyToo && v.isEmpty

/-- The arguments as they stand in a word. -/
def argumentPieces (name : Chars) (quoted : Bool) : Run (List Piece) := do
  let args := (← setting).args
  if quoted && name = ['*'] then
    let joint :=
      match ← value? "IFS" with
      | none => [' ']
      | some t => t.take 1
    return Piece.ofText true false (List.intercalate joint args)
  else if args.isEmpty then return if quoted then [.nobody] else []
  else
    return List.intercalate [.gap] (args.map fun a =>
      (if quoted then [Piece.quotes] else []) ++ Piece.ofText quoted (!quoted) a)

/-- An unquoted text that took the place of a value is split like one. -/
def splitting (quoted : Bool) (ps : List Piece) : List Piece :=
  if quoted then ps
  else ps.map fun p =>
    match p with
    | .char c false _ => .char c false true
    | p => p

def joinWords (ws : List Chars) : Chars := List.intercalate [' '] ws

def withoutFeeds (t : Chars) : Chars := (t.reverse.dropWhile (· = '\n')).reverse

/-- The directories of users. -/
def homes : List (String × String) :=
  [("root", "/root"), ("daemon", "/usr/sbin"), ("bin", "/bin"), ("sys", "/dev"), ("sync", "/bin"),
    ("games", "/usr/games"), ("man", "/var/cache/man"), ("lp", "/var/spool/lpd"),
    ("mail", "/var/mail"), ("news", "/var/spool/news"), ("uucp", "/var/spool/uucp"),
    ("proxy", "/bin"), ("www-data", "/var/www"), ("backup", "/var/backups"),
    ("list", "/var/list"), ("nobody", "/nonexistent")]

/-- A tilde at the front stands for the directory of a user, whose name ends at a slash; where a
value is given, also at a colon. -/
def homeWord (inValue : Bool) (home? : Option Chars) (w : Word) : Word :=
  match w with
  | .char '~' false :: rest =>
    let name := rest.takeWhile fun p =>
      match p with
      | .char c false => c ≠ '/' && !(inValue && c = ':')
      | _ => false
    let ends :=
      match rest.drop name.length with
      | [] => true
      | .char _ false :: _ => true
      | _ => false
    let directory? : Option Chars :=
      match bareText? name with
      | some [] => home?
      | some t => (homes.find? fun (h : String × String) => h.1.toList = t).map fun h => h.2.toList
      | none => none
    match ends, directory? with
    | true, some d => d.map (Part.char · true) ++ rest.drop name.length
    | _, _ => w
  | w => w

/-- In a value a tilde counts after each colon, too. -/
def homeValue (home? : Option Chars) : Word → Word
  | .char ':' false :: rest => .char ':' false :: homeWord true home? (homeValue home? rest)
  | p :: rest => p :: homeValue home? rest
  | [] => []

def arithmeticProblem (text : Chars) : Arithmetic.Problem → Chars
  | .illegalNumber t => (Arithmetic.Problem.illegalNumber t).text
  | p => "arithmetic expression: ".toList ++ p.text ++ ": \"".toList ++ text ++ ['"']

variable (substitute : Bool → Chars → Run Chars)

/-- The pieces of a part of a word. Words inside it are expanded in the same way. -/
def expandPart : Nat → Part → Run (List Piece)
  | 0, _ => throw .hungry
  | fuel + 1, part => do
    let pieces (quoted : Bool) (w : Chars) : Run (List Piece) := do
      return (← (allParts (.whole quoted) w).mapM (expandPart fuel)).flatten
    let text (quoted : Bool) (w : Chars) : Run Chars := do
      let w := homeWord false (← value? "HOME") (allParts (.whole quoted) w)
      return Piece.text (← w.mapM (expandPart fuel)).flatten
    match part with
    | .char c quoted => return [.char c quoted false]
    | .quotes => return [.quotes]
    | .output script quoted inPlace =>
      let written ← substitute inPlace script
      return Piece.ofText quoted (!quoted) (withoutFeeds written)
    | .arithmetic term quoted =>
      let term ← text true term
      let old := (← setting).bindings
      match Arithmetic.run old term with
      | .error p => fatal (arithmeticProblem term p)
      | .ok (n, new) =>
        (new.take (new.length - old.length)).reverse.forM fun (name, v) => assign name v
        return Piece.ofText quoted (!quoted) (Arithmetic.intText n)
    | .variable name quoted change =>
      let isList := name = ['@'] || name = ['*']
      let value ←
        if isList then
          let args := (← setting).args
          pure (if args.isEmpty then none else some (joinWords args))
        else parameter? name
      if value.isNone && !isList && (← setting).isOn 'u' then
        match change with
        | .asIs | .length | .cut .. => fatal (name ++ ": parameter not set".toList)
        | _ => pure ()
      let same : Run (List Piece) :=
        if isList then argumentPieces name quoted
        else return Piece.ofText quoted (!quoted) (value.getD [])
      let other (w : Chars) : Run (List Piece) := return splitting quoted (← pieces quoted w)
      match change with
      | .asIs => same
      | .length => return Piece.ofText quoted (!quoted) (natChars (value.getD []).length)
      | .fallback emptyToo w => if isMissing emptyToo value then other w else same
      | .replaced emptyToo w => if isMissing emptyToo value then return [] else other w
      | .assigned emptyToo w =>
        if isMissing emptyToo value then
          let new ← text quoted w
          assign name new
          return Piece.ofText quoted (!quoted) new
        else same
      | .demanded emptyToo w =>
        if isMissing emptyToo value then
          let why : Chars ←
            if w.isEmpty then
              pure ("parameter not set".toList ++ if emptyToo then " or null".toList else [])
            else text quoted w
          fatal (name ++ ": ".toList ++ why)
        else same
      | .cut atEnd longest w =>
        let pattern := (← pieces false w).filterMap Piece.marked
        return Piece.ofText quoted (!quoted) (Glob.cut atEnd longest pattern (value.getD []))
      | .bad => fatal "Bad substitution"

def expandParts (fuel : Nat) (w : Word) : Run (List Piece) :=
  return (← w.mapM (expandPart substitute fuel)).flatten

/-- A word that is not split. -/
def expandText (fuel : Nat) (w : Word) : Run Chars := do
  let home? ← value? "HOME"
  return Piece.text (← expandParts substitute fuel (homeWord false home? w))

/-- A word that becomes the value of a variable. -/
def expandValue (fuel : Nat) (w : Word) : Run Chars := do
  let home? ← value? "HOME"
  return Piece.text (← expandParts substitute fuel (homeWord true home? (homeValue home? w)))

/-- The arguments that words stand for. -/
def expandFields (fuel : Nat) (ws : List Word) : Run (List Chars) := do
  let home? ← value? "HOME"
  let each ← ws.mapM fun w => do
    let pieces ← expandParts substitute fuel (homeWord false home? w)
    return Piece.fields (← separators) pieces
  return each.flatten

/-- The first of the commands that has a pattern of the text. -/
def chosen (fuel : Nat) (text : Chars) : List (List Word × Option Command) → Run (Option Command)
  | [] => return none
  | (patterns, body) :: rest => do
    let fit ← patterns.anyM fun w => do
      return Glob.fits ((← expandParts substitute fuel w).filterMap Piece.marked) text
    if fit then return body else chosen fuel text rest

/-- Leads channels elsewhere, one after the other, up to one for which that cannot be done. -/
def redirectAll (fuel : Nat) : List Redirect → Run (Option Chars)
  | [] => return none
  | r :: rest => do
    let target ← expandText substitute fuel r.target
    match ← redirect r.channel r.way target with
    | some why => return some why
    | none => redirectAll fuel rest

/-- Gives variables their values, one after the other, and tells what they were before. -/
def assignAll (fuel : Nat) (assignments : List (Chars × Word)) :
    Run (List (Chars × Chars × Option Chars)) :=
  assignments.mapM fun (name, w) => do
    let value ← expandValue substitute fuel w
    let old ← value? name
    assign name value
    return (name, value, old)

end LanguageClient.Shell
