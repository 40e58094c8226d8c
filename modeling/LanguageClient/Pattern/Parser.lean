import LanguageClient.Pattern.Count
import LanguageClient.Pattern.Escape
import LanguageClient.Text.Name

/-!
Reading patterns.
-/

namespace LanguageClient.Pattern

namespace Flags

inductive Letter where
  | caseless
  | lines
  | lineFeed
  | spaced
  | ascii
  | unicode
  /-- Nothing is repeated. The flag is for whole patterns only. -/
  | template
deriving DecidableEq

def letter? (c : CodePoint) : Option Letter :=
  if c = 'i' then some .caseless
  else if c = 'm' then some .lines
  else if c = 's' then some .lineFeed
  else if c = 'x' then some .spaced
  else if c = 'a' then some .ascii
  else if c = 'u' then some .unicode
  else if c = 't' then some .template
  else none

def Letter.put (on : Bool) (flags : Flags) : Letter → Flags
  | caseless => { flags with caseless := on }
  | lines => { flags with lines := on }
  | lineFeed => { flags with lineFeed := on }
  | spaced => { flags with spaced := on }
  | ascii => { flags with ascii := on }
  | unicode => { flags with ascii := !on }
  | template => flags

/-- The flags of a group: those that it sets, those that it clears, and whether they are meant for
what follows the group instead. -/
structure Change where
  sets : List Letter
  clears : List Letter
  isGlobal : Bool

def letters? (t : Text) : Option (List Letter) := t.mapM letter?

/-- Reads flags up to the sign that ends them. -/
def change? (s : Text) : Option (Change × Text) := do
  let (on, rest) := s.span CodePoint.isAsciiLetter
  let sets ← letters? on
  if sets.contains .ascii && sets.contains .unicode then none
  match rest with
  | [] => none
  | c :: rest =>
    if c = ')' && !sets.isEmpty then return (⟨sets, [], true⟩, rest)
    if sets.contains .template then none
    if c = ':' && !sets.isEmpty then return (⟨sets, [], false⟩, rest)
    if c ≠ '-' then none
    let (off, rest) := rest.span CodePoint.isAsciiLetter
    let clears ← letters? off
    if clears.isEmpty || rest.head? ≠ some ':' then none
    if clears.any (fun l => l == .ascii || l == .unicode || l == .template) then none
    if sets.any clears.contains then none
    return (⟨sets, clears, false⟩, rest.drop 1)

def Change.apply (change : Change) (flags : Flags) : Flags :=
  change.clears.foldl (Letter.put false) (change.sets.foldl (Letter.put true) flags)

end Flags

/-- What has been read so far: what is left of the pattern, the flags in force, and the groups. -/
structure Reading where
  rest : Text
  flags : Flags := {}
  /-- Groups within groups. -/
  depth : Nat := 0
  /-- The widths of the groups from the first one on; an open group has none yet. -/
  groups : List (Option Width) := []
  names : List (Text × Nat) := []
  /-- The groups that are asked for again. -/
  asked : List Nat := []
  /-- Inside a pattern that looks back, the number of groups in front of it. -/
  lookedFrom? : Option Nat := none
  /-- Whether a pattern that looks back has no fixed width. -/
  isUneven : Bool := false
  /-- The flags that are set for the whole pattern. -/
  whole : List Flags.Letter := []

abbrev Reader := StateT Reading Checked

namespace Reading

def bad {α : Type} : Reader α := throw .badPattern

def rest' : Reader Text := return (← get).rest

def setRest (rest : Text) : Reader Unit := modify fun r => { r with rest }

def next : Reader CodePoint := do
  match ← rest' with
  | c :: rest => setRest rest; return c
  | [] => bad

/-- Takes `c` if it comes next. -/
def accept (c : CodePoint) : Reader Bool := do
  match ← rest' with
  | d :: rest => if c = d then setRest rest; return true else return false
  | [] => return false

def expect (c : CodePoint) : Reader Unit := do
  if !(← accept c) then bad

/-- The text before `c`, which has to follow and is taken too. -/
def upTo (c : CodePoint) : Reader Text := do
  match Text.cutAt c (← rest') with
  | some (t, rest) => setRest rest; return t
  | none => bad

def onText {α : Type} (f : Text → Checked (α × Text)) : Reader α := do
  let (a, rest) ← f (← rest')
  setRest rest
  return a

/-- Groups may be nested so deeply. -/
def depthLimit : Nat := 490

/-- Reads what is inside a group; flags that change there change nowhere else. -/
def inside {α : Type} (read : Reader α) : Reader α := do
  let outer ← get
  if depthLimit ≤ outer.depth then throw .nestedTooDeep
  set { outer with depth := outer.depth + 1 }
  let a ← read
  modify fun r => { r with depth := outer.depth, flags := outer.flags }
  return a

def isClosed (r : Reading) (number : Nat) : Bool :=
  match r.groups[number - 1]? with
  | some (some _) => true
  | _ => false

def widthOf (r : Reading) (number : Nat) : Width :=
  (r.groups.getD (number - 1) none).getD (0, some 0)

/-- Opens the next group, whose name must be new. -/
def openGroup (name? : Option Text) : Reader Nat := do
  let r ← get
  let number := r.groups.length + 1
  let names ← match name? with
    | some name => if (r.names.lookup name).isSome then bad else pure (r.names ++ [(name, number)])
    | none => pure r.names
  set { r with groups := r.groups ++ [none], names }
  return number

def closeGroup (number : Nat) (a : Pattern) : Reader Unit :=
  modify fun r => { r with groups := r.groups.set (number - 1) (some (a.width r.widthOf)) }

/-- A pattern that looks back may only ask for groups that end in front of it. -/
def ask (number : Nat) : Reader Unit := do
  let r ← get
  if let some front := r.lookedFrom? then
    if !r.isClosed number || front < number then bad
  set { r with asked := number :: r.asked }

def askAgain (number : Nat) : Reader Pattern := do
  let r ← get
  if !r.isClosed number then bad
  ask number
  return .again r.flags.letters number

def groupName (closing : CodePoint) : Reader Text := do
  let name ← upTo closing
  if name.isName then return name else bad

def numberOf (name : Text) : Reader Nat := do
  match (← get).names.lookup name with
  | some number => return number
  | none => bad

/-- What follows the first `c` without a backslash. -/
def beyond? (c : CodePoint) : Text → Checked (Option Text)
  | [] => .ok none
  | d :: rest =>
    if d = c then .ok (some rest)
    else if d = '\\' then
      match rest with
      | [] => .error .badPattern
      | _ :: rest => beyond? c rest
    else beyond? c rest

/-- The group that a condition names. -/
def condition : Reader Nat := do
  let name ← upTo ')'
  let number ←
    if name.isName then numberOf name
    else match Number.integer? name with
      | some (.ofNat (n + 1)) => pure (n + 1)
      | _ => bad
  ask number
  return number

end Reading

/-- A part of a sequence, and whether it can be repeated. -/
structure Item where
  pattern : Pattern
  repeats : Bool := true

open Reading

def escape : Reader Item := do
  let flags := (← get).flags
  match ← rest' with
  | [] => bad
  | c :: rest =>
    match className? flags.ascii c, anchor? flags.ascii c, groupNumber? (c :: rest) with
    | some item, _, _ => setRest rest; return { pattern := oneOfItem flags item }
    | none, some pattern, _ => setRest rest; return { pattern, repeats := false }
    | none, none, some (number, rest) => setRest rest; return { pattern := ← askAgain number }
    | none, none, none =>
      let d ← onText fun _ => escapedPoint false c rest
      return { pattern := literal flags d }

/-- The count at the place, as it is written for the part before it. -/
def count? : Reader (Option (Count × Preference)) := do
  match ← Count.read? (← rest') with
  | none => return none
  | some (count, rest) =>
    let (mark, rest) := preference rest
    setRest rest
    return some (count, mark)

def repeatLast (items : List Item) (count : Count) (mark : Preference) : Reader (List Item) :=
  match items with
  | [] => bad
  | last :: front =>
    if last.repeats then
      let pattern := .times last.pattern count.least count.most mark
      return { pattern, repeats := false } :: front
    else bad

/-- The sequence of items that were read, the last one first. -/
def joined (items : List Item) : Pattern := items.foldl (fun b a => .both a.pattern b) .empty

/-- Blanks and comments are skipped where they do not count. -/
def skipSpaced : Reader Bool := do
  if !(← get).flags.spaced then return false
  match ← rest' with
  | c :: rest =>
    if CharClass.isAsciiBlank c then setRest rest; return true
    else if c = '#' then setRest ((← beyond? '\n' rest).getD []); return true
    else return false
  | [] => return false

mutual

def alternatives : Nat → Bool → Reader Pattern
  | 0, _ => bad
  | fuel + 1, leads => do
    let a ← sequence fuel leads []
    if ← accept '|' then return .either a (← alternatives fuel false) else return a

/-- Items up to the end of a branch. `leads` holds at the beginning of the whole pattern. -/
def sequence : Nat → Bool → List Item → Reader Pattern
  | 0, _, _ => bad
  | fuel + 1, leads, items => do
    if ← skipSpaced then return ← sequence fuel leads items
    match ← rest' with
    | [] => return joined items
    | c :: _ =>
      if c = '|' || c = ')' then return joined items
      match ← count? with
      | some (count, mark) => sequence fuel leads (← repeatLast items count mark)
      | none =>
        match ← item fuel (leads && items.isEmpty) with
        | some a => sequence fuel leads (a :: items)
        | none => sequence fuel leads items

/-- One item, or a group that stands for none. -/
def item : Nat → Bool → Reader (Option Item)
  | 0, _ => bad
  | fuel + 1, leads => do
    let flags := (← get).flags
    let c ← next
    if c = '(' then parenthesis fuel leads
    else if c = '[' then return some { pattern := ← onText (charClass flags) }
    else if c = '\\' then return some (← escape)
    else if c = '.' then return some { pattern := .any flags.lineFeed }
    else if c = '^' then return some { pattern := .start flags.lines, repeats := false }
    else if c = '$' then return some { pattern := .finish flags.lines, repeats := false }
    else return some { pattern := literal flags c }

/-- A group, after its opening parenthesis. -/
def parenthesis : Nat → Bool → Reader (Option Item)
  | 0, _ => bad
  | fuel + 1, leads => do
    if !(← accept '?') then return some { pattern := ← numbered fuel none }
    else if ← accept 'P' then
      if ← accept '<' then return some { pattern := ← numbered fuel (← groupName '>') }
      else
        expect '='
        return some { pattern := ← askAgain (← numberOf (← groupName ')')) }
    else if ← accept ':' then return some { pattern := ← body fuel }
    else if ← accept '>' then return some { pattern := .first (← body fuel) }
    else if ← accept '#' then
      match ← beyond? ')' (← rest') with
      | some rest => setRest rest; return none
      | none => bad
    else if ← accept '=' then return some { pattern := .look 0 false (← body fuel) }
    else if ← accept '!' then return some { pattern := .look 0 true (← body fuel) }
    else if ← accept '<' then
      let negated ← accept '!'
      if !negated then expect '='
      return some { pattern := ← lookBack fuel negated }
    else if ← accept '(' then return some { pattern := ← conditional fuel }
    else
      match Flags.change? (← rest') with
      | none => bad
      | some (change, rest) =>
        setRest rest
        if change.isGlobal then
          if !leads then bad
          modify fun r => { r with
            flags := change.apply r.flags
            whole := r.whole ++ change.sets }
          return none
        else
          return some { pattern := ← withFlags fuel change }

/-- What a group holds, and its closing parenthesis. -/
def body : Nat → Reader Pattern
  | 0 => bad
  | fuel + 1 => do
    let a ← inside (alternatives fuel false)
    expect ')'
    return a

def withFlags : Nat → Flags.Change → Reader Pattern
  | 0, _ => bad
  | fuel + 1, change => do
    let a ← inside do
      modify fun r => { r with flags := change.apply r.flags }
      alternatives fuel false
    expect ')'
    return a

def numbered : Nat → Option Text → Reader Pattern
  | 0, _ => bad
  | fuel + 1, name? => do
    let number ← openGroup name?
    let a ← body fuel
    closeGroup number a
    return .group number a

/-- A pattern that looks back from its end. -/
def lookBack : Nat → Bool → Reader Pattern
  | 0, _ => bad
  | fuel + 1, negated => do
    let outer := (← get).lookedFrom?
    modify fun r => { r with lookedFrom? := some (outer.getD r.groups.length) }
    let a ← body fuel
    modify fun r => { r with lookedFrom? := outer }
    let (least, most) := a.width (← get).widthOf
    if most ≠ some least then modify fun r => { r with isUneven := true }
    return .look least negated a

def conditional : Nat → Reader Pattern
  | 0 => bad
  | fuel + 1 => do
    let number ← condition
    let (a, b) ← inside do
      let a ← sequence fuel false []
      let b ← if ← accept '|' then sequence fuel false [] else pure .empty
      return (a, b)
    expect ')'
    return .ifGroup number a b

end

def complete : Reader Pattern := do
  let length := (← rest').length
  let pattern ← alternatives (7 * length + 7) true
  let r ← get
  if r.whole.contains .ascii && r.whole.contains .unicode then
    throw (.invalidValue "ASCII and UNICODE flags are incompatible")
  if !r.rest.isEmpty || r.isUneven || r.asked.any (r.groups.length < ·) then bad
  if r.whole.contains .template && pattern.hasRepetition then bad
  return pattern.keepGroups r.asked.contains

/-- A pattern takes at most seven levels of reading per code point. -/
def parse (s : Text) : Checked Pattern := complete.run' { rest := s }

end LanguageClient.Pattern
