import LanguageClient.Fault
import LanguageClient.Pattern.Basic

/-!
Reading escapes and classes of code points.
-/

namespace LanguageClient.Pattern

structure Flags where
  caseless : Bool := false
  lines : Bool := false
  lineFeed : Bool := false
  ascii : Bool := false
  /-- Blanks and comments do not count. -/
  spaced : Bool := false

namespace Flags

def letters (flags : Flags) : LetterCase :=
  if !flags.caseless then .counts else if flags.ascii then .ignoredInAscii else .ignored

end Flags

def oneOfItem (flags : Flags) (item : ClassItem) : Pattern := .one flags.letters false [item]

def literal (flags : Flags) (c : CodePoint) : Pattern := oneOfItem flags (.single c)

/-- Letters that stand for a class, in upper case for all but the class. -/
def className? (ascii : Bool) (c : CodePoint) : Option ClassItem :=
  if c = 'd' then some (.named .decimal false ascii)
  else if c = 'D' then some (.named .decimal true ascii)
  else if c = 's' then some (.named .blank false ascii)
  else if c = 'S' then some (.named .blank true ascii)
  else if c = 'w' then some (.named .word false ascii)
  else if c = 'W' then some (.named .word true ascii)
  else none

def anchor? (ascii : Bool) (c : CodePoint) : Option Pattern :=
  if c = 'A' then some (.start false)
  else if c = 'Z' then some .veryEnd
  else if c = 'b' then some (.wordEdge ascii false)
  else if c = 'B' then some (.wordEdge ascii true)
  else none

def controlEscape? (c : CodePoint) : Option CodePoint :=
  if c = 'a' then some '\x07'
  else if c = 'f' then some '\x0C'
  else if c = 'n' then some '\n'
  else if c = 'r' then some '\r'
  else if c = 't' then some '\t'
  else if c = 'v' then some '\x0B'
  else if c = '\\' then some '\\'
  else none

def hexDigits? (count : Nat) (s : Text) : Option (Nat × Text) := do
  let ds := s.take count
  if ds.length < count then none
  let n ← ds.foldlM (fun n c => c.hexDigit?.map (n * 16 + ·)) 0
  return (n, s.drop count)

def isOctal (c : CodePoint) : Bool := c.within 0x30 0x37

def octalValue (ds : Text) : Nat := ds.foldl (fun n c => n * 8 + (c.val - 0x30)) 0

/-- A code point written with digits: hexadecimal after a letter, octal otherwise. -/
def numericEscape? (inClass : Bool) (c : CodePoint) (rest : Text) : Option (CodePoint × Text) :=
  if c = 'x' then (hexDigits? 2 rest).map fun (n, rest) => (.ofNat n, rest)
  else if c = 'u' then (hexDigits? 4 rest).map fun (n, rest) => (.ofNat n, rest)
  else if c = 'U' then
    match hexDigits? 8 rest with
    | some (n, rest) => if h : n < 0x110000 then some (⟨n, h⟩, rest) else none
    | none => none
  else if c = '0' then
    let more := (rest.take 2).takeWhile isOctal
    some (.ofNat (octalValue more), rest.drop more.length)
  else
    let more := (rest.take 2).takeWhile isOctal
    let n := octalValue (c :: more)
    if isOctal c && n < 0x100 && (more.length == 2 || inClass) then
      some (.ofNat n, rest.drop more.length)
    else none

/-- The code point that an escape stands for; the backslash is already taken. -/
def escapedPoint (inClass : Bool) (c : CodePoint) (rest : Text) : Checked (CodePoint × Text) :=
  match controlEscape? c with
  | some d => .ok (d, rest)
  | none =>
    match numericEscape? inClass c rest with
    | some r => .ok r
    | none => if c.isAsciiLetter || c.isDigit then .error .badPattern else .ok (c, rest)

/-- The number of a group after a backslash: two digits, or one. Three octal digits are none. -/
def groupNumber? (s : Text) : Option (Nat × Text) :=
  match s with
  | [] => none
  | c :: rest =>
    if !c.isDigit || c = '0' then none
    else
      let more := (rest.take 1).takeWhile CodePoint.isDigit
      if isOctal c && more.all isOctal && ((rest.drop 1).head?.map isOctal).getD false &&
          more.length == 1 then none
      else some (Number.ofDigits (c :: more), rest.drop more.length)

/-- One member of a class: a named class or a code point. -/
def classMember (ascii : Bool) (s : Text) : Checked ((ClassItem ⊕ CodePoint) × Text) :=
  match s with
  | [] => .error .badPattern
  | c :: rest =>
    if c ≠ '\\' then .ok (.inr c, rest)
    else
      match rest with
      | [] => .error .badPattern
      | e :: rest =>
        match className? ascii e with
        | some item => .ok (.inl item, rest)
        | none =>
          if e = 'b' then .ok (.inr '\x08', rest)
          else (escapedPoint true e rest).map fun (d, rest) => (.inr d, rest)

/-- The members up to the closing bracket. At most `fuel` of them; each takes a code point. -/
def classMembers (ascii : Bool) : Nat → Bool → Text → Checked (List ClassItem × Text)
  | 0, _, _ => .error .badPattern
  | fuel + 1, isFirst, s =>
    match s with
    | [] => .error .badPattern
    | c :: rest =>
      if c = ']' && !isFirst then .ok ([], rest)
      else do
        let (low, rest) ← classMember ascii s
        let item : ClassItem := low.elim id .single
        match rest with
        | dash :: after =>
          if dash = '-' && after.head? ≠ some ']' then
            let (high, rest) ← classMember ascii after
            match low, high with
            | .inr lo, .inr hi =>
              if hi.val < lo.val then throw .badPattern
              let (items, rest) ← classMembers ascii fuel false rest
              return (.range lo.val hi.val :: items, rest)
            | _, _ => throw .badPattern
          else
            let (items, rest) ← classMembers ascii fuel false rest
            return (item :: items, rest)
        | [] => throw .badPattern

def charClass (flags : Flags) (s : Text) : Checked (Pattern × Text) := do
  let (negated, s) : Bool × Text :=
    match s with
    | c :: rest => if c = '^' then (true, rest) else (false, s)
    | [] => (false, s)
  let (items, rest) ← classMembers flags.ascii (s.length + 1) true s
  return (.one flags.letters negated items, rest)

end LanguageClient.Pattern
