import LanguageClient.Program.Files

/-!
How texts are listed: with the numbers of their lines, and with signs for what is not seen.
-/

namespace LanguageClient

/-- What a listing shows. -/
structure Listing where
  numbers : Bool := false
  /-- Empty lines get no numbers. -/
  onlyFilled : Bool := false
  /-- Of several empty lines only one is shown. -/
  squeezes : Bool := false
  ends : Bool := false
  tabs : Bool := false
  hidden : Bool := false

namespace Listing

/-- Where a listing stands between two characters. -/
structure Progress where
  line : Nat := 0
  atStart : Bool := true
  /-- Whether the last line was empty. -/
  afterEmpty : Bool := false
  /-- Whether a carriage return waits for what follows it. -/
  returns : Bool := false

def isPlain (l : Listing) : Bool :=
  !(l.numbers || l.squeezes || l.ends || l.tabs || l.hidden)

def number (n : Nat) : Chars :=
  let ds := (Nat.repr n).toList
  List.replicate (6 - ds.length) ' ' ++ ds ++ ['\t']

/-- The sign of a character below 128. -/
def sign (c : Char) : Chars :=
  if c = '\x7f' then ['^', '?'] else if c < ' ' then ['^', Char.ofNat (c.toNat + 64)] else [c]

def shown (l : Listing) (c : Char) : Chars :=
  if c = '\t' then (if l.tabs then sign c else [c])
  else if !l.hidden then [c]
  else if c.toNat ≥ 128 then ['M', '-'] ++ sign (Char.ofNat (c.toNat - 128))
  else sign c

/-- The number that stands before a line which begins with an empty or another character. -/
def numbered (l : Listing) (isEmpty : Bool) (p : Progress) : Chars × Progress :=
  if p.atStart && l.numbers && !(isEmpty && l.onlyFilled) then
    (number (p.line + 1), { p with line := p.line + 1 })
  else ([], p)

/-- What is shown for one more character. -/
def step (l : Listing) (p : Progress) (c : Char) : Chars × Progress :=
  let held : Chars := if !p.returns then [] else if c = '\n' then ['^', 'M'] else ['\r']
  let p := { p with returns := false }
  if c = '\n' then
    if p.atStart && p.afterEmpty && l.squeezes then (held, p)
    else
      let (front, q) := l.numbered true p
      (held ++ front ++ (if l.ends then ['$'] else []) ++ [c],
        { q with atStart := true, afterEmpty := p.atStart })
  else
    let (front, p) := l.numbered false p
    let p := { p with atStart := false, afterEmpty := false }
    if c = '\r' && l.ends && !l.hidden then (held ++ front, { p with returns := true })
    else (held ++ front ++ l.shown c, p)

def text (l : Listing) (p : Progress) : Chars → Chars × Progress
  | [] => ([], p)
  | c :: rest =>
    let (front, p) := l.step p c
    let (t, p) := text l p rest
    (front ++ t, p)

end Listing

end LanguageClient
