import LanguageClient.Fault
import LanguageClient.Pattern.Basic

/-!
Reading how often a part of a pattern is repeated.
-/

namespace LanguageClient.Pattern

structure Count where
  least : Nat
  most : Option Nat

namespace Count

/-- Greater counts are too large to repeat anything. -/
def limit : Nat := 4294967295

/-- A number of a count, if there is one. -/
def number (digits : Text) : Checked (Option Nat) :=
  if digits.isEmpty then .ok none
  else if Number.longestInteger < digits.length then .error (.longToRead digits.length)
  else if limit ≤ Number.ofDigits digits then .error .overflow
  else .ok (some (Number.ofDigits digits))

/-- A count in braces, after the opening one; other texts in braces stand for themselves. -/
def braced? (s : Text) : Checked (Option (Count × Text)) := do
  let (low, rest) := s.span CodePoint.isDigit
  let (bounded, high, rest) : Bool × Text × Text :=
    match rest with
    | c :: after =>
      if c = ',' then
        let (high, rest) := after.span CodePoint.isDigit
        (true, high, rest)
      else (false, low, rest)
    | [] => (false, low, rest)
  match rest with
  | c :: rest =>
    if c ≠ '\x7d' || (low.isEmpty && !bounded) then return none
    if rest = ("\\" : Text) then throw .badPattern
    let least := (← number low).getD 0
    let most ← number high
    if (most.getD least) < least then throw .badPattern
    return some (⟨least, most⟩, rest)
  | [] => return none

def read? (s : Text) : Checked (Option (Count × Text)) :=
  match s with
  | [] => .ok none
  | c :: rest =>
    if c = '*' then .ok (some (⟨0, none⟩, rest))
    else if c = '+' then .ok (some (⟨1, none⟩, rest))
    else if c = '?' then .ok (some (⟨0, some 1⟩, rest))
    else if c = '\x7b' then braced? rest
    else .ok none

end Count

/-- The mark after a count. -/
def preference (s : Text) : Preference × Text :=
  match s with
  | c :: rest =>
    if c = '?' then (.shortest, rest) else if c = '+' then (.only, rest) else (.longest, s)
  | [] => (.longest, [])

end LanguageClient.Pattern
