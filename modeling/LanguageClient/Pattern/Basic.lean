import LanguageClient.Text.Blank
import LanguageClient.Text.Case
import LanguageClient.Text.Word

/-!
Patterns of file names, and how many code points they take.
-/

namespace LanguageClient

inductive LetterCase where
  | counts
  | ignored
  /-- Only ASCII letters of either case are alike. -/
  | ignoredInAscii
deriving DecidableEq

namespace LetterCase

def same (a b : CodePoint) : LetterCase → Bool
  | counts => a = b
  | ignored => a.sameLetter b
  | ignoredInAscii => a.lowerAscii = b.lowerAscii

def lower (c : CodePoint) : LetterCase → CodePoint
  | counts => c
  | ignored => c.lower
  | ignoredInAscii => c.lowerAscii

end LetterCase

inductive CharClass where
  | decimal
  | blank
  | word
deriving DecidableEq

namespace CharClass

def isAsciiBlank (c : CodePoint) : Bool := c = ' ' || c.within 0x09 0x0D

/-- Membership; the ASCII class has none but ASCII members. -/
def holds (ascii : Bool) (c : CodePoint) : CharClass → Bool
  | decimal => if ascii then c.isDigit else c.isDecimal
  | blank => if ascii then isAsciiBlank c else c.isBlank
  | word => c.isWord && (!ascii || c.isAscii)

end CharClass

inductive ClassItem where
  | range (lo hi : Nat)
  | named (name : CharClass) (negated ascii : Bool)
deriving DecidableEq

namespace ClassItem

def single (c : CodePoint) : ClassItem := .range c.val c.val

def holds (letters : LetterCase) (c : CodePoint) : ClassItem → Bool
  | range lo hi =>
    (lo ≤ c.val && c.val ≤ hi) ||
      (letters ≠ .counts &&
        (List.range (hi + 1 - lo)).any fun i => letters.same c (.ofNat (lo + i)))
  | named name negated ascii => negated != name.holds ascii c

end ClassItem

/-- Which of its ends a repetition tries first. -/
inductive Preference where
  | longest
  | shortest
  /-- The longest one only: nothing is given back. -/
  | only
deriving DecidableEq

inductive Pattern where
  | empty
  | never
  /-- One code point of a class. -/
  | one (letters : LetterCase) (negated : Bool) (items : List ClassItem)
  /-- Any code point, the line feed only on demand. -/
  | any (lineFeed : Bool)
  /-- The start of the text, or of any line. -/
  | start (lines : Bool)
  /-- The end of the text or its final line feed, or the end of any line. -/
  | finish (lines : Bool)
  | veryEnd
  | wordEdge (ascii negated : Bool)
  | both (a b : Pattern)
  /-- The ends of `a` are preferred to those of `b`. -/
  | either (a b : Pattern)
  | times (a : Pattern) (least : Nat) (most : Option Nat) (preference : Preference)
  /-- A numbered group, whose text can be asked for again. -/
  | group (number : Nat) (a : Pattern)
  | again (letters : LetterCase) (number : Nat)
  /-- The branch for a group that has matched, and the one for any other. -/
  | ifGroup (number : Nat) (a b : Pattern)
  /-- The first end of `a` only. -/
  | first (a : Pattern)
  /-- Whether `a` matches from so many code points before, without moving. -/
  | look (back : Nat) (negated : Bool) (a : Pattern)
deriving DecidableEq

namespace Pattern

/-- The least number of code points and the greatest one, if it is bounded. -/
abbrev Width := Nat × Option Nat

namespace Width

def add (v w : Width) : Width := (v.1 + w.1, do return (← v.2) + (← w.2))

def join (v w : Width) : Width := (min v.1 w.1, do return max (← v.2) (← w.2))

def times (w : Width) (least : Nat) (most : Option Nat) : Width :=
  (w.1 * least, if w.2 = some 0 then some 0 else do return (← w.2) * (← most))

end Width

/-- The width of a pattern in which the groups have the widths `groups`. -/
def width (groups : Nat → Width) : Pattern → Width
  | one .. | any _ => (1, some 1)
  | both a b => (width groups a).add (width groups b)
  | either a b => (width groups a).join (width groups b)
  | times a least most _ => (width groups a).times least most
  | group _ a | first a => width groups a
  | again _ number => groups number
  | ifGroup _ a b => (width groups a).join (width groups b)
  | empty | never | start _ | finish _ | veryEnd | wordEdge .. | look .. => (0, some 0)

def hasRepetition : Pattern → Bool
  | times .. => true
  | both a b | either a b | ifGroup _ a b => hasRepetition a || hasRepetition b
  | group _ a | first a | look _ _ a => hasRepetition a
  | _ => false

/-- Leaves only the groups that `kept` names numbered. -/
def keepGroups (kept : Nat → Bool) : Pattern → Pattern
  | both a b => .both (keepGroups kept a) (keepGroups kept b)
  | either a b => .either (keepGroups kept a) (keepGroups kept b)
  | times a least most preference => .times (keepGroups kept a) least most preference
  | group number a => if kept number then .group number (keepGroups kept a) else keepGroups kept a
  | ifGroup number a b => .ifGroup number (keepGroups kept a) (keepGroups kept b)
  | first a => .first (keepGroups kept a)
  | look back negated a => .look back negated (keepGroups kept a)
  | a => a

end Pattern

end LanguageClient
