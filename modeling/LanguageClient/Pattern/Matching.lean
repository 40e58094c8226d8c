import LanguageClient.Pattern.Basic

/-!
Where patterns match. From each place a pattern has a list of ends, the preferred one first and none
of them twice, so matching ends whatever a pattern repeats.
-/

namespace LanguageClient.Pattern

/-- A place in a text. What lies before it is kept from the place backwards. -/
structure Place where
  index : Nat := 0
  passed : Text := []
  rest : Text

namespace Place

def text (p : Place) : Text := p.passed.reverse ++ p.rest

def advance? (p : Place) : Option (CodePoint × Place) :=
  match p.rest with
  | [] => none
  | c :: rest => some (c, ⟨p.index + 1, c :: p.passed, rest⟩)

def back? (n : Nat) (p : Place) : Option Place :=
  if n ≤ p.index then
    some ⟨p.index - n, p.passed.drop n, (p.passed.take n).reverse ++ p.rest⟩
  else none

/-- The place itself and all later ones, those of `rest`. -/
def later (index : Nat) (passed : Text) : Text → List Place
  | [] => [⟨index, passed, []⟩]
  | c :: rest => ⟨index, passed, c :: rest⟩ :: later (index + 1) (c :: passed) rest

def isWordAt (ascii : Bool) (c : Option CodePoint) : Bool :=
  (c.map (CharClass.word.holds ascii)).getD false

def atWordEdge (ascii : Bool) (p : Place) : Bool :=
  isWordAt ascii p.passed.head? != isWordAt ascii p.rest.head?

end Place

/-- Where a group began and where it ended. -/
inductive Mark where
  | opening (number : Nat)
  | closing (number : Nat)
deriving DecidableEq

structure Route where
  place : Place
  marks : List (Mark × Nat) := []

namespace Route

/-- In one text a place is known by its index. -/
def same (a b : Route) : Bool := a.place.index == b.place.index && a.marks == b.marks

def distinct (routes : List Route) : List Route :=
  (routes.foldl (fun seen r => if seen.any (same r) then seen else r :: seen) []).reverse

def set (mark : Mark) (r : Route) : Route :=
  { r with marks := (mark, r.place.index) :: r.marks.filter (·.1 ≠ mark) }

def index? (r : Route) (mark : Mark) : Option Nat := r.marks.lookup mark

/-- The text of a group that has matched. -/
def captured? (r : Route) (number : Nat) : Option Text :=
  match r.index? (.opening number), r.index? (.closing number) with
  | some i, some j => if i ≤ j then some ((r.place.text.drop i).take (j - i)) else none
  | _, _ => none

end Route

/-- Takes `t` from the place on. -/
def follow (letters : LetterCase) : Text → Place → Option Place
  | [], p => some p
  | c :: t, p =>
    match p.advance? with
    | some (d, next) => if letters.lower c = letters.lower d then follow letters t next else none
    | none => none

/-- A search through the rounds of a repetition: the routes from which a further round was tried,
with the number of rounds left there, and the ends that were found, the last one first. -/
structure Search where
  tried : List (Route × Option Nat) := []
  found : List Route := []

namespace Search

def hasTried (s : Search) (r : Route) (left : Option Nat) : Bool :=
  s.tried.any fun (t, l) => l == left && t.same r

def find (r : Route) (s : Search) : Search := { s with found := r :: s.found }

end Search

/-- Further rounds from `r`, if some are left and the last one moved. -/
def explore (step : Route → List Route) (shortest : Bool) :
    Nat → Option Nat → Option Nat → Route → Search → Search
  | 0, _, _, r, s => s.find r
  | fuel + 1, left, last, r, s =>
    if left == some 0 || last == some r.place.index || s.hasTried r left then s.find r
    else
      let s := { s with tried := (r, left) :: s.tried }
      let s := if shortest then s.find r else s
      let s := (step r).foldl
        (fun s next => explore step shortest fuel (left.map (· - 1)) (some r.place.index) next s) s
      if shortest then s else s.find r

/-- Further rounds from `r`, each with its first end, as long as they move. -/
def persist (step : Route → List Route) : Nat → Option Nat → Option Nat → Route → Route
  | 0, _, _, r => r
  | fuel + 1, left, last, r =>
    if left == some 0 || last == some r.place.index then r
    else
      match step r with
      | [] => r
      | next :: _ => persist step fuel (left.map (· - 1)) (some r.place.index) next

/-- Exactly so many rounds. -/
def rounds (step : Route → List Route) (count : Nat) (routes : List Route) : List Route :=
  count.fold (fun _ _ routes => Route.distinct (routes.flatMap step)) routes

/-- At least `least` rounds and at most `most`. More rounds than the text has places make no
difference. -/
def repeated (step : Route → List Route) (least : Nat) (most : Option Nat)
    (preference : Preference) (r : Route) : List Route :=
  let bound := r.place.rest.length + 2
  let left := most.map (· - least)
  match preference with
  | .only =>
    (rounds (fun r => (step r).take 1) (min least bound) [r]).map (persist step bound left none)
  | .longest | .shortest =>
    let search := (rounds step (min least bound) [r]).foldl
      (fun s r => explore step (preference == .shortest) bound left none r s) {}
    Route.distinct search.found.reverse

def oneOf (letters : LetterCase) (negated : Bool) (items : List ClassItem) (c : CodePoint) : Bool :=
  negated != items.any (ClassItem.holds letters c)

/-- The route one code point further, if that is of a kind. -/
def stepIf (holds : CodePoint → Bool) (r : Route) : List Route :=
  match r.place.advance? with
  | some (c, place) => if holds c then [{ r with place }] else []
  | none => []

def stayIf (holds : Place → Bool) (r : Route) : List Route := if holds r.place then [r] else []

def atStart (lines : Bool) (p : Place) : Bool :=
  match p.passed with
  | [] => true
  | c :: _ => lines && c = '\n'

def atFinish (lines : Bool) (p : Place) : Bool :=
  match p.rest with
  | [] => true
  | c :: rest => c = '\n' && (lines || rest.isEmpty)

/-- Between two characters of one kind; an empty text has no such place. -/
def offWordEdge (ascii : Bool) (p : Place) : Bool :=
  !p.atWordEdge ascii && !(p.passed.isEmpty && p.rest.isEmpty)

/-- The routes to the ends of a pattern. -/
def ends : Pattern → Route → List Route
  | empty, r => [r]
  | never, _ => []
  | one letters negated items, r => stepIf (oneOf letters negated items) r
  | any lineFeed, r => stepIf (fun c => lineFeed || c ≠ '\n') r
  | start lines, r => stayIf (atStart lines) r
  | finish lines, r => stayIf (atFinish lines) r
  | veryEnd, r => stayIf (·.rest.isEmpty) r
  | wordEdge ascii negated, r =>
    stayIf (if negated then offWordEdge ascii else Place.atWordEdge ascii) r
  | both a b, r => Route.distinct ((ends a r).flatMap (ends b))
  | either a b, r => Route.distinct (ends a r ++ ends b r)
  | times a least most preference, r => repeated (ends a) least most preference r
  | group number a, r => (ends a (r.set (.opening number))).map (Route.set (.closing number))
  | again letters number, r =>
    match r.captured? number with
    | some t => ((follow letters t r.place).map fun place => { r with place }).toList
    | none => []
  | ifGroup number a b, r => if (r.captured? number).isSome then ends a r else ends b r
  | first a, r => (ends a r).take 1
  | look back negated a, r =>
    let reached := ((r.place.back? back).map fun place => ends a { r with place }).getD []
    if negated then (if reached.isEmpty then [r] else [])
    else (reached.take 1).map fun end' => { r with marks := end'.marks }

/-- Whether the pattern matches somewhere in the text. -/
def occursIn (pattern : Pattern) (t : Text) : Bool :=
  (Place.later 0 [] t).any fun place => !(ends pattern { place }).isEmpty

end LanguageClient.Pattern
