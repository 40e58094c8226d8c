import LanguageClient.Pattern.Matching
import LanguageClient.Pattern.Parser
import LanguageClient.Program.Shell.Glob
import LanguageClient.Program.Utility.Input

/-!
Programs that count, convert, sort and choose what they read.
-/

namespace LanguageClient.Utility

open Run

def wordCount (t : Chars) : Nat :=
  (t.foldl (fun (n, inside) c =>
    let blank := c = ' ' || ('\t' ≤ c && c ≤ '\r')
    (if !blank && !inside then n + 1 else n, !blank)) ((0 : Nat), false)).1

def wide (width n : Nat) : Chars :=
  let ds := (Nat.repr n).toList
  List.replicate (width - ds.length) ' ' ++ ds

def wc (args : List Chars) : Run Nat := do
  let letters := ((args.filter isOption).map (·.drop 1)).flatten
  let paths := args.filter (!isOption ·)
  let all := letters.isEmpty
  let counts (t : Chars) : List Nat :=
    (if all || letters.contains 'l' then [t.count '\n'] else []) ++
      (if all || letters.contains 'w' then [wordCount t] else []) ++
      (if letters.contains 'm' then [t.length] else []) ++
      if all || letters.contains 'c' then [t.length] else []
  withTexts "wc" plainTrouble paths fun t =>
    let ns := counts t
    let width :=
      if ns.length = 1 then 1 else if paths.isEmpty then 7 else (Nat.repr t.length).length
    let named := if paths.isEmpty then [] else ' ' :: paths.headD []
    say (List.intercalate [' '] (ns.map (wide width)) ++ named ++ newline)

/-! Translating -/

/-- The characters of a set: ranges, classes and escapes. -/
def setOf : Nat → Chars → Chars
  | 0, _ => []
  | fuel + 1, t =>
    let between (a b : Char) : Chars :=
      (List.range (b.toNat + 1 - a.toNat)).map fun i => Char.ofNat (a.toNat + i)
    match t with
    | [] => []
    | '[' :: ':' :: rest =>
      let name := rest.takeWhile (· ≠ ':')
      let rest := rest.drop (name.length + 2)
      let members :=
        match Shell.Glob.named? name with
        | some holds => (between '\x00' '\x7f').filter holds
        | none => []
      members ++ setOf fuel rest
    | '\\' :: rest =>
      match Shell.Writing.escape? rest with
      | some (c, rest) => c :: setOf fuel rest
      | none => '\\' :: setOf fuel rest
    | a :: '-' :: b :: rest => between a b ++ setOf fuel rest
    | c :: rest => c :: setOf fuel rest

def charSet (t : Chars) : Chars := setOf (t.length + 1) t

/-- Of equal neighbours in a set only one stays. -/
def squeeze (s : Chars) : Chars → Chars
  | a :: b :: rest =>
    if a = b && s.contains a then squeeze s (b :: rest) else a :: squeeze s (b :: rest)
  | t => t

def exchange (a b : Chars) (c : Char) : Char :=
  match a.findIdx? (· = c) with
  | some i => (b[i]?).getD (b.getLast?.getD c)
  | none => c

/-- Writes what the whole input becomes. -/
def convert (f : Chars → Chars) : Run Unit := do
  if let some k ← streamOf 0 then say (f (← wholeStream k))

def tr (args : List Chars) : Run Nat := do
  let letters := ((args.takeWhile isOption).map (·.drop 1)).flatten
  match args.dropWhile isOption with
  | [] => misused "tr" "missing operand"
  | [a] =>
    let s := charSet a
    let s (c : Char) : Bool := s.contains c != (letters.contains 'c' || letters.contains 'C')
    if letters.contains 'd' then
      convert fun t => t.filter (!s ·)
      return 0
    else if letters.contains 's' then
      convert (squeeze (charSet a))
      return 0
    else
      complainAs "tr" ("missing operand after ".toList ++ Naming.spoken a)
      complain "Two strings must be given when translating.\n"
      complain "Try 'tr --help' for more information.\n"
      return 1
  | a :: b :: _ =>
    convert fun t =>
      let t := t.map (exchange (charSet a) (charSet b))
      if letters.contains 's' then squeeze (charSet b) t else t
    return 0

/-! Lines of whole texts -/

def isBefore : Chars → Chars → Bool
  | [], _ => true
  | _ :: _, [] => false
  | a :: as, b :: bs => a < b || (a = b && isBefore as bs)

def numberAt (t : Chars) : Int := (Shell.Writing.numberOf t).1

def dropRepeated : List Chars → List Chars
  | a :: b :: rest => if a = b then dropRepeated (b :: rest) else a :: dropRepeated (b :: rest)
  | ls => ls

def sort (args : List Chars) : Run Nat := do
  let letters := ((args.filter isOption).map (·.drop 1)).flatten
  withTexts "sort" openTrouble (args.filter (!isOption ·)) fun t =>
    let ls := (lines t).map withoutFeed
    let below (a b : Chars) : Bool :=
      if letters.contains 'n' then
        numberAt a < numberAt b || (numberAt a = numberAt b && isBefore a b)
      else isBefore a b
    let sorted := ls.mergeSort fun a b => if letters.contains 'r' then below b a else below a b
    let sorted := if letters.contains 'u' then dropRepeated sorted else sorted
    say (sorted.flatMap (· ++ newline))

/-- Runs of equal lines with their lengths. -/
def countRuns : List Chars → List (Nat × Chars)
  | [] => []
  | l :: rest =>
    match countRuns rest with
    | (n, m) :: runs => if l = m then (n + 1, m) :: runs else (1, l) :: (n, m) :: runs
    | [] => [(1, l)]

def uniq (args : List Chars) : Run Nat := do
  let counted := args.contains "-c".toList
  withTexts "uniq" plainTrouble (args.filter (!isOption ·)) fun t =>
    say ((countRuns ((lines t).map withoutFeed)).flatMap fun (n, l) =>
      (if counted then wide 7 n ++ [' '] else []) ++ l ++ newline)

def reversed (name : String) (f : List Chars → List Chars) (args : List Chars) : Run Nat :=
  withTexts name openTrouble args fun t => say (f (lines t)).flatten

def mirrored (line : Chars) : Chars :=
  if line.getLast? = some '\n' then line.dropLast.reverse ++ newline else line.reverse

/-- An expression whose signs for groups and repetition are special only after a backslash. -/
def extendedForm : Chars → Chars
  | '\\' :: c :: rest =>
    if ['+', '?', '|', '(', ')', '{', '}'].contains c then c :: extendedForm rest
    else '\\' :: c :: extendedForm rest
  | c :: rest =>
    if ['+', '?', '|', '(', ')', '{', '}'].contains c then '\\' :: c :: extendedForm rest
    else c :: extendedForm rest
  | [] => []

def grep (args : List Chars) : Run Nat := do
  let letters := ((args.filter isOption).map (·.drop 1)).flatten
  match args.filter (!isOption ·) with
  | [] =>
    complain "Usage: grep [OPTION]... PATTERNS [FILE]...\n"
    complain "Try 'grep --help' for more information.\n"
    return 2
  | expression :: paths =>
    let source :=
      if letters.contains 'F' then
        expression.flatMap fun c => if c.isAlphanum then [c] else ['\\', c]
      else if letters.contains 'E' then expression else extendedForm expression
    let source := if letters.contains 'i' then "(?i)".toList ++ source else source
    match Pattern.parse (source.map CodePoint.ofChar) with
    | .error _ => complainAs "grep" "Invalid regular expression"; return 2
    | .ok p =>
      let before := (← get).written.length
      let status ← withTexts "grep" plainTrouble paths fun t => do
        let fit := ((lines t).map withoutFeed).filter fun l =>
          p.occursIn (l.map CodePoint.ofChar) != letters.contains 'v'
        if letters.contains 'q' then
          if !fit.isEmpty then modify fun m => { m with written := (.nowhere, []) :: m.written }
        else if letters.contains 'c' then say ((Nat.repr fit.length).toList ++ newline)
        else say (fit.flatMap (· ++ newline))
      let after := (← get).written.length
      return if status ≠ 0 then 2 else if after = before then 1 else 0

/-- The ranges of a list of places, such as `1,3-`. -/
def chosen (list : Chars) (i : Nat) : Bool :=
  (Chars.splitAt ',' list).any fun part =>
    match Chars.splitAt '-' part with
    | [a] => natOf? a = some i
    | [a, b] => (natOf? a).getD 1 ≤ i && i ≤ (natOf? b).getD i
    | _ => false

def cut (args : List Chars) : Run Nat := do
  let option (letter : Char) : Option Chars :=
    match args.find? fun a => ['-', letter].isPrefixOf a && a.length > 2 with
    | some a => some (a.drop 2)
    | none =>
      match args.dropWhile (· ≠ ['-', letter]) with
      | _ :: v :: _ => some v
      | _ => none
  let numbered (ps : List Chars) (list : Chars) : List Chars :=
    (ps.zip ((List.range ps.length).map (· + 1))).filterMap fun (p, i) =>
      if chosen list i then some p else none
  let delimiter := ((option 'd').getD ['\t']).headD '\t'
  match option 'f', (option 'c').or (option 'b') with
  | some list, _ =>
    withTexts "cut" plainTrouble [] fun t =>
      say ((lines t).flatMap fun l =>
        let ps := Chars.splitAt delimiter (withoutFeed l)
        (if ps.length = 1 then ps.headD []
        else List.intercalate [delimiter] (numbered ps list)) ++ newline)
  | none, some list =>
    withTexts "cut" plainTrouble [] fun t =>
      say ((lines t).flatMap fun l =>
        (numbered ((withoutFeed l).map fun c => [c]) list).flatten ++ newline)
  | none, none => misused "cut" "you must specify a list of bytes, characters, or fields"

end LanguageClient.Utility
