import LanguageClient.Program.Shell.Basic

/-!
Tokens of scripts.
-/

namespace LanguageClient.Shell

/-! Parts of words -/

/-- Where a text ends that is read into parts. -/
inductive Frame where
  /-- At the end of a word. -/
  | word
  /-- At its own end, outside quotes or inside double ones. -/
  | whole (quoted : Bool)
  /-- At its own end, and double quotes stand for themselves. -/
  | document
deriving DecidableEq

def Frame.isQuoted : Frame → Bool
  | word => false
  | whole quoted => quoted
  | document => true

def unterminated : Chars := "Unterminated quoted string"

def missingBrace : Chars := "Missing '\x7d'"

def isBlank (c : Char) : Bool := c = ' ' || c = '\t'

def endsWord (c : Char) : Bool :=
  isBlank c || c = '\n' || c = ';' || c = '&' || c = '|' || c = '<' || c = '>' || c = '(' || c = ')'

/-- The text before a character that comes next outside of escapes, and what follows it. -/
def beforeUnescaped (stop : Char) : Chars → Option (Chars × Chars)
  | [] => none
  | [c] => if c = stop then some ([], []) else none
  | c :: d :: rest =>
    if c = stop then some ([], d :: rest)
    else if c = '\\' then (beforeUnescaped stop rest).map fun (t, r) => (c :: d :: t, r)
    else (beforeUnescaped stop (d :: rest)).map fun (t, r) => (c :: t, r)

def joinTo (front : Chars) (r : Option (Chars × Chars)) : Option (Chars × Chars) :=
  r.map fun (t, rest) => (front ++ t, rest)

/-- The text up to the sign that closes it, and what follows. Inside quotes and inner brackets the
sign closes nothing; in `double` quotes a single quote is nothing special. -/
def enclosed (stop : Char) (double : Bool) : Nat → Chars → Option (Chars × Chars)
  | 0, _ => none
  | fuel + 1, text =>
    let after (front : Chars) (inner : Option (Chars × Chars)) (closing : Char) :=
      inner.bind fun (t, rest) =>
        joinTo (front ++ t ++ [closing]) (enclosed stop double fuel rest)
    match text with
    | [] => none
    | c :: rest =>
      if c = stop then some ([], rest)
      else
        match c, rest with
        | '\\', d :: rest => joinTo ['\\', d] (enclosed stop double fuel rest)
        | '\'', rest =>
          if double then joinTo [c] (enclosed stop double fuel rest)
          else after [c] (some (rest.takeWhile (· ≠ c), (rest.dropWhile (· ≠ c)).drop 1)) c
        | '"', rest => after [c] (enclosed '"' true fuel rest) c
        | '\x60', rest => after [c] (beforeUnescaped c rest) c
        | '$', '(' :: rest => after ['$', '('] (enclosed ')' false fuel rest) ')'
        | '$', '{' :: rest => after ['$', '{'] (enclosed '}' double fuel rest) '}'
        | '(', rest =>
          if stop = ')' then after [c] (enclosed ')' false fuel rest) ')'
          else joinTo [c] (enclosed stop double fuel rest)
        | c, rest => joinTo [c] (enclosed stop double fuel rest)

def isSpecialName (c : Char) : Bool := ['@', '*', '#', '?', '-', '$', '!'].contains c

/-- The name of a variable and what follows it. -/
def cutName : Chars → Chars × Chars
  | [] => ([], [])
  | c :: rest =>
    if isSpecialName c then ([c], rest)
    else if c.isDigit then (c :: rest.takeWhile Char.isDigit, rest.dropWhile Char.isDigit)
    else if isNameStart c then (c :: rest.takeWhile isNameChar, rest.dropWhile isNameChar)
    else ([], c :: rest)

def changeOf : Chars → Change
  | [] => .asIs
  | ':' :: '-' :: w => .fallback true w
  | '-' :: w => .fallback false w
  | ':' :: '=' :: w => .assigned true w
  | '=' :: w => .assigned false w
  | ':' :: '?' :: w => .demanded true w
  | '?' :: w => .demanded false w
  | ':' :: '+' :: w => .replaced true w
  | '+' :: w => .replaced false w
  | '%' :: '%' :: w => .cut true true w
  | '%' :: w => .cut true false w
  | '#' :: '#' :: w => .cut false true w
  | '#' :: w => .cut false false w
  | _ => .bad

/-- What stands in braces after a dollar sign. -/
def braced (quoted : Bool) (text : Chars) : Part :=
  match text with
  | ['#'] => .variable ['#'] quoted .asIs
  | '#' :: rest =>
    match cutName rest with
    | (name, []) => if name.isEmpty then .variable [] quoted .bad else .variable name quoted .length
    | _ => .variable ['#'] quoted (changeOf rest)
  | text =>
    match cutName text with
    | ([], _) => .variable [] quoted .bad
    | (name, rest) => .variable name quoted (changeOf rest)

abbrev Cut (α : Type) := Except Chars (α × Chars)

/-- What stands after a dollar sign. -/
def dollar (quoted : Bool) (text : Chars) : Cut Part :=
  let fuel := text.length + 1
  match text with
  | '(' :: '(' :: rest =>
    match enclosed ')' false fuel rest with
    | some (t, ')' :: rest) => .ok (.arithmetic t quoted, rest)
    | _ => .error "Missing '))'"
  | '(' :: rest =>
    match enclosed ')' false fuel rest with
    | some (script, rest) => .ok (.output script quoted true, rest)
    | none => .error "end of file unexpected (expecting \")\")"
  | '{' :: rest =>
    match enclosed '}' quoted fuel rest with
    | some (t, rest) => .ok (braced quoted t, rest)
    | none => .error (if quoted then unterminated else missingBrace)
  | text =>
    match text with
    | [] => .ok (.char '$' quoted, [])
    | c :: rest =>
      if c.isDigit then .ok (.variable [c] quoted .asIs, rest)
      else
        match cutName text with
        | ([], rest) => .ok (.char '$' quoted, rest)
        | (name, rest) => .ok (.variable name quoted .asIs, rest)

/-- A script in backquotes; a backslash takes what is special from the next character. -/
def unquoteScript (quoted : Bool) : Chars → Chars
  | '\\' :: c :: rest =>
    if c = '$' || c = '\x60' || c = '\\' || (quoted && c = '"') then c :: unquoteScript quoted rest
    else '\\' :: c :: unquoteScript quoted rest
  | c :: rest => c :: unquoteScript quoted rest
  | [] => []

/-- Reads parts up to the end that the frame sets. `double` holds inside double quotes. -/
def parts (frame : Frame) : Nat → Bool → Chars → Cut Word
  | 0, _, text => .ok ([], text)
  | fuel + 1, double, text =>
    let quoted := double || frame.isQuoted
    let go (w : Word) (double : Bool) (rest : Chars) : Cut Word :=
      (parts frame fuel double rest).map fun (more, rest) => (w ++ more, rest)
    match text with
    | [] => if double then .error unterminated else .ok ([], [])
    | c :: rest =>
      if frame = .word && !double && endsWord c then .ok ([], text)
      else if c = '\'' && !quoted then
        if rest.contains '\'' then
          go (.quotes :: (rest.takeWhile (· ≠ '\'')).map fun c => .char c true) double
            ((rest.dropWhile (· ≠ '\'')).drop 1)
        else .error unterminated
      else if c = '"' && frame ≠ .document then go [.quotes] (!double) rest
      else if c = '\\' then
        match rest with
        | [] => go [.char c true] double []
        | d :: rest =>
          if d = '\n' then go [] double rest
          else if !quoted then go [.char d true] double rest
          else if d = '$' || d = '\x60' || d = '\\' || (d = '"' && frame ≠ .document) ||
              (d = '}' && frame = .whole true) then go [.char d true] double rest
          else go [.char c true] double (d :: rest)
      else if c = '$' then (dollar quoted rest).bind fun (p, rest) => go [p] double rest
      else if c = '\x60' then
        match beforeUnescaped '\x60' rest with
        | some (script, rest) => go [.output (unquoteScript quoted script) quoted false] double rest
        | none => .error "EOF in backquote substitution"
      else go [.char c quoted] double rest

/-- All of a text as parts. -/
def allParts (frame : Frame) (text : Chars) : Word :=
  match parts frame (text.length + 1) false text with
  | .ok (w, _) => w
  | .error _ => text.map fun c => .char c true

/-! Tokens -/

inductive Token where
  | ends
  | newline
  | sign (text : Chars)
  | redirect (channel : Nat) (way : Way)
  /-- The mark of a text in place, and whether its lines lose their tabs. -/
  | hereMark (channel : Nat) (strips : Bool)
  | word (w : Word)

structure Source where
  rest : Chars
  line : Nat := 1
  /-- Lines that were taken before their turn. -/
  ahead : Nat := 0
  /-- Whether more may follow, so that the end of the text is the end of nothing. -/
  grows : Bool := false

def Source.advance (s : Source) (rest : Chars) : Source :=
  let taken := s.rest.take (s.rest.length - rest.length)
  { s with rest, line := s.line + taken.count '\n' }

/-- Drops blanks, joined lines and a comment. -/
def skipBlanks : Chars → Chars
  | '\\' :: '\n' :: rest => skipBlanks rest
  | ' ' :: rest => skipBlanks rest
  | '\t' :: rest => skipBlanks rest
  | '#' :: rest => rest.dropWhile (· ≠ '\n')
  | text => text

def redirection (channel? : Option Nat) : Chars → Option (Token × Chars)
  | '<' :: '<' :: '-' :: rest => some (.hereMark (channel?.getD 0) true, rest)
  | '<' :: '<' :: rest => some (.hereMark (channel?.getD 0) false, rest)
  | '<' :: '&' :: rest => some (.redirect (channel?.getD 0) .copy, rest)
  | '<' :: '>' :: rest => some (.redirect (channel?.getD 0) .readWrite, rest)
  | '<' :: rest => some (.redirect (channel?.getD 0) .read, rest)
  | '>' :: '>' :: rest => some (.redirect (channel?.getD 1) .append, rest)
  | '>' :: '&' :: rest => some (.redirect (channel?.getD 1) .copy, rest)
  | '>' :: '|' :: rest => some (.redirect (channel?.getD 1) .write, rest)
  | '>' :: rest => some (.redirect (channel?.getD 1) .write, rest)
  | _ => none

def sign? : Chars → Option (Token × Chars)
  | ';' :: ';' :: rest => some (.sign ";;", rest)
  | ';' :: rest => some (.sign ";", rest)
  | '&' :: '&' :: rest => some (.sign "&&", rest)
  | '&' :: rest => some (.sign "&", rest)
  | '|' :: '|' :: rest => some (.sign "||", rest)
  | '|' :: rest => some (.sign "|", rest)
  | '(' :: rest => some (.sign "(", rest)
  | ')' :: rest => some (.sign ")", rest)
  | text => redirection none text

/-- The next token and what follows it. -/
def Source.token (s : Source) : Except Mistake (Token × Source) :=
  let text := skipBlanks s.rest
  let s := s.advance text
  match text with
  | [] => .ok (.ends, s)
  | '\n' :: rest => .ok (.newline, { s with rest, line := s.line + 1 + s.ahead, ahead := 0 })
  | c :: rest =>
    let numbered := if c.isDigit then redirection (some (c.toNat - '0'.toNat)) rest else none
    match numbered.or (sign? text) with
    | some (token, rest) => .ok (token, s.advance rest)
    | none =>
      match parts .word (text.length + 1) false text with
      | .ok (w, rest) => .ok (.word w, s.advance rest)
      | .error problem => .error ⟨s.line + text.count '\n', "Syntax error: ".toList ++ problem⟩

/-! Texts in place -/

/-- The lines up to the one that is the mark, and what follows it. -/
def documentLines (mark : Chars) (strips : Bool) : List Chars → List Chars × List Chars
  | [] => ([], [])
  | line :: rest =>
    let line := if strips then line.dropWhile (· = '\t') else line
    if line = mark then ([], rest)
    else
      let (lines, rest) := documentLines mark strips rest
      (line :: lines, rest)

/-- Takes the text in place that begins in the next line, unless its end may follow. -/
def Source.document (s : Source) (mark : Chars) (strips : Bool) :
    Except Mistake (Chars × Source) := do
  let current := s.rest.takeWhile (· ≠ '\n')
  let later := (s.rest.dropWhile (· ≠ '\n')).drop 1
  let pieces := Chars.splitAt '\n' later
  let (lines, rest) := documentLines mark strips pieces
  let closed := lines.length < pieces.length
  let text := List.intercalate ['\n'] lines ++ (if closed && !lines.isEmpty then ['\n'] else [])
  let taken := pieces.length - rest.length
  if !closed && s.grows then throw ⟨s.line + s.rest.count '\n', []⟩
  return (text, { s with
    rest := current ++ '\n' :: List.intercalate ['\n'] rest, ahead := s.ahead + taken })

end LanguageClient.Shell
