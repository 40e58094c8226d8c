import LanguageClient.Program.Shell.Lexer

/-!
Reading scripts, one line of commands after the other.
-/

namespace LanguageClient.Shell

abbrev Reader := StateT Source (Except Mistake)

namespace Reader

def peek : Reader Token := do
  let (t, _) ← (← get).token
  return t

def take : Reader Token := do
  let (t, s) ← (← get).token
  set s
  return t

def skip : Reader Unit := do
  let _ ← take

def mistake {α : Type} (text : Chars) : Reader α := do
  throw ⟨(← get).line, "Syntax error: ".toList ++ text⟩

def quoted (text : Chars) : Chars := '"' :: text ++ ['"']

/-- How a token is named that does not belong where it is; reserved words are known only where a
command may begin. -/
def nameOf (atCommand : Bool) : Token → Chars
  | .ends => "end of file"
  | .newline => "newline"
  | .sign t => quoted t
  | .redirect .. | .hereMark .. => "redirection"
  | .word w =>
    match reserved? w with
    | some t => if atCommand then quoted t else "word"
    | none => "word"

def unexpected {α : Type} (atCommand : Bool) (expected : Option String) : Reader α := do
  let t ← take
  let hint : Chars :=
    match expected with
    | some e => " (expecting ".toList ++ quoted e.toList ++ [')']
    | none => []
  mistake (nameOf atCommand t ++ " unexpected".toList ++ hint)

def isSign (text : String) : Token → Bool
  | .sign t => t = text.toList
  | _ => false

def isReserved (text : String) : Token → Bool
  | .word w => reserved? w = some text.toList
  | _ => false

def acceptSign (text : String) : Reader Bool := do
  if isSign text (← peek) then
    skip
    return true
  else return false

def acceptReserved (text : String) : Reader Bool := do
  if isReserved text (← peek) then
    skip
    return true
  else return false

def expectSign (text : String) : Reader Unit := do
  if !(← acceptSign text) then unexpected true (some text)

def expectReserved (text : String) : Reader Unit := do
  if !(← acceptReserved text) then unexpected true (some text)

def skipNewlinesUpTo : Nat → Reader Unit
  | 0 => pure ()
  | fuel + 1 => do
    match ← peek with
    | .newline => skip; skipNewlinesUpTo fuel
    | _ => pure ()

def skipNewlines : Reader Unit := do skipNewlinesUpTo (← get).rest.length

/-- The word after a sign that needs one. -/
def word : Reader Word := do
  match ← peek with
  | .word w => skip; return w
  | _ => unexpected false none

/-- The text of a mark, and whether a part of it was quoted. -/
def markText (w : Word) : Chars × Bool :=
  (w.filterMap fun p =>
    match p with
    | .char c _ => some c
    | _ => none,
  w.any fun p =>
    match p with
    | .char _ false => false
    | _ => true)

def redirect? : Reader (Option Redirect) := do
  match ← peek with
  | .redirect channel way =>
    skip
    return some ⟨channel, way, ← word⟩
  | .hereMark channel strips =>
    skip
    let (mark, plain) := markText (← word)
    let (text, s) ← (← get).document mark strips
    set s
    return some ⟨channel, .here,
      if plain then text.map fun c => .char c true else allParts .document text⟩
  | _ => return none

def redirectsUpTo : Nat → Reader (List Redirect)
  | 0 => return []
  | fuel + 1 => do
    match ← redirect? with
    | some r => return r :: (← redirectsUpTo fuel)
    | none => return []

def redirects : Reader (List Redirect) := do redirectsUpTo ((← get).rest.length + 1)

def wordsUpTo : Nat → Reader (List Word)
  | 0 => return []
  | fuel + 1 => do
    match ← peek with
    | .word w => skip; return w :: (← wordsUpTo fuel)
    | _ => return []

/-- Words up to the end of a line or a semicolon. -/
def listed : Reader (List Word) := do
  let ws ← wordsUpTo ((← get).rest.length + 1)
  match ← peek with
  | .newline => skip; return ws
  | t => if isSign ";" t then skip; return ws else unexpected false none

/-- Whether a list of commands ends before a token. -/
def endsList (t : Token) : Bool :=
  match t with
  | .ends => true
  | .sign s => s = ")".toList || s = ";;".toList
  | .word w =>
    match reserved? w with
    | some r =>
      ["then", "else", "elif", "fi", "do", "done", "esac", "\x7d"].any fun e => e.toList = r
    | none => false
  | _ => false

def orNext (a : Option Command) (b : Command) : Command :=
  match a with
  | some a => .next a b
  | none => b

def noCommand : Command := .simple 0 [] [] []

def specialNames : List String :=
  ["break", ":", ".", "continue", "eval", "exec", "exit", "export", "local", "readonly", "return",
    "set", "shift", "times", "trap", "unset"]

/-- A command at the end of a text, which goes on if the text does. -/
def atEnd (a : Command) : Reader Command := do
  if (← get).grows then mistake [] else return a

end Reader

open Reader

mutual

/-- Commands up to the end of a line. -/
def commandLine : Nat → Option Command → Reader Command
  | 0, before => return before.getD noCommand
  | fuel + 1, before => do
    let a ← andOr fuel
    let t ← peek
    if isSign "&" t || isSign ";" t then
      skip
      let all := orNext before (if isSign "&" t then .background a else a)
      match ← peek with
      | .newline => skip; return all
      | .ends => atEnd all
      | _ => commandLine fuel (some all)
    else
      match t with
      | .newline => skip; return orNext before a
      | .ends => atEnd (orNext before a)
      | _ => unexpected true none

/-- Commands up to a token that ends a list. -/
def commandList : Nat → Option Command → Reader Command
  | 0, before => return before.getD noCommand
  | fuel + 1, before => do
    skipNewlines
    if let .ends ← peek then return before.getD noCommand
    let a ← andOr fuel
    let t ← peek
    let separated :=
      match t with
      | .newline => true
      | t => isSign "&" t || isSign ";" t
    let all := orNext before (if isSign "&" t then .background a else a)
    if separated then
      skip
      skipNewlines
      if endsList (← peek) then return all else commandList fuel (some all)
    else return all

/-- Commands that may be none at all. -/
def optionalList : Nat → Reader (Option Command)
  | 0 => return none
  | fuel + 1 => do
    skipNewlines
    if endsList (← peek) then return none else return some (← commandList fuel none)

def andOr : Nat → Reader Command
  | 0 => mistake []
  | fuel + 1 => do andOrFrom fuel (← pipeline fuel)

def andOrFrom : Nat → Command → Reader Command
  | 0, a => return a
  | fuel + 1, a => do
    if ← acceptSign "&&" then
      skipNewlines
      andOrFrom fuel (.onSuccess a (← pipeline fuel))
    else if ← acceptSign "||" then
      skipNewlines
      andOrFrom fuel (.onFailure a (← pipeline fuel))
    else return a

def pipeline : Nat → Reader Command
  | 0 => mistake []
  | fuel + 1 => do
    let negated ← acceptReserved "!"
    let a ← command fuel
    let others ← pipeMembers fuel
    let all := if others.isEmpty then a else .pipe (a :: others)
    return if negated then .negated all else all

def pipeMembers : Nat → Reader (List Command)
  | 0 => return []
  | fuel + 1 => do
    if ← acceptSign "|" then
      skipNewlines
      let a ← command fuel
      return a :: (← pipeMembers fuel)
    else return []

def command : Nat → Reader Command
  | 0 => mistake []
  | fuel + 1 => do
    let t ← peek
    let line := (← get).line
    let compound? ← compound fuel t
    match compound? with
    | some a =>
      let rs ← redirects
      return if rs.isEmpty then a else .redirected line a rs
    | none =>
      match t with
      | .word w =>
        if (reserved? w).isSome then unexpected true none
        else simple fuel line [] [] []
      | .redirect .. | .hereMark .. => simple fuel line [] [] []
      | _ => unexpected true none

/-- A command that begins with a reserved word or a parenthesis. -/
def compound : Nat → Token → Reader (Option Command)
  | 0, _ => return none
  | fuel + 1, t => do
    let line := (← get).line
    if isReserved "if" t then
      skip
      return some (← branches fuel)
    else if isReserved "while" t || isReserved "until" t then
      skip
      let test ← commandList fuel none
      expectReserved "do"
      let body ← commandList fuel none
      expectReserved "done"
      return some (.loop (isReserved "while" t) test body)
    else if isReserved "for" t then
      skip
      return some (← forEach fuel line)
    else if isReserved "case" t then
      skip
      let subject ← caseWord
      skipNewlines
      expectReserved "in"
      return some (.choose line subject (← caseBranches fuel))
    else if isReserved "\x7b" t then
      skip
      let a ← commandList fuel none
      expectReserved "\x7d"
      return some a
    else if isSign "(" t then
      skip
      let a ← commandList fuel none
      expectSign ")"
      return some (.apart a)
    else return none

def caseWord : Reader Word := do
  match ← peek with
  | .word w => skip; return w
  | t => mistake (nameOf false t ++ " unexpected (expecting word)".toList)

/-- What follows `if`, or `elif`. -/
def branches : Nat → Reader Command
  | 0 => mistake []
  | fuel + 1 => do
    let test ← commandList fuel none
    expectReserved "then"
    let a ← commandList fuel none
    if ← acceptReserved "elif" then return .branch test a (some (← branches fuel))
    else if ← acceptReserved "else" then
      let b ← commandList fuel none
      expectReserved "fi"
      return .branch test a (some b)
    else
      expectReserved "fi"
      return .branch test a none

def forEach : Nat → Nat → Reader Command
  | 0, _ => mistake []
  | fuel + 1, line => do
    let name ←
      match ← peek with
      | .word w =>
        match bareText? w with
        | some name => if isName name then pure name else mistake "Bad for loop variable"
        | none => mistake "Bad for loop variable"
      | _ => mistake "Bad for loop variable"
    skip
    skipNewlines
    let words ←
      if ← acceptReserved "in" then
        pure (some (← listed))
      else
        let _ ← acceptSign ";"
        pure none
    skipNewlines
    if !isReserved "do" (← peek) then forMistake
    skip
    let body ← commandList fuel none
    expectReserved "done"
    return .each line name words body

def forMistake : Reader Unit := unexpected true (some "do")

def caseBranches : Nat → Reader (List (List Word × Option Command))
  | 0 => return []
  | fuel + 1 => do
    skipNewlines
    if ← acceptReserved "esac" then return []
    let _ ← acceptSign "("
    let patterns ← casePatterns fuel
    expectSign ")"
    let body ← optionalList fuel
    skipNewlines
    if ← acceptReserved "esac" then return [(patterns, body)]
    if ← acceptSign ";;" then return (patterns, body) :: (← caseBranches fuel)
    unexpected true (some ";;")

def casePatterns : Nat → Reader (List Word)
  | 0 => return []
  | fuel + 1 => do
    match ← peek with
    | .word w =>
      skip
      if ← acceptSign "|" then return w :: (← casePatterns fuel) else return [w]
    | _ => return []

/-- A simple command, or the definition of a function. -/
def simple : Nat → Nat → List (Chars × Word) → List Word → List Redirect → Reader Command
  | 0, line, assignments, words, rs => return .simple line assignments words rs
  | fuel + 1, line, assignments, words, rs => do
    match ← redirect? with
    | some r => simple fuel line assignments words (rs ++ [r])
    | none =>
      match ← peek with
      | .word w =>
        skip
        match assignment? w, words with
        | some a, [] => simple fuel line (assignments ++ [a]) words rs
        | _, _ => simple fuel line assignments (words ++ [w]) rs
      | t =>
        match words with
        | [w] =>
          if isSign "(" t && assignments.isEmpty && rs.isEmpty then
            skip
            definition fuel w
          else if isSign "(" t then unexpected true none
          else return .simple line assignments words rs
        | _ =>
          if isSign "(" t then unexpected true none
          else return .simple line assignments words rs

def definition : Nat → Word → Reader Command
  | 0, _ => mistake []
  | fuel + 1, w => do
    if !(← acceptSign ")") then unexpected false (some ")")
    match bareText? w with
    | some name =>
      if !isName name || specialNames.any (·.toList = name) then mistake "Bad function name"
      skipNewlines
      return .define name (← command fuel)
    | none => mistake "Bad function name"

end

/-- The next line of commands, if the script goes on. -/
def nextLine (s : Source) : Except Mistake (Option Command × Source) :=
  let fuel := 12 * s.rest.length + 12
  let read : Reader (Option Command) := do
    skipNewlines
    match ← peek with
    | .ends => return none
    | _ => return some (← commandLine fuel none)
  read.run s

end LanguageClient.Shell
