import LanguageClient.Program.Shell.Field
import LanguageClient.Program.Shell.Parser
import LanguageClient.Program.Shell.Redirection
import LanguageClient.Program.Utility

/-!
The variables of a shell, and its own commands that perform no other commands.
-/

namespace LanguageClient.Shell

open Run Reader

def natChars (n : Nat) : Chars := (Nat.repr n).toList

/-! Variables -/

def assign (name value : Chars) : Run Unit := do
  let s ← setting
  if s.fixed.contains name then fatal (name ++ ": is read only".toList)
  update fun s => { s with bindings := (name, value) :: s.bindings.filter (·.1 ≠ name) }

def forget (name : Chars) : Run Unit :=
  update fun s => { s with bindings := s.bindings.filter (·.1 ≠ name) }

/-- Gives a variable back what it was before. -/
def restore (name : Chars) (old : Option Chars) : Run Unit := do
  match old with
  | some v => update fun s => { s with bindings := (name, v) :: s.bindings.filter (·.1 ≠ name) }
  | none => forget name

/-- The options of a shell in the order in which they are told. -/
def optionOrder : Chars := "ubaCEVvxsnmiIfe".toList

/-- The value of a parameter other than the list of arguments. -/
def parameter? (name : Chars) : Run (Option Chars) := do
  let s ← setting
  let m ← get
  match name with
  | ['#'] => return some (natChars s.args.length)
  | ['?'] => return some (natChars s.status)
  | ['$'] => return some m.id
  | ['-'] => return some (optionOrder.filter s.isOn)
  | ['!'] => return m.children.getLast?.map fun c => natChars c.1
  | name =>
    match Signal.digitsValue? name with
    | some 0 => return some s.name
    | some n => return s.args[n - 1]?
    | none => return s.bindings.lookup name

/-! Arguments -/

/-- A number of an argument that is neither negative nor too large. -/
def count? (t : Chars) : Option Nat :=
  let isBlank (c : Char) : Bool := c = ' ' || ('\t' ≤ c && c ≤ '\r')
  let t := ((t.dropWhile isBlank).reverse.dropWhile isBlank).reverse
  let (negative, ds) : Bool × Chars :=
    match t with
    | '-' :: ds => (true, ds)
    | '+' :: ds => (false, ds)
    | ds => (false, ds)
  match Signal.digitsValue? ds with
  | some n => if n < Nat.pow 2 31 && !(negative && 0 < n) then some n else none
  | none => none

def illegalNumber {α : Type} (t : Chars) : Run α := fatal ("Illegal number: ".toList ++ t)

def number (t : Chars) : Run Nat := do
  match count? t with
  | some n => return n
  | none => illegalNumber t

def numberOr (default : Nat) (args : List Chars) : Run Nat := do
  match args with
  | [] => return default
  | t :: _ => number t

/-- Drops the options from arguments; letters of some options only are known. -/
def withoutOptions (known : Chars) : List Chars → Run (Chars × List Chars)
  | [] => return ([], [])
  | a :: rest => do
    if a = ['-', '-'] then return ([], rest)
    else if !Utility.isOption a then return ([], a :: rest)
    else
      match (a.drop 1).find? (!known.contains ·) with
      | some c => fatal ("Illegal option -".toList ++ [c])
      | none =>
        let (letters, rest) ← withoutOptions known rest
        return (a.drop 1 ++ letters, rest)

def checkName (name : Chars) : Run Unit := do
  if !isName name then fatal (name ++ ": bad variable name".toList)

/-! Signals -/

/-- A signal to the shell: it is acted on, or ends the program. -/
def receive (signal : Nat) : Run Unit := do
  let s ← setting
  let name := (Signal.nameOf? signal).getD []
  match (s.shellTraps?.getD s.traps).lookup name with
  | some action =>
    if signal = 9 then throw (.killed 9)
    else if !action.isEmpty then modify fun m => { m with signals := m.signals ++ [name] }
  | none => if !Signal.isHarmless signal then throw (.killed signal)

/-- A signal to a command that was left to itself. -/
def signalChild (signal id : Nat) : Run Unit :=
  modify fun m => { m with
    children := m.children.map fun (n, fate) =>
      match fate with
      | .sleeps _ => (n, if n = id && !Signal.isHarmless signal then .killed signal else fate)
      | fate => (n, fate) }

def deliver (signal : Nat) (targets : List Chars) : Run Nat :=
  targets.foldlM (fun status target => do
    let m ← get
    if target = m.id || target = ['0'] then
      receive signal
      return status
    else if target.head? = some '%' then fatal ("No such job: ".toList ++ target)
    else
      let id ← number target
      if m.children.any (·.1 = id) then
        signalChild signal id
        return status
      else
        shellComplains "No such process\n"
        return 1) 0

def killUsage {α : Type} : Run α :=
  fatal ("Usage: kill [-s sigspec | -signum | -sigspec] [pid | job]... or\n".toList ++
    "kill -l [exitstatus]".toList)

def signalName (name : Chars) : Run Nat := do
  match name with
  | [] =>
    (List.range (Signal.last + 1)).forM fun n =>
      say (if n = 0 then ['0', '\n'] else (Signal.nameOf? n).getD [] ++ ['\n'])
    return 0
  | t =>
    let n ← number t
    match if 128 < n then n - 128 else n with
    | 0 => unknown t
    | k =>
      match Signal.nameOf? k with
      | some name => say (name ++ ['\n']); return 0
      | none => unknown t
where
  unknown (t : Chars) : Run Nat :=
    fatal ("invalid signal number or exit status: ".toList ++ t)

def kill (args : List Chars) : Run Nat := do
  let toAll (signal : Nat) (targets : List Chars) : Run Nat :=
    if targets.isEmpty then killUsage else deliver signal targets
  match args with
  | [] => killUsage
  | ['-', 'l'] :: rest => signalName (rest.headD [])
  | [['-', 's']] => fatal "No arg for -s option"
  | ['-', 's'] :: name :: targets =>
    match Signal.number? name with
    | some n => toAll n targets
    | none => fatal ("invalid signal number or name: ".toList ++ name)
  | ['-', '-'] :: targets => toAll 15 targets
  | ('-' :: name) :: targets =>
    match Signal.number? name with
    | some n => toAll n targets
    | none => fatal ("Illegal option -".toList ++ name.take 1)
  | targets => deliver 15 targets

/-- Text in single quotes, of which none stands inside. -/
def inQuotes (t : Chars) : Chars :=
  let rec quotedUpTo : Nat → Chars → Chars
    | 0, _ => []
    | fuel + 1, t =>
      let front := t.takeWhile (· ≠ '\'')
      let quotes := (t.drop front.length).takeWhile (· = '\'')
      let rest := t.drop (front.length + quotes.length)
      '\'' :: front ++ '\'' ::
        (if quotes.isEmpty then [] else '"' :: quotes ++ ['"']) ++
        (if rest.isEmpty then [] else quotedUpTo fuel rest)
  quotedUpTo (t.length + 1) t

def setTrap (action? : Option Chars) (names : List Chars) : Run Nat :=
  names.foldlM (fun status name => do
    match (Signal.number? name).bind Signal.nameOf? with
    | some signal =>
      update fun s =>
        let others := s.traps.filter (·.1 ≠ signal)
        { s with
          traps := match action? with
            | some action => others ++ [(signal, action)]
            | none => others }
      return status
    | none =>
      complain ("trap: ".toList ++ name ++ ": bad trap\n".toList)
      return 1) 0

def trap (args : List Chars) : Run Nat := do
  let args := if args.head? = some ['-', '-'] then args.drop 1 else args
  match args with
  | [] =>
    let traps := (← setting).traps
    (List.range (Signal.last + 1)).forM fun n => do
      let name := (Signal.nameOf? n).getD []
      if let some action := traps.lookup name then
        say ("trap -- ".toList ++ inQuotes action ++ ' ' :: name ++ ['\n'])
    return 0
  | [name] => setTrap none [name]
  | action :: names =>
    if (Signal.digitsValue? action).isSome then setTrap none (action :: names)
    else setTrap (if action = ['-'] then none else some action) names

/-! Options -/

def setOption (on : Bool) (c : Char) : Run Unit := do
  if !optionOrder.contains c then fatal ("Illegal option ".toList ++ [if on then '-' else '+', c])
  update fun s =>
    let others := s.options.filter (· ≠ c)
    { s with options := if on then c :: others else others }

def optionNames : List (String × Char) :=
  [("errexit", 'e'), ("noglob", 'f'), ("ignoreeof", 'I'), ("interactive", 'i'), ("monitor", 'm'),
    ("noexec", 'n'), ("stdin", 's'), ("xtrace", 'x'), ("verbose", 'v'), ("vi", 'V'),
    ("emacs", 'E'), ("noclobber", 'C'), ("allexport", 'a'), ("notify", 'b'), ("nounset", 'u')]

def setNamed (on : Bool) (name : Chars) : Run Unit := do
  match optionNames.find? fun (n, _) => n.toList = name with
  | some (_, c) => setOption on c
  | none => fatal ("Illegal option ".toList ++ (if on then '-' else '+') :: 'o' :: ' ' :: name)

def setArgs (args : List Chars) : Run Unit := update fun s => { s with args }

def setOptions : List Chars → Run Unit
  | [] => pure ()
  | ['-', '-'] :: rest => setArgs rest
  | ['-', 'o'] :: name :: rest => do
    setNamed true name
    setOptions rest
  | ['+', 'o'] :: name :: rest => do
    setNamed false name
    setOptions rest
  | ('-' :: letters) :: rest => do
    if letters.isEmpty then
      setOption false 'x'
      setOption false 'v'
      if !rest.isEmpty then setArgs rest
    else
      letters.forM (setOption true)
      setOptions rest
  | ('+' :: c :: letters) :: rest => do
    (c :: letters).forM (setOption false)
    setOptions rest
  | words => setArgs words

/-! Declarations -/

/-- Splits `name=value`. -/
def binding (t : Chars) : Chars × Option Chars :=
  let name := t.takeWhile (· ≠ '=')
  (name, if t.contains '=' then some (t.drop (name.length + 1)) else none)

/-- The variables of some names with their values, each as the command that sets it. -/
def listing (command : String) (names : List Chars) : Run Unit := do
  let s ← setting
  (names.eraseDups.mergeSort Utility.isBefore).forM fun n =>
    let value : Chars :=
      match s.bindings.lookup n with
      | some v => '=' :: inQuotes v
      | none => []
    say (command.toList ++ ' ' :: n ++ value ++ ['\n'])

def declare (command : String) (marked : Setting → List Chars) (mark : Chars → Setting → Setting)
    (args : List Chars) : Run Nat := do
  let (letters, args) ← withoutOptions ['p'] args
  if letters.contains 'p' || args.isEmpty then
    listing command (marked (← setting))
    return 0
  args.forM fun a => do
    let (name, value) := binding a
    checkName name
    if let some v := value then assign name v
    update (mark name)
  return 0

def declareLocal (args : List Chars) : Run Nat := do
  match (← setting).hidden? with
  | none => fatal "not in a function"
  | some _ =>
    args.forM fun a => do
      let (name, value) := binding a
      checkName name
      let old ← value? name
      update fun s => { s with hidden? := s.hidden?.map ((name, old) :: ·) }
      if let some v := value then assign name v
    return 0

def unset (args : List Chars) : Run Nat := do
  let (letters, names) ← withoutOptions ['f', 'v'] args
  names.forM fun name => do
    if letters.contains 'f' then
      update fun s => { s with functions := s.functions.filter (·.1 ≠ name) }
    else
      checkName name
      if (← setting).fixed.contains name then fatal (name ++ ": is read only".toList)
      forget name
  return 0

/-! The place -/

def changeDirectory (args : List Chars) : Run Nat := do
  let s ← setting
  let (_, operands) ← withoutOptions ['L', 'P'] args
  let target ←
    match operands with
    | [] => pure ((← value? "HOME").getD [])
    | t :: _ => pure (if t = ['-'] then (s.bindings.lookup "OLDPWD".toList).getD [] else t)
  let reached : Option Files.Place :=
    if target.isEmpty then some s.directory
    else
      match Files.follow s.directory target with
      | .ok place => if Files.kindOf? place = some .directory then some place else none
      | .error _ => none
  match reached with
  | some place =>
    update fun s => { s with directory := place }
    assign "OLDPWD" ('/' :: Files.written s.directory)
    assign "PWD" ('/' :: Files.written place)
    if operands.head? = some ['-'] then say ('/' :: Files.written place ++ ['\n'])
    return 0
  | none => fatal ("can't cd to ".toList ++ target)

/-- The permissions that new files do not get. -/
def setMask (args : List Chars) : Run Nat := do
  let (letters, operands) ← withoutOptions ['S'] args
  let mask := (← setting).mask
  match operands with
  | [] => Utility.sayLine (if letters.isEmpty then mask else "u=rwx,g=rx,o=rx".toList)
  | t :: _ =>
    let isOctal (c : Char) : Bool := '0' ≤ c && c ≤ '7'
    if !(t.headD 'a').isDigit then fatal ("Illegal mode: ".toList ++ t)
    else if !t.all isOctal then illegalNumber t
    else
      let ds := t.drop (t.length - 3)
      update fun s => { s with mask := List.replicate (4 - ds.length) '0' ++ ds }
      return 0

/-! Reading -/

/-- A line of input, whose last backslash may join the next line to it. -/
def joinedLine (k : Nat) (raw : Bool) : Nat → Run (Chars × Bool)
  | 0 => Run.nextLine k
  | fuel + 1 => do
    let (line, whole) ← Run.nextLine k
    let slashes := (line.reverse.takeWhile (· = '\\')).length
    if !raw && whole && slashes % 2 = 1 then
      let (more, whole) ← joinedLine k raw fuel
      return (line.dropLast ++ more, whole)
    else return (line, whole)

/-- Drops the options of the command that reads, one of which takes a prompt. -/
def readingOptions : List Chars → Run (Bool × List Chars)
  | ['-', 'p'] :: _ :: rest => readingOptions rest
  | ['-', 'r'] :: rest => do
    let (_, names) ← readingOptions rest
    return (true, names)
  | rest => do
    let (letters, names) ← withoutOptions ['r'] rest
    return (!letters.isEmpty, names)

def read (args : List Chars) : Run Nat := do
  let (raw, names) ← readingOptions args
  if names.isEmpty then fatal "arg count"
  names.forM checkName
  let (line, whole) ←
    match ← streamOf 0 with
    | some k => joinedLine k raw 100
    | none => pure ([], false)
  let line := line.filter (· ≠ '\x00')
  let values := readFields (← separators) names.length (lineMarks raw line)
  (names.zip values).forM fun (n, v) => assign n v
  return if whole then 0 else 1

/-! Names -/

def builtinNames : List String :=
  specialNames ++
    ["alias", "bg", "cd", "command", "echo", "false", "fg", "getopts", "hash", "jobs", "kill",
      "printf", "pwd", "read", "test", "[", "true", "type", "ulimit", "umask", "unalias",
      "wait"]

def isBuiltin (name : Chars) : Bool := builtinNames.any (·.toList = name)

def isSpecial (name : Chars) : Bool := specialNames.any (·.toList = name)

/-- The path under which a program is found. -/
def programPath? (name : Chars) : Option Chars :=
  if name.contains '/' then none
  else if Files.programs.any (·.toList = name) then some ("/usr/bin/".toList ++ name) else none

/-- What a name stands for, in words. -/
def describe (name : Chars) : Run Nat := do
  let s ← setting
  let told (text : String) : Run Nat := do
    say (name ++ text.toList ++ ['\n'])
    return 0
  if reserved.any (·.toList = name) then told " is a shell keyword"
  else if (s.functions.lookup name).isSome then told " is a shell function"
  else if isSpecial name then told " is a special shell builtin"
  else if isBuiltin name then told " is a shell builtin"
  else
    match programPath? name with
    | some path => Utility.sayLine (name ++ " is ".toList ++ path)
    | none => say (name ++ ": not found\n".toList); return 127

/-- What a name stands for, as the path of a program or the name itself. -/
def locate (name : Chars) : Run Nat := do
  let s ← setting
  if (s.functions.lookup name).isSome || isBuiltin name || reserved.any (·.toList = name) then
    Utility.sayLine name
  else
    match programPath? name with
    | some path => Utility.sayLine path
    | none =>
      if (Files.refusalAt? s.directory name).isNone && name.contains '/' then Utility.sayLine name
      else return 127

/-! All of them -/

/-- Leaves loops; outside of them nothing comes of it. -/
def leave (stop : Nat → Stop) (args : List Chars) : Run Nat := do
  let n ← numberOr 1 args
  if n = 0 then illegalNumber (args.headD [])
  let loops := (← setting).loops
  if 0 < loops then throw (stop (min n loops)) else return 0

/-- The commands of the shell that perform no other commands. -/
def builtin (name : Chars) (args : List Chars) : Run Nat := do
  let s ← setting
  match String.ofList name with
  | "exit" => throw (.exits ((← numberOr s.status args) % 256))
  | "return" => throw (.returns (← numberOr s.status args))
  | "break" => leave .leavesLoop args
  | "continue" => leave .goesOn args
  | "shift" =>
    let n ← numberOr 1 args
    if s.args.length < n then fatal "can't shift that many"
    setArgs (s.args.drop n)
    return 0
  | "set" =>
    setOptions args
    return 0
  | "export" =>
    declare "export" (·.exported) (fun n s => { s with exported := n :: s.exported }) args
  | "readonly" => declare "readonly" (·.fixed) (fun n s => { s with fixed := n :: s.fixed }) args
  | "local" => declareLocal args
  | "unset" => unset args
  | "trap" => trap args
  | "cd" => changeDirectory args
  | "read" => read args
  | "kill" => kill args
  | "echo" =>
    say (Writing.echo args)
    return 0
  | "printf" =>
    let (_, args) ← withoutOptions [] args
    Utility.printf shellComplains args
  | "test" => Utility.condition false shellComplains args
  | "[" => Utility.condition true shellComplains args
  | "false" => return 1
  | "pwd" => Utility.sayLine ('/' :: Files.written s.directory)
  | "umask" => setMask args
  | "type" => args.foldlM (fun status a => do
      let found ← describe a
      return if found = 0 then status else found) 0
  | _ => return 0

/-- A command of the shell under its name. What it writes may be lost; its mistakes end the shell if
it is a special one. -/
def runBuiltin (name : Chars) (isSpecial : Bool) (act : Run Nat) : Run Nat := do
  let outer := (← setting).calling
  modify fun m => { m with setting.calling := name, lost := false }
  let ended ← attempt act
  let lost := (← get).lost
  if lost then shellComplains (name ++ ": I/O error".toList)
  update fun s => { s with calling := outer }
  match ended with
  | .ok status => return if lost then 1 else status
  | .error .fails => if isSpecial then throw .fails else return 2
  | .error stop => throw stop

end LanguageClient.Shell
