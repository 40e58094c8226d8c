import LanguageClient.Program.Shell.Child
import LanguageClient.Program.Shell.Expansion
import LanguageClient.Program.Shell.Repetition
import LanguageClient.Program.Shell.Trap
import LanguageClient.Program.Shell.Typed
import LanguageClient.Program.Utility.Caller

/-!
What scripts do. Commands set the status of the shell that performs them.
-/

namespace LanguageClient.Shell

open Run

/-- Whether the last command of a script is the last thing that it holds. -/
def endsAt (source rest : Source) : Bool :=
  rest.rest.isEmpty && source.rest.getLast? ≠ some '\n'

/-- Performs a function, which has its own arguments and variables. -/
def callFunction (body : Run Unit) (args : List Chars) : Run Nat := do
  let outer ← setting
  update fun s => { s with args, hidden? := some [], loops := 0, isLast := false }
  let ended ← attempt body
  let hidden := (← setting).hidden?.getD []
  hidden.forM fun (n, v) => restore n v
  update fun s => { s with args := outer.args, hidden? := outer.hidden?, loops := outer.loops }
  match ended with
  | .ok _ => return (← setting).status
  | .error (.returns n) => return n
  | .error stop => throw stop

/-- Tells the commands that are about to be performed, if the shell does that. -/
def trace (channels : List (Nat × Channel)) (words : List Chars) : Run Unit := do
  if (← setting).isOn 'x' then
    let changed := (← setting).channels
    update fun s => { s with channels }
    complain ("+ ".toList ++ joinWords words ++ ['\n'])
    update fun s => { s with channels := changed }

/-- What is wrong with a name that leads to no program, and the status that tells it. -/
def missingProgram (name : Chars) : Run Nat := do
  let refused := Files.refusalAt? (← setting).directory name = some .notPermitted
  let isFile := (← fileText? (← pathOf name)).isSome
  if name.contains '/' && (isFile || refused) then
    shellComplains (name ++ ": Permission denied".toList)
    return 126
  else
    shellComplains (name ++ (if name.isEmpty then ": Permission denied" else ": not found").toList)
    return 127

mutual

/-- What a script writes that stands in a word. -/
def substitute : Nat → Bool → Chars → Run Chars
  | 0, _, _ => throw .hungry
  | fuel + 1, inPlace, script => do
    let here := (← setting).line
    let line := if inPlace then max 1 here else 1
    output (conclude (perform fuel) (lines fuel false { rest := script, line }))

/-- Performs a script inside another one. -/
def perform : Nat → Chars → Run Unit
  | 0, _ => throw .hungry
  | fuel + 1, script => lines fuel false { rest := script }

/-- Line after line. The last command of a whole script is known to be the last one, unless a line
feed follows it. -/
def lines : Nat → Bool → Source → Run Unit
  | 0, _, _ => throw .hungry
  | fuel + 1, isWhole, source => do
    match nextLine source with
    | .error m => refuse m
    | .ok (none, _) => pure ()
    | .ok (some c, rest) =>
      if isWhole && endsAt source rest then evalLast fuel c else eval fuel false c
      lines fuel isWhole rest

/-- Performs the last command of a script. -/
def evalLast : Nat → Command → Run Unit
  | 0, _ => throw .hungry
  | fuel + 1, command => do
    match command with
    | .next a b =>
      eval fuel false a
      evalLast fuel b
    | .onSuccess a b =>
      eval fuel true a
      if (← setting).status = 0 then evalLast fuel b
    | .onFailure a b =>
      eval fuel true a
      if (← setting).status ≠ 0 then evalLast fuel b
    | .simple .. =>
      update fun s => { s with isLast := true }
      eval fuel false command
      update fun s => { s with isLast := false }
    | command => eval fuel false command

/-- Performs a command. Where its failure is `tested` it ends nothing. -/
def eval : Nat → Bool → Command → Run Unit
  | 0, _, _ => throw .hungry
  | fuel + 1, tested, command => do
    if (← setting).isOn 'n' then return
    let settle : Run Unit := do
      actOnSignals (perform fuel) fuel
      failIf tested
    match command with
    | .simple line assignments words redirects =>
      if !(assignments.isEmpty && words.isEmpty && redirects.isEmpty) then
        update fun s => { s with line, tested }
        performSimple fuel assignments words redirects
        wakeChildren (evalApart fuel) fuel (← get).clock
        settle
    | .next a b =>
      eval fuel tested a
      eval fuel tested b
    | .onSuccess a b =>
      eval fuel true a
      if (← setting).status = 0 then eval fuel tested b
    | .onFailure a b =>
      eval fuel true a
      if (← setting).status ≠ 0 then eval fuel tested b
    | .negated a =>
      eval fuel true a
      setStatus (if (← setting).status = 0 then 1 else 0)
    | .branch test a b =>
      eval fuel true test
      if (← setting).status = 0 then eval fuel tested a
      else
        match b with
        | some b => eval fuel tested b
        | none => setStatus 0
    | .loop expected test body =>
      update fun s => { s with loops := s.loops + 1 }
      loop (eval fuel true test) (eval fuel tested body) expected fuel 0
      update fun s => { s with loops := s.loops - 1 }
    | .each line name words body =>
      update fun s => { s with line }
      let values ←
        match words with
        | some ws => expandFields (substitute fuel) fuel ws
        | none => pure (← setting).args
      update fun s => { s with loops := s.loops + 1, status := 0 }
      each name (eval fuel tested body) values
      update fun s => { s with loops := s.loops - 1 }
    | .choose line word branches =>
      update fun s => { s with line }
      let text ← expandText (substitute fuel) fuel word
      setStatus 0
      if let some a ← chosen (substitute fuel) fuel text branches then eval fuel tested a
    | .define name body =>
      update fun s =>
        { s with functions := (name, body) :: s.functions.filter (·.1 ≠ name), status := 0 }
    | .apart a =>
      match ← apartFrom (conclude (perform fuel) (eval fuel tested a)) with
      | .ok status =>
        setStatus status
        settle
      | .error stop => throw stop
    | .redirected line a redirects =>
      update fun s => { s with line }
      let outer := (← setting).channels
      match ← redirectAll (substitute fuel) fuel redirects with
      | some why =>
        shellComplains why
        setStatus 2
        update fun s => { s with channels := outer }
        failIf tested
      | none =>
        let ended ← attempt (eval fuel tested a)
        update fun s => { s with channels := outer }
        match ended with
        | .ok _ => pure ()
        | .error stop => throw stop
    | .pipe members =>
      pipe (evalApart fuel) none members
      settle
    | .background a => background (evalApart fuel) a

/-- Performs a command up to its end in a shell of its own. -/
def evalApart : Nat → Command → Run Unit
  | 0, _ => throw .hungry
  | fuel + 1, command => conclude (perform fuel) (eval fuel false command)

/-- Performs a command that is made of words. -/
def performSimple : Nat → List (Chars × Word) → List Word → List Redirect → Run Unit
  | 0, _, _, _ => throw .hungry
  | fuel + 1, assignments, words, redirects => do
    update fun s => { s with inner := 0 }
    let fields ← expandFields (substitute fuel) fuel words
    let outer := (← setting).channels
    match ← redirectAll (substitute fuel) fuel redirects with
    | some why =>
      shellComplains why
      update fun s => { s with channels := outer }
      setStatus 2
      if (fields.head?.map isSpecial).getD false then throw .fails
    | none =>
      let values ← assignAll (substitute fuel) fuel assignments
      trace outer (values.map (fun (n, v, _) => n ++ '=' :: v) ++ fields)
      match fields with
      | [] => update fun s => { s with channels := outer, status := s.inner }
      | name :: args =>
        let exported := (← setting).exported
        let stays := isSpecial name
        if !stays then update fun s => { s with exported := values.map (·.1) ++ exported }
        let ended ← attempt (call fuel name args)
        if !(name = "exec".toList && args.isEmpty) then
          update fun s => { s with channels := outer }
        if !stays then
          update fun s => { s with exported }
          values.reverse.forM fun (n, _, old) => restore n old
        match ended with
        | .ok status => setStatus status
        | .error stop => throw stop

/-- Calls what a name stands for. -/
def call : Nat → Chars → List Chars → Run Nat
  | 0, _, _ => throw .hungry
  | fuel + 1, name, args => do
    if isSpecial name then runBuiltin name true (special fuel name args)
    else
      let s ← setting
      match s.functions.lookup name with
      | some body => callFunction (eval fuel s.tested body) args
      | none =>
        if name = "command".toList then callPlain fuel args
        else if isBuiltin name then runBuiltin name false (ordinary fuel name args)
        else program fuel name args

/-- Calls a command that is no function; the mistakes of special ones do not end the shell. -/
def callPlain : Nat → List Chars → Run Nat
  | 0, _ => throw .hungry
  | fuel + 1, args => do
    let outer := (← setting).calling
    update fun s => { s with calling := "command".toList }
    let parsed ← attempt (withoutOptions ['v', 'V', 'p'] args)
    update fun s => { s with calling := outer }
    match parsed with
    | .error _ => return 2
    | .ok (_, []) => return 0
    | .ok (letters, name :: args) =>
      if letters.contains 'v' then locate name
      else if letters.contains 'V' then describe name
      else if isSpecial name then runBuiltin name false (special fuel name args)
      else if isBuiltin name then runBuiltin name false (ordinary fuel name args)
      else program fuel name args

/-- The commands of a shell whose mistakes end it. -/
def special : Nat → Chars → List Chars → Run Nat
  | 0, _, _ => throw .hungry
  | fuel + 1, name, args => do
    match String.ofList name, args with
    | "eval", words =>
      update fun s => { s with status := 0, isLast := false }
      perform fuel (joinWords words)
      return (← setting).status
    | "exec", [] | ".", [] => return 0
    | "exec", name :: args =>
      match Utility.reachable (← setting).directory name with
      | some found =>
        update fun s => { s with traps := [], isLast := true }
        throw (.exits (← launch fuel found name args))
      | none =>
        let status ← missingProgram name
        throw (.exits (if name.isEmpty then 126 else status))
    | ".", path :: _ =>
      if !path.contains '/' then fatal (path ++ ": not found".toList)
      match ← openFile path with
      | .text t =>
        update fun s => { s with calling := path, status := 0, isLast := false }
        match ← attempt (perform fuel t) with
        | .ok _ => return (← setting).status
        | .error (.returns n) => return n
        | .error stop => throw stop
      | _ => fatal ("cannot open ".toList ++ path ++ ": No such file".toList)
    | _, args => builtin name args

/-- The other commands of a shell. -/
def ordinary : Nat → Chars → List Chars → Run Nat
  | 0, _, _ => throw .hungry
  | fuel + 1, name, args =>
    if name = "wait".toList then wait (evalApart fuel) fuel args else builtin name args

/-- Runs another program. -/
def program : Nat → Chars → List Chars → Run Nat
  | 0, _, _ => throw .hungry
  | fuel + 1, name, args => do
    match Utility.reachable (← setting).directory name with
    | some found => launch fuel found name args
    | none => missingProgram name

/-- Lets a program work that was called by some name. -/
def launch : Nat → Chars → Chars → List Chars → Run Nat
  | 0, _, _, _ => throw .hungry
  | fuel + 1, found, name, args =>
    if ["sh", "dash", "bash"].contains (String.ofList found) then innerShell (shell fuel args) name
    else Utility.call (launch fuel) found args

/-- A shell with its options and arguments. -/
def shell : Nat → List Chars → Run Unit
  | 0, _ => throw .hungry
  | fuel + 1, args => do
    let options := args.takeWhile fun a => Utility.isOption a && a ≠ "--".toList
    let letters := (options.map (·.drop 1)).flatten
    match letters.find? fun c => !(['c', 'l'].contains c || optionOrder.contains c) with
    | some c => fatal ("Illegal option -".toList ++ [c])
    | none =>
      update fun s => { s with options := letters.filter optionOrder.contains }
      let rest := args.drop options.length
      let rest := if rest.head? = some "--".toList then rest.drop 1 else rest
      if letters.contains 'c' then
        match rest with
        | [] => fatal "-c requires an argument"
        | script :: rest =>
          update fun s => { s with name := rest.headD s.name, args := rest.drop 1 }
          conclude (perform fuel) (lines fuel true { rest := script })
      else if rest.isEmpty || letters.contains 's' then
        update fun s => { s with args := rest, options := 's' :: s.options.filter (· ≠ 's') }
        conclude (perform fuel) (typed (eval fuel false) fuel { rest := [] })
      else
        let path := rest.headD []
        match ← openFile path with
        | .text t =>
          update fun s => { s with name := path, args := rest.drop 1 }
          conclude (perform fuel) (perform fuel t)
        | _ => fatal ("cannot open ".toList ++ path ++ ": No such file".toList)

end

/-- How often commands that are left to themselves go on after the end of a program. -/
def afterlife : Nat := 100

/-- Runs a program with its arguments to its end. -/
def runProgram (fuel : Nat) (words : List Chars) : Run Nat := do
  match words with
  | [] => return 0
  | name :: args =>
    update fun s => { s with isLast := true }
    let status ← launch fuel ((Utility.reachable [] name).getD name) name args
    wakeChildren (evalApart fuel) (min afterlife fuel) (1.0 / 0.0)
    return status

end LanguageClient.Shell
