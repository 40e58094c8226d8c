import LanguageClient.Program.Shell.Basic
import LanguageClient.Program.Shell.Condition

/-!
A machine that runs programs: the shell that is at work, with its variables and channels, and what
all programs share, such as the input and the files.
-/

namespace LanguageClient

/-- Where written text goes. -/
inductive Outlet where
  | output
  | complaints
  | nowhere
  /-- A place that takes nothing. -/
  | full
  | pipe (serial : Nat)
  | file (path : Chars)
deriving DecidableEq

inductive Channel where
  | input (stream : Nat)
  | outlet (s : Outlet)
deriving DecidableEq

/-- A source of input: the chunks that have arrived and were not taken, and whether none will
follow. -/
structure Stream where
  chunks : List Chars
  ended : Bool

/-- What a program does not share with others. -/
structure Setting where
  name : Chars := "sh"
  args : List Chars := []
  bindings : List (Chars × Chars) := []
  exported : List Chars := []
  fixed : List Chars := []
  functions : List (Chars × Shell.Command) := []
  status : Nat := 0
  line : Nat := 0
  /-- The command of the shell that is at work, which complaints name. -/
  calling : Chars := []
  /-- Actions on signals, and on the end. -/
  traps : List (Chars × Chars) := []
  /-- Apart from the shell itself, the actions of the shell. -/
  shellTraps? : Option (List (Chars × Chars)) := none
  /-- The letters of the options that are set. -/
  options : Chars := []
  /-- Whether a failure of the current command is asked for. -/
  tested : Bool := false
  /-- Whether nothing follows the current command. -/
  isLast : Bool := false
  channels : List (Nat × Channel) := []
  /-- Inside a function, what its own variables were before. -/
  hidden? : Option (List (Chars × Option Chars)) := none
  /-- Loops around the current place. -/
  loops : Nat := 0
  directory : Files.Place := []
  /-- The permissions that new files do not get, in octal digits. -/
  mask : Chars := "0022"
  /-- The status of the last script whose output was put into a word. -/
  inner : Nat := 0

def Setting.isOn (s : Setting) (option : Char) : Bool := s.options.contains option

/-- A command that goes on at some time. What it has written and how often it has slept is known. -/
structure Sleeper where
  setting : Setting
  command : Shell.Command
  time : Float
  naps : Nat
  written : Nat

/-- What has become of a command that was left to itself. -/
inductive Fate where
  | ended (status : Nat)
  | killed (signal : Nat)
  | sleeps (s : Sleeper)

structure Machine where
  id : Chars
  setting : Setting
  streams : List Stream := []
  files : List (Chars × Chars) := []
  /-- What was written, the last text first. -/
  written : List (Outlet × Chars) := []
  /-- Whether a text was written that no place took. -/
  lost : Bool := false
  pipes : Nat := 0
  /-- How many sleeps are slept to their end. -/
  naps : Nat := 0
  /-- The time that was slept. -/
  clock : Float := 0.0
  /-- Signals that arrived and were not acted on, the first one first. -/
  signals : List Chars := []
  /-- Commands that were left to themselves, by number. -/
  children : List (Nat × Fate) := []
  /-- The number of the last process that was started. -/
  lastChild : Nat := 0

/-- Why a program goes no further. -/
inductive Stop where
  | hungry
  | asleep (seconds : Float)
  | killed (signal : Nat)
  | exits (status : Nat)
  /-- A mistake that ends a shell. -/
  | fails
  | leavesLoop (levels : Nat)
  | goesOn (levels : Nat)
  | returns (status : Nat)

abbrev Run := ExceptT Stop (StateM Machine)

namespace Run

def setting : Run Setting := return (← get).setting

def update (f : Setting → Setting) : Run Unit := modify fun m => { m with setting := f m.setting }

def setStatus (status : Nat) : Run Unit := update fun s => { s with status }

/-- Does something and says how it ended. -/
def attempt {α : Type} (a : Run α) : Run (Except Stop α) :=
  ExceptT.mk do return .ok (← a.run)

/-! Channels -/

def channel? (n : Nat) : Run (Option Channel) := return (← setting).channels.lookup n

def setChannel (n : Nat) (c : Option Channel) : Run Unit :=
  update fun s =>
    let others := s.channels.filter (·.1 ≠ n)
    { s with
      channels := match c with
        | some c => (n, c) :: others
        | none => others }

def fileText? (path : Chars) : Run (Option Chars) := return (← get).files.lookup path

def setFile (path text : Chars) : Run Unit :=
  modify fun m => { m with files := (path, text) :: m.files.filter (·.1 ≠ path) }

def lose (text : Chars) : Run Unit := do
  if !text.isEmpty then modify fun m => { m with lost := true }

def toOutlet (outlet : Outlet) (text : Chars) : Run Unit := do
  match outlet with
  | .nowhere => pure ()
  | .full => lose text
  | .file path => setFile path ((← fileText? path).getD [] ++ text)
  | outlet =>
    if !text.isEmpty then modify fun m => { m with written := (outlet, text) :: m.written }

def write (n : Nat) (text : Chars) : Run Unit := do
  match ← channel? n with
  | some (.outlet s) => toOutlet s text
  | _ => lose text

def say (text : Chars) : Run Unit := write 1 text

def complain (text : Chars) : Run Unit := write 2 text

/-- Lines of a program that say what is wrong. -/
def complainAs (name : String) (text : Chars) : Run Unit :=
  complain (name.toList ++ ": ".toList ++ text ++ ['\n'])

/-- A complaint of the shell, with the line of the script. -/
def shellComplains (text : Chars) : Run Unit := do
  let s ← setting
  let called := if s.calling.isEmpty then [] else s.calling ++ ": ".toList
  complain (s.name ++ ": ".toList ++ (Nat.repr s.line).toList ++ ": ".toList ++ called ++ text ++
    ['\n'])

/-! Input -/

def newStream (chunks : List Chars) (ended : Bool) : Run Nat := do
  let serial := (← get).streams.length
  modify fun m => { m with streams := m.streams ++ [⟨chunks, ended⟩] }
  return serial

def stream (n : Nat) : Run Stream := return (← get).streams.getD n ⟨[], true⟩

def setStream (n : Nat) (s : Stream) : Run Unit :=
  modify fun m => { m with streams := m.streams.set n s }

/-- The stream that a channel reads. -/
def streamOf (n : Nat) : Run (Option Nat) := do
  match ← channel? n with
  | some (.input k) => return some k
  | _ => return none

/-- The next chunk of a stream, or nothing at its end. -/
def nextChunk (k : Nat) : Run (Option Chars) := do
  let s ← stream k
  match s.chunks with
  | c :: rest => setStream k { s with chunks := rest }; return some c
  | [] => if s.ended then return none else throw .hungry

/-- All that a stream has, once it is at its end. -/
def wholeStream (k : Nat) : Run Chars := do
  let s ← stream k
  if !s.ended then throw .hungry
  setStream k { s with chunks := [] }
  return s.chunks.flatten

/-- The next line of a stream, and whether it was ended by a line feed. Nothing else is taken. -/
def nextLine (k : Nat) : Run (Chars × Bool) := do
  let s ← stream k
  let all := s.chunks.flatten
  let line := all.takeWhile (· ≠ '\n')
  if all.contains '\n' then
    setStream k { s with chunks := [all.drop (line.length + 1)] }
    return (line, true)
  else if s.ended then
    setStream k { s with chunks := [] }
    return (line, false)
  else throw .hungry

/-! Files -/

/-- The place a path leads to, whether or not something is there, written from the root. -/
def pathOf (path : Chars) : Run Chars := do
  let directory := (← setting).directory
  let start := if path.head? = some '/' then [] else directory
  let place := (Files.placeOf path).foldl
    (fun p name =>
      if name = ['.'] then p else if name = ['.', '.'] then p.dropLast
      else Files.resolve (p ++ [name]))
    start
  return '/' :: Files.written place

def look (m : Machine) (path : Chars) : Option Shell.Condition.Found :=
  let known :=
    match Files.follow m.setting.directory path with
    | .ok place =>
      match Files.kindOf? place with
      | some .directory => some .directory
      | some .file => some (.file (if place.head? = some "etc".toList then 1 else 0) false)
      | some .program => some (.file 1 true)
      | none => none
    | .error _ => none
  match ((pathOf path).run.run m).1 with
  | .ok full =>
    match m.files.lookup full with
    | some text => some (.file text.length false)
    | none => known
  | .error _ => known

inductive Opened where
  | text (t : Chars)
  /-- The input of a channel. -/
  | input (stream : Nat)
  | directory
  | missing
  | notADirectory

/-- The channel that a path names. -/
def channelAt? (path : Chars) : Option Nat :=
  match String.ofList path with
  | "/dev/stdin" => some 0
  | "/dev/stdout" => some 1
  | "/dev/stderr" => some 2
  | _ =>
    match path.drop "/dev/fd/".length with
    | [c] =>
      if "/dev/fd/".toList.isPrefixOf path && c.isDigit then some (c.toNat - '0'.toNat) else none
    | _ => none

/-- What can be read at a path. -/
def openFile (path : Chars) : Run Opened := do
  let full ← pathOf path
  let channel ← match channelAt? full with
    | some n => channel? n
    | none => pure none
  match channel, ← fileText? full with
  | some (.input k), _ => return .input k
  | _, some t => return .text t
  | _, none =>
    match Files.follow (← setting).directory path with
    | .ok place =>
      return if Files.kindOf? place = some .directory then .directory else .text []
    | .error .notADirectory => return .notADirectory
    | .error _ => return .missing

/-- Why a path cannot be written to. -/
inductive Barrier where
  | missing
  | notADirectory
  | isDirectory

/-- Opens a file for writing, which empties it unless what is written is added to it. -/
def openOutlet (adds : Bool) (path : Chars) : Run (Except Barrier Outlet) := do
  let full ← pathOf path
  match channelAt? full, String.ofList full with
  | some n, _ =>
    match ← channel? n with
    | some (.outlet s) => return .ok s
    | _ => return .ok .nowhere
  | none, "/dev/full" => return .ok .full
  | none, _ =>
    let place := Files.placeOf full
    if path.isEmpty then return .error .missing
    match Files.kindOf? place, Files.kindOf? place.dropLast with
    | some .directory, _ => return .error .isDirectory
    | some _, some .directory => return .ok .nowhere
    | none, some .directory =>
      let old ← fileText? full
      if !adds || old.isNone then setFile full []
      return .ok (.file full)
    | _, some _ => return .error .notADirectory
    | _, none => return .error .missing

/-! Variables -/

def value? (name : Chars) : Run (Option Chars) := do return (← setting).bindings.lookup name

def separators : Run Chars := do return (← value? "IFS").getD [' ', '\t', '\n']

/-- Time passes; a sleep that is not slept to its end stops the program. -/
def sleep (seconds : Float) : Run Unit := do
  match (← get).naps with
  | 0 => throw (.asleep seconds)
  | n + 1 => modify fun m => { m with naps := n, clock := m.clock + seconds }

/-- The number of a process that starts now. -/
def newProcess : Run Nat := do
  let n := (← get).lastChild + 1
  modify fun m => { m with lastChild := n }
  return n

end Run

end LanguageClient
