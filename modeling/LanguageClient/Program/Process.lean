import LanguageClient.Fault
import LanguageClient.Json.Access
import LanguageClient.Program.Job

/-!
A process as it is seen through its pipes: what it writes and has not been read, what becomes of its
input, and whether it has ended.
-/

namespace LanguageClient

/-- What reading from a pipe yields. -/
inductive Chunk where
  | data (bytes : Bytes)
  | ends
  | fails (message : Text)

/-- What can be done to the input of a process, and can fail. -/
inductive InputPart where
  | write
  | flush
  | close
deriving DecidableEq

/-- What a process runs: a job, or nothing at all, so that others decide what it writes. -/
inductive Program where
  | job (j : Job)
  | standIn (code : Json) (hangs : Bool)

structure Process where
  id : Json
  program : Program
  code? : Option Json := none
  output : List Chunk := []
  complaints : List Chunk := []
  inputFaults : List (InputPart × Text) := []

namespace Process

/-- The code that the process ended with, null while it runs. -/
def poll (p : Process) : Json := p.code?.getD .null

def hasEnded (p : Process) : Bool := p.code?.isSome

/-- The end of a process is the end of what it writes. -/
def exit (p : Process) (code : Json) : Process :=
  { p with
    code? := some code
    output := p.output ++ [.ends]
    complaints := p.complaints ++ [.ends] }

def emit (p : Process) (w : Job.Written) : Process :=
  let chunks (bytes : Bytes) : List Chunk := if bytes.isEmpty then [] else [.data bytes]
  { p with
    output := p.output ++ chunks w.output
    complaints := p.complaints ++ chunks w.complaints }

/-- Lets the job run as far as it can. -/
def advance (p : Process) : Process :=
  match p.program with
  | .standIn .. => p
  | .job j =>
    if p.hasEnded then p
    else
      let (j, written, halt) := j.run
      let p := { p with program := .job j }.emit written
      match halt with
      | .ended code => p.exit (.int code)
      | _ => p

def inputFault? (p : Process) (part : InputPart) : Option Text :=
  (p.inputFaults.find? fun (q, _) => q = part).map (·.2)

def updateJob (p : Process) (f : Job → Job) : Process :=
  match p.program with
  | .job j => { p with program := .job (f j) }.advance
  | .standIn .. => p

def receive (p : Process) (data : Bytes) : Process := p.updateJob fun j => j.receive data

def endInput (p : Process) : Process := p.updateJob Job.endInput

def wake (p : Process) : Process := p.updateJob Job.wake

/-- How long the process sleeps, if it does. -/
def asleep? (p : Process) : Option Float :=
  match p.program with
  | .standIn .. => none
  | .job j =>
    match j.run with
    | (_, _, .asleep seconds) => if p.hasEnded then none else some seconds
    | _ => none

/-- Lets time pass until the job has ended or would outlast the time that is left. -/
def outlast (p : Process) : Nat → Option Float → Option Process
  | 0, _ => none
  | fuel + 1, left =>
    if p.hasEnded then some p
    else
      match p.asleep? with
      | none => none
      | some seconds =>
        match left with
        | none => p.wake.outlast fuel none
        | some t => if t < seconds then none else p.wake.outlast fuel (some (t - seconds))

/-- Waits for the end of the process; nothing comes of it if it takes longer than the timeout.
Waiting for a stand-in that hangs takes too long even when it has ended. -/
def wait (p : Process) (timeout : Option Float) : Option Process :=
  match p.program with
  | .standIn code hangs =>
    if hangs then none else if p.hasEnded then some p else some (p.exit code)
  | .job _ => p.outlast Job.mostNaps timeout

def killedCode : Json := .int (-9)

def kill (p : Process) : Process :=
  match p.program with
  | .standIn _ _ =>
    { p with program := .standIn killedCode false, code? := p.code?.map fun _ => killedCode }
  | .job _ => if p.hasEnded then p else p.exit killedCode

end Process

end LanguageClient
