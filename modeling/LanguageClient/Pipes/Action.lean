import LanguageClient.Pipes.Close
import LanguageClient.Pipes.Start

/-!
What is done at the two ends of a link to a process, one thing after the other. After each of them
the pumps come to rest.
-/

namespace LanguageClient.Pipes

inductive Action where
  /-- What the process writes. -/
  | writes (chunk : Chunk)
  | complains (chunk : Chunk)
  | inputFails (part : InputPart) (message : Text)
  | exits
  | write (data : Bytes)
  | takeIncoming
  | takeComplaints
  | isAlive
  | poll
  | id
  | close (timeout : Json)
  /-- Comes to nothing. -/
  | fails (f : Fault)
  /-- Waits until so many bytes have been read, so many lines, or the link is dead. -/
  | awaitIncoming (count : Nat)
  | awaitComplaints (count : Nat)
  | awaitDeath

inductive Answer where
  | nothing
  | data (bytes : Option Bytes)
  | lines (ts : List Text)
  | flag (b : Bool)
  | value (v : Json)

def updateProcess (p : Pipes) (f : Process → Process) : Pipes := { p with process := f p.process }

def exitCode (p : Process) : Json :=
  match p.program with
  | .standIn code _ => code
  | .job _ => p.poll

/-- Lets the process sleep its time until a link is as it should be, or can no longer become so. -/
def passTime (isDone : Pipes → Bool) : Nat → Pipes → Pipes × List Event
  | 0, p => (p, [])
  | fuel + 1, p =>
    if isDone p || (p.process.asleep?).isNone then (p, [])
    else
      let (p, events) := (p.updateProcess Process.wake).settle
      let (p, more) := passTime isDone fuel p
      (p, events ++ more)

def await (p : Pipes) (isDone : Pipes → Bool) : Pipes × List Event :=
  passTime isDone Job.mostNaps p

def received (p : Pipes) : Nat := p.incoming.flatten.length

def dataAnswer (p : Pipes) : Checked Answer × Pipes :=
  let (bytes, p) := p.takeIncoming
  (.ok (.data bytes), p)

def linesAnswer (p : Pipes) : Checked Answer × Pipes :=
  let (ts, p) := p.takeComplaints
  (.ok (.lines ts), p)

def perform (p : Pipes) : Action → Checked Answer × Pipes × List Event
  | .writes chunk =>
    (.ok .nothing, p.updateProcess fun q => { q with output := q.output ++ [chunk] }, [])
  | .complains chunk =>
    (.ok .nothing, p.updateProcess fun q => { q with complaints := q.complaints ++ [chunk] }, [])
  | .inputFails part message =>
    (.ok .nothing,
      p.updateProcess fun q => { q with inputFaults := (part, message) :: q.inputFaults }, [])
  | .exits => (.ok .nothing, p.updateProcess fun q => q.exit (exitCode q), [])
  | .write data =>
    match p.write data with
    | .ok p => (.ok .nothing, p, [])
    | .error f => (.error f, p, [])
  | .takeIncoming =>
    let (a, p) := p.dataAnswer
    (a, p, [])
  | .takeComplaints =>
    let (a, p) := p.linesAnswer
    (a, p, [])
  | .isAlive => (.ok (.flag p.isAlive), p, [])
  | .poll => (.ok (.value p.process.poll), p, [])
  | .id => (.ok (.value p.process.id), p, [])
  | .close timeout =>
    let (code, p, events) := p.close timeout
    (code.map .value, p, events)
  | .fails f => (.error f, p, [])
  | .awaitIncoming count =>
    let (p, events) := p.await fun p => count ≤ p.received
    let (a, p) := p.dataAnswer
    (a, p, events)
  | .awaitComplaints count =>
    let (p, events) := p.await fun p => count ≤ p.complaints.length
    let (a, p) := p.linesAnswer
    (a, p, events)
  | .awaitDeath =>
    let (p, events) := p.await fun p => !p.isAlive
    (.ok (.flag p.isAlive), p, events)

/-- Does one thing and lets the pumps come to rest. -/
def act (p : Pipes) (a : Action) : Checked Answer × Pipes × List Event :=
  let (answer, p, events) := p.perform a
  let (p, more) := p.settle
  (answer, p, events ++ more)

/-- What came of an action, what happened meanwhile, and the link after it. -/
structure Outcome where
  result : Checked Answer
  events : List Event
  link : Pipes

def outcomes (p : Pipes) : List Action → List Outcome
  | [] => []
  | a :: rest =>
    let (result, p, events) := p.act a
    ⟨result, events, p⟩ :: outcomes p rest

end LanguageClient.Pipes
