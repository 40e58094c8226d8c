import LanguageClient.Pipes.Action
import Mathlib.Logic.Relation
import Mathlib.Tactic.Lemma

/-!
Steps at a link to a process. The process, the pumps and the client take them in any order. What the
client does takes several of them, and others may come in between.
-/

namespace LanguageClient

/-- Whether reading a pipe goes on after it. -/
def Chunk.isPiece : Chunk → Bool
  | .data bytes => !bytes.isEmpty
  | _ => false

namespace Pipes

/-- What a process has to say: what it writes up to its end. -/
def speech : List Chunk → Bytes
  | .data bytes :: rest => if bytes.isEmpty then [] else bytes ++ speech rest
  | _ => []

def Event.data? : Event → Option Bytes
  | .written data => some data
  | _ => none

/-- The data that the input of the process was given. -/
def given (events : List Event) : List Bytes := events.filterMap Event.data?

/-- What the client is in the middle of. -/
inductive Stage where
  | idle
  /-- The link was found open, and the data will be queued. -/
  | writing (data : Bytes)
  /-- These pieces were taken so far. -/
  | taking (pieces : List Bytes)
  /-- The link was found neither broken nor closed. -/
  | asking
  /-- And nothing more will be read. -/
  | askingOn
  /-- Data is refused, and the writer will be told to stop. -/
  | closing
  /-- The writer is waited for. -/
  | joining
  /-- Waiting for the writer is over, and it had stopped or not. -/
  | joined (stopped : Bool)
  /-- The input is closed, and the process is waited for. -/
  | ending (stopped : Bool)

/-- The pieces that were taken and not handed over. -/
def Stage.pieces : Stage → List Bytes
  | taking pieces => pieces
  | _ => []

structure Moment where
  link : Pipes
  stage : Stage
  /-- All that the process wrote. -/
  said : List Chunk
  /-- The data that was accepted, the first of it first. -/
  accepted : List Bytes
  /-- What was taken from the link. -/
  taken : Bytes
  events : List Event

namespace Moment

def launched (name : Text) (process : Process) : Moment where
  link := (launch name process).1
  stage := .idle
  said := process.output
  accepted := []
  taken := []
  events := (launch name process).2

end Moment

/-- What the client does may come to an answer. -/
inductive Step (m : Moment) : Option (Checked Answer) → Moment → Prop where
  -- The process and the pumps
  | acted {process : Process} {more : List Chunk}
    (output : process.output = m.link.process.output ++ more) :
    Step m none { m with link := { m.link with process }, said := m.said ++ more }
  | wrote {link : Pipes} {events : List Event} {more : List Chunk}
    (step : m.link.writeStep? = some (link, events))
    (output : link.process.output = m.link.process.output ++ more) :
    Step m none { m with link, said := m.said ++ more, events := m.events ++ events }
  | read {link : Pipes} {events : List Event} (step : m.link.readStep? = some (link, events)) :
    Step m none { m with link, events := m.events ++ events }
  | heard {link : Pipes} {events : List Event} (step : m.link.listenStep? = some (link, events)) :
    Step m none { m with link, events := m.events ++ events }
  | noted {event : Event} (aside : event.data? = none) :
    Step m none { m with events := m.events ++ [event] }
  -- Writing
  | refused {f : Fault} (stage : m.stage = .idle) (shut : m.link.broken ∨ m.link.closed) :
    Step m (some (.error f)) m
  | looked (data : Bytes) (stage : m.stage = .idle) (broken : m.link.broken = false)
    (closed : m.link.closed = false) : Step m none { m with stage := .writing data }
  | queued {data : Bytes} (stage : m.stage = .writing data) :
    Step m (some (.ok .nothing)) { m with
      link := { m.link with outgoing := m.link.outgoing ++ [some data] }
      stage := .idle
      accepted := m.accepted ++ [data] }
  -- Reading
  | began (stage : m.stage = .idle) : Step m none { m with stage := .taking [] }
  | took {pieces rest : List Bytes} {piece : Bytes} (stage : m.stage = .taking pieces)
    (incoming : m.link.incoming = piece :: rest) :
    Step m none { m with link := { m.link with incoming := rest }, stage := .taking (pieces ++ [piece]) }
  | handed {pieces : List Bytes} (stage : m.stage = .taking pieces) (incoming : m.link.incoming = []) :
    Step m (some (.ok (.data (if pieces.isEmpty then none else some pieces.flatten))))
      { m with stage := .idle, taken := m.taken ++ pieces.flatten }
  | tookComplaints (stage : m.stage = .idle) :
    Step m (some (.ok (.lines m.link.complaints))) { m with link := { m.link with complaints := [] } }
  -- Asking whether the link is alive
  | dead (stage : m.stage = .idle) (shut : m.link.broken ∨ m.link.closed) :
    Step m (some (.ok (.flag false))) m
  | asked (stage : m.stage = .idle) (broken : m.link.broken = false) (closed : m.link.closed = false) :
    Step m none { m with stage := .asking }
  | unended (stage : m.stage = .asking) (ended : m.link.ended = false) :
    Step m (some (.ok (.flag true))) { m with stage := .idle }
  | askedOn (stage : m.stage = .asking) (ended : m.link.ended) : Step m none { m with stage := .askingOn }
  | spent (stage : m.stage = .askingOn) (incoming : m.link.incoming = []) :
    Step m (some (.ok (.flag false))) { m with stage := .idle }
  | unspent (stage : m.stage = .askingOn) (incoming : m.link.incoming ≠ []) :
    Step m (some (.ok (.flag true))) { m with stage := .idle }
  -- Asking for the process
  | named (stage : m.stage = .idle) : Step m (some (.ok (.value m.link.process.id))) m
  | polled (stage : m.stage = .idle) : Step m (some (.ok (.value m.link.process.poll))) m
  -- Closing
  | closed (stage : m.stage = .idle) (closed : m.link.closed = false) :
    Step m none { m with link := { m.link with closed := true }, stage := .closing }
  | marked (stage : m.stage = .closing) :
    Step m none { m with
      link := { m.link with outgoing := m.link.outgoing ++ [none] }
      stage := .joining }
  | failed {f : Fault} (stage : m.stage = .joining) : Step m (some (.error f)) { m with stage := .idle }
  | joined (stage : m.stage = .joining) : Step m none { m with stage := .joined (!m.link.writing) }
  | parted {stopped : Bool} {more : List Chunk} (stage : m.stage = .joined stopped)
    (output : m.link.process.endInput.output = m.link.process.output ++ more) :
    Step m none { m with
      link := m.link.closeInput.1
      stage := .ending stopped
      said := m.said ++ more
      events := m.events ++ m.link.closeInput.2 }
  | returned {stopped : Bool} (stage : m.stage = .ending stopped) :
    Step m (some (.ok (.value m.link.process.poll))) { m with stage := .idle }

/-- What may be once a process was launched. -/
inductive Reached : Moment → Prop where
  | launched (name : Text) (process : Process) : Reached (.launched name process)
  | step {m n : Moment} {answer : Option (Checked Answer)} (reached : Reached m)
    (step : Step m answer n) : Reached n

end Pipes

end LanguageClient
