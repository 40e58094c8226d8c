import LanguageClient.Logging
import LanguageClient.Program.Process

/-!
A link to a process through its pipes. What a client writes waits in a queue for the writer, which
hands it to the process; what the process writes is put by two readers into queues for the client.
No operation of the client waits for the process, apart from closing the link.
-/

namespace LanguageClient

/-- Who acts on a link: the client, or one of the pumps; the process takes its input by itself. -/
inductive Role where
  | client
  | input
  | writer
  | reader
  | listener
deriving DecidableEq

structure Pipes where
  name : Text
  process : Process
  /-- What is to be written; nothing marks the end of it. -/
  outgoing : List (Option Bytes) := []
  incoming : List Bytes := []
  complaints : List Text := []
  /-- The bytes of a line of which the end has not been read. -/
  partLine : Bytes := []
  /-- Whether the end of what the process writes was read. -/
  ended : Bool := false
  /-- Whether writing failed. -/
  broken : Bool := false
  closed : Bool := false
  writing : Bool := true
  reading : Bool := true
  listening : Bool := true

namespace Pipes

inductive Event where
  | logged (role : Role) (level : Int) (text : Text)
  | written (data : Bytes)
  | inputClosed
  | awaited (timeout : Json)
  | killed

def Event.role : Event → Role
  | logged role .. => role
  | written _ => .input
  | inputClosed | awaited _ | killed => .client

def tag (p : Pipes) : Text := "[" ++ p.name ++ "] "

def debug (role : Role) (text : Text) : Event := .logged role Level.debug text

/-- A process that runs, with the pumps at its pipes. -/
def launch (name : Text) (process : Process) : Pipes × List Event :=
  let p : Pipes := { name, process }
  (p, [debug .writer (p.tag ++ "Writer started 🟢"), debug .reader (p.tag ++ "Reader started 🟢")])

/-- A link is alive until writing failed, it was closed, or all that the process wrote was taken. -/
def isAlive (p : Pipes) : Bool :=
  !p.broken && !p.closed && !(p.ended && p.incoming.isEmpty)

/-- Queues data for the writer. -/
def write (p : Pipes) (data : Bytes) : Checked Pipes :=
  if p.broken || p.closed then
    .error (.failure (.write (p.name ++ " - Can't write; Transport is closed")))
  else .ok { p with outgoing := p.outgoing ++ [some data] }

/-- Takes what has been read so far, if there is anything. -/
def takeIncoming (p : Pipes) : Option Bytes × Pipes :=
  (if p.incoming.isEmpty then none else some p.incoming.flatten, { p with incoming := [] })

/-- Takes the lines that have been read so far from what the process complains about. -/
def takeComplaints (p : Pipes) : List Text × Pipes :=
  (p.complaints, { p with complaints := [] })

end Pipes

end LanguageClient
