import LanguageClient.Program.Shell.Evaluation

/-!
Programs as they run: a job goes as far as the input and the time that it was given lets it, and
further when it is given more.
-/

namespace LanguageClient

structure Job where
  id : Chars
  words : List Chars
  /-- The chunks of input that have arrived. -/
  received : List Chars := []
  inputEnded : Bool := false
  /-- How many sleeps were slept to their end. -/
  naps : Nat := 0
  /-- How many characters of the output, and of the complaints, were taken from the job. -/
  outputTaken : Nat := 0
  complaintsTaken : Nat := 0

namespace Job

/-- Why a job goes no further for now, or that it has ended. -/
inductive Halt where
  | hungry
  | asleep (seconds : Float)
  | ended (code : Int)

/-- What a job wrote and was not taken from it. -/
structure Written where
  output : Bytes
  complaints : Bytes

/-- How many commands a job performs one inside or after the other. -/
def patience : Nat := 20000

/-- How often a job sleeps while it is waited for. -/
def mostNaps : Nat := 200

def environment : List (Chars × Chars) :=
  [("PATH", "/usr/local/sbin:/usr/local/bin:/usr/sbin:/usr/bin:/sbin:/bin"), ("HOME", "/root")]

/-- The machine on which a job is at its start, with the input that it has been given. -/
def machine (j : Job) : Machine where
  id := j.id
  setting := {
    name := j.words.headD []
    bindings := environment
    exported := environment.map (·.1)
    channels := [(0, .input 0), (1, .outlet .output), (2, .outlet .complaints)] }
  streams := [⟨j.received, j.inputEnded⟩]
  naps := j.naps

def haltOf : Except Stop Nat → Halt
  | .ok status | .error (.exits status) | .error (.returns status) => .ended (status % 256 : Nat)
  | .error .fails => .ended 2
  | .error (.killed signal) => .ended (-signal)
  | .error (.asleep seconds) => .asleep seconds
  | .error _ => .hungry

/-- All that was written to a place. -/
def writtenTo (outlet : Outlet) (m : Machine) : Chars :=
  ((m.written.filter (·.1 = outlet)).reverse.map (·.2)).flatten

/-- How far the job comes. What it writes it writes again each time; only what is new is taken. -/
def run (j : Job) : Job × Written × Halt :=
  let (ended, m) := (Shell.runProgram patience j.words).run.run j.machine
  let output := writtenTo .output m
  let complaints := writtenTo .complaints m
  ({ j with outputTaken := output.length, complaintsTaken := complaints.length },
    ⟨Chars.toBytes (output.drop j.outputTaken), Chars.toBytes (complaints.drop j.complaintsTaken)⟩,
    haltOf ended)

def receive (j : Job) (data : Bytes) : Job :=
  { j with received := j.received ++ [Chars.ofBytes data] }

def endInput (j : Job) : Job := { j with inputEnded := true }

/-- A job that slept has slept enough. -/
def wake (j : Job) : Job := { j with naps := j.naps + 1 }

end Job

end LanguageClient
