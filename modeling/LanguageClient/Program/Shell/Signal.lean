import LanguageClient.Program.Files

/-!
Signals by name and number.
-/

namespace LanguageClient.Shell.Signal

/-- The signals with a name, their numbers, and what is said of a program that one of them ended. -/
def table : List (String × Nat × String) :=
  [("HUP", 1, "Hangup"), ("INT", 2, ""), ("QUIT", 3, "Quit"), ("ILL", 4, "Illegal instruction"),
    ("TRAP", 5, "Trace/breakpoint trap"), ("ABRT", 6, "Aborted"), ("BUS", 7, "Bus error"),
    ("FPE", 8, "Floating point exception"), ("KILL", 9, "Killed"),
    ("USR1", 10, "User defined signal 1"), ("SEGV", 11, "Segmentation fault"),
    ("USR2", 12, "User defined signal 2"), ("PIPE", 13, ""), ("ALRM", 14, "Alarm clock"),
    ("TERM", 15, "Terminated"), ("16", 16, "Stack fault"), ("CHLD", 17, ""), ("CONT", 18, ""),
    ("STOP", 19, ""), ("TSTP", 20, ""), ("TTIN", 21, ""), ("TTOU", 22, ""), ("URG", 23, ""),
    ("XCPU", 24, "CPU time limit exceeded"), ("XFSZ", 25, "File size limit exceeded"),
    ("VTALRM", 26, "Virtual timer expired"), ("PROF", 27, "Profiling timer expired"),
    ("WINCH", 28, ""), ("IO", 29, "I/O possible"), ("PWR", 30, "Power failure"),
    ("SYS", 31, "Bad system call"), ("32", 32, ""), ("33", 33, "")]

/-- The largest number of a signal. -/
def last : Nat := 64

/-- The name of a number; the end of a shell counts as the signal zero. Above the table stand those
that are named by their distance from the ends of a range. -/
def nameOf? (n : Nat) : Option Chars :=
  let numbered (front : String) (k : Nat) : Chars :=
    if k = 0 then [] else front.toList ++ (Nat.repr k).toList
  if n = 0 then some "EXIT"
  else
    match table.find? (·.2.1 = n) with
    | some (name, _) => some name
    | none =>
      if last < n then none
      else if n < 50 then some ("RTMIN".toList ++ numbered "+" (n - 34))
      else some ("RTMAX".toList ++ numbered "-" (last - n))

def digitsValue? (t : Chars) : Option Nat :=
  if t.isEmpty || !t.all Char.isDigit then none
  else some (t.foldl (fun n c => n * 10 + (c.toNat - '0'.toNat)) 0)

def numbers : List Nat := List.range (last + 1)

/-- The number that a number or a name in letters of any case stands for. -/
def number? (t : Chars) : Option Nat :=
  match digitsValue? t with
  | some n => if n ≤ last then some n else none
  | none => numbers.find? fun n => nameOf? n = some (t.map Char.toUpper)

/-- Signals that end nothing. -/
def isHarmless (n : Nat) : Bool := [0, 17, 18, 19, 20, 21, 22, 23, 28].contains n

/-- What is said of a program that a signal ended. -/
def obituary (n : Nat) : Chars :=
  match table.find? (·.2.1 = n) with
  | some (_, _, text) => text
  | none => if n < 34 then [] else "Real-time signal ".toList ++ (Nat.repr (n - 34)).toList

end LanguageClient.Shell.Signal
