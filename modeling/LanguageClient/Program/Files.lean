import LanguageClient.Text.Quoted
import LanguageClient.Uri.Basic

/-!
The files of the machine on which programs run, and how a path is followed to one of them.
-/

namespace LanguageClient

/-- Bytes, each as the character of its number. -/
abbrev Chars := List Char

namespace Chars

def ofBytes (bs : Bytes) : Chars := bs.map fun b => Char.ofNat b.toNat

def toBytes (cs : Chars) : Bytes := cs.map fun c => c.toNat.toUInt8

def ofText (t : Text) : Chars := ofBytes (((Uri.fileNameBytes t).toOption).getD [])

instance : Coe String Chars := ⟨String.toList⟩

/-- The pieces between the occurrences of one character. -/
def splitAt (c : Char) : Chars → List Chars
  | [] => [[]]
  | x :: xs =>
    if x = c then [] :: splitAt c xs
    else match splitAt c xs with
      | [] => [[x]]
      | p :: ps => (x :: p) :: ps

end Chars

namespace Files

inductive Kind where
  | directory
  | file
  | program
deriving DecidableEq

/-- The names on the way from the root. -/
abbrev Place := List Chars

def placeOf (path : Chars) : Place := (Chars.splitAt '/' path).filter (!·.isEmpty)

def directories : List String :=
  ["", "bin", "boot", "dev", "dev/shm", "etc", "etc/default", "etc/ssl", "home", "lib", "lib64",
    "media", "mnt", "opt", "proc", "root", "run", "sbin", "srv", "sys", "tmp", "usr", "usr/bin",
    "usr/games", "usr/include", "usr/lib", "usr/lib64", "usr/local", "usr/local/bin",
    "usr/local/lib", "usr/local/sbin", "usr/sbin", "usr/share", "usr/src", "var", "var/cache",
    "var/lib", "var/log", "var/tmp"]

def files : List String :=
  ["dev/null", "dev/zero", "dev/full", "dev/random", "dev/urandom", "dev/tty", "etc/passwd",
    "etc/group", "etc/shadow", "etc/hosts", "etc/hostname", "etc/fstab", "etc/issue",
    "etc/profile", "etc/resolv.conf", "etc/debian_version", "etc/os-release"]

/-- Directories that are only other names. -/
def aliases : List (String × String) :=
  [("bin", "usr/bin"), ("sbin", "usr/sbin"), ("lib", "usr/lib"), ("lib64", "usr/lib64")]

def programs : List String :=
  ["[", "awk", "base64", "basename", "bash", "cat", "chmod", "cp", "cut", "dash", "date", "dd",
    "df", "diff", "dirname", "du", "echo", "env", "expr", "factor", "false", "find", "fold", "grep",
    "gzip", "head", "hostname", "id", "kill", "ln", "ls", "md5sum", "mkdir", "mktemp", "mv",
    "nice", "nl", "nohup", "nproc", "od", "paste", "perl", "printenv", "printf", "ps", "pwd",
    "python3", "readlink", "realpath", "rev", "rm", "rmdir", "sed", "seq", "sh", "sha256sum",
    "sleep", "sort", "stat", "stdbuf", "tac", "tail", "tar", "tee", "test", "timeout", "touch",
    "tr", "true", "tty", "uname", "uniq", "wc", "which", "whoami", "xargs", "yes"]

/-- Where a program is looked up that is called by its name alone. -/
def searched : List Place :=
  [["usr", "local", "sbin"], ["usr", "local", "bin"], ["usr", "sbin"], ["usr", "bin"], ["sbin"],
    ["bin"]].map fun p => p.map String.toList

def written (p : Place) : Chars := List.intercalate ['/'] p

def kindOf? (p : Place) : Option Kind :=
  let path := written p
  if directories.any (·.toList = path) then some .directory
  else if files.any (·.toList = path) then some .file
  else
    match p.reverse with
    | name :: dir =>
      if written dir.reverse = "usr/bin".toList && programs.any (·.toList = name) then
        some .program
      else none
    | [] => none

/-- The place that a place is another name of. -/
def resolve (p : Place) : Place :=
  match aliases.find? fun (name, _) => name.toList = written p with
  | some (_, target) => placeOf target
  | none => p

/-- Why a path cannot be followed, or what it leads to not be run. -/
inductive Refusal where
  | missing
  | notPermitted
  | notADirectory
  | nameTooLong
deriving DecidableEq

def Refusal.text : Refusal → Text
  | missing => "[Errno 2] No such file or directory"
  | notPermitted => "[Errno 13] Permission denied"
  | notADirectory => "[Errno 20] Not a directory"
  | nameTooLong => "[Errno 36] File name too long"

def longestName : Nat := 255

def longestPath : Nat := 4095

/-- One name further. -/
def enter (p : Place) (name : Chars) : Except Refusal Place :=
  if kindOf? p ≠ some .directory then .error .notADirectory
  else if name = ['.'] then .ok p
  else if name = ['.', '.'] then .ok p.dropLast
  else if longestName < name.length then .error .nameTooLong
  else
    let next := resolve (p ++ [name])
    if (kindOf? next).isSome then .ok next else .error .missing

/-- The place that a path leads to, from a directory unless the path begins at the root. What a
slash follows is a directory. -/
def follow (start : Place) (path : Chars) : Except Refusal Place := do
  if path.isEmpty then throw .missing
  if longestPath < path.length then throw .nameTooLong
  let place ← (placeOf path).foldlM enter (if path.head? = some '/' then [] else start)
  if path.getLast? = some '/' && kindOf? place ≠ some .directory then throw .notADirectory
  return place

/-- Only a program can be run. -/
def refusalAt? (start : Place) (path : Chars) : Option Refusal :=
  match follow start path with
  | .error r => some r
  | .ok place => if kindOf? place = some .program then none else some .notPermitted

/-- A name without a slash is looked up. It is missing if no directory of programs holds it; what
is held there and cannot be run is not permitted. -/
def refusal? (executable : Chars) : Option Refusal :=
  if executable.contains '/' then refusalAt? [] executable
  else
    let tries := searched.map fun dir => refusalAt? [] ('/' :: written dir ++ '/' :: executable)
    if tries.contains none then none
    else
      let graver := tries.filter fun r => r ≠ some .missing && r ≠ some .notADirectory
      some ((graver.getLast?.getD (some .missing)).getD .missing)

end Files

end LanguageClient
