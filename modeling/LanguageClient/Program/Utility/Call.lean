import LanguageClient.Program.Machine
import LanguageClient.Program.Naming
import LanguageClient.Program.Shell.Writing

/-!
How programs take their arguments, and what they say of wrong ones.
-/

namespace LanguageClient.Utility

open Run

def natOf? (t : Chars) : Option Nat :=
  if t.isEmpty || !t.all Char.isDigit then none else some (Shell.Writing.natOf t)

def newline : Chars := ['\n']

/-- What a program says of a wrong call. -/
def misused (name : String) (text : Chars) : Run Nat := do
  complainAs name text
  complain ("Try '".toList ++ name.toList ++ " --help' for more information.\n".toList)
  return 1

def invalidOption (name : String) (option : Chars) : Run Nat :=
  let quoted (t : Chars) : Chars := '\'' :: t ++ ['\'']
  match option with
  | '-' :: '-' :: _ => misused name ("unrecognized option ".toList ++ quoted option)
  | _ => misused name ("invalid option -- ".toList ++ quoted ((option.drop 1).take 1))

def isOption (a : Chars) : Bool := a.head? = some '-' && a.length > 1

/-- What the arguments of a call come to: the letters of its options, and the other arguments. -/
structure Call where
  letters : Chars := []
  operands : List Chars := []

/-- Options with a letter, and some of them with a name. -/
structure Options where
  letters : Chars
  named : List (String × Char)

/-- The letter of an option that is named, maybe by the beginning of its name; or a complaint. -/
def Options.find (o : Options) (option : Chars) : Except Chars Char :=
  let name := (option.drop 2).takeWhile (· ≠ '=')
  let shown (n : Chars) : Chars := "'--".toList ++ n ++ ['\'']
  let fit := o.named.filter fun n => name.isPrefixOf n.1.toList
  match (fit.filter fun n => n.1.toList = name) ++ fit with
  | [] => .error ("unrecognized option '".toList ++ option ++ ['\''])
  | (n, letter) :: rest =>
    if n.toList ≠ name && !rest.isEmpty then
      .error ("option ".toList ++ shown name ++ " is ambiguous; possibilities:".toList ++
        fit.flatMap fun n => ' ' :: shown n.1.toList)
    else if option.contains '=' then
      .error ("option ".toList ++ shown n.toList ++ " doesn't allow an argument".toList)
    else .ok letter

/-- Reads arguments. Options may stand anywhere before a double dash. -/
def Options.read (o : Options) (c : Call) : List Chars → Except Chars Call
  | [] => .ok c
  | a :: rest =>
    if a = ['-', '-'] then .ok { c with operands := c.operands ++ rest }
    else if ['-', '-'].isPrefixOf a then
      match o.find a with
      | .ok letter => o.read { c with letters := c.letters ++ [letter] } rest
      | .error text => .error text
    else if isOption a then
      match (a.drop 1).find? (!o.letters.contains ·) with
      | some l => .error ("invalid option -- '".toList ++ [l, '\''])
      | none => o.read { c with letters := c.letters ++ a.drop 1 } rest
    else o.read { c with operands := c.operands ++ [a] } rest

end LanguageClient.Utility
