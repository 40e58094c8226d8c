import LanguageClient.Text.Basic
import LanguageClient.Text.Quoted
import LanguageClient.Number.Read

/-!
Hosts in brackets: addresses of the sixth version, or of a version to come.
-/

namespace LanguageClient.Uri.Host

def isOctet (t : Text) : Bool :=
  !t.isEmpty && t.all CodePoint.isDigit && t.length ≤ 3 &&
    (t = "0" || t.head? ≠ some '0') && Number.ofDigits t ≤ 255

/-- Four decimal numbers with dots between them. -/
def isDotted (t : Text) : Bool :=
  let parts := Text.splitAt '.' t
  parts.length == 4 && parts.all isOctet

def isGroup (t : Text) : Bool := !t.isEmpty && t.length ≤ 4 && t.all fun c => c.hexDigit?.isSome

/-- Groups with a gap that stands for at least one group of zeros. -/
def fillsGap (before after : List Text) : Bool :=
  let side (parts : List Text) (outer : Option Text) : Option (List Text) :=
    match outer with
    | some [] => if parts.length == 1 then some [] else none
    | _ => some parts
  match side before before.head?, side after after.getLast? with
  | some before, some after =>
    before.length + after.length ≤ 7 && before.all isGroup && after.all isGroup
  | _, _ => false

/-- The groups of an address in which a dotted ending counts as two groups. -/
def groups? (t : Text) : Option (List Text) :=
  let parts := Text.splitAt ':' t
  if parts.length < 3 then none
  else
    match parts.getLast? with
    | some ending =>
      if ending.contains ('.' : CodePoint) then
        if isDotted ending then some (parts.dropLast ++ [Text.zeros 1, Text.zeros 1]) else none
      else some parts
    | none => none

/-- The places of the empty parts between the first part and the last one. -/
def gaps (parts : List Text) : List Nat :=
  (List.range parts.length).filter fun i =>
    0 < i && i + 1 < parts.length && parts[i]? == some []

def isGrouped (t : Text) : Bool :=
  match groups? t with
  | none => false
  | some parts =>
    parts.length ≤ 9 &&
      match gaps parts with
      | [] => parts.length == 8 && parts.all isGroup
      | [i] => fillsGap (parts.take i) (parts.drop (i + 1))
      | _ => false

/-- The address without its scope, which must not be empty nor have a scope of its own. -/
def withoutScope? (t : Text) : Option Text :=
  match Text.cutAt '%' t with
  | none => some t
  | some (address, scope) =>
    if scope.isEmpty || scope.contains ('%' : CodePoint) then none else some address

def isSixth (t : Text) : Bool :=
  !t.contains ('/' : CodePoint) &&
    match withoutScope? t with
    | some address => isGrouped address
    | none => false

/-- `v`, hexadecimal digits, a dot and something on one line. -/
def isFuture (t : Text) : Bool :=
  match Text.cutAt '.' (t.drop 1) with
  | some (version, rest) =>
    !version.isEmpty && version.all (fun c => c.hexDigit?.isSome) && !rest.isEmpty &&
      !rest.contains ('\n' : CodePoint)
  | none => false

/-- What is wrong with a host in brackets. -/
def complaint? (t : Text) : Option Text :=
  if t.head? = some 'v' then
    if isFuture t then none else some "IPvFuture address is invalid"
  else if isDotted t then some "An IPv4 address cannot be in brackets"
  else if isSixth t then none
  else some (Quoted.text t ++ " does not appear to be an IPv4 or IPv6 address")

end LanguageClient.Uri.Host
