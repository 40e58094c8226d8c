import LanguageClient.Text.Basic

/-!
Paths: their components, the absolute path without detours, and the extension of a file name.
-/

namespace LanguageClient.Path

def slash : CodePoint := '/'
def dot : CodePoint := '.'

/-- One slash, or the two slashes that exactly two of them are; nothing in a relative path. -/
def root (p : Text) : Text :=
  match (p.takeWhile (· = slash)).length with
  | 0 => []
  | 2 => [slash, slash]
  | _ => [slash]

def isAbsolute (p : Text) : Bool := !(root p).isEmpty

/-- The components that say something: neither empty nor a single dot. -/
def components (p : Text) : List Text :=
  (Text.splitAt slash p).filter fun c => !c.isEmpty && c ≠ [dot]

def ofComponents (root : Text) (cs : List Text) : Text := root ++ Text.joinWith [slash] cs

/-- The path without empty components and single dots. Steps upward stay. -/
def normalise (p : Text) : Text := ofComponents (root p) (components p)

/-- The last component; empty if there is none. -/
def name (p : Text) : Text := (components p).getLast?.getD []

/-- Takes back one component for every step upward; above the root there is nothing. -/
def ascend (cs : List Text) : List Text :=
  (cs.foldl (fun done c => if c = [dot, dot] then done.drop 1 else c :: done) []).reverse

/-- The path from the root, without detours; a relative one starts at the root too. -/
def resolve (p : Text) : Text :=
  let p := if isAbsolute p then p else slash :: p
  ofComponents (root p) (ascend (components p))

/-- What follows the last slash. -/
def baseName (p : Text) : Text := (p.reverse.takeWhile (· ≠ slash)).reverse

/-- What follows the last dot of the file name, unless only dots come before it. -/
def extension (p : Text) : Text :=
  let backwards := (baseName p).reverse
  let ending := backwards.takeWhile (· ≠ dot)
  let stem := (backwards.drop ending.length).drop 1
  if stem.any (· ≠ dot) then ending.reverse else []

end LanguageClient.Path
