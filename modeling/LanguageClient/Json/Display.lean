import LanguageClient.Json.Basic
import LanguageClient.Number.Shortest
import LanguageClient.Text.Quoted

/-!
Values in messages for people: a text stands for itself, and is quoted inside lists and objects.
-/

namespace LanguageClient.Json

def floatName (x : Float) : Text :=
  match Binary.ofFloat x with
  | .notANumber => "nan"
  | .infinite negative => if negative then "-inf" else "inf"
  | .finite negative m e => Shortest.finiteText negative m e

mutual

def describe : Json → Text
  | null => "None"
  | bool b => if b then "True" else "False"
  | int n => Text.ofInt n
  | float x => floatName x
  | text t => Quoted.text t
  | list [] => "[]"
  | list (v :: vs) => "[" ++ describe v ++ describeItems vs ++ "]"
  | object [] => "\x7b\x7d"
  | object ((k, v) :: rest) =>
    "\x7b" ++ Quoted.text k ++ ": " ++ describe v ++ describeFields rest ++ "\x7d"

def describeItems : List Json → Text
  | [] => []
  | v :: vs => ", " ++ describe v ++ describeItems vs

def describeFields : Fields → Text
  | [] => []
  | (k, v) :: rest => ", " ++ Quoted.text k ++ ": " ++ describe v ++ describeFields rest

end

def display : Json → Text
  | text t => t
  | v => describe v

end LanguageClient.Json
