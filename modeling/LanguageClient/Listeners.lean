import LanguageClient.Json.Access

/-!
Listeners to events and to methods of messages, in the order in which they were added.
-/

namespace LanguageClient

structure Listeners (κ : Type) where
  events : List (Json.Key × κ) := []
  methods : List (Json.Key × κ) := []

namespace Listeners

variable {κ : Type}

def onEvent (ls : Listeners κ) (name : Json.Key) (listener : κ) : Listeners κ :=
  { ls with events := ls.events ++ [(name, listener)] }

def onMethod (ls : Listeners κ) (name : Json.Key) (listener : κ) : Listeners κ :=
  { ls with methods := ls.methods ++ [(name, listener)] }

def named (name : Json.Key) (table : List (Json.Key × κ)) : List κ :=
  table.filterMap fun (n, listener) => if n = name then some listener else none

def ofEvent (ls : Listeners κ) (name : Json.Key) : List κ := named name ls.events

def ofMethod (ls : Listeners κ) (name : Json.Key) : List κ := named name ls.methods

def hasMethod (ls : Listeners κ) (name : Json.Key) : Bool := !(ls.ofMethod name).isEmpty

end Listeners

end LanguageClient
