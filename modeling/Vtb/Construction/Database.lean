/-
This file embeds the configuration database of `config_manager.h` and `config_manager.cpp`:
`set_value`, `get_value` and `dump_config`. They hold `db_mutex_`, and each access to the map and each logged
line is a step of its own. A value keeps its decayed type, as `std::any` does. The order in which the hash table
iterates is open.
-/

import Vtb.Library.Monitor
import Vtb.Construction.CmdlineParser

namespace Vtb
open Library

/-- The types that `dump_config` knows; every other type has a name. -/
inductive ValueType where
  | int
  | bool
  | string
  | uint64
  | object (name : String)
deriving DecidableEq

/-- `Object` gives the values of the other types. -/
abbrev ValueType.Carrier (Object : String → Type) : ValueType → Type
  | .int => Int32
  | .bool => Bool
  | .string => String
  | .uint64 => UInt64
  | .object name => Object name

/-- A `std::any` that is not empty. -/
structure AnyValue (Object : String → Type) where
  type : ValueType
  value : type.Carrier Object

/-- `std::any_cast` throws when the type is another one. -/
def AnyValue.cast {Object : String → Type} (type : ValueType) (held : AnyValue Object) :
    Option (type.Carrier Object) :=
  if same : held.type = type then some (same ▸ held.value) else none

/-- The text of one value in the dump. -/
def AnyValue.shown {Object : String → Type} : AnyValue Object → String
  | ⟨.int, value⟩ => toString (Int32.toInt value)
  | ⟨.bool, value⟩ => if value then "true" else "false"
  | ⟨.string, value⟩ => value
  | ⟨.uint64, value⟩ => "0x" ++ String.ofList (Nat.toDigits 16 (UInt64.toNat value))
  | ⟨.object _, _⟩ => "[Object]"

/-- The subscript makes an empty `std::any` first. -/
abbrev Database (Object : String → Type) := Std.ExtTreeMap String (Option (AnyValue Object))

/-- `order` is the order in which the hash table iterates. -/
inductive DatabaseCall (Object : String → Type) where
  | setValue (key : String) (value : AnyValue Object)
  | getValue (key : String) (type : ValueType)
  | dumpConfig (order : List String)

inductive DatabaseAnswer (Object : String → Type) where
  | got (type : ValueType) (value : Option (type.Carrier Object))
  | dumped (lines : List String)

/-- Where a call is in its critical section. -/
inductive DatabasePosition (Object : String → Type) where
  | entering (call : DatabaseCall Object)
  | assigning (key : String) (value : AnyValue Object)
  | dumping (keys : List String) (lines : List String)

namespace Database
variable {Object : String → Type}

def dumpHeader : String := "--- [Config DB Dump] ---"

/-- An empty value is shown like an object. -/
def dumpLine (key : String) (held : Option (AnyValue Object)) : String :=
  "Key: " ++ padRight 20 key ++ " | Value: " ++ (held.map AnyValue.shown).getD "[Object]"

/-- The hash table iterates over each of its keys once. -/
def Iterates (database : Database Object) (order : List String) : Prop := order.Perm database.keys

instance (database : Database Object) (order : List String) : Decidable (database.Iterates order) :=
  inferInstanceAs (Decidable (List.Perm _ _))

/-- A key that is missing and a type that is another one both give no value. -/
def getValue (database : Database Object) (key : String) (type : ValueType) : Option (type.Carrier Object) :=
  match database[key]? with
  | none => none
  | some held => held.bind (AnyValue.cast type)

/-- The next step of a call that has the mutex. -/
def advance (position : DatabasePosition Object) (database : Database Object) :
    Option (Database Object × (DatabasePosition Object ⊕ List (DatabaseAnswer Object))) :=
  match position with
  | .entering (.setValue key value) =>
      some (database.insert key ((database[key]?).getD none), .inl (.assigning key value))
  | .entering (.getValue key type) => some (database, .inr [.got type (database.getValue key type)])
  | .entering (.dumpConfig order) =>
      if database.Iterates order then some (database, .inl (.dumping order [dumpHeader])) else none
  | .assigning key value => some (database.insert key (some value), .inr [])
  | .dumping [] lines => some (database, .inr [.dumped lines])
  | .dumping (key :: keys) lines =>
      (database[key]?).map fun held => (database, .inl (.dumping keys (lines ++ [dumpLine key held])))

/-- The calls as procedures under `db_mutex_`. -/
def procedures : Procedures (DatabaseCall Object) (DatabasePosition Object) (Database Object)
    (List (DatabaseAnswer Object)) :=
  ⟨.entering, advance⟩

/-- A call without a step of another thread in between. -/
def call (database : Database Object) :
    DatabaseCall Object → Option (Database Object × List (DatabaseAnswer Object))
  | .setValue key value => some (database.insert key (some value), [])
  | .getValue key type => some (database, [.got type (database.getValue key type)])
  | .dumpConfig order =>
      if database.Iterates order then
        some (database, [.dumped (dumpHeader :: order.map fun key => dumpLine key ((database[key]?).getD none))])
      else none

/-- The calls happen one after the other. -/
def callMachine : Machine (Database Object) (DatabaseCall Object) (DatabaseAnswer Object) := ⟨call⟩

end Database

end Vtb
