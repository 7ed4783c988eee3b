/-
**JSON values.**

The members of an object are kept in the order in which they are written.

Main definitions:

* `ThemeCompiler.Json` — values;
* `ThemeCompiler.Json.names`, `ThemeCompiler.Json.optional` — parts of encodings;
* `ThemeCompiler.Sorted.insert` — a member of an object whose keys are sorted.
-/

import ThemeCompiler.Number.Double

set_option relaxedAutoImplicit false
set_option autoImplicit false

namespace ThemeCompiler

/-- **A JSON value.** -/
inductive Json where
  | null
  | bool (value : Bool)
  | int (value : Int)
  | double (value : Double)
  | string (value : String)
  | array (items : List Json)
  | object (members : List (String × Json))
  deriving Inhabited, Repr

namespace Json

/-- An array of strings. -/
def names (items : List String) : Json := array (items.map string)

/-- A natural number. -/
def nat (n : Nat) : Json := int n

/-- A member that is left out when it has no value. -/
def optional {α : Type} (key : String) (encode : α → Json) : Option α → List (String × Json)
  | none => []
  | some value => [(key, encode value)]

/-- A value, or null when there is none. -/
def orNull {α : Type} (encode : α → Json) : Option α → Json
  | none => null
  | some value => encode value

end Json

namespace Sorted

/-- **The entries with one more.**  The keys stay in ascending order, and an entry takes the place
of one with the same key. -/
def insert {α : Type} (key : String) (value : α) : List (String × α) → List (String × α)
  | [] => [(key, value)]
  | (k, v) :: rest =>
      if key < k then (key, value) :: (k, v) :: rest
      else if key == k then (key, value) :: rest
      else (k, v) :: insert key value rest

/-- The entries of a list under sorted keys; of two with one key the later one stays. -/
def ofList {α : Type} (entries : List (String × α)) : List (String × α) :=
  entries.foldl (fun sorted entry => insert entry.1 entry.2 sorted) []

/-- The value of a key. -/
def find? {α : Type} (key : String) (entries : List (String × α)) : Option α :=
  (entries.find? (·.1 == key)).map (·.2)

end Sorted

end ThemeCompiler
