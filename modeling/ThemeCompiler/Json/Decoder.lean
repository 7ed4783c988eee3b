/-
**Decoders of JSON text.**

A decoder walks the outline of a text from left to right, and the first problem it meets decides.
Arrays and objects that are decoded may be nested to a limited depth; members without a meaning are
left out however deep they are.

Main definitions:

* `ThemeCompiler.Json.Decoder` — decoders, and those of strings, integers and truth values;
* `ThemeCompiler.Json.skip` — what is checked of a value that is left out;
* `ThemeCompiler.Json.listOf`, `ThemeCompiler.Json.sortedMapOf`, `ThemeCompiler.Json.orNone`,
  `ThemeCompiler.Json.oneOf` — lists, maps, optional values and names;
* `ThemeCompiler.Json.Slot`, `ThemeCompiler.Json.record` — records;
* `ThemeCompiler.Json.whole` — any value, as it is written;
* `ThemeCompiler.Json.decode` — a whole text.
-/

import ThemeCompiler.Json.Basic
import ThemeCompiler.Json.Outline

set_option relaxedAutoImplicit false
set_option autoImplicit false

namespace ThemeCompiler

namespace Json

/-- **A decoder of a value.** -/
abbrev Decoder (α : Type) := Outline → Except Problem α

/-! ### Values that hold no others -/

/-- **What is wrong with a value that is of another kind than expected.** -/
def mismatch : Outline → Problem
  | .number (.error problem) _ => problem
  | .string ⟨.error problem, _⟩ => problem
  | .broken _ problem => problem
  | _ => .shape

/-- A string. -/
def text : Decoder String
  | .string s => s.value
  | other => .error (mismatch other)

/-- A truth value. -/
def truth : Decoder Bool
  | .bool b => .ok b
  | other => .error (mismatch other)

/-- An integer between two bounds. -/
def integer (low high : Int) : Decoder Int
  | .number (.ok (.int n)) _ => if low ≤ n && n ≤ high then .ok n else .error .shape
  | other => .error (mismatch other)

/-- A natural number of at most so many bits. -/
def natural (bits : Nat) : Decoder Nat := fun outline =>
  (integer 0 (Nat.pow 2 bits - 1 : Nat) outline).map Int.toNat

/-- An integer with a sign of at most so many bits. -/
def signed (bits : Nat) : Decoder Int :=
  integer (-(Nat.pow 2 (bits - 1) : Nat)) (Nat.pow 2 (bits - 1) - 1 : Nat)

/-- The value for no value. -/
def nothing : Decoder Unit
  | .null => .ok ()
  | other => .error (mismatch other)

/-- **A value, or null for none.** -/
def orNone {α : Type} (value : Decoder α) : Decoder (Option α)
  | .null => .ok none
  | .broken .null problem => .error problem
  | other => (value other).map some

/-! ### Values that are left out -/

/-- What is wrong with the ending of a list or a record. -/
def Ending.check : Ending → Except Problem Unit
  | .closed => .ok ()
  | .unclosed problem => .error problem
  | .dangling problem => .error problem
  | .strayKey _ => .error .malformed

/-- What is wrong with a string or a number whose value is left out. -/
def skipped : Option Problem → Except Problem Unit
  | none => .ok ()
  | some problem => .error problem

mutual

/-- **What is wrong with a value that is left out.** -/
def skip : Outline → Except Problem Unit
  | .null => .ok ()
  | .bool _ => .ok ()
  | .number _ problem => skipped problem
  | .string s => skipped s.skipped
  | .array items ending => do
      skipItems items
      ending.check
  | .object members ending => do
      skipMembers members
      ending.check
  | .broken _ problem => .error problem

/-- What is wrong with items that are left out. -/
def skipItems : List Outline → Except Problem Unit
  | [] => .ok ()
  | item :: rest => do
      skip item
      skipItems rest

/-- What is wrong with members that are left out. -/
def skipMembers : List (Quoted × Outline) → Except Problem Unit
  | [] => .ok ()
  | (key, value) :: rest => do
      skipped key.skipped
      skip value
      skipMembers rest

end

/-! ### Depth -/

/-- How deep a text may be nested. -/
def maxDepth : Nat := 128

/-- **What is wrong with an array or an object where `depth` levels are left.**  The last level is
one too many. -/
def enter (depth : Nat) : Except Problem Unit :=
  if depth ≤ 1 then .error .malformed else .ok ()

/-! ### Lists and maps -/

/-- The items of a list. -/
def items {α : Type} (item : Decoder α) : List Outline → Except Problem (List α)
  | [] => .ok []
  | first :: rest => do
      let first ← item first
      let rest ← items item rest
      return first :: rest

/-- **A list** where `depth` levels are left. -/
def listOf {α : Type} (depth : Nat) (item : Decoder α) : Decoder (List α)
  | .array found ending => do
      enter depth
      let found ← items item found
      ending.check
      return found
  | other => .error (mismatch other)

/-- The entries of a map. -/
def entries {α : Type} (value : Decoder α) :
    List (Quoted × Outline) → Except Problem (List (String × α))
  | [] => .ok []
  | (key, first) :: rest => do
      let key ← key.value
      let first ← value first
      let rest ← entries value rest
      return (key, first) :: rest

/-- **A map with sorted keys** where `depth` levels are left.  Of two entries with one key the
later one stays. -/
def sortedMapOf {α : Type} (depth : Nat) (value : Decoder α) : Decoder (List (String × α))
  | .object members ending => do
      enter depth
      let found ← entries value members
      ending.check
      return Sorted.ofList found
  | other => .error (mismatch other)

/-! ### Names -/

/-- The value with a name. -/
def named {α : Type} (names : List (String × α)) (name : String) : Except Problem α :=
  match names.find? (·.1 == name) with
  | some (_, value) => .ok value
  | none => .error .shape

/-- **One of a list of names** where `depth` levels are left.  An object whose only member has the
name and no value stands for the name as well. -/
def oneOf {α : Type} (depth : Nat) (names : List (String × α)) : Decoder α
  | .string s => do named names (← s.value)
  | .object members ending => do
      enter depth
      match members, ending with
      | [], .closed => throw .malformed
      | [], .unclosed problem => throw problem
      | [], .dangling problem => throw problem
      | [], .strayKey problem => throw problem
      | (key, value) :: rest, ending => do
          let found ← named names (← key.value)
          nothing value
          match rest, ending with
          | [], .closed => return found
          | [], .unclosed problem => throw problem
          | _, _ => throw .malformed
  | .broken .nothing problem => .error problem
  | _ => .error .malformed

/-! ### Records -/

/-- **A member of a record**: its key, whether an object and an array must have it, and how it is
put into the record. -/
structure Slot (α : Type) where
  key : String
  inObject : Bool
  inArray : Bool
  fill : Outline → α → Except Problem α

/-- A member that is there in every form of the record. -/
def required {α β : Type} (key : String) (value : Decoder β) (put : β → α → α) : Slot α :=
  ⟨key, true, true, fun outline record => (value outline).map (put · record)⟩

/-- A member that an object may leave out, but not an array. -/
def optionalMember {α β : Type} (key : String) (value : Decoder β) (put : β → α → α) : Slot α :=
  ⟨key, false, true, fun outline record => (value outline).map (put · record)⟩

/-- A member that may be left out. -/
def defaulted {α β : Type} (key : String) (value : Decoder β) (put : β → α → α) : Slot α :=
  ⟨key, false, false, fun outline record => (value outline).map (put · record)⟩

/-- A record whose members are those of an object from some member on; `seen` are the keys so
far.  A key is seen once, and a member without a slot is left out. -/
def fromMembers {α : Type} (slots : List (Slot α)) :
    List (Quoted × Outline) → List String → α → Except Problem (List String × α)
  | [], seen, record => .ok (seen, record)
  | (key, value) :: rest, seen, record => do
      let key ← key.value
      match slots.find? (·.key == key) with
      | none => do
          skip value
          fromMembers slots rest seen record
      | some slot =>
          if seen.contains key then .error .shape
          else do
            let record ← slot.fill value record
            fromMembers slots rest (key :: seen) record

/-- A record whose members are the items of an array, in the order of the slots. -/
def fromItems {α : Type} : List (Slot α) → List Outline → Ending → α → Except Problem α
  | [], [], ending, record =>
      match ending with
      | .closed => .ok record
      | .unclosed problem => .error problem
      | _ => .error .malformed
  | [], _ :: _, _, _ => .error .malformed
  | slot :: slots, item :: rest, ending, record => do
      let record ← slot.fill item record
      fromItems slots rest ending record
  | slot :: slots, [], ending, record => do
      ending.check
      if slot.inArray then .error .shape else fromItems slots [] ending record

/-- **A record** where `depth` levels are left: an object with its members, or an array of them.
The record starts as `blank`. -/
def record {α : Type} (depth : Nat) (slots : List (Slot α)) (blank : α) : Decoder α
  | .object members ending => do
      enter depth
      let (seen, found) ← fromMembers slots members [] blank
      ending.check
      if slots.all fun slot => !slot.inObject || seen.contains slot.key then return found
      else throw .shape
  | .array found ending => do
      enter depth
      fromItems slots found ending blank
  | other => .error (mismatch other)

/-! ### Any value -/

/-- The value of a number. -/
def Numeral.toJson : Numeral → Json
  | .int n => .int n
  | .double d => .double d

/-- **Any value**, as it is written, where `depth` levels are left. -/
def whole : Nat → Decoder Json
  | 0, outline => .error (mismatch outline)
  | depth + 1, outline =>
      match outline with
      | .null => .ok .null
      | .bool b => .ok (.bool b)
      | .number value _ => value.map Numeral.toJson
      | .string s => s.value.map .string
      | .array found ending => do
          enter (depth + 1)
          let found ← items (whole depth) found
          ending.check
          return .array found
      | .object members ending => do
          enter (depth + 1)
          let found ← entries (whole depth) members
          ending.check
          return .object found
      | .broken _ problem => .error problem

mutual

/-- **A value whose objects have sorted keys**; of two members with one key the later one stays. -/
def sorted : Json → Json
  | .array found => .array (sortedItems found)
  | .object members => .object (Sorted.ofList (sortedMembers members))
  | other => other

/-- Items whose objects have sorted keys. -/
def sortedItems : List Json → List Json
  | [] => []
  | item :: rest => sorted item :: sortedItems rest

/-- Members whose values have sorted keys. -/
def sortedMembers : List (String × Json) → List (String × Json)
  | [] => []
  | (key, value) :: rest => (key, sorted value) :: sortedMembers rest

end

/-! ### Whole texts -/

/-- **The value that a text holds.**  Nothing but blanks may follow it. -/
def decode {α : Type} (value : Nat → Decoder α) (source : String) : Except Problem α := do
  let (outline, rest) := outline source.toList
  let found ← value maxDepth outline
  match rest.map dropGap with
  | some [] => return found
  | _ => throw .malformed

end Json

end ThemeCompiler
