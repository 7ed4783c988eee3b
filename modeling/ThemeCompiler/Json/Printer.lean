/-
**Written JSON.**

Strings are written with as few escapes as possible.  Values are written on one line without
blanks, or on lines that are indented by two blanks for every level.

Main definitions:

* `ThemeCompiler.Json.escapeChar`, `ThemeCompiler.Json.quote` — strings;
* `ThemeCompiler.Json.compact` — a value on one line;
* `ThemeCompiler.Json.pretty` — a value on indented lines.
-/

import ThemeCompiler.Json.Basic
import ThemeCompiler.Number.Shortest

set_option relaxedAutoImplicit false
set_option autoImplicit false

namespace ThemeCompiler

namespace Json

/-! ### Strings -/

/-- A hexadecimal digit. -/
def hexDigit (n : Nat) : Char :=
  if n < 10 then Char.ofNat ('0'.toNat + n) else Char.ofNat ('a'.toNat + (n - 10))

/-- A character within a string: the quote, the backslash and the control characters are
escaped. -/
def escapeChar (c : Char) : List Char :=
  if c == '"' then ['\\', '"']
  else if c == '\\' then ['\\', '\\']
  else if c == '\n' then ['\\', 'n']
  else if c == '\r' then ['\\', 'r']
  else if c == '\t' then ['\\', 't']
  else if c == '\x08' then ['\\', 'b']
  else if c == '\x0c' then ['\\', 'f']
  else if c.toNat < 0x20 then
    ['\\', 'u', '0', '0', hexDigit (c.toNat / 16), hexDigit (c.toNat % 16)]
  else [c]

/-- **A string as it is written.** -/
def quote (s : String) : String := String.ofList ('"' :: s.toList.flatMap escapeChar ++ ['"'])

/-- The text of a value that holds no others. -/
def scalarText : Json → String
  | null => "null"
  | bool true => "true"
  | bool false => "false"
  | int n => toString n
  | double d => d.toText
  | string s => quote s
  | array _ => "[]"
  | object _ => "\x7b\x7d"

/-! ### One line -/

mutual

/-- **A value on one line**, without blanks. -/
def compact : Json → String
  | array items => "[" ++ ",".intercalate (compactItems items) ++ "]"
  | object members => "\x7b" ++ ",".intercalate (compactMembers members) ++ "\x7d"
  | value => scalarText value

/-- The items of an array, each on one line. -/
def compactItems : List Json → List String
  | [] => []
  | item :: rest => compact item :: compactItems rest

/-- The members of an object, each on one line. -/
def compactMembers : List (String × Json) → List String
  | [] => []
  | (key, value) :: rest => (quote key ++ ":" ++ compact value) :: compactMembers rest

end

/-! ### Indented lines -/

/-- A new line at a level. -/
def newLine (level : Nat) : String := "\n" ++ String.join (List.replicate level "  ")

/-- Written items between brackets, each on a line of its own. -/
def block (opening closing : String) (level : Nat) (items : List String) : String :=
  opening ++ newLine (level + 1) ++ ("," ++ newLine (level + 1)).intercalate items
    ++ newLine level ++ closing

mutual

/-- A value whose first line is at a level. -/
def prettyAt (level : Nat) : Json → String
  | array (item :: rest) =>
      block "[" "]" level (prettyAt (level + 1) item :: prettyItems (level + 1) rest)
  | object ((key, value) :: rest) =>
      block "\x7b" "\x7d" level
        ((quote key ++ ": " ++ prettyAt (level + 1) value) :: prettyMembers (level + 1) rest)
  | value => scalarText value

/-- The items of an array at a level. -/
def prettyItems (level : Nat) : List Json → List String
  | [] => []
  | item :: rest => prettyAt level item :: prettyItems level rest

/-- The members of an object at a level. -/
def prettyMembers (level : Nat) : List (String × Json) → List String
  | [] => []
  | (key, value) :: rest =>
      (quote key ++ ": " ++ prettyAt level value) :: prettyMembers level rest

end

/-- **A value on indented lines.**  Empty arrays and objects stay on their line. -/
def pretty (value : Json) : String := prettyAt 0 value

end Json

end ThemeCompiler
