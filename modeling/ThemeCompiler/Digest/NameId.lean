/-
**Identifiers computed from names.**

A name-based unique identifier of version 5: the first sixteen bytes of the SHA-1 digest of a name
space and a name, with the version and the variant written over six of their bits.

Main definitions:

* `ThemeCompiler.Digest.hexByte` — a byte as two hexadecimal digits;
* `ThemeCompiler.Digest.stamp` — the bytes with version and variant;
* `ThemeCompiler.Digest.nameId` — the identifier of a name as text.
-/

import ThemeCompiler.Digest.Sha1

set_option relaxedAutoImplicit false
set_option autoImplicit false

namespace ThemeCompiler

namespace Digest

/-- The hexadecimal digit of a number below sixteen. -/
def hexDigit (n : Nat) : Char :=
  if n < 10 then Char.ofNat ('0'.toNat + n) else Char.ofNat ('a'.toNat + (n - 10))

/-- A byte as two hexadecimal digits. -/
def hexByte (b : UInt8) : List Char := [hexDigit (b.toNat / 16), hexDigit (b.toNat % 16)]

/-- The byte at a place of an identifier with the bits that are fixed there: the version in byte 6,
the variant in byte 8. -/
def stamp (place : Nat) (b : UInt8) : UInt8 :=
  if place = 6 then (b &&& 0x0F) ||| 0x50
  else if place = 8 then (b &&& 0x3F) ||| 0x80
  else b

/-- The sixteen bytes of an identifier as text, with hyphens after bytes 4, 6, 8 and 10. -/
def idText (bytes : List UInt8) : String :=
  String.ofList (bytes.zipIdx.flatMap fun (b, place) =>
    (if place = 4 || place = 6 || place = 8 || place = 10 then ['-'] else []) ++ hexByte b)

/-- **The identifier of a name in a name space.** -/
def nameId (space : List UInt8) (name : String) : String :=
  let bytes := (sha1 (space ++ name.toUTF8.toList)).take 16
  idText (bytes.zipIdx.map fun (b, place) => stamp place b)

end Digest

end ThemeCompiler
