/-
**Blank characters.**

Blanks separate the words of a class list and surround a text that is to be trimmed.  They are the
characters with the Unicode property White_Space; markup itself knows only the five ASCII ones.

Main definitions:

* `ThemeCompiler.Text.isBlank`, `ThemeCompiler.Text.isAsciiBlank` — the two classes;
* `ThemeCompiler.Text.trimWith`, `ThemeCompiler.Text.trim` — a text without the characters of a
  class, or without the blanks, at its two ends;
* `ThemeCompiler.Text.words` — the maximal blank-free pieces of a text.

Main results:

* `ThemeCompiler.Text.isBlank_of_isAsciiBlank` — the small class is contained in the large one.
-/

set_option relaxedAutoImplicit false
set_option autoImplicit false

namespace ThemeCompiler

namespace Text

/-! ### The classes -/

/-- The blanks of ASCII that markup knows: tab, line feed, form feed, carriage return, space. -/
def isAsciiBlank (c : Char) : Bool :=
  c == '\t' || c == '\n' || c == '\x0c' || c == '\r' || c == ' '

/-- **The blank characters**: those with the property White_Space. -/
def isBlank (c : Char) : Bool :=
  ('\t' ≤ c && c ≤ '\r') || c == ' ' || c == '\u0085' || c == '\u00a0' || c == '\u1680'
    || ('\u2000' ≤ c && c ≤ '\u200a') || c == '\u2028' || c == '\u2029' || c == '\u202f'
    || c == '\u205f' || c == '\u3000'

/-- The blanks of markup are blanks. -/
theorem isBlank_of_isAsciiBlank {c : Char} (h : isAsciiBlank c = true) : isBlank c = true := by
  simp only [isAsciiBlank, Bool.or_eq_true, beq_iff_eq] at h
  rcases h with (((rfl | rfl) | rfl) | rfl) | rfl <;> decide

/-! ### Trimming -/

/-- The characters of a list without those of the class `p` at its two ends. -/
def trimWith (p : Char → Bool) (cs : List Char) : List Char :=
  ((cs.dropWhile p).reverse.dropWhile p).reverse

/-- **A text without the blanks at its two ends.** -/
def trim (s : String) : String := String.ofList (trimWith isBlank s.toList)

/-- Whether a text has nothing but blanks in it. -/
def isBlankText (s : String) : Bool := s.toList.all isBlank

/-! ### Words -/

/-- The pieces of a list between the characters of the class `p`, in order; `word` holds the
characters of the piece begun, last one first. -/
def piecesFrom (p : Char → Bool) : List Char → List Char → List (List Char)
  | [], word => if word.isEmpty then [] else [word.reverse]
  | c :: cs, word =>
      if p c then
        if word.isEmpty then piecesFrom p cs [] else word.reverse :: piecesFrom p cs []
      else piecesFrom p cs (c :: word)

/-- **The words of a text**: its maximal pieces without a blank, in order. -/
def words (s : String) : List String := (piecesFrom isBlank s.toList []).map String.ofList

end Text

end ThemeCompiler
