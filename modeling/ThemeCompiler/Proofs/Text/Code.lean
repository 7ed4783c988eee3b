/-
**Reading code.**

A text of code is read from left to right, one character after the other: in each place it is known
which token has begun and which of its characters have been read.  So what is read of two texts in a
row is what is read of the first one, and then of the second one from where the first one ended.  Line
comments end with their line, and literals at the first apostrophe without a backslash before it; a
text that is put into a comment or a literal is read as a whole exactly if it has no such character.

Main definitions:

* `ThemeCompiler.Code.Token`, `ThemeCompiler.Code.Mode` — what is read, and what has begun;
* `ThemeCompiler.Code.scan`, `ThemeCompiler.Code.read`, `ThemeCompiler.Code.tokens?` — **the tokens
  of a text of code**;
* `ThemeCompiler.Code.call` — the tokens of the call of a function.

Main results:

* `ThemeCompiler.Code.scan_append`, `ThemeCompiler.Code.read_append_iff` — two texts in a row;
* `ThemeCompiler.Code.read_literal` — literals are read as `Text.readQuoted` reads them;
* `ThemeCompiler.Code.read_comment_iff`, `ThemeCompiler.Code.read_literal_iff` — **when a text in a
  comment, or in a literal, is read as a whole**.
-/

import ThemeCompiler.Proofs.Text.Lexemes

set_option relaxedAutoImplicit false
set_option autoImplicit false

namespace ThemeCompiler

namespace Code

/-! ### The reader -/

/-- **A token of code**: a line comment without the slashes, a literal by the characters that it
denotes, a word (a name, a keyword or a number), or another character. -/
inductive Token where
  | comment (text : List Char)
  | literal (text : List Char)
  | word (text : List Char)
  | sign (c : Char)
  deriving DecidableEq, Repr

/-- **What has begun**, with the characters of it that were read, last one first. -/
inductive Mode where
  /-- Nothing. -/
  | between
  | word (done : List Char)
  /-- A slash, which may begin a comment. -/
  | slash
  /-- A question mark, which may begin the end of the code. -/
  | mark
  | comment (done : List Char)
  /-- A question mark in a comment. -/
  | commentMark (done : List Char)
  | literal (done : List Char)
  /-- A backslash in a literal. -/
  | escape (done : List Char)
  deriving DecidableEq, Repr

/-- The characters of words: letters, digits, the underscore, and all behind ASCII. -/
def isWordChar (c : Char) : Bool := c.isAlphanum || c == '_' || 128 ≤ c.toNat

/-- The characters at which a line ends. -/
def isLineEnd (c : Char) : Bool := c == '\n' || c == '\r'

/-- What a character begins.  Other kinds of comments and literals are not read. -/
def start (c : Char) : Option (List Token × Mode) :=
  if isLineEnd c || c == ' ' || c == '\t' then some ([], .between)
  else if isWordChar c then some ([], .word [c])
  else if c == '\'' then some ([], .literal [])
  else if c == '/' then some ([], .slash)
  else if c == '?' then some ([], .mark)
  else if c == '#' || c == '"' || c == '\x60' || c == '<' then none
  else some ([.sign c], .between)

/-- What a character begins behind the end of a token. -/
def startBehind (token : Token) (c : Char) : Option (List Token × Mode) :=
  (start c).map fun r => (token :: r.1, r.2)

/-- **What one character does**: the tokens that are complete, and what has begun then. -/
def step : Mode → Char → Option (List Token × Mode)
  | .between, c => start c
  | .word done, c =>
      if isWordChar c then some ([], .word (c :: done)) else startBehind (.word done.reverse) c
  | .slash, c =>
      if c == '/' then some ([], .comment [])
      else if c == '*' then none
      else startBehind (.sign '/') c
  | .mark, c => if c == '>' then none else startBehind (.sign '?') c
  | .comment done, c =>
      if isLineEnd c then some ([.comment done.reverse], .between)
      else if c == '?' then some ([], .commentMark done)
      else some ([], .comment (c :: done))
  | .commentMark done, c =>
      if c == '>' then none
      else if isLineEnd c then some ([.comment ('?' :: done).reverse], .between)
      else if c == '?' then some ([], .commentMark ('?' :: done))
      else some ([], .comment (c :: '?' :: done))
  | .literal done, c =>
      if c == '\'' then some ([.literal done.reverse], .between)
      else if c == '\\' then some ([], .escape done)
      else some ([], .literal (c :: done))
  | .escape done, c =>
      if c == '\'' || c == '\\' then some ([], .literal (c :: done))
      else some ([], .literal (c :: '\\' :: done))

/-- What the characters of a text do, one after the other. -/
def scan : Mode → List Char → Option (List Token × Mode)
  | mode, [] => some ([], mode)
  | mode, c :: cs =>
      (step mode c).bind fun r => (scan r.2 cs).map fun s => (r.1 ++ s.1, s.2)

/-- The token that is complete at the end of a text.  Literals have an end of their own. -/
def finish : Mode → Option (List Token)
  | .between => some []
  | .word done => some [.word done.reverse]
  | .slash => some [.sign '/']
  | .mark => some [.sign '?']
  | .comment done => some [.comment done.reverse]
  | .commentMark done => some [.comment ('?' :: done).reverse]
  | .literal _ => none
  | .escape _ => none

/-- The tokens of a text in which something has begun. -/
def read (mode : Mode) (cs : List Char) : Option (List Token) :=
  (scan mode cs).bind fun r => (finish r.2).map (r.1 ++ ·)

/-- **The tokens of a text of code**; none if it is not read to its end. -/
def tokens? (cs : List Char) : Option (List Token) := read .between cs

/-- The tokens of arguments. -/
def arguments : List (List Token) → List Token
  | [] => []
  | [last] => last
  | first :: rest => first ++ .sign ',' :: arguments rest

/-- **The tokens of the call of a function.** -/
def call (function : String) (args : List (List Token)) : List Token :=
  .word function.toList :: .sign '(' :: arguments args ++ [.sign ')']

/-! ### Two texts in a row -/

/-- **Two texts in a row** are read one after the other. -/
theorem scan_append (mode : Mode) (before after : List Char) :
    scan mode (before ++ after) =
      (scan mode before).bind fun r => (scan r.2 after).map fun s => (r.1 ++ s.1, s.2) := by
  induction before generalizing mode with
  | nil =>
      rw [List.nil_append, scan, Option.bind_some]
      cases scan mode after with
      | none => rfl
      | some s => rfl
  | cons c before ih =>
      rw [List.cons_append, scan, scan]
      cases step mode c with
      | none => rfl
      | some r =>
          rw [Option.bind_some, Option.bind_some, ih r.2]
          cases scan r.2 before with
          | none => rfl
          | some s =>
              rw [Option.map_some, Option.bind_some, Option.bind_some]
              cases scan s.2 after with
              | none => rfl
              | some t => simp

theorem read_append {mode mode' : Mode} {before : List Char} {done : List Token}
    (h : scan mode before = some (done, mode')) (after : List Char) :
    read mode (before ++ after) = (read mode' after).map (done ++ ·) := by
  rw [read, read, scan_append, h, Option.bind_some]
  cases scan mode' after with
  | none => rfl
  | some s =>
      rw [Option.map_some, Option.bind_some, Option.bind_some]
      cases finish s.2 with
      | none => rfl
      | some last => simp

theorem read_cons {mode mode' : Mode} {c : Char} {done : List Token}
    (h : step mode c = some (done, mode')) (cs : List Char) :
    read mode (c :: cs) = (read mode' cs).map (done ++ ·) := by
  have hscan : scan mode [c] = some (done, mode') := by
    rw [scan, h, Option.bind_some, scan, Option.map_some, List.append_nil]
  exact read_append hscan cs

/-- A character that completes no token. -/
theorem read_cons_nil {mode mode' : Mode} {c : Char} (h : step mode c = some ([], mode'))
    (cs : List Char) : read mode (c :: cs) = read mode' cs := by
  rw [read_cons h]
  exact Option.map_id'

/-- **What is read of a text behind another one.** -/
theorem read_append_iff {mode mode' : Mode} {before : List Char} {done : List Token}
    (h : scan mode before = some (done, mode')) {after : List Char} {rest : List Token} :
    read mode (before ++ after) = some (done ++ rest) ↔ read mode' after = some rest := by
  rw [read_append h, Option.map_eq_some_iff]
  constructor
  · rintro ⟨tokens, hread, happend⟩
    rw [hread, List.append_cancel_left happend]
  · intro hread
    exact ⟨rest, hread, rfl⟩

/-- A text that completes no token. -/
theorem read_append_nil {mode mode' : Mode} {before : List Char}
    (h : scan mode before = some ([], mode')) (after : List Char) :
    read mode (before ++ after) = read mode' after := by
  rw [read_append h]
  exact Option.map_id'

/-! ### Comments -/

/-- **When a text in a comment is read as a whole**: it must not have the end of a line in it. -/
theorem read_comment_iff {text : List Char} (hmark : '?' ∉ text) (done : List Char)
    {after : List Char} {rest : List Token} :
    read (.comment done) (text ++ '\n' :: after) = some (.comment (done.reverse ++ text) :: rest) ↔
      (∀ c ∈ text, isLineEnd c = false) ∧ read .between after = some rest := by
  induction text generalizing done with
  | nil =>
      have hstep : step (.comment done) '\n' = some ([.comment done.reverse], .between) := rfl
      rw [List.nil_append, read_cons hstep]
      simp
  | cons c text ih =>
      rw [List.mem_cons, not_or] at hmark
      rw [List.cons_append]
      by_cases hend : isLineEnd c = true
      · -- the comment ends too early
        have hstep : step (.comment done) c = some ([.comment done.reverse], .between) := by
          rw [step, if_pos hend]
        rw [read_cons hstep]
        simp [hend]
      · have hstep : step (.comment done) c = some ([], .comment (c :: done)) := by
          rw [step, if_neg hend, if_neg (by simpa using Ne.symm hmark.1)]
        have hih := ih hmark.2 (c :: done)
        rw [List.reverse_cons, List.append_assoc, List.singleton_append] at hih
        rw [read_cons_nil hstep, hih, List.forall_mem_cons, and_assoc]
        exact (and_iff_right (by simpa using hend)).symm

/-! ### Literals -/

/-- A backslash that escapes nothing is a character of the literal. -/
theorem read_escape {done cs : List Char}
    (h : ∀ d rest, cs = d :: rest → d ≠ '\'' ∧ d ≠ '\\') :
    read (.escape done) cs = read (.literal ('\\' :: done)) cs := by
  cases cs with
  | nil => rfl
  | cons d rest =>
      obtain ⟨hquote, hslash⟩ := h d rest rfl
      have hescape : step (.escape done) d = some ([], .literal (d :: '\\' :: done)) := by
        rw [step, if_neg (by simp [hquote, hslash])]
      have hliteral : step (.literal ('\\' :: done)) d =
          some ([], .literal (d :: '\\' :: done)) := by
        rw [step, if_neg (by simpa using hquote), if_neg (by simpa using hslash)]
      rw [read_cons_nil hescape, read_cons_nil hliteral]

/-- **Literals are read** as what they denote. -/
theorem read_literal (done cs : List Char) :
    read (.literal done) cs = (Text.readQuoted cs).bind fun r =>
      (read .between r.2).map (.literal (done.reverse ++ r.1) :: ·) := by
  fun_induction Text.readQuoted cs generalizing done with
  | case1 => rfl
  | case2 rest =>
      have hstep : step (.literal done) '\'' = some ([.literal done.reverse], .between) := rfl
      rw [read_cons hstep]
      simp
  | case3 rest ih =>
      have hfirst : step (.literal done) '\\' = some ([], .escape done) := rfl
      have hsecond : step (.escape done) '\'' = some ([], .literal ('\'' :: done)) := rfl
      rw [read_cons_nil hfirst, read_cons_nil hsecond, ih]
      cases Text.readQuoted rest <;> simp
  | case4 rest ih =>
      have hfirst : step (.literal done) '\\' = some ([], .escape done) := rfl
      have hsecond : step (.escape done) '\\' = some ([], .literal ('\\' :: done)) := rfl
      rw [read_cons_nil hfirst, read_cons_nil hsecond, ih]
      cases Text.readQuoted rest <;> simp
  | case5 c rest hquote hescaped hslashes ih =>
      have hread : read (.literal done) (c :: rest) = read (.literal (c :: done)) rest := by
        by_cases hslash : c = '\\'
        · obtain rfl := hslash
          have hstep : step (.literal done) '\\' = some ([], .escape done) := rfl
          rw [read_cons_nil hstep]
          refine read_escape fun d cs hrest => ⟨?_, ?_⟩
          · rintro rfl
            exact hescaped cs rfl hrest
          · rintro rfl
            exact hslashes cs rfl hrest
        · refine read_cons_nil ?_ rest
          rw [step, if_neg (by simpa using hquote), if_neg (by simpa using hslash)]
      rw [hread, ih]
      cases Text.readQuoted rest <;> simp

/-- **When a text in a literal is read as a whole**: it must not have an apostrophe in it. -/
theorem read_literal_iff {text : List Char} (hslash : '\\' ∉ text) {after : List Char}
    {rest : List Token} :
    read (.literal []) (text ++ '\'' :: after) = some (.literal text :: rest) ↔
      '\'' ∉ text ∧ read .between after = some rest := by
  rw [read_literal]
  by_cases hquote : '\'' ∈ text
  · -- the literal ends too early
    obtain ⟨before, behind, rfl, hbefore⟩ := List.eq_append_cons_of_mem hquote
    rw [List.append_assoc, List.cons_append, Text.readQuoted_append hbefore
      (fun h => hslash (List.mem_append_left _ h))]
    simp
  · rw [Text.readQuoted_append hquote hslash]
    simp [hquote]

end Code

end ThemeCompiler
