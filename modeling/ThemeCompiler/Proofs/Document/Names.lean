/-
**Every element of a parsed document has a name.**

Only the readers of start tags give a tag to a builder, and a name begins with the letter that made
it a tag.  The builder keeps to names with every token, the tree is read off its nodes, and the
nodes of a document take their tags from the tree.

Main definitions:

* `ThemeCompiler.Html.Tree.Named` — the elements of a tree have names.

Main results:

* `ThemeCompiler.Html.named_readTokens` — the tokens of a text;
* `ThemeCompiler.Html.Builder.named_read` — **the builder after a text**;
* `ThemeCompiler.Html.named_parse` — the tree of a text;
* `ThemeCompiler.Document.tag?_parse_ne_empty` — **the elements of a parsed document have names**.
-/

import ThemeCompiler.Document.Source
import ThemeCompiler.Proofs.Html.NamedRules

set_option relaxedAutoImplicit false
set_option autoImplicit false

namespace ThemeCompiler

namespace Html

open Text (isAsciiBlank)

/-! ### Tokens -/

theorem named_ofCharsFrom (cs run : List Char) : ∀ t ∈ Token.ofCharsFrom cs run, t.Named := by
  have hrun : ∀ run : List Char, ∀ t ∈ (if run.isEmpty then [] else
      [Token.text (String.ofList run.reverse)]), t.Named := by
    intro run t ht
    split at ht
    · exact absurd ht List.not_mem_nil
    · rw [List.mem_singleton.1 ht]
      trivial
  induction cs generalizing run with
  | nil => exact hrun run
  | cons c cs ih =>
      intro t ht
      rw [Token.ofCharsFrom] at ht
      split at ht
      · rcases List.mem_append.1 ht with ht | ht
        · exact hrun run t ht
        · rcases List.mem_cons.1 ht with rfl | ht
          · trivial
          · exact ih [] t ht
      split at ht
      · exact ih (c :: run) t ht
      · rcases List.mem_cons.1 ht with rfl | ht
        · trivial
        · exact ih [c] t ht

theorem named_ofChars (cs : List Char) : ∀ t ∈ Token.ofChars cs, t.Named := named_ofCharsFrom cs []

theorem named_ofRaw (cs : List Char) : ∀ t ∈ Token.ofRaw cs, t.Named := by
  intro t ht
  rw [Token.ofRaw] at ht
  split at ht
  · exact absurd ht List.not_mem_nil
  · rw [List.mem_singleton.1 ht]
    trivial

/-- A letter does not end a name. -/
theorem endsName_eq_false_of_isAlpha {c : Char} (hc : c.isAlpha = true) : endsName c = false := by
  rw [← Bool.not_eq_true]
  intro hends
  simp only [endsName, isAsciiBlank, Bool.or_eq_true, beq_iff_eq] at hends
  rcases hends with (((((rfl | rfl) | rfl) | rfl) | rfl) | rfl) | rfl <;>
    exact absurd hc (by decide)

/-- **A tag that begins with a letter has a name.** -/
theorem readTag_name_ne_empty {c : Char} {cs rest : List Char} {tag : Tag} (hc : c.isAlpha = true)
    (h : readTag (c :: cs) = some (tag, rest)) : tag.name ≠ "" := by
  obtain ⟨read, -, hread⟩ := Option.map_eq_some_iff.1 h
  cases hread
  intro hempty
  have hnil := congrArg String.toList hempty
  simp [endsName_eq_false_of_isAlpha hc] at hnil

theorem named_closeText (split : List Char × List Char) : ∀ t ∈ (closeText split).1, t.Named := by
  intro t ht
  rw [closeText] at ht
  split at ht
  · exact named_ofRaw _ t ht
  split at ht
  · rcases List.mem_append.1 ht with ht | ht
    · exact named_ofRaw _ t ht
    · rw [List.mem_singleton.1 ht]
      trivial
  · exact named_ofRaw _ t ht

theorem named_readDeclaration (inForeign : Bool) (cs : List Char) :
    ∀ t ∈ (readDeclaration inForeign cs).1, t.Named := by
  intro t ht
  rw [readDeclaration] at ht
  split at ht
  · rw [List.mem_singleton.1 ht]
    trivial
  split at ht
  · rw [List.mem_singleton.1 ht]
    trivial
  split at ht
  · exact named_ofChars _ t ht
  · rw [List.mem_singleton.1 ht]
    trivial

theorem named_readEndTag (cs : List Char) : ∀ t ∈ (readEndTag cs).1, t.Named := by
  intro t ht
  unfold readEndTag at ht
  split at ht
  · rw [List.mem_singleton.1 ht]
    trivial
  split at ht
  · split at ht
    · rw [List.mem_singleton.1 ht]
      trivial
    · exact absurd ht List.not_mem_nil
  split at ht
  · rw [List.mem_singleton.1 ht]
    trivial
  · rw [List.mem_singleton.1 ht]
    trivial

theorem named_readAngle (inForeign : Bool) (cs : List Char) :
    ∀ t ∈ (readAngle inForeign cs).1, t.Named := by
  intro t ht
  unfold readAngle at ht
  split at ht
  · exact named_readDeclaration _ _ t ht
  · exact named_readEndTag _ t ht
  · rw [List.mem_singleton.1 ht]
    trivial
  · next c rest _ _ _ =>
      split at ht
      · next hc =>
          split at ht
          · next tag rest htag =>
              rw [List.mem_singleton.1 ht]
              exact readTag_name_ne_empty hc htag
          · exact absurd ht List.not_mem_nil
      · rw [List.mem_singleton.1 ht]
        trivial
  · rw [List.mem_singleton.1 ht]
    trivial

theorem named_readMarkup (inForeign : Bool) (cs : List Char) :
    ∀ t ∈ (readMarkup inForeign cs).1, t.Named := by
  intro t ht
  unfold readMarkup at ht
  split at ht
  · rw [List.mem_singleton.1 ht]
    trivial
  · exact named_readAngle _ _ t ht
  · rcases List.mem_append.1 ht with ht | ht
    · split at ht
      · rw [List.mem_singleton.1 ht]
        trivial
      · exact absurd ht List.not_mem_nil
    · exact named_ofChars _ t ht
  · exact named_ofChars _ t ht

/-- **The tokens of a text have names.** -/
theorem named_readTokens (mode : TextMode) (inForeign : Bool) (cs : List Char) :
    ∀ t ∈ (readTokens mode inForeign cs).1, t.Named := by
  intro t ht
  unfold readTokens at ht
  split at ht
  · rw [List.mem_singleton.1 ht]
    trivial
  cases mode with
  | markup => exact named_readMarkup _ _ t ht
  | raw element => exact named_closeText _ t ht
  | script => exact named_closeText _ t ht
  | plain => exact named_ofRaw _ t ht
  | escapable element =>
      have hclosed := named_closeText (splitEscapable element cs 0)
      -- a mistake may stand in front of them
      have hstart : ∀ startsBadly : Bool, t ∈ (if startsBadly then
          Token.mistake :: (closeText (splitEscapable element cs 0)).1
          else (closeText (splitEscapable element cs 0)).1) → t.Named := by
        intro startsBadly ht
        cases startsBadly with
        | false => exact hclosed t ht
        | true =>
            rcases List.mem_cons.1 ht with rfl | ht
            · trivial
            · exact hclosed t ht
      exact hstart _ ht

/-! ### The tree -/

namespace Builder

theorem Named.readWithin {b : Builder} (h : b.Named) (fuel : Nat) (cs : List Char) :
    (Builder.readWithin fuel b cs).Named := by
  induction fuel generalizing b cs with
  | zero => exact h
  | succ fuel ih =>
      rw [Builder.readWithin]
      split
      next tokens rest hread =>
        have htokens : ∀ t ∈ tokens, t.Named := by
          have hall := named_readTokens b.textMode b.isInForeign
            (if b.pauses then dropByteOrderMark cs else cs)
          rw [hread] at hall
          exact hall
        have htaken : (tokens.foldl Builder.take
            { b with textMode := .markup, pauses := false }).Named :=
          List.foldlRecOn (motive := Named) _ _ h fun _ hb t ht => hb.take (htokens t ht)
        exact ite htaken (ih htaken rest)

/-- **What the builder after a text holds has a name.** -/
theorem named_read (s : String) : (Builder.read s).Named := Named.start.readWithin _ _

end Builder

/-- **The elements of a tree have names.** -/
inductive Tree.Named : Tree → Prop
  | document {children : List Tree} (h : ∀ t ∈ children, t.Named) : Named (.document children)
  | doctype (name : String) : Named (.doctype name)
  | text (content : String) : Named (.text content)
  | comment (content : String) : Named (.comment content)
  | instruction (target content : String) : Named (.instruction target content)
  | element {name : String} (attrs : List Attribute) {contents children : List Tree}
      (hname : name ≠ "") (hcontents : ∀ t ∈ contents, t.Named)
      (hchildren : ∀ t ∈ children, t.Named) : Named (.element name attrs contents children)

theorem Builder.Named.toTree {b : Builder} (h : b.Named) (fuel : Nat) (n : NodeId) :
    (b.toTree fuel n).Named := by
  induction fuel generalizing n with
  | zero => exact .document fun t ht => absurd ht List.not_mem_nil
  | succ fuel ih =>
      have hbelow : ∀ m, ∀ t ∈ (b.nodes.children m).map (b.toTree fuel), t.Named := by
        intro m t ht
        obtain ⟨c, -, rfl⟩ := List.mem_map.1 ht
        exact ih c
      rw [Builder.toTree]
      split
      · exact .doctype _
      · exact .text _
      · exact .comment _
      · next vocabulary name attrs contents integrates hn =>
          refine .element attrs (h.1 n _ hn) ?_ (hbelow n)
          cases contents with
          | none => exact fun t ht => absurd ht List.not_mem_nil
          | some c => exact hbelow c
      · exact .document (hbelow n)

/-- **The elements of the tree of a text have names.** -/
theorem named_parse (s : String) : (parse s).Named := (Builder.named_read s).toTree _ _

end Html

/-! ### The document -/

namespace Document

open Html

/-- The elements of an arena have names. -/
private def NamedContent (a : Arena Content) : Prop :=
  ∀ n tag attrs, a.value? n = some (.element tag attrs) → tag ≠ ""

private theorem NamedContent.addChild {a : Arena Content} (h : NamedContent a) (p : NodeId)
    {c : Content} (hc : ∀ tag attrs, c = .element tag attrs → tag ≠ "") :
    NamedContent ((a.add c).appendChild p a.size) := by
  intro n tag attrs hn
  rw [Arena.value?_appendChild, Arena.value?_add] at hn
  split at hn
  · exact hc tag attrs (Option.some.inj hn)
  · exact h n tag attrs hn

mutual

private theorem namedContent_addTree : ∀ (t : Html.Tree) {a : Arena Content} (p : NodeId),
    t.Named → NamedContent a → NamedContent (addTree p t a)
  | .document children, a, p, .document hchildren, h => by
      rw [addTree]
      exact namedContent_addTrees children p hchildren h
  | .doctype name, a, p, _, h => by
      rw [addTree]
      exact h.addChild p fun tag attrs heq => nomatch heq
  | .text content, a, p, _, h => by
      rw [addTree]
      exact h.addChild p fun tag attrs heq => nomatch heq
  | .comment content, a, p, _, h => by
      rw [addTree]
      exact h.addChild p fun tag attrs heq => nomatch heq
  | .instruction _ _, a, p, _, h => by
      rw [addTree]
      exact h
  | .element name attrs contents children, a, p, .element _ hname hcontents hchildren, h => by
      rw [addTree]
      have hlowered : Text.lowerAscii name ≠ "" := by
        intro hempty
        have hnil := congrArg String.toList hempty
        exact hname (String.toList_eq_nil_iff.1 (by simpa [Text.lowerAscii] using hnil))
      have hnew : NamedContent
          ((a.add (.element (Text.lowerAscii name) attrs)).appendChild p a.size) := by
        refine h.addChild p fun tag other heq => ?_
        cases heq
        exact hlowered
      exact namedContent_addTrees children _ hchildren
        (namedContent_addTrees contents _ hcontents hnew)

private theorem namedContent_addTrees : ∀ (ts : List Html.Tree) {a : Arena Content} (p : NodeId),
    (∀ t ∈ ts, t.Named) → NamedContent a → NamedContent (addTrees p ts a)
  | [], a, p, _, h => by
      rw [addTrees]
      exact h
  | t :: ts, a, p, hts, h => by
      rw [addTrees]
      have hfirst := namedContent_addTree t p (hts t List.mem_cons_self) h
      exact namedContent_addTrees ts p (fun s hs => hts s (List.mem_cons_of_mem t hs)) hfirst

end

/-- **The elements of a parsed document have names.** -/
theorem tag?_parse_ne_empty (source : String) {n : NodeId} {tag : String}
    (h : (Document.parse source).tag? n = some tag) : tag ≠ "" := by
  have hstart : NamedContent (Arena.singleton .root) := by
    intro n tag attrs hn
    obtain ⟨cell, hcell, hvalue⟩ := Option.map_eq_some_iff.1 hn
    obtain rfl := Array.eq_of_mem_singleton (Array.mem_of_getElem? hcell)
    cases hvalue
  have hnamed := namedContent_addTree (Html.parse source) Arena.root (named_parse source) hstart
  rw [tag?] at h
  split at h
  · next tag' attrs hn =>
      cases h
      exact hnamed n _ attrs hn
  · cases h

end Document

end ThemeCompiler
