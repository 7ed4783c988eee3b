/-
**The rules keep to names.**

Every rule builds on the operations of a builder, and what it puts in is the element of a start tag
or of a fixed name.  A token is passed from rule to rule as it is, so one that has a name keeps it.

Main results:

* `ThemeCompiler.Html.Builder.Named.startInBody`, `ThemeCompiler.Html.Builder.Named.inBody` and the
  like — the rules of the modes;
* `ThemeCompiler.Html.Builder.Named.applyRules`, `ThemeCompiler.Html.Builder.Named.step` — a step;
* `ThemeCompiler.Html.Builder.Named.take` — **a token keeps the names of a builder**.
-/

import ThemeCompiler.Html.Builder.Rules
import ThemeCompiler.Proofs.Html.Names

set_option relaxedAutoImplicit false
set_option autoImplicit false

namespace ThemeCompiler

namespace Html

theorem Step.Named.ite {c : Prop} [Decidable c] {s t : Step} (hs : s.Named) (ht : t.Named) :
    (if c then s else t).Named := by
  split
  · exact hs
  · exact ht

namespace Builder

namespace Named

variable {b : Builder} {tag : Tag} {t : Token}

theorem forbidFrameset (h : b.Named) : b.forbidFrameset.Named := h

theorem withMode (h : b.Named) (mode : Mode) : (b.withMode mode).Named := h

/-! ### Before the body -/

theorem openRoot (h : b.Named) (attrs : List Attribute) : (b.openRoot attrs).Named := by
  have hmade := h.create .html (by decide : "html" ≠ "") attrs
  exact hmade.withNodes (hmade.1.appendChild _ _)

theorem openHead (h : b.Named) (attrs : List Attribute) : (b.openHead attrs).Named :=
  h.insertElement .html (by decide) attrs

theorem openTemplate (h : b.Named) (ht : tag.name ≠ "") : (b.openTemplate tag).Named :=
  (h.insertTag ht).addMarker

theorem leaveTemplate (h : b.Named) : b.leaveTemplate.Named := h.clearToMarker

theorem closeTemplate (h : b.Named) : b.closeTemplate.Named :=
  ite (leaveTemplate (b := (b.closeImplied allImpliedEnds).popNamed "template") h) h

theorem endTemplates (h : b.Named) : b.endTemplates.Named :=
  Step.Named.ite (leaveTemplate (b := b.popNamed "template") h) h

theorem startInHead? (h : b.Named) (ht : tag.name ≠ "") {next : Builder}
    (hnext : b.startInHead? tag = some next) : next.Named := by
  rw [Builder.startInHead?] at hnext
  split at hnext
  · cases hnext
    exact h.mergeRootAttrs tag
  split at hnext
  · cases hnext
    exact h.insertEmpty ht
  split at hnext
  · cases hnext
    exact h.insertEmpty ht
  split at hnext
  · cases hnext
    exact h.insertTextElement ht _
  split at hnext
  · cases hnext
    exact h.insertTextElement ht _
  split at hnext
  · cases hnext
    exact h.insertTextElement ht _
  split at hnext
  · cases hnext
    exact h.openTemplate ht
  split at hnext
  · cases hnext
    exact h
  · cases hnext

theorem getD_startInHead? (h : b.Named) (ht : tag.name ≠ "") :
    ((b.startInHead? tag).getD b).Named := by
  cases hnext : b.startInHead? tag with
  | none => exact h
  | some next => exact h.startInHead? ht hnext

theorem inInitial (h : b.Named) (t : Token) : (b.inInitial t).Named := by
  cases t with
  | text content => exact Step.Named.ite h h
  | comment content => exact h.appendCommentTo _ content
  | _ => exact h

theorem inBeforeHtml (h : b.Named) (t : Token) : (b.inBeforeHtml t).Named := by
  have hopen : ((b.openRoot []).retryIn .beforeHead).Named := h.openRoot []
  cases t with
  | comment content => exact h.appendCommentTo _ content
  | text content => exact Step.Named.ite h hopen
  | startTag tag => exact Step.Named.ite (h.openRoot tag.attrs) hopen
  | endTag tag => exact Step.Named.ite hopen h
  | _ => exact hopen

theorem inBeforeHead (h : b.Named) (t : Token) : (b.inBeforeHead t).Named := by
  have hopen : ((b.openHead []).retryIn .inHead).Named := h.openHead []
  cases t with
  | text content => exact Step.Named.ite h hopen
  | comment content => exact h.appendComment content
  | startTag tag =>
      exact Step.Named.ite (h.mergeRootAttrs tag) (Step.Named.ite (h.openHead tag.attrs) hopen)
  | endTag tag => exact Step.Named.ite hopen h
  | _ => exact hopen

theorem inHead (h : b.Named) (ht : t.Named) : (b.inHead t).Named := by
  have hleave : (b.pop.retryIn .afterHead).Named := h
  cases t with
  | text content => exact Step.Named.ite (h.appendText content) hleave
  | comment content => exact h.appendComment content
  | startTag tag =>
      rw [Builder.inHead]
      split
      · next next hnext => exact h.startInHead? ht hnext
      · exact hleave
  | endTag tag =>
      exact Step.Named.ite h (Step.Named.ite h.closeTemplate (Step.Named.ite hleave h))
  | _ => exact hleave

theorem inAfterHead (h : b.Named) (ht : t.Named) : (b.inAfterHead t).Named := by
  have hopen : ((b.insertImplied "body").retryIn .inBody).Named :=
    h.insertElement .html (by decide : "body" ≠ "") []
  cases t with
  | text content => exact Step.Named.ite (h.appendText content) hopen
  | comment content => exact h.appendComment content
  | startTag tag =>
      refine Step.Named.ite (h.mergeRootAttrs tag) <| Step.Named.ite (h.insertTag ht) <|
        Step.Named.ite (h.insertTag ht) <| Step.Named.ite ?_ (Step.Named.ite h hopen)
      -- the head is open again while its rules apply
      split
      · next head hhead =>
          split
          · next next hnext =>
              have hnamed : next.Named := startInHead? (b := b.push head) h ht hnext
              exact hnamed
          · exact h
      · exact h
  | endTag tag => exact Step.Named.ite h.closeTemplate (Step.Named.ite hopen h)
  | _ => exact hopen

/-! ### The body -/

theorem closeOpenParagraph (h : b.Named) : b.closeOpenParagraph.Named := ite h h

theorem openItem (h : b.Named) (ht : tag.name ≠ "") : (b.openItem tag).Named := by
  rw [Builder.openItem]
  refine insertTag (closeOpenParagraph ?_) ht
  split
  · exact h
  · exact h

theorem openForm (h : b.Named) (ht : tag.name ≠ "") : (b.openForm tag).Named := by
  have hopened := h.closeOpenParagraph.insertTag ht
  exact ite h (ite hopened hopened)

theorem openSelect (h : b.Named) (ht : tag.name ≠ "") : (b.openSelect tag).Named :=
  h.reopen.insertTag ht

theorem openFrameset (h : b.Named) (ht : tag.name ≠ "") : (b.openFrameset tag).Named := by
  rw [Builder.openFrameset]
  split
  · next body _ _ =>
      have hdetached : (b.withNodes (b.nodes.detach body)).Named := h.withNodes (h.1.detach body)
      exact insertTag (b := { b.withNodes (b.nodes.detach body) with stack := _ }) hdetached ht
  · exact h

theorem mergeBodyAttrs (h : b.Named) (tag : Tag) : (b.mergeBodyAttrs tag).Named := by
  rw [Builder.mergeBodyAttrs]
  split
  · exact ite h (mergeAttrs (b := b.forbidFrameset) h _ _)
  · exact h

theorem closeRuby (h : b.Named) (kept : List String) : (b.closeRuby kept).Named := ite h h

theorem startInBody (h : b.Named) (ht : tag.name ≠ "") : (b.startInBody tag).Named := by
  have hblock := h.closeOpenParagraph
  have hinline := h.reopen
  have himage : { tag with name := "img" }.name ≠ "" := (by decide : "img" ≠ "")
  have hbutton : (if b.hasInScope "button" then (b.closeImplied impliedEnds).popNamed "button"
      else b).Named := ite h h
  have hnobr : (if b.reopen.hasInScope "nobr" then (b.reopen.closeFormatting "nobr").reopen
      else b.reopen).Named := ite (hinline.closeFormatting _).reopen hinline
  have hoption : (if b.currentIs "option" then b.pop else b).Named := ite h h
  rw [Builder.startInBody]
  refine ite (h.mergeRootAttrs tag) ?_
  refine ite (h.getD_startInHead? ht) ?_
  refine ite (h.mergeBodyAttrs tag) ?_
  refine ite (h.openFrameset ht) ?_
  refine ite (hblock.insertTag ht) ?_
  refine ite (insertTag (ite hblock hblock) ht) ?_
  refine ite (hblock.insertTag ht) ?_
  refine ite (h.openForm ht) ?_
  refine ite (h.openItem ht) ?_
  refine ite (hblock.insertTag ht) ?_
  refine ite (hbutton.reopen.insertTag ht).forbidFrameset ?_
  refine ite (h.closeMisnestedLink.reopen.insertFormatting ht) ?_
  refine ite (hinline.insertFormatting ht) ?_
  refine ite (hnobr.insertFormatting ht) ?_
  refine ite (hinline.insertTag ht).addMarker.forbidFrameset ?_
  refine ite ((insertTag (ite h hblock) ht).forbidFrameset.withMode _) ?_
  refine ite (ite (hinline.insertEmpty ht) (hinline.insertEmpty ht).forbidFrameset) ?_
  refine ite (hinline.insertEmpty himage).forbidFrameset ?_
  refine ite (h.insertEmpty ht) ?_
  refine ite (hblock.insertEmpty ht).forbidFrameset ?_
  refine ite (h.forbidFrameset.insertTextElement ht (.escapable "textarea")) ?_
  refine ite (hblock.reopen.forbidFrameset.insertTextElement ht _) ?_
  refine ite (h.forbidFrameset.insertTextElement ht _) ?_
  refine ite (h.insertTextElement ht _) ?_
  refine ite (h.openSelect ht) ?_
  refine ite (hoption.reopen.insertTag ht) ?_
  refine ite ((h.closeRuby _).insertTag ht) ?_
  refine ite ((h.closeRuby _).insertTag ht) ?_
  refine ite (hinline.insertForeign .math ht) ?_
  refine ite (hinline.insertForeign .svg ht) ?_
  exact ite h (hinline.insertTag ht)

theorem closeForm (h : b.Named) : b.closeForm.Named := by
  rw [Builder.closeForm]
  refine ite (ite h h) ?_
  split
  · exact h
  · exact ite h h

theorem endInBody (h : b.Named) (tag : Tag) : (b.endInBody tag).Named := by
  have hparagraph : (if b.inScope b.boundsButton (b.isNamed "p") then b
      else b.insertImplied "p").Named := ite h (h.insertElement .html (by decide) [])
  have hbreak : (b.reopen.insertEmpty ⟨"br", [], false⟩).Named :=
    h.reopen.insertEmpty (by decide : "br" ≠ "")
  rw [Builder.endInBody]
  refine Step.Named.ite h.closeTemplate ?_
  refine Step.Named.ite (ite h h) ?_
  refine Step.Named.ite (Step.Named.ite h h) ?_
  refine Step.Named.ite (ite h h) ?_
  refine Step.Named.ite h.closeForm ?_
  refine Step.Named.ite hparagraph ?_
  refine Step.Named.ite (ite h h) ?_
  refine Step.Named.ite (ite h h) ?_
  refine Step.Named.ite (h.closeFormatting tag.name) ?_
  refine Step.Named.ite (ite h.clearToMarker h) ?_
  exact Step.Named.ite hbreak (h.closeGeneric tag.name)

theorem inBody (h : b.Named) (ht : t.Named) : (b.inBody t).Named := by
  cases t with
  | text content =>
      have hopened : (if isBlankRun content then b.reopen else b.reopen.forbidFrameset).Named :=
        ite h.reopen h.reopen
      exact hopened.appendText content
  | comment content => exact h.appendComment content
  | startTag tag => exact h.startInBody ht
  | endTag tag => exact h.endInBody tag
  | done => exact Step.Named.ite h h.endTemplates
  | _ => exact h

theorem inText (h : b.Named) (t : Token) : (b.inText t).Named := by
  cases t with
  | text content => exact h.appendText content
  | _ => exact h

/-! ### Tables -/

theorem foster (h : b.Named) (ht : t.Named) : (b.foster t).Named :=
  inBody (b := { b with fosterParenting := true }) h ht

theorem textInTable (h : b.Named) (ht : t.Named) : (b.textInTable t).Named :=
  Step.Named.ite h (h.foster ht)

theorem startInTable (h : b.Named) (ht : tag.name ≠ "") : (b.startInTable tag).Named := by
  have hcleared : (b.popTo tableContext).Named := h
  have hhead := h.getD_startInHead? ht
  rw [Builder.startInTable]
  refine Step.Named.ite (hcleared.addMarker.insertTag ht) ?_
  refine Step.Named.ite (hcleared.insertTag ht) ?_
  refine Step.Named.ite (hcleared.insertElement .html (by decide : "colgroup" ≠ "") []) ?_
  refine Step.Named.ite (hcleared.insertTag ht) ?_
  refine Step.Named.ite (hcleared.insertElement .html (by decide : "tbody" ≠ "") []) ?_
  refine Step.Named.ite (Step.Named.ite h h) ?_
  refine Step.Named.ite hhead ?_
  refine Step.Named.ite (h.insertEmpty ht) ?_
  refine Step.Named.ite (Step.Named.ite (h.insertEmpty ht) h) ?_
  exact h.foster (t := .startTag tag) ht

theorem inTable (h : b.Named) (ht : t.Named) : (b.inTable t).Named := by
  cases t with
  | text content => exact h.textInTable ht
  | null => exact h.textInTable ht
  | comment content => exact h.appendComment content
  | startTag tag => exact h.startInTable ht
  | endTag tag =>
      refine Step.Named.ite (Step.Named.ite h h) ?_
      exact Step.Named.ite h.closeTemplate (Step.Named.ite h (h.foster ht))
  | done => exact h.inBody ht
  | _ => exact h

theorem inTableText (h : b.Named) (t : Token) : (b.inTableText t).Named := by
  have hblank : (b.pendingText.foldl Builder.appendText { b with pendingText := [] }).Named :=
    List.foldlRecOn (motive := Named) _ _ h fun _ hplaced content _ => hplaced.appendText content
  have hother : (b.pendingText.foldl (fun (b : Builder) content => (b.foster (.text content)).builder)
      { b with pendingText := [] }).Named := by
    refine List.foldlRecOn (motive := Named) _ _ h fun placed hplaced content _ => ?_
    exact foster hplaced (t := .text content) trivial
  have hplaced := ite (c := b.pendingText.all isBlankRun) hblank hother
  cases t with
  | null => exact h
  | text content => exact h
  | _ => exact hplaced

theorem inCaption (h : b.Named) (ht : t.Named) : (b.inCaption t).Named := by
  have hclosed : ((b.closeImplied impliedEnds).popNamed "caption").clearToMarker.Named :=
    clearToMarker (b := (b.closeImplied impliedEnds).popNamed "caption") h
  cases t with
  | startTag tag => exact Step.Named.ite (Step.Named.ite hclosed h) (h.inBody ht)
  | endTag tag =>
      refine Step.Named.ite (Step.Named.ite hclosed h) ?_
      exact Step.Named.ite (Step.Named.ite hclosed h) (Step.Named.ite h (h.inBody ht))
  | _ => exact h.inBody ht

theorem inColumnGroup (h : b.Named) (ht : t.Named) : (b.inColumnGroup t).Named := by
  have hleave : (if b.currentIs "colgroup" then b.pop.retryIn .inTable else b.handled).Named :=
    Step.Named.ite h h
  cases t with
  | text content => exact Step.Named.ite (h.appendText content) hleave
  | comment content => exact h.appendComment content
  | startTag tag =>
      refine Step.Named.ite (h.mergeRootAttrs tag) ?_
      exact Step.Named.ite (h.insertEmpty ht) (Step.Named.ite (h.openTemplate ht) hleave)
  | endTag tag =>
      refine Step.Named.ite (ite h h) ?_
      exact Step.Named.ite h (Step.Named.ite h.closeTemplate hleave)
  | done => exact h.inBody ht
  | _ => exact hleave

theorem inTableBody (h : b.Named) (ht : t.Named) : (b.inTableBody t).Named := by
  have hcleared : (b.popTo tableBodyContext).Named := h
  have hleave : (if b.inScope b.boundsTable (b.isNamedIn ["table", "tbody", "tfoot"]) then
      (b.popTo tableBodyContext).pop.retryIn .inTable else b.handled).Named := Step.Named.ite h h
  cases t with
  | startTag tag =>
      refine Step.Named.ite (hcleared.insertTag ht) ?_
      refine Step.Named.ite (hcleared.insertElement .html (by decide : "tr" ≠ "") []) ?_
      exact Step.Named.ite hleave (h.inTable ht)
  | endTag tag =>
      refine Step.Named.ite (ite h h) ?_
      exact Step.Named.ite hleave (Step.Named.ite h (h.inTable ht))
  | _ => exact h.inTable ht

theorem inRow (h : b.Named) (ht : t.Named) : (b.inRow t).Named := by
  have hcleared : (b.popTo rowContext).Named := h
  have hleave : (if b.hasInTableScope "tr" then
      (b.popTo rowContext).pop.retryIn .inTableBody else b.handled).Named := Step.Named.ite h h
  cases t with
  | startTag tag =>
      refine Step.Named.ite (addMarker ((hcleared.insertTag ht).withMode _)) ?_
      exact Step.Named.ite hleave (h.inTable ht)
  | endTag tag =>
      refine Step.Named.ite (ite h h) ?_
      refine Step.Named.ite hleave ?_
      exact Step.Named.ite (Step.Named.ite hleave h) (Step.Named.ite h (h.inTable ht))
  | _ => exact h.inTable ht

theorem closeCell (h : b.Named) : b.closeCell.Named :=
  clearToMarker (b := (b.closeImplied impliedEnds).popThrough (b.isNamedIn ["td", "th"])) h

theorem inCell (h : b.Named) (ht : t.Named) : (b.inCell t).Named := by
  cases t with
  | startTag tag => exact Step.Named.ite (Step.Named.ite h.closeCell h) (h.inBody ht)
  | endTag tag =>
      have hclosed : ((b.closeImplied impliedEnds).popNamed tag.name).clearToMarker.Named :=
        clearToMarker (b := (b.closeImplied impliedEnds).popNamed tag.name) h
      refine Step.Named.ite (ite hclosed h) ?_
      refine Step.Named.ite h ?_
      exact Step.Named.ite (Step.Named.ite h.closeCell h) (h.inBody ht)
  | _ => exact h.inBody ht

/-! ### Selections, templates and frames -/

theorem inSelect (h : b.Named) (ht : t.Named) : (b.inSelect t).Named := by
  have hnoOption : (if b.currentIs "option" then b.pop else b).Named := ite h h
  cases t with
  | text content => exact h.appendText content
  | comment content => exact h.appendComment content
  | startTag tag =>
      have hhead := h.getD_startInHead? ht
      have hnoGroup := ite (c := (if b.currentIs "option" then b.pop else b).currentIs "optgroup")
        (x := (if b.currentIs "option" then b.pop else b).pop) hnoOption hnoOption
      refine Step.Named.ite (h.mergeRootAttrs tag) ?_
      refine Step.Named.ite (hnoOption.insertTag ht) ?_
      refine Step.Named.ite (hnoGroup.insertTag ht) ?_
      refine Step.Named.ite (hnoGroup.insertEmpty ht) ?_
      refine Step.Named.ite (ite h h) ?_
      exact Step.Named.ite (Step.Named.ite h h) (Step.Named.ite hhead h)
  | endTag tag =>
      have hgroup : (if b.currentIs "option" && b.isNamed "optgroup" ((b.stack.drop 1).headD 0)
          then b.pop else b).Named := ite h h
      refine Step.Named.ite (ite hgroup hgroup) ?_
      refine Step.Named.ite hnoOption ?_
      exact Step.Named.ite (ite h h) (Step.Named.ite h.closeTemplate h)
  | done => exact h.inBody ht
  | _ => exact h

theorem inSelectInTable (h : b.Named) (ht : t.Named) : (b.inSelectInTable t).Named := by
  cases t with
  | startTag tag => exact Step.Named.ite h (h.inSelect ht)
  | endTag tag => exact Step.Named.ite (Step.Named.ite h h) (h.inSelect ht)
  | _ => exact h.inSelect ht

theorem inTemplate (h : b.Named) (ht : t.Named) : (b.inTemplate t).Named := by
  cases t with
  | text content => exact h.inBody ht
  | comment content => exact h.inBody ht
  | startTag tag =>
      have hhead := h.getD_startInHead? ht
      refine Step.Named.ite hhead ?_
      refine Step.Named.ite h <| Step.Named.ite h <| Step.Named.ite h <| Step.Named.ite h h
  | endTag tag => exact ite h.closeTemplate h
  | done => exact h.endTemplates
  | _ => exact h

theorem inAfterBody (h : b.Named) (ht : t.Named) : (b.inAfterBody t).Named := by
  cases t with
  | text content => exact Step.Named.ite (h.inBody ht) h
  | comment content => exact h.appendCommentTo _ content
  | startTag tag => exact Step.Named.ite (h.mergeRootAttrs tag) h
  | endTag tag => exact Step.Named.ite h h
  | _ => exact h

theorem inAfterAfterBody (h : b.Named) (ht : t.Named) : (b.inAfterAfterBody t).Named := by
  cases t with
  | text content => exact Step.Named.ite (h.inBody ht) h
  | comment content => exact h.appendCommentTo _ content
  | startTag tag => exact Step.Named.ite (h.mergeRootAttrs tag) h
  | _ => exact h

theorem inFrameset (h : b.Named) (ht : t.Named) : (b.inFrameset t).Named := by
  cases t with
  | text content => exact ite (h.appendText content) h
  | comment content => exact h.appendComment content
  | startTag tag =>
      refine ite (h.mergeRootAttrs tag) ?_
      refine ite (h.insertTag ht) ?_
      exact ite (h.insertEmpty ht) (ite (h.getD_startInHead? ht) h)
  | endTag tag => exact Step.Named.ite (ite h h) h
  | _ => exact h

theorem inAfterFrameset (h : b.Named) (ht : t.Named) : (b.inAfterFrameset t).Named := by
  cases t with
  | text content => exact ite (h.appendText content) h
  | comment content => exact h.appendComment content
  | startTag tag => exact ite (h.mergeRootAttrs tag) (ite (h.getD_startInHead? ht) h)
  | endTag tag => exact ite h h
  | _ => exact h

theorem inAfterAfterFrameset (h : b.Named) (ht : t.Named) : (b.inAfterAfterFrameset t).Named := by
  cases t with
  | text content => exact Step.Named.ite (h.inBody ht) h
  | comment content => exact h.appendCommentTo _ content
  | startTag tag => exact ite (h.mergeRootAttrs tag) (ite (h.getD_startInHead? ht) h)
  | _ => exact h

/-! ### Any token -/

theorem applyRules (h : b.Named) (ht : t.Named) : (b.applyRules t).Named := by
  rw [Builder.applyRules]
  cases b.mode with
  | initial => exact h.inInitial t
  | beforeHtml => exact h.inBeforeHtml t
  | beforeHead => exact h.inBeforeHead t
  | inHead => exact h.inHead ht
  | afterHead => exact h.inAfterHead ht
  | inBody => exact h.inBody ht
  | inText => exact h.inText t
  | inTable => exact h.inTable ht
  | inTableText => exact h.inTableText t
  | inCaption => exact h.inCaption ht
  | inColumnGroup => exact h.inColumnGroup ht
  | inTableBody => exact h.inTableBody ht
  | inRow => exact h.inRow ht
  | inCell => exact h.inCell ht
  | inSelect => exact h.inSelect ht
  | inSelectInTable => exact h.inSelectInTable ht
  | inTemplate => exact h.inTemplate ht
  | afterBody => exact h.inAfterBody ht
  | inFrameset => exact h.inFrameset ht
  | afterFrameset => exact h.inAfterFrameset ht
  | afterAfterBody => exact h.inAfterAfterBody ht
  | afterAfterFrameset => exact h.inAfterAfterFrameset ht

theorem inForeign {outer : Builder → Token → Step}
    (houter : ∀ {b : Builder}, b.Named → (outer b t).Named) (h : b.Named) (ht : t.Named) :
    (b.inForeign outer t).Named := by
  have hleft : b.leaveForeign.Named := h
  cases t with
  | null => exact h.appendText _
  | text content =>
      have hfree : (if content.toList.all Text.isAsciiBlank then b else b.forbidFrameset).Named :=
        ite h h
      exact hfree.appendText content
  | comment content => exact h.appendComment content
  | startTag tag =>
      refine Step.Named.ite (houter hleft) ?_
      split
      · next vocabulary _ _ => exact h.insertForeign vocabulary ht
      · exact h
  | endTag tag =>
      refine Step.Named.ite (houter hleft) ?_
      split
      · next closed hclosed =>
          have hnamed := h.closeForeign tag.name true b.stack
          rw [hclosed] at hnamed
          exact hnamed
      · exact houter h
  | _ => exact h

theorem step (h : b.Named) (ht : t.Named) : (b.step t).Named :=
  Step.Named.ite (h.inForeign (fun hb => hb.applyRules ht) ht) (h.applyRules ht)

theorem takeWithin (h : b.Named) (ht : t.Named) (fuel : Nat) :
    (Builder.takeWithin fuel b t).Named := by
  induction fuel generalizing b with
  | zero => exact h
  | succ fuel ih => exact ite (ih (h.step ht)) (h.step ht)

theorem takeDoctype (h : b.Named) (d : Doctype) : (b.takeDoctype d).Named := by
  have hdoctype : Item.Named (.doctype (d.name.getD "")) := trivial
  have hadded := h.addAt (.lastChild Arena.root) hdoctype
  exact ite hadded h

/-- **A token keeps the names of a builder.** -/
theorem take (h : b.Named) (ht : t.Named) : (b.take t).Named := by
  have hrun : ∀ {t : Token}, t.Named → (Builder.takeWithin (4 * b.stack.length + 16)
      { b with skipLineFeed := false } t).Named := fun ht =>
    takeWithin (b := { b with skipLineFeed := false }) h ht _
  cases t with
  | mistake => exact h
  | doctype d => exact takeDoctype (b := { b with skipLineFeed := false }) h d
  | text content => exact ite h (hrun (t := .text _) trivial)
  | _ => exact hrun ht

end Named

end Builder

end Html

end ThemeCompiler
