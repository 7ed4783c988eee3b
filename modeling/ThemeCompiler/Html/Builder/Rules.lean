/-
**The rules of all modes.**

Selections, templates, frames and what follows the body; then the choice of the rules for a token,
which are applied until one of them deals with it.

Main definitions:

* `ThemeCompiler.Html.Builder.inSelect`, `ThemeCompiler.Html.Builder.inTemplate`,
  `ThemeCompiler.Html.Builder.inFrameset` and the like — the rules of the remaining modes;
* `ThemeCompiler.Html.Builder.applyRules` — the rules of a mode;
* `ThemeCompiler.Html.Builder.take` — the builder after a token.
-/

import ThemeCompiler.Html.Builder.Table

set_option relaxedAutoImplicit false
set_option autoImplicit false

namespace ThemeCompiler

namespace Html

namespace Builder

/-! ### Selections -/

/-- The rules inside a selection. -/
def inSelect (b : Builder) (t : Token) : Step :=
  let isOpen := b.inScope b.boundsSelect (b.isNamed "select")
  let closed := b.popNamed "select"
  match t with
  | .text content => (b.appendText content).handled
  | .comment content => (b.appendComment content).handled
  | .startTag tag =>
      let name := tag.name
      let noOption := if b.currentIs "option" then b.pop else b
      let noGroup := if noOption.currentIs "optgroup" then noOption.pop else noOption
      if name == "html" then (b.mergeRootAttrs tag).handled
      else if name == "option" then (noOption.insertTag tag).handled
      else if name == "optgroup" then (noGroup.insertTag tag).handled
      else if name == "hr" then (noGroup.insertEmpty tag).handled
      else if name == "select" then
        (if isOpen then closed.withMode closed.resetMode else b).handled
      else if ["input", "keygen", "textarea"].contains name then
        if isOpen then closed.retryIn closed.resetMode else b.handled
      else if name == "script" || name == "template" then
        ((b.startInHead? tag).getD b).handled
      else b.handled
  | .endTag tag =>
      let name := tag.name
      if name == "optgroup" then
        let inGroup := b.currentIs "option" && b.isNamed "optgroup" ((b.stack.drop 1).headD 0)
        let b := if inGroup then b.pop else b
        (if b.currentIs "optgroup" then b.pop else b).handled
      else if name == "option" then (if b.currentIs "option" then b.pop else b).handled
      else if name == "select" then
        (if isOpen then closed.withMode closed.resetMode else b).handled
      else if name == "template" then b.closeTemplate.handled
      else b.handled
  | .done => b.inBody t
  | _ => b.handled

/-- The rules inside a selection in a table, whose parts close the selection. -/
def inSelectInTable (b : Builder) (t : Token) : Step :=
  let isPart (name : String) : Bool :=
    ["caption", "table", "tbody", "tfoot", "thead", "tr", "td", "th"].contains name
  let closed := b.popNamed "select"
  match t with
  | .startTag tag =>
      if isPart tag.name then closed.retryIn closed.resetMode else b.inSelect t
  | .endTag tag =>
      if isPart tag.name then
        if b.hasInTableScope tag.name then closed.retryIn closed.resetMode else b.handled
      else b.inSelect t
  | _ => b.inSelect t

/-! ### Templates -/

/-- The token with another mode for the content of the innermost template. -/
def templateRetry (b : Builder) (mode : Mode) : Step :=
  { b with templateModes := mode :: b.templateModes.drop 1 }.retryIn mode

/-- The rules inside a template. -/
def inTemplate (b : Builder) (t : Token) : Step :=
  match t with
  | .text _ | .comment _ => b.inBody t
  | .startTag tag =>
      let name := tag.name
      if headTags.contains name then ((b.startInHead? tag).getD b).handled
      else if ["caption", "colgroup", "tbody", "tfoot", "thead"].contains name then
        b.templateRetry .inTable
      else if name == "col" then b.templateRetry .inColumnGroup
      else if name == "tr" then b.templateRetry .inTableBody
      else if name == "td" || name == "th" then b.templateRetry .inRow
      else b.templateRetry .inBody
  | .endTag tag => (if tag.name == "template" then b.closeTemplate else b).handled
  | .done => b.endTemplates
  | _ => b.handled

/-! ### After the body -/

/-- The rules after the body. -/
def inAfterBody (b : Builder) (t : Token) : Step :=
  match t with
  | .text content => if isBlankRun content then b.inBody t else b.retryIn .inBody
  | .comment content => (b.appendCommentTo b.rootElement content).handled
  | .startTag tag =>
      if tag.name == "html" then (b.mergeRootAttrs tag).handled else b.retryIn .inBody
  | .endTag tag =>
      if tag.name == "html" then (b.withMode .afterAfterBody).handled else b.retryIn .inBody
  | .done => b.handled
  | _ => b.retryIn .inBody

/-- The rules after the root element. -/
def inAfterAfterBody (b : Builder) (t : Token) : Step :=
  match t with
  | .text content => if isBlankRun content then b.inBody t else b.retryIn .inBody
  | .comment content => b.commentOnDocument content
  | .startTag tag =>
      if tag.name == "html" then (b.mergeRootAttrs tag).handled else b.retryIn .inBody
  | .done => b.handled
  | _ => b.retryIn .inBody

/-! ### Frames -/

/-- The rules inside a set of frames. -/
def inFrameset (b : Builder) (t : Token) : Step :=
  match t with
  | .text content => (if isBlankRun content then b.appendText content else b).handled
  | .comment content => (b.appendComment content).handled
  | .startTag tag =>
      let name := tag.name
      (if name == "html" then b.mergeRootAttrs tag
      else if name == "frameset" then b.insertTag tag
      else if name == "frame" then b.insertEmpty tag
      else if name == "noframes" then (b.startInHead? tag).getD b
      else b).handled
  | .endTag tag =>
      if tag.name == "frameset" && b.stack.length != 1 then
        let closed := b.pop
        (if closed.currentIs "frameset" then closed else closed.withMode .afterFrameset).handled
      else b.handled
  | _ => b.handled

/-- The rules after a set of frames. -/
def inAfterFrameset (b : Builder) (t : Token) : Step :=
  match t with
  | .text content => (if isBlankRun content then b.appendText content else b).handled
  | .comment content => (b.appendComment content).handled
  | .startTag tag =>
      (if tag.name == "html" then b.mergeRootAttrs tag
      else if tag.name == "noframes" then (b.startInHead? tag).getD b
      else b).handled
  | .endTag tag =>
      (if tag.name == "html" then b.withMode .afterAfterFrameset else b).handled
  | _ => b.handled

/-- The rules after the root element of a page of frames. -/
def inAfterAfterFrameset (b : Builder) (t : Token) : Step :=
  match t with
  | .text content => if isBlankRun content then b.inBody t else b.handled
  | .comment content => b.commentOnDocument content
  | .startTag tag =>
      (if tag.name == "html" then b.mergeRootAttrs tag
      else if tag.name == "noframes" then (b.startInHead? tag).getD b
      else b).handled
  | _ => b.handled

/-! ### Choosing the rules -/

/-- **The rules of the mode of a builder.** -/
def applyRules (b : Builder) (t : Token) : Step :=
  match b.mode with
  | .initial => b.inInitial t
  | .beforeHtml => b.inBeforeHtml t
  | .beforeHead => b.inBeforeHead t
  | .inHead => b.inHead t
  | .afterHead => b.inAfterHead t
  | .inBody => b.inBody t
  | .inText => b.inText t
  | .inTable => b.inTable t
  | .inTableText => b.inTableText t
  | .inCaption => b.inCaption t
  | .inColumnGroup => b.inColumnGroup t
  | .inTableBody => b.inTableBody t
  | .inRow => b.inRow t
  | .inCell => b.inCell t
  | .inSelect => b.inSelect t
  | .inSelectInTable => b.inSelectInTable t
  | .inTemplate => b.inTemplate t
  | .afterBody => b.inAfterBody t
  | .inFrameset => b.inFrameset t
  | .afterFrameset => b.inAfterFrameset t
  | .afterAfterBody => b.inAfterAfterBody t
  | .afterAfterFrameset => b.inAfterAfterFrameset t

/-- The rules that apply to a token: those of its mode, or those of foreign elements. -/
def step (b : Builder) (t : Token) : Step :=
  if b.isForeign t then b.inForeign applyRules t else b.applyRules t

/-- Applies rules until one deals with the token, at most `fuel` times. -/
def takeWithin : Nat → Builder → Token → Builder
  | 0, b, _ => b
  | fuel + 1, b, t =>
      let next := b.step t
      if next.again then takeWithin fuel next.builder t else next.builder

/-- The builder after a document type declaration, which counts only at the very beginning. -/
def takeDoctype (b : Builder) (d : Doctype) : Builder :=
  if b.mode = .initial then
    { b.addAt (.lastChild Arena.root) (.doctype (d.name.getD "")) with
      oldRules := d.asksForOldRules, mode := .beforeHtml }
  else b

/-- A text without a line feed in front. -/
def withoutLineFeed (content : String) : String :=
  match content.toList with
  | '\n' :: rest => String.ofList rest
  | _ => content

/-- **The builder after a token.**  A line feed right after some start tags is left out.  Every
change of mode either comes closer to the content or closes an element, which bounds the number of
rules. -/
def take (b : Builder) (t : Token) : Builder :=
  let skip := b.skipLineFeed
  let b := { b with skipLineFeed := false }
  let run := takeWithin (4 * b.stack.length + 16) b
  match t with
  | .mistake => b
  | .doctype d => b.takeDoctype d
  | .text content =>
      let content := if skip then withoutLineFeed content else content
      if content.isEmpty then b else run (.text content)
  | _ => run t

end Builder

end Html

end ThemeCompiler
