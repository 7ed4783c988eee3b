/-
**Rules inside tables.**

What may not stand in a table is put before it.  Text is collected first, because a blank run stays
where it is.

Main definitions:

* `ThemeCompiler.Html.Builder.foster` — the rules of the body for what does not belong in a table;
* `ThemeCompiler.Html.Builder.inTable`, `ThemeCompiler.Html.Builder.inTableText`,
  `ThemeCompiler.Html.Builder.inCaption`, `ThemeCompiler.Html.Builder.inColumnGroup`,
  `ThemeCompiler.Html.Builder.inTableBody`, `ThemeCompiler.Html.Builder.inRow`,
  `ThemeCompiler.Html.Builder.inCell` — the rules of the modes.
-/

import ThemeCompiler.Html.Builder.Body

set_option relaxedAutoImplicit false
set_option autoImplicit false

namespace ThemeCompiler

namespace Html

namespace Builder

/-- The boundaries of a table. -/
def tableContext : List String := ["html", "table", "template"]

/-- The boundaries of a table body. -/
def tableBodyContext : List String := ["tbody", "tfoot", "thead", "template", "html"]

/-- The boundaries of a row. -/
def rowContext : List String := ["tr", "template", "html"]

/-- The parts of a table that begin with a start tag. -/
def tablePartTags : List String :=
  ["caption", "col", "colgroup", "tbody", "td", "tfoot", "th", "thead", "tr"]

/-- **The rules of the body for what does not belong in a table**, with new nodes put before it. -/
def foster (b : Builder) (t : Token) : Step :=
  let step := { b with fosterParenting := true }.inBody t
  { step with builder := { step.builder with fosterParenting := false } }

/-- Text in a table is collected when the current node is a part of a table. -/
def textInTable (b : Builder) (t : Token) : Step :=
  if b.currentIn ["table", "tbody", "tfoot", "thead", "tr"] then
    { b with returnMode := b.mode }.retryIn .inTableText
  else b.foster t

/-- The rules for start tags in a table. -/
def startInTable (b : Builder) (tag : Tag) : Step :=
  let name := tag.name
  let cleared := b.popTo tableContext
  if name == "caption" then ((cleared.addMarker.insertTag tag).withMode .inCaption).handled
  else if name == "colgroup" then ((cleared.insertTag tag).withMode .inColumnGroup).handled
  else if name == "col" then (cleared.insertImplied "colgroup").retryIn .inColumnGroup
  else if ["tbody", "tfoot", "thead"].contains name then
    ((cleared.insertTag tag).withMode .inTableBody).handled
  else if ["td", "th", "tr"].contains name then
    (cleared.insertImplied "tbody").retryIn .inTableBody
  else if name == "table" then
    if b.hasInTableScope "table" then
      let closed := b.popNamed "table"
      closed.retryIn closed.resetMode
    else b.handled
  else if ["style", "script", "template"].contains name then
    ((b.startInHead? tag).getD b).handled
  else if name == "input" && isHidden tag then (b.insertEmpty tag).handled
  else if name == "form" then
    if !b.isOpen "template" && b.formElement.isNone then
      let made := b.insertEmpty tag
      { made with formElement := some made.newest }.handled
    else b.handled
  else b.foster (.startTag tag)

/-- **The rules inside a table.** -/
def inTable (b : Builder) (t : Token) : Step :=
  match t with
  | .text _ | .null => b.textInTable t
  | .comment content => (b.appendComment content).handled
  | .startTag tag => b.startInTable tag
  | .endTag tag =>
      if tag.name == "table" then
        if b.hasInTableScope "table" then
          let closed := b.popNamed "table"
          (closed.withMode closed.resetMode).handled
        else b.handled
      else if tag.name == "template" then b.closeTemplate.handled
      else if tag.name == "body" || tag.name == "html" || tablePartTags.contains tag.name then
        b.handled
      else b.foster t
  | .done => b.inBody t
  | _ => b.handled

/-- The rules for text that is collected in a table.  A run that is not blank sends all of it before
the table. -/
def inTableText (b : Builder) (t : Token) : Step :=
  match t with
  | .null => b.handled
  | .text content => { b with pendingText := b.pendingText ++ [content] }.handled
  | _ =>
      let pending := b.pendingText
      let emptied := { b with pendingText := [] }
      let placed :=
        if pending.all isBlankRun then pending.foldl appendText emptied
        else pending.foldl (fun b content => (b.foster (.text content)).builder) emptied
      placed.retryIn b.returnMode

/-- The rules inside a caption. -/
def inCaption (b : Builder) (t : Token) : Step :=
  let close (next : Builder → Step) : Step :=
    if b.hasInTableScope "caption" then
      next ((b.closeImplied impliedEnds).popNamed "caption").clearToMarker
    else b.handled
  match t with
  | .startTag tag =>
      if tablePartTags.contains tag.name then close (·.retryIn .inTable) else b.inBody t
  | .endTag tag =>
      if tag.name == "caption" then close fun b => (b.withMode .inTable).handled
      else if tag.name == "table" then close (·.retryIn .inTable)
      else if tag.name == "body" || tag.name == "html" || tablePartTags.contains tag.name then
        b.handled
      else b.inBody t
  | _ => b.inBody t

/-- The rules inside a group of columns. -/
def inColumnGroup (b : Builder) (t : Token) : Step :=
  let leave := if b.currentIs "colgroup" then b.pop.retryIn .inTable else b.handled
  match t with
  | .text content => if isBlankRun content then (b.appendText content).handled else leave
  | .comment content => (b.appendComment content).handled
  | .startTag tag =>
      if tag.name == "html" then (b.mergeRootAttrs tag).handled
      else if tag.name == "col" then (b.insertEmpty tag).handled
      else if tag.name == "template" then (b.openTemplate tag).handled
      else leave
  | .endTag tag =>
      if tag.name == "colgroup" then
        (if b.currentIs "colgroup" then b.pop.withMode .inTable else b).handled
      else if tag.name == "col" then b.handled
      else if tag.name == "template" then b.closeTemplate.handled
      else leave
  | .done => b.inBody t
  | _ => leave

/-- The rules inside a table body. -/
def inTableBody (b : Builder) (t : Token) : Step :=
  let cleared := b.popTo tableBodyContext
  let leave : Step :=
    if b.inScope b.boundsTable (b.isNamedIn ["table", "tbody", "tfoot"]) then
      cleared.pop.retryIn .inTable
    else b.handled
  match t with
  | .startTag tag =>
      if tag.name == "tr" then ((cleared.insertTag tag).withMode .inRow).handled
      else if tag.name == "th" || tag.name == "td" then
        (cleared.insertImplied "tr").retryIn .inRow
      else if tablePartTags.contains tag.name then leave
      else b.inTable t
  | .endTag tag =>
      if ["tbody", "tfoot", "thead"].contains tag.name then
        (if b.hasInTableScope tag.name then cleared.pop.withMode .inTable else b).handled
      else if tag.name == "table" then leave
      else if tag.name == "body" || tag.name == "html" || tablePartTags.contains tag.name then
        b.handled
      else b.inTable t
  | _ => b.inTable t

/-- The rules inside a row. -/
def inRow (b : Builder) (t : Token) : Step :=
  let cleared := b.popTo rowContext
  let leave : Step :=
    if b.hasInTableScope "tr" then cleared.pop.retryIn .inTableBody else b.handled
  match t with
  | .startTag tag =>
      if tag.name == "th" || tag.name == "td" then
        ((cleared.insertTag tag).withMode .inCell).addMarker.handled
      else if tablePartTags.contains tag.name then leave
      else b.inTable t
  | .endTag tag =>
      if tag.name == "tr" then
        (if b.hasInTableScope "tr" then cleared.pop.withMode .inTableBody else b).handled
      else if tag.name == "table" then leave
      else if ["tbody", "tfoot", "thead"].contains tag.name then
        if b.hasInTableScope tag.name then leave else b.handled
      else if tag.name == "body" || tag.name == "html" || tablePartTags.contains tag.name then
        b.handled
      else b.inTable t
  | _ => b.inTable t

/-- Closes the open cell. -/
def closeCell (b : Builder) : Builder :=
  ((b.closeImplied impliedEnds).popThrough (b.isNamedIn ["td", "th"])).clearToMarker

/-- The rules inside a cell. -/
def inCell (b : Builder) (t : Token) : Step :=
  match t with
  | .startTag tag =>
      if tablePartTags.contains tag.name then
        if b.inScope b.boundsTable (b.isNamedIn ["td", "th"]) then b.closeCell.retryIn .inRow
        else b.handled
      else b.inBody t
  | .endTag tag =>
      let name := tag.name
      if name == "td" || name == "th" then
        (if b.hasInTableScope name then
          (((b.closeImplied impliedEnds).popNamed name).clearToMarker).withMode .inRow
        else b).handled
      else if ["body", "caption", "col", "colgroup", "html"].contains name then b.handled
      else if ["table", "tbody", "tfoot", "thead", "tr"].contains name then
        if b.hasInTableScope name then b.closeCell.retryIn .inRow else b.handled
      else b.inBody t
  | _ => b.inBody t

end Builder

end Html

end ThemeCompiler
