/-
**Rules inside the body.**

Blocks close an open paragraph, formatting elements are remembered, and an end tag closes its
element together with those whose end tags may be left out.

Main definitions:

* `ThemeCompiler.Html.Builder.startInBody`, `ThemeCompiler.Html.Builder.endInBody` — the rules for
  tags;
* `ThemeCompiler.Html.Builder.inBody`, `ThemeCompiler.Html.Builder.inText` — the rules of the modes.
-/

import ThemeCompiler.Html.Builder.Foreign
import ThemeCompiler.Html.Builder.Head

set_option relaxedAutoImplicit false
set_option autoImplicit false

namespace ThemeCompiler

namespace Html

namespace Builder

/-! ### Groups of elements -/

/-- The blocks that close an open paragraph. -/
def blockTags : List String :=
  ["address", "article", "aside", "blockquote", "center", "details", "dialog", "dir", "div", "dl",
    "fieldset", "figcaption", "figure", "footer", "header", "hgroup", "main", "menu", "nav", "ol",
    "p", "search", "section", "summary", "ul"]

/-- The elements that an end tag closes when they are in scope. -/
def scopedEndTags : List String :=
  ["address", "article", "aside", "blockquote", "button", "center", "details", "dialog", "dir",
    "div", "dl", "fieldset", "figcaption", "figure", "footer", "header", "hgroup", "listing",
    "main", "menu", "nav", "ol", "pre", "search", "section", "summary", "ul"]

/-- The headings. -/
def headingTags : List String := ["h1", "h2", "h3", "h4", "h5", "h6"]

/-- The formatting elements besides links and unbreakable text. -/
def formattingTags : List String :=
  ["b", "big", "code", "em", "font", "i", "s", "small", "strike", "strong", "tt", "u"]

/-- The elements that bound the formatting inside of them. -/
def boundaryTags : List String := ["applet", "marquee", "object"]

/-- The elements without content that open what was cut off. -/
def inlineVoids : List String := ["area", "br", "embed", "img", "keygen", "wbr", "input"]

/-- The parts of tables and frames that do not count in the body. -/
def strayTags : List String :=
  ["caption", "col", "colgroup", "frame", "head", "tbody", "td", "tfoot", "th", "thead", "tr"]

/-! ### Start tags -/

/-- The name of the item that a new item closes, looked for down the stack. -/
def itemToClose (b : Builder) (names : List String) : List NodeId → Option String
  | [] => none
  | n :: rest =>
      if b.isNamedIn names n then b.htmlName? n
      else if b.isSpecial n && !b.isNamedIn ["address", "div", "p"] n then none
      else b.itemToClose names rest

/-- Begins an item of a list. -/
def openItem (b : Builder) (tag : Tag) : Builder :=
  let b := b.forbidFrameset
  let names := if tag.name == "li" then ["li"] else ["dd", "dt"]
  let b := match b.itemToClose names b.stack with
    | some name => (b.closeImpliedExcept name).popNamed name
    | none => b
  b.closeOpenParagraph.insertTag tag

/-- Begins a form, unless one is open outside of templates. -/
def openForm (b : Builder) (tag : Tag) : Builder :=
  let inTemplate := b.isOpen "template"
  if b.formElement.isSome && !inTemplate then b
  else
    let opened := b.closeOpenParagraph.insertTag tag
    if inTemplate then opened else { opened with formElement := some opened.current }

/-- Begins a selection. -/
def openSelect (b : Builder) (tag : Tag) : Builder :=
  let inTable := match b.mode with
    | .inTable | .inCaption | .inTableBody | .inRow | .inCell => true
    | _ => false
  (b.reopen.insertTag tag).forbidFrameset.withMode (if inTable then .inSelectInTable else .inSelect)

/-- Replaces the body by a set of frames, as long as that is allowed. -/
def openFrameset (b : Builder) (tag : Tag) : Builder :=
  match b.framesetAllowed, b.bodyElement? with
  | true, some body =>
      let b := b.withNodes (b.nodes.detach body)
      ({ b with stack := [b.rootElement] }.insertTag tag).withMode .inFrameset
  | _, _ => b

/-- Gives the body the attributes of another body tag. -/
def mergeBodyAttrs (b : Builder) (tag : Tag) : Builder :=
  match b.bodyElement? with
  | some body =>
      if b.isOpen "template" then b else b.forbidFrameset.mergeAttrs body tag.attrs
  | none => b

/-- An annotation of ruby text closes what may be closed, inside of ruby. -/
def closeRuby (b : Builder) (kept : List String) : Builder :=
  if b.hasInScope "ruby" then b.closeImplied (impliedEnds.filter (!kept.contains ·)) else b

/-- **The rules for start tags in the body.** -/
def startInBody (b : Builder) (tag : Tag) : Builder :=
  let name := tag.name
  if name == "html" then b.mergeRootAttrs tag
  else if headTags.contains name then (b.startInHead? tag).getD b
  else if name == "body" then b.mergeBodyAttrs tag
  else if name == "frameset" then b.openFrameset tag
  else if blockTags.contains name then b.closeOpenParagraph.insertTag tag
  else if headingTags.contains name then
    let b := b.closeOpenParagraph
    (if b.currentIn headingTags then b.pop else b).insertTag tag
  else if name == "pre" || name == "listing" then
    { (b.closeOpenParagraph.insertTag tag).forbidFrameset with skipLineFeed := true }
  else if name == "form" then b.openForm tag
  else if name == "li" || name == "dd" || name == "dt" then b.openItem tag
  else if name == "plaintext" then { b.closeOpenParagraph.insertTag tag with textMode := .plain }
  else if name == "button" then
    let b := if b.hasInScope "button" then (b.closeImplied impliedEnds).popNamed "button" else b
    (b.reopen.insertTag tag).forbidFrameset
  else if name == "a" then b.closeMisnestedLink.reopen.insertFormatting tag
  else if formattingTags.contains name then b.reopen.insertFormatting tag
  else if name == "nobr" then
    let b := b.reopen
    (if b.hasInScope "nobr" then (b.closeFormatting "nobr").reopen else b).insertFormatting tag
  else if boundaryTags.contains name then (b.reopen.insertTag tag).addMarker.forbidFrameset
  else if name == "table" then
    let b := if b.oldRules then b else b.closeOpenParagraph
    (b.insertTag tag).forbidFrameset.withMode .inTable
  else if inlineVoids.contains name then
    let b := b.reopen.insertEmpty tag
    if name == "input" && isHidden tag then b else b.forbidFrameset
  else if name == "image" then (b.reopen.insertEmpty { tag with name := "img" }).forbidFrameset
  else if ["param", "source", "track"].contains name then b.insertEmpty tag
  else if name == "hr" then (b.closeOpenParagraph.insertEmpty tag).forbidFrameset
  else if name == "textarea" then
    { (b.forbidFrameset.insertTextElement tag (.escapable "textarea")) with skipLineFeed := true }
  else if name == "xmp" then
    b.closeOpenParagraph.reopen.forbidFrameset.insertTextElement tag (.raw "xmp")
  else if name == "iframe" then b.forbidFrameset.insertTextElement tag (.raw "iframe")
  else if name == "noembed" || name == "noscript" then b.insertTextElement tag (.raw name)
  else if name == "select" then b.openSelect tag
  else if name == "optgroup" || name == "option" then
    (if b.currentIs "option" then b.pop else b).reopen.insertTag tag
  else if name == "rb" || name == "rtc" then (b.closeRuby []).insertTag tag
  else if name == "rp" || name == "rt" then (b.closeRuby ["rtc"]).insertTag tag
  else if name == "math" then b.reopen.insertForeign .math tag
  else if name == "svg" then b.reopen.insertForeign .svg tag
  else if strayTags.contains name then b
  else b.reopen.insertTag tag

/-! ### End tags -/

/-- Ends an element that is in scope. -/
def closeScoped (b : Builder) (name : String) : Builder :=
  if b.hasInScope name then (b.closeImplied impliedEnds).popNamed name else b

/-- Ends a form. -/
def closeForm (b : Builder) : Builder :=
  if b.isOpen "template" then
    if b.hasInScope "form" then (b.closeImplied impliedEnds).popNamed "form" else b
  else match b.formElement with
    | none => b
    | some form =>
        let b := { b with formElement := none }
        if b.inScope b.boundsDefault (· == form) then
          (b.closeImplied impliedEnds).removeOpen form
        else b

/-- Ends an item of a list. -/
def closeItem (b : Builder) (name : String) : Builder :=
  let bounds := if name == "li" then b.boundsListItem else b.boundsDefault
  if b.inScope bounds (b.isNamed name) then (b.closeImpliedExcept name).popNamed name else b

/-- **The rules for end tags in the body.** -/
def endInBody (b : Builder) (tag : Tag) : Step :=
  let name := tag.name
  if name == "template" then b.closeTemplate.handled
  else if name == "body" then
    (if b.hasInScope "body" then b.withMode .afterBody else b).handled
  else if name == "html" then
    if b.hasInScope "body" then b.retryIn .afterBody else b.handled
  else if scopedEndTags.contains name then (b.closeScoped name).handled
  else if name == "form" then b.closeForm.handled
  else if name == "p" then
    let open_ := if b.inScope b.boundsButton (b.isNamed "p") then b else b.insertImplied "p"
    open_.closeParagraph.handled
  else if name == "li" || name == "dd" || name == "dt" then (b.closeItem name).handled
  else if headingTags.contains name then
    (if b.inScope b.boundsDefault (b.isNamedIn headingTags) then
      (b.closeImplied impliedEnds).popThrough (b.isNamedIn headingTags)
    else b).handled
  else if name == "a" || name == "nobr" || formattingTags.contains name then
    (b.closeFormatting name).handled
  else if boundaryTags.contains name then
    (if b.hasInScope name then ((b.closeImplied impliedEnds).popNamed name).clearToMarker
    else b).handled
  else if name == "br" then
    ((b.reopen.insertEmpty ⟨"br", [], false⟩).forbidFrameset).handled
  else (b.closeGeneric name).handled

/-! ### The modes -/

/-- **The rules inside the body.** -/
def inBody (b : Builder) (t : Token) : Step :=
  match t with
  | .text content =>
      let b := b.reopen
      ((if isBlankRun content then b else b.forbidFrameset).appendText content).handled
  | .comment content => (b.appendComment content).handled
  | .startTag tag => (b.startInBody tag).handled
  | .endTag tag => b.endInBody tag
  | .done => if b.templateModes.isEmpty then b.handled else b.endTemplates
  | _ => b.handled

/-- The rules inside of an element whose content is text.  Reading pauses after a script. -/
def inText (b : Builder) (t : Token) : Step :=
  match t with
  | .text content => (b.appendText content).handled
  | .endTag tag =>
      { b.pop.withMode b.returnMode with pauses := tag.name == "script" }.handled
  | .done => b.pop.retryIn b.returnMode
  | _ => b.handled

end Builder

end Html

end ThemeCompiler
