/-
**Rules before the body.**

The root and the head are opened when no tag does it.  Templates may begin anywhere; their rules are
with those of the head.

Main definitions:

* `ThemeCompiler.Html.Builder.inInitial`, `ThemeCompiler.Html.Builder.inBeforeHtml`,
  `ThemeCompiler.Html.Builder.inBeforeHead`, `ThemeCompiler.Html.Builder.inHead`,
  `ThemeCompiler.Html.Builder.inAfterHead` — the rules of the modes;
* `ThemeCompiler.Html.Builder.endTemplates` — the end of the text inside a template;
* `ThemeCompiler.Html.Doctype.asksForOldRules` — whether a declaration asks for the old rules.
-/

import ThemeCompiler.Html.Builder.Formatting
import ThemeCompiler.Html.Charset

set_option relaxedAutoImplicit false
set_option autoImplicit false

namespace ThemeCompiler

namespace Html

/-! ### Document types -/

/-- The beginnings of public identifiers that ask for the old rules. -/
def oldPublicIds : List String :=
  ["+//silmaril//dtd html pro v0r11 19970101//",
    "-//as//dtd html 3.0 aswedit + extensions//",
    "-//advasoft ltd//dtd html 3.0 aswedit + extensions//",
    "-//ietf//dtd html 2.0 level 1//",
    "-//ietf//dtd html 2.0 level 2//",
    "-//ietf//dtd html 2.0 strict level 1//",
    "-//ietf//dtd html 2.0 strict level 2//",
    "-//ietf//dtd html 2.0 strict//",
    "-//ietf//dtd html 2.0//",
    "-//ietf//dtd html 2.1e//",
    "-//ietf//dtd html 3.0//",
    "-//ietf//dtd html 3.2 final//",
    "-//ietf//dtd html 3.2//",
    "-//ietf//dtd html 3//",
    "-//ietf//dtd html level 0//",
    "-//ietf//dtd html level 1//",
    "-//ietf//dtd html level 2//",
    "-//ietf//dtd html level 3//",
    "-//ietf//dtd html strict level 0//",
    "-//ietf//dtd html strict level 1//",
    "-//ietf//dtd html strict level 2//",
    "-//ietf//dtd html strict level 3//",
    "-//ietf//dtd html strict//",
    "-//ietf//dtd html//",
    "-//metrius//dtd metrius presentational//",
    "-//microsoft//dtd internet explorer 2.0 html strict//",
    "-//microsoft//dtd internet explorer 2.0 html//",
    "-//microsoft//dtd internet explorer 2.0 tables//",
    "-//microsoft//dtd internet explorer 3.0 html strict//",
    "-//microsoft//dtd internet explorer 3.0 html//",
    "-//microsoft//dtd internet explorer 3.0 tables//",
    "-//netscape comm. corp.//dtd html//",
    "-//netscape comm. corp.//dtd strict html//",
    "-//o'reilly and associates//dtd html 2.0//",
    "-//o'reilly and associates//dtd html extended 1.0//",
    "-//o'reilly and associates//dtd html extended relaxed 1.0//",
    "-//softquad software//dtd hotmetal pro 6.0::19990601::extensions to html 4.0//",
    "-//softquad//dtd hotmetal pro 4.0::19971010::extensions to html 4.0//",
    "-//spyglass//dtd html 2.0 extended//",
    "-//sq//dtd html 2.0 hotmetal + extensions//",
    "-//sun microsystems corp.//dtd hotjava html//",
    "-//sun microsystems corp.//dtd hotjava strict html//",
    "-//w3c//dtd html 3 1995-03-24//",
    "-//w3c//dtd html 3.2 draft//",
    "-//w3c//dtd html 3.2 final//",
    "-//w3c//dtd html 3.2//",
    "-//w3c//dtd html 3.2s draft//",
    "-//w3c//dtd html 4.0 frameset//",
    "-//w3c//dtd html 4.0 transitional//",
    "-//w3c//dtd html experimental 19960712//",
    "-//w3c//dtd html experimental 970421//",
    "-//w3c//dtd w3 html//",
    "-//w3o//dtd w3 html 3.0//",
    "-//webtechs//dtd mozilla html 2.0//",
    "-//webtechs//dtd mozilla html//"]

/-- The beginnings of public identifiers that ask for the old rules when there is no system
identifier. -/
def oldAloneIds : List String :=
  ["-//w3c//dtd html 4.01 frameset//", "-//w3c//dtd html 4.01 transitional//"]

/-- Whether a text begins with one of the given texts. -/
def beginsWithAny (starts : List String) (s : String) : Bool := starts.any (Text.startsWith s)

/-- **Whether a declaration asks for the old rules.** -/
def Doctype.asksForOldRules (d : Doctype) : Bool :=
  let publicId := d.publicId.map Text.lowerAscii
  let systemId := d.systemId.map Text.lowerAscii
  d.isMalformed || d.name != some "html"
    || publicId.any ["-//w3o//dtd w3 html strict 3.0//en//", "-/w3c/dtd html 4.0 transitional/en",
        "html"].contains
    || systemId == some "http://www.ibm.com/data/dtd/v11/ibmxhtml1-transitional.dtd"
    || publicId.any (beginsWithAny oldPublicIds)
    || (systemId.isNone && publicId.any (beginsWithAny oldAloneIds))

namespace Builder

/-- Whether a run of text is blank. -/
def isBlankRun (content : String) : Bool := content.toList.all Text.isAsciiBlank

/-! ### Before the head -/

/-- Adds a comment behind the root element. -/
def commentOnDocument (b : Builder) (content : String) : Step :=
  (b.appendCommentTo Arena.root content).handled

/-- Opens the root element. -/
def openRoot (b : Builder) (attrs : List Attribute) : Builder :=
  let made := b.create .html "html" attrs
  (made.withNodes (made.nodes.appendChild Arena.root made.newest)).push made.newest

/-- The end tags that open what is missing instead of being ignored. -/
def isImplyingEnd (tag : Tag) : Bool := ["head", "body", "html", "br"].contains tag.name

/-- The rules before anything was read. -/
def inInitial (b : Builder) (t : Token) : Step :=
  match t with
  | .text content =>
      if isBlankRun content then b.handled else { b with oldRules := true }.retryIn .beforeHtml
  | .comment content => b.commentOnDocument content
  | _ => { b with oldRules := true }.retryIn .beforeHtml

/-- The rules before the root element. -/
def inBeforeHtml (b : Builder) (t : Token) : Step :=
  let open_ := (b.openRoot []).retryIn .beforeHead
  match t with
  | .comment content => b.commentOnDocument content
  | .text content => if isBlankRun content then b.handled else open_
  | .startTag tag =>
      if tag.name == "html" then ((b.openRoot tag.attrs).withMode .beforeHead).handled else open_
  | .endTag tag => if isImplyingEnd tag then open_ else b.handled
  | _ => open_

/-- Opens the head. -/
def openHead (b : Builder) (attrs : List Attribute) : Builder :=
  let opened := b.insertElement .html "head" attrs
  { opened with headElement := some opened.current, mode := .inHead }

/-- The rules before the head. -/
def inBeforeHead (b : Builder) (t : Token) : Step :=
  let open_ := (b.openHead []).retryIn .inHead
  match t with
  | .text content => if isBlankRun content then b.handled else open_
  | .comment content => (b.appendComment content).handled
  | .startTag tag =>
      if tag.name == "html" then (b.mergeRootAttrs tag).handled
      else if tag.name == "head" then (b.openHead tag.attrs).handled
      else open_
  | .endTag tag => if isImplyingEnd tag then open_ else b.handled
  | _ => open_

/-! ### Templates -/

/-- Begins a template. -/
def openTemplate (b : Builder) (tag : Tag) : Builder :=
  let opened := ((b.insertTag tag).addMarker).forbidFrameset
  { opened with mode := .inTemplate, templateModes := .inTemplate :: opened.templateModes }

/-- The builder with the mode of the open elements, one template less. -/
def leaveTemplate (b : Builder) : Builder :=
  let b := b.clearToMarker
  let b := { b with templateModes := b.templateModes.drop 1 }
  b.withMode b.resetMode

/-- Ends a template that is open. -/
def closeTemplate (b : Builder) : Builder :=
  if b.isOpen "template" then
    ((b.closeImplied allImpliedEnds).popNamed "template").leaveTemplate
  else b

/-- **The end of the text inside a template**: the innermost one is closed. -/
def endTemplates (b : Builder) : Step :=
  if b.isOpen "template" then
    let closed := (b.popNamed "template").leaveTemplate
    closed.retryIn closed.mode
  else b.handled

/-! ### The head -/

/-- The elements of the head that have no content and declare no encoding. -/
def headVoids : List String := ["base", "basefont", "bgsound", "link"]

/-- The start tags that the rules of the head take care of wherever they are. -/
def headTags : List String :=
  headVoids ++ ["meta", "noframes", "script", "style", "template", "title"]

/-- A start tag under the rules of the head, if they know it.  Reading pauses after the declaration
of an encoding. -/
def startInHead? (b : Builder) (tag : Tag) : Option Builder :=
  if tag.name == "html" then some (b.mergeRootAttrs tag)
  else if headVoids.contains tag.name then some (b.insertEmpty tag)
  else if tag.name == "meta" then some { b.insertEmpty tag with pauses := tag.declaresCharset }
  else if tag.name == "title" then some (b.insertTextElement tag (.escapable "title"))
  else if ["noframes", "style", "noscript"].contains tag.name then
    some (b.insertTextElement tag (.raw tag.name))
  else if tag.name == "script" then some (b.insertTextElement tag .script)
  else if tag.name == "template" then some (b.openTemplate tag)
  else if tag.name == "head" then some b
  else none

/-- The rules inside of the head. -/
def inHead (b : Builder) (t : Token) : Step :=
  let leave := b.pop.retryIn .afterHead
  match t with
  | .text content => if isBlankRun content then (b.appendText content).handled else leave
  | .comment content => (b.appendComment content).handled
  | .startTag tag =>
      match b.startInHead? tag with
      | some next => next.handled
      | none => leave
  | .endTag tag =>
      if tag.name == "head" then (b.pop.withMode .afterHead).handled
      else if tag.name == "template" then b.closeTemplate.handled
      else if isImplyingEnd tag then leave
      else b.handled
  | _ => leave

/-- The rules between the head and the body. -/
def inAfterHead (b : Builder) (t : Token) : Step :=
  let open_ := (b.insertImplied "body").retryIn .inBody
  match t with
  | .text content => if isBlankRun content then (b.appendText content).handled else open_
  | .comment content => (b.appendComment content).handled
  | .startTag tag =>
      if tag.name == "html" then (b.mergeRootAttrs tag).handled
      else if tag.name == "body" then
        ((b.insertTag tag).forbidFrameset.withMode .inBody).handled
      else if tag.name == "frameset" then ((b.insertTag tag).withMode .inFrameset).handled
      else if headTags.contains tag.name then
        match b.headElement with
        | some head =>
            match (b.push head).startInHead? tag with
            | some next => (next.removeOpen head).handled
            | none => b.handled
        | none => b.handled
      else if tag.name == "head" then b.handled
      else open_
  | .endTag tag =>
      if tag.name == "template" then b.closeTemplate.handled
      else if isImplyingEnd tag && tag.name != "head" then open_
      else b.handled
  | _ => open_

end Builder

end Html

end ThemeCompiler
