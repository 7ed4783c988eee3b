/-
**Foreign elements.**

Drawings and formulas follow rules of their own.  Their element and attribute names are written in
lower case by the reader of tokens and get their mixed-case spelling back here; of a qualified
attribute name only the local part is kept.

Main definitions:

* `ThemeCompiler.Html.Builder.svgElementNames`, `ThemeCompiler.Html.Builder.svgAttributeNames` —
  the names written in mixed case;
* `ThemeCompiler.Html.Builder.isForeign` — whether a token falls under the rules of this module;
* `ThemeCompiler.Html.Builder.inForeign` — the rules.
-/

import ThemeCompiler.Html.Builder.Formatting

set_option relaxedAutoImplicit false
set_option autoImplicit false

namespace ThemeCompiler

namespace Html

namespace Builder

/-! ### Names -/

/-- The elements of drawings whose names have capitals. -/
def svgElementNames : List String :=
  ["altGlyph", "altGlyphDef", "altGlyphItem", "animateColor", "animateMotion", "animateTransform",
    "clipPath", "feBlend", "feColorMatrix", "feComponentTransfer", "feComposite",
    "feConvolveMatrix", "feDiffuseLighting", "feDisplacementMap", "feDistantLight", "feDropShadow",
    "feFlood", "feFuncA", "feFuncB", "feFuncG", "feFuncR", "feGaussianBlur", "feImage", "feMerge",
    "feMergeNode", "feMorphology", "feOffset", "fePointLight", "feSpecularLighting",
    "feSpotLight", "feTile", "feTurbulence", "foreignObject", "glyphRef", "linearGradient",
    "radialGradient", "textPath"]

/-- The attributes of drawings whose names have capitals. -/
def svgAttributeNames : List String :=
  ["attributeName", "attributeType", "baseFrequency", "baseProfile", "calcMode", "clipPathUnits",
    "diffuseConstant", "edgeMode", "filterUnits", "glyphRef", "gradientTransform",
    "gradientUnits", "kernelMatrix", "kernelUnitLength", "keyPoints", "keySplines", "keyTimes",
    "lengthAdjust", "limitingConeAngle", "markerHeight", "markerUnits", "markerWidth",
    "maskContentUnits", "maskUnits", "numOctaves", "pathLength", "patternContentUnits",
    "patternTransform", "patternUnits", "pointsAtX", "pointsAtY", "pointsAtZ", "preserveAlpha",
    "preserveAspectRatio", "primitiveUnits", "refX", "refY", "repeatCount", "repeatDur",
    "requiredExtensions", "requiredFeatures", "specularConstant", "specularExponent",
    "spreadMethod", "startOffset", "stdDeviation", "stitchTiles", "surfaceScale",
    "systemLanguage", "tableValues", "targetX", "targetY", "textLength", "viewBox", "viewTarget",
    "xChannelSelector", "yChannelSelector", "zoomAndPan"]

/-- The qualified attribute names with their local parts. -/
def qualifiedNames : List (String × String) :=
  [("xlink:actuate", "actuate"), ("xlink:arcrole", "arcrole"), ("xlink:href", "href"),
    ("xlink:role", "role"), ("xlink:show", "show"), ("xlink:title", "title"),
    ("xlink:type", "type"), ("xml:lang", "lang"), ("xml:space", "space"),
    ("xmlns:xlink", "xlink")]

/-- The spelling of a name in a list of names with capitals. -/
def respell (names : List String) (name : String) : String :=
  (names.find? fun s => Text.lowerAscii s == name).getD name

/-- The name of an attribute of a foreign element. -/
def foreignAttrName (vocabulary : Vocabulary) (name : String) : String :=
  match qualifiedNames.lookup name with
  | some localPart => localPart
  | none => match vocabulary with
    | .svg => respell svgAttributeNames name
    | .math => respell ["definitionURL"] name
    | .html => name

/-- The attributes of a foreign element. -/
def foreignAttrs (vocabulary : Vocabulary) (attrs : List Attribute) : List Attribute :=
  attrs.map fun a => { a with name := foreignAttrName vocabulary a.name }

/-! ### Elements -/

/-- Puts a foreign element in, and opens it unless its tag closes itself. -/
def insertForeign (b : Builder) (vocabulary : Vocabulary) (tag : Tag) : Builder :=
  let name := if vocabulary == .svg then respell svgElementNames tag.name else tag.name
  let attrs := foreignAttrs vocabulary tag.attrs
  if tag.selfClosing then b.insertClosed vocabulary name attrs
  else b.insertElement vocabulary name attrs

/-- Whether an annotation holds markup. -/
def isAnnotation (b : Builder) (n : NodeId) : Bool :=
  match b.nodes.value? n with
  | some (.element _ _ _ _ integrates) => integrates
  | _ => false

/-- **Whether the rules of foreign elements apply to a token.**  They do not where a foreign element
holds markup. -/
def isForeign (b : Builder) (t : Token) : Bool :=
  match b.name? b.current with
  | none => false
  | some (.html, _) => false
  | some name =>
      match t with
      | .done => false
      | .text _ | .null =>
          !(isMathText name || isSvgIntegration name || b.isAnnotation b.current)
      | .startTag tag =>
          !((isMathText name && tag.name != "mglyph" && tag.name != "malignmark")
            || isSvgIntegration name
            || (name == (.math, "annotation-xml")
              && (tag.name == "svg" || b.isAnnotation b.current)))
      | _ => true

/-! ### Rules -/

/-- The start tags that end foreign content. -/
def breakoutTags : List String :=
  ["b", "big", "blockquote", "body", "br", "center", "code", "dd", "div", "dl", "dt", "em",
    "embed", "h1", "h2", "h3", "h4", "h5", "h6", "head", "hr", "i", "img", "li", "listing", "menu",
    "meta", "nobr", "ol", "p", "pre", "ruby", "s", "small", "span", "strong", "strike", "sub",
    "sup", "table", "tt", "u", "ul", "var"]

/-- Whether a tag ends foreign content. -/
def breaksOut (tag : Tag) : Bool :=
  breakoutTags.contains tag.name
    || (tag.name == "font"
      && tag.attrs.any fun a => ["color", "face", "size"].contains a.name)

/-- Closes foreign elements up to one that holds markup. -/
def leaveForeign (b : Builder) : Builder :=
  { b with stack := b.stack.dropWhile fun n =>
      !(b.name? n).any fun name => name.1 == .html || isMathText name || isSvgIntegration name }

/-- Closes the foreign element that an end tag names.  Without one the rest of the stack is
returned, where the rules of markup take over; `below` is the stack below the nodes looked at. -/
def closeForeign (b : Builder) (name : String) (isFirst : Bool) : List NodeId → Builder × Bool
  | [] => (b, true)
  | [_] => (b, true)
  | n :: below =>
      match b.name? n with
      | none => (b, true)
      | some (vocabulary, own) =>
          if !isFirst && vocabulary == .html then (b, false)
          else if Text.lowerAscii own == name then ({ b with stack := below }, true)
          else b.closeForeign name false below

/-- **The rules of foreign elements.**  `outer` stands for the rules of the mode. -/
def inForeign (outer : Builder → Token → Step) (b : Builder) (t : Token) : Step :=
  match t with
  | .null => (b.appendText "\uFFFD").handled
  | .text content =>
      let b := if content.toList.all Text.isAsciiBlank then b else b.forbidFrameset
      (b.appendText content).handled
  | .comment content => (b.appendComment content).handled
  | .startTag tag =>
      if breaksOut tag then outer b.leaveForeign t
      else match b.name? b.current with
        | some (vocabulary, _) => (b.insertForeign vocabulary tag).handled
        | none => b.handled
  | .endTag tag =>
      if tag.name == "br" || tag.name == "p" then outer b.leaveForeign t
      else match b.closeForeign tag.name true b.stack with
        | (closed, true) => closed.handled
        | (_, false) => outer b t
  | _ => b.handled

end Builder

end Html

end ThemeCompiler
