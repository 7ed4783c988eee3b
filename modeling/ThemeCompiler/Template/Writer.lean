/-
**Writing a template.**

Markup is written from a stack of what is still to be written, so that it may be nested to any
depth.  Four blanks stand before each line for every level.

Main definitions:

* `ThemeCompiler.Template.escapeValue` — an attribute value that cannot end its quotes or open a
  block of code;
* `ThemeCompiler.Template.Pending`, `ThemeCompiler.Template.writeWithin` — the stack and its work;
* `ThemeCompiler.Template.write` — the text of markup;
* `ThemeCompiler.Template.sanitizeName`, `ThemeCompiler.Template.generate` — a whole template.
-/

import ThemeCompiler.Html.Tree
import ThemeCompiler.Template.Kind
import ThemeCompiler.Template.Markup
import ThemeCompiler.Text.Blank

set_option relaxedAutoImplicit false
set_option autoImplicit false

namespace ThemeCompiler

namespace Template

/-! ### Pieces of text -/

/-- The blanks before a line. -/
def pad (depth : Nat) : String := String.join (List.replicate depth "    ")

/-- A character of an attribute value as it is written. -/
def escapeValueChar (c : Char) : List Char :=
  if c == '&' then "&amp;".toList
  else if c == '"' then "&quot;".toList
  else if c == '<' then "&lt;".toList
  else if c == '>' then "&gt;".toList
  else [c]

/-- **An attribute value as it is written.**  It holds neither a quote nor an angle bracket. -/
def escapeValue (s : String) : String := String.ofList (s.toList.flatMap escapeValueChar)

/-- A class attribute, unless there are no classes. -/
def classAttr (classes : String) : String :=
  if classes.isEmpty then "" else " class=\"" ++ escapeValue classes ++ "\""

/-- A start tag. -/
def openTag (tag classes : String) : String := "<" ++ tag ++ classAttr classes ++ ">"

/-- An end tag. -/
def closeTag (tag : String) : String := "</" ++ tag ++ ">"

/-- A block of code. -/
def code (text : String) : String := "<?php " ++ text ++ " ?>"

/-- The function that reads a field. -/
def getter : Scope → String
  | .page => "get_field"
  | .row => "get_sub_field"

/-- The function that prints a field. -/
def printer : Scope → String
  | .page => "the_field"
  | .row => "the_sub_field"

/-- The variable that holds a field. -/
def variableFor (scope : Scope) (slug : String) : String :=
  match scope with
  | .page => "$" ++ Naming.variableName slug
  | .row => "$sub_" ++ slug

/-- A call with a slug. -/
def call (function slug : String) : String := function ++ "('" ++ slug ++ "')"

/-- The code that prints a value. -/
def printValue (scope : Scope) (slug : String) : String := code (call (printer scope) slug ++ ";")

/-- The code that prints an entry of a variable. -/
def printEntry (escaper name key : String) : String :=
  code ("echo " ++ escaper ++ "(" ++ name ++ "['" ++ key ++ "']);")

/-! ### Snippets -/

/-- The lines that print something bound to a field, if the field is set. -/
def guarded (depth : Nat) (scope : Scope) (slug inner : String) : String :=
  let name := variableFor scope slug
  pad depth ++ code (name ++ " = " ++ call (getter scope) slug ++ ";") ++ "\n"
    ++ pad depth ++ code ("if (" ++ name ++ "):") ++ "\n"
    ++ pad (depth + 1) ++ inner ++ "\n"
    ++ pad depth ++ code "endif;" ++ "\n"

/-- The image that is bound to a variable. -/
def imageTag (name : String) : String :=
  "<img src=\"" ++ printEntry "esc_url" name "url" ++ "\" alt=\""
    ++ printEntry "esc_attr" name "alt" ++ "\">"

/-- The link that is bound to a variable. -/
def linkTag (name classes : String) : String :=
  "<a href=\"" ++ printEntry "esc_url" name "url" ++ "\"" ++ classAttr classes ++ ">"
    ++ printEntry "esc_html" name "title" ++ "</a>"

/-- A form control. -/
def controlTag (tag slug : String) (type : Option String) (classes : String) : String :=
  "<" ++ tag ++ ((type.map fun t => " type=\"" ++ t ++ "\"").getD "")
    ++ " name=\"" ++ escapeValue slug ++ "\"" ++ classAttr classes ++ ">"
    ++ (if Html.isVoid tag then "" else closeTag tag)

/-- **The lines of a snippet that is no loop.** -/
def writeLeaf (depth : Nat) : Snippet → String
  | .value slug scope => pad depth ++ printValue scope slug ++ "\n"
  | .image slug scope => guarded depth scope slug (imageTag (variableFor scope slug))
  | .link slug scope classes =>
      guarded depth scope slug (linkTag (variableFor scope slug) classes)
  | .control tag slug type classes => pad depth ++ controlTag tag slug type classes ++ "\n"
  | .loop _ _ => ""

/-! ### Markup -/

/-- **What is still to be written**: a node, or the line that closes one. -/
inductive Pending where
  | node (markup : Markup) (depth : Nat)
  | close (depth : Nat) (line : String)

/-- The value snippet that is the only child of an element. -/
def inlineValue? (table : Table) : List Markup → Option (String × Scope)
  | [.snippet id] =>
      match table[id]? with
      | some (.value slug scope) => some (slug, scope)
      | _ => none
  | _ => none

/-- **One step of the work**: what is written for the top of the stack, and what takes its place. -/
def writeStep (table : Table) : Pending → String × List Pending
  | .close depth line => (pad depth ++ line ++ "\n", [])
  | .node (.element tag classes children) depth =>
      let start := pad depth ++ openTag tag classes
      if Html.isVoid tag then (start ++ "\n", [])
      else match inlineValue? table children with
        | some (slug, scope) => (start ++ printValue scope slug ++ closeTag tag ++ "\n", [])
        | none =>
            (start ++ "\n",
              children.map (Pending.node · (depth + 1)) ++ [.close depth (closeTag tag)])
  | .node (.snippet id) depth =>
      match table[id]? with
      | none => ("", [])
      | some (.loop slug body) =>
          let rows := call "have_rows" slug
          (pad depth ++ code ("if (" ++ rows ++ "):") ++ "\n"
            ++ pad (depth + 1) ++ code ("while (" ++ rows ++ "): the_row();") ++ "\n",
            body.map (Pending.node · (depth + 2))
              ++ [.close (depth + 1) (code "endwhile;"), .close depth (code "endif;")])
      | some leaf => (writeLeaf depth leaf, [])

/-- The text written so far followed by at most `fuel` steps of work. -/
def writeWithin (table : Table) : Nat → String → List Pending → String
  | 0, text, _ => text
  | _ + 1, text, [] => text
  | fuel + 1, text, top :: rest =>
      let step := writeStep table top
      writeWithin table fuel (text ++ step.1) (step.2 ++ rest)

mutual

/-- The number of nodes of markup. -/
def Markup.size : Markup → Nat
  | .element _ _ children => 1 + Markup.sizeAll children
  | .snippet _ => 1

/-- The number of nodes of a list of markup. -/
def Markup.sizeAll : List Markup → Nat
  | [] => 0
  | m :: rest => m.size + Markup.sizeAll rest

end

/-- The number of nodes in the body of a snippet. -/
def Snippet.bodySize : Snippet → Nat
  | .loop _ body => Markup.sizeAll body
  | _ => 0

/-- The number of nodes in the bodies of snippets. -/
def bodySizes : List Snippet → Nat
  | [] => 0
  | s :: rest => s.bodySize + bodySizes rest

/-- The steps that suffice when every snippet is used once: at most three for a node. -/
def workBound (markup : List Markup) (table : Table) : Nat :=
  3 * (Markup.sizeAll markup + bodySizes table.toList)

/-- **The text of markup.** -/
def write (markup : List Markup) (table : Table) : String :=
  writeWithin table (workBound markup table) "" (markup.map (Pending.node · 0))

/-! ### Templates -/

/-- A character of a name on one line. -/
def lineChar (c : Char) : Char := if c == '\r' || c == '\n' then ' ' else c

/-- **A template name that fits into a comment**: without the end of a comment, on one line and
without blanks around it. -/
def sanitizeName (name : String) : String :=
  String.ofList (Text.trimWith Text.isBlank ((Text.removeAll name "*/").toList.map lineChar))

/-- The comment that announces a template by its name. -/
def header (name : String) : String :=
  "<?php\n/*\nTemplate Name: " ++ sanitizeName name ++ "\n*/\n?>\n"

/-- The content of a page between its header and its footer. -/
def pageFrame (content : String) : String :=
  "<?php get_header(); ?>\n\n<?php if (have_posts()) : while (have_posts()) : the_post(); ?>\n"
    ++ content ++ "<?php endwhile; endif; ?>\n\n<?php get_footer(); ?>\n"

/-- **The template of a content model.** -/
def generate (fields : List Field) (kind : TemplateKind) (name : String) : String :=
  let (markup, table) := lower fields
  let content := write markup table
  match kind with
  | .fragment => content
  | .documentWithIdentity => header name ++ pageFrame content
  | .documentByConvention => pageFrame content

end Template

end ThemeCompiler
