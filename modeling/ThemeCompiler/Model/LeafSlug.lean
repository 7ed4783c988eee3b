/-
**The slug of a leaf.**

A leaf is named for its role, after the singular of what surrounds it.

Main definitions:

* `ThemeCompiler.Model.orElse`, `ThemeCompiler.Model.joined` — words with a default;
* `ThemeCompiler.Model.leafSlug` — the slug of a leaf.
-/

import ThemeCompiler.Naming
import ThemeCompiler.Rules

set_option relaxedAutoImplicit false
set_option autoImplicit false

namespace ThemeCompiler

namespace Model

/-- A text, or another one if it is empty. -/
def orElse (s default : String) : String := if s.isEmpty then default else s

/-- A context and a word joined by an underscore, or `bare` without a context. -/
def joined (context word bare : String) : String :=
  if context.isEmpty then bare else context ++ "_" ++ word

/-- The elements that can be clicked. -/
def clickableTags : List String := ["a", "button"]

/-- The slug of a leaf inside of a list item. -/
def itemLeafSlug (tag context : String) (role : SlugRole) : String :=
  if clickableTags.contains tag then joined context "link" "item_link"
  else if ["h1", "h2", "h3", "h4", "h5", "h6", "p", "img"].contains tag then
    joined context role.name role.name
  else orElse context "item"

/-- **The slug of a leaf**: its role, after the singular of its context.  Inside of a list item the
context itself names what is not a heading, a paragraph, an image or a link. -/
def leafSlug (tag classes : String) (insideList : Bool) (context : String) : String :=
  let role := slugRole (Facts.ofElement tag classes)
  let context := Naming.singular context
  if insideList then itemLeafSlug tag context role
  else if context.isEmpty then role.name
  else match role with
    | .item => context
    | role => context ++ "_" ++ role.name

end Model

end ThemeCompiler
