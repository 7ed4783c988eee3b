/-
**Rules that classify elements.**

A table is a list of rules; the first that applies decides.  Rules look at the tag of an element and
at its class list in lower case, and know of two things found inside of it.

Main definitions:

* `ThemeCompiler.Facts` — what rules may look at;
* `ThemeCompiler.Rule`, `ThemeCompiler.Rule.firstOf` — a rule, the first one that applies;
* `ThemeCompiler.Rule.upgrades`, `ThemeCompiler.Rule.components`, `ThemeCompiler.Rule.roles` — the
  tables;
* `ThemeCompiler.slugRole` — the role of a leaf.
-/

import ThemeCompiler.Field
import ThemeCompiler.Text.Case
import ThemeCompiler.Text.Search

set_option relaxedAutoImplicit false
set_option autoImplicit false

namespace ThemeCompiler

/-! ### Facts and rules -/

/-- **What rules may look at**: the tag and the class list in lower case, whether a heading of the
first level is inside, and whether a repeater of cards is among the fields inside. -/
structure Facts where
  tag : String
  classes : String
  hasH1 : Bool
  hasCardRepeater : Bool
  deriving DecidableEq, Repr

/-- The facts about an element of which nothing inside is known. -/
def Facts.ofElement (tag classes : String) : Facts :=
  ⟨Text.lowerAscii tag, Text.toLower classes, false, false⟩

/-- Whether one of the given texts occurs in the class list. -/
def Facts.mentions (f : Facts) (parts : List String) : Bool :=
  parts.any (Text.contains f.classes)

/-- A rule: where it applies, and what it decides. -/
structure Rule (α : Type) where
  name : String
  applies : Facts → Bool
  outcome : α

namespace Rule

/-- **The first rule of a table that applies.** -/
def firstOf {α : Type} (table : List (Rule α)) (f : Facts) : Option (Rule α) :=
  table.find? (·.applies f)

/-! ### Tables -/

/-- The tags that divisions get from their classes. -/
def upgrades : List (Rule String) :=
  [⟨"hero", (·.mentions ["hero"]), "section"⟩,
    ⟨"nav", (·.mentions ["nav"]), "nav"⟩,
    ⟨"footer", (·.mentions ["footer"]), "footer"⟩,
    ⟨"main", (·.mentions ["main"]), "main"⟩]

/-- Whether an element opens a page. -/
def isHero (f : Facts) : Bool :=
  ["section", "div", "header"].contains f.tag && f.hasH1 && f.mentions ["hero", "banner", "intro"]

/-- What containers are about. -/
def components : List (Rule ComponentType) :=
  [⟨"hero", isHero, .hero⟩,
    ⟨"pricing", (·.mentions ["plan", "pricing"]), .pricing⟩,
    ⟨"testimonial", (·.mentions ["testimonial"]), .testimonial⟩,
    ⟨"form", (·.tag == "form"), .form⟩,
    ⟨"card_collection", fun f => f.hasCardRepeater || f.mentions ["cards"], .cardCollection⟩]

end Rule

/-- The role of a leaf, which ends its slug. -/
inductive SlugRole where
  | title
  | price
  | description
  | link
  | item
  | image
  | content
  deriving DecidableEq, Repr

/-- The word of a role. -/
def SlugRole.name : SlugRole → String
  | .title => "title"
  | .price => "price"
  | .description => "description"
  | .link => "link"
  | .item => "item"
  | .image => "image"
  | .content => "content"

/-- The roles of leaves. -/
def Rule.roles : List (Rule SlugRole) :=
  [⟨"title-class", (·.mentions ["title", "heading"]), .title⟩,
    ⟨"price-class", (·.mentions ["price", "cost"]), .price⟩,
    ⟨"description-class", (·.mentions ["desc", "text", "content"]), .description⟩,
    ⟨"link-class", fun f => f.mentions ["btn", "cta", "link"] || f.tag == "button", .link⟩,
    ⟨"heading", fun f => ["h1", "h2", "h3", "h4", "h5", "h6"].contains f.tag, .title⟩,
    ⟨"paragraph", (·.tag == "p"), .description⟩,
    ⟨"list-item", (·.tag == "li"), .item⟩,
    ⟨"image", (·.tag == "img"), .image⟩,
    ⟨"anchor", (·.tag == "a"), .link⟩]

/-- **The role of a leaf**: content, if no rule applies. -/
def slugRole (f : Facts) : SlugRole := ((Rule.firstOf Rule.roles f).map (·.outcome)).getD .content

end ThemeCompiler
