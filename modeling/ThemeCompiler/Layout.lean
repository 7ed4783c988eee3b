/-
**The layout of a page.**

The first header and the last footer of a page belong to the site, not to the page, unless they
stand in a part of the page that has headers and footers of its own.

Main definitions:

* `ThemeCompiler.Layout.pageLevel` — the elements of a page outside of its parts;
* `ThemeCompiler.Layout.Split`, `ThemeCompiler.Layout.split` — a page without its layout.
-/

import ThemeCompiler.Document.Edit
import ThemeCompiler.Document.Printer
import ThemeCompiler.Document.Source

set_option relaxedAutoImplicit false
set_option autoImplicit false

namespace ThemeCompiler

namespace Layout

/-- The parts of a page that have headers and footers of their own. -/
def sectioningTags : List String := ["main", "article", "section", "aside", "nav"]

/-- **The attached elements with a tag that are in no part of the page.** -/
def pageLevel (d : Document) (tag : String) : List NodeId :=
  (d.elementsByTag tag).filter fun n => (d.ancestor sectioningTags n).isNone

/-- The first header of a page. -/
def header? (d : Document) : Option NodeId := (pageLevel d "header").head?

/-- The last footer of a page. -/
def footer? (d : Document) : Option NodeId := (pageLevel d "footer").getLast?

/-- The document without a node, if there is one. -/
def without (d : Document) : Option NodeId → Document
  | some n => d.detach n
  | none => d

/-- A page without its layout, and the markup of the layout. -/
structure Split where
  stripped : String
  header : Option String
  footer : Option String
  deriving DecidableEq, Repr

/-- The split of a document.  The footer is looked for when the header is gone. -/
def splitDocument (d : Document) : Split :=
  let header := header? d
  let body := without d header
  let footer := footer? body
  ⟨(without body footer).markup, header.map d.outerMarkup, footer.map body.outerMarkup⟩

/-- **The split of a page.** -/
def split (source : String) : Split := splitDocument (Document.parse source)

end Layout

end ThemeCompiler
