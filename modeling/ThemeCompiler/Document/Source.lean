/-
**Documents from source text.**

Main definitions:

* `ThemeCompiler.Document.bringsFrame` — whether a text has a document frame of its own;
* `ThemeCompiler.Document.parse` — the document of a text.
-/

import ThemeCompiler.Document.Basic
import ThemeCompiler.Html.Reader

set_option relaxedAutoImplicit false
set_option autoImplicit false

namespace ThemeCompiler

namespace Document

/-- Whether a text opens a document frame, in whatever case it is written. -/
def bringsFrame (source : String) : Bool :=
  let lowered := Text.lowerAscii source
  ["<html", "<body", "<!doctype"].any (Text.contains lowered)

/-- **The document of a source text.**  A fragment gets a frame too, which is left out again when
the document is printed. -/
def parse (source : String) : Document := ofTree (bringsFrame source) (Html.parse source)

end Document

end ThemeCompiler
