/-
**The layout of a theme.**

The header and the footer of a page become the files that the theme puts around every page.

Main definitions:

* `ThemeCompiler.Frame.headerPhp`, `ThemeCompiler.Frame.footerPhp` — the two files;
* `ThemeCompiler.Workspace.extractLayout` — takes the layout out of a page, for the theme of a
  project;
* `ThemeCompiler.Workspace.collaborators` — a workspace as the collaborators of a compilation.
-/

import ThemeCompiler.Theme.Enqueue
import ThemeCompiler.Theme.Shell

set_option relaxedAutoImplicit false
set_option autoImplicit false

namespace ThemeCompiler

namespace Frame

/-- The beginning of every page. -/
def pageStart : String :=
  Shell.lines
    ["<!DOCTYPE html>",
     "<html <?php language_attributes(); ?>>",
     "<head>",
     "    <meta charset=\"<?php bloginfo( 'charset' ); ?>\">",
     "    <meta name=\"viewport\" content=\"width=device-width, initial-scale=1\">",
     "    <?php wp_head(); ?>",
     "</head>",
     "<body <?php body_class(); ?>>",
     "<?php wp_body_open(); ?>"]

/-- **The file with the header of every page.** -/
def headerPhp (header : String) : String := pageStart ++ header

/-- **The file with the footer of every page.** -/
def footerPhp (footer : String) : String := footer ++ "\n<?php wp_footer(); ?>\n</body>\n</html>"

/-- The marks of stubs. -/
def marks : List String :=
  ["<!-- WP_SHELL_PLACEHOLDER -->", "// Theme Header", "// Theme Footer"]

end Frame

namespace Workspace

section

variable {m : Type → Type} [Monad m] [FileStore m]

/-- Puts a part of the layout into its file, if a page has it. -/
def putLayout (path : String) (frame : String → String) : Option String → Action m Unit
  | none => return ()
  | some part => putStub path (frame part) Frame.marks

/-- **Takes the layout out of a page**, for the theme of a project. -/
def extractLayout (w : Workspace) (project page : String) : Action m ExtractedLayout := do
  let theme ← MonadExcept.ofExcept (w.themeDir project)
  let split := Layout.split page
  putLayout (Path.join theme "header.php") Frame.headerPhp split.header
  putLayout (Path.join theme "footer.php") Frame.footerPhp split.footer
  return .ofSplit split

/-- **A workspace as the collaborators of a compilation.** -/
def collaborators (w : Workspace) : Collaborators m :=
  ⟨some w.ensureShell, some w.registerAssets, some w.extractLayout⟩

end

end Workspace

end ThemeCompiler
