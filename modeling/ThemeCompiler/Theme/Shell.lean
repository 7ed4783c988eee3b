/-
**The shell of a theme.**

The files that make a directory a theme: its style sheet with its name, a fallback template, and
the functions with their includes.  Stubs of them carry marks; the files written here carry none.

Main definitions:

* `ThemeCompiler.Shell.files` — the files, in the order in which they are written;
* `ThemeCompiler.Shell.content` — what is in a file of the theme of a project;
* `ThemeCompiler.Workspace.ensureShell` — makes sure that the theme of a project is there.
-/

import ThemeCompiler.Theme.Workspace

set_option relaxedAutoImplicit false
set_option autoImplicit false

namespace ThemeCompiler

namespace Shell

/-! ### Contents -/

/-- A text of lines. -/
def lines (parts : List String) : String := String.join (parts.map (· ++ "\n"))

/-- The name of the theme of a project. -/
def themeName (project : String) : String :=
  Naming.title (String.ofList (project.toList.map fun c => if c == '-' then '_' else c))

/-- The style sheet of the theme of a project. -/
def styleCss (project : String) : String :=
  lines
    ["/*", "Theme Name: " ++ themeName project, "Author: press-stack", "Version: 1.0.0",
     "Text Domain: " ++ project, "*/"]

/-- The fallback template. -/
def indexPhp : String :=
  lines
    ["<?php get_header(); ?>",
     "",
     "<main id=\"main-content\">",
     "<?php if (have_posts()) : while (have_posts()) : the_post(); ?>",
     "    <?php the_content(); ?>",
     "<?php endwhile; endif; ?>",
     "</main>",
     "",
     "<?php get_footer(); ?>"]

/-- The file that loads the others. -/
def functionsPhp : String :=
  lines
    ["<?php",
     "/**",
     " * Loads the modular theme includes.",
     " */",
     "",
     "require_once get_template_directory() . '/inc/setup.php';",
     "require_once get_template_directory() . '/inc/enqueue.php';",
     "require_once get_template_directory() . '/inc/menus.php';",
     "require_once get_template_directory() . '/inc/supports.php';"]

/-- The features of the theme. -/
def setupPhp : String :=
  lines
    ["<?php",
     "/**",
     " * Core theme features.",
     " */",
     "",
     "if (!function_exists('press_stack_setup')) \x7b",
     "    function press_stack_setup() \x7b",
     "        add_theme_support('automatic-feed-links');",
     "        add_theme_support('title-tag');",
     "        add_theme_support('post-thumbnails');",
     "        add_theme_support('html5', array(",
     "            'search-form',",
     "            'comment-form',",
     "            'comment-list',",
     "            'gallery',",
     "            'caption',",
     "            'style',",
     "            'script',",
     "        ));",
     "        add_theme_support('customize-selective-refresh-widgets');",
     "    \x7d",
     "\x7d",
     "add_action('after_setup_theme', 'press_stack_setup');"]

/-- The styles and scripts of the theme. -/
def enqueuePhp : String :=
  lines
    ["<?php",
     "/**",
     " * Front-end styles and scripts. Compiled pages append their assets here.",
     " */",
     "",
     "if (!function_exists('press_stack_enqueue_assets')) \x7b",
     "    function press_stack_enqueue_assets() \x7b",
     "        wp_enqueue_style(",
     "            'press-stack-style',",
     "            get_stylesheet_uri(),",
     "            array(),",
     "            wp_get_theme()->get('Version')",
     "        );",
     "    \x7d",
     "\x7d",
     "add_action('wp_enqueue_scripts', 'press_stack_enqueue_assets');"]

/-- The menus of the theme. -/
def menusPhp : String :=
  lines
    ["<?php",
     "/**",
     " * Navigation menu locations.",
     " */",
     "",
     "if (!function_exists('press_stack_register_menus')) \x7b",
     "    function press_stack_register_menus() \x7b",
     "        register_nav_menus(array(",
     "            'primary' => esc_html__('Primary Menu', 'press-stack'),",
     "            'footer'  => esc_html__('Footer Menu', 'press-stack'),",
     "        ));",
     "    \x7d",
     "\x7d",
     "add_action('after_setup_theme', 'press_stack_register_menus');"]

/-- The support of the block editor. -/
def supportsPhp : String :=
  lines
    ["<?php",
     "/**",
     " * Block editor support.",
     " */",
     "",
     "if (!function_exists('press_stack_theme_supports')) \x7b",
     "    function press_stack_theme_supports() \x7b",
     "        add_theme_support('wp-block-styles');",
     "        add_theme_support('align-wide');",
     "        add_theme_support('editor-styles');",
     "        add_theme_support('responsive-embeds');",
     "    \x7d",
     "\x7d",
     "add_action('after_setup_theme', 'press_stack_theme_supports');"]

/-! ### The files -/

/-- **A file of the shell.** -/
inductive File where
  | style
  | index
  | functions
  | setup
  | enqueue
  | menus
  | supports
  deriving DecidableEq, Repr

/-- **The files of the shell**, in the order in which they are written. -/
def files : List File := [.style, .index, .functions, .setup, .enqueue, .menus, .supports]

/-- The path of a file in its theme. -/
def File.path : File → String
  | .style => "style.css"
  | .index => "index.php"
  | .functions => "functions.php"
  | .setup => "inc/setup.php"
  | .enqueue => "inc/enqueue.php"
  | .menus => "inc/menus.php"
  | .supports => "inc/supports.php"

/-- **What is in a file of the theme of a project.** -/
def content (project : String) : File → String
  | .style => styleCss project
  | .index => indexPhp
  | .functions => functionsPhp
  | .setup => setupPhp
  | .enqueue => enqueuePhp
  | .menus => menusPhp
  | .supports => supportsPhp

/-- The marks of stubs. -/
def marks : List String :=
  ["<!-- THEME_SHELL_PLACEHOLDER -->", "// Theme Functions", "// Theme Setup", "// Theme Enqueue",
   "// Theme Menus", "// Theme Supports"]

end Shell

namespace Workspace

section

variable {m : Type → Type} [Monad m] [FileStore m]

/-- Puts files of the shell into the theme of a project. -/
def putShell (theme project : String) : List Shell.File → Action m Unit
  | [] => return ()
  | file :: rest => do
      putStub (Path.join theme file.path) (Shell.content project file) Shell.marks
      putShell theme project rest

/-- **Makes sure that the theme of a project is there.** -/
def ensureShell (w : Workspace) (project : String) : Action m Unit := do
  let theme ← MonadExcept.ofExcept (w.themeDir project)
  putShell theme project Shell.files

end

end Workspace

end ThemeCompiler
