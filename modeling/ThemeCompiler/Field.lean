/-
**Fields of a content model.**

The content of a page is a forest of fields.  A leaf is a text, an image, a link or a form control;
a container groups fields of one place; the children of a repeater are the fields of one instance.

Main definitions:

* `ThemeCompiler.FieldKind`, `ThemeCompiler.ComponentType`, `ThemeCompiler.InputType` — the
  classifications;
* `ThemeCompiler.FieldInfo`, `ThemeCompiler.Field` — a field;
* `ThemeCompiler.Field.preorder` — the fields of a forest, parents before children;
* `ThemeCompiler.Field.find?` — the first field with a slug.
-/

set_option relaxedAutoImplicit false
set_option autoImplicit false

namespace ThemeCompiler

/-! ### Classifications -/

/-- **The kind of a field.** -/
inductive FieldKind where
  | text
  | textarea
  | image
  | link
  | repeater
  | container
  | formField
  deriving DecidableEq, Repr

/-- What a container is about. -/
inductive ComponentType where
  | hero
  | cardCollection
  | pricing
  | testimonial
  | form
  deriving DecidableEq, Repr

/-- The type of the value of a form control. -/
inductive InputType where
  | string
  | text
  | email
  | boolean
  | enum
  | number
  deriving DecidableEq, Repr

/-- The name of a kind of field. -/
def FieldKind.name : FieldKind → String
  | .text => "text"
  | .textarea => "textarea"
  | .image => "image"
  | .link => "link"
  | .repeater => "repeater"
  | .container => "container"
  | .formField => "form_field"

/-- The kinds of fields. -/
def FieldKind.all : List FieldKind :=
  [.text, .textarea, .image, .link, .repeater, .container, .formField]

/-- The name of a component type. -/
def ComponentType.name : ComponentType → String
  | .hero => "hero"
  | .cardCollection => "card_collection"
  | .pricing => "pricing"
  | .testimonial => "testimonial"
  | .form => "form"

/-- The component types. -/
def ComponentType.all : List ComponentType :=
  [.hero, .cardCollection, .pricing, .testimonial, .form]

/-- The name of an input type. -/
def InputType.name : InputType → String
  | .string => "string"
  | .text => "text"
  | .email => "email"
  | .boolean => "boolean"
  | .enum => "enum"
  | .number => "number"

/-- The input types. -/
def InputType.all : List InputType := [.string, .text, .email, .boolean, .enum, .number]

/-! ### Fields -/

/-- What a field says about itself. -/
structure FieldInfo where
  id : String
  kind : FieldKind
  tag : String
  classes : String
  content : String
  slug : String
  component : Option ComponentType
  input : Option InputType
  deriving DecidableEq, Repr

/-- **A field with the fields inside of it.** -/
inductive Field where
  | mk (info : FieldInfo) (children : List Field)
  deriving Repr

namespace Field

/-- What a field says about itself. -/
def info : Field → FieldInfo
  | mk info _ => info

/-- The fields inside of a field. -/
def children : Field → List Field
  | mk _ children => children

/-- The slug of a field. -/
def slug (f : Field) : String := f.info.slug

/-- The kind of a field. -/
def kind (f : Field) : FieldKind := f.info.kind

/-- A field without content, identifier and children. -/
def new (kind : FieldKind) (tag classes slug : String) : Field :=
  mk ⟨"", kind, tag, classes, "", slug, none, none⟩ []

/-- The field with other children. -/
def withChildren (f : Field) (children : List Field) : Field := mk f.info children

/-- The field with other content. -/
def withContent (f : Field) (content : String) : Field :=
  mk { f.info with content := content } f.children

/-! ### Forests -/

mutual

/-- A field and the fields inside of it, each before those inside of it. -/
def preorder : Field → List Field
  | mk info children => mk info children :: preorderAll children

/-- **The fields of a forest**, each before those inside of it. -/
def preorderAll : List Field → List Field
  | [] => []
  | f :: rest => preorder f ++ preorderAll rest

end

/-- **The first field of a forest with a slug**, in the order of `preorderAll`. -/
def find? (slug : String) (fields : List Field) : Option Field :=
  (preorderAll fields).find? (·.slug == slug)

end Field

end ThemeCompiler
