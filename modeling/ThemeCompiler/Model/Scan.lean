/-
**Scanning a page for fields.**

A container is looked at in passes: a form gives its controls, a list becomes a repeater, then
siblings of the same structure become repeaters, and what is left becomes leaves and containers.
What was used is remembered, so that no element is used twice.

Main definitions:

* `ThemeCompiler.Model.Page` — a document with its nodes in document order;
* `ThemeCompiler.Model.Scan` — what was used so far;
* `ThemeCompiler.Model.signature` — the structure by which siblings are grouped;
* `ThemeCompiler.Model.scanForm`, `ThemeCompiler.Model.scanList`, `ThemeCompiler.Model.scanGroups`,
  `ThemeCompiler.Model.scanRemaining` — the passes;
* `ThemeCompiler.Model.scanNode` — the drafts of a container.
-/

import ThemeCompiler.Document.Basic
import ThemeCompiler.Model.Draft
import ThemeCompiler.Model.LeafSlug

set_option relaxedAutoImplicit false
set_option autoImplicit false

namespace ThemeCompiler

namespace Model

/-! ### The page and the state of a scan -/

/-- **A document with its attached nodes in document order.** -/
structure Page where
  doc : Document
  order : List NodeId

/-- The page of a document. -/
def Page.ofDocument (d : Document) : Page := ⟨d, d.attached⟩

/-- The position of a node in document order. -/
def Page.position (p : Page) (n : NodeId) : Nat := p.order.idxOf n

/-- The text of a node and what is below it, without blanks around it. -/
def Page.textOf (p : Page) (n : NodeId) : String := Text.trim (p.doc.textContent n)

/-- The tag of a node, or nothing. -/
def Page.tagOf (p : Page) (n : NodeId) : String := (p.doc.tag? n).getD ""

/-- The first link or button below a node. -/
def Page.clickable? (p : Page) (n : NodeId) : Option NodeId :=
  p.doc.findBelow n (p.doc.hasTagIn clickableTags)

/-- **What a scan has used**: nodes, and names for controls without one. -/
structure Scan where
  consumed : List NodeId
  fallbacks : Nat

/-- The scan before anything is used. -/
def Scan.start : Scan := ⟨[], 0⟩

/-- The scan with more nodes used. -/
def Scan.consume (s : Scan) (nodes : List NodeId) : Scan :=
  { s with consumed := nodes ++ s.consumed }

/-- The scan with a node and all below it used. -/
def Scan.consumeBelow (p : Page) (s : Scan) (n : NodeId) : Scan :=
  s.consume (n :: p.doc.descendants n)

/-- Whether a node was used. -/
def Scan.isConsumed (s : Scan) (n : NodeId) : Bool := s.consumed.contains n

/-- A function that scans a container: inside of a list item or not, and in a context. -/
abbrev Scanner := NodeId → Bool → String → Scan → List Draft × Scan

/-! ### Forms -/

/-- The type of the value of a control. -/
def inputType (tag type : String) : InputType :=
  if type == "email" then .email
  else if tag == "textarea" then .text
  else if type == "checkbox" then .boolean
  else if tag == "select" then .enum
  else if type == "number" then .number
  else .string

/-- The value of an attribute that is not empty. -/
def Page.filled? (p : Page) (name : String) (n : NodeId) : Option String :=
  (p.doc.attr? name n).filter (!·.isEmpty)

/-- The slug that a control declares by its name or its identifier. -/
def Page.declaredSlug? (p : Page) (n : NodeId) : Option String :=
  (((p.filled? "name" n).or (p.filled? "id" n)).map Naming.snakeCase).filter (!·.isEmpty)

/-- The draft of a control with a slug. -/
def controlDraft (p : Page) (n : NodeId) (slug : String) : Draft :=
  (Draft.make (some (p.position n)) .formField (p.tagOf n) (p.doc.classes n) slug "" []).withInput
    (inputType (p.tagOf n) ((p.doc.attr? "type" n).getD "text"))

/-- The drafts of the controls in a list of nodes.  A control without a name gets a numbered one. -/
def scanControls (p : Page) : List NodeId → Scan → List Draft × Scan
  | [], s => ([], s)
  | n :: rest, s =>
      if s.isConsumed n then scanControls p rest s
      else
        let (slug, s) := match p.declaredSlug? n with
          | some slug => (slug, s)
          | none =>
              ("field_" ++ toString (s.fallbacks + 1), { s with fallbacks := s.fallbacks + 1 })
        let (drafts, s) := scanControls p rest (s.consume [n])
        (controlDraft p n slug :: drafts, s)

/-- **A form gives its controls** and is used up. -/
def scanForm (p : Page) (form : NodeId) (s : Scan) : List Draft × Scan :=
  let controls := (p.doc.descendants form).filter (p.doc.hasTagIn ["input", "textarea", "select"])
  let (drafts, s) := scanControls p controls s
  (sortDrafts drafts, s.consumeBelow p form)

/-! ### Lists -/

/-- The draft that stands for a list item in which no field was found. -/
def itemDraft (p : Page) (first : NodeId) (slug : String) : Draft :=
  let context := Naming.singular slug
  match p.clickable? first with
  | some link =>
      Draft.make none .link (p.tagOf link) (p.doc.classes link)
        (joined context "link" "item_link") (p.textOf link) []
  | none =>
      Draft.make none .text "li" (p.doc.classes first) (orElse context "item") (p.textOf first) []

/-- **A list with items becomes a repeater**, with the fields of the first item. -/
def scanList (p : Page) (scan : Scanner) (list : NodeId) (s : Scan) : Option (Draft × Scan) :=
  match (p.doc.elementChildren list).filter (p.doc.hasTag "li") with
  | [] => none
  | first :: others =>
      let items := first :: others
      let slug := orElse (Naming.classSlug (p.doc.classes list)) "items"
      let (found, s) := scan first true slug (s.consume items)
      let children := if found.isEmpty then [itemDraft p first slug] else found
      some (Draft.make (some (p.position first)) .repeater "li" (p.doc.classes first) slug ""
        children, items.foldl (Scan.consumeBelow p) s)

/-! ### Groups -/

/-- **The structure by which siblings are grouped**: the tag, the first class, and the tags of the
child elements. -/
def signature (d : Document) (n : NodeId) : String :=
  (d.tag? n).getD "" ++ ((d.firstClass? n).map ("." ++ ·)).getD ""
    ++ "[" ++ "-".intercalate ((d.elementChildren n).filterMap d.tag?) ++ "]"

/-- The groups with one more member of the group with a signature. -/
def addMember (sig : String) (n : NodeId) :
    List (String × List NodeId) → List (String × List NodeId)
  | [] => [(sig, [n])]
  | (other, members) :: rest =>
      if other == sig then (other, members ++ [n]) :: rest
      else (other, members) :: addMember sig n rest

/-- **The nodes of a list by signature**, in the order of the first members. -/
def groups (d : Document) (nodes : List NodeId) : List (String × List NodeId) :=
  nodes.foldl (fun found n => addMember (signature d n) n found) []

/-- The draft that stands for a member of a group in which no field was found. -/
def memberDraft (p : Page) (first : NodeId) (slug : String) : Draft :=
  Draft.make none .text (p.tagOf first) (p.doc.classes first)
    (orElse (Naming.singular slug) "item") (p.textOf first) []

/-- The repeaters of the groups with more than one member, with the fields of the first one. -/
def scanMembers (p : Page) (scan : Scanner) : List (List NodeId) → Scan → List Draft × Scan
  | (first :: second :: others) :: rest, s =>
      let members := first :: second :: others
      let classes := p.doc.classes first
      let slug := orElse (Naming.classSlug classes) "items"
      let (found, s) := scan first false slug (s.consume members)
      let children := if found.isEmpty then [memberDraft p first slug] else found
      let repeater := Draft.make (some (p.position first)) .repeater (p.tagOf first) classes slug ""
        children
      let (drafts, s) := scanMembers p scan rest (members.foldl (Scan.consumeBelow p) s)
      (repeater :: drafts, s)
  | _ :: rest, s => scanMembers p scan rest s
  | [], s => ([], s)

/-- **Siblings of the same structure become a repeater.** -/
def scanGroups (p : Page) (scan : Scanner) (nodes : List NodeId) (s : Scan) : List Draft × Scan :=
  scanMembers p scan ((groups p.doc (nodes.filter (!s.isConsumed ·))).map (·.2)) s

/-! ### Leaves and containers -/

/-- The tags of leaves. -/
def leafTags : List String :=
  ["h1", "h2", "h3", "h4", "h5", "h6", "p", "img", "a", "li", "button"]

/-- The kind and the content of a leaf. -/
def leafContent (p : Page) (tag : String) (n : NodeId) : FieldKind × String :=
  if tag == "p" then (.textarea, p.textOf n)
  else if tag == "img" then
    (.image, ((p.filled? "alt" n).or (p.doc.attr? "src" n)).getD "")
  else if clickableTags.contains tag then
    (.link, (p.doc.attr? "href" n).getD (p.textOf n))
  else (.text, p.textOf n)

/-- The draft of a leaf, unless it is a text without content. -/
def leafDraft? (p : Page) (n : NodeId) (insideList : Bool) (context : String) : Option Draft :=
  let tag := p.tagOf n
  let classes := p.doc.classes n
  let (kind, content) := leafContent p tag n
  if content.isEmpty && kind != .image && kind != .link then none
  else some (Draft.make (some (p.position n)) kind tag classes
    (leafSlug tag classes insideList context) content [])

/-- What a container with the given fields is about. -/
def componentOf (p : Page) (n : NodeId) (nested : List Draft) : Option ComponentType :=
  let facts := Facts.ofElement (p.tagOf n) (p.doc.classes n)
  let hasCards := nested.any fun draft =>
    draft.info.kind == .repeater && Text.contains draft.info.slug "card"
  (Rule.firstOf Rule.components { facts with
    hasH1 := (p.doc.findBelow n (p.doc.hasTag "h1")).isSome
    hasCardRepeater := hasCards }).map (·.outcome)

/-- The draft of a container. -/
def containerDraft (p : Page) (n : NodeId) (nested : List Draft) : Draft :=
  let tag := p.tagOf n
  let classes := p.doc.classes n
  (Draft.make (some (p.position n)) .container tag classes
    (orElse (Naming.classSlug classes) ("container_" ++ tag)) "" nested).withComponent
    (componentOf p n nested)

/-- **What is left of the children of a container**: leaves, list items that are looked into, and
containers that hold something. -/
def scanRemaining (p : Page) (scan : Scanner) (insideList : Bool) (context : String) :
    List NodeId → Scan → List Draft × Scan
  | [], s => ([], s)
  | n :: rest, s =>
      if s.isConsumed n then scanRemaining p scan insideList context rest s
      else if p.doc.hasTag "li" n && (p.clickable? n).isSome then
        let (nested, s) := scan n true context s
        let (drafts, s) := scanRemaining p scan insideList context rest s
        (nested ++ drafts, s)
      else if p.doc.hasTagIn leafTags n then
        match leafDraft? p n insideList context with
        | some draft =>
            let (drafts, s) := scanRemaining p scan insideList context rest (s.consume [n])
            (draft :: drafts, s)
        | none => scanRemaining p scan insideList context rest s
      else
        let own := orElse (Naming.classSlug (p.doc.classes n)) context
        let (nested, s) := scan n insideList own s
        if nested.isEmpty then scanRemaining p scan insideList context rest s
        else
          let (drafts, s) := scanRemaining p scan insideList context rest (s.consume [n])
          (containerDraft p n nested :: drafts, s)

/-! ### Containers -/

/-- The passes over the children of a container that is no form and no list. -/
def scanChildren (p : Page) (scan : Scanner) (container : NodeId) (insideList : Bool)
    (context : String) (s : Scan) : List Draft × Scan :=
  let children := p.doc.elementChildren container
  let (grouped, s) := scanGroups p scan children s
  let (remaining, s) := scanRemaining p scan insideList context children s
  (sortDrafts (grouped ++ remaining), s)

/-- **The drafts of a container**, in document order; nothing is found more than `depth` levels
down. -/
def scanNode (p : Page) : Nat → Scanner
  | 0, _, _, _, s => ([], s)
  | depth + 1, container, insideList, context, s =>
      let scan := scanNode p depth
      let context := orElse (Naming.classSlug (p.doc.classes container)) context
      if p.doc.hasTag "form" container then scanForm p container s
      else if p.doc.hasTagIn ["ul", "ol"] container then
        match scanList p scan container s with
        | some (draft, s) => ([draft], s)
        | none => scanChildren p scan container insideList context s
      else scanChildren p scan container insideList context s

end Model

end ThemeCompiler
