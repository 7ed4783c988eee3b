/-
**The content model of a page.**

The fields found in a page get slugs that are unique in their scope and identifiers computed from
their place in the forest.  Containers belong to the scope around them; a repeater opens a scope for
the fields of its instances.

Main definitions:

* `ThemeCompiler.Model.uniqueSlugs` — the forest with unique slugs;
* `ThemeCompiler.Model.idPath`, `ThemeCompiler.Model.assignIds` — the path of a field, the forest
  with identifiers;
* `ThemeCompiler.Model.extract` — the content model of a document.
-/

import ThemeCompiler.Digest.NameId
import ThemeCompiler.Model.Scan

set_option relaxedAutoImplicit false
set_option autoImplicit false

namespace ThemeCompiler

namespace Model

/-! ### Unique slugs -/

mutual

/-- A field with slugs that are not taken, and the slugs taken after it. -/
def uniqueSlug : Field → List String → Field × List String
  | .mk info children, taken =>
      match info.kind with
      | .container =>
          let (children, taken) := uniqueSlugs children taken
          (.mk info children, taken)
      | .repeater =>
          let slug := Naming.fresh info.slug taken
          (.mk { info with slug := slug } (uniqueSlugs children []).1, slug :: taken)
      | _ =>
          let slug := Naming.fresh info.slug taken
          (.mk { info with slug := slug } children, slug :: taken)

/-- **A forest with slugs that are unique in every scope**, and the slugs taken after it. -/
def uniqueSlugs : List Field → List String → List Field × List String
  | [], taken => ([], taken)
  | f :: rest, taken =>
      let (field, taken) := uniqueSlug f taken
      let (fields, taken) := uniqueSlugs rest taken
      (field :: fields, taken)

end

/-! ### Identifiers -/

/-- The name space of field identifiers. -/
def fieldSpace : List UInt8 :=
  [0x6f, 0x1c, 0x2a, 0x4e, 0x93, 0xd7, 0x4b, 0x58, 0xa0, 0xe1, 0x5c, 0x7d, 0x2b, 0x9f, 0x8e, 0x34]

/-- **The path of a field**: the path around it, its index and its slug. -/
def idPath (around : String) (index : Nat) (slug : String) : String :=
  around ++ "/" ++ toString index ++ ":" ++ slug

mutual

/-- A field with identifiers computed from paths. -/
def assignId (idOf : String → String) (around : String) (index : Nat) : Field → Field
  | .mk info children =>
      let path := idPath around index info.slug
      .mk { info with id := idOf path } (assignIdsFrom idOf path 0 children)

/-- The fields of a list from an index on with identifiers computed from paths. -/
def assignIdsFrom (idOf : String → String) (around : String) (index : Nat) :
    List Field → List Field
  | [] => []
  | f :: rest => assignId idOf around index f :: assignIdsFrom idOf around (index + 1) rest

end

/-- **A forest with identifiers computed from paths.** -/
def assignIds (idOf : String → String) (fields : List Field) : List Field :=
  assignIdsFrom idOf "" 0 fields

/-! ### The model -/

/-- The drafts of a document, scanned from its body on. -/
def drafts (maxDepth : Nat) (d : Document) : List Draft :=
  (scanNode (Page.ofDocument d) maxDepth (d.body?.getD Arena.root) false "" Scan.start).1

/-- **The content model of a document.**  Nothing more than `maxDepth` levels down counts. -/
def extract (maxDepth : Nat) (d : Document) : List Field :=
  assignIds (Digest.nameId fieldSpace)
    (uniqueSlugs (Draft.toFields (drafts maxDepth d)) []).1

end Model

end ThemeCompiler
