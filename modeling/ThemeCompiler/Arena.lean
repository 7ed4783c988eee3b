/-
**Ordered trees with linked nodes.**

An arena keeps its nodes in one array.  A node has a value, its parent and the list of its children;
its place in the array is its name for good.  A node that is taken out of the tree stays in the
array.  All edits go through a few operations that change both directions of a link.

Main definitions:

* `ThemeCompiler.Arena` — the array, with `Arena.value?`, `Arena.parent?` and `Arena.children`;
* `ThemeCompiler.Arena.detach`, `ThemeCompiler.Arena.appendChild`,
  `ThemeCompiler.Arena.insertBefore`, `ThemeCompiler.Arena.replaceWith`,
  `ThemeCompiler.Arena.unwrap`, `ThemeCompiler.Arena.wrapChildren` — the edits;
* `ThemeCompiler.Arena.descendants` — the nodes below a node in document order;
* `ThemeCompiler.Arena.lineage` — a node, its parent, and so on upwards;
* `ThemeCompiler.Arena.WellFormed` — the links agree in both directions and no node is its own
  ancestor.
-/

set_option relaxedAutoImplicit false
set_option autoImplicit false

namespace ThemeCompiler

/-- The place of a node in its arena. -/
abbrev NodeId := Nat

/-- A node: its value and its links. -/
structure Cell (α : Type) where
  value : α
  parent : Option NodeId
  children : List NodeId

/-- **An arena of linked nodes.**  The root is node 0. -/
structure Arena (α : Type) where
  cells : Array (Cell α)

namespace Arena

variable {α : Type}

/-! ### Reading -/

/-- The place of the root. -/
def root : NodeId := 0

/-- The number of nodes, attached or not. -/
def size (a : Arena α) : Nat := a.cells.size

/-- The value of a node. -/
def value? (a : Arena α) (i : NodeId) : Option α := (a.cells[i]?).map (·.value)

/-- The parent of a node. -/
def parent? (a : Arena α) (i : NodeId) : Option NodeId := (a.cells[i]?).bind (·.parent)

/-- The children of a node, in order. -/
def children (a : Arena α) (i : NodeId) : List NodeId :=
  match a.cells[i]? with
  | some cell => cell.children
  | none => []

/-! ### Walking -/

/-- The nodes at most `fuel` levels below a node, each before the nodes below it. -/
def below (a : Arena α) : Nat → NodeId → List NodeId
  | 0, _ => []
  | fuel + 1, i => (a.children i).flatMap fun c => c :: a.below fuel c

/-- **The nodes below a node in document order**, the node itself not included. -/
def descendants (a : Arena α) (i : NodeId) : List NodeId := a.below a.size i

/-- The first `fuel` nodes on the way from a node upwards, the node itself first. -/
def upward (a : Arena α) : Nat → NodeId → List NodeId
  | 0, _ => []
  | fuel + 1, i => i :: match a.parent? i with
      | some p => a.upward fuel p
      | none => []

/-- **A node and its ancestors**, nearest first. -/
def lineage (a : Arena α) (i : NodeId) : List NodeId := a.upward a.size i

/-- Whether a node is the root or below it. -/
def isAttached (a : Arena α) (i : NodeId) : Bool := (a.lineage i).getLast? == some root

/-! ### Editing -/

/-- An arena whose only node is a root with the given value. -/
def singleton (v : α) : Arena α := ⟨#[⟨v, none, []⟩]⟩

/-- The arena with one more node, which has no links; its place is the old size. -/
def add (a : Arena α) (v : α) : Arena α := ⟨a.cells.push ⟨v, none, []⟩⟩

/-- The arena with one cell changed. -/
def modifyCell (a : Arena α) (i : NodeId) (f : Cell α → Cell α) : Arena α :=
  ⟨a.cells.modify i f⟩

/-- The arena with the value of one node changed. -/
def modifyValue (a : Arena α) (i : NodeId) (f : α → α) : Arena α :=
  a.modifyCell i fun cell => { cell with value := f cell.value }

/-- The arena with another parent link of one node. -/
def setParent (a : Arena α) (i : NodeId) (parent : Option NodeId) : Arena α :=
  a.modifyCell i fun cell => { cell with parent := parent }

/-- The arena with the child list of one node changed. -/
def modifyChildren (a : Arena α) (i : NodeId) (f : List NodeId → List NodeId) : Arena α :=
  a.modifyCell i fun cell => { cell with children := f cell.children }

/-- **Takes a node out of its parent.** -/
def detach (a : Arena α) (i : NodeId) : Arena α :=
  match a.parent? i with
  | some p => (a.setParent i none).modifyChildren p (List.filter (· != i))
  | none => a

/-- **Makes a node the last child of another.** -/
def appendChild (a : Arena α) (parent child : NodeId) : Arena α :=
  ((a.detach child).setParent child (some parent)).modifyChildren parent (· ++ [child])

/-- A list with `new` before the first `mark`, or in front if there is none. -/
def insertAt (mark new : NodeId) (ids : List NodeId) : List NodeId :=
  if ids.contains mark then
    ids.takeWhile (· != mark) ++ new :: ids.dropWhile (· != mark)
  else new :: ids

/-- **Puts a node immediately before another.**  Nothing happens when the other has no parent. -/
def insertBefore (a : Arena α) (mark new : NodeId) : Arena α :=
  match a.parent? mark with
  | some p => ((a.detach new).modifyChildren p (insertAt mark new)).setParent new (some p)
  | none => a

/-- **Puts `new` in the place of `old`**, which is taken out. -/
def replaceWith (a : Arena α) (old new : NodeId) : Arena α :=
  if old = new then a else (a.insertBefore old new).detach old

/-- **Replaces a node by its children.** -/
def unwrap (a : Arena α) (i : NodeId) : Arena α :=
  ((a.children i).foldl (fun b c => b.insertBefore i c) a).detach i

/-- **Moves the children of a node into a wrapper**, which becomes its last child. -/
def wrapChildren (a : Arena α) (parent wrapper : NodeId) : Arena α :=
  let emptied := a.modifyChildren parent fun _ => []
  let moved := (a.children parent).foldl
    (fun b c => (b.setParent c none).appendChild wrapper c) emptied
  moved.appendChild parent wrapper

/-! ### Well-formed arenas -/

/-- **A well-formed arena**: a node is listed among the children of its parent and nowhere else,
once, the root has no parent, and going upwards from any node comes to an end. -/
structure WellFormed (a : Arena α) : Prop where
  /-- The root is there. -/
  root_lt : root < a.size
  /-- The root has no parent. -/
  parent_root : a.parent? root = none
  /-- A node is among the children of another exactly when that is its parent. -/
  mem_children : ∀ p c, c ∈ a.children p ↔ a.parent? c = some p
  /-- No node is listed twice among the children of one node. -/
  nodup_children : ∀ p, (a.children p).Nodup
  /-- Some ranking falls along every parent link. -/
  acyclic : ∃ rank : NodeId → Nat, ∀ c p, a.parent? c = some p → rank p < rank c

end Arena

end ThemeCompiler
