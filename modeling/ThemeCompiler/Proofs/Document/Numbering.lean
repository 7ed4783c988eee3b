/-
**Parsed markup keeps its order.**

The nodes of parsed markup are copied from a stack, so that they may be nested to any depth.  What
is inside of a node goes onto the stack from its end to its beginning, the children of an element
before the contents of a template; so the first of the contents is on top, and all that is inside of
a node is copied before what stands behind it.  So the stack does what a plain recursion does.

A new node gets the next number and becomes the last child of the node it is in.  So after a list of
trees was added below a node, the trees stand there with consecutive numbers in document order, and
what stood in the arena before stands there as it was.  That is all one has to know of adding trees:
it holds of nothing added, of one thing added after another, and of a node with what is added in it.

Main definitions:

* `ThemeCompiler.PageTree` — a node with what is below it, without numbers;
* `ThemeCompiler.Html.Tree.pageTrees` — **what parsed markup stands for**: documents give way to
  what is in them, instructions are left out, the contents of a template come before the children;
* `ThemeCompiler.Document.tree` — the attached tree of a document;
* `ThemeCompiler.Document.copyStep` — one step of the copy from a stack;
* `ThemeCompiler.Document.Stands` — **a tree in an arena, numbered in document order.**

Main results:

* `ThemeCompiler.Document.copyStep_addTree` — the stack does what the recursion does;
* `ThemeCompiler.Document.Appends.append`, `ThemeCompiler.Document.Appends.node`,
  `ThemeCompiler.Document.appends_addTree` — what is added stands in order below its node;
* `ThemeCompiler.Document.StandAll.below_eq`, `ThemeCompiler.Document.Stands.treeWithin_eq` — what
  is read off a tree that stands in order;
* `ThemeCompiler.Document.numbered_ofTree` — **the document of parsed markup.**
-/

import ThemeCompiler.Proofs.Document.Formed

set_option relaxedAutoImplicit false
set_option autoImplicit false

namespace ThemeCompiler

/-! ### Trees without numbers -/

/-- **A node of a page with what is below it.** -/
inductive PageTree where
  | node (content : Content) (below : List PageTree)

namespace PageTree

mutual

/-- The number of nodes of a tree. -/
def size : PageTree → Nat
  | node _ below => sizeAll below + 1

/-- The number of nodes of trees. -/
def sizeAll : List PageTree → Nat
  | [] => 0
  | t :: ts => size t + sizeAll ts

end

mutual

/-- What the nodes of a tree hold, in document order. -/
def contents : PageTree → List Content
  | node content below => content :: contentsAll below

/-- **What the nodes of trees hold**, in document order. -/
def contentsAll : List PageTree → List Content
  | [] => []
  | t :: ts => contents t ++ contentsAll ts

end

theorem sizeAll_append (ts us : List PageTree) :
    sizeAll (ts ++ us) = sizeAll ts + sizeAll us := by
  induction ts with
  | nil => simp [sizeAll]
  | cons t ts ih => rw [List.cons_append, sizeAll, sizeAll, ih, Nat.add_assoc]

/-- The numbers of trees that are numbered in document order: each follows all of the one before. -/
def rootsFrom : Nat → List PageTree → List NodeId
  | _, [] => []
  | i, t :: ts => i :: rootsFrom (i + t.size) ts

theorem rootsFrom_append (i : Nat) (ts us : List PageTree) :
    rootsFrom i (ts ++ us) = rootsFrom i ts ++ rootsFrom (i + sizeAll ts) us := by
  induction ts generalizing i with
  | nil => rfl
  | cons t ts ih =>
      rw [List.cons_append, rootsFrom, ih, rootsFrom, sizeAll, List.cons_append, Nat.add_assoc]

end PageTree

namespace Html

mutual

/-- **What parsed markup stands for.** -/
def Tree.pageTrees : Tree → List PageTree
  | .document children => pageTreesAll children
  | .doctype name => [.node (.doctype name) []]
  | .text content => [.node (.text content) []]
  | .comment content => [.node (.comment content) []]
  | .instruction _ _ => []
  | .element name attrs contents children =>
      [.node (.element (Text.lowerAscii name) attrs)
        (pageTreesAll contents ++ pageTreesAll children)]

/-- What markup stands for, one tree after the other. -/
def pageTreesAll : List Tree → List PageTree
  | [] => []
  | t :: ts => t.pageTrees ++ pageTreesAll ts

end

mutual

/-- The number of nodes of parsed markup, documents and instructions included. -/
def Tree.size : Tree → Nat
  | .document children => sizeAll children + 1
  | .element _ _ contents children => sizeAll contents + sizeAll children + 1
  | _ => 1

/-- The number of nodes of a list of trees. -/
def sizeAll : List Tree → Nat
  | [] => 0
  | t :: ts => t.size + sizeAll ts

end

end Html

namespace Document

open PageTree (rootsFrom sizeAll contentsAll)

/-! ### Copying from a stack -/

/-- Trees that are still to be copied, each below its node; the next one is on top. -/
abbrev CopyStack := List (Html.Tree × NodeId)

/-- Puts trees onto a stack, from the last one to the first. -/
def pushAll (parent : NodeId) (trees : List Html.Tree) (stack : CopyStack) : CopyStack :=
  trees.reverse.foldl (fun stack t => (t, parent) :: stack) stack

/-- **One step of the copy**: the tree on top is taken from the stack, and what is inside of it goes
onto the stack, the contents of a template last. -/
def copyStep : CopyStack × Arena Content → CopyStack × Arena Content
  | ([], a) => ([], a)
  | ((.document children, p) :: stack, a) => (pushAll p children stack, a)
  | ((.doctype name, p) :: stack, a) => (stack, (a.add (.doctype name)).appendChild p a.size)
  | ((.text content, p) :: stack, a) => (stack, (a.add (.text content)).appendChild p a.size)
  | ((.comment content, p) :: stack, a) => (stack, (a.add (.comment content)).appendChild p a.size)
  | ((.instruction _ _, _) :: stack, a) => (stack, a)
  | ((.element name attrs contents children, p) :: stack, a) =>
      (pushAll a.size contents (pushAll a.size children stack),
        (a.add (.element (Text.lowerAscii name) attrs)).appendChild p a.size)

theorem pushAll_eq (parent : NodeId) (trees : List Html.Tree) (stack : CopyStack) :
    pushAll parent trees stack = trees.map (fun t => (t, parent)) ++ stack := by
  rw [pushAll, List.foldl_reverse]
  induction trees with
  | nil => rfl
  | cons t ts ih => rw [List.foldr_cons, ih, List.map_cons, List.cons_append]

mutual

/-- **A tree on top of the stack is copied as by recursion**, and the stack below it stays. -/
theorem copyStep_addTree : ∀ (t : Html.Tree) (p : NodeId) (stack : CopyStack) (a : Arena Content),
    copyStep^[t.size] ((t, p) :: stack, a) = (stack, addTree p t a)
  | .document children, p, stack, a => by
      rw [Html.Tree.size, Function.iterate_succ_apply, copyStep, addTree]
      exact copyStep_addTrees children p stack a
  | .doctype name, p, stack, a => rfl
  | .text content, p, stack, a => rfl
  | .comment content, p, stack, a => rfl
  | .instruction _ _, p, stack, a => rfl
  | .element name attrs contents children, p, stack, a => by
      -- the contents are copied first, with the children below them on the stack
      rw [Html.Tree.size, Function.iterate_succ_apply, copyStep, addTree, Nat.add_comm,
        Function.iterate_add_apply, copyStep_addTrees contents, copyStep_addTrees children]

/-- Trees that were put onto the stack are copied one after the other. -/
theorem copyStep_addTrees : ∀ (ts : List Html.Tree) (p : NodeId) (stack : CopyStack)
    (a : Arena Content),
      copyStep^[Html.sizeAll ts] (pushAll p ts stack, a) = (stack, addTrees p ts a)
  | [], p, stack, a => rfl
  | t :: ts, p, stack, a => by
      have hrest := copyStep_addTrees ts p stack (addTree p t a)
      rw [pushAll_eq] at hrest ⊢
      rw [List.map_cons, List.cons_append, Html.sizeAll, Nat.add_comm, Function.iterate_add_apply,
        copyStep_addTree t, hrest, addTrees]

end

/-! ### Trees in an arena -/

mutual

/-- **A tree in an arena, numbered in document order**: its node has the number `i`, and what is
below the node has the numbers that follow. -/
def Stands (a : Arena Content) (i : Nat) : PageTree → Prop
  | .node content below =>
      a.value? i = some content ∧ a.children i = rootsFrom (i + 1) below ∧ StandAll a (i + 1) below

/-- Trees in an arena, numbered from `i` on in document order. -/
def StandAll (a : Arena Content) (i : Nat) : List PageTree → Prop
  | [] => True
  | t :: ts => Stands a i t ∧ StandAll a (i + t.size) ts

end

mutual

/-- A tree stands where it stood as long as its nodes stay as they are. -/
theorem Stands.congr {a b : Arena Content} : ∀ {t : PageTree} {i : Nat},
    Stands a i t → (∀ j : Nat, i ≤ j → j < i + t.size →
      b.value? j = a.value? j ∧ b.children j = a.children j) → Stands b i t
  | .node content below, i, h, hsame => by
      rw [PageTree.size] at hsame
      obtain ⟨hvalue, hchildren, hbelow⟩ := h
      obtain ⟨hvalue', hchildren'⟩ := hsame i (Nat.le_refl i) (by omega)
      refine ⟨hvalue'.trans hvalue, hchildren'.trans hchildren, hbelow.congr fun j hj hj' => ?_⟩
      exact hsame j (by omega) (by omega)

theorem StandAll.congr {a b : Arena Content} : ∀ {ts : List PageTree} {i : Nat},
    StandAll a i ts → (∀ j : Nat, i ≤ j → j < i + sizeAll ts →
      b.value? j = a.value? j ∧ b.children j = a.children j) → StandAll b i ts
  | [], _, _, _ => trivial
  | t :: ts, i, h, hsame => by
      rw [sizeAll] at hsame
      refine ⟨h.1.congr fun j hj hj' => hsame j hj (by omega), h.2.congr fun j hj hj' => ?_⟩
      exact hsame j (by omega) (by omega)

end

theorem StandAll.append {a : Arena Content} {ts us : List PageTree} {i : Nat}
    (h : StandAll a i ts) (h' : StandAll a (i + sizeAll ts) us) : StandAll a i (ts ++ us) := by
  induction ts generalizing i with
  | nil => exact h'
  | cons t ts ih =>
      rw [sizeAll, ← Nat.add_assoc] at h'
      exact ⟨h.1, ih h.2 h'⟩

/-! ### What is added -/

/-- **Trees added below a node**: they stand behind what was there, the first of them are the last
children of the node, and all else is as it was. -/
structure Appends (a b : Arena Content) (p : Nat) (trees : List PageTree) : Prop where
  wellFormed : b.WellFormed
  size_eq : b.size = a.size + sizeAll trees
  value?_eq : ∀ j : Nat, j < a.size → b.value? j = a.value? j
  children_eq : ∀ j : Nat, j < a.size →
    b.children j = a.children j ++ if j = p then rootsFrom a.size trees else []
  stand : StandAll b a.size trees

namespace Appends

variable {a b c : Arena Content} {p : Nat}

theorem nil (h : a.WellFormed) (p : Nat) : Appends a a p [] where
  wellFormed := h
  size_eq := rfl
  value?_eq _ _ := rfl
  children_eq j _ := by rw [rootsFrom, ite_self, List.append_nil]
  stand := trivial

/-- **One after the other.** -/
theorem append {ts us : List PageTree} (h : Appends a b p ts) (h' : Appends b c p us)
    (hp : p < a.size) : Appends a c p (ts ++ us) where
  wellFormed := h'.wellFormed
  size_eq := by rw [h'.size_eq, h.size_eq, PageTree.sizeAll_append, Nat.add_assoc]
  value?_eq j hj := (h'.value?_eq j (by rw [h.size_eq]; omega)).trans (h.value?_eq j hj)
  children_eq j hj := by
    rw [h'.children_eq j (by rw [h.size_eq]; omega), h.children_eq j hj, h.size_eq,
      PageTree.rootsFrom_append, List.append_assoc]
    split
    · rfl
    · rw [List.append_nil]
  stand := by
    refine (h.stand.congr fun j hj hj' => ?_).append (h.size_eq ▸ h'.stand)
    -- the node that gets more children was there before
    rw [← h.size_eq] at hj'
    refine ⟨h'.value?_eq j hj', ?_⟩
    rw [h'.children_eq j hj', if_neg (by omega), List.append_nil]

/-- **A new node with what is added in it.** -/
theorem node (h : a.WellFormed) (hp : p < a.size) {content : Content} {below : List PageTree}
    (hbelow : Appends ((a.add content).appendChild p a.size) b a.size below) :
    Appends a b p [.node content below] := by
  have hsize : ((a.add content).appendChild p a.size).size = a.size + 1 := by
    rw [Arena.size_appendChild, Arena.size_add]
  have hvalue : ∀ j, ((a.add content).appendChild p a.size).value? j =
      if j = a.size then some content else a.value? j := by
    intro j
    rw [Arena.value?_appendChild, Arena.value?_add]
  have hchildren : ∀ j, ((a.add content).appendChild p a.size).children j =
      a.children j ++ if j = p then [a.size] else [] := by
    intro j
    have hadd : p < (a.add content).size := by
      rw [Arena.size_add]
      exact Nat.lt_succ_of_lt hp
    rw [Arena.children_appendChild (h.add content) hadd, Arena.children_add,
      Arena.filter_bne_eq_self]
    exact fun hmem => Nat.lt_irrefl _ (h.lt_size_of_mem hmem)
  have hnew : a.size < ((a.add content).appendChild p a.size).size := by omega
  refine ⟨hbelow.wellFormed, ?_, fun j hj => ?_, fun j hj => ?_, ⟨?_, ?_, ?_⟩, trivial⟩
  · rw [hbelow.size_eq, hsize, sizeAll, sizeAll, PageTree.size]
    omega
  · rw [hbelow.value?_eq j (by omega), hvalue, if_neg (Nat.ne_of_lt hj)]
  · rw [hbelow.children_eq j (by omega), hchildren, if_neg (Nat.ne_of_lt hj), List.append_nil]
    rfl
  · rw [hbelow.value?_eq _ hnew, hvalue, if_pos rfl]
  · rw [hbelow.children_eq _ hnew, hchildren, Arena.children_of_size_le (Nat.le_refl _),
      if_neg (Nat.ne_of_gt hp), if_pos rfl, hsize]
    rfl
  · exact hsize ▸ hbelow.stand

/-- A new node with nothing in it. -/
theorem leaf (h : a.WellFormed) (hp : p < a.size) (content : Content) :
    Appends a ((a.add content).appendChild p a.size) p [.node content []] :=
  node h hp (nil (h.addChild hp content) _)

end Appends

mutual

/-- **A tree that is added stands in order below its node.** -/
theorem appends_addTree : ∀ (t : Html.Tree) {a : Arena Content} {p : Nat}, a.WellFormed →
    p < a.size → Appends a (addTree p t a) p t.pageTrees
  | .document children, a, p, h, hp => by
      rw [addTree, Html.Tree.pageTrees]
      exact appends_addTrees children h hp
  | .doctype name, a, p, h, hp => by
      rw [addTree, Html.Tree.pageTrees]
      exact .leaf h hp _
  | .text content, a, p, h, hp => by
      rw [addTree, Html.Tree.pageTrees]
      exact .leaf h hp _
  | .comment content, a, p, h, hp => by
      rw [addTree, Html.Tree.pageTrees]
      exact .leaf h hp _
  | .instruction _ _, a, p, h, hp => by
      rw [addTree, Html.Tree.pageTrees]
      exact .nil h p
  | .element name attrs contents children, a, p, h, hp => by
      rw [addTree, Html.Tree.pageTrees]
      have hnew : a.size <
          ((a.add (.element (Text.lowerAscii name) attrs)).appendChild p a.size).size := by
        rw [Arena.size_appendChild, Arena.size_add]
        exact Nat.lt_succ_self _
      have hcontents := appends_addTrees contents (h.addChild hp _) hnew
      have hchildren := appends_addTrees children hcontents.wellFormed
        (hnew.trans_le (by rw [hcontents.size_eq]; exact Nat.le_add_right _ _))
      exact .node h hp (hcontents.append hchildren hnew)

/-- Trees that are added stand in order below their node. -/
theorem appends_addTrees : ∀ (ts : List Html.Tree) {a : Arena Content} {p : Nat}, a.WellFormed →
    p < a.size → Appends a (addTrees p ts a) p (Html.pageTreesAll ts)
  | [], a, p, h, _ => by
      rw [addTrees, Html.pageTreesAll]
      exact .nil h p
  | t :: ts, a, p, h, hp => by
      rw [addTrees, Html.pageTreesAll]
      have hfirst := appends_addTree t h hp
      refine hfirst.append (appends_addTrees ts hfirst.wellFormed ?_) hp
      rw [hfirst.size_eq]
      omega

end

/-! ### What is read off -/

/-- The tree at a node, at most `fuel` levels of it below the node. -/
def treeWithin (a : Arena Content) : Nat → NodeId → PageTree
  | 0, i => .node ((a.value? i).getD .root) []
  | fuel + 1, i => .node ((a.value? i).getD .root) ((a.children i).map (treeWithin a fuel))

/-- **The attached tree of a document.** -/
def tree (d : Document) : PageTree := treeWithin d.nodes d.nodes.size Arena.root

mutual

/-- The tree at a node where one stands. -/
theorem Stands.treeWithin_eq {a : Arena Content} : ∀ {t : PageTree} {i fuel : Nat}, Stands a i t →
    t.size ≤ fuel → treeWithin a fuel i = t
  | .node content below, i, fuel, ⟨hvalue, hchildren, hbelow⟩, hfuel => by
      rw [PageTree.size] at hfuel
      obtain ⟨fuel, rfl⟩ : ∃ k, fuel = k + 1 := ⟨fuel - 1, by omega⟩
      rw [treeWithin, hvalue, hchildren, hbelow.map_treeWithin_eq (by omega)]
      rfl

theorem StandAll.map_treeWithin_eq {a : Arena Content} : ∀ {ts : List PageTree} {i fuel : Nat},
    StandAll a i ts → sizeAll ts ≤ fuel → (rootsFrom i ts).map (treeWithin a fuel) = ts
  | [], _, _, _, _ => rfl
  | t :: ts, i, fuel, ⟨hfirst, hrest⟩, hfuel => by
      rw [sizeAll] at hfuel
      rw [rootsFrom, List.map_cons, hfirst.treeWithin_eq (by omega),
        hrest.map_treeWithin_eq (by omega)]

end

mutual

/-- What is below a node where a tree stands has the numbers that follow the node. -/
theorem Stands.below_eq {a : Arena Content} : ∀ {t : PageTree} {i fuel : Nat}, Stands a i t →
    t.size ≤ fuel → i :: a.below fuel i = List.range' i t.size
  | .node content below, i, fuel, ⟨_, hchildren, hbelow⟩, hfuel => by
      rw [PageTree.size] at hfuel ⊢
      obtain ⟨fuel, rfl⟩ : ∃ k, fuel = k + 1 := ⟨fuel - 1, by omega⟩
      rw [Arena.below, hchildren, hbelow.below_eq (by omega), List.range'_succ]

/-- **Trees that stand in order have consecutive numbers.** -/
theorem StandAll.below_eq {a : Arena Content} : ∀ {ts : List PageTree} {i fuel : Nat},
    StandAll a i ts → sizeAll ts ≤ fuel →
      ((rootsFrom i ts).flatMap fun c => c :: a.below fuel c) = List.range' i (sizeAll ts)
  | [], _, _, _, _ => rfl
  | t :: ts, i, fuel, ⟨hfirst, hrest⟩, hfuel => by
      rw [sizeAll] at hfuel ⊢
      rw [rootsFrom, List.flatMap_cons, hfirst.below_eq (by omega), hrest.below_eq (by omega),
        List.range'_append_1]

end

mutual

/-- What the nodes of a tree hold, by their numbers. -/
theorem Stands.map_value?_eq {a : Arena Content} : ∀ {t : PageTree} {i : Nat}, Stands a i t →
    (List.range' i t.size).map a.value? = t.contents.map some
  | .node content below, i, ⟨hvalue, _, hbelow⟩ => by
      rw [PageTree.size, List.range'_succ, List.map_cons, hvalue, hbelow.map_value?_eq,
        PageTree.contents, List.map_cons]

theorem StandAll.map_value?_eq {a : Arena Content} : ∀ {ts : List PageTree} {i : Nat},
    StandAll a i ts → (List.range' i (sizeAll ts)).map a.value? = (contentsAll ts).map some
  | [], _, _ => rfl
  | t :: ts, i, ⟨hfirst, hrest⟩ => by
      rw [sizeAll, ← List.range'_append_1, List.map_append, hfirst.map_value?_eq,
        hrest.map_value?_eq, contentsAll, List.map_append]

end

/-! ### Documents of parsed markup -/

/-- **The whole document of parsed markup stands in order**, the root first. -/
theorem stands_ofTree (isFull : Bool) (t : Html.Tree) :
    Stands (ofTree isFull t).nodes Arena.root (.node .root t.pageTrees) ∧
      (ofTree isFull t).nodes.size = PageTree.sizeAll t.pageTrees + 1 := by
  have hstart : (Arena.singleton Content.root).WellFormed := .singleton _
  have hone : (Arena.singleton Content.root).size = 1 := rfl
  have h := appends_addTree t hstart hstart.root_lt
  refine ⟨⟨h.value?_eq _ hstart.root_lt, ?_, h.stand⟩, ?_⟩
  · exact h.children_eq _ hstart.root_lt
  · exact h.size_eq.trans (by rw [hone, Nat.add_comm])

/-- **The attached nodes of parsed markup**: the numbers from 1 on. -/
theorem attached_ofTree (isFull : Bool) (t : Html.Tree) :
    (ofTree isFull t).attached = List.range' 1 (sizeAll t.pageTrees) := by
  obtain ⟨hstands, hsize⟩ := stands_ofTree isFull t
  have hbelow : Arena.root :: (ofTree isFull t).attached = _ := hstands.below_eq hsize.ge
  rw [PageTree.size, List.range'_succ] at hbelow
  exact (List.cons.inj hbelow).2

/-- **The document of parsed markup.**  Its attached tree is what the markup stands for.  The nodes
are numbered from 1 on in document order, without a gap, and hold what the markup holds there; links
agree in both directions.  The copy from a stack, which is empty after as many steps as the markup
has nodes, makes the same arena. -/
theorem numbered_ofTree (isFull : Bool) (t : Html.Tree) :
    let d := ofTree isFull t
    let n := sizeAll t.pageTrees
    d.tree = .node .root t.pageTrees ∧ d.attached = List.range' 1 n ∧ d.nodes.size = n + 1 ∧
      d.attached.map d.nodes.value? = (contentsAll t.pageTrees).map some ∧ d.WellFormed ∧
      copyStep^[t.size] ([(t, Arena.root)], Arena.singleton .root) = ([], d.nodes) ∧
      ∀ source, (Document.parse source).attached =
        List.range' 1 (sizeAll (Html.parse source).pageTrees) := by
  intro d n
  obtain ⟨hstands, hsize⟩ := stands_ofTree isFull t
  refine ⟨hstands.treeWithin_eq hsize.ge, attached_ofTree isFull t, hsize, ?_, .ofTree isFull t,
    copyStep_addTree t Arena.root [] _, fun source => attached_ofTree _ _⟩
  rw [attached_ofTree isFull t]
  exact hstands.2.2.map_value?_eq

/-- The contents of a template come first, an instruction and a document are no nodes. -/
example : (ofTree true (.document [.instruction "xml" "", .document [.comment "a"],
    .element "TEMPLATE" [] [.text "b"] [.text "c"]])).tree =
      .node .root [.node (.comment "a") [],
        .node (.element "template" []) [.node (.text "b") [], .node (.text "c") []]] := by
  cbv

end Document

end ThemeCompiler
