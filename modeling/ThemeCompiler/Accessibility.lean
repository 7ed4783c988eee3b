/-
**The accessibility pass.**

Interactive elements are not hidden, what can be clicked is a button, there is one main landmark,
controls have labels, images have descriptions or are marked as decoration, and roles do not repeat
what the element says.

Main definitions:

* `ThemeCompiler.Accessibility.score` — how much of it is the case;
* `ThemeCompiler.Accessibility.Change`, `ThemeCompiler.Accessibility.Change.entry` — a change, its
  wording;
* `ThemeCompiler.Accessibility.unhide`, `ThemeCompiler.Accessibility.convertClickables`,
  `ThemeCompiler.Accessibility.fixLandmarks`, `ThemeCompiler.Accessibility.labelControls`,
  `ThemeCompiler.Accessibility.markDecorative`, `ThemeCompiler.Accessibility.dropRoles` — the parts
  of the pass;
* `ThemeCompiler.Accessibility.changes`, `ThemeCompiler.Accessibility.optimize` — the whole pass,
  and with its report.
-/

import ThemeCompiler.Document.Sweep
import ThemeCompiler.Landmarks

set_option relaxedAutoImplicit false
set_option autoImplicit false

namespace ThemeCompiler

namespace Accessibility

/-! ### The score -/

/-- The value of an attribute that is not empty. -/
def filled? (d : Document) (name : String) (n : NodeId) : Option String :=
  (d.attr? name n).filter (!·.isEmpty)

/-- The form controls. -/
def controlTags : List String := ["input", "select", "textarea"]

/-- The identifiers that labels are for. -/
def labelTargets (d : Document) : List String :=
  (d.elementsByTag "label").filterMap (filled? d "for")

/-- Whether a control has a label element or a label of its own. -/
def isLabelled (d : Document) (targets : List String) (n : NodeId) : Bool :=
  (filled? d "id" n).any targets.contains || (filled? d "aria-label" n).isSome

/-- **The part of a weight that is earned** when `covered` of `total` things are in order, rounded
to the nearest number, a half upwards.  Nothing to do earns all of it. -/
def coverage (covered total weight : Nat) : Nat :=
  if total = 0 then weight else (2 * covered * weight + total) / (2 * total)

/-- **The score of a document**, at most 100: images with a description up to 15, labelled controls
up to 20, a single main landmark 15, and 50 for what is not measured. -/
def score (d : Document) : Int :=
  let images := d.elementsByTag "img"
  let controls := d.elementsByTags controlTags
  let targets := labelTargets d
  let earned := coverage (images.filter (d.hasAttr "alt")).length images.length 15
    + coverage (controls.filter (isLabelled d targets)).length controls.length 20
    + (if (d.elementsByTag "main").length = 1 then 15 else 0) + 50
  (min earned 100 : Nat)

/-! ### Changes -/

/-- **A change made by the pass.** -/
inductive Change where
  | unhidden
  | madeButton (tag : String)
  | demotedMains
  | addedMain
  | labelled (label : String)
  | markedDecorative
  | droppedRole (tag : String)
  deriving DecidableEq, Repr

/-- An entry of the report. -/
structure Entry where
  issue : String
  description : String
  impact : Nat
  deriving DecidableEq, Repr

/-- **The wording of a change.** -/
def Change.entry : Change → Entry
  | .unhidden => ⟨"A11y Conflict", "Removed aria-hidden from interactive element.", 10⟩
  | .madeButton tag =>
      ⟨"Primitive Conversion", "Converted clickable <" ++ tag ++ "> to <button>.", 10⟩
  | .demotedMains => ⟨"Landmark Violation", "Deduplicated multiple <main> landmarks.", 10⟩
  | .addedMain => ⟨"Missing Landmark", "Added <main> wrapper.", 10⟩
  | .labelled label => ⟨"Missing Label", "Added aria-label to " ++ label ++ ".", 10⟩
  | .markedDecorative => ⟨"Image A11y", "Marked image as decorative.", 5⟩
  | .droppedRole tag => ⟨"Redundant ARIA", "Removed redundant role from <" ++ tag ++ ">.", 2⟩

/-! ### Interactive elements -/

/-- Whether an element can be interacted with. -/
def isInteractive (d : Document) (n : NodeId) : Bool :=
  d.hasTagIn ["button", "a", "input", "select", "textarea"] n || d.attr? "role" n == some "button"

/-- **Interactive elements are not hidden.** -/
def unhide : Pass Change :=
  Pass.sweep (fun d => d.attached.filter (isInteractive d)) fun d n =>
    if d.attr? "aria-hidden" n == some "true" then
      some (d.removeAttr n "aria-hidden", .unhidden)
    else none

/-- The plain elements that should not react to clicks. -/
def primitiveTags : List String := ["div", "span", "p"]

/-- The attributes of a button that is made from a plain element: its handler comes last. -/
def buttonAttrs (d : Document) (n : NodeId) (handler : String) : List Html.Attribute :=
  [⟨"type", "button"⟩] ++ (d.attrs n).filter (fun a => a.name != "onclick" && a.name != "type")
    ++ [⟨"onclick", handler⟩]

/-- **Plain elements that react to clicks become buttons.** -/
def convertClickables : Pass Change :=
  Pass.sweep (·.elementsByTags primitiveTags) fun d n =>
    match d.attr? "onclick" n with
    | none => none
    | some handler =>
        some ((d.rename n "button").setAttrs n (buttonAttrs d n handler),
          .madeButton ((d.tag? n).getD ""))

/-! ### Landmarks, labels and images -/

/-- There is one main landmark. -/
def fixLandmarks (mainId : String) : Pass Change := fun d =>
  let result := Landmarks.normalize mainId d
  (result.1, (if result.2.demoted = 0 then [] else [.demotedMains])
    ++ (if result.2.synthesized then [.addedMain] else []))

/-- Whether a control is not shown. -/
def isHiddenInput (d : Document) (n : NodeId) : Bool :=
  d.hasTag "input" n && d.attr? "type" n == some "hidden"

/-- The label that a control suggests. -/
def suggestedLabel (d : Document) (n : NodeId) : String :=
  ((filled? d "name" n).or (filled? d "type" n)).getD "form field"

/-- **Controls without a label get one.** -/
def labelControls : Pass Change := fun d =>
  let targets := labelTargets d
  Pass.sweep (·.elementsByTags controlTags) (fun d n =>
    if isHiddenInput d n || isLabelled d targets n || (filled? d "placeholder" n).isSome then none
    else
      let label := suggestedLabel d n
      some (d.setAttr n "aria-label" label, .labelled label)) d

/-- **Images without a description are marked as decoration.** -/
def markDecorative : Pass Change :=
  Pass.sweep (·.elementsByTag "img") fun d n =>
    if (filled? d "alt" n).isSome then none
    else if d.hasAttr "alt" n && d.attr? "role" n == some "presentation" then none
    else some ((d.setAttr n "alt" "").setAttr n "role" "presentation", .markedDecorative)

/-! ### Roles -/

/-- The elements with the role that they have anyway. -/
def impliedRoles : List (String × String) :=
  [("main", "main"), ("nav", "navigation"), ("footer", "contentinfo")]

/-- **Roles that repeat what the element says are dropped.** -/
def dropRoles : Pass Change :=
  Pass.inTurn (impliedRoles.map fun (tag, role) =>
    Pass.sweep (·.elementsByTag tag) fun d n =>
      if d.attr? "role" n == some role then some (d.removeAttr n "role", .droppedRole tag)
      else none)

/-! ### The whole pass -/

/-- The report of the pass. -/
structure Report where
  initialScore : Int
  optimizedScore : Int
  delta : Int
  logs : List Entry
  deriving DecidableEq, Repr

/-- **The accessibility pass.** -/
def changes (mainId : String) : Pass Change :=
  Pass.inTurn
    [unhide, convertClickables, fixLandmarks mainId, labelControls, markDecorative, dropRoles]

/-- **The document after the accessibility pass, with the report.** -/
def optimize (mainId : String) (d : Document) : Document × Report :=
  let result := changes mainId d
  let before := score d
  let after := score result.1
  (result.1, ⟨before, after, after - before, result.2.map Change.entry⟩)

end Accessibility

end ThemeCompiler
