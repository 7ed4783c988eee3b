/-
**The search pass.**

One heading of the first level, no skipped level, no redundant wrappers, no links without a
destination, divisions with a telling class as specialised elements, and images described by the
nearest heading.  Each change is recorded by its cause; an entry of the report is its wording.

Main definitions:

* `ThemeCompiler.Seo.score` — how well the headings are ordered;
* `ThemeCompiler.Seo.Change`, `ThemeCompiler.Seo.Change.entry` — a change, its wording;
* `ThemeCompiler.Seo.dedupeH1`, `ThemeCompiler.Seo.promoteH2`, `ThemeCompiler.Seo.repairSkips`,
  `ThemeCompiler.Seo.prune`, `ThemeCompiler.Seo.fixAnchors`, `ThemeCompiler.Seo.upgradeTags`,
  `ThemeCompiler.Seo.inferAlts` — the parts of the pass;
* `ThemeCompiler.Seo.changes`, `ThemeCompiler.Seo.optimize` — the whole pass, and with its report.
-/

import ThemeCompiler.Document.Sweep
import ThemeCompiler.Landmarks
import ThemeCompiler.Rules

set_option relaxedAutoImplicit false
set_option autoImplicit false

namespace ThemeCompiler

namespace Seo

/-! ### Headings and their score -/

/-- The tags of the headings. -/
def headingTags : List String := ["h1", "h2", "h3", "h4", "h5", "h6"]

/-- The tag of a heading of a level. -/
def headingTag (level : Nat) : String := "h" ++ toString level

/-- The level of a heading. -/
def level? : String → Option Nat
  | "h1" => some 1
  | "h2" => some 2
  | "h3" => some 3
  | "h4" => some 4
  | "h5" => some 5
  | "h6" => some 6
  | _ => none

/-- **The attached headings with their levels**, in document order. -/
def headings (d : Document) : List (NodeId × Nat) :=
  (d.elementsByTags headingTags).filterMap fun n => ((d.tag? n).bind level?).map (n, ·)

/-- The first heading that skips a level, with its level and the level it may have. -/
def firstSkip : List (NodeId × Nat) → Option (NodeId × Nat × Nat)
  | (_, a) :: (n, b) :: rest =>
      if a + 1 < b then some (n, b, a + 1) else firstSkip ((n, b) :: rest)
  | _ => none

/-- **The score of a document**: 15 for a single heading of the first level, 10 when there is one
and no level is skipped. -/
def score (d : Document) : Int :=
  let h1s := (d.elementsByTag "h1").length
  (if h1s = 1 then 15 else 0)
    + (if (firstSkip (headings d)).isNone && 0 < h1s then 10 else 0)

/-! ### Changes -/

/-- **A change made by the pass.** -/
inductive Change where
  | demotedH1
  | promotedH2
  | closedSkip (before after : Nat)
  | prunedWrappers (count : Nat)
  | madeButton
  | upgradedTag (classes rule tag : String)
  | inferredAlt (alt : String)
  deriving DecidableEq, Repr

/-- An entry of the report. -/
structure Entry where
  issue : String
  before : String
  after : String
  reason : String
  impact : Nat
  deriving DecidableEq, Repr

/-- **The wording of a change.** -/
def Change.entry : Change → Entry
  | .demotedH1 => ⟨"Heading Integrity", "excess h1", "h2", "Deduplicating H1.", 5⟩
  | .promotedH2 => ⟨"Heading Integrity", "no h1", "h1", "Promoting first H2.", 10⟩
  | .closedSkip before after =>
      ⟨"Hierarchy Fix", headingTag before, headingTag after, "Fixing skipped level.", 5⟩
  | .prunedWrappers count =>
      ⟨"Structural Pruning", toString count ++ " redundant div wrappers", "flattened",
        "Removing wrappers that carry no attributes or text.", 2⟩
  | .madeButton =>
      ⟨"Anchor Integrity", "a[href=\"#\"]", "button[type=\"button\"]",
        "Anchors without a destination are buttons.", 5⟩
  | .upgradedTag classes rule tag =>
      ⟨"Semantic Upgrade", "div", tag,
        "Structural class ." ++ classes ++ " implies specialized tag (" ++ rule ++ " rule).", 5⟩
  | .inferredAlt alt =>
      ⟨"Image SEO", "missing alt", "alt=\"" ++ alt ++ "\"", "Contextual alt.", 5⟩

/-! ### Headings -/

/-- Headings of the first level after the first one go one level down. -/
def dedupeH1 : Pass Change :=
  Pass.sweep (fun d => (d.elementsByTag "h1").drop 1) fun d n =>
    some (d.rename n "h2", .demotedH1)

/-- Without a heading of the first level the first one of the second level goes up. -/
def promoteH2 : Pass Change := fun d =>
  match d.elementsByTag "h1", d.elementsByTag "h2" with
  | [], n :: _ => (d.rename n "h1", [.promotedH2])
  | _, _ => (d, [])

/-- The first heading that skips a level is moved up, at most `cap` times. -/
def repairWithin : Nat → Pass Change
  | 0, d => (d, [])
  | cap + 1, d =>
      match firstSkip (headings d) with
      | none => (d, [])
      | some (n, before, after) =>
          let more := repairWithin cap (d.rename n (headingTag after))
          (more.1, .closedSkip before after :: more.2)

/-- **Headings that skip a level are moved up**, one after the other. -/
def repairSkips : Pass Change := fun d =>
  repairWithin (max 1 (6 * (d.elementsByTags headingTags).length)) d

/-! ### Wrappers, links and divisions -/

/-- Redundant wrappers go. -/
def prune (cap : Nat) : Pass Change := fun d =>
  let flat := Landmarks.flatten cap d
  (flat.1, if flat.2 = 0 then [] else [.prunedWrappers flat.2])

/-- The attributes that a button does not take over from a link. -/
def linkAttrs : List String := ["href", "target", "rel", "class", "type"]

/-- The attributes of a button that is made from a link. -/
def buttonAttrs (d : Document) (n : NodeId) : List Html.Attribute :=
  [⟨"type", "button"⟩] ++ ((d.attr? "class" n).map (Html.Attribute.mk "class")).toList
    ++ (d.attrs n).filter fun a => !linkAttrs.contains a.name

/-- **Links to nowhere become buttons.** -/
def fixAnchors : Pass Change :=
  Pass.sweep (·.elementsByTag "a") fun d n =>
    if d.attr? "href" n == some "#" then
      some ((d.rename n "button").setAttrs n (buttonAttrs d n), .madeButton)
    else none

/-- **Divisions with a telling class become specialised elements.**  No second main landmark is
made. -/
def upgradeTags : Pass Change :=
  Pass.sweep (·.elementsByTag "div") fun d n =>
    let facts := Facts.ofElement "div" (d.classes n)
    match Rule.firstOf Rule.upgrades facts with
    | none => none
    | some rule =>
        if rule.outcome == "main" && !(d.elementsByTag "main").isEmpty then none
        else
          some (d.rename n rule.outcome, .upgradedTag facts.classes rule.name rule.outcome)

/-! ### Images -/

/-- The text of the heading that is nearest to an image. -/
def nearbyHeading (d : Document) (n : NodeId) : String :=
  match d.ancestor ["section", "div", "header", "main"] n with
  | none => ""
  | some scope =>
      match d.findBelow scope (d.hasTagIn ["h1", "h2", "h3", "h4"]) with
      | none => ""
      | some heading => Text.trim (d.textContent heading)

/-- **Images without a description get the text of a nearby heading.** -/
def inferAlts : Pass Change :=
  Pass.sweep (·.elementsByTag "img") fun d n =>
    if d.hasAttr "alt" n then none
    else
      let alt := nearbyHeading d n
      if alt.isEmpty then none else some (d.setAttr n "alt" alt, .inferredAlt alt)

/-! ### The whole pass -/

/-- The report of the pass. -/
structure Report where
  initialScore : Int
  optimizedScore : Int
  delta : Int
  logs : List Entry
  deriving DecidableEq, Repr

/-- **The search pass.** -/
def changes (pruneIterations : Nat) : Pass Change :=
  Pass.inTurn
    [dedupeH1, promoteH2, repairSkips, prune pruneIterations, fixAnchors, upgradeTags, inferAlts]

/-- **The document after the search pass, with the report.** -/
def optimize (pruneIterations : Nat) (d : Document) : Document × Report :=
  let result := changes pruneIterations d
  let before := score d
  let after := score result.1
  (result.1, ⟨before, after, after - before, result.2.map Change.entry⟩)

end Seo

end ThemeCompiler
