/-
**Requests, settings and reports are taken back.**

Their members are texts, names, numbers of a fixed size and lists of such records.  Texts and names
are always read from what is written for them; a number that was read is small enough to be read
again.

Main results:

* `ThemeCompiler.CompileRequest.roundTrips`, `ThemeCompiler.Config.roundTrips` — requests and
  settings;
* `ThemeCompiler.Seo.Report.roundTrips`, `ThemeCompiler.Accessibility.Report.roundTrips` — reports.
-/

import ThemeCompiler.Proofs.Json.Records
import ThemeCompiler.Wire.Reports
import ThemeCompiler.Wire.Request
import ThemeCompiler.Wire.Settings

set_option relaxedAutoImplicit false
set_option autoImplicit false

namespace ThemeCompiler

open Json (ReadsBack RoundTrips Slot Fills)

/-! ### Requests -/

namespace CompileRequest

theorem nodup_keys (depth : Nat) : ((slots depth).map (·.key)).Nodup :=
  (by decide : ["html", "templateName", "templateSlug", "kind", "projectKey"].Nodup)

theorem named_kind (k : TemplateKind) : Json.named kindNames k.name = .ok k := by
  cases k <;> rfl

theorem readsBack_projectKey (p : Option String) :
    ReadsBack (Json.orNone Json.text) (Json.orNull .string p) p := by
  cases p with
  | none => exact ⟨trivial, rfl⟩
  | some s => exact (Json.readsBack_text s).orNone (by simp)

/-- **Requests are taken back.** -/
theorem roundTrips (depth : Nat) : RoundTrips (fun _ => True) (decoder depth) toJson := by
  intro o r ho h _
  obtain ⟨hdepth, -⟩ := Json.of_record (P := fun _ _ => True) trivial
    (fun _ _ _ _ _ _ _ _ _ => trivial) ho h
  exact Fills.readsBack hdepth (nodup_keys _) <|
    .member (Json.readsBack_text r.html) <| .member (Json.readsBack_text r.templateName) <|
    .member (Json.readsBack_text r.templateSlug) <|
    .member (Json.readsBack_oneOf _ (named_kind r.kind)) <|
    .member (readsBack_projectKey r.projectKey) <| .done r

end CompileRequest

/-! ### Settings -/

namespace Config

/-- The numbers of settings that can be written are small enough to be read. -/
private structure Small (c : Config) : Prop where
  flattenIterations : ReadsBack (Json.natural 64) (.nat c.flattenIterations) c.flattenIterations
  pruneIterations : ReadsBack (Json.natural 64) (.nat c.pruneIterations) c.pruneIterations
  maxExtractionDepth :
    ReadsBack (Json.natural 64) (.nat c.maxExtractionDepth) c.maxExtractionDepth

private theorem small_default : Small default where
  flattenIterations := Json.readsBack_nat (by decide) (by decide)
  pruneIterations := Json.readsBack_nat (by decide) (by decide)
  maxExtractionDepth := Json.readsBack_nat (by decide) (by decide)

private theorem keeps_small : ∀ slot ∈ slots, slot.Keeps fun _ => Small := by
  have hnat := Json.roundTrips_natural 64 (by decide)
  simp only [slots, List.forall_mem_cons]
  exact ⟨Slot.keeps fun _ o n _ ho hn h => { h with flattenIterations := hnat o n ho hn trivial },
    Slot.keeps fun _ o n _ ho hn h => { h with pruneIterations := hnat o n ho hn trivial },
    Slot.keeps fun _ o n _ ho hn h => { h with maxExtractionDepth := hnat o n ho hn trivial },
    Slot.keeps fun _ _ _ _ _ _ h => { h with }, Slot.keeps fun _ _ _ _ _ _ h => { h with },
    by simp⟩

/-- **Settings are taken back.** -/
theorem roundTrips (depth : Nat) : RoundTrips (fun _ => True) (decoder depth) toJson := by
  intro o c ho h _
  obtain ⟨hdepth, _, hsmall, -⟩ := Json.of_record small_default keeps_small ho h
  exact Fills.readsBack hdepth (by decide) <|
    .member hsmall.flattenIterations <| .member hsmall.pruneIterations <|
    .member hsmall.maxExtractionDepth <| .member (Json.readsBack_text c.mainLandmarkId) <|
    .member (Json.readsBack_text c.assetUrlBase) <| .done c

end Config

/-! ### Reports -/

namespace Seo

namespace Entry

private theorem keeps_impact : ∀ slot ∈ slots, slot.Keeps fun _ e =>
    ReadsBack (Json.natural 32) (.nat e.impact) e.impact := by
  simp only [slots, List.forall_mem_cons]
  exact ⟨Slot.keeps fun _ _ _ _ _ _ h => h, Slot.keeps fun _ _ _ _ _ _ h => h,
    Slot.keeps fun _ _ _ _ _ _ h => h, Slot.keeps fun _ _ _ _ _ _ h => h,
    Slot.keeps fun _ o n _ ho hn _ => Json.roundTrips_natural 32 (by decide) o n ho hn trivial,
    by simp⟩

/-- Entries of a report are taken back. -/
theorem roundTrips (depth : Nat) : RoundTrips (fun _ => True) (decoder depth) toJson := by
  intro o e ho h _
  obtain ⟨hdepth, _, himpact, -⟩ :=
    Json.of_record (Json.readsBack_nat (by decide) (by decide)) keeps_impact ho h
  exact Fills.readsBack hdepth (by decide) <|
    .member (Json.readsBack_text e.issue) <| .member (Json.readsBack_text e.before) <|
    .member (Json.readsBack_text e.after) <| .member (Json.readsBack_text e.reason) <|
    .member himpact <| .done e

end Entry

namespace Report

theorem nodup_keys (depth : Nat) : ((slots depth).map (·.key)).Nodup :=
  (by decide : ["initial_score", "optimized_score", "delta", "logs"].Nodup)

/-- What is known of a report that was read. -/
private structure Read (depth : Nat) (r : Report) : Prop where
  initialScore : ReadsBack (Json.signed 32) (.int r.initialScore) r.initialScore
  optimizedScore : ReadsBack (Json.signed 32) (.int r.optimizedScore) r.optimizedScore
  delta : ReadsBack (Json.signed 32) (.int r.delta) r.delta
  logs : ReadsBack (Json.listOf depth (Entry.decoder (depth - 1)))
    (.array (r.logs.map Entry.toJson)) r.logs

private theorem read_blank {depth : Nat} (h : 2 ≤ depth) : Read depth ⟨0, 0, 0, []⟩ where
  initialScore := Json.readsBack_signed (by decide) (by decide) (by decide)
  optimizedScore := Json.readsBack_signed (by decide) (by decide) (by decide)
  delta := Json.readsBack_signed (by decide) (by decide) (by decide)
  logs := Json.readsBack_nil h _

private theorem keeps_read (depth : Nat) : ∀ slot ∈ slots depth, slot.Keeps fun _ => Read depth := by
  have hint := Json.roundTrips_signed 32 (by decide)
  have hlogs := (Entry.roundTrips (depth - 1)).listOf depth
  simp only [slots, List.forall_mem_cons]
  exact ⟨Slot.keeps fun _ o n _ ho hn h => { h with initialScore := hint o n ho hn trivial },
    Slot.keeps fun _ o n _ ho hn h => { h with optimizedScore := hint o n ho hn trivial },
    Slot.keeps fun _ o n _ ho hn h => { h with delta := hint o n ho hn trivial },
    Slot.keeps fun _ o logs _ ho hl h => { h with logs := hlogs o logs ho hl (by simp) },
    by simp⟩

/-- **Reports of the search pass are taken back.** -/
theorem roundTrips {depth : Nat} (hdepth : 3 ≤ depth) :
    RoundTrips (fun _ => True) (decoder depth) toJson := by
  intro o r ho h _
  obtain ⟨-, _, hread, -⟩ :=
    Json.of_record (read_blank (by omega)) (keeps_read (depth - 1)) ho h
  exact Fills.readsBack (by omega) (nodup_keys _) <|
    .member hread.initialScore <| .member hread.optimizedScore <| .member hread.delta <|
    .member hread.logs <| .done r

end Report

end Seo

namespace Accessibility

namespace Entry

private theorem keeps_impact : ∀ slot ∈ slots, slot.Keeps fun _ e =>
    ReadsBack (Json.natural 32) (.nat e.impact) e.impact := by
  simp only [slots, List.forall_mem_cons]
  exact ⟨Slot.keeps fun _ _ _ _ _ _ h => h, Slot.keeps fun _ _ _ _ _ _ h => h,
    Slot.keeps fun _ o n _ ho hn _ => Json.roundTrips_natural 32 (by decide) o n ho hn trivial,
    by simp⟩

/-- Entries of a report are taken back. -/
theorem roundTrips (depth : Nat) : RoundTrips (fun _ => True) (decoder depth) toJson := by
  intro o e ho h _
  obtain ⟨hdepth, _, himpact, -⟩ :=
    Json.of_record (Json.readsBack_nat (by decide) (by decide)) keeps_impact ho h
  exact Fills.readsBack hdepth (by decide) <|
    .member (Json.readsBack_text e.issue) <| .member (Json.readsBack_text e.description) <|
    .member himpact <| .done e

end Entry

namespace Report

theorem nodup_keys (depth : Nat) : ((slots depth).map (·.key)).Nodup :=
  (by decide : ["initial_score", "optimized_score", "delta", "logs"].Nodup)

/-- What is known of a report that was read. -/
private structure Read (depth : Nat) (r : Report) : Prop where
  initialScore : ReadsBack (Json.signed 32) (.int r.initialScore) r.initialScore
  optimizedScore : ReadsBack (Json.signed 32) (.int r.optimizedScore) r.optimizedScore
  delta : ReadsBack (Json.signed 32) (.int r.delta) r.delta
  logs : ReadsBack (Json.listOf depth (Entry.decoder (depth - 1)))
    (.array (r.logs.map Entry.toJson)) r.logs

private theorem read_blank {depth : Nat} (h : 2 ≤ depth) : Read depth ⟨0, 0, 0, []⟩ where
  initialScore := Json.readsBack_signed (by decide) (by decide) (by decide)
  optimizedScore := Json.readsBack_signed (by decide) (by decide) (by decide)
  delta := Json.readsBack_signed (by decide) (by decide) (by decide)
  logs := Json.readsBack_nil h _

private theorem keeps_read (depth : Nat) : ∀ slot ∈ slots depth, slot.Keeps fun _ => Read depth := by
  have hint := Json.roundTrips_signed 32 (by decide)
  have hlogs := (Entry.roundTrips (depth - 1)).listOf depth
  simp only [slots, List.forall_mem_cons]
  exact ⟨Slot.keeps fun _ o n _ ho hn h => { h with initialScore := hint o n ho hn trivial },
    Slot.keeps fun _ o n _ ho hn h => { h with optimizedScore := hint o n ho hn trivial },
    Slot.keeps fun _ o n _ ho hn h => { h with delta := hint o n ho hn trivial },
    Slot.keeps fun _ o logs _ ho hl h => { h with logs := hlogs o logs ho hl (by simp) },
    by simp⟩

/-- **Reports of the accessibility pass are taken back.** -/
theorem roundTrips {depth : Nat} (hdepth : 3 ≤ depth) :
    RoundTrips (fun _ => True) (decoder depth) toJson := by
  intro o r ho h _
  obtain ⟨-, _, hread, -⟩ :=
    Json.of_record (read_blank (by omega)) (keeps_read (depth - 1)) ho h
  exact Fills.readsBack (by omega) (nodup_keys _) <|
    .member hread.initialScore <| .member hread.optimizedScore <| .member hread.delta <|
    .member hread.logs <| .done r

end Report

end Accessibility

end ThemeCompiler
