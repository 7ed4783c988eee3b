/-
**The main landmark in what is printed.**

A page that brings its own frame is printed as a whole, any other one without what is around the
content of its body.  The passes and the check count the main landmarks of the whole tree, so the
printed part has at most one: the one that the improved page has, when it is printed.  It is unless
the leading main landmark of the page is outside of the body of a page without a frame of its own, as
inside of a template in the head.

Main definitions:

* `ThemeCompiler.Document.printRoot`, `ThemeCompiler.Document.printed` — the node whose content is
  printed, and the nodes that are printed.

Main results:

* `ThemeCompiler.Compilation.mem_printed_improve` — a node is printed when it was in the printed part
  before;
* `ThemeCompiler.Compilation.mains_printed` — **when a compiled page has a main landmark in what is
  printed**.
-/

import ThemeCompiler.Proofs.Assets
import ThemeCompiler.Proofs.Attempts
import ThemeCompiler.Proofs.Compilation.Leading
import ThemeCompiler.Proofs.Compilation.Valid

set_option relaxedAutoImplicit false
set_option autoImplicit false

namespace ThemeCompiler

open Document (Licence Run Step)

/-! ### What is printed -/

namespace Document

variable {l : Licence} {d e : Document}

/-- The node whose content is printed: the root of a page with a frame of its own, otherwise the
body, if there is one. -/
def printRoot (d : Document) : NodeId := if d.isFull then Arena.root else d.body?.getD Arena.root

/-- **The nodes that are printed**, in document order. -/
def printed (d : Document) : List NodeId := d.descendants d.printRoot

theorem markup_eq (d : Document) : d.markup = d.innerMarkup d.printRoot := by
  rw [markup, printRoot]
  split <;> rfl

/-- What is printed is the content of the root or of an attached node. -/
theorem printRoot_cases (d : Document) : d.printRoot = Arena.root ∨
    d.isFull = false ∧ ∃ body, d.body? = some body ∧ d.printRoot = body := by
  rw [printRoot]
  cases d.isFull with
  | true => exact Or.inl rfl
  | false =>
      cases d.body? with
      | none => exact Or.inl rfl
      | some body => exact Or.inr ⟨rfl, body, rfl, rfl⟩

theorem WellFormed.mem_attached_of_mem_printed (hd : d.WellFormed) {n : NodeId}
    (hn : n ∈ d.printed) : n ∈ d.attached := by
  rcases d.printRoot_cases with hroot | ⟨_, body, hbody, hroot⟩
  · rwa [printed, hroot] at hn
  · rw [printed, hroot] at hn
    exact hd.mem_attached_of_mem_descendants (mem_of_body? hbody).1 hn

/-- **The single main landmark is the only one that can be printed.** -/
theorem filter_main_printed (hd : d.WellFormed) {m : NodeId} (hm : d.elementsByTag "main" = [m]) :
    d.printed.filter (d.hasTag "main") = if m ∈ d.printed then [m] else [] := by
  have honly : ∀ n, n ∈ d.printed.filter (d.hasTag "main") ↔ n ∈ d.printed ∧ n = m := by
    intro n
    rw [List.mem_filter, hasTag_iff]
    refine and_congr_right fun hn => ?_
    have hmain : n ∈ d.elementsByTag "main" ↔ n ∈ d.attached ∧ d.tag? n = some "main" :=
      mem_elementsByTag
    rw [hm, List.mem_singleton, and_iff_right (hd.mem_attached_of_mem_printed hn)] at hmain
    exact hmain.symm
  have hnodup : d.printed.Nodup := hd.nodes.nodup_descendants _
  split
  · next hprinted =>
      refine List.perm_singleton.1 ((List.perm_ext_iff_of_nodup (hnodup.filter _)
        (List.nodup_singleton m)).2 fun n => ?_)
      rw [honly, List.mem_singleton]
      exact ⟨And.right, fun h => ⟨h ▸ hprinted, h⟩⟩
  · next hprinted =>
      refine List.eq_nil_iff_forall_not_mem.2 fun n hn => ?_
      obtain ⟨hn, rfl⟩ := (honly n).1 hn
      exact hprinted hn

/-! ### What runs do to it -/

theorem Step.isFull_eq (h : Step l d e) : e.isFull = d.isFull := by
  cases h <;> rfl

theorem Run.isFull_eq (h : Run l d e) : e.isFull = d.isFull := by
  induction h with
  | refl => rfl
  | tail _ step ih => exact step.isFull_eq.trans ih

/-- The same node has its content printed before and after a run. -/
theorem Run.printRoot_eq (h : Run l d e) (hd : d.WellFormed)
    (hretags : ∀ r ∈ l.retags, r.1 = "body" ↔ r.2 = "body") : e.printRoot = d.printRoot := by
  rw [printRoot, printRoot, h.isFull_eq, Compilation.body?_run h hd hretags]

/-- **A node that stays is printed when it was in the printed part before.** -/
theorem Run.mem_printed_iff (h : Run l d e) (hd : d.WellFormed)
    (hretags : ∀ r ∈ l.retags, r.1 = "body" ↔ r.2 = "body") {n : NodeId} (hn : n ∈ d.attached)
    (hn' : n ∈ e.attached) : n ∈ e.printed ↔ n ∈ d.printed := by
  rw [printed, printed, h.printRoot_eq hd hretags]
  rcases d.printRoot_cases with hroot | ⟨_, body, hbody, hroot⟩
  · rw [hroot]
    exact iff_of_true hn' hn
  · have hbody' : e.body? = some body := (Compilation.body?_run h hd hretags).trans hbody
    rw [hroot]
    exact (h.keeps hd).mem_descendants_iff (mem_of_body? hbody).1 (mem_of_body? hbody').1 hn hn'

/-- **What a run puts in is printed.** -/
theorem Run.mem_printed_of_added (h : Run l d e) (hd : d.WellFormed)
    (hretags : ∀ r ∈ l.retags, r.1 = "body" ↔ r.2 = "body") {n : NodeId} (hn : n ∈ e.attached)
    (hn' : n ∉ d.attached) : n ∈ e.printed := by
  obtain ⟨body, hbody, hbelow⟩ := h.below_body hd hretags hn hn'
  rw [printed, h.printRoot_eq hd hretags]
  rcases d.printRoot_cases with hroot | ⟨_, other, hother, hroot⟩
  · rw [hroot]
    exact hn
  · rw [hroot, ← Option.some.inj (hbody.symm.trans hother)]
    exact hbelow

end Document

/-! ### Compiled pages -/

/-- A document that passes the check has one main landmark. -/
theorem Validation.exists_main_of_checkDocument {d : Document} (h : checkDocument d = .ok ()) :
    ∃ m, d.elementsByTag "main" = [m] := by
  rw [checkDocument] at h
  split at h
  · exact absurd h (by simp)
  · split at h
    · exact absurd h (by simp)
    · exact List.length_eq_one_iff.1 (by omega)

namespace Compilation

variable {d : Document}

/-- **The main landmark of an improved page is printed** unless the leading one of the page was
outside of the printed part. -/
theorem main_mem_printed_iff (hd : d.WellFormed) (config : Config) (kind : TemplateKind) {m : NodeId}
    (hm : (improve config kind d).1.elementsByTag "main" = [m]) :
    m ∈ (improve config kind d).1.printed ↔ ∀ n ∈ leading? kind d, n ∈ d.printed := by
  have hrun := run_improve hd config kind
  have hmem := (Document.mem_elementsByTag.1 (hm ▸ List.mem_singleton_self m)).1
  rcases mains_improve hd config kind hm with hleading | ⟨hnone, hnew⟩
  · have hold := mem_attached_of_leading? hleading
    rw [hrun.mem_printed_iff hd (by decide) hold hmem, hleading]
    simp
  · rw [hnone]
    exact iff_of_true (hrun.mem_printed_of_added hd (by decide) hmem hnew) (by simp)

/-- A page that has a result has one main landmark, and its markup is in the result. -/
theorem of_finish_eq_ok {config : Config} {request : CompileRequest} {assets : List String}
    {hasHeader hasFooter : Bool} {result : CompilationResult}
    (h : finish config request assets hasHeader hasFooter d = .ok result) :
    result.optimizedHtml = (improve config request.kind d).1.markup ∧
      ∃ m, (improve config request.kind d).1.elementsByTag "main" = [m] := by
  rw [finish] at h
  generalize improve config request.kind d = improved at h ⊢
  obtain ⟨e, reports⟩ := improved
  obtain ⟨_, hcheck, hresult⟩ := bind_eq_ok_iff.1 h
  obtain ⟨_, hdocument, _⟩ := bind_eq_ok_iff.1 (mapError_eq_ok_iff.1 hcheck)
  exact ⟨by rw [← Except.ok.inj hresult], Validation.exists_main_of_checkDocument hdocument⟩

/-- **When a compiled page has a main landmark in what is printed.**  The optimized markup is that of
the content of the body, or of all of a page with a frame of its own.  One main landmark is printed,
unless the leading one of the page is outside of what is printed; then there is none. -/
theorem mains_printed (config : Config) (request : CompileRequest) (result : CompilationResult)
    (h : compileAlone config request = .ok result) :
    let d := Document.parse request.html
    let e := (improve config request.kind (Assets.redirect config.assetUrlBase d).1).1
    result.optimizedHtml = e.innerMarkup e.printRoot ∧
      (e.printed.filter (e.hasTag "main")).length =
        if ∀ n ∈ leading? request.kind d, n ∈ d.printed then 1 else 0 := by
  intro d e
  have hd : d.WellFormed := Document.WellFormed.parse request.html
  have hredirect := Assets.run_redirect config.assetUrlBase d
  have hd' := hredirect.wellFormed hd
  rw [compileAlone_eq Prod.mk.eta.symm] at h
  obtain ⟨hmarkup, m, hm⟩ := of_finish_eq_ok h
  refine ⟨hmarkup.trans (Document.markup_eq e), ?_⟩
  -- redirecting references changes neither the leading landmark nor what is printed
  have hleading := leading?_run hredirect hd rfl (by decide) (by decide) rfl request.kind
  have hiff : m ∈ e.printed ↔ ∀ n ∈ leading? request.kind d, n ∈ d.printed := by
    refine (main_mem_printed_iff hd' config request.kind hm).trans ?_
    rw [hleading]
    refine forall₂_congr fun n hn => hredirect.mem_printed_iff hd (by decide)
      (mem_attached_of_leading? hn) (mem_attached_of_leading? (hleading.trans hn))
  rw [Document.filter_main_printed ((run_improve hd' config request.kind).wellFormed hd') hm]
  by_cases hprinted : m ∈ e.printed
  · rw [if_pos hprinted, if_pos (hiff.1 hprinted), List.length_singleton]
  · rw [if_neg hprinted, if_neg (mt hiff.2 hprinted), List.length_nil]

/-- The main landmark of a template in the head is not printed, and no other one is made. -/
theorem mains_printed_template :
    let request := CompileRequest.new "<template><main>x</main></template><p>a</p>" "T" .fragment
    let d := Document.parse request.html
    let e := (improve Config.default .fragment (Assets.redirect Config.default.assetUrlBase d).1).1
    (∃ result, compileAlone Config.default request = .ok result ∧
      result.optimizedHtml = e.innerMarkup e.printRoot) ∧
        (e.printed.filter (e.hasTag "main")).length = 0 := by
  intro request d e
  have hok : (compileAlone Config.default request).isOk = true := by decide +kernel
  cases h : compileAlone Config.default request with
  | error error => rw [h] at hok; exact nomatch hok
  | ok result =>
      obtain ⟨hmarkup, hcount⟩ := mains_printed Config.default request result h
      refine ⟨⟨result, rfl, hmarkup⟩, hcount.trans (if_neg ?_)⟩
      decide +kernel

end Compilation

end ThemeCompiler
