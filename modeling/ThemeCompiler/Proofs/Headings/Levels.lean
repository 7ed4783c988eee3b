/-
**Levels of headings.**

What the search pass makes of the levels of the headings of a page, said of lists of numbers: a
second heading of the first level goes down, without one the first of the second level goes up, and
a level is at most one more than the one before it.  Moving up the first heading that skips a level,
again and again, comes to the same as one such pass from left to right.

Main definitions:

* `ThemeCompiler.Seo.dedupeLevels`, `ThemeCompiler.Seo.promoteLevels`, `ThemeCompiler.Seo.clamp` —
  the three parts, and `ThemeCompiler.Seo.settledLevels` — all of them;
* `ThemeCompiler.Seo.changed` — the levels that the last part changes, with what becomes of them;
* `ThemeCompiler.Seo.relevel` — some headings get another level.

Main results:

* `ThemeCompiler.Seo.clamp_relevel` — **moving up the first heading that skips a level** does one of
  the changes and leaves the others;
* `ThemeCompiler.Seo.firstSkip_eq_none_iff` — no level is skipped where nothing is to change;
* `ThemeCompiler.Seo.count_settledLevels` — how many headings of the first level there are in the end.
-/

import ThemeCompiler.Proofs.Seo

set_option relaxedAutoImplicit false
set_option autoImplicit false

namespace ThemeCompiler

namespace Seo

/-! ### The levels in the end -/

/-- Levels with every 1 after the first one replaced by 2. -/
def dedupeLevels : List Nat → List Nat
  | [] => []
  | 1 :: rest => 1 :: rest.map fun k => if k = 1 then 2 else k
  | k :: rest => k :: dedupeLevels rest

/-- Levels with the first 2 replaced by 1, if there is no 1. -/
def promoteLevels (levels : List Nat) : List Nat :=
  if 1 ∈ levels then levels else levels.replace 2 1

/-- Levels that are at most one more than the one before them, the first one than `previous`. -/
def clampFrom (previous : Nat) : List Nat → List Nat
  | [] => []
  | k :: rest => min k (previous + 1) :: clampFrom (min k (previous + 1)) rest

/-- **Levels without a skip**: from left to right each is at most one more than what became of the
one before it. -/
def clamp : List Nat → List Nat
  | [] => []
  | k :: rest => k :: clampFrom k rest

/-- **The levels in the end.** -/
def settledLevels (levels : List Nat) : List Nat := clamp (promoteLevels (dedupeLevels levels))

/-- The levels that are clamped, with what becomes of them. -/
def changed (levels : List Nat) : List (Nat × Nat) :=
  (levels.zip (clamp levels)).filter fun p => p.1 != p.2

/-! ### Clamping -/

theorem clamp_cons_cons (a b : Nat) (rest : List Nat) :
    clamp (a :: b :: rest) = a :: clamp (min b (a + 1) :: rest) := rfl

theorem clamp_of_le {a b : Nat} (h : b ≤ a + 1) (rest : List Nat) :
    clamp (a :: b :: rest) = a :: clamp (b :: rest) := by
  rw [clamp_cons_cons, Nat.min_eq_left h]

theorem clamp_of_lt {a b : Nat} (h : a + 1 < b) (rest : List Nat) :
    clamp (a :: b :: rest) = a :: clamp ((a + 1) :: rest) := by
  rw [clamp_cons_cons, Nat.min_eq_right h.le]

theorem changed_of_le {a b : Nat} (h : b ≤ a + 1) (rest : List Nat) :
    changed (a :: b :: rest) = changed (b :: rest) := by
  rw [changed, clamp_of_le h, List.zip_cons_cons, List.filter_cons_of_neg (by simp), changed]

theorem changed_of_lt {a b : Nat} (h : a + 1 < b) (rest : List Nat) :
    changed (a :: b :: rest) = (b, a + 1) :: changed ((a + 1) :: rest) := by
  have hne : ((b, a + 1).1 != (b, a + 1).2) = true := by simp; omega
  rw [changed, clamp_of_lt h, clamp, changed, clamp, List.zip_cons_cons, List.zip_cons_cons,
    List.zip_cons_cons, List.filter_cons_of_neg (by simp),
    List.filter_cons_of_pos (p := fun p : Nat × Nat => p.1 != p.2) hne,
    List.filter_cons_of_neg (by simp)]

theorem length_changed_le (levels : List Nat) : (changed levels).length ≤ levels.length := by
  refine (List.length_filter_le ..).trans ?_
  rw [List.length_zip]
  exact Nat.min_le_left ..

theorem isChain_clamp (levels : List Nat) : (clamp levels).IsChain fun a b => b ≤ a + 1 := by
  cases levels with
  | nil => exact List.IsChain.nil
  | cons a rest =>
      induction rest generalizing a with
      | nil => exact List.IsChain.singleton a
      | cons b rest ih =>
          rw [clamp_cons_cons]
          exact List.isChain_cons_cons.2 ⟨Nat.min_le_right .., ih _⟩

theorem clamp_eq_self {levels : List Nat} (h : levels.IsChain fun a b => b ≤ a + 1) :
    clamp levels = levels := by
  induction h with
  | nil => rfl
  | singleton a => rfl
  | cons_cons hab _ ih => rw [clamp_of_le hab, ih]

/-- Clamping goes below no bound of the levels. -/
theorem le_clamp {levels : List Nat} {m : Nat} (h : ∀ k ∈ levels, m ≤ k) :
    ∀ k ∈ clamp levels, m ≤ k := by
  cases levels with
  | nil => exact h
  | cons a rest =>
      induction rest generalizing a with
      | nil => exact h
      | cons b rest ih =>
          have ha : m ≤ a := h a (by simp)
          have hb : m ≤ b := h b (by simp)
          rw [clamp_cons_cons]
          intro k hk
          rcases List.mem_cons.1 hk with rfl | hk
          · exact ha
          · refine ih _ (fun j hj => ?_) k hk
            rcases List.mem_cons.1 hj with rfl | hj
            · omega
            · exact h j (by simp [hj])

/-- A level of 1 comes from a level of 1. -/
theorem count_one_clamp {levels : List Nat} (h : ∀ k ∈ levels, 1 ≤ k) :
    (clamp levels).count 1 = levels.count 1 := by
  cases levels with
  | nil => rfl
  | cons a rest =>
      induction rest generalizing a with
      | nil => rfl
      | cons b rest ih =>
          have ha : 1 ≤ a := h a (by simp)
          have hb : 1 ≤ b := h b (by simp)
          have hmin : min b (a + 1) = 1 ↔ b = 1 := by omega
          rw [clamp_cons_cons, List.count_cons, ih, List.count_cons (l := b :: rest),
            List.count_cons, List.count_cons]
          · simp only [beq_iff_eq, hmin]
          · intro k hk
            rcases List.mem_cons.1 hk with rfl | hk
            · omega
            · exact h k (by simp [hk])

/-! ### Skips -/

theorem firstSkip_cons_cons (p q : NodeId × Nat) (rest : List (NodeId × Nat)) :
    firstSkip (p :: q :: rest) =
      if p.2 + 1 < q.2 then some (q.1, q.2, p.2 + 1) else firstSkip (q :: rest) := rfl

/-- **No level is skipped** where every level is at most one more than the one before it. -/
theorem firstSkip_eq_none_iff {list : List (NodeId × Nat)} :
    firstSkip list = none ↔ (list.map Prod.snd).IsChain fun a b => b ≤ a + 1 := by
  induction list with
  | nil => simp [firstSkip]
  | cons p list ih =>
      cases list with
      | nil => simp [firstSkip]
      | cons q rest =>
          rw [firstSkip_cons_cons, List.map_cons, List.map_cons, List.isChain_cons_cons,
            ← List.map_cons (f := Prod.snd), ← ih]
          by_cases h : p.2 + 1 < q.2
          · simp [h]
          · simp [h, Nat.le_of_not_lt h]

theorem mem_of_firstSkip {p : NodeId × Nat} {rest : List (NodeId × Nat)} {n : NodeId} {b k : Nat}
    (h : firstSkip (p :: rest) = some (n, b, k)) : (n, b) ∈ rest := by
  obtain ⟨before, m, after, heq, _, _⟩ := firstSkip_eq_some h
  cases before with
  | nil =>
      rw [List.nil_append] at heq
      rw [(List.cons.inj heq).2]
      exact List.mem_cons_self
  | cons first before =>
      rw [List.cons_append] at heq
      rw [(List.cons.inj heq).2]
      simp

/-! ### Other levels for some headings -/

/-- Headings some of which get another level. -/
def relevel (ids : List NodeId) (k : Nat) (list : List (NodeId × Nat)) : List (NodeId × Nat) :=
  list.map fun p => if p.1 ∈ ids then (p.1, k) else p

theorem relevel_cons (ids : List NodeId) (k : Nat) (p : NodeId × Nat) (rest : List (NodeId × Nat)) :
    relevel ids k (p :: rest) = (if p.1 ∈ ids then (p.1, k) else p) :: relevel ids k rest := rfl

theorem map_fst_relevel (ids : List NodeId) (k : Nat) (list : List (NodeId × Nat)) :
    (relevel ids k list).map Prod.fst = list.map Prod.fst := by
  rw [relevel, List.map_map]
  refine List.map_congr_left fun p _ => ?_
  by_cases h : p.1 ∈ ids <;> simp [h]

theorem relevel_eq_self {ids : List NodeId} {k : Nat} {list : List (NodeId × Nat)}
    (h : ∀ n ∈ ids, n ∉ list.map Prod.fst) : relevel ids k list = list := by
  refine (List.map_congr_left fun p hp => ?_).trans (List.map_id list)
  rw [if_neg fun hid => h p.1 hid (List.mem_map_of_mem hp), id]

/-- **Moving up the first heading that skips a level** comes nearer to the levels in the end. -/
theorem clamp_relevel {list : List (NodeId × Nat)} (hnodup : (list.map Prod.fst).Nodup)
    {n : NodeId} {b k : Nat} (h : firstSkip list = some (n, b, k)) :
    clamp ((relevel [n] k list).map Prod.snd) = clamp (list.map Prod.snd) ∧
      changed (list.map Prod.snd) = (b, k) :: changed ((relevel [n] k list).map Prod.snd) := by
  induction list with
  | nil => exact absurd h (by simp [firstSkip])
  | cons p list ih =>
      have hmem := mem_of_firstSkip h
      obtain ⟨hnot, hrest⟩ := List.nodup_cons.1 hnodup
      have hpn : p.1 ∉ [n] := by
        rw [List.mem_singleton]
        rintro rfl
        exact hnot (List.mem_map.2 ⟨_, hmem, rfl⟩)
      cases list with
      | nil => exact absurd hmem (by simp)
      | cons q rest =>
          obtain ⟨hqnot, _⟩ := List.nodup_cons.1 hrest
          rw [firstSkip_cons_cons] at h
          by_cases hskip : p.2 + 1 < q.2
          · -- the skip is here: the heading moves up to the level that the clamp would give it
            rw [if_pos hskip] at h
            cases h
            have hself : relevel [q.1] (p.2 + 1) rest = rest := relevel_eq_self (by simpa using hqnot)
            rw [relevel_cons, relevel_cons, if_neg hpn, if_pos (by simp), hself]
            simp only [List.map_cons]
            rw [clamp_of_lt hskip, clamp_of_le (Nat.le_refl _), changed_of_lt hskip,
              changed_of_le (Nat.le_refl _)]
            exact ⟨rfl, rfl⟩
          · -- the skip is further on, and the heading that moves is not this one either
            rw [if_neg hskip] at h
            have hqn : q.1 ∉ [n] := by
              rw [List.mem_singleton]
              rintro rfl
              exact hqnot (List.mem_map.2 ⟨_, mem_of_firstSkip h, rfl⟩)
            obtain ⟨hclamp, hchanged⟩ := ih hrest h
            rw [relevel_cons, if_neg hqn] at hclamp hchanged
            rw [relevel_cons, relevel_cons, if_neg hpn, if_neg hqn]
            simp only [List.map_cons] at hclamp hchanged ⊢
            have hle := Nat.le_of_not_lt hskip
            rw [clamp_of_le hle, clamp_of_le hle, changed_of_le hle, changed_of_le hle, hclamp]
            exact ⟨rfl, hchanged⟩

/-- Nothing is to change where no level is skipped. -/
theorem changed_eq_nil {list : List (NodeId × Nat)} (h : firstSkip list = none) :
    clamp (list.map Prod.snd) = list.map Prod.snd ∧ changed (list.map Prod.snd) = [] := by
  have hself := clamp_eq_self (firstSkip_eq_none_iff.1 h)
  refine ⟨hself, ?_⟩
  have hzip : ∀ levels : List Nat, (levels.zip levels).filter (fun p => p.1 != p.2) = [] := by
    intro levels
    induction levels with
    | nil => rfl
    | cons k rest ih => rw [List.zip_cons_cons, List.filter_cons_of_neg (by simp), ih]
  rw [changed, hself, hzip]

/-! ### The first level -/

theorem dedupeLevels_cons {k : Nat} (h : k ≠ 1) (rest : List Nat) :
    dedupeLevels (k :: rest) = k :: dedupeLevels rest := by
  rw [dedupeLevels]
  exact h

theorem dedupeLevels_eq_self {levels : List Nat} (h : 1 ∉ levels) : dedupeLevels levels = levels := by
  induction levels with
  | nil => rfl
  | cons k rest ih =>
      have hk : k ≠ 1 := fun hk => h (hk ▸ List.mem_cons_self)
      rw [dedupeLevels_cons hk, ih fun hmem => h (List.mem_cons_of_mem k hmem)]

/-- One heading of the first level is left. -/
theorem count_dedupeLevels {levels : List Nat} (h : 1 ∈ levels) :
    (dedupeLevels levels).count 1 = 1 := by
  induction levels with
  | nil => exact absurd h (by simp)
  | cons k rest ih =>
      by_cases hk : k = 1
      · have hnone : (rest.map fun k => if k = 1 then 2 else k).count 1 = 0 := by
          refine List.count_eq_zero.2 fun hmem => ?_
          obtain ⟨j, _, hj⟩ := List.mem_map.1 hmem
          split at hj <;> omega
        rw [hk, dedupeLevels, List.count_cons_self, hnone]
      · rw [dedupeLevels_cons hk, List.count_cons_of_ne hk]
        exact ih ((List.mem_cons.1 h).resolve_left (Ne.symm hk))

theorem one_le_dedupeLevels {levels : List Nat} (h : ∀ k ∈ levels, 1 ≤ k) :
    ∀ k ∈ dedupeLevels levels, 1 ≤ k := by
  induction levels with
  | nil => exact h
  | cons k rest ih =>
      have hrest : ∀ j ∈ rest, 1 ≤ j := fun j hj => h j (List.mem_cons_of_mem k hj)
      by_cases hk : k = 1
      · rw [hk, dedupeLevels]
        intro j hj
        rcases List.mem_cons.1 hj with rfl | hj
        · exact Nat.le_refl 1
        · obtain ⟨i, hi, rfl⟩ := List.mem_map.1 hj
          split
          · omega
          · exact hrest i hi
      · rw [dedupeLevels_cons hk]
        intro j hj
        rcases List.mem_cons.1 hj with rfl | hj
        · exact h j List.mem_cons_self
        · exact ih hrest j hj

/-- The first 2 becomes the only 1. -/
theorem count_replace {levels : List Nat} (h : 1 ∉ levels) :
    (levels.replace 2 1).count 1 = if 2 ∈ levels then 1 else 0 := by
  induction levels with
  | nil => rfl
  | cons k rest ih =>
      have hrest : 1 ∉ rest := fun hmem => h (List.mem_cons_of_mem k hmem)
      have hk : k ≠ 1 := fun hk => h (hk ▸ List.mem_cons_self)
      rw [List.replace_cons]
      by_cases h₂ : k = 2
      · simp [h₂, List.count_eq_zero.2 hrest]
      · have hne : (2 == k) = false := by simpa using Ne.symm h₂
        simp [hne, hk, ih hrest, Ne.symm h₂]

theorem mem_of_mem_replace {levels : List Nat} {a b k : Nat} (h : k ∈ levels.replace a b) :
    k ∈ levels ∨ k = b := by
  induction levels with
  | nil => exact absurd h (by simp)
  | cons j rest ih =>
      rw [List.replace_cons] at h
      split at h
      · rcases List.mem_cons.1 h with rfl | h
        · exact Or.inr rfl
        · exact Or.inl (List.mem_cons_of_mem j h)
      · rcases List.mem_cons.1 h with rfl | h
        · exact Or.inl List.mem_cons_self
        · exact (ih h).imp_left (List.mem_cons_of_mem j)

theorem one_le_promoteLevels {levels : List Nat} (h : ∀ k ∈ levels, 1 ≤ k) :
    ∀ k ∈ promoteLevels levels, 1 ≤ k := by
  rw [promoteLevels]
  split
  · exact h
  · intro k hk
    rcases mem_of_mem_replace hk with hk | rfl
    · exact h k hk
    · exact Nat.le_refl 1

/-- **How many headings of the first level there are in the end**: one, if there was a heading that
could be it. -/
theorem count_settledLevels {levels : List Nat} (h : ∀ k ∈ levels, 1 ≤ k) :
    (settledLevels levels).count 1 = if 1 ∈ levels ∨ 2 ∈ levels then 1 else 0 := by
  rw [settledLevels, count_one_clamp (one_le_promoteLevels (one_le_dedupeLevels h)), promoteLevels]
  by_cases h₁ : 1 ∈ levels
  · have hcount := count_dedupeLevels h₁
    have hmem : 1 ∈ dedupeLevels levels := List.count_pos_iff.1 (by omega)
    rw [if_pos hmem, hcount, if_pos (Or.inl h₁)]
  · rw [dedupeLevels_eq_self h₁, if_neg h₁, count_replace h₁]
    simp only [h₁, false_or]

/-- Without headings of the first two levels there are none in the end. -/
theorem three_le_settledLevels {levels : List Nat} (h : ∀ k ∈ levels, 3 ≤ k) :
    ∀ k ∈ settledLevels levels, 3 ≤ k := by
  have h₁ : 1 ∉ levels := fun hmem => absurd (h 1 hmem) (by decide)
  have h₂ : 2 ∉ levels := fun hmem => absurd (h 2 hmem) (by decide)
  rw [settledLevels, dedupeLevels_eq_self h₁, promoteLevels, if_neg h₁, List.replace_of_not_mem h₂]
  exact le_clamp h

/-! ### The first two parts on headings -/

/-- In a list of different nodes the nodes of a level are those with that level. -/
theorem mem_nodes_of_level {list : List (NodeId × Nat)} (hnodup : (list.map Prod.fst).Nodup)
    {p : NodeId × Nat} (hp : p ∈ list) (k : Nat) :
    p.1 ∈ (list.filter (·.2 == k)).map Prod.fst ↔ p.2 = k := by
  rw [List.mem_map]
  constructor
  · rintro ⟨q, hq, hfst⟩
    obtain ⟨hq, hk⟩ := List.mem_filter.1 hq
    obtain rfl : q = p := List.inj_on_of_nodup_map hnodup hq hp hfst
    simpa using hk
  · intro hk
    exact ⟨p, List.mem_filter.2 ⟨hp, by simpa using hk⟩, rfl⟩

/-- **All headings of the first level but one go down.** -/
theorem map_snd_relevel_dedupe {list : List (NodeId × Nat)} (hnodup : (list.map Prod.fst).Nodup) :
    (relevel (((list.filter (·.2 == 1)).map Prod.fst).drop 1) 2 list).map Prod.snd =
      dedupeLevels (list.map Prod.snd) := by
  induction list with
  | nil => rfl
  | cons p rest ih =>
      obtain ⟨hnot, hrest⟩ := List.nodup_cons.1 hnodup
      have hsub : ∀ n ∈ (rest.filter (·.2 == 1)).map Prod.fst, n ∈ rest.map Prod.fst :=
        fun n hn => (List.filter_sublist.map Prod.fst).subset hn
      by_cases hp : p.2 = 1
      · rw [List.filter_cons_of_pos (by simpa using hp), List.map_cons, List.drop_one, List.tail_cons,
          relevel_cons, if_neg fun hmem => hnot (hsub _ hmem), List.map_cons, List.map_cons, hp,
          dedupeLevels, relevel, List.map_map, List.map_map]
        refine congrArg _ (List.map_congr_left fun q hq => ?_)
        have hiff := mem_nodes_of_level hrest hq 1
        by_cases hq₁ : q.2 = 1 <;> simp only [Function.comp_apply, hiff, hq₁, if_true, if_false]
      · have hp₁ : p.1 ∉ ((rest.filter (·.2 == 1)).map Prod.fst).drop 1 := fun hmem =>
          hnot (hsub _ (List.mem_of_mem_drop hmem))
        rw [List.filter_cons_of_neg (by simpa using hp), relevel_cons, if_neg hp₁, List.map_cons,
          List.map_cons, dedupeLevels_cons hp, ih hrest]

/-- **The first heading of a level gets another one.** -/
theorem map_snd_relevel_first {list : List (NodeId × Nat)} (hnodup : (list.map Prod.fst).Nodup)
    {a k : Nat} {n : NodeId} {others : List NodeId}
    (h : (list.filter (·.2 == a)).map Prod.fst = n :: others) :
    (relevel [n] k list).map Prod.snd = (list.map Prod.snd).replace a k := by
  induction list with
  | nil => exact absurd h (by simp)
  | cons p rest ih =>
      obtain ⟨hnot, hrest⟩ := List.nodup_cons.1 hnodup
      by_cases hp : p.2 = a
      · rw [List.filter_cons_of_pos (by simpa using hp), List.map_cons] at h
        obtain ⟨rfl, _⟩ := List.cons.inj h
        rw [relevel_cons, if_pos (List.mem_singleton_self _), relevel_eq_self (by simpa using hnot),
          List.map_cons, List.map_cons, hp, List.replace_cons_self]
      · rw [List.filter_cons_of_neg (by simpa using hp)] at h
        have hn : n ∈ rest.map Prod.fst := by
          refine (List.filter_sublist.map Prod.fst).subset (?_ : n ∈ (rest.filter (·.2 == a)).map _)
          rw [h]
          exact List.mem_cons_self
        have hne : p.1 ∉ [n] := by
          rw [List.mem_singleton]
          rintro rfl
          exact hnot hn
        have hbeq : (a == p.2) = false := by simpa using Ne.symm hp
        rw [relevel_cons, if_neg hne, List.map_cons, List.map_cons, List.replace_cons, hbeq, ih hrest h]

end Seo

end ThemeCompiler
