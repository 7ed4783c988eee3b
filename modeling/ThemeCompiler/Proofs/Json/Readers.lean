/-
**Readers that take back what they gave.**

A value is taken back when it is read from the outline of its written form.  A reader takes back
what it gave when this holds of every value that it reads from some text; then the written text is
read as the same value, and to write it again changes nothing.

Main definitions:

* `ThemeCompiler.Json.ReadsBack` — a value is read from its written form;
* `ThemeCompiler.Json.RoundTrips` — so is everything that a reader gives;
* `ThemeCompiler.Json.rewrite`, `ThemeCompiler.Json.Canonical` — a text that is read and written
  again; the written texts are a canonical form.

Main results:

* `ThemeCompiler.Json.RoundTrips.listOf`, `ThemeCompiler.Json.RoundTrips.sortedMapOf` — lists and
  maps are taken back with what they hold;
* `ThemeCompiler.Json.RoundTrips.canonical` — **a reader that takes back what it gave has a
  canonical form**.
-/

import ThemeCompiler.Json.Decoder
import ThemeCompiler.Proofs.Json.Bounds
import ThemeCompiler.Proofs.Json.Layouts
import ThemeCompiler.Proofs.Json.SortedMaps

set_option relaxedAutoImplicit false
set_option autoImplicit false

namespace ThemeCompiler

namespace Json

variable {α β : Type}

/-! ### Values that are taken back -/

/-- **A value is read from its written form**, which has no doubles. -/
structure ReadsBack (value : Decoder α) (j : Json) (x : α) : Prop where
  integers : OnlyIntegers j
  reads : value (outlineOf j) = .ok x

/-- **A reader takes back what it gave** from the outline of a text, as far as `P` holds of it. -/
def RoundTrips (P : α → Prop) (value : Decoder α) (write : α → Json) : Prop :=
  ∀ outline x, outline.Bounded → value outline = .ok x → P x → ReadsBack value (write x) x

/-! ### Values that hold no others -/

theorem readsBack_text (s : String) : ReadsBack text (string s) s := ⟨trivial, rfl⟩

theorem readsBack_truth (b : Bool) : ReadsBack truth (bool b) b := ⟨trivial, rfl⟩

/-- What an integer that was read is bounded by. -/
theorem integer_eq_ok {low high n : Int} {o : Outline} (h : integer low high o = .ok n) :
    low ≤ n ∧ n ≤ high := by
  rw [integer.eq_def] at h
  split at h
  · split at h
    · next hle =>
        obtain rfl := Except.ok.inj h
        simpa using hle
    · exact absurd h (by simp)
  · exact absurd h (by simp)

theorem readsBack_integer {low high n : Int} (hlow : low ≤ n) (hhigh : n ≤ high)
    (hn : InRange n) : ReadsBack (integer low high) (int n) n := by
  refine ⟨trivial, ?_⟩
  rw [outlineOf, value_integerText hn.1 hn.2, integer, if_pos (by simp [hlow, hhigh])]

theorem readsBack_nat {bits n : Nat} (hbits : Nat.pow 2 bits - 1 ≤ maxSignificand)
    (h : n ≤ Nat.pow 2 bits - 1) : ReadsBack (natural bits) (nat n) n := by
  have hn : ReadsBack (integer 0 (Nat.pow 2 bits - 1 : Nat)) (nat n) n :=
    readsBack_integer (by omega) (by omega) ⟨by omega, by omega⟩
  exact ⟨trivial, by rw [natural, hn.reads]; rfl⟩

/-- **Natural numbers are taken back.** -/
theorem roundTrips_natural (bits : Nat) (hbits : Nat.pow 2 bits - 1 ≤ maxSignificand) :
    RoundTrips (fun _ => True) (natural bits) nat := by
  intro o n _ h _
  rw [natural] at h
  obtain ⟨m, hm, rfl⟩ := map_eq_ok_iff.1 h
  obtain ⟨hlow, hhigh⟩ := integer_eq_ok hm
  exact readsBack_nat hbits (by omega)

theorem readsBack_signed {bits : Nat} {n : Int} (hbits : Nat.pow 2 (bits - 1) ≤ maxMagnitude)
    (hlow : -(Nat.pow 2 (bits - 1) : Nat) ≤ n) (hhigh : n ≤ (Nat.pow 2 (bits - 1) - 1 : Nat)) :
    ReadsBack (signed bits) (int n) n := by
  have hlimit : maxMagnitude ≤ maxSignificand := by decide
  exact readsBack_integer hlow hhigh ⟨by omega, by omega⟩

/-- **Integers with a sign are taken back.** -/
theorem roundTrips_signed (bits : Nat) (hbits : Nat.pow 2 (bits - 1) ≤ maxMagnitude) :
    RoundTrips (fun _ => True) (signed bits) int := by
  intro o n _ h _
  rw [signed] at h
  obtain ⟨hlow, hhigh⟩ := integer_eq_ok h
  exact readsBack_signed hbits hlow hhigh

/-- **A name is taken back** as the value that it stands for. -/
theorem readsBack_oneOf {names : List (String × α)} {name : String} {x : α} (depth : Nat)
    (h : named names name = .ok x) : ReadsBack (oneOf depth names) (string name) x :=
  ⟨trivial, h⟩

/-- A value that is there is taken back. -/
theorem ReadsBack.orNone {value : Decoder α} {j : Json} {x : α} (h : ReadsBack value j x)
    (hj : j ≠ null) : ReadsBack (orNone value) j (some x) := by
  refine ⟨h.integers, ?_⟩
  rw [Json.orNone]
  · rw [h.reads]
    rfl
  · exact fun hnull => hj (by cases j <;> first | rfl | simp [outlineOf] at hnull)
  · exact fun problem hbroken => by cases j <;> simp [outlineOf] at hbroken

/-- What is known of a value that is there. -/
theorem orNone_eq_some {value : Decoder α} {o : Outline} {x : α}
    (h : orNone value o = .ok (some x)) : o ≠ .null ∧ value o = .ok x := by
  rw [orNone.eq_def] at h
  split at h
  · exact absurd h (by simp)
  · exact absurd h (by simp)
  · next hnull _ =>
      obtain ⟨y, hy, hx⟩ := map_eq_ok_iff.1 h
      exact ⟨hnull, Option.some.inj hx ▸ hy⟩

/-- **Optional values are taken back**, if none is written as no value. -/
theorem RoundTrips.orNone {P : α → Prop} {value : Decoder α} {write : α → Json}
    (h : RoundTrips P value write) (hwrite : ∀ x, write x ≠ null) {o : Outline} {y : Option α}
    (ho : o.Bounded) (hy : Json.orNone value o = .ok y) :
    ∀ x ∈ y, P x → ReadsBack (Json.orNone value) (write x) (some x) := by
  rintro x rfl hP
  exact (h o x ho (orNone_eq_some hy).2 hP).orNone (hwrite x)

/-! ### Lists and maps -/

theorem enter_eq_ok {depth : Nat} {u : Unit} (h : enter depth = .ok u) : 2 ≤ depth := by
  rw [enter] at h
  split at h
  · exact absurd h (by simp)
  · omega

theorem enter_of_le {depth : Nat} (h : 2 ≤ depth) : enter depth = .ok () := if_neg (by omega)

/-- What is known of the items of a list that was read. -/
theorem items_forall {item : Decoder α} {Q : α → Prop}
    (hitem : ∀ o x, o.Bounded → item o = .ok x → Q x) : ∀ (outlines : List Outline) (found : List α),
      BoundedItems outlines → items item outlines = .ok found → ∀ x ∈ found, Q x
  | [], found, _, h => by
      obtain rfl := Except.ok.inj h
      simp
  | first :: rest, found, ⟨hfirst, hrest⟩, h => by
      rw [items] at h
      obtain ⟨x, hx, h⟩ := bind_eq_ok_iff.1 h
      obtain ⟨others, hothers, h⟩ := bind_eq_ok_iff.1 h
      obtain rfl := Except.ok.inj h
      exact List.forall_mem_cons.2
        ⟨hitem first x hfirst hx, items_forall hitem rest others hrest hothers⟩

/-- What is known of a list that was read. -/
theorem of_listOf {depth : Nat} {item : Decoder α} {Q : α → Prop}
    (hitem : ∀ o x, o.Bounded → item o = .ok x → Q x) {o : Outline} {found : List α}
    (ho : o.Bounded) (h : listOf depth item o = .ok found) : 2 ≤ depth ∧ ∀ x ∈ found, Q x := by
  cases o with
  | array outlines ending =>
      rw [listOf] at h
      obtain ⟨_, hdepth, h⟩ := bind_eq_ok_iff.1 h
      obtain ⟨others, hothers, h⟩ := bind_eq_ok_iff.1 h
      obtain ⟨_, -, h⟩ := bind_eq_ok_iff.1 h
      obtain rfl := Except.ok.inj h
      exact ⟨enter_eq_ok hdepth, items_forall hitem outlines others ho hothers⟩
  | null | bool | number | string | object | broken => exact absurd h (by simp [listOf])

theorem items_outlinesOf {item : Decoder α} {write : α → Json} :
    ∀ xs : List α, (∀ x ∈ xs, ReadsBack item (write x) x) →
      OnlyIntegersIn (xs.map write) ∧ items item (outlinesOf (xs.map write)) = .ok xs
  | [], _ => ⟨trivial, rfl⟩
  | x :: xs, h => by
      obtain ⟨hx, hxs⟩ := List.forall_mem_cons.1 h
      obtain ⟨hintegers, hreads⟩ := items_outlinesOf xs hxs
      refine ⟨⟨hx.integers, hintegers⟩, ?_⟩
      rw [List.map_cons, outlinesOf, items, hx.reads, hreads]
      rfl

/-- **A list is taken back** with its items. -/
theorem readsBack_listOf {depth : Nat} (hdepth : 2 ≤ depth) {item : Decoder α} {write : α → Json}
    {xs : List α} (h : ∀ x ∈ xs, ReadsBack item (write x) x) :
    ReadsBack (listOf depth item) (array (xs.map write)) xs := by
  obtain ⟨hintegers, hreads⟩ := items_outlinesOf xs h
  refine ⟨hintegers, ?_⟩
  rw [outlineOf, listOf, enter_of_le hdepth, hreads]
  rfl

theorem readsBack_nil {depth : Nat} (hdepth : 2 ≤ depth) (item : Decoder α) :
    ReadsBack (listOf depth item) (array []) [] :=
  ⟨trivial, by rw [outlineOf, Json.listOf, enter_of_le hdepth]; rfl⟩

theorem RoundTrips.listOf {P : α → Prop} {item : Decoder α} {write : α → Json}
    (h : RoundTrips P item write) (depth : Nat) :
    RoundTrips (∀ x ∈ ·, P x) (listOf depth item) fun xs => array (xs.map write) := by
  intro o xs ho hxs hP
  obtain ⟨hdepth, hall⟩ := of_listOf (Q := fun x => P x → ReadsBack item (write x) x)
    (fun o x ho hx => h o x ho hx) ho hxs
  exact readsBack_listOf hdepth fun x hx => hall x hx (hP x hx)

/-- What is known of the entries of a map that was read. -/
theorem entries_forall {value : Decoder α} {Q : α → Prop}
    (hvalue : ∀ o x, o.Bounded → value o = .ok x → Q x) :
    ∀ (members : List (Quoted × Outline)) (found : List (String × α)), BoundedMembers members →
      entries value members = .ok found → ∀ entry ∈ found, Q entry.2
  | [], found, _, h => by
      obtain rfl := Except.ok.inj h
      simp
  | (key, first) :: rest, found, ⟨hfirst, hrest⟩, h => by
      rw [entries] at h
      obtain ⟨_, -, h⟩ := bind_eq_ok_iff.1 h
      obtain ⟨x, hx, h⟩ := bind_eq_ok_iff.1 h
      obtain ⟨others, hothers, h⟩ := bind_eq_ok_iff.1 h
      obtain rfl := Except.ok.inj h
      exact List.forall_mem_cons.2
        ⟨hvalue first x hfirst hx, entries_forall hvalue rest others hrest hothers⟩

theorem entries_outlinesOf {value : Decoder α} {write : α → Json} :
    ∀ found : List (String × α), (∀ entry ∈ found, ReadsBack value (write entry.2) entry.2) →
      OnlyIntegersInMembers (found.map fun entry => (entry.1, write entry.2)) ∧
        entries value (outlinesOfMembers (found.map fun entry => (entry.1, write entry.2))) =
          .ok found
  | [], _ => ⟨trivial, rfl⟩
  | (key, x) :: rest, h => by
      obtain ⟨hx, hrest⟩ := List.forall_mem_cons.1 h
      obtain ⟨hintegers, hreads⟩ := entries_outlinesOf rest hrest
      refine ⟨⟨hx.integers, hintegers⟩, ?_⟩
      rw [List.map_cons, outlinesOfMembers, entries, hx.reads, hreads]
      rfl

/-- A map that was read has sorted keys. -/
theorem of_sortedMapOf {depth : Nat} {value : Decoder α} {Q : α → Prop}
    (hvalue : ∀ o x, o.Bounded → value o = .ok x → Q x) {o : Outline} {found : List (String × α)}
    (ho : o.Bounded) (h : sortedMapOf depth value o = .ok found) :
    2 ≤ depth ∧ Sorted.Ascending found ∧ ∀ entry ∈ found, Q entry.2 := by
  cases o with
  | object members ending =>
      rw [sortedMapOf] at h
      obtain ⟨_, hdepth, h⟩ := bind_eq_ok_iff.1 h
      obtain ⟨others, hothers, h⟩ := bind_eq_ok_iff.1 h
      obtain ⟨_, -, h⟩ := bind_eq_ok_iff.1 h
      obtain rfl := Except.ok.inj h
      exact ⟨enter_eq_ok hdepth, Sorted.ascending_ofList others, fun entry hentry =>
        entries_forall hvalue members others ho hothers entry (Sorted.mem_ofList hentry)⟩
  | null | bool | number | string | array | broken => exact absurd h (by simp [sortedMapOf])

/-- **A map with sorted keys is taken back** with its values. -/
theorem readsBack_sortedMapOf {depth : Nat} (hdepth : 2 ≤ depth) {value : Decoder α}
    {write : α → Json} {found : List (String × α)} (hsorted : Sorted.Ascending found)
    (h : ∀ entry ∈ found, ReadsBack value (write entry.2) entry.2) :
    ReadsBack (sortedMapOf depth value)
      (object (found.map fun entry => (entry.1, write entry.2))) found := by
  obtain ⟨hintegers, hreads⟩ := entries_outlinesOf found h
  refine ⟨hintegers, ?_⟩
  rw [outlineOf, sortedMapOf, enter_of_le hdepth, hreads]
  exact congrArg Except.ok (Sorted.ofList_eq_self hsorted)

theorem readsBack_noEntries {depth : Nat} (hdepth : 2 ≤ depth) (value : Decoder α) :
    ReadsBack (sortedMapOf depth value) (object []) [] :=
  ⟨trivial, by rw [outlineOf, Json.sortedMapOf, enter_of_le hdepth]; rfl⟩

theorem RoundTrips.sortedMapOf {value : Decoder α} {write : α → Json}
    (h : RoundTrips (fun _ => True) value write) (depth : Nat) :
    RoundTrips (fun _ => True) (sortedMapOf depth value)
      fun found => object (found.map fun entry => (entry.1, write entry.2)) := by
  intro o found ho hfound _
  obtain ⟨hdepth, hsorted, hall⟩ := of_sortedMapOf (Q := fun x => ReadsBack value (write x) x)
    (fun o x ho hx => h o x ho hx trivial) ho hfound
  exact readsBack_sortedMapOf hdepth hsorted hall

/-! ### Whole texts -/

/-- The two ways to write a value. -/
def printers : List (Json → String) := [compact, pretty]

theorem outline_print {print : Json → String} (hprint : print ∈ printers) {j : Json}
    (hj : OnlyIntegers j) : outline (print j).toList = (outlineOf j, some []) := by
  rcases List.mem_pair.1 hprint with rfl | rfl
  · exact outline_compact hj
  · exact outline_pretty hj

/-- A value that is taken back is read from its text. -/
theorem ReadsBack.decode {value : Nat → Decoder α} {j : Json} {x : α}
    (h : ReadsBack (value maxDepth) j x) {print : Json → String} (hprint : print ∈ printers) :
    decode value (print j) = .ok x := by
  rw [Json.decode, outline_print hprint h.integers]
  simp only [h.reads]
  rfl

/-- What a text is read as is read from its outline. -/
theorem exists_of_decode {value : Nat → Decoder α} {source : String} {x : α}
    (h : decode value source = .ok x) : ∃ o, o.Bounded ∧ value maxDepth o = .ok x := by
  rw [decode] at h
  obtain ⟨found, hfound, h⟩ := bind_eq_ok_iff.1 h
  refine ⟨_, bounded_outline source.toList, hfound.trans ?_⟩
  split at h
  · exact h
  · exact absurd h (by simp)

/-- A text that is read and written again. -/
def rewrite (value : Nat → Decoder α) (write : α → Json) (print : Json → String) (source : String) :
    Except Problem String := (decode value source).map fun x => print (write x)

theorem rewrite_of_decode {value : Nat → Decoder α} {write : α → Json} {source : String} {x : α}
    (h : decode value source = .ok x) (print : Json → String) :
    rewrite value write print source = .ok (print (write x)) := by
  rw [rewrite, h]
  rfl

/-- **The written texts are a canonical form** of those that are read as a value with `P`: they are
read as the value that they were written for, written again they stay the same, and texts are
written the same when they are read as the same value. -/
structure Canonical (P : α → Prop) (value : Nat → Decoder α) (write : α → Json) : Prop where
  decode_print : ∀ source x, decode value source = .ok x → P x →
    ∀ print ∈ printers, decode value (print (write x)) = .ok x
  rewrite_again : ∀ source x, decode value source = .ok x → P x →
    ∀ print ∈ printers, ∀ text, rewrite value write print source = .ok text →
      rewrite value write print text = .ok text
  rewrite_eq_iff : ∀ source source' x x', decode value source = .ok x →
    decode value source' = .ok x' → P x → P x' → ∀ print ∈ printers,
      (rewrite value write print source = rewrite value write print source' ↔ x = x')

/-- **A reader that takes back what it gave has a canonical form.** -/
theorem RoundTrips.canonical {P : α → Prop} {value : Nat → Decoder α} {write : α → Json}
    (h : RoundTrips P (value maxDepth) write) : Canonical P value write := by
  have hdecode : ∀ source x, decode value source = .ok x → P x →
      ∀ print ∈ printers, decode value (print (write x)) = .ok x := by
    intro source x hx hP print hprint
    obtain ⟨o, ho, hread⟩ := exists_of_decode hx
    exact (h o x ho hread hP).decode hprint
  refine ⟨hdecode, fun source x hx hP print hprint text htext => ?_,
    fun source source' x x' hx hx' hP hP' print hprint => ⟨fun heq => ?_, fun heq => ?_⟩⟩
  · obtain rfl := Except.ok.inj (htext.symm.trans (rewrite_of_decode hx print))
    exact rewrite_of_decode (hdecode source x hx hP print hprint) print
  · rw [rewrite_of_decode hx, rewrite_of_decode hx'] at heq
    have hback := hdecode source x hx hP print hprint
    rw [Except.ok.inj heq, hdecode source' x' hx' hP' print hprint] at hback
    exact (Except.ok.inj hback).symm
  · rw [rewrite_of_decode hx, rewrite_of_decode hx', heq]

end Json

end ThemeCompiler
