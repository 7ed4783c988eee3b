/-
**Written values are read back.**

Both written forms put the same words, brackets, commas and colons down, with blanks between them
where the layout has some.  The outline of such a text is that of the value: nothing in it is wrong,
and nothing is left but what follows the text.  Doubles are left aside.

Main definitions:

* `ThemeCompiler.Json.Layout`, `ThemeCompiler.Json.layOut` — the blanks of a written form, and a
  value written with them;
* `ThemeCompiler.Json.OnlyIntegers` — all numbers of a value are integers;
* `ThemeCompiler.Json.outlineOf` — the outline of a value;
* `ThemeCompiler.Json.StartsItem` — a text that starts an item.

Main results:

* `ThemeCompiler.Json.toList_compact`, `ThemeCompiler.Json.toList_prettyAt` — the two written forms
  are layouts;
* `ThemeCompiler.Json.outlineValue_layOut` — **a value that is laid out is read back**;
* `ThemeCompiler.Json.outline_compact`, `ThemeCompiler.Json.outline_pretty` — so are both written
  forms.
-/

import ThemeCompiler.Proofs.Json.Scalars

set_option relaxedAutoImplicit false
set_option autoImplicit false

namespace ThemeCompiler

namespace Json

/-! ### Layouts -/

/-- **The blanks of a written form**: before the items of a level, and behind a colon. -/
structure Layout where
  gap : Nat → List Char
  colon : List Char

/-- A layout has nothing but blanks. -/
structure Layout.Blank (l : Layout) : Prop where
  gap : ∀ level, ∀ c ∈ l.gap level, isGap c = true
  colon : ∀ c ∈ l.colon, isGap c = true

mutual

/-- **A value that is laid out**, whose first line is at a level. -/
def layOut (l : Layout) (level : Nat) : Json → List Char
  | array (item :: rest) =>
      '[' :: (l.gap (level + 1) ++ (layOut l (level + 1) item ++ (layOutItems l (level + 1) rest
        ++ (l.gap level ++ [']']))))
  | object ((key, value) :: rest) =>
      '\x7b' :: (l.gap (level + 1) ++ ((quote key).toList ++ (':' :: (l.colon
        ++ (layOut l (level + 1) value ++ (layOutMembers l (level + 1) rest
          ++ (l.gap level ++ ['\x7d'])))))))
  | value => (scalarText value).toList

/-- Further items of an array. -/
def layOutItems (l : Layout) (level : Nat) : List Json → List Char
  | [] => []
  | item :: rest => ',' :: (l.gap level ++ (layOut l level item ++ layOutItems l level rest))

/-- Further members of an object. -/
def layOutMembers (l : Layout) (level : Nat) : List (String × Json) → List Char
  | [] => []
  | (key, value) :: rest =>
      ',' :: (l.gap level ++ ((quote key).toList ++ (':' :: (l.colon ++ (layOut l level value
        ++ layOutMembers l level rest)))))

end

/-- The layout on one line. -/
def oneLine : Layout := ⟨fun _ => [], []⟩

/-- The layout on indented lines. -/
def indented : Layout := ⟨fun level => (newLine level).toList, [' ']⟩

theorem toList_intercalate_cons (separator first : String) (rest : List String) :
    (separator.intercalate (first :: rest)).toList =
      first.toList ++ rest.flatMap fun s => separator.toList ++ s.toList := by
  induction rest generalizing first with
  | nil => simp
  | cons second rest ih =>
      rw [String.intercalate_cons_cons, String.toList_append, String.toList_append, ih,
        List.flatMap_cons, List.append_assoc, List.append_assoc]

mutual

/-- **A value on one line is laid out.** -/
theorem toList_compact : ∀ (level : Nat) (j : Json),
    (compact j).toList = layOut oneLine level j
  | _, null => rfl
  | _, bool true => rfl
  | _, bool false => rfl
  | _, int _ => rfl
  | _, double _ => rfl
  | _, string _ => rfl
  | _, array [] => rfl
  | _, object [] => rfl
  | level, array (item :: rest) => by
      rw [compact, compactItems, String.toList_append, String.toList_append,
        toList_intercalate_cons, toList_compact (level + 1) item, toList_compactItems (level + 1)]
      simp [layOut, oneLine]
  | level, object ((key, value) :: rest) => by
      rw [compact, compactMembers, String.toList_append, String.toList_append,
        toList_intercalate_cons, String.toList_append, String.toList_append,
        toList_compact (level + 1) value, toList_compactMembers (level + 1)]
      simp [layOut, oneLine]

theorem toList_compactItems : ∀ (level : Nat) (items : List Json),
    ((compactItems items).flatMap fun s => ",".toList ++ s.toList) = layOutItems oneLine level items
  | _, [] => rfl
  | level, item :: rest => by
      rw [compactItems, List.flatMap_cons, toList_compact level item,
        toList_compactItems level rest]
      simp [layOutItems, oneLine]

theorem toList_compactMembers : ∀ (level : Nat) (members : List (String × Json)),
    ((compactMembers members).flatMap fun s => ",".toList ++ s.toList) =
      layOutMembers oneLine level members
  | _, [] => rfl
  | level, (key, value) :: rest => by
      rw [compactMembers, List.flatMap_cons, String.toList_append, String.toList_append,
        toList_compact level value, toList_compactMembers level rest]
      simp [layOutMembers, oneLine]

end

mutual

/-- **A value on indented lines is laid out.** -/
theorem toList_prettyAt : ∀ (level : Nat) (j : Json),
    (prettyAt level j).toList = layOut indented level j
  | _, null => rfl
  | _, bool true => rfl
  | _, bool false => rfl
  | _, int _ => rfl
  | _, double _ => rfl
  | _, string _ => rfl
  | _, array [] => rfl
  | _, object [] => rfl
  | level, array (item :: rest) => by
      rw [prettyAt, block, String.toList_append, String.toList_append, String.toList_append,
        toList_intercalate_cons, toList_prettyAt (level + 1) item,
        toList_prettyItems (level + 1) rest]
      simp [layOut, indented]
  | level, object ((key, value) :: rest) => by
      rw [prettyAt, block, String.toList_append, String.toList_append, String.toList_append,
        toList_intercalate_cons, String.toList_append, String.toList_append,
        toList_prettyAt (level + 1) value, toList_prettyMembers (level + 1) rest]
      simp [layOut, indented]

theorem toList_prettyItems : ∀ (level : Nat) (items : List Json),
    ((prettyItems level items).flatMap fun s => ("," ++ newLine level).toList ++ s.toList) =
      layOutItems indented level items
  | _, [] => rfl
  | level, item :: rest => by
      rw [prettyItems, List.flatMap_cons, toList_prettyItems level rest]
      simp [layOutItems, indented, toList_prettyAt level item]

theorem toList_prettyMembers : ∀ (level : Nat) (members : List (String × Json)),
    ((prettyMembers level members).flatMap fun s => ("," ++ newLine level).toList ++ s.toList) =
      layOutMembers indented level members
  | _, [] => rfl
  | level, (key, value) :: rest => by
      rw [prettyMembers, List.flatMap_cons, toList_prettyMembers level rest]
      simp [layOutMembers, indented, toList_prettyAt level value]

end

/-! ### Outlines of values -/

mutual

/-- **All numbers of a value are integers.** -/
def OnlyIntegers : Json → Prop
  | double _ => False
  | array items => OnlyIntegersIn items
  | object members => OnlyIntegersInMembers members
  | _ => True

/-- All numbers of some items are integers. -/
def OnlyIntegersIn : List Json → Prop
  | [] => True
  | item :: rest => OnlyIntegers item ∧ OnlyIntegersIn rest

/-- All numbers of some members are integers. -/
def OnlyIntegersInMembers : List (String × Json) → Prop
  | [] => True
  | (_, value) :: rest => OnlyIntegers value ∧ OnlyIntegersInMembers rest

end

/-- A string in which nothing is wrong. -/
def Quoted.fine (s : String) : Quoted := ⟨.ok s, none⟩

mutual

/-- **The outline of a value**, in which nothing is wrong. -/
def outlineOf : Json → Outline
  | null => .null
  | bool b => .bool b
  | int n => .number (integerText n).value none
  | double d => .number (.ok (.double d)) none
  | string s => .string (.fine s)
  | array items => .array (outlinesOf items) .closed
  | object members => .object (outlinesOfMembers members) .closed

/-- The outlines of some items. -/
def outlinesOf : List Json → List Outline
  | [] => []
  | item :: rest => outlineOf item :: outlinesOf rest

/-- The outlines of some members. -/
def outlinesOfMembers : List (String × Json) → List (Quoted × Outline)
  | [] => []
  | (key, value) :: rest => (.fine key, outlineOf value) :: outlinesOfMembers rest

end

/-! ### Blanks -/

theorem dropGap_append {blanks cs : List Char} (h : ∀ c ∈ blanks, isGap c = true) :
    dropGap (blanks ++ cs) = dropGap cs :=
  List.dropWhile_append_of_pos h

theorem dropGap_cons {c : Char} (h : isGap c = false) (cs : List Char) :
    dropGap (c :: cs) = c :: cs :=
  List.dropWhile_cons_of_neg (by simp [h])

/-- Where no blank comes first nothing is dropped. -/
theorem dropGap_blanks {blanks cs : List Char} {c : Char} (h : ∀ b ∈ blanks, isGap b = true)
    (hc : isGap c = false) : dropGap (blanks ++ c :: cs) = c :: cs := by
  rw [dropGap_append h, dropGap_cons hc]

/-- Blanks, commas and brackets cannot go on a number. -/
theorem endsNumber_of_mem {c : Char} (h : isGap c = true ∨ c ∈ [',', ']', '\x7d'])
    (rest : List Char) : EndsNumber (c :: rest) := by
  have hends : ∀ c ∈ [' ', '\n', '\t', '\r', ',', ']', '\x7d'],
      c.isDigit = false ∧ c ≠ '.' ∧ c ≠ 'e' ∧ c ≠ 'E' := by simp
  rintro d hd
  obtain rfl := Option.some.inj hd
  refine hends c ?_
  simpa [isGap, or_assoc] using h

/-- What an integer does not start with. -/
theorem ne_of_startsInt {c : Char} (hc : c = '-' ∨ c.isDigit = true) (d : Char) (hsign : d ≠ '-')
    (hdigit : d.isDigit = false) : c ≠ d := by
  rintro rfl
  exact hc.elim hsign fun h => absurd h (by simp [hdigit])

/-- An integer does not start with a blank. -/
theorem isGap_of_startsInt {c : Char} (hc : c = '-' ∨ c.isDigit = true) : isGap c = false := by
  have hne := ne_of_startsInt hc
  simp [isGap, hne ' ' (by decide), hne '\n' (by decide), hne '\t' (by decide),
    hne '\r' (by decide)]

/-- **A text that starts an item**: not with a blank and not with the bracket that ends the
items. -/
def StartsItem (bracket : Char) (cs : List Char) : Prop :=
  ∃ c rest, cs = c :: rest ∧ isGap c = false ∧ c ≠ bracket

theorem StartsItem.append {bracket : Char} {cs : List Char} (h : StartsItem bracket cs)
    (more : List Char) : StartsItem bracket (cs ++ more) := by
  obtain ⟨c, rest, rfl, hc⟩ := h
  exact ⟨c, rest ++ more, rfl, hc⟩

theorem StartsItem.length_pos {bracket : Char} {cs : List Char} (h : StartsItem bracket cs) :
    0 < cs.length := by
  obtain ⟨c, rest, rfl, -⟩ := h
  exact Nat.succ_pos _

theorem startsItem_quote (s : String) : StartsItem '\x7d' (quote s).toList :=
  ⟨'"', _, toList_quote s, by decide⟩

/-- A laid out value starts an item. -/
theorem startsItem_layOut (l : Layout) (level : Nat) (j : Json) (hj : OnlyIntegers j) :
    StartsItem ']' (layOut l level j) := by
  cases j with
  | null => exact ⟨'n', _, rfl, by decide⟩
  | bool b => cases b with
    | true => exact ⟨'t', _, rfl, by decide⟩
    | false => exact ⟨'f', _, rfl, by decide⟩
  | int n =>
      obtain ⟨c, cs, hcs, hc⟩ := exists_toString_int_cons n
      exact ⟨c, cs, hcs, isGap_of_startsInt hc, ne_of_startsInt hc ']' (by decide) (by decide)⟩
  | double d => exact absurd hj id
  | string s => exact ⟨'"', _, toList_quote s, by decide⟩
  | array items => cases items with
    | nil => exact ⟨'[', _, rfl, by decide⟩
    | cons item rest => exact ⟨'[', _, rfl, by decide⟩
  | object members => cases members with
    | nil => exact ⟨'\x7b', _, rfl, by decide⟩
    | cons member rest => exact ⟨'\x7b', _, rfl, by decide⟩

/-! ### Steps of the reader -/

theorem nextItem_first {bracket : Char} {blanks cs : List Char}
    (hblanks : ∀ b ∈ blanks, isGap b = true) (hcs : StartsItem bracket cs) :
    nextItem bracket true (blanks ++ cs) = .ok cs := by
  obtain ⟨c, rest, rfl, hc, hne⟩ := hcs
  rw [nextItem, dropGap_blanks hblanks hc]
  simp [hne]

theorem nextItem_comma {bracket : Char} {blanks cs : List Char}
    (hblanks : ∀ b ∈ blanks, isGap b = true) (hbracket : bracket ≠ ',')
    (hcs : StartsItem bracket cs) :
    nextItem bracket false (',' :: (blanks ++ cs)) = .ok cs := by
  obtain ⟨c, rest, rfl, hc, hne⟩ := hcs
  rw [nextItem, dropGap_cons (by decide)]
  simp only [dropGap_blanks hblanks hc]
  simp [hne, hbracket.symm]

theorem nextItem_closed {bracket : Char} {blanks : List Char}
    (hblanks : ∀ b ∈ blanks, isGap b = true) (hbracket : isGap bracket = false) (first : Bool)
    (rest : List Char) :
    nextItem bracket first (blanks ++ bracket :: rest) = .error (.closed, some rest) := by
  rw [nextItem, dropGap_blanks hblanks hbracket]
  simp

/-- A value that starts with no bracket holds no others. -/
theorem outlineValue_scalar {c : Char} {blanks : List Char} (hblanks : ∀ b ∈ blanks, isGap b = true)
    (hc : isGap c = false) (hsquare : c ≠ '[') (hcurly : c ≠ '\x7b') (fuel : Nat) (cs : List Char) :
    outlineValue (fuel + 1) (blanks ++ c :: cs) = scalar fuel (c :: cs) := by
  rw [outlineValue, dropGap_blanks hblanks hc]
  split
  · next h => exact absurd (List.cons.inj h).1 hsquare
  · next h => exact absurd (List.cons.inj h).1 hcurly
  · rfl

/-- **A written integer is read back.** -/
theorem outlineValue_int (n : Int) (fuel : Nat) {blanks rest : List Char}
    (hblanks : ∀ b ∈ blanks, isGap b = true) (hrest : EndsNumber rest) :
    outlineValue (fuel + 1) (blanks ++ ((toString n).toList ++ rest)) =
      (outlineOf (int n), some rest) := by
  obtain ⟨c, cs, hcs, hc⟩ := exists_toString_int_cons n
  have hne := ne_of_startsInt hc
  have hscan := scanNumber_int n hrest
  rw [hcs, List.cons_append] at hscan ⊢
  rw [outlineValue_scalar hblanks (isGap_of_startsInt hc) (hne '[' (by decide) (by decide))
      (hne '\x7b' (by decide) (by decide)), scalar,
    if_neg (by simpa using hne '"' (by decide) (by decide)), if_pos (by simpa using hc), number,
    hscan]
  rfl

/-- **A written string is read back.** -/
theorem outlineValue_quote (s : String) {fuel : Nat} (h : (quote s).toList.length ≤ fuel)
    {blanks : List Char} (hblanks : ∀ b ∈ blanks, isGap b = true) (rest : List Char) :
    outlineValue (fuel + 1) (blanks ++ ((quote s).toList ++ rest)) =
      (.string (.fine s), some rest) := by
  have hquoted := quoted_quote s h rest
  rw [toList_quote, List.cons_append, List.tail_cons] at hquoted
  rw [toList_quote, List.cons_append, List.cons_append,
    outlineValue_scalar hblanks (by decide) (by decide) (by decide), scalar, if_pos (by decide)]
  simp only [hquoted]
  rfl

/-- What the reader makes of the items of an array behind a first one. -/
theorem outlineItems_item {fuel : Nat} {first : Bool} {cs start more : List Char}
    (hnext : nextItem ']' first cs = .ok start) {item : Outline}
    (hitem : outlineValue fuel start = (item, some more)) :
    outlineItems (fuel + 1) first cs =
      (item :: (outlineItems fuel false more).1, (outlineItems fuel false more).2) := by
  rw [outlineItems, hnext]
  simp only [hitem]

/-- What the reader makes of the members of an object behind a first key. -/
theorem outlineMembers_key {fuel : Nat} {first : Bool} {cs : List Char} {key : String}
    {rest : List Char} (hnext : nextItem '\x7d' first cs = .ok ((quote key).toList ++ ':' :: rest))
    (hfuel : (quote key).toList.length ≤ fuel) {value : Outline} {more : List Char}
    (hvalue : outlineValue fuel rest = (value, some more)) :
    outlineMembers (fuel + 1) first cs =
      ((.fine key, value) :: (outlineMembers fuel false more).1,
        (outlineMembers fuel false more).2) := by
  have hquoted := quoted_quote key hfuel (':' :: rest)
  rw [toList_quote, List.cons_append, List.tail_cons] at hquoted
  rw [toList_quote, List.cons_append, List.cons_append] at hnext
  have hcolon : afterKey (':' :: rest) = .ok rest := by
    rw [afterKey, dropGap_cons (by decide)]
    rfl
  rw [outlineMembers, hnext]
  simp only [hquoted, hcolon, hvalue]
  rfl

/-- What follows the last item of a level cannot go on a number. -/
theorem endsNumber_gap {blanks : List Char} (hblanks : ∀ b ∈ blanks, isGap b = true)
    {bracket : Char} (hbracket : bracket ∈ [',', ']', '\x7d']) (rest : List Char) :
    EndsNumber (blanks ++ bracket :: rest) := by
  cases blanks with
  | nil => exact endsNumber_of_mem (Or.inr hbracket) rest
  | cons b blanks => exact endsNumber_of_mem (Or.inl (hblanks b List.mem_cons_self)) _

theorem endsNumber_items {l : Layout} (hl : l.Blank) (level outer : Nat) (items : List Json)
    (rest : List Char) :
    EndsNumber (layOutItems l level items ++ (l.gap outer ++ ']' :: rest)) := by
  cases items with
  | nil => exact endsNumber_gap (hl.gap outer) (by decide) rest
  | cons item items => exact endsNumber_of_mem (Or.inr (by decide)) _

theorem endsNumber_members {l : Layout} (hl : l.Blank) (level outer : Nat)
    (members : List (String × Json)) (rest : List Char) :
    EndsNumber (layOutMembers l level members ++ (l.gap outer ++ '\x7d' :: rest)) := by
  cases members with
  | nil => exact endsNumber_gap (hl.gap outer) (by decide) rest
  | cons member members => exact endsNumber_of_mem (Or.inr (by decide)) _

/-! ### Laid out values -/

/-- An array without items. -/
theorem outlineValue_noItems (fuel : Nat) {blanks : List Char}
    (hblanks : ∀ b ∈ blanks, isGap b = true) (rest : List Char) :
    outlineValue (fuel + 2) (blanks ++ '[' :: ']' :: rest) = (.array [] .closed, some rest) := by
  rw [outlineValue, dropGap_blanks hblanks (by decide)]
  rfl

/-- An object without members. -/
theorem outlineValue_noMembers (fuel : Nat) {blanks : List Char}
    (hblanks : ∀ b ∈ blanks, isGap b = true) (rest : List Char) :
    outlineValue (fuel + 2) (blanks ++ '\x7b' :: '\x7d' :: rest) =
      (.object [] .closed, some rest) := by
  rw [outlineValue, dropGap_blanks hblanks (by decide)]
  rfl

mutual

/-- **A value that is laid out is read back**: its outline is found and nothing else is read. -/
theorem outlineValue_layOut {l : Layout} (hl : l.Blank) : ∀ (j : Json), OnlyIntegers j →
    ∀ (level fuel : Nat) (blanks rest : List Char), (∀ b ∈ blanks, isGap b = true) →
      EndsNumber rest → 2 * (layOut l level j).length ≤ fuel + 2 →
        outlineValue (fuel + 2) (blanks ++ (layOut l level j ++ rest)) = (outlineOf j, some rest)
  | null, _, _, fuel, _, _, hblanks, _, _ =>
      outlineValue_scalar hblanks (by decide) (by decide) (by decide) (fuel + 1) _
  | bool true, _, _, fuel, _, _, hblanks, _, _ =>
      outlineValue_scalar hblanks (by decide) (by decide) (by decide) (fuel + 1) _
  | bool false, _, _, fuel, _, _, hblanks, _, _ =>
      outlineValue_scalar hblanks (by decide) (by decide) (by decide) (fuel + 1) _
  | int n, _, _, fuel, _, _, hblanks, hrest, _ => outlineValue_int n (fuel + 1) hblanks hrest
  | double _, hj, _, _, _, _, _, _, _ => absurd hj id
  | string s, _, level, fuel, _, rest, hblanks, _, hfuel => by
      have hfuel : 2 * (quote s).toList.length ≤ fuel + 2 := hfuel
      exact outlineValue_quote s (by omega) hblanks rest
  | array [], _, _, fuel, _, rest, hblanks, _, _ => outlineValue_noItems fuel hblanks rest
  | array (item :: items), ⟨hitem, hitems⟩, level, fuel, blanks, rest, hblanks, _, hfuel => by
      have hstart := startsItem_layOut l (level + 1) item hitem
      have hpos := hstart.length_pos
      simp only [layOut, List.length_cons, List.length_append, List.length_nil] at hfuel
      obtain ⟨fuel, rfl⟩ : ∃ more, fuel = more + 2 := ⟨fuel - 2, by omega⟩
      have hread := outlineValue_layOut hl item hitem (level + 1) fuel []
        (layOutItems l (level + 1) items ++ (l.gap level ++ ']' :: rest)) (by simp)
        (endsNumber_items hl _ _ _ _) (by omega)
      have hmore := outlineItems_layOut hl items hitems (level + 1) level (fuel + 1) rest (by omega)
      have hfound := outlineItems_item (nextItem_first (hl.gap (level + 1)) (hstart.append _)) hread
      rw [hmore] at hfound
      simp only [layOut, List.cons_append, List.append_assoc, List.nil_append]
      rw [outlineValue, dropGap_blanks hblanks (by decide)]
      simp only [hfound]
      rfl
  | object [], _, _, fuel, _, rest, hblanks, _, _ => outlineValue_noMembers fuel hblanks rest
  | object ((key, value) :: members), ⟨hvalue, hmembers⟩, level, fuel, blanks, rest, hblanks, _,
      hfuel => by
      have hpos := (startsItem_layOut l (level + 1) value hvalue).length_pos
      simp only [layOut, List.length_cons, List.length_append, List.length_nil] at hfuel
      obtain ⟨fuel, rfl⟩ : ∃ more, fuel = more + 2 := ⟨fuel - 2, by omega⟩
      have hread := outlineValue_layOut hl value hvalue (level + 1) fuel l.colon
        (layOutMembers l (level + 1) members ++ (l.gap level ++ '\x7d' :: rest)) hl.colon
        (endsNumber_members hl _ _ _ _) (by omega)
      have hmore := outlineMembers_layOut hl members hmembers (level + 1) level (fuel + 1) rest
        (by omega)
      have hfound := outlineMembers_key
        (nextItem_first (hl.gap (level + 1)) ((startsItem_quote key).append _)) (by omega) hread
      rw [hmore] at hfound
      simp only [layOut, List.cons_append, List.append_assoc, List.nil_append]
      rw [outlineValue, dropGap_blanks hblanks (by decide)]
      simp only [hfound]
      rfl

/-- Further items are read back up to their bracket. -/
theorem outlineItems_layOut {l : Layout} (hl : l.Blank) : ∀ (items : List Json),
    OnlyIntegersIn items → ∀ (level outer fuel : Nat) (rest : List Char),
      2 * (layOutItems l level items).length ≤ fuel →
        outlineItems (fuel + 1) false (layOutItems l level items ++ (l.gap outer ++ ']' :: rest)) =
          (outlinesOf items, .closed, some rest)
  | [], _, level, outer, fuel, rest, _ => by
      rw [layOutItems, List.nil_append, outlineItems,
        nextItem_closed (hl.gap outer) (by decide)]
      rfl
  | item :: items, ⟨hitem, hitems⟩, level, outer, fuel, rest, hfuel => by
      simp only [layOutItems, List.length_cons, List.length_append] at hfuel
      obtain ⟨fuel, rfl⟩ : ∃ more, fuel = more + 2 := ⟨fuel - 2, by omega⟩
      have hread := outlineValue_layOut hl item hitem level fuel []
        (layOutItems l level items ++ (l.gap outer ++ ']' :: rest)) (by simp)
        (endsNumber_items hl _ _ _ _) (by omega)
      have hmore := outlineItems_layOut hl items hitems level outer (fuel + 1) rest (by omega)
      have hstart := startsItem_layOut l level item hitem
      simp only [layOutItems, List.cons_append, List.append_assoc]
      rw [outlineItems_item (nextItem_comma (hl.gap level) (by decide) (hstart.append _)) hread,
        hmore]
      rfl

/-- Further members are read back up to their bracket. -/
theorem outlineMembers_layOut {l : Layout} (hl : l.Blank) : ∀ (members : List (String × Json)),
    OnlyIntegersInMembers members → ∀ (level outer fuel : Nat) (rest : List Char),
      2 * (layOutMembers l level members).length ≤ fuel →
        outlineMembers (fuel + 1) false
            (layOutMembers l level members ++ (l.gap outer ++ '\x7d' :: rest)) =
          (outlinesOfMembers members, .closed, some rest)
  | [], _, level, outer, fuel, rest, _ => by
      rw [layOutMembers, List.nil_append, outlineMembers,
        nextItem_closed (hl.gap outer) (by decide)]
      rfl
  | (key, value) :: members, ⟨hvalue, hmembers⟩, level, outer, fuel, rest, hfuel => by
      simp only [layOutMembers, List.length_cons, List.length_append] at hfuel
      obtain ⟨fuel, rfl⟩ : ∃ more, fuel = more + 2 := ⟨fuel - 2, by omega⟩
      have hread := outlineValue_layOut hl value hvalue level fuel l.colon
        (layOutMembers l level members ++ (l.gap outer ++ '\x7d' :: rest)) hl.colon
        (endsNumber_members hl _ _ _ _) (by omega)
      have hmore := outlineMembers_layOut hl members hmembers level outer (fuel + 1) rest (by omega)
      have hstart := startsItem_quote key
      simp only [layOutMembers, List.cons_append, List.append_assoc]
      rw [outlineMembers_key (nextItem_comma (hl.gap level) (by decide) (hstart.append _))
        (by omega) hread, hmore]
      rfl

end

/-! ### Written values -/

theorem blank_oneLine : oneLine.Blank := ⟨fun _ => by simp [oneLine], by simp [oneLine]⟩

theorem blank_indented : indented.Blank where
  gap := fun level c hc => by
    have hc : c ∈ (newLine level).toList := hc
    rw [newLine, String.toList_append, String.toList_join, List.mem_append,
      List.mem_flatMap] at hc
    rcases hc with hc | ⟨s, hs, hc⟩
    · rw [List.mem_singleton.1 hc]
      decide
    · have hblanks : "  ".toList = [' ', ' '] := rfl
      rw [(List.mem_replicate.1 hs).2, hblanks, List.mem_cons, List.mem_singleton, or_self] at hc
      rw [hc]
      rfl
  colon := by simp [indented, isGap]

/-- **A written value is read back.** -/
theorem outline_layOut {l : Layout} (hl : l.Blank) {j : Json} (hj : OnlyIntegers j) (level : Nat) :
    outline (layOut l level j) = (outlineOf j, some []) := by
  have hread := outlineValue_layOut hl j hj level (2 * (layOut l level j).length) [] [] (by simp)
    (by simp [EndsNumber]) (by omega)
  rwa [List.append_nil, List.nil_append] at hread

theorem outline_compact {j : Json} (hj : OnlyIntegers j) :
    outline (compact j).toList = (outlineOf j, some []) := by
  rw [toList_compact 0]
  exact outline_layOut blank_oneLine hj 0

theorem outline_pretty {j : Json} (hj : OnlyIntegers j) :
    outline (pretty j).toList = (outlineOf j, some []) := by
  rw [pretty, toList_prettyAt]
  exact outline_layOut blank_indented hj 0

end Json

end ThemeCompiler
