import FilterGraph.Log.Entry
import Mathlib.Data.List.Basic

/-!
# Texts that stay on one line

A text stays on one line when it holds neither a carriage return nor a line feed. Escaping makes any
text such a text, and the shown form of any value is one from the start: numbers and words hold no
line break, and texts are quoted wherever they stand inside a shown value.

The three replacements of `Text.escapeLineBreaks` do the same as writing out each character by
itself (`toList_escapeLineBreaks`), which is how everything about escaping is proved. What follows
for whole texts is put together in `Text.escapeLineBreaks_by_character`.
-/

set_option autoImplicit false

namespace FilterGraph.Text

/-- A row of characters without a line break. -/
def IsLine (s : List Char) : Prop := ∀ c ∈ s, c ≠ '\r' ∧ c ≠ '\n'

/-- Whether a row is a line can be decided with one test for each of its members; the characters
that there are at all need not be gone through. -/
instance (s : List Char) : Decidable (IsLine s) :=
  List.decidableBAll (fun c => c ≠ '\r' ∧ c ≠ '\n') s

/-- A text stays on one line exactly when its characters hold no line break. -/
theorem isOneLine_iff (s : String) : isOneLine s = true ↔ IsLine s.toList := by
  simp [isOneLine, IsLine]

/-- A line is a row in which neither of the two characters occurs. -/
theorem isLine_iff_notMem {s : List Char} : IsLine s ↔ '\r' ∉ s ∧ '\n' ∉ s := by
  constructor
  · intro h
    exact ⟨fun hmem => (h _ hmem).1 rfl, fun hmem => (h _ hmem).2 rfl⟩
  · rintro ⟨hreturn, hfeed⟩ c hc
    exact ⟨ne_of_mem_of_not_mem hc hreturn, ne_of_mem_of_not_mem hc hfeed⟩

namespace IsLine

variable {s t : List Char}

/-- The empty row is a line. -/
@[simp] theorem nil : IsLine [] := by simp [IsLine]

/-- A row is a line if its first character is no line break and the rest is a line. -/
@[simp] theorem cons_iff {c : Char} : IsLine (c :: s) ↔ (c ≠ '\r' ∧ c ≠ '\n') ∧ IsLine s := by
  simp [IsLine]

/-- Two rows one after the other are a line if each of them is. -/
@[simp] theorem append_iff : IsLine (s ++ t) ↔ IsLine s ∧ IsLine t := by
  exact List.forall_mem_append

/-- Characters of a line are a line in any order. -/
theorem mono (h : IsLine s) (hsub : t ⊆ s) : IsLine t := fun c hc => h c (hsub hc)

/-- What is written for each member of a list is a line if each piece of it is. -/
theorem flatMap {α : Type} {members : List α} {write : α → List Char}
    (h : ∀ a ∈ members, IsLine (write a)) : IsLine (members.flatMap write) := by
  intro c hc
  obtain ⟨a, ha, hmem⟩ := List.mem_flatMap.1 hc
  exact h a ha c hmem

/-- A character that is no line break makes a line, however often it is repeated. -/
theorem replicate {c : Char} (hc : c ≠ '\r' ∧ c ≠ '\n') (n : Nat) :
    IsLine (List.replicate n c) := by
  intro d hd
  rw [List.eq_of_mem_replicate hd]
  exact hc

/-- Lines joined by a line are a line. -/
theorem intercalate {parts : List (List Char)} (hs : IsLine s) (hparts : ∀ p ∈ parts, IsLine p) :
    IsLine (s.intercalate parts) := by
  induction parts with
  | nil => simp
  | cons p parts ih =>
    have hp := hparts p List.mem_cons_self
    have htail := ih fun q hq => hparts q (List.mem_cons_of_mem p hq)
    cases parts with
    | nil => simpa using hp
    | cons q parts =>
      rw [List.intercalate_cons_cons, append_iff, append_iff]
      exact ⟨⟨hp, hs⟩, htail⟩

end IsLine

/-! ### Escaping -/

/-- What is written for one character: its own escape for a line break, and else itself. -/
def escapedChar (c : Char) : List Char :=
  if c = '\r' then ['\\', 'r'] else if c = '\n' then ['\\', 'n'] else [c]

/-- Replacing a text of one character is done character by character. -/
theorem replace_singleton (first : Char) (new s : List Char) :
    replace first [] new s = s.flatMap fun c => if c = first then new else [c] := by
  induction s with
  | nil => rw [replace, List.flatMap_nil]
  | cons c s ih =>
    rw [replace, List.flatMap_cons]
    by_cases h : c = first
    · simp [h, ih]
    · have hne : ¬ first = c := fun heq => h heq.symm
      simp [h, hne, ih]

/-- Replacing the pairs first changes nothing about what is written character by character in the
end, because both characters of a pair are written the same way by themselves. -/
theorem flatMap_escapedChar_replace_pairs (s : List Char) :
    (replace '\r' ['\n'] ['\\', 'r', '\\', 'n'] s).flatMap escapedChar =
      s.flatMap escapedChar := by
  fun_induction replace '\r' ['\n'] ['\\', 'r', '\\', 'n'] s with
  | case1 => rfl
  | case2 c rest hpair ih =>
    obtain ⟨rest', hrest⟩ := List.isPrefixOf_iff_prefix.1 hpair
    obtain ⟨rfl, rfl⟩ : '\r' = c ∧ '\n' :: rest' = rest := by simpa using hrest
    rw [List.flatMap_append, ih]
    rfl
  | case3 c rest hpair ih => rw [List.flatMap_cons, List.flatMap_cons, ih]

/-- Escaping writes each character by itself. -/
theorem toList_escapeLineBreaks (s : String) :
    (escapeLineBreaks s).toList = s.toList.flatMap escapedChar := by
  have hchar : ∀ c, (if c = '\r' then ['\\', 'r'] else [c]).flatMap
      (fun d => if d = '\n' then ['\\', 'n'] else [d]) = escapedChar c := by
    intro c
    unfold escapedChar
    split
    · rfl
    · simp
  unfold escapeLineBreaks
  rw [String.toList_ofList, replace_singleton, replace_singleton, List.flatMap_assoc]
  simp only [hchar]
  exact flatMap_escapedChar_replace_pairs s.toList

/-- What is written for a character is on one line, also for the two line breaks. -/
theorem isLine_escapedChar (c : Char) : IsLine (escapedChar c) := by
  unfold escapedChar
  split
  · decide
  · rename_i hreturn
    split
    · decide
    · rename_i hfeed
      simp [hreturn, hfeed]

/-- An escaped text is a line. -/
theorem isLine_escapeLineBreaks (s : String) : IsLine (escapeLineBreaks s).toList := by
  rw [toList_escapeLineBreaks]
  exact .flatMap fun c _ => isLine_escapedChar c

/-- Escaping can be worked out character by character. -/
theorem escapeLineBreaks_eq_iff {s t : String} :
    escapeLineBreaks s = t ↔ s.toList.flatMap escapedChar = t.toList := by
  rw [← String.toList_inj, toList_escapeLineBreaks]

/-- Escaping leaves a text as it is exactly if the text is a line. -/
theorem escapeLineBreaks_eq_self_iff (s : String) :
    escapeLineBreaks s = s ↔ IsLine s.toList := by
  constructor
  · intro h
    have hline := isLine_escapeLineBreaks s
    rwa [h] at hline
  · intro h
    have hchars : ∀ c ∈ s.toList, escapedChar c = [c] := by
      intro c hc
      unfold escapedChar
      rw [if_neg (h c hc).1, if_neg (h c hc).2]
    rw [escapeLineBreaks_eq_iff, List.flatMap_congr hchars, List.flatMap_singleton']

/-- A text may be escaped part by part, wherever it is cut, also between the two characters of a
pair. -/
theorem escapeLineBreaks_append (s t : String) :
    escapeLineBreaks (s ++ t) = escapeLineBreaks s ++ escapeLineBreaks t := by
  rw [escapeLineBreaks_eq_iff, String.toList_append, String.toList_append, List.flatMap_append,
    toList_escapeLineBreaks, toList_escapeLineBreaks]

/-- **Escaping, character by character.** The three replacements one after the other write what is
written for each character by itself. Hence

* a text that is put together is escaped part by part,
* an escaped text holds no line break,
* escaping it again leaves it as it is, and
* a text is left as it is exactly if it holds no line break. -/
theorem escapeLineBreaks_by_character (s : String) :
    escapeLineBreaks s = String.ofList (s.toList.flatMap escapedChar) ∧
    (∀ t, escapeLineBreaks (s ++ t) = escapeLineBreaks s ++ escapeLineBreaks t) ∧
    ('\r' ∉ (escapeLineBreaks s).toList ∧ '\n' ∉ (escapeLineBreaks s).toList) ∧
    escapeLineBreaks (escapeLineBreaks s) = escapeLineBreaks s ∧
    (escapeLineBreaks s = s ↔ '\r' ∉ s.toList ∧ '\n' ∉ s.toList) := by
  have hline := isLine_escapeLineBreaks s
  refine ⟨?_, escapeLineBreaks_append s, isLine_iff_notMem.1 hline, ?_, ?_⟩
  · rw [escapeLineBreaks_eq_iff, String.toList_ofList]
  · exact (escapeLineBreaks_eq_self_iff _).2 hline
  · rw [escapeLineBreaks_eq_self_iff, isLine_iff_notMem]

-- the pair is cut between the two texts
example : escapeLineBreaks ("\\n\r" ++ "\n\r") = "\\n\\r\\n\\r" := by cbv

/-! ### Shown values -/

/-- The digits of a number are a line. -/
theorem isLine_toDigits (n : Nat) : IsLine (Nat.toDigits 10 n) := by
  intro c hc
  have hdigit := Nat.isDigit_of_mem_toDigits (by decide) (by decide) hc
  constructor
  · rintro rfl
    exact absurd hdigit (by decide)
  · rintro rfl
    exact absurd hdigit (by decide)

/-- A number is written on one line, be it negative or not. -/
theorem isLine_repr (n : Int) : IsLine n.repr.toList := by
  rw [Int.repr_eq_if]
  split
  · rw [Nat.toList_repr]
    exact isLine_toDigits _
  · rw [String.toList_append, Nat.toList_repr, IsLine.append_iff]
    exact ⟨by decide, isLine_toDigits _⟩

/-- A printable character is no line break, so the quoted form of a text is a line. -/
theorem isLine_quoted (s : String) : IsLine (quoted s).toList := by
  intro c hc
  have hprintable := quoted_isPrintable s c hc
  constructor
  · rintro rfl
    rw [isPrintable_carriageReturn] at hprintable
    exact absurd hprintable (by decide)
  · rintro rfl
    rw [isPrintable_lineFeed] at hprintable
    exact absurd hprintable (by decide)

end FilterGraph.Text

namespace FilterGraph.Decimal.Layout

open FilterGraph.Text

/-- A layout whose words hold no line break. -/
structure IsInline (layout : Layout) : Prop where
  wholeEnd : IsLine layout.wholeEnd.toList
  exponentMark : IsLine layout.exponentMark.toList
  infinity : IsLine layout.infinity.toList
  undefined : IsLine layout.undefined.toList

variable {layout : Layout} {digits : List Char}

/-- Digits around a point are on one line if the words of the layout are. -/
theorem IsInline.positional (h : layout.IsInline) (hdigits : IsLine digits) (point : Int) :
    IsLine (layout.positional digits point).toList := by
  have hzeros : ∀ n, IsLine (List.replicate n '0') := IsLine.replicate (by decide)
  unfold Layout.positional
  split
  · simp only [String.toList_append, String.toList_ofList, IsLine.append_iff]
    exact ⟨by decide, hzeros _, hdigits⟩
  · dsimp only
    split
    · simp only [String.toList_append, String.toList_ofList, IsLine.append_iff]
      exact ⟨⟨hdigits, hzeros _⟩, h.wholeEnd⟩
    · simp only [String.toList_append, String.toList_ofList, IsLine.append_iff]
      exact ⟨⟨hdigits.mono (List.take_subset _ _), by decide⟩,
        hdigits.mono (List.drop_subset _ _)⟩

/-- Digits with an exponent are on one line if the words of the layout are. -/
theorem IsInline.scientific (h : layout.IsInline) (hdigits : IsLine digits) (exponent : Int) :
    IsLine (layout.scientific digits exponent).toList := by
  have hsign : IsLine (if exponent < 0 then "-" else "+").toList := by
    split <;> decide
  have hfraction : IsLine
      (if digits.length ≤ 1 then "" else "." ++ String.ofList (digits.drop 1)).toList := by
    split
    · decide
    · simp only [String.toList_append, String.toList_ofList, IsLine.append_iff]
      exact ⟨by decide, hdigits.mono (List.drop_subset _ _)⟩
  unfold Layout.scientific
  simp only [String.toList_append, String.toList_ofList, IsLine.append_iff]
  exact ⟨⟨⟨⟨hdigits.mono (List.take_subset _ _), hfraction⟩, h.exponentMark⟩, hsign⟩,
    .replicate (by decide) _, isLine_toDigits _⟩

/-- A number is laid out on one line if the words of the layout are, whichever of the two forms it
takes. -/
theorem IsInline.magnitude (h : layout.IsInline) (mantissa : Nat) (exponent : Int) :
    IsLine (layout.magnitude mantissa exponent).toList := by
  unfold Layout.magnitude
  split
  · exact h.positional (by decide) 1
  · have hdigits : ∀ number, IsLine
        ((Nat.toDigits 10 number).reverse.dropWhile (· = '0')).reverse := by
      intro number
      apply (isLine_toDigits number).mono
      intro c hc
      exact List.mem_reverse.1 ((List.dropWhile_sublist _).subset (List.mem_reverse.1 hc))
    -- which digits were found does not matter
    obtain ⟨number, scale⟩ := shortest mantissa exponent
    dsimp only
    split
    · exact h.positional (hdigits _) _
    · exact h.scientific (hdigits _) _

/-- Every double is written on one line. -/
theorem IsInline.write (h : layout.IsInline) (x : Binary64) :
    IsLine (layout.write x).toList := by
  have hsign : ∀ negative : Bool, IsLine (if negative then "-" else "").toList := by decide
  cases x with
  | nan => exact h.undefined
  | infinite negative =>
    rw [Layout.write, String.toList_append, IsLine.append_iff]
    exact ⟨hsign negative, h.infinity⟩
  | finite negative mantissa exponent =>
    rw [Layout.write, String.toList_append, IsLine.append_iff]
    exact ⟨hsign negative, h.magnitude mantissa exponent⟩

end FilterGraph.Decimal.Layout

namespace FilterGraph.Scalar

open FilterGraph.Text

/-- The layout of numbers holds no line break. -/
theorem isInline_numberLayout : numberLayout.IsInline where
  wholeEnd := by decide
  exponentMark := by decide
  infinity := by decide
  undefined := by decide

-- one case for each kind of value; the items and entries inside lists and dictionaries are shown by
-- functions of their own, so the three statements are proved together
mutual

/-- The shown form of a value is a line. -/
theorem isLine_shown : ∀ value : Scalar, IsLine value.shown.toList
  | .none => by rw [shown]; decide
  | .bool b => by
    rw [shown]
    cases b <;> decide
  | .int n => by
    rw [shown]
    exact isLine_repr n
  | .float x => by
    rw [shown]
    exact isInline_numberLayout.write x
  | .text s => by
    rw [shown]
    exact isLine_quoted s
  | .list items => by
    rw [shown, String.toList_append, String.toList_append, String.toList_intercalate]
    simp only [IsLine.append_iff]
    exact ⟨⟨by decide, .intercalate (by decide) (isLine_shownItems items)⟩, by decide⟩
  | .dictionary entries => by
    rw [shown, String.toList_append, String.toList_append, String.toList_intercalate]
    simp only [IsLine.append_iff]
    exact ⟨⟨by decide, .intercalate (by decide) (isLine_shownEntries entries)⟩, by decide⟩

/-- The items of a list are shown on one line each. -/
theorem isLine_shownItems : ∀ items : List Scalar,
    ∀ part ∈ (shownItems items).map String.toList, IsLine part
  | [] => by simp [shownItems]
  | item :: rest => by
    rw [shownItems, List.map_cons, List.forall_mem_cons]
    exact ⟨isLine_shown item, isLine_shownItems rest⟩

/-- The entries of a dictionary are shown on one line each, the key being quoted. -/
theorem isLine_shownEntries : ∀ entries : List (String × Scalar),
    ∀ part ∈ (shownEntries entries).map String.toList, IsLine part
  | [] => by simp [shownEntries]
  | (key, value) :: rest => by
    rw [shownEntries, List.map_cons, List.forall_mem_cons]
    refine ⟨?_, isLine_shownEntries rest⟩
    rw [String.toList_append, String.toList_append, IsLine.append_iff, IsLine.append_iff]
    exact ⟨⟨isLine_quoted key, by decide⟩, isLine_shown value⟩

end

end FilterGraph.Scalar
