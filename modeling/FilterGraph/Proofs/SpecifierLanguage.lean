import FilterGraph.Pad.Uses
import Mathlib.Data.List.Basic
import Mathlib.Data.List.TakeWhile

/-!
# The language of input specifiers

`Pad.specifierDigits?` reads a label from the left, `Pad.Specifies` says which form the label has.
Here the two are shown to be the same: a label is read with some digits exactly when it specifies an
input by them (`specifierDigits?_eq_some_iff`). The digits are therefore determined by the label,
and `inputIndex?_eq_ok_iff` says when the index can be read and what it then is.
-/

set_option autoImplicit false

namespace FilterGraph.Pad

open FilterGraph.Text

/-! ### What may follow the index -/

/-- From a text without line feeds none is dropped. -/
theorem dropLineFeed_of_notMem {s : List Char} (h : '\n' ∉ s) : dropLineFeed s = s := by
  unfold dropLineFeed
  rw [if_neg]
  intro hlast
  exact h (List.mem_of_getLast? hlast)

/-- A line feed at the end is dropped. -/
theorem dropLineFeed_append_lineFeed (s : List Char) : dropLineFeed (s ++ ['\n']) = s := by
  unfold dropLineFeed
  rw [if_pos (by simp), List.dropLast_concat]

/-- Dropping a line feed either changes nothing or takes one line feed off the end. -/
theorem eq_dropLineFeed_or (s : List Char) :
    s = dropLineFeed s ∨ s = dropLineFeed s ++ ['\n'] := by
  unfold dropLineFeed
  split
  · rename_i hlast
    right
    exact (List.dropLast_append_getLast? '\n' hlast).symm
  · left
    rfl

/-- The recognizer of selectors accepts the non-empty texts without line feeds, each also with one
line feed after it. -/
theorem isSelector_iff (s : List Char) :
    isSelector s = true ↔ ∃ selector, selector ≠ [] ∧ '\n' ∉ selector ∧
      (s = selector ∨ s = selector ++ ['\n']) := by
  constructor
  · intro h
    have hparts : dropLineFeed s ≠ [] ∧ '\n' ∉ dropLineFeed s := by
      simpa [isSelector, List.contains_iff_mem] using h
    exact ⟨dropLineFeed s, hparts.1, hparts.2, eq_dropLineFeed_or s⟩
  · rintro ⟨selector, hne, hlf, rfl | rfl⟩
    · simp [isSelector, dropLineFeed_of_notMem hlf, hne, hlf]
    · simp [isSelector, dropLineFeed_append_lineFeed, hne, hlf]

/-- What the recognizer accepts after an index is a selection, with or without one line feed. -/
theorem mayFollowIndex_iff (s : List Char) :
    mayFollowIndex s = true ↔ ∃ selection, IsSelection selection ∧
      (s = selection ∨ s = selection ++ ['\n']) := by
  constructor
  · intro h
    unfold mayFollowIndex at h
    split at h
    · exact ⟨[], .inl rfl, .inl rfl⟩
    · exact ⟨[], .inl rfl, .inr rfl⟩
    · obtain ⟨selector, hne, hlf, hs⟩ := (isSelector_iff _).1 h
      refine ⟨':' :: selector, .inr ⟨selector, rfl, hne, hlf⟩, ?_⟩
      rcases hs with rfl | rfl
      · exact .inl rfl
      · exact .inr rfl
    · exact absurd h (by decide)
  · rintro ⟨selection, rfl | ⟨selector, rfl, hne, hlf⟩, rfl | rfl⟩
    · rfl
    · rfl
    · exact (isSelector_iff _).2 ⟨selector, hne, hlf, .inl rfl⟩
    · exact (isSelector_iff _).2 ⟨selector, hne, hlf, .inr rfl⟩

/-- What follows an index does not start with a digit, so the index ends where the digits do. -/
theorem takeWhile_of_mayFollowIndex {s : List Char} (h : mayFollowIndex s = true) :
    s.takeWhile isDigit = [] := by
  unfold mayFollowIndex at h
  split at h
  · rfl
  · rw [List.takeWhile_cons, isDigit_lineFeed]
    rfl
  · rw [List.takeWhile_cons, isDigit_colon]
    rfl
  · exact absurd h (by decide)

/-! ### Labels -/

/-- The digits that a label is read with are those that it starts with. -/
theorem specifierDigits?_eq_takeWhile {pad : String} {digits : List Char}
    (h : specifierDigits? pad = some digits) : digits = pad.toList.takeWhile isDigit := by
  unfold specifierDigits? at h
  simp only [Option.ite_none_right_eq_some, Option.some.injEq] at h
  exact h.2.symm

/-- A label is read as an input specifier with some digits exactly when it has that form. -/
theorem specifierDigits?_eq_some_iff (pad : String) (digits : List Char) :
    specifierDigits? pad = some digits ↔ Specifies digits pad := by
  constructor
  · intro h
    have hdigits := specifierDigits?_eq_takeWhile h
    unfold specifierDigits? at h
    simp only [Option.ite_none_right_eq_some, Bool.and_eq_true, Bool.not_eq_true',
      List.isEmpty_eq_false_iff] at h
    obtain ⟨⟨hne, hfollow⟩, -⟩ := h
    obtain ⟨selection, hselection, hrest⟩ := (mayFollowIndex_iff _).1 hfollow
    subst hdigits
    refine ⟨hne, fun c hc => List.mem_takeWhile_imp hc, selection, hselection, ?_⟩
    -- the digits that were taken and what was left of the label make up the label again
    have hsplit := List.takeWhile_append_dropWhile (p := isDigit) (l := pad.toList)
    rcases hrest with hrest | hrest
    · left
      rw [← hrest, hsplit]
    · right
      rw [List.append_assoc, ← hrest, hsplit]
  · rintro ⟨hne, hall, selection, hselection, hpad⟩
    obtain ⟨rest, hfollow, hpad⟩ : ∃ rest, mayFollowIndex rest = true ∧
        pad.toList = digits ++ rest := by
      rcases hpad with hpad | hpad
      · exact ⟨selection, (mayFollowIndex_iff _).2 ⟨selection, hselection, .inl rfl⟩, hpad⟩
      · refine ⟨selection ++ ['\n'], (mayFollowIndex_iff _).2 ⟨selection, hselection, .inr rfl⟩, ?_⟩
        rw [hpad, List.append_assoc]
    -- what may follow an index does not begin with a digit, so no more digits are taken than these
    have htake : pad.toList.takeWhile isDigit = digits := by
      rw [hpad, List.takeWhile_append_of_pos hall, takeWhile_of_mayFollowIndex hfollow,
        List.append_nil]
    have hdrop : pad.toList.dropWhile isDigit = rest := by
      have hsplit := List.takeWhile_append_dropWhile (p := isDigit) (l := pad.toList)
      rw [htake, hpad] at hsplit
      rw [hpad]
      exact List.append_cancel_left hsplit
    simp [specifierDigits?, htake, hdrop, hfollow, hne]

/-- A label determines the digits that it specifies an input by. -/
theorem Specifies.digits_eq {pad : String} {digits others : List Char}
    (h : Specifies digits pad) (hothers : Specifies others pad) : digits = others := by
  have hread := (specifierDigits?_eq_some_iff pad digits).2 h
  rw [(specifierDigits?_eq_some_iff pad others).2 hothers] at hread
  exact (Option.some.inj hread).symm

/-- A label that does not specify an input by any digits is no input specifier. -/
theorem specifierDigits?_eq_none_iff (pad : String) :
    specifierDigits? pad = none ↔ ∀ digits, ¬ Specifies digits pad := by
  simp only [← specifierDigits?_eq_some_iff, Option.eq_none_iff_forall_ne_some, ne_eq]

/-- Any number of ones, as long as there are any, is an input specifier by itself. -/
theorem specifies_ones {count : Nat} (hcount : 0 < count) :
    Specifies (List.replicate count '1') (String.ofList (List.replicate count '1')) := by
  refine ⟨?_, ?_, [], .inl rfl, .inl (by simp)⟩
  · simpa using hcount.ne'
  · intro c hc
    rw [List.eq_of_mem_replicate hc]
    rfl

/-! ### Indices -/

/-- The number of the input that a label names, if it is an input specifier. -/
def namedInput? (pad : String) : Option Nat := (specifierDigits? pad).map numberOfDigits

/-- Either the label is no input specifier or the digits of its index are few enough to be read. -/
def HasReadableIndex (pad : String) : Prop :=
  ∀ digits, Specifies digits pad → digits.length ≤ longestIndex

/-- Reading the index of a label succeeds exactly when its digits are few enough, and then gives the
number that they write. -/
theorem inputIndex?_eq_ok_iff (pad : String) (index : Option Nat) :
    inputIndex? pad = .ok index ↔ HasReadableIndex pad ∧ namedInput? pad = index := by
  unfold inputIndex? HasReadableIndex namedInput?
  simp only [← specifierDigits?_eq_some_iff]
  cases hdigits : specifierDigits? pad with
  | none => simp
  | some digits =>
    by_cases hlong : longestIndex < digits.length
    · have hunreadable : ¬ digits.length ≤ longestIndex := by omega
      simp [hlong, hunreadable]
    · have hreadable : digits.length ≤ longestIndex := by omega
      simp [hlong, hreadable]

/-- Reading the index of a label fails only at too many digits, and says how many they are. -/
theorem exists_of_inputIndex?_eq_error {pad : String} {failure : Failure}
    (h : inputIndex? pad = .error failure) :
    ∃ digits, Specifies digits pad ∧ longestIndex < digits.length ∧
      failure = .longIndex digits.length := by
  unfold inputIndex? at h
  split at h
  · cases h
  · rename_i digits hdigits
    split at h
    · rename_i hlong
      exact ⟨digits, (specifierDigits?_eq_some_iff pad digits).1 hdigits, hlong,
        (Except.error.inj h).symm⟩
    · cases h

/-- A label that starts with few enough digits has a readable index. -/
theorem HasReadableIndex.of_short {pad : String}
    (h : (pad.toList.takeWhile isDigit).length ≤ longestIndex) : HasReadableIndex pad := by
  intro digits hdigits
  rw [specifierDigits?_eq_takeWhile ((specifierDigits?_eq_some_iff pad digits).2 hdigits)]
  exact h

end FilterGraph.Pad
