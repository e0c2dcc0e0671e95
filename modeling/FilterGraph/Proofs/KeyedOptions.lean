import FilterGraph.Proofs.UniqueReading

/-!
# Keyed options are uniquely readable

Nothing is escaped in the text of keyed options: an equals sign stands after each key and a colon
between one entry and the next. Still the text determines the keys and the texts of the values, in
their order, as long as no key holds one of the two signs and no value has a colon in its text
(`Options.render_keyed_eq_iff`).

A key ends at the first equals sign of its entry, so an equals sign in a value does no harm, and
neither do keys and values that are empty. As every entry has its equals sign, the text of keyed
options is empty only if they have no entries.
-/

set_option autoImplicit false

namespace FilterGraph

open Delimited

namespace Payload

/-- What the text of keyed options shows of an entry: the key, and the value by its text. -/
def shownEntry (entry : String × Scalar) : String × String := (entry.1, entry.2.plain)

/-- An entry of keyed options whose key ends at the first equals sign of its text, and whose text
ends at the first colon. -/
def IsLegibleEntry (entry : String × Scalar) : Prop :=
  (':' ∉ entry.1.toList ∧ '=' ∉ entry.1.toList) ∧ ':' ∉ entry.2.plain.toList

/-- Whether an entry is legible can be decided. -/
instance (entry : String × Scalar) : Decidable (IsLegibleEntry entry) :=
  inferInstanceAs (Decidable ((_ ∧ _) ∧ _))

/-- The text of an entry is its key, an equals sign and the plain text of its value. -/
theorem toList_entryText (entry : String × Scalar) :
    (entryText entry).toList = entry.1.toList ++ '=' :: entry.2.plain.toList := by
  simp [entryText]

/-- Whatever the key and the value are, the equals sign between them is written. -/
theorem toList_entryText_ne_nil (entry : String × Scalar) : (entryText entry).toList ≠ [] := by
  simp [toList_entryText]

/-- The text of a legible entry holds no colon, so the colons of a payload stand between its
entries. -/
theorem IsLegibleEntry.colon_notMem {entry : String × Scalar} (h : IsLegibleEntry entry) :
    ':' ∉ (entryText entry).toList := by
  rw [toList_entryText, List.mem_append, List.mem_cons]
  rintro (hkey | hequals | hvalue)
  · exact h.1.1 hkey
  · exact absurd hequals (by decide)
  · exact h.2 hvalue

/-- Legible entries with the same text show the same: the key is what stands before the first equals
sign. -/
theorem shownEntry_eq_of_entryText_eq {entry other : String × Scalar} (h : IsLegibleEntry entry)
    (hother : IsLegibleEntry other) (htext : entryText entry = entryText other) :
    shownEntry entry = shownEntry other := by
  have hlists := congrArg String.toList htext
  rw [toList_entryText, toList_entryText] at hlists
  obtain ⟨hkey, hvalue⟩ := eq_of_append_cons_eq h.1.2 hother.1.2 hlists
  exact Prod.ext (String.toList_inj.1 hkey) (String.toList_inj.1 hvalue)

/-- What is written of keyed options depends on nothing but what their entries show. -/
theorem render_keyed_eq_of_shownEntry {values others : Entries Scalar}
    (h : values.map shownEntry = others.map shownEntry) :
    (keyed values).render = (keyed others).render := by
  have htexts : ∀ entries : Entries Scalar, entries.map entryText =
      (entries.map shownEntry).map fun shown => shown.1 ++ "=" ++ shown.2 := by
    intro entries
    rw [List.map_map]
    rfl
  unfold render
  dsimp only
  rw [htexts, htexts, h]

/-- The entries of keyed options are joined like the members of any list that is written. -/
theorem joined_entries (values : Entries Scalar) :
    (values.mapM fun e => (.ok (entryText e) : Except Failure String)).map
      (String.intercalate ":") = .ok (keyed values).render := by
  have hmapM : (values.mapM fun e => (.ok (entryText e) : Except Failure String)) =
      .ok (values.map entryText) := List.mapM_pure
  rw [hmapM]
  rfl

/-- Only keyed options without entries have an empty text. -/
theorem render_keyed_eq_empty_iff (values : Entries Scalar) :
    (keyed values).render = "" ↔ values = [] := by
  constructor
  · intro h
    have hlist := congrArg String.toList h
    have hparts : ∀ part ∈ (values.map entryText).map String.toList, part ≠ [] := by
      intro part hpart
      simp only [List.mem_map] at hpart
      obtain ⟨text, ⟨entry, -, rfl⟩, rfl⟩ := hpart
      exact toList_entryText_ne_nil entry
    rw [render, String.toList_intercalate] at hlist
    simpa using intercalate_eq_nil hparts hlist
  · rintro rfl
    rfl

end Payload

namespace Options

open Payload

/-- **Keyed options lose nothing in their text.** Keyed options with legible entries have the same
text exactly if their entries show the same keys with the same texts of values in the same order;
and no keyed options but those without entries have the empty text. -/
theorem render_keyed_eq_iff {values others : Entries Scalar}
    (hvalues : ∀ e ∈ values, IsLegibleEntry e) (hothers : ∀ e ∈ others, IsLegibleEntry e) :
    ((Options.payload (.keyed values)).render = (Options.payload (.keyed others)).render ↔
      values.map shownEntry = others.map shownEntry) ∧
    ∀ entries : Entries Scalar,
      (Options.payload (.keyed entries)).render = .ok "" ↔ entries = [] := by
  refine ⟨⟨?_, ?_⟩, ?_⟩
  · intro h
    -- a legible text holds no colon, so the colons between the entries can be told apart
    have hlegible : ∀ {entries : Entries Scalar}, (∀ e ∈ entries, IsLegibleEntry e) →
        ∀ e ∈ entries, ∀ text, (.ok (entryText e) : Except Failure String) = .ok text →
          text.toList ≠ [] ∧ ':' ∉ text.toList := by
      intro entries hentries e he text htext
      obtain rfl := Except.ok.inj htext
      exact ⟨toList_entryText_ne_nil e, (hentries e he).colon_notMem⟩
    refine map_eq_map_of_joined_eq rfl (hlegible hvalues) (hlegible hothers) ?_
      (joined_entries values) ((joined_entries others).trans h.symm)
    intro e he other hother text htext hsame
    exact shownEntry_eq_of_entryText_eq (hvalues e he) (hothers other hother)
      (Except.ok.inj (htext.trans hsame.symm))
  · intro h
    exact congrArg Except.ok (render_keyed_eq_of_shownEntry h)
  · intro entries
    rw [← render_keyed_eq_empty_iff]
    exact ⟨Except.ok.inj, congrArg Except.ok⟩

/-- Options with a number, an equals sign in a value, and an entry in which all is empty. -/
def sizedEntries : Entries Scalar :=
  [("w", .int 640), ("expr", .text "a=b"), ("", .text "")]

/-- The same with the number given as a text. -/
def textEntries : Entries Scalar :=
  [("w", .text "640"), ("expr", .text "a=b"), ("", .text "")]

/-- Both are written the same, and they have the same keys and texts. -/
theorem render_sizedEntries :
    (Options.payload (.keyed sizedEntries)).render = .ok "w=640:expr=a=b:=" ∧
      (Options.payload (.keyed textEntries)).render = .ok "w=640:expr=a=b:=" ∧
      sizedEntries.map shownEntry = textEntries.map shownEntry := by
  have hsized : ∀ e ∈ sizedEntries, IsLegibleEntry e := by decide
  have htexts : ∀ e ∈ textEntries, IsLegibleEntry e := by decide
  have hrender : (Options.payload (.keyed sizedEntries)).render = .ok "w=640:expr=a=b:=" := rfl
  have hsame : (Options.payload (.keyed textEntries)).render = .ok "w=640:expr=a=b:=" := rfl
  exact ⟨hrender, hsame, (render_keyed_eq_iff hsized htexts).1.1 (hrender.trans hsame.symm)⟩

end Options

end FilterGraph
