import Mathlib.Data.List.Basic

/-!
# Delimited lists

The text of a command is put together with delimiters of four kinds: one that ends a part, one
between parts, a pair around each part, and a flag before each part. For each kind this file says
what two equal texts have in common, provided that the delimiter does not occur where it would be
misread. A delimiter that ends a part may be looked for from the start of a text or from its end.
-/

set_option autoImplicit false

namespace FilterGraph.Delimited

variable {α : Type} {sep left right flag : α} {s t u v : List α}

/-- Two equal texts have the same part before their first delimiter and the same rest after it. -/
theorem eq_of_append_cons_eq (hs : sep ∉ s) (ht : sep ∉ t) (h : s ++ sep :: u = t ++ sep :: v) :
    s = t ∧ u = v := by
  induction s generalizing t with
  | nil =>
    cases t with
    | nil => exact ⟨rfl, (List.cons.inj h).2⟩
    | cons b t =>
      have hb : sep = b := (List.cons.inj h).1
      exact absurd (hb ▸ List.mem_cons_self) ht
  | cons a s ih =>
    have htail : sep ∉ s := fun hmem => hs (List.mem_cons_of_mem a hmem)
    cases t with
    | nil =>
      have ha : a = sep := (List.cons.inj h).1
      exact absurd (ha ▸ List.mem_cons_self) hs
    | cons b t =>
      obtain ⟨hab, hrest⟩ := List.cons.inj h
      obtain ⟨hst, huv⟩ := ih htail (fun hmem => ht (List.mem_cons_of_mem b hmem)) hrest
      exact ⟨by rw [hab, hst], huv⟩

/-- Two equal texts have the same part before their last delimiter and the same rest after it. -/
theorem eq_of_append_cons_eq_of_last (hu : sep ∉ u) (hv : sep ∉ v)
    (h : s ++ sep :: u = t ++ sep :: v) : s = t ∧ u = v := by
  have hreverse : u.reverse ++ sep :: s.reverse = v.reverse ++ sep :: t.reverse := by
    simpa using congrArg List.reverse h
  obtain ⟨huv, hst⟩ := eq_of_append_cons_eq (by simpa using hu) (by simpa using hv) hreverse
  exact ⟨List.reverse_injective hst, List.reverse_injective huv⟩

/-- Parts that are not empty give an empty text only if there are none of them. -/
theorem intercalate_eq_nil {parts : List (List α)} (hne : ∀ part ∈ parts, part ≠ [])
    (h : [sep].intercalate parts = []) : parts = [] := by
  cases parts with
  | nil => rfl
  | cons part parts =>
    have hpart := hne part List.mem_cons_self
    cases parts with
    | nil => exact absurd (by simpa using h) hpart
    | cons next parts => simp at h

/-- Two equal texts with a delimiter between their parts have the same parts, if no part is empty or
holds the delimiter. -/
theorem eq_of_intercalate_eq [DecidableEq α] {parts others : List (List α)}
    (hparts : ∀ part ∈ parts, part ≠ [] ∧ sep ∉ part)
    (hothers : ∀ part ∈ others, part ≠ [] ∧ sep ∉ part)
    (h : [sep].intercalate parts = [sep].intercalate others) : parts = others := by
  by_cases hnil : parts = []
  · subst hnil
    exact (intercalate_eq_nil (fun part hp => (hothers part hp).1) h.symm).symm
  · have hothersNe : others ≠ [] := by
      rintro rfl
      exact hnil (intercalate_eq_nil (fun part hp => (hparts part hp).1) h)
    calc parts = ([sep].intercalate parts).splitOn sep :=
          (List.splitOn_intercalate sep (fun part hp => (hparts part hp).2) hnil).symm
      _ = ([sep].intercalate others).splitOn sep := by rw [h]
      _ = others :=
          List.splitOn_intercalate sep (fun part hp => (hothers part hp).2) hothersNe

/-- What is neither the delimiter nor in a part is not in the text of the parts. -/
theorem notMem_intercalate {a : α} {parts : List (List α)} (hsep : a ≠ sep)
    (hparts : ∀ part ∈ parts, a ∉ part) : a ∉ [sep].intercalate parts := by
  induction parts with
  | nil => simp
  | cons part parts ih =>
    have hpart := hparts part List.mem_cons_self
    have htail := ih fun p hp => hparts p (List.mem_cons_of_mem part hp)
    cases parts with
    | nil => simpa using hpart
    | cons next parts => simpa [hpart, hsep] using htail

/-- Each part between a left and a right delimiter. -/
def bracketed (left right : α) (parts : List (List α)) : List α :=
  parts.flatMap fun part => left :: (part ++ [right])

/-- No parts make an empty row. -/
@[simp] theorem bracketed_nil : bracketed left right [] = [] := rfl

/-- The first part stands between its delimiters, and the others follow. -/
@[simp] theorem bracketed_cons (part : List α) (parts : List (List α)) :
    bracketed left right (part :: parts) =
      left :: (part ++ right :: bracketed left right parts) := by
  simp [bracketed]

/-- What is neither a delimiter nor in a part is not in the text of the bracketed parts. -/
theorem notMem_bracketed {a : α} {parts : List (List α)} (hleft : a ≠ left) (hright : a ≠ right)
    (hparts : ∀ part ∈ parts, a ∉ part) : a ∉ bracketed left right parts := by
  unfold bracketed
  rw [List.mem_flatMap]
  rintro ⟨part, hpart, hmem⟩
  simp [hleft, hright, hparts part hpart] at hmem

/-- Two equal texts that begin with bracketed parts and go on without a left delimiter have the same
parts and the same rest. -/
theorem eq_of_bracketed_append_eq {parts others : List (List α)}
    (hparts : ∀ part ∈ parts, right ∉ part) (hothers : ∀ part ∈ others, right ∉ part)
    (hs : s.head? ≠ some left) (ht : t.head? ≠ some left)
    (h : bracketed left right parts ++ s = bracketed left right others ++ t) :
    parts = others ∧ s = t := by
  induction parts generalizing others with
  | nil =>
    cases others with
    | nil => exact ⟨rfl, h⟩
    | cons part others =>
      rw [bracketed_nil, List.nil_append, bracketed_cons, List.cons_append] at h
      exact absurd (by rw [h, List.head?_cons]) hs
  | cons part parts ih =>
    have htail := fun p hp => hparts p (List.mem_cons_of_mem part hp)
    cases others with
    | nil =>
      rw [bracketed_nil, List.nil_append, bracketed_cons, List.cons_append] at h
      exact absurd (by rw [← h, List.head?_cons]) ht
    | cons other others =>
      simp only [bracketed_cons, List.cons_append, List.append_assoc, List.cons.injEq,
        true_and] at h
      -- the first part of each side ends at its right delimiter, which leaves the others to `ih`
      obtain ⟨hpart, hrest⟩ := eq_of_append_cons_eq (hparts part List.mem_cons_self)
        (hothers other List.mem_cons_self) h
      obtain ⟨hparts', hst⟩ :=
        ih htail (fun p hp => hothers p (List.mem_cons_of_mem other hp)) hrest
      exact ⟨by rw [hpart, hparts'], hst⟩

/-- Two equal texts that begin without a left delimiter and go on with bracketed parts are the same
up to where the parts begin. -/
theorem eq_of_append_bracketed_eq {parts others : List (List α)} (hs : left ∉ s) (ht : left ∉ t)
    (h : s ++ bracketed left right parts = t ++ bracketed left right others) :
    s = t ∧ bracketed left right parts = bracketed left right others := by
  cases parts with
  | nil =>
    cases others with
    | nil => simpa using h
    | cons other others =>
      rw [bracketed_nil, List.append_nil, bracketed_cons] at h
      exact absurd (h ▸ List.mem_append_right t List.mem_cons_self) hs
  | cons part parts =>
    cases others with
    | nil =>
      rw [bracketed_nil, List.append_nil, bracketed_cons] at h
      exact absurd (h ▸ List.mem_append_right s List.mem_cons_self) ht
    | cons other others =>
      simp only [bracketed_cons] at h ⊢
      obtain ⟨hst, hrest⟩ := eq_of_append_cons_eq hs ht h
      exact ⟨hst, by rw [hrest]⟩

/-- Two equal lists that begin with flagged values and go on without the flag have the same values
and the same rest. -/
theorem eq_of_flagged_append_eq {values others : List α} (hs : s.head? ≠ some flag)
    (ht : t.head? ≠ some flag)
    (h : values.flatMap (fun x => [flag, x]) ++ s = others.flatMap (fun x => [flag, x]) ++ t) :
    values = others ∧ s = t := by
  induction values generalizing others with
  | nil =>
    cases others with
    | nil => exact ⟨rfl, h⟩
    | cons y others => exact absurd (congrArg List.head? h) hs
  | cons x values ih =>
    cases others with
    | nil => exact absurd (congrArg List.head? h).symm ht
    | cons y others =>
      simp only [List.flatMap_cons, List.cons_append, List.nil_append, List.cons.injEq,
        true_and] at h
      obtain ⟨hxy, hrest⟩ := h
      obtain ⟨hvalues, hst⟩ := ih hrest
      exact ⟨by rw [hxy, hvalues], hst⟩

end FilterGraph.Delimited
