import FilterGraph.Proofs.Messages
import FilterGraph.Proofs.Paired

/-!
# Records with escaped arguments

With escaping on, a record is made of the same template as without, and of arguments in which the
line breaks of each text are written out. This is done at the top only: texts inside lists and
dictionaries, and the keys of a mapping, stay as they are. They do no harm, because they can only be
shown in quotes (`isLine_plain_escaped`).

`escaped_record` puts together what this does to a record: its arguments keep their shape, they are
the same if there was nothing to write out, filling the template fails if and only if it fails
without escaping, and a template on one line gives a message on one line.
-/

set_option autoImplicit false

namespace FilterGraph.Log

open FilterGraph.Text

/-! ### Arguments -/

/-- What becomes of an argument: a text is written out character by character, and any other value
stays as it is, with all texts inside it. -/
inductive EscapesTo : Scalar → Scalar → Prop where
  | text {s t : String} (h : t.toList = s.toList.flatMap escapedChar) :
    EscapesTo (.text s) (.text t)
  | other {value : Scalar} (h : ∀ s, value ≠ .text s) : EscapesTo value value

/-- The escaped argument is what becomes of an argument. -/
theorem escapesTo_escaped (value : Scalar) : EscapesTo value (escaped value) := by
  cases value with
  | text s => exact .text (toList_escapeLineBreaks s)
  | _ => exact .other nofun

/-- An argument stays as it is exactly if it is no text with a line break. -/
theorem escaped_eq_self_iff (value : Scalar) :
    escaped value = value ↔ ∀ s, value = .text s → IsLine s.toList := by
  cases value with
  | text s => simp [escaped, escapeLineBreaks_eq_self_iff]
  | _ => simp [escaped]

namespace Arguments

/-- The values that a template takes directly: those at the places, or under the keys. -/
def values : Arguments → List Scalar
  | .absent => []
  | .positional values => values
  | .mapping entries => entries.map Prod.snd

/-- Arguments of the same shape: as many places, or the same keys in the same order, with what
becomes of each value at its place or under its key. -/
inductive EscapeTo : Arguments → Arguments → Prop where
  | absent : EscapeTo .absent .absent
  | positional {values others : List Scalar} (h : List.Forall₂ EscapesTo values others) :
    EscapeTo (.positional values) (.positional others)
  | mapping {entries others : Entries Scalar}
    (h : List.Forall₂ (fun e o => e.1 = o.1 ∧ EscapesTo e.2 o.2) entries others) :
    EscapeTo (.mapping entries) (.mapping others)

/-- Escaped arguments have the shape of the given ones. -/
theorem escapeTo_escape (arguments : Arguments) : arguments.EscapeTo arguments.escape := by
  cases arguments with
  | absent => exact .absent
  | positional values =>
    refine .positional (List.forall₂_map_right_iff.2 (List.forall₂_same.2 fun value _ => ?_))
    exact escapesTo_escaped value
  | mapping entries =>
    refine .mapping (List.forall₂_map_right_iff.2 (List.forall₂_same.2 fun e _ => ?_))
    exact ⟨rfl, escapesTo_escaped e.2⟩

/-- Arguments stay as they are exactly if each text among the values is a line. -/
theorem escape_eq_self_iff (arguments : Arguments) :
    arguments.escape = arguments ↔ ∀ s, .text s ∈ arguments.values → IsLine s.toList := by
  have hvalues : (∀ s, .text s ∈ arguments.values → IsLine s.toList) ↔
      ∀ value ∈ arguments.values, escaped value = value := by
    simp only [escaped_eq_self_iff]
    constructor
    · rintro h value hvalue s rfl
      exact h s hvalue
    · intro h s hs
      exact h _ hs s rfl
  rw [hvalues]
  -- a row of values is unchanged if each of them is, and keys are never changed
  cases arguments with
  | absent => simp [escape, values]
  | positional values =>
    have hmap := List.map_inj_left (l := values) (f := escaped) (g := id)
    rw [List.map_id] at hmap
    rw [escape, Arguments.positional.injEq, hmap]
    rfl
  | mapping entries =>
    have hmap := List.map_inj_left (l := entries) (f := fun e => (e.1, escaped e.2)) (g := id)
    rw [List.map_id] at hmap
    rw [escape, Arguments.mapping.injEq, hmap, Arguments.values, List.forall_mem_map]
    simp only [id, Prod.ext_iff, true_and]

end Arguments

/-! ### Failures -/

/-- Escaping does not change which arguments are whole numbers. -/
theorem wholeNumber_escaped (value : Scalar) : wholeNumber (escaped value) = wholeNumber value := by
  cases value <;> rfl

/-- Whether pieces can be filled, and how they fail, does not depend on the texts that they are
filled with. -/
theorem failure?_fillPieces_escaped (mapping : Option (Entries Scalar))
    {waiting others : List Scalar}
    (h : List.Forall₂ (fun value other => wholeNumber other = wholeNumber value) waiting others)
    (pieces : List Piece) :
    Outcome.failure?
        (fillPieces (mapping.map (List.map fun e => (e.1, escaped e.2))) others pieces) =
      Outcome.failure? (fillPieces mapping waiting pieces) := by
  induction pieces generalizing waiting others with
  | nil =>
    unfold fillPieces
    rw [Paired.isEmpty_eq h, Option.isSome_map]
  | cons piece rest ih =>
    cases piece with
    | char c =>
      rw [fillPieces, fillPieces, Outcome.failure?_map, Outcome.failure?_map, ih h]
    | select key =>
      cases mapping with
      | none => rfl
      | some entries =>
        rw [Option.map_some, fillPieces, fillPieces, Entries.find?_map]
        cases hfound : Entries.find? key entries with
        | none => rfl
        | some value => exact ih (.cons (wholeNumber_escaped value) .nil)
    | unclosedKey =>
      rw [fillPieces, fillPieces, Option.isSome_map]
    | plain =>
      cases h with
      | nil => rfl
      | cons _ hrest =>
        rw [fillPieces, fillPieces, Outcome.failure?_map, Outcome.failure?_map, ih hrest]
    | number =>
      cases h with
      | nil => rfl
      | cons hvalue hrest =>
        rw [fillPieces, fillPieces, hvalue]
        -- the number is the same in both, so only the failure of the rest matters
        rw [Outcome.failure?_bind_map, Outcome.failure?_bind_map, ih hrest]
    | unfinished => rfl
    | unknown c index => cases h <;> rfl

/-- Whether a template can be filled, and how it fails, is the same with escaped arguments. -/
theorem failure?_fill_escape (template : String) (arguments : Arguments) :
    Outcome.failure? (fill template arguments.escape) =
      Outcome.failure? (fill template arguments) := by
  cases arguments with
  | absent => rfl
  | positional values =>
    cases values with
    | nil => rfl
    | cons value rest =>
      have hwaiting : List.Forall₂ (fun value other => wholeNumber other = wholeNumber value)
          (value :: rest) ((value :: rest).map escaped) := by
        refine List.forall₂_map_right_iff.2 (List.forall₂_same.2 fun other _ => ?_)
        exact wholeNumber_escaped other
      rw [Arguments.escape, List.map_cons, fill, fill, Outcome.failure?_map, Outcome.failure?_map]
      · exact failure?_fillPieces_escaped none hwaiting (pieces template)
      · exact List.cons_ne_nil _ _
      · exact List.cons_ne_nil _ _
  | mapping entries =>
    -- a mapping is also the one argument that waits, and no dictionary is a number
    have hwaiting : List.Forall₂ (fun value other => wholeNumber other = wholeNumber value)
        [.dictionary entries] [.dictionary (entries.map fun e => (e.1, escaped e.2))] :=
      .cons rfl .nil
    rw [Arguments.escape, fill, fill, Outcome.failure?_map, Outcome.failure?_map]
    exact failure?_fillPieces_escaped (some entries) hwaiting (pieces template)

/-! ### Records -/

/-- The arguments of a record with escaping are those of the same record without escaping,
escaped. -/
theorem recordArguments_true (arguments : Option (List Scalar)) :
    recordArguments true arguments = (recordArguments false arguments).escape := rfl

/-- **Escaped records.** A template on one line that is filled with escaped arguments gives a
message on one line. The escaped arguments have the shape of the given ones, with line breaks
written out in the texts among their values and everything else as it is. They are the given ones
exactly if those texts are all on one line, and the message is then the same too. If the template
cannot be filled with the escaped arguments, then it fails in the same way as with the given
ones. -/
theorem escaped_record (template : String) (arguments : Option (List Scalar)) :
    let given := recordArguments false arguments
    let safe := recordArguments true arguments
    (isOneLine template = true →
      ∀ message, fill template safe = .ok message → isOneLine message = true) ∧
    given.EscapeTo safe ∧
    (safe = given ↔ ∀ s, .text s ∈ given.values → isOneLine s = true) ∧
    ((∀ s, .text s ∈ given.values → isOneLine s = true) →
      fill template safe = fill template given) ∧
    Outcome.failure? (fill template safe) = Outcome.failure? (fill template given) := by
  intro given safe
  have hsafe : safe = given.escape := recordArguments_true arguments
  have hsame : safe = given ↔ ∀ s, .text s ∈ given.values → isOneLine s = true := by
    simp only [isOneLine_iff]
    rw [hsafe]
    exact given.escape_eq_self_iff
  refine ⟨?_, ?_, hsame, ?_, ?_⟩
  · intro htemplate message hmessage
    rw [isOneLine_iff] at htemplate ⊢
    rw [hsafe] at hmessage
    exact fill_isLine htemplate given.areLines_escape hmessage
  · rw [hsafe]
    exact given.escapeTo_escape
  · intro hlines
    rw [hsame.2 hlines]
  · rw [hsafe]
    exact failure?_fill_escape template given

/-- A list with a text that is not on one line. -/
def groupNames : Scalar := .list [.text "a\r\nb", .int 7]

/-- A mapping with a text that is not on one line under one key, and the list under the other. -/
def sessionArguments : List Scalar :=
  [.dictionary [("user", .text "eve\nroot"), ("groups", groupNames)]]

/-- The text under the key is escaped, and the list is shown as it is. With the list alone there is
nothing to escape. -/
theorem escaped_record_sessionArguments :
    (fill "%(user)s in %(groups)s" (recordArguments true (some sessionArguments)) =
        .ok "eve\\nroot in ['a\\r\\nb', 7]" ∧
      isOneLine "eve\\nroot in ['a\\r\\nb', 7]" = true ∧
      fill "%(user)s in %(groups)s" (recordArguments false (some sessionArguments)) =
        .ok "eve\nroot in ['a\\r\\nb', 7]") ∧
    fill "%s" (recordArguments true (some [groupNames])) =
      fill "%s" (recordArguments false (some [groupNames])) := by
  have hescaped : escapeLineBreaks "eve\nroot" = "eve\\nroot" :=
    escapeLineBreaks_eq_iff.2 (by decide)
  have hfill : fill "%(user)s in %(groups)s" (recordArguments true (some sessionArguments)) =
      .ok "eve\\nroot in ['a\\r\\nb', 7]" := by
    rw [recordArguments_true]
    unfold recordArguments sessionArguments groupNames Arguments.ofCall Arguments.escape
    simp only [List.map, escaped, hescaped]
    decide +kernel
  have hlines : ∀ s, .text s ∈ [groupNames] → isOneLine s = true := by
    intro s hs
    exact absurd (List.mem_singleton.1 hs) nofun
  obtain ⟨hline, -⟩ := escaped_record "%(user)s in %(groups)s" (some sessionArguments)
  obtain ⟨-, -, -, hunchanged, -⟩ := escaped_record "%s" (some [groupNames])
  exact ⟨⟨hfill, hline (by decide) _ hfill, by decide +kernel⟩, hunchanged hlines⟩

end FilterGraph.Log
