import FilterGraph.Proofs.LineBreaks
import FilterGraph.Proofs.Outcome

/-!
# Messages that stay on one line

What a template is filled with ends up in the message as it is, so a message is a line as soon as
the template and every argument are (`fill_isLine`). With escaping on every argument is one
(`isLine_plain_escaped`), and so the message of every record with a template on one line is too.

The entries of the library itself only use plain conversions, one for each argument
(`Entry.IsPlain`). Logging them never fails.
-/

set_option autoImplicit false

namespace FilterGraph.Log

open FilterGraph.Text

/-! ### Templates -/

/-- A conversion never stands for itself, so a piece that does comes from the template. -/
theorem conversion_ne_char (c d : Char) (index : Nat) : conversion c index ≠ .char d := by
  unfold conversion
  split
  · exact nofun
  · split <;> exact nofun

/-- The characters of a message that do not come from arguments come from the template. -/
theorem mem_of_char_mem_piecesFrom {place : Place} {index : Nat} {s : List Char} {d : Char}
    (h : .char d ∈ piecesFrom place index s) : d ∈ s := by
  have hconversion : ∀ {c : Char} {index : Nat} {rest : List Char} {pieces : List Piece},
      (.char d ∈ pieces → d ∈ rest) → .char d ∈ conversion c index :: pieces →
        d ∈ c :: rest := by
    intro c index rest pieces hrest hmem
    rcases List.mem_cons.1 hmem with heq | hmem
    · exact absurd heq.symm (conversion_ne_char c d index)
    · exact List.mem_cons_of_mem c (hrest hmem)
  -- each case of the reader either keeps its character, drops it, or makes a conversion of it
  fun_induction piecesFrom place index s with
  | case1 => exact absurd h List.not_mem_nil
  | case2 index rest ih => exact List.mem_cons_of_mem _ (ih h)
  | case3 index c rest hc ih =>
    rcases List.mem_cons.1 h with heq | h
    · exact (Piece.char.inj heq) ▸ List.mem_cons_self
    · exact List.mem_cons_of_mem c (ih h)
  | case4 => simp at h
  | case5 index rest ih => exact List.mem_cons_of_mem _ (ih h)
  | case6 index rest hc ih =>
    rcases List.mem_cons.1 h with heq | h
    · exact (Piece.char.inj heq) ▸ List.mem_cons_self
    · exact List.mem_cons_of_mem _ (ih h)
  | case7 index c rest hopen hpercent ih => exact hconversion ih h
  | case8 => simp at h
  | case9 read opened index c rest hclosed ih =>
    rcases List.mem_cons.1 h with heq | h
    · exact nomatch heq
    · exact List.mem_cons_of_mem c (ih h)
  | case10 read opened index c rest hclosed opened' ih => exact List.mem_cons_of_mem c (ih h)
  | case11 => simp at h
  | case12 index c rest ih => exact hconversion ih h

/-- Filling lines into pieces whose characters are no line breaks gives a line. -/
theorem fillPieces_isLine {mapping : Option (Entries Scalar)} {pieces : List Piece}
    (hpieces : ∀ c, .char c ∈ pieces → c ≠ '\r' ∧ c ≠ '\n')
    (hmapping : ∀ entries, mapping = some entries → ∀ e ∈ entries, IsLine e.2.plain.toList)
    {waiting : List Scalar} (hwaiting : ∀ v ∈ waiting, IsLine v.plain.toList)
    {message : List Char} (h : fillPieces mapping waiting pieces = .ok message) :
    IsLine message := by
  induction pieces generalizing waiting message with
  | nil =>
    unfold fillPieces at h
    split at h
    · obtain rfl := Except.ok.inj h
      exact IsLine.nil
    · exact nomatch h
  | cons piece rest ih =>
    have hrest : ∀ {waiting : List Scalar}, (∀ v ∈ waiting, IsLine v.plain.toList) →
        ∀ {message : List Char}, fillPieces mapping waiting rest = .ok message →
          IsLine message :=
      ih fun c hc => hpieces c (List.mem_cons_of_mem piece hc)
    -- a piece stands for itself, or takes an argument, or says which argument the next piece takes;
    -- all others fail
    cases piece with
    | char c =>
      rw [fillPieces] at h
      obtain ⟨filled, hfilled, rfl⟩ := Outcome.map_eq_ok_iff.1 h
      exact IsLine.cons_iff.2 ⟨hpieces c List.mem_cons_self, hrest hwaiting hfilled⟩
    | select key =>
      unfold fillPieces at h
      split at h
      · exact nomatch h
      · rename_i entries
        split at h
        · exact nomatch h
        · rename_i value hvalue
          have hline := hmapping entries rfl _ (Entries.mem_of_find?_eq_some hvalue)
          exact hrest (List.forall_mem_singleton.2 hline) h
    | unclosedKey =>
      rw [fillPieces] at h
      exact nomatch h
    | plain =>
      cases waiting with
      | nil =>
        rw [fillPieces] at h
        exact nomatch h
      | cons value waiting =>
        obtain ⟨hvalue, hwaiting⟩ := List.forall_mem_cons.1 hwaiting
        rw [fillPieces] at h
        obtain ⟨filled, hfilled, rfl⟩ := Outcome.map_eq_ok_iff.1 h
        exact IsLine.append_iff.2 ⟨hvalue, hrest hwaiting hfilled⟩
    | number =>
      cases waiting with
      | nil =>
        rw [fillPieces] at h
        exact nomatch h
      | cons value waiting =>
        obtain ⟨-, hwaiting⟩ := List.forall_mem_cons.1 hwaiting
        rw [fillPieces] at h
        obtain ⟨n, -, h⟩ := Outcome.bind_eq_ok_iff.1 h
        obtain ⟨filled, hfilled, h⟩ := Outcome.bind_eq_ok_iff.1 h
        obtain rfl := Except.ok.inj h
        exact IsLine.append_iff.2 ⟨isLine_repr n, hrest hwaiting hfilled⟩
    | unfinished =>
      rw [fillPieces] at h
      exact nomatch h
    | unknown c index =>
      cases waiting with
      | nil =>
        rw [fillPieces] at h
        exact nomatch h
      | cons value waiting =>
        rw [fillPieces] at h
        exact nomatch h

/-- Whether all arguments have plain texts on one line. -/
def Arguments.AreLines : Arguments → Prop
  | .absent => True
  | .positional values => ∀ v ∈ values, IsLine v.plain.toList
  | .mapping entries => ∀ e ∈ entries, IsLine e.2.plain.toList

/-- A template on one line that is filled with lines gives a message on one line. -/
theorem fill_isLine {template : String} (htemplate : IsLine template.toList)
    {arguments : Arguments} (harguments : arguments.AreLines) {message : String}
    (h : fill template arguments = .ok message) : IsLine message.toList := by
  have hpieces : ∀ c, .char c ∈ pieces template → c ≠ '\r' ∧ c ≠ '\n' :=
    fun c hc => htemplate c (mem_of_char_mem_piecesFrom hc)
  unfold fill at h
  split at h
  · obtain rfl := Except.ok.inj h
    exact htemplate
  · obtain rfl := Except.ok.inj h
    exact htemplate
  · obtain ⟨filled, hfilled, rfl⟩ := Outcome.map_eq_ok_iff.1 h
    rw [String.toList_ofList]
    refine fillPieces_isLine hpieces ?_ harguments hfilled
    intro entries hnone
    exact nomatch hnone
  · rename_i entries
    obtain ⟨filled, hfilled, rfl⟩ := Outcome.map_eq_ok_iff.1 h
    rw [String.toList_ofList]
    refine fillPieces_isLine hpieces ?_ ?_ hfilled
    · intro _ heq
      obtain rfl := Option.some.inj heq
      exact harguments
    -- a mapping is also the one argument that waits, and is shown whole
    · rw [List.forall_mem_singleton]
      exact Scalar.isLine_shown (.dictionary entries)

/-! ### Escaped arguments -/

/-- With escaping on, the plain text of every argument is a line: texts are escaped, and all other
values are shown in their quoted form. -/
theorem isLine_plain_escaped (value : Scalar) : IsLine (escaped value).plain.toList := by
  cases value with
  | text s => exact isLine_escapeLineBreaks s
  | none => exact Scalar.isLine_shown .none
  | bool b => exact Scalar.isLine_shown (.bool b)
  | int n => exact Scalar.isLine_shown (.int n)
  | float x => exact Scalar.isLine_shown (.float x)
  | list items => exact Scalar.isLine_shown (.list items)
  | dictionary entries => exact Scalar.isLine_shown (.dictionary entries)

/-- Escaped arguments are lines, be they given one after the other or under keys. -/
theorem Arguments.areLines_escape (arguments : Arguments) : arguments.escape.AreLines := by
  cases arguments with
  | absent => trivial
  | positional values =>
    intro v hv
    obtain ⟨value, -, rfl⟩ := List.mem_map.1 hv
    exact isLine_plain_escaped value
  | mapping entries =>
    intro e he
    obtain ⟨entry, -, rfl⟩ := List.mem_map.1 he
    exact isLine_plain_escaped entry.2

/-- With escaping on, an entry whose template is a line has a message that is a line. -/
theorem Entry.record_isLine {e : Entry} (htemplate : IsLine e.template.toList) {record : Record}
    (h : e.record true = .ok record) : IsLine record.message.toList := by
  obtain ⟨message, hmessage, rfl⟩ := Outcome.map_eq_ok_iff.1 h
  exact fill_isLine htemplate (Arguments.areLines_escape _) hmessage

/-! ### Entries that can always be logged -/

/-- Whether a piece stands for itself or for the plain text of the next argument. -/
def Piece.isPlain : Piece → Bool
  | .char _ | .plain => true
  | _ => false

/-- A piece that is plain is a character or takes the plain text of an argument. -/
theorem Piece.eq_of_isPlain {p : Piece} (h : p.isPlain = true) :
    (∃ c, p = .char c) ∨ p = .plain := by
  cases p with
  | char c => exact .inl ⟨c, rfl⟩
  | plain => exact .inr rfl
  | _ => exact nomatch h

/-- Whether a template is a line that takes the plain texts of so many arguments. -/
def TakesPlain (template : String) (count : Nat) : Prop :=
  IsLine template.toList ∧ (∀ p ∈ pieces template, p.isPlain = true) ∧
    (pieces template).count .plain = count

/-- Whether a template takes the plain texts of so many arguments can be decided. -/
instance (template : String) (count : Nat) : Decidable (TakesPlain template count) :=
  inferInstanceAs (Decidable (_ ∧ _ ∧ _))

/-- An entry whose template takes the plain text of each argument, in order. -/
structure Entry.IsPlain (e : Entry) : Prop where
  template : TakesPlain e.template e.arguments.length
  positional : Arguments.ofCall (some e.arguments) = .positional e.arguments

/-- As many plain conversions as arguments can be filled with them. -/
theorem exists_fillPieces {pieces : List Piece} (hplain : ∀ p ∈ pieces, p.isPlain = true)
    {values : List Scalar} (hcount : pieces.count .plain = values.length) :
    ∃ message, fillPieces none values pieces = .ok message := by
  induction pieces generalizing values with
  | nil =>
    obtain rfl := List.length_eq_zero_iff.1 hcount.symm
    exact ⟨[], by rw [fillPieces]; rfl⟩
  | cons piece rest ih =>
    obtain ⟨hpiece, hrest⟩ := List.forall_mem_cons.1 hplain
    rcases Piece.eq_of_isPlain hpiece with ⟨c, rfl⟩ | rfl
    · have hne : Piece.char c ≠ .plain := nofun
      rw [List.count_cons_of_ne hne] at hcount
      obtain ⟨message, hmessage⟩ := ih hrest hcount
      exact ⟨c :: message, by rw [fillPieces, hmessage]; rfl⟩
    · rw [List.count_cons_self] at hcount
      cases values with
      | nil => exact nomatch hcount
      | cons value values =>
        obtain ⟨message, hmessage⟩ := ih hrest (Nat.succ.inj hcount)
        exact ⟨value.plain.toList ++ message, by rw [fillPieces, hmessage]; rfl⟩

/-- A plain entry has a record, with escaping and without. -/
theorem Entry.IsPlain.exists_record {e : Entry} (he : e.IsPlain) (escaping : Bool) :
    ∃ record, e.record escaping = .ok record := by
  have hfill : ∀ values : List Scalar, values.length = e.arguments.length →
      ∃ message, fill e.template (.positional values) = .ok message := by
    intro values hlength
    cases values with
    | nil => exact ⟨e.template, rfl⟩
    | cons value values =>
      obtain ⟨-, hplain, hcount⟩ := he.template
      obtain ⟨message, hmessage⟩ := exists_fillPieces hplain (hcount.trans hlength.symm)
      exact ⟨String.ofList message, Outcome.map_eq_ok_iff.2 ⟨message, hmessage, rfl⟩⟩
  obtain ⟨message, hmessage⟩ : ∃ message,
      fill e.template (recordArguments escaping (some e.arguments)) = .ok message := by
    unfold recordArguments
    rw [he.positional]
    cases escaping with
    | false => exact hfill e.arguments rfl
    | true => exact hfill (e.arguments.map escaped) (List.length_map _)
  exact ⟨_, Outcome.map_eq_ok_iff.2 ⟨message, hmessage, rfl⟩⟩

/-- What is filled into plain pieces ends up in the message whole, so it is a line if the message
is one. -/
theorem isLine_plain_of_fillPieces {pieces : List Piece}
    (hplain : ∀ p ∈ pieces, p.isPlain = true) {values : List Scalar} {message : List Char}
    (h : fillPieces none values pieces = .ok message) (hline : IsLine message) :
    ∀ v ∈ values, IsLine v.plain.toList := by
  induction pieces generalizing values message with
  | nil =>
    cases values with
    | nil => exact nofun
    | cons value values =>
      rw [fillPieces] at h
      exact nomatch h
  | cons piece rest ih =>
    obtain ⟨hpiece, hrest⟩ := List.forall_mem_cons.1 hplain
    rcases Piece.eq_of_isPlain hpiece with ⟨c, rfl⟩ | rfl
    · -- a character takes no argument, so the same arguments are left for the rest
      rw [fillPieces] at h
      obtain ⟨filled, hfilled, rfl⟩ := Outcome.map_eq_ok_iff.1 h
      exact ih hrest hfilled (IsLine.cons_iff.1 hline).2
    · cases values with
      | nil => exact nofun
      | cons value values =>
        rw [fillPieces] at h
        obtain ⟨filled, hfilled, rfl⟩ := Outcome.map_eq_ok_iff.1 h
        obtain ⟨hvalue, hfilledLine⟩ := IsLine.append_iff.1 hline
        exact List.forall_mem_cons.2 ⟨hvalue, ih hrest hfilled hfilledLine⟩

/-- Without escaping, the message of a plain entry is a line exactly when all its arguments are. -/
theorem Entry.IsPlain.record_isLine_iff {e : Entry} (he : e.IsPlain) {record : Record}
    (h : e.record false = .ok record) :
    IsLine record.message.toList ↔ ∀ v ∈ e.arguments, IsLine v.plain.toList := by
  obtain ⟨message, hmessage, rfl⟩ := Outcome.map_eq_ok_iff.1 h
  have hpositional : recordArguments false (some e.arguments) = .positional e.arguments :=
    he.positional
  rw [hpositional] at hmessage
  constructor
  · intro hline
    cases harguments : e.arguments with
    | nil => exact nofun
    | cons value values =>
      rw [harguments, fill] at hmessage
      · obtain ⟨filled, hfilled, rfl⟩ := Outcome.map_eq_ok_iff.1 hmessage
        rw [String.toList_ofList] at hline
        exact isLine_plain_of_fillPieces he.template.2.1 hfilled hline
      · exact nofun
  · intro harguments
    have hlines : (Arguments.positional e.arguments).AreLines := harguments
    exact fill_isLine he.template.1 hlines hmessage

end FilterGraph.Log
