import FilterGraph.Proofs.StoreGrowth

/-!
# Stores without dangling references

A session is closed when everything that a cell or a name refers to is a cell that is there. The
empty session is closed, and every step keeps a session closed (`State.closed_after`).

The lemmas about making say a little more than that: what the constructors build refers to nothing
but its own cells and what has been lent to them (`State.make_copied`).
-/

set_option autoImplicit false

namespace FilterGraph.Store

/-- The parts of all cells are in the store. -/
def Cells.Closed (cells : Cells) : Prop :=
  ∀ (address : Nat) (cell : Cell), cells.read? address = some cell →
    ∀ v ∈ cell.parts, cells.Within v

/-- What cells and names refer to is in the store. -/
structure State.Closed (s : State) : Prop where
  cells : s.cells.Closed
  names : ∀ {name : String} {value : Value}, s.names.find? name = some value → s.cells.Within value

namespace Cells.Closed

variable {cells : Cells}

/-- The parts of what a value is or refers to are in the store. -/
theorem content (h : cells.Closed) (value : Value) :
    ∀ v ∈ (cells.content value).parts, cells.Within v := by
  intro v hv
  obtain ⟨address, rfl, hread⟩ := read?_of_mem_parts hv
  exact h address _ hread v hv

/-- What a value in the store lends is in the store. -/
theorem lent (h : cells.Closed) {value : Value} (hvalue : cells.Within value) :
    ∀ v ∈ cells.lent value, cells.Within v := by
  have hparts := h.content value
  unfold Cells.lent
  split
  case h_1 items hcontent => rwa [hcontent] at hparts
  case h_2 entries hcontent => rwa [hcontent] at hparts
  case h_3 =>
    intro v hv
    rwa [List.mem_singleton.1 hv]

end Cells.Closed

/-! ### References -/

namespace State

variable {s : State} {cells : Cells} {v w : Value}

/-- A part of a value is part of its cell, if it is no atom. -/
theorem mem_parts_of_partOf {part : String} (h : s.partOf v part = .ok w) :
    w ∈ (s.cells.content v).parts ∨ ∃ a, w = .atom a := by
  have hfield : ∀ cell : Cell, cell.field? part = some w → w ∈ cell.parts ∨ ∃ a, w = .atom a := by
    intro cell hcell
    unfold Cell.field? at hcell
    split at hcell
    · exact .inl (List.mem_map.2 ⟨_, Entries.mem_of_find?_eq_some hcell, rfl⟩)
    · obtain ⟨a, -, rfl⟩ := Option.map_eq_some_iff.1 hcell
      exact .inr ⟨a, rfl⟩
    · exact nomatch hcell
  -- a part of a list is named by its place, and any other part by its field
  unfold partOf at h
  split at h
  · rename_i items place hcontent _
    split at h
    · rename_i item hitem
      obtain rfl := Except.ok.inj h
      rw [hcontent]
      exact .inl (List.mem_of_getElem? hitem)
    · exact nomatch h
  · split at h
    · rename_i hcell
      obtain rfl := Except.ok.inj h
      exact hfield _ hcell
    · exact nomatch h

/-- A part of a value in the store is in the store. -/
theorem Closed.partOf (hs : s.Closed) {part : String} (h : s.partOf v part = .ok w) :
    s.cells.Within w := by
  rcases mem_parts_of_partOf h with hw | ⟨a, rfl⟩
  · exact hs.cells.content v w hw
  · trivial

/-- What a reference refers to is in the store: the name is, and then each part on the way. -/
theorem Closed.resolve (hs : s.Closed) {reference : Reference} (h : s.resolve reference = .ok w) :
    s.cells.Within w := by
  have hparts : ∀ (parts : List String) (v : Value), s.cells.Within v →
      parts.foldlM s.partOf v = .ok w → s.cells.Within w := by
    intro parts
    induction parts with
    | nil =>
      intro v hv h
      exact Except.ok.inj h ▸ hv
    | cons part rest ih =>
      intro v hv h
      rw [List.foldlM_cons] at h
      obtain ⟨u, hu, h⟩ := Outcome.bind_eq_ok_iff.1 h
      exact ih u (hs.partOf hu) h
  unfold State.resolve at h
  split at h
  · exact nomatch h
  · rename_i value hvalue
    exact hparts _ value (hs.names hvalue) h

/-- New cells do not change what a reference refers to. -/
theorem Closed.resolve_of_extended (hs : s.Closed) (h : s.cells <+: cells) (reference : Reference) :
    ({ s with cells } : State).resolve reference = s.resolve reference := by
  have hpart : ∀ (v : Value), s.cells.Within v → ∀ part,
      ({ s with cells } : State).partOf v part = s.partOf v part := by
    intro v hv part
    unfold State.partOf
    rw [show ({ s with cells } : State).cells.content v = s.cells.content v from
      Cells.content_of_extended h hv]
  have hparts : ∀ (parts : List String) (v : Value), s.cells.Within v →
      parts.foldlM ({ s with cells } : State).partOf v = parts.foldlM s.partOf v := by
    intro parts
    induction parts with
    | nil => exact fun v _ => rfl
    | cons part rest ih =>
      intro v hv
      rw [List.foldlM_cons, List.foldlM_cons, hpart v hv]
      cases hu : s.partOf v part with
      | error failure => rfl
      | ok u => exact ih u (hs.partOf hu)
  unfold State.resolve
  dsimp only
  split
  · rfl
  · rename_i value hvalue
    exact hparts _ value (hs.names hvalue)

/-! ### Making -/

/-- The values that are lent to what is made with a field: what is referred to lends what a copy has
in common with it, and the items of a new list are taken as they are. -/
def Lends (s : State) : Given → Value → Prop
  | .absent, _ => False
  | .nothing, _ => False
  | .one reference, v => ∃ value, s.resolve reference = .ok value ∧ v ∈ s.cells.lent value
  | .many references, v => ∃ reference ∈ references, s.resolve reference = .ok v

/-- What a field lends is in the store. -/
theorem Closed.lends (hs : s.Closed) {field : Given} (h : s.Lends field v) : s.cells.Within v := by
  cases field with
  | absent => exact h.elim
  | nothing => exact h.elim
  | one reference =>
    obtain ⟨value, hvalue, hv⟩ := h
    exact hs.cells.lent (hs.resolve hvalue) v hv
  | many references =>
    obtain ⟨reference, -, hv⟩ := h
    exact hs.resolve hv

variable {o : Origin} {made : Value × Cells}

/-- The items of a new list are lent by the field that names them, also after new cells have been
added. -/
theorem Closed.lends_items (hs : s.Closed) (h : s.cells <+: cells) {references : List Reference}
    {items : List Value}
    (hitems : references.mapM ({ s with cells } : State).resolve = .ok items) :
    ∀ v ∈ items, s.Lends (.many references) v := by
  intro v hv
  obtain ⟨reference, hreference, hresolved⟩ := Outcome.exists_of_mem_mapM hitems hv
  rw [hs.resolve_of_extended h] at hresolved
  exact ⟨reference, hreference, hresolved⟩

/-- A field that is to be copied offers what it lends. -/
theorem Closed.given_offers (hs : s.Closed) (hfirst : o.cells = s.cells) (hgrown : o.Grown cells)
    {field : Given} (hshared : ∀ v, s.Lends field v → o.shared v)
    (hmade : ({ s with cells } : State).given field noValue = .ok made) :
    cells <+: made.2 ∧ o.Grown made.2 ∧ o.Offers made.2 made.1 := by
  have hextended : s.cells <+: cells := hfirst ▸ hgrown.extended
  have hnothing : cells <+: cells ∧ o.Grown cells ∧ o.Offers cells .nothing :=
    ⟨List.prefix_refl _, hgrown, trivial, fun v hv => List.mem_singleton.1 hv ▸ .atom _⟩
  cases field with
  | absent => exact Except.ok.inj hmade ▸ hnothing
  | nothing => exact Except.ok.inj hmade ▸ hnothing
  | one reference =>
    obtain ⟨value, hvalue, rfl⟩ := Outcome.map_eq_ok_iff.1 hmade
    -- the value is older than the new cells, so it is what it was and lends what it lent
    rw [hs.resolve_of_extended hextended] at hvalue
    have hwithin := hs.resolve hvalue
    refine ⟨List.prefix_refl _, hgrown, hwithin.of_extended hextended, fun v hv => ?_⟩
    rw [Cells.lent_of_extended hextended hwithin] at hv
    exact .shared (hshared v ⟨value, hvalue, hv⟩)
  | many references =>
    obtain ⟨items, hitems, rfl⟩ := Outcome.map_eq_ok_iff.1 hmade
    have hallowed : ∀ v ∈ items, o.Allows cells v := fun v hv =>
      .shared (hshared v (hs.lends_items hextended hitems v hv))
    have hbuilt := (Origin.Builds.nothing hgrown).alloc (.list items) hallowed
    refine ⟨hbuilt.extended, hbuilt.grown, ?_, fun v hv => ?_⟩
    · show cells.length < (cells ++ [Cell.list items]).length
      rw [List.length_append]
      exact Nat.lt_succ_self _
    · unfold Cells.lent at hv
      rw [Cells.content_alloc] at hv
      exact (hallowed v hv).of_extended hbuilt.extended

/-- A field that is not copied is itself part of what is made. -/
theorem Closed.given_builds (hs : s.Closed) (hfirst : o.cells = s.cells) (hgrown : o.Grown cells)
    (hshared : ∀ v, s.cells.Within v → o.shared v) {field : Given} {default : Cells → Value × Cells}
    (hdefault : o.Builds cells [(default cells).1] (default cells).2)
    (hmade : ({ s with cells } : State).given field default = .ok made) :
    o.Builds cells [made.1] made.2 := by
  have hextended : s.cells <+: cells := hfirst ▸ hgrown.extended
  cases field with
  | absent => exact Except.ok.inj hmade ▸ hdefault
  | nothing =>
    exact Except.ok.inj hmade ▸ .taken hgrown (.atom .none)
  | one reference =>
    obtain ⟨value, hvalue, rfl⟩ := Outcome.map_eq_ok_iff.1 hmade
    rw [hs.resolve_of_extended hextended] at hvalue
    exact .taken hgrown (.shared (hshared value (hs.resolve hvalue)))
  | many references =>
    obtain ⟨items, hitems, rfl⟩ := Outcome.map_eq_ok_iff.1 hmade
    exact (Origin.Builds.nothing hgrown).alloc (.list items) fun v hv =>
      .shared (hshared v (hs.lends (hs.lends_items hextended hitems v hv)))

end State

/-- The fields from which a constructor takes over what is in them. -/
def Making.copied : Making → List Given
  | .payload value => [value]
  | .operationOf _ options => [options]
  | .output _ _ pads => [pads]
  | .stageOf _ inputPads outputPads operations => [inputPads, outputPads, operations]
  | _ => []

namespace State

variable {s : State} {made : Value × Cells}

/-- What a constructor builds is made of new cells and of what the fields lend. -/
theorem Closed.make_copied (hs : s.Closed) {shared : Value → Prop} {making : Making}
    (hcopied : making.copied ≠ [])
    (hshared : ∀ field ∈ making.copied, ∀ v, s.Lends field v → shared v)
    (hmade : s.make making = .ok made) :
    (Origin.mk s.cells shared).Builds s.cells [made.1] made.2 := by
  have hfirst := Origin.Grown.first ⟨s.cells, shared⟩
  cases making with
  | payload value =>
    obtain ⟨⟨given, cells⟩, hgiven, hmade⟩ := Outcome.bind_eq_ok_iff.1 hmade
    obtain ⟨hextended, hgrown, hoffers⟩ :=
      hs.given_offers rfl hfirst (hshared value List.mem_cons_self) hgiven
    have hbuilt := hgrown.makeOptions hoffers.lent hmade
    exact .of_extended hextended hbuilt
  | operationOf name options =>
    obtain ⟨⟨given, cells⟩, hgiven, hmade⟩ := Outcome.bind_eq_ok_iff.1 hmade
    obtain ⟨hextended, hgrown, hoffers⟩ :=
      hs.given_offers rfl hfirst (hshared options List.mem_cons_self) hgiven
    have hbuilt := hgrown.makeOperation name hoffers.lent hmade
    exact .of_extended hextended hbuilt
  | output path name pads =>
    obtain ⟨⟨given, cells⟩, hgiven, hmade⟩ := Outcome.bind_eq_ok_iff.1 hmade
    obtain ⟨hextended, hgrown, hoffers⟩ :=
      hs.given_offers rfl hfirst (hshared pads List.mem_cons_self) hgiven
    have hbuilt := hgrown.makeOutput path name hoffers.lent hmade
    exact .of_extended hextended hbuilt
  | stageOf name inputPads outputPads operations =>
    obtain ⟨⟨input, first⟩, hinput, hmade⟩ := Outcome.bind_eq_ok_iff.1 hmade
    obtain ⟨⟨output, second⟩, houtput, hmade⟩ := Outcome.bind_eq_ok_iff.1 hmade
    obtain ⟨⟨chain, third⟩, hchain, hmade⟩ := Outcome.bind_eq_ok_iff.1 hmade
    obtain ⟨hextended₁, hgrown₁, hoffers₁⟩ :=
      hs.given_offers rfl hfirst (hshared inputPads (by simp [Making.copied])) hinput
    obtain ⟨hextended₂, hgrown₂, hoffers₂⟩ :=
      hs.given_offers rfl hgrown₁ (hshared outputPads (by simp [Making.copied])) houtput
    obtain ⟨hextended₃, hgrown₃, hoffers₃⟩ :=
      hs.given_offers rfl hgrown₂ (hshared operations (by simp [Making.copied])) hchain
    -- what one list offers is still on offer when the lists after it have been given
    have hbuilt := hgrown₃.makeStage name (hoffers₁.of_extended (hextended₂.trans hextended₃))
      (hoffers₂.of_extended hextended₃) hoffers₃ hmade
    exact .of_extended ((hextended₁.trans hextended₂).trans hextended₃) hbuilt
  | _ => exact absurd rfl hcopied

/-- What is made of the values of a store is made of new cells and of values that were there. -/
theorem Closed.make (hs : s.Closed) {making : Making} (hmade : s.make making = .ok made) :
    (Origin.mk s.cells s.cells.Within).Builds s.cells [made.1] made.2 := by
  have hfirst := Origin.Grown.first ⟨s.cells, s.cells.Within⟩
  have hcopied : making.copied ≠ [] →
      (Origin.mk s.cells s.cells.Within).Builds s.cells [made.1] made.2 := fun hcopied =>
    hs.make_copied hcopied (fun _ _ _ hlends => hs.lends hlends) hmade
  cases making with
  | list items =>
    have hitems := hfirst.buildItems items
    exact Except.ok.inj hmade ▸ hitems.alloc (.list _) hitems.allowed
  | dictionary entries =>
    have hentries := hfirst.buildEntries (Entries.ofPairs entries)
    exact Except.ok.inj hmade ▸ hentries.alloc (.dictionary _) hentries.allowed
  | keyed values =>
    obtain ⟨⟨given, cells⟩, hgiven, hmade⟩ := Outcome.bind_eq_ok_iff.1 hmade
    have hvalues := hs.given_builds rfl hfirst (fun _ hv => hv)
      ((Origin.Builds.nothing hfirst).alloc (.dictionary []) fun v hv => nomatch hv) hgiven
    exact Except.ok.inj hmade ▸ hvalues.object .keyed [] fun v hv => nomatch hv
  | raw text =>
    have htext := hfirst.buildText text
    exact Except.ok.inj hmade ▸ htext.object .raw [] fun v hv => nomatch hv
  | operation name options =>
    obtain ⟨⟨given, cells⟩, hgiven, hmade⟩ := Outcome.bind_eq_ok_iff.1 hmade
    have hoptions := hs.given_builds rfl hfirst (fun _ hv => hv) hfirst.newOptions hgiven
    have hnew := hoptions.grown.newOperation name (hoptions.allowed given List.mem_cons_self)
    exact Except.ok.inj hmade ▸ .of_extended hoptions.extended hnew
  | stream path name direction pads =>
    obtain ⟨⟨given, cells⟩, hgiven, hmade⟩ := Outcome.bind_eq_ok_iff.1 hmade
    have hpads := hs.given_builds rfl hfirst (fun _ hv => hv) (.taken hfirst (.atom .none)) hgiven
    have hnew := hpads.grown.newStream path name direction (hpads.allowed given List.mem_cons_self)
    exact Except.ok.inj hmade ▸ .of_extended hpads.extended hnew
  | stage name inputPads outputPads operations =>
    obtain ⟨⟨input, first⟩, hinput, hmade⟩ := Outcome.bind_eq_ok_iff.1 hmade
    obtain ⟨⟨output, second⟩, houtput, hmade⟩ := Outcome.bind_eq_ok_iff.1 hmade
    obtain ⟨⟨chain, third⟩, hchain, hmade⟩ := Outcome.bind_eq_ok_iff.1 hmade
    -- a list that is left out is a new one of its own
    have hlist : ∀ {cells : Cells}, (Origin.mk s.cells s.cells.Within).Grown cells →
        (Origin.mk s.cells s.cells.Within).Builds cells [(newList cells).1] (newList cells).2 :=
      fun hgrown => (Origin.Builds.nothing hgrown).alloc (.list []) fun v hv => nomatch hv
    have hinput := hs.given_builds rfl hfirst (fun _ hv => hv) (hlist hfirst) hinput
    have houtput := hs.given_builds rfl hinput.grown (fun _ hv => hv) (hlist hinput.grown) houtput
    have hlists := hinput.andThen houtput
    have hchain := hs.given_builds rfl hlists.grown (fun _ hv => hv) (hlist hlists.grown) hchain
    have hlists := hlists.andThen hchain
    have hnew := hlists.grown.newStage name hlists.allowed
    exact Except.ok.inj hmade ▸ .of_extended hlists.extended hnew
  | payload value => exact hcopied (List.cons_ne_nil _ _)
  | operationOf name options => exact hcopied (List.cons_ne_nil _ _)
  | input path name =>
    exact Except.ok.inj hmade ▸ hfirst.newStream path name (.direction .input) (.atom .none)
  | output path name pads => exact hcopied (List.cons_ne_nil _ _)
  | stageOf name inputPads outputPads operations => exact hcopied (List.cons_ne_nil _ _)

end State

/-! ### Changing and asking -/

/-- What a change refers to as the thing to be changed. -/
def Change.target : Change → Reference
  | .append list _ => list
  | .put dictionary _ _ => dictionary
  | .assign object _ _ => object

/-- What a change brings in. -/
def Change.brings : Change → Source
  | .append _ item => item
  | .put _ _ value => .scalar value
  | .assign _ _ value => value

namespace State

variable {s : State} {made : Value × Cells}

/-- A change that succeeds writes the one cell that it refers to, and all that is new in this cell
is what the change brings in. -/
theorem change_eq_ok {change : Change} (h : s.change change = .ok made) :
    ∃ address brought cells cell, s.resolve change.target = .ok (.ref address) ∧
      s.source change.brings = .ok (brought, cells) ∧
      made = (.ref address, cells.write address cell) ∧
      ∀ v ∈ cell.parts, v = brought ∨ v ∈ (cells.content (.ref address)).parts := by
  -- each kind of change writes back what it has read, with what it brings as one of the parts
  cases change with
  | append list item =>
    obtain ⟨target, htarget, h⟩ := Outcome.bind_eq_ok_iff.1 h
    obtain ⟨⟨brought, cells⟩, hbrought, h⟩ := Outcome.bind_eq_ok_iff.1 h
    dsimp only at h
    split at h
    · rename_i address items _ hcontent
      refine ⟨address, brought, cells, _, htarget, hbrought, (Except.ok.inj h).symm, ?_⟩
      intro v hv
      rw [hcontent]
      rcases List.mem_append.1 hv with hv | hv
      · exact .inr hv
      · exact .inl (List.mem_singleton.1 hv)
    · exact nomatch h
  | put dictionary key value =>
    obtain ⟨target, htarget, h⟩ := Outcome.bind_eq_ok_iff.1 h
    dsimp only at h
    split at h
    · rename_i address entries hcontent
      refine ⟨address, _, _, _, htarget, rfl, (Except.ok.inj h).symm, ?_⟩
      intro v hv
      rw [hcontent]
      obtain ⟨e, he, rfl⟩ := List.mem_map.1 hv
      exact (Entries.eq_or_mem_of_mem_put he).imp_right fun he => List.mem_map.2 ⟨e, he, rfl⟩
    · exact nomatch h
    · exact nomatch h
  | assign object field value =>
    obtain ⟨target, htarget, h⟩ := Outcome.bind_eq_ok_iff.1 h
    obtain ⟨⟨brought, cells⟩, hbrought, h⟩ := Outcome.bind_eq_ok_iff.1 h
    dsimp only at h
    split at h
    · rename_i address shape fields _ hcontent
      refine ⟨address, brought, cells, _, htarget, hbrought, (Except.ok.inj h).symm, ?_⟩
      intro v hv
      rw [hcontent]
      obtain ⟨e, he, rfl⟩ := List.mem_map.1 hv
      exact (Entries.eq_or_mem_of_mem_put he).imp_right fun he => List.mem_map.2 ⟨e, he, rfl⟩
    · exact nomatch h

/-- What a source brings is built of values of the store. -/
theorem Closed.source (hs : s.Closed) {source : Source} (hmade : s.source source = .ok made) :
    (Origin.mk s.cells s.cells.Within).Builds s.cells [made.1] made.2 := by
  have hfirst := Origin.Grown.first ⟨s.cells, s.cells.Within⟩
  cases source with
  | scalar value => exact Except.ok.inj hmade ▸ hfirst.build value
  | reference reference =>
    obtain ⟨value, hvalue, rfl⟩ := Outcome.map_eq_ok_iff.1 hmade
    exact .taken hfirst (.shared (hs.resolve hvalue))

end State

/-- A value stays in the store when a cell is written. -/
theorem Cells.Within.write {cells : Cells} {v : Value} (h : cells.Within v) (address : Nat)
    (cell : Cell) : (cells.write address cell).Within v := by
  cases v with
  | atom a => trivial
  | ref other => simpa [Cells.Within, Cells.write] using h

/-- A closed store stays closed when what is written to a cell has its parts in the store. -/
theorem Cells.Closed.write {cells : Cells} (h : cells.Closed) (address : Nat) {cell : Cell}
    (hparts : ∀ v ∈ cell.parts, cells.Within v) : (cells.write address cell).Closed := by
  intro other found hread v hv
  have hlt : other < cells.length := by
    simpa [Cells.write] using (List.getElem?_eq_some_iff.1 hread).1
  by_cases hother : other = address
  · subst hother
    rw [Cells.read?_write_self hlt] at hread
    obtain rfl := Option.some.inj hread
    exact (hparts v hv).write other cell
  · rw [Cells.read?_write_ne hother] at hread
    exact (h other found hread v hv).write address cell

/-- What is built of the values of a closed store makes a closed store again. -/
theorem Cells.Closed.of_builds {cells after : Cells} (h : cells.Closed) {values : List Value}
    (hbuilds : (Origin.mk cells cells.Within).Builds cells values after) :
    after.Closed ∧ ∀ v ∈ values, after.Within v := by
  have hwithin : ∀ v, (Origin.mk cells cells.Within).Allows after v → after.Within v := by
    intro v hv
    cases hv with
    | atom a => trivial
    | shared hv => exact hv.of_extended hbuilds.extended
    | built _ hlt => exact hlt
  refine ⟨?_, fun v hv => hwithin v (hbuilds.allowed v hv)⟩
  intro address cell hread v hv
  by_cases hlt : address < cells.length
  · rw [Cells.read?_of_extended hbuilds.extended hlt] at hread
    exact (h address cell hread v hv).of_extended hbuilds.extended
  · exact hwithin v (hbuilds.grown.parts (Nat.le_of_not_lt hlt) hread v hv)

namespace State

variable {s : State} {made : Value × Cells}

/-- The answer to a question is built of values of the store. -/
theorem Closed.ask (hs : s.Closed) {question : Question} (hmade : s.ask question = .ok made) :
    (Origin.mk s.cells s.cells.Within).Builds s.cells [made.1] made.2 := by
  have hfirst := Origin.Grown.first ⟨s.cells, s.cells.Within⟩
  cases question with
  | look value =>
    obtain ⟨value, hvalue, hmade⟩ := Outcome.bind_eq_ok_iff.1 hmade
    exact Except.ok.inj hmade ▸ .taken hfirst (.shared (hs.resolve hvalue))
  | same a b =>
    obtain ⟨_, _, hmade⟩ := Outcome.bind_eq_ok_iff.1 hmade
    obtain ⟨_, _, hmade⟩ := Outcome.bind_eq_ok_iff.1 hmade
    exact Except.ok.inj hmade ▸ .taken hfirst (.atom _)
  | equal a b =>
    obtain ⟨_, _, hmade⟩ := Outcome.bind_eq_ok_iff.1 hmade
    obtain ⟨_, _, hmade⟩ := Outcome.bind_eq_ok_iff.1 hmade
    exact Except.ok.inj hmade ▸ .taken hfirst (.atom _)
  | render stage =>
    obtain ⟨_, _, hmade⟩ := Outcome.bind_eq_ok_iff.1 hmade
    obtain ⟨_, _, hmade⟩ := Outcome.bind_eq_ok_iff.1 hmade
    obtain ⟨text, _, hmade⟩ := Outcome.bind_eq_ok_iff.1 hmade
    exact Except.ok.inj hmade ▸ hfirst.buildText text
  | compile nodes strict =>
    obtain ⟨_, _, hmade⟩ := Outcome.bind_eq_ok_iff.1 hmade
    obtain ⟨text, _, hmade⟩ := Outcome.bind_eq_ok_iff.1 hmade
    exact Except.ok.inj hmade ▸ hfirst.buildText text
  | validate nodes =>
    obtain ⟨_, _, hmade⟩ := Outcome.bind_eq_ok_iff.1 hmade
    obtain ⟨report, _, hmade⟩ := Outcome.bind_eq_ok_iff.1 hmade
    exact Except.ok.inj hmade ▸ hfirst.newReport report

/-- Whatever a step does, the store stays closed, and the value of the step is in it. -/
theorem Closed.perform (hs : s.Closed) {action : Action} (hmade : s.perform action = .ok made) :
    made.2.Closed ∧ made.2.Within made.1 ∧ s.cells.length ≤ made.2.length := by
  cases action with
  | make making =>
    have hbuilds := hs.make hmade
    obtain ⟨hclosed, hwithin⟩ := hs.cells.of_builds hbuilds
    exact ⟨hclosed, hwithin _ List.mem_cons_self, hbuilds.extended.length_le⟩
  | change change =>
    obtain ⟨address, brought, cells, cell, htarget, hbrought, rfl, hparts⟩ := change_eq_ok hmade
    have hbuilds := hs.source hbrought
    obtain ⟨hclosed, hwithin⟩ := hs.cells.of_builds hbuilds
    have hcell : ∀ v ∈ cell.parts, cells.Within v := by
      intro v hv
      rcases hparts v hv with rfl | hv
      · exact hwithin v List.mem_cons_self
      · exact hclosed.content (.ref address) v hv
    have htarget := ((hs.resolve htarget).of_extended hbuilds.extended).write address cell
    refine ⟨hclosed.write address hcell, htarget, ?_⟩
    simpa [Cells.write] using hbuilds.extended.length_le
  | ask question =>
    have hbuilds := hs.ask hmade
    obtain ⟨hclosed, hwithin⟩ := hs.cells.of_builds hbuilds
    exact ⟨hclosed, hwithin _ List.mem_cons_self, hbuilds.extended.length_le⟩

/-- A step leaves a closed session closed, be it that it fails or not. -/
theorem Closed.step (hs : s.Closed) (step : Step) : (s.step step).1.Closed := by
  unfold State.step
  cases hmade : s.perform step.action with
  | error failure => exact hs
  | ok made =>
    obtain ⟨value, cells⟩ := made
    obtain ⟨hclosed, hwithin, hlength⟩ := hs.perform hmade
    -- the old names refer to cells that are still there, and a new name to the value of the step
    have hnames : ∀ {name : String} {v : Value}, s.names.find? name = some v → cells.Within v := by
      intro name v hv
      have hv := hs.names hv
      cases v with
      | atom a => trivial
      | ref address => exact Nat.lt_of_lt_of_le hv hlength
    refine ⟨hclosed, ?_⟩
    show ∀ {name : String} {v : Value},
      (step.name.elim s.names fun name => s.names.put name value).find? name = some v →
        cells.Within v
    cases step.name with
    | none => exact hnames
    | some put =>
      intro name v hv
      rw [Option.elim_some] at hv
      by_cases hput : name = put
      · subst hput
        rw [Entries.find?_put_self] at hv
        exact Option.some.inj hv ▸ hwithin
      · rw [Entries.find?_put_ne hput] at hv
        exact hnames hv

/-- A run of steps leaves a closed session closed. -/
theorem Closed.after (hs : s.Closed) (steps : List Step) : (s.after steps).Closed := by
  induction steps generalizing s with
  | nil => exact hs
  | cons step rest ih => exact ih (hs.step step)

/-- Every session is closed after any steps. -/
theorem closed_after (steps : List Step) : (State.after {} steps).Closed := by
  refine Closed.after ⟨?_, ?_⟩ steps
  · exact fun _ _ hread => nomatch hread
  · exact fun hname => nomatch hname

end State

end FilterGraph.Store
