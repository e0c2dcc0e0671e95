import FilterGraph.Proofs.ClosedStores
import Mathlib.Data.List.Perm.Subperm

/-!
# What a change leaves as it is

What is seen of a value depends on the cells that are seen from it only (`Cells.viewTo_congr`). A
change writes one cell, so a run of changes to some cells leaves the view of every value as it was
from which none of these cells is seen (`State.Closed.viewTo_after`).

A view goes as deep as the store has cells. This is deep enough as long as nothing that is seen
contains itself (`Cells.viewTo_of_ends`), and then cells that are added elsewhere do not make the
view any deeper.
-/

set_option autoImplicit false

namespace FilterGraph.Store

/-- The address that a value refers to, if it refers to one. -/
def Value.addresses : Value → List Nat
  | .atom _ => []
  | .ref address => [address]

namespace Cells

variable {cells after : Cells} {v w : Value} {address : Nat}

/-! ### What is seen from a value -/

/-- The cell is seen from the value. -/
def Sees (cells : Cells) (v : Value) (address : Nat) : Prop :=
  ∃ start, v = .ref start ∧ Reaches cells start address

/-- From a cell the cell itself is seen. -/
theorem sees_self (cells : Cells) (address : Nat) : cells.Sees (.ref address) address :=
  ⟨address, rfl, .refl⟩

/-- What is seen from a part is seen from the whole. -/
theorem Sees.of_part (hpart : w ∈ (cells.content v).parts) (h : cells.Sees w address) :
    cells.Sees v address := by
  obtain ⟨next, rfl, hreaches⟩ := h
  obtain ⟨start, rfl, hread⟩ := read?_of_mem_parts hpart
  refine ⟨start, rfl, ?_⟩
  induction hreaches with
  | refl => exact .part .refl hread hpart
  | part _ hmiddle hmem ih => exact .part ih hmiddle hmem

/-- What is seen from a value of a closed store is in the store. -/
theorem Closed.lt_of_sees (h : cells.Closed) (hv : cells.Within v) (hsees : cells.Sees v address) :
    address < cells.length := by
  obtain ⟨start, rfl, hreaches⟩ := hsees
  induction hreaches with
  | refl => exact hv
  | part _ hread hmem _ => exact h _ _ hread _ hmem

/-- A view of a value is determined by what the value is and by the views of its parts. -/
theorem viewTo_succ_congr {depth other : Nat} (hcontent : after.content v = cells.content v)
    (hparts : ∀ w ∈ (cells.content v).parts, after.viewTo other w = cells.viewTo depth w) :
    after.viewTo (other + 1) v = cells.viewTo (depth + 1) v := by
  have hentries : ∀ entries : Entries Value,
      (∀ w ∈ entries.map Prod.snd, after.viewTo other w = cells.viewTo depth w) →
      (entries.map fun e => (e.1, after.viewTo other e.2)) =
        entries.map fun e => (e.1, cells.viewTo depth e.2) :=
    fun entries h => List.map_congr_left fun e he =>
      congrArg (Prod.mk e.1) (h e.2 (List.mem_map.2 ⟨e, he, rfl⟩))
  -- a view looks at the content only, and then goes on with the parts
  unfold viewTo
  rw [hcontent]
  cases hcell : cells.content v with
  | atom a => rfl
  | list items =>
    rw [hcell] at hparts
    exact congrArg View.list (List.map_congr_left hparts)
  | dictionary entries =>
    rw [hcell] at hparts
    exact congrArg View.dictionary (hentries entries hparts)
  | record shape fields =>
    rw [hcell] at hparts
    exact congrArg (View.record shape) (hentries fields hparts)

/-- The view of a value does not change if the cells that are seen from it do not. -/
theorem viewTo_congr
    (h : ∀ address, cells.Sees v address → after.read? address = cells.read? address)
    (depth : Nat) : after.viewTo depth v = cells.viewTo depth v := by
  induction depth generalizing v with
  | zero => cases v <;> rfl
  | succ depth ih =>
    have hcontent : after.content v = cells.content v := by
      cases v with
      | atom a => rfl
      | ref start =>
        show (after.read? start).getD _ = (cells.read? start).getD _
        rw [h start (cells.sees_self start)]
    refine viewTo_succ_congr hcontent fun w hw => ih fun address hsees => ?_
    exact h address (hsees.of_part hw)

/-- The same cells are seen from the value in both stores, and each of them holds the same. -/
def SeesSame (cells after : Cells) (v : Value) : Prop :=
  ∀ address, (after.Sees v address ↔ cells.Sees v address) ∧
    (cells.Sees v address → after.read? address = cells.read? address)

/-- If the cells that are seen from the value do not change, no other ones come into view. -/
theorem seesSame_of_read?
    (h : ∀ address, cells.Sees v address → after.read? address = cells.read? address) :
    cells.SeesSame after v := by
  refine fun address => ⟨⟨?_, ?_⟩, h address⟩
  · -- step by step the way leads through cells that were seen before
    rintro ⟨start, rfl, hreaches⟩
    refine ⟨start, rfl, ?_⟩
    induction hreaches with
    | refl => exact .refl
    | part _ hread hmem ih => exact .part ih ((h _ ⟨start, rfl, ih⟩).symm.trans hread) hmem
  · rintro ⟨start, rfl, hreaches⟩
    refine ⟨start, rfl, ?_⟩
    induction hreaches with
    | refl => exact .refl
    | part hmiddle hread hmem ih => exact .part ih ((h _ ⟨start, rfl, hmiddle⟩).trans hread) hmem

/-! ### Values that do not contain themselves -/

/-- No cell that is seen from the value is part of itself. -/
def Ends (cells : Cells) (v : Value) : Prop :=
  ∀ address, cells.Sees v address →
    ∀ w ∈ (cells.content (.ref address)).parts, ¬ cells.Sees w address

/-- The parts of a value that does not contain itself do not contain themselves. -/
theorem Ends.of_part (hpart : w ∈ (cells.content v).parts) (h : cells.Ends v) : cells.Ends w :=
  fun address hsees => h address (hsees.of_part hpart)

/-- A view that has come from the given cells on its way down, none of which is seen again, ends
before there is no depth left for another cell. -/
theorem viewTo_add_of_ends (hends : cells.Ends v) (above : List Nat) (hnodup : above.Nodup)
    (hlt : ∀ a ∈ above, a < cells.length) (hapart : ∀ a ∈ above, ¬ cells.Sees v a)
    (depth more : Nat) (hdepth : cells.length < depth + above.length) :
    cells.viewTo (depth + more) v = cells.viewTo depth v := by
  induction depth generalizing v above with
  | zero =>
    -- more cells have been passed than there are
    have hsubset : above ⊆ List.range cells.length := fun a ha => List.mem_range.2 (hlt a ha)
    have hlength := (hnodup.subperm hsubset).length_le
    rw [List.length_range] at hlength
    omega
  | succ depth ih =>
    rw [Nat.add_right_comm]
    refine viewTo_succ_congr rfl fun w hw => ?_
    obtain ⟨start, rfl, hread⟩ := read?_of_mem_parts hw
    have hstart : start < cells.length := (List.getElem?_eq_some_iff.1 hread).1
    have hsees := cells.sees_self start
    refine ih (hends.of_part hw) (start :: above) ?_ ?_ ?_ ?_
    · exact List.nodup_cons.2 ⟨fun hmem => hapart start hmem hsees, hnodup⟩
    · exact List.forall_mem_cons.2 ⟨hstart, hlt⟩
    · refine List.forall_mem_cons.2 ⟨hends start hsees w hw, ?_⟩
      exact fun a ha hsees => hapart a ha (hsees.of_part hw)
    · rw [List.length_cons]
      omega

/-- Of a value that does not contain itself everything is seen. -/
theorem viewTo_of_ends (hends : cells.Ends v) {depth : Nat} (hdepth : cells.length < depth) :
    cells.viewTo depth v = cells.view v := by
  obtain ⟨more, rfl⟩ := Nat.exists_eq_add_of_le (Nat.succ_le_of_lt hdepth)
  exact viewTo_add_of_ends hends [] List.nodup_nil (fun a ha => nomatch ha)
    (fun a ha => nomatch ha) _ _ (Nat.lt_succ_self _)

/-- The cells refer to each other only, and each of them to earlier ones. -/
def Descend (cells : Cells) (seen : List Nat) : Prop :=
  ∀ a ∈ seen, ∀ w ∈ (cells.content (.ref a)).parts, ∀ b ∈ w.addresses, b ∈ seen ∧ b < a

/-- Whether cells refer to earlier ones of them can be decided cell by cell. -/
instance (cells : Cells) (seen : List Nat) : Decidable (cells.Descend seen) :=
  inferInstanceAs (Decidable (∀ a ∈ seen, ∀ w ∈ (cells.content (.ref a)).parts,
    ∀ b ∈ w.addresses, b ∈ seen ∧ b < a))

/-- From one of such cells only such cells are seen, and none that is later. -/
theorem Descend.of_sees {seen : List Nat} (h : cells.Descend seen) {start : Nat}
    (hstart : start ∈ seen) (hsees : cells.Sees (.ref start) address) :
    address ∈ seen ∧ address ≤ start := by
  obtain ⟨_, hsame, hreaches⟩ := hsees
  obtain rfl := Value.ref.inj hsame
  induction hreaches with
  | refl => exact ⟨hstart, Nat.le_refl _⟩
  | part _ hread hmem ih =>
    rename_i middle next cell _
    rw [← content_of_read? hread] at hmem
    obtain ⟨hnext, hlt⟩ := h middle ih.1 (.ref next) hmem next List.mem_cons_self
    exact ⟨hnext, hlt.le.trans ih.2⟩

/-- A cell that refers to earlier ones only does not contain itself. -/
theorem Descend.ends {seen : List Nat} (h : cells.Descend seen) {start : Nat}
    (hstart : start ∈ seen) : cells.Ends (.ref start) := by
  intro address hsees w hw hagain
  obtain ⟨next, rfl, -⟩ := id hagain
  obtain ⟨hnext, hlt⟩ := h address (h.of_sees hstart hsees).1 (.ref next) hw next List.mem_cons_self
  have hle := (h.of_sees hnext hagain).2
  omega

end Cells

/-! ### Runs of changes -/

/-- The step changes something, which is one of the given cells. -/
def Step.Changes (targets : List Nat) (s : State) (step : Step) : Prop :=
  ∃ change, step.action = .change change ∧
    ∃ address ∈ targets, s.resolve change.target = .ok (.ref address)

namespace State

variable {targets : List Nat} {s : State} {v : Value}

/-- Each of the steps changes one of the given cells, as the references stand at that moment. -/
def ChangesOnly (targets : List Nat) : State → List Step → Prop
  | _, [] => True
  | s, step :: rest => step.Changes targets s ∧ ChangesOnly targets (s.step step).1 rest

/-- After a step that succeeds, the cells are those that it has come to. -/
theorem cells_step_of_ok (step : Step) {made : Value × Cells}
    (h : s.perform step.action = .ok made) : (s.step step).1.cells = made.2 := by
  unfold State.step
  rw [h]

/-- A step that fails changes nothing. -/
theorem step_of_error (step : Step) {failure : Failure}
    (h : s.perform step.action = .error failure) : (s.step step).1 = s := by
  unfold State.step
  rw [h]

/-- A change leaves all other cells as they are. -/
theorem Closed.read?_step (hs : s.Closed) {step : Step} (h : step.Changes targets s) :
    s.cells.length ≤ (s.step step).1.cells.length ∧
      ∀ address < s.cells.length, address ∉ targets →
        (s.step step).1.cells.read? address = s.cells.read? address := by
  obtain ⟨change, haction, target, htarget, hresolve⟩ := h
  have hperform : s.perform step.action = s.change change := by
    rw [haction]
    rfl
  cases hmade : s.change change with
  | error failure =>
    rw [step_of_error step (hperform.trans hmade)]
    exact ⟨Nat.le_refl _, fun _ _ _ => rfl⟩
  | ok made =>
    rw [cells_step_of_ok step (hperform.trans hmade)]
    obtain ⟨address, brought, cells, cell, haddress, hbrought, rfl, -⟩ := change_eq_ok hmade
    obtain rfl : target = address := by
      rw [hresolve] at haddress
      exact Value.ref.inj (Except.ok.inj haddress)
    -- what the change brings may need new cells; only then is the target written
    have hextended := (hs.source hbrought).extended
    constructor
    · rw [Cells.write, List.length_set]
      exact hextended.length_le
    · intro other hother hmem
      have hne : other ≠ target := fun h => hmem (h ▸ htarget)
      rw [Cells.read?_write_ne hne, Cells.read?_of_extended hextended hother]

/-- A run of changes leaves all other cells as they are. -/
theorem Closed.read?_after (hs : s.Closed) {steps : List Step} (h : s.ChangesOnly targets steps) :
    s.cells.length ≤ (s.after steps).cells.length ∧
      ∀ address < s.cells.length, address ∉ targets →
        (s.after steps).cells.read? address = s.cells.read? address := by
  induction steps generalizing s with
  | nil => exact ⟨Nat.le_refl _, fun _ _ _ => rfl⟩
  | cons step rest ih =>
    obtain ⟨hlength, hread⟩ := hs.read?_step h.1
    obtain ⟨hlengths, hreads⟩ := ih (hs.step step) h.2
    refine ⟨hlength.trans hlengths, fun address haddress hmem => ?_⟩
    exact (hreads address (Nat.lt_of_lt_of_le haddress hlength) hmem).trans
      (hread address haddress hmem)

/-- Changes to cells that are not seen from a value leave every cell as it is that is seen from
it. -/
theorem Closed.seesSame_after (hs : s.Closed) (hv : s.cells.Within v)
    (hapart : ∀ address ∈ targets, ¬ s.cells.Sees v address) {steps : List Step}
    (h : s.ChangesOnly targets steps) : s.cells.SeesSame (s.after steps).cells v := by
  refine Cells.seesSame_of_read? fun address hsees => ?_
  exact (hs.read?_after h).2 address (hs.cells.lt_of_sees hv hsees) fun hmem =>
    hapart address hmem hsees

/-- Changes to cells that are not seen from a value do not change what is seen of it, however deep
one looks. -/
theorem Closed.viewTo_after (hs : s.Closed) (hv : s.cells.Within v)
    (hapart : ∀ address ∈ targets, ¬ s.cells.Sees v address) {steps : List Step}
    (h : s.ChangesOnly targets steps) (depth : Nat) :
    (s.after steps).cells.viewTo depth v = s.cells.viewTo depth v :=
  Cells.viewTo_congr (fun address => (hs.seesSame_after hv hapart h address).2) depth

/-- A value that does not contain itself has the same view after changes to cells that are not seen
from it. -/
theorem Closed.view_after (hs : s.Closed) (hv : s.cells.Within v) (hends : s.cells.Ends v)
    (hapart : ∀ address ∈ targets, ¬ s.cells.Sees v address) {steps : List Step}
    (h : s.ChangesOnly targets steps) : (s.after steps).cells.view v = s.cells.view v := by
  have hlength := (hs.read?_after h).1
  calc (s.after steps).cells.view v
    _ = s.cells.viewTo ((s.after steps).cells.length + 1) v := hs.viewTo_after hv hapart h _
    _ = s.cells.view v := Cells.viewTo_of_ends hends (Nat.lt_succ_of_le hlength)

end State

end FilterGraph.Store
