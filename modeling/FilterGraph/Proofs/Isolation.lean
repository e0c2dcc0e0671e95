import FilterGraph.Proofs.StoreFrames

/-!
# Nodes apart from what they are made of

The constructors copy the lists and the dictionaries that they are given, but not what is in them,
and they take options that are a payload already as they are. So a container that was given to a
constructor is seen from the new object only if it is seen from something that was lent in this way
(`State.Closed.not_sees_of_make`). If it is not, it can be changed again and again, and the object
looks as it did at first, is written as it was, and counts for the same in every graph
(`State.views_after_changes`).

The other nodes of a graph have to be apart from the container themselves. A plain object shares
what it is given, and a graph with such an object changes (`State.exists_command_changed`).
-/

set_option autoImplicit false

namespace FilterGraph.Store

/-! ### What is seen of something new -/

/-- From what has been built only new cells are seen, and what is seen from shared values. -/
theorem Origin.Builds.sees_cases {o : Origin} {values : List Value} {after : Cells}
    (hclosed : o.cells.Closed) (hshared : ∀ v, o.shared v → o.cells.Within v)
    (h : o.Builds o.cells values after) {x : Value} (hx : x ∈ values) {address : Nat}
    (hsees : after.Sees x address) :
    o.cells.length ≤ address ∨ ∃ v, o.shared v ∧ o.cells.Sees v address := by
  have hallowed : ∀ {address : Nat}, o.Allows after (.ref address) →
      o.cells.length ≤ address ∨ ∃ v, o.shared v ∧ o.cells.Sees v address := by
    intro address haddress
    cases haddress with
    | shared hv => exact .inr ⟨_, hv, o.cells.sees_self address⟩
    | built hle _ => exact .inl hle
  obtain ⟨start, rfl, hreaches⟩ := hsees
  induction hreaches with
  | refl => exact hallowed (h.allowed _ hx)
  | part _ hread hmem ih =>
    rename_i middle address cell _
    rcases ih with hle | ⟨v, hv, hsees⟩
    · exact hallowed (h.grown.parts hle hread _ hmem)
    · -- the first cells have not changed, and so the way goes on as it did before
      have hlt := hclosed.lt_of_sees (hshared v hv) hsees
      rw [Cells.read?_of_extended h.extended hlt] at hread
      obtain ⟨start, rfl, hreaches⟩ := hsees
      exact .inr ⟨_, hv, start, rfl, .part hreaches hread hmem⟩

namespace State

variable {s : State} {making : Making} {x : Value} {cells : Cells}

/-- A container that has been given to a constructor is not seen from the new object, unless it is
seen from something that has been lent. -/
theorem Closed.not_sees_of_make (hs : s.Closed) (hmade : s.make making = .ok (x, cells))
    {reference : Reference} (hgiven : .one reference ∈ making.copied) {address : Nat}
    (hresolve : s.resolve reference = .ok (.ref address))
    (hroute : ∀ field ∈ making.copied, ∀ v, s.Lends field v → ¬ s.cells.Sees v address) :
    ¬ cells.Sees x address := by
  intro hsees
  have hbuilds : (Origin.mk s.cells fun v => ∃ field ∈ making.copied, s.Lends field v).Builds
      s.cells [x] cells :=
    hs.make_copied (List.ne_nil_of_mem hgiven) (fun field hfield v hv => ⟨field, hfield, hv⟩) hmade
  have hshared : ∀ v, (∃ field ∈ making.copied, s.Lends field v) → s.cells.Within v :=
    fun v ⟨_, _, hv⟩ => hs.lends hv
  have hwithin : address < s.cells.length := hs.resolve hresolve
  rcases hbuilds.sees_cases hs.cells hshared List.mem_cons_self hsees with
    hle | ⟨v, ⟨field, hfield, hv⟩, hsees⟩
  · exact Nat.not_lt.2 hle hwithin
  · exact hroute field hfield v hv hsees

/-- A new object is in the store, and containers that were given to its constructor and not lent are
apart from it. -/
theorem Closed.apart_of_make (hs : s.Closed) (hmade : s.make making = .ok (x, cells))
    {targets : List Nat}
    (hgiven : ∀ address ∈ targets, ∃ reference,
      .one reference ∈ making.copied ∧ s.resolve reference = .ok (.ref address))
    (hroute : ∀ address ∈ targets, ∀ field ∈ making.copied, ∀ v,
      s.Lends field v → ¬ s.cells.Sees v address) :
    cells.Within x ∧ ∀ address ∈ targets, ¬ cells.Sees x address := by
  have hperform : s.perform (.make making) = .ok (x, cells) := hmade
  refine ⟨(hs.perform hperform).2.1, fun address haddress => ?_⟩
  obtain ⟨reference, hreference, hresolve⟩ := hgiven address haddress
  exact hs.not_sees_of_make hmade hreference hresolve (hroute address haddress)

/-- **New nodes are apart from the containers that they were made of.** Let an object be built by a
constructor in any store, and let some lists and dictionaries be among what the constructor was
given. If none of them is seen from what the object shares with what was given, then appending to
the lists and putting into the dictionaries, in any order and as often as one likes, changes no cell
that is seen from the object, nor what is seen of it to any depth. If the object does not contain
itself, its whole view stays the same, and so does its text if it is a stage. For any graph of this
object and of nodes from which none of the containers is seen, the same holds of every node, and the
command and the report of the graph stay the same. -/
theorem views_after_changes (hs : s.Closed) (hmade : s.make making = .ok (x, cells))
    {targets : List Nat}
    (hgiven : ∀ address ∈ targets, ∃ reference,
      .one reference ∈ making.copied ∧ s.resolve reference = .ok (.ref address))
    (hroute : ∀ address ∈ targets, ∀ field ∈ making.copied, ∀ v,
      s.Lends field v → ¬ s.cells.Sees v address)
    (name : Option String) {changes : List Step}
    (hchanges : (s.step { action := .make making, name }).1.ChangesOnly targets changes) :
    let built := (s.step { action := .make making, name }).1
    let later := built.after changes
    built.cells.SeesSame later.cells x ∧
    (∀ depth, later.cells.viewTo depth x = built.cells.viewTo depth x) ∧
    (built.cells.Ends x → later.cells.view x = built.cells.view x ∧
      ((later.cells.view x).toStage >>= Stage.render) =
        ((built.cells.view x).toStage >>= Stage.render)) ∧
    ∀ nodes : List Value,
      (∀ v ∈ nodes, v = x ∨
        built.cells.Within v ∧ ∀ address ∈ targets, ¬ built.cells.Sees v address) →
      (∀ v ∈ nodes, built.cells.SeesSame later.cells v) ∧
      (∀ depth, nodes.map (later.cells.viewTo depth) = nodes.map (built.cells.viewTo depth)) ∧
      ((∀ v ∈ nodes, built.cells.Ends v) →
        (∀ strict, View.command (nodes.map later.cells.view) strict =
          View.command (nodes.map built.cells.view) strict) ∧
        View.validate (nodes.map later.cells.view) =
          View.validate (nodes.map built.cells.view)) := by
  intro built later
  have hbuilt : built.Closed := hs.step _
  have hcells : built.cells = cells :=
    cells_step_of_ok { action := .make making, name } (show s.perform (.make making) = _ from hmade)
  have hx : built.cells.Within x ∧ ∀ address ∈ targets, ¬ built.cells.Sees x address :=
    hcells ▸ hs.apart_of_make hmade hgiven hroute
  have hview : ∀ v, built.cells.Within v ∧ (∀ address ∈ targets, ¬ built.cells.Sees v address) →
      built.cells.Ends v → later.cells.view v = built.cells.view v :=
    fun v hv hends => hbuilt.view_after hv.1 hends hv.2 hchanges
  refine ⟨hbuilt.seesSame_after hx.1 hx.2 hchanges, hbuilt.viewTo_after hx.1 hx.2 hchanges,
    fun hends => ?_, fun nodes hnodes => ?_⟩
  · rw [hview x hx hends]
    exact ⟨rfl, rfl⟩
  · -- the object is apart from the containers, and so are the other nodes
    have hapart : ∀ v ∈ nodes,
        built.cells.Within v ∧ ∀ address ∈ targets, ¬ built.cells.Sees v address := by
      intro v hv
      rcases hnodes v hv with rfl | hv
      · exact hx
      · exact hv
    refine ⟨fun v hv => ?_, fun depth => ?_, fun hends => ?_⟩
    · exact hbuilt.seesSame_after (hapart v hv).1 (hapart v hv).2 hchanges
    · exact List.map_congr_left fun v hv =>
        hbuilt.viewTo_after (hapart v hv).1 (hapart v hv).2 hchanges depth
    · have hviews : nodes.map later.cells.view = nodes.map built.cells.view :=
        List.map_congr_left fun v hv => hview v (hapart v hv) (hends v hv)
      rw [hviews]
      exact ⟨fun _ => rfl, rfl⟩

/-- A session in which a row of pads and a chain with one operation have been built. -/
def chainSession : State := State.after {} [
  { action := .make (.list [.text "0:v"]), name := some "pads" },
  { action := .make (.dictionary [("w", .text "640")]), name := some "options" },
  { action := .make (.operationOf "crop" (.one ⟨"options", []⟩)), name := some "crop" },
  { action := .make (.list []), name := some "chain" },
  { action := .change (.append ⟨"chain", []⟩ (.reference ⟨"crop", []⟩)) }]

/-- A stage of the pads and of the chain is written as before when another pad has been appended,
and even when the stage itself has been appended to its own chain. -/
theorem views_after_chainChanges :
    let making : Making :=
      .stageOf "preview" (.one ⟨"pads", []⟩) .absent (.one ⟨"chain", []⟩)
    let changes : List Step := [
      { action := .change (.append ⟨"pads", []⟩ (.scalar (.text "1:v"))) },
      { action := .change (.append ⟨"chain", []⟩ (.reference ⟨"stage", []⟩)) }]
    let built := (chainSession.step { action := .make making, name := some "stage" }).1
    let later := built.after changes
    chainSession.Closed ∧
    (∃ cells, chainSession.make making = .ok (.ref 13, cells)) ∧
    (∀ address ∈ [1, 8], ∃ reference, .one reference ∈ making.copied ∧
      chainSession.resolve reference = .ok (.ref address)) ∧
    (∀ address ∈ [1, 8], ∀ field ∈ making.copied, ∀ v,
      chainSession.Lends field v → ¬ chainSession.cells.Sees v address) ∧
    built.ChangesOnly [1, 8] changes ∧
    later.cells.view (.ref 13) = built.cells.view (.ref 13) ∧
    ((built.cells.view (.ref 13)).toStage >>= Stage.render) = .ok "[0:v]crop=w=640" ∧
    View.command ([.ref 13].map later.cells.view) false =
      View.command ([.ref 13].map built.cells.view) false := by
  intro making changes built later
  have hclosed : chainSession.Closed := closed_after _
  have hmade : ∃ cells, chainSession.make making = .ok (.ref 13, cells) := ⟨_, rfl⟩
  have hgiven : ∀ address ∈ [1, 8], ∃ reference, .one reference ∈ making.copied ∧
      chainSession.resolve reference = .ok (.ref address) := by
    intro address haddress
    simp only [List.mem_cons, List.not_mem_nil, or_false] at haddress
    rcases haddress with rfl | rfl
    · exact ⟨⟨"pads", []⟩, by simp [making, Making.copied], rfl⟩
    · exact ⟨⟨"chain", []⟩, by simp [making, Making.copied], rfl⟩
  -- what is lent are the one label and the one operation
  have hlent : ∀ field ∈ making.copied, ∀ v,
      chainSession.Lends field v → v = .ref 0 ∨ v = .ref 7 := by
    intro field hfield v hv
    simp only [making, Making.copied, List.mem_cons, List.not_mem_nil, or_false] at hfield
    rcases hfield with rfl | rfl | rfl
    · obtain ⟨value, hvalue, hv⟩ := hv
      obtain rfl : .ref 1 = value := Except.ok.inj hvalue
      exact .inl (List.mem_singleton.1 hv)
    · exact hv.elim
    · obtain ⟨value, hvalue, hv⟩ := hv
      obtain rfl : .ref 8 = value := Except.ok.inj hvalue
      exact .inr (List.mem_singleton.1 hv)
  have hdescend : chainSession.cells.Descend [0, 2, 4, 5, 6, 7] := by decide
  have hroute : ∀ address ∈ [1, 8], ∀ field ∈ making.copied, ∀ v,
      chainSession.Lends field v → ¬ chainSession.cells.Sees v address := by
    have hapart : ∀ address ∈ [1, 8], address ∉ [0, 2, 4, 5, 6, 7] := by decide
    intro address haddress field hfield v hv hsees
    refine hapart address haddress ?_
    rcases hlent field hfield v hv with rfl | rfl
    · exact (hdescend.of_sees (by decide) hsees).1
    · exact (hdescend.of_sees (by decide) hsees).1
  have hchanges : built.ChangesOnly [1, 8] changes :=
    ⟨⟨_, rfl, 1, by decide, rfl⟩, ⟨_, rfl, 8, by decide, rfl⟩, trivial⟩
  obtain ⟨cells, hmade'⟩ := hmade
  have hends : built.cells.Ends (.ref 13) := by
    have hdescend : built.cells.Descend [0, 2, 4, 5, 6, 7, 9, 10, 11, 12, 13] := by decide
    exact hdescend.ends (by decide)
  obtain ⟨-, -, hview, hgraphs⟩ :=
    views_after_changes hclosed hmade' hgiven hroute (some "stage") hchanges
  obtain ⟨-, -, hcommands⟩ := hgraphs [.ref 13] (by simp)
  have hcommand := hcommands (by simpa using hends)
  exact ⟨hclosed, ⟨cells, hmade'⟩, hgiven, hroute, hchanges, (hview hends).1, rfl, hcommand.1 false⟩

/-- A session with a row of pads and with a plain stream that shares it. -/
def sharingSession : State := State.after {} [
  { action := .make (.list [.text "v"]), name := some "pads" },
  { action := .make (.stream "again.mp4" "" (.direction .output) (.one ⟨"pads", []⟩)) }]

/-- A new output is apart from its row of pads. Still, a graph of this output and of a plain stream
that shares the row has another command when a pad has been appended. -/
theorem exists_command_changed :
    let making : Making := .output "out.mp4" "" (.one ⟨"pads", []⟩)
    let changes : List Step := [{ action := .change (.append ⟨"pads", []⟩ (.scalar (.text "w"))) }]
    let built := (sharingSession.step { action := .make making }).1
    let later := built.after changes
    sharingSession.Closed ∧ sharingSession.make making = .ok (.ref 5, built.cells) ∧
    .one ⟨"pads", []⟩ ∈ making.copied ∧ sharingSession.resolve ⟨"pads", []⟩ = .ok (.ref 0) ∧
    (∀ field ∈ making.copied, ∀ v,
      sharingSession.Lends field v → ¬ sharingSession.cells.Sees v 0) ∧
    ¬ built.cells.Sees (.ref 5) 0 ∧ built.ChangesOnly [0] changes ∧
    View.command ([.ref 5, .ref 2].map later.cells.view) false ≠
      View.command ([.ref 5, .ref 2].map built.cells.view) false := by
  intro making changes built later
  have hroute : ∀ field ∈ making.copied, ∀ v,
      sharingSession.Lends field v → ¬ sharingSession.cells.Sees v 0 := by
    intro field hfield v hv
    obtain rfl := List.mem_singleton.1 hfield
    obtain ⟨value, hvalue, hv⟩ := hv
    obtain rfl : .ref 0 = value := Except.ok.inj hvalue
    -- the one label in the row is an atom
    obtain rfl : v = .atom (.text "v") := List.mem_singleton.1 hv
    exact fun ⟨_, hsees, _⟩ => nomatch hsees
  have hdescend : built.cells.Descend [3, 4, 5] := by decide
  have hapart : ¬ built.cells.Sees (.ref 5) 0 := fun hsees =>
    absurd (hdescend.of_sees (by decide) hsees).1 (by decide)
  exact ⟨closed_after _, rfl, List.mem_cons_self, rfl, hroute, hapart,
    ⟨⟨_, rfl, 0, by decide, rfl⟩, trivial⟩, by decide⟩

end State

end FilterGraph.Store
