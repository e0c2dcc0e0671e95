import FilterGraph.Finding
import FilterGraph.Proofs.Delimited
import Mathlib

/-!
# Messages of different defects

The message of a defect quotes what the defect is about and then complains of it. The quoted text is
arbitrary and may hold quotation marks, phrases and numbers that look like another message, so a
message is read from its end: no complaint holds a quotation mark, hence the last mark of the
message is the one that ends the quotation. After that mark stands one of seven phrases, none of
which starts with another. It tells which kind of defect it is and where the numbers stand. In this
way no two defects have the same message (`Defect.message_injective`).

The same does not hold of all remarks, since a remark about an operation in a stage quotes two
texts. A label that is never taken in is still told apart from everything else that is remarked on
(`Remark.eq_unconsumed_of_message_eq`).
-/

set_option autoImplicit false

namespace FilterGraph

/-! ### Numbers in messages -/

/-- A character that is no digit does not occur in a number. -/
theorem notMem_toList_repr {c : Char} (hc : c.isDigit = false) (n : Nat) :
    c ∉ n.repr.toList := by
  rw [Nat.toList_repr]
  intro hmem
  rw [Nat.isDigit_of_mem_toDigits (by decide) (by decide) hmem] at hc
  cases hc

/-- The two numbers of the message about a missing input can be read off what follows its phrase,
since no number holds the space between them. -/
theorem repr_append_inj {m n k l : Nat} {ending : String}
    (h : m.repr ++ (" but the graph has " ++ (k.repr ++ ending)) =
      n.repr ++ (" but the graph has " ++ (l.repr ++ ending))) : m = n ∧ k = l := by
  have hword : " but the graph has ".toList = ' ' :: "but the graph has ".toList := by decide
  have htexts := congrArg String.toList h
  simp only [String.toList_append, hword, List.cons_append] at htexts
  obtain ⟨hmn, hrest⟩ := Delimited.eq_of_append_cons_eq (notMem_toList_repr (by decide) m)
    (notMem_toList_repr (by decide) n) htexts
  have hkl := List.append_cancel_right (List.append_cancel_left hrest)
  exact ⟨Nat.repr_inj.1 (String.toList_inj.1 hmn), Nat.repr_inj.1 (String.toList_inj.1 hkl)⟩

/-! ### Complaints -/

/-- What a message complains of, after a quotation. -/
inductive Complaint where
  | reserved
  | nameless
  | unmapped
  | producedOften
  | consumedOften
  | beyondInputs
  | dangling
  deriving DecidableEq

namespace Complaint

/-- The phrase that a complaint begins with, together with the mark that ends the quotation. -/
def phrase : Complaint → String
  | reserved => "' contains reserved characters: "
  | nameless => "' has an invocation without a name"
  | unmapped => "' has no mapped pads while filter stages exist"
  | producedOften => "' is produced by "
  | consumedOften => "' is consumed "
  | beyondInputs => "' refers to input "
  | dangling => "' is referenced but never produced"

/-- All complaints. -/
def all : List Complaint :=
  [reserved, nameless, unmapped, producedOften, consumedOften, beyondInputs, dangling]

/-- No complaint is left out. -/
theorem mem_all (c : Complaint) : c ∈ all := by cases c <;> decide

/-- No phrase starts with another one. -/
theorem eq_of_isPrefix : ∀ c ∈ all, ∀ d ∈ all, c.phrase.toList <+: d.phrase.toList → c = d := by
  decide

/-- The mark that a phrase begins with is the only one in it. -/
theorem exists_toList_phrase (c : Complaint) :
    ∃ words, c.phrase.toList = '\'' :: words ∧ '\'' ∉ words :=
  ⟨c.phrase.toList.tail, by cases c <;> decide⟩

/-- Two equal texts that begin with a phrase begin with the same one and go on in the same way. -/
theorem eq_of_append_eq {c d : Complaint} {s t : List Char}
    (h : c.phrase.toList ++ s = d.phrase.toList ++ t) : c = d ∧ s = t := by
  have hprefix : c.phrase.toList <+: d.phrase.toList ++ t := h ▸ List.prefix_append _ _
  have hcd : c = d := by
    rcases List.prefix_or_prefix_of_prefix hprefix (List.prefix_append _ _) with hc | hd
    · exact eq_of_isPrefix c c.mem_all d d.mem_all hc
    · exact (eq_of_isPrefix d d.mem_all c c.mem_all hd).symm
  subst hcd
  exact ⟨rfl, List.append_cancel_left h⟩

end Complaint

/-! ### Defects -/

namespace Defect

/-- What the message of a defect complains of, if it quotes anything. -/
def complaint? : Defect → Option Complaint
  | .emptyPad => none
  | .reservedInPad _ => some .reserved
  | .namelessOperation _ => some .nameless
  | .unmappedOutput _ => some .unmapped
  | .producedOften _ _ => some .producedOften
  | .consumedOften _ _ => some .consumedOften
  | .beyondInputs _ _ _ => some .beyondInputs
  | .dangling _ => some .dangling

/-- The message up to the end of the quoted text. -/
def quotation : Defect → String
  | .emptyPad => ""
  | .reservedInPad pad => "Pad label '" ++ pad
  | .namelessOperation stage => "Filter stage '" ++ stage
  | .unmappedOutput path => "Output stream '" ++ path
  | .producedOften pad _ | .consumedOften pad _ | .beyondInputs pad _ _ | .dangling pad =>
    "Pad '" ++ pad

/-- What follows the phrase of the complaint. -/
def details : Defect → String
  | .emptyPad | .namelessOperation _ | .unmappedOutput _ | .dangling _ => ""
  | .reservedInPad pad => String.intercalate " " ((reservedIn pad).map String.singleton)
  | .producedOften _ count => count.repr ++ " stage outputs"
  | .consumedOften _ count => count.repr ++ " times"
  | .beyondInputs _ index inputs =>
    index.repr ++ (" but the graph has " ++ (inputs.repr ++ " input stream(s)"))

/-- Only the defect of a pad without a label quotes nothing. -/
theorem complaint?_eq_none_iff (d : Defect) : d.complaint? = none ↔ d = .emptyPad := by
  cases d <;> simp [complaint?]

/-- The message of a defect that complains of something is the quotation, the phrase of the
complaint and the details, in this order. -/
theorem message_eq {d : Defect} {c : Complaint} (h : d.complaint? = some c) :
    d.message = d.quotation ++ c.phrase ++ d.details := by
  cases d with
  | emptyPad => cases h
  | reservedInPad pad =>
    cases h
    rfl
  | namelessOperation stage =>
    cases h
    exact String.append_empty.symm
  | unmappedOutput path =>
    cases h
    exact String.append_empty.symm
  | producedOften pad count =>
    cases h
    exact String.append_assoc
  | consumedOften pad count =>
    cases h
    exact String.append_assoc
  | beyondInputs pad index inputs =>
    cases h
    exact String.append_assoc.trans (String.append_assoc.trans String.append_assoc)
  | dangling pad =>
    cases h
    exact String.append_empty.symm

/-- No mark of quotation stands in the details, so the one that the phrase begins with is the last
one of the message. -/
theorem notMem_details (d : Defect) : '\'' ∉ d.details.toList := by
  have hnumber : ∀ n : Nat, '\'' ∉ n.repr.toList := notMem_toList_repr (by decide)
  -- labels, names and paths are quoted; the details are numbers, words and reserved characters
  cases d with
  | reservedInPad pad =>
    have hreserved : ∀ c ∈ reservedChars, c ≠ '\'' := by simp [reservedChars]
    rw [details, String.toList_intercalate]
    refine Delimited.notMem_intercalate (by decide) ?_
    intro part hpart
    rw [List.map_map, List.mem_map] at hpart
    obtain ⟨c, hc, rfl⟩ := hpart
    simpa using (hreserved c (List.mem_of_mem_filter hc)).symm
  | producedOften pad count =>
    rw [details, String.toList_append, List.mem_append]
    exact not_or_intro (hnumber count) (by decide)
  | consumedOften pad count =>
    rw [details, String.toList_append, List.mem_append]
    exact not_or_intro (hnumber count) (by decide)
  | beyondInputs pad index inputs =>
    rw [details, String.toList_append, String.toList_append, String.toList_append,
      List.mem_append, List.mem_append, List.mem_append]
    exact not_or_intro (hnumber index)
      (not_or_intro (by decide) (not_or_intro (hnumber inputs) (by decide)))
  | _ => exact List.not_mem_nil

/-- Equal messages that quote something quote the same, complain of the same, and end in the same
way. -/
theorem parts_eq {d e : Defect} {c k : Complaint} (hd : d.complaint? = some c)
    (he : e.complaint? = some k) (h : d.message = e.message) :
    d.quotation = e.quotation ∧ c = k ∧ d.details = e.details := by
  obtain ⟨words, hc, hwords⟩ := c.exists_toList_phrase
  obtain ⟨others, hk, hothers⟩ := k.exists_toList_phrase
  have htexts := congrArg String.toList h
  rw [message_eq hd, message_eq he] at htexts
  simp only [String.toList_append, List.append_assoc] at htexts
  -- the last quotation mark of a message is the one that its phrase begins with
  have hmarks : d.quotation.toList ++ '\'' :: (words ++ d.details.toList) =
      e.quotation.toList ++ '\'' :: (others ++ e.details.toList) := by
    rwa [hc, hk] at htexts
  obtain ⟨hquotation, -⟩ := Delimited.eq_of_append_cons_eq_of_last
    (List.not_mem_append hwords d.notMem_details) (List.not_mem_append hothers e.notMem_details)
    hmarks
  rw [hquotation] at htexts
  obtain ⟨hck, hdetails⟩ := Complaint.eq_of_append_eq (List.append_cancel_left htexts)
  exact ⟨String.toList_inj.1 hquotation, hck, String.toList_inj.1 hdetails⟩

/-- A message is made of a quotation, a complaint and some details, and these make the defect. -/
theorem eq_of_parts_eq {d e : Defect} (hquotation : d.quotation = e.quotation)
    (hcomplaint : d.complaint? = e.complaint?) (hdetails : d.details = e.details) : d = e := by
  -- the quotation gives back the text, and the details give back the numbers
  cases d with
  | emptyPad => exact ((complaint?_eq_none_iff e).1 hcomplaint.symm).symm
  | reservedInPad pad =>
    cases e with
    | reservedInPad other => rw [(String.append_right_inj _).1 hquotation]
    | _ => cases hcomplaint
  | namelessOperation stage =>
    cases e with
    | namelessOperation other => rw [(String.append_right_inj _).1 hquotation]
    | _ => cases hcomplaint
  | unmappedOutput path =>
    cases e with
    | unmappedOutput other => rw [(String.append_right_inj _).1 hquotation]
    | _ => cases hcomplaint
  | producedOften pad count =>
    cases e with
    | producedOften other n =>
      have hcount : count = n := Nat.repr_inj.1 ((String.append_left_inj _).1 hdetails)
      rw [(String.append_right_inj _).1 hquotation, hcount]
    | _ => cases hcomplaint
  | consumedOften pad count =>
    cases e with
    | consumedOften other n =>
      have hcount : count = n := Nat.repr_inj.1 ((String.append_left_inj _).1 hdetails)
      rw [(String.append_right_inj _).1 hquotation, hcount]
    | _ => cases hcomplaint
  | beyondInputs pad index inputs =>
    cases e with
    | beyondInputs other k n =>
      obtain ⟨hindex, hinputs⟩ := repr_append_inj hdetails
      rw [(String.append_right_inj _).1 hquotation, hindex, hinputs]
    | _ => cases hcomplaint
  | dangling pad =>
    cases e with
    | dangling other => rw [(String.append_right_inj _).1 hquotation]
    | _ => cases hcomplaint

/-- A message holds a quotation mark unless it is about a pad without a label. -/
theorem mem_message_of_complaint {d : Defect} {c : Complaint} (h : d.complaint? = some c) :
    '\'' ∈ d.message.toList := by
  obtain ⟨words, hc, -⟩ := c.exists_toList_phrase
  rw [message_eq h, String.toList_append, String.toList_append, hc]
  simp

/-- The message about a pad without a label quotes nothing. -/
theorem notMem_message_emptyPad : '\'' ∉ (message .emptyPad).toList := by decide

/-- **Messages tell defects apart.** No two defects have the same message, whatever the labels,
names and paths in them are. -/
theorem message_injective {d e : Defect} (h : d.message = e.message) : d = e := by
  cases hd : d.complaint? with
  | none =>
    obtain rfl := (complaint?_eq_none_iff d).1 hd
    cases he : e.complaint? with
    | none => exact ((complaint?_eq_none_iff e).1 he).symm
    | some k => exact absurd (h ▸ mem_message_of_complaint he) notMem_message_emptyPad
  | some c =>
    cases he : e.complaint? with
    | none =>
      obtain rfl := (complaint?_eq_none_iff e).1 he
      exact absurd (h ▸ mem_message_of_complaint hd) notMem_message_emptyPad
    | some k =>
      obtain ⟨hquotation, hck, hdetails⟩ := parts_eq hd he h
      exact eq_of_parts_eq hquotation (by rw [hd, he, hck]) hdetails

end Defect

/-! ### Remarks -/

/-- A text begins as its first part does, if this one is not empty. -/
theorem head?_toList_append {c : Char} {s : String} (h : s.toList.head? = some c) (t : String) :
    (s ++ t).toList.head? = some c := by
  rw [String.toList_append, List.head?_append, h, Option.some_or]

namespace Remark

/-- The letter that the message of a remark begins with. -/
def initial : Remark → Char
  | .noInputs | .noOutputs => 'G'
  | .idleStage _ | .emptyRawOptions _ _ => 'F'
  | .mappedInput _ => 'I'
  | .unconsumed _ => 'P'

/-- The initial of a remark is the letter that its message begins with. -/
theorem head?_message (m : Remark) : m.message.toList.head? = some m.initial := by
  have hstage : "Filter stage '".toList.head? = some 'F' := by decide
  have hoperation : "Filter '".toList.head? = some 'F' := by decide
  have hstream : "Input stream '".toList.head? = some 'I' := by decide
  have hpad : "Pad '".toList.head? = some 'P' := by decide
  cases m with
  | noInputs => decide
  | noOutputs => decide
  | idleStage stage => exact head?_toList_append (head?_toList_append hstage _) _
  | emptyRawOptions operation stage =>
    have hboth := head?_toList_append (head?_toList_append hoperation operation) "' in stage '"
    exact head?_toList_append (head?_toList_append hboth _) _
  | mappedInput path => exact head?_toList_append (head?_toList_append hstream _) _
  | unconsumed pad => exact head?_toList_append (head?_toList_append hpad _) _

/-- What is remarked on in the words for a label that is never taken in is that the label is never
taken in. -/
theorem eq_unconsumed_of_message_eq {m : Remark} {pad : String}
    (h : m.message = (unconsumed pad).message) : m = .unconsumed pad := by
  have hinitial : m.initial = 'P' := by
    have hhead := m.head?_message
    rw [h, head?_message] at hhead
    exact (Option.some.inj hhead).symm
  cases m with
  | unconsumed other =>
    have hquotation := (String.append_left_inj _).1 h
    rw [(String.append_right_inj _).1 hquotation]
  | _ => simp [initial] at hinitial

end Remark

end FilterGraph
