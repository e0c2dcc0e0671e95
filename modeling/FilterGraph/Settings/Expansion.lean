import FilterGraph.Entries

/-!
# Variables in values

A value of an environment file may refer to variables: a dollar sign and a name in braces stand for
the value of that variable. The name may be followed by a colon, a hyphen and a text, which is taken
if there is no such variable. A name is any text without braces that close and colons, and what has
another form stands for itself. Values that are put in are not looked through again.

A definition sees the definitions before it and the environment, of which the definitions come
first.
-/

set_option autoImplicit false

namespace FilterGraph.Expansion

/-- The variable that is referred to and the text to be taken if there is none, from a text behind
the brace that opens a reference, and the text behind the brace that closes it. -/
def reference? (text : List Char) : Option ((String × String) × List Char) :=
  let inName := fun c => c ≠ '\x7d' && c ≠ ':'
  let name := String.ofList (text.takeWhile inName)
  match text.dropWhile inName with
  | '\x7d' :: rest => some ((name, ""), rest)
  | ':' :: '-' :: rest =>
    match rest.dropWhile (· ≠ '\x7d') with
    | _ :: after => some ((name, String.ofList (rest.takeWhile (· ≠ '\x7d'))), after)
    | [] => none
  | _ => none

/-- Nothing before a property fails to hold makes a text longer. -/
theorem length_dropWhile_le (holds : Char → Bool) (text : List Char) :
    (text.dropWhile holds).length ≤ text.length :=
  (List.dropWhile_suffix holds).length_le

/-- What is behind a reference is shorter than what is behind the brace that opens it. -/
theorem length_lt_of_reference? {text after : List Char} {reference : String × String}
    (h : reference? text = some (reference, after)) : after.length < text.length := by
  have hname := length_dropWhile_le (fun c => c ≠ '\x7d' && c ≠ ':') text
  unfold reference? at h
  dsimp only at h
  split at h
  · rename_i rest hrest
    rw [hrest] at hname
    simp only [Option.some.injEq, Prod.mk.injEq] at h
    rw [← h.2]
    exact hname
  · rename_i rest hrest
    rw [hrest] at hname
    have hdefault := length_dropWhile_le (· ≠ '\x7d') rest
    split at h
    · rename_i c behind hbehind
      rw [hbehind] at hdefault
      simp only [Option.some.injEq, Prod.mk.injEq] at h
      rw [← h.2]
      simp only [List.length_cons] at hname hdefault
      omega
    · cases h
  · cases h

/-- A text with its references replaced; `value` gives what stands for a name, and takes the text
for a variable that is not there. -/
def expand (value : String → String → String) : List Char → List Char
  | [] => []
  | '$' :: '\x7b' :: rest =>
    match h : reference? rest with
    | some ((name, fallback), after) =>
      have := length_lt_of_reference? h
      (value name fallback).toList ++ expand value after
    | none => '$' :: '\x7b' :: expand value rest
  | c :: rest => c :: expand value rest
termination_by text => text.length

/-- What stands for a name among definitions and the environment. A variable that is defined without
a value stands for nothing. -/
def valueOf (environment : Entries String) (defined : Entries (Option String))
    (name fallback : String) : String :=
  match defined.find? name with
  | some value => value.getD ""
  | none => (environment.find? name).getD fallback

/-- The variables that some definitions give, each with the references in its value replaced. -/
def resolve (environment : Entries String) (definitions : List (String × Option String)) :
    Entries (Option String) :=
  definitions.foldl (fun defined definition =>
    defined.put definition.1 (definition.2.map fun text =>
      String.ofList (expand (valueOf environment defined) text.toList))) []

end FilterGraph.Expansion
