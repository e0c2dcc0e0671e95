/-!
# The words of a command text

A command text is split into words at blanks. Between two single quotes every character stands for
itself, blanks too; quoted and unquoted text that touch are one word, and two quotes by themselves
are an empty word. A text with a quote that is never closed has no words.
-/

set_option autoImplicit false

namespace FilterGraph.Command

/-- Split the rest of a text into words. The first argument says whether a quote is open, the
second one is the word that has been begun, if one has. -/
def splitWords : Bool → Option (List Char) → List Char → Option (List (List Char))
  | true, _, [] => none
  | false, begun, [] => some begun.toList
  | true, begun, c :: rest =>
    if c = '\'' then splitWords false begun rest
    else splitWords true (some (begun.getD [] ++ [c])) rest
  | false, begun, c :: rest =>
    if c = ' ' then (splitWords false none rest).map (begun.toList ++ ·)
    else if c = '\'' then splitWords true (some (begun.getD [])) rest
    else splitWords false (some (begun.getD [] ++ [c])) rest

/-- The words of a text. -/
def words? (text : String) : Option (List String) :=
  (splitWords false none text.toList).map (List.map String.ofList)

end FilterGraph.Command
