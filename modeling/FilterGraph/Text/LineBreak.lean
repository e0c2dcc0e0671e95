/-!
# Escaping line breaks

A text that is logged as an argument must not start a new line of the log. Its line breaks are
written out: the pair of carriage return and line feed first, then each carriage return, then each
line feed. `replace` is the replacement of one non-empty text by another, from left to right and
without overlap.
-/

set_option autoImplicit false

namespace FilterGraph.Text

/-- Replace every occurrence of the text `first :: others` by `new`. -/
def replace (first : Char) (others new : List Char) : List Char → List Char
  | [] => []
  | c :: rest =>
    if (first :: others).isPrefixOf (c :: rest) then
      new ++ replace first others new (rest.drop others.length)
    else
      c :: replace first others new rest
termination_by s => s.length
decreasing_by all_goals simp; try omega

/-- Write out the line breaks of a text. -/
def escapeLineBreaks (s : String) : String :=
  let pairs := replace '\r' ['\n'] ['\\', 'r', '\\', 'n'] s.toList
  let returns := replace '\r' [] ['\\', 'r'] pairs
  String.ofList (replace '\n' [] ['\\', 'n'] returns)

/-- Whether a text stays on one line. -/
def isOneLine (s : String) : Bool := s.toList.all fun c => c != '\r' && c != '\n'

end FilterGraph.Text
