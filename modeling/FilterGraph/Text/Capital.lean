/-!
# Capital letters

The names that are compared in capitals are plain Latin, so only the characters whose capital form
is plain Latin are mapped: the small letters a to z, the dotless i, the long s, the sharp s and the
Latin ligatures. The last two kinds become several letters. All other characters are kept: their
capital forms hold a character that no such name has.
-/

set_option autoImplicit false

namespace FilterGraph.Text

/-- The capital form of a character, as far as it is plain Latin. -/
def capital (c : Char) : List Char :=
  match c with
  | 'ı' => ['I']
  | 'ſ' => ['S']
  | 'ß' => ['S', 'S']
  | 'ﬀ' => ['F', 'F']
  | 'ﬁ' => ['F', 'I']
  | 'ﬂ' => ['F', 'L']
  | 'ﬃ' => ['F', 'F', 'I']
  | 'ﬄ' => ['F', 'F', 'L']
  | 'ﬅ' => ['S', 'T']
  | 'ﬆ' => ['S', 'T']
  | c => [c.toUpper]

/-- A text in capitals. -/
def capitals (s : String) : String := String.ofList (s.toList.flatMap capital)

end FilterGraph.Text
