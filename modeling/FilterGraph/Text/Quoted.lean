import FilterGraph.Text.Printable

/-!
# Quoted texts

The quoted form of a text shows it on one line between quote marks. Single quotes are used unless
the text has a single quote and no double quote. The mark, the backslash and everything unprintable
are escaped; line feed, carriage return and tab have short escapes, any other character is written
by its code point with two, four or eight lower-case hexadecimal digits.

Main statement: `quoted_isPrintable`, every character of a quoted form is printable, so a quoted
form holds no line break.
-/

set_option autoImplicit false

namespace FilterGraph.Text

/-- A number in hexadecimal, filled up with zeros to at least `width` digits. -/
def hexadecimal (width n : Nat) : List Char :=
  let digits := Nat.toDigits 16 n
  List.replicate (width - digits.length) '0' ++ digits

/-- The mark that a text is quoted with. -/
def quoteMark (s : List Char) : Char :=
  if '\'' ∈ s ∧ '"' ∉ s then '"' else '\''

/-- The quoted form of one character inside the given marks. -/
def quotedChar (mark c : Char) : List Char :=
  if c = '\\' ∨ c = mark then ['\\', c]
  else if c = '\n' then ['\\', 'n']
  else if c = '\r' then ['\\', 'r']
  else if c = '\t' then ['\\', 't']
  else if isPrintable c then [c]
  else if c.toNat < 0x100 then '\\' :: 'x' :: hexadecimal 2 c.toNat
  else if c.toNat < 0x10000 then '\\' :: 'u' :: hexadecimal 4 c.toNat
  else '\\' :: 'U' :: hexadecimal 8 c.toNat

/-- The quoted form of a text. -/
def quoted (s : String) : String :=
  let mark := quoteMark s.toList
  String.ofList (mark :: (s.toList.flatMap (quotedChar mark) ++ [mark]))

/-- Hexadecimal digits are printable. -/
theorem isPrintable_toDigits (n : Nat) : ∀ c ∈ Nat.toDigits 16 n, isPrintable c = true := by
  induction n using Nat.strongRecOn with
  | _ n ih =>
    have step : ∀ d, d < 16 → isPrintable (Nat.digitChar d) = true := by decide
    rw [Nat.toDigits_eq_if (by omega)]
    split
    · rename_i small
      intro c hc
      simp only [List.mem_singleton] at hc
      exact hc ▸ step n small
    · rename_i large
      intro c hc
      rcases List.mem_append.1 hc with h | h
      · exact ih (n / 16) (Nat.div_lt_self (by omega) (by omega)) c h
      · simp only [List.mem_singleton] at h
        exact h ▸ step (n % 16) (Nat.mod_lt _ (by omega))

/-- A hexadecimal number with leading zeros is printable. -/
theorem isPrintable_hexadecimal (width n : Nat) :
    ∀ c ∈ hexadecimal width n, isPrintable c = true := by
  intro c hc
  rcases List.mem_append.1 hc with h | h
  · exact (List.eq_of_mem_replicate h) ▸ (by decide)
  · exact isPrintable_toDigits n c h

/-- The quote marks are printable. -/
theorem isPrintable_quoteMark (s : List Char) : isPrintable (quoteMark s) = true := by
  unfold quoteMark
  split <;> decide

/-- An escape with a printable letter and printable digits is printable. -/
theorem isPrintable_escape {letter : Char} {digits : List Char}
    (hletter : isPrintable letter = true) (hdigits : ∀ d ∈ digits, isPrintable d = true) :
    ∀ d ∈ '\\' :: letter :: digits, isPrintable d = true :=
  List.forall_mem_cons.2 ⟨by decide, List.forall_mem_cons.2 ⟨hletter, hdigits⟩⟩

/-- A character between quote marks is written with printable characters only. -/
theorem isPrintable_quotedChar (mark : Char) (hmark : isPrintable mark = true) (c : Char) :
    ∀ d ∈ quotedChar mark c, isPrintable d = true := by
  unfold quotedChar
  split
  · rename_i h
    rcases h with rfl | rfl
    · exact isPrintable_escape (by decide) nofun
    · exact isPrintable_escape hmark nofun
  split
  · exact isPrintable_escape (by decide) nofun
  split
  · exact isPrintable_escape (by decide) nofun
  split
  · exact isPrintable_escape (by decide) nofun
  split
  · -- the one case in which the character is written as it is
    rename_i h
    exact List.forall_mem_singleton.2 h
  split
  · exact isPrintable_escape (by decide) (isPrintable_hexadecimal 2 _)
  split
  · exact isPrintable_escape (by decide) (isPrintable_hexadecimal 4 _)
  · exact isPrintable_escape (by decide) (isPrintable_hexadecimal 8 _)

/-- Every character of a quoted form is printable. -/
theorem quoted_isPrintable (s : String) : ∀ c ∈ (quoted s).toList, isPrintable c = true := by
  have hmark := isPrintable_quoteMark s.toList
  intro c hc
  simp only [quoted, String.toList_ofList, List.mem_cons, List.mem_append, List.mem_flatMap,
    List.not_mem_nil, or_false] at hc
  rcases hc with rfl | ⟨d, _, hd⟩ | rfl
  · exact hmark
  · exact isPrintable_quotedChar _ hmark d c hd
  · exact hmark

end FilterGraph.Text
