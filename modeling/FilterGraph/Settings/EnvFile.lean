import FilterGraph.Settings.Expansion
import FilterGraph.Text.Blank

/-!
# Environment files

An environment file defines variables, one `KEY=VALUE` to a line. The word `export` may stand
before a key and blanks around the equals sign. A key may be in single quotes. A value is in single
or double quotes, in which case it may hold line breaks and escapes, or runs to the end of its line
without the blanks around it; a hash sign at the start of a line, after a quoted value, or after a
blank in any other value starts a comment. A line that has another form is skipped. A key without
an equals sign is defined without a value. A mark for the order of bytes at the start of the file
does not count.

Values may refer to other variables, see `FilterGraph.Settings.Expansion`. Of several definitions
of a key the last one counts.
-/

set_option autoImplicit false

namespace FilterGraph.EnvFile

open FilterGraph.Text

/-- A text with every line break written as one line feed. -/
def normalizeLines : List Char → List Char
  | [] => []
  | '\r' :: '\n' :: rest => '\n' :: normalizeLines rest
  | '\r' :: rest => '\n' :: normalizeLines rest
  | c :: rest => c :: normalizeLines rest

/-- Split a text at the mark that closes a quotation. A backslash takes the character after it
along, so that a mark after a backslash does not close the quotation. -/
def closeQuote? (mark : Char) : List Char → Option (List Char × List Char)
  | [] => none
  | '\\' :: c :: rest => (closeQuote? mark rest).map fun s => ('\\' :: c :: s.1, s.2)
  | c :: rest =>
    if c = mark then some ([], rest)
    else (closeQuote? mark rest).map fun s => (c :: s.1, s.2)

/-- The character that a backslash and a letter stand for in double quotes. -/
def doubleEscape? : Char → Option Char
  | '\\' => some '\\'
  | '\'' => some '\''
  | '"' => some '"'
  | 'a' => some '\x07'
  | 'b' => some '\x08'
  | 'f' => some '\x0c'
  | 'n' => some '\n'
  | 'r' => some '\r'
  | 't' => some '\t'
  | 'v' => some '\x0b'
  | _ => none

/-- The character that a backslash and another character stand for in single quotes. -/
def singleEscape? : Char → Option Char
  | '\\' => some '\\'
  | '\'' => some '\''
  | _ => none

/-- Replace the escapes in a quotation. -/
def unescape (escape? : Char → Option Char) : List Char → List Char
  | [] => []
  | '\\' :: c :: rest =>
    match escape? c with
    | some d => d :: unescape escape? rest
    | none => '\\' :: unescape escape? (c :: rest)
  | c :: rest => c :: unescape escape? rest

/-- A value without quotes, from the equals sign to the end of the line: up to a comment, which
starts with a hash sign after a blank, and without the blanks around it. -/
def unquotedValue (line : List Char) : List Char :=
  let rec beforeComment : List Char → List Char
    | [] => []
    | c :: rest =>
      if isBlank c && (rest.dropWhile isBlank).head? = some '#' then []
      else c :: beforeComment rest
  trim (beforeComment line)

/-- The value after an equals sign and the rest of the text after it. -/
def readValue? (text : List Char) : Option (List Char × List Char) :=
  match text.dropWhile isInlineBlank with
  | '\'' :: rest => (closeQuote? '\'' rest).map fun s => (unescape singleEscape? s.1, s.2)
  | '"' :: rest => (closeQuote? '"' rest).map fun s => (unescape doubleEscape? s.1, s.2)
  | _ => some (unquotedValue (text.takeWhile (· ≠ '\n')), text.dropWhile (· ≠ '\n'))

/-- A text after the word `export` and the blanks behind it, if it starts so. -/
def skipExport (text : List Char) : List Char :=
  if "export".toList.isPrefixOf text then
    let after := text.drop 6
    if (after.head?.map isInlineBlank).getD false then after.dropWhile isInlineBlank else text
  else text

/-- A key and the rest of the text after it; a comment line has no key. -/
def readKey? (text : List Char) : Option (Option String × List Char) :=
  match text with
  | '#' :: _ => some (none, text)
  | '\'' :: rest =>
    let key := rest.takeWhile (· ≠ '\'')
    match rest.dropWhile (· ≠ '\'') with
    | [] => none
    | _ :: after => if key.isEmpty then none else some (some (String.ofList key), after)
  | _ =>
    let inKey := fun c => c ≠ '=' && c ≠ '#' && !isBlank c
    let key := text.takeWhile inKey
    if key.isEmpty then none else some (some (String.ofList key), text.dropWhile inKey)

/-- What follows the end of a line, if only blanks and a comment are before it. -/
def endLine? (text : List Char) : Option (List Char) :=
  let text := text.dropWhile isInlineBlank
  let text := if text.head? = some '#' then text.dropWhile (· ≠ '\n') else text
  match text with
  | [] => some []
  | '\n' :: rest => some rest
  | _ => none

/-- A text after its first line. -/
def skipLine (text : List Char) : List Char := (text.dropWhile (· ≠ '\n')).drop 1

/-- One definition, if the text starts with one, and the text after its line. -/
def readDefinition (text : List Char) : Option (String × Option String) × List Char :=
  match readKey? (skipExport text) with
  | none => (none, skipLine (skipExport text))
  | some (key, after) =>
    let define := fun value => key.map fun key => (key, value)
    match after.dropWhile isInlineBlank with
    | '=' :: rest =>
      match readValue? rest with
      | none => (none, skipLine rest)
      | some (value, after) =>
        match endLine? after with
        | some next => (define (some (String.ofList value)), next)
        | none => (none, skipLine after)
    | after =>
      match endLine? after with
      | some next => (define none, next)
      | none => (none, skipLine after)

/-- The definitions of a text, of which at most the given number of lines is read. -/
def readDefinitions : Nat → List Char → List (String × Option String)
  | 0, _ => []
  | lines + 1, text =>
    match text.dropWhile isBlank with
    | [] => []
    | c :: rest =>
      let (definition, next) := readDefinition (c :: rest)
      definition.toList ++ readDefinitions lines next

/-- A text without the mark for the order of bytes that it may start with. -/
def skipByteOrderMark : List Char → List Char
  | [] => []
  | c :: rest => if c = '\ufeff' then rest else c :: rest

/-- The variables that an environment file defines where the given ones are set. -/
def read (environment : Entries String) (text : String) : Entries (Option String) :=
  let text := normalizeLines (skipByteOrderMark text.toList)
  Expansion.resolve environment (readDefinitions text.length text)

end FilterGraph.EnvFile
