/-
String literals of the generated code. A backslash escapes itself, the delimiter and, as `n`,
a line feed; nothing else is escaped.
-/

namespace PlainScript.Literal

/-- The delimiter of a literal. -/
inductive Mark where
  | single
  | double
  deriving DecidableEq, Repr

def Mark.char : Mark → Char
  | single => '\''
  | double => '"'

/-- A single mark gives way to a double one around text that holds single marks only. -/
def Mark.around (mark : Mark) (chars : List Char) : Mark :=
  if mark = .single ∧ '\'' ∈ chars ∧ '"' ∉ chars then .double else mark

def escapeChar (mark : Mark) (c : Char) : List Char :=
  if c = '\\' then ['\\', '\\']
  else if c = mark.char then ['\\', c]
  else if c = '\n' then ['\\', 'n']
  else [c]

def quoteChars (asked : Mark) (chars : List Char) : List Char :=
  let mark := asked.around chars
  mark.char :: chars.flatMap (escapeChar mark) ++ [mark.char]

/-- The literal of a text, in single marks where they do. -/
def quote (text : String) : String := .ofList (quoteChars .single text.toList)

/-- The literal of a text in double marks. -/
def quoteDouble (text : String) : String := .ofList (quoteChars .double text.toList)

/-- Reads the inside of a literal up to its delimiter; the text after it is returned too. -/
def readInside (mark : Mark) : List Char → Option (List Char × List Char)
  | [] => none
  | '\\' :: rest =>
      match rest with
      | '\\' :: rest => (readInside mark rest).map fun read => ('\\' :: read.1, read.2)
      | 'n' :: rest => (readInside mark rest).map fun read => ('\n' :: read.1, read.2)
      | c :: rest =>
          if c = mark.char then (readInside mark rest).map fun read => (c :: read.1, read.2)
          else none
      | [] => none
  | c :: rest =>
      if c = mark.char then some ([], rest)
      else if c = '\n' then none
      else (readInside mark rest).map fun read => (c :: read.1, read.2)

/-- Reads a literal and returns its value and the text after it. -/
def read : List Char → Option (List Char × List Char)
  | '\'' :: rest => readInside .single rest
  | '"' :: rest => readInside .double rest
  | _ => none

/-- The value of a text that is one literal. -/
def decode (chars : List Char) : Option (List Char) :=
  match read chars with
  | some (value, []) => some value
  | _ => none

end PlainScript.Literal
