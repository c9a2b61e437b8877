/-
Scalars in their five forms: plain, in single or in double quotes, literal and folded.
-/

import PlainScript.Json.Parser
import PlainScript.Yaml.Place

namespace PlainScript.Yaml

/-! Line folding -/

/-- What stands between two pieces of text with line ends between them: a single line end turns
into a space. -/
def foldBreaks (first : List Char) (more : List Char) : List Char :=
  if first != ['\n'] then first ++ more
  else if more.isEmpty then [' ']
  else more

/-! Plain scalars -/

def isFlowMark (c : Char) : Bool := [',', '?', '[', ']', '{', '}'].contains c

/-- Whether a colon before this character ends a plain scalar. -/
def endsKey (inFlow : Bool) (next : Option Char) : Bool :=
  separates next || (inFlow && next.any fun c => [',', '[', ']', '{', '}'].contains c)

/-- The characters of a plain scalar up to a gap. -/
def plainRun (inFlow : Bool) : List Char → List Char
  | [] => []
  | c :: rest =>
      if isGap c || isBreak c || (c == ':' && endsKey inFlow rest.head?) ||
          (inFlow && isFlowMark c) then []
      else c :: plainRun inFlow rest

/-- The gap after a piece of a plain scalar. -/
structure PlainGap where
  text : List Char
  place : Place
  /-- Whether a line ended in the gap. -/
  broken : Bool

/-- Spaces and line ends, up to a line that separates documents. -/
def plainBreaks : (fuel : Nat) → (breaks : List Char) → Place → Option (List Char) × Place
  | 0, breaks, place => (some breaks, place)
  | fuel + 1, breaks, place =>
      match place.peek with
      | some ' ' => plainBreaks fuel breaks place.next
      | some c =>
          if isBreak c then
            let (ended, place) := place.lineBreak
            if place.atMarker then (none, place) else plainBreaks fuel (breaks ++ ended) place
          else (some breaks, place)
      | none => (some breaks, place)

def plainGap (place : Place) : PlainGap :=
  let (spaces, place) := place.span (· == ' ')
  if place.peek.any isBreak then
    let (ended, place) := place.lineBreak
    if place.atMarker then ⟨[], place, true⟩
    else match plainBreaks place.rest.length [] place with
      | (some breaks, place) => ⟨foldBreaks ended breaks, place, true⟩
      | (none, place) => ⟨[], place, true⟩
  else ⟨spaces, place, false⟩

/-- A plain scalar from here on; outside of flow collections its lines are indented by `margin`
columns. -/
def plainFrom (inFlow : Bool) (margin : Nat) : (fuel : Nat) → PlainGap → List Char × Place × Bool
  | 0, gap => ([], gap.place, gap.broken)
  | fuel + 1, gap =>
      let run := plainRun inFlow gap.place.rest
      if run.isEmpty || gap.place.peek == some '#' then ([], gap.place, gap.broken)
      else
        let after := plainGap (gap.place.skip run.length)
        if after.text.isEmpty || after.place.peek == some '#' ||
            (!inFlow && after.place.column < margin) then
          (gap.text ++ run, after.place, after.broken)
        else
          let (more, rest) := plainFrom inFlow margin fuel after
          (gap.text ++ run ++ more, rest)

/-- The text of a plain scalar, the place after it, and whether a line ended there. -/
def readPlain (inFlow : Bool) (margin : Nat) (place : Place) : List Char × Place × Bool :=
  plainFrom inFlow margin (place.rest.length + 1) ⟨[], place, false⟩

/-! Quoted scalars -/

/-- Line ends with gaps around them. -/
def quotedBreaks : (fuel : Nat) → Place → Option (List Char × Place)
  | 0, place => some ([], place)
  | fuel + 1, place =>
      if place.atMarker then none
      else
        let place := place.skipWhile isGap
        if place.peek.any isBreak then
          let (ended, place) := place.lineBreak
          (quotedBreaks fuel place).map fun (more, place) => (ended ++ more, place)
        else some ([], place)

/-- The gap between two pieces of a quoted scalar. -/
def quotedGap (place : Place) : Option (List Char × Place) :=
  let (spaces, after) := place.span isGap
  match after.peek with
  | none => none
  | some c =>
      if isBreak c then
        let (ended, after) := after.lineBreak
        (quotedBreaks (after.rest.length + 1) after).map fun (breaks, place) =>
          (foldBreaks ended breaks, place)
      else some (spaces, after)

/-- The character that an escape of one letter stands for. -/
def escapedChar? : Char → Option Char
  | '0' => some '\x00'
  | 'a' => some '\x07'
  | 'b' => some '\x08'
  | 't' | '\t' => some '\t'
  | 'n' => some '\n'
  | 'v' => some '\x0b'
  | 'f' => some '\x0c'
  | 'r' => some '\r'
  | 'e' => some '\x1b'
  | ' ' => some ' '
  | '"' => some '"'
  | '\\' => some '\\'
  | '/' => some '/'
  | 'N' => some '\u0085'
  | '_' => some '\u00a0'
  | 'L' => some '\u2028'
  | 'P' => some '\u2029'
  | _ => none

/-- The count of digits in the escape of a code. -/
def codeWidth? : Char → Option Nat
  | 'x' => some 2
  | 'u' => some 4
  | 'U' => some 8
  | _ => none

def hexNumber? (digits : List Char) : Option Nat :=
  digits.foldlM (fun number digit => (Json.hexValue? digit).map (number * 16 + ·)) 0

/-- The character of a code, if there is one. -/
def charOfCode? (code : Nat) : Option Char :=
  if code.isValidChar then some (.ofNat code) else none

/-- What an escape stands for; the place is after the backslash. -/
def readEscape (place : Place) : Option (List Char × Place) :=
  match place.peek with
  | none => none
  | some c =>
      match escapedChar? c, codeWidth? c with
      | some plain, _ => some ([plain], place.next)
      | none, some width => do
          let digits := place.next.rest.take width
          if digits.length != width then none
          let code ← (← hexNumber? digits) |> charOfCode?
          return ([code], place.next.skip width)
      | none, none =>
          if isBreak c then
            let after := place.lineBreak.2
            quotedBreaks (after.rest.length + 1) after
          else none

/-- A quoted scalar up to its closing quote. -/
def quotedFrom (double : Bool) : (fuel : Nat) → Place → Option (List Char × Place)
  | 0, _ => none
  | fuel + 1, place =>
      match place.rest with
      | [] => none
      | c :: rest =>
          if !double && c == '\'' then
            if rest.head? == some '\'' then
              (quotedFrom double fuel (place.skip 2)).map fun (more, place) => ('\'' :: more, place)
            else some ([], place.next)
          else if double && c == '"' then some ([], place.next)
          else if double && c == '\\' then do
            let (piece, place) ← readEscape place.next
            (quotedFrom double fuel place).map fun (more, place) => (piece ++ more, place)
          else if isGap c || isBreak c then do
            let (piece, place) ← quotedGap place
            (quotedFrom double fuel place).map fun (more, place) => (piece ++ more, place)
          else (quotedFrom double fuel place.next).map fun (more, place) => (c :: more, place)

/-- The text in quotes; the place is at the opening quote. -/
def readQuoted (double : Bool) (place : Place) : Option (List Char × Place) :=
  quotedFrom double (place.rest.length + 1) place.next

/-! Block scalars -/

/-- What becomes of the line ends after the last line: one is kept, none or all. -/
inductive Chomping where
  | clip
  | strip
  | keep
  deriving DecidableEq, Repr

def chomping? : Option Char → Option Chomping
  | some '+' => some .keep
  | some '-' => some .strip
  | _ => none

/-- The header of a block scalar: the chomping and the indentation, in any order. -/
structure BlockHeader where
  chomping : Chomping
  indentation : Option Nat

def indentation? (c : Option Char) : Option Nat :=
  (c.filter Char.isDigit).map fun digit => digit.toNat - '0'.toNat

def readHeader (place : Place) : Option (BlockHeader × Place) :=
  let (header, place) : BlockHeader × Place :=
    match chomping? place.peek, indentation? place.peek with
    | some chomping, _ =>
        match indentation? place.next.peek with
        | some width => (⟨chomping, some width⟩, place.skip 2)
        | none => (⟨chomping, none⟩, place.next)
    | none, some width =>
        match chomping? place.next.peek with
        | some chomping => (⟨chomping, some width⟩, place.skip 2)
        | none => (⟨.clip, some width⟩, place.next)
    | none, none => (⟨.clip, none⟩, place)
  if header.indentation == some 0 || !endsWord place.peek then none
  else place.finishLine?.map fun place => (header, place)

/-- Empty lines in front of the text, and the widest indentation among them and the text. -/
def leadingBreaks : (fuel widest : Nat) → Place → List Char × Nat × Place
  | 0, widest, place => ([], widest, place)
  | fuel + 1, widest, place =>
      match place.peek with
      | some ' ' =>
          let place := place.next
          leadingBreaks fuel (max widest place.column) place
      | some c =>
          if isBreak c then
            let (ended, place) := place.lineBreak
            let (more, rest) := leadingBreaks fuel widest place
            (ended ++ more, rest)
          else ([], widest, place)
      | none => ([], widest, place)

/-- The place after spaces, at most up to a column. -/
def indentTo (column : Nat) : (fuel : Nat) → Place → Place
  | 0, place => place
  | fuel + 1, place =>
      if place.column < column && place.peek == some ' ' then indentTo column fuel place.next
      else place

/-- Empty lines, and the indentation of the next line. -/
def blockBreaks (column : Nat) : (fuel : Nat) → Place → List Char × Place
  | 0, place => ([], place)
  | fuel + 1, place =>
      let place := indentTo column column place
      if place.peek.any isBreak then
        let (ended, place) := place.lineBreak
        let (more, place) := blockBreaks column fuel place
        (ended ++ more, place)
      else ([], place)

/-- The text of a block scalar, its last line end and the empty lines after it. -/
structure Block where
  text : List Char
  ended : List Char
  breaks : List Char

/-- The lines that begin in a column; `breaks` are the empty lines in front of them. -/
def blockFrom (folded : Bool) (column : Nat) :
    (fuel : Nat) → (ended breaks : List Char) → Place → Block × Place
  | 0, ended, breaks, place => (⟨[], ended, breaks⟩, place)
  | fuel + 1, ended, breaks, place =>
      if place.column != column || place.rest.isEmpty then (⟨[], ended, breaks⟩, place)
      else
        let unindented := !place.peek.any isGap
        let (line, place) := place.span fun c => !isBreak c
        let (after, place) := place.lineBreak
        let (empty, place) := blockBreaks column (place.rest.length + 1) place
        let (block, rest) := blockFrom folded column fuel after empty place
        if place.column != column || place.rest.isEmpty then
          (⟨breaks ++ line ++ block.text, block.ended, block.breaks⟩, rest)
        else
          let joint :=
            if folded && after == ['\n'] && unindented && !place.peek.any isGap then
              if empty.isEmpty then [' '] else []
            else after
          (⟨breaks ++ line ++ joint ++ block.text, block.ended, block.breaks⟩, rest)

/-- The text of a block scalar inside a block of the given margin; the place is at its mark. -/
def readBlock (folded : Bool) (margin : Nat) (place : Place) : Option (List Char × Place) := do
  let (header, place) ← readHeader place.next
  let least := max margin 1
  let (column, breaks, place) : Nat × List Char × Place :=
    match header.indentation with
    | none =>
        let (breaks, widest, place) := leadingBreaks place.rest.length 0 place
        (max least widest, breaks, place)
    | some width =>
        let column := least + width - 1
        let (breaks, place) := blockBreaks column (place.rest.length + 1) place
        (column, breaks, place)
  let (block, place) := blockFrom folded column (place.rest.length + 1) [] breaks place
  let tail := match header.chomping with
    | .strip => []
    | .clip => block.ended
    | .keep => block.ended ++ block.breaks
  return (block.text ++ tail, place)

end PlainScript.Yaml
