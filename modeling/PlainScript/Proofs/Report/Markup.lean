/-
Reading pages: tags, and text with its references resolved. Escaped text is read as the text that was
escaped, and has no character that a tag or a quoted attribute ends with.
-/

import PlainScript.Report.Html

namespace PlainScript.Report

/-- What is read of a page: a tag with what it holds, or a character of its text. -/
inductive Token where
  | tag (inside : List Char)
  | char (c : Char)
  deriving DecidableEq

/-- Where the reading of a page stands: in its text, behind the mark that begins a reference, or in a
tag, and there between quotes or not. -/
inductive Reading where
  | text
  | reference (name : List Char)
  | tag (isQuoted : Bool) (inside : List Char)
  deriving DecidableEq

def references : List (List Char × Char) := [
  ("amp".toList, '&'),
  ("lt".toList, '<'),
  ("gt".toList, '>'),
  ("quot".toList, '"'),
  ("#x27".toList, '\'')]

/-- A name that stands for no character is text. -/
def resolve (name : List Char) : List Token :=
  match references.lookup name with
  | some c => [.char c]
  | none => ('&' :: name ++ [';']).map .char

def readTextChar (c : Char) : List Token × Reading :=
  if c == '<' then ([], .tag false [])
  else if c == '&' then ([], .reference [])
  else ([.char c], .text)

def readChar : Reading → Char → List Token × Reading
  | .text, c => readTextChar c
  | .reference name, c =>
      if c == ';' then (resolve name, .text)
      else if c.isAlphanum || c == '#' then ([], .reference (name ++ [c]))
      else (('&' :: name).map .char ++ (readTextChar c).1, (readTextChar c).2)
  | .tag isQuoted inside, c =>
      if c == '>' && !isQuoted then ([.tag inside], .text)
      else ([], .tag (isQuoted != (c == '"')) (inside ++ [c]))

/-- Reads a piece of a page; the reading may go on behind it. -/
def readChars : Reading → List Char → List Token × Reading
  | state, [] => ([], state)
  | state, c :: rest =>
      let next := readChar state c
      let more := readChars next.2 rest
      (next.1 ++ more.1, more.2)

/-- A reference or a tag that has not ended is text. -/
def Reading.unfinished : Reading → List Token
  | .text => []
  | .reference name => ('&' :: name).map .char
  | .tag _ inside => ('<' :: inside).map .char

def readPage (page : String) : List Token :=
  let read := readChars .text page.toList
  read.1 ++ read.2.unfinished

/-- The characters that tags and quoted attributes begin and end with. -/
def isMark (c : Char) : Bool := c == '<' || c == '>' || c == '"'

/-- The marks of a text, in their order. -/
def marks (text : String) : List Char := text.toList.filter isMark

/-! Reading piece by piece -/

variable {piece other : List Char} {tokens more : List Token}

/-- The reading goes on where it stands behind a piece. -/
theorem readChars_append {before between after : Reading}
    (first : readChars before piece = (tokens, between))
    (second : readChars between other = (more, after)) :
    readChars before (piece ++ other) = (tokens ++ more, after) := by
  induction piece generalizing before tokens with
  | nil =>
      obtain ⟨rfl, rfl⟩ := Prod.mk.inj first
      exact second
  | cons c piece ih =>
      obtain ⟨rfl, last⟩ := Prod.mk.inj first
      rw [List.cons_append, readChars, ih (Prod.ext rfl last), List.append_assoc]

/-- Read within a text, the piece has these tokens and ends within a text. -/
def Reads (piece : List Char) (tokens : List Token) : Prop :=
  readChars .text piece = (tokens, .text)

theorem reads_nil : Reads [] [] := rfl

theorem Reads.append (first : Reads piece tokens) (second : Reads other more) :
    Reads (piece ++ other) (tokens ++ more) :=
  readChars_append first second

theorem Reads.readPage_eq {page : String} (reads : Reads page.toList tokens) :
    readPage page = tokens := by
  rw [Reads] at reads
  rw [readPage, reads]
  exact List.append_nil tokens

/-- Pieces are read one after another. -/
theorem reads_flatMap {α : Type} {items : List α} {write : α → List Char} {read : α → List Token}
    (each : ∀ item ∈ items, Reads (write item) (read item)) :
    Reads (items.flatMap write) (items.flatMap read) := by
  induction items with
  | nil => exact reads_nil
  | cons item items ih =>
      rw [List.forall_mem_cons] at each
      exact each.1.append (ih each.2)

/-- Text without tags and references stands for itself. -/
theorem reads_of_plain (plain : ∀ c ∈ piece, c ≠ '<' ∧ c ≠ '&') :
    Reads piece (piece.map .char) := by
  induction piece with
  | nil => exact reads_nil
  | cons c piece ih =>
      rw [List.forall_mem_cons] at plain
      have first : Reads [c] [.char c] := by
        simp [Reads, readChars, readChar, readTextChar, plain.1]
      exact first.append (ih plain.2)

/-- Escaped text is read as the text. -/
theorem reads_escape (text : String) :
    Reads (escape text).toList (text.toList.map .char) := by
  rw [escape, String.toList_ofList, ← List.flatMap_singleton' (text.toList.map Token.char),
    List.flatMap_map]
  refine reads_flatMap fun c _ => ?_
  unfold escapeChar
  split
  iterate 5 rfl
  · rename_i ampersand less _ _ _
    exact reads_of_plain (List.forall_mem_singleton.mpr ⟨less, ampersand⟩)

/-- Between marks the inside of a tag grows. -/
theorem readChars_tag (isQuoted : Bool) (inside : List Char)
    (plain : ∀ c ∈ piece, c ≠ '>' ∧ c ≠ '"') :
    readChars (.tag isQuoted inside) piece = ([], .tag isQuoted (inside ++ piece)) := by
  induction piece generalizing inside with
  | nil => rw [readChars, List.append_nil]
  | cons c piece ih =>
      rw [List.forall_mem_cons] at plain
      obtain ⟨⟨noEnd, noQuote⟩, later⟩ := plain
      have grows : readChar (.tag isQuoted inside) c = ([], .tag isQuoted (inside ++ [c])) := by
        simp [readChar, noEnd, beq_false_of_ne noQuote]
      rw [readChars, grows]
      simp only [ih _ later, List.append_assoc, List.nil_append, List.singleton_append]

theorem readChars_opening : readChars .text ['<'] = ([], .tag false []) := rfl

/-- A tag with one attribute in quotes. -/
theorem reads_tag_quoted {value : List Char} (plain : ∀ c ∈ piece, c ≠ '>' ∧ c ≠ '"')
    (clean : ∀ c ∈ value, c ≠ '>' ∧ c ≠ '"') :
    Reads (['<'] ++ piece ++ ['"'] ++ value ++ ['"', '>'])
      [.tag (piece ++ ['"'] ++ value ++ ['"'])] := by
  have quoted : readChars (.tag false piece) ['"'] = ([], .tag true (piece ++ ['"'])) := rfl
  have front := readChars_append (readChars_append readChars_opening (readChars_tag false [] plain))
    quoted
  exact readChars_append (readChars_append front (readChars_tag true (piece ++ ['"']) clean)) rfl

/-! Marks -/

@[simp]
theorem marks_append (first second : String) :
    marks (first ++ second) = marks first ++ marks second := by
  rw [marks, String.toList_append, List.filter_append]
  rfl

theorem isMark_eq_false_of_mem_escapeChar (c : Char) :
    ∀ d ∈ escapeChar c, isMark d = false := by
  have unmarked : (escapeChar c).all (!isMark ·) = true := by
    unfold escapeChar
    split
    iterate 5 decide
    · rename_i _ less greater quote _
      simpa [isMark] using And.intro ⟨less, greater⟩ quote
  intro d member
  simpa using List.all_eq_true.mp unmarked d member

theorem isMark_eq_false_of_mem_escape (text : String) :
    ∀ c ∈ (escape text).toList, isMark c = false := by
  intro c member
  rw [escape, String.toList_ofList] at member
  obtain ⟨d, -, inside⟩ := List.mem_flatMap.mp member
  exact isMark_eq_false_of_mem_escapeChar d c inside

theorem marks_eq_nil {text : String} (unmarked : ∀ c ∈ text.toList, isMark c = false) :
    marks text = [] :=
  List.filter_eq_nil_iff.mpr fun c member => by simp [unmarked c member]

/-- Escaped text brings no marks. -/
@[simp]
theorem marks_escape (text : String) : marks (escape text) = [] :=
  marks_eq_nil (isMark_eq_false_of_mem_escape text)

end PlainScript.Report
