/-
Texts woven of words and literals. A literal delimits itself, whatever stands in it and after it,
so a woven text is read in one way only.
-/

import Mathlib.Data.List.TakeWhile
import PlainScript.Proofs.Literal.Plain

namespace PlainScript.Literal

variable {asked : Mark}

/-! Literals delimit themselves -/

/-- An escaped character is read back, and reading goes on after it. -/
theorem readInside_escapeChar_append (mark : Mark) (c : Char) (rest : List Char) :
    readInside mark (escapeChar mark c ++ rest) =
      (readInside mark rest).map fun read => (c :: read.1, read.2) := by
  unfold escapeChar
  split_ifs with isBackslash isDelimiter isLineFeed
  · subst isBackslash
    rfl
  · subst isDelimiter
    cases mark <;> rfl
  · subst isLineFeed
    rfl
  · rw [List.singleton_append, readInside, if_neg isDelimiter, if_neg isLineFeed]
    exact isBackslash

/-- The inside of a literal is read up to the delimiter after it. -/
theorem readInside_flatMap_escapeChar (mark : Mark) (value rest : List Char) :
    readInside mark (value.flatMap (escapeChar mark) ++ mark.char :: rest) =
      some (value, rest) := by
  induction value with
  | nil => cases mark <;> rfl
  | cons c value ih =>
      rw [List.flatMap_cons, List.append_assoc, readInside_escapeChar_append, ih, Option.map_some]

/-- A literal is read off the front of a text, whatever follows it. -/
theorem read_quoteChars_append (asked : Mark) (value rest : List Char) :
    read (quoteChars asked value ++ rest) = some (value, rest) := by
  have inside := readInside_flatMap_escapeChar (asked.around value) value rest
  rw [quoteChars, List.append_assoc, List.cons_append, List.singleton_append]
  generalize asked.around value = mark at inside ⊢
  cases mark <;> exact inside

theorem quoteChars_append_inj {first second restOfFirst restOfSecond : List Char}
    (same : quoteChars asked first ++ restOfFirst = quoteChars asked second ++ restOfSecond) :
    first = second ∧ restOfFirst = restOfSecond := by
  have reading := congrArg read same
  rw [read_quoteChars_append, read_quoteChars_append] at reading
  simpa using reading

/-! Woven texts -/

/-- Words, and then literals by their values, each with the words that follow it. -/
abbrev Weft := String × List (String × String)

/-- The text of words and of the literals after them. -/
def weave (asked : Mark) (words : String) : List (String × String) → List Char
  | [] => words.toList
  | (value, after) :: parts =>
      words.toList ++ (quoteChars asked value.toList ++ weave asked after parts)

/-- What stands in a woven text, plain and without `n` in front, stands in its words or in the
value of a literal. -/
theorem infix_weave_iff {piece : List Char} (nonempty : piece ≠ []) (plain : isPlain piece = true)
    (start : piece.head? ≠ some 'n') (words : String) (parts : List (String × String)) :
    piece <:+: weave asked words parts ↔ piece <:+: words.toList ∨
      ∃ part ∈ parts, piece <:+: part.1.toList ∨ piece <:+: part.2.toList := by
  induction parts generalizing words with
  | nil => simp [weave]
  | cons part parts ih =>
      rw [weave, infix_append_quoteChars_append_iff nonempty plain start, ih,
        List.exists_mem_cons_iff, or_assoc]

/-- Whether a character begins a literal. -/
def isDelimiter (c : Char) : Bool := c == '\'' || c == '"'

/-- No literal begins in the words. -/
def isBare (words : String) : Bool := words.toList.all fun c => !isDelimiter c

/-- No literal begins in the words of a weft. -/
def Weft.isBare (weft : Weft) : Bool :=
  Literal.isBare weft.1 && weft.2.all fun part => Literal.isBare part.2

theorem isBare_ofList {chars : List Char}
    (bare : (chars.all fun c => !isDelimiter c) = true) : isBare (.ofList chars) = true := by
  rw [isBare, String.toList_ofList, bare]

theorem isBare_append (first second : String) :
    isBare (first ++ second) = (isBare first && isBare second) := by
  rw [isBare, String.toList_append, List.all_append, isBare, isBare]

/-- The words in front end where the first literal begins. -/
theorem takeWhile_weave {words : String} (bare : isBare words = true)
    (parts : List (String × String)) :
    (weave asked words parts).takeWhile (fun c => !isDelimiter c) = words.toList := by
  have opening (value : String) (rest : List Char) :
      (quoteChars asked value.toList ++ rest).takeWhile (fun c => !isDelimiter c) = [] := by
    rw [quoteChars]
    cases asked.around value.toList <;> rfl
  rw [isBare, List.all_eq_true] at bare
  cases parts with
  | nil =>
      rw [weave, ← List.append_nil words.toList, List.takeWhile_append_of_pos bare,
        List.takeWhile_nil]
  | cons part parts =>
      rw [weave, List.takeWhile_append_of_pos bare, opening, List.append_nil]

/-- Words alone are no text with a literal. -/
theorem weave_nil_ne_weave_cons (words : String) (part : String × String)
    (parts : List (String × String)) : weave asked words [] ≠ weave asked words (part :: parts) := by
  intro same
  rw [weave, weave, List.self_eq_append_right] at same
  simp [quoteChars] at same

/-- Woven texts that are equal have the same literals between the same words. -/
theorem eq_and_eq_of_weave_eq {words words' : String} {parts parts' : List (String × String)}
    (bare : isBare words = true) (bareParts : ∀ part ∈ parts, isBare part.2 = true)
    (bare' : isBare words' = true) (bareParts' : ∀ part ∈ parts', isBare part.2 = true)
    (same : weave asked words parts = weave asked words' parts') :
    words = words' ∧ parts = parts' := by
  induction parts generalizing words words' parts' with
  | nil =>
      have sameWords := congrArg (List.takeWhile fun c => !isDelimiter c) same
      rw [takeWhile_weave bare, takeWhile_weave bare', String.toList_inj] at sameWords
      subst sameWords
      cases parts' with
      | nil => exact ⟨rfl, rfl⟩
      | cons part' parts' => exact absurd same (weave_nil_ne_weave_cons words part' parts')
  | cons part parts ih =>
      have sameWords := congrArg (List.takeWhile fun c => !isDelimiter c) same
      rw [takeWhile_weave bare, takeWhile_weave bare', String.toList_inj] at sameWords
      subst sameWords
      cases parts' with
      | nil => exact absurd same.symm (weave_nil_ne_weave_cons words part parts)
      | cons part' parts' =>
          obtain ⟨value, rest⟩ := quoteChars_append_inj (List.append_cancel_left same)
          rw [List.forall_mem_cons] at bareParts bareParts'
          obtain ⟨after, later⟩ := ih bareParts.1 bareParts.2 bareParts'.1 bareParts'.2 rest
          exact ⟨rfl, by rw [Prod.ext (String.toList_inj.mp value) after, later]⟩

/-- A woven text tells its weft. -/
theorem Weft.eq_of_weave_eq {first second : Weft} (bare : first.isBare = true)
    (bare' : second.isBare = true)
    (same : weave asked first.1 first.2 = weave asked second.1 second.2) : first = second := by
  rw [Weft.isBare, Bool.and_eq_true, List.all_eq_true] at bare bare'
  obtain ⟨words, parts⟩ := eq_and_eq_of_weave_eq bare.1 bare.2 bare'.1 bare'.2 same
  exact Prod.ext words parts

end PlainScript.Literal
