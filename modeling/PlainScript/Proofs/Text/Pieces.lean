/-
Cutting texts into pieces and lines, trimming them and joining pieces: what stands in the whole
stands in a piece.
-/

import Mathlib.Data.List.TakeWhile
import PlainScript.Proofs.Text.Occurrence
import PlainScript.Text.Alphabet

namespace PlainScript

namespace Chars

/-- What is said of listed characters is decided along the list, and not over all characters. -/
instance (priority := 2000) decidableForallMem {P : Char → Prop} [DecidablePred P]
    (chars : List Char) : Decidable (∀ c ∈ chars, P c) :=
  List.decidableBAll P chars

variable {mark : Char → Bool}

theorem splitAt_ne_nil (mark : Char → Bool) (text : List Char) : splitAt mark text ≠ [] := by
  cases text with
  | nil => simp [splitAt]
  | cons c text =>
      rw [splitAt]
      split
      · simp
      · split <;> simp

/-- The cases of a cut: a mark begins a new piece, any other character lengthens the first. -/
theorem splitAt_cons (mark : Char → Bool) (c : Char) (text : List Char) :
    ∃ first rest, splitAt mark text = first :: rest ∧
      splitAt mark (c :: text) = if mark c then [] :: first :: rest else (c :: first) :: rest := by
  obtain ⟨first, rest, same⟩ := List.exists_cons_of_ne_nil (splitAt_ne_nil mark text)
  exact ⟨first, rest, same, by simp [splitAt, same]⟩

/-- No piece holds a mark. -/
theorem mark_eq_false_of_mem_splitAt {text part : List Char} (member : part ∈ splitAt mark text) :
    ∀ c ∈ part, mark c = false := by
  induction text generalizing part with
  | nil =>
      rw [splitAt, List.mem_singleton] at member
      simp [member]
  | cons c text ih =>
      obtain ⟨first, rest, same, whole⟩ := splitAt_cons mark c text
      rw [same] at ih
      rw [whole] at member
      split at member
      · rcases List.mem_cons.mp member with rfl | member
        · simp
        · exact ih member
      · rename_i unmarked
        rcases List.mem_cons.mp member with rfl | member
        · intro d inside
          rcases List.mem_cons.mp inside with rfl | inside
          · simpa using unmarked
          · exact ih List.mem_cons_self d inside
        · exact ih (List.mem_cons_of_mem _ member)

/-- The first piece begins the text, and the others stand in it. -/
theorem splitAt_parts (mark : Char → Bool) (text : List Char) :
    ∃ first rest, splitAt mark text = first :: rest ∧ first <+: text ∧
      ∀ part ∈ rest, part <:+: text := by
  induction text with
  | nil => exact ⟨[], [], rfl, List.nil_prefix, by simp⟩
  | cons c text ih =>
      obtain ⟨first, rest, same, before, inside⟩ := ih
      by_cases marked : mark c
      · refine ⟨[], first :: rest, by simp [splitAt, marked, same], List.nil_prefix, ?_⟩
        intro part member
        rcases List.mem_cons.mp member with rfl | member
        · exact List.infix_cons before.isInfix
        · exact List.infix_cons (inside part member)
      · refine ⟨c :: first, rest, by simp [splitAt, marked, same], ?_, ?_⟩
        · exact List.cons_prefix_cons.mpr ⟨rfl, before⟩
        · exact fun part member => List.infix_cons (inside part member)

/-- Every piece stands in the text. -/
theorem infix_of_mem_splitAt {text part : List Char} (member : part ∈ splitAt mark text) :
    part <:+: text := by
  obtain ⟨first, rest, same, before, inside⟩ := splitAt_parts mark text
  rw [same] at member
  rcases List.mem_cons.mp member with rfl | member
  · exact before.isInfix
  · exact inside part member

/-- The pieces hold everything but the marks. -/
theorem flatten_splitAt (mark : Char → Bool) (text : List Char) :
    (splitAt mark text).flatten = text.filter fun c => !mark c := by
  induction text with
  | nil => rfl
  | cons c text ih =>
      obtain ⟨first, rest, same, whole⟩ := splitAt_cons mark c text
      rw [same] at ih
      rw [whole, List.filter_cons, ← ih]
      cases mark c <;> simp

/-- A mark ends a piece without marks. -/
theorem splitAt_append_cons {piece : List Char} (unmarked : ∀ c ∈ piece, mark c = false) {c : Char}
    (marked : mark c = true) (rest : List Char) :
    splitAt mark (piece ++ c :: rest) = piece :: splitAt mark rest := by
  induction piece with
  | nil => simp [splitAt, marked]
  | cons d piece ih =>
      rw [List.forall_mem_cons] at unmarked
      rw [List.cons_append, splitAt, unmarked.1, if_neg Bool.false_ne_true, ih unmarked.2]

theorem splitAt_eq_singleton {piece : List Char} (unmarked : ∀ c ∈ piece, mark c = false) :
    splitAt mark piece = [piece] := by
  induction piece with
  | nil => rfl
  | cons d piece ih =>
      rw [List.forall_mem_cons] at unmarked
      rw [splitAt, unmarked.1, if_neg Bool.false_ne_true, ih unmarked.2]

/-- A separator between all pieces of a text gives the text back. -/
theorem intercalate_splitAt (separator : Char) (text : List Char) :
    [separator].intercalate (splitAt (· == separator) text) = text := by
  induction text with
  | nil => rfl
  | cons c text ih =>
      obtain ⟨first, rest, same, whole⟩ := splitAt_cons (· == separator) c text
      rw [same] at ih
      rw [whole]
      split
      · rename_i isSeparator
        rw [List.intercalate_cons_cons, ih, eq_of_beq isSeparator]
        rfl
      · cases rest with
        | nil => rw [List.intercalate_singleton, ← ih, List.intercalate_singleton]
        | cons second rest =>
            rw [List.intercalate_cons_cons, ← ih, List.intercalate_cons_cons, List.cons_append,
              List.cons_append]

/-- Pieces without marks and with one mark between them are read back. -/
theorem splitAt_intercalate {separator : Char} (marked : mark separator = true)
    {pieces : List (List Char)} (nonempty : pieces ≠ [])
    (unmarked : ∀ piece ∈ pieces, ∀ c ∈ piece, mark c = false) :
    splitAt mark ([separator].intercalate pieces) = pieces := by
  induction pieces with
  | nil => exact absurd rfl nonempty
  | cons first pieces ih =>
      rw [List.forall_mem_cons] at unmarked
      cases pieces with
      | nil => rw [List.intercalate_singleton, splitAt_eq_singleton unmarked.1]
      | cons second pieces =>
          rw [List.intercalate_cons_cons, List.append_assoc, List.singleton_append,
            splitAt_append_cons unmarked.1 marked, ih (List.cons_ne_nil _ _) unmarked.2]

/-- What is kept in front ends at the first other character. -/
theorem takeWhile_append_cons {keep : Char → Bool} {front : List Char} {c : Char}
    (kept : ∀ d ∈ front, keep d = true) (stops : keep c = false) (rest : List Char) :
    (front ++ c :: rest).takeWhile keep = front := by
  rw [List.takeWhile_append_of_pos kept, List.takeWhile_cons_of_neg (by simp [stops]),
    List.append_nil]

/-- Dropping from the front ends at the first other character. -/
theorem dropWhile_append_cons {drop : Char → Bool} {front : List Char} {c : Char}
    (dropped : ∀ d ∈ front, drop d = true) (stops : drop c = false) (rest : List Char) :
    (front ++ c :: rest).dropWhile drop = c :: rest := by
  rw [List.dropWhile_append_of_pos dropped, List.dropWhile_cons_of_neg (by simp [stops])]

/-- What is kept in front ends where the rest begins with another character. -/
theorem takeWhile_append_of_head? {keep : Char → Bool} {front rest : List Char}
    (kept : ∀ d ∈ front, keep d = true) (stops : ∀ d ∈ rest.head?, keep d = false) :
    (front ++ rest).takeWhile keep = front := by
  cases rest with
  | nil => rw [List.append_nil, List.takeWhile_eq_self_iff.mpr kept]
  | cons d rest => exact takeWhile_append_cons kept (stops d rfl) rest

theorem dropWhile_append_of_head? {drop : Char → Bool} {front rest : List Char}
    (dropped : ∀ d ∈ front, drop d = true) (stops : ∀ d ∈ rest.head?, drop d = false) :
    (front ++ rest).dropWhile drop = rest := by
  cases rest with
  | nil => rw [List.append_nil, List.dropWhile_eq_nil_iff.mpr dropped]
  | cons d rest => exact dropWhile_append_cons dropped (stops d rfl) rest

/-- A text tells what stands before its first mark. -/
theorem append_cons_inj {front front' rest rest' : List Char} {c c' : Char}
    (unmarked : ∀ d ∈ front, mark d = false) (unmarked' : ∀ d ∈ front', mark d = false)
    (marked : mark c = true) (marked' : mark c' = true)
    (same : front ++ c :: rest = front' ++ c' :: rest') :
    front = front' ∧ c = c' ∧ rest = rest' := by
  have before {front : List Char} {c : Char} (unmarked : ∀ d ∈ front, mark d = false)
      (marked : mark c = true) (rest : List Char) :
      (front ++ c :: rest).takeWhile (fun d => !mark d) = front :=
    takeWhile_append_cons (fun d member => by rw [unmarked d member]; rfl)
      (by rw [marked]; rfl) rest
  obtain rfl : front = front' := by
    rw [← before unmarked marked rest, same, before unmarked' marked' rest']
  exact ⟨rfl, List.cons.inj (List.append_cancel_left same)⟩

/-- What begins the text and holds no mark begins the first piece. -/
theorem exists_prefix_splitAt {text piece : List Char} (unmarked : ∀ c ∈ piece, mark c = false)
    (before : piece <+: text) :
    ∃ first rest, splitAt mark text = first :: rest ∧ piece <+: first := by
  induction text generalizing piece with
  | nil => exact ⟨[], [], rfl, by simpa using before⟩
  | cons c text ih =>
      cases piece with
      | nil =>
          obtain ⟨first, rest, same⟩ := List.exists_cons_of_ne_nil (splitAt_ne_nil mark (c :: text))
          exact ⟨first, rest, same, List.nil_prefix⟩
      | cons d piece =>
          obtain ⟨rfl, later⟩ := List.cons_prefix_cons.mp before
          obtain ⟨first, rest, same, start⟩ :=
            ih (fun e member => unmarked e (List.mem_cons_of_mem d member)) later
          refine ⟨d :: first, rest, ?_, List.cons_prefix_cons.mpr ⟨rfl, start⟩⟩
          simp [splitAt, same, unmarked d List.mem_cons_self]

/-- What stands in the text and holds no mark stands in a piece. -/
theorem exists_infix_splitAt {text piece : List Char} (unmarked : ∀ c ∈ piece, mark c = false)
    (inside : piece <:+: text) : ∃ part ∈ splitAt mark text, piece <:+: part := by
  induction text with
  | nil => exact ⟨[], by simp [splitAt], inside⟩
  | cons c text ih =>
      rcases List.infix_cons_iff.mp inside with before | later
      · obtain ⟨first, rest, same, start⟩ := exists_prefix_splitAt unmarked before
        exact ⟨first, by simp [same], start.isInfix⟩
      · obtain ⟨part, member, inPart⟩ := ih later
        obtain ⟨first, rest, same, whole⟩ := splitAt_cons mark c text
        rw [same] at member
        rw [whole]
        split
        · exact ⟨part, List.mem_cons_of_mem _ member, inPart⟩
        · rcases List.mem_cons.mp member with rfl | member
          · exact ⟨c :: part, List.mem_cons_self, List.infix_cons inPart⟩
          · exact ⟨part, List.mem_cons_of_mem _ member, inPart⟩

/-- Joining adds no occurrence and loses none. -/
theorem infix_intercalate_iff {piece separator : List Char} (nonempty : piece ≠ [])
    (guarded : guards piece separator = true) (parts : List (List Char)) :
    piece <:+: separator.intercalate parts ↔ ∃ part ∈ parts, piece <:+: part := by
  induction parts with
  | nil => simpa using nonempty
  | cons first parts ih =>
      cases parts with
      | nil => simp
      | cons second parts =>
          rw [List.intercalate_cons_cons, infix_append_guard_append_iff guarded, ih]
          simp

/-- Every word stands in the text. -/
theorem infix_of_mem_words {text word : List Char} (member : word ∈ words text) : word <:+: text :=
  infix_of_mem_splitAt (List.mem_filter.mp member).1

theorem flatten_words (text : List Char) :
    (words text).flatten = text.filter fun c => !Text.isBlank c := by
  rw [words, ← flatten_splitAt]
  generalize splitAt Text.isBlank text = pieces
  induction pieces with
  | nil => rfl
  | cons piece pieces ih => cases piece <;> simp [ih]

/-- A blank ends a word. -/
theorem words_append_cons {word : List Char} (nonempty : word ≠ [])
    (unbroken : ∀ c ∈ word, Text.isBlank c = false) {c : Char} (blank : Text.isBlank c = true)
    (rest : List Char) : words (word ++ c :: rest) = word :: words rest := by
  rw [words, splitAt_append_cons unbroken blank, List.filter_cons_of_pos (by simpa using nonempty),
    words]

/-- Words with one space between them are read back. -/
theorem words_intercalate {parts : List (List Char)} (nonempty : ∀ part ∈ parts, part ≠ [])
    (unbroken : ∀ part ∈ parts, ∀ c ∈ part, Text.isBlank c = false) :
    words ([' '].intercalate parts) = parts := by
  cases parts with
  | nil => rfl
  | cons first parts =>
      rw [words, splitAt_intercalate (by decide) (List.cons_ne_nil _ _) unbroken,
        List.filter_eq_self]
      intro part member
      simpa using nonempty part member

/-- Every part stands in the joined text. -/
theorem infix_intercalate_of_mem {part separator : List Char} {parts : List (List Char)}
    (member : part ∈ parts) : part <:+: separator.intercalate parts := by
  induction parts with
  | nil => cases member
  | cons first parts ih =>
      cases parts with
      | nil =>
          obtain rfl := List.mem_singleton.mp member
          rw [List.intercalate_singleton]
      | cons second parts =>
          rw [List.intercalate_cons_cons]
          rcases List.mem_cons.mp member with rfl | member
          · rw [List.append_assoc]
            exact (List.prefix_append _ _).isInfix
          · exact (ih member).trans (List.suffix_append _ _).isInfix

/-- Joined text begins with its first part. -/
theorem prefix_intercalate_cons (separator first : List Char) (parts : List (List Char)) :
    first <+: separator.intercalate (first :: parts) := by
  cases parts with
  | nil => rw [List.intercalate_singleton]
  | cons second parts =>
      rw [List.intercalate_cons_cons, List.append_assoc]
      exact List.prefix_append _ _

/-- Joined text has the characters of the separator and of the parts. -/
theorem forall_mem_intercalate {P : Char → Prop} {separator : List Char}
    {parts : List (List Char)} (inSeparator : ∀ c ∈ separator, P c)
    (inParts : ∀ part ∈ parts, ∀ c ∈ part, P c) : ∀ c ∈ separator.intercalate parts, P c := by
  induction parts with
  | nil => simp
  | cons first parts ih =>
      rw [List.forall_mem_cons] at inParts
      cases parts with
      | nil => simpa using inParts.1
      | cons second parts =>
          rw [List.intercalate_cons_cons, List.forall_mem_append, List.forall_mem_append]
          exact ⟨⟨inParts.1, inSeparator⟩, ih inParts.2⟩

/-- Joining with characters that do not count leaves the count. -/
theorem countP_intercalate {counts : Char → Bool} {separator : List Char}
    (ignored : separator.countP counts = 0) (parts : List (List Char)) :
    (separator.intercalate parts).countP counts = parts.flatten.countP counts := by
  induction parts with
  | nil => simp
  | cons first parts ih =>
      cases parts with
      | nil => simp
      | cons second parts =>
          rw [List.intercalate_cons_cons, List.countP_append, List.countP_append, ignored, ih,
            Nat.add_zero, ← List.countP_append]
          rfl

/-! Lines -/

/-- A line without line ends is read up to the line feed after it. -/
theorem linesFrom_append_cons {line : List Char} (unbroken : ∀ c ∈ line, Text.isLineEnd c = false)
    (before rest : List Char) :
    linesFrom before (line ++ '\n' :: rest) = (before.reverse ++ line) :: linesFrom [] rest := by
  induction line generalizing before with
  | nil => simp [linesFrom, Text.isLineEnd]
  | cons c line ih =>
      have within := unbroken c List.mem_cons_self
      have noReturn : c ≠ '\r' := by
        rintro rfl
        cases within
      rw [List.cons_append, linesFrom, within, if_neg Bool.false_ne_true,
        ih fun d member => unbroken d (List.mem_cons_of_mem c member), List.reverse_cons,
        List.append_assoc, List.singleton_append]
      exact fun _ same => absurd same noReturn

/-- Lines without line ends are read back. -/
theorem lines_intercalate {lines : List (List Char)} (nonempty : lines ≠ [])
    (unbroken : ∀ line ∈ lines, ∀ c ∈ line, Text.isLineEnd c = false) :
    Chars.lines (['\n'].intercalate lines ++ ['\n']) = lines := by
  rw [Chars.lines]
  induction lines with
  | nil => exact absurd rfl nonempty
  | cons first lines ih =>
      rw [List.forall_mem_cons] at unbroken
      cases lines with
      | nil =>
          rw [List.intercalate_singleton, linesFrom_append_cons unbroken.1]
          rfl
      | cons second lines =>
          rw [List.intercalate_cons_cons, List.append_assoc, List.append_assoc,
            List.singleton_append, linesFrom_append_cons unbroken.1,
            ih (List.cons_ne_nil _ _) unbroken.2]
          rfl

/-- After a line feed reading begins anew, whatever line ends stand before it. -/
theorem exists_linesFrom_append_cons (front before rest : List Char) :
    ∃ lines, linesFrom before (front ++ '\n' :: rest) = lines ++ linesFrom [] rest := by
  match front with
  | [] => exact ⟨[before.reverse], by simp [linesFrom, Text.isLineEnd]⟩
  | c :: front =>
      rw [List.cons_append, linesFrom.eq_def]
      split
      · rename_i same
        cases same
      · rename_i after same
        obtain ⟨-, same⟩ := List.cons.inj same
        -- A carriage return takes the line feed after it along.
        cases front with
        | nil =>
            obtain ⟨-, rfl⟩ := List.cons.inj same
            exact ⟨[before.reverse], rfl⟩
        | cons d front =>
            obtain ⟨-, rfl⟩ := List.cons.inj same
            obtain ⟨lines, read⟩ := exists_linesFrom_append_cons front [] rest
            exact ⟨before.reverse :: lines, congrArg (before.reverse :: ·) read⟩
      · rename_i d after _ same
        obtain ⟨rfl, rfl⟩ := List.cons.inj same
        split
        · obtain ⟨lines, read⟩ := exists_linesFrom_append_cons front [] rest
          exact ⟨before.reverse :: lines, congrArg (before.reverse :: ·) read⟩
        · exact exists_linesFrom_append_cons front (c :: before) rest
termination_by front.length

/-- A line without line ends is read back, whatever the lines around it hold. -/
theorem mem_lines_intercalate {line : List Char} {parts : List (List Char)} (member : line ∈ parts)
    (unbroken : ∀ c ∈ line, Text.isLineEnd c = false) :
    line ∈ Chars.lines (['\n'].intercalate parts ++ ['\n']) := by
  rw [Chars.lines]
  induction parts with
  | nil => cases member
  | cons first parts ih =>
      cases parts with
      | nil =>
          obtain rfl := List.mem_singleton.mp member
          rw [List.intercalate_singleton, linesFrom_append_cons unbroken]
          exact List.mem_cons_self
      | cons second parts =>
          rw [List.intercalate_cons_cons, List.append_assoc, List.append_assoc,
            List.singleton_append]
          rcases List.mem_cons.mp member with rfl | member
          · rw [linesFrom_append_cons unbroken]
            exact List.mem_cons_self
          · obtain ⟨lines, read⟩ := exists_linesFrom_append_cons first []
              (['\n'].intercalate (second :: parts) ++ ['\n'])
            rw [read]
            exact List.mem_append_right _ (ih member)

/-! Trimming -/

/-- What is left after trimming stands in the text. -/
theorem trimRightWhere_prefix_self (drop : Char → Bool) (chars : List Char) :
    trimRightWhere drop chars <+: chars := by
  rw [trimRightWhere, ← List.reverse_suffix, List.reverse_reverse]
  exact List.dropWhile_suffix _

theorem trim_infix (chars : List Char) : trim chars <:+: chars :=
  (trimRightWhere_prefix_self Text.isBlank (trimLeft chars)).isInfix.trans
    (List.dropWhile_suffix _).isInfix

/-- Dropping leaves what is not marked. -/
theorem mem_dropWhile {drop : Char → Bool} {chars : List Char} {c : Char} (member : c ∈ chars)
    (kept : drop c = false) : c ∈ chars.dropWhile drop := by
  rw [← List.takeWhile_append_dropWhile (p := drop) (l := chars)] at member
  rcases List.mem_append.mp member with dropped | left
  · rw [List.mem_takeWhile_imp dropped] at kept
    cases kept
  · exact left

/-- Trimming leaves what is not to be dropped. -/
theorem mem_trimRightWhere {drop : Char → Bool} {chars : List Char} {c : Char} (member : c ∈ chars)
    (kept : drop c = false) : c ∈ trimRightWhere drop chars := by
  rw [trimRightWhere, List.mem_reverse]
  exact mem_dropWhile (List.mem_reverse.mpr member) kept

/-- Trimming leaves every other character than blanks. -/
theorem mem_trim {chars : List Char} {c : Char} (member : c ∈ chars)
    (kept : Text.isBlank c = false) : c ∈ trim chars :=
  mem_trimRightWhere (mem_dropWhile member kept) kept

/-- Trimming keeps a text that has nothing to be dropped at its end. -/
theorem trimRightWhere_eq_self {drop : Char → Bool} {chars : List Char}
    (kept : ∀ c ∈ chars.getLast?, drop c = false) : trimRightWhere drop chars = chars := by
  rw [← List.head?_reverse] at kept
  rw [trimRightWhere]
  cases same : chars.reverse with
  | nil => simpa using same.symm
  | cons c rest =>
      rw [same, List.head?_cons] at kept
      rw [List.dropWhile_cons_of_neg (by simpa using kept), ← same, List.reverse_reverse]

/-- Trimming leaves a front that does not end with what is to be dropped. -/
theorem trimRightWhere_append {drop : Char → Bool} {front : List Char}
    (kept : ∀ c ∈ front.getLast?, drop c = false) (back : List Char) :
    trimRightWhere drop (front ++ back) = front ++ trimRightWhere drop back := by
  have whole : (front.reverse.dropWhile drop).reverse = front := trimRightWhere_eq_self kept
  rw [trimRightWhere, List.reverse_append, List.dropWhile_append, trimRightWhere]
  split
  · rename_i nothing
    rw [whole, List.isEmpty_iff.mp nothing, List.reverse_nil, List.append_nil]
  · rw [List.reverse_append, List.reverse_reverse]

/-- Trimming leaves a front without blanks at its ends. -/
theorem trim_append_of_unblank {front : List Char} (nonempty : front ≠ [])
    (first : ∀ c ∈ front.head?, Text.isBlank c = false)
    (last : ∀ c ∈ front.getLast?, Text.isBlank c = false) (back : List Char) :
    trim (front ++ back) = front ++ trimRightWhere Text.isBlank back := by
  have left : trimLeft (front ++ back) = front ++ back := by
    obtain ⟨c, front, rfl⟩ := List.exists_cons_of_ne_nil nonempty
    exact List.dropWhile_cons_of_neg (by simpa using first)
  rw [trim, left, trimRightWhere_append last]

/-- Trimming keeps a text without blanks at its ends. -/
theorem trim_eq_self {chars : List Char} (first : ∀ c ∈ chars.head?, Text.isBlank c = false)
    (last : ∀ c ∈ chars.getLast?, Text.isBlank c = false) : trim chars = chars := by
  by_cases nonempty : chars = []
  · rw [nonempty]
    rfl
  · simpa [trimRightWhere] using trim_append_of_unblank nonempty first last []

/-- What remains when marked characters are dropped does not begin with one. -/
theorem head?_dropWhile (drop : Char → Bool) (chars : List Char) :
    ∀ c ∈ (chars.dropWhile drop).head?, drop c = false := by
  intro c head
  have first := List.head?_dropWhile_not drop chars
  rw [Option.mem_def] at head
  rw [head] at first
  simpa using first

/-- A trimmed text does not begin with a blank. -/
theorem isBlank_head?_trim (chars : List Char) :
    ∀ c ∈ (trim chars).head?, Text.isBlank c = false := by
  intro c head
  refine head?_dropWhile Text.isBlank chars c ?_
  obtain ⟨back, whole⟩ := trimRightWhere_prefix_self Text.isBlank (trimLeft chars)
  rw [Option.mem_def] at head ⊢
  change trim chars ++ back = chars.dropWhile Text.isBlank at whole
  rw [← whole, List.head?_append, head, Option.some_or]

/-- A trimmed text does not end with a blank. -/
theorem isBlank_getLast?_trim (chars : List Char) :
    ∀ c ∈ (trim chars).getLast?, Text.isBlank c = false := by
  rw [trim, trimRightWhere, List.getLast?_reverse]
  exact head?_dropWhile _ _

/-- Trimming a second time changes nothing. -/
theorem trim_trim (chars : List Char) : trim (trim chars) = trim chars :=
  trim_eq_self (isBlank_head?_trim chars) (isBlank_getLast?_trim chars)

end Chars

namespace Text

/-- Trimming keeps a text whose front begins, and whose back ends, with another character. -/
theorem trim_append_eq_self {front back : String} {c : Char} (first : front.toList.head? = some c)
    (unblank : isBlank c = false) (nonempty : back ≠ "")
    (last : ∀ d ∈ back.toList.getLast?, isBlank d = false) :
    trim (front ++ back) = front ++ back := by
  have trimmed : Chars.trim (front ++ back).toList = (front ++ back).toList := by
    rw [String.toList_append]
    refine Chars.trim_eq_self ?_ ?_
    · rw [List.head?_append, first]
      rintro d ⟨rfl⟩
      exact unblank
    · rw [List.getLast?_append_of_ne_nil _ (by simpa using nonempty)]
      exact last
  rw [trim, trimmed, String.ofList_toList]

/-- The codes of blanks. -/
def blankCodes : List Nat := [
  9, 10, 11, 12, 13, 28, 29, 30, 31, 32, 0x85, 0xA0, 0x1680, 0x2000, 0x2001, 0x2002, 0x2003,
  0x2004, 0x2005, 0x2006, 0x2007, 0x2008, 0x2009, 0x200A, 0x2028, 0x2029, 0x202F, 0x205F, 0x3000]

theorem toNat_mem_blankCodes {c : Char} (blank : isBlank c = true) : c.toNat ∈ blankCodes := by
  simp only [isBlank, Bool.or_eq_true, Bool.and_eq_true, decide_eq_true_eq, beq_iff_eq] at blank
  simp only [blankCodes, List.mem_cons, List.not_mem_nil, or_false]
  omega

/-- A word character is no blank. -/
theorem isBlank_eq_false_of_isWord {c : Char} (word : isWord c = true) : isBlank c = false := by
  have none : ∀ code ∈ blankCodes, isWord (Char.ofNat code) = false := by decide +kernel
  rw [← Bool.not_eq_true]
  intro blank
  have unworded := none c.toNat (toNat_mem_blankCodes blank)
  rw [Char.ofNat_toNat, word] at unworded
  cases unworded

/-- A line end is a blank. -/
theorem isBlank_of_isLineEnd {c : Char} (ends : isLineEnd c = true) : isBlank c = true := by
  simp only [isLineEnd, Bool.or_eq_true, Bool.and_eq_true, decide_eq_true_eq, beq_iff_eq] at ends
  simp only [isBlank, Bool.or_eq_true, Bool.and_eq_true, decide_eq_true_eq, beq_iff_eq]
  omega

/-- The characters of a text on one line. -/
theorem toList_oneLine (text : String) :
    (oneLine text).toList = [' '].intercalate (Chars.words text.toList) := by
  simp [oneLine, words, List.map_map, Function.comp_def]

/-- A piece that stands in the one-line form stands in the text. -/
theorem infix_of_infix_oneLine {text : String} {piece : List Char} (nonempty : piece ≠ [])
    (spaceless : ' ' ∉ piece) (inside : piece <:+: (oneLine text).toList) :
    piece <:+: text.toList := by
  have guarded := Chars.guards_singleton nonempty spaceless
  rw [toList_oneLine, Chars.infix_intercalate_iff nonempty guarded] at inside
  obtain ⟨word, member, inWord⟩ := inside
  exact inWord.trans (Chars.infix_of_mem_words member)

/-- A piece without blanks that stands in the text stands in the one-line form. -/
theorem infix_oneLine_of_infix {text : String} {piece : List Char} (nonempty : piece ≠ [])
    (unbroken : ∀ c ∈ piece, isBlank c = false) (inside : piece <:+: text.toList) :
    piece <:+: (oneLine text).toList := by
  obtain ⟨word, inText, inWord⟩ := Chars.exists_infix_splitAt unbroken inside
  have filled : word ≠ [] := by
    rintro rfl
    exact nonempty (List.infix_nil.mp inWord)
  have member : word ∈ Chars.words text.toList :=
    List.mem_filter.mpr ⟨inText, by simpa using filled⟩
  rw [toList_oneLine]
  exact inWord.trans (Chars.infix_intercalate_of_mem member)

end Text

end PlainScript
