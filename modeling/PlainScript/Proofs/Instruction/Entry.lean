/-
Entries one by one. Text without annotations has none, and nothing is taken out of it. An
annotation takes nothing beyond its line unless it has no value there, so that a text whose
annotations have values and whose last line has ended is read apart from an annotation that
follows it.
-/

import PlainScript.Instruction.Lock
import PlainScript.Proofs.Text.Pieces

namespace PlainScript.Lock

variable {chars : List Char}

theorem opening_eq : opening = ['[', 'L', 'O', 'C', 'K'] := String.toList_ofList

theorem entryAt?_eq_none (absent : ¬ opening <+: chars) : entryAt? chars = none := by
  rw [entryAt?, if_pos]
  rwa [Bool.not_eq_true', ← Bool.not_eq_true, List.isPrefixOf_iff_prefix]

/-- Where no annotation begins, none is read and nothing is passed over. -/
theorem entriesFrom_withoutFrom_of_absent (absent : ¬ opening <:+: chars) :
    entriesFrom 0 chars = [] ∧ withoutFrom 0 chars = chars := by
  induction chars with
  | nil => exact ⟨rfl, rfl⟩
  | cons c rest ih =>
      have here := entryAt?_eq_none fun before => absent before.isInfix
      obtain ⟨none, all⟩ := ih fun inside => absent (List.infix_cons inside)
      simp only [entriesFrom, withoutFrom, here, none, all, and_self]

variable {text : String}

theorem entries_eq_nil (absent : ¬ opening <:+: text.toList) : entries text = [] :=
  (entriesFrom_withoutFrom_of_absent absent).1

theorem ofText_eq_nil (absent : ¬ opening <:+: text.toList) : ofText text = [] := by
  rw [ofText, entries_eq_nil absent, List.filterMap_nil]

theorem strip_eq_trim (absent : ¬ opening <:+: text.toList) : strip text = Text.trim text := by
  rw [strip, stripChars, (entriesFrom_withoutFrom_of_absent absent).2, Text.trim]

end PlainScript.Lock

namespace PlainScript

namespace Chars

variable {keep : Char → Bool} {front : List Char} {c : Char}

/-- A front that ends with another character is not kept as a whole. -/
theorem dropWhile_ne_nil (last : front.getLast? = some c) (stops : keep c = false) :
    front.dropWhile keep ≠ [] := by
  intro none
  have kept := List.dropWhile_eq_nil_iff.mp none c (List.mem_of_getLast? last)
  rw [stops] at kept
  cases kept

/-- Where keeping ends within the front does not depend on what follows it. -/
theorem takeWhile_append_of_getLast? (last : front.getLast? = some c) (stops : keep c = false)
    (back : List Char) : (front ++ back).takeWhile keep = front.takeWhile keep := by
  have parts := congrArg List.length (List.takeWhile_append_dropWhile (p := keep) (l := front))
  have left := List.length_pos_of_ne_nil (dropWhile_ne_nil last stops)
  rw [List.length_append] at parts
  rw [List.takeWhile_append, if_neg (by omega)]

theorem dropWhile_append_of_getLast? (last : front.getLast? = some c) (stops : keep c = false)
    (back : List Char) : (front ++ back).dropWhile keep = front.dropWhile keep ++ back := by
  rw [List.dropWhile_append, if_neg]
  rw [List.isEmpty_iff]
  exact dropWhile_ne_nil last stops

end Chars

namespace Lock

/-! Markers -/

/-- One or more blanks. -/
def IsGap (chars : List Char) : Prop := chars ≠ [] ∧ ∀ c ∈ chars, Text.isBlank c = true

/-- One or more word characters. -/
def IsWord (chars : List Char) : Prop := chars ≠ [] ∧ ∀ c ∈ chars, Text.isWord c = true

/-- The words of a type in brackets, as an annotation begins. -/
inductive Marker : (chars first : List Char) → (second : Option (List Char)) → Prop
  | single {gap first : List Char} (apart : IsGap gap) (word : IsWord first) :
      Marker (opening ++ (gap ++ (first ++ [']']))) first none
  | double {gap first inner second : List Char} (apart : IsGap gap) (word : IsWord first)
      (between : IsGap inner) (other : IsWord second) :
      Marker (opening ++ (gap ++ (first ++ (inner ++ (second ++ [']']))))) first (some second)

variable {chars rest word first after : List Char} {second : Option (List Char)} {entry : Entry}

/-- Blanks and a word are read off whatever does not go on with the word. -/
theorem readWord?_eq_some_iff :
    readWord? chars = some (word, rest) ↔
      ∃ gap, chars = gap ++ (word ++ rest) ∧ IsGap gap ∧ IsWord word ∧
        ∀ c ∈ rest.head?, Text.isWord c = false := by
  constructor
  · intro read
    simp only [readWord?] at read
    split_ifs at read with missing
    obtain ⟨rfl, rfl⟩ := Prod.mk.inj (Option.some.inj read)
    rw [Bool.or_eq_true, not_or, beq_iff_eq, List.isEmpty_iff] at missing
    refine ⟨chars.takeWhile Text.isBlank, ?_, ⟨?_, ?_⟩, ⟨missing.2, ?_⟩, ?_⟩
    · rw [List.takeWhile_append_dropWhile, Chars.trimLeft, List.takeWhile_append_dropWhile]
    · intro none
      have whole := List.takeWhile_append_dropWhile (p := Text.isBlank) (l := chars)
      rw [none, List.nil_append] at whole
      exact missing.1 (congrArg List.length whole)
    · exact fun c member => List.mem_takeWhile_imp member
    · exact fun c member => List.mem_takeWhile_imp member
    · exact Chars.head?_dropWhile Text.isWord _
  · rintro ⟨gap, rfl, ⟨apart, blank⟩, ⟨nonempty, isWord⟩, stops⟩
    obtain ⟨c, more, same⟩ := List.exists_cons_of_ne_nil nonempty
    have first : ∀ d ∈ (word ++ rest).head?, Text.isBlank d = false := by
      rw [same]
      rintro d ⟨rfl⟩
      exact Text.isBlank_eq_false_of_isWord (isWord c (same ▸ List.mem_cons_self))
    have trimmed : Chars.trimLeft (gap ++ (word ++ rest)) = word ++ rest :=
      Chars.dropWhile_append_of_head? blank first
    simp only [readWord?, trimmed, Chars.takeWhile_append_of_head? isWord stops,
      Chars.dropWhile_append_of_head? isWord stops]
    rw [if_neg]
    simp [nonempty, apart]

/-- An annotation is read off its marker and the value after it. -/
theorem entryAt?_eq_some_iff :
    entryAt? chars = some (entry, after) ↔
      ∃ marker rest, chars = marker ++ rest ∧ Marker marker entry.first entry.second ∧
        readValue rest = (entry.value, after) := by
  constructor
  · intro read
    rw [entryAt?] at read
    split_ifs at read with absent
    obtain ⟨later, rfl⟩ : opening <+: chars := by simpa using absent
    rw [List.drop_left] at read
    split at read
    · cases read
    · rename_i first rest word
      obtain ⟨gap, rfl, apart, isWord, -⟩ := readWord?_eq_some_iff.mp word
      obtain ⟨rfl, rfl⟩ := Prod.mk.inj (Option.some.inj read)
      refine ⟨_, rest, ?_, .single apart isWord, rfl⟩
      simp only [List.append_assoc, List.cons_append, List.nil_append]
    · rename_i first inside other word
      obtain ⟨gap, rfl, apart, isWord, -⟩ := readWord?_eq_some_iff.mp word
      split at read
      · rename_i second rest word
        obtain ⟨inner, rfl, between, isSecond, -⟩ := readWord?_eq_some_iff.mp word
        obtain ⟨rfl, rfl⟩ := Prod.mk.inj (Option.some.inj read)
        refine ⟨_, rest, ?_, .double apart isWord between isSecond, rfl⟩
        simp only [List.append_assoc, List.cons_append, List.nil_append]
      · cases read
  · rintro ⟨marker, rest, rfl, marked, valued⟩
    obtain ⟨first, second, value⟩ := entry
    have begins (later : List Char) : (!opening.isPrefixOf (opening ++ later)) = false := by
      rw [Bool.not_eq_false', List.isPrefixOf_iff_prefix]
      exact List.prefix_append _ _
    have bracket : ∀ c ∈ (']' :: rest).head?, Text.isWord c = false := by
      rintro c ⟨rfl⟩
      decide
    cases marked with
    | @single gap first apart word =>
        have read : readWord? (gap ++ (first ++ ']' :: rest)) = some (first, ']' :: rest) :=
          readWord?_eq_some_iff.mpr ⟨gap, rfl, apart, word, bracket⟩
        simp only [List.append_assoc, List.cons_append, List.nil_append]
        rw [entryAt?, begins, if_neg Bool.false_ne_true, List.drop_left, read]
        simp only [valued]
    | @double gap first inner second apart word between other =>
        have read : readWord? (inner ++ (second ++ ']' :: rest)) = some (second, ']' :: rest) :=
          readWord?_eq_some_iff.mpr ⟨inner, rfl, between, other, bracket⟩
        obtain ⟨c, more, same⟩ := List.exists_cons_of_ne_nil between.1
        have blank : Text.isBlank c = true := between.2 c (same ▸ List.mem_cons_self)
        have unworded : Text.isWord c = false := by
          rw [← Bool.not_eq_true]
          intro isWord
          rw [Text.isBlank_eq_false_of_isWord isWord] at blank
          cases blank
        have front : readWord? (gap ++ (first ++ (inner ++ (second ++ ']' :: rest)))) =
            some (first, inner ++ (second ++ ']' :: rest)) := by
          refine readWord?_eq_some_iff.mpr ⟨gap, rfl, apart, word, ?_⟩
          rw [same]
          rintro d ⟨rfl⟩
          exact unworded
        have unclosed : c ≠ ']' := by
          rintro rfl
          exact absurd blank (by decide)
        simp only [List.append_assoc, List.cons_append, List.nil_append]
        rw [entryAt?, begins, if_neg Bool.false_ne_true, List.drop_left, front]
        simp only [same, List.cons_append] at read ⊢
        simp [unclosed, read, valued]

/-- No annotation begins with another character than its bracket. -/
theorem entryAt?_cons_of_ne {c : Char} (other : c ≠ '[') : entryAt? (c :: chars) = none := by
  apply entryAt?_eq_none
  rw [opening_eq, List.cons_prefix_cons]
  rintro ⟨same, -⟩
  exact other same.symm

/-! Going on behind an annotation -/

/-- The value after a marker is passed over together with the blanks before it. -/
theorem exists_append_readValue (chars : List Char) :
    ∃ gap, (∀ c ∈ gap, Text.isBlank c = true) ∧
      chars = gap ++ ((readValue chars).1 ++ (readValue chars).2) := by
  refine ⟨chars.takeWhile Text.isBlank, fun c member => List.mem_takeWhile_imp member, ?_⟩
  rw [readValue, List.takeWhile_append_dropWhile, Chars.trimLeft, List.takeWhile_append_dropWhile]

theorem lineFeed_notMem_readValue (chars : List Char) : '\n' ∉ (readValue chars).1 := by
  intro member
  have kept := List.mem_takeWhile_imp member
  simp at kept

/-- A marker has one bracket of each kind, at its ends. -/
theorem Marker.exists_inside {marker : List Char} (marked : Marker marker first second) :
    ∃ inside, marker = '[' :: (inside ++ [']']) ∧ '[' ∉ inside := by
  have notBlank {gap : List Char} (apart : IsGap gap) : '[' ∉ gap := by
    intro member
    exact absurd (apart.2 '[' member) (by decide)
  have notWord {word : List Char} (isWord : IsWord word) : '[' ∉ word := by
    intro member
    exact absurd (isWord.2 '[' member) (by decide)
  have letters : '[' ∉ ['L', 'O', 'C', 'K'] := by decide
  cases marked with
  | @single gap first apart word =>
      refine ⟨['L', 'O', 'C', 'K'] ++ (gap ++ first), by simp [opening_eq], ?_⟩
      simp only [List.mem_append, not_or]
      exact ⟨letters, notBlank apart, notWord word⟩
  | @double gap first inner second apart word between other =>
      refine ⟨['L', 'O', 'C', 'K'] ++ (gap ++ (first ++ (inner ++ second))),
        by simp [opening_eq], ?_⟩
      simp only [List.mem_append, not_or]
      exact ⟨letters, notBlank apart, notWord word, notBlank between, notWord other⟩

/-- What an annotation takes is not nothing, and its value stands in it on one line. -/
theorem exists_taken (read : entryAt? chars = some (entry, after)) :
    ∃ taken, taken ≠ [] ∧ chars = taken ++ after ∧ entry.value <:+: taken ∧
      '\n' ∉ entry.value := by
  obtain ⟨marker, rest, rfl, marked, valued⟩ := entryAt?_eq_some_iff.mp read
  obtain ⟨inside, rfl, -⟩ := marked.exists_inside
  obtain ⟨gap, -, whole⟩ := exists_append_readValue rest
  have plain := lineFeed_notMem_readValue rest
  rw [valued] at whole plain
  refine ⟨'[' :: (inside ++ [']']) ++ gap ++ entry.value, by simp, ?_, ?_, plain⟩
  · rw [whole]
    simp
  · exact (List.suffix_append _ _).isInfix

theorem entriesFrom_length_append (front back : List Char) :
    entriesFrom front.length (front ++ back) = entriesFrom 0 back ∧
      withoutFrom front.length (front ++ back) = withoutFrom 0 back := by
  induction front with
  | nil => exact ⟨rfl, rfl⟩
  | cons c front ih => exact ih

/-- Reading goes on behind an annotation. -/
theorem entriesFrom_of_some (read : entryAt? chars = some (entry, after)) :
    entriesFrom 0 chars = entry :: entriesFrom 0 after ∧
      withoutFrom 0 chars = withoutFrom 0 after := by
  obtain ⟨taken, nonempty, rfl, -⟩ := exists_taken read
  obtain ⟨c, taken, rfl⟩ := List.exists_cons_of_ne_nil nonempty
  obtain ⟨later, left⟩ := entriesFrom_length_append taken after
  rw [List.cons_append] at read ⊢
  have skip : (taken ++ after).length - after.length = taken.length := by
    rw [List.length_append, Nat.add_sub_cancel]
  simp only [entriesFrom, withoutFrom, read, skip, later, left, and_self]

theorem entriesFrom_of_none {c : Char} (missed : entryAt? (c :: chars) = none) :
    entriesFrom 0 (c :: chars) = entriesFrom 0 chars ∧
      withoutFrom 0 (c :: chars) = c :: withoutFrom 0 chars := by
  simp only [entriesFrom, withoutFrom, missed, and_self]

/-- What holds of a text without annotations at its front, and of a text if it holds of what is
behind its first annotation, holds of every text. -/
theorem induction_on_entries {P : List Char → Prop} (nil : P [])
    (none : ∀ c chars, entryAt? (c :: chars) = none → P chars → P (c :: chars))
    (some : ∀ chars entry after, entryAt? chars = some (entry, after) → P after → P chars)
    (chars : List Char) : P chars := by
  induction size : chars.length using Nat.strong_induction_on generalizing chars with
  | _ size ih =>
      cases chars with
      | nil => exact nil
      | cons c chars =>
          cases read : entryAt? (c :: chars) with
          | none => exact none c chars read (ih chars.length (by simp [← size]) chars rfl)
          | some found =>
              obtain ⟨taken, nonempty, whole, -⟩ := exists_taken read
              refine some _ _ _ read (ih found.2.length ?_ found.2 rfl)
              have positive := List.length_pos_of_ne_nil nonempty
              rw [← size, whole, List.length_append]
              omega

/-- The value of every entry stands on one line of the text. -/
theorem exists_line_of_mem_entriesFrom (member : entry ∈ entriesFrom 0 chars) :
    ∃ line ∈ Chars.splitAt (· == '\n') chars, entry.value <:+: line := by
  have inside : entry.value <:+: chars ∧ '\n' ∉ entry.value := by
    induction chars using induction_on_entries with
    | nil => cases member
    | none c chars missed ih =>
        rw [(entriesFrom_of_none missed).1] at member
        obtain ⟨inside, plain⟩ := ih member
        exact ⟨List.infix_cons inside, plain⟩
    | some chars found after read ih =>
        rw [(entriesFrom_of_some read).1] at member
        obtain ⟨taken, -, rfl, inside, plain⟩ := exists_taken read
        rcases List.mem_cons.mp member with rfl | member
        · exact ⟨inside.trans (List.prefix_append _ _).isInfix, plain⟩
        · obtain ⟨inside, plain⟩ := ih member
          exact ⟨inside.trans (List.suffix_append _ _).isInfix, plain⟩
  refine Chars.exists_infix_splitAt (fun c member => ?_) inside.1
  rw [beq_eq_false_iff_ne]
  rintro rfl
  exact inside.2 member

/-! Texts whose last line has ended -/

/-- The text is empty or ends with a line feed, so that a line begins behind it. -/
def IsEnded (chars : List Char) : Prop := ∀ c ∈ chars.getLast?, c = '\n'

theorem IsEnded.of_append {front back : List Char} (ended : IsEnded (front ++ back)) :
    IsEnded back := by
  intro c last
  refine ended c ?_
  rw [List.getLast?_append, last]
  rfl

theorem IsEnded.of_cons {c : Char} (ended : IsEnded (c :: chars)) : IsEnded chars :=
  @IsEnded.of_append [c] chars ended

variable {front : List Char}

/-- A marker does not go on into an annotation on another line. -/
theorem Marker.exists_of_append {marker more : List Char} (marked : Marker marker first second)
    (ended : IsEnded front) (nonempty : front ≠ [])
    (same : front ++ '[' :: rest = marker ++ more) :
    ∃ later, front = marker ++ later ∧ more = later ++ '[' :: rest := by
  obtain ⟨inside, rfl, single⟩ := marked.exists_inside
  rcases List.append_eq_append_iff.mp same with ⟨beyond, whole, behind⟩ | ⟨later, whole, behind⟩
  · obtain ⟨c, front, rfl⟩ := List.exists_cons_of_ne_nil nonempty
    cases beyond with
    | nil =>
        rw [List.append_nil] at whole
        have last := ended ']' (by rw [← whole, ← List.cons_append, List.getLast?_concat]; rfl)
        exact absurd last (by decide)
    | cons d beyond =>
        obtain ⟨rfl, -⟩ := List.cons.inj behind
        have member : '[' ∈ inside ++ [']'] := by
          rw [(List.cons.inj whole).2]
          simp
        simp [single] at member
  · exact ⟨later, whole, behind⟩

/-- Nothing but blanks is passed over for a value that is not there. -/
theorem readValue_eq_nil_iff : (readValue chars).1 = [] ↔ ∀ c ∈ chars, Text.isBlank c = true := by
  rw [← List.dropWhile_eq_nil_iff]
  change (chars.dropWhile Text.isBlank).takeWhile (· != '\n') = [] ↔ _
  cases same : chars.dropWhile Text.isBlank with
  | nil => simp
  | cons c more =>
      have unblank := Chars.head?_dropWhile Text.isBlank chars c (by rw [same]; rfl)
      have other : c ≠ '\n' := by
        rintro rfl
        exact absurd unblank (by decide)
      simp [other]

/-- A value is looked for behind blanks. -/
theorem readValue_append_of_blank (blank : ∀ c ∈ front, Text.isBlank c = true)
    (chars : List Char) : readValue (front ++ chars) = readValue chars := by
  rw [readValue, readValue, Chars.trimLeft, List.dropWhile_append_of_pos blank, Chars.trimLeft]

/-- A value in a text whose last line has ended ends there. -/
theorem readValue_append (ended : IsEnded front) (valued : (readValue front).1 ≠ [])
    (back : List Char) :
    readValue (front ++ back) = ((readValue front).1, (readValue front).2 ++ back) := by
  have left : Chars.trimLeft front ≠ [] := by
    intro none
    apply valued
    rw [readValue, none]
    rfl
  have trimmed : Chars.trimLeft (front ++ back) = Chars.trimLeft front ++ back := by
    rw [Chars.trimLeft, List.dropWhile_append, if_neg]
    · rfl
    · rwa [List.isEmpty_iff]
  have last : (Chars.trimLeft front).getLast? = some '\n' := by
    have kept : IsEnded (Chars.trimLeft front) := by
      apply @IsEnded.of_append (front.takeWhile Text.isBlank)
      rwa [Chars.trimLeft, List.takeWhile_append_dropWhile]
    have some := List.getLast?_eq_some_getLast left
    rw [some, kept _ some]
  rw [readValue, trimmed, Chars.takeWhile_append_of_getLast? last (by decide),
    Chars.dropWhile_append_of_getLast? last (by decide), readValue]

/-- In front of an annotation on another line nothing else begins. -/
theorem entryAt?_append_of_none (ended : IsEnded front) (nonempty : front ≠ [])
    (missed : entryAt? front = none) (rest : List Char) :
    entryAt? (front ++ '[' :: rest) = none := by
  rw [Option.eq_none_iff_forall_ne_some]
  rintro ⟨entry, after⟩ read
  obtain ⟨marker, more, same, marked, -⟩ := entryAt?_eq_some_iff.mp read
  obtain ⟨later, rfl, -⟩ := marked.exists_of_append ended nonempty same
  have found : entryAt? (marker ++ later) =
      some (⟨entry.first, entry.second, (readValue later).1⟩, (readValue later).2) :=
    entryAt?_eq_some_iff.mpr ⟨marker, later, rfl, marked, rfl⟩
  rw [missed] at found
  cases found

/-- An annotation with a value is read apart from one on another line. -/
theorem entryAt?_append_of_some (ended : IsEnded front)
    (read : entryAt? front = some (entry, after)) (valued : entry.value ≠ [])
    (back : List Char) :
    entryAt? (front ++ back) = some (entry, after ++ back) := by
  obtain ⟨marker, more, rfl, marked, value⟩ := entryAt?_eq_some_iff.mp read
  refine entryAt?_eq_some_iff.mpr ⟨marker, more ++ back, List.append_assoc _ _ _, marked, ?_⟩
  have kept : (readValue more).1 ≠ [] := by rwa [value]
  rw [readValue_append ended.of_append kept, value]

/-- An annotation without a value takes the next line for it. -/
theorem entryAt?_append_of_empty (read : entryAt? front = some (entry, after))
    (empty : entry.value = []) (back : List Char) :
    entryAt? (front ++ back) =
      some ({ entry with value := (readValue back).1 }, (readValue back).2) := by
  obtain ⟨marker, more, rfl, marked, value⟩ := entryAt?_eq_some_iff.mp read
  refine entryAt?_eq_some_iff.mpr ⟨marker, more ++ back, List.append_assoc _ _ _, marked, ?_⟩
  have blank : ∀ c ∈ more, Text.isBlank c = true :=
    readValue_eq_nil_iff.mp (by rw [value, empty])
  rw [readValue_append_of_blank blank]

/-- Where all annotations have values, an annotation on another line is read apart from them. -/
theorem entriesFrom_append (ended : IsEnded front)
    (valued : ∀ entry ∈ entriesFrom 0 front, entry.value ≠ []) (rest : List Char) :
    entriesFrom 0 (front ++ '[' :: rest) = entriesFrom 0 front ++ entriesFrom 0 ('[' :: rest) ∧
      withoutFrom 0 (front ++ '[' :: rest) =
        withoutFrom 0 front ++ withoutFrom 0 ('[' :: rest) := by
  induction front using induction_on_entries with
  | nil => exact ⟨rfl, rfl⟩
  | none c front missed ih =>
      have more := entryAt?_append_of_none ended (List.cons_ne_nil c front) missed rest
      rw [(entriesFrom_of_none missed).1] at valued
      obtain ⟨entries, without⟩ := ih ended.of_cons valued
      rw [List.cons_append] at more ⊢
      rw [(entriesFrom_of_none more).1, (entriesFrom_of_none more).2, (entriesFrom_of_none missed).1,
        (entriesFrom_of_none missed).2, entries, without, List.cons_append]
      exact ⟨rfl, rfl⟩
  | some front entry after read ih =>
      rw [(entriesFrom_of_some read).1] at valued
      have more := entryAt?_append_of_some ended read (valued entry List.mem_cons_self)
        ('[' :: rest)
      obtain ⟨taken, -, rfl, -⟩ := exists_taken read
      obtain ⟨entries, without⟩ := ih ended.of_append
        fun entry member => valued entry (List.mem_cons_of_mem _ member)
      rw [(entriesFrom_of_some more).1, (entriesFrom_of_some more).2, (entriesFrom_of_some read).1,
        (entriesFrom_of_some read).2, entries, without, List.cons_append]
      exact ⟨rfl, rfl⟩

/-- Where an annotation is without a value it is the last one, and takes the next line for it. -/
theorem entriesFrom_append_of_empty (ended : IsEnded front) (member : entry ∈ entriesFrom 0 front)
    (empty : entry.value = []) (rest : List Char) :
    ∃ earlier, entriesFrom 0 front = earlier ++ [entry] ∧
      entriesFrom 0 (front ++ '[' :: rest) = earlier ++
        { entry with value := (readValue ('[' :: rest)).1 } ::
          entriesFrom 0 (readValue ('[' :: rest)).2 := by
  induction front using induction_on_entries with
  | nil => cases member
  | none c front missed ih =>
      have more := entryAt?_append_of_none ended (List.cons_ne_nil c front) missed rest
      rw [(entriesFrom_of_none missed).1] at member ⊢
      rw [List.cons_append] at more ⊢
      rw [(entriesFrom_of_none more).1]
      exact ih ended.of_cons member
  | some front first after read ih =>
      rw [(entriesFrom_of_some read).1] at member ⊢
      by_cases valued : first.value = []
      · have nothing : after = [] := by
          obtain ⟨marker, more, rfl, -, value⟩ := entryAt?_eq_some_iff.mp read
          have blank := readValue_eq_nil_iff.mp (show (readValue more).1 = [] by rw [value, valued])
          have whole := readValue_append_of_blank blank []
          rw [List.append_nil, value] at whole
          exact (Prod.mk.inj whole).2
        subst nothing
        obtain rfl := List.mem_singleton.mp member
        refine ⟨[], rfl, ?_⟩
        rw [(entriesFrom_of_some (entryAt?_append_of_empty read valued ('[' :: rest))).1,
          List.nil_append]
      · have more := entryAt?_append_of_some ended read valued ('[' :: rest)
        have later : entry ∈ entriesFrom 0 after := by
          rcases List.mem_cons.mp member with rfl | later
          · exact absurd empty valued
          · exact later
        obtain ⟨taken, -, rfl, -⟩ := exists_taken read
        obtain ⟨earlier, found, taken⟩ := ih ended.of_append later
        refine ⟨first :: earlier, by rw [found, List.cons_append], ?_⟩
        rw [(entriesFrom_of_some more).1, taken, List.cons_append]

end Lock

end PlainScript
