/-
Annotations as they are written: one to a line, with the words of the type in letters of either case
and a space or an underscore between them. What is written so under a text is read back and taken out
again.
-/

import PlainScript.Proofs.Instruction.Entry
import PlainScript.Proofs.TestCase.Name

namespace PlainScript

namespace Chars

/-- Blanks at the end make no difference to what is trimmed. -/
theorem trim_append_of_blank {front back : List Char}
    (blank : ∀ c ∈ back, Text.isBlank c = true) : trim (front ++ back) = trim front := by
  rw [trim, trim, trimLeft, trimLeft, List.dropWhile_append]
  split
  · rename_i nothing
    rw [List.isEmpty_iff.mp nothing, List.dropWhile_eq_nil_iff.mpr blank]
  · rw [trimRightWhere, List.reverse_append, List.dropWhile_append_of_pos, trimRightWhere]
    intro c member
    exact blank c (List.mem_reverse.mp member)

/-- Trimming leaves nothing of blanks, and something of every other text. -/
theorem trim_eq_nil_iff {chars : List Char} :
    trim chars = [] ↔ ∀ c ∈ chars, Text.isBlank c = true := by
  constructor
  · intro nothing c member
    by_contra unblank
    have kept := mem_trim member (by simpa using unblank)
    rw [nothing] at kept
    cases kept
  · intro blank
    exact @trim_append_of_blank [] chars blank

/-- Texts that each begin a new line begin one together. -/
theorem head?_flatMap_lineFeed {α : Type} (items : List α) (line : α → List Char) :
    ∀ c ∈ (items.flatMap fun item => '\n' :: line item).head?, c = '\n' := by
  cases items with
  | nil => simp
  | cons first items =>
      rintro c ⟨rfl⟩
      rfl

end Chars

namespace Text

/-- Joined lines are the first of them and each other one behind a line feed. -/
theorem toList_intercalate_lines (first : String) (lines : List String) :
    ("\n".intercalate (first :: lines)).toList =
      first.toList ++ lines.flatMap fun line => '\n' :: line.toList := by
  rw [String.toList_intercalate]
  induction lines generalizing first with
  | nil => simp
  | cons second lines ih =>
      have later := ih second
      simp only [List.map_cons] at later ⊢
      rw [List.intercalate_cons_cons, later]
      simp

theorem trim_eq_empty_iff {text : String} :
    trim text = "" ↔ ∀ c ∈ text.toList, isBlank c = true := by
  rw [← Chars.trim_eq_nil_iff, trim, ← String.toList_inj, String.toList_ofList, String.toList_empty]

end Text

namespace LockType

/-- A space between words is as good as an underscore. -/
def underscored (c : Char) : Char := if c = ' ' then '_' else c

/-- The words of the type, in letters of either case and with a space or an underscore between
them. -/
def IsWritten (type : LockType) (written : List Char) : Prop :=
  (written.map fun c => (underscored c).toUpper) = type.name.toList

instance (type : LockType) (written : List Char) : Decidable (type.IsWritten written) :=
  inferInstanceAs (Decidable (_ = _))

/-- The name of a type begins and ends with capitals and has one underscore at most. -/
theorem name_shape (type : LockType) :
    (∀ c ∈ type.name.toList, c.isUpper = true ∨ c = '_') ∧ type.name.toList.count '_' ≤ 1 ∧
      type.name.toList.head? ≠ some '_' ∧ type.name.toList.getLast? ≠ some '_' ∧
      type.name.toList ≠ [] := by
  cases type <;> simp [name]

/-- A character whose upper case is a capital or an underscore is a word character of one
alphabet. -/
theorem isWord_of_toUpper {c : Char} (upper : c.toUpper.isUpper = true ∨ c.toUpper = '_') :
    c.toNat < 128 ∧ Text.isWord c = true := by
  have ascii : c.toNat < 128 := by
    by_contra large
    have same : c.toUpper = c := by
      delta Char.toUpper
      rw [dif_neg]
      rintro ⟨-, small⟩
      have last : 'z'.val.toNat = 122 := rfl
      have code : c.toNat = c.val.toNat := rfl
      have bound := UInt32.le_iff_toNat_le.mp small
      omega
    rw [same] at upper
    rcases upper with capital | rfl
    · delta Char.isUpper at capital
      simp only [decide_eq_true_eq, UInt32.le_iff_toNat_le] at capital
      have last : 'Z'.val.toNat = 90 := rfl
      have code : c.toNat = c.val.toNat := rfl
      omega
    · exact large (by decide)
  have all : ∀ code < 128,
      (Char.ofNat code).toUpper.isUpper = true ∨ (Char.ofNat code).toUpper = '_' →
        Text.isWord (Char.ofNat code) = true := by
    decide
  exact ⟨ascii, Chars.forall_ascii
    (P := fun c => c.toUpper.isUpper = true ∨ c.toUpper = '_' → Text.isWord c = true) all ascii upper⟩

variable {type : LockType} {written : List Char}

/-- A type is written with word characters of one alphabet and spaces. -/
theorem IsWritten.isWord_underscored (spelled : type.IsWritten written) {c : Char}
    (member : c ∈ written) : (underscored c).toNat < 128 ∧ Text.isWord (underscored c) = true := by
  have inName : (underscored c).toUpper ∈ type.name.toList := by
    rw [← spelled]
    exact List.mem_map_of_mem member
  exact isWord_of_toUpper (type.name_shape.1 _ inName)

/-- Whatever the letters, the upper case is the name and the lower case is that of the name. -/
theorem IsWritten.upper_and_lower (spelled : type.IsWritten written) :
    Text.upper (.ofList (written.map underscored)) = type.name ∧
      Text.lower (.ofList (written.map underscored)) = Text.lower type.name := by
  have ascii : ∀ c ∈ written.map underscored, c.toNat < 128 := by
    intro d member
    obtain ⟨c, inside, rfl⟩ := List.mem_map.mp member
    exact (spelled.isWord_underscored inside).1
  have same : type.name.toList = (written.map underscored).map Char.toUpper := by
    rw [List.map_map]
    exact spelled.symm
  have all : ∀ code < 128, (Char.ofNat code).toUpper.toNat < 128 ∧
      (Char.ofNat code).toUpper.toLower = (Char.ofNat code).toLower := by
    decide
  have cases : ∀ c ∈ written.map underscored,
      c.toUpper.toNat < 128 ∧ c.toUpper.toLower = c.toLower := fun c member =>
    Chars.forall_ascii (P := fun c => c.toUpper.toNat < 128 ∧ c.toUpper.toLower = c.toLower) all
      (ascii c member)
  have capital : ∀ c ∈ (written.map underscored).map Char.toUpper, c.toNat < 128 := by
    intro d member
    obtain ⟨c, inside, rfl⟩ := List.mem_map.mp member
    exact (cases c inside).1
  clear spelled
  generalize written.map underscored = spelt at *
  constructor
  · rw [Text.upper, String.toList_ofList, Chars.upper_of_ascii ascii, ← same, String.ofList_toList]
  · rw [Text.lower, Text.lower, String.toList_ofList, same, Chars.lower, Chars.lower,
      Chars.lowerFrom_of_ascii ascii, Chars.lowerFrom_of_ascii capital, List.map_map]
    congr 1
    apply List.map_congr_left
    intro c member
    exact (cases c member).2.symm

/-- A written type is one word, or two words with a space between them. -/
theorem IsWritten.exists_words (spelled : type.IsWritten written) :
    Lock.IsWord written ∧ written.map underscored = written ∨
      ∃ first second, written = first ++ ' ' :: second ∧ Lock.IsWord first ∧ Lock.IsWord second ∧
        written.map underscored = first ++ '_' :: second := by
  have kept : ∀ chars : List Char, ' ' ∉ chars → chars.map underscored = chars := by
    intro chars spaceless
    rw [List.map_congr_left (g := id), List.map_id]
    intro c member
    exact if_neg fun same : c = ' ' => spaceless (same ▸ member)
  have isWord : ∀ c ∈ written, c ≠ ' ' → Text.isWord c = true := by
    intro c member other
    have word := (spelled.isWord_underscored member).2
    rwa [underscored, if_neg other] at word
  obtain ⟨-, single, head, last, named⟩ := type.name_shape
  rw [← show (written.map fun c => (underscored c).toUpper) = type.name.toList from spelled]
    at single head last named
  by_cases space : ' ' ∈ written
  · obtain ⟨first, second, rfl, before⟩ := List.eq_append_cons_of_mem space
    have after : ' ' ∉ second := by
      intro again
      have counted := (List.count_le_count_map (l := first ++ ' ' :: second)
        (f := fun c => (underscored c).toUpper) (x := ' ')).trans single
      have one := List.one_le_count_iff.mpr again
      rw [List.count_append, List.count_cons_self] at counted
      omega
    refine .inr ⟨first, second, rfl, ⟨?_, fun c member => ?_⟩, ⟨?_, fun c member => ?_⟩, ?_⟩
    · rintro rfl
      exact head rfl
    · exact isWord c (by simp [member]) fun space => before (space ▸ member)
    · rintro rfl
      exact last (by simp [underscored])
    · exact isWord c (by simp [member]) fun space => after (space ▸ member)
    · rw [List.map_append, List.map_cons, kept first before, kept second after]
      rfl
  · refine .inl ⟨⟨?_, fun c member => isWord c member fun same => space (same ▸ member)⟩,
      kept written space⟩
    rintro rfl
    exact named rfl

end LockType

namespace Lock

variable {type : LockType} {written : List Char}

/-- An annotation whose type is written begins with its words, which name the type. -/
theorem exists_marker (spelled : type.IsWritten written) :
    ∃ first second, Marker (opening ++ (' ' :: (written ++ [']']))) first second ∧
      ∀ value, (Entry.mk first second value).lock? =
        some ⟨type, Text.lower type.name, .ofList (Chars.trim value), true⟩ := by
  have apart : IsGap [' '] := ⟨List.cons_ne_nil _ _, by decide⟩
  have known : ∀ entry : Entry, entry.typeName = .ofList (written.map LockType.underscored) →
      entry.lock? = some ⟨type, Text.lower type.name, .ofList (Chars.trim entry.value), true⟩ := by
    intro entry named
    have found : LockType.ofName? type.name = some type := by cases type <;> decide
    rw [Entry.lock?, Entry.type?, named, spelled.upper_and_lower.1, spelled.upper_and_lower.2, found,
      Option.map_some]
  rcases spelled.exists_words with ⟨word, same⟩ | ⟨first, second, whole, word, other, same⟩
  · exact ⟨written, none, .single apart word, fun value => known _ (by rw [same]; rfl)⟩
  · refine ⟨first, some second, ?_, fun value => known _ (by rw [same]; rfl)⟩
    have marked := Marker.double apart word apart other
    rw [whole, List.append_assoc]
    exact marked

end Lock

/-- An annotation as it is written on a line of its own. -/
structure Annotation where
  type : LockType
  written : String
  value : String
  spelled : type.IsWritten written.toList
  value_ne : value ≠ ""
  value_oneLine : '\n' ∉ value.toList
  value_trimmed : Text.trim value = value

namespace Annotation

def line (note : Annotation) : String :=
  "[LOCK " ++ note.written ++ "] " ++ note.value

/-- The lock that the annotation stands for. -/
def lock (note : Annotation) : Lock :=
  ⟨note.type, Text.lower note.type.name, note.value, true⟩

/-- A text with annotations under it, one to a line. -/
def under (base : String) (annotations : List Annotation) : String :=
  "\n".intercalate (base :: annotations.map line)

variable (note : Annotation) (annotations : List Annotation)

/-- The lines of annotations, each on a new line. -/
def newLines : List Char := annotations.flatMap fun note => '\n' :: note.line.toList

theorem toList_line : note.line.toList =
    Lock.opening ++ (' ' :: (note.written.toList ++ [']'])) ++
      ' ' :: note.value.toList := by
  have front : "[LOCK ".toList = Lock.opening ++ [' '] := by simp [Lock.opening]
  have back : "] ".toList = [']', ' '] := by simp
  simp only [line, String.toList_append, front, back, List.append_assoc, List.cons_append,
    List.nil_append]

theorem toList_under (base : String) :
    (under base annotations).toList = base.toList ++ newLines annotations := by
  rw [under, Text.toList_intercalate_lines, List.flatMap_map, newLines]

/-- The line of an annotation is read up to its end. -/
theorem exists_entryAt?_line {rest : List Char} (ended : ∀ c ∈ rest.head?, c = '\n') :
    ∃ entry, Lock.entryAt? (note.line.toList ++ rest) = some (entry, rest) ∧
      entry.lock? = some note.lock ∧ entry.value ≠ [] := by
  obtain ⟨first, second, marked, known⟩ := Lock.exists_marker note.spelled
  have trimmed : Chars.trim note.value.toList = note.value.toList := by
    rw [← String.toList_ofList (l := Chars.trim _)]
    exact congrArg String.toList note.value_trimmed
  have nonempty : note.value.toList ≠ [] := by
    simpa using note.value_ne
  have unblank : ∀ c ∈ (note.value.toList ++ rest).head?, Text.isBlank c = false := by
    rw [List.head?_append_of_ne_nil _ nonempty, ← trimmed]
    exact Chars.isBlank_head?_trim _
  have oneLine : ∀ c ∈ note.value.toList, (c != '\n') = true := by
    intro c member
    rw [bne_iff_ne]
    rintro rfl
    exact note.value_oneLine member
  have stops : ∀ c ∈ rest.head?, (c != '\n') = false := by
    intro c head
    rw [ended c head]
    rfl
  have value : Lock.readValue (' ' :: (note.value.toList ++ rest)) =
      (note.value.toList, rest) := by
    have left : Chars.trimLeft (' ' :: (note.value.toList ++ rest)) =
        note.value.toList ++ rest :=
      @Chars.dropWhile_append_of_head? _ [' '] _ (by decide) unblank
    rw [Lock.readValue, left, Chars.takeWhile_append_of_head? oneLine stops,
      Chars.dropWhile_append_of_head? oneLine stops]
  refine ⟨⟨first, second, note.value.toList⟩, ?_, ?_, nonempty⟩
  · refine Lock.entryAt?_eq_some_iff.mpr ⟨_, _, ?_, marked, value⟩
    rw [toList_line, List.append_assoc, List.cons_append]
  · rw [known, trimmed, String.ofList_toList]
    rfl

/-- Annotations on lines of their own are read back, and only the ends of lines are left of them. -/
theorem read_newLines :
    (Lock.entriesFrom 0 (newLines annotations)).filterMap Lock.Entry.lock? =
        annotations.map lock ∧
      Lock.withoutFrom 0 (newLines annotations) = List.replicate annotations.length '\n' := by
  induction annotations with
  | nil => exact ⟨rfl, rfl⟩
  | cons first annotations ih =>
      have ended : ∀ c ∈ (newLines annotations).head?, c = '\n' :=
        Chars.head?_flatMap_lineFeed annotations _
      obtain ⟨entry, read, known, -⟩ := first.exists_entryAt?_line ended
      have feed : Lock.entryAt? ('\n' :: (first.line.toList ++ newLines annotations)) = none :=
        Lock.entryAt?_cons_of_ne (by decide)
      have lines : newLines (first :: annotations) =
          '\n' :: (first.line.toList ++ newLines annotations) := rfl
      rw [lines, (Lock.entriesFrom_of_none feed).1, (Lock.entriesFrom_of_none feed).2,
        (Lock.entriesFrom_of_some read).1, (Lock.entriesFrom_of_some read).2,
        List.filterMap_cons_some known, ih.1, ih.2, List.map_cons, List.length_cons,
        List.replicate_succ]
      exact ⟨rfl, rfl⟩

/-- A text without annotations is kept as it is in front of annotations on new lines. -/
theorem entriesFrom_append_newLines {base : List Char} (absent : ¬ Lock.opening <:+: base) :
    Lock.entriesFrom 0 (base ++ newLines annotations) = Lock.entriesFrom 0 (newLines annotations) ∧
      Lock.withoutFrom 0 (base ++ newLines annotations) =
        base ++ Lock.withoutFrom 0 (newLines annotations) := by
  cases annotations with
  | nil =>
      obtain ⟨nothing, all⟩ := Lock.entriesFrom_withoutFrom_of_absent absent
      rw [newLines, List.flatMap_nil, List.append_nil, nothing, all]
      simp [Lock.entriesFrom, Lock.withoutFrom]
  | cons first annotations =>
      have ended : Lock.IsEnded (base ++ ['\n']) := by
        intro c last
        rw [List.getLast?_concat] at last
        exact (Option.some.inj last).symm
      have guarded : Chars.guardsBefore Lock.opening ['\n'] = true := by
        rw [Lock.opening_eq]
        decide
      have still : ¬ Lock.opening <:+: base ++ ['\n'] := by
        rwa [Chars.infix_append_guard_iff guarded]
      obtain ⟨nothing, all⟩ := Lock.entriesFrom_withoutFrom_of_absent still
      obtain ⟨rest, lines⟩ : ∃ rest, newLines (first :: annotations) = '\n' :: '[' :: rest := by
        have line : first.line.toList = '[' :: first.line.toList.tail := by
          rw [toList_line, Lock.opening_eq]
          rfl
        exact ⟨_, by rw [newLines, List.flatMap_cons, line, List.cons_append, List.cons_append]⟩
      have feed : Lock.entryAt? ('\n' :: '[' :: rest) = none :=
        Lock.entryAt?_cons_of_ne (by decide)
      have apart := Lock.entriesFrom_append ended (by simp [nothing]) rest
      rw [nothing, all, List.nil_append, List.append_assoc, List.append_assoc] at apart
      rw [lines, (Lock.entriesFrom_of_none feed).1, (Lock.entriesFrom_of_none feed).2]
      exact apart

/-- Annotations under a text that has none are read back in their order, whatever their values hold,
and taking them out leaves the text, trimmed. -/
theorem ofText_and_strip_under (base : String) (unlocked : Text.contains base "[LOCK" = false) :
    Lock.ofText (under base annotations) = annotations.map lock ∧
      Lock.strip (under base annotations) = Text.trim base := by
  have absent : ¬ Lock.opening <:+: base.toList :=
    (Text.contains_eq_false_iff base "[LOCK").mp unlocked
  obtain ⟨entries, without⟩ := entriesFrom_append_newLines annotations absent
  obtain ⟨locks, feeds⟩ := read_newLines annotations
  constructor
  · rw [Lock.ofText, Lock.entries, toList_under, entries, locks]
  · rw [Lock.strip, Lock.stripChars, toList_under, without, feeds, Text.trim,
      Chars.trim_append_of_blank]
    intro c member
    rw [List.eq_of_mem_replicate member]
    decide

/-- Annotations whose values imitate annotations. -/
def imitations : List Annotation := [
  { type := .url, written := "uRL", value := "https://app.test/[LOCK VALUE] x]",
    spelled := by decide, value_ne := by decide, value_oneLine := by decide,
    value_trimmed := by decide },
  { type := .assertionText, written := "Assertion text", value := "] [LOCK",
    spelled := by decide, value_ne := by decide, value_oneLine := by decide,
    value_trimmed := by decide }]

theorem ofText_and_strip_imitations :
    Text.contains " log in [" "[LOCK" = false ∧
      Lock.ofText (under " log in [" imitations) =
        [⟨.url, "url", "https://app.test/[LOCK VALUE] x]", true⟩,
          ⟨.assertionText, "assertion_text", "] [LOCK", true⟩] ∧
      Lock.strip (under " log in [" imitations) = "log in [" := by
  have unlocked : Text.contains " log in [" "[LOCK" = false := by decide +kernel
  obtain ⟨locks, stripped⟩ := ofText_and_strip_under imitations " log in [" unlocked
  refine ⟨unlocked, locks.trans ?_, stripped.trans ?_⟩ <;> decide +kernel

end Annotation

end PlainScript
