/-
Annotations without a value on their line. The blanks that a value is looked for behind go on over
the ends of lines, so that such an annotation takes the next line that is not blank; only where no
such line follows is it reported.
-/

import PlainScript.Proofs.Generation.Contract
import PlainScript.Proofs.Instruction.Annotation

namespace PlainScript

/-- The lock has no value, or one that is still to be filled in. -/
def Lock.IsUnfilled (lock : Lock) : Prop :=
  lock.value = "" ∨ Text.contains lock.value "<" = true ∨ Text.contains lock.value "TODO" = true

namespace Generator

variable {generator : Generator} {text baseUrl : String} {options : RenderOptions}
  {generation : Generation} {type : LockType} {key : String}

/-- Checking code asks for no values of locks. -/
theorem lockGap_notMem_verdict (instruction code : String) (values : List (String × String))
    (locks : List Lock) (context : List String) :
    .gap (.lock type key) ∉ (Strict.verdict instruction code values locks context).problems := by
  have inCode : .lock type key ∉ Strict.gaps code := by
    rw [Strict.gaps, List.mem_append, List.mem_map]
    rintro (⟨mark, -, absurd⟩ | found)
    · cases absurd
    · split_ifs at found <;> simp at found
  have gaps : .lock type key ∉ (Strict.verdict instruction code values locks context).gaps := by
    rw [Strict.verdict]
    split_ifs
    · exact inCode
    · rw [Verdict.merge, Strict.checkLocks, List.append_nil]
      exact inCode
  simp [Verdict.problems, gaps]

/-- In strict mode the locks are reported that are unfilled. -/
theorem lockGap_mem_problems_iff (strict : generator.isStrict = true)
    (done : generator.generate text baseUrl options = .ok generation) :
    .gap (.lock type key) ∈ generation.problems ↔
      ∃ lock ∈ Lock.ofText (generator.substitute text),
        lock.type = type ∧ lock.key = key ∧ lock.IsUnfilled := by
  have missing : .gap (.lock type key) ∉ generator.missingData (generator.substitute text) := by
    rw [missingData]
    split <;> simp
  have early : .gap (.lock type key) ∈ generator.earlyProblems (generator.substitute text)
      (Lock.ofText (generator.substitute text)) ↔
        ∃ lock ∈ Lock.ofText (generator.substitute text),
          lock.type = type ∧ lock.key = key ∧ lock.IsUnfilled := by
    rw [earlyProblems, List.mem_append, or_iff_right missing, if_pos strict]
    simp only [Strict.incomplete, Verdict.problems, List.map_map, List.map_nil, List.append_nil,
      List.mem_map, List.mem_filter, Bool.and_eq_true, Bool.or_eq_true, String.isEmpty_iff,
      Function.comp_apply, Problem.gap.injEq, Gap.lock.injEq, or_assoc]
    constructor
    · rintro ⟨lock, ⟨member, -, unfilled⟩, same, spelled⟩
      exact ⟨lock, member, same, spelled, unfilled⟩
    · rintro ⟨lock, member, same, spelled, unfilled⟩
      exact ⟨lock, ⟨member, Lock.isLocked_of_mem_ofText member, unfilled⟩, same, spelled⟩
  rw [← early]
  exact mem_problems_iff_mem_earlyProblems strict (fun _ absurd => by cases absurd)
    (lockGap_notMem_verdict (generator.substitute text)) done

/-- In strict mode an instruction that lacks something has a generation, whatever the tables and the
catalog are. -/
theorem exists_generate_of_lacksInput (strict : generator.isStrict = true)
    (lacks : generator.LacksInput (generator.substitute text)) (baseUrl : String)
    (options : RenderOptions) :
    ∃ generation, generator.generate text baseUrl options = .ok generation ∧
      generation.case? = none := by
  have found := (earlyProblems_ne_nil_iff strict _).mpr lacks
  rw [generate]
  dsimp only
  rw [if_pos (by simpa [strict] using found)]
  exact ⟨_, rfl, rfl⟩

end Generator

/-- An annotation with nothing but blanks on the rest of its line, and the lines around it. -/
structure EmptyLock where
  before : List String
  type : LockType
  written : String
  blanks : String
  after : List String
  spelled : type.IsWritten written.toList
  isBlank : ∀ c ∈ blanks.toList, Text.isBlank c = true
  blanks_oneLine : '\n' ∉ blanks.toList
  after_oneLine : ∀ line ∈ after, '\n' ∉ line.toList

namespace EmptyLock

variable (place : EmptyLock)

def line : String := "[LOCK " ++ place.written ++ "]" ++ place.blanks

def text : String := "\n".intercalate (place.before ++ place.line :: place.after)

/-- The lines in front with their ends. -/
def front : String := .ofList (place.before.flatMap fun line => line.toList ++ ['\n'])

/-- The end of the line and the lines behind it. -/
def rest : String := "\n".intercalate ("" :: place.after)

/-- The first line behind it that is not blank, trimmed. -/
def nextLine : String := ((place.after.map Text.trim).find? (· != "")).getD ""

/-- The lock of the annotation with a value. -/
def lock (value : String) : Lock := ⟨place.type, Text.lower place.type.name, value, true⟩

/-- No annotation in front is in want of a value. -/
def IsFree : Prop := ∀ entry ∈ Lock.entries place.front, entry.value ≠ []

/-- Only blank lines stand behind it. -/
def IsLast : Prop := ∀ line ∈ place.after, Text.trim line = ""

/-! The text around the annotation -/

theorem toList_line : place.line.toList =
    Lock.opening ++ (' ' :: (place.written.toList ++ [']'])) ++ place.blanks.toList := by
  have begins : "[LOCK ".toList = Lock.opening ++ [' '] := by simp [Lock.opening]
  simp only [line, String.toList_append, begins, List.append_assoc, List.cons_append,
    List.nil_append]
  rfl

theorem toList_rest :
    place.rest.toList = place.after.flatMap fun line => '\n' :: line.toList := by
  rw [rest, Text.toList_intercalate_lines, String.toList_empty, List.nil_append]

theorem toList_text :
    place.text.toList = place.front.toList ++ (place.line.toList ++ place.rest.toList) := by
  rw [text, front, String.toList_ofList, toList_rest, ← Text.toList_intercalate_lines]
  induction place.before with
  | nil => rfl
  | cons first before ih =>
      rw [List.cons_append, Text.toList_intercalate_lines, List.flatMap_cons, List.append_assoc,
        ← ih]
      cases before with
      | nil =>
          rw [List.nil_append, Text.toList_intercalate_lines]
          simp
      | cons second before =>
          rw [List.cons_append, Text.toList_intercalate_lines]
          simp

theorem isEnded_front : Lock.IsEnded place.front.toList := by
  rw [front, String.toList_ofList]
  induction place.before with
  | nil => simp [Lock.IsEnded]
  | cons first before ih =>
      intro c last
      rw [List.flatMap_cons, List.getLast?_append, List.getLast?_concat] at last
      cases later : (before.flatMap fun line => line.toList ++ ['\n']).getLast? with
      | none =>
          rw [later] at last
          exact (Option.some.inj last).symm
      | some d =>
          rw [later] at last
          exact ih c (later.trans last)

/-! The line that is taken -/

/-- The value behind blanks on a line is the first line that is not blank. -/
theorem trim_readValue_lines {blanks : List Char} (blank : ∀ c ∈ blanks, Text.isBlank c = true)
    {lines : List String} (oneLine : ∀ line ∈ lines, '\n' ∉ line.toList) :
    Chars.trim (Lock.readValue (blanks ++ lines.flatMap fun line => '\n' :: line.toList)).1 =
      (((lines.map Text.trim).find? (· != "")).getD "").toList := by
  induction lines generalizing blanks with
  | nil =>
      rw [List.flatMap_nil, List.append_nil, Lock.readValue_eq_nil_iff.mpr blank]
      rfl
  | cons first lines ih =>
      rw [List.forall_mem_cons] at oneLine
      have feed : ∀ c ∈ blanks ++ ['\n'], Text.isBlank c = true := by
        intro c member
        rcases List.mem_append.mp member with inside | last
        · exact blank c inside
        · obtain rfl := List.mem_singleton.mp last
          decide
      have whole : blanks ++ (first :: lines).flatMap (fun line => '\n' :: line.toList) =
          (blanks ++ ['\n']) ++ (first.toList ++ lines.flatMap fun line => '\n' :: line.toList) := by
        simp
      rw [whole, Lock.readValue_append_of_blank feed, List.map_cons]
      by_cases empty : Text.trim first = ""
      · rw [List.find?_cons_of_neg (by simp [empty]),
          ih (Text.trim_eq_empty_iff.mp empty) oneLine.2]
      · have stops : ∀ c ∈ (lines.flatMap fun line => '\n' :: line.toList).head?,
            (c != '\n') = false := by
          intro c head
          rw [Chars.head?_flatMap_lineFeed lines _ c head]
          rfl
        have left : Chars.trimLeft first.toList ≠ [] := by
          intro none
          exact empty (Text.trim_eq_empty_iff.mpr (List.dropWhile_eq_nil_iff.mp none))
        have kept : ∀ c ∈ Chars.trimLeft first.toList, (c != '\n') = true := by
          intro c member
          rw [bne_iff_ne]
          rintro rfl
          exact oneLine.1 ((List.dropWhile_suffix _).subset member)
        have trimmed (more : List Char) : Chars.trimLeft (first.toList ++ more) =
            Chars.trimLeft first.toList ++ more := by
          rw [Chars.trimLeft, List.dropWhile_append, if_neg]
          · rfl
          · rwa [List.isEmpty_iff]
        have again : Chars.trimLeft (Chars.trimLeft first.toList) = Chars.trimLeft first.toList :=
          @Chars.dropWhile_append_of_head? _ [] _ (by simp) (Chars.head?_dropWhile _ _)
        rw [List.find?_cons_of_pos (by simp [empty]), Option.getD_some, Lock.readValue, trimmed,
          Chars.takeWhile_append_of_head? kept stops, Text.trim, String.toList_ofList, Chars.trim,
          Chars.trim, again]

theorem nextLine_eq_empty_iff : place.nextLine = "" ↔ place.IsLast := by
  rw [nextLine, IsLast]
  cases found : (place.after.map Text.trim).find? (· != "") with
  | none =>
      rw [List.find?_eq_none] at found
      refine iff_of_true rfl fun line member => ?_
      simpa using found _ (List.mem_map_of_mem member)
  | some taken =>
      have other : taken ≠ "" := by simpa using List.find?_some found
      obtain ⟨line, member, rfl⟩ := List.mem_map.mp (List.mem_of_find?_eq_some found)
      exact iff_of_false other fun last => other (last line member)

/-- Where nothing in front is in want of a value, the annotation has the next line for its value. -/
theorem ofText_of_isFree (free : place.IsFree) :
    ∃ later, Lock.ofText place.text =
      Lock.ofText place.front ++ place.lock place.nextLine :: later := by
  obtain ⟨first, second, marked, known⟩ := Lock.exists_marker place.spelled
  have read : Lock.entryAt? (place.line.toList ++ place.rest.toList) =
      some (⟨first, second, (Lock.readValue (place.blanks.toList ++ place.rest.toList)).1⟩,
        (Lock.readValue (place.blanks.toList ++ place.rest.toList)).2) := by
    refine Lock.entryAt?_eq_some_iff.mpr ⟨_, _, ?_, marked, rfl⟩
    rw [toList_line, List.append_assoc]
  obtain ⟨more, bracket⟩ : ∃ more, place.line.toList ++ place.rest.toList = '[' :: more := by
    rw [toList_line, Lock.opening_eq]
    exact ⟨_, rfl⟩
  refine ⟨(Lock.entriesFrom 0
    (Lock.readValue (place.blanks.toList ++ place.rest.toList)).2).filterMap Lock.Entry.lock?, ?_⟩
  have value : Chars.trim (Lock.readValue (place.blanks.toList ++ place.rest.toList)).1 =
      place.nextLine.toList := by
    rw [toList_rest]
    exact trim_readValue_lines place.isBlank place.after_oneLine
  have entries := (Lock.entriesFrom_append place.isEnded_front free more).1
  rw [← bracket, (Lock.entriesFrom_of_some read).1] at entries
  rw [Lock.ofText, Lock.entries, toList_text, entries, List.filterMap_append,
    List.filterMap_cons_some (known _), value, String.ofList_toList]
  rfl

/-- Where an annotation in front is in want of a value, it is the last of them and has the line of
this one for its value. -/
theorem entries_of_not_isFree (taken : ¬ place.IsFree) :
    ∃ earlier entry, Lock.entries place.front = earlier ++ [entry] ∧ entry.value = [] ∧
      Lock.entries place.text =
        earlier ++ { entry with value := place.line.toList } :: Lock.entries place.rest := by
  rw [IsFree] at taken
  push Not at taken
  obtain ⟨entry, member, empty⟩ := taken
  have spaceless : '\n' ∉ place.written.toList := by
    intro member
    have word := (place.spelled.isWord_underscored member).2
    exact absurd word (by decide)
  have oneLine : ∀ c ∈ place.line.toList, (c != '\n') = true := by
    intro c member
    rw [bne_iff_ne]
    rintro rfl
    rw [toList_line, Lock.opening_eq] at member
    simp [spaceless, place.blanks_oneLine] at member
  have stops : ∀ c ∈ place.rest.toList.head?, (c != '\n') = false := by
    rw [toList_rest]
    intro c head
    rw [Chars.head?_flatMap_lineFeed place.after _ c head]
    rfl
  obtain ⟨more, bracket⟩ : ∃ more, place.line.toList = '[' :: more := by
    rw [toList_line, Lock.opening_eq]
    exact ⟨_, rfl⟩
  have left : Chars.trimLeft (place.line.toList ++ place.rest.toList) =
      place.line.toList ++ place.rest.toList := by
    rw [bracket]
    exact List.dropWhile_cons_of_neg (by decide)
  have value : Lock.readValue (place.line.toList ++ place.rest.toList) =
      (place.line.toList, place.rest.toList) := by
    rw [Lock.readValue, left, Chars.takeWhile_append_of_head? oneLine stops,
      Chars.dropWhile_append_of_head? oneLine stops]
  obtain ⟨earlier, found, entries⟩ := Lock.entriesFrom_append_of_empty place.isEnded_front member
    empty (more ++ place.rest.toList)
  rw [← List.cons_append, ← bracket, value] at entries
  refine ⟨earlier, entry, found, empty, ?_⟩
  rw [Lock.entries, toList_text, entries]
  rfl

/-- The value of a lock stands on one line of the text. -/
theorem exists_line_of_mem_ofText {text : String} {lock : Lock} (member : lock ∈ Lock.ofText text) :
    ∃ line ∈ Chars.splitAt (· == '\n') text.toList, lock.value.toList <:+: line := by
  obtain ⟨entry, listed, made⟩ := List.mem_filterMap.mp member
  obtain ⟨type, -, rfl⟩ := Option.map_eq_some_iff.mp made
  obtain ⟨line, inside, within⟩ := Lock.exists_line_of_mem_entriesFrom listed
  refine ⟨line, inside, ?_⟩
  rw [String.toList_ofList]
  exact (Chars.trim_infix _).trans within

/-! What is reported -/

/-- In strict mode a lock of the type is reported if it is unfilled. Where nothing in front is in
want of a value, the annotation has the next line that is not blank for its value, so that it is
reported if there is no such line; otherwise it is the value of the annotation in front. Every value
stands on one line, but it may be another line than that of its annotation. -/
theorem reported_or_taken {generator : Generator} {text : String}
    (strict : generator.isStrict = true) (given : generator.substitute text = place.text)
    (baseUrl : String) (options : RenderOptions) :
    (∀ generation, generator.generate text baseUrl options = .ok generation →
        (.gap (.lock place.type (Text.lower place.type.name)) ∈ generation.problems ↔
          ∃ lock ∈ Lock.ofText place.text, lock.type = place.type ∧
            lock.key = Text.lower place.type.name ∧ lock.IsUnfilled)) ∧
      (place.IsFree →
        (∃ later, Lock.ofText place.text =
            Lock.ofText place.front ++ place.lock place.nextLine :: later) ∧
          (place.nextLine = "" ↔ place.IsLast) ∧
          (place.IsLast → ∃ generation,
            generator.generate text baseUrl options = .ok generation ∧ generation.case? = none ∧
              .gap (.lock place.type (Text.lower place.type.name)) ∈ generation.problems)) ∧
      (¬ place.IsFree → ∃ earlier entry,
        Lock.entries place.front = earlier ++ [entry] ∧ entry.value = [] ∧
          Lock.entries place.text =
            earlier ++ { entry with value := place.line.toList } :: Lock.entries place.rest) ∧
      ∀ lock ∈ Lock.ofText place.text,
        ∃ line ∈ Chars.splitAt (· == '\n') place.text.toList, lock.value.toList <:+: line := by
  have reported (generation) (done : generator.generate text baseUrl options = .ok generation) :
      .gap (.lock place.type (Text.lower place.type.name)) ∈ generation.problems ↔
        ∃ lock ∈ Lock.ofText place.text, lock.type = place.type ∧
          lock.key = Text.lower place.type.name ∧ lock.IsUnfilled := by
    rw [← given]
    exact Generator.lockGap_mem_problems_iff strict done
  refine ⟨reported, fun free => ⟨place.ofText_of_isFree free, place.nextLine_eq_empty_iff, ?_⟩,
    place.entries_of_not_isFree, fun lock => exists_line_of_mem_ofText⟩
  intro last
  obtain ⟨later, locks⟩ := place.ofText_of_isFree free
  have member : place.lock place.nextLine ∈ Lock.ofText place.text := by
    rw [locks]
    simp
  have unfilled : (place.lock place.nextLine).IsUnfilled :=
    .inl (place.nextLine_eq_empty_iff.mpr last)
  have lacks : generator.LacksInput (generator.substitute text) := by
    rw [given]
    exact .inr ⟨_, member, unfilled⟩
  obtain ⟨generation, done, unresolved⟩ :=
    Generator.exists_generate_of_lacksInput strict lacks baseUrl options
  exact ⟨generation, done, unresolved, (reported generation done).mpr ⟨_, member, rfl, rfl, unfilled⟩⟩

/-- An annotation with blank lines behind it. -/
def beforeBlankLines : EmptyLock where
  before := ["open the profile page", "[LOCK SELECTOR] #menu"]
  type := .assertionText
  written := "ASSERTION text"
  blanks := " "
  after := ["", " "]
  spelled := by decide
  isBlank := by decide
  blanks_oneLine := by decide
  after_oneLine := by decide

theorem reported_beforeBlankLines :
    beforeBlankLines.IsFree ∧ beforeBlankLines.IsLast ∧
      ∃ generation, ({} : Generator).generate beforeBlankLines.text "" {} = .ok generation ∧
        generation.case? = none ∧
        .gap (.lock .assertionText "assertion_text") ∈ generation.problems := by
  have free : beforeBlankLines.IsFree := by
    have entries : Lock.entries beforeBlankLines.front =
        [⟨"SELECTOR".toList, none, "#menu".toList⟩] := by
      decide +kernel
    rw [IsFree, entries]
    decide
  have last : beforeBlankLines.IsLast := by
    rw [IsLast]
    decide +kernel
  have key : Text.lower LockType.assertionText.name = "assertion_text" := by decide +kernel
  obtain ⟨-, reported, -⟩ := @reported_or_taken beforeBlankLines {} _ rfl rfl "" {}
  obtain ⟨-, -, unresolved⟩ := reported free
  rw [← key]
  exact ⟨free, last, unresolved last⟩

/-- An instruction in which a click follows an annotation without a value. -/
def clickBehind : String := "open the profile page\n[LOCK ASSERTION TEXT]\nclick \"Save\""

/-- The annotation takes the instruction on the next line for its value and is not reported, and
what is left of the instruction is resolved. -/
theorem exists_unreported_clickBehind :
    Lock.ofText clickBehind = [⟨.assertionText, "assertion_text", "click \"Save\"", true⟩] ∧
      ∃ generation, ({} : Generator).generate clickBehind "" {} = .ok generation ∧
        generation.case? ≠ none ∧
        .gap (.lock .assertionText "assertion_text") ∉ generation.problems := by
  have locks : Lock.ofText clickBehind =
      [⟨.assertionText, "assertion_text", "click \"Save\"", true⟩] := by
    decide +kernel
  have filled : ∀ lock ∈ Lock.ofText clickBehind, ¬ lock.IsUnfilled := by
    intro lock member
    rw [locks, List.mem_singleton] at member
    rw [member, Lock.IsUnfilled]
    decide +kernel
  obtain ⟨generation, done⟩ := @Generator.exists_generate_usual {}
    Resolver.Tables.areReadable_usual nofun clickBehind ""
  refine ⟨locks, generation, done, fun absent => ?_, fun reported => ?_⟩
  · obtain ⟨-, lacks⟩ := (Generator.ends_of_generate done).keepsPromise.unresolved.mp absent
    rcases lacks with ⟨data, absurd, -⟩ | ⟨lock, member, unfilled⟩
    · cases absurd
    · exact filled lock member unfilled
  · obtain ⟨lock, member, -, -, unfilled⟩ :=
      (Generator.lockGap_mem_problems_iff rfl done).mp reported
    exact filled lock member unfilled

end EmptyLock

end PlainScript
