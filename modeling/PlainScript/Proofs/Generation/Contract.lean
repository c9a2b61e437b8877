/-
What errors of a generation promise: they take the place of the code, one after the other, and no
code of a case can be mistaken for them. An instruction that lacks something is not resolved in
strict mode, and in legacy mode all that can fail is the choice of the dialect.
-/

import PlainScript.Proofs.Generation.Soundness
import PlainScript.Proofs.Render.Unbroken
import PlainScript.Proofs.Resolver.Outline

namespace PlainScript

/-! Pieces in order -/

namespace Chars

/-- The pieces stand in the text one after the other. -/
inductive InOrder : List (List Char) → List Char → Prop
  | nil (text : List Char) : InOrder [] text
  | cons (before piece : List Char) {pieces : List (List Char)} {after : List Char}
      (later : InOrder pieces after) : InOrder (piece :: pieces) (before ++ (piece ++ after))

variable {pieces : List (List Char)} {text : List Char}

theorem InOrder.append_left (inOrder : InOrder pieces text) (front : List Char) :
    InOrder pieces (front ++ text) := by
  cases inOrder with
  | nil => exact .nil _
  | cons before piece later =>
      rw [← List.append_assoc]
      exact .cons (front ++ before) piece later

/-- Joined pieces stand in the joined text in their order. -/
theorem inOrder_intercalate (separator : List Char) (pieces : List (List Char)) :
    InOrder pieces (separator.intercalate pieces) := by
  induction pieces with
  | nil => exact .nil _
  | cons first pieces ih =>
      cases pieces with
      | nil =>
          rw [List.intercalate_singleton]
          simpa using InOrder.cons [] first (.nil [])
      | cons second pieces =>
          rw [List.intercalate_cons_cons, List.append_assoc]
          exact .cons [] first (ih.append_left separator)

/-- Joined pieces begin as the first of them does. -/
theorem head?_intercalate_cons (separator : List Char) {piece : List Char} {c : Char}
    (head : piece.head? = some c) (pieces : List (List Char)) :
    (separator.intercalate (piece :: pieces)).head? = some c := by
  cases pieces with
  | nil => rwa [List.intercalate_singleton]
  | cons second pieces =>
      rw [List.intercalate_cons_cons, List.append_assoc, List.head?_append, head, Option.some_or]

end Chars

/-! Code that is withheld, and code that is not -/

theorem errorMark_prefix_withheld (headline : String) (problems : List Problem) :
    "ERROR: ".toList <+: (withheld headline problems).toList := by
  rw [withheld, String.append_assoc, String.toList_append]
  exact List.prefix_append _ _

/-- The messages stand in the place of the code. -/
theorem inOrder_withheld (headline : String) (problems : List Problem) :
    Chars.InOrder ((problems.map Problem.message).map String.toList)
      (withheld headline problems).toList := by
  rw [withheld, String.toList_append, String.toList_intercalate]
  exact (Chars.inOrder_intercalate _ _).append_left _

/-- No code begins with the mark of errors, whatever its dialect and its case are. -/
theorem Dialect.not_errorMark_prefix_code (dialect : Dialect) (options : RenderOptions)
    (case : TestCase) (timeout : String) :
    ¬ "ERROR: ".toList <+: (dialect.code options case timeout).toList := by
  obtain ⟨line, rest, same, c, listed, head⟩ :=
    exists_prelude_eq_cons dialect options case.heading timeout
  have first : (dialect.code options case timeout).toList.head? = some c := by
    rw [code, lines, same, String.toList_append, String.toList_intercalate, List.head?_append,
      List.cons_append, List.cons_append, List.map_cons, Chars.head?_intercalate_cons _ head,
      Option.some_or]
  rintro ⟨after, whole⟩
  rw [← whole, List.head?_append] at first
  obtain rfl : 'E' = c := Option.some.inj first
  exact absurd listed (by decide)

/-- With tables that can be read and a catalog of texts every instruction is resolved. -/
theorem Resolver.exists_resolve {resolver : Resolver} (readable : resolver.tables.AreReadable)
    (textual : ∀ catalog ∈ resolver.catalog, catalog.IsTextual) (description : String)
    (values : Values) (baseUrl : String) (locks : List Lock) :
    ∃ case, resolver.resolve description values baseUrl locks = .ok case := by
  obtain ⟨outline, -, made⟩ := exists_steps readable (Lock.strip description) values locks
  obtain ⟨place, -, refined⟩ := exists_refine_steps textual outline
  refine ⟨⟨heading description baseUrl, outline.steps place⟩, ?_⟩
  rw [resolve, made]
  change ((resolver.refine (outline.steps .label)).mapError Fault.catalog >>= _) = _
  rw [refined]
  rfl

namespace Generator

variable {generator : Generator} {text baseUrl instruction : String} {options : RenderOptions}
  {generation : Generation}

/-! What an instruction lacks -/

/-- The instruction names a placeholder that no test data are for, or it has a lock without a
value that is filled in. -/
def LacksInput (generator : Generator) (instruction : String) : Prop :=
  (∃ data ∈ generator.data, ∃ name ∈ Placeholder.names instruction, data.knows name = false) ∨
    ∃ lock ∈ Lock.ofText instruction,
      lock.value = "" ∨ Text.contains lock.value "<" = true ∨
        Text.contains lock.value "TODO" = true

theorem missingData_ne_nil_iff (generator : Generator) (instruction : String) :
    generator.missingData instruction ≠ [] ↔
      ∃ data ∈ generator.data, ∃ name ∈ Placeholder.names instruction,
        data.knows name = false := by
  rw [missingData]
  cases generator.data with
  | none => simp
  | some data => simp [TestData.missing, List.filter_eq_nil_iff]

/-- What shows to be missing in strict mode is what the instruction lacks. -/
theorem earlyProblems_ne_nil_iff (strict : generator.isStrict = true) (instruction : String) :
    generator.earlyProblems instruction (Lock.ofText instruction) ≠ [] ↔
      generator.LacksInput instruction := by
  have locks : (Strict.incomplete (Lock.ofText instruction)).problems ≠ [] ↔
      ∃ lock ∈ Lock.ofText instruction, lock.value = "" ∨
        Text.contains lock.value "<" = true ∨ Text.contains lock.value "TODO" = true := by
    simp only [Strict.incomplete, Verdict.problems, List.map_map, List.map_nil, List.append_nil,
      ne_eq, List.map_eq_nil_iff, List.filter_eq_nil_iff, not_forall, Bool.and_eq_true,
      Bool.or_eq_true, String.isEmpty_iff, not_not, exists_prop]
    refine exists_congr fun lock => and_congr_right fun member => ?_
    rw [Lock.isLocked_of_mem_ofText member, eq_self, true_and, or_assoc]
  rw [earlyProblems, if_pos strict, LacksInput, ← missingData_ne_nil_iff, ← locks, Ne,
    List.append_eq_nil_iff, not_and_or]

/-! How generations end -/

/-- Nothing holds a generation back before the instruction is resolved. -/
def IsReady (generator : Generator) (instruction : String) : Prop :=
  generator.isStrict = true → ¬ generator.LacksInput instruction

/-- The ways in which a generation ends: what shows to be missing first keeps the instruction from
being resolved; a resolved case has no dialect, or code in which something is found, or code. -/
inductive Ends (generator : Generator) (instruction : String) (options : RenderOptions)
    (generation : Generation) : Prop
  | early (strict : generator.isStrict = true) (lacks : generator.LacksInput instruction)
      (found : generation.problems ≠ [])
      (code : generation.code = withheld headline generation.problems)
      (case : generation.case? = none)
      (blank : generation.checklist = [] ∧ generation.values = [])
  | unsupported (ready : generator.IsReady instruction) {cause : Unsupported}
      (unknown : Dialect.find options.framework options.language = .error cause)
      (found : generation.problems ≠ [])
      (code : generation.code = withheld "" generation.problems)
      (case : generation.case? ≠ none)
  | deviant (strict : generator.isStrict = true) (ready : generator.IsReady instruction)
      (found : generation.problems ≠ [])
      (code : generation.code = withheld headline generation.problems)
      (case : generation.case? ≠ none)
  | rendered (ready : generator.IsReady instruction) {case : TestCase} {dialect : Dialect}
      {timeout : String} (clean : generation.problems = [])
      (code : generation.code = dialect.code options case timeout)
      (case : generation.case? ≠ none)

/-- Rendering and checking end in one of three ways. -/
theorem ends_of_finish (ready : generator.IsReady instruction) {locks : List Lock}
    {case : TestCase} {started : Generation} (fresh : started.problems = [])
    (resolved : started.case? ≠ none)
    (finished : generator.finish instruction locks case options started = .ok generation) :
    generator.Ends instruction options generation := by
  rcases finish_eq_ok_iff.mp finished with ⟨cause, failed, rfl⟩ | ⟨generated, rendered, rfl⟩
  · exact .unsupported ready ((render_eq_unsupported_iff case).mp failed) (List.cons_ne_nil _ _) rfl
      resolved
  · obtain ⟨dialect, supported⟩ := exists_dialect_of_render rendered
    obtain ⟨timeout, -, code⟩ := exists_code_of_render supported rendered
    rw [conclude]
    dsimp only
    split
    · rename_i strict
      split
      · exact .rendered ready fresh code resolved
      · rename_i found
        exact .deviant strict ready (fun none => found (List.isEmpty_iff.mpr none)) rfl resolved
    · exact .rendered ready fresh code resolved

/-- An instruction that is ready is resolved, rendered and checked. -/
theorem generate_eq_of_ready (ready : generator.IsReady (generator.substitute text)) :
    generator.generate text baseUrl options =
      ((generator.resolver.resolve (generator.substitute text)
        (Extraction.extract (generator.substitute text)) baseUrl
        (Lock.ofText (generator.substitute text))).mapError .resolver).bind fun case =>
          generator.finish (generator.substitute text)
            (Lock.ofText (generator.substitute text)) case options
              (generator.started (generator.substitute text) options case) := by
  have passed : ¬ (generator.isStrict && !(generator.earlyProblems (generator.substitute text)
      (Lock.ofText (generator.substitute text))).isEmpty) = true := by
    rw [Bool.and_eq_true, Bool.not_eq_true', List.isEmpty_eq_false_iff]
    rintro ⟨strict, found⟩
    exact ready strict ((earlyProblems_ne_nil_iff strict _).mp found)
  rw [generate]
  dsimp only
  rw [if_neg passed]
  rfl

/-- A case is rendered and checked unless its dialect cannot tell the timeout. -/
theorem exists_finish_iff (instruction : String) (locks : List Lock) (case : TestCase)
    (started : Generation) :
    (∃ generation, generator.finish instruction locks case options started = .ok generation) ↔
      ∀ dialect, Dialect.find options.framework options.language = .ok dialect →
        dialect.Tells options.timeout := by
  cases known : Dialect.find options.framework options.language with
  | error cause =>
      refine iff_of_true ⟨_, finish_eq_ok_iff.mpr (.inl ⟨cause, ?_, rfl⟩)⟩ nofun
      exact (render_eq_unsupported_iff case).mpr known
  | ok dialect =>
      simp only [finish_eq_ok_iff, Except.ok.injEq, forall_eq', ← exists_render_iff known case]
      constructor
      · rintro ⟨generation, ⟨cause, failed, -⟩ | ⟨generated, rendered, -⟩⟩
        · cases known.symm.trans ((render_eq_unsupported_iff case).mp failed)
        · exact ⟨generated, rendered⟩
      · rintro ⟨generated, rendered⟩
        exact ⟨_, .inr ⟨generated, rendered, rfl⟩⟩

theorem ends_of_generate (done : generator.generate text baseUrl options = .ok generation) :
    generator.Ends (generator.substitute text) options generation := by
  rcases generate_cases done with ⟨strict, found, rfl⟩ | ⟨passed, case, -, finished⟩
  · exact .early strict ((earlyProblems_ne_nil_iff strict _).mp found) found rfl rfl ⟨rfl, rfl⟩
  · have ready : generator.IsReady (generator.substitute text) := fun strict lacks =>
      (earlyProblems_ne_nil_iff strict _).mpr lacks (passed strict)
    exact ends_of_finish ready rfl (Option.some_ne_none case) finished

/-! Where problems come from -/

/-- Rendering and checking report that there is no dialect, or what the check finds in the code. -/
theorem exists_of_mem_problems_of_finish {locks : List Lock} {case : TestCase} {started : Generation}
    (fresh : started.problems = [])
    (finished : generator.finish instruction locks case options started = .ok generation)
    {problem : Problem} (reported : problem ∈ generation.problems) :
    (∃ cause, problem = .unsupported cause) ∨
      ∃ code values context,
        problem ∈ (Strict.verdict instruction code values locks context).problems := by
  rcases finish_eq_ok_iff.mp finished with ⟨cause, -, rfl⟩ | ⟨generated, -, rfl⟩
  · exact .inl ⟨cause, List.mem_singleton.mp reported⟩
  · rw [conclude] at reported
    dsimp only at reported
    split_ifs at reported with strict clean
    · simp [fresh] at reported
    · exact .inr ⟨_, _, _, List.mem_eraseDups.mp reported⟩
    · simp [fresh] at reported

/-- What neither rendering nor checking reports is reported in strict mode exactly if it shows
before the instruction is resolved. -/
theorem mem_problems_iff_mem_earlyProblems (strict : generator.isStrict = true) {problem : Problem}
    (supported : ∀ cause, problem ≠ .unsupported cause)
    (unchecked : ∀ code values locks context,
      problem ∉ (Strict.verdict (generator.substitute text) code values locks context).problems)
    (done : generator.generate text baseUrl options = .ok generation) :
    problem ∈ generation.problems ↔
      problem ∈ generator.earlyProblems (generator.substitute text)
        (Lock.ofText (generator.substitute text)) := by
  rcases generate_cases done with ⟨-, -, rfl⟩ | ⟨passed, case, -, finished⟩
  · rfl
  · rw [passed strict]
    refine iff_of_false (fun reported => ?_) List.not_mem_nil
    rcases exists_of_mem_problems_of_finish rfl finished reported with
      ⟨cause, same⟩ | ⟨code, values, context, found⟩
    · exact supported cause same
    · exact unchecked code values _ context found

/-! The promise -/

/-- What a generation promises about its errors. -/
structure KeepsPromise (generator : Generator) (instruction : String) (options : RenderOptions)
    (generation : Generation) : Prop where
  /-- There are errors exactly if the code is marked as an error. -/
  marked : generation.errors ≠ [] ↔ "ERROR: ".toList <+: generation.code.toList
  /-- The errors stand in the code one after the other. -/
  shown : Chars.InOrder (generation.errors.map String.toList) generation.code.toList
  /-- In strict mode, and only there, an instruction that lacks something is not resolved. -/
  unresolved : generation.case? = none ↔
    generator.isStrict = true ∧ generator.LacksInput instruction
  /-- Of an instruction that is not resolved nothing is told but the errors. -/
  blank : generation.case? = none →
    generation.errors ≠ [] ∧ generation.checklist = [] ∧ generation.values = []
  /-- In legacy mode only the choice of the dialect can fail. -/
  legacy : generator.isStrict = false → generation.errors ≠ [] →
    ∃ cause, Dialect.find options.framework options.language = .error cause

/-- Errors in the place of the code are marked and shown. -/
theorem marked_and_shown_of_withheld {headline : String} (found : generation.problems ≠ [])
    (code : generation.code = withheld headline generation.problems) :
    (generation.errors ≠ [] ↔ "ERROR: ".toList <+: generation.code.toList) ∧
      Chars.InOrder (generation.errors.map String.toList) generation.code.toList := by
  have errors : generation.errors ≠ [] := mt (Generation.errors_eq_nil_iff generation).mp found
  rw [code]
  exact ⟨iff_of_true errors (errorMark_prefix_withheld _ _), inOrder_withheld _ _⟩

theorem Ends.keepsPromise (ends : generator.Ends instruction options generation) :
    generator.KeepsPromise instruction options generation := by
  have errors := Generation.errors_eq_nil_iff generation
  -- Of an instruction that is resolved the mode decides whether it may lack anything.
  have passed (ready : generator.IsReady instruction) (case : generation.case? ≠ none) :
      generation.case? = none ↔ generator.isStrict = true ∧ generator.LacksInput instruction :=
    iff_of_false case fun ⟨strict, lacks⟩ => ready strict lacks
  cases ends with
  | early strict lacks found code case blank =>
      obtain ⟨marked, shown⟩ := marked_and_shown_of_withheld found code
      exact
        { marked, shown
          unresolved := iff_of_true case ⟨strict, lacks⟩
          blank := fun _ => ⟨mt errors.mp found, blank⟩
          legacy := fun lenient => absurd strict (by simp [lenient]) }
  | unsupported ready unknown found code case =>
      obtain ⟨marked, shown⟩ := marked_and_shown_of_withheld found code
      exact
        { marked, shown
          unresolved := passed ready case
          blank := fun absent => absurd absent case
          legacy := fun _ _ => ⟨_, unknown⟩ }
  | deviant strict ready found code case =>
      obtain ⟨marked, shown⟩ := marked_and_shown_of_withheld found code
      exact
        { marked, shown
          unresolved := passed ready case
          blank := fun absent => absurd absent case
          legacy := fun lenient => absurd strict (by simp [lenient]) }
  | rendered ready clean code case =>
      have none : generation.errors = [] := errors.mpr clean
      exact
        { marked := iff_of_false (not_not_intro none)
            (code ▸ Dialect.not_errorMark_prefix_code _ options _ _)
          shown := none ▸ .nil _
          unresolved := passed ready case
          blank := fun absent => absurd absent case
          legacy := fun _ found => absurd none found }

/-- With tables that can be read and a catalog of texts an instruction has a generation, unless it
comes to be rendered in a dialect that cannot tell the timeout. -/
theorem exists_generate_iff (readable : generator.resolver.tables.AreReadable)
    (textual : ∀ catalog ∈ generator.resolver.catalog, catalog.IsTextual) (text baseUrl : String)
    (options : RenderOptions) :
    (∃ generation, generator.generate text baseUrl options = .ok generation) ↔
      (generator.IsReady (generator.substitute text) →
        ∀ dialect, Dialect.find options.framework options.language = .ok dialect →
          dialect.Tells options.timeout) := by
  obtain ⟨case, resolved⟩ := Resolver.exists_resolve readable textual (generator.substitute text)
    (Extraction.extract (generator.substitute text)) baseUrl
    (Lock.ofText (generator.substitute text))
  by_cases ready : generator.IsReady (generator.substitute text)
  · rw [forall_prop_of_true ready, generate_eq_of_ready ready, resolved]
    exact exists_finish_iff _ _ case _
  · obtain ⟨strict, lacks⟩ := not_forall.mp ready
    refine iff_of_true ⟨generator.refused (generator.substitute text) options, ?_⟩ (absurd · ready)
    have found := (earlyProblems_ne_nil_iff strict _).mpr (not_not.mp lacks)
    rw [generate, if_pos (by simpa [strict] using found)]
    rfl

/-- With the usual options every instruction has a generation. -/
theorem exists_generate_usual (readable : generator.resolver.tables.AreReadable)
    (textual : ∀ catalog ∈ generator.resolver.catalog, catalog.IsTextual) (text baseUrl : String) :
    ∃ generation, generator.generate text baseUrl {} = .ok generation := by
  refine (exists_generate_iff readable textual text baseUrl {}).mpr fun _ dialect supported => ?_
  obtain rfl : .playwrightTypeScript = dialect := Except.ok.inj supported
  exact Dialect.exists_timeoutText_iff.mp ⟨"30000", rfl⟩

/-- An instruction has a generation, unless the catalog holds other things than texts or it comes to
be rendered in a dialect that cannot tell the timeout; and every generation keeps its promise about
errors. -/
theorem exists_generate_and_keepsPromise (readable : generator.resolver.tables.AreReadable)
    (text baseUrl : String) (options : RenderOptions) :
    ((∀ catalog ∈ generator.resolver.catalog, catalog.IsTextual) →
      ((∃ generation, generator.generate text baseUrl options = .ok generation) ↔
        (generator.IsReady (generator.substitute text) →
          ∀ dialect, Dialect.find options.framework options.language = .ok dialect →
            dialect.Tells options.timeout))) ∧
      ∀ generation, generator.generate text baseUrl options = .ok generation →
        generator.KeepsPromise (generator.substitute text) options generation :=
  ⟨fun textual => exists_generate_iff readable textual text baseUrl options,
    fun _ done => (ends_of_generate done).keepsPromise⟩

/-- A lock without its value is reported, and the instruction is not resolved. -/
theorem keepsPromise_of_unfilled_lock :
    ∃ generation, ({} : Generator).generate "[LOCK VALUE] <x>" "" {} = .ok generation ∧
      generation.case? = none ∧ generation.errors ≠ [] ∧
        "ERROR: ".toList <+: generation.code.toList := by
  obtain ⟨exists_iff, keeps⟩ :=
    @exists_generate_and_keepsPromise {} Resolver.Tables.areReadable_usual "[LOCK VALUE] <x>" "" {}
  have lacks : ({} : Generator).LacksInput "[LOCK VALUE] <x>" :=
    .inr ⟨⟨.value, "value", "<x>", true⟩, by decide +kernel, .inr (.inl (by decide +kernel))⟩
  obtain ⟨generation, done⟩ := (exists_iff nofun).mpr fun ready => absurd lacks (ready rfl)
  have promise := keeps generation done
  have absent := promise.unresolved.mpr ⟨rfl, lacks⟩
  have errors := (promise.blank absent).1
  exact ⟨generation, done, absent, errors, promise.marked.mp errors⟩

end Generator

end PlainScript
