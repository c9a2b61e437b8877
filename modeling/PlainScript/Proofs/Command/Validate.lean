/-
Code that has been generated, and what the command that checks code says of it. It reads the same
lines and looks for the same values, but it is not told of the addresses of the case, so that a
forbidden word in one of them is held against the code.
-/

import PlainScript.Command.Run
import PlainScript.Proofs.Check.Context
import PlainScript.Proofs.Command.Batch
import PlainScript.Proofs.File.LineEnds

namespace PlainScript

/-- A file that holds a text reads with its line ends unified. -/
theorem Directory.readText_of_openFile {directory : Directory} {path content : String}
    (opened : directory.openFile path = .ok (.text content)) :
    directory.readText path = .ok (.ofList (File.unifyLineEnds content.toList)) := by
  rw [readText, opened]
  rfl

/-- Code is read from a file line by line as it was written. -/
theorem Strict.rereads_unifyLineEnds (code : String) :
    Strict.Rereads code (.ofList (File.unifyLineEnds code.toList)) where
  lines := by rw [String.toList_ofList, File.lines_unifyLineEnds]
  oneLine piece unbroken inside := by
    rw [String.toList_ofList] at inside
    exact File.infix_of_infix_unifyLineEnds unbroken inside

namespace Command

variable {σ : Type} {surroundings : Surroundings σ} {arguments : GenerateArguments}
  {workspace after loaded ready : Workspace σ} {prompt : String}

/-! Checking code -/

/-- The verdict on code that is checked on its own. -/
def verdictOf (prompt code : String) : Verdict :=
  Strict.verdict prompt code (Extraction.extract prompt).toList (Lock.ofText prompt) []

/-- What is printed of code that is checked on its own. -/
def findings (prompt code : String) : String :=
  Json.portable.write (.ofFields [
    ("strict", (verdictOf prompt code).document),
    ("compliance", (Compliance.check prompt code).document)])

/-- Code in a file that can be read is checked, and the findings are printed. -/
theorem exists_run_runValidate (prompt : String) {file code : String}
    (held : workspace.directory.readText file = .ok code) :
    ∃ ended, (runValidate prompt file).run.run workspace =
        (.ok (codeOf ((verdictOf prompt code).isValid && (Compliance.check prompt code).isValid)),
          ended) ∧
      ended.output = (findings prompt code ++ "\n") :: workspace.output := by
  have reads : (readText file : Act σ String).run.run workspace = (.ok code, workspace) := by
    refine (run_bind_of_ok rfl _).trans ?_
    rw [held]
    rfl
  obtain ⟨noticed, notices⟩ := exists_run_forM_record
    (fun type => (Notice.unknownLock type).log) (Lock.unknownTypes prompt) workspace
  obtain ⟨-, output⟩ := isQuiet_forM (fun _ => isQuiet_record _) _ _ _ _ notices
  refine ⟨_, (run_bind_of_ok reads _).trans ((run_bind_of_ok notices _).trans rfl), ?_⟩
  rw [← output]
  rfl

/-! Generating code for a prompt -/

/-- The options ask for strict mode and bring no test data. -/
structure IsStrictPrompt (surroundings : Surroundings σ) (arguments : GenerateArguments)
    (prompt : String) : Prop where
  origin : arguments.origin = .prompt
  asked : filled arguments.prompt = some prompt
  dataless : filled arguments.setup.data = none
  current : arguments.setup.isLegacy = false
  strict : Strictness.ofName? surroundings.settings.strictness = some .strict

/-- The only entry of the batch. -/
def promptEntry (arguments : GenerateArguments) (prompt : String) : BatchEntry :=
  { id := "cli", prompt, baseUrl := arguments.setup.baseUrl.filter (!·.isEmpty) }

theorem run_loadBatch_of_prompt (asks : IsStrictPrompt surroundings arguments prompt) :
    (loadBatch surroundings arguments).run.run workspace =
      (.ok [promptEntry arguments prompt], workspace) := by
  have given := ((filled_eq_some_iff _ _).mp asks.asked).2
  unfold loadBatch
  rw [asks.origin]
  dsimp only
  rw [asks.asked]
  dsimp only
  rw [BatchEntry.ofPrompt, if_neg (by simpa using given)]
  rfl

/-- Without test data and in strict mode a generator is set up so. -/
theorem strictness_of_setUp {settings : Settings} {setup : SetupArguments} {resolver : Resolver}
    {data : Option TestData} (dataless : filled setup.data = none)
    (current : setup.isLegacy = false)
    (strict : Strictness.ofName? settings.strictness = some .strict)
    (sets : (setUp settings setup).run.run workspace = (.ok (resolver, data), ready)) :
    data = none ∧ resolver.strictness = .strict := by
  unfold setUp at sets
  obtain ⟨found, start, loads, sets⟩ := exists_of_run_bind_eq_ok sets
  obtain ⟨made, ended, makes, sets⟩ := exists_of_run_bind_eq_ok sets
  cases sets
  constructor
  · rw [loadData, dataless] at loads
    cases loads
    rfl
  · unfold loadResolver at makes
    obtain ⟨directory, _, _, makes⟩ := exists_of_run_bind_eq_ok makes
    obtain ⟨⟨catalog, notices⟩, _, _, makes⟩ := exists_of_run_bind_eq_ok makes
    obtain ⟨⟨⟩, _, _, makes⟩ := exists_of_run_bind_eq_ok makes
    have resolved := (eq_ok_of_expect makes).1
    obtain ⟨tables, -, resolved⟩ := Except.exists_of_bind_eq_ok resolved
    obtain ⟨strictness, chosen, resolved⟩ := Except.exists_of_bind_eq_ok resolved
    cases resolved
    rw [Settings.strictnessOf, current, strict] at chosen
    cases chosen
    rfl

/-- A run that ends well has generated code for the prompt and delivered it. -/
theorem exists_of_runGenerate_of_prompt (asks : IsStrictPrompt surroundings arguments prompt)
    (done : (runGenerate surroundings arguments).run.run workspace = (.ok 0, after)) :
    ∃ generator generation noticed, generator.isStrict = true ∧ generator.data = none ∧
      IsGenerated surroundings.settings arguments generator (promptEntry arguments prompt)
        generation ∧
      noticed.directory = workspace.directory ∧ noticed.output = workspace.output ∧
      (deliver arguments generation : Act σ Unit).run.run noticed = (.ok (), after) := by
  obtain ⟨entries, loaded, resolver, data, ready, results, loads, sets, all, good⟩ :=
    exists_of_runGenerate done
  rw [run_loadBatch_of_prompt asks] at loads
  cases loads
  obtain ⟨rfl, strict⟩ := strictness_of_setUp asks.dataless asks.current asks.strict sets
  obtain ⟨directory, output⟩ := isQuiet_setUp _ _ _ _ _ sets
  rw [List.mapM_cons] at all
  obtain ⟨first, delivered, here, all⟩ := exists_of_run_bind_eq_ok all
  cases all
  obtain rfl : first = true := by simpa using good
  obtain ⟨generation, noticed, generated, directory', output', delivers⟩ :=
    exists_of_generateEntry here
  exact ⟨_, generation, noticed, by rw [Generator.isStrict, strict]; rfl, rfl, generated,
    directory'.trans directory, output'.trans output, delivers⟩

/-- The check of a generation without errors has found nothing. -/
theorem exists_verdict_of_isGenerated {settings : Settings} {generator : Generator}
    {entry : BatchEntry} {generation : Generation} (strict : generator.isStrict = true)
    (dataless : generator.data = none)
    (generated : IsGenerated settings arguments generator entry generation) :
    ∃ case, generation.case? = some case ∧
      Strict.verdict entry.prompt generation.code (Extraction.extract entry.prompt).toList
        (Lock.ofText entry.prompt) (Generator.context case) = ⟨[], []⟩ := by
  have same : generator.substitute entry.prompt = entry.prompt := by
    rw [Generator.substitute, dataless]
  have clean := (Generation.errors_eq_nil_iff _).mp generated.clean
  obtain ⟨case, code, passes, rfl⟩ :=
    (Generator.generate_eq_ok_iff strict generation).mp ⟨generated.made, clean⟩
  rw [same] at passes
  obtain ⟨gaps, deviations⟩ := (Verdict.problems_eq_nil_iff _).mp passes.checked
  refine ⟨case, rfl, ?_⟩
  change Strict.verdict entry.prompt code.code _ _ _ = _
  rw [← gaps, ← deviations]

/-! A prompt with a forbidden word in its path -/

/-- A prompt for code that is to be saved in a directory. -/
def promptArguments (prompt : String) : GenerateArguments :=
  { sharedArguments with prompt := some prompt, origin := .prompt, file := none }

def emptyWorkspace : Workspace Unit := { directory := .empty, page := () }

theorem isStrictPrompt_promptArguments (given : prompt ≠ "") :
    IsStrictPrompt offline (promptArguments prompt) prompt where
  origin := rfl
  asked := by
    rw [filled_eq_some_iff]
    exact ⟨rfl, given⟩
  dataless := rfl
  current := rfl
  strict := by decide

/-- The code of a prompt is saved in a new directory. -/
theorem exists_run_prompt {generation : Generation} {name : String} (given : prompt ≠ "")
    (generates : ({} : Generator).generate prompt "" Generator.sampleOptions = .ok generation)
    (clean : generation.problems = []) (silent : generation.notices = [])
    (named : generation.fileName = name)
    (names : (⟨[], ["out"]⟩ : Directory).NamesFile (File.join "out" name)) :
    ∃ after, (runGenerate offline (promptArguments prompt)).run.run emptyWorkspace =
        (.ok 0, after) ∧
      after.directory.openFile (File.join "out" name) = .ok (.text generation.code) := by
  have makes : emptyWorkspace.directory.makeFolder "out" = .ok ⟨[], ["out"]⟩ := by decide
  obtain ⟨once, writes⟩ : ∃ once, (⟨[], ["out"]⟩ : Directory).writeText (File.join "out" name)
      generation.code = .ok once := ⟨_, Directory.writeText_eq_ok_iff.mpr ⟨names, rfl⟩⟩
  have opened := Directory.openFile_of_writeText writes
  have allSaved : Directory.Saves "out" emptyWorkspace.directory ([generation].map saved) once := by
    rw [List.map_cons, List.map_nil, saved, named]
    exact .cons makes writes (.nil once)
  have saves : filled (promptArguments prompt).outputFolder = some "out" := by
    rw [filled_eq_some_iff]
    exact ⟨rfl, by decide⟩
  have all := @run_mapM_generateEntry Unit emptyWorkspace offline.settings (promptArguments prompt)
    {} "out" [promptEntry (promptArguments prompt) prompt] _ _ saves rfl
    (.cons ⟨generates, clean, silent⟩ .nil) allSaved
  have loads := @run_loadBatch_of_prompt Unit offline _ emptyWorkspace _
    (isStrictPrompt_promptArguments given)
  have sets : (setUp offline.settings (promptArguments prompt).setup).run.run emptyWorkspace =
      (.ok ({}, none), emptyWorkspace) := rfl
  exact ⟨_, (run_bind_of_ok loads _).trans ((run_bind_of_ok sets _).trans (run_bind_of_ok all _)),
    opened⟩

def retrySample : Generator.Sample where
  text := "go to /retry"
  baseUrl := ""
  values := {}
  locks := []
  case := ⟨⟨"go_to_retry", "", some "go to /retry", []⟩, [.goto "/retry"]⟩
  extracted := by decide
  locked := by decide
  early := by decide
  resolved := by decide

theorem problems_retrySample : retrySample.verdict.problems = [] :=
  retrySample.problems_eq_nil rfl (by decide) (by decide) (by decide)

/-- Without the path of the case the word in it is not explained. -/
theorem unexplained_retrySample :
    Strict.unexplained retrySample.text retrySample.generated.code [] [] =
      [.unauthorized "retry"] := by
  have scanned :
      (Masking.mask (Strict.body retrySample.text retrySample.generated.code) []).toList =
        Masking.maskChars (Strict.bodyChars retrySample.text retrySample.chars) [] := by
    rw [Masking.mask, String.toList_ofList, Strict.toList_body, Generator.Sample.toList_code]
    rfl
  change Strict.additions (Masking.mask _ []) ++ [] = _
  simp only [Strict.additions, Text.contains_eq, scanned]
  decide

/-- When it is read from a file, the word is held against the code. -/
theorem verdictOf_retrySample :
    verdictOf "go to /retry" (.ofList (File.unifyLineEnds retrySample.generated.code.toList)) =
      ⟨[], [.unauthorized "retry"]⟩ := by
  have passed : Strict.verdict retrySample.text retrySample.generated.code [] []
      (Generator.context retrySample.case) = ⟨[], []⟩ := by
    obtain ⟨gaps, deviations⟩ := (Verdict.problems_eq_nil_iff _).mp problems_retrySample
    rw [← gaps, ← deviations]
    rfl
  have read := Strict.verdict_of_rereads
    (Strict.rereads_unifyLineEnds retrySample.generated.code) passed
  rw [unexplained_retrySample] at read
  have extracted : Extraction.extract "go to /retry" = {} := retrySample.extracted
  have locked : Lock.ofText "go to /retry" = [] := retrySample.locked
  rw [verdictOf, extracted, locked]
  exact read

/-- Code that a run has generated well for a prompt, with no test data and in strict mode, is saved
where it is asked to be; and from whatever file it is read, the check of it on its own has nothing
against it but forbidden words that an address of the case explains. -/
theorem blamesContext_of_runGenerate (asks : IsStrictPrompt surroundings arguments prompt)
    (plain : arguments.asJson = false)
    (done : (runGenerate surroundings arguments).run.run workspace = (.ok 0, after)) :
    ∃ (generation : Generation) (case : TestCase), generation.errors = [] ∧
      generation.case? = some case ∧
      (filled arguments.outputFolder = none →
        after.output = (generation.code ++ "\n") :: workspace.output) ∧
      (∀ folder, filled arguments.outputFolder = some folder → after.directory.openFile
        (File.join folder generation.fileName) = .ok (.text generation.code)) ∧
      ∀ (later : Workspace σ) (file : String),
        later.directory.openFile file = .ok (.text generation.code) →
        ∃ read ended, (runValidate prompt file).run.run later =
            (.ok (codeOf ((verdictOf prompt read).isValid &&
              (Compliance.check prompt read).isValid)), ended) ∧
          ended.output = (findings prompt read ++ "\n") :: later.output ∧
          Strict.BlamesContext (verdictOf prompt read) prompt generation.code
            (Extraction.extract prompt).toList (Lock.ofText prompt) (Generator.context case) := by
  obtain ⟨generator, generation, noticed, strict, dataless, generated, directory, output,
    delivers⟩ := exists_of_runGenerate_of_prompt asks done
  obtain ⟨case, resolved, passed⟩ := exists_verdict_of_isGenerated strict dataless generated
  refine ⟨generation, case, generated.clean, resolved, ?_, ?_, ?_⟩
  · intro unsaved
    rw [deliver, plain, if_neg Bool.false_ne_true, unsaved] at delivers
    rw [(output_of_printLine delivers).2, output]
  · intro folder saves
    rw [deliver_eq_save saves plain generated.clean] at delivers
    obtain ⟨⟨made, -, writes⟩, -⟩ := saves_of_save delivers
    exact Directory.openFile_of_writeText writes
  · intro later file opened
    have held := Directory.readText_of_openFile opened
    obtain ⟨ended, run, printed⟩ := exists_run_runValidate prompt held
    exact ⟨_, ended, run, printed,
      Strict.blamesContext_of_rereads (Strict.rereads_unifyLineEnds generation.code) passed⟩

/-- Code for a prompt of one letter is saved and checked again. -/
theorem blamesContext_of_runGenerate_letter :
    ∃ after, (runGenerate offline (promptArguments "x")).run.run emptyWorkspace = (.ok 0, after) ∧
      ∃ (generation : Generation) (case : TestCase) (read : String) (ended : Workspace Unit),
        after.directory.openFile (File.join "out" generation.fileName) =
          .ok (.text generation.code) ∧
        (runValidate "x" (File.join "out" generation.fileName)).run.run after =
          (.ok (codeOf ((verdictOf "x" read).isValid && (Compliance.check "x" read).isValid)),
            ended) ∧
        Strict.BlamesContext (verdictOf "x" read) "x" generation.code
          (Extraction.extract "x").toList (Lock.ofText "x") (Generator.context case) := by
  have names : (⟨[], ["out"]⟩ : Directory).NamesFile (File.join "out" "x.cy.js") := by
    have located : (⟨[], ["out"]⟩ : Directory).locate (File.join "out" "x.cy.js") =
        .ok ["out", "x.cy.js"] := by decide +kernel
    exact .of_locate located (by decide +kernel) (by decide +kernel)
  obtain ⟨letter, -, generates, -, ⟨clean, silent, named⟩, -⟩ := exists_generate_letters
  obtain ⟨after, ran, -⟩ := exists_run_prompt (by decide) generates clean silent named names
  obtain ⟨generation, case, -, -, -, saved, checked⟩ := blamesContext_of_runGenerate
    (isStrictPrompt_promptArguments (by decide)) rfl ran
  have opened := saved "out" (by decide)
  obtain ⟨read, ended, run, -, blames⟩ := checked after _ opened
  exact ⟨after, ran, generation, case, read, ended, opened, run, blames⟩

/-- Code that is generated well for a prompt is not always valid when it is checked on its own. -/
theorem exists_generated_that_is_invalid :
    ∃ (after ended : Workspace Unit) (read : String),
      (runGenerate offline (promptArguments "go to /retry")).run.run emptyWorkspace =
        (.ok 0, after) ∧
      after.directory.readText "out/go_to_retry.cy.js" = .ok read ∧
      (runValidate "go to /retry" "out/go_to_retry.cy.js").run.run after = (.ok 1, ended) ∧
      ended.output = (findings "go to /retry" read ++ "\n") :: after.output ∧
      (verdictOf "go to /retry" read).isValid = false ∧
      (verdictOf "go to /retry" read).deviations = [.unauthorized "retry"] := by
  have path : File.join "out" "go_to_retry.cy.js" = "out/go_to_retry.cy.js" := by decide +kernel
  have names : (⟨[], ["out"]⟩ : Directory).NamesFile (File.join "out" "go_to_retry.cy.js") := by
    have located : (⟨[], ["out"]⟩ : Directory).locate (File.join "out" "go_to_retry.cy.js") =
        .ok ["out", "go_to_retry.cy.js"] := by decide +kernel
    exact .of_locate located (by decide +kernel) (by decide +kernel)
  obtain ⟨after, ran, opened⟩ := exists_run_prompt (by decide)
    (retrySample.generate_eq_success problems_retrySample) rfl (by decide +kernel)
    (by decide +kernel) names
  rw [path] at opened
  have held : after.directory.readText "out/go_to_retry.cy.js" =
      .ok (.ofList (File.unifyLineEnds retrySample.generated.code.toList)) :=
    Directory.readText_of_openFile opened
  obtain ⟨ended, run, printed⟩ := exists_run_runValidate "go to /retry" held
  have found := verdictOf_retrySample
  refine ⟨after, ended, _, ran, held, ?_, printed, ?_, ?_⟩
  · rw [run, found]
    rfl
  · rw [found]
    rfl
  · rw [found]

end Command

end PlainScript
