/-
Which input keeps the commands that resolve and generate from ending with an exit code. Faults of
input are reported if the file that they are in is the wrong one, or holds the wrong document; what
no parser accepts, rules without their parts and cues that are no regular expressions break the
command off, the last ones only when an instruction comes to look for them, and so does a timeout
that is too large for a number of seconds.
-/

import PlainScript.Command.Run
import PlainScript.Proofs.Command.Batch
import PlainScript.Proofs.Command.SetUp
import PlainScript.Proofs.Generation.Contract

namespace PlainScript

/-! Instructions -/

/-- Resolving the instruction with what is read off it breaks off. -/
def Resolver.BreaksOn (resolver : Resolver) (instruction : String) : Prop :=
  resolver.Breaks instruction (Extraction.extract instruction) (Lock.ofText instruction)

namespace Generator

/-- Generating the code of the instruction breaks off: it is resolved, and that breaks off or the
timeout of the options cannot be written then. -/
inductive Breaks (generator : Generator) (instruction baseUrl : String) (options : RenderOptions) :
    Prop
  | instruction (breaks : generator.resolver.BreaksOn instruction)
  | timeout
      (resolves : Succeeds (generator.resolver.resolve instruction (Extraction.extract instruction)
        baseUrl (Lock.ofText instruction)))
      (oversized : options.IsOversized)

/-- Of a timeout that cannot be written only the count of its digits is reported. -/
theorem fails_finish_iff (kind : Severity → Prop) (silent : ∀ message, ¬ kind (.reported message))
    (generator : Generator) (text : String) (locks : List Lock) (case : TestCase)
    (options : RenderOptions) (started : Generation) :
    Fails (kind ·.severity) (generator.finish text locks case options started) ↔
      options.IsOversized ∧ kind .breaking := by
  rw [finish, ← render_eq_oversized_iff case]
  rcases render case options with (_ | _ | _) | _
  · exact iff_of_false not_fails_ok (fun oversized => by cases oversized.1)
  · rw [fails_error_iff]
    exact ⟨fun breaking => ⟨rfl, breaking⟩, And.right⟩
  · rw [fails_error_iff]
    exact iff_of_false (silent _) (fun oversized => by cases oversized.1)
  · exact iff_of_false not_fails_ok (fun oversized => by cases oversized.1)

/-- Where the instruction is resolved, only the timeout is left that is not reported. -/
theorem isOversized_of_fails_generate {generator : Generator} {text baseUrl : String}
    {options : RenderOptions}
    (resolves : Succeeds (generator.resolver.resolve (generator.substitute text)
      (Extraction.extract (generator.substitute text)) baseUrl
      (Lock.ofText (generator.substitute text))))
    (fails : Fails (·.severity.message? = none) (generator.generate text baseUrl options)) :
    options.IsOversized := by
  obtain ⟨case, resolved⟩ := resolves
  rw [generate] at fails
  dsimp only at fails
  rw [resolved] at fails
  split at fails
  · exact (not_fails_ok fails).elim
  · exact ((fails_finish_iff (·.message? = none) Severity.message?_reported_ne_none
      _ _ _ _ _ _).mp fails).1

end Generator

namespace Command

variable {σ : Type} {surroundings : Surroundings σ} {workspace : Workspace σ}

/-! The parts of the commands -/

section

variable (kind : Severity → Prop) (silent : ∀ message, ¬ kind (.reported message))
include silent

theorem not_runFails_change (make : Directory → Except File.Fault Directory)
    (workspace : Workspace σ) :
    ¬ RunFails (kind ·.severity) (change make : Act σ Unit) workspace := by
  rw [change, runFails_bind_of_ok (run_get workspace), runFails_expect_bind_iff]
  rintro (fails | ⟨directory, -, fails⟩)
  · exact not_fails_of_forall (fun fault : File.Fault => silent fault.message) fails
  · exact not_fails_ok fails

theorem not_runFails_deliver (arguments : GenerateArguments) (generation : Generation)
    (workspace : Workspace σ) :
    ¬ RunFails (kind ·.severity) (deliver arguments generation : Act σ Unit) workspace := by
  have printed (text : String) (workspace : Workspace σ) :
      ¬ RunFails (kind ·.severity) (printLine text : Act σ Unit) workspace := not_fails_ok
  rw [deliver]
  split
  · exact printed _ _
  · split
    · split
      · rw [save, runFails_bind_iff_left]
        · exact not_runFails_change kind silent _ _
        · intro _ made
          rw [runFails_bind_iff_left fun _ => printed _]
          exact not_runFails_change kind silent _ made
      · exact printed _ _
    · exact printed _ _

/-- Generating an entry fails as generating its code does; what is printed or saved does not
matter. -/
theorem runFails_generateEntry_iff (settings : Settings) (arguments : GenerateArguments)
    (generator : Generator) (entry : BatchEntry) (workspace : Workspace σ) :
    RunFails (kind ·.severity) (generateEntry settings arguments generator entry : Act σ _)
        workspace ↔
      Fails (kind ·.severity) (generator.generate entry.prompt
        (firstFilled [entry.baseUrl, arguments.setup.baseUrl] settings.baseUrl)
        (renderOptions settings arguments)) := by
  rw [generateEntry]
  dsimp only
  split
  · rename_i fault broken
    obtain ⟨noticed, ran⟩ := exists_run_forM_record Notice.log
      (generator.earlyNotices (generator.substitute entry.prompt)) workspace
    rw [runFails_bind_of_ok ran, broken, fails_error_iff]
    exact fails_error_iff
  · rename_i generation made
    obtain ⟨noticed, ran⟩ := exists_run_forM_record Notice.log generation.notices workspace
    rw [runFails_bind_of_ok ran, made]
    refine iff_of_false ?_ not_fails_ok
    rw [runFails_bind_iff_left]
    · exact not_runFails_deliver kind silent _ _ _
    · intro _ after
      split <;> exact not_fails_ok

end

/-- What a run makes of its entries does not matter either. -/
theorem runFails_codeOf_iff {kind : Fault → Prop} (act : BatchEntry → Act σ Bool)
    (entries : List BatchEntry) (workspace : Workspace σ) :
    RunFails kind (do let results ← entries.mapM act; return codeOf (results.all id) : Act σ Nat)
        workspace ↔
      RunFails kind (entries.mapM act) workspace :=
  runFails_bind_iff_left fun _ _ => not_runFails_pure

/-- The batch that is asked for, unless it is a prompt or nothing. -/
def openedBatch? (surroundings : Surroundings σ) (directory : Directory)
    (arguments : GenerateArguments) : Option Batch.Reading :=
  match arguments.origin with
  | .prompt => none
  | .network => (filled arguments.url).map fun url => Batch.ofReply url (surroundings.reply url)
  | .file => (filled arguments.file).map (Batch.ofFile directory)

theorem runFails_loadBatch_iff (kind : Severity → Prop)
    (silent : ∀ message, ¬ kind (.reported message)) (surroundings : Surroundings σ)
    (arguments : GenerateArguments) (workspace : Workspace σ) :
    RunFails (kind ·.severity) (loadBatch surroundings arguments) workspace ↔
      ∃ batch, openedBatch? surroundings workspace.directory arguments = some batch ∧
        Fails (kind ·.severity) batch.entries := by
  have lacking (lack : Lack) :
      ¬ RunFails (kind ·.severity) (throw (.lack lack) : Act σ (List BatchEntry)) workspace := by
    rw [runFails_throw_iff]
    exact silent lack.message
  have opened (batch : Batch.Reading) :
      RunFails (kind ·.severity) (openBatch batch : Act σ _) workspace ↔
        Fails (kind ·.severity) batch.entries := by
    obtain ⟨noticed, ran⟩ := exists_run_warnAll (batch.notices.map Batch.Notice.message) workspace
    rw [openBatch, runFails_bind_of_ok ran, runFails_expect_iff]
    rfl
  rw [loadBatch, openedBatch?]
  cases arguments.origin with
  | prompt =>
      refine iff_of_false ?_ (by simp)
      dsimp only
      split
      · exact lacking _
      · exact not_fails_ok
  | network =>
      cases filled arguments.url with
      | none => exact iff_of_false (lacking _) (by simp)
      | some url => simpa using opened _
  | file =>
      cases filled arguments.file with
      | none => exact iff_of_false (lacking _) (by simp)
      | some path =>
          dsimp only
          rw [runFails_bind_of_ok (run_get workspace)]
          simpa using opened _

/-- The command line ends with an exit code of the program. -/
def Exits (surroundings : Surroundings σ) (workspace : Workspace σ) (arguments : List String) :
    Prop :=
  ∃ outcome, invoke surroundings workspace arguments = .ok outcome ∧ outcome.exitCode ≤ 2

/-- A command whose exit codes are small ends with one exactly if what ends it is reported. -/
theorem exits_iff_of_read {arguments : List String} {command : Command}
    (named : read arguments = .ok (some command))
    (small : ∀ code after, (run surroundings command).run.run workspace = (.ok code, after) →
      code ≤ 2) :
    Exits surroundings workspace arguments ↔
      ¬ RunFails (·.severity.message? = none) (run surroundings command) workspace := by
  rw [Exits, invoke, named]
  dsimp only
  rcases ended : (run surroundings command).run workspace with ⟨fault | code, after⟩
  · have failed : RunFails (·.severity.message? = none) (run surroundings command) workspace ↔
        fault.severity.message? = none := by
      rw [RunFails, StateT.run, ended, fails_error_iff]
    rw [failed]
    dsimp only
    cases fault.severity.message? with
    | none => exact iff_of_false (by simp) (not_not_intro rfl)
    | some message => exact iff_of_true ⟨_, rfl, le_rfl⟩ (Option.some_ne_none message)
  · rw [RunFails, StateT.run, ended]
    exact iff_of_true ⟨{ exitCode := code, workspace := after }, rfl, small code after ended⟩
      not_fails_ok

theorem code_le_of_runResolve {settings : Settings} {prompt : String} {setup : SetupArguments}
    {code : Nat} {after : Workspace σ}
    (done : (runResolve settings prompt setup : Act σ Nat).run.run workspace = (.ok code, after)) :
    code ≤ 2 := by
  obtain ⟨_, _, -, done⟩ := exists_of_run_bind_eq_ok done
  obtain ⟨_, _, -, done⟩ := exists_of_run_bind_eq_ok done
  obtain ⟨_, _, -, done⟩ := exists_of_run_bind_eq_ok done
  cases done
  decide

theorem codeOf_le_two (isGood : Bool) : codeOf isGood ≤ 2 := by cases isGood <;> decide

theorem code_le_of_runGenerate {arguments : GenerateArguments} {code : Nat} {after : Workspace σ}
    (done : (runGenerate surroundings arguments).run.run workspace = (.ok code, after)) :
    code ≤ 2 := by
  unfold runGenerate at done
  obtain ⟨_, _, -, done⟩ := exists_of_run_bind_eq_ok done
  split at done
  · obtain ⟨_, _, -, done⟩ := exists_of_run_bind_eq_ok done
    cases done
    decide
  · obtain ⟨_, _, -, done⟩ := exists_of_run_bind_eq_ok done
    obtain ⟨_, _, -, done⟩ := exists_of_run_bind_eq_ok done
    cases done
    exact codeOf_le_two _

/-! Command lines that name no files -/

section

variable {settings : Settings} {setup : SetupArguments} {resolver : Resolver}
  {data : Option TestData} {ready : Workspace σ}

/-- All that can be wrong with a set-up without files is reported. -/
theorem not_runFails_setUp_of_unnamed (noData : setup.data = none) (noPages : setup.pages = none)
    (noTables : setup.tables = none) :
    ¬ RunFails (·.severity.message? = none) (setUp settings setup : Act σ _) workspace := by
  have unfiled (directory : Directory) (options : ResolverOptions) (catalog : Option Catalog)
      (noTables : options.tables = none) :
      ¬ Fails (·.severity.message? = none) (settings.resolver directory options catalog) := by
    rw [Settings.resolver, Settings.tables, noTables]
    exact fun fails => Settings.not_fails_strictnessOf (·.message? = none)
      Severity.message?_reported_ne_none settings options
        ((fails_bind_iff_left fun _ => not_fails_pure).mp fails)
  rw [setUp, loadData, noData, runFails_bind_of_ok (by rfl),
    runFails_bind_iff_left fun _ _ => not_runFails_pure, loadResolver,
    runFails_bind_of_ok (run_get workspace), noPages]
  exact fun fails => unfiled _ _ none noTables (runFails_expect_iff.mp fails)

/-- Without tables and pages a resolver is set up that resolves every instruction. -/
theorem succeeds_resolve_of_setUp (noPages : setup.pages = none) (noTables : setup.tables = none)
    (isSetUp : (setUp settings setup).run.run workspace = (.ok (resolver, data), ready))
    (instruction baseUrl : String) : Succeeds (resolver.resolve instruction
      (Extraction.extract instruction) baseUrl (Lock.ofText instruction)) := by
  obtain ⟨usual, alone⟩ : resolver.tables = {} ∧ resolver.catalog = none := by
    unfold setUp at isSetUp
    obtain ⟨found, _, -, isSetUp⟩ := exists_of_run_bind_eq_ok isSetUp
    obtain ⟨made, _, makes, isSetUp⟩ := exists_of_run_bind_eq_ok isSetUp
    cases isSetUp
    unfold loadResolver at makes
    obtain ⟨_, _, -, makes⟩ := exists_of_run_bind_eq_ok makes
    obtain ⟨⟨catalog, notices⟩, _, loads, makes⟩ := exists_of_run_bind_eq_ok makes
    obtain ⟨⟨⟩, _, -, makes⟩ := exists_of_run_bind_eq_ok makes
    have cataloged := (eq_ok_of_expect loads).1
    have resolved := (eq_ok_of_expect makes).1
    simp only [Settings.catalog, noPages, filled] at cataloged
    cases cataloged
    obtain ⟨tables, chosen, resolved⟩ := Except.exists_of_bind_eq_ok resolved
    obtain ⟨strictness, -, resolved⟩ := Except.exists_of_bind_eq_ok resolved
    simp only [Settings.tables, noTables, filled] at chosen
    cases chosen
    cases resolved
    exact ⟨rfl, rfl⟩
  have textual : ∀ catalog ∈ resolver.catalog, catalog.IsTextual := by simp [alone]
  exact Resolver.exists_resolve (usual ▸ Resolver.Tables.areReadable_usual) textual instruction
    (Extraction.extract instruction) baseUrl (Lock.ofText instruction)

theorem not_runFails_resolvePrompt {kind : Fault → Prop} {prompt baseUrl : String}
    (resolves : ∀ instruction, Succeeds (resolver.resolve instruction
      (Extraction.extract instruction) baseUrl (Lock.ofText instruction))) :
    ¬ RunFails kind (resolvePrompt resolver data prompt baseUrl : Act σ _) ready := by
  rw [resolvePrompt]
  obtain ⟨noticed, ran⟩ := exists_run_forM_record (fun type => (Notice.unknownLock type).log)
    (Lock.unknownTypes (Generator.substitute ⟨resolver, data⟩ prompt)) ready
  obtain ⟨case, resolved⟩ := resolves (Generator.substitute ⟨resolver, data⟩ prompt)
  rw [runFails_bind_of_ok ran, runFails_expect_iff, resolved]
  exact not_fails_ok

theorem not_runFails_runResolve_of_unnamed (noData : setup.data = none)
    (noPages : setup.pages = none) (noTables : setup.tables = none) (prompt : String) :
    ¬ RunFails (·.severity.message? = none) (runResolve settings prompt setup : Act σ Nat)
      workspace := by
  have printed (case : TestCase) (after : Workspace σ) :
      ¬ RunFails (·.severity.message? = none)
        (do printLine (case.write 2); return 0 : Act σ Nat) after :=
    not_fails_ok
  rw [runResolve, runFails_bind_iff]
  rintro (fails | ⟨⟨resolver, data⟩, ready, isSetUp, fails⟩)
  · exact not_runFails_setUp_of_unnamed noData noPages noTables fails
  · rcases runFails_bind_iff.mp fails with fails | ⟨case, after, -, fails⟩
    · exact not_runFails_resolvePrompt
        (fun _ => succeeds_resolve_of_setUp noPages noTables isSetUp _ _) fails
    · exact printed case after fails

/-- What is opened instead of a file is a reply, and what is wrong with it can be left open. -/
theorem not_runFails_loadBatch_of_unnamed {asked : GenerateArguments} (noFile : asked.file = none)
    (settled : asked.origin = .network → ∀ url, ¬ Fails (·.severity = .unsettled)
      (Batch.ofReply url (surroundings.reply url)).entries) :
    ¬ RunFails (·.severity.message? = none) (loadBatch surroundings asked) workspace := by
  refine fun fails => ?_
  obtain ⟨batch, opened, fault, ended, unreported⟩ :=
    (runFails_loadBatch_iff (·.message? = none) Severity.message?_reported_ne_none _ _ _).mp fails
  rw [openedBatch?] at opened
  split at opened
  · cases opened
  · rename_i origin
    obtain ⟨url, -, rfl⟩ := Option.map_eq_some_iff.mp opened
    cases same : fault.severity with
    | reported message => cases unreported.symm.trans (congrArg Severity.message? same)
    | breaking => exact Batch.not_fails_ofReply _ _ ⟨fault, ended, same⟩
    | unsettled => exact settled origin url ⟨fault, ended, same⟩
  · simp [noFile, filled] at opened

theorem isOversized_of_runFails_runGenerate {asked : GenerateArguments}
    (loads : ¬ RunFails (·.severity.message? = none) (loadBatch surroundings asked) workspace)
    (noData : asked.setup.data = none) (noPages : asked.setup.pages = none)
    (noTables : asked.setup.tables = none)
    (fails : RunFails (·.severity.message? = none) (runGenerate surroundings asked) workspace) :
    (renderOptions surroundings.settings asked).IsOversized := by
  rw [runGenerate, runFails_bind_iff] at fails
  obtain ⟨entries, loaded, -, fails⟩ := fails.resolve_left loads
  split at fails
  · exact (not_fails_ok fails).elim
  · rw [runFails_bind_iff] at fails
    obtain ⟨⟨resolver, data⟩, ready, isSetUp, fails⟩ := fails.resolve_left
      (not_runFails_setUp_of_unnamed noData noPages noTables)
    obtain ⟨_, entry, _, _, _, -, -, fails⟩ :=
      runFails_mapM_iff.mp ((runFails_codeOf_iff _ _ _).mp fails)
    refine Generator.isOversized_of_fails_generate ?_
      ((runFails_generateEntry_iff (·.message? = none) Severity.message?_reported_ne_none
        _ _ _ _ _).mp fails)
    exact succeeds_resolve_of_setUp noPages noTables isSetUp _ _

end

/-- A command line that names no files ends with an exit code, whatever its prompts are and whatever
comes from the network, as far as that is settled, unless its timeout is too large for a number of
seconds. -/
theorem exits_of_inputs_eq_nil (surroundings : Surroundings σ) (workspace : Workspace σ)
    (arguments : List String) :
    (∀ asked, read arguments = .ok (some (.generate asked)) → (Command.generate asked).inputs = [] →
      ¬ (renderOptions surroundings.settings asked).IsOversized →
      (asked.origin = .network → ∀ url, ¬ Fails (·.severity = .unsettled)
        (Batch.ofReply url (surroundings.reply url)).entries) →
      Exits surroundings workspace arguments) ∧
    ∀ prompt setup, read arguments = .ok (some (.resolve prompt setup)) →
      (Command.resolve prompt setup).inputs = [] → Exits surroundings workspace arguments := by
  refine ⟨fun asked named noInputs small settled => ?_, fun prompt setup named noInputs => ?_⟩
  · simp only [inputs, List.filterMap_eq_nil_iff, List.forall_mem_cons, id] at noInputs
    obtain ⟨noFile, -, noTables, noData, noPages, -⟩ := noInputs
    rw [exits_iff_of_read named fun _ _ => code_le_of_runGenerate]
    exact fun fails => small (isOversized_of_runFails_runGenerate
      (not_runFails_loadBatch_of_unnamed noFile settled) noData noPages noTables fails)
  · simp only [inputs, List.filterMap_eq_nil_iff, List.forall_mem_cons, id] at noInputs
    obtain ⟨noTables, noData, noPages, -⟩ := noInputs
    rw [exits_iff_of_read named fun _ _ => code_le_of_runResolve]
    exact not_runFails_runResolve_of_unnamed noData noPages noTables prompt

/-! Command lines of all kinds -/

/-- A directory with one file. -/
def single (path content : String) : Workspace Unit where
  directory := { files := [(path, .text content)], folders := [] }
  page := ()

end Command

end PlainScript
