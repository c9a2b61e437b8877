/-
What a batch leaves in the directory that it is saved in: one file for each name that a test of
it has, with the code of the last test of that name. A test is called after its instruction in
lower case and without its punctuation, so instructions that differ in no more than these share a
file, and of their codes the last is left.
-/

import PlainScript.Command.Generate
import PlainScript.Proofs.Command.Session
import PlainScript.Proofs.File.Directory
import PlainScript.Proofs.Generation.FileName

namespace PlainScript.Command

open File

variable {σ : Type} {workspace after : Workspace σ} {settings : Settings}
  {arguments : GenerateArguments} {generator : Generator} {folder : String}

/-- The generation of an entry that goes well, called after the instruction of the entry. -/
structure IsGenerated (settings : Settings) (arguments : GenerateArguments)
    (generator : Generator) (entry : BatchEntry) (generation : Generation) : Prop where
  made : generator.generate entry.prompt
    (firstFilled [entry.baseUrl, arguments.setup.baseUrl] settings.baseUrl)
    (renderOptions settings arguments) = .ok generation
  clean : generation.errors = []
  named : generation.testName = Name.derive (Lock.strip (generator.substitute entry.prompt))

/-- What a generation saves: its code, under the name of its file. -/
def saved (generation : Generation) : String × String := (generation.fileName, generation.code)

/-- How it is reported that a generation has been saved. -/
def report (folder : String) (generation : Generation) : String :=
  "Saved to " ++ join folder generation.fileName ++ "\n"

theorem isName_of_mem_saved {entries : List BatchEntry} {generations : List Generation}
    (generated : List.Forall₂ (IsGenerated settings arguments generator) entries generations) :
    ∀ text ∈ generations.map saved, IsName text.1 := by
  induction generated with
  | nil => simp
  | cons first _ ih =>
      rw [List.map_cons, List.forall_mem_cons]
      exact ⟨Generation.isName_fileName first.named, ih⟩

/-- Saving makes the directory, writes the file and tells where. -/
theorem saves_of_save {generation : Generation}
    (done : (save folder generation : Act σ Unit).run.run workspace = (.ok (), after)) :
    (∃ made, workspace.directory.makeFolder folder = .ok made ∧
      made.writeText (join folder generation.fileName) generation.code = .ok after.directory) ∧
      after.output = report folder generation :: workspace.output := by
  unfold save at done
  obtain ⟨⟨⟩, made, makes, done⟩ := exists_of_run_bind_eq_ok done
  obtain ⟨⟨⟩, written, writes, done⟩ := exists_of_run_bind_eq_ok done
  obtain ⟨makes, unsaid⟩ := directory_of_change makes
  obtain ⟨writes, unspoken⟩ := directory_of_change writes
  obtain ⟨directory, output⟩ := output_of_printLine done
  rw [directory, output, unspoken, unsaid]
  exact ⟨⟨_, makes, writes⟩, rfl⟩

/-- An entry that goes well is generated and delivered, with no more than notices before. -/
theorem exists_of_generateEntry {entry : BatchEntry}
    (done : (generateEntry settings arguments generator entry : Act σ Bool).run.run workspace =
      (.ok true, after)) :
    ∃ generation noticed, IsGenerated settings arguments generator entry generation ∧
      noticed.directory = workspace.directory ∧ noticed.output = workspace.output ∧
      (deliver arguments generation : Act σ Unit).run.run noticed = (.ok (), after) := by
  unfold generateEntry at done
  dsimp only at done
  split at done
  · obtain ⟨⟨⟩, _, _, done⟩ := exists_of_run_bind_eq_ok done
    cases done
  · rename_i generation made
    obtain ⟨⟨⟩, noticed, notices, done⟩ := exists_of_run_bind_eq_ok done
    obtain ⟨directory, output⟩ := isQuiet_forM (fun _ => isQuiet_record _) _ _ _ _ notices
    obtain ⟨⟨⟩, delivered, delivers, done⟩ := exists_of_run_bind_eq_ok done
    -- An entry that goes well has nothing else to report.
    obtain ⟨ok, rfl⟩ : generation.isOk = true ∧ delivered = after := by
      cases good : generation.isOk with
      | true =>
          rw [good] at done
          cases done
          exact ⟨rfl, rfl⟩
      | false =>
          rw [good] at done
          cases done
    have clean : generation.problems = [] := List.isEmpty_iff.mp ok
    exact ⟨generation, noticed, ⟨made, (Generation.errors_eq_nil_iff _).mpr clean,
      Generator.testName_of_generate made clean⟩, directory, output, delivers⟩

/-- What goes well is saved if there is a directory for it. -/
theorem deliver_eq_save {generation : Generation}
    (saves : filled arguments.outputFolder = some folder) (plain : arguments.asJson = false)
    (clean : generation.errors = []) :
    (deliver arguments generation : Act σ Unit) = save folder generation := by
  have ok : generation.isOk = true :=
    List.isEmpty_iff.mpr ((Generation.errors_eq_nil_iff _).mp clean)
  rw [deliver, plain, if_neg Bool.false_ne_true, saves]
  dsimp only
  rw [ok, if_pos rfl]

/-- An entry that goes well is generated and saved. -/
theorem saves_of_generateEntry {entry : BatchEntry}
    (saves : filled arguments.outputFolder = some folder) (plain : arguments.asJson = false)
    (done : (generateEntry settings arguments generator entry : Act σ Bool).run.run workspace =
      (.ok true, after)) :
    ∃ generation, IsGenerated settings arguments generator entry generation ∧
      (∃ made, workspace.directory.makeFolder folder = .ok made ∧
        made.writeText (join folder generation.fileName) generation.code = .ok after.directory) ∧
      after.output = report folder generation :: workspace.output := by
  obtain ⟨generation, noticed, generated, directory, output, delivers⟩ :=
    exists_of_generateEntry done
  rw [deliver_eq_save saves plain generated.clean] at delivers
  rw [← directory, ← output]
  exact ⟨generation, generated, saves_of_save delivers⟩

/-- Entries that all go well are generated and saved one after another. -/
theorem saves_of_mapM {entries : List BatchEntry} {results : List Bool}
    (saves : filled arguments.outputFolder = some folder) (plain : arguments.asJson = false)
    (good : results.all id = true)
    (done : (entries.mapM (generateEntry settings arguments generator) : Act σ _).run.run
      workspace = (.ok results, after)) :
    ∃ generations, List.Forall₂ (IsGenerated settings arguments generator) entries generations ∧
      Directory.Saves folder workspace.directory (generations.map saved) after.directory ∧
      after.output = (generations.map (report folder)).reverse ++ workspace.output := by
  induction entries generalizing workspace results with
  | nil =>
      cases done
      exact ⟨[], .nil, .nil _, rfl⟩
  | cons entry entries ih =>
      rw [List.mapM_cons] at done
      obtain ⟨first, middle, here, done⟩ := exists_of_run_bind_eq_ok done
      obtain ⟨rest, last, later, done⟩ := exists_of_run_bind_eq_ok done
      cases done
      rw [List.all_cons, Bool.and_eq_true] at good
      obtain rfl : first = true := good.1
      obtain ⟨generation, generated, ⟨made, makes, writes⟩, output⟩ :=
        saves_of_generateEntry saves plain here
      obtain ⟨generations, allGenerated, allSaved, allOutput⟩ := ih good.2 later
      refine ⟨generation :: generations, .cons generated allGenerated,
        .cons makes writes allSaved, ?_⟩
      rw [allOutput, output, List.map_cons, List.reverse_cons, List.append_assoc]
      rfl

theorem isQuiet_openBatch (batch : Batch.Reading) : IsQuiet (openBatch batch : Act σ _) :=
  (isQuiet_warnAll _).bind fun _ => isQuiet_expect _ _

theorem isQuiet_loadBatch (surroundings : Surroundings σ) (arguments : GenerateArguments) :
    IsQuiet (loadBatch surroundings arguments) := by
  unfold loadBatch
  split
  · split
    · exact isQuiet_throw _
    · exact isQuiet_pure _
  · split
    · exact isQuiet_throw _
    · exact isQuiet_openBatch _
  · split
    · exact isQuiet_throw _
    · exact isQuiet_get.bind fun _ => isQuiet_openBatch _

/-- A run that ends well has loaded instructions and generated code for all of them. -/
theorem exists_of_runGenerate {surroundings : Surroundings σ}
    (done : (runGenerate surroundings arguments).run.run workspace = (.ok 0, after)) :
    ∃ entries loaded resolver data ready results,
      (loadBatch surroundings arguments).run.run workspace = (.ok entries, loaded) ∧
      (setUp surroundings.settings arguments.setup).run.run loaded =
        (.ok (resolver, data), ready) ∧
      (entries.mapM (generateEntry surroundings.settings arguments ⟨resolver, data⟩)).run.run
        ready = (.ok results, after) ∧ results.all id = true := by
  unfold runGenerate at done
  obtain ⟨entries, loaded, loads, done⟩ := exists_of_run_bind_eq_ok done
  split at done
  · obtain ⟨⟨⟩, _, _, done⟩ := exists_of_run_bind_eq_ok done
    cases done
  · obtain ⟨⟨resolver, data⟩, ready, sets, done⟩ := exists_of_run_bind_eq_ok done
    obtain ⟨results, ended, all, done⟩ := exists_of_run_bind_eq_ok done
    obtain ⟨good, rfl⟩ : results.all id = true ∧ ended = after := by
      cases good : results.all id with
      | true =>
          rw [good] at done
          cases done
          exact ⟨rfl, rfl⟩
      | false =>
          rw [good] at done
          cases done
    exact ⟨entries, loaded, resolver, data, ready, results, loads, sets, all, good⟩

/-! Batches that go well -/

/-- A batch that a file holds is loaded. -/
theorem run_loadBatch {surroundings : Surroundings σ} {path : String} {entries : List BatchEntry}
    (origin : arguments.origin = .file) (asked : filled arguments.file = some path)
    (complete : (Batch.ofFile workspace.directory path).notices = [])
    (read : (Batch.ofFile workspace.directory path).entries = .ok entries) :
    (loadBatch surroundings arguments).run.run workspace = (.ok entries, workspace) := by
  unfold loadBatch
  rw [origin]
  dsimp only
  rw [asked]
  have opened : (openBatch (Batch.ofFile workspace.directory path) : Act σ _).run.run workspace =
      (.ok entries, workspace) := by
    rw [openBatch, complete, read]
    rfl
  exact (run_bind_of_ok rfl _).trans opened

/-- An entry that can be generated and saved goes well. -/
theorem run_generateEntry {entry : BatchEntry} {generation : Generation} {made written : Directory}
    (saves : filled arguments.outputFolder = some folder) (plain : arguments.asJson = false)
    (generated : generator.generate entry.prompt
      (firstFilled [entry.baseUrl, arguments.setup.baseUrl] settings.baseUrl)
      (renderOptions settings arguments) = .ok generation)
    (clean : generation.problems = []) (silent : generation.notices = [])
    (makes : workspace.directory.makeFolder folder = .ok made)
    (writes : made.writeText (join folder generation.fileName) generation.code = .ok written) :
    (generateEntry settings arguments generator entry : Act σ Bool).run.run workspace =
      (.ok true, { workspace with
        directory := written, output := report folder generation :: workspace.output }) := by
  have ok : generation.isOk = true := List.isEmpty_iff.mpr clean
  have delivers : (deliver arguments generation : Act σ Unit).run.run workspace =
      (.ok (), { workspace with
        directory := written, output := report folder generation :: workspace.output }) := by
    rw [deliver_eq_save saves plain ((Generation.errors_eq_nil_iff _).mpr clean)]
    exact (run_bind_of_ok (run_change makes) _).trans (run_bind_of_ok (run_change writes) _)
  unfold generateEntry
  dsimp only
  rw [generated]
  dsimp only
  rw [silent]
  refine (run_bind_of_ok rfl _).trans ((run_bind_of_ok delivers _).trans ?_)
  rw [ok]
  rfl

/-- Entries that can be generated and saved one after another all go well. -/
theorem run_mapM_generateEntry {entries : List BatchEntry} {generations : List Generation}
    {written : Directory} (saves : filled arguments.outputFolder = some folder)
    (plain : arguments.asJson = false)
    (generated : List.Forall₂ (fun (entry : BatchEntry) (generation : Generation) =>
      generator.generate entry.prompt
          (firstFilled [entry.baseUrl, arguments.setup.baseUrl] settings.baseUrl)
          (renderOptions settings arguments) = .ok generation ∧
        generation.problems = [] ∧ generation.notices = []) entries generations)
    (allSaved : Directory.Saves folder workspace.directory (generations.map saved) written) :
    (entries.mapM (generateEntry settings arguments generator) : Act σ _).run.run workspace =
      (.ok (entries.map fun _ => true), { workspace with
        directory := written
        output := (generations.map (report folder)).reverse ++ workspace.output }) := by
  induction generated generalizing workspace with
  | nil =>
      cases allSaved
      rfl
  | cons first _ ih =>
      obtain ⟨made, clean, silent⟩ := first
      rw [List.map_cons, saved] at allSaved
      cases allSaved with
      | cons makes writes later =>
          have here := run_generateEntry saves plain made clean silent makes writes
          rw [List.mapM_cons]
          refine (run_bind_of_ok here _).trans ((run_bind_of_ok (ih later) _).trans ?_)
          rw [List.map_cons, List.map_cons, List.reverse_cons, List.append_assoc]
          rfl

/-! Two instructions that share a file -/

/-- An instruction in a small letter. -/
def smallSample : Generator.Sample where
  text := "x"
  baseUrl := ""
  values := {}
  locks := []
  case := ⟨⟨"x", "", some "x", []⟩, [.goto "/"]⟩
  extracted := by decide
  locked := by decide
  early := by decide
  resolved := by decide

/-- The same letter as a capital. -/
def capitalSample : Generator.Sample where
  text := "X"
  baseUrl := ""
  values := {}
  locks := []
  case := ⟨⟨"x", "", some "X", []⟩, [.goto "/"]⟩
  extracted := by decide
  locked := by decide
  early := by decide
  resolved := by decide

theorem problems_smallSample : smallSample.verdict.problems = [] :=
  smallSample.problems_eq_nil rfl (by decide) (by decide) (by decide)

theorem problems_capitalSample : capitalSample.verdict.problems = [] :=
  capitalSample.problems_eq_nil rfl (by decide) (by decide) (by decide)

/-- Both letters go into the name of the file as a small one, and into the code as they are. -/
theorem exists_generate_letters : ∃ first second,
    ({} : Generator).generate "x" "" Generator.sampleOptions = .ok first ∧
    ({} : Generator).generate "X" "" Generator.sampleOptions = .ok second ∧
    (first.problems = [] ∧ first.notices = [] ∧ first.fileName = "x.cy.js") ∧
    (second.problems = [] ∧ second.notices = [] ∧ second.fileName = "x.cy.js") ∧
    first.code ≠ second.code := by
  refine ⟨_, _, smallSample.generate_eq_success problems_smallSample,
    capitalSample.generate_eq_success problems_capitalSample, ⟨rfl, ?_, ?_⟩, ⟨rfl, ?_, ?_⟩, ?_⟩
  · decide
  · decide
  · decide
  · decide
  · change smallSample.generated.code ≠ capitalSample.generated.code
    rw [Ne, ← String.toList_inj, Generator.Sample.toList_code, Generator.Sample.toList_code]
    decide

/-- A batch in a file, to be saved in a directory. -/
def sharedArguments : GenerateArguments where
  prompt := none
  origin := .file
  url := none
  file := some "cases.txt"
  framework := some "cypress"
  language := some "javascript"
  timeout := none
  comments := false
  screenshots := false
  outputFolder := some "out"
  asJson := false
  setup := ⟨none, false, none, none, none⟩

/-- The file of the batch. -/
def sharedWorkspace : Workspace Unit :=
  { directory := ⟨[("cases.txt", .text "x\nX\n")], []⟩, page := () }

theorem run_loadBatch_shared : (loadBatch offline sharedArguments).run.run sharedWorkspace =
    (.ok [⟨"1", "x", none⟩, ⟨"2", "X", none⟩], sharedWorkspace) := by
  have asked : filled sharedArguments.file = some "cases.txt" := by decide
  have read : (Batch.ofFile sharedWorkspace.directory "cases.txt").entries =
      .ok [⟨"1", "x", none⟩, ⟨"2", "X", none⟩] := by decide
  exact run_loadBatch rfl asked (by decide) read

theorem run_setUp_shared : (setUp offline.settings sharedArguments.setup).run.run sharedWorkspace =
    (.ok ({}, none), sharedWorkspace) := rfl

/-- Two texts can be saved in the directory one over the other. -/
theorem exists_saves_shared (lost kept : String) : ∃ twice,
    Directory.Saves "out" sharedWorkspace.directory [("x.cy.js", lost), ("x.cy.js", kept)] twice ∧
      twice.openFile (join "out" "x.cy.js") = .ok (.text kept) := by
  have isName : IsName "x.cy.js" := ⟨⟨by decide, by decide⟩, by decide⟩
  let made : Directory := { sharedWorkspace.directory with folders := ["out"] }
  have makes : sharedWorkspace.directory.makeFolder "out" = .ok made := by decide
  have names : made.NamesFile (join "out" "x.cy.js") := by
    have located : made.locate (join "out" "x.cy.js") = .ok ["out", "x.cy.js"] := by decide
    exact .of_locate located (by decide) (by decide)
  obtain ⟨once, writes⟩ : ∃ once, made.writeText (join "out" "x.cy.js") lost = .ok once :=
    ⟨_, Directory.writeText_eq_ok_iff.mpr ⟨names, rfl⟩⟩
  have opened := Directory.openFile_of_writeText writes
  obtain ⟨twice, writes'⟩ := Directory.exists_writeText opened kept
  have remakes := Directory.makeFolder_eq_self (by decide) isName opened
  exact ⟨twice, .cons makes writes (.cons remakes writes' (.nil twice)),
    Directory.openFile_of_writeText writes'⟩

/-- The batch goes well, and the second code is in the file of both. -/
theorem exists_run_shared : ∃ lost kept : Generation, ∃ after : Workspace Unit,
    ({} : Generator).generate "x" "" Generator.sampleOptions = .ok lost ∧
    ({} : Generator).generate "X" "" Generator.sampleOptions = .ok kept ∧
    (runGenerate offline sharedArguments).run.run sharedWorkspace = (.ok 0, after) ∧
    lost.fileName = "x.cy.js" ∧ lost.code ≠ kept.code ∧
    after.directory.openFile (join "out" "x.cy.js") = .ok (.text kept.code) := by
  obtain ⟨lost, kept, generates, generates', ⟨clean, silent, named⟩, ⟨clean', silent', named'⟩,
    apart⟩ := exists_generate_letters
  obtain ⟨twice, allSaved, opened⟩ := exists_saves_shared lost.code kept.code
  have texts : [lost, kept].map saved = [("x.cy.js", lost.code), ("x.cy.js", kept.code)] := by
    rw [List.map_cons, List.map_cons, List.map_nil, saved, saved, named, named']
  rw [← texts] at allSaved
  have all := @run_mapM_generateEntry Unit sharedWorkspace offline.settings sharedArguments {} "out"
    [⟨"1", "x", none⟩, ⟨"2", "X", none⟩] _ _ (by decide) rfl
    (.cons ⟨generates, clean, silent⟩ (.cons ⟨generates', clean', silent'⟩ .nil)) allSaved
  refine ⟨lost, kept, _, generates, generates', (run_bind_of_ok run_loadBatch_shared _).trans
    ((run_bind_of_ok run_setUp_shared _).trans (run_bind_of_ok all _)), named, apart, opened⟩

/-! What is left of a batch -/

/-- After a batch that goes well each file that a test is said to be saved to holds the code of the
last test of its name; so it holds the code of every test exactly if tests that share a file have
the same code. -/
theorem forall_openFile_iff_of_runGenerate {surroundings : Surroundings σ}
    (saves : filled arguments.outputFolder = some folder) (plain : arguments.asJson = false)
    (done : (runGenerate surroundings arguments).run.run workspace = (.ok 0, after)) :
    ∃ entries loaded resolver data ready generations,
      (loadBatch surroundings arguments).run.run workspace = (.ok entries, loaded) ∧
      (setUp surroundings.settings arguments.setup).run.run loaded =
        (.ok (resolver, data), ready) ∧
      List.Forall₂ (IsGenerated surroundings.settings arguments ⟨resolver, data⟩) entries
        generations ∧
      after.output = (generations.map (report folder)).reverse ++ workspace.output ∧
      (∀ generation ∈ generations, ∃ kept,
        (generations.map saved).reverse.lookup generation.fileName = some kept ∧
          after.directory.openFile (join folder generation.fileName) = .ok (.text kept)) ∧
      ((∀ generation ∈ generations, after.directory.openFile (join folder generation.fileName) =
          .ok (.text generation.code)) ↔
        ∀ generation ∈ generations, ∀ other ∈ generations,
          generation.fileName = other.fileName → generation.code = other.code) := by
  obtain ⟨entries, loaded, resolver, data, ready, results, loads, sets, all, good⟩ :=
    exists_of_runGenerate done
  obtain ⟨generations, generated, allSaved, output⟩ := saves_of_mapM saves plain good all
  obtain ⟨-, unsaid⟩ := isQuiet_loadBatch _ _ _ _ _ loads
  obtain ⟨-, unspoken⟩ := isQuiet_setUp _ _ _ _ _ sets
  have areNames := isName_of_mem_saved generated
  have named : folder ≠ "" := ((filled_eq_some_iff _ _).mp saves).2
  rw [unspoken, unsaid] at output
  refine ⟨entries, loaded, resolver, data, ready, generations, loads, sets, generated, output,
    ?_, ?_⟩
  · intro generation member
    exact allSaved.exists_lookup named areNames (List.mem_map_of_mem (f := saved) member)
  · have whole := allSaved.forall_openFile_iff named areNames
    simp only [List.forall_mem_map] at whole
    exact whole

/-- Of two instructions that differ in a capital only one code is left, though both go well. -/
theorem forall_openFile_iff_shared :
    ∃ after, (runGenerate offline sharedArguments).run.run sharedWorkspace = (.ok 0, after) ∧
      ∃ generations : List Generation,
        after.output = (generations.map (report "out")).reverse ∧
        ((∀ generation ∈ generations, after.directory.openFile (join "out" generation.fileName) =
            .ok (.text generation.code)) ↔
          ∀ generation ∈ generations, ∀ other ∈ generations,
            generation.fileName = other.fileName → generation.code = other.code) := by
  obtain ⟨-, -, after, -, -, ran, -⟩ := exists_run_shared
  obtain ⟨_, _, _, _, _, generations, -, -, -, output, -, whole⟩ :=
    @forall_openFile_iff_of_runGenerate Unit _ _ _ "out" _ (by decide) rfl ran
  rw [show sharedWorkspace.output = [] from rfl, List.append_nil] at output
  exact ⟨after, ran, generations, output, whole⟩

/-- Not every code of a batch that goes well is in the file that it is said to be saved to. -/
theorem exists_batch_that_loses_code :
    ¬ ∀ (surroundings : Surroundings Unit) (arguments : GenerateArguments) (folder : String)
      (workspace loaded ready after : Workspace Unit) (entries : List BatchEntry)
      (resolver : Resolver) (data : Option TestData), arguments.origin = .file →
      filled arguments.outputFolder = some folder → arguments.asJson = false →
      (loadBatch surroundings arguments).run.run workspace = (.ok entries, loaded) →
      (setUp surroundings.settings arguments.setup).run.run loaded =
        (.ok (resolver, data), ready) →
      (runGenerate surroundings arguments).run.run workspace = (.ok 0, after) →
      ∀ entry ∈ entries, ∀ generation, Generator.generate ⟨resolver, data⟩ entry.prompt
          (firstFilled [entry.baseUrl, arguments.setup.baseUrl] surroundings.settings.baseUrl)
          (renderOptions surroundings.settings arguments) = .ok generation →
        after.directory.openFile (join folder generation.fileName) =
          .ok (.text generation.code) := by
  intro all
  obtain ⟨lost, kept, after, generates, -, ran, named, apart, opened⟩ := exists_run_shared
  have there := all offline sharedArguments "out" _ _ _ after _ _ _ rfl (by decide) rfl
    run_loadBatch_shared run_setUp_shared ran _ List.mem_cons_self lost generates
  rw [named, opened, Except.ok.injEq, Content.text.injEq] at there
  exact apart there.symm

end PlainScript.Command
