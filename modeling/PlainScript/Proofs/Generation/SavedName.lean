/-
The file that a test is to be saved in. Whoever is given the code is told its name with the setup,
and a generation that is saved takes the name of its test. For Java these are two names when there
is a digit in front: the class, and the file that the setup names after it, have a word before the
digit that the generation's own file has not.
-/

import PlainScript.Proofs.Generation.Carried
import PlainScript.Proofs.Generation.Contract
import PlainScript.Proofs.Generation.FileName

namespace PlainScript

namespace Setup

/-- The file that a line tells to save the test in, without the folder that it is to be in. -/
def savedName? (line : String) : Option String :=
  ((Text.after? line "Save the test as ").or (Text.after? line "Save as ")).bind fun path =>
    (File.pieces path).getLast?

/-- The files that the lines tell to save the test in. -/
def savedNames (lines : List String) : List String := lines.filterMap savedName?

/-- A line about anything else names no file. -/
theorem savedName?_eq_none {line : String} (other : line.toList.head? ≠ some 'S') :
    savedName? line = none := by
  have unstarted (opening : List Char) :
      Text.after? line (String.ofList ('S' :: opening)) = none := by
    rw [Text.after?, Text.startsWith, String.toList_ofList, if_neg]
    rw [List.isPrefixOf_iff_prefix]
    rintro ⟨rest, same⟩
    rw [← same] at other
    exact other rfl
  rw [savedName?, unstarted, unstarted]
  rfl

theorem after?_append (opening path : String) :
    Text.after? (opening ++ path) opening = some path := by
  have starts : Text.startsWith (opening ++ path) opening = true := by
    rw [Text.startsWith, String.toList_append, List.isPrefixOf_iff_prefix]
    exact List.prefix_append _ _
  rw [Text.after?, if_pos starts, String.toList_append, List.drop_left, String.ofList_toList]

/-- A file is told by its name, in a folder or in none. -/
theorem savedName?_append {opening name : String} (folder : String)
    (tells : opening = "Save the test as " ∨ opening = "Save as ")
    (inFolder : folder = "" ∨ folder = "cypress/e2e/") (unslashed : '/' ∉ name.toList) :
    savedName? (opening ++ folder ++ name) = some name := by
  have last : (File.pieces (folder ++ name)).getLast? = some name := by
    rcases inFolder with rfl | rfl
    · rw [String.empty_append, File.pieces_eq_singleton unslashed]
      rfl
    · have parted : "cypress/e2e/" = "cypress" ++ "/" ++ "e2e" ++ "/" := by decide
      rw [parted, File.pieces_append_slash_append, File.pieces_eq_singleton unslashed,
        List.getLast?_concat]
  have unmixed (path : String) :
      Text.after? ("Save as " ++ path) "Save the test as " = none := by
    rw [Text.after?, Text.startsWith, String.toList_append, if_neg]
    rw [String.toList_ofList, String.toList_ofList]
    exact Bool.false_ne_true
  rw [String.append_assoc, savedName?]
  rcases tells with rfl | rfl
  · rw [after?_append, Option.some_or, Option.bind_some, last]
  · rw [unmixed, after?_append, Option.none_or, Option.bind_some, last]

end Setup

namespace Dialect

/-- The setup tells to save the test in one file. -/
theorem savedNames_setup {dialect : Dialect} {heading : Heading}
    (unslashed : '/' ∉ (dialect.fileName heading).toList) :
    Setup.savedNames (dialect.setup heading) = [dialect.fileName heading] := by
  have test : Setup.savedName? ("Save the test as " ++ dialect.fileName heading) =
      some (dialect.fileName heading) := by
    simpa using Setup.savedName?_append "" (.inl rfl) (.inl rfl) unslashed
  have plain : Setup.savedName? ("Save as " ++ dialect.fileName heading) =
      some (dialect.fileName heading) := by
    simpa using Setup.savedName?_append "" (.inr rfl) (.inl rfl) unslashed
  have folder : Setup.savedName? ("Save as cypress/e2e/" ++ dialect.fileName heading) =
      some (dialect.fileName heading) := by
    have parted : "Save as cypress/e2e/" = "Save as " ++ "cypress/e2e/" := by decide
    rw [parted]
    exact Setup.savedName?_append _ (.inr rfl) (.inr rfl) unslashed
  have run : Setup.savedName? ("Run with: python " ++ dialect.fileName heading) = none := by
    refine Setup.savedName?_eq_none ?_
    rw [String.toList_append, List.head?_append_of_ne_nil _ (by simp)]
    decide
  cases dialect <;>
    simp (disch := decide) only [setup, Setup.savedNames, List.filterMap_cons,
      List.filterMap_nil, Setup.savedName?_eq_none, test, plain, folder, run]

/-- A line of Java code declares the class, whatever stands in the lines around it. -/
theorem class_mem_lines (options : RenderOptions) {case : TestCase} (timeout : String)
    (identifier : Name.IsIdentifier (className case.heading)) :
    "public class " ++ className case.heading ++ " \x7b" ∈
      Text.lines (seleniumJava.code options case timeout) := by
  generalize same : "public class " ++ className case.heading ++ " \x7b" = line
  have member : line ∈ seleniumJava.lines options case timeout := by
    rw [lines, prelude, ← same]
    simp
  have unbroken : ∀ c ∈ line.toList, Text.isLineEnd c = false := by
    have unblank : ∀ c ∈ line.toList, c = ' ' ∨ Text.isBlank c = false := by
      rw [← same, String.toList_append, String.toList_append]
      simp only [List.forall_mem_append]
      refine ⟨⟨?_, fun c member => .inr (identifier.isBlank_eq_false c member)⟩, ?_⟩ <;> decide
    intro c inside
    rcases unblank c inside with rfl | unblank
    · rfl
    · rw [← Bool.not_eq_true] at unblank ⊢
      exact fun ends => unblank (Text.isBlank_of_isLineEnd ends)
  have feed : "\n".toList = ['\n'] := rfl
  rw [Text.lines, List.mem_map]
  refine ⟨line.toList, ?_, String.ofList_toList⟩
  rw [code, String.toList_append, String.toList_intercalate, feed]
  exact Chars.mem_lines_intercalate (List.mem_map_of_mem member) unbroken

end Dialect

namespace Generation

/-- The file is to hold a Java class, and the test is called by a digit first. -/
def IsMisnamed (generation : Generation) : Prop :=
  Dialect.find generation.framework generation.language = .ok .seleniumJava ∧
    Name.startsWithDigit generation.testName.toList = true

/-- The name of the file that a generation takes, next to the one that the setup gives. -/
theorem fileName_dialect_eq {generation : Generation} {dialect : Dialect} {heading : Heading}
    (known : Dialect.find generation.framework generation.language = .ok dialect)
    (named : heading.name = generation.testName) (snake : Name.IsSnake generation.testName) :
    dialect.fileName heading =
      if dialect = .seleniumJava ∧ Name.startsWithDigit generation.testName.toList = true then
        "Generated" ++ generation.fileName
      else generation.fileName := by
  unfold fileName
  rw [known]
  cases dialect with
  | seleniumJava =>
      dsimp only
      rw [Dialect.fileName, Dialect.className, named, snake.camel_eq]
      have parted : "Test.java" = "Test" ++ ".java" := by decide
      simp only [true_and, parted]
      split <;> simp only [String.append_assoc]
  | _ =>
      rw [if_neg (by rintro ⟨⟨⟩, -⟩), ← named]
      rfl

end Generation

namespace Generator

variable {generator : Generator} {text baseUrl : String} {options : RenderOptions}
  {generation : Generation}

/-- A case that is rendered and checked without problems has its code, in the same dialect. -/
theorem exists_render_of_finish {instruction : String} {locks : List Lock} {case : TestCase}
    {started : Generation}
    (finished : generator.finish instruction locks case options started = .ok generation)
    (clean : generation.problems = []) :
    ∃ generated, render case options = .ok generated ∧ generation.code = generated.code ∧
      generation.framework = started.framework ∧ generation.language = started.language := by
  rcases finish_eq_ok_iff.mp finished with ⟨cause, -, rfl⟩ | ⟨generated, rendered, rfl⟩
  · cases clean
  · refine ⟨generated, rendered, ?_⟩
    rw [conclude] at clean ⊢
    dsimp only at clean ⊢
    split_ifs at clean ⊢ with strict none
    · exact ⟨rfl, rfl, rfl⟩
    · exact absurd (List.isEmpty_iff.mpr clean) none
    · exact ⟨rfl, rfl, rfl⟩

/-- A generation without problems has a case, and the code of the case in the dialect. -/
theorem exists_render_of_generate (done : generator.generate text baseUrl options = .ok generation)
    (clean : generation.problems = []) :
    ∃ case generated dialect, generation.case? = some case ∧
      render case options = .ok generated ∧ generation.code = generated.code ∧
      Dialect.find generation.framework generation.language = .ok dialect ∧
      (∃ timeout, generated.code = dialect.code options case timeout) ∧
      generated.setup = dialect.setup case.heading := by
  obtain ⟨case, resolved⟩ : ∃ case, generation.case? = some case := by
    cases ends_of_generate done with
    | rendered _ _ _ resolved => exact Option.ne_none_iff_exists'.mp resolved
    | early _ _ found | unsupported _ _ found | deviant _ _ found => exact absurd clean found
  obtain ⟨generated, rendered, code, framework, language⟩ :=
    exists_render_of_finish (finish_of_generate done resolved) clean
  obtain ⟨dialect, known⟩ := exists_dialect_of_render rendered
  refine ⟨case, generated, dialect, resolved, rendered, code, ?_, ?_⟩
  · rw [framework, language]
    exact known
  · obtain ⟨timeout, -, rfl⟩ := (render_eq_ok_iff known).mp rendered
    exact ⟨⟨timeout, rfl⟩, rfl⟩

/-- A generation without problems is saved in the file that its setup names, unless it is a Java
class and the instruction begins with a digit; then the setup names the file of the class that the
code declares, and the generation's own file lacks the word in front. -/
theorem told_eq_fileName_iff (done : generator.generate text baseUrl options = .ok generation)
    (clean : generation.problems = []) :
    ∃ case generated told, generation.case? = some case ∧
      render case options = .ok generated ∧ generation.code = generated.code ∧
      Setup.savedNames generated.setup = [told] ∧
      (Dialect.find generation.framework generation.language = .ok .seleniumJava →
        ∃ cls, told = cls ++ ".java" ∧
          "public class " ++ cls ++ " \x7b" ∈ Text.lines generation.code) ∧
      (told = generation.fileName ↔ ¬ generation.IsMisnamed) ∧
      (generation.IsMisnamed → told = "Generated" ++ generation.fileName) := by
  obtain ⟨case, generated, dialect, resolved, rendered, same, known, ⟨timeout, code⟩, setup⟩ :=
    exists_render_of_generate done clean
  have snake : Name.IsSnake generation.testName := by
    rw [testName_of_generate done clean]
    exact Name.isSnake_derive _
  have named : case.heading.name = generation.testName := by
    rw [Generation.testName, resolved]
  have told := Generation.fileName_dialect_eq known named snake
  have misnamed : generation.IsMisnamed ↔
      dialect = .seleniumJava ∧ Name.startsWithDigit generation.testName.toList = true := by
    rw [Generation.IsMisnamed, known, Except.ok.injEq]
  have unslashed : '/' ∉ (dialect.fileName case.heading).toList := by
    have plain := (Generation.isPlain_fileName snake).isName.slash_notMem
    rw [told]
    split
    · rw [String.toList_append, List.mem_append, not_or]
      exact ⟨by decide, plain⟩
    · exact plain
  refine ⟨case, generated, dialect.fileName case.heading, resolved, rendered, same, ?_, ?_, ?_, ?_⟩
  · rw [setup]
    exact Dialect.savedNames_setup unslashed
  · intro java
    obtain rfl : dialect = .seleniumJava := Except.ok.inj (known.symm.trans java)
    refine ⟨Dialect.className case.heading, rfl, ?_⟩
    rw [same, code]
    refine Dialect.class_mem_lines options timeout ?_
    rw [Dialect.className, named]
    exact snake.isIdentifier_class
  · rw [misnamed, told]
    split
    · rename_i digit
      simp [digit]
    · rename_i other
      simp [other]
  · rw [misnamed]
    intro digit
    rw [told, if_pos digit]

/-! A sample: an instruction with a digit in front, for a Java class -/

def javaOptions : RenderOptions := { framework := "selenium", language := "java" }

def numberedText : String := "404 page"

def numberedCase : TestCase :=
  ⟨⟨"404_page", "http://a", some numberedText, []⟩, [.goto "/"]⟩

/-- A generator in legacy mode, which takes the code as it is. -/
def legacy : Generator := { resolver := { strictness := .legacy } }

/-- The setup names the file of the class, and the generation another one. -/
theorem exists_generation_told_otherwise :
    ∃ generation generated,
      legacy.generate numberedText "http://a" javaOptions = .ok generation ∧
      generation.problems = [] ∧ generation.case? = some numberedCase ∧
      render numberedCase javaOptions = .ok generated ∧ generation.code = generated.code ∧
      Setup.savedNames generated.setup = ["Generated404PageTest.java"] ∧
      generation.fileName = "404PageTest.java" := by
  have resolved : legacy.resolver.resolve numberedText (Extraction.extract numberedText)
      "http://a" (Lock.ofText numberedText) = .ok numberedCase := by
    decide
  have early : legacy.earlyProblems numberedText (Lock.ofText numberedText) = [] := rfl
  have done := @generate_eq_of_early legacy numberedText "http://a" javaOptions early
  have same : legacy.substitute numberedText = numberedText := rfl
  rw [same, resolved] at done
  exact ⟨_, _, done, rfl, rfl, rfl, rfl, by decide, by decide⟩

/-- An instruction with a letter in front, in strict mode. -/
theorem told_eq_fileName_sampleText :
    ∃ generation case generated,
      ({} : Generator).generate sampleText "http://a" sampleOptions = .ok generation ∧
      generation.case? = some case ∧ render case sampleOptions = .ok generated ∧
      generation.code = generated.code ∧
      Setup.savedNames generated.setup = [generation.fileName] := by
  have done := addressSample.generate_eq_success problems_addressSample
  obtain ⟨case, generated, told, resolved, rendered, code, saved, -, same, -⟩ :=
    told_eq_fileName_iff done rfl
  rw [same.mpr fun misnamed => absurd misnamed.1 (by decide)] at saved
  exact ⟨_, case, generated, done, resolved, rendered, code, saved⟩

end Generator

end PlainScript
