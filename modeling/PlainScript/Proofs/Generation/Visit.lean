/-
Where a test begins whose instruction spells out an address: at the address as it is written, unless
its scheme has capitals, or another letter that counts as equal, and there is a base address.
-/

import PlainScript.Proofs.Generation.Success
import PlainScript.Proofs.Instruction.WebAddress
import PlainScript.Proofs.Literal.Spelling
import PlainScript.Proofs.Render.Unbroken
import PlainScript.Proofs.Resolver.Outline
import PlainScript.Proofs.Run.Destination

namespace PlainScript

/-! The line that visits an address -/

namespace Dialect

/-- The words before and behind the literal of an address that is visited. -/
def visitWords : Dialect → String × String
  | playwrightTypeScript | playwrightJavaScript => ("await page.goto(", ");")
  | playwrightPython => ("page.goto(", ")")
  | seleniumPython => ("driver.get(", ")")
  | seleniumJava => ("driver.get(", ");")
  | cypressTypeScript | cypressJavaScript => ("cy.visit(", ");")

/-- The marks around literals, where nothing speaks against them. -/
def asked (dialect : Dialect) : Literal.Mark :=
  if dialect.framework = .selenium then .double else .single

/-- The line that visits an address, with the literal of the address. -/
def visitLine (dialect : Dialect) (literal : String) : String :=
  dialect.visitWords.1 ++ literal ++ dialect.visitWords.2

variable {dialect : Dialect} {base url : String}

theorem line_goto (dialect : Dialect) (address : String) :
    dialect.line (.goto address) = dialect.visitLine (dialect.asked.literal address) := by
  cases dialect <;> rfl

theorem stepLine_goto (dialect : Dialect) (base : String) (nonempty : url ≠ "") :
    dialect.stepLine base (.goto url) =
      dialect.indent ++ dialect.visitLine (dialect.asked.literal (targetUrl base url)) := by
  have given : filled (Step.goto url).path = some url := (filled_eq_some_iff _ _).mpr ⟨rfl, nonempty⟩
  have goes : (Step.goto url).kind? = some .goto := rfl
  rw [stepLine, statement, goes, given, ← line_goto]

/-- The code of a case that begins with a visit. -/
theorem exists_code_goto (dialect : Dialect) (options : RenderOptions) (heading : Heading)
    (timeout : String) (nonempty : url ≠ "") (later : List Step) :
    ∃ rest, dialect.code options ⟨heading, .goto url :: later⟩ timeout =
      "\n".intercalate (dialect.prelude options heading timeout ++
        (if options.includeComments then [dialect.stepComment 1 (.goto url)] else []) ++
        (dialect.indent ++
          dialect.visitLine (dialect.asked.literal (targetUrl heading.baseUrl url))) :: rest) ++
        "\n" := by
  refine ⟨(if options.includeScreenshots then [dialect.stepPicture 1 (.goto url)] else []) ++
    (later.zipIdx 2).flatMap (fun entry =>
      dialect.stepLines options heading.baseUrl entry.2 entry.1) ++ dialect.closing, ?_⟩
  have first : dialect.stepsLines options ⟨heading, .goto url :: later⟩ =
      dialect.stepLines options heading.baseUrl 1 (.goto url) ++
        (later.zipIdx 2).flatMap fun entry =>
          dialect.stepLines options heading.baseUrl entry.2 entry.1 := by
    rw [stepsLines, List.zipIdx_cons, List.flatMap_cons]
  rw [code, lines, first, stepLines_eq, stepLine_goto dialect heading.baseUrl nonempty]
  simp only [List.append_assoc, List.cons_append, List.nil_append]

end Dialect

/-! Where an address leads -/

theorem letter_mem_of_isWebAddress {base : String} (written : isWebAddress base = true) :
    'h' ∈ base.toList := by
  rw [isWebAddress, Bool.or_eq_true] at written
  rcases written with begins | begins
  all_goals
    rw [Text.startsWith, List.isPrefixOf_iff_prefix] at begins
    exact begins.subset (by simp)

/-- An address is left as it is exactly if it begins with its scheme in small letters, or if there is
no base address that does. -/
theorem targetUrl_eq_self_iff (base url : String) :
    targetUrl base url = url ↔ isWebAddress url = true ∨ isWebAddress base = false := by
  rw [targetUrl]
  by_cases absolute : isWebAddress url = true
  · simp [absolute]
  · by_cases written : isWebAddress base = true
    · have apart := joinUrl_ne_self (letter_mem_of_isWebAddress written) (by decide) url
      simp [absolute, written, apart]
    · simp [absolute, written]

/-- Otherwise it is taken for a path below the base address. -/
theorem targetUrl_eq_joinUrl {base url : String} (moved : targetUrl base url ≠ url) :
    targetUrl base url = joinUrl base url := by
  rw [Ne, targetUrl_eq_self_iff, not_or, Bool.not_eq_true, Bool.not_eq_false] at moved
  rw [targetUrl, moved.1, moved.2, if_neg Bool.false_ne_true, if_pos rfl]

namespace Resolver

open Dialect Extraction

variable {resolver : Resolver} {values : Values} {locks : List Lock} {text url : String}

/-- The outline of a case begins at the address that is given. -/
theorem path_of_url (given : filled values.url = some url) (text : String) :
    resolver.path text values locks = .ok url := by
  rw [path, given]

theorem path_of_steps {outline : Outline} {place : String → Locator}
    (given : filled values.url = some url)
    (made : resolver.steps text values locks = .ok (outline.steps place)) :
    outline.path = url := by
  rw [Resolver.steps, path_of_url given] at made
  obtain ⟨path, found, made⟩ := Except.exists_of_bind_eq_ok made
  obtain ⟨credentials, -, made⟩ := Except.exists_of_bind_eq_ok made
  obtain ⟨clicks, -, made⟩ := Except.exists_of_bind_eq_ok made
  obtain ⟨assertion, -, made⟩ := Except.exists_of_bind_eq_ok made
  obtain rfl := Except.ok.inj found
  have first := congrArg List.head? (Except.ok.inj made)
  rw [Outline.steps] at first
  exact (Option.some.inj (Step.mk.inj (Option.some.inj first)).2.1).symm

/-- Only the first step of an outline is a visit. -/
theorem Outline.steps_eq_cons (outline : Outline) (place : String → Locator) :
    ∃ later, outline.steps place = .goto outline.path :: later ∧
      ∀ step ∈ later, step.kind? ≠ some .goto := by
  refine ⟨(outline.steps place).tail, rfl, fun step member => ?_⟩
  simp only [Outline.steps, List.cons_append, List.tail_cons, List.mem_append, List.mem_flatMap,
    List.mem_map, Option.mem_toList, List.mem_cons, List.not_mem_nil, or_false] at member
  rcases member with ((⟨texts, -, rfl | rfl⟩ | ⟨typed, -, rfl⟩) | ⟨name, -, rfl⟩) |
    ⟨assertion, -, rfl⟩
  all_goals
    intro visits
    cases visits

/-- An address that an instruction spells out is visited first and only once, and the literal in that
line of code is read as the address it leads to. This is the one that is spelled out exactly if that
begins with its scheme in small letters or the base address does not; otherwise it is a path below the
base address. There is code exactly if the timeout can be told. -/
theorem exists_visit_of_url (readable : resolver.tables.AreReadable)
    (textual : ∀ catalog ∈ resolver.catalog, catalog.IsTextual) {text url : String}
    (given : (extract text).url = some url) (base : String) (locks : List Lock)
    {options : RenderOptions} {dialect : Dialect}
    (supported : Dialect.find options.framework options.language = .ok dialect) :
    ∃ case later address,
      resolver.resolve text (extract text) base locks = .ok case ∧
      case.steps = .goto url :: later ∧ (∀ step ∈ later, step.kind? ≠ some .goto) ∧
      ((∃ generated, render case options = .ok generated) ↔ dialect.Tells options.timeout) ∧
      (∀ generated, render case options = .ok generated → ∃ timeout rest,
        generated.code = "\n".intercalate (dialect.prelude options case.heading timeout ++
          (if options.includeComments then [dialect.stepComment 1 (.goto url)] else []) ++
          (dialect.indent ++ dialect.visitLine (dialect.asked.literal address)) :: rest) ++ "\n") ∧
      (∀ back, Literal.read ((dialect.asked.literal address).toList ++ back) =
        some (address.toList, back)) ∧
      (address = url ↔ isWebAddress url = true ∨ isWebAddress base = false) ∧
      (address ≠ url → address = joinUrl base url) := by
  have nonempty := (isVisible_of_url given).1
  have filledUrl : filled (extract text).url = some url :=
    (filled_eq_some_iff _ _).mpr ⟨given, nonempty⟩
  obtain ⟨outline, -, made⟩ := exists_steps readable (Lock.strip text) (extract text) locks
  obtain ⟨place, -, refined⟩ := exists_refine_steps textual outline
  obtain ⟨later, steps, others⟩ := outline.steps_eq_cons place
  rw [path_of_steps filledUrl made] at steps
  rw [steps] at refined
  refine ⟨⟨heading text base, .goto url :: later⟩, later, targetUrl base url,
    resolve_of_steps made refined, rfl, others, exists_render_iff supported _, ?_, ?_,
    targetUrl_eq_self_iff base url, targetUrl_eq_joinUrl⟩
  · intro generated rendered
    obtain ⟨timeout, -, written⟩ := exists_code_of_render supported rendered
    obtain ⟨rest, code⟩ :=
      dialect.exists_code_goto options (heading text base) timeout nonempty later
    exact ⟨timeout, rest, written.trans code⟩
  · intro back
    rw [Literal.Mark.toList_literal]
    exact Literal.read_quoteChars_append _ _ _

/-- An address whose scheme is in capitals is visited below the base address. -/
theorem exists_visit_of_url_in_capitals :
    (extract "go to HTTP://x.test/a").url = some "HTTP://x.test/a" ∧
    ∃ case later generated timeout rest address,
      ({} : Resolver).resolve "go to HTTP://x.test/a" (extract "go to HTTP://x.test/a")
        "https://app.test" [] = .ok case ∧
      case.steps = .goto "HTTP://x.test/a" :: later ∧
      (∀ step ∈ later, step.kind? ≠ some .goto) ∧
      render case Generator.sampleOptions = .ok generated ∧
      generated.code = "\n".intercalate
        (cypressJavaScript.prelude Generator.sampleOptions case.heading timeout ++
          (cypressJavaScript.indent ++
            cypressJavaScript.visitLine (cypressJavaScript.asked.literal address)) :: rest) ++
          "\n" ∧
      (∀ back, Literal.read ((cypressJavaScript.asked.literal address).toList ++ back) =
        some (address.toList, back)) ∧
      address = "https://app.test/HTTP://x.test/a" := by
  have given : (extract "go to HTTP://x.test/a").url = some "HTTP://x.test/a" := by decide +kernel
  obtain ⟨case, later, address, resolved, steps, others, written, shape, read, kept, moved⟩ :=
    @exists_visit_of_url {} Tables.areReadable_usual nofun _ _ given "https://app.test" []
      Generator.sampleOptions .cypressJavaScript (by decide +kernel)
  obtain ⟨generated, rendered⟩ := written.mpr (exists_timeoutText_iff.mp ⟨"30000", rfl⟩)
  obtain ⟨timeout, rest, code⟩ := shape generated rendered
  refine ⟨given, case, later, generated, timeout, rest, address, resolved, steps, others, rendered,
    ?_, read, ?_⟩
  · rw [code]
    simp [Generator.sampleOptions]
  · have apart : address ≠ "HTTP://x.test/a" := by
      rw [Ne, kept]
      decide +kernel
    rw [moved apart]
    decide +kernel

/-- Not every address that is spelled out is the one in the code. -/
theorem exists_url_ne_read_literal :
    ¬ ∀ (text url base literal : String) (dialect : Dialect) (case : TestCase),
      (extract text).url = some url →
      ({} : Resolver).resolve text (extract text) base (Lock.ofText text) = .ok case →
      (case.steps.map (dialect.stepLine base)).head? =
        some (dialect.indent ++ dialect.visitLine literal) →
      Literal.read literal.toList = some (url.toList, []) := by
  intro all
  have resolved : ({} : Resolver).resolve "go to HTTP://x.test/a" (extract "go to HTTP://x.test/a")
      "https://app.test" (Lock.ofText "go to HTTP://x.test/a") =
      .ok ⟨heading "go to HTTP://x.test/a" "https://app.test", [.goto "HTTP://x.test/a"]⟩ := by
    decide +kernel
  have read := all _ "HTTP://x.test/a" _ "'https://app.test/HTTP://x.test/a'" .cypressJavaScript _
    (by decide +kernel) resolved (by decide +kernel)
  revert read
  decide +kernel

end Resolver

end PlainScript
