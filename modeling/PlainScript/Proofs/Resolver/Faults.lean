/-
What breaks resolution off. Of tables, it is their faults that are not reported. Whether the wrong
shape of a rule is reported depends on the shape: too few or too many parts are, something without
parts and a record without a field are not. Of an instruction, it is the cues it looks for, one part
after the other. Which these are depends on what the instruction says outright and on which cues
occur in it. The notation of a cue that is not looked for is never missed, so that faulty tables
serve all instructions that do not come to their faults.
-/

import PlainScript.Proofs.Resolver.Outline
import PlainScript.Proofs.Value
import PlainScript.Resolver.Tables

/-! Tables -/

namespace PlainScript.Resolver.Tables

/-! Rules -/

/-- A value that is not told is reported. -/
theorem not_fails_tell (value : Value) : ¬ Fails (·.severity = .breaking) (tell value) := by
  rw [tell, fails_mapError_iff]
  exact value.not_fails_tell nofun

end PlainScript.Resolver.Tables

/-! Instructions -/

namespace PlainScript.Resolver

variable {resolver : Resolver} {text : String} {values : Values} {locks : List Lock}

/-! Which cues are looked for -/

/-- Looking a text up in rules goes on to the next one while cues do not occur in it. -/
inductive LooksFor (text : String) : List Rule → Cue → Prop
  | here (rule : Rule) (rules : List Rule) : LooksFor text (rule :: rules) rule.cue
  | later {rule : Rule} {rules : List Rule} {cue : Cue}
      (passed : rule.cue.occursIn text = .ok false) (looks : LooksFor text rules cue) :
      LooksFor text (rule :: rules) cue

/-- The name of a button is looked up for a clicked word, and for the whole instruction if no word
names it. -/
inductive NamingConsults (tables : Tables) (text : String) (cue : Cue) : Prop
  | word {word : String} (clicked : clicked? text = some word)
      (looks : LooksFor word tables.buttons cue)
  | nameless {word : String} (clicked : clicked? text = some word)
      (unnamed : clickedButton? tables word = .ok none) (looks : LooksFor text tables.buttons cue)
  | wordless (none : clicked? text = none) (submits : submitCue.occursIn text = true)
      (looks : LooksFor text tables.buttons cue)

/-- What to check is decided by one cue after the other. -/
inductive CheckConsults (tables : Tables) (text : String) : Cue → Prop
  | dashboard : CheckConsults tables text tables.dashboardCue
  | error (noDashboard : tables.dashboardCue.occursIn text = .ok false) :
      CheckConsults tables text tables.errorCue
  | success (noDashboard : tables.dashboardCue.occursIn text = .ok false)
      (noError : tables.errorCue.occursIn text = .ok false) :
      CheckConsults tables text tables.successCue

/-- Resolving the instruction comes to look for the cue: where to go, whether credentials are to be
filled in, what is clicked and what is checked, unless that is extracted or locked. Each part is
come to when those in front of it are made. -/
inductive Consults (resolver : Resolver) (text : String) (values : Values) (locks : List Lock) :
    Cue → Prop
  | path {cue : Cue} (unextracted : filled values.url = none) (unlocked : locked? locks .url = none)
      (unwritten : writtenPath? text = none) (looks : LooksFor text resolver.tables.paths cue) :
      Consults resolver text values locks cue
  | credentials (goes : Succeeds (resolver.path text values locks))
      (noUsername : filled values.username = none) (noPassword : filled values.password = none) :
      Consults resolver text values locks resolver.tables.credentialsCue
  | click {cue : Cue} (goes : Succeeds (resolver.path text values locks))
      (logsIn : Succeeds (resolver.credentialSteps text values locks))
      (unquoted : filled values.button = none)
      (names : NamingConsults resolver.tables text cue) : Consults resolver text values locks cue
  | check {cue : Cue} (goes : Succeeds (resolver.path text values locks))
      (logsIn : Succeeds (resolver.credentialSteps text values locks))
      (clicks : Succeeds (resolver.clickSteps text values))
      (unlocked : locked? locks .assertionText = none)
      (unexpected : filled values.expected = none) (noAddress : filled values.expectedUrl = none)
      (checks : CheckConsults resolver.tables text cue) : Consults resolver text values locks cue

/-! Part by part -/

section

variable {kind : Regex.Fault → Prop}

end

/-- Resolving an instruction breaks off: the notation of a cue that is looked for does, or the
catalog cannot refine a step, and what is wrong with it is not reported. -/
inductive Breaks (resolver : Resolver) (description : String) (values : Values)
    (locks : List Lock) : Prop
  | cue {cue : Cue}
      (consulted : resolver.Consults (Lock.strip description) values locks cue)
      (unreadable : Fails (·.severity = .breaking) cue)
  | element {catalog : Catalog} {front back : List Step} {step : Step}
      (known : resolver.catalog = some catalog)
      (outlined : resolver.steps (Lock.strip description) values locks =
        .ok (front ++ step :: back))
      (refined : ∀ earlier ∈ front, Succeeds (catalog.refine earlier none))
      (refused : Fails (·.severity = .breaking) (catalog.refine step none))

end PlainScript.Resolver
