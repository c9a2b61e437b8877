/-
What acts do to a workspace: which of them only add to the log, and what those leave that print
or write.
-/

import PlainScript.Command.Session
import PlainScript.Proofs.Computation

namespace PlainScript.Command

variable {σ α β : Type} {workspace after : Workspace σ}

/-! Acts that only add to the log -/

/-- The act leaves the files and what has been printed as they are. -/
def IsQuiet (act : Act σ α) : Prop :=
  ∀ workspace ended after, act.run.run workspace = (ended, after) →
    after.directory = workspace.directory ∧ after.output = workspace.output

theorem isQuiet_pure (value : α) : IsQuiet (pure value : Act σ α) := by
  rintro workspace ended after ⟨⟩
  exact ⟨rfl, rfl⟩

theorem isQuiet_throw (fault : Fault) : IsQuiet (throw fault : Act σ α) := by
  rintro workspace ended after ⟨⟩
  exact ⟨rfl, rfl⟩

theorem isQuiet_get : IsQuiet (get : Act σ (Workspace σ)) := by
  rintro workspace ended after ⟨⟩
  exact ⟨rfl, rfl⟩

theorem run_get (workspace : Workspace σ) :
    (get : Act σ _).run.run workspace = (.ok workspace, workspace) :=
  rfl

theorem isQuiet_record (log : LogRecord) : IsQuiet (record log : Act σ Unit) := by
  rintro workspace ended after ⟨⟩
  exact ⟨rfl, rfl⟩

theorem isQuiet_expect {ε : Type} (cause : ε → Fault) (result : Except ε α) :
    IsQuiet (expect cause result : Act σ α) := by
  cases result with
  | ok value => exact isQuiet_pure value
  | error fault => exact isQuiet_throw _

theorem IsQuiet.bind {first : Act σ α} {next : α → Act σ β} (quiet : IsQuiet first)
    (quietNext : ∀ value, IsQuiet (next value)) : IsQuiet (first >>= next) := by
  intro workspace ended after done
  rcases run : first.run.run workspace with ⟨fault | value, middle⟩
  · rw [run_bind_of_error run] at done
    cases done
    exact quiet _ _ _ run
  · rw [run_bind_of_ok run] at done
    obtain ⟨directory, output⟩ := quiet _ _ _ run
    obtain ⟨directory', output'⟩ := quietNext value _ _ _ done
    exact ⟨directory'.trans directory, output'.trans output⟩

theorem isQuiet_forM {act : β → Act σ Unit} (quiet : ∀ value, IsQuiet (act value))
    (values : List β) : IsQuiet (values.forM act) := by
  induction values with
  | nil => exact isQuiet_pure ()
  | cons value values ih => exact (quiet value).bind fun _ => ih

theorem exists_run_forM_record (log : β → LogRecord) (values : List β) (workspace : Workspace σ) :
    ∃ noticed, (values.forM fun value => record (log value) : Act σ Unit).run.run workspace =
      (.ok (), noticed) := by
  induction values generalizing workspace with
  | nil => exact ⟨workspace, rfl⟩
  | cons value values ih =>
      obtain ⟨noticed, run⟩ := ih { workspace with log := log value :: workspace.log }
      exact ⟨noticed, (run_bind_of_ok rfl _).trans run⟩

theorem isQuiet_warnAll (messages : List String) : IsQuiet (warnAll messages : Act σ Unit) :=
  isQuiet_forM (fun _ => isQuiet_record _) messages

theorem isQuiet_loadData (path : Option String) :
    IsQuiet (loadData path : Act σ (Option TestData)) := by
  unfold loadData
  split
  · exact isQuiet_pure _
  · exact isQuiet_get.bind fun _ => (isQuiet_expect _ _).bind fun _ => isQuiet_pure _

theorem isQuiet_loadResolver (settings : Settings) (options : ResolverOptions) :
    IsQuiet (loadResolver settings options : Act σ Resolver) :=
  isQuiet_get.bind fun _ => (isQuiet_expect _ _).bind fun _ =>
    (isQuiet_warnAll _).bind fun _ => isQuiet_expect _ _

theorem isQuiet_setUp (settings : Settings) (setup : SetupArguments) :
    IsQuiet (setUp settings setup : Act σ (Resolver × Option TestData)) :=
  (isQuiet_loadData _).bind fun _ => (isQuiet_loadResolver _ _).bind fun _ => isQuiet_pure _

/-! Acts that print or write -/

theorem output_of_printLine {text : String} {ended : Except Fault Unit}
    (done : (printLine text : Act σ Unit).run.run workspace = (ended, after)) :
    after.directory = workspace.directory ∧ after.output = (text ++ "\n") :: workspace.output := by
  cases done
  exact ⟨rfl, rfl⟩

/-- What is expected and comes was there. -/
theorem eq_ok_of_expect {ε : Type} {cause : ε → Fault} {result : Except ε α} {value : α}
    (done : (expect cause result : Act σ α).run.run workspace = (.ok value, after)) :
    result = .ok value ∧ workspace = after := by
  cases result with
  | error fault => cases done
  | ok found =>
      cases done
      exact ⟨rfl, rfl⟩

/-- A change of the directory that is made succeeds on it, and changes nothing else. -/
theorem directory_of_change {make : Directory → Except File.Fault Directory}
    (done : (change make : Act σ Unit).run.run workspace = (.ok (), after)) :
    make workspace.directory = .ok after.directory ∧ after.output = workspace.output := by
  obtain ⟨found, start, got, done⟩ := exists_of_run_bind_eq_ok done
  cases got
  obtain ⟨directory, middle, made, done⟩ := exists_of_run_bind_eq_ok done
  obtain ⟨changes, rfl⟩ := eq_ok_of_expect made
  cases done
  exact ⟨changes, rfl⟩

/-- A change of the directory that can be made is made. -/
theorem run_change {make : Directory → Except File.Fault Directory} {directory : Directory}
    (made : make workspace.directory = .ok directory) :
    (change make : Act σ Unit).run.run workspace = (.ok (), { workspace with directory }) := by
  have expected : (expect .file (make workspace.directory) : Act σ Directory).run.run workspace =
      (.ok directory, workspace) := by
    rw [made]
    rfl
  exact run_bind_of_ok rfl _ |>.trans (run_bind_of_ok expected _)

/-! A place to run commands in -/

/-- An operation on a page that does not answer. -/
def unanswered {α : Type} : PageAct Unit α := throw ⟨false, "closed"⟩

/-- Usual settings, and nothing outside that answers. -/
def offline : Surroundings Unit where
  settings := {}
  reply _ := .unreachable "offline"
  page :=
    { setTimeout := fun _ => unanswered
      goto := fun _ => unanswered
      count := fun _ => unanswered
      fill := fun _ _ => unanswered
      click := fun _ => unanswered
      innerText := fun _ => unanswered
      inputValue := fun _ => unanswered
      isEnabled := fun _ => unanswered
      waitVisible := fun _ _ => unanswered
      waitForUrl := fun _ _ => unanswered
      url := unanswered
      screenshot := fun _ => unanswered }
  clock := fun _ _ => 0
  site := fun url => .error (Site.unknown url)

end PlainScript.Command
