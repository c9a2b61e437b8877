/-
What breaks off the set-up of a command: the files of test data, pages and tables are read in this
order, and the first of them with a fault that is not reported counts. A text that is no YAML is
such a fault in each of the files that are YAML.
-/

import PlainScript.Proofs.Catalog.Load
import PlainScript.Proofs.Command.Session
import PlainScript.Proofs.Resolver.Faults

namespace PlainScript

variable {directory : Directory} {path : String}

theorem Severity.message?_reported_ne_none (message : String) :
    (Severity.reported message).message? ≠ none := by
  simp [Severity.message?]

/-! Files that are YAML -/

/-- An entry with a number that is too long is reported. -/
theorem BatchEntry.not_fails_ofItem? {kind : Number.Unwritable → Prop} (other : ¬ kind .overlong)
    (item : Value) (index : Int) : ¬ Fails kind (ofItem? item index) := by
  have record (item : Value) : ¬ Fails kind (ofRecord? item index) := by
    rw [ofRecord?]
    split
    · exact not_fails_pure
    · simp only [fails_bind_iff, Value.not_fails_tell other, not_fails_pure, false_or, and_false,
        exists_false, or_false, not_exists, not_and]
      rintro _ - _ -
      cases firstFilled? item ["base_url", "baseUrl"] with
      | none => exact not_fails_pure
      | some value => exact fun fails => Value.not_fails_tell other value (fails_map_iff.mp fails)
  unfold ofItem?
  split <;> exact record _

/-- What is wrong with a reply is reported, or left open. -/
theorem Batch.not_fails_ofReply (url : String) (reply : Reply) :
    ¬ Fails (·.severity = .breaking) (ofReply url reply).entries := by
  have record (item : Value × Nat) : ¬ Fails (·.severity = .breaking) (entryOfRecord? item) := by
    rw [entryOfRecord?]
    split
    · rename_i entries same
      exact same ▸ BatchEntry.not_fails_ofItem? nofun (.record entries) item.2
    · exact not_fails_pure
  cases reply with
  | unreachable reason => exact not_fails_ok
  | answered status body =>
      rw [ofReply]
      split
      · exact not_fails_ok
      · split
        · rename_i fault _
          split
          · exact not_fails_ok
          · rename_i broken
            exact absurd broken (File.DocumentFault.severity_ne_breaking fault)
          · rename_i open'
            rw [fails_error_iff, Fault.severity, open']
            nofun
        · rw [fails_mapError_iff, recordsOf, fails_bind_iff_left fun _ => not_fails_pure,
            fails_mapM_iff]
          rintro ⟨_, item, _, -, -, fails⟩
          exact record item fails
        · exact not_fails_ok

namespace Resolver.Tables

end Resolver.Tables

/-! What is set up -/

namespace Settings

/-- What is wrong with the strictness is reported. -/
theorem not_fails_strictnessOf (kind : Severity → Prop)
    (silent : ∀ message, ¬ kind (.reported message)) (settings : Settings)
    (options : ResolverOptions) : ¬ Fails (kind ·.severity) (settings.strictnessOf options) := by
  rw [strictnessOf]
  split
  · exact not_fails_ok
  · split
    · exact not_fails_ok
    · rw [fails_error_iff]
      exact silent _

end Settings

namespace Command

variable {σ : Type}

section

variable {ε α β : Type} {kind : Fault → Prop} {workspace : Workspace σ}

/-- What is expected comes, or the act fails; either way the workspace stays as it is. -/
theorem run_expect (cause : ε → Fault) (result : Except ε α) (workspace : Workspace σ) :
    (expect cause result : Act σ α).run.run workspace = (result.mapError cause, workspace) := by
  cases result <;> rfl

theorem runFails_expect_iff {cause : ε → Fault} {result : Except ε α} :
    RunFails kind (expect cause result : Act σ α) workspace ↔
      Fails (fun fault => kind (cause fault)) result := by
  rw [RunFails, run_expect, fails_mapError_iff]

theorem runFails_expect_bind_iff {cause : ε → Fault} {result : Except ε α} {next : α → Act σ β} :
    RunFails kind (expect cause result >>= next) workspace ↔
      Fails (fun fault => kind (cause fault)) result ∨
        ∃ value, result = .ok value ∧ RunFails kind (next value) workspace := by
  rw [runFails_bind_iff, runFails_expect_iff, run_expect]
  refine or_congr_right ⟨?_, ?_⟩
  · rintro ⟨value, after, same, fails⟩
    cases result with
    | error fault => cases same
    | ok found =>
        cases same
        exact ⟨value, rfl, fails⟩
  · rintro ⟨value, rfl, fails⟩
    exact ⟨value, workspace, rfl, fails⟩

end

theorem exists_run_warnAll (messages : List String) (workspace : Workspace σ) :
    ∃ noticed, (warnAll messages : Act σ Unit).run.run workspace = (.ok (), noticed) :=
  exists_run_forM_record _ messages workspace

end Command

end PlainScript
