/-
Computations that can fail: what succeeds as a whole succeeds in its parts, and after a part that
succeeds the next one is run. A part fails the whole only if all the parts before it succeed, and
then the whole fails as that part does.
-/

import Mathlib.Data.List.Forall2

namespace PlainScript

/-! Results -/

/-- The parts of a computation that succeeds succeed. -/
theorem Except.exists_of_bind_eq_ok {ε α β : Type} {first : Except ε α} {next : α → Except ε β}
    {result : β} (done : (first >>= next) = .ok result) :
    ∃ value, first = .ok value ∧ next value = .ok result := by
  cases first with
  | error fault => cases done
  | ok value => exact ⟨value, rfl, done⟩

theorem Except.exists_of_map_eq_ok {ε α β : Type} {first : Except ε α} {change : α → β}
    {result : β} (done : first.map change = .ok result) :
    ∃ value, first = .ok value ∧ change value = result := by
  cases first with
  | error fault => cases done
  | ok value => exact ⟨value, rfl, Except.ok.inj done⟩

theorem Except.mapError_eq_ok_iff {ε ε' α : Type} {first : Except ε α} {change : ε → ε'}
    {result : α} : first.mapError change = .ok result ↔ first = .ok result := by
  cases first <;> simp [Except.mapError]

/-- A list is changed part by part. -/
theorem Except.mapM_eq_ok_iff {ε α β : Type} {change : α → Except ε β} {before : List α}
    {after : List β} :
    before.mapM change = .ok after ↔
      List.Forall₂ (fun first second => change first = .ok second) before after := by
  induction before generalizing after with
  | nil =>
      rw [List.mapM_nil, List.forall₂_nil_left_iff]
      exact ⟨fun done => (Except.ok.inj done).symm, fun empty => congrArg Except.ok empty.symm⟩
  | cons first before ih =>
      rw [List.mapM_cons, List.forall₂_cons_left_iff]
      constructor
      · intro done
        obtain ⟨changed, here, done⟩ := Except.exists_of_bind_eq_ok done
        obtain ⟨rest, later, done⟩ := Except.exists_of_bind_eq_ok done
        exact ⟨changed, rest, here, ih.mp later, (Except.ok.inj done).symm⟩
      · rintro ⟨changed, rest, here, later, rfl⟩
        rw [here, ih.mpr later]
        rfl

/-- In lists related part by part every member has its counterpart. -/
theorem exists_related_of_mem {α β : Type} {R : α → β → Prop} {before : List α} {after : List β}
    (related : List.Forall₂ R before after) {first : α} (member : first ∈ before) :
    ∃ second ∈ after, R first second := by
  obtain ⟨index, inside, rfl⟩ := List.getElem_of_mem member
  exact ⟨_, List.getElem_mem _, related.get inside (related.length_eq ▸ inside)⟩

/-- Where every member has a counterpart, the lists of both are related part by part. -/
theorem exists_related {α β : Type} {R : α → β → Prop} {before : List α}
    (each : ∀ first ∈ before, ∃ second, R first second) :
    ∃ after, List.Forall₂ R before after := by
  induction before with
  | nil => exact ⟨[], .nil⟩
  | cons first before ih =>
      rw [List.forall_mem_cons] at each
      obtain ⟨⟨second, here⟩, rest⟩ := each
      obtain ⟨after, later⟩ := ih rest
      exact ⟨second :: after, .cons here later⟩

/-! Faults of a kind -/

section

variable {ε ε' α β : Type} {kind : ε → Prop}

/-- The computation fails, with a fault of the kind. -/
def Fails (kind : ε → Prop) (result : Except ε α) : Prop :=
  ∃ fault, result = .error fault ∧ kind fault

instance [DecidablePred kind] : (result : Except ε α) → Decidable (Fails kind result)
  | .error fault => decidable_of_iff (kind fault) ⟨fun holds => ⟨fault, rfl, holds⟩, fun
      | ⟨_, same, holds⟩ => Except.error.inj same ▸ holds⟩
  | .ok _ => isFalse nofun

theorem Fails.imp {other : ε → Prop} {result : Except ε α} (fails : Fails kind result)
    (implies : ∀ fault, kind fault → other fault) : Fails other result := by
  obtain ⟨fault, ended, holds⟩ := fails
  exact ⟨fault, ended, implies fault holds⟩

@[simp]
theorem not_fails_ok {value : α} : ¬ Fails kind (.ok value) := nofun

theorem not_fails_pure {value : α} : ¬ Fails kind (pure value : Except ε α) := not_fails_ok

@[simp]
theorem fails_error_iff {fault : ε} : Fails kind (.error fault : Except ε α) ↔ kind fault := by
  simp [Fails]

theorem fails_bind_iff {first : Except ε α} {next : α → Except ε β} :
    Fails kind (first >>= next) ↔
      Fails kind first ∨ ∃ value, first = .ok value ∧ Fails kind (next value) := by
  cases first with
  | error fault => simp [bind, Except.bind]
  | ok value => simp [bind, Except.bind]

/-- A part behind that never fails so does not matter. -/
theorem fails_bind_iff_left {first : Except ε α} {next : α → Except ε β}
    (other : ∀ value, ¬ Fails kind (next value)) :
    Fails kind (first >>= next) ↔ Fails kind first := by
  rw [fails_bind_iff, or_iff_left]
  rintro ⟨value, -, fails⟩
  exact other value fails

theorem fails_map_iff {first : Except ε α} {change : α → β} :
    Fails kind (first.map change) ↔ Fails kind first := by
  cases first <;> simp [Except.map]

theorem fails_mapError_iff {kind : ε' → Prop} {first : Except ε α} {change : ε → ε'} :
    Fails kind (first.mapError change) ↔ Fails (fun fault => kind (change fault)) first := by
  cases first <;> simp [Except.mapError]

/-- No fault that can occur is of the kind. -/
theorem not_fails_of_forall {result : Except ε α} (other : ∀ fault, ¬ kind fault) :
    ¬ Fails kind result := fun ⟨fault, _, holds⟩ => other fault holds

/-- The first item with which the change does not succeed decides. -/
theorem fails_mapM_iff {change : α → Except ε β} {items : List α} :
    Fails kind (items.mapM change) ↔ ∃ front item back, items = front ++ item :: back ∧
      (∀ earlier ∈ front, ∃ changed, change earlier = .ok changed) ∧ Fails kind (change item) := by
  induction items with
  | nil => simp [pure, Except.pure]
  | cons item items ih =>
      rw [List.mapM_cons, fails_bind_iff]
      simp only [fails_bind_iff, ih]
      constructor
      · rintro (here | ⟨changed, done, later | ⟨rest, -, absurd⟩⟩)
        · exact ⟨[], item, items, rfl, List.forall_mem_nil _, here⟩
        · obtain ⟨front, found, back, rfl, earlier, fails⟩ := later
          exact ⟨item :: front, found, back, rfl,
            List.forall_mem_cons.mpr ⟨⟨changed, done⟩, earlier⟩, fails⟩
        · exact (not_fails_ok absurd).elim
      · rintro ⟨front, found, back, same, earlier, fails⟩
        cases front with
        | nil =>
            obtain ⟨rfl, rfl⟩ := List.cons_eq_cons.mp same
            exact .inl fails
        | cons first front =>
            obtain ⟨rfl, rfl⟩ := List.cons_eq_cons.mp same
            obtain ⟨⟨changed, done⟩, earlier⟩ := List.forall_mem_cons.mp earlier
            exact .inr ⟨changed, done, .inl ⟨front, found, back, rfl, earlier, fails⟩⟩

/-! Success -/

/-- The computation has a result. -/
def Succeeds (result : Except ε α) : Prop := ∃ value, result = .ok value

end

/-! Computations on a state -/

section

variable {ε α β τ : Type} {first : ExceptT ε (StateM τ) α} {state after : τ}

/-- After a part that succeeds, the next one runs. -/
theorem run_bind_of_ok {value : α} (ended : first.run.run state = (.ok value, after))
    (next : α → ExceptT ε (StateM τ) β) :
    (first >>= next).run.run state = (next value).run.run after := by
  rw [ExceptT.run_bind, StateT.run_bind, ended]
  rfl

/-- After a part that fails, no other runs. -/
theorem run_bind_of_error {cause : ε} (ended : first.run.run state = (.error cause, after))
    (next : α → ExceptT ε (StateM τ) β) :
    (first >>= next).run.run state = (.error cause, after) := by
  rw [ExceptT.run_bind, StateT.run_bind, ended]
  rfl

/-- What succeeds as a whole succeeds in both parts. -/
theorem exists_of_run_bind_eq_ok {next : α → ExceptT ε (StateM τ) β} {value : β}
    (ran : (first >>= next).run.run state = (.ok value, after)) :
    ∃ part middle, first.run.run state = (.ok part, middle) ∧
      (next part).run.run middle = (.ok value, after) := by
  rcases run : first.run.run state with ⟨cause | part, middle⟩
  · rw [run_bind_of_error run] at ran
    cases ran
  · rw [run_bind_of_ok run] at ran
    exact ⟨part, middle, rfl, ran⟩

/-- What is tried and succeeds is not made good. -/
theorem run_tryCatch_of_ok {value : α} (ended : first.run.run state = (.ok value, after))
    (handle : ε → ExceptT ε (StateM τ) α) :
    (tryCatch first handle).run.run state = (.ok value, after) := by
  rw [ExceptT.run_tryCatch, StateT.run_bind, ended]
  rfl

/-- What is tried and fails is made good. -/
theorem run_tryCatch_of_error {cause : ε} (ended : first.run.run state = (.error cause, after))
    (handle : ε → ExceptT ε (StateM τ) α) :
    (tryCatch first handle).run.run state = (handle cause).run.run after := by
  rw [ExceptT.run_tryCatch, StateT.run_bind, ended]
  rfl

end

/-! Faults of computations on a state -/

section

variable {ε α β τ : Type} {kind : ε → Prop} {state : τ}

/-- The run fails, with a fault of the kind. -/
def RunFails (kind : ε → Prop) (act : ExceptT ε (StateM τ) α) (state : τ) : Prop :=
  Fails kind (act.run.run state).1

instance [DecidablePred kind] (act : ExceptT ε (StateM τ) α) (state : τ) :
    Decidable (RunFails kind act state) :=
  inferInstanceAs (Decidable (Fails kind _))

theorem runFails_throw_iff {fault : ε} :
    RunFails kind (throw fault : ExceptT ε (StateM τ) α) state ↔ kind fault :=
  fails_error_iff

theorem not_runFails_pure {value : α} :
    ¬ RunFails kind (pure value : ExceptT ε (StateM τ) α) state :=
  not_fails_ok

theorem runFails_bind_iff {first : ExceptT ε (StateM τ) α} {next : α → ExceptT ε (StateM τ) β} :
    RunFails kind (first >>= next) state ↔ RunFails kind first state ∨
      ∃ value after, first.run.run state = (.ok value, after) ∧
        RunFails kind (next value) after := by
  rcases ended : first.run.run state with ⟨fault | value, middle⟩
  · rw [RunFails, RunFails, run_bind_of_error ended, ended]
    constructor
    · exact fun fails => .inl (fails_error_iff.mpr (fails_error_iff.mp fails))
    · rintro (fails | ⟨value, after, ⟨⟩, -⟩)
      exact fails_error_iff.mpr (fails_error_iff.mp fails)
  · rw [RunFails, RunFails, run_bind_of_ok ended, ended]
    constructor
    · exact fun fails => .inr ⟨value, middle, rfl, fails⟩
    · rintro (absurd | ⟨value, after, ⟨⟩, fails⟩)
      · exact (not_fails_ok absurd).elim
      · exact fails

/-- An act behind that never fails so does not matter. -/
theorem runFails_bind_iff_left {first : ExceptT ε (StateM τ) α}
    {next : α → ExceptT ε (StateM τ) β}
    (other : ∀ value after, ¬ RunFails kind (next value) after) :
    RunFails kind (first >>= next) state ↔ RunFails kind first state := by
  rw [runFails_bind_iff, or_iff_left]
  rintro ⟨value, after, -, fails⟩
  exact other value after fails

/-- After a part that succeeds, the next one decides. -/
theorem runFails_bind_of_ok {first : ExceptT ε (StateM τ) α} {value : α} {after : τ}
    (ended : first.run.run state = (.ok value, after)) (next : α → ExceptT ε (StateM τ) β) :
    RunFails kind (first >>= next) state ↔ RunFails kind (next value) after := by
  rw [RunFails, run_bind_of_ok ended, RunFails]

/-- The first item with which the act does not succeed decides. -/
theorem runFails_mapM_iff {act : β → ExceptT ε (StateM τ) α} {items : List β} :
    RunFails kind (items.mapM act) state ↔ ∃ front item back results middle,
      items = front ++ item :: back ∧ (front.mapM act).run.run state = (.ok results, middle) ∧
        RunFails kind (act item) middle := by
  induction items generalizing state with
  | nil =>
      rw [List.mapM_nil]
      exact iff_of_false not_runFails_pure (by simp)
  | cons item items ih =>
      rw [List.mapM_cons, runFails_bind_iff]
      simp only [runFails_bind_iff, ih]
      constructor
      · rintro (here | ⟨result, middle, done, later | ⟨results, last, -, absurd⟩⟩)
        · exact ⟨[], item, items, [], state, rfl, rfl, here⟩
        · obtain ⟨front, found, back, results, last, rfl, ran, fails⟩ := later
          refine ⟨item :: front, found, back, result :: results, last, rfl, ?_, fails⟩
          rw [List.mapM_cons, run_bind_of_ok done, run_bind_of_ok ran]
          rfl
        · exact (not_fails_ok absurd).elim
      · rintro ⟨front, found, back, results, last, same, ran, fails⟩
        cases front with
        | nil =>
            obtain ⟨rfl, rfl⟩ := List.cons_eq_cons.mp same
            cases ran
            exact .inl fails
        | cons first front =>
            obtain ⟨rfl, rfl⟩ := List.cons_eq_cons.mp same
            rw [List.mapM_cons] at ran
            obtain ⟨result, middle, done, ran⟩ := exists_of_run_bind_eq_ok ran
            obtain ⟨rest, ended, ran, finished⟩ := exists_of_run_bind_eq_ok ran
            cases finished
            exact .inr ⟨result, middle, done, .inl ⟨front, found, back, rest, _, rfl, ran, fails⟩⟩

end

end PlainScript
