/-
Looking for a data set. A set answers to its name and to all that its description mentions, and the
first set that answers is taken, so that a description hides the sets of a name behind it.
-/

import Mathlib.Data.List.TakeWhile
import PlainScript.Proofs.Text.Occurrence
import PlainScript.TestData.Template

namespace PlainScript

/-- What is done to test data after it has been set up. -/
inductive TestData.Change where
  | addition (set : DataSet)
  | baseUrl (url : String)

/-- The description mentions the name, in any letter case. -/
def DataSet.Mentions (set : DataSet) (name : String) : Prop :=
  (Text.lower name).toList <:+: (Text.lower (set.description.getD "")).toList

instance (set : DataSet) (name : String) : Decidable (set.Mentions name) :=
  decidable_of_iff _ (Text.contains_iff_infix _ _)

namespace TestData

/-! Changes -/

namespace Change

def apply (data : TestData) : Change → TestData
  | .addition set => data.add set
  | .baseUrl url => data.setBaseUrl url

def added? : Change → Option DataSet
  | .addition set => some set
  | .baseUrl _ => none

end Change

/-- The data after changes that are made one after another. -/
def after (data : TestData) (changes : List Change) : TestData := changes.foldl Change.apply data

/-- The sets that changes add. -/
def added (changes : List Change) : List DataSet := changes.filterMap Change.added?

/-- A change keeps the sets and puts a new one behind them. -/
theorem sets_apply (data : TestData) (change : Change) :
    (change.apply data).sets = data.sets ++ change.added?.toList := by
  cases change with
  | addition set => rfl
  | baseUrl url => exact (List.append_nil _).symm

/-- Changes keep the sets and put the new ones behind them. -/
theorem sets_after (data : TestData) (changes : List Change) :
    (data.after changes).sets = data.sets ++ added changes := by
  induction changes generalizing data with
  | nil => exact (List.append_nil _).symm
  | cons change changes ih =>
      rw [after, List.foldl_cons, ← after, ih, sets_apply, List.append_assoc]
      cases change <;> rfl

/-- A set that is found is found after all changes. -/
theorem find?_after {data : TestData} {name : String} {set : DataSet}
    (found : data.find? name = some set) (changes : List Change) :
    (data.after changes).find? name = some set := by
  rw [find?, sets_after, List.find?_append, ← find?, found, Option.some_or]

/-! Names and descriptions -/

/-- The sets in front of the first one of the name. -/
def ahead (name : String) (sets : List DataSet) : List DataSet :=
  sets.takeWhile fun set => set.name != name

theorem answersTo_iff (name : String) (set : DataSet) :
    answersTo name set = true ↔ set.name = name ∨ set.Mentions name := by
  rw [answersTo, Bool.or_eq_true, beq_iff_eq, Text.contains_iff_infix, DataSet.Mentions]

/-- The search gives the first set in front that mentions the name, and otherwise the first one of
the name. -/
theorem find?_answersTo (name : String) (sets : List DataSet) :
    sets.find? (answersTo name) =
      ((ahead name sets).find? fun set => decide (set.Mentions name)).or
        (sets.find? (·.name == name)) := by
  induction sets with
  | nil => rfl
  | cons set sets ih =>
      by_cases own : set.name = name
      · have answers := (answersTo_iff name set).mpr (.inl own)
        simp [ahead, own, answers]
      · by_cases mentions : set.Mentions name
        · have answers := (answersTo_iff name set).mpr (.inr mentions)
          simp [ahead, own, answers, mentions]
        · have silent : answersTo name set = false := by
            rw [← Bool.not_eq_true, answersTo_iff, not_or]
            exact ⟨own, mentions⟩
          rw [ahead] at ih
          simp [ahead, own, silent, mentions, ih]

/-- A set that stands in front of those of a name has another name. -/
theorem name_ne_of_mem_ahead {name : String} {sets : List DataSet} {set : DataSet}
    (member : set ∈ ahead name sets) : set.name ≠ name := by
  simpa using List.mem_takeWhile_imp member

/-- If there are sets of the name, the search finds one of them exactly if no set in front of them
mentions the name; otherwise it finds the first set that does. What it finds it finds after all
changes to come. -/
theorem find?_name_iff (data : TestData) (changes : List Change) {name : String}
    (listed : ∃ set ∈ data.sets ++ added changes, set.name = name) :
    ∃ found, (data.after changes).find? name = some found ∧
      (found.name = name ↔
        ∀ set ∈ ahead name (data.sets ++ added changes), ¬ set.Mentions name) ∧
      (found.name ≠ name →
        (ahead name (data.sets ++ added changes)).find? (fun set => decide (set.Mentions name)) =
          some found) ∧
      ∀ later, ((data.after changes).after later).find? name = some found := by
  have search := find?_answersTo name (data.after changes).sets
  rw [← find?, sets_after] at search
  generalize data.sets ++ added changes = sets at listed search
  cases hidden : (ahead name sets).find? fun set => decide (set.Mentions name) with
  | some found =>
      rw [hidden, Option.some_or] at search
      have inFront := List.mem_of_find?_eq_some hidden
      have mentions : found.Mentions name := by simpa using List.find?_some hidden
      have other := name_ne_of_mem_ahead inFront
      refine ⟨found, search, iff_of_false other fun silent => ?_, fun _ => rfl, find?_after search⟩
      exact silent found inFront mentions
  | none =>
      obtain ⟨set, member, same⟩ := listed
      have some : (sets.find? (·.name == name)).isSome = true :=
        List.find?_isSome.mpr ⟨set, member, by simpa using same⟩
      obtain ⟨found, first⟩ := Option.isSome_iff_exists.mp some
      rw [hidden, Option.none_or, first] at search
      have own : found.name = name := by simpa using List.find?_some first
      refine ⟨found, search, iff_of_true own ?_, fun other => absurd own other, find?_after search⟩
      simpa [List.find?_eq_none] using hidden

/-- A set that nobody mentions is found behind the demonstration data. -/
theorem find?_name_admin :
    let changes := [.addition { name := "admin" }, .baseUrl "/"]
    ∃ found, ((demonstration "").after changes).find? "admin" = some found ∧
      found.name = "admin" := by
  intro changes
  obtain ⟨found, search, own, -⟩ := find?_name_iff (demonstration "") changes
    ⟨_, List.mem_append_right _ List.mem_cons_self, rfl⟩
  exact ⟨found, search, own.mpr (by decide +kernel)⟩

/-- The descriptions of the demonstration data hide a set of users. -/
theorem exists_hidden_by_description :
    ¬ ∀ (data : TestData) (changes : List Change) (name : String),
      (∃ set ∈ (data.after changes).sets, set.name = name) →
        ∃ found, (data.after changes).find? name = some found ∧ found.name = name := by
  intro all
  obtain ⟨found, search, own⟩ := all (demonstration "") [.addition { name := "user" }] "user"
    ⟨_, List.mem_append_right _ List.mem_cons_self, rfl⟩
  have first : ((demonstration "").after [.addition { name := "user" }]).find? "user" =
      (demonstration "").sets.head? := by decide +kernel
  rw [first] at search
  rw [← Option.some.inj search] at own
  exact absurd own (by decide)

end TestData

end PlainScript
