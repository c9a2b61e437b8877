/-
Where the texts of the credentials come from: from the instruction, from its locks in turn, from
the test data, or from what the mode lays down.
-/

import PlainScript.Proofs.Render.Target
import PlainScript.Proofs.Resolver.Resolve

namespace PlainScript.Resolver

variable {resolver : Resolver} {text : String} {values : Values} {locks : List Lock}

/-! Locks in turn -/

/-- The user name that the instruction gives: the extracted one, or the first spare lock. -/
def givenUsername (values : Values) (locks : List Lock) : Option String :=
  (filled values.username).or (spares locks).head?

/-- The spare locks that the user name leaves. -/
def unused (values : Values) (locks : List Lock) : List String :=
  if (filled values.username).isSome then spares locks else (spares locks).tail

/-- The password that the instruction gives: the extracted one, or the next spare lock. -/
def givenPassword (values : Values) (locks : List Lock) : Option String :=
  (filled values.password).or (unused values locks).head?

theorem orSpare_eq (value : Option String) (spare : List String) :
    orSpare value spare =
      ((filled value).or spare.head?, if (filled value).isSome then spare else spare.tail) := by
  cases found : filled value with
  | some given => simp [orSpare, found]
  | none => cases spare <;> simp [orSpare, found]

/-- Whether the instruction is about a login. -/
def aboutLogin (resolver : Resolver) (text : String) (values : Values) :
    Except Regex.Fault Bool :=
  if (filled values.username).isSome || (filled values.password).isSome then .ok true
  else resolver.tables.credentialsCue.occursIn text

/-- An instruction about a login fills in both credentials, any other none. -/
theorem credentialSteps_eq (resolver : Resolver) (text : String) (values : Values)
    (locks : List Lock) :
    resolver.credentialSteps text values locks =
      (resolver.aboutLogin text values).map fun about =>
        if about then
          [resolver.fillCredential .username (givenUsername values locks),
            resolver.fillCredential .password (givenPassword values locks)]
        else [] := by
  have steps : orSpare values.username (spares locks) =
      (givenUsername values locks, unused values locks) := orSpare_eq _ _
  have rest : orSpare values.password (unused values locks) =
      (givenPassword values locks, _) := orSpare_eq _ _
  rw [credentialSteps, aboutLogin, steps]
  dsimp only
  rw [rest]
  split
  · rfl
  · cases resolver.tables.credentialsCue.occursIn text with
    | error fault => rfl
    | ok about => cases about <;> rfl

/-! Sources of a text -/

/-- The text that is filled in for a credential when the instruction gives this value: the value
itself, else what the test data hold, else what the mode lays down. -/
inductive Provides (resolver : Resolver) (credential : Credential) (value : Option String) :
    String → Prop
  | given {typed : String} (here : value = some typed) (nonempty : typed ≠ "") :
      Provides resolver credential value typed
  | testData {typed : String} (absent : filled value = none)
      (here : resolver.testData.lookup credential.field = some typed) (nonempty : typed ≠ "") :
      Provides resolver credential value typed
  | marker (absent : filled value = none)
      (unknown : filled (resolver.testData.lookup credential.field) = none)
      (strict : resolver.strictness = .strict) :
      Provides resolver credential value (Marker.unspecified credential.field)
  | usual (absent : filled value = none)
      (unknown : filled (resolver.testData.lookup credential.field) = none)
      (legacy : resolver.strictness = .legacy) :
      Provides resolver credential value credential.usual

theorem provides_credentialText (resolver : Resolver) (credential : Credential)
    (value : Option String) :
    resolver.Provides credential value (resolver.credentialText credential value) := by
  rw [credentialText]
  cases absent : filled value with
  | some typed =>
      obtain ⟨here, nonempty⟩ := (filled_eq_some_iff _ _).mp absent
      exact .given here nonempty
  | none =>
      cases unknown : filled (resolver.testData.lookup credential.field) with
      | some typed =>
          obtain ⟨here, nonempty⟩ := (filled_eq_some_iff _ _).mp unknown
          exact .testData absent here nonempty
      | none =>
          cases mode : resolver.strictness with
          | strict => exact .marker absent unknown mode
          | legacy => exact .usual absent unknown mode

namespace Provides

variable {credential : Credential} {value : Option String} {typed : String}

/-- There is only one text that is filled in. -/
theorem eq_credentialText (provided : resolver.Provides credential value typed) :
    typed = resolver.credentialText credential value := by
  rw [credentialText]
  cases provided with
  | given here nonempty => rw [(filled_eq_some_iff _ _).mpr ⟨here, nonempty⟩]
  | testData absent here nonempty => rw [absent, (filled_eq_some_iff _ _).mpr ⟨here, nonempty⟩]
  | marker absent unknown strict => rw [absent, unknown, strict]
  | usual absent unknown legacy => rw [absent, unknown, legacy]

theorem ne_empty (provided : resolver.Provides credential value typed) : typed ≠ "" := by
  cases provided with
  | given here nonempty => exact nonempty
  | testData absent here nonempty => exact nonempty
  | marker absent unknown strict => cases credential <;> decide
  | usual absent unknown legacy => cases credential <;> decide

end Provides

end PlainScript.Resolver
