/-
Characters without case, such as line feeds and braces: no change of case makes one of them out of
another character.
-/

import PlainScript.Proofs.Text.Pieces
import PlainScript.Text.Case

namespace PlainScript

namespace Text

/-- No shift of the table moves a character to the code. -/
def isUnreached (table : Array Shift) (code : Nat) : Bool :=
  table.toList.all fun shift => (shift.source? code).isNone

/-- No character of the table is written with the code. -/
def isUnlisted (table : Array (Nat × List Nat)) (code : Nat) : Bool :=
  table.toList.all fun entry => !entry.2.contains code

/-- The letters of one alphabet change to other characters. -/
def isKeptByLetters (target : Char) : Bool :=
  (List.range 128).all fun code =>
    let c := Char.ofNat code
    c == target || c.toUpper != target && c.toLower != target

/-- No change of case makes the character out of another one. -/
def isCaseless (target : Char) : Bool :=
  isUnreached lowerShifts target.toNat && isUnreached upperShifts target.toNat &&
    isUnlisted upperExpansions target.toNat && isUnlisted titleExceptions target.toNat &&
    isKeptByLetters target && (['\u0000', 'i', '\u0307', 'ς', 'σ'].contains target).not

/-- Line feeds and braces have no case. -/
theorem isCaseless_separators : ∀ c ∈ ['\n', '{', '}'], isCaseless c = true := by
  decide

variable {target c : Char}

/-- A character that is given by its code has it, unless it is the null character. -/
theorem eq_toNat_of_ofNat_eq {code : Nat} (same : Char.ofNat code = target)
    (visible : target ≠ '\u0000') : code = target.toNat := by
  by_cases valid : code.isValidChar
  · rw [← same, Char.ofNat, dif_pos valid]
    rfl
  · rw [Char.ofNat, dif_neg valid] at same
    exact absurd same.symm visible

/-- Shifts do not move another character to one that they do not reach. -/
theorem ofNat_shiftBy_ne {table : Array Shift} (unreached : isUnreached table target.toNat = true)
    (visible : target ≠ '\u0000') (other : c ≠ target) :
    Char.ofNat (shiftBy table c.toNat) ≠ target := by
  intro same
  have code := eq_toNat_of_ofNat_eq same visible
  have positive : target.toNat ≠ 0 := fun zero => visible (by
    rw [← Char.ofNat_toNat target, zero])
  rw [shiftBy] at code
  split at code
  · rename_i shift found
    have holds : shift.holds c.toNat = true := by simpa using Array.find?_some found
    have member : shift ∈ table.toList := (Array.mem_of_find?_eq_some found).val
    have none := List.all_eq_true.mp unreached shift member
    have source : (Int.ofNat target.toNat - shift.distance).toNat = c.toNat := by
      simp only [Shift.image, Int.ofNat_eq_natCast] at code ⊢
      omega
    rw [Shift.source?, source, holds] at none
    cases none
  · exact other (by rw [← Char.ofNat_toNat c, code, Char.ofNat_toNat])

/-- What the table lists is written with other codes. -/
theorem notMem_of_isUnlisted {table : Array (Nat × List Nat)} {entry : Nat × List Nat}
    (unlisted : isUnlisted table target.toNat = true) (visible : target ≠ '\u0000')
    (member : entry ∈ table) : target ∉ entry.2.map Char.ofNat := by
  rw [List.mem_map]
  rintro ⟨code, listed, same⟩
  have absent := List.all_eq_true.mp unlisted entry member.val
  rw [← eq_toNat_of_ofNat_eq same visible] at absent
  simp [listed] at absent

/-- Neither case of another letter is the character. -/
theorem ne_of_isKeptByLetters (kept : isKeptByLetters target = true) (ascii : c.toNat < 128)
    (other : c ≠ target) : c.toUpper ≠ target ∧ c.toLower ≠ target := by
  have here := List.all_eq_true.mp kept c.toNat (List.mem_range.mpr ascii)
  simpa [Char.ofNat_toNat, other] using here

/-- What a caseless character stays away from. -/
theorem isCaseless_iff (target : Char) :
    isCaseless target = true ↔
      (isUnreached lowerShifts target.toNat = true ∧ isUnreached upperShifts target.toNat = true) ∧
        (isUnlisted upperExpansions target.toNat = true ∧
          isUnlisted titleExceptions target.toNat = true) ∧
        isKeptByLetters target = true ∧
        target ∉ ['\u0000', 'i', '\u0307', 'ς', 'σ'] := by
  simp [isCaseless, and_assoc]

theorem notMem_upperCase (caseless : isCaseless target = true) (other : c ≠ target) :
    target ∉ upperCase c := by
  obtain ⟨⟨-, unreached⟩, ⟨unlisted, -⟩, kept, apart⟩ := (isCaseless_iff target).mp caseless
  have visible : target ≠ '\u0000' := fun same => apart (same ▸ List.mem_cons_self)
  rw [upperCase]
  split
  · rename_i small
    have ascii : c.toNat < 128 := UInt32.lt_iff_toNat_lt.mp small
    simpa using (ne_of_isKeptByLetters kept ascii other).1.symm
  · split
    · rename_i found
      exact notMem_of_isUnlisted unlisted visible (Array.mem_of_find?_eq_some found)
    · simpa using (ofNat_shiftBy_ne unreached visible other).symm

theorem notMem_titleCase (caseless : isCaseless target = true) (other : c ≠ target) :
    target ∉ titleCase c := by
  obtain ⟨-, ⟨-, unlisted⟩, kept, apart⟩ := (isCaseless_iff target).mp caseless
  have visible : target ≠ '\u0000' := fun same => apart (same ▸ List.mem_cons_self)
  rw [titleCase]
  split
  · rename_i small
    have ascii : c.toNat < 128 := UInt32.lt_iff_toNat_lt.mp small
    simpa using (ne_of_isKeptByLetters kept ascii other).1.symm
  · split
    · rename_i found
      exact notMem_of_isUnlisted unlisted visible (Array.mem_of_find?_eq_some found)
    · exact notMem_upperCase caseless other

theorem notMem_lowerCase (caseless : isCaseless target = true) (other : c ≠ target) :
    target ∉ lowerCase c := by
  obtain ⟨⟨unreached, -⟩, -, kept, apart⟩ := (isCaseless_iff target).mp caseless
  simp only [List.mem_cons, List.not_mem_nil, or_false, not_or] at apart
  obtain ⟨visible, dotless, dot, -⟩ := apart
  rw [lowerCase]
  split
  · simp [dotless, dot]
  · rename_i undotted
    rw [lowerChar, if_neg undotted, List.mem_singleton]
    split
    · rename_i small
      have ascii : c.toNat < 128 := UInt32.lt_iff_toNat_lt.mp small
      exact (ne_of_isKeptByLetters kept ascii other).2.symm
    · exact (ofNat_shiftBy_ne unreached visible other).symm

/-! Equality regardless of case -/

/-- The character is equal to no other one regardless of case. -/
def isAlone (target : Char) : Bool :=
  isCaseless target && (lowerShifts.toList.all fun shift => !shift.holds target.toNat) &&
    (sharedUpper.toList.all fun codes => !codes.contains target.toNat) && target != '\u0130' &&
    (List.range 128).all fun code =>
      Char.ofNat code == target || !(caseVariants (Char.ofNat code)).contains target

/-- Letters of one alphabet change into letters of it. -/
theorem isKeptByLetters_of_not_isAlpha (unlettered : target.isAlpha = false) :
    isKeptByLetters target = true := by
  have image : ∀ code < 128, ∀ d ∈ [(Char.ofNat code).toUpper, (Char.ofNat code).toLower],
      d = .ofNat code ∨ d.isAlpha = true := by
    decide
  refine List.all_eq_true.mpr fun code member => ?_
  have other : ∀ d ∈ [(Char.ofNat code).toUpper, (Char.ofNat code).toLower],
      Char.ofNat code ≠ target → d ≠ target := by
    rintro d listed different rfl
    rcases image code (List.mem_range.mp member) d listed with same | alpha
    · exact different same.symm
    · rw [unlettered] at alpha
      cases alpha
  by_cases same : Char.ofNat code = target
  · simp [same]
  · simp only [List.forall_mem_cons] at other
    simp [other.1 same, other.2.1 same]

/-- A letter is equal to letters of its alphabet and to four others. -/
theorem isAlpha_of_mem_caseVariants {d : Char} {code : Nat} (ascii : code < 128)
    (variant : d ∈ caseVariants (.ofNat code)) (other : d ≠ .ofNat code) :
    d.isAlpha = true ∨ d ∈ ['ı', 'İ', '\u212A', 'ſ'] := by
  have all : ∀ code < 128, (caseVariants (.ofNat code)).all (fun d =>
      d == .ofNat code || (d.isAlpha || ['ı', 'İ', '\u212A', 'ſ'].contains d)) = true := by
    decide +kernel
  have here := List.all_eq_true.mp (all code ascii) d variant
  simpa [other] using here

/-- What is no letter is alone if the tables do not mention it. -/
theorem isAlone_of_not_isAlpha (unlettered : target.isAlpha = false)
    (apart : target ∉ ['\u0000', '\u0307', 'ς', 'σ', 'ı', 'İ', '\u212A', 'ſ'])
    (unreached : isUnreached lowerShifts target.toNat = true ∧
      isUnreached upperShifts target.toNat = true)
    (unlisted : isUnlisted upperExpansions target.toNat = true ∧
      isUnlisted titleExceptions target.toNat = true)
    (unmoved : (lowerShifts.toList.all fun shift => !shift.holds target.toNat) = true)
    (unshared : (sharedUpper.toList.all fun codes => !codes.contains target.toNat) = true) :
    isAlone target = true := by
  have noLetter : target ≠ 'i' := by
    rintro rfl
    cases unlettered
  have caseless : isCaseless target = true := by
    refine (isCaseless_iff target).mpr
      ⟨unreached, unlisted, isKeptByLetters_of_not_isAlpha unlettered, ?_⟩
    simp only [List.mem_cons, not_or] at apart
    simp [noLetter, apart]
  have undotted : target ≠ '\u0130' := fun same => apart (by simp [same])
  have variants : ((List.range 128).all fun code => Char.ofNat code == target ||
      !(caseVariants (Char.ofNat code)).contains target) = true := by
    refine List.all_eq_true.mpr fun code member => ?_
    by_cases same : Char.ofNat code = target
    · simp [same]
    · have absent : target ∉ caseVariants (.ofNat code) := fun variant => by
        rcases isAlpha_of_mem_caseVariants (List.mem_range.mp member) variant (Ne.symm same) with
          alpha | sign
        · rw [unlettered] at alpha
          cases alpha
        · exact apart (List.mem_append_right ['\u0000', '\u0307', 'ς', 'σ'] sign)
      simp [absent]
  simp only [isAlone, Bool.and_eq_true, bne_iff_ne]
  exact ⟨⟨⟨⟨caseless, unmoved⟩, unshared⟩, undotted⟩, variants⟩

/-- A character that is alone is equal to itself. -/
theorem self_mem_caseVariants (alone : isAlone target = true) : target ∈ caseVariants target := by
  simp only [isAlone, Bool.and_eq_true, bne_iff_ne] at alone
  obtain ⟨⟨⟨⟨-, unmoved⟩, unshared⟩, undotted⟩, -⟩ := alone
  by_cases small : target.val < 128
  · have all : ∀ code < 128, Char.ofNat code ∈ caseVariants (.ofNat code) := by decide +kernel
    have here := all target.toNat (UInt32.lt_iff_toNat_lt.mp small)
    rwa [Char.ofNat_toNat] at here
  · have kept : lowerShifts.find? (·.holds target.toNat) = none := by
      rw [Array.find?_eq_none]
      exact fun shift member => by simpa using List.all_eq_true.mp unmoved shift member.val
    have single : sharedUpper.find? (·.contains target.toNat) = none := by
      rw [Array.find?_eq_none]
      exact fun codes member => by simpa using List.all_eq_true.mp unshared codes member.val
    have low : lowerChar target = target := by
      have code : (target.toNat == 0x130) = false := by
        rw [beq_eq_false_iff_ne]
        exact fun same => undotted (Char.toNat_inj.mp same)
      rw [lowerChar, if_neg small, code, if_neg Bool.false_ne_true, shiftBy, kept,
        Char.ofNat_toNat]
    rw [caseVariants, if_neg small, low]
    simp only [single, Option.getD_none, List.flatMap_singleton, List.cons_append, List.map_cons,
      Char.ofNat_toNat, List.mem_cons, true_or]

/-- Another character is not equal to one that is alone, whatever the case. -/
theorem notMem_caseVariants (alone : isAlone target = true) (other : c ≠ target) :
    target ∉ caseVariants c := by
  simp only [isAlone, Bool.and_eq_true, bne_iff_ne] at alone
  obtain ⟨⟨⟨⟨caseless, unmoved⟩, unshared⟩, undotted⟩, letters⟩ := alone
  have visible : target ≠ '\u0000' := fun same =>
    ((isCaseless_iff target).mp caseless).2.2.2 (same ▸ List.mem_cons_self)
  by_cases small : c.val < 128
  · have ascii : c.toNat < 128 := UInt32.lt_iff_toNat_lt.mp small
    have here := List.all_eq_true.mp letters c.toNat (List.mem_range.mpr ascii)
    simpa [Char.ofNat_toNat, other] using here
  · have low : lowerChar c ≠ target := by
      have kept := notMem_lowerCase caseless other
      rw [lowerCase] at kept
      split at kept
      · rename_i dotted
        rw [lowerChar, if_neg small, if_pos dotted]
        exact fun same => kept (same ▸ List.mem_cons_self)
      · exact fun same => kept (List.mem_singleton.mpr same.symm)
    have bases : target.toNat ∉ (sharedUpper.find? (·.contains (lowerChar c).toNat)).getD
        [(lowerChar c).toNat] := by
      cases found : sharedUpper.find? (·.contains (lowerChar c).toNat) with
      | none =>
          rw [Option.getD_none, List.mem_singleton]
          exact fun same => low (Char.toNat_inj.mp same.symm)
      | some codes =>
          have listed : codes ∈ sharedUpper.toList := (Array.mem_of_find?_eq_some found).val
          simpa using List.all_eq_true.mp unshared codes listed
    rw [caseVariants, if_neg small, List.mem_flatMap]
    rintro ⟨base, member, inside⟩
    obtain ⟨code, variant, same⟩ := List.mem_map.mp inside
    obtain rfl := eq_toNat_of_ofNat_eq same visible
    rcases List.mem_append.mp variant with variant | dotted
    · rcases List.mem_cons.mp variant with same | shifted
      · exact bases (same ▸ member)
      · obtain ⟨shift, listed, source⟩ := List.mem_filterMap.mp shifted
        have still := List.all_eq_true.mp unmoved shift listed
        rw [Shift.source?] at source
        split at source
        · rename_i holds
          rw [Option.some.inj source] at holds
          rw [holds] at still
          cases still
        · cases source
    · split at dotted
      · have code := List.mem_singleton.mp dotted
        exact undotted (Char.toNat_inj.mp code)
      · cases dotted

end Text

namespace Chars

variable {target : Char}

theorem notMem_upper (caseless : Text.isCaseless target = true) {chars : List Char}
    (absent : target ∉ chars) : target ∉ upper chars := by
  rw [upper, List.mem_flatMap]
  rintro ⟨c, member, inside⟩
  exact Text.notMem_upperCase caseless (fun same => absent (same ▸ member)) inside

theorem notMem_lowerFrom (caseless : Text.isCaseless target = true) {chars : List Char}
    (absent : target ∉ chars) (before : List Char) : target ∉ lowerFrom before chars := by
  have apart := ((Text.isCaseless_iff target).mp caseless).2.2.2
  simp only [List.mem_cons, List.not_mem_nil, or_false, not_or] at apart
  obtain ⟨-, -, -, final, sigma⟩ := apart
  induction chars generalizing before with
  | nil => simp [lowerFrom]
  | cons c chars ih =>
      rw [List.mem_cons, not_or] at absent
      rw [lowerFrom, List.mem_append, not_or]
      refine ⟨?_, ih absent.2 _⟩
      split
      · split <;> simp [final, sigma]
      · exact Text.notMem_lowerCase caseless (Ne.symm absent.1)

/-- A character that is small by itself stays in the small letters of a text. -/
theorem mem_lowerFrom {c : Char} (small : Text.lowerCase c = [c]) (other : c ≠ 'Σ')
    {chars : List Char} (member : c ∈ chars) (before : List Char) : c ∈ lowerFrom before chars := by
  induction chars generalizing before with
  | nil => cases member
  | cons d chars ih =>
      rw [lowerFrom, List.mem_append]
      rcases List.mem_cons.mp member with rfl | member
      · rw [if_neg (by simpa using other), small]
        exact .inl List.mem_cons_self
      · exact .inr (ih member _)

theorem notMem_capitalize (caseless : Text.isCaseless target = true) {chars : List Char}
    (absent : target ∉ chars) : target ∉ capitalize chars := by
  cases chars with
  | nil => simp [capitalize]
  | cons c chars =>
      rw [List.mem_cons, not_or] at absent
      rw [capitalize, List.mem_append, not_or]
      exact ⟨Text.notMem_titleCase caseless (Ne.symm absent.1),
        notMem_lowerFrom caseless absent.2 _⟩

end Chars

end PlainScript
