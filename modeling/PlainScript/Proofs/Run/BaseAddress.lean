/-
The base address of a case. Every case is reported on whose address has a host that can be read, and
the report names the address exactly if it is none of the web; any other host ends the check itself.
-/

import PlainScript.Proofs.Text.Pieces
import PlainScript.Run.Execute

namespace PlainScript

namespace Address

/-! Hosts -/

/-- Whether a character does not end the host. -/
def isHostChar (c : Char) : Bool := c != '/' && c != '?' && c != '#'

/-- The host in what follows a scheme. -/
def hostOf (rest : List Char) : List Char :=
  if ['/', '/'].isPrefixOf rest then (rest.drop 2).takeWhile isHostChar else []

/-- The host of an address as it is written. -/
def writtenHost (text : String) : List Char := hostOf (splitScheme (kept text.toList)).2

/-- Whether a number may stand between brackets. -/
def isNumber (chars : List Char) : Bool :=
  if chars.head? == some 'v' then isFutureNumber chars
  else !isShortNumber chars && isLongNumber chars

/-- Brackets stand on both sides of a number, and no character stands for a mark. -/
structure IsReadable (host : List Char) : Prop where
  brackets : '[' ∈ host ↔ ']' ∈ host
  number : '[' ∈ host → isNumber (bracketed host) = true
  marks : ∀ c ∈ host, c.toNat ∉ lookalikes

theorem checkNumber_eq_ok_iff (chars : List Char) :
    checkNumber chars = .ok () ↔ isNumber chars = true := by
  rw [checkNumber, isNumber]
  split
  · split <;> simp_all
  · split
    · simp_all
    · split <;> simp_all

/-- A host passes if each part of its check does. -/
theorem checkHost_eq_ok_iff (host : List Char) : checkHost host = .ok () ↔ IsReadable host := by
  have parts : checkHost host = .ok () ↔ (host.contains '[' != host.contains ']') = false ∧
      (host.contains '[' = true → checkNumber (bracketed host) = .ok ()) ∧
      (host.any fun c => lookalikes.contains c.toNat) = false := by
    rw [checkHost]
    generalize (host.contains '[' != host.contains ']') = unpaired
    generalize host.contains '[' = given
    generalize checkNumber (bracketed host) = number
    generalize (host.any fun c => lookalikes.contains c.toNat) = marked
    cases unpaired with
    | true => exact iff_of_false nofun nofun
    | false =>
        cases given <;> rcases number with _ | ⟨⟨⟩⟩ <;> cases marked <;>
          simp [bind, Except.bind, throw, throwThe, MonadExceptOf.throw, pure, Except.pure]
  have brackets : (host.contains '[' != host.contains ']') = false ↔
      ('[' ∈ host ↔ ']' ∈ host) := by
    rw [bne_eq_false_iff_eq, Bool.eq_iff_iff, List.contains_iff_mem, List.contains_iff_mem]
  rw [parts, brackets, checkNumber_eq_ok_iff, List.contains_iff_mem]
  constructor
  · rintro ⟨brackets, number, marks⟩
    exact ⟨brackets, number, by simpa using marks⟩
  · rintro ⟨brackets, number, marks⟩
    exact ⟨brackets, number, by simpa using marks⟩

/-- An address is read exactly if its host can be. -/
theorem read_eq_ok_iff {text : String} {address : Address} : read text = .ok address ↔
    IsReadable (writtenHost text) ∧
      address = ⟨.ofList (splitScheme (kept text.toList)).1, .ofList (writtenHost text)⟩ := by
  have whole : read text = (checkHost (writtenHost text)).map fun _ =>
      ⟨.ofList (splitScheme (kept text.toList)).1, .ofList (writtenHost text)⟩ := by
    rw [read, writtenHost]
    rfl
  rw [whole, ← checkHost_eq_ok_iff]
  cases checkHost (writtenHost text) with
  | error fault => exact iff_of_false nofun fun both => nomatch both.1
  | ok passed => exact ⟨fun same => ⟨rfl, (Except.ok.inj same).symm⟩, fun both => both.2 ▸ rfl⟩

/-! Addresses of the web -/

/-- The text is an address of the web: its scheme, in any letter case, two slashes, a host that can
be read, and what follows the host. -/
structure IsWeb (text : String) (scheme host rest : List Char) : Prop where
  spelled : kept text.toList = scheme ++ ':' :: '/' :: '/' :: (host ++ rest)
  scheme : scheme.map Char.toLower = "http".toList ∨ scheme.map Char.toLower = "https".toList
  given : host ≠ []
  within : ∀ c ∈ host, isHostChar c = true
  ends : ∀ c ∈ rest.head?, isHostChar c = false
  readable : IsReadable host

theorem isAlpha_of_toLower {c : Char} (letter : c.toLower.isAlpha = true) : c.isAlpha = true := by
  unfold Char.toLower at letter
  split at letter
  · rename_i upper
    delta Char.isAlpha Char.isUpper
    rw [Bool.or_eq_true]
    exact .inl (by simpa using upper)
  · exact letter

/-- What stands in front of the first colon is split off if it can be a scheme. -/
theorem splitScheme_append {front : List Char} (first : ':' ∉ front) (rest : List Char) :
    splitScheme (front ++ ':' :: rest) =
      if front.head?.any Char.isAlpha && front.all isSchemeChar then
        (front.map Char.toLower, rest)
      else ([], front ++ ':' :: rest) := by
  have start : (front ++ ':' :: rest).takeWhile (· != ':') = front := by
    refine Chars.takeWhile_append_cons (fun c member => ?_) (by decide) rest
    rw [bne_iff_ne]
    rintro rfl
    exact first member
  have colon : (front ++ ':' :: rest).contains ':' = true := by simp
  have behind : (front ++ ':' :: rest).drop (front.length + 1) = rest := by
    rw [List.append_cons, List.drop_left' (by simp)]
  rw [splitScheme, start, colon, Bool.true_and, behind]

/-- A scheme of letters is read in lower case. -/
theorem splitScheme_of_letters {scheme : List Char} (nonempty : scheme ≠ [])
    (letters : ∀ c ∈ scheme, c.isAlpha = true) (rest : List Char) :
    splitScheme (scheme ++ ':' :: rest) = (scheme.map Char.toLower, rest) := by
  have first : ':' ∉ scheme := fun member => absurd (letters ':' member) (by decide)
  have all : scheme.all isSchemeChar = true :=
    List.all_eq_true.mpr fun c member => by simp [isSchemeChar, Char.isAlphanum, letters c member]
  obtain ⟨c, others, rfl⟩ := List.exists_cons_of_ne_nil nonempty
  rw [splitScheme_append first, all, Bool.and_true, List.head?_cons, Option.any_some,
    if_pos (letters c List.mem_cons_self)]

/-- What is read as a scheme stands in front of a colon. -/
theorem exists_of_splitScheme {chars : List Char} (nonempty : (splitScheme chars).1 ≠ []) :
    ∃ scheme, chars = scheme ++ ':' :: (splitScheme chars).2 ∧
      scheme.map Char.toLower = (splitScheme chars).1 := by
  by_cases colon : ':' ∈ chars
  · obtain ⟨front, rest, rfl, first⟩ := List.eq_append_cons_of_mem colon
    rw [splitScheme_append first] at nonempty ⊢
    split at nonempty
    · rename_i fits
      rw [if_pos fits]
      exact ⟨front, rfl, rfl⟩
    · exact absurd rfl nonempty
  · simp [splitScheme, colon] at nonempty

theorem isReachable_iff (scheme host : List Char) :
    (⟨.ofList scheme, .ofList host⟩ : Address).isReachable = true ↔
      (scheme = "http".toList ∨ scheme = "https".toList) ∧ host ≠ [] := by
  have same (name : String) : String.ofList scheme = name ↔ scheme = name.toList := by
    rw [← String.toList_inj, String.toList_ofList]
  simp [isReachable, same]

/-- An address that can be visited is spelled as one of the web. -/
theorem exists_isWeb_of_read {text : String} {address : Address} (done : read text = .ok address)
    (reachable : address.isReachable = true) : ∃ scheme host rest, IsWeb text scheme host rest := by
  obtain ⟨readable, rfl⟩ := read_eq_ok_iff.mp done
  obtain ⟨known, given⟩ := (isReachable_iff _ _).mp reachable
  have nonempty : (splitScheme (kept text.toList)).1 ≠ [] := by
    rcases known with same | same <;> rw [same] <;> decide
  obtain ⟨scheme, spelled, lower⟩ := exists_of_splitScheme nonempty
  rw [← lower] at known
  -- Without two slashes there would be no host.
  obtain ⟨behind, slashes⟩ :
      ∃ behind, (splitScheme (kept text.toList)).2 = '/' :: '/' :: behind := by
    by_contra none
    refine given (if_neg fun starts => none ?_)
    obtain ⟨behind, same⟩ := List.isPrefixOf_iff_prefix.mp starts
    exact ⟨behind, same.symm⟩
  have host : writtenHost text = behind.takeWhile isHostChar := by
    rw [writtenHost, slashes]
    rfl
  refine ⟨scheme, writtenHost text, behind.dropWhile isHostChar, ?_, known, given, ?_, ?_,
    readable⟩
  · rw [spelled, slashes, host, List.takeWhile_append_dropWhile]
  · rw [host]
    exact fun c member => List.mem_takeWhile_imp member
  · exact Chars.head?_dropWhile isHostChar behind

section Web

variable {text : String} {scheme host rest : List Char}

theorem IsWeb.isAlpha_of_mem (web : IsWeb text scheme host rest) {c : Char} (member : c ∈ scheme) :
    c.isAlpha = true := by
  have all (name : String) (listed : name ∈ ["http", "https"]) :
      name.toList.all Char.isAlpha = true := by
    revert name
    decide
  have lower : c.toLower ∈ scheme.map Char.toLower := List.mem_map_of_mem member
  refine isAlpha_of_toLower ?_
  rcases web.scheme with same | same <;> rw [same] at lower
  · exact List.all_eq_true.mp (all "http" (by decide)) _ lower
  · exact List.all_eq_true.mp (all "https" (by decide)) _ lower

/-- What is spelled as an address of the web is read as one that can be visited. -/
theorem IsWeb.exists_read (web : IsWeb text scheme host rest) :
    ∃ address, read text = .ok address ∧ address.isReachable = true := by
  have nonempty : scheme ≠ [] := by
    rintro rfl
    exact absurd web.scheme (by decide)
  have split := splitScheme_of_letters nonempty (fun c => web.isAlpha_of_mem)
    ('/' :: '/' :: (host ++ rest))
  rw [← web.spelled] at split
  have written : writtenHost text = host := by
    rw [writtenHost, split]
    exact Chars.takeWhile_append_of_head? web.within web.ends
  refine ⟨_, read_eq_ok_iff.mpr ⟨written ▸ web.readable, rfl⟩, ?_⟩
  rw [isReachable_iff, split, written]
  exact ⟨web.scheme, web.given⟩

end Web

/-- The addresses that can be visited are those of the web. -/
theorem exists_reachable_iff (text : String) :
    (∃ address, read text = .ok address ∧ address.isReachable = true) ↔
      ∃ scheme host rest, IsWeb text scheme host rest := by
  constructor
  · rintro ⟨address, done, reachable⟩
    exact exists_isWeb_of_read done reachable
  · rintro ⟨scheme, host, rest, web⟩
    exact web.exists_read

end Address

namespace Precheck

open Address

/-- What is said of a base address that is none of the web. -/
def baseUrlError (baseUrl : String) : CaseError :=
  if baseUrl.isEmpty then .noBaseUrl else .badBaseUrl

theorem addressErrors_eq (baseUrl : String) :
    addressErrors baseUrl = (Address.read baseUrl).map fun address =>
      if address.isReachable then [] else [baseUrlError baseUrl] := by
  rw [addressErrors]
  by_cases empty : baseUrl.isEmpty = true
  · rw [if_pos empty, baseUrlError, if_pos empty, String.isEmpty_iff.mp empty]
    rfl
  · rw [if_neg empty, baseUrlError, if_neg empty]

/-- Nothing that is said of a step is said of the base address. -/
theorem baseUrlError_notMem_stepErrors (baseUrl : String) (number : Nat) (step : Step) :
    baseUrlError baseUrl ∉ stepErrors number step := by
  have other (error : CaseError) (listed : error ∈ stepErrors number step) :
      error ≠ .noBaseUrl ∧ error ≠ .badBaseUrl := by
    revert error
    rw [stepErrors]
    split
    · exact nofun
    · split <;> split <;> simp
    · split <;> simp
    · cases step.assertion with
      | none => simp [assertionErrors]
      | some assertion =>
          rw [assertionErrors]
          split
          · simp
          · split <;> simp
    · simp
  intro listed
  rw [baseUrlError] at listed
  split at listed
  · exact (other _ listed).1 rfl
  · exact (other _ listed).2 rfl

/-- The report on a case whose address is read names the address if it cannot be visited. -/
theorem exists_ofCase_of_read {case : TestCase} {address : Address}
    (read : Address.read case.heading.baseUrl = .ok address) :
    ∃ check, ofCase case = .ok check ∧
      (baseUrlError case.heading.baseUrl ∈ check.errors ↔ address.isReachable = false) := by
  have found := addressErrors_eq case.heading.baseUrl
  rw [read] at found
  refine ⟨_, by rw [ofCase, found]; rfl, ?_⟩
  have noSteps : baseUrlError case.heading.baseUrl ≠ .noSteps := by
    rw [baseUrlError]
    split <;> exact CaseError.noConfusion
  have inSteps (entries : List (Step × Nat)) : baseUrlError case.heading.baseUrl ∉
      entries.flatMap fun entry => stepErrors entry.2 entry.1 := by
    rw [List.mem_flatMap]
    rintro ⟨entry, -, listed⟩
    exact baseUrlError_notMem_stepErrors _ entry.2 entry.1 listed
  rw [List.mem_append, List.mem_append, or_iff_left (inSteps _)]
  cases reachable : address.isReachable <;> cases case.steps.isEmpty <;>
    simp [reachable, noSteps]

/-- A case whose address has a host that can be read is reported on. The report names the address
exactly if it is none of the web, and a case with errors is refused without a browser. The check of
any other case ends with the fault of its host, and so does its execution, without a browser too. -/
theorem exists_report_or_fault (case : TestCase) {σ : Type} (runner : Runner σ) (state : σ) :
    (IsReadable (writtenHost case.heading.baseUrl) ∧ ∃ check, ofCase case = .ok check ∧
      (baseUrlError case.heading.baseUrl ∈ check.errors ↔
        ¬ ∃ scheme host rest, IsWeb case.heading.baseUrl scheme host rest) ∧
      (check.isValid = false → ∃ result,
        runner.execute case state = ⟨.ok result, [], state⟩ ∧
        result.status = Status.failed.name ∧
        result.error = some (", ".intercalate (check.errors.map CaseError.message)))) ∨
    (¬ IsReadable (writtenHost case.heading.baseUrl) ∧ ∃ fault, ofCase case = .error fault ∧
      runner.execute case state = ⟨.error (.address fault), [], state⟩) := by
  cases read : Address.read case.heading.baseUrl with
  | ok address =>
      obtain ⟨check, checked, named⟩ := exists_ofCase_of_read read
      refine .inl ⟨(read_eq_ok_iff.mp read).1, check, checked, ?_, fun invalid => ?_⟩
      · rw [named, ← exists_reachable_iff, read]
        simp
      · refine ⟨Runner.refusal check.errors (runner.clock 0 1), ?_, rfl, rfl⟩
        rw [Runner.execute, checked]
        simp only [invalid, Bool.false_eq_true, if_false]
  | error fault =>
      have unreadable : ¬ IsReadable (writtenHost case.heading.baseUrl) := fun readable => by
        rw [read_eq_ok_iff.mpr ⟨readable, rfl⟩] at read
        cases read
      have checked : ofCase case = .error fault := by
        rw [ofCase, addressErrors_eq, read]
        rfl
      exact .inr ⟨unreadable, fault, checked, by rw [Runner.execute, checked]⟩

/-- An open bracket in the host leaves the check without a report. -/
theorem exists_case_without_report :
    ¬ ∀ case : TestCase, ∃ check, ofCase case = .ok check ∧
      ((¬ ∃ scheme host rest, IsWeb case.heading.baseUrl scheme host rest) →
        baseUrlError case.heading.baseUrl ∈ check.errors) := by
  intro all
  obtain ⟨check, checked, -⟩ := all ⟨⟨"menu", "http://[", none, []⟩, [.goto "/"]⟩
  have refused : ofCase ⟨⟨"menu", "http://[", none, []⟩, [.goto "/"]⟩ = .error .brackets := by
    decide +kernel
  rw [refused] at checked
  cases checked

end Precheck

end PlainScript
