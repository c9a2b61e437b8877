/-
Where a step that navigates leads: the address in the code, and the one that a run visits. They are
the same unless the base address is accepted although it does not begin with its scheme as it is
read.
-/

import PlainScript.Proofs.Run.Accepted

namespace PlainScript

/-- A path below a base address with any other character than slashes is not the path itself. -/
theorem joinUrl_ne_self {base : String} {c : Char} (member : c ∈ base.toList) (other : c ≠ '/')
    (path : String) : joinUrl base path ≠ path := by
  intro same
  have chars : Chars.trimRightWhere (· == '/') base.toList ++ ['/'] ++
      path.toList.dropWhile (· == '/') =
        path.toList.takeWhile (· == '/') ++ path.toList.dropWhile (· == '/') := by
    rw [List.takeWhile_append_dropWhile]
    simpa [joinUrl, dropLastSlashes, dropSlashes] using congrArg String.toList same
  have slashes := List.append_cancel_right chars
  have kept : c ∈ Chars.trimRightWhere (· == '/') base.toList :=
    Chars.mem_trimRightWhere member (by simpa using other)
  have dropped : c ∈ path.toList.takeWhile (· == '/') := by
    rw [← slashes]
    exact List.mem_append_left _ kept
  exact other (by simpa using List.mem_takeWhile_imp dropped)

namespace Address

variable {base : String} {address : Address}

theorem mem_of_mem_kept {chars : List Char} {c : Char} (member : c ∈ kept chars) : c ∈ chars :=
  (List.dropWhile_suffix _).subset (List.mem_filter.mp member).1

/-- A scheme that is read stands in front of a colon. -/
theorem colon_mem_of_splitScheme {chars : List Char} (given : (splitScheme chars).1 ≠ []) :
    ':' ∈ chars := by
  by_contra absent
  apply given
  simp [splitScheme, absent]

theorem scheme_of_read (read : Address.read base = .ok address) :
    address.scheme = .ofList (splitScheme (kept base.toList)).1 := by
  simp only [Address.read, bind, Except.bind] at read
  split at read
  · cases read
  · cases read
    rfl

theorem scheme_eq_of_isReachable (reachable : address.isReachable = true) :
    address.scheme = "http" ∨ address.scheme = "https" := by
  simp only [isReachable, Bool.and_eq_true, Bool.or_eq_true, beq_iff_eq] at reachable
  exact reachable.1

/-- An address that can be visited holds a colon. -/
theorem colon_mem_of_isReachable (read : Address.read base = .ok address)
    (reachable : address.isReachable = true) : ':' ∈ base.toList := by
  apply mem_of_mem_kept
  apply colon_mem_of_splitScheme
  intro none
  have scheme := scheme_of_read read
  rw [none] at scheme
  rcases scheme_eq_of_isReachable reachable with same | same <;>
    · rw [same] at scheme
      exact absurd scheme (by decide)

/-- What begins with a scheme in small letters is read with that scheme. -/
theorem scheme_eq_of_startsWith {base : String} (read : Address.read base = .ok address)
    {name : List Char} (listed : name = ['h', 't', 't', 'p'] ∨ name = ['h', 't', 't', 'p', 's'])
    (begins : name ++ [':', '/', '/'] <+: base.toList) : address.scheme = .ofList name := by
  obtain ⟨rest, same⟩ := begins
  rw [scheme_of_read read, ← same]
  congr 1
  rcases listed with rfl | rfl <;> rfl

/-- An address that can be visited is one of the web as it is written exactly if it begins with its
scheme. -/
theorem isWebAddress_iff (read : Address.read base = .ok address)
    (reachable : address.isReachable = true) :
    isWebAddress base = true ↔ Text.startsWith base (address.scheme ++ "://") = true := by
  have begins (name : String) (listed : name.toList = ['h', 't', 't', 'p'] ∨
      name.toList = ['h', 't', 't', 'p', 's'])
      (starts : Text.startsWith base (name ++ "://") = true) : address.scheme = name := by
    rw [Text.startsWith, List.isPrefixOf_iff_prefix, String.toList_append] at starts
    rw [scheme_eq_of_startsWith read listed starts, String.ofList_toList]
  have whole : isWebAddress base = (Text.startsWith base ("http" ++ "://") ||
      Text.startsWith base ("https" ++ "://")) := rfl
  rw [whole, Bool.or_eq_true]
  constructor
  · rintro (starts | starts)
    · rwa [begins "http" (by decide) starts]
    · rwa [begins "https" (by decide) starts]
  · intro starts
    rcases scheme_eq_of_isReachable reachable with same | same
    · exact .inl (same ▸ starts)
    · exact .inr (same ▸ starts)

end Address

namespace Run

variable {base path : String} {address : Address}

/-- The code and a run lead to the same place exactly if the path is an address of its own or the
base address begins with its scheme. -/
theorem targetUrl_eq_visitedUrl_iff (read : Address.read base = .ok address)
    (reachable : address.isReachable = true) :
    targetUrl base path = visitedUrl base path ↔
      isWebAddress path = true ∨ Text.startsWith base (address.scheme ++ "://") = true := by
  rw [← Address.isWebAddress_iff read reachable]
  unfold targetUrl visitedUrl
  by_cases absolute : isWebAddress path = true
  · simp [absolute]
  · by_cases written : isWebAddress base = true
    · simp [absolute, written]
    · have apart := joinUrl_ne_self (Address.colon_mem_of_isReachable read reachable)
        (by decide) path
      simp [absolute, written, apart.symm]

/-- Where they differ, the code has the bare path. -/
theorem eq_of_targetUrl_ne_visitedUrl (apart : targetUrl base path ≠ visitedUrl base path) :
    targetUrl base path = path ∧ visitedUrl base path = joinUrl base path := by
  unfold targetUrl visitedUrl at apart ⊢
  by_cases absolute : isWebAddress path = true
  · simp [absolute] at apart
  · by_cases written : isWebAddress base = true
    · simp [absolute, written] at apart
    · simp [absolute, written]

/-- A step of a case that is accepted leads to the same place in code of every dialect and on every
page, if its path is an address of its own or the base address begins with its scheme as it is read,
in small letters and with nothing before or in it. In all other cases the code has the bare path. -/
theorem leads_to_same_place_iff_of_isValid {case : TestCase} {check : Precheck} {step : Step}
    (checked : Precheck.ofCase case = .ok check) (valid : check.isValid = true)
    (goes : step.kind? = some .goto) (given : filled step.path = some path) :
    ∃ address, Address.read case.heading.baseUrl = .ok address ∧ ∃ written visited,
      (∀ dialect : Dialect, dialect.statement case.heading.baseUrl step = .goto written) ∧
      (∀ {σ : Type} (page : Page σ) (timeout : Int),
        act page timeout case.heading.baseUrl step = onPage (page.goto visited)) ∧
      (written = visited ↔ isWebAddress path = true ∨
        Text.startsWith case.heading.baseUrl (address.scheme ++ "://") = true) ∧
      (written ≠ visited → written = path ∧ visited = joinUrl case.heading.baseUrl path) := by
  obtain ⟨address, read, reachable⟩ := (Precheck.accepts_of_isValid checked valid).address
  refine ⟨address, read, targetUrl case.heading.baseUrl path, visitedUrl case.heading.baseUrl path,
    ?_, ?_, targetUrl_eq_visitedUrl_iff read reachable, eq_of_targetUrl_ne_visitedUrl⟩
  · intro dialect
    simp only [Dialect.statement, goes, given]
  · intro σ page timeout
    simp only [act, goes, given, Option.getD_some]

/-- A path below an address in small letters. -/
theorem leads_to_same_place_login :
    let step := Step.goto "//login"
    Precheck.ofCase ⟨⟨"menu", "https://app.test/", none, []⟩, [step]⟩ = .ok ⟨[], [.noCheck]⟩ ∧
      ∃ url, (∀ dialect : Dialect, dialect.statement "https://app.test/" step = .goto url) ∧
        ∀ {σ : Type} (page : Page σ) (timeout : Int),
          act page timeout "https://app.test/" step = onPage (page.goto url) := by
  intro step
  have checked : Precheck.ofCase ⟨⟨"menu", "https://app.test/", none, []⟩, [step]⟩ =
      .ok ⟨[], [.noCheck]⟩ := by decide +kernel
  obtain ⟨address, read, written, visited, inCode, onPage, same, -⟩ :=
    @leads_to_same_place_iff_of_isValid "//login" _ _ step checked rfl (by decide) (by decide)
  have scheme : Address.read "https://app.test/" = .ok ⟨"https", "app.test"⟩ := by decide +kernel
  obtain rfl := Except.ok.inj (scheme.symm.trans read)
  obtain rfl := same.mpr (.inr (by decide +kernel))
  exact ⟨checked, written, inCode, onPage⟩

/-- A scheme in capitals is accepted, and only the run heeds it. -/
theorem exists_accepted_targetUrl_ne_visitedUrl :
    ¬ ∀ (case : TestCase) (check : Precheck) (path : String), Precheck.ofCase case = .ok check →
      check.isValid = true → path ≠ "" →
        targetUrl case.heading.baseUrl path = visitedUrl case.heading.baseUrl path := by
  intro all
  have checked : Precheck.ofCase ⟨⟨"menu", "HTTPS://app.test", none, []⟩, [.goto "/login"]⟩ =
      .ok ⟨[], [.noCheck]⟩ := by decide +kernel
  have same := all _ _ "/login" checked rfl (by decide)
  revert same
  decide +kernel

end Run

end PlainScript
