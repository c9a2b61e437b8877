/-
Pages of reports: which tags they have, and which text stands between them, depends on the results
only in the texts that are shown. No text of a result adds a tag or leaves a quoted attribute.
-/

import PlainScript.Proofs.Computation
import PlainScript.Proofs.Number.Text
import PlainScript.Proofs.Report.Markup
import PlainScript.Proofs.Report.Stats

namespace PlainScript

/-! Durations -/

section

open Number

/-- Milliseconds can be told: their minutes are no number that is too large, and they have not too
many digits where they are told themselves. -/
structure IsTellable (milliseconds : Int) : Prop where
  bounded : milliseconds < (Double.limit * 60000 : Nat)
  short : milliseconds < 1000 → isShort milliseconds = true

theorem isTellable_of_le {milliseconds : Int} (least : 1000 ≤ milliseconds) :
    IsTellable milliseconds ↔ milliseconds < (Double.limit * 60000 : Nat) :=
  ⟨IsTellable.bounded, fun bounded => ⟨bounded, fun less => absurd less (Int.not_lt_of_ge least)⟩⟩

/-- Milliseconds have a text if they can be told. -/
theorem exists_durationText_iff (milliseconds : Int) :
    (∃ text, durationText milliseconds = .ok text) ↔ IsTellable milliseconds := by
  by_cases few : milliseconds < 1000
  · have bounded : milliseconds < (Double.limit * 60000 : Nat) := by
      have large := Double.le_limit
      generalize Double.limit = limit at *
      omega
    rw [durationText, if_pos few]
    split
    · rename_i short
      exact iff_of_true ⟨_, rfl⟩ ⟨bounded, fun _ => short⟩
    · rename_i long
      exact iff_of_false (fun ⟨_, shown⟩ => nomatch shown) fun told => long (told.short few)
  rw [isTellable_of_le (Int.not_lt.mp few), durationText, if_neg few]
  have large := Double.le_limit
  have found {divisor : Nat} := @quotient_of_lt milliseconds divisor
  have missing {divisor : Nat} := @quotient_of_le milliseconds divisor
  generalize Double.limit = limit at *
  split
  · rw [found (by omega)]
    exact iff_of_true ⟨_, rfl⟩ (by omega)
  · by_cases small : milliseconds < (limit * 60000 : Nat)
    · rw [found (by omega)]
      exact iff_of_true ⟨_, rfl⟩ small
    · rw [missing (by decide) (by omega)]
      exact iff_of_false (fun ⟨_, shown⟩ => nomatch shown) small

end

namespace Report

open Number

/-! Plain texts -/

/-- No character of the text is one that the markup of a page is made of. -/
def IsInert (text : String) : Prop := ∀ c ∈ text.toList, isMark c = false ∧ c ≠ '&'

theorem IsInert.append {first second : String} (front : IsInert first) (back : IsInert second) :
    IsInert (first ++ second) := by
  intro c member
  rw [String.toList_append, List.mem_append] at member
  exact member.elim (front c) (back c)

theorem IsInert.marks_eq {text : String} (inert : IsInert text) : marks text = [] :=
  marks_eq_nil fun c member => (inert c member).1

def textTokens (text : String) : List Token := text.toList.map .char

theorem IsInert.reads {text : String} (inert : IsInert text) :
    Reads text.toList (textTokens text) :=
  reads_of_plain fun c member => ⟨fun opening => absurd (inert c member).1 (by simp [opening, isMark]),
    (inert c member).2⟩

theorem isInert_of_all {chars : List Char}
    (all : (chars.all fun c => !isMark c && c != '&') = true) : IsInert (.ofList chars) := by
  intro c member
  rw [String.toList_ofList] at member
  simpa using List.all_eq_true.mp all c member

/-- Numbers have no marks. -/
theorem isInert_of_isNumeral {text : String} (numeral : IsNumeral text) : IsInert text := by
  have none : ['<', '>', '"', '&'].all (!isNumeral ·) = true := by decide
  intro c member
  have other : c ∉ ['<', '>', '"', '&'] := fun mark => by
    simpa [numeral c member] using List.all_eq_true.mp none c mark
  simpa [isMark, and_assoc] using other

theorem isInert_durationText {milliseconds : Int} {text : String}
    (shown : durationText milliseconds = .ok text) : IsInert text := by
  rw [durationText] at shown
  split at shown
  · split at shown
    · rw [← Except.ok.inj shown]
      exact (isInert_of_isNumeral (isNumeral_toString_int _)).append (isInert_of_all (by decide))
    · cases shown
  · split at shown
    all_goals
      obtain ⟨number, -, same⟩ := Except.exists_of_map_eq_ok shown
      rw [← same]
      exact (isInert_of_isNumeral number.isNumeral_tenthsText).append
        (isInert_of_all (by decide))

/-! The tokens of a result -/

/-- A written piece is read by its characters. -/
theorem reads_ofList {chars : List Char} {tokens : List Token}
    (reads : readChars .text chars = (tokens, .text)) :
    Reads (String.ofList chars).toList tokens := by
  rwa [Reads, String.toList_ofList]

def lineChars (line : String) : List Char := line.toList ++ ['\n']

/-- A paragraph with a label in front of what is shown. -/
def paragraph (label : String) (shown : List Token) : List Token :=
  textTokens "        " ++ [.tag "p".toList, .tag "strong".toList] ++ textTokens (label ++ ":") ++
    [.tag "/strong".toList] ++ textTokens " " ++ shown ++ [.tag "/p".toList] ++ textTokens "\n"

theorem reads_labelled {label text : String} {shown : List Token} (inert : IsInert label)
    (reads : Reads text.toList shown) :
    Reads (lineChars (labelled label text)) (paragraph label shown) := by
  have opening : Reads "        <p><strong>".toList
      (textTokens "        " ++ [.tag "p".toList, .tag "strong".toList]) := reads_ofList (by decide)
  have middle : Reads ":</strong> ".toList
      (textTokens ":" ++ [.tag "/strong".toList] ++ textTokens " ") := reads_ofList (by decide)
  have closing : Reads "</p>\n".toList ([.tag "/p".toList] ++ textTokens "\n") :=
    reads_ofList (by decide)
  have whole := (((opening.append inert.reads).append middle).append reads).append closing
  unfold lineChars labelled paragraph
  simpa [textTokens] using whole

/-- The tags of a result, and the texts between them: the status in capitals, the message, the
duration and the error. -/
def resultTokens (result : TestResult) (duration : Option String) : List Token :=
  textTokens "    " ++ [.tag ("div class=\"test-result " ++ escape result.status ++ "\"").toList] ++
    textTokens "\n        " ++ [.tag "h3".toList] ++ textTokens (Text.upper result.status) ++
    [.tag "/h3".toList] ++ textTokens "\n" ++ paragraph "Message" (textTokens result.message) ++
    duration.toList.flatMap (fun text => paragraph "Duration" (textTokens text)) ++
    result.shownError.toList.flatMap (fun error => paragraph "Error" (textTokens error)) ++
    textTokens "    " ++ [.tag "/div".toList] ++ textTokens "\n"

/-- The first line of a result opens its tag, with the status as a class. -/
theorem reads_opening (result : TestResult) :
    Reads ("    <div class=\"test-result " ++ escape result.status ++ "\">").toList
      (textTokens "    " ++
        [.tag ("div class=\"test-result " ++ escape result.status ++ "\"").toList]) := by
  have blank : Reads "    ".toList (textTokens "    ") := reads_ofList (by decide)
  have front : ∀ c ∈ "div class=".toList, c ≠ '>' ∧ c ≠ '"' := by simp
  have inside : ∀ c ∈ ("test-result " ++ escape result.status).toList, c ≠ '>' ∧ c ≠ '"' := by
    intro c member
    rw [String.toList_append, List.mem_append] at member
    rcases member with fixed | escaped
    · revert c
      simp
    · have clean := isMark_eq_false_of_mem_escape _ c escaped
      simp only [isMark, Bool.or_eq_false_iff, beq_eq_false_iff_ne] at clean
      exact ⟨clean.1.2, clean.2⟩
  have whole := blank.append (reads_tag_quoted front inside)
  simpa [textTokens] using whole

theorem reads_pageResult (result : TestResult) {duration : Option String}
    (inert : ∀ text ∈ duration, IsInert text) :
    Reads ((pageResult result duration).flatMap lineChars) (resultTokens result duration) := by
  have heading : Reads "\n        <h3>".toList (textTokens "\n        " ++ [.tag "h3".toList]) :=
    reads_ofList (by decide)
  have headingEnd : Reads "</h3>\n".toList ([.tag "/h3".toList] ++ textTokens "\n") :=
    reads_ofList (by decide)
  have message := reads_labelled (isInert_of_all (by decide) : IsInert "Message")
    (reads_escape result.message)
  have durations : Reads ((duration.toList.map (labelled "Duration")).flatMap lineChars)
      (duration.toList.flatMap fun text => paragraph "Duration" (textTokens text)) := by
    rw [List.flatMap_map]
    exact reads_flatMap fun text member => reads_labelled (isInert_of_all (by decide))
      (inert text (Option.mem_toList.mp member)).reads
  have errors : Reads ((result.shownError.toList.map fun error =>
      labelled "Error" (escape error)).flatMap lineChars)
      (result.shownError.toList.flatMap fun error => paragraph "Error" (textTokens error)) := by
    rw [List.flatMap_map]
    exact reads_flatMap fun error _ => reads_labelled (isInert_of_all (by decide))
      (reads_escape error)
  have closing : Reads "    </div>\n".toList
      (textTokens "    " ++ [.tag "/div".toList] ++ textTokens "\n") := reads_ofList (by decide)
  have whole := ((((((reads_opening result).append heading).append
    (reads_escape (Text.upper result.status))).append headingEnd).append message).append
      durations).append (errors.append closing)
  unfold pageResult resultTokens
  simpa [lineChars, textTokens] using whole

/-! The marks of a result -/

theorem marks_ofList (chars : List Char) : marks (.ofList chars) = chars.filter isMark := by
  rw [marks, String.toList_ofList]

theorem marks_labelled {label text : String} (inert : IsInert label) (unmarked : marks text = []) :
    marks (labelled label text) = ['<', '>', '<', '>', '<', '>', '<', '>'] := by
  have opening : marks "        <p><strong>" = ['<', '>', '<', '>'] :=
    (marks_ofList _).trans (by decide)
  have middle : marks ":</strong> " = ['<', '>'] := (marks_ofList _).trans (by decide)
  have closing : marks "</p>" = ['<', '>'] := (marks_ofList _).trans (by decide)
  unfold labelled
  simp only [marks_append, opening, middle, closing, inert.marks_eq, unmarked]
  rfl

/-- Whether a duration and an error of the result are shown. -/
def shows (result : TestResult) : Bool × Bool :=
  (result.shownDuration.isSome, result.shownError.isSome)

/-- The marks of a result that shows a duration or an error or not. -/
def resultMarks (shown : Bool × Bool) : List Char :=
  ['<', '"', '"', '>', '<', '>', '<', '>', '<', '>', '<', '>', '<', '>', '<', '>'] ++
    (if shown.1 then ['<', '>', '<', '>', '<', '>', '<', '>'] else []) ++
      (if shown.2 then ['<', '>', '<', '>', '<', '>', '<', '>'] else []) ++ ['<', '>']

/-- A duration has an inert text exactly where it is shown. -/
theorem isSome_durationText? {result : TestResult} {duration : Option String}
    (written : result.durationText? = .ok duration) :
    duration.isSome = result.shownDuration.isSome ∧ ∀ text ∈ duration, IsInert text := by
  rw [TestResult.durationText?] at written
  cases same : result.shownDuration with
  | none =>
      rw [same] at written
      cases written
      exact ⟨rfl, nofun⟩
  | some milliseconds =>
      rw [same] at written
      obtain ⟨text, shown, rfl⟩ := Except.exists_of_map_eq_ok written
      refine ⟨rfl, ?_⟩
      rintro _ ⟨⟩
      exact isInert_durationText shown

theorem flatMap_marks_pageResult {result : TestResult} {duration : Option String}
    (written : result.durationText? = .ok duration) :
    (pageResult result duration).flatMap marks = resultMarks (shows result) := by
  obtain ⟨isShown, inert⟩ := isSome_durationText? written
  have front : marks "    <div class=\"test-result " = ['<', '"'] :=
    (marks_ofList _).trans (by decide)
  have back : marks "\">" = ['"', '>'] := (marks_ofList _).trans (by decide)
  have heading : marks "        <h3>" = ['<', '>'] := (marks_ofList _).trans (by decide)
  have headingEnd : marks "</h3>" = ['<', '>'] := (marks_ofList _).trans (by decide)
  have message := marks_labelled (isInert_of_all (by decide) : IsInert "Message")
    (marks_escape result.message)
  have durations : (duration.toList.map (labelled "Duration")).flatMap marks =
      if duration.isSome then ['<', '>', '<', '>', '<', '>', '<', '>'] else [] := by
    cases duration with
    | none => rfl
    | some text =>
        exact (List.flatMap_singleton _ _).trans
          (marks_labelled (isInert_of_all (by decide)) (inert text rfl).marks_eq)
  have errors : (result.shownError.toList.map fun error => labelled "Error" (escape error)).flatMap
      marks = if result.shownError.isSome then ['<', '>', '<', '>', '<', '>', '<', '>'] else [] := by
    cases result.shownError with
    | none => rfl
    | some error =>
        exact (List.flatMap_singleton _ _).trans
          (marks_labelled (isInert_of_all (by decide)) (marks_escape error))
  have closing : marks "    </div>" = ['<', '>'] := (marks_ofList _).trans (by decide)
  unfold pageResult
  simp only [List.flatMap_append, List.flatMap_cons, List.flatMap_nil, marks_append, marks_escape,
    durations, errors, front, back, heading, headingEnd, message, closing, isShown]
  rfl

/-! Pages -/

/-- Joined lines that end with a line feed are each line with one behind it. -/
theorem toList_intercalate_append {lines : List String} (some : lines ≠ []) :
    ("\n".intercalate lines ++ "\n").toList = lines.flatMap lineChars := by
  have feed : ("\n".toList : List Char) = ['\n'] := rfl
  rw [String.toList_append, String.toList_intercalate, feed]
  induction lines with
  | nil => exact absurd rfl some
  | cons first lines ih =>
      cases lines with
      | nil => simp [lineChars]
      | cons second lines =>
          have later := ih (List.cons_ne_nil second lines)
          rw [List.map_cons] at later
          rw [List.map_cons, List.map_cons, List.intercalate_cons_cons, List.append_assoc,
            List.append_assoc, later]
          exact (List.append_assoc _ _ _).symm

theorem marks_intercalate_append {lines : List String} (some : lines ≠ []) :
    marks ("\n".intercalate lines ++ "\n") = lines.flatMap marks := by
  have each : (fun line => (lineChars line).filter isMark) = marks := by
    funext line
    rw [lineChars, List.filter_append, marks]
    exact List.append_nil _
  rw [marks, toList_intercalate_append some, List.filter_flatMap, each]

def summaryMarks : List Char :=
  ['<', '"', '"', '>', '<', '>', '<', '>', '<', '>', '<', '>', '<', '>', '<', '>', '<', '>']

/-- The summary has the same marks, whatever the statistics are. -/
theorem flatMap_marks_pageSummary (stats : TestStats) {duration : String}
    (inert : IsInert duration) : (pageSummary stats duration).flatMap marks = summaryMarks := by
  have number (count : Nat) : marks (toString count) = [] :=
    (isInert_of_isNumeral (isNumeral_toString_nat count)).marks_eq
  have rate := (isInert_of_isNumeral stats.passRate.isNumeral_tenthsText).marks_eq
  have counts : marks "        <p>Total: " = ['<', '>'] ∧ marks " | Passed: " = [] ∧
      marks " | Failed: " = [] ∧ marks " | Skipped: " = [] ∧ marks "</p>" = ['<', '>'] :=
    ⟨(marks_ofList _).trans (by decide), (marks_ofList _).trans (by decide),
      (marks_ofList _).trans (by decide), (marks_ofList _).trans (by decide),
      (marks_ofList _).trans (by decide)⟩
  obtain ⟨total, passed, failed, skipped, stop⟩ := counts
  have shares : marks "        <p>Pass Rate: " = ['<', '>'] ∧
      marks "% | Total Duration: " = [] :=
    ⟨(marks_ofList _).trans (by decide), (marks_ofList _).trans (by decide)⟩
  have frame : marks "    <div class=\"stats\">" = ['<', '"', '"', '>'] ∧
      marks "        <h2>Summary</h2>" = ['<', '>', '<', '>'] ∧ marks "    </div>" = ['<', '>'] :=
    ⟨(marks_ofList _).trans (by decide), (marks_ofList _).trans (by decide),
      (marks_ofList _).trans (by decide)⟩
  unfold pageSummary
  simp only [List.flatMap_cons, List.flatMap_nil, marks_append, number, rate, total, passed, failed,
    skipped, stop, shares, frame, inert.marks_eq]
  rfl

/-! Whole texts -/

/-- The text is read from within a text to within a text. -/
def IsWhole (text : String) : Prop := ∃ tokens, Reads text.toList tokens

theorem isWhole_ofList {chars : List Char} (ends : (readChars .text chars).2 = .text) :
    IsWhole (.ofList chars) :=
  ⟨_, reads_ofList (Prod.ext rfl ends)⟩

theorem IsInert.isWhole {text : String} (inert : IsInert text) : IsWhole text := ⟨_, inert.reads⟩

theorem IsWhole.append {first second : String} (front : IsWhole first) (back : IsWhole second) :
    IsWhole (first ++ second) := by
  obtain ⟨_, reads⟩ := front
  obtain ⟨_, later⟩ := back
  exact ⟨_, by rw [String.toList_append]; exact reads.append later⟩

theorem exists_reads_flatMap {lines : List String} (whole : ∀ line ∈ lines, IsWhole line) :
    ∃ tokens, Reads (lines.flatMap lineChars) tokens := by
  induction lines with
  | nil => exact ⟨[], reads_nil⟩
  | cons line lines ih =>
      rw [List.forall_mem_cons] at whole
      obtain ⟨⟨_, first⟩, rest⟩ := whole
      obtain ⟨_, later⟩ := ih rest
      have feed : Reads ['\n'] [.char '\n'] := rfl
      exact ⟨_, (first.append feed).append later⟩

theorem isWhole_intercalate {lines : List String} (whole : ∀ line ∈ lines, IsWhole line) :
    IsWhole ("\n".intercalate lines) := by
  have feed : ("\n".toList : List Char) = ['\n'] := rfl
  rw [IsWhole, String.toList_intercalate, feed]
  induction lines with
  | nil => exact ⟨[], reads_nil⟩
  | cons first lines ih =>
      rw [List.forall_mem_cons] at whole
      obtain ⟨⟨_, reads⟩, rest⟩ := whole
      cases lines with
      | nil => exact ⟨_, by rwa [List.map_singleton, List.intercalate_singleton]⟩
      | cons second lines =>
          obtain ⟨_, later⟩ := ih rest
          have feed : Reads ['\n'] [.char '\n'] := rfl
          rw [List.map_cons, List.map_cons, List.intercalate_cons_cons]
          exact ⟨_, (reads.append feed).append later⟩

theorem isWhole_of_all {chars : List Char}
    (all : (chars.all fun c => !isMark c && c != '&') = true) : IsWhole (.ofList chars) :=
  (isInert_of_all all).isWhole

theorem isWhole_pageHead : IsWhole pageHead := by
  unfold pageHead
  refine isWhole_intercalate ?_
  simp only [List.forall_mem_cons]
  refine ⟨?_, ?_, ?_, ?_, ?_, ?_, ?_, ?_, ?_, ?_, ?_, ?_, ?_, ?_, ?_, ⟨[], reads_nil⟩, nofun⟩
  iterate 5 exact isWhole_ofList (by decide)
  · exact isWhole_of_all (by decide)
  · exact (isWhole_of_all (by decide)).append (isWhole_of_all (by decide))
  · exact (isWhole_of_all (by decide)).append (isWhole_of_all (by decide))
  iterate 3 exact isWhole_of_all (by decide)
  iterate 4 exact isWhole_ofList (by decide)

theorem isWhole_of_mem_pageSummary (stats : TestStats) {duration : String}
    (inert : IsInert duration) : ∀ line ∈ pageSummary stats duration, IsWhole line := by
  have number (count : Nat) : IsWhole (toString count) :=
    (isInert_of_isNumeral (isNumeral_toString_nat count)).isWhole
  have rate := (isInert_of_isNumeral stats.passRate.isNumeral_tenthsText).isWhole
  have opening : IsWhole "        <p>Total: " := isWhole_ofList (by decide)
  have passed : IsWhole " | Passed: " := isWhole_ofList (by decide)
  have failed : IsWhole " | Failed: " := isWhole_ofList (by decide)
  have skipped : IsWhole " | Skipped: " := isWhole_ofList (by decide)
  have closing : IsWhole "</p>" := isWhole_ofList (by decide)
  have share : IsWhole "        <p>Pass Rate: " := isWhole_ofList (by decide)
  have whole : IsWhole "% | Total Duration: " := isWhole_ofList (by decide)
  unfold pageSummary
  simp only [List.forall_mem_cons]
  refine ⟨isWhole_ofList (by decide), isWhole_ofList (by decide), ?_, ?_, isWhole_ofList (by decide),
    nofun⟩
  · exact ((((((((opening.append (number _)).append passed).append (number _)).append failed).append
      (number _)).append skipped).append (number _)).append closing)
  · exact (((share.append rate).append whole).append inert.isWhole).append closing

/-! Pages of results -/

/-- The texts of the results can be written: the durations can be told, on average, in sum and each
for itself. -/
structure IsPrintable (results : List TestResult) : Prop where
  measurable : TestStats.IsMeasurable results
  total : IsTellable (TestStats.totalOf results)
  durations : ∀ result ∈ results, ∀ duration ∈ result.shownDuration, IsTellable duration

theorem exists_durationText?_iff (result : TestResult) :
    (∃ duration, result.durationText? = .ok duration) ↔
      ∀ duration ∈ result.shownDuration, IsTellable duration := by
  rw [TestResult.durationText?]
  cases result.shownDuration with
  | none => exact iff_of_true ⟨none, rfl⟩ nofun
  | some milliseconds =>
      constructor
      · rintro ⟨duration, written⟩ _ ⟨⟩
        obtain ⟨text, shown, -⟩ := Except.exists_of_map_eq_ok written
        exact (exists_durationText_iff milliseconds).mp ⟨text, shown⟩
      · intro small
        obtain ⟨text, shown⟩ := (exists_durationText_iff milliseconds).mpr (small _ rfl)
        exact ⟨some text, by rw [Option.mapM_some, shown]; rfl⟩

/-- The lines of a result, with the text of its duration. -/
def HasLines (result : TestResult) (lines : List String) : Prop :=
  ∃ duration, result.durationText? = .ok duration ∧ lines = pageResult result duration

/-- A page has a head with the statistics and the lines of every result. -/
theorem html_eq_ok_iff {results : List TestResult} {page : String} :
    html results = .ok page ↔ ∃ stats duration parts, TestStats.ofResults results = .ok stats ∧
      durationText stats.totalDuration = .ok duration ∧
      List.Forall₂ HasLines results parts ∧
      page = "\n".intercalate (pageHead :: pageSummary stats duration ++ parts.flatten ++
        ["</body>", "</html>"]) ++ "\n" := by
  have lines (result : TestResult) (lines : List String) :
      (result.durationText? >>= fun duration => pure (pageResult result duration)) = .ok lines ↔
        HasLines result lines := by
    constructor
    · intro written
      obtain ⟨duration, shown, same⟩ := Except.exists_of_bind_eq_ok written
      exact ⟨duration, shown, (Except.ok.inj same).symm⟩
    · rintro ⟨duration, shown, rfl⟩
      rw [shown]
      rfl
  constructor
  · intro written
    obtain ⟨stats, measured, written⟩ := Except.exists_of_bind_eq_ok written
    obtain ⟨duration, shown, written⟩ := Except.exists_of_bind_eq_ok written
    obtain ⟨parts, printed, written⟩ := Except.exists_of_bind_eq_ok written
    rw [Except.mapM_eq_ok_iff] at printed
    exact ⟨stats, duration, parts, measured, shown, printed.imp fun _ _ => (lines _ _).mp,
      (Except.ok.inj written).symm⟩
  · rintro ⟨stats, duration, parts, measured, shown, printed, rfl⟩
    have written : results.mapM (fun result => result.durationText? >>= fun duration =>
        (pure (pageResult result duration) : Except ReportFault _)) = .ok parts :=
      Except.mapM_eq_ok_iff.mpr (printed.imp fun _ _ => (lines _ _).mpr)
    change (TestStats.ofResults results >>= _) = _
    rw [measured]
    change (durationText stats.totalDuration >>= _) = _
    rw [shown]
    change ((results.mapM _ : Except ReportFault _) >>= _) = _
    rw [written]
    rfl

theorem exists_html_iff (results : List TestResult) :
    (∃ page, html results = .ok page) ↔ IsPrintable results := by
  constructor
  · rintro ⟨page, written⟩
    obtain ⟨stats, duration, parts, measured, shown, printed, -⟩ := html_eq_ok_iff.mp written
    have measurable : TestStats.IsMeasurable results := by
      refine Decidable.byContradiction fun large => ?_
      rw [TestStats.ofResults_of_not_isMeasurable large] at measured
      cases measured
    obtain ⟨found, measured', total⟩ := TestStats.exists_ofResults_of_isMeasurable measurable
    obtain rfl : found = stats := Except.ok.inj (measured'.symm.trans measured)
    refine ⟨measurable, ?_, fun result member => ?_⟩
    · rw [← total]
      exact (exists_durationText_iff _).mp ⟨duration, shown⟩
    · obtain ⟨lines, -, duration, shown, -⟩ := exists_related_of_mem printed member
      exact (exists_durationText?_iff result).mp ⟨duration, shown⟩
  · rintro ⟨measurable, total, durations⟩
    obtain ⟨stats, measured, same⟩ := TestStats.exists_ofResults_of_isMeasurable measurable
    obtain ⟨duration, shown⟩ := (exists_durationText_iff _).mpr (same ▸ total)
    have printed : ∀ result ∈ results, ∃ lines, HasLines result lines := fun result member =>
      let ⟨duration, shown⟩ := (exists_durationText?_iff result).mpr (durations result member)
      ⟨_, duration, shown, rfl⟩
    obtain ⟨parts, printed⟩ := exists_related printed
    exact ⟨_, html_eq_ok_iff.mpr ⟨stats, duration, parts, measured, shown, printed, rfl⟩⟩

/-- The marks of the lines of results depend on what is shown of them. -/
theorem flatMap_marks_flatten {results : List TestResult} {parts : List (List String)}
    (printed : List.Forall₂ HasLines results parts) :
    parts.flatten.flatMap marks = (results.map shows).flatMap resultMarks := by
  induction printed with
  | nil => rfl
  | cons here _ ih =>
      obtain ⟨duration, shown, rfl⟩ := here
      rw [List.flatten_cons, List.flatMap_append, ih, flatMap_marks_pageResult shown,
        List.map_cons, List.flatMap_cons]

/-- The tokens of a result, with the text of its duration. -/
def HasTokens (result : TestResult) (block : List Token) : Prop :=
  ∃ duration, result.durationText? = .ok duration ∧ block = resultTokens result duration

theorem exists_reads_flatten {results : List TestResult} {parts : List (List String)}
    (printed : List.Forall₂ HasLines results parts) :
    ∃ blocks, List.Forall₂ HasTokens results blocks ∧
      Reads (parts.flatten.flatMap lineChars) blocks.flatten := by
  induction printed with
  | nil => exact ⟨[], .nil, reads_nil⟩
  | @cons result _ _ _ here _ ih =>
      obtain ⟨duration, shown, rfl⟩ := here
      obtain ⟨blocks, later, reads⟩ := ih
      have first := reads_pageResult result (isSome_durationText? shown).2
      refine ⟨_ :: blocks, .cons ⟨duration, shown, rfl⟩ later, ?_⟩
      rw [List.flatten_cons, List.flatMap_append, List.flatten_cons]
      exact first.append reads

/-- Behind a head the page has the tags of each result and its texts between them, and closes. -/
def Presents (page : String) (results : List TestResult) : Prop :=
  ∃ head blocks, List.Forall₂ HasTokens results blocks ∧
    readPage page = head ++ blocks.flatten ++
      ([.tag "/body".toList] ++ textTokens "\n" ++ [.tag "/html".toList] ++ textTokens "\n")

theorem presents_of_html {results : List TestResult} {page : String}
    (written : html results = .ok page) : Presents page results := by
  obtain ⟨stats, duration, parts, -, shown, printed, rfl⟩ := html_eq_ok_iff.mp written
  obtain ⟨front, reads⟩ : ∃ tokens, Reads
      ((pageHead :: pageSummary stats duration).flatMap lineChars) tokens :=
    exists_reads_flatMap (List.forall_mem_cons.mpr
      ⟨isWhole_pageHead, isWhole_of_mem_pageSummary stats (isInert_durationText shown)⟩)
  obtain ⟨blocks, has, later⟩ := exists_reads_flatten printed
  have closing : Reads (["</body>", "</html>"].flatMap lineChars)
      ([.tag "/body".toList] ++ textTokens "\n" ++ [.tag "/html".toList] ++ textTokens "\n") := by
    have body : Reads "</body>\n".toList ([.tag "/body".toList] ++ textTokens "\n") :=
      reads_ofList (by decide)
    have page : Reads "</html>\n".toList ([.tag "/html".toList] ++ textTokens "\n") :=
      reads_ofList (by decide)
    simpa [lineChars, textTokens] using body.append page
  refine ⟨front, blocks, has, Reads.readPage_eq ?_⟩
  rw [toList_intercalate_append (by simp), List.flatMap_append, List.flatMap_append]
  exact (reads.append later).append closing

/-- The marks of a page depend on what is shown of the results. -/
theorem marks_of_html {results : List TestResult} {page : String}
    (written : html results = .ok page) :
    marks page = marks pageHead ++ summaryMarks ++ (results.map shows).flatMap resultMarks ++
      ['<', '>', '<', '>'] := by
  obtain ⟨stats, duration, parts, -, shown, printed, rfl⟩ := html_eq_ok_iff.mp written
  have body : marks "</body>" = ['<', '>'] := (marks_ofList _).trans (by decide)
  have page : marks "</html>" = ['<', '>'] := (marks_ofList _).trans (by decide)
  rw [marks_intercalate_append (by simp), List.flatMap_append, List.flatMap_append,
    List.flatMap_cons, flatMap_marks_pageSummary stats (isInert_durationText shown),
    flatMap_marks_flatten printed, List.flatMap_cons, List.flatMap_singleton, body, page]
  rfl

/-- No text of a result is taken for markup. A page is written where its durations can be; the
text between its tags is that of the results, and its marks are those of every page for results of
which the same is shown. -/
theorem html_is_inert (results : List TestResult) :
    ((∃ page, html results = .ok page) ↔ IsPrintable results) ∧
      ∀ page, html results = .ok page → Presents page results ∧
        ∀ others other, others.map shows = results.map shows → html others = .ok other →
          marks other = marks page := by
  refine ⟨exists_html_iff results, fun page written => ⟨presents_of_html written, ?_⟩⟩
  intro others other alike written'
  rw [marks_of_html written, marks_of_html written', alike]

/-- Results without durations can be written. -/
theorem isPrintable_passed (message : String) :
    IsPrintable [{ status := "passed", message }] := by
  have total : TestStats.totalOf [{ status := "passed", message }] = 0 := rfl
  have some : 0 < Double.limit := Nat.lt_of_succ_lt Double.one_lt_limit
  refine ⟨?_, ?_, ?_⟩
  · rw [TestStats.IsMeasurable, total]
    exact Nat.mul_pos some Nat.one_pos
  · rw [total]
    exact ⟨Int.natCast_pos.mpr (Nat.mul_pos some (by decide)), fun _ => by decide⟩
  · refine List.forall_mem_singleton.mpr ?_
    rintro _ ⟨⟩

/-- A message that would be a script is shown as it is. -/
theorem html_is_inert_script :
    ∃ page other,
      html [{ status := "passed", message := "<script>alert(1)</script>" }] = .ok page ∧
      html [{ status := "passed", message := "fine" }] = .ok other ∧
      Presents page [{ status := "passed", message := "<script>alert(1)</script>" }] ∧
      marks other = marks page := by
  obtain ⟨page, written⟩ := (html_is_inert _).1.mpr
    (isPrintable_passed "<script>alert(1)</script>")
  obtain ⟨other, written'⟩ := (html_is_inert _).1.mpr (isPrintable_passed "fine")
  have ⟨presents, same⟩ := (html_is_inert _).2 page written
  exact ⟨page, other, written, written', presents,
    same [{ status := "passed", message := "fine" }] other rfl written'⟩

end Report

end PlainScript
