/-
Quoted text. A quotation that begins with one kind of quote is taken to end at the first quote of
either kind, and a connective word is no value even between quotes; so what stands between double
quotes is taken as it is if it has no apostrophe and is no connective word.
-/

import PlainScript.Proofs.Instruction.Annotation
import PlainScript.Proofs.Instruction.Taken
import PlainScript.Proofs.Text.Caseless

namespace PlainScript

open Regex Vocabulary

/-- An item that holds only of characters that are equal to no other ones heeds the case. -/
theorem Regex.takes_full {item : SetItem} (alone : ∀ d, item.holds d = true → Text.isAlone d = true)
    (c : Char) : item.takes .full c = item.holds c := by
  have same : (Folding.full.variants c).any item.holds = item.holds c := by
    rw [Bool.eq_iff_iff, List.any_eq_true]
    constructor
    · rintro ⟨d, variant, holds⟩
      by_cases other : c = d
      · exact other ▸ holds
      · exact absurd variant (Text.notMem_caseVariants (alone d holds) other)
    · intro holds
      exact ⟨c, Text.self_mem_caseVariants (alone c holds), holds⟩
  cases item with
  | category _ _ _ => rfl
  | one _ => exact same
  | range _ _ => exact same

/-- Where the items hold only of characters that are equal to no other ones, all others pass. -/
theorem Regex.holds_negated {items : List SetItem}
    (alone : ∀ d, items.any (·.holds d) = true → Text.isAlone d = true)
    (c : Char) : CharSet.holds ⟨true, items⟩ .full c = !items.any (·.holds c) := by
  have same : (items.any fun item => item.takes .full c) = items.any (·.holds c) := by
    rw [Bool.eq_iff_iff, List.any_eq_true, List.any_eq_true]
    refine exists_congr fun item => and_congr_right fun listed => ?_
    rw [takes_full fun d holds => alone d (List.any_eq_true.mpr ⟨item, listed, holds⟩)]
  rw [CharSet.holds, same, Bool.true_bne]

/-! Quotes -/

/-- Quotes of both kinds. -/
def quotes : List Char := ['\'', '"']

theorem holds_of_mem_quotes : ∀ c ∈ quotes,
    CharSet.holds ⟨false, marks "'\""⟩ .full c = true ∧
      CharSet.holds ⟨true, marks "'\""⟩ .full c = false := by
  decide

/-- Every other character may stand in a quotation, whatever its case. -/
theorem holds_of_notMem_quotes {c : Char} (unquoted : c ∉ quotes) :
    CharSet.holds ⟨true, marks "'\""⟩ .full c = true := by
  have items (d : Char) : (marks "'\"").any (·.holds d) = true ↔ d ∈ quotes := by
    have marks : marks "'\"" = [.one '\'', .one '"'] := by decide
    simp [marks, quotes, SetItem.holds]
  have alone : ∀ d ∈ quotes, Text.isAlone d = true := by decide
  rw [holds_negated fun d inside => alone d ((items d).mp inside), Bool.not_eq_true',
    ← Bool.not_eq_true, items]
  exact unquoted

variable {before after : List Char} {groups : List (Nat × Span)} {next : Next} {out : State}

/-- Where a quotation stands. -/
def quotedSpan (before front : List Char) (close : Char) (rest : List Char) : Span :=
  ⟨⟨'"' :: before, front ++ close :: rest⟩, ⟨front.reverse ++ '"' :: before, close :: rest⟩⟩

/-- A quotation is read up to the first quote of either kind. -/
theorem run_quoted {front rest : List Char} {close : Char} (nonempty : front ≠ [])
    (unquoted : ∀ c ∈ front, c ∉ quotes) (closes : close ∈ quotes)
    (found : next ⟨⟨close :: (front.reverse ++ '"' :: before), rest⟩,
      (1, quotedSpan before front close rest) :: groups⟩ = some out) :
    quoted.run ⟨⟨before, '"' :: (front ++ close :: rest)⟩, groups⟩ next = some out := by
  rw [quoted, run_all_cons]
  have opens : quoteMark.run ⟨⟨before, '"' :: (front ++ close :: rest)⟩, groups⟩ (fun later =>
      (all [group 1 (many1 (noneOf (marks "'\""))), quoteMark]).run later next) =
      (all [group 1 (many1 (noneOf (marks "'\""))), quoteMark]).run
        ⟨⟨'"' :: before, front ++ close :: rest⟩, groups⟩ next :=
    single_of_pass (holds_of_mem_quotes '"' (by decide)).1
  rw [opens, run_all_cons, run_group]
  refine run_many1_word nonempty (fun c member => holds_of_notMem_quotes (unquoted c member)) ?_ ?_
  · rintro c ⟨rfl⟩
    exact (holds_of_mem_quotes close closes).2
  · have ends : quoteMark.run ⟨⟨front.reverse ++ '"' :: before, close :: rest⟩,
        (1, quotedSpan before front close rest) :: groups⟩ next = some out :=
      (single_of_pass (holds_of_mem_quotes close closes).1).trans found
    exact ends

/-! Words in front of a quotation -/

/-- Words that may be left out are left out in front of a quotation. -/
theorem run_leading_quote {options : List Regex} (some : options ≠ [])
    (missed : ∀ option ∈ options, ∀ next,
      option.run ⟨⟨before, '"' :: after⟩, groups⟩ next = none) :
    (leading options).run ⟨⟨before, '"' :: after⟩, groups⟩ next =
      next ⟨⟨before, '"' :: after⟩, groups⟩ := by
  rw [leading]
  apply run_maybe_of_none
  rw [run_seq]
  exact run_choice_of_none some fun option member => missed option member _

/-- The words lead the first alternative of the field to a quotation. -/
def LeadsToQuotation (field : ValueField) (words : List Char) : Prop :=
  ∃ alternative others, alternatives field = alternative :: others ∧
    ∀ after next out, quoted.run ⟨⟨words.reverse, '"' :: after⟩, []⟩ next = some out →
      alternative.pattern.run ⟨⟨[], words ++ '"' :: after⟩, []⟩ next = some out

theorem blank_stops_at_quote : ∀ c ∈ ('"' :: after).head?, blankSet.holds .full c = false := by
  rintro c ⟨rfl⟩
  rfl

theorem leadsToQuotation_click : LeadsToQuotation .button ['c', 'l', 'i', 'c', 'k', ' '] := by
  refine ⟨_, _, rfl, fun after next out found => ?_⟩
  have edge : (Anchor.wordEdge false).holds
      ⟨[], ['c', 'l', 'i', 'c', 'k', ' '] ++ '"' :: after⟩ = true := rfl
  have parts : ['c', 'l', 'i', 'c', 'k', ' '] ++ '"' :: after =
      ['c', 'l', 'i', 'c', 'k'] ++ ' ' :: '"' :: after := rfl
  dsimp only
  rw [run_all_cons, wordEdge, run_anchor edge, run_all_cons, clickVerb, choice_cons_cons]
  apply run_alt_of_some
  rw [parts, run_caseless (by simp), run_all_cons, run_blanks blank_stops_at_quote, run_all_cons,
    run_leading_quote (by simp), run_all_cons, run_leading_quote (by simp)]
  · exact found
  · rintro option member next
    obtain rfl := List.mem_singleton.mp member
    exact run_caseless_of_ne (by decide)
  · rintro option member next
    obtain rfl := List.mem_singleton.mp member
    exact run_caseless_of_ne (by decide)

theorem leadsToQuotation_expect :
    LeadsToQuotation .expected ['e', 'x', 'p', 'e', 'c', 't', ' '] := by
  refine ⟨_, _, rfl, fun after next out found => ?_⟩
  have edge : (Anchor.wordEdge false).holds
      ⟨[], ['e', 'x', 'p', 'e', 'c', 't', ' '] ++ '"' :: after⟩ = true := rfl
  have parts : ['e', 'x', 'p', 'e', 'c', 't', ' '] ++ '"' :: after =
      ['e', 'x', 'p', 'e', 'c', 't'] ++ ' ' :: '"' :: after := rfl
  have toSee : phrase ["to", "see"] = all [caseless "to", blanks, caseless "see"] := rfl
  dsimp only
  rw [run_all_cons, wordEdge, run_anchor edge, run_all_cons, choice_cons_cons]
  apply run_alt_of_some
  rw [parts, run_caseless (by simp), run_all_cons, run_blanks blank_stops_at_quote, run_all_cons,
    run_leading_quote (by simp), run_all_cons, seen, run_all_cons, run_leading_quote (by simp),
    run_all_cons, run_leading_quote (by simp)]
  · exact found
  · rintro option member next
    rcases List.mem_pair.mp member with rfl | rfl
    · exact run_caseless_of_ne (by decide)
    · exact run_caseless_of_ne (by decide)
  · rintro option member next
    obtain rfl := List.mem_singleton.mp member
    exact run_caseless_of_ne (by decide)
  · rintro option member next
    obtain rfl := List.mem_singleton.mp member
    rw [toSee, run_all_cons]
    exact run_caseless_of_ne (by decide)

/-! Values between quotes -/

open Extraction

/-- Words that lead to a quotation, and the field that it is the value of. -/
structure Prompt where
  field : ValueField
  words : List Char
  leads : LeadsToQuotation field words
  loose : ∀ alternative ∈ alternatives field, alternative.verbatim = false
  unsecret : field ≠ .password
  nonempty : words ≠ []
  unblank : ∀ c ∈ words.head?, Text.isBlank c = false
  unlocked : ∀ c ∈ words, c ∉ Lock.opening

namespace Prompt

variable (prompt : Prompt) {s : String}

/-- The words and a text between double quotes. -/
def text (s : String) : String := .ofList (prompt.words ++ '"' :: (s.toList ++ ['"']))

/-- A quotation without annotations in it is extracted from as it stands. -/
theorem strip_text (unlocked : Text.contains s "[LOCK" = false) :
    Lock.strip (prompt.text s) = prompt.text s := by
  have absent : ¬ Lock.opening <:+: s.toList := (Text.contains_eq_false_iff s "[LOCK").mp unlocked
  have foreign : '"' ∉ Lock.opening := by
    rw [Lock.opening_eq]
    decide
  have named : Lock.opening ≠ [] := by
    rw [Lock.opening_eq]
    exact List.cons_ne_nil _ _
  have free : ¬ Lock.opening <:+: (prompt.text s).toList := by
    have front : prompt.words ++ '"' :: (s.toList ++ ['"']) =
        (prompt.words ++ ['"']) ++ (s.toList ++ ['"']) := by simp
    rw [text, String.toList_ofList, front, Chars.infix_foreign_append_iff named,
      Chars.infix_append_guard_iff (Chars.guardsBefore_singleton named foreign)]
    · exact absent
    · intro c member
      rcases List.mem_append.mp member with inside | last
      · exact prompt.unlocked c inside
      · rwa [List.mem_singleton.mp last]
  have trimmed : Chars.trim (prompt.text s).toList = (prompt.text s).toList := by
    rw [text, String.toList_ofList]
    refine Chars.trim_eq_self ?_ ?_
    · rw [List.head?_append_of_ne_nil _ prompt.nonempty]
      exact prompt.unblank
    · rw [← List.cons_append, ← List.append_assoc, List.getLast?_concat]
      rintro c ⟨rfl⟩
      rfl
  rw [Lock.strip_eq_trim free, Text.trim, trimmed, String.ofList_toList]

/-- What stands up to the first quote of either kind is taken, unless it is a connective word. -/
theorem get_of_cut (unlocked : Text.contains s "[LOCK" = false) {front rest : List Char}
    {close : Char} (cut : s.toList ++ ['"'] = front ++ close :: rest) (nonempty : front ≠ [])
    (unquoted : ∀ c ∈ front, c ∉ quotes) (closes : close ∈ quotes)
    (unreserved : Text.lower (Text.trim (.ofList front)) ∉ reserved) :
    (extract (prompt.text s)).get prompt.field = some (Text.trim (.ofList front)) := by
  obtain ⟨alternative, others, listed, run⟩ := prompt.leads
  have spelled : (prompt.text s).toList = prompt.words ++ '"' :: (front ++ close :: rest) := by
    rw [text, String.toList_ofList, cut]
  have span : (quotedSpan prompt.words.reverse front close rest).text = .ofList front := by
    have chars := @chars_word ('"' :: prompt.words.reverse) (close :: rest) front
    rw [Span.text, quotedSpan, chars]
  have hit : firstHit (alternatives prompt.field) (prompt.text s) none =
      some ⟨Text.trim (.ofList front), quotedSpan prompt.words.reverse front close rest⟩ := by
    have read := run (front ++ close :: rest) some _ (run_quoted nonempty unquoted closes rfl)
    rw [← spelled] at read
    rw [listed, ← span]
    apply firstHit_of_run read
    · simpa [span] using nonempty
    · exact .inr (by rwa [span])
    · simp
  rw [get_extract, prompt.strip_text unlocked, claimedFor, if_neg prompt.unsecret, hit]
  rfl

/-- The text between the quotes is taken as it is if it has no apostrophe and is no connective
word, and only then. -/
theorem get_eq_trim_iff (single : '"' ∉ s.toList) (unlocked : Text.contains s "[LOCK" = false)
    (nonblank : Text.trim s ≠ "") :
    (extract (prompt.text s)).get prompt.field = some (Text.trim s) ↔
      '\'' ∉ s.toList ∧ Text.lower (Text.trim s) ∉ reserved := by
  constructor
  · intro given
    refine ⟨fun apostrophe => (isUnquoted_of_get given).1 ?_, ?_⟩
    · rw [Text.trim, String.toList_ofList]
      exact Chars.mem_trim apostrophe (by decide)
    · obtain ⟨alternative, listed, found, -, span, accepts, same⟩ := exists_accepts_of_get given
      have loose := prompt.loose alternative listed
      rw [← same]
      exact accepts.unreserved.resolve_left (by simp [loose])
  · rintro ⟨unbroken, unreserved⟩
    have nonempty : s.toList ≠ [] := by
      intro none
      apply nonblank
      rw [Text.trim, none]
      rfl
    have unquoted : ∀ c ∈ s.toList, c ∉ quotes := by
      intro c member quote
      rcases List.mem_pair.mp quote with rfl | rfl
      · exact unbroken member
      · exact single member
    have taken := prompt.get_of_cut unlocked rfl nonempty unquoted (by decide)
      (by rwa [String.ofList_toList])
    rwa [String.ofList_toList] at taken

end Prompt

/-- The words in front of the name of a button. -/
def clickPrompt : Prompt where
  field := .button
  words := ['c', 'l', 'i', 'c', 'k', ' ']
  leads := leadsToQuotation_click
  loose := by decide
  unsecret := nofun
  nonempty := List.cons_ne_nil _ _
  unblank := by
    rintro c ⟨rfl⟩
    rfl
  unlocked := by
    rw [Lock.opening_eq]
    decide

/-- The words in front of a text that is expected. -/
def expectPrompt : Prompt where
  field := .expected
  words := ['e', 'x', 'p', 'e', 'c', 't', ' ']
  leads := leadsToQuotation_expect
  loose := by decide
  unsecret := nofun
  nonempty := List.cons_ne_nil _ _
  unblank := by
    rintro c ⟨rfl⟩
    rfl
  unlocked := by
    rw [Lock.opening_eq]
    decide

theorem text_clickPrompt (s : String) : "click \"" ++ s ++ "\"" = clickPrompt.text s := by
  rw [← String.toList_inj, Prompt.text, String.toList_ofList]
  simp [clickPrompt]

theorem text_expectPrompt (s : String) : "expect \"" ++ s ++ "\"" = expectPrompt.text s := by
  rw [← String.toList_inj, Prompt.text, String.toList_ofList]
  simp [expectPrompt]

/-- Text between double quotes is taken for a button or for what is expected exactly if it has no
apostrophe and is no connective word; at an apostrophe it is cut. -/
theorem button_and_expected_of_quotation {s : String} (single : '"' ∉ s.toList)
    (unlocked : Text.contains s "[LOCK" = false) (nonblank : Text.trim s ≠ "") :
    ((extract ("click \"" ++ s ++ "\"")).button = some (Text.trim s) ↔
        '\'' ∉ s.toList ∧ Text.lower (Text.trim s) ∉ reserved) ∧
      ((extract ("expect \"" ++ s ++ "\"")).expected = some (Text.trim s) ↔
        '\'' ∉ s.toList ∧ Text.lower (Text.trim s) ∉ reserved) ∧
      ∀ front rest, s = front ++ "'" ++ rest → front ≠ "" → '\'' ∉ front.toList →
        Text.lower (Text.trim front) ∉ reserved →
          (extract ("click \"" ++ s ++ "\"")).button = some (Text.trim front) ∧
            (extract ("expect \"" ++ s ++ "\"")).expected = some (Text.trim front) := by
  rw [text_clickPrompt, text_expectPrompt]
  refine ⟨clickPrompt.get_eq_trim_iff single unlocked nonblank,
    expectPrompt.get_eq_trim_iff single unlocked nonblank, ?_⟩
  intro front rest parts nonempty unbroken unreserved
  have cut : s.toList ++ ['"'] = front.toList ++ '\'' :: (rest.toList ++ ['"']) := by
    rw [parts]
    simp
  have unquoted : ∀ c ∈ front.toList, c ∉ quotes := by
    intro c member quote
    rcases List.mem_pair.mp quote with rfl | rfl
    · exact unbroken member
    · exact single (by rw [parts]; simp [member])
  have taken (prompt : Prompt) :
      (extract (prompt.text s)).get prompt.field = some (Text.trim front) := by
    have found := prompt.get_of_cut unlocked cut (by simpa using nonempty) unquoted (by decide)
      (by rwa [String.ofList_toList])
    rwa [String.ofList_toList] at found
  exact ⟨taken clickPrompt, taken expectPrompt⟩

theorem button_and_expected_createAccount :
    ('"' ∉ "Create account ".toList ∧ Text.contains "Create account " "[LOCK" = false ∧
        Text.trim "Create account " ≠ "") ∧
      (extract "click \"Create account \"").button = some "Create account" ∧
      (extract "expect \"Create account \"").expected = some "Create account" := by
  have single : '"' ∉ "Create account ".toList := by decide +kernel
  have unlocked : Text.contains "Create account " "[LOCK" = false := by decide +kernel
  have nonblank : Text.trim "Create account " ≠ "" := by decide +kernel
  have trimmed : Text.trim "Create account " = "Create account" := by decide +kernel
  obtain ⟨button, expected, -⟩ := button_and_expected_of_quotation single unlocked nonblank
  rw [trimmed] at button expected
  have plain : '\'' ∉ "Create account ".toList ∧ Text.lower "Create account" ∉ reserved := by
    decide +kernel
  exact ⟨⟨single, unlocked, nonblank⟩, button.mpr plain, expected.mpr plain⟩

/-- A quotation is cut at an apostrophe, and a connective word is not taken at all. -/
theorem button_and_expected_of_apostrophe_and_connective :
    ((extract "click \"Don't save\"").button = some "Don" ∧
        (extract "expect \"Don't save\"").expected = some "Don") ∧
      (extract "click \"Email\"").button = none ∧ (extract "expect \"Email\"").expected = none := by
  decide +kernel

end PlainScript
