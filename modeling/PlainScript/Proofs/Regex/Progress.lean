/-
Reading forward: how an expression gets on in a text of which the next characters are known.
-/

import Mathlib.Data.List.Forall2
import PlainScript.Regex.Match

namespace PlainScript.Regex

variable {before after : List Char} {groups : List (Nat × Span)} {next : Next} {out : State}

theorem run_all_nil (state : State) (next : Next) : (all []).run state next = next state := rfl

theorem run_all_cons (first : Regex) (rest : List Regex) (state : State) (next : Next) :
    (all (first :: rest)).run state next =
      first.run state fun later => (all rest).run later next := by
  cases rest <;> rfl

theorem run_seq (first second : Regex) (state : State) (next : Next) :
    (seq first second).run state next = first.run state fun later => second.run later next := rfl

/-- The parts of a sequence one after another. -/
theorem run_all_append (front back : List Regex) (state : State) (next : Next) :
    (all (front ++ back)).run state next =
      (all front).run state fun later => (all back).run later next := by
  induction front generalizing state with
  | nil => rfl
  | cons first front ih => simp only [List.cons_append, run_all_cons, ih]

theorem run_group (index : Nat) (body : Regex) (state : State) (next : Next) :
    (group index body).run state next =
      body.run state fun later => next (later.capture index state) := rfl

/-- An anchor that holds takes nothing. -/
theorem run_anchor {place : Anchor} {state : State} (holds : place.holds state.cursor = true) :
    (anchor place).run state next = next state := if_pos holds

theorem run_ahead {body : Regex} {state later : State} (found : body.run state some = some later) :
    (ahead false body).run state next = next ⟨state.cursor, later.groups⟩ := by
  rw [run, found]
  rfl

theorem run_alt (first second : Regex) (state : State) (next : Next) :
    (alt first second).run state next = (first.run state next).or (second.run state next) := rfl

theorem run_alt_of_some {first second : Regex} {state : State}
    (found : first.run state next = some out) :
    (alt first second).run state next = some out := by
  rw [run_alt, found, Option.some_or]

theorem choice_cons_cons (first second : Regex) (rest : List Regex) :
    choice (first :: second :: rest) = alt first (choice (second :: rest)) := rfl

theorem choice_singleton (single : Regex) : choice [single] = single := rfl

/-- Where none of the expressions matches, their choice does not. -/
theorem run_choice_of_none {options : List Regex} {state : State} (some : options ≠ [])
    (missed : ∀ option ∈ options, option.run state next = none) :
    (choice options).run state next = none := by
  induction options with
  | nil => exact absurd rfl some
  | cons first rest ih =>
      rw [List.forall_mem_cons] at missed
      cases rest with
      | nil => exact missed.1
      | cons second rest =>
          rw [choice_cons_cons, run_alt, missed.1, Option.none_or]
          exact ih (List.cons_ne_nil _ _) missed.2

/-- What may be left out is left out only where it fails. -/
theorem run_maybe (body : Regex) (state : State) (next : Next) :
    (maybe body).run state next = (body.run state next).or (next state) := by
  change (body.run state fun later =>
    if later.stands state then next later else next later).or (next state) = _
  simp only [ite_self]

theorem run_maybe_of_none {body : Regex} {state : State} (missed : body.run state next = none) :
    (maybe body).run state next = next state := by
  rw [run_maybe, missed, Option.none_or]

/-! Characters -/

/-- Reads one character that passes the test. -/
def single (test : Char → Bool) : Matcher := fun state next => (state.step? test).bind next

variable {test : Char → Bool} {c : Char}

theorem single_of_pass (passes : test c = true) :
    single test ⟨⟨before, c :: after⟩, groups⟩ next = next ⟨⟨c :: before, after⟩, groups⟩ := by
  simp only [single, State.step?, passes, if_true, Option.bind_some]

theorem single_of_stop (stops : ∀ c ∈ after.head?, test c = false) :
    single test ⟨⟨before, after⟩, groups⟩ next = none := by
  cases after with
  | nil => rfl
  | cons c after =>
      have fails : test c = false := stops c rfl
      simp only [single, State.step?, fails, Bool.false_eq_true, if_false, Option.bind_none]

/-- A character is read in every case in which it counts as equal. -/
theorem run_char {d : Char} {folding : Folding} (same : folding.equal c d = true) :
    (char c folding).run ⟨⟨before, d :: after⟩, groups⟩ next =
      next ⟨⟨d :: before, after⟩, groups⟩ :=
  single_of_pass same

/-- A text is read in every spelling that counts as equal. -/
theorem run_caseless_of_equal {text : String} {word : List Char}
    (same : text.toList.Forall₂ (fun c d => Folding.full.equal c d = true) word) :
    (caseless text).run ⟨⟨before, word ++ after⟩, groups⟩ next =
      next ⟨⟨word.reverse ++ before, after⟩, groups⟩ := by
  rw [caseless]
  generalize text.toList = chars at same
  induction same generalizing before with
  | nil => rfl
  | @cons c d chars word first rest ih =>
      rw [List.map_cons, run_all_cons, List.cons_append, run_char first, ih, List.reverse_cons,
        List.append_assoc, List.singleton_append]

/-- A text is read in its own spelling. -/
theorem run_caseless {text : String} {word : List Char} (spelled : text.toList = word) :
    (caseless text).run ⟨⟨before, word ++ after⟩, groups⟩ next =
      next ⟨⟨word.reverse ++ before, after⟩, groups⟩ := by
  apply run_caseless_of_equal
  rw [spelled]
  exact List.forall₂_same.mpr fun c _ => by rw [Folding.equal, beq_self_eq_true, Bool.true_or]

/-- A text is not read where another character stands than its first one. -/
theorem run_caseless_of_ne {text : String} {d : Char}
    (other : text.toList.head?.map (Folding.full.equal · d) = some false) :
    (caseless text).run ⟨⟨before, d :: after⟩, groups⟩ next = none := by
  obtain ⟨c, head, differs⟩ := Option.map_eq_some_iff.mp other
  obtain ⟨word, spelled⟩ := List.head?_eq_some_iff.mp head
  rw [caseless, spelled, List.map_cons, run_all_cons]
  exact single_of_stop (by rintro c ⟨rfl⟩; exact differs)

/-- No further round where the next character does not pass. -/
theorem greedily_of_stop (stops : ∀ c ∈ after.head?, test c = false) (rounds : Nat) :
    greedily (single test) rounds ⟨⟨before, after⟩, groups⟩ next =
      next ⟨⟨before, after⟩, groups⟩ := by
  cases rounds with
  | zero => rfl
  | succ rounds => rw [greedily, single_of_stop stops, Option.none_or]

/-- A word that passes is read first; what is read behind it counts. -/
theorem greedily_append {word : List Char} (passes : ∀ c ∈ word, test c = true) (rounds : Nat)
    (found : greedily (single test) rounds ⟨⟨word.reverse ++ before, after⟩, groups⟩ next =
      some out) :
    greedily (single test) (rounds + word.length) ⟨⟨before, word ++ after⟩, groups⟩ next =
      some out := by
  induction word generalizing before with
  | nil => exact found
  | cons c word ih =>
      have moved : State.stands ⟨⟨c :: before, word ++ after⟩, groups⟩
          ⟨⟨before, c :: (word ++ after)⟩, groups⟩ = false := by
        simp [State.stands]
      rw [List.cons_append, List.length_cons, ← Nat.add_assoc, greedily,
        single_of_pass (passes c List.mem_cons_self), moved, if_neg Bool.false_ne_true,
        ih (fun d member => passes d (List.mem_cons_of_mem c member)) (by simpa using found),
        Option.some_or]

/-- If what is to follow follows a whole word, the word is read as a whole. -/
theorem greedily_word {word : List Char} (passes : ∀ c ∈ word, test c = true)
    (stops : ∀ c ∈ after.head?, test c = false) {rounds : Nat} (enough : word.length ≤ rounds)
    (found : next ⟨⟨word.reverse ++ before, after⟩, groups⟩ = some out) :
    greedily (single test) rounds ⟨⟨before, word ++ after⟩, groups⟩ next = some out := by
  rw [← Nat.sub_add_cancel enough]
  exact greedily_append passes _ ((greedily_of_stop stops _).trans found)

/-- If what is to follow fails behind every front of a word, nothing of the word is read. -/
theorem greedily_of_dead {word : List Char} (passes : ∀ c ∈ word, test c = true)
    (stops : ∀ c ∈ after.head?, test c = false)
    (dead : ∀ c front back, word = c :: (front ++ back) →
      next ⟨⟨front.reverse ++ c :: before, back ++ after⟩, groups⟩ = none) (rounds : Nat) :
    greedily (single test) rounds ⟨⟨before, word ++ after⟩, groups⟩ next =
      next ⟨⟨before, word ++ after⟩, groups⟩ := by
  induction word generalizing before rounds with
  | nil => exact greedily_of_stop stops rounds
  | cons c word ih =>
      cases rounds with
      | zero => rfl
      | succ rounds =>
          have moved : State.stands ⟨⟨c :: before, word ++ after⟩, groups⟩
              ⟨⟨before, c :: (word ++ after)⟩, groups⟩ = false := by
            simp [State.stands]
          have here : next ⟨⟨c :: before, word ++ after⟩, groups⟩ = none := dead c [] word rfl
          rw [List.cons_append, greedily, single_of_pass (passes c List.mem_cons_self), moved,
            if_neg Bool.false_ne_true,
            ih fun d member => passes d (List.mem_cons_of_mem c member), here, Option.none_or]
          intro d front back same
          have later := dead c (d :: front) back (by rw [same, List.cons_append])
          rwa [List.reverse_cons, List.append_assoc, List.singleton_append] at later

variable {members : CharSet} {folding : Folding}

/-- If what is to follow follows a whole word, the word is read as a whole. -/
theorem run_many1_word {word : List Char} (nonempty : word ≠ [])
    (passes : ∀ c ∈ word, members.holds folding c = true)
    (stops : ∀ c ∈ after.head?, members.holds folding c = false)
    (found : next ⟨⟨word.reverse ++ before, after⟩, groups⟩ = some out) :
    (many1 (member members folding)).run ⟨⟨before, word ++ after⟩, groups⟩ next = some out := by
  obtain ⟨c, word, rfl⟩ := List.exists_cons_of_ne_nil nonempty
  change single (members.holds folding) ⟨⟨before, c :: (word ++ after)⟩, groups⟩ (fun later =>
    greedily (single (members.holds folding)) (extraRounds 1 none later) later next) = some out
  rw [single_of_pass (passes c List.mem_cons_self)]
  refine greedily_word (fun d member => passes d (List.mem_cons_of_mem c member)) stops ?_
    (by simpa using found)
  simp [extraRounds, Nat.add_assoc]

/-- A single character is read where the next one does not pass. -/
theorem run_many1_one (passes : members.holds folding c = true)
    (stops : ∀ d ∈ after.head?, members.holds folding d = false) :
    (many1 (member members folding)).run ⟨⟨before, c :: after⟩, groups⟩ next =
      next ⟨⟨c :: before, after⟩, groups⟩ := by
  change single (members.holds folding) ⟨⟨before, c :: after⟩, groups⟩ (fun later =>
    greedily (single (members.holds folding)) (extraRounds 1 none later) later next) = _
  rw [single_of_pass passes, greedily_of_stop stops]

/-- What counts as a blank, whatever its case. -/
abbrev blankSet : CharSet := ⟨false, [.category .blank false false]⟩

/-- One space between words. -/
theorem run_blanks (stops : ∀ c ∈ after.head?, blankSet.holds .full c = false) :
    blanks.run ⟨⟨before, ' ' :: after⟩, groups⟩ next = next ⟨⟨' ' :: before, after⟩, groups⟩ :=
  run_many1_one rfl stops

/-! Captured text -/

theorem chars_word (word : List Char) :
    Span.chars ⟨⟨before, word ++ after⟩, ⟨word.reverse ++ before, after⟩⟩ = word := by
  simp [Span.chars, Span.stop, Span.start, Cursor.offset]

/-- The newest capture of a group counts. -/
theorem text?_word (whole : Span) (index : Nat) (word : List Char) :
    Match.text? ⟨whole, (index, ⟨⟨before, word ++ after⟩, ⟨word.reverse ++ before, after⟩⟩) ::
      groups⟩ index = some (.ofList word) := by
  rw [Match.text?, Match.group?, List.lookup_cons_self, Option.map_some, Span.text, chars_word]

/-! Searching -/

variable {regex : Regex}

/-- A match without conditions on its length is what a run leaves behind. -/
theorem matchAt_eq_some_iff {cursor : Cursor} {found : Match} :
    regex.matchAt false cursor = some found ↔
      ∃ last, regex.run ⟨cursor, []⟩ some = some last ∧
        ⟨⟨cursor, last.cursor⟩, last.groups⟩ = found := by
  have kept : (fun state : State =>
      if (false && state.stands ⟨cursor, []⟩) = true then none else some state) = some := rfl
  rw [matchAt, kept, Option.map_eq_some_iff]

/-- A match that begins here is the first one. -/
theorem searchFrom_of_matchAt {advance : Bool} {found : Match}
    (matched : regex.matchAt advance ⟨before, after⟩ = some found) :
    regex.searchFrom advance before after = some found := by
  cases after with
  | nil => exact matched
  | cons c after => simp only [searchFrom, matched]

/-- Places at which no match begins are passed over. -/
theorem searchFrom_append {front : List Char}
    (missed : ∀ done c rest, front = done ++ c :: rest →
      regex.matchAt false ⟨done.reverse ++ before, c :: (rest ++ after)⟩ = none) :
    regex.searchFrom false before (front ++ after) =
      regex.searchFrom false (front.reverse ++ before) after := by
  induction front generalizing before with
  | nil => rfl
  | cons c front ih =>
      have here : regex.matchAt false ⟨before, c :: (front ++ after)⟩ = none := missed [] c front rfl
      simp only [List.cons_append, searchFrom, here]
      rw [ih, List.reverse_cons, List.append_assoc, List.singleton_append]
      intro done d rest same
      have later := missed (c :: done) d rest (by rw [same, List.cons_append])
      rwa [List.reverse_cons, List.append_assoc, List.singleton_append] at later

/-- All matches begin with the first one. -/
theorem exists_findAll_eq_cons {text : String} {found : Match}
    (first : regex.search text = some found) : ∃ others, regex.findAll text = found :: others := by
  rw [search] at first
  rw [findAll, findFrom, Cursor.start, first]
  exact ⟨_, rfl⟩

end PlainScript.Regex
