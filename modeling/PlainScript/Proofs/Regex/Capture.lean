/-
What groups capture. A match is first described without the order of preference, as a relation
between states; what every group of an expression is bound to read, every capture of it is.
-/

import PlainScript.Proofs.Regex.Sketch

namespace PlainScript.Regex

/-- So many rounds, one after another. -/
def Rounds (body : State → State → Prop) : (count : Nat) → State → State → Prop
  | 0, first, last => last = first
  | count + 1, first, last => ∃ middle, Rounds body count first middle ∧ body middle last

/-- The states in which a match of the expression can end, whatever is preferred. What negated
looks ask for is left open. -/
def Ends : Regex → State → State → Prop
  | empty, first, last | anchor _, first, last => last = first
  | char c folding, first, last => first.step? (folding.equal c) = some last
  | member members folding, first, last => first.step? (members.holds folding) = some last
  | any lineFeeds, first, last => first.step? (fun c => lineFeeds || c != '\n') = some last
  | seq left right, first, last => ∃ middle, left.Ends first middle ∧ right.Ends middle last
  | alt left right, first, last => left.Ends first last ∨ right.Ends first last
  | times _ least _ body, first, last => ∃ count ≥ least, Rounds body.Ends count first last
  | group index body, first, last =>
      ∃ inner, body.Ends first inner ∧ last = inner.capture index first
  | back index folding, first, last =>
      ∃ span, first.group? index = some span ∧ first.steps? folding span.chars = some last
  | ahead _ body, first, last =>
      last = first ∨ ∃ inner, body.Ends first inner ∧ last = ⟨first.cursor, inner.groups⟩
  | behind _ width body, first, last =>
      last = first ∨ ∃ cursor inner, first.cursor.back? width = some cursor ∧
        body.Ends ⟨cursor, first.groups⟩ inner ∧ last = ⟨first.cursor, inner.groups⟩
  | atomic body, first, last => body.Ends first last
  | given _ matched unmatched, first, last => matched.Ends first last ∨ unmatched.Ends first last

/-- Every match leads to one of these states. -/
theorem leads_ends (regex : Regex) (first : State) :
    Leads (fun state next => regex.run state next) (fun state => state = first)
      (regex.Ends first) := by
  induction regex generalizing first with
  | empty =>
      rintro state next out rfl found
      exact ⟨state, rfl, found⟩
  | char c folding =>
      rintro state next out rfl found
      exact Option.bind_eq_some_iff.mp found
  | member members folding =>
      rintro state next out rfl found
      exact Option.bind_eq_some_iff.mp found
  | any lineFeeds =>
      rintro state next out rfl found
      exact Option.bind_eq_some_iff.mp found
  | anchor place =>
      rintro state next out rfl found
      simp only [run] at found
      split at found
      · exact ⟨state, rfl, found⟩
      · cases found
  | seq front back ihFront ihBack =>
      rintro state next out rfl found
      obtain ⟨middle, before, found⟩ := ihFront state rfl found
      obtain ⟨last, after, found⟩ := ihBack middle rfl found
      exact ⟨last, ⟨middle, before, after⟩, found⟩
  | alt left right ihLeft ihRight =>
      rintro state next out rfl found
      rcases Option.or_eq_some_iff.mp found with found | ⟨-, found⟩
      · obtain ⟨last, ends, found⟩ := ihLeft state rfl found
        exact ⟨last, .inl ends, found⟩
      · obtain ⟨last, ends, found⟩ := ihRight state rfl found
        exact ⟨last, .inr ends, found⟩
  | times greed least most body ih =>
      have each (count : Nat) : Leads (fun state next => body.run state next)
          (Rounds body.Ends count first) (Rounds body.Ends (count + 1) first) := by
        intro state next out rounds found
        obtain ⟨last, ends, found⟩ := ih state rfl found
        exact ⟨last, ⟨state, rounds, ends⟩, found⟩
      refine leads_repeatedly (Rounds body.Ends · first) each
        (fun state rounds => ⟨least, Nat.le_refl least, rounds⟩) ?_ greed most
      rintro state next out ⟨count, enough, rounds⟩ found
      obtain ⟨last, rounds, found⟩ := each count rounds found
      exact ⟨last, ⟨count + 1, Nat.le_succ_of_le enough, rounds⟩, found⟩
  | group index body ih =>
      rintro state next out rfl found
      obtain ⟨inner, ends, found⟩ := ih state rfl found
      exact ⟨_, ⟨inner, ends, rfl⟩, found⟩
  | back index folding =>
      rintro state next out rfl found
      obtain ⟨span, captured, found⟩ := Option.bind_eq_some_iff.mp found
      obtain ⟨last, steps, found⟩ := Option.bind_eq_some_iff.mp found
      exact ⟨last, ⟨span, captured, steps⟩, found⟩
  | ahead negated body ih =>
      rintro state next out rfl found
      simp only [run] at found
      split at found
      · rename_i later ran
        split at found
        · cases found
        · obtain ⟨inner, ends, same⟩ := ih state rfl ran
          obtain rfl := Option.some.inj same
          exact ⟨_, .inr ⟨inner, ends, rfl⟩, found⟩
      · split at found
        · exact ⟨state, .inl rfl, found⟩
        · cases found
  | behind negated width body ih =>
      rintro state next out rfl found
      simp only [run] at found
      split at found
      · rename_i later ran
        split at found
        · cases found
        · obtain ⟨cursor, behind, ran⟩ := Option.bind_eq_some_iff.mp ran
          obtain ⟨inner, ends, same⟩ := ih _ rfl ran
          obtain rfl := Option.some.inj same
          exact ⟨_, .inr ⟨cursor, inner, behind, ends, rfl⟩, found⟩
      · split at found
        · exact ⟨state, .inl rfl, found⟩
        · cases found
  | atomic body ih => exact leads_once (ih first)
  | given index matched unmatched ihMatched ihUnmatched =>
      rintro state next out rfl found
      simp only [run] at found
      split at found
      · obtain ⟨last, ends, found⟩ := ihMatched state rfl found
        exact ⟨last, .inl ends, found⟩
      · obtain ⟨last, ends, found⟩ := ihUnmatched state rfl found
        exact ⟨last, .inr ends, found⟩

/-! Characters that are read -/

/-- The characters are read from one state to the other. -/
structure State.Reads (first last : State) (chars : List Char) : Prop where
  after : first.cursor.after = chars ++ last.cursor.after
  before : last.cursor.before = chars.reverse ++ first.cursor.before

theorem State.Reads.nil {first last : State} (same : last.cursor = first.cursor) :
    first.Reads last [] :=
  ⟨by rw [same, List.nil_append], by rw [same, List.reverse_nil, List.nil_append]⟩

theorem State.Reads.append {first middle last : State} {front back : List Char}
    (earlier : first.Reads middle front) (later : middle.Reads last back) :
    first.Reads last (front ++ back) :=
  ⟨by rw [earlier.after, later.after, List.append_assoc],
    by rw [later.before, earlier.before, List.reverse_append, List.append_assoc]⟩

theorem State.Reads.chars_eq {first last : State} {chars : List Char}
    (reads : first.Reads last chars) : Span.chars ⟨first.cursor, last.cursor⟩ = chars := by
  obtain ⟨⟨before, after⟩, groups⟩ := first
  obtain ⟨⟨front, rest⟩, others⟩ := last
  obtain rfl : after = chars ++ rest := reads.after
  obtain rfl : front = chars.reverse ++ before := reads.before
  exact chars_word chars

/-- A step reads one character, which passes the test. -/
theorem exists_reads_of_step? {test : Char → Bool} {first last : State}
    (step : first.step? test = some last) : ∃ c, test c = true ∧ first.Reads last [c] := by
  obtain ⟨⟨before, after⟩, groups⟩ := first
  cases after with
  | nil => cases step
  | cons c after =>
      simp only [State.step?] at step
      split at step
      · rename_i passes
        obtain rfl := Option.some.inj step
        exact ⟨c, passes, rfl, rfl⟩
      · cases step

theorem exists_reads_of_steps? {folding : Folding} {expected : List Char} {first last : State}
    (steps : first.steps? folding expected = some last) : ∃ chars, first.Reads last chars := by
  induction expected generalizing first with
  | nil => exact ⟨[], .nil (congrArg State.cursor (Option.some.inj steps).symm)⟩
  | cons c expected ih =>
      obtain ⟨middle, step, steps⟩ := Option.bind_eq_some_iff.mp steps
      obtain ⟨here, -, reads⟩ := exists_reads_of_step? step
      obtain ⟨chars, later⟩ := ih steps
      exact ⟨[here] ++ chars, reads.append later⟩

/-- The expression never reads the character. -/
def avoids (c : Char) : Regex → Bool
  | empty | anchor _ | ahead _ _ | behind _ _ _ => true
  | char d folding => !folding.equal d c
  | member members folding => !members.holds folding c
  | any lineFeeds => !(lineFeeds || c != '\n')
  | seq first second | alt first second | given _ first second => avoids c first && avoids c second
  | times _ _ _ body | group _ body | atomic body => avoids c body
  | back _ _ => false

/-- The expression always reads some character. -/
def moves : Regex → Bool
  | char _ _ | member _ _ | any _ => true
  | empty | anchor _ | ahead _ _ | behind _ _ _ | back _ _ => false
  | seq first second => moves first || moves second
  | alt first second | given _ first second => moves first && moves second
  | times _ least _ body => 0 < least && moves body
  | group _ body | atomic body => moves body

/-- What is read by an expression that has these properties. -/
structure Heeds (regex : Regex) (chars : List Char) : Prop where
  avoided : ∀ c, regex.avoids c = true → c ∉ chars
  moved : regex.moves = true → chars ≠ []

theorem exists_reads_of_rounds {body : Regex}
    (each : ∀ first last, body.Ends first last → ∃ chars, first.Reads last chars ∧ body.Heeds chars)
    {count : Nat} {first last : State} (rounds : Rounds body.Ends count first last) :
    ∃ chars, first.Reads last chars ∧ (∀ c, body.avoids c = true → c ∉ chars) ∧
      (0 < count → body.moves = true → chars ≠ []) := by
  induction count generalizing last with
  | zero =>
      obtain rfl := rounds
      exact ⟨[], .nil rfl, nofun, fun more => absurd more (Nat.lt_irrefl 0)⟩
  | succ count ih =>
      obtain ⟨middle, rounds, ends⟩ := rounds
      obtain ⟨front, earlier, avoided, -⟩ := ih rounds
      obtain ⟨back, later, heeds⟩ := each middle last ends
      refine ⟨front ++ back, earlier.append later, fun c safe => ?_, fun _ moves => ?_⟩
      · rw [List.mem_append, not_or]
        exact ⟨avoided c safe, heeds.avoided c safe⟩
      · exact List.append_ne_nil_of_right_ne_nil _ (heeds.moved moves)

/-- A single character that passes the test is heeded by a test for it. -/
theorem heeds_singleton {regex : Regex} {test : Char → Bool} {c : Char} (passes : test c = true)
    (avoids : ∀ d, regex.avoids d = true → test d = false) : regex.Heeds [c] := by
  refine ⟨fun d safe member => ?_, fun _ => List.cons_ne_nil _ _⟩
  rw [List.mem_singleton.mp member] at safe
  exact absurd passes (by simp [avoids c safe])

/-- A match reads some characters, and heeds what the expression says of them. -/
theorem exists_reads_of_ends (regex : Regex) {first last : State} (ends : regex.Ends first last) :
    ∃ chars, first.Reads last chars ∧ regex.Heeds chars := by
  induction regex generalizing first last with
  | empty | anchor place =>
      obtain rfl := ends
      exact ⟨[], .nil rfl, nofun, nofun⟩
  | char d folding | member members folding =>
      obtain ⟨c, passes, reads⟩ := exists_reads_of_step? ends
      refine ⟨[c], reads, heeds_singleton passes fun _ safe => ?_⟩
      simpa [avoids] using safe
  | any lineFeeds =>
      obtain ⟨c, passes, reads⟩ := exists_reads_of_step? ends
      exact ⟨[c], reads, @heeds_singleton _ (fun d => lineFeeds || d != '\n') c passes
        fun _ safe => by simpa [avoids] using safe⟩
  | seq front back ihFront ihBack =>
      obtain ⟨middle, earlier, later⟩ := ends
      obtain ⟨left, readsLeft, heedsLeft⟩ := ihFront earlier
      obtain ⟨right, readsRight, heedsRight⟩ := ihBack later
      refine ⟨left ++ right, readsLeft.append readsRight, fun c safe => ?_, fun moves => ?_⟩
      · rw [avoids, Bool.and_eq_true] at safe
        rw [List.mem_append, not_or]
        exact ⟨heedsLeft.avoided c safe.1, heedsRight.avoided c safe.2⟩
      · rw [Regex.moves, Bool.or_eq_true] at moves
        rcases moves with moves | moves
        · exact List.append_ne_nil_of_left_ne_nil (heedsLeft.moved moves) _
        · exact List.append_ne_nil_of_right_ne_nil _ (heedsRight.moved moves)
  | alt left right ihLeft ihRight | given index left right ihLeft ihRight =>
      rcases ends with ends | ends
      · obtain ⟨chars, reads, heeds⟩ := ihLeft ends
        refine ⟨chars, reads, fun c safe => ?_, fun moves => ?_⟩
        · rw [avoids, Bool.and_eq_true] at safe
          exact heeds.avoided c safe.1
        · rw [Regex.moves, Bool.and_eq_true] at moves
          exact heeds.moved moves.1
      · obtain ⟨chars, reads, heeds⟩ := ihRight ends
        refine ⟨chars, reads, fun c safe => ?_, fun moves => ?_⟩
        · rw [avoids, Bool.and_eq_true] at safe
          exact heeds.avoided c safe.2
        · rw [Regex.moves, Bool.and_eq_true] at moves
          exact heeds.moved moves.2
  | times greed least most body ih =>
      obtain ⟨count, enough, rounds⟩ := ends
      obtain ⟨chars, reads, avoided, moved⟩ := exists_reads_of_rounds (fun _ _ => ih) rounds
      refine ⟨chars, reads, avoided, fun moves => ?_⟩
      rw [Regex.moves, Bool.and_eq_true, decide_eq_true_iff] at moves
      exact moved (Nat.lt_of_lt_of_le moves.1 enough) moves.2
  | group index body ih =>
      obtain ⟨inner, ends, rfl⟩ := ends
      obtain ⟨chars, reads, heeds⟩ := ih ends
      exact ⟨chars, ⟨reads.after, reads.before⟩, heeds.avoided, heeds.moved⟩
  | back index folding =>
      obtain ⟨span, -, steps⟩ := ends
      obtain ⟨chars, reads⟩ := exists_reads_of_steps? steps
      exact ⟨chars, reads, nofun, nofun⟩
  | ahead negated body =>
      rcases ends with rfl | ⟨inner, -, rfl⟩ <;> exact ⟨[], .nil rfl, nofun, nofun⟩
  | behind negated width body =>
      rcases ends with rfl | ⟨cursor, inner, -, -, rfl⟩ <;> exact ⟨[], .nil rfl, nofun, nofun⟩
  | atomic body ih =>
      obtain ⟨chars, reads, heeds⟩ := ih ends
      exact ⟨chars, reads, heeds.avoided, heeds.moved⟩

/-! Captures -/

/-- Every group of this number has a body that passes the test. -/
def everyGroup (index : Nat) (test : Regex → Bool) : Regex → Bool
  | seq first second | alt first second | given _ first second =>
      everyGroup index test first && everyGroup index test second
  | times _ _ _ body | ahead _ body | behind _ _ body | atomic body => everyGroup index test body
  | group number body => (number != index || test body) && everyGroup index test body
  | _ => true

/-- What the group has captured so far has the property. -/
def Captured (index : Nat) (P : List Char → Prop) (state : State) : Prop :=
  ∀ span, (index, span) ∈ state.groups → P span.chars

variable {index : Nat} {test : Regex → Bool} {P : List Char → Prop}

theorem groups_eq_of_step? {pass : Char → Bool} {first last : State}
    (step : first.step? pass = some last) : last.groups = first.groups := by
  rw [State.step?] at step
  split at step
  · cases step
  · split at step
    · obtain rfl := Option.some.inj step
      rfl
    · cases step

theorem groups_eq_of_steps? {folding : Folding} {expected : List Char} {first last : State}
    (steps : first.steps? folding expected = some last) : last.groups = first.groups := by
  induction expected generalizing first with
  | nil => exact congrArg State.groups (Option.some.inj steps).symm
  | cons c expected ih =>
      obtain ⟨middle, step, steps⟩ := Option.bind_eq_some_iff.mp steps
      exact (ih steps).trans (groups_eq_of_step? step)

theorem Captured.of_groups_eq {first last : State} (captured : Captured index P first)
    (same : last.groups = first.groups) : Captured index P last := by
  rwa [Captured, same]

/-- Whatever a group with a body that passes the test captures has the property. -/
theorem Captured.of_ends
    (each : ∀ body chars, test body = true → Heeds body chars → P chars) (regex : Regex)
    (every : regex.everyGroup index test = true) {first last : State}
    (captured : Captured index P first) (ends : regex.Ends first last) :
    Captured index P last := by
  induction regex generalizing first last with
  | empty | anchor place =>
      obtain rfl := ends
      exact captured
  | char d folding | member members folding | any lineFeeds =>
      exact captured.of_groups_eq (groups_eq_of_step? ends)
  | seq front back ihFront ihBack =>
      rw [everyGroup, Bool.and_eq_true] at every
      obtain ⟨middle, earlier, later⟩ := ends
      exact ihBack every.2 (ihFront every.1 captured earlier) later
  | alt left right ihLeft ihRight | given number left right ihLeft ihRight =>
      rw [everyGroup, Bool.and_eq_true] at every
      rcases ends with ends | ends
      · exact ihLeft every.1 captured ends
      · exact ihRight every.2 captured ends
  | times greed least most body ih =>
      obtain ⟨count, -, rounds⟩ := ends
      induction count generalizing last with
      | zero =>
          obtain rfl := rounds
          exact captured
      | succ count ihCount =>
          obtain ⟨middle, rounds, ends⟩ := rounds
          exact ih every (ihCount rounds) ends
  | group number body ih =>
      rw [everyGroup, Bool.and_eq_true, Bool.or_eq_true, bne_iff_ne] at every
      obtain ⟨inner, ends, rfl⟩ := ends
      intro span member
      rcases List.mem_cons.mp member with newest | member
      · obtain ⟨rfl, rfl⟩ := Prod.mk.inj newest
        obtain ⟨chars, reads, heeds⟩ := exists_reads_of_ends body ends
        rw [reads.chars_eq]
        exact each body chars (every.1.resolve_left (not_not_intro rfl)) heeds
      · exact ih every.2 captured ends span member
  | back number folding =>
      obtain ⟨span, -, steps⟩ := ends
      exact captured.of_groups_eq (groups_eq_of_steps? steps)
  | ahead negated body ih =>
      rcases ends with rfl | ⟨inner, ends, rfl⟩
      · exact captured
      · exact (ih every captured ends).of_groups_eq rfl
  | behind negated width body ih =>
      rcases ends with rfl | ⟨cursor, inner, -, ends, rfl⟩
      · exact captured
      · have moved : Captured index P ⟨cursor, first.groups⟩ := captured
        exact (ih every moved ends).of_groups_eq rfl
  | atomic body ih => exact ih every captured ends

variable {regex : Regex} {found : Match} {span : Span}

/-- The groups of a match are captured on the way from where it begins. -/
theorem captured_of_matchAt
    (each : ∀ body chars, test body = true → Heeds body chars → P chars)
    (every : regex.everyGroup index test = true) {advance : Bool} {cursor : Cursor}
    (matched : regex.matchAt advance cursor = some found)
    (grouped : found.group? index = some span) : P span.chars := by
  obtain ⟨last, ran, made⟩ := Option.map_eq_some_iff.mp matched
  obtain ⟨inner, ends, kept⟩ := leads_ends regex ⟨cursor, []⟩ rfl ran
  have same : last = inner := by
    split at kept
    · cases kept
    · exact (Option.some.inj kept).symm
  obtain rfl := same
  have captured : Captured index P last :=
    Captured.of_ends each regex every (fun _ => List.not_mem_nil.elim) ends
  rw [← made, Match.group?] at grouped
  obtain ⟨front, rest, groups, -⟩ := List.lookup_eq_some_iff.mp grouped
  refine captured span ?_
  rw [show last.groups = _ from groups]
  exact List.mem_append_right _ List.mem_cons_self

theorem exists_of_searchFrom {advance : Bool} {before after : List Char}
    (searched : regex.searchFrom advance before after = some found) :
    ∃ advance cursor, regex.matchAt advance cursor = some found := by
  induction after generalizing advance before with
  | nil => exact ⟨_, _, searched⟩
  | cons c after ih =>
      rw [searchFrom] at searched
      split at searched
      · rename_i matched
        exact ⟨_, _, searched ▸ matched⟩
      · exact ih searched

theorem exists_of_mem_findFrom {fuel : Nat} {advance : Bool} {cursor : Cursor}
    (member : found ∈ regex.findFrom fuel advance cursor) :
    ∃ advance cursor, regex.matchAt advance cursor = some found := by
  induction fuel generalizing advance cursor with
  | zero => cases member
  | succ fuel ih =>
      rw [findFrom] at member
      split at member
      · cases member
      · rename_i first searched
        rcases List.mem_cons.mp member with rfl | member
        · exact exists_of_searchFrom searched
        · exact ih member

/-- What a group of a match reads, wherever the match is found. -/
theorem captured_of_search
    (each : ∀ body chars, test body = true → Heeds body chars → P chars)
    (every : regex.everyGroup index test = true) {text : String}
    (searched : regex.search text = some found) (grouped : found.group? index = some span) :
    P span.chars := by
  obtain ⟨advance, cursor, matched⟩ := exists_of_searchFrom searched
  exact captured_of_matchAt each every matched grouped

theorem captured_of_mem_findAll
    (each : ∀ body chars, test body = true → Heeds body chars → P chars)
    (every : regex.everyGroup index test = true) {text : String}
    (member : found ∈ regex.findAll text) (grouped : found.group? index = some span) :
    P span.chars := by
  obtain ⟨advance, cursor, matched⟩ := exists_of_mem_findFrom member
  exact captured_of_matchAt each every matched grouped

end PlainScript.Regex
