/-
Sweeping through a text: all matches of an expression that always reads something. They are found
from left to right, each at the first place behind the one before at which a match begins, and
whatever they capture stands in the text.
-/

import PlainScript.Proofs.Regex.Capture

namespace PlainScript.Regex

variable {text : List Char}

/-! Places in a text -/

/-- The place is one of the text. -/
def Cursor.IsIn (text : List Char) (cursor : Cursor) : Prop :=
  cursor.before.reverse ++ cursor.after = text

/-- The piece is one of the text. -/
structure Span.IsIn (text : List Char) (span : Span) : Prop where
  first : span.first.IsIn text
  last : span.last.IsIn text
  forward : span.start ≤ span.stop

/-- The state is at a place of the text and has captured pieces of it. -/
structure State.IsIn (text : List Char) (state : State) : Prop where
  cursor : state.cursor.IsIn text
  groups : ∀ captured ∈ state.groups, captured.2.IsIn text

theorem Cursor.isIn_start (text : List Char) : (start text).IsIn text := rfl

theorem Cursor.IsIn.length_eq {cursor : Cursor} (inside : cursor.IsIn text) :
    text.length = cursor.offset + cursor.after.length := by
  rw [← inside, List.length_append, List.length_reverse, offset]

/-- A place is known by how many characters stand before it. -/
theorem Cursor.IsIn.eq_of_offset_eq {first second : Cursor} (inside : first.IsIn text)
    (other : second.IsIn text) (same : first.offset = second.offset) : first = second := by
  obtain ⟨before, after⟩ := first
  obtain ⟨front, back⟩ := second
  have whole : before.reverse ++ after = front.reverse ++ back := inside.trans other.symm
  have sizes : before.reverse.length = front.reverse.length := by
    rw [List.length_reverse, List.length_reverse]
    exact same
  obtain ⟨left, rfl⟩ := List.append_inj whole sizes
  rw [List.reverse_inj.mp left]

theorem Span.IsIn.chars_infix {span : Span} (inside : span.IsIn text) : span.chars <:+: text := by
  have later : span.first.after <:+ text := ⟨_, inside.first⟩
  exact (List.take_prefix _ _).isInfix.trans later.isInfix

theorem Cursor.isIn_of_back? {cursor earlier : Cursor} (inside : cursor.IsIn text) {width : Nat}
    (behind : cursor.back? width = some earlier) : earlier.IsIn text := by
  induction width generalizing cursor with
  | zero =>
      obtain rfl := Option.some.inj behind
      exact inside
  | succ width ih =>
      obtain ⟨before, after⟩ := cursor
      cases before with
      | nil => cases behind
      | cons c before =>
          refine ih ?_ behind
          rw [IsIn, ← inside, List.reverse_cons, List.append_assoc, List.singleton_append]

/-! Reading in a text -/

theorem State.Reads.isIn {first last : State} {chars : List Char} (reads : first.Reads last chars)
    (inside : first.cursor.IsIn text) : last.cursor.IsIn text := by
  rw [Cursor.IsIn, ← inside, reads.after, reads.before, List.reverse_append, List.reverse_reverse,
    List.append_assoc]

theorem State.Reads.offset_eq {first last : State} {chars : List Char}
    (reads : first.Reads last chars) :
    last.cursor.offset = first.cursor.offset + chars.length := by
  rw [Cursor.offset, reads.before, List.length_append, List.length_reverse, Nat.add_comm,
    Cursor.offset]

theorem State.IsIn.of_reads {first last : State} {chars : List Char} (inside : first.IsIn text)
    (reads : first.Reads last chars) (same : last.groups = first.groups) : last.IsIn text :=
  ⟨reads.isIn inside.cursor, by rw [same]; exact inside.groups⟩

/-- Matching stays in the text, with all that it captures. -/
theorem State.IsIn.of_ends (regex : Regex) {first last : State} (inside : first.IsIn text)
    (ends : regex.Ends first last) : last.IsIn text := by
  induction regex generalizing first last with
  | empty | anchor place =>
      obtain rfl := ends
      exact inside
  | char d folding | member members folding | any lineFeeds =>
      obtain ⟨c, -, reads⟩ := exists_reads_of_step? ends
      exact inside.of_reads reads (groups_eq_of_step? ends)
  | seq front back ihFront ihBack =>
      obtain ⟨middle, earlier, later⟩ := ends
      exact ihBack (ihFront inside earlier) later
  | alt left right ihLeft ihRight | given number left right ihLeft ihRight =>
      rcases ends with ends | ends
      · exact ihLeft inside ends
      · exact ihRight inside ends
  | times greed least most body ih =>
      obtain ⟨count, -, rounds⟩ := ends
      induction count generalizing last with
      | zero =>
          obtain rfl := rounds
          exact inside
      | succ count ihCount =>
          obtain ⟨middle, rounds, ends⟩ := rounds
          exact ih (ihCount rounds) ends
  | group number body ih =>
      obtain ⟨inner, ends, rfl⟩ := ends
      obtain ⟨chars, reads, -⟩ := exists_reads_of_ends body ends
      have later := ih inside ends
      refine ⟨later.cursor, List.forall_mem_cons.mpr ⟨⟨inside.cursor, later.cursor, ?_⟩, later.groups⟩⟩
      rw [Span.start, Span.stop, reads.offset_eq]
      exact Nat.le_add_right _ _
  | back number folding =>
      obtain ⟨span, -, steps⟩ := ends
      obtain ⟨chars, reads⟩ := exists_reads_of_steps? steps
      exact inside.of_reads reads (groups_eq_of_steps? steps)
  | ahead negated body ih =>
      rcases ends with rfl | ⟨inner, ends, rfl⟩
      · exact inside
      · exact ⟨inside.cursor, (ih inside ends).groups⟩
  | behind negated width body ih =>
      rcases ends with rfl | ⟨cursor, inner, behind, ends, rfl⟩
      · exact inside
      · have earlier : State.IsIn text ⟨cursor, first.groups⟩ :=
          ⟨Cursor.isIn_of_back? inside.cursor behind, inside.groups⟩
        exact ⟨inside.cursor, (ih earlier ends).groups⟩
  | atomic body ih => exact ih inside ends

variable {regex : Regex} {found : Match}

/-- What is matched at a place of the text, and captured on the way, stands in the text. -/
theorem isIn_of_matchAt {cursor : Cursor} (inside : cursor.IsIn text)
    (matched : regex.matchAt false cursor = some found) :
    found.whole.first = cursor ∧ found.whole.IsIn text ∧
      (∀ captured ∈ found.groups, captured.2.IsIn text) ∧
      (regex.moves = true → found.whole.start < found.whole.stop) := by
  obtain ⟨last, ran, rfl⟩ := matchAt_eq_some_iff.mp matched
  obtain ⟨later, ends, same⟩ := leads_ends regex ⟨cursor, []⟩ rfl ran
  obtain rfl := Option.some.inj same
  obtain ⟨chars, reads, heeds⟩ := exists_reads_of_ends regex ends
  have start : State.IsIn text ⟨cursor, []⟩ := ⟨inside, fun _ => List.not_mem_nil.elim⟩
  have stop := start.of_ends regex ends
  refine ⟨rfl, ⟨inside, stop.cursor, ?_⟩, stop.groups, fun moves => ?_⟩
  · rw [Span.start, Span.stop, reads.offset_eq]
    exact Nat.le_add_right _ _
  · rw [Span.start, Span.stop, reads.offset_eq]
    exact Nat.lt_add_of_pos_right (List.length_pos_iff.mpr (heeds.moved moves))

/-! Searching -/

/-- What is found is matched where it begins, which is not before the search did. -/
theorem matchAt_of_searchFrom {before after : List Char}
    (inside : Cursor.IsIn text ⟨before, after⟩)
    (searched : regex.searchFrom false before after = some found) :
    found.whole.first.IsIn text ∧ before.length ≤ found.whole.start ∧
      regex.matchAt false found.whole.first = some found := by
  have here {before after : List Char} (inside : Cursor.IsIn text ⟨before, after⟩)
      (matched : regex.matchAt false ⟨before, after⟩ = some found) :
      found.whole.first.IsIn text ∧ before.length ≤ found.whole.start ∧
        regex.matchAt false found.whole.first = some found := by
    obtain ⟨first, -⟩ := isIn_of_matchAt inside matched
    rw [Span.start, first]
    exact ⟨inside, Nat.le_refl _, matched⟩
  induction after generalizing before with
  | nil => exact here inside searched
  | cons c after ih =>
      rw [searchFrom] at searched
      split at searched
      · rename_i matched
        exact here inside (searched ▸ matched)
      · have next : Cursor.IsIn text ⟨c :: before, after⟩ := by
          rw [Cursor.IsIn, ← inside, List.reverse_cons, List.append_assoc, List.singleton_append]
        obtain ⟨first, later, matched⟩ := ih next searched
        exact ⟨first, Nat.le_of_succ_le later, matched⟩

/-- No match begins before the one that is found, and none at all where none is found. -/
theorem matchAt_eq_none_of_searchFrom {before after : List Char}
    (inside : Cursor.IsIn text ⟨before, after⟩) {cursor : Cursor} (place : cursor.IsIn text)
    (behind : before.length ≤ cursor.offset)
    (ahead : ∀ found ∈ regex.searchFrom false before after, cursor.offset < found.whole.start) :
    regex.matchAt false cursor = none := by
  have here {before after : List Char} (inside : Cursor.IsIn text ⟨before, after⟩)
      (same : before.length = cursor.offset)
      (ahead : ∀ found ∈ regex.matchAt false ⟨before, after⟩, cursor.offset < found.whole.start) :
      regex.matchAt false cursor = none := by
    obtain rfl := inside.eq_of_offset_eq place same
    rw [Option.eq_none_iff_forall_ne_some]
    intro found matched
    obtain ⟨first, -⟩ := isIn_of_matchAt inside matched
    have strict := ahead found matched
    rw [Span.start, first] at strict
    exact Nat.lt_irrefl _ strict
  induction after generalizing before with
  | nil =>
      have whole := inside.length_eq
      have bound := place.length_eq
      refine here inside (Nat.le_antisymm behind ?_) ahead
      change text.length = before.length + 0 at whole
      omega
  | cons c after ih =>
      rw [searchFrom] at ahead
      by_cases same : before.length = cursor.offset
      · refine here inside same fun found matched => ahead found ?_
        rw [Option.mem_def] at matched ⊢
        rw [matched]
      · split at ahead
        · rename_i found matched
          have strict := ahead found rfl
          obtain ⟨first, -⟩ := isIn_of_matchAt inside matched
          rw [Span.start, first] at strict
          exact absurd behind (Nat.not_le_of_lt strict)
        · refine ih ?_ ?_ ahead
          · rw [Cursor.IsIn, ← inside, List.reverse_cons, List.append_assoc, List.singleton_append]
          · exact Nat.lt_of_le_of_ne behind same

/-! All matches -/

/-- The matches from a place on, as they are found from left to right: they follow one another, and
wherever a match could begin, it is one of them or begins within one. -/
structure Sweeps (regex : Regex) (text : List Char) (start : Nat) (found : List Match) : Prop where
  matched : ∀ item ∈ found, regex.matchAt false item.whole.first = some item ∧
    item.whole.IsIn text ∧ start ≤ item.whole.start ∧ item.whole.start < item.whole.stop
  apart : found.Pairwise fun earlier later => earlier.whole.stop ≤ later.whole.start
  complete : ∀ cursor : Cursor, cursor.IsIn text → start ≤ cursor.offset →
    regex.matchAt false cursor ≠ none →
      ∃ item ∈ found, item.whole.start ≤ cursor.offset ∧ cursor.offset < item.whole.stop

variable {start : Nat} {rest : List Match}

/-- The matches behind the first one. -/
theorem Sweeps.tail (sweeps : regex.Sweeps text start (found :: rest)) :
    regex.Sweeps text found.whole.stop rest := by
  obtain ⟨follows, apart⟩ := List.pairwise_cons.mp sweeps.apart
  have forward := (sweeps.matched found List.mem_cons_self).2.2
  refine ⟨fun item member => ?_, apart, fun cursor inside behind matched => ?_⟩
  · obtain ⟨same, inside, -, moved⟩ := sweeps.matched item (List.mem_cons_of_mem _ member)
    exact ⟨same, inside, follows item member, moved⟩
  · obtain ⟨item, member, within⟩ := sweeps.complete cursor inside (by omega) matched
    rcases List.mem_cons.mp member with rfl | member
    · omega
    · exact ⟨item, member, within⟩

/-- The first match is the leftmost one. -/
theorem Sweeps.start_le (sweeps : regex.Sweeps text start (found :: rest)) {cursor : Cursor}
    (inside : cursor.IsIn text) (behind : start ≤ cursor.offset)
    (matched : regex.matchAt false cursor ≠ none) : found.whole.start ≤ cursor.offset := by
  obtain ⟨item, member, begins, -⟩ := sweeps.complete cursor inside behind matched
  rcases List.mem_cons.mp member with rfl | member
  · exact begins
  · have follows := (List.pairwise_cons.mp sweeps.apart).1 item member
    have forward := (sweeps.matched found List.mem_cons_self).2.2
    omega

/-- There is one such list of matches only. -/
theorem Sweeps.unique {others : List Match} (sweeps : regex.Sweeps text start rest)
    (again : regex.Sweeps text start others) : rest = others := by
  induction rest generalizing start others with
  | nil =>
      cases others with
      | nil => rfl
      | cons other others =>
          obtain ⟨matched, inside, behind, -⟩ := again.matched other List.mem_cons_self
          obtain ⟨item, member, -⟩ := sweeps.complete _ inside.first behind (by simp [matched])
          cases member
  | cons found rest ih =>
      obtain ⟨matched, inside, behind, -⟩ := sweeps.matched found List.mem_cons_self
      cases others with
      | nil =>
          obtain ⟨item, member, -⟩ := again.complete _ inside.first behind (by simp [matched])
          cases member
      | cons other others =>
          obtain ⟨hit, within, later, -⟩ := again.matched other List.mem_cons_self
          have same : found.whole.first = other.whole.first := by
            apply inside.first.eq_of_offset_eq within.first
            exact Nat.le_antisymm (sweeps.start_le within.first later (by simp [hit]))
              (again.start_le inside.first behind (by simp [matched]))
          rw [same, hit] at matched
          obtain rfl := Option.some.inj matched
          rw [ih sweeps.tail again.tail]

/-- The matches that are found from a place on. -/
theorem sweeps_findFrom (moves : regex.moves = true) {fuel : Nat} {cursor : Cursor}
    (inside : cursor.IsIn text) (enough : cursor.after.length < fuel) :
    regex.Sweeps text cursor.offset (regex.findFrom fuel false cursor) := by
  induction fuel generalizing cursor with
  | zero => cases enough
  | succ fuel ih =>
      rw [findFrom]
      cases searched : regex.searchFrom false cursor.before cursor.after with
      | none =>
          refine ⟨fun _ => List.not_mem_nil.elim, .nil, fun place within behind matched => ?_⟩
          refine absurd (matchAt_eq_none_of_searchFrom inside within behind ?_) matched
          simp [searched]
      | some found =>
          obtain ⟨first, behind, matched⟩ := matchAt_of_searchFrom inside searched
          obtain ⟨-, within, -, moved⟩ := isIn_of_matchAt first matched
          have forward := moved moves
          have size := inside.length_eq
          have stop := within.last.length_eq
          have later : regex.Sweeps text found.whole.stop
              (regex.findFrom fuel false found.whole.last) := by
            refine ih within.last ?_
            change cursor.offset ≤ found.whole.start at behind
            rw [Span.stop] at forward
            omega
          have goesOn : (found.whole.start == found.whole.stop) = false :=
            beq_eq_false_iff_ne.mpr (Nat.ne_of_lt forward)
          dsimp only
          rw [goesOn]
          refine ⟨List.forall_mem_cons.mpr ⟨⟨matched, within, behind, forward⟩, ?_⟩,
            List.pairwise_cons.mpr ⟨fun item member => ?_, later.apart⟩, ?_⟩
          · intro item member
            obtain ⟨same, inText, follows, moved⟩ := later.matched item member
            exact ⟨same, inText, Nat.le_trans behind
              (Nat.le_trans (Nat.le_of_lt forward) follows), moved⟩
          · exact (later.matched item member).2.2.1
          · intro place inText beyond begins
            by_cases early : place.offset < found.whole.start
            · refine absurd (matchAt_eq_none_of_searchFrom inside inText beyond ?_) begins
              rw [searched]
              rintro other ⟨rfl⟩
              exact early
            · by_cases covered : place.offset < found.whole.stop
              · exact ⟨found, List.mem_cons_self, Nat.le_of_not_lt early, covered⟩
              · obtain ⟨item, member, span⟩ :=
                  later.complete place inText (Nat.le_of_not_lt covered) begins
                exact ⟨item, List.mem_cons_of_mem _ member, span⟩

/-- What is found in a text are its matches from left to right. -/
theorem sweeps_iff (moves : regex.moves = true) {text : String} {found : List Match} :
    regex.Sweeps text.toList 0 found ↔ found = regex.findAll text := by
  have all : regex.Sweeps text.toList 0 (regex.findAll text) := by
    refine sweeps_findFrom moves (Cursor.isIn_start _) ?_
    rw [Cursor.start, String.length_toList]
    omega
  constructor
  · intro sweeps
    exact sweeps.unique all
  · rintro rfl
    exact all

end PlainScript.Regex
