/-
Sketches: texts of which some parts are only known to consist of certain characters. An expression
is followed through a sketch as through an automaton; where it gets nowhere, it occurs in no text
that fits the sketch.
-/

import Mathlib.Logic.Function.Iterate
import PlainScript.Proofs.Regex.Progress

namespace PlainScript

/-- A character, or any number of characters, out of an alphabet. -/
inductive Stroke where
  | one (alphabet : List Char)
  | run (alphabet : List Char)
  deriving DecidableEq, Repr

/-- The strokes of a text from left to right. A place in it is the number of strokes before. -/
abbrev Sketch := List Stroke

namespace Sketch

/-- The texts that are drawn by the strokes. -/
inductive Fits : Sketch → List Char → Prop where
  | nil : Fits [] []
  | one {alphabet : List Char} {rest : Sketch} {c : Char} {chars : List Char}
      (member : c ∈ alphabet) (later : Fits rest chars) : Fits (.one alphabet :: rest) (c :: chars)
  | skip {alphabet : List Char} {rest : Sketch} {chars : List Char}
      (later : Fits rest chars) : Fits (.run alphabet :: rest) chars
  | run {alphabet : List Char} {rest : Sketch} {c : Char} {chars : List Char}
      (member : c ∈ alphabet) (later : Fits (.run alphabet :: rest) chars) :
      Fits (.run alphabet :: rest) (c :: chars)

/-- The sketch of a text that is known. -/
def ofChars (chars : List Char) : Sketch := chars.map fun c => .one [c]

/-- The sketch of a text of one or more characters out of an alphabet. -/
def word (alphabet : List Char) : Sketch := [.one alphabet, .run alphabet]

theorem fits_ofChars_append_iff (front : List Char) {rest : Sketch} {chars : List Char} :
    Fits (ofChars front ++ rest) chars ↔ ∃ back, chars = front ++ back ∧ Fits rest back := by
  induction front generalizing chars with
  | nil => simp [ofChars]
  | cons c front ih =>
      constructor
      · intro fits
        cases fits with
        | one member later =>
            obtain ⟨back, rfl, fits⟩ := ih.mp later
            rw [List.mem_singleton] at member
            exact ⟨back, by rw [member, List.cons_append], fits⟩
      · rintro ⟨back, rfl, fits⟩
        exact .one List.mem_cons_self (ih.mpr ⟨back, rfl, fits⟩)

theorem fits_run_append {alphabet chars back : List Char} {rest : Sketch}
    (members : ∀ c ∈ chars, c ∈ alphabet) (fits : Fits rest back) :
    Fits (.run alphabet :: rest) (chars ++ back) := by
  induction chars with
  | nil => exact .skip fits
  | cons c chars ih =>
      exact .run (members c List.mem_cons_self)
        (ih fun d member => members d (List.mem_cons_of_mem c member))

theorem fits_word_append {alphabet chars back : List Char} {rest : Sketch} (nonempty : chars ≠ [])
    (members : ∀ c ∈ chars, c ∈ alphabet) (fits : Fits rest back) :
    Fits (word alphabet ++ rest) (chars ++ back) := by
  obtain ⟨c, chars, rfl⟩ := List.exists_cons_of_ne_nil nonempty
  exact .one (members c List.mem_cons_self)
    (fits_run_append (fun d member => members d (List.mem_cons_of_mem c member)) fits)

/-! Places -/

/-- The places after one character that passes the test, read where the strokes begin at the
given place. -/
def next (test : Char → Bool) : (place : Nat) → Sketch → List Nat
  | _, [] => []
  | place, .one alphabet :: _ => if alphabet.any test then [place + 1] else []
  | place, .run alphabet :: rest =>
      (if alphabet.any test then [place] else []) ++ next test (place + 1) rest

variable (sketch : Sketch)

/-- All places of the sketch, its end included. -/
def places : List Nat := List.range (sketch.length + 1)

/-- The text can be what follows after one of the places. -/
def Stands (places : List Nat) (chars : List Char) : Prop :=
  ∃ place ∈ places, Fits (sketch.drop place) chars

def union (first second : List Nat) : List Nat :=
  first ++ second.filter fun place => !first.contains place

/-- The places after one character that passes the test. -/
def read (test : Char → Bool) (places : List Nat) : List Nat :=
  places.foldr (fun place found => union (next test place (sketch.drop place)) found) []

/-- The places after any number of rounds of the body; all of them if it takes too long to tell. -/
def rounds (body : List Nat → List Nat) : (fuel : Nat) → List Nat → List Nat
  | 0, _ => sketch.places
  | fuel + 1, places =>
      let reached := body places
      if reached.all places.contains then places else rounds body fuel (union places reached)

open Regex in
/-- The places at which the expression can end that begins at one of the given places. Conditions
on what stands around count as met. -/
def after : Regex → List Nat → List Nat
  | .empty, places | .anchor _, places | .ahead _ _, places | .behind _ _ _, places => places
  | .char c folding, places => sketch.read (folding.equal c) places
  | .member members folding, places => sketch.read (members.holds folding) places
  | .any lineFeeds, places => sketch.read (fun c => lineFeeds || c != '\n') places
  | .seq first second, places => after second (after first places)
  | .alt first second, places => union (after first places) (after second places)
  | .times _ least _ body, places =>
      sketch.rounds (after body) (sketch.length + 1) ((after body)^[least] places)
  | .group _ body, places | .atomic body, places => after body places
  | .back _ _, _ => sketch.places
  | .given _ matched unmatched, places => union (after matched places) (after unmatched places)

variable {sketch}

@[simp] theorem mem_union {first second : List Nat} {place : Nat} :
    place ∈ union first second ↔ place ∈ first ∨ place ∈ second := by
  by_cases known : place ∈ first <;> simp [union, known]

theorem Stands.mono {fewer more : List Nat} {chars : List Char} (stands : sketch.Stands fewer chars)
    (subset : ∀ place ∈ fewer, place ∈ more) : sketch.Stands more chars := by
  obtain ⟨place, member, fits⟩ := stands
  exact ⟨place, subset place member, fits⟩

theorem Stands.union_left {first : List Nat} {chars : List Char}
    (stands : sketch.Stands first chars) (second : List Nat) :
    sketch.Stands (union first second) chars :=
  stands.mono fun _ member => mem_union.mpr (.inl member)

theorem Stands.union_right {second : List Nat} {chars : List Char}
    (stands : sketch.Stands second chars) (first : List Nat) :
    sketch.Stands (union first second) chars :=
  stands.mono fun _ member => mem_union.mpr (.inr member)

/-- Places beyond the end are as good as the end. -/
theorem Stands.places {known : List Nat} {chars : List Char} (stands : sketch.Stands known chars) :
    sketch.Stands sketch.places chars := by
  obtain ⟨place, -, fits⟩ := stands
  refine ⟨min place sketch.length, List.mem_range.mpr (by omega), ?_⟩
  rcases Nat.le_total place sketch.length with inside | beyond
  · rwa [Nat.min_eq_left inside]
  · rw [List.drop_of_length_le beyond] at fits
    rwa [Nat.min_eq_right beyond, List.drop_length]

theorem stands_of_fits {chars : List Char} (fits : Fits sketch chars) : sketch.Stands [0] chars :=
  ⟨0, List.mem_singleton.mpr rfl, fits⟩

/-- One character leads to one of the next places. -/
theorem Fits.exists_next {test : Char → Bool} {c : Char} {chars : List Char} (passes : test c)
    {place : Nat} (fits : Fits (sketch.drop place) (c :: chars)) :
    ∃ later ∈ next test place (sketch.drop place), Fits (sketch.drop later) chars := by
  generalize same : sketch.drop place = strokes at fits
  induction strokes generalizing place with
  | nil => cases fits
  | cons stroke rest ih =>
      have follows : sketch.drop (place + 1) = rest := by
        rw [← List.drop_drop, same, List.drop_one, List.tail_cons]
      cases fits with
      | one member later =>
          refine ⟨place + 1, ?_, follows ▸ later⟩
          simp only [next, if_pos (List.any_eq_true.mpr ⟨c, member, passes⟩), List.mem_singleton]
      | skip fits =>
          obtain ⟨later, reached, fits⟩ := ih follows fits
          exact ⟨later, List.mem_append_right _ reached, fits⟩
      | run member later =>
          refine ⟨place, List.mem_append_left _ ?_, same ▸ later⟩
          rw [if_pos (List.any_eq_true.mpr ⟨c, member, passes⟩), List.mem_singleton]

theorem mem_read {test : Char → Bool} {known : List Nat} {place : Nat} :
    place ∈ sketch.read test known ↔
      ∃ earlier ∈ known, place ∈ next test earlier (sketch.drop earlier) := by
  induction known with
  | nil => simp [read]
  | cons first known ih =>
      rw [read, List.foldr_cons, mem_union, ← read, ih]
      simp only [List.mem_cons, exists_eq_or_imp]

theorem Stands.read {test : Char → Bool} {known : List Nat} {c : Char} {chars : List Char}
    (stands : sketch.Stands known (c :: chars)) (passes : test c) :
    sketch.Stands (sketch.read test known) chars := by
  obtain ⟨place, member, fits⟩ := stands
  obtain ⟨later, reached, fits⟩ := fits.exists_next passes
  exact ⟨later, mem_read.mpr ⟨place, member, reached⟩, fits⟩

/-- What follows a character stands in the sketch too. -/
theorem Stands.tail {c : Char} {chars : List Char}
    (stands : sketch.Stands sketch.places (c :: chars)) : sketch.Stands sketch.places chars :=
  Stands.places (@Stands.read _ (fun _ => true) _ c chars stands rfl)

end Sketch

/-! Following an expression through a sketch -/

namespace Regex

open Sketch

/-- A match of the body leads from where the first condition holds to where the second does. -/
def Leads (body : Matcher) (before after : State → Prop) : Prop :=
  ∀ ⦃state next out⦄, before state → body state next = some out →
    ∃ later, after later ∧ next later = some out

variable {body : Matcher} {before after invariant : State → Prop}

/-- As many rounds as asked for, one condition leading to the next. -/
theorem leads_exactly (conditions : Nat → State → Prop)
    (each : ∀ round, Leads body (conditions round) (conditions (round + 1))) (first count : Nat) :
    Leads (exactly body count) (conditions first) (conditions (first + count)) := by
  induction count generalizing first with
  | zero => exact fun state next out holds found => ⟨state, holds, found⟩
  | succ count ih =>
      intro state next out holds found
      obtain ⟨middle, holds, found⟩ := each first holds found
      obtain ⟨later, holds, found⟩ := ih (first + 1) holds found
      exact ⟨later, by rwa [Nat.add_right_comm] at holds, found⟩

theorem leads_greedily (kept : Leads body invariant invariant) (count : Nat) :
    Leads (greedily body count) invariant invariant := by
  induction count with
  | zero => exact fun state next out holds found => ⟨state, holds, found⟩
  | succ count ih =>
      intro state next out holds found
      rcases Option.or_eq_some_iff.mp found with found | ⟨-, found⟩
      · obtain ⟨middle, holds, found⟩ := kept holds found
        split at found
        · exact ⟨middle, holds, found⟩
        · exact ih holds found
      · exact ⟨state, holds, found⟩

theorem leads_lazily (kept : Leads body invariant invariant) (count : Nat) :
    Leads (lazily body count) invariant invariant := by
  induction count with
  | zero => exact fun state next out holds found => ⟨state, holds, found⟩
  | succ count ih =>
      intro state next out holds found
      rcases Option.or_eq_some_iff.mp found with found | ⟨-, found⟩
      · exact ⟨state, holds, found⟩
      · obtain ⟨middle, holds, found⟩ := kept holds found
        split at found
        · exact ⟨middle, holds, found⟩
        · exact ih holds found

theorem leads_once (leads : Leads body before after) : Leads (once body) before after := by
  intro state next out holds found
  obtain ⟨middle, first, found⟩ := Option.bind_eq_some_iff.mp found
  obtain ⟨later, holds, same⟩ := leads holds first
  exact ⟨later, holds, by rwa [Option.some.inj same]⟩

/-- The least number of rounds, and then any number of them that keep an invariant. -/
theorem leads_repeatedly (conditions : Nat → State → Prop)
    (each : ∀ round, Leads body (conditions round) (conditions (round + 1))) {least : Nat}
    (enough : ∀ state, conditions least state → invariant state)
    (kept : Leads body invariant invariant) (greed : Greed) (most : Option Nat) :
    Leads (repeatedly body greed least most) (conditions 0) invariant := by
  have start : Leads (exactly body least) (conditions 0) invariant := by
    intro state next out holds found
    obtain ⟨later, holds, found⟩ := leads_exactly conditions each 0 least holds found
    exact ⟨later, enough later (by rwa [Nat.zero_add] at holds), found⟩
  cases greed with
  | greedy =>
      intro state next out holds found
      obtain ⟨middle, holds, found⟩ := start holds found
      exact leads_greedily kept _ holds found
  | lazy =>
      intro state next out holds found
      obtain ⟨middle, holds, found⟩ := start holds found
      exact leads_lazily kept _ holds found
  | possessive =>
      have single : Leads (fun state next => exactly (once body) least state fun later =>
          greedily (once body) (extraRounds least most later) later next) (conditions 0)
          invariant := by
        intro state next out holds found
        obtain ⟨middle, holds, found⟩ :=
          leads_exactly conditions (fun round => leads_once (each round)) 0 least holds found
        rw [Nat.zero_add] at holds
        exact leads_greedily (leads_once kept) _ (enough middle holds) found
      exact fun state next out holds found => leads_once single holds found

end Regex

namespace Sketch

open Regex

variable {sketch : Sketch}

/-- The rest of the text can be what follows after one of the places. -/
abbrev Holds (sketch : Sketch) (places : List Nat) (state : State) : Prop :=
  sketch.Stands places state.cursor.after

/-- Any number of rounds end at the places of `rounds`. -/
theorem leads_rounds {body : Matcher} {reach : List Nat → List Nat}
    (each : ∀ known, Leads body (sketch.Holds known) (sketch.Holds (reach known))) (fuel : Nat)
    (known : List Nat) :
    (∀ state, sketch.Holds known state → sketch.Holds (sketch.rounds reach fuel known) state) ∧
      Leads body (sketch.Holds (sketch.rounds reach fuel known))
        (sketch.Holds (sketch.rounds reach fuel known)) := by
  induction fuel generalizing known with
  | zero =>
      refine ⟨fun state => Stands.places, fun state next out holds found => ?_⟩
      obtain ⟨later, holds, found⟩ := each _ holds found
      exact ⟨later, Stands.places holds, found⟩
  | succ fuel ih =>
      rw [rounds]
      split
      · rename_i closed
        refine ⟨fun state => id, fun state next out holds found => ?_⟩
        obtain ⟨later, holds, found⟩ := each known holds found
        refine ⟨later, Stands.mono holds fun place member => ?_, found⟩
        exact List.contains_iff_mem.mp (List.all_eq_true.mp closed place member)
      · obtain ⟨enough, kept⟩ := ih (union known (reach known))
        exact ⟨fun state holds => enough state (Stands.union_left holds _), kept⟩

/-- One character leads to the next places. -/
theorem exists_of_step? {test : Char → Bool} {known : List Nat} {state : State} {next : Next}
    {out : State} (holds : sketch.Holds known state)
    (found : (state.step? test).bind next = some out) :
    ∃ later, sketch.Holds (sketch.read test known) later ∧ next later = some out := by
  obtain ⟨later, step, found⟩ := Option.bind_eq_some_iff.mp found
  refine ⟨later, ?_, found⟩
  obtain ⟨⟨before, chars⟩, groups⟩ := state
  cases chars with
  | nil => cases step
  | cons c chars =>
      simp only [State.step?] at step
      split at step
      · rename_i passes
        obtain rfl := Option.some.inj step
        exact Stands.read holds passes
      · cases step

/-- A text that is passed over leads to some place. -/
theorem exists_of_steps? {folding : Folding} {chars : List Char} {known : List Nat} {state : State}
    {later : State} (holds : sketch.Holds known state)
    (found : state.steps? folding chars = some later) : sketch.Holds sketch.places later := by
  induction chars generalizing state known with
  | nil =>
      obtain rfl := Option.some.inj found
      exact Stands.places holds
  | cons c chars ih =>
      obtain ⟨middle, holds, found⟩ := exists_of_step? holds found
      exact ih holds found

/-- Looking around does not move. -/
theorem exists_of_look {seen : Option State} {negated : Bool} {state : State} {next : Next}
    {out : State}
    (found : (match seen with
      | some later => if negated then none else next ⟨state.cursor, later.groups⟩
      | none => if negated then next state else none) = some out) :
    ∃ later : State, later.cursor = state.cursor ∧ next later = some out := by
  cases seen with
  | some later =>
      cases negated with
      | true => cases found
      | false => exact ⟨⟨state.cursor, later.groups⟩, rfl, found⟩
  | none =>
      cases negated with
      | true => exact ⟨state, rfl, found⟩
      | false => cases found

/-- A match of the expression ends where `after` says. -/
theorem leads_after (regex : Regex) (known : List Nat) :
    Leads regex.run (sketch.Holds known) (sketch.Holds (sketch.after regex known)) := by
  induction regex generalizing known with
  | empty => exact fun state next out holds found => ⟨state, holds, found⟩
  | char c folding => exact fun state next out => exists_of_step?
  | member members folding => exact fun state next out => exists_of_step?
  | any lineFeeds => exact fun state next out => exists_of_step?
  | anchor place =>
      intro state next out holds found
      simp only [run] at found
      split at found
      · exact ⟨state, holds, found⟩
      · cases found
  | seq first second ihFirst ihSecond =>
      intro state next out holds found
      obtain ⟨middle, holds, found⟩ := ihFirst known holds found
      exact ihSecond _ holds found
  | alt first second ihFirst ihSecond =>
      intro state next out holds found
      rcases Option.or_eq_some_iff.mp found with found | ⟨-, found⟩
      · obtain ⟨later, holds, found⟩ := ihFirst known holds found
        exact ⟨later, Stands.union_left holds _, found⟩
      · obtain ⟨later, holds, found⟩ := ihSecond known holds found
        exact ⟨later, Stands.union_right holds _, found⟩
  | times greed least most body ih =>
      obtain ⟨enough, kept⟩ := leads_rounds ih (sketch.length + 1)
        ((sketch.after body)^[least] known)
      refine leads_repeatedly (fun round => sketch.Holds ((sketch.after body)^[round] known))
        (fun round => ?_) enough kept greed most
      rw [Function.iterate_succ_apply']
      exact ih _
  | group index body ih =>
      intro state next out holds found
      obtain ⟨later, holds, found⟩ := ih known holds found
      exact ⟨later.capture index state, holds, found⟩
  | back index folding =>
      intro state next out holds found
      obtain ⟨span, -, found⟩ := Option.bind_eq_some_iff.mp found
      obtain ⟨later, steps, found⟩ := Option.bind_eq_some_iff.mp found
      exact ⟨later, exists_of_steps? holds steps, found⟩
  | ahead negated body =>
      intro state next out holds found
      obtain ⟨later, same, found⟩ := exists_of_look found
      exact ⟨later, by rwa [Holds, same], found⟩
  | behind negated width body =>
      intro state next out holds found
      obtain ⟨later, same, found⟩ := exists_of_look found
      exact ⟨later, by rwa [Holds, same], found⟩
  | atomic body ih => exact leads_once (ih known)
  | given index matched unmatched ihMatched ihUnmatched =>
      intro state next out holds found
      simp only [run] at found
      split at found
      · obtain ⟨later, holds, found⟩ := ihMatched known holds found
        exact ⟨later, Stands.union_left holds _, found⟩
      · obtain ⟨later, holds, found⟩ := ihUnmatched known holds found
        exact ⟨later, Stands.union_right holds _, found⟩

/-! Expressions that get nowhere -/

variable {regex : Regex} {known : List Nat}

theorem matchAt_eq_none {cursor : Cursor} (stands : sketch.Stands known cursor.after)
    (nowhere : sketch.after regex known = []) (advance : Bool) :
    regex.matchAt advance cursor = none := by
  rw [matchAt, Option.map_eq_none_iff, Option.eq_none_iff_forall_ne_some]
  intro out found
  obtain ⟨later, ⟨place, member, -⟩, -⟩ := leads_after regex known stands found
  rw [nowhere] at member
  exact List.not_mem_nil member

theorem searchFrom_eq_none {chars : List Char} (stands : sketch.Stands sketch.places chars)
    (nowhere : sketch.after regex sketch.places = []) (advance : Bool) (before : List Char) :
    regex.searchFrom advance before chars = none := by
  induction chars generalizing advance before with
  | nil => exact matchAt_eq_none stands nowhere advance
  | cons c chars ih =>
      have here : regex.matchAt advance ⟨before, c :: chars⟩ = none :=
        matchAt_eq_none stands nowhere advance
      simp only [searchFrom, here]
      exact ih stands.tail false (c :: before)

/-- A match that is found begins where the rest of the text stands in the sketch. -/
theorem exists_of_searchFrom {chars before : List Char}
    (stands : sketch.Stands sketch.places chars) {found : Match}
    (searched : regex.searchFrom false before chars = some found) :
    ∃ cursor : Cursor, sketch.Stands sketch.places cursor.after ∧
      regex.matchAt false cursor = some found := by
  induction chars generalizing before with
  | nil => exact ⟨_, stands, searched⟩
  | cons c chars ih =>
      rw [searchFrom] at searched
      split at searched
      · rename_i matched
        exact ⟨_, stands, searched ▸ matched⟩
      · exact ih stands.tail searched

variable {text : String}

/-- An expression that gets nowhere is not found. -/
theorem search_eq_none (fits : Fits sketch text.toList)
    (nowhere : sketch.after regex sketch.places = []) : regex.search text = none :=
  searchFrom_eq_none (Stands.places (stands_of_fits fits)) nowhere false []

/-- A known front in which the expression gets nowhere is passed over. -/
theorem searchFrom_front {front back : List Char} {rest : Sketch} (fits : Fits rest back)
    (nowhere : (ofChars front ++ rest).after regex (List.range front.length) = []) :
    regex.searchFrom false [] (front ++ back) = regex.searchFrom false front.reverse back := by
  rw [searchFrom_append, List.append_nil]
  intro done c more same
  refine matchAt_eq_none ⟨done.length, ?_, ?_⟩ nowhere false
  · simp [same]
  · have drawn : Fits (ofChars (c :: more) ++ rest) (c :: (more ++ back)) :=
      (fits_ofChars_append_iff (c :: more)).mpr ⟨back, rfl, fits⟩
    have dropped : (ofChars front ++ rest).drop done.length = ofChars (c :: more) ++ rest := by
      rw [same, ofChars, List.map_append, List.append_assoc, List.drop_left' (List.length_map _),
        ofChars]
    rwa [dropped]

theorem findAll_eq_nil (fits : Fits sketch text.toList)
    (nowhere : sketch.after regex sketch.places = []) : regex.findAll text = [] := by
  have missed := searchFrom_eq_none (Stands.places (stands_of_fits fits)) nowhere false []
  rw [findAll, findFrom, Cursor.start, missed]

end Sketch

end PlainScript
