/-
Scalars that were written read as they were. A text is written word by word; between words stand
the spaces as they are, or a line end for a single one.
-/

import PlainScript.Proofs.Yaml.Place

namespace PlainScript.Yaml

/-! Gaps -/

/-- What is written for spaces between words. -/
inductive WritesGap (indent : Nat) : (gap written : List Char) → Prop where
  | spaces (count : Nat) : WritesGap indent (List.replicate (count + 1) ' ')
      (List.replicate (count + 1) ' ')
  | fold : WritesGap indent [' '] (newLine indent)

variable {place : Place} {indent count margin : Nat} {gap joint chars written rest : List Char}

theorem WritesGap.length_le (writes : WritesGap indent gap joint) : gap.length ≤ joint.length := by
  cases writes with
  | spaces count => exact Nat.le_refl _
  | fold => exact Nat.succ_le_succ (Nat.zero_le _)

theorem WritesGap.exists_cons (writes : WritesGap indent gap joint) :
    gap.isEmpty = false ∧ ∃ c more, joint = c :: more ∧ (isGap c || isBreak c) = true := by
  cases writes with
  | spaces count => exact ⟨rfl, ' ', _, rfl, rfl⟩
  | fold => exact ⟨rfl, '\n', _, rfl, rfl⟩

theorem plainBreaks_eq (starts : StartsToken rest) {fuel : Nat} (enough : count ≤ fuel)
    (breaks : List Char) (whole : place.rest = List.replicate count ' ' ++ rest) :
    ∃ after, Leads place (List.replicate count ' ') after ∧ after.rest = rest ∧
      plainBreaks fuel breaks place = (some breaks, after) := by
  induction count generalizing fuel place with
  | zero =>
      refine ⟨place, .refl place, whole, ?_⟩
      rw [List.replicate_zero, List.nil_append] at whole
      cases fuel with
      | zero => rfl
      | succ fuel =>
          unfold plainBreaks Place.peek
          rw [whole]
          cases rest with
          | nil => rfl
          | cons c rest =>
              obtain ⟨noSpace, -, noBreak⟩ := starts c rfl
              rw [List.head?_cons]
              split
              · rename_i same
                exact absurd (Option.some.inj same) noSpace
              · rename_i d _ same
                cases same
                rw [noBreak, if_neg Bool.false_ne_true]
              · rfl
  | succ count ih =>
      obtain ⟨fuel, rfl⟩ := Nat.exists_eq_add_of_le' enough
      obtain ⟨leads, later⟩ := Place.leads_next (by decide) whole
      obtain ⟨after, more, same, read⟩ := @ih place.next (fuel + count) (Nat.le_add_left _ _) later
      refine ⟨after, leads.trans more, same, ?_⟩
      rw [← Nat.add_assoc, plainBreaks]
      rw [Place.peek_eq whole]
      exact read

/-- A line end in a plain text is a space, unless the next line separates documents. -/
theorem plainGap_newLine (starts : StartsToken rest) (whole : place.rest = newLine count ++ rest) :
    ∃ after text, Leads place (newLine count) after ∧ after.rest = rest ∧ after.column = count ∧
      place.line < after.line ∧ (0 < count → text = [' ']) ∧
        plainGap place = ⟨text, after, true⟩ := by
  let next : Place := ⟨place.line + 1, 0, place.offset + 1, List.replicate count ' ' ++ rest⟩
  have ended : place.lineBreak = (['\n'], next) := Place.lineBreak_eq whole
  have first : Leads place ['\n'] next := ⟨whole, Nat.le_succ _, fun oneLine => by simp at oneLine⟩
  have breaks : place.peek = some '\n' := Place.peek_eq whole
  have unspaced : place.span (· == ' ') = ([], place) := by
    refine Place.span_eq_nil rfl ?_
    intro c head
    rw [← Place.peek, breaks] at head
    cases head
    rfl
  unfold plainGap
  rw [unspaced]
  dsimp only
  rw [breaks, Option.any_some, if_pos (by decide), ended]
  dsimp only
  split
  · rename_i marker
    have flush : count = 0 := by
      refine Nat.eq_zero_of_not_pos fun indented => ?_
      rw [@Place.atMarker_of_indented next _ count indented rfl] at marker
      cases marker
    subst flush
    exact ⟨next, [], first, rfl, rfl, Nat.lt_succ_self _, fun some => absurd some (Nat.lt_irrefl 0),
      rfl⟩
  · obtain ⟨after, leads, same, read⟩ := @plainBreaks_eq next count rest starts
      next.rest.length (by simp [next]) [] rfl
    obtain ⟨line, column, -⟩ := leads.column (by simp)
    refine ⟨after, [' '], first.trans leads, same, ?_, ?_, fun _ => rfl, ?_⟩
    · rw [column, List.length_replicate]
      exact Nat.zero_add _
    · rw [line]
      exact Nat.lt_succ_self _
    · rw [read]
      rfl

/-- What was written for spaces is read as the spaces. -/
theorem plainGap_eq (writes : WritesGap indent gap written) (indented : 0 < indent)
    (starts : StartsToken rest) (whole : place.rest = written ++ rest) :
    ∃ after broken, Leads place written after ∧ after.rest = rest ∧
      min (place.column + 1) indent ≤ after.column ∧ plainGap place = ⟨gap, after, broken⟩ := by
  cases writes with
  | spaces count =>
      obtain ⟨after, leads, same, spaces⟩ := Place.span_eq
        (fun _ => isBasic_of_mem_replicate) whole
        (fun c member => beq_iff_eq.mpr (List.eq_of_mem_replicate member)) starts.noSpace
      refine ⟨after, false, leads, same, ?_, ?_⟩
      · rw [(leads.column (by simp)).2.1, List.length_replicate]
        omega
      · unfold plainGap
        rw [spaces]
        dsimp only
        rw [Place.peek, same, starts.noBreak, if_neg Bool.false_ne_true]
  | fold =>
      obtain ⟨after, text, leads, same, column, -, kept, read⟩ := plainGap_newLine starts whole
      rw [kept indented] at read
      exact ⟨after, true, leads, same, by omega, read⟩

/-! Plain texts -/

/-- A word of a plain text, which is no part of a mark. -/
structure IsWord (run : List Char) : Prop where
  basic : ∀ c ∈ run, IsBasic c ∧ c ≠ ' '
  first : ∃ c ∈ run.head?, c ≠ '#'
  last : run.getLast? ≠ some ':'

theorem IsWord.exists_cons {run : List Char} (word : IsWord run) :
    ∃ c more, run = c :: more ∧ IsBasic c ∧ c ≠ ' ' ∧ c ≠ '#' := by
  obtain ⟨c, head, noComment⟩ := word.first
  obtain ⟨more, rfl⟩ := List.head?_eq_some_iff.mp head
  obtain ⟨basic, noSpace⟩ := word.basic c List.mem_cons_self
  exact ⟨c, more, rfl, basic, noSpace, noComment⟩

/-- A plain text and how it is written. -/
inductive WritesPlain (indent : Nat) : (chars written : List Char) → Prop where
  | last {run : List Char} (word : IsWord run) : WritesPlain indent run run
  | word {run gap joint chars written : List Char} (word : IsWord run)
      (between : WritesGap indent gap joint) (later : WritesPlain indent chars written) :
      WritesPlain indent (run ++ (gap ++ chars)) (run ++ (joint ++ written))

theorem WritesPlain.exists_word (writes : WritesPlain indent chars written) :
    ∃ run more, IsWord run ∧ written = run ++ more := by
  cases writes with
  | last word => exact ⟨_, [], word, (List.append_nil _).symm⟩
  | word word between later => exact ⟨_, _, word, rfl⟩

theorem WritesPlain.startsToken (writes : WritesPlain indent chars written) (rest : List Char) :
    StartsToken (written ++ rest) := by
  obtain ⟨run, more, word, rfl⟩ := writes.exists_word
  obtain ⟨c, run, rfl, basic, noSpace, noComment⟩ := word.exists_cons
  exact startsToken_cons basic noSpace noComment _

/-- A plain text is written from its first character on, and so is the second unless it is a gap. -/
theorem WritesPlain.exists_cons {c : Char} (writes : WritesPlain indent (c :: chars) written) :
    ∃ more, written = c :: more ∧ (separates chars.head? = false → more.head? = chars.head?) := by
  generalize same : c :: chars = whole at writes
  cases writes with
  | last word => exact ⟨chars, same.symm, fun _ => rfl⟩
  | @word run gap joint later written word between behind =>
      obtain ⟨d, run, rfl, -⟩ := word.exists_cons
      obtain ⟨rfl, rfl⟩ := List.cons.inj same
      refine ⟨run ++ (joint ++ written), rfl, fun solid => ?_⟩
      cases run with
      | nil =>
          cases between with
          | spaces count => cases solid
          | fold => cases solid
      | cons d run => rfl

/-- In one line no gap is a line end. -/
theorem WritesPlain.eq_of_oneLine (writes : WritesPlain indent chars written)
    (oneLine : '\n' ∉ written) : written = chars := by
  induction writes with
  | last word => rfl
  | @word run gap joint chars written word between later ih =>
      rw [List.mem_append, List.mem_append, not_or, not_or] at oneLine
      rw [ih oneLine.2.2]
      cases between with
      | spaces count => rfl
      | fold => exact absurd List.mem_cons_self oneLine.2.1

/-- A word is read up to its end. -/
theorem plainRun_append {run : List Char} (basic : ∀ c ∈ run, IsBasic c ∧ c ≠ ' ')
    (last : run.getLast? ≠ some ':') (stops : plainRun false rest = []) :
    plainRun false (run ++ rest) = run := by
  induction run with
  | nil => exact stops
  | cons c run ih =>
      rw [List.forall_mem_cons] at basic
      obtain ⟨⟨isBasic, noSpace⟩, later⟩ := basic
      have noGap : isGap c = false := by
        rw [isBasic.isGap_eq]
        exact beq_eq_false_iff_ne.mpr noSpace
      have noKey : (c == ':' && endsKey false (run ++ rest).head?) = false := by
        cases run with
        | nil =>
            have other : c ≠ ':' := fun same => last (congrArg some same)
            rw [beq_eq_false_iff_ne.mpr other, Bool.false_and]
        | cons d run =>
            obtain ⟨isBasic, noSpace⟩ := later d List.mem_cons_self
            simp [endsKey, separates, isBasic.isBreak_eq_false, isBasic.isGap_eq, noSpace]
      rw [List.cons_append, plainRun, noGap, isBasic.isBreak_eq_false, noKey]
      simp only [Bool.false_and, Bool.or_self, if_neg Bool.false_ne_true]
      rw [ih later]
      cases run with
      | nil => nofun
      | cons d run => rwa [List.getLast?_cons_cons] at last

/-- What ends a plain text in a block of the given margin. -/
structure EndsPlain (margin : Nat) (rest : List Char) : Prop where
  stops : plainRun false rest = []
  ends : ∀ place : Place, place.rest = rest →
    ((plainGap place).text.isEmpty || (plainGap place).place.peek == some '#' ||
      (!false && (plainGap place).place.column < margin)) = true

/-- After a word the text goes on behind the gap, or ends there. -/
theorem plainFrom_word {run : List Char} (word : IsWord run) (stops : plainRun false rest = [])
    (fuel : Nat) (before : List Char) (broken : Bool) (whole : place.rest = run ++ rest) :
    plainFrom false margin (fuel + 1) ⟨before, place, broken⟩ =
      let after := plainGap (place.skip run.length)
      if after.text.isEmpty || after.place.peek == some '#' ||
          (!false && after.place.column < margin) then
        (before ++ run, after.place, after.broken)
      else
        let (more, rest) := plainFrom false margin fuel after
        (before ++ run ++ more, rest) := by
  obtain ⟨c, more, same, -, -, noComment⟩ := word.exists_cons
  have comment : (place.peek == some '#') = false := by
    rw [Place.peek, whole, same]
    exact beq_eq_false_iff_ne.mpr fun head => noComment (Option.some.inj head)
  have read : plainRun false place.rest = run := by
    rw [whole, plainRun_append word.basic word.last stops]
  rw [plainFrom]
  dsimp only
  rw [read, comment, Bool.or_false, if_neg (by simp [same])]

/-- A plain text reads as it was, whatever gap stands in front of it. -/
theorem plainFrom_eq (writes : WritesPlain indent chars written) (indented : 0 < indent)
    (inside : margin ≤ indent) (ends : EndsPlain margin rest) {fuel : Nat}
    (enough : chars.length ≤ fuel) (before : List Char) (broken : Bool)
    (entered : margin ≤ place.column + 1) (whole : place.rest = written ++ rest) :
    ∃ last, Leads place written last ∧ last.rest = rest ∧
      plainFrom false margin fuel ⟨before, place, broken⟩ =
        (before ++ chars, (plainGap last).place, (plainGap last).broken) := by
  induction writes generalizing place fuel before broken with
  | @last run word =>
      have leads := Place.leads_skip (fun c member => (word.basic c member).1) whole
      have same := leads.rest_eq whole
      refine ⟨_, leads, same, ?_⟩
      obtain ⟨c, more, begins, -⟩ := word.exists_cons
      obtain ⟨fuel, rfl⟩ : ∃ less, fuel = less + 1 :=
        Nat.exists_eq_succ_of_ne_zero (by rw [begins, List.length_cons] at enough; omega)
      rw [plainFrom_word word ends.stops fuel before broken whole]
      dsimp only
      rw [ends.ends _ same, if_pos rfl]
  | @word run gap joint chars written word between later ih =>
      obtain ⟨c, more, begins, -⟩ := word.exists_cons
      rw [List.length_append, List.length_append, begins, List.length_cons] at enough
      obtain ⟨fuel, rfl⟩ : ∃ less, fuel = less + 1 := Nat.exists_eq_succ_of_ne_zero (by omega)
      rw [List.append_assoc, List.append_assoc] at whole
      have leads := Place.leads_skip (fun c member => (word.basic c member).1) whole
      have same := leads.rest_eq whole
      have length : 0 < run.length := by rw [begins]; exact Nat.zero_lt_succ _
      obtain ⟨_, column, -⟩ :=
        leads.column (lineFeed_notMem fun c member => (word.basic c member).1)
      obtain ⟨filled, d, tail, joined, gapped⟩ := between.exists_cons
      have stops : plainRun false (joint ++ (written ++ rest)) = [] := by
        rw [joined, List.cons_append, plainRun, gapped]
        rfl
      have starts := later.startsToken rest
      obtain ⟨after, ended, leads', same', column, read⟩ :=
        plainGap_eq between indented starts same
      obtain ⟨last, leads'', same'', read'⟩ := @ih after fuel (by omega) gap ended
        (by omega) same'
      have comment : (after.peek == some '#') = false :=
        beq_eq_false_iff_ne.mpr (by rw [Place.peek, same']; exact starts.noComment)
      have inside : decide (after.column < margin) = false := decide_eq_false (by omega)
      refine ⟨last, leads.trans (leads'.trans leads''), same'', ?_⟩
      rw [plainFrom_word word stops fuel before broken whole, read]
      dsimp only
      rw [filled, comment, inside, read']
      simp only [Bool.and_false, Bool.or_self, if_neg Bool.false_ne_true, List.append_assoc]

theorem WritesPlain.length_le (writes : WritesPlain indent chars written) :
    chars.length ≤ written.length := by
  induction writes with
  | last word => exact Nat.le_refl _
  | word word between later ih =>
      have joint : _ ≤ _ := between.length_le
      simp only [List.length_append]
      omega

theorem readPlain_eq (writes : WritesPlain indent chars written) (indented : 0 < indent)
    (inside : margin ≤ indent) (ends : EndsPlain margin rest) (entered : margin ≤ place.column + 1)
    (whole : place.rest = written ++ rest) :
    ∃ last, Leads place written last ∧ last.rest = rest ∧
      readPlain false margin place = (chars, (plainGap last).place, (plainGap last).broken) := by
  have length := writes.length_le
  have enough : chars.length ≤ place.rest.length + 1 := by
    rw [whole, List.length_append]
    omega
  exact plainFrom_eq writes indented inside ends enough [] false entered whole

theorem plainGap_colon (whole : place.rest = ':' :: rest) :
    plainGap place = ⟨[], place, false⟩ := by
  unfold plainGap
  rw [Place.span_eq_nil whole fun c head => by cases head; rfl]
  dsimp only
  rw [Place.peek_eq whole]
  rfl

/-- A colon and what separates it from the value end a plain key. -/
theorem endsPlain_colon (margin : Nat) (separated : separates rest.head? = true) :
    EndsPlain margin (':' :: rest) := by
  refine ⟨?_, fun place whole => ?_⟩
  · rw [plainRun, endsKey, separated]
    rfl
  · rw [plainGap_colon whole]
    rfl

/-- The end of a line ends a plain value, if the next line is not part of the value's block. -/
theorem endsPlain_newLine (starts : StartsToken rest) (outside : count < margin) :
    EndsPlain margin (newLine count ++ rest) := by
  refine ⟨rfl, fun place whole => ?_⟩
  obtain ⟨after, text, -, -, column, -, -, read⟩ := plainGap_newLine starts whole
  rw [read]
  dsimp only
  rw [column, decide_eq_true outside]
  simp

theorem of_holdsMark_append {gap : Bool} {front : List Char} {c : Char}
    (quiet : holdsMark gap (front ++ c :: rest) = false) :
    (c == ':' && separates rest.head?) = false ∧ holdsMark (isGap c || isBreak c) rest = false := by
  induction front generalizing gap with
  | nil =>
      rw [List.nil_append, holdsMark, Bool.or_eq_false_iff, Bool.or_eq_false_iff] at quiet
      exact ⟨quiet.1.1, quiet.2⟩
  | cons d front ih =>
      rw [List.cons_append, holdsMark, Bool.or_eq_false_iff] at quiet
      exact ih quiet.2

/-- A plain text from the start of a word on. -/
structure IsPhrase (chars : List Char) : Prop where
  basic : ∀ c ∈ chars, IsBasic c
  first : ∃ c ∈ chars.head?, c ≠ ' '
  last : chars.getLast? ≠ some ' '
  quiet : holdsMark true chars = false

theorem exists_spaces (chars : List Char) : ∃ count more,
    chars = List.replicate count ' ' ++ more ∧ more.head? ≠ some ' ' := by
  induction chars with
  | nil => exact ⟨0, [], rfl, nofun⟩
  | cons c chars ih =>
      by_cases space : c = ' '
      · obtain ⟨count, more, same, unspaced⟩ := ih
        exact ⟨count + 1, more, by rw [space, same]; rfl, unspaced⟩
      · exact ⟨0, c :: chars, rfl, fun head => space (Option.some.inj head)⟩

theorem exists_run (chars : List Char) : ∃ run more,
    chars = run ++ more ∧ (∀ c ∈ run, c ≠ ' ') ∧ ∀ c ∈ more.head?, c = ' ' := by
  induction chars with
  | nil => exact ⟨[], [], rfl, nofun, nofun⟩
  | cons c chars ih =>
      by_cases space : c = ' '
      · exact ⟨[], c :: chars, rfl, nofun, fun d head => (Option.some.inj head).symm.trans space⟩
      · obtain ⟨run, more, same, solid, ends⟩ := ih
        exact ⟨c :: run, more, by rw [same]; rfl, List.forall_mem_cons.mpr ⟨space, solid⟩, ends⟩

/-- A plain text is a word, with spaces and more words behind it or none. -/
theorem IsPhrase.exists_word (phrase : IsPhrase chars) :
    IsWord chars ∨ ∃ run count more, IsWord run ∧ IsPhrase more ∧
      chars = run ++ (List.replicate (count + 1) ' ' ++ more) := by
  obtain ⟨run, tail, same, solid, ends⟩ := exists_run chars
  obtain ⟨c, run, rfl⟩ : ∃ c more, run = c :: more := by
    refine List.exists_cons_of_ne_nil ?_
    rintro rfl
    obtain ⟨c, head, noSpace⟩ := phrase.first
    rw [same] at head
    exact noSpace (ends c head)
  have quiet := phrase.quiet
  have word : IsWord (c :: run) := by
    refine ⟨fun d member => ⟨phrase.basic d ?_, solid d member⟩, ⟨c, rfl, ?_⟩, fun colon => ?_⟩
    · rw [same]
      exact List.mem_append_left _ member
    · rintro rfl
      rw [same] at quiet
      simp [holdsMark] at quiet
    · obtain ⟨front, before⟩ := List.getLast?_eq_some_iff.mp colon
      rw [same, before, List.append_assoc] at quiet
      obtain ⟨noKey, -⟩ := of_holdsMark_append quiet
      change separates tail.head? = false at noKey
      cases tail with
      | nil => cases noKey
      | cons d tail =>
          rw [ends d rfl] at noKey
          cases noKey
  cases tail with
  | nil =>
      rw [List.append_nil] at same
      exact .inl (same ▸ word)
  | cons d tail =>
      obtain rfl := ends d rfl
      obtain ⟨count, more, rfl, unspaced⟩ := exists_spaces tail
      rw [← List.cons_append, ← List.replicate_succ] at same
      have apart : chars = (c :: run ++ List.replicate count ' ') ++ ' ' :: more := by
        rw [same, List.replicate_succ', List.append_assoc, List.append_assoc]
        rfl
      have filled : more ≠ [] := by
        rintro rfl
        refine phrase.last ?_
        rw [apart, List.getLast?_concat]
      obtain ⟨first, more, rfl⟩ := List.exists_cons_of_ne_nil filled
      refine .inr ⟨c :: run, count, first :: more, word, ⟨fun d member => ?_, ?_, ?_, ?_⟩, same⟩
      · refine phrase.basic d ?_
        rw [apart]
        exact List.mem_append_right _ (List.mem_cons_of_mem _ member)
      · exact ⟨first, rfl, fun space => unspaced (congrArg some space)⟩
      · intro space
        refine phrase.last ?_
        rw [same, List.getLast?_append, List.getLast?_append, space]
        rfl
      · rw [apart] at quiet
        exact (of_holdsMark_append quiet).2

variable {split : Bool}

theorem plainChars_solid {run : List Char} (solid : ∀ c ∈ run, c ≠ ' ') (column : Nat)
    (rest : List Char) :
    plainChars split indent false column (run ++ rest) =
      run ++ plainChars split indent false (column + run.length) rest := by
  induction run generalizing column with
  | nil => rfl
  | cons c run ih =>
      rw [List.forall_mem_cons] at solid
      have noSpace : (c == ' ') = false := beq_eq_false_iff_ne.mpr solid.1
      rw [List.cons_append, plainChars, noSpace, Bool.false_and, if_neg Bool.false_ne_true,
        ih solid.2, List.length_cons, Nat.add_right_comm, Nat.add_assoc]
      rfl

/-- It makes no difference to a word whether a space was written in front of it. -/
theorem plainChars_of_head (afterSpace : Bool) (column : Nat) (unspaced : chars.head? ≠ some ' ') :
    plainChars split indent afterSpace column chars =
      plainChars split indent false column chars := by
  cases chars with
  | nil => rfl
  | cons c chars =>
      have noSpace : (c == ' ') = false :=
        beq_eq_false_iff_ne.mpr fun same => unspaced (congrArg some same)
      rw [plainChars, plainChars, noSpace, Bool.false_and, Bool.false_and]

/-- Spaces behind a space are written as they are. -/
theorem plainChars_replicate (column count : Nat) (rest : List Char) :
    plainChars split indent true column (List.replicate count ' ' ++ rest) =
      List.replicate count ' ' ++ plainChars split indent true (column + count) rest := by
  induction count generalizing column with
  | zero => rfl
  | succ count ih =>
      rw [List.replicate_succ, List.cons_append, plainChars, mayFold, Bool.not_true, Bool.and_false,
        Bool.false_and, Bool.false_and, Bool.and_false, if_neg Bool.false_ne_true]
      change ' ' :: plainChars split indent true (column + 1) _ = _
      rw [ih, Nat.add_right_comm, Nat.add_assoc]
      rfl

/-- The spaces in front of a word are written as a gap. -/
theorem exists_plainChars_gap (column count : Nat) (unspaced : rest.head? ≠ some ' ') :
    ∃ joint column', WritesGap indent (List.replicate (count + 1) ' ') joint ∧
      plainChars split indent false column (List.replicate (count + 1) ' ' ++ rest) =
        joint ++ plainChars split indent false column' rest := by
  rw [List.replicate_succ, List.cons_append, plainChars]
  by_cases folds : mayFold split false column (List.replicate count ' ' ++ rest).head?
  · rw [folds, Bool.and_true, if_pos (by decide)]
    cases count with
    | zero =>
        refine ⟨newLine indent, indent, .fold, ?_⟩
        rw [List.replicate_zero, List.nil_append, plainChars_of_head true indent unspaced]
    | succ count =>
        -- Only a single space is turned into a line end.
        rw [List.replicate_succ, List.cons_append] at folds
        simp [mayFold] at folds
  · rw [Bool.not_eq_true] at folds
    rw [folds, Bool.and_false, if_neg Bool.false_ne_true]
    refine ⟨List.replicate (count + 1) ' ', column + 1 + count, .spaces count, ?_⟩
    change ' ' :: plainChars split indent true (column + 1) _ = _
    rw [plainChars_replicate, plainChars_of_head true _ unspaced]
    rfl

/-- A plain text is written word by word. -/
theorem writesPlain_plainChars (phrase : IsPhrase chars) (column : Nat) :
    WritesPlain indent chars (plainChars split indent false column chars) := by
  induction length : chars.length using Nat.strongRecOn generalizing chars column with
  | _ length ih =>
      subst length
      rcases phrase.exists_word with word | ⟨run, count, more, word, later, rfl⟩
      · have whole := @plainChars_solid indent split chars
          (fun c member => (word.basic c member).2) column []
        rw [List.append_nil, plainChars, List.append_nil] at whole
        rw [whole]
        exact .last word
      · obtain ⟨c, head, noSpace⟩ := later.first
        obtain ⟨joint, column', between, same⟩ :=
          @exists_plainChars_gap indent more split (column + run.length) count fun space =>
            noSpace (Option.some.inj (head.symm.trans space))
        rw [plainChars_solid fun c member => (word.basic c member).2, same]
        refine .word word between (ih more.length ?_ later column' rfl)
        simp only [List.length_append, List.length_replicate]
        omega

theorem plainChars_unsplit (afterSpace : Bool) (column : Nat) (chars : List Char) :
    plainChars false indent afterSpace column chars = chars := by
  induction chars generalizing afterSpace column with
  | nil => rfl
  | cons c chars ih =>
      rw [plainChars, mayFold, Bool.false_and, Bool.false_and, Bool.false_and, Bool.and_false,
        if_neg Bool.false_ne_true, ih]

/-- A text that may stand without quotes. -/
structure IsPlainText (chars : List Char) : Prop extends IsPhrase chars where
  unmarked : startsMarked chars = false

/-- What may be written plainly is a plain text. -/
theorem isPlainText_of_allowsPlain (basic : ∀ c ∈ chars, IsBasic c)
    (allowed : allowsPlain chars = true) : IsPlainText chars := by
  simp only [allowsPlain, Bool.and_eq_true, Bool.not_eq_true'] at allowed
  obtain ⟨⟨⟨⟨⟨⟨tagged, first⟩, last⟩, -⟩, -⟩, unmarked⟩, quiet⟩ := allowed
  cases chars with
  | nil => exact absurd tagged (by decide)
  | cons c chars =>
      have noEdge : isEdge c = false := first
      refine ⟨⟨basic, ⟨c, rfl, ?_⟩, ?_, ?_⟩, unmarked⟩
      · rintro rfl
        cases noEdge
      · intro space
        rw [space] at last
        cases last
      · have noComment : c ≠ '#' := by
          rintro rfl
          cases unmarked
        have noKey : (c == ':' && separates chars.head?) = false := by
          refine Bool.eq_false_iff.mpr fun key => ?_
          rw [Bool.and_eq_true, beq_iff_eq] at key
          simp [startsMarked, key.1, key.2] at unmarked
        rw [holdsMark, noKey, beq_eq_false_iff_ne.mpr noComment]
        exact quiet

/-! Texts in single quotes -/

/-- The inside of single quotes. -/
inductive WritesQuoted (indent : Nat) : (chars written : List Char) → Prop where
  | nil : WritesQuoted indent [] []
  | char {c : Char} {chars written : List Char} (basic : IsBasic c) (noSpace : c ≠ ' ')
      (noQuote : c ≠ '\'') (later : WritesQuoted indent chars written) :
      WritesQuoted indent (c :: chars) (c :: written)
  | quote {chars written : List Char} (later : WritesQuoted indent chars written) :
      WritesQuoted indent ('\'' :: chars) ('\'' :: '\'' :: written)
  | gap {gap joint chars written : List Char} (between : WritesGap indent gap joint)
      (unspaced : chars.head? ≠ some ' ') (later : WritesQuoted indent chars written) :
      WritesQuoted indent (gap ++ chars) (joint ++ written)

theorem WritesQuoted.length_le (writes : WritesQuoted indent chars written) :
    chars.length ≤ written.length := by
  induction writes with
  | nil => exact Nat.le_refl _
  | char basic noSpace noQuote later ih => exact Nat.succ_le_succ ih
  | quote later ih => exact Nat.le_succ_of_le (Nat.succ_le_succ ih)
  | gap between unspaced later ih =>
      have joint : _ ≤ _ := between.length_le
      simp only [List.length_append]
      omega

theorem isBasic_quote : IsBasic '\'' := by decide

/-- Behind a gap stands no space. -/
theorem WritesQuoted.exists_cons (writes : WritesQuoted indent chars written)
    (unspaced : chars.head? ≠ some ' ') (rest : List Char) :
    ∃ c more, written ++ '\'' :: rest = c :: more ∧ IsBasic c ∧ c ≠ ' ' := by
  cases writes with
  | nil => exact ⟨'\'', rest, rfl, isBasic_quote, by decide⟩
  | char basic noSpace noQuote later => exact ⟨_, _, rfl, basic, noSpace⟩
  | quote later => exact ⟨'\'', _, rfl, isBasic_quote, by decide⟩
  | gap between _ later =>
      cases between with
      | spaces count => exact absurd rfl unspaced
      | fold => exact absurd rfl unspaced

/-- What was written for spaces is read as the spaces. -/
theorem quotedGap_eq (writes : WritesGap indent gap joint) (indented : 0 < indent) {c : Char}
    (basic : IsBasic c) (noSpace : c ≠ ' ') (whole : place.rest = joint ++ c :: rest) :
    ∃ after, Leads place joint after ∧ after.rest = c :: rest ∧
      quotedGap place = some (gap, after) := by
  have noGap : ∀ d ∈ (c :: rest).head?, isGap d = false := by
    intro d head
    cases head
    rw [basic.isGap_eq]
    exact beq_eq_false_iff_ne.mpr noSpace
  have gaps {count : Nat} : ∀ d ∈ List.replicate count ' ', isGap d = true := by
    intro d member
    rw [List.eq_of_mem_replicate member]
    rfl
  cases writes with
  | spaces count =>
      obtain ⟨after, leads, same, spaces⟩ :=
        Place.span_eq (fun _ => isBasic_of_mem_replicate) whole gaps noGap
      refine ⟨after, leads, same, ?_⟩
      unfold quotedGap
      rw [spaces]
      dsimp only
      rw [Place.peek_eq same]
      dsimp only
      rw [basic.isBreak_eq_false, if_neg Bool.false_ne_true]
  | fold =>
      let next : Place :=
        ⟨place.line + 1, 0, place.offset + 1, List.replicate indent ' ' ++ c :: rest⟩
      have ended : place.lineBreak = (['\n'], next) := Place.lineBreak_eq whole
      have first : Leads place ['\n'] next :=
        ⟨whole, Nat.le_succ _, fun oneLine => by simp at oneLine⟩
      obtain ⟨after, leads, same, spaces⟩ :=
        @Place.span_eq next _ _ _ (fun _ => isBasic_of_mem_replicate) rfl gaps noGap
      have unmarked : next.atMarker = false := Place.atMarker_of_indented indented rfl
      have read : quotedBreaks (next.rest.length + 1) next = some ([], after) := by
        rw [quotedBreaks, unmarked, if_neg Bool.false_ne_true, Place.skipWhile, spaces]
        dsimp only
        rw [Place.peek_eq same, Option.any_some, basic.isBreak_eq_false,
          if_neg Bool.false_ne_true]
      refine ⟨after, first.trans leads, same, ?_⟩
      unfold quotedGap
      rw [Place.span_eq_nil whole fun d head => by cases head; rfl]
      dsimp only
      rw [Place.peek_eq whole]
      dsimp only
      rw [if_pos (by decide), ended]
      dsimp only
      rw [read]
      rfl

/-- A quoted text is read up to the quote that closes it. -/
theorem quotedFrom_eq (writes : WritesQuoted indent chars written) (indented : 0 < indent)
    (closes : rest.head? ≠ some '\'') {fuel : Nat} (enough : chars.length < fuel)
    (whole : place.rest = written ++ '\'' :: rest) :
    ∃ after, Leads place (written ++ ['\'']) after ∧ after.rest = rest ∧
      quotedFrom false fuel place = some (chars, after) := by
  obtain ⟨fuel, rfl⟩ : ∃ less, fuel = less + 1 := Nat.exists_eq_succ_of_ne_zero (by omega)
  induction writes generalizing place fuel with
  | nil =>
      obtain ⟨leads, same⟩ := Place.leads_next isBasic_quote whole
      refine ⟨_, leads, same, ?_⟩
      rw [quotedFrom, whole]
      simp [closes]
  | @char c chars written basic noSpace noQuote later ih =>
      obtain ⟨leads, same⟩ := Place.leads_next basic whole
      rw [List.length_cons] at enough
      obtain ⟨fuel, rfl⟩ : ∃ less, fuel = less + 1 := Nat.exists_eq_succ_of_ne_zero (by omega)
      obtain ⟨after, leads', same', read⟩ := ih same fuel (by omega)
      refine ⟨after, leads.trans leads', same', ?_⟩
      rw [quotedFrom, whole]
      simp [noQuote, noSpace, basic.isGap_eq, basic.isBreak_eq_false, read]
  | @quote chars written later ih =>
      obtain ⟨leads, same⟩ := Place.leads_next isBasic_quote whole
      obtain ⟨leads', same'⟩ := Place.leads_next isBasic_quote same
      rw [List.length_cons] at enough
      obtain ⟨fuel, rfl⟩ : ∃ less, fuel = less + 1 := Nat.exists_eq_succ_of_ne_zero (by omega)
      obtain ⟨after, leads'', same'', read⟩ := ih same' fuel (by omega)
      refine ⟨after, leads.trans (leads'.trans leads''), same'', ?_⟩
      rw [quotedFrom, whole]
      simp [Place.skip, read]
  | @gap gap joint chars written between unspaced later ih =>
      obtain ⟨c, more, begins, basic, noSpace⟩ := later.exists_cons unspaced rest
      obtain ⟨filled, d, tail, joined, gapped⟩ := between.exists_cons
      have whole' := whole
      rw [List.append_assoc, begins] at whole'
      obtain ⟨middle, leads, same, read⟩ := quotedGap_eq between indented basic noSpace whole'
      have nonempty : 0 < gap.length :=
        List.length_pos_iff.mpr (List.isEmpty_eq_false_iff.mp filled)
      rw [List.length_append] at enough
      obtain ⟨fuel, rfl⟩ : ∃ less, fuel = less + 1 := Nat.exists_eq_succ_of_ne_zero (by omega)
      obtain ⟨after, leads', same', read'⟩ := ih (same.trans begins.symm) fuel (by omega)
      have noQuote : d ≠ '\'' := by
        rintro rfl
        cases gapped
      refine ⟨after, ?_, same', ?_⟩
      · rw [List.append_assoc]
        exact leads.trans leads'
      · rw [joined, List.cons_append] at whole'
        rw [quotedFrom, whole']
        simp only [Bool.not_false, Bool.true_and, Bool.false_and, if_neg Bool.false_ne_true,
          beq_eq_false_iff_ne.mpr noQuote, if_pos gapped, read]
        change (quotedFrom false (fuel + 1) middle).map _ = _
        rw [read']
        rfl

theorem readQuoted_eq (writes : WritesQuoted indent chars written) (indented : 0 < indent)
    (closes : rest.head? ≠ some '\'') (whole : place.rest = '\'' :: written ++ '\'' :: rest) :
    ∃ after, Leads place ('\'' :: written ++ ['\'']) after ∧ after.rest = rest ∧
      readQuoted false place = some (chars, after) := by
  have length := writes.length_le
  obtain ⟨leads, same⟩ := Place.leads_next isBasic_quote whole
  have enough : chars.length < place.rest.length + 1 := by
    rw [whole, List.length_append, List.length_cons]
    omega
  obtain ⟨after, leads', same', read⟩ := quotedFrom_eq writes indented closes enough same
  exact ⟨after, leads.trans leads', same', read⟩

/-! How a quoted text is written -/

/-- It makes no difference to what is no space whether a space was written in front of it. -/
theorem singleChars_of_head (last last' : Option Char) (column : Nat)
    (basic : ∀ c ∈ chars, IsBasic c) (unspaced : chars.head? ≠ some ' ') :
    singleChars split indent last column chars = singleChars split indent last' column chars := by
  cases chars with
  | nil => rfl
  | cons c chars =>
      rw [List.forall_mem_cons] at basic
      have noSpace : (c == ' ') = false :=
        beq_eq_false_iff_ne.mpr fun same => unspaced (congrArg some same)
      have noBreak : (c == '\n') = false := beq_eq_false_iff_ne.mpr (basic.1.ne (by decide))
      rw [singleChars, singleChars, noSpace, noBreak]
      simp only [Bool.false_and, if_neg Bool.false_ne_true]

/-- Spaces behind a space are written as they are. -/
theorem singleChars_replicate (column count : Nat) (rest : List Char) :
    singleChars split indent (some ' ') column (List.replicate count ' ' ++ rest) =
      List.replicate count ' ' ++ singleChars split indent (some ' ') (column + count) rest := by
  induction count generalizing column with
  | zero => rfl
  | succ count ih =>
      rw [List.replicate_succ, List.cons_append, singleChars]
      simp only [mayFold, beq_self_eq_true, Bool.not_true, Bool.and_false, Bool.false_and,
        if_neg Bool.false_ne_true]
      change ' ' :: singleChars split indent (some ' ') (column + 1) _ = _
      rw [ih, Nat.add_right_comm, Nat.add_assoc]
      rfl

/-- Spaces are written as a gap. -/
theorem exists_singleChars_gap (last : Option Char) (column count : Nat)
    (basic : ∀ c ∈ rest, IsBasic c) (unspaced : rest.head? ≠ some ' ') :
    ∃ joint column', WritesGap indent (List.replicate (count + 1) ' ') joint ∧
      singleChars split indent last column (List.replicate (count + 1) ' ' ++ rest) =
        joint ++ singleChars split indent none column' rest := by
  rw [List.replicate_succ, List.cons_append, singleChars, if_neg (by decide),
    if_neg (by decide), beq_self_eq_true, Bool.true_and]
  by_cases folds : (last.isSome && mayFold split (last == some ' ') column
      (List.replicate count ' ' ++ rest).head?) = true
  · rw [if_pos folds]
    cases count with
    | zero =>
        refine ⟨newLine indent, indent, .fold, ?_⟩
        rw [List.replicate_zero, List.nil_append,
          singleChars_of_head (some ' ') none indent basic unspaced]
    | succ count =>
        -- Only a single space is turned into a line end.
        rw [List.replicate_succ, List.cons_append] at folds
        simp [mayFold] at folds
  · rw [if_neg folds]
    refine ⟨List.replicate (count + 1) ' ', column + 1 + count, .spaces count, ?_⟩
    rw [singleChars_replicate, singleChars_of_head (some ' ') none _ basic unspaced]
    rfl

/-- A quoted text is written character by character, and gap by gap. -/
theorem writesQuoted_singleChars (basic : ∀ c ∈ chars, IsBasic c) (last : Option Char)
    (column : Nat) : WritesQuoted indent chars (singleChars split indent last column chars) := by
  induction length : chars.length using Nat.strongRecOn generalizing chars last column with
  | _ length ih =>
      subst length
      obtain ⟨count, more, rfl, unspaced⟩ := exists_spaces chars
      cases count with
      | zero =>
          rw [List.replicate_zero, List.nil_append] at basic ih ⊢
          cases more with
          | nil => exact .nil
          | cons c more =>
              rw [List.forall_mem_cons] at basic
              have noSpace : c ≠ ' ' := fun space => unspaced (congrArg some space)
              have later := ih more.length (Nat.lt_succ_self _) basic.2
              rw [singleChars, if_neg (by simpa using basic.1.ne (by decide))]
              by_cases quote : c = '\''
              · subst quote
                exact .quote (later _ _ rfl)
              · simp only [beq_eq_false_iff_ne.mpr quote, beq_eq_false_iff_ne.mpr noSpace,
                  Bool.false_and, if_neg Bool.false_ne_true]
                exact .char basic.1 noSpace quote (later _ _ rfl)
      | succ count =>
          have later : ∀ c ∈ more, IsBasic c :=
            fun c member => basic c (List.mem_append_right _ member)
          obtain ⟨joint, column', between, same⟩ :=
            @exists_singleChars_gap indent more split last column count later unspaced
          rw [same]
          refine .gap between unspaced (ih more.length ?_ later none column' rfl)
          rw [List.length_append, List.length_replicate]
          omega

/-- A text that is not split is written in one line, with its quotes doubled. -/
theorem singleChars_unsplit (basic : ∀ c ∈ chars, IsBasic c) (last : Option Char) (column : Nat) :
    (∀ c ∈ singleChars false indent last column chars, IsBasic c) ∧
      (singleChars false indent last column chars).length ≤ 2 * chars.length := by
  induction chars generalizing last column with
  | nil => exact ⟨nofun, Nat.le_refl _⟩
  | cons c chars ih =>
      rw [List.forall_mem_cons] at basic
      rw [singleChars, if_neg (by simpa using basic.1.ne (by decide))]
      split
      · obtain ⟨later, length⟩ := ih basic.2 (some c) (column + 2)
        refine ⟨?_, ?_⟩
        · rw [List.forall_mem_cons, List.forall_mem_cons]
          exact ⟨isBasic_quote, isBasic_quote, later⟩
        · simp only [List.length_cons]
          omega
      · obtain ⟨later, length⟩ := ih basic.2 (some c) (column + 1)
        simp only [mayFold, Bool.false_and, Bool.and_false, if_neg Bool.false_ne_true]
        refine ⟨List.forall_mem_cons.mpr ⟨basic.1, later⟩, ?_⟩
        simp only [List.length_cons]
        omega

/-- The indentation makes no difference to what is written in one line. -/
theorem singleChars_unsplit_indent (basic : ∀ c ∈ chars, IsBasic c) (indent other : Nat)
    (last : Option Char) (column : Nat) :
    singleChars false indent last column chars = singleChars false other last column chars := by
  induction chars generalizing last column with
  | nil => rfl
  | cons c chars ih =>
      rw [List.forall_mem_cons] at basic
      have noBreak : (c == '\n') = false := beq_eq_false_iff_ne.mpr (basic.1.ne (by decide))
      rw [singleChars, singleChars, noBreak]
      simp only [mayFold, Bool.false_and, Bool.and_false, if_neg Bool.false_ne_true]
      rw [ih basic.2, ih basic.2]

end PlainScript.Yaml
