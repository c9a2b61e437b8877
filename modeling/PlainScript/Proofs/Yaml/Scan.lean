/-
The scan of a written text, token by token. Between two tokens the scan passes over spaces and line
ends; it stands at the start of a token with no key pending, and ends the blocks that begin further
to the right.
-/

import PlainScript.Proofs.Yaml.Scalar

namespace PlainScript.Yaml.Scan

variable {scan ready after : Scan} {place : Place} {tokens all : List Token} {margin : Nat}
  {margins : List Nat} {keyAllowed : Bool} {key : Option Key} {rest : List Char}
  {column count : Nat}

/-! Steps -/

/-- The scan at the next token. -/
def settle (scan : Scan) : Option Scan :=
  (scan.skipGap (scan.place.rest.length + 1)).dropStaleKeys

theorem finish_succ (fuel : Nat) (scan : Scan) : scan.finish (fuel + 1) =
    scan.settle.bind fun scan =>
      let scan := scan.unwind (scan.place.column + 1)
      match scan.place.peek with
      | some c => (scan.token c).bind (finish fuel)
      | none => (scan.unwind 0).dropKey.map fun scan => scan.tokens.reverse := rfl

/-- More fuel does no harm. -/
theorem finish_mono {fuel more : Nat} (ended : scan.finish fuel = some all) (enough : fuel ≤ more) :
    scan.finish more = some all := by
  induction fuel generalizing scan more with
  | zero => cases ended
  | succ fuel ih =>
      obtain ⟨more, rfl⟩ := Nat.exists_eq_succ_of_ne_zero (n := more) (by omega)
      rw [finish_succ, Option.bind_eq_some_iff] at ended
      obtain ⟨ready, settled, ended⟩ := ended
      rw [finish_succ, settled, Option.bind_some]
      dsimp only at ended ⊢
      split at ended
      · rename_i c here
        obtain ⟨after, read, ended⟩ := Option.bind_eq_some_iff.mp ended
        rw [read, Option.bind_some]
        exact ih ended (by omega)
      · exact ended

/-- The tokens of the whole text are those. -/
def Yields (scan : Scan) (all : List Token) : Prop :=
  scan.finish (scan.place.rest.length + 1) = some all

theorem yields_of_settle (settles : scan.settle = some ready) (settled : ready.settle = some ready)
    (less : ready.place.rest.length ≤ scan.place.rest.length) (later : ready.Yields all) :
    scan.Yields all := by
  rw [Yields, finish_succ, settled] at later
  have ended : scan.finish (ready.place.rest.length + 1) = some all := by
    rw [finish_succ, settles]
    exact later
  exact finish_mono ended (Nat.succ_le_succ less)

theorem yields_of_token {c : Char} (settled : scan.settle = some scan)
    (inside : scan.unwind (scan.place.column + 1) = scan) (here : scan.place.peek = some c)
    (read : scan.token c = some after)
    (less : after.place.rest.length < scan.place.rest.length) (later : after.Yields all) :
    scan.Yields all := by
  have ended : scan.finish (after.place.rest.length + 1 + 1) = some all := by
    rw [finish_succ, settled, Option.bind_some]
    dsimp only
    rw [inside, here]
    dsimp only
    rw [read]
    exact later
  exact finish_mono ended (Nat.succ_le_succ less)

/-! Between tokens -/

/-- A key that may be given up. -/
def IsOptional (line : Nat) (key : Option Key) : Prop :=
  ∀ noted ∈ key, noted.required = false ∧ noted.place.line ≤ line

theorem isOptional_none (line : Nat) : IsOptional line none := nofun

theorem skipGap_succ (fuel : Nat) (scan : Scan) : skipGap (fuel + 1) scan =
    if scan.place.skipComment.peek.any isBreak then
      skipGap fuel
        { scan with
          place := scan.place.skipComment.lineBreak.2
          keyAllowed := scan.keyAllowed || !scan.inFlow }
    else { scan with place := scan.place.skipComment } := rfl

/-- Spaces in front of a token are passed over. -/
theorem skipGap_replicate {outerKeys : List (Option Key)} (starts : StartsToken rest)
    (whole : place.rest = List.replicate count ' ' ++ rest) (fuel : Nat) :
    ∃ next, Leads place (List.replicate count ' ') next ∧ next.rest = rest ∧
      skipGap (fuel + 1) ⟨place, tokens, margin, margins, keyAllowed, key, outerKeys⟩ =
        ⟨next, tokens, margin, margins, keyAllowed, key, outerKeys⟩ := by
  obtain ⟨leads, same⟩ := Place.skipComment_eq starts.noSpace starts.noComment whole
  refine ⟨_, leads, same, ?_⟩
  rw [skipGap_succ]
  dsimp only
  rw [Place.peek, same, starts.noBreak, if_neg Bool.false_ne_true]

theorem dropStaleKey_of_fresh (fresh : ∀ noted ∈ key, isStale place noted = false) :
    dropStaleKey place key = some key := by
  cases key with
  | none => rfl
  | some noted =>
      rw [dropStaleKey, fresh noted rfl]
      rfl

theorem dropStaleKeys_of_fresh (fresh : ∀ noted ∈ key, isStale place noted = false) :
    dropStaleKeys ⟨place, tokens, margin, margins, keyAllowed, key, []⟩ =
      some ⟨place, tokens, margin, margins, keyAllowed, key, []⟩ := by
  unfold dropStaleKeys
  dsimp only
  rw [dropStaleKey_of_fresh fresh]
  rfl

theorem dropStaleKeys_of_isOptional {line : Nat} (optional : IsOptional line key)
    (later : line < place.line) :
    dropStaleKeys ⟨place, tokens, margin, margins, keyAllowed, key, []⟩ =
      some ⟨place, tokens, margin, margins, keyAllowed, none, []⟩ := by
  cases key with
  | none => rfl
  | some noted =>
      obtain ⟨free, before⟩ := optional noted rfl
      have stale : isStale place noted = true := by
        have other : (noted.place.line != place.line) = true := bne_iff_ne.mpr (by omega)
        rw [isStale, other, Bool.true_or]
      have dropped : dropStaleKey place (some noted) = some none := by
        rw [dropStaleKey, stale, free]
        rfl
      unfold dropStaleKeys
      dsimp only
      rw [dropped]
      rfl

/-- At a token nothing is passed over. -/
theorem settle_eq_self (starts : StartsToken place.rest)
    (fresh : ∀ noted ∈ key, isStale place noted = false) :
    settle ⟨place, tokens, margin, margins, keyAllowed, key, []⟩ =
      some ⟨place, tokens, margin, margins, keyAllowed, key, []⟩ := by
  obtain ⟨next, leads, -, skips⟩ := @skipGap_replicate place tokens margin margins keyAllowed key
    place.rest 0 [] starts rfl place.rest.length
  rw [leads.eq_self] at skips
  rw [settle, skips, dropStaleKeys_of_fresh fresh]

theorem settle_eq_self_of_none (starts : StartsToken place.rest) :
    settle ⟨place, tokens, margin, margins, keyAllowed, none, []⟩ =
      some ⟨place, tokens, margin, margins, keyAllowed, none, []⟩ :=
  settle_eq_self starts fun _ noted => by cases noted

/-- A space behind a mark is passed over. -/
theorem settle_space (starts : StartsToken rest) (whole : place.rest = ' ' :: rest) :
    ∃ next, Leads place [' '] next ∧ next.rest = rest ∧
      settle ⟨place, tokens, margin, margins, keyAllowed, none, []⟩ =
        some ⟨next, tokens, margin, margins, keyAllowed, none, []⟩ := by
  obtain ⟨next, leads, same, skips⟩ := @skipGap_replicate place tokens margin margins keyAllowed
    none rest 1 [] starts whole place.rest.length
  refine ⟨next, leads, same, ?_⟩
  rw [settle, skips]
  rfl

/-- A line end leads to the first token of the next line. -/
theorem settle_newLine (starts : StartsToken rest) (whole : place.rest = newLine count ++ rest)
    (optional : IsOptional place.line key) :
    ∃ next : Place, next.column = count ∧ next.rest = rest ∧
      settle ⟨place, tokens, margin, margins, keyAllowed, key, []⟩ =
        some ⟨next, tokens, margin, margins, true, none, []⟩ := by
  have begins : place.rest = '\n' :: (List.replicate count ' ' ++ rest) := whole
  have unmoved : place.skipComment = place := by
    refine (@Place.skipComment_eq place place.rest 0 ?_ ?_ rfl).1.eq_self
    · rw [begins]
      intro c head
      cases head
      rfl
    · rw [begins]
      nofun
  have breaks : place.peek.any isBreak = true := by
    rw [Place.peek, begins]
    rfl
  have ended := Place.lineBreak_eq begins
  obtain ⟨next, leads, same, skips⟩ :=
    @skipGap_replicate ⟨place.line + 1, 0, place.offset + 1, List.replicate count ' ' ++ rest⟩
      tokens margin margins true key rest count [] starts rfl (count + rest.length)
  obtain ⟨line, column, -⟩ := leads.column (by simp)
  refine ⟨next, ?_, same, ?_⟩
  · rw [column, List.length_replicate]
    exact Nat.zero_add _
  · have fuel : place.rest.length = count + rest.length + 1 := by
      rw [begins, List.length_cons, List.length_append, List.length_replicate]
    rw [settle, skipGap_succ]
    dsimp only
    rw [unmoved, breaks, if_pos rfl, ended, fuel]
    change (skipGap _ ⟨_, tokens, margin, margins, keyAllowed || true, key, []⟩).dropStaleKeys = _
    have below : place.line < next.line := line ▸ Nat.lt_succ_self place.line
    rw [Bool.or_true, skips, dropStaleKeys_of_isOptional optional below]

/-! Blocks -/

/-- At the next token of a column, wherever its line is, the tokens of the whole text are those. -/
def YieldsAt (column : Nat) (rest : List Char) (tokens : List Token) (margin : Nat)
    (margins : List Nat) (keyAllowed : Bool) (all : List Token) : Prop :=
  ∀ place : Place, place.column = column → place.rest = rest →
    Yields ⟨place, tokens, margin, margins, keyAllowed, none, []⟩ all

theorem unwind_eq_self {target : Nat} (inside : margin ≤ target) :
    unwind ⟨place, tokens, margin, margins, keyAllowed, key, []⟩ target =
      ⟨place, tokens, margin, margins, keyAllowed, key, []⟩ := by
  cases margins with
  | nil => rfl
  | cons outer margins =>
      change closeBlocks target (outer :: margins) _ = _
      rw [closeBlocks, if_neg (Nat.not_lt.mpr inside)]

/-- A block ends in front of a token to its left. -/
theorem YieldsAt.blockEnd {outer : Nat} (starts : StartsToken rest) (ended : column + 1 < margin)
    (later : YieldsAt column rest (.blockEnd :: tokens) outer margins keyAllowed all) :
    YieldsAt column rest tokens margin (outer :: margins) keyAllowed all := by
  intro place here same
  have found := later place here same
  rw [← same] at starts
  rw [Yields, finish_succ, settle_eq_self_of_none starts] at found ⊢
  have unwound : unwind ⟨place, tokens, margin, outer :: margins, keyAllowed, none, []⟩
      (place.column + 1) =
        unwind ⟨place, .blockEnd :: tokens, outer, margins, keyAllowed, none, []⟩
          (place.column + 1) := by
    change closeBlocks _ (outer :: margins) _ = closeBlocks _ margins _
    rw [closeBlocks, if_pos (by rw [here]; exact ended)]
  rw [Option.bind_some] at found ⊢
  dsimp only at found ⊢
  rw [unwound]
  exact found

/-- The end of the text ends the outermost block. -/
theorem yieldsAt_end (tokens : List Token) (keyAllowed : Bool) :
    YieldsAt 0 [] tokens 1 [0] keyAllowed (tokens.reverse ++ [.blockEnd]) := by
  intro place here same
  have inside : unwind ⟨place, tokens, 1, [0], keyAllowed, none, []⟩ (place.column + 1) =
      ⟨place, tokens, 1, [0], keyAllowed, none, []⟩ := unwind_eq_self (Nat.le_add_left 1 _)
  have ended : place.peek = none := by
    rw [Place.peek, same]
    rfl
  rw [Yields, finish_succ, settle_eq_self_of_none (by rw [same]; exact startsToken_nil),
    Option.bind_some]
  dsimp only
  rw [inside]
  dsimp only
  rw [ended]
  exact congrArg some List.reverse_cons

/-- A block of a column is open already, or else its token opens it. -/
inductive Opens (column : Nat) (block : Token) (tokens : List Token) (margin : Nat)
    (margins : List Nat) : (opened : List Token) → (outer : List Nat) → Prop where
  | already (inside : margin = column + 1) : Opens column block tokens margin margins tokens margins
  | newly (left : margin ≤ column) :
      Opens column block tokens margin margins (block :: tokens) (margin :: margins)

variable {block token : Token} {opened : List Token} {outer : List Nat}

theorem Opens.margin_le (opens : Opens column block tokens margin margins opened outer) :
    margin ≤ column + 1 := by
  cases opens with
  | already inside => omega
  | newly left => omega

/-- A token is put in front of the later ones. -/
theorem insertAt_eq (front : List Token) {outerKeys : List (Option Key)} (token : Token) :
    insertAt ⟨place, front ++ tokens, margin, margins, keyAllowed, key, outerKeys⟩ tokens.length
      token = ⟨place, front ++ token :: tokens, margin, margins, keyAllowed, key, outerKeys⟩ := by
  unfold insertAt
  dsimp only
  rw [List.length_append, Nat.add_sub_cancel, List.take_left, List.drop_left]

/-- The token of a block is put in front of what the block begins with. -/
theorem openBlock_eq (front : List Token)
    (opens : Opens column block tokens margin margins opened outer) :
    openBlock ⟨place, front ++ tokens, margin, margins, keyAllowed, key, []⟩ column tokens.length
      block = ⟨place, front ++ opened, column + 1, outer, keyAllowed, key, []⟩ := by
  unfold openBlock
  cases opens with
  | already inside =>
      have shut : ¬ margin ≤ column := by omega
      dsimp only
      rw [decide_eq_false shut, Bool.and_false, if_neg Bool.false_ne_true, inside]
  | newly left =>
      dsimp only
      rw [decide_eq_true left, insertAt_eq]
      rfl

/-- Marks open their block and stand behind its token. -/
theorem mark_eq (opens : Opens place.column block tokens margin margins opened outer)
    (token : Token) (allowed : Bool) :
    mark ⟨place, tokens, margin, margins, true, none, []⟩ block token allowed =
      some ⟨place.next, token :: opened, place.column + 1, outer, allowed, none, []⟩ := by
  have block := @openBlock_eq place tokens margin margins true none place.column block opened outer
    [] opens
  rw [List.nil_append, List.nil_append] at block
  unfold mark
  dsimp only
  rw [block]
  rfl

/-! Marks -/

/-- What follows a token of one character is scanned from there on. -/
theorem YieldsAt.step {c : Char} {allowed : Bool} {opened : List Token} {inner : Nat}
    (basic : IsBasic c) (noSpace : c ≠ ' ') (noComment : c ≠ '#') (inside : margin ≤ column + 1)
    (read : ∀ place : Place, place.column = column → place.rest = c :: rest →
      Scan.token ⟨place, tokens, margin, margins, keyAllowed, none, []⟩ c =
        some ⟨place.next, opened, inner, outer, allowed, none, []⟩)
    (later : YieldsAt (column + 1) rest opened inner outer allowed all) :
    YieldsAt column (c :: rest) tokens margin margins keyAllowed all := by
  intro place here same
  obtain ⟨leads, behind⟩ := Place.leads_next basic same
  obtain ⟨-, next, -⟩ := leads.column (lineFeed_notMem (by simpa using basic))
  have starts : StartsToken place.rest := by
    rw [same]
    exact startsToken_cons basic noSpace noComment rest
  refine yields_of_token (settle_eq_self_of_none starts)
    (unwind_eq_self (by rw [here]; exact inside)) (Place.peek_eq same) (read place here same) ?_
    (later place.next ?_ behind)
  · change place.next.rest.length < place.rest.length
    rw [behind, same]
    exact Nat.lt_succ_self _
  · rw [next, here]
    rfl

theorem YieldsAt.space (starts : StartsToken rest)
    (later : YieldsAt (column + 1) rest tokens margin margins keyAllowed all) :
    YieldsAt column (' ' :: rest) tokens margin margins keyAllowed all := by
  intro place here same
  obtain ⟨next, leads, behind, settles⟩ := @settle_space place tokens margin margins keyAllowed
    rest starts same
  obtain ⟨-, column, -⟩ := leads.column (by decide)
  refine yields_of_settle settles (settle_eq_self_of_none (by rw [behind]; exact starts)) ?_
    (later next (by rw [column, here]; rfl) behind)
  change next.rest.length ≤ place.rest.length
  rw [behind, same]
  exact Nat.le_succ _

theorem yields_newLine (starts : StartsToken rest) (whole : place.rest = newLine count ++ rest)
    (optional : IsOptional place.line key)
    (later : YieldsAt count rest tokens margin margins true all) :
    Yields ⟨place, tokens, margin, margins, keyAllowed, key, []⟩ all := by
  obtain ⟨next, column, behind, settles⟩ := @settle_newLine place tokens margin margins keyAllowed
    key rest count starts whole optional
  refine yields_of_settle settles (settle_eq_self_of_none (by rw [behind]; exact starts)) ?_
    (later next column behind)
  change next.rest.length ≤ place.rest.length
  rw [behind, whole, List.length_append]
  exact Nat.le_add_left _ _

theorem YieldsAt.newLine (starts : StartsToken rest)
    (later : YieldsAt count rest tokens margin margins true all) :
    YieldsAt column (newLine count ++ rest) tokens margin margins keyAllowed all :=
  fun _ _ same => yields_newLine starts same (isOptional_none _) later

/-- A mark stands in front of a space. -/
theorem separated_of_mark {c : Char} (basic : IsBasic c) (whole : place.rest = c :: ' ' :: rest) :
    place.atMarker = false ∧ separates place.next.peek = true := by
  obtain ⟨-, behind⟩ := Place.leads_next basic whole
  refine ⟨?_, by rw [Place.peek_eq behind]; rfl⟩
  rw [Place.atMarker, whole]
  simp

/-- Marks in front of a space, the blocks that they open and their tokens: a dash begins an item of a
list, and a question mark an entry whose key does not stand in front of its colon. -/
inductive IsMark : (c : Char) → (block token : Token) → Prop where
  | dash : IsMark '-' .blockSequence .dash
  | question : IsMark '?' .blockMapping .key

theorem IsMark.basic {c : Char} (isMark : IsMark c block token) :
    IsBasic c ∧ c ≠ ' ' ∧ c ≠ '#' := by
  cases isMark <;> decide

theorem YieldsAt.mark {c : Char} (isMark : IsMark c block token)
    (opens : Opens column block tokens margin margins opened outer)
    (later : YieldsAt (column + 1) (' ' :: rest) (token :: opened) (column + 1) outer true all) :
    YieldsAt column (c :: ' ' :: rest) tokens margin margins true all := by
  obtain ⟨basic, noSpace, noComment⟩ := isMark.basic
  refine YieldsAt.step basic noSpace noComment opens.margin_le ?_ later
  intro place here same
  obtain ⟨unmarked, separated⟩ := separated_of_mark basic same
  rw [← here] at opens ⊢
  unfold Scan.token
  simp only [unmarked, separated, Bool.and_false, Bool.false_eq_true, if_false]
  rw [← mark_eq opens]
  cases isMark <;> rfl

/-- A colon at the start of a line begins the value of such an entry. -/
theorem YieldsAt.colon
    (later : YieldsAt (column + 1) (' ' :: rest) (.value :: tokens) (column + 1) margins true all) :
    YieldsAt column (':' :: ' ' :: rest) tokens (column + 1) margins true all := by
  refine YieldsAt.step (by decide) (by decide) (by decide) (Nat.le_refl _) ?_ later
  intro place here same
  obtain ⟨unmarked, separated⟩ := separated_of_mark (by decide) same
  have opens : Opens place.column .blockMapping tokens (column + 1) margins tokens margins :=
    .already (by rw [here])
  unfold Scan.token
  simp only [unmarked, separated, Bool.and_false, Bool.false_eq_true, if_false]
  rw [← here] at opens ⊢
  rw [← mark_eq opens]
  rfl

/-! Scalars -/

/-- A written scalar and its token. -/
inductive Spells (indent : Nat) : (written : List Char) → (token : Token) → Prop where
  | plain {chars written : List Char} (text : IsPlainText chars)
      (writes : WritesPlain indent chars written) :
      Spells indent written (.scalar (.ofList chars) true)
  | quoted {chars written : List Char} (writes : WritesQuoted indent chars written) :
      Spells indent ('\'' :: written ++ ['\'']) (.scalar (.ofList chars) false)

/-- The key that may begin here. -/
def noted (place : Place) (tokens : List Token) (margin : Nat) (keyAllowed : Bool) : Option Key :=
  if keyAllowed then some ⟨tokens.length, margin == place.column + 1, place⟩ else none

theorem noteKey_eq :
    noteKey ⟨place, tokens, margin, margins, keyAllowed, none, []⟩ =
      some ⟨place, tokens, margin, margins, keyAllowed, noted place tokens margin keyAllowed,
        []⟩ := by
  cases keyAllowed <;> rfl

/-- A key that is noted beyond the margin may be given up in a later line. -/
theorem isOptional_noted {line : Nat} (beyond : margin ≤ place.column)
    (before : place.line ≤ line) : IsOptional line (noted place tokens margin keyAllowed) := by
  intro key member
  rw [noted] at member
  split at member
  · cases member
    exact ⟨beq_eq_false_iff_ne.mpr (by omega), before⟩
  · cases member

theorem isStale_of_mem_noted {key : Key} {after : Place}
    (member : key ∈ noted place tokens margin keyAllowed) (line : after.line = place.line)
    (near : after.offset ≤ place.offset + 1024) : isStale after key = false := by
  rw [noted] at member
  split at member
  · cases member
    simp [isStale, line, near]
  · cases member

/-- The first character of a plain text is not taken for a mark. -/
theorem startsPlain_eq {c : Char} {next : Option Char} (basic : IsBasic c) (noSpace : c ≠ ' ')
    (unmarked : ∀ d ∈ startMarks, (c == d) = false)
    (solid : c ∈ ['?', ':', '-'] → separates next = false) : startsPlain false c next = true := by
  have marks : ∀ d ∈ "?:,[]\x7b\x7d#&*!|>'\"%@`".toList, d = '?' ∨ d = ':' ∨ d ∈ startMarks := by
    decide
  unfold startsPlain
  split
  · rename_i mark
    have listed : c ∈ ['?', ':', '-'] := by
      simp only [Bool.not_false, Bool.true_and, Bool.or_eq_true, beq_iff_eq] at mark
      rcases mark with rfl | rfl | rfl <;> decide
    rw [solid listed]
    rfl
  · rename_i mark
    have other : "?:,[]\x7b\x7d#&*!|>'\"%@`".toList.contains c = false := by
      refine Bool.eq_false_iff.mpr fun listed => ?_
      rcases marks c (List.contains_iff_mem.mp listed) with rfl | rfl | listed
      · exact mark rfl
      · exact mark rfl
      · exact absurd (unmarked c listed) (by simp)
    rw [other, basic.isBreak_eq_false, basic.isGap_eq, beq_eq_false_iff_ne.mpr noSpace]
    rfl

/-- A plain text is read as one. -/
theorem token_plain {c : Char} {chars written : List Char} {indent : Nat}
    (text : IsPlainText (c :: chars)) (writes : WritesPlain indent (c :: chars) written)
    (noMarker : place.column = 0 → place.atMarker = false) (whole : place.rest = written ++ rest) :
    Scan.token ⟨place, tokens, margin, margins, keyAllowed, key, []⟩ c =
      Scan.plain ⟨place, tokens, margin, margins, keyAllowed, key, []⟩ := by
  have basic : IsBasic c := text.basic c List.mem_cons_self
  obtain ⟨d, head, noSpace⟩ := text.first
  obtain rfl := Option.some.inj head
  have unmarked := text.unmarked
  rw [startsMarked] at unmarked
  simp only [Bool.or_eq_false_iff] at unmarked
  obtain ⟨⟨⟨others, solid⟩, -⟩, -⟩ := unmarked
  obtain ⟨more, begins, second⟩ := writes.exists_cons
  rw [begins, List.cons_append] at whole
  obtain ⟨-, behind⟩ := Place.leads_next basic whole
  have other : ∀ d ∈ startMarks, (c == d) = false := by
    intro d listed
    refine beq_eq_false_iff_ne.mpr fun same => ?_
    rw [← same, ← List.contains_iff_mem, others] at listed
    cases listed
  have solid : c ∈ ['?', ':', '-'] → separates place.next.peek = false := by
    intro listed
    rw [List.contains_iff_mem.mpr listed, Bool.true_and] at solid
    rw [Place.peek, behind]
    have same := second solid
    cases more with
    | nil =>
        rw [← same] at solid
        cases solid
    | cons e more =>
        rw [← same] at solid
        exact solid
  have starts := startsPlain_eq basic noSpace other solid
  have apart : ∀ d ∈ ['?', ':', '-'], (c == d && separates place.next.peek) = false := by
    intro d listed
    cases same : c == d with
    | false => rfl
    | true => rw [solid (eq_of_beq same ▸ listed), Bool.and_false]
  have marker : (place.column == 0 && place.atMarker) = false := by
    cases start : place.column == 0 with
    | false => rfl
    | true => rw [noMarker (eq_of_beq start), Bool.and_false]
  unfold Scan.token
  simp only [inFlow, List.isEmpty_nil, Bool.not_true, Bool.false_or, marker, apart '-' (by decide),
    apart '?' (by decide), apart ':' (by decide), other '%' (by decide), other '[' (by decide),
    other '{' (by decide), other ']' (by decide), other '}' (by decide), other ',' (by decide),
    other '*' (by decide), other '&' (by decide), other '!' (by decide), other '|' (by decide),
    other '>' (by decide), other '\'' (by decide), other '"' (by decide), starts, Bool.false_and,
    Bool.and_false, Bool.false_eq_true, if_false, if_true]

theorem token_quote (here : place.peek = some '\'') :
    Scan.token ⟨place, tokens, margin, margins, keyAllowed, key, []⟩ '\'' =
      Scan.quoted ⟨place, tokens, margin, margins, keyAllowed, key, []⟩ false := by
  have unmarked := Place.atMarker_eq_false here (by decide) (by decide)
  unfold Scan.token
  simp only [unmarked, Bool.and_false, Bool.false_eq_true, if_false]
  rfl

theorem Spells.exists_cons {indent : Nat} {written : List Char}
    (spells : Spells indent written token) :
    ∃ c more, written = c :: more ∧ IsBasic c ∧ c ≠ ' ' ∧ c ≠ '#' := by
  cases spells with
  | plain text writes =>
      obtain ⟨run, more, word, rfl⟩ := writes.exists_word
      obtain ⟨c, run, rfl, basic, noSpace, noComment⟩ := word.exists_cons
      exact ⟨c, run ++ more, rfl, basic, noSpace, noComment⟩
  | quoted writes => exact ⟨'\'', _, rfl, isBasic_quote, by decide, by decide⟩

theorem Spells.startsToken {indent : Nat} {written : List Char}
    (spells : Spells indent written token) (rest : List Char) : StartsToken (written ++ rest) := by
  obtain ⟨c, more, rfl, basic, noSpace, noComment⟩ := spells.exists_cons
  exact startsToken_cons basic noSpace noComment _

/-- A scalar is read. The place is behind it, or behind the gap after it. -/
theorem token_of_spells {c : Char} {indent : Nat} {written : List Char}
    (spells : Spells indent written token) (indented : 0 < indent) (inside : margin ≤ indent)
    (ends : EndsPlain margin rest) (closes : rest.head? ≠ some '\'')
    (entered : margin ≤ place.column + 1) (noMarker : place.column = 0 → place.atMarker = false)
    (here : place.peek = some c) (whole : place.rest = written ++ rest) :
    ∃ last after broken, Leads place written last ∧ last.rest = rest ∧
      (after = last ∧ broken = false ∨
        after = (plainGap last).place ∧ broken = (plainGap last).broken) ∧
      Scan.token ⟨place, tokens, margin, margins, keyAllowed, none, []⟩ c =
        some ⟨after, token :: tokens, margin, margins, broken, noted place tokens margin keyAllowed,
          []⟩ := by
  have first : (written ++ rest).head? = some c := whole ▸ here
  cases spells with
  | @plain chars written text writes =>
      obtain ⟨last, leads, ended, read⟩ := readPlain_eq writes indented inside ends entered whole
      obtain ⟨d, chars, rfl⟩ : ∃ d more, chars = d :: more := by
        obtain ⟨d, head, -⟩ := text.first
        obtain ⟨more, rfl⟩ := List.head?_eq_some_iff.mp head
        exact ⟨d, more, rfl⟩
      obtain ⟨more, begins, -⟩ := writes.exists_cons
      obtain rfl : d = c := by
        rw [begins] at first
        exact Option.some.inj first
      refine ⟨last, _, _, leads, ended, .inr ⟨rfl, rfl⟩, ?_⟩
      rw [token_plain text writes noMarker whole, plain, noteKey_eq]
      change some (Scan.mk (readPlain false margin place).2.1
        (.scalar (.ofList (readPlain false margin place).1) true :: tokens) margin margins
        (readPlain false margin place).2.2 (noted place tokens margin keyAllowed) []) = _
      rw [read]
  | @quoted chars written writes =>
      obtain rfl : '\'' = c := Option.some.inj first
      obtain ⟨last, leads, ended, read⟩ := readQuoted_eq writes indented closes
        (whole.trans (List.append_assoc _ _ _))
      refine ⟨last, _, _, leads, ended, .inl ⟨rfl, rfl⟩, ?_⟩
      rw [token_quote here, quoted, keyPart, noteKey_eq]
      change ((readQuoted false place).map _ >>= _) = _
      rw [read]
      rfl

/-- A scalar at the end of a line. -/
theorem YieldsAt.scalar {indent : Nat} {written : List Char} (spells : Spells indent written token)
    (indented : 0 < indent) (inside : margin ≤ indent) (entered : margin ≤ column)
    (away : 0 < column) (starts : StartsToken rest) (outside : count < margin)
    (later : YieldsAt count rest (token :: tokens) margin margins true all) :
    YieldsAt column (written ++ (Yaml.newLine count ++ rest)) tokens margin margins keyAllowed
      all := by
  intro place here same
  have within : margin ≤ place.column + 1 := by omega
  obtain ⟨c, more, first, -⟩ := spells.exists_cons
  have peeked : place.peek = some c := Place.peek_eq (by rw [same, first]; rfl)
  obtain ⟨last, after, broken, leads, ended, behind, read⟩ :=
    @token_of_spells place tokens margin margins keyAllowed _ token c indent written spells indented
      inside (endsPlain_newLine starts outside) (by simp [Yaml.newLine]) within
      (fun start => by omega) peeked same
  have begins := spells.startsToken (Yaml.newLine count ++ rest)
  rw [← same] at begins
  have optional {line : Nat} (before : place.line ≤ line) :=
    @isOptional_noted place tokens margin keyAllowed line (by omega) before
  have shorter : last.rest.length < place.rest.length := by
    rw [ended, same, first]
    simp only [List.length_append, List.length_cons]
    omega
  rcases behind with ⟨rfl, rfl⟩ | ⟨rfl, rfl⟩
  · refine yields_of_token (settle_eq_self_of_none begins) (unwind_eq_self within) peeked read
      shorter ?_
    exact yields_newLine starts ended (optional leads.line) later
  · obtain ⟨after, text, gap, behind, next, below, -, gapped⟩ := plainGap_newLine starts ended
    rw [gapped] at read
    have onward := gap.rest
    have settles : settle ⟨after, token :: tokens, margin, margins, true,
        noted place tokens margin keyAllowed, []⟩ =
          some ⟨after, token :: tokens, margin, margins, true, none, []⟩ := by
      obtain ⟨next, moves, -, skips⟩ := @skipGap_replicate after (token :: tokens) margin margins
        true (noted place tokens margin keyAllowed) rest 0 [] starts behind after.rest.length
      rw [moves.eq_self] at skips
      rw [settle, skips, dropStaleKeys_of_isOptional (optional leads.line) below]
    refine yields_of_token (settle_eq_self_of_none begins) (unwind_eq_self within) peeked read
      ?_ ?_
    · change after.rest.length < place.rest.length
      rw [onward, List.length_append] at shorter
      omega
    · exact yields_of_settle settles (settle_eq_self_of_none (by rw [behind]; exact starts))
        (Nat.le_refl _) (later after next behind)

/-! Keys in front of their colons -/

theorem token_colon (whole : place.rest = ':' :: rest) (separated : separates rest.head? = true) :
    Scan.token ⟨place, tokens, margin, margins, keyAllowed, key, []⟩ ':' =
      Scan.colon ⟨place, tokens, margin, margins, keyAllowed, key, []⟩ := by
  have unmarked := Place.atMarker_eq_false (Place.peek_eq whole) (by decide) (by decide)
  obtain ⟨-, behind⟩ := Place.leads_next (by decide) whole
  have separated : separates place.next.peek = true := by
    rw [Place.peek, behind, separated]
  unfold Scan.token
  simp only [unmarked, separated, Bool.and_false, Bool.false_eq_true, if_false]
  rfl

/-- A colon puts the marks of its key in front of the key. -/
theorem colon_eq {start : Place} (required : Bool)
    (opens : Opens start.column .blockMapping tokens margin margins opened outer) :
    colon ⟨place, token :: tokens, margin, margins, keyAllowed,
        some ⟨tokens.length, required, start⟩, []⟩ =
      some ⟨place.next, .value :: token :: .key :: opened, start.column + 1, outer, false, none,
        []⟩ := by
  have keyed := @insertAt_eq place tokens margin margins keyAllowed
    (some ⟨tokens.length, required, start⟩) [token] [] .key
  have block := @openBlock_eq place tokens margin margins keyAllowed
    (some ⟨tokens.length, required, start⟩) start.column .blockMapping opened outer [token, .key]
      opens
  unfold colon
  dsimp only
  change (some { (openBlock (insertAt ⟨place, [token] ++ tokens, margin, margins, keyAllowed, _, []⟩
    tokens.length .key) start.column tokens.length .blockMapping).take 1 .value with
      key := none, keyAllowed := false } : Option Scan) = _
  rw [keyed]
  change (some { (openBlock ⟨place, [token, .key] ++ tokens, margin, margins, keyAllowed, _, []⟩
    start.column tokens.length .blockMapping).take 1 .value with
      key := none, keyAllowed := false } : Option Scan) = _
  rw [block]
  rfl

/-- A key is not taken for a line that separates documents. -/
theorem Spells.atMarker_eq_false {indent : Nat} {written : List Char}
    (spells : Spells indent written token) (oneLine : '\n' ∉ written)
    (whole : place.rest = written ++ ':' :: rest) : place.atMarker = false := by
  cases spells with
  | @plain chars written text writes =>
      have unmarked := text.unmarked
      rw [writes.eq_of_oneLine oneLine] at whole
      match chars with
      | [] | [_] | [_, _] => simp [Place.atMarker, whole]
      | c :: d :: e :: more =>
          rw [startsMarked] at unmarked
          simp only [Bool.or_eq_false_iff, List.isPrefixOf, Bool.and_true] at unmarked
          obtain ⟨⟨-, noDashes⟩, noDots⟩ := unmarked
          have dashes : ([c, d, e] == ['-', '-', '-']) = false := by
            refine beq_eq_false_iff_ne.mpr fun same => ?_
            cases same
            cases noDashes
          have dots : ([c, d, e] == ['.', '.', '.']) = false := by
            refine beq_eq_false_iff_ne.mpr fun same => ?_
            cases same
            cases noDots
          unfold Place.atMarker
          rw [whole]
          simp only [List.cons_append, List.take_succ_cons, List.take_zero, dashes, dots,
            Bool.or_self, Bool.false_and]
  | quoted writes =>
      exact Place.atMarker_eq_false (Place.peek_eq whole) (by decide) (by decide)

/-- A short key in one line, with its colon. -/
theorem YieldsAt.simpleKey {indent : Nat} {written : List Char}
    (spells : Spells indent written token) (indented : 0 < indent) (inside : margin ≤ indent)
    (basic : ∀ c ∈ written, IsBasic c)
    (short : written.length ≤ 1024) (separated : separates rest.head? = true)
    (opens : Opens column .blockMapping tokens margin margins opened outer)
    (later : YieldsAt (column + written.length + 1) rest (.value :: token :: .key :: opened)
      (column + 1) outer false all) :
    YieldsAt column (written ++ ':' :: rest) tokens margin margins true all := by
  intro place here same
  have within := opens.margin_le
  rw [← here] at within
  obtain ⟨c, more, first, -⟩ := spells.exists_cons
  have peeked : place.peek = some c := Place.peek_eq (by rw [same, first]; rfl)
  have unmarked := spells.atMarker_eq_false (lineFeed_notMem basic) same
  obtain ⟨last, after, broken, leads, ended, behind, read⟩ :=
    @token_of_spells place tokens margin margins true _ token c indent written spells indented
      inside (endsPlain_colon margin separated) (by simp) within (fun _ => unmarked) peeked same
  obtain ⟨rfl, rfl⟩ : after = last ∧ broken = false := by
    rw [plainGap_colon ended] at behind
    exact behind.elim id id
  obtain ⟨line, column', offset⟩ := leads.column (lineFeed_notMem basic)
  have begins := spells.startsToken (':' :: rest)
  rw [← same] at begins
  refine yields_of_token (settle_eq_self_of_none begins) (unwind_eq_self within) peeked read ?_ ?_
  · change after.rest.length < place.rest.length
    rw [ended, same, first]
    simp only [List.length_append, List.length_cons]
    omega
  · have fresh : ∀ key ∈ noted place tokens margin true, isStale after key = false :=
      fun key member => isStale_of_mem_noted member line (by omega)
    obtain ⟨leads', next⟩ := Place.leads_next (by decide) ended
    obtain ⟨-, column'', -⟩ := leads'.column (by decide)
    rw [← here] at opens
    refine yields_of_token (settle_eq_self ?_ fresh) (unwind_eq_self ?_) (Place.peek_eq ended)
      ((token_colon ended separated).trans (colon_eq _ opens)) ?_ ?_
    · rw [ended]
      exact startsToken_cons (by decide) (by decide) (by decide) _
    · change margin ≤ after.column + 1
      omega
    · change after.next.rest.length < after.rest.length
      rw [next, ended]
      exact Nat.lt_succ_self _
    · rw [here]
      refine later after.next ?_ next
      rw [column'', column', here]
      rfl

/-! Empty brackets -/

/-- Brackets of flow collections and their tokens. -/
inductive IsBrackets : (opening closing : Char) → (opened closed : Token) → Prop where
  | list : IsBrackets '[' ']' .openBracket .closeBracket
  | record : IsBrackets '\x7b' '\x7d' .openBrace .closeBrace

section

variable {opening closing : Char} {opened closed : Token}

theorem IsBrackets.basic (brackets : IsBrackets opening closing opened closed) :
    (IsBasic opening ∧ opening ≠ ' ' ∧ opening ≠ '#' ∧ opening ≠ '-' ∧ opening ≠ '.') ∧
      IsBasic closing ∧ closing ≠ ' ' ∧ closing ≠ '#' ∧ closing ≠ '-' ∧ closing ≠ '.' := by
  cases brackets <;> decide

theorem IsBrackets.token_opening (brackets : IsBrackets opening closing opened closed)
    (unmarked : scan.place.atMarker = false) : scan.token opening = scan.openFlow opened := by
  unfold Scan.token
  simp only [unmarked, Bool.and_false]
  cases brackets <;> rfl

theorem IsBrackets.token_closing (brackets : IsBrackets opening closing opened closed)
    (unmarked : scan.place.atMarker = false) : scan.token closing = scan.closeFlow closed := by
  unfold Scan.token
  simp only [unmarked, Bool.and_false]
  cases brackets <;> rfl

/-- An empty collection at the end of a line. -/
theorem YieldsAt.brackets (brackets : IsBrackets opening closing opened closed)
    (entered : margin ≤ column) (starts : StartsToken rest)
    (later : YieldsAt count rest (closed :: opened :: tokens) margin margins true all) :
    YieldsAt column (opening :: closing :: (Yaml.newLine count ++ rest)) tokens margin margins
      keyAllowed all := by
  intro place here same
  obtain ⟨⟨basic, noSpace, noComment, noDash, noDot⟩, basic', noSpace', noComment', noDash',
    noDot'⟩ := brackets.basic
  obtain ⟨leads, behind⟩ := Place.leads_next basic same
  obtain ⟨leads', behind'⟩ := Place.leads_next basic' behind
  obtain ⟨line, -, offset⟩ := leads.column (lineFeed_notMem (by simpa using basic))
  have unmarked := Place.atMarker_eq_false (Place.peek_eq same) noDash noDot
  have unmarked' := Place.atMarker_eq_false (Place.peek_eq behind) noDash' noDot'
  let noted := noted place tokens margin keyAllowed
  let inside : Scan := ⟨place.next, opened :: tokens, margin, margins, true, none, [noted]⟩
  let outside : Scan :=
    ⟨place.next.next, closed :: opened :: tokens, margin, margins, false, noted, []⟩
  have opens : Scan.token ⟨place, tokens, margin, margins, keyAllowed, none, []⟩ opening =
      some inside := by
    rw [brackets.token_opening unmarked, openFlow, noteKey_eq]
    rfl
  have closes : inside.token closing = some outside := by
    rw [brackets.token_closing unmarked']
    rfl
  have settled : inside.settle = some inside := by
    obtain ⟨next, moves, -, skips⟩ := @skipGap_replicate place.next (opened :: tokens) margin
      margins true none (closing :: (Yaml.newLine count ++ rest)) 0 [noted]
      (startsToken_cons basic' noSpace' noComment' _) behind inside.place.rest.length
    rw [moves.eq_self] at skips
    have near : place.next.offset ≤ place.offset + 1024 := by
      rw [offset, List.length_singleton]
      omega
    have kept : dropStaleKey place.next noted = some noted :=
      dropStaleKey_of_fresh fun key member => isStale_of_mem_noted member line near
    rw [settle, skips]
    unfold dropStaleKeys
    dsimp only
    rw [List.mapM_cons, kept]
    rfl
  refine yields_of_token (settle_eq_self_of_none ?_)
    (unwind_eq_self (show margin ≤ place.column + 1 by omega)) (Place.peek_eq same) opens ?_ ?_
  · rw [same]
    exact startsToken_cons basic noSpace noComment _
  · change place.next.rest.length < place.rest.length
    rw [behind, same]
    exact Nat.lt_succ_self _
  · refine yields_of_token settled rfl (Place.peek_eq behind) closes ?_ ?_
    · change place.next.next.rest.length < place.next.rest.length
      rw [behind', behind]
      exact Nat.lt_succ_self _
    · exact yields_newLine starts behind'
        (isOptional_noted (by omega) (Nat.le_trans leads.line leads'.line)) later

end

end PlainScript.Yaml.Scan
