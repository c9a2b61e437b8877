/-
The check without its context. A verdict that is asked for again without the addresses of the case
finds nothing new but forbidden words, and these only in lines in which an address can come to
stand.
-/

import PlainScript.Proofs.Check.Legible

namespace PlainScript

namespace Masking

variable {pieces others : List (List Char)} {text : List Char}

/-- Added pieces do not change the order of the others. -/
theorem filter_longestFirst_append (pieces others : List (List Char)) :
    (longestFirst (pieces ++ others)).filter (· ∈ pieces) = longestFirst pieces := by
  have kept : (pieces.filter (!·.isEmpty)).eraseDups.filter (· ∈ pieces) =
      (pieces.filter (!·.isEmpty)).eraseDups := by
    rw [List.filter_eq_self]
    intro piece member
    exact decide_eq_true (List.mem_of_mem_filter (List.mem_eraseDups.mp member))
  have dropped : ((others.filter (!·.isEmpty)).removeAll
      (pieces.filter (!·.isEmpty))).eraseDups.filter (· ∈ pieces) = [] := by
    rw [List.filter_eq_nil_iff]
    intro piece member
    rw [List.mem_eraseDups, List.removeAll, List.mem_filter, List.mem_filter] at member
    obtain ⟨⟨-, nonempty⟩, new⟩ := member
    simp_all
  unfold longestFirst
  rw [Order.filter_sort (fun a b c => by simpa using fun ab bc => Nat.le_trans bc ab)
    (fun a b => by simpa using Nat.le_total b.length a.length), List.filter_append,
    List.eraseDups_append, List.filter_append, kept, dropped, List.append_nil]

/-- Blanking out a piece that spares the whole text changes nothing. -/
theorem Spares.maskOne_eq_self {piece : List Char} (spares : Spares [piece] text 0 text.length) :
    maskOne text piece = text := by
  have length := (fades_maskOne text piece).length_eq
  apply List.ext_getElem?
  intro place
  by_cases within : place < text.length
  · exact spares.getElem?_maskOne (Nat.zero_le place) within
  · rw [List.getElem?_eq_none (by omega), List.getElem?_eq_none (by omega)]

/-- Pieces that spare the whole text need not be blanked out, wherever they come in the order. -/
theorem Spares.foldl_maskOne_filter {ordered : List (List Char)}
    (spares : Spares others text 0 text.length)
    (known : ∀ piece ∈ ordered, piece ∈ pieces ∨ piece ∈ others) :
    ordered.foldl maskOne text = (ordered.filter (· ∈ pieces)).foldl maskOne text := by
  induction ordered generalizing text with
  | nil => rfl
  | cons piece ordered ih =>
      obtain ⟨given, known⟩ := List.forall_mem_cons.mp known
      have fades := fades_maskOne text piece
      have later := spares.of_fades fades
      rw [fades.length_eq] at later
      rw [List.foldl_cons, List.filter_cons]
      by_cases kept : piece ∈ pieces
      · rw [if_pos (decide_eq_true kept), List.foldl_cons]
        exact ih later known
      · rw [if_neg (by simpa using kept)]
        have alone : Spares [piece] text 0 text.length :=
          List.forall_mem_singleton.mpr (spares piece (given.resolve_left kept))
        rw [alone.maskOne_eq_self]
        exact ih spares known

theorem Spares.maskChars_append (spares : Spares others text 0 text.length) :
    maskChars text (pieces ++ others) = maskChars text pieces := by
  rw [maskChars, spares.foldl_maskOne_filter fun piece member =>
    List.mem_append.mp (mem_longestFirst.mp member).1, filter_longestFirst_append, maskChars]

end Masking

namespace Strict

variable {instruction code : String} {values : List (String × String)} {context : List String}

theorem additions_eq_nil_iff (scanned : String) : additions scanned = [] ↔
    ∀ token ∈ forbidden ++ placeholders, ¬ token.toList <:+: scanned.toList := by
  simp [additions, List.filter_eq_nil_iff, ← Text.contains_iff_infix, or_imp, forall_and]

/-- What each line of the statements is left of. -/
theorem toList_mask_body {known : List String}
    (oneLine : ∀ text ∈ known, '\n' ∉ text.toList) :
    (Masking.mask (body instruction code) known).toList =
      ['\n'].intercalate (((Chars.lines code.toList).filter fun line => !isComment line).map
        (scan (titlePieces instruction) (known.map String.toList))) := by
  have titles := lineFeed_notMem_of_mem_titlePieces instruction
  rw [Masking.mask, String.toList_ofList, toList_body, bodyChars,
    Masking.maskChars_intercalate titles, Masking.maskChars_intercalate (by simpa using oneLine),
    List.map_map]
  rfl

/-- A line in which the scan without the context would find something new. -/
def Hides (context : List String) (line : List Char) : Prop :=
  harmless line = false ∧ ¬ Masking.Spares (context.map String.toList) line 0 line.length

/-- What is found only without the context is found in a line in which an address can come to
stand. -/
theorem exists_hides_of_additions
    (oneLine : ∀ text ∈ values.map (·.2) ++ context, '\n' ∉ text.toList)
    (passed : additions
      (Masking.mask (body instruction code) (values.map (·.2) ++ context)) = [])
    (found : additions (Masking.mask (body instruction code) (values.map (·.2))) ≠ []) :
    ∃ line ∈ Chars.lines code.toList, isComment line = false ∧ Hides context line := by
  by_contra none
  refine found ((additions_eq_nil_iff _).mpr fun token listed inside => ?_)
  have shapes : ∀ token ∈ forbidden ++ placeholders, token.toList ≠ [] ∧ '\n' ∉ token.toList := by
    decide
  obtain ⟨nonempty, unbroken⟩ := shapes token listed
  have guarded := Chars.guards_singleton nonempty unbroken
  have ofValues : ∀ text ∈ values.map (·.2), '\n' ∉ text.toList := fun text member =>
    oneLine text (List.mem_append_left _ member)
  rw [toList_mask_body ofValues, Chars.infix_intercalate_iff nonempty guarded] at inside
  obtain ⟨scanned, listedLine, inside⟩ := inside
  obtain ⟨line, member, rfl⟩ := List.mem_map.mp listedLine
  have inCode := List.mem_filter.mp member
  by_cases safe : harmless line = true
  · obtain ⟨core, inCores, inToken⟩ := exists_core_infix listed
    exact quiet_of_harmless safe core inCores (inToken.trans inside)
  · have spares : Masking.Spares (context.map String.toList) line 0 line.length := by
      by_contra stands
      exact none ⟨line, inCode.1, by simpa using inCode.2, by simpa using safe, stands⟩
    have fades := Masking.fades_maskChars line (titlePieces instruction)
    have later := spares.of_fades fades
    rw [fades.length_eq] at later
    rw [scan, ← later.maskChars_append, ← List.map_append] at inside
    refine (additions_eq_nil_iff _).mp passed token listed ?_
    rw [toList_mask_body oneLine, Chars.infix_intercalate_iff nonempty guarded]
    exact ⟨_, List.mem_map_of_mem member, inside⟩

/-! Code that is read back -/

/-- Code as it was written and as it is read: the lines are the same, and on one line there is
nothing new. -/
structure Rereads (written read : String) : Prop where
  lines : Chars.lines read.toList = Chars.lines written.toList
  oneLine : ∀ piece : List Char, '\n' ∉ piece → piece <:+: read.toList → piece <:+: written.toList

namespace Rereads

variable {written read : String}

theorem body_eq (rereads : Rereads written read) (instruction : String) :
    body instruction read = body instruction written := by
  rw [body, body, statements, statements, rereads.lines]

/-- Code that is finished is read so. -/
theorem gaps_eq_nil (rereads : Rereads written read) (finished : gaps written = []) :
    gaps read = [] := by
  rw [gaps_eq_nil_iff] at finished ⊢
  rintro (tagged | ⟨field, nonempty, fieldChars, inside⟩)
  · refine finished (.inl (rereads.oneLine _ ?_ tagged))
    rw [Unresolved.tag, String.toList_ofList]
    decide
  · refine finished (.inr ⟨field, nonempty, fieldChars, rereads.oneLine _ ?_ inside⟩)
    have outer : '\n' ∉ Marker.opening ∧ '\n' ∉ Marker.closing := by
      rw [Marker.opening_eq, Marker.closing_eq]
      decide
    rw [Marker.markerOf, List.mem_append, List.mem_append]
    rintro ((feed | feed) | feed)
    · exact outer.1 feed
    · exact absurd (fieldChars _ feed) (by decide)
    · exact outer.2 feed

theorem contains_eq_false (rereads : Rereads written read) {piece : String}
    (unbroken : '\n' ∉ piece.toList) (absent : Text.contains written piece = false) :
    Text.contains read piece = false := by
  rw [Text.contains_eq_false_iff] at absent ⊢
  exact fun inside => absent (rereads.oneLine _ unbroken inside)

/-- A lock that is not replaced in the code is read so. -/
theorem replacements_eq_nil (rereads : Rereads written read) {lock : Lock}
    (kept : replacements written lock = []) : replacements read lock = [] := by
  -- Each replacement is reported for a text on one line, unless the lock has that text itself.
  have absent {piece : String} {other : Bool} {deviation : Deviation}
      (unbroken : '\n' ∉ piece.toList)
      (none : (if Text.contains written piece && other then [deviation] else []) = []) :
      (if Text.contains read piece && other then [deviation] else []) = [] := by
    cases stands : Text.contains written piece with
    | true =>
        rw [stands, Bool.true_and] at none
        cases other with
        | true => cases none
        | false => simp
    | false => simp [rereads.contains_eq_false unbroken stands]
  unfold replacements at kept ⊢
  split at kept
  · rename_i idle
    rw [if_pos idle]
  · rename_i holds
    rw [if_neg holds]
    cases type : lock.type with
    | url =>
        rw [type] at kept
        exact absent (by decide) kept
    | selector =>
        rw [type] at kept
        obtain ⟨error, input⟩ := List.append_eq_nil_iff.mp kept
        exact List.append_eq_nil_iff.mpr ⟨absent (by decide) error, absent (by decide) input⟩
    | _ => rfl

end Rereads

/-- The forbidden words that nothing but the context explains. -/
def unexplained (instruction code : String) (values : List (String × String))
    (locks : List Lock) : List Deviation :=
  additions (Masking.mask (body instruction code) (values.map (·.2))) ++
    if locks.isEmpty then []
    else additions (Masking.mask (body instruction code) ((lockValues locks).map (·.2)))

/-- Code that has passed with a context and is read back without it has no fault but words that the
context explains. -/
theorem verdict_of_rereads {written read : String} {locks : List Lock}
    (rereads : Rereads written read)
    (passed : verdict instruction written values locks context = ⟨[], []⟩) :
    verdict instruction read values locks [] =
      ⟨[], unexplained instruction written values locks⟩ := by
  have gaps := gaps_verdict instruction written values locks context
  have deviations : (verdict instruction written values locks context).deviations = [] := by
    rw [passed]
  rw [passed] at gaps
  have finished := rereads.gaps_eq_nil gaps.symm
  obtain ⟨ofValues, ofLocks⟩ := missing_eq_nil_of_verdict deviations
  unfold verdict at deviations ⊢
  unfold unexplained
  cases locks with
  | nil => simp [check, finished, rereads.body_eq, ofValues]
  | cons lock locks =>
      obtain ⟨-, byLocks⟩ := List.append_eq_nil_iff.mp deviations
      obtain ⟨-, replaced⟩ := List.append_eq_nil_iff.mp byLocks
      have kept : (lock :: locks).flatMap (replacements read) = [] := by
        rw [List.flatMap_eq_nil_iff] at replaced ⊢
        exact fun lock member => rereads.replacements_eq_nil (replaced lock member)
      simp [Verdict.merge, checkLocks, check, finished, rereads.body_eq, ofValues, ofLocks, kept]

/-- A verdict without deviations has found no addition with the context. -/
theorem additions_eq_nil_of_verdict {locks : List Lock}
    (passed : (verdict instruction code values locks context).deviations = []) :
    additions (Masking.mask (body instruction code) (values.map (·.2) ++ context)) = [] ∧
      (locks.isEmpty = false → additions (Masking.mask (body instruction code)
        ((lockValues locks).map (·.2) ++ context)) = []) := by
  unfold verdict at passed
  split at passed
  · rename_i none
    exact ⟨(List.append_eq_nil_iff.mp passed).2, fun some => by simp [none] at some⟩
  · obtain ⟨byValues, byLocks⟩ := List.append_eq_nil_iff.mp passed
    have byLock := (List.append_eq_nil_iff.mp byLocks).1
    exact ⟨(List.append_eq_nil_iff.mp byValues).2,
      fun _ => (List.append_eq_nil_iff.mp byLock).2⟩

/-- What only the context explains stands in a line in which an address can come to stand. -/
theorem exists_hides_of_unexplained {locks : List Lock}
    (valuesOneLine : ∀ value ∈ values, '\n' ∉ value.2.toList)
    (locksOneLine : ∀ value ∈ lockValues locks, '\n' ∉ value.2.toList)
    (contextOneLine : ∀ address ∈ context, '\n' ∉ address.toList)
    (passed : (verdict instruction code values locks context).deviations = [])
    (found : unexplained instruction code values locks ≠ []) :
    ∃ line ∈ Chars.lines code.toList, isComment line = false ∧ Hides context line := by
  obtain ⟨ofValues, ofLocks⟩ := additions_eq_nil_of_verdict passed
  rw [unexplained, Ne, List.append_eq_nil_iff, not_and_or] at found
  rcases found with found | found
  · have oneLine : ∀ text ∈ values.map (·.2) ++ context, '\n' ∉ text.toList :=
      List.forall_mem_append.mpr ⟨List.forall_mem_map.mpr valuesOneLine, contextOneLine⟩
    exact exists_hides_of_additions oneLine ofValues found
  · split at found
    · exact absurd rfl found
    · rename_i some
      have oneLine : ∀ text ∈ (lockValues locks).map (·.2) ++ context, '\n' ∉ text.toList :=
        List.forall_mem_append.mpr ⟨List.forall_mem_map.mpr locksOneLine, contextOneLine⟩
      exact exists_hides_of_additions oneLine (ofLocks (by simpa using some)) found

/-- The verdict has nothing against the code but forbidden words, and these only where an address of
the context can come to stand. -/
structure BlamesContext (verdict : Verdict) (instruction code : String)
    (values : List (String × String)) (locks : List Lock) (context : List String) : Prop where
  errors : verdict.errors = []
  deviations : verdict.deviations = unexplained instruction code values locks
  /-- It is valid exactly if no forbidden word is left once the values are blanked out. -/
  isValid_iff : verdict.isValid = true ↔ ∀ token ∈ forbidden ++ placeholders,
    ¬ token.toList <:+: (Masking.mask (body instruction code) (values.map (·.2))).toList ∧
      (locks ≠ [] → ¬ token.toList <:+:
        (Masking.mask (body instruction code) ((lockValues locks).map (·.2))).toList)
  hidden : (∀ value ∈ values, '\n' ∉ value.2.toList) →
    (∀ value ∈ lockValues locks, '\n' ∉ value.2.toList) →
    (∀ address ∈ context, '\n' ∉ address.toList) → verdict.isValid = false →
      ∃ line ∈ Chars.lines code.toList, isComment line = false ∧ Hides context line

theorem unexplained_eq_nil_iff (locks : List Lock) :
    unexplained instruction code values locks = [] ↔ ∀ token ∈ forbidden ++ placeholders,
      ¬ token.toList <:+: (Masking.mask (body instruction code) (values.map (·.2))).toList ∧
        (locks ≠ [] → ¬ token.toList <:+:
          (Masking.mask (body instruction code) ((lockValues locks).map (·.2))).toList) := by
  rw [unexplained, List.append_eq_nil_iff, additions_eq_nil_iff]
  cases locks with
  | nil => simp
  | cons lock locks =>
      rw [List.isEmpty_cons, if_neg Bool.false_ne_true, additions_eq_nil_iff, ← forall₂_and]
      simp

/-- Code that has passed is blamed without the context only for what the context explained. -/
theorem blamesContext_of_rereads {written read : String} {locks : List Lock}
    (rereads : Rereads written read)
    (passed : verdict instruction written values locks context = ⟨[], []⟩) :
    BlamesContext (verdict instruction read values locks []) instruction written values locks
      context := by
  have whole := verdict_of_rereads rereads passed
  have deviations : (verdict instruction written values locks context).deviations = [] := by
    rw [passed]
  have valid : (verdict instruction read values locks []).isValid = true ↔
      unexplained instruction written values locks = [] := by
    rw [whole, Verdict.isValid, List.isEmpty_nil, Bool.true_and, List.isEmpty_iff]
  refine ⟨?_, ?_, valid.trans (unexplained_eq_nil_iff locks), ?_⟩
  · rw [whole]
    rfl
  · rw [whole]
  · intro valuesOneLine locksOneLine contextOneLine invalid
    refine exists_hides_of_unexplained valuesOneLine locksOneLine contextOneLine deviations ?_
    rw [Ne, ← valid, invalid]
    exact Bool.false_ne_true

end Strict

end PlainScript
