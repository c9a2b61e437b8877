/-
Places that paths lead to. A place is what is left of steps once those that lead back are made
good, so its own path leads to it, and the entries of a directory are the places one step on.
-/

import PlainScript.File.Path
import PlainScript.Proofs.Text.Feed

namespace PlainScript.File

/-- What can stand between two slashes of a path and leads anywhere. -/
structure IsPiece (piece : String) : Prop where
  leads : isStep piece = true
  slash_notMem : '/' ∉ piece.toList

/-- What an entry of a directory can be called. -/
structure IsName (name : String) : Prop extends IsPiece name where
  ne_back : name ≠ ".."

/-! The steps of a path -/

/-- The steps of a path without the texts up to them. -/
def stepNames (path : String) : List String := (steps path).map (·.1)

theorem map_fst_filterMap_zipIdx (text : Nat → String) (all : List String) (start : Nat) :
    (((all.zipIdx start).filterMap fun (piece, count) =>
      if isStep piece then some (piece, text count) else none).map (·.1)) = all.filter isStep := by
  induction all generalizing start with
  | nil => rfl
  | cons piece all ih =>
      rw [List.zipIdx_cons, List.filterMap_cons, List.filter_cons, ← ih (start + 1)]
      by_cases leads : isStep piece <;> simp [leads]

theorem stepNames_eq (path : String) :
    stepNames path =
      (if Text.startsWith path "/" then ["/"] else []) ++ (pieces path).filter isStep := by
  unfold stepNames steps
  rw [List.map_append,
    map_fst_filterMap_zipIdx fun count => "/".intercalate ((pieces path).take count)]
  split <;> rfl

theorem placeOf_eq (path : String) : placeOf path = (stepNames path).foldl stepFrom [] := by
  rw [placeOf, stepNames, List.foldl_map]

variable {folder path piece name : String} {place : List String}

theorem pieces_eq_singleton (absent : '/' ∉ piece.toList) : pieces piece = [piece] := by
  have unmarked : ∀ c ∈ piece.toList, (c == '/') = false := by
    intro c member
    rw [beq_eq_false_iff_ne]
    rintro rfl
    exact absent member
  rw [pieces, Chars.splitAt_eq_singleton unmarked, List.map_singleton, String.ofList_toList]

/-- A slash separates pieces. -/
theorem pieces_append_slash_append (left right : String) :
    pieces (left ++ "/" ++ right) = pieces left ++ pieces right := by
  have whole : (left ++ "/" ++ right).toList = left.toList ++ '/' :: right.toList := by
    simp
  rw [pieces, whole, Chars.splitAt_append_mark_append _ rfl, List.map_append, ← pieces, ← pieces]

theorem startsWith_append_iff (named : folder ≠ "") (rest : String) :
    Text.startsWith (folder ++ rest) "/" = Text.startsWith folder "/" := by
  obtain ⟨c, chars, same⟩ := List.exists_cons_of_ne_nil (mt String.toList_eq_nil_iff.mp named)
  simp [Text.startsWith, same, List.isPrefixOf]

theorem not_startsWith_slash (absent : '/' ∉ piece.toList) : Text.startsWith piece "/" = false := by
  rw [Text.startsWith, Bool.eq_false_iff, Ne, List.isPrefixOf_iff_prefix]
  intro before
  exact absent (before.subset (by simp))

theorem stepNames_eq_singleton (isPiece : IsPiece piece) : stepNames piece = [piece] := by
  rw [stepNames_eq, pieces_eq_singleton isPiece.slash_notMem,
    not_startsWith_slash isPiece.slash_notMem]
  simp [isPiece.leads]

theorem stepNames_append_slash_append (named : folder ≠ "") (isPiece : IsPiece piece) :
    stepNames (folder ++ "/" ++ piece) = stepNames folder ++ [piece] := by
  rw [stepNames_eq, stepNames_eq, String.append_assoc, startsWith_append_iff named,
    ← String.append_assoc, pieces_append_slash_append, pieces_eq_singleton isPiece.slash_notMem,
    List.filter_append, List.append_assoc]
  simp [isPiece.leads]

/-- The path of an entry takes one step more than the path of its directory. -/
theorem stepNames_join (named : folder ≠ "") (isPiece : IsPiece piece) :
    stepNames (join folder piece) = stepNames folder ++ [piece] := by
  rw [join, not_startsWith_slash isPiece.slash_notMem]
  have given : folder.isEmpty = false := by simpa using named
  rw [given, Bool.or_self, if_neg Bool.false_ne_true]
  split
  · rename_i closed
    -- The slash at the end of the directory is the one that separates.
    obtain ⟨front, same⟩ := List.isSuffixOf_iff_suffix.mp closed
    obtain rfl : .ofList front ++ "/" = folder := by
      rw [← String.toList_inj, ← same, String.toList_append, String.toList_ofList]
    have bare : pieces (.ofList front ++ "/") = pieces (.ofList front) ++ [""] := by
      have cut := pieces_append_slash_append (.ofList front) ""
      rwa [String.append_empty, @pieces_eq_singleton "" (by simp)] at cut
    rw [stepNames_eq, stepNames_eq, startsWith_append_iff named, pieces_append_slash_append, bare,
      pieces_eq_singleton isPiece.slash_notMem, List.filter_append, List.filter_append,
      List.append_assoc, List.append_assoc]
    have empty : [""].filter isStep = [] := by decide
    have leads : [piece].filter isStep = [piece] := by simp [isPiece.leads]
    rw [empty, List.nil_append, leads]
  · exact stepNames_append_slash_append named isPiece

/-- The path of an entry begins with the path of its directory. -/
theorem prefix_join (named : folder ≠ "") (isPiece : IsPiece piece) :
    folder.toList <+: (join folder piece).toList := by
  have given : folder.isEmpty = false := by simpa using named
  rw [join, not_startsWith_slash isPiece.slash_notMem, given, Bool.or_self,
    if_neg Bool.false_ne_true]
  split
  · rw [String.toList_append]
    exact List.prefix_append _ _
  · rw [String.toList_append, String.toList_append, List.append_assoc]
    exact List.prefix_append _ _

theorem stepFrom_of_ne_back (place : List String) (forth : name ≠ "..") :
    stepFrom place name = place ++ [name] := by
  rw [stepFrom, if_pos (bne_iff_ne.mpr forth)]

/-- The entry of a directory is one step on from it. -/
theorem placeOf_join (named : folder ≠ "") (isName : IsName name) :
    placeOf (join folder name) = placeOf folder ++ [name] := by
  rw [placeOf_eq, stepNames_join named isName.toIsPiece, List.foldl_append, ← placeOf_eq]
  exact stepFrom_of_ne_back _ isName.ne_back

/-- Entries of one directory are at one place only if they have one name. -/
theorem placeOf_join_inj {other : String} (named : folder ≠ "") (isName : IsName name)
    (isOther : IsName other) :
    placeOf (join folder name) = placeOf (join folder other) ↔ name = other := by
  rw [placeOf_join named isName, placeOf_join named isOther]
  simp

/-! Places -/

/-- A step leads on, or nowhere from the root, or back. -/
theorem stepFrom_cases (place : List String) (step : String) :
    stepFrom place step = place ++ [step] ∨ stepFrom place step = place ∨
      stepFrom place step = place.dropLast := by
  unfold stepFrom
  split
  · exact .inl rfl
  · split
    · exact .inl rfl
    · exact .inl rfl
    · exact .inr (.inl rfl)
    · exact .inr (.inr rfl)

/-- Places that steps can lead to: the start, the root, and what is one step on from a place. -/
inductive IsPlace : List String → Prop
  | start : IsPlace []
  | root : IsPlace ["/"]
  | step {place : List String} {piece : String} (reached : IsPlace place) (isPiece : IsPiece piece)
      (onward : stepFrom place piece = place ++ [piece]) : IsPlace (place ++ [piece])

theorem IsPlace.dropLast (isPlace : IsPlace place) : IsPlace place.dropLast := by
  cases isPlace with
  | start => exact .start
  | root => exact .start
  | step reached => rwa [List.dropLast_concat]

theorem IsPlace.stepFrom (isPlace : IsPlace place) (isPiece : IsPiece piece) :
    IsPlace (stepFrom place piece) := by
  rcases stepFrom_cases place piece with onward | stays | back
  · rw [onward]
    exact .step isPlace isPiece onward
  · rwa [stays]
  · rw [back]
    exact isPlace.dropLast

theorem IsPlace.foldl (isPlace : IsPlace place) {names : List String}
    (arePieces : ∀ name ∈ names, IsPiece name) : IsPlace (names.foldl File.stepFrom place) := by
  induction names generalizing place with
  | nil => exact isPlace
  | cons name names ih =>
      rw [List.forall_mem_cons] at arePieces
      exact ih (isPlace.stepFrom arePieces.1) arePieces.2

theorem isPiece_of_mem_pieces (member : piece ∈ (pieces path).filter isStep) : IsPiece piece := by
  obtain ⟨inside, leads⟩ := List.mem_filter.mp member
  obtain ⟨part, listed, rfl⟩ := List.mem_map.mp inside
  refine ⟨leads, fun slash => ?_⟩
  rw [String.toList_ofList] at slash
  exact absurd (Chars.mark_eq_false_of_mem_splitAt listed _ slash) (by decide)

/-- Steps begin at the start or at the root. -/
theorem exists_stepNames_eq (path : String) :
    ∃ names, (∀ name ∈ names, IsPiece name) ∧
      (stepNames path = names ∨ stepNames path = "/" :: names) := by
  refine ⟨(pieces path).filter isStep, fun _ member => isPiece_of_mem_pieces member, ?_⟩
  rw [stepNames_eq]
  split
  · exact .inr rfl
  · exact .inl rfl

theorem isPlace_placeOf (path : String) : IsPlace (placeOf path) := by
  obtain ⟨names, arePieces, same⟩ := exists_stepNames_eq path
  rw [placeOf_eq]
  rcases same with same | same
  · rw [same]
    exact IsPlace.start.foldl arePieces
  · rw [same, List.foldl_cons, stepFrom_of_ne_back [] (by decide)]
    exact IsPlace.root.foldl arePieces

/-- A place is made of pieces, but for the root in front. -/
theorem IsPlace.isPiece_of_mem (isPlace : IsPlace place) (member : name ∈ place) :
    name = "/" ∨ IsPiece name := by
  induction isPlace with
  | start => cases member
  | root => exact .inl (List.mem_singleton.mp member)
  | step reached isPiece onward ih =>
      rcases List.mem_append.mp member with before | last
      · exact ih before
      · exact .inr (List.mem_singleton.mp last ▸ isPiece)

/-- The path of a place leads to it. -/
theorem placeOf_pathOf (isPlace : IsPlace place) : placeOf (pathOf place) = place := by
  induction isPlace with
  | start => decide
  | root => decide
  | @step place piece reached isPiece onward ih =>
      by_cases same : place = []
      · subst same
        rw [List.nil_append, pathOf, String.intercalate_singleton, placeOf_eq,
          stepNames_eq_singleton isPiece]
        exact onward
      · have named : pathOf place ≠ "" := by
          intro empty
          rw [empty] at ih
          exact same ih.symm
        have whole : pathOf (place ++ [piece]) = pathOf place ++ "/" ++ piece := by
          rw [pathOf, String.intercalate_append_of_ne_nil same (List.cons_ne_nil _ _),
            String.intercalate_singleton, pathOf]
        rw [whole, placeOf_eq, stepNames_append_slash_append named isPiece, List.foldl_append,
          ← placeOf_eq, ih]
        exact onward

/-! Extensions -/

/-- A name that does not begin with a dot is split in front of its last one. -/
theorem splitExtension_append {extension : String} (unslashed : '/' ∉ name.toList)
    (visible : ∃ c, name.toList.head? = some c ∧ c ≠ '.')
    (plain : ∀ c ∈ extension.toList, c ≠ '/' ∧ c ≠ '.') :
    splitExtension (name ++ ("." ++ extension)) = (name, "." ++ extension) := by
  have whole : (name ++ ("." ++ extension)).toList =
      name.toList ++ '.' :: extension.toList := by simp
  have unbroken : ∀ c ∈ name.toList ++ '.' :: extension.toList, (c != '/') = true := by
    intro c member
    rw [bne_iff_ne]
    rcases List.mem_append.mp member with inName | behind
    · exact fun same => unslashed (same ▸ inName)
    · rcases List.mem_cons.mp behind with rfl | inside
      · decide
      · exact (plain c inside).1
  have last : ((name.toList ++ '.' :: extension.toList).reverse.takeWhile (· != '/')).reverse =
      name.toList ++ '.' :: extension.toList := by
    rw [List.takeWhile_eq_self_iff.mpr, List.reverse_reverse]
    exact fun c member => unbroken c (List.mem_reverse.mp member)
  have tail : ((name.toList ++ '.' :: extension.toList).reverse.takeWhile (· != '.')).reverse =
      extension.toList := by
    rw [List.reverse_append, List.reverse_cons, List.append_assoc, List.singleton_append,
      Chars.takeWhile_append_cons _ (by decide), List.reverse_reverse]
    exact fun c member => bne_iff_ne.mpr (plain c (List.mem_reverse.mp member)).2
  obtain ⟨c, head, other⟩ := visible
  obtain ⟨rest, spelled⟩ := List.head?_eq_some_iff.mp head
  have undotted : (c == '.') = false := beq_eq_false_iff_ne.mpr other
  have dots : (name.toList ++ '.' :: extension.toList).takeWhile (· == '.') = [] := by
    rw [spelled, List.cons_append, List.takeWhile_cons_of_neg (by simp [undotted])]
  have kept : (name.toList ++ '.' :: extension.toList).dropWhile (· == '.') =
      name.toList ++ '.' :: extension.toList := by
    rw [spelled, List.cons_append, List.dropWhile_cons_of_neg (by simp [undotted])]
  have longer : (([] : List Char).length + extension.toList.length ==
      (name.toList ++ '.' :: extension.toList).length) = false := by
    simp
    omega
  have count : (name.toList ++ '.' :: extension.toList).length - (extension.toList.length + 1) =
      name.toList.length := by
    simp
  simp only [splitExtension, whole, last, dots, kept, tail, longer, count, Bool.false_eq_true,
    if_false, List.take_left, List.drop_left]
  simp

end PlainScript.File
