/-
What writing a file does to a directory: the file reads as it was written, every other file reads
as before, and a directory that holds a readable file need not be made again. Files that are saved
in one directory therefore read as they were saved last under their names.
-/

import PlainScript.File.Directory
import PlainScript.Proofs.Computation
import PlainScript.Proofs.File.Place
import PlainScript.Proofs.Text.Order

namespace PlainScript

namespace File

variable {place other : List String}

theorem mem_ways_iff : other ∈ ways place ↔ other <+: place := by
  induction place generalizing other with
  | nil => simp [ways]
  | cons first rest ih =>
      rw [ways, List.mem_cons, List.mem_map, List.prefix_cons_iff]
      refine or_congr_right ⟨?_, ?_⟩
      · rintro ⟨inner, listed, rfl⟩
        exact ⟨inner, rfl, ih.mp listed⟩
      · rintro ⟨inner, rfl, before⟩
        exact ⟨inner, ih.mpr before, rfl⟩

end File

open File

namespace Directory

variable {directory after : Directory} {place other : List String} {path content : String}
  {names : List String}

/-! Directories that are there -/

theorem mem_folderPlaces_iff : place ∈ directory.folderPlaces ↔
    (∃ folder ∈ directory.folders, place <+: placeOf folder) ∨
      ∃ file ∈ directory.files, place <+: (placeOf file.1).dropLast := by
  simp [folderPlaces, mem_ways_iff]

theorem hasFolder_start : directory.hasFolder [] = true := rfl

/-- Every step of the names leads to a directory. -/
def Passes (directory : Directory) : List String → List String → Prop
  | _, [] => True
  | place, name :: rest =>
      isTooLong name = false ∧ directory.hasFolder (stepFrom place name) = true ∧
        directory.Passes (stepFrom place name) rest

/-- All directories are still there. -/
def Keeps (after before : Directory) : Prop :=
  ∀ place, before.hasFolder place = true → after.hasFolder place = true

theorem Passes.mono (passes : directory.Passes place names) (keeps : after.Keeps directory) :
    after.Passes place names := by
  induction names generalizing place with
  | nil => trivial
  | cons name names ih =>
      obtain ⟨short, found, later⟩ := passes
      exact ⟨short, keeps _ found, ih later⟩

/-- A directory is there with all above it. -/
def IsOpen (directory : Directory) (place : List String) : Prop :=
  ∀ above, above <+: place → directory.hasFolder above = true

theorem isOpen_start : directory.IsOpen [] := by
  intro above before
  rw [List.prefix_nil.mp before]
  exact hasFolder_start

theorem IsOpen.of_prefix (isOpen : directory.IsOpen place) (before : other <+: place) :
    directory.IsOpen other :=
  fun _ above => isOpen _ (above.trans before)

theorem IsOpen.stepFrom {name : String} (isOpen : directory.IsOpen place)
    (found : directory.hasFolder (stepFrom place name) = true) :
    directory.IsOpen (stepFrom place name) := by
  rcases stepFrom_cases place name with onward | stays | back
  · rw [onward] at found ⊢
    intro above before
    rcases List.prefix_concat_iff.mp before with rfl | before
    · exact found
    · exact isOpen above before
  · rwa [stays]
  · rw [back]
    exact isOpen.of_prefix (List.dropLast_prefix place)

theorem Passes.isOpen_foldl (passes : directory.Passes place names)
    (isOpen : directory.IsOpen place) : directory.IsOpen (names.foldl File.stepFrom place) := by
  induction names generalizing place with
  | nil => exact isOpen
  | cons name names ih =>
      obtain ⟨-, found, later⟩ := passes
      exact ih later (isOpen.stepFrom found)

/-! Following a path -/

theorem follow_eq_ok_iff {reached : List String} (steps : List (String × String)) :
    directory.follow place steps = .ok reached ↔
      directory.Passes place (steps.map (·.1)).dropLast ∧
        (∀ last ∈ (steps.map (·.1)).getLast?, isTooLong last = false) ∧
        reached = (steps.map (·.1)).foldl stepFrom place := by
  induction steps generalizing place with
  | nil =>
      unfold follow
      simp [Passes, @eq_comm _ reached]
  | cons first rest ih =>
      obtain ⟨name, text⟩ := first
      unfold follow
      cases rest with
      | nil => cases long : isTooLong name <;> simp [long, Passes, @eq_comm _ reached]
      | cons second rest =>
          have onward (place : List String) : directory.Passes place
              (((name, text) :: second :: rest).map (·.1)).dropLast ↔
                isTooLong name = false ∧ directory.hasFolder (stepFrom place name) = true ∧
                  directory.Passes (stepFrom place name) ((second :: rest).map (·.1)).dropLast := by
            rfl
          have last : (((name, text) :: second :: rest).map (·.1)).getLast? =
              ((second :: rest).map (·.1)).getLast? := List.getLast?_cons_cons
          have reach : (((name, text) :: second :: rest).map (·.1)).foldl stepFrom place =
              ((second :: rest).map (·.1)).foldl stepFrom (stepFrom place name) := rfl
          rw [onward, last, reach]
          by_cases long : isTooLong name
          · simp [long]
          · by_cases found : directory.hasFolder (stepFrom place name)
            · simpa [long, found] using @ih (stepFrom place name)
            · by_cases taken : (directory.fileAt? (stepFrom place name)).isSome <;>
                simp [long, found, taken]

/-- The way along a path can be gone up to its last step. -/
structure Reaches (directory : Directory) (path : String) : Prop where
  whole : '\x00' ∉ path.toList
  ne_empty : path ≠ ""
  passes : directory.Passes [] (stepNames path).dropLast
  short : ∀ last ∈ (stepNames path).getLast?, isTooLong last = false

theorem locate_eq_ok_iff :
    directory.locate path = .ok place ↔ directory.Reaches path ∧ place = placeOf path := by
  unfold locate
  split
  · rename_i null
    rw [List.contains_iff_mem] at null
    exact iff_of_false nofun fun ⟨reaches, _⟩ => reaches.whole null
  · rename_i whole
    rw [List.contains_iff_mem] at whole
    split
    · rename_i empty
      exact iff_of_false nofun fun ⟨reaches, _⟩ => reaches.ne_empty (String.isEmpty_iff.mp empty)
    · rename_i named
      rw [String.isEmpty_iff] at named
      have followed := @follow_eq_ok_iff directory [] place (steps path)
      rw [← stepNames, ← placeOf_eq] at followed
      constructor
      · intro located
        obtain ⟨passes, short, same⟩ := followed.mp (Except.mapError_eq_ok_iff.mp located)
        exact ⟨⟨whole, named, passes, short⟩, same⟩
      · rintro ⟨reaches, same⟩
        rw [followed.mpr ⟨reaches.passes, reaches.short, same⟩]
        rfl

theorem Reaches.mono (reaches : directory.Reaches path) (keeps : after.Keeps directory) :
    after.Reaches path :=
  { reaches with passes := reaches.passes.mono keeps }

/-- All directories above the place of a path are there. -/
theorem Reaches.isOpen (reaches : directory.Reaches path) :
    directory.IsOpen (placeOf path).dropLast := by
  have above := reaches.passes.isOpen_foldl isOpen_start
  rw [placeOf_eq]
  rcases List.eq_nil_or_concat (stepNames path) with same | ⟨front, last, same⟩
  · rw [same]
    exact isOpen_start
  · rw [List.concat_eq_append] at same
    rw [same, List.dropLast_concat] at above
    rw [same, List.foldl_append, List.foldl_cons, List.foldl_nil]
    rcases stepFrom_cases (front.foldl stepFrom []) last with onward | stays | back
    · rwa [onward, List.dropLast_concat]
    · rw [stays]
      exact above.of_prefix (List.dropLast_prefix _)
    · rw [back]
      exact above.of_prefix ((List.dropLast_prefix _).trans (List.dropLast_prefix _))

/-! Reading and writing -/

/-- The path is one of a file that can be read or written. -/
structure NamesFile (directory : Directory) (path : String) : Prop
    extends directory.Reaches path where
  notFolder : directory.hasFolder (placeOf path) = false
  unclosed : Text.endsWith path "/" = false

theorem NamesFile.of_locate (located : directory.locate path = .ok place)
    (notFolder : directory.hasFolder place = false) (unclosed : Text.endsWith path "/" = false) :
    directory.NamesFile path := by
  obtain ⟨reaches, rfl⟩ := locate_eq_ok_iff.mp located
  exact ⟨reaches, notFolder, unclosed⟩

theorem openFile_eq_ok_iff {found : Content} :
    directory.openFile path = .ok found ↔
      directory.NamesFile path ∧ directory.fileAt? (placeOf path) = some found := by
  constructor
  · intro opened
    obtain ⟨place, located, opened⟩ := Except.exists_of_bind_eq_ok opened
    obtain ⟨reaches, rfl⟩ := locate_eq_ok_iff.mp located
    split at opened
    · cases opened
    · rename_i notFolder
      split at opened
      · cases opened
      · rename_i present
        split at opened
        · cases opened
        · rename_i unclosed
          cases opened
          rw [Bool.not_eq_true] at notFolder unclosed
          exact ⟨⟨reaches, notFolder, unclosed⟩, present⟩
  · rintro ⟨names, present⟩
    unfold openFile
    rw [locate_eq_ok_iff.mpr ⟨names.toReaches, rfl⟩]
    change (if directory.hasFolder (placeOf path) then _ else _) = _
    rw [names.notFolder, present, names.unclosed]
    rfl

/-! Entries -/

theorem nodup_entries (directory : Directory) (folder : String) :
    (directory.entries folder).Nodup :=
  Order.nodup_eraseDups _

/-- A directory has an entry for each place below it that leads to a file or to a directory. -/
theorem mem_entries_iff {folder name : String} :
    name ∈ directory.entries folder ↔
      (∃ file ∈ directory.files, placeOf folder ++ [name] <+: placeOf file.1) ∨
        ∃ other ∈ directory.folders, placeOf folder ++ [name] <+: placeOf other := by
  have inside (place : List String) :
      (if (placeOf folder).isPrefixOf place then (place.drop (placeOf folder).length).head?
        else none) = some name ↔ placeOf folder ++ [name] <+: place := by
    constructor
    · intro found
      split at found
      · rename_i above
        obtain ⟨below, rfl⟩ := List.isPrefixOf_iff_prefix.mp above
        rw [List.drop_left] at found
        obtain ⟨rest, rfl⟩ := List.head?_eq_some_iff.mp found
        exact ⟨rest, by simp⟩
      · cases found
    · rintro ⟨rest, rfl⟩
      rw [if_pos (List.isPrefixOf_iff_prefix.mpr ⟨name :: rest, by simp⟩), List.append_assoc,
        List.drop_left]
      rfl
  simp only [entries, List.mem_eraseDups, List.mem_append, List.mem_filterMap, inside]

theorem isPiece_of_mem_entries {folder name : String} (member : name ∈ directory.entries folder) :
    name = "/" ∨ IsPiece name := by
  have below (path : String) (before : placeOf folder ++ [name] <+: placeOf path) :
      name = "/" ∨ IsPiece name :=
    (isPlace_placeOf path).isPiece_of_mem (before.subset (by simp))
  rcases mem_entries_iff.mp member with ⟨file, -, before⟩ | ⟨other, -, before⟩
  · exact below _ before
  · exact below _ before

/-- A file that can be opened is an entry of its directory. -/
theorem mem_entries_of_openFile {folder name : String} {found : Content} (named : folder ≠ "")
    (isName : IsName name) (opened : directory.openFile (join folder name) = .ok found) :
    name ∈ directory.entries folder := by
  obtain ⟨-, present⟩ := openFile_eq_ok_iff.mp opened
  obtain ⟨file, first, -⟩ := Option.map_eq_some_iff.mp present
  have place : placeOf file.1 = placeOf (join folder name) := by
    simpa using List.find?_some first
  refine mem_entries_iff.mpr (.inl ⟨file, List.mem_of_find?_eq_some first, ?_⟩)
  rw [place, placeOf_join named isName]

/-- The directory with a file at a place. -/
def put (directory : Directory) (place : List String) (content : String) : Directory :=
  { directory with
    files := (directory.files.filter fun file => placeOf file.1 != place) ++
      [(pathOf place, .text content)] }

theorem writeText_eq_ok_iff :
    directory.writeText path content = .ok after ↔
      directory.NamesFile path ∧ after = directory.put (placeOf path) content := by
  constructor
  · intro written
    obtain ⟨place, located, written⟩ := Except.exists_of_bind_eq_ok written
    obtain ⟨reaches, rfl⟩ := locate_eq_ok_iff.mp located
    split at written
    · cases written
    · rename_i free
      rw [Bool.or_eq_true, not_or, Bool.not_eq_true, Bool.not_eq_true] at free
      cases written
      exact ⟨⟨reaches, free.1, free.2⟩, rfl⟩
  · rintro ⟨names, rfl⟩
    unfold writeText
    rw [locate_eq_ok_iff.mpr ⟨names.toReaches, rfl⟩]
    change (if directory.hasFolder (placeOf path) || _ then _ else _) = _
    rw [names.notFolder, names.unclosed]
    rfl

theorem fileAt?_put (isPlace : IsPlace place) :
    (directory.put place content).fileAt? place = some (.text content) := by
  have gone : (directory.files.filter fun file => placeOf file.1 != place).find?
      (fun file => placeOf file.1 == place) = none := by
    rw [List.find?_eq_none]
    intro file member
    simpa using (List.mem_filter.mp member).2
  rw [fileAt?, put, List.find?_append, gone, Option.none_or, List.find?_singleton,
    placeOf_pathOf isPlace, if_pos (beq_self_eq_true place), Option.map_some]

theorem fileAt?_put_of_ne (isPlace : IsPlace place) (apart : other ≠ place) :
    (directory.put place content).fileAt? other = directory.fileAt? other := by
  have kept : (directory.files.filter fun file => placeOf file.1 != place).find?
      (fun file => placeOf file.1 == other) =
        directory.files.find? fun file => placeOf file.1 == other := by
    rw [List.find?_filter]
    congr 1
    funext file
    by_cases same : placeOf file.1 = other
    · simp [same, apart]
    · simp [same]
  have new : [(pathOf place, Content.text content)].find? (fun file => placeOf file.1 == other) =
      none := by
    rw [List.find?_singleton, placeOf_pathOf isPlace, if_neg (by simpa using apart.symm)]
  rw [fileAt?, put, List.find?_append, kept, new, Option.or_none, fileAt?]

/-- A file adds no directories but those above it. -/
theorem hasFolder_put_iff (isPlace : IsPlace place) :
    (directory.put place content).hasFolder other = true ↔
      directory.hasFolder other = true ∨ other <+: place.dropLast := by
  have folders : other ∈ (directory.put place content).folderPlaces ↔
      other ∈ directory.folderPlaces ∨ other <+: place.dropLast := by
    rw [mem_folderPlaces_iff, mem_folderPlaces_iff, or_assoc]
    refine or_congr_right ⟨?_, ?_⟩
    · rintro ⟨file, listed, above⟩
      rcases List.mem_append.mp listed with listed | listed
      · exact .inl ⟨file, List.mem_of_mem_filter listed, above⟩
      · rw [List.mem_singleton.mp listed, placeOf_pathOf isPlace] at above
        exact .inr above
    · have new : (pathOf place, Content.text content) ∈ (directory.put place content).files :=
        List.mem_append_right _ List.mem_cons_self
      rintro (⟨file, listed, above⟩ | above)
      · by_cases same : placeOf file.1 = place
        · -- The file is replaced by one at the same place.
          rw [same] at above
          exact ⟨_, new, by rwa [placeOf_pathOf isPlace]⟩
        · exact ⟨file, List.mem_append_left _ (List.mem_filter.mpr ⟨listed, by simpa using same⟩),
            above⟩
      · exact ⟨_, new, by rwa [placeOf_pathOf isPlace]⟩
  simp only [hasFolder, Bool.or_eq_true, List.contains_iff_mem, folders, or_assoc]

theorem keeps_put (isPlace : IsPlace place) : (directory.put place content).Keeps directory :=
  fun _ found => (hasFolder_put_iff isPlace).mpr (.inl found)

/-- A file that is written reads as it was written. -/
theorem openFile_of_writeText (written : directory.writeText path content = .ok after) :
    after.openFile path = .ok (.text content) := by
  obtain ⟨names, rfl⟩ := writeText_eq_ok_iff.mp written
  have isPlace := isPlace_placeOf path
  have notFolder : (directory.put (placeOf path) content).hasFolder (placeOf path) = false := by
    rw [Bool.eq_false_iff, Ne, hasFolder_put_iff isPlace, names.notFolder]
    rintro (found | above)
    · cases found
    · -- Only the start is its own directory, and no file is there.
      have length := above.length_le
      rw [List.length_dropLast] at length
      have start : placeOf path = [] := List.length_eq_zero_iff.mp (by omega)
      have free := names.notFolder
      rw [start, hasFolder_start] at free
      cases free
  exact openFile_eq_ok_iff.mpr
    ⟨⟨names.toReaches.mono (keeps_put isPlace), notFolder, names.unclosed⟩, fileAt?_put isPlace⟩

/-- The path of a file stays one when a file is written. -/
theorem NamesFile.put {elsewhere : String} (others : directory.NamesFile elsewhere)
    (names : directory.NamesFile path) (content : String) :
    (directory.put (placeOf path) content).NamesFile elsewhere := by
  have isPlace := isPlace_placeOf path
  refine ⟨others.toReaches.mono (keeps_put isPlace), ?_, others.unclosed⟩
  rw [Bool.eq_false_iff, Ne, hasFolder_put_iff isPlace, others.notFolder]
  rintro (found | above)
  · cases found
  · have above := names.toReaches.isOpen _ above
    rw [others.notFolder] at above
    cases above

/-- A file at another place reads as before. -/
theorem openFile_of_writeText_of_ne {elsewhere : String} {found : Content}
    (written : directory.writeText path content = .ok after)
    (opened : directory.openFile elsewhere = .ok found)
    (apart : placeOf elsewhere ≠ placeOf path) : after.openFile elsewhere = .ok found := by
  obtain ⟨names, rfl⟩ := writeText_eq_ok_iff.mp written
  obtain ⟨others, present⟩ := openFile_eq_ok_iff.mp opened
  refine openFile_eq_ok_iff.mpr ⟨others.put names content, ?_⟩
  rw [fileAt?_put_of_ne (isPlace_placeOf path) apart, present]

/-- Another path to the same place leads to what was written. -/
theorem openFile_of_writeText_of_eq {elsewhere : String} {found : Content}
    (written : directory.writeText path content = .ok after)
    (opened : directory.openFile elsewhere = .ok found)
    (same : placeOf elsewhere = placeOf path) : after.openFile elsewhere = .ok (.text content) := by
  obtain ⟨names, rfl⟩ := writeText_eq_ok_iff.mp written
  obtain ⟨others, -⟩ := openFile_eq_ok_iff.mp opened
  refine openFile_eq_ok_iff.mpr ⟨others.put names content, ?_⟩
  rw [same, fileAt?_put (isPlace_placeOf path)]

/-! Writing one file after another -/

/-- Texts are written one after another, each to its path. -/
inductive Writes : Directory → List (String × String) → Directory → Prop
  | nil (directory : Directory) : Writes directory [] directory
  | cons {directory written after : Directory} {path content : String}
      {texts : List (String × String)} (writes : directory.writeText path content = .ok written)
      (later : Writes written texts after) : Writes directory ((path, content) :: texts) after

/-- The text that was written last to where the path leads. -/
def lastAt? (texts : List (String × String)) (path : String) : Option String :=
  (texts.reverse.find? fun text => placeOf text.1 == placeOf path).map (·.2)

theorem lastAt?_cons (first : String × String) (texts : List (String × String)) (path : String) :
    lastAt? (first :: texts) path =
      (lastAt? texts path).or (if placeOf first.1 = placeOf path then some first.2 else none) := by
  unfold lastAt?
  rw [List.reverse_cons, List.find?_append, List.find?_singleton]
  cases texts.reverse.find? fun text => placeOf text.1 == placeOf path with
  | some last => rfl
  | none => by_cases same : placeOf first.1 = placeOf path <;> simp [same]

/-- What could be read at a path can still be read, unless a later text was written there. -/
theorem Writes.openFile_eq {texts : List (String × String)} {found : Content}
    (writes : Writes directory texts after) (opened : directory.openFile path = .ok found) :
    after.openFile path = .ok (((lastAt? texts path).map .text).getD found) := by
  induction writes generalizing found with
  | nil => exact opened
  | @cons directory written after first content texts writes later ih =>
      rw [lastAt?_cons]
      split
      · rename_i same
        rw [ih (openFile_of_writeText_of_eq writes opened same.symm)]
        cases lastAt? texts path <;> rfl
      · rename_i apart
        rw [ih (openFile_of_writeText_of_ne writes opened (Ne.symm apart)), Option.or_none]

/-- Each path that was written to leads to the text that was written last to its place. -/
theorem Writes.exists_lastAt {texts : List (String × String)} (writes : Writes directory texts after)
    {text : String × String} (member : text ∈ texts) :
    ∃ kept, lastAt? texts text.1 = some kept ∧ after.openFile text.1 = .ok (.text kept) := by
  induction writes with
  | nil => cases member
  | @cons directory written after first content texts writes later ih =>
      rw [lastAt?_cons]
      rcases List.mem_cons.mp member with rfl | member
      · rw [later.openFile_eq (openFile_of_writeText writes), if_pos rfl]
        cases lastAt? texts first <;> simp
      · obtain ⟨kept, last, opened⟩ := ih member
        exact ⟨kept, by rw [last, Option.some_or], opened⟩

/-! Saving in a directory -/

variable {folder name : String}

theorem makeFolders_eq_self {steps : List (String × String)}
    (passes : directory.Passes place (steps.map (·.1))) :
    directory.makeFolders path place steps = .ok directory := by
  induction steps generalizing place with
  | nil => rfl
  | cons first rest ih =>
      obtain ⟨name, text⟩ := first
      obtain ⟨short, found, later⟩ := passes
      unfold makeFolders
      dsimp only
      rw [short, if_neg Bool.false_ne_true, found, if_pos rfl]
      exact ih later

/-- A directory in which a file can be read need not be made. -/
theorem makeFolder_eq_self {found : Content} (named : folder ≠ "") (isName : IsName name)
    (opened : directory.openFile (join folder name) = .ok found) :
    directory.makeFolder folder = .ok directory := by
  obtain ⟨names, -⟩ := openFile_eq_ok_iff.mp opened
  have whole : '\x00' ∉ folder.toList := fun null =>
    names.whole ((prefix_join named isName.toIsPiece).subset null)
  have passes := names.passes
  rw [stepNames_join named isName.toIsPiece, List.dropLast_concat] at passes
  unfold makeFolder
  rw [if_neg (by simpa using whole), if_neg (by simpa using named)]
  exact makeFolders_eq_self passes

/-- A file that can be read can be written anew. -/
theorem exists_writeText {found : Content} (opened : directory.openFile path = .ok found)
    (content : String) : ∃ written, directory.writeText path content = .ok written :=
  ⟨_, writeText_eq_ok_iff.mpr ⟨(openFile_eq_ok_iff.mp opened).1, rfl⟩⟩

/-- Texts are saved one after another, each under its name in a directory that is made for it. -/
inductive Saves (folder : String) : Directory → List (String × String) → Directory → Prop
  | nil (directory : Directory) : Saves folder directory [] directory
  | cons {directory made written after : Directory} {name content : String}
      {texts : List (String × String)} (makes : directory.makeFolder folder = .ok made)
      (writes : made.writeText (join folder name) content = .ok written)
      (later : Saves folder written texts after) :
      Saves folder directory ((name, content) :: texts) after

/-- What could be read under a name can still be read, unless a later text has its name. -/
theorem Saves.openFile_eq {texts : List (String × String)} {found : Content} (named : folder ≠ "")
    (areNames : ∀ text ∈ texts, IsName text.1) (isName : IsName name)
    (saves : Saves folder directory texts after)
    (opened : directory.openFile (join folder name) = .ok found) :
    after.openFile (join folder name) =
      .ok (((texts.reverse.lookup name).map .text).getD found) := by
  induction saves generalizing found with
  | nil => exact opened
  | @cons directory made written after first content texts makes writes later ih =>
      rw [List.forall_mem_cons] at areNames
      rw [makeFolder_eq_self named isName opened] at makes
      cases makes
      rw [List.reverse_cons, List.lookup_append]
      by_cases same : name = first
      · subst same
        rw [ih areNames.2 (openFile_of_writeText writes)]
        cases texts.reverse.lookup name <;> simp
      · have apart := mt (placeOf_join_inj named isName areNames.1).mp same
        have unnamed : [(first, content)].lookup name = none := by
          rw [List.lookup_cons, beq_eq_false_iff_ne.mpr same, List.lookup_nil]
        rw [ih areNames.2 (openFile_of_writeText_of_ne writes opened apart), unnamed,
          Option.or_none]

/-- Each saved file reads as the text that was saved last under its name. -/
theorem Saves.exists_lookup {texts : List (String × String)} (named : folder ≠ "")
    (areNames : ∀ text ∈ texts, IsName text.1) (saves : Saves folder directory texts after)
    {text : String × String} (member : text ∈ texts) :
    ∃ kept, texts.reverse.lookup text.1 = some kept ∧
      after.openFile (join folder text.1) = .ok (.text kept) := by
  induction saves with
  | nil => cases member
  | @cons directory made written after first content texts makes writes later ih =>
      rw [List.forall_mem_cons] at areNames
      rw [List.reverse_cons, List.lookup_append]
      rcases List.mem_cons.mp member with rfl | member
      · rw [later.openFile_eq named areNames.2 areNames.1 (openFile_of_writeText writes)]
        cases texts.reverse.lookup first <;> simp
      · obtain ⟨kept, last, opened⟩ := ih areNames.2 member
        exact ⟨kept, by rw [last, Option.some_or], opened⟩

/-- Every saved text can be read under its name exactly if texts of one name are the same. -/
theorem Saves.forall_openFile_iff {texts : List (String × String)} (named : folder ≠ "")
    (areNames : ∀ text ∈ texts, IsName text.1) (saves : Saves folder directory texts after) :
    (∀ text ∈ texts, after.openFile (join folder text.1) = .ok (.text text.2)) ↔
      ∀ text ∈ texts, ∀ other ∈ texts, text.1 = other.1 → text.2 = other.2 := by
  constructor
  · intro all text member other listed same
    have first := all text member
    rw [same, all other listed, Except.ok.injEq, Content.text.injEq] at first
    exact first.symm
  · intro alike text member
    obtain ⟨kept, last, opened⟩ := saves.exists_lookup named areNames member
    have listed : (text.1, kept) ∈ texts := by
      obtain ⟨later, earlier, same, -⟩ := List.lookup_eq_some_iff.mp last
      rw [← List.mem_reverse, same]
      exact List.mem_append_right _ List.mem_cons_self
    rw [opened, alike text member _ listed rfl]

end Directory

end PlainScript
