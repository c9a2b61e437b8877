/-
What the strict check blanks out for a plain login: the titles made of the instruction, both values
and the addresses. Each of the literals that hold them is quiet, and so is each of the words that the
names of the test are part of, whatever the values and the host contain.
-/

import PlainScript.Proofs.Check.Scan
import PlainScript.Proofs.Literal.Plain
import PlainScript.Proofs.TestCase.Login

namespace PlainScript

open Literal Strict

/-- The characters of a host. -/
def isHostChar (c : Char) : Bool := c.isLower || c.isDigit || ['.', '-'].contains c

/-- A host that is reached by name. -/
structure PlainSite where
  host : String
  host_ne : host ≠ ""
  host_plain : ∀ c ∈ host.toList, isHostChar c = true

namespace PlainSite

variable (site : PlainSite)

/-- The address of the host. -/
def address : String := "https://" ++ site.host

theorem toList_address : site.address.toList =
    ['h', 't', 't', 'p', 's'] ++ ':' :: ([] ++ '/' :: ([] ++ '/' :: site.host.toList)) := by
  simp [address]

theorem length_host_lt_length_address :
    8 < site.address.toList.length ∧ site.host.toList.length < site.address.toList.length := by
  have host : 0 < site.host.toList.length :=
    List.length_pos_of_ne_nil (by simpa using site.host_ne)
  simp only [toList_address, List.length_append, List.length_cons, List.length_nil]
  omega

/-- The characters of addresses. -/
def alphabet : List Char := [
  'a', 'b', 'c', 'd', 'e', 'f', 'g', 'h', 'i', 'j', 'k', 'l', 'm', 'n', 'o', 'p', 'q', 'r', 's',
  't', 'u', 'v', 'w', 'x', 'y', 'z', '0', '1', '2', '3', '4', '5', '6', '7', '8', '9', '.', '-',
  ':', '/']

theorem mem_alphabet {c : Char} (plain : isHostChar c = true) : c ∈ alphabet := by
  have ascii : c.toNat < 128 := by
    rw [isHostChar, Bool.or_eq_true, List.contains_iff_mem] at plain
    rcases plain with name | mark
    · exact Name.toNat_lt_of_isNameChar name
    · have all : ∀ c ∈ ['.', '-'], c.toNat < 128 := by decide
      exact all c mark
  have all : ∀ code < 128, isHostChar (Char.ofNat code) = true → Char.ofNat code ∈ alphabet := by
    decide
  exact Chars.forall_ascii (P := fun c => isHostChar c = true → c ∈ alphabet) all ascii plain

theorem mem_of_mem_address : ∀ c ∈ site.address.toList, c ∈ alphabet := by
  rw [toList_address]
  simp only [List.nil_append, List.forall_mem_append, List.forall_mem_cons]
  exact ⟨by decide, by decide, by decide, by decide, fun c member =>
    mem_alphabet (site.host_plain c member)⟩

end PlainSite

namespace PlainLogin

variable (login : PlainLogin) (site : PlainSite)

/-! The protected pieces -/

/-- The titles that code shows. -/
def titles : List (List Char) :=
  [login.text.toList, login.name.toList, login.className.toList]

/-- The characters of protected texts. -/
def bareAlphabet : List Char := [' ', ':', '/'] ++ secretAlphabet

/-- The characters of protected texts and of their literals. -/
def pieceAlphabet : List Char := ['\'', '"'] ++ bareAlphabet

/-- What the alphabets have in common. -/
theorem mem_bareAlphabet :
    (∀ c ∈ ' ' :: secretAlphabet, c ∈ bareAlphabet) ∧
      (∀ c ∈ PlainSite.alphabet, c ∈ bareAlphabet ∧ c ∉ [' ', '_', 'L']) ∧
      ∀ c ∈ bareAlphabet, c ∈ pieceAlphabet := by
  decide

theorem char_notMem_bareAlphabet (mark : Mark) : mark.char ∉ bareAlphabet := by
  cases mark <;> decide

/-- Protected texts need no escapes. -/
theorem isPlain_of_alphabet {text : List Char} (alphabet : ∀ c ∈ text, c ∈ bareAlphabet) :
    isPlain text = true := by
  have all : ∀ c ∈ bareAlphabet, (!(['\\', '\'', '"', '\n'].contains c)) = true := by decide
  exact List.all_eq_true.mpr fun c member => all c (alphabet c member)

theorem mem_of_isAlphanum {c : Char} (known : c.isAlphanum = true) : c ∈ bareAlphabet := by
  refine mem_bareAlphabet.1 c (List.mem_cons_of_mem _ (mem_secretAlphabet ?_))
  rw [isSecretChar, known, Bool.true_or]

theorem mem_of_mem_titles : ∀ title ∈ login.titles, ∀ c ∈ title, c ∈ bareAlphabet := by
  have joint : '_' ∈ bareAlphabet := by decide
  have name (c : Char) (derived : Name.isNameChar c = true ∨ c = '_') : c ∈ bareAlphabet := by
    rcases derived with name | rfl
    · refine mem_of_isAlphanum ?_
      simp only [Name.isNameChar, Bool.or_eq_true] at name
      delta Char.isAlphanum Char.isAlpha
      simp only [Bool.or_eq_true]
      tauto
    · exact joint
  simp only [titles, List.forall_mem_cons]
  exact ⟨fun c inside => mem_bareAlphabet.1 c (login.mem_of_mem_text c inside),
    fun c inside => name c (login.derived_name c inside),
    fun c inside => mem_of_isAlphanum (login.isAlphanum_className c inside), by simp⟩

/-- The titles are blanked out bare and as literals of either kind. -/
theorem mem_titlePieces_iff {piece : List Char} : piece ∈ titlePieces login.text ↔
    ∃ title ∈ login.titles, piece = title ∨ ∃ mark : Mark, piece = quoteChars mark title := by
  have texts : login.titles = [login.text, login.name, login.className].map String.toList := rfl
  simp only [titlePieces, List.mem_map, texts, name, className, mem_spellings_iff,
    Strict.mem_titles_iff login.oneLine_text login.strip_text]
  constructor
  · rintro ⟨_, ⟨title, member, either⟩, rfl⟩
    exact ⟨_, ⟨title, member, rfl⟩, either.imp_left fun same => congrArg String.toList same⟩
  · rintro ⟨_, ⟨title, member, rfl⟩, either⟩
    refine ⟨.ofList piece, ⟨title, member, ?_⟩, String.toList_ofList⟩
    rw [String.toList_ofList]
    exact either.imp_left fun same => by rw [same, String.ofList_toList]

/-- The path of the login page. -/
def path : List Char := ['/', 'l', 'o', 'g', 'i', 'n']

/-- What is blanked out apart from the titles. -/
abbrev known : List (List Char) := knownPieces login.values.toList [site.address, "/login"]

/-- The values, the address and the path of the login page. -/
theorem known_eq : login.known site =
    [login.user, login.secret, site.address.toList, path] := by
  rw [known, knownPieces, toList_values]
  simp [path]

/-- No addition is found in the part, when titles and known texts are blanked out. -/
abbrev QuietAt (part : List Char) : Prop := Quiet (titlePieces login.text) (login.known site) part

/-! Characters that cut the code -/

theorem mem_pieceAlphabet_of_mem_titlePieces :
    ∀ piece ∈ titlePieces login.text, ∀ c ∈ piece, c ∈ pieceAlphabet := by
  have widen := mem_bareAlphabet.2.2
  have delimiter (mark : Mark) : mark.char ∈ pieceAlphabet := by cases mark <;> decide
  intro piece member c inside
  obtain ⟨title, listed, rfl | ⟨mark, rfl⟩⟩ := login.mem_titlePieces_iff.mp member
  · exact widen c (login.mem_of_mem_titles piece listed c inside)
  · have alphabet := login.mem_of_mem_titles title listed
    rw [quoteChars_of_isPlain (isPlain_of_alphabet alphabet), List.mem_append, List.mem_cons,
      List.mem_singleton] at inside
    rcases inside with (rfl | inside) | rfl
    · exact delimiter mark
    · exact widen c (alphabet c inside)
    · exact delimiter mark

theorem mem_of_mem_known : ∀ piece ∈ login.known site, ∀ c ∈ piece, c ∈ bareAlphabet := by
  have fixed : ∀ c ∈ path, c ∈ bareAlphabet := by decide
  rw [known_eq]
  simp only [List.forall_mem_cons]
  refine ⟨fun c member => mem_bareAlphabet.1 c ?_, fun c member => mem_bareAlphabet.1 c ?_,
    fun c member => (mem_bareAlphabet.2.1 c (site.mem_of_mem_address c member)).1, fixed, by simp⟩
  · exact List.mem_cons_of_mem _ (mem_secretAlphabet_of_mem_user member)
  · exact List.mem_cons_of_mem _ (login.mem_of_mem_secret c member)

/-- Other characters than those of the protected pieces cut the code into parts. -/
theorem cuts {c : Char} (foreign : c ∉ pieceAlphabet) :
    Cuts (titlePieces login.text) (login.known site) c where
  titles piece member inside :=
    foreign (login.mem_pieceAlphabet_of_mem_titlePieces piece member c inside)
  known piece member inside :=
    foreign (mem_bareAlphabet.2.2 c (login.mem_of_mem_known site piece member c inside))
  cores core member inside := by
    have all : ∀ core ∈ cores, ∀ c ∈ core, c ∈ pieceAlphabet := by decide
    exact foreign (all core member c inside)

/-! Literals -/

/-- A title has more letters and digits than either value. -/
theorem countP_lt_of_mem_titlePieces {piece value : List Char}
    (member : piece ∈ titlePieces login.text) (given : value = login.user ∨ value = login.secret) :
    value.countP Char.isAlphanum < piece.countP Char.isAlphanum := by
  have text := login.countP_values_lt
  have name := login.countP_text_le_name
  have className := login.countP_name_le_className
  have more (title : List Char) (listed : title ∈ login.titles) :
      login.text.toList.countP Char.isAlphanum ≤ title.countP Char.isAlphanum := by
    simp only [titles, List.mem_cons, List.not_mem_nil, or_false] at listed
    rcases listed with same | same | same <;> rw [same]
    exacts [name, name.trans className]
  have fewer : value.countP Char.isAlphanum < login.text.toList.countP Char.isAlphanum := by
    rcases given with rfl | rfl <;> omega
  obtain ⟨title, listed, rfl | ⟨mark, rfl⟩⟩ := login.mem_titlePieces_iff.mp member
  · exact Nat.lt_of_lt_of_le fewer (more piece listed)
  · rw [quoteChars_of_isPlain (isPlain_of_alphabet (login.mem_of_mem_titles title listed)),
      List.countP_append, List.countP_cons]
    have := more title listed
    omega

/-- The literal of a value holds no title. -/
theorem not_infix_quoteChars_value {piece value : List Char}
    (member : piece ∈ titlePieces login.text) (given : value = login.user ∨ value = login.secret)
    (mark : Mark) : ¬ piece <:+: mark.char :: value ++ [mark.char] := by
  intro inside
  have delimiter : mark.char.isAlphanum = false := by cases mark <;> rfl
  have more := login.countP_lt_of_mem_titlePieces member given
  have fewer := inside.sublist.countP_le (p := Char.isAlphanum)
  simp only [List.countP_append, List.countP_cons, List.countP_nil, delimiter,
    Bool.false_eq_true, if_false] at fewer
  omega

/-- The literal of a value is quiet: the value is the longest known text in it. -/
theorem quietAt_value {value : List Char} (given : value = login.user ∨ value = login.secret)
    (mark : Mark) : login.QuietAt site (quoteChars mark value) := by
  have listed : value ∈ login.known site := by
    rw [known_eq]
    rcases given with rfl | rfl <;> simp
  have nonempty : value ≠ [] := by
    rcases given with rfl | rfl
    exacts [login.user_ne, login.secret_ne]
  have alphabet := login.mem_of_mem_known site value listed
  have foreign := char_notMem_bareAlphabet mark
  obtain ⟨c, rest, same⟩ := List.exists_cons_of_ne_nil nonempty
  rw [quoteChars_of_isPlain (isPlain_of_alphabet alphabet), ← List.singleton_append]
  refine quiet_of_known (c := c) (fun other member inside => ?_) listed (by rw [same]; rfl) ?_
    (fun other member inside => ?_) ?_ ?_
  · exact login.not_infix_quoteChars_value member given mark inside
  · rw [List.mem_singleton]
    rintro rfl
    exact foreign (alphabet _ (same ▸ List.mem_cons_self))
  · by_cases empty : other = []
    · exact .inl (by simp [empty, List.length_pos_iff, nonempty])
    · have within := infix_of_infix_delimited empty
        (fun delimits => foreign (login.mem_of_mem_known site other member _ delimits)) inside
      exact (Nat.lt_or_eq_of_le within.length_le).imp_right within.eq_of_length
  all_goals cases mark <;> decide

/-- The literal of a title is quiet: it is blanked out as a whole. -/
theorem quietAt_title {title : List Char} (listed : title ∈ login.titles) (mark : Mark) :
    login.QuietAt site (quoteChars mark title) :=
  quiet_of_mem_titles (login.mem_titlePieces_iff.mpr ⟨title, listed, .inr ⟨mark, rfl⟩⟩)

/-- Every title holds one of these. -/
theorem exists_sign_of_mem_titlePieces {piece : List Char}
    (member : piece ∈ titlePieces login.text) : ' ' ∈ piece ∨ '_' ∈ piece ∨ 'L' ∈ piece := by
  obtain ⟨name, sameName⟩ := login.exists_name_eq
  obtain ⟨className, sameClass⟩ := login.exists_className_eq
  have title (text : List Char) (listed : text ∈ login.titles) :
      ' ' ∈ text ∨ '_' ∈ text ∨ 'L' ∈ text := by
    simp only [titles, List.mem_cons, List.not_mem_nil, or_false] at listed
    rcases listed with same | same | same
    · rw [same, toList_text]
      exact .inl (List.mem_append_left _ (by decide))
    · rw [same, sameName]
      exact .inr (.inl (by simp))
    · rw [same, sameClass]
      exact .inr (.inr (by simp))
  obtain ⟨text, listed, rfl | ⟨mark, rfl⟩⟩ := login.mem_titlePieces_iff.mp member
  · exact title piece listed
  · rw [quoteChars_of_isPlain (isPlain_of_alphabet (login.mem_of_mem_titles text listed))]
    simp only [List.mem_append, List.mem_cons]
    exact (title text listed).imp (fun inside => .inl (.inr inside)) fun either =>
      either.imp (fun inside => .inl (.inr inside)) fun inside => .inl (.inr inside)

/-- What has neither colons nor slashes and stands in the literal of the login page is shorter than
the address. -/
theorem length_lt_address {piece : List Char} (colon : ':' ∉ piece) (slash : '/' ∉ piece)
    (mark : Mark) (inside : piece <:+: mark.char :: (site.address.toList ++ path) ++ [mark.char]) :
    piece.length < site.address.toList.length := by
  have parts : mark.char :: (site.address.toList ++ path) ++ [mark.char] =
      (mark.char :: ['h', 't', 't', 'p', 's']) ++ [':'] ++ ([] ++ ['/'] ++ ([] ++ ['/'] ++
        (site.host.toList ++ ['/'] ++ (['l', 'o', 'g', 'i', 'n'] ++ [mark.char])))) := by
    simp [PlainSite.toList_address, path]
  have long := site.length_host_lt_length_address
  by_cases empty : piece = []
  · rw [empty, List.length_nil]
    omega
  · have guardColon := Chars.guards_singleton empty colon
    have guardSlash := Chars.guards_singleton empty slash
    rw [parts, Chars.infix_append_guard_append_iff guardColon,
      Chars.infix_append_guard_append_iff guardSlash,
      Chars.infix_append_guard_append_iff guardSlash,
      Chars.infix_append_guard_append_iff guardSlash] at inside
    have fixed (text : List Char) (few : text.length ≤ 6) (within : piece <:+: text) :
        piece.length < site.address.toList.length :=
      Nat.lt_of_le_of_lt (within.length_le.trans few) (Nat.lt_trans (by decide) long.1)
    rcases inside with within | within | within | within | within
    · exact fixed _ (by simp) within
    · exact fixed _ (by simp) within
    · exact fixed _ (by simp) within
    · exact Nat.lt_of_le_of_lt within.length_le long.2
    · exact fixed _ (by simp) within

/-- The literal of the login page is quiet: the address is the longest known text in it. -/
theorem quietAt_address (mark : Mark) :
    login.QuietAt site (quoteChars mark (site.address.toList ++ path)) := by
  have alphabet : ∀ c ∈ site.address.toList ++ path, c ∈ bareAlphabet ∧ c ∉ [' ', '_', 'L'] := by
    have fixed : ∀ c ∈ path, c ∈ PlainSite.alphabet := by decide
    rw [List.forall_mem_append]
    exact ⟨fun c member => mem_bareAlphabet.2.1 c (site.mem_of_mem_address c member),
      fun c member => mem_bareAlphabet.2.1 c (fixed c member)⟩
  have unsigned (c : Char) (sign : c ∈ [' ', '_', 'L']) :
      c ∉ mark.char :: (site.address.toList ++ path) ++ [mark.char] := by
    have delimiter : ∀ c ∈ [' ', '_', 'L'], c ≠ mark.char := by cases mark <;> decide
    simp only [List.mem_append, List.mem_cons, List.not_mem_nil, or_false, not_or]
    refine ⟨⟨delimiter c sign, ?_⟩, delimiter c sign⟩
    rw [← not_or, ← List.mem_append]
    exact fun member => (alphabet c member).2 sign
  have foreign := char_notMem_bareAlphabet mark
  have listed : site.address.toList ∈ login.known site := by
    rw [known_eq]
    simp
  have begins : site.address.toList.head? = some 'h' := by
    rw [PlainSite.toList_address]
    rfl
  have parts : mark.char :: (site.address.toList ++ path) ++ [mark.char] =
      [mark.char] ++ site.address.toList ++ (path ++ [mark.char]) := by simp
  rw [quoteChars_of_isPlain (isPlain_of_alphabet fun c member => (alphabet c member).1), parts]
  rw [parts] at unsigned
  refine quiet_of_known (fun other member inside => ?_) listed begins
    (by cases mark <;> decide) (fun other member inside => ?_) ?_ ?_
  · rcases login.exists_sign_of_mem_titlePieces member with sign | sign | sign <;>
      exact unsigned _ (by simp) (inside.subset sign)
  · have separators : ':' ∉ secretAlphabet ∧ '/' ∉ secretAlphabet := by decide
    have short (alphabet : ∀ c ∈ other, c ∈ secretAlphabet) :
        other.length < site.address.toList.length :=
      length_lt_address site (fun colon => separators.1 (alphabet _ colon))
        (fun slash => separators.2 (alphabet _ slash)) mark (parts ▸ inside)
    rw [known_eq] at member
    simp only [List.mem_cons, List.not_mem_nil, or_false] at member
    rcases member with rfl | rfl | rfl | rfl
    · exact .inl (short fun c => mem_secretAlphabet_of_mem_user)
    · exact .inl (short login.mem_of_mem_secret)
    · exact .inr rfl
    · exact .inl (Nat.lt_trans (by decide) site.length_host_lt_length_address.1)
  all_goals cases mark <;> decide

/-! Names within words -/

/-- Where the second word of the instruction begins. -/
def gap : List Char := [' ', 'w']

theorem gap_infix_text : gap <:+: login.text.toList := by
  rw [toList_text]
  exact ⟨['l', 'o', 'g', 'i', 'n'], _, rfl⟩

/-- A name without spaces leaves no such gap. -/
theorem not_gap_infix {front name : List Char} (back : List Char) {c : Char} (first : c ∉ gap)
    (spaceless : ' ' ∉ name) (inFront : ¬ gap <:+: front) (inBack : ¬ gap <:+: back) :
    ¬ gap <:+: front ++ c :: name ++ back := by
  have parts : front ++ c :: name ++ back = front ++ [c] ++ (name ++ back) := by simp
  rw [parts, Chars.infix_append_guard_append_iff (Chars.guards_singleton (by decide) first), gap,
    Chars.cons_infix_append_iff spaceless, not_or]
  exact ⟨inFront, inBack⟩

/-- Only bare names stand in words without delimiters and such gaps. -/
theorem eq_name_of_infix {piece words : List Char} (member : piece ∈ titlePieces login.text)
    (inside : piece <:+: words) (undelimited : ∀ mark : Mark, mark.char ∉ words)
    (closed : ¬ gap <:+: words) :
    piece = login.name.toList ∨ piece = login.className.toList := by
  obtain ⟨title, listed, rfl | ⟨mark, rfl⟩⟩ := login.mem_titlePieces_iff.mp member
  · simp only [titles, List.mem_cons, List.not_mem_nil, or_false] at listed
    refine listed.resolve_left fun same => closed ?_
    exact login.gap_infix_text.trans (same ▸ inside)
  · exact absurd (inside.subset List.mem_cons_self) (undelimited _)

/-- The characters of the name, as far as they matter. -/
theorem notMem_name : ' ' ∉ login.name.toList ∧ 'L' ∉ login.name.toList ∧
    ∀ mark : Mark, mark.char ∉ login.name.toList := by
  have absent (c : Char) (other : ¬ (Name.isNameChar c = true ∨ c = '_')) :
      c ∉ login.name.toList := fun member => other (login.derived_name c member)
  refine ⟨absent ' ' (by decide), absent 'L' (by decide), fun mark => absent _ ?_⟩
  cases mark <;> decide

/-- The characters of the name of the class, as far as they matter. -/
theorem notMem_className : ' ' ∉ login.className.toList ∧ '_' ∉ login.className.toList ∧
    ∀ mark : Mark, mark.char ∉ login.className.toList := by
  have absent (c : Char) (other : ¬ c.isAlphanum = true) : c ∉ login.className.toList :=
    fun member => other (login.isAlphanum_className c member)
  refine ⟨absent ' ' (by decide), absent '_' (by decide), fun mark => absent _ ?_⟩
  cases mark <;> decide

/-- The name of the test is quiet behind words that have no part of it. -/
theorem quietAt_name {front : List Char} (foreign : ∀ c ∈ ['l', 'L', '\'', '"'], c ∉ front)
    (closed : ¬ gap <:+: front) (safe : harmless front = true) :
    login.QuietAt site (front ++ login.name.toList) := by
  obtain ⟨spaceless, small, undelimited⟩ := login.notMem_name
  obtain ⟨rest, same⟩ := login.exists_name_eq
  have ungapped : ¬ gap <:+: front ++ login.name.toList := by
    rw [same] at spaceless ⊢
    have parted := not_gap_infix [] (c := 'l') (by decide)
      (fun member => spaceless (List.mem_cons_of_mem _ member)) closed (by decide)
    rwa [List.append_nil] at parted
  have delimiter (mark : Mark) : mark.char ∉ front ++ login.name.toList := by
    rw [List.mem_append, not_or]
    exact ⟨foreign _ (by cases mark <;> decide), undelimited mark⟩
  rw [← List.append_nil (front ++ login.name.toList)]
  refine quiet_of_title (c := 'l') ?_ (by rw [same]; rfl) (foreign 'l' (by decide))
    (fun other member inside => ?_) safe (by decide)
  · exact login.mem_titlePieces_iff.mpr ⟨_, by simp [titles], .inl rfl⟩
  · rw [List.append_nil] at inside
    rcases login.eq_name_of_infix member inside delimiter ungapped with same | same
    · exact .inr same
    · obtain ⟨rest, begins⟩ := login.exists_className_eq
      have capital : 'L' ∈ front ++ login.name.toList :=
        inside.subset (by rw [same, begins]; exact List.mem_cons_self)
      exact absurd capital (by simp [small, foreign 'L'])

/-- The name of the class is quiet between words that have no part of it. -/
theorem quietAt_className {front back : List Char}
    (foreign : ∀ c ∈ ['L', '_', '\'', '"'], c ∉ front ∧ c ∉ back) (closed : ¬ gap <:+: front)
    (closed' : ¬ gap <:+: back) (safe : harmless front = true) (safe' : harmless back = true) :
    login.QuietAt site (front ++ login.className.toList ++ back) := by
  obtain ⟨spaceless, joint, undelimited⟩ := login.notMem_className
  obtain ⟨rest, same⟩ := login.exists_className_eq
  have ungapped : ¬ gap <:+: front ++ login.className.toList ++ back := by
    rw [same] at spaceless ⊢
    exact not_gap_infix back (c := 'L') (by decide)
      (fun member => spaceless (List.mem_cons_of_mem _ member)) closed closed'
  have delimiter (mark : Mark) : mark.char ∉ front ++ login.className.toList ++ back := by
    have outside := foreign mark.char (by cases mark <;> decide)
    simp only [List.mem_append, not_or]
    exact ⟨⟨outside.1, undelimited mark⟩, outside.2⟩
  refine quiet_of_title (c := 'L') ?_ (by rw [same]; rfl) (foreign 'L' (by decide)).1
    (fun other member inside => ?_) safe safe'
  · exact login.mem_titlePieces_iff.mpr ⟨_, by simp [titles], .inl rfl⟩
  · rcases login.eq_name_of_infix member inside delimiter ungapped with same | same
    · obtain ⟨rest, begins⟩ := login.exists_name_eq
      have underscore : '_' ∈ front ++ login.className.toList ++ back :=
        inside.subset (by rw [same, begins]; simp)
      exact absurd underscore (by simp [joint, foreign '_'])
    · exact .inr same

end PlainLogin

end PlainScript
