/-
The plain login: an instruction that gives a user name and a password and nothing else. Both are
taken as they stand, whatever words they hold or end with.
-/

import PlainScript.Proofs.Instruction.Entry
import PlainScript.Proofs.Instruction.Taken

namespace PlainScript

open Regex Sketch Vocabulary

/-- The characters of a user name that needs no quotes. -/
def isUserChar (c : Char) : Bool := c.isAlphanum || ['_', '.', '@', '-'].contains c

/-- The characters of a password that needs no quotes. -/
def isSecretChar (c : Char) : Bool := c.isAlphanum || ['_', '.', '@', '!', '-'].contains c

/-- A user name and a password that need no quotes. -/
structure PlainLogin where
  username : String
  password : String
  username_ne : username ≠ ""
  username_plain : ∀ c ∈ username.toList, isUserChar c = true
  password_ne : password ≠ ""
  password_plain : ∀ c ∈ password.toList, isSecretChar c = true

namespace PlainLogin

/-- The instruction to log in. -/
def text (login : PlainLogin) : String :=
  "login with username " ++ login.username ++ " and password " ++ login.password

/-! The characters of the values -/

def userAlphabet : List Char := [
  'a', 'b', 'c', 'd', 'e', 'f', 'g', 'h', 'i', 'j', 'k', 'l', 'm', 'n', 'o', 'p', 'q', 'r', 's',
  't', 'u', 'v', 'w', 'x', 'y', 'z', 'A', 'B', 'C', 'D', 'E', 'F', 'G', 'H', 'I', 'J', 'K', 'L',
  'M', 'N', 'O', 'P', 'Q', 'R', 'S', 'T', 'U', 'V', 'W', 'X', 'Y', 'Z', '0', '1', '2', '3', '4',
  '5', '6', '7', '8', '9', '_', '.', '@', '-']

def secretAlphabet : List Char := '!' :: userAlphabet

theorem toNat_lt_of_isAlphanum {c : Char} (known : c.isAlphanum = true) : c.toNat < 128 := by
  delta Char.isAlphanum Char.isAlpha Char.isUpper Char.isLower Char.isDigit at known
  simp only [Bool.or_eq_true, Bool.and_eq_true, decide_eq_true_eq, UInt32.le_iff_toNat_le,
    ge_iff_le] at known
  have upper : 'Z'.val.toNat = 90 := rfl
  have lower : 'z'.val.toNat = 122 := rfl
  have digit : '9'.val.toNat = 57 := rfl
  have code : c.toNat = c.val.toNat := rfl
  omega

theorem mem_userAlphabet {c : Char} (plain : isUserChar c = true) : c ∈ userAlphabet := by
  rw [isUserChar, Bool.or_eq_true, List.contains_iff_mem] at plain
  rcases plain with known | mark
  · have all : ∀ code < 128, (Char.ofNat code).isAlphanum = true →
        Char.ofNat code ∈ userAlphabet := by
      decide
    have member := all c.toNat (toNat_lt_of_isAlphanum known)
    rw [Char.ofNat_toNat] at member
    exact member known
  · have all : ∀ c ∈ ['_', '.', '@', '-'], c ∈ userAlphabet := by decide
    exact all c mark

theorem mem_secretAlphabet {c : Char} (plain : isSecretChar c = true) : c ∈ secretAlphabet := by
  rw [isSecretChar, Bool.or_eq_true, List.contains_iff_mem] at plain
  rcases plain with known | mark
  · refine List.mem_cons_of_mem _ (mem_userAlphabet ?_)
    rw [isUserChar, known, Bool.true_or]
  · have all : ∀ c ∈ ['_', '.', '@', '!', '-'], c ∈ secretAlphabet := by decide
    exact all c mark

/-- What passes for all characters of the values, and what they are not. -/
theorem holds_of_mem_alphabet :
    (∀ c ∈ userAlphabet, CharSet.holds ⟨false, lettersAndDigits ++ marks "_.@-"⟩ .full c = true) ∧
      (∀ c ∈ secretAlphabet,
        CharSet.holds ⟨false, lettersAndDigits ++ marks "_.@!-"⟩ .full c = true) ∧
      ∀ c ∈ secretAlphabet, blankSet.holds .full c = false ∧ Text.isBlank c = false := by
  decide

variable (login : PlainLogin)

/-- The characters of the user name. -/
abbrev user : List Char := login.username.toList

/-- The characters of the password. -/
abbrev secret : List Char := login.password.toList

theorem user_ne : login.user ≠ [] := by
  simpa using login.username_ne

theorem secret_ne : login.secret ≠ [] := by
  simpa using login.password_ne

theorem mem_of_mem_user : ∀ c ∈ login.user, c ∈ userAlphabet :=
  fun c member => mem_userAlphabet (login.username_plain c member)

theorem mem_of_mem_secret : ∀ c ∈ login.secret, c ∈ secretAlphabet :=
  fun c member => mem_secretAlphabet (login.password_plain c member)

/-! The sketch of the instruction -/

def verb : List Char := ['l', 'o', 'g', 'i', 'n', ' ', 'w', 'i', 't', 'h', ' ']

def usernameWord : List Char := ['u', 's', 'e', 'r', 'n', 'a', 'm', 'e']

def andWord : List Char := ['a', 'n', 'd']

def passwordWord : List Char := ['p', 'a', 's', 's', 'w', 'o', 'r', 'd']

/-- What stands after the user name. -/
abbrev tail : List Char := ' ' :: (andWord ++ ' ' :: (passwordWord ++ ' ' :: login.secret))

theorem toList_text :
    login.text.toList = verb ++ (usernameWord ++ ' ' :: (login.user ++ login.tail)) := by
  have front : "login with username ".toList = verb ++ (usernameWord ++ [' ']) := by
    simp [verb, usernameWord]
  have middle : " and password ".toList = ' ' :: (andWord ++ ' ' :: (passwordWord ++ [' '])) := by
    simp [andWord, passwordWord]
  unfold text
  simp only [String.toList_append, front, middle, List.append_assoc, List.cons_append,
    List.nil_append]

def tailSketch : Sketch :=
  ofChars (' ' :: andWord ++ ' ' :: passwordWord ++ [' ']) ++ word secretAlphabet

def nameSketch : Sketch := ofChars (usernameWord ++ [' ']) ++ (word userAlphabet ++ tailSketch)

def sketch : Sketch := ofChars verb ++ nameSketch

theorem fits_tail : Fits tailSketch login.tail := by
  refine (fits_ofChars_append_iff _).mpr ⟨login.secret, by simp [tail], ?_⟩
  have drawn := fits_word_append login.secret_ne login.mem_of_mem_secret .nil
  rwa [List.append_nil, List.append_nil] at drawn

theorem fits_name : Fits nameSketch (usernameWord ++ ' ' :: (login.user ++ login.tail)) :=
  (fits_ofChars_append_iff _).mpr ⟨_, by simp,
    fits_word_append login.user_ne login.mem_of_mem_user login.fits_tail⟩

theorem fits_text : Fits sketch login.text.toList := by
  rw [toList_text]
  exact (fits_ofChars_append_iff _).mpr ⟨_, rfl, login.fits_name⟩

/-! Values that the instruction does not give -/

/-- The alternatives that find nothing in the instruction. -/
def absent (alternatives : List Alternative) : Bool :=
  alternatives.all fun alternative => (sketch.after alternative.pattern sketch.places).isEmpty

theorem firstHit_eq_none {alternatives : List Alternative} (nowhere : absent alternatives = true)
    (claimed : Option Span) : Extraction.firstHit alternatives login.text claimed = none := by
  rw [Extraction.firstHit, List.findSome?_eq_none_iff]
  intro alternative member
  have ends := List.isEmpty_iff.mp (List.all_eq_true.mp nowhere alternative member)
  rw [Alternative.hit?, findAll_eq_nil login.fits_text ends, List.findSome?_nil]

/-- Nothing but the two values is found. -/
theorem absent_of_mem : ∀ field ∈ [emails, urls, buttons, expectations, expectedUrls],
    absent field = true := by
  decide +kernel

/-! The pair of values -/

/-- The places around the two values. -/
def nameStart : List Char := ' ' :: (usernameWord.reverse ++ verb.reverse)

def userEnd : List Char := login.user.reverse ++ nameStart

def secretStart : List Char :=
  ' ' :: (passwordWord.reverse ++ ' ' :: (andWord.reverse ++ ' ' :: login.userEnd))

def secretEnd : List Char := login.secret.reverse ++ login.secretStart

/-- Where the user name stands. -/
def userSpan : Span := ⟨⟨nameStart, login.user ++ login.tail⟩, ⟨login.userEnd, login.tail⟩⟩

/-- Where the password stands. -/
def secretSpan : Span := ⟨⟨login.secretStart, login.secret⟩, ⟨login.secretEnd, []⟩⟩

variable {login} {groups : List (Nat × Span)} {next : Next} {out : State}

theorem head?_user {c : Char} {after : List Char} (head : c ∈ (login.user ++ after).head?) :
    c ∈ login.user := by
  obtain ⟨first, rest, same⟩ := List.exists_cons_of_ne_nil login.user_ne
  rw [same, List.cons_append, List.head?_cons, Option.mem_some_iff] at head
  exact same ▸ head ▸ List.mem_cons_self

theorem head?_secret {c : Char} (head : c ∈ login.secret.head?) : c ∈ login.secret :=
  List.mem_of_mem_head? head

theorem mem_secretAlphabet_of_mem_user {c : Char} (member : c ∈ login.user) :
    c ∈ secretAlphabet := List.mem_cons_of_mem _ (login.mem_of_mem_user c member)

/-- The word in front of the user name. -/
theorem run_name :
    (all [wordEdge, caseless "username", blanks]).run
      ⟨⟨verb.reverse, usernameWord ++ ' ' :: (login.user ++ login.tail)⟩, groups⟩ next =
      next ⟨⟨nameStart, login.user ++ login.tail⟩, groups⟩ := by
  rw [run_all_cons, wordEdge, run_anchor rfl, run_all_cons, run_caseless (by simp [usernameWord]),
    run_all_cons, run_blanks, run_all_nil, nameStart]
  intro c head
  exact (holds_of_mem_alphabet.2.2 c (mem_secretAlphabet_of_mem_user (head?_user head))).1

/-- The words between the values. -/
theorem run_tail :
    (all [blanks, phrase ["and", "password"], blanks]).run
      ⟨⟨login.userEnd, login.tail⟩, groups⟩ next = next ⟨⟨login.secretStart, login.secret⟩, groups⟩ := by
  have words : phrase ["and", "password"] = all [caseless "and", blanks, caseless "password"] := rfl
  rw [run_all_cons, run_blanks (by rintro c ⟨rfl⟩; rfl), words, run_all_cons, run_all_cons,
    run_caseless (by simp [andWord]), run_all_cons, run_blanks (by rintro c ⟨rfl⟩; rfl), run_all_cons,
    run_caseless (by simp [passwordWord]), run_all_nil, run_all_cons, run_blanks, run_all_nil,
    secretStart]
  intro c head
  exact (holds_of_mem_alphabet.2.2 c (login.mem_of_mem_secret c (head?_secret head))).1

/-- The user name is read as a whole if what is to follow follows it. -/
theorem run_user (found : next ⟨⟨login.userEnd, login.tail⟩, groups⟩ = some out) :
    (many1 valueChar).run ⟨⟨nameStart, login.user ++ login.tail⟩, groups⟩ next = some out :=
  run_many1_word login.user_ne
    (fun c member => holds_of_mem_alphabet.1 c (login.mem_of_mem_user c member))
    (by rintro c ⟨rfl⟩; rfl) found

theorem run_secret (found : next ⟨⟨login.secretEnd, []⟩, groups⟩ = some out) :
    (many1 secretChar).run ⟨⟨login.secretStart, login.secret⟩, groups⟩ next = some out := by
  have read : (many1 secretChar).run ⟨⟨login.secretStart, login.secret ++ []⟩, groups⟩ next =
      some out :=
    run_many1_word login.secret_ne
      (fun c member => holds_of_mem_alphabet.2.1 c (login.mem_of_mem_secret c member))
      (by simp) found
  rwa [List.append_nil] at read

variable (login)

/-- The pattern of a paired user name takes the user name. -/
theorem run_pairedUsername :
    pairedUsername.pattern.run
      ⟨⟨verb.reverse, usernameWord ++ ' ' :: (login.user ++ login.tail)⟩, []⟩ some =
      some ⟨⟨login.userEnd, login.tail⟩, [(1, login.userSpan)]⟩ := by
  have parts : pairedUsername.pattern = all ([wordEdge, caseless "username", blanks] ++
      [group 1 (many1 valueChar),
        ahead false (all ([blanks, phrase ["and", "password"], blanks] ++ [secretChar]))]) := rfl
  obtain ⟨c, rest, same⟩ := List.exists_cons_of_ne_nil login.secret_ne
  have secret : secretChar.run ⟨⟨login.secretStart, login.secret⟩, [(1, login.userSpan)]⟩ some =
      some ⟨⟨c :: login.secretStart, rest⟩, [(1, login.userSpan)]⟩ := by
    rw [same]
    refine single_of_pass (holds_of_mem_alphabet.2.1 c (login.mem_of_mem_secret c ?_))
    exact same ▸ List.mem_cons_self
  have seen : (all ([blanks, phrase ["and", "password"], blanks] ++ [secretChar])).run
      ⟨⟨login.userEnd, login.tail⟩, [(1, login.userSpan)]⟩ some =
      some ⟨⟨c :: login.secretStart, rest⟩, [(1, login.userSpan)]⟩ := by
    rw [run_all_append, run_tail]
    exact secret
  rw [parts, run_all_append, run_name, run_all_cons, run_group]
  exact run_user (run_ahead seen)

/-- The pattern of a paired password takes the password. -/
theorem run_pairedPassword :
    pairedPassword.pattern.run
      ⟨⟨verb.reverse, usernameWord ++ ' ' :: (login.user ++ login.tail)⟩, []⟩ some =
      some ⟨⟨login.secretEnd, []⟩, [(1, login.secretSpan)]⟩ := by
  have parts : pairedPassword.pattern = all ([wordEdge, caseless "username", blanks] ++
      ([many1 valueChar] ++ ([blanks, phrase ["and", "password"], blanks] ++
        [group 1 (many1 secretChar)]))) := rfl
  rw [parts, run_all_append, run_name, run_all_append]
  refine run_user ?_
  rw [run_all_append, run_tail, run_all_cons, run_group]
  exact run_secret rfl

/-- A pattern that gets nowhere in front of the word for the user name and matches there. -/
theorem search_eq_some {pattern : Regex} {last : State}
    (nowhere : sketch.after pattern (List.range verb.length) = [])
    (found : pattern.run ⟨⟨verb.reverse, usernameWord ++ ' ' :: (login.user ++ login.tail)⟩, []⟩
      some = some last) :
    ∃ start, pattern.search login.text = some ⟨⟨start, last.cursor⟩, last.groups⟩ := by
  have here := searchFrom_of_matchAt (matchAt_eq_some_iff.mpr ⟨last, found, rfl⟩)
  rw [← searchFrom_front login.fits_name nowhere, ← toList_text] at here
  exact ⟨_, here⟩

/-- Neither paired pattern begins to match before the word for the user name. -/
theorem after_eq_nil_of_mem_pair : ∀ alternative ∈ [pairedUsername, pairedPassword],
    sketch.after alternative.pattern (List.range verb.length) = [] := by
  decide

theorem chars_userSpan : login.userSpan.chars = login.user := chars_word login.user

theorem chars_secretSpan : login.secretSpan.chars = login.secret := by
  have word := @chars_word login.secretStart [] login.secret
  rwa [List.append_nil] at word

/-- The password stands behind the user name. -/
theorem overlaps_secretSpan : login.secretSpan.overlaps login.userSpan = false := by
  have behind : ¬ login.secretSpan.start < login.userSpan.stop := by
    simp only [Span.start, Span.stop, secretSpan, userSpan, Cursor.offset, secretStart,
      List.length_cons, List.length_append]
    omega
  rw [Span.overlaps, decide_eq_false behind, Bool.false_and]

/-- A value without blanks is its own trimmed text. -/
theorem trim_eq_self {value : String} (plain : ∀ c ∈ value.toList, c ∈ secretAlphabet) :
    Text.trim value = value := by
  have unblank (c : Char) (member : c ∈ value.toList) : Text.isBlank c = false :=
    (holds_of_mem_alphabet.2.2 c (plain c member)).2
  rw [Text.trim, Chars.trim_eq_self (fun c head => unblank c (List.mem_of_mem_head? head))
    fun c last => unblank c (List.mem_of_getLast? last), String.ofList_toList]

theorem firstHit_usernames :
    Extraction.firstHit usernames login.text none = some ⟨login.username, login.userSpan⟩ := by
  obtain ⟨start, first⟩ := login.search_eq_some
    (after_eq_nil_of_mem_pair pairedUsername (by simp)) login.run_pairedUsername
  have span : login.userSpan.text = login.username := by
    rw [Span.text, chars_userSpan, String.ofList_toList]
  have trimmed : Text.trim login.username = login.username :=
    trim_eq_self fun _ => mem_secretAlphabet_of_mem_user
  have free : ∀ other ∈ (none : Option Span), login.userSpan.IsApart other := by simp
  refine (Extraction.firstHit_of_accepts first ⟨rfl, ?_, .inl rfl, free⟩).trans ?_
  · rw [span]
    exact login.username_ne
  · rw [span, trimmed]

theorem firstHit_passwords :
    Extraction.firstHit passwords login.text (some login.userSpan) =
      some ⟨login.password, login.secretSpan⟩ := by
  obtain ⟨start, first⟩ := login.search_eq_some
    (after_eq_nil_of_mem_pair pairedPassword (by simp)) login.run_pairedPassword
  have span : login.secretSpan.text = login.password := by
    rw [Span.text, chars_secretSpan, String.ofList_toList]
  have apart : ∀ other ∈ some login.userSpan, login.secretSpan.IsApart other := by
    rintro other ⟨rfl⟩
    exact Span.isApart_iff.mpr login.overlaps_secretSpan
  refine (Extraction.firstHit_of_accepts first ⟨rfl, ?_, .inl rfl, apart⟩).trans ?_
  · rw [span]
    exact login.password_ne
  · rw [span, trim_eq_self login.mem_of_mem_secret]

/-! The instruction as a whole -/

/-- Apart from spaces the instruction has only characters of passwords. -/
theorem mem_of_mem_text : ∀ c ∈ login.text.toList, c ∈ ' ' :: secretAlphabet := by
  have words : ∀ c ∈ verb ++ usernameWord ++ andWord ++ passwordWord, c ∈ ' ' :: secretAlphabet := by
    decide
  intro c member
  simp only [List.mem_append] at words
  simp only [toList_text, List.mem_append, List.mem_cons] at member
  rcases member with verb | name | rfl | user | rfl | joint | rfl | name | rfl | secret
  · exact words c (.inl (.inl (.inl verb)))
  · exact words c (.inl (.inl (.inr name)))
  · exact List.mem_cons_self
  · exact List.mem_cons_of_mem _ (mem_secretAlphabet_of_mem_user user)
  · exact List.mem_cons_self
  · exact words c (.inl (.inr joint))
  · exact List.mem_cons_self
  · exact words c (.inr name)
  · exact List.mem_cons_self
  · exact List.mem_cons_of_mem _ (login.mem_of_mem_secret c secret)

/-- Nothing with another character stands in the instruction. -/
theorem not_infix_text {piece : List Char} {c : Char} (member : c ∈ piece)
    (foreign : c ∉ ' ' :: secretAlphabet) : ¬ piece <:+: login.text.toList :=
  fun inside => foreign (login.mem_of_mem_text c (inside.subset member))

theorem opening_not_infix_text : ¬ Lock.opening <:+: login.text.toList := by
  rw [Lock.opening_eq]
  exact login.not_infix_text List.mem_cons_self (by decide)

theorem ofText_text : Lock.ofText login.text = [] :=
  Lock.ofText_eq_nil login.opening_not_infix_text

theorem strip_text : Lock.strip login.text = login.text := by
  have ends : login.text.toList = (verb ++ (usernameWord ++ ' ' :: (login.user ++ ' ' ::
      (andWord ++ ' ' :: (passwordWord ++ [' ']))))) ++ login.secret := by
    simp only [toList_text, tail, List.append_assoc, List.cons_append, List.nil_append]
  have trimmed : Chars.trim login.text.toList = login.text.toList := by
    refine Chars.trim_eq_self ?_ ?_
    · rw [toList_text]
      rintro c ⟨rfl⟩
      rfl
    · intro c last
      rw [ends, List.getLast?_append_of_ne_nil _ login.secret_ne] at last
      exact (holds_of_mem_alphabet.2.2 c
        (login.mem_of_mem_secret c (List.mem_of_getLast? last))).2
  rw [Lock.strip_eq_trim login.opening_not_infix_text, Text.trim, trimmed, String.ofList_toList]

end PlainLogin

namespace PlainLogin

open Extraction

variable (login : PlainLogin)

/-- The values that the instruction gives. -/
def values : Values :=
  { username := some login.username, password := some login.password }

theorem toList_values : login.values.toList =
    [("username", login.username), ("password", login.password)] := by
  have user : login.username.isEmpty = false := by
    simpa [String.isEmpty_iff] using login.username_ne
  have secret : login.password.isEmpty = false := by
    simpa [String.isEmpty_iff] using login.password_ne
  simp only [Values.toList, ValueField.all, values, Values.get, List.filterMap_cons,
    List.filterMap_nil, Option.filter_some, Option.filter_none, Option.map_some, Option.map_none,
    user, secret, Bool.not_false, if_true]
  rfl

/-- Exactly the user name and the password are extracted. -/
theorem extract_text : extract login.text = login.values := by
  have missed (field : ValueField)
      (other : alternatives field ∈ [emails, urls, buttons, expectations, expectedUrls]) :
      (extract login.text).get field = none := by
    rw [get_extract, strip_text, login.firstHit_eq_none (absent_of_mem _ other), Option.map_none]
  have username : (extract login.text).get .username = some login.username := by
    rw [get_extract, strip_text]
    exact congrArg (Option.map Hit.value) login.firstHit_usernames
  have password : (extract login.text).get .password = some login.password := by
    rw [get_extract, strip_text, claimedFor, if_pos rfl, login.firstHit_usernames]
    exact congrArg (Option.map Hit.value) login.firstHit_passwords
  apply Values.ext_get
  intro field
  cases field with
  | username => exact username
  | password => exact password
  | email | url | button | expected | expectedUrl => exact missed _ (by simp [Vocabulary.alternatives])

end PlainLogin

end PlainScript
