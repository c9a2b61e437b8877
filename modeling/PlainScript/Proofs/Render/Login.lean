/-
The code of a plain login, line by line: every line is a comment, or it is quiet. The words of the
dialect hold no addition of their own, and the brackets around literals cut them off.
-/

import PlainScript.Proofs.Check.Login
import PlainScript.Proofs.Render.Code
import PlainScript.Proofs.Resolver.Login

namespace PlainScript

open Literal Strict

/-- The options that name a dialect and leave all else as it is. -/
def Dialect.defaults (dialect : Dialect) : RenderOptions :=
  { framework := dialect.framework.name, language := dialect.language }

/-- The timeout of those options, as the dialect tells it. -/
def Dialect.defaultTimeout : Dialect → String
  | seleniumPython => "30"
  | _ => "30000"

theorem Dialect.timeoutText_defaults (dialect : Dialect) :
    dialect.timeoutText dialect.defaults.timeout = .ok dialect.defaultTimeout := by
  cases dialect <;> decide +kernel

theorem Dialect.find_defaults (dialect : Dialect) :
    Dialect.find dialect.defaults.framework dialect.defaults.language = .ok dialect := by
  cases dialect <;> rfl

/-- With these options every case has its code. -/
theorem render_defaults (case : TestCase) (dialect : Dialect) :
    render case dialect.defaults =
      .ok ⟨dialect.code dialect.defaults case dialect.defaultTimeout, dialect.framework.name,
        dialect.language, dialect.dependencies, dialect.setup case.heading⟩ :=
  (render_eq_ok_iff dialect.find_defaults).mpr ⟨_, dialect.timeoutText_defaults, rfl⟩

namespace PlainLogin

variable (login : PlainLogin) (site : PlainSite)

/-! Words without additions -/

/-- The text has neither line ends nor additions. -/
def isFrame (text : List Char) : Bool :=
  harmless text && text.all fun c => !Text.isLineEnd c

/-- Behind the text the code is cut. -/
def opens (text : List Char) : Bool :=
  isFrame text && text.getLast?.any fun c => decide (c ∉ pieceAlphabet)

/-- In front of the text the code is cut. -/
def closes (text : List Char) : Bool :=
  isFrame text && text.head?.any fun c => decide (c ∉ pieceAlphabet)

theorem isFrame_iff (text : List Char) : isFrame text = true ↔
    harmless text = true ∧ ∀ c ∈ text, Text.isLineEnd c = false := by
  simp [isFrame]

/-- A line that the check finds nothing in: it is one line and a comment, or quiet. -/
structure Settled (line : String) : Prop where
  unbroken : ∀ c ∈ line.toList, Text.isLineEnd c = false
  quiet : isComment line.toList = false → login.QuietAt site line.toList

variable {login site}

theorem Settled.of_frame {line : String} (safe : isFrame line.toList = true) :
    Settled login site line := by
  rw [isFrame_iff] at safe
  exact ⟨safe.2, fun _ => quiet_of_harmless safe.1⟩

theorem Settled.of_ofList {chars : List Char} (safe : isFrame chars = true) :
    Settled login site (.ofList chars) :=
  .of_frame (String.toList_ofList ▸ safe)

theorem Settled.of_comment {line : String} (comment : isComment line.toList = true)
    (unbroken : ∀ c ∈ line.toList, Text.isLineEnd c = false) : Settled login site line :=
  ⟨unbroken, fun other => absurd other (by simp [comment])⟩

/-- A part between words is judged on its own. -/
theorem quietAt_between {front part back : List Char} (opening : opens front = true)
    (closing : closes back = true) (quiet : login.QuietAt site part) :
    login.QuietAt site (front ++ part ++ back) := by
  simp only [opens, closes, Bool.and_eq_true, isFrame_iff, Option.any_eq_true,
    decide_eq_true_eq] at opening closing
  obtain ⟨⟨safe, -⟩, c, last, foreign⟩ := opening
  obtain ⟨⟨safe', -⟩, d, first, foreign'⟩ := closing
  obtain ⟨init, rfl⟩ := List.getLast?_eq_some_iff.mp last
  obtain ⟨rest, rfl⟩ := List.head?_eq_some_iff.mp first
  have parts : init ++ [c] ++ part ++ d :: rest = init ++ c :: (part ++ d :: rest) := by simp
  rw [parts]
  refine (quiet_around_iff (login.cuts site foreign) (login.cuts site foreign') ?_ ?_).mpr quiet
  · exact harmless_of_infix (List.prefix_append _ _).isInfix safe
  · exact harmless_of_infix (List.suffix_cons _ _).isInfix safe'

/-- What is cut off behind a part is judged on its own. -/
theorem quietAt_append {part back : List Char} (closing : closes back = true)
    (quiet : login.QuietAt site part) : login.QuietAt site (part ++ back) := by
  simp only [closes, Bool.and_eq_true, isFrame_iff, Option.any_eq_true, decide_eq_true_eq]
    at closing
  obtain ⟨⟨safe, -⟩, c, first, foreign⟩ := closing
  obtain ⟨rest, rfl⟩ := List.head?_eq_some_iff.mp first
  refine (quiet_append_cons_iff (login.cuts site foreign)).mpr ⟨quiet, quiet_of_harmless ?_⟩
  exact harmless_of_infix (List.suffix_cons _ _).isInfix safe

theorem isLineEnd_of_mem_bareAlphabet : ∀ c ∈ bareAlphabet, Text.isLineEnd c = false := by
  decide

/-- A literal between words. -/
theorem Settled.of_literal {front back : String} {value : List Char} (mark : Mark)
    (opening : opens front.toList = true) (closing : closes back.toList = true)
    (alphabet : ∀ c ∈ value, c ∈ bareAlphabet)
    (quiet : login.QuietAt site (quoteChars mark value)) :
    Settled login site (front ++ .ofList (quoteChars mark value) ++ back) := by
  have characters : (front ++ .ofList (quoteChars mark value) ++ back).toList =
      front.toList ++ quoteChars mark value ++ back.toList := by
    simp
  constructor
  · have delimiter (mark : Mark) : Text.isLineEnd mark.char = false := by cases mark <;> rfl
    simp only [opens, closes, Bool.and_eq_true, isFrame_iff] at opening closing
    rw [characters, quoteChars_of_isPlain (isPlain_of_alphabet alphabet)]
    simp only [List.forall_mem_append, List.forall_mem_cons]
    exact ⟨⟨opening.1.2, ⟨delimiter mark, fun c member =>
      isLineEnd_of_mem_bareAlphabet c (alphabet c member)⟩, delimiter mark, by simp⟩,
      closing.1.2⟩
  · rw [characters]
    exact fun _ => quietAt_between opening closing quiet

theorem Settled.of_indented {indent front back : String} {value : List Char} (mark : Mark)
    (opening : opens (indent ++ front).toList = true) (closing : closes back.toList = true)
    (alphabet : ∀ c ∈ value, c ∈ bareAlphabet)
    (quiet : login.QuietAt site (quoteChars mark value)) :
    Settled login site (indent ++ (front ++ .ofList (quoteChars mark value) ++ back)) := by
  rw [← String.append_assoc, ← String.append_assoc]
  exact .of_literal mark opening closing alphabet quiet

/-! Steps -/

/-- Both script languages of a framework have the same lines of steps. -/
theorem forall_line {P : String → Prop} {base : String} {step : Step}
    (all : ∀ dialect ∈ [Dialect.playwrightTypeScript, .playwrightPython, .seleniumPython,
      .seleniumJava, .cypressTypeScript],
        P (dialect.indent ++ dialect.line (dialect.statement base step))) (dialect : Dialect) :
    P (dialect.indent ++ dialect.line (dialect.statement base step)) := by
  cases dialect with
  | playwrightTypeScript | playwrightJavaScript => exact all .playwrightTypeScript (by simp)
  | cypressTypeScript | cypressJavaScript => exact all .cypressTypeScript (by simp)
  | _ => exact all _ (by simp)

variable (login site)

/-- The address of the login page. -/
theorem toList_targetUrl :
    (targetUrl site.address "/login").toList = site.address.toList ++ path := by
  have relative : isWebAddress "/login" = false := by
    simp [isWebAddress, Text.startsWith, List.isPrefixOf]
  have absolute : isWebAddress site.address = true := by
    have secure : "https://".toList.isPrefixOf site.address.toList = true := by
      rw [PlainSite.address, String.toList_append, List.isPrefixOf_iff_prefix]
      exact List.prefix_append _ _
    rw [isWebAddress, Text.startsWith, Text.startsWith, secure, Bool.or_true]
  have kept : dropLastSlashes site.address = site.address := by
    have ends : site.address.toList.getLast? = site.host.toList.getLast? := by
      rw [PlainSite.address, String.toList_append,
        List.getLast?_append_of_ne_nil _ (by simpa using site.host_ne)]
    rw [dropLastSlashes, Chars.trimRightWhere_eq_self, String.ofList_toList]
    intro c last
    rw [ends] at last
    have plain := site.host_plain c (List.mem_of_mem_getLast? last)
    rw [beq_eq_false_iff_ne]
    rintro rfl
    exact absurd plain (by decide)
  have rest : dropSlashes "/login" = "login" := by
    simp [dropSlashes, List.dropWhile]
  rw [targetUrl, relative, if_neg Bool.false_ne_true, if_pos absolute, joinUrl, kept, rest]
  simp [path]

/-- The visit of the login page. -/
theorem settled_goto (dialect : Dialect) : Settled login site (dialect.indent ++
    dialect.line (dialect.statement site.address (.goto "/login"))) := by
  have alphabet : ∀ c ∈ (targetUrl site.address "/login").toList, c ∈ bareAlphabet := by
    have known := login.mem_of_mem_known site
    rw [known_eq] at known
    rw [toList_targetUrl, List.forall_mem_append]
    exact ⟨known _ (by simp), known _ (by simp)⟩
  have quiet (mark : Mark) :
      login.QuietAt site (quoteChars mark (targetUrl site.address "/login").toList) := by
    rw [toList_targetUrl]
    exact login.quietAt_address site mark
  refine forall_line ?_ dialect
  simp only [List.forall_mem_cons]
  exact ⟨.of_indented .single (by decide) (by decide) alphabet (quiet _),
    .of_indented .single (by decide) (by decide) alphabet (quiet _),
    .of_indented .double (by decide) (by decide) alphabet (quiet _),
    .of_indented .double (by decide) (by decide) alphabet (quiet _),
    .of_indented .single (by decide) (by decide) alphabet (quiet _), by simp⟩

theorem statement_fill (dialect : Dialect) (base label : String) {value : String}
    (nonempty : value ≠ "") : dialect.statement base (.fill (.label label) value) =
      .fill (dialect.target "fill" (some (.label label))) value := by
  have filled : filled (some value) = some value := (filled_eq_some_iff _ _).mpr ⟨rfl, nonempty⟩
  simp [Dialect.statement, Step.fill, Step.kind?, Action.ofName?, filled]

/-- A call up to the bracket in front of its last argument. -/
def isCall (text : List Char) : Bool :=
  opens text && text.getLast? == some '(' && (Chars.trimLeft text).head?.any Char.isAlpha

/-- The end of a call behind its last argument. -/
def isCallEnd (text : List Char) : Bool := closes text && text.head? == some ')'

/-- The line is a call whose last argument is the literal of the value. -/
def IsCallWith (value : List Char) (line : String) : Prop :=
  ∃ front back mark, line = front ++ .ofList (quoteChars mark value) ++ back ∧
    isCall front.toList = true ∧ isCallEnd back.toList = true

theorem isCallWith_indented {indent front back : String} {value : List Char} (mark : Mark)
    (call : isCall (indent ++ front).toList = true) (callEnd : isCallEnd back.toList = true) :
    IsCallWith value (indent ++ (front ++ .ofList (quoteChars mark value) ++ back)) :=
  ⟨indent ++ front, back, mark, by rw [← String.append_assoc, ← String.append_assoc], call, callEnd⟩

/-- The filling in of a value is a call. -/
theorem isCallWith_fill (dialect : Dialect) (base : String) {label value : String}
    (listed : label = "Username" ∨ label = "Password") (nonempty : value ≠ "") :
    IsCallWith value.toList (dialect.indent ++
      dialect.line (dialect.statement base (.fill (.label label) value))) := by
  refine forall_line ?_ dialect
  simp only [List.forall_mem_cons, statement_fill _ base label nonempty]
  rcases listed with rfl | rfl <;>
    exact ⟨isCallWith_indented .single (by decide +kernel) (by decide +kernel),
      isCallWith_indented .single (by decide +kernel) (by decide +kernel),
      isCallWith_indented .double (by decide +kernel) (by decide +kernel),
      isCallWith_indented .double (by decide +kernel) (by decide +kernel),
      isCallWith_indented .single (by decide +kernel) (by decide +kernel), by simp⟩

theorem settled_fill (dialect : Dialect) (base : String) {label value : String}
    (listed : label = "Username" ∨ label = "Password")
    (given : value = login.username ∨ value = login.password) :
    Settled login site (dialect.indent ++
      dialect.line (dialect.statement base (.fill (.label label) value))) := by
  have nonempty : value ≠ "" := by
    rcases given with rfl | rfl
    exacts [login.username_ne, login.password_ne]
  have alphabet : ∀ c ∈ value.toList, c ∈ bareAlphabet := by
    refine login.mem_of_mem_known site value.toList ?_
    rw [known_eq]
    rcases given with rfl | rfl <;> simp
  obtain ⟨front, back, mark, same, call, callEnd⟩ := isCallWith_fill dialect base listed nonempty
  rw [isCall, Bool.and_eq_true, Bool.and_eq_true] at call
  rw [isCallEnd, Bool.and_eq_true] at callEnd
  rw [same]
  exact .of_literal mark call.1.1 callEnd.1 alphabet
    (login.quietAt_value site (given.imp (congrArg String.toList) (congrArg String.toList)) mark)

/-- The click on the login button and the checks after it hold no text of the instruction. -/
theorem settled_of_closed (dialect : Dialect) (base : String) {step : Step}
    (closed : step = .click (.role (some "button") (some "Login")) ∨
      ∃ assertion ∈ checks, step = .check assertion) : Settled login site (dialect.indent ++
        dialect.line (dialect.statement base step)) := by
  have all : ∀ step ∈ Step.click (.role (some "button") (some "Login")) :: checks.map .check,
      ∀ dialect ∈ [Dialect.playwrightTypeScript, .playwrightPython, .seleniumPython,
        .seleniumJava, .cypressTypeScript],
        isFrame (dialect.indent ++ dialect.line (dialect.statement "" step)).toList = true := by
    simp only [checks, List.map_cons, List.map_nil, List.forall_mem_cons, List.not_mem_nil,
      IsEmpty.forall_iff, implies_true, and_true]
    and_intros <;> decide +kernel
  have listed : step ∈ Step.click (.role (some "button") (some "Login")) :: checks.map .check := by
    simpa [eq_comm] using closed
  have statement (dialect : Dialect) :
      dialect.statement base step = dialect.statement "" step := by
    rcases closed with rfl | ⟨assertion, -, rfl⟩ <;> rfl
  refine forall_line (fun dialect member => .of_frame ?_) dialect
  rw [statement]
  exact all step listed dialect member

/-! Comments -/

/-- Behind the mark of the dialect everything is comment. -/
theorem isComment_comment (dialect : Dialect) (text : List Char) :
    isComment (dialect.comment.toList ++ text) = true ∧
      isComment (dialect.indent.toList ++ (dialect.comment.toList ++ text)) = true := by
  cases dialect <;>
    simp [Dialect.comment, Dialect.indent, isComment, Chars.trimLeft, Text.isBlank]

/-- A comment without line ends. -/
theorem settled_comment (dialect : Dialect) {text : String}
    (unbroken : ∀ c ∈ text.toList, Text.isLineEnd c = false) :
    Settled login site (dialect.comment ++ text) ∧
      Settled login site (dialect.indent ++ (dialect.comment ++ text)) := by
  have mark : ∀ c ∈ dialect.indent.toList ++ dialect.comment.toList, Text.isLineEnd c = false := by
    cases dialect <;> simp [Dialect.indent, Dialect.comment, Text.isLineEnd]
  have comment := isComment_comment dialect text.toList
  rw [List.forall_mem_append] at mark
  constructor <;> refine .of_comment ?_ ?_ <;>
    simp only [String.toList_append, List.forall_mem_append]
  exacts [comment.1, ⟨mark.2, unbroken⟩, comment.2, ⟨mark.1, mark.2, unbroken⟩]

/-- The heading of the case. -/
def heading : Heading := Resolver.heading login.text site.address

theorem heading_eq : login.heading site =
    ⟨login.name, site.address, some login.text, Tags.ofText login.text⟩ := by
  rw [heading, Resolver.heading, strip_text, name]

theorem title_heading : (login.heading site).title = login.text := by
  have nonempty : login.text.isEmpty = false := by
    rw [← Bool.not_eq_true, String.isEmpty_iff, ← String.toList_eq_nil_iff, toList_text]
    simp [verb]
  rw [Heading.title, heading_eq, Option.getD_some, oneLine_text, nonempty,
    if_neg Bool.false_ne_true]

/-- Each tag is one of a fixed list. -/
theorem mem_tags {tag : String} (member : tag ∈ (login.heading site).tags) :
    tag ∈ Tags.cues.map (·.1) := by
  rw [heading_eq, Tags.ofText] at member
  obtain ⟨cue, inCues, rfl⟩ := List.mem_map.mp member
  exact List.mem_map_of_mem (List.mem_filter.mp inCues).1

theorem settled_header (dialect : Dialect) (options : RenderOptions) :
    ∀ line ∈ dialect.header options (login.heading site), Settled login site line := by
  have title : ∀ c ∈ (" Test: " ++ (login.heading site).title).toList,
      Text.isLineEnd c = false := by
    have words : ∀ c ∈ " Test: ".toList, Text.isLineEnd c = false := by decide
    rw [title_heading, String.toList_append, List.forall_mem_append]
    exact ⟨words, fun c member => isLineEnd_of_mem_bareAlphabet c
      (mem_bareAlphabet.1 c (login.mem_of_mem_text c member))⟩
  have address : ∀ c ∈ (" Base URL: " ++ (login.heading site).baseUrl).toList,
      Text.isLineEnd c = false := by
    have words : ∀ c ∈ " Base URL: ".toList, Text.isLineEnd c = false := by decide
    rw [heading_eq, String.toList_append, List.forall_mem_append]
    exact ⟨words, fun c member => isLineEnd_of_mem_bareAlphabet c
      (mem_bareAlphabet.2.1 c (site.mem_of_mem_address c member)).1⟩
  have tags : ∀ c ∈ (" Tags: " ++ ", ".intercalate (login.heading site).tags).toList,
      Text.isLineEnd c = false := by
    have words : ∀ c ∈ " Tags: ".toList, Text.isLineEnd c = false := by decide
    have comma : ∀ c ∈ ", ".toList, Text.isLineEnd c = false := by decide
    have each : ∀ tag ∈ Tags.cues.map (·.1), ∀ c ∈ tag.toList, Text.isLineEnd c = false := by
      decide
    rw [String.toList_append, String.toList_intercalate, List.forall_mem_append]
    refine ⟨words, Chars.forall_mem_intercalate comma fun part member => ?_⟩
    obtain ⟨tag, inTags, rfl⟩ := List.mem_map.mp member
    exact each tag (login.mem_tags site inTags)
  rw [Dialect.header]
  split
  · rw [List.forall_mem_cons, List.forall_mem_cons, String.append_assoc, String.append_assoc]
    refine ⟨(login.settled_comment site dialect title).1,
      (login.settled_comment site dialect address).1, ?_⟩
    split
    · simp
    · rw [List.forall_mem_singleton, String.append_assoc]
      exact (login.settled_comment site dialect tags).1
  · simp

/-! The code as a whole -/

/-- The literal of the name, with the words around it. -/
theorem settled_quote_name {front back : String} (opening : opens front.toList = true)
    (closing : closes back.toList = true) :
    Settled login site (front ++ quote (login.heading site).name ++ back) := by
  have listed : login.name.toList ∈ login.titles := by simp [titles]
  rw [heading_eq]
  exact .of_literal .single opening closing (login.mem_of_mem_titles _ listed)
    (login.quietAt_title site listed .single)

theorem settled_scriptPrelude {firstLine signatureEnd : String} {header : List String}
    (dialect : Dialect) (first : Settled login site firstLine)
    (last : closes (", async (" ++ signatureEnd).toList = true)
    (comments : ∀ line ∈ header, Settled login site line) :
    ∀ line ∈ Dialect.playwrightScriptPrelude firstLine signatureEnd dialect.defaults
      (login.heading site) header "30000", Settled login site line := by
  have blank : Settled login site "" := .of_ofList (by decide)
  have comment : Settled login site "  // Set timeout for the test" := .of_ofList (by decide)
  have timeout : Settled login site ("  test.setTimeout(" ++ "30000" ++ ");") :=
    .of_frame (by decide)
  simp only [Dialect.playwrightScriptPrelude, Dialect.defaults, if_true, List.forall_mem_append,
    List.forall_mem_cons, List.not_mem_nil, IsEmpty.forall_iff, implies_true, and_true]
  refine ⟨⟨⟨⟨⟨first, blank⟩, comments⟩, blank, ?_⟩, comment⟩, timeout, blank⟩
  rw [String.append_assoc]
  exact login.settled_quote_name site (by decide) last

theorem settled_name {front back : String} (foreign : ∀ c ∈ ['l', 'L', '\'', '"'], c ∉ front.toList)
    (closed : ¬ gap <:+: front.toList) (safe : isFrame front.toList = true)
    (closing : closes back.toList = true) :
    Settled login site (front ++ (login.heading site).name ++ back) := by
  have inTitles := login.mem_of_mem_titles login.name.toList (by simp [titles])
  have within := (isFrame_iff _).mp safe
  have unbroken := closing
  simp only [closes, Bool.and_eq_true, isFrame_iff] at unbroken
  have named : (login.heading site).name = login.name := by rw [heading_eq]
  rw [named]
  constructor <;> simp only [String.toList_append, List.forall_mem_append]
  · exact ⟨⟨within.2, fun c member => isLineEnd_of_mem_bareAlphabet c (inTitles c member)⟩,
      unbroken.1.2⟩
  · exact fun _ => quietAt_append closing (login.quietAt_name site foreign closed within.1)

theorem settled_className {front back : String} (ending rest : List Char)
    (parts : back.toList = ending ++ rest)
    (foreign : ∀ c ∈ ['L', '_', '\'', '"'], c ∉ front.toList ∧ c ∉ ending)
    (closed : ¬ gap <:+: front.toList) (closed' : ¬ gap <:+: ending)
    (safe : isFrame front.toList = true) (safe' : isFrame ending = true)
    (closing : closes rest = true) :
    Settled login site (front ++ Name.camel (login.heading site).name ++ back) := by
  have inTitles := login.mem_of_mem_titles login.className.toList (by simp [titles])
  have within := (isFrame_iff _).mp safe
  have within' := (isFrame_iff _).mp safe'
  have unbroken := closing
  simp only [closes, Bool.and_eq_true, isFrame_iff] at unbroken
  have named : Name.camel (login.heading site).name = login.className := by
    rw [heading_eq, className]
  rw [named]
  constructor <;> simp only [String.toList_append, parts, List.forall_mem_append]
  · exact ⟨⟨within.2, fun c member => isLineEnd_of_mem_bareAlphabet c (inTitles c member)⟩,
      within'.2, unbroken.1.2⟩
  · intro _
    rw [← List.append_assoc]
    exact quietAt_append closing
      (login.quietAt_className site foreign closed closed' within.1 within'.1)

theorem settled_quote_title {front back : String} (opening : opens front.toList = true)
    (closing : closes back.toList = true) :
    Settled login site (front ++ quote (login.heading site).title ++ back) := by
  have listed : login.text.toList ∈ login.titles := by simp [titles]
  rw [title_heading]
  exact .of_literal .single opening closing (login.mem_of_mem_titles _ listed)
    (login.quietAt_title site listed .single)

theorem settled_prelude (dialect : Dialect) :
    ∀ line ∈ dialect.prelude dialect.defaults (login.heading site) dialect.defaultTimeout,
      Settled login site line := by
  have header := login.settled_header site dialect dialect.defaults
  cases dialect with
  | playwrightTypeScript =>
      exact login.settled_scriptPrelude site .playwrightTypeScript (.of_ofList (by decide))
        (by decide) header
  | playwrightJavaScript =>
      exact login.settled_scriptPrelude site .playwrightJavaScript (.of_ofList (by decide))
        (by decide) header
  | playwrightPython =>
      delta Dialect.prelude
      dsimp only
      simp only [List.forall_mem_append, List.forall_mem_cons, List.not_mem_nil,
        IsEmpty.forall_iff, implies_true, and_true]
      and_intros <;> try (with_reducible apply Settled.of_ofList; decide)
      · exact header
      · exact login.settled_name site (by decide) (by decide) (by decide)
          (by decide)
      · exact .of_frame (by decide)
  | seleniumPython =>
      delta Dialect.prelude
      dsimp only
      simp only [List.forall_mem_append, List.forall_mem_cons, List.not_mem_nil,
        IsEmpty.forall_iff, implies_true, and_true]
      and_intros <;> try (with_reducible apply Settled.of_ofList; decide)
      · exact header
      · rw [Dialect.className, ← String.append_assoc, String.append_assoc]
        exact login.settled_className site ['T', 'e', 's', 't'] _ String.toList_append
          (by decide) (by decide) (by decide) (by decide)
          (by decide) (by decide)
      · exact .of_frame (by decide)
      · exact login.settled_name site (by decide) (by decide) (by decide)
          (by decide)
  | seleniumJava =>
      delta Dialect.prelude
      dsimp only
      simp only [List.forall_mem_append, List.forall_mem_cons, List.not_mem_nil,
        IsEmpty.forall_iff, implies_true, and_true]
      and_intros <;> try (with_reducible apply Settled.of_ofList; decide)
      · exact header
      · rw [Dialect.className, ← String.append_assoc, String.append_assoc]
        exact login.settled_className site ['T', 'e', 's', 't', ' '] ['\x7b'] rfl
          (by decide) (by decide) (by decide) (by decide)
          (by decide) (by decide)
      · exact .of_frame (by decide)
      · exact login.settled_className site [] _ (List.nil_append _).symm (by decide)
          (by decide) (by decide) (by decide) (by decide)
          (by decide)
  | cypressTypeScript | cypressJavaScript =>
      delta Dialect.prelude
      dsimp only
      rw [List.forall_mem_append, List.forall_mem_append, List.forall_mem_append]
      have blank : Settled login site "" := .of_ofList (by decide)
      refine ⟨⟨⟨?_, header⟩, ?_⟩, ?_⟩
      · split
        · simpa using ⟨.of_ofList (by decide), blank⟩
        · simp
      · generalize List.isEmpty _ = bare
        cases bare <;> simp [blank]
      · simp only [List.forall_mem_cons, List.not_mem_nil, IsEmpty.forall_iff, implies_true,
          and_true]
        exact ⟨login.settled_quote_name site (by decide) (by decide),
          login.settled_quote_title site (by decide) (by decide),
          .of_frame (by decide)⟩

theorem settled_closing (dialect : Dialect) :
    ∀ line ∈ dialect.closing, Settled login site line := by
  cases dialect <;>
    simp only [Dialect.closing, List.forall_mem_cons, List.not_mem_nil, IsEmpty.forall_iff,
      implies_true, and_true] <;>
    and_intros <;>
    exact .of_ofList (by decide)

/-- The case of a plain login that ends with the given check. -/
def testCase (assertion : Assertion) : TestCase :=
  ⟨login.heading site, login.actions ++ [.check assertion]⟩

theorem action_mem (assertion : Assertion) : ∀ step ∈ (login.testCase site assertion).steps,
    step.action ∈ ["goto", "fill", "click", "assert"] := by
  simp [testCase, actions, Step.goto, Step.fill, Step.click, Step.check]

variable {assertion : Assertion} (listed : assertion ∈ checks)
include listed

theorem settled_step (dialect : Dialect) :
    ∀ step ∈ (login.testCase site assertion).steps,
      Settled login site (dialect.indent ++
        dialect.line (dialect.statement site.address step)) := by
  have steps : (login.testCase site assertion).steps = [.goto "/login",
      .fill (.label "Username") login.username, .fill (.label "Password") login.password,
      .click (.role (some "button") (some "Login")), .check assertion] := rfl
  simp only [steps, List.forall_mem_cons]
  exact ⟨login.settled_goto site dialect,
    login.settled_fill site dialect _ (.inl rfl) (.inl rfl),
    login.settled_fill site dialect _ (.inr rfl) (.inr rfl),
    login.settled_of_closed site dialect _ (.inl rfl),
    login.settled_of_closed site dialect _ (.inr ⟨assertion, listed, rfl⟩), by simp⟩

theorem settled_stepLines (dialect : Dialect) (number : Nat) {step : Step}
    (inCase : step ∈ (login.testCase site assertion).steps) :
    ∀ line ∈ dialect.stepLines dialect.defaults site.address number step,
      Settled login site line := by
  have comment : ∀ c ∈ (" Step " ++ (toString number ++ (": " ++ step.action))).toList,
      Text.isLineEnd c = false := by
    have words : ∀ text ∈ [" Step ", ": "], ∀ c ∈ text.toList, Text.isLineEnd c = false := by
      decide
    have names : ∀ action ∈ ["goto", "fill", "click", "assert"], ∀ c ∈ action.toList,
        Text.isLineEnd c = false := by
      decide
    have digits (c : Char) (member : c ∈ (toString number).toList) : Text.isLineEnd c = false := by
      have numeral := Number.isNumeral_toString_nat number c member
      rw [Number.isNumeral, Bool.or_eq_true, List.contains_iff_mem] at numeral
      rcases numeral with digit | mark
      · refine isLineEnd_of_mem_bareAlphabet c (mem_of_isAlphanum ?_)
        rw [Char.isAlphanum, digit, Bool.or_true]
      · have all : ∀ c ∈ ['-', '+', '.', 'e', 'i', 'n', 'f', 'a'],
            Text.isLineEnd c = false := by
          decide
        exact all c mark
    simp only [String.toList_append, List.forall_mem_append]
    exact ⟨words _ (by simp), digits, words _ (by simp),
      names _ (login.action_mem site assertion step inCase)⟩
  simp only [Dialect.stepLines, Dialect.defaults, if_true, Bool.false_eq_true, if_false,
    List.append_nil, List.forall_mem_append, List.forall_mem_singleton, String.append_assoc]
  exact ⟨(login.settled_comment site dialect comment).2,
    login.settled_step site listed dialect step inCase⟩

/-- Every line of the code is settled. -/
theorem settled_lines (dialect : Dialect) :
    ∀ line ∈ dialect.lines dialect.defaults (login.testCase site assertion) dialect.defaultTimeout,
      Settled login site line := by
  rw [Dialect.lines, List.forall_mem_append, List.forall_mem_append]
  refine ⟨⟨login.settled_prelude site dialect, fun line member => ?_⟩,
    login.settled_closing site dialect⟩
  obtain ⟨⟨step, number⟩, numbered, inStep⟩ := List.mem_flatMap.mp member
  have base : (login.testCase site assertion).heading.baseUrl = site.address := by
    rw [testCase, heading_eq]
  rw [base] at inStep
  exact login.settled_stepLines site listed dialect number (List.fst_mem_of_mem_zipIdx numbered)
    line inStep

/-- The lines of the code are read back. -/
theorem lines_code (dialect : Dialect) :
    Chars.lines (dialect.code dialect.defaults (login.testCase site assertion)
        dialect.defaultTimeout).toList =
      (dialect.lines dialect.defaults (login.testCase site assertion)
        dialect.defaultTimeout).map String.toList := by
  have settled := login.settled_lines site listed dialect
  have nonempty : dialect.lines dialect.defaults (login.testCase site assertion)
      dialect.defaultTimeout ≠ [] :=
    List.ne_nil_of_mem (dialect.exists_line_mem_lines dialect.defaults _ List.mem_cons_self)
  rw [Dialect.code, String.toList_append, String.toList_intercalate]
  refine Chars.lines_intercalate (by simpa using nonempty) ?_
  rw [List.forall_mem_map]
  exact fun line member => (settled line member).unbroken

end PlainLogin

end PlainScript
