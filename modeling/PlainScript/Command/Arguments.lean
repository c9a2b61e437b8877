/-
Arguments of a command line: options by name, and words. A long option may be cut short as long
as only one option begins so, and its value may follow an equals sign. Short options may be
written together. After two dashes all arguments are words.
-/

import PlainScript.Number.Integer
import PlainScript.Text.Alphabet
import PlainScript.Text.Search

namespace PlainScript.Arguments

/-- What an option takes. -/
inductive Form where
  | flag
  | help
  | number
  | text
  | choice (choices : List String)
  deriving DecidableEq, Repr

namespace Form

/-- Whether an option of the form takes a value. -/
def takesValue : Form → Bool
  | flag | help => false
  | number | text | choice _ => true

def accepts (form : Form) (value : String) : Bool :=
  match form with
  | number => (Number.readInt? value).isSome && (Number.excess? value).isNone
  | choice choices => choices.contains value
  | flag | help | text => true

end Form

structure OptionForm where
  name : String
  short : Option Char := none
  form : Form
  deriving DecidableEq, Repr

namespace OptionForm

def long (option : OptionForm) : String := "--" ++ option.name

/-- Whether the option is written like this. -/
def isWritten (option : OptionForm) (text : String) : Bool :=
  text == option.long || option.short.any fun c => text == .ofList ['-', c]

end OptionForm

/-- How many words a command takes. -/
inductive Words where
  | none
  | optional
  | one
  | many
  deriving DecidableEq, Repr

structure Grammar where
  options : List OptionForm
  words : Words := .none
  /-- Names of options that may not be left out. -/
  required : List String := []
  deriving DecidableEq, Repr

/-- Why reading ends early: the arguments are wrong, or ask for help. -/
inductive Stop where
  | misuse
  | help
  deriving DecidableEq, Repr

/-- What is written together with an option: its value, or more short options. -/
inductive Tail where
  | nothing
  | value (text : String)
  | shorts (chars : List Char)
  deriving DecidableEq, Repr

inductive Part where
  | option (option : OptionForm) (tail : Tail)
  | unknown
  | word (text : String)
  /-- Two dashes. -/
  | separator
  deriving DecidableEq, Repr

/-- Whether a text is a negative number rather than an option. -/
def isNegativeNumber (text : String) : Bool :=
  match text.toList with
  | '-' :: digits =>
      let whole := digits.takeWhile Text.isDecimal
      match digits.dropWhile Text.isDecimal with
      | [] => !whole.isEmpty
      | '.' :: places => !places.isEmpty && places.all Text.isDecimal
      | _ => false
  | _ => false

/-- The parts of an argument before and after the first equals sign. -/
def splitValue (text : String) : String × Tail :=
  match Text.cut? text "=" with
  | some (name, value) => (name, .value value)
  | none => (text, .nothing)

namespace Grammar

/-- The options that an argument may stand for, other than in full. -/
def candidates (grammar : Grammar) (text : String) : List Part :=
  match text.toList with
  | '-' :: '-' :: _ =>
      let (name, tail) := splitValue text
      (grammar.options.filter fun option => Text.startsWith option.long name).map fun option =>
        .option option tail
  | '-' :: c :: rest =>
      (grammar.options.filter fun option => option.short == some c).map fun option =>
        .option option (.shorts rest)
  | _ => []

/-- What an argument stands for; one that may stand for several options is wrong. -/
def classify (grammar : Grammar) (text : String) : Except Stop Part :=
  if !Text.startsWith text "-" || text == "-" then .ok (.word text)
  else
    let (name, tail) := splitValue text
    match grammar.options.find? fun option => option.isWritten text,
        grammar.options.find? fun option => option.isWritten name with
    | some option, _ => .ok (.option option .nothing)
    | none, some option => .ok (.option option tail)
    | none, none =>
        match grammar.candidates text with
        | [part] => .ok part
        | _ :: _ => .error .misuse
        | [] =>
            if isNegativeNumber text || Text.contains text " " then .ok (.word text)
            else .ok .unknown

def parts (grammar : Grammar) : List String → Except Stop (List Part)
  | [] => .ok []
  | text :: rest =>
      if text == "--" then .ok (.separator :: rest.map .word)
      else do return (← grammar.classify text) :: (← grammar.parts rest)

end Grammar

/-- What has been given so far. -/
structure Given where
  /-- Values by the names of options, the last first. -/
  values : List (String × String) := []
  flags : List String := []
  words : List String := []
  /-- Whether no more words are taken. -/
  isFull : Bool := false
  /-- Whether something has been given that nothing takes. -/
  hasExtras : Bool := false
  deriving DecidableEq, Repr

namespace Given

def put (given : Given) (option : OptionForm) (value : String) : Except Stop Given :=
  if option.form.accepts value then
    .ok { given with values := (option.name, value) :: given.values }
  else .error .misuse

def raise (given : Given) (option : OptionForm) : Except Stop Given :=
  if option.form == .help then .error .help
  else .ok { given with flags := option.name :: given.flags }

def excess (given : Given) : Given := { given with hasExtras := true }

/-- Takes a word; another one is taken only if there may be many. -/
def take (given : Given) (words : Words) (text : String) : Given :=
  { given with words := given.words ++ [text], isFull := words != .many }

/-- Takes no more words once there are some. -/
def endWords (given : Given) : Given :=
  { given with isFull := given.isFull || !given.words.isEmpty }

def value? (given : Given) (name : String) : Option String := given.values.lookup name

def number? (given : Given) (name : String) : Option Int :=
  (given.value? name).bind Number.readInt?

def has (given : Given) (name : String) : Bool := given.flags.contains name

end Given

namespace Grammar

/-- The options that are written together after a short one, and whether the last is unknown. -/
def cluster (grammar : Grammar) : List Char → Except Stop (List OptionForm × Bool)
  | [] => .ok ([], false)
  | c :: rest =>
      if c == '-' || c == '=' then .error .misuse
      else match grammar.options.find? fun option => option.short == some c with
        | none => .ok ([], true)
        | some option => (grammar.cluster rest).map fun (options, isOpen) =>
            (option :: options, isOpen)

/-- Raises an option without a value of its own. -/
def raiseAll (grammar : Grammar) (given : Given) (option : OptionForm) :
    Tail → Except Stop Given
  | .nothing => given.raise option
  | .value _ => .error .misuse
  | .shorts chars => do
      let (options, isOpen) ← grammar.cluster chars
      let given := if isOpen then given.excess else given
      (option :: options).foldlM Given.raise given

/-- Reads parts one after the other. -/
def readParts (grammar : Grammar) : Given → List Part → Except Stop Given
  | given, [] => .ok given
  | given, .unknown :: rest => grammar.readParts given.endWords.excess rest
  | given, .option option tail :: rest =>
      if option.form.takesValue then
        match tail, rest with
        | .value value, rest => do grammar.readParts (← given.endWords.put option value) rest
        | .nothing, .word value :: rest => do
            grammar.readParts (← given.endWords.put option value) rest
        | _, _ => .error .misuse
      else do grammar.readParts (← grammar.raiseAll given.endWords option tail) rest
  | given, .word text :: rest =>
      if given.isFull || grammar.words == .none then grammar.readParts given.excess rest
      else
        let given := given.take grammar.words text
        match rest with
        | .separator :: rest => grammar.readParts given rest
        | rest => grammar.readParts given rest
  | given, .separator :: rest =>
      if given.isFull || grammar.words == .none || (rest.isEmpty && grammar.words != .optional)
      then grammar.readParts given.excess rest
      else grammar.readParts given rest

/-- Whether all that is needed has been given. -/
def isSatisfied (grammar : Grammar) (given : Given) : Bool :=
  grammar.required.all (fun name => (given.value? name).isSome) &&
    (grammar.words == .none || grammar.words == .optional || !given.words.isEmpty)

/-- What parts give, unless too little or too much. -/
def read (grammar : Grammar) (arguments : List String) : Except Stop Given := do
  let given ← grammar.readParts {} (← grammar.parts arguments)
  if grammar.isSatisfied given && !given.hasExtras then return given else throw .misuse

end Grammar

/-- The command that arguments name, and what they give it; none if they name none. Options
before the name belong to all commands. -/
def readCommand (common : Grammar) (commands : List (String × Grammar))
    (arguments : List String) : Except Stop (Option (String × Given)) := do
  let parts ← common.parts arguments
  let isWord : Part → Bool
    | .word _ | .separator => true
    | _ => false
  let given ← common.readParts {} (parts.takeWhile (!isWord ·))
  match arguments.drop (parts.takeWhile (!isWord ·)).length with
  | [] => if given.hasExtras then throw .misuse else return none
  | name :: rest =>
      match commands.lookup name with
      | none => throw .misuse
      | some grammar => do
          let inner ← grammar.read rest
          if given.hasExtras then throw .misuse else return some (name, inner)

end PlainScript.Arguments
