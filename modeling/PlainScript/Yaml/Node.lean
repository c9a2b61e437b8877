/-
The nodes that tokens build. Anchors name nodes, and an alias stands for the node that it names.
-/

import PlainScript.Yaml.Tag
import PlainScript.Yaml.Token

namespace PlainScript.Yaml

inductive Node where
  | scalar (tag : Tag) (content : String)
  | list (tag : Tag) (items : List Node)
  | record (tag : Tag) (entries : List (Node × Node))

namespace Node

/-- The nodes of a document that have a name; one that is still open has no content yet. -/
abbrev Anchors := List (String × Option Node)

/-- The tags that handles stand for. -/
abbrev Handles := List (String × String)

/-- The part of a document that is still unread. -/
structure Stream where
  tokens : List Token
  anchors : Anchors

namespace Stream

def drop (stream : Stream) (count : Nat) : Stream :=
  { stream with tokens := stream.tokens.drop count }

def peek (stream : Stream) : Option Token := stream.tokens.head?

/-- Whether the next token is among the given ones. -/
def startsWith (stream : Stream) (tokens : List Token) : Bool := stream.peek.any tokens.contains

end Stream

/-- What stands in front of a node: an anchor and a tag, each at most once. -/
structure Properties where
  anchor : Option String
  tag : Option (Option String × String)

def readProperties (stream : Stream) : Properties × Stream :=
  match stream.tokens with
  | .anchor name :: .tag handle rest :: _ => (⟨some name, some (handle, rest)⟩, stream.drop 2)
  | .tag handle rest :: .anchor name :: _ => (⟨some name, some (handle, rest)⟩, stream.drop 2)
  | .anchor name :: _ => (⟨some name, none⟩, stream.drop 1)
  | .tag handle rest :: _ => (⟨none, some (handle, rest)⟩, stream.drop 1)
  | _ => (⟨none, none⟩, stream)

/-- The full name of the tag; `!` alone leaves the kind open. -/
def fullTag? (handles : Handles) : Option (Option String × String) → Option (Option String)
  | none => some none
  | some (none, name) => some (some name)
  | some (some handle, rest) => (handles.lookup handle).map fun start => some (start ++ rest)

/-- The tag of a collection. -/
def tagOr (usual : Tag) : Option String → Tag
  | none => usual
  | some "!" => usual
  | some name => .ofFullName name

/-- The tag of a scalar: a plain one, or one with `!`, is told by its form. -/
def scalarTag (name : Option String) (content : String) (plain : Bool) : Tag :=
  match name with
  | none => if plain then .ofPlain content else .text
  | some "!" => .ofPlain content
  | some name => .ofFullName name

def empty : Node := .scalar .null ""

/-- Names a node that is about to be read. -/
def openAnchor (anchor : Option String) (stream : Stream) : Stream :=
  match anchor with
  | none => stream
  | some name => { stream with anchors := (name, none) :: stream.anchors }

/-- Gives a name its node. -/
def closeAnchor (anchor : Option String) (node : Node) (stream : Stream) : Stream :=
  match anchor with
  | none => stream
  | some name => { stream with anchors := (name, some node) :: stream.anchors }

/-- Where a node stands: in a block, in a block as the value of a mapping, or in a flow
collection. -/
inductive Position where
  | block
  | entry
  | flow
  deriving DecidableEq, Repr

mutual

/-- A node with its anchor and its tag. -/
def readNode (handles : Handles) : (fuel : Nat) → Position → Stream → Option (Node × Stream)
  | 0, _, _ => none
  | fuel + 1, position, stream =>
      match stream.peek with
      | some (.alias name) =>
          ((stream.anchors.lookup name).bind id).map fun node => (node, stream.drop 1)
      | _ =>
          let (properties, stream) := readProperties stream
          match fullTag? handles properties.tag with
          | none => none
          | some tag =>
              if properties.anchor.any fun name => (stream.anchors.lookup name).isSome then none
              else
                (readContent handles fuel position (properties.anchor.isSome || tag.isSome) tag
                  (openAnchor properties.anchor stream)).map fun (node, stream) =>
                    (node, closeAnchor properties.anchor node stream)

/-- The node after its properties; without content it has to have some. -/
def readContent (handles : Handles) :
    (fuel : Nat) → Position → (named : Bool) → (tag : Option String) → Stream →
      Option (Node × Stream)
  | 0, _, _, _, _ => none
  | fuel + 1, position, named, tag, stream =>
      match stream.peek, position with
      | some .dash, .entry =>
          (readDashes handles fuel stream).map fun (items, stream) =>
            (.list (tagOr .list tag) items, stream)
      | some (.scalar content plain), _ =>
          some (.scalar (scalarTag tag content plain) content, stream.drop 1)
      | some .openBracket, _ =>
          (readFlowItems handles fuel true (stream.drop 1)).map fun (items, stream) =>
            (.list (tagOr .list tag) items, stream)
      | some .openBrace, _ =>
          (readFlowEntries handles fuel true (stream.drop 1)).map fun (entries, stream) =>
            (.record (tagOr .record tag) entries, stream)
      | some .blockSequence, .block | some .blockSequence, .entry =>
          (readItems handles fuel (stream.drop 1)).map fun (items, stream) =>
            (.list (tagOr .list tag) items, stream)
      | some .blockMapping, .block | some .blockMapping, .entry =>
          (readEntries handles fuel (stream.drop 1)).map fun (entries, stream) =>
            (.record (tagOr .record tag) entries, stream)
      | _, _ => if named then some (.scalar (scalarTag tag "" (tag.isNone)) "", stream) else none

/-- A node, or an empty one in front of certain tokens. -/
def readNodeOr (handles : Handles) :
    (fuel : Nat) → Position → (stops : List Token) → Stream → Option (Node × Stream)
  | 0, _, _, _ => none
  | fuel + 1, position, stops, stream =>
      if stream.startsWith stops then some (empty, stream)
      else readNode handles fuel position stream

/-- The items of a block, to its end. -/
def readItems (handles : Handles) : (fuel : Nat) → Stream → Option (List Node × Stream)
  | 0, _ => none
  | fuel + 1, stream =>
      match stream.peek with
      | some .dash => do
          let (item, stream) ← readNodeOr handles fuel .block [.dash, .blockEnd] (stream.drop 1)
          let (items, stream) ← readItems handles fuel stream
          return (item :: items, stream)
      | some .blockEnd => some ([], stream.drop 1)
      | _ => none

/-- The items of a block that is indented no deeper than its key. -/
def readDashes (handles : Handles) : (fuel : Nat) → Stream → Option (List Node × Stream)
  | 0, _ => none
  | fuel + 1, stream =>
      match stream.peek with
      | some .dash => do
          let (item, stream) ←
            readNodeOr handles fuel .block [.dash, .key, .value, .blockEnd] (stream.drop 1)
          let (items, stream) ← readDashes handles fuel stream
          return (item :: items, stream)
      | _ => some ([], stream)

/-- The entries of a block, to its end. -/
def readEntries (handles : Handles) : (fuel : Nat) → Stream → Option (List (Node × Node) × Stream)
  | 0, _ => none
  | fuel + 1, stream =>
      match stream.peek with
      | some .key => do
          let (key, stream) ←
            readNodeOr handles fuel .entry [.key, .value, .blockEnd] (stream.drop 1)
          let (value, stream) ← readValue handles fuel .entry [.key, .value, .blockEnd] stream
          let (entries, stream) ← readEntries handles fuel stream
          return ((key, value) :: entries, stream)
      | some .blockEnd => some ([], stream.drop 1)
      | _ => none

/-- The value after a colon, or an empty one. -/
def readValue (handles : Handles) :
    (fuel : Nat) → Position → (stops : List Token) → Stream → Option (Node × Stream)
  | 0, _, _, _ => none
  | fuel + 1, position, stops, stream =>
      match stream.peek with
      | some .value => readNodeOr handles fuel position stops (stream.drop 1)
      | _ => some (empty, stream)

/-- The items in brackets; an item may be a single entry of a mapping. -/
def readFlowItems (handles : Handles) :
    (fuel : Nat) → (first : Bool) → Stream → Option (List Node × Stream)
  | 0, _, _ => none
  | fuel + 1, first, stream =>
      if stream.startsWith [.closeBracket] then some ([], stream.drop 1)
      else if !first && !stream.startsWith [.comma] then none
      else
        let stream := if first then stream else stream.drop 1
        match stream.peek with
        | some .closeBracket => some ([], stream.drop 1)
        | some .key => do
            let (key, stream) ←
              readNodeOr handles fuel .flow [.value, .comma, .closeBracket] (stream.drop 1)
            let (value, stream) ← readValue handles fuel .flow [.comma, .closeBracket] stream
            let (items, stream) ← readFlowItems handles fuel false stream
            return (.record .record [(key, value)] :: items, stream)
        | _ => do
            let (item, stream) ← readNode handles fuel .flow stream
            let (items, stream) ← readFlowItems handles fuel false stream
            return (item :: items, stream)

/-- The entries in braces; a key may stand without a value. -/
def readFlowEntries (handles : Handles) :
    (fuel : Nat) → (first : Bool) → Stream → Option (List (Node × Node) × Stream)
  | 0, _, _ => none
  | fuel + 1, first, stream =>
      if stream.startsWith [.closeBrace] then some ([], stream.drop 1)
      else if !first && !stream.startsWith [.comma] then none
      else
        let stream := if first then stream else stream.drop 1
        match stream.peek with
        | some .closeBrace => some ([], stream.drop 1)
        | some .key => do
            let (key, stream) ←
              readNodeOr handles fuel .flow [.value, .comma, .closeBrace] (stream.drop 1)
            let (value, stream) ← readValue handles fuel .flow [.comma, .closeBrace] stream
            let (entries, stream) ← readFlowEntries handles fuel false stream
            return ((key, value) :: entries, stream)
        | _ => do
            let (key, stream) ← readNode handles fuel .flow stream
            let (entries, stream) ← readFlowEntries handles fuel false stream
            return ((key, empty) :: entries, stream)

end

/-! Documents -/

def usualHandles : Handles := [("!", "!"), ("!!", Tag.standard)]

/-- The directives in front of a document: a version at most once, and handles each once. -/
def readDirectives : (versioned : Bool) → Handles → List Token → Option (Handles × List Token)
  | versioned, handles, .version major :: rest =>
      if versioned || major != 1 then none else readDirectives true handles rest
  | versioned, handles, .tagHandle handle tag :: rest =>
      if (handles.lookup handle).isSome then none
      else readDirectives versioned ((handle, tag) :: handles) rest
  | versioned, handles, .otherDirective :: rest => readDirectives versioned handles rest
  | _, handles, rest => some (handles, rest)

def isDirective : Token → Bool
  | .version _ | .tagHandle _ _ | .otherDirective => true
  | _ => false

/-- The node of a document, to the end of the text. -/
def readDocument (handles : Handles) (tokens : List Token) : Option Node := do
  let (node, rest) ← readNode handles (4 * tokens.length + 4) .block ⟨tokens, []⟩
  match rest.tokens.dropWhile (· == .documentEnd) with
  | [] => return node
  | _ => none

/-- The node after the line that begins a document; there may be none. -/
def readExplicit (handles : Handles) (tokens : List Token) : Option Node :=
  match tokens with
  | [] => some empty
  | .documentEnd :: rest => if rest.all (· == .documentEnd) then some empty else none
  | first :: _ =>
      if isDirective first || first == .documentStart then none
      else readDocument handles tokens

/-- The only node of a text, or an empty one. -/
def ofTokens? (tokens : List Token) : Option Node :=
  match tokens with
  | [] => some empty
  | first :: _ =>
      if isDirective first || first == .documentStart then
        match readDirectives false [] tokens with
        | some (handles, .documentStart :: rest) => readExplicit (handles ++ usualHandles) rest
        | _ => none
      else readDocument usualHandles tokens

end Node

end PlainScript.Yaml
