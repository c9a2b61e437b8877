/-
Reading a YAML text into a value.
-/

import PlainScript.Yaml.Moment
import PlainScript.Yaml.Node
import PlainScript.Yaml.Number

namespace PlainScript.Yaml

/-- Why a text has no value. -/
inductive Fault where
  | malformed
  | number (fault : NumberFault)
  | moment (fault : MomentFault)
  | noMoment
  | noTruth
  /-- The text has an escape whose code is no character, or it uses a node again. -/
  | unusual
  | tooDeep
  deriving DecidableEq, Repr

/-- What is wrong with the value of a scalar that has the form of its kind is reported. -/
def Fault.severity : Fault → Severity
  | number fault => fault.severity
  | moment fault => .reported fault.message
  | malformed | noMoment | noTruth => .breaking
  | unusual | tooDeep => .unsettled

/-! Bytes -/

/-- The six bits of a character. -/
def sextet? (c : Char) : Option Nat :=
  if 'A' ≤ c && c ≤ 'Z' then some (c.toNat - 'A'.toNat)
  else if 'a' ≤ c && c ≤ 'z' then some (c.toNat - 'a'.toNat + 26)
  else if c.isDigit then some (c.toNat - '0'.toNat + 52)
  else if c == '+' then some 62
  else if c == '/' then some 63
  else none

/-- Bytes out of groups of four characters; `count` of the present group have been read, with
`bits` left over, and `pads` signs of padding since. -/
def bytesFrom : (count bits pads : Nat) → List Char → Option (List UInt8)
  | count, _, _, [] => if count == 0 then some [] else none
  | count, bits, pads, c :: rest =>
      if c == '=' then
        if 2 ≤ count && 4 ≤ count + pads + 1 then some []
        else bytesFrom count bits (if 2 ≤ count then pads + 1 else pads) rest
      else match sextet? c with
        | none => bytesFrom count bits pads rest
        | some six =>
            match count with
            | 0 => bytesFrom 1 six 0 rest
            | 1 => (bytesFrom 2 (six % 16) 0 rest).map (.ofNat (bits * 4 + six / 16) :: ·)
            | 2 => (bytesFrom 3 (six % 4) 0 rest).map (.ofNat (bits * 16 + six / 4) :: ·)
            | _ => (bytesFrom 0 0 0 rest).map (.ofNat (bits * 64 + six) :: ·)

def readBytes (text : String) : Option (List UInt8) :=
  if text.toList.all fun c => c.toNat < 128 then bytesFrom 0 0 0 text.toList else none

/-! Scalars -/

def readTruth (text : String) : Except Fault Value :=
  let lowered := Text.lower text
  if ["yes", "true", "on"].contains lowered then .ok (.bool true)
  else if ["no", "false", "off"].contains lowered then .ok (.bool false)
  else .error .noTruth

/-- The value of a scalar's content under a tag. -/
def scalarValue (tag : Tag) (content : String) : Except Fault Value :=
  match tag with
  | .null => .ok .null
  | .bool => readTruth content
  | .int => ((readInt content).mapError .number).map .int
  | .float => ((readFloat content).mapError .number).map .float
  | .binary =>
      match readBytes content with
      | some bytes => .ok (.bytes bytes)
      | none => .error .malformed
  | .moment =>
      match readMoment content with
      | some value => value.mapError .moment
      | none => .error .noMoment
  | .text => .ok (.text content)
  | _ => .error .malformed

namespace Node

def tag : Node → Tag
  | scalar tag _ | list tag _ | record tag _ => tag

mutual

/-- The content of a scalar, or of the default value of a mapping. -/
def content? : Node → Option String
  | scalar _ content => some content
  | list _ _ => none
  | record _ entries => defaultContent? entries

def defaultContent? : List (Node × Node) → Option String
  | [] => none
  | (key, node) :: rest => if key.tag = .value then content? node else defaultContent? rest

end

end Node

/-- Values that cannot be keys. -/
def isOpenValue : Value → Bool
  | .list _ | .record _ | .set _ => true
  | _ => false

mutual

/-- The value of a node. -/
def valueOf : Node → Except Fault Value
  | .scalar tag content => scalarValue tag content
  | .list tag items =>
      match tag with
      | .list => (valuesOf items).map .list
      | .orderedMap | .pairs => (pairsOf items).map .list
      | _ => .error .malformed
  | .record tag entries =>
      match tag with
      | .record =>
          (entriesOf entries).map fun (merged, own) => .record (putAll (merged ++ own))
      | .set =>
          (entriesOf entries).map fun (merged, own) =>
            .set ((putAll (merged ++ own)).map (·.1))
      | .null | .bool | .int | .float | .binary | .moment | .text =>
          match (Node.record tag entries).content? with
          | some content => scalarValue tag content
          | none => .error .malformed
      | _ => .error .malformed

def valuesOf : List Node → Except Fault (List Value)
  | [] => .ok []
  | node :: nodes => do
      let value ← valueOf node
      let values ← valuesOf nodes
      return value :: values

/-- The pairs of mappings with one entry each. -/
def pairsOf : List Node → Except Fault (List Value)
  | [] => .ok []
  | .record _ [(key, node)] :: nodes => do
      let key ← valueOf key
      let value ← valueOf node
      let pairs ← pairsOf nodes
      return .pair key value :: pairs
  | _ :: _ => .error .malformed

/-- The entries of a mapping: those merged into it, and its own. -/
def entriesOf : List (Node × Node) →
    Except Fault (List (Value × Value) × List (Value × Value))
  | [] => .ok ([], [])
  | (key, node) :: rest =>
      if key.tag = .merge then do
        let more ← mergedOf node
        let (merged, own) ← entriesOf rest
        return (more ++ merged, own)
      else do
        let key ← keyOf key
        let value ← valueOf node
        let (merged, own) ← entriesOf rest
        return (merged, (key, value) :: own)

/-- The value of a key; an equals sign is a plain text there. -/
def keyOf : Node → Except Fault Value
  | .scalar .value content => .ok (.text content)
  | node => do
      let value ← valueOf node
      if isOpenValue value then .error .malformed else return value

/-- The entries that a node merges into a mapping. -/
def mergedOf : Node → Except Fault (List (Value × Value))
  | .record _ entries => (entriesOf entries).map fun (merged, own) => merged ++ own
  | .list _ items => mergedItems items
  | .scalar _ _ => .error .malformed

/-- The entries of several mappings; those of earlier ones come last, where they prevail. -/
def mergedItems : List Node → Except Fault (List (Value × Value))
  | [] => .ok []
  | .record _ entries :: nodes => do
      let (merged, own) ← entriesOf entries
      let others ← mergedItems nodes
      return others ++ (merged ++ own)
  | _ :: _ => .error .malformed

end

/-! Faults in the order of filling -/

namespace Node

/-- Whether the value is a collection: it is begun empty, and filled when all that stands in front of
it or above it has been begun. -/
def isFilledLater (node : Node) : Bool :=
  [.list, .orderedMap, .pairs, .record, .set].contains node.tag

/-- What keeps a value from being begun. -/
def fault? (node : Node) : Option Fault :=
  if node.isFilledLater then none
  else match valueOf node with
    | .ok _ => none
    | .error fault => some fault

mutual

/-- The entries of a mapping, those merged into it and its own, before any has a value. -/
def entryParts? : List (Node × Node) → Option (List (Node × Node) × List (Node × Node))
  | [] => some ([], [])
  | (key, node) :: rest => do
      let more ← if key.tag = .merge then mergedParts? node else some []
      let (merged, own) ← entryParts? rest
      return (more ++ merged, if key.tag = .merge then own else (key, node) :: own)

def mergedParts? : Node → Option (List (Node × Node))
  | scalar _ _ => none
  | list _ items => mergedItemParts? items
  | record _ entries => (entryParts? entries).map fun (merged, own) => merged ++ own

def mergedItemParts? : List Node → Option (List (Node × Node))
  | [] => some []
  | record _ entries :: nodes => do
      let (merged, own) ← entryParts? entries
      let others ← mergedItemParts? nodes
      return others ++ (merged ++ own)
  | _ :: _ => none

end

/-- What a key brings in front of the value of its entry. -/
def keyParts : Node → List (Except Fault Node)
  | scalar .value _ => []
  | key => .ok key :: if key.isFilledLater then [.error .malformed] else []

/-- What an item of pairs brings: it has to be a mapping with one entry. -/
def pairParts : Node → List (Except Fault Node)
  | record _ [(key, node)] => [.ok key, .ok node]
  | _ => [.error .malformed]

/-- What fills a collection in its turn: nodes to begin, and what is wrong with its form. -/
def parts : Node → List (Except Fault Node)
  | list .list items => items.map .ok
  | list .orderedMap items | list .pairs items => items.flatMap pairParts
  | record .record entries | record .set entries =>
      match entryParts? entries with
      | some (merged, own) => (merged ++ own).flatMap fun (key, node) => keyParts key ++ [.ok node]
      | none => [.error .malformed]
  | _ => [.error .malformed]

/-- The first fault in collections to be filled, one level after the other. -/
def firstFault? : (levels : Nat) → List Node → Option Fault
  | 0, _ => none
  | levels + 1, nodes =>
      let parts := nodes.flatMap parts
      let fault := parts.findSome? fun
        | .error fault => some fault
        | .ok node => node.fault?
      fault.or (firstFault? levels ((parts.filterMap Except.toOption).filter isFilledLater))

/-- Whether a node nests within so many levels. -/
def isWithin : (levels : Nat) → Node → Bool
  | _, scalar _ _ => true
  | 0, _ => false
  | levels + 1, list _ items => items.all (isWithin levels)
  | levels + 1, record _ entries =>
      entries.all fun (key, node) => isWithin levels key && isWithin levels node

end Node

/-! Texts -/

/-- Whether a backslash and a code of no character are among the characters. -/
def holdsCodeOfNone : List Char → Bool
  | '\\' :: mark :: rest =>
      (codeWidth? mark).any (fun width =>
        (hexNumber? (rest.take width)).any fun code => !code.isValidChar) ||
      holdsCodeOfNone (mark :: rest)
  | _ :: rest => holdsCodeOfNone rest
  | [] => false

/-- Whether a node with a name is used again. -/
def usesAgain (tokens : List Token) : Bool :=
  tokens.any fun
    | .alias name => tokens.contains (.anchor name)
    | _ => false

/-- The most levels of a document. -/
def mostLevels : Nat := 300

/-- The value of the only node of a text. -/
def ofNode : Option Node → Except Fault Value
  | none => .error .malformed
  | some node =>
      if node.isWithin mostLevels then
        (valueOf node).mapError fun fault =>
          (node.fault?.or (Node.firstFault? (mostLevels + 1) [node])).getD fault
      else .error .tooDeep

/-- The value of a text; an empty one is null. -/
def read (text : String) : Except Fault Value :=
  match tokens text.toList with
  | none => .error (if holdsCodeOfNone text.toList then .unusual else .malformed)
  | some tokens =>
      (ofNode (Node.ofTokens? tokens)).mapError fun fault =>
        if usesAgain tokens then .unusual else fault

end PlainScript.Yaml
