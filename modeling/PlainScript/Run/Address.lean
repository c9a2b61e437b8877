/-
The scheme and the host of a web address.
-/

import PlainScript.Text.Blank
import PlainScript.Text.Printable
import PlainScript.Text.Search

namespace PlainScript

/-- The two parts of an address that say whether it can be visited. The host keeps its port. -/
structure Address where
  scheme : String
  host : String
  deriving DecidableEq, Repr

namespace Address

/-- Why an address cannot be taken apart. -/
inductive Fault where
  | brackets
  | noNumber (host : String)
  | shortNumber
  | futureNumber
  | ambiguous (host : String)
  deriving DecidableEq, Repr

def Fault.message : Fault → String
  | brackets => "Invalid IPv6 URL"
  | noNumber host => Text.display host ++ " does not appear to be an IPv4 or IPv6 address"
  | shortNumber => "An IPv4 address cannot be in brackets"
  | futureNumber => "IPvFuture address is invalid"
  | ambiguous host =>
      "netloc '" ++ host ++ "' contains invalid characters under NFKC normalization"

/-! Numeric hosts -/

/-- A part of a short number: at most three digits, without zeros in front, up to 255. -/
def isByte (chars : List Char) : Bool :=
  !chars.isEmpty && chars.length ≤ 3 && chars.all Char.isDigit &&
    (chars.length == 1 || chars.head? != some '0') &&
    chars.foldl (fun number digit => number * 10 + (digit.toNat - '0'.toNat)) 0 ≤ 255

/-- Four bytes with dots between them. -/
def isShortNumber (chars : List Char) : Bool :=
  let parts := Chars.splitAt (· == '.') chars
  parts.length == 4 && parts.all isByte

/-- Up to four hexadecimal digits. -/
def isGroup (chars : List Char) : Bool :=
  chars.length ≤ 4 &&
    chars.all fun c => c.isDigit || ('a' ≤ c && c ≤ 'f') || ('A' ≤ c && c ≤ 'F')

/-- The groups of a long number; a short number at its end counts as two. -/
def groups? (chars : List Char) : Option (List (List Char)) :=
  let parts := Chars.splitAt (· == ':') chars
  match parts.getLast? with
  | some last =>
      if last.contains '.' then
        if isShortNumber last then some (parts.dropLast ++ [['0'], ['0']]) else none
      else some parts
  | none => none

/-- The groups on one side of the gap; an empty one at the edge is part of the gap. -/
def isSide (edge : Option (List Char)) (groups : List (List Char)) : Bool :=
  if edge == some [] then groups.length == 1
  else groups.all fun group => isGroup group && !group.isEmpty

/-- Eight groups, or fewer around one gap. -/
def isGroupList (groups : List (List Char)) : Bool :=
  let inner := (groups.drop 1).dropLast
  let count := groups.length
  if inner.contains [] then
    let before := groups.take ((inner.takeWhile (· != [])).length + 1)
    let after := groups.drop (before.length + 1)
    let written := (before ++ after).filter (· != [])
    inner.count [] == 1 && isSide before.head? before && isSide after.getLast? after &&
      written.length < 8
  else count == 8 && groups.all fun group => isGroup group && !group.isEmpty

/-- A long number, perhaps with a zone after a percent sign. -/
def isLongNumber (chars : List Char) : Bool :=
  let number := chars.takeWhile (· != '%')
  let zone := chars.dropWhile (· != '%')
  let zoneIsFine := zone.isEmpty || (1 < zone.length && !(zone.drop 1).contains '%')
  !chars.contains '/' && zoneIsFine &&
    3 ≤ (Chars.splitAt (· == ':') number).length &&
    match groups? number with
    | some groups => groups.length ≤ 9 && isGroupList groups
    | none => false

/-- A number of a kind to come: its version in hexadecimal digits, a dot and more. -/
def isFutureNumber (chars : List Char) : Bool :=
  match chars with
  | 'v' :: rest =>
      let version := rest.takeWhile (· != '.')
      !version.isEmpty && version.all (fun c => isGroup [c]) &&
        match rest.dropWhile (· != '.') with
        | _ :: tail => !tail.isEmpty && !tail.contains '\n'
        | [] => false
  | _ => false

/-- Checks what stands between brackets. -/
def checkNumber (chars : List Char) : Except Fault Unit :=
  if chars.head? == some 'v' then
    if isFutureNumber chars then .ok () else .error .futureNumber
  else if isShortNumber chars then .error .shortNumber
  else if isLongNumber chars then .ok ()
  else .error (.noNumber (.ofList chars))

/-! Hosts -/

/-- Characters that stand for marks of an address. -/
def lookalikes : List Nat := [
  0x2047, 0x2048, 0x2049, 0x2100, 0x2101, 0x2105, 0x2106, 0x2A74, 0xFE13, 0xFE16, 0xFE55, 0xFE56,
  0xFE5F, 0xFE6B, 0xFF03, 0xFF0F, 0xFF1A, 0xFF1F, 0xFF20]

/-- What follows the first `[`, up to a `]`. -/
def bracketed (host : List Char) : List Char :=
  ((host.dropWhile (· != '[')).drop 1).takeWhile (· != ']')

def checkHost (host : List Char) : Except Fault Unit := do
  if host.contains '[' != host.contains ']' then throw .brackets
  if host.contains '[' then checkNumber (bracketed host)
  if host.any fun c => lookalikes.contains c.toNat then throw (.ambiguous (.ofList host))

/-- The characters of a scheme. -/
def isSchemeChar (c : Char) : Bool := c.isAlphanum || c == '+' || c == '-' || c == '.'

/-- The scheme and the rest after its colon. -/
def splitScheme (chars : List Char) : List Char × List Char :=
  let start := chars.takeWhile (· != ':')
  if chars.contains ':' && start.head?.any Char.isAlpha && start.all isSchemeChar then
    (start.map Char.toLower, chars.drop (start.length + 1))
  else ([], chars)

/-- The characters that count: none in front that is a space or a control, and no line end or
tab anywhere. -/
def kept (chars : List Char) : List Char :=
  (chars.dropWhile fun c => c.toNat ≤ 0x20).filter fun c => c != '\t' && c != '\r' && c != '\n'

def read (text : String) : Except Fault Address := do
  let (scheme, rest) := splitScheme (kept text.toList)
  let host :=
    if ['/', '/'].isPrefixOf rest then
      (rest.drop 2).takeWhile fun c => c != '/' && c != '?' && c != '#'
    else []
  checkHost host
  return ⟨.ofList scheme, .ofList host⟩

/-- Whether the address is one of the web, with a host. -/
def isReachable (address : Address) : Bool :=
  (address.scheme == "http" || address.scheme == "https") && !address.host.isEmpty

end Address

end PlainScript
