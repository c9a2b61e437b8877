/-
Sorted tables of character ranges, searched by halving.
-/

namespace PlainScript.Text

/-- Ranges in ascending order; both ends belong to a range. -/
abbrev RangeTable := Array (Nat × Nat)

/-- Searches the rows from `low` up to, not including, `high`. -/
def RangeTable.search (table : RangeTable) (code : Nat) : Nat → Nat → Nat → Bool
  | 0, _, _ => false
  | fuel + 1, low, high =>
      if low < high then
        let middle := (low + high) / 2
        match table[middle]? with
        | none => false
        | some (first, last) =>
            if code < first then table.search code fuel low middle
            else if last < code then table.search code fuel (middle + 1) high
            else true
      else false

def RangeTable.contains (table : RangeTable) (code : Nat) : Bool :=
  table.search code table.size 0 table.size

end PlainScript.Text
