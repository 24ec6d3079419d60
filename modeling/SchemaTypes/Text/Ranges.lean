/-!
# Sets of code points

A set of code points is an array of closed ranges in increasing order, searched by halving.
-/

namespace SchemaTypes.Text

/-- Whether `code` lies in one of the `count` ranges from index `low` on. -/
def searchRanges (ranges : Array (Nat × Nat)) (code low : Nat) : Nat → Bool
  | 0 => false
  | count + 1 =>
    let half := count / 2
    match ranges[low + half]? with
    | none => false
    | some (first, last) =>
      if code < first then searchRanges ranges code low half
      else if code ≤ last then true
      else searchRanges ranges code (low + half + 1) (count - half)
  termination_by count => count

/-- Whether a code point lies in one of the ranges. -/
def memRanges (ranges : Array (Nat × Nat)) (code : Nat) : Bool :=
  searchRanges ranges code 0 ranges.size

end SchemaTypes.Text
