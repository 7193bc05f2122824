/-
This file says how a class of characters is looked up. A class is stored as an
ascending array of disjoint spans of code points, and membership is a binary
search in that array, so that a table of several hundred spans costs about ten
comparisons.
-/

namespace StateContainer.Text

/-- Looks for a code point in the spans with an index in `[low, high)`. The half in which the
code point cannot lie is dropped at every step, so the distance of the two bounds shrinks. -/
def searchSpans (spans : Array (Nat × Nat)) (code low high : Nat) : Bool :=
  if low < high then
    let middle := (low + high) / 2
    match spans[middle]? with
    | none => false
    | some (first, last) =>
      if code < first then searchSpans spans code low middle
      else if last < code then searchSpans spans code (middle + 1) high
      else true
  else false
termination_by high - low

/-- Whether a code point lies in one of the ascending, disjoint spans. -/
def inSpans (spans : Array (Nat × Nat)) (code : Nat) : Bool :=
  searchSpans spans code 0 spans.size

end StateContainer.Text
