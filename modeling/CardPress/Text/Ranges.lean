/-!
# Sets of code points

A class of characters as an ascending list of code point ranges, and the test whether a character
belongs to it.
-/

namespace CardPress
namespace Text

/-- Whether a code point lies in one of the ranges, which are ascending and inclusive. -/
def inRanges (code : Nat) : List (Nat × Nat) → Bool
  | [] => false
  | (first, last) :: ranges =>
      if code < first then false
      else if code ≤ last then true
      else inRanges code ranges

end Text
end CardPress
