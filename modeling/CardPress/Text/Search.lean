/-!
# Searching a text

The first occurrence of one text in another.
-/

namespace CardPress
namespace Text

/-- The length of a text through the end of the first occurrence of another one. -/
def lengthThrough? (wanted : List Char) : List Char → Option Nat
  | [] => if wanted.isEmpty then some 0 else none
  | c :: rest =>
      if wanted.isPrefixOf (c :: rest) then some wanted.length
      else (lengthThrough? wanted rest).map (· + 1)

/-- Whether a text occurs in another one. -/
def occursIn (wanted chars : List Char) : Bool :=
  (lengthThrough? wanted chars).isSome

end Text
end CardPress
