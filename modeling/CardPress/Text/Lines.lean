import CardPress.Text.Blank

/-!
# Source lines

A text is read as a list of lines.  Every line ending (`\r\n`, a lone `\r`, or `\n`) counts as one
line feed.  Positions in the list are integers; a negative one counts from the end, and a slice
keeps what exists of the range it is given.
-/

namespace CardPress
namespace Text

/-- Write every line ending as a single line feed. -/
def unifyEndings : List Char → List Char
  | [] => []
  | '\r' :: '\n' :: rest => '\n' :: unifyEndings rest
  | c :: rest => (if c = '\r' then '\n' else c) :: unifyEndings rest

/-- Write every `\r\n` as a line feed, and leave every other `\r` as it is. -/
def feedPairs : List Char → List Char
  | [] => []
  | '\r' :: '\n' :: rest => '\n' :: feedPairs rest
  | c :: rest => c :: feedPairs rest

/-- Write every `\r` as a line feed. -/
def feedReturns (chars : List Char) : List Char :=
  chars.map fun c => if c = '\r' then '\n' else c

/-- Line endings may be unified in one go, or the pairs first and then what is left of `\r`. -/
theorem unifyEndings_eq (chars : List Char) :
    unifyEndings chars = feedReturns (feedPairs chars) := by
  fun_induction feedPairs chars with
  | case1 => rfl
  | case2 rest induction => simp [unifyEndings, feedReturns, induction]
  | case3 c rest single induction => simp [unifyEndings, feedReturns, induction]

/-- The lines of a text, without their endings; there is always at least one. -/
def lines (text : String) : List String :=
  (List.splitOn '\n' (feedReturns (feedPairs text.toList))).map String.ofList

theorem lines_eq (text : String) :
    lines text = (List.splitOn '\n' (unifyEndings text.toList)).map String.ofList := by
  rw [lines, unifyEndings_eq]

/-- The number of leading entries that a slice bound stands for. -/
def bound (length : Nat) (index : Int) : Nat :=
  if index < 0 then (length + index).toNat else min index.toNat length

/-- The entries from `start` up to but not including `stop`. -/
def slice {α : Type _} (entries : List α) (start stop : Int) : List α :=
  (entries.take (bound entries.length stop)).drop (bound entries.length start)

/-- The position that an index stands for, when there is one. -/
def position? (length : Nat) (index : Int) : Option Nat :=
  if index < 0 then
    if 0 ≤ length + index then some (length + index).toNat else none
  else if index.toNat < length then some index.toNat else none

/-- The entry at an index, when there is one. -/
def at? {α : Type _} (entries : List α) (index : Int) : Option α :=
  (position? entries.length index).bind (entries[·]?)

@[simp]
theorem bound_ofNat (length index : Nat) : bound length (index : Int) = min index length := by
  rw [bound, if_neg (by omega), Int.toNat_natCast]

theorem position?_ofNat (length index : Nat) :
    position? length (index : Int) = if index < length then some index else none := by
  rw [position?, if_neg (by omega), Int.toNat_natCast]

theorem at?_ofNat {α : Type _} (entries : List α) (index : Nat) :
    at? entries (index : Int) = entries[index]? := by
  rw [at?, position?_ofNat]
  by_cases inside : index < entries.length
  · simp [inside]
  · simp [inside]

end Text
end CardPress
