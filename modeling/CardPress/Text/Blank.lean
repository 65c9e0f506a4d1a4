/-!
# Blank characters

The class of blank characters, and the functions that only depend on it: trimming a text, cutting
it into words, and recognising a line without content.
-/

namespace CardPress
namespace Text

/-- Blank characters: Unicode white space together with the four information separators. -/
def isBlank (c : Char) : Bool :=
  let code := c.toNat
  (9 ≤ code && code ≤ 13) || (28 ≤ code && code ≤ 32) || code == 0x85 || code == 0xA0 ||
    code == 0x1680 || (0x2000 ≤ code && code ≤ 0x200A) || code == 0x2028 || code == 0x2029 ||
    code == 0x202F || code == 0x205F || code == 0x3000

/-- Drop the blank characters at the front. -/
def trimStart (chars : List Char) : List Char :=
  chars.dropWhile isBlank

/-- Drop the blank characters at the end. -/
def trimEnd (chars : List Char) : List Char :=
  (chars.reverse.dropWhile isBlank).reverse

/-- Drop the blank characters at both ends. -/
def trim (chars : List Char) : List Char :=
  trimEnd (trimStart chars)

/-- The runs of characters that are not blank, where `run` is the one being read, last first. -/
def wordsFrom (run : List Char) : List Char → List (List Char)
  | [] => if run.isEmpty then [] else [run.reverse]
  | c :: rest =>
      if isBlank c then
        if run.isEmpty then wordsFrom [] rest else run.reverse :: wordsFrom [] rest
      else
        wordsFrom (c :: run) rest

/-- The words of a text: its maximal runs of characters that are not blank. -/
def words (chars : List Char) : List (List Char) :=
  wordsFrom [] chars

/-- A line is blank when every one of its characters is. -/
def isBlankLine (line : String) : Bool :=
  line.toList.all isBlank

@[simp]
theorem isBlankLine_empty : isBlankLine "" = true := rfl

end Text
end CardPress
