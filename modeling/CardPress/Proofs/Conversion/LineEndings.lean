import CardPress.Convert
import CardPress.Proofs.Markdown.Extent

/-!
# Line endings

A text is read line by line in two places: the tokens of its blocks number the lines of the text
with its line endings unified in one go, and the source of a block is cut out of lines for which
the pairs are written as line feeds first.  Both are the lines of one text, so that numbers mean the
same line in both places, and it does not matter which line endings a text is written with.
-/

namespace CardPress

/-! ## Unified texts -/

namespace Text

/-- A text with a line feed for every line ending: for each `\r\n` first, and then for each `\r`
that is left. -/
def unified (text : String) : String :=
  String.ofList (feedReturns (feedPairs text.toList))

theorem toList_unified (text : String) : (unified text).toList = unifyEndings text.toList := by
  rw [unified, String.toList_ofList, unifyEndings_eq]

theorem feedPairs_of_not_mem {chars : List Char} (absent : '\r' ∉ chars) :
    feedPairs chars = chars := by
  fun_induction feedPairs chars with
  | case1 => rfl
  | case2 rest induction => simp at absent
  | case3 c rest single induction =>
      rw [induction fun member => absent (List.mem_cons_of_mem c member)]

theorem feedReturns_of_not_mem {chars : List Char} (absent : '\r' ∉ chars) :
    feedReturns chars = chars := by
  have kept : ∀ c ∈ chars, (if c = '\r' then '\n' else c) = id c := by
    intro c member
    have other : c ≠ '\r' := by
      rintro rfl
      exact absent member
    rw [if_neg other]
    rfl
  rw [feedReturns, List.map_congr_left kept, List.map_id]

theorem not_mem_feedReturns (chars : List Char) : '\r' ∉ feedReturns chars := by
  intro member
  obtain ⟨c, -, written⟩ := List.mem_map.mp member
  by_cases ending : c = '\r'
  · simp [ending] at written
  · simp [ending] at written

/-- Unified line endings stay as they are. -/
theorem unifyEndings_unified (text : String) :
    unifyEndings (unified text).toList = unifyEndings text.toList := by
  have absent := not_mem_feedReturns (feedPairs text.toList)
  rw [toList_unified, unifyEndings_eq text.toList, unifyEndings_eq, feedPairs_of_not_mem absent,
    feedReturns_of_not_mem absent]

/-- A change of characters that leaves the separators alone changes the pieces between them. -/
theorem splitOn_map {separator : Char} {change : Char → Char}
    (keeps : ∀ c, change c = separator ↔ c = separator) (chars : List Char) :
    List.splitOn separator (chars.map change) =
      (List.splitOn separator chars).map (List.map change) := by
  induction chars with
  | nil => rfl
  | cons c rest induction =>
      have same : (change c == separator) = (c == separator) := by
        rw [Bool.eq_iff_iff, beq_iff_eq, beq_iff_eq, keeps]
      rw [List.map_cons, List.splitOn_cons_eq_if_modifyHead, same, induction,
        List.splitOn_cons_eq_if_modifyHead]
      split
      · rfl
      · cases List.splitOn separator rest <;> rfl

end Text

/-! ## Numbered lines -/

namespace Markdown

/-- A character as tokens have it. -/
def withoutNull (c : Char) : Char :=
  if c = '\x00' then Url.replacement else c

theorem withoutNull_eq_lineFeed (c : Char) : withoutNull c = '\n' ↔ c = '\n' := by
  by_cases null : c = '\x00'
  · subst null
    decide
  · rw [withoutNull, if_neg null]

theorem normalizeText_eq (text : String) :
    normalizeText text.toList = (Text.unified text).toList.map withoutNull := by
  rw [Text.toList_unified]
  rfl

/-- The lines of pieces are the pieces in order, but for a last one that is left out when it is
blank. -/
theorem Line.exists_ofPieces (pieces : List (List Char)) :
    ∃ rest, (ofPieces pieces).map chars ++ rest = pieces ∧ rest.length ≤ 1 ∧
      ∀ piece ∈ rest, piece.all isSpace := by
  fun_induction ofPieces pieces with
  | case1 => exact ⟨[], by simp⟩
  | case2 piece blank => exact ⟨[piece], by simpa using blank⟩
  | case3 piece filled => exact ⟨[], by simp [ofChars]⟩
  | case4 piece pieces more induction =>
      obtain ⟨rest, whole, short, blank⟩ := induction
      refine ⟨rest, ?_, short, blank⟩
      rw [List.map_cons, List.cons_append, whole]
      rfl

/-- The lines that tokens number are the lines of the text. -/
theorem exists_lines (text : String) :
    ∃ rest, (Line.ofText (normalizeText text.toList)).map Line.chars ++ rest =
        (Text.lines text).map (fun line => line.toList.map withoutNull) ∧
      rest.length ≤ 1 ∧ ∀ piece ∈ rest, piece.all isSpace := by
  have same : (Text.lines text).map (fun line => line.toList.map withoutNull) =
      List.splitOn '\n' (normalizeText text.toList) := by
    rw [normalizeText_eq, Text.splitOn_map withoutNull_eq_lineFeed, Text.lines_eq,
      Text.toList_unified, List.map_map]
    congr 1
    funext piece
    exact congrArg _ String.toList_ofList
  rw [same]
  exact Line.exists_ofPieces _

/-- Tokens hang on the text with unified line endings. -/
theorem tokens_unified (frontMatter : Bool) (text : String) :
    tokens frontMatter (Text.unified text) = tokens frontMatter text := by
  simp only [tokens, normalizeText, Text.unifyEndings_unified]

end Markdown

theorem Text.lines_unified (text : String) : lines (unified text) = lines text := by
  rw [lines_eq, lines_eq, unifyEndings_unified]

/-! ## Readings and conversions -/

theorem documentOf_unified (text : String) (tokens : List BlockToken) (index : Int)
    (frontMatter : Option String) :
    documentOf (Text.unified text) tokens index frontMatter =
      documentOf text tokens index frontMatter := by
  rw [documentOf, Text.lines_unified]
  rfl

theorem Document.parse_unified (host : Host) (text : String) :
    parse host (Text.unified text) = parse host text := by
  simp only [parse, Markdown.tokens_unified, documentOf_unified]

theorem convertToJson_unified (host : Host) (options : CardOptions) (text : String) :
    convertToJson host options (Text.unified text) = convertToJson host options text := by
  simp only [convertToJson, convert, Document.parse_unified]

theorem convertOrReport_unified (host : Host) (options : CardOptions) (text : String) :
    convertOrReport host options (Text.unified text) = convertOrReport host options text := by
  rw [convertOrReport, convertToJson_unified]
  rfl

/-- Line endings do not matter.  A text and the text with its line endings unified are read as the
same document, or fail alike, and are converted to the same answer with any options.  The lines that
the source of blocks is cut out of are those of the unified text, and so are the lines that tokens
number: in the same order, with null characters replaced, and up to a last line without content. -/
theorem lineEndings_alike (host : Host) (text : String) :
    Document.parse host (Text.unified text) = Document.parse host text ∧
      (∀ options,
        convertToJson host options (Text.unified text) = convertToJson host options text ∧
          convertOrReport host options (Text.unified text) = convertOrReport host options text) ∧
      Text.lines text = (List.splitOn '\n' (Text.unified text).toList).map String.ofList ∧
      Markdown.normalizeText text.toList =
        (Text.unified text).toList.map Markdown.withoutNull ∧
      ∃ rest, (Markdown.Line.ofText (Markdown.normalizeText text.toList)).map Markdown.Line.chars ++
          rest = (Text.lines text).map (fun line => line.toList.map Markdown.withoutNull) ∧
        rest.length ≤ 1 ∧ ∀ piece ∈ rest, piece.all Markdown.isSpace := by
  refine ⟨Document.parse_unified host text, fun options =>
    ⟨convertToJson_unified host options text, convertOrReport_unified host options text⟩, ?_,
    Markdown.normalizeText_eq text, Markdown.exists_lines text⟩
  rw [Text.lines_eq, Text.toList_unified]

/-- Carriage returns alone, before a pair, and before a null character. -/
theorem lineEndings_alike_mixed :
    Text.unified "a\r\r\n\n\rb\x00\r" = "a\n\n\n\nb\x00\n" ∧
      Document.parse .plain "a\n\n\n\nb\x00\n" = Document.parse .plain "a\r\r\n\n\rb\x00\r" ∧
      Text.lines "a\r\r\n\n\rb\x00\r" = ["a", "", "", "", "b\x00", ""] := by
  have unified : Text.unified "a\r\r\n\n\rb\x00\r" = "a\n\n\n\nb\x00\n" := by decide
  obtain ⟨same, -, lines, -, -⟩ := lineEndings_alike .plain "a\r\r\n\n\rb\x00\r"
  rw [unified] at same lines
  exact ⟨unified, same, lines.trans (by decide)⟩

end CardPress
