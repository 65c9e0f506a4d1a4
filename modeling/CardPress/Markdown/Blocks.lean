import CardPress.Markdown.Definition
import CardPress.Markdown.Interrupt

/-!
# Block tokens

The lines of a text become a flat list of block tokens.  Every kind of block has one function that
tells whether it starts at a line and how far it reaches; containers read their content with the
function that they are given, so that nesting is bounded in one place.
-/

namespace CardPress
namespace Markdown

/-- What has been read: tokens, and the line behind them. -/
structure Reading where
  tokens : List BlockToken
  next : Nat
  deriving Repr, Inhabited

/-- A function that reads the blocks of a region between two lines. -/
abbrev Reader := Region → Nat → Nat → Reading

/-- The token that opens a container. -/
def openToken (type tag : String) (level start stop : Nat) : BlockToken :=
  { type := type ++ "_open"
    tag
    nesting := 1
    level := (level : Int)
    span := some ((start : Int), (stop : Int)) }

/-- The token that closes a container. -/
def closeToken (type tag : String) (level : Nat) : BlockToken :=
  { type := type ++ "_close"
    tag
    nesting := -1
    level := (level : Int) }

/-- The token of running text. -/
def textToken (level start stop : Nat) (content : List Char) : BlockToken :=
  { type := "inline"
    level := (level : Int)
    span := some ((start : Int), (stop : Int))
    content := String.ofList content }

/-- A container around tokens. -/
def enclose (type tag : String) (level start stop : Nat) (inner : List BlockToken) :
    List BlockToken :=
  openToken type tag level start stop :: inner ++ [closeToken type tag level]

/-- A block of running text. -/
def textBlock (type tag : String) (level start stop textStop : Nat) (content : List Char) :
    List BlockToken :=
  enclose type tag level start stop [textToken (level + 1) start textStop content]

namespace Region

/-! ## Leaf blocks -/

/-- The line behind code that goes on from an index, where `stop` is the line behind the last one
with content. -/
def codeEnd (region : Region) (limit stop index : Nat) : Nat :=
  if index < limit then
    if region.isEmpty index then region.codeEnd limit stop (index + 1)
    else if region.isCode index then region.codeEnd limit (index + 1) (index + 1)
    else stop
  else
    stop
  termination_by limit - index

/-- Indented code. -/
def code? (region : Region) (start limit : Nat) : Option Reading :=
  if region.isCode start then
    let stop := region.codeEnd limit (start + 1) (start + 1)
    some {
      tokens :=
        [{ type := "code_block"
           tag := "code"
           level := (region.level : Int)
           span := some ((start : Int), (stop : Int))
           content := String.ofList (region.textBetween start stop (region.margin + 4) ++ ['\n']) }]
      next := stop }
  else
    none

/-- The line behind the content of a fenced block, and whether a fence stands there. -/
def fenceEnd (region : Region) (fence : Fence) (limit index : Nat) : Nat × Bool :=
  if index < limit then
    let line := region.line index
    if !line.isEmpty && region.isOutside index || line.isEmpty && line.isLast then (index, false)
    else if !region.isCode index && fence.isClosedBy line.content then (index, true)
    else region.fenceEnd fence limit (index + 1)
  else
    (index, false)
  termination_by limit - index

/-- Fenced code. -/
def fence? (region : Region) (start limit : Nat) : Option Reading :=
  if region.isCode start then none
  else
    (Fence.ofContent? (region.content start)).map fun fence =>
      let (stop, isClosed) := region.fenceEnd fence limit (start + 1)
      let next := if isClosed then stop + 1 else stop
      let width := (region.line start).column.toNat
      { tokens :=
          [{ type := "fence"
             tag := "code"
             level := (region.level : Int)
             span := some ((start : Int), (next : Int))
             content := String.ofList (region.fullTextBetween (start + 1) stop width)
             markup := String.ofList (List.replicate fence.length fence.mark)
             info := String.ofList fence.info }]
        next }

/-- A thematic break. -/
def break? (region : Region) (start : Nat) : Option Reading :=
  if region.isCode start then none
  else
    (breakMark? (region.content start)).map fun mark =>
      { tokens :=
          [{ type := "hr"
             tag := "hr"
             level := (region.level : Int)
             span := some ((start : Int), (start : Int) + 1)
             markup := String.ofList [mark, mark, mark] }]
        next := start + 1 }

/-- The line behind a block of HTML that goes on from an index. -/
def htmlEnd (region : Region) (block : HtmlBlock) (limit index : Nat) : Nat :=
  if index < limit then
    let content := region.content index
    if region.isOutside index then index
    else if block.endsWith content then if content.isEmpty then index else index + 1
    else region.htmlEnd block limit (index + 1)
  else
    index
  termination_by limit - index

/-- A block of HTML. -/
def html? (region : Region) (start limit : Nat) : Option Reading :=
  if region.isCode start then none
  else
    (HtmlBlock.opening? (region.content start)).map fun block =>
      let stop : Nat :=
        if block.endsWith (region.content start) then start + 1
        else region.htmlEnd block limit (start + 1)
      { tokens :=
          [{ type := "html_block"
             level := (region.level : Int)
             span := some ((start : Int), (stop : Int))
             content := String.ofList (region.fullTextBetween start stop region.margin) }]
        next := stop }

/-- The tag of a heading. -/
def headingTag (level : Nat) : String :=
  "h" ++ toString level

/-- A heading behind number signs. -/
def heading? (region : Region) (start : Nat) : Option Reading :=
  if region.isCode start then none
  else
    (Markdown.heading? (region.content start)).map fun (level, text) =>
      { tokens :=
          textBlock "heading" (headingTag level) region.level start (start + 1) (start + 1) text
        next := start + 1 }

/-- The underline of a heading whose text goes on from an index, and its level. -/
def underline? (region : Region) (limit index : Nat) : Option (Nat × Nat) :=
  if index < limit then
    if region.isEmpty index then none
    else if region.isCode index then region.underline? limit (index + 1)
    else
      let level? := if region.isOutside index then none else underlineLevel? (region.content index)
      match level? with
      | some level => some (index, level)
      | none =>
          if (region.line index).column < 0 || !region.endsParagraph index limit then
            region.underline? limit (index + 1)
          else
            none
  else
    none
  termination_by limit - index

/-- A heading above an underline. -/
def underlined? (region : Region) (start limit : Nat) : Option Reading :=
  if region.isCode start then none
  else
    (region.underline? limit (start + 1)).map fun (stop, level) =>
      let text := trimWhite (region.textBetween start stop region.margin)
      { tokens := textBlock "heading" (headingTag level) region.level start (stop + 1) stop text
        next := stop + 1 }

/-- The line behind a paragraph that goes on from an index. -/
def paragraphEnd (region : Region) (index : Nat) : Nat :=
  if index < region.stop then
    if region.isEmpty index then index
    else if region.isContinuation index || !region.endsParagraph index region.stop then
      region.paragraphEnd (index + 1)
    else
      index
  else
    index
  termination_by region.stop - index

/-- A paragraph. -/
def paragraph (region : Region) (start : Nat) : Reading :=
  let stop := region.paragraphEnd (start + 1)
  let text := trimWhite (region.textBetween start stop region.margin)
  { tokens := textBlock "paragraph" "p" region.level start stop stop text
    next := stop }

/-- The text of the paragraph that a definition may stand in, from an index on. -/
def definitionText (region : Region) (index : Nat) : List Char :=
  if index < region.stop then
    if region.isEmpty index then []
    else if region.isContinuation index || !region.endsDefinition index region.stop then
      region.content index ++ (region.line index).ending ++ region.definitionText (index + 1)
    else
      []
  else
    []
  termination_by region.stop - index

/-- A link definition. -/
def definition? (region : Region) (start : Nat) : Option Reading :=
  if region.isCode start then none
  else
    let text :=
      region.content start ++ (region.line start).ending ++ region.definitionText (start + 1)
    (Markdown.definition? text).map fun (info, lines) =>
      let stop := start + 1 + lines
      { tokens :=
          [{ type := "definition"
             level := (region.level : Int)
             span := some ((start : Int), (stop : Int))
             definition := info }]
        next := stop }

/-! ## Tables -/

/-- The cells of one row. -/
def cellTokens (tag : String) (level index : Nat) (cells : List (List Char)) : List BlockToken :=
  cells.flatMap fun cell =>
    { openToken tag tag level index (index + 1) with span := none } ::
      textToken (level + 1) index (index + 1) (trimWhite cell) ::
      [closeToken tag tag level]

/-- The most cells that are added to the rows of a table. -/
def mostAddedCells : Int := 0x10000

/-- The rows of a table from an index on, where `added` counts the cells added so far, less those
left out. -/
def rows (region : Region) (columns limit : Nat) (added : Int) (index : Nat) : Reading :=
  if index < limit then
    let content := region.content index
    let cells := rowCells content
    let added := added + columns - cells.length
    if region.isOutside index || region.endsQuote index || (trimWhite content).isEmpty ||
        region.isCode index || mostAddedCells < added then
      { tokens := []
        next := index }
    else
      let rest := region.rows columns limit added (index + 1)
      let cells := cellTokens "td" (region.level + 3) index (fitCells columns cells)
      { rest with
        tokens := enclose "tr" "tr" (region.level + 2) index (index + 1) cells ++ rest.tokens }
  else
    { tokens := []
      next := index }
  termination_by limit - index

/-- A table. -/
def table? (region : Region) (start limit : Nat) : Option Reading :=
  (region.tableHead? start limit).map fun cells =>
    let level := region.level
    let rows := region.rows cells.length limit 0 (start + 2)
    let headRow :=
      enclose "tr" "tr" (level + 2) start (start + 1) (cellTokens "th" (level + 3) start cells)
    let head := enclose "thead" "thead" (level + 1) start (start + 1) headRow
    let body :=
      if rows.tokens.isEmpty then []
      else enclose "tbody" "tbody" (level + 1) (start + 2) rows.next rows.tokens
    { tokens := enclose "table" "table" level start rows.next (head ++ body)
      next := rows.next }

/-! ## Front matter -/

/-- The line behind the content of front matter, and whether a fence stands there; without an end
there is no front matter. -/
def frontMatterEnd? (region : Region) (length limit index : Nat) : Option (Nat × Bool) :=
  if index < limit then
    let content := region.content index
    if dropEnd (region.line index).chars isWhite = "...".toList then some (index, true)
    else if !content.isEmpty && region.isOutside index then some (index, false)
    else if !region.isCode index && Fence.isClosedBy ⟨'-', length, []⟩ content then
      some (index, true)
    else region.frontMatterEnd? length limit (index + 1)
  else
    none
  termination_by limit - index

/-- Front matter: the lines between two fences of three or more hyphens at the start of the text.
Three full stops at the start of a line are a closing fence, too. -/
def frontMatter? (region : Region) (start limit : Nat) : Option Reading :=
  let length := ((region.content start).drop 1).takeWhile (· = '-') |>.length
  if start != 0 || !region.frontMatter || length < 2 then none
  else
    (region.frontMatterEnd? (length + 1) limit (start + 1)).map fun (stop, isClosed) =>
      let next := if isClosed then stop + 1 else stop
      let lines := (List.range' (start + 1) (stop - (start + 1))).map fun index =>
        (region.line index).chars
      { tokens :=
          [{ type := "front_matter"
             level := (region.level : Int)
             span := some ((start : Int), (next : Int))
             content := String.ofList (['\n'].intercalate lines)
             markup := "---" }]
        next }

/-! ## Containers -/

/-- The lines of a quote. -/
structure QuoteExtent where
  /-- All lines, those of the quote behind their markers. -/
  lines : Array Line
  /-- The line behind the quote. -/
  stop : Nat
  /-- Whether a block of another kind ends the quote. -/
  isCut : Bool

/-- The lines of a quote that goes on from an index, where `lastEmpty` tells whether the line in
front of it is empty. -/
def quoteLines (region : Region) (limit : Nat) (lastEmpty : Bool) (lines : Array Line)
    (index : Nat) : QuoteExtent :=
  let extent (isCut : Bool) : QuoteExtent :=
    { lines
      stop := index
      isCut }
  if index < limit then
    let line := region.line index
    let marked? := if region.isOutside index then none else line.behindQuoteMarker?
    if line.isEmpty then extent false
    else
      match marked? with
      | some inner =>
          region.quoteLines limit inner.isEmpty (lines.setIfInBounds index inner) (index + 1)
      | none =>
          if lastEmpty then extent false
          else if region.endsQuote index then extent true
          else region.quoteLines limit false (lines.setIfInBounds index line.lazy) (index + 1)
  else
    extent false
  termination_by limit - index

/-- A quote. -/
def quote? (inner : Reader) (region : Region) (start limit : Nat) : Option Reading :=
  if region.isCode start then none
  else
    (region.line start).behindQuoteMarker?.map fun first =>
      let lines := region.lines.setIfInBounds start first
      let extent := region.quoteLines limit first.isEmpty lines (start + 1)
      let content :=
        inner
          { region with
            lines := extent.lines
            stop := if extent.isCut then extent.stop else region.stop
            margin := 0
            level := region.level + 1 }
          start extent.stop
      { content with
        tokens :=
          enclose "blockquote" "blockquote" region.level start content.next content.tokens }

/-- One item of a list. -/
def item (inner : Reader) (region : Region) (marker : ListMarker) (start limit : Nat) : Reading :=
  let line := region.line start
  let behind := line.column.toNat + marker.width
  let rest := line.content.drop marker.width
  let (blanks, column) := measureSpaces line.offset behind rest
  let isBlank := rest.length ≤ blanks
  let width := if isBlank || behind + 4 < column then 1 else column - behind
  let content :=
    if isBlank && region.isEmpty (start + 1) then
      { tokens := []
        next := min (start + 2) limit }
    else
      inner
        { region with
          lines :=
            region.lines.setIfInBounds start
              { line with
                indent := line.indent + marker.width + blanks
                column := (column : Int) }
          margin := behind + width
          listMargin := some region.margin
          level := region.level + 2 }
        start limit
  { content with
    tokens := enclose "list_item" "li" (region.level + 1) start content.next content.tokens }

/-- The items of a list from an index on.  Every item takes a line, so that the number of lines
bounds the fuel. -/
def items (inner : Reader) (region : Region) (limit : Nat) : Nat → ListMarker → Nat → Reading
  | 0, _, index =>
      { tokens := []
        next := index }
  | fuel + 1, marker, index =>
      let item := region.item inner marker index limit
      let next := item.next
      if limit ≤ next || region.isOutside next || region.isCode next || region.endsItem next then
        item
      else
        match ListMarker.ofContent? (region.content next) with
        | some other =>
            if marker.continues other then
              let rest := region.items inner limit fuel other next
              { rest with tokens := item.tokens ++ rest.tokens }
            else
              item
        | none => item

/-- A list. -/
def list? (inner : Reader) (region : Region) (start limit : Nat) : Option Reading :=
  (region.listMarker? start).map fun marker =>
    let items := region.items inner limit (limit - start) marker start
    let (type, tag) :=
      if marker.number.isSome then ("ordered_list", "ol") else ("bullet_list", "ul")
    { items with tokens := enclose type tag region.level start items.next items.tokens }

/-! ## All blocks -/

/-- The block that starts at a line with content. -/
def block (inner : Reader) (region : Region) (start limit : Nat) : Reading :=
  let reading? :=
    region.frontMatter? start limit <|> region.table? start limit <|> region.code? start limit <|>
      region.fence? start limit <|> region.quote? inner start limit <|> region.break? start <|>
      region.list? inner start limit <|> region.definition? start <|> region.html? start limit <|>
      region.heading? start <|> region.underlined? start limit
  reading?.getD (region.paragraph start)

/-- Containers nest at most this deep; what stands deeper is left out. -/
def mostLevels : Nat := 20

/-- The blocks between two lines.  Every block takes a line, so that the number of lines bounds the
fuel. -/
def blocksWith (inner : Reader) (region : Region) (limit : Nat) : Nat → Nat → Reading
  | 0, index =>
      { tokens := []
        next := index }
  | fuel + 1, index =>
      if limit ≤ index then
        { tokens := []
          next := index }
      else
        let start := region.skipEmpty index
        if limit ≤ start || region.isOutside start then
          { tokens := []
            next := start }
        else if mostLevels ≤ region.level then
          { tokens := []
            next := limit }
        else
          let first := region.block inner start limit
          let isGap := first.next < limit && region.isEmpty first.next
          let rest :=
            region.blocksWith inner limit fuel (if isGap then first.next + 1 else first.next)
          { rest with tokens := first.tokens ++ rest.tokens }

/-- The blocks between two lines, in at most `depth` containers. -/
def blocks : Nat → Reader
  | 0 => fun _ _ limit =>
      { tokens := []
        next := limit }
  | depth + 1 => fun region index limit =>
      region.blocksWith (blocks depth) limit (limit - index) index

end Region

/-- The block tokens of a text, with the running text still unread. -/
def blockTokens (frontMatter : Bool) (text : List Char) : List BlockToken :=
  let lines := (Line.ofText text).toArray
  let region : Region :=
    { lines
      stop := lines.size
      frontMatter := frontMatter && text.head? == some '-' }
  (Region.blocks (Region.mostLevels + 1) region 0 lines.size).tokens

end Markdown
end CardPress
