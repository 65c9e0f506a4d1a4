import CardPress.Proofs.Fallible
import CardPress.Yaml.Load

/-!
# A power of sixteen as a key

A text that marks a one and any number of zeros in base sixteen as a key denotes a mapping of that
power to null.  So a text of a few thousand characters has a key that no text stands for.
-/

namespace CardPress

/-- A text without blank characters is trimmed already. -/
theorem Text.trim_of_unblank {chars : List Char} (unblank : ∀ c ∈ chars, isBlank c = false) :
    trim chars = chars := by
  have kept (chars : List Char) (unblank : ∀ c ∈ chars, isBlank c = false) :
      chars.dropWhile isBlank = chars := by
    cases chars with
    | nil => rfl
    | cons c rest => exact List.dropWhile_cons_of_neg (by simp [unblank c List.mem_cons_self])
  have back : ∀ c ∈ chars.reverse, isBlank c = false := by simpa using unblank
  rw [trim, trimStart, kept chars unblank, trimEnd, kept chars.reverse back, List.reverse_reverse]

namespace Yaml

variable {places : Nat}

/-- A power of sixteen in base sixteen. -/
def powerDigits (places : Nat) : List Char :=
  '0' :: 'x' :: '1' :: List.replicate places '0'

/-- A text whose only key is a power of sixteen. -/
def powerKey (places : Nat) : String :=
  String.ofList ('?' :: ' ' :: powerDigits places)

/-! ## Tokens -/

namespace Cursor

/-- A cursor in front of the power. -/
def atPower (places : Nat) : Cursor where
  rest := powerDigits places
  index := 2
  line := 0
  column := 2

/-- A cursor behind the power, where the text ends. -/
def behindPower (places : Nat) : Cursor where
  rest := []
  index := 5 + places
  line := 0
  column := 5 + places

theorem forward_zeros (places index line column : Nat) :
    forward places { rest := List.replicate places '0', index, line, column } =
      { rest := [], index := index + places, line, column := column + places } := by
  induction places generalizing index column with
  | zero => rfl
  | succ places induction =>
      rw [List.replicate_succ, forward]
      refine (induction (index + 1) (column + 1)).trans ?_
      simp only [Nat.add_assoc, Nat.add_comm 1]

theorem forward_power (places : Nat) :
    forward (places + 3) (atPower places) = behindPower places :=
  forward_zeros places 5 0 5

end Cursor

theorem plainLength_zeros (places : Nat) :
    plainLength false (List.replicate places '0') = places := by
  induction places with
  | zero => rfl
  | succ places induction =>
      rw [List.replicate_succ, plainLength, induction]
      rfl

theorem plainLength_power (places : Nat) : plainLength false (powerDigits places) = places + 3 := by
  change plainLength false (List.replicate places '0') + 1 + 1 + 1 = places + 3
  rw [plainLength_zeros]

/-- The power is one word, up to the end of the text. -/
theorem plainScalar_power (places : Nat) (indent : Int) :
    plainScalar false indent (.atPower places) =
      { chars := powerDigits places
        broken := false
        after := .behindPower places } := by
  have starts : (Cursor.atPower places).sees '#' = false := rfl
  have held : (Cursor.atPower places).rest = powerDigits places := rfl
  have whole : (powerDigits places).take (places + 3) = powerDigits places :=
    List.take_of_length_le (by simp [powerDigits])
  have ended : plainGap (.behindPower places) =
      { chars := []
        broken := false
        after := .behindPower places } := rfl
  simp [plainScalar, plainWords, starts, held, plainLength_power, Cursor.forward_power, whole,
    ended]

namespace Scanner

variable {number fuel : Nat} {scanner : Scanner}

theorem run_fetch (later next : Scanner) (waits : scanner.settled? number = .ok (none, later))
    (fetched : later.fetch = .ok next) :
    run (fuel + 1) number scanner = run fuel number next := by
  simp only [run, waits, fetched]

theorem run_give (token : Token) (later : Scanner)
    (settles : scanner.settled? number = .ok (some token, later)) (goesOn : token ≠ .streamEnd) :
    run (fuel + 1) number scanner = token :: run fuel (number + 1) later := by
  simp only [run, settles, if_neg goesOn]

theorem settled?_of_dropStale {later : Scanner} {token : Token}
    (stands : scanner.tokens[number]? = some token) (goesOn : scanner.finished = false)
    (drops : scanner.dropStale = .ok later) :
    scanner.settled? number =
      .ok (if later.keys.any (·.2.position == number) then none else some token, later) := by
  simp only [settled?, stands, goesOn, drops, ok_bind]
  rfl

/-- A scanner behind the mark of the key. -/
def atMark (places : Nat) : Scanner where
  cursor := { rest := ' ' :: powerDigits places, index := 1, line := 0, column := 1 }
  tokens := #[.blockMappingStart, .key]
  flow := 0
  indent := 0
  indents := [-1]
  keyAllowed := true
  keys := []
  finished := false

/-- A scanner in front of the power. -/
def atPower (places : Nat) (keys : List (Int × KeyStart)) : Scanner :=
  { atMark places with
    cursor := .atPower places
    keys }

/-- A scanner behind the power, where the text ends. -/
def behindPower (places : Nat) (keys : List (Int × KeyStart)) : Scanner :=
  { atMark places with
    cursor := .behindPower places
    tokens := #[.blockMappingStart, .key, .scalar (String.ofList (powerDigits places)) true]
    keyAllowed := false
    keys }

/-- A scanner that has come to the end of the text. -/
def atEnd (places : Nat) : Scanner :=
  { behindPower places [] with
    tokens := (behindPower places []).tokens ++ #[.blockEnd, .streamEnd]
    indent := -1
    indents := []
    finished := true }

/-- The power as the possible key of a mapping inside its own. -/
def powerStart : KeyStart where
  position := 2
  required := false
  index := 2
  line := 0
  column := 2

theorem fetch_atMark (places : Nat) :
    (atMark places).fetch = .ok (behindPower places [(0, powerStart)]) := by
  have skipped : (atMark places).skipToToken ((atMark places).cursor.rest.length + 1) =
      atPower places [] := rfl
  have saved : (atPower places []).saveKey = .ok (atPower places [(0, powerStart)]) := rfl
  have read : (atPower places []).plainText = .ok (behindPower places [(0, powerStart)]) := by
    rw [plainText, saved, ok_bind]
    exact congrArg (fun found : PlainScalar => Except.ok
      ((((atPower places [(0, powerStart)]).allowKey found.broken).move found.after).emit
        (.scalar (String.ofList found.chars) true))) (plainScalar_power places 0)
  rw [fetch, skipped]
  exact read

/-- A long power is no possible key of a mapping inside its own any more. -/
theorem dropStale_behindPower (places : Nat) :
    (behindPower places [(0, powerStart)]).dropStale =
      .ok (behindPower places (if 1024 < 5 + places - 2 then [] else [(0, powerStart)])) := by
  by_cases stale : 1024 < 5 + places - 2
  · simp [dropStale, behindPower, Cursor.behindPower, powerStart, stale]
  · simp [dropStale, behindPower, Cursor.behindPower, powerStart, stale]

theorem fetch_behindPower {keys : List (Int × KeyStart)}
    (known : keys = [] ∨ keys = [(0, powerStart)]) :
    (behindPower places keys).fetch = .ok (atEnd places) := by
  have skipped : (behindPower places keys).skipToToken
      ((behindPower places keys).cursor.rest.length + 1) = behindPower places keys := rfl
  rw [fetch, skipped]
  obtain rfl | rfl := known
  · rfl
  · rw [dropStale_behindPower, ok_bind]
    split
    · rfl
    · rfl

end Scanner

theorem scan_powerKey (places : Nat) :
    Token.scan (powerKey places) =
      [.blockMappingStart, .key, .scalar (String.ofList (powerDigits places)) true, .blockEnd,
        .streamEnd] := by
  have allowed : ('?' :: ' ' :: powerDigits places).all isAllowed := by
    simp [powerDigits, isAllowed]
  have fuel : 8 * ('?' :: ' ' :: powerDigits places).length + 16 = 8 * places + 56 := by
    simp only [powerDigits, List.length_cons, List.length_replicate]
    omega
  have dropped := Scanner.dropStale_behindPower places
  rw [powerKey, Token.scan, String.toList_ofList]
  simp only [allowed, if_true, fuel]
  rw [Scanner.run_fetch _ (.atMark places) rfl rfl,
    Scanner.run_give .blockMappingStart (.atMark places) rfl (by decide),
    Scanner.run_give .key (.atMark places) rfl (by decide),
    Scanner.run_fetch (.atMark places) _ rfl (Scanner.fetch_atMark places)]
  -- A short power may still be a key when the scanner comes back to it, and is given away later.
  by_cases stale : 1024 < 5 + places - 2
  · rw [if_pos stale] at dropped
    rw [Scanner.run_give (.scalar (String.ofList (powerDigits places)) true) _
        (Scanner.settled?_of_dropStale rfl rfl dropped) (by simp),
      Scanner.run_fetch (.behindPower places []) _ rfl (Scanner.fetch_behindPower (.inl rfl))]
    rfl
  · rw [if_neg stale] at dropped
    rw [Scanner.run_fetch _ _ (Scanner.settled?_of_dropStale rfl rfl dropped)
      (Scanner.fetch_behindPower (.inr rfl))]
    rfl

/-! ## The scalar -/

theorem resolveTag_power (places : Nat) :
    resolveTag (String.ofList (powerDigits places)) = coreTag "int" := by
  have undivided : (powerDigits places).splitOn ':' = [powerDigits places] :=
    List.splitOn_eq_singleton (by simp [powerDigits])
  have unbroken : withoutLineFeed (powerDigits places) = powerDigits places := by
    have last : (powerDigits places).getLast? ≠ some '\n' := by
      intro ends
      have member := List.mem_of_getLast? ends
      simp [powerDigits] at member
    rw [withoutLineFeed, if_neg last]
  have unreal : Shape.isReal (powerDigits places) = false := by
    have unsigned : Shape.unsigned (powerDigits places) = powerDigits places := rfl
    simp only [Shape.isReal, unsigned, undivided]
    simp [powerDigits, Shape.isDigitMark]
  have whole : Shape.isInteger (powerDigits places) = true := by
    simp [Shape.isInteger, powerDigits, Shape.unsigned, Decimal.splitSign]
  rw [resolveTag, CodeText.string?_ofString]
  simp only [shapeTag, String.toList_ofList, unbroken, unreal, whole]
  rfl

theorem natural?_power (places : Nat) :
    Decimal.natural? 16 ('1' :: List.replicate places '0') = some (Nat.pow 16 places) := by
  have grown (value : Nat) :
      (List.replicate places '0').foldlM
          (fun value c => (Decimal.digitOf? 16 c).map (value * 16 + ·)) value =
        some (value * Nat.pow 16 places) := by
    induction places generalizing value with
    | zero => simp
    | succ places induction =>
        rw [List.replicate_succ, List.foldlM_cons]
        refine (induction (value * 16)).trans ?_
        rw [Nat.mul_assoc, Nat.mul_comm 16]
        rfl
  exact (grown 1).trans (by rw [Nat.one_mul])

theorem integerOf_power (places : Nat) :
    integerOf (String.ofList (powerDigits places)) = .ok (Int.ofNat (Nat.pow 16 places)) := by
  have unsigned :
      signed (CodeText.ofString (String.ofList (powerDigits places))).points =
        .ok (false, (powerDigits places).map .char) := by
    simp [signed, powerDigits, CodeText.points_ofString]
  have trimmed : Text.trim ('1' :: List.replicate places '0') = '1' :: List.replicate places '0' :=
    Text.trim_of_unblank (by simp [Text.isBlank])
  have signless : Decimal.splitSign ('1' :: List.replicate places '0') =
      (false, '1' :: List.replicate places '0') := rfl
  have bare : Decimal.dropBase 16 ('1' :: List.replicate places '0') =
      '1' :: List.replicate places '0' := rfl
  have number : Decimal.integer? 16 ('1' :: List.replicate places '0') =
      some (Int.ofNat (Nat.pow 16 places)) := by
    simp only [Decimal.integer?, trimmed, signless, bare, natural?_power]
    rfl
  have marks : (('1' :: List.replicate places '0').map CodePoint.char).map numberMark =
      '1' :: List.replicate places '0' := by
    simp [numberMark]
  have read : readInteger 16 (('1' :: List.replicate places '0').map .char) =
      .ok (Int.ofNat (Nat.pow 16 places)) := by
    simp only [readInteger, marks, number]
    rfl
  rw [integerOf, unsigned, ok_bind]
  change (readInteger 16 (('1' :: List.replicate places '0').map .char)).bind _ = _
  rw [read]
  rfl

/-! ## Nodes and values -/

namespace Load

variable {loading later : Loading} {number : Nat}

theorem run_bind_of_ok {α β : Type} {first : Load α} {next : α → Load β} {found : α}
    (ends : first.run loading = .ok (found, later)) :
    (first >>= next).run loading = (next found).run later := by
  rw [StateT.run_bind, ends, ok_bind]

theorem node_run (number : Nat) (loading : Loading) :
    (node number).run loading = .ok (loading.nodes.getD number default, loading) := rfl

theorem meet_scalar (type : ScalarType) {tag : String} {text : CodeText} {value : Value}
    (new : loading.contents.lookup number = none)
    (stands : loading.nodes.getD number default = .scalar tag text)
    (typed : scalarType? tag = some type) (read : scalarValue type text = .ok value) :
    (meet number).run loading =
      .ok ((), { loading with contents := (number, .value value) :: loading.contents }) := by
  have found (fuel : Nat) : (scalarText (fuel + 1) number).run loading = .ok (text, loading) := by
    rw [scalarText, StateT.run_bind, node_run, stands]
    rfl
  simp [meet, meetNew, new, node_run, stands, Node.tag, typed, found, read, note, ok_bind,
    Functor.map, Except.map]

theorem meet_collection (found : Node) (new : loading.contents.lookup number = none)
    (stands : loading.nodes.getD number default = found) (untyped : scalarType? found.tag = none)
    (known : found.tag ∈ collectionTags) :
    (meet number).run loading =
      .ok ((), { loading with
        contents := (number, .list []) :: loading.contents
        waiting := loading.waiting ++ [number] }) := by
  simp [meet, meetNew, new, node_run, stands, untyped, known, note, ok_bind, pure, Except.pure]

theorem fill_mapping (host : Host) {entries : List (Nat × Nat)} {found : List (Value × Nat)}
    (stands : loading.nodes.getD number default = .mapping (coreTag "map") entries)
    (filled : (fillEntries number).run loading = .ok (found, later)) :
    (fill host number).run loading =
      .ok ((), { later with contents := (number, .mapping found) :: later.contents }) := by
  rw [fill, run_bind_of_ok (node_run number loading), stands]
  simp only [if_true]
  exact run_bind_of_ok filled

theorem fillLevels_nil (host : Host) (depth : Nat) (done : loading.waiting = []) :
    (fillLevels host depth).run loading = .ok ((), loading) := by
  cases depth with
  | zero => rfl
  | succ depth =>
      have stops : (fillLevels host (depth + 1)).run loading = pure ((), loading) := by
        simp [fillLevels, done]
      exact stops

theorem fillLevels_single (host : Host) (depth number : Nat) (waits : loading.waiting = [number])
    (filled : (fill host number).run { loading with waiting := [] } = .ok ((), later)) :
    (fillLevels host (depth + 1)).run loading = (fillLevels host depth).run later := by
  simp [fillLevels, waits, filled, ok_bind]

end Load

theorem Graph.value_of_mapping (host : Host) (graph : Graph) {met loading : Loading}
    {entries : List (Value × Nat)}
    (meets : (Load.meet graph.root).run { nodes := graph.nodes } = .ok ((), met))
    (fills : (Load.fillLevels host (graph.nodes.size + 1)).run met = .ok ((), loading))
    (stands : loading.contents.lookup graph.root = some (.mapping entries)) :
    graph.value host = .ok (.mapping (entries.map fun entry =>
      (entry.1, Value.unfold loading.contents (graph.nodes.size + 1) [] entry.2))) := by
  simp only [Graph.value, StateT.run_bind, meets, fills, ok_bind, stands]
  rfl

/-- The nodes of a mapping whose only key is an integer without a value. -/
def keyNodes (text : CodeText) : Array Node :=
  #[.mapping (coreTag "map") [(1, 2)], .scalar (coreTag "int") text, .scalar (coreTag "null") ""]

theorem ofTokens?_key {text : CodeText} (resolved : resolveTag text = coreTag "int") :
    Graph.ofTokens? [.blockMappingStart, .key, .scalar text true, .blockEnd, .streamEnd] =
      .ok (some { nodes := keyNodes text, root := 0 }) := by
  rw [keyNodes, ← resolved]
  rfl

namespace Loading

/-- What is known of a mapping of one key before it is filled. -/
def ofKey (text : CodeText) : Loading where
  nodes := keyNodes text
  contents := [(0, .list [])]

/-- What is known when its entry has been met. -/
def metEntry (text : CodeText) (value : Int) : Loading :=
  { ofKey text with
    contents := [(2, .value .null), (1, .value (.integer value)), (0, .list [])] }

/-- What is known in the end. -/
def filled (text : CodeText) (value : Int) : Loading :=
  { ofKey text with
    contents := (0, .mapping [(.integer value, 2)]) :: (metEntry text value).contents }

end Loading

namespace Load

variable {text : CodeText} {value : Int}

theorem meetEntry_key (read : integerOf text = .ok value) :
    (meetEntry (1, 2)).run (.ofKey text) = .ok ((.integer value, 2), .metEntry text value) := by
  have known : scalarValue .integer text = .ok (.integer value) := by
    rw [scalarValue, read]
    rfl
  have keyed : (meetKey 1).run (.ofKey text) =
      .ok (.integer value, { Loading.ofKey text with
        contents := [(1, .value (.integer value)), (0, .list [])] }) :=
    run_bind_of_ok (meet_scalar .integer rfl rfl rfl known)
  exact (run_bind_of_ok keyed).trans (run_bind_of_ok (meet_scalar .null rfl rfl rfl rfl))

theorem fill_key (host : Host) (read : integerOf text = .ok value) :
    (fill host 0).run (.ofKey text) = .ok ((), .filled text value) := by
  have flattened : (flatten 2 [] 0).run (.ofKey text) = .ok ([(1, 2)], .ofKey text) := by
    with_unfolding_all rfl
  have met : ([(1, 2)].mapM meetEntry).run (.ofKey text) =
      .ok ([(.integer value, 2)], .metEntry text value) := by
    rw [List.mapM_cons, List.mapM_nil]
    exact run_bind_of_ok (meetEntry_key read)
  have entries : (fillEntries 0).run (.ofKey text) =
      .ok ([(.integer value, 2)], .metEntry text value) := by
    rw [fillEntries, StateT.run_bind, StateT.run_get, pure_bind]
    exact (run_bind_of_ok flattened).trans (run_bind_of_ok met)
  exact fill_mapping host rfl entries

end Load

theorem value_key (host : Host) {text : CodeText} {value : Int}
    (read : integerOf text = .ok value) :
    Graph.value host { nodes := keyNodes text, root := 0 } =
      .ok (.mapping [(.integer value, .null)]) := by
  have untyped : scalarType? (coreTag "map") = none := by decide
  have known : coreTag "map" ∈ Load.collectionTags := by decide
  have met : (Load.meet 0).run { nodes := keyNodes text } =
      .ok ((), { Loading.ofKey text with waiting := [0] }) :=
    Load.meet_collection (.mapping (coreTag "map") [(1, 2)]) rfl rfl untyped known
  have first : (Load.fillLevels host 4).run { Loading.ofKey text with waiting := [0] } =
      (Load.fillLevels host 3).run (.filled text value) :=
    Load.fillLevels_single host 3 0 rfl (Load.fill_key host read)
  have filled := first.trans (Load.fillLevels_nil host 3 rfl)
  rw [Graph.value_of_mapping host { nodes := keyNodes text, root := 0 } met filled rfl]
  rfl

/-- A power of sixteen that is marked as a key denotes a mapping of that power to null. -/
theorem load_powerKey (host : Host) (places : Nat) :
    load host (powerKey places) =
      .ok (.mapping [(.integer (Int.ofNat (Nat.pow 16 places)), .null)]) := by
  rw [load, scan_powerKey, ofTokens?_key (resolveTag_power places), ok_bind]
  exact value_key host (integerOf_power places)

end Yaml
end CardPress
