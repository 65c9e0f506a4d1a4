import CardPress.Command.Outcome
import CardPress.Proofs.Fallible

/-!
# All or nothing

A run that ends with status zero has delivered the text of its card to one sink, and no other file
has changed.  A run that ends in any other way may have made directories, but every file and the
standard output are as they were before.  The only exception needs a host where files are emptied
before they are written: there a card that has no bytes leaves its own file empty.
-/

namespace CardPress
namespace Command

/-! ## Files in trees -/

namespace FileTree

/-- Two trees hold the same file at a place, or neither of them holds one there. -/
def AgreesAt (before after : FileTree) (place : Place) : Prop :=
  ∀ content, after.itemAt place = .file content ↔ before.itemAt place = .file content

theorem AgreesAt.refl (tree : FileTree) (place : Place) : tree.AgreesAt tree place :=
  fun _ => Iff.rfl

theorem AgreesAt.trans {first second third : FileTree} {place : Place}
    (left : first.AgreesAt second place) (right : second.AgreesAt third place) :
    first.AgreesAt third place :=
  fun content => (right content).trans (left content)

theorem lookup_filter_ne {items : List (Place × Item)} {place other : Place}
    (apart : other ≠ place) :
    (items.filter (·.1 != place)).lookup other = items.lookup other := by
  induction items with
  | nil => rfl
  | cons entry items induction =>
      obtain ⟨first, item⟩ := entry
      by_cases same : first = place
      · have passed : (other == first) = false := by simpa [same] using apart
        rw [List.filter_cons_of_neg (by simp [same]), induction, List.lookup_cons, passed]
      · rw [List.filter_cons_of_pos (by simp [same]), List.lookup_cons, List.lookup_cons,
          induction]

theorem itemAt_put_self (tree : FileTree) {place : Place} (below : place ≠ []) (item : Item) :
    (tree.put place item).itemAt place = item := by
  simp [itemAt, put, below]

theorem itemAt_put_of_ne (tree : FileTree) {place other : Place} (apart : other ≠ place)
    (item : Item) : (tree.put place item).itemAt other = tree.itemAt other := by
  have passed : (other == place) = false := by simpa using apart
  simp only [itemAt, put, List.lookup_cons, passed, lookup_filter_ne apart]

/-- At the root stands a directory. -/
theorem ne_nil_of_itemAt {tree : FileTree} {place : Place}
    (other : tree.itemAt place ≠ .directory) : place ≠ [] := by
  rintro rfl
  exact other rfl

/-- A directory in an empty place changes no file. -/
theorem agreesAt_put_directory {tree : FileTree} {place : Place}
    (free : tree.itemAt place = .missing) (other : Place) :
    tree.AgreesAt (tree.put place .directory) other := by
  intro content
  by_cases same : other = place
  · have empty : tree.itemAt place ≠ .directory := by simp [free]
    rw [same, tree.itemAt_put_self (ne_nil_of_itemAt empty), free]
    simp
  · rw [tree.itemAt_put_of_ne same]

/-- A path only leads through directories, so that a file at a place where no directory stands
changes no way. -/
theorem resolve_put_file {tree : FileTree} {place target : Place} {path : Path}
    (other : tree.itemAt place ≠ .directory) (content : List UInt8)
    (leads : tree.resolve path = .ok target) :
    (tree.put place (.file content)).resolve path = .ok target := by
  have step {here next : Place} {part : String} (stepped : tree.step here part = .ok next) :
      (tree.put place (.file content)).step here part = .ok next := by
    have passable : tree.itemAt here = .directory := by
      unfold FileTree.step at stepped
      split at stepped
      · cases stepped
      · cases stepped
      · assumption
    have apart : here ≠ place := by
      rintro rfl
      exact other passable
    simpa only [FileTree.step, tree.itemAt_put_of_ne apart] using stepped
  have walk (parts : List String) (start : Place)
      (walked : parts.foldlM tree.step start = .ok target) :
      parts.foldlM (tree.put place (.file content)).step start = .ok target := by
    induction parts generalizing start with
    | nil => exact walked
    | cons part parts induction =>
        rw [List.foldlM_cons] at walked ⊢
        obtain ⟨next, stepped, rest⟩ := bind_eq_ok.mp walked
        exact bind_eq_ok.mpr ⟨next, step stepped, induction next rest⟩
  unfold resolve at leads ⊢
  split at leads
  · cases leads
  · next free =>
    rw [if_neg free]
    exact walk path.parts _ leads

end FileTree

/-! ## Changes -/

/-- Two trees hold the same files, whatever directories they have. -/
def FileTree.SameFiles (before after : FileTree) : Prop :=
  ∀ place, before.AgreesAt after place

theorem Change.andThen_of_ok {change : Change} (done : change.result = .ok ())
    (next : FileTree → Change) : change.andThen next = next change.tree := by
  rw [Change.andThen, done]

theorem Change.andThen_of_error {change : Change} {fault : FileFault}
    (failed : change.result = .error fault) (next : FileTree → Change) :
    change.andThen next = change := by
  rw [Change.andThen, failed]

theorem FileTree.SameFiles.andThen {tree : FileTree} {change : Change}
    {next : FileTree → Change} (first : tree.SameFiles change.tree)
    (second : ∀ middle : FileTree, middle.SameFiles (next middle).tree) :
    tree.SameFiles (change.andThen next).tree := by
  intro place
  cases ended : change.result with
  | ok =>
      rw [Change.andThen_of_ok ended]
      exact (first place).trans (second change.tree place)
  | error fault =>
      rw [Change.andThen_of_error ended]
      exact first place

namespace FileTree

theorem sameFiles_makeDirectory (tree : FileTree) (path : Path) :
    tree.SameFiles (tree.makeDirectory path).tree := by
  intro place
  unfold makeDirectory
  split
  · exact AgreesAt.refl tree place
  · split
    · exact agreesAt_put_directory ‹_› place
    · exact AgreesAt.refl tree place
    · exact AgreesAt.refl tree place

theorem sameFiles_makeAll (root : String) (parts : List String) (tree : FileTree) :
    tree.SameFiles (tree.makeAll root parts).tree := by
  induction parts with
  | nil => exact tree.sameFiles_makeDirectory _
  | cons part outer induction =>
      rw [makeAll]
      split
      · exact induction.andThen fun middle => middle.sameFiles_makeDirectory _
      · exact tree.sameFiles_makeDirectory _

/-- A file is stored where its path leads to, or nothing is done at all. -/
theorem store_cases (tree : FileTree) (path : Path) (content : List UInt8) :
    (∃ fault, tree.store path content = { tree, result := .error fault }) ∨
      ∃ place, tree.resolve path = .ok place ∧ tree.itemAt place ≠ .directory ∧
        tree.store path content = { tree := tree.put place (.file content) } := by
  unfold store
  split
  case h_1 fault _ => exact .inl ⟨fault, rfl⟩
  case h_2 place leads =>
    split
    · exact .inl ⟨.isDirectory, rfl⟩
    · exact .inr ⟨place, leads, ‹_›, rfl⟩

theorem sameFiles_makeDirectories (tree : FileTree) (path : Path) :
    tree.SameFiles (tree.makeDirectories path).tree :=
  sameFiles_makeAll _ _ tree

/-- A tree has come from another by a file where a path leads to; all other files are the same. -/
def Puts (before after : FileTree) (path : Path) (content : List UInt8) : Prop :=
  ∃ place, after.resolve path = .ok place ∧ after.itemAt place = .file content ∧
    ∀ other ≠ place, before.AgreesAt after other

/-- A writing that fails may have made directories, but all files are as they were.  One that comes
to its end puts the file where its path leads to, and keeps all others. -/
theorem write_cases (tree : FileTree) (path : Path) (content : List UInt8) :
    (∃ fault, (tree.write path content).result = .error fault ∧
        tree.SameFiles (tree.write path content).tree) ∨
      (tree.write path content).result = .ok () ∧
        tree.Puts (tree.write path content).tree path content := by
  have directories := tree.sameFiles_makeDirectories path.parent
  rw [write]
  cases made : (tree.makeDirectories path.parent).result with
  | error fault =>
      rw [Change.andThen_of_error made]
      exact .inl ⟨fault, made, directories⟩
  | ok =>
      rw [Change.andThen_of_ok made]
      generalize (tree.makeDirectories path.parent).tree = middle at directories ⊢
      obtain ⟨fault, stored⟩ | ⟨place, leads, free, stored⟩ := middle.store_cases path content
      · rw [stored]
        exact .inl ⟨fault, rfl, directories⟩
      · rw [stored]
        refine .inr ⟨rfl, place, resolve_put_file free content leads,
          itemAt_put_self _ (ne_nil_of_itemAt free) _, ?_⟩
        intro other apart
        refine (directories other).trans fun found => ?_
        rw [itemAt_put_of_ne _ apart]

end FileTree

/-! ## What a command line asks for -/

/-- The options in a file: they are laid over the standard ones. -/
def HoldsOptions (host : Host) (find : Path → Item) (path : Path) (options : CardOptions) : Prop :=
  ∃ content text, find path = .file content ∧ Text.decodeUtf8 content = .ok text ∧
    ({} : CardOptions).overlayText host (String.ofList (Text.unifyEndings text.toList)) =
      .ok options

namespace Arguments

section asks

variable (arguments : Arguments) (host : Host) (find : Path → Item)

/-- The options before the flag for compact text is looked at: those of the configuration file,
which may stand in a home directory, or the standard ones if none is named. -/
def Configures (options : CardOptions) : Prop :=
  match arguments.config.filter (· != "") with
  | some word =>
      ∃ path, (Path.parse word).expand host.home? = .ok path ∧
        Command.HoldsOptions host find path options
  | none => options = {}

/-- The options of a run; the flag for compact text takes away the indentation. -/
def Sets (options : CardOptions) : Prop :=
  ∃ configured, arguments.Configures host find configured ∧
    options = if arguments.compact then { configured with indent := none } else configured

/-- The sink that a command line names, and the JSON text of the card of its input. -/
def Asks (standardInput : List UInt8) (sink : Sink) (json : CodeText) : Prop :=
  ∃ source text options,
    Source.locate host find arguments.input = .ok source ∧
      Sink.locate find source arguments.output = .ok sink ∧
      source.read find standardInput = .ok text ∧
      arguments.Sets host find options ∧ convertToJson host options text = .ok json

end asks

end Arguments

variable {host : Host}

theorem configOptions_eq_ok {find : Path → Item} {path : Path} {options : CardOptions} :
    (configOptions host find path).2 = .ok options ↔ HoldsOptions host find path options := by
  unfold configOptions HoldsOptions
  cases found : find path with
  | missing => simp
  | directory => simp
  | file content =>
      cases decoded : Text.decodeUtf8 content with
      | error fault => simp [decoded]
      | ok text => simp [decoded, mapError_eq_ok]

namespace Arguments

variable {arguments : Arguments} {find : Path → Item}

theorem options_eq_ok {options : CardOptions} :
    (arguments.options host find).2 = .ok options ↔ arguments.Sets host find options := by
  have compacted (found : Except Stop CardOptions) :
      (if arguments.compact then found.map fun options => { options with indent := none }
        else found) = .ok options ↔
      ∃ configured, found = .ok configured ∧
        options = if arguments.compact then { configured with indent := none } else configured := by
    by_cases compact : arguments.compact
    · simp only [compact, if_true, map_eq_ok, @eq_comm _ options]
    · simp [compact]
  unfold Arguments.options Sets Configures
  cases named : arguments.config.filter (· != "") with
  | none =>
      refine (compacted (.ok {})).trans (exists_congr fun configured => and_congr_left' ?_)
      rw [Except.ok.injEq, eq_comm]
  | some word =>
      cases expanded : (Path.parse word).expand host.home? with
      | error fault =>
          simp only [expanded]
          refine (compacted (.error (.ofHome fault))).trans ?_
          simp
      | ok path =>
          simp only [expanded]
          refine (compacted (configOptions host find path).2).trans ?_
          simp only [configOptions_eq_ok, Except.ok.injEq, exists_eq_left']

theorem card_eq_ok {text : String} {json : CodeText} :
    (arguments.card host find text).2 = .ok json ↔
      ∃ options, arguments.Sets host find options ∧
        convertToJson host options text = .ok json := by
  simp only [← options_eq_ok]
  unfold Arguments.card
  split
  · rename_i log stop failed
    simp [failed]
  · rename_i log options loaded
    simp [loaded, mapError_eq_ok]

/-- A plan delivers exactly what its command line asks for. -/
theorem plan_result_eq_ok {standardInput : List UInt8} {delivery : Delivery} :
    (arguments.plan host find standardInput).result = .ok delivery ↔
      ∃ json, arguments.Asks host find standardInput delivery.sink json ∧
        delivery.text = json ++ .ofString "\n" := by
  unfold Arguments.plan Asks
  cases located : Source.locate host find arguments.input with
  | error fault => simp [bind, Except.bind]
  | ok source =>
      cases led : Sink.locate find source arguments.output with
      | error fault => simp [led, bind, Except.bind]
      | ok sink =>
          cases held : source.read find standardInput with
          | error fault => simp [led, held, bind, Except.bind, pure, Except.pure]
          | ok text =>
              simp only [led, bind, Except.bind, pure, Except.pure, held, map_eq_ok, card_eq_ok]
              constructor
              · rintro ⟨json, ⟨options, set, converted⟩, rfl⟩
                exact ⟨json, ⟨source, text, options, rfl, led, held, set, converted⟩, rfl⟩
              · rintro ⟨json, ⟨_, _, options, same, goes, read, set, converted⟩, written⟩
                obtain rfl := Except.ok.inj same
                obtain rfl := Except.ok.inj (held.symm.trans read)
                have sunk : sink = delivery.sink := Except.ok.inj (led.symm.trans goes)
                refine ⟨json, ⟨options, set, converted⟩, ?_⟩
                rw [sunk, ← written]

/-- A command line asks for one text in one sink. -/
theorem Asks.unique {standardInput : List UInt8} {first second : Sink} {left right : CodeText}
    (one : arguments.Asks host find standardInput first left)
    (other : arguments.Asks host find standardInput second right) :
    first = second ∧ left = right := by
  have planned :
      (arguments.plan host find standardInput).result = .ok ⟨first, left ++ .ofString "\n"⟩ :=
    plan_result_eq_ok.mpr ⟨left, one, rfl⟩
  have again :
      (arguments.plan host find standardInput).result = .ok ⟨second, right ++ .ofString "\n"⟩ :=
    plan_result_eq_ok.mpr ⟨right, other, rfl⟩
  have same := Except.ok.inj (planned.symm.trans again)
  obtain ⟨sink, text⟩ := Delivery.mk.inj same
  exact ⟨sink, CodeText.append_right_cancel text⟩

end Arguments

/-! ## Runs -/

/-- After a run the text stands in one sink, and nothing else has changed: a text on the standard
output leaves all files as they were, a text in a file leaves all others and an empty output. -/
def Outcome.Delivers (outcome : Outcome) (before : FileTree) (text : CodeText) : Sink → Prop
  | .standardOutput => text = .ofString outcome.output ∧ before.SameFiles outcome.tree
  | .file path =>
      outcome.output = "" ∧
        ∃ written, text = .ofString written ∧
          before.Puts outcome.tree path (Text.encodeUtf8 written)

/-- A plan without a delivery touches neither a file nor the standard output. -/
theorem Plan.perform_of_error {plan : Plan} {stop : Stop} (stopped : plan.result = .error stop)
    (host : Host) (tree : FileTree) :
    (plan.perform host tree).status = stop.status ∧ (plan.perform host tree).output = "" ∧
      (plan.perform host tree).tree = tree := by
  rw [perform, stopped]
  exact ⟨rfl, rfl, rfl⟩

/-- A delivery to a file puts its bytes there, or cannot write the file, or has no bytes.  In the
last two cases all files are as they were, unless the host has emptied the file by then. -/
theorem Delivery.toFile_cases (host : Host) (delivery : Delivery) (path : Path) (tree : FileTree) :
    (∃ written, delivery.text = .ofString written ∧ (delivery.toFile host path tree).2 = .ok () ∧
        tree.Puts (delivery.toFile host path tree).1 path (Text.encodeUtf8 written)) ∨
      (∃ fault, (delivery.toFile host path tree).2 = .error (.file fault) ∧
        tree.SameFiles (delivery.toFile host path tree).1) ∨
      (∀ written, delivery.text ≠ .ofString written) ∧
        (delivery.toFile host path tree).2 = .error .unencodable ∧
        (tree.SameFiles (delivery.toFile host path tree).1 ∨
          host.isAtomic = false ∧ tree.Puts (delivery.toFile host path tree).1 path []) := by
  unfold toFile
  cases read : delivery.text.string? with
  | some written =>
      have chars := CodeText.string?_eq_some.mp read
      obtain ⟨fault, failed, same⟩ | ⟨done, placed⟩ :=
        tree.write_cases path (Text.encodeUtf8 written)
      · exact .inr (.inl ⟨fault, by simp only [failed]; rfl, same⟩)
      · exact .inl ⟨written, chars, by simp only [done]; rfl, placed⟩
  | none =>
      have halved (written : String) : delivery.text ≠ .ofString written := by
        intro same
        rw [CodeText.string?_eq_some.mpr same] at read
        cases read
      obtain ⟨fault, failed, same⟩ | ⟨done, placed⟩ := tree.write_cases path []
      · refine .inr (.inl ⟨fault, ?_, ?_⟩)
        · simp only [failed]
        · simpa only [failed] using same
      · refine .inr (.inr ⟨halved, by simp only [done], ?_⟩)
        cases atomic : host.isAtomic with
        | true =>
            simp only [done, if_true]
            exact .inl (tree.sameFiles_makeDirectories path.parent)
        | false =>
            simp only [done, Bool.false_eq_true, if_false]
            exact .inr ⟨trivial, placed⟩

/-- A plan with a delivery to a file leaves what the delivery leaves, and no output. -/
theorem Plan.perform_of_file {plan : Plan} {delivery : Delivery} {path : Path}
    (planned : plan.result = .ok delivery) (goes : delivery.sink = .file path) (host : Host)
    (tree : FileTree) :
    (plan.perform host tree).output = "" ∧
      (plan.perform host tree).tree = (delivery.toFile host path tree).1 ∧
      (plan.perform host tree).status = (delivery.toFile host path tree).2.map fun _ => 0 := by
  simp only [perform, planned, goes]
  split
  · next after delivered =>
    rw [delivered]
    exact ⟨rfl, rfl, rfl⟩
  · next after fault delivered =>
    rw [delivered]
    exact ⟨rfl, rfl, rfl⟩

/-- A plan with a delivery delivers it, unless its file cannot be written or its text has no
bytes. -/
theorem Plan.perform_of_ok {plan : Plan} {delivery : Delivery}
    (planned : plan.result = .ok delivery) (host : Host) (tree : FileTree) :
    ((plan.perform host tree).status = .ok 0 ∧
        (plan.perform host tree).Delivers tree delivery.text delivery.sink) ∨
      (plan.perform host tree).output = "" ∧
        ((∃ path fault, delivery.sink = .file path ∧
            (plan.perform host tree).status = .error (.file fault) ∧
            tree.SameFiles (plan.perform host tree).tree) ∨
          (∀ written, delivery.text ≠ .ofString written) ∧
            (plan.perform host tree).status = .error .unencodable ∧
            (tree.SameFiles (plan.perform host tree).tree ∨
              host.isAtomic = false ∧ ∃ path, delivery.sink = .file path ∧
                tree.Puts (plan.perform host tree).tree path [])) := by
  cases goes : delivery.sink with
  | standardOutput =>
      cases read : delivery.text.string? with
      | some written =>
          have ended : plan.perform host tree =
              { log := plan.log ++ [delivery.sink.closing], output := written, tree,
                status := .ok 0 } := by
            simp only [perform, planned, goes, read]
          rw [ended]
          exact .inl ⟨rfl, CodeText.string?_eq_some.mp read,
            fun place => FileTree.AgreesAt.refl tree place⟩
      | none =>
          have ended : plan.perform host tree =
              { log := plan.log, tree, status := .error .unencodable } := by
            simp only [perform, planned, goes, read]
          rw [ended]
          refine .inr ⟨rfl, .inr ⟨fun written same => ?_, rfl,
            .inl fun place => FileTree.AgreesAt.refl tree place⟩⟩
          rw [CodeText.string?_eq_some.mpr same] at read
          cases read
  | file path =>
      obtain ⟨output, left, status⟩ := perform_of_file planned goes host tree
      rw [left, status, output]
      obtain ⟨written, chars, done, placed⟩ | ⟨fault, failed, same⟩ | ⟨halved, failed, kept⟩ :=
        delivery.toFile_cases host path tree
      · refine .inl ⟨by rw [done]; rfl, output, written, chars, ?_⟩
        rw [left]
        exact placed
      · exact .inr ⟨rfl, .inl ⟨path, fault, rfl, by rw [failed]; rfl, same⟩⟩
      · exact .inr ⟨rfl, .inr ⟨halved, by rw [failed]; rfl,
          kept.imp_right fun ⟨emptied, puts⟩ => ⟨emptied, path, rfl, puts⟩⟩⟩

namespace Arguments

/-- A run has nothing to deliver, delivers what is asked for, cannot write its file, or has a card
without bytes. -/
theorem run_cases (arguments : Arguments) (host : Host) (tree : FileTree)
    (standardInput : List UInt8) :
    (∃ stop : Stop, (∀ sink json, ¬ arguments.Asks host tree.find standardInput sink json) ∧
        (arguments.run host tree standardInput).status = stop.status ∧
        (arguments.run host tree standardInput).output = "" ∧
        tree.SameFiles (arguments.run host tree standardInput).tree) ∨
      ∃ sink json, arguments.Asks host tree.find standardInput sink json ∧
        (((arguments.run host tree standardInput).status = .ok 0 ∧
            (arguments.run host tree standardInput).Delivers tree (json ++ .ofString "\n") sink) ∨
          (arguments.run host tree standardInput).output = "" ∧
            ((∃ path fault, sink = .file path ∧
                (arguments.run host tree standardInput).status = .error (.file fault) ∧
                tree.SameFiles (arguments.run host tree standardInput).tree) ∨
              (∀ written, json ≠ .ofString written) ∧
                (arguments.run host tree standardInput).status = .error .unencodable ∧
                (tree.SameFiles (arguments.run host tree standardInput).tree ∨
                  host.isAtomic = false ∧ ∃ path, sink = .file path ∧
                    tree.Puts (arguments.run host tree standardInput).tree path []))) := by
  rw [run]
  cases planned : (arguments.plan host tree.find standardInput).result with
  | error stop =>
      obtain ⟨status, output, same⟩ := Plan.perform_of_error planned host tree
      refine .inl ⟨stop, ?_, status, output, fun place => by rw [same]; exact .refl tree place⟩
      intro sink json asks
      have delivers : (arguments.plan host tree.find standardInput).result =
          .ok ⟨sink, json ++ .ofString "\n"⟩ :=
        plan_result_eq_ok.mpr ⟨json, asks, rfl⟩
      cases planned.symm.trans delivers
  | ok delivery =>
      obtain ⟨json, asks, text⟩ := plan_result_eq_ok.mp planned
      have ended := Plan.perform_of_ok planned host tree
      rw [text] at ended
      have halved (whole : ∀ written, json ++ .ofString "\n" ≠ .ofString written)
          (written : String) : json ≠ .ofString written := by
        rintro rfl
        exact whole (written ++ "\n") (CodeText.ofString_append written "\n").symm
      refine .inr ⟨delivery.sink, json, asks, ended.imp_right fun ⟨output, failed⟩ =>
        ⟨output, failed.imp_right fun ⟨whole, kept⟩ => ⟨halved whole, kept⟩⟩⟩

end Arguments

theorem Stop.status_ne_zero (stop : Stop) : stop.status ≠ .ok 0 := by
  cases stop <;> simp [Stop.status]

/-- A run delivers all or nothing.  With status zero, one sink holds the JSON text of the card of
the input and a line feed, made with the options that the command line sets, and nothing else has
changed.  With any other end there is no output and no file has changed, but for the file of a card
without bytes, which a host may have emptied before this shows.  Only a file that cannot be written,
or a card without bytes, keeps a card that exists from being delivered. -/
theorem Arguments.run_allOrNothing (arguments : Arguments) (host : Host) (tree : FileTree)
    (standardInput : List UInt8) :
    ((arguments.run host tree standardInput).status = .ok 0 →
        ∃ sink json, arguments.Asks host tree.find standardInput sink json ∧
          (arguments.run host tree standardInput).Delivers tree (json ++ .ofString "\n") sink) ∧
      ((arguments.run host tree standardInput).status ≠ .ok 0 →
        ((arguments.run host tree standardInput).status = .ok 1 ∨
            ∃ fault, (arguments.run host tree standardInput).status = .error fault) ∧
          (arguments.run host tree standardInput).output = "" ∧
          (tree.SameFiles (arguments.run host tree standardInput).tree ∨
            host.isAtomic = false ∧
              (arguments.run host tree standardInput).status = .error .unencodable ∧
              ∃ path json, arguments.Asks host tree.find standardInput (.file path) json ∧
                tree.Puts (arguments.run host tree standardInput).tree path [])) ∧
      ∀ sink json, arguments.Asks host tree.find standardInput sink json →
        (arguments.run host tree standardInput).status = .ok 0 ∨
          (∃ path fault, sink = .file path ∧
            (arguments.run host tree standardInput).status = .error (.file fault)) ∨
          (∀ written, json ≠ .ofString written) ∧
            (arguments.run host tree standardInput).status = .error .unencodable := by
  obtain ⟨stop, nothing, status, output, same⟩ | ⟨sink, json, asks, ⟨status, delivered⟩ |
    ⟨output, ⟨path, fault, goes, status, same⟩ | ⟨halved, status, kept⟩⟩⟩ :=
    arguments.run_cases host tree standardInput
  · refine ⟨fun zero => absurd (status.symm.trans zero) stop.status_ne_zero, fun _ => ?_, ?_⟩
    · refine ⟨?_, output, .inl same⟩
      rw [status]
      cases stop with
      | refused message => exact .inl rfl
      | fault fault => exact .inr ⟨fault, rfl⟩
    · intro sink json asks
      exact absurd asks (nothing sink json)
  · refine ⟨fun _ => ⟨sink, json, asks, delivered⟩, fun nonzero => absurd status nonzero, ?_⟩
    intro _ _ _
    exact .inl status
  · refine ⟨fun zero => ?_, fun _ => ⟨.inr ⟨_, status⟩, output, .inl same⟩, ?_⟩
    · cases status.symm.trans zero
    · intro other text again
      obtain ⟨rfl, -⟩ := asks.unique again
      exact .inr (.inl ⟨path, fault, goes, status⟩)
  · refine ⟨fun zero => ?_, fun _ => ⟨.inr ⟨_, status⟩, output, ?_⟩, ?_⟩
    · cases status.symm.trans zero
    · obtain same | ⟨emptied, path, rfl, puts⟩ := kept
      · exact .inl same
      · exact .inr ⟨emptied, status, path, json, asks, puts⟩
    · intro other text again
      obtain ⟨-, rfl⟩ := asks.unique again
      exact .inr (.inr ⟨halved, status⟩)

/-- A host with one home directory. -/
def homeHost : Host :=
  { Host.plain with home? := fun user => if user = "" then some "/home" else none }

/-- A working directory with a note, and its settings in the home directory. -/
def noteTree : FileTree :=
  { items :=
      [(["work"], .directory), (["work", "note.md"], .file (Text.encodeUtf8 "# Hi\n")),
        (["home"], .directory), (["home", "card.yaml"], .file (Text.encodeUtf8 "lang: de\n"))]
    workingDirectory := ["work"] }

/-- A note that goes into a directory that is not there yet. -/
def noteArguments : Arguments :=
  { input := "note.md", output := some "cards/de/note.json", config := some "~/card.yaml"
    compact := true }

/-- A note that goes where a directory stands, on a way whose first part is not there yet. -/
def blockedArguments : Arguments :=
  { noteArguments with output := some "cards/.." }

/-- One run makes two directories and delivers its card; another one fails with one directory made
and every file as it was. -/
theorem Arguments.run_allOrNothing_newDirectory :
    (∃ sink json, noteArguments.Asks homeHost noteTree.find [] sink json ∧
        (noteArguments.run homeHost noteTree []).Delivers noteTree (json ++ .ofString "\n") sink) ∧
      (blockedArguments.run homeHost noteTree []).tree.itemAt ["work", "cards"] = .directory ∧
      noteTree.itemAt ["work", "cards"] = .missing ∧
      noteTree.SameFiles (blockedArguments.run homeHost noteTree []).tree := by
  have delivered : (noteArguments.run homeHost noteTree []).status = .ok 0 :=
    toOption_eq_some.mp (by decide +kernel)
  have blocked : (blockedArguments.run homeHost noteTree []).status ≠ .ok 0 := by
    rw [Ne, ← toOption_eq_some]
    decide +kernel
  obtain ⟨-, -, same | ⟨emptied, -⟩⟩ :=
    (blockedArguments.run_allOrNothing homeHost noteTree []).2.1 blocked
  · exact ⟨(noteArguments.run_allOrNothing homeHost noteTree []).1 delivered, by decide +kernel,
      by decide, same⟩
  · cases emptied

end Command
end CardPress
