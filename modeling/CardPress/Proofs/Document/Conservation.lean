import CardPress.Proofs.Document.InlineNesting
import Mathlib.Data.List.Chain
import Mathlib.Data.List.Forall2

/-!
# Conservation of running text

Reading inline tokens loses no text and makes none up, whether the tokens are balanced or not.  The
leaves of the tree spell what the tokens spell, running text is joined wherever two pieces of it
meet, and each opening token becomes one container.  A container holds what the tokens inside it are
read as on their own; it has the text of its leaves when it is closed, and no text when it is not.
-/

namespace CardPress

/-! ## Texts of tokens -/

/-- The types of the tokens that break a line. -/
def lineBreakTypes : List String :=
  ["softbreak", "hardbreak"]

/-- The types of the tokens that open or close a container. -/
def containerTypes : List String :=
  ["strong_open", "em_open", "s_open", "link_open", "strong_close", "em_close", "s_close",
    "link_close"]

namespace InlineToken

/-- The text that a token spells; an image spells the text in its place. -/
def spelled (token : InlineToken) : String :=
  if token.type ∈ lineBreakTypes then "\n"
  else if token.type ∈ containerTypes then ""
  else if token.type = "image" then
    firstNonempty token.content ((token.attributeText? "alt").getD "")
  else token.content

/-- The text that tokens spell one after the other. -/
def allSpelled (tokens : List InlineToken) : String :=
  String.join (tokens.map spelled)

@[simp]
theorem allSpelled_nil : allSpelled [] = "" := rfl

@[simp]
theorem allSpelled_cons (token : InlineToken) (tokens : List InlineToken) :
    allSpelled (token :: tokens) = token.spelled ++ allSpelled tokens := by
  rw [allSpelled, List.map_cons, String.join_cons, allSpelled]

theorem allSpelled_append (front back : List InlineToken) :
    allSpelled (front ++ back) = allSpelled front ++ allSpelled back := by
  induction front with
  | nil => simp
  | cons token front induction => simp [induction, String.append_assoc]

/-- A token that becomes a node denotes it: only running text and containers are left out. -/
theorem denotes_of_role {token : InlineToken} {node : Inline} (role : token.role = .node node) :
    token.Denotes node := by
  by_cases known : token.type ∈ inlineTypes
  · simp only [inlineTypes, List.mem_cons, List.not_mem_nil, or_false] at known
    rcases known with type | type | type | type | type | type | type | type | type | type | type |
      type | type | type | type <;> simp only [InlineToken.role, type] at role <;> cases role <;>
      exact ⟨type, by simp⟩
  · rw [role_of_unknown known] at role
    cases role
    exact ⟨rfl, known, rfl, rfl⟩

/-- A token spells the text that it adds to the leaves. -/
theorem spelled_eq (token : InlineToken) :
    token.spelled =
      match token.role with
      | .text content => content
      | .node node => node.leafText
      | .opening _ => ""
      | .closing => "" := by
  by_cases known : token.type ∈ inlineTypes
  · have image (content : String) (alt : Option String) :
        firstNonempty content (alt.getD "") =
          (if content.isEmpty then alt else some content).getD "" := by
      unfold firstNonempty
      split <;> rfl
    simp only [inlineTypes, List.mem_cons, List.not_mem_nil, or_false] at known
    rcases known with type | type | type | type | type | type | type | type | type | type | type |
      type | type | type | type <;>
      simp [InlineToken.role, spelled, lineBreakTypes, containerTypes, type, Inline.leafText,
        imageNode, image]
  · rw [role_of_unknown known]
    simp only [inlineTypes, List.mem_cons, List.not_mem_nil, or_false, not_or] at known
    simp [spelled, lineBreakTypes, containerTypes, known, Inline.leafText]

theorem spelled_opening {token : InlineToken} {start : Opening}
    (opens : token.role = .opening start) : token.spelled = "" := by
  rw [spelled_eq, opens]

theorem spelled_closing {token : InlineToken} (closes : token.role = .closing) :
    token.spelled = "" := by
  rw [spelled_eq, closes]

end InlineToken

/-! ## Trees -/

namespace Inline

/-- The nodes right below a node. -/
def children : Inline → List Inline
  | marked _ _ children _ => children
  | link _ _ _ children _ => children
  | _ => []

mutual

/-- The containers at and below a node, each in front of those inside it. -/
def containers : Inline → List Inline
  | marked mark text children raw => .marked mark text children raw :: allContainers children
  | link text url title children raw => .link text url title children raw :: allContainers children
  | _ => []

/-- The containers at and below some siblings, from left to right. -/
def allContainers : List Inline → List Inline
  | [] => []
  | node :: nodes => node.containers ++ allContainers nodes

end

/-- All lists of siblings of a forest: its trees, and the children of each container. -/
def sequences (nodes : List Inline) : List (List Inline) :=
  nodes :: (allContainers nodes).map children

theorem allContainers_append (front back : List Inline) :
    allContainers (front ++ back) = allContainers front ++ allContainers back := by
  induction front with
  | nil => rfl
  | cons node front induction =>
      rw [List.cons_append, allContainers, allContainers, induction, List.append_assoc]

theorem mem_allContainers {node : Inline} {nodes : List Inline} :
    node ∈ allContainers nodes ↔ ∃ tree ∈ nodes, node ∈ tree.containers := by
  induction nodes with
  | nil => simp [allContainers]
  | cons tree nodes induction => simp [allContainers, induction]

theorem allLeafText_append (front back : List Inline) :
    allLeafText (front ++ back) = allLeafText front ++ allLeafText back := by
  induction front with
  | nil => simp [allLeafText]
  | cons node front induction =>
      rw [List.cons_append, allLeafText, allLeafText, induction, String.append_assoc]

@[simp]
theorem allContainers_singleton (node : Inline) : allContainers [node] = node.containers := by
  simp [allContainers]

@[simp]
theorem allLeafText_singleton (node : Inline) : allLeafText [node] = node.leafText := by
  simp [allLeafText]

end Inline

section container

variable (opening : Opening) (children : List Inline)

@[simp]
theorem Opening.containers_close :
    (opening.close children).containers =
      opening.close children :: Inline.allContainers children := by
  cases opening <;> rfl

@[simp]
theorem Opening.containers_abandon :
    (opening.abandon children).containers =
      opening.abandon children :: Inline.allContainers children := by
  cases opening <;> rfl

@[simp]
theorem Opening.children_close : (opening.close children).children = children := by
  cases opening <;> rfl

@[simp]
theorem Opening.children_abandon : (opening.abandon children).children = children := by
  cases opening <;> rfl

@[simp]
theorem Opening.leafText_close :
    (opening.close children).leafText = Inline.allLeafText children := by
  cases opening <;> simp [close, Inline.leafText]

@[simp]
theorem Opening.leafText_abandon :
    (opening.abandon children).leafText = Inline.allLeafText children := by
  cases opening <;> simp [abandon, Inline.leafText]

@[simp]
theorem Opening.plainText_close :
    (opening.close children).plainText = Inline.flatten children := by
  cases opening <;> rfl

@[simp]
theorem Opening.plainText_abandon : (opening.abandon children).plainText = "" := by
  cases opening <;> rfl

@[simp]
theorem Opening.isPlain_close : (opening.close children).isPlain = false := by
  cases opening <;> rfl

@[simp]
theorem Opening.isPlain_abandon : (opening.abandon children).isPlain = false := by
  cases opening <;> rfl

end container

/-! ## Single tokens -/

namespace InlineToken.Denotes

variable {token : InlineToken} {node : Inline}

theorem plainText_eq (denotes : token.Denotes node) : node.plainText = node.leafText := by
  cases node with
  | marked => cases denotes
  | link => cases denotes
  | _ => rfl

theorem containers_eq (denotes : token.Denotes node) : node.containers = [] := by
  cases node with
  | marked => cases denotes
  | link => cases denotes
  | _ => rfl

end InlineToken.Denotes

/-- What a token that stands alone adds behind nodes, the last of which comes first. -/
inductive InlineToken.Adds (token : InlineToken) : List Inline → List Inline → Prop
  | nothing {nodes : List Inline} (empty : token.spelled = "") : Adds token nodes nodes
  /-- Its text, joined to a text that stands last. -/
  | joined (text raw : String) (nodes : List Inline) :
      Adds token (.literal .plain text raw :: nodes)
        (.literal .plain (text ++ token.spelled) (raw ++ token.spelled) :: nodes)
  /-- Its text, behind another kind of node. -/
  | text {nodes : List Inline} (filled : token.spelled ≠ "")
      (apart : ∀ last ∈ nodes.head?, last.isPlain = false) :
      Adds token nodes (.literal .plain token.spelled token.spelled :: nodes)
  /-- A node that is neither running text nor a container. -/
  | node {node : Inline} {nodes : List Inline} (denotes : token.Denotes node)
      (spells : node.leafText = token.spelled) : Adds token nodes (node :: nodes)

theorem InlineToken.IsSingle.adds {token : InlineToken} (single : token.IsSingle)
    (nodes : List Inline) : token.Adds nodes (({ nodes } : InlineBuilder).step token).nodes := by
  have spells := token.spelled_eq
  obtain ⟨content, role⟩ | ⟨node, role⟩ := single
  · rw [role] at spells
    obtain rfl : token.spelled = content := spells
    simp only [InlineBuilder.step, role]
    by_cases empty : token.spelled = ""
    · rw [empty]
      exact .nothing empty
    obtain apart | ⟨text, raw, before, last⟩ := InlineBuilder.apart_or_joined { nodes }
    · rw [InlineBuilder.addText_apart apart empty]
      exact .text empty apart
    · obtain rfl : nodes = _ := last
      rw [InlineBuilder.addText_joined]
      exact .joined text raw before
  · rw [role] at spells
    simp only [InlineBuilder.step, role]
    exact .node (InlineToken.denotes_of_role role) spells.symm

/-- No text is empty, each keeps its text as its source, and no two of them are neighbours. -/
structure Inline.Tidy (siblings : List Inline) : Prop where
  filled : ∀ text raw, .literal .plain text raw ∈ siblings → text ≠ "" ∧ raw = text
  joined : siblings.IsChain fun first second => ¬(first.isPlain ∧ second.isPlain)

namespace Inline

theorem Tidy.nil : Tidy [] :=
  ⟨by simp, .nil⟩

/-- Tidy siblings are tidy from right to left as well. -/
theorem Tidy.reverse {siblings : List Inline} (tidy : Tidy siblings) : Tidy siblings.reverse := by
  refine ⟨fun text raw member => tidy.filled text raw (List.mem_reverse.mp member), ?_⟩
  rw [List.isChain_reverse]
  exact tidy.joined.imp fun first second apart both => apart both.symm

/-- A node that is not running text goes with any siblings. -/
theorem Tidy.cons {node : Inline} {nodes : List Inline} (other : node.isPlain = false)
    (tidy : Tidy nodes) : Tidy (node :: nodes) := by
  constructor
  · intro text raw member
    obtain equal | member := List.mem_cons.mp member
    · rw [← equal] at other
      cases other
    · exact tidy.filled text raw member
  · refine List.isChain_cons.mpr ⟨?_, tidy.joined⟩
    intro next _ both
    rw [other] at both
    cases both.1

theorem Tidy.text {text : String} {nodes : List Inline} (filled : text ≠ "")
    (apart : ∀ last ∈ nodes.head?, last.isPlain = false) (tidy : Tidy nodes) :
    Tidy (.literal .plain text text :: nodes) := by
  constructor
  · intro content raw member
    obtain equal | member := List.mem_cons.mp member
    · cases equal
      exact ⟨filled, rfl⟩
    · exact tidy.filled content raw member
  · refine List.isChain_cons.mpr ⟨?_, tidy.joined⟩
    intro next member both
    rw [apart next member] at both
    cases both.2

end Inline

namespace InlineToken.Adds

variable {token : InlineToken} {nodes next : List Inline}

theorem allContainers_eq (adds : token.Adds nodes next) :
    Inline.allContainers next.reverse = Inline.allContainers nodes.reverse := by
  cases adds with
  | nothing empty => rfl
  | joined text raw nodes => simp [Inline.allContainers_append, Inline.containers]
  | text filled apart => simp [Inline.allContainers_append, Inline.containers]
  | node denotes spells => simp [Inline.allContainers_append, denotes.containers_eq]

theorem allLeafText_eq (adds : token.Adds nodes next) :
    Inline.allLeafText next.reverse = Inline.allLeafText nodes.reverse ++ token.spelled := by
  cases adds with
  | nothing empty => rw [empty, String.append_empty]
  | joined text raw nodes =>
      simp [Inline.allLeafText_append, Inline.leafText, String.append_assoc]
  | text filled apart => simp [Inline.allLeafText_append, Inline.leafText]
  | node denotes spells => simp [Inline.allLeafText_append, spells]

theorem tidy (adds : token.Adds nodes next) (tidy : Inline.Tidy nodes) : Inline.Tidy next := by
  cases adds with
  | nothing empty => exact tidy
  | joined text raw nodes =>
      obtain ⟨filled, rfl⟩ := tidy.filled text raw (List.mem_cons_self ..)
      obtain ⟨apart, joined⟩ := List.isChain_cons.mp tidy.joined
      have later : Inline.Tidy nodes :=
        ⟨fun text raw member => tidy.filled text raw (List.mem_cons_of_mem _ member), joined⟩
      have others : ∀ last ∈ nodes.head?, last.isPlain = false := by
        intro last member
        exact Bool.eq_false_iff.mpr fun plain => apart last member ⟨rfl, plain⟩
      exact later.text (by simp [filled]) others
  | text filled apart => exact tidy.text filled apart
  | node denotes spells => exact tidy.cons denotes.role_eq.2

/-- What holds of all running text and of the node of the token goes on to hold of all nodes. -/
theorem forall_mem {holds : Inline → Prop} (adds : token.Adds nodes next)
    (text : ∀ text raw, holds (.literal .plain text raw))
    (single : ∀ node, token.Denotes node → holds node) (before : ∀ node ∈ nodes, holds node) :
    ∀ node ∈ next, holds node := by
  cases adds with
  | nothing empty => exact before
  | joined content raw nodes =>
      exact List.forall_mem_cons.mpr ⟨text _ _, (List.forall_mem_cons.mp before).2⟩
  | text filled apart => exact List.forall_mem_cons.mpr ⟨text _ _, before⟩
  | node denotes spells => exact List.forall_mem_cons.mpr ⟨single _ denotes, before⟩

end InlineToken.Adds

/-! ## Text and order of what is read -/

namespace Inline

/-- Reading tokens adds the text that they spell to the leaves. -/
theorem allLeafText_readBehind (nodes : List Inline) (tokens : List InlineToken) :
    allLeafText (readBehind nodes tokens) =
      allLeafText nodes.reverse ++ InlineToken.allSpelled tokens := by
  induction tokens using InlineToken.nesting_induction generalizing nodes with
  | nil => simp
  | single token tokens single induction =>
      rw [readBehind_single single, induction, (single.adds nodes).allLeafText_eq,
        InlineToken.allSpelled_cons, String.append_assoc]
  | stray token tokens closes induction =>
      rw [readBehind_stray closes, induction, InlineToken.allSpelled_cons,
        InlineToken.spelled_closing closes, String.empty_append]
  | closed opening start inner closing after opens nested closes inside later =>
      have held : allLeafText (ofTokens inner) = InlineToken.allSpelled inner := by
        simpa [ofTokens_eq_readBehind, allLeafText] using inside []
      rw [readBehind_closed opens nested closes, later, List.reverse_cons, allLeafText_append,
        allLeafText_singleton, Opening.leafText_close, held, InlineToken.allSpelled_append]
      simp [InlineToken.spelled_opening opens, InlineToken.spelled_closing closes,
        String.append_assoc]
  | unclosed opening start behind opens never induction =>
      have held : allLeafText (ofTokens behind) = InlineToken.allSpelled behind := by
        simpa [ofTokens_eq_readBehind, allLeafText] using induction []
      rw [readBehind_unclosed opens never, allLeafText_append, allLeafText_singleton,
        Opening.leafText_abandon, held, InlineToken.allSpelled_cons,
        InlineToken.spelled_opening opens, String.empty_append]

/-- What is read behind tidy siblings is tidy together with them. -/
theorem tidy_readBehind {nodes : List Inline} (tidy : Tidy nodes) (tokens : List InlineToken) :
    Tidy (readBehind nodes tokens) := by
  induction tokens using InlineToken.nesting_induction generalizing nodes with
  | nil => exact tidy.reverse
  | single token tokens single induction =>
      rw [readBehind_single single]
      exact induction ((single.adds nodes).tidy tidy)
  | stray token tokens closes induction =>
      rw [readBehind_stray closes]
      exact induction tidy
  | closed opening start inner closing after opens nested closes inside later =>
      rw [readBehind_closed opens nested closes]
      exact later (tidy.cons (start.isPlain_close _))
  | unclosed opening start behind opens never induction =>
      rw [readBehind_unclosed opens never, ← List.reverse_cons]
      exact (tidy.cons (start.isPlain_abandon _)).reverse

end Inline

/-- What holds of all running text, of the nodes that single tokens denote, and of a closed
container when it holds of its children, holds of all trees that well-nested tokens are read as. -/
theorem WellNested.forall_readBehind {holds : Inline → Prop} {tokens : List InlineToken}
    (nested : WellNested tokens) (text : ∀ text raw, holds (.literal .plain text raw))
    (single : ∀ token ∈ tokens, ∀ node, token.Denotes node → holds node)
    (close : ∀ (start : Opening) (children : List Inline),
      (∀ child ∈ children, holds child) → holds (start.close children))
    {nodes : List Inline} (before : ∀ node ∈ nodes, holds node) :
    ∀ node ∈ Inline.readBehind nodes tokens, holds node := by
  induction nested generalizing nodes with
  | nil => simpa using before
  | @single token tokens alone later induction =>
      obtain ⟨here, others⟩ := List.forall_mem_cons.mp single
      rw [Inline.readBehind_single alone]
      exact induction others ((alone.adds nodes).forall_mem text here before)
  | @container opening closing start inner tokens opens inside closes later insideInduction
      laterInduction =>
      rw [Inline.readBehind_closed opens inside closes]
      refine laterInduction (fun token member => single token (by simp [member])) ?_
      have children : ∀ child ∈ Inline.ofTokens inner, holds child :=
        insideInduction (fun token member => single token (by simp [member])) (by simp)
      exact List.forall_mem_cons.mpr ⟨close start _ children, before⟩

/-- Well-nested tokens are read as nodes that flatten to the text of their leaves. -/
theorem WellNested.flatten_ofTokens {tokens : List InlineToken} (nested : WellNested tokens) :
    Inline.flatten (Inline.ofTokens tokens) = Inline.allLeafText (Inline.ofTokens tokens) := by
  refine Inline.flatten_eq_allLeafText (nested.forall_readBehind ?_ ?_ ?_ (by simp))
  · exact fun text raw => rfl
  · exact fun token member node denotes => denotes.plainText_eq
  · intro start children faithful
    rw [Opening.plainText_close, Opening.leafText_close, Inline.flatten_eq_allLeafText faithful]

/-! ## Containers -/

/-- A place where a container is opened, with the tokens behind its opening one. -/
structure Site where
  opening : Opening
  behind : List InlineToken

namespace Site

/-- The same place with more tokens behind it. -/
def extend (back : List InlineToken) (site : Site) : Site :=
  { site with behind := site.behind ++ back }

/-- What a container becomes: when its tokens are closed, a node for the tokens inside it, and
otherwise a node without text for all tokens behind its opening one. -/
inductive Becomes : Site → Inline → Prop
  | closed {opening : Opening} {inner after : List InlineToken} {closing : InlineToken}
      (nested : WellNested inner) (closes : closing.role = .closing) :
      Becomes { opening, behind := inner ++ closing :: after }
        (opening.close (Inline.ofTokens inner))
  | unclosed {opening : Opening} {behind : List InlineToken} (never : ¬CloseContainer behind) :
      Becomes { opening, behind } (opening.abandon (Inline.ofTokens behind))

/-- What stands behind the end of a container does not matter to it. -/
theorem Becomes.extend {site : Site} {node : Inline} (becomes : site.Becomes node)
    (closed : CloseContainer site.behind) (back : List InlineToken) :
    (site.extend back).Becomes node := by
  cases becomes with
  | @closed opening inner after closing nested closes =>
      rw [Site.extend, List.append_assoc, List.cons_append]
      exact .closed nested closes
  | unclosed never => exact absurd closed never

end Site

/-- The places where containers are opened, from left to right. -/
def sites : List InlineToken → List Site
  | [] => []
  | token :: rest =>
      match token.role with
      | .opening opening => { opening, behind := rest } :: sites rest
      | _ => sites rest

theorem sites_opening {token : InlineToken} {start : Opening} (opens : token.role = .opening start)
    (rest : List InlineToken) :
    sites (token :: rest) = { opening := start, behind := rest } :: sites rest := by
  rw [sites, opens]

theorem sites_single {token : InlineToken} (single : token.IsSingle) (rest : List InlineToken) :
    sites (token :: rest) = sites rest := by
  obtain ⟨content, role⟩ | ⟨node, role⟩ := single <;> rw [sites, role]

theorem sites_closing {token : InlineToken} (closes : token.role = .closing)
    (rest : List InlineToken) : sites (token :: rest) = sites rest := by
  rw [sites, closes]

theorem sites_append (front back : List InlineToken) :
    sites (front ++ back) = (sites front).map (Site.extend back) ++ sites back := by
  induction front with
  | nil => rfl
  | cons token front induction =>
      rw [List.cons_append]
      obtain single | ⟨start, opens⟩ | closes := token.single_or_container
      · rw [sites_single single, sites_single single, induction]
      · rw [sites_opening opens, sites_opening opens, induction]
        rfl
      · rw [sites_closing closes, sites_closing closes, induction]

/-- Every container that is opened in well-nested tokens is closed in them. -/
theorem WellNested.closed_sites {tokens : List InlineToken} (nested : WellNested tokens) :
    ∀ site ∈ sites tokens, CloseContainer site.behind := by
  induction nested with
  | nil => simp [sites]
  | single single later induction => rwa [sites_single single]
  | @container opening closing start inner tokens opens inside closes later insideInduction
      laterInduction =>
      rw [List.cons_append, sites_opening opens, sites_append, sites_closing closes]
      have here : CloseContainer (inner ++ closing :: tokens) :=
        ⟨inner, closing, tokens, inside, closes, rfl⟩
      refine List.forall_mem_cons.mpr ⟨here, fun site member => ?_⟩
      obtain inner | later := List.mem_append.mp member
      · obtain ⟨held, memberHeld, rfl⟩ := List.mem_map.mp inner
        exact (insideInduction held memberHeld).append _
      · exact laterInduction site later

/-- Reading tokens adds one container for each opening token, in order. -/
theorem Inline.containers_readBehind (nodes : List Inline) (tokens : List InlineToken) :
    ∃ found, allContainers (readBehind nodes tokens) = allContainers nodes.reverse ++ found ∧
      List.Forall₂ Site.Becomes (sites tokens) found := by
  induction tokens using InlineToken.nesting_induction generalizing nodes with
  | nil => exact ⟨[], by simp, .nil⟩
  | single token tokens single induction =>
      rw [readBehind_single single, sites_single single, ← (single.adds nodes).allContainers_eq]
      exact induction _
  | stray token tokens closes induction =>
      rw [readBehind_stray closes, sites_closing closes]
      exact induction nodes
  | closed opening start inner closing after opens nested closes inside later =>
      obtain ⟨held, heldEqual, heldBecome⟩ := inside []
      obtain ⟨found, equal, become⟩ := later (start.close (ofTokens inner) :: nodes)
      -- The containers inside are closed there, so that nothing behind them matters.
      have extended : List.Forall₂ Site.Becomes
          ((sites inner).map (Site.extend (closing :: after))) held := by
        have both := (List.forall₂_and_left ..).mpr ⟨nested.closed_sites, heldBecome⟩
        exact List.forall₂_map_left_iff.mpr
          (both.imp fun _ _ ⟨closes, becomes⟩ => becomes.extend closes _)
      refine ⟨start.close (ofTokens inner) :: (held ++ found), ?_, ?_⟩
      · rw [readBehind_closed opens nested closes, equal, List.reverse_cons, allContainers_append,
          allContainers_singleton, Opening.containers_close, ofTokens_eq_readBehind, heldEqual]
        simp [allContainers]
      · rw [List.cons_append, sites_opening opens, sites_append, sites_closing closes]
        exact .cons (.closed nested closes) (List.rel_append extended become)
  | unclosed opening start behind opens never induction =>
      obtain ⟨held, equal, become⟩ := induction []
      refine ⟨start.abandon (ofTokens behind) :: held, ?_, ?_⟩
      · rw [readBehind_unclosed opens never, allContainers_append, allContainers_singleton,
          Opening.containers_abandon, ofTokens_eq_readBehind, equal]
        simp [allContainers]
      · rw [sites_opening opens]
        exact .cons (.unclosed never) become

/-- A container of the tree against the tokens behind its opening one: what it holds, and its text,
which is that of the leaves below it when it is closed, and empty when it is not. -/
structure Site.Yields (site : Site) (node : Inline) : Prop where
  becomes : site.Becomes node
  closed : CloseContainer site.behind → node.plainText = Inline.allLeafText node.children
  unclosed : ¬CloseContainer site.behind → node.plainText = ""

theorem Site.Becomes.yields {site : Site} {node : Inline} (becomes : site.Becomes node) :
    site.Yields node := by
  refine ⟨becomes, fun closed => ?_, fun never => ?_⟩
  · cases becomes with
    | closed nested closes =>
        rw [Opening.plainText_close, Opening.children_close, nested.flatten_ofTokens]
    | unclosed never => exact absurd closed never
  · cases becomes with
    | closed nested closes => exact absurd ⟨_, _, _, nested, closes, rfl⟩ never
    | @unclosed opening behind never => exact opening.plainText_abandon _

/-- The children of a container are what tokens of their own are read as. -/
theorem Site.Becomes.children_eq {site : Site} {node : Inline} (becomes : site.Becomes node) :
    ∃ tokens, node.children = Inline.ofTokens tokens := by
  cases becomes with
  | @closed opening inner => exact ⟨inner, opening.children_close _⟩
  | @unclosed opening behind => exact ⟨behind, opening.children_abandon _⟩

theorem Inline.containers_ofTokens (tokens : List InlineToken) :
    List.Forall₂ Site.Becomes (sites tokens) (allContainers (ofTokens tokens)) := by
  obtain ⟨found, equal, become⟩ := containers_readBehind [] tokens
  rw [ofTokens_eq_readBehind, equal]
  exact become

theorem Inline.exists_site {tokens : List InlineToken} {node : Inline}
    (member : node ∈ allContainers (ofTokens tokens)) :
    ∃ site ∈ sites tokens, site.Becomes node := by
  have become := containers_ofTokens tokens
  generalize sites tokens = places at become
  generalize allContainers (ofTokens tokens) = found at become member
  induction become with
  | nil => cases member
  | @cons place found places others here later induction =>
      obtain rfl | member := List.mem_cons.mp member
      · exact ⟨place, List.mem_cons_self, here⟩
      · obtain ⟨site, later, becomes⟩ := induction member
        exact ⟨site, List.mem_cons_of_mem place later, becomes⟩

/-- Whatever inline tokens are read, balanced or not: at every depth no text is empty and no two
texts meet, the leaves spell what the tokens spell, and each opening token has its container, which
holds the text of its leaves if it is closed, and keeps its children without a text if it is not. -/
theorem Inline.ofTokens_conserves (tokens : List InlineToken) :
    (∀ siblings ∈ sequences (ofTokens tokens), Tidy siblings) ∧
      allLeafText (ofTokens tokens) = InlineToken.allSpelled tokens ∧
      List.Forall₂ Site.Yields (sites tokens) (allContainers (ofTokens tokens)) := by
  refine ⟨?_, ?_, (containers_ofTokens tokens).imp fun _ _ becomes => becomes.yields⟩
  · intro siblings member
    obtain rfl | below := List.mem_cons.mp member
    · exact tidy_readBehind .nil tokens
    · obtain ⟨node, found, rfl⟩ := List.mem_map.mp below
      obtain ⟨site, -, becomes⟩ := exists_site found
      obtain ⟨inner, equal⟩ := becomes.children_eq
      rw [equal]
      exact tidy_readBehind .nil inner
  · rw [ofTokens_eq_readBehind, allLeafText_readBehind]
    exact String.empty_append

/-- A stray closing token, emphasis that bold text inside it leaves open, and text in pieces. -/
example :
    Inline.ofTokens
      [{ type := "s_close" }, { type := "em_open", markup := "*" },
        { type := "strong_open", markup := "**" }, { type := "text", content := "a" },
        { type := "softbreak" }, { type := "em_close" }, { type := "text", content := "b" },
        { type := "text" }, { type := "text", content := "c" }] =
      [.marked .emphasis "" [
          .marked .strong "a\n" [.literal .plain "a\n" "a\n"] "**a\n**",
          .literal .plain "bc" "bc"] "*"] := by
  rfl

end CardPress
