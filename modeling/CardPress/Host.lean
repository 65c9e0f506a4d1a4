import CardPress.Json.Basic
import CardPress.Yaml.Value

/-!
# Hosts

What a conversion takes from the system that it runs on and from the libraries there.

Some limits are left out.  Memory and the depth of recursion count as unbounded, but for the room
that an indentation takes, so that options may be nested to any depth.  Markdown, words of a command
line and names of files are made of characters: a half of a surrogate pair can only come from an
escape in the front matter or in a file of options.  Cutting Markdown into tokens never fails.
-/

namespace CardPress

/-- A system that texts are converted on. -/
structure Host where
  /-- The description of a text that is not well-formed YAML. -/
  describe : String → String
  /-- The order in which the items of a set are shown, from the order in which they came. -/
  arrange : List Yaml.Value → List Yaml.Value
  arrange_perm : ∀ items, (arrange items).Perm items
  /-- Whether there is room for a value as JSON text with an indentation of a given width. -/
  hasRoom : Json → Nat → Bool
  /-- An indentation fits a signed machine word. -/
  lt_of_hasRoom : ∀ value width, hasRoom value width = true → width < Nat.pow 2 63
  /-- The home directory of a user by name; the empty name stands for whoever runs the program. -/
  home? : String → Option String
  /-- Whether a file stays as it was when its new text turns out to have no bytes.  Otherwise it
  has been emptied by then. -/
  isAtomic : Bool

/-- A host that shows sets in the order of their items, has room for every indentation, and knows
no home directories. -/
def Host.plain : Host where
  describe := fun _ => ""
  arrange := fun items => items
  arrange_perm := fun items => .refl items
  hasRoom := fun _ width => decide (width < Nat.pow 2 63)
  lt_of_hasRoom := fun _ _ small => of_decide_eq_true small
  home? := fun _ => none
  isAtomic := true

instance : Inhabited Host := ⟨.plain⟩

end CardPress
