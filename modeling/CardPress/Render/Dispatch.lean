import CardPress.Render.Pass

/-!
# Dispatching blocks

A run of a pass gives nothing back when it stops.  A sequence may also be rendered block by block,
going on behind a block that cannot be rendered.  All passes that have been started stand side by
side then, each quote behind those that were started before it, and a block that stops leaves every
pass as far as it has come.
-/

namespace CardPress

/-- A computation on the passes that have been started.  When it stops at a node, what it has done
to them until then stays. -/
abbrev Dispatch (value : Type) :=
  ExceptT Unsupported (StateM (List Pass)) value

namespace Dispatch

/-- The outcome of a computation, and the passes as it leaves them. -/
def runOn {value : Type} (passes : List Pass) (work : Dispatch value) :
    Except Unsupported value × List Pass :=
  StateT.run (ExceptT.run work) passes

/-- Start a fresh pass behind the others, and tell its place. -/
def start : Dispatch Nat := do
  let passes ← get
  set (passes ++ [({} : Pass)])
  return passes.length

/-- The pass at a place. -/
def look (place : Nat) : Dispatch Pass := do
  let passes ← get
  return passes[place]?.getD {}

/-- Change the pass at a place. -/
def change (place : Nat) (act : Pass → Pass) : Dispatch Unit :=
  modify fun passes => passes.modify place act

/-- Append an element to the pass at a place, once it has been made. -/
def append (place : Nat) (made : Except Unsupported Element) : Dispatch Unit := do
  let element ← MonadExcept.ofExcept made
  change place (Pass.append element)

mutual

/-- Render a block in the pass at a place.  A quote is a pass of its own, and its element is made of
that pass when it has come to its end. -/
def block (place : Nat) : Block → Dispatch Unit
  | .space _ => change place Pass.space
  | .rule _ => change place Pass.hold
  | .heading level inlines _ =>
      append place (do return .richText (← headingRuns level inlines) {})
  | .paragraph inlines _ => append place (do return .richText (← Inline.allRuns inlines) {})
  | .list _ raw => append place (.ok (.textBlock raw (some true) none none {}))
  | .code language code _ => append place (.ok (.code code (nonempty? language) {}))
  | .table header rows _ => append place (renderTable header rows)
  | .quote children _ => do
      let inside ← start
      blocks inside children
      let inner ← look inside
      append place (.ok (.container inner.body (some true) {}))
      if inner.pending then change place Pass.hold
  | .image source alt title _ => append place (.ok (.image source (title <|> alt) {}))
  | .html raw => append place (.ok (.textBlock raw (some true) none none {}))
  | .definition label url title _ =>
      let text := (nonempty? title).getD label
      append place (.ok (.richText [TextRun.linkTo url { text }] {}))
  | .unknown kind raw => throw (.block kind raw)

/-- Render blocks in the pass at a place, up to the first that cannot be rendered. -/
def blocks (place : Nat) : List Block → Dispatch Unit
  | [] => return
  | first :: others => do
      block place first
      blocks place others

end

/-- Render blocks in the pass at a place, going on behind those that cannot be rendered: for each of
them the pass behind it, or the node that stopped it. -/
def attempt (place : Nat) : List Block → StateM (List Pass) (List (Except Unsupported Pass))
  | [] => return []
  | first :: others => do
      let outcome ← ExceptT.run (do block place first; look place)
      return outcome :: (← attempt place others)

/-- Render what can be rendered of some blocks: what comes of each block, and the pass that is left,
with a last break that waits made visible. -/
def salvage (blocks : List Block) : List (Except Unsupported Pass) × Pass :=
  let (outcomes, passes) := StateT.run (attempt 0 blocks) [({} : Pass)]
  let pass := passes[0]?.getD ({} : Pass)
  (outcomes, pass.finish)

end Dispatch

end CardPress
