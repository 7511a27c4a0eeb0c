import CrontabRenderer.Yaml.Token

/-!
# YAML documents

A document is a tree of nodes and a table of the nodes that aliases in it stand for. An alias may
stand for a node that it is itself a part of.
-/
namespace CrontabRenderer.Yaml

structure Scalar where
  /-- The tag that is written, with its handle expanded. -/
  tag : Option Tag
  text : String
  style : Style
  deriving Repr, DecidableEq

inductive Node where
  | scalar (scalar : Scalar)
  | sequence (tag : Option Tag) (items : List Node)
  | mapping (tag : Option Tag) (members : List (Node × Node))
  | alias (target : Nat)
  deriving Repr

/-- A node that is not written at all. -/
def Node.omitted : Node := .scalar ⟨none, "", .plain⟩

/-- A node with an anchor, and how many anchored nodes start before it. -/
structure Anchored where
  target : Nat
  place : Nat
  node : Node

structure Document where
  root : Node
  anchored : List Anchored
  /-- The number of its nodes, where collections count twice: for their start and their end. -/
  size : Nat

/-- The node that aliases with a target stand for: of several, the one that starts last. -/
def Document.target? (document : Document) (target : Nat) : Option Node :=
  let found := document.anchored.filter (·.target = target)
  (found.foldl (fun best next =>
    match best with
    | none => some next
    | some best => if best.place < next.place then some next else some best) none).map (·.node)

end CrontabRenderer.Yaml
