import Schemata.Action
import Schemata.Schema.Parsing

/-!
Stores of shared schemas. A node in a store names its children by reference, so that a
change to one shows through every schema that holds it. Children are older than what holds
them; a stage may name any schema, and finds it as it is when the stage is called.
-/
namespace Schemata

/-- A place in a store, counted from the oldest node. -/
abbrev Ref := Nat

abbrev StoredNode := Node (Callback Ref) Ref

/-- The nodes of a store, the oldest first. -/
structure Store where
  nodes : Array StoredNode

namespace Store

def empty : Store := ⟨#[]⟩

def node? (store : Store) (ref : Ref) : Option StoredNode := store.nodes[ref]?

def push (store : Store) (node : StoredNode) : Store × Ref :=
  (⟨store.nodes.push node⟩,store.nodes.size)

def replace (store : Store) (ref : Ref) (node : StoredNode) : Store :=
  ⟨store.nodes.setIfInBounds ref node⟩

/-- The node of a reference, or the one that takes anything. -/
def node (store : Store) (ref : Ref) : StoredNode := (store.node? ref).getD Node.unknown

/-- The tree of a reference below the bound, its stages closed over the given schemas. A
child that is not older than its holder stands for the schema that takes anything. -/
def treeBelow (store : Store) (schemas : Ref → Parser) : Nat → Ref → Schema
  | 0,_ => .node Node.unknown
  | bound + 1,ref =>
    if ref = bound then
      .node ((store.node ref).map (Callback.stage schemas) (store.treeBelow schemas bound))
    else store.treeBelow schemas bound ref

def tree (store : Store) (schemas : Ref → Parser) (ref : Ref) : Schema :=
  store.treeBelow schemas store.nodes.size ref

/-- The parser of a reference below the bound. Children are looked up when a value is read,
so that a shared child does not have to be unfolded once per holder. -/
def parserBelow (store : Store) (schemas : Ref → Parser) : Nat → Ref → Parser
  | 0,_ => Node.parser Node.unknown
  | bound + 1,ref =>
    if ref = bound then
      ⟨(store.node ref).kind,fun serial value =>
        ((store.node ref).map (Callback.stage schemas)
          (store.parserBelow schemas bound)).read serial value⟩
    else store.parserBelow schemas bound ref

/-- The parser of a stored schema. Stages that call schemas may be nested up to the given
depth, beyond which a call faults. -/
def parserWithin (store : Store) : Nat → Ref → Parser
  | 0 => fun _ => ⟨.unknown,fun _ _ =>
    Run.fail (.error .recursion "maximum recursion depth exceeded")⟩
  | depth + 1 => store.parserBelow (store.parserWithin depth) store.nodes.size

def nestingLimit : Nat := 200

def parser (store : Store) (ref : Ref) : Parser := store.parserWithin nestingLimit ref

private theorem kind_map {σ τ α β : Type} (stage : σ → τ) (child : α → β) (node : Node σ α) :
    (node.map stage child).kind = node.kind := by
  rcases node with ⟨config,form⟩
  cases form <;> rfl

theorem node_push_self (store : Store) (node : StoredNode) :
    (store.push node).1.node? (store.push node).2 = some node := by
  simp [push,node?]

theorem node_push_of_some {store : Store} {ref : Ref} {old : StoredNode} (node : StoredNode)
    (found : store.node? ref = some old) : (store.push node).1.node? ref = some old := by
  obtain ⟨bound,_⟩ := Array.getElem?_eq_some_iff.mp found
  simpa [push,node?,Array.getElem?_push,Nat.ne_of_lt bound] using found

theorem node_replace_self (store : Store) {ref : Ref} {old : StoredNode} (node : StoredNode)
    (found : store.node? ref = some old) : (store.replace ref node).node? ref = some node := by
  obtain ⟨bound,_⟩ := Array.getElem?_eq_some_iff.mp found
  simp [replace,node?,bound]

theorem node_replace_of_ne (store : Store) {ref other : Ref} (node : StoredNode)
    (distinct : other ≠ ref) : (store.replace ref node).node? other = store.node? other := by
  simp [replace,node?,Ne.symm distinct]

end Store
end Schemata
