import Mathlib.Logic.Relation
import Schemata.Proofs.Tree
import Schemata.Store

/-!
What a stored schema depends on. A node mentions its children and the schemas that its functions
name, and a schema reaches whatever can be got to in this way. In a closed store children are older
than what holds them, and functions name schemas that are there. Then a schema is read by its node
over the parsers of its children, as they are at the time, and two stores that agree on all that a
schema reaches read alike with it.
-/
namespace Schemata

section Names

variable {α : Type}

def Action.names : Action α → List α
  | .outcomeOf schema | .outputOf schema => [schema]
  | .onlyFor _ action => action.names
  | _ => []

def Callback.names : Callback α → List α
  | .routine _ action => action.names
  | .inert _ => []

end Names

section Nodes

variable {σ τ α β γ : Type}

theorem Form.map_map (stage : σ → τ) (child : α → β) (next : β → γ) (form : Form σ α) :
    (form.map stage child).map id next = form.map stage (next ∘ child) := by
  cases form <;> simp [Form.map]

def Form.function? : Form σ α → Option σ
  | .transform _ function => some function
  | _ => none

namespace Node

def functions (node : Node σ α) : List σ :=
  node.config.refines ++ node.config.checks.map (·.1) ++ node.form.function?.toList

end Node

end Nodes

namespace Store

/-- Children are older than their holders, and the schemas that functions name are there. -/
structure Closed (store : Store) : Prop where
  older : ∀ ref, ∀ child ∈ (store.node ref).form.children, child < ref
  named : ∀ ref, ∀ function ∈ (store.node ref).functions, ∀ name ∈ function.names,
    name < store.nodes.size

variable {store : Store} {schemas others : Ref → Parser}

theorem node_of_le {ref : Ref} (beyond : store.nodes.size ≤ ref) :
    store.node ref = Node.unknown := by
  simp [node,node?,beyond]

variable {later : Store}

end Store
end Schemata
