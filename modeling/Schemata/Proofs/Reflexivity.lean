import Schemata.Proofs.Bounds
import Schemata.Proofs.Exactness

/-!
What a literal accepts of its own values. Inside containers an object equals itself without being
asked, so a container is loosely equal to itself whatever it holds; of the scalars only a NaN is
equal to nothing. A literal accepts each of its values, then, but for a NaN.
-/
namespace Schemata

namespace Table

variable {β : Type} {table : Table β}

/-- No two entries have the same key. -/
def Distinct (table : Table β) : Prop := (table.keys.map Value.keyForm).Nodup

theorem distinct_insert (distinct : table.Distinct) (key : Value) (bound : β) :
    (table.insert key bound).Distinct := by
  unfold Distinct at *
  rcases present : table.contains key with _ | _
  · rw [keys_insert_of_not_contains present,List.map_append]
    apply List.Nodup.append distinct (List.nodup_singleton _)
    apply List.disjoint_singleton.mpr
    intro member
    obtain ⟨other,inside,same⟩ := List.mem_map.mp member
    obtain ⟨entry,held,rfl⟩ := List.mem_map.mp inside
    exact contains_eq_false.mp present entry held (Value.sameKey_iff.mpr same)
  · rwa [keys_insert_of_contains present]

theorem distinct_overlay (distinct : table.Distinct) (pairs : List (Value × β)) :
    (table.overlay pairs).Distinct := by
  induction pairs generalizing table with
  | nil => exact distinct
  | cons pair rest ih =>
    rw [overlay_cons]
    exact ih (distinct_insert distinct pair.1 pair.2)

/-- A table that is built entry by entry holds no key twice. -/
theorem distinct_ofList (pairs : List (Value × β)) : (ofList pairs).Distinct := by
  have empty : Distinct ([] : Table β) := List.nodup_nil
  exact distinct_overlay empty pairs

theorem find_of_distinct (distinct : table.Distinct) {entry : Value × β} (member : entry ∈ table) :
    table.find? entry.1 = some entry.2 := by
  have binds : table.Binds entry.1 (some entry.2) := by
    constructor
    · intro other inside same
      unfold Distinct at distinct
      rw [keys,List.map_map] at distinct
      rw [List.inj_on_of_nodup_map distinct inside member (Value.sameKey_iff.mp same)]
    · intro _
      exact contains_eq_true.mpr ⟨entry,member,Value.sameKey_iff.mpr rfl⟩
  exact binds.find

end Table

namespace Value

/-- A dictionary holds no key twice; what is inside of it is not looked at. -/
def Keyed : Value → Prop
  | dict _ entries => Table.Distinct entries
  | _ => True

theorem allAgree_self (items : List Value) :
    allAgree (agreements false items) items = .ok true := by
  induction items with
  | nil => rfl
  | cons item rest ih =>
    rw [agreements,allAgree]
    simpa using ih

theorem leftAgrees_self {tests entries : Entries}
    (found : ∀ entry ∈ tests, entries.find? entry.1 = some entry.2) :
    leftAgrees (entryTests tests) entries = .ok true := by
  induction tests with
  | nil => rfl
  | cons entry rest ih =>
    have later := ih fun other member => found other (List.mem_cons_of_mem _ member)
    rw [entryTests,leftAgrees,found entry List.mem_cons_self]
    simpa using later

theorem list_equals_self (identity : Identity) (items : List Value) :
    (list identity items).equals (list identity items) = .ok (.bool true) := by
  rw [equals,compare,allAgree_self]
  simp

theorem tuple_equals_self (identity : Identity) (items : List Value) :
    (tuple identity items).equals (tuple identity items) = .ok (.bool true) := by
  rw [equals,compare,allAgree_self]
  simp

theorem length_entryTests (entries : Entries) : (entryTests entries).length = entries.length := by
  induction entries with
  | nil => rfl
  | cons entry rest ih => rw [entryTests,List.length_cons,List.length_cons,ih]

theorem dict_equals_self (identity : Identity) {entries : Entries} (distinct : entries.Distinct) :
    (dict identity entries).equals (dict identity entries) = .ok (.bool true) := by
  have agrees : leftAgrees (entryTests entries) entries = .ok true :=
    leftAgrees_self fun _ member => Table.find_of_distinct distinct member
  rw [equals,compare,tables,agrees]
  simp [length_entryTests]

theorem number_equals (m n : Number) :
    m.toValue.equals n.toValue = .ok (.bool (m.order n == some .eq)) := by
  cases m <;> cases n <;> rfl

theorem number_equals_self {n : Number} (number : n ≠ .float .nan) :
    n.toValue.equals n.toValue = .ok (.bool true) := by
  obtain ⟨amount,counts⟩ := Option.ne_none_iff_exists'.mp (mt Number.amount_eq_none_iff.mp number)
  have same : n.order n = some .eq := Number.order_eq_iff.mpr ⟨amount,counts,counts⟩
  rw [number_equals,same]
  rfl

/-- Every value but a NaN is loosely equal to itself. -/
theorem equals_self {value : Value} (builtin : value.Builtin) (keyed : value.Keyed)
    (number : value ≠ .float .nan) : value.equals value = .ok (.bool true) := by
  cases builtin with
  | null | missing => rfl
  | bool b => cases b <;> rfl
  | int i => exact number_equals_self (n := .int i) (by simp)
  | float x => exact number_equals_self (n := .float x) (by simpa using number)
  | str s =>
    rw [equals,compare,beq_self_eq_true]
    rfl
  | bytes content =>
    rw [equals,compare,beq_self_eq_true]
    rfl
  | list => exact list_equals_self _ _
  | tuple => exact tuple_equals_self _ _
  | dict => exact dict_equals_self _ keyed

/-- A NaN is loosely equal to nothing. -/
theorem nan_equals {value : Value} (builtin : value.Builtin) :
    (float .nan).equals value = .ok (.bool false) := by
  cases builtin with
  | float x =>
    have unordered : (Number.float .nan).order (.float x) = none := Binary64.order_nan_left x
    calc
      (float .nan).equals (float x) = _ := number_equals (.float .nan) (.float x)
      _ = .ok (.bool false) := by rw [unordered]; rfl
  | _ => rfl

theorem matchesLiteral_self {value : Value} (builtin : value.Builtin) (keyed : value.Keyed)
    (number : value ≠ .float .nan) : value.matchesLiteral value = true := by
  apply matchesLiteral_iff.mpr
  rw [equals_self builtin keyed number]
  exact ⟨rfl,fun _ _ => rfl⟩

theorem not_nan_matchesLiteral {allowed : Value} (builtin : allowed.Builtin) :
    ¬ (float .nan).matchesLiteral allowed = true := by
  intro matched
  have equal := (matchesLiteral_iff.mp matched).1
  rw [nan_equals builtin] at equal
  cases equal

end Value

theorem Choice.literal_outcome_self {σ : Type} (config : Config σ) (values : List Value)
    (value : Value) :
    (literal config values value).outcome = .ok (.ok value) ↔
      ∃ allowed ∈ values, value.matchesLiteral allowed = true := by
  constructor
  · exact literal_matched
  · intro matched
    rw [literal,if_pos (List.any_eq_true.mpr matched)]
    rfl

namespace Schema

open Value

/-- A literal that refines and checks nothing accepts each of its values, as it is, but for a NaN,
which it does not accept. -/
theorem safe_parse_listed (config : Config Stage) (unrefined : config.refines = [])
    (unchecked : config.checks = []) (values : List Value)
    (builtin : ∀ allowed ∈ values, allowed.Builtin) (allowed : Value) (listed : allowed ∈ values)
    (keyed : allowed.Keyed) :
    ((Schema.node ⟨config,.literal values⟩).safeParse allowed).outcome = .ok (.ok allowed) ↔
      allowed ≠ .float .nan := by
  have passed : (Node.checking ⟨config,.literal values⟩ 0 allowed allowed).outcome =
      .ok (.ok allowed) := by
    rw [Node.checking,unchecked]
    rfl
  have looks : Node.structural ⟨config,.literal values⟩ 0 allowed =
      Choice.literal config values allowed := rfl
  rw [safeParse_output_of_unrefined unrefined rfl,looks,Choice.literal_outcome_self]
  constructor
  · rintro ⟨⟨other,member,matched⟩,_⟩ rfl
    exact not_nan_matchesLiteral (builtin other member) matched
  · intro number
    exact ⟨⟨allowed,listed,matchesLiteral_self (builtin allowed listed) keyed number⟩,passed⟩

/-- A dictionary that holds NaNs as a key and in a list, listed beside a NaN. -/
theorem safe_parse_listed_nested :
    let nans : Value := .list (.given 1) [.float .nan]
    let entries : Entries := Table.ofList [(.float .nan,nans),
      (.tuple (.given 2) [.bool true],.null),(.tuple (.given 3) [.int 1],.missing)]
    let nested : Value := .dict (.given 0) entries
    let values : List Value := [.float .nan,nested]
    let schema : Schema := .node ⟨.empty,.literal values⟩
    (∀ allowed ∈ values, allowed.Builtin) ∧ nested.Keyed ∧
      entries = [(.float .nan,nans),(.tuple (.given 2) [.bool true],.missing)] ∧
      (schema.safeParse nested).outcome = .ok (.ok nested) ∧
      (schema.safeParse (.float .nan)).outcome ≠ .ok (.ok (.float .nan)) := by
  intro nans entries nested values schema
  have written : entries = [(.float .nan,nans),(.tuple (.given 2) [.bool true],.missing)] := rfl
  have inner : nans.Builtin := .list (by simpa using Builtin.float .nan)
  have key : (Value.tuple (.given 2) [.bool true]).Builtin :=
    .tuple (by simpa using Builtin.bool true)
  have outer : nested.Builtin := by
    refine .dict ?_ ?_
    · simpa [written] using ⟨Builtin.float .nan,key⟩
    · simpa [written] using ⟨inner,Builtin.missing⟩
  have builtin : ∀ allowed ∈ values, allowed.Builtin := by
    simpa [values] using ⟨Builtin.float .nan,outer⟩
  have keyed : nested.Keyed := Table.distinct_ofList _
  refine ⟨builtin,keyed,written,?_,?_⟩
  · exact (safe_parse_listed .empty rfl rfl values builtin nested (by simp [values]) keyed).mpr
      (by simp [nested])
  · intro accepted
    exact (safe_parse_listed .empty rfl rfl values builtin (.float .nan) (by simp [values])
      trivial).mp accepted rfl

/-- Not every value that is listed is accepted: a NaN is not. -/
theorem safe_parse_listed_not_nan :
    ¬ ∀ (config : Config Stage) (values : List Value) (allowed : Value), config.refines = [] →
      config.checks = [] → (∀ allowed ∈ values, allowed.Builtin) → allowed ∈ values →
      allowed.Keyed →
        ((Schema.node ⟨config,.literal values⟩).safeParse allowed).outcome = .ok (.ok allowed) := by
  intro accepts
  have impossible := accepts .empty [.float .nan] (.float .nan) rfl rfl
    (by simpa using Builtin.float .nan) (List.mem_singleton_self _) trivial
  cases impossible

end Schema
end Schemata
