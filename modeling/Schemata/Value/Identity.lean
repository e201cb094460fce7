import Schemata.Value

/-!
Identity of values. Two objects are one when their terms are equal, which is decided; of scalars
the type and the content are all there is.
Containers made on the way are numbered: a serial from which on no number occurs in a value
is fresh for it, and a container made under a fresh serial is a new object.
-/
namespace Schemata

/-- The least serial beyond an identity. -/
def Identity.beyond : Identity → Nat
  | given _ | guarded .. => 0
  | made serial => serial + 1

namespace Value

mutual
def identical : Value → Value → Bool
  | null,null | missing,missing => true
  | bool a,bool b => a == b
  | int a,int b => a == b
  | float a,float b => a == b
  | str a,str b => a == b
  | bytes a,bytes b => a == b
  | list i a,list j b | tuple i a,tuple j b => i == j && identicalItems a b
  | dict i a,dict j b | mapping i a,mapping j b => i == j && identicalEntries a b
  | foreign i a,foreign j b => i == j && a == b
  | ok a,ok b | err a,err b => a.identical b
  | issue a,issue b => a == b
  | _,_ => false
def identicalItems : List Value → List Value → Bool
  | [],[] => true
  | a :: as,b :: bs => a.identical b && identicalItems as bs
  | _,_ => false
def identicalEntries : List (Value × Value) → List (Value × Value) → Bool
  | [],[] => true
  | (k,a) :: as,(l,b) :: bs => k.identical l && a.identical b && identicalEntries as bs
  | _,_ => false
end

mutual
theorem eq_of_identical : (a b : Value) → a.identical b = true → a = b
  | null,b,same | missing,b,same | bool _,b,same | int _,b,same | float _,b,same
  | str _,b,same | bytes _,b,same | foreign _ _,b,same | issue _,b,same => by
    cases b <;> simp_all [identical]
  | ok _,b,same | err _,b,same => by
    cases b <;> simp_all [identical]
    exact eq_of_identical _ _ same
  | list _ items,b,same | tuple _ items,b,same => by
    cases b <;> simp_all [identical]
    exact eq_of_identicalItems _ _ same.2
  | dict _ entries,b,same | mapping _ entries,b,same => by
    cases b <;> simp_all [identical]
    exact eq_of_identicalEntries _ _ same.2
theorem eq_of_identicalItems : (as bs : List Value) → identicalItems as bs = true → as = bs
  | [],[],_ => rfl
  | a :: as,b :: bs,same => by
    simp only [identicalItems,Bool.and_eq_true] at same
    rw [eq_of_identical a b same.1,eq_of_identicalItems as bs same.2]
  | [],_ :: _,same | _ :: _,[],same => by simp [identicalItems] at same
theorem eq_of_identicalEntries : (as bs : List (Value × Value)) →
    identicalEntries as bs = true → as = bs
  | [],[],_ => rfl
  | (k,a) :: as,(l,b) :: bs,same => by
    simp only [identicalEntries,Bool.and_eq_true] at same
    rw [eq_of_identical k l same.1.1,eq_of_identical a b same.1.2,
      eq_of_identicalEntries as bs same.2]
  | [],_ :: _,same | _ :: _,[],same => by simp [identicalEntries] at same
end

mutual
theorem identical_self : (a : Value) → a.identical a = true
  | null | missing | bool _ | int _ | float _ | str _ | bytes _ | foreign _ _ | issue _ => by
    simp [identical]
  | ok held | err held => by simp [identical,identical_self held]
  | list _ items | tuple _ items => by simp [identical,identicalItems_self items]
  | dict _ entries | mapping _ entries => by simp [identical,identicalEntries_self entries]
theorem identicalItems_self : (as : List Value) → identicalItems as as = true
  | [] => rfl
  | a :: as => by simp [identicalItems,identical_self a,identicalItems_self as]
theorem identicalEntries_self : (as : List (Value × Value)) → identicalEntries as as = true
  | [] => rfl
  | (k,a) :: as => by
    simp [identicalEntries,identical_self k,identical_self a,identicalEntries_self as]
end

/-- Identity of objects is equality of terms. -/
theorem identical_iff (a b : Value) : a.identical b = true ↔ a = b :=
  ⟨eq_of_identical a b,fun same => same ▸ identical_self a⟩

instance : DecidableEq Value := fun a b => decidable_of_iff _ (identical_iff a b)

mutual
/-- The least serial beyond all that occur in a value. -/
def beyond : Value → Nat
  | list identity items | tuple identity items => max identity.beyond (beyondItems items)
  | dict identity entries | mapping identity entries =>
    max identity.beyond (beyondEntries entries)
  | foreign identity _ => identity.beyond
  | ok held | err held => held.beyond
  | _ => 0
def beyondItems : List Value → Nat
  | [] => 0
  | item :: rest => max item.beyond (beyondItems rest)
def beyondEntries : List (Value × Value) → Nat
  | [] => 0
  | (key,bound) :: rest => max (max key.beyond bound.beyond) (beyondEntries rest)
end

/-- The least serial from `serial` on that is fresh for the value. -/
def freshFrom (value : Value) (serial : Nat) : Nat := max serial value.beyond

theorem beyond_le_freshFrom (value : Value) (serial : Nat) :
    value.beyond ≤ value.freshFrom serial := Nat.le_max_right ..

theorem list_made_ne {value : Value} {serial : Nat} (fresh : value.beyond ≤ serial)
    (items : List Value) : list (.made serial) items ≠ value := by
  rintro rfl
  simp only [beyond,Identity.beyond] at fresh
  omega

theorem dict_made_ne {value : Value} {serial : Nat} (fresh : value.beyond ≤ serial)
    (entries : List (Value × Value)) : dict (.made serial) entries ≠ value := by
  rintro rfl
  simp only [beyond,Identity.beyond] at fresh
  omega

end Value
end Schemata
