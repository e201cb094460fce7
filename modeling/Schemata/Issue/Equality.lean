import Schemata.Issue

/-!
Equality of issues is decided: two issues are equal when they are of one class and agree in
every field, entry by entry.
-/
namespace Schemata.Issue

mutual
def same : Issue → Issue → Bool
  | leaf a message path,leaf b other place => a == b && message == other && path == place
  | staged a message source path,staged b other origin place =>
    a == b && message == other && source == origin && path == place
  | plain a message path,plain b other place => a == b && message == other && path == place
  | array message path entries,array other place others =>
    message == other && path == place && sameItems entries others
  | object message path entries,object other place others =>
    message == other && path == place && sameFields entries others
  | _,_ => false
def sameItems : List (Int × Issue) → List (Int × Issue) → Bool
  | [],[] => true
  | (i,issue) :: rest,(j,other) :: others => i == j && issue.same other && sameItems rest others
  | _,_ => false
def sameFields : List (String × Issue) → List (String × Issue) → Bool
  | [],[] => true
  | (name,issue) :: rest,(label,other) :: others =>
    name == label && issue.same other && sameFields rest others
  | _,_ => false
end

mutual
theorem eq_of_same : (a b : Issue) → a.same b = true → a = b
  | leaf ..,b,agree | staged ..,b,agree | plain ..,b,agree => by
    cases b <;> simp_all [same]
  | array _ _ entries,b,agree => by
    cases b <;> simp_all [same]
    exact eq_of_sameItems _ _ agree.2
  | object _ _ entries,b,agree => by
    cases b <;> simp_all [same]
    exact eq_of_sameFields _ _ agree.2
theorem eq_of_sameItems : (as bs : List (Int × Issue)) → sameItems as bs = true → as = bs
  | [],[],_ => rfl
  | (_,a) :: as,(_,b) :: bs,agree => by
    simp only [sameItems,Bool.and_eq_true,beq_iff_eq] at agree
    rw [agree.1.1,eq_of_same a b agree.1.2,eq_of_sameItems as bs agree.2]
  | [],_ :: _,agree | _ :: _,[],agree => by simp [sameItems] at agree
theorem eq_of_sameFields : (as bs : List (String × Issue)) → sameFields as bs = true → as = bs
  | [],[],_ => rfl
  | (_,a) :: as,(_,b) :: bs,agree => by
    simp only [sameFields,Bool.and_eq_true,beq_iff_eq] at agree
    rw [agree.1.1,eq_of_same a b agree.1.2,eq_of_sameFields as bs agree.2]
  | [],_ :: _,agree | _ :: _,[],agree => by simp [sameFields] at agree
end

mutual
theorem same_self : (a : Issue) → a.same a = true
  | leaf .. | staged .. | plain .. => by simp [same]
  | array _ _ entries => by simp [same,sameItems_self entries]
  | object _ _ entries => by simp [same,sameFields_self entries]
theorem sameItems_self : (as : List (Int × Issue)) → sameItems as as = true
  | [] => rfl
  | (_,a) :: as => by simp [sameItems,same_self a,sameItems_self as]
theorem sameFields_self : (as : List (String × Issue)) → sameFields as as = true
  | [] => rfl
  | (_,a) :: as => by simp [sameFields,same_self a,sameFields_self as]
end

theorem same_iff (a b : Issue) : a.same b = true ↔ a = b :=
  ⟨eq_of_same a b,fun equal => equal ▸ same_self a⟩

instance : DecidableEq Issue := fun a b => decidable_of_iff _ (same_iff a b)

end Schemata.Issue
