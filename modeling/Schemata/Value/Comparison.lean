import Schemata.Fault
import Schemata.Number
import Schemata.Value.Entries

/-!
Truth of values and loose equality. Loose equality compares numbers and truth values by
mathematical value and containers by content; inside containers an object equals itself, and a NaN
counts there as every other NaN does. A mapping is compared by all of its entries, and where it
refuses them the comparison fails. A foreign object decides by its own rule, may refuse, and may
answer something that is neither true nor false, so a comparison gives a value whose truth is asked
separately. Outcomes of validations agree when both are successes or both failures and what they
hold agrees.
-/
namespace Schemata

namespace Foreign

/-- What comparing the object with another value gives. The undecided answer is the object
itself, which has no truth value. -/
def compared (object : Foreign) (identity : Identity) (other : Value) : Except Fault Value :=
  match object.comparing with
  | .byIdentity => .ok (.bool (Value.foreign identity object == other))
  | .refusing => .error (.error .runtime "cannot compare")
  | .undecided => .ok (.foreign identity object)
  | .always => .ok (.bool true)

end Foreign

namespace Value

def truth : Value → Except Fault Bool
  | null | missing => .ok false
  | bool b => .ok b
  | int i => .ok (i != 0)
  | float x => .ok (!x.isZero)
  | str s => .ok (s != "")
  | bytes content => .ok (!content.isEmpty)
  | list _ items | tuple _ items => .ok (!items.isEmpty)
  | dict _ entries | mapping _ entries => .ok (!entries.isEmpty)
  | foreign _ object =>
    match object.comparing with
    | .undecided => .error (.error .value "ambiguous")
    | _ => .ok true
  | ok _ | err _ | issue _ => .ok true

/-- The number that a number or a truth value counts as in comparisons. -/
def quantity? : Value → Option Number
  | bool b => some (.int (if b then 1 else 0))
  | value => value.number?

/-- Whether every pair of corresponding items agrees, asked from the left. -/
def allAgree : List (Value → Except Fault Bool) → List Value → Except Fault Bool
  | agrees :: rest,item :: items => do
    if ← agrees item then allAgree rest items else return false
  | _,_ => return true

/-- An entry of the left table: its key, and how its value compares with another one, with
the sides turned or not. -/
abbrev EntryTest := Value × (Bool → Value → Except Fault Bool)

/-- The left table's entries looked up in the right one, in the left one's order. -/
def leftAgrees : List EntryTest → Entries → Except Fault Bool
  | [],_ => return true
  | (key,agrees) :: rest,entries => do
    match entries.find? key with
    | none => return false
    | some value => if ← agrees false value then leftAgrees rest entries else return false

/-- The right table's entries looked up in the left one, in the right one's order. -/
def rightAgrees (tests : List EntryTest) : Entries → Except Fault Bool
  | [] => return true
  | (key,value) :: rest => do
    match Table.find? tests key with
    | none => return false
    | some agrees => if ← agrees true value then rightAgrees tests rest else return false

/-- Two tables of one size agree when every entry of the one that leads agrees. -/
def tables (rightFirst : Bool) (tests : List EntryTest) (others : Entries) :
    Except Fault Value := do
  if tests.length ≠ others.length then return bool false
  else if rightFirst then return bool (← rightAgrees tests others)
  else return bool (← leftAgrees tests others)

mutual
/-- What `a == b` gives, or `b == a` when the sides are turned. Only foreign objects can
tell the sides apart. Of two tables the one that is no plain dictionary is gone through
in its order, of two such the right one. -/
def compare (turned : Bool) : Value → Value → Except Fault Value
  | foreign i object,foreign j other =>
    if turned then other.compared j (foreign i object) else object.compared i (foreign j other)
  | foreign i object,b => object.compared i b
  | a,foreign j other => other.compared j a
  | list _ items,list _ others =>
    if items.length ≠ others.length then return bool false
    else return bool (← allAgree (agreements turned items) others)
  | tuple _ items,tuple _ others => do
    return bool ((← allAgree (agreements turned items) others) &&
      items.length == others.length)
  | dict _ entries,dict _ others => tables turned (entryTests entries) others
  | dict _ entries,mapping j others => do
    j.access.grant .whole
    tables true (entryTests entries) others
  | mapping i entries,dict _ others => do
    i.access.grant .whole
    tables false (entryTests entries) others
  | mapping i entries,mapping j others => do
    (if turned then j else i).access.grant .whole
    (if turned then i else j).access.grant .whole
    tables (!turned) (entryTests entries) others
  | str a,str b => return bool (a == b)
  | bytes a,bytes b => return bool (a == b)
  | null,null | missing,missing => return bool true
  | ok held,ok other | err held,err other => do
    if held == other then return bool true
    else return bool (← (← held.compare turned other).truth)
  | issue content,issue other => return bool (content == other)
  | a,b => match a.quantity?,b.quantity? with
    | some m,some n => return bool (m.order n == some .eq)
    | _,_ => return bool false
/-- Inside containers an object agrees with itself without being asked. A scalar of the same type and
content counts as the object itself, and so one NaN agrees with any other there. -/
def agreements (turned : Bool) : List Value → List (Value → Except Fault Bool)
  | [] => []
  | item :: rest =>
    (fun other => do
      if item == other then return true else (← item.compare turned other).truth) ::
        agreements turned rest
def entryTests : List (Value × Value) → List EntryTest
  | [] => []
  | (key,item) :: rest =>
    (key,fun turned other => do
      if item == other then return true else (← item.compare turned other).truth) ::
        entryTests rest
end

def equals (a b : Value) : Except Fault Value := a.compare false b

end Value
end Schemata
