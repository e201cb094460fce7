import Schemata.Proofs.Consultation
import Schemata.Proofs.IssueTree

/-!
Which failures of a pathed object are located. The structural step writes the keys into
everything below the root, but an issue that a refinement or a check of the object hands over
is answered as it is; it is located only if it was before.
-/
namespace Schemata.Schema

variable {config : Config Stage} {fields : List (String × Schema)} {flags : Flags}

theorem structural_located (pathed : flags.pathed = true) {serial : Nat} {value : Value}
    {issue : Issue}
    (complained : (Node.structural ⟨config,.object fields flags⟩ serial value).outcome =
      .ok (.error issue)) : issue.Located := by
  cases Node.structural_complains complained with
  | objects objects => exact Issue.located_of_not_aggregate objects.not_aggregate
  | forwards shape _ => cases shape
  | refuses shape _ _ => cases shape
  | gathers visited root admitted done failed gathered marked =>
    rw [marked,Form.pathed,if_pos pathed]
    exact Issue.located_tagPaths root

/-- A failure of a pathed object is located exactly when the issues that its refinements and
checks hand over are. -/
theorem safe_parse_locates (config : Config Stage) (fields : List (String × Schema))
    (flags : Flags) (pathed : flags.pathed = true) (value : Value) (issue : Issue)
    (failed : ((Schema.node ⟨config,.object fields flags⟩).safeParse value).outcome =
      .ok (.error issue)) :
    issue.Located ↔ ∀ consultation,
      Node.Asks ⟨config,.object fields flags⟩ 0 value consultation →
        ∀ handed, consultation.Hands handed → handed.Located := by
  constructor
  · intro located consultation asks handed given
    have answered := (read_of_handed asks given).symm.trans failed
    obtain rfl : handed = issue := by simpa using answered
    exact located
  · intro handed
    rcases read_issue failed with ⟨consultation,asks,given | owned⟩ | ⟨current,_,complained⟩
    · exact handed consultation asks issue given
    · exact Issue.located_of_not_aggregate owned.simple
    · exact structural_located pathed complained

theorem safe_parse_locates_fields :
    let schema : Schema := .node
      ⟨.empty,.object [("a",.node ⟨.empty,.object [("b",.node ⟨.empty,.boolean⟩)] .off⟩)]
        ⟨false,false,true⟩⟩
    let input : Value := .dict (.given 0) [(.str "a",.dict (.given 1) [])]
    let issue : Issue := .object "Object fields failed validation" none
      [("a",.object "Object fields failed validation" (some [.field "a"])
        [("b",.leaf .required "Value is required" (some [.field "a",.field "b"]))])]
    (schema.safeParse input).outcome = .ok (.error issue) ∧ issue.Located := by
  intro schema input issue
  have failed : (schema.safeParse input).outcome = .ok (.error issue) := rfl
  refine ⟨failed,(safe_parse_locates _ _ _ rfl input issue failed).mpr ?_⟩
  intro consultation asks handed given
  rcases asks with calls | ⟨_,_,calls⟩
  · cases calls
  · cases calls

/-- A check that answers with the failure of another schema: the missing field below is nowhere
located. -/
theorem safe_parse_locates_not_handed :
    let other : Schema := .node ⟨.empty,.object [("a",.node ⟨.empty,.string .none⟩)] .off⟩
    let check : Stage := .function none fun serial value _ => do
      match ← other.parser.read serial value with
      | .ok output => return .ok output
      | .error issue => return .err (.issue issue)
    let schema : Schema := .node
      ⟨⟨.null,.null,[],[(check,.null)]⟩,.object [] ⟨false,false,true⟩⟩
    ¬ ∀ issue, (schema.safeParse (.dict (.given 0) [])).outcome = .ok (.error issue) →
      issue.Located := by
  intro other check schema located
  have unlocated := located _ rfl [.field "a"] _
    (.child (List.mem_singleton_self _) .root) (by simp)
  cases unlocated

end Schemata.Schema
