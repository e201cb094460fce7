import Schemata.Proofs.Annotation
import Schemata.Proofs.Yielding

/-!
How containers go through their parts. Where reading no part faults, the parts that are rejected
decide alone: with none of them the structural step succeeds, unless it has to copy a mapping that
refuses it, and otherwise it fails with one aggregate of them, of all in retained mode and of the
first in immediate mode.
-/
namespace Schemata

theorem Sequence.read_of_failed {config : Config Stage} {element : Parser} {limits : Limits Nat}
    {immediate : Bool} {serial : Nat} {items : List Value} {visited : Visit Int}
    (isList : Bool) (given : Value) (proper : config.message.IsMessage)
    (small : Limit.Kept limits.greatest (· < items.length))
    (large : Limit.Kept limits.least (items.length < ·))
    (done : (visit immediate serial (tasks element items)).outcome = .ok visited)
    (failed : visited.failures ≠ []) :
    ∃ text, (read config element limits immediate isList serial given items).outcome =
      .ok (.error (.array text none visited.failures)) := by
  obtain ⟨text,settled⟩ :=
    Message.settled_of_isMessage proper "Array elements failed validation"
  have occupied : visited.failures.isEmpty = false := by simpa using failed
  refine ⟨text,?_⟩
  rw [read,Limit.guard_of_kept small,Limit.guard_of_kept large]
  refine (Run.bind_outcome_of_ok done _).trans ?_
  simp only [occupied,settled]
  rfl

theorem Record.read_of_failed {config : Config Stage} {fields : List (String × Parser)}
    {flags : Flags} {serial : Nat} {access : Access} {entries : Entries} {visited : Visit String}
    (isDict : Bool) (given : Value) (proper : config.message.IsMessage)
    (done : (visit flags.immediate serial (tasks fields access entries)).outcome = .ok visited)
    (failed : visited.failures ≠ []) :
    ∃ text, (read config fields flags isDict serial given access entries).outcome =
      .ok (.error (if flags.pathed then (Issue.object text none visited.failures).tagPaths []
        else .object text none visited.failures)) := by
  obtain ⟨text,settled⟩ :=
    Message.settled_of_isMessage proper "Object fields failed validation"
  have occupied : visited.failures.isEmpty = false := by simpa using failed
  refine ⟨text,?_⟩
  refine (Run.bind_outcome_of_ok done _).trans ?_
  simp only [occupied,settled]
  rfl

namespace Form

variable {form : Form Stage Schema} {serial : Nat} {value : Value}

/-- No slot is refused, and reading faults in none. -/
def Calm (form : Form Stage Schema) (serial : Nat) (value : Value) : Prop :=
  ∀ slot ∈ form.slots value, ∀ fault,
    (slot.task.read (value.freshFrom serial)).outcome ≠ .error fault

/-- The keys of the slots that are rejected, each with its issue, in the order of the slots. -/
def rejections (form : Form Stage Schema) (serial : Nat) (value : Value) : List (Key × Issue) :=
  (form.slots value).filterMap fun slot => slot.task.failure? (value.freshFrom serial)

theorem container_of_takes (taken : form.Takes value) : form.container = true := by
  cases form with
  | array element limits immediate | object fields flags => rfl
  | _ => exact taken.elim

theorem visited_reports (calm : form.Calm serial value) :
    ∃ visited, (form.visited serial value).outcome = .ok visited ∧
      visited.failures = reported form.immediate (form.rejections serial value) := by
  have quiet : ∀ task ∈ (form.slots value).map Slot.task, ∀ fault,
      (task.read (value.freshFrom serial)).outcome ≠ .error fault := by
    intro task member
    obtain ⟨slot,inside,rfl⟩ := List.mem_map.mp member
    exact calm slot inside
  obtain ⟨visited,done,same⟩ := visit_reports form.immediate quiet
  have listed : ((form.slots value).map Slot.task).filterMap
      (Task.failure? (value.freshFrom serial)) = form.rejections serial value := List.filterMap_map
  exact ⟨visited,done,by rw [same,listed]⟩

end Form

namespace Node

variable {content : Node Stage Schema} {config : Config Stage} {serial : Nat} {value : Value}
  {visited : Visit Key}

theorem structural_of_clean (taken : content.form.Takes value)
    (admitted : content.form.Admits value)
    (done : (content.form.visited serial value).outcome = .ok visited)
    (clean : visited.failures = []) (granted : content.form.copying? value = none) :
    ∃ output, (content.structural serial value).outcome = .ok (.ok output) := by
  have answered := List.forall₂_map_left_iff.mp (visit_clean done clean).2
  refine ⟨content.form.assemble serial value (visited.outputs.map (·.2)),?_⟩
  apply (structural_gathers (Form.container_of_takes taken)).mpr
  exact ⟨_,taken,admitted,answered,granted,rfl⟩

theorem array_of_failed {element : Schema} {limits : Limits Nat} {immediate : Bool}
    (proper : config.message.IsMessage)
    (taken : (Form.array element limits immediate : Form Stage Schema).Takes value)
    (admitted : (Form.array element limits immediate : Form Stage Schema).Admits value)
    (done : ((Form.array element limits immediate : Form Stage Schema).visited serial value).outcome =
      .ok visited)
    (failed : visited.failures ≠ []) :
    ∃ root : Issue, root.Gathers visited.failures ∧
      (structural ⟨config,.array element limits immediate⟩ serial value).outcome =
        .ok (.error root) := by
  obtain ⟨items,held⟩ := Option.isSome_iff_exists.mp taken
  obtain ⟨small,large⟩ := admitted items held
  rw [Form.visited_array held] at done
  obtain ⟨inner,ended,rfl⟩ := Run.map_outcome_ok.mp done
  have occupied : inner.failures ≠ [] := by simpa [Visit.rekey] using failed
  obtain ⟨text,answered⟩ := Sequence.read_of_failed value.isList value proper small large
    ended occupied
  refine ⟨.array text none inner.failures,⟨rfl,rfl,rfl⟩,?_⟩
  rw [array_of_items held]
  exact answered

theorem object_of_failed {fields : List (String × Schema)} {flags : Flags}
    (proper : config.message.IsMessage)
    (taken : (Form.object fields flags : Form Stage Schema).Takes value)
    (done : ((Form.object fields flags : Form Stage Schema).visited serial value).outcome =
      .ok visited)
    (failed : visited.failures ≠ []) :
    ∃ root : Issue, root.Gathers visited.failures ∧
      (structural ⟨config,.object fields flags⟩ serial value).outcome =
        .ok (.error (if flags.pathed then root.tagPaths [] else root)) := by
  obtain ⟨entries,held⟩ := Option.isSome_iff_exists.mp taken
  rw [Form.visited_object held] at done
  obtain ⟨inner,ended,rfl⟩ := Run.map_outcome_ok.mp done
  have occupied : inner.failures ≠ [] := by simpa [Visit.rekey] using failed
  obtain ⟨text,answered⟩ := Record.read_of_failed value.isDict value proper ended occupied
  refine ⟨.object text none inner.failures,⟨rfl,rfl,rfl⟩,?_⟩
  rw [object_of_entries held]
  exact answered

/-- The failures of a visit end the step in an aggregate of them. -/
theorem structural_of_failed (proper : content.config.message.IsMessage)
    (taken : content.form.Takes value) (admitted : content.form.Admits value)
    (done : (content.form.visited serial value).outcome = .ok visited)
    (failed : visited.failures ≠ []) :
    ∃ root : Issue, root.Gathers visited.failures ∧
      (content.structural serial value).outcome =
        .ok (.error (if content.form.pathed then root.tagPaths [] else root)) := by
  rcases content with ⟨config,form⟩
  cases form with
  | array element limits immediate =>
    exact array_of_failed proper taken admitted done failed
  | object fields flags => exact object_of_failed proper taken done failed
  | _ => exact taken.elim

/-- The structural step of a container that takes the value, and in which reading no slot faults, is
settled by the slots that are rejected. If there are none it succeeds, but ends in the error of a
mapping that it has to copy and that refuses it; otherwise its issue is an aggregate whose entries are,
but for the paths that a pathed object writes, all of them in order in retained mode and the first
alone in immediate mode. -/
theorem structural_traverses (content : Node Stage Schema)
    (proper : content.config.message.IsMessage) (serial : Nat) (value : Value)
    (taken : content.form.Takes value) (admitted : content.form.Admits value)
    (calm : content.form.Calm serial value) :
    (content.form.rejections serial value = [] →
      (content.form.copying? value = none →
        ∃ output, (content.structural serial value).outcome = .ok (.ok output)) ∧
      ∀ fault, content.form.copying? value = some fault →
        (content.structural serial value).outcome = .error fault) ∧
    (content.form.rejections serial value ≠ [] →
      ∃ root issue : Issue, (content.structural serial value).outcome = .ok (.error issue) ∧
        root.Gathers (reported content.form.immediate (content.form.rejections serial value)) ∧
        issue = (if content.form.pathed then root.tagPaths [] else root) ∧
        issue.children.map (Prod.map id Issue.erased) =
          (reported content.form.immediate (content.form.rejections serial value)).map
            (Prod.map id Issue.erased)) := by
  obtain ⟨visited,done,same⟩ := Form.visited_reports calm
  constructor
  · intro none
    have clean : visited.failures = [] := by
      rw [same,none]
      cases content.form.immediate <;> rfl
    exact ⟨structural_of_clean taken admitted done clean,
      fun fault refused => structural_of_denied (.copy done clean refused)⟩
  · intro some
    have failed : visited.failures ≠ [] := by
      rw [same]
      cases content.form.immediate <;> simpa [reported] using some
    obtain ⟨root,gathers,answered⟩ := structural_of_failed proper taken admitted done failed
    -- Paths are all that tagging changes, and erasing forgets them in the entries too.
    have entries : root.children.map (Prod.map id Issue.erased) = root.erased.children :=
      (Issue.children_erased root).symm
    refine ⟨root,_,answered,same ▸ gathers,rfl,?_⟩
    rw [← same,← gathers.children,entries]
    split
    · rw [← Issue.erased_tagPaths root []]
      exact (Issue.children_erased _).symm
    · exact entries

/-- A row with two fields that are rejected, in both modes. -/
theorem structural_traverses_row :
    let count : Schema := .node ⟨.empty,.bigint .none⟩
    let tags : Schema := .node ⟨.empty,.array (.node ⟨.empty,.string .none⟩) .none false⟩
    let row (immediate : Bool) : Node Stage Schema := ⟨.withMessage (.str "No row"),
      .object [("id",count),("size",count),("tags",tags)] ⟨immediate,false,true⟩⟩
    let input : Value := .mapping (.given 0) [(.str "tags",.list (.given 1) [.str "a",.null]),
      (.str "id",.int 1)]
    let size : Key × Issue := (.field "size",.leaf .required "Value is required" none)
    let tagging : Key × Issue := (.field "tags",.array "Array elements failed validation" none
      [(1,.leaf .required "Value is required" none)])
    (row false).form.rejections 0 input = [size,tagging] ∧
      (∃ root issue : Issue, ((row false).structural 0 input).outcome = .ok (.error issue) ∧
        root.Gathers [size,tagging] ∧ issue = root.tagPaths []) ∧
      ∃ root issue : Issue, ((row true).structural 0 input).outcome = .ok (.error issue) ∧
        root.Gathers [size] ∧ issue = root.tagPaths [] := by
  intro count tags row input size tagging
  have calm (immediate : Bool) : (row immediate).form.Calm 0 input := by
    intro slot member fault
    simp only [row,Form.slots,input,Value.entries?,List.map_cons,List.map_nil,List.mem_cons,
      List.not_mem_nil,or_false] at member
    rcases member with rfl | rfl | rfl <;> rintro ⟨⟩
  have rejected (immediate : Bool) : (row immediate).form.rejections 0 input = [size,tagging] := rfl
  have traverses (immediate : Bool) :=
    structural_traverses (row immediate) trivial 0 input rfl trivial (calm immediate)
  simp only [rejected] at traverses
  obtain ⟨root,issue,answered,gathers,marked,_⟩ := (traverses false).2 (by simp)
  obtain ⟨first,alone,stopped,gathered,tagged,_⟩ := (traverses true).2 (by simp)
  exact ⟨rejected false,⟨root,issue,answered,gathers,marked⟩,first,alone,stopped,gathered,tagged⟩

/-- Where no slot is rejected the step need not succeed, since it may have to copy the mapping. -/
theorem structural_traverses_not_copied :
    ¬ ∀ (content : Node Stage Schema) (serial : Nat) (value : Value),
      content.config.message.IsMessage → content.form.Takes value → content.form.Admits value →
      content.form.Calm serial value → content.form.rejections serial value = [] →
      ∃ output, (content.structural serial value).outcome = .ok (.ok output) := by
  intro succeeds
  let row : Node Stage Schema := ⟨.empty,.object [("a",.node ⟨.empty,.string .none⟩)] .off⟩
  have calm : row.form.Calm 0 .brokenSection := List.forall_mem_singleton.mpr nofun
  obtain ⟨output,answered⟩ := succeeds row 0 .brokenSection trivial rfl trivial calm rfl
  cases show Except.error _ = Except.ok (Except.ok output) from answered

end Node
end Schemata
