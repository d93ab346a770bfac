import DocRepair.Proofs.Batch.BottomUp
import DocRepair.Proofs.Batch.Changes
import DocRepair.Proofs.Batch.Repetition
import DocRepair.Proofs.Fixer.WrittenBytes

/-!
Reading a file, fixing it, and writing it back.

Bytes that cannot be decoded are carried through every edit. No other surrogate ever gets into the
content, whatever the messages say, so that the fixed content can be written.
-/

namespace DocRepair

open Text

theorem Php.analyzerOf_cutFrom (parse : Text → Option Php.Node) {content : Text}
    {tree : SourceTree} (read : Php.analyzerOf parse content = some tree) :
    tree.CutFrom content := by
  obtain ⟨root, _, rfl⟩ := Option.map_eq_some_iff.mp read
  exact Php.declarations_cutFrom content root

theorem Registry.standard_isBuiltin (analyze : Analyzer) :
    (Registry.standard analyze).IsBuiltin analyze :=
  Plugin.assemble_isBuiltin rfl (Plugin.assemble_standard analyze [])

namespace Batch

variable {b : Batch} {parse : Text → Option Php.Node}
  (builtin : b.registry.IsBuiltin (Php.analyzerOf parse))

include builtin

/-- One diagnostic, whatever its message, leaves a content with bytes. -/
theorem hasBytes_next {content : Text} (whole : content.HasBytes) (issue : Issue) :
    (next content (b.handle issue content).result).HasBytes := by
  rw [next]
  split
  · rename_i success
    rcases handle_cases builtin issue content with ⟨fails, _⟩ | ⟨_, known, p, planned, carried⟩
    · rw [fails] at success
      cases success
    · rw [carried] at success ⊢
      have written := Fixer.planner_written (fun _ => Php.analyzerOf_cutFrom parse) whole known
        planned
      exact p.hasBytes_carryOut (Fixer.planner_placed known planned) written whole success
  · exact whole

theorem hasBytes_lastContent {content : Text} (whole : content.HasBytes) (issues : List Issue) :
    (FileReport.lastContent content
      ((b.handleAll issues content).map (·.result))).HasBytes := by
  induction issues generalizing content with
  | nil => exact whole
  | cons issue rest ih => exact ih (hasBytes_next builtin whole issue)

end Batch

/-- Bytes that have been read can be written back as they were. Whatever the diagnostics say, the
only surrogates in the fixed content carry bytes, so it can be written too, and it is written as
the bytes that have been read if nothing has been fixed. -/
theorem bytes_survive (parse : Text → Option Php.Node) (configuration : Configuration)
    (expressions : Expressions) (issues : List Issue) (bytes : List UInt8) :
    let b : Batch := ⟨Registry.standard (Php.analyzerOf parse), configuration, expressions⟩
    let fixed := b.finalContent issues (Utf8.decode bytes)
    Utf8.encodeStrict (Utf8.decode bytes) = .ok bytes ∧
      (∀ c ∈ fixed, c.isSurrogate = true → 0xDC80 ≤ c.val ∧ c.val ≤ 0xDCFF) ∧
      Utf8.encodeStrict fixed = .ok (Utf8.encode fixed) ∧
      ((∀ handled ∈ b.fixIssues issues (Utf8.decode bytes), handled.result.isSuccess = false) →
        Utf8.encodeStrict fixed = .ok bytes) := by
  intro b fixed
  have builtin : b.registry.IsBuiltin (Php.analyzerOf parse) := Registry.standard_isBuiltin _
  have read := Utf8.hasBytes_decode bytes
  have back : Utf8.encodeStrict (Utf8.decode bytes) = .ok bytes := by
    rw [Utf8.encodeStrict_of_hasBytes read, Utf8.encode_decode]
  have written : fixed.HasBytes := Batch.hasBytes_lastContent builtin read _
  refine ⟨back, written, Utf8.encodeStrict_of_hasBytes written, fun fails => ?_⟩
  have unchanged : fixed = Utf8.decode bytes := by
    refine (Batch.lastContent_grows builtin _ _).2.mpr (List.countP_eq_zero.mpr ?_)
    intro result member
    obtain ⟨handled, inside, rfl⟩ := List.mem_map.mp member
    simp [fails handled inside]
  rw [unchanged, back]

end DocRepair
