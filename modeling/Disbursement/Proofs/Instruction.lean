import Disbursement.Instruction.Basic
import Disbursement.Proofs.Record
import Mathlib.Data.List.Nodup

/-!
# Data of instructions

The first eight bytes of the data select an instruction. No two instructions share them
(`InstructionKind.ofMark?_mark`), so an instruction is read back as soon as its arguments are
(`Instruction.decode_encode`).
-/

namespace Disbursement

namespace InstructionKind

theorem nodup_marks : (all.map mark).Nodup := by
  decide +kernel

/-- No two instructions share their first eight bytes, so these select the one they belong to. -/
theorem ofMark?_mark (kind : InstructionKind) : ofMark? kind.mark = some kind := by
  have hall (kind : InstructionKind) : kind ∈ all := by cases kind <;> decide
  rw [ofMark?]
  cases hfind : all.find? fun other => other.mark == kind.mark with
  | none => exact absurd (beq_self_eq_true kind.mark) (List.find?_eq_none.1 hfind kind (hall kind))
  | some found =>
    have hmark := List.find?_some hfind
    rw [beq_iff_eq] at hmark
    rw [List.inj_on_of_nodup_map nodup_marks (hall found) (hall kind) hmark]

end InstructionKind

namespace Instruction

/-- The data of an instruction says which one it is, if its arguments can be read. -/
theorem decode_encode {i : Instruction} {rest : Bytes}
    (h : decodeArguments i.encodeArguments i.kind = .ok (i, rest)) : decode i.encode = .ok i := by
  have hlength : i.kind.mark.length = 8 := length_discriminator _ _
  have htake : i.encode.take 8 = i.kind.mark := List.take_left' hlength
  have hdrop : i.encode.drop 8 = i.encodeArguments := List.drop_left' hlength
  have hlong : 8 ≤ i.encode.length := by
    rw [encode, List.length_append, hlength]
    exact Nat.le_add_right _ _
  rw [decode, ensure, if_pos hlong, htake, hdrop, InstructionKind.ofMark?_mark]
  simp only [h]
  rfl

end Instruction

end Disbursement
