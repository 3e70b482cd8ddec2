import Mathlib.Data.List.Nodup
import Mathlib.Data.List.Perm.Subperm
import TagAudit.Server.Draft

namespace TagAudit.Server.Draft

theorem hasConstant_iff {d : Draft} {name : String} :
    d.hasConstant name = true ↔ name ∈ d.constantNames := by
  simp [hasConstant]

theorem numberedName_injective {base : String} {m n : Nat}
    (same : numberedName base m = numberedName base n) : m = n := by
  have chars := congrArg String.toList same
  simp only [numberedName, String.toList_append, List.append_cancel_left_eq] at chars
  exact Numeral.ofInt_natCast_injective (String.toList_injective chars)

/-- The search passes a number only if the name with it is taken. -/
theorem numberedName_mem_of_freeNameFrom_mem {d : Draft} {base : String} {tries number k : Nat}
    (taken : d.freeNameFrom base tries number ∈ d.constantNames) (within : k ≤ tries) :
    numberedName base (number + k) ∈ d.constantNames := by
  induction tries generalizing number k with
  | zero =>
    have first : k = 0 := by omega
    simpa only [first, Nat.add_zero, freeNameFrom] using taken
  | succ tries ih =>
    unfold freeNameFrom at taken
    split at taken
    · rename_i present
      cases k with
      | zero => exact hasConstant_iff.mp present
      | succ k =>
        have later := ih taken (k := k) (by omega)
        rwa [Nat.add_assoc, Nat.add_comm 1 k] at later
    · rename_i absent
      exact absurd (hasConstant_iff.mpr taken) absent

/-- There are fewer names than tries, so the numbered names that are tried cannot all be taken. -/
theorem freeNameFrom_not_mem (d : Draft) (base : String) (number : Nat) :
    d.freeNameFrom base d.constantNames.length number ∉ d.constantNames := by
  intro taken
  let tried := (List.range (d.constantNames.length + 1)).map fun k => numberedName base (number + k)
  have distinct : tried.Nodup := by
    refine List.Nodup.map ?_ List.nodup_range
    intro a b same
    have numbers := numberedName_injective same
    omega
  have all : tried ⊆ d.constantNames := by
    intro name member
    obtain ⟨k, bound, rfl⟩ := List.mem_map.mp member
    exact numberedName_mem_of_freeNameFrom_mem taken (Nat.lt_succ_iff.mp (List.mem_range.mp bound))
  have count := (List.subperm_of_subset distinct all).length_le
  simp only [tried, List.length_map, List.length_range] at count
  omega

/-- The name for a new constant is one that no constant has. -/
theorem freeName_not_mem (d : Draft) (base : String) : d.freeName base ∉ d.constantNames := by
  unfold freeName
  split
  · exact d.freeNameFrom_not_mem base 2
  · rename_i absent
    exact fun member => absent (hasConstant_iff.mpr member)

end TagAudit.Server.Draft
