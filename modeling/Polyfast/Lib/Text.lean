import Mathlib.Data.List.Infix
import Mathlib.Data.String.Basic

/-!
# Texts

Upper case, and whether a text occurs in another.

* `toUpper_toUpper`: a text in upper case is in upper case;
* `toUpper_eq_self`: it is enough to look at its characters.
-/

namespace Lib

/-- `t` occurs in `s`. -/
def occursIn (t s : String) : Bool := decide (t.toList <:+: s.toList)

/-- `s` begins with `t`. -/
def beginsWith (s t : String) : Bool := decide (t.toList <+: s.toList)

theorem toUpper_eq_self {s : String} (h : s.toList.all (fun c => c.toUpper = c) = true) : s.toUpper = s := by
  have hc : ∀ c ∈ s.toList, c.toUpper = c := fun c hc => of_decide_eq_true (List.all_eq_true.mp h c hc)
  rw [← String.toList_inj, String.toUpper, String.toList_map]
  exact (List.map_congr_left hc).trans (List.map_id _)

theorem charToUpper_toUpper (c : Char) : c.toUpper.toUpper = c.toUpper := by
  by_cases hlower : 'a'.val ≤ c.val ∧ c.val ≤ 'z'.val
  · -- the upper case of a small letter is at least 32 places below `z`, and below `a`
    have hup : c.toUpper = ⟨c.val + ('A'.val - 'a'.val), _⟩ := dif_pos hlower
    have hval : c.toUpper.val = c.val + ('A'.val - 'a'.val) := by rw [hup]
    refine dif_neg fun hupper => ?_
    rw [hval] at hupper
    have h₁ := UInt32.le_iff_toNat_le.mp hlower.1
    have h₂ := UInt32.le_iff_toNat_le.mp hlower.2
    have h₃ := UInt32.le_iff_toNat_le.mp hupper.1
    rw [UInt32.toNat_add] at h₃
    have ha : 'a'.val.toNat = 97 := rfl
    have hz : 'z'.val.toNat = 122 := rfl
    have hd : ('A'.val - 'a'.val).toNat = 4294967264 := rfl
    rw [ha] at h₁ h₃
    rw [hz] at h₂
    rw [hd] at h₃
    omega
  · have hsame : c.toUpper = c := dif_neg hlower
    rw [hsame, hsame]

theorem toUpper_toUpper (s : String) : s.toUpper.toUpper = s.toUpper := by
  refine toUpper_eq_self (List.all_eq_true.mpr fun c hc => decide_eq_true ?_)
  rw [String.toUpper, String.toList_map] at hc
  obtain ⟨d, -, rfl⟩ := List.mem_map.mp hc
  exact charToUpper_toUpper d

end Lib
