import Mathlib.Algebra.Group.Nat.Defs
import Mathlib.Data.List.Induction

/-!
# Digits of numbers

The digits by which a number is written stand for it, and a zero at the front stands alone. Digits
stand for less than the power of their number.
-/

namespace ToolGateway.Text

/-- A place below a number of places, with what is in it. -/
theorem mul_add_lt {n bound base digit : Nat} (h : n < bound) (hdigit : digit < base) :
    n * base + digit < bound * base :=
  calc n * base + digit < n * base + base := Nat.add_lt_add_left hdigit _
    _ = (n + 1) * base := (Nat.succ_mul n base).symm
    _ ≤ bound * base := Nat.mul_le_mul_right base h

/-- Digits stand for less than the power of their number. -/
theorem foldl_lt_pow {base : Nat} {digits : List Nat} (h : ∀ d ∈ digits, d < base) :
    digits.foldl (fun value d => value * base + d) 0 < base ^ digits.length := by
  induction digits using List.reverseRecOn with
  | nil => exact Nat.one_pos
  | append_singleton digits d ih =>
    have hmore := ih fun d hd => h d (List.mem_append_left _ hd)
    rw [List.foldl_append, List.length_append, Nat.pow_add]
    simpa using mul_add_lt hmore (h d (by simp))

/-- The digits of a number stand for it. -/
theorem exists_digits (base : Nat) (hbase : 1 < base) (n : Nat) :
    ∃ digits : List Nat, Nat.toDigits base n = digits.map Nat.digitChar ∧ (∀ d ∈ digits, d < base) ∧
      (digits.head? = some 0 → digits = [0]) ∧
      digits.foldl (fun value d => value * base + d) 0 = n := by
  induction n using Nat.strongRecOn with
  | ind n ih =>
    rw [Nat.toDigits_eq_if hbase]
    split
    · next hsmall => exact ⟨[n], rfl, by simpa using hsmall, by simp, by simp⟩
    · next hlarge =>
      obtain ⟨digits, hdigits, hall, hzero, hvalue⟩ :=
        ih (n / base) (Nat.div_lt_self (by omega) hbase)
      have hlast : n % base < base := Nat.mod_lt _ (by omega)
      refine ⟨digits ++ [n % base], by rw [hdigits, List.map_append]; rfl, ?_, fun hhead => ?_, ?_⟩
      · intro d hd
        rcases List.mem_append.mp hd with hd | hd
        · exact hall d hd
        · rwa [List.mem_singleton.mp hd]
      · -- Digits of zero in front of the last one would make the number small.
        have hne : digits ≠ [] := fun h => Nat.toDigits_ne_nil (hdigits.trans (by rw [h]; rfl))
        obtain ⟨d, more, rfl⟩ := List.exists_cons_of_ne_nil hne
        have hquotient : n / base = 0 := by
          rw [← hvalue, hzero hhead]
          simp
        exact absurd (Nat.div_eq_zero_iff.mp hquotient) (by omega)
      · rw [List.foldl_append, hvalue]
        exact Nat.div_add_mod' n base

end ToolGateway.Text
