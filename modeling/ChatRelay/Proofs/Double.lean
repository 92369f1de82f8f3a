import ChatRelay.Double
import Mathlib.Tactic.Ring

/-!
# How far rounding goes

Rounding to double precision at most doubles a ratio, about (`Double.nearest_le`). So a natural
number of sixty-four bits stays far below the greatest number of double precision, also after it is
multiplied by one (`Double.isFinite_mul_one`).
-/

namespace ChatRelay.Double

theorem one_pos : 0 < one := Nat.lt_of_lt_of_eq (Nat.two_pow_pos _) (Nat.one_shiftLeft _).symm

theorem nearest_le (n d : Nat) : nearest n d ≤ 2 * (n / d) + 1 := by
  rw [nearest]
  generalize hgrid : 1 <<< ((n / d).log2 - 52) = grid
  have hbelow : n / (grid * d) * grid ≤ n / d := by
    rw [Nat.mul_comm grid d, ← Nat.div_div_eq_div_mul]
    exact Nat.div_mul_le_self (n / d) grid
  have hsmall : grid ≤ n / d + 1 := by
    rw [← hgrid, Nat.shiftLeft_eq, Nat.one_mul]
    by_cases hq : n / d = 0
    · simp [hq]
    · have hle : 2 ^ ((n / d).log2 - 52) ≤ 2 ^ (n / d).log2 :=
        Nat.pow_le_pow_right (by omega) (Nat.sub_le _ _)
      exact Nat.le_succ_of_le (Nat.le_trans hle (Nat.log2_self_le hq))
  split
  · rw [Nat.add_mul, Nat.one_mul]
    omega
  · omega

theorem natAbs_ofRatio_le (n : Int) (d : Nat) :
    (ofRatio n d).units.natAbs ≤ 2 * (n.natAbs * one / d) + 1 := by
  rw [ofRatio, Int.natAbs_mul, Int.natAbs_natCast]
  have hsign : n.sign.natAbs ≤ 1 := by
    rw [Int.natAbs_sign]
    split <;> omega
  calc n.sign.natAbs * nearest (n.natAbs * one) d
      ≤ 1 * nearest (n.natAbs * one) d := Nat.mul_le_mul_right _ hsign
    _ ≤ 2 * (n.natAbs * one / d) + 1 := by rw [Nat.one_mul]; exact nearest_le _ d

theorem natAbs_ofNat_le {n : Nat} (hn : 0 < n) : (ofNat n).units.natAbs ≤ 3 * n * one := by
  have hle := natAbs_ofRatio_le n 1
  have hpos : 0 < n * one := Nat.mul_pos hn one_pos
  rw [Int.natAbs_natCast, Nat.div_one] at hle
  rw [ofNat, Nat.mul_assoc]
  omega

/-- **A product with one is far from too large.** -/
theorem isFinite_mul_one {n : Nat} (hn : 0 < n) (hsmall : n < 2 ^ 64) :
    ((ofNat n).mul (ofNat 1)).isFinite = true := by
  have hproduct : ((ofNat n).units * (ofNat 1).units).natAbs * one / (one * one) ≤ 9 * n * one := by
    refine Nat.div_le_of_le_mul ?_
    rw [Int.natAbs_mul]
    calc (ofNat n).units.natAbs * (ofNat 1).units.natAbs * one
        ≤ 3 * n * one * (3 * 1 * one) * one :=
          Nat.mul_le_mul_right one
            (Nat.mul_le_mul (natAbs_ofNat_le hn) (natAbs_ofNat_le (by omega)))
      _ = one * one * (9 * n * one) := by ring
  have hle : ((ofNat n).mul (ofNat 1)).units.natAbs ≤ 2 * (9 * n * one) + 1 :=
    Nat.le_trans (natAbs_ofRatio_le _ (one * one)) (by omega)
  have hshifted (n k : Nat) : n ≤ n <<< k := by
    rw [Nat.shiftLeft_eq]
    exact Nat.le_mul_of_pos_right n (Nat.two_pow_pos k)
  have hgreatest : one * 2 ^ 69 ≤ 1 <<< 2098 := by
    have hshift : 1 <<< 2098 = (one <<< 69) <<< 955 := by
      rw [one, ← Nat.shiftLeft_add, ← Nat.shiftLeft_add]
    rw [hshift, ← Nat.shiftLeft_eq]
    exact hshifted (one <<< 69) 955
  have hnear : n * one ≤ 2 ^ 64 * one := Nat.mul_le_mul_right one (Nat.le_of_lt hsmall)
  have hpos := one_pos
  rw [isFinite, decide_eq_true_eq]
  rw [Nat.mul_assoc] at hle
  omega

end ChatRelay.Double
