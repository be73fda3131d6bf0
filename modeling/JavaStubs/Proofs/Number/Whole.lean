import Mathlib.Algebra.Group.Int.Defs
import Mathlib.Algebra.Group.Nat.Defs
import JavaStubs.Number.Real64

/-! Floating-point numbers that are equal to an integer. -/
namespace JavaStubs.Number.Real64

/-- A number is equal to an integer: `± m · 2 ^ e = n`, with the power of two on the side where it is whole. -/
def Equals : Real64 → Int → Prop
  | .finite negative m e, n => (if negative then -(m : Int) else m) * 2 ^ e.toNat = n * 2 ^ (-e).toNat
  | _, _ => False

private def wholeSize? (m : Nat) (e : Int) : Option Nat :=
  if e < 0 then (if m % 2 ^ (-e).toNat = 0 then some (m / 2 ^ (-e).toNat) else none) else some (m * 2 ^ e.toNat)

private theorem toInt?_finite (negative : Bool) (m : Nat) (e : Int) : (finite negative m e).toInt? =
    (wholeSize? m e).map fun q : Nat => if negative then -(q : Int) else q := by
  unfold toInt? wholeSize?
  rcases Int.lt_or_le e 0 with he | he
  · have hk : (-e).toNat = e.natAbs := by omega
    simp only [if_pos he, Nat.pow_eq, hk]
    by_cases hm : m % 2 ^ e.natAbs = 0
    · simp only [if_pos hm]
      rfl
    · simp only [if_neg hm]
      rfl
  · have hk : e.toNat = e.natAbs := by omega
    simp only [if_neg (Int.not_lt.2 he), Nat.pow_eq, hk]
    rfl

private theorem wholeSize?_eq_some_iff {m q : Nat} {e : Int} :
    wholeSize? m e = some q ↔ m * 2 ^ e.toNat = q * 2 ^ (-e).toNat := by
  unfold wholeSize?
  rcases Int.lt_or_le e 0 with he | he
  · have h0 : e.toNat = 0 := by omega
    have hpos : 0 < 2 ^ (-e).toNat := Nat.pow_pos (by decide)
    rw [if_pos he, h0, Nat.pow_zero, Nat.mul_one]
    by_cases hm : m % 2 ^ (-e).toNat = 0
    · rw [if_pos hm, Option.some.injEq, Nat.div_eq_iff_eq_mul_left hpos (Nat.dvd_of_mod_eq_zero hm)]
    · rw [if_neg hm]
      refine ⟨nofun, fun h => absurd ?_ hm⟩
      rw [h, Nat.mul_mod_left]
  · have h0 : (-e).toNat = 0 := by omega
    rw [if_neg (Int.not_lt.2 he), h0, Nat.pow_zero, Nat.mul_one, Option.some.injEq]

private theorem cast_eq_iff {m a b : Nat} {n : Int} :
    (m : Int) * 2 ^ a = n * 2 ^ b ↔ ∃ q : Nat, m * 2 ^ a = q * 2 ^ b ∧ (q : Int) = n := by
  constructor
  · intro h
    have hn : 0 ≤ n := by
      refine Int.nonneg_of_mul_nonneg_left ?_ (Int.pow_pos (by decide) : (0 : Int) < 2 ^ b)
      rw [← h]
      exact Int.mul_nonneg (Int.natCast_nonneg m) (Int.le_of_lt (Int.pow_pos (by decide)))
    obtain ⟨q, rfl⟩ := Int.eq_ofNat_of_zero_le hn
    exact ⟨q, by exact_mod_cast h, rfl⟩
  · rintro ⟨q, h, rfl⟩
    exact_mod_cast h

private theorem equals_finite {negative : Bool} {m : Nat} {e n : Int} : (finite negative m e).Equals n ↔
    ∃ q : Nat, wholeSize? m e = some q ∧ (if negative then -(q : Int) else q) = n := by
  simp only [wholeSize?_eq_some_iff, Equals]
  cases negative with
  | false => exact cast_eq_iff
  | true =>
    have hneg : -(m : Int) * 2 ^ e.toNat = n * 2 ^ (-e).toNat ↔ (m : Int) * 2 ^ e.toNat = -n * 2 ^ (-e).toNat := by
      rw [Int.neg_mul, Int.neg_mul]
      omega
    have hflip : ∀ q : Nat, (q : Int) = -n ↔ -(q : Int) = n := fun q => by omega
    simpa only [if_true, hflip] using hneg.trans cast_eq_iff

theorem toInt?_eq_some_iff {x : Real64} {n : Int} : x.toInt? = some n ↔ x.Equals n := by
  cases x with
  | infinite | nan => simp [toInt?, Equals]
  | finite negative m e => rw [toInt?_finite, Option.map_eq_some_iff, equals_finite]

theorem Equals.unique {x : Real64} {n k : Int} (h : x.Equals n) (h' : x.Equals k) : n = k :=
  Option.some.inj ((toInt?_eq_some_iff.2 h).symm.trans (toInt?_eq_some_iff.2 h'))

theorem Equals.isNegative_iff {x : Real64} {n : Int} (h : x.Equals n) : x.isNegative = true ↔ n < 0 := by
  cases x with
  | infinite | nan => cases h
  | finite negative m e =>
    obtain ⟨q, hq, rfl⟩ := equals_finite.1 h
    rw [wholeSize?_eq_some_iff] at hq
    have hzero : m = 0 ↔ q = 0 := by
      have hp : ∀ k, 2 ^ k ≠ 0 := fun k => Nat.pos_iff_ne_zero.1 (Nat.pow_pos (by decide))
      rw [← Nat.mul_eq_zero.trans (or_iff_left (hp e.toNat)), hq, Nat.mul_eq_zero.trans (or_iff_left (hp (-e).toNat))]
    cases negative with
    | false => simp [isNegative]
    | true =>
      simp only [isNegative, Bool.true_and, bne_iff_ne, ne_eq, hzero, if_true]
      omega

end JavaStubs.Number.Real64
