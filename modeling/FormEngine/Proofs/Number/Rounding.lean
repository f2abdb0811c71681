import Mathlib.Algebra.Order.Field.Power
import Mathlib.Algebra.Order.Field.Rat
import Mathlib.Data.Rat.Lemmas
import Mathlib.Tactic.Linarith
import Mathlib.Tactic.Positivity
import Mathlib.Tactic.Ring
import Mathlib.Tactic.FieldSimp
import FormEngine.Number.Basic

/-!
# Rounding is monotone

`Double.ofRatio` rounds a quotient in three steps: it finds the power of two above the quotient,
from that the exponent of the result, and rounds the mantissa to an integer at that exponent.  Each
step keeps the order.  If the exponents of two quotients differ, a power of two lies between them,
and no rounding crosses it (`rounded_mono`).

`extent?_ofRat` says where the number nearest to a rational lies, and `lt_extent?_sub` is what comes
of it: a difference does not get smaller if that from which it is taken does not.
-/

namespace FormEngine

namespace Double

/-! ## Integers nearest to a rational -/

/-- An integer nearest to a rational; of two, the even one. -/
structure IsNearest (x : ℚ) (r : ℕ) : Prop where
  le_add_half : x ≤ r + 1 / 2
  sub_half_le : (r : ℚ) - 1 / 2 ≤ x
  even : x = r + 1 / 2 ∨ x = (r : ℚ) - 1 / 2 → r % 2 = 0

lemma IsNearest.mono {x y : ℚ} {r s : ℕ} (hx : IsNearest x r) (hy : IsNearest y s) (h : x ≤ y) :
    r ≤ s := by
  by_contra hlt
  have hcast : (s : ℚ) + 1 ≤ r := by exact_mod_cast not_le.1 hlt
  have hx' := hx.sub_half_le
  have hy' := hy.le_add_half
  -- both lie in the middle between neighbours, which cannot both be even
  have hr : (r : ℚ) = s + 1 := by linarith
  have hreven := hx.even (.inr (by linarith))
  have hseven := hy.even (.inl (by linarith))
  have : r = s + 1 := by exact_mod_cast hr
  omega

/-- A rest is compared with one half by comparing its double with the divisor. -/
lemma compare_half (n : ℕ) {den : ℕ} (hden : 0 < den) :
    (2 * n < den ↔ (n : ℚ) / den < 1 / 2) ∧ (den < 2 * n ↔ 1 / 2 < (n : ℚ) / den) := by
  have hpos : (0 : ℚ) < den := by exact_mod_cast hden
  rw [div_lt_iff₀ hpos, lt_div_iff₀ hpos, ← Nat.cast_lt (α := ℚ), ← Nat.cast_lt (α := ℚ)]
  push_cast
  constructor <;> constructor <;> intro h <;> linarith

lemma isNearest_natCast (n : ℕ) : IsNearest n n :=
  ⟨by linarith, by linarith, by rintro (h | h) <;> exfalso <;> linarith⟩

lemma roundDiv_isNearest (num : ℕ) {den : ℕ} (hden : 0 < den) :
    IsNearest (num / den) (roundDiv num den) := by
  have hpos : (0 : ℚ) < den := by exact_mod_cast hden
  have hsplit : (num : ℚ) / den = (num / den : ℕ) + (num % den : ℕ) / den := by
    have : (num : ℚ) = den * (num / den : ℕ) + (num % den : ℕ) := by
      exact_mod_cast (Nat.div_add_mod num den).symm
    rw [this]
    field_simp
  have hrest : (num % den : ℕ) / (den : ℚ) < 1 := by
    rw [div_lt_one hpos]
    exact_mod_cast Nat.mod_lt num hden
  have hnonneg : (0 : ℚ) ≤ (num % den : ℕ) / (den : ℚ) := by positivity
  rw [hsplit, roundDiv]
  simp only [(compare_half (num % den) hden).1, (compare_half (num % den) hden).2]
  generalize (num % den : ℕ) / (den : ℚ) = rest at *
  generalize num / den = q at *
  have hnext : ((q + 1 : ℕ) : ℚ) = q + 1 := Nat.cast_succ q
  split
  next hbelow =>
    refine ⟨by linarith, by linarith, ?_⟩
    rintro (heq | heq) <;> exfalso <;> linarith
  next hbelow =>
    split
    next habove =>
      refine ⟨by linarith, by linarith, ?_⟩
      rintro (heq | heq) <;> exfalso <;> linarith
    next habove =>
      split
      next heven => exact ⟨by linarith, by linarith, fun _ => heven⟩
      next hodd => exact ⟨by linarith, by linarith, fun _ => by omega⟩

/-! ## Powers of two -/

lemma pow_toNat {k : ℤ} (h : 0 ≤ k) : ((Nat.pow 2 k.toNat : ℕ) : ℚ) = 2 ^ k := by
  obtain ⟨n, rfl⟩ := Int.eq_ofNat_of_zero_le h
  simp

lemma scale_eq (m e : ℤ) : scale m e = m * 2 ^ e := by
  unfold scale
  split
  next h =>
    rw [← pow_toNat h]
    push_cast
    rfl
  next h =>
    rw [Rat.mkRat_eq_div, pow_toNat (by omega), zpow_neg, div_inv_eq_mul]

lemma mantissaAt_isNearest (num : ℕ) {den : ℕ} (hden : 0 < den) (e : ℤ) :
    IsNearest (num / den / 2 ^ e) (mantissaAt num den e) := by
  unfold mantissaAt
  split
  next h =>
    have hpos : 0 < den * Nat.pow 2 e.toNat := Nat.mul_pos hden (Nat.two_pow_pos _)
    have hround := roundDiv_isNearest num hpos
    rwa [Nat.cast_mul, pow_toNat h, ← div_div] at hround
  next h =>
    have hround := roundDiv_isNearest (num * Nat.pow 2 (-e).toNat) hden
    rwa [Nat.cast_mul, pow_toNat (by omega), zpow_neg, ← div_eq_mul_inv, div_right_comm] at hround

lemma belowPowerOfTwo_iff (num : ℕ) {den : ℕ} (hden : 0 < den) (k : ℤ) :
    belowPowerOfTwo num den k = true ↔ (num : ℚ) / den < 2 ^ k := by
  have hpos : (0 : ℚ) < den := by exact_mod_cast hden
  unfold belowPowerOfTwo
  split
  next h =>
    rw [decide_eq_true_eq, div_lt_iff₀ hpos, mul_comm, ← pow_toNat h]
    exact_mod_cast Iff.rfl
  next h =>
    rw [decide_eq_true_eq, ← Nat.cast_lt (α := ℚ), Nat.cast_mul, pow_toNat (by omega),
      div_lt_iff₀ hpos, zpow_neg, ← div_eq_mul_inv, div_lt_iff₀ (by positivity), mul_comm]

/-- The power of two above a quotient. -/
def topOf (num den : ℕ) : ℤ :=
  let guess : ℤ := (num.log2 : ℤ) - den.log2
  if belowPowerOfTwo num den guess then guess else guess + 1

/-- A quotient lies between half of the power of two above it and that power. -/
lemma topOf_spec {num den : ℕ} (hnum : num ≠ 0) (hden : 0 < den) :
    (2 : ℚ) ^ (topOf num den - 1) ≤ num / den ∧ (num : ℚ) / den < 2 ^ topOf num den := by
  have hpos : (0 : ℚ) < den := by exact_mod_cast hden
  have hnumlow : (2 : ℚ) ^ (num.log2 : ℤ) ≤ num := by
    rw [zpow_natCast]
    exact_mod_cast Nat.log2_self_le hnum
  have hnumhigh : (num : ℚ) < 2 ^ ((num.log2 : ℤ) + 1) := by
    have := Nat.lt_log2_self (n := num)
    exact_mod_cast this
  have hdenlow : (2 : ℚ) ^ (den.log2 : ℤ) ≤ den := by
    rw [zpow_natCast]
    exact_mod_cast Nat.log2_self_le hden.ne'
  have hdenhigh : (den : ℚ) < 2 ^ ((den.log2 : ℤ) + 1) := by
    have := Nat.lt_log2_self (n := den)
    exact_mod_cast this
  have hlow : (2 : ℚ) ^ ((num.log2 : ℤ) - den.log2 - 1) ≤ num / den := by
    rw [le_div_iff₀ hpos]
    calc (2 : ℚ) ^ ((num.log2 : ℤ) - den.log2 - 1) * den
        ≤ 2 ^ ((num.log2 : ℤ) - den.log2 - 1) * 2 ^ ((den.log2 : ℤ) + 1) := by gcongr
      _ = 2 ^ (num.log2 : ℤ) := by rw [← zpow_add₀ two_ne_zero]; congr 1; ring
      _ ≤ num := hnumlow
  have hhigh : (num : ℚ) / den < 2 ^ ((num.log2 : ℤ) - den.log2 + 1) := by
    rw [div_lt_iff₀ hpos]
    calc (num : ℚ)
        < 2 ^ ((num.log2 : ℤ) + 1) := hnumhigh
      _ = 2 ^ ((num.log2 : ℤ) - den.log2 + 1) * 2 ^ (den.log2 : ℤ) := by
        rw [← zpow_add₀ two_ne_zero]; congr 1; ring
      _ ≤ 2 ^ ((num.log2 : ℤ) - den.log2 + 1) * den := by gcongr
  unfold topOf
  simp only [belowPowerOfTwo_iff num hden]
  split
  next hbelow => exact ⟨hlow, hbelow⟩
  next hbelow =>
    rw [add_sub_cancel_right]
    exact ⟨not_lt.1 hbelow, hhigh⟩

/-- The exponent at which a quotient is rounded. -/
def exponentOf (num den : ℕ) : ℤ := max (topOf num den - 53) (-1074)

/-- A quotient after rounding, if there were no largest number. -/
def rounded (num den : ℕ) : ℚ := mantissaAt num den (exponentOf num den) * 2 ^ exponentOf num den

section

variable {num den num' den' : ℕ}

lemma topOf_mono (hnum : num ≠ 0) (hden : 0 < den) (hnum' : num' ≠ 0) (hden' : 0 < den')
    (h : (num : ℚ) / den ≤ num' / den') : topOf num den ≤ topOf num' den' := by
  have hlow := (topOf_spec hnum hden).1
  have hhigh := (topOf_spec hnum' hden').2
  have : topOf num den - 1 < topOf num' den' :=
    (zpow_lt_zpow_iff_right₀ (by norm_num : (1 : ℚ) < 2)).1 ((hlow.trans h).trans_lt hhigh)
  omega

lemma exponentOf_mono (hnum : num ≠ 0) (hden : 0 < den) (hnum' : num' ≠ 0) (hden' : 0 < den')
    (h : (num : ℚ) / den ≤ num' / den') : exponentOf num den ≤ exponentOf num' den' := by
  have := topOf_mono hnum hden hnum' hden' h
  unfold exponentOf
  omega

/-- The mantissa has at most one bit too many. -/
lemma mantissaAt_le (hnum : num ≠ 0) (hden : 0 < den) :
    mantissaAt num den (exponentOf num den) ≤ 2 ^ 53 := by
  refine (mantissaAt_isNearest num hden _).mono (isNearest_natCast (2 ^ 53)) ?_
  rw [div_le_iff₀ (by positivity)]
  calc (num : ℚ) / den
      ≤ 2 ^ topOf num den := (topOf_spec hnum hden).2.le
    _ ≤ 2 ^ (53 + exponentOf num den) := by
      refine zpow_le_zpow_right₀ one_le_two ?_
      unfold exponentOf
      omega
    _ = (2 ^ 53 : ℕ) * 2 ^ exponentOf num den := by
      rw [zpow_add₀ two_ne_zero]
      norm_num

/-- The mantissa has enough bits unless the exponent is the least one. -/
lemma le_mantissaAt (hnum : num ≠ 0) (hden : 0 < den) (hexponent : -1074 < exponentOf num den) :
    2 ^ 52 ≤ mantissaAt num den (exponentOf num den) := by
  refine (isNearest_natCast (2 ^ 52)).mono (mantissaAt_isNearest num hden _) ?_
  rw [le_div_iff₀ (by positivity)]
  calc ((2 ^ 52 : ℕ) : ℚ) * 2 ^ exponentOf num den
    _ = 2 ^ (52 + exponentOf num den) := by
      rw [zpow_add₀ two_ne_zero]
      norm_num
    _ = 2 ^ (topOf num den - 1) := by
      congr 1
      unfold exponentOf at *
      omega
    _ ≤ num / den := (topOf_spec hnum hden).1

/-- Rounding keeps the order of quotients. -/
theorem rounded_mono (hnum : num ≠ 0) (hden : 0 < den) (hnum' : num' ≠ 0) (hden' : 0 < den')
    (h : (num : ℚ) / den ≤ num' / den') : rounded num den ≤ rounded num' den' := by
  unfold rounded
  rcases (exponentOf_mono hnum hden hnum' hden' h).eq_or_lt with heq | hlt
  · have hmantissa : mantissaAt num den (exponentOf num den) ≤
        mantissaAt num' den' (exponentOf num' den') := by
      refine (mantissaAt_isNearest num hden _).mono (mantissaAt_isNearest num' hden' _) ?_
      rw [heq]
      gcongr
    rw [← heq] at hmantissa ⊢
    gcongr
  · -- a power of two lies between the quotients, and neither rounding crosses it
    have hnormal : -1074 < exponentOf num' den' := (le_max_right _ _).trans_lt hlt
    calc (mantissaAt num den (exponentOf num den) : ℚ) * 2 ^ exponentOf num den
      _ ≤ (2 ^ 53 : ℕ) * 2 ^ exponentOf num den := by
        gcongr
        exact mantissaAt_le hnum hden
      _ = (2 ^ 52 : ℕ) * 2 ^ (exponentOf num den + 1) := by
        rw [zpow_add₀ two_ne_zero]
        push_cast
        ring
      _ ≤ (2 ^ 52 : ℕ) * 2 ^ exponentOf num' den' := by
        gcongr
        · exact one_le_two
        · omega
      _ ≤ mantissaAt num' den' (exponentOf num' den') * 2 ^ exponentOf num' den' := by
        gcongr
        exact le_mantissaAt hnum' hden' hnormal

lemma rounded_nonneg : 0 ≤ rounded num den := by
  unfold rounded
  positivity

lemma rounded_zero (hden : 0 < den) : rounded 0 den = 0 := by
  have hzero : mantissaAt 0 den (exponentOf 0 den) ≤ 0 := by
    refine (mantissaAt_isNearest 0 hden _).mono (isNearest_natCast 0) ?_
    simp
  rw [rounded, Nat.le_zero.1 hzero]
  simp

/-- The result has the value of the rounded quotient, unless its exponent is too large. -/
lemma ofRatio_eq (negative : Bool) (hnum : num ≠ 0) (hden : 0 < den) :
    ∃ (m : ℕ) (e : ℤ), ofRatio negative num den =
        (if 971 < e then .infinite negative else .finite negative m e) ∧
      (m : ℚ) * 2 ^ e = rounded num den ∧ m < 2 ^ 53 ∧ (971 < e → 2 ^ 52 ≤ m) := by
  have hofRatio : ofRatio negative num den =
      let carried := if mantissaAt num den (exponentOf num den) = Nat.pow 2 53
        then (Nat.pow 2 52, exponentOf num den + 1)
        else (mantissaAt num den (exponentOf num den), exponentOf num den)
      if 971 < carried.2 then .infinite negative else .finite negative carried.1 carried.2 := by
    rw [ofRatio, if_neg hnum]
    rfl
  by_cases hcarry : mantissaAt num den (exponentOf num den) = Nat.pow 2 53
  · refine ⟨2 ^ 52, exponentOf num den + 1, by rw [hofRatio, if_pos hcarry]; rfl, ?_,
      by norm_num, fun _ => le_rfl⟩
    rw [rounded, hcarry, zpow_add₀ two_ne_zero]
    push_cast
    ring
  · refine ⟨mantissaAt num den (exponentOf num den), exponentOf num den,
      by rw [hofRatio, if_neg hcarry], rfl, lt_of_le_of_ne (mantissaAt_le hnum hden) hcarry,
      fun h => le_mantissaAt hnum hden (by omega)⟩

end

/-! ## Places on the extended line -/

/-- The least power of two that is too large for a finite number. -/
def tooLarge : ℚ := 2 ^ (1024 : ℤ)

lemma tooLarge_pos : 0 < tooLarge := by
  unfold tooLarge
  positivity

lemma tooLarge_eq (n : ℕ) {e : ℤ} (h : n + e = 1024) : tooLarge = (2 ^ n : ℕ) * 2 ^ e := by
  rw [tooLarge, ← h, zpow_add₀ two_ne_zero, zpow_natCast, Nat.cast_pow, Nat.cast_ofNat]

/-- The place of a rational on the extended line, if what is too large goes to its ends. -/
def clamp (q : ℚ) : Extent :=
  if tooLarge ≤ q then .highest else if q ≤ -tooLarge then .lowest else .at q

lemma clamp_of_large {q : ℚ} (h : tooLarge ≤ q) (negative : Bool) :
    clamp (if negative then -q else q) = if negative then .lowest else .highest := by
  have hpos := tooLarge_pos
  cases negative with
  | false => exact if_pos h
  | true =>
      have hnot : ¬ tooLarge ≤ -q := by linarith
      exact (if_neg hnot).trans (if_pos (neg_le_neg h))

lemma clamp_of_small {q : ℚ} (hq : 0 ≤ q) (h : q < tooLarge) (negative : Bool) :
    clamp (if negative then -q else q) = .at (if negative then -q else q) := by
  have hpos := tooLarge_pos
  cases negative with
  | false =>
      have hnot : ¬ q ≤ -tooLarge := by linarith
      exact (if_neg h.not_ge).trans (if_neg hnot)
  | true =>
      have hnot : ¬ tooLarge ≤ -q := by linarith
      exact (if_neg hnot).trans (if_neg (neg_lt_neg h).not_ge)

lemma extent?_finite (negative : Bool) (m : ℕ) (e : ℤ) :
    (finite negative m e).extent? =
      some (.at (if negative then -((m : ℚ) * 2 ^ e) else (m : ℚ) * 2 ^ e)) := by
  rw [extent?, scale_eq]
  cases negative <;> simp

lemma extent?_ofRatio (negative : Bool) {num den : ℕ} (hden : 0 < den) :
    (ofRatio negative num den).extent? =
      some (clamp (if negative then -rounded num den else rounded num den)) := by
  by_cases hnum : num = 0
  · subst hnum
    rw [ofRatio, if_pos rfl, extent?_finite, rounded_zero hden, Nat.cast_zero, zero_mul,
      clamp_of_small le_rfl tooLarge_pos]
  · obtain ⟨m, e, hratio, hvalue, hhigh, hlow⟩ := ofRatio_eq negative hnum hden
    rw [hratio, ← hvalue]
    split
    next hlarge =>
      have hm : ((2 ^ 52 : ℕ) : ℚ) ≤ m := by exact_mod_cast hlow hlarge
      rw [clamp_of_large, extent?]
      calc tooLarge
        _ = (2 ^ 52 : ℕ) * 2 ^ (972 : ℤ) := tooLarge_eq 52 rfl
        _ ≤ m * 2 ^ e := by
          gcongr
          · exact one_le_two
          · omega
    next hsmall =>
      have hm : (m : ℚ) < (2 ^ 53 : ℕ) := by exact_mod_cast hhigh
      rw [extent?_finite, clamp_of_small (by positivity)]
      calc (m : ℚ) * 2 ^ e
        _ ≤ m * 2 ^ (971 : ℤ) := by
          gcongr
          · exact one_le_two
          · omega
        _ < (2 ^ 53 : ℕ) * 2 ^ (971 : ℤ) := by gcongr
        _ = tooLarge := (tooLarge_eq 53 rfl).symm

/-! ## The order of the line -/

end Double

/-- The order of the extended line, with equality. -/
instance : LE Extent := ⟨fun p q => q.lt p = false⟩

namespace Extent

lemma le_def {p q : Extent} : p ≤ q ↔ q.lt p = false := Iff.rfl

lemma at_le_at {p q : ℚ} : Extent.at p ≤ .at q ↔ p ≤ q := by
  rw [le_def, lt, decide_eq_false_iff_not, not_lt]

lemma le_highest (p : Extent) : p ≤ .highest := by cases p <;> rfl

lemma lowest_le (p : Extent) : .lowest ≤ p := by cases p <;> rfl

lemma le_refl (p : Extent) : p ≤ p := by
  cases p with
  | «at» q => exact at_le_at.2 le_rfl
  | _ => rfl

lemma lt_of_lt_of_le {p q r : Extent} (h : p.lt q = true) (hle : q ≤ r) : p.lt r = true := by
  rw [le_def] at hle
  cases p <;> cases q <;> cases r <;> simp_all [lt]
  exact h.trans_le hle

lemma le_trans {p q r : Extent} (h : p ≤ q) (h' : q ≤ r) : p ≤ r := by
  rw [le_def] at *
  by_contra hlt
  rw [Bool.not_eq_false] at hlt
  have := lt_of_lt_of_le hlt (le_def.2 h)
  rw [h'] at this
  cases this

end Extent

namespace Double

lemma clamp_mono {p q : ℚ} (h : p ≤ q) : clamp p ≤ clamp q := by
  unfold clamp
  split
  next hlarge =>
    rw [if_pos (hlarge.trans h)]
    exact Extent.le_highest _
  next hlarge =>
    split
    · exact Extent.lowest_le _
    next hsmall =>
      split
      · exact Extent.le_highest _
      · rw [if_neg (by linarith)]
        exact Extent.at_le_at.2 h

/-- The magnitude of a rational after rounding. -/
def magnitude (q : ℚ) : ℚ := rounded q.num.natAbs q.den

lemma magnitude_mono {p q : ℚ} (h : |p| ≤ |q|) : magnitude p ≤ magnitude q := by
  have habs : ∀ q : ℚ, (q.num.natAbs : ℚ) / q.den = |q| := fun q => by
    conv_rhs => rw [← Rat.num_div_den q]
    rw [abs_div, Nat.abs_cast, Nat.cast_natAbs, Int.cast_abs]
  unfold magnitude
  by_cases hp : p.num.natAbs = 0
  · rw [hp, rounded_zero p.den_pos]
    exact rounded_nonneg
  · have hq : q.num.natAbs ≠ 0 := by
      intro hq
      have hzero : q = 0 := Rat.num_eq_zero.1 (Int.natAbs_eq_zero.1 hq)
      rw [hzero, abs_zero, abs_nonpos_iff] at h
      exact hp (by rw [h]; rfl)
    exact rounded_mono hp p.den_pos hq q.den_pos (by rw [habs, habs]; exact h)

lemma magnitude_nonneg (q : ℚ) : 0 ≤ magnitude q := rounded_nonneg

/-- A rational after rounding, if there were no largest number. -/
def nearest (q : ℚ) : ℚ := if q < 0 then -magnitude q else magnitude q

lemma nearest_zero : nearest 0 = 0 := (if_neg (lt_irrefl 0)).trans (rounded_zero Nat.one_pos)

/-- Rounding keeps the order of rationals. -/
theorem nearest_mono {p q : ℚ} (h : p ≤ q) : nearest p ≤ nearest q := by
  have hp := magnitude_nonneg p
  have hq := magnitude_nonneg q
  unfold nearest
  split
  next hneg =>
    split
    next hneg' =>
      have := magnitude_mono (p := q) (q := p) (by rw [abs_of_neg hneg, abs_of_neg hneg']; linarith)
      linarith
    · linarith
  next hnonneg =>
    rw [if_neg (by linarith)]
    refine magnitude_mono ?_
    rw [abs_of_nonneg (by linarith), abs_of_nonneg (by linarith)]
    exact h

lemma extent?_ofRat (q : ℚ) : (ofRat q).extent? = some (clamp (nearest q)) := by
  rw [ofRat, extent?_ofRatio _ q.den_pos]
  simp [nearest, magnitude]

/-! ## Differences -/

/-- Where a difference from a place on the extended line lies: rounding puts it there, unless the
place is an end of the line. -/
def shift (q : ℚ) : Extent → Extent
  | .at p => clamp (nearest (p - q))
  | u => u

lemma shift_mono (q : ℚ) {u v : Extent} (h : u ≤ v) : shift q u ≤ shift q v := by
  cases u with
  | lowest => exact Extent.lowest_le _
  | highest =>
      cases v with
      | highest => exact Extent.le_refl _
      | _ => cases h
  | «at» a =>
      cases v with
      | lowest => cases h
      | highest => exact Extent.le_highest _
      | «at» b => exact clamp_mono (nearest_mono (sub_le_sub_right (Extent.at_le_at.1 h) q))

lemma extent?_sub_finite (x : Double) {y : Double} {q : ℚ} (hy : y.extent? = some (.at q)) :
    (x.sub y).extent? = x.extent?.map (shift q) := by
  cases y with
  | nan => cases hy
  | infinite t => cases t <;> cases hy
  | finite t n f =>
      cases x with
      | nan => rfl
      | infinite s => cases s <;> rfl
      | finite s m e =>
          obtain rfl := Extent.at.inj (Option.some.inj hy)
          have htotal : scale (if s then -(m : ℤ) else m) e + scale (if !t then -(n : ℤ) else n) f =
              scale (if s then -(m : ℤ) else m) e - scale (if t then -(n : ℤ) else n) f := by
            rw [scale_eq, scale_eq, scale_eq]
            cases t <;> simp [sub_eq_add_neg]
          have hround : ∀ total : ℚ, extent? (if total = 0 then .finite (s && !t) 0 (-1074)
              else ofRat total) = some (clamp (nearest total)) := by
            intro total
            split
            next hzero =>
              have hclamp := clamp_of_small le_rfl tooLarge_pos false
              rw [hzero, nearest_zero, extent?_finite]
              simpa using hclamp.symm
            next => exact extent?_ofRat total
          refine (hround _).trans ?_
          rw [htotal]
          rfl

/-- The difference from positive infinity is the least of all, if it is a number. -/
lemma extent?_sub_infinite {x : Double} {p : Extent}
    (h : (x.sub (.infinite false)).extent? = some p) : p = .lowest := by
  cases x with
  | nan => cases h
  | infinite s =>
      cases s with
      | false => cases h
      | true => exact (Option.some.inj h).symm
  | finite s m e => exact (Option.some.inj h).symm

/-- The difference from negative infinity is the greatest of all, if it is a number. -/
lemma extent?_sub_negInfinite {x : Double} {u : Extent} (h : x.extent? = some u) :
    (x.sub (.infinite true)).extent? = if u = .lowest then none else some .highest := by
  cases x with
  | nan => cases h
  | infinite s => cases s <;> cases h <;> rfl
  | finite s m e => cases h; rfl

/-- Binary64 numbers in the order of their values. -/
instance : Preorder Double where
  le x y := x = y ∨ ∃ p q, x.extent? = some p ∧ y.extent? = some q ∧ p ≤ q
  le_refl x := .inl rfl
  le_trans x y z hxy hyz := by
    rcases hxy with rfl | ⟨p, q, hp, hq, hpq⟩
    · exact hyz
    · rcases hyz with rfl | ⟨q', r, hq', hr, hqr⟩
      · exact .inr ⟨p, q, hp, hq, hpq⟩
      · obtain rfl : q = q' := Option.some.inj (hq.symm.trans hq')
        exact .inr ⟨p, r, hp, hr, Extent.le_trans hpq hqr⟩

/-- What is below a difference is below the difference from a greater number as well. -/
theorem lt_extent?_sub {x y z : Double} {e p : Extent} (hxy : x ≤ y)
    (hp : (x.sub z).extent? = some p) (h : e.lt p = true) :
    ∃ q, (y.sub z).extent? = some q ∧ e.lt q = true := by
  rcases hxy with rfl | ⟨u, v, hu, hv, huv⟩
  · exact ⟨p, hp, h⟩
  cases z with
  | nan => cases x <;> cases hp
  | infinite t =>
      cases t with
      | false =>
          rw [extent?_sub_infinite hp] at h
          cases e <;> cases h
      | true =>
          rw [extent?_sub_negInfinite hu] at hp
          obtain ⟨hlowest, hhighest⟩ := Option.ite_none_left_eq_some.1 hp
          have hv' : v ≠ .lowest := by
            rintro rfl
            cases u with
            | lowest => exact hlowest rfl
            | _ => cases huv
          rw [extent?_sub_negInfinite hv, if_neg hv']
          exact ⟨p, hhighest, h⟩
  | finite t n f =>
      have hz := extent?_finite t n f
      rw [extent?_sub_finite x hz, hu] at hp
      obtain rfl := Option.some.inj hp
      rw [extent?_sub_finite y hz, hv]
      exact ⟨_, rfl, Extent.lt_of_lt_of_le h (shift_mono _ huv)⟩

end Double

end FormEngine
