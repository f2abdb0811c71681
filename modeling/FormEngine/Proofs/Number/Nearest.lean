import Mathlib.Tactic.NormNum
import FormEngine.Proofs.Number.Rounding

/-!
# Rounding goes to the nearest number

`RoundsTo` says what it means to round a rational to a binary64 number, without saying how it is
done: no number lies nearer to the rational, and if another one lies as near, then the result is an
even multiple of the distance between the two.  There is at most one such number
(`RoundsTo.unique`).

The multiples of a power of two among which a mantissa is chosen are enough for that: beside the
quotient, no number lies nearer to it than one of them (`exists_multiple`).  So choosing the nearest
mantissa chooses the nearest number (`roundsTo_rounded`).  For an integer the result is an integer,
and the same one if binary64 holds it, as it does up to `2 ^ 53` (`exists_roundsTo_ofInt`).
-/

namespace FormEngine.Double

/-! ## Numbers and the nearest of them -/

/-- The rationals that binary64 holds: a mantissa of 53 bits, with a sign, times a power of two. -/
def IsValue (r : ℚ) : Prop :=
  ∃ m e : ℤ, |m| < 2 ^ 53 ∧ -1074 ≤ e ∧ e ≤ 971 ∧ r = m * 2 ^ e

/-- A number is what becomes of a rational by rounding: the nearest to it, and of two that are the
nearest, the one whose mantissa is even. -/
structure RoundsTo (q b : ℚ) : Prop where
  isValue : IsValue b
  nearest : ∀ r, IsValue r → |b - q| ≤ |r - q|
  even : ∀ r, IsValue r → r ≠ b → |r - q| = |b - q| → ∃ k : ℤ, b = 2 * k * |r - b|

lemma IsValue.neg {r : ℚ} (h : IsValue r) : IsValue (-r) := by
  obtain ⟨m, e, hm, hlow, hhigh, rfl⟩ := h
  exact ⟨-m, e, by rwa [abs_neg], hlow, hhigh, by push_cast; ring⟩

lemma isValue_zero : IsValue 0 := ⟨0, 0, by norm_num, by norm_num, by norm_num, by norm_num⟩

/-- Integers of 53 bits are held. -/
lemma isValue_intCast {n : ℤ} (h : |n| ≤ 2 ^ 53) : IsValue n := by
  rcases h.lt_or_eq with hlt | heq
  · exact ⟨n, 0, hlt, by norm_num, by norm_num, by norm_num⟩
  · have hsign : |n.sign| = 1 := Int.abs_sign_of_ne_zero fun hzero => by simp [hzero] at heq
    refine ⟨n.sign, 53, by rw [hsign]; norm_num, by norm_num, by norm_num, ?_⟩
    have hsplit : n.sign * 2 ^ 53 = n := by rw [← heq, Int.sign_mul_abs]
    exact_mod_cast hsplit.symm

namespace RoundsTo

variable {q b : ℚ}

/-- What is rounded mirrors what becomes of it. -/
lemma neg (h : RoundsTo q b) : RoundsTo (-q) (-b) where
  isValue := h.isValue.neg
  nearest r hr := by
    have hmirror := h.nearest (-r) hr.neg
    rwa [← abs_neg, ← abs_neg (-r - q), show -(b - q) = -b - -q by ring,
      show -(-r - q) = r - -q by ring] at hmirror
  even r hr hne htie := by
    have hdistance : ∀ s t : ℚ, |s - -t| = |-s - t| := fun s t => by
      rw [← abs_neg]
      congr 1
      ring
    rw [hdistance, hdistance, neg_neg] at htie
    obtain ⟨k, hk⟩ := h.even (-r) hr.neg (fun heq => hne (by rw [← heq, neg_neg])) htie
    refine ⟨-k, ?_⟩
    rw [hdistance, Int.cast_neg, mul_neg, neg_mul, ← hk]

/-- There is one number at most. -/
theorem unique {b' : ℚ} (h : RoundsTo q b) (h' : RoundsTo q b') : b = b' := by
  by_contra hne
  have htie : |b' - q| = |b - q| :=
    le_antisymm (h'.nearest b h.isValue) (h.nearest b' h'.isValue)
  obtain ⟨k, hk⟩ := h.even b' h'.isValue (Ne.symm hne) htie
  obtain ⟨k', hk'⟩ := h'.even b h.isValue hne htie.symm
  rw [abs_sub_comm] at hk
  -- their distance would be an even multiple of itself
  have hpos : 0 < |b - b'| := abs_pos.2 (sub_ne_zero.2 hne)
  have hmultiple : b - b' = 2 * (k - k') * |b - b'| := by
    calc b - b'
      _ = 2 * k * |b - b'| - 2 * k' * |b - b'| := by rw [← hk, ← hk']
      _ = 2 * (k - k') * |b - b'| := by ring
  have hunit : (1 : ℚ) = |2 * ((k : ℚ) - k')| := by
    have habs := congrArg abs hmultiple
    rw [abs_mul, abs_abs] at habs
    exact mul_right_cancel₀ hpos.ne' (by rw [one_mul]; exact habs)
  have hcast : (1 : ℤ) = |2 * (k - k')| := by exact_mod_cast hunit
  have heven : (2 : ℤ) ∣ |2 * (k - k')| := (dvd_abs _ _).2 (dvd_mul_right _ _)
  rw [← hcast] at heven
  omega

/-- What is held stays as it is. -/
lemma eq_of_isValue (h : RoundsTo q b) (hq : IsValue q) : b = q := by
  have hzero := h.nearest q hq
  rw [sub_self, abs_zero] at hzero
  exact sub_eq_zero.1 (abs_nonpos_iff.1 hzero)

/-- Integers round to integers: between these, numbers have fractions only where all integers are
held. -/
lemma exists_int {n : ℤ} (h : RoundsTo n b) : ∃ i : ℤ, b = i := by
  by_cases hsmall : |n| ≤ 2 ^ 53
  · exact ⟨n, h.eq_of_isValue (isValue_intCast hsmall)⟩
  · obtain ⟨m, e, hm, -, -, hb⟩ := id h.isValue
    rcases le_or_gt 0 e with he | he
    · obtain ⟨k, rfl⟩ := Int.eq_ofNat_of_zero_le he
      exact ⟨m * 2 ^ k, by rw [hb]; push_cast; rfl⟩
    · -- the number would lie further from the integer than `2 ^ 53` on its side does
      exfalso
      have hbound : |b| < 2 ^ 53 := by
        have hm' : |(m : ℚ)| < 2 ^ 53 := by exact_mod_cast hm
        have hpow : (2 : ℚ) ^ e ≤ 1 := zpow_le_one_of_nonpos₀ one_le_two he.le
        rw [hb, abs_mul, abs_of_pos (show (0 : ℚ) < 2 ^ e by positivity)]
        calc |(m : ℚ)| * 2 ^ e
          _ ≤ |(m : ℚ)| * 1 := by gcongr
          _ < 2 ^ 53 := by rwa [mul_one]
      have hheld : IsValue ((2 ^ 53 : ℤ) : ℚ) := isValue_intCast (by norm_num)
      have hlarge : (2 : ℚ) ^ 53 < n ∨ (n : ℚ) < -2 ^ 53 := by
        rw [not_le, lt_abs] at hsmall
        rcases hsmall with hsmall | hsmall
        · exact .inl (by exact_mod_cast hsmall)
        · exact .inr (by
            have : n < -2 ^ 53 := by omega
            exact_mod_cast this)
      push_cast at hheld
      obtain ⟨hlow, hhigh⟩ := abs_lt.1 hbound
      rcases hlarge with hlarge | hlarge
      · have hnearest := h.nearest _ hheld
        rw [abs_of_neg (by linarith), abs_of_neg (by linarith)] at hnearest
        linarith
      · have hnearest := h.nearest _ hheld.neg
        rw [abs_of_pos (by linarith), abs_of_pos (by linarith)] at hnearest
        linarith

end RoundsTo

/-! ## The nearest mantissa -/

namespace IsNearest

variable {x : ℚ} {m : ℕ}

lemma abs_sub_le_half (h : IsNearest x m) : |(m : ℚ) - x| ≤ 1 / 2 := by
  have := h.le_add_half
  have := h.sub_half_le
  exact abs_le.2 ⟨by linarith, by linarith⟩

/-- Another integer lies at least one half away. -/
lemma half_le_abs_sub (h : IsNearest x m) {k : ℤ} (hne : k ≠ m) : 1 / 2 ≤ |(k : ℚ) - x| := by
  have hdistance : (1 : ℚ) ≤ |(k : ℚ) - m| := by
    have : 1 ≤ |k - (m : ℤ)| := Int.one_le_abs (sub_ne_zero.2 hne)
    exact_mod_cast this
  have htriangle := abs_sub_le (k : ℚ) x m
  have := h.abs_sub_le_half
  rw [abs_sub_comm] at this
  linarith

lemma abs_sub_le_abs_sub (h : IsNearest x m) (k : ℤ) : |(m : ℚ) - x| ≤ |(k : ℚ) - x| := by
  by_cases hk : k = m
  · rw [hk, Int.cast_natCast]
  · exact h.abs_sub_le_half.trans (h.half_le_abs_sub hk)

/-- If another integer lies as near, it is a neighbour, and the nearest one is even. -/
lemma of_tie (h : IsNearest x m) {k : ℤ} (hne : k ≠ m)
    (htie : |(k : ℚ) - x| = |(m : ℚ) - x|) : m % 2 = 0 ∧ |(k : ℚ) - m| = 1 := by
  have hhalf : |(m : ℚ) - x| = 1 / 2 :=
    le_antisymm h.abs_sub_le_half (htie ▸ h.half_le_abs_sub hne)
  have hne' : (k : ℚ) ≠ m := by exact_mod_cast hne
  rw [hhalf] at htie
  have heven : x = m + 1 / 2 ∨ x = (m : ℚ) - 1 / 2 := by
    rcases (abs_eq (by norm_num)).1 hhalf with hm | hm
    · exact .inr (by linarith)
    · exact .inl (by linarith)
  refine ⟨h.even heven, ?_⟩
  rcases (abs_eq (by norm_num)).1 hhalf with hm | hm <;>
    rcases (abs_eq (by norm_num)).1 htie with hk | hk
  · exact absurd (by linarith) hne'
  · rw [show (k : ℚ) - m = -1 by linarith, abs_neg, abs_one]
  · rw [show (k : ℚ) - m = 1 by linarith, abs_one]
  · exact absurd (by linarith) hne'

end IsNearest

section

variable {num den : ℕ}

/-- To every number there is a multiple that is the number or lies nearer to the quotient. -/
lemma exists_multiple (hnum : num ≠ 0) (hden : 0 < den) {r : ℚ} (hr : IsValue r) :
    ∃ k : ℤ, r = k * 2 ^ exponentOf num den ∨
      |k * 2 ^ exponentOf num den - (num : ℚ) / den| < |r - num / den| := by
  obtain ⟨m, f, hm, hlow, -, rfl⟩ := hr
  rcases le_or_gt (exponentOf num den) f with hcoarse | hfine
  · obtain ⟨k, hk⟩ := Int.eq_ofNat_of_zero_le (sub_nonneg.2 hcoarse)
    refine ⟨m * 2 ^ k, .inl ?_⟩
    rw [show f = k + exponentOf num den by omega, zpow_add₀ two_ne_zero, zpow_natCast]
    push_cast
    ring
  · -- a finer number lies below the quotient, and so far that a power of two lies between
    have hnormal : topOf num den = exponentOf num den + 53 := by
      unfold exponentOf at *
      omega
    have hquotient := (topOf_spec hnum hden).1
    have hbetween : (m : ℚ) * 2 ^ f < 2 ^ (topOf num den - 1) := by
      have hm' : (m : ℚ) < 2 ^ (53 : ℤ) := by exact_mod_cast (le_abs_self m).trans_lt hm
      calc (m : ℚ) * 2 ^ f
        _ < 2 ^ (53 : ℤ) * 2 ^ f := by gcongr
        _ = 2 ^ (53 + f) := (zpow_add₀ two_ne_zero _ _).symm
        _ ≤ 2 ^ (topOf num den - 1) := zpow_le_zpow_right₀ one_le_two (by omega)
    have hmultiple : ((2 ^ 52 : ℤ) : ℚ) * 2 ^ exponentOf num den = 2 ^ (topOf num den - 1) := by
      rw [show topOf num den - 1 = 52 + exponentOf num den by omega, zpow_add₀ two_ne_zero]
      norm_num
    refine ⟨2 ^ 52, .inr ?_⟩
    rw [hmultiple, abs_of_nonpos (by linarith), abs_of_neg (by linarith)]
    linarith

/-- A rounded quotient that is not too large is held. -/
lemma isValue_rounded (hnum : num ≠ 0) (hden : 0 < den) (hsmall : rounded num den < tooLarge) :
    IsValue (rounded num den) := by
  have hexponent : -1074 ≤ exponentOf num den := le_max_right _ _
  have hlarge : ∀ e : ℤ, (2 ^ 52 : ℕ) * (2 : ℚ) ^ e ≤ rounded num den → e ≤ 971 := by
    intro e he
    by_contra hbeyond
    refine absurd hsmall (not_lt.2 (le_trans ?_ he))
    rw [tooLarge_eq 52 (e := 972) rfl]
    gcongr
    · exact one_le_two
    · omega
  rcases (mantissaAt_le hnum hden).lt_or_eq with hlt | hcarry
  · refine ⟨mantissaAt num den (exponentOf num den), exponentOf num den, ?_, hexponent, ?_,
      by rw [rounded, Int.cast_natCast]⟩
    · rw [Nat.abs_cast]
      exact_mod_cast hlt
    · rcases le_or_gt (exponentOf num den) (-1074) with hleast | hnormal
      · omega
      · refine hlarge _ ?_
        unfold rounded
        gcongr
        exact le_mantissaAt hnum hden hnormal
  · -- the bit too many is carried into the exponent
    have hcarried : rounded num den = (2 ^ 52 : ℕ) * 2 ^ (exponentOf num den + 1) := by
      rw [rounded, hcarry, zpow_add₀ two_ne_zero]
      push_cast
      ring
    refine ⟨2 ^ 52, exponentOf num den + 1, by norm_num, by omega, hlarge _ hcarried.ge, ?_⟩
    rw [hcarried]
    push_cast
    rfl

/-- Rounding a quotient gives the nearest number. -/
theorem roundsTo_rounded (hnum : num ≠ 0) (hden : 0 < den) (hsmall : rounded num den < tooLarge) :
    RoundsTo (num / den) (rounded num den) := by
  set unit : ℚ := 2 ^ exponentOf num den with hunit
  have hpos : 0 < unit := by positivity
  have hmantissa := mantissaAt_isNearest num hden (exponentOf num den)
  have hdistance : ∀ s : ℚ, |s * unit - num / den| = |s - num / den / unit| * unit := fun s => by
    rw [← abs_of_pos hpos, ← abs_mul, abs_of_pos hpos, sub_mul, div_mul_cancel₀ _ hpos.ne']
  have hmultiples : ∀ k : ℤ, |rounded num den - num / den| ≤ |k * unit - num / den| := fun k => by
    rw [rounded, hdistance, hdistance]
    exact mul_le_mul_of_nonneg_right (hmantissa.abs_sub_le_abs_sub k) hpos.le
  refine ⟨isValue_rounded hnum hden hsmall, fun r hr => ?_, fun r hr hne htie => ?_⟩
  · obtain ⟨k, rfl | hnearer⟩ := exists_multiple hnum hden hr
    · exact hmultiples k
    · exact (hmultiples k).trans hnearer.le
  · obtain ⟨k, rfl | hnearer⟩ := exists_multiple hnum hden hr
    · have hk : k ≠ mantissaAt num den (exponentOf num den) := by
        rintro rfl
        exact hne (by rw [rounded, Int.cast_natCast])
      rw [rounded, hdistance, hdistance] at htie
      obtain ⟨heven, hneighbour⟩ := hmantissa.of_tie hk (mul_right_cancel₀ hpos.ne' htie)
      obtain ⟨half, hhalf⟩ := Nat.dvd_of_mod_eq_zero heven
      refine ⟨half, ?_⟩
      rw [rounded, ← hunit, ← sub_mul, abs_mul, hneighbour, abs_of_pos hpos, hhalf]
      push_cast
      ring
    · exact absurd (hmultiples k) (by rw [← htie]; exact not_le.2 hnearer)

end

/-! ## Integers -/

lemma roundsTo_zero : RoundsTo 0 0 where
  isValue := isValue_zero
  nearest r _ := by rw [sub_zero, abs_zero]; exact abs_nonneg _
  even r _ _ _ := ⟨0, by simp⟩

/-- The number nearest to an integer, if it is finite, is an integer. -/
theorem exists_roundsTo_ofInt {n : ℤ} (h : (ofInt n).isFinite = true) :
    ∃ b : ℤ, (ofInt n).toRat? = some (b : ℚ) ∧ RoundsTo n b := by
  have hextent : (ofRatio (decide (n < 0)) n.natAbs 1).extent? = _ :=
    extent?_ofRatio _ Nat.one_pos
  have hvalue : ∃ q : ℚ, (ofInt n).toRat? = some q ∧ (ofInt n).extent? = some (.at q) := by
    cases hn : ofInt n with
    | finite negative m e => exact ⟨_, rfl, rfl⟩
    | infinite negative => rw [hn] at h; cases h
    | nan => rw [hn] at h; cases h
  obtain ⟨q, hq, hat⟩ := hvalue
  rw [ofInt] at hat
  have hclamp := Option.some.inj (hextent.symm.trans hat)
  have hsmall : rounded n.natAbs 1 < tooLarge := by
    by_contra hlarge
    rw [clamp_of_large (not_lt.1 hlarge)] at hclamp
    split at hclamp <;> cases hclamp
  rw [clamp_of_small rounded_nonneg hsmall, Extent.at.injEq] at hclamp
  have hround : RoundsTo n q := by
    rcases eq_or_ne n 0 with rfl | hzero
    · have hq0 : q = 0 := by simpa [rounded_zero Nat.one_pos] using hclamp.symm
      rw [hq0, Int.cast_zero]
      exact roundsTo_zero
    · have hpositive := roundsTo_rounded (Int.natAbs_ne_zero.2 hzero) Nat.one_pos hsmall
      rw [Nat.cast_one, div_one] at hpositive
      rcases lt_or_ge n 0 with hneg | hnonneg
      · have hcast : (n : ℚ) = -(n.natAbs : ℚ) := by
          rw [Nat.cast_natAbs, abs_of_neg hneg, Int.cast_neg, neg_neg]
        rw [← hclamp, hcast, if_pos (decide_eq_true hneg)]
        exact hpositive.neg
      · have hcast : (n : ℚ) = (n.natAbs : ℚ) := by
          rw [Nat.cast_natAbs, abs_of_nonneg hnonneg]
        rw [← hclamp, hcast, if_neg (by simpa using hnonneg)]
        exact hpositive
  obtain ⟨b, rfl⟩ := hround.exists_int
  exact ⟨b, hq, hround⟩

end FormEngine.Double
