import Mathlib.Algebra.Order.Ring.Unbundled.Rat
import FormEngine.Proofs.Number.Rounding
import FormEngine.Store

/-!
# Steady clocks

A session must not come back to life when time goes on.  So a time that has been exceeded has to
stay exceeded, and clocks of which that holds are `SteadyClock`s.  Exact clocks are.  On a binary64
clock the time that has passed is a rounded difference, and then it is the monotony of rounding that
says so.
-/

namespace FormEngine

/-- Clocks on which a time that has been exceeded stays exceeded. -/
class SteadyClock (τ : Type) [Clock τ] [LE τ] : Prop where
  exceeds_later : ∀ {now later earlier : τ} {seconds : Number}, now ≤ later →
    Clock.exceeds now earlier seconds = true → Clock.exceeds later earlier seconds = true

/-- On an exact clock, more time has passed later on. -/
instance : SteadyClock Rat where
  exceeds_later {now later earlier seconds} h hexceeds := by
    obtain ⟨e, he, hlt⟩ := (Option.any_eq_true _ _).1 hexceeds
    refine (Option.any_eq_true _ _).2 ⟨e, he, Extent.lt_of_lt_of_le hlt ?_⟩
    exact Extent.at_le_at.2 (sub_le_sub_right h earlier)

lemma Number.lt_eq_true_iff {x y : Number} :
    x.lt y = true ↔ ∃ p q, x.extent? = some p ∧ y.extent? = some q ∧ p.lt q = true := by
  unfold Number.lt
  cases x.extent? with
  | none => simp
  | some p => cases y.extent? <;> simp

/-- On a binary64 clock, no less time has passed later on. -/
instance : SteadyClock Double where
  exceeds_later {now later earlier seconds} h hexceeds := by
    obtain ⟨e, p, he, hp, hlt⟩ := Number.lt_eq_true_iff.1 hexceeds
    obtain ⟨q, hq, hlt'⟩ := Double.lt_extent?_sub h hp hlt
    exact Number.lt_eq_true_iff.2 ⟨e, q, he, hq, hlt'⟩

end FormEngine
