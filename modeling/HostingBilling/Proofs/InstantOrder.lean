import HostingBilling.Instant
import Mathlib.Order.Defs.LinearOrder

/-!
# Instants in order

Instants are ordered by their seconds and then by what follows the second. Shifting by whole seconds
moves from one side of a comparison to the other.
-/

namespace HostingBilling.Instant

theorem lt_def (a b : Instant) :
    a < b ↔ a.seconds < b.seconds ∨ (a.seconds = b.seconds ∧ a.fraction < b.fraction) := Iff.rfl

theorem le_def (a b : Instant) :
    a ≤ b ↔ a.seconds < b.seconds ∨ (a.seconds = b.seconds ∧ a.fraction ≤ b.fraction) := Iff.rfl

instance : LinearOrder Instant where
  le := (· ≤ ·)
  lt := (· < ·)
  le_refl a := Or.inr ⟨rfl, Nat.le_refl _⟩
  le_trans a b c := by simp only [le_def]; omega
  le_antisymm a b := by
    obtain ⟨s, f⟩ := a
    obtain ⟨t, g⟩ := b
    simp only [le_def, mk.injEq]
    omega
  le_total a b := by simp only [le_def]; omega
  lt_iff_le_not_ge a b := by simp only [lt_def, le_def]; omega
  toDecidableLE := inferInstance
  toDecidableLT := inferInstance

/-- What lies more than `n` seconds back of `b` is passed by `b` after a wait of `n` seconds. -/
theorem lt_addSeconds_neg (a b : Instant) (n : Int) :
    a < b.addSeconds (-n) ↔ a.addSeconds n < b := by
  simp only [lt_def, addSeconds]
  omega

end HostingBilling.Instant
