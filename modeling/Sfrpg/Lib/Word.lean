import Mathlib.Data.Int.Basic
import Mathlib.Logic.Equiv.Fin.Basic
import Mathlib.Tactic.Ring

/-!
Fixed-width integers as integers with explicit conversions.

A machine integer is an `ℤ` in the range of its type. A conversion to the type reduces
modulo its size; inside the range it changes nothing.

A numbering gives each element of a type a number below a bound. Where the numbers are cut to a
word, elements may come to share one.
-/

namespace Sfrpg.Lib.Word

/-- Conversion to a signed 32-bit integer. -/
def toInt32 (x : ℤ) : ℤ := (x + 2147483648) % 4294967296 - 2147483648

/-- Conversion to an unsigned 32-bit integer. -/
def toUInt32 (x : ℤ) : ℤ := x % 4294967296

def InInt32 (x : ℤ) : Prop := -2147483648 ≤ x ∧ x < 2147483648

instance decidableInInt32 (x : ℤ) : Decidable (InInt32 x) := inferInstanceAs (Decidable (_ ∧ _))

lemma inInt32_toInt32 (x : ℤ) : InInt32 (toInt32 x) := by
  unfold InInt32 toInt32; omega

lemma toInt32_of_range {x : ℤ} (h : InInt32 x) : toInt32 x = x := by
  unfold InInt32 at h; unfold toInt32; omega

lemma toInt32_natCast {n : ℕ} (h : n < 2147483648) : toInt32 n = n :=
  toInt32_of_range ⟨by omega, by omega⟩

/-- A result that an unsigned 32-bit integer holds. -/
def fitUInt32 (n : ℕ) : Option ℕ := if n < 4294967296 then some n else none

lemma fitUInt32_of_lt {n : ℕ} (h : n < 4294967296) : fitUInt32 n = some n := if_pos h

/-! ### Numberings -/

section Numberings

variable {α : Type*} {A N M : ℕ}

/-- A numbering with one more digit, to base `B`. -/
def withDigit (e : α ≃ Fin A) (B : ℕ) : α × Fin B ≃ Fin (A * B) :=
  (e.prodCongr (.refl (Fin B))).trans finProdFinEquiv

lemma withDigit_val (e : α ≃ Fin A) {B : ℕ} (a : α) (b : Fin B) :
    (withDigit e B (a, b) : ℕ) = e a * B + b := by
  calc (withDigit e B (a, b) : ℕ) = b + B * e a := rfl
    _ = e a * B + b := by ring

/-- **A numbering cut to `M` numbers** keeps its elements apart exactly if there are no more. -/
theorem injective_mod_iff (e : α ≃ Fin N) (hM : 0 < M) :
    Function.Injective (fun a => (e a : ℕ) % M) ↔ N ≤ M := by
  constructor
  · intro hinj
    by_contra hlt
    rw [not_le] at hlt
    -- the elements with the numbers `0` and `M` share one
    have heq : e.symm ⟨0, hM.trans hlt⟩ = e.symm ⟨M, hlt⟩ := by
      apply hinj
      simp
    have hzero : 0 = M := Fin.mk.inj (e.symm.injective heq)
    omega
  · intro hle a b hab
    have hcut : ∀ a, (e a : ℕ) % M = e a := fun a => Nat.mod_eq_of_lt ((e a).isLt.trans_le hle)
    have hval : (e a : ℕ) = e b := (hcut a).symm.trans (hab.trans (hcut b))
    exact e.injective (Fin.ext hval)

end Numberings

end Sfrpg.Lib.Word
