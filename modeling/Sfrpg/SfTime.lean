import Sfrpg.Lib.Word

/-!
`sf::Time`: a count of microseconds, read and written in milliseconds.

The count has 64 bits in SFML; it would take some 292 000 years to leave them, and it is an
unbounded integer here. `asMilliseconds` truncates the quotient by 1000 and narrows it to
32 bits, and that narrowing is kept: the wrap of the server's clock is detected through it.
-/

namespace Sfrpg

open Lib.Word

@[ext] structure Time where
  microseconds : ℤ
  deriving DecidableEq

namespace Time

instance : Zero Time := ⟨⟨0⟩⟩
instance : Add Time := ⟨fun a b => ⟨a.microseconds + b.microseconds⟩⟩
instance : Sub Time := ⟨fun a b => ⟨a.microseconds - b.microseconds⟩⟩

@[simp] lemma zero_microseconds : (0 : Time).microseconds = 0 := rfl
@[simp] lemma add_microseconds (a b : Time) :
    (a + b).microseconds = a.microseconds + b.microseconds := rfl
@[simp] lemma sub_microseconds (a b : Time) :
    (a - b).microseconds = a.microseconds - b.microseconds := rfl

def asMilliseconds (t : Time) : ℤ := toInt32 (t.microseconds.tdiv 1000)

/-- `sf::milliseconds`. -/
def milliseconds (amount : ℤ) : Time := ⟨amount * 1000⟩

@[simp] lemma milliseconds_microseconds (n : ℤ) : (milliseconds n).microseconds = n * 1000 := rfl

lemma asMilliseconds_of_nonneg {t : Time} (h : 0 ≤ t.microseconds) :
    t.asMilliseconds = toInt32 (t.microseconds / 1000) := by
  rw [asMilliseconds, Int.tdiv_eq_ediv_of_nonneg h]

lemma asMilliseconds_of_lt {t : Time} (h : 0 ≤ t.microseconds)
    (h' : t.microseconds < 2147483648000) : t.asMilliseconds = t.microseconds / 1000 := by
  rw [asMilliseconds_of_nonneg h, toInt32_of_range]
  unfold InInt32; omega

lemma asMilliseconds_neg_iff {t : Time} (h : 0 ≤ t.microseconds)
    (h' : t.microseconds < 4294967296000) :
    t.asMilliseconds < 0 ↔ 2147483648000 ≤ t.microseconds := by
  rw [asMilliseconds_of_nonneg h, toInt32]
  omega

end Time

end Sfrpg
