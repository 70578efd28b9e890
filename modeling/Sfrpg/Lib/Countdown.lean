import Mathlib.Algebra.BigOperators.Group.List.Basic
import Sfrpg.Lib.Word

/-!
A timer read through a wrap.

The timer is a count of microseconds that grows by whole milliseconds. It is over once its reading,
in milliseconds and in 32 unsigned bits, has come to a duration. A step of a signed 32-bit integer
cannot jump over the readings at which it is over unless the duration is longer than half the range,
and then it can for ever.
-/

namespace Sfrpg.Lib.Countdown

open Word

variable {d : ℕ} {t n : ℤ} {ns : List ℤ}

/-- The count in milliseconds, towards zero, in 32 unsigned bits. -/
def reading (t : ℤ) : ℤ := toUInt32 (toInt32 (t.tdiv 1000))

/-- One step of `n` milliseconds. There is no timer once it is over. -/
def step (d : ℕ) : Option ℤ → ℤ → Option ℤ
  | none, _ => none
  | some t, n => if reading (t + n * 1000) < d then some (t + n * 1000) else none

def steps (d : ℕ) (t : ℤ) (ns : List ℤ) : Option ℤ := ns.foldl (step d) (some t)

/-- However it is driven, it is over as soon as the steps add up to the duration. -/
def Ends (d : ℕ) (t : ℤ) : Prop :=
  ∀ ns, ns ≠ [] → (∀ n ∈ ns, InInt32 n) → d * 1000 ≤ t + 1000 * ns.sum → steps d t ns = none

lemma tdiv_thousand (t : ℤ) : t.tdiv 1000 = if 0 ≤ t then t / 1000 else -(-t / 1000) := by
  split
  · next h => exact Int.tdiv_eq_ediv_of_nonneg h
  · next h =>
    have hneg : (-t).tdiv 1000 = -t / 1000 := Int.tdiv_eq_ediv_of_nonneg (by omega)
    rw [Int.neg_tdiv] at hneg
    omega

lemma reading_eq (t : ℤ) : reading t = t.tdiv 1000 % 4294967296 := by
  rw [reading, toUInt32, toInt32]
  omega

lemma foldl_none (ns : List ℤ) : ns.foldl (step d) none = none := by
  induction ns with
  | nil => rfl
  | cons n ns ih => exact ih

lemma steps_cons (h : reading (t + n * 1000) < d) :
    steps d t (n :: ns) = steps d (t + n * 1000) ns := by
  rw [steps, List.foldl_cons, step, if_pos h]
  rfl

lemma steps_cons_over (h : ¬ reading (t + n * 1000) < d) : steps d t (n :: ns) = none := by
  rw [steps, List.foldl_cons, step, if_neg h]
  exact foldl_none ns

lemma count_of_steps {t' : ℤ} (h : steps d t ns = some t') : t' = t + 1000 * ns.sum := by
  induction ns generalizing t with
  | nil =>
    cases h
    simp
  | cons n ns ih =>
    by_cases hn : reading (t + n * 1000) < d
    · rw [steps_cons hn] at h
      rw [ih h, List.sum_cons]
      ring
    · rw [steps_cons_over hn] at h
      cases h

/-! ### Durations of half the range -/

lemma lt_of_reading_lt (hd : d ≤ 2147483649) (ht : t < 2147483649000) (hn : InInt32 n) (h0 : 0 < d)
    (h : reading (t + n * 1000) < d) : t + n * 1000 < d * 1000 := by
  rw [reading_eq, tdiv_thousand] at h
  unfold InInt32 at hn
  by_cases hneg : t + n * 1000 < 0
  · omega
  · rw [if_pos (by omega)] at h
    omega

lemma ends_of_half (hd : d ≤ 2147483649) (ht : t < 2147483649000) (h0 : 0 < d) : Ends d t := by
  intro ns hne hns hsum
  induction ns generalizing t with
  | nil => exact absurd rfl hne
  | cons n ns ih =>
    by_cases hn : reading (t + n * 1000) < d
    · have hlt := lt_of_reading_lt hd ht (hns n (by simp)) h0 hn
      rw [steps_cons hn]
      rw [List.sum_cons] at hsum
      refine ih (by omega) ?_ (fun k hk => hns k (by simp [hk])) (by omega)
      -- the steps so far do not add up to the duration
      rintro rfl
      rw [List.sum_nil] at hsum
      omega
    · exact steps_cons_over hn

lemma ends_zero : Ends 0 t := by
  intro ns hne _ _
  cases ns with
  | nil => exact absurd rfl hne
  | cons n ns =>
    refine steps_cons_over ?_
    rw [reading_eq, not_lt]
    exact Int.emod_nonneg _ (by decide)

/-! ### Longer durations -/

lemma not_ends_late (h0 : 0 < d) (hd : d ≤ 2147483649) (ht : 2147483649000 ≤ t) : ¬ Ends d t := by
  intro hends
  -- the step to a multiple of the range, forwards or backwards
  obtain ⟨n, hn, hread, hlate⟩ : ∃ n, InInt32 n ∧ reading (t + n * 1000) = 0 ∧
      2147483649000 ≤ t + n * 1000 := by
    have hr := Int.emod_nonneg (t / 1000) (show (4294967296 : ℤ) ≠ 0 by decide)
    have hlt := Int.emod_lt_of_pos (t / 1000) (show (0 : ℤ) < 4294967296 by decide)
    by_cases hhigh : 2147483649 ≤ t / 1000 % 4294967296
    · refine ⟨4294967296 - t / 1000 % 4294967296, ⟨by omega, by omega⟩, ?_, by omega⟩
      rw [reading_eq, tdiv_thousand, if_pos (by omega)]
      omega
    · refine ⟨-(t / 1000 % 4294967296), ⟨by omega, by omega⟩, ?_, by omega⟩
      rw [reading_eq, tdiv_thousand, if_pos (by omega)]
      omega
  have hbelow : reading (t + n * 1000) < d := by
    rw [hread]
    exact_mod_cast h0
  have hover := hends [n] (by simp) (by simpa using hn) (by simp; omega)
  rw [steps_cons hbelow] at hover
  cases hover

lemma exists_step (hd : 2147483650 ≤ d) (t : ℤ) :
    ∃ n, InInt32 n ∧ 1 ≤ n ∧ reading (t + n * 1000) < d := by
  have hr := Int.emod_nonneg ((t + 1000).tdiv 1000) (show (4294967296 : ℤ) ≠ 0 by decide)
  have hlt := Int.emod_lt_of_pos ((t + 1000).tdiv 1000) (show (0 : ℤ) < 4294967296 by decide)
  by_cases hone : reading (t + 1 * 1000) < d
  · exact ⟨1, by decide, le_refl 1, hone⟩
  · -- past the readings at which it would be over
    rw [reading_eq, one_mul] at hone
    refine ⟨1 + (4294967296 - (t + 1000).tdiv 1000 % 4294967296), ⟨by omega, by omega⟩,
      by omega, ?_⟩
    rw [reading_eq]
    rw [tdiv_thousand] at hone ⊢
    rw [tdiv_thousand]
    split at hone <;> split <;> omega

lemma exists_steps (hd : 2147483650 ≤ d) (k : ℕ) (t : ℤ) :
    ∃ ns t', ns.length = k ∧ (∀ n ∈ ns, InInt32 n) ∧ steps d t ns = some t' ∧
      t + 1000 * k ≤ t' := by
  induction k generalizing t with
  | zero => exact ⟨[], t, rfl, by simp, rfl, by simp⟩
  | succ k ih =>
    obtain ⟨n, hn, hpos, hbelow⟩ := exists_step hd t
    obtain ⟨ns, t', hlen, hns, hrun, hle⟩ := ih (t + n * 1000)
    refine ⟨n :: ns, t', by simp [hlen], by simpa using ⟨hn, hns⟩, ?_, ?_⟩
    · rw [steps_cons hbelow, hrun]
    · push_cast
      omega

/-- **When the timer ends.** Its duration is nothing, or at most half the range, and then it must
not start beyond that. -/
theorem ends_iff : Ends d t ↔ d = 0 ∨ (d ≤ 2147483649 ∧ t < 2147483649000) := by
  constructor
  · intro hends
    by_contra hno
    rw [not_or, not_and] at hno
    obtain ⟨h0, himp⟩ := hno
    by_cases hd : d ≤ 2147483649
    · exact not_ends_late (Nat.pos_of_ne_zero h0) hd (not_lt.mp (himp hd)) hends
    · obtain ⟨ns, t', hlen, hns, hrun, hle⟩ :=
        exists_steps (d := d) (by omega) (d + 1 + t.natAbs) t
      have hsum := count_of_steps hrun
      have hover := hends ns (by rintro rfl; simp at hlen; omega) hns
        (by omega)
      rw [hrun] at hover
      cases hover
  · rintro (rfl | ⟨hd, ht⟩)
    · exact ends_zero
    · rcases Nat.eq_zero_or_pos d with rfl | h0
      · exact ends_zero
      · exact ends_of_half hd ht h0

end Sfrpg.Lib.Countdown
