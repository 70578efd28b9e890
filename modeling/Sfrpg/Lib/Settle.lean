import Mathlib.Order.Nat
import Sfrpg.Lib.Run

/-!
Machines that settle.

Left alone, such a machine is at rest after some steps, whatever state it is in; it is disturbed now
and then, and each disturbance uses up some of a budget that is never filled up again. So a run
takes a bounded number of its steps from states that are not at rest.
-/

namespace Sfrpg.Lib.Run

variable {σ ι ε : Type*} (step : σ → ι → Except ε σ)

/-- How many of the steps a run takes start from a state not in `P`. -/
def unrest (P : σ → Prop) [DecidablePred P] : σ → List ι → ℕ
  | _, [] => 0
  | s, i :: l => (if P s then 0 else 1) +
    match step s i with
    | .ok t => unrest P t l
    | .error _ => 0

variable {step}

lemma unrest_cons_ok {P : σ → Prop} [DecidablePred P] {s t : σ} {i : ι} {l : List ι}
    (h : step s i = .ok t) :
    unrest step P s (i :: l) = (if P s then 0 else 1) + unrest step P t l := by
  rw [unrest, h]

/-- A condition on the steps of a run can be checked along it. -/
instance AlongE.decidable {P : σ → ι → Prop} [∀ s i, Decidable (P s i)] :
    ∀ (s : σ) (l : List ι), Decidable (AlongE step P s l)
  | _, [] => .isTrue trivial
  | s, i :: l =>
    match h : step s i with
    | .ok t =>
      have : Decidable (AlongE step P t l) := AlongE.decidable t l
      decidable_of_iff (P s i ∧ AlongE step P t l) (alongE_cons_ok h).symm
    | .error _ =>
      decidable_of_iff (P s i) ⟨fun hi => ⟨hi, fun _ ht => absurd (h.symm.trans ht) (by simp)⟩,
        (·.1)⟩

/-- What makes a machine settle. `Near n s` says that `s` is `n` steps from rest, if undisturbed; no
state is more than `far` steps away. -/
structure WindsDown (step : σ → ι → Except ε σ) (I : σ → Prop) (A : σ → ι → Prop) (budget : σ → ℕ)
    (Near : ℕ → σ → Prop) (far : ℕ) : Prop where
  step : ∀ s i, I s → A s i → ∃ t, step s i = .ok t ∧ I t ∧ budget t ≤ budget s ∧
    (budget t = budget s → ∀ n, Near n s → Near (n - 1) t)
  far : ∀ s, I s → Near far s

variable {I : σ → Prop} {A : σ → ι → Prop} {budget : σ → ℕ} {Near : ℕ → σ → Prop} {far : ℕ}

/-- **The rule of a machine that settles.** -/
theorem WindsDown.run {P : σ → Prop} [DecidablePred P] (h : WindsDown step I A budget Near far)
    (hP : ∀ s, Near 0 s → P s) {s : σ} {l : List ι} {n : ℕ} (hs : I s) (hl : AlongE step A s l)
    (hn : Near n s) (hfar : n ≤ far) :
    ∃ t, runE step s l = .ok t ∧ I t ∧ budget t ≤ budget s ∧
      unrest step P s l ≤ budget s * far + n ∧
      (budget t = budget s → Near (n - l.length) t) := by
  induction l generalizing s n with
  | nil => exact ⟨s, rfl, hs, le_rfl, by simp [unrest], fun _ => by simpa using hn⟩
  | cons i l ih =>
    obtain ⟨u, hu, hI, hbudget, hnear⟩ := h.step s i hs hl.1
    have hrest := (alongE_cons_ok hu).mp hl
    -- the state itself counts only if it is not at rest
    have hone : (if P s then 0 else 1) ≤ min n 1 := by
      rcases Nat.eq_zero_or_pos n with rfl | hpos
      · rw [if_pos (hP s hn)]
        exact Nat.zero_le _
      · split <;> omega
    by_cases heq : budget u = budget s
    · obtain ⟨t, ht, hIt, hle, hcount, hlast⟩ := ih hI hrest.2 (hnear heq n hn) (by omega)
      refine ⟨t, runE_cons_ok.mpr ⟨u, hu, ht⟩, hIt, hle.trans hbudget, ?_, fun hsame => ?_⟩
      · rw [unrest_cons_ok hu]
        rw [heq] at hcount
        omega
      · have hend := hlast (hsame.trans heq.symm)
        rwa [List.length_cons, Nat.add_comm, ← Nat.sub_sub]
    · have hlt : budget u + 1 ≤ budget s := by omega
      obtain ⟨t, ht, hIt, hle, hcount, -⟩ := ih hI hrest.2 (h.far u hI) le_rfl
      refine ⟨t, runE_cons_ok.mpr ⟨u, hu, ht⟩, hIt, hle.trans hbudget, ?_, fun hsame => ?_⟩
      · have hmul : (budget u + 1) * far ≤ budget s * far := Nat.mul_le_mul_right far hlt
        rw [Nat.succ_mul] at hmul
        rw [unrest_cons_ok hu]
        omega
      · omega

/-- A run is restless for as long as the budget allows, and at rest after `far` steps that leave the
budget alone. -/
theorem WindsDown.unrest_le {P : σ → Prop} [DecidablePred P]
    (h : WindsDown step I A budget Near far) (hP : ∀ s, Near 0 s → P s) {s : σ} {l : List ι}
    (hs : I s) (hl : AlongE step A s l) :
    ∃ t, runE step s l = .ok t ∧ unrest step P s l ≤ (budget s + 1) * far ∧
      (budget t = budget s → far ≤ l.length → P t) := by
  obtain ⟨t, ht, -, -, hcount, hlast⟩ := h.run hP hs hl (h.far s hs) le_rfl
  refine ⟨t, ht, by rwa [Nat.succ_mul], fun heq hlen => hP t ?_⟩
  have hend := hlast heq
  rwa [Nat.sub_eq_zero_of_le hlen] at hend

end Sfrpg.Lib.Run
