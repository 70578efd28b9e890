import Mathlib.Data.List.Basic

/-!
Loops whose passes commute unless they have the same key.

Such a loop is a matter of its projections: two lists that show, for each key, the same elements in
the same order lead to the same state, however the keys are interleaved.
-/

namespace Sfrpg.Lib.Commute

universe u

variable {σ : Type u} {ι κ : Type*} {f : σ → ι → σ} {key : ι → κ}

lemma foldl_past (hf : ∀ s a b, key a ≠ key b → f (f s a) b = f (f s b) a) {a : ι} {l : List ι}
    (hl : ∀ b ∈ l, key b ≠ key a) (s : σ) : l.foldl f (f s a) = f (l.foldl f s) a := by
  induction l generalizing s with
  | nil => rfl
  | cons b l ih =>
    obtain ⟨hb, hl⟩ := List.forall_mem_cons.mp hl
    rw [List.foldl_cons, List.foldl_cons, hf s a b (Ne.symm hb), ih hl]

lemma foldlM_perm {ε : Type*} {f : σ → ι → Except ε σ} {l l' : List ι} (h : l.Perm l')
    (hf : ∀ a ∈ l, ∀ b ∈ l, ∀ s, (f s a >>= fun t => f t b) = f s b >>= fun t => f t a) (s : σ) :
    l.foldlM f s = l'.foldlM f s := by
  induction h generalizing s with
  | nil => rfl
  | cons a _ ih =>
    rw [List.foldlM_cons, List.foldlM_cons]
    exact bind_congr fun t =>
      ih (fun b hb c hc => hf b (List.mem_cons_of_mem a hb) c (List.mem_cons_of_mem a hc)) t
  | swap a b l =>
    have hab := hf b List.mem_cons_self a (List.mem_cons_of_mem b List.mem_cons_self) s
    simp only [List.foldlM_cons, ← bind_assoc]
    rw [hab]
  | trans h _ ih ih' =>
    rw [ih hf, ih' fun a ha b hb => hf a (h.mem_iff.mpr ha) b (h.mem_iff.mpr hb)]

variable [DecidableEq κ]

/-- The elements of one key. -/
def proj (key : ι → κ) (k : κ) (l : List ι) : List ι := l.filter fun i => key i = k

lemma proj_append (k : κ) (l l' : List ι) : proj key k (l ++ l') = proj key k l ++ proj key k l' :=
  List.filter_append l l'

lemma proj_cons_self (a : ι) (l : List ι) : proj key (key a) (a :: l) = a :: proj key (key a) l :=
  List.filter_cons_of_pos (by simp)

lemma proj_cons_ne {k : κ} {a : ι} (h : key a ≠ k) (l : List ι) :
    proj key k (a :: l) = proj key k l :=
  List.filter_cons_of_neg (by simpa using h)

/-- **The rule of projections.** -/
theorem foldl_eq_of_proj (hf : ∀ s a b, key a ≠ key b → f (f s a) b = f (f s b) a)
    {l l' : List ι} (h : ∀ k, proj key k l = proj key k l') (s : σ) :
    l.foldl f s = l'.foldl f s := by
  induction l generalizing l' s with
  | nil =>
    cases l' with
    | nil => rfl
    | cons b l' =>
      have hb := h (key b)
      rw [proj_cons_self] at hb
      cases hb
  | cons a l ih =>
    have ha : a :: proj key (key a) l = proj key (key a) l' := by
      rw [← h (key a), proj_cons_self]
    -- the first of the key of `a` in the other list is `a`, and it may come first there as well
    obtain ⟨before, after, rfl, hbefore, -, -⟩ := List.filter_eq_cons_iff.mp ha.symm
    have hother : ∀ b ∈ before, key b ≠ key a := fun b hb => by simpa using hbefore b hb
    have hrest : ∀ k, proj key k l = proj key k (before ++ after) := by
      intro k
      have hk := h k
      rw [proj_append] at hk ⊢
      by_cases hkey : key a = k
      · subst hkey
        have hnone : proj key (key a) before = [] := List.filter_eq_nil_iff.mpr hbefore
        rw [hnone, List.nil_append, proj_cons_self, proj_cons_self] at hk
        rw [hnone, List.nil_append]
        exact (List.cons.inj hk).2
      · rw [proj_cons_ne hkey, proj_cons_ne hkey] at hk
        exact hk
    calc (a :: l).foldl f s = l.foldl f (f s a) := rfl
      _ = (before ++ after).foldl f (f s a) := ih hrest (f s a)
      _ = after.foldl f (before.foldl f (f s a)) := List.foldl_append
      _ = after.foldl f (f (before.foldl f s) a) := by rw [foldl_past hf hother]
      _ = (before ++ a :: after).foldl f s := by rw [List.foldl_append, List.foldl_cons]

end Sfrpg.Lib.Commute
