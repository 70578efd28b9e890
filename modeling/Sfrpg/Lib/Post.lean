import Mathlib.Data.List.Basic

/-!
Postconditions of computations that may fail.

`Post x Q E` says that `x` ends in a value with `Q` or in an error with `E`. The rules follow the
ways a computation is put together: a value, a sequence, a branch, a loop.
-/

namespace Sfrpg.Lib

universe u v w

variable {ε : Type u} {α β : Type v} {x : Except ε α} {Q R : α → Prop} {E D : ε → Prop}

def Post (x : Except ε α) (Q : α → Prop) (E : ε → Prop) : Prop :=
  match x with
  | .ok a => Q a
  | .error e => E e

namespace Post

@[simp] lemma post_ok {a : α} : Post (.ok a : Except ε α) Q E ↔ Q a := Iff.rfl
@[simp] lemma post_error {e : ε} : Post (.error e : Except ε α) Q E ↔ E e := Iff.rfl
@[simp] lemma post_pure {a : α} : Post (pure a : Except ε α) Q E ↔ Q a := Iff.rfl
@[simp] lemma post_throw {e : ε} : Post (throw e : Except ε α) Q E ↔ E e := Iff.rfl

lemma ok {a : α} (h : Post x Q E) (hx : x = .ok a) : Q a := by
  rw [hx] at h
  exact h

lemma error {e : ε} (h : Post x Q E) (hx : x = .error e) : E e := by
  rw [hx] at h
  exact h

lemma any : Post x (fun _ => True) fun _ => True := by
  cases x <;> trivial

lemma exists_ok (h : Post x Q fun _ => False) : ∃ a, x = .ok a ∧ Q a := by
  cases x with
  | ok a => exact ⟨a, rfl, h⟩
  | error e => exact h.elim

lemma mono (h : Post x Q E) (hQ : ∀ a, Q a → R a) (hE : ∀ e, E e → D e) : Post x R D := by
  cases x with
  | ok a => exact hQ a h
  | error e => exact hE e h

lemma imp (h : Post x Q E) (hQ : ∀ a, Q a → R a) : Post x R E := h.mono hQ fun _ he => he

lemma bind {f : α → Except ε β} {S : β → Prop} (h : Post x Q E) (hf : ∀ a, Q a → Post (f a) S E) :
    Post (x >>= f) S E := by
  cases x with
  | ok a => exact hf a h
  | error e => exact h

lemma ite {p : Prop} [Decidable p] {y : Except ε α} (hx : p → Post x Q E)
    (hy : ¬ p → Post y Q E) : Post (if p then x else y) Q E := by
  split
  · next h => exact hx h
  · next h => exact hy h

/-- **The rule of a loop**: `I` holds before and after every pass over an element of the list. -/
lemma foldlM {κ : Type w} {σ : Type v} {f : σ → κ → Except ε σ} {I : σ → Prop} {l : List κ}
    (hf : ∀ s, ∀ k ∈ l, I s → Post (f s k) I E) {s : σ} (hs : I s) : Post (l.foldlM f s) I E := by
  induction l generalizing s with
  | nil => exact hs
  | cons k l ih =>
    rw [List.foldlM_cons]
    exact (hf s k (by simp) hs).bind fun t ht => ih (fun u i hi => hf u i (by simp [hi])) ht

/-- **The rule of a loop over distinct keys**: a pass over `k` that makes `g` of what belongs to
`k`, and leaves alone what belongs to another key, makes `g` of every key in the list. -/
lemma foldlM_each {κ : Type w} {σ : Type v} {α : Type*} {f : σ → κ → Except ε σ} {I : σ → Prop}
    {view : κ → σ → α} {g : α → α} {l : List κ} (hl : l.Nodup)
    (hf : ∀ s, ∀ k ∈ l, I s → Post (f s k) (fun t => I t ∧ view k t = g (view k s) ∧
      ∀ j, j ≠ k → view j t = view j s) E) {s : σ} (hs : I s) :
    Post (l.foldlM f s) (fun t => I t ∧ (∀ k ∈ l, view k t = g (view k s)) ∧
      ∀ k, k ∉ l → view k t = view k s) E := by
  induction l generalizing s with
  | nil => exact ⟨hs, by simp, fun _ _ => rfl⟩
  | cons k l ih =>
    obtain ⟨hnot, hl⟩ := List.nodup_cons.mp hl
    rw [List.foldlM_cons]
    refine (hf s k (by simp) hs).bind ?_
    rintro t ⟨ht, hk, hother⟩
    refine (ih hl (fun u i hi => hf u i (by simp [hi])) ht).imp ?_
    rintro u ⟨hu, hin, hout⟩
    refine ⟨hu, fun i hi => ?_, fun i hi => ?_⟩
    · rcases List.mem_cons.mp hi with rfl | hil
      · rw [hout i hnot, hk]
      · have hne : i ≠ k := fun h => hnot (h ▸ hil)
        rw [hin i hil, hother i hne]
    · rw [List.mem_cons, not_or] at hi
      rw [hout i hi.2, hother i hi.1]

lemma mapM {κ : Type w} {β : Type v} {f : κ → Except ε β} {R : κ → β → Prop} {l : List κ}
    (hf : ∀ k ∈ l, Post (f k) (R k) E) : Post (l.mapM f) (List.Forall₂ R l) E := by
  induction l with
  | nil => exact .nil
  | cons k l ih =>
    rw [List.mapM_cons]
    refine (hf k (by simp)).bind fun b hb => ?_
    exact (ih fun i hi => hf i (by simp [hi])).bind fun bs hbs => .cons hb hbs

lemma mapM_ok {κ : Type w} {β : Type v} {f : κ → Except ε β} {g : κ → β} {l : List κ}
    (hf : ∀ k ∈ l, f k = .ok (g k)) : l.mapM f = .ok (l.map g) := by
  induction l with
  | nil => rfl
  | cons k l ih =>
    have hl : l.mapM f = .ok (l.map g) := ih fun i hi => hf i (by simp [hi])
    rw [List.mapM_cons, hf k (by simp), hl]
    rfl

end Post

end Sfrpg.Lib
