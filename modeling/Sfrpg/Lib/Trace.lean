import Sfrpg.Lib.Post

/-!
Loops that keep a record of what they do.

A traced computation returns, beside its value, the list of what it has done. A loop over traced
passes joins their records; without the records it is the plain loop.
-/

namespace Sfrpg.Lib

universe u v w

variable {ε : Type u} {σ τ : Type v} {κ : Type w}

/-- A value with the record of how it came about. -/
abbrev Traced (ε : Type u) (σ τ : Type v) := Except ε (σ × List τ)

namespace Trace

def seq (x : Traced ε σ τ) (f : σ → Traced ε σ τ) : Traced ε σ τ :=
  match x with
  | .error e => .error e
  | .ok (s, a) =>
    match f s with
    | .error e => .error e
    | .ok (t, b) => .ok (t, a ++ b)

def foldl (f : σ → κ → Traced ε σ τ) : σ → List κ → Traced ε σ τ
  | s, [] => .ok (s, [])
  | s, k :: l => seq (f s k) fun t => foldl f t l

/-- The computation without its record. -/
def forget (x : Traced ε σ τ) : Except ε σ := Prod.fst <$> x

@[simp] lemma forget_ok (s : σ) (a : List τ) : forget (.ok (s, a) : Traced ε σ τ) = .ok s := rfl

lemma forget_seq (x : Traced ε σ τ) (f : σ → Traced ε σ τ) :
    forget (seq x f) = forget x >>= fun s => forget (f s) := by
  cases x with
  | error e => rfl
  | ok p =>
    obtain ⟨s, a⟩ := p
    show forget (seq (.ok (s, a)) f) = forget (f s)
    cases hf : f s with
    | error e => rw [seq, hf]
    | ok q => rw [seq, hf]; rfl

lemma forget_foldl {f : σ → κ → Traced ε σ τ} {g : σ → κ → Except ε σ}
    (h : ∀ s k, forget (f s k) = g s k) (s : σ) (l : List κ) :
    forget (foldl f s l) = l.foldlM g s := by
  induction l generalizing s with
  | nil => rfl
  | cons k l ih =>
    rw [foldl, forget_seq, h, List.foldlM_cons]
    congr 1
    funext t
    exact ih t

/-- A computation recorded as a whole. -/
def record (x : Except ε σ) (a : List τ) : Traced ε σ τ := x.map fun s => (s, a)

lemma forget_record (x : Except ε σ) (a : List τ) : forget (record x a) = x := by
  cases x <;> rfl

lemma post_record {x : Except ε σ} {a : List τ} {Q : σ × List τ → Prop} {E : ε → Prop} :
    Post (record x a) Q E ↔ Post x (fun s => Q (s, a)) E := by
  cases x <;> rfl

lemma forget_bind {α : Type v} (x : Except ε α) (f : α → Except ε (σ × List τ)) :
    forget (x >>= f : Except ε (σ × List τ)) = x >>= fun s => forget (f s) := by
  cases x <;> rfl

lemma post_forget {x : Traced ε σ τ} {Q : σ → List τ → Prop} {E : ε → Prop}
    (h : Post x (fun p => Q p.1 p.2) E) : Post (forget x) (fun s => ∃ a, Q s a) E := by
  cases x with
  | error e => exact h
  | ok p => exact ⟨p.2, h⟩

lemma post_seq {x : Traced ε σ τ} {f : σ → Traced ε σ τ} {Q : σ → List τ → Prop}
    {R : σ → List τ → Prop} {E : ε → Prop} (hx : Post x (fun p => Q p.1 p.2) E)
    (hf : ∀ s a, Q s a → Post (f s) (fun p => R p.1 (a ++ p.2)) E) :
    Post (seq x f) (fun p => R p.1 p.2) E := by
  cases x with
  | error e => exact hx
  | ok p =>
    have h := hf p.1 p.2 hx
    rw [seq]
    cases hp : f p.1 with
    | error e => rw [hp] at h; exact h
    | ok q => rw [hp] at h; exact h

/-- **The rule of a recorded loop**: `I` speaks of the state, and of the record so far. -/
lemma post_foldl {f : σ → κ → Traced ε σ τ} {I : σ → List τ → Prop} {E : ε → Prop} {l : List κ}
    (hf : ∀ s a, ∀ k ∈ l, I s a → Post (f s k) (fun p => I p.1 (a ++ p.2)) E) {s : σ} {a : List τ}
    (hs : I s a) : Post (foldl f s l) (fun p => I p.1 (a ++ p.2)) E := by
  induction l generalizing s a with
  | nil => simpa [foldl] using hs
  | cons k l ih =>
    rw [foldl]
    refine post_seq (Q := fun t b => I t (a ++ b)) (R := fun t b => I t (a ++ b))
      (hf s a k (by simp) hs) fun t b hb => ?_
    simpa [List.append_assoc] using ih (fun s a i hi => hf s a i (by simp [hi])) hb

end Trace

end Sfrpg.Lib
