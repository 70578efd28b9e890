import Mathlib.Data.List.Basic

/-!
Formats of a stream: how values are written to it, and how they are read back.

A stream is a list of symbols. A read takes its value off the front. Once a read has failed the
stream is spoilt, every later read fails too, and a failed read leaves the variable it reads into
alone. `Takes r u x` says that `r` takes exactly the symbols `u` off the front and gives `x`,
whatever follows them; the rules below put such facts together along a program that reads.
-/

namespace Sfrpg.Lib

/-- A program that reads: the stream it leaves is `none` once a read has failed. -/
abbrev Reading (σ : Type) := StateM (Option (List σ))

/-- How a value is written and how it is read back, for the values that fit. -/
structure Codec (σ α : Type) where
  Fits : α → Prop
  put : α → List σ
  get : List σ → Option (α × List σ)
  get_put : ∀ x, Fits x → ∀ rest : List σ, get (put x ++ rest) = some (x, rest)

variable {σ α β : Type}

/-- `r` takes exactly `u` off the stream and gives `x`. -/
def Takes (r : Reading σ α) (u : List σ) (x : α) : Prop :=
  ∀ rest : List σ, r (some (u ++ rest)) = (x, some rest)

/-- Whether every read so far has gone well. -/
def Reading.valid : Reading σ Bool := fun unread => (unread.isSome, unread)

namespace Codec

/-- A read into a variable that holds `x`. -/
def read (c : Codec σ α) (x : α) : Reading σ α := fun unread =>
  match unread.bind c.get with
  | some (y, rest) => (y, some rest)
  | none => (x, none)

end Codec

namespace Takes

lemma pure (x : α) : Takes (Pure.pure x : Reading σ α) [] x := fun _ => rfl

lemma bind {r : Reading σ α} {f : α → Reading σ β} {u v : List σ} {x : α} {y : β}
    (hr : Takes r u x) (hf : Takes (f x) v y) : Takes (r >>= f) (u ++ v) y := by
  intro rest
  have hfirst := hr (v ++ rest)
  rw [← List.append_assoc] at hfirst
  change (fun p : α × Option (List σ) => f p.1 p.2) (r (some (u ++ v ++ rest))) = (y, some rest)
  rw [hfirst]
  exact hf rest

lemma andThen {r : Reading σ α} {u : List σ} {x : α} (h : Takes r u x) (f : α → Reading σ β)
    (rest : List σ) : (r >>= f) (some (u ++ rest)) = f x (some rest) := by
  change (fun p : α × Option (List σ) => f p.1 p.2) (r (some (u ++ rest))) = _
  rw [h rest]

lemma valid : Takes (Reading.valid : Reading σ Bool) [] true := fun _ => rfl

lemma read (c : Codec σ α) {x : α} (hx : c.Fits x) (y : α) : Takes (c.read y) (c.put x) x := by
  intro rest
  simp only [Codec.read, Option.bind_some, c.get_put x hx rest]

lemma run {r : Reading σ α} {u : List σ} {x : α} (h : Takes r u x) :
    r (some u) = (x, some []) := by
  have hrest := h []
  rwa [List.append_nil] at hrest

/-- **The rule of a loop** that reads a list element by element: what one pass takes, the loop
takes for all of them. The pass over element `i` may start from other variables. -/
lemma mapM {κ : Type} {r : κ → Reading σ α} {put : α → List σ} {l : List α} {ks : List κ}
    (hlen : ks.length = l.length) (h : ∀ k ∈ ks, ∀ x ∈ l, Takes (r k) (put x) x) :
    Takes (ks.mapM r) (l.flatMap put) l := by
  induction l generalizing ks with
  | nil =>
    rw [List.length_eq_zero_iff.mp hlen]
    exact pure []
  | cons x l ih =>
    obtain ⟨k, ks, rfl⟩ := List.exists_cons_of_length_eq_add_one hlen
    have hx : Takes (r k) (put x) x := h k (by simp) x (by simp)
    have hl : Takes (ks.mapM r) (l.flatMap put) l :=
      ih (by simpa using hlen) fun i hi y hy => h i (by simp [hi]) y (by simp [hy])
    rw [List.mapM_cons, List.flatMap_cons]
    have hrest := hl.bind (f := fun l => Pure.pure (x :: l)) (pure (x :: l))
    rw [List.append_nil] at hrest
    exact hx.bind hrest

end Takes

end Sfrpg.Lib
