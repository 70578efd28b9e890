import Mathlib.Data.List.Nodup

/-!
Tables with constraints.

A table is the list of its rows, in the order they were inserted. A column is a function of the
rows. No value stands twice in a `UNIQUE` column; the values of a `FOREIGN KEY` column stand in a
column of another table.
-/

namespace Sfrpg.Lib.Table

variable {ρ τ κ : Type*} {column : ρ → κ} {k : κ} {t : List ρ} {r : ρ}

/-- Some row has the value `k` in the column. -/
def Has (column : ρ → κ) (k : κ) (t : List ρ) : Prop := ∃ r ∈ t, column r = k

def Unique (column : ρ → κ) (t : List ρ) : Prop := (t.map column).Nodup

/-- What `t` has in a column, `u` has in another. -/
def References (column : ρ → κ) (t : List ρ) (key : τ → κ) (u : List τ) : Prop :=
  ∀ r ∈ t, Has key (column r) u

/-- The first row with the value `k`. -/
def select [DecidableEq κ] (column : ρ → κ) (k : κ) (t : List ρ) : Option ρ :=
  t.find? fun r => column r = k

instance decidableHas [DecidableEq κ] (column : ρ → κ) (k : κ) (t : List ρ) :
    Decidable (Has column k t) := inferInstanceAs (Decidable (∃ r ∈ t, column r = k))

instance decidableReferences [DecidableEq κ] (column : ρ → κ) (t : List ρ) (key : τ → κ)
    (u : List τ) : Decidable (References column t key u) :=
  inferInstanceAs (Decidable (∀ r ∈ t, Has key (column r) u))

/-! ### Insertion -/

lemma has_append : Has column k (t ++ [r]) ↔ Has column k t ∨ column r = k := by
  simp only [Has, List.mem_append, List.mem_singleton, or_and_right, exists_or, exists_eq_left]

lemma unique_nil : Unique column [] := List.nodup_nil

lemma Unique.append (h : Unique column t) (hr : ¬ Has column (column r) t) :
    Unique column (t ++ [r]) := by
  rw [Unique, List.map_append, List.map_singleton, ← List.concat_eq_append, List.nodup_concat]
  refine ⟨fun hmem => hr ?_, h⟩
  obtain ⟨x, hx, heq⟩ := List.mem_map.mp hmem
  exact ⟨x, hx, heq⟩

variable {key : τ → κ} {u : List τ} {x : τ}

lemma References.more (h : References column t key u) : References column t key (u ++ [x]) :=
  fun r hr => has_append.mpr (.inl (h r hr))

lemma references_append (h : References column t key u) :
    References column (t ++ [r]) key u ↔ Has key (column r) u := by
  constructor
  · exact fun hall => hall r (by simp)
  · intro hr y hy
    rcases List.mem_append.mp hy with hy | hy
    · exact h y hy
    · rw [List.mem_singleton.mp hy]
      exact hr

/-! ### Selection -/

variable [DecidableEq κ]

lemma select_eq_none : select column k t = none ↔ ¬ Has column k t := by
  simp [select, Has, List.find?_eq_none]

lemma mem_of_select (h : select column k t = some r) : r ∈ t ∧ column r = k :=
  ⟨List.mem_of_find?_eq_some h, by simpa using List.find?_some h⟩

end Sfrpg.Lib.Table
