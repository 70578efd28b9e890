import Mathlib.Data.List.Basic
import Mathlib.Logic.Function.Basic

/-!
Things with parts: under a key there is at most one thing, and in a thing at most one part of each
kind. A view shows the things that have every part of one of its sets of kinds.
-/

namespace Sfrpg.Lib

variable {κ τ ι α : Type*}

structure Thing (τ ι α : Type*) where
  label : τ
  part : ι → Option α

abbrev Things (κ τ ι α : Type*) := κ → Option (Thing τ ι α)

namespace Things

/-- The things that have every part of a set in `req`. -/
def Views (req : Set (Set ι)) (s : Things κ τ ι α) (k : κ) : Prop :=
  ∃ t, s k = some t ∧ ∃ kinds ∈ req, ∀ i ∈ kinds, (t.part i).isSome = true

variable [DecidableEq κ] {s : Things κ τ ι α} {k : κ} {t : Thing τ ι α}

/-- The thing under `k`, if there is one, is changed. -/
def alter (k : κ) (f : Thing τ ι α → Thing τ ι α) (s : Things κ τ ι α) : Things κ τ ι α :=
  Function.update s k ((s k).map f)

/-- A thing is put under `k`. -/
def create (k : κ) (label : τ) (parts : ι → Option α) (s : Things κ τ ι α) : Things κ τ ι α :=
  Function.update s k (some ⟨label, parts⟩)

/-- All parts are taken out; the thing stays. -/
def strip (k : κ) : Things κ τ ι α → Things κ τ ι α :=
  alter k fun t => { t with part := fun _ => none }

def relabel (k : κ) (label : τ) : Things κ τ ι α → Things κ τ ι α :=
  alter k fun t => { t with label := label }

lemma alter_of_some (h : s k = some t) (f : Thing τ ι α → Thing τ ι α) :
    alter k f s = Function.update s k (some (f t)) := by
  rw [alter, h]
  rfl

lemma alter_of_none (h : s k = none) (f : Thing τ ι α → Thing τ ι α) : alter k f s = s := by
  rw [alter, h, Option.map_none, ← h, Function.update_eq_self]

lemma alter_of_eq {f : Thing τ ι α → Thing τ ι α} (h : ∀ t, s k = some t → f t = t) :
    alter k f s = s := by
  cases hk : s k with
  | none => exact alter_of_none hk f
  | some t => rw [alter_of_some hk, h t hk, ← hk, Function.update_eq_self]

variable [DecidableEq ι]

/-- A part is put in where there is none of its kind. -/
def attach (k : κ) (i : ι) (x : Option α) : Things κ τ ι α → Things κ τ ι α :=
  alter k fun t => { t with part := Function.update t.part i ((t.part i).or x) }

def detach (k : κ) (i : ι) : Things κ τ ι α → Things κ τ ι α :=
  alter k fun t => { t with part := Function.update t.part i none }

/-- A part is replaced by another of its kind. -/
def write (k : κ) (i : ι) (x : α) : Things κ τ ι α → Things κ τ ι α :=
  alter k fun t => { t with part := Function.update t.part i ((t.part i).map fun _ => x) }

/-- **Parts put in one after the other**: each kind has the part it had, or the one it was given. -/
lemma foldl_attach (x : ι → Option α) (l : List ι) (h : s k = some t) :
    l.foldl (fun s i => attach k i (x i) s) s = Function.update s k (some { t with
      part := fun i => (t.part i).or (if i ∈ l then x i else none) }) := by
  induction l generalizing s t with
  | nil =>
    simp only [List.foldl_nil, List.not_mem_nil, if_false, Option.or_none]
    rw [← h, Function.update_eq_self]
  | cons j l ih =>
    rw [List.foldl_cons, attach, alter_of_some h, ih (Function.update_self ..),
      Function.update_idem]
    congr 3
    funext i
    dsimp only
    by_cases hi : i = j
    · subst hi
      rw [Function.update_self, if_pos List.mem_cons_self, Option.or_assoc]
      congr 1
      split <;> simp
    · rw [Function.update_of_ne hi]
      simp [hi]

end Things

end Sfrpg.Lib
