import Mathlib.Data.List.Induction
import Mathlib.Data.List.Nodup

/-!
Rosters: lists without repeats, which one joins at the end and leaves from wherever one is.

Whether a name is on the roster after a run of calls is a matter of the last call that moved it, and
the names stand in the order of the calls by which they joined to stay.
-/

namespace Sfrpg.Lib

universe u

structure Roster (α : Type u) where
  names : List α
  nodup : names.Nodup

namespace Roster

inductive Call (α : Type u)
  | join (a : α)
  | leave (a : α)
  deriving DecidableEq

variable {α : Type u}

def empty : Roster α := ⟨[], .nil⟩

/-- A new name, at the end. -/
def add (a : α) (r : Roster α) (h : a ∉ r.names) : Roster α where
  names := r.names ++ [a]
  nodup := List.nodup_append.mpr
    ⟨r.nodup, List.nodup_singleton a, fun _ hb _ hc => by
      rintro rfl
      exact h (List.mem_singleton.mp hc ▸ hb)⟩

variable [DecidableEq α]

def join (a : α) (r : Roster α) : Roster α := if h : a ∈ r.names then r else r.add a h

def leave (a : α) (r : Roster α) : Roster α := ⟨r.names.erase a, r.nodup.erase a⟩

def call (r : Roster α) : Call α → Roster α
  | .join a => r.join a
  | .leave a => r.leave a

def run (calls : List (Call α)) (r : Roster α) : Roster α := calls.foldl call r

/-- Those who joined to stay, each at the first such call. -/
def lasting : List (Call α) → List α
  | [] => []
  | .join a :: calls =>
    if .leave a ∈ calls then lasting calls else a :: (lasting calls).erase a
  | .leave _ :: calls => lasting calls

lemma names_join (a : α) (r : Roster α) :
    (r.join a).names = if a ∈ r.names then r.names else r.names ++ [a] := by
  unfold join
  split <;> rfl

lemma names_leave (a : α) (r : Roster α) : (r.leave a).names = r.names.erase a := rfl

lemma nodup_lasting (calls : List (Call α)) : (lasting calls).Nodup := by
  induction calls with
  | nil => exact .nil
  | cons c calls ih =>
    cases c with
    | join a =>
      rw [lasting]
      split
      · exact ih
      · exact List.nodup_cons.mpr ⟨ih.not_mem_erase, ih.erase a⟩
    | leave a => exact ih

/-- **Who lasts**: whoever joined and was not made to leave after that. -/
lemma mem_lasting {a : α} {calls : List (Call α)} : a ∈ lasting calls ↔
    ∃ before after, calls = before ++ .join a :: after ∧ .leave a ∉ after := by
  induction calls with
  | nil => simp [lasting]
  | cons c calls ih =>
    have hcons : (∃ before after, c :: calls = before ++ .join a :: after ∧ .leave a ∉ after) ↔
        (c = .join a ∧ .leave a ∉ calls) ∨ a ∈ lasting calls := by
      rw [ih]
      constructor
      · rintro ⟨before, after, heq, hafter⟩
        cases before with
        | nil => exact .inl ⟨(List.cons.inj heq).1, (List.cons.inj heq).2 ▸ hafter⟩
        | cons d before => exact .inr ⟨before, after, (List.cons.inj heq).2, hafter⟩
      · rintro (⟨rfl, hafter⟩ | ⟨before, after, rfl, hafter⟩)
        · exact ⟨[], calls, rfl, hafter⟩
        · exact ⟨c :: before, after, rfl, hafter⟩
    rw [hcons]
    cases c with
    | leave b => simp [lasting]
    | join b =>
      rw [lasting]
      by_cases hb : .leave b ∈ calls
      · rw [if_pos hb]
        constructor
        · exact .inr
        · rintro (⟨h, hafter⟩ | h)
          · cases h
            exact absurd hb hafter
          · exact h
      · rw [if_neg hb]
        by_cases hab : a = b
        · subst hab
          simp [hb]
        · have hne : Call.join b ≠ .join a := fun h => hab (Call.join.inj h).symm
          simp [hab, hne, List.mem_erase_of_ne hab]

lemma lasting_join (calls : List (Call α)) (a : α) : lasting (calls ++ [.join a]) =
    if a ∈ lasting calls then lasting calls else lasting calls ++ [a] := by
  induction calls with
  | nil => simp [lasting]
  | cons c calls ih =>
    cases c with
    | leave b => exact ih
    | join b =>
      have hleave : .leave b ∈ calls ++ [Call.join a] ↔ .leave b ∈ calls := by simp
      rw [List.cons_append, lasting, lasting, ih]
      by_cases hb : .leave b ∈ calls
      · rw [if_pos (hleave.mpr hb), if_pos hb]
      · rw [if_neg fun h => hb (hleave.mp h), if_neg hb]
        by_cases hab : a = b
        · subst hab
          rw [if_pos List.mem_cons_self]
          split
          · rfl
          · next ha =>
            rw [List.erase_append_right _ ha, List.erase_of_not_mem ha, List.erase_cons_head,
              List.append_nil]
        · simp only [List.mem_cons, hab, false_or, List.mem_erase_of_ne hab]
          split
          · rfl
          · rw [List.erase_append, List.cons_append]
            split
            · rfl
            · next h =>
              have hba : b ∉ [a] := by simpa using Ne.symm hab
              rw [List.erase_of_not_mem h, List.erase_of_not_mem hba]

lemma lasting_leave (calls : List (Call α)) (a : α) :
    lasting (calls ++ [.leave a]) = (lasting calls).erase a := by
  induction calls with
  | nil => rfl
  | cons c calls ih =>
    cases c with
    | leave b => exact ih
    | join b =>
      have hleave : .leave b ∈ calls ++ [Call.leave a] ↔ .leave b ∈ calls ∨ b = a := by simp
      rw [List.cons_append, lasting, lasting, ih]
      by_cases hb : .leave b ∈ calls
      · rw [if_pos (hleave.mpr (.inl hb)), if_pos hb]
      · rw [if_neg hb]
        by_cases hab : b = a
        · subst hab
          rw [if_pos (hleave.mpr (.inr rfl)), List.erase_cons_head]
        · rw [if_neg fun h => (hleave.mp h).elim hb hab,
            List.erase_cons_tail (by simpa using hab), List.erase_comm]

/-- **A roster after a run of calls.** -/
theorem names_run (calls : List (Call α)) :
    ((empty : Roster α).run calls).names = lasting calls := by
  induction calls using List.reverseRecOn with
  | nil => rfl
  | append_singleton calls c ih =>
    have hrun : (empty : Roster α).run (calls ++ [c]) = ((empty : Roster α).run calls).call c := by
      rw [run, List.foldl_append]
      rfl
    rw [hrun]
    cases c with
    | join a => rw [call, names_join, ih, lasting_join]
    | leave a => rw [call, names_leave, ih, lasting_leave]

end Roster

end Sfrpg.Lib
