import Sfrpg.Removal

/-!
The ids that `addEntity` hands out.

The counter moves on only when an entity was created under its number, and an explicit id may stand
in its way. Since a removed entity keeps its place in the store, the counter then stays where it is
until the store is purged.
-/

namespace Sfrpg

open Lib Lib.Word Lib.Run

namespace Ecs

/-- Of a run that goes on from `n` automatic calls and the explicit ids `ids` since the last purge:
no automatic call comes when its number is among the explicit ids. -/
def NumbersFree : ℕ → List EntityId → List StoreCall → Prop
  | _, _, [] => True
  | n, ids, .addEntity _ _ l_id :: calls =>
    if l_id = -1 then (n : EntityId) ∉ ids ∧ NumbersFree (n + 1) ids calls
    else NumbersFree n (l_id :: ids) calls
  | _, _, .purge :: calls => NumbersFree 0 [] calls
  | n, ids, .addComponent _ _ _ :: calls => NumbersFree n ids calls
  | n, ids, .removeComponent _ _ :: calls => NumbersFree n ids calls
  | n, ids, .removeEntity _ :: calls => NumbersFree n ids calls

section Store

variable {F : Type} {w u : Ecs F} {n : ℕ} {ids : List EntityId}

/-! ### What is in the store -/

/-- The store holds the first `n` numbers and the explicit ids `ids`, and the counter is at `n`. -/
structure Numbered (n : ℕ) (ids : List EntityId) (w : Ecs F) : Prop where
  counter : w.idCounter = n
  stored : ∀ e : ℤ, e ∈ w.entities ↔ (0 ≤ e ∧ e < n) ∨ e ∈ ids

lemma numbered_empty (hcounter : w.idCounter = 0) (hempty : w.entities = ∅) :
    Numbered 0 [] w where
  counter := hcounter
  stored := by
    intro e
    have hnot : e ∉ w.entities := by
      rw [hempty]
      exact AList.notMem_empty e
    refine iff_of_false hnot ?_
    rintro (⟨h0, h1⟩ | hmem)
    · omega
    · cases hmem

lemma Numbered.congr (h : Numbered n ids w) (hcounter : u.idCounter = w.idCounter)
    (hkeys : u.entities.keys = w.entities.keys) : Numbered n ids u where
  counter := hcounter.trans h.counter
  stored := by
    intro e
    rw [AList.mem_keys, hkeys, ← AList.mem_keys]
    exact h.stored e

lemma Numbered.nextId (h : Numbered n ids w) (hn : n < 2147483648) : nextId (-1) w = n := by
  rw [Ecs.nextId, if_pos rfl, h.counter]
  exact toInt32_natCast hn

lemma Numbered.mem_iff (h : Numbered n ids w) (hn : n < 2147483648) :
    Ecs.nextId (-1) w ∈ w.entities ↔ (n : EntityId) ∈ ids := by
  have hstored := h.stored n
  rw [h.nextId hn, hstored]
  constructor
  · rintro (⟨-, hlt⟩ | hmem)
    · omega
    · exact hmem
  · exact .inr

/-- The number the counter stands at is taken. -/
def Stuck (w : Ecs F) : Prop := Ecs.nextId (-1) w ∈ w.entities

lemma Stuck.congr (h : Stuck w) (hcounter : u.idCounter = w.idCounter)
    (hsub : ∀ e, e ∈ w.entities → e ∈ u.entities) : Stuck u := by
  have hid : Ecs.nextId (-1) u = Ecs.nextId (-1) w := by rw [Ecs.nextId, Ecs.nextId, hcounter]
  rw [Stuck, hid]
  exact hsub _ h

variable [Zero F]

/-- An automatic creation succeeds, under an id no entity had. -/
def Succeeds (w : Ecs F) : StoreCall → Prop
  | .addEntity u bits l_id => l_id = -1 →
    (w.addEntity u bits l_id).2 ≠ -1 ∧ (w.addEntity u bits l_id).2 ∉ w.entities
  | _ => True

def created (w : Ecs F) : StoreCall → ℕ
  | .addEntity u bits l_id => if (w.addEntity u bits l_id).2 = -1 then 0 else 1
  | _ => 0

lemma created_le_one (w : Ecs F) (call : StoreCall) : created w call ≤ 1 := by
  cases call with
  | addEntity v bits l_id =>
    rw [created]
    split <;> omega
  | _ => exact Nat.zero_le 1

lemma Numbered.automatic (h : Numbered n ids w) (hn : n < 2147483648) (v : Uninitialised)
    (bits : Bitmask) (hfree : (n : EntityId) ∉ ids) :
    (w.addEntity v bits (-1)).2 = n ∧ Numbered (n + 1) ids (w.addEntity v bits (-1)).1 := by
  obtain ⟨hmem, -⟩ | ⟨hret, hc, hcounter⟩ := addEntity_cases v bits (-1) w
  · exact absurd ((h.mem_iff hn).mp hmem) hfree
  rw [h.nextId hn] at hret hc
  refine ⟨hret, ?_, fun e => ?_⟩
  · rw [hcounter, if_pos rfl, h.counter]
    omega
  · have hmem : e ∈ (w.addEntity v bits (-1)).1.entities ↔ e = n ∨ e ∈ w.entities := by
      rw [AList.mem_keys, hc.keys, List.mem_cons, ← AList.mem_keys]
    rw [hmem, h.stored]
    push_cast
    constructor
    · rintro (rfl | ⟨h0, h1⟩ | hids)
      · exact .inl ⟨by omega, by omega⟩
      · exact .inl ⟨h0, by omega⟩
      · exact .inr hids
    · rintro (⟨h0, h1⟩ | hids)
      · by_cases heq : e = n
        · exact .inl heq
        · exact .inr (.inl ⟨h0, by omega⟩)
      · exact .inr (.inr hids)

lemma Numbered.succeeds_iff (h : Numbered n ids w) (hn : n < 2147483648) (v : Uninitialised)
    (bits : Bitmask) : Succeeds w (.addEntity v bits (-1)) ↔ (n : EntityId) ∉ ids := by
  constructor
  · intro hsucc hids
    obtain ⟨-, heq⟩ | ⟨-, hc, -⟩ := addEntity_cases v bits (-1) w
    · exact (hsucc rfl).1 (by rw [heq])
    · exact hc.fresh ((h.mem_iff hn).mpr hids)
  · intro hfree _
    obtain ⟨hret, -⟩ := h.automatic hn v bits hfree
    rw [hret]
    have hne : (n : ℤ) ≠ -1 := by omega
    refine ⟨hne, fun hmem => hfree ((h.mem_iff hn).mp ?_)⟩
    rw [h.nextId hn]
    exact hmem

lemma Numbered.explicit (h : Numbered n ids w) (v : Uninitialised) (bits : Bitmask)
    {l_id : EntityId} (hl : l_id ≠ -1) : Numbered n (l_id :: ids) (w.addEntity v bits l_id).1 := by
  have hid : Ecs.nextId l_id w = l_id := if_neg hl
  obtain ⟨hmem, heq⟩ | ⟨-, hc, hcounter⟩ := addEntity_cases v bits l_id w
  · rw [hid, h.stored] at hmem
    rw [heq]
    refine ⟨h.counter, fun e => ?_⟩
    rw [h.stored, List.mem_cons]
    constructor
    · rintro (hlt | he)
      · exact .inl hlt
      · exact .inr (.inr he)
    · rintro (hlt | rfl | he)
      · exact .inl hlt
      · exact hmem
      · exact .inr he
  · rw [hid] at hc
    refine ⟨?_, fun e => ?_⟩
    · rw [hcounter, if_neg hl, h.counter]
    · rw [AList.mem_keys, hc.keys, List.mem_cons, ← AList.mem_keys, h.stored, List.mem_cons]
      tauto

lemma Stuck.addEntity (h : Stuck w) (v : Uninitialised) (bits : Bitmask) :
    w.addEntity v bits (-1) = (w, -1) := by
  obtain ⟨-, heq⟩ | ⟨-, hc, -⟩ := addEntity_cases v bits (-1) w
  · exact heq
  · exact absurd h hc.fresh

end Store

/-! ### Whole runs -/

section Runs

variable {F : Type} [Field F] [LinearOrder F] {w u : Ecs F} {n : ℕ} {ids : List EntityId}
  {calls : List StoreCall} {call : StoreCall}

/-- The number of entities a run creates. -/
def creations : Ecs F → List StoreCall → ℕ
  | _, [] => 0
  | w, call :: calls => match storeStep w call with
    | .ok u => created w call + creations u calls
    | .error _ => created w call

lemma creations_cons (h : storeStep w call = .ok u) :
    creations w (call :: calls) = created w call + creations u calls := by
  rw [creations, h]

lemma creations_le_length (w : Ecs F) (calls : List StoreCall) :
    creations w calls ≤ calls.length := by
  induction calls generalizing w with
  | nil => exact le_rfl
  | cons call calls ih =>
    have hone := created_le_one w call
    rw [creations, List.length_cons]
    cases storeStep w call with
    | ok u =>
      have hrest := ih u
      dsimp only
      omega
    | error e =>
      dsimp only
      omega

lemma succeeds_iff (hw : Consistent w) (h : Numbered n ids w)
    (hbound : n + creations w calls < 2147483648) :
    AlongE storeStep Succeeds w calls ↔ NumbersFree n ids calls := by
  induction calls generalizing w n ids with
  | nil => exact Iff.rfl
  | cons call calls ih =>
    obtain ⟨u, hs, hu⟩ := consistent_step w call hw
    rw [creations_cons hs] at hbound
    rw [alongE_cons_ok hs]
    cases call with
    | addEntity v bits l_id =>
      cases hs
      by_cases hl : l_id = -1
      · subst hl
        rw [NumbersFree, if_pos rfl, h.succeeds_iff (by omega) v bits]
        refine and_congr_right fun hfree => ?_
        obtain ⟨hret, hnext⟩ := h.automatic (by omega) v bits hfree
        have hne : (n : ℤ) ≠ -1 := by omega
        have hone : created w (.addEntity v bits (-1)) = 1 := by rw [created, hret, if_neg hne]
        exact ih hu hnext (by omega)
      · have hsucc : Succeeds w (.addEntity v bits l_id) := fun heq => absurd heq hl
        rw [NumbersFree, if_neg hl, ih hu (h.explicit v bits hl) (by omega)]
        exact and_iff_right hsucc
    | purge =>
      cases hs
      rw [NumbersFree, ih hu (numbered_empty rfl rfl) (by omega)]
      exact and_iff_right trivial
    | _ =>
      have hother := storeStep_other hs (by simp) (by simp)
      rw [NumbersFree, ih hu (h.congr hother.1 hother.2) (by omega)]
      exact and_iff_right trivial

variable (F) in
/-- **When automatic ids work.** In every history of the store that creates fewer than 2^31
entities, every automatic creation succeeds, under an id no entity had, if and only if none comes
when the number of automatic calls since the last purge has been used as an explicit id since then.
-/
theorem automatic_ids_iff (calls : List StoreCall)
    (hbound : creations (new F) calls < 2147483648) :
    AlongE storeStep Succeeds (new F) calls ↔ NumbersFree 0 [] calls :=
  succeeds_iff consistent_new (numbered_empty rfl rfl) (by omega)

/-- An explicit id the counter never comes to, two automatic ones, one removed, and a new start. -/
def sevenFirst (u : Uninitialised) : List StoreCall :=
  [.addEntity u .empty 7, .addEntity u .empty (-1), .addEntity u .empty (-1), .removeEntity 0,
    .purge, .addEntity u .empty (-1)]

theorem automatic_ids_seven :
    AlongE storeStep Succeeds (new ℚ) (sevenFirst ⟨.Idle, 0, 0, false⟩) := by
  have hfew := creations_le_length (new ℚ) (sevenFirst ⟨.Idle, 0, 0, false⟩)
  have hlength : (sevenFirst ⟨.Idle, 0, 0, false⟩).length = 6 := rfl
  refine (automatic_ids_iff ℚ (sevenFirst ⟨.Idle, 0, 0, false⟩) (by omega)).mpr ?_
  simp [sevenFirst, NumbersFree]

lemma Stuck.step (h : Stuck w) (hpurge : call ≠ .purge) (hs : storeStep w call = .ok u) :
    Stuck u := by
  refine h.congr ?_ fun e he => storeStep_keeps hs hpurge he
  cases call with
  | addEntity v bits l_id =>
    cases hs
    by_cases hl : l_id = -1
    · subst hl
      rw [h.addEntity v bits]
    · obtain ⟨-, heq⟩ | ⟨-, -, hcounter⟩ := addEntity_cases v bits l_id w
      · rw [heq]
      · rw [hcounter, if_neg hl]
  | purge => exact absurd rfl hpurge
  | _ => exact (storeStep_other hs (by simp) (by simp)).1

/-- **Once taken, taken until a purge.** Where an automatic creation would fail, every later one
does, whatever is added and removed, as long as the store is not purged. -/
theorem stuck_until_purge (h : Stuck w) (hpurge : ∀ call ∈ calls, call ≠ .purge)
    (hr : runE storeStep w calls = .ok u) (v : Uninitialised) (bits : Bitmask) :
    u.addEntity v bits (-1) = (u, -1) := by
  have hu : Stuck u := runE_inv (fun w call u hw hcall hs => hw.step hcall hs) h hpurge hr
  exact hu.addEntity v bits

/-- The first entity asks for id 0, and no automatic creation succeeds after that, not even when the
entity is removed. -/
theorem explicit_zero_blocks :
    let u : Uninitialised := ⟨.Idle, 0, 0, false⟩
    ∃ w w' : Ecs ℚ, runE storeStep (new ℚ) [.addEntity u .empty 0] = .ok w ∧
      (w.addEntity u .empty (-1)).2 = -1 ∧
      runE storeStep w [.addEntity u .empty (-1), .removeEntity 0] = .ok w' ∧
      (w'.addEntity u .empty (-1)).2 = -1 := by
  intro u
  refine ⟨reached storeStep (new ℚ) [.addEntity u .empty 0], reached storeStep
    (reached storeStep (new ℚ) [.addEntity u .empty 0])
    [.addEntity u .empty (-1), .removeEntity 0], runE_reached (by decide +kernel),
    by decide +kernel, runE_reached (by decide +kernel), by decide +kernel⟩

end Runs

end Ecs

end Sfrpg
