import Sfrpg.Calls
import Sfrpg.Snapshot

/-!
What `removeEntity` leaves of an entity.

It takes the components and the mask away, and tells the bus and the systems; the entry in
`m_entities` it leaves in its place. Whoever looks there still finds the entity: the count, the
search, the call that adds a component, the snapshots, and a second removal.
-/

namespace Sfrpg

open Lib Lib.Word Lib.Run Ecs

variable {F : Type} [Field F] [LinearOrder F] [FloorRing F] {S : Setting F} {w w' u : Ecs F}
  {i : Turn F} {e : EntityId}

/-- The step adds an entity with the id `e`. -/
def Adds (e : EntityId) (w : Ecs F) (i : Turn F) : Prop :=
  ∃ u bits l_id, i = .store (.addEntity u bits l_id) ∧ nextId l_id w = e

/-- From `w` to `w'`, the entity `e` has gone for every observer, and nothing else has changed. -/
structure Gone (S : Setting F) (e : EntityId) (w w' : Ecs F) : Prop where
  hasEntity : e ∉ w'.entities
  count : w'.getEntityCount + 1 = w.getEntityCount
  again : ∃ w'', w'.removeEntity e = .ok (w'', false)
  refused : ∀ u c, (w'.addComponent u e c).2 = false
  absent : ∀ turns w'' u s, runE (turn S) w' turns = .ok w'' →
    AlongE (turn S) (fun v i => ¬ Adds e v i) w' turns →
    S_Network.createSnapshot u w'' = .ok s → ∀ r ∈ s.records, r.1 ≠ e
  other : ∀ x, x ≠ e → w'.entities.lookup x = w.entities.lookup x ∧
    ∀ sys, x ∈ w'.members sys ↔ x ∈ w.members sys

/-- From `w` to `w'`, the entity `e` has lost its components and its places in the systems, and is
there still. -/
structure Lingers (S : Setting F) (e : EntityId) (w w' : Ecs F) : Prop where
  hasEntity : e ∈ w'.entities
  count : w'.getEntityCount = w.getEntityCount
  again : ∃ w'', w'.removeEntity e = .ok (w'', true)
  accepted : ∀ u c, (w'.addComponent u e c).2 = registered c
  dumped : ∀ turns w'' u, runE (turn S) w' turns = .ok w'' → (∀ i ∈ turns, i ≠ .store .purge) →
    ∃ l, w''.dumpEntityInfo u = .ok l ∧ e ∈ l.map Prod.fst
  stripped : (∀ c, w'.getBase e c = none) ∧ ∀ sys, e ∉ w'.members sys
  other : ∀ x, x ≠ e → w'.entities.lookup x = w.entities.lookup x ∧
    ∀ sys, x ∈ w'.members sys ↔ x ∈ w.members sys

/-! ### Entities stay until the purge -/

omit [Field F] [LinearOrder F] [FloorRing F] in
lemma mem_of_keys (hk : u.entities.keys = w.entities.keys) (he : e ∈ w.entities) :
    e ∈ u.entities := by
  rw [AList.mem_keys] at he ⊢
  rwa [hk]

omit [FloorRing F] in
lemma storeStep_keeps {call : StoreCall} (h : storeStep w call = .ok u) (hcall : call ≠ .purge)
    (he : e ∈ w.entities) : e ∈ u.entities := by
  cases call with
  | addEntity v bits l_id =>
    cases h
    rcases addEntity_cases v bits l_id w with ⟨-, heq⟩ | ⟨-, hc, -⟩
    · rw [heq]
      exact he
    · rw [AList.mem_keys, hc.keys]
      exact List.mem_cons_of_mem _ (AList.mem_keys.mp he)
  | purge => exact absurd rfl hcall
  | _ => exact mem_of_keys (storeStep_other h (by simp) (by simp)).2 he

lemma turn_keeps (hw : Consistent w) (h : turn S w i = .ok u) (hi : i ≠ .store .purge)
    (he : e ∈ w.entities) : e ∈ u.entities := by
  by_cases hstore : ∃ call, i = .store call
  · obtain ⟨call, rfl⟩ := hstore
    exact storeStep_keeps h (fun hc => hi (by rw [hc])) he
  by_cases hpacket : ∃ v data client, i = .updatePlayer v data client
  · obtain ⟨v, data, client, rfl⟩ := hpacket
    have hent := ((updatePlayer_post hw v data client).ok h).1
    rw [hent]
    exact he
  · refine mem_of_keys (turn_effects hw h (fun call hc => hstore ⟨call, hc⟩) ?_).1 he
    exact fun v data client hc => hpacket ⟨v, data, client, hc⟩

lemma run_keeps (hw : Consistent w) {turns : List (Turn F)} (h : runE (turn S) w turns = .ok u)
    (hturns : ∀ i ∈ turns, i ≠ .store .purge) (he : e ∈ w.entities) :
    Consistent u ∧ e ∈ u.entities :=
  runE_inv (I := fun v => Consistent v ∧ e ∈ v.entities) (P := fun i => i ≠ .store .purge)
    (fun _ _ _ hv hi hu => ⟨consistent_turn S hv.1 hu, turn_keeps hv.1 hu hi hv.2⟩) ⟨hw, he⟩
    hturns h

/-! ### What is left -/

omit [LinearOrder F] [FloorRing F] in
lemma addComponent_stripped {d : EntityData F} (hd : w.entities.lookup e = some d)
    (hbits : d.bitmask = .empty) (v : Uninitialised) (c : Component) :
    (w.addComponent v e c).2 = registered c := by
  have hex := exists_compFactory (F := F) v c
  rw [addComponent, hd]
  dsimp only
  rw [if_neg (by rw [hbits]; simp)]
  cases hf : (compFactory (F := F) v).find? (·.1 = c) with
  | none =>
    rw [hf] at hex
    have hno : registered c ≠ true := fun hr => by
      obtain ⟨x, hx⟩ := hex.mpr hr
      cases hx
    exact (Bool.eq_false_iff.mpr hno).symm
  | some x => exact (hex.mp ⟨x, hf⟩).symm

/-- **A removed entity lingers.** -/
theorem removed_lingers (hw : Consistent w) (h : w.removeEntity e = .ok (w', true)) :
    Lingers S e w w' := by
  rcases removeEntity_cases e w with ⟨-, hno⟩ | ⟨v, hv, hs⟩
  · rw [hno] at h
    cases h
  rw [hv] at h
  cases h
  have hmem : e ∈ w'.entities := mem_of_keys hs.keys hs.stored
  obtain ⟨d, hd⟩ := Dict.exists_lookup hs.stored
  have hown := hs.own
  rw [hd, Option.map_some] at hown
  have hc : Consistent w' := by
    obtain ⟨r, hr, hc⟩ := hw.removeEntity e
    rw [hv] at hr
    cases hr
    exact hc
  refine {
    hasEntity := hmem
    count := by rw [getEntityCount, getEntityCount, hs.keys]
    again := ?_
    accepted := fun v c => addComponent_stripped hown rfl v c
    dumped := fun turns w'' v hrun hturns => ?_
    stripped := ⟨fun c => ?_, fun sys => ?_⟩
    other := fun x hx => ⟨hs.other x hx, fun sys => ?_⟩ }
  · rcases removeEntity_cases e w' with ⟨hno, -⟩ | ⟨v, hv', -⟩
    · exact absurd hmem hno
    · exact ⟨v, hv'⟩
  · obtain ⟨hc'', hmem''⟩ := run_keeps hc hrun hturns hmem
    obtain ⟨l, hl, hkeys⟩ := (dumpEntityInfo_post v hc'').exists_ok
    refine ⟨l, hl, ?_⟩
    rw [hkeys]
    exact AList.mem_keys.mp hmem''
  · rw [getBase, hown]
    simp
  · rw [hs.members]
    exact (hw.nodup sys).not_mem_erase
  · rw [hs.members]
    exact List.mem_erase_of_ne hx

/-- **Removed and not gone.** In every reachable world, what a successful removal promises holds of
exactly those entities that are not stored, for which there is nothing to promise. -/
theorem removed_gone_iff (S : Setting F) (turns : List (Turn F)) (w : Ecs F)
    (hw : runE (turn S) (new F) turns = .ok w) (e : EntityId) :
    (∀ w', w.removeEntity e = .ok (w', true) → Gone S e w w') ↔ e ∉ w.entities := by
  have hc := consistent_reached hw
  constructor
  · intro h hmem
    rcases removeEntity_cases e w with ⟨hno, -⟩ | ⟨w', hw', -⟩
    · exact hno hmem
    · exact (h w' hw').hasEntity (removed_lingers (S := S) hc hw').hasEntity
  · intro hno w' hw'
    rw [removeEntity, if_pos hno] at hw'
    cases hw'

/-- Of the one entity there is, the promise is broken. -/
theorem removed_gone_iff_walker :
    ¬ ∀ w', fallenWalker.removeEntity 0 = .ok (w', true) →
      Gone (Setting.empty ℚ) 0 fallenWalker w' := by
  rw [removed_gone_iff (Setting.empty ℚ) _ fallenWalker fallenWalker_reached 0]
  decide +kernel

/-- It is removed, and the store has it still. -/
theorem removed_still_there :
    ∃ w', fallenWalker.removeEntity 0 = .ok (w', true) ∧
      ¬ Gone (Setting.empty ℚ) 0 fallenWalker w' := by
  rcases removeEntity_cases 0 fallenWalker with ⟨hno, -⟩ | ⟨w', hw', hs⟩
  · exact absurd (show (0 : EntityId) ∈ fallenWalker.entities by decide +kernel) hno
  · exact ⟨w', hw', fun h => h.hasEntity (mem_of_keys hs.keys hs.stored)⟩

end Sfrpg
