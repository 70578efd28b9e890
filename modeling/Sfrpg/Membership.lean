import Sfrpg.EntityManager

/-!
The two records of what an entity has: its mask, and its components; and the third that follows
from them, the lists of the systems.

Every call that edits an entity tells the systems the mask it leaves, so each system lists the
entities whose mask fits it. The mask `addEntity` reports last is the one asked for, with bits
nobody can create components for; no requirement has such a bit, so it changes nothing.
-/

namespace Sfrpg

open Lib Lib.Word Lib.Run

namespace Ecs

/-! ### Requirements -/

lemma fitsRequirements_iff (sys : System) (bits : Bitmask) :
    fitsRequirements sys bits = true ↔
      ∃ b ∈ requiredComponents sys, ∀ q, b.getBit q = true → bits.getBit q = true := by
  have hbit : ∀ b ∈ requiredComponents sys, ∃ p < 32, b.getBit p = true := by
    cases sys <;> decide
  rw [fitsRequirements, List.any_eq_true]
  constructor
  · rintro ⟨b, hb, hm⟩
    obtain ⟨p, -, hp⟩ := hbit b hb
    exact ⟨b, hb, (Bitmask.matchesBits_self hp).mp hm⟩
  · rintro ⟨b, hb, hm⟩
    obtain ⟨p, -, hp⟩ := hbit b hb
    exact ⟨b, hb, (Bitmask.matchesBits_self hp).mpr hm⟩

lemma fits_timers {bits : Bitmask} : fitsRequirements .Timers bits = true ↔
    bits.getBit Component.State.id = true ∧ bits.getBit Component.Health.id = true := by
  rw [fitsRequirements_iff]
  constructor
  · rintro ⟨b, hb, hbits⟩
    obtain rfl := List.mem_singleton.mp hb
    exact ⟨hbits _ (by decide), hbits _ (by decide)⟩
  · rintro ⟨hstate, hhealth⟩
    refine ⟨_, List.mem_singleton.mpr rfl, fun q hq => ?_⟩
    rw [Bitmask.getBit_turnOnBit, Bitmask.getBit_turnOnBit] at hq
    simp only [Bitmask.getBit_empty, Bool.false_or, Bool.or_eq_true, Bool.and_eq_true,
      decide_eq_true_eq] at hq
    rcases hq with ⟨-, rfl⟩ | ⟨-, rfl⟩
    · exact hstate
    · exact hhealth

lemma registered_of_required {sys : System} {b : Bitmask} (hb : b ∈ requiredComponents sys)
    {q : ℕ} (hq : b.getBit q = true) : registered ⟨q⟩ = true := by
  have h : ∀ b ∈ requiredComponents sys, ∀ q < 32, b.getBit q = true → registered ⟨q⟩ = true := by
    cases sys <;> decide
  exact h b hb q (Bitmask.lt_of_getBit hq) hq

lemma fitsRequirements_congr {bits bits' : Bitmask}
    (h : ∀ q, registered ⟨q⟩ = true → bits.getBit q = bits'.getBit q) (sys : System) :
    fitsRequirements sys bits = fitsRequirements sys bits' := by
  rw [Bool.eq_iff_iff, fitsRequirements_iff, fitsRequirements_iff]
  constructor
  · rintro ⟨b, hb, hm⟩
    refine ⟨b, hb, fun q hq => ?_⟩
    rw [← h q (registered_of_required hb hq)]
    exact hm q hq
  · rintro ⟨b, hb, hm⟩
    refine ⟨b, hb, fun q hq => ?_⟩
    rw [h q (registered_of_required hb hq)]
    exact hm q hq

lemma not_fits_empty (sys : System) : fitsRequirements sys .empty = false := by
  cases sys <;> decide

/-! ### The lists of the systems -/

section Lists

variable {sys : System} {e x : EntityId} {bits : Bitmask} {l : List EntityId}

lemma nodup_modifiedMembers (h : l.Nodup) : (modifiedMembers sys e bits l).Nodup := by
  unfold modifiedMembers
  split
  · next hnot =>
    split
    · exact List.nodup_append.mpr ⟨h, List.nodup_singleton e, by
        intro a ha b hb
        rw [List.mem_singleton] at hb
        rintro rfl
        exact hnot (hb ▸ ha)⟩
    · exact h
  · split
    · exact h
    · exact h.erase e

lemma mem_modifiedMembers (h : l.Nodup) :
    x ∈ modifiedMembers sys e bits l ↔
      if x = e then fitsRequirements sys bits = true else x ∈ l := by
  unfold modifiedMembers
  by_cases hx : x = e
  · subst hx
    by_cases hm : x ∈ l <;> by_cases hf : fitsRequirements sys bits = true <;>
      simp [hm, hf, h.mem_erase_iff]
  · by_cases hm : e ∈ l <;> by_cases hf : fitsRequirements sys bits = true <;>
      simp [hm, hf, hx, h.mem_erase_iff]

end Lists

/-! ### The invariants -/

variable {F : Type} {w w' : Ecs F} {e e' : EntityId} {c : Component} {d d' : EntityData F}

/-- Each system lists the stored entities whose mask fits it, each once. -/
structure Enrolled (w : Ecs F) : Prop where
  mem : ∀ sys e, e ∈ w.members sys ↔
    ∃ d, w.entities.lookup e = some d ∧ fitsRequirements sys d.bitmask = true
  nodup : ∀ sys, (w.members sys).Nodup

/-- The mask has the bit of each component, of which there is one of each type. -/
def Sound (d : EntityData F) : Prop :=
  ∀ c : Component, (d.components.map C_Base.getType).count c =
    if d.bitmask.getBit c.id then 1 else 0

structure Consistent (w : Ecs F) : Prop extends Enrolled w where
  sound : ∀ e d, w.entities.lookup e = some d → Sound d

lemma consistent_new : Consistent (new F) where
  mem sys e := by simp [new]
  nodup sys := List.nodup_nil
  sound e d h := by simp [new] at h

lemma sound_new : Sound (EntityData.new F) := by
  intro c
  simp [EntityData.new]

lemma Enrolled.edits (h : Enrolled w) (he : Edits e d d' w w') : Enrolled w' where
  mem := by
    intro sys x
    rw [he.members, mem_modifiedMembers (h.nodup sys)]
    by_cases hx : x = e
    · subst hx
      rw [if_pos rfl, he.after]
      simp
    · rw [if_neg hx, he.other x hx]
      exact h.mem sys x
  nodup := by
    intro sys
    rw [he.members]
    exact nodup_modifiedMembers (h.nodup sys)

lemma Consistent.edits (h : Consistent w) (he : Edits e d d' w w') (hd : Sound d → Sound d') :
    Consistent w' where
  toEnrolled := h.toEnrolled.edits he
  sound := by
    intro x dx hx
    by_cases hxe : x = e
    · subst hxe
      rw [he.after] at hx
      cases hx
      exact hd (h.sound x d he.before)
    · rw [he.other x hxe] at hx
      exact h.sound x dx hx

/-! ### Components added and removed -/

lemma sound_add {component : C_Base F} (hbit : d.bitmask.getBit c.id = false)
    (htype : component.getType = c) (hreg : registered c = true) (h : Sound d) :
    Sound { d with
      bitmask := d.bitmask.turnOnBit c.id
      components := d.components ++ [component] } := by
  intro x
  have hx := h x
  have hlt := registered_lt hreg
  simp only [List.map_append, List.map_cons, List.map_nil, List.count_append, htype,
    Bitmask.getBit_turnOnBit, hlt, decide_true, Bool.true_and]
  by_cases hxc : x = c
  · subst hxc
    rw [hx, hbit]
    simp
  · have hid : c.id ≠ x.id := fun he => hxc (by cases x; cases c; cases he; rfl)
    simp [hx, hid, Ne.symm hxc]

lemma map_getType_eraseP (c : Component) (l : List (C_Base F)) :
    (l.eraseP (·.getType = c)).map C_Base.getType = (l.map C_Base.getType).erase c := by
  induction l with
  | nil => rfl
  | cons a l ih =>
    by_cases ha : a.getType = c
    · simp [ha]
    · simp [ha, ih]

lemma sound_remove (hbit : d.bitmask.getBit c.id = true) (h : Sound d) :
    Sound { d with
      bitmask := d.bitmask.clearBit c.id
      components := d.components.eraseP (·.getType = c) } := by
  intro x
  have hx := h x
  simp only [map_getType_eraseP, Bitmask.getBit_clearBit]
  by_cases hxc : x = c
  · subst hxc
    rw [List.count_erase_self, hx, hbit]
    simp
  · have hid : c.id ≠ x.id := fun he => hxc (by cases x; cases c; cases he; rfl)
    rw [List.count_erase_of_ne hxc, hx]
    simp [hid]

section Calls

variable [Zero F]

lemma Consistent.addComponent (h : Consistent w) (u : Uninitialised) (e : EntityId)
    (c : Component) : Consistent (w.addComponent u e c).1 := by
  obtain ⟨he, -⟩ | ⟨d, component, hbit, hmem, hreg, he⟩ := addComponent_cases u e c w
  · rw [he]; exact h
  · exact h.edits he (sound_add hbit (mem_compFactory_type hmem) hreg)

omit [Zero F] in
lemma Consistent.removeComponent (h : Consistent w) (e : EntityId) (c : Component) :
    Consistent (w.removeComponent e c).1 := by
  obtain he | ⟨d, component, hbit, -, he⟩ := removeComponent_cases e c w
  · rw [he]; exact h
  · exact h.edits he (sound_remove hbit)

/-! ### Entities created -/

omit [Zero F] in
lemma Consistent.congr (h : Consistent w) (hent : w'.entities = w.entities)
    (hmem : w'.members = w.members) : Consistent w' where
  mem sys e := by rw [hent, hmem]; exact h.mem sys e
  nodup sys := by rw [hmem]; exact h.nodup sys
  sound e d hd := h.sound e d (hent ▸ hd)

omit [Zero F] in
lemma Consistent.insert_new (h : Consistent w) (hnew : e ∉ w.entities) (idCounter : ℕ) :
    Consistent { w with
      entities := w.entities.insert e (.new F)
      idCounter := idCounter } where
  mem := by
    intro sys x
    show x ∈ w.members sys ↔ ∃ d, (w.entities.insert e (.new F)).lookup x = some d ∧ _
    by_cases hx : x = e
    · subst hx
      have hno : x ∉ w.members sys := by
        intro hm
        obtain ⟨d, hd, -⟩ := (h.mem sys x).mp hm
        exact hnew (Dict.mem_of_lookup hd)
      simp [hno, EntityData.new, not_fits_empty]
    · rw [AList.lookup_insert_ne hx]
      exact h.mem sys x
  nodup := h.nodup
  sound := by
    intro x d hd
    by_cases hx : x = e
    · subst hx
      rw [AList.lookup_insert] at hd
      cases hd
      exact sound_new
    · rw [AList.lookup_insert_ne hx] at hd
      exact h.sound x d hd

lemma addComponent_bitmask (u : Uninitialised) (c : Component) (hd : w.entities.lookup e = some d) :
    ∃ d', (w.addComponent u e c).1.entities.lookup e = some d' ∧
      ∀ q, d'.bitmask.getBit q = (d.bitmask.getBit q || (decide (q = c.id) && registered c)) := by
  obtain ⟨he, hno⟩ | ⟨d₀, component, -, -, hreg, he⟩ := addComponent_cases u e c w
  · refine ⟨d, by rw [he]; exact hd, fun q => ?_⟩
    rcases hno d hd with hbit | hreg
    · by_cases hq : q = c.id
      · rw [hq, hbit]; rfl
      · simp [hq]
    · simp [hreg]
  · have hd₀ := he.before
    rw [hd] at hd₀
    cases hd₀
    refine ⟨_, he.after, fun q => ?_⟩
    have hlt := registered_lt hreg
    simp [Bitmask.getBit_turnOnBit, hlt, hreg, eq_comm]

lemma addRequested_bitmask (u : Uninitialised) (bits : Bitmask) (l : List ℕ)
    (hd : w.entities.lookup e = some d) :
    ∃ d', (l.foldl (addRequested u bits e) w).entities.lookup e = some d' ∧
      ∀ q, d'.bitmask.getBit q =
        (d.bitmask.getBit q || (decide (q ∈ l) && registered ⟨q⟩ && bits.getBit q)) := by
  induction l generalizing w d with
  | nil => exact ⟨d, hd, fun q => by simp⟩
  | cons i l ih =>
    rw [List.foldl_cons]
    by_cases hi : bits.getBit i = true
    · have hstep : addRequested u bits e w i = (w.addComponent u e ⟨i⟩).1 := if_pos hi
      obtain ⟨d₁, hd₁, hbit₁⟩ := addComponent_bitmask u ⟨i⟩ hd
      obtain ⟨d', hd', hbit⟩ := ih hd₁
      refine ⟨d', by rw [hstep]; exact hd', fun q => ?_⟩
      rw [hbit q, hbit₁ q]
      by_cases hq : q = i
      · subst hq
        cases registered ⟨q⟩ <;> simp [hi]
      · simp [hq]
    · have hstep : addRequested u bits e w i = w := if_neg hi
      obtain ⟨d', hd', hbit⟩ := ih hd
      refine ⟨d', by rw [hstep]; exact hd', fun q => ?_⟩
      rw [hbit q]
      by_cases hq : q = i
      · subst hq
        simp [hi]
      · simp [hq]

lemma consistent_addRequested (h : Consistent w) (u : Uninitialised) (bits : Bitmask)
    (l : List ℕ) : Consistent (l.foldl (addRequested u bits e) w) := by
  refine Dict.foldl_inv (I := Consistent) (fun v i hv => ?_) l h
  unfold addRequested
  split
  · exact hv.addComponent u e ⟨i⟩
  · exact hv

omit [Zero F] in
lemma modifiedMembers_of_mem_iff {sys : System} {bits : Bitmask} {l : List EntityId}
    (h : e ∈ l ↔ fitsRequirements sys bits = true) : modifiedMembers sys e bits l = l := by
  unfold modifiedMembers
  by_cases hm : e ∈ l
  · simp [hm, h.mp hm]
  · have hf : fitsRequirements sys bits ≠ true := fun hf => hm (h.mpr hf)
    simp [hm, hf]

lemma Consistent.addEntity (h : Consistent w) (u : Uninitialised) (bits : Bitmask)
    (l_id : EntityId) : Consistent (w.addEntity u bits l_id).1 := by
  unfold Ecs.addEntity
  dsimp only
  set id : EntityId := if l_id = -1 then toInt32 w.idCounter else l_id with hid
  split
  · exact h
  · next hnew =>
    set counter := if l_id = -1 then (w.idCounter + 1) % 4294967296 else w.idCounter
    have h₀ := h.insert_new hnew counter
    set w₀ : Ecs F := { w with
      entities := w.entities.insert id (.new F)
      idCounter := counter } with hw₀
    have hd₀ : w₀.entities.lookup id = some (.new F) := AList.lookup_insert w.entities
    have hc := consistent_addRequested (e := id) h₀ u bits (List.range N_COMPONENT_TYPES)
    obtain ⟨d, hd, hbit⟩ := addRequested_bitmask u bits (List.range N_COMPONENT_TYPES) hd₀
    set w₁ := (List.range N_COMPONENT_TYPES).foldl (addRequested u bits id) w₀ with hw₁
    -- every bit a requirement can have was asked for and is stored, or neither
    have hfit : ∀ sys, fitsRequirements sys d.bitmask = fitsRequirements sys bits := by
      refine fitsRequirements_congr fun q hq => ?_
      have hlt : q < N_COMPONENT_TYPES := registered_lt hq
      rw [hbit q]
      simp only [EntityData.new, Bitmask.getBit_empty, Bool.false_or, List.mem_range, hlt, hq,
        decide_true, Bool.true_and]
    refine hc.congr rfl ?_
    funext sys
    refine modifiedMembers_of_mem_iff ?_
    rw [← hfit sys, hc.mem sys id, hd]
    simp

end Calls

/-! ### Entities removed -/

/-- The entity `e` was stored, and has lost its mask, its components and its places in the lists.
It is stored still. -/
structure Strips (e : EntityId) (w w' : Ecs F) : Prop where
  stored : e ∈ w.entities
  idCounter : w'.idCounter = w.idCounter
  keys : w'.entities.keys = w.entities.keys
  own : w'.entities.lookup e =
    (w.entities.lookup e).map fun d => { d with bitmask := .empty, components := [] }
  other : ∀ x, x ≠ e → w'.entities.lookup x = w.entities.lookup x
  members : ∀ sys, w'.members sys = (w.members sys).erase e
  events : w'.events = w.events
  input : w'.input = if w.hasEntity .Network e then w.input.erase e else w.input
  broadcasts : w'.broadcasts = w.broadcasts

lemma Strips.consistent {w' : Ecs F} (h : Strips e w w') (hw : Consistent w) : Consistent w' where
  mem sys x := by
    rw [h.members, (hw.nodup sys).mem_erase_iff]
    by_cases hx : x = e
    · subst hx
      rw [h.own]
      cases w.entities.lookup x with
      | none => simp
      | some d => simp [not_fits_empty]
    · rw [h.other x hx, hw.mem sys x]
      simp [hx]
  nodup sys := by
    rw [h.members]
    exact (hw.nodup sys).erase e
  sound x d hd := by
    by_cases hx : x = e
    · subst hx
      rw [h.own] at hd
      obtain ⟨d₀, -, rfl⟩ := Option.map_eq_some_iff.mp hd
      intro c
      simp
    · rw [h.other x hx] at hd
      exact hw.sound x d hd

section Removal

variable [Field F] [LinearOrder F]

lemma dispatch_removed (e : EntityId) (w : Ecs F) :
    dispatch { Message.to .Removed_Entity e with int := e } w =
      .ok (if w.hasEntity .Network e then { w with input := w.input.erase e } else w) := by
  have hobs : observers .Removed_Entity = [.Network] := by decide
  have he : dispatch { Message.to .Removed_Entity e with int := e } w =
      S_Network.notify { Message.to .Removed_Entity e with int := e } w := by
    simp [dispatch, dispatchN, Message.to, hobs, notify]
  rw [he]
  by_cases hmem : w.hasEntity .Network e <;>
    simp [S_Network.notify, Message.to, hmem, pure, Except.pure]

lemma removeEntity_cases (e : EntityId) (w : Ecs F) :
    (e ∉ w.entities ∧ w.removeEntity e = .ok (w, false)) ∨
    ∃ u, w.removeEntity e = .ok (u, true) ∧ Strips e w u := by
  by_cases hmem : e ∈ w.entities
  · right
    rw [removeEntity, if_neg (not_not.mpr hmem), dispatch_removed]
    refine ⟨_, rfl, ?_⟩
    split
    · next hlisted =>
      exact {
        stored := hmem
        idCounter := rfl
        keys := Dict.keys_modify e _ _
        own := Dict.lookup_modify e _ _
        other := fun x hx => Dict.lookup_modify_ne hx _ _
        members := fun _ => rfl
        events := rfl
        input := by rw [if_pos hlisted]; rfl
        broadcasts := rfl }
    · next hlisted =>
      exact {
        stored := hmem
        idCounter := rfl
        keys := Dict.keys_modify e _ _
        own := Dict.lookup_modify e _ _
        other := fun x hx => Dict.lookup_modify_ne hx _ _
        members := fun _ => rfl
        events := rfl
        input := by rw [if_neg hlisted]; rfl
        broadcasts := rfl }
  · left
    exact ⟨hmem, by rw [removeEntity, if_pos hmem]; rfl⟩

lemma Consistent.removeEntity (h : Consistent w) (e : EntityId) :
    ∃ r, w.removeEntity e = .ok r ∧ Consistent r.1 := by
  rcases removeEntity_cases e w with ⟨-, hr⟩ | ⟨u, hr, hs⟩
  · exact ⟨_, hr, h⟩
  · exact ⟨_, hr, hs.consistent h⟩

omit [Field F] [LinearOrder F] in
lemma consistent_purge (w : Ecs F) : Consistent w.purge where
  mem sys e := by simp [purge, purgeEntities]
  nodup sys := List.nodup_nil
  sound e d h := by simp [purge, purgeEntities] at h

lemma consistent_step (w : Ecs F) (call : StoreCall) (h : Consistent w) :
    ∃ w', storeStep w call = .ok w' ∧ Consistent w' := by
  cases call with
  | addEntity u bits l_id => exact ⟨_, rfl, h.addEntity u bits l_id⟩
  | addComponent u e c => exact ⟨_, rfl, h.addComponent u e c⟩
  | removeComponent e c => exact ⟨_, rfl, h.removeComponent e c⟩
  | removeEntity e =>
    obtain ⟨r, hr, hc⟩ := h.removeEntity e
    exact ⟨r.1, by rw [storeStep, hr]; rfl, hc⟩
  | purge => exact ⟨_, rfl, consistent_purge w⟩

lemma consistent_run (calls : List StoreCall) :
    ∃ w, runE storeStep (new F) calls = .ok w ∧ Consistent w :=
  runE_total (P := fun _ => True) (fun w call h _ => consistent_step w call h) consistent_new
    fun _ _ => trivial

variable (F) in
/-- **The systems list what fits them.** After any calls of the store, an entity is in the list
of a system exactly when it is stored and its mask fits the system, and it is there once. -/
theorem systems_list_fitting (calls : List StoreCall) :
    ∃ w, runE storeStep (new F) calls = .ok w ∧ ∀ sys e,
      (e ∈ w.members sys ↔
        ∃ d, w.entities.lookup e = some d ∧ fitsRequirements sys d.bitmask = true) ∧
      (e ∈ w.members sys → (w.members sys).count e = 1) := by
  obtain ⟨w, hw, hc⟩ := consistent_run (F := F) calls
  exact ⟨w, hw, fun sys e => ⟨hc.mem sys e, List.count_eq_one_of_mem (hc.nodup sys)⟩⟩

end Removal

/-! ### Masks and components -/

lemma Consistent.isSome_getBase (h : Consistent w) (e : EntityId) (c : Component) :
    (w.getBase e c).isSome = w.hasComponent e c := by
  rw [getBase, hasComponent]
  cases hd : w.entities.lookup e with
  | none => rfl
  | some d =>
    have hs := h.sound e d hd c
    dsimp only
    by_cases hbit : d.bitmask.getBit c.id = true
    · rw [if_pos hbit] at hs
      have hmem : c ∈ d.components.map C_Base.getType := by
        rw [← List.count_pos_iff, hs]
        exact Nat.one_pos
      obtain ⟨b, hb, rfl⟩ := List.mem_map.mp hmem
      simp only [hbit, Bool.not_true, Bool.false_eq_true, if_false, List.find?_isSome]
      exact ⟨b, hb, by simp⟩
    · simp [hbit]

variable (F) in
/-- **The mask tells the components.** After any calls of the store, the bit of a type is set in
an entity's mask exactly when the entity has one component of the type, and else it has none; so
the search for a component succeeds exactly where the mask says so. -/
theorem masks_tell_components [Field F] [LinearOrder F] (calls : List StoreCall) :
    ∃ w, runE storeStep (new F) calls = .ok w ∧ ∀ e d, w.entities.lookup e = some d →
      ∀ c : Component, c.id < N_COMPONENT_TYPES →
      (d.bitmask.getBit c.id = true ↔ (d.components.map C_Base.getType).count c = 1) ∧
      (d.bitmask.getBit c.id = false → c ∉ d.components.map C_Base.getType) ∧
      ((w.getBase e c).isSome ↔ w.hasComponent e c = true) := by
  obtain ⟨w, hw, hc⟩ := consistent_run (F := F) calls
  refine ⟨w, hw, fun e d hd c _ => ?_⟩
  have hs := hc.sound e d hd c
  refine ⟨?_, fun hbit => ?_, by rw [hc.isSome_getBase]⟩
  · rw [hs]
    split <;> simp_all
  · rw [hbit] at hs
    exact List.count_eq_zero.mp hs

end Ecs

end Sfrpg
