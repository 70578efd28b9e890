import Sfrpg.Lib.Run
import Sfrpg.Systems

/-!
`EntityManager` with the component types of the server: entities and components come and go.

An entity is created empty and given its components one by one; the systems are told after each
one with the mask as it stands, and at the end with the mask that was asked for. A removed entity
keeps its place in the store, with no components.
-/

namespace Sfrpg

open Lib Lib.Word Lib.Run

namespace Ecs

section Store

variable {F : Type} [Zero F]

/-- The component types `ServerEntityManager` adds, each with what it creates. -/
def compFactory (u : Uninitialised) : List (Component × C_Base F) :=
  [(.Attacker, .attacker (.new u)), (.Position, .position .new), (.Movable, .movable .new),
    (.Collidable, .collidable .new), (.Controller, .controller ⟨⟩), (.Client, .client .new),
    (.Name, .name .new), (.State, .state (.new u)), (.Health, .health (.new u))]

def addComponent (u : Uninitialised) (e : EntityId) (c : Component) (w : Ecs F) : Ecs F × Bool :=
  match w.entities.lookup e with
  | none => (w, false)
  | some d =>
    if d.bitmask.getBit c.id then (w, false) else
    match (compFactory u).find? (·.1 = c) with
    | none => (w, false)
    | some (_, component) =>
      let bits := d.bitmask.turnOnBit c.id
      let w := { w with entities := Dict.modify e (fun d => { d with
        bitmask := bits, components := d.components ++ [component] }) w.entities }
      (w.entityModified e bits, true)

def removeComponent (e : EntityId) (c : Component) (w : Ecs F) : Ecs F × Bool :=
  match w.entities.lookup e with
  | none => (w, false)
  | some d =>
    if !d.bitmask.getBit c.id then (w, false) else
    match d.components.find? (·.getType = c) with
    | none => (w, false)
    | some _ =>
      let bits := d.bitmask.clearBit c.id
      let w := { w with entities := Dict.modify e (fun d => { d with
        bitmask := bits, components := d.components.eraseP (·.getType = c) }) w.entities }
      (w.entityModified e bits, true)

/-- One pass of the loop of `addEntity` over the component types. -/
def addRequested (u : Uninitialised) (bits : Bitmask) (e : EntityId) (w : Ecs F) (i : ℕ) : Ecs F :=
  if bits.getBit i then (w.addComponent u e ⟨i⟩).1 else w

/-- The id is computed as an unsigned integer and used as a signed one. -/
def addEntity (u : Uninitialised) (bits : Bitmask) (l_id : EntityId) (w : Ecs F) :
    Ecs F × EntityId :=
  let id := if l_id = -1 then toInt32 w.idCounter else l_id
  if id ∈ w.entities then (w, -1) else
  let w := { w with
    entities := w.entities.insert id (.new F)
    idCounter := if l_id = -1 then (w.idCounter + 1) % 4294967296 else w.idCounter }
  let w := (List.range N_COMPONENT_TYPES).foldl (addRequested u bits id) w
  ((w.entityModified id bits).addEvent id EntityEvent.Spawned.id, id)

def purge (w : Ecs F) : Ecs F := { w.purgeEntities with idCounter := 0, entities := ∅ }

end Store

section Runs

variable {F : Type} [Field F] [LinearOrder F]

def removeEntity (e : EntityId) (w : Ecs F) : Outcome (Ecs F × Bool) :=
  if e ∉ w.entities then pure (w, false) else do
  let w ← dispatch { Message.to .Removed_Entity e with int := e } w
  let w := { w with entities := Dict.modify e (fun d => { d with
    bitmask := .empty, components := [] }) w.entities }
  pure (w.forgetEntity e, true)

/-! ### Runs of the store -/

/-- A call of the store, with what the created components leave uninitialised. -/
inductive StoreCall
  | addEntity (u : Uninitialised) (bits : Bitmask) (l_id : EntityId)
  | addComponent (u : Uninitialised) (e : EntityId) (c : Component)
  | removeComponent (e : EntityId) (c : Component)
  | removeEntity (e : EntityId)
  | purge

def storeStep (w : Ecs F) : StoreCall → Outcome (Ecs F)
  | .addEntity u bits l_id => pure (w.addEntity u bits l_id).1
  | .addComponent u e c => pure (w.addComponent u e c).1
  | .removeComponent e c => pure (w.removeComponent e c).1
  | .removeEntity e => Prod.fst <$> w.removeEntity e
  | .purge => pure w.purge

end Runs

/-! ### What each call does -/

section Calls

variable {F : Type} [Zero F] {w w' : Ecs F} {e e' : EntityId} {c : Component}
  {u : Uninitialised} {d d' : EntityData F}

lemma mem_compFactory_type {component : C_Base F} (h : (c, component) ∈ compFactory u) :
    component.getType = c := by
  simp only [compFactory, List.mem_cons, Prod.mk.injEq, List.not_mem_nil, or_false] at h
  rcases h with ⟨rfl, rfl⟩ | ⟨rfl, rfl⟩ | ⟨rfl, rfl⟩ | ⟨rfl, rfl⟩ | ⟨rfl, rfl⟩ | ⟨rfl, rfl⟩ |
    ⟨rfl, rfl⟩ | ⟨rfl, rfl⟩ | ⟨rfl, rfl⟩ <;> rfl

lemma mem_compFactory_client {client : C_Client}
    (h : (c, C_Base.client client) ∈ compFactory (F := F) u) : client = .new := by
  simp only [compFactory, List.mem_cons, Prod.mk.injEq, List.not_mem_nil, reduceCtorEq, and_false,
    or_false, false_or, C_Base.client.injEq] at h
  exact h.2

/-- The types the server can create components of. -/
def componentTypes : List Component :=
  [.Attacker, .Position, .Movable, .Collidable, .Controller, .Client, .Name, .State, .Health]

def registered (c : Component) : Bool := c ∈ componentTypes

lemma registered_lt (h : registered c = true) : c.id < 32 := by
  simp only [registered, componentTypes, List.mem_cons, List.not_mem_nil, or_false,
    decide_eq_true_eq] at h
  rcases h with rfl | rfl | rfl | rfl | rfl | rfl | rfl | rfl | rfl <;> decide

lemma exists_compFactory (u : Uninitialised) (c : Component) :
    (∃ x, (compFactory (F := F) u).find? (·.1 = c) = some x) ↔ registered c = true := by
  have hmap : (compFactory (F := F) u).map Prod.fst = componentTypes := rfl
  rw [← Option.isSome_iff_exists, List.find?_isSome, registered, decide_eq_true_eq, ← hmap,
    List.mem_map]
  simp only [decide_eq_true_eq]

/-- The entity `e` was edited from `d` to `d'`, and the systems were told. -/
structure Edits (e : EntityId) (d d' : EntityData F) (w w' : Ecs F) : Prop where
  before : w.entities.lookup e = some d
  after : w'.entities.lookup e = some d'
  other : ∀ e', e' ≠ e → w'.entities.lookup e' = w.entities.lookup e'
  members : ∀ sys, w'.members sys = modifiedMembers sys e d'.bitmask (w.members sys)

omit [Zero F] in
lemma edits_modify (h : w.entities.lookup e = some d) (f : EntityData F → EntityData F)
    (bits : Bitmask) (hbits : (f d).bitmask = bits) :
    Edits e d (f d) w ({ w with entities := Dict.modify e f w.entities }.entityModified e bits)
    where
  before := h
  after := by
    show (Dict.modify e f w.entities).lookup e = _
    rw [Dict.lookup_modify, h, Option.map_some]
  other _ hne := Dict.lookup_modify_ne hne f w.entities
  members _ := by rw [hbits]; rfl

lemma addComponent_cases (u : Uninitialised) (e : EntityId) (c : Component) (w : Ecs F) :
    ((w.addComponent u e c).1 = w ∧ ∀ d, w.entities.lookup e = some d →
      d.bitmask.getBit c.id = true ∨ registered c = false) ∨
    ∃ d component, d.bitmask.getBit c.id = false ∧ (c, component) ∈ compFactory u ∧
      registered c = true ∧ Edits e d { d with
        bitmask := d.bitmask.turnOnBit c.id
        components := d.components ++ [component] } w (w.addComponent u e c).1 := by
  unfold addComponent
  cases hd : w.entities.lookup e with
  | none => exact .inl ⟨rfl, by simp⟩
  | some d =>
    dsimp only
    by_cases hbit : d.bitmask.getBit c.id = true
    · rw [if_pos hbit]
      exact .inl ⟨rfl, fun d' h => .inl (by cases h; exact hbit)⟩
    · rw [if_neg hbit]
      cases hf : (compFactory (F := F) u).find? (·.1 = c) with
      | none =>
        refine .inl ⟨rfl, fun _ _ => .inr ?_⟩
        by_contra hr
        obtain ⟨x, hx⟩ := (exists_compFactory (F := F) u c).mpr (by simpa using hr)
        rw [hf] at hx
        cases hx
      | some x =>
        right
        obtain ⟨c', component⟩ := x
        have hc : c' = c := by simpa using List.find?_some hf
        subst hc
        refine ⟨d, component, by simpa using hbit, List.mem_of_find?_eq_some hf,
          (exists_compFactory (F := F) u c').mp ⟨_, hf⟩, ?_⟩
        exact edits_modify hd (fun d' => { d' with
          bitmask := d.bitmask.turnOnBit c'.id
          components := d'.components ++ [component] }) _ rfl

omit [Zero F] in
lemma removeComponent_cases (e : EntityId) (c : Component) (w : Ecs F) :
    (w.removeComponent e c).1 = w ∨
    ∃ d component, d.bitmask.getBit c.id = true ∧
      d.components.find? (·.getType = c) = some component ∧
      Edits e d { d with
        bitmask := d.bitmask.clearBit c.id
        components := d.components.eraseP (·.getType = c) } w (w.removeComponent e c).1 := by
  unfold removeComponent
  cases hd : w.entities.lookup e with
  | none => exact .inl rfl
  | some d =>
    dsimp only
    by_cases hbit : d.bitmask.getBit c.id = true
    · simp only [hbit, Bool.not_true, Bool.false_eq_true, if_false]
      cases hf : d.components.find? (·.getType = c) with
      | none => exact .inl rfl
      | some component =>
        refine .inr ⟨d, component, hbit, hf, ?_⟩
        exact edits_modify hd (fun d' => { d' with
          bitmask := d.bitmask.clearBit c.id
          components := d'.components.eraseP (·.getType = c) }) _ rfl
    · simp [hbit]

end Calls

end Ecs

end Sfrpg
