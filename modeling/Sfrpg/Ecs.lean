import Mathlib.Data.List.Nodup
import Sfrpg.Bitmask
import Sfrpg.Components

/-!
The entity store and the seven systems of the server: their data, and access to components.

`EntityManager` owns the entities; each system keeps the list of the entities that fit one of
its requirements; `SystemManager` keeps the event queues. The objects point at each other, and
here they are one record. A pointer to a component is the place of the first component of its
type in the entity's vector, which is where every access finds it.
-/

namespace Sfrpg

open Lib Lib.Word

inductive System
  | Network | Movement | Control | State | Collision | Combat | Timers
  deriving DecidableEq

abbrev EventID := ℤ

structure EntityEvent where
  id : ℤ
  deriving DecidableEq

namespace EntityEvent

def Spawned : EntityEvent := ⟨0⟩
def Colliding_X : EntityEvent := ⟨2⟩
def Colliding_Y : EntityEvent := ⟨3⟩
def Moving_Left : EntityEvent := ⟨4⟩
def Moving_Right : EntityEvent := ⟨5⟩
def Moving_Up : EntityEvent := ⟨6⟩
def Moving_Down : EntityEvent := ⟨7⟩
def Became_Idle : EntityEvent := ⟨9⟩
def Began_Attacking : EntityEvent := ⟨11⟩

end EntityEvent

structure PlayerInput where
  movedX : ℤ
  movedY : ℤ
  attacking : Bool
  deriving DecidableEq

structure EntityData (F : Type) where
  bitmask : Bitmask
  type : String
  components : List (C_Base F)

def EntityData.new (F : Type) : EntityData F := ⟨.empty, "", []⟩

structure Ecs (F : Type) where
  idCounter : ℕ
  entities : Dict EntityId (EntityData F)
  members : System → List EntityId
  events : Dict EntityId (List EventID)
  input : Dict EntityId PlayerInput
  broadcasts : List Packet

namespace Ecs

variable {F : Type}

/-- The managers as their constructors leave them. -/
def new (F : Type) : Ecs F where
  idCounter := 0
  entities := ∅
  members := fun _ => []
  events := ∅
  input := ∅
  broadcasts := []

/-! ### `S_Base` -/

/-- The masks each constructor builds. `S_Timers` builds a second one and does not file it. -/
def requiredComponents : System → List Bitmask
  | .Network => [Bitmask.empty.turnOnBit Component.Client.id]
  | .Movement => [((Bitmask.empty.turnOnBit Component.Movable.id).turnOnBit
      Component.Position.id).turnOnBit Component.State.id]
  | .Control => [((Bitmask.empty.turnOnBit Component.Position.id).turnOnBit
      Component.Movable.id).turnOnBit Component.Controller.id]
  | .State => [Bitmask.empty.turnOnBit Component.State.id]
  | .Collision => [(Bitmask.empty.turnOnBit Component.Position.id).turnOnBit
      Component.Collidable.id]
  | .Combat =>
    let req := (((Bitmask.empty.turnOnBit Component.Position.id).turnOnBit
      Component.Movable.id).turnOnBit Component.State.id).turnOnBit Component.Health.id
    [req, (req.clearBit Component.Health.id).turnOnBit Component.Attacker.id]
  | .Timers => [(Bitmask.empty.turnOnBit Component.State.id).turnOnBit Component.Health.id]

def fitsRequirements (sys : System) (bits : Bitmask) : Bool :=
  (requiredComponents sys).any fun b => b.matchesBits bits b.getMask

def hasEntity (sys : System) (e : EntityId) (w : Ecs F) : Prop := e ∈ w.members sys

instance (sys : System) (e : EntityId) (w : Ecs F) : Decidable (w.hasEntity sys e) :=
  inferInstanceAs (Decidable (e ∈ w.members sys))

/-! ### `SystemManager` -/

/-- What `SystemManager::entityModified` does to the list of one system. -/
def modifiedMembers (sys : System) (e : EntityId) (bits : Bitmask) (l : List EntityId) :
    List EntityId :=
  if e ∉ l then if fitsRequirements sys bits then l ++ [e] else l
  else if fitsRequirements sys bits then l else l.erase e

def entityModified (e : EntityId) (bits : Bitmask) (w : Ecs F) : Ecs F :=
  { w with members := fun sys => modifiedMembers sys e bits (w.members sys) }

/-- `SystemManager::removeEntity`. -/
def forgetEntity (e : EntityId) (w : Ecs F) : Ecs F :=
  { w with members := fun sys => (w.members sys).erase e }

def purgeEntities (w : Ecs F) : Ecs F := { w with members := fun _ => [] }

def addEvent (e : EntityId) (event : EventID) (w : Ecs F) : Ecs F :=
  { w with events := w.events.insert e ((w.events.lookup e).getD [] ++ [event]) }

/-! ### Components of an entity -/

def hasComponent (e : EntityId) (c : Component) (w : Ecs F) : Bool :=
  match w.entities.lookup e with
  | none => false
  | some d => d.bitmask.getBit c.id

/-- `getComponent<C_Base>`. -/
def getBase (e : EntityId) (c : Component) (w : Ecs F) : Option (C_Base F) :=
  match w.entities.lookup e with
  | none => none
  | some d => if !d.bitmask.getBit c.id then none else d.components.find? (·.getType = c)

/-- `getComponent<T>` for the type that belongs to `T`. -/
def getComponent (T : Type) [CompType F T] (e : EntityId) (w : Ecs F) : Option T :=
  (w.getBase e (CompType.tag F T)).bind CompType.cast

/-- The first element of type `c`, replaced. -/
def replaceFirst (c : Component) (b : C_Base F) : List (C_Base F) → List (C_Base F)
  | [] => []
  | a :: l => if a.getType = c then b :: l else a :: replaceFirst c b l

/-- What a setter called through the pointer to the `T` of `e` leaves behind. -/
def setComponent {T : Type} [CompType F T] (e : EntityId) (x : T) (w : Ecs F) : Ecs F :=
  { w with entities := Dict.modify e (fun d => { d with
      components := replaceFirst (CompType.tag F T) (CompType.wrap x) d.components }) w.entities }

/-! ### Reading back what was written -/

variable {w : Ecs F} {e e' : EntityId} {T U : Type}

lemma find_replaceFirst {c : Component} {b : C_Base F} (hb : b.getType = c)
    (l : List (C_Base F)) :
    (replaceFirst c b l).find? (·.getType = c) = (l.find? (·.getType = c)).map fun _ => b := by
  induction l with
  | nil => rfl
  | cons a l ih =>
    by_cases ha : a.getType = c
    · simp [replaceFirst, ha, hb]
    · simp [replaceFirst, ha, ih]

lemma find_replaceFirst_ne {c c' : Component} {b : C_Base F} (hb : b.getType = c) (hne : c' ≠ c)
    (l : List (C_Base F)) :
    (replaceFirst c b l).find? (·.getType = c') = l.find? (·.getType = c') := by
  induction l with
  | nil => rfl
  | cons a l ih =>
    by_cases ha : a.getType = c
    · simp [replaceFirst, ha, hb, hne.symm]
    · simp [replaceFirst, ha, List.find?_cons, ih]

lemma lookup_setComponent [CompType F T] (e : EntityId) (x : T) (w : Ecs F) :
    (w.setComponent e x).entities.lookup e = (w.entities.lookup e).map fun d => { d with
      components := replaceFirst (CompType.tag F T) (CompType.wrap x) d.components } :=
  Dict.lookup_modify e _ _

lemma lookup_setComponent_ne [CompType F T] (h : e' ≠ e) (x : T) (w : Ecs F) :
    (w.setComponent e x).entities.lookup e' = w.entities.lookup e' :=
  Dict.lookup_modify_ne h _ _

lemma getBase_setComponent [CompType F T] (e : EntityId) (x : T) (w : Ecs F) :
    (w.setComponent e x).getBase e (CompType.tag F T) =
      (w.getBase e (CompType.tag F T)).map fun _ => CompType.wrap x := by
  rw [getBase, getBase, lookup_setComponent]
  cases w.entities.lookup e with
  | none => rfl
  | some d =>
    simp only [Option.map_some]
    split
    · rfl
    · exact find_replaceFirst (CompType.getType_wrap x) d.components

lemma getBase_setComponent_ne [CompType F T] {c : Component} (h : c ≠ CompType.tag F T)
    (e : EntityId) (x : T) (w : Ecs F) :
    (w.setComponent e x).getBase e c = w.getBase e c := by
  rw [getBase, getBase, lookup_setComponent]
  cases w.entities.lookup e with
  | none => rfl
  | some d =>
    simp only [Option.map_some]
    split
    · rfl
    · exact find_replaceFirst_ne (CompType.getType_wrap x) h d.components

lemma getBase_type {b : C_Base F} {c : Component} (h : w.getBase e c = some b) : b.getType = c := by
  rw [getBase] at h
  cases hd : w.entities.lookup e with
  | none => rw [hd] at h; cases h
  | some d =>
    rw [hd] at h
    dsimp only at h
    split at h
    · cases h
    · simpa using List.find?_some h

lemma getBase_eq_wrap [CompType F T] {b : C_Base F}
    (h : w.getBase e (CompType.tag F T) = some b) :
    ∃ c : T, b = CompType.wrap c ∧ w.getComponent T e = some c := by
  obtain ⟨c, rfl⟩ := CompType.exists_wrap (F := F) (T := T) b (getBase_type h)
  exact ⟨c, rfl, by rw [getComponent, h]; exact CompType.cast_wrap c⟩

lemma isSome_getComponent [CompType F T] :
    (w.getComponent T e).isSome = (w.getBase e (CompType.tag F T)).isSome := by
  cases h : w.getBase e (CompType.tag F T) with
  | none => rw [getComponent, h]; rfl
  | some b =>
    obtain ⟨c, -, hc⟩ := getBase_eq_wrap h
    rw [hc]; rfl

lemma getComponent_setComponent [CompType F T] (e : EntityId) (x : T) (w : Ecs F) :
    (w.setComponent e x).getComponent T e = (w.getComponent T e).map fun _ => x := by
  rw [getComponent, getBase_setComponent]
  cases h : w.getBase e (CompType.tag F T) with
  | none => rw [getComponent, h]; rfl
  | some b =>
    obtain ⟨c, -, hc⟩ := getBase_eq_wrap h
    rw [hc]
    exact CompType.cast_wrap x

lemma getComponent_setComponent_tag [CompType F T] [CompType F U]
    (h : CompType.tag F U ≠ CompType.tag F T) (e' e : EntityId) (x : T) (w : Ecs F) :
    (w.setComponent e x).getComponent U e' = w.getComponent U e' := by
  rw [getComponent, getComponent]
  by_cases he : e' = e
  · rw [he, getBase_setComponent_ne h]
  · rw [getBase, getBase, lookup_setComponent_ne he]

end Ecs

end Sfrpg
