import Mathlib.Algebra.Field.Defs
import Mathlib.Algebra.Order.Group.Unbundled.Abs
import Sfrpg.SfTime
import Sfrpg.Server

/-!
The components of the server's entities, and the type that holds any of them.

A scoped enumeration of the source is the integer it carries under the enumerators' names: the
source casts whatever integer it reads to it. Coordinates, speeds and factors lie in a type `F`
of scalars. A member that a constructor leaves uninitialised is an argument of it here.
-/

namespace Sfrpg

abbrev EntityId := ℤ

/-- `enum class Component`, under its conversion to an unsigned integer. -/
structure Component where
  id : ℕ
  deriving DecidableEq

namespace Component

def Position : Component := ⟨0⟩
def State : Component := ⟨2⟩
def Movable : Component := ⟨3⟩
def Controller : Component := ⟨4⟩
def Collidable : Component := ⟨5⟩
def Client : Component := ⟨8⟩
def Health : Component := ⟨9⟩
def Name : Component := ⟨10⟩
def Attacker : Component := ⟨12⟩

end Component

def N_COMPONENT_TYPES : ℕ := 32

structure EntityState where
  val : ℤ
  deriving DecidableEq

namespace EntityState

def Idle : EntityState := ⟨0⟩
def Walking : EntityState := ⟨1⟩
def Hurt : EntityState := ⟨2⟩
def Attacking : EntityState := ⟨3⟩
def Dying : EntityState := ⟨4⟩

end EntityState

structure Direction where
  val : ℤ
  deriving DecidableEq

namespace Direction

def Up : Direction := ⟨0⟩
def Left : Direction := ⟨1⟩
def Down : Direction := ⟨2⟩
def Right : Direction := ⟨3⟩

end Direction

structure Origin where
  val : ℤ
  deriving DecidableEq

def Origin.Top_Left : Origin := ⟨0⟩
def Origin.Abs_Centre : Origin := ⟨1⟩
def Origin.Mid_Bottom : Origin := ⟨2⟩

section Records

variable (F : Type)

@[ext] structure Vector2f where
  x : F
  y : F
  deriving DecidableEq

structure FloatRect where
  left : F
  top : F
  width : F
  height : F
  deriving DecidableEq

@[ext] structure C_Position where
  positionOld : Vector2f F
  position : Vector2f F
  elevation : ℕ

@[ext] structure C_State where
  state : EntityState

@[ext] structure C_Movable where
  velocity : Vector2f F
  velocityMax : F
  speed : Vector2f F
  acceleration : Vector2f F
  direction : Direction

@[ext] structure C_Controller where

@[ext] structure C_Collidable where
  aabb : FloatRect F
  offset : Vector2f F
  origin : Origin
  collidingOnX : Bool
  collidingOnY : Bool

@[ext] structure C_Client where
  clientID : ClientID

@[ext] structure C_Name where
  name : String

/-- `duration` is the timer of `C_TimedComponentBase`. -/
@[ext] structure C_Health where
  duration : Time
  health : ℤ
  maxHealth : ℤ
  hurtDuration : ℕ
  deathDuration : ℕ

@[ext] structure C_Attacker where
  duration : Time
  attackArea : FloatRect F
  offset : Vector2f F
  attacked : Bool
  knockback : F
  attackDuration : ℕ

/-- The members `new` leaves uninitialised, by component. -/
structure Uninitialised where
  state : EntityState
  health : ℤ
  maxHealth : ℤ
  attacked : Bool

end Records

/-! ### Constructors and setters -/

/-- Numerals the source divides by or places players at: as scalars they need these. -/
instance atLeastTwo_two : Nat.AtLeastTwo 2 := ⟨by decide⟩
instance atLeastTwo_sixtyFour : Nat.AtLeastTwo 64 := ⟨by decide⟩

section Scalars

variable {F : Type} [Zero F]

instance : Zero (Vector2f F) := ⟨⟨0, 0⟩⟩
instance : Zero (FloatRect F) := ⟨⟨0, 0, 0, 0⟩⟩

def C_Position.new : C_Position F := ⟨0, 0, 0⟩
def C_State.new (u : Uninitialised) : C_State := ⟨u.state⟩
def C_Movable.new : C_Movable F := ⟨0, 0, 0, 0, ⟨0⟩⟩
def C_Collidable.new : C_Collidable F := ⟨0, 0, .Mid_Bottom, false, false⟩
def C_Client.new : C_Client := ⟨Network.NullID⟩
def C_Name.new : C_Name := ⟨""⟩
def C_Health.new (u : Uninitialised) : C_Health := ⟨0, u.health, u.maxHealth, 0, 0⟩
def C_Attacker.new (u : Uninitialised) : C_Attacker F := ⟨0, 0, 0, u.attacked, 0, 0⟩

end Scalars

variable {F : Type}

def C_Position.setPosition (v : Vector2f F) (c : C_Position F) : C_Position F :=
  { c with positionOld := c.position, position := v }

def C_Position.setElevation (elevation : ℕ) (c : C_Position F) : C_Position F :=
  { c with elevation := elevation }

def C_Position.moveBy [Add F] (v : Vector2f F) (c : C_Position F) : C_Position F :=
  { c with
    positionOld := c.position
    position := ⟨c.position.x + v.x, c.position.y + v.y⟩ }

def C_State.setState (s : EntityState) (_ : C_State) : C_State := ⟨s⟩

def C_Movable.setVelocity (v : Vector2f F) (c : C_Movable F) : C_Movable F :=
  { c with velocity := v }

def C_Movable.setDirection (d : Direction) (c : C_Movable F) : C_Movable F :=
  { c with direction := d }

def C_Movable.move [Add F] [Sub F] (d : Direction) (c : C_Movable F) : C_Movable F :=
  if d = .Left then { c with acceleration := { c.acceleration with
    x := c.acceleration.x - c.speed.x } }
  else if d = .Right then { c with acceleration := { c.acceleration with
    x := c.acceleration.x + c.speed.x } }
  else if d = .Up then { c with acceleration := { c.acceleration with
    y := c.acceleration.y - c.speed.y } }
  else if d = .Down then { c with acceleration := { c.acceleration with
    y := c.acceleration.y + c.speed.y } }
  else c

section Motion

variable [Field F] [LinearOrder F]

/-- `addVelocity` in one direction: the sum, cut off at the maximum. -/
def C_Movable.limited (velocityMax v : F) : F :=
  if velocityMax < |v| then velocityMax * (v / |v|) else v

def C_Movable.addVelocity (v : Vector2f F) (c : C_Movable F) : C_Movable F :=
  { c with velocity :=
      ⟨limited c.velocityMax (c.velocity.x + v.x), limited c.velocityMax (c.velocity.y + v.y)⟩ }

def C_Movable.setAcceleration (v : Vector2f F) (c : C_Movable F) : C_Movable F :=
  { c with acceleration := v }

/-- `applyFriction` in one direction. -/
def C_Movable.slowed (v friction : F) : F :=
  if v ≠ 0 ∧ friction ≠ 0 then
    if |v| - |friction| < 0 then 0
    else v + if 0 < v then friction * -1 else friction
  else v

def C_Movable.applyFriction (friction : Vector2f F) (c : C_Movable F) : C_Movable F :=
  { c with velocity := ⟨slowed c.velocity.x friction.x, slowed c.velocity.y friction.y⟩ }

/-- The box of an entity at `v`. An origin that is no enumerator leaves it where it is. -/
def C_Collidable.setPosition (v : Vector2f F) (c : C_Collidable F) : C_Collidable F :=
  if c.origin = .Top_Left then
    { c with aabb := { c.aabb with
      left := v.x + c.offset.x
      top := v.y + c.offset.y } }
  else if c.origin = .Abs_Centre ∨ c.origin = .Mid_Bottom then
    { c with aabb := { c.aabb with
      left := v.x - c.aabb.width / 2 + c.offset.x
      top := v.y - c.aabb.height / 2 + c.offset.y } }
  else c

def C_Collidable.resetCollisionFlags (c : C_Collidable F) : C_Collidable F :=
  { c with
    collidingOnX := false
    collidingOnY := false }

def C_Collidable.collideOnX (c : C_Collidable F) : C_Collidable F := { c with collidingOnX := true }
def C_Collidable.collideOnY (c : C_Collidable F) : C_Collidable F := { c with collidingOnY := true }

end Motion

def C_Client.setClientID (client : ClientID) (_ : C_Client) : C_Client := ⟨client⟩

def C_Name.setName (name : String) (_ : C_Name) : C_Name := ⟨name⟩

def C_Health.setHealth (h : ℤ) (c : C_Health) : C_Health := { c with health := h }
def C_Health.resetHealth (c : C_Health) : C_Health := { c with health := c.maxHealth }
def C_Health.addToTimer (t : Time) (c : C_Health) : C_Health :=
  { c with duration := c.duration + t }
def C_Health.reset (c : C_Health) : C_Health := { c with duration := .milliseconds 0 }

def C_Attacker.setAttacked (b : Bool) (c : C_Attacker F) : C_Attacker F := { c with attacked := b }
def C_Attacker.setAreaPosition (v : Vector2f F) (c : C_Attacker F) : C_Attacker F :=
  { c with attackArea := { c.attackArea with left := v.x, top := v.y } }
def C_Attacker.addToTimer (t : Time) (c : C_Attacker F) : C_Attacker F :=
  { c with duration := c.duration + t }
def C_Attacker.reset (c : C_Attacker F) : C_Attacker F := { c with duration := .milliseconds 0 }

/-! ### `C_Base` -/

variable (F) in
/-- An object of some class derived from `C_Base`. -/
inductive C_Base
  | position (c : C_Position F)
  | state (c : C_State)
  | movable (c : C_Movable F)
  | controller (c : C_Controller)
  | collidable (c : C_Collidable F)
  | client (c : C_Client)
  | health (c : C_Health)
  | name (c : C_Name)
  | attacker (c : C_Attacker F)

/-- The type each class hands to the constructor of `C_Base`. -/
def C_Base.getType : C_Base F → Component
  | .position _ => .Position
  | .state _ => .State
  | .movable _ => .Movable
  | .controller _ => .Controller
  | .collidable _ => .Collidable
  | .client _ => .Client
  | .health _ => .Health
  | .name _ => .Name
  | .attacker _ => .Attacker

/-- `T` is one of the classes derived from `C_Base`; `cast` is the dynamic cast to it. -/
class CompType (F : Type) (T : Type) where
  tag : Component
  wrap : T → C_Base F
  cast : C_Base F → Option T
  getType_wrap : ∀ c, (wrap c).getType = tag
  cast_wrap : ∀ c, cast (wrap c) = some c
  exists_wrap : ∀ b : C_Base F, b.getType = tag → ∃ c, b = wrap c

attribute [simp] CompType.getType_wrap CompType.cast_wrap

instance : CompType F (C_Position F) where
  tag := .Position
  wrap := .position
  cast := fun | .position c => some c | _ => none
  getType_wrap _ := rfl
  cast_wrap _ := rfl
  exists_wrap b h := by cases b <;> first | exact ⟨_, rfl⟩ | exact nomatch h

instance : CompType F C_State where
  tag := .State
  wrap := .state
  cast := fun | .state c => some c | _ => none
  getType_wrap _ := rfl
  cast_wrap _ := rfl
  exists_wrap b h := by cases b <;> first | exact ⟨_, rfl⟩ | exact nomatch h

instance : CompType F (C_Movable F) where
  tag := .Movable
  wrap := .movable
  cast := fun | .movable c => some c | _ => none
  getType_wrap _ := rfl
  cast_wrap _ := rfl
  exists_wrap b h := by cases b <;> first | exact ⟨_, rfl⟩ | exact nomatch h

instance : CompType F C_Controller where
  tag := .Controller
  wrap := .controller
  cast := fun | .controller c => some c | _ => none
  getType_wrap _ := rfl
  cast_wrap _ := rfl
  exists_wrap b h := by cases b <;> first | exact ⟨_, rfl⟩ | exact nomatch h

instance : CompType F (C_Collidable F) where
  tag := .Collidable
  wrap := .collidable
  cast := fun | .collidable c => some c | _ => none
  getType_wrap _ := rfl
  cast_wrap _ := rfl
  exists_wrap b h := by cases b <;> first | exact ⟨_, rfl⟩ | exact nomatch h

instance : CompType F C_Client where
  tag := .Client
  wrap := .client
  cast := fun | .client c => some c | _ => none
  getType_wrap _ := rfl
  cast_wrap _ := rfl
  exists_wrap b h := by cases b <;> first | exact ⟨_, rfl⟩ | exact nomatch h

instance : CompType F C_Health where
  tag := .Health
  wrap := .health
  cast := fun | .health c => some c | _ => none
  getType_wrap _ := rfl
  cast_wrap _ := rfl
  exists_wrap b h := by cases b <;> first | exact ⟨_, rfl⟩ | exact nomatch h

instance : CompType F C_Name where
  tag := .Name
  wrap := .name
  cast := fun | .name c => some c | _ => none
  getType_wrap _ := rfl
  cast_wrap _ := rfl
  exists_wrap b h := by cases b <;> first | exact ⟨_, rfl⟩ | exact nomatch h

instance : CompType F (C_Attacker F) where
  tag := .Attacker
  wrap := .attacker
  cast := fun | .attacker c => some c | _ => none
  getType_wrap _ := rfl
  cast_wrap _ := rfl
  exists_wrap b h := by cases b <;> first | exact ⟨_, rfl⟩ | exact nomatch h

end Sfrpg
