import Mathlib.Algebra.Order.Floor.Defs
import Mathlib.Algebra.Field.Defs
import Sfrpg.Ecs

/-!
The message bus and the handlers of the seven systems.

A handler may dispatch messages in turn, so each takes the dispatcher it calls as an argument,
and `dispatch` ties the knot with a bound on the depth of nesting. What the source leaves
undefined is a fault: a null pointer dereferenced, or a variable read that nobody has set.
Arithmetic on coordinates is exact.
-/

namespace Sfrpg

open Lib Lib.Word

structure EntityMessage where
  id : ℕ
  deriving DecidableEq

namespace EntityMessage

def Move : EntityMessage := ⟨0⟩
def Is_Moving : EntityMessage := ⟨1⟩
def Direction_Changed : EntityMessage := ⟨4⟩
def Switch_State : EntityMessage := ⟨5⟩
def Attack : EntityMessage := ⟨6⟩
def Being_Attacked : EntityMessage := ⟨7⟩
def Hurt : EntityMessage := ⟨8⟩
def Respawn : EntityMessage := ⟨10⟩
def Removed_Entity : EntityMessage := ⟨11⟩

end EntityMessage

structure Message where
  type : EntityMessage
  sender : EntityId
  receiver : EntityId
  int : ℤ

/-- A message with a receiver. Nobody reads the members left unset. -/
def Message.to (type : EntityMessage) (receiver : EntityId) : Message := ⟨type, 0, receiver, 0⟩

inductive Fault
  | nullDeref
  | uninitialised
  | outOfFuel
  deriving DecidableEq

abbrev Outcome := Except Fault

abbrev Dispatch (F : Type) := Message → Ecs F → Outcome (Ecs F)

/-- A pointer used without a check. -/
def deref {α : Type} : Option α → Outcome α
  | none => .error .nullDeref
  | some a => .ok a

variable {F : Type} [Field F] [LinearOrder F] [FloorRing F]

/-! ### `S_State` -/

namespace S_State

def changeState (dispatch : Dispatch F) (e : EntityId) (l_state : EntityState) (force : Bool)
    (w : Ecs F) : Outcome (Ecs F) := do
  let state ← deref (w.getComponent C_State e)
  if l_state = state.state then pure w
  else if force = false ∧ state.state = .Dying then pure w
  else
    let w := w.setComponent e (state.setState l_state)
    dispatch { Message.to .Switch_State e with int := l_state.val } w

/-- The event a move in a direction raises; the variable is unset for any other integer. -/
def movingEvent (direction : ℤ) : Outcome EntityEvent :=
  if direction = Direction.Left.val then pure .Moving_Left
  else if direction = Direction.Right.val then pure .Moving_Right
  else if direction = Direction.Up.val then pure .Moving_Up
  else if direction = Direction.Down.val then pure .Moving_Down
  else throw .uninitialised

def notify (dispatch : Dispatch F) (m : Message) (w : Ecs F) : Outcome (Ecs F) :=
  if ¬ w.hasEntity .State m.receiver then pure w
  else if m.type = .Move then do
    let state ← deref (w.getComponent C_State m.receiver)
    if state.state = .Attacking ∨ state.state = .Dying then pure w
    else
      let e ← movingEvent m.int
      changeState dispatch m.receiver .Walking false (w.addEvent m.receiver e.id)
  else if m.type = .Attack then do
    let state ← deref (w.getComponent C_State m.receiver)
    if state.state ≠ .Dying ∧ state.state ≠ .Attacking then
      let w := w.addEvent m.receiver EntityEvent.Began_Attacking.id
      changeState dispatch m.receiver .Attacking false w
    else pure w
  else if m.type = .Hurt then do
    let state ← deref (w.getComponent C_State m.receiver)
    if state.state ≠ .Dying then changeState dispatch m.receiver .Hurt false w else pure w
  else if m.type = .Switch_State then changeState dispatch m.receiver ⟨m.int⟩ false w
  else pure w

def handleEvent (dispatch : Dispatch F) (e : EntityId) (event : EntityEvent) (w : Ecs F) :
    Outcome (Ecs F) :=
  if event = .Became_Idle then changeState dispatch e .Idle false w else pure w

end S_State

/-! ### `S_Combat` -/

namespace S_Combat

/-- The velocity a hit from an attacker that faces `direction` gives. -/
def knockbackVelocity (direction : Direction) (knockback : F) : Vector2f F :=
  let knockback := if direction = .Left ∨ direction = .Up then -knockback else knockback
  if direction = .Left ∨ direction = .Right then ⟨knockback, 0⟩ else ⟨0, knockback⟩

def notify (dispatch : Dispatch F) (m : Message) (w : Ecs F) : Outcome (Ecs F) :=
  if ¬ w.hasEntity .Combat m.receiver ∨ ¬ w.hasEntity .Combat m.sender then pure w
  else if m.type = .Being_Attacked then
    match w.getComponent C_Health m.receiver, w.getComponent (C_Attacker F) m.sender with
    | some victim, some attacker =>
      if attacker.attacked then pure w
      else do
        let health := if victim.health > 1 then victim.health - 1 else 0
        let w := w.setComponent m.receiver (victim.setHealth health)
        let w := w.setComponent m.sender (attacker.setAttacked true)
        let w ← if health = 0 then S_State.changeState dispatch m.receiver .Dying true w
          else dispatch (.to .Hurt m.receiver) w
        match w.getComponent (C_Movable F) m.sender with
        | none => pure w
        | some mov =>
          let velocity := knockbackVelocity mov.direction attacker.knockback
          let target ← deref (w.getComponent (C_Movable F) m.receiver)
          pure (w.setComponent m.receiver (target.setVelocity velocity))
    | _, _ => pure w
  else pure w

end S_Combat

/-! ### `S_Movement` and `S_Control` -/

namespace S_Movement

def notify (m : Message) (w : Ecs F) : Outcome (Ecs F) :=
  if ¬ w.hasEntity .Movement m.receiver then pure w
  else if m.type = .Is_Moving then do
    let mov ← deref (w.getComponent (C_Movable F) m.receiver)
    if mov.velocity ≠ 0 then pure w
    else pure (w.addEvent m.receiver EntityEvent.Became_Idle.id)
  else pure w

def stopX (e : EntityId) (w : Ecs F) : Outcome (Ecs F) := do
  let mov ← deref (w.getComponent (C_Movable F) e)
  pure (w.setComponent e (mov.setVelocity ⟨0, mov.velocity.y⟩))

def stopY (e : EntityId) (w : Ecs F) : Outcome (Ecs F) := do
  let mov ← deref (w.getComponent (C_Movable F) e)
  pure (w.setComponent e (mov.setVelocity ⟨mov.velocity.x, 0⟩))

def setDirection (dispatch : Dispatch F) (e : EntityId) (direction : Direction) (w : Ecs F) :
    Outcome (Ecs F) := do
  let mov ← deref (w.getComponent (C_Movable F) e)
  let w := w.setComponent e (mov.setDirection direction)
  dispatch { Message.to .Direction_Changed e with int := direction.val } w

/-- Turning up or down waits until the entity has stopped moving sideways. -/
def setVertical (dispatch : Dispatch F) (e : EntityId) (direction : Direction) (w : Ecs F) :
    Outcome (Ecs F) := do
  let mov ← deref (w.getComponent (C_Movable F) e)
  if mov.velocity.x = 0 then setDirection dispatch e direction w else pure w

def handleEvent (dispatch : Dispatch F) (e : EntityId) (event : EntityEvent) (w : Ecs F) :
    Outcome (Ecs F) :=
  if ¬ w.hasEntity .Movement e then pure w
  else if event = .Colliding_X then stopX e w
  else if event = .Colliding_Y then stopY e w
  else if event = .Moving_Left then setDirection dispatch e .Left w
  else if event = .Moving_Right then setDirection dispatch e .Right w
  else if event = .Moving_Up then setVertical dispatch e .Up w
  else if event = .Moving_Down then setVertical dispatch e .Down w
  else pure w

end S_Movement

namespace S_Control

def moveEntity (e : EntityId) (direction : Direction) (w : Ecs F) : Outcome (Ecs F) := do
  let mov ← deref (w.getComponent (C_Movable F) e)
  pure (w.setComponent e (mov.move direction))

def handleEvent (e : EntityId) (event : EntityEvent) (w : Ecs F) : Outcome (Ecs F) :=
  if event = .Moving_Left then moveEntity e .Left w
  else if event = .Moving_Right then moveEntity e .Right w
  else if event = .Moving_Up then moveEntity e .Up w
  else if event = .Moving_Down then moveEntity e .Down w
  else pure w

end S_Control

/-! ### `S_Network` -/

namespace S_Network

/-- The packet that tells the clients who was hurt. -/
def hurtPacket (e : EntityId) : Packet := (stampPacket .Hurt .empty).putInt32 e

def notify (m : Message) (w : Ecs F) : Outcome (Ecs F) :=
  if ¬ w.hasEntity .Network m.receiver then pure w
  else if m.type = .Removed_Entity then pure { w with input := w.input.erase m.receiver }
  else if m.type = .Hurt then
    pure { w with broadcasts := w.broadcasts ++ [hurtPacket m.receiver] }
  else if m.type = .Respawn then
    match w.getComponent (C_Position F) m.receiver with
    | none => pure w
    | some pos => pure (w.setComponent m.receiver ((pos.setPosition ⟨64, 64⟩).setElevation 1))
  else pure w

end S_Network

/-! ### `MessageHandler` -/

/-- The subscriptions in the order the constructors make them. -/
def subscriptions : List (EntityMessage × System) :=
  [(.Hurt, .Network), (.Respawn, .Network), (.Removed_Entity, .Network), (.Is_Moving, .Movement),
    (.Move, .State), (.Switch_State, .State), (.Attack, .State), (.Hurt, .State),
    (.Being_Attacked, .Combat)]

def observers (type : EntityMessage) : List System :=
  (subscriptions.filter fun s => s.1 = type).map Prod.snd

def notify (dispatch : Dispatch F) (m : Message) (w : Ecs F) : System → Outcome (Ecs F)
  | .Network => S_Network.notify m w
  | .Movement => S_Movement.notify m w
  | .Control => pure w
  | .State => S_State.notify dispatch m w
  | .Collision => pure w
  | .Combat => S_Combat.notify dispatch m w
  | .Timers => pure w

/-- `dispatch`, with at most `n` dispatches under way at a time. -/
def dispatchN : ℕ → Dispatch F
  | 0, _, _ => throw .outOfFuel
  | n + 1, m, w => (observers m.type).foldlM (fun w sys => notify (dispatchN n) m w sys) w

/-- A hit nests three dispatches, and nothing nests more. -/
def dispatch : Dispatch F := dispatchN 4

/-! ### Events -/

def handleEvent (sys : System) (e : EntityId) (event : EntityEvent) (w : Ecs F) : Outcome (Ecs F) :=
  match sys with
  | .Movement => S_Movement.handleEvent dispatch e event w
  | .Control => S_Control.handleEvent e event w
  | .State => S_State.handleEvent dispatch e event w
  | _ => pure w

/-- One pass of the inner loop of `SystemManager::handleEvents`: the next event of `e` is taken
from its queue and handed to the systems that hold `e`, in the order `systems`. -/
def processEvent (systems : List System) (e : EntityId) (w : Ecs F) : Outcome (Ecs F) :=
  match w.events.lookup e with
  | some (event :: rest) =>
    systems.foldlM (fun w sys => if w.hasEntity sys e then handleEvent sys e ⟨event⟩ w else pure w)
      { w with events := w.events.insert e rest }
  | _ => pure w

/-! ### `S_Timers` -/

namespace S_Timers

/-- The conversion of a time step to whole milliseconds, towards zero. -/
def wholeMilliseconds (dT : F) : ℤ := if 0 ≤ dT then ⌊dT⌋ else ⌈dT⌉

/-- A timer compared with a duration: the signed reading is converted to unsigned. -/
def Below (timer : Time) (duration : ℕ) : Prop := toUInt32 timer.asMilliseconds < duration

instance (timer : Time) (duration : ℕ) : Decidable (Below timer duration) :=
  inferInstanceAs (Decidable (_ < _))

/-- One pass of the loop of `update`. -/
def updateOne (dT : F) (w : Ecs F) (e : EntityId) : Outcome (Ecs F) := do
  let step := Time.milliseconds (wholeMilliseconds dT)
  let state ← deref (w.getComponent C_State e)
  if state.state = .Hurt ∨ state.state = .Dying then
    let health ← deref (w.getComponent C_Health e)
    let health := health.addToTimer step
    if (state.state = .Hurt ∧ Below health.duration health.hurtDuration) ∨
        (state.state = .Dying ∧ Below health.duration health.deathDuration) then
      pure (w.setComponent e health)
    else
      let health := health.reset
      if state.state = .Dying then
        let w ← dispatch (.to .Respawn e) (w.setComponent e health.resetHealth)
        S_State.changeState dispatch e .Idle true w
      else S_State.changeState dispatch e .Idle true (w.setComponent e health)
  else if state.state = .Attacking then
    let attacker ← deref (w.getComponent (C_Attacker F) e)
    let attacker := attacker.addToTimer step
    if Below attacker.duration attacker.attackDuration then pure (w.setComponent e attacker)
    else
      let w := w.setComponent e (attacker.reset.setAttacked false)
      S_State.changeState dispatch e .Idle true w
  else pure w

def update (dT : F) (w : Ecs F) : Outcome (Ecs F) := (w.members .Timers).foldlM (updateOne dT) w

end S_Timers

end Sfrpg
