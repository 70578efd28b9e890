import Mathlib.Algebra.Order.Group.Unbundled.Abs
import Sfrpg.Map
import Sfrpg.Systems

/-!
What a tick does: the updates of the systems, and the loop that hands out the events.

`SystemManager` goes through its systems, and through its event queues, in an order of a hash
table; both orders are arguments here. The update of `S_Timers` is with its handlers.
-/

namespace Sfrpg

open Lib Lib.Word

variable {F : Type} [Field F] [LinearOrder F] [FloorRing F]

/-! ### `S_Network` -/

namespace S_Network

/-- The messages `update` sends for one input. -/
def requests (e : EntityId) (player : PlayerInput) : List Message :=
  (if player.movedX ≠ 0 then
    [{ Message.to .Move e with
      int := if 0 < player.movedX then Direction.Right.val else Direction.Left.val }] else []) ++
  (if player.movedY ≠ 0 then
    [{ Message.to .Move e with
      int := if 0 < player.movedY then Direction.Down.val else Direction.Up.val }] else []) ++
  if player.attacking then [.to .Attack e] else []

/-- One pass of the loop of `update`. Reading the input of an entity creates it. -/
def updateOne (w : Ecs F) (e : EntityId) : Outcome (Ecs F) :=
  match w.input.lookup e with
  | some player => (requests e player).foldlM (fun w m => dispatch m w) w
  | none => pure { w with input := w.input.insert e ⟨0, 0, false⟩ }

def update (w : Ecs F) : Outcome (Ecs F) := (w.members .Network).foldlM updateOne w

end S_Network

/-! ### `S_State` -/

namespace S_State

def updateOne (w : Ecs F) (e : EntityId) : Outcome (Ecs F) := do
  let state ← deref (w.getComponent C_State e)
  if state.state ≠ .Walking then pure w else dispatch (.to .Is_Moving e) w

def update (w : Ecs F) : Outcome (Ecs F) := (w.members .State).foldlM updateOne w

end S_State

/-! ### `S_Movement` -/

namespace S_Movement

/-- The value of the expression returned. The source returns a reference to it, and it is a
temporary on either path: a tile's friction is copied, since the other arm is no lvalue. -/
def getTileFriction (map : Map F) (layer x y : ℕ) : Vector2f F :=
  match map.tileFrom x y layer with
  | some tile => tile.properties.friction
  | none => 0

def movementStep (S : Setting F) (dT : F) (mov : C_Movable F) (pos : C_Position F) :
    C_Movable F :=
  let coefficient := getTileFriction S.map pos.elevation
    (toUInt32 ⌊pos.position.x / Sheet.Tile_Size⌋).toNat
    (toUInt32 ⌊pos.position.y / Sheet.Tile_Size⌋).toNat
  let friction : Vector2f F := ⟨mov.speed.x * coefficient.x, mov.speed.y * coefficient.y⟩
  let mov := mov.addVelocity ⟨mov.acceleration.x * dT, mov.acceleration.y * dT⟩
  let mov := mov.setAcceleration 0
  let mov := mov.applyFriction ⟨friction.x * dT, friction.y * dT⟩
  let magnitude := S.sqrt (mov.velocity.x * mov.velocity.x + mov.velocity.y * mov.velocity.y)
  if magnitude ≤ mov.velocityMax then mov
  else mov.setVelocity ⟨mov.velocity.x / magnitude * mov.velocityMax,
    mov.velocity.y / magnitude * mov.velocityMax⟩

def updateOne (S : Setting F) (dT : F) (w : Ecs F) (e : EntityId) : Outcome (Ecs F) := do
  let mov ← deref (w.getComponent (C_Movable F) e)
  let pos ← deref (w.getComponent (C_Position F) e)
  let mov := movementStep S dT mov pos
  pure ((w.setComponent e mov).setComponent e (pos.moveBy mov.velocity))

def update (S : Setting F) (dT : F) (w : Ecs F) : Outcome (Ecs F) :=
  (w.members .Movement).foldlM (updateOne S dT) w

end S_Movement

/-! ### `S_Collision` -/

namespace S_Collision

/-- `checkOutOfBounds` in one direction: where the coordinate is put back to. -/
def clamped (size : ℕ) (x : F) : Option F :=
  if x < 0 then some 0 else if Map.extent size < x then some (Map.extent size) else none

def checkOutOfBounds (map : Map F) (pos : C_Position F) (col : C_Collidable F) :
    C_Position F × C_Collidable F :=
  let (pos, col) := match clamped map.maxMapSize.x pos.position.x with
    | none => (pos, col)
    | some x =>
      let pos := pos.setPosition ⟨x, pos.position.y⟩
      (pos, col.setPosition pos.position)
  match clamped map.maxMapSize.y pos.position.y with
  | none => (pos, col)
  | some y =>
    let pos := pos.setPosition ⟨pos.position.x, y⟩
    (pos, col.setPosition pos.position)

/-- The first layer with a solid tile at `x`, `y` that the box overlaps. -/
def solidAt (map : Map F) (entityAABB : FloatRect F) (x y : ℤ) : Option (CollisionElement F) :=
  let tx := (toUInt32 x).toNat
  let ty := (toUInt32 y).toNat
  let tileAABB : FloatRect F := ⟨Map.extent tx, Map.extent ty, Sheet.Tile_Size, Sheet.Tile_Size⟩
  let area := entityAABB.overlap tileAABB
  (List.range Sheet.Num_Layers).findSome? fun layer =>
    match map.getTile tx ty layer with
    | none => none
    | some tile => if tile.solid ∧ area ≠ 0 then some ⟨area, tileAABB⟩ else none

/-- The integers from `a` to `b`. -/
def between (a b : ℤ) : List ℤ := (List.range (b + 1 - a).toNat).map fun i => a + i

/-- The solid tiles the box overlaps, the largest overlap first. -/
def collisions (S : Setting F) (entityAABB : FloatRect F) : List (CollisionElement F) :=
  let fromX := ⌊entityAABB.left / Sheet.Tile_Size⌋
  let toX := ⌊(entityAABB.left + entityAABB.width) / Sheet.Tile_Size⌋
  let fromY := ⌊entityAABB.top / Sheet.Tile_Size⌋
  let toY := ⌊(entityAABB.top + entityAABB.height) / Sheet.Tile_Size⌋
  S.sort ((between fromX toX).flatMap fun x =>
    (between fromY toY).filterMap (solidAt S.map entityAABB x))

/-- One pass of the loop that pushes the entity out of the tiles, with the event it adds. -/
def pushOut (pos : C_Position F) (col : C_Collidable F) (bounds : FloatRect F) :
    C_Position F × C_Collidable F × EntityEvent :=
  let box := col.aabb
  let xDiff := (box.left + box.width / 2) - (bounds.left + bounds.width / 2)
  let yDiff := (box.top + box.height / 2) - (bounds.top + bounds.height / 2)
  if |yDiff| < |xDiff| then
    let resolve := if 0 < xDiff then bounds.left + Sheet.Tile_Size - box.left
      else -(box.left + box.width - bounds.left)
    let pos := pos.moveBy ⟨resolve, 0⟩
    (pos, (col.setPosition pos.position).collideOnX, .Colliding_X)
  else
    let resolve := if 0 < yDiff then bounds.top + Sheet.Tile_Size - box.top
      else -(box.top + box.height - bounds.top)
    let pos := pos.moveBy ⟨0, resolve⟩
    (pos, (col.setPosition pos.position).collideOnY, .Colliding_Y)

/-- Position and box after `mapCollisions`, and the events added on the way. -/
def mapCollisions (S : Setting F) (pos : C_Position F) (col : C_Collidable F) :
    C_Position F × C_Collidable F × List EntityEvent :=
  (collisions S col.aabb).foldl (fun (pos, col, events) c =>
    let (pos, col, event) := pushOut pos col c.tileBounds
    (pos, col, events ++ [event])) (pos, col, [])

/-- One pass of the loop of `update`. -/
def updateOne (S : Setting F) (w : Ecs F) (e : EntityId) : Outcome (Ecs F) := do
  let pos ← deref (w.getComponent (C_Position F) e)
  let col ← deref (w.getComponent (C_Collidable F) e)
  let (pos, col) := checkOutOfBounds S.map pos col.resetCollisionFlags
  let (pos, col, events) := if w.hasEntity .Collision e then mapCollisions S pos col
    else (pos, col, [])
  let w := (w.setComponent e pos).setComponent e col
  pure (events.foldl (fun w event => w.addEvent e event.id) w)

/-- `a` hits `v` where the area of its attack meets the box of `v`. -/
def hits (attacker : Option (C_Attacker F)) (col : C_Collidable F) : Bool :=
  match attacker with
  | none => false
  | some a => a.attackArea.intersects col.aabb

def attack (a v : EntityId) : Message := ⟨.Being_Attacked, a, v, 0⟩

/-- The message for one side of a pair, sent by `dispatch`. -/
def strike (dispatch : Dispatch F) (a v : EntityId) (w : Ecs F) : Outcome (Ecs F) := do
  let col ← deref (w.getComponent (C_Collidable F) v)
  if hits (w.getComponent (C_Attacker F) a) col then dispatch (attack a v) w else pure w

/-- The pairs of a list, in the order of the two loops of `entityCollisions`. -/
def pairs : List EntityId → List (EntityId × EntityId)
  | [] => []
  | e :: l => l.map (fun e' => (e, e')) ++ pairs l

/-- One pass of `entityCollisions`. The boxes are dereferenced before anything else. -/
def collidePair (dispatch : Dispatch F) (w : Ecs F) (p : EntityId × EntityId) :
    Outcome (Ecs F) := do
  let _ ← deref (w.getComponent (C_Collidable F) p.1)
  let _ ← deref (w.getComponent (C_Collidable F) p.2)
  let w ← strike dispatch p.1 p.2 w
  strike dispatch p.2 p.1 w

def entityCollisions (dispatch : Dispatch F) (w : Ecs F) : Outcome (Ecs F) :=
  (pairs (w.members .Collision)).foldlM (collidePair dispatch) w

def update (S : Setting F) (w : Ecs F) : Outcome (Ecs F) := do
  let w ← (w.members .Collision).foldlM (updateOne S) w
  entityCollisions dispatch w

end S_Collision

/-! ### `S_Combat` -/

namespace S_Combat

def updateOne (w : Ecs F) (e : EntityId) : Outcome (Ecs F) :=
  match w.getComponent (C_Attacker F) e with
  | none => pure w
  | some attacker => do
    let area := attacker.attackArea
    let pos ← deref (w.getComponent (C_Position F) e)
    let mov ← deref (w.getComponent (C_Movable F) e)
    let offset : Vector2f F :=
      if mov.direction = .Left then { attacker.offset with x := attacker.offset.x - area.width / 2 }
      else if mov.direction = .Right then
        { attacker.offset with x := attacker.offset.x + area.width / 2 }
      else if mov.direction = .Up then
        { attacker.offset with y := attacker.offset.y - area.height / 2 }
      else if mov.direction = .Down then
        { attacker.offset with y := attacker.offset.y + area.height / 2 }
      else attacker.offset
    let corner : Vector2f F :=
      ⟨pos.position.x - area.width / 2, pos.position.y - area.height / 2⟩
    pure (w.setComponent e (attacker.setAreaPosition ⟨corner.x + offset.x, corner.y + offset.y⟩))

def update (w : Ecs F) : Outcome (Ecs F) := (w.members .Combat).foldlM updateOne w

end S_Combat

/-! ### `SystemManager` -/

def update (S : Setting F) (dT : F) (sys : System) (w : Ecs F) : Outcome (Ecs F) :=
  match sys with
  | .Network => S_Network.update w
  | .Movement => S_Movement.update S dT w
  | .Control => pure w
  | .State => S_State.update w
  | .Collision => S_Collision.update S w
  | .Combat => S_Combat.update w
  | .Timers => S_Timers.update dT w

/-- The inner loop of `handleEvents`, with at most `n` events still to come. -/
def drain (systems : List System) (e : EntityId) : ℕ → Ecs F → Outcome (Ecs F)
  | 0, w => if (w.events.lookup e).getD [] = [] then pure w else throw .outOfFuel
  | n + 1, w =>
    if (w.events.lookup e).getD [] = [] then pure w
    else processEvent systems e w >>= drain systems e n

/-- `handleEvents`, with at most `n` passes of its inner loop for each queue. -/
def handleEventsN (n : ℕ) (systems : List System) (keys : List EntityId) (w : Ecs F) :
    Outcome (Ecs F) :=
  keys.foldlM (fun w e => drain systems e n w) w

/-- The events of the longest queue. -/
def Ecs.backlog (w : Ecs F) : ℕ :=
  (w.events.keys.map fun e => ((w.events.lookup e).getD []).length).foldr max 0

/-- As many passes as the longest queue has events, which is enough. -/
def handleEvents (systems : List System) (keys : List EntityId) (w : Ecs F) : Outcome (Ecs F) :=
  handleEventsN w.backlog systems keys w

/-- `SystemManager::update`. -/
def tick (S : Setting F) (dT : F) (systems : List System) (keys : Ecs F → List EntityId)
    (w : Ecs F) : Outcome (Ecs F) := do
  let w ← systems.foldlM (fun w sys => update S dT sys w) w
  handleEvents systems (keys w) w

end Sfrpg
