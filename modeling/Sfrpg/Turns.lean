import Sfrpg.EntityManager
import Sfrpg.Updates

/-!
Everything that can happen to the entities of the server, as the steps of one machine.

The store is called, a component is written (from an entity file, from the map, by the console or
by a packet handler) or the name of the file, a message or an event comes in, a player's input is
recorded, a system is updated, or the events are handed out. Which of these happens, in which order
and with what data, is up to the environment.
-/

namespace Sfrpg

open Lib Lib.Word

namespace Network

def PlayerUpdateDelim : ℤ := -1

end Network

namespace Ecs

variable {F : Type}

/-- The first component of the type of `b`, overwritten by `b`. -/
def overwrite (e : EntityId) (b : C_Base F) (w : Ecs F) : Ecs F :=
  { w with entities := Dict.modify e (fun d => { d with
      components := replaceFirst b.getType b d.components }) w.entities }

lemma setComponent_eq {T : Type} [CompType F T] (e : EntityId) (x : T) (w : Ecs F) :
    w.setComponent e x = w.overwrite e (CompType.wrap x) := by
  rw [setComponent, overwrite, CompType.getType_wrap]

def setType (e : EntityId) (type : String) (w : Ecs F) : Ecs F :=
  { w with entities := Dict.modify e (fun d => { d with type := type }) w.entities }

end Ecs

variable {F : Type} [Field F] [LinearOrder F] [FloorRing F]

/-! ### Players -/

namespace S_Network

/-- The search of `getEntityId`. It dereferences the client of every entity it passes. -/
def findEntity (client : ClientID) (w : Ecs F) : List EntityId → Outcome (Option EntityId)
  | [] => pure none
  | e :: l => do
    let c ← deref (w.getComponent C_Client e)
    if c.clientID = client then pure (some e) else findEntity client w l

def getEntityId (client : ClientID) (w : Ecs F) : Outcome EntityId := do
  let e ← findEntity client w (w.members .Network)
  pure (e.getD Network.NullID)

def getClientID (e : EntityId) (w : Ecs F) : Outcome ClientID :=
  if ¬ w.hasEntity .Network e then pure Network.NullID
  else do
    let c ← deref (w.getComponent C_Client e)
    pure c.clientID

def registerClientID (e : EntityId) (client : ClientID) (w : Ecs F) : Outcome (Ecs F × Bool) :=
  if ¬ w.hasEntity .Network e then pure (w, false)
  else do
    let c ← deref (w.getComponent C_Client e)
    pure (w.setComponent e (c.setClientID client), true)

/-- A message of an update packet. -/
inductive InputMessage
  | move (x y : ℤ)
  | attack (attackingState : ℤ)
  | other

/-- The `switch` of `updatePlayer`: the message of the code `m`, and the bytes still unread. The
variable an attack is read into is not initialised: `u` is what it holds. -/
def readMessage (u m : ℤ) (rest : List UInt8) : InputMessage × Packet.Unread :=
  if m = EntityMessage.Move.id then
    let (x, unread) := Packet.readInt32 0 (some rest)
    let (y, unread) := Packet.readInt32 0 unread
    (.move x y, unread)
  else if m = EntityMessage.Attack.id then
    let (attackingState, unread) := Packet.readInt8 u (some rest)
    (.attack attackingState, unread)
  else (.other, some rest)

/-- The loop of `updatePlayer`: the messages of the bytes still unread, up to the first that no
delimiter follows, at most `n`, and the bytes it leaves. -/
def readLoop (u : ℤ) : ℕ → List UInt8 → List InputMessage × Packet.Unread
  | 0, data => ([], some data)
  | n + 1, data =>
    match Packet.getInt8 data with
    | none => ([], some data)
    | some (m, rest) =>
      let (input, unread) := readMessage u m rest
      match Packet.readInt8 0 unread with
      | (delim, some rest) =>
        if delim = Network.PlayerUpdateDelim then
          let (inputs, unread) := readLoop u n rest
          (input :: inputs, unread)
        else ([input], some rest)
      | (_, none) => ([input], none)

def readMessages (u : ℤ) (n : ℕ) (data : List UInt8) : List InputMessage := (readLoop u n data).1

def record (player : PlayerInput) : InputMessage → PlayerInput
  | .move x y => { player with movedX := x, movedY := y }
  | .attack attackingState =>
    if attackingState ≠ 0 then { player with attacking := true } else player
  | .other => player

/-- The input an update packet leaves. Every message takes a byte at least. -/
def newInput (u : ℤ) (data : List UInt8) (player : PlayerInput) : PlayerInput :=
  (readMessages u data.length data).foldl record { player with attacking := false }

def updatePlayer (u : ℤ) (data : List UInt8) (client : ClientID) (w : Ecs F) :
    Outcome (Ecs F) := do
  let eid ← getEntityId client w
  if eid = -1 then pure w
  else if ¬ w.hasEntity .Network eid then pure w
  else
    let player := (w.input.lookup eid).getD ⟨0, 0, false⟩
    pure { w with input := w.input.insert eid (newInput u data player) }

end S_Network

/-! ### The machine -/

inductive Turn (F : Type)
  | store (call : Ecs.StoreCall)
  | write (e : EntityId) (b : C_Base F)
  | setType (e : EntityId) (type : String)
  | message (m : Message)
  | addEvent (e : EntityId) (event : EventID)
  | updatePlayer (u : ℤ) (data : List UInt8) (client : ClientID)
  | update (sys : System) (dT : F)
  | handleEvents (systems : List System) (keys : List EntityId)

def turn (S : Setting F) (w : Ecs F) : Turn F → Outcome (Ecs F)
  | .store call => Ecs.storeStep w call
  | .write e b => pure (w.overwrite e b)
  | .setType e type => pure (w.setType e type)
  | .message m => dispatch m w
  | .addEvent e event => pure (w.addEvent e event)
  | .updatePlayer u data client => S_Network.updatePlayer u data client w
  | .update sys dT => update S dT sys w
  | .handleEvents systems keys => handleEvents systems keys w

end Sfrpg
