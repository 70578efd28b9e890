import Sfrpg.Registry
import Sfrpg.Files

/-!
The world: the server, the entities of its players, and the packets that bring the two together.

A client registers when its `Connect` packet is handled: an entity is loaded for it, and the
client's id is written into a component of the entity. That component is all that ties the two
together. `clientLeave` searches for it, on a packet or as the server's timeout handler.

Each definition is a section that some thread runs without another one coming between. A listener
asks for the client of an endpoint before it takes the mutex again, so the rest of `handlePacket`
is also a section of its own, which may run with an answer that is out of date.
-/

namespace Sfrpg

open Lib Lib.Word Ecs

structure World (F : Type) where
  server : Server
  ecs : Ecs F

/-- What the surroundings make of one section: the answers of the transport, the entity files, what
uninitialised members and variables hold, and the bytes of a float in a packet. -/
structure Env (F : Type) where
  transport : Transport
  files : String → EntityFile
  uninitialised : Uninitialised
  unset : ℤ
  floatBytes : F → List UInt8

def Packet.putFloat {F : Type} (env : Env F) (x : F) (p : Packet) : Packet :=
  ⟨p.data ++ env.floatBytes x⟩

/-- A fault of the entities ends the program. -/
def orCrash {α : Type} : Outcome α → Except Crash α
  | .ok a => .ok a
  | .error f => .error (.fault f)

namespace World

variable {F : Type} [Field F] [LinearOrder F] [FloorRing F]

/-- The world constructed, before any map is loaded. -/
def start : World F := ⟨.start, .new F⟩

/-! ### Packets -/

omit [FloorRing F] in
def clientLeave (l_client : ClientID) (w : World F) : Except Crash (World F) := do
  let e ← orCrash (S_Network.getEntityId l_client w.ecs)
  let (ecs, _) ← orCrash (w.ecs.removeEntity e)
  pure { w with ecs := ecs }

/-- The reply to a `Connect` packet. -/
def connectPacket (env : Env F) (eid : EntityId) (pos : C_Position F) : Packet :=
  (((stampPacket .Connect .empty).putInt32 eid).putFloat env pos.position.x).putFloat env
    pos.position.y

/-- What `handlePacket` does for the entity of a new client. -/
def placePlayer (env : Env F) (cid : ClientID) (eid : EntityId) (name : String) (w : World F) :
    Except Crash (World F) :=
  match w.ecs.getComponent (C_Position F) eid with
  | none => pure w
  | some pos => do
    let pos := pos.setPosition ⟨64, 64⟩
    let ecs := w.ecs.setComponent eid pos
    let nameComponent ← orCrash (deref (ecs.getComponent C_Name eid))
    let ecs := ecs.setComponent eid (nameComponent.setName name)
    let (server, _) := w.server.send env.transport cid (connectPacket env eid pos)
    pure ⟨server, ecs⟩

/-- What `handlePacket` does for a client it has added. -/
def enterPlayer (env : Env F) (cid : ClientID) (name : String) (w : World F) :
    Except Crash (World F) := do
  let (ecs, eid) ← w.ecs.addEntityFile env.uninitialised "Player" (env.files "Player")
  if eid = -1 then pure { w with ecs := ecs } else
  let (ecs, _) ← orCrash (S_Network.registerClientID eid cid ecs)
  placePlayer env cid eid name { w with ecs := ecs }

/-- The branch of `handlePacket` for a `Connect` packet. -/
def connect (env : Env F) (ip : IpAddress) (port : PortNumber) (data : List UInt8) (w : World F) :
    Except Crash (World F) :=
  match Packet.getString data with
  | none => pure w
  | some (name, _) =>
    let (server, cid) := w.server.addClient .UDP ip port
    if cid = -1 then
      match server.sendTo env.transport ip port Server.disconnectPacket with
      | none => throw (.fault .nullDeref)
      | some (server, _) => pure { w with server := server }
    else enterPlayer env cid name { w with server := server }

/-- `handlePacket` once it has been told that `cid` is the client. -/
def handleFrom (env : Env F) (cid : ClientID) (ip : IpAddress) (port : PortNumber) (l_id : ℤ)
    (data : List UInt8) (w : World F) : Except Crash (World F) :=
  if 0 ≤ cid then
    if l_id = PacketType.Disconnect.id then w.clientLeave cid
    else if l_id = PacketType.Message.id then pure w
    else if l_id = PacketType.Player_Update.id then do
      let ecs ← orCrash (S_Network.updatePlayer env.unset data cid w.ecs)
      pure { w with ecs := ecs }
    else pure w
  else if l_id ≠ PacketType.Connect.id then pure w
  else w.connect env ip port data

def handlePacket (env : Env F) (ip : IpAddress) (port : PortNumber) (l_id : ℤ) (data : List UInt8)
    (w : World F) : Except Crash (World F) :=
  w.handleFrom env (w.server.getClientID ip port) ip port l_id data

/-! ### The listeners -/

/-- A packet that has arrived: malformed and unknown ones are dropped, a heartbeat is answered by
`heartbeat`, and any other goes to the handler. -/
def arrive (env : Env F) (ip : IpAddress) (port : PortNumber) (p : Packet)
    (heartbeat : Server → Server) (w : World F) : Except Crash (World F) :=
  match Packet.getInt8 p.data with
  | none => pure w
  | some (type, rest) =>
    if type < PacketType.Disconnect.id ∨ PacketType.OutOfBounds.id ≤ type then pure w
    else if type = PacketType.Heartbeat.id then pure { w with server := heartbeat w.server }
    else w.handlePacket env ip port type rest

def counted (p : Packet) (w : World F) : World F :=
  { w with server := { w.server with totalReceived := w.server.totalReceived + p.getDataSize } }

/-- One pass of the loop of `udpListen`. -/
def udpReceive (env : Env F) (ip : IpAddress) (port : PortNumber) (p : Packet) (w : World F) :
    Except Crash (World F) :=
  (w.counted p).arrive env ip port p (Server.udpHeartbeat ip port)

/-- One pass of the loop of `tcpListen` over the sockets. -/
def tcpReceive (env : Env F) (recv : ClientID → Option Server.Received)
    (acc : World F × List ClientID) (id : ClientID) : Except Crash (World F × List ClientID) :=
  match recv id with
  | none => pure acc
  | some r =>
    match acc.1.server.clientMap.lookup id with
    | none => pure acc
    | some info =>
      match r with
      | .packet p => do
        let w ← (acc.1.counted p).arrive env info.clientIP info.clientPORT p
          (Server.heartbeatReply id)
        pure (w, acc.2)
      | .disconnected =>
        pure ({ acc.1 with server := (acc.1.server.removeClient env.transport id).1 },
          acc.2 ++ [id])
      | .error => pure acc

/-- The branch of `tcpListen` that serves the ready sockets. -/
def tcpReady (env : Env F) (recv : ClientID → Option Server.Received) (w : World F) :
    Except Crash (World F) := do
  let (w, clientsToRemove) ← w.server.tcpClients.keys.foldlM (tcpReceive env recv) (w, [])
  pure { w with server := clientsToRemove.foldl Server.dropSocket w.server }

/-! ### Timeouts -/

/-- One pass of the loop of `Server::update`, with `clientLeave` as the timeout handler. -/
def updateClient (env : Env F) (w : World F) (id : ClientID) : Except Crash (World F) :=
  match w.server.clientMap.lookup id with
  | none => pure w
  | some info =>
    (if w.server.Expired info then w.clientLeave id else pure w) >>= fun w =>
      pure { w with server := w.server.updateClient env.transport id }

def sweep (env : Env F) (w : World F) : Except Crash (World F) :=
  w.server.clientMap.keys.foldlM (updateClient env) w

/-! ### Entities -/

/-- The packets the entities have broadcast, sent on. -/
def flush (env : Env F) (w : World F) : World F where
  server := w.ecs.broadcasts.foldl (fun s p => s.broadcast env.transport p Network.NullID) w.server
  ecs := { w.ecs with broadcasts := [] }

/-- An entity line of the map. -/
def loadEntity (env : Env F) (name : String) (keystream : StringStream) (w : World F) :
    Except Crash (World F) := do
  let (ecs, entityId) ← w.ecs.addEntityFile env.uninitialised name (env.files name)
  if entityId < 0 then pure { w with ecs := ecs } else
  match ecs.getComponent (C_Position F) entityId with
  | none => pure { w with ecs := ecs }
  | some position => pure { w with ecs := ecs.setComponent entityId (position.readIn keystream) }

/-- The console command `health`. -/
def setHealth (id : EntityId) (health : ℤ) (w : World F) : World F :=
  match w.ecs.getComponent C_Health id with
  | none => w
  | some h => { w with ecs := w.ecs.setComponent id (h.setHealth health) }

/-! ### The threads -/

/-- A section of the world. `Server::update`, `SystemManager::update` and the console command
`disconnectall` are given by the sections they consist of. -/
inductive Act (F : Type)
  | accept (n : ℕ) (ip : IpAddress) (port : PortNumber)
  | tcpReady (recv : ClientID → Option Server.Received)
  | udpReceive (ip : IpAddress) (port : PortNumber) (p : Packet)
  | handleFrom (cid : ClientID) (ip : IpAddress) (port : PortNumber) (l_id : ℤ) (data : List UInt8)
  | advance (dt : Time)
  | sweep
  | broadcast (p : Packet)
  | update (sys : System) (dT : F)
  | handleEvents (systems : List System) (keys : List EntityId)
  | loadEntity (name : String) (keystream : StringStream)
  | setHealth (id : EntityId) (health : ℤ)
  | clear
  | purge

def act (S : Setting F) (w : World F) : Env F × Act F → Except Crash (World F)
  | (_, .accept n ip port) => pure { w with server := w.server.accept n ip port }
  | (env, .tcpReady recv) => w.tcpReady env recv
  | (env, .udpReceive ip port p) => w.udpReceive env ip port p
  | (env, .handleFrom cid ip port l_id data) => w.handleFrom env cid ip port l_id data
  | (_, .advance dt) => pure { w with server := w.server.advance dt }
  | (env, .sweep) => w.sweep env
  | (env, .broadcast p) =>
    pure { w with server := w.server.broadcast env.transport p Network.NullID }
  | (env, .update sys dT) => do
    let ecs ← orCrash (Sfrpg.update S dT sys w.ecs)
    pure (flush env { w with ecs := ecs })
  | (env, .handleEvents systems keys) => do
    let ecs ← orCrash (Sfrpg.handleEvents systems keys w.ecs)
    pure (flush env { w with ecs := ecs })
  | (env, .loadEntity name keystream) => w.loadEntity env name keystream
  | (_, .setHealth id health) => pure (w.setHealth id health)
  | (_, .clear) => pure { w with server := w.server.clear }
  | (_, .purge) => pure { w with ecs := w.ecs.purge }

end World

end Sfrpg
