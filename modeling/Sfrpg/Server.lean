import Sfrpg.Lib.Dict
import Sfrpg.SfTime
import Sfrpg.Packet

/-!
The server: its registry of clients, its sockets, and the clock that drives heartbeats.

Each definition is one section of `Server` that runs under the client mutex, as a function of
the members it reads and writes. What the transport and the peers do is an argument: whether
a socket takes a packet, and what a ready socket delivers. A packet handler is code outside
the class; what it does to the server it does through public methods, so a run of it is a
list of such calls.

`log` records what went over the wire and who joined. No function reads it.
-/

namespace Sfrpg

open Lib Lib.Word

abbrev IpAddress := UInt32
abbrev PortNumber := UInt16
abbrev ClientID := ℤ

inductive NetworkProtocol
  | TCP | UDP
  deriving DecidableEq

namespace Network

def HighestTimestamp : ℤ := 2147483647
def ClientTimeout : ℤ := 10000
def NullID : ℤ := -1

end Network

def HEARTBEAT_INTERVAL : ℤ := 1000
def HEARTBEAT_RETRIES : ℕ := 5

@[ext] structure ClientInfo where
  protocol : NetworkProtocol
  clientIP : IpAddress
  clientPORT : PortNumber
  lastHeartbeat : Time
  heartbeatSent : Time
  heartbeatWaiting : Bool
  heartbeatRetry : ℕ
  ping : ℤ
  deriving DecidableEq

def ClientInfo.new (protocol : NetworkProtocol) (ip : IpAddress) (port : PortNumber)
    (time : Time) : ClientInfo where
  protocol := protocol
  clientIP := ip
  clientPORT := port
  lastHeartbeat := time
  heartbeatSent := 0
  heartbeatWaiting := false
  heartbeatRetry := 0
  ping := 0

def ClientInfo.at (ip : IpAddress) (port : PortNumber) (info : ClientInfo) : Bool :=
  info.clientIP = ip && info.clientPORT = port

/-- What the selector holds: the listening socket, or the socket of a connection. -/
inductive Handle
  | listener
  | socket (n : ℕ)
  deriving DecidableEq

/-- One entry of the history. A packet counts as sent when it reaches the transport, and
`accepted` is the transport's answer. -/
inductive LogEntry
  | joined (id : ClientID) (ip : IpAddress) (port : PortNumber)
  | sent (id : ClientID) (packet : Packet) (accepted : Bool)
  | reply (id : ClientID)
  deriving DecidableEq

@[ext] structure Server where
  selector : List Handle
  clientMap : Dict ClientID ClientInfo
  tcpClients : Dict ClientID ℕ
  running : Bool
  lastID : ℕ
  serverTime : Time
  totalSent : ℕ
  totalReceived : ℕ
  log : List LogEntry

/-- The heartbeat packets sent to `id` since its last accepted reply, or since it joined. The
history has its newest entry first. -/
def heartbeatsSince (id : ClientID) : List LogEntry → ℕ
  | [] => 0
  | .joined i _ _ :: l => if i = id then 0 else heartbeatsSince id l
  | .reply i :: l => if i = id then 0 else heartbeatsSince id l
  | .sent i p _ :: l =>
    (if i = id ∧ p.stamp = some PacketType.Heartbeat.id then 1 else 0) + heartbeatsSince id l

/-- The clients added, newest first, each with its endpoint. -/
def clientsAdded (l : List LogEntry) : List (ClientID × IpAddress × PortNumber) :=
  l.filterMap fun
    | .joined id ip port => some (id, ip, port)
    | _ => none

/-- Whether the transport takes what is sent to a client. -/
abbrev Transport := ClientID → Bool

namespace Server

/-- `start`, on a server just constructed. -/
def start : Server where
  selector := [.listener]
  clientMap := ∅
  tcpClients := ∅
  running := true
  lastID := 0
  serverTime := 0
  totalSent := 0
  totalReceived := 0
  log := []

/-! ### Sending -/

/-- The packet given to the socket of `id`, and counted if the socket takes it. -/
def deliver (tr : Transport) (id : ClientID) (packet : Packet) (s : Server) : Server × Bool :=
  ({ s with
      totalSent := if tr id then s.totalSent + packet.getDataSize else s.totalSent
      log := .sent id packet (tr id) :: s.log }, tr id)

def send (tr : Transport) (id : ClientID) (packet : Packet) (s : Server) : Server × Bool :=
  if !s.running then (s, false) else
  match s.clientMap.lookup id with
  | none => (s, false)
  | some info =>
    if info.protocol = .TCP ∧ id ∉ s.tcpClients then (s, false) else s.deliver tr id packet

/-- The loop `for (itr : m_clientMap)` that looks for an endpoint. -/
def findClient (ip : IpAddress) (port : PortNumber) (s : Server) : Option ClientID :=
  Dict.findKey (ClientInfo.at ip port) s.clientMap

/-- The overload of `send` for an endpoint. It dereferences the socket it looks up without a
check; `none` is the dereference of the end iterator. -/
def sendTo (tr : Transport) (ip : IpAddress) (port : PortNumber) (packet : Packet) (s : Server) :
    Option (Server × Bool) :=
  if !s.running then some (s, false) else
  match s.findClient ip port with
  | none => some (s, false)
  | some id =>
    match s.clientMap.lookup id with
    | none => some (s, false)
    | some info =>
      if info.protocol = .TCP ∧ id ∉ s.tcpClients then none else some (s.deliver tr id packet)

def broadcastOne (tr : Transport) (packet : Packet) (ignore : ClientID) (s : Server)
    (id : ClientID) : Server :=
  match s.clientMap.lookup id with
  | none => s
  | some info =>
    if id = ignore then s
    else if info.protocol = .TCP ∧ id ∉ s.tcpClients then s
    else (s.deliver tr id packet).1

def broadcast (tr : Transport) (packet : Packet) (ignore : ClientID) (s : Server) : Server :=
  if !s.running then s else s.clientMap.keys.foldl (broadcastOne tr packet ignore) s

/-! ### The registry -/

/-- `addClient` emplaces at the counter and returns the counter, also where the id is taken. -/
def addClient (protocol : NetworkProtocol) (ip : IpAddress) (port : PortNumber) (s : Server) :
    Server × ClientID :=
  if !s.running then (s, Network.NullID) else
  match s.findClient ip port with
  | some _ => (s, Network.NullID)
  | none =>
    let cid := toInt32 s.lastID
    ({ s with
        clientMap := Dict.emplace cid (.new protocol ip port s.serverTime) s.clientMap
        lastID := (s.lastID + 1) % 4294967296
        log := if cid ∈ s.clientMap then s.log else .joined cid ip port :: s.log }, cid)

def getClientID (ip : IpAddress) (port : PortNumber) (s : Server) : ClientID :=
  if !s.running then Network.NullID else (s.findClient ip port).getD Network.NullID

def disconnectPacket : Packet := stampPacket .Disconnect .empty

def removeClient (tr : Transport) (id : ClientID) (s : Server) : Server × Bool :=
  if !s.running then (s, false) else
  if id ∉ s.clientMap then (s, false) else
  let s := (s.send tr id disconnectPacket).1
  ({ s with clientMap := s.clientMap.erase id }, true)

/-- The overload of `removeClient` for an endpoint. -/
def removeClientAt (tr : Transport) (ip : IpAddress) (port : PortNumber) (s : Server) :
    Server × Bool :=
  if !s.running then (s, false) else
  match s.findClient ip port with
  | none => (s, false)
  | some id =>
    let s := (s.send tr id disconnectPacket).1
    ({ s with clientMap := s.clientMap.erase id }, true)

/-- The second section of `disconnectAll`. -/
def clear (s : Server) : Server := { s with clientMap := ∅, tcpClients := ∅ }

def disconnectAll (tr : Transport) (s : Server) : Server :=
  (s.broadcast tr disconnectPacket Network.NullID).clear

/-! ### Heartbeats -/

/-- The time since the last heartbeat, as `update` computes it. -/
def elapsed (s : Server) (info : ClientInfo) : ℤ :=
  s.serverTime.asMilliseconds - info.lastHeartbeat.asMilliseconds

/-- The test under which `update` drops a client. -/
def Expired (s : Server) (info : ClientInfo) : Prop :=
  HEARTBEAT_INTERVAL ≤ s.elapsed info ∧
    (Network.ClientTimeout ≤ s.elapsed info ∨ HEARTBEAT_RETRIES < info.heartbeatRetry)

instance (s : Server) (info : ClientInfo) : Decidable (s.Expired info) :=
  inferInstanceAs (Decidable (_ ∧ _))

/-- The test under which `update` sends a heartbeat to a client it keeps. -/
def HeartbeatDue (s : Server) (info : ClientInfo) : Prop :=
  HEARTBEAT_INTERVAL ≤ s.elapsed info ∧ info.heartbeatWaiting = false ∧
    HEARTBEAT_INTERVAL * (info.heartbeatRetry + 1) ≤ s.elapsed info

instance (s : Server) (info : ClientInfo) : Decidable (s.HeartbeatDue info) :=
  inferInstanceAs (Decidable (_ ∧ _ ∧ _))

def heartbeatPacket (s : Server) : Packet :=
  (stampPacket .Heartbeat .empty).putInt32 s.serverTime.asMilliseconds

/-- What `update` writes to the client it has sent a heartbeat. -/
def markSent (now : Time) (info : ClientInfo) : ClientInfo :=
  { info with
    heartbeatSent := if info.heartbeatRetry = 0 then now else info.heartbeatSent
    heartbeatWaiting := true
    heartbeatRetry := (info.heartbeatRetry + 1) % 65536 }

/-- One pass of the loop of `update`. The timeout handler is told the id and does not touch
the registry. -/
def updateClient (tr : Transport) (s : Server) (id : ClientID) : Server :=
  match s.clientMap.lookup id with
  | none => s
  | some info =>
    if s.Expired info then { s with clientMap := s.clientMap.erase id }
    else if s.HeartbeatDue info then
      let heartbeat := s.heartbeatPacket
      let t := (s.send tr id heartbeat).1
      { t with
        clientMap := Dict.modify id (markSent s.serverTime) t.clientMap
        totalSent := t.totalSent + heartbeat.getDataSize }
    else s

/-- What the wrap of the clock writes to every client. -/
def rebase (info : ClientInfo) : ClientInfo :=
  { info with
    lastHeartbeat := .milliseconds
      |info.lastHeartbeat.asMilliseconds - Network.HighestTimestamp| }

/-- The first half of `update`: the clock advances, and wraps once its reading is negative. -/
def advance (dt : Time) (s : Server) : Server :=
  let now := s.serverTime + dt
  if now.asMilliseconds < 0 then
    { s with
      serverTime := now - .milliseconds Network.HighestTimestamp
      clientMap := Dict.mapVals (fun _ => rebase) s.clientMap }
  else { s with serverTime := now }

/-- The second half of `update`: the loop over the clients. -/
def sweep (tr : Transport) (s : Server) : Server :=
  s.clientMap.keys.foldl (updateClient tr) s

def update (tr : Transport) (dt : Time) (s : Server) : Server :=
  if !s.running then s else (s.advance dt).sweep tr

/-- What a listener writes to the client whose heartbeat reply it accepts. -/
def markReply (now : Time) (info : ClientInfo) : ClientInfo :=
  { info with
    ping := toUInt32 (now.asMilliseconds - info.lastHeartbeat.asMilliseconds)
    heartbeatWaiting := false
    lastHeartbeat := now
    heartbeatRetry := 0 }

/-- A heartbeat packet that arrived from `id`: rejected where none is awaited. -/
def heartbeatReply (id : ClientID) (s : Server) : Server :=
  match s.clientMap.lookup id with
  | none => s
  | some info =>
    if info.heartbeatWaiting then
      { s with
        clientMap := Dict.modify id (markReply s.serverTime) s.clientMap
        log := .reply id :: s.log }
    else s

/-- The heartbeat branch of `udpListen`. -/
def udpHeartbeat (ip : IpAddress) (port : PortNumber) (s : Server) : Server :=
  match s.findClient ip port with
  | none => s
  | some id => s.heartbeatReply id

/-! ### The TCP listener -/

/-- A connection accepted on socket `n`. -/
def accept (n : ℕ) (ip : IpAddress) (port : PortNumber) (s : Server) : Server :=
  let s := { s with selector := .socket n :: s.selector }
  let (s, cid) := s.addClient .TCP ip port
  { s with tcpClients := Dict.emplace cid n s.tcpClients }

/-- What `receive` brings from a ready socket. -/
inductive Received
  | packet (p : Packet)
  | disconnected
  | error
  deriving DecidableEq

/-- A call a packet handler makes. -/
inductive Call
  | addClient (ip : IpAddress) (port : PortNumber)
  | removeClient (id : ClientID)
  | removeClientAt (ip : IpAddress) (port : PortNumber)
  | send (id : ClientID) (packet : Packet)
  | broadcast (packet : Packet) (ignore : ClientID)
  deriving DecidableEq

/-- Handlers register over UDP only; a TCP client is registered by `accept`. -/
def call (tr : Transport) (s : Server) : Call → Server
  | .addClient ip port => (s.addClient .UDP ip port).1
  | .removeClient id => (s.removeClient tr id).1
  | .removeClientAt ip port => (s.removeClientAt tr ip port).1
  | .send id packet => (s.send tr id packet).1
  | .broadcast packet ignore => s.broadcast tr packet ignore

/-- A packet received over TCP from `id`: malformed and unknown ones are dropped, a heartbeat
is a reply, and any other goes to the handler. -/
def handleTcp (tr : Transport) (calls : List Call) (id : ClientID) (p : Packet) (s : Server) :
    Server :=
  match Packet.getInt8 p.data with
  | none => s
  | some (type, _) =>
    if type < PacketType.Disconnect.id ∨ PacketType.OutOfBounds.id ≤ type then s
    else if type = PacketType.Heartbeat.id then s.heartbeatReply id
    else calls.foldl (call tr) s

/-- What the peers bring to one pass over the ready sockets: `recv id` is `none` where the
socket of `id` is not ready, and `calls id` is what the handler does with its packet. -/
structure Arrivals where
  recv : ClientID → Option Received
  calls : ClientID → List Call

/-- One pass of the loop over `m_tcpClients`; the second component is `clientsToRemove`. -/
def receiveOne (tr : Transport) (a : Arrivals) (acc : Server × List ClientID) (id : ClientID) :
    Server × List ClientID :=
  match a.recv id with
  | none => acc
  | some r =>
    if id ∉ acc.1.clientMap then acc else
    match r with
    | .packet p =>
      let s := { acc.1 with totalReceived := acc.1.totalReceived + p.getDataSize }
      (s.handleTcp tr (a.calls id) id p, acc.2)
    | .disconnected => ((acc.1.removeClient tr id).1, acc.2 ++ [id])
    | .error => acc

def dropSocket (s : Server) (id : ClientID) : Server :=
  { s with tcpClients := s.tcpClients.erase id }

/-- The branch of `tcpListen` that serves the ready sockets. -/
def tcpReady (tr : Transport) (a : Arrivals) (s : Server) : Server :=
  let (t, clientsToRemove) := s.tcpClients.keys.foldl (receiveOne tr a) (s, [])
  clientsToRemove.foldl dropSocket t

/-! ### The threads -/

/-- A section some thread runs under the client mutex. `update` and `disconnectAll` are also
given by the sections they consist of, between which the mutex is free: `advance` and `sweep`,
a broadcast and `clear`. -/
inductive Act
  | accept (n : ℕ) (ip : IpAddress) (port : PortNumber)
  | tcpReady (a : Arrivals)
  | udpHeartbeat (ip : IpAddress) (port : PortNumber)
  | call (c : Call)
  | update (dt : Time)
  | advance (dt : Time)
  | sweep
  | disconnectAll
  | clear

def act (s : Server) : Transport × Act → Server
  | (_, .accept n ip port) => s.accept n ip port
  | (tr, .tcpReady a) => s.tcpReady tr a
  | (_, .udpHeartbeat ip port) => s.udpHeartbeat ip port
  | (tr, .call c) => s.call tr c
  | (tr, .update dt) => s.update tr dt
  | (_, .advance dt) => s.advance dt
  | (tr, .sweep) => s.sweep tr
  | (tr, .disconnectAll) => s.disconnectAll tr
  | (_, .clear) => s.clear

end Server

end Sfrpg
