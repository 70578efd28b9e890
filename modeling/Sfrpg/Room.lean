import Sfrpg.Chats
import Sfrpg.Client
import Sfrpg.Console
import Sfrpg.Outbox

/-!
The chat program: clients at their terminals, the server and its database, and the network.

The clients talk UDP. A packet of a client reaches the server any number of times or not at all, in
any order, and so does what the server sends; a packet arrives from the endpoint it was sent from.
All threads of a client go on by themselves: one reads commands and carries them out, one listens,
one lets the time run.
-/

namespace Sfrpg

open Lib Lib.Run Server

/-- What a client sends. -/
inductive Outgoing
  | connect
  | disconnect
  | heartbeat
  | request (username : String) (r : ClientMain.Request)
  deriving DecidableEq

def Outgoing.packet : Outgoing → Packet
  | .connect => stampPacket .Connect .empty
  | .disconnect => stampPacket .Disconnect .empty
  | .heartbeat => stampPacket .Heartbeat .empty
  | .request username r => r.packet username

/-! ### A client -/

/-- A process of the client program. `pending` is the command that was read and is still to be
carried out. `heard` is what the handler has done, each action with the type of its packet, and
`keyboard` all there is to type; neither is read. -/
structure Process where
  terminal : ClientMain.Terminal
  username : String
  joining : Bool
  session : Client.Session
  pending : Option ClientMain.Command
  heard : List (ℤ × ClientMain.Action)
  keyboard : ClientMain.Keyboard

namespace Process

/-- A process that waits for the answer to its `Connect`. -/
def launch (k : ClientMain.Keyboard) : Process where
  terminal := ⟨some k.text, []⟩
  username := ""
  joining := true
  session := ⟨⟨0, 0, false⟩, false, 0⟩
  pending := none
  heard := []
  keyboard := k

def connected (p : Process) : Bool := p.session.client.connected

/-- `Client::disconnect`, which tells the server. -/
def disconnect (p : Process) : Process × List Outgoing :=
  if p.connected then
    ({ p with session := { p.session with client := p.session.client.disconnect } }, [.disconnect])
  else (p, [])

/-- An action of the handler of a packet of type `l_id`. -/
def perform (l_id : ℤ) (acc : Process × List Outgoing) (a : ClientMain.Action) :
    Process × List Outgoing :=
  let p := { acc.1 with heard := acc.1.heard ++ [(l_id, a)] }
  match a with
  | .print line =>
    ({ p with terminal := { p.terminal with screen := p.terminal.screen ++ [line] } }, acc.2)
  | .setUserName name => ({ p with username := name }, acc.2)
  | .disconnect => (p.disconnect.1, acc.2 ++ p.disconnect.2)

/-- The packet handler, whose number holds `u` before it is read. -/
def handle (u l_id : ℤ) (data : List UInt8) (p : Process) : Process × List Outgoing :=
  (ClientMain.handlePacket u l_id (some data)).foldl (perform l_id) (p, [])

/-- A packet of the server arrives. A client that joins takes no other than the answer; one that
is about to set its clock takes none. -/
def receive (u : ℤ) (packet : Packet) (p : Process) : Except Unit (Process × List Outgoing) :=
  match Packet.getInt8 packet.data with
  | none => .ok (p, [])
  | some (l_id, data) =>
    if p.joining then
      if l_id = PacketType.Connect.id then
        let (p, sent) := p.handle u l_id data
        .ok ({ p with joining := false, session := .start p.session.client.serverTime }, sent)
      else .ok (p, [])
    else if !p.connected || p.session.handling then .error ()
    else if l_id < PacketType.Disconnect.id ∨ PacketType.OutOfBounds.id ≤ l_id then .ok (p, [])
    else if l_id = PacketType.Heartbeat.id then
      (Client.step p.session (.setTime (Packet.readInt32 u (some data)).1)).map fun session =>
        ({ p with session := session }, [.heartbeat])
    else .ok (p.handle u l_id data)

/-- The command loop reads a command. Where it reads for ever the step is not taken. -/
def read (p : Process) : Except Unit Process :=
  if p.connected ∧ p.pending = none then
    match ClientMain.readCommand.run p.terminal with
    | none => .error ()
    | some (c, terminal) => .ok { p with terminal := terminal, pending := some c }
  else .error ()

/-- It carries the command out. -/
def carryOut (p : Process) : Except Unit (Process × List Outgoing) :=
  match p.pending with
  | none => .error ()
  | some .skip => .ok ({ p with pending := none }, [])
  | some .quit => .ok ({ p with pending := none } : Process).disconnect
  | some (.request r) =>
    .ok ({ p with pending := none }, if p.connected then [.request p.username r] else [])

/-- The main thread lets the time run, and may disconnect. -/
def update (dt : Time) (p : Process) : Except Unit (Process × List Outgoing) :=
  (Client.step p.session (.update dt)).map fun session =>
    ({ p with session := session },
      if p.connected && !session.client.connected then [.disconnect] else [])

def catchUp (p : Process) : Except Unit (Process × List Outgoing) :=
  (Client.step p.session .catchUp).map fun session => ({ p with session := session }, [])

/-- A process that neither talks to the server nor tries to. -/
def Over (p : Process) : Prop := p.connected = false ∧ p.joining = false

instance decidableOver (p : Process) : Decidable p.Over := inferInstanceAs (Decidable (_ ∧ _))

end Process

/-! ### The server -/

namespace Site

/-- A packet arrives at the server: malformed and unknown ones are dropped, a heartbeat is a reply,
and any other goes to the handler. -/
def listen (hash : String → ℕ) (tr : Transport) (throws : Bool) (e : Endpoint) (p : Packet)
    (w : Site) : Except Unit Site :=
  let w := { w with server :=
    { w.server with totalReceived := w.server.totalReceived + p.getDataSize } }
  match Packet.getInt8 p.data with
  | none => .ok w
  | some (l_id, data) =>
    if l_id < PacketType.Disconnect.id ∨ PacketType.OutOfBounds.id ≤ l_id then .ok w
    else if l_id = PacketType.Heartbeat.id then
      .ok { w with server := w.server.udpHeartbeat e.1 e.2 }
    else step hash w (tr, throws, .packet e l_id data)

/-- The server, with the packet counted. -/
def counted (p : Packet) (w : Site) : Server :=
  { w.server with totalReceived := w.server.totalReceived + p.getDataSize }

lemma getClientID_counted (p : Packet) (w : Site) (ip : IpAddress) (port : PortNumber) :
    (w.counted p).getClientID ip port = w.server.getClientID ip port := rfl

/-- What becomes of a packet: it is dropped, or a reply to a heartbeat, or handled. -/
inductive Listened (hash : String → ℕ) (tr : Transport) (throws : Bool) (e : Endpoint) (p : Packet)
    (w site : Site) : Prop
  | dropped (server : site.server = w.counted p) (tables : site.tables = w.tables)
  | beat (server : site.server = (w.counted p).udpHeartbeat e.1 e.2)
      (tables : site.tables = w.tables)
  | handled (l_id : ℤ) (data : List UInt8) (calls : List Server.Call)
      (hdata : Packet.getInt8 p.data = some (l_id, data))
      (hcalls : ServerMain.handlePacket (w.tables.database hash throws) (w.counted p) e.1 e.2 l_id
        data = some calls)
      (server : site.server = calls.foldl (Server.call tr) (w.counted p))
      (tables : site.tables =
        ServerMain.handleTables hash throws (w.counted p) e.1 e.2 l_id data w.tables)

lemma listened {hash : String → ℕ} {tr : Transport} {throws : Bool} {e : Endpoint} {p : Packet}
    {w site : Site} (h : w.listen hash tr throws e p = .ok site) :
    Listened hash tr throws e p w site := by
  unfold listen at h
  dsimp only at h
  split at h
  · cases h
    exact .dropped rfl rfl
  rename_i l_id data hdata
  split at h
  · cases h
    exact .dropped rfl rfl
  split at h
  · cases h
    exact .beat rfl rfl
  · rw [step] at h
    split at h
    · cases h
    · rename_i calls hcalls
      cases h
      exact .handled l_id data calls hdata hcalls rfl rfl

end Site

/-! ### All of it -/

/-- The processes by their endpoints. `up` is what they have sent. -/
structure Room where
  site : Site
  processes : Endpoint → Option Process
  up : List (Endpoint × Outgoing)

namespace Room

def start (file : Tables) : Room := ⟨.start file, fun _ => none, []⟩

/-- What a thread does by itself. -/
inductive Act
  | launch (e : Endpoint) (k : ClientMain.Keyboard)
  | giveUp (e : Endpoint)
  | read (e : Endpoint)
  | carryOut (e : Endpoint)
  | receive (e : Endpoint) (packet : Packet) (u : ℤ)
  | catchUp (e : Endpoint)
  | update (e : Endpoint) (dt : Time)
  | serve (e : Endpoint) (o : Outgoing) (tr : Transport) (throws : Bool)
  | tick (tr : Transport) (dt : Time)
  | dc (tr : Transport)

/-- A process takes a step, and sends. -/
def move (w : Room) (e : Endpoint) (f : Process → Except Unit (Process × List Outgoing)) :
    Except Unit Room :=
  match w.processes e with
  | none => .error ()
  | some p => (f p).map fun r =>
    { w with
      processes := Function.update w.processes e (some r.1)
      up := w.up ++ r.2.map (e, ·) }

def step (hash : String → ℕ) (w : Room) : Act → Except Unit Room
  | .launch e k =>
    if ∀ p ∈ w.processes e, p.Over then .ok { w with
      processes := Function.update w.processes e (some (.launch k))
      up := w.up ++ [(e, .connect)] }
    else .error ()
  | .giveUp e => w.move e fun p => .ok ({ p with joining := false }, [])
  | .read e => w.move e fun p => p.read.map (·, [])
  | .carryOut e => w.move e Process.carryOut
  | .receive e packet u =>
    if (e, packet) ∈ outbox w.site.server.log then w.move e (Process.receive u packet)
    else .error ()
  | .catchUp e => w.move e Process.catchUp
  | .update e dt => w.move e (Process.update dt)
  | .serve e o tr throws =>
    if (e, o) ∈ w.up then
      (w.site.listen hash tr throws e o.packet).map fun site => { w with site := site }
    else .error ()
  | .tick tr dt =>
    (w.site.step hash (tr, false, .update dt)).map fun site => { w with site := site }
  | .dc tr => .ok { w with site := { w.site with server := w.site.server.disconnectAll tr } }

/-! ### Names and rows -/

section Definitions

variable (hash : String → ℕ)

/-- Somebody at the endpoint has sent the address and the password of the user. -/
def Earned (w : Room) (e : Endpoint) (name : String) : Prop :=
  ∃ before email password, (e, .request before (.login email password)) ∈ w.up ∧
    ∃ r ∈ w.site.tables.user, r.email.text = email ∧ r.username.text = name ∧
      r.password.text = toString (hash password)

/-- A client speaks for a name that was earned at its endpoint, or for the empty one. -/
def SpeaksFor (w : Room) (e : Endpoint) (name : String) : Prop := name = "" ∨ Earned hash w e name

/-- The message is stored, and it is one of a user for whom a client at the endpoint speaks. -/
structure Shows (w : Room) (e : Endpoint) (row : MessageText) : Prop where
  stored : ∃ r ∈ w.site.tables.message, Site.texts r = row
  named : ∃ named, SpeaksFor hash w e named ∧ (row.1 = named ∨ row.2.1 = named)

/-- The error text, or the line of a message the client may show. -/
def MayPrint (w : Room) (e : Endpoint) (type : PacketType) (a : ClientMain.Action) : Prop :=
  a = .print "Failed to load messages, error occured." ∨
    ∃ row, Shows hash w e row ∧ a = .print (ClientMain.line type row)

/-- A packet for the endpoint tells a name that was earned there, or rows the client may show, or
neither. -/
inductive Told (w : Room) (e : Endpoint) (p : Packet) : Prop
  | plain (h : ServerMain.Plain p)
  | refused (h : p = stampPacket .Login .empty)
  | name (name : String) (fits : Packet.StringFits name) (earned : Earned hash w e name)
      (h : p = (stampPacket .Login .empty).putString name)
  | failed (type : PacketType) (htype : type = .Sql ∨ type = .Chat)
      (h : p = (stampPacket type .empty).putInt32 Network.NullID)
  | rows (type : PacketType) (htype : type = .Sql ∨ type = .Chat) (rows : DbResult)
      (fits : ∀ row ∈ rows, ClientMain.RowFits row) (shows : ∀ row ∈ rows, Shows hash w e row)
      (h : p = ServerMain.putResult rows (stampPacket type .empty))

/-- What holds of a process. -/
structure Fair (w : Room) (e : Endpoint) (p : Process) : Prop where
  speaks : SpeaksFor hash w e p.username
  fits : Packet.StringFits p.username
  within : ClientMain.Within p.keyboard.text p.terminal
  pending : ∀ c, p.pending = some c → c.Typed p.keyboard.text
  heard : ∀ x ∈ p.heard, ∀ type, type = .Sql ∨ type = .Chat → x.1 = type.id →
    MayPrint hash w e type x.2

/-- **The invariant.** -/
structure Sound (file : Tables) (w : Room) : Prop where
  addressed : Addressed w.site.server
  told : ∀ m ∈ outbox w.site.server.log, Told hash w m.1 m.2
  process : ∀ e p, w.processes e = some p → Fair hash w e p
  asked : ∀ e name r, (e, .request name r) ∈ w.up → SpeaksFor hash w e name ∧ r.Fits name
  stored : ∀ r ∈ w.site.tables.message, r ∈ file.message ∨
    ∃ e, (e, .request r.sender.text (.message r.receiver.text r.content.text)) ∈ w.up

end Definitions

variable {hash : String → ℕ} {file : Tables} {w v : Room} {e : Endpoint} {p q : Process}
  {row : MessageText}

/-! ### What stays -/

/-- What was sent stays sent, and what was stored stays stored. -/
structure Grows (w v : Room) : Prop where
  up : ∀ x ∈ w.up, x ∈ v.up
  user : ∀ r ∈ w.site.tables.user, r ∈ v.site.tables.user
  message : ∀ r ∈ w.site.tables.message, r ∈ v.site.tables.message

lemma Earned.grows {name : String} (h : Earned hash w e name) (hg : Grows w v) :
    Earned hash v e name := by
  obtain ⟨before, email, password, hup, r, hr, hrow⟩ := h
  exact ⟨before, email, password, hg.up _ hup, r, hg.user r hr, hrow⟩

lemma SpeaksFor.grows {name : String} (h : SpeaksFor hash w e name) (hg : Grows w v) :
    SpeaksFor hash v e name :=
  h.imp_right fun h => h.grows hg

lemma Shows.grows (h : Shows hash w e row) (hg : Grows w v) : Shows hash v e row := by
  obtain ⟨⟨r, hr, hrow⟩, named, hnamed, hside⟩ := h
  exact ⟨⟨r, hg.message r hr, hrow⟩, named, hnamed.grows hg, hside⟩

lemma MayPrint.grows {type : PacketType} {a : ClientMain.Action} (h : MayPrint hash w e type a)
    (hg : Grows w v) : MayPrint hash v e type a := by
  obtain h | ⟨row, hrow, h⟩ := h
  · exact .inl h
  · exact .inr ⟨row, hrow.grows hg, h⟩

lemma Told.grows {packet : Packet} (h : Told hash w e packet) (hg : Grows w v) :
    Told hash v e packet := by
  cases h with
  | plain h => exact .plain h
  | refused h => exact .refused h
  | name name fits earned h => exact .name name fits (earned.grows hg) h
  | failed type htype h => exact .failed type htype h
  | rows type htype rows fits shows h =>
    exact .rows type htype rows fits (fun row hrow => (shows row hrow).grows hg) h

lemma Fair.grows (h : Fair hash w e p) (hg : Grows w v) : Fair hash v e p where
  speaks := h.speaks.grows hg
  fits := h.fits
  within := h.within
  pending := h.pending
  heard x hx type htype hid := (h.heard x hx type htype hid).grows hg

/-! ### A session -/

/-- Ann registers, logs in, writes to Bob, and reads what she has written. -/
def annsText : List Char :=
  ("register\na@b ann pw pw\nlogin\na@b pw\nmessage\nbob\nhello bob\nchatwith\nbob\n").toList

/-- Her keyboard. -/
def annsKeyboard : ClientMain.Keyboard where
  text := annsText
  bytes c hc := decide_eq_true_iff.mp (List.all_eq_true.mp
    (by decide +kernel : (annsText.all fun c => decide (c.toNat < 256)) = true) c hc)
  short := by decide

/-- A command is read and carried out. -/
def typed (e : Endpoint) : List Act := [.read e, .carryOut e]

/-- The server takes a packet, and nothing goes wrong. -/
def served (e : Endpoint) (o : Outgoing) : Act := .serve e o (fun _ => true) false

/-- Until she has logged in. -/
def annJoins : List Act :=
  let ann : Endpoint := (1, 10)
  [.launch ann annsKeyboard, served ann .connect, .receive ann (stampPacket .Connect .empty) 0] ++
  typed ann ++ [served ann (.request "" (.register "a@b" "ann" "pw" "pw"))] ++ typed ann ++
  typed ann ++ [served ann (.request "" (.login "a@b" "pw")),
    .receive ann ((stampPacket .Login .empty).putString "ann") 0] ++ typed ann ++ typed ann

def annAsks : List Act :=
  let ann : Endpoint := (1, 10)
  typed ann ++ [served ann (.request "ann" (.chatwith "bob")),
    .receive ann (ServerMain.putResult [("ann", "bob", "hello bob")] (stampPacket .Chat .empty)) 0]

def annsSession : List Act :=
  annJoins ++ served (1, 10) (.request "ann" (.message "bob" "hello bob")) :: annAsks

def annsRoom : Room := reached (Room.step String.length) (start .fresh) annsSession

lemma annsRoom_run : runE (Room.step String.length) (start .fresh) annsSession = .ok annsRoom :=
  runE_reached (by decide +kernel)

end Room

end Sfrpg
