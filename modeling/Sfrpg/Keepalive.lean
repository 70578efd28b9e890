import Sfrpg.Client
import Sfrpg.Clock
import Sfrpg.Wire

/-!
The heartbeats from end to end: a server and one of its clients, and what is on its way between
them.

Both run their updates in a loop, each with the time since the one before. The server asks a client
it has not heard of for an interval, the client sets its clock and answers, and the listener of the
server accepts the answer. Nothing is asked for a second time, so a packet that is lost costs the
connection; where none is lost and none is late, neither side gives the other up.

Times are in microseconds, counted so that the clock of the server shows the time of its last
update.
-/

namespace Sfrpg

open Lib Lib.Word Lib.Run

namespace Server

variable {s t u : Server} {tr : Transport} {id : ClientID} {p : Packet}

/-! ### The heartbeats on record -/

/-- The heartbeats for a client that the transport took, newest first. -/
def beatsTo (id : ClientID) : List LogEntry → List Packet
  | [] => []
  | .sent i p accepted :: l =>
    if i = id ∧ accepted = true ∧ p.stamp = some PacketType.Heartbeat.id then p :: beatsTo id l
    else beatsTo id l
  | .joined _ _ _ :: l => beatsTo id l
  | .reply _ :: l => beatsTo id l

/-- No heartbeat is sent to anybody. -/
def Mute (s t : Server) : Prop := ∀ id, beatsTo id t.log = beatsTo id s.log

lemma Mute.refl (s : Server) : Mute s s := fun _ => rfl

lemma Mute.trans (h : Mute s t) (h' : Mute t u) : Mute s u := fun id => (h' id).trans (h id)

lemma mute_of_log (h : t.log = s.log) : Mute s t := fun id => by rw [h]

lemma mute_deliver (hp : p.stamp ≠ some PacketType.Heartbeat.id) (tr : Transport) (id : ClientID)
    (s : Server) : Mute s (s.deliver tr id p).1 := by
  intro i
  simp [deliver, beatsTo, hp]

lemma mute_send (hp : p.stamp ≠ some PacketType.Heartbeat.id) (tr : Transport) (id : ClientID)
    (s : Server) : Mute s (s.send tr id p).1 :=
  send_inv (fun t i ht => ht.trans (mute_deliver hp tr i t)) (.refl s) id

lemma mute_broadcast (hp : p.stamp ≠ some PacketType.Heartbeat.id) (tr : Transport)
    (ignore : ClientID) (s : Server) : Mute s (s.broadcast tr p ignore) :=
  broadcast_inv (fun t i ht => ht.trans (mute_deliver hp tr i t)) (.refl s) ignore

lemma mute_removeClient (tr : Transport) (id : ClientID) (s : Server) :
    Mute s (s.removeClient tr id).1 := by
  obtain h | h := removeClient_cases tr id s
  · rw [h]
    exact .refl s
  · rw [h]
    exact mute_send stamp_disconnectPacket tr id s

lemma mute_addClient (hrun : s.running = true) (protocol : NetworkProtocol) (ip : IpAddress)
    (port : PortNumber) : Mute s (s.addClient protocol ip port).1 := by
  obtain ⟨-, h⟩ | ⟨-, -, h⟩ := addClient_cases protocol ip port hrun
  · rw [h]
    exact .refl s
  · rw [h]
    intro id
    dsimp only
    split <;> rfl

lemma mute_call (hrun : s.running = true) (tr : Transport) {c : Call} (hc : c.NoHeartbeat) :
    Mute s (s.call tr c) := by
  cases c with
  | addClient ip port => exact mute_addClient hrun .UDP ip port
  | removeClient id => exact mute_removeClient tr id s
  | removeClientAt ip port =>
    obtain h | ⟨id, -, h⟩ := removeClientAt_cases tr ip port s
    · rw [call, h]
      exact .refl s
    · rw [call, h]
      exact mute_send stamp_disconnectPacket tr id s
  | send id packet => exact mute_send hc tr id s
  | broadcast packet ignore => exact mute_broadcast hc tr ignore s

lemma mute_reply (id : ClientID) (s : Server) : Mute s (s.heartbeatReply id) := by
  obtain h | ⟨info, -, -, h⟩ := heartbeatReply_cases id s
  · rw [h]
    exact .refl s
  · rw [h]
    exact fun _ => rfl

lemma served_mute (tr : Transport) {a : Arrivals} (ha : ∀ id, ∀ c ∈ a.calls id, c.NoHeartbeat)
    (s : Server) : Served tr a fun t => Mute s t ∧ t.running = true where
  count _ _ h := ⟨h.1.trans (mute_of_log rfl), h.2⟩
  reply t id h := ⟨h.1.trans (mute_reply id t), (heartbeatReply_narrows id t).running.trans h.2⟩
  call t id c hc h := ⟨h.1.trans (mute_call h.2 tr (ha id c hc)),
    (call_noNewTcp tr t c).running.trans h.2⟩
  remove t id h := ⟨h.1.trans (mute_removeClient tr id t),
    (removeClient_narrows tr id t).running.trans h.2⟩

/-- A section that is no update and whose handlers send no heartbeat. -/
def Aside (s : Server) (a : Transport × Act) : Prop := Paced (fun _ _ => False) s a

lemma Aside.mute {a : Transport × Act} (ha : Aside s a) (hrun : s.running = true) :
    Mute s (act s a) := by
  obtain ⟨tr, a⟩ := a
  cases a with
  | accept n ip port =>
    exact (mute_addClient (s := { s with selector := .socket n :: s.selector }) hrun .TCP ip port)
  | tcpReady a =>
    refine ((served_mute tr ha s).tcpReady ?_ ⟨.refl s, hrun⟩).1
    rintro t id ⟨ht, hr⟩
    exact ⟨ht.trans (mute_of_log rfl), hr⟩
  | udpHeartbeat ip port =>
    obtain h | ⟨id, h⟩ := udpHeartbeat_cases ip port s
    · rw [act, h]
      exact .refl s
    · rw [act, h]
      exact mute_reply id s
  | call c => exact mute_call hrun tr ha
  | update dt => exact ha.elim
  | advance dt => exact ha.elim
  | sweep => exact ha.elim
  | disconnectAll => exact mute_broadcast stamp_disconnectPacket tr Network.NullID s
  | clear => exact .refl s

lemma Aside.serverTime {a : Transport × Act} (ha : Aside s a) (hrun : s.running = true) :
    (act s a).serverTime = s.serverTime := by
  obtain ⟨-, -, -, hf⟩ | hst := ha.cases hrun
  · exact hf.elim
  · exact hst.serverTime

/-! ### What an update sends -/

/-- The heartbeats on record for a client after a pass of the loop over it. -/
def askedBeats (s : Server) (info : Option ClientInfo) (l : List Packet) : List Packet :=
  match info with
  | none => l
  | some info =>
    if s.Expired info then l else if s.HeartbeatDue info then s.heartbeatPacket :: l else l

lemma askedBeats_congr (h : t.serverTime = s.serverTime) : t.askedBeats = s.askedBeats := by
  funext o l
  cases o with
  | none => rfl
  | some info =>
    simp only [askedBeats, expired_congr h, heartbeatDue_congr h, heartbeatPacket, h]

lemma beatsTo_updateClient (htr : tr id = true) (hrun : s.running = true) (hsock : Socketed s) :
    beatsTo id (updateClient tr s id).log =
      s.askedBeats (s.clientMap.lookup id) (beatsTo id s.log) := by
  cases h : s.clientMap.lookup id with
  | none => simp [updateClient, h, askedBeats]
  | some info =>
    by_cases hx : s.Expired info
    · simp [updateClient, h, hx, askedBeats]
    by_cases hd : s.HeartbeatDue info
    · have hno : ¬ (info.protocol = .TCP ∧ id ∉ s.tcpClients) :=
        fun hout => hout.2 (hsock id ⟨info, h, hout.1⟩)
      simp [updateClient, h, hx, hd, askedBeats, send, hrun, hno, deliver, htr, beatsTo,
        stamp_heartbeatPacket]
    · simp [updateClient, h, hx, hd, askedBeats]

lemma beatsTo_updateClient_ne {i : ClientID} (tr : Transport) (s : Server) (hne : i ≠ id) :
    beatsTo i (updateClient tr s id).log = beatsTo i s.log := by
  cases h : s.clientMap.lookup id with
  | none => simp [updateClient, h]
  | some info =>
    by_cases hx : s.Expired info
    · simp [updateClient, h, hx]
    by_cases hd : s.HeartbeatDue info
    · obtain hs | hs := send_cases tr id s.heartbeatPacket s
      · simp [updateClient, h, hx, hd, hs]
      · simp [updateClient, h, hx, hd, hs, deliver, beatsTo, hne.symm]
    · simp [updateClient, h, hx, hd]

lemma beatsTo_sweep (htr : tr id = true) (hrun : s.running = true) (hsock : Socketed s) :
    beatsTo id (s.sweep tr).log = s.askedBeats (s.clientMap.lookup id) (beatsTo id s.log) := by
  -- of all clients, only `id` is observed
  have h := Dict.obs_foldl
    (o := fun (t : Server) i =>
      if i = id then some (t.clientMap.lookup i, beatsTo i t.log) else none)
    (f := updateClient tr)
    (I := fun t => t.serverTime = s.serverTime ∧ t.running = true ∧ Socketed t)
    (g := fun _ x => x.map fun x => (x.1.bind s.swept, s.askedBeats x.1 x.2))
    (fun t i ht => ⟨(updateClient_frame tr t i).serverTime.trans ht.1,
      (updateClient_frame tr t i).running.trans ht.2.1,
      ht.2.2.noNewTcp (updateClient_narrows tr t i).noNewTcp⟩)
    (fun t i ht => by
      by_cases hi : i = id
      · subst hi
        simp only [if_true, Option.map_some]
        rw [lookup_updateClient, beatsTo_updateClient htr ht.2.1 ht.2.2, swept_congr ht.1,
          askedBeats_congr ht.1]
      · simp only [if_neg hi, Option.map_none])
    (fun t i i' _ hne => by
      rw [lookup_updateClient_ne tr t hne, beatsTo_updateClient_ne tr t hne])
    s.clientMap.keys_nodup ⟨rfl, hrun, hsock⟩ id
  rw [if_pos rfl, if_pos rfl, Option.map_some] at h
  by_cases hmem : id ∈ s.clientMap.keys
  · rw [if_pos hmem] at h
    exact (Prod.mk.inj (Option.some.inj h)).2
  · rw [if_neg hmem] at h
    have hnone : s.clientMap.lookup id = none :=
      AList.lookup_eq_none.mpr (by rwa [AList.mem_keys])
    rw [hnone]
    exact (Prod.mk.inj (Option.some.inj h)).2

lemma beatsTo_update (htr : tr id = true) (h : Beating s) (dt : Time) :
    beatsTo id (s.update tr dt).log = (s.advance dt).askedBeats
      ((s.clientMap.lookup id).map (s.advanced dt)) (beatsTo id s.log) := by
  obtain ⟨-, -, hrun', -, hlog⟩ := advance_frame dt s
  have hsock := h.socketed.noNewTcp (advance_narrows dt s).noNewTcp
  rw [update_eq h.running, beatsTo_sweep htr (hrun'.trans h.running) hsock, lookup_advance_eq, hlog]

end Server

/-! ### A server and one of its clients -/

/-- What the listener of a client reads from a heartbeat: the timestamp. -/
def Client.timestamp (p : Packet) : Option ℤ :=
  match Packet.getInt8 p.data with
  | none => none
  | some (l_id, data) =>
    if l_id = PacketType.Heartbeat.id then (Packet.getInt32 data).map Prod.fst else none

lemma timestamp_heartbeatPacket {s : Server} (h : Server.Time.Readable s.serverTime) :
    Client.timestamp s.heartbeatPacket = some (s.serverTime.microseconds / 1000) := by
  have hfits : InInt32 s.serverTime.asMilliseconds := by
    obtain ⟨h0, h1⟩ := h
    rw [Time.asMilliseconds_of_lt h0 h1]
    constructor <;> omega
  have hstamp : Packet.getInt8 s.heartbeatPacket.data =
      some (PacketType.Heartbeat.id, Packet.word s.serverTime.asMilliseconds) :=
    Packet.getInt8_byte (by decide) (by decide) _
  rw [Client.timestamp, hstamp]
  simp only [if_true]
  have hget := Packet.getInt32_word hfits []
  rw [List.append_nil] at hget
  rw [hget, ← h.reading]
  rfl

/-- The two ends and the packets between them, each with the time it was sent. `served` and `played`
are the times of the last updates. `taken` is the heartbeat that the listener of the client has
answered and not yet written down, by its timestamp and the time it was sent. -/
structure Link where
  server : Server
  session : Client.Session
  served : ℤ
  played : ℤ
  now : ℤ
  heartbeats : List (Packet × ℤ)
  taken : Option (ℤ × ℤ)
  replies : List ℤ

namespace Link

/-- What happens next. The listener of the client answers a heartbeat, then sets the clock to its
time, and then copies the clock to the time of the last heartbeat; updates may come between. -/
inductive Act
  | serve (tr : Transport)
  | aside (a : Transport × Server.Act)
  | receive
  | setTime
  | catchUp
  | reply (a : Transport × Server.Act)
  | play

/-- The heartbeats sent to the client between two states of the server, oldest first. -/
def newBeats (id : ClientID) (s t : Server) : List Packet :=
  let sent := Server.beatsTo id t.log
  (sent.take (sent.length - (Server.beatsTo id s.log).length)).reverse

/-- A section of the server, at the time `t`. -/
def run (id : ClientID) (t : ℤ) (server : Server) (l : Link) : Link :=
  { l with
    server := server
    now := t
    heartbeats := l.heartbeats ++ (newBeats id l.server server).map fun p => (p, t) }

/-- One step at the time `t`. -/
def step (id : ClientID) (l : Link) (a : ℤ × Act) : Except Unit Link :=
  let t := a.1
  match a.2 with
  | .serve tr => .ok { run id t (l.server.update tr ⟨t - l.served⟩) l with served := t }
  | .aside a => .ok (run id t (Server.act l.server a) l)
  | .receive =>
    if l.session.client.connected = false ∨ l.session.handling = true then .error () else
    match l.heartbeats, l.taken with
    | (p, sent) :: rest, none =>
      match Client.timestamp p with
      | none => .error ()
      | some timestamp => .ok { l with
          now := t
          heartbeats := rest
          taken := some (timestamp, sent)
          replies := l.replies ++ [t] }
    | _, _ => .error ()
  | .setTime =>
    match l.taken with
    | none => .error ()
    | some (timestamp, _) => do
      let session ← Client.step l.session (.setTime timestamp)
      .ok { l with
        session := session
        now := t
        taken := none }
  | .catchUp => do
    let session ← Client.step l.session .catchUp
    .ok { l with
      session := session
      now := t }
  | .reply a =>
    match l.replies with
    | [] => .error ()
    | _ :: rest => .ok { run id t (Server.act l.server a) l with replies := rest }
  | .play => do
    let session ← Client.step l.session (.update ⟨t - l.played⟩)
    .ok { l with
      session := session
      played := t
      now := t }

/-- A client whose clock shows `serverTime` connects at the time `now`. -/
def start (s : Server) (serverTime : Time) (now : ℤ) : Link where
  server := s
  session := .start serverTime
  served := s.serverTime.microseconds
  played := now
  now := now
  heartbeats := []
  taken := none
  replies := []

variable {id : ClientID} {l l' : Link} {written heard t : ℤ} {info : ClientInfo} {tr : Transport}

lemma step_receive_ok (hs : step id l (t, .receive) = .ok l') :
    ∃ p sent rest timestamp, l.heartbeats = (p, sent) :: rest ∧ l.taken = none ∧
      Client.timestamp p = some timestamp ∧
      l' = { l with
        now := t
        heartbeats := rest
        taken := some (timestamp, sent)
        replies := l.replies ++ [t] } := by
  rw [step] at hs
  dsimp only at hs
  split at hs
  · cases hs
  · split at hs
    · next p sent rest hheartbeats htaken =>
      split at hs
      · cases hs
      · next timestamp hread =>
        cases hs
        exact ⟨p, sent, rest, timestamp, hheartbeats, htaken, hread, rfl⟩
    · cases hs

lemma step_setTime_ok (hs : step id l (t, .setTime) = .ok l') :
    ∃ timestamp sent, l.taken = some (timestamp, sent) ∧ ∃ session,
      Client.step l.session (.setTime timestamp) = .ok session ∧
      session = ⟨l.session.client.setTime (.milliseconds timestamp), true, 0⟩ ∧
      l' = { l with
        session := session
        now := t
        taken := none } := by
  rw [step] at hs
  dsimp only at hs
  split at hs
  · cases hs
  · next timestamp sent htaken =>
    refine ⟨timestamp, sent, htaken, ?_⟩
    rw [Client.step] at hs ⊢
    split at hs
    · cases hs
    · next hfree =>
      cases hs
      exact ⟨_, if_neg hfree, rfl, rfl⟩

lemma step_catchUp_ok (hs : step id l (t, .catchUp) = .ok l') :
    ∃ session, Client.step l.session .catchUp = .ok session ∧
      session = ⟨l.session.client.catchUp, false, l.session.since⟩ ∧
      l' = { l with
        session := session
        now := t } := by
  rw [step] at hs
  dsimp only at hs
  rw [Client.step] at hs ⊢
  split at hs
  · next hbusy =>
    cases hs
    exact ⟨_, if_pos hbusy, rfl, rfl⟩
  · cases hs

/-! ### Limits -/

/-- How long the two ends may take for an update, and for a packet until it is handled: short enough
for a question and its answer to fit between the interval and the timeout. -/
structure Limits where
  serve : ℤ
  play : ℤ
  carry : ℤ
  serve_nonneg : 0 ≤ serve
  play_nonneg : 0 ≤ play
  carry_nonneg : 0 ≤ carry
  answer : serve + 2 * carry ≤ (Network.ClientTimeout - HEARTBEAT_INTERVAL - 1) * 1000
  question : serve + 3 * carry + play ≤ (Network.ClientTimeout - HEARTBEAT_INTERVAL) * 1000

/-- The transport takes the heartbeats for the client, and no other section of the server touches
its entry but the one in which a listener reads its answer. -/
def Admitted (id : ClientID) (l : Link) : Act → Prop
  | .serve tr => tr id = true
  | .aside a => Server.Aside l.server a ∧
    (Server.act l.server a).clientMap.lookup id = l.server.clientMap.lookup id
  | .reply a => Server.Aside l.server a ∧ (Server.act l.server a).clientMap.lookup id =
    (l.server.heartbeatReply id).clientMap.lookup id
  | .receive => True
  | .setTime => True
  | .catchUp => True
  | .play => True

lemma admitted_udpHeartbeat {ip : IpAddress} {port : PortNumber}
    (h : l.server.findClient ip port = some id) (tr : Transport) :
    Admitted id l (.reply (tr, .udpHeartbeat ip port)) := by
  refine ⟨trivial, ?_⟩
  rw [Server.act, Server.udpHeartbeat, h]

/-- The step comes after the one before, and no update and no packet is overdue by then. The clocks
are far from their end. And no update of the client between the two writes for a heartbeat finds the
clock too far ahead of the heartbeat before. -/
structure Timely (lim : Limits) (id : ClientID) (l : Link) (a : ℤ × Act) : Prop where
  forward : l.now ≤ a.1
  serve : a.1 ≤ l.served + lim.serve
  play : a.1 ≤ l.played + lim.play
  heartbeats : ∀ h ∈ l.heartbeats, a.1 ≤ h.2 + lim.carry
  taken : ∀ h ∈ l.taken, a.1 ≤ h.2 + lim.carry
  replies : ∀ r ∈ l.replies, a.1 ≤ r + lim.carry
  writes : a.2 = .play → l.session.handling = true →
    ¬ l.session.client.Overdue ⟨a.1 - l.played⟩
  clock : a.1 + lim.play < 2147483648000
  admitted : Admitted id l a.2

/-- Where a client stands between two questions: nobody has asked, the question is on its way, or
the answer is. `heard` is the time from which the client, once it has written down what it has
taken, knows the server to be there. -/
inductive Phase (lim : Limits) (l : Link) (heard : ℤ) (info : ClientInfo) : Prop
  | idle (waiting : info.heartbeatWaiting = false) (heartbeats : l.heartbeats = [])
    (replies : l.replies = []) (early : l.served ≤ info.lastHeartbeat.microseconds + 999999)
  | asked (waiting : info.heartbeatWaiting = true) (p : Packet) (t : ℤ)
    (heartbeats : l.heartbeats = [(p, t)]) (replies : l.replies = [])
    (reading : Client.timestamp p = some (t / 1000)) (range : 0 ≤ t ∧ t < 2147483648000)
    (after : info.lastHeartbeat.microseconds ≤ t) (sent : t ≤ l.served)
    (early : t ≤ info.lastHeartbeat.microseconds + 999999 + lim.serve)
  | answered (waiting : info.heartbeatWaiting = true) (heartbeats : l.heartbeats = []) (r : ℤ)
    (replies : l.replies = [r]) (lately : r ≤ heard + lim.carry)
    (early : r ≤ info.lastHeartbeat.microseconds + 999999 + lim.serve + lim.carry)

/-- What the client has written down is from `written`, and it has answered what was sent at
`heard`. -/
structure Writing (lim : Limits) (l : Link) (written heard : ℤ) : Prop where
  none : l.taken = none → heard ≤ written
  some : ∀ q, l.taken = some q → q.1 = q.2 / 1000 ∧ q.2 = heard ∧ 0 ≤ q.2 ∧ q.2 < 2147483648000 ∧
    q.2 ≤ written + 999999 + lim.serve + 2 * lim.carry
  since : l.session.since ≤ l.played - written + lim.play

/-- Both sides hold on to the connection. -/
structure Alive (lim : Limits) (id : ClientID) (l : Link) (written heard : ℤ) (info : ClientInfo) :
    Prop where
  beating : Server.Beating l.server
  entry : l.server.clientMap.lookup id = some info
  kept : Client.Kept l.session
  connected : l.session.client.connected = true
  clock : l.server.serverTime.microseconds = l.served
  served : l.served ≤ l.now
  played : l.played ≤ l.now
  past : heard ≤ l.now
  last : info.lastHeartbeat.microseconds ≤ l.served
  lately : info.lastHeartbeat.microseconds ≤ heard + 2 * lim.carry
  writing : Writing lim l written heard
  phase : Phase lim l heard info

variable {lim : Limits}

lemma newBeats_of_mute {s u : Server} (h : Server.Mute s u) (id : ClientID) :
    newBeats id s u = [] := by
  simp [newBeats, h id]

lemma Alive.soon (h : Alive lim id l written heard info) {a : ℤ × Act} (ha : Timely lim id l a) :
    a.1 ≤ info.lastHeartbeat.microseconds + 999999 + lim.serve + 2 * lim.carry := by
  have hcarry := lim.carry_nonneg
  have hserve := ha.serve
  cases h.phase with
  | idle hw hh hr early => omega
  | asked hw p s hh hr hread hrange hafter hsent early =>
    have hdue := ha.heartbeats (p, s) (by rw [hh]; exact List.mem_singleton_self _)
    dsimp only at hdue
    omega
  | answered hw hh r hr hlately early =>
    have hdue := ha.replies r (by rw [hr]; exact List.mem_singleton_self _)
    omega

lemma Alive.hears (h : Alive lim id l written heard info) {a : ℤ × Act} (ha : Timely lim id l a) :
    a.1 ≤ written + 999999 + lim.serve + 3 * lim.carry := by
  have hcarry := lim.carry_nonneg
  have hnonneg := lim.serve_nonneg
  have hserve := ha.serve
  have hlately := h.lately
  cases htaken : l.taken with
  | some q =>
    obtain ⟨-, -, -, -, hq⟩ := h.writing.some q htaken
    have hdue := ha.taken q htaken
    omega
  | none =>
    have hheard := h.writing.none htaken
    cases h.phase with
    | idle hw hh hr early => omega
    | asked hw p s hh hr hread hrange hafter hsent early =>
      have hdue := ha.heartbeats (p, s) (by rw [hh]; exact List.mem_singleton_self _)
      dsimp only at hdue
      omega
    | answered hw hh r hr hr' early =>
      have hdue := ha.replies r (by rw [hr]; exact List.mem_singleton_self _)
      omega

lemma Alive.patient (h : Alive lim id l written heard info) (ha : Timely lim id l (t, .play)) :
    l.session.since + (t - l.played) ≤ Network.ClientTimeout * 1000 := by
  have hsoon := h.hears ha
  have hsince := h.writing.since
  have hquestion := lim.question
  simp only [Network.ClientTimeout, HEARTBEAT_INTERVAL] at hquestion ⊢
  dsimp only at hsoon
  omega

lemma Phase.congr (h : Phase lim l heard info) (hserved : l'.served = l.served)
    (hheartbeats : l'.heartbeats = l.heartbeats) (hreplies : l'.replies = l.replies) :
    Phase lim l' heard info := by
  cases h with
  | idle hw hh hr early =>
    exact .idle hw (hheartbeats.trans hh) (hreplies.trans hr) (by rw [hserved]; exact early)
  | asked hw p s hh hr hread hrange hafter hsent early =>
    exact .asked hw p s (hheartbeats.trans hh) (hreplies.trans hr) hread hrange hafter
      (by rw [hserved]; exact hsent) early
  | answered hw hh r hr hlately early =>
    exact .answered hw (hheartbeats.trans hh) r (hreplies.trans hr) hlately early

lemma Writing.congr (h : Writing lim l written heard) (htaken : l'.taken = l.taken)
    (hsince : l'.session.since = l.session.since) (hplayed : l'.played = l.played) :
    Writing lim l' written heard where
  none ht := h.none (htaken.symm.trans ht)
  some q hq := h.some q (htaken.symm.trans hq)
  since := by rw [hsince, hplayed]; exact h.since

lemma Alive.play (h : Alive lim id l written heard info) (ha : Timely lim id l (t, .play))
    (hs : step id l (t, .play) = .ok l') : Alive lim id l' written heard info := by
  have hplayed := h.played
  have hforward := ha.forward
  have hpatient := h.patient ha
  have hlate := ha.play
  have hsince := h.writing.since
  have hquestion := lim.question
  have hserve := lim.serve_nonneg
  have hcarry := lim.carry_nonneg
  simp only [Network.ClientTimeout, HEARTBEAT_INTERVAL] at hquestion hpatient
  dsimp only at hforward hlate
  have hadmit : Client.Admitted (.update ⟨t - l.played⟩) := by
    refine ⟨?_, ?_⟩
    · dsimp only
      omega
    · simp only [Network.HighestTimestamp]
      omega
  cases hs
  refine ⟨h.beating, h.entry, h.kept.update hadmit, ?_, h.clock, h.served.trans hforward, le_rfl,
    h.past.trans hforward, h.last, h.lately, ⟨h.writing.none, h.writing.some, ?_⟩,
    h.phase.congr rfl rfl rfl⟩
  · by_contra hconn
    have hgone : l.session.client.Disconnects ⟨t - l.played⟩ := ⟨h.connected, by simpa using hconn⟩
    obtain ⟨-, hw, ho⟩ := Client.disconnects_iff.mp hgone
    cases hh : l.session.handling with
    | true => exact ha.writes rfl hh ho
    | false =>
      -- an update that disconnects comes later than that
      have hlong := h.kept.overdue hh hadmit hw ho
      simp only [Network.ClientTimeout] at hlong
      omega
  · dsimp only
    omega

lemma Alive.receive (h : Alive lim id l written heard info) (ha : Timely lim id l (t, .receive))
    (hs : step id l (t, .receive) = .ok l') : ∃ heard', Alive lim id l' written heard' info := by
  have hforward := ha.forward
  have hlately := h.lately
  have hserved := h.served
  have hcarry := lim.carry_nonneg
  dsimp only at hforward
  obtain ⟨p, sent, rest, timestamp, hheartbeats, htaken, hread, rfl⟩ := step_receive_ok hs
  have hheard := h.writing.none htaken
  have hdue := ha.heartbeats (p, sent) (by rw [hheartbeats]; exact List.mem_cons_self)
  dsimp only at hdue
  cases h.phase with
  | idle hw hh hr early =>
    rw [hh] at hheartbeats
    cases hheartbeats
  | answered hw hh r hr hr' early =>
    rw [hh] at hheartbeats
    cases hheartbeats
  | asked hw p' s hh hr hread' hrange hafter hsent early =>
    rw [hh] at hheartbeats
    cases hheartbeats
    obtain rfl : sent / 1000 = timestamp := Option.some.inj (hread'.symm.trans hread)
    refine ⟨sent, h.beating, h.entry, h.kept, h.connected, h.clock, h.served.trans hforward,
      h.played.trans hforward, ?_, h.last, ?_, ⟨fun hn => (by cases hn), ?_, h.writing.since⟩, ?_⟩
    · dsimp only
      omega
    · omega
    · rintro q hq
      cases hq
      refine ⟨rfl, rfl, hrange.1, hrange.2, ?_⟩
      dsimp only
      omega
    · refine .answered hw rfl t (by rw [hr]; rfl) hdue ?_
      omega

lemma Alive.setTime (h : Alive lim id l written heard info) (ha : Timely lim id l (t, .setTime))
    (hs : step id l (t, .setTime) = .ok l') : Alive lim id l' t heard info := by
  have hforward := ha.forward
  have hlate := ha.play
  have hpast := h.past
  dsimp only at hforward hlate
  obtain ⟨timestamp, sent, htaken, session, hset, hsession, rfl⟩ := step_setTime_ok hs
  obtain ⟨hstamp, -, h0, h1, -⟩ := h.writing.some _ htaken
  dsimp only at hstamp h0 h1
  have hadmit : Client.Admitted (.setTime timestamp) := by
    refine ⟨?_, ?_⟩
    · omega
    · simp only [Network.HighestTimestamp]
      omega
  have hkept := h.kept.step hadmit hset
  subst hsession
  refine ⟨h.beating, h.entry, hkept, h.connected, h.clock, h.served.trans hforward,
    h.played.trans hforward, hpast.trans hforward, h.last, h.lately,
    ⟨fun _ => hpast.trans hforward, fun q hq => (by cases hq), ?_⟩, h.phase.congr rfl rfl rfl⟩
  dsimp only
  omega

lemma Alive.catchUp (h : Alive lim id l written heard info) (ha : Timely lim id l (t, .catchUp))
    (hs : step id l (t, .catchUp) = .ok l') : Alive lim id l' written heard info := by
  have hforward := ha.forward
  dsimp only at hforward
  obtain ⟨session, hcatch, hsession, rfl⟩ := step_catchUp_ok hs
  have hkept := h.kept.step (a := .catchUp) trivial hcatch
  subst hsession
  exact ⟨h.beating, h.entry, hkept, h.connected, h.clock, h.served.trans hforward,
    h.played.trans hforward, h.past.trans hforward, h.last, h.lately, h.writing.congr rfl rfl rfl,
    h.phase.congr rfl rfl rfl⟩

lemma Alive.aside (h : Alive lim id l written heard info) {a : Transport × Server.Act}
    (ha : Timely lim id l (t, .aside a)) (hs : step id l (t, .aside a) = .ok l') :
    Alive lim id l' written heard info := by
  obtain ⟨haside, hsame⟩ := ha.admitted
  have hforward := ha.forward
  have hmute := newBeats_of_mute (haside.mute h.beating.running) id
  have htime := haside.serverTime h.beating.running
  cases hs
  refine ⟨h.beating.act (fun _ _ _ hf => hf.elim) a haside, hsame.trans h.entry, h.kept,
    h.connected, ?_, h.served.trans hforward, h.played.trans hforward, h.past.trans hforward,
    h.last, h.lately, h.writing.congr rfl rfl rfl, h.phase.congr rfl ?_ rfl⟩
  · exact (congrArg Time.microseconds htime).trans h.clock
  · simp [run, hmute]

lemma Alive.reply (h : Alive lim id l written heard info) {a : Transport × Server.Act}
    (ha : Timely lim id l (t, .reply a)) (hs : step id l (t, .reply a) = .ok l') :
    Alive lim id l' written heard (Server.markReply l.server.serverTime info) := by
  obtain ⟨haside, hreply⟩ := ha.admitted
  have hforward := ha.forward
  have hclock := h.clock
  have hserved := h.served
  have hmute := newBeats_of_mute (haside.mute h.beating.running) id
  have htime := haside.serverTime h.beating.running
  dsimp only at hforward
  cases h.phase with
  | idle hw hh hr early =>
    rw [step, hr] at hs
    cases hs
  | asked hw p s hh hr hread hrange hafter hsent early =>
    rw [step, hr] at hs
    cases hs
  | answered hw hh r hr hlately early =>
    have hdue := ha.replies r (by rw [hr]; exact List.mem_singleton_self _)
    dsimp only at hdue
    have hentry : (l.server.heartbeatReply id).clientMap.lookup id =
        some (Server.markReply l.server.serverTime info) := by
      simp [Server.heartbeatReply, h.entry, hw]
    rw [step, hr] at hs
    cases hs
    refine ⟨h.beating.act (fun _ _ _ hf => hf.elim) a haside, hreply.trans hentry, h.kept,
      h.connected, (congrArg Time.microseconds htime).trans h.clock, h.served.trans hforward,
      h.played.trans hforward, h.past.trans hforward, ?_, ?_, h.writing.congr rfl rfl rfl, ?_⟩
    · exact h.clock.le
    · simp only [Server.markReply]
      omega
    · refine .idle rfl ?_ rfl ?_
      · simp [run, hmute, hh]
      · simp only [Server.markReply, run]
        omega

lemma Alive.ticks (h : Alive lim id l written heard info) (ha : Timely lim id l (t, .serve tr)) :
    l.server.ClockOk ⟨t - l.served⟩ ∧ ¬ l.server.Wraps ⟨t - l.served⟩ ∧
      (l.server.advance ⟨t - l.served⟩).serverTime = ⟨t⟩ ∧ 0 ≤ t ∧ t < 2147483648000 := by
  have hforward := ha.forward
  have hend := ha.clock
  have hclock := h.clock
  have hserved := h.served
  have hplay := lim.play_nonneg
  obtain ⟨h0, -⟩ := h.beating.clock
  dsimp only at hforward hend
  have hnow : l.server.serverTime + ⟨t - l.served⟩ = (⟨t⟩ : Time) := by
    refine Time.ext ?_
    rw [Time.add_microseconds]
    dsimp only
    omega
  have hread : Server.Time.Readable (l.server.serverTime + ⟨t - l.served⟩) := by
    rw [hnow]
    exact ⟨by dsimp only; omega, by dsimp only; omega⟩
  have hwraps : ¬ l.server.Wraps ⟨t - l.served⟩ := by
    rw [Server.Wraps, hread.reading, hnow]
    dsimp only
    omega
  refine ⟨⟨by dsimp only; omega, by rw [hnow]; dsimp only; omega⟩, hwraps, ?_, by omega, by omega⟩
  rw [Server.advance_of_not_wraps hwraps]
  exact hnow

lemma Alive.serve (h : Alive lim id l written heard info) (ha : Timely lim id l (t, .serve tr))
    (hs : step id l (t, .serve tr) = .ok l') : ∃ info', Alive lim id l' written heard info' := by
  obtain ⟨hok, hwraps, htime, h0, h1⟩ := h.ticks ha
  have hforward := ha.forward
  have hlate := ha.serve
  have hsoon := h.soon ha
  have hserved := h.served
  have hlast := h.last
  have hanswer := lim.answer
  have hpulse := h.beating.clients id info h.entry
  have hretry := hpulse.retry
  simp only [Network.ClientTimeout, HEARTBEAT_INTERVAL] at hanswer
  dsimp only at hforward hlate hsoon
  cases hs
  dsimp only
  generalize (⟨t - l.served⟩ : Time) = dt at hok hwraps htime ⊢
  have hread : Server.Time.Readable (l.server.advance dt).serverTime := by
    rw [htime]
    exact ⟨h0, h1⟩
  have helapsed : (l.server.advance dt).elapsed info =
      t / 1000 - info.lastHeartbeat.microseconds / 1000 := by
    rw [Server.elapsed_of_readable hread hpulse.last, htime]
  have hkeep : ¬ (l.server.advance dt).Expired info := by
    rintro ⟨-, hx | hx⟩
    · rw [helapsed, Network.ClientTimeout] at hx
      omega
    · rw [hretry] at hx
      split at hx <;> exact absurd hx (by decide)
  have hlook : (l.server.update tr dt).clientMap.lookup id = (l.server.advance dt).swept info := by
    rw [Server.lookup_update h.beating.running, h.entry, Option.map_some,
      Server.advanced_of_not_wraps hwraps, Option.bind_some]
  have hbeats := Server.beatsTo_update ha.admitted h.beating dt
  rw [h.entry, Option.map_some, Server.advanced_of_not_wraps hwraps] at hbeats
  have hbeating := h.beating.update tr hok
  have hclock : (l.server.update tr dt).serverTime.microseconds = t := by
    rw [Server.update_serverTime h.beating.running, htime]
  by_cases hdue : (l.server.advance dt).HeartbeatDue info
  · have hswept : (l.server.update tr dt).clientMap.lookup id =
        some (Server.markSent (l.server.advance dt).serverTime info) := by
      rw [hlook, Server.swept, if_neg hkeep, if_pos hdue]
    simp only [Server.askedBeats, if_neg hkeep, if_pos hdue] at hbeats
    have hnew : newBeats id l.server (l.server.update tr dt) =
        [(l.server.advance dt).heartbeatPacket] := by
      simp [newBeats, hbeats]
    have hstamp := timestamp_heartbeatPacket hread
    rw [htime] at hstamp
    refine ⟨_, hbeating, hswept, h.kept, h.connected, hclock, le_rfl, h.played.trans hforward,
      h.past.trans hforward, hlast.trans (hserved.trans hforward), h.lately,
      h.writing.congr rfl rfl rfl, ?_⟩
    cases h.phase with
    | idle hw hh hr early =>
      refine .asked rfl _ t ?_ hr hstamp ⟨h0, h1⟩ (hlast.trans (hserved.trans hforward)) le_rfl ?_
      · simp [run, hh, hnew]
      · simp only [Server.markSent]
        omega
    | asked hw => rw [hdue.2.1] at hw; cases hw
    | answered hw => rw [hdue.2.1] at hw; cases hw
  · have hswept : (l.server.update tr dt).clientMap.lookup id = some info := by
      rw [hlook, Server.swept, if_neg hkeep, if_neg hdue]
    simp only [Server.askedBeats, if_neg hkeep, if_neg hdue] at hbeats
    have hnew : newBeats id l.server (l.server.update tr dt) = [] := by simp [newBeats, hbeats]
    refine ⟨info, hbeating, hswept, h.kept, h.connected, hclock, le_rfl, h.played.trans hforward,
      h.past.trans hforward, hlast.trans (hserved.trans hforward), h.lately,
      h.writing.congr rfl rfl rfl, ?_⟩
    cases h.phase with
    | idle hw hh hr early =>
      refine .idle hw (by simp [run, hh, hnew]) hr ?_
      have hnotyet : (l.server.advance dt).elapsed info < 1000 := by
        by_contra hc
        refine hdue ⟨by rw [HEARTBEAT_INTERVAL]; omega, hw, ?_⟩
        rw [hretry, hw, HEARTBEAT_INTERVAL]
        simp only [Bool.false_eq_true, if_false, Nat.cast_zero]
        omega
      rw [helapsed] at hnotyet
      dsimp only
      omega
    | asked hw p s hh hr hread hrange hafter hsent early =>
      exact .asked hw p s (by simp [run, hh, hnew]) hr hread hrange hafter
        (hsent.trans (hserved.trans hforward)) early
    | answered hw hh r hr hr' early => exact .answered hw (by simp [run, hh, hnew]) r hr hr' early

/-! ### Runs -/

lemma Alive.step (h : Alive lim id l written heard info) {a : ℤ × Act} (ha : Timely lim id l a)
    (hs : Link.step id l a = .ok l') :
    ∃ written' heard' info', Alive lim id l' written' heard' info' := by
  obtain ⟨t, a⟩ := a
  cases a with
  | serve tr =>
    obtain ⟨info', h'⟩ := h.serve ha hs
    exact ⟨written, heard, info', h'⟩
  | aside a => exact ⟨written, heard, info, h.aside ha hs⟩
  | receive =>
    obtain ⟨heard', h'⟩ := h.receive ha hs
    exact ⟨written, heard', info, h'⟩
  | setTime => exact ⟨t, heard, info, h.setTime ha hs⟩
  | catchUp => exact ⟨written, heard, info, h.catchUp ha hs⟩
  | reply a => exact ⟨written, heard, _, h.reply ha hs⟩
  | play => exact ⟨written, heard, info, h.play ha hs⟩

/-- A client has just joined a server and knows it. -/
structure Joined (id : ClientID) (s : Server) (serverTime : Time) (now : ℤ) : Prop where
  entry : ∃ info, s.clientMap.lookup id = some info ∧ info.lastHeartbeat = s.serverTime ∧
    info.heartbeatWaiting = false
  clock : Server.Time.Readable serverTime
  later : s.serverTime.microseconds ≤ now

lemma alive_start {s : Server} {serverTime : Time} {now : ℤ} (hs : Server.Beating s)
    (hj : Joined id s serverTime now) (lim : Limits) :
    ∃ written heard info, Alive lim id (start s serverTime now) written heard info := by
  obtain ⟨info, hi, hlast, hw⟩ := hj.entry
  have hplay := lim.play_nonneg
  have hcarry := lim.carry_nonneg
  have hlater := hj.later
  refine ⟨now, now, info, hs, hi, Client.kept_start hj.clock, rfl, rfl, hlater, le_rfl, le_rfl,
    by rw [hlast]; rfl, by rw [hlast]; omega, ⟨fun _ => le_rfl, fun q hq => (by cases hq), ?_⟩,
    .idle hw rfl rfl ?_⟩
  · simp only [start, Client.Session.start]
    omega
  · rw [hlast]
    simp only [start]
    omega

lemma alive_run {acts : List (ℤ × Act)} (h : Alive lim id l written heard info)
    (ht : AlongE (step id) (Timely lim id) l acts) (hr : runE (step id) l acts = .ok l') :
    ∃ written' heard' info', Alive lim id l' written' heard' info' := by
  induction acts generalizing l written heard info with
  | nil =>
    cases hr
    exact ⟨written, heard, info, h⟩
  | cons a acts ih =>
    obtain ⟨m, hm, hr⟩ := runE_cons_ok.mp hr
    obtain ⟨written', heard', info', h'⟩ := h.step ht.1 hm
    exact ih h' (ht.2 m hm) hr

/-- The clock of the client is right but for the time a heartbeat has travelled, and for an update.
-/
structure Synced (lim : Limits) (l : Link) : Prop where
  behind : -(lim.carry + 999) ≤ l.session.client.serverTime.microseconds - l.played
  ahead : l.session.client.serverTime.microseconds - l.played ≤ lim.play
  served : l.now ≤ l.served + lim.serve
  played : l.now ≤ l.played + lim.play

lemma Alive.sync (h : Alive lim id l written heard info) (ha : Timely lim id l (t, .setTime))
    (hs : Link.step id l (t, .setTime) = .ok l') : Synced lim l' := by
  have hforward := ha.forward
  have hlate := ha.play
  have hplayed := h.played
  have hpast := h.past
  dsimp only at hforward hlate
  obtain ⟨timestamp, sent, htaken, session, -, rfl, rfl⟩ := step_setTime_ok hs
  obtain ⟨hstamp, hsent, -, -, -⟩ := h.writing.some _ htaken
  have hdue := ha.taken _ htaken
  dsimp only at hdue hstamp hsent
  refine ⟨?_, ?_, ha.serve, ha.play⟩
  · simp only [Client.setTime, Time.milliseconds_microseconds]
    omega
  · simp only [Client.setTime, Time.milliseconds_microseconds]
    omega

lemma Synced.step (hsync : Synced lim l) (h : Alive lim id l written heard info) {a : ℤ × Act}
    (ha : Timely lim id l a) (hs : Link.step id l a = .ok l') : Synced lim l' := by
  have hserve := lim.serve_nonneg
  have hplay := lim.play_nonneg
  obtain ⟨t, a⟩ := a
  cases a with
  | serve tr =>
    cases hs
    refine ⟨hsync.behind, hsync.ahead, ?_, ha.play⟩
    simp only [run]
    omega
  | aside a =>
    cases hs
    exact ⟨hsync.behind, hsync.ahead, ha.serve, ha.play⟩
  | receive =>
    obtain ⟨_, _, _, _, -, -, -, rfl⟩ := step_receive_ok hs
    exact ⟨hsync.behind, hsync.ahead, ha.serve, ha.play⟩
  | setTime => exact h.sync ha hs
  | catchUp =>
    obtain ⟨_, -, rfl, rfl⟩ := step_catchUp_ok hs
    exact ⟨hsync.behind, hsync.ahead, ha.serve, ha.play⟩
  | reply a =>
    rw [Link.step] at hs
    dsimp only at hs
    split at hs
    · cases hs
    · cases hs
      exact ⟨hsync.behind, hsync.ahead, ha.serve, ha.play⟩
  | play =>
    obtain ⟨h1, h2, -, -⟩ := hsync
    have hend := ha.clock
    have hconn := h.connected
    have hforward := ha.forward
    have hplayed := h.played
    obtain ⟨h0, hc⟩ := h.kept.clock
    dsimp only at hend hforward
    cases hs
    have hwraps : ¬ l.session.client.Wraps ⟨t - l.played⟩ := by
      have hread : Server.Time.Readable (l.session.client.serverTime + ⟨t - l.played⟩) := by
        refine ⟨?_, ?_⟩ <;> rw [Time.add_microseconds] <;> dsimp only <;> omega
      rw [Client.Wraps, hread.reading]
      have := hread.1
      omega
    have htime : (l.session.client.update ⟨t - l.played⟩).serverTime =
        l.session.client.serverTime + ⟨t - l.played⟩ := by
      obtain ⟨hw, -⟩ | ⟨-, -, he⟩ | ⟨-, -, he⟩ := Client.update_cases hconn ⟨t - l.played⟩
      · exact absurd hw hwraps
      · rw [he]
      · rw [he]
    refine ⟨?_, ?_, ha.serve, ?_⟩
    · simp only [htime, Time.add_microseconds]
      omega
    · simp only [htime, Time.add_microseconds]
      omega
    · dsimp only
      omega

lemma synced_run {acts : List (ℤ × Act)} (hsync : Synced lim l)
    (h : Alive lim id l written heard info)
    (ht : AlongE (Link.step id) (Timely lim id) l acts)
    (hr : runE (Link.step id) l acts = .ok l') : Synced lim l' := by
  induction acts generalizing l written heard info with
  | nil =>
    cases hr
    exact hsync
  | cons a acts ih =>
    obtain ⟨m, hm, hr⟩ := runE_cons_ok.mp hr
    obtain ⟨written', heard', info', h'⟩ := h.step ht.1 hm
    exact ih (hsync.step h ht.1 hm) h' (ht.2 m hm) hr

/-- Updates every two seconds at least, and a second on the wire. -/
def easy : Limits where
  serve := 2000000
  play := 2000000
  carry := 1000000
  serve_nonneg := by decide
  play_nonneg := by decide
  carry_nonneg := by decide
  answer := by decide
  question := by decide

def allTake : Transport := fun _ => true

/-- A client joins. -/
def guest : List (Transport × Server.Act) := [(allTake, .call (.addClient 1 10))]

/-- It is asked after a second, and answers. The server has the answer before the client has
written down what it was told, and an update of the client comes between its two writes. -/
def exchange : List (ℤ × Act) :=
  [(1000000, .serve allTake), (1100000, .play), (1200000, .receive),
    (1300000, .reply (allTake, .udpHeartbeat 1 10)), (1310000, .setTime), (1320000, .play),
    (1330000, .catchUp), (1400000, .play), (1500000, .serve allTake)]

lemma guest_joined : Joined 0 (Run.run Server.act Server.start guest) 0 0 where
  entry := ⟨.new .UDP 1 10 0, by decide, by decide, by decide⟩
  clock := ⟨by decide, by decide⟩
  later := by decide

lemma exchange_timely :
    ∃ l, runE (Link.step 0) (start (Run.run Server.act Server.start guest) 0 0) exchange = .ok l ∧
      AlongE (Link.step 0) (Timely easy 0) (start (Run.run Server.act Server.start guest) 0 0)
        exchange := by
  refine ⟨_, rfl, ?_⟩
  refine (alongE_cons_ok rfl).mpr ⟨⟨by decide, by decide, by decide, by decide, by decide,
    by decide, fun h => (by cases h), by decide, rfl⟩, ?_⟩
  refine (alongE_cons_ok rfl).mpr ⟨⟨by decide, by decide, by decide, by decide, by decide,
    by decide, fun _ h => absurd h (by decide), by decide, trivial⟩, ?_⟩
  refine (alongE_cons_ok rfl).mpr ⟨⟨by decide, by decide, by decide, by decide, by decide,
    by decide, fun h => (by cases h), by decide, trivial⟩, ?_⟩
  refine (alongE_cons_ok rfl).mpr ⟨⟨by decide, by decide, by decide, by decide, by decide,
    by decide, fun h => (by cases h), by decide, admitted_udpHeartbeat (by decide) allTake⟩, ?_⟩
  refine (alongE_cons_ok rfl).mpr ⟨⟨by decide, by decide, by decide, by decide, by decide,
    by decide, fun h => (by cases h), by decide, trivial⟩, ?_⟩
  refine (alongE_cons_ok rfl).mpr ⟨⟨by decide, by decide, by decide, by decide, by decide,
    by decide, fun _ _ => (by unfold Client.Overdue; decide), by decide, trivial⟩, ?_⟩
  refine (alongE_cons_ok rfl).mpr ⟨⟨by decide, by decide, by decide, by decide, by decide,
    by decide, fun h => (by cases h), by decide, trivial⟩, ?_⟩
  refine (alongE_cons_ok rfl).mpr ⟨⟨by decide, by decide, by decide, by decide, by decide,
    by decide, fun _ h => absurd h (by decide), by decide, trivial⟩, ?_⟩
  exact (alongE_cons_ok rfl).mpr ⟨⟨by decide, by decide, by decide, by decide, by decide,
    by decide, fun h => (by cases h), by decide, rfl⟩, trivial⟩

end Link

end Sfrpg
