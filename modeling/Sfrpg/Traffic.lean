import Sfrpg.Sockets
import Sfrpg.Systems

/-!
What `m_totalSent` counts.

Every way to send a packet ends in `deliver`, which counts it if the transport takes it. Only
`update` adds the size of a heartbeat once more, whether the transport took it or not.
-/

namespace Sfrpg

open Lib Lib.Word Lib.Run

namespace Server

variable {s t : Server} {tr : Transport} {id : ClientID}

/-- The bytes the transport has taken: a packet counts once for each client it was sent to. -/
def sentBytes : List LogEntry → ℕ
  | [] => 0
  | .sent _ p accepted :: l => (if accepted then p.getDataSize else 0) + sentBytes l
  | _ :: l => sentBytes l

/-- How far `m_totalSent` is ahead of the bytes sent. -/
def surplus (s : Server) : ℤ := s.totalSent - sentBytes s.log

/-! ### Sections that count right -/

lemma surplus_congr (htotal : t.totalSent = s.totalSent)
    (hlog : sentBytes t.log = sentBytes s.log) :
    t.surplus = s.surplus := by
  rw [surplus, surplus, htotal, hlog]

lemma surplus_deliver (tr : Transport) (id : ClientID) (p : Packet) (s : Server) :
    (s.deliver tr id p).1.surplus = s.surplus := by
  simp only [surplus, deliver, sentBytes]
  split <;> push_cast <;> omega

lemma surplus_send (tr : Transport) (id : ClientID) (p : Packet) (s : Server) :
    (s.send tr id p).1.surplus = s.surplus :=
  send_inv (I := fun t : Server => t.surplus = s.surplus)
    (fun t i ht => (surplus_deliver tr i p t).trans ht) rfl id

lemma surplus_broadcast (tr : Transport) (p : Packet) (ignore : ClientID) (s : Server) :
    (s.broadcast tr p ignore).surplus = s.surplus :=
  broadcast_inv (I := fun t : Server => t.surplus = s.surplus)
    (fun t i ht => (surplus_deliver tr i p t).trans ht) rfl ignore

lemma surplus_sendTo {ip : IpAddress} {port : PortNumber} {p : Packet} {r : Server × Bool}
    (h : s.sendTo tr ip port p = some r) : r.1.surplus = s.surplus := by
  unfold sendTo at h
  split at h
  · cases h
    rfl
  split at h
  · cases h
    rfl
  split at h
  · cases h
    rfl
  split at h
  · cases h
  · cases h
    exact surplus_deliver tr _ p s

lemma surplus_addClient (protocol : NetworkProtocol) (ip : IpAddress) (port : PortNumber)
    (s : Server) : (s.addClient protocol ip port).1.surplus = s.surplus := by
  unfold addClient
  split
  · rfl
  split
  · rfl
  · refine surplus_congr rfl ?_
    dsimp only
    split <;> rfl

lemma surplus_removeClient (tr : Transport) (id : ClientID) (s : Server) :
    (s.removeClient tr id).1.surplus = s.surplus := by
  obtain h | h := removeClient_cases tr id s
  · rw [h]
  · rw [h]
    exact surplus_send tr id disconnectPacket s

lemma surplus_removeClientAt (tr : Transport) (ip : IpAddress) (port : PortNumber) (s : Server) :
    (s.removeClientAt tr ip port).1.surplus = s.surplus := by
  obtain h | ⟨id, -, h⟩ := removeClientAt_cases tr ip port s
  · rw [h]
  · rw [h]
    exact surplus_send tr id disconnectPacket s

lemma surplus_call (tr : Transport) (s : Server) (c : Call) :
    (s.call tr c).surplus = s.surplus := by
  cases c with
  | addClient ip port => exact surplus_addClient .UDP ip port s
  | removeClient id => exact surplus_removeClient tr id s
  | removeClientAt ip port => exact surplus_removeClientAt tr ip port s
  | send id p => exact surplus_send tr id p s
  | broadcast p ignore => exact surplus_broadcast tr p ignore s

lemma surplus_heartbeatReply (id : ClientID) (s : Server) :
    (s.heartbeatReply id).surplus = s.surplus := by
  obtain h | ⟨info, -, -, h⟩ := heartbeatReply_cases id s
  · rw [h]
  · rw [h]
    exact surplus_congr rfl rfl

lemma served_surplus (tr : Transport) (a : Arrivals) (x : ℤ) :
    Served tr a fun t => t.surplus = x where
  count _ _ h := h
  reply t id h := (surplus_heartbeatReply id t).trans h
  call t _ c _ h := (surplus_call tr t c).trans h
  remove t id h := (surplus_removeClient tr id t).trans h

lemma surplus_tcpReady (tr : Transport) (a : Arrivals) (s : Server) :
    (s.tcpReady tr a).surplus = s.surplus :=
  (served_surplus tr a s.surplus).tcpReady (fun _ _ h => h) rfl

lemma surplus_accept (n : ℕ) (ip : IpAddress) (port : PortNumber) (s : Server) :
    (s.accept n ip port).surplus = s.surplus :=
  surplus_addClient .TCP ip port { s with selector := .socket n :: s.selector }

lemma surplus_advance (dt : Time) (s : Server) : (s.advance dt).surplus = s.surplus := by
  unfold advance
  dsimp only
  split <;> rfl

lemma surplus_udpHeartbeat (ip : IpAddress) (port : PortNumber) (s : Server) :
    (s.udpHeartbeat ip port).surplus = s.surplus := by
  obtain h | ⟨id, h⟩ := udpHeartbeat_cases ip port s
  · rw [h]
  · rw [h]
    exact surplus_heartbeatReply id s

/-! ### The loop of `update` -/

/-- The loop sends the client `id` a heartbeat. -/
def Beat (s : Server) (id : ClientID) : Prop :=
  match s.clientMap.lookup id with
  | none => False
  | some info => ¬ s.Expired info ∧ s.HeartbeatDue info

instance decidableBeat (s : Server) (id : ClientID) : Decidable (s.Beat id) :=
  match h : s.clientMap.lookup id with
  | none => isFalse (by simp [Beat, h])
  | some info => decidable_of_iff (¬ s.Expired info ∧ s.HeartbeatDue info) (by simp [Beat, h])

lemma beat_congr (htime : t.serverTime = s.serverTime)
    (hid : t.clientMap.lookup id = s.clientMap.lookup id) : t.Beat id ↔ s.Beat id := by
  unfold Beat
  rw [hid]
  cases s.clientMap.lookup id with
  | none => rfl
  | some info =>
    exact and_congr (not_congr (expired_congr htime info)) (heartbeatDue_congr htime info)

/-- The heartbeats a pass of the loop over all clients sends. -/
def beats (s : Server) : ℕ := s.clientMap.keys.countP fun id => s.Beat id

lemma heartbeatPacket_size (s : Server) : s.heartbeatPacket.getDataSize = 5 := rfl

lemma surplus_updateClient (tr : Transport) (s : Server) (id : ClientID) :
    (updateClient tr s id).surplus = s.surplus + if s.Beat id then 5 else 0 := by
  cases h : s.clientMap.lookup id with
  | none => simp [updateClient, Beat, h]
  | some info =>
    by_cases hx : s.Expired info
    · simp [updateClient, Beat, h, hx, surplus]
    by_cases hd : s.HeartbeatDue info
    · -- `send` has counted the packet where the transport took it
      have hsend := surplus_send tr id s.heartbeatPacket s
      simp only [surplus] at hsend
      simp only [updateClient, Beat, h, hx, hd, if_true, if_false, not_false_eq_true, and_self,
        surplus, heartbeatPacket_size]
      push_cast
      omega
    · simp [updateClient, Beat, h, hx, hd]

lemma surplus_sweepFrom (tr : Transport) {ids : List ClientID} (hnodup : ids.Nodup)
    (htime : t.serverTime = s.serverTime)
    (hsame : ∀ id ∈ ids, t.clientMap.lookup id = s.clientMap.lookup id) :
    (ids.foldl (updateClient tr) t).surplus
      = t.surplus + 5 * (ids.countP fun id => s.Beat id : ℕ) := by
  induction ids generalizing t with
  | nil => simp
  | cons id ids ih =>
    obtain ⟨hid, hnodup⟩ := List.nodup_cons.mp hnodup
    obtain ⟨hhead, htail⟩ := List.forall_mem_cons.mp hsame
    have htime' : (updateClient tr t id).serverTime = s.serverTime :=
      (updateClient_frame tr t id).serverTime.trans htime
    have hsame' : ∀ i ∈ ids,
        (updateClient tr t id).clientMap.lookup i = s.clientMap.lookup i := by
      intro i hi
      have hne : i ≠ id := fun h => hid (h ▸ hi)
      rw [lookup_updateClient_ne tr t hne]
      exact htail i hi
    rw [List.foldl_cons, ih hnodup htime' hsame', surplus_updateClient, List.countP_cons]
    simp only [beat_congr htime hhead, decide_eq_true_eq]
    split <;> push_cast <;> omega

/-- **The loop counts every heartbeat once more than it is sent.** -/
theorem surplus_sweep (tr : Transport) (s : Server) :
    (s.sweep tr).surplus = s.surplus + 5 * s.beats :=
  surplus_sweepFrom tr s.clientMap.keys_nodup rfl fun _ _ => rfl

/-! ### Whole runs -/

/-- A step of a run whose sends are counted. A pass of `tcpListen` is one section, in which a
client's socket takes all it is sent or none of it; or it is the pieces it consists of, and every
send has its own outcome. -/
inductive Piece
  | act (tr : Transport) (a : Act)
  | sendTo (tr : Transport) (ip : IpAddress) (port : PortNumber) (packet : Packet)
  | receive (n : ℕ)
  | heartbeatReply (id : ClientID)
  | dropSocket (id : ClientID)
  | halt

def piece (s : Server) : Piece → Outcome Server
  | .act tr a => .ok (s.act (tr, a))
  | .sendTo tr ip port packet =>
    match s.sendTo tr ip port packet with
    | none => .error .nullDeref
    | some (t, _) => .ok t
  | .receive n => .ok { s with totalReceived := s.totalReceived + n }
  | .heartbeatReply id => .ok (s.heartbeatReply id)
  | .dropSocket id => .ok (s.dropSocket id)
  | .halt => .ok { s with running := false }

/-- No heartbeat is sent. -/
def Quiet (s : Server) : Piece → Prop
  | .act _ (.update dt) => s.running = true → (s.advance dt).beats = 0
  | .act _ .sweep => s.beats = 0
  | _ => True

lemma surplus_act (tr : Transport) (a : Act) (s : Server) :
    s.surplus ≤ (s.act (tr, a)).surplus ∧
      ((s.act (tr, a)).surplus = s.surplus ↔ Quiet s (.act tr a)) := by
  have hsame : ∀ {t : Server} {P : Prop}, t.surplus = s.surplus → P →
      s.surplus ≤ t.surplus ∧ (t.surplus = s.surplus ↔ P) :=
    fun h hp => ⟨h.ge, iff_of_true h hp⟩
  cases a with
  | accept n ip port => exact hsame (surplus_accept n ip port s) trivial
  | tcpReady a => exact hsame (surplus_tcpReady tr a s) trivial
  | udpHeartbeat ip port => exact hsame (surplus_udpHeartbeat ip port s) trivial
  | call c => exact hsame (surplus_call tr s c) trivial
  | update dt =>
    by_cases hrun : s.running = true
    · have h := surplus_sweep tr (s.advance dt)
      rw [surplus_advance] at h
      have hquiet : Quiet s (.act tr (.update dt)) ↔ (s.advance dt).beats = 0 :=
        ⟨fun hq => hq hrun, fun hb _ => hb⟩
      rw [hquiet, act, update_eq hrun, h]
      omega
    · have hstill : s.update tr dt = s := by simp [update, hrun]
      exact hsame (by rw [act, hstill]) fun h => absurd h hrun
  | advance dt => exact hsame (surplus_advance dt s) trivial
  | sweep =>
    rw [act, surplus_sweep, Quiet]
    omega
  | disconnectAll =>
    exact hsame (surplus_broadcast tr disconnectPacket Network.NullID s) trivial
  | clear => exact hsame rfl trivial

lemma surplus_piece {p : Piece} (h : s.piece p = .ok t) :
    s.surplus ≤ t.surplus ∧ (t.surplus = s.surplus ↔ Quiet s p) := by
  have hsame : t.surplus = s.surplus → Quiet s p →
      s.surplus ≤ t.surplus ∧ (t.surplus = s.surplus ↔ Quiet s p) :=
    fun h hq => ⟨h.ge, iff_of_true h hq⟩
  cases p with
  | act tr a =>
    cases h
    exact surplus_act tr a s
  | sendTo tr ip port packet =>
    cases hsend : s.sendTo tr ip port packet with
    | none => simp [piece, hsend] at h
    | some r =>
      simp only [piece, hsend, Except.ok.injEq] at h
      exact hsame (h ▸ surplus_sendTo hsend) trivial
  | receive n =>
    cases h
    exact hsame rfl trivial
  | heartbeatReply id =>
    cases h
    exact hsame (surplus_heartbeatReply id s) trivial
  | dropSocket id =>
    cases h
    exact hsame rfl trivial
  | halt =>
    cases h
    exact hsame rfl trivial

/-- `setUp`. The history begins with it. -/
def setUp (s : Server) : Server :=
  { s with running := false, lastID := 0, totalSent := 0, totalReceived := 0, log := [] }

/-- What `start` leaves of any server, also of one that has run before. -/
def started (s : Server) : Server := { s.setUp with running := true }

/-- **When `m_totalSent` is right.** In every run after a `setUp`, whatever is sent and whatever the
transport takes of it, the counter is the number of bytes taken, each packet counted once for each
client that received it, if and only if no update of the run has sent a heartbeat. -/
theorem totalSent_iff (s t : Server) (l : List Piece) (hr : runE piece s.started l = .ok t) :
    t.totalSent = sentBytes t.log ↔ AlongE piece Quiet s.started l := by
  have hzero : s.started.surplus = 0 := rfl
  have hrise := (runE_rises (fun u p v huv => surplus_piece huv) hr).2
  rw [hzero] at hrise
  rw [← hrise, surplus]
  omega

/-- A client joins, and a second later it is sent a heartbeat. -/
def firstBeat (accepted : Bool) : List Piece :=
  [.act (fun _ => true) (.call (.addClient 1 10)),
    .act (fun _ => accepted) (.update (.milliseconds 1000))]

/-- The update of this run sends a heartbeat, and the counter is wrong after it. -/
theorem totalSent_firstBeat :
    let t := reached piece start.started (firstBeat true)
    ¬ AlongE piece Quiet start.started (firstBeat true) ∧ t.totalSent ≠ sentBytes t.log := by
  intro t
  have hne : t.totalSent ≠ sentBytes t.log := by decide
  have hr : runE piece start.started (firstBeat true) = .ok t := runE_reached (by decide)
  exact ⟨fun hq => hne ((totalSent_iff start t (firstBeat true) hr).mpr hq), hne⟩

/-- The five bytes of a heartbeat are counted twice where the transport takes them, and once where
it does not. -/
theorem heartbeat_counted_twice :
    let t := reached piece start.started (firstBeat true)
    let u := reached piece start.started (firstBeat false)
    runE piece start.started (firstBeat true) = .ok t ∧
      runE piece start.started (firstBeat false) = .ok u ∧
      (t.totalSent = 10 ∧ sentBytes t.log = 5) ∧ u.totalSent = 5 ∧ sentBytes u.log = 0 := by
  intro t u
  exact ⟨runE_reached (by decide), runE_reached (by decide), by decide, by decide⟩

end Server

end Sfrpg
