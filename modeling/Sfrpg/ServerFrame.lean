import Sfrpg.Server

/-!
What each section of the server changes, read entry by entry.

`Frame` collects the members a send leaves alone. A section that rewrites the registry is
described by what it does to the entry of one client, and for the loop of `update` the sweep
rule turns the effect of one pass into the effect of the loop.
-/

namespace Sfrpg

open Lib Lib.Word

namespace Server

variable {s t u : Server} {tr : Transport} {id i : ClientID} {info : ClientInfo}

/-! ### Sections that only send -/

/-- Everything but the history and the traffic counters is unchanged, and nobody joined. -/
structure Frame (s t : Server) : Prop where
  selector : t.selector = s.selector
  clientMap : t.clientMap = s.clientMap
  tcpClients : t.tcpClients = s.tcpClients
  running : t.running = s.running
  lastID : t.lastID = s.lastID
  serverTime : t.serverTime = s.serverTime
  joined : clientsAdded t.log = clientsAdded s.log

lemma Frame.refl (s : Server) : Frame s s := ⟨rfl, rfl, rfl, rfl, rfl, rfl, rfl⟩

lemma Frame.trans (h : Frame s t) (h' : Frame t u) : Frame s u where
  selector := h'.selector.trans h.selector
  clientMap := h'.clientMap.trans h.clientMap
  tcpClients := h'.tcpClients.trans h.tcpClients
  running := h'.running.trans h.running
  lastID := h'.lastID.trans h.lastID
  serverTime := h'.serverTime.trans h.serverTime
  joined := h'.joined.trans h.joined

lemma deliver_frame (tr : Transport) (id : ClientID) (p : Packet) (s : Server) :
    Frame s (s.deliver tr id p).1 :=
  ⟨rfl, rfl, rfl, rfl, rfl, rfl, by simp [deliver, clientsAdded]⟩

lemma send_cases (tr : Transport) (id : ClientID) (p : Packet) (s : Server) :
    s.send tr id p = (s, false) ∨ s.send tr id p = s.deliver tr id p := by
  unfold send
  split
  · exact .inl rfl
  · split
    · exact .inl rfl
    · split
      · exact .inl rfl
      · exact .inr rfl

lemma broadcastOne_cases (tr : Transport) (p : Packet) (ignore : ClientID) (s : Server)
    (id : ClientID) : broadcastOne tr p ignore s id = s ∨
      broadcastOne tr p ignore s id = (s.deliver tr id p).1 := by
  unfold broadcastOne
  split
  · exact .inl rfl
  · split
    · exact .inl rfl
    · split
      · exact .inl rfl
      · exact .inr rfl

/-- **The rule of sending**: what giving the packet to the transport keeps, a send keeps. -/
lemma send_inv {I : Server → Prop} {p : Packet} (hI : ∀ t id, I t → I (t.deliver tr id p).1)
    (hs : I s) (id : ClientID) : I (s.send tr id p).1 := by
  obtain h | h := send_cases tr id p s
  · rwa [h]
  · rw [h]
    exact hI s id hs

lemma broadcast_inv {I : Server → Prop} {p : Packet} (hI : ∀ t id, I t → I (t.deliver tr id p).1)
    (hs : I s) (ignore : ClientID) : I (s.broadcast tr p ignore) := by
  unfold broadcast
  split
  · exact hs
  · refine Dict.foldl_inv (fun t id ht => ?_) _ hs
    obtain h | h := broadcastOne_cases tr p ignore t id
    · rwa [h]
    · rw [h]
      exact hI t id ht

lemma send_frame (tr : Transport) (id : ClientID) (p : Packet) (s : Server) :
    Frame s (s.send tr id p).1 :=
  send_inv (fun t i h => h.trans (deliver_frame tr i p t)) (.refl s) id

lemma broadcast_frame (tr : Transport) (p : Packet) (ignore : ClientID) (s : Server) :
    Frame s (s.broadcast tr p ignore) :=
  broadcast_inv (fun t i h => h.trans (deliver_frame tr i p t)) (.refl s) ignore

/-! ### The endpoint search -/

lemma ClientInfo_at_iff {ip : IpAddress} {port : PortNumber} :
    info.at ip port = true ↔ info.clientIP = ip ∧ info.clientPORT = port := by
  simp [ClientInfo.at]

lemma findClient_some {ip : IpAddress} {port : PortNumber} (h : s.findClient ip port = some id) :
    ∃ info, s.clientMap.lookup id = some info ∧ info.clientIP = ip ∧ info.clientPORT = port := by
  obtain ⟨info, hl, ha⟩ := Dict.findKey_some h
  exact ⟨info, hl, ClientInfo_at_iff.mp ha⟩

lemma findClient_none {ip : IpAddress} {port : PortNumber} :
    s.findClient ip port = none ↔ ∀ id info, s.clientMap.lookup id = some info →
      ¬ (info.clientIP = ip ∧ info.clientPORT = port) := by
  rw [findClient, Dict.findKey_none]
  constructor
  · intro h id info hl ha
    have := h id info hl
    rw [ClientInfo_at_iff.mpr ha] at this
    cases this
  · intro h id info hl
    by_contra hc
    exact h id info hl (ClientInfo_at_iff.mp (by simpa using hc))

/-! ### Joining and leaving -/

/-- `addClient` on a running server: nothing for a known endpoint, else one new entry at the
counter. -/
lemma addClient_cases (protocol : NetworkProtocol) (ip : IpAddress) (port : PortNumber)
    (hrun : s.running = true) :
    ((∃ i, s.findClient ip port = some i) ∧
      s.addClient protocol ip port = (s, Network.NullID)) ∨
    (s.findClient ip port = none ∧
      (s.addClient protocol ip port).2 = toInt32 s.lastID ∧
      (s.addClient protocol ip port).1 =
        { s with
          clientMap := Dict.emplace (toInt32 s.lastID) (.new protocol ip port s.serverTime)
            s.clientMap
          lastID := (s.lastID + 1) % 4294967296
          log := if toInt32 s.lastID ∈ s.clientMap then s.log
            else .joined (toInt32 s.lastID) ip port :: s.log }) := by
  unfold addClient
  simp only [hrun, Bool.not_true, Bool.false_eq_true, if_false]
  cases h : s.findClient ip port with
  | some i => exact .inl ⟨⟨i, rfl⟩, rfl⟩
  | none => exact .inr ⟨rfl, rfl, rfl⟩

lemma removeClient_cases (tr : Transport) (id : ClientID) (s : Server) :
    (s.removeClient tr id).1 = s ∨
    ((s.removeClient tr id).1 = { (s.send tr id disconnectPacket).1 with
      clientMap := s.clientMap.erase id }) := by
  unfold removeClient
  split
  · exact .inl rfl
  · split
    · exact .inl rfl
    · right
      dsimp only
      rw [(send_frame tr id disconnectPacket s).clientMap]

lemma removeClient_running (hrun : s.running = true) (hmem : id ∈ s.clientMap) :
    (s.removeClient tr id).1 = { (s.send tr id disconnectPacket).1 with
      clientMap := s.clientMap.erase id } := by
  unfold removeClient
  simp only [hrun, Bool.not_true, Bool.false_eq_true, if_false, hmem, not_true_eq_false]
  rw [(send_frame tr id disconnectPacket s).clientMap]

lemma removeClientAt_cases (tr : Transport) (ip : IpAddress) (port : PortNumber) (s : Server) :
    (s.removeClientAt tr ip port).1 = s ∨
    ∃ id, s.findClient ip port = some id ∧
      (s.removeClientAt tr ip port).1 = { (s.send tr id disconnectPacket).1 with
        clientMap := s.clientMap.erase id } := by
  unfold removeClientAt
  split
  · exact .inl rfl
  · cases h : s.findClient ip port with
    | none => exact .inl rfl
    | some id =>
      right
      refine ⟨id, rfl, ?_⟩
      dsimp only
      rw [(send_frame tr id disconnectPacket s).clientMap]

/-! ### The loop of `update` -/

/-- What one pass of the loop leaves of an entry. -/
def swept (s : Server) (info : ClientInfo) : Option ClientInfo :=
  if s.Expired info then none
  else if s.HeartbeatDue info then some (markSent s.serverTime info)
  else some info

lemma elapsed_congr (h : t.serverTime = s.serverTime) (info : ClientInfo) :
    t.elapsed info = s.elapsed info := by
  rw [elapsed, elapsed, h]

lemma expired_congr (h : t.serverTime = s.serverTime) (info : ClientInfo) :
    t.Expired info ↔ s.Expired info := by
  rw [Expired, Expired, elapsed_congr h]

lemma heartbeatDue_congr (h : t.serverTime = s.serverTime) (info : ClientInfo) :
    t.HeartbeatDue info ↔ s.HeartbeatDue info := by
  rw [HeartbeatDue, HeartbeatDue, elapsed_congr h]

lemma swept_congr (h : t.serverTime = s.serverTime) : t.swept = s.swept := by
  funext info
  simp only [swept, expired_congr h, heartbeatDue_congr h, h]

/-- The members no pass of the loop touches. -/
structure SweepFrame (s t : Server) : Prop where
  selector : t.selector = s.selector
  tcpClients : t.tcpClients = s.tcpClients
  running : t.running = s.running
  lastID : t.lastID = s.lastID
  serverTime : t.serverTime = s.serverTime
  joined : clientsAdded t.log = clientsAdded s.log

lemma SweepFrame.refl (s : Server) : SweepFrame s s := ⟨rfl, rfl, rfl, rfl, rfl, rfl⟩

lemma SweepFrame.trans (h : SweepFrame s t) (h' : SweepFrame t u) : SweepFrame s u where
  selector := h'.selector.trans h.selector
  tcpClients := h'.tcpClients.trans h.tcpClients
  running := h'.running.trans h.running
  lastID := h'.lastID.trans h.lastID
  serverTime := h'.serverTime.trans h.serverTime
  joined := h'.joined.trans h.joined

lemma updateClient_frame (tr : Transport) (s : Server) (id : ClientID) :
    SweepFrame s (updateClient tr s id) := by
  unfold updateClient
  split
  · exact .refl s
  · split
    · exact ⟨rfl, rfl, rfl, rfl, rfl, rfl⟩
    · split
      · have h := send_frame tr id s.heartbeatPacket s
        exact ⟨h.selector, h.tcpClients, h.running, h.lastID, h.serverTime, h.joined⟩
      · exact .refl s

lemma lookup_updateClient (tr : Transport) (s : Server) (id : ClientID) :
    (updateClient tr s id).clientMap.lookup id = (s.clientMap.lookup id).bind s.swept := by
  cases h : s.clientMap.lookup id with
  | none => simp [updateClient, h]
  | some info =>
    by_cases hx : s.Expired info
    · simp [updateClient, h, hx, swept]
    · by_cases hd : s.HeartbeatDue info
      · have hf := (send_frame tr id s.heartbeatPacket s).clientMap
        simp [updateClient, h, hx, hd, swept, hf]
      · simp [updateClient, h, hx, hd, swept]

lemma lookup_updateClient_ne (tr : Transport) (s : Server) (hne : i ≠ id) :
    (updateClient tr s id).clientMap.lookup i = s.clientMap.lookup i := by
  cases h : s.clientMap.lookup id with
  | none => simp [updateClient, h]
  | some info =>
    by_cases hx : s.Expired info
    · simp [updateClient, h, hx, AList.lookup_erase_ne hne]
    · by_cases hd : s.HeartbeatDue info
      · have hf := (send_frame tr id s.heartbeatPacket s).clientMap
        simp [updateClient, h, hx, hd, hf, Dict.lookup_modify_ne hne]
      · simp [updateClient, h, hx, hd]

lemma sweep_frame (tr : Transport) (s : Server) : SweepFrame s (s.sweep tr) :=
  Dict.foldl_inv (I := SweepFrame s)
    (fun t id h => h.trans (updateClient_frame tr t id)) _ (.refl s)

/-- **The loop acts on every entry as one pass does.** -/
theorem lookup_sweep (tr : Transport) (s : Server) (id : ClientID) :
    (s.sweep tr).clientMap.lookup id = (s.clientMap.lookup id).bind s.swept := by
  have h := Dict.obs_foldl (o := fun t i => t.clientMap.lookup i) (f := updateClient tr)
    (I := fun t => t.serverTime = s.serverTime) (g := fun _ o => o.bind s.swept)
    (fun t i ht => (updateClient_frame tr t i).serverTime.trans ht)
    (fun t i ht => by rw [lookup_updateClient, swept_congr ht])
    (fun t i i' _ hne => lookup_updateClient_ne tr t hne)
    s.clientMap.keys_nodup rfl id
  rw [sweep, h]
  split
  · rfl
  · next hnot =>
    have : s.clientMap.lookup id = none := AList.lookup_eq_none.mpr (by rwa [AList.mem_keys])
    rw [this]; rfl

lemma swept_some {o : Option ClientInfo} (h : o.bind s.swept = some info) :
    ∃ old, o = some old ∧ info.protocol = old.protocol ∧
      info.clientIP = old.clientIP ∧ info.clientPORT = old.clientPORT := by
  obtain ⟨old, hold, hs⟩ := Option.bind_eq_some_iff.mp h
  refine ⟨old, hold, ?_⟩
  unfold swept at hs
  split at hs
  · cases hs
  · split at hs <;> cases hs <;> exact ⟨rfl, rfl, rfl⟩

lemma lookup_sweep_some (h : (s.sweep tr).clientMap.lookup id = some info) :
    ∃ old, s.clientMap.lookup id = some old ∧ info.protocol = old.protocol ∧
      info.clientIP = old.clientIP ∧ info.clientPORT = old.clientPORT :=
  swept_some (lookup_sweep tr s id ▸ h)

/-! ### The clock -/

/-- Whether the clock wraps in an update by `dt`. -/
def Wraps (s : Server) (dt : Time) : Prop := (s.serverTime + dt).asMilliseconds < 0

instance (s : Server) (dt : Time) : Decidable (s.Wraps dt) :=
  inferInstanceAs (Decidable (_ < _))

lemma advance_of_wraps {dt : Time} (h : s.Wraps dt) :
    s.advance dt = { s with
      serverTime := s.serverTime + dt - .milliseconds Network.HighestTimestamp
      clientMap := Dict.mapVals (fun _ => rebase) s.clientMap } := by
  unfold Wraps at h
  simp [advance, h]

lemma advance_of_not_wraps {dt : Time} (h : ¬ s.Wraps dt) :
    s.advance dt = { s with serverTime := s.serverTime + dt } := by
  unfold Wraps at h
  simp [advance, h]

lemma lookup_advance (dt : Time) (s : Server) (id : ClientID) :
    (s.advance dt).clientMap.lookup id =
      (s.clientMap.lookup id).map (if s.Wraps dt then rebase else fun info => info) := by
  by_cases h : s.Wraps dt
  · rw [advance_of_wraps h]; simp [Dict.lookup_mapVals, h]
  · rw [advance_of_not_wraps h]; simp [h]

lemma advance_frame (dt : Time) (s : Server) :
    (s.advance dt).selector = s.selector ∧ (s.advance dt).tcpClients = s.tcpClients ∧
    (s.advance dt).running = s.running ∧ (s.advance dt).lastID = s.lastID ∧
    (s.advance dt).log = s.log := by
  by_cases h : s.Wraps dt
  · rw [advance_of_wraps h]; exact ⟨rfl, rfl, rfl, rfl, rfl⟩
  · rw [advance_of_not_wraps h]; exact ⟨rfl, rfl, rfl, rfl, rfl⟩

lemma lookup_advance_some {dt : Time} (h : (s.advance dt).clientMap.lookup id = some info) :
    ∃ old, s.clientMap.lookup id = some old ∧ info.protocol = old.protocol ∧
      info.clientIP = old.clientIP ∧ info.clientPORT = old.clientPORT := by
  rw [lookup_advance] at h
  obtain ⟨old, hold, rfl⟩ := Option.map_eq_some_iff.mp h
  refine ⟨old, hold, ?_⟩
  split <;> exact ⟨rfl, rfl, rfl⟩

lemma update_eq (hrun : s.running = true) (tr : Transport) (dt : Time) :
    s.update tr dt = (s.advance dt).sweep tr := by
  simp [update, hrun]

lemma update_serverTime (hrun : s.running = true) (tr : Transport) (dt : Time) :
    (s.update tr dt).serverTime = (s.advance dt).serverTime := by
  rw [update_eq hrun, (sweep_frame tr (s.advance dt)).serverTime]

/-! ### Replies -/

lemma heartbeatReply_cases (id : ClientID) (s : Server) :
    s.heartbeatReply id = s ∨
    ∃ info, s.clientMap.lookup id = some info ∧ info.heartbeatWaiting = true ∧
      s.heartbeatReply id = { s with
        clientMap := Dict.modify id (markReply s.serverTime) s.clientMap
        log := .reply id :: s.log } := by
  unfold heartbeatReply
  cases h : s.clientMap.lookup id with
  | none => exact .inl rfl
  | some info =>
    by_cases hw : info.heartbeatWaiting = true
    · exact .inr ⟨info, rfl, hw, by simp [hw]⟩
    · exact .inl (by simp [hw])

lemma lookup_heartbeatReply_some (h : (s.heartbeatReply id).clientMap.lookup i = some info) :
    ∃ old, s.clientMap.lookup i = some old ∧ info.protocol = old.protocol ∧
      info.clientIP = old.clientIP ∧ info.clientPORT = old.clientPORT := by
  obtain he | ⟨old, hold, -, he⟩ := heartbeatReply_cases id s
  · rw [he] at h; exact ⟨info, h, rfl, rfl, rfl⟩
  · rw [he] at h
    by_cases hi : i = id
    · subst hi
      rw [Dict.lookup_modify, hold] at h
      cases h
      exact ⟨old, hold, rfl, rfl, rfl⟩
    · rw [Dict.lookup_modify_ne hi] at h
      exact ⟨info, h, rfl, rfl, rfl⟩

lemma udpHeartbeat_cases (ip : IpAddress) (port : PortNumber) (s : Server) :
    s.udpHeartbeat ip port = s ∨ ∃ id, s.udpHeartbeat ip port = s.heartbeatReply id := by
  unfold udpHeartbeat
  cases s.findClient ip port with
  | none => exact .inl rfl
  | some id => exact .inr ⟨id, rfl⟩

/-! ### Sections that add nobody -/

/-- No client is added: every entry was there before, under its protocol and endpoint, and the
sockets stay as they are. -/
structure Narrows (s t : Server) : Prop where
  selector : t.selector = s.selector
  tcpClients : t.tcpClients = s.tcpClients
  running : t.running = s.running
  lastID : t.lastID = s.lastID
  joined : clientsAdded t.log = clientsAdded s.log
  entries : ∀ id info, t.clientMap.lookup id = some info →
    ∃ old, s.clientMap.lookup id = some old ∧ info.protocol = old.protocol ∧
      info.clientIP = old.clientIP ∧ info.clientPORT = old.clientPORT

lemma Narrows.refl (s : Server) : Narrows s s :=
  ⟨rfl, rfl, rfl, rfl, rfl, fun _ info h => ⟨info, h, rfl, rfl, rfl⟩⟩

lemma Narrows.trans (h : Narrows s t) (h' : Narrows t u) : Narrows s u where
  selector := h'.selector.trans h.selector
  tcpClients := h'.tcpClients.trans h.tcpClients
  running := h'.running.trans h.running
  lastID := h'.lastID.trans h.lastID
  joined := h'.joined.trans h.joined
  entries := by
    intro id info hi
    obtain ⟨mid, hm, hp, hip, hport⟩ := h'.entries id info hi
    obtain ⟨old, ho, hp', hip', hport'⟩ := h.entries id mid hm
    exact ⟨old, ho, hp.trans hp', hip.trans hip', hport.trans hport'⟩

lemma Frame.narrows (h : Frame s t) : Narrows s t where
  selector := h.selector
  tcpClients := h.tcpClients
  running := h.running
  lastID := h.lastID
  joined := h.joined
  entries := fun _ info hi => ⟨info, by rwa [h.clientMap] at hi, rfl, rfl, rfl⟩

lemma Frame.narrows_erase (h : Frame s t) (id : ClientID) :
    Narrows s { t with clientMap := s.clientMap.erase id } where
  selector := h.selector
  tcpClients := h.tcpClients
  running := h.running
  lastID := h.lastID
  joined := h.joined
  entries := fun _ info hi => ⟨info, (Dict.lookup_erase_some hi).2, rfl, rfl, rfl⟩

lemma removeClient_narrows (tr : Transport) (id : ClientID) (s : Server) :
    Narrows s (s.removeClient tr id).1 := by
  obtain h | h := removeClient_cases tr id s
  · rw [h]; exact .refl s
  · rw [h]; exact (send_frame tr id disconnectPacket s).narrows_erase id

lemma removeClientAt_narrows (tr : Transport) (ip : IpAddress) (port : PortNumber) (s : Server) :
    Narrows s (s.removeClientAt tr ip port).1 := by
  obtain h | ⟨id, -, h⟩ := removeClientAt_cases tr ip port s
  · rw [h]; exact .refl s
  · rw [h]; exact (send_frame tr id disconnectPacket s).narrows_erase id

lemma advance_narrows (dt : Time) (s : Server) : Narrows s (s.advance dt) := by
  obtain ⟨hsel, htcp, hrun, hid, hlog⟩ := advance_frame dt s
  exact ⟨hsel, htcp, hrun, hid, by rw [hlog], fun _ _ hi => lookup_advance_some hi⟩

lemma updateClient_narrows (tr : Transport) (s : Server) (id : ClientID) :
    Narrows s (s.updateClient tr id) := by
  have hf := updateClient_frame tr s id
  refine ⟨hf.selector, hf.tcpClients, hf.running, hf.lastID, hf.joined, fun i info hi => ?_⟩
  by_cases hid : i = id
  · rw [hid] at hi ⊢
    rw [lookup_updateClient] at hi
    exact swept_some hi
  · rw [lookup_updateClient_ne tr s hid] at hi
    exact ⟨info, hi, rfl, rfl, rfl⟩

lemma sweep_narrows (tr : Transport) (s : Server) : Narrows s (s.sweep tr) := by
  have h := sweep_frame tr s
  exact ⟨h.selector, h.tcpClients, h.running, h.lastID, h.joined,
    fun _ _ hi => lookup_sweep_some hi⟩

lemma update_narrows (tr : Transport) (dt : Time) (s : Server) : Narrows s (s.update tr dt) := by
  unfold update
  split
  · exact .refl s
  · exact (advance_narrows dt s).trans (sweep_narrows tr _)

lemma heartbeatReply_narrows (id : ClientID) (s : Server) : Narrows s (s.heartbeatReply id) := by
  have he : ∀ i info, (s.heartbeatReply id).clientMap.lookup i = some info → _ :=
    fun i info hi => lookup_heartbeatReply_some hi
  obtain h | ⟨old, -, -, h⟩ := heartbeatReply_cases id s
  · rw [h]; exact .refl s
  · refine ⟨by rw [h], by rw [h], by rw [h], by rw [h], ?_, he⟩
    rw [h]; simp [clientsAdded]

lemma udpHeartbeat_narrows (ip : IpAddress) (port : PortNumber) (s : Server) :
    Narrows s (s.udpHeartbeat ip port) := by
  obtain h | ⟨id, h⟩ := udpHeartbeat_cases ip port s
  · rw [h]; exact .refl s
  · rw [h]; exact heartbeatReply_narrows id s

end Server

end Sfrpg
