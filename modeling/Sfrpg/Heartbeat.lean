import Sfrpg.Sockets

/-!
Heartbeats over whole runs: who is waited for, and who is given up.

Between two updates an entry of the registry either stays as it is or starts afresh, when its
client joins or when a reply of its is accepted. An update sends at most one heartbeat to a
client, and while that one is unanswered it sends no other. So the retry counter is the waiting
flag, and a client not waited for was heard of within the last interval.
-/

namespace Sfrpg

open Lib Lib.Word Lib.Run

namespace Server

variable {s t u : Server} {tr : Transport} {id i : ClientID} {info : ClientInfo}

/-! ### Heartbeats in the history -/

lemma heartbeatsSince_deliver (tr : Transport) (id : ClientID) (p : Packet) (s : Server)
    (i : ClientID) :
    heartbeatsSince i (s.deliver tr id p).1.log =
      (if id = i ∧ p.stamp = some PacketType.Heartbeat.id then 1 else 0)
        + heartbeatsSince i s.log := by
  simp [deliver, heartbeatsSince]

lemma heartbeatsSince_send_of_stamp {p : Packet} (hp : p.stamp ≠ some PacketType.Heartbeat.id)
    (tr : Transport) (id : ClientID) (s : Server) (i : ClientID) :
    heartbeatsSince i (s.send tr id p).1.log = heartbeatsSince i s.log := by
  refine send_inv (I := fun t : Server => heartbeatsSince i t.log = heartbeatsSince i s.log)
    (fun t j ht => ?_) rfl id
  rw [heartbeatsSince_deliver, ← ht]
  simp [hp]

lemma heartbeatsSince_send_ne (hne : i ≠ id) (tr : Transport) (p : Packet) (s : Server) :
    heartbeatsSince i (s.send tr id p).1.log = heartbeatsSince i s.log := by
  obtain h | h := send_cases tr id p s
  · rw [h]
  · rw [h, heartbeatsSince_deliver]
    simp [hne.symm]

lemma heartbeatsSince_broadcast {p : Packet} (hp : p.stamp ≠ some PacketType.Heartbeat.id)
    (tr : Transport) (ignore : ClientID) (s : Server) (i : ClientID) :
    heartbeatsSince i (s.broadcast tr p ignore).log = heartbeatsSince i s.log := by
  refine broadcast_inv (I := fun t : Server => heartbeatsSince i t.log = heartbeatsSince i s.log)
    (fun t j ht => ?_) rfl ignore
  rw [heartbeatsSince_deliver, ← ht]
  simp [hp]

lemma stamp_disconnectPacket : disconnectPacket.stamp ≠ some PacketType.Heartbeat.id := by
  rw [disconnectPacket, stamp_stampPacket]; decide

lemma stamp_heartbeatPacket (s : Server) :
    s.heartbeatPacket.stamp = some PacketType.Heartbeat.id :=
  stamp_putInt32 (stamp_stampPacket .Heartbeat) _

lemma heartbeatsSince_send_heartbeat (hrun : s.running = true)
    (hi : s.clientMap.lookup id = some info)
    (hsock : info.protocol = .TCP → id ∈ s.tcpClients) (tr : Transport) :
    heartbeatsSince id (s.send tr id s.heartbeatPacket).1.log = 1 + heartbeatsSince id s.log := by
  have hno : ¬ (info.protocol = .TCP ∧ id ∉ s.tcpClients) := fun ⟨hp, hm⟩ => hm (hsock hp)
  have he : s.send tr id s.heartbeatPacket = s.deliver tr id s.heartbeatPacket := by
    simp [send, hrun, hi, hno]
  rw [he, heartbeatsSince_deliver]
  simp [stamp_heartbeatPacket]

/-! ### Sections between two updates -/

/-- The entry of a client that has just joined or just replied. -/
structure Fresh (s : Server) (id : ClientID) (info : ClientInfo) : Prop where
  now : info.lastHeartbeat = s.serverTime
  waiting : info.heartbeatWaiting = false
  retry : info.heartbeatRetry = 0
  sent : heartbeatsSince id s.log = 0

/-- The clock stands still, and every entry is as it was or fresh. -/
structure Settles (s t : Server) : Prop where
  serverTime : t.serverTime = s.serverTime
  entries : ∀ id info, t.clientMap.lookup id = some info →
    (s.clientMap.lookup id = some info ∧ heartbeatsSince id t.log = heartbeatsSince id s.log) ∨
    Fresh t id info

lemma Settles.refl (s : Server) : Settles s s := ⟨rfl, fun _ _ h => .inl ⟨h, rfl⟩⟩

lemma Settles.trans (h : Settles s t) (h' : Settles t u) : Settles s u where
  serverTime := h'.serverTime.trans h.serverTime
  entries := by
    intro id info hi
    rcases h'.entries id info hi with ⟨ht, hl⟩ | hf
    · rcases h.entries id info ht with ⟨hs, hl'⟩ | hf
      · exact .inl ⟨hs, hl.trans hl'⟩
      · right
        exact ⟨hf.now.trans h'.serverTime.symm, hf.waiting, hf.retry, hl.trans hf.sent⟩
    · exact .inr hf

lemma settles_of_sub (htime : t.serverTime = s.serverTime)
    (hmap : ∀ id info, t.clientMap.lookup id = some info → s.clientMap.lookup id = some info)
    (hlog : ∀ id, heartbeatsSince id t.log = heartbeatsSince id s.log) : Settles s t :=
  ⟨htime, fun id info hi => .inl ⟨hmap id info hi, hlog id⟩⟩

lemma addClient_settles (protocol : NetworkProtocol) (ip : IpAddress) (port : PortNumber)
    (hrun : s.running = true) : Settles s (s.addClient protocol ip port).1 := by
  obtain ⟨-, he⟩ | ⟨-, -, he⟩ := addClient_cases protocol ip port hrun
  · rw [he]; exact .refl s
  · rw [he]
    refine ⟨rfl, fun id info hi => ?_⟩
    dsimp only at hi ⊢
    by_cases hmem : toInt32 s.lastID ∈ s.clientMap
    · rw [Dict.lookup_emplace_mem hmem] at hi
      exact .inl ⟨hi, by rw [if_pos hmem]⟩
    · rw [if_neg hmem]
      by_cases hid : id = toInt32 s.lastID
      · right
        rw [hid, Dict.lookup_emplace hmem] at hi
        cases hi
        exact ⟨rfl, rfl, rfl, by simp [heartbeatsSince, hid]⟩
      · rw [Dict.lookup_emplace_ne hid] at hi
        exact .inl ⟨hi, by simp [heartbeatsSince, Ne.symm hid]⟩

lemma erase_settles (tr : Transport) (id : ClientID) (s : Server) :
    Settles s { (s.send tr id disconnectPacket).1 with clientMap := s.clientMap.erase id } :=
  settles_of_sub (send_frame tr id disconnectPacket s).serverTime
    (fun _ _ hi => (Dict.lookup_erase_some hi).2)
    (heartbeatsSince_send_of_stamp stamp_disconnectPacket tr id s)

lemma removeClient_settles (tr : Transport) (id : ClientID) (s : Server) :
    Settles s (s.removeClient tr id).1 := by
  obtain h | h := removeClient_cases tr id s
  · rw [h]; exact .refl s
  · rw [h]; exact erase_settles tr id s

lemma removeClientAt_settles (tr : Transport) (ip : IpAddress) (port : PortNumber) (s : Server) :
    Settles s (s.removeClientAt tr ip port).1 := by
  obtain h | ⟨id, -, h⟩ := removeClientAt_cases tr ip port s
  · rw [h]; exact .refl s
  · rw [h]; exact erase_settles tr id s

lemma heartbeatReply_settles (id : ClientID) (s : Server) : Settles s (s.heartbeatReply id) := by
  obtain he | ⟨old, hold, -, he⟩ := heartbeatReply_cases id s
  · rw [he]; exact .refl s
  · rw [he]
    refine ⟨rfl, fun i info hi => ?_⟩
    dsimp only at hi ⊢
    by_cases hid : i = id
    · right
      rw [hid, Dict.lookup_modify, hold] at hi
      cases hi
      exact ⟨rfl, rfl, rfl, by simp [heartbeatsSince, hid]⟩
    · rw [Dict.lookup_modify_ne hid] at hi
      exact .inl ⟨hi, by simp [heartbeatsSince, Ne.symm hid]⟩

/-- The call sends no heartbeat: that is for `update` alone. -/
def Call.NoHeartbeat : Call → Prop
  | .send _ packet => packet.stamp ≠ some PacketType.Heartbeat.id
  | .broadcast packet _ => packet.stamp ≠ some PacketType.Heartbeat.id
  | _ => True

lemma call_settles (tr : Transport) {c : Call} (hc : c.NoHeartbeat) (hrun : s.running = true) :
    Settles s (s.call tr c) := by
  cases c with
  | addClient ip port => exact addClient_settles .UDP ip port hrun
  | removeClient id => exact removeClient_settles tr id s
  | removeClientAt ip port => exact removeClientAt_settles tr ip port s
  | send id packet =>
    have hf := send_frame tr id packet s
    exact settles_of_sub hf.serverTime (fun _ _ hi => hf.clientMap ▸ hi)
      (heartbeatsSince_send_of_stamp hc tr id s)
  | broadcast packet ignore =>
    have hf := broadcast_frame tr packet ignore s
    exact settles_of_sub hf.serverTime (fun _ _ hi => hf.clientMap ▸ hi)
      (heartbeatsSince_broadcast hc tr ignore s)

lemma served_settles (tr : Transport) {a : Arrivals}
    (ha : ∀ id, ∀ c ∈ a.calls id, c.NoHeartbeat) (s : Server) :
    Served tr a fun t => Settles s t ∧ t.running = true where
  count _ _ h := ⟨h.1.trans (settles_of_sub rfl (fun _ _ hi => hi) fun _ => rfl), h.2⟩
  reply t id h := ⟨h.1.trans (heartbeatReply_settles id t),
    (heartbeatReply_narrows id t).running.trans h.2⟩
  call t id c hc h := ⟨h.1.trans (call_settles tr (ha id c hc) h.2),
    (call_noNewTcp tr t c).running.trans h.2⟩
  remove t id h := ⟨h.1.trans (removeClient_settles tr id t),
    (removeClient_narrows tr id t).running.trans h.2⟩

lemma tcpReady_settles (tr : Transport) {a : Arrivals}
    (ha : ∀ id, ∀ c ∈ a.calls id, c.NoHeartbeat) (hrun : s.running = true) :
    Settles s (s.tcpReady tr a) := by
  refine ((served_settles tr ha s).tcpReady ?_ ⟨.refl s, hrun⟩).1
  rintro t id ⟨ht, hr⟩
  exact ⟨ht.trans (settles_of_sub rfl (fun _ _ hi => hi) fun _ => rfl), hr⟩

lemma accept_settles (n : ℕ) (ip : IpAddress) (port : PortNumber) (hrun : s.running = true) :
    Settles s (s.accept n ip port) := by
  have h : Settles s { s with selector := .socket n :: s.selector } :=
    settles_of_sub rfl (fun _ _ hi => hi) fun _ => rfl
  have h' := h.trans (addClient_settles .TCP ip port hrun)
  exact h'.trans (settles_of_sub rfl (fun _ _ hi => hi) fun _ => rfl)

lemma settles_of_empty (htime : t.serverTime = s.serverTime) (hmap : t.clientMap = ∅) :
    Settles s t := ⟨htime, fun id info hi => by rw [hmap] at hi; simp at hi⟩

/-! ### Paced runs -/

/-- A section of a run whose updates are each one step and satisfy `P`, and whose handlers send
no heartbeat. -/
def Paced (P : Server → Time → Prop) (s : Server) : Transport × Act → Prop
  | (_, .update dt) => P s dt
  | (_, .advance _) => False
  | (_, .sweep) => False
  | (_, .call c) => c.NoHeartbeat
  | (_, .tcpReady a) => ∀ id, ∀ c ∈ a.calls id, c.NoHeartbeat
  | _ => True

lemma Paced.cases {P : Server → Time → Prop} {a : Transport × Act} (ha : Paced P s a)
    (hrun : s.running = true) :
    (∃ tr dt, a = (tr, .update dt) ∧ P s dt) ∨ Settles s (act s a) := by
  obtain ⟨tr, a⟩ := a
  cases a with
  | accept n ip port => exact .inr (accept_settles n ip port hrun)
  | tcpReady a => exact .inr (tcpReady_settles tr ha hrun)
  | udpHeartbeat ip port =>
    right
    obtain h | ⟨id, h⟩ := udpHeartbeat_cases ip port s
    · rw [act, h]; exact .refl s
    · rw [act, h]; exact heartbeatReply_settles id s
  | call c => exact .inr (call_settles tr ha hrun)
  | update dt => exact .inl ⟨tr, dt, rfl, ha⟩
  | advance dt => exact ha.elim
  | sweep => exact ha.elim
  | disconnectAll =>
    exact .inr (settles_of_empty (broadcast_frame tr disconnectPacket Network.NullID s).serverTime
      rfl)
  | clear => exact .inr (settles_of_empty rfl rfl)

/-! ### What an update sends -/

/-- The heartbeats on record for a client after the loop. -/
def sweptCount (s : Server) (info : Option ClientInfo) (n : ℕ) : ℕ :=
  match info with
  | none => n
  | some info => if s.Expired info then n else if s.HeartbeatDue info then 1 + n else n

lemma sweptCount_congr (h : t.serverTime = s.serverTime) : t.sweptCount = s.sweptCount := by
  funext o n
  cases o with
  | none => rfl
  | some info =>
    simp only [sweptCount, expired_congr h, heartbeatDue_congr h]

lemma heartbeatsSince_updateClient (tr : Transport) (hrun : s.running = true)
    (hsock : Socketed s) (id : ClientID) :
    heartbeatsSince id (updateClient tr s id).log =
      s.sweptCount (s.clientMap.lookup id) (heartbeatsSince id s.log) := by
  cases h : s.clientMap.lookup id with
  | none => simp [updateClient, h, sweptCount]
  | some info =>
    by_cases hx : s.Expired info
    · simp [updateClient, h, hx, sweptCount]
    · by_cases hd : s.HeartbeatDue info
      · have hs := heartbeatsSince_send_heartbeat hrun h (fun hp => hsock id ⟨info, h, hp⟩) tr
        simp [updateClient, h, hx, hd, sweptCount, hs]
      · simp [updateClient, h, hx, hd, sweptCount]

lemma heartbeatsSince_updateClient_ne (tr : Transport) (s : Server) (hne : i ≠ id) :
    heartbeatsSince i (updateClient tr s id).log = heartbeatsSince i s.log := by
  cases h : s.clientMap.lookup id with
  | none => simp [updateClient, h]
  | some info =>
    by_cases hx : s.Expired info
    · simp [updateClient, h, hx]
    · by_cases hd : s.HeartbeatDue info
      · have hs := heartbeatsSince_send_ne hne tr s.heartbeatPacket s
        simp [updateClient, h, hx, hd, hs]
      · simp [updateClient, h, hx, hd]

/-- **The loop sends each client what one pass sends it.** -/
theorem heartbeatsSince_sweep (tr : Transport) (hrun : s.running = true) (hsock : Socketed s)
    (id : ClientID) :
    heartbeatsSince id (s.sweep tr).log =
      s.sweptCount (s.clientMap.lookup id) (heartbeatsSince id s.log) := by
  have h := Dict.obs_foldl
    (o := fun (t : Server) i => (t.clientMap.lookup i, heartbeatsSince i t.log))
    (f := updateClient tr)
    (I := fun t => t.serverTime = s.serverTime ∧ t.running = true ∧ Socketed t)
    (g := fun _ x => (x.1.bind s.swept, s.sweptCount x.1 x.2))
    (fun t i ht => ⟨(updateClient_frame tr t i).serverTime.trans ht.1,
      (updateClient_frame tr t i).running.trans ht.2.1,
      ht.2.2.noNewTcp (updateClient_narrows tr t i).noNewTcp⟩)
    (fun t i ht => by
      dsimp only
      rw [lookup_updateClient, heartbeatsSince_updateClient tr ht.2.1 ht.2.2, swept_congr ht.1,
        sweptCount_congr ht.1])
    (fun t i i' _ hne => by
      rw [lookup_updateClient_ne tr t hne, heartbeatsSince_updateClient_ne tr t hne])
    s.clientMap.keys_nodup ⟨rfl, hrun, hsock⟩ id
  have h2 := congrArg Prod.snd h
  rw [sweep]
  dsimp only at h2
  rw [h2]
  split
  · rfl
  · next hnot =>
    have : s.clientMap.lookup id = none := AList.lookup_eq_none.mpr (by rwa [AList.mem_keys])
    rw [this]; rfl

/-! ### The clock stays readable -/

/-- A time whose reading in milliseconds is exact. -/
def Time.Readable (t : Time) : Prop := 0 ≤ t.microseconds ∧ t.microseconds < 2147483648000

lemma Time.Readable.reading {t : Time} (h : Time.Readable t) :
    t.asMilliseconds = t.microseconds / 1000 := Time.asMilliseconds_of_lt h.1 h.2

/-- An update forward in time, after which the clock reads right also if it wraps. -/
def ClockOk (s : Server) (dt : Time) : Prop :=
  0 ≤ dt.microseconds ∧ (s.serverTime + dt).microseconds < 4294967295000

lemma wraps_iff {dt : Time} (h0 : 0 ≤ (s.serverTime + dt).microseconds)
    (h : (s.serverTime + dt).microseconds < 4294967296000) :
    s.Wraps dt ↔ 2147483648000 ≤ (s.serverTime + dt).microseconds :=
  Time.asMilliseconds_neg_iff h0 h

lemma readable_advance {dt : Time} (hs : Time.Readable s.serverTime) (hdt : s.ClockOk dt) :
    Time.Readable (s.advance dt).serverTime := by
  obtain ⟨hs0, hs1⟩ := hs
  obtain ⟨hd0, hd1⟩ := hdt
  have h0 : 0 ≤ (s.serverTime + dt).microseconds := by
    rw [Time.add_microseconds]; omega
  have hiff := wraps_iff h0 (by omega)
  by_cases hw : s.Wraps dt
  · have hge := hiff.mp hw
    rw [advance_of_wraps hw]
    simp only [Time.Readable, Time.sub_microseconds, Time.milliseconds_microseconds,
      Network.HighestTimestamp]
    omega
  · have hlt : (s.serverTime + dt).microseconds < 2147483648000 := by
      by_contra hc
      exact hw (hiff.mpr (by omega))
    rw [advance_of_not_wraps hw]
    exact ⟨h0, hlt⟩

lemma rebase_lastHeartbeat (h : Time.Readable info.lastHeartbeat) :
    (rebase info).lastHeartbeat =
      .milliseconds (2147483647 - info.lastHeartbeat.microseconds / 1000) := by
  have hle : info.lastHeartbeat.asMilliseconds - Network.HighestTimestamp ≤ 0 := by
    rw [h.reading, Network.HighestTimestamp]
    have := h.2
    omega
  rw [rebase, abs_of_nonpos hle, h.reading, Network.HighestTimestamp, neg_sub]

lemma readable_rebase (h : Time.Readable info.lastHeartbeat) :
    Time.Readable (rebase info).lastHeartbeat := by
  rw [rebase_lastHeartbeat h, Time.Readable, Time.milliseconds_microseconds]
  obtain ⟨h0, h1⟩ := h
  omega

/-- What an advance of the clock leaves of an entry. -/
def advanced (s : Server) (dt : Time) (info : ClientInfo) : ClientInfo :=
  if s.Wraps dt then rebase info else info

lemma advanced_of_wraps {dt : Time} (h : s.Wraps dt) : s.advanced dt info = rebase info :=
  if_pos h

lemma advanced_of_not_wraps {dt : Time} (h : ¬ s.Wraps dt) : s.advanced dt info = info :=
  if_neg h

lemma lookup_advance_eq (dt : Time) (s : Server) (id : ClientID) :
    (s.advance dt).clientMap.lookup id = (s.clientMap.lookup id).map (s.advanced dt) := by
  rw [lookup_advance]
  congr 1
  funext info
  unfold advanced
  split <;> rfl

lemma advanced_flags (s : Server) (dt : Time) (info : ClientInfo) :
    (s.advanced dt info).heartbeatWaiting = info.heartbeatWaiting ∧
    (s.advanced dt info).heartbeatRetry = info.heartbeatRetry := by
  unfold advanced
  split <;> exact ⟨rfl, rfl⟩

lemma readable_advanced (dt : Time) (h : Time.Readable info.lastHeartbeat) :
    Time.Readable (s.advanced dt info).lastHeartbeat := by
  unfold advanced
  split
  · exact readable_rebase h
  · exact h

lemma lookup_update (hrun : s.running = true) (tr : Transport) (dt : Time) (id : ClientID) :
    (s.update tr dt).clientMap.lookup id =
      ((s.clientMap.lookup id).map (s.advanced dt)).bind (s.advance dt).swept := by
  rw [update_eq hrun, lookup_sweep, lookup_advance_eq]

lemma heartbeatsSince_update (hrun : s.running = true) (hsock : Socketed s) (tr : Transport)
    (dt : Time) (id : ClientID) :
    heartbeatsSince id (s.update tr dt).log = (s.advance dt).sweptCount
      ((s.clientMap.lookup id).map (s.advanced dt)) (heartbeatsSince id s.log) := by
  obtain ⟨-, -, hrun', -, hlog⟩ := advance_frame dt s
  have hsock' := hsock.noNewTcp (advance_narrows dt s).noNewTcp
  rw [update_eq hrun, heartbeatsSince_sweep tr (hrun'.trans hrun) hsock', lookup_advance_eq, hlog]

lemma elapsed_of_readable (hs : Time.Readable s.serverTime)
    (hi : Time.Readable info.lastHeartbeat) :
    s.elapsed info = s.serverTime.microseconds / 1000 - info.lastHeartbeat.microseconds / 1000 := by
  rw [elapsed, hs.reading, hi.reading]

/-! ### The invariant -/

/-- What holds of a registered client. -/
structure Pulse (s : Server) (id : ClientID) (info : ClientInfo) : Prop where
  retry : info.heartbeatRetry = if info.heartbeatWaiting then 1 else 0
  sent : heartbeatsSince id s.log = info.heartbeatRetry
  last : Time.Readable info.lastHeartbeat
  heard : info.heartbeatWaiting = false → s.elapsed info < HEARTBEAT_INTERVAL

structure Beating (s : Server) : Prop where
  running : s.running = true
  socketed : Socketed s
  clock : Time.Readable s.serverTime
  clients : ∀ id info, s.clientMap.lookup id = some info → Pulse s id info

lemma beating_start : Beating start where
  running := rfl
  socketed := by rintro id ⟨info, hi, -⟩; simp [start] at hi
  clock := by simp [Time.Readable, start]
  clients := by intro id info hi; simp [start] at hi

lemma Fresh.pulse (h : Fresh s id info) (hclock : Time.Readable s.serverTime) :
    Pulse s id info where
  retry := by rw [h.retry, h.waiting]; rfl
  sent := by rw [h.sent, h.retry]
  last := h.now ▸ hclock
  heard := by
    intro _
    rw [elapsed, h.now, sub_self, HEARTBEAT_INTERVAL]
    omega

lemma Beating.settles (h : Beating s) (hst : Settles s t) (hrun : t.running = true)
    (hsock : Socketed t) : Beating t where
  running := hrun
  socketed := hsock
  clock := hst.serverTime ▸ h.clock
  clients := by
    intro id info hi
    rcases hst.entries id info hi with ⟨hs, hlog⟩ | hf
    · have hp := h.clients id info hs
      have he := elapsed_congr hst.serverTime info
      exact ⟨hp.retry, hlog.trans hp.sent, hp.last, fun hw => he ▸ hp.heard hw⟩
    · exact hf.pulse (hst.serverTime ▸ h.clock)

lemma swept_cases {old : ClientInfo} (hretry : old.heartbeatRetry =
      if old.heartbeatWaiting then 1 else 0) (h : s.swept old = some info) :
    (s.HeartbeatDue old ∧ old.heartbeatWaiting = false ∧ info = markSent s.serverTime old ∧
      ∀ n, s.sweptCount (some old) n = 1 + n) ∨
    (¬ s.HeartbeatDue old ∧ info = old ∧ (old.heartbeatWaiting = false →
      s.elapsed old < HEARTBEAT_INTERVAL) ∧ ∀ n, s.sweptCount (some old) n = n) := by
  unfold swept at h
  by_cases hx : s.Expired old
  · simp [hx] at h
  · by_cases hd : s.HeartbeatDue old
    · left
      simp only [hx, hd, if_true, if_false, Option.some.injEq] at h
      exact ⟨hd, hd.2.1, h.symm, fun n => by simp [sweptCount, hx, hd]⟩
    · right
      simp only [hx, hd, if_false, Option.some.injEq] at h
      refine ⟨hd, h.symm, fun hw => ?_, fun n => by simp [sweptCount, hx, hd]⟩
      -- nobody is waited for with the counter at 0, so only the interval can be missing
      by_contra hc
      refine hd ⟨by omega, hw, ?_⟩
      rw [hretry, hw]
      simp only [Bool.false_eq_true, if_false, Nat.cast_zero, zero_add, mul_one]
      omega

lemma Beating.update (h : Beating s) (tr : Transport) {dt : Time} (hdt : s.ClockOk dt) :
    Beating (s.update tr dt) := by
  have hn := update_narrows tr dt s
  have hclock : Time.Readable (s.advance dt).serverTime := readable_advance h.clock hdt
  have htime := update_serverTime h.running tr dt
  refine ⟨hn.running.trans h.running, h.socketed.noNewTcp hn.noNewTcp, htime ▸ hclock, ?_⟩
  intro id info hi
  have hcount := heartbeatsSince_update h.running h.socketed tr dt id
  rw [lookup_update h.running] at hi
  obtain ⟨adv, hadv, hsw⟩ := Option.bind_eq_some_iff.mp hi
  obtain ⟨old, hold, rfl⟩ := Option.map_eq_some_iff.mp hadv
  have hp := h.clients id old hold
  obtain ⟨hwait, hretry⟩ := advanced_flags s dt old
  have hlast := readable_advanced (s := s) dt hp.last
  rw [hold, Option.map_some] at hcount
  obtain ⟨-, hnot, rfl, hsent⟩ | ⟨-, rfl, hheard, hsent⟩ :=
    swept_cases (by rw [hretry, hwait, hp.retry]) hsw
  · rw [hsent, hp.sent, hp.retry, ← hwait, hnot] at hcount
    refine ⟨?_, ?_, hlast, fun hc => by simp [markSent] at hc⟩
    · simp [markSent, hretry, hp.retry, ← hwait, hnot]
    · rw [hcount]; simp [markSent, hretry, hp.retry, ← hwait, hnot]
  · rw [hsent, hp.sent] at hcount
    refine ⟨by rw [hretry, hwait, hp.retry], hcount.trans hretry.symm, hlast, fun hw => ?_⟩
    rw [elapsed_congr htime]
    exact hheard hw

lemma Beating.act {P : Server → Time → Prop} (hP : ∀ s dt, Beating s → P s dt → s.ClockOk dt)
    (h : Beating s) (a : Transport × Act) (ha : Paced P s a) : Beating (act s a) := by
  obtain ⟨tr, dt, rfl, hdt⟩ | hst := ha.cases h.running
  · exact h.update tr (hP s dt h hdt)
  · exact h.settles hst ((act_running s a).trans h.running) (h.socketed.act h.running a)

lemma beating_run {P : Server → Time → Prop} (hP : ∀ s dt, Beating s → P s dt → s.ClockOk dt)
    {as : List (Transport × Act)} (h : Along act (Paced P) start as) :
    Beating (run act start as) :=
  run_inv (fun _ a hs ha => hs.act hP a ha) beating_start h

/-! ### Nobody is given up unasked -/

/-- An update that comes no later than `ClientTimeout - HEARTBEAT_INTERVAL` after the last. -/
def Punctual (_ : Server) (dt : Time) : Prop :=
  0 ≤ dt.microseconds ∧
    dt.microseconds ≤ (Network.ClientTimeout - HEARTBEAT_INTERVAL) * 1000

instance (s : Server) (dt : Time) : Decidable (s.Punctual dt) :=
  inferInstanceAs (Decidable (_ ∧ _))

lemma Punctual.clockOk {dt : Time} (h : s.Punctual dt) (hs : Beating s) : s.ClockOk dt := by
  obtain ⟨h0, h1⟩ := h
  have hc := hs.clock.2
  simp only [Network.ClientTimeout, HEARTBEAT_INTERVAL] at h1
  exact ⟨h0, by rw [Time.add_microseconds]; omega⟩

/-- A client not waited for survives the next punctual update: without a wrap it is at most
`9999` milliseconds behind, and a wrap takes it no further than the update itself did. -/
lemma Beating.not_expired (h : Beating s) {dt : Time} (hdt : s.Punctual dt)
    (hi : s.clientMap.lookup id = some info) (hw : info.heartbeatWaiting = false) :
    ¬ (s.advance dt).Expired (s.advanced dt info) := by
  have hp := h.clients id info hi
  have hretry : (s.advanced dt info).heartbeatRetry = 0 := by
    rw [(advanced_flags s dt info).2, hp.retry, hw]; rfl
  have hok := hdt.clockOk h
  have hclock := readable_advance h.clock hok
  have hlast := readable_advanced (s := s) dt hp.last
  have hheard := hp.heard hw
  rw [elapsed_of_readable h.clock hp.last] at hheard
  obtain ⟨hd0, hd1⟩ := hdt
  obtain ⟨hc0, hc1⟩ := h.clock
  obtain ⟨hl0, hl1⟩ := hp.last
  simp only [Network.ClientTimeout, HEARTBEAT_INTERVAL] at hd1 hheard
  have hlt : (s.advance dt).elapsed (s.advanced dt info) < 10000 := by
    rw [elapsed_of_readable hclock hlast]
    by_cases hwr : s.Wraps dt
    · rw [advanced_of_wraps hwr, rebase_lastHeartbeat hp.last, advance_of_wraps hwr]
      simp only [Time.sub_microseconds, Time.add_microseconds, Time.milliseconds_microseconds,
        Network.HighestTimestamp]
      omega
    · rw [advanced_of_not_wraps hwr, advance_of_not_wraps hwr]
      simp only [Time.add_microseconds]
      omega
  rintro ⟨-, hx | hx⟩
  · simp only [Network.ClientTimeout] at hx
    omega
  · rw [hretry] at hx
    exact absurd hx (by decide)

/-- **Nobody is timed out unasked.** In a run whose updates are punctual, clock wraps included,
a client that an update drops was waited for, and its last heartbeat is unanswered. -/
theorem timed_out_was_waiting (as : List (Transport × Act))
    (h : Along act (Paced Punctual) start as) (tr : Transport) (dt : Time)
    (hdt : (run act start as).Punctual dt) (id : ClientID) (info : ClientInfo)
    (hi : (run act start as).clientMap.lookup id = some info)
    (hgone : id ∉ ((run act start as).update tr dt).clientMap) :
    info.heartbeatWaiting = true ∧ heartbeatsSince id (run act start as).log = 1 := by
  have hb : Beating (run act start as) :=
    beating_run (fun _ _ hs hdt => Punctual.clockOk hdt hs) h
  set s := run act start as with hs
  have hp := hb.clients id info hi
  have hw : info.heartbeatWaiting = true := by
    by_contra hc
    have hno := hb.not_expired hdt hi (by simpa using hc)
    -- the pass of the loop leaves an entry
    refine hgone (AList.lookup_isSome.mp ?_)
    rw [lookup_update hb.running, hi]
    simp only [Option.map_some, Option.bind_some, swept, hno, if_false]
    split <;> rfl
  exact ⟨hw, by rw [hp.sent, hp.retry, hw]; rfl⟩

/-- A client joins, is sent a heartbeat after one second and given up nine seconds later. -/
theorem timed_out_was_waiting_silent :
    let as : List (Transport × Act) := [(fun _ => true, .call (.addClient 1 10)),
      (fun _ => true, .update (.milliseconds 1000))]
    (markSent (.milliseconds 1000) (.new .UDP 1 10 0)).heartbeatWaiting = true ∧
      heartbeatsSince 0 (run act start as).log = 1 := by
  intro as
  refine timed_out_was_waiting as ?_ (fun _ => true) (.milliseconds 9000) (by decide) 0
    (markSent (.milliseconds 1000) (.new .UDP 1 10 0)) (by decide) (by decide)
  refine ⟨trivial, ?_, trivial⟩
  show Punctual start _
  decide

/-! ### Retries -/

/-- An update shorter than the interval in which the clock does not wrap. -/
def Brisk (s : Server) (dt : Time) : Prop :=
  0 ≤ dt.microseconds ∧ dt.microseconds < HEARTBEAT_INTERVAL * 1000 ∧ ¬ s.Wraps dt

instance (s : Server) (dt : Time) : Decidable (s.Brisk dt) :=
  inferInstanceAs (Decidable (_ ∧ _ ∧ _))

lemma Brisk.clockOk {dt : Time} (h : s.Brisk dt) (hs : Beating s) : s.ClockOk dt := by
  obtain ⟨h0, h1, -⟩ := h
  have hc := hs.clock.2
  simp only [HEARTBEAT_INTERVAL] at h1
  exact ⟨h0, by rw [Time.add_microseconds]; omega⟩

/-- Without a wrap nobody was heard of in the future, and whoever is waited for has been silent
for an interval. -/
structure Overdue (s : Server) (info : ClientInfo) : Prop where
  past : info.lastHeartbeat.microseconds ≤ s.serverTime.microseconds
  waited : info.heartbeatWaiting = true → HEARTBEAT_INTERVAL ≤ s.elapsed info

structure Unwrapped (s : Server) : Prop extends Beating s where
  overdue : ∀ id info, s.clientMap.lookup id = some info → Overdue s info

lemma Unwrapped.settles (h : Unwrapped s) (hst : Settles s t) (ht : Beating t) : Unwrapped t where
  toBeating := ht
  overdue := by
    intro id info hi
    rcases hst.entries id info hi with ⟨hs, -⟩ | hf
    · obtain ⟨hpast, hwaited⟩ := h.overdue id info hs
      have he := elapsed_congr hst.serverTime info
      exact ⟨hst.serverTime ▸ hpast, fun hw => he ▸ hwaited hw⟩
    · exact ⟨by rw [hf.now], fun hw => by rw [hf.waiting] at hw; cases hw⟩

lemma lookup_update_some (h : Beating s) (tr : Transport) {dt : Time} (hw : ¬ s.Wraps dt)
    (hi : (s.update tr dt).clientMap.lookup id = some info) :
    (s.update tr dt).serverTime = s.serverTime + dt ∧
    ∃ old, s.clientMap.lookup id = some old ∧ info.lastHeartbeat = old.lastHeartbeat ∧
      (info.heartbeatWaiting = true → old.heartbeatWaiting = true ∨
        HEARTBEAT_INTERVAL ≤ (s.update tr dt).elapsed info) := by
  have htime : (s.update tr dt).serverTime = s.serverTime + dt := by
    rw [update_serverTime h.running, advance_of_not_wraps hw]
  refine ⟨htime, ?_⟩
  rw [lookup_update h.running] at hi
  obtain ⟨adv, hadv, hsw⟩ := Option.bind_eq_some_iff.mp hi
  obtain ⟨old, hold, rfl⟩ := Option.map_eq_some_iff.mp hadv
  rw [advanced_of_not_wraps hw] at hsw
  refine ⟨old, hold, ?_⟩
  obtain ⟨hdue, -, rfl, -⟩ | ⟨-, rfl, -⟩ := swept_cases (h.clients id old hold).retry hsw
  · refine ⟨rfl, fun _ => .inr ?_⟩
    have h1 := hdue.1
    rw [elapsed, advance_of_not_wraps hw] at h1
    rw [elapsed, htime]
    exact h1
  · exact ⟨rfl, fun hwait => .inl hwait⟩

lemma Unwrapped.update (h : Unwrapped s) (tr : Transport) {dt : Time} (hdt : s.Brisk dt) :
    Unwrapped (s.update tr dt) where
  toBeating := h.toBeating.update tr (hdt.clockOk h.toBeating)
  overdue := by
    intro id info hi
    have hb := h.toBeating.update tr (hdt.clockOk h.toBeating)
    have hlast := (hb.clients id info hi).last
    have hclock := hb.clock
    obtain ⟨htime, old, hold, hsame, hwait⟩ := lookup_update_some h.toBeating tr hdt.2.2 hi
    obtain ⟨hpast, hwaited⟩ := h.overdue id old hold
    have hold' := (h.clients id old hold).last
    have hd0 := hdt.1
    refine ⟨by rw [htime, hsame, Time.add_microseconds]; omega, fun hw => ?_⟩
    rcases hwait hw with ho | hge
    · have hge := hwaited ho
      rw [elapsed_of_readable h.clock hold'] at hge
      rw [elapsed_of_readable hclock hlast, htime, hsame, Time.add_microseconds]
      omega
    · exact hge

lemma unwrapped_run {as : List (Transport × Act)} (h : Along act (Paced Brisk) start as) :
    Unwrapped (run act start as) := by
  refine run_inv (fun s a hs ha => ?_)
    ⟨beating_start, by intro id info hi; simp [start] at hi⟩ h
  have hb := hs.toBeating.act (fun _ _ hs hdt => Brisk.clockOk hdt hs) a ha
  obtain ⟨tr, dt, rfl, hdt⟩ | hst := ha.cases hs.running
  · exact hs.update tr hdt
  · exact hs.settles hst hb

lemma Unwrapped.heartbeats (h : Unwrapped s) (hi : s.clientMap.lookup id = some info) :
    heartbeatsSince id s.log = if s.elapsed info < HEARTBEAT_INTERVAL then 0 else 1 := by
  have hp := h.clients id info hi
  rw [hp.sent, hp.retry]
  by_cases hw : info.heartbeatWaiting = true
  · have := (h.overdue id info hi).waited hw
    rw [if_pos hw, if_neg (by omega)]
  · have := hp.heard (by simpa using hw)
    rw [if_neg hw, if_pos this]

/-- **One heartbeat and no retry.** In a run of brisk updates, after an update that keeps a client
the heartbeats sent to it since it was last heard of are one for each interval that has passed,
up to the retries, if and only if fewer than two intervals have passed. -/
theorem heartbeats_match_intervals_iff (as : List (Transport × Act))
    (h : Along act (Paced Brisk) start as) (tr : Transport) (dt : Time)
    (hdt : (run act start as).Brisk dt) (id : ClientID) (old info : ClientInfo)
    (hold : (run act start as).clientMap.lookup id = some old)
    (hi : ((run act start as).update tr dt).clientMap.lookup id = some info) :
    (heartbeatsSince id ((run act start as).update tr dt).log : ℤ) =
        min (((run act start as).update tr dt).elapsed info / HEARTBEAT_INTERVAL)
          (HEARTBEAT_RETRIES + 1) ↔
      ((run act start as).serverTime + dt).asMilliseconds - old.lastHeartbeat.asMilliseconds
        < 2 * HEARTBEAT_INTERVAL := by
  have hu := unwrapped_run h
  set s := run act start as with hs
  obtain ⟨htime, old', hold', hsame, -⟩ := lookup_update_some hu.toBeating tr hdt.2.2 hi
  rw [hold] at hold'
  cases hold'
  have hu' := hu.update tr hdt
  have hcount := hu'.heartbeats hi
  have hel : (s.update tr dt).elapsed info
      = (s.serverTime + dt).asMilliseconds - old.lastHeartbeat.asMilliseconds := by
    rw [elapsed, htime, hsame]
  have hnonneg : 0 ≤ (s.update tr dt).elapsed info := by
    have hpast := (hu'.overdue id info hi).past
    rw [elapsed_of_readable hu'.clock (hu'.clients id info hi).last]
    omega
  rw [← hel]
  by_cases hlt : (s.update tr dt).elapsed info < HEARTBEAT_INTERVAL
  · rw [hcount, if_pos hlt]
    simp only [HEARTBEAT_INTERVAL, HEARTBEAT_RETRIES] at hlt ⊢
    omega
  · rw [hcount, if_neg hlt]
    simp only [HEARTBEAT_INTERVAL, HEARTBEAT_RETRIES] at hlt ⊢
    omega

/-- A client is sent its first heartbeat after one second. -/
theorem heartbeats_match_intervals_first :
    let s := run act start [(fun _ => true, .call (.addClient 1 10)),
      (fun _ => true, .update (.milliseconds 999))]
    let t := s.update (fun _ => true) (.milliseconds 999)
    (heartbeatsSince 0 t.log : ℤ) =
        min (t.elapsed (markSent (.milliseconds 1998) (.new .UDP 1 10 0)) / HEARTBEAT_INTERVAL)
          (HEARTBEAT_RETRIES + 1) ↔
      (s.serverTime + .milliseconds 999).asMilliseconds
        - (ClientInfo.new .UDP 1 10 0).lastHeartbeat.asMilliseconds < 2 * HEARTBEAT_INTERVAL := by
  refine heartbeats_match_intervals_iff _ ?_ (fun _ => true) (.milliseconds 999) (by decide) 0
    (.new .UDP 1 10 0) _ (by decide) (by decide)
  refine ⟨trivial, ?_, trivial⟩
  show Brisk _ _
  decide

/-- After 2.7 seconds of silence, in updates of 0.9, one heartbeat was sent instead of two. -/
theorem no_second_heartbeat :
    let s := run act start [(fun _ => true, .call (.addClient 1 10)),
      (fun _ => true, .update (.milliseconds 900)), (fun _ => true, .update (.milliseconds 900))]
    let t := s.update (fun _ => true) (.milliseconds 900)
    (t.clientMap.lookup 0).map t.elapsed = some 2700 ∧ heartbeatsSince 0 t.log = 1 ∧
      (heartbeatsSince 0 t.log : ℤ) ≠ min (2700 / HEARTBEAT_INTERVAL) (HEARTBEAT_RETRIES + 1) := by
  decide

end Server

end Sfrpg
