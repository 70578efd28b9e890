import Sfrpg.Clock
import Sfrpg.Traffic

/-!
The ping a client is shown.

`update` writes down when it sent a heartbeat, and no listener reads that. Both take the ping from
the time the client was last heard of, and a heartbeat is sent only to a client that has been silent
for an interval. So the ping is the round trip and the silence before it.
-/

namespace Sfrpg

open Lib Lib.Word Lib.Run

namespace Server

variable {s t : Server} {tr : Transport} {id : ClientID} {info : ClientInfo}
  {sentAt : ClientID → Time}

/-- The section does not wrap the clock, if it moves the clock at all. -/
def NoWrap (s : Server) : Transport × Act → Prop
  | (_, .update dt) => 0 ≤ dt.microseconds ∧ Time.Readable (s.serverTime + dt)
  | (_, .advance dt) => 0 ≤ dt.microseconds ∧ Time.Readable (s.serverTime + dt)
  | _ => True

/-- For each client, the time on the clock when the last heartbeat was sent to it. -/
def noteSent (sentAt : ClientID → Time) (s : Server) : Transport × Act → ClientID → Time
  | (_, .update dt), id =>
    if s.running = true ∧ (s.advance dt).Beat id then (s.advance dt).serverTime else sentAt id
  | (_, .sweep), id => if s.Beat id then s.serverTime else sentAt id
  | _, id => sentAt id

/-- A server whose clock has not wrapped. -/
structure Clocked (s : Server) (sentAt : ClientID → Time) : Prop extends Timed s where
  past : ∀ id, (sentAt id).asMilliseconds ≤ s.serverTime.asMilliseconds
  silent : ∀ id info, s.clientMap.lookup id = some info → info.heartbeatWaiting = true →
    HEARTBEAT_INTERVAL ≤ (sentAt id).asMilliseconds - info.lastHeartbeat.asMilliseconds

lemma clocked_start : Clocked start fun _ => 0 where
  toTimed := timed_start
  past := fun _ => le_rfl
  silent := by
    intro id info hi
    simp [start] at hi

lemma Clocked.renews (h : Clocked s sentAt) (hr : Renews s t) (hrun : t.running = s.running) :
    Clocked t sentAt where
  toTimed := h.toTimed.renews hr hrun
  past := hr.serverTime ▸ h.past
  silent := by
    intro id info hi hw
    rcases hr.entries id info hi with hs | ⟨-, hnot⟩
    · exact h.silent id info hs hw
    · rw [hnot] at hw
      cases hw

lemma Time.Readable.not_wraps {dt : Time} (h : Time.Readable (s.serverTime + dt)) :
    ¬ s.Wraps dt := by
  rw [Wraps, h.reading]
  have h0 := h.1
  omega

lemma Clocked.advance (h : Clocked s sentAt) {dt : Time} (h0 : 0 ≤ dt.microseconds)
    (h1 : Time.Readable (s.serverTime + dt)) : Clocked (s.advance dt) sentAt := by
  have hok : s.ClockOk dt := ⟨h0, h1.2.trans (by omega)⟩
  have hadv := advance_of_not_wraps h1.not_wraps
  refine ⟨h.toTimed.advance hok, fun id => ?_, fun id info hi hw => ?_⟩
  · have hpast := h.past id
    rw [h.clock.reading] at hpast
    rw [hadv]
    dsimp only
    rw [h1.reading, Time.add_microseconds]
    omega
  · rw [hadv] at hi
    exact h.silent id info hi hw

lemma swept_waiting {old : ClientInfo} (h : s.swept old = some info)
    (hw : info.heartbeatWaiting = true) : (info = old ∧ old.heartbeatWaiting = true) ∨
      (¬ s.Expired old ∧ s.HeartbeatDue old ∧ info.lastHeartbeat = old.lastHeartbeat) := by
  unfold swept at h
  split at h
  · cases h
  · next hx =>
    split at h
    · next hd =>
      cases h
      exact .inr ⟨hx, hd, rfl⟩
    · cases h
      exact .inl ⟨rfl, hw⟩

lemma Clocked.sweep (h : Clocked s sentAt) (tr : Transport) :
    Clocked (s.sweep tr) fun id => if s.Beat id then s.serverTime else sentAt id := by
  have htime := (sweep_frame tr s).serverTime
  refine ⟨h.toTimed.sweep tr, fun id => ?_, fun id info hi hw => ?_⟩
  · rw [htime]
    split
    · exact le_rfl
    · exact h.past id
  · rw [lookup_sweep] at hi
    obtain ⟨old, hold, hsw⟩ := Option.bind_eq_some_iff.mp hi
    obtain ⟨rfl, hwait⟩ | ⟨hx, hd, hlast⟩ := swept_waiting hsw hw
    · -- no second heartbeat to a client that is waited for
      have hno : ¬ s.Beat id := by
        intro hb
        simp only [Beat, hold] at hb
        rw [hb.2.2.1] at hwait
        cases hwait
      rw [if_neg hno]
      exact h.silent id info hold hwait
    · have hb : s.Beat id := by
        simp only [Beat, hold]
        exact ⟨hx, hd⟩
      rw [if_pos hb, hlast]
      exact hd.1

lemma Clocked.act (h : Clocked s sentAt) (a : Transport × Act) (ha : s.NoWrap a) :
    Clocked (act s a) (noteSent sentAt s a) := by
  have hrun := act_running s a
  obtain ⟨tr, a⟩ := a
  cases a with
  | update dt =>
    have hs := (h.advance ha.1 ha.2).sweep tr
    have hnote : noteSent sentAt s (tr, .update dt) = fun id =>
        if (s.advance dt).Beat id then (s.advance dt).serverTime else sentAt id := by
      funext id
      simp [noteSent, h.running]
    rw [hnote, Server.act, update_eq h.running]
    exact hs
  | advance dt => exact h.advance ha.1 ha.2
  | sweep => exact h.sweep tr
  | _ => exact h.renews (act_renews h.running tr trivial) hrun

lemma clocked_run {as : List (Transport × Act)} (h : Along Server.act NoWrap start as)
    {s : Server} {sentAt : ClientID → Time}
    (hr : run (noted act noteSent) (start, fun _ => 0) as = (s, sentAt)) : Clocked s sentAt := by
  have hinv : Clocked (run (noted act noteSent) (start, fun _ => 0) as).1
      (run (noted act noteSent) (start, fun _ => 0) as).2 :=
    run_inv (I := fun p : Server × (ClientID → Time) => Clocked p.1 p.2)
      (fun p a hp ha => hp.act a ha) clocked_start h.noted
  rw [hr] at hinv
  exact hinv

/-! ### What a reply brings -/

/-- The ping is not the time from `sent` to `now`: it is at least an interval more. -/
def Overstated (now sent : Time) (ping : ℤ) : Prop :=
  ping ≠ now.asMilliseconds - sent.asMilliseconds ∧
    now.asMilliseconds - sent.asMilliseconds + HEARTBEAT_INTERVAL ≤ ping

lemma Clocked.ping (h : Clocked s sentAt) (hi : s.clientMap.lookup id = some info)
    (hw : info.heartbeatWaiting = true) : (markReply s.serverTime info).ping
      = (s.serverTime.asMilliseconds - (sentAt id).asMilliseconds)
        + ((sentAt id).asMilliseconds - info.lastHeartbeat.asMilliseconds) := by
  obtain ⟨hl0, hl1⟩ := (h.clients id info hi).bounds
  obtain ⟨hc0, hc1⟩ := h.clock.bounds
  have hpast := h.past id
  have hsilent := h.silent id info hi hw
  simp only [Network.HighestTimestamp, HEARTBEAT_INTERVAL] at hl1 hc1 hsilent
  show toUInt32 (s.serverTime.asMilliseconds - info.lastHeartbeat.asMilliseconds) = _
  rw [toUInt32, Int.emod_eq_of_lt (by omega) (by omega)]
  omega

lemma Clocked.reply (h : Clocked s sentAt) (hi : s.clientMap.lookup id = some info)
    (hw : info.heartbeatWaiting = true) :
    ∃ new, (s.heartbeatReply id).clientMap.lookup id = some new ∧
      Overstated s.serverTime (sentAt id) new.ping := by
  have hping := h.ping hi hw
  have hsilent := h.silent id info hi hw
  refine ⟨markReply s.serverTime info, ?_, ?_, ?_⟩
  · simp only [heartbeatReply, hi, hw, if_true, Dict.lookup_modify, Option.map_some]
  · rw [hping]
    simp only [HEARTBEAT_INTERVAL] at hsilent
    omega
  · rw [hping]
    omega

lemma handleTcp_heartbeat {p : Packet} (hp : p.stamp = some PacketType.Heartbeat.id)
    (tr : Transport) (cs : List Call) (id : ClientID) (s : Server) :
    s.handleTcp tr cs id p = s.heartbeatReply id := by
  obtain ⟨⟨type, rest⟩, hget, htype⟩ := Option.map_eq_some_iff.mp hp
  dsimp only at htype
  subst htype
  unfold handleTcp
  rw [hget]
  rfl

/-- **No ping is a round trip.** After every run in which the clock does not wrap, whatever the
threads did, the ping of a client whose reply is accepted is at least a second more than the time
since the heartbeat it answers was sent: over UDP, and over TCP at any point of a pass over the
ready sockets. -/
theorem ping_overstated (as : List (Transport × Act)) (h : Along act NoWrap start as) (s : Server)
    (sentAt : ClientID → Time)
    (hr : run (noted act noteSent) (start, fun _ => 0) as = (s, sentAt)) :
    (∀ ip port id info, s.findClient ip port = some id → s.clientMap.lookup id = some info →
      info.heartbeatWaiting = true →
      ∃ new, (s.udpHeartbeat ip port).clientMap.lookup id = some new ∧
        Overstated s.serverTime (sentAt id) new.ping) ∧
    ∀ tr a served id p info, served ++ [id] <+: s.tcpClients.keys →
      let acc := served.foldl (receiveOne tr a) (s, [])
      a.recv id = some (.packet p) → p.stamp = some PacketType.Heartbeat.id →
      acc.1.clientMap.lookup id = some info → info.heartbeatWaiting = true →
      ∃ new, (receiveOne tr a acc id).1.clientMap.lookup id = some new ∧
        Overstated acc.1.serverTime (sentAt id) new.ping := by
  have hc := clocked_run h hr
  refine ⟨?_, ?_⟩
  · intro ip port id info hfind hi hw
    rw [udpHeartbeat, hfind]
    exact hc.reply hi hw
  · intro tr a served id p info _ acc hrecv hp hi hw
    obtain ⟨hrenews, hrun⟩ :=
      (served_renews tr a s).received served ⟨renews_of_same rfl rfl, hc.running⟩
    have hacc : Clocked acc.1 sentAt := hc.renews hrenews (hrun.trans hc.running.symm)
    have hmem : id ∈ acc.1.clientMap := Dict.mem_of_lookup hi
    set t : Server := { acc.1 with totalReceived := acc.1.totalReceived + p.getDataSize } with ht
    have hcount : Clocked t sentAt := hacc.renews (renews_of_same rfl rfl) rfl
    have hpass : (receiveOne tr a acc id).1 = t.heartbeatReply id := by
      rw [← handleTcp_heartbeat hp tr (a.calls id)]
      simp only [receiveOne, hrecv, hmem, not_true_eq_false, if_false, ht]
    rw [hpass]
    exact hcount.reply hi hw

/-- One client over UDP and one over TCP. Both are sent a heartbeat at 1000 milliseconds, and 50
milliseconds later the replies arrive. -/
def bothAsked : List (Transport × Act) :=
  [(fun _ => true, .call (.addClient 1 10)), (fun _ => true, .accept 7 2 20),
    (fun _ => true, .update (.milliseconds 1000)), (fun _ => true, .update (.milliseconds 50))]

lemma bothAsked_noWrap : Along act NoWrap start bothAsked := by
  refine ⟨trivial, trivial, ⟨by decide, ?_⟩, ⟨by decide, ?_⟩, trivial⟩
  · show 0 ≤ _ ∧ _ < _
    decide
  · show 0 ≤ _ ∧ _ < _
    decide

/-- The reply of the TCP client is in its socket. -/
def replied : Arrivals where
  recv id := if id = 1 then some (.packet (stampPacket .Heartbeat .empty)) else none
  calls _ := []

theorem ping_overstated_both :
    let p := run (noted act noteSent) (start, fun _ => 0) bothAsked
    (∃ new, (p.1.udpHeartbeat 1 10).clientMap.lookup 0 = some new ∧
      Overstated p.1.serverTime (p.2 0) new.ping) ∧
    ∃ new, (receiveOne (fun _ => true) replied (p.1, []) 1).1.clientMap.lookup 1 = some new ∧
      Overstated p.1.serverTime (p.2 1) new.ping := by
  intro p
  obtain ⟨hudp, htcp⟩ := ping_overstated bothAsked bothAsked_noWrap p.1 p.2 rfl
  refine ⟨?_, ?_⟩
  · exact hudp 1 10 0 (markSent (.milliseconds 1000) (.new .UDP 1 10 0)) (by decide) (by decide) rfl
  · exact htcp (fun _ => true) replied [] 1 (stampPacket .Heartbeat .empty)
      (markSent (.milliseconds 1000) (.new .TCP 2 20 0)) (by decide) rfl (by decide) (by decide) rfl

/-- The round trips take 50 milliseconds, and the pings are 1050. -/
theorem ping_counts_silence :
    let p := run (noted act noteSent) (start, fun _ => 0) bothAsked
    Along act NoWrap start bothAsked ∧
      p.1.serverTime.asMilliseconds - (p.2 0).asMilliseconds = 50 ∧
      p.1.serverTime.asMilliseconds - (p.2 1).asMilliseconds = 50 ∧
      ((p.1.udpHeartbeat 1 10).clientMap.lookup 0).map ClientInfo.ping = some 1050 ∧
      ((p.1.tcpReady (fun _ => true) replied).clientMap.lookup 1).map ClientInfo.ping
        = some 1050 := by
  refine ⟨bothAsked_noWrap, by decide, by decide, by decide, by decide⟩

end Server

end Sfrpg
