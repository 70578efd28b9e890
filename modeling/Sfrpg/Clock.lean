import Sfrpg.Heartbeat

/-!
How the time since a client's last heartbeat grows, and what the wrap of the clock does to it.

At a wrap the clock goes back by `HighestTimestamp`, and so should every timestamp: a client last
heard of at `L` then stands at `L - HighestTimestamp`, which is negative. The code writes the
absolute value of that. The two agree only where it is zero, so at a wrap every client but one
heard of at `HighestTimestamp` itself loses twice the time it was silent before the wrap point.
-/

namespace Sfrpg

open Lib Lib.Word Lib.Run

namespace Server

variable {s t : Server} {tr : Transport} {id : ClientID} {old info : ClientInfo} {dt : Time}

/-! ### Sections in which the clock stands still -/

/-- The clock stands still, and every entry is as it was or has just been heard of. -/
structure Renews (s t : Server) : Prop where
  serverTime : t.serverTime = s.serverTime
  entries : ∀ id info, t.clientMap.lookup id = some info → s.clientMap.lookup id = some info ∨
    (info.lastHeartbeat = t.serverTime ∧ info.heartbeatWaiting = false)

lemma Renews.trans {u : Server} (h : Renews s t) (h' : Renews t u) : Renews s u where
  serverTime := h'.serverTime.trans h.serverTime
  entries := by
    intro id info hi
    rcases h'.entries id info hi with ht | hnew
    · rcases h.entries id info ht with hs | ⟨hlast, hw⟩
      · exact .inl hs
      · exact .inr ⟨hlast.trans h'.serverTime.symm, hw⟩
    · exact .inr hnew

lemma Settles.renews (h : Settles s t) : Renews s t where
  serverTime := h.serverTime
  entries := by
    intro id info hi
    rcases h.entries id info hi with ⟨hs, -⟩ | hf
    · exact .inl hs
    · exact .inr ⟨hf.now, hf.waiting⟩

lemma renews_of_same (htime : t.serverTime = s.serverTime) (hmap : t.clientMap = s.clientMap) :
    Renews s t := ⟨htime, fun _ _ hi => .inl (hmap ▸ hi)⟩

lemma call_renews (hrun : s.running = true) (tr : Transport) (c : Call) :
    Renews s (s.call tr c) := by
  cases c with
  | addClient ip port => exact (addClient_settles .UDP ip port hrun).renews
  | removeClient id => exact (removeClient_settles tr id s).renews
  | removeClientAt ip port => exact (removeClientAt_settles tr ip port s).renews
  | send id packet =>
    have hf := send_frame tr id packet s
    exact renews_of_same hf.serverTime hf.clientMap
  | broadcast packet ignore =>
    have hf := broadcast_frame tr packet ignore s
    exact renews_of_same hf.serverTime hf.clientMap

lemma served_renews (tr : Transport) (a : Arrivals) (s : Server) :
    Served tr a fun t => Renews s t ∧ t.running = true where
  count _ _ h := ⟨h.1.trans (renews_of_same rfl rfl), h.2⟩
  reply t id h := ⟨h.1.trans (heartbeatReply_settles id t).renews,
    (heartbeatReply_narrows id t).running.trans h.2⟩
  call t _ c _ h := ⟨h.1.trans (call_renews h.2 tr c), (call_noNewTcp tr t c).running.trans h.2⟩
  remove t id h := ⟨h.1.trans (removeClient_settles tr id t).renews,
    (removeClient_narrows tr id t).running.trans h.2⟩

lemma tcpReady_renews (hrun : s.running = true) (tr : Transport) (a : Arrivals) :
    Renews s (s.tcpReady tr a) := by
  refine ((served_renews tr a s).tcpReady ?_ ⟨renews_of_same rfl rfl, hrun⟩).1
  rintro t id ⟨ht, hr⟩
  exact ⟨ht.trans (renews_of_same rfl rfl), hr⟩

/-- The section is none of those of `update`. -/
def Act.Still : Act → Prop
  | .update _ => False
  | .advance _ => False
  | .sweep => False
  | _ => True

lemma act_renews (hrun : s.running = true) (tr : Transport) {a : Act} (ha : a.Still) :
    Renews s (act s (tr, a)) := by
  cases a with
  | accept n ip port => exact (accept_settles n ip port hrun).renews
  | tcpReady a => exact tcpReady_renews hrun tr a
  | udpHeartbeat ip port =>
    obtain he | ⟨id, he⟩ := udpHeartbeat_cases ip port s
    · rw [act, he]
      exact renews_of_same rfl rfl
    · rw [act, he]
      exact (heartbeatReply_settles id s).renews
  | call c => exact call_renews hrun tr c
  | update dt => exact ha.elim
  | advance dt => exact ha.elim
  | sweep => exact ha.elim
  | disconnectAll =>
    have hst : Settles s (act s (tr, .disconnectAll)) :=
      settles_of_empty (broadcast_frame tr disconnectPacket Network.NullID s).serverTime rfl
    exact hst.renews
  | clear =>
    have hst : Settles s (act s (tr, .clear)) := settles_of_empty rfl rfl
    exact hst.renews

/-! ### The clock and the timestamps stay readable -/

/-- The section leaves the clock in its range, if it moves the clock at all. -/
def KeepsTime (s : Server) : Transport × Act → Prop
  | (_, .update dt) => s.ClockOk dt
  | (_, .advance dt) => s.ClockOk dt
  | _ => True

structure Timed (s : Server) : Prop where
  running : s.running = true
  clock : Time.Readable s.serverTime
  clients : ∀ id info, s.clientMap.lookup id = some info → Time.Readable info.lastHeartbeat

lemma timed_start : Timed start where
  running := rfl
  clock := by simp [Time.Readable, start]
  clients := by intro id info hi; simp [start] at hi

lemma Timed.renews (h : Timed s) (hr : Renews s t) (hrun : t.running = s.running) : Timed t where
  running := hrun.trans h.running
  clock := hr.serverTime ▸ h.clock
  clients := by
    intro id info hi
    rcases hr.entries id info hi with hs | ⟨hlast, -⟩
    · exact h.clients id info hs
    · rw [hlast, hr.serverTime]
      exact h.clock

lemma Timed.advance (h : Timed s) {dt : Time} (hdt : s.ClockOk dt) : Timed (s.advance dt) where
  running := (advance_narrows dt s).running.trans h.running
  clock := readable_advance h.clock hdt
  clients := by
    intro id info hi
    rw [lookup_advance_eq] at hi
    obtain ⟨old, hold, rfl⟩ := Option.map_eq_some_iff.mp hi
    exact readable_advanced dt (h.clients id old hold)

lemma swept_lastHeartbeat (h : s.swept old = some info) :
    info.lastHeartbeat = old.lastHeartbeat := by
  unfold swept at h
  split at h
  · cases h
  · split at h <;> cases h <;> rfl

lemma Timed.sweep (h : Timed s) (tr : Transport) : Timed (s.sweep tr) where
  running := (sweep_narrows tr s).running.trans h.running
  clock := (sweep_frame tr s).serverTime ▸ h.clock
  clients := by
    intro id info hi
    rw [lookup_sweep] at hi
    obtain ⟨old, hold, hsw⟩ := Option.bind_eq_some_iff.mp hi
    rw [swept_lastHeartbeat hsw]
    exact h.clients id old hold

lemma Timed.act (h : Timed s) (a : Transport × Act) (ha : s.KeepsTime a) : Timed (act s a) := by
  have hrun := act_running s a
  obtain ⟨tr, a⟩ := a
  cases a with
  | update dt =>
    rw [Server.act, update_eq h.running]
    exact (h.advance ha).sweep tr
  | advance dt => exact h.advance ha
  | sweep => exact h.sweep tr
  | _ => exact h.renews (act_renews h.running tr trivial) hrun

lemma timed_run {as : List (Transport × Act)} (h : Along act KeepsTime start as) :
    Timed (run act start as) :=
  run_inv (fun _ a hs ha => hs.act a ha) timed_start h

/-! ### One update -/

lemma elapsed_update (hrun : s.running = true) (hold : s.clientMap.lookup id = some old)
    (hi : (s.update tr dt).clientMap.lookup id = some info) :
    (s.update tr dt).elapsed info = (s.advance dt).elapsed (s.advanced dt old) := by
  rw [lookup_update hrun, hold] at hi
  rw [elapsed, elapsed, update_serverTime hrun, swept_lastHeartbeat hi]

lemma elapsed_advance_of_not_wraps (hs : Time.Readable s.serverTime)
    (ho : Time.Readable old.lastHeartbeat) (h0 : 0 ≤ dt.microseconds)
    (h1 : dt.microseconds < 2147483648000) (hw : ¬ s.Wraps dt) :
    (s.advance dt).elapsed (s.advanced dt old) =
      (s.serverTime.microseconds + dt.microseconds) / 1000
        - old.lastHeartbeat.microseconds / 1000 := by
  obtain ⟨hs0, hs1⟩ := hs
  have hlt : s.serverTime.microseconds + dt.microseconds < 2147483648000 := by
    by_contra hc
    refine hw ((wraps_iff ?_ ?_).mpr ?_) <;> rw [Time.add_microseconds] <;> omega
  have hclock : Time.Readable (s.advance dt).serverTime := by
    rw [advance_of_not_wraps hw]
    exact ⟨by simp only [Time.add_microseconds]; omega, hlt⟩
  rw [advanced_of_not_wraps hw, elapsed_of_readable hclock ho, advance_of_not_wraps hw]
  rfl

lemma elapsed_advance_of_wraps (hs : Time.Readable s.serverTime)
    (ho : Time.Readable old.lastHeartbeat) (h0 : 0 ≤ dt.microseconds)
    (h1 : (s.serverTime + dt).microseconds < 4294967295000) (hw : s.Wraps dt) :
    (s.advance dt).elapsed (s.advanced dt old) =
      (s.serverTime.microseconds + dt.microseconds) / 1000
        + old.lastHeartbeat.microseconds / 1000 - 2 * 2147483647 := by
  have hclock : Time.Readable (s.advance dt).serverTime := readable_advance hs ⟨h0, h1⟩
  rw [advanced_of_wraps hw, elapsed_of_readable hclock (readable_rebase ho),
    rebase_lastHeartbeat ho, advance_of_wraps hw]
  simp only [Time.sub_microseconds, Time.add_microseconds, Time.milliseconds_microseconds,
    Network.HighestTimestamp]
  omega

lemma elapsed_advance_of_twice (hs : Time.Readable s.serverTime)
    (ho : Time.Readable old.lastHeartbeat) (h1 : dt.microseconds < 2147483648000)
    (h2 : 4294967295000 ≤ (s.serverTime + dt).microseconds) :
    (s.advance dt).elapsed (s.advanced dt old) < 0 := by
  obtain ⟨hs0, hs1⟩ := hs
  rw [Time.add_microseconds] at h2
  have hw : s.Wraps dt := by
    refine (wraps_iff ?_ ?_).mpr ?_ <;> rw [Time.add_microseconds] <;> omega
  have hread : (s.serverTime + dt - .milliseconds Network.HighestTimestamp).asMilliseconds
      = -2147483648 := by
    rw [Time.asMilliseconds_of_nonneg] <;>
      simp only [Time.sub_microseconds, Time.add_microseconds, Time.milliseconds_microseconds,
        Network.HighestTimestamp, toInt32] <;> omega
  have hrb := readable_rebase ho
  rw [advanced_of_wraps hw, elapsed, hrb.reading, advance_of_wraps hw]
  dsimp only
  rw [hread]
  have := hrb.1
  omega

/-- The times since the last heartbeat grow by `dt`, to a millisecond, in these updates: the
clock does not wrap, or it wraps into its range and the client was heard of at the wrap point. -/
def Steady (s : Server) (dt : Time) (info : ClientInfo) : Prop :=
  ¬ s.Wraps dt ∨ (info.lastHeartbeat.asMilliseconds = Network.HighestTimestamp ∧
    (s.serverTime + dt).microseconds < 4294967295000)

instance (s : Server) (dt : Time) (info : ClientInfo) : Decidable (s.Steady dt info) :=
  inferInstanceAs (Decidable (_ ∨ _))

lemma elapsed_growth_iff (hs : Time.Readable s.serverTime)
    (ho : Time.Readable old.lastHeartbeat) (h0 : 0 ≤ dt.microseconds)
    (h1 : dt.microseconds < 2147483648000) :
    |1000 * ((s.advance dt).elapsed (s.advanced dt old) - s.elapsed old) - dt.microseconds| < 1000
      ↔ s.Steady dt old := by
  have hbefore := elapsed_of_readable hs ho
  have hread := ho.reading
  obtain ⟨ho0, ho1⟩ := ho
  obtain ⟨hs0, hs1⟩ := hs
  rw [abs_lt, Steady, hread, hbefore]
  by_cases hw : s.Wraps dt
  · have hge := (wraps_iff (by rw [Time.add_microseconds]; omega)
      (by rw [Time.add_microseconds]; omega)).mp hw
    simp only [hw, not_true_eq_false, false_or, Network.HighestTimestamp]
    by_cases h2 : (s.serverTime + dt).microseconds < 4294967295000
    · rw [elapsed_advance_of_wraps ⟨hs0, hs1⟩ ⟨ho0, ho1⟩ h0 h2 hw]
      rw [Time.add_microseconds] at h2
      rw [Time.add_microseconds]
      omega
    · have hneg := elapsed_advance_of_twice ⟨hs0, hs1⟩ ⟨ho0, ho1⟩ h1 (by omega)
      rw [Time.add_microseconds] at h2
      rw [Time.add_microseconds]
      omega
  · rw [elapsed_advance_of_not_wraps ⟨hs0, hs1⟩ ⟨ho0, ho1⟩ h0 h1 hw]
    simp only [hw, not_false_eq_true, true_or, iff_true]
    omega

lemma expired_of_steady (hs : Time.Readable s.serverTime) (ho : Time.Readable old.lastHeartbeat)
    (h0 : 0 ≤ dt.microseconds) (h1 : dt.microseconds < 2147483648000) (hst : s.Steady dt old)
    (hsilent : Network.ClientTimeout * 1000
      ≤ (s.serverTime + dt).microseconds - old.lastHeartbeat.microseconds) :
    (s.advance dt).Expired (s.advanced dt old) := by
  have hge : Network.ClientTimeout ≤ (s.advance dt).elapsed (s.advanced dt old) := by
    have hread := ho.reading
    obtain ⟨ho0, ho1⟩ := ho
    rw [Time.add_microseconds] at hsilent
    by_cases hw : s.Wraps dt
    · obtain hn | ⟨hl, h2⟩ := hst
      · exact absurd hw hn
      · rw [elapsed_advance_of_wraps hs ⟨ho0, ho1⟩ h0 h2 hw]
        rw [hread] at hl
        simp only [Network.HighestTimestamp, Network.ClientTimeout] at hl hsilent ⊢
        omega
    · rw [elapsed_advance_of_not_wraps hs ⟨ho0, ho1⟩ h0 h1 hw]
      simp only [Network.ClientTimeout] at hsilent ⊢
      omega
  refine ⟨?_, .inl hge⟩
  simp only [Network.ClientTimeout, HEARTBEAT_INTERVAL] at hge ⊢
  omega

/-- An update of at most `HighestTimestamp` milliseconds. -/
def Tick (_ : Server) (dt : Time) : Prop :=
  0 ≤ dt.microseconds ∧ dt.microseconds ≤ Network.HighestTimestamp * 1000

lemma Tick.clockOk (hdt : s.Tick dt) (h : Beating s) : s.ClockOk dt := by
  obtain ⟨h0, h1⟩ := hdt
  obtain ⟨-, hs1⟩ := h.clock
  simp only [Network.HighestTimestamp] at h1
  exact ⟨h0, by rw [Time.add_microseconds]; omega⟩

lemma beating_ticks {as : List (Transport × Act)} (h : Along act (Paced Tick) start as) :
    Beating (run act start as) :=
  beating_run (fun _ _ hs hdt => Tick.clockOk hdt hs) h

lemma Time.Readable.bounds {t : Time} (h : Time.Readable t) :
    0 ≤ t.asMilliseconds ∧ t.asMilliseconds ≤ Network.HighestTimestamp := by
  obtain ⟨h0, h1⟩ := h
  rw [Time.asMilliseconds_of_lt h0 h1, Network.HighestTimestamp]
  omega

/-- What an update computes in signed 32-bit integers from the entry of a client: the subtraction
and the absolute value of the wrap, and in the loop the time since the last heartbeat and the time
after which the next heartbeat is due. -/
structure InRange (s : Server) (dt : Time) (info : ClientInfo) : Prop where
  rebase : InInt32 (info.lastHeartbeat.asMilliseconds - Network.HighestTimestamp)
  rebaseAbs : InInt32 |info.lastHeartbeat.asMilliseconds - Network.HighestTimestamp|
  elapsed : InInt32 ((s.advance dt).elapsed (s.advanced dt info))
  due : InInt32 (HEARTBEAT_INTERVAL * ((s.advanced dt info).heartbeatRetry + 1))

lemma Beating.inRange (h : Beating s) (hdt : s.ClockOk dt)
    (hi : s.clientMap.lookup id = some info) : s.InRange dt info := by
  have hp := h.clients id info hi
  obtain ⟨hl0, hl1⟩ := hp.last.bounds
  obtain ⟨ha0, ha1⟩ := (readable_advanced (s := s) dt hp.last).bounds
  obtain ⟨hc0, hc1⟩ := (readable_advance h.clock hdt).bounds
  have hretry : (s.advanced dt info).heartbeatRetry ≤ 1 := by
    rw [(advanced_flags s dt info).2, hp.retry]
    split <;> omega
  simp only [Network.HighestTimestamp] at hl1 ha1 hc1
  refine ⟨?_, ?_, ?_, ?_⟩
  · simp only [InInt32, Network.HighestTimestamp]
    omega
  · rw [abs_of_nonpos (by simp only [Network.HighestTimestamp]; omega)]
    simp only [InInt32, Network.HighestTimestamp]
    omega
  · simp only [InInt32, Server.elapsed]
    omega
  · simp only [InInt32, HEARTBEAT_INTERVAL]
    omega

/-- What the loop adds to the history: heartbeats with the time on the clock. -/
def Beats (s t : Server) : Prop :=
  ∃ new, t.log = new ++ s.log ∧ ∀ entry ∈ new, ∃ id accepted,
    entry = .sent id s.heartbeatPacket accepted

lemma beats_send (tr : Transport) (id : ClientID) (s : Server) :
    ∃ new, (s.send tr id s.heartbeatPacket).1.log = new ++ s.log ∧ ∀ entry ∈ new, ∃ id accepted,
      entry = .sent id s.heartbeatPacket accepted := by
  obtain h | h := send_cases tr id s.heartbeatPacket s
  · exact ⟨[], by rw [h]; rfl, by simp⟩
  · rw [h]
    refine ⟨[.sent id s.heartbeatPacket (tr id)], rfl, fun entry he => ?_⟩
    exact ⟨id, tr id, List.mem_singleton.mp he⟩

lemma updateClient_beats (tr : Transport) (s : Server) (id : ClientID) :
    Beats s (updateClient tr s id) := by
  have hnone : ∀ t : Server, t.log = s.log → Beats s t := fun t ht => ⟨[], by rw [ht]; rfl, by simp⟩
  unfold updateClient
  split
  · exact hnone s rfl
  · split
    · exact hnone _ rfl
    · split
      · exact beats_send tr id s
      · exact hnone s rfl

lemma sweep_beats (tr : Transport) (s : Server) : Beats s (s.sweep tr) := by
  refine (Dict.foldl_inv (I := fun t => t.serverTime = s.serverTime ∧ Beats s t) ?_ _
    ⟨rfl, [], rfl, by simp⟩).2
  rintro t id ⟨htime, new, hlog, hnew⟩
  obtain ⟨new', hlog', hnew'⟩ := updateClient_beats tr t id
  refine ⟨(updateClient_frame tr t id).serverTime.trans htime, new' ++ new, ?_, ?_⟩
  · rw [hlog', hlog, List.append_assoc]
  · intro entry he
    rcases List.mem_append.mp he with he | he
    · obtain ⟨i, accepted, rfl⟩ := hnew' entry he
      exact ⟨i, accepted, by rw [heartbeatPacket, heartbeatPacket, htime]⟩
    · exact hnew entry he

/-- **No update overflows.** In every run of updates of at most `HighestTimestamp` milliseconds,
with clients added, replies accepted and whatever else the threads do in between: the next update
leaves the clock and every timestamp at a reading between 0 and `HighestTimestamp`, what it
computes from the entry of a client is a signed 32-bit integer, and what it sends is heartbeats
with a timestamp that is not negative. -/
theorem update_in_range (as : List (Transport × Act)) (h : Along act (Paced Tick) start as)
    (tr : Transport) (dt : Time) (hdt : (run act start as).Tick dt) :
    (0 ≤ ((run act start as).update tr dt).serverTime.asMilliseconds ∧
      ((run act start as).update tr dt).serverTime.asMilliseconds ≤ Network.HighestTimestamp) ∧
    (∀ id info, ((run act start as).update tr dt).clientMap.lookup id = some info →
      0 ≤ info.lastHeartbeat.asMilliseconds ∧
        info.lastHeartbeat.asMilliseconds ≤ Network.HighestTimestamp) ∧
    (∀ id info, (run act start as).clientMap.lookup id = some info →
      (run act start as).InRange dt info) ∧
    ∃ new, ((run act start as).update tr dt).log = new ++ (run act start as).log ∧
      ∀ entry ∈ new, ∃ id accepted timestamp, 0 ≤ timestamp ∧ InInt32 timestamp ∧
        entry = .sent id ((stampPacket .Heartbeat .empty).putInt32 timestamp) accepted := by
  have hb := beating_ticks h
  set s := run act start as with hs
  have hok := Tick.clockOk hdt hb
  have hu := hb.update tr hok
  refine ⟨hu.clock.bounds, fun id info hi => (hu.clients id info hi).last.bounds,
    fun id info hi => hb.inRange hok hi, ?_⟩
  obtain ⟨new, hlog, hnew⟩ := sweep_beats tr (s.advance dt)
  obtain ⟨h0, h1⟩ := (readable_advance hb.clock hok).bounds
  obtain ⟨-, -, -, -, hsame⟩ := advance_frame dt s
  refine ⟨new, by rw [update_eq hb.running, hlog, hsame], fun entry he => ?_⟩
  obtain ⟨i, accepted, rfl⟩ := hnew entry he
  refine ⟨i, accepted, _, h0, ?_, rfl⟩
  simp only [InInt32, Network.HighestTimestamp] at h1 ⊢
  omega

/-- A client joins at the highest reading of the clock, and the next update wraps the clock and
asks for the client. -/
theorem update_in_range_wrap :
    let s := run act start [(fun _ => true, .update (.milliseconds 2147483647)),
      (fun _ => true, .call (.addClient 1 10))]
    let t := s.update (fun _ => true) (.milliseconds 2000)
    t.serverTime.asMilliseconds ≤ Network.HighestTimestamp ∧ t.log.length = 2 ∧
    ∃ new, t.log = new ++ s.log ∧ ∀ entry ∈ new, ∃ id accepted timestamp,
      0 ≤ timestamp ∧ InInt32 timestamp ∧
        entry = .sent id ((stampPacket .Heartbeat .empty).putInt32 timestamp) accepted := by
  have hlong : start.Tick (.milliseconds 2147483647) := ⟨by decide, by decide⟩
  have h := update_in_range [(fun _ => true, .update (.milliseconds 2147483647)),
    (fun _ => true, .call (.addClient 1 10))] ⟨hlong, trivial, trivial⟩
    (fun _ => true) (.milliseconds 2000) ⟨by decide, by decide⟩
  exact ⟨h.1.2, by decide, h.2.2.2⟩

end Server

end Sfrpg
