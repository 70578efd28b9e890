import Sfrpg.Heartbeat

/-!
The client's clock, which two threads write to.

The main thread lets it run on in `update` and disconnects when the last heartbeat is too long ago.
A listener sets it to the time a heartbeat brings, and then copies it to the time of the last
heartbeat. Neither takes `m_clientMutex`, so an update may run between the two writes, and finds the
new time beside the old heartbeat.
-/

namespace Sfrpg

open Lib Lib.Word Lib.Run Server

structure Client where
  serverTime : Time
  lastHeartbeat : Time
  connected : Bool
  deriving DecidableEq

namespace Client

/-- A client that has just connected, at the end of `connect`. -/
def connect (serverTime : Time) : Client := ⟨serverTime, serverTime, true⟩

def setTime (l_time : Time) (c : Client) : Client := { c with serverTime := l_time }

/-- What `disconnect` does to the members here. -/
def disconnect (c : Client) : Client := { c with connected := false }

def update (l_time : Time) (c : Client) : Client :=
  if !c.connected then c else
  let c := { c with serverTime := c.serverTime + l_time }
  if c.serverTime.asMilliseconds < 0 then
    let serverTime := c.serverTime - Time.milliseconds Network.HighestTimestamp
    { c with serverTime := serverTime, lastHeartbeat := serverTime }
  else if Network.ClientTimeout < c.serverTime.asMilliseconds - c.lastHeartbeat.asMilliseconds then
    c.disconnect
  else c

/-- What is left to do for a heartbeat once the time is set. -/
def catchUp (c : Client) : Client := { c with lastHeartbeat := c.serverTime }

/-! ### The two threads -/

/-- A client, and where its listener stands: `handling` from the first write for a heartbeat to the
second. `since` sums the microseconds of the updates since the last heartbeat was begun. -/
structure Session where
  client : Client
  handling : Bool
  since : ℤ
  deriving DecidableEq

/-- What a thread does without the other one coming between. -/
inductive Act
  | setTime (timestamp : ℤ)
  | catchUp
  | update (dt : Time)

/-- The listener makes its writes in turn. -/
def step (s : Session) : Act → Except Unit Session
  | .setTime timestamp =>
    if s.handling then .error () else .ok ⟨s.client.setTime (.milliseconds timestamp), true, 0⟩
  | .catchUp => if s.handling then .ok ⟨s.client.catchUp, false, s.since⟩ else .error ()
  | .update dt => .ok ⟨s.client.update dt, s.handling, s.since + dt.microseconds⟩

def Session.start (serverTime : Time) : Session := ⟨connect serverTime, false, 0⟩

/-- A heartbeat brings a time of the server's clock, and time runs forward. -/
def Admitted : Act → Prop
  | .setTime timestamp => 0 ≤ timestamp ∧ timestamp ≤ Network.HighestTimestamp
  | .catchUp => True
  | .update dt => 0 ≤ dt.microseconds ∧ dt.microseconds ≤ Network.HighestTimestamp * 1000

/-! ### What an update does -/

variable {c : Client} {dt : Time} {s t : Session} {a : Act}

/-- The update takes the clock past its range. -/
def Wraps (c : Client) (dt : Time) : Prop := (c.serverTime + dt).asMilliseconds < 0

/-- The update finds the clock too far ahead of the last heartbeat. -/
def Overdue (c : Client) (dt : Time) : Prop :=
  Network.ClientTimeout < (c.serverTime + dt).asMilliseconds - c.lastHeartbeat.asMilliseconds

lemma update_cases (hconn : c.connected = true) (dt : Time) :
    (c.Wraps dt ∧ c.update dt = ⟨c.serverTime + dt - .milliseconds Network.HighestTimestamp,
      c.serverTime + dt - .milliseconds Network.HighestTimestamp, true⟩) ∨
    (¬ c.Wraps dt ∧ c.Overdue dt ∧ c.update dt = ⟨c.serverTime + dt, c.lastHeartbeat, false⟩) ∨
    (¬ c.Wraps dt ∧ ¬ c.Overdue dt ∧ c.update dt = ⟨c.serverTime + dt, c.lastHeartbeat, true⟩) := by
  unfold Wraps Overdue
  by_cases hw : (c.serverTime + dt).asMilliseconds < 0
  · left
    simp [update, hconn, hw]
  · right
    by_cases ho : Network.ClientTimeout <
        (c.serverTime + dt).asMilliseconds - c.lastHeartbeat.asMilliseconds
    · left
      simp only [update, hconn, hw, ho, disconnect]
      simp
    · right
      simp [update, hconn, hw, ho]

lemma update_of_disconnected (hconn : c.connected = false) (dt : Time) : c.update dt = c := by
  simp [update, hconn]

/-- The update disconnects the client. -/
def Disconnects (c : Client) (dt : Time) : Prop :=
  c.connected = true ∧ (c.update dt).connected = false

lemma disconnects_iff : c.Disconnects dt ↔ c.connected = true ∧ ¬ c.Wraps dt ∧ c.Overdue dt := by
  refine and_congr_right fun hconn => ?_
  obtain ⟨hw, heq⟩ | ⟨hw, ho, heq⟩ | ⟨hw, ho, heq⟩ := update_cases hconn dt
  · simp [heq, hw]
  · simp [heq, hw, ho]
  · simp [heq, ho]

/-! ### The invariant -/

/-- The clocks are in their range, and between two heartbeats the last one is no longer ago than the
updates since say. -/
structure Kept (s : Session) : Prop where
  clock : Time.Readable s.client.serverTime
  last : Time.Readable s.client.lastHeartbeat
  since : 0 ≤ s.since
  recent : s.handling = false →
    s.client.serverTime.microseconds - s.client.lastHeartbeat.microseconds ≤ s.since

lemma kept_start {serverTime : Time} (h : Time.Readable serverTime) : Kept (.start serverTime) :=
  ⟨h, h, le_refl 0, fun _ => by simp [Session.start, connect]⟩

lemma wraps_iff (hc : Time.Readable c.serverTime) (h : Admitted (.update dt)) :
    c.Wraps dt ↔ 2147483648000 ≤ (c.serverTime + dt).microseconds := by
  obtain ⟨hc0, hc1⟩ := hc
  obtain ⟨h0, h1⟩ := h
  simp only [Network.HighestTimestamp] at h1
  refine Time.asMilliseconds_neg_iff ?_ ?_ <;> rw [Time.add_microseconds] <;> omega

lemma Kept.runOn (hs : Kept s) (h : Admitted (.update dt)) (hw : ¬ s.client.Wraps dt)
    (connected : Bool) : Kept ⟨⟨s.client.serverTime + dt, s.client.lastHeartbeat, connected⟩,
      s.handling, s.since + dt.microseconds⟩ := by
  have hlt := mt (wraps_iff hs.clock h).mpr hw
  rw [Time.add_microseconds] at hlt
  obtain ⟨hc0, -⟩ := hs.clock
  have h0 := h.1
  have hsince := hs.since
  refine ⟨⟨?_, ?_⟩, hs.last, by dsimp only; omega, fun hh => ?_⟩
  · simp only [Time.add_microseconds]
    omega
  · simp only [Time.add_microseconds]
    omega
  · have hrecent := hs.recent hh
    simp only [Time.add_microseconds]
    omega

lemma Kept.wrap (hs : Kept s) (h : Admitted (.update dt)) (hw : s.client.Wraps dt) :
    Kept ⟨⟨s.client.serverTime + dt - .milliseconds Network.HighestTimestamp,
      s.client.serverTime + dt - .milliseconds Network.HighestTimestamp, true⟩, s.handling,
      s.since + dt.microseconds⟩ := by
  have hge := (wraps_iff hs.clock h).mp hw
  rw [Time.add_microseconds] at hge
  obtain ⟨-, hc1⟩ := hs.clock
  obtain ⟨h0, h1⟩ := h
  have hsince := hs.since
  simp only [Network.HighestTimestamp] at h1
  have hclock : Time.Readable
      (s.client.serverTime + dt - .milliseconds Network.HighestTimestamp) := by
    simp only [Time.Readable, Time.sub_microseconds, Time.add_microseconds,
      Time.milliseconds_microseconds, Network.HighestTimestamp]
    omega
  exact ⟨hclock, hclock, by dsimp only; omega, fun _ => by dsimp only; omega⟩

lemma Kept.update (hs : Kept s) (h : Admitted (.update dt)) :
    Kept ⟨s.client.update dt, s.handling, s.since + dt.microseconds⟩ := by
  by_cases hconn : s.client.connected = true
  · obtain ⟨hw, heq⟩ | ⟨hw, -, heq⟩ | ⟨hw, -, heq⟩ := update_cases hconn dt
    · rw [heq]
      exact hs.wrap h hw
    · rw [heq]
      exact hs.runOn h hw false
    · rw [heq]
      exact hs.runOn h hw true
  · rw [update_of_disconnected (by simpa using hconn)]
    have h0 := h.1
    have hsince := hs.since
    refine ⟨hs.clock, hs.last, by dsimp only; omega, fun hh => ?_⟩
    have hrecent := hs.recent hh
    dsimp only
    omega

lemma Kept.step (hs : Kept s) (ha : Admitted a) (h : step s a = .ok t) : Kept t := by
  cases a with
  | setTime timestamp =>
    rw [Client.step] at h
    split at h
    · cases h
    · cases h
      obtain ⟨h0, h1⟩ := ha
      simp only [Network.HighestTimestamp] at h1
      refine ⟨⟨?_, ?_⟩, hs.last, le_refl 0, fun hh => by cases hh⟩
      · simp only [setTime, Time.milliseconds_microseconds]
        omega
      · simp only [setTime, Time.milliseconds_microseconds]
        omega
  | catchUp =>
    rw [Client.step] at h
    split at h
    · cases h
      refine ⟨hs.clock, hs.clock, hs.since, fun _ => ?_⟩
      have hsince := hs.since
      simp only [catchUp]
      omega
    · cases h
  | update dt =>
    cases h
    exact hs.update ha

/-! ### When an update disconnects -/

/-- The update does not disconnect, or the updates since the last heartbeat have taken too long. -/
def Rightly (s : Session) (a : Act) : Prop :=
  ∀ dt, a = .update dt → s.client.Disconnects dt →
    Network.ClientTimeout * 1000 < s.since + dt.microseconds

/-- An update that runs between the two writes for a heartbeat does not find the clock too far ahead
of the heartbeat before, unless that much time has passed since the first write. -/
def Undivided (s : Session) (a : Act) : Prop :=
  ∀ dt, a = .update dt → s.handling = true → s.client.connected = true →
    s.client.Wraps dt ∨ ¬ s.client.Overdue dt ∨
      Network.ClientTimeout * 1000 < s.since + dt.microseconds

lemma Kept.overdue (hs : Kept s) (hh : s.handling = false) (hd : Admitted (.update dt))
    (hw : ¬ s.client.Wraps dt) (ho : s.client.Overdue dt) :
    Network.ClientTimeout * 1000 < s.since + dt.microseconds := by
  have hrecent := hs.recent hh
  have hclock : Time.Readable (s.client.serverTime + dt) := by
    have hlt := mt (wraps_iff hs.clock hd).mpr hw
    obtain ⟨hc0, -⟩ := hs.clock
    obtain ⟨h0, -⟩ := hd
    rw [Time.add_microseconds] at hlt
    refine ⟨?_, ?_⟩ <;> rw [Time.add_microseconds] <;> omega
  rw [Overdue, hclock.reading, hs.last.reading, Time.add_microseconds] at ho
  simp only [Network.ClientTimeout] at ho ⊢
  omega

lemma Kept.rightly_iff (hs : Kept s) (ha : Admitted a) : Rightly s a ↔ Undivided s a := by
  unfold Rightly Undivided
  refine forall_congr' fun dt => ?_
  constructor
  · rintro h rfl - hconn
    by_cases hw : s.client.Wraps dt
    · exact .inl hw
    · by_cases ho : s.client.Overdue dt
      · exact .inr (.inr (h rfl (disconnects_iff.mpr ⟨hconn, hw, ho⟩)))
      · exact .inr (.inl ho)
  · rintro h rfl hd
    obtain ⟨hconn, hw, ho⟩ := disconnects_iff.mp hd
    cases hh : s.handling with
    | false => exact hs.overdue hh ha hw ho
    | true =>
      rcases h rfl hh hconn with hw' | ho' | hlong
      · exact absurd hw' hw
      · exact absurd ho ho'
      · exact hlong

/-- **When a client times out rightly.** For every interleaving of the two threads, from a client
that has just connected: every update that disconnects it comes more than `ClientTimeout` of updates
after the last heartbeat if and only if no update that runs between the two writes for a heartbeat
finds the clock that far ahead of the heartbeat before, with less time passed since. -/
theorem times_out_iff (serverTime : Time) (hstart : Time.Readable serverTime) (acts : List Act)
    (hacts : ∀ a ∈ acts, Admitted a) :
    AlongE step Rightly (.start serverTime) acts ↔
      AlongE step Undivided (.start serverTime) acts :=
  alongE_congr (fun _ _ _ hs ha h => hs.step ha h) (fun _ _ hs ha => hs.rightly_iff ha)
    (kept_start hstart) hacts

/-- A heartbeat is handled whole, and the next update takes its time. -/
theorem times_out_whole : AlongE step Rightly (.start 0)
    [.setTime 20000, .catchUp, .update (.milliseconds 16)] := by
  refine (times_out_iff 0 ⟨by decide, by decide⟩ _ ?_).mpr ?_
  · rintro a ha
    simp only [List.mem_cons, List.not_mem_nil, or_false] at ha
    rcases ha with rfl | rfl | rfl
    · exact ⟨by decide, by decide⟩
    · trivial
    · exact ⟨by decide, by decide⟩
  · refine ⟨fun dt h => (by cases h), fun t ht => ⟨fun dt h => (by cases h), fun u hu => ?_⟩⟩
    cases ht
    cases hu
    exact ⟨fun dt _ hh => (by cases hh), fun _ _ => trivial⟩

/-- An update of 16 ms comes between the two writes of the first heartbeat, and disconnects. -/
theorem heartbeat_disconnects :
    (∀ a ∈ [Act.setTime 20000, .update (.milliseconds 16)], Admitted a) ∧
    ¬ AlongE step Rightly (.start 0) [.setTime 20000, .update (.milliseconds 16)] := by
  refine ⟨?_, fun h => ?_⟩
  · rintro a ha
    simp only [List.mem_cons, List.not_mem_nil, or_false] at ha
    rcases ha with rfl | rfl
    · exact ⟨by decide, by decide⟩
    · exact ⟨by decide, by decide⟩
  · have hlong := (h.2 _ rfl).1 _ rfl ⟨rfl, by decide⟩
    exact absurd hlong (by decide)

end Client

end Sfrpg
