import Sfrpg.Guests
import Sfrpg.Hearing
import Sfrpg.Lines
import Sfrpg.Persistence

/-!
Talking to everybody.

A line that is no command goes to the server. The server puts the endpoint of the speaker before it
and sends it to every other client; it sends a line of its own when a client has left. No other
packet is of that type, so whatever a client shows as such a line tells truly who said it.
-/

namespace Sfrpg

open Lib Lib.Word Lib.Run

/-! ### Who has said what -/

namespace Outgoing

variable {o : Outgoing} {data : List UInt8}

lemma connect_of_type (h : Packet.getInt8 o.packet.data = some (PacketType.Connect.id, data)) :
    o = .connect := by
  cases o with
  | connect => rfl
  | disconnect =>
    rw [packet, getInt8_stampPacket] at h
    cases h
  | heartbeat =>
    rw [packet, getInt8_stampPacket] at h
    cases h
  | request name r =>
    rw [packet, r.getInt8_packet, Option.some.injEq, Prod.mk.injEq] at h
    cases r <;> cases h.1

lemma disconnect_of_type
    (h : Packet.getInt8 o.packet.data = some (PacketType.Disconnect.id, data)) :
    o = .disconnect := by
  cases o with
  | disconnect => rfl
  | connect =>
    rw [packet, getInt8_stampPacket] at h
    cases h
  | heartbeat =>
    rw [packet, getInt8_stampPacket] at h
    cases h
  | request name r =>
    rw [packet, r.getInt8_packet, Option.some.injEq, Prod.mk.injEq] at h
    cases r <;> cases h.1

lemma say_of_type (h : Packet.getInt8 o.packet.data = some (PacketType.Message.id, data)) :
    ∃ name str, o = .request name (.say str) ∧ data = Packet.string.put str ++ [] := by
  obtain ⟨name, r, rfl, htype, rfl⟩ := request_of_type h (by decide)
  cases r with
  | say str => exact ⟨name, str, rfl, rfl⟩
  | _ => cases htype

end Outgoing

namespace Room

open Server ServerMain

variable {hash : String → ℕ} {file : Tables} {w v : Room} {e : Endpoint} {p : Process}

/-- The server has had a client at the endpoint. -/
def Met (w : Room) (e : Endpoint) : Prop := ∃ id, (id, e) ∈ clientsAdded w.site.server.log

/-- A line for the client at `e`: another client has said it, or has left. -/
inductive Line (w : Room) (e : Endpoint) : String → Prop
  | spoken (e' : Endpoint) (name str : String) (up : (e', .request name (.say str)) ∈ w.up)
      (met : Met w e') (other : e' ≠ e) : Line w e (spoken e' str)
  | farewell (id : ClientID) (e' : Endpoint) (up : (e', .disconnect) ∈ w.up)
      (added : (id, e') ∈ clientsAdded w.site.server.log) (other : e' ≠ e) : Line w e (farewell id)

/-- What a client has heard. -/
structure Hears (w : Room) (e : Endpoint) (p : Process) : Prop where
  met : p.connected = true → Met w e
  joined : p.connected = true → p.joining = false
  lines : ∀ a, (PacketType.Message.id, a) ∈ p.heard → ∃ line, a = .print line ∧ Line w e line

/-- **The invariant.** -/
structure Spoken (w : Room) : Prop where
  guests : Guests w.site.server
  asked : ∀ x ∈ clientsAdded w.site.server.log, (x.2, .connect) ∈ w.up
  brief : ∀ e name str, (e, .request name (.say str)) ∈ w.up → str.toList.length < 4294967274
  said : ∀ m ∈ outbox w.site.server.log, m.2.stamp = some PacketType.Message.id →
    ∃ line, m.2 = messagePacket line ∧ Packet.StringFits line ∧ Line w m.1 line
  process : ∀ e p, w.processes e = some p → Hears w e p

/-- What was sent and who was added stays so. -/
structure Recalls (w v : Room) : Prop where
  up : ∀ x ∈ w.up, x ∈ v.up
  added : ∀ x ∈ clientsAdded w.site.server.log, x ∈ clientsAdded v.site.server.log

lemma Met.recalls (h : Met w e) (hg : Recalls w v) : Met v e := by
  obtain ⟨id, hid⟩ := h
  exact ⟨id, hg.added _ hid⟩

lemma Line.recalls {line : String} (h : Line w e line) (hg : Recalls w v) : Line v e line := by
  cases h with
  | spoken e' name str up met other => exact .spoken e' name str (hg.up _ up) (met.recalls hg) other
  | farewell id e' up added other => exact .farewell id e' (hg.up _ up) (hg.added _ added) other

lemma Hears.recalls (h : Hears w e p) (hg : Recalls w v) : Hears v e p where
  met hc := (h.met hc).recalls hg
  joined := h.joined
  lines a ha := by
    obtain ⟨line, hline, hsaid⟩ := h.lines a ha
    exact ⟨line, hline, hsaid.recalls hg⟩

lemma Hears.aside {r : Process × List Outgoing} (h : Hears w e p) (ha : Process.Aside p r) :
    Hears w e r.1 where
  met hc := h.met (ha.connected hc)
  joined hc := by
    by_contra hno
    rw [Bool.not_eq_false] at hno
    have hjoined := h.joined (ha.connected hc)
    rw [ha.joining hno] at hjoined
    cases hjoined
  lines a hm := h.lines a (ha.heard ▸ hm)

lemma handlePacket_message {line : String} (hfits : Packet.StringFits line) {u : ℤ}
    {data : List UInt8} (hdata : Packet.getInt8 (messagePacket line).data =
      some (PacketType.Message.id, data)) :
    ClientMain.handlePacket u PacketType.Message.id (some data) = [.print line] := by
  have hput : data = Packet.string.put line ++ [] := by
    have hstamp : Packet.getInt8 (messagePacket line).data =
        some (PacketType.Message.id, Packet.string.put line ++ []) := by
      rw [List.append_nil]
      exact Packet.getInt8_byte (by decide) (by decide) _
    rw [hstamp, Option.some.injEq, Prod.mk.injEq] at hdata
    exact hdata.2.symm
  have hread : (Packet.string.read "" (some data)).1 = line := by
    rw [hput]
    exact congrArg Prod.fst (Takes.read Packet.string hfits "" [])
  change [ClientMain.Action.print (Packet.string.read "" (some data)).1] = _
  rw [hread]

lemma Spoken.hears (h : Spoken w) (hp : w.processes e = some p) {packet : Packet}
    (hm : (e, packet) ∈ outbox w.site.server.log) {u : ℤ} {r : Process × List Outgoing}
    (hr : p.receive u packet = .ok r) : Hears w e r.1 := by
  have hlistens := Process.listens_receive hr
  have hold := h.process e p hp
  refine ⟨fun _ => mem_clientsAdded_of_outbox hm, hlistens.joined hold.joined, fun a ha => ?_⟩
  obtain hheard | ⟨data, hdata, ha⟩ := hlistens.heard _ ha
  · exact hold.lines a hheard
  · have hstamp : packet.stamp = some PacketType.Message.id := by
      rw [Packet.stamp, hdata]
      rfl
    obtain ⟨line, hpacket, hfits, hline⟩ := h.said _ hm hstamp
    dsimp only at hpacket
    rw [hpacket] at hdata
    rw [handlePacket_message hfits hdata] at ha
    exact ⟨line, List.mem_singleton.mp ha, hline⟩

/-! ### Steps -/

/-- A packet of this type tells a line. -/
def Tells (w : Room) (e : Endpoint) (packet : Packet) : Prop :=
  packet.stamp = some PacketType.Message.id →
    ∃ line, packet = messagePacket line ∧ Packet.StringFits line ∧ Line w e line

lemma Spoken.site (h : Spoken w) {site : Site} (hguests : Guests site.server)
    (henrols : Enrols (fun e => (e, .connect) ∈ w.up) w.site.server site.server)
    (hmails : Mails (Tells w) w.site.server site.server) : Spoken { w with site := site } := by
  have hrecalls : Recalls w { w with site := site } := ⟨fun _ hx => hx, henrols.old⟩
  refine ⟨hguests, fun x hx => ?_, h.brief, fun m hm hstamp => ?_,
    fun e p hp => (h.process e p hp).recalls hrecalls⟩
  · obtain hold | hnew := henrols.new x hx
    · exact h.asked x hold
    · exact hnew
  · have htells : Tells w m.1 m.2 := (hmails.new m hm).elim (fun hold => h.said m hold) fun h => h
    obtain ⟨line, hpacket, hfits, hline⟩ := htells hstamp
    exact ⟨line, hpacket, hfits, hline.recalls hrecalls⟩

lemma tells_of_stamp {packet : Packet} {type : PacketType} (h : packet.stamp = some type.id)
    (htype : type ≠ .Message) : Tells w e packet := fun hstamp =>
  absurd (PacketType.id_injective (Option.some.inj (h.symm.trans hstamp))) htype

lemma tells_disconnect : Tells w e disconnectPacket :=
  tells_of_stamp (stamp_stampPacket .Disconnect) (by decide)

lemma tells_heartbeat (s : Server) : Tells w e s.heartbeatPacket :=
  tells_of_stamp (stamp_putInt32 (stamp_stampPacket .Heartbeat) _) (by decide)

lemma Spoken.narrows (h : Spoken w) {s : Server} (hn : Narrows w.site.server s)
    (hmails : Mails (Tells w) w.site.server s) :
    Spoken { w with site := { w.site with server := s } } :=
  h.site (h.guests.narrows hn) (.of_eq hn.joined) hmails

/-- **What the handler sends of a packet of a client tells lines truly.** -/
lemma Spoken.mails_calls (h : Spoken w) (hs : Sound hash file w) {o : Outgoing}
    (ho : (e, o) ∈ w.up) {l_id : ℤ} {data : List UInt8}
    (hdata : Packet.getInt8 o.packet.data = some (l_id, data)) {s : Server} (hg : Guests s)
    (hjoined : clientsAdded s.log = clientsAdded w.site.server.log) (ha : Addressed s)
    {db : Database} {calls : List Call}
    (hcalls : handlePacket db s e.1 e.2 l_id data = some calls) (tr : Transport) :
    (∀ c ∈ calls, c.Enrols fun e => (e, .connect) ∈ w.up) ∧
      Mails (Tells w) s (calls.foldl (Server.call tr) s) := by
  unfold handlePacket at hcalls
  dsimp only at hcalls
  split at hcalls
  · rename_i hcid
    obtain ⟨-, info, hi, -⟩ := lookup_getClientID hcid
    have hmet : (s.getClientID e.1 e.2, e) ∈ clientsAdded w.site.server.log := by
      obtain ⟨before, after, hlist, -⟩ :=
        List.lookup_eq_some_iff.mp (ha.endpointOf_getClientID hcid)
      rw [← hjoined, hlist]
      exact List.mem_append_right _ List.mem_cons_self
    obtain ⟨rfl, rfl⟩ | ⟨rfl, rfl⟩ | hquiet := handleClient_broadcasts hcalls
    · -- a client leaves
      obtain rfl := Outgoing.disconnect_of_type hdata
      refine ⟨fun c hc => ?_, ?_⟩
      · simp only [List.mem_cons, List.not_mem_nil, or_false] at hc
        rcases hc with rfl | rfl <;> trivial
      have hn := removeClient_narrows tr (s.getClientID e.1 e.2) s
      have hleaves : Mails (Tells w) s (s.removeClient tr (s.getClientID e.1 e.2)).1 :=
        mails_removeClient (fun _ => tells_disconnect) tr _ s
      refine hleaves.trans ?_
      refine (mails_broadcast_others hg hcid hn (ha.narrows hn)).imp fun e' q hq _ => ?_
      obtain ⟨rfl, hne⟩ := hq
      exact ⟨_, rfl, fits_farewell hcid (hg.ids _ info hi), .farewell _ e ho hmet hne.symm⟩
    · -- a client says something
      obtain ⟨name, str, rfl, rfl⟩ := Outgoing.say_of_type hdata
      have hfits : Packet.StringFits str := (hs.asked e name _ ho).2 str List.mem_cons_self
      refine ⟨fun c hc => ?_, ?_⟩
      · rw [List.mem_singleton.mp hc]
        trivial
      rw [ClientMain.payload_one hfits]
      refine (mails_broadcast_others hg hcid (.refl s) ha).imp fun e' q hq _ => ?_
      obtain ⟨rfl, hne⟩ := hq
      exact ⟨_, rfl, fits_spoken hfits.bytes (h.brief e name str ho),
        .spoken e name str ho ⟨_, hmet⟩ hne.symm⟩
    · refine ⟨fun c hc => ?_, Server.mails_calls (fun c hc => ?_) tr s⟩
      · obtain ⟨p, rfl, -⟩ := hquiet c hc
        trivial
      · obtain ⟨p, rfl, hstamp⟩ := hquiet c hc
        exact fun _ htold => absurd htold hstamp
  split at hcalls
  · rename_i hconnect
    rw [hconnect] at hdata
    obtain rfl := Outgoing.connect_of_type hdata
    cases hcalls
    refine ⟨fun c hc => ?_, Server.mails_calls (fun c hc => ?_) tr s⟩
    · simp only [List.mem_cons, List.not_mem_nil, or_false] at hc
      rcases hc with rfl | rfl
      · exact ho
      · trivial
    · simp only [List.mem_cons, List.not_mem_nil, or_false] at hc
      rcases hc with rfl | rfl
      · trivial
      · exact fun _ => tells_of_stamp (stamp_stampPacket .Connect) (by decide)
  · cases hcalls
    exact ⟨List.forall_mem_nil _, .refl _ s⟩

/-- **The server serves a packet of a client.** -/
lemma Spoken.serve (h : Spoken w) (hs : Sound hash file w) {o : Outgoing} (ho : (e, o) ∈ w.up)
    {tr : Transport} {throws : Bool} {site : Site}
    (hsite : w.site.listen hash tr throws e o.packet = .ok site) :
    Spoken { w with site := site } := by
  have hnarrows : Narrows w.site.server (w.site.counted o.packet) :=
    ⟨rfl, rfl, rfl, rfl, rfl, fun _ info hi => ⟨info, hi, rfl, rfl, rfl⟩⟩
  have hnothing : Mails (Tells w) w.site.server (w.site.counted o.packet) := mails_of_outbox rfl
  have hquiet : ∀ {s : Server}, site.server = s → Narrows w.site.server s →
      Mails (Tells w) w.site.server s → Spoken { w with site := site } := by
    rintro s rfl hn hm
    exact h.site (h.guests.narrows hn) (.of_eq hn.joined) hm
  cases Site.listened hsite with
  | dropped server => exact hquiet server hnarrows hnothing
  | beat server =>
    refine hquiet server (hnarrows.trans (udpHeartbeat_narrows e.1 e.2 _)) (hnothing.trans ?_)
    obtain heq | ⟨id, heq⟩ := udpHeartbeat_cases e.1 e.2 (w.site.counted o.packet)
    · rw [heq]
      exact .refl _ _
    · rw [heq]
      exact mails_heartbeatReply id _
  | handled l_id data calls hdata hcalls server =>
    have hguests : Guests (w.site.counted o.packet) := h.guests.narrows hnarrows
    obtain ⟨henrols, hmails⟩ :=
      h.mails_calls hs ho hdata hguests rfl (hs.addressed.narrows hnarrows)
      hcalls tr
    have hsame : Enrols (fun e => (e, .connect) ∈ w.up) w.site.server (w.site.counted o.packet) :=
      .of_eq rfl
    refine h.site ?_ ?_ ?_
    · rw [server]
      exact Dict.foldl_inv (fun t c ht => ht.call tr c) calls hguests
    · rw [server]
      exact hsame.trans (enrols_calls henrols tr _)
    · rw [server]
      exact hnothing.trans hmails

lemma Spoken.put (h : Spoken w) {r : Process × List Outgoing} (hr : Hears w e r.1)
    (hsaid : ∀ name str, .request name (.say str) ∈ r.2 → str.toList.length < 4294967274) :
    Spoken { w with
      processes := Function.update w.processes e (some r.1), up := w.up ++ r.2.map (e, ·) } := by
  have hrecalls : Recalls w { w with
      processes := Function.update w.processes e (some r.1), up := w.up ++ r.2.map (e, ·) } :=
    ⟨fun _ hx => List.mem_append_left _ hx, fun _ hx => hx⟩
  refine ⟨h.guests, fun x hx => hrecalls.up _ (h.asked x hx), fun e' name str hup => ?_,
    fun m hm hstamp => ?_, fun e' p hp => ?_⟩
  · rcases List.mem_append.mp hup with hold | hnew
    · exact h.brief e' name str hold
    · obtain ⟨o, ho, heq⟩ := List.mem_map.mp hnew
      cases heq
      exact hsaid name str ho
  · obtain ⟨line, hpacket, hfits, hline⟩ := h.said m hm hstamp
    exact ⟨line, hpacket, hfits, hline.recalls hrecalls⟩
  · dsimp only at hp
    by_cases he : e' = e
    · rw [he, Function.update_self, Option.some.injEq] at hp
      rw [he, ← hp]
      exact hr.recalls hrecalls
    · rw [Function.update_of_ne he] at hp
      exact (h.process e' p hp).recalls hrecalls

lemma Spoken.move (h : Spoken w) {f : Process → Except Unit (Process × List Outgoing)}
    (hf : ∀ p, w.processes e = some p → ∀ r, f p = .ok r → Hears w e r.1 ∧
      ∀ name str, .request name (.say str) ∈ r.2 → str.toList.length < 4294967274)
    (hv : w.move e f = .ok v) : Spoken v := by
  unfold Room.move at hv
  split at hv
  · cases hv
  rename_i p hp
  cases hr : f p with
  | error _ =>
    rw [hr] at hv
    cases hv
  | ok r =>
    rw [hr] at hv
    obtain rfl := Except.ok.inj hv
    obtain ⟨hhears, hsaid⟩ := hf p hp r hr
    exact h.put hhears hsaid

lemma Spoken.moveAside (h : Spoken w) (hs : Sound hash file w)
    {f : Process → Except Unit (Process × List Outgoing)}
    (hf : ∀ p r, f p = .ok r → Process.Aside p r) (hv : w.move e f = .ok v) : Spoken v := by
  refine h.move (fun p hp r hr => ?_) hv
  have haside := hf p r hr
  refine ⟨(h.process e p hp).aside haside, fun name str hm => ?_⟩
  have htyped := (hs.process e p hp).pending _ (haside.said name str hm)
  obtain heq | hstr := htyped _ rfl (String.ofList ('x' :: str.toList)) str List.mem_cons_self
  · have hlen := congrArg (fun s => s.toList.length) heq
    simp at hlen
  · exact lt_of_le_of_lt hstr.length_le p.keyboard.short

lemma spoken_start (file : Tables) : Spoken (start file) where
  guests := guests_empty rfl
  asked := List.forall_mem_nil _
  brief := fun _ _ _ h => by cases h
  said := fun m hm => by cases hm
  process := fun _ _ h => by cases h

/-- **Every step of every thread keeps the invariant.** -/
lemma Spoken.step (h : Spoken w) (hs : Sound hash file w) {a : Act} (hv : step hash w a = .ok v) :
    Spoken v := by
  cases a with
  | launch e k =>
    rw [Room.step] at hv
    split at hv
    · cases hv
      refine h.put (r := (.launch k, [.connect])) ⟨fun hc => (by cases hc), fun hc => (by cases hc),
        fun a ha => (by cases ha)⟩ fun name str hm => ?_
      cases List.mem_singleton.mp hm
    · cases hv
  | giveUp e =>
    refine h.moveAside hs (fun p r hr => ?_) hv
    cases hr
    exact ⟨rfl, fun hc => hc, fun hc => (by cases hc), fun _ _ hm => by cases hm⟩
  | read e =>
    refine h.moveAside hs (fun p r hr => ?_) hv
    cases hread : p.read with
    | error _ =>
      rw [hread] at hr
      cases hr
    | ok q =>
      rw [hread] at hr
      cases hr
      exact Process.aside_read hread
  | carryOut e => exact h.moveAside hs (fun p r hr => Process.aside_carryOut hr) hv
  | receive e packet u =>
    rw [Room.step] at hv
    split at hv
    · rename_i hmem
      refine h.move (fun p hp r hr => ⟨h.hears hp hmem hr, fun name str hm => ?_⟩) hv
      exact absurd hm ((Process.listens_receive hr).said _ _)
    · cases hv
  | catchUp e => exact h.moveAside hs (fun p r hr => Process.aside_catchUp hr) hv
  | update e dt => exact h.moveAside hs (fun p r hr => Process.aside_update hr) hv
  | serve e o tr throws =>
    rw [Room.step] at hv
    split at hv
    · rename_i ho
      cases hsite : w.site.listen hash tr throws e o.packet with
      | error _ =>
        rw [hsite] at hv
        cases hv
      | ok site =>
        rw [hsite] at hv
        cases hv
        exact h.serve hs ho hsite
    · cases hv
  | tick tr dt =>
    cases hv
    exact h.narrows (update_narrows tr dt _) (mails_update (fun _ s => tells_heartbeat s) tr dt _)
  | dc tr =>
    cases hv
    refine h.site (guests_empty rfl) (.of_eq ?_)
      (mails_disconnectAll (fun _ => tells_disconnect) tr _)
    exact (broadcast_frame tr disconnectPacket Network.NullID w.site.server).joined

lemma spoken_run {acts : List Act} (hr : runE (Room.step hash) (start file) acts = .ok w) :
    Sound hash file w ∧ Spoken w :=
  runE_inv (I := fun w => Sound hash file w ∧ Spoken w) (P := fun _ => True)
    (fun _ _ _ hw _ hv => ⟨hw.1.step hv, hw.2.step hw.1 hv⟩)
    ⟨sound_start hash file, spoken_start file⟩ (fun _ _ => trivial) hr

/-- Ann has something to say. -/
def annsLine : ClientMain.Keyboard where
  text := ['h', 'e', 'l', 'l', 'o', '\n']
  bytes c hc := by
    simp only [List.mem_cons, List.not_mem_nil, or_false] at hc
    rcases hc with rfl | rfl | rfl | rfl | rfl | rfl <;> decide
  short := by decide

/-- A client joins. -/
def joins (e : Endpoint) (k : ClientMain.Keyboard) : List Act :=
  [.launch e k, served e .connect, .receive e (stampPacket .Connect .empty) 0]

/-- Ann and Bob have joined, and Ann has typed her line. -/
def annSpeaks : List Act := joins (1, 10) annsLine ++ joins (2, 20) annsLine ++ typed (1, 10)

/-- The server takes the line. -/
def annIsHeard : Act := .serve (1, 10) (.request "" (.say "hello")) (fun _ => true) false

/-- Bob has read it. -/
def greeting : List Act :=
  annSpeaks ++ [annIsHeard, .receive (2, 20) (messagePacket (spoken (1, 10) "hello")) 0]

def greeted : Room := reached (Room.step String.length) (start .fresh) greeting

lemma greeting_run : runE (Room.step String.length) (start .fresh) greeting = .ok greeted :=
  runE_reached (by decide +kernel)

lemma step_sends {a : Act} (hv : step hash w a = .ok v) :
    Mails (fun _ _ => True) w.site.server v.site.server := by
  have hquiet : v.site = w.site → Mails (fun _ _ => True) w.site.server v.site.server := by
    intro h
    rw [h]
    exact .refl _ _
  cases a with
  | launch e k =>
    rw [Room.step] at hv
    split at hv
    · cases hv
      exact hquiet rfl
    · cases hv
  | giveUp e => exact hquiet (grows_move hv).2
  | read e => exact hquiet (grows_move hv).2
  | carryOut e => exact hquiet (grows_move hv).2
  | receive e packet u =>
    rw [Room.step] at hv
    split at hv
    · exact hquiet (grows_move hv).2
    · cases hv
  | catchUp e => exact hquiet (grows_move hv).2
  | update e dt => exact hquiet (grows_move hv).2
  | serve e o tr throws =>
    rw [Room.step] at hv
    split at hv
    · cases hsite : w.site.listen hash tr throws e o.packet with
      | error _ =>
        rw [hsite] at hv
        cases hv
      | ok site =>
        rw [hsite] at hv
        cases hv
        dsimp only
        have hnothing : Mails (fun _ _ => True) w.site.server (w.site.counted o.packet) :=
          mails_of_outbox rfl
        cases Site.listened hsite with
        | dropped server =>
          rw [server]
          exact hnothing
        | beat server =>
          rw [server]
          refine hnothing.trans ?_
          obtain heq | ⟨id, heq⟩ := udpHeartbeat_cases e.1 e.2 (w.site.counted o.packet)
          · rw [heq]
            exact .refl _ _
          · rw [heq]
            exact mails_heartbeatReply id _
        | handled l_id data calls hdata hcalls server =>
          rw [server]
          refine hnothing.trans (Server.mails_calls (fun c _ => ?_) tr _)
          cases c <;> simp [Server.Call.Mails]
    · cases hv
  | tick tr dt =>
    cases hv
    exact mails_update (fun _ _ => trivial) tr dt _
  | dc tr =>
    cases hv
    exact mails_disconnectAll (fun _ => trivial) tr _

lemma sent_stays {acts : List Act} (hr : runE (Room.step hash) w acts = .ok v) :
    ∀ m ∈ outbox w.site.server.log, m ∈ outbox v.site.server.log :=
  runE_inv (I := fun v => ∀ m ∈ outbox w.site.server.log, m ∈ outbox v.site.server.log)
    (P := fun _ => True) (fun _ _ _ h _ hv m hm => (step_sends hv).kept m (h m hm))
    (fun _ hm => hm) (fun _ _ => trivial) hr

lemma serve_say (hs : Sound hash file w) {name str : String} {tr : Transport} {throws : Bool}
    (hclient : 0 ≤ w.site.server.getClientID e.1 e.2)
    (hv : step hash w (.serve e (.request name (.say str)) tr throws) = .ok v) :
    v.site.server = (w.site.counted (ClientMain.Request.packet name (.say str))).broadcast tr
        (messagePacket (spoken e str)) (w.site.server.getClientID e.1 e.2) ∧
      v.site.tables = w.site.tables := by
  rw [Room.step] at hv
  split at hv
  · rename_i ho
    have hfits := (hs.asked e name _ ho).2
    have hread := (ClientMain.Request.reads hfits).one str [] rfl
    cases hsite : w.site.listen hash tr throws e (Outgoing.request name (.say str)).packet with
    | error _ =>
      rw [hsite] at hv
      cases hv
    | ok site =>
      rw [hsite] at hv
      cases hv
      obtain ⟨calls, hcalls, hserver, htables⟩ := listen_request hsite
      rw [handlePacket, Site.getClientID_counted, if_pos hclient] at hcalls
      change handleClient _ _ e.1 e.2 PacketType.Message.id _ = _ at hcalls
      rw [handleClient_message, hread] at hcalls
      cases hcalls
      refine ⟨hserver, ?_⟩
      dsimp only
      rw [htables, handleTables]
      split <;> rfl
  · cases hv

lemma receive_line (h : Spoken w) (hp : w.processes e = some p) (hc : p.connected = true)
    (hidle : p.session.handling = false) {line : String} (hfits : Packet.StringFits line)
    (hm : (e, messagePacket line) ∈ outbox w.site.server.log) (n : ℤ) :
    ∃ x q, step hash w (.receive e (messagePacket line) n) = .ok x ∧ x.processes e = some q ∧
      q.terminal.screen = p.terminal.screen ++ [line] := by
  have hdata : Packet.getInt8 (messagePacket line).data =
      some (PacketType.Message.id, Packet.string.put line) :=
    Packet.getInt8_byte (by decide) (by decide) _
  have hhandle : p.handle n PacketType.Message.id (Packet.string.put line) =
      Process.perform PacketType.Message.id (p, []) (.print line) := by
    rw [Process.handle, handlePacket_message hfits hdata]
    rfl
  have hreceive : p.receive n (messagePacket line) =
      .ok (Process.perform PacketType.Message.id (p, []) (.print line)) := by
    rw [Process.receive, hdata]
    dsimp only
    rw [(h.process e p hp).joined hc, hc, hidle, hhandle]
    rfl
  have hmove : w.move e (Process.receive n (messagePacket line)) = .ok { w with
      processes := Function.update w.processes e
        (some (Process.perform PacketType.Message.id (p, []) (.print line)).1)
      up := w.up ++ [] } := by
    rw [Room.move, hp]
    dsimp only
    rw [hreceive]
    rfl
  refine ⟨{ w with
      processes := Function.update w.processes e
        (some (Process.perform PacketType.Message.id (p, []) (.print line)).1)
      up := w.up ++ [] }, _, ?_, Function.update_self e _ _, rfl⟩
  rw [Room.step, if_pos hm, hmove]

/-- Before the line, and after it. -/
def quiet : Room := reached (Room.step String.length) (start .fresh) annSpeaks

def heard : Room := reached (Room.step String.length) quiet [annIsHeard]

end Room

end Sfrpg
