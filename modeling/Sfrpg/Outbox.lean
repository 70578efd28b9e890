import Sfrpg.Requests
import Sfrpg.ServerFrame

/-!
Where the packets of the server go.

The history knows the receiver of a packet by its id. A client sits at the endpoint it joined from,
so the history tells the endpoint too. Nothing is sent to an endpoint but what the sections of the
server give to the transport for it.
-/

namespace Sfrpg

open Lib Lib.Word Lib.Run

namespace Server

/-- The endpoint of the last client to join under the id. -/
def endpointOf (id : ClientID) (l : List LogEntry) : Option Endpoint := (clientsAdded l).lookup id

/-- The packets the transport took, each with the endpoint of its receiver, newest first. -/
def outbox : List LogEntry → List (Endpoint × Packet)
  | [] => []
  | .sent id p accepted :: l =>
    (if accepted then ((endpointOf id l).map (·, p)).toList else []) ++ outbox l
  | .joined _ _ _ :: l => outbox l
  | .reply _ :: l => outbox l

/-- The history knows where the clients are. -/
def Addressed (s : Server) : Prop :=
  ∀ id info, s.clientMap.lookup id = some info →
    endpointOf id s.log = some (info.clientIP, info.clientPORT)

/-- Nothing is taken back, and what `t` has sent beyond `s` satisfies `Q`. -/
structure Mails (Q : Endpoint → Packet → Prop) (s t : Server) : Prop where
  kept : ∀ m ∈ outbox s.log, m ∈ outbox t.log
  new : ∀ m ∈ outbox t.log, m ∈ outbox s.log ∨ Q m.1 m.2

variable {Q R : Endpoint → Packet → Prop} {s t u : Server} {tr : Transport} {id : ClientID}
  {p : Packet}

/-! ### Endpoints -/

lemma addressed_start : Addressed start := by
  intro id info h
  simp [start] at h

lemma Addressed.narrows (h : Addressed s) (hn : Narrows s t) : Addressed t := by
  intro id info hi
  obtain ⟨old, hold, -, hip, hport⟩ := hn.entries id info hi
  rw [endpointOf, hn.joined, hip, hport]
  exact h id old hold

lemma Addressed.addClient (h : Addressed s) (protocol : NetworkProtocol) (ip : IpAddress)
    (port : PortNumber) : Addressed (s.addClient protocol ip port).1 := by
  by_cases hrun : s.running = true
  · obtain ⟨-, he⟩ | ⟨-, -, he⟩ := addClient_cases protocol ip port hrun
    · rwa [he]
    · rw [he]
      intro id info hi
      dsimp only at hi ⊢
      by_cases hmem : toInt32 s.lastID ∈ s.clientMap
      · rw [Dict.lookup_emplace_mem hmem] at hi
        rw [if_pos hmem]
        exact h id info hi
      · rw [if_neg hmem, endpointOf]
        by_cases hid : id = toInt32 s.lastID
        · rw [hid, Dict.lookup_emplace hmem] at hi
          rw [hid]
          cases hi
          exact List.lookup_cons_self
        · rw [Dict.lookup_emplace_ne hid] at hi
          have hne : (id == toInt32 s.lastID) = false := by simpa using hid
          rw [← h id info hi, endpointOf]
          change List.lookup id ((toInt32 s.lastID, ip, port) :: clientsAdded s.log) = _
          rw [List.lookup_cons, hne]
  · have he : s.addClient protocol ip port = (s, Network.NullID) := by
      simp [Server.addClient, hrun]
    rwa [he]

lemma Addressed.call (h : Addressed s) (tr : Transport) (c : Call) : Addressed (s.call tr c) := by
  cases c with
  | addClient ip port => exact h.addClient .UDP ip port
  | removeClient id => exact h.narrows (removeClient_narrows tr id s)
  | removeClientAt ip port => exact h.narrows (removeClientAt_narrows tr ip port s)
  | send id p => exact h.narrows (send_frame tr id p s).narrows
  | broadcast p ignore => exact h.narrows (broadcast_frame tr p ignore s).narrows

lemma Addressed.calls (h : Addressed s) (tr : Transport) (cs : List Call) :
    Addressed (cs.foldl (Server.call tr) s) :=
  Dict.foldl_inv (fun _ c ht => ht.call tr c) cs h

lemma Addressed.accept (h : Addressed s) (n : ℕ) (ip : IpAddress) (port : PortNumber) :
    Addressed (s.accept n ip port) :=
  Addressed.addClient (s := { s with selector := .socket n :: s.selector }) h .TCP ip port

lemma Addressed.endpointOf_getClientID (h : Addressed s) {ip : IpAddress} {port : PortNumber}
    (hid : 0 ≤ s.getClientID ip port) :
    endpointOf (s.getClientID ip port) s.log = some (ip, port) := by
  unfold getClientID at hid ⊢
  split at hid
  · exact absurd hid (by decide)
  · rename_i hrun
    rw [if_neg hrun]
    cases hf : s.findClient ip port with
    | none =>
      rw [hf] at hid
      exact absurd hid (by decide)
    | some id =>
      obtain ⟨info, hi, hip, hport⟩ := findClient_some hf
      rw [Option.getD_some, h id info hi, hip, hport]

/-! ### What is sent -/

lemma Mails.refl (Q : Endpoint → Packet → Prop) (s : Server) : Mails Q s s :=
  ⟨fun _ hm => hm, fun _ hm => .inl hm⟩

lemma Mails.trans (h : Mails Q s t) (h' : Mails Q t u) : Mails Q s u where
  kept m hm := h'.kept m (h.kept m hm)
  new m hm := by
    rcases h'.new m hm with ht | hQ
    · exact h.new m ht
    · exact .inr hQ

lemma Mails.imp (h : Mails Q s t) (hQR : ∀ e p, Q e p → R e p) : Mails R s t :=
  ⟨h.kept, fun m hm => (h.new m hm).imp_right (hQR m.1 m.2)⟩

lemma mails_of_outbox (h : outbox t.log = outbox s.log) : Mails Q s t where
  kept m hm := by rwa [h]
  new m hm := by
    rw [h] at hm
    exact .inl hm

lemma mem_outbox_send {m : Endpoint × Packet} (hm : m ∈ outbox (s.send tr id p).1.log) :
    m ∈ outbox s.log ∨
      ((s.send tr id p).2 = true ∧ endpointOf id s.log = some m.1 ∧ m.2 = p) := by
  obtain h | h := send_cases tr id p s
  · rw [h] at hm
    exact .inl hm
  · rw [h] at hm ⊢
    simp only [deliver, outbox, List.mem_append] at hm ⊢
    rcases hm with hnew | hold
    · right
      split at hnew
      · next htaken =>
        obtain ⟨e, he, rfl⟩ := Option.map_eq_some_iff.mp (Option.mem_toList.mp hnew)
        exact ⟨htaken, he, rfl⟩
      · cases hnew
    · exact .inl hold

lemma mails_deliver (hQ : ∀ e, Q e p) (tr : Transport) (id : ClientID) (s : Server) :
    Mails Q s (s.deliver tr id p).1 where
  kept m hm := by
    simp only [deliver, outbox, List.mem_append]
    exact .inr hm
  new m hm := by
    simp only [deliver, outbox, List.mem_append] at hm
    rcases hm with hnew | hold
    · right
      split at hnew
      · obtain ⟨e, -, rfl⟩ := Option.map_eq_some_iff.mp (Option.mem_toList.mp hnew)
        exact hQ e
      · cases hnew
    · exact .inl hold

lemma mails_send (hQ : ∀ e, Q e p) (tr : Transport) (id : ClientID) (s : Server) :
    Mails Q s (s.send tr id p).1 :=
  send_inv (fun t i ht => ht.trans (mails_deliver hQ tr i t)) (.refl Q s) id

lemma mails_send_to (hQ : ∀ e, endpointOf id s.log = some e → Q e p) (tr : Transport) :
    Mails Q s (s.send tr id p).1 where
  kept :=
    have h : Mails (fun _ _ => True) s (s.send tr id p).1 := mails_send (fun _ => trivial) tr id s
    h.kept
  new m hm := by
    obtain hold | ⟨-, haddress, hpacket⟩ := mem_outbox_send hm
    · exact .inl hold
    · rw [hpacket]
      exact .inr (hQ m.1 haddress)

lemma mails_broadcast (hQ : ∀ e, Q e p) (tr : Transport) (ignore : ClientID) (s : Server) :
    Mails Q s (s.broadcast tr p ignore) :=
  broadcast_inv (fun t i ht => ht.trans (mails_deliver hQ tr i t)) (.refl Q s) ignore

lemma mem_clientsAdded_of_outbox {l : List LogEntry} {m : Endpoint × Packet} (hm : m ∈ outbox l) :
    ∃ id, (id, m.1) ∈ clientsAdded l := by
  induction l with
  | nil => cases hm
  | cons entry l ih =>
    cases entry with
    | joined id ip port =>
      obtain ⟨i, hi⟩ := ih hm
      exact ⟨i, List.mem_cons_of_mem _ hi⟩
    | reply id => exact ih hm
    | sent id p accepted =>
      rcases List.mem_append.mp hm with hnew | hold
      · split at hnew
        · obtain ⟨e, he, rfl⟩ := Option.map_eq_some_iff.mp (Option.mem_toList.mp hnew)
          obtain ⟨before, after, hl, -⟩ := List.lookup_eq_some_iff.mp he
          refine ⟨id, ?_⟩
          change (id, e) ∈ clientsAdded l
          rw [hl]
          exact List.mem_append_right _ List.mem_cons_self
        · cases hnew
      · exact ih hold

/-! ### Whom a broadcast reaches -/

/-- Where a broadcast goes for a client, if it goes to it at all. -/
def recipient (tr : Transport) (ignore : ClientID) (s : Server) (id : ClientID) : Option Endpoint :=
  match s.clientMap.lookup id with
  | none => none
  | some info =>
    if id = ignore ∨ (info.protocol = .TCP ∧ id ∉ s.tcpClients) ∨ tr id = false then none
    else some (info.clientIP, info.clientPORT)

lemma recipient_frame (h : Frame s t) (tr : Transport) (ignore : ClientID) :
    t.recipient tr ignore = s.recipient tr ignore := by
  funext id
  rw [recipient, recipient, h.clientMap, h.tcpClients]

lemma outbox_broadcastOne (h : Addressed s) (tr : Transport) (p : Packet) (ignore : ClientID)
    (id : ClientID) : outbox (broadcastOne tr p ignore s id).log =
      ((s.recipient tr ignore id).map (·, p)).toList ++ outbox s.log := by
  unfold broadcastOne recipient
  cases hi : s.clientMap.lookup id with
  | none => rfl
  | some info =>
    dsimp only
    by_cases hignore : id = ignore
    · rw [if_pos hignore, if_pos (.inl hignore)]
      rfl
    by_cases hsocket : info.protocol = .TCP ∧ id ∉ s.tcpClients
    · rw [if_neg hignore, if_pos hsocket, if_pos (.inr (.inl hsocket))]
      rfl
    rw [if_neg hignore, if_neg hsocket]
    by_cases htr : tr id = false
    · rw [if_pos (.inr (.inr htr))]
      simp [deliver, outbox, htr]
    · rw [if_neg (by tauto)]
      simp [deliver, outbox, htr, h id info hi]

/-- **A broadcast goes once to every other client whose socket takes it**, and to nobody else. -/
lemma outbox_broadcast (h : Addressed s) (hrun : s.running = true) (tr : Transport) (p : Packet)
    (ignore : ClientID) : outbox (s.broadcast tr p ignore).log =
      (s.clientMap.keys.filterMap (s.recipient tr ignore)).reverse.map (·, p) ++ outbox s.log := by
  have hfold : ∀ (ids : List ClientID) (t : Server), Frame s t →
      outbox (ids.foldl (broadcastOne tr p ignore) t).log =
        (ids.filterMap (s.recipient tr ignore)).reverse.map (·, p) ++ outbox t.log := by
    intro ids
    induction ids with
    | nil => exact fun t _ => rfl
    | cons id ids ih =>
      intro t ht
      have hone : Frame s (broadcastOne tr p ignore t id) := by
        obtain heq | heq := broadcastOne_cases tr p ignore t id
        · rwa [heq]
        · rw [heq]
          exact ht.trans (deliver_frame tr id p t)
      rw [List.foldl_cons, ih _ hone, outbox_broadcastOne (h.narrows ht.narrows),
        recipient_frame ht, List.filterMap_cons]
      cases s.recipient tr ignore id with
      | none => rfl
      | some e => simp
  rw [broadcast, if_neg (by simp [hrun])]
  exact hfold _ s (.refl s)

lemma recipient_eq_some {e : Endpoint} {tr : Transport} {ignore id : ClientID} :
    s.recipient tr ignore id = some e ↔ ∃ info, s.clientMap.lookup id = some info ∧
      (info.clientIP, info.clientPORT) = e ∧ id ≠ ignore ∧
      (info.protocol = .TCP → id ∈ s.tcpClients) ∧ tr id = true := by
  unfold recipient
  cases s.clientMap.lookup id with
  | none => simp
  | some info =>
    dsimp only
    by_cases hout : id = ignore ∨ (info.protocol = .TCP ∧ id ∉ s.tcpClients) ∨ tr id = false
    · rw [if_pos hout]
      simp only [reduceCtorEq, Option.some.injEq, exists_eq_left', false_iff, not_and]
      intro he hne hsocket htr
      rcases hout with h | ⟨h, hno⟩ | h
      · exact hne h
      · exact hno (hsocket h)
      · rw [h] at htr
        cases htr
    · rw [if_neg hout]
      push Not at hout
      simp only [Option.some.injEq, exists_eq_left']
      constructor
      · exact fun he => ⟨he, hout.1, hout.2.1, by simpa using hout.2.2⟩
      · exact fun h => h.1

lemma mails_addClient (protocol : NetworkProtocol) (ip : IpAddress) (port : PortNumber)
    (s : Server) : Mails Q s (s.addClient protocol ip port).1 := by
  refine mails_of_outbox ?_
  unfold Server.addClient
  split
  · rfl
  split
  · rfl
  · dsimp only
    split <;> rfl

lemma mails_removeClient (hQ : ∀ e, Q e disconnectPacket) (tr : Transport) (id : ClientID)
    (s : Server) : Mails Q s (s.removeClient tr id).1 := by
  obtain h | h := removeClient_cases tr id s
  · rw [h]
    exact .refl Q s
  · rw [h]
    exact (mails_send hQ tr id s).trans (mails_of_outbox rfl)

lemma mails_removeClientAt (hQ : ∀ e, Q e disconnectPacket) (tr : Transport) (ip : IpAddress)
    (port : PortNumber) (s : Server) : Mails Q s (s.removeClientAt tr ip port).1 := by
  obtain h | ⟨id, -, h⟩ := removeClientAt_cases tr ip port s
  · rw [h]
    exact .refl Q s
  · rw [h]
    exact (mails_send hQ tr id s).trans (mails_of_outbox rfl)

lemma mails_disconnectAll (hQ : ∀ e, Q e disconnectPacket) (tr : Transport) (s : Server) :
    Mails Q s (s.disconnectAll tr) :=
  (mails_broadcast hQ tr Network.NullID s).trans (mails_of_outbox rfl)

lemma mails_heartbeatReply (id : ClientID) (s : Server) : Mails Q s (s.heartbeatReply id) := by
  obtain h | ⟨-, -, -, h⟩ := heartbeatReply_cases id s
  · rw [h]
    exact .refl Q s
  · rw [h]
    exact mails_of_outbox rfl

lemma mails_updateClient (hQ : ∀ e s, Q e (heartbeatPacket s)) (tr : Transport) (s : Server)
    (id : ClientID) : Mails Q s (updateClient tr s id) := by
  unfold updateClient
  split
  · exact .refl Q s
  split
  · exact mails_of_outbox rfl
  split
  · exact (mails_send (fun e => hQ e s) tr id s).trans (mails_of_outbox rfl)
  · exact .refl Q s

lemma mails_update (hQ : ∀ e s, Q e (heartbeatPacket s)) (tr : Transport) (dt : Time) (s : Server) :
    Mails Q s (s.update tr dt) := by
  unfold update
  split
  · exact .refl Q s
  · have hlog : (s.advance dt).log = s.log := (advance_frame dt s).2.2.2.2
    have hadvance : Mails Q s (s.advance dt) := mails_of_outbox (by rw [hlog])
    refine hadvance.trans ?_
    exact Dict.foldl_inv (I := fun t => Mails Q (s.advance dt) t)
      (fun t i ht => ht.trans (mails_updateClient hQ tr t i)) _ (.refl Q _)

/-! ### What a handler sends -/

/-- The packets of the call satisfy `Q`, and so does the packet for a client that leaves. -/
def Call.Mails (Q : Endpoint → Packet → Prop) : Call → Prop
  | .send _ p => ∀ e, Q e p
  | .broadcast p _ => ∀ e, Q e p
  | .removeClient _ => ∀ e, Q e disconnectPacket
  | .removeClientAt _ _ => ∀ e, Q e disconnectPacket
  | .addClient _ _ => True

lemma mails_call {c : Call} (hc : c.Mails Q) (tr : Transport) (s : Server) :
    Mails Q s (s.call tr c) := by
  cases c with
  | addClient ip port => exact mails_addClient .UDP ip port s
  | removeClient id => exact mails_removeClient hc tr id s
  | removeClientAt ip port => exact mails_removeClientAt hc tr ip port s
  | send id p => exact mails_send hc tr id s
  | broadcast p ignore => exact mails_broadcast hc tr ignore s

lemma mails_calls {cs : List Call} (hcs : ∀ c ∈ cs, c.Mails Q) (tr : Transport) (s : Server) :
    Mails Q s (cs.foldl (Server.call tr) s) := by
  induction cs generalizing s with
  | nil => exact .refl Q s
  | cons c cs ih =>
    obtain ⟨hc, hcs⟩ := List.forall_mem_cons.mp hcs
    exact (mails_call hc tr s).trans (ih hcs _)

end Server

namespace ServerMain

open Server

/-- The types a client acts on the contents of. -/
def telling : List PacketType := [.Login, .Sql, .Chat]

/-- A packet of another type. -/
def Plain (p : Packet) : Prop := ∀ type ∈ telling, p.stamp ≠ some type.id

lemma plain_of_stamp {p : Packet} {type : PacketType} (h : p.stamp = some type.id)
    (htype : type ∉ telling) : Plain p := by
  intro type' htype' h'
  have hid : type.id = type'.id := Option.some.inj (h.symm.trans h')
  have hsame : type = type' := by
    revert hid
    cases type <;> cases type' <;> simp [PacketType.id]
  exact htype (hsame ▸ htype')

lemma plain_disconnectPacket : Plain disconnectPacket :=
  plain_of_stamp (stamp_stampPacket .Disconnect) (by decide)

lemma plain_heartbeatPacket (s : Server) : Plain s.heartbeatPacket :=
  plain_of_stamp (stamp_putInt32 (stamp_stampPacket .Heartbeat) _) (by decide)

lemma plain_putString {type : PacketType} (htype : type ∉ telling) (text : String) :
    Plain ((stampPacket type .empty).putString text) :=
  plain_of_stamp (stamp_putString (stamp_stampPacket type) text) htype

/-- **What the branch for a registered client sends**: packets a client only prints, or the one
reply to a request for a name or for rows. -/
lemma handleClient_sends {db : Database} {cid : ClientID} {ip : IpAddress} {port : PortNumber}
    {l_id : ℤ} {data : List UInt8} {calls : List Call}
    (h : handleClient db cid ip port l_id data = some calls) :
    (∀ c ∈ calls, c.Mails fun _ p => Plain p) ∨
      ∃ type ∈ telling, l_id = type.id ∧ ∃ p, calls = [.send cid p] := by
  have hplain : ∀ {c : Call}, (∀ e : Endpoint, c.Mails fun _ p => Plain p) →
      ∀ c' ∈ [c], c'.Mails fun _ p => Plain p := by
    intro c hc c' hc'
    rw [List.mem_singleton.mp hc']
    exact hc (0, 0)
  unfold handleClient at h
  split at h
  · left
    obtain rfl := Option.some.inj h
    intro c hc
    simp only [List.mem_cons, List.not_mem_nil, or_false] at hc
    rcases hc with rfl | rfl
    · exact fun _ => plain_disconnectPacket
    · exact fun _ => plain_putString (by decide) _
  split at h
  · obtain rfl := Option.some.inj h
    exact .inl (hplain fun _ _ => plain_putString (by decide) _)
  split at h
  · obtain rfl := Option.some.inj h
    exact .inl (hplain fun _ _ => plain_putString (by decide) _)
  split at h
  · rename_i hlogin
    obtain ⟨answer, -, rfl⟩ := Option.map_eq_some_iff.mp h
    exact .inr ⟨.Login, by decide, hlogin, _, rfl⟩
  split at h
  · rename_i hsql
    split at h
    · obtain rfl := Option.some.inj h
      exact .inl (List.forall_mem_nil _)
    · obtain rfl := Option.some.inj h
      exact .inr ⟨.Sql, by decide, hsql, _, rfl⟩
  split at h
  · obtain rfl := Option.some.inj h
    exact .inl (hplain fun _ _ => plain_putString (by decide) _)
  split at h
  · rename_i hchat
    dsimp only at h
    split at h
    · obtain rfl := Option.some.inj h
      exact .inr ⟨.Chat, by decide, hchat, _, rfl⟩
    · obtain rfl := Option.some.inj h
      exact .inr ⟨.Chat, by decide, hchat, _, rfl⟩
  · obtain rfl := Option.some.inj h
    exact .inl (List.forall_mem_nil _)

end ServerMain

end Sfrpg
