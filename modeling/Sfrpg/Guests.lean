import Sfrpg.Outbox

/-!
The clients of a server that talks UDP alone.

`addClient` searches before it adds, so an endpoint has one client at most, and what is broadcast on
behalf of a client goes to other endpoints.
-/

namespace Sfrpg

open Lib Lib.Word Lib.Run

namespace Server

/-- No two clients sit at one endpoint, all of them talk UDP, and their ids have 32 bits. -/
structure Guests (s : Server) : Prop where
  unique : ∀ i j a b, s.clientMap.lookup i = some a → s.clientMap.lookup j = some b →
    a.clientIP = b.clientIP → a.clientPORT = b.clientPORT → i = j
  datagrams : ∀ id info, s.clientMap.lookup id = some info → info.protocol = .UDP
  ids : ∀ id info, s.clientMap.lookup id = some info → InInt32 id

variable {s t : Server} {tr : Transport} {id : ClientID} {e : Endpoint}

lemma guests_empty (h : s.clientMap = ∅) : Guests s := by
  have hnone : ∀ (id : ClientID) (info : ClientInfo),
      s.clientMap.lookup id = some info → False := by
    intro id info hi
    rw [h] at hi
    cases hi
  exact ⟨fun i _ a _ hi _ => (hnone i a hi).elim, fun id info hi => (hnone id info hi).elim,
    fun id info hi => (hnone id info hi).elim⟩

lemma Guests.narrows (h : Guests s) (hn : Narrows s t) : Guests t where
  unique := by
    intro i j a b ha hb hip hport
    obtain ⟨a', ha', -, hip', hport'⟩ := hn.entries i a ha
    obtain ⟨b', hb', -, hip'', hport''⟩ := hn.entries j b hb
    refine h.unique i j a' b' ha' hb' ?_ ?_
    · rw [← hip', ← hip'', hip]
    · rw [← hport', ← hport'', hport]
  datagrams := by
    intro id info hi
    obtain ⟨old, hold, hprotocol, -⟩ := hn.entries id info hi
    exact hprotocol.trans (h.datagrams id old hold)
  ids := by
    intro id info hi
    obtain ⟨old, hold, -⟩ := hn.entries id info hi
    exact h.ids id old hold

lemma Guests.addClient (h : Guests s) (ip : IpAddress) (port : PortNumber) :
    Guests (s.addClient .UDP ip port).1 := by
  by_cases hrun : s.running = true
  · obtain ⟨-, he⟩ | ⟨hnone, -, he⟩ := addClient_cases .UDP ip port hrun
    · rwa [he]
    have hrange := inInt32_toInt32 s.lastID
    generalize toInt32 (s.lastID : ℤ) = n at he hrange
    rw [he]
    have hentry : ∀ i a, (Dict.emplace n (.new .UDP ip port s.serverTime) s.clientMap).lookup i =
        some a → s.clientMap.lookup i = some a ∨ (n = i ∧ .new .UDP ip port s.serverTime = a) :=
      fun i a ha => Dict.lookup_emplace_some ha
    have hfree := findClient_none.mp hnone
    refine ⟨fun i j a b ha hb hip hport => ?_, fun i a ha => ?_, fun i a ha => ?_⟩
    · obtain ha | ⟨hi, rfl⟩ := hentry i a ha <;> obtain hb | ⟨hj, rfl⟩ := hentry j b hb
      · exact h.unique i j a b ha hb hip hport
      · exact absurd ⟨hip, hport⟩ (hfree i a ha)
      · exact absurd ⟨hip.symm, hport.symm⟩ (hfree j b hb)
      · exact hi.symm.trans hj
    · obtain ha | ⟨-, rfl⟩ := hentry i a ha
      · exact h.datagrams i a ha
      · rfl
    · obtain ha | ⟨rfl, -⟩ := hentry i a ha
      · exact h.ids i a ha
      · exact hrange
  · have he : s.addClient .UDP ip port = (s, Network.NullID) := by simp [Server.addClient, hrun]
    rwa [he]

lemma Guests.call (h : Guests s) (tr : Transport) (c : Call) : Guests (s.call tr c) := by
  cases c with
  | addClient ip port => exact h.addClient ip port
  | removeClient id => exact h.narrows (removeClient_narrows tr id s)
  | removeClientAt ip port => exact h.narrows (removeClientAt_narrows tr ip port s)
  | send id p => exact h.narrows (send_frame tr id p s).narrows
  | broadcast p ignore => exact h.narrows (broadcast_frame tr p ignore s).narrows

/-! ### Who has joined -/

/-- The clients added by `t` beyond `s` satisfy `P`, and none is forgotten. -/
structure Enrols (P : Endpoint → Prop) (s t : Server) : Prop where
  old : ∀ x ∈ clientsAdded s.log, x ∈ clientsAdded t.log
  new : ∀ x ∈ clientsAdded t.log, x ∈ clientsAdded s.log ∨ P x.2

variable {P : Endpoint → Prop}

lemma Enrols.of_eq (h : clientsAdded t.log = clientsAdded s.log) : Enrols P s t := by
  constructor
  · intro x hx
    rwa [h]
  · intro x hx
    rw [h] at hx
    exact .inl hx

lemma Enrols.trans {u : Server} (h : Enrols P s t) (h' : Enrols P t u) : Enrols P s u where
  old x hx := h'.old x (h.old x hx)
  new x hx := by
    obtain hx | hx := h'.new x hx
    · exact h.new x hx
    · exact .inr hx

lemma adds_addClient {ip : IpAddress} {port : PortNumber} (hP : P (ip, port)) :
    Enrols P s (s.addClient .UDP ip port).1 := by
  by_cases hrun : s.running = true
  · obtain ⟨-, he⟩ | ⟨-, -, he⟩ := addClient_cases .UDP ip port hrun
    · rw [he]
      exact .of_eq rfl
    rw [he]
    by_cases hmem : toInt32 s.lastID ∈ s.clientMap
    · exact .of_eq (by rw [if_pos hmem])
    · have hlog : clientsAdded (if toInt32 s.lastID ∈ s.clientMap then s.log
          else .joined (toInt32 s.lastID) ip port :: s.log) =
          (toInt32 s.lastID, ip, port) :: clientsAdded s.log := by
        rw [if_neg hmem]
        rfl
      refine ⟨fun x hx => ?_, fun x hx => ?_⟩
      · rw [hlog]
        exact List.mem_cons_of_mem _ hx
      · rw [hlog] at hx
        obtain rfl | hx := List.mem_cons.mp hx
        · exact .inr hP
        · exact .inl hx
  · have he : s.addClient .UDP ip port = (s, Network.NullID) := by simp [Server.addClient, hrun]
    rw [he]
    exact .of_eq rfl

/-- Where a call adds a client, if it does. -/
def Call.Enrols (P : Endpoint → Prop) : Call → Prop
  | .addClient ip port => P (ip, port)
  | .removeClient _ => True
  | .removeClientAt _ _ => True
  | .send _ _ => True
  | .broadcast _ _ => True

lemma enrols_call {c : Call} (hc : c.Enrols P) (tr : Transport) (s : Server) :
    Enrols P s (s.call tr c) := by
  cases c with
  | addClient ip port => exact adds_addClient hc
  | removeClient id => exact .of_eq (removeClient_narrows tr id s).joined
  | removeClientAt ip port => exact .of_eq (removeClientAt_narrows tr ip port s).joined
  | send id p => exact .of_eq (send_frame tr id p s).joined
  | broadcast p ignore => exact .of_eq (broadcast_frame tr p ignore s).joined

lemma enrols_calls {cs : List Call} (hcs : ∀ c ∈ cs, c.Enrols P) (tr : Transport) (s : Server) :
    Enrols P s (cs.foldl (Server.call tr) s) := by
  induction cs generalizing s with
  | nil => exact .of_eq rfl
  | cons c cs ih =>
    obtain ⟨hc, hcs⟩ := List.forall_mem_cons.mp hcs
    exact (enrols_call hc tr s).trans (ih hcs _)

lemma lookup_getClientID {ip : IpAddress} {port : PortNumber} (h : 0 ≤ s.getClientID ip port) :
    s.running = true ∧ ∃ info, s.clientMap.lookup (s.getClientID ip port) = some info ∧
      info.clientIP = ip ∧ info.clientPORT = port := by
  unfold getClientID at h ⊢
  split at h
  · exact absurd h (by decide)
  rename_i hrun
  rw [if_neg hrun]
  cases hf : s.findClient ip port with
  | none =>
    rw [hf] at h
    exact absurd h (by decide)
  | some id => exact ⟨by simpa using hrun, findClient_some hf⟩

/-- **A broadcast on behalf of a client goes to the others**: none of them sits at its endpoint. -/
lemma mails_broadcast_others (h : Guests s) {p : Packet}
    (hid : 0 ≤ s.getClientID e.1 e.2) (hn : Narrows s t) (hat : Addressed t) :
    Mails (fun e' q => q = p ∧ e' ≠ e) t (t.broadcast tr p (s.getClientID e.1 e.2)) := by
  obtain ⟨hrun, info, hi, hip, hport⟩ := lookup_getClientID hid
  have hall : Mails (fun _ _ => True) t (t.broadcast tr p (s.getClientID e.1 e.2)) :=
    mails_broadcast (fun _ => trivial) tr _ t
  refine ⟨hall.kept, fun m hm => ?_⟩
  rw [outbox_broadcast hat (hn.running.trans hrun)] at hm
  rcases List.mem_append.mp hm with hnew | hold
  · obtain ⟨e', he', rfl⟩ := List.mem_map.mp hnew
    obtain ⟨i, -, hrecipient⟩ := List.mem_filterMap.mp (List.mem_reverse.mp he')
    obtain ⟨info', hi', hat', hne, -⟩ := recipient_eq_some.mp hrecipient
    obtain ⟨old, hold, -, hip', hport'⟩ := hn.entries i info' hi'
    refine .inr ⟨rfl, fun heq => hne ?_⟩
    obtain rfl : e' = e := heq
    refine h.unique i _ old info hold hi ?_ ?_
    · rw [← hip', hip, ← hat']
    · rw [← hport', hport, ← hat']
  · exact .inl hold

end Server

end Sfrpg
