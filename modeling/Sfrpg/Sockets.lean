import Sfrpg.Lib.Run
import Sfrpg.ServerFrame

/-!
The sockets of TCP clients beside the registry, over any interleaving of the threads.

Three collections describe the TCP side: the registry, the sockets by client, and the
selector. A registered TCP client always has its socket, because `accept` files both in one
section and the listener drops a socket only after its client. The other directions fail: a
client can leave the registry without its socket, and a socket never leaves the selector.
-/

namespace Sfrpg

open Lib Lib.Word Lib.Run

namespace Server

variable {s t u : Server} {tr : Transport} {id : ClientID} {info : ClientInfo}

/-- The client `id` is registered with protocol TCP. -/
def IsTcp (s : Server) (id : ClientID) : Prop :=
  ∃ info, s.clientMap.lookup id = some info ∧ info.protocol = .TCP

instance (s : Server) (id : ClientID) : Decidable (s.IsTcp id) :=
  match h : s.clientMap.lookup id with
  | none => isFalse fun ⟨_, h', _⟩ => by rw [h] at h'; cases h'
  | some info =>
    if hp : info.protocol = .TCP then isTrue ⟨info, h, hp⟩
    else isFalse fun ⟨info', h', hp'⟩ => by rw [h] at h'; cases h'; exact hp hp'

/-! ### A pass over the ready sockets -/

lemma receiveOne_cases (tr : Transport) (a : Arrivals) (acc : Server × List ClientID)
    (id : ClientID) :
    receiveOne tr a acc id = acc ∨
    (∃ p, a.recv id = some (.packet p) ∧
      receiveOne tr a acc id =
        ({ acc.1 with totalReceived := acc.1.totalReceived + p.getDataSize }.handleTcp tr
          (a.calls id) id p, acc.2)) ∨
    (a.recv id = some .disconnected ∧ id ∈ acc.1.clientMap ∧
      receiveOne tr a acc id = ((acc.1.removeClient tr id).1, acc.2 ++ [id])) := by
  unfold receiveOne
  cases h : a.recv id with
  | none => exact .inl rfl
  | some r =>
    by_cases hmem : id ∈ acc.1.clientMap
    · cases r with
      | packet p => exact .inr (.inl ⟨p, rfl, by simp [hmem]⟩)
      | disconnected => exact .inr (.inr ⟨rfl, hmem, by simp [hmem]⟩)
      | error => exact .inl (by simp [hmem])
    · exact .inl (by simp [hmem])

lemma handleTcp_inv {I : Server → Prop} {cs : List Call} (hreply : I s → I (s.heartbeatReply id))
    (hcall : ∀ t, ∀ c ∈ cs, I t → I (t.call tr c)) (p : Packet) (hs : I s) :
    I (s.handleTcp tr cs id p) := by
  unfold handleTcp
  split
  · exact hs
  split
  · exact hs
  split
  · exact hreply hs
  · clear hreply
    induction cs generalizing s with
    | nil => exact hs
    | cons c cs ih =>
      have hc := hcall s c List.mem_cons_self hs
      exact ih (fun t d hd => hcall t d (List.mem_cons_of_mem c hd)) hc

/-- `I` is kept by all that the listener does in a pass over the ready sockets. -/
structure Served (tr : Transport) (a : Arrivals) (I : Server → Prop) : Prop where
  count : ∀ t n, I t → I { t with totalReceived := n }
  reply : ∀ t id, I t → I (t.heartbeatReply id)
  call : ∀ t id, ∀ c ∈ a.calls id, I t → I (t.call tr c)
  remove : ∀ t id, I t → I (t.removeClient tr id).1

namespace Served

variable {a : Arrivals} {I : Server → Prop}

lemma handleTcp (h : Served tr a I) (id : ClientID) (p : Packet) (hs : I s) :
    I (s.handleTcp tr (a.calls id) id p) :=
  handleTcp_inv (h.reply s id) (fun t c hc => h.call t id c hc) p hs

lemma receiveOne (h : Served tr a I) {acc : Server × List ClientID} (id : ClientID)
    (hacc : I acc.1) : I (receiveOne tr a acc id).1 := by
  obtain he | ⟨p, -, he⟩ | ⟨-, -, he⟩ := receiveOne_cases tr a acc id
  · rwa [he]
  · rw [he]
    exact h.handleTcp id p (h.count acc.1 _ hacc)
  · rw [he]
    exact h.remove acc.1 id hacc

lemma received (h : Served tr a I) (ids : List ClientID) (hs : I s) :
    I (ids.foldl (Server.receiveOne tr a) (s, [])).1 :=
  Dict.foldl_inv (I := fun acc : Server × List ClientID => I acc.1)
    (fun _ id hacc => h.receiveOne id hacc) ids hs

/-- **The rule of a pass.** -/
theorem tcpReady (h : Served tr a I) (hdrop : ∀ t id, I t → I (t.dropSocket id)) (hs : I s) :
    I (s.tcpReady tr a) :=
  Dict.foldl_inv hdrop _ (h.received s.tcpClients.keys hs)

end Served

/-! ### What happens while the ready sockets are served -/

/-- No socket is filed or dropped and no TCP client is added. -/
structure NoNewTcp (s t : Server) : Prop where
  selector : t.selector = s.selector
  tcpClients : t.tcpClients = s.tcpClients
  running : t.running = s.running
  tcp : ∀ id info, t.clientMap.lookup id = some info → info.protocol = .TCP →
    ∃ old, s.clientMap.lookup id = some old ∧ old.protocol = .TCP ∧
      info.clientIP = old.clientIP ∧ info.clientPORT = old.clientPORT

lemma NoNewTcp.refl (s : Server) : NoNewTcp s s :=
  ⟨rfl, rfl, rfl, fun _ info h hp => ⟨info, h, hp, rfl, rfl⟩⟩

lemma NoNewTcp.trans (h : NoNewTcp s t) (h' : NoNewTcp t u) : NoNewTcp s u where
  selector := h'.selector.trans h.selector
  tcpClients := h'.tcpClients.trans h.tcpClients
  running := h'.running.trans h.running
  tcp := by
    intro id info hi hp
    obtain ⟨mid, hm, hpm, hip, hport⟩ := h'.tcp id info hi hp
    obtain ⟨old, ho, hpo, hip', hport'⟩ := h.tcp id mid hm hpm
    exact ⟨old, ho, hpo, hip.trans hip', hport.trans hport'⟩

lemma NoNewTcp.isTcp (h : NoNewTcp s t) (ht : t.IsTcp id) : s.IsTcp id := by
  obtain ⟨info, hi, hp⟩ := ht
  obtain ⟨old, ho, hpo, -⟩ := h.tcp id info hi hp
  exact ⟨old, ho, hpo⟩

lemma Narrows.noNewTcp (h : Narrows s t) : NoNewTcp s t where
  selector := h.selector
  tcpClients := h.tcpClients
  running := h.running
  tcp := by
    intro id info hi hp
    obtain ⟨old, ho, hpo, hip, hport⟩ := h.entries id info hi
    exact ⟨old, ho, hpo ▸ hp, hip, hport⟩

lemma addClient_udp_noNewTcp (ip : IpAddress) (port : PortNumber) (s : Server) :
    NoNewTcp s (s.addClient .UDP ip port).1 := by
  by_cases hrun : s.running = true
  · obtain ⟨-, he⟩ | ⟨-, -, he⟩ := addClient_cases .UDP ip port hrun
    · rw [he]; exact .refl s
    · rw [he]
      refine ⟨rfl, rfl, rfl, fun id info hi hp => ?_⟩
      dsimp only at hi
      by_cases hid : id = toInt32 s.lastID
      · by_cases hmem : toInt32 s.lastID ∈ s.clientMap
        · rw [Dict.lookup_emplace_mem hmem] at hi
          exact ⟨info, hi, hp, rfl, rfl⟩
        · -- the new entry is a UDP client
          rw [hid, Dict.lookup_emplace hmem] at hi
          cases hi
          cases hp
      · rw [Dict.lookup_emplace_ne hid] at hi
        exact ⟨info, hi, hp, rfl, rfl⟩
  · have : (s.addClient .UDP ip port).1 = s := by simp [addClient, hrun]
    rw [this]; exact .refl s

lemma call_noNewTcp (tr : Transport) (s : Server) (c : Call) : NoNewTcp s (s.call tr c) := by
  cases c with
  | addClient ip port => exact addClient_udp_noNewTcp ip port s
  | removeClient id => exact (removeClient_narrows tr id s).noNewTcp
  | removeClientAt ip port => exact (removeClientAt_narrows tr ip port s).noNewTcp
  | send id packet => exact (send_frame tr id packet s).narrows.noNewTcp
  | broadcast packet ignore => exact (broadcast_frame tr packet ignore s).narrows.noNewTcp

lemma received_noNewTcp (s : Server) (n : ℕ) : NoNewTcp s { s with totalReceived := n } :=
  ⟨rfl, rfl, rfl, fun _ info hi hp => ⟨info, hi, hp, rfl, rfl⟩⟩

lemma served_noNewTcp (tr : Transport) (a : Arrivals) (s : Server) :
    Served tr a (NoNewTcp s) where
  count t n h := h.trans (received_noNewTcp t n)
  reply t id h := h.trans (heartbeatReply_narrows id t).noNewTcp
  call t _ c _ h := h.trans (call_noNewTcp tr t c)
  remove t id h := h.trans (removeClient_narrows tr id t).noNewTcp

lemma receiveOne_noNewTcp (tr : Transport) (a : Arrivals) (acc : Server × List ClientID)
    (id : ClientID) : NoNewTcp acc.1 (receiveOne tr a acc id).1 :=
  (served_noNewTcp tr a acc.1).receiveOne id (.refl acc.1)

lemma dropSockets_tcpClients (ids : List ClientID) (s : Server) (id : ClientID) :
    id ∈ (ids.foldl dropSocket s).tcpClients ↔ id ∉ ids ∧ id ∈ s.tcpClients := by
  induction ids generalizing s with
  | nil => simp
  | cons i ids ih =>
    rw [List.foldl_cons, ih]
    simp only [dropSocket, AList.mem_erase, List.mem_cons, not_or]
    tauto

lemma dropSockets_frame (ids : List ClientID) (s : Server) :
    (ids.foldl dropSocket s).clientMap = s.clientMap ∧
    (ids.foldl dropSocket s).selector = s.selector ∧
    (ids.foldl dropSocket s).running = s.running ∧
    (ids.foldl dropSocket s).lastID = s.lastID ∧
    (ids.foldl dropSocket s).serverTime = s.serverTime ∧
    (ids.foldl dropSocket s).log = s.log := by
  induction ids generalizing s with
  | nil => exact ⟨rfl, rfl, rfl, rfl, rfl, rfl⟩
  | cons i ids ih =>
    obtain ⟨h1, h2, h3, h4, h5, h6⟩ := ih (s.dropSocket i)
    exact ⟨h1, h2, h3, h4, h5, h6⟩

lemma tcpReady_eq (tr : Transport) (a : Arrivals) (s : Server) :
    s.tcpReady tr a = (s.tcpClients.keys.foldl (receiveOne tr a) (s, [])).2.foldl dropSocket
      (s.tcpClients.keys.foldl (receiveOne tr a) (s, [])).1 := rfl

/-- `accept`: the socket of a known endpoint is filed under `NullID`, that of a new one under the
id of a new client. -/
lemma accept_cases (n : ℕ) (ip : IpAddress) (port : PortNumber) (hrun : s.running = true) :
    (s.findClient ip port ≠ none ∧ s.accept n ip port =
      { s with
        selector := .socket n :: s.selector
        tcpClients := Dict.emplace Network.NullID n s.tcpClients }) ∨
    (s.findClient ip port = none ∧ ∃ lastID log, s.accept n ip port =
      { s with
        selector := .socket n :: s.selector
        clientMap := Dict.emplace (toInt32 s.lastID) (.new .TCP ip port s.serverTime) s.clientMap
        tcpClients := Dict.emplace (toInt32 s.lastID) n s.tcpClients
        lastID := lastID
        log := log }) := by
  set s₁ : Server := { s with selector := .socket n :: s.selector } with hs₁
  have hdef : s.accept n ip port = { (s₁.addClient .TCP ip port).1 with
      tcpClients := Dict.emplace (s₁.addClient .TCP ip port).2 n
        (s₁.addClient .TCP ip port).1.tcpClients } := rfl
  obtain ⟨⟨i, hi⟩, he⟩ | ⟨hnone, hcid, he⟩ := addClient_cases (s := s₁) .TCP ip port hrun
  · left
    refine ⟨?_, by rw [hdef, he]⟩
    intro hnone
    rw [show s₁.findClient ip port = s.findClient ip port from rfl, hnone] at hi
    cases hi
  · right
    exact ⟨hnone, _, _, by rw [hdef, hcid, he]⟩

/-! ### A TCP client has its socket -/

/-- Every registered TCP client has an entry in `m_tcpClients`. -/
def Socketed (s : Server) : Prop := ∀ id, s.IsTcp id → id ∈ s.tcpClients

lemma Socketed.noNewTcp (h : Socketed s) (hn : NoNewTcp s t) : Socketed t := by
  intro id ht
  rw [hn.tcpClients]
  exact h id (hn.isTcp ht)

lemma Socketed.accept (h : Socketed s) (n : ℕ) (ip : IpAddress) (port : PortNumber)
    (hrun : s.running = true) : Socketed (s.accept n ip port) := by
  rintro id ⟨info, hi, hp⟩
  obtain ⟨-, he⟩ | ⟨-, _, _, he⟩ := accept_cases n ip port hrun
  · rw [he] at hi ⊢
    exact Dict.mem_emplace.mpr (.inr (h id ⟨info, hi, hp⟩))
  · rw [he] at hi ⊢
    refine Dict.mem_emplace.mpr ?_
    by_cases hid : id = toInt32 s.lastID
    · exact .inl hid
    · rw [Dict.lookup_emplace_ne hid] at hi
      exact .inr (h id ⟨info, hi, hp⟩)

lemma Socketed.tcpReady (h : Socketed s) (tr : Transport) (a : Arrivals)
    (hrun : s.running = true) : Socketed (s.tcpReady tr a) := by
  have key : ∀ ids : List ClientID, NoNewTcp s (ids.foldl (receiveOne tr a) (s, [])).1 ∧
      ∀ id ∈ (ids.foldl (receiveOne tr a) (s, [])).2,
        ¬ (ids.foldl (receiveOne tr a) (s, [])).1.IsTcp id := by
    intro ids
    refine Dict.foldl_inv (I := fun acc : Server × List ClientID =>
      NoNewTcp s acc.1 ∧ ∀ id ∈ acc.2, ¬ acc.1.IsTcp id) ?_ ids ⟨.refl s, by simp⟩
    rintro acc id ⟨hn, hrem⟩
    have hn' := receiveOne_noNewTcp tr a acc id
    refine ⟨hn.trans hn', ?_⟩
    obtain he | ⟨p, -, he⟩ | ⟨-, hmem, he⟩ := receiveOne_cases tr a acc id
    · rw [he]; exact hrem
    · intro i hi hc
      rw [he] at hi
      exact hrem i hi (hn'.isTcp hc)
    · intro i hi hc
      rw [he] at hi
      rcases List.mem_append.mp hi with hi | hi
      · exact hrem i hi (hn'.isTcp hc)
      · -- the client was erased from the registry just now
        have hi : i = id := by simpa using hi
        subst hi
        rw [he, removeClient_running (hn.running.trans hrun) hmem] at hc
        obtain ⟨info, hl, -⟩ := hc
        simp at hl
  obtain ⟨hn, hrem⟩ := key s.tcpClients.keys
  rw [tcpReady_eq]
  set acc := s.tcpClients.keys.foldl (receiveOne tr a) (s, []) with hacc
  intro id ht
  have hc : acc.1.IsTcp id := by
    obtain ⟨info, hi, hp⟩ := ht
    rw [(dropSockets_frame acc.2 acc.1).1] at hi
    exact ⟨info, hi, hp⟩
  rw [dropSockets_tcpClients, hn.tcpClients]
  exact ⟨fun hm => hrem id hm hc, h id (hn.isTcp hc)⟩

lemma act_running (s : Server) (a : Transport × Act) : (act s a).running = s.running := by
  obtain ⟨tr, a⟩ := a
  cases a with
  | accept n ip port =>
    show ((s.accept n ip port).running) = s.running
    unfold accept addClient
    dsimp only
    split
    · rfl
    · split <;> rfl
  | tcpReady a =>
    have hn := (served_noNewTcp tr a s).received s.tcpClients.keys (.refl s)
    exact (dropSockets_frame _ _).2.2.1.trans hn.running
  | udpHeartbeat ip port => exact (udpHeartbeat_narrows ip port s).running
  | call c => exact (call_noNewTcp tr s c).running
  | update dt => exact (update_narrows tr dt s).running
  | advance dt => exact (advance_narrows dt s).running
  | sweep => exact (sweep_narrows tr s).running
  | disconnectAll => exact (broadcast_frame tr disconnectPacket Network.NullID s).running
  | clear => rfl

lemma Socketed.act (h : Socketed s) (hrun : s.running = true) (a : Transport × Act) :
    Socketed (act s a) := by
  obtain ⟨tr, a⟩ := a
  cases a with
  | accept n ip port => exact h.accept n ip port hrun
  | tcpReady a => exact h.tcpReady tr a hrun
  | udpHeartbeat ip port => exact h.noNewTcp (udpHeartbeat_narrows ip port s).noNewTcp
  | call c => exact h.noNewTcp (call_noNewTcp tr s c)
  | update dt => exact h.noNewTcp (update_narrows tr dt s).noNewTcp
  | advance dt => exact h.noNewTcp (advance_narrows dt s).noNewTcp
  | sweep => exact h.noNewTcp (sweep_narrows tr s).noNewTcp
  | disconnectAll =>
    rintro id ⟨info, hi, -⟩
    simp [Server.act, disconnectAll, clear] at hi
  | clear =>
    rintro id ⟨info, hi, -⟩
    simp [Server.act, clear] at hi

lemma socketed_run (as : List (Transport × Act)) :
    Socketed (run act start as) ∧ (run act start as).running = true :=
  run_inv_all (I := fun s => Socketed s ∧ s.running = true)
    (fun s a h => ⟨h.1.act h.2 a, (act_running s a).trans h.2⟩) as
    ⟨by rintro id ⟨info, hi, -⟩; simp [start] at hi, rfl⟩

/-- **A registered TCP client has its socket**, in every interleaving of the threads; so the
overload of `send` for an endpoint never dereferences the end iterator. -/
theorem tcp_clients_have_sockets (as : List (Transport × Act)) :
    (∀ id info, (run act start as).clientMap.lookup id = some info → info.protocol = .TCP →
      id ∈ (run act start as).tcpClients) ∧
    ∀ tr ip port packet, (run act start as).sendTo tr ip port packet ≠ none := by
  obtain ⟨hs, hrun⟩ := socketed_run as
  set s := run act start as with hdef
  refine ⟨fun id info hi hp => hs id ⟨info, hi, hp⟩, ?_⟩
  intro tr ip port packet
  unfold sendTo
  simp only [hrun, Bool.not_true, Bool.false_eq_true, if_false]
  cases hf : s.findClient ip port with
  | none => simp
  | some id =>
    obtain ⟨info, hi, -⟩ := findClient_some hf
    have hno : ¬ (info.protocol = .TCP ∧ id ∉ s.tcpClients) :=
      fun ⟨hp, hm⟩ => hm (hs id ⟨info, hi, hp⟩)
    simp [hi, hno]

end Server

end Sfrpg
