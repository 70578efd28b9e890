import Sfrpg.Sockets

/-!
Sockets that outlive their client, and what avoids them.

A socket is dropped from `m_tcpClients` when its connection is found closed and when everybody
is disconnected. A client also leaves the registry when `update` times it out and when a
handler removes it, and then its socket stays; an accepted connection whose endpoint is known
is filed under `NullID`. And whatever drops a socket, the selector keeps it. The runs without
these steps are the runs in which the three collections agree.
-/

namespace Sfrpg

open Lib Lib.Word Lib.Run

namespace Server

variable {s t u : Server} {tr : Transport} {id : ClientID} {info : ClientInfo}

/-! ### Every socket is a registered client's -/

/-- Every key of `m_tcpClients` is a client registered with protocol TCP, and not `NullID`. -/
def Filed (s : Server) : Prop :=
  ∀ id ∈ s.tcpClients.keys, s.IsTcp id ∧ id ≠ Network.NullID

instance (s : Server) : Decidable (Filed s) := inferInstanceAs (Decidable (∀ id ∈ _, _))

/-- The call removes no TCP client. -/
def Spares (s : Server) : Call → Prop
  | .removeClient id => ¬ s.IsTcp id
  | .removeClientAt ip port =>
    ∀ e ∈ s.clientMap.entries, e.2.clientIP = ip → e.2.clientPORT = port → e.2.protocol ≠ .TCP
  | _ => True

instance (s : Server) (c : Call) : Decidable (s.Spares c) := by
  cases c <;> unfold Spares <;> infer_instance

/-- No TCP client has run out of time. -/
def TcpAlive (s : Server) : Prop :=
  ∀ e ∈ s.clientMap.entries, e.2.protocol = .TCP → ¬ s.Expired e.2

instance (s : Server) : Decidable (TcpAlive s) := inferInstanceAs (Decidable (∀ e ∈ _, _))

/-- The section leaves no socket without its client: nobody accepted is known already, no
handler removes a TCP client, and none is timed out. -/
def KeepsFiled (s : Server) : Transport × Act → Prop
  | (_, .accept _ ip port) => s.findClient ip port = none ∧
      toInt32 s.lastID ∉ s.clientMap ∧ toInt32 s.lastID ≠ Network.NullID
  | (_, .tcpReady a) => ∀ id ∈ s.tcpClients.keys, ∀ c ∈ a.calls id, s.Spares c
  | (_, .call c) => s.Spares c
  | (_, .update dt) => (s.advance dt).TcpAlive
  | (_, .sweep) => s.TcpAlive
  | _ => True

instance (s : Server) (a : Transport × Act) : Decidable (s.KeepsFiled a) := by
  obtain ⟨tr, a⟩ := a
  cases a <;> unfold KeepsFiled <;> infer_instance

/-- The TCP clients stay registered. -/
def KeepsTcp (s t : Server) : Prop := ∀ id, s.IsTcp id → t.IsTcp id

lemma KeepsTcp.filed (h : KeepsTcp s t) (hs : Filed s) (htcp : t.tcpClients = s.tcpClients) :
    Filed t := by
  intro id hid
  rw [htcp] at hid
  exact ⟨h id (hs id hid).1, (hs id hid).2⟩

lemma keepsTcp_of_clientMap (h : t.clientMap = s.clientMap) : KeepsTcp s t := by
  rintro id ⟨info, hi, hp⟩
  exact ⟨info, by rw [h]; exact hi, hp⟩

lemma keepsTcp_erase (hno : ¬ s.IsTcp id) (h : t.clientMap = s.clientMap.erase id) :
    KeepsTcp s t := by
  rintro i ⟨info, hi, hp⟩
  have hne : i ≠ id := by
    rintro rfl
    exact hno ⟨info, hi, hp⟩
  exact ⟨info, by rw [h, AList.lookup_erase_ne hne]; exact hi, hp⟩

lemma addClient_keepsTcp (protocol : NetworkProtocol) (ip : IpAddress) (port : PortNumber)
    (s : Server) : KeepsTcp s (s.addClient protocol ip port).1 := by
  by_cases hrun : s.running = true
  · obtain ⟨-, he⟩ | ⟨-, -, he⟩ := addClient_cases protocol ip port hrun
    · rw [he]; exact keepsTcp_of_clientMap rfl
    · rw [he]
      rintro i ⟨info, hi, hp⟩
      refine ⟨info, ?_, hp⟩
      show (Dict.emplace _ _ s.clientMap).lookup i = some info
      by_cases hmem : toInt32 s.lastID ∈ s.clientMap
      · rw [Dict.lookup_emplace_mem hmem]; exact hi
      · have hne : i ≠ toInt32 s.lastID := fun he => hmem (he ▸ Dict.mem_of_lookup hi)
        rw [Dict.lookup_emplace_ne hne]; exact hi
  · have : (s.addClient protocol ip port).1 = s := by simp [addClient, hrun]
    rw [this]; exact keepsTcp_of_clientMap rfl

lemma call_keepsTcp (tr : Transport) (s : Server) (c : Call) (h : s.Spares c) :
    KeepsTcp s (s.call tr c) := by
  cases c with
  | addClient ip port => exact addClient_keepsTcp .UDP ip port s
  | removeClient id =>
    obtain he | he := removeClient_cases tr id s
    · exact keepsTcp_of_clientMap (by rw [call, he])
    · exact keepsTcp_erase h (by rw [call, he])
  | removeClientAt ip port =>
    obtain he | ⟨i, hf, he⟩ := removeClientAt_cases tr ip port s
    · exact keepsTcp_of_clientMap (by rw [call, he])
    · suffices hno : ¬ s.IsTcp i from keepsTcp_erase hno (by rw [call, he])
      obtain ⟨info, hi, hip, hport⟩ := findClient_some hf
      rintro ⟨info', hi', hp⟩
      rw [hi] at hi'
      cases hi'
      exact h ⟨i, info⟩ (Dict.mem_entries.mpr hi) hip hport hp
  | send i packet => exact keepsTcp_of_clientMap (send_frame tr i packet s).clientMap
  | broadcast packet ignore =>
    exact keepsTcp_of_clientMap (broadcast_frame tr packet ignore s).clientMap

lemma NoNewTcp.spares (h : NoNewTcp s t) {c : Call} (hc : s.Spares c) : t.Spares c := by
  cases c with
  | removeClient id => exact fun ht => hc (h.isTcp ht)
  | removeClientAt ip port =>
    intro e he hip hport hp
    obtain ⟨old, ho, hpo, hip', hport'⟩ := h.tcp e.1 e.2 (Dict.mem_entries.mp he) hp
    exact hc ⟨e.1, old⟩ (Dict.mem_entries.mpr ho) (hip'.symm.trans hip) (hport'.symm.trans hport)
      hpo
  | addClient ip port => trivial
  | send id packet => trivial
  | broadcast packet ignore => trivial

lemma heartbeatReply_keepsTcp (id : ClientID) (s : Server) :
    KeepsTcp s (s.heartbeatReply id) := by
  obtain he | ⟨old, -, -, he⟩ := heartbeatReply_cases id s
  · rw [he]; exact keepsTcp_of_clientMap rfl
  · rw [he]
    rintro i ⟨info, hi, hp⟩
    by_cases hid : i = id
    · subst hid
      exact ⟨markReply s.serverTime info, by simp [hi], hp⟩
    · exact ⟨info, by simp [Dict.lookup_modify_ne hid, hi], hp⟩

lemma handleTcp_keepsTcp (tr : Transport) (cs : List Call) (id : ClientID) (p : Packet)
    (h : ∀ c ∈ cs, s.Spares c) : KeepsTcp s (s.handleTcp tr cs id p) := by
  refine (handleTcp_inv (I := fun t => NoNewTcp s t ∧ KeepsTcp s t) ?_ ?_ p
    ⟨.refl s, keepsTcp_of_clientMap rfl⟩).2
  · rintro ⟨hn, -⟩
    exact ⟨hn.trans (heartbeatReply_narrows id s).noNewTcp, heartbeatReply_keepsTcp id s⟩
  · rintro t c hc ⟨hn, hk⟩
    refine ⟨hn.trans (call_noNewTcp tr t c), fun i hi => ?_⟩
    exact call_keepsTcp tr t c (hn.spares (h c hc)) i (hk i hi)

lemma advance_keepsTcp (dt : Time) (s : Server) : KeepsTcp s (s.advance dt) := by
  rintro id ⟨info, hi, hp⟩
  by_cases hw : s.Wraps dt
  · exact ⟨rebase info, by rw [lookup_advance, hi]; simp [hw], hp⟩
  · exact ⟨info, by rw [lookup_advance, hi]; simp [hw], hp⟩

lemma sweep_keepsTcp (tr : Transport) (h : s.TcpAlive) : KeepsTcp s (s.sweep tr) := by
  rintro id ⟨info, hi, hp⟩
  have hx : ¬ s.Expired info := h ⟨id, info⟩ (Dict.mem_entries.mpr hi) hp
  by_cases hd : s.HeartbeatDue info
  · exact ⟨markSent s.serverTime info, by rw [lookup_sweep, hi]; simp [swept, hx, hd], hp⟩
  · exact ⟨info, by rw [lookup_sweep, hi]; simp [swept, hx, hd], hp⟩

lemma Filed.accept (h : Filed s) (n : ℕ) (ip : IpAddress) (port : PortNumber)
    (hrun : s.running = true) (hnone : s.findClient ip port = none)
    (hfresh : toInt32 s.lastID ∉ s.clientMap) (hnull : toInt32 s.lastID ≠ Network.NullID) :
    Filed (s.accept n ip port) := by
  obtain ⟨hsome, -⟩ | ⟨-, _, _, he⟩ := accept_cases n ip port hrun
  · exact absurd hnone hsome
  · rw [he]
    intro i hi
    rcases Dict.mem_emplace.mp (AList.mem_keys.mpr hi) with hid | hi
    · rw [hid]
      exact ⟨⟨_, Dict.lookup_emplace hfresh _, rfl⟩, hnull⟩
    · obtain ⟨⟨info, hl, hp⟩, hn⟩ := h i (AList.mem_keys.mp hi)
      refine ⟨⟨info, ?_, hp⟩, hn⟩
      have hne : i ≠ toInt32 s.lastID := fun he => hfresh (he ▸ Dict.mem_of_lookup hl)
      exact (Dict.lookup_emplace_ne hne _ _).trans hl

lemma Filed.tcpReady (h : Filed s) (tr : Transport) (a : Arrivals)
    (hcalls : ∀ id ∈ s.tcpClients.keys, ∀ c ∈ a.calls id, s.Spares c) :
    Filed (s.tcpReady tr a) := by
  have key : ∀ ids : List ClientID, (∀ id ∈ ids, ∀ c ∈ a.calls id, s.Spares c) →
      ∀ acc : Server × List ClientID, NoNewTcp s acc.1 →
      (∀ i, s.IsTcp i → i ∈ acc.2 ∨ acc.1.IsTcp i) →
      NoNewTcp s (ids.foldl (receiveOne tr a) acc).1 ∧
      ∀ i, s.IsTcp i → i ∈ (ids.foldl (receiveOne tr a) acc).2 ∨
        (ids.foldl (receiveOne tr a) acc).1.IsTcp i := by
    intro ids
    induction ids with
    | nil => exact fun _ acc hn hk => ⟨hn, hk⟩
    | cons id ids ih =>
      intro hids acc hn hk
      rw [List.foldl_cons]
      refine ih (fun i hi => hids i (by simp [hi])) _ (hn.trans (receiveOne_noNewTcp tr a acc id))
        ?_
      intro i hi
      obtain he | ⟨p, -, he⟩ | ⟨-, -, he⟩ := receiveOne_cases tr a acc id
      · rw [he]; exact hk i hi
      · rw [he]
        rcases hk i hi with hr | ht
        · exact .inl hr
        · right
          refine handleTcp_keepsTcp tr (a.calls id) id p (fun c hc => ?_) i ht
          exact (hn.trans (received_noNewTcp acc.1 _)).spares (hids id (by simp) c hc)
      · rw [he]
        rcases hk i hi with hr | ht
        · exact .inl (List.mem_append_left _ hr)
        · by_cases hid : i = id
          · exact .inl (by simp [hid])
          · right
            obtain ⟨info, hl, hp⟩ := ht
            obtain hr | hr := removeClient_cases tr id acc.1
            · exact ⟨info, by rw [hr]; exact hl, hp⟩
            · exact ⟨info, by rw [hr]; simp [AList.lookup_erase_ne hid, hl], hp⟩
  obtain ⟨hn, hk⟩ := key s.tcpClients.keys hcalls (s, []) (.refl s) fun i hi => .inr hi
  rw [tcpReady_eq]
  set acc := s.tcpClients.keys.foldl (receiveOne tr a) (s, []) with hacc
  intro i hi
  rw [← AList.mem_keys, dropSockets_tcpClients, hn.tcpClients] at hi
  obtain ⟨hnot, hmem⟩ := hi
  obtain ⟨htcp, hnull⟩ := h i (AList.mem_keys.mp hmem)
  refine ⟨?_, hnull⟩
  rcases hk i htcp with hr | ⟨info, hl, hp⟩
  · exact absurd hr hnot
  · exact ⟨info, by rw [(dropSockets_frame acc.2 acc.1).1]; exact hl, hp⟩

lemma Filed.act (h : Filed s) (hrun : s.running = true) (a : Transport × Act)
    (ha : s.KeepsFiled a) : Filed (act s a) := by
  obtain ⟨tr, a⟩ := a
  cases a with
  | accept n ip port => exact h.accept n ip port hrun ha.1 ha.2.1 ha.2.2
  | tcpReady a => exact h.tcpReady tr a ha
  | udpHeartbeat ip port =>
    obtain he | ⟨id, he⟩ := udpHeartbeat_cases ip port s
    · rw [Server.act, he]; exact h
    · rw [Server.act, he]
      exact (heartbeatReply_keepsTcp id s).filed h (heartbeatReply_narrows id s).tcpClients
  | call c => exact (call_keepsTcp tr s c ha).filed h (call_noNewTcp tr s c).tcpClients
  | update dt =>
    rw [Server.act, update]
    simp only [hrun, Bool.not_true, Bool.false_eq_true, if_false]
    have h1 := (advance_keepsTcp dt s).filed h (advance_narrows dt s).tcpClients
    exact (sweep_keepsTcp tr ha).filed h1 (sweep_narrows tr _).tcpClients
  | advance dt => exact (advance_keepsTcp dt s).filed h (advance_narrows dt s).tcpClients
  | sweep => exact (sweep_keepsTcp tr ha).filed h (sweep_narrows tr s).tcpClients
  | disconnectAll =>
    intro id hid
    simp [Server.act, disconnectAll, clear] at hid
  | clear =>
    intro id hid
    simp [Server.act, clear] at hid

/-- **No orphaned socket**, in every run whose sections keep the sockets filed: no accepted
endpoint is known already, no handler removes a TCP client, and `update` times none out. -/
theorem sockets_filed (as : List (Transport × Act)) (h : Along act KeepsFiled start as) :
    Filed (run act start as) := by
  have hi := run_inv (I := fun s => Filed s ∧ s.running = true) (P := KeepsFiled)
    (fun s a hs ha => ⟨hs.1.act hs.2 a ha, (act_running s a).trans hs.2⟩)
    ⟨by intro id hid; simp [start] at hid, rfl⟩ h
  exact hi.1

/-- A client connects, is alive one second later, and closes its connection. -/
theorem sockets_filed_leave :
    Filed (run act start [(fun _ => true, .accept 7 1 10),
      (fun _ => true, .update (.milliseconds 1000)),
      (fun _ => true, .tcpReady ⟨fun _ => some .disconnected, fun _ => []⟩)]) :=
  sockets_filed _ (by decide)

/-- A TCP client that falls silent for ten seconds is dropped and its socket is not. -/
theorem timeout_orphans :
    ¬ Filed (run act start [(fun _ => true, .accept 7 1 10),
      (fun _ => true, .update (.milliseconds 10000))]) := by
  decide

/-! ### Every socket of the selector is somebody's -/

/-- Every socket in the selector is the listener or a value of `m_tcpClients`. -/
def Watched (s : Server) : Prop :=
  ∀ h ∈ s.selector, h = .listener ∨ ∃ e ∈ s.tcpClients.entries, h = .socket e.2

instance (s : Server) : Decidable (Watched s) := inferInstanceAs (Decidable (∀ h ∈ _, _))

def Call.registers : Call → Bool
  | .addClient _ _ => true
  | _ => false

/-- The section drops no socket: an accepted one finds its key free, no client's connection is
found closed, and everybody is disconnected only where nobody is connected over TCP. -/
def KeepsWatched (s : Server) : Transport × Act → Prop
  | (_, .accept _ ip port) =>
    if s.findClient ip port = none then toInt32 s.lastID ∉ s.tcpClients
    else Network.NullID ∉ s.tcpClients
  | (_, .tcpReady a) => ∀ id ∈ s.tcpClients.keys, a.recv id = some .disconnected →
      id ∉ s.clientMap ∧ ∀ i ∈ s.tcpClients.keys, ∀ c ∈ a.calls i, c.registers = false
  | (_, .disconnectAll) => s.tcpClients.keys = []
  | (_, .clear) => s.tcpClients.keys = []
  | _ => True

instance (s : Server) (a : Transport × Act) : Decidable (s.KeepsWatched a) := by
  obtain ⟨tr, a⟩ := a
  cases a <;> unfold KeepsWatched <;> infer_instance

lemma Watched.congr (h : Watched s) (hsel : t.selector = s.selector)
    (htcp : t.tcpClients = s.tcpClients) : Watched t := by
  intro k hk
  rw [hsel] at hk
  rw [htcp]
  exact h k hk

lemma Watched.accept (h : Watched s) (n : ℕ) (ip : IpAddress) (port : PortNumber)
    (hrun : s.running = true)
    (hkey : if s.findClient ip port = none then toInt32 s.lastID ∉ s.tcpClients
      else Network.NullID ∉ s.tcpClients) : Watched (s.accept n ip port) := by
  obtain ⟨cid, hfree, hsel, htcp⟩ : ∃ cid, cid ∉ s.tcpClients ∧
      (s.accept n ip port).selector = .socket n :: s.selector ∧
      (s.accept n ip port).tcpClients = Dict.emplace cid n s.tcpClients := by
    obtain ⟨hsome, he⟩ | ⟨hnone, _, _, he⟩ := accept_cases n ip port hrun
    · rw [if_neg hsome] at hkey
      exact ⟨_, hkey, by rw [he], by rw [he]⟩
    · rw [if_pos hnone] at hkey
      exact ⟨_, hkey, by rw [he], by rw [he]⟩
  intro k hk
  rw [hsel] at hk
  rw [htcp]
  rcases List.mem_cons.mp hk with rfl | hk
  · exact .inr ⟨⟨_, n⟩, Dict.mem_entries.mpr (Dict.lookup_emplace hfree n), rfl⟩
  · rcases h k hk with hl | ⟨⟨i, m⟩, he, rfl⟩
    · exact .inl hl
    · have hl := Dict.mem_entries.mp he
      have hne : i ≠ cid := fun he => hfree (he ▸ Dict.mem_of_lookup hl)
      exact .inr ⟨⟨i, m⟩, Dict.mem_entries.mpr (by rw [Dict.lookup_emplace_ne hne]; exact hl), rfl⟩

lemma call_narrows (tr : Transport) {c : Call} (hc : c.registers = false) (s : Server) :
    Narrows s (s.call tr c) := by
  cases c with
  | addClient ip port => simp [Call.registers] at hc
  | removeClient id => exact removeClient_narrows tr id s
  | removeClientAt ip port => exact removeClientAt_narrows tr ip port s
  | send id packet => exact (send_frame tr id packet s).narrows
  | broadcast packet ignore => exact (broadcast_frame tr packet ignore s).narrows

lemma handleTcp_narrows (tr : Transport) (cs : List Call) (id : ClientID) (p : Packet)
    (h : ∀ c ∈ cs, c.registers = false) (s : Server) :
    Narrows s (s.handleTcp tr cs id p) :=
  handleTcp_inv (fun _ => heartbeatReply_narrows id s)
    (fun t _ hc ht => ht.trans (call_narrows tr (h _ hc) t)) p (.refl s)

lemma Narrows.mem (h : Narrows s t) (hm : id ∈ t.clientMap) : id ∈ s.clientMap := by
  obtain ⟨info, hi⟩ := Dict.exists_lookup hm
  obtain ⟨old, ho, -⟩ := h.entries id info hi
  exact Dict.mem_of_lookup ho

lemma Watched.tcpReady (h : Watched s) (tr : Transport) (a : Arrivals)
    (ha : ∀ id ∈ s.tcpClients.keys, a.recv id = some .disconnected →
      id ∉ s.clientMap ∧ ∀ i ∈ s.tcpClients.keys, ∀ c ∈ a.calls i, c.registers = false) :
    Watched (s.tcpReady tr a) := by
  have key : ∀ ids : List ClientID, (∀ id ∈ ids, id ∈ s.tcpClients.keys) →
      ∀ acc : Server × List ClientID, NoNewTcp s acc.1 → acc.2 = [] →
      (∀ id ∈ s.tcpClients.keys, a.recv id = some .disconnected → id ∉ acc.1.clientMap) →
      NoNewTcp s (ids.foldl (receiveOne tr a) acc).1 ∧
        (ids.foldl (receiveOne tr a) acc).2 = [] := by
    intro ids
    induction ids with
    | nil => exact fun _ acc hn hr _ => ⟨hn, hr⟩
    | cons id ids ih =>
      intro hids acc hn hr hclosed
      rw [List.foldl_cons]
      have hn' := hn.trans (receiveOne_noNewTcp tr a acc id)
      have hids' : ∀ i ∈ ids, i ∈ s.tcpClients.keys := fun i hi => hids i (by simp [hi])
      obtain he | ⟨p, -, he⟩ | ⟨hd, hmem, -⟩ := receiveOne_cases tr a acc id
      · rw [he] at hn' ⊢
        exact ih hids' acc hn' hr hclosed
      · refine ih hids' _ hn' (by rw [he]; exact hr) ?_
        intro i hi hdi hm
        -- some connection is closed, so the handlers of this pass register nobody
        rw [he] at hm
        have hcs := (ha i hi hdi).2 id (hids id (by simp))
        have hm' := (handleTcp_narrows tr (a.calls id) id p hcs _).mem hm
        exact hclosed i hi hdi hm'
      · exact absurd hmem (hclosed id (hids id (by simp)) hd)
  obtain ⟨hn, hr⟩ := key s.tcpClients.keys (fun _ hi => hi) (s, []) (.refl s) rfl
    fun id hid hd => (ha id hid hd).1
  rw [tcpReady_eq, hr]
  exact h.congr hn.selector hn.tcpClients

lemma Watched.act (h : Watched s) (hrun : s.running = true) (a : Transport × Act)
    (ha : s.KeepsWatched a) : Watched (act s a) := by
  obtain ⟨tr, a⟩ := a
  have hempty : s.tcpClients.keys = [] → ∀ t : Server, t.selector = s.selector →
      t.tcpClients = ∅ → Watched t := by
    intro hk t hsel htcp
    have hs : s.tcpClients = ∅ := by
      apply AList.ext
      simpa [AList.keys, List.keys] using hk
    exact h.congr hsel (htcp.trans hs.symm)
  cases a with
  | accept n ip port => exact h.accept n ip port hrun ha
  | tcpReady a => exact h.tcpReady tr a ha
  | udpHeartbeat ip port =>
    have hn := udpHeartbeat_narrows ip port s
    exact h.congr hn.selector hn.tcpClients
  | call c =>
    have hn := call_noNewTcp tr s c
    exact h.congr hn.selector hn.tcpClients
  | update dt =>
    have hn := update_narrows tr dt s
    exact h.congr hn.selector hn.tcpClients
  | advance dt =>
    have hn := advance_narrows dt s
    exact h.congr hn.selector hn.tcpClients
  | sweep =>
    have hn := sweep_narrows tr s
    exact h.congr hn.selector hn.tcpClients
  | disconnectAll =>
    exact hempty ha _ (broadcast_frame tr disconnectPacket Network.NullID s).selector rfl
  | clear => exact hempty ha _ rfl rfl

/-- **No closed socket in the selector**, in every run whose sections drop no socket. -/
theorem selector_watched (as : List (Transport × Act)) (h : Along act KeepsWatched start as) :
    Watched (run act start as) := by
  have hi := run_inv (I := fun s => Watched s ∧ s.running = true) (P := KeepsWatched)
    (fun s a hs ha => ⟨hs.1.act hs.2 a ha, (act_running s a).trans hs.2⟩)
    ⟨by decide, rfl⟩ h
  exact hi.1

/-- Two connections are accepted and one of them is timed out. -/
theorem selector_watched_timeout :
    Watched (run act start [(fun _ => true, .accept 7 1 10), (fun _ => true, .accept 8 2 20),
      (fun _ => true, .update (.milliseconds 10000))]) :=
  selector_watched _ (by decide)

/-- A connection that closes leaves its socket in the selector. -/
theorem leave_unwatched :
    ¬ Watched (run act start [(fun _ => true, .accept 7 1 10),
      (fun _ => true, .tcpReady ⟨fun _ => some .disconnected, fun _ => []⟩)]) := by
  decide

end Server

end Sfrpg
