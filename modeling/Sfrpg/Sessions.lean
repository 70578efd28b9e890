import Sfrpg.Bindings

/-!
Sessions: what a `Connect` packet begins, and what a `Disconnect` packet ends.

`clientLeave` was written as the timeout handler: `Server::update` erases the client after it has
called the handler. On a `Disconnect` packet nobody does, so the client stays registered and its
endpoint cannot connect again until the client times out.

A `Connect` packet registers the client first and then takes four steps that can fail, each of
which is left without undoing the ones before it.
-/

namespace Sfrpg

open Lib Lib.Word Lib.Run Ecs

namespace Server

variable {s : Server} {ip : IpAddress} {port : PortNumber}

lemma addClient_new (hrun : s.running = true) (hnone : s.findClient ip port = none)
    (protocol : NetworkProtocol) : (s.addClient protocol ip port).2 = toInt32 s.lastID ∧
      (s.addClient protocol ip port).1.lastID = (s.lastID + 1) % 4294967296 ∧
      (s.addClient protocol ip port).1.log = if toInt32 s.lastID ∈ s.clientMap then s.log
        else .joined (toInt32 s.lastID) ip port :: s.log := by
  obtain ⟨⟨i, hi⟩, -⟩ | ⟨-, hcid, he⟩ := addClient_cases protocol ip port hrun
  · rw [hnone] at hi
    cases hi
  · exact ⟨hcid, by rw [he], by rw [he]⟩

lemma addClient_fresh (hrun : s.running = true) (hnone : s.findClient ip port = none)
    (hfresh : toInt32 s.lastID ∉ s.clientMap) {t : Server}
    (ht : (s.addClient .UDP ip port).1 = t) :
    t.clientMap = s.clientMap.insert (toInt32 s.lastID) (.new .UDP ip port s.serverTime) ∧
    t.findClient ip port = some (toInt32 s.lastID) ∧
    t.log = .joined (toInt32 s.lastID) ip port :: s.log ∧
    ∀ tr p, t.send tr (toInt32 s.lastID) p = t.deliver tr (toInt32 s.lastID) p := by
  obtain ⟨⟨i, hi⟩, -⟩ | ⟨-, -, he⟩ := addClient_cases .UDP ip port hrun
  · rw [hnone] at hi
    cases hi
  rw [he, Dict.emplace, if_neg hfresh, if_neg hfresh] at ht
  have hmap : t.clientMap =
      s.clientMap.insert (toInt32 s.lastID) (.new .UDP ip port s.serverTime) := by rw [← ht]
  have hlookup : t.clientMap.lookup (toInt32 s.lastID) = some (.new .UDP ip port s.serverTime) := by
    rw [hmap]
    exact AList.lookup_insert s.clientMap
  refine ⟨hmap, ?_, by rw [← ht], fun tr p => ?_⟩
  · refine Dict.findKey_unique hlookup (ClientInfo_at_iff.mpr ⟨rfl, rfl⟩) fun j b hb hp => ?_
    by_contra hj
    rw [hmap, AList.lookup_insert_ne hj] at hb
    exact findClient_none.mp hnone j b hb (ClientInfo_at_iff.mp hp)
  · have hrunning : t.running = true := by rw [← ht]; exact hrun
    unfold send
    rw [hrunning, hlookup]
    rfl

lemma send_log (tr : Transport) (id : ClientID) (p : Packet) (s : Server) :
    (s.send tr id p).1.log = s.log ∨ (s.send tr id p).1.log = .sent id p (tr id) :: s.log := by
  obtain h | h := send_cases tr id p s
  · exact .inl (by rw [h])
  · exact .inr (by rw [h]; rfl)

end Server

namespace World

variable {F : Type} [Field F] [LinearOrder F] {w w' : World F} {ip : IpAddress} {port : PortNumber}

/-! ### Leaving -/

/-- No trace of the session of the client `c`: its endpoint has no client, the client has no
entity, and the endpoint can connect again and get a player. -/
structure SessionOver (ip : IpAddress) (port : PortNumber) (c : ClientID) (w : World F) :
    Prop where
  unregistered : w.server.getClientID ip port = Network.NullID
  unbound : ∀ e, ¬ Bound e c w.ecs
  again : ∃ (env : Env F) (data : List UInt8) (w' : World F),
    w.handlePacket env ip port PacketType.Connect.id data = .ok w' ∧
      ∃ e ∈ w'.ecs.entities, e ∉ w.ecs.entities

lemma clientLeave_total (hw : Consistent w.ecs) (c : ClientID) :
    ∃ w', w.clientLeave c = .ok w' := by
  obtain ⟨e, he⟩ := hw.getEntityId_ok c
  obtain ⟨r, hr, -⟩ := hw.removeEntity e
  exact ⟨_, clientLeave_eq he hr⟩

lemma disconnect_server (hw : Consistent w.ecs) (env : Env F) (ip : IpAddress) (port : PortNumber)
    (data : List UInt8) :
    ∃ w', w.handlePacket env ip port PacketType.Disconnect.id data = .ok w' ∧
      w'.server = w.server := by
  rw [handlePacket, handleFrom]
  split
  · rw [if_pos rfl]
    obtain ⟨w', hw'⟩ := clientLeave_total hw (w.server.getClientID ip port)
    exact ⟨w', hw', (clientLeave_ok hw').1⟩
  · rw [if_pos (by decide)]
    exact ⟨w, rfl, rfl⟩

lemma connect_known {env : Env F} {data : List UInt8} {c : ClientID}
    (hreg : w.server.findClient ip port = some c)
    (h : w.handlePacket env ip port PacketType.Connect.id data = .ok w') : w'.ecs = w.ecs := by
  rw [handlePacket, handleFrom] at h
  split at h
  · rw [if_neg (by decide), if_neg (by decide), if_neg (by decide)] at h
    cases h
    rfl
  · rw [if_neg (not_not.mpr rfl), connect] at h
    have hadd : w.server.addClient .UDP ip port = (w.server, -1) := by
      unfold Server.addClient
      rw [hreg]
      split <;> rfl
    split at h
    · cases h
      rfl
    · rw [hadd] at h
      dsimp only at h
      rw [if_pos rfl] at h
      split at h
      · cases h
      · cases h
        rfl

/-- **A session is never over.** In every reachable world, after the `Disconnect` packet of a
registered client has been handled, the client is registered still, and no `Connect` packet from its
endpoint brings a player. -/
theorem session_lingers [FloorRing F] (S : Setting F) (acts : List (Env F × Act F)) (w : World F)
    (hr : runE (act S) start acts = .ok w) (ip : IpAddress) (port : PortNumber) (c : ClientID)
    (hreg : w.server.findClient ip port = some c) (env : Env F) (data : List UInt8) :
    ∃ w', w.handlePacket env ip port PacketType.Disconnect.id data = .ok w' ∧
      w'.server.findClient ip port = some c ∧ ¬ SessionOver ip port c w' := by
  obtain ⟨w', hw', hserver⟩ := disconnect_server (keeps_run hr).consistent env ip port data
  have hreg' : w'.server.findClient ip port = some c := by rw [hserver, hreg]
  refine ⟨w', hw', hreg', fun hover => ?_⟩
  obtain ⟨env', data', w'', hconnect, e, he, hnew⟩ := hover.again
  rw [connect_known hreg' hconnect] at he
  exact hnew he

/-- A client and its player. -/
def onePlayer : World ℚ := reached (act (Setting.empty ℚ)) start
  [(plainEnv, .udpReceive 1 10 greeting)]

/-- The only client disconnects. -/
theorem session_lingers_one : ∃ w', onePlayer.handlePacket plainEnv 1 10 PacketType.Disconnect.id []
    = .ok w' ∧ w'.server.findClient 1 10 = some 0 ∧ ¬ SessionOver 1 10 0 w' :=
  session_lingers (Setting.empty ℚ) _ onePlayer (runE_reached (by decide +kernel)) 1 10 0
    (by decide +kernel) plainEnv []

/-- It has disconnected, and is registered under its old id. -/
theorem disconnected_registered : ∃ w', onePlayer.handlePacket plainEnv 1 10
    PacketType.Disconnect.id [] = .ok w' ∧ w'.server.getClientID 1 10 = 0 ∧
      ¬ SessionOver 1 10 0 w' := by
  have hrun : runE (act (Setting.empty ℚ)) start [(plainEnv, .udpReceive 1 10 greeting)]
      = .ok onePlayer := runE_reached (by decide +kernel)
  obtain ⟨w', hw', hserver⟩ :=
    disconnect_server (keeps_run hrun).consistent plainEnv 1 10 []
  have hid : w'.server.getClientID 1 10 = 0 := by
    rw [hserver]
    decide +kernel
  refine ⟨w', hw', hid, fun hover => ?_⟩
  have hnull := hover.unregistered
  rw [hid] at hnull
  exact absurd hnull (by decide)

/-! ### Connecting -/

/-- The entity `eid` has come for the client `cid`, with the components a mask asks for. -/
structure Enlists (mask : Bitmask) (cid : ClientID) (eid : EntityId) (u u' : Ecs F) : Prop where
  keys : u'.entities.keys = eid :: u.entities.keys
  other : ∀ x, x ≠ eid → u'.entities.lookup x = u.entities.lookup x
  consistent : Consistent u'
  has : ∀ c, registered c = true → u'.hasComponent eid c = mask.getBit c.id
  bound : mask.getBit Component.Client.id = true → Bound eid cid u'

omit [Field F] [LinearOrder F] in
lemma isSome_get {T : Type} [CompType F T] {u : Ecs F} (hu : Consistent u) (e : EntityId) :
    (u.getComponent T e).isSome = u.hasComponent e (CompType.tag F T) := by
  rw [isSome_getComponent, hu.isSome_getBase]

omit [LinearOrder F] in
lemma enterPlayer_loads (hw : Consistent w.ecs) {env : Env F} {mask : Bitmask}
    (hl : Loadable (env.files "Player") mask w.ecs) (cid : ClientID) (name : String) :
    ∃ u, Enlists mask cid (nextId (-1) w.ecs) w.ecs u ∧ w.enterPlayer env cid name =
      placePlayer env cid (nextId (-1) w.ecs) name { w with ecs := u } := by
  obtain ⟨u, hu, hloads⟩ := addEntityFile_loads hw env.uninitialised "Player" hl
  set eid := nextId (-1) w.ecs
  have hvalid : eid ≠ -1 := hl.valid
  have hplace : ∀ v b, S_Network.registerClientID eid cid u = .ok (v, b) →
      w.enterPlayer env cid name = placePlayer env cid eid name { w with ecs := v } := by
    intro v b hv
    unfold enterPlayer
    simp only [hu, hv, bind, Except.bind, orCrash]
    exact if_neg hvalid
  rcases registerClientID_cases hloads.consistent eid cid with ⟨hnone, hr⟩ | ⟨-, hr⟩
  · refine ⟨u, ?_, hplace u false hr⟩
    refine ⟨hloads.keys, hloads.other, hloads.consistent, hloads.has, fun hbit => ?_⟩
    have hhas := isSome_get (T := C_Client) hloads.consistent eid
    rw [hnone, show CompType.tag F C_Client = .Client from rfl, hloads.has .Client (by decide),
      hbit] at hhas
    cases hhas
  · refine ⟨_, ?_, hplace _ true hr⟩
    have hframed : Framed (fun _ _ => True) u (u.setComponent eid (C_Client.mk cid)) := by
      rw [setComponent_eq]
      exact overwrite_framed _ u trivial
    exact {
      keys := hframed.keys.trans hloads.keys
      other := fun x hx => (lookup_setComponent_ne hx _ u).trans (hloads.other x hx)
      consistent := hframed.consistent hloads.consistent
      has := fun c hc => (hframed.hasComponent eid c).trans (hloads.has c hc)
      bound := fun hbit => by
        have hhas := isSome_get (T := C_Client) hloads.consistent eid
        rw [show CompType.tag F C_Client = .Client from rfl, hloads.has .Client (by decide),
          hbit] at hhas
        obtain ⟨client, hclient⟩ := Option.isSome_iff_exists.mp hhas
        rw [Bound, getComponent_setComponent, hclient]
        rfl }

omit [Field F] [LinearOrder F] in
lemma Enlists.isSome_get {T : Type} [CompType F T] {mask : Bitmask} {cid : ClientID}
    {eid : EntityId} {u u' : Ecs F} (h : Enlists mask cid eid u u')
    (hT : registered (CompType.tag F T) = true) :
    (u'.getComponent T eid).isSome = mask.getBit (CompType.tag F T).id :=
  (World.isSome_get h.consistent eid).trans (h.has _ hT)

omit [Field F] [LinearOrder F] in
lemma Enlists.asked {T : Type} [CompType F T] {mask : Bitmask} {cid : ClientID}
    {eid : EntityId} {u u' : Ecs F} (h : Enlists mask cid eid u u')
    (hT : registered (CompType.tag F T) = true) {x : T}
    (hx : u'.getComponent T eid = some x) : mask.getBit (CompType.tag F T).id = true := by
  rw [← h.isSome_get hT, hx]
  rfl

omit [LinearOrder F] in
lemma enterPlayer_cases (hw : Consistent w.ecs) {env : Env F} {cid : ClientID} {name : String}
    (h : w.enterPlayer env cid name = .ok w') :
    w'.server = w.server ∨
    ∃ mask u pos, Loadable (env.files "Player") mask w.ecs ∧
      Enlists mask cid (nextId (-1) w.ecs) w.ecs u ∧
      u.getComponent (C_Position F) (nextId (-1) w.ecs) = some pos ∧
      ∃ n : C_Name, u.getComponent C_Name (nextId (-1) w.ecs) = some n ∧
        w' = ⟨(w.server.send env.transport cid
            (connectPacket env (nextId (-1) w.ecs) (pos.setPosition ⟨64, 64⟩))).1,
          (u.setComponent (nextId (-1) w.ecs) (pos.setPosition ⟨64, 64⟩)).setComponent
            (nextId (-1) w.ecs) (n.setName name)⟩ := by
  by_cases hl : ∃ mask, Loadable (env.files "Player") mask w.ecs
  · obtain ⟨mask, hl⟩ := hl
    obtain ⟨u, hu, hplace⟩ := enterPlayer_loads hw hl cid name
    rw [hplace] at h
    rcases placePlayer_cases env cid (nextId (-1) w.ecs) name { w with ecs := u } with
      ⟨-, heq⟩ | ⟨pos, hpos, ⟨-, heq⟩ | ⟨n, hn, heq⟩⟩
    · rw [heq] at h
      cases h
      exact .inl rfl
    · rw [heq] at h
      cases h
    · rw [heq] at h
      cases h
      exact .inr ⟨mask, u, pos, hl, hu, hpos, n, hn, rfl⟩
  · left
    unfold enterPlayer at h
    rcases addEntityFile_fails hw env.uninitialised "Player" (not_exists.mp hl) with
      herr | ⟨v, hv, -⟩
    · rw [herr] at h
      cases h
    · rw [hv] at h
      cases h
      rfl

/-- The client registry and the entity store are as they were. -/
structure Unchanged (w w' : World F) : Prop where
  clients : w'.server.clientMap = w.server.clientMap
  lastID : w'.server.lastID = w.server.lastID
  entities : w'.ecs.entities = w.ecs.entities
  idCounter : w'.ecs.idCounter = w.ecs.idCounter

/-- The client `cid` has been registered, with one entity for it, and was told so. -/
structure Joined (env : Env F) (ip : IpAddress) (port : PortNumber) (name : String)
    (cid : ClientID) (eid : EntityId) (w w' : World F) : Prop where
  fresh : cid ∉ w.server.clientMap
  clients : w'.server.clientMap =
    w.server.clientMap.insert cid (.new .UDP ip port w.server.serverTime)
  registered : w'.server.findClient ip port = some cid
  keys : w'.ecs.entities.keys = eid :: w.ecs.entities.keys
  other : ∀ x, x ≠ eid → w'.ecs.entities.lookup x = w.ecs.entities.lookup x
  bound : S_Network.getClientID eid w'.ecs = .ok cid
  named : w'.ecs.getComponent C_Name eid = some ⟨name⟩
  placed : ∃ pos : C_Position F, w'.ecs.getComponent (C_Position F) eid = some pos ∧
    pos.position = ⟨64, 64⟩ ∧
    w'.server.log = .sent cid (connectPacket env eid pos) true :: .joined cid ip port ::
      w.server.log

/-- The whole effect of a `Connect` packet. -/
def Connected (env : Env F) (ip : IpAddress) (port : PortNumber) (data : List UInt8)
    (w w' : World F) : Prop :=
  ∃ name rest cid eid, Packet.getString data = some (name, rest) ∧
    Joined env ip port name cid eid w w'

/-- No step of connecting can fail: the id the counter stands at is free, the player's file asks for
what the handler uses and can be loaded, and the transport takes the reply. -/
structure Admitted (env : Env F) (mask : Bitmask) (w : World F) : Prop where
  valid : toInt32 w.server.lastID ≠ Network.NullID
  fresh : toInt32 w.server.lastID ∉ w.server.clientMap
  loadable : Loadable (env.files "Player") mask w.ecs
  client : mask.getBit Component.Client.id = true
  position : mask.getBit Component.Position.id = true
  name : mask.getBit Component.Name.id = true
  sent : env.transport (toInt32 w.server.lastID) = true

lemma handlePacket_connect (hrun : w.server.running = true)
    (hnone : w.server.findClient ip port = none) (env : Env F) (data : List UInt8) :
    w.handlePacket env ip port PacketType.Connect.id data = w.connect env ip port data := by
  have hid : w.server.getClientID ip port = Network.NullID := by
    rw [Server.getClientID, hrun, hnone]
    rfl
  rw [handlePacket, hid, handleFrom, if_neg (by decide), if_neg (not_not.mpr rfl)]

omit [LinearOrder F] in
lemma connect_cases (hw : Consistent w.ecs) (hrun : w.server.running = true)
    (hnone : w.server.findClient ip port = none) {env : Env F} {data : List UInt8} {name : String}
    {rest : List UInt8} (hname : Packet.getString data = some (name, rest))
    (h : w.connect env ip port data = .ok w') :
    w'.server.lastID = (w.server.lastID + 1) % 4294967296 ∧
    ((toInt32 w.server.lastID = -1 ∧ w'.ecs = w.ecs) ∨
      (toInt32 w.server.lastID ≠ -1 ∧ ({ w with
        server := (w.server.addClient .UDP ip port).1 } : World F).enterPlayer env
          (toInt32 w.server.lastID) name = .ok w')) := by
  obtain ⟨hid, hlast, -⟩ := Server.addClient_new hrun hnone .UDP
  rw [connect, hname] at h
  dsimp only at h
  rw [hid] at h
  split at h
  · rename_i hnull
    cases hsend : (w.server.addClient .UDP ip port).1.sendTo env.transport ip port
      Server.disconnectPacket with
    | none =>
      rw [hsend] at h
      cases h
    | some r =>
      rw [hsend] at h
      cases h
      exact ⟨(Server.sendTo_frame hsend).lastID.trans hlast, .inl ⟨hnull, rfl⟩⟩
  · rename_i hvalid
    have henters := (enterPlayer_post (w := { w with
      server := (w.server.addClient .UDP ip port).1 }) hw env _ name).ok h
    exact ⟨henters.frame.lastID.trans hlast, .inr ⟨hvalid, h⟩⟩

omit [Field F] [LinearOrder F] in
lemma place_alters (eid : EntityId) (pos : C_Position F) (n : C_Name) (u : Ecs F) :
    Alters eid u ((u.setComponent eid pos).setComponent eid n) :=
  (modify_alters eid _ u).trans (modify_alters eid _ _)

omit [Field F] [LinearOrder F] in
lemma place_client {u : Ecs F} (hu : Consistent u) (eid : EntityId) (pos : C_Position F)
    (n : C_Name) {e : EntityId} {c : ClientID} (hc : c ≠ Network.NullID) :
    S_Network.getClientID e ((u.setComponent eid pos).setComponent eid n) = .ok c ↔
      Bound e c u := by
  have hplaced := consistent_setComponent (consistent_setComponent hu eid pos) eid n
  rw [hplaced.getClientID_iff hc,
    setComponent_bound_tag (show Component.Client ≠ .Name by decide),
    setComponent_bound_tag (show Component.Client ≠ .Position by decide)]

omit [LinearOrder F] in
lemma Admitted.joins {env : Env F} {mask : Bitmask} (ha : Admitted env mask w)
    (hw : Consistent w.ecs) (hrun : w.server.running = true)
    (hnone : w.server.findClient ip port = none) {data : List UInt8} {name : String}
    {rest : List UInt8} (hname : Packet.getString data = some (name, rest)) :
    ∃ w', w.connect env ip port data = .ok w' ∧
      Joined env ip port name (toInt32 w.server.lastID) (nextId (-1) w.ecs) w w' := by
  set cid := toInt32 w.server.lastID with hcid
  set eid := nextId (-1) w.ecs with heid
  set s := (w.server.addClient .UDP ip port).1 with hs
  obtain ⟨hmap, hfound, hlog, hsend⟩ := Server.addClient_fresh hrun hnone ha.fresh hs.symm
  obtain ⟨u, hu, hplace⟩ := enterPlayer_loads (w := { w with server := s }) hw ha.loadable cid name
  have hsome : (u.getComponent (C_Position F) eid).isSome = true :=
    (hu.isSome_get (T := C_Position F) rfl).trans ha.position
  have hsome' : (u.getComponent C_Name eid).isSome = true :=
    (hu.isSome_get (T := C_Name) rfl).trans ha.name
  obtain ⟨pos, hpos⟩ := Option.isSome_iff_exists.mp hsome
  obtain ⟨n, hn⟩ := Option.isSome_iff_exists.mp hsome'
  have hconnect : w.connect env ip port data =
      ({ w with server := s } : World F).enterPlayer env cid name := by
    have hid : (w.server.addClient .UDP ip port).2 = cid :=
      (Server.addClient_new hrun hnone .UDP).1
    rw [connect, hname]
    dsimp only
    rw [hid]
    exact if_neg ha.valid
  rw [hconnect, hplace]
  rcases placePlayer_cases env cid eid name { w with server := s, ecs := u } with
    ⟨hnone', -⟩ | ⟨pos', hpos', ⟨hnone', -⟩ | ⟨n', hn', heq⟩⟩
  · exact absurd (hnone'.symm.trans hpos) (by simp)
  · exact absurd (hnone'.symm.trans hn) (by simp)
  rw [heq]
  have hframe := Server.send_frame env.transport cid
    (connectPacket env eid (pos'.setPosition ⟨64, 64⟩)) s
  have halters := place_alters eid (pos'.setPosition ⟨64, 64⟩) (n'.setName name) u
  refine ⟨_, rfl, ?_⟩
  exact {
    fresh := ha.fresh
    clients := hframe.clientMap.trans hmap
    registered := by rw [Server.findClient, hframe.clientMap]; exact hfound
    keys := halters.keys.trans hu.keys
    other := fun x hx => (halters.other x hx).trans (hu.other x hx)
    bound := (place_client hu.consistent eid _ _ ha.valid).mpr (hu.bound ha.client)
    named := by
      rw [getComponent_setComponent,
        getComponent_setComponent_tag (show Component.Name ≠ .Position by decide), hn']
      rfl
    placed := by
      refine ⟨pos'.setPosition ⟨64, 64⟩, ?_, rfl, ?_⟩
      · rw [getComponent_setComponent_tag (show Component.Position ≠ .Name by decide),
          getComponent_setComponent, hpos']
        rfl
      · rw [hsend]
        show LogEntry.sent cid _ (env.transport cid) :: s.log = _
        rw [ha.sent, hlog] }

omit [LinearOrder F] in
lemma Joined.logged {env : Env F} {name : String} {cid c : ClientID} {eid : EntityId}
    (hj : Joined env ip port name cid eid w w') {p : Packet} {b : Bool} {log : List LogEntry}
    (hlog : log = if c ∈ w.server.clientMap then w.server.log
      else .joined c ip port :: w.server.log)
    (h : w'.server.log = log ∨ w'.server.log = .sent c p b :: log) :
    c ∉ w.server.clientMap ∧ c = cid ∧ b = true := by
  obtain ⟨pos, -, -, hjlog⟩ := hj.placed
  rcases h with h | h
  · -- one entry at the most
    have hlength := congrArg List.length (h.symm.trans hjlog)
    rw [hlog] at hlength
    split at hlength
    · rw [List.length_cons, List.length_cons] at hlength
      omega
    · simp at hlength
  · have heq := h.symm.trans hjlog
    rw [List.cons.injEq, LogEntry.sent.injEq] at heq
    obtain ⟨⟨hc, -, hb⟩, hrest⟩ := heq
    refine ⟨fun hmem => ?_, hc, hb⟩
    rw [hlog, if_pos hmem] at hrest
    exact absurd hrest.symm (List.cons_ne_self _ _)

omit [LinearOrder F] in
lemma Joined.admitted {env : Env F} {name name' : String} {cid : ClientID} {eid : EntityId}
    (hj : Joined env ip port name' cid eid w w') (hw : Consistent w.ecs)
    (hrun : w.server.running = true) (hnone : w.server.findClient ip port = none)
    {data rest : List UInt8} (hname : Packet.getString data = some (name, rest))
    (h : w.connect env ip port data = .ok w') : ∃ mask, Admitted env mask w := by
  obtain ⟨-, ⟨-, hecs⟩ | ⟨hvalid, henter⟩⟩ := connect_cases hw hrun hnone hname h
  · have hkeys := hj.keys
    rw [hecs] at hkeys
    exact absurd hkeys.symm (List.cons_ne_self eid _)
  obtain ⟨-, -, hlog⟩ := Server.addClient_new hrun hnone .UDP
  obtain hserver | ⟨mask, u, pos, hl, hu, hpos, n, hn, rfl⟩ :=
    enterPlayer_cases (w := { w with server := (w.server.addClient .UDP ip port).1 }) hw henter
  · have hno := hj.logged (p := .empty) (b := false) hlog (.inl (by rw [hserver]))
    exact absurd hno.2.2 (by decide)
  obtain ⟨hfresh, rfl, hsent⟩ := hj.logged hlog (Server.send_log _ _ _ _)
  -- the entity that came is the entity found
  have hkeys := ((place_alters _ _ _ u).keys.trans hu.keys).symm.trans hj.keys
  rw [List.cons.injEq] at hkeys
  obtain ⟨rfl, -⟩ := hkeys
  have hbound := (place_client hu.consistent _ _ _ hvalid).mp hj.bound
  refine ⟨mask, ?_⟩
  exact {
    valid := hvalid
    fresh := hfresh
    loadable := hl
    client := hu.asked (T := C_Client) rfl hbound
    position := hu.asked (T := C_Position F) rfl hpos
    name := hu.asked (T := C_Name) rfl hn
    sent := hsent }

/-- Nothing opens. -/
def noFiles : Env ℚ := { plainEnv with files := fun _ => none }

end World

end Sfrpg
