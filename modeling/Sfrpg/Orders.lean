import Sfrpg.Changes
import Sfrpg.Discreet
import Sfrpg.Inputs
import Sfrpg.Lib.Trace

/-!
Whom a player's entity obeys.

What an entity is told to do lies in the input `S_Network` keeps for it. The input is written when
an update packet of the client is handled, and read on every tick; when an entity goes it is
forgotten, and an entity that comes has none. So as long as the store is not purged (which drops the
entities and leaves the inputs), the input of an entity is what the packets of its own client have
made of it: each of them once, in the order they were taken, and no packet of anyone else.
-/

namespace Sfrpg

open Lib Lib.Word Lib.Run Ecs

/-! ### Inputs on a tick -/

/-- What a player who has said nothing does. -/
def PlayerInput.idle : PlayerInput := ⟨0, 0, false⟩

/-- What `S_Network` finds for an entity. -/
def Ecs.player {F : Type} (e : EntityId) (w : Ecs F) : PlayerInput := (w.input.lookup e).getD .idle

section Ticks

variable {F : Type} [Field F] [LinearOrder F] {w : Ecs F}

/-- Nobody's input has changed; whose was missing may have been entered. -/
def SamePlayers (w u : Ecs F) : Prop := ∀ e, u.player e = w.player e

omit [Field F] [LinearOrder F] in
lemma samePlayers_of_input {u : Ecs F} (h : u.input = w.input) : SamePlayers w u := by
  intro e
  rw [player, player, h]

omit [Field F] [LinearOrder F] in
lemma SamePlayers.trans {u v : Ecs F} (h : SamePlayers w u) (h' : SamePlayers u v) :
    SamePlayers w v := fun e => (h' e).trans (h e)

lemma dispatch_players {m : Message} (hm : m.type ≠ .Removed_Entity) (w : Ecs F) :
    Post (Sfrpg.dispatch m w) (SamePlayers w) fun _ => True :=
  (dispatch_spared m w).imp fun _ hu => samePlayers_of_input (hu.input hm)

omit [Field F] [LinearOrder F] in
lemma loop_players {κ : Type} {f : Ecs F → κ → Outcome (Ecs F)} {l : List κ}
    (hf : ∀ u, ∀ k ∈ l, Post (f u k) (SamePlayers u) fun _ => True) (w : Ecs F) :
    Post (l.foldlM f w) (SamePlayers w) fun _ => True :=
  Post.foldlM (fun u k hk hu => (hf u k hk).imp fun _ hv => hu.trans hv) fun _ => rfl

lemma network_players (w : Ecs F) :
    Post (S_Network.update w) (SamePlayers w) fun _ => True := by
  refine loop_players (fun u e _ => ?_) w
  unfold S_Network.updateOne
  cases hin : u.input.lookup e with
  | none =>
    intro x
    by_cases hx : x = e
    · subst hx
      simp only [player, AList.lookup_insert, Option.getD_some, hin, Option.getD_none]
      rfl
    · simp only [player, AList.lookup_insert_ne hx]
  | some input =>
    refine loop_players (fun v m hm => dispatch_players ?_ v) u
    rcases requests_type hm with h | h <;> rw [h] <;> decide

omit [Field F] [LinearOrder F] in
lemma addEvents_input (e : EntityId) (events : List EntityEvent) (w : Ecs F) :
    (events.foldl (fun v event => v.addEvent e event.id) w).input = w.input :=
  Dict.foldl_inv (f := fun v event => addEvent e event.id v)
    (I := fun v : Ecs F => v.input = w.input) (fun _ _ hv => hv) events rfl

lemma collision_players [FloorRing F] (S : Setting F) (w : Ecs F) :
    Post (S_Collision.update S w) (SamePlayers w) fun _ => True := by
  unfold S_Collision.update
  refine Post.bind (Q := SamePlayers w) (loop_players (fun u e _ => ?_) w) fun u hu => ?_
  · unfold S_Collision.updateOne
    refine Post.bind (Q := fun _ => True) .any fun pos _ => ?_
    refine Post.bind (Q := fun _ => True) .any fun col _ => samePlayers_of_input ?_
    exact addEvents_input e _ _
  · have hstrike : ∀ a v (t : Ecs F), Post (S_Collision.strike Sfrpg.dispatch a v t) (SamePlayers t)
        fun _ => True := by
      intro a v t
      unfold S_Collision.strike
      refine Post.bind (Q := fun _ => True) .any fun col _ => Post.ite (fun _ => ?_) fun _ _ => rfl
      exact dispatch_players (show EntityMessage.Being_Attacked ≠ .Removed_Entity by decide) t
    refine (loop_players (fun t p _ => ?_) u).imp fun v hv => hu.trans hv
    unfold S_Collision.collidePair
    refine Post.bind (Q := fun _ => True) .any fun _ _ => ?_
    refine Post.bind (Q := fun _ => True) .any fun _ _ => ?_
    exact (hstrike p.1 p.2 t).bind fun v hv => (hstrike p.2 p.1 v).imp fun _ hv' => hv.trans hv'

omit [LinearOrder F] in
lemma combat_players (w : Ecs F) : Post (S_Combat.update w) (SamePlayers w) fun _ => True := by
  refine loop_players (fun u e _ => ?_) w
  unfold S_Combat.updateOne
  cases u.getComponent (C_Attacker F) e with
  | none => exact fun _ => rfl
  | some a =>
    refine Post.bind (Q := fun _ => True) .any fun pos _ => ?_
    exact Post.bind (Q := fun _ => True) .any fun mov _ => samePlayers_of_input rfl

lemma timers_players [FloorRing F] (dT : F) (w : Ecs F) :
    Post (S_Timers.update dT w) (SamePlayers w) fun _ => True := by
  refine loop_players (fun u e _ => ?_) w
  have hidle : ∀ v : Ecs F, SamePlayers u v →
      Post (S_State.changeState Sfrpg.dispatch e .Idle true v) (SamePlayers u) fun _ => True :=
    fun v hv => (changeState_silent (discreet_dispatchN 4) e _ _ v).imp fun _ ht =>
      hv.trans (samePlayers_of_input ht.1)
  unfold S_Timers.updateOne
  refine Post.bind (Q := fun _ => True) .any fun s _ => Post.ite (fun _ => ?_) fun _ => ?_
  · refine Post.bind (Q := fun _ => True) .any fun h _ => Post.ite (fun _ _ => rfl) fun _ => ?_
    refine Post.ite (fun _ => ?_) fun _ => hidle _ fun _ => rfl
    refine (dispatch_players (show EntityMessage.Respawn ≠ .Removed_Entity by decide) _).bind
      fun v hv => ?_
    exact hidle v fun x => hv x
  · refine Post.ite (fun _ => ?_) fun _ _ => rfl
    refine Post.bind (Q := fun _ => True) .any fun a _ => Post.ite (fun _ _ => rfl) fun _ => ?_
    exact hidle _ fun _ => rfl

/-- **No tick changes what a player has said.** -/
lemma update_players [FloorRing F] (S : Setting F) (sys : System) (dT : F) (w : Ecs F) :
    Post (update S dT sys w) (SamePlayers w) fun _ => True := by
  cases sys with
  | Network => exact network_players w
  | Movement =>
    refine loop_players (fun u e _ => ?_) w
    refine Post.bind (Q := fun _ => True) .any fun mov _ => ?_
    exact Post.bind (Q := fun _ => True) .any fun pos _ => samePlayers_of_input rfl
  | Control => exact fun _ => rfl
  | State =>
    refine loop_players (fun u e _ => ?_) w
    refine Post.bind (Q := fun _ => True) .any fun s _ => Post.ite (fun _ _ => rfl) fun _ => ?_
    exact dispatch_players (show EntityMessage.Is_Moving ≠ .Removed_Entity by decide) u
  | Collision => exact collision_players S w
  | Combat => exact combat_players w
  | Timers => exact timers_players dT w

end Ticks

/-! ### Packets taken -/

/-- An update packet that has been taken from a client, with what a variable held that is not set.
-/
structure Order where
  client : ClientID
  unset : ℤ
  data : List UInt8
  deriving DecidableEq

/-- What becomes of an idle player on the packets of the client `c`, in their order. -/
def obeyed (c : ClientID) (log : List Order) : PlayerInput :=
  (log.filter fun o => o.client = c).foldl
    (fun player o => S_Network.newInput o.unset o.data player) .idle

@[simp] lemma obeyed_nil (c : ClientID) : obeyed c [] = .idle := rfl

lemma obeyed_of_ne {c : ClientID} {o : Order} (h : o.client ≠ c) (log : List Order) :
    obeyed c (log ++ [o]) = obeyed c log := by
  simp [obeyed, List.filter_append, h]

lemma obeyed_snoc {c : ClientID} {o : Order} (h : o.client = c) (log : List Order) :
    obeyed c (log ++ [o]) = S_Network.newInput o.unset o.data (obeyed c log) := by
  simp [obeyed, List.filter_append, h]

lemma obeyed_unheard {c : ClientID} {log : List Order} (h : ∀ o ∈ log, o.client ≠ c) :
    obeyed c log = .idle := by
  have hnone : (log.filter fun o => o.client = c) = [] := by
    rw [List.filter_eq_nil_iff]
    intro o ho
    simpa using h o ho
  rw [obeyed, hnone]
  rfl

namespace World

section Packets

variable {F : Type} [Field F] [LinearOrder F]

/-- The packet `handleFrom` takes to the player. -/
def handleOrders (env : Env F) (cid : ClientID) (l_id : ℤ) (data : List UInt8) : List Order :=
  if 0 ≤ cid ∧ l_id = PacketType.Player_Update.id then [⟨cid, env.unset, data⟩] else []

def arriveOrders (env : Env F) (ip : IpAddress) (port : PortNumber) (p : Packet) (w : World F) :
    List Order :=
  match Packet.getInt8 p.data with
  | none => []
  | some (type, rest) => handleOrders env (w.server.getClientID ip port) type rest

/-- One pass of the loop over the sockets, with what is taken in it. -/
def tcpReceiveTaken (env : Env F) (recv : ClientID → Option Server.Received)
    (acc : World F × List ClientID) (id : ClientID) :
    Traced Crash (World F × List ClientID) Order :=
  Trace.record (tcpReceive env recv acc id) <|
    match recv id with
    | some (.packet p) =>
      match acc.1.server.clientMap.lookup id with
      | some info => (acc.1.counted p).arriveOrders env info.clientIP info.clientPORT p
      | none => []
    | _ => []

def tcpReadyOrders (env : Env F) (recv : ClientID → Option Server.Received) (w : World F) :
    List Order :=
  match Trace.foldl (tcpReceiveTaken env recv) (w, []) w.server.tcpClients.keys with
  | .ok (_, taken) => taken
  | .error _ => []

/-- The update packets an act takes from clients. -/
def orders (w : World F) : Env F × Act F → List Order
  | (env, .tcpReady recv) => w.tcpReadyOrders env recv
  | (env, .udpReceive ip port p) => (w.counted p).arriveOrders env ip port p
  | (env, .handleFrom cid _ _ l_id data) => handleOrders env cid l_id data
  | _ => []

/-- The record of a run: what has been taken, the latest last. -/
def taking (log : List Order) (w : World F) (i : Env F × Act F) (_ : World F) : List Order :=
  log ++ orders w i

/-- A listener goes on with an answer it was given: the id of a client there has been. -/
def Genuine (w : World F) : Env F × Act F → Prop
  | (_, .handleFrom cid _ _ _ _) => cid < w.server.lastID
  | _ => True

/-! ### Whom an entity obeys -/

/-- The invariant: beyond what `Sessions` says, who is taken at his word is known, and an entity
that is bound to a client does what the client has said; nobody has spoken to one that has not come.
-/
structure Obedient (log : List Order) (w : World F) : Prop extends Sessions w where
  known : ∀ o ∈ log, o.client < w.server.lastID
  spare : ∀ e, e ∉ w.ecs.entities → w.ecs.player e = .idle
  driven : ∀ e (c : ℤ), 0 ≤ c → Bound e c w.ecs → w.ecs.player e = obeyed c log

/-- From `w` to `w'` the packets in `l` were taken. -/
structure Follows (l : List Order) (w w' : World F) : Prop where
  keeps : Keeps w w'
  obedient : (clientsAdded w'.server.log).length < 2147483648 → ∀ log, Obedient log w →
    Obedient (log ++ l) w'

variable {w w' w'' : World F} {l l' : List Order} {log : List Order}

omit [Field F] [LinearOrder F] in
lemma Follows.trans (h : Follows l w w') (h' : Follows l' w' w'') : Follows (l ++ l') w w'' where
  keeps := h.keeps.trans h'.keeps
  obedient hfew log hlog := by
    rw [← List.append_assoc]
    have hfew' := lt_of_le_of_lt h'.keeps.added.length_le hfew
    exact h'.obedient hfew _ (h.obedient hfew' log hlog)

omit [Field F] [LinearOrder F] in
lemma Keeps.lastID (h : Keeps w w') (hs : Sessions w) (hs' : Sessions w') :
    w.server.lastID ≤ w'.server.lastID := by
  rw [hs.registered.counter, hs'.registered.counter]
  exact h.added.length_le

omit [Field F] [LinearOrder F] in
lemma bound_mem {e : EntityId} {c : ClientID} {u : Ecs F} (h : Bound e c u) : e ∈ u.entities := by
  by_contra hno
  have hlook : u.entities.lookup e = none := AList.lookup_eq_none.mpr hno
  rw [Bound, getComponent, getBase, hlook] at h
  cases h

omit [Field F] [LinearOrder F] in
lemma follows_quiet (hk : Keeps w w')
    (hbound : ∀ e (c : ℤ), 0 ≤ c → Bound e c w'.ecs → Bound e c w.ecs)
    (hold : ∀ e, e ∈ w.ecs.entities → e ∈ w'.ecs.entities)
    (hplayer : ∀ e, e ∉ w'.ecs.entities ∨ (∃ c : ℤ, 0 ≤ c ∧ Bound e c w'.ecs) →
      w'.ecs.player e = w.ecs.player e) : Follows [] w w' where
  keeps := hk
  obedient hfew log hlog := by
    have hs' := hk.sessions hfew hlog.toSessions
    rw [List.append_nil]
    refine ⟨hs', fun o ho => ?_, fun e he => ?_, fun e c h0 hb => ?_⟩
    · have hlast := hk.lastID hlog.toSessions hs'
      exact lt_of_lt_of_le (hlog.known o ho) (by exact_mod_cast hlast)
    · rw [hplayer e (.inl he)]
      exact hlog.spare e fun hmem => he (hold e hmem)
    · rw [hplayer e (.inr ⟨c, h0, hb⟩)]
      exact hlog.driven e c h0 (hbound e c h0 hb)

omit [Field F] [LinearOrder F] in
lemma follows_server {s : Server} (hw : Consistent w.ecs) (hs : Server.Grows w.server s) :
    Follows [] w { w with server := s } :=
  follows_quiet (keeps_server hw hs) (fun _ _ _ hb => hb) (fun _ he => he) fun _ _ => rfl

lemma clientLeave_follows (hw : Consistent w.ecs) (c : ClientID) :
    Post (w.clientLeave c) (Follows [] w) fun _ => True := by
  have hk := clientLeave_post hw c
  cases h : w.clientLeave c with
  | error f => trivial
  | ok w' =>
    obtain ⟨-, e, -, heq | hs⟩ := clientLeave_ok h
    · refine follows_quiet (hk.ok h) (fun x c' _ hb => ?_) (fun x hx => ?_) fun x _ => ?_
      · rwa [heq] at hb
      · rwa [heq]
      · rw [heq]
    · have hkeys : ∀ x, x ∈ w'.ecs.entities ↔ x ∈ w.ecs.entities := fun x => by
        rw [AList.mem_keys, AList.mem_keys, hs.keys]
      refine follows_quiet (hk.ok h) (fun x c' _ hb => (hs.bound hb).2) (fun x => (hkeys x).mpr) ?_
      intro x hx
      have hne : x ≠ e := by
        rcases hx with hx | ⟨c', -, hb⟩
        · rintro rfl
          exact hx ((hkeys x).mpr hs.stored)
        · exact (hs.bound hb).1
      rw [player, player, (hs.untouched hne).input]

omit [Field F] [LinearOrder F] in
lemma updatePlayer_follows (hw : Consistent w.ecs) (u : ℤ) (data : List UInt8) {c : ClientID}
    (h0 : 0 ≤ c) (hc : Sessions w → c < w.server.lastID) :
    Post (orCrash (S_Network.updatePlayer u data c w.ecs))
      (fun ecs => Follows [⟨c, u, data⟩] w { w with ecs := ecs }) fun _ => True := by
  have hk := updatePlayer_keeps hw u data c
  obtain ⟨ecs, hecs, hent, -⟩ := (updatePlayer_post hw u data c).exists_ok
  rw [hecs] at hk ⊢
  refine ⟨hk, fun hfew log hlog => ?_⟩
  have hbound : ∀ {e} {c' : ℤ}, Bound e c' ecs → Bound e c' w.ecs := fun hb => by
    rwa [Bound, getComponent_congr (w := w.ecs) (by rw [hent])] at hb
  have hother : ∀ e, ¬ Bound e c w.ecs → ecs.player e = w.ecs.player e := fun e he => by
    rw [player, player, (updatePlayer_untouched hw hecs he).input]
  refine ⟨hk.sessions hfew hlog.toSessions, fun o ho => ?_, fun e he => ?_, fun e c' h0' hb => ?_⟩
  · rcases List.mem_append.mp ho with ho | ho
    · exact hlog.known o ho
    · rw [List.mem_singleton.mp ho]
      exact hc hlog.toSessions
  · have he' : e ∉ w.ecs.entities := by rwa [← hent]
    rw [hother e fun hb => he' (bound_mem hb)]
    exact hlog.spare e he'
  · have hb' := hbound hb
    by_cases hcc : c = c'
    · subst hcc
      have hid := getEntityId_bound hlog.toSessions h0 hb'
      have heq := S_Network.updatePlayer_eq u data hid (hlog.issued e c h0 hb').2
      rw [hecs] at heq
      cases heq
      have hsnoc := obeyed_snoc (o := ⟨c, u, data⟩) rfl log
      rw [← hlog.driven e c h0 hb'] at hsnoc
      rw [hsnoc, player, AList.lookup_insert]
      rfl
    · rw [hother e fun hbc => hcc (hbc.eq hb'), obeyed_of_ne (o := ⟨c, u, data⟩) hcc]
      exact hlog.driven e c' h0' hb'

/-! ### Entities come -/

/-- From `u` to `v` nobody was spoken to, no entity has gone, and nobody but `c` was given an
entity: one that has come. -/
structure Invites (c : ClientID) (u v : Ecs F) : Prop where
  input : v.input = u.input
  old : ∀ e, e ∈ u.entities → e ∈ v.entities
  bound : ∀ e (c' : ℤ), 0 ≤ c' → Bound e c' v → Bound e c' u ∨ (e ∉ u.entities ∧ c' = c)

omit [LinearOrder F] in
lemma addEntityFile_fresh {u : Ecs F} (hu : Consistent u) (un : Uninitialised) (name : String)
    (file : EntityFile) (c : ClientID) : Post (addEntityFile un name file u)
      (fun r => Invites c u r.1 ∧ (r.2 ≠ -1 → r.2 ∉ u.entities)) fun _ => True := by
  have hloaded : ∀ {mask : Bitmask} {e : EntityId} {v : Ecs F}, Loads mask e u v → Invites c u v :=
    fun hl => {
      input := hl.input
      old := fun e he => by
        rw [AList.mem_keys] at he ⊢
        rw [hl.keys]
        exact List.mem_cons_of_mem _ he
      bound := fun e c' h0 hb => .inl (hl.bound h0 hb) }
  by_cases h : ∃ mask, Loadable file mask u
  · obtain ⟨mask, hmask⟩ := h
    obtain ⟨v, hv, hl⟩ := addEntityFile_loads hu un name hmask
    rw [hv]
    exact ⟨hloaded hl, fun _ => hl.fresh⟩
  · obtain herr | ⟨v, hv, hcase⟩ := addEntityFile_fails hu un name (not_exists.mp h)
    · rw [herr]
      trivial
    · rw [hv]
      refine ⟨?_, fun hne => absurd rfl hne⟩
      rcases hcase with rfl | rfl | ⟨mask, hl⟩
      · exact ⟨rfl, fun _ he => he, fun _ _ _ hb => .inl hb⟩
      · have hfills := setType_fills (-1) name u
        refine ⟨hfills.input, fun e he => ?_, fun e c' _ hb => .inl ?_⟩
        · rw [AList.mem_keys] at he ⊢
          rwa [hfills.keys]
        · rwa [Bound, hfills.client] at hb
      · exact hloaded hl

omit [Field F] [LinearOrder F] in
lemma Invites.set {T : Type} [CompType F T] {c : ClientID} {u v : Ecs F} (h : Invites c u v)
    (hT : Component.Client ≠ CompType.tag F T) (e : EntityId) (x : T) :
    Invites c u (v.setComponent e x) where
  input := h.input
  old y hy := by
    rw [AList.mem_keys, setComponent, Dict.keys_modify, ← AList.mem_keys]
    exact h.old y hy
  bound y c' h0 hb := h.bound y c' h0 ((setComponent_bound_tag hT e x).mp hb)

omit [LinearOrder F] in
lemma enterPlayer_invites (hw : Consistent w.ecs) (env : Env F) (cid : ClientID) (name : String) :
    Post (w.enterPlayer env cid name) (fun w' => Invites cid w.ecs w'.ecs) fun _ => True := by
  have hplace : ∀ {v : World F} {eid : EntityId}, Invites cid w.ecs v.ecs →
      Post (v.placePlayer env cid eid name) (fun w' => Invites cid w.ecs w'.ecs) fun _ => True := by
    intro v eid hv
    rcases placePlayer_cases env cid eid name v with ⟨-, h⟩ | ⟨pos, -, ⟨-, h⟩ | ⟨n, -, h⟩⟩ <;>
      rw [h]
    · exact hv
    · trivial
    · exact (hv.set (show Component.Client ≠ .Position by decide) eid _).set
        (show Component.Client ≠ .Name by decide) eid _
  unfold enterPlayer
  cases hadd : addEntityFile env.uninitialised "Player" (env.files "Player") w.ecs with
  | error f => trivial
  | ok r =>
    obtain ⟨ecs, eid⟩ := r
    obtain ⟨hinvites, hfresh⟩ := (addEntityFile_fresh hw env.uninitialised "Player"
      (env.files "Player") cid).ok hadd
    have hc := ((addEntityFile_post hw env.uninitialised "Player" (env.files "Player")).ok hadd).1
    dsimp only at hinvites hfresh hc
    show Post (if eid = -1 then _ else _) _ _
    refine Post.ite (fun _ => hinvites) fun hvalid => ?_
    rcases registerClientID_cases hc eid cid with ⟨-, hr⟩ | ⟨-, hr⟩
    · rw [hr]
      exact hplace (v := { w with ecs := ecs }) hinvites
    · rw [hr]
      refine hplace (v := { w with ecs := ecs.setComponent eid (C_Client.mk cid) }) ?_
      refine ⟨hinvites.input, fun x hx => ?_, fun x c' h0 hb => ?_⟩
      · rw [AList.mem_keys, setComponent, Dict.keys_modify, ← AList.mem_keys]
        exact hinvites.old x hx
      · rcases setComponent_bound hb with ⟨rfl, rfl⟩ | hold
        · exact .inr ⟨hfresh hvalid, rfl⟩
        · exact hinvites.bound x c' h0 hold

omit [LinearOrder F] in
lemma connect_ok {env : Env F} {ip : IpAddress} {port : PortNumber} {data : List UInt8}
    (h : w.connect env ip port data = .ok w') : w'.ecs = w.ecs ∨
      ∃ name, (w.server.addClient .UDP ip port).2 ≠ -1 ∧
        ({ w with server := (w.server.addClient .UDP ip port).1 } : World F).enterPlayer env
          (w.server.addClient .UDP ip port).2 name = .ok w' := by
  unfold connect at h
  cases hname : Packet.getString data with
  | none =>
    rw [hname] at h
    cases h
    exact .inl rfl
  | some r =>
    obtain ⟨name, rest⟩ := r
    rw [hname] at h
    dsimp only at h
    split at h
    · left
      cases hsend : (w.server.addClient .UDP ip port).1.sendTo env.transport ip port
        Server.disconnectPacket with
      | none =>
        rw [hsend] at h
        cases h
      | some r =>
        rw [hsend] at h
        cases h
        rfl
    · next hid => exact .inr ⟨name, hid, h⟩

omit [LinearOrder F] in
lemma connect_follows (hw : Consistent w.ecs) (env : Env F) (ip : IpAddress) (port : PortNumber)
    (data : List UInt8) : Post (w.connect env ip port data) (Follows [] w) fun _ => True := by
  have hk := connect_post hw env ip port data
  cases h : w.connect env ip port data with
  | error f => trivial
  | ok w' =>
    rcases connect_ok h with heq | ⟨name, hid, henter⟩
    · refine follows_quiet (hk.ok h) (fun e c _ hb => ?_) (fun e he => ?_) fun e _ => ?_ <;>
        rw [heq] at *
      · exact hb
      · exact he
    · refine ⟨hk.ok h, fun hfew log hlog => ?_⟩
      have hs' := (hk.ok h).sessions hfew hlog.toSessions
      have hinvites := (enterPlayer_invites
        (w := { w with server := (w.server.addClient .UDP ip port).1 }) hw env _ name).ok henter
      have hplayer : ∀ e, w'.ecs.player e = w.ecs.player e := samePlayers_of_input hinvites.input
      have hlast := (hk.ok h).lastID hlog.toSessions hs'
      rw [List.append_nil]
      refine ⟨hs', fun o ho => ?_, fun e he => ?_, fun e c h0 hb => ?_⟩
      · exact lt_of_lt_of_le (hlog.known o ho) (by exact_mod_cast hlast)
      · rw [hplayer]
        exact hlog.spare e fun hmem => he (hinvites.old e hmem)
      rw [hplayer]
      rcases hinvites.bound e c h0 hb with hold | ⟨hnew, hc⟩
      · exact hlog.driven e c h0 hold
      -- the client is new, and has said nothing
      rw [hlog.spare e hnew, obeyed_unheard]
      intro o ho hoc
      have hlt : w.server.lastID < 2147483648 := by
        rw [← hs'.registered.counter] at hfew
        exact lt_of_le_of_lt hlast hfew
      obtain heq | ⟨-, hcid, -⟩ := hlog.registered.addClient_cases .UDP ip port hlt
      · rw [heq] at hid
        exact absurd rfl hid
      · exact absurd (hlog.known o ho) (by rw [hoc, hc, hcid]; exact lt_irrefl _)

/-! ### The sections -/

omit [Field F] [LinearOrder F] in
lemma Follows.refl (hw : Consistent w.ecs) : Follows [] w w :=
  follows_quiet (.refl hw) (fun _ _ _ hb => hb) (fun _ he => he) fun _ _ => rfl

lemma handleFrom_follows (hw : Consistent w.ecs) (env : Env F) {cid : ClientID}
    (hcid : Sessions w → cid < w.server.lastID) (ip : IpAddress) (port : PortNumber) (l_id : ℤ)
    (data : List UInt8) : Post (w.handleFrom env cid ip port l_id data)
      (Follows (handleOrders env cid l_id data) w) fun _ => True := by
  have hquiet : l_id ≠ PacketType.Player_Update.id → handleOrders env cid l_id data = [] :=
    fun hne => if_neg fun h => hne h.2
  unfold handleFrom
  refine Post.ite (fun h0 => ?_) fun h0 => ?_
  · refine Post.ite (fun hid => ?_) fun _ => Post.ite (fun hid => ?_) fun _ => ?_
    · rw [hquiet (by rw [hid]; decide)]
      exact clientLeave_follows hw cid
    · rw [hquiet (by rw [hid]; decide)]
      exact .refl hw
    · refine Post.ite (fun hid => ?_) fun hid => ?_
      · rw [handleOrders, if_pos ⟨h0, hid⟩]
        exact (updatePlayer_follows hw env.unset data h0 hcid).bind fun ecs h => h
      · rw [hquiet hid]
        exact .refl hw
  · have hnobody : handleOrders env cid l_id data = [] := if_neg fun h => h0 h.1
    rw [hnobody]
    exact Post.ite (fun _ => Follows.refl hw) fun _ => connect_follows hw env ip port data

omit [Field F] [LinearOrder F] in
lemma getClientID_lt (hs : Sessions w) (ip : IpAddress) (port : PortNumber) :
    w.server.getClientID ip port < w.server.lastID := by
  have hneg : (Network.NullID : ℤ) < w.server.lastID :=
    lt_of_lt_of_le (by decide) (Int.natCast_nonneg _)
  rw [Server.getClientID, hs.registered.running]
  cases hfind : w.server.findClient ip port with
  | none => exact hneg
  | some i =>
    obtain ⟨a, ha, -⟩ := Dict.findKey_some hfind
    exact (hs.registered.below i a ha).2

lemma arrive_follows (hw : Consistent w.ecs) (env : Env F) (ip : IpAddress) (port : PortNumber)
    (p : Packet) {heartbeat : Server → Server}
    (hbeat : Server.Narrows w.server (heartbeat w.server)) :
    Post (w.arrive env ip port p heartbeat) (Follows (w.arriveOrders env ip port p) w)
      fun _ => True := by
  unfold arrive arriveOrders
  cases Packet.getInt8 p.data with
  | none => exact .refl hw
  | some r =>
    obtain ⟨type, rest⟩ := r
    dsimp only
    have hquiet : type ≠ PacketType.Player_Update.id →
        handleOrders env (w.server.getClientID ip port) type rest = [] :=
      fun hne => if_neg fun h => hne h.2
    refine Post.ite (fun hout => ?_) fun _ => Post.ite (fun hid => ?_) fun _ => ?_
    · rw [hquiet]
      · exact .refl hw
      · rintro rfl
        exact absurd hout (by decide)
    · rw [hquiet (by rw [hid]; decide)]
      exact follows_server hw hbeat.grows
    · exact handleFrom_follows hw env (fun hs => getClientID_lt hs ip port) ip port type rest

omit [Field F] [LinearOrder F] in
lemma counted_follows (hw : Consistent w.ecs) (p : Packet) : Follows [] w (w.counted p) :=
  follows_server hw (Server.grows_of_registry rfl rfl rfl rfl)

lemma tcpReceiveTaken_follows {acc : World F × List ClientID} (hw : Consistent acc.1.ecs)
    (env : Env F) (recv : ClientID → Option Server.Received) (id : ClientID) :
    Post (tcpReceiveTaken env recv acc id) (fun r => Follows r.2 acc.1 r.1.1) fun _ => True := by
  rw [tcpReceiveTaken, Trace.post_record]
  unfold tcpReceive
  cases recv id with
  | none => exact .refl hw
  | some r =>
    cases acc.1.server.clientMap.lookup id with
    | none => cases r <;> exact .refl hw
    | some info =>
      cases r with
      | packet p =>
        refine (arrive_follows (w := acc.1.counted p) hw env info.clientIP info.clientPORT p
          (Server.heartbeatReply_narrows id _)).bind fun w' h => ?_
        exact (counted_follows hw p).trans h
      | disconnected =>
        exact follows_server hw (Server.removeClient_narrows env.transport id _).grows
      | error => exact .refl hw

lemma tcpReady_follows (hw : Consistent w.ecs) (env : Env F)
    (recv : ClientID → Option Server.Received) :
    Post (w.tcpReady env recv) (Follows (w.tcpReadyOrders env recv) w) fun _ => True := by
  have hloop := Trace.post_foldl (f := tcpReceiveTaken env recv)
    (I := fun r taken => Follows taken w r.1) (E := fun _ => True) (l := w.server.tcpClients.keys)
    (fun r taken id _ hr => (tcpReceiveTaken_follows hr.keeps.consistent env recv id).imp
      fun q hq => hr.trans hq) (s := (w, [])) (a := []) (.refl hw)
  have hplain := Trace.forget_foldl (f := tcpReceiveTaken env recv) (g := tcpReceive env recv)
    (fun r id => Trace.forget_record _ _) (w, []) w.server.tcpClients.keys
  unfold tcpReady tcpReadyOrders
  rw [← hplain]
  cases htaken : Trace.foldl (tcpReceiveTaken env recv) (w, []) w.server.tcpClients.keys with
  | error f => trivial
  | ok q =>
    rw [htaken] at hloop
    have hdrop := follows_server hloop.keeps.consistent
      (Server.dropSockets_grows q.1.2 q.1.1.server)
    have htrans := hloop.trans hdrop
    rw [List.append_nil] at htrans
    exact htrans

lemma sweep_follows (hw : Consistent w.ecs) (env : Env F) :
    Post (w.sweep env) (Follows [] w) fun _ => True := by
  refine Post.foldlM (fun u id _ hu => ?_) (.refl hw)
  unfold updateClient
  cases u.server.clientMap.lookup id with
  | none => exact hu
  | some info =>
    refine Post.bind (Q := Follows [] w) ?_ fun v hv => ?_
    · refine Post.ite (fun _ => ?_) fun _ => hu
      exact (clientLeave_follows hu.keeps.consistent id).imp fun v hv => hu.trans hv
    · exact hv.trans (follows_server hv.keeps.consistent
        (Server.updateClient_narrows env.transport v.server id).grows)

omit [LinearOrder F] in
lemma loadEntity_follows (hw : Consistent w.ecs) (env : Env F) (name : String)
    (keystream : StringStream) :
    Post (w.loadEntity env name keystream) (Follows [] w) fun _ => True := by
  have hk := loadEntity_post hw env name keystream
  cases h : w.loadEntity env name keystream with
  | error f => trivial
  | ok w' =>
    have hinvites : Invites Network.NullID w.ecs w'.ecs := by
      unfold loadEntity at h
      cases hadd : addEntityFile env.uninitialised name (env.files name) w.ecs with
      | error f =>
        rw [hadd] at h
        cases h
      | ok r =>
        have hr := ((addEntityFile_fresh hw env.uninitialised name (env.files name)
          Network.NullID).ok hadd).1
        rw [hadd] at h
        change (if r.2 < 0 then _ else _) = _ at h
        split at h
        · cases h
          exact hr
        · split at h
          · cases h
            exact hr
          · cases h
            exact hr.set (show Component.Client ≠ .Position by decide) _ _
    refine follows_quiet (hk.ok h) (fun e c h0 hb => ?_) hinvites.old fun e _ => ?_
    · rcases hinvites.bound e c h0 hb with hold | ⟨-, hc⟩
      · exact hold
      · exact absurd h0 (by rw [hc]; decide)
    · exact samePlayers_of_input hinvites.input e

omit [Field F] [LinearOrder F] in
lemma flush_follows (hw : Consistent w.ecs) (env : Env F) {P : EntityId → Component → Prop}
    (hP : ∀ e, ¬ P e .Client) {ecs : Ecs F} (h : Framed P w.ecs ecs) (hs : SamePlayers w.ecs ecs) :
    Follows [] w (flush env { w with ecs := ecs }) := by
  refine follows_quiet (flush_keeps hw env hP h) (fun e c _ hb => (h.bound hP).mp hb)
    (fun e he => ?_)
    fun e _ => hs e
  rw [AList.mem_keys] at he ⊢
  show e ∈ ecs.entities.keys
  rwa [h.keys]

end Packets

section Runs

variable {F : Type} [Field F] [LinearOrder F] [FloorRing F] {w w' : World F}

/-- **A section of any thread**: what it takes from a client reaches the client's entity. -/
lemma act_follows (S : Setting F) (hw : Consistent w.ecs) {i : Env F × Act F} (hg : Genuine w i)
    (hpurge : i.2 ≠ .purge) : Post (act S w i) (Follows (orders w i) w) fun _ => True := by
  obtain ⟨env, i⟩ := i
  cases i with
  | accept n ip port => exact follows_server hw (Server.accept_grows n ip port w.server)
  | tcpReady recv => exact tcpReady_follows hw env recv
  | udpReceive ip port p =>
    exact (arrive_follows (w := w.counted p) hw env ip port p
      (Server.udpHeartbeat_narrows ip port _)).imp fun _ h => (counted_follows hw p).trans h
  | handleFrom cid ip port l_id data =>
    exact handleFrom_follows hw env (fun _ => hg) ip port l_id data
  | advance dt => exact follows_server hw (Server.advance_narrows dt w.server).grows
  | sweep => exact sweep_follows hw env
  | broadcast p =>
    exact follows_server hw (Server.broadcast_frame env.transport p _ w.server).narrows.grows
  | update sys dT =>
    cases hu : Sfrpg.update S dT sys w.ecs with
    | error f =>
      rw [act, hu]
      trivial
    | ok ecs =>
      rw [act, hu]
      exact flush_follows hw env (by simp [Played]; decide) ((update_framed S hw sys dT).ok hu)
        ((update_players S sys dT w.ecs).ok hu)
  | handleEvents systems keys =>
    refine (orCrash_post (handleEvents_ok hw systems keys)).bind fun ecs hd => ?_
    exact flush_follows hw env (by simp [Moved]; decide) hd.framed (samePlayers_of_input hd.input)
  | loadEntity name keystream => exact loadEntity_follows hw env name keystream
  | setHealth id health =>
    have hf := setHealth_framed id health w
    refine follows_quiet (setHealth_keeps hw id health) (fun e c _ hb => ?_) (fun e he => ?_)
      fun e _ => ?_
    · exact (hf.bound (by simp [At]; decide)).mp hb
    · rw [AList.mem_keys] at he ⊢
      rwa [hf.keys]
    · have hinput : (w.setHealth id health).ecs.input = w.ecs.input := by
        unfold setHealth
        cases w.ecs.getComponent C_Health id <;> rfl
      exact samePlayers_of_input hinput e
  | clear => exact follows_server hw (Server.clear_grows w.server)
  | purge => exact absurd rfl hpurge

lemma run_follows {S : Setting F} {acts : List (Env F × Act F)} {log log' : List Order}
    (hr : runE (recorded (act S) taking) (w, log) acts = .ok (w', log'))
    (hg : AlongE (act S) Genuine w acts) (hpurge : ∀ i ∈ acts, i.2 ≠ .purge)
    (h : Follows log start w) : Follows log' start w' := by
  induction acts generalizing w log with
  | nil =>
    cases hr
    exact h
  | cons i acts ih =>
    obtain ⟨⟨u, taken⟩, hu, hr⟩ := runE_cons_ok.mp hr
    obtain ⟨hact, htaken⟩ := recorded_ok.mp hu
    dsimp only at hact htaken
    subst htaken
    have hstep := (act_follows S h.keeps.consistent hg.1 (hpurge i List.mem_cons_self)).ok hact
    exact ih hr (hg.2 u hact) (fun j hj => hpurge j (List.mem_cons_of_mem i hj)) (h.trans hstep)

omit [Field F] [LinearOrder F] [FloorRing F] in
lemma obedient_start : Obedient [] (start : World F) where
  toSessions := sessions_start
  known o ho := by cases ho
  spare e _ := rfl
  driven e c _ hb := by simp [Bound, start, new, getComponent, getBase] at hb

/-- **Every player drives one entity, and nobody else's.** In every run of the world in which the
entities are not purged and fewer than `2^31` clients are added, whatever the threads do and in
whatever order, the input of an entity that is bound to a client is what the update packets of this
client, each taken once and in the order they were handled, make of an idle player. -/
theorem orders_obeyed (S : Setting F) (acts : List (Env F × Act F)) (w : World F) (log : List Order)
    (hr : runE (recorded (act S) taking) (start, []) acts = .ok (w, log))
    (hpurge : ∀ i ∈ acts, i.2 ≠ .purge) (hg : AlongE (act S) Genuine start acts)
    (hfew : (clientsAdded w.server.log).length < 2147483648) (e : EntityId) (c : ℤ) (h0 : 0 ≤ c)
    (hc : S_Network.getClientID e w.ecs = .ok c) : w.ecs.player e = obeyed c log := by
  have hfollows := run_follows hr hg hpurge (.refl sessions_start.consistent)
  have hlog := hfollows.obedient hfew [] obedient_start
  refine hlog.driven e c h0 ((hlog.consistent.getClientID_iff ?_).mp hc)
  rintro rfl
  exact absurd h0 (by decide)

end Runs

/-- Two players connect, the second one attacks, the first one moves to the right. -/
def twoSpeak : List (Env ℚ × Act ℚ) :=
  [(plainEnv, .udpReceive 1 10 greeting), (plainEnv, .udpReceive 2 20 greeting),
    (plainEnv, .udpReceive 2 20 ⟨[5, 6, 1, 255]⟩),
    (plainEnv, .udpReceive 1 10 ⟨[5, 0, 0, 0, 0, 3, 0, 0, 0, 0, 255]⟩)]

def spoken : World ℚ × List Order :=
  reached (recorded (act (Setting.empty ℚ)) taking) (start, []) twoSpeak

theorem orders_obeyed_two : spoken.1.ecs.player 0 = ⟨3, 0, false⟩ ∧
    spoken.1.ecs.player 1 = ⟨0, 0, true⟩ := by
  have hrun : runE (recorded (act (Setting.empty ℚ)) taking) (start, []) twoSpeak = .ok spoken :=
    runE_reached (by decide +kernel)
  have hobeyed := fun e c h0 hb => orders_obeyed (Setting.empty ℚ) twoSpeak spoken.1 spoken.2 hrun
    (by simp [twoSpeak]) ⟨trivial, fun _ _ => ⟨trivial, fun _ _ => ⟨trivial, fun _ _ =>
      ⟨trivial, fun _ _ => trivial⟩⟩⟩⟩ (by decide +kernel) e c h0 hb
  exact ⟨(hobeyed 0 0 (by decide) (by decide +kernel)).trans (by decide +kernel),
    (hobeyed 1 1 (by decide) (by decide +kernel)).trans (by decide +kernel)⟩

end World

end Sfrpg
