import Mathlib.Algebra.Order.Field.Rat
import Mathlib.Data.Rat.Floor
import Sfrpg.Ticks
import Sfrpg.World

/-!
Which entity belongs to which client.

An id names a client for good, and the client component of an entity names at most one client, so
there is one entity for a client as long as no second one is bound to it; and an entity is bound
once, right after the id was issued. What else happens to entities and clients takes bindings away
and adds none.
-/

namespace Sfrpg

open Lib Lib.Word Lib.Run Ecs

namespace Ecs

variable {F : Type} {w w' : Ecs F} {e x : EntityId} {c c' : ClientID}

/-! ### Entities left alone -/

/-- Nothing about the entity `e` has changed. -/
structure Untouched (e : EntityId) (w w' : Ecs F) : Prop where
  data : w'.entities.lookup e = w.entities.lookup e
  listed : ∀ sys, e ∈ w'.members sys ↔ e ∈ w.members sys
  events : w'.events.lookup e = w.events.lookup e
  input : w'.input.lookup e = w.input.lookup e

lemma Untouched.refl (e : EntityId) (w : Ecs F) : Untouched e w w :=
  ⟨rfl, fun _ => .rfl, rfl, rfl⟩

lemma Strips.untouched (h : Strips e w w') (hx : x ≠ e) : Untouched x w w' where
  data := h.other x hx
  listed sys := by
    rw [h.members]
    exact List.mem_erase_of_ne hx
  events := by rw [h.events]
  input := by
    rw [h.input]
    split
    · exact AList.lookup_erase_ne hx
    · rfl

lemma Strips.bound (h : Strips e w w') (hb : Bound x c w') : x ≠ e ∧ Bound x c w := by
  have hx : x ≠ e := by
    rintro rfl
    obtain ⟨b, hbase, -⟩ := Option.bind_eq_some_iff.mp hb
    obtain ⟨d, hd⟩ := Dict.exists_lookup h.stored
    have hown := h.own
    rw [hd, Option.map_some] at hown
    rw [getBase, hown] at hbase
    simp at hbase
  exact ⟨hx, by rwa [Bound, getComponent_congr (h.other x hx)] at hb⟩

lemma updatePlayer_untouched (hw : Consistent w) {u : ℤ} {data : List UInt8}
    (h : S_Network.updatePlayer u data c w = .ok w') (he : ¬ Bound e c w) : Untouched e w w' := by
  rw [S_Network.updatePlayer] at h
  rcases hw.getEntityId_cases c with ⟨x, hx, hb⟩ | ⟨hnull, -⟩
  · rw [hx, ok_bind] at h
    have hne : e ≠ x := fun heq => he (heq ▸ hb)
    split at h
    · cases h
      exact .refl e w
    · split at h
      · cases h
        exact .refl e w
      · cases h
        exact ⟨rfl, fun _ => .rfl, rfl, AList.lookup_insert_ne hne⟩
  · rw [hnull, ok_bind, if_pos (show Network.NullID = -1 from rfl)] at h
    cases h
    exact .refl e w

/-! ### Entities created -/

lemma Loads.bound {mask : Bitmask} (h : Loads mask e w w') (hc : 0 ≤ c) (hb : Bound x c w') :
    Bound x c w := by
  by_cases hx : x = e
  · subst hx
    have hnew := h.unclaimed _ hb
    rw [C_Client.new, C_Client.mk.injEq] at hnew
    exact absurd hc (by rw [hnew]; decide)
  · rwa [Bound, getComponent_congr (h.other x hx)] at hb

lemma addEntityFile_post [Field F] (hw : Consistent w) (u : Uninitialised) (name : String)
    (file : EntityFile) :
    Post (addEntityFile u name file w) (fun r => Consistent r.1 ∧
      ∀ e c, 0 ≤ c → Bound e c r.1 → Bound e c w) fun _ => True := by
  rcases addEntityFile_cases hw u name file with herr | ⟨w', e, hw', hcase⟩
  · rw [herr]
    trivial
  · rw [hw']
    rcases hcase with rfl | rfl | ⟨mask, hloads⟩
    · exact ⟨hw, fun _ _ _ hb => hb⟩
    · have hfills := setType_fills (-1) name w
      refine ⟨hfills.consistent hw, fun e c _ hb => ?_⟩
      rwa [Bound, hfills.client] at hb
    · exact ⟨hloads.consistent, fun e c hc hb => hloads.bound hc hb⟩

lemma registerClientID_cases (hw : Consistent w) (e : EntityId) (c : ClientID) :
    (w.getComponent C_Client e = none ∧ S_Network.registerClientID e c w = .ok (w, false)) ∨
    ((∃ client, w.getComponent C_Client e = some client) ∧
      S_Network.registerClientID e c w = .ok (w.setComponent e (C_Client.mk c), true)) := by
  rw [S_Network.registerClientID]
  by_cases hmem : w.hasEntity .Network e
  · obtain ⟨client, hclient⟩ := hw.mem_network.mp hmem
    right
    rw [if_neg (not_not.mpr hmem), hclient, deref_some, ok_bind]
    exact ⟨⟨client, rfl⟩, rfl⟩
  · left
    rw [if_pos hmem]
    refine ⟨?_, rfl⟩
    cases hclient : w.getComponent C_Client e with
    | none => rfl
    | some client => exact absurd (hw.mem_network.mpr ⟨client, hclient⟩) hmem

lemma setComponent_bound (hb : Bound x c' (w.setComponent e (C_Client.mk c))) :
    (x = e ∧ c' = c) ∨ Bound x c' w := by
  by_cases hx : x = e
  · subst hx
    rw [Bound, getComponent_setComponent] at hb
    obtain ⟨client, -, heq⟩ := Option.map_eq_some_iff.mp hb
    cases heq
    exact .inl ⟨rfl, rfl⟩
  · rw [Bound, getComponent_congr (lookup_setComponent_ne hx _ w)] at hb
    exact .inr hb

lemma setComponent_bound_tag {T : Type} [CompType F T] (hT : Component.Client ≠ CompType.tag F T)
    (e : EntityId) (y : T) : Bound x c (w.setComponent e y) ↔ Bound x c w := by
  rw [Bound, Bound, getComponent_setComponent_tag (T := T) (U := C_Client) hT]

lemma consistent_setComponent {T : Type} [CompType F T] (hw : Consistent w) (e : EntityId) (y : T) :
    Consistent (w.setComponent e y) := by
  rw [setComponent_eq]
  exact (overwrite_framed (P := fun _ _ => True) _ w trivial).consistent hw

lemma Framed.bound {P : EntityId → Component → Prop} (h : Framed P w w')
    (hP : ∀ e, ¬ P e .Client) : Bound x c w' ↔ Bound x c w := by
  rw [Bound, Bound, h.get (hP x)]

end Ecs

/-! ### The server's part -/

namespace Server

variable {s t u : Server}

/-- Clients may have been added, and the registry is in order as long as the counter is. -/
structure Grows (s t : Server) : Prop where
  running : t.running = s.running
  added : clientsAdded s.log <:+ clientsAdded t.log
  registered : (clientsAdded t.log).length < 2147483648 → Registered s → Registered t

lemma Grows.refl (s : Server) : Grows s s := ⟨rfl, List.suffix_refl _, fun _ h => h⟩

lemma Grows.trans (h : Grows s t) (h' : Grows t u) : Grows s u where
  running := h'.running.trans h.running
  added := h.added.trans h'.added
  registered hfew hs :=
    h'.registered hfew (h.registered (lt_of_le_of_lt h'.added.length_le hfew) hs)

lemma Narrows.grows (h : Narrows s t) : Grows s t where
  running := h.running
  added := by rw [h.joined]
  registered _ hs := hs.narrows h

lemma addClient_grows (protocol : NetworkProtocol) (ip : IpAddress) (port : PortNumber)
    (s : Server) : Grows s (s.addClient protocol ip port).1 where
  running := by
    unfold addClient
    split
    · rfl
    · split <;> rfl
  added := registryStep_added s (fun _ => true, .addClient protocol ip port)
  registered hfew hs := registered_step hs (fun _ => true, .addClient protocol ip port) hfew

lemma grows_of_registry (hrun : t.running = s.running) (hmap : t.clientMap = s.clientMap)
    (hid : t.lastID = s.lastID) (hlog : t.log = s.log) : Grows s t where
  running := hrun
  added := by rw [hlog]
  registered _ hs := hs.congr hrun hmap hid hlog

lemma accept_grows (n : ℕ) (ip : IpAddress) (port : PortNumber) (s : Server) :
    Grows s (s.accept n ip port) := by
  have h₁ : Grows s { s with selector := .socket n :: s.selector } :=
    grows_of_registry rfl rfl rfl rfl
  exact (h₁.trans (addClient_grows .TCP ip port _)).trans (grows_of_registry rfl rfl rfl rfl)

lemma dropSockets_grows (ids : List ClientID) (s : Server) : Grows s (ids.foldl dropSocket s) :=
  Dict.foldl_inv (I := Grows s)
    (fun t id h => h.trans (grows_of_registry (t := t.dropSocket id) rfl rfl rfl rfl)) ids (.refl s)

lemma clear_grows (s : Server) : Grows s s.clear :=
  ⟨rfl, List.suffix_refl _, fun _ h => h.clear⟩

lemma broadcasts_frame (tr : Transport) (ps : List Packet) (s : Server) :
    Frame s (ps.foldl (fun s p => s.broadcast tr p Network.NullID) s) :=
  Dict.foldl_inv (I := Frame s)
    (fun t p h => h.trans (broadcast_frame tr p Network.NullID t)) ps (.refl s)

lemma sendTo_frame {tr : Transport} {ip : IpAddress} {port : PortNumber} {p : Packet}
    {r : Server × Bool} (h : s.sendTo tr ip port p = some r) : Frame s r.1 := by
  unfold sendTo at h
  split at h
  · cases h
    exact .refl s
  · split at h
    · cases h
      exact .refl s
    · split at h
      · cases h
        exact .refl s
      · split at h
        · cases h
        · cases h
          exact deliver_frame tr _ p s

end Server

/-! ### Sessions -/

namespace World

section Invariant

variable {F : Type} {w w' w'' : World F}

/-- The invariant: the id of a bound client was issued, to nobody else, and its entity is no
failure of the search. -/
structure Sessions (w : World F) : Prop where
  consistent : Consistent w.ecs
  registered : Server.Registered w.server
  issued : ∀ e (c : ℤ), 0 ≤ c → Bound e c w.ecs → c < w.server.lastID ∧ e ≠ -1
  unique : ∀ e e' (c : ℤ), 0 ≤ c → Bound e c w.ecs → Bound e' c w.ecs → e = e'

/-- A section may add clients, and keeps the invariant unless they are too many. -/
structure Keeps (w w' : World F) : Prop where
  consistent : Consistent w'.ecs
  running : w'.server.running = w.server.running
  added : clientsAdded w.server.log <:+ clientsAdded w'.server.log
  sessions : (clientsAdded w'.server.log).length < 2147483648 → Sessions w → Sessions w'

lemma Keeps.refl (hw : Consistent w.ecs) : Keeps w w :=
  ⟨hw, rfl, List.suffix_refl _, fun _ h => h⟩

lemma Keeps.trans (h : Keeps w w') (h' : Keeps w' w'') : Keeps w w'' where
  consistent := h'.consistent
  running := h'.running.trans h.running
  added := h.added.trans h'.added
  sessions hfew hs := h'.sessions hfew (h.sessions (lt_of_le_of_lt h'.added.length_le hfew) hs)

lemma keeps_of_bound (hs : Server.Grows w.server w'.server) (hc : Consistent w'.ecs)
    (hmono : ∀ e (c : ℤ), 0 ≤ c → Bound e c w'.ecs → Bound e c w.ecs) : Keeps w w' where
  consistent := hc
  running := hs.running
  added := hs.added
  sessions hfew h := by
    have hreg := hs.registered hfew h.registered
    have hle : w.server.lastID ≤ w'.server.lastID := by
      rw [h.registered.counter, hreg.counter]
      exact hs.added.length_le
    refine ⟨hc, hreg, fun e c h0 hb => ?_, fun e e' c h0 hb hb' => ?_⟩
    · have hissued := h.issued e c h0 (hmono e c h0 hb)
      exact ⟨by omega, hissued.2⟩
    · exact h.unique e e' c h0 (hmono e c h0 hb) (hmono e' c h0 hb')

lemma keeps_server {s : Server} (hw : Consistent w.ecs) (hs : Server.Grows w.server s) :
    Keeps w { w with server := s } :=
  keeps_of_bound hs hw fun _ _ _ hb => hb

lemma keeps_ecs {ecs : Ecs F} (hc : Consistent ecs)
    (hmono : ∀ e (c : ℤ), 0 ≤ c → Bound e c ecs → Bound e c w.ecs) :
    Keeps w { w with ecs := ecs } :=
  keeps_of_bound (.refl _) hc hmono

lemma counted_keeps (hw : Consistent w.ecs) (p : Packet) : Keeps w (w.counted p) :=
  keeps_server hw (Server.grows_of_registry rfl rfl rfl rfl)

lemma flush_keeps (hw : Consistent w.ecs) (env : Env F) {P : EntityId → Component → Prop}
    (hP : ∀ e, ¬ P e .Client) {ecs : Ecs F} (h : Framed P w.ecs ecs) :
    Keeps w (flush env { w with ecs := ecs }) := by
  have hk : Keeps w { w with ecs := ecs } :=
    keeps_ecs (h.consistent hw) fun e c _ hb => (h.bound hP).mp hb
  refine hk.trans (keeps_of_bound ?_ ?_ fun e c _ hb => hb)
  · exact (Server.broadcasts_frame env.transport ecs.broadcasts w.server).narrows.grows
  · exact (h.consistent hw).congr rfl rfl

lemma setHealth_keeps (hw : Consistent w.ecs) (id : EntityId) (health : ℤ) :
    Keeps w (w.setHealth id health) := by
  unfold setHealth
  cases w.ecs.getComponent C_Health id with
  | none => exact .refl hw
  | some h =>
    refine keeps_ecs (consistent_setComponent hw id _) fun e c _ hb => ?_
    exact (setComponent_bound_tag (show Component.Client ≠ .Health by decide) id _).mp hb

lemma purge_keeps (w : World F) : Keeps w { w with ecs := w.ecs.purge } := by
  refine keeps_ecs (consistent_purge w.ecs) fun e c _ hb => ?_
  simp [Bound, purge, purgeEntities, getComponent, getBase] at hb

end Invariant

section Sections

variable {F : Type} [Field F] [LinearOrder F] {w w' : World F}

omit [Field F] [LinearOrder F] in
lemma sessions_start : Sessions (start : World F) where
  consistent := consistent_new
  registered := Server.registered_start
  issued e c _ hb := by simp [Bound, start, new, getComponent, getBase] at hb
  unique e e' c _ hb := by simp [Bound, start, new, getComponent, getBase] at hb

/-! ### Clients leave -/

lemma clientLeave_eq {c : ClientID} {e : EntityId} {r : Ecs F × Bool}
    (he : S_Network.getEntityId c w.ecs = .ok e) (hr : w.ecs.removeEntity e = .ok r) :
    w.clientLeave c = .ok { w with ecs := r.1 } := by
  unfold clientLeave
  rw [he]
  show (orCrash (w.ecs.removeEntity e) >>= fun r => pure { w with ecs := r.1 }) = _
  rw [hr]
  rfl

lemma clientLeave_ok {c : ClientID} (h : w.clientLeave c = .ok w') : w'.server = w.server ∧
    ∃ e, S_Network.getEntityId c w.ecs = .ok e ∧ (w'.ecs = w.ecs ∨ Strips e w.ecs w'.ecs) := by
  cases he : S_Network.getEntityId c w.ecs with
  | error f =>
    unfold clientLeave at h
    rw [he] at h
    cases h
  | ok e =>
    rcases removeEntity_cases e w.ecs with ⟨-, hr⟩ | ⟨u, hr, hs⟩
    · rw [clientLeave_eq he hr] at h
      cases h
      exact ⟨rfl, e, rfl, .inl rfl⟩
    · rw [clientLeave_eq he hr] at h
      cases h
      exact ⟨rfl, e, rfl, .inr hs⟩

lemma clientLeave_post (hw : Consistent w.ecs) (c : ClientID) :
    Post (w.clientLeave c) (Keeps w) fun _ => True := by
  cases h : w.clientLeave c with
  | error f => trivial
  | ok w' =>
    obtain ⟨hserver, e, -, hecs⟩ := clientLeave_ok h
    have hc : Consistent w'.ecs := by
      rcases hecs with heq | hs
      · exact heq ▸ hw
      · exact hs.consistent hw
    refine keeps_of_bound (by rw [hserver]; exact .refl _) hc fun x c' _ hb => ?_
    rcases hecs with heq | hs
    · rwa [heq] at hb
    · exact (hs.bound hb).2

lemma clientLeave_untouched {c : ClientID} (hs : Sessions w) (h : w.clientLeave c = .ok w')
    {e : EntityId} {c' : ℤ} (h0 : 0 ≤ c') (hb : Bound e c' w.ecs) (hne : c' ≠ c) :
    Untouched e w.ecs w'.ecs := by
  obtain ⟨-, x, hx, heq | hstrips⟩ := clientLeave_ok h
  · rw [heq]
    exact .refl e w.ecs
  · refine hstrips.untouched ?_
    rintro rfl
    rcases hs.consistent.getEntityId_cases c with ⟨y, hy, hby⟩ | ⟨hnull, -⟩
    · rw [hx] at hy
      cases hy
      exact hne (hb.eq hby)
    · -- the search failed, so the entity removed is the one no client has
      rw [hx] at hnull
      cases hnull
      exact (hs.issued _ c' h0 hb).2 rfl

/-! ### Clients enter -/

/-- A player was loaded for the client `cid`. -/
structure Enters (cid : ClientID) (w w' : World F) : Prop where
  frame : Server.Frame w.server w'.server
  consistent : Consistent w'.ecs
  bound : ∃ eid, eid ≠ -1 ∧ ∀ e (c : ℤ), 0 ≤ c → Bound e c w'.ecs →
    Bound e c w.ecs ∨ (e = eid ∧ c = cid)

omit [LinearOrder F] in
lemma placePlayer_cases (env : Env F) (cid : ClientID) (eid : EntityId) (name : String)
    (w : World F) :
    (w.ecs.getComponent (C_Position F) eid = none ∧ w.placePlayer env cid eid name = .ok w) ∨
    ∃ pos, w.ecs.getComponent (C_Position F) eid = some pos ∧
      ((w.ecs.getComponent C_Name eid = none ∧
          w.placePlayer env cid eid name = .error (.fault .nullDeref)) ∨
        ∃ n : C_Name, w.ecs.getComponent C_Name eid = some n ∧
          w.placePlayer env cid eid name = .ok
            ⟨(w.server.send env.transport cid
                (connectPacket env eid (pos.setPosition ⟨64, 64⟩))).1,
              (w.ecs.setComponent eid (pos.setPosition ⟨64, 64⟩)).setComponent eid
                (n.setName name)⟩) := by
  unfold placePlayer
  cases hpos : w.ecs.getComponent (C_Position F) eid with
  | none => exact .inl ⟨rfl, rfl⟩
  | some pos =>
    refine .inr ⟨pos, rfl, ?_⟩
    dsimp only
    rw [getComponent_setComponent_tag (show Component.Name ≠ .Position by decide)]
    cases hname : w.ecs.getComponent C_Name eid with
    | none => exact .inl ⟨rfl, rfl⟩
    | some n => exact .inr ⟨n, rfl, rfl⟩

omit [LinearOrder F] in
lemma placePlayer_post (hw : Consistent w.ecs) (env : Env F) (cid : ClientID) (eid : EntityId)
    (name : String) :
    Post (w.placePlayer env cid eid name) (fun w' => Server.Frame w.server w'.server ∧
      Consistent w'.ecs ∧ ∀ e c, Bound e c w'.ecs ↔ Bound e c w.ecs) fun _ => True := by
  rcases placePlayer_cases env cid eid name w with ⟨-, h⟩ | ⟨pos, -, ⟨-, h⟩ | ⟨n, -, h⟩⟩
  · rw [h]
    exact ⟨.refl _, hw, fun _ _ => .rfl⟩
  · rw [h]
    trivial
  · rw [h]
    refine ⟨Server.send_frame env.transport cid _ w.server, ?_, fun e c => ?_⟩
    · exact consistent_setComponent (consistent_setComponent hw eid _) eid _
    · exact (setComponent_bound_tag (show Component.Client ≠ .Name by decide) eid _).trans
        (setComponent_bound_tag (show Component.Client ≠ .Position by decide) eid _)

omit [LinearOrder F] in
lemma enterPlayer_post (hw : Consistent w.ecs) (env : Env F) (cid : ClientID) (name : String) :
    Post (w.enterPlayer env cid name) (Enters cid w) fun _ => True := by
  unfold enterPlayer
  refine (addEntityFile_post hw env.uninitialised "Player" (env.files "Player")).bind ?_
  rintro ⟨ecs, eid⟩ ⟨hc, hmono⟩
  dsimp only at hc hmono ⊢
  refine Post.ite (fun _ => ?_) fun hvalid => ?_
  · exact ⟨.refl _, hc, 0, by decide, fun e c h0 hb => .inl (hmono e c h0 hb)⟩
  rcases registerClientID_cases hc eid cid with ⟨-, hr⟩ | ⟨-, hr⟩
  · rw [hr]
    refine (placePlayer_post (w := { w with ecs := ecs }) hc env cid eid name).imp ?_
    rintro w' ⟨hframe, hc', hbound⟩
    exact ⟨hframe, hc', eid, hvalid, fun e c h0 hb => .inl (hmono e c h0 ((hbound e c).mp hb))⟩
  · rw [hr]
    refine (placePlayer_post (w := { w with ecs := ecs.setComponent eid (C_Client.mk cid) })
      (consistent_setComponent hc eid _) env cid eid name).imp ?_
    rintro w' ⟨hframe, hc', hbound⟩
    refine ⟨hframe, hc', eid, hvalid, fun e c h0 hb => ?_⟩
    rcases setComponent_bound ((hbound e c).mp hb) with ⟨rfl, rfl⟩ | hold
    · exact .inr ⟨rfl, rfl⟩
    · exact .inl (hmono e c h0 hold)

omit [Field F] [LinearOrder F] in
lemma Enters.sessions {s : Server} (hs : Sessions w) {ip : IpAddress} {port : PortNumber}
    (hnone : w.server.findClient ip port = none) (hj : Server.Joins ip port w.server s)
    (h : Enters w.server.lastID { w with server := s } w') : Sessions w' := by
  have hreg := (hs.registered.joins hnone hj).narrows h.frame.narrows
  have hlast : w'.server.lastID = w.server.lastID + 1 := h.frame.lastID.trans hj.lastID
  obtain ⟨eid, hvalid, hbound⟩ := h.bound
  refine ⟨h.consistent, hreg, fun e c h0 hb => ?_, fun e e' c h0 hb hb' => ?_⟩
  · rcases hbound e c h0 hb with hold | ⟨rfl, rfl⟩
    · have hissued := hs.issued e c h0 hold
      exact ⟨by omega, hissued.2⟩
    · exact ⟨by omega, hvalid⟩
  · rcases hbound e c h0 hb with hold | ⟨rfl, hc⟩
    · rcases hbound e' c h0 hb' with hold' | ⟨-, hc⟩
      · exact hs.unique e e' c h0 hold hold'
      · have hissued := (hs.issued e c h0 hold).1
        omega
    · rcases hbound e' c h0 hb' with hold' | ⟨rfl, -⟩
      · have hissued := (hs.issued e' c h0 hold').1
        omega
      · rfl

omit [LinearOrder F] in
lemma connect_post (hw : Consistent w.ecs) (env : Env F) (ip : IpAddress) (port : PortNumber)
    (data : List UInt8) : Post (w.connect env ip port data) (Keeps w) fun _ => True := by
  have hadd := Server.addClient_grows .UDP ip port w.server
  unfold connect
  cases Packet.getString data with
  | none => exact .refl hw
  | some r =>
    obtain ⟨name, rest⟩ := r
    dsimp only
    refine Post.ite (fun _ => ?_) fun hid => ?_
    · cases hsend : (w.server.addClient .UDP ip port).1.sendTo env.transport ip port
        Server.disconnectPacket with
      | none => trivial
      | some r => exact keeps_server hw (hadd.trans (Server.sendTo_frame hsend).narrows.grows)
    · refine (enterPlayer_post (w := { w with server := (w.server.addClient .UDP ip port).1 })
        hw env _ name).imp fun w' he => ?_
      refine ⟨he.consistent, he.frame.running.trans hadd.running, ?_, fun hfew hs => ?_⟩
      · rw [he.frame.joined]
        exact hadd.added
      · rw [he.frame.joined] at hfew
        have hlt : w.server.lastID < 2147483648 := by
          rw [hs.registered.counter]
          exact lt_of_le_of_lt hadd.added.length_le hfew
        obtain heq | ⟨hnone, hcid, hj⟩ := hs.registered.addClient_cases .UDP ip port hlt
        · rw [heq] at hid
          exact absurd rfl hid
        · rw [hcid] at he
          exact he.sessions hs hnone hj

/-! ### Packets -/

omit [Field F] [LinearOrder F] in
lemma updatePlayer_keeps (hw : Consistent w.ecs) (u : ℤ) (data : List UInt8) (cid : ClientID) :
    Post (orCrash (S_Network.updatePlayer u data cid w.ecs))
      (fun ecs => Keeps w { w with ecs := ecs }) fun _ => True := by
  obtain ⟨ecs, hecs, hent, hmem, -⟩ := (updatePlayer_post hw u data cid).exists_ok
  rw [hecs]
  refine keeps_ecs (hw.congr hent hmem) fun e c _ hb => ?_
  rw [Bound, getComponent_congr (w := w.ecs) (by rw [hent])] at hb
  exact hb

lemma handleFrom_post (hw : Consistent w.ecs) (env : Env F) (cid : ClientID) (ip : IpAddress)
    (port : PortNumber) (l_id : ℤ) (data : List UInt8) :
    Post (w.handleFrom env cid ip port l_id data) (Keeps w) fun _ => True := by
  unfold handleFrom
  refine Post.ite (fun _ => ?_) fun _ => ?_
  · refine Post.ite (fun _ => clientLeave_post hw cid) fun _ => ?_
    refine Post.ite (fun _ => .refl hw) fun _ => ?_
    refine Post.ite (fun _ => ?_) fun _ => .refl hw
    exact (updatePlayer_keeps hw env.unset data cid).bind fun ecs hk => hk
  · exact Post.ite (fun _ => .refl hw) fun _ => connect_post hw env ip port data

lemma arrive_post (hw : Consistent w.ecs) (env : Env F) (ip : IpAddress) (port : PortNumber)
    (p : Packet) {heartbeat : Server → Server}
    (hbeat : Server.Narrows w.server (heartbeat w.server)) :
    Post (w.arrive env ip port p heartbeat) (Keeps w) fun _ => True := by
  unfold arrive
  cases Packet.getInt8 p.data with
  | none => exact .refl hw
  | some r =>
    obtain ⟨type, rest⟩ := r
    dsimp only
    refine Post.ite (fun _ => .refl hw) fun _ => ?_
    refine Post.ite (fun _ => keeps_server hw hbeat.grows) fun _ => ?_
    exact handleFrom_post hw env _ ip port type rest

lemma udpReceive_post (hw : Consistent w.ecs) (env : Env F) (ip : IpAddress) (port : PortNumber)
    (p : Packet) : Post (w.udpReceive env ip port p) (Keeps w) fun _ => True :=
  (arrive_post (w := w.counted p) hw env ip port p (Server.udpHeartbeat_narrows ip port _)).imp
    fun _ hk => (counted_keeps hw p).trans hk

lemma tcpReceive_post {acc : World F × List ClientID} (hk : Keeps w acc.1) (env : Env F)
    (recv : ClientID → Option Server.Received) (id : ClientID) :
    Post (tcpReceive env recv acc id) (fun r => Keeps w r.1) fun _ => True := by
  have hw := hk.consistent
  unfold tcpReceive
  cases recv id with
  | none => exact hk
  | some r =>
    cases acc.1.server.clientMap.lookup id with
    | none => exact hk
    | some info =>
      cases r with
      | packet p =>
        refine (arrive_post (w := acc.1.counted p) hw env info.clientIP info.clientPORT p
          (Server.heartbeatReply_narrows id _)).bind fun w' hk' => ?_
        exact hk.trans ((counted_keeps hw p).trans hk')
      | disconnected =>
        exact hk.trans (keeps_server hw (Server.removeClient_narrows env.transport id _).grows)
      | error => exact hk

lemma tcpReady_post (hw : Consistent w.ecs) (env : Env F)
    (recv : ClientID → Option Server.Received) :
    Post (w.tcpReady env recv) (Keeps w) fun _ => True := by
  unfold tcpReady
  refine (Post.foldlM (I := fun r : World F × List ClientID => Keeps w r.1)
    (fun acc id _ hk => tcpReceive_post hk env recv id) (.refl hw)).bind fun acc hk => ?_
  exact hk.trans (keeps_server hk.consistent (Server.dropSockets_grows acc.2 _))

/-! ### Timeouts -/

lemma updateClient_post (hw : Consistent w.ecs) (env : Env F) (id : ClientID) :
    Post (updateClient env w id) (Keeps w) fun _ => True := by
  unfold updateClient
  cases w.server.clientMap.lookup id with
  | none => exact .refl hw
  | some info =>
    refine Post.bind (Q := Keeps w) ?_ fun w' hk => ?_
    · exact Post.ite (fun _ => clientLeave_post hw id) fun _ => .refl hw
    · exact hk.trans (keeps_server hk.consistent
        (Server.updateClient_narrows env.transport w'.server id).grows)

lemma sweep_post (hw : Consistent w.ecs) (env : Env F) :
    Post (w.sweep env) (Keeps w) fun _ => True := by
  refine Post.foldlM (fun u id _ hk => ?_) (.refl hw)
  exact (updateClient_post hk.consistent env id).imp fun v hk' => hk.trans hk'

/-! ### Entities -/

omit [LinearOrder F] in
lemma loadEntity_post (hw : Consistent w.ecs) (env : Env F) (name : String)
    (keystream : StringStream) :
    Post (w.loadEntity env name keystream) (Keeps w) fun _ => True := by
  unfold loadEntity
  refine (addEntityFile_post hw env.uninitialised name (env.files name)).bind ?_
  rintro ⟨ecs, entityId⟩ ⟨hc, hmono⟩
  dsimp only at hc hmono ⊢
  refine Post.ite (fun _ => keeps_ecs hc hmono) fun _ => ?_
  cases ecs.getComponent (C_Position F) entityId with
  | none => exact keeps_ecs hc hmono
  | some position =>
    refine keeps_ecs (consistent_setComponent hc entityId _) fun e c h0 hb => hmono e c h0 ?_
    exact (setComponent_bound_tag (show Component.Client ≠ .Position by decide) entityId _).mp hb

end Sections

section Runs

variable {F : Type} [Field F] [LinearOrder F] [FloorRing F] {w w' : World F}

lemma orCrash_post {α : Type} {y : Outcome α} {Q : α → Prop} {E : Fault → Prop} (h : Post y Q E) :
    Post (orCrash y) Q fun _ => True := by
  cases y with
  | ok a => exact h
  | error f => trivial

lemma update_framed (S : Setting F) (hw : Consistent w.ecs) (sys : System) (dT : F) :
    Post (Sfrpg.update S dT sys w.ecs) (Framed Played w.ecs) fun _ => True := by
  by_cases hd : Disarmed w.ecs (.update sys dT)
  · have herr := turn_disarmed S hw hd
    rw [turn] at herr
    rw [herr]
    trivial
  · exact (update_post S hw sys dT hd).mono (fun _ hu => hu.framed) fun _ _ => trivial

/-- **A section of any thread** keeps the invariant, as long as few clients were added. -/
lemma act_post (S : Setting F) (hw : Consistent w.ecs) (i : Env F × Act F) :
    Post (act S w i) (Keeps w) fun _ => True := by
  obtain ⟨env, i⟩ := i
  cases i with
  | accept n ip port => exact keeps_server hw (Server.accept_grows n ip port w.server)
  | tcpReady recv => exact tcpReady_post hw env recv
  | udpReceive ip port p => exact udpReceive_post hw env ip port p
  | handleFrom cid ip port l_id data => exact handleFrom_post hw env cid ip port l_id data
  | advance dt => exact keeps_server hw (Server.advance_narrows dt w.server).grows
  | sweep => exact sweep_post hw env
  | broadcast p =>
    exact keeps_server hw (Server.broadcast_frame env.transport p _ w.server).narrows.grows
  | update sys dT =>
    refine (orCrash_post (update_framed S hw sys dT)).bind fun ecs hf => ?_
    exact flush_keeps hw env (by simp [Played]; decide) hf
  | handleEvents systems keys =>
    refine (orCrash_post (handleEvents_ok hw systems keys)).bind fun ecs hd => ?_
    exact flush_keeps hw env (by simp [Moved]; decide) hd.framed
  | loadEntity name keystream => exact loadEntity_post hw env name keystream
  | setHealth id health => exact setHealth_keeps hw id health
  | clear => exact keeps_server hw (Server.clear_grows w.server)
  | purge => exact purge_keeps w

lemma keeps_run {S : Setting F} {acts : List (Env F × Act F)}
    (hr : runE (act S) start acts = .ok w) : Keeps start w :=
  runE_inv (I := Keeps start) (P := fun _ => True)
    (fun _ i _ hk _ ht => hk.trans ((act_post S hk.consistent i).ok ht))
    (.refl sessions_start.consistent) (fun _ _ => trivial) hr

lemma sessions_run {S : Setting F} {acts : List (Env F × Act F)}
    (hr : runE (act S) start acts = .ok w)
    (hfew : (clientsAdded w.server.log).length < 2147483648) : Sessions w :=
  (keeps_run hr).sessions hfew sessions_start

omit [Field F] [LinearOrder F] [FloorRing F] in
lemma getEntityId_bound (hs : Sessions w) {e : EntityId} {c : ℤ} (h0 : 0 ≤ c)
    (hb : Bound e c w.ecs) : S_Network.getEntityId c w.ecs = .ok e := by
  rcases hs.consistent.getEntityId_cases c with ⟨x, hx, hbx⟩ | ⟨-, hno⟩
  · rw [hx, hs.unique x e c h0 hbx hb]
  · exact absurd hb (hno e)

omit [FloorRing F] in
lemma handleFrom_untouched (hs : Sessions w) {env : Env F} {ip : IpAddress} {port : PortNumber}
    {l_id : ℤ} {data : List UInt8} {e : EntityId} {c c' : ℤ} (h0 : 0 ≤ c) (h0' : 0 ≤ c')
    (hb : Bound e c' w.ecs) (hne : c' ≠ c)
    (h : w.handleFrom env c ip port l_id data = .ok w') : Untouched e w.ecs w'.ecs := by
  rw [handleFrom, if_pos h0] at h
  split at h
  · exact clientLeave_untouched hs h h0' hb hne
  · split at h
    · cases h
      exact .refl e w.ecs
    · split at h
      · cases hu : S_Network.updatePlayer env.unset data c w.ecs with
        | error f =>
          rw [hu] at h
          cases h
        | ok ecs =>
          rw [hu] at h
          cases h
          exact updatePlayer_untouched hs.consistent hu fun hbc => hne (hb.eq hbc)
      · cases h
        exact .refl e w.ecs

omit [FloorRing F] in
lemma updateClient_untouched (hs : Sessions w) {env : Env F} {e : EntityId} {c c' : ℤ}
    (h0' : 0 ≤ c') (hb : Bound e c' w.ecs) (hne : c' ≠ c)
    (h : updateClient env w c = .ok w') : Untouched e w.ecs w'.ecs := by
  unfold updateClient at h
  split at h
  · cases h
    exact .refl e w.ecs
  · split at h
    · cases hl : w.clientLeave c with
      | error f =>
        rw [hl] at h
        cases h
      | ok v =>
        rw [hl] at h
        cases h
        exact clientLeave_untouched hs hl h0' hb hne
    · cases h
      exact .refl e w.ecs

/-- **An entity for a client.** In every world reached while fewer than `2 ^ 31` clients were
added, two entities that `S_Network` lists carry different clients; so the searches for the client
of an entity and for the entity of a client are inverse to each other, and what a client sends, or
its timeout, leaves the entities of all other clients as they are. -/
theorem clients_apart (S : Setting F) (acts : List (Env F × Act F)) (w : World F)
    (hr : runE (act S) start acts = .ok w)
    (hfew : (clientsAdded w.server.log).length < 2147483648) :
    (∀ e e' (c : ℤ), 0 ≤ c → e ∈ w.ecs.members .Network → e' ∈ w.ecs.members .Network →
      w.ecs.getComponent C_Client e = some ⟨c⟩ → w.ecs.getComponent C_Client e' = some ⟨c⟩ →
      e = e') ∧
    (∀ e (c : ℤ), 0 ≤ c → S_Network.getClientID e w.ecs = .ok c →
      S_Network.getEntityId c w.ecs = .ok e) ∧
    ∀ e (c c' : ℤ), 0 ≤ c → 0 ≤ c' → c' ≠ c → S_Network.getClientID e w.ecs = .ok c' →
      (∀ env ip port l_id data w', w.handleFrom env c ip port l_id data = .ok w' →
        Untouched e w.ecs w'.ecs) ∧
      ∀ env w', updateClient env w c = .ok w' → Untouched e w.ecs w'.ecs := by
  have hs := sessions_run hr hfew
  have hbound : ∀ e (c : ℤ), 0 ≤ c → S_Network.getClientID e w.ecs = .ok c → Bound e c w.ecs := by
    intro e c h0 hc
    refine (hs.consistent.getClientID_iff ?_).mp hc
    rintro rfl
    exact absurd h0 (by decide)
  refine ⟨fun e e' c h0 _ _ hb hb' => hs.unique e e' c h0 hb hb', fun e c h0 hc => ?_, ?_⟩
  · exact getEntityId_bound hs h0 (hbound e c h0 hc)
  · intro e c c' h0 h0' hne hc
    have hb := hbound e c' h0' hc
    exact ⟨fun env ip port l_id data w' h => handleFrom_untouched hs h0 h0' hb hne h,
      fun env w' h => updateClient_untouched hs h0' hb hne h⟩

end Runs

/-- Everything sent is taken, and the one entity file describes a player: a position, a client and
a name. -/
def plainEnv : Env ℚ where
  transport := fun _ => true
  files := fun _ => some ["Name Player", "Attributes 1281"]
  uninitialised := ⟨.Idle, 1, 1, false⟩
  unset := 0
  floatBytes := fun _ => [0, 0, 128, 66]

/-- A `Connect` packet with a name in it. -/
def greeting : Packet := ⟨[0, 0, 0, 0, 3, 97, 110, 110]⟩

def twoPlayers : World ℚ := reached (act (Setting.empty ℚ)) start
  [(plainEnv, .udpReceive 1 10 greeting), (plainEnv, .udpReceive 2 20 greeting)]

/-- The second player is found by its client, and stays when the first one times out. -/
theorem clients_apart_two : S_Network.getEntityId 1 twoPlayers.ecs = .ok 1 ∧
    ∀ w', updateClient plainEnv twoPlayers 0 = .ok w' → Untouched 1 twoPlayers.ecs w'.ecs := by
  obtain ⟨-, hinv, hother⟩ := clients_apart (Setting.empty ℚ) _ twoPlayers
    (runE_reached (by decide +kernel)) (by decide +kernel)
  have hc : S_Network.getClientID 1 twoPlayers.ecs = .ok 1 := by decide +kernel
  exact ⟨hinv 1 1 (by decide) hc, (hother 1 0 1 (by decide) (by decide) (by decide) hc).2 plainEnv⟩

end World

end Sfrpg
