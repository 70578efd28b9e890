import Sfrpg.Bindings

/-!
What packets, timeouts, the map and the console do to the entities.

Apart from the updates of the systems and the events they hand out, a section of the world removes
entities, loads new ones from a file, and writes a few components: where a player starts, whose it
is and what it is called. The console also sets the health of an entity. `act_cases` is what one
section can do.
-/

namespace Sfrpg

open Lib Lib.Word Lib.Run Ecs

namespace Ecs

variable {F : Type} {w w' : Ecs F} {e : EntityId}

/-- The components written for a player who comes in. -/
def Managed (c : Component) : Prop := c = .Position ∨ c = .Client ∨ c = .Name

/-- One change. The last one is of what is not a component: inputs, and the name of a file. -/
inductive Change (w : Ecs F) : Ecs F → Prop
  | strip {w' : Ecs F} (e : EntityId) (h : Strips e w w') : Change w w'
  | load {w' : Ecs F} (mask : Bitmask) (e : EntityId) (h : Loads mask e w w')
    (hnew : Unstarted e w') : Change w w'
  | write (e : EntityId) (b : C_Base F) (h : Managed b.getType) : Change w (w.overwrite e b)
  | other {w' : Ecs F} (keys : w'.entities.keys = w.entities.keys)
    (base : ∀ e c, w'.getBase e c = w.getBase e c) (h : Consistent w → Consistent w') : Change w w'

abbrev Changes : Ecs F → Ecs F → Prop := Relation.ReflTransGen Change

lemma Change.consistent (h : Change w w') (hw : Consistent w) : Consistent w' := by
  cases h with
  | strip e h => exact h.consistent hw
  | load mask e h _ => exact h.consistent
  | write e b _ => exact (overwrite_framed (P := fun _ _ => True) b w trivial).consistent hw
  | other _ _ h => exact h hw

lemma Changes.consistent (h : Changes w w') (hw : Consistent w) : Consistent w' := by
  induction h with
  | refl => exact hw
  | tail _ h ih => exact h.consistent ih

lemma changes_set {T : Type} [CompType F T] (e : EntityId) (x : T) (w : Ecs F)
    (h : Managed (CompType.tag F T)) : Changes w (w.setComponent e x) := by
  rw [setComponent_eq]
  exact .single (.write e _ (by rw [CompType.getType_wrap]; exact h))

/-! ### What they leave alone -/

lemma Changes.kept (h : Changes w w') {c : Component} (hc : ¬ Managed c) (he : e ∈ w.entities) :
    e ∈ w'.entities ∧ (w'.getBase e c = w.getBase e c ∨ w'.getBase e c = none) := by
  induction h with
  | refl => exact ⟨he, .inl rfl⟩
  | @tail u v _ h ih =>
    obtain ⟨hu, hbase⟩ := ih
    have hstep : e ∈ v.entities ∧ (v.getBase e c = u.getBase e c ∨ v.getBase e c = none) := by
      cases h with
      | strip x h =>
        refine ⟨by rw [AList.mem_keys, h.keys, ← AList.mem_keys]; exact hu, ?_⟩
        by_cases hx : e = x
        · subst hx
          right
          obtain ⟨d, hd⟩ := Dict.exists_lookup hu
          rw [getBase, h.own, hd]
          simp
        · exact .inl (by rw [getBase, getBase, h.other e hx])
      | load mask x h _ =>
        have hx : e ≠ x := by
          rintro rfl
          exact h.fresh hu
        refine ⟨?_, .inl (by rw [getBase, getBase, h.other e hx])⟩
        rw [AList.mem_keys, h.keys]
        exact List.mem_cons_of_mem x hu
      | write x b hb =>
        have hf := overwrite_framed (P := fun y d => y = x ∧ d = b.getType) (e := x) b u ⟨rfl, rfl⟩
        refine ⟨by rw [AList.mem_keys, hf.keys, ← AList.mem_keys]; exact hu, .inl ?_⟩
        refine hf.other e c ?_
        rintro ⟨-, rfl⟩
        exact hc hb
      | other hkeys hsame _ =>
        exact ⟨by rw [AList.mem_keys, hkeys, ← AList.mem_keys]; exact hu, .inl (hsame e c)⟩
    refine ⟨hstep.1, ?_⟩
    rcases hstep.2 with heq | hnone
    · rw [heq]
      exact hbase
    · exact .inr hnone

lemma Changes.kept_get {T : Type} [CompType F T] {x : T} (h : Changes w w')
    (hc : ¬ Managed (CompType.tag F T)) (hx : w.getComponent T e = some x) :
    w'.getComponent T e = some x ∨ w'.getComponent T e = none := by
  have he : e ∈ w.entities := by
    by_contra hno
    rw [getComponent, getBase, AList.lookup_eq_none.mpr hno] at hx
    cases hx
  obtain ⟨-, hbase | hnone⟩ := h.kept hc he
  · left
    rw [getComponent, hbase]
    exact hx
  · right
    rw [getComponent, hnone]
    rfl

end Ecs

namespace World

section Sections

variable {F : Type} [Field F] [LinearOrder F] {w w' : World F}

/-! ### The sections -/

lemma clientLeave_changes {c : ClientID} : Post (w.clientLeave c)
    (fun w' => Changes w.ecs w'.ecs) fun _ => True := by
  cases h : w.clientLeave c with
  | error f => trivial
  | ok w' =>
    obtain ⟨-, e, -, heq | hstrips⟩ := clientLeave_ok h
    · rw [Post.post_ok, heq]
    · exact .single (.strip e hstrips)

omit [LinearOrder F] in
lemma addEntityFile_changes {w : Ecs F} (hw : Consistent w) (u : Uninitialised) (name : String)
    (file : EntityFile) :
    Post (addEntityFile u name file w) (fun r => Changes w r.1) fun _ => True := by
  rcases addEntityFile_cases hw u name file with herr | ⟨w', e, hw', hcase⟩
  · rw [herr]
    trivial
  · rw [hw']
    rcases hcase with rfl | rfl | ⟨mask, hloads⟩
    · exact .refl
    · have hfills := setType_fills (-1) name w
      exact .single (.other hfills.keys (getBase_setType (-1) name w) hfills.consistent)
    · have habsent : Unstarted e w := fun d hd => absurd (Dict.mem_of_lookup hd) hloads.fresh
      exact .single (.load mask e hloads ((addEntityFile_unstarted habsent u name file).ok hw'))

omit [LinearOrder F] in
lemma placePlayer_changes (env : Env F) (cid : ClientID) (eid : EntityId) (name : String) :
    Post (w.placePlayer env cid eid name) (fun w' => Changes w.ecs w'.ecs) fun _ => True := by
  rcases placePlayer_cases env cid eid name w with ⟨-, h⟩ | ⟨pos, -, ⟨-, h⟩ | ⟨n, -, h⟩⟩
  · rw [h]
    exact .refl
  · rw [h]
    trivial
  · rw [h]
    exact (changes_set eid _ w.ecs (.inl rfl)).trans (changes_set eid _ _ (.inr (.inr rfl)))

omit [LinearOrder F] in
lemma enterPlayer_changes (hw : Consistent w.ecs) (env : Env F) (cid : ClientID) (name : String) :
    Post (w.enterPlayer env cid name) (fun w' => Changes w.ecs w'.ecs) fun _ => True := by
  unfold enterPlayer
  refine (addEntityFile_changes hw env.uninitialised "Player" (env.files "Player")).bind ?_
  rintro ⟨ecs, eid⟩ hchanges
  dsimp only at hchanges ⊢
  refine Post.ite (fun _ => hchanges) fun _ => ?_
  rcases registerClientID_cases (hchanges.consistent hw) eid cid with ⟨-, hr⟩ | ⟨-, hr⟩
  · rw [hr]
    exact (placePlayer_changes (w := { w with ecs := ecs }) env cid eid name).imp
      fun w' h => hchanges.trans h
  · rw [hr]
    refine (placePlayer_changes (w := { w with ecs := ecs.setComponent eid (C_Client.mk cid) })
      env cid eid name).imp fun w' h => ?_
    exact (hchanges.trans (changes_set eid _ ecs (.inr (.inl rfl)))).trans h

omit [LinearOrder F] in
lemma connect_changes (hw : Consistent w.ecs) (env : Env F) (ip : IpAddress) (port : PortNumber)
    (data : List UInt8) :
    Post (w.connect env ip port data) (fun w' => Changes w.ecs w'.ecs) fun _ => True := by
  unfold connect
  cases Packet.getString data with
  | none => exact .refl
  | some r =>
    obtain ⟨name, rest⟩ := r
    dsimp only
    refine Post.ite (fun _ => ?_) fun _ => ?_
    · cases (w.server.addClient .UDP ip port).1.sendTo env.transport ip port
        Server.disconnectPacket with
      | none => trivial
      | some r => exact .refl
    · exact enterPlayer_changes (w := { w with server := (w.server.addClient .UDP ip port).1 })
        hw env _ name

lemma handleFrom_changes (hw : Consistent w.ecs) (env : Env F) (cid : ClientID) (ip : IpAddress)
    (port : PortNumber) (l_id : ℤ) (data : List UInt8) :
    Post (w.handleFrom env cid ip port l_id data) (fun w' => Changes w.ecs w'.ecs)
      fun _ => True := by
  unfold handleFrom
  refine Post.ite (fun _ => ?_) fun _ => ?_
  · refine Post.ite (fun _ => clientLeave_changes) fun _ => ?_
    refine Post.ite (fun _ => .refl) fun _ => ?_
    refine Post.ite (fun _ => ?_) fun _ => .refl
    obtain ⟨ecs, hecs, hent, hmem, -⟩ := (updatePlayer_post hw env.unset data cid).exists_ok
    rw [hecs]
    refine .single (.other (by rw [hent]) (fun e c => ?_) fun h => h.congr hent hmem)
    rw [getBase, getBase, hent]
  · exact Post.ite (fun _ => .refl) fun _ => connect_changes hw env ip port data

lemma arrive_changes (hw : Consistent w.ecs) (env : Env F) (ip : IpAddress) (port : PortNumber)
    (p : Packet) (heartbeat : Server → Server) :
    Post (w.arrive env ip port p heartbeat) (fun w' => Changes w.ecs w'.ecs) fun _ => True := by
  unfold arrive
  cases Packet.getInt8 p.data with
  | none => exact .refl
  | some r =>
    obtain ⟨type, rest⟩ := r
    dsimp only
    refine Post.ite (fun _ => .refl) fun _ => Post.ite (fun _ => .refl) fun _ => ?_
    exact handleFrom_changes hw env _ ip port type rest

lemma tcpReceive_changes {acc : World F × List ClientID} (hw : Consistent acc.1.ecs) (env : Env F)
    (recv : ClientID → Option Server.Received) (id : ClientID) :
    Post (tcpReceive env recv acc id) (fun r => Changes acc.1.ecs r.1.ecs) fun _ => True := by
  unfold tcpReceive
  cases recv id with
  | none => exact .refl
  | some r =>
    cases acc.1.server.clientMap.lookup id with
    | none => exact .refl
    | some info =>
      cases r with
      | packet p =>
        exact (arrive_changes (w := acc.1.counted p) hw env info.clientIP info.clientPORT p
          (Server.heartbeatReply id)).bind fun w' h => h
      | disconnected => exact .refl
      | error => exact .refl

lemma tcpReady_changes (hw : Consistent w.ecs) (env : Env F)
    (recv : ClientID → Option Server.Received) :
    Post (w.tcpReady env recv) (fun w' => Changes w.ecs w'.ecs) fun _ => True := by
  unfold tcpReady
  refine Post.bind (Q := fun r : World F × List ClientID => Changes w.ecs r.1.ecs) ?_
    fun acc hacc => hacc
  refine Post.foldlM (fun acc id _ hacc => ?_) .refl
  exact (tcpReceive_changes (hacc.consistent hw) env recv id).imp fun r hr => hacc.trans hr

lemma sweep_changes (env : Env F) (w : World F) :
    Post (w.sweep env) (fun w' => Changes w.ecs w'.ecs) fun _ => True := by
  refine Post.foldlM (I := fun u : World F => Changes w.ecs u.ecs) (fun u id _ hu => ?_) .refl
  unfold updateClient
  cases u.server.clientMap.lookup id with
  | none => exact hu
  | some info =>
    refine Post.bind (Q := fun v : World F => Changes w.ecs v.ecs) ?_ fun v hv => hv
    exact Post.ite (fun _ => clientLeave_changes.imp fun v hv => hu.trans hv) fun _ => hu

omit [LinearOrder F] in
lemma loadEntity_changes (hw : Consistent w.ecs) (env : Env F) (name : String)
    (keystream : StringStream) :
    Post (w.loadEntity env name keystream) (fun w' => Changes w.ecs w'.ecs) fun _ => True := by
  unfold loadEntity
  refine (addEntityFile_changes hw env.uninitialised name (env.files name)).bind ?_
  rintro ⟨ecs, entityId⟩ hchanges
  dsimp only at hchanges ⊢
  refine Post.ite (fun _ => hchanges) fun _ => ?_
  cases ecs.getComponent (C_Position F) entityId with
  | none => exact hchanges
  | some position => exact hchanges.trans (changes_set entityId _ ecs (.inl rfl))

omit [Field F] [LinearOrder F] in
lemma setHealth_framed (id : EntityId) (health : ℤ) (w : World F) :
    Framed (At id .Health) w.ecs (w.setHealth id health).ecs := by
  unfold setHealth
  cases w.ecs.getComponent C_Health id with
  | none => exact framed_of_entities rfl rfl rfl
  | some h => exact (writes_set id _ w.ecs ⟨rfl, rfl⟩).effects.framed

end Sections

/-! ### One section -/

variable {F : Type} [Field F] [LinearOrder F] [FloorRing F] {w w' : World F}

lemma act_update_ok {S : Setting F} {env : Env F} {sys : System} {dT : F}
    (h : act S w (env, .update sys dT) = .ok w') :
    ∃ u, Sfrpg.update S dT sys w.ecs = .ok u ∧ w'.ecs = { u with broadcasts := [] } := by
  rw [act] at h
  cases hu : Sfrpg.update S dT sys w.ecs with
  | error f =>
    rw [hu] at h
    cases h
  | ok u =>
    rw [hu] at h
    cases h
    exact ⟨u, rfl, rfl⟩

/-- **What a section does to the entities**: such changes; or a system is updated, or the events
are handed out, and what is broadcast is sent; or the console sets the health of one of them, or
removes them all. -/
lemma act_cases (S : Setting F) (hw : Consistent w.ecs) {env : Env F} {i : Act F}
    (h : act S w (env, i) = .ok w') :
    Changes w.ecs w'.ecs ∨
    (∃ sys dT u, i = .update sys dT ∧ Sfrpg.update S dT sys w.ecs = .ok u ∧
      w'.ecs = { u with broadcasts := [] }) ∨
    (∃ systems keys u, i = .handleEvents systems keys ∧
      Sfrpg.handleEvents systems keys w.ecs = .ok u ∧ w'.ecs = { u with broadcasts := [] }) ∨
    (∃ id health, i = .setHealth id health ∧ w'.ecs = (w.setHealth id health).ecs) ∨
    (i = .purge ∧ w'.ecs = w.ecs.purge) := by
  cases i with
  | accept n ip port =>
    cases h
    exact .inl .refl
  | tcpReady recv => exact .inl ((tcpReady_changes hw env recv).ok h)
  | udpReceive ip port p =>
    exact .inl ((arrive_changes (w := w.counted p) hw env ip port p _).ok h)
  | handleFrom cid ip port l_id data =>
    exact .inl ((handleFrom_changes hw env cid ip port l_id data).ok h)
  | advance dt =>
    cases h
    exact .inl .refl
  | sweep => exact .inl ((sweep_changes env w).ok h)
  | broadcast p =>
    cases h
    exact .inl .refl
  | update sys dT =>
    obtain ⟨u, hu, heq⟩ := act_update_ok h
    exact .inr (.inl ⟨sys, dT, u, rfl, hu, heq⟩)
  | handleEvents systems keys =>
    rw [act] at h
    cases hu : Sfrpg.handleEvents systems keys w.ecs with
    | error f =>
      rw [hu] at h
      cases h
    | ok u =>
      rw [hu] at h
      cases h
      exact .inr (.inr (.inl ⟨systems, keys, u, rfl, hu, rfl⟩))
  | loadEntity name keystream => exact .inl ((loadEntity_changes hw env name keystream).ok h)
  | setHealth id health =>
    cases h
    exact .inr (.inr (.inr (.inl ⟨id, health, rfl, rfl⟩)))
  | clear =>
    cases h
    exact .inl .refl
  | purge =>
    cases h
    exact .inr (.inr (.inr (.inr ⟨rfl, rfl⟩)))

end World

end Sfrpg
