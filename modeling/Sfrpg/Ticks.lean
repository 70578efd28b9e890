import Mathlib.Data.Rat.Floor
import Sfrpg.Bodies

/-!
The updates in a consistent world, and every run of the machine.

Each system lists entities that have the components its update uses without a check, with one
exception: `S_Timers` lists whoever has a state and health, and for an attacking one it uses the
attack as well. The requirement for that is built in its constructor and not filed.

Packets find the entity of a client by a search that uses the client of every listed entity, and
each of them has one.
-/

namespace Sfrpg

open Lib Lib.Word Lib.Run Ecs

variable {F : Type} [Field F] [LinearOrder F] [FloorRing F] {w : Ecs F} {e : EntityId}

/-- What the updates may write. -/
def Played (_ : EntityId) (c : Component) : Prop :=
  c = .State ∨ c = .Health ∨ c = .Movable ∨ c = .Position ∨ c = .Attacker ∨ c = .Collidable

lemma struck_played {m : Message} : ∀ e c, Struck m e c → Played e c := by
  rintro e c (⟨-, h | h | h | h⟩ | ⟨-, h⟩) <;> simp [Played, h]

/-! ### The systems without timers -/

omit [Field F] [LinearOrder F] [FloorRing F] in
/-- A loop over the members of a system, where each pass finds a consistent world with the same
members. -/
lemma loop_post {sys : System} {f : Ecs F → EntityId → Outcome (Ecs F)} {E : Fault → Prop}
    {P : EntityId → Component → Prop} (hw : Consistent w)
    (hf : ∀ u e, Consistent u → e ∈ u.members sys → Post (f u e) (Effects P u) E) :
    Post ((w.members sys).foldlM f w) (Effects P w) E := by
  refine Post.foldlM (fun u e he hu => ?_) .refl
  refine (hf u e (hu.consistent hw) (by rw [hu.framed.members]; exact he)).imp fun v hv => ?_
  exact hu.trans hv

/-- What the players' inputs, and the states of those who walk, lead to. -/
def Guided (_ : EntityId) (c : Component) : Prop := c = .State ∨ c = .Position

lemma guided_played : ∀ e c, Guided e c → Played e c := by
  rintro e c (h | h) <;> simp [Played, h]

lemma requests_type {player : PlayerInput} {m : Message} (hm : m ∈ S_Network.requests e player) :
    m.type = .Move ∨ m.type = .Attack := by
  simp only [S_Network.requests, List.mem_append] at hm
  rcases hm with (hm | hm) | hm
  · split at hm
    · rw [List.mem_singleton.mp hm]
      exact .inl rfl
    · simp at hm
  · split at hm
    · rw [List.mem_singleton.mp hm]
      exact .inl rfl
    · simp at hm
  · split at hm
    · rw [List.mem_singleton.mp hm]
      exact .inr rfl
    · simp at hm

omit [FloorRing F] in
lemma network_update_post (hw : Consistent w) :
    Post (S_Network.update w) (Effects Guided w) (· = .uninitialised) := by
  refine loop_post hw fun u e hu _ => ?_
  unfold S_Network.updateOne
  cases hin : u.input.lookup e with
  | none => exact .single (.neutral e hin)
  | some player =>
    refine Post.foldlM (fun v m hm hv => ?_) .refl
    have hpeace : m.type ≠ .Being_Attacked := by
      rcases requests_type hm with h | h <;> rw [h] <;> decide
    exact (dispatch_peaceful_post (hv.consistent hu) hpeace).mono
      (fun v' hv' => hv.trans (hv'.1.mono fun _ _ h => h.2)) fun _ h => h.1

omit [FloorRing F] in
lemma state_update_post (hw : Consistent w) :
    Post (S_State.update w) (Effects Guided w) (· = .uninitialised) := by
  refine loop_post hw fun u e hu he => ?_
  obtain ⟨s, hs⟩ := hu.get (T := C_State) he .State rfl (by decide)
  rw [S_State.updateOne, hs, deref_some, ok_bind]
  refine Post.ite (fun _ => .refl) fun _ => ?_
  have hpeace : (Message.to .Is_Moving e).type ≠ .Being_Attacked := by
    show EntityMessage.Is_Moving ≠ .Being_Attacked
    decide
  exact (dispatch_peaceful_post hu hpeace).mono (fun v hv => hv.1.mono fun _ _ h => h.2)
    fun _ h => h.1

lemma movement_update_post (S : Setting F) (dT : F) (hw : Consistent w) :
    Post (S_Movement.update S dT w) (Effects (fun _ c => c = .Movable ∨ c = .Position) w)
      fun _ => False := by
  refine loop_post hw fun u e hu he => ?_
  obtain ⟨mov, hmov⟩ := hu.get (T := C_Movable F) he .Movable rfl (by decide)
  obtain ⟨pos, hpos⟩ := hu.get (T := C_Position F) he .Position rfl (by decide)
  rw [S_Movement.updateOne, hmov, hpos]
  simp only [deref_some, ok_bind]
  exact (writes_set e _ u (.inl rfl)).effects.trans (writes_set e _ _ (.inr rfl)).effects

omit [LinearOrder F] [FloorRing F] in
lemma combat_update_post (hw : Consistent w) :
    Post (S_Combat.update w) (Effects (fun _ c => c = .Attacker) w) fun _ => False := by
  refine loop_post hw fun u e hu he => ?_
  obtain ⟨mov, hmov⟩ := hu.get (T := C_Movable F) he .Movable rfl (by decide)
  obtain ⟨pos, hpos⟩ := hu.get (T := C_Position F) he .Position rfl (by decide)
  unfold S_Combat.updateOne
  cases u.getComponent (C_Attacker F) e with
  | none => exact .refl
  | some attacker =>
    simp only [hmov, hpos, deref_some, ok_bind]
    exact (writes_set e _ u rfl).effects

/-! ### Collisions -/

/-- What keeps an entity out of walls writes: where it is. -/
def Placed (_ : EntityId) (c : Component) : Prop := c = .Position ∨ c = .Collidable

lemma placed_played : ∀ e c, Placed e c → Played e c := by
  rintro e c (h | h) <;> simp [Played, h]

lemma collision_updateOne_post (S : Setting F) (hw : Consistent w)
    (he : e ∈ w.members .Collision) :
    Post (S_Collision.updateOne S w e) (Effects (fun x c => x = e ∧ Placed x c) w)
      fun _ => False := by
  obtain ⟨pos, hpos⟩ := hw.get (T := C_Position F) he .Position rfl (by decide)
  obtain ⟨col, hcol⟩ := hw.get (T := C_Collidable F) he .Collidable rfl (by decide)
  have hevents : ∀ (l : List EntityEvent) (u : Ecs F),
      Effects (fun x c => x = e ∧ Placed x c) w u →
      Effects (fun x c => x = e ∧ Placed x c) w
        (l.foldl (fun u event => u.addEvent e event.id) u) := by
    intro l u hu
    refine Dict.foldl_inv (I := Effects (fun x c => x = e ∧ Placed x c) w) (fun v event hv => ?_)
      l hu
    exact hv.tail (.event e event.id)
  rw [S_Collision.updateOne, hpos, hcol]
  simp only [deref_some, ok_bind]
  refine hevents _ _ ?_
  exact (writes_set e _ w ⟨rfl, .inl rfl⟩).effects.trans
    (writes_set e _ _ ⟨rfl, .inr rfl⟩).effects

lemma mem_pairs {l : List EntityId} {p : EntityId × EntityId} (hp : p ∈ S_Collision.pairs l) :
    p.1 ∈ l ∧ p.2 ∈ l := by
  induction l with
  | nil => simp [S_Collision.pairs] at hp
  | cons a l ih =>
    rw [S_Collision.pairs, List.mem_append, List.mem_map] at hp
    rcases hp with ⟨b, hb, rfl⟩ | hp
    · exact ⟨by simp, by simp [hb]⟩
    · obtain ⟨h1, h2⟩ := ih hp
      exact ⟨by simp [h1], by simp [h2]⟩

/-- What blows write: nobody's place. -/
def Fought (_ : EntityId) (c : Component) : Prop :=
  c = .State ∨ c = .Health ∨ c = .Movable ∨ c = .Attacker

lemma fought_played : ∀ e c, Fought e c → Played e c := by
  rintro e c (h | h | h | h) <;> simp [Played, h]

lemma beaten_fought {m : Message} : ∀ e c, Beaten m e c → Fought e c := by
  rintro e c (⟨-, h | h | h⟩ | ⟨-, h⟩) <;> simp [Fought, h]

omit [FloorRing F] in
lemma strike_post (hw : Consistent w) (a : EntityId) {v : EntityId}
    (hv : v ∈ w.members .Collision) :
    Post (S_Collision.strike dispatch a v w) (Effects Fought w) fun _ => False := by
  obtain ⟨col, hcol⟩ := hw.get (T := C_Collidable F) hv .Collidable rfl (by decide)
  rw [S_Collision.strike, hcol, deref_some, ok_bind]
  refine Post.ite (fun _ => ?_) fun _ => .refl
  exact (dispatch_attack_post hw rfl).imp fun u hu => hu.mono beaten_fought

omit [FloorRing F] in
lemma entityCollisions_post (hw : Consistent w) :
    Post (S_Collision.entityCollisions dispatch w) (Effects Fought w) fun _ => False := by
  refine Post.foldlM (fun u p hp hu => ?_) .refl
  obtain ⟨h1, h2⟩ := mem_pairs hp
  have hcu := hu.consistent hw
  have hmem : ∀ {v : Ecs F} {x}, Effects Fought w v → x ∈ w.members .Collision →
      x ∈ v.members .Collision := by
    intro v x hv hx
    rw [hv.framed.members]
    exact hx
  obtain ⟨col₁, hcol₁⟩ := hcu.get (T := C_Collidable F) (hmem hu h1) .Collidable rfl (by decide)
  obtain ⟨col₂, hcol₂⟩ := hcu.get (T := C_Collidable F) (hmem hu h2) .Collidable rfl (by decide)
  rw [S_Collision.collidePair, hcol₁, hcol₂]
  simp only [deref_some, ok_bind]
  refine (strike_post hcu p.1 (hmem hu h2)).bind fun v hv => ?_
  have hv' : Effects Fought w v := hu.trans hv
  exact (strike_post (hv'.consistent hw) p.2 (hmem hv' h1)).imp fun v' h' => hv'.trans h'

lemma collision_update_post (S : Setting F) (hw : Consistent w) :
    Post (S_Collision.update S w) (Effects Played w) fun _ => False := by
  unfold S_Collision.update
  refine Post.bind (Q := Effects Played w) ?_ fun u hu => ?_
  · refine loop_post hw fun u e hu he => (collision_updateOne_post S hu he).imp fun v hv => ?_
    exact hv.mono fun x c hx => placed_played x c hx.2
  · exact (entityCollisions_post (hu.consistent hw)).imp fun v hv =>
      hu.trans (hv.mono fought_played)

/-! ### Players -/

namespace Ecs

section Clients

variable {F : Type} {w : Ecs F} {e : EntityId} {c c' : ClientID}

/-- The entity `e` belongs to the client `c`. -/
def Bound (e : EntityId) (c : ClientID) (w : Ecs F) : Prop := w.getComponent C_Client e = some ⟨c⟩

lemma Bound.eq (h : Bound e c w) (h' : Bound e c' w) : c = c' := by
  rw [Bound, h] at h'
  cases h'
  rfl

lemma Consistent.mem_network (hw : Consistent w) :
    e ∈ w.members .Network ↔ ∃ client, w.getComponent C_Client e = some client := by
  constructor
  · intro he
    exact hw.get he .Client rfl (by decide)
  · rintro ⟨client, hc⟩
    have hsome : (w.getComponent C_Client e).isSome := by rw [hc]; rfl
    rw [isSome_getComponent, hw.isSome_getBase, hasComponent] at hsome
    cases hd : w.entities.lookup e with
    | none => rw [hd] at hsome; cases hsome
    | some d =>
      rw [hd] at hsome
      refine (hw.mem .Network e).mpr ⟨d, hd, ?_⟩
      refine (fitsRequirements_iff _ _).mpr ⟨_, List.mem_cons_self, fun q hq => ?_⟩
      -- the one bit the system requires
      have hbit : Component.Client.id = q := by
        rw [Bitmask.getBit_turnOnBit] at hq
        simp only [Bitmask.getBit_eq, Bitmask.empty, BitVec.ofNat_eq_ofNat, BitVec.getLsbD_zero,
          Bool.false_or, Bool.and_eq_true, decide_eq_true_eq] at hq
        exact hq.2
      exact hbit ▸ hsome

lemma Consistent.getClientID_iff (hw : Consistent w) (hc : c ≠ Network.NullID) :
    S_Network.getClientID e w = .ok c ↔ Bound e c w := by
  rw [S_Network.getClientID]
  by_cases hmem : w.hasEntity .Network e
  · obtain ⟨client, hclient⟩ := hw.mem_network.mp hmem
    rw [if_neg (not_not.mpr hmem), Bound, hclient, deref_some, ok_bind]
    constructor
    · intro h
      cases h
      rfl
    · intro h
      cases h
      rfl
  · rw [if_pos hmem]
    constructor
    · intro h
      cases h
      exact absurd rfl hc
    · intro h
      exact absurd (hw.mem_network.mpr ⟨_, h⟩) hmem

lemma findEntity_cases (hw : Consistent w) (c : ClientID) {l : List EntityId}
    (hl : ∀ e ∈ l, e ∈ w.members .Network) :
    (∃ e ∈ l, S_Network.findEntity c w l = .ok (some e) ∧ Bound e c w) ∨
    (S_Network.findEntity c w l = .ok none ∧ ∀ e ∈ l, ¬ Bound e c w) := by
  induction l with
  | nil => exact .inr ⟨rfl, by simp⟩
  | cons e l ih =>
    obtain ⟨client, hclient⟩ := hw.mem_network.mp (hl e (by simp))
    rw [S_Network.findEntity, hclient, deref_some, ok_bind]
    by_cases heq : client.clientID = c
    · rw [if_pos heq]
      exact .inl ⟨e, by simp, rfl, by rw [Bound, hclient, ← heq]⟩
    · rw [if_neg heq]
      rcases ih fun x hx => hl x (by simp [hx]) with ⟨x, hx, hfound, hb⟩ | ⟨hnone, hno⟩
      · exact .inl ⟨x, by simp [hx], hfound, hb⟩
      · refine .inr ⟨hnone, fun x hx hb => ?_⟩
        rcases List.mem_cons.mp hx with rfl | hx'
        · rw [Bound, hclient] at hb
          cases hb
          exact heq rfl
        · exact hno x hx' hb

lemma Consistent.getEntityId_cases (hw : Consistent w) (c : ClientID) :
    (∃ e, S_Network.getEntityId c w = .ok e ∧ Bound e c w) ∨
    (S_Network.getEntityId c w = .ok Network.NullID ∧ ∀ e, ¬ Bound e c w) := by
  rw [S_Network.getEntityId]
  rcases findEntity_cases hw c (l := w.members .Network) fun _ h => h with
    ⟨e, -, hfound, hb⟩ | ⟨hnone, hno⟩
  · rw [hfound]
    exact .inl ⟨e, rfl, hb⟩
  · rw [hnone]
    exact .inr ⟨rfl, fun e hb => hno e (hw.mem_network.mpr ⟨_, hb⟩) hb⟩

lemma Consistent.getEntityId_ok (hw : Consistent w) (c : ClientID) :
    ∃ e, S_Network.getEntityId c w = .ok e := by
  rcases hw.getEntityId_cases c with ⟨e, he, -⟩ | ⟨hnull, -⟩
  · exact ⟨e, he⟩
  · exact ⟨_, hnull⟩

end Clients

end Ecs

omit [FloorRing F] [LinearOrder F] [Field F] in
lemma updatePlayer_post (hw : Consistent w) (u : ℤ) (data : List UInt8) (client : ClientID) :
    Post (S_Network.updatePlayer u data client w) (fun v => v.entities = w.entities ∧
      v.members = w.members ∧ v.idCounter = w.idCounter) fun _ => False := by
  obtain ⟨e, he⟩ := hw.getEntityId_ok client
  rw [S_Network.updatePlayer, he, ok_bind]
  refine Post.ite (fun _ => ⟨rfl, rfl, rfl⟩) fun _ => ?_
  exact Post.ite (fun _ => ⟨rfl, rfl, rfl⟩) fun _ => ⟨rfl, rfl, rfl⟩

/-! ### The machine -/

/-- The update of the timers finds an entity that attacks with nothing. -/
def Disarmed (w : Ecs F) (i : Turn F) : Prop :=
  ∃ dT, i = .update .Timers dT ∧ ∃ e ∈ w.members .Timers, Unarmed w e

omit [FloorRing F] in
lemma handleEvents_ok (hw : Consistent w) (systems : List System) (keys : List EntityId) :
    Post (handleEvents systems keys w) (fun u => Drains w u) fun _ => False := by
  rw [handleEvents, ← forget_handleEvents]
  have h := handleEvents_post systems w.backlog keys hw fun x => queue_le_backlog x w
  refine (Trace.post_forget (Q := fun u _ => Drains w u) (h.imp fun p hp => hp.1)).imp ?_
  rintro u ⟨-, hu⟩
  exact hu

lemma update_post (S : Setting F) (hw : Consistent w) (sys : System) (dT : F)
    (hd : ¬ Disarmed w (.update sys dT)) :
    Post (update S dT sys w) (Effects Played w) (· = .uninitialised) := by
  cases sys with
  | Network => exact (network_update_post hw).imp fun u hu => hu.mono guided_played
  | Movement =>
    refine (movement_update_post S dT hw).mono (fun u hu => hu.mono ?_) fun _ h => h.elim
    rintro x c (h | h) <;> simp [Played, h]
  | Control => exact .refl
  | State => exact (state_update_post hw).imp fun u hu => hu.mono guided_played
  | Collision => exact (collision_update_post S hw).mono (fun _ h => h) fun _ h => h.elim
  | Combat =>
    refine (combat_update_post hw).mono (fun u hu => hu.mono ?_) fun _ h => h.elim
    rintro x c rfl
    simp [Played]
  | Timers =>
    obtain ⟨u, hu, heff, -⟩ := timers_update dT (hw.nodup .Timers) (fun _ => hw.timed)
      fun e he hun => hd ⟨dT, rfl, e, he, hun⟩
    rw [update, hu]
    refine heff.mono ?_
    rintro x c ⟨-, -, h | h | h | h⟩ <;> simp [Played, h]

omit [Field F] [LinearOrder F] [FloorRing F] in
lemma lookup_setType (e : EntityId) (type : String) (w : Ecs F) (x : EntityId) :
    (w.setType e type).entities.lookup x =
      (w.entities.lookup x).map fun d => if x = e then { d with type := type } else d := by
  by_cases hx : x = e
  · subst hx
    simp [setType]
  · rw [setType, Dict.lookup_modify_ne hx]
    simp [hx]

omit [Field F] [LinearOrder F] [FloorRing F] in
lemma consistent_setType (hw : Consistent w) (e : EntityId) (type : String) :
    Consistent (w.setType e type) where
  mem sys x := by
    rw [lookup_setType]
    refine (hw.mem sys x).trans ?_
    constructor
    · rintro ⟨d, hd, hfit⟩
      exact ⟨_, by rw [hd]; rfl, by split <;> exact hfit⟩
    · rintro ⟨d', hd', hfit⟩
      obtain ⟨d, hd, rfl⟩ := Option.map_eq_some_iff.mp hd'
      exact ⟨d, hd, by revert hfit; split <;> exact id⟩
  nodup := hw.nodup
  sound x d' hd' := by
    rw [lookup_setType] at hd'
    obtain ⟨d, hd, rfl⟩ := Option.map_eq_some_iff.mp hd'
    have hsound := hw.sound x d hd
    split <;> exact hsound

/-- **A step of the machine** out of a consistent world leads to one, or reads an unset variable,
unless the timers find an entity that attacks with nothing. -/
lemma turn_post (S : Setting F) (hw : Consistent w) (i : Turn F) (hd : ¬ Disarmed w i) :
    Post (turn S w i) Consistent (· = .uninitialised) := by
  cases i with
  | store call =>
    obtain ⟨u, hu, hc⟩ := consistent_step w call hw
    rw [turn, hu]
    exact hc
  | write e b =>
    exact (overwrite_framed (P := fun _ _ => True) b w trivial).consistent hw
  | setType e type => exact consistent_setType hw e type
  | message m => exact (dispatch_post hw m).imp fun u hu => hu.consistent hw
  | addEvent e event => exact hw.congr rfl rfl
  | updatePlayer u data client =>
    refine (updatePlayer_post hw u data client).mono ?_ fun _ h => h.elim
    rintro v ⟨hent, hmem, -⟩
    exact hw.congr hent hmem
  | update sys dT => exact (update_post S hw sys dT hd).imp fun u hu => hu.consistent hw
  | handleEvents systems keys =>
    exact (handleEvents_ok hw systems keys).mono (fun u hu => hu.framed.consistent hw)
      fun _ h => h.elim

lemma turn_disarmed (S : Setting F) (hw : Consistent w) {i : Turn F} (hd : Disarmed w i) :
    turn S w i = .error .nullDeref := by
  obtain ⟨dT, rfl, e, he, hun⟩ := hd
  exact timers_update_unarmed dT hw he hun

lemma consistent_turn (S : Setting F) {i : Turn F} {u : Ecs F} (hw : Consistent w)
    (h : turn S w i = .ok u) : Consistent u := by
  by_cases hd : Disarmed w i
  · rw [turn_disarmed S hw hd] at h
    cases h
  · exact (turn_post S hw i hd).ok h

lemma consistent_reached {S : Setting F} {turns : List (Turn F)}
    (h : runE (turn S) (new F) turns = .ok w) : Consistent w :=
  runE_inv (P := fun _ => True) (fun _ _ _ hu _ hv => consistent_turn S hu hv) consistent_new
    (fun _ _ => trivial) h

/-! ### What holds of every run -/

/-- **Null pointers.** A run dereferences a null pointer exactly when one of its steps is an update
of the timers that finds an entity attacking without a component to attack with. In every other
update, event and message, the pointers used without a check are there. -/
theorem null_dereferenced_iff (S : Setting F) (turns : List (Turn F)) :
    runE (turn S) (new F) turns ≠ .error .nullDeref ↔
      AlongE (turn S) (fun w i => ¬ Disarmed w i) (new F) turns := by
  refine runE_error_iff (fun _ _ _ => consistent_turn S) (fun w i hw => ?_) consistent_new
  rw [not_not]
  constructor
  · intro herr
    by_contra hd
    exact absurd ((turn_post S hw i hd).error herr) (by decide)
  · exact turn_disarmed S hw

/-- An entity with a state and health, and nothing else, is told to attack. The next update of the
timers takes its attack for granted. -/
theorem timers_without_attacker :
    runE (turn (Setting.empty ℚ)) (new ℚ)
      [.store (.addEntity ⟨.Idle, 1, 1, false⟩
        ((Bitmask.empty.turnOnBit Component.State.id).turnOnBit Component.Health.id) (-1)),
        .message (.to .Attack 0), .update .Timers 16] = .error .nullDeref := by
  rfl

/-- **Every event, once, in order.** In every reachable world, whatever order the systems and the
queues are gone through in: as many passes as the longest queue has events are enough, more change
nothing, and all queues are empty afterwards; each system has received for each entity it holds the
events that were queued, in their order, and nothing for another; and no handler called on the way
has touched a queue. -/
theorem events_handed_out (S : Setting F) (turns : List (Turn F)) (w : Ecs F)
    (hw : runE (turn S) (new F) turns = .ok w) (systems : List System) (hs : systems.Nodup)
    (hall : ∀ sys, sys ∈ systems) (keys : List EntityId) (hk : keys.Nodup)
    (hkeys : ∀ e, e ∈ keys ↔ e ∈ w.events) :
    ∃ u log, handleEvents systems keys w = .ok u ∧
      (∀ n, w.backlog ≤ n → handleEventsN n systems keys w = .ok u) ∧
      handleEventsTraced w.backlog systems keys w = .ok (u, log) ∧
      (∀ e, queue e u = []) ∧
      (∀ sys e, received sys e log = if w.hasEntity sys e then queue e w else []) ∧
      ∀ d ∈ log, d.after.events = d.before.events := by
  have hc := consistent_reached hw
  have hempty : ∀ e, e ∉ keys → queue e w = [] := by
    intro e he
    rw [hkeys] at he
    rw [queue, AList.lookup_eq_none.mpr he]
    rfl
  obtain ⟨⟨u, log⟩, hp, -, hq, hlog, hquiet⟩ := (handleEvents_post systems w.backlog keys hc
    fun x => queue_le_backlog x w).exists_ok
  have hu : handleEvents systems keys w = .ok u := by
    rw [handleEvents, ← forget_handleEvents, hp, Trace.forget_ok]
  refine ⟨u, log, hu, fun n hn => ?_, hp, fun e => ?_, fun sys e => ?_, hquiet⟩
  · rw [← forget_handleEvents, handleEvents_fuel systems hn keys hc fun x => queue_le_backlog x w,
      hp, Trace.forget_ok]
  · rw [hq e]
    by_cases he : e ∈ keys
    · rw [if_pos he]
    · rw [if_neg he, hempty e he]
  · rw [received_schedule hs hk (hlog hk) sys e]
    by_cases he : e ∈ keys
    · simp [he, hall]
    · simp [he, hempty e he]

/-- A dying entity that could walk, alone in a fresh store. -/
def fallenWalker : Ecs ℚ :=
  ((new ℚ).addEntity ⟨.Dying, 0, 1, false⟩ (((Bitmask.empty.turnOnBit
    Component.State.id).turnOnBit Component.Movable.id).turnOnBit Component.Position.id) (-1)).1

lemma fallenWalker_reached :
    runE (turn (Setting.empty ℚ)) (new ℚ) [.store (.addEntity ⟨.Dying, 0, 1, false⟩
      (((Bitmask.empty.turnOnBit Component.State.id).turnOnBit Component.Movable.id).turnOnBit
        Component.Position.id) (-1))] = .ok fallenWalker := by
  rfl

/-- Its first event is handed to the systems that hold it. -/
theorem events_handed_out_spawned :
    ∃ u log, handleEventsTraced fallenWalker.backlog [.Timers, .Combat, .Collision, .State,
        .Control, .Movement, .Network] [0] fallenWalker = .ok (u, log) ∧
      received .State 0 log = [EntityEvent.Spawned.id] ∧ received .Timers 0 log = [] := by
  have hall : ∀ sys : System, sys ∈ [System.Timers, .Combat, .Collision, .State, .Control,
      .Movement, .Network] := by
    intro sys
    cases sys <;> decide
  have hkeys : fallenWalker.events.keys = [0] := by decide +kernel
  obtain ⟨u, log, -, -, hlog, -, hrec, -⟩ := events_handed_out (Setting.empty ℚ) _ fallenWalker
    fallenWalker_reached [.Timers, .Combat, .Collision, .State, .Control, .Movement, .Network]
    (by decide) hall [0] (by decide) (fun e => by rw [AList.mem_keys, hkeys])
  refine ⟨u, log, hlog, ?_, ?_⟩
  · rw [hrec]
    decide +kernel
  · rw [hrec]
    decide +kernel

/-- **Dispatches end.** In every reachable world a message is handled with three dispatches under
way at the most. A change of state takes place unless the entity is dying and not forced, leaves
the states of all others alone, and goes through the bus once: the handler that hears of it changes
the state to what it is already, and dispatches nothing. -/
theorem dispatches_end (S : Setting F) (turns : List (Turn F)) (w : Ecs F)
    (hw : runE (turn S) (new F) turns = .ok w) :
    (∀ m, dispatch m w ≠ .error .outOfFuel ∧ ∀ n, 3 ≤ n → dispatchN n m w = dispatch m w) ∧
    ∀ e s, w.getComponent C_State e = some s → ∀ st force,
      ∃ u, S_State.changeState dispatch e st force w = .ok u ∧
        S_State.changeState (dispatchN 1) e st force w = .ok u ∧
        u.getComponent C_State e = some (if force = true ∨ s.state ≠ .Dying ∨ s.state = st then ⟨st⟩
          else s) ∧
        ∀ e', e' ≠ e → u.getComponent C_State e' = w.getComponent C_State e' := by
  have hc := consistent_reached hw
  refine ⟨fun m => ⟨fun herr => ?_, fun n hn => ?_⟩, fun e s hs st force => ?_⟩
  · exact absurd ((dispatch_post hc m).error herr) (by decide)
  · obtain ⟨k, rfl⟩ := Nat.exists_eq_add_of_le' hn
    rw [dispatchN_depth k, dispatch, dispatchN_depth 1]
  · refine ⟨_, changeState_eq 3 st force hs, changeState_eq 0 st force hs, ?_, fun e' hne => ?_⟩
    · by_cases hstay : st = s.state ∨ (force = false ∧ s.state = .Dying)
      · rw [if_pos hstay, hs]
        rcases hstay with rfl | ⟨rfl, hd⟩
        · simp
        · by_cases heq : s.state = st
          · rw [if_pos (.inr (.inr heq)), ← heq]
          · rw [if_neg (by simp [hd, hd ▸ heq])]
      · rw [if_neg hstay, if_pos (by rw [not_or, not_and] at hstay; cases force <;> simp_all),
          getComponent_setComponent, hs]
        rfl
    · split
      · rfl
      · rw [getComponent, getComponent, getBase, getBase, lookup_setComponent_ne hne]

/-- The dying entity is not made idle. -/
theorem dispatches_end_dying :
    ∃ u, S_State.changeState dispatch 0 .Idle false fallenWalker = .ok u ∧
      u.getComponent C_State 0 = some ⟨.Dying⟩ := by
  obtain ⟨-, h⟩ := dispatches_end (Setting.empty ℚ) _ fallenWalker fallenWalker_reached
  obtain ⟨u, hu, -, hs, -⟩ := h 0 ⟨.Dying⟩ rfl .Idle false
  exact ⟨u, hu, hs⟩

end Sfrpg
