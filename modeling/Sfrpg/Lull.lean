import Mathlib.Algebra.BigOperators.Group.List.Basic
import Mathlib.Algebra.Order.BigOperators.Group.List
import Mathlib.Algebra.Order.Group.Nat
import Sfrpg.Discreet
import Sfrpg.Steering
import Sfrpg.Swings

/-!
What a tick does while nobody plays.

No input asks for anything, and what waits in the queues pushes nobody. Then no system adds an event
that does, nobody begins to walk or to attack, and apart from the step of `S_Movement` itself the
motion of an entity changes by a blow only. Blows run out: each takes a swing from its sender, who
has no more of them than his attack, if that has not struck, and the attack he is at.
-/

namespace Sfrpg

open Lib Lib.Word Lib.Run Life Ecs

variable {F : Type} {w u v : Ecs F} {e : EntityId}

/-! ### What is counted -/

/-- An event that pushes nobody. -/
def Pushless (event : EventID) : Prop :=
  (⟨event⟩ : EntityEvent) ∉ [EntityEvent.Moving_Left, .Moving_Right, .Moving_Up, .Moving_Down]

instance (event : EventID) : Decidable (Pushless event) := inferInstanceAs (Decidable (¬ _))

instance : DecidableEq C_State := fun s s' =>
  decidable_of_iff (s.state = s'.state) C_State.ext_iff.symm

/-- The blows an entity has left: one it may strike now, and one after the attack it is at. -/
def swings (e : EntityId) (w : Ecs F) : ℕ :=
  (if hasAttacked e w = some false then 1 else 0) +
    if w.getComponent C_State e = some ⟨.Attacking⟩ then 1 else 0

def swingsLeft (w : Ecs F) : ℕ := ((w.members .Combat).map fun e => swings e w).sum

/-- Nobody plays. -/
structure Unattended (w : Ecs F) : Prop where
  consistent : Consistent w
  unasked : ∀ e p, w.input.lookup e = some p → p = ⟨0, 0, false⟩
  pushless : ∀ e, ∀ x ∈ queue e w, Pushless x
  armed : ∀ e ∈ w.members .Timers, ¬ Unarmed w e

/-- Everybody can become as fast as before. -/
def SameBuild (w u : Ecs F) : Prop := ∀ e mov', u.getComponent (C_Movable F) e = some mov' →
  ∃ mov, w.getComponent (C_Movable F) e = some mov ∧ mov'.velocityMax = mov.velocityMax ∧
    mov'.speed = mov.speed

lemma sameBuild_of_eq (h : ∀ e, u.getComponent (C_Movable F) e = w.getComponent (C_Movable F) e) :
    SameBuild w u := fun e mov' hmov' => ⟨mov', (h e).symm.trans hmov', rfl, rfl⟩

/-- What a system does while nobody plays. -/
structure Lull (w u : Ecs F) : Prop where
  framed : Framed Played w u
  input : ∀ e p, u.input.lookup e = some p → w.input.lookup e = some p ∨ p = ⟨0, 0, false⟩
  queued : ∀ e, ∀ x ∈ queue e u, x ∈ queue e w ∨ Pushless x
  waits : ∀ e, ∀ x ∈ queue e w, x ∈ queue e u
  state : ∀ e s', u.getComponent C_State e = some s' → ∃ s, w.getComponent C_State e = some s ∧
    (s' = s ∨ (s'.state ≠ .Walking ∧ s'.state ≠ .Attacking))
  swing : ∀ e, hasAttacked e u = some false →
    hasAttacked e w = some false ∨
      (w.getComponent C_State e = some ⟨.Attacking⟩ ∧ u.getComponent C_State e ≠ some ⟨.Attacking⟩)
  build : SameBuild w u

/-- Nothing moves in another way than before, unless a blow was struck. -/
def Unpushed (w u : Ecs F) : Prop :=
  swingsLeft u = swingsLeft w →
    ∀ e, u.getComponent (C_Movable F) e = w.getComponent (C_Movable F) e

namespace Lull

lemma refl (w : Ecs F) : Lull w w where
  framed := framed_of_entities rfl rfl rfl
  input _ _ h := .inl h
  queued _ _ h := .inl h
  waits _ _ h := h
  state _ s h := ⟨s, h, .inl rfl⟩
  swing _ h := .inl h
  build := sameBuild_of_eq fun _ => rfl

lemma attacking (h : Lull w u) (ha : u.getComponent C_State e = some ⟨.Attacking⟩) :
    w.getComponent C_State e = some ⟨.Attacking⟩ := by
  obtain ⟨s, hs, heq | ⟨-, hne⟩⟩ := h.state e _ ha
  · rwa [← heq] at hs
  · exact absurd rfl hne

lemma walking (h : Lull w u) (ha : u.getComponent C_State e = some ⟨.Walking⟩) :
    w.getComponent C_State e = some ⟨.Walking⟩ := by
  obtain ⟨s, hs, heq | ⟨hne, -⟩⟩ := h.state e _ ha
  · rwa [← heq] at hs
  · exact absurd rfl hne

lemma trans (h : Lull w u) (h' : Lull u v) : Lull w v where
  framed := h.framed.trans h'.framed
  input e p hp := (h'.input e p hp).elim (h.input e p) .inr
  queued e x hx := (h'.queued e x hx).elim (h.queued e x) .inr
  waits e x hx := h'.waits e x (h.waits e x hx)
  state e s'' hs'' := by
    obtain ⟨s', hs', hgoes'⟩ := h'.state e s'' hs''
    obtain ⟨s, hs, hgoes⟩ := h.state e s' hs'
    refine ⟨s, hs, ?_⟩
    rcases hgoes' with rfl | hgoes'
    · exact hgoes
    · exact .inr hgoes'
  swing e hv := by
    rcases h'.swing e hv with hu | ⟨hu, hno⟩
    · rcases h.swing e hu with hw | ⟨hw, hno⟩
      · exact .inl hw
      · exact .inr ⟨hw, fun hatt => hno (h'.attacking hatt)⟩
    · exact .inr ⟨h.attacking hu, hno⟩
  build e mov'' hmov'' := by
    obtain ⟨mov', hmov', hmax', hspeed'⟩ := h'.build e mov'' hmov''
    obtain ⟨mov, hmov, hmax, hspeed⟩ := h.build e mov' hmov'
    exact ⟨mov, hmov, hmax'.trans hmax, hspeed'.trans hspeed⟩

lemma swings_le (h : Lull w u) (e : EntityId) : swings e u ≤ swings e w := by
  have hatt : u.getComponent C_State e = some ⟨.Attacking⟩ →
      w.getComponent C_State e = some ⟨.Attacking⟩ := h.attacking
  unfold swings
  by_cases hu : hasAttacked e u = some false
  · rcases h.swing e hu with hw | ⟨hw, hno⟩
    · rw [if_pos hu, if_pos hw]
      split_ifs <;> first | omega | tauto
    · rw [if_pos hu, if_neg hno, if_pos hw]
      exact Nat.le_add_left 1 _
  · rw [if_neg hu]
    split_ifs <;> first | omega | tauto

lemma swingsLeft_le (h : Lull w u) : swingsLeft u ≤ swingsLeft w := by
  rw [swingsLeft, swingsLeft, h.framed.members]
  exact List.sum_le_sum fun e _ => h.swings_le e

lemma unattended (h : Lull w u) (hw : Unattended w) : Unattended u where
  consistent := h.framed.consistent hw.consistent
  unasked e p hp := (h.input e p hp).elim (hw.unasked e p) id
  pushless e x hx := (h.queued e x hx).elim (hw.pushless e x) id
  armed e he hun := by
    rw [h.framed.members] at he
    refine hw.armed e he ⟨h.attacking hun.1, ?_⟩
    have hnone := h.framed.isSome_get (T := C_Attacker F) e
    rw [hun.2] at hnone
    exact Option.isNone_iff_eq_none.mp (by simpa using hnone.symm)

/-- Where an entity is, and how well. -/
def Beside (c : Component) : Prop := c = .Position ∨ c = .Collidable ∨ c = .Health

lemma not_beside_state : ¬ Beside .State := by unfold Beside; decide
lemma not_beside_attacker : ¬ Beside .Attacker := by unfold Beside; decide
lemma not_beside_movable : ¬ Beside .Movable := by unfold Beside; decide

lemma of_framed {P : EntityId → Component → Prop} (h : Effects P w u)
    (hP : ∀ e c, P e c → Beside c)
    (hqueued : ∀ e, ∀ x ∈ queue e u, x ∈ queue e w ∨ Pushless x)
    (hwaits : ∀ e, ∀ x ∈ queue e w, x ∈ queue e u) : Lull w u where
  framed := (h.mono fun e c hc => by rcases hP e c hc with h | h | h <;> simp [Played, h]).framed
  input _ _ hp := h.input hp
  queued := hqueued
  waits := hwaits
  state e s' hs' := by
    rw [h.framed.get (T := C_State) fun hc => not_beside_state (hP e _ hc)] at hs'
    exact ⟨s', hs', .inl rfl⟩
  swing e hu := by
    rw [hasAttacked_of_framed h.framed fun hc => not_beside_attacker (hP e _ hc)] at hu
    exact .inl hu
  build := sameBuild_of_eq fun e =>
    h.framed.get (T := C_Movable F) fun hc => not_beside_movable (hP e _ hc)

end Lull

/-- A lull in which nothing moves by itself. -/
structure Restful (w u : Ecs F) : Prop where
  lull : Lull w u
  unpushed : Unpushed w u

lemma Restful.trans (h : Restful w u) (h' : Restful u v) : Restful w v where
  lull := h.lull.trans h'.lull
  unpushed heq e := by
    have hle := h.lull.swingsLeft_le
    have hle' := h'.lull.swingsLeft_le
    rw [h'.unpushed (by omega) e, h.unpushed (by omega) e]

lemma Restful.refl (w : Ecs F) : Restful w w := ⟨.refl w, fun _ _ => rfl⟩

/-! ### Queues -/

lemma mem_queue_addEvent {x : EventID} {a : EntityId} {event : EventID} :
    x ∈ queue e (w.addEvent a event) ↔ x ∈ queue e w ∨ (e = a ∧ x = event) := by
  rw [queue, queue, addEvent]
  by_cases h : e = a
  · subst h
    rw [AList.lookup_insert, Option.getD_some, List.mem_append, List.mem_singleton]
    simp
  · rw [AList.lookup_insert_ne h]
    simp [h]

/-- Only events have been added, and harmless ones. -/
structure Noted (w u : Ecs F) : Prop where
  same : u = { w with events := u.events }
  queued : ∀ e, ∀ x ∈ queue e u, x ∈ queue e w ∨ Pushless x
  waits : ∀ e, ∀ x ∈ queue e w, x ∈ queue e u

lemma Noted.refl (w : Ecs F) : Noted w w := ⟨rfl, fun _ _ hx => .inl hx, fun _ _ hx => hx⟩

lemma Noted.trans (h : Noted w u) (h' : Noted u v) : Noted w v where
  same := h'.same.trans (congrArg (fun t : Ecs F => { t with events := v.events }) h.same)
  queued e x hx := (h'.queued e x hx).elim (h.queued e x) .inr
  waits e x hx := h'.waits e x (h.waits e x hx)

lemma noted_addEvent (a : EntityId) {event : EventID} (h : Pushless event) (w : Ecs F) :
    Noted w (w.addEvent a event) where
  same := rfl
  queued e x hx := (mem_queue_addEvent.mp hx).imp_right fun heq => by rw [heq.2]; exact h
  waits e x hx := mem_queue_addEvent.mpr (.inl hx)

lemma noted_addEvents (events : List EntityEvent) (h : ∀ event ∈ events, Pushless event.id)
    (a : EntityId) (w : Ecs F) :
    Noted w (events.foldl (fun v event => v.addEvent a event.id) w) := by
  induction events generalizing w with
  | nil => exact .refl w
  | cons event events ih =>
    obtain ⟨hevent, h⟩ := List.forall_mem_cons.mp h
    exact (noted_addEvent a hevent w).trans (ih h _)

lemma queue_of_events (h : u.events = w.events) (e : EntityId) : queue e u = queue e w := by
  rw [queue, queue, h]

lemma Lull.of_entities (hentities : u.entities = w.entities) (hmembers : u.members = w.members)
    (hid : u.idCounter = w.idCounter)
    (hinput : ∀ e p, u.input.lookup e = some p → w.input.lookup e = some p ∨ p = ⟨0, 0, false⟩)
    (hqueued : ∀ e, ∀ x ∈ queue e u, x ∈ queue e w ∨ Pushless x)
    (hwaits : ∀ e, ∀ x ∈ queue e w, x ∈ queue e u) : Lull w u := by
  have hget : ∀ {T : Type} [CompType F T] (e : EntityId),
      u.getComponent T e = w.getComponent T e := by
    intro T _ e
    rw [getComponent, getComponent, getBase, getBase, hentities]
  refine ⟨framed_of_entities hid hmembers hentities, hinput, hqueued, hwaits, ?_, ?_,
    sameBuild_of_eq hget⟩
  · intro e s' hs'
    exact ⟨s', (hget e).symm.trans hs', .inl rfl⟩
  · intro e hu
    rw [hasAttacked, hget] at hu
    exact .inl hu

lemma Noted.lull (h : Noted w u) : Lull w u := by
  have hinput : u.input = w.input := by rw [h.same]
  refine .of_entities (by rw [h.same]) (by rw [h.same]) (by rw [h.same]) (fun e p hp => .inl ?_)
    h.queued h.waits
  rwa [← hinput]

lemma Noted.restful (h : Noted w u) : Restful w u := by
  refine ⟨h.lull, fun _ e => ?_⟩
  rw [h.same]
  rfl

/-! ### The systems that listen -/

variable [Field F] [LinearOrder F]

lemma network_restful (hw : Unattended w) :
    ∃ u, S_Network.update w = .ok u ∧ Restful w u := by
  have hpost : Post (S_Network.update w) (fun u => ∃ i, u = { w with input := i } ∧
      ∀ e p, i.lookup e = some p → p = ⟨0, 0, false⟩) fun _ => False := by
    refine Post.foldlM (fun u e _ hu => ?_) ⟨w.input, rfl, hw.unasked⟩
    obtain ⟨i, rfl, hi⟩ := hu
    unfold S_Network.updateOne
    dsimp only
    cases hin : i.lookup e with
    | none =>
      refine ⟨i.insert e ⟨0, 0, false⟩, rfl, fun x p hp => ?_⟩
      by_cases hx : x = e
      · rw [hx, AList.lookup_insert] at hp
        exact (Option.some.inj hp).symm
      · rw [AList.lookup_insert_ne hx] at hp
        exact hi x p hp
    | some player =>
      rw [hi e player hin]
      exact ⟨i, rfl, hi⟩
  obtain ⟨u, hu, i, rfl, hi⟩ := hpost.exists_ok
  exact ⟨_, hu, .of_entities rfl rfl rfl (fun e p hp => .inr (hi e p hp)) (fun _ _ hx => .inl hx)
    fun _ _ hx => hx, fun _ _ => rfl⟩

/-- It walks, and has stopped. -/
def Arrived (w : Ecs F) (e : EntityId) : Prop :=
  w.getComponent C_State e = some ⟨.Walking⟩ ∧ e ∈ w.members .Movement ∧
    ∃ mov, w.getComponent (C_Movable F) e = some mov ∧ mov.velocity = 0

lemma state_updateOne_eq (hw : Consistent w) (he : e ∈ w.members .State) :
    (Arrived w e ∧ S_State.updateOne w e = .ok (w.addEvent e EntityEvent.Became_Idle.id)) ∨
      (¬ Arrived w e ∧ S_State.updateOne w e = .ok w) := by
  obtain ⟨s, hs⟩ := hw.get (T := C_State) he .State rfl (by decide)
  have hobs : observers .Is_Moving = [.Movement] := by decide
  have hasks : dispatch (.to .Is_Moving e) w = S_Movement.notify (.to .Is_Moving e) w :=
    dispatchN_single (m := .to .Is_Moving e) hobs
  rw [S_State.updateOne, hs, deref_some, ok_bind]
  by_cases hwalk : s.state = .Walking
  swap
  · refine .inr ⟨fun h => hwalk ?_, by rw [if_pos hwalk]; rfl⟩
    exact congrArg C_State.state (Option.some.inj (hs.symm.trans h.1))
  rw [if_neg (not_not.mpr hwalk), hasks, S_Movement.notify]
  simp only [Message.to, if_true]
  by_cases hmem : w.hasEntity .Movement e
  swap
  · exact .inr ⟨fun h => hmem h.2.1, by rw [if_pos hmem]; rfl⟩
  obtain ⟨mov, hmov⟩ := hw.get (T := C_Movable F) hmem .Movable rfl (by decide)
  rw [if_neg (not_not.mpr hmem), hmov, deref_some, ok_bind]
  by_cases hstop : mov.velocity = 0
  · refine .inl ⟨⟨by rw [hs, ← hwalk], hmem, mov, hmov, hstop⟩, ?_⟩
    rw [if_neg (not_not.mpr hstop)]
    rfl
  · refine .inr ⟨fun harr => hstop ?_, by rw [if_pos hstop]; rfl⟩
    obtain ⟨-, -, x, hx, hzero⟩ := harr
    rw [Option.some.inj (hmov.symm.trans hx), hzero]

omit [LinearOrder F] in
lemma Noted.arrived (h : Noted w u) (e : EntityId) : Arrived u e ↔ Arrived w e := by
  rw [h.same]
  exact Iff.rfl

lemma state_loop (hw : Consistent w) {l : List EntityId} (hl : ∀ e ∈ l, e ∈ w.members .State) :
    ∃ u, l.foldlM S_State.updateOne w = .ok u ∧ Noted w u ∧
      ∀ e ∈ l, Arrived w e → EntityEvent.Became_Idle.id ∈ queue e u := by
  induction l generalizing w with
  | nil => exact ⟨w, rfl, .refl w, by simp⟩
  | cons a l ih =>
    obtain ⟨ha, hl⟩ := List.forall_mem_cons.mp hl
    have hstep : ∃ v, S_State.updateOne w a = .ok v ∧ Noted w v ∧
        (Arrived w a → EntityEvent.Became_Idle.id ∈ queue a v) := by
      rcases state_updateOne_eq hw ha with ⟨-, heq⟩ | ⟨hno, heq⟩
      · exact ⟨_, heq, noted_addEvent a (by decide) w,
          fun _ => mem_queue_addEvent.mpr (.inr ⟨rfl, rfl⟩)⟩
      · exact ⟨w, heq, .refl w, fun h => absurd h hno⟩
    obtain ⟨v, hv, hnoted, hidle⟩ := hstep
    have hmembers : v.members = w.members := hnoted.lull.framed.members
    obtain ⟨u, hu, hnoted', hrest⟩ := ih (hnoted.lull.framed.consistent hw)
      fun e he => by rw [hmembers]; exact hl e he
    refine ⟨u, foldlM_cons_ok.mpr ⟨v, hv, hu⟩, hnoted.trans hnoted', fun e he harr => ?_⟩
    rcases List.mem_cons.mp he with rfl | he
    · exact hnoted'.waits e _ (hidle harr)
    · exact hrest e he ((hnoted.arrived e).mpr harr)

lemma state_restful (hw : Consistent w) :
    ∃ u, S_State.update w = .ok u ∧ Restful w u ∧
      ∀ e, Arrived w e → EntityEvent.Became_Idle.id ∈ queue e u := by
  obtain ⟨u, hu, hnoted, hidle⟩ := state_loop hw (l := w.members .State) fun _ he => he
  exact ⟨u, hu, hnoted.restful, fun e harr => hidle e (hw.mem_state harr.1) harr⟩

/-! ### The systems that time and place -/

omit [LinearOrder F] in
lemma combat_restful (hw : Consistent w) :
    ∃ u, S_Combat.update w = .ok u ∧ Restful w u := by
  have hsilent : Post (S_Combat.update w) (Silent w) fun _ => True := by
    refine Post.foldlM (fun u e _ hu => ?_) (.refl w)
    unfold S_Combat.updateOne
    cases u.getComponent (C_Attacker F) e with
    | none => exact hu
    | some a =>
      refine Post.bind (Q := fun _ => True) .any fun pos _ => ?_
      exact Post.bind (Q := fun _ => True) .any fun mov _ => hu
  obtain ⟨u, hu, heff⟩ := (combat_update_post hw).exists_ok
  have hevents := (hsilent.ok hu).2
  have hstate : ∀ e, u.getComponent C_State e = w.getComponent C_State e := fun e =>
    heff.framed.get (T := C_State) (show Component.State ≠ .Attacker by decide)
  have hmov : ∀ e, u.getComponent (C_Movable F) e = w.getComponent (C_Movable F) e := fun e =>
    heff.framed.get (T := C_Movable F) (show Component.Movable ≠ .Attacker by decide)
  refine ⟨u, hu, ⟨?_, fun _ _ hp => heff.input hp, ?_, ?_, ?_, ?_, sameBuild_of_eq hmov⟩,
    fun _ => hmov⟩
  · refine (heff.mono ?_).framed
    rintro e c rfl
    simp [Played]
  · intro e x hx
    rw [queue_of_events hevents] at hx
    exact .inl hx
  · intro e x hx
    rwa [queue_of_events hevents]
  · intro e s' hs'
    exact ⟨s', (hstate e).symm.trans hs', .inl rfl⟩
  · intro e hun
    rw [hasAttacked_eq, (combat_watch w e).ok hu, ← hasAttacked_eq] at hun
    exact .inl hun

variable [FloorRing F]

lemma timers_silent (dT : F) (w : Ecs F) :
    Post (S_Timers.update dT w) (Silent w) fun _ => True := by
  refine Post.foldlM (fun u e _ hu => ?_) (.refl w)
  have hidle : ∀ v, Silent w v →
      Post (S_State.changeState dispatch e .Idle true v) (Silent w) fun _ => True :=
    fun v hv => (changeState_silent (discreet_dispatchN 4) e _ _ v).imp fun _ ht => hv.trans ht
  unfold S_Timers.updateOne
  refine Post.bind (Q := fun _ => True) .any fun s _ => Post.ite (fun _ => ?_) fun _ => ?_
  · refine Post.bind (Q := fun _ => True) .any fun h _ => Post.ite (fun _ => hu) fun _ => ?_
    refine Post.ite (fun _ => ?_) fun _ => hidle _ hu
    have hquiet : ¬ Stirring .Respawn := by
      unfold Stirring
      decide
    refine (dispatch_spared (.to .Respawn e) _).bind fun v hv => hidle v (hu.trans ⟨?_, ?_⟩)
    · exact hv.input (show EntityMessage.Respawn ≠ .Removed_Entity by decide)
    · exact hv.events hquiet
  · refine Post.ite (fun _ => ?_) fun _ => hu
    refine Post.bind (Q := fun _ => True) .any fun a _ => Post.ite (fun _ => hu) fun _ => ?_
    exact hidle _ hu

lemma Body.Pass.lulls {dT : F} {b b' : Body F} (h : b.Pass dT b') :
    (∀ s', b'.state = some s' → ∃ s, b.state = some s ∧ (s' = s ∨ s' = ⟨.Idle⟩)) ∧
      (b'.attacker.map (·.attacked) = some false → b.attacker.map (·.attacked) = some false ∨
        (b.state = some ⟨.Attacking⟩ ∧ b'.state ≠ some ⟨.Attacking⟩)) := by
  cases h with
  | idle => exact ⟨fun s' hs' => ⟨s', hs', .inl rfl⟩, .inl⟩
  | heal s x hs _ _ =>
    unfold Body.heal
    dsimp only
    split
    · exact ⟨fun s' hs' => ⟨s', hs', .inl rfl⟩, .inl⟩
    · refine ⟨fun s' hs' => ⟨s, hs, .inr (Option.some.inj hs').symm⟩, .inl⟩
  | swing s a hs ha ht =>
    unfold Body.swing
    dsimp only
    split
    · refine ⟨fun s' hs' => ⟨s', hs', .inl rfl⟩, fun hclear => .inl ?_⟩
      rw [ha]
      exact hclear
    · refine ⟨fun s' hs' => ⟨s, hs, .inr (Option.some.inj hs').symm⟩, fun _ => .inr ⟨?_, ?_⟩⟩
      · rw [hs]
        exact congrArg some (C_State.ext ht)
      · show some (⟨.Idle⟩ : C_State) ≠ some ⟨.Attacking⟩
        decide

lemma timers_restful (dT : F) (hw : Unattended w) :
    ∃ u, S_Timers.update dT w = .ok u ∧ Restful w u := by
  have hc := hw.consistent
  obtain ⟨u, hu, heff, hbody⟩ := timers_update dT (hc.nodup .Timers) (fun _ => hc.timed) hw.armed
  have hevents := ((timers_silent dT w).ok hu).2
  have hpass : ∀ e, body e u = body e w ∨ (body e w).Pass dT (body e u) := (timers_body hc hu).2
  have hmov : ∀ e, u.getComponent (C_Movable F) e = w.getComponent (C_Movable F) e := by
    refine fun e => heff.framed.get (T := C_Movable F) ?_
    rintro ⟨-, -, h⟩
    exact absurd h (show ¬ (Component.Movable = .State ∨ Component.Movable = .Health ∨
      Component.Movable = .Position ∨ Component.Movable = .Attacker) by decide)
  have hlulls := fun e => (hpass e).elim
    (fun hsame => hsame ▸ ⟨fun s' hs' => ⟨s', hs', .inl rfl⟩, .inl⟩) Body.Pass.lulls
  refine ⟨u, hu, ⟨?_, fun _ _ hp => heff.input hp, ?_, ?_, ?_, ?_, sameBuild_of_eq hmov⟩,
    fun _ => hmov⟩
  · refine (heff.mono ?_).framed
    rintro e c ⟨-, -, h | h | h | h⟩ <;> simp [Played, h]
  · intro e x hx
    rw [queue_of_events hevents] at hx
    exact .inl hx
  · intro e x hx
    rwa [queue_of_events hevents]
  · intro e s' hs'
    obtain ⟨s, hs, hgoes⟩ := (hlulls e).1 s' hs'
    refine ⟨s, hs, hgoes.imp_right ?_⟩
    rintro rfl
    decide
  · exact fun e hclear => (hlulls e).2 hclear

/-! ### Blows -/

section Blows

omit [FloorRing F]

omit [LinearOrder F] in
lemma knockBack_build (m : Message) (a : C_Attacker F) (w : Ecs F) :
    Post (knockBack m a w) (SameBuild w) fun _ => True := by
  rw [knockBack]
  cases w.getComponent (C_Movable F) m.sender with
  | none => exact sameBuild_of_eq fun _ => rfl
  | some mov =>
    cases htarget : w.getComponent (C_Movable F) m.receiver with
    | none => trivial
    | some target =>
      intro e mov' hmov'
      by_cases he : e = m.receiver
      · subst he
        rw [getComponent_setComponent, htarget] at hmov'
        cases hmov'
        exact ⟨target, htarget, rfl, rfl⟩
      · rw [getComponent, getBase, lookup_setComponent_ne he] at hmov'
        exact ⟨mov', hmov', rfl, rfl⟩

lemma hit_build (hw : Consistent w) {m : Message} (hr : w.hasEntity .Combat m.receiver)
    (h : C_Health) (a : C_Attacker F) :
    Post (hitNews (dispatchN 3) m.receiver (hitHealth h.health) (hitNoted m h a w) >>=
        knockBack m a)
      (SameBuild w) fun _ => True := by
  have hnoted := (hitNoted_writes m h a w).effects
  obtain ⟨s, hs⟩ := hw.get (T := C_State) hr .State rfl (by decide)
  have hs₁ := (hitNoted_state m h a w m.receiver).trans hs
  have hnews := hitNews_post 1 (hnoted.consistent hw) (hitHealth h.health) hs₁
  refine (hnews.mono (fun _ h => h) fun _ h => h.elim).bind ?_
  rintro v ⟨hv, -⟩
  have hsame : ∀ e, v.getComponent (C_Movable F) e = w.getComponent (C_Movable F) e := by
    intro e
    rw [hv.framed.get (T := C_Movable F) fun hc =>
        absurd hc.2 (show Component.Movable ≠ .State by decide), hitNoted,
      getComponent_setComponent_tag (show Component.Movable ≠ .Attacker by decide),
      getComponent_setComponent_tag (show Component.Movable ≠ .Health by decide)]
  refine (knockBack_build m a v).imp fun u hu e mov' hmov' => ?_
  rw [← hsame]
  exact hu e mov' hmov'

lemma blow_restful (hw : Consistent w) {m : Message} (hm : m.type = .Being_Attacked)
    (hu : dispatch m w = .ok u) : Restful w u := by
  obtain ⟨hnone, -⟩ | ⟨u', h, a, hu', hhit⟩ := blow_cases hw hm
  · rw [hnone] at hu
    cases hu
    exact .refl w
  rw [hu'] at hu
  cases hu
  have hquiet : ¬ Stirring m.type := by
    rw [hm]
    unfold Stirring
    decide
  have hevents : u.events = w.events := ((dispatch_spared m w).ok hu').events hquiet
  have hbuild : SameBuild w u := by
    rw [dispatch_blow hm] at hu'
    obtain ⟨heq, -⟩ | ⟨h, a, hlet, -, -, heq⟩ := combat_notify_cases (dispatchN 3) m w
    · rw [heq] at hu'
      cases hu'
      exact sameBuild_of_eq fun _ => rfl
    · rw [heq] at hu'
      exact (hit_build hw hlet.1 h a).ok hu'
  have hother : ∀ e, e ≠ m.receiver → u.getComponent C_State e = w.getComponent C_State e := by
    refine fun e he => hhit.effects.framed.get (T := C_State) ?_
    rintro (⟨h, -⟩ | ⟨-, h⟩)
    · exact he h
    · exact absurd h (show Component.State ≠ .Attacker by decide)
  have hlull : Lull w u := by
    refine ⟨(hhit.effects.mono fun e c hc => struck_played e c (beaten_struck e c hc)).framed,
      fun _ _ hp => hhit.effects.input hp, ?_, ?_, ?_, ?_, hbuild⟩
    · intro e x hx
      rw [queue_of_events hevents] at hx
      exact .inl hx
    · intro e x hx
      rwa [queue_of_events hevents]
    · intro e s' hs'
      by_cases he : e = m.receiver
      · subst he
        obtain ⟨s, s'', hs, hs'', hwounded⟩ := hhit.state
        rw [hs''] at hs'
        cases hs'
        refine ⟨s, hs, hwounded.cases.imp_right ?_⟩
        rintro ⟨-, rfl⟩
        dsimp only
        split <;> decide
      · exact ⟨s', (hother e he).symm.trans hs', .inl rfl⟩
    · intro e hclear
      rcases blow_flag hw hm hu' e with heq | hup
      · exact .inl (heq ▸ hclear)
      · rw [hup] at hclear
        exact absurd hclear (by decide)
  refine ⟨hlull, fun heq => absurd heq (Nat.ne_of_lt ?_)⟩
  obtain ⟨-, hsender, x, hx, hclear⟩ := hhit.admits
  rw [swingsLeft, swingsLeft, hlull.framed.members]
  refine List.sum_lt_sum _ _ (fun e _ => hlull.swings_le e) ⟨m.sender, hsender, ?_⟩
  have hbefore : hasAttacked m.sender w = some false := by
    rw [hasAttacked, hx]
    exact congrArg some hclear
  have hraised : hasAttacked m.sender u = some true := by
    rw [hasAttacked, hhit.noted]
    rfl
  have hafter : hasAttacked m.sender u ≠ some false := by
    rw [hraised]
    decide
  have hatt : u.getComponent C_State m.sender = some ⟨.Attacking⟩ →
      w.getComponent C_State m.sender = some ⟨.Attacking⟩ := hlull.attacking
  rw [swings, swings, if_pos hbefore, if_neg hafter]
  split_ifs <;> first | omega | tauto

end Blows

/-! ### Collisions -/

omit [FloorRing F] in
lemma pushOut_pushless (pos : C_Position F) (col : C_Collidable F) (bounds : FloatRect F) :
    Pushless (S_Collision.pushOut pos col bounds).2.2.id := by
  unfold S_Collision.pushOut
  dsimp only
  split
  · exact (by decide : Pushless EntityEvent.Colliding_X.id)
  · exact (by decide : Pushless EntityEvent.Colliding_Y.id)

lemma mapCollisions_pushless (S : Setting F) (pos : C_Position F) (col : C_Collidable F) :
    ∀ event ∈ (S_Collision.mapCollisions S pos col).2.2, Pushless event.id := by
  unfold S_Collision.mapCollisions
  refine Dict.foldl_inv (I := fun p : C_Position F × C_Collidable F × List EntityEvent =>
    ∀ event ∈ p.2.2, Pushless event.id) (fun p c hp event hevent => ?_) _ (by simp)
  rcases List.mem_append.mp hevent with h | h
  · exact hp event h
  · rw [List.mem_singleton.mp h]
    exact pushOut_pushless _ _ _

lemma collision_updateOne_restful (S : Setting F) (w : Ecs F) (e : EntityId) :
    Post (S_Collision.updateOne S w e) (Restful w) fun _ => True := by
  have hplaced : ∀ (pos : C_Position F) (col : C_Collidable F),
      Restful w ((w.setComponent e pos).setComponent e col) := by
    intro pos col
    have heff : Effects (fun _ c => c = .Position ∨ c = .Collidable) w
        ((w.setComponent e pos).setComponent e col) :=
      (writes_set e pos w (.inl rfl)).effects.trans (writes_set e col _ (.inr rfl)).effects
    refine ⟨.of_framed heff (fun _ c hc => ?_) (fun _ _ hx => .inl hx) fun _ _ hx => hx,
      fun _ x => ?_⟩
    · exact hc.elim .inl fun h => .inr (.inl h)
    · exact heff.framed.get (T := C_Movable F)
        (show ¬ (Component.Movable = .Position ∨ Component.Movable = .Collidable) by decide)
  unfold S_Collision.updateOne
  refine Post.bind (Q := fun _ => True) .any fun pos _ => ?_
  refine Post.bind (Q := fun _ => True) .any fun col _ => ?_
  dsimp only
  refine (hplaced _ _).trans (noted_addEvents _ ?_ e _).restful
  split
  · exact mapCollisions_pushless S _ _
  · simp

lemma collision_restful (S : Setting F) (hw : Consistent w) :
    ∃ u, S_Collision.update S w = .ok u ∧ Restful w u := by
  have hblows : KeptByBlows w fun u _ => Restful w u := fun u v _ m hu hrest hm hv =>
    hrest.trans (blow_restful (hu.consistent hw) hm hv)
  have hpost : Post (S_Collision.updateTraced S w) (fun p => Restful w p.1) fun _ => False := by
    unfold S_Collision.updateTraced
    have hplace : Post ((w.members .Collision).foldlM (S_Collision.updateOne S) w)
        (fun u => Effects Played w u ∧ Restful w u) fun _ => False := by
      refine Post.foldlM (fun u e he hu => ?_) ⟨.refl, .refl w⟩
      have he' : e ∈ u.members .Collision := by
        rw [hu.1.framed.members]
        exact he
      obtain ⟨v, hv, heff⟩ := (collision_updateOne_post S (hu.1.consistent hw) he').exists_ok
      rw [hv]
      exact ⟨hu.1.trans (heff.mono fun x c hx => placed_played x c hx.2),
        hu.2.trans ((collision_updateOne_restful S u e).ok hv)⟩
    exact hplace.bind fun u hu =>
      (entityCollisionsTraced_post hw hblows hu).imp fun p hp => hp.2
  obtain ⟨⟨u, log⟩, hu, hrest⟩ := hpost.exists_ok
  refine ⟨u, ?_, hrest⟩
  rw [← S_Collision.forget_update, hu, Trace.forget_ok]

/-! ### Movement -/

/-- What a step makes of the motion and the place of an entity. -/
def walked (S : Setting F) (dT : F) : Option (C_Movable F) × Option (C_Position F) →
    Option (C_Movable F) × Option (C_Position F)
  | (some mov, some pos) =>
    (some (S_Movement.movementStep S dT mov pos),
      some (pos.moveBy (S_Movement.movementStep S dT mov pos).velocity))
  | x => x

lemma movementStep_build (S : Setting F) (dT : F) (mov : C_Movable F) (pos : C_Position F) :
    (S_Movement.movementStep S dT mov pos).velocityMax = mov.velocityMax ∧
      (S_Movement.movementStep S dT mov pos).speed = mov.speed := by
  unfold S_Movement.movementStep
  dsimp only
  split <;> exact ⟨rfl, rfl⟩

lemma movement_steps (S : Setting F) (dT : F) (hw : Consistent w) :
    ∃ u, S_Movement.update S dT w = .ok u ∧ u.events = w.events ∧
      Effects (fun _ c => c = .Movable ∨ c = .Position) w u ∧
      (∀ e ∈ w.members .Movement, ∀ mov pos, w.getComponent (C_Movable F) e = some mov →
        w.getComponent (C_Position F) e = some pos →
        u.getComponent (C_Movable F) e = some (S_Movement.movementStep S dT mov pos)) ∧
      ∀ e, e ∉ w.members .Movement →
        u.getComponent (C_Movable F) e = w.getComponent (C_Movable F) e := by
  let view (e : EntityId) (u : Ecs F) : Option (C_Movable F) × Option (C_Position F) :=
    (u.getComponent (C_Movable F) e, u.getComponent (C_Position F) e)
  have hpost : Post (S_Movement.update S dT w) (fun u => (u.events = w.events ∧
      Effects (fun _ c => c = .Movable ∨ c = .Position) w u) ∧
      (∀ e ∈ w.members .Movement, view e u = walked S dT (view e w)) ∧
      ∀ e, e ∉ w.members .Movement → view e u = view e w) fun _ => False := by
    refine Post.foldlM_each (hw.nodup .Movement) (fun u e he hu => ?_) ⟨rfl, .refl⟩
    have he' : e ∈ u.members .Movement := by
      rw [hu.2.framed.members]
      exact he
    have hc := hu.2.consistent hw
    obtain ⟨mov, hmov⟩ := hc.get (T := C_Movable F) he' .Movable rfl (by decide)
    obtain ⟨pos, hpos⟩ := hc.get (T := C_Position F) he' .Position rfl (by decide)
    rw [S_Movement.updateOne, hmov, hpos]
    simp only [deref_some, ok_bind]
    refine ⟨⟨hu.1, ?_⟩, ?_, fun j hj => ?_⟩
    · exact hu.2.trans ((writes_set e _ u (.inl rfl)).effects.trans
        (writes_set e _ _ (.inr rfl)).effects)
    · simp only [view, hmov, hpos, walked]
      rw [getComponent_setComponent_tag (show Component.Movable ≠ .Position by decide),
        getComponent_setComponent, hmov, getComponent_setComponent,
        getComponent_setComponent_tag (show Component.Position ≠ .Movable by decide), hpos]
      rfl
    · simp only [view, getComponent, getBase]
      rw [lookup_setComponent_ne hj, lookup_setComponent_ne hj]
  obtain ⟨u, hu, ⟨hevents, heff⟩, hin, hout⟩ := hpost.exists_ok
  refine ⟨u, hu, hevents, heff, fun e he mov pos hmov hpos => ?_, fun e he => ?_⟩
  · have hview := congrArg Prod.fst (hin e he)
    simp only [view, hmov, hpos, walked] at hview
    exact hview
  · exact congrArg Prod.fst (hout e he)

lemma movement_lull (S : Setting F) (dT : F) (hw : Consistent w) {u : Ecs F}
    (hu : S_Movement.update S dT w = .ok u) : Lull w u := by
  obtain ⟨u', hu', hevents, heff, hin, hout⟩ := movement_steps S dT hw
  rw [hu] at hu'
  cases hu'
  have hstate : ¬ (Component.State = .Movable ∨ Component.State = .Position) := by decide
  have hattacker : ¬ (Component.Attacker = .Movable ∨ Component.Attacker = .Position) := by decide
  refine ⟨(heff.mono ?_).framed, fun _ _ hp => heff.input hp, ?_, ?_, ?_, ?_, ?_⟩
  · rintro e c (rfl | rfl) <;> simp [Played]
  · intro e x hx
    rw [queue_of_events hevents] at hx
    exact .inl hx
  · intro e x hx
    rwa [queue_of_events hevents]
  · intro e s' hs'
    exact ⟨s', (heff.framed.get (T := C_State) hstate).symm.trans hs', .inl rfl⟩
  · intro e hclear
    rw [hasAttacked_of_framed heff.framed hattacker] at hclear
    exact .inl hclear
  · intro e mov' hmov'
    by_cases he : e ∈ w.members .Movement
    · obtain ⟨mov, hmov⟩ := hw.get (T := C_Movable F) he .Movable rfl (by decide)
      obtain ⟨pos, hpos⟩ := hw.get (T := C_Position F) he .Position rfl (by decide)
      rw [hin e he mov pos hmov hpos] at hmov'
      cases hmov'
      exact ⟨mov, hmov, movementStep_build S dT mov pos⟩
    · exact ⟨mov', (hout e he).symm.trans hmov', rfl, rfl⟩

/-- **A system while nobody plays**: its update goes well and is a lull, in which nothing moves by
itself unless it is the step of `S_Movement`. -/
lemma update_lull (S : Setting F) (hw : Unattended w) (sys : System) (dT : F) :
    ∃ u, update S dT sys w = .ok u ∧ Lull w u ∧ (sys ≠ .Movement → Unpushed w u) := by
  have hrestful : (∃ u, update S dT sys w = .ok u ∧ Restful w u) →
      ∃ u, update S dT sys w = .ok u ∧ Lull w u ∧ (sys ≠ .Movement → Unpushed w u) :=
    fun ⟨u, hu, h⟩ => ⟨u, hu, h.lull, fun _ => h.unpushed⟩
  cases sys with
  | Network => exact hrestful (network_restful hw)
  | Movement =>
    obtain ⟨u, hu, -⟩ := movement_steps S dT hw.consistent
    exact ⟨u, hu, movement_lull S dT hw.consistent hu, fun h => absurd rfl h⟩
  | Control => exact hrestful ⟨w, rfl, .refl w⟩
  | State =>
    obtain ⟨u, hu, h, -⟩ := state_restful hw.consistent
    exact hrestful ⟨u, hu, h⟩
  | Collision => exact hrestful (collision_restful S hw.consistent)
  | Combat => exact hrestful (combat_restful hw.consistent)
  | Timers => exact hrestful (timers_restful dT hw)

end Sfrpg
