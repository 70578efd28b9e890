import Sfrpg.Queues

/-!
The timers, entity by entity.

The pass of `S_Timers::update` over an entity reads and writes three of its components: its state,
its health and its attack. What it makes of them is a function of them alone, `Body.tick`, so a
whole update is that function at every entity of the system, whatever the order. It fails for one
reason: an entity that attacks with nothing.
-/

namespace Sfrpg

open Lib Lib.Word Ecs

variable {F : Type} [Field F] [LinearOrder F] [FloorRing F] {w u : Ecs F} {e : EntityId}

/-- State, health and attack of an entity, as far as it has them. -/
@[ext] structure Body (F : Type) where
  state : Option C_State
  health : Option C_Health
  attacker : Option (C_Attacker F)

def body (e : EntityId) (w : Ecs F) : Body F :=
  ⟨w.getComponent C_State e, w.getComponent C_Health e, w.getComponent (C_Attacker F) e⟩

omit [Field F] [LinearOrder F] [FloorRing F] in
lemma body_eq_of_framed {P : EntityId → Component → Prop} (h : Framed P w u)
    (hstate : ¬ P e .State) (hhealth : ¬ P e .Health) (hattacker : ¬ P e .Attacker) :
    body e u = body e w := by
  rw [body, body, h.get (T := C_State) hstate, h.get (T := C_Health) hhealth,
    h.get (T := C_Attacker F) hattacker]

namespace Body

/-- The timer of someone hurt or dying, a step later. -/
def heal (dT : F) (st : EntityState) (h : C_Health) (b : Body F) : Body F :=
  let h := h.addToTimer (.milliseconds (S_Timers.wholeMilliseconds dT))
  if (st = .Hurt ∧ S_Timers.Below h.duration h.hurtDuration) ∨
      (st = .Dying ∧ S_Timers.Below h.duration h.deathDuration) then { b with health := some h }
  else { b with
    state := some ⟨.Idle⟩
    health := some (if st = .Dying then h.reset.resetHealth else h.reset) }

/-- The timer of an attack, a step later. -/
def swing (dT : F) (a : C_Attacker F) (b : Body F) : Body F :=
  let a := a.addToTimer (.milliseconds (S_Timers.wholeMilliseconds dT))
  if S_Timers.Below a.duration a.attackDuration then { b with attacker := some a }
  else { b with
    state := some ⟨.Idle⟩
    attacker := some (a.reset.setAttacked false) }

/-- What a step of the timers makes of an entity. -/
def tick (dT : F) (b : Body F) : Body F :=
  match b.state with
  | none => b
  | some s =>
    if s.state = .Hurt ∨ s.state = .Dying then b.health.elim b fun h => b.heal dT s.state h
    else if s.state = .Attacking then b.attacker.elim b fun a => b.swing dT a
    else b

/-- Everything a step of the timers can do to an entity, with what it finds there. -/
inductive Pass (dT : F) (b : Body F) : Body F → Prop
  | idle (h : ∀ s, b.state = some s →
      (s.state = .Hurt ∨ s.state = .Dying → b.health = none) ∧
        (s.state = .Attacking → b.attacker = none)) : Pass dT b b
  | heal (s : C_State) (h : C_Health) (hs : b.state = some s) (hh : b.health = some h)
      (ht : s.state = .Hurt ∨ s.state = .Dying) : Pass dT b (b.heal dT s.state h)
  | swing (s : C_State) (a : C_Attacker F) (hs : b.state = some s) (ha : b.attacker = some a)
      (ht : s.state = .Attacking) : Pass dT b (b.swing dT a)

lemma pass_tick (dT : F) (b : Body F) : Pass dT b (b.tick dT) := by
  obtain ⟨state, health, attacker⟩ := b
  rw [tick]
  cases state with
  | none => exact .idle fun s hs => nomatch hs
  | some s =>
    dsimp only
    split
    · next ht =>
      cases health with
      | none =>
        refine .idle fun s' hs' => ⟨fun _ => rfl, fun ha => ?_⟩
        cases hs'
        rw [ha] at ht
        exact absurd ht (by decide)
      | some h => exact .heal s h rfl rfl ht
    · next ht =>
      split
      · next ha =>
        cases attacker with
        | none =>
          refine .idle fun s' hs' => ⟨fun h' => ?_, fun _ => rfl⟩
          cases hs'
          exact absurd h' ht
        | some a => exact .swing s a rfl rfl ha
      · next ha =>
        refine .idle fun s' hs' => ?_
        cases hs'
        exact ⟨fun h' => absurd h' ht, fun h' => absurd h' ha⟩

end Body

/-! ### A pass over one entity -/

/-- A member of `S_Timers` that attacks with nothing. -/
def Unarmed (w : Ecs F) (e : EntityId) : Prop :=
  w.getComponent C_State e = some ⟨.Attacking⟩ ∧ w.getComponent (C_Attacker F) e = none

/-- What the timers may write: components of the entity they are about. -/
def Timed (e : EntityId) (e' : EntityId) (c : Component) : Prop :=
  e' = e ∧ (c = .State ∨ c = .Health ∨ c = .Position ∨ c = .Attacker)

omit [FloorRing F] in
lemma respawn_post (e : EntityId) (w : Ecs F) :
    Post (dispatch (.to .Respawn e) w) (Effects (At e .Position) w) fun _ => False := by
  have hobs : observers .Respawn = [.Network] := by decide
  have hsingle : dispatch (.to .Respawn e) w = S_Network.notify (.to .Respawn e) w :=
    dispatchN_single (m := .to .Respawn e) hobs
  rw [hsingle]
  exact network_notify_post (.to .Respawn e) w

omit [FloorRing F] in
lemma idle_post {s : C_State} (hu : Effects (Timed e) w u)
    (hs : u.getComponent C_State e = some s) (hne : s.state ≠ .Idle) :
    Post (S_State.changeState dispatch e .Idle true u) (fun v => Effects (Timed e) w v ∧
      body e v = { body e u with state := some ⟨.Idle⟩ }) fun _ => False := by
  have hback : S_State.changeState dispatch e .Idle true u =
      .ok (u.setComponent e (s.setState .Idle)) := by
    rw [dispatch, changeState_eq 3 .Idle true hs, if_neg]
    rintro (h | ⟨h, -⟩)
    · exact hne h.symm
    · exact absurd h (by decide)
  rw [hback]
  refine ⟨hu.trans (writes_set e _ u ⟨rfl, .inl rfl⟩).effects, ?_⟩
  rw [body, body, getComponent_setComponent, hs,
    getComponent_setComponent_tag (show Component.Health ≠ .State by decide),
    getComponent_setComponent_tag (show Component.Attacker ≠ .State by decide)]
  rfl

omit [Field F] [LinearOrder F] [FloorRing F] in
lemma body_set_health {h : C_Health} (hh : w.getComponent C_Health e = some h) (x : C_Health) :
    body e (w.setComponent e x) = { body e w with health := some x } := by
  rw [body, body, getComponent_setComponent, hh,
    getComponent_setComponent_tag (show Component.State ≠ .Health by decide),
    getComponent_setComponent_tag (show Component.Attacker ≠ .Health by decide)]
  rfl

omit [Field F] [LinearOrder F] [FloorRing F] in
lemma body_set_attacker {a : C_Attacker F} (ha : w.getComponent (C_Attacker F) e = some a)
    (x : C_Attacker F) :
    body e (w.setComponent e x) = { body e w with attacker := some x } := by
  rw [body, body, getComponent_setComponent, ha,
    getComponent_setComponent_tag (show Component.State ≠ .Attacker by decide),
    getComponent_setComponent_tag (show Component.Health ≠ .Attacker by decide)]
  rfl

omit [Field F] [LinearOrder F] [FloorRing F] in
lemma body_eq {s : C_State} {h : C_Health} (hs : w.getComponent C_State e = some s)
    (hh : w.getComponent C_Health e = some h) :
    body e w = ⟨some s, some h, w.getComponent (C_Attacker F) e⟩ := by
  rw [body, hs, hh]

lemma updateOne_heal (dT : F) {s : C_State} {h : C_Health}
    (hs : w.getComponent C_State e = some s) (hh : w.getComponent C_Health e = some h)
    (ht : s.state = .Hurt ∨ s.state = .Dying) :
    Post (S_Timers.updateOne dT w e) (fun u => Effects (Timed e) w u ∧
      body e u = (body e w).heal dT s.state h) fun _ => False := by
  have hwrite : ∀ x : C_Health, Effects (Timed e) w (w.setComponent e x) := fun x =>
    (writes_set e x w ⟨rfl, .inr (.inl rfl)⟩).effects
  have hstate : ∀ x : C_Health, (w.setComponent e x).getComponent C_State e = some s := by
    intro x
    rw [getComponent_setComponent_tag (show Component.State ≠ .Health by decide), hs]
  have hne : s.state ≠ .Idle := by
    rcases ht with h | h <;> rw [h] <;> decide
  simp only [S_Timers.updateOne, hs, hh, deref_some, ok_bind]
  rw [if_pos ht, Body.heal]
  refine Post.ite (fun hbelow => ?_) fun hup => ?_
  · -- the timer runs on
    exact ⟨hwrite _, by rw [if_pos hbelow, body_set_health hh]⟩
  rw [if_neg hup]
  refine Post.ite (fun hd => ?_) fun hd => ?_
  · rw [if_pos hd]
    refine (respawn_post e _).bind fun u hu => ?_
    have hspared : ∀ c, c ≠ Component.Position → ¬ At e .Position e c := fun c hc hat => hc hat.2
    have hu' := body_eq_of_framed hu.framed (hspared .State (by decide))
      (hspared .Health (by decide)) (hspared .Attacker (by decide))
    have hsu : u.getComponent C_State e = some s := by
      rw [hu.framed.get (T := C_State) (hspared .State (by decide)), hstate]
    refine (idle_post ((hwrite _).trans (hu.mono ?_)) hsu hne).imp ?_
    · rintro x c ⟨rfl, rfl⟩
      exact ⟨rfl, .inr (.inr (.inl rfl))⟩
    · rintro v ⟨hv, hbv⟩
      exact ⟨hv, by rw [hbv, hu', body_set_health hh]⟩
  · rw [if_neg hd]
    refine (idle_post (hwrite _) (hstate _) hne).imp ?_
    rintro v ⟨hv, hbv⟩
    exact ⟨hv, by rw [hbv, body_set_health hh]⟩

lemma updateOne_swing (dT : F) {s : C_State} {a : C_Attacker F}
    (hs : w.getComponent C_State e = some s) (ha : w.getComponent (C_Attacker F) e = some a)
    (ht : s.state = .Attacking) :
    Post (S_Timers.updateOne dT w e) (fun u => Effects (Timed e) w u ∧
      body e u = (body e w).swing dT a) fun _ => False := by
  have hwrite : ∀ x : C_Attacker F, Effects (Timed e) w (w.setComponent e x) := fun x =>
    (writes_set e x w ⟨rfl, .inr (.inr (.inr rfl))⟩).effects
  have hnot : ¬ (s.state = .Hurt ∨ s.state = .Dying) := by
    rw [ht]
    decide
  simp only [S_Timers.updateOne, hs, ha, deref_some, ok_bind]
  rw [if_neg hnot, if_pos ht, Body.swing]
  refine Post.ite (fun hbelow => ?_) fun hup => ?_
  · exact ⟨hwrite _, by rw [if_pos hbelow, body_set_attacker ha]⟩
  · have hsame : (w.setComponent e ((a.addToTimer (.milliseconds
        (S_Timers.wholeMilliseconds dT))).reset.setAttacked false)).getComponent C_State e =
        some s := by
      rw [getComponent_setComponent_tag (show Component.State ≠ .Attacker by decide), hs]
    refine (idle_post (hwrite _) hsame (by rw [ht]; decide)).imp ?_
    rintro v ⟨hv, hbv⟩
    exact ⟨hv, by rw [hbv, if_neg hup, body_set_attacker ha]⟩

/-- **A pass of the timers**: it goes well, or the entity attacks with nothing. -/
lemma timers_updateOne (dT : F) {s : C_State} {h : C_Health}
    (hs : w.getComponent C_State e = some s) (hh : w.getComponent C_Health e = some h) :
    (Unarmed w e → S_Timers.updateOne dT w e = .error .nullDeref) ∧
    (¬ Unarmed w e → Post (S_Timers.updateOne dT w e) (fun u => Effects (Timed e) w u ∧
      body e u = (body e w).tick dT) fun _ => False) := by
  have htick : (body e w).tick dT = if s.state = .Hurt ∨ s.state = .Dying then
      (body e w).heal dT s.state h else if s.state = .Attacking then
        (w.getComponent (C_Attacker F) e).elim (body e w) fun a => (body e w).swing dT a
      else body e w := by
    rw [body_eq hs hh]
    rfl
  constructor
  · rintro ⟨hun, ha⟩
    obtain rfl := Option.some.inj (hs.symm.trans hun)
    have hnot : ¬ (EntityState.Attacking = .Hurt ∨ EntityState.Attacking = .Dying) := by decide
    simp only [S_Timers.updateOne, hs, ha, deref_some, ok_bind, if_neg hnot, if_true]
    rfl
  · intro hun
    rw [htick]
    by_cases htimed : s.state = .Hurt ∨ s.state = .Dying
    · rw [if_pos htimed]
      exact updateOne_heal dT hs hh htimed
    rw [if_neg htimed]
    by_cases hatt : s.state = .Attacking
    · rw [if_pos hatt]
      cases ha : w.getComponent (C_Attacker F) e with
      | none => exact absurd ⟨by rw [hs, ← hatt], ha⟩ hun
      | some a => exact updateOne_swing dT hs ha hatt
    · rw [if_neg hatt]
      simp only [S_Timers.updateOne, hs, deref_some, ok_bind]
      rw [if_neg htimed, if_neg hatt]
      exact ⟨.refl, rfl⟩

/-! ### The loop -/

omit [Field F] [LinearOrder F] [FloorRing F] in
lemma Unarmed.congr {x : EntityId} (h : Effects (Timed e) w u) (hx : x ≠ e) :
    Unarmed u x ↔ Unarmed w x := by
  rw [Unarmed, Unarmed, h.framed.get (T := C_State) fun hc => hx hc.1,
    h.framed.get (T := C_Attacker F) fun hc => hx hc.1]

omit [Field F] [LinearOrder F] [FloorRing F] in
lemma Ecs.Consistent.timed (hw : Consistent w) (he : e ∈ w.members .Timers) :
    (∃ s, w.getComponent C_State e = some s) ∧ ∃ h, w.getComponent C_Health e = some h :=
  ⟨hw.get he .State rfl (by decide), hw.get he .Health rfl (by decide)⟩

/-- The loop of the timers: it goes well unless one of the entities attacks with nothing, and is a
tick for each of them. -/
lemma timers_loop (dT : F) {l : List EntityId} (hl : l.Nodup)
    (htimed : ∀ e ∈ l, (∃ s, w.getComponent C_State e = some s) ∧
      ∃ h, w.getComponent C_Health e = some h) :
    ((∃ e ∈ l, Unarmed w e) → l.foldlM (S_Timers.updateOne dT) w = .error .nullDeref) ∧
    ((∀ e ∈ l, ¬ Unarmed w e) → Post (l.foldlM (S_Timers.updateOne dT) w)
      (fun u => Effects (fun x c => x ∈ l ∧ Timed x x c) w u ∧
        ∀ e ∈ l, body e u = (body e w).tick dT) fun _ => False) := by
  induction l generalizing w with
  | nil => exact ⟨by simp, fun _ => ⟨.refl, by simp⟩⟩
  | cons e l ih =>
    obtain ⟨hnot, hl⟩ := List.nodup_cons.mp hl
    obtain ⟨⟨s, hs⟩, h, hh⟩ := htimed e (by simp)
    obtain ⟨hbad, hgood⟩ := timers_updateOne dT hs hh
    rw [List.foldlM_cons]
    by_cases hun : Unarmed w e
    · refine ⟨fun _ => by rw [hbad hun]; rfl, fun hno => ?_⟩
      exact absurd hun (hno e (by simp))
    · obtain ⟨u, hu, heff, hbody⟩ := (hgood hun).exists_ok
      have hout : ∀ x ∈ l, ∀ c, ¬ Timed e x c := fun x hx c hc => hnot (hc.1 ▸ hx)
      obtain ⟨hbad', hgood'⟩ := ih hl fun x hx => by
        rw [heff.framed.get (T := C_State) (hout x hx _),
          heff.framed.get (T := C_Health) (hout x hx _)]
        exact htimed x (by simp [hx])
      have hsame : ∀ x ∈ l, (Unarmed u x ↔ Unarmed w x) :=
        fun x hx => Unarmed.congr heff fun h => hnot (h ▸ hx)
      rw [hu, ok_bind]
      constructor
      · rintro ⟨x, hx, hux⟩
        rcases List.mem_cons.mp hx with rfl | hxl
        · exact absurd hux hun
        · exact hbad' ⟨x, hxl, (hsame x hxl).mpr hux⟩
      · intro hno
        refine (hgood' fun x hx => ?_).imp ?_
        · rw [hsame x hx]
          exact hno x (by simp [hx])
        · rintro v ⟨hv, hticks⟩
          refine ⟨(heff.mono ?_).trans (hv.mono ?_), fun x hx => ?_⟩
          · rintro x c ⟨rfl, hc⟩
            exact ⟨by simp, rfl, hc⟩
          · rintro x c ⟨hx, hc⟩
            exact ⟨by simp [hx], hc⟩
          · rcases List.mem_cons.mp hx with rfl | hxl
            · have hgone : ∀ c, ¬ (x ∈ l ∧ Timed x x c) := fun c hc => hnot hc.1
              rw [body_eq_of_framed hv.framed (hgone _) (hgone _) (hgone _), hbody]
            · rw [hticks x hxl, body_eq_of_framed heff.framed (hout x hxl _) (hout x hxl _)
                (hout x hxl _)]

lemma timers_update_unarmed (dT : F) (hw : Consistent w) (he : e ∈ w.members .Timers)
    (hun : Unarmed w e) : S_Timers.update dT w = .error .nullDeref :=
  (timers_loop dT (hw.nodup .Timers) fun _ => hw.timed).1 ⟨e, he, hun⟩

/-- **An update of the timers**: a tick for every entity of the system, and nothing for another. -/
lemma timers_update (dT : F) (hnodup : (w.members .Timers).Nodup)
    (htimed : ∀ e ∈ w.members .Timers, (∃ s, w.getComponent C_State e = some s) ∧
      ∃ h, w.getComponent C_Health e = some h)
    (harmed : ∀ e ∈ w.members .Timers, ¬ Unarmed w e) :
    ∃ u, S_Timers.update dT w = .ok u ∧
      Effects (fun e c => e ∈ w.members .Timers ∧ Timed e e c) w u ∧
      ∀ e, body e u = if e ∈ w.members .Timers then (body e w).tick dT else body e w := by
  obtain ⟨-, hgood⟩ := timers_loop dT hnodup htimed
  obtain ⟨u, hu, heff, hticks⟩ := (hgood harmed).exists_ok
  refine ⟨u, hu, heff, fun e => ?_⟩
  split
  · next he => exact hticks e he
  · next he =>
    have hout : ∀ c, ¬ (e ∈ w.members .Timers ∧ Timed e e c) := fun c hc => he hc.1
    exact body_eq_of_framed heff.framed (hout _) (hout _) (hout _)

lemma timers_body {dT : F} (hw : Consistent w) (hu : S_Timers.update dT w = .ok u) :
    Consistent u ∧ ∀ e, body e u = body e w ∨ (body e w).Pass dT (body e u) := by
  have harmed : ∀ e ∈ w.members .Timers, ¬ Unarmed w e := by
    intro e he hun
    rw [timers_update_unarmed dT hw he hun] at hu
    cases hu
  obtain ⟨u', hu', heff, hbody⟩ := timers_update dT (hw.nodup .Timers) (fun _ => hw.timed) harmed
  rw [hu] at hu'
  cases hu'
  refine ⟨heff.consistent hw, fun e => ?_⟩
  rw [hbody]
  split
  · exact .inr (Body.pass_tick dT _)
  · exact .inl rfl

end Sfrpg
