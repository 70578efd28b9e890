import Sfrpg.Handlers

/-!
Health and state of the entities, over any interleaving of messages, events and timers.

Two components and three systems are involved, and they reach each other through the bus. What the
handlers leave in the state and the health of an entity is a piece of a life, and only the timers
revive.
-/

namespace Sfrpg

open Lib Lib.Word Lib.Run Life Ecs

namespace Ecs

variable {F : Type} {w w' w'' : Ecs F} {e : EntityId} {T : Type}
  {P Q : EntityId → Component → Prop}

/-! ### What a handler may touch -/

/-- Only the components in `P` may have new values. None comes or goes, and the lists of the
systems stay. -/
structure Touches (P : EntityId → Component → Prop) (w w' : Ecs F) : Prop where
  members : w'.members = w.members
  present : ∀ e c, (w'.getBase e c).isSome = (w.getBase e c).isSome
  other : ∀ e c, ¬ P e c → w'.getBase e c = w.getBase e c

lemma Touches.refl (w : Ecs F) : Touches P w w := ⟨rfl, fun _ _ => rfl, fun _ _ _ => rfl⟩

lemma Touches.trans (h : Touches P w w') (h' : Touches P w' w'') : Touches P w w'' where
  members := h'.members.trans h.members
  present e c := (h'.present e c).trans (h.present e c)
  other e c hP := (h'.other e c hP).trans (h.other e c hP)

lemma Touches.mono (h : Touches P w w') (hPQ : ∀ e c, P e c → Q e c) : Touches Q w w' where
  members := h.members
  present := h.present
  other e c hQ := h.other e c fun hP => hQ (hPQ e c hP)

lemma Framed.touches (h : Framed P w w') : Touches P w w' where
  members := h.members
  present := h.isSome_getBase
  other := h.other

/-! ### Worlds in which no pointer is null -/

/-- The components the handlers of such a world use without a check. -/
def equipment : List Component := [.State, .Health, .Movable, .Attacker]

/-- Whoever is in a list is in that of the timers, once, and has the equipment. -/
structure Ready (w : Ecs F) : Prop where
  nodup : (w.members .Timers).Nodup
  listed : ∀ sys e, e ∈ w.members sys → e ∈ w.members .Timers
  equipped : ∀ e ∈ w.members .Timers, ∀ c ∈ equipment, (w.getBase e c).isSome = true

lemma Ready.touches (h : Ready w) (ht : Touches P w w') : Ready w' where
  nodup := ht.members ▸ h.nodup
  listed sys e he := by
    rw [ht.members] at he ⊢
    exact h.listed sys e he
  equipped e he c hc := by
    rw [ht.members] at he
    rw [ht.present]
    exact h.equipped e he c hc

lemma Ready.get [CompType F T] (h : Ready w) {sys : System} (he : e ∈ w.members sys)
    (hc : CompType.tag F T ∈ equipment) : ∃ x : T, w.getComponent T e = some x := by
  have hs := h.equipped e (h.listed sys e he) _ hc
  rw [← isSome_getComponent (T := T)] at hs
  exact Option.isSome_iff_exists.mp hs

variable {sys : System}

lemma Ready.state (h : Ready w) (he : e ∈ w.members sys) :
    ∃ s, w.getComponent C_State e = some s :=
  h.get he (show Component.State ∈ equipment by decide)

lemma Ready.health (h : Ready w) (he : e ∈ w.members sys) :
    ∃ x, w.getComponent C_Health e = some x :=
  h.get he (show Component.Health ∈ equipment by decide)

lemma Ready.attacker (h : Ready w) (he : e ∈ w.members sys) :
    ∃ x, w.getComponent (C_Attacker F) e = some x :=
  h.get he (show Component.Attacker ∈ equipment by decide)

end Ecs

variable {F : Type} [Field F] [LinearOrder F] {w w' : Ecs F} {e : EntityId}

/-! ### Pieces of a life -/

def vitals (s : C_State) (h : C_Health) : Vitals EntityState := ⟨s.state, h.health, h.maxHealth⟩

/-- Nobody is revived: state and health of every entity evolve, and its timer stands. -/
structure Calm (w w' : Ecs F) : Prop where
  touches : Ecs.Touches (fun _ _ => True) w w'
  lives : ∀ e s' h', w'.getComponent C_State e = some s' → w'.getComponent C_Health e = some h' →
    ∃ s h, w.getComponent C_State e = some s ∧ w.getComponent C_Health e = some h ∧
      Evolves .Dying (vitals s h) (vitals s' h') ∧ h'.duration = h.duration ∧
      h'.deathDuration = h.deathDuration

omit [Field F] [LinearOrder F] in
lemma calm_at {P : EntityId → Component → Prop} {s s' : C_State} {h h' : C_Health}
    (ht : Framed P w w') (hP : ∀ x, x ≠ e → ¬ P x .State ∧ ¬ P x .Health)
    (hs : w.getComponent C_State e = some s) (hh : w.getComponent C_Health e = some h)
    (hs' : w'.getComponent C_State e = some s') (hh' : w'.getComponent C_Health e = some h')
    (hev : Evolves .Dying (vitals s h) (vitals s' h')) (hdur : h'.duration = h.duration)
    (hdeath : h'.deathDuration = h.deathDuration) : Calm w w' where
  touches := ht.touches.mono fun _ _ _ => trivial
  lives := by
    intro x s₁ h₁ hs₁ hh₁
    by_cases hx : x = e
    · subst hx
      rw [hs'] at hs₁
      rw [hh'] at hh₁
      cases hs₁
      cases hh₁
      exact ⟨s, h, hs, hh, hev, hdur, hdeath⟩
    · rw [ht.get (T := C_State) (hP x hx).1] at hs₁
      rw [ht.get (T := C_Health) (hP x hx).2] at hh₁
      exact ⟨s₁, h₁, hs₁, hh₁, .refl, rfl, rfl⟩

omit [Field F] [LinearOrder F] in
lemma calm_of_framed {P : EntityId → Component → Prop} (hf : Framed P w w')
    (hhealth : ∀ e, ¬ P e .Health)
    (hstate : ∀ e s s', w.getComponent C_State e = some s → w'.getComponent C_State e = some s' →
      s' = s ∨ (s.state ≠ .Dying ∧ s'.state ≠ .Dying)) : Calm w w' where
  touches := hf.touches.mono fun _ _ _ => trivial
  lives := by
    intro e s' h hs' hh
    rw [hf.get (T := C_Health) (hhealth e)] at hh
    have hsome : (w.getComponent C_State e).isSome := by
      rw [← hf.isSome_get, hs']
      rfl
    obtain ⟨s, hs⟩ := Option.isSome_iff_exists.mp hsome
    refine ⟨s, h, hs, hh, ?_, rfl, rfl⟩
    rcases hstate e s s' hs hs' with rfl | ⟨hd, hd'⟩
    · exact .refl
    · exact .single (.go (v := vitals s h) s'.state hd hd')

omit [Field F] [LinearOrder F] in
lemma calm_of_entities (hid : w'.idCounter = w.idCounter) (hmem : w'.members = w.members)
    (hent : w'.entities = w.entities) : Calm w w' := by
  have hf : Framed (fun _ _ => False) w w' := framed_of_entities hid hmem hent
  refine calm_of_framed hf (fun _ h => h) fun e s s' hs hs' => .inl ?_
  rw [hf.get (T := C_State) fun h => h, hs] at hs'
  exact (Option.some.inj hs').symm

/-! ### Messages -/

omit [Field F] [LinearOrder F] in
lemma Wounded.evolves {s s' : C_State} {h : C_Health} (hw : Wounded (hitHealth h.health) s s')
    (hv : Sound .Dying (vitals s h)) :
    Evolves .Dying (vitals s h) (vitals s' (h.setHealth (hitHealth h.health))) := by
  refine .single ?_
  rw [Wounded] at hw
  by_cases hzero : hitHealth h.health = 0
  · have hkill : Step EntityState.Dying (vitals s h)
        { vitals s h with state := .Dying, health := 0 } := .kill hzero
    rw [if_pos hzero] at hw
    rw [hw]
    simpa [vitals, C_Health.setHealth, hzero] using hkill
  · have hlive : s.state ≠ .Dying := by
      intro hd
      have h0 : h.health = 0 := hv.gone.mpr hd
      exact hzero (by simp [hitHealth, h0])
    rw [if_neg hzero, if_neg hlive] at hw
    have hne : s'.state ≠ .Dying := by
      rw [hw]
      show EntityState.Hurt ≠ .Dying
      decide
    exact Step.hurt (v := vitals s h) s'.state hne hlive hzero

/-- **A hit**: a point of health, and either hurt or dying. -/
lemma attack_calm (hw : Consistent w) {m : Message} (hm : m.type = .Being_Attacked)
    (hsound : ∀ e s h, w.getComponent C_State e = some s → w.getComponent C_Health e = some h →
      Sound .Dying (vitals s h)) : ∃ w', dispatch m w = .ok w' ∧ Calm w w' := by
  obtain ⟨hnone, -⟩ | ⟨u, h, a, hu, hhit⟩ := blow_cases hw hm
  · exact ⟨w, hnone, calm_of_entities rfl rfl rfl⟩
  obtain ⟨s, s', hs, hs', hcase⟩ := hhit.state
  refine ⟨u, hu, ?_⟩
  refine calm_at hhit.effects.framed (fun x hx => ⟨?_, ?_⟩) hs hhit.health hs' hhit.hurt
    (hcase.evolves (hsound _ s h hs hhit.health)) rfl rfl
  · rintro (⟨h, -⟩ | ⟨-, h⟩)
    · exact hx h
    · exact absurd h (show Component.State ≠ .Attacker by decide)
  · rintro (⟨h, -⟩ | ⟨-, h⟩)
    · exact hx h
    · exact absurd h (show Component.Health ≠ .Attacker by decide)

omit [Field F] [LinearOrder F] in
lemma Obeys.alive {m : Message} {s s' : C_State} (h : Obeys m s s') (hm : m.type ≠ .Switch_State) :
    s' = s ∨ (s.state ≠ .Dying ∧ s'.state ≠ .Dying) := by
  refine h.imp_right ?_
  rintro ⟨hasked, hd, -⟩
  refine ⟨hd, fun hdying => ?_⟩
  rw [hdying, asked, if_neg hm] at hasked
  revert hasked
  split_ifs <;> decide

lemma dispatch_calm (hw : Consistent w) {m : Message}
    (hm : m.type = .Move ∨ m.type = .Attack ∨ m.type = .Hurt ∨ m.type = .Being_Attacked)
    (hsound : ∀ e s h, w.getComponent C_State e = some s → w.getComponent C_Health e = some h →
      Sound .Dying (vitals s h)) :
    (∃ w', dispatch m w = .ok w' ∧ Calm w w') ∨
    (dispatch m w = .error .uninitialised ∧ ¬ Directed m) := by
  by_cases hb : m.type = .Being_Attacked
  · exact .inl (attack_calm hw hb hsound)
  have hswitch : m.type ≠ .Switch_State := by
    rcases hm with h | h | h | h <;> rw [h] <;> decide
  have hpost := dispatch_peaceful_post hw hb
  cases hu : dispatch m w with
  | error f =>
    obtain ⟨rfl, hdir⟩ := hpost.error hu
    exact .inr ⟨rfl, hdir⟩
  | ok u =>
    obtain ⟨heff, hheard⟩ := hpost.ok hu
    have hf := heff.framed
    refine .inl ⟨u, rfl, calm_of_framed hf ?_ fun e s s' hs hs' => ?_⟩
    · rintro e ⟨-, h⟩
      revert h
      decide
    · by_cases he : e = m.receiver
      · subst he
        obtain ⟨s'', hs'', hobeys⟩ := hheard s hs
        obtain rfl := Option.some.inj (hs''.symm.trans hs')
        exact hobeys.alive hswitch
      · rw [hf.get (T := C_State) fun h => he h.1, hs] at hs'
        exact .inl (Option.some.inj hs').symm

/-! ### Events -/

lemma processEvent_calm (hw : Consistent w) (systems : List System) (e : EntityId) :
    ∃ w', processEvent systems e w = .ok w' ∧ Calm w w' := by
  obtain ⟨u, hu, hf, hstate⟩ := (processEvent_post hw systems e).exists_ok
  refine ⟨u, hu, calm_of_framed hf ?_ fun x s s' hs hs' => ?_⟩
  · rintro x ⟨-, h⟩
    revert h
    decide
  · by_cases hx : x = e
    · subst hx
      obtain ⟨s'', hs'', hcase⟩ := hstate s hs
      obtain rfl := Option.some.inj (hs''.symm.trans hs')
      refine hcase.imp_right ?_
      rintro ⟨hd, hidle, -⟩
      rw [hidle]
      exact ⟨hd, by decide⟩
    · rw [hf.get (T := C_State) fun h => hx h.1, hs] at hs'
      exact .inl (Option.some.inj hs').symm

end Sfrpg
