import Mathlib.Data.Rat.Floor
import Sfrpg.Bodies
import Sfrpg.Vitals

/-!
The timers, and every run of messages, events and timer steps.

A pass of `S_Timers::update` advances the timer of an entity that is hurt, dying or attacking and,
once it is up, forces the entity back to idle; one that was dying gets its full health back first.
That is the only way out of dying, and with it every step of a run keeps every life sound.
-/

namespace Sfrpg

open Lib Lib.Word Lib.Run Life

variable {F : Type} [Field F] [LinearOrder F] [FloorRing F] {w w' : Ecs F} {e : EntityId}
  {dT : F} {s s' : C_State} {h h' : C_Health}

/-! ### One entity -/

/-- The timer of an entity after a step, before it is compared. -/
def advanced (dT : F) (h : C_Health) : Time :=
  h.duration + .milliseconds (S_Timers.wholeMilliseconds dT)

/-- A dying entity whose timer is up is idle again, with full health. -/
structure Revived (dT : F) (s : C_State) (h : C_Health) (s' : C_State) (h' : C_Health) : Prop where
  dying : s.state = .Dying
  up : ¬ S_Timers.Below (advanced dT h) h.deathDuration
  idle : s'.state = .Idle
  full : h'.health = h'.maxHealth
  max : h'.maxHealth = h.maxHealth

/-- What a timer step does to state and health. -/
structure Ticked (dT : F) (s : C_State) (h : C_Health) (s' : C_State) (h' : C_Health) : Prop where
  life : Evolves .Dying (vitals s h) (vitals s' h') ∨ Revived dT s h s' h'
  timer : h'.duration = h.duration ∨ h'.duration = advanced dT h ∨ h'.duration = 0

lemma Ticked.refl (dT : F) (s : C_State) (h : C_Health) : Ticked dT s h s h :=
  ⟨.inl .refl, .inl rfl⟩

lemma Body.Pass.ticked {b b' : Body F} (hp : b.Pass dT b') (hs : b.state = some s)
    (hh : b.health = some h) (hs' : b'.state = some s') (hh' : b'.health = some h') :
    Ticked dT s h s' h' := by
  cases hp with
  | idle =>
    obtain rfl := Option.some.inj (hs.symm.trans hs')
    obtain rfl := Option.some.inj (hh.symm.trans hh')
    exact .refl dT s h
  | heal s₁ h₁ hs₁ hh₁ ht =>
    obtain rfl := Option.some.inj (hs.symm.trans hs₁)
    obtain rfl := Option.some.inj (hh.symm.trans hh₁)
    rw [Body.heal] at hs' hh'
    split at hs'
    · next hbelow =>
      rw [if_pos hbelow] at hh'
      obtain rfl := Option.some.inj (hs.symm.trans hs')
      obtain rfl := Option.some.inj hh'
      exact ⟨.inl .refl, .inr (.inl rfl)⟩
    · next hup =>
      rw [if_neg hup] at hh'
      obtain rfl := Option.some.inj hs'
      by_cases hd : s.state = .Dying
      · obtain rfl := Option.some.inj ((congrArg some (if_pos hd)).symm.trans hh')
        refine ⟨.inr ⟨hd, fun hb => hup (.inr ⟨hd, hb⟩), rfl, rfl, rfl⟩, .inr (.inr rfl)⟩
      · obtain rfl := Option.some.inj ((congrArg some (if_neg hd)).symm.trans hh')
        exact ⟨.inl (.single (.go (v := vitals s h) .Idle hd (by decide))), .inr (.inr rfl)⟩
  | swing s₁ a hs₁ ha ht =>
    obtain rfl := Option.some.inj (hs.symm.trans hs₁)
    have hd : s.state ≠ .Dying := by
      rw [ht]
      decide
    rw [Body.swing] at hs' hh'
    split at hs'
    · next hbelow =>
      rw [if_pos hbelow] at hh'
      obtain rfl := Option.some.inj (hs.symm.trans hs')
      obtain rfl := Option.some.inj (hh.symm.trans hh')
      exact .refl dT s h
    · next hup =>
      rw [if_neg hup] at hh'
      obtain rfl := Option.some.inj hs'
      obtain rfl := Option.some.inj (hh.symm.trans hh')
      exact ⟨.inl (.single (.go (v := vitals s h) .Idle hd (by decide))), .inl rfl⟩

lemma update_spec (hw : w.Ready) (dT : F) :
    ∃ w', S_Timers.update dT w = .ok w' ∧ Ecs.Touches (fun _ _ => True) w w' ∧
      ∀ e s' h', w'.getComponent C_State e = some s' → w'.getComponent C_Health e = some h' →
        ∃ s h, w.getComponent C_State e = some s ∧ w.getComponent C_Health e = some h ∧
          Ticked dT s h s' h' := by
  have harmed : ∀ e ∈ w.members .Timers, ¬ Unarmed w e := by
    rintro e he ⟨-, hnone⟩
    obtain ⟨a, ha⟩ := hw.attacker he
    rw [ha] at hnone
    cases hnone
  obtain ⟨w', hw', heff, hbody⟩ := timers_update dT hw.nodup
    (fun e he => ⟨hw.state he, hw.health he⟩) harmed
  refine ⟨w', hw', heff.framed.touches.mono fun _ _ _ => trivial, fun e s' h' hs' hh' => ?_⟩
  have he := hbody e
  split at he
  · next hmem =>
    obtain ⟨s, hs⟩ := hw.state hmem
    obtain ⟨h, hh⟩ := hw.health hmem
    have hpass := Body.pass_tick dT (body e w)
    rw [← he] at hpass
    exact ⟨s, h, hs, hh, hpass.ticked hs hh hs' hh'⟩
  · obtain ⟨hs, hh, -⟩ := Body.ext_iff.mp he
    exact ⟨s', h', hs.symm.trans hs', hh.symm.trans hh', .refl dT s' h'⟩

/-! ### Runs -/

/-- One step: a message on the bus, an event queued, the next event of an entity handed to its
systems in some order, or a step of the timers. -/
inductive Happening (F : Type)
  | message (m : Message)
  | addEvent (e : EntityId) (event : EventID)
  | processEvent (systems : List System) (e : EntityId)
  | timers (dT : F)

def happen (w : Ecs F) : Happening F → Outcome (Ecs F)
  | .message m => dispatch m w
  | .addEvent e event => pure (w.addEvent e event)
  | .processEvent systems e => processEvent systems e w
  | .timers dT => S_Timers.update dT w

/-- The messages of the game, `Switch_State` apart, and time that does not run backwards. -/
def Happening.Admitted : Happening F → Prop
  | .message m => m.type = .Move ∨ m.type = .Attack ∨ m.type = .Hurt ∨ m.type = .Being_Attacked
  | .timers dT => 0 ≤ dT
  | _ => True

/-- A move says where to. -/
def Happening.Directed : Happening F → Prop
  | .message m => Sfrpg.Directed m
  | _ => True

/-- The invariant: no null pointer in reach, and every life sound. -/
structure Living (w : Ecs F) : Prop where
  ready : w.Ready
  sound : ∀ e s h, w.getComponent C_State e = some s → w.getComponent C_Health e = some h →
    Sound .Dying (vitals s h)
  timer : ∀ e s h, w.getComponent C_State e = some s → w.getComponent C_Health e = some h →
    0 ≤ h.duration.microseconds

/-- What a step does to state and health of every entity. -/
structure Lived (i : Happening F) (w w' : Ecs F) : Prop where
  touches : Ecs.Touches (fun _ _ => True) w w'
  lives : ∀ e s' h', w'.getComponent C_State e = some s' → w'.getComponent C_Health e = some h' →
    ∃ s h, w.getComponent C_State e = some s ∧ w.getComponent C_Health e = some h ∧
      (Evolves .Dying (vitals s h) (vitals s' h') ∨
        ∃ dT, i = .timers dT ∧ Revived dT s h s' h')

omit [Field F] [LinearOrder F] [FloorRing F] in
lemma Living.calm (hw : Living w) (hc : Calm w w') : Living w' where
  ready := hw.ready.touches hc.touches
  sound := by
    intro e s' h' hs' hh'
    obtain ⟨s, h, hs, hh, hev, -, -⟩ := hc.lives e s' h' hs' hh'
    exact hev.sound (hw.sound e s h hs hh)
  timer := by
    intro e s' h' hs' hh'
    obtain ⟨s, h, hs, hh, -, hdur, -⟩ := hc.lives e s' h' hs' hh'
    rw [hdur]
    exact hw.timer e s h hs hh

lemma Calm.lived (hc : Calm w w') (i : Happening F) : Lived i w w' where
  touches := hc.touches
  lives := by
    intro e s' h' hs' hh'
    obtain ⟨s, h, hs, hh, hev, -, -⟩ := hc.lives e s' h' hs' hh'
    exact ⟨s, h, hs, hh, .inl hev⟩

lemma Ticked.sound (ht : Ticked dT s h s' h') (hv : Sound .Dying (vitals s h)) :
    Sound .Dying (vitals s' h') := by
  rcases ht.life with hev | hr
  · exact hev.sound hv
  · have he : vitals s' h' = revive .Idle (vitals s h) := by
      ext1
      · exact hr.idle
      · exact hr.full.trans hr.max
      · exact hr.max
    rw [he]
    exact sound_revive (by decide) hv

lemma wholeMilliseconds_nonneg (h : 0 ≤ dT) :
    0 ≤ S_Timers.wholeMilliseconds dT := by
  rw [S_Timers.wholeMilliseconds, if_pos h, Int.le_floor]
  simpa using h

lemma Ticked.timer_nonneg (ht : Ticked dT s h s' h') (hdT : 0 ≤ dT)
    (h0 : 0 ≤ h.duration.microseconds) : 0 ≤ h'.duration.microseconds := by
  have hstep := wholeMilliseconds_nonneg hdT
  rcases ht.timer with he | he | he
  · rw [he]
    exact h0
  · rw [he, advanced, Time.add_microseconds, Time.milliseconds_microseconds]
    omega
  · rw [he, Time.zero_microseconds]

/-- **A step of the run**: it ends in a living world, or a move had no direction. -/
theorem happen_spec (hw : Living w) (hc : w.Consistent) (i : Happening F) (hi : i.Admitted) :
    (∃ w', happen w i = .ok w' ∧ Living w' ∧ w'.Consistent ∧ Lived i w w') ∨
    (happen w i = .error .uninitialised ∧ ¬ i.Directed) := by
  cases i with
  | message m =>
    rcases dispatch_calm hc hi hw.sound with ⟨w', hw', hcalm⟩ | hno
    · exact .inl ⟨w', hw', hw.calm hcalm, ((dispatch_post hc m).ok hw').consistent hc,
        hcalm.lived _⟩
    · exact .inr hno
  | addEvent e event =>
    have hcalm : Calm w (w.addEvent e event) := calm_of_entities rfl rfl rfl
    exact .inl ⟨_, rfl, hw.calm hcalm, hc.congr rfl rfl, hcalm.lived _⟩
  | processEvent systems e =>
    obtain ⟨w', hw', hcalm⟩ := processEvent_calm hc systems e
    have hf := ((processEvent_post hc systems e).ok hw').1
    exact .inl ⟨w', hw', hw.calm hcalm, hf.consistent hc, hcalm.lived _⟩
  | timers dT =>
    obtain ⟨w', hw', ht, hlives⟩ := update_spec hw.ready dT
    refine .inl ⟨w', hw', ⟨hw.ready.touches ht, ?_, ?_⟩, (timers_body hc hw').1, ht, ?_⟩
    · intro e s' h' hs' hh'
      obtain ⟨s, h, hs, hh, htick⟩ := hlives e s' h' hs' hh'
      exact htick.sound (hw.sound e s h hs hh)
    · intro e s' h' hs' hh'
      obtain ⟨s, h, hs, hh, htick⟩ := hlives e s' h' hs' hh'
      exact htick.timer_nonneg hi (hw.timer e s h hs hh)
    · intro e s' h' hs' hh'
      obtain ⟨s, h, hs, hh, htick⟩ := hlives e s' h' hs' hh'
      exact ⟨s, h, hs, hh, htick.life.imp_right fun hr => ⟨dT, rfl, hr⟩⟩

lemma living_run {is : List (Happening F)} (hw : Living w) (hc : w.Consistent)
    (his : ∀ i ∈ is, i.Admitted) (hr : runE happen w is = .ok w') :
    Living w' ∧ w'.Consistent ∧ Ecs.Touches (fun _ _ => True) w w' := by
  refine runE_inv (I := fun u => Living u ∧ u.Consistent ∧ Ecs.Touches (fun _ _ => True) w u) ?_
    ⟨hw, hc, .refl w⟩ his hr
  rintro u i v ⟨hu, hcu, ht⟩ hi hv
  rcases happen_spec hu hcu i hi with ⟨v', hv', hlive, hcv, hl⟩ | ⟨herr, -⟩
  · rw [hv] at hv'
    cases hv'
    exact ⟨hlive, hcv, ht.trans hl.touches⟩
  · rw [hv] at herr
    cases herr

lemma directed_run {is : List (Happening F)} (hw : Living w) (hc : w.Consistent)
    (his : ∀ i ∈ is, i.Admitted) (hdir : ∀ i ∈ is, i.Directed) :
    ∃ w', runE happen w is = .ok w' := by
  have hstep : ∀ u (i : Happening F), Living u ∧ u.Consistent → i.Admitted ∧ i.Directed →
      ∃ v, happen u i = .ok v ∧ Living v ∧ v.Consistent := by
    rintro u i ⟨hu, hcu⟩ ⟨hi, hd⟩
    rcases happen_spec hu hcu i hi with ⟨v, hv, hlive, hcv, -⟩ | ⟨-, hno⟩
    · exact ⟨v, hv, hlive, hcv⟩
    · exact absurd hd hno
  obtain ⟨u, hu, -⟩ := runE_total hstep ⟨hw, hc⟩ fun i hi => ⟨his i hi, hdir i hi⟩
  exact ⟨u, hu⟩

lemma le_of_not_below {t : Time} {n : ℕ} (ht : 0 ≤ t.microseconds)
    (hb : ¬ S_Timers.Below t n) : (n : ℤ) * 1000 ≤ t.microseconds := by
  rw [S_Timers.Below, Time.asMilliseconds_of_nonneg ht] at hb
  simp only [toUInt32, toInt32] at hb
  omega

/-! ### The world at the start -/

/-- A consistent world, every entity of which has what the game is about, is not dying, and is in
full health. -/
structure Spawned (w : Ecs F) : Prop where
  consistent : w.Consistent
  equipped : ∀ e ∈ w.entities, ∀ c ∈ [Component.State, .Health, .Movable, .Position, .Attacker],
    w.hasComponent e c = true
  alive : ∀ e s, w.getComponent C_State e = some s → s.state ≠ .Dying
  full : ∀ e h, w.getComponent C_Health e = some h → h.health = h.maxHealth ∧ 1 ≤ h.maxHealth
  timer : ∀ e h, w.getComponent C_Health e = some h → 0 ≤ h.duration.microseconds

omit [Field F] [LinearOrder F] [FloorRing F] in
lemma Spawned.mem_timers (hw : Spawned w) {e : EntityId} (he : e ∈ w.entities) :
    e ∈ w.members .Timers := by
  obtain ⟨d, hd⟩ := Dict.exists_lookup he
  have hbit : ∀ c ∈ [Component.State, .Health, .Movable, .Position, .Attacker],
      d.bitmask.getBit c.id = true := by
    intro c hc
    have h := hw.equipped e he c hc
    rwa [Ecs.hasComponent, hd] at h
  refine (hw.consistent.mem .Timers e).mpr ⟨d, hd, ?_⟩
  exact Ecs.fits_timers.mpr ⟨hbit .State (by simp), hbit .Health (by simp)⟩

omit [Field F] [LinearOrder F] [FloorRing F] in
lemma Spawned.living (hw : Spawned w) : Living w where
  ready := by
    have hc := hw.consistent
    refine ⟨hc.nodup .Timers, ?_, ?_⟩
    · intro sys e he
      obtain ⟨d, hd, -⟩ := (hc.mem sys e).mp he
      exact hw.mem_timers (Dict.mem_of_lookup hd)
    · intro e he c hcm
      obtain ⟨d, hd, -⟩ := (hc.mem .Timers e).mp he
      rw [hc.isSome_getBase]
      refine hw.equipped e (Dict.mem_of_lookup hd) c ?_
      simp only [Ecs.equipment, List.mem_cons, List.not_mem_nil, or_false] at hcm ⊢
      tauto
  sound e s h hs hh := sound_full (hw.alive e s hs) (hw.full e h hh).1 (hw.full e h hh).2
  timer e s h _ hh := hw.timer e h hh

lemma Living.leaves_dying {u v : Ecs F} (hu : Living u) (hc : u.Consistent) {i : Happening F}
    (hi : i.Admitted) (hv : happen u i = .ok v) (hs : u.getComponent C_State e = some s)
    (hh : u.getComponent C_Health e = some h) (hs' : v.getComponent C_State e = some s')
    (hh' : v.getComponent C_Health e = some h') (hd : s.state = .Dying)
    (hne : s'.state ≠ .Dying) :
    ∃ dT, i = .timers dT ∧ (h.deathDuration : ℤ) * 1000 ≤ (advanced dT h).microseconds ∧
      s'.state = .Idle ∧ h'.health = h'.maxHealth := by
  rcases happen_spec hu hc i hi with ⟨v', hstep, -, -, hl⟩ | ⟨herr, -⟩
  swap
  · rw [hv] at herr
    cases herr
  rw [hv] at hstep
  cases hstep
  obtain ⟨s₀, h₀, hs₀, hh₀, hlife⟩ := hl.lives e s' h' hs' hh'
  rw [hs] at hs₀
  rw [hh] at hh₀
  cases hs₀
  cases hh₀
  rcases hlife with hev | ⟨dT, rfl, hr⟩
  · exact absurd (hev.stays_dying hd) hne
  · have hstep := wholeMilliseconds_nonneg hi
    have h0 := hu.timer e s h hs hh
    have hadv : 0 ≤ (advanced dT h).microseconds := by
      rw [advanced, Time.add_microseconds, Time.milliseconds_microseconds]
      omega
    exact ⟨dT, rfl, le_of_not_below hadv hr.up, hr.idle, hr.full⟩

/-- **Health and dying.** In every run from a spawned world, whatever messages, events and timer
steps follow one another, the health of every entity stays between nothing and its maximum and is
gone exactly while the entity is dying; and it leaves dying only in a timer step in which its
timer is at its death duration at least, to be idle in full health. No step faults, but for a move
that says not where to. -/
theorem health_and_dying (w : Ecs F) (hw : Spawned w) (is : List (Happening F))
    (his : ∀ i ∈ is, i.Admitted) :
    ((∀ i ∈ is, i.Directed) → ∃ u, runE happen w is = .ok u) ∧
    ∀ u, runE happen w is = .ok u → ∀ e ∈ w.entities,
      ∃ s h, u.getComponent C_State e = some s ∧ u.getComponent C_Health e = some h ∧
        0 ≤ h.health ∧ h.health ≤ h.maxHealth ∧ (h.health = 0 ↔ s.state = .Dying) ∧
        ∀ i : Happening F, i.Admitted → ∀ v, happen u i = .ok v → s.state = .Dying →
          ∀ s' h', v.getComponent C_State e = some s' → v.getComponent C_Health e = some h' →
          s'.state ≠ .Dying →
          ∃ dT, i = .timers dT ∧ (h.deathDuration : ℤ) * 1000 ≤ (advanced dT h).microseconds ∧
            s'.state = .Idle ∧ h'.health = h'.maxHealth := by
  refine ⟨directed_run hw.living hw.consistent his, fun u hu e he => ?_⟩
  obtain ⟨hl, hc, ht⟩ := living_run hw.living hw.consistent his hu
  have hmem : e ∈ u.members .Timers := by
    rw [ht.members]
    exact hw.mem_timers he
  obtain ⟨s, hs⟩ := hl.ready.state hmem
  obtain ⟨h, hh⟩ := hl.ready.health hmem
  have hv := hl.sound e s h hs hh
  refine ⟨s, h, hs, hh, hv.nonneg, hv.le, hv.gone, ?_⟩
  intro i hi v hv' hd s' h' hs' hh' hne
  exact hl.leaves_dying hc hi hv' hs hh hs' hh' hd hne

/-- A creature alone in a fresh store, idle, with one point of health. -/
def loneWorld : Ecs ℚ :=
  ((Ecs.new ℚ).addEntity ⟨.Idle, 1, 1, false⟩
    (((((Bitmask.empty.turnOnBit Component.State.id).turnOnBit Component.Health.id).turnOnBit
      Component.Movable.id).turnOnBit Component.Position.id).turnOnBit Component.Attacker.id) 0).1

lemma mem_loneWorld {e : EntityId} : e ∈ loneWorld.entities ↔ e = 0 := by
  have hkeys : loneWorld.entities.keys = [0] := by decide +kernel
  rw [AList.mem_keys, hkeys, List.mem_singleton]

lemma eq_zero_of_getComponent {T : Type} [CompType ℚ T] {e : EntityId} {x : T}
    (h : loneWorld.getComponent T e = some x) : e = 0 := by
  by_contra hne
  have hnone : loneWorld.entities.lookup e = none :=
    AList.lookup_eq_none.mpr fun he => hne (mem_loneWorld.mp he)
  rw [Ecs.getComponent, Ecs.getBase, hnone] at h
  cases h

lemma health_loneWorld {e : EntityId} {h : C_Health}
    (hh : loneWorld.getComponent C_Health e = some h) : h = ⟨0, 1, 1, 0, 0⟩ := by
  obtain rfl := eq_zero_of_getComponent hh
  have h0 : loneWorld.getComponent C_Health 0 = some ⟨0, 1, 1, 0, 0⟩ := by rfl
  exact Option.some.inj (hh.symm.trans h0)

lemma spawned_loneWorld : Spawned loneWorld where
  consistent := Ecs.consistent_new.addEntity _ _ _
  equipped := by
    intro e he
    obtain rfl := mem_loneWorld.mp he
    decide +kernel
  alive := by
    intro e s hs
    obtain rfl := eq_zero_of_getComponent hs
    have h0 : loneWorld.getComponent C_State 0 = some ⟨.Idle⟩ := by rfl
    obtain rfl := Option.some.inj (hs.symm.trans h0)
    decide
  full := by
    intro e h hh
    obtain rfl := health_loneWorld hh
    decide
  timer := by
    intro e h hh
    obtain rfl := health_loneWorld hh
    decide

/-- The creature hits itself, and lies dying until the next step of the timers. -/
theorem health_and_dying_lone :
    ∃ u, runE happen loneWorld [.message ⟨.Being_Attacked, 0, 0, 0⟩, .timers 1] = .ok u ∧
      ∃ s h, u.getComponent C_State 0 = some s ∧ u.getComponent C_Health 0 = some h ∧
        h.health ≤ h.maxHealth ∧ (h.health = 0 ↔ s.state = .Dying) := by
  have hadm : ∀ i ∈ ([.message ⟨.Being_Attacked, 0, 0, 0⟩, .timers 1] : List (Happening ℚ)),
      i.Admitted := by
    simp [Happening.Admitted]
  have hdir : ∀ i ∈ ([.message ⟨.Being_Attacked, 0, 0, 0⟩, .timers 1] : List (Happening ℚ)),
      i.Directed := by
    simp [Happening.Directed, Directed, EntityMessage.Being_Attacked, EntityMessage.Move]
  obtain ⟨hrun, hall⟩ := health_and_dying loneWorld spawned_loneWorld _ hadm
  obtain ⟨u, hu⟩ := hrun hdir
  obtain ⟨s, h, hs, hh, -, hle, hgone, -⟩ := hall u hu 0 (by decide +kernel)
  exact ⟨u, hu, s, h, hs, hh, hle, hgone⟩

end Sfrpg
