import Mathlib.Algebra.Order.Field.Rat
import Sfrpg.Lib.Countdown
import Sfrpg.Ticks

/-!
Whose attack comes to an end.

`S_Timers` ends an attack once its timer has come to the duration of the attack. Its constructor
asks for a state and health, and goes on to ask for a state and an attack instead; but that second
requirement is never filed, and who has no health is never timed.

An update is driven with whole milliseconds: `World::update` hands on what `asMilliseconds` returns.
-/

namespace Sfrpg

open Lib Lib.Word Lib.Run Ecs

variable {F : Type} [Field F] [LinearOrder F] [FloorRing F] {w u : Ecs F} {e : EntityId}

/-- `S_Timers::update`, once for every step. -/
def S_Timers.updates (w : Ecs F) (ns : List ℤ) : Outcome (Ecs F) :=
  runE (fun w (n : ℤ) => S_Timers.update (n : F) w) w ns

/-- Idle, and ready for the next attack. -/
def Rested (e : EntityId) (w : Ecs F) : Prop :=
  w.getComponent C_State e = some ⟨.Idle⟩ ∧
    ∃ a, w.getComponent (C_Attacker F) e = some a ∧ a.attacked = false ∧ a.duration = 0

/-! ### Who is timed -/

omit [Field F] [LinearOrder F] [FloorRing F] in
lemma Ecs.Consistent.mem_timers (hw : Consistent w) {s : C_State}
    (hs : w.getComponent C_State e = some s) :
    e ∈ w.members .Timers ↔ w.hasComponent e .Health = true := by
  have hstate : w.hasComponent e .State = true := by
    have hbase : (w.getBase e .State).isSome = true := by
      have hsome := isSome_getComponent (T := C_State) (w := w) (e := e)
      rw [hs] at hsome
      exact hsome.symm
    rwa [hw.isSome_getBase] at hbase
  rw [hw.mem .Timers e]
  cases hd : w.entities.lookup e with
  | none => simp [hasComponent, hd]
  | some d =>
    rw [hasComponent, hd] at hstate
    simp only [Option.some.injEq, exists_eq_left', hasComponent, hd]
    rw [fits_timers]
    exact and_iff_right hstate

/-! ### The run of an attack -/

/-- Every attacker the timers come across has something to attack with. -/
structure Armed (w : Ecs F) : Prop where
  consistent : Consistent w
  armed : ∀ e ∈ w.members .Timers, ¬ Unarmed w e

/-- The attack of an entity, by its timer, or that it is over. -/
def Shows (e : EntityId) (d : ℕ) (w : Ecs F) : Option ℤ → Prop
  | some t => w.getComponent C_State e = some ⟨.Attacking⟩ ∧
      ∃ a, w.getComponent (C_Attacker F) e = some a ∧ a.attackDuration = d ∧
        a.duration.microseconds = t
  | none => Rested e w

lemma Body.Pass.unarmed {dT : F} {b b' : Body F} (h : b.Pass dT b')
    (hs : b'.state = some ⟨.Attacking⟩) (ha : b'.attacker = none) :
    b.state = some ⟨.Attacking⟩ ∧ b.attacker = none := by
  have hidle : ¬ (some (⟨.Idle⟩ : C_State) = some ⟨.Attacking⟩) := by
    rw [Option.some.injEq, C_State.mk.injEq]
    decide
  cases h with
  | idle => exact ⟨hs, ha⟩
  | heal s h =>
    rw [Body.heal] at hs ha
    split at hs
    · next hbelow =>
      rw [if_pos hbelow] at ha
      exact ⟨hs, ha⟩
    · exact absurd hs hidle
  | swing s a =>
    rw [Body.swing] at hs ha
    split at hs
    · next hbelow =>
      rw [if_pos hbelow] at ha
      cases ha
    · exact absurd hs hidle

/-- A step of the timers in a world where all are armed: a tick for every member, and all are armed
again. -/
lemma Armed.update (hw : Armed w) (dT : F) :
    ∃ u, S_Timers.update dT w = .ok u ∧ Armed u ∧ u.members = w.members ∧
      ∀ e, body e u = if e ∈ w.members .Timers then (body e w).tick dT else body e w := by
  have hc := hw.consistent
  obtain ⟨u, hu, heff, hbody⟩ := timers_update dT (hc.nodup .Timers) (fun _ => hc.timed) hw.armed
  have hmem := heff.framed.members
  refine ⟨u, hu, ⟨heff.consistent hc, fun x hx hun => ?_⟩, hmem, hbody⟩
  rw [hmem] at hx
  have hx' := hbody x
  rw [if_pos hx] at hx'
  obtain ⟨hs, ha⟩ := hun
  have htick : ((body x w).tick dT).state = some ⟨.Attacking⟩ ∧
      ((body x w).tick dT).attacker = none := by
    rw [← hx']
    exact ⟨hs, ha⟩
  exact hw.armed x hx ((Body.pass_tick dT _).unarmed htick.1 htick.2)

section Timed

variable [IsStrictOrderedRing F] {d : ℕ} {o : Option ℤ}

lemma wholeMilliseconds_intCast (n : ℤ) : S_Timers.wholeMilliseconds (n : F) = n := by
  rw [S_Timers.wholeMilliseconds]
  split
  · exact Int.floor_intCast n
  · exact Int.ceil_intCast n

/-- **A step of an attack** is a step of the countdown. -/
lemma Shows.update (hw : Armed w) (he : e ∈ w.members .Timers) (h : Shows e d w o) (n : ℤ) :
    ∃ u, S_Timers.update (n : F) w = .ok u ∧ Armed u ∧ u.members = w.members ∧
      Shows e d u (Countdown.step d o n) := by
  obtain ⟨u, hu, harmed, hmem, hbody⟩ := hw.update (n : F)
  refine ⟨u, hu, harmed, hmem, ?_⟩
  have hb := hbody e
  rw [if_pos he] at hb
  have hneither : ¬ (EntityState.Attacking = .Hurt ∨ EntityState.Attacking = .Dying) := by decide
  cases o with
  | none =>
    obtain ⟨hs, a, ha, hclear, hzero⟩ := h
    have hstay : (body e w).tick (n : F) = body e w := by
      rw [Body.tick, body, hs]
      dsimp only
      rw [if_neg (by decide), if_neg (by decide)]
    rw [hstay] at hb
    exact ⟨(congrArg Body.state hb).trans hs, a, (congrArg Body.attacker hb).trans ha, hclear,
      hzero⟩
  | some t =>
    obtain ⟨hs, a, ha, rfl, rfl⟩ := h
    have hswing : (body e w).tick (n : F) = (body e w).swing (n : F) a := by
      rw [Body.tick, body, hs, ha]
      dsimp only
      rw [if_neg hneither, if_pos rfl, Option.elim_some]
    rw [hswing, Body.swing, wholeMilliseconds_intCast] at hb
    set x := a.addToTimer (.milliseconds n) with hx
    by_cases hbelow : S_Timers.Below x.duration x.attackDuration
    · rw [if_pos hbelow] at hb
      rw [show Countdown.step a.attackDuration (some a.duration.microseconds) n =
        some (a.duration.microseconds + n * 1000) from if_pos hbelow]
      exact ⟨(congrArg Body.state hb).trans hs, x, congrArg Body.attacker hb, rfl, rfl⟩
    · rw [if_neg hbelow] at hb
      rw [show Countdown.step a.attackDuration (some a.duration.microseconds) n = none
        from if_neg hbelow]
      exact ⟨congrArg Body.state hb, _, congrArg Body.attacker hb, rfl, rfl⟩

lemma Shows.updates (hw : Armed w) (he : e ∈ w.members .Timers) (h : Shows e d w o) (ns : List ℤ) :
    ∃ u, S_Timers.updates w ns = .ok u ∧ Shows e d u (ns.foldl (Countdown.step d) o) := by
  induction ns generalizing w o with
  | nil => exact ⟨w, rfl, h⟩
  | cons n ns ih =>
    obtain ⟨v, hv, harmed, hmem, hshows⟩ := h.update hw he n
    obtain ⟨u, hu, hend⟩ := ih harmed (by rw [hmem]; exact he) hshows
    exact ⟨u, runE_cons_ok.mpr ⟨v, hv, hu⟩, hend⟩

/-! ### Attacks that are not timed -/

omit [IsStrictOrderedRing F] in
lemma updates_unarmed (hw : Consistent w) {x : EntityId} (hx : x ∈ w.members .Timers)
    (hun : Unarmed w x) {ns : List ℤ} (hne : ns ≠ []) :
    S_Timers.updates w ns = .error .nullDeref := by
  cases ns with
  | nil => exact absurd rfl hne
  | cons n ns =>
    exact runE_cons_error.mpr (.inl (timers_update_unarmed (n : F) hw hx hun))

omit [IsStrictOrderedRing F] in
lemma updates_unlisted (hw : Armed w) (he : e ∉ w.members .Timers) (ns : List ℤ) :
    ∃ u, S_Timers.updates w ns = .ok u ∧ body e u = body e w := by
  induction ns generalizing w with
  | nil => exact ⟨w, rfl, rfl⟩
  | cons n ns ih =>
    obtain ⟨v, hv, harmed, hmem, hbody⟩ := hw.update (n : F)
    obtain ⟨u, hu, hsame⟩ := ih harmed (by rw [hmem]; exact he)
    refine ⟨u, runE_cons_ok.mpr ⟨v, hv, hu⟩, ?_⟩
    rw [hsame, hbody e, if_neg he]

omit [Field F] [LinearOrder F] [FloorRing F] [IsStrictOrderedRing F] in
lemma not_rested_of_attacking (hs : w.getComponent C_State e = some ⟨.Attacking⟩) :
    ¬ Rested e w := by
  rintro ⟨hidle, -⟩
  rw [hs, Option.some.injEq, C_State.mk.injEq] at hidle
  exact absurd hidle (by decide)

lemma exists_enough (k : ℤ) :
    ∃ ns : List ℤ, ns ≠ [] ∧ (∀ n ∈ ns, InInt32 n) ∧ k ≤ 1000 * ns.sum := by
  refine ⟨List.replicate (k.natAbs + 1) 1, by simp, fun n hn => ?_, ?_⟩
  · rw [List.eq_of_mem_replicate hn]
    decide
  · rw [List.sum_replicate, nsmul_one]
    push_cast
    have := le_abs_self k
    have := abs_nonneg k
    omega

/-- **Attacks that end.** In every reachable world, take an entity that attacks. However its timer
is driven from there, it is idle, with its attack and its timer reset, as soon as the steps add up
to what is left of the attack: exactly if it has health, nobody listed attacks with nothing, and the
attack lasts no time, or half the range of a timer at most and is not that late already. -/
theorem attack_ends_iff (S : Setting F) (turns : List (Turn F)) (w : Ecs F)
    (hw : runE (turn S) (new F) turns = .ok w) (e : EntityId) (a : C_Attacker F)
    (hs : w.getComponent C_State e = some ⟨.Attacking⟩)
    (ha : w.getComponent (C_Attacker F) e = some a) :
    (∀ ns : List ℤ, ns ≠ [] → (∀ n ∈ ns, InInt32 n) →
      (a.attackDuration : ℤ) * 1000 ≤ a.duration.microseconds + 1000 * ns.sum →
      ∃ u, S_Timers.updates w ns = .ok u ∧ Rested e u) ↔
    w.hasComponent e .Health = true ∧ (∀ x ∈ w.members .Timers, ¬ Unarmed w x) ∧
      (a.attackDuration = 0 ∨
        (a.attackDuration ≤ 2147483649 ∧ a.duration.microseconds < 2147483649000)) := by
  have hc := consistent_reached hw
  rw [← hc.mem_timers hs, ← Countdown.ends_iff]
  have hshows : Shows e a.attackDuration w (some a.duration.microseconds) := ⟨hs, a, ha, rfl, rfl⟩
  constructor
  · intro hends
    obtain ⟨ns, hne, hns, hsum⟩ :=
      exists_enough ((a.attackDuration : ℤ) * 1000 - a.duration.microseconds)
    obtain ⟨v, hv, hrested⟩ := hends ns hne hns (by omega)
    have harmed : Armed w := by
      refine ⟨hc, fun x hx hun => ?_⟩
      rw [updates_unarmed hc hx hun hne] at hv
      cases hv
    have he : e ∈ w.members .Timers := by
      by_contra hno
      obtain ⟨u, hu, hsame⟩ := updates_unlisted harmed hno ns
      rw [hv] at hu
      cases hu
      exact not_rested_of_attacking ((congrArg Body.state hsame).trans hs) hrested
    refine ⟨he, harmed.armed, fun ns hne hns hsum => ?_⟩
    obtain ⟨u, hu, hrested⟩ := hends ns hne hns hsum
    obtain ⟨u', hu', hend⟩ := hshows.updates harmed he ns
    rw [hu] at hu'
    cases hu'
    rw [Countdown.steps]
    cases hsteps : ns.foldl (Countdown.step a.attackDuration) (some a.duration.microseconds) with
    | none => rfl
    | some t =>
      rw [hsteps] at hend
      exact absurd hrested (not_rested_of_attacking hend.1)
  · rintro ⟨he, hall, hends⟩ ns hne hns hsum
    obtain ⟨u, hu, hend⟩ := hshows.updates ⟨hc, hall⟩ he ns
    refine ⟨u, hu, ?_⟩
    rw [show ns.foldl (Countdown.step a.attackDuration) (some a.duration.microseconds) = none from
      hends ns hne hns hsum] at hend
    exact hend

end Timed

/-- Someone with a state, an attack and, or not, health is told to attack. -/
def swordsman (bits : Bitmask) : List (Turn ℚ) :=
  [.store (.addEntity ⟨.Idle, 1, 1, false⟩
      ((bits.turnOnBit Component.State.id).turnOnBit Component.Attacker.id) (-1)),
    .write 0 (.attacker ⟨0, 0, 0, false, 0, 500⟩), .message (.to .Attack 0)]

/-- With health, the attack of half a second is over after two steps of 300 ms. -/
theorem attack_ends_iff_healthy :
    ∃ u, S_Timers.updates (reached (turn (Setting.empty ℚ)) (new ℚ)
        (swordsman (Bitmask.empty.turnOnBit Component.Health.id))) [300, 300] = .ok u ∧
      Rested 0 u := by
  refine (attack_ends_iff (Setting.empty ℚ) _ _ (runE_reached (by decide +kernel)) 0
    ⟨0, 0, 0, false, 0, 500⟩ (by rfl) (by rfl)).mpr ?_ [300, 300] (by simp) (by decide) (by decide)
  refine ⟨by decide +kernel, ?_, .inr ⟨by decide, by decide⟩⟩
  rintro x hx ⟨-, hnone⟩
  have hmem : (reached (turn (Setting.empty ℚ)) (new ℚ)
      (swordsman (Bitmask.empty.turnOnBit Component.Health.id))).members .Timers = [0] := by
    decide +kernel
  rw [hmem, List.mem_singleton] at hx
  subst hx
  cases hnone

/-- Without health, it is not over after an hour. -/
theorem attack_without_health :
    ∃ w, runE (turn (Setting.empty ℚ)) (new ℚ) (swordsman .empty) = .ok w ∧
      w.getComponent C_State 0 = some ⟨.Attacking⟩ ∧
      w.getComponent (C_Attacker ℚ) 0 = some ⟨0, 0, 0, false, 0, 500⟩ ∧
      ∃ u, S_Timers.updates w [3600000] = .ok u ∧
        u.getComponent C_State 0 = some ⟨.Attacking⟩ := by
  refine ⟨reached (turn (Setting.empty ℚ)) (new ℚ) (swordsman .empty),
    runE_reached (by decide +kernel), by rfl, by rfl, _, runE_reached (by decide +kernel), by rfl⟩

end Sfrpg
