import Sfrpg.Lib.Settle
import Sfrpg.Lull
import Sfrpg.Movement

/-!
A world that nobody plays in comes to rest.

Each step the ground takes something of the velocity of everybody, nobody is faster than his
maximum, and whoever has stopped sets off again only when he is struck. Blows run out. What is left
is to hear of it: `S_State` asks whoever walks, and `S_Movement` tells it once the entity has
stopped.
-/

namespace Sfrpg

open Lib Lib.Word Lib.Run Life Ecs

/-! ### A step that slows down -/

section Step

variable {F : Type} [Field F] [LinearOrder F]

/-- Nothing pushes it, and neither of its velocities is above `b`. -/
def C_Movable.Slow (b : F) (mov : C_Movable F) : Prop :=
  mov.acceleration = 0 ∧ |mov.velocity.x| ≤ b ∧ |mov.velocity.y| ≤ b

lemma C_Movable.limited_zero (velocityMax : F) : limited velocityMax (0 : F) = 0 := by
  unfold limited
  split
  · rw [zero_div, mul_zero]
  · rfl

lemma C_Movable.slowed_zero (friction : F) : slowed (0 : F) friction = 0 := by
  unfold slowed
  rw [if_neg fun h => h.1 rfl]

variable [IsStrictOrderedRing F]

lemma C_Movable.slow_zero {mov : C_Movable F} :
    mov.Slow 0 ↔ mov.velocity = 0 ∧ mov.acceleration = 0 := by
  unfold Slow
  rw [abs_nonpos_iff, abs_nonpos_iff, and_comm (a := mov.velocity = 0)]
  refine and_congr_right fun _ => ⟨fun h => Vector2f.ext h.1 h.2, fun h => ?_⟩
  rw [h]
  exact ⟨rfl, rfl⟩

lemma C_Movable.limited_le {velocityMax : F} (hmax : 0 ≤ velocityMax) (v : F) :
    |limited velocityMax v| ≤ velocityMax ∧ |limited velocityMax v| ≤ |v| := by
  unfold limited
  split
  · next h =>
    have hpos : |v| ≠ 0 := (hmax.trans_lt h).ne'
    rw [abs_mul, abs_div, abs_abs, div_self hpos, mul_one, abs_of_nonneg hmax]
    exact ⟨le_rfl, h.le⟩
  · next h => exact ⟨not_lt.mp h, le_rfl⟩

lemma C_Movable.slowed_le {b φ v friction : F} (hb : 0 ≤ b) (hφ : 0 ≤ φ) (hf : φ ≤ friction)
    (hv : |v| ≤ b + φ) : |slowed v friction| ≤ b := by
  have hpos : 0 ≤ friction := hφ.trans hf
  unfold slowed
  by_cases hzero : v = 0
  · rw [if_neg fun h => h.1 hzero, hzero, abs_zero]
    exact hb
  by_cases hsmooth : friction = 0
  · rw [if_neg fun h => h.2 hsmooth]
    linarith
  rw [if_pos (And.intro hzero hsmooth), abs_of_nonneg hpos]
  split
  · rw [abs_zero]
    exact hb
  · next h =>
    have hle : friction ≤ |v| := by linarith
    split
    · next hv' =>
      rw [abs_of_pos hv'] at hle hv
      rw [abs_of_nonneg (by linarith)]
      linarith
    · next hv' =>
      rw [abs_of_nonpos (not_lt.mp hv')] at hle hv
      rw [abs_of_nonpos (by linarith)]
      linarith

namespace S_Movement

variable [FloorRing F]

omit [IsStrictOrderedRing F] in
lemma movementStep_acceleration (S : Setting F) (dT : F) (mov : C_Movable F) (pos : C_Position F) :
    (movementStep S dT mov pos).acceleration = 0 := by
  rw [movementStep_eq, shortened]
  split <;> rfl

lemma movementStep_slow (S : Setting F) {b φ dT : F} {mov : C_Movable F} {pos : C_Position F}
    (hb : 0 ≤ b) (hφ : 0 ≤ φ) (hmax : 0 ≤ mov.velocityMax)
    (hx : φ ≤ (appliedFriction (frictionUnder S.map pos) dT mov).x)
    (hy : φ ≤ (appliedFriction (frictionUnder S.map pos) dT mov).y)
    (h : mov.velocityMax ≤ b + φ ∨ mov.Slow (b + φ)) : (movementStep S dT mov pos).Slow b := by
  have hlimited : ∀ v a : F, (mov.acceleration = 0 → a = 0) → (mov.Slow (b + φ) → |v| ≤ b + φ) →
      |C_Movable.limited mov.velocityMax (v + a * dT)| ≤ b + φ := by
    intro v a ha hv
    obtain ⟨hcapped, hsmaller⟩ := C_Movable.limited_le hmax (v + a * dT)
    rcases h with h | h
    · exact hcapped.trans h
    · rw [ha h.1, zero_mul, add_zero] at hsmaller ⊢
      exact hsmaller.trans (hv h)
  have hmax' : 0 ≤ (slowedDown (frictionUnder S.map pos) dT mov).velocityMax := hmax
  have hshort := shortened_shrinks S hmax'
  refine ⟨movementStep_acceleration S dT mov pos, ?_, ?_⟩
  · refine hshort.1.size.trans (C_Movable.slowed_le hb hφ hx (hlimited _ _ (fun h => ?_) (·.2.1)))
    rw [h]
    rfl
  · refine hshort.2.size.trans (C_Movable.slowed_le hb hφ hy (hlimited _ _ (fun h => ?_) (·.2.2)))
    rw [h]
    rfl

lemma movementStep_stopped (S : Setting F) (dT : F) {mov : C_Movable F} (pos : C_Position F)
    (h : mov.Slow 0) : (movementStep S dT mov pos).Slow 0 := by
  obtain ⟨hv, ha⟩ := C_Movable.slow_zero.mp h
  have hadded : mov.addVelocity ⟨mov.acceleration.x * dT, mov.acceleration.y * dT⟩ = mov := by
    have hzero : C_Movable.limited mov.velocityMax (0 + 0 * dT) = 0 := by
      rw [zero_mul, add_zero, C_Movable.limited_zero]
    obtain ⟨velocity, velocityMax, speed, acceleration, direction⟩ := mov
    obtain rfl : velocity = 0 := hv
    obtain rfl : acceleration = 0 := ha
    exact congrArg (fun v => C_Movable.mk v velocityMax speed 0 direction)
      (Vector2f.ext hzero hzero)
  have hslowed : (slowedDown (frictionUnder S.map pos) dT mov).velocity = 0 := by
    rw [slowedDown, hadded, C_Movable.applyFriction, C_Movable.setAcceleration, hv]
    exact Vector2f.ext (C_Movable.slowed_zero _) (C_Movable.slowed_zero _)
  refine C_Movable.slow_zero.mpr ⟨?_, movementStep_acceleration S dT mov pos⟩
  rw [movementStep_eq, shortened]
  split
  · exact hslowed
  · refine Vector2f.ext ?_ ?_
    · rw [C_Movable.setVelocity, hslowed]
      exact (mul_eq_zero_of_left (zero_div _) _)
    · rw [C_Movable.setVelocity, hslowed]
      exact (mul_eq_zero_of_left (zero_div _) _)

end S_Movement

end Step

/-! ### What moves -/

section Moves

variable {F : Type} {P Q : C_Movable F → Prop} {w u : Ecs F}

/-- Everybody whom `S_Movement` moves has a motion in `P`. -/
def EachMoves (P : C_Movable F → Prop) (w : Ecs F) : Prop :=
  ∀ e ∈ w.members .Movement, ∀ mov ∈ w.getComponent (C_Movable F) e, P mov

lemma EachMoves.of_forall (h : EachMoves P w) (hmembers : u.members = w.members)
    (hmov : ∀ e, ∀ mov' ∈ u.getComponent (C_Movable F) e,
      ∃ mov, w.getComponent (C_Movable F) e = some mov ∧ (P mov → Q mov')) : EachMoves Q u := by
  intro e he mov' hmov'
  rw [hmembers] at he
  obtain ⟨mov, hget, hPQ⟩ := hmov e mov' hmov'
  exact hPQ (h e he mov hget)

lemma EachMoves.congr (h : EachMoves P w) (hmembers : u.members = w.members)
    (hmov : ∀ e, u.getComponent (C_Movable F) e = w.getComponent (C_Movable F) e) :
    EachMoves P u :=
  h.of_forall hmembers fun e mov hget => ⟨mov, (hmov e).symm.trans hget, id⟩

/-- Nobody's maximum is negative, or above `b`. -/
def Capped (b : F) [LE F] [Zero F] (w : Ecs F) : Prop :=
  EachMoves (fun mov => 0 ≤ mov.velocityMax ∧ mov.velocityMax ≤ b) w

end Moves

variable {F : Type} [Field F] [LinearOrder F] {w u v : Ecs F} {e : EntityId}

/-! ### The updates -/

section Updates

variable [IsStrictOrderedRing F] [FloorRing F]

/-- The systems are updated one after the other. -/
def updateAll (S : Setting F) (dT : F) (l : List System) (w : Ecs F) : Outcome (Ecs F) :=
  l.foldlM (fun w sys => update S dT sys w) w

omit [IsStrictOrderedRing F] in
lemma movement_moves (S : Setting F) {P Q : C_Movable F → Prop} {dT : F} (hw : Consistent w)
    (hu : S_Movement.update S dT w = .ok u) (h : EachMoves P w)
    (hstep : ∀ e ∈ w.members .Movement, ∀ mov ∈ w.getComponent (C_Movable F) e,
      ∀ pos ∈ w.getComponent (C_Position F) e, P mov → Q (S_Movement.movementStep S dT mov pos)) :
    EachMoves Q u := by
  obtain ⟨u', hu', -, heff, hin, -⟩ := movement_steps S dT hw
  obtain rfl : u = u' := Except.ok.inj (hu.symm.trans hu')
  intro e he mov' hmov'
  rw [heff.framed.members] at he
  obtain ⟨mov, hmov⟩ := hw.get (T := C_Movable F) he .Movable rfl (by decide)
  obtain ⟨pos, hpos⟩ := hw.get (T := C_Position F) he .Position rfl (by decide)
  rw [hin e he mov pos hmov hpos] at hmov'
  cases hmov'
  exact hstep e he mov hmov pos hpos (h e he mov hmov)

lemma updateAll_lull (S : Setting F) (dT : F) (l : List System) (hw : Unattended w) :
    ∃ u, updateAll S dT l w = .ok u ∧ Lull w u ∧ (.Movement ∉ l → Unpushed w u) ∧
      (swingsLeft u = swingsLeft w → EachMoves (·.Slow 0) w → EachMoves (·.Slow 0) u) := by
  induction l generalizing w with
  | nil => exact ⟨w, rfl, .refl w, fun _ _ _ => rfl, fun _ h => h⟩
  | cons sys l ih =>
    obtain ⟨v, hv, hlull, hunpushed⟩ := update_lull S hw sys dT
    obtain ⟨u, hu, hlull', hunpushed', hstopped'⟩ := ih (hlull.unattended hw)
    have hle := hlull.swingsLeft_le
    have hle' := hlull'.swingsLeft_le
    refine ⟨u, foldlM_cons_ok.mpr ⟨v, hv, hu⟩, hlull.trans hlull', fun hno heq e => ?_,
      fun heq hstop => hstopped' (by omega) ?_⟩
    · rw [List.mem_cons, not_or] at hno
      rw [hunpushed' hno.2 (by omega) e, hunpushed (Ne.symm hno.1) (by omega) e]
    · by_cases hsys : sys = .Movement
      · subst hsys
        exact movement_moves S hw.consistent hv hstop fun _ _ _ _ pos _ =>
          S_Movement.movementStep_stopped S dT pos
      · exact hstop.congr hlull.framed.members (hunpushed hsys (by omega))

end Updates

/-! ### The events -/

/-- It moves as before, except that something may have stopped it. -/
structure Calmer (mov mov' : C_Movable F) : Prop where
  velocityMax : mov'.velocityMax = mov.velocityMax
  speed : mov'.speed = mov.speed
  acceleration : mov'.acceleration = mov.acceleration
  x : mov'.velocity.x = 0 ∨ mov'.velocity.x = mov.velocity.x
  y : mov'.velocity.y = 0 ∨ mov'.velocity.y = mov.velocity.y

lemma Driven.calmer {pushes stops : List EventID} {mov mov' : C_Movable F}
    (h : Driven pushes stops mov mov') (hp : ∀ x ∈ pushes, Pushless x) : Calmer mov mov' where
  velocityMax := h.velocityMax
  speed := h.speed
  acceleration := by
    have hnone : ∀ event ∈ [EntityEvent.Moving_Left, .Moving_Right, .Moving_Up, .Moving_Down],
        (times event pushes : F) = 0 := by
      intro event hevent
      have hzero : pushes.count event.id = 0 :=
        List.count_eq_zero.mpr fun hmem => hp _ hmem hevent
      rw [times, hzero, Nat.cast_zero]
    rw [h.acceleration, hnone .Moving_Left (by simp), hnone .Moving_Right (by simp),
      hnone .Moving_Up (by simp), hnone .Moving_Down (by simp)]
    simp
  x := by
    rw [h.velocity]
    dsimp only
    split
    · exact .inl rfl
    · exact .inr rfl
  y := by
    rw [h.velocity]
    dsimp only
    split
    · exact .inl rfl
    · exact .inr rfl

lemma Calmer.slow [IsStrictOrderedRing F] {b : F} (hb : 0 ≤ b) {mov mov' : C_Movable F}
    (h : Calmer mov mov') (hslow : mov.Slow b) : mov'.Slow b := by
  refine ⟨h.acceleration.trans hslow.1, ?_, ?_⟩
  · rcases h.x with hx | hx
    · rw [hx, abs_zero]
      exact hb
    · rw [hx]
      exact hslow.2.1
  · rcases h.y with hy | hy
    · rw [hy, abs_zero]
      exact hb
    · rw [hy]
      exact hslow.2.2

section Heed

variable {log : List (Delivery F)}

/-- Whoever is not idle after the events was in the same state before them, and has not heard that
he has stopped unless he is dying. -/
lemma Heeded.state_before (h : Heeded w u log) (hc : Consistent w) (hframed : Framed Moved w u)
    (hrec : ∀ sys e, received sys e log = if w.hasEntity sys e then queue e w else [])
    {s : EntityState} (hs : s ≠ .Idle) (hu : u.getComponent C_State e = some ⟨s⟩) :
    w.getComponent C_State e = some ⟨s⟩ ∧
      (EntityEvent.Became_Idle.id ∈ queue e w → s = .Dying) := by
  have hsome := hframed.isSome_get (T := C_State) e
  rw [hu, Option.isSome_some, eq_comm, Option.isSome_iff_exists] at hsome
  obtain ⟨s₀, hs₀⟩ := hsome
  have hbrought : brought .State e (log.map Delivery.key) = queue e w :=
    (hrec .State e).trans (if_pos (hc.mem_state hs₀))
  have hcalm := calmed_foldl (log.map Delivery.key) hs₀
  rw [hbrought, ← h.entities] at hcalm
  replace hcalm := Option.some.inj (hu.symm.trans hcalm)
  split at hcalm
  · exact absurd (congrArg C_State.state hcalm) hs
  · next hno =>
    subst hcalm
    exact ⟨hs₀, fun hmem => not_not.mp fun hne => hno ⟨hmem, hne⟩⟩

lemma Heeded.moving_before (h : Heeded w u log) (hframed : Framed Moved w u)
    (hrec : ∀ sys e, received sys e log = if w.hasEntity sys e then queue e w else [])
    (hpushless : ∀ x ∈ queue e w, Pushless x) {mov' : C_Movable F}
    (hu : u.getComponent (C_Movable F) e = some mov') :
    ∃ mov, w.getComponent (C_Movable F) e = some mov ∧ Calmer mov mov' := by
  have hsome := hframed.isSome_get (T := C_Movable F) e
  rw [hu, Option.isSome_some, eq_comm, Option.isSome_iff_exists] at hsome
  obtain ⟨mov, hmov⟩ := hsome
  have hbrought : brought .Control e (log.map Delivery.key) =
      if w.hasEntity .Control e then queue e w else [] := hrec .Control e
  obtain ⟨mov'', hmov'', hdriven⟩ := driven_foldl (log.map Delivery.key) hmov
  rw [← h.entities] at hmov''
  obtain rfl : mov'' = mov' := Option.some.inj (hmov''.symm.trans hu)
  refine ⟨mov, hmov, hdriven.calmer fun x hx => ?_⟩
  rw [hbrought] at hx
  split at hx
  · exact hpushless x hx
  · simp at hx

end Heed

/-- What the events of a lull leave. -/
structure Quieted (w u : Ecs F) : Prop where
  unattended : Unattended u
  members : u.members = w.members
  swings : swingsLeft u ≤ swingsLeft w
  moving : ∀ e, ∀ mov' ∈ u.getComponent (C_Movable F) e,
    ∃ mov, w.getComponent (C_Movable F) e = some mov ∧ Calmer mov mov'
  walking : ∀ e, u.getComponent C_State e = some ⟨.Walking⟩ →
    w.getComponent C_State e = some ⟨.Walking⟩ ∧ EntityEvent.Became_Idle.id ∉ queue e w

lemma handleEvents_quieted [FloorRing F] (hw : Unattended w) {systems : List System}
    (hs : systems.Nodup) (hall : ∀ sys, sys ∈ systems) {keys : List EntityId} (hk : keys.Nodup)
    (hkeys : ∀ e, e ∈ keys ↔ e ∈ w.events) :
    ∃ u, handleEvents systems keys w = .ok u ∧ Quieted w u := by
  have hc := hw.consistent
  obtain ⟨u, log, hu, hheed, hframed, hrec, hq⟩ := handleEvents_heeded hc hs hall hk hkeys
  have hattacker : ∀ e, u.getComponent (C_Attacker F) e = w.getComponent (C_Attacker F) e :=
    fun e => hframed.get (T := C_Attacker F)
      (show ¬ (Component.Attacker = .State ∨ Component.Attacker = .Movable) by decide)
  have hattacking : ∀ e, u.getComponent C_State e = some ⟨.Attacking⟩ →
      w.getComponent C_State e = some ⟨.Attacking⟩ := fun e hatt =>
    (hheed.state_before hc hframed hrec (by decide) hatt).1
  refine ⟨u, hu, ⟨hheed.consistent, ?_, ?_, ?_⟩, hframed.members, ?_, ?_, ?_⟩
  · intro e p hp
    have hinput : u.input = w.input := by rw [hheed.rest]
    exact hw.unasked e p (hinput ▸ hp)
  · intro e x hx
    rw [queue, hq] at hx
    split at hx <;> simp at hx
  · intro e he hun
    rw [hframed.members] at he
    exact hw.armed e he ⟨hattacking e hun.1, (hattacker e).symm.trans hun.2⟩
  · rw [swingsLeft, swingsLeft, hframed.members]
    refine List.sum_le_sum fun e _ => Nat.add_le_add (le_of_eq ?_) ?_
    · rw [hasAttacked, hasAttacked, hattacker]
    · split
      · next hatt => rw [if_pos (hattacking e hatt)]
      · exact Nat.zero_le _
  · exact fun e mov' hmov' => hheed.moving_before hframed hrec (hw.pushless e) hmov'
  · intro e hwalk
    obtain ⟨hwas, hno⟩ := hheed.state_before hc hframed hrec (by decide) hwalk
    exact ⟨hwas, fun hmem => absurd (hno hmem) (by decide)⟩

/-! ### A pass of the loop -/

/-- What `SystemManager::update` is called with: a time, and the orders in which the systems and the
queues lie in their hash tables. -/
structure Pace (F : Type) where
  dT : F
  systems : List System
  keys : Ecs F → List EntityId
  nodup : systems.Nodup
  all : ∀ sys, sys ∈ systems
  keys_nodup : ∀ w, (keys w).Nodup
  mem_keys : ∀ w e, e ∈ keys w ↔ e ∈ w.events

section Paced

variable [FloorRing F]

def paced (S : Setting F) (w : Ecs F) (p : Pace F) : Outcome (Ecs F) :=
  tick S p.dT p.systems p.keys w

/-- The ground takes `φ` at least of either velocity of everybody whom `S_Movement` moves. -/
def Gripped (S : Setting F) (φ dT : F) (w : Ecs F) : Prop :=
  ∀ e ∈ w.members .Movement, ∀ mov ∈ w.getComponent (C_Movable F) e,
    ∀ pos ∈ w.getComponent (C_Position F) e,
      φ ≤ (S_Movement.appliedFriction (S_Movement.frictionUnder S.map pos) dT mov).x ∧
        φ ≤ (S_Movement.appliedFriction (S_Movement.frictionUnder S.map pos) dT mov).y

/-- It does so where they stand when it is the turn of `S_Movement`. -/
def Braked (S : Setting F) (φ : F) (w : Ecs F) (p : Pace F) : Prop :=
  ∀ u, updateAll S p.dT (p.systems.takeWhile (· ≠ .Movement)) w = .ok u → Gripped S φ p.dT u

instance (S : Setting F) (φ dT : F) (w : Ecs F) : Decidable (Gripped S φ dT w) :=
  inferInstanceAs (Decidable (∀ e ∈ w.members .Movement, ∀ mov ∈ w.getComponent (C_Movable F) e,
    ∀ pos ∈ w.getComponent (C_Position F) e, _ ∧ _))

instance (S : Setting F) (φ : F) (w : Ecs F) (p : Pace F) : Decidable (Braked S φ w p) :=
  match h : updateAll S p.dT (p.systems.takeWhile (· ≠ .Movement)) w with
  | .error _ => .isTrue fun _ hu => absurd (h.symm.trans hu) (by simp)
  | .ok u => decidable_of_iff (Gripped S φ p.dT u)
      ⟨fun hu v hv => Except.ok.inj (h.symm.trans hv) ▸ hu, fun hu => hu u h⟩

/-- Whoever is moved does not move, and does not seem to. -/
def AtRest (w : Ecs F) : Prop :=
  EachMoves (fun mov => mov.velocity = 0 ∧ mov.acceleration = 0) w ∧
    ∀ e ∈ w.members .Movement, w.getComponent C_State e ≠ some ⟨.Walking⟩

instance : DecidablePred (AtRest (F := F)) := fun w =>
  inferInstanceAs (Decidable ((∀ e ∈ w.members .Movement, ∀ mov ∈ w.getComponent (C_Movable F) e,
    mov.velocity = 0 ∧ mov.acceleration = 0) ∧ ∀ e ∈ w.members .Movement, _ ≠ _))

variable [IsStrictOrderedRing F]

omit [FloorRing F] in
lemma AtRest.stopped (h : AtRest w) : EachMoves (·.Slow 0) w :=
  h.1.congr rfl (fun _ => rfl) |>.of_forall rfl fun _ mov hmov =>
    ⟨mov, hmov, C_Movable.slow_zero.mpr⟩

omit [FloorRing F] [IsStrictOrderedRing F] [Field F] [LinearOrder F] in
lemma Pace.split (p : Pace F) (sys : System) :
    ∃ before after, p.systems = before ++ sys :: after ∧ sys ∉ before ∧ sys ∉ after := by
  obtain ⟨before, after, hsplit⟩ := List.append_of_mem (p.all sys)
  have hnodup := p.nodup
  rw [hsplit, List.nodup_middle, List.nodup_cons, List.mem_append, not_or] at hnodup
  exact ⟨before, after, hsplit, hnodup.1⟩

omit [IsStrictOrderedRing F] in
lemma updateAll_middle_ok {S : Setting F} {dT : F} {before after : List System} {sys : System} :
    updateAll S dT (before ++ sys :: after) w = .ok u ↔ ∃ v, updateAll S dT before w = .ok v ∧
      ∃ v', update S dT sys v = .ok v' ∧ updateAll S dT after v' = .ok u := by
  unfold updateAll
  rw [foldlM_append_ok]
  simp only [foldlM_cons_ok]

lemma updateAll_turn (S : Setting F) (p : Pace F) (sys : System) (hw : Unattended w)
    (hu : updateAll S p.dT p.systems w = .ok u) :
    ∃ w₁ w₂, updateAll S p.dT (p.systems.takeWhile (· ≠ sys)) w = .ok w₁ ∧
      update S p.dT sys w₁ = .ok w₂ ∧ Lull w w₁ ∧ Lull w₁ w₂ ∧ Lull w₂ u ∧
      (sys = .Movement → Unpushed w w₁ ∧ Unpushed w₂ u) ∧
      (swingsLeft w₁ = swingsLeft w → EachMoves (·.Slow 0) w → EachMoves (·.Slow 0) w₁) := by
  obtain ⟨before, after, hsplit, hno, hno'⟩ := p.split sys
  have hturn : p.systems.takeWhile (· ≠ sys) = before := by
    rw [hsplit, List.takeWhile_append_of_pos fun x hx => ?_]
    · simp
    · exact decide_eq_true fun heq : x = sys => hno (heq ▸ hx)
  rw [hsplit, updateAll_middle_ok] at hu
  obtain ⟨w₁, h₁, w₂, h₂, h₃⟩ := hu
  obtain ⟨w₁', h₁', hlull₁, hunpushed₁, hstopped₁⟩ := updateAll_lull S p.dT before hw
  obtain rfl : w₁ = w₁' := Except.ok.inj (h₁.symm.trans h₁')
  have hw₁ := hlull₁.unattended hw
  obtain ⟨w₂', h₂', hlull₂, -⟩ := update_lull S hw₁ sys p.dT
  obtain rfl : w₂ = w₂' := Except.ok.inj (h₂.symm.trans h₂')
  obtain ⟨u', h₃', hlull₃, hunpushed₃, -⟩ := updateAll_lull S p.dT after (hlull₂.unattended hw₁)
  obtain rfl : u = u' := Except.ok.inj (h₃.symm.trans h₃')
  refine ⟨w₁, w₂, hturn ▸ h₁, h₂, hlull₁, hlull₂, hlull₃, ?_, hstopped₁⟩
  rintro rfl
  exact ⟨hunpushed₁ hno, hunpushed₃ hno'⟩

lemma updateAll_slow (S : Setting F) {b φ : F} (hb : 0 ≤ b) (hφ : 0 ≤ φ) (p : Pace F)
    (hw : Unattended w) (hu : updateAll S p.dT p.systems w = .ok u)
    (heq : swingsLeft u = swingsLeft w) (hgrip : Braked S φ w p)
    (hmax : EachMoves (fun mov => 0 ≤ mov.velocityMax) w)
    (h : EachMoves (fun mov => mov.velocityMax ≤ b + φ ∨ mov.Slow (b + φ)) w) :
    EachMoves (·.Slow b) u := by
  obtain ⟨w₁, w₂, h₁, h₂, hlull₁, hlull₂, hlull₃, hunpushed, -⟩ :=
    updateAll_turn S p .Movement hw hu
  obtain ⟨hunpushed₁, hunpushed₃⟩ := hunpushed rfl
  have hle₁ := hlull₁.swingsLeft_le
  have hle₂ := hlull₂.swingsLeft_le
  have hle₃ := hlull₃.swingsLeft_le
  -- what moves on the way to the turn of `S_Movement`, and after it, has been struck
  have hmoves : EachMoves (fun mov => 0 ≤ mov.velocityMax ∧
      (mov.velocityMax ≤ b + φ ∨ mov.Slow (b + φ))) w₁ :=
    EachMoves.congr (fun e he mov hmov => ⟨hmax e he mov hmov, h e he mov hmov⟩)
      hlull₁.framed.members (hunpushed₁ (by omega))
  have hslow : EachMoves (·.Slow b) w₂ := by
    refine movement_moves S (hlull₁.unattended hw).consistent h₂ hmoves
      fun e he mov hmov pos hpos hP => ?_
    obtain ⟨hx, hy⟩ := hgrip w₁ h₁ e he mov hmov pos hpos
    exact S_Movement.movementStep_slow S hb hφ hP.1 hx hy hP.2
  exact hslow.congr hlull₃.framed.members (hunpushed₃ (by omega))

lemma updateAll_heard (S : Setting F) (p : Pace F) (hw : Unattended w)
    (hu : updateAll S p.dT p.systems w = .ok u) (heq : swingsLeft u = swingsLeft w)
    (h : EachMoves (·.Slow 0) w) (he : e ∈ u.members .Movement)
    (hwalk : u.getComponent C_State e = some ⟨.Walking⟩) :
    EntityEvent.Became_Idle.id ∈ queue e u := by
  obtain ⟨w₁, w₂, -, h₂, hlull₁, hlull₂, hlull₃, -, hstopped₁⟩ := updateAll_turn S p .State hw hu
  have hc := (hlull₁.unattended hw).consistent
  obtain ⟨w₂', h₂', -, hheard⟩ := state_restful hc
  obtain rfl : w₂ = w₂' := Except.ok.inj (h₂.symm.trans h₂')
  have hle₁ := hlull₁.swingsLeft_le
  have hle₂ := hlull₂.swingsLeft_le
  have hle₃ := hlull₃.swingsLeft_le
  rw [hlull₃.framed.members, hlull₂.framed.members] at he
  obtain ⟨mov, hmov⟩ := hc.get (T := C_Movable F) he .Movable rfl (by decide)
  have hstop := C_Movable.slow_zero.mp (hstopped₁ (by omega) h e he mov hmov)
  exact hlull₃.waits e _
    (hheard e ⟨hlull₂.walking (hlull₃.walking hwalk), he, mov, hmov, hstop.1⟩)

omit [FloorRing F] [IsStrictOrderedRing F] in
lemma Capped.of_lull {b : F} (h : Capped b w) (hlull : Lull w u) (hquiet : Quieted u v) :
    Capped b v := by
  refine EachMoves.of_forall h (hquiet.members.trans hlull.framed.members) fun e mov'' hmov'' => ?_
  obtain ⟨mov', hmov', hcalm⟩ := hquiet.moving e mov'' hmov''
  obtain ⟨mov, hmov, hmax, -⟩ := hlull.build e mov' hmov'
  refine ⟨mov, hmov, fun hP => ?_⟩
  rw [hcalm.velocityMax, hmax]
  exact hP

/-- **A pass while nobody plays**. It goes well and takes no swing back; and if it uses up none, it
slows everybody down, and brings whoever has stopped to rest. -/
lemma paced_quiets (S : Setting F) {φ c : F} (hφ : 0 ≤ φ) (p : Pace F) (hw : Unattended w)
    (hcap : Capped c w) (hgrip : Braked S φ w p) :
    ∃ u, paced S w p = .ok u ∧ Unattended u ∧ Capped c u ∧ swingsLeft u ≤ swingsLeft w ∧
      (swingsLeft u = swingsLeft w →
        (∀ b, 0 ≤ b → EachMoves (fun mov => mov.velocityMax ≤ b + φ ∨ mov.Slow (b + φ)) w →
          EachMoves (·.Slow b) u) ∧
        (EachMoves (·.Slow 0) w → AtRest u)) := by
  obtain ⟨v, hv, hlull, -, hstopped⟩ := updateAll_lull S p.dT p.systems hw
  obtain ⟨u, hu, hquiet⟩ := handleEvents_quieted (hlull.unattended hw) p.nodup p.all
    (p.keys_nodup v) (p.mem_keys v)
  have hle := hlull.swingsLeft_le
  have hle' := hquiet.swings
  have hcalm : ∀ b, 0 ≤ b → EachMoves (·.Slow b) v → EachMoves (·.Slow b) u := by
    intro b hb hslow
    refine hslow.of_forall hquiet.members fun e mov' hmov' => ?_
    obtain ⟨mov, hmov, hcalmer⟩ := hquiet.moving e mov' hmov'
    exact ⟨mov, hmov, hcalmer.slow hb⟩
  refine ⟨u, ?_, hquiet.unattended, hcap.of_lull hlull hquiet, hle'.trans hle,
    fun heq => ⟨fun b hb h => hcalm b hb ?_, fun hstop => ⟨?_, fun e he hwalk => ?_⟩⟩⟩
  · exact (congrArg (· >>= fun v => handleEvents p.systems (p.keys v) v) hv).trans hu
  · exact updateAll_slow S hb hφ p hw hv (by omega) hgrip (fun e he mov hmov =>
      (hcap e he mov hmov).1) h
  · exact (hcalm 0 le_rfl (hstopped (by omega) hstop)).of_forall rfl fun _ mov hmov =>
      ⟨mov, hmov, C_Movable.slow_zero.mp⟩
  · obtain ⟨hwas, hno⟩ := hquiet.walking e hwalk
    rw [hquiet.members] at he
    exact hno (updateAll_heard S p hw hv (by omega) hstop he hwas)

/-- At most `n` passes from rest, if nobody is struck: `S_Movement` needs all but the last of them
to stop everybody. -/
def Near (φ : F) (K : ℕ) : ℕ → Ecs F → Prop
  | 0, w => AtRest w
  | n + 1, w => K ≤ n ∨ EachMoves (·.Slow (n * φ)) w

lemma windsDown (S : Setting F) {φ : F} (hφ : 0 ≤ φ) {K : ℕ} (hK : 0 < K) :
    WindsDown (paced S) (fun w => Unattended w ∧ Capped (K * φ) w) (Braked S φ) swingsLeft
      (Near φ K) (K + 1) where
  step w p hw hgrip := by
    obtain ⟨u, hu, hun, hcap, hle, hquiets⟩ := paced_quiets S hφ p hw.1 hw.2 hgrip
    refine ⟨u, hu, ⟨hun, hcap⟩, hle, fun heq n hn => ?_⟩
    obtain ⟨hslows, hrests⟩ := hquiets heq
    rcases n with _ | _ | n
    · exact hrests hn.stopped
    · rcases hn with hn | hn
      · exact absurd hK (not_lt.mpr hn)
      · refine hrests ?_
        rwa [Nat.cast_zero, zero_mul] at hn
    · by_cases hfar : K ≤ n
      · exact .inl hfar
      refine .inr (hslows _ (mul_nonneg n.cast_nonneg hφ) fun e he mov hmov => ?_)
      have hnext : (n : F) * φ + φ = (n + 1 : ℕ) * φ := by
        push_cast
        ring
      rw [hnext]
      rcases hn with hn | hn
      · have hK' : K = n + 1 := by omega
        subst hK'
        exact .inl (hw.2 e he mov hmov).2
      · exact .inr (hn e he mov hmov)
  far w _ := .inl le_rfl

end Paced

def Setting.withMap (S : Setting F) (map : Map F) : Setting F := { S with map := map }

/-- Nothing but a tile, which is rough. -/
def lawn : Setting ℚ :=
  (Setting.empty ℚ).withMap
    ⟨(∅ : Dict ℕ (Tile ℚ)).insert 0 ⟨⟨0, ⟨1, 1⟩, "", false⟩, false, false⟩, ⟨1, 1⟩⟩

/-- Somebody walks on it, as fast as he can. -/
def ambling : List (Turn ℚ) :=
  [.store (.addEntity ⟨.Walking, 0, 0, false⟩ (((Bitmask.empty.turnOnBit
      Component.Position.id).turnOnBit Component.Movable.id).turnOnBit Component.State.id) (-1)),
    .write 0 (.position ⟨0, ⟨8, 8⟩, 0⟩),
    .write 0 (.movable ⟨⟨2, 0⟩, 2, ⟨1, 1⟩, 0, .Right⟩)]

def stroller : Ecs ℚ := reached (turn lawn) (new ℚ) ambling

def strolling : Pace ℚ where
  dT := 1
  systems := allSystems
  keys w := w.events.keys
  nodup := by decide
  all := mem_allSystems
  keys_nodup w := w.events.keys_nodup
  mem_keys _ _ := AList.mem_keys.symm

end Sfrpg
