import Mathlib.Algebra.Order.BigOperators.Group.List
import Sfrpg.Bindings
import Sfrpg.Wire

/-!
The time of the game: what `World::update` makes of the time that has passed.

The server, the snapshots and the counter of ticks are given the microseconds. `SystemManager` is
given the whole milliseconds of each call, and what is left over is dropped.
-/

namespace Sfrpg

open Lib Lib.Word Lib.Run Ecs

def SNAPSHOT_INTERVAL : ℤ := 100

namespace World

variable {F : Type} [Field F] [LinearOrder F] [FloorRing F]

/-- The members of the world that `update` keeps the time with. `handed` counts the milliseconds
handed to `SystemManager::update`; no function reads it. -/
structure Loop (F : Type) where
  world : World F
  running : Bool
  tpsTime : Time
  serverTime : Time
  snapshotTimer : Time
  tick : ℕ
  tps : ℕ
  handed : ℤ

/-- A call of `update`: its argument, and what the surroundings bring to it. `SystemManager` goes
through its systems and its queues in an order of its own. -/
structure Tick (F : Type) where
  time : Time
  env : Env F
  systems : List System
  keys : Ecs F → List EntityId
  uninitialised : EntityId → EntitySnapshot.Uninitialised

section Definitions

variable (S : Setting F) (float : FloatFormat F)

/-- `SystemManager::update`, and what the entities have broadcast. -/
def updateSystems (t : Tick F) (dT : F) (w : World F) : Except Crash (World F) := do
  let ecs ← orCrash (Sfrpg.tick S dT t.systems t.keys w.ecs)
  pure (flush t.env { w with ecs := ecs })

omit [LinearOrder F] [FloorRing F] in
def sendSnapshot (t : Tick F) (w : World F) : Except Crash (World F) := do
  let s ← orCrash (S_Network.createSnapshot t.uninitialised w.ecs)
  pure { w with server := w.server.broadcast t.env.transport (s.packet float) Network.NullID }

/-- The counter of ticks, at the end of `update`. -/
def count (l : Loop F) : Loop F :=
  if 1000 < l.tpsTime.asMilliseconds then
    { l with tps := l.tick, tick := 0, tpsTime := .milliseconds 0 }
  else { l with tick := (l.tick + 1) % 4294967296 }

def update (t : Tick F) (l : Loop F) : Except Crash (Loop F) :=
  if !l.world.server.running then pure { l with running := false } else do
  let l := { l with
    serverTime := l.serverTime + t.time
    snapshotTimer := l.snapshotTimer + t.time
    tpsTime := l.tpsTime + t.time }
  let w ← ({ l.world with server := l.world.server.advance t.time } : World F).sweep t.env
  let w ← updateSystems S t (t.time.asMilliseconds : F) w
  let l := { l with world := w, handed := l.handed + t.time.asMilliseconds }
  if SNAPSHOT_INTERVAL < l.snapshotTimer.asMilliseconds then do
    let w ← sendSnapshot float t l.world
    pure (count { l with world := w, snapshotTimer := .milliseconds 0 })
  else pure (count l)

/-- A pass of the main loop. Between two passes the other threads make of the world what they do:
`w` is what they have left of it. -/
def pass (l : Loop F) : World F × Tick F → Except Crash (Loop F)
  | (w, t) => update S float t { l with world := w }

end Definitions

/-! ### What is handed on -/

/-- The microseconds of a call that `SystemManager` never hears of. -/
def dropped (t : Time) : ℤ := t.microseconds - 1000 * t.asMilliseconds

lemma dropped_nonneg {t : Time} (h : 0 ≤ t.microseconds) : 0 ≤ dropped t := by
  rw [dropped, Time.asMilliseconds_of_nonneg h, toInt32]
  omega

/-- Below `2 ^ 31` milliseconds that is the fraction of a millisecond; from there on the narrowing
drops more than a second of them. -/
lemma dropped_eq {t : Time} (h : 0 ≤ t.microseconds) (hlt : t.microseconds < 2147483648000) :
    dropped t = t.microseconds % 1000 := by
  rw [dropped, Time.asMilliseconds_of_lt h hlt]
  omega

lemma le_dropped {t : Time} (hge : 2147483648000 ≤ t.microseconds) : 1000 ≤ dropped t := by
  rw [dropped, Time.asMilliseconds_of_nonneg (by omega), toInt32]
  omega

/-- Little is dropped in all if and only if no call is too long and the fractions are small
together. -/
lemma sum_dropped_lt_iff {l : List Time} (h : ∀ t ∈ l, 0 ≤ t.microseconds) :
    (l.map dropped).sum < 1000 ↔
      (∀ t ∈ l, t.microseconds < 2147483648000) ∧ (l.map fun t => t.microseconds % 1000).sum < 1000
    := by
  have heq : (∀ t ∈ l, t.microseconds < 2147483648000) →
      (l.map dropped).sum = (l.map fun t => t.microseconds % 1000).sum := fun hlt =>
    congrArg List.sum (List.map_congr_left fun t ht => dropped_eq (h t ht) (hlt t ht))
  constructor
  · intro hsum
    have hlt : ∀ t ∈ l, t.microseconds < 2147483648000 := by
      intro t ht
      by_contra hge
      have hone : dropped t ≤ (l.map dropped).sum := by
        refine List.single_le_sum ?_ _ (List.mem_map_of_mem ht)
        intro x hx
        obtain ⟨u, hu, rfl⟩ := List.mem_map.mp hx
        exact dropped_nonneg (h u hu)
      have hbig := le_dropped (not_lt.mp hge)
      omega
    exact ⟨hlt, heq hlt ▸ hsum⟩
  · rintro ⟨hlt, hsum⟩
    rwa [heq hlt]

omit [Field F] [LinearOrder F] [FloorRing F] in
lemma count_handed (l : Loop F) : (count l).handed = l.handed := by
  unfold count
  split <;> rfl

lemma update_handed {S : Setting F} {float : FloatFormat F} {t : Tick F} {l l' : Loop F}
    (hrun : l.world.server.running = true) (h : update S float t l = .ok l') :
    l'.handed = l.handed + t.time.asMilliseconds := by
  have hpost : Post (update S float t l)
      (fun l' => l'.handed = l.handed + t.time.asMilliseconds) fun _ => True := by
    rw [update, hrun]
    refine Post.any.bind fun w _ => Post.any.bind fun w _ => Post.ite (fun _ => ?_) fun _ => ?_
    · exact Post.any.bind fun w _ => count_handed _
    · exact count_handed _
  exact hpost.ok h

lemma run_handed {S : Setting F} {float : FloatFormat F} {passes : List (World F × Tick F)}
    (hrun : ∀ p ∈ passes, p.1.server.running = true) {l l' : Loop F}
    (h : runE (pass S float) l passes = .ok l') :
    1000 * (l'.handed - l.handed) + (passes.map fun p => dropped p.2.time).sum =
      (passes.map fun p => p.2.time.microseconds).sum := by
  induction passes generalizing l with
  | nil =>
    cases h
    simp
  | cons p passes ih =>
    obtain ⟨u, hu, hrest⟩ := runE_cons_ok.mp h
    have hone : u.handed = l.handed + p.2.time.asMilliseconds :=
      update_handed (l := { l with world := p.1 }) (hrun p (by simp)) hu
    have hrec := ih (fun q hq => hrun q (by simp [hq])) hrest
    simp only [List.map_cons, List.sum_cons, dropped] at hrec ⊢
    omega

/-- A format that only zero fits. -/
def zeroFloat : FloatFormat ℚ where
  Fits x := x = 0
  put _ := [0, 0, 0, 0]
  get
    | _ :: _ :: _ :: _ :: rest => some (0, rest)
    | _ => none
  get_put x hx rest := by rw [hx]; rfl
  length_put _ := rfl

/-- The loop of a world just started. -/
def fresh : Loop ℚ := ⟨start, true, 0, 0, 0, 0, 0, 0⟩

/-- A call for `n` microseconds, on a world without clients or entities. -/
def calm (n : ℤ) : World ℚ × Tick ℚ :=
  (start, ⟨⟨n⟩, plainEnv, [], fun _ => [], fun _ => ⟨0, 0, 0, 0⟩⟩)

end World

end Sfrpg
