import Mathlib.Logic.Relation
import Mathlib.Data.Int.Basic

/-!
The life of a creature, apart from any program: points of health and a state, one of the states
being that of dying.

A hit takes a point, and the last point takes the creature into dying. Otherwise its state comes
and goes, but nothing leads out of dying except the revival to full health. So health is gone
exactly while the creature is dying.
-/

namespace Sfrpg.Life

variable {σ : Type*}

@[ext] structure Vitals (σ : Type*) where
  state : σ
  health : ℤ
  maxHealth : ℤ

/-- What is left of the health after a hit. -/
def hitHealth (health : ℤ) : ℤ := if health > 1 then health - 1 else 0

/-- One step of a life in which nobody is revived. -/
inductive Step (dying : σ) : Vitals σ → Vitals σ → Prop
  /-- A creature that is not dying changes its state. -/
  | go {v : Vitals σ} (s : σ) (hv : v.state ≠ dying) (hs : s ≠ dying) :
      Step dying v { v with state := s }
  /-- A hit that leaves some health. -/
  | hurt {v : Vitals σ} (s : σ) (hs : s ≠ dying) (hv : v.state ≠ dying)
      (hh : hitHealth v.health ≠ 0) :
      Step dying v { v with state := s, health := hitHealth v.health }
  /-- A hit that leaves none. -/
  | kill {v : Vitals σ} (hh : hitHealth v.health = 0) :
      Step dying v { v with state := dying, health := 0 }

def Evolves (dying : σ) : Vitals σ → Vitals σ → Prop := Relation.ReflTransGen (Step dying)

def revive (s : σ) (v : Vitals σ) : Vitals σ := { v with state := s, health := v.maxHealth }

/-- The invariant of a life. -/
structure Sound (dying : σ) (v : Vitals σ) : Prop where
  nonneg : 0 ≤ v.health
  le : v.health ≤ v.maxHealth
  pos : 1 ≤ v.maxHealth
  gone : v.health = 0 ↔ v.state = dying

variable {dying s : σ} {v v' : Vitals σ}

lemma Step.sound (h : Step dying v v') (hv : Sound dying v) : Sound dying v' := by
  obtain ⟨h0, h1, h2, h3⟩ := hv
  cases h with
  | go s hs hne =>
    refine ⟨h0, h1, h2, ?_⟩
    constructor
    · intro hz
      exact absurd (h3.mp hz) hs
    · intro hs'
      exact absurd hs' hne
  | hurt s hs hne hh =>
    have hle : hitHealth v.health = v.health - 1 ∧ 1 < v.health := by
      unfold hitHealth at hh ⊢
      split at hh
      · next hgt => exact ⟨if_pos hgt, hgt⟩
      · exact absurd rfl hh
    refine ⟨?_, ?_, h2, ?_⟩
    · show 0 ≤ hitHealth v.health
      omega
    · show hitHealth v.health ≤ v.maxHealth
      omega
    · constructor
      · intro hz
        exact absurd hz hh
      · intro hs'
        exact absurd hs' hs
  | kill hh => exact ⟨Int.le_refl 0, by show (0 : ℤ) ≤ v.maxHealth; omega, h2, by simp⟩

lemma Step.stays_dying (h : Step dying v v') (hv : v.state = dying) : v'.state = dying := by
  cases h with
  | go s hs _ => exact absurd hv hs
  | hurt s _ hs _ => exact absurd hv hs
  | kill _ => rfl

theorem Evolves.sound (h : Evolves dying v v') (hv : Sound dying v) : Sound dying v' := by
  induction h with
  | refl => exact hv
  | tail _ hs ih => exact hs.sound ih

/-- Dying is not left. -/
theorem Evolves.stays_dying (h : Evolves dying v v') (hv : v.state = dying) : v'.state = dying := by
  induction h with
  | refl => exact hv
  | tail _ hs ih => exact hs.stays_dying ih

theorem sound_revive (hs : s ≠ dying) (hv : Sound dying v) : Sound dying (revive s v) where
  nonneg := by
    show 0 ≤ v.maxHealth
    have := hv.pos
    omega
  le := Int.le_refl v.maxHealth
  pos := hv.pos
  gone := by
    constructor
    · intro hz
      have h : v.maxHealth = 0 := hz
      have := hv.pos
      omega
    · intro h
      exact absurd h hs

lemma sound_full (hs : v.state ≠ dying) (hh : v.health = v.maxHealth) (hp : 1 ≤ v.maxHealth) :
    Sound dying v where
  nonneg := by omega
  le := by omega
  pos := hp
  gone := by
    constructor
    · intro hz
      omega
    · intro h
      exact absurd h hs

end Sfrpg.Life
