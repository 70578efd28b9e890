import Sfrpg.Ticks
import Sfrpg.Timers

/-!
The timers of an entity, and who changes its state.

An entity has two timers, one for being hurt and dying and one for its attacks, and the latter comes
with the flag of an attack that has struck. `S_Timers` runs them while the entity is in such a state
and resets them at the end of it. But messages and events change the state as well, and none of
their handlers knows about the timers.
-/

namespace Sfrpg

open Lib Lib.Word Lib.Run Life Ecs

variable {F : Type} {w u : Ecs F} {e : EntityId}

/-! ### What the timers show -/

/-- The state of an entity, its two timers and the flag of its attack, as far as it has them. -/
@[ext] structure Watch where
  state : Option EntityState
  heal : Option Time
  swing : Option (Time × Bool)

namespace Watch

variable {x y : Watch}

/-- In a state that the timer of the health is for. -/
def Ailing (x : Watch) : Prop := x.state = some .Hurt ∨ x.state = some .Dying

def HealClear (x : Watch) : Prop := ∀ t, x.heal = some t → t = 0

def SwingClear (x : Watch) : Prop := ∀ p, x.swing = some p → p = (0, false)

/-- Whatever timer the state is for, nothing has been counted yet. -/
structure Fresh (x : Watch) : Prop where
  heal : x.Ailing → x.HealClear
  swing : x.state = some .Attacking → x.SwingClear

/-- A timer the state is not for shows nothing. -/
structure Tidy (x : Watch) : Prop where
  heal : ¬ x.Ailing → x.HealClear
  swing : x.state ≠ some .Attacking → x.SwingClear

lemma Tidy.clear (h : x.Tidy) (hf : x.Fresh) : x.HealClear ∧ x.SwingClear := by
  constructor
  · by_cases hs : x.Ailing
    · exact hf.heal hs
    · exact h.heal hs
  · by_cases hs : x.state = some .Attacking
    · exact hf.swing hs
    · exact h.swing hs

lemma tidy_of_clear (hh : x.HealClear) (hs : x.SwingClear) : x.Tidy := ⟨fun _ => hh, fun _ => hs⟩

lemma fresh_of_clear (hh : x.HealClear) (hs : x.SwingClear) : x.Fresh := ⟨fun _ => hh, fun _ => hs⟩

end Watch

def Body.watch (b : Body F) : Watch where
  state := b.state.map fun s => s.state
  heal := b.health.map fun h => h.duration
  swing := b.attacker.map fun a => (a.duration, a.attacked)

def watch (e : EntityId) (w : Ecs F) : Watch := (body e w).watch

lemma watch_of_framed {P : EntityId → Component → Prop} (h : Framed P w u)
    (hstate : ¬ P e .State) (hhealth : ¬ P e .Health) (hattacker : ¬ P e .Attacker) :
    watch e u = watch e w := by
  rw [watch, body_eq_of_framed h hstate hhealth hattacker, watch]

lemma watch_state_eq : (watch e w).state = (w.getComponent C_State e).map fun s => s.state := rfl

lemma watch_heal_eq : (watch e w).heal = (w.getComponent C_Health e).map fun h => h.duration := rfl

lemma watch_swing_eq : (watch e w).swing =
    (w.getComponent (C_Attacker F) e).map fun a => (a.duration, a.attacked) := rfl

lemma watch_state {s : C_State} (hs : w.getComponent C_State e = some s) :
    (watch e w).state = some s.state := by
  rw [watch_state_eq, hs]
  rfl

/-! ### Who asks for a state -/

/-- `S_Combat` makes a hit of the message; its receiver has the health `h` before. -/
structure Hits (w : Ecs F) (m : Message) (h : C_Health) : Prop where
  type : m.type = .Being_Attacked
  admits : Admits w m
  health : w.getComponent C_Health m.receiver = some h

/-- An entity is asked to go to a state: by a message, though one to move is not heard in an attack;
by a hit, which leaves it hurt or dying; or by the event that it has come to rest. -/
inductive Asks (w : Ecs F) : Happening F → EntityId → EntityState → Prop
  | told (m : Message) (st : EntityState) (h : asked m = some st)
    (hfree : m.type = .Move → (watch m.receiver w).state ≠ some .Attacking) :
    Asks w (.message m) m.receiver st
  | hit (m : Message) (h : C_Health) (hits : Hits w m h) :
    Asks w (.message m) m.receiver (if 1 < h.health then .Hurt else .Dying)
  | rest (systems : List System) (e : EntityId) (later : List EventID)
    (hq : w.events.lookup e = some (EntityEvent.Became_Idle.id :: later))
    (hs : .State ∈ systems) : Asks w (.processEvent systems e) e .Idle

section Handlers

variable [Field F] [LinearOrder F]

/-! ### One moment -/

/-- What a moment other than a step of the timers makes of an entity: its timers stand, the flag of
its attack may be raised by a hit, and it may go to a state it is asked to go to. -/
structure Stirs (w : Ecs F) (i : Happening F) (e : EntityId) (u : Ecs F) : Prop where
  heal : (watch e u).heal = (watch e w).heal
  swing : (watch e u).swing = (watch e w).swing ∨
    ∃ m h, i = .message m ∧ Hits w m h ∧ e = m.sender ∧
      (watch e u).swing = (watch e w).swing.map fun p => (p.1, true)
  state : (watch e u).state = (watch e w).state ∨
    ∃ st, Asks w i e st ∧ (watch e u).state = some st ∧ (watch e w).state ≠ some .Dying

omit [Field F] [LinearOrder F] in
lemma stirs_of_eq {i : Happening F} (h : watch e u = watch e w) : Stirs w i e u where
  heal := by rw [h]
  swing := .inl (by rw [h])
  state := .inl (by rw [h])

omit [Field F] [LinearOrder F] in
lemma stirs_of_framed {i : Happening F} {P : EntityId → Component → Prop} (h : Framed P w u)
    (hhealth : ¬ P e .Health) (hattacker : ¬ P e .Attacker)
    (hstate : ∀ s, w.getComponent C_State e = some s → ∃ s', u.getComponent C_State e = some s' ∧
      (s' = s ∨ (s.state ≠ .Dying ∧ Asks w i e s'.state))) : Stirs w i e u where
  heal := by rw [watch_heal_eq, watch_heal_eq, h.get (T := C_Health) hhealth]
  swing := .inl (by rw [watch_swing_eq, watch_swing_eq, h.get (T := C_Attacker F) hattacker])
  state := by
    cases hs : w.getComponent C_State e with
    | none =>
      left
      have hnone : u.getComponent C_State e = none := by
        rw [← Option.not_isSome_iff_eq_none, h.isSome_get, hs]
        decide
      rw [watch_state_eq, watch_state_eq, hs, hnone]
    | some s =>
      obtain ⟨s', hs', rfl | ⟨hd, hasks⟩⟩ := hstate s hs
      · exact .inl ((watch_state hs').trans (watch_state hs).symm)
      · refine .inr ⟨s'.state, hasks, watch_state hs', ?_⟩
        rw [watch_state hs]
        exact fun h => hd (Option.some.inj h)

lemma hit_stirs (hw : Consistent w) {m : Message} (hm : m.type = .Being_Attacked)
    (hu : dispatch m w = .ok u) (e : EntityId) : Stirs w (.message m) e u := by
  obtain ⟨hnone, -⟩ | ⟨u', h, a, hu', hhit⟩ := blow_cases hw hm
  · rw [hnone] at hu
    cases hu
    exact stirs_of_eq rfl
  rw [hu'] at hu
  cases hu
  obtain ⟨heff, hlet, hh, ha, hhealth, hstruck, s, s', hs, hs', hcase⟩ := hhit
  have hits : Hits w m h := ⟨hm, hlet, hh⟩
  refine ⟨?_, ?_, ?_⟩
  · rw [watch_heal_eq, watch_heal_eq]
    by_cases he : e = m.receiver
    · subst he
      rw [hhealth, hh]
      rfl
    · rw [heff.framed.get (T := C_Health)]
      rintro (⟨h, -⟩ | ⟨-, h⟩)
      · exact he h
      · exact absurd h (show Component.Health ≠ .Attacker by decide)
  · rw [watch_swing_eq, watch_swing_eq]
    by_cases he : e = m.sender
    · right
      refine ⟨m, h, rfl, hits, he, ?_⟩
      rw [he, hstruck, ha]
      rfl
    · left
      rw [heff.framed.get (T := C_Attacker F)]
      rintro (⟨-, h⟩ | ⟨h, -⟩)
      · exact absurd h (show ¬ (Component.Attacker = .State ∨ Component.Attacker = .Health ∨
          Component.Attacker = .Movable) by decide)
      · exact he h
  · by_cases he : e = m.receiver
    · subst he
      rw [watch_state hs, watch_state hs']
      rcases hcase.cases with rfl | ⟨hd, rfl⟩
      · exact .inl rfl
      · right
        refine ⟨_, .hit m h hits, ?_, fun h => hd (Option.some.inj h)⟩
        congr 1
        rw [hitHealth]
        split <;> split <;> first | rfl | omega
    · left
      rw [watch_state_eq, watch_state_eq, heff.framed.get (T := C_State)]
      rintro (⟨h, -⟩ | ⟨-, h⟩)
      · exact he h
      · exact absurd h (show Component.State ≠ .Attacker by decide)

lemma message_stirs (hw : Consistent w) {m : Message} (hu : dispatch m w = .ok u) (e : EntityId) :
    Stirs w (.message m) e u := by
  by_cases hm : m.type = .Being_Attacked
  · exact hit_stirs hw hm hu e
  obtain ⟨heff, hheard⟩ := (dispatch_peaceful_post hw hm).ok hu
  have hframed := heff.framed
  refine stirs_of_framed hframed ?_ ?_ fun s hs => ?_
  · rintro ⟨-, h⟩
    revert h
    decide
  · rintro ⟨-, h⟩
    revert h
    decide
  by_cases he : e = m.receiver
  · subst he
    obtain ⟨s', hs', hobeys⟩ := hheard s hs
    refine ⟨s', hs', ?_⟩
    rcases hobeys with rfl | ⟨hasked, hd, hfree⟩
    · exact .inl rfl
    · refine .inr ⟨hd, .told m s'.state hasked fun hmove => ?_⟩
      rw [watch_state hs]
      exact fun h => hfree hmove (Option.some.inj h)
  · exact ⟨s, by rw [hframed.get (T := C_State) fun h => he h.1, hs], .inl rfl⟩

lemma event_stirs (hw : Consistent w) {systems : List System} {x : EntityId}
    (hu : processEvent systems x w = .ok u) (e : EntityId) :
    Consistent u ∧ Stirs w (.processEvent systems x) e u := by
  obtain ⟨hframed, hstate⟩ := (processEvent_post hw systems x).ok hu
  refine ⟨hframed.consistent hw, stirs_of_framed hframed ?_ ?_ fun s hs => ?_⟩
  · rintro ⟨-, h⟩
    revert h
    decide
  · rintro ⟨-, h⟩
    revert h
    decide
  · by_cases he : e = x
    · subst he
      obtain ⟨s', hs', hcase⟩ := hstate s hs
      refine ⟨s', hs', hcase.imp_right ?_⟩
      rintro ⟨hd, hidle, hsys, later, hq⟩
      rw [hidle]
      exact ⟨hd, .rest systems e later hq hsys⟩
    · exact ⟨s, by rw [hframed.get (T := C_State) fun h => he h.1, hs], .inl rfl⟩

lemma happen_stirs [FloorRing F] (hw : Consistent w) {i : Happening F}
    (hi : ∀ dT, i ≠ .timers dT) (hu : happen w i = .ok u) :
    Consistent u ∧ ∀ e, Stirs w i e u := by
  cases i with
  | message m => exact ⟨((dispatch_post hw m).ok hu).consistent hw, message_stirs hw hu⟩
  | addEvent x event =>
    cases hu
    exact ⟨hw.congr rfl rfl, fun e => stirs_of_eq rfl⟩
  | processEvent systems x => exact ⟨(event_stirs hw hu x).1, fun e => (event_stirs hw hu e).2⟩
  | timers dT => exact absurd rfl (hi dT)

omit [LinearOrder F] in
lemma combat_watch (w : Ecs F) (e : EntityId) :
    Post (S_Combat.update w) (fun u => watch e u = watch e w) fun _ => True := by
  refine Post.foldlM (fun u x _ hu => ?_) rfl
  unfold S_Combat.updateOne
  cases hx : u.getComponent (C_Attacker F) x with
  | none => exact hu
  | some a =>
    dsimp only
    cases u.getComponent (C_Position F) x with
    | none => trivial
    | some pos =>
      cases u.getComponent (C_Movable F) x with
      | none => trivial
      | some mov =>
        simp only [deref_some, ok_bind]
        rw [Post.post_pure, ← hu]
        by_cases he : e = x
        · subst he
          rw [watch, watch, body_set_attacker hx]
          rw [Body.watch, Body.watch, body, hx]
          rfl
        · exact watch_of_framed (P := At x .Attacker)
            (writes_set x _ u ⟨rfl, rfl⟩).effects.framed (fun h => he h.1) (fun h => he h.1)
            fun h => he h.1

/-! ### The timers -/

variable [FloorRing F] {dT : F} {b b' : Body F} {st : EntityState} {c : ℤ}

lemma Body.Pass.tidy (h : b.Pass dT b') (hb : b.watch.Tidy) :
    b'.watch.Tidy ∧ (b'.watch.state = b.watch.state ∨ b'.watch.Fresh) := by
  cases h with
  | idle => exact ⟨hb, .inl rfl⟩
  | heal s h hs hh ht =>
    have hstate : b.watch.state = some s.state := by rw [Body.watch, hs]; rfl
    have hailing : b.watch.Ailing := by
      rw [Watch.Ailing, hstate]
      exact ht.imp (congrArg some) (congrArg some)
    have hclear : b.watch.SwingClear := by
      refine hb.swing ?_
      rw [hstate]
      rintro hatt
      rw [Option.some.injEq] at hatt
      rw [hatt] at ht
      exact absurd ht (by decide)
    rw [Body.heal]
    split
    · exact ⟨⟨fun hno => absurd hailing hno, fun _ => hclear⟩, .inl rfl⟩
    · refine ⟨Watch.tidy_of_clear ?_ hclear, .inr (Watch.fresh_of_clear ?_ hclear)⟩ <;>
      · rintro t ht'
        cases ht'
        split <;> rfl
  | swing s a hs ha ht =>
    have hstate : b.watch.state = some .Attacking := by rw [Body.watch, hs, ← ht]; rfl
    have hclear : b.watch.HealClear := by
      refine hb.heal ?_
      rw [Watch.Ailing, hstate]
      decide
    rw [Body.swing]
    split
    · exact ⟨⟨fun _ => hclear, fun hno => absurd hstate hno⟩, .inl rfl⟩
    · refine ⟨Watch.tidy_of_clear hclear ?_, .inr (Watch.fresh_of_clear hclear ?_)⟩ <;>
      · rintro p hp
        cases hp
        rfl

/-! ### How long a state lasts -/

/-- What the timer of a state shows. -/
def Watch.reading (st : EntityState) (x : Watch) : Option Time :=
  if st = .Attacking then x.swing.map Prod.fst else x.heal

/-- How long the state is to last, as the components have it. -/
def Body.span (st : EntityState) (b : Body F) : Option ℕ :=
  if st = .Hurt then b.health.map fun h => h.hurtDuration
  else if st = .Dying then b.health.map fun h => h.deathDuration
  else if st = .Attacking then b.attacker.map fun a => a.attackDuration
  else none

/-- In the state, for `c` milliseconds at least by its timer. -/
structure Watch.Counted (st : EntityState) (c : ℤ) (x : Watch) : Prop where
  state : x.state = some st
  reading : ∀ t, x.reading st = some t → 0 ≤ t.microseconds ∧ t.microseconds ≤ c * 1000

lemma counted_step {t : Time} {n : ℤ} (hn : 0 ≤ n)
    (ht : 0 ≤ t.microseconds ∧ t.microseconds ≤ c * 1000) :
    0 ≤ (t + .milliseconds n).microseconds ∧
      (t + .milliseconds n).microseconds ≤ (c + n) * 1000 := by
  rw [Time.add_microseconds, Time.milliseconds_microseconds]
  omega

lemma le_of_up {t : Time} {n : ℤ} {d : ℕ} (hn : 0 ≤ n)
    (ht : 0 ≤ t.microseconds ∧ t.microseconds ≤ c * 1000)
    (hup : ¬ S_Timers.Below (t + .milliseconds n) d) : (d : ℤ) ≤ c + n := by
  obtain ⟨h0, hle⟩ := counted_step hn ht
  have := le_of_not_below h0 hup
  omega

lemma Body.counted_heal {h : C_Health} (hdT : 0 ≤ S_Timers.wholeMilliseconds dT)
    (hc : b.watch.Counted st c) (hh : b.health = some h) (ht : st = .Hurt ∨ st = .Dying) :
    (b.heal dT st h).watch.Counted st (c + S_Timers.wholeMilliseconds dT) ∨
      ((b.heal dT st h).watch.state ≠ some st ∧
        ∀ d, b.span st = some d → (d : ℤ) ≤ c + S_Timers.wholeMilliseconds dT) := by
  have hne : st ≠ .Attacking := by
    rintro rfl
    exact absurd ht (by decide)
  have hread : ∀ b : Body F, b.watch.reading st = b.watch.heal := fun b => if_neg hne
  have hcount := hc.reading h.duration (by rw [hread, Body.watch, hh]; rfl)
  rw [Body.heal]
  split
  · left
    refine ⟨hc.state, fun t ht => ?_⟩
    rw [hread] at ht
    cases ht
    exact counted_step hdT hcount
  · next hup =>
    right
    refine ⟨fun hidle => ?_, fun d hd => ?_⟩
    · rw [← Option.some.inj hidle] at ht
      exact absurd ht (by decide)
    rw [not_or] at hup
    rw [Body.span, hh] at hd
    rcases ht with ht | ht
    · rw [if_pos ht] at hd
      cases hd
      exact le_of_up hdT hcount fun hb => hup.1 ⟨ht, hb⟩
    · rw [ht, if_neg (by decide), if_pos rfl] at hd
      cases hd
      exact le_of_up hdT hcount fun hb => hup.2 ⟨ht, hb⟩

lemma Body.counted_swing {a : C_Attacker F} (hdT : 0 ≤ S_Timers.wholeMilliseconds dT)
    (hc : b.watch.Counted .Attacking c) (ha : b.attacker = some a) :
    (b.swing dT a).watch.Counted .Attacking (c + S_Timers.wholeMilliseconds dT) ∨
      ((b.swing dT a).watch.state ≠ some .Attacking ∧
        ∀ d, b.span .Attacking = some d → (d : ℤ) ≤ c + S_Timers.wholeMilliseconds dT) := by
  have hread : ∀ b : Body F, b.watch.reading .Attacking = b.watch.swing.map Prod.fst :=
    fun b => if_pos rfl
  have hcount := hc.reading a.duration (by rw [hread, Body.watch, ha]; rfl)
  rw [Body.swing]
  split
  · left
    refine ⟨hc.state, fun t ht => ?_⟩
    rw [hread] at ht
    cases ht
    exact counted_step hdT hcount
  · next hup =>
    right
    refine ⟨fun hidle => absurd (Option.some.inj hidle) (by decide), fun d hd => ?_⟩
    rw [Body.span, ha, if_neg (by decide), if_neg (by decide), if_pos rfl] at hd
    cases hd
    exact le_of_up hdT hcount hup

/-- **A tick of a state**: it is counted, or the state is over, and has lasted as long as it is
to last. -/
lemma Body.Pass.counted (h : b.Pass dT b') (hdT : 0 ≤ S_Timers.wholeMilliseconds dT)
    (hc : b.watch.Counted st c) :
    b'.watch.Counted st (c + S_Timers.wholeMilliseconds dT) ∨
      (b'.watch.state ≠ some st ∧
        ∀ d, b.span st = some d → (d : ℤ) ≤ c + S_Timers.wholeMilliseconds dT) := by
  have hstate : ∀ s, b.state = some s → s.state = st := by
    intro s hs
    have h := hc.state
    rw [Body.watch, hs] at h
    exact Option.some.inj h
  cases h with
  | idle =>
    left
    refine ⟨hc.state, fun t ht => ?_⟩
    obtain ⟨h0, hle⟩ := hc.reading t ht
    omega
  | heal s h hs hh ht =>
    obtain rfl := hstate s hs
    exact Body.counted_heal hdT hc hh ht
  | swing s a hs ha ht =>
    obtain rfl := (hstate s hs).symm.trans ht
    exact Body.counted_swing hdT hc ha

end Handlers

end Sfrpg
