import Mathlib.Algebra.Order.Field.Rat
import Sfrpg.Watches

/-!
How long states last.

`S_Timers` resets a timer at the end of the state that the timer is for. A state that is left for
another one before its time is up leaves its timer where it is, and the next such state starts from
there; and an attack that has struck, or a hit by somebody who was not attacking, leaves the flag up
for the next attack. As long as neither happens, every state starts with its timer at zero and lasts
as long as it is to last.

A run consists of messages, events and steps of the timers, and of what the rest of the server does
in between, which comes down to entities that are made and removed.
-/

namespace Sfrpg

open Lib Lib.Word Lib.Run Life Ecs

namespace Watch

variable {x y : Watch} {st : EntityState}

/-- Of an entity that is not there. -/
def absent : Watch := ⟨none, none, none⟩

/-- Of an entity just made: its timers are at zero, and the flag of its attack is not set to
anything. -/
structure New (x : Watch) : Prop where
  heal : x.HealClear
  swing : ∀ p, x.swing = some p → p.1 = 0

/-- In another state, which is under way: its timer has counted, or its attack has struck. -/
def Busy (x : Watch) (st : EntityState) : Prop :=
  x.state ≠ some st ∧ x.state ≠ some .Dying ∧ ¬ x.Fresh

lemma absent_heal : absent.HealClear := by
  intro t ht
  cases ht

lemma absent_swing : absent.SwingClear := by
  intro p hp
  cases hp

lemma absent_tidy : absent.Tidy := tidy_of_clear absent_heal absent_swing

lemma absent_fresh : absent.Fresh := fresh_of_clear absent_heal absent_swing

end Watch

section Machine

variable {F : Type}

/-- What the rest of the server does: whoever stays keeps its state and its timers. -/
structure Spares (w u : Ecs F) : Prop where
  consistent : Consistent u
  watches : ∀ e, watch e u = watch e w ∨ watch e u = .absent ∨
    (watch e w = .absent ∧ (watch e u).New)

inductive Moment (F : Type)
  | happening (i : Happening F)
  | other (u : Ecs F)

/-- A step of the timers. -/
abbrev Moment.tick (dT : F) : Moment F := .happening (.timers dT)

variable [Field F] [LinearOrder F] [FloorRing F]

def moment (w : Ecs F) : Moment F → Outcome (Ecs F)
  | .happening i => happen w i
  | .other u => pure u

/-- Time does not run backwards, and the rest of the server is what it is. -/
def Moment.Admitted (w : Ecs F) : Moment F → Prop
  | .happening (.timers dT) => 0 ≤ dT
  | .happening _ => True
  | .other u => Spares w u

/-- Nobody is asked away from a state that is under way, who hits is attacking somebody else, and
who is made has not struck. -/
structure Undisturbed (w : Ecs F) (i : Moment F) : Prop where
  stays : ∀ j e st, i = .happening j → Asks w j e st → ¬ (watch e w).Busy st
  meant : ∀ m h, i = .happening (.message m) → Hits w m h →
    (watch m.sender w).state = some .Attacking ∧ m.sender ≠ m.receiver
  unstruck : ∀ u e p, i = .other u → watch e w = .absent → (watch e u).swing = some p →
    p.2 = false

/-- The milliseconds the steps of the timers come to. -/
def elapsed (is : List (Moment F)) : ℤ :=
  (is.map fun i => match i with
    | .happening (.timers dT) => S_Timers.wholeMilliseconds dT
    | _ => 0).sum

/-! ### What one moment does -/

variable {w u v x : Ecs F} {i : Moment F} {e : EntityId} {st : EntityState} {c : ℤ}

lemma elapsed_cons (i : Moment F) (is : List (Moment F)) :
    elapsed (i :: is) = elapsed [i] + elapsed is := by
  simp [elapsed]

lemma elapsed_append (is js : List (Moment F)) :
    elapsed (is ++ js) = elapsed is + elapsed js := by
  simp [elapsed]

lemma elapsed_tick (dT : F) : elapsed [Moment.tick dT] = S_Timers.wholeMilliseconds dT := by
  simp [elapsed]

/-- What a moment is: a step of the timers, something else that happens, or the rest of the
server. -/
lemma moment_cases (hw : Consistent w) (hadm : i.Admitted w) (hu : moment w i = .ok u) :
    Consistent u ∧
      ((∃ dT, i = .tick dT ∧ 0 ≤ S_Timers.wholeMilliseconds dT ∧
          elapsed [i] = S_Timers.wholeMilliseconds dT ∧
          ∀ e, body e u = body e w ∨ (body e w).Pass dT (body e u)) ∨
        (∃ j, i = .happening j ∧ elapsed [i] = 0 ∧ ∀ e, Stirs w j e u) ∨
        (i = .other u ∧ elapsed [i] = 0 ∧ Spares w u)) := by
  cases i with
  | other u' =>
    cases hu
    exact ⟨Spares.consistent hadm, .inr (.inr ⟨rfl, rfl, hadm⟩)⟩
  | happening j =>
    by_cases hj : ∃ dT, j = .timers dT
    · obtain ⟨dT, rfl⟩ := hj
      obtain ⟨hc, hbody⟩ := timers_body hw hu
      exact ⟨hc, .inl ⟨dT, rfl, wholeMilliseconds_nonneg hadm, elapsed_tick dT, hbody⟩⟩
    · have hnot : ∀ dT, j ≠ .timers dT := fun dT h => hj ⟨dT, h⟩
      obtain ⟨hc, hstirs⟩ := happen_stirs hw hnot hu
      refine ⟨hc, .inr (.inl ⟨j, rfl, ?_, hstirs⟩)⟩
      cases j with
      | timers dT => exact absurd rfl (hnot dT)
      | _ => rfl

omit [Field F] [LinearOrder F] [FloorRing F] in
/-- Where nobody is disturbed, a moment leaves the timers tidy, and a state is entered with its own
at zero. -/
lemma stirs_tidy {j : Happening F} (h : Stirs w j e u) (hund : Undisturbed w (.happening j))
    (hw : (watch e w).Tidy) : (watch e u).Tidy ∧
      ((watch e u).state = (watch e w).state ∨ (watch e u).Fresh) := by
  rcases h.swing with hswing | ⟨m, health, rfl, hits, rfl, -⟩
  · have hsame : (watch e u).state = (watch e w).state → watch e u = watch e w :=
      fun hstate => Watch.ext hstate h.heal hswing
    have hstay : (watch e u).state = (watch e w).state → (watch e u).Tidy ∧
        ((watch e u).state = (watch e w).state ∨ (watch e u).Fresh) := by
      intro hstate
      rw [hsame hstate]
      exact ⟨hw, .inl rfl⟩
    rcases h.state with hstate | ⟨st, hasks, hst, hd⟩
    · exact hstay hstate
    · by_cases hthere : (watch e w).state = some st
      · exact hstay (hst.trans hthere.symm)
      · have hfresh : (watch e w).Fresh := by
          by_contra hno
          exact hund.stays j e st rfl hasks ⟨hthere, hd, hno⟩
        obtain ⟨hheal, hrest⟩ := hw.clear hfresh
        have hheal' : (watch e u).HealClear := by
          rw [Watch.HealClear, h.heal]
          exact hheal
        have hrest' : (watch e u).SwingClear := by
          rw [Watch.SwingClear, hswing]
          exact hrest
        exact ⟨Watch.tidy_of_clear hheal' hrest', .inr (Watch.fresh_of_clear hheal' hrest')⟩
  · -- who hits is attacking, and goes on attacking
    obtain ⟨hatt, hother⟩ := hund.meant m health rfl hits
    have hstate : (watch m.sender u).state = (watch m.sender w).state := by
      rcases h.state with hstate | ⟨st, hasks, -, -⟩
      · exact hstate
      · generalize hs : m.sender = e at hasks
        cases hasks with
        | told _ _ hasked =>
          rw [asked_attacked hits.type] at hasked
          cases hasked
        | hit => exact absurd hs hother
    refine ⟨⟨fun hno => ?_, fun hno => absurd (hstate.trans hatt) hno⟩, .inl hstate⟩
    rw [Watch.HealClear, h.heal]
    refine hw.heal ?_
    rwa [Watch.Ailing, ← hstate]

/-- **A moment**: the timers stay tidy, and whoever changes its state enters the new one with its
timer at zero. -/
lemma moment_tidy (hw : Consistent w) (htidy : ∀ e, (watch e w).Tidy) (hadm : i.Admitted w)
    (hund : Undisturbed w i) (hu : moment w i = .ok u) :
    Consistent u ∧ ∀ e, (watch e u).Tidy ∧
      ((watch e u).state = (watch e w).state ∨ (watch e u).Fresh) := by
  obtain ⟨hc, ⟨dT, rfl, -, -, hbody⟩ | ⟨j, rfl, -, hstirs⟩ | ⟨rfl, -, hspares⟩⟩ :=
    moment_cases hw hadm hu
  · refine ⟨hc, fun e => ?_⟩
    rcases hbody e with hsame | hpass
    · rw [watch, watch, hsame]
      exact ⟨htidy e, .inl rfl⟩
    · exact hpass.tidy (htidy e)
  · exact ⟨hc, fun e => stirs_tidy (hstirs e) hund (htidy e)⟩
  · refine ⟨hc, fun e => ?_⟩
    rcases hspares.watches e with hsame | hgone | ⟨habsent, hnew⟩
    · rw [hsame]
      exact ⟨htidy e, .inl rfl⟩
    · rw [hgone]
      exact ⟨Watch.absent_tidy, .inr Watch.absent_fresh⟩
    · have hclear : (watch e u).SwingClear := by
        intro p hp
        exact Prod.ext (hnew.swing p hp) (hund.unstruck u e p rfl habsent hp)
      exact ⟨Watch.tidy_of_clear hnew.heal hclear, .inr (Watch.fresh_of_clear hnew.heal hclear)⟩

/-! ### What a stay adds up to -/

/-- **A moment of a stay**: its time is counted. -/
lemma moment_counted (hw : Consistent w) (hadm : i.Admitted w) (hu : moment w i = .ok u)
    (hc : (watch e w).Counted st c) (hst : (watch e u).state = some st) :
    Consistent u ∧ (watch e u).Counted st (c + elapsed [i]) := by
  obtain ⟨hcu, ⟨dT, rfl, hstep, hsum, hbody⟩ | ⟨j, rfl, hsum, hstirs⟩ | ⟨rfl, hsum, hspares⟩⟩ :=
    moment_cases hw hadm hu
  · refine ⟨hcu, ?_⟩
    rw [hsum]
    rcases hbody e with hsame | hpass
    · rw [watch, hsame]
      refine ⟨hc.state, fun t ht => ?_⟩
      obtain ⟨h0, hle⟩ := hc.reading t ht
      omega
    · rcases hpass.counted hstep hc with hcount | ⟨hno, -⟩
      · exact hcount
      · exact absurd hst hno
  · have hread : (watch e u).reading st = (watch e w).reading st := by
      rw [Watch.reading, Watch.reading, (hstirs e).heal]
      rcases (hstirs e).swing with hswing | ⟨-, -, -, -, -, hraised⟩
      · rw [hswing]
      · rw [hraised]
        cases (watch e w).swing <;> rfl
    refine ⟨hcu, hst, fun t ht => ?_⟩
    rw [hread] at ht
    rw [hsum, add_zero]
    exact hc.reading t ht
  · refine ⟨hcu, ?_⟩
    rw [hsum, add_zero]
    rcases hspares.watches e with hsame | hgone | ⟨habsent, -⟩
    · rwa [hsame]
    · rw [hgone] at hst
      cases hst
    · have hno := hc.state
      rw [habsent] at hno
      cases hno

lemma stay_counted {is : List (Moment F)} {last : Moment F} (hw : Consistent w)
    (hadm : AlongE moment (fun u i => i.Admitted u) w (is ++ [last]))
    (hst : AlongE moment (fun u _ => (watch e u).state = some st) w (is ++ [last]))
    (hc : (watch e w).Counted st c) (hr : runE moment w is = .ok x) :
    Consistent x ∧ (watch e x).Counted st (c + elapsed is) := by
  induction is generalizing w c with
  | nil =>
    cases hr
    exact ⟨hw, by simpa [elapsed] using hc⟩
  | cons i is ih =>
    obtain ⟨u, hu, hr⟩ := runE_cons_ok.mp hr
    obtain ⟨hi, hadm⟩ := hadm
    obtain ⟨-, hst⟩ := hst
    obtain ⟨hcu, hcount⟩ := moment_counted hw hi hu hc (hst u hu).first
    rw [elapsed_cons, ← add_assoc]
    exact ih hcu (hadm u hu) (hst u hu) hcount hr

/-! ### Runs -/

/-- Somebody in the reach of an attack that begins can be hit by it. -/
def CanHit (e : EntityId) (w : Ecs F) : Prop :=
  ∀ r, w.hasEntity .Combat r → w.hasEntity .Combat e →
    (w.getComponent (C_Attacker F) e).isSome = true → Admits w (S_Collision.attack e r)

omit [Field F] [LinearOrder F] [FloorRing F] in
lemma canHit_of_fresh (h : (watch e w).Fresh) (hatt : (watch e w).state = some .Attacking) :
    CanHit e w := by
  intro r hr he hsome
  obtain ⟨a, ha⟩ := Option.isSome_iff_exists.mp hsome
  have hclear := h.swing hatt (a.duration, a.attacked) (by rw [watch_swing_eq, ha]; rfl)
  exact ⟨hr, he, a, ha, congrArg Prod.snd hclear⟩

/-- A stay of `e` in a state: the moment `i` takes it there out of `u`, it is there for the moments
`is`, and in `x` still, and the next step of the timers takes it out again. -/
structure Stay (e : EntityId) (st : EntityState) (u : Ecs F) (i : Moment F) (is : List (Moment F))
    (dT : F) (x : Ecs F) : Prop where
  before : (watch e u).state ≠ some st
  during : ∃ v, moment u i = .ok v ∧ runE moment v is = .ok x ∧
    AlongE moment (fun z _ => (watch e z).state = some st) v (is ++ [.tick dT])
  after : ∃ y, moment x (.tick dT) = .ok y ∧ (watch e y).state ≠ some st

lemma Stay.counted {is : List (Moment F)} {dT : F} (h : Stay e st u i is dT x)
    (hc : Consistent u) (htidy : ∀ e, (watch e u).Tidy)
    (hrun : AlongE moment (fun u i => i.Admitted u ∧ Undisturbed u i) u (i :: (is ++ [.tick dT]))) :
    ∀ d, (body e x).span st = some d → (d : ℤ) ≤ elapsed (is ++ [.tick dT]) := by
  obtain ⟨hbefore, ⟨v, hv, hx, hst⟩, y, hy, hafter⟩ := h
  obtain ⟨⟨hadm, hund⟩, hrest⟩ := hrun
  obtain ⟨hcv, hwatches⟩ := moment_tidy hc htidy hadm hund hv
  obtain ⟨htidyv, hfresh⟩ := hwatches e
  have hin : (watch e v).state = some st := hst.first
  have hzero : (watch e v).Counted st 0 := by
    rcases hfresh with hsame | hf
    · exact absurd (hsame.symm.trans hin) hbefore
    · obtain ⟨hheal, hswing⟩ := htidyv.clear hf
      refine ⟨hin, fun t ht => ?_⟩
      have ht0 : t = 0 := by
        rw [Watch.reading] at ht
        split at ht
        · obtain ⟨p, hp, rfl⟩ := Option.map_eq_some_iff.mp ht
          rw [hswing p hp]
        · exact hheal t ht
      rw [ht0, Time.zero_microseconds]
      omega
  have hallow : AlongE moment (fun u i => i.Admitted u) v (is ++ [.tick dT]) :=
    AlongE.imp (I := fun _ => True) (fun _ _ _ _ _ _ => trivial) (fun _ _ _ h => h.1) trivial
      (hrest v hv)
  obtain ⟨hcx, hcount⟩ := stay_counted hcv hallow hst hzero hx
  rw [zero_add] at hcount
  -- the step that ends it
  have hstep : 0 ≤ S_Timers.wholeMilliseconds dT := wholeMilliseconds_nonneg (hallow.last hx)
  obtain ⟨-, hbody⟩ := timers_body hcx hy
  rw [elapsed_append, elapsed_tick]
  rcases hbody e with hsame | hpass
  · rw [watch, hsame] at hafter
    exact absurd hcount.state hafter
  · rcases hpass.counted hstep hcount with hgoes | ⟨-, hlong⟩
    · exact absurd hgoes.state hafter
    · exact hlong

/-- **States last.** In a run out of the empty store, in which nobody is asked away from a state
that is under way, only attackers hit, and nobody is made with an attack that has struck: whoever
changes its state enters the new one with the timer of that state at zero, and an attack that
begins can hit; and a stay that a step of the timers ends has lasted as long as it was to last. -/
theorem states_last (is : List (Moment F))
    (hrun : AlongE moment (fun u i => i.Admitted u ∧ Undisturbed u i) (new F) is) :
    AlongE moment (fun u i => ∀ v, moment u i = .ok v → ∀ e,
      (watch e v).state ≠ (watch e u).state → (watch e v).Fresh ∧
        ((watch e v).state = some .Attacking → CanHit e v)) (new F) is ∧
    ∀ before i stay dT, is = before ++ i :: (stay ++ [.tick dT]) → ∀ u x e st,
      runE moment (new F) before = .ok u → Stay e st u i stay dT x →
      ∀ d, (body e x).span st = some d → (d : ℤ) ≤ elapsed (stay ++ [.tick dT]) := by
  have hstart : Consistent (new F) ∧ ∀ e, (watch e (new F)).Tidy :=
    ⟨consistent_new, fun e => Watch.absent_tidy⟩
  have hstep : ∀ (u : Ecs F) i v, (Consistent u ∧ ∀ e, (watch e u).Tidy) →
      (Moment.Admitted u i ∧ Undisturbed u i) → moment u i = .ok v →
      Consistent v ∧ ∀ e, (watch e v).Tidy := by
    intro u i v hu hi hv
    obtain ⟨hc, htidy⟩ := moment_tidy hu.1 hu.2 hi.1 hi.2 hv
    exact ⟨hc, fun e => (htidy e).1⟩
  refine ⟨AlongE.imp hstep (fun u i hu hi v hv e hne => ?_) hstart hrun, ?_⟩
  · obtain ⟨-, htidy⟩ := moment_tidy hu.1 hu.2 hi.1 hi.2 hv
    rcases (htidy e).2 with hsame | hf
    · exact absurd hsame hne
    · exact ⟨hf, canHit_of_fresh hf⟩
  · rintro before i stay dT rfl u x e st hu hstay
    obtain ⟨hc, htidy⟩ := hrun.reaches hstep hstart hu
    exact hstay.counted hc htidy (hrun.rest hu)

end Machine

/-- Somebody who can attack and be hurt, for 300 ms, made in the empty store. -/
def recruit : Ecs ℚ :=
  ((new ℚ).addEntity ⟨.Idle, 5, 5, false⟩ (((Bitmask.empty.turnOnBit
    Component.State.id).turnOnBit Component.Health.id).turnOnBit Component.Attacker.id) (-1)).1
    |>.setComponent 0 (C_Health.mk 0 5 5 300 0)

lemma recruit_new (e : EntityId) : (watch e recruit).New ∧
    ∀ p, (watch e recruit).swing = some p → p.2 = false := by
  by_cases he : e = 0
  · subst he
    have hheal : (watch 0 recruit).heal = some 0 := by decide +kernel
    have hswing : (watch 0 recruit).swing = some (0, false) := by decide +kernel
    refine ⟨⟨fun t ht => ?_, fun p hp => ?_⟩, fun p hp => ?_⟩
    · rw [hheal] at ht
      exact (Option.some.inj ht).symm
    · rw [hswing] at hp
      rw [← Option.some.inj hp]
    · rw [hswing] at hp
      rw [← Option.some.inj hp]
  · have hkeys : recruit.entities.keys = [0] := by decide +kernel
    have hnone : recruit.entities.lookup e = none := by
      refine AList.lookup_eq_none.mpr fun hmem => he ?_
      rwa [AList.mem_keys, hkeys, List.mem_singleton] at hmem
    have habsent : watch e recruit = .absent := by
      rw [watch, Body.watch, body, getComponent, getComponent, getComponent, getBase, getBase,
        getBase, hnone]
      rfl
    rw [habsent]
    refine ⟨⟨Watch.absent_heal, fun p hp => ?_⟩, fun p hp => ?_⟩
    · cases hp
    · cases hp

lemma spares_recruit : Spares (new ℚ) recruit where
  consistent := by
    rw [recruit, setComponent_eq]
    exact (overwrite_framed (P := fun _ _ => True) _ _ trivial).consistent
      (consistent_new.addEntity _ _ _)
  watches e := .inr (.inr ⟨rfl, (recruit_new e).1⟩)

lemma undisturbed_recruit : Undisturbed (new ℚ) (.other recruit) where
  stays := nofun
  meant := nofun
  unstruck := by
    rintro u e p hu - hp
    cases hu
    exact (recruit_new e).2 p hp

/-- The recruit is hurt. -/
def sting : Moment ℚ := .happening (.message (.to .Hurt 0))

lemma sting_undisturbed : AlongE moment (fun u i => i.Admitted u ∧ Undisturbed u i) (new ℚ)
    [.other recruit, sting, .tick 300] := by
  refine ⟨⟨spares_recruit, undisturbed_recruit⟩, fun u hu => ?_⟩
  cases hu
  have hfresh : ∀ e, (watch e recruit).Fresh := fun e => Watch.fresh_of_clear (recruit_new e).1.heal
    fun p hp => Prod.ext ((recruit_new e).1.swing p hp) ((recruit_new e).2 p hp)
  refine ⟨⟨trivial, fun _ e _ _ _ hbusy => hbusy.2.2 (hfresh e), ?_, nofun⟩, fun v _ => ?_⟩
  · rintro m h hm hits
    cases hm
    exact absurd hits.type (by decide)
  · refine ⟨⟨show (0 : ℚ) ≤ 300 by decide, ?_, ?_, nofun⟩, fun _ _ => trivial⟩
    · rintro j e st hj hasks
      cases hj
      cases hasks
    · rintro m h hm
      cases hm

/-- Its timer is at zero, and it is hurt for as long as it is to be. -/
theorem states_last_sting :
    (watch 0 (reached moment (new ℚ) [.other recruit, sting])).Fresh ∧
      ∀ d, (body 0 (reached moment (new ℚ) [.other recruit, sting])).span .Hurt = some d →
        (d : ℤ) ≤ elapsed [Moment.tick (300 : ℚ)] := by
  have hidle : (watch 0 recruit).state = some .Idle := by decide +kernel
  have hne : (watch 0 recruit).state ≠ some .Hurt := by
    rw [hidle]
    decide
  have hhurt : (watch 0 (reached moment (new ℚ) [.other recruit, sting])).state = some .Hurt := by
    decide +kernel
  have hover : (watch 0 (reached moment (new ℚ) [.other recruit, sting, .tick 300])).state =
      some .Idle := by
    decide +kernel
  have hsting : moment (reached moment (new ℚ) [.other recruit]) sting =
      .ok (reached moment (new ℚ) [.other recruit, sting]) :=
    step_reached (l := [Moment.other recruit]) (by decide +kernel)
  rw [show reached moment (new ℚ) [.other recruit] = recruit from rfl] at hsting
  have hlet : moment (reached moment (new ℚ) [.other recruit, sting]) (.tick 300) =
      .ok (reached moment (new ℚ) [.other recruit, sting, .tick 300]) :=
    step_reached (l := [Moment.other recruit, sting]) (by decide +kernel)
  have hstay : Stay 0 .Hurt recruit sting [] 300
      (reached moment (new ℚ) [.other recruit, sting]) := by
    refine ⟨hne, ⟨_, hsting, rfl, hhurt, fun _ _ => trivial⟩, _, hlet, ?_⟩
    rw [hover]
    decide
  have hmade : runE moment (new ℚ) [.other recruit] = .ok recruit := rfl
  obtain ⟨hentered, hlast⟩ := states_last _ sting_undisturbed
  refine ⟨((hentered.2 recruit rfl).1 _ hsting 0 ?_).1, ?_⟩
  · rw [hhurt]
    exact hne.symm
  · exact hlast [.other recruit] sting [] 300 rfl recruit _ 0 .Hurt hmade hstay

/-- The recruit walks away 200 ms after it is hurt. -/
def walkedAway : List (Moment ℚ) :=
  [.other recruit, sting, .tick 200,
    .happening (.message { Message.to .Move 0 with int := Direction.Left.val })]

/-- When it is hurt again, its timer is not at zero, and 100 ms are enough. -/
theorem hurt_cut_short :
    AlongE moment (fun u i => i.Admitted u) (new ℚ) (walkedAway ++ [sting, .tick 100]) ∧
      ¬ (watch 0 (reached moment (new ℚ) (walkedAway ++ [sting]))).Fresh ∧
      Stay 0 .Hurt (reached moment (new ℚ) walkedAway) sting [] 100
        (reached moment (new ℚ) (walkedAway ++ [sting])) ∧
      (body 0 (reached moment (new ℚ) (walkedAway ++ [sting]))).span .Hurt = some 300 ∧
      elapsed [Moment.tick (100 : ℚ)] = 100 := by
  have hwalking : (watch 0 (reached moment (new ℚ) walkedAway)).state = some .Walking := by
    decide +kernel
  have hhurt : (watch 0 (reached moment (new ℚ) (walkedAway ++ [sting]))).state = some .Hurt := by
    decide +kernel
  have hlate : (watch 0 (reached moment (new ℚ) (walkedAway ++ [sting]))).heal =
      some (.milliseconds 200) := by
    decide +kernel
  have hover : (watch 0 (reached moment (new ℚ) (walkedAway ++ [sting] ++ [.tick 100]))).state =
      some .Idle := by
    decide +kernel
  have hpos : ∀ n : ℕ, (0 : ℚ) ≤ n := Nat.cast_nonneg
  refine ⟨⟨spares_recruit, fun _ _ => ⟨trivial, fun _ _ => ⟨hpos 200,
    fun _ _ => ⟨trivial, fun _ _ =>
    ⟨trivial, fun _ _ => ⟨hpos 100, fun _ _ => trivial⟩⟩⟩⟩⟩⟩, fun hfresh => ?_,
    ⟨?_, ⟨_, step_reached (by decide +kernel), rfl, hhurt, fun _ _ => trivial⟩,
      ⟨_, step_reached (by decide +kernel), ?_⟩⟩, by decide +kernel, by decide +kernel⟩
  · have hzero := hfresh.heal (.inl hhurt) _ hlate
    exact absurd hzero (by decide)
  · rw [hwalking]
    decide
  · rw [hover]
    decide

end Sfrpg
