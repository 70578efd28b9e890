import Sfrpg.Blows
import Sfrpg.Changes
import Sfrpg.Watches

/-!
One blow a swing.

The flag of an attack is set by `S_Combat` when it strikes and cleared by `S_Timers` when its time
is up. In between it keeps every further blow from costing anything, through whatever else the
server does: no packet, timeout, event, message or console command writes it.
-/

namespace Sfrpg

open Lib Lib.Word Lib.Run Life Ecs

variable {F : Type} {w u v : Ecs F} {a e : EntityId} {l l' : List (Blow F)}

/-- Whether the attack of an entity has struck, if it has one. -/
def hasAttacked (a : EntityId) (w : Ecs F) : Option Bool :=
  (w.getComponent (C_Attacker F) a).map fun x => x.attacked

lemma hasAttacked_of_framed {P : EntityId → Component → Prop} (h : Framed P w u)
    (hP : ¬ P a .Attacker) : hasAttacked a u = hasAttacked a w := by
  rw [hasAttacked, hasAttacked, h.get (T := C_Attacker F) hP]

lemma hasAttacked_eq (a : EntityId) (w : Ecs F) :
    hasAttacked a w = (watch a w).swing.map Prod.snd := by
  rw [hasAttacked, watch_swing_eq]
  cases w.getComponent (C_Attacker F) a <;> rfl

variable [Field F] [LinearOrder F]

/-- A blow of `a` that costs health. -/
def Blow.By (a : EntityId) (b : Blow F) : Prop := b.message.sender = a ∧ b.Costs

/-- Nothing the entity does can cost health: its attack has struck, or it has none. -/
def Spent (a : EntityId) (w : Ecs F) : Prop := hasAttacked a w ≠ some false

/-- What the blows in `l`, from `w` to `u`, have to do with the flag of `a`. -/
structure Swing (a : EntityId) (w u : Ecs F) (l : List (Blow F)) : Prop where
  stays : Spent a w → Spent a u
  spent : Spent a w → ∀ b ∈ l, ¬ b.By a
  raises : (∃ b ∈ l, b.By a) → Spent a u
  once : l.Pairwise fun b b' => b.By a → ¬ b'.By a

lemma Swing.calm (h : Spent a w → Spent a u) : Swing a w u [] where
  stays := h
  spent _ _ hb := by simp at hb
  raises := by simp
  once := .nil

lemma Swing.of_eq (h : hasAttacked a u = hasAttacked a w) : Swing a w u [] :=
  .calm fun hw => by rwa [Spent, h]

lemma Swing.congr (h : Swing a w u l) (hv : hasAttacked a v = hasAttacked a u) :
    Swing a w v l where
  stays hw := by
    rw [Spent, hv]
    exact h.stays hw
  spent := h.spent
  raises hl := by
    rw [Spent, hv]
    exact h.raises hl
  once := h.once

lemma Swing.trans (h : Swing a w u l) (h' : Swing a u v l') : Swing a w v (l ++ l') where
  stays hw := h'.stays (h.stays hw)
  spent hw b hb := by
    rcases List.mem_append.mp hb with hb | hb
    · exact h.spent hw b hb
    · exact h'.spent (h.stays hw) b hb
  raises := by
    rintro ⟨b, hb, hby⟩
    rcases List.mem_append.mp hb with hb | hb
    · exact h'.stays (h.raises ⟨b, hb, hby⟩)
    · exact h'.raises ⟨b, hb, hby⟩
  once := by
    rw [List.pairwise_append]
    refine ⟨h.once, h'.once, fun b hb b' hb' hby => ?_⟩
    -- the first of the two has raised the flag, and the second finds it up
    exact h'.spent (h.raises ⟨b, hb, hby⟩) b' hb'

/-! ### A blow -/

lemma blow_flag (hw : Consistent w) {m : Message} (hm : m.type = .Being_Attacked)
    (hu : dispatch m w = .ok u) (a : EntityId) :
    hasAttacked a u = hasAttacked a w ∨ hasAttacked a u = some true := by
  obtain ⟨hnone, -⟩ | ⟨u', h, x, hu', hhit⟩ := blow_cases hw hm
  · rw [hnone] at hu
    cases hu
    exact .inl rfl
  · rw [hu'] at hu
    cases hu
    by_cases ha : a = m.sender
    · right
      rw [ha, hasAttacked, hhit.noted]
      rfl
    · left
      refine hasAttacked_of_framed hhit.effects.framed ?_
      rintro (⟨-, h⟩ | ⟨h, -⟩)
      · revert h
        decide
      · exact ha h

lemma Blow.By.flag {b : Blow F} (hb : b.Fair) (h : b.By a)
    (hu : dispatch b.message b.world = .ok u) :
    hasAttacked a b.world = some false ∧ hasAttacked a u = some true := by
  obtain ⟨rfl, hcosts⟩ := h
  obtain ⟨u', hu', -, -, hnoted, -⟩ := blow_spec hb.1 hb.2
  rw [hu] at hu'
  cases hu'
  obtain ⟨hlet, x, hx, -⟩ := (costs_iff hb).mp hcosts
  have hraised := hnoted hlet x hx
  obtain ⟨-, -, y, hy, hclear⟩ := hlet
  rw [hasAttacked, hasAttacked, hraised, hy]
  exact ⟨congrArg some hclear, rfl⟩

lemma Blow.Costs.one {b : Blow F} (hb : b.Fair) (h : b.Costs) :
    ∃ u h h', dispatch b.message b.world = .ok u ∧
      b.world.getComponent C_Health b.message.receiver = some h ∧
      u.getComponent C_Health b.message.receiver = some h' ∧ h'.health = h.health - 1 := by
  obtain ⟨hlet, x, hx, hpos⟩ := (costs_iff hb).mp h
  obtain ⟨u, hu, -, hhealth, -, -⟩ := blow_spec hb.1 hb.2
  refine ⟨u, x, _, hu, hx, by rw [hhealth hlet, hx]; rfl, ?_⟩
  show hitHealth x.health = x.health - 1
  unfold hitHealth
  split <;> omega

lemma Swing.blow (hw : Consistent w) {m : Message} (hm : m.type = .Being_Attacked)
    (hu : dispatch m w = .ok u) : Swing a w u [⟨w, m⟩] where
  stays h := by
    rcases blow_flag hw hm hu a with heq | hup
    · rwa [Spent, heq]
    · rw [Spent, hup]
      decide
  spent h b hb hby := by
    rw [List.mem_singleton.mp hb] at hby
    exact h (hby.flag ⟨hw, hm⟩ hu).1
  raises := by
    rintro ⟨b, hb, hby⟩
    rw [List.mem_singleton.mp hb] at hby
    rw [Spent, (hby.flag ⟨hw, hm⟩ hu).2]
    decide
  once := List.pairwise_singleton _ _

/-! ### The updates -/

variable [FloorRing F]

lemma collision_swing (S : Setting F) (hw : Consistent w) (a : EntityId) :
    Post (S_Collision.updateTraced S w) (fun p => Swing a w p.1 p.2) fun _ => False := by
  refine updateTraced_rule S hw (fun u v log m hu h hm hv => ?_) fun u hu => ?_
  · exact h.trans (.blow (hu.consistent hw) hm hv)
  · refine .of_eq (hasAttacked_of_framed hu.framed ?_)
    show ¬ (Component.Attacker = .Position ∨ Component.Attacker = .Collidable)
    decide

lemma timers_flag {dT : F} (hw : Consistent w) (hu : S_Timers.update dT w = .ok u)
    (a : EntityId) : hasAttacked a u = hasAttacked a w ∨
      hasAttacked a w ≠ none ∧ hasAttacked a u = some false := by
  obtain ⟨-, hbody⟩ := timers_body hw hu
  have hflag : ∀ v : Ecs F, hasAttacked a v = (body a v).attacker.map fun x => x.attacked :=
    fun v => rfl
  rw [hflag u, hflag w]
  rcases hbody a with hsame | hpass
  · rw [hsame]
    exact .inl rfl
  · generalize body a u = b' at hpass ⊢
    cases hpass with
    | idle => exact .inl rfl
    | heal s h =>
      left
      rw [Body.heal]
      split <;> rfl
    | swing s x _ hx =>
      rw [hx, Body.swing]
      split
      · exact .inl rfl
      · exact .inr ⟨by simp, rfl⟩

lemma update_swing (S : Setting F) (hw : Consistent w) {sys : System} {dT : F}
    (hu : update S dT sys w = .ok u)
    (hup : sys = .Timers → hasAttacked a w = some true → hasAttacked a u ≠ some false) :
    Swing a w u (blows S w (.update sys dT)) := by
  have hguided : ¬ Guided a .Attacker := by
    show ¬ (Component.Attacker = .State ∨ Component.Attacker = .Position)
    decide
  have hmoved : ¬ (Component.Attacker = .Movable ∨ Component.Attacker = .Position) := by decide
  cases sys with
  | Network => exact .of_eq (hasAttacked_of_framed ((network_update_post hw).ok hu).framed hguided)
  | Movement =>
    exact .of_eq (hasAttacked_of_framed ((movement_update_post S dT hw).ok hu).framed hmoved)
  | Control =>
    cases hu
    exact .of_eq rfl
  | State => exact .of_eq (hasAttacked_of_framed ((state_update_post hw).ok hu).framed hguided)
  | Collision =>
    obtain ⟨⟨u', log⟩, hrun, hswing⟩ := (collision_swing S hw a).exists_ok
    have hforget := S_Collision.forget_update S w
    rw [hrun, Trace.forget_ok] at hforget
    cases hforget.trans hu
    rw [blows, hrun]
    exact hswing
  | Combat =>
    refine .of_eq ?_
    rw [hasAttacked_eq, hasAttacked_eq, (combat_watch w a).ok hu]
  | Timers =>
    refine .calm fun hspent => ?_
    rcases timers_flag hw hu a with heq | ⟨hsome, hdown⟩
    · rwa [Spent, heq]
    · cases h : hasAttacked a w with
      | none => exact absurd h hsome
      | some b =>
        cases b with
        | false => exact absurd h hspent
        | true => exact hup rfl h

lemma update_health (S : Setting F) (hw : Consistent w) {sys : System} {dT : F}
    (hu : update S dT sys w = .ok u) (hsys : sys ≠ .Timers) {h h' : C_Health}
    (hh : w.getComponent C_Health e = some h) (hh' : u.getComponent C_Health e = some h')
    (hlt : h'.health < h.health) :
    ∃ b ∈ blows S w (.update sys dT), b.message.receiver = e ∧ b.Costs := by
  have hspared : ∀ {P : EntityId → Component → Prop}, Framed P w u → ¬ P e .Health → False := by
    intro P hf hP
    rw [hf.get (T := C_Health) hP, hh] at hh'
    cases hh'
    exact absurd hlt (lt_irrefl _)
  have hguided : ¬ Guided e .Health := by
    show ¬ (Component.Health = .State ∨ Component.Health = .Position)
    decide
  have hmoved : ¬ (Component.Health = .Movable ∨ Component.Health = .Position) := by decide
  cases sys with
  | Network => exact (hspared ((network_update_post hw).ok hu).framed hguided).elim
  | Movement => exact (hspared ((movement_update_post S dT hw).ok hu).framed hmoved).elim
  | Control =>
    cases hu
    exact (hspared (P := Guided) (framed_of_entities rfl rfl rfl) hguided).elim
  | State => exact (hspared ((state_update_post hw).ok hu).framed hguided).elim
  | Collision => exact lost_by_blows S hw (.inl rfl) dT hu hh hh' hlt
  | Combat => exact lost_by_blows S hw (.inr rfl) dT hu hh hh' hlt
  | Timers => exact absurd rfl hsys

namespace World

/-! ### The server -/

/-- The blows of a section, each with the entities as they are when it falls. -/
def blows (S : Setting F) (w : World F) : Env F × Act F → List (Blow F)
  | (_, .update sys dT) => Sfrpg.blows S w.ecs (.update sys dT)
  | _ => []

def blowsOf (S : Setting F) (w : World F) : List (Env F × Act F) → List (Blow F)
  | [] => []
  | i :: is => blows S w i ++
    match act S w i with
    | .ok u => blowsOf S u is
    | .error _ => []

/-- `S_Timers` takes down the flag of `a`. -/
def Clears (S : Setting F) (a : EntityId) (w : World F) (i : Env F × Act F) : Prop :=
  ∃ dT u, i.2 = .update .Timers dT ∧ act S w i = .ok u ∧ hasAttacked a w.ecs = some true ∧
    hasAttacked a u.ecs = some false

variable {w w' : World F}

lemma blows_eq_nil {S : Setting F} {i : Env F × Act F} (h : ∀ sys dT, i.2 ≠ .update sys dT) :
    blows S w i = [] := by
  unfold blows
  split
  · next env sys dT => exact absurd rfl (h sys dT)
  · rfl

/-- **The flag over a section**: it is taken down by the timers only. -/
lemma act_swing (S : Setting F) (hw : Consistent w.ecs) {i : Env F × Act F}
    (ha : hasAttacked a w.ecs ≠ none) (hclear : ¬ Clears S a w i) (h : act S w i = .ok w') :
    Swing a w.ecs w'.ecs (blows S w i) := by
  obtain ⟨env, i⟩ := i
  by_cases hupdate : ∃ sys dT, i = .update sys dT
  · obtain ⟨sys, dT, rfl⟩ := hupdate
    obtain ⟨u, hu, heq⟩ := act_update_ok h
    have hsame : hasAttacked a w'.ecs = hasAttacked a u := by
      rw [heq]
      rfl
    refine (update_swing S hw hu fun hsys hup hdown => ?_).congr hsame
    subst hsys
    exact hclear ⟨dT, w', rfl, h, hup, by rw [hsame, hdown]⟩
  · rw [blows_eq_nil fun sys dT hi => hupdate ⟨sys, dT, hi⟩]
    rcases act_cases S hw h with hchanges | ⟨sys, dT, -, rfl, -⟩ |
      ⟨systems, keys, u, rfl, hu, heq⟩ | ⟨id, health, rfl, heq⟩ | ⟨rfl, heq⟩
    · refine .calm fun hspent => ?_
      have hunmanaged : ¬ Managed .Attacker := by
        show ¬ (Component.Attacker = .Position ∨ Component.Attacker = .Client ∨
          Component.Attacker = .Name)
        decide
      rw [Spent, hasAttacked] at hspent ⊢
      cases hx : w.ecs.getComponent (C_Attacker F) a with
      | none =>
        rw [hasAttacked, hx] at ha
        exact absurd rfl ha
      | some x =>
        rw [hx] at hspent
        rcases hchanges.kept_get hunmanaged hx with hsame | hnone
        · rwa [hsame]
        · rw [hnone]
          intro hfalse
          cases hfalse
    · exact absurd ⟨sys, dT, rfl⟩ hupdate
    · have hframed := ((handleEvents_ok hw systems keys).ok hu).framed
      have hmoved : ¬ Moved a .Attacker := by
        show ¬ (Component.Attacker = .State ∨ Component.Attacker = .Movable)
        decide
      rw [heq]
      exact (Swing.of_eq (hasAttacked_of_framed hframed hmoved)).congr rfl
    · rw [heq]
      exact .of_eq (hasAttacked_of_framed (setHealth_framed id health w)
        fun h => absurd h.2 (show Component.Attacker ≠ .Health by decide))
    · rw [heq]
      refine .calm fun _ => ?_
      rw [Spent, hasAttacked, getComponent, getBase]
      intro hfalse
      cases hfalse

/-- **Health over a section**: but for the timers and the console, it is lost by the blows of the
section only. -/
lemma act_health (S : Setting F) (hw : Consistent w.ecs) {i : Env F × Act F}
    (h : act S w i = .ok w') (htimers : ∀ dT, i.2 ≠ .update .Timers dT)
    (hconsole : ∀ id health, i.2 ≠ .setHealth id health) {h₀ h' : C_Health}
    (hh : w.ecs.getComponent C_Health e = some h₀) (hh' : w'.ecs.getComponent C_Health e = some h')
    (hlt : h'.health < h₀.health) : ∃ b ∈ blows S w i, b.message.receiver = e ∧ b.Costs := by
  obtain ⟨env, i⟩ := i
  have hspared : w'.ecs.getComponent C_Health e = some h₀ → False := by
    intro hsame
    rw [hh'] at hsame
    cases hsame
    exact absurd hlt (lt_irrefl _)
  rcases act_cases S hw h with hchanges | ⟨sys, dT, u, rfl, hu, heq⟩ |
    ⟨systems, keys, u, rfl, hu, heq⟩ | ⟨id, health, rfl, -⟩ | ⟨rfl, heq⟩
  · have hunmanaged : ¬ Managed .Health := by
      show ¬ (Component.Health = .Position ∨ Component.Health = .Client ∨ Component.Health = .Name)
      decide
    rcases hchanges.kept_get hunmanaged hh with hsame | hnone
    · exact (hspared hsame).elim
    · rw [hnone] at hh'
      cases hh'
  · rw [heq] at hh'
    refine update_health S hw hu (fun hsys => htimers dT ?_) hh hh' hlt
    rw [hsys]
  · have hframed := ((handleEvents_ok hw systems keys).ok hu).framed
    have hmoved : ¬ Moved e .Health := by
      show ¬ (Component.Health = .State ∨ Component.Health = .Movable)
      decide
    refine (hspared ?_).elim
    rw [heq]
    exact (hframed.get (T := C_Health) hmoved).trans hh
  · exact absurd rfl (hconsole id health)
  · rw [heq, getComponent, getBase] at hh'
    cases hh'

lemma blows_fair (S : Setting F) (hw : Consistent w.ecs) (i : Env F × Act F) :
    ∀ b ∈ blows S w i, b.Fair := by
  unfold blows
  split
  · exact Sfrpg.blows_fair S hw _
  · simp

lemma blowsOf_fair (S : Setting F) (hw : Consistent w.ecs) (is : List (Env F × Act F)) :
    ∀ b ∈ blowsOf S w is, b.Fair := by
  induction is generalizing w with
  | nil => simp [blowsOf]
  | cons i is ih =>
    intro b hb
    rw [blowsOf, List.mem_append] at hb
    rcases hb with hb | hb
    · exact blows_fair S hw i b hb
    · split at hb
      · next u hu => exact ih ((act_post S hw i).ok hu).consistent b hb
      · simp at hb

lemma blows_swing (S : Setting F) (hw : Consistent w.ecs) (i : Env F × Act F) (a : EntityId) :
    ∃ u, Swing a w.ecs u (blows S w i) := by
  obtain ⟨⟨u, log⟩, hrun, hswing⟩ := (collision_swing S hw a).exists_ok
  unfold blows
  split
  · next env sys dT =>
    cases sys with
    | Collision =>
      rw [Sfrpg.blows, hrun]
      exact ⟨u, hswing⟩
    | _ => exact ⟨w.ecs, .of_eq rfl⟩
  · exact ⟨w.ecs, .of_eq rfl⟩

lemma blowsOf_swing (S : Setting F) (hw : Consistent w.ecs) (is : List (Env F × Act F))
    (hswing : AlongE (act S) (fun u i => hasAttacked a u.ecs ≠ none ∧ ¬ Clears S a u i) w is) :
    ((blowsOf S w is).Pairwise fun b b' => b.By a → ¬ b'.By a) ∧
      (Spent a w.ecs → ∀ b ∈ blowsOf S w is, ¬ b.By a) := by
  induction is generalizing w with
  | nil => simp [blowsOf]
  | cons i is ih =>
    obtain ⟨⟨ha, hclear⟩, hrest⟩ := hswing
    rw [blowsOf]
    cases hstep : act S w i with
    | error f =>
      obtain ⟨u, hnow⟩ := blows_swing S hw i a
      rw [List.append_nil]
      exact ⟨hnow.once, hnow.spent⟩
    | ok u =>
      have hnow := act_swing S hw ha hclear hstep
      obtain ⟨honce, hspent⟩ := ih ((act_post S hw i).ok hstep).consistent (hrest u hstep)
      refine ⟨?_, fun h b hb => ?_⟩
      · rw [List.pairwise_append]
        exact ⟨hnow.once, honce, fun b hb b' hb' hby => hspent (hnow.raises ⟨b, hb, hby⟩) b' hb'⟩
      · rcases List.mem_append.mp hb with hb | hb
        · exact hnow.spent h b hb
        · exact hspent (hnow.stays h) b hb

/-- **One blow a swing.** From any reachable world, take a run through which `a` has an attack whose
flag `S_Timers` never takes down. Of all the blows that fall in it, whoever they strike and in
whatever order, at most one of `a` costs health, and none if the flag is up to begin with; it costs
one point. And but for what the timers and the console write, no section costs anybody health
otherwise than by these blows. -/
theorem one_blow_a_swing (S : Setting F) (before acts : List (Env F × Act F)) (w : World F)
    (hw : runE (act S) start before = .ok w) (a : EntityId)
    (hswing : AlongE (act S) (fun u i => hasAttacked a u.ecs ≠ none ∧ ¬ Clears S a u i) w acts) :
    ((blowsOf S w acts).Pairwise fun b b' => b.By a → ¬ b'.By a) ∧
    (hasAttacked a w.ecs = some true → ∀ b ∈ blowsOf S w acts, ¬ b.By a) ∧
    (∀ b ∈ blowsOf S w acts, b.By a → ∃ u h h', dispatch b.message b.world = .ok u ∧
      b.world.getComponent C_Health b.message.receiver = some h ∧
      u.getComponent C_Health b.message.receiver = some h' ∧ h'.health = h.health - 1) ∧
    AlongE (act S) (fun u i => ∀ v, act S u i = .ok v → (∀ dT, i.2 ≠ .update .Timers dT) →
      (∀ id health, i.2 ≠ .setHealth id health) → ∀ e h h',
      u.ecs.getComponent C_Health e = some h → v.ecs.getComponent C_Health e = some h' →
      h'.health < h.health → ∃ b ∈ blows S u i, b.message.receiver = e ∧ b.Costs) w acts := by
  have hc : Consistent w.ecs := (keeps_run hw).consistent
  obtain ⟨honce, hspent⟩ := blowsOf_swing S hc acts hswing
  refine ⟨honce, fun hup => hspent ?_, fun b hb hby => hby.2.one (blowsOf_fair S hc acts b hb), ?_⟩
  · rw [Spent, hup]
    decide
  · refine AlongE.imp (I := fun u : World F => Consistent u.ecs) ?_ ?_ hc hswing
    · intro u i v hu _ hv
      exact ((act_post S hu i).ok hv).consistent
    · intro u i hu _ v hv htimers hconsole e h h' hh hh' hlt
      exact act_health S hu hv htimers hconsole hh hh' hlt

/-- The one entity file describes a fighter: five points of health, and an attack as wide as the box
around it. -/
def fighterEnv : Env ℚ :=
  { plainEnv with
    files := fun _ => some ["Attributes 4653", "Component 5 8 8 0 0 0", "Component 9 5 0 0",
      "Component 12 0 0 8 8 0 500"] }

/-- Two fighters on one spot, both ready to strike. -/
def duel : World ℚ := reached (act (Setting.empty ℚ)) start
  [(fighterEnv, .loadEntity "Fighter" (.ofLine "4 4 0")),
    (fighterEnv, .loadEntity "Fighter" (.ofLine "4 4 0")), (fighterEnv, .update .Combat 16)]

def exchange : List (Env ℚ × Act ℚ) :=
  [(fighterEnv, .update .Collision 16), (fighterEnv, .update .Collision 16)]

/-- The first of them strikes in two updates, and hits in one. -/
theorem one_blow_a_swing_duel :
    (blowsOf (Setting.empty ℚ) duel exchange).map
        (fun b => (b.message.sender, b.message.receiver)) =
      [(0, 1), (1, 0), (0, 1), (1, 0)] ∧
      (blowsOf (Setting.empty ℚ) duel exchange).Pairwise fun b b' => b.By 0 → ¬ b'.By 0 := by
  refine ⟨by decide +kernel, ?_⟩
  have hsome : ∀ acts : List (Env ℚ × Act ℚ), hasAttacked 0 (reached (act (Setting.empty ℚ)) duel
      acts).ecs ≠ none →
      hasAttacked 0 (reached (act (Setting.empty ℚ)) duel acts).ecs ≠ none ∧
        ¬ Clears (Setting.empty ℚ) 0 (reached (act (Setting.empty ℚ)) duel acts)
          (fighterEnv, .update .Collision 16) := by
    rintro acts h
    refine ⟨h, ?_⟩
    rintro ⟨dT, u, hi, -⟩
    cases hi
  refine (one_blow_a_swing (Setting.empty ℚ) _ exchange duel (runE_reached (by decide +kernel)) 0
    ⟨hsome [] (by decide +kernel), fun t ht => ⟨?_, fun _ _ => trivial⟩⟩).1
  have hstep : runE (act (Setting.empty ℚ)) duel [(fighterEnv, .update .Collision 16)] = .ok t :=
    runE_cons_ok.mpr ⟨t, ht, rfl⟩
  have hreached : t = reached (act (Setting.empty ℚ)) duel
      [(fighterEnv, .update .Collision 16)] := by
    rw [reached, hstep]
    rfl
  rw [hreached]
  exact hsome _ (by decide +kernel)

end World

end Sfrpg
