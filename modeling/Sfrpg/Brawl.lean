import Sfrpg.Boxes
import Sfrpg.Encounters
import Sfrpg.Swings

/-!
Who strikes whom in an update, read off the world before it.

Every area of attack that meets a box is a threat. Of the threats of one attacker only the first
becomes a blow, since its flag is up from then on, and whoever has been struck is attacking no more.
So what an update does to health is settled by the threats, the flags, the healths and the states
that it begins with.
-/

namespace Sfrpg

open Lib Lib.Word Lib.Run Life Ecs

/-! ### First threats -/

/-- The first threat of every attacker. -/
def openings : List (EntityId × EntityId) → List (EntityId × EntityId)
  | [] => []
  | p :: l => p :: (openings l).filter fun q => q.1 ≠ p.1

lemma mem_openings_fst (l : List (EntityId × EntityId)) (a : EntityId) :
    a ∈ (openings l).map Prod.fst ↔ a ∈ l.map Prod.fst := by
  induction l with
  | nil => rfl
  | cons p l ih =>
    rw [List.mem_map] at ih
    simp only [openings, List.map_cons, List.mem_cons, List.mem_map, List.mem_filter, ne_eq,
      decide_eq_true_eq]
    rw [List.mem_map] at ih
    constructor
    · rintro (h | ⟨q, ⟨hq, -⟩, rfl⟩)
      · exact .inl h
      · exact .inr (ih.mp ⟨q, hq, rfl⟩)
    · rintro (h | h)
      · exact .inl h
      · by_cases ha : a = p.1
        · exact .inl ha
        · obtain ⟨q, hq, rfl⟩ := ih.mpr h
          exact .inr ⟨q, ⟨hq, ha⟩, rfl⟩

lemma openings_concat (l : List (EntityId × EntityId)) (p : EntityId × EntityId) :
    openings (l ++ [p]) = if p.1 ∈ l.map Prod.fst then openings l else openings l ++ [p] := by
  induction l with
  | nil => rfl
  | cons q l ih =>
    rw [List.cons_append, openings, ih]
    by_cases hl : p.1 ∈ l.map Prod.fst
    · have hql : p.1 ∈ (q :: l).map Prod.fst := List.mem_cons_of_mem _ hl
      rw [if_pos hl, if_pos hql, openings]
    · rw [if_neg hl, List.filter_append]
      by_cases hq : p.1 = q.1
      · have hql : p.1 ∈ (q :: l).map Prod.fst := by simp [hq]
        rw [if_pos hql, openings]
        simp [hq]
      · have hql : p.1 ∉ (q :: l).map Prod.fst := by
          rw [List.map_cons, List.mem_cons, not_or]
          exact ⟨hq, hl⟩
        rw [if_neg hql, openings]
        simp [hq]

variable {F : Type} {w u v : Ecs F}

/-! ### Threats that become blows -/

/-- `S_Combat` would let `p.1` strike `p.2`: it lists both, the attack has not struck, and there is
health. -/
def MayStrike (w : Ecs F) (p : EntityId × EntityId) : Prop :=
  w.hasEntity .Combat p.2 ∧ w.hasEntity .Combat p.1 ∧ hasAttacked p.1 w = some false ∧
    (w.getComponent C_Health p.2).isSome = true

instance (w : Ecs F) : DecidablePred (MayStrike w) := fun p =>
  inferInstanceAs (Decidable (p.2 ∈ w.members .Combat ∧ p.1 ∈ w.members .Combat ∧ _ ∧ _))

/-- The threats of `l` that become blows. -/
def strikes (w : Ecs F) (l : List (EntityId × EntityId)) : List (EntityId × EntityId) :=
  openings (l.filter (MayStrike w))

/-- After the blows in `pre`, each of which takes a point of health, `p.2` has some left. -/
def HealthLeft (w : Ecs F) (pre : List (EntityId × EntityId)) (p : EntityId × EntityId) : Prop :=
  ∃ h, w.getComponent C_Health p.2 = some h ∧
    ((pre.countP fun q => q.2 = p.2 : ℕ) : ℤ) < h.health

/-- `p.1` attacks, and has not been struck by the blows in `pre`. -/
def OnAttack (w : Ecs F) (pre : List (EntityId × EntityId)) (p : EntityId × EntityId) : Prop :=
  w.getComponent C_State p.1 = some ⟨.Attacking⟩ ∧ ∀ q ∈ pre, q.2 ≠ p.1

/-- Whoever is to strike somebody with health left attacks. -/
def Warranted (w : Ecs F) (l : List (EntityId × EntityId)) : Prop :=
  ∀ pre p, pre ++ [p] <+: strikes w l → HealthLeft w pre p → OnAttack w pre p

lemma strikes_concat (w : Ecs F) (l : List (EntityId × EntityId)) (p : EntityId × EntityId) :
    strikes w (l ++ [p]) =
      if MayStrike w p ∧ p.1 ∉ (strikes w l).map Prod.fst then strikes w l ++ [p]
      else strikes w l := by
  unfold strikes
  rw [List.filter_append]
  by_cases hp : MayStrike w p
  · have hmem := mem_openings_fst (l.filter (MayStrike w)) p.1
    rw [List.filter_cons_of_pos (by simpa using hp), List.filter_nil, openings_concat]
    by_cases hl : p.1 ∈ (l.filter (MayStrike w)).map Prod.fst
    · rw [if_pos hl, if_neg fun h => h.2 (hmem.mpr hl)]
    · rw [if_neg hl, if_pos ⟨hp, fun h => hl (hmem.mp h)⟩]
  · rw [List.filter_cons_of_neg (by simpa using hp), List.filter_nil, List.append_nil,
      if_neg fun h => hp h.1]

lemma warranted_nil (w : Ecs F) : Warranted w [] := by
  intro pre p hpre
  rw [show strikes w [] = [] from rfl, List.prefix_nil] at hpre
  simp at hpre

lemma warranted_concat {l : List (EntityId × EntityId)} {p : EntityId × EntityId}
    (hp : strikes w (l ++ [p]) = strikes w l ++ [p]) :
    Warranted w (l ++ [p]) ↔
      Warranted w l ∧ (HealthLeft w (strikes w l) p → OnAttack w (strikes w l) p) := by
  unfold Warranted
  rw [hp]
  constructor
  · intro h
    exact ⟨fun pre q hpre => h pre q (hpre.trans (List.prefix_append _ _)),
      h _ p List.prefix_rfl⟩
  · rintro ⟨h, hlast⟩ pre q hpre
    rcases List.prefix_concat_iff.mp hpre with heq | hpre
    · obtain ⟨rfl, hq⟩ := List.append_inj' heq rfl
      obtain rfl := (List.cons.inj hq).1
      exact hlast
    · exact h pre q hpre

/-! ### What the blows so far have done -/

/-- `u` is what the blows of the threats in `l` have made of `w`. -/
structure Fallen (w u : Ecs F) (l : List (EntityId × EntityId)) : Prop where
  flag : ∀ a, hasAttacked a u =
    if a ∈ (strikes w l).map Prod.fst then some true else hasAttacked a w
  health : ∀ e, u.getComponent C_Health e = (w.getComponent C_Health e).map fun h =>
    h.setHealth (hitHealth^[(strikes w l).countP fun q => q.2 = e] h.health)
  state : ∀ e, u.getComponent C_State e = some ⟨.Attacking⟩ ↔
    w.getComponent C_State e = some ⟨.Attacking⟩ ∧ ∀ q ∈ strikes w l, q.2 ≠ e

lemma iterate_hitHealth_pos (k : ℕ) (n : ℤ) : 0 < hitHealth^[k] n ↔ (k : ℤ) < n := by
  induction k generalizing n with
  | zero => simp
  | succ k ih =>
    rw [Function.iterate_succ_apply, ih]
    unfold hitHealth
    split <;> omega

lemma Fallen.of_placed (h : Effects Placed w u) : Fallen w u [] where
  flag a := by
    refine hasAttacked_of_framed h.framed ?_
    show ¬ (Component.Attacker = .Position ∨ Component.Attacker = .Collidable)
    decide
  health e := by
    rw [h.framed.get (T := C_Health)
      (show ¬ (Component.Health = .Position ∨ Component.Health = .Collidable) by decide)]
    cases w.getComponent C_Health e <;> rfl
  state e := by
    rw [h.framed.get (T := C_State)
      (show ¬ (Component.State = .Position ∨ Component.State = .Collidable) by decide)]
    simp [strikes, openings]

lemma Fallen.stay {l l' : List (EntityId × EntityId)} (h : Fallen w u l)
    (hl : strikes w l' = strikes w l) : Fallen w u l' where
  flag := by rw [hl]; exact h.flag
  health := by rw [hl]; exact h.health
  state := by rw [hl]; exact h.state

lemma Fallen.strikes_iff {l : List (EntityId × EntityId)} (h : Fallen w u l)
    (heff : Effects Played w u) (m : Message) :
    (MayStrike w (m.sender, m.receiver) ∧ m.sender ∉ (strikes w l).map Prod.fst) ↔
      Admits u m ∧ ∃ x, u.getComponent C_Health m.receiver = some x := by
  have hflag : (∃ a, u.getComponent (C_Attacker F) m.sender = some a ∧ a.attacked = false) ↔
      hasAttacked m.sender w = some false ∧ m.sender ∉ (strikes w l).map Prod.fst := by
    rw [← Option.map_eq_some_iff]
    show hasAttacked m.sender u = some false ↔ _
    rw [h.flag]
    by_cases hm : m.sender ∈ (strikes w l).map Prod.fst
    · simp [hm]
    · simp [hm]
  have hhealth : (∃ x, u.getComponent C_Health m.receiver = some x) ↔
      (w.getComponent C_Health m.receiver).isSome = true := by
    rw [← Option.isSome_iff_exists, heff.framed.isSome_get]
  rw [Admits, hhealth, hflag, Ecs.hasEntity, Ecs.hasEntity, heff.framed.members, MayStrike]
  tauto

lemma Fallen.hit {l : List (EntityId × EntityId)} (h : Fallen w u l) {m : Message}
    {x : C_Health} {a : C_Attacker F} (hhit : Wounds m x a u v)
    (hl : strikes w (l ++ [(m.sender, m.receiver)]) = strikes w l ++ [(m.sender, m.receiver)]) :
    Fallen w v (l ++ [(m.sender, m.receiver)]) where
  flag e := by
    rw [hl]
    by_cases he : e = m.sender
    · rw [if_pos (by simp [he]), hasAttacked, he, hhit.noted]
      rfl
    · have hmem : e ∈ (strikes w l ++ [(m.sender, m.receiver)]).map Prod.fst ↔
          e ∈ (strikes w l).map Prod.fst := by simp [he]
      rw [hasAttacked_of_framed hhit.effects.framed, h.flag]
      · exact if_congr hmem.symm rfl rfl
      · rintro (⟨-, hc⟩ | ⟨hs, -⟩)
        · exact absurd hc (show ¬ (Component.Attacker = .State ∨ Component.Attacker = .Health ∨
            Component.Attacker = .Movable) by decide)
        · exact he hs
  health e := by
    rw [hl, List.countP_append]
    by_cases he : e = m.receiver
    · subst he
      have hx := (h.health m.receiver).symm.trans hhit.health
      obtain ⟨y, hy, hxy⟩ := Option.map_eq_some_iff.mp hx
      rw [hhit.hurt, hy, ← hxy]
      simp [C_Health.setHealth, Function.iterate_succ_apply']
    · rw [hhit.effects.framed.get (T := C_Health), h.health]
      · simp [Ne.symm he]
      · rintro (⟨hr, -⟩ | ⟨-, hc⟩)
        · exact he hr
        · exact absurd hc (show Component.Health ≠ .Attacker by decide)
  state e := by
    rw [hl]
    by_cases he : e = m.receiver
    · subst he
      obtain ⟨s, s', -, hs', hwounded⟩ := hhit.state
      refine iff_of_false (fun hatt => ?_) fun hatt => hatt.2 (m.sender, m.receiver) (by simp) rfl
      rw [hs', Option.some.injEq] at hatt
      exact hwounded.not_attacking (congrArg C_State.state hatt)
    · rw [hhit.effects.framed.get (T := C_State), h.state]
      · simp [or_imp, forall_and, Ne.symm he]
      · rintro (⟨hr, -⟩ | ⟨-, hc⟩)
        · exact he hr
        · exact absurd hc (show Component.State ≠ .Attacker by decide)

/-! ### The record against the threats -/

/-- The sides of a message. -/
def sidesOf (b : Blow F) : EntityId × EntityId := (b.message.sender, b.message.receiver)

variable [Field F] [LinearOrder F]

/-- The blows so far are what the threats come to, and as warranted. -/
structure Told (w u : Ecs F) (log : List (Blow F)) : Prop where
  fallen : Fallen w u (log.map sidesOf)
  warranted : (∀ b ∈ log, b.Costs → b.Meant) ↔ Warranted w (log.map sidesOf)

lemma Told.of_placed (h : Effects Placed w u) : Told w u [] :=
  ⟨.of_placed h, by simp [warranted_nil]⟩

/-- **A blow** costs health exactly if it is one of the strikes, with health left, and is meant
exactly if its sender is on the attack. -/
lemma Told.blow {log : List (Blow F)} (h : Told w u log) (hw : Consistent w)
    (heff : Effects Played w u) {m : Message} (hm : m.type = .Being_Attacked)
    (hv : dispatch m u = .ok v) : Told w v (log ++ [⟨u, m⟩]) := by
  have hfair : Blow.Fair (⟨u, m⟩ : Blow F) := ⟨heff.consistent hw, hm⟩
  have hconcat := strikes_concat w (log.map sidesOf) (m.sender, m.receiver)
  have hiff := h.fallen.strikes_iff heff m
  have hmap : (log ++ [(⟨u, m⟩ : Blow F)]).map sidesOf =
      log.map sidesOf ++ [(m.sender, m.receiver)] := by
    rw [List.map_append]
    rfl
  obtain ⟨hnone, hhealth⟩ | ⟨u', x, a, hu', hhit⟩ := blow_cases (heff.consistent hw) hm
  · rw [hnone] at hv
    cases hv
    -- nothing comes of the threat
    have hno : ¬ (Admits u m ∧ ∃ x, u.getComponent C_Health m.receiver = some x) := by
      rintro ⟨hlet, x, hx⟩
      rw [hhealth hlet] at hx
      cases hx
    rw [if_neg fun hs => hno (hiff.mp hs)] at hconcat
    refine ⟨by rw [hmap]; exact h.fallen.stay hconcat, ?_⟩
    have hfree : ¬ (⟨u, m⟩ : Blow F).Costs := by
      rw [costs_iff hfair]
      rintro ⟨hlet, x, hx, -⟩
      exact hno ⟨hlet, x, hx⟩
    rw [hmap, Warranted, hconcat, ← Warranted, ← h.warranted]
    simp [or_imp, forall_and, hfree]
  · rw [hu'] at hv
    cases hv
    rw [if_pos (hiff.mpr ⟨hhit.admits, x, hhit.health⟩)] at hconcat
    refine ⟨by rw [hmap]; exact h.fallen.hit hhit hconcat, ?_⟩
    have hcosts : (⟨u, m⟩ : Blow F).Costs ↔
        HealthLeft w (strikes w (log.map sidesOf)) (m.sender, m.receiver) := by
      rw [costs_iff hfair]
      have hx := (h.fallen.health m.receiver).symm.trans hhit.health
      obtain ⟨y, hy, rfl⟩ := Option.map_eq_some_iff.mp hx
      constructor
      · rintro ⟨-, x, hx, hpos⟩
        obtain rfl := Option.some.inj (hhit.health.symm.trans hx)
        exact ⟨y, hy, (iterate_hitHealth_pos _ _).mp hpos⟩
      · rintro ⟨y', hy', hleft⟩
        obtain rfl := Option.some.inj (hy.symm.trans hy')
        exact ⟨hhit.admits, _, hhit.health, (iterate_hitHealth_pos _ _).mpr hleft⟩
    have hmeant : (⟨u, m⟩ : Blow F).Meant ↔
        OnAttack w (strikes w (log.map sidesOf)) (m.sender, m.receiver) := h.fallen.state m.sender
    rw [hmap, warranted_concat hconcat, ← h.warranted, ← hcosts, ← hmeant]
    simp [or_imp, forall_and]

/-! ### The threats of a step -/

variable [FloorRing F]

/-- The area of attack of `p.1` meets the box of `p.2`, where the map leaves the box. -/
def meets (S : Setting F) (w : Ecs F) (p : EntityId × EntityId) : Bool :=
  match (S_Collision.settled S (spot p.2 w)).2 with
  | none => false
  | some col => S_Collision.hits (w.getComponent (C_Attacker F) p.1) col

/-- The threats of a step, in their order. -/
def threats (S : Setting F) (w : Ecs F) : Turn F → List (EntityId × EntityId)
  | .message m => if m.type = .Being_Attacked then [(m.sender, m.receiver)] else []
  | .update .Collision _ => (S_Collision.sides (w.members .Collision)).filter (meets S w)
  | _ => []

lemma reaches_placed (S : Setting F) (heff : Effects Placed w u)
    (hspot : ∀ e ∈ w.members .Collision, spot e u = S_Collision.settled S (spot e w))
    {p : EntityId × EntityId} (hp : p.2 ∈ w.members .Collision) : reaches u p = meets S w p := by
  have hbox : u.getComponent (C_Collidable F) p.2 = (S_Collision.settled S (spot p.2 w)).2 :=
    congrArg Prod.snd (hspot p.2 hp)
  have harea : u.getComponent (C_Attacker F) p.1 = w.getComponent (C_Attacker F) p.1 :=
    heff.framed.get (T := C_Attacker F)
      (show ¬ (Component.Attacker = .Position ∨ Component.Attacker = .Collidable) by decide)
  cases hcol : (S_Collision.settled S (spot p.2 w)).2 with
  | none =>
    rw [hcol] at hbox
    simp only [reaches, meets, hbox, hcol]
  | some col =>
    rw [hcol] at hbox
    simp only [reaches, meets, hbox, harea, hcol]

/-- **The update sends its threats.** -/
lemma updateTraced_threats (S : Setting F) (hw : Consistent w) (dT : F) :
    Post (S_Collision.updateTraced S w)
      (fun p => p.2.map sidesOf = threats S w (.update .Collision dT)) fun _ => False := by
  refine (S_Collision.place_spot S hw).bind fun u hu => ?_
  obtain ⟨heff, hspot⟩ := hu
  have hcu := heff.consistent hw
  obtain ⟨v, log, hrun, -, hlog⟩ := S_Collision.collidePairs_sends hcu
    (fun p hp => mem_pairs hp) (.refl u)
  rw [S_Collision.entityCollisionsTraced, hrun, Post.post_ok]
  have hsides : log.map sidesOf =
      (log.map Blow.message).map fun m => (m.sender, m.receiver) := by
    rw [List.map_map]
    rfl
  rw [hsides, hlog, S_Collision.called, List.map_map, heff.framed.members]
  show ((S_Collision.sides (w.members .Collision)).filter (reaches u)).map id = _
  rw [List.map_id]
  refine List.filter_congr fun p hp => reaches_placed S heff hspot ?_
  exact ((S_Collision.mem_sides (hw.nodup .Collision)).mp hp).2.2

/-- **One step**: its blows are meant exactly if its threats are warranted. -/
lemma blows_meant_iff (S : Setting F) (hw : Consistent w) (i : Turn F) :
    (∀ b ∈ blows S w i, b.Costs → b.Meant) ↔ Warranted w (threats S w i) := by
  unfold blows
  split
  · next m =>
    by_cases hm : m.type = .Being_Attacked
    · obtain ⟨u, hu, -⟩ := blow_unmoved hw hm
      have htold := (Told.of_placed .refl).blow hw .refl hm hu
      rw [if_pos hm, threats, if_pos hm]
      exact htold.warranted
    · rw [if_neg hm, threats, if_neg hm]
      simp [warranted_nil]
  · next dT =>
    have htold := updateTraced_rule S hw (I := Told w)
      (fun u v log m heff h hm hv => h.blow hw heff hm hv) fun u hu => .of_placed hu
    have hsent := updateTraced_threats S hw dT
    obtain ⟨⟨u, log⟩, hrun, hlog⟩ := hsent.exists_ok
    rw [hrun] at htold ⊢
    rw [← hlog]
    exact htold.warranted
  · next hmessage hupdate =>
    have hnone : threats S w i = [] := by
      cases i with
      | message m => exact absurd rfl (hmessage m)
      | update sys dT =>
        cases sys with
        | Collision => exact absurd rfl (hupdate dT)
        | _ => rfl
      | _ => rfl
    rw [hnone]
    simp [warranted_nil]

/-- **Who strikes.** In a run, every blow that costs health is struck by an attacking entity exactly
if every step finds its threats warranted. Of the threats that `S_Combat` would let through, take
the first of every attacker. If its victim has health left after those before it, the attacker is in
state Attacking, and none of those before it is on the attacker. -/
theorem costs_meant_iff (S : Setting F) (turns : List (Turn F)) :
    (∀ b ∈ blowsOf S (new F) turns, b.Costs → b.Meant) ↔
      AlongE (turn S) (fun w i => Warranted w (threats S w i)) (new F) turns := by
  have hrun : ∀ {w : Ecs F}, Consistent w → ((∀ b ∈ blowsOf S w turns, b.Costs → b.Meant) ↔
      AlongE (turn S) (fun w i => Warranted w (threats S w i)) w turns) := by
    induction turns with
    | nil => exact fun _ => by simp [blowsOf, AlongE]
    | cons i turns ih =>
      intro w hw
      rw [blowsOf, List.forall_mem_append, blows_meant_iff S hw i, AlongE]
      refine and_congr_right fun _ => ?_
      cases hu : turn S w i with
      | error f => simp
      | ok u =>
        rw [ih (consistent_turn S hw hu)]
        exact ⟨fun h t ht => Except.ok.inj ht ▸ h, fun h => h u rfl⟩
  exact hrun consistent_new

end Sfrpg
