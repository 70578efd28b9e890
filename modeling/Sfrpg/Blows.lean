import Sfrpg.Ticks

/-!
Who costs whom health.

`S_Collision` sends a message for every entity it finds in the area of another's attack, whatever
the other is doing, and `S_Combat` asks only whether that attack has struck before. Here each of
these messages is recorded with the world it is sent in.
-/

namespace Sfrpg

open Lib Lib.Word Lib.Run Life Ecs

variable {F : Type} [Field F] [LinearOrder F] [FloorRing F] {w : Ecs F} {e : EntityId}

/-- The message of an attack, and the world it is sent in. -/
structure Blow (F : Type) where
  world : Ecs F
  message : Message

namespace S_Collision

/-! ### The messages of `entityCollisions` -/

def strikeTraced (a v : EntityId) (w : Ecs F) :
    Outcome (Ecs F × List (Blow F)) := do
  let col ← deref (w.getComponent (C_Collidable F) v)
  if hits (w.getComponent (C_Attacker F) a) col then
    Trace.record (dispatch (attack a v) w) [⟨w, attack a v⟩]
  else pure (w, [])

def collidePairTraced (w : Ecs F) (p : EntityId × EntityId) :
    Outcome (Ecs F × List (Blow F)) := do
  let _ ← deref (w.getComponent (C_Collidable F) p.1)
  let _ ← deref (w.getComponent (C_Collidable F) p.2)
  Trace.seq (strikeTraced p.1 p.2 w) (strikeTraced p.2 p.1)

def entityCollisionsTraced (w : Ecs F) : Traced Fault (Ecs F) (Blow F) :=
  Trace.foldl collidePairTraced w (pairs (w.members .Collision))

def updateTraced (S : Setting F) (w : Ecs F) :
    Outcome (Ecs F × List (Blow F)) := do
  let w ← (w.members .Collision).foldlM (updateOne S) w
  entityCollisionsTraced w

omit [FloorRing F] in
lemma forget_strike (a v : EntityId) (w : Ecs F) :
    Trace.forget (strikeTraced a v w) = strike dispatch a v w := by
  rw [strikeTraced, strike, Trace.forget_bind]
  congr 1
  funext col
  split
  · exact Trace.forget_record _ _
  · rfl

omit [FloorRing F] in
lemma forget_collidePair (w : Ecs F) (p : EntityId × EntityId) :
    Trace.forget (collidePairTraced w p) = collidePair dispatch w p := by
  rw [collidePairTraced, collidePair, Trace.forget_bind]
  congr 1
  funext _
  rw [Trace.forget_bind]
  congr 1
  funext _
  rw [Trace.forget_seq, forget_strike]
  simp only [forget_strike]

lemma forget_update (S : Setting F) (w : Ecs F) :
    Trace.forget (updateTraced S w) = update S w := by
  rw [updateTraced, update, Trace.forget_bind]
  congr 1
  funext u
  exact Trace.forget_foldl forget_collidePair u _

end S_Collision

/-! ### What a blow does -/

omit [FloorRing F] in
lemma blow_spec (hw : Consistent w) {m : Message} (hm : m.type = .Being_Attacked) :
    ∃ u, dispatch m w = .ok u ∧ Effects (Beaten m) w u ∧
      (Admits w m → u.getComponent C_Health m.receiver = (w.getComponent C_Health m.receiver).map
        fun h => h.setHealth (hitHealth h.health)) ∧
      (Admits w m → ∀ h, w.getComponent C_Health m.receiver = some h →
        u.getComponent (C_Attacker F) m.sender =
          (w.getComponent (C_Attacker F) m.sender).map fun a => a.setAttacked true) ∧
      (¬ Admits w m → u = w) := by
  obtain ⟨hnone, hhealth⟩ | ⟨u, h, a, hu, hhit⟩ := blow_cases hw hm
  · refine ⟨w, hnone, .refl, fun hlet => ?_, fun hlet h hh => ?_, fun _ => rfl⟩
    · rw [hhealth hlet]
      rfl
    · rw [hhealth hlet] at hh
      cases hh
  · refine ⟨u, hu, hhit.effects, fun _ => ?_, fun _ _ _ => ?_, fun hno => absurd hhit.admits hno⟩
    · rw [hhit.health]
      exact hhit.hurt
    · rw [hhit.attacker]
      exact hhit.noted

/-! ### Blows that cost health -/

namespace Blow

/-- The receiver ends with less health than it had. -/
def Costs (b : Blow F) : Prop :=
  ∃ u h h', dispatch b.message b.world = .ok u ∧
    b.world.getComponent C_Health b.message.receiver = some h ∧
    u.getComponent C_Health b.message.receiver = some h' ∧ h'.health < h.health

/-- `S_Combat` lets it through, and there is health to lose. -/
def Lands (b : Blow F) : Prop :=
  Admits b.world b.message ∧
    ∃ h, b.world.getComponent C_Health b.message.receiver = some h ∧ 0 < h.health

/-- The sender is attacking. -/
def Meant (b : Blow F) : Prop :=
  b.world.getComponent C_State b.message.sender = some ⟨.Attacking⟩

end Blow

lemma hitHealth_lt {n : ℤ} : hitHealth n < n ↔ 0 < n := by
  unfold hitHealth
  split <;> omega

/-- A blow as `S_Collision` sends it, in a world as it may find it. -/
def Blow.Fair (b : Blow F) : Prop := Consistent b.world ∧ b.message.type = .Being_Attacked

omit [FloorRing F] in
lemma costs_iff {b : Blow F} (hb : b.Fair) : b.Costs ↔ b.Lands := by
  obtain ⟨u, hu, -, hlet, -, hstay⟩ := blow_spec hb.1 hb.2
  constructor
  · rintro ⟨u', h, h', hu', hh, hh', hlt⟩
    have heq : u = u' := Except.ok.inj (hu.symm.trans hu')
    subst heq
    by_cases ha : Admits b.world b.message
    · rw [hlet ha, hh] at hh'
      cases hh'
      exact ⟨ha, h, hh, hitHealth_lt.mp hlt⟩
    · rw [hstay ha, hh] at hh'
      cases hh'
      exact absurd hlt (lt_irrefl _)
  · rintro ⟨ha, h, hh, hpos⟩
    exact ⟨u, h, _, hu, hh, by rw [hlet ha, hh]; rfl, hitHealth_lt.mpr hpos⟩

/-! ### The record of an update -/

/-- From `w` to `u`, health was lost by recorded blows only. -/
structure Recorded (w u : Ecs F) (log : List (Blow F)) : Prop where
  effects : Effects Played w u
  fair : ∀ b ∈ log, b.Fair
  cost : ∀ e h h', w.getComponent C_Health e = some h → u.getComponent C_Health e = some h' →
    h'.health < h.health → ∃ b ∈ log, b.message.receiver = e ∧ b.Costs

omit [FloorRing F] in
lemma Recorded.of_effects {P : EntityId → Component → Prop} {u : Ecs F} (h : Effects P w u)
    (hplayed : ∀ e c, P e c → Played e c) (hP : ∀ e, ¬ P e .Health) : Recorded w u [] where
  effects := h.mono hplayed
  fair := by simp
  cost e h₀ h' hh hh' hlt := by
    rw [h.framed.get (T := C_Health) (hP e), hh] at hh'
    cases hh'
    exact absurd hlt (lt_irrefl _)

omit [FloorRing F] in
lemma Recorded.blow {u v : Ecs F} {log : List (Blow F)} (h : Recorded w u log) (hw : Consistent w)
    {m : Message} (hm : m.type = .Being_Attacked) (hv : dispatch m u = .ok v) :
    Recorded w v (log ++ [⟨u, m⟩]) where
  effects := h.effects.trans
    (((dispatch_post (h.effects.consistent hw) m).ok hv).mono struck_played)
  fair := by
    intro b hb
    rcases List.mem_append.mp hb with hb | hb
    · exact h.fair b hb
    · rw [List.mem_singleton.mp hb]
      exact ⟨h.effects.consistent hw, hm⟩
  cost e h₀ h' hh hh' hlt := by
    have hstruck := (dispatch_post (h.effects.consistent hw) m).ok hv
    obtain ⟨h₁, hh₁⟩ := h.effects.framed.get_some hh
    by_cases hbefore : h₁.health < h₀.health
    · obtain ⟨b, hb, hr, hc⟩ := h.cost e h₀ h₁ hh hh₁ hbefore
      exact ⟨b, by simp [hb], hr, hc⟩
    · have hnow : h'.health < h₁.health := by omega
      by_cases he : e = m.receiver
      · subst he
        exact ⟨⟨u, m⟩, by simp, rfl, v, h₁, h', hv, hh₁, hh', hnow⟩
      · have hsame : v.getComponent C_Health e = u.getComponent C_Health e := by
          refine hstruck.framed.get (T := C_Health) ?_
          rintro (⟨hc, -⟩ | ⟨-, hc⟩)
          · exact he hc
          · exact absurd hc (show Component.Health ≠ .Attacker by decide)
        rw [hsame, hh₁] at hh'
        cases hh'
        exact absurd hnow (lt_irrefl _)

section Loop

variable {I : Ecs F → List (Blow F) → Prop}

/-- Each blow of an update that starts in `w` keeps `I`. -/
def KeptByBlows (w : Ecs F) (I : Ecs F → List (Blow F) → Prop) : Prop :=
  ∀ u v log m, Effects Played w u → I u log → m.type = .Being_Attacked → dispatch m u = .ok v →
    I v (log ++ [⟨u, m⟩])

omit [FloorRing F] in
lemma strikeTraced_post (hw : Consistent w) (hI : KeptByBlows w I) {u : Ecs F} {log : List (Blow F)}
    (h : Effects Played w u ∧ I u log) (a : EntityId) {v : EntityId}
    (hv : v ∈ w.members .Collision) :
    Post (S_Collision.strikeTraced a v u) (fun p => Effects Played w p.1 ∧ I p.1 (log ++ p.2))
      fun _ => False := by
  obtain ⟨heff, hlog⟩ := h
  have hvu : v ∈ u.members .Collision := by
    rw [heff.framed.members]
    exact hv
  have hu := heff.consistent hw
  obtain ⟨col, hcol⟩ := hu.get (T := C_Collidable F) hvu .Collidable rfl (by decide)
  rw [S_Collision.strikeTraced, hcol, deref_some, ok_bind]
  refine Post.ite (fun _ => ?_) fun _ => ?_
  · rw [Trace.post_record]
    obtain ⟨u', hu', hbeaten, -⟩ := blow_spec hu (m := S_Collision.attack a v) rfl
    rw [hu']
    exact ⟨heff.trans (hbeaten.mono fun x c hc => struck_played x c (beaten_struck x c hc)),
      hI u u' log _ heff hlog rfl hu'⟩
  · exact ⟨heff, by simpa using hlog⟩

omit [FloorRing F] in
lemma entityCollisionsTraced_post (hw : Consistent w) (hI : KeptByBlows w I) {u : Ecs F}
    (h : Effects Played w u ∧ I u []) :
    Post (S_Collision.entityCollisionsTraced u) (fun p => Effects Played w p.1 ∧ I p.1 p.2)
      fun _ => False := by
  have hmem : ∀ {t : Ecs F} {x}, Effects Played w t → x ∈ w.members .Collision →
      x ∈ t.members .Collision := by
    intro t x ht hx
    rw [ht.framed.members]
    exact hx
  refine Trace.post_foldl (I := fun t log => Effects Played w t ∧ I t log) (a := [])
    (fun t log p hp ht => ?_) h
  obtain ⟨h1, h2⟩ := mem_pairs hp
  rw [h.1.framed.members] at h1 h2
  have hct := ht.1.consistent hw
  obtain ⟨col₁, hcol₁⟩ := hct.get (T := C_Collidable F) (hmem ht.1 h1) .Collidable rfl (by decide)
  obtain ⟨col₂, hcol₂⟩ := hct.get (T := C_Collidable F) (hmem ht.1 h2) .Collidable rfl (by decide)
  rw [S_Collision.collidePairTraced, hcol₁, hcol₂]
  simp only [deref_some, ok_bind]
  refine Trace.post_seq (Q := fun s a => Effects Played w s ∧ I s (log ++ a))
    (R := fun s a => Effects Played w s ∧ I s (log ++ a)) (strikeTraced_post hw hI ht p.1 h2)
    fun s a hs => ?_
  refine (strikeTraced_post hw hI hs p.2 h1).imp fun q hq => ?_
  rw [← List.append_assoc]
  exact hq

/-- **The rule of the update**: it goes well, and what holds once the members are placed and is kept
by every blow holds of the end and the record. -/
lemma updateTraced_rule (S : Setting F) (hw : Consistent w) (hI : KeptByBlows w I)
    (hplaced : ∀ u, Effects Placed w u → I u []) :
    Post (S_Collision.updateTraced S w) (fun p => I p.1 p.2) fun _ => False := by
  unfold S_Collision.updateTraced
  have hplace : Post ((w.members .Collision).foldlM (S_Collision.updateOne S) w)
      (Effects Placed w) fun _ => False :=
    loop_post hw fun u e hu he => (collision_updateOne_post S hu he).imp fun v hv =>
      hv.mono fun _ _ h => h.2
  refine hplace.bind fun u hu => ?_
  exact (entityCollisionsTraced_post hw hI ⟨hu.mono placed_played, hplaced u hu⟩).imp
    fun p hp => hp.2

end Loop

lemma updateTraced_post (S : Setting F) (hw : Consistent w) :
    Post (S_Collision.updateTraced S w) (fun p => Recorded w p.1 p.2) fun _ => False := by
  refine updateTraced_rule S hw (fun u v log m _ h hm hv => h.blow hw hm hv) fun u hu => ?_
  refine .of_effects hu placed_played fun e => ?_
  show ¬ (Component.Health = .Position ∨ Component.Health = .Collidable)
  decide

/-! ### The blows of a run -/

/-- The blows of a step, each with the world it falls in. -/
def blows (S : Setting F) (w : Ecs F) : Turn F → List (Blow F)
  | .message m => if m.type = .Being_Attacked then [⟨w, m⟩] else []
  | .update .Collision _ =>
    match S_Collision.updateTraced S w with
    | .ok (_, log) => log
    | .error _ => []
  | _ => []

def blowsOf (S : Setting F) (w : Ecs F) : List (Turn F) → List (Blow F)
  | [] => []
  | i :: is => blows S w i ++
    match turn S w i with
    | .ok u => blowsOf S u is
    | .error _ => []

lemma blows_fair (S : Setting F) (hw : Consistent w) (i : Turn F) :
    ∀ b ∈ blows S w i, b.Fair := by
  intro b hb
  unfold blows at hb
  split at hb
  · next m =>
    split at hb
    · next hm =>
      rw [List.mem_singleton.mp hb]
      exact ⟨hw, hm⟩
    · simp at hb
  · split at hb
    · next u log hu => exact ((updateTraced_post S hw).ok hu).fair b hb
    · simp at hb
  · simp at hb

lemma blowsOf_fair (S : Setting F) (hw : Consistent w) (is : List (Turn F)) :
    ∀ b ∈ blowsOf S w is, b.Fair := by
  induction is generalizing w with
  | nil => simp [blowsOf]
  | cons i is ih =>
    intro b hb
    rw [blowsOf, List.mem_append] at hb
    rcases hb with hb | hb
    · exact blows_fair S hw i b hb
    · split at hb
      · next u hu => exact ih (consistent_turn S hw hu) b hb
      · simp at hb

lemma lost_by_blows (S : Setting F) (hc : Consistent w) {u : Ecs F} {sys : System}
    (hsys : sys = .Collision ∨ sys = .Combat) (dT : F) (hu : update S dT sys w = .ok u)
    {h h' : C_Health} (hh : w.getComponent C_Health e = some h)
    (hh' : u.getComponent C_Health e = some h') (hlt : h'.health < h.health) :
    ∃ b ∈ blows S w (.update sys dT), b.message.receiver = e ∧ b.Costs := by
  rcases hsys with rfl | rfl
  · obtain ⟨⟨u', log⟩, hrun, hrec⟩ := (updateTraced_post S hc).exists_ok
    have heq : u' = u := by
      have hforget := S_Collision.forget_update S w
      rw [hrun, Trace.forget_ok] at hforget
      exact Except.ok.inj (hforget.trans hu)
    subst heq
    rw [blows, hrun]
    exact hrec.cost e h h' hh hh' hlt
  · have heff := (combat_update_post hc).ok hu
    rw [heff.framed.get (T := C_Health) (show Component.Health ≠ .Attacker by decide), hh] at hh'
    cases hh'
    exact absurd hlt (lt_irrefl _)

/-- **No health is lost behind the record.** Whoever has less health after an update of the
collisions, or of the combat, was the receiver of one of its blows. -/
theorem health_lost_by_blows (S : Setting F) (turns : List (Turn F)) {u : Ecs F}
    (hw : runE (turn S) (new F) turns = .ok w) {sys : System}
    (hsys : sys = .Collision ∨ sys = .Combat) (dT : F) (hu : update S dT sys w = .ok u)
    {h h' : C_Health} (hh : w.getComponent C_Health e = some h)
    (hh' : u.getComponent C_Health e = some h') (hlt : h'.health < h.health) :
    ∃ b ∈ blows S w (.update sys dT), b.message.receiver = e ∧ b.Costs :=
  lost_by_blows S (consistent_reached hw) hsys dT hu hh hh' hlt

/-- Two entities that do nothing, one within the area of attack of the other. -/
def bystanders : List (Turn ℚ) :=
  let bits := (((((Bitmask.empty.turnOnBit Component.Position.id).turnOnBit
    Component.Movable.id).turnOnBit Component.State.id).turnOnBit Component.Health.id).turnOnBit
    Component.Collidable.id).turnOnBit Component.Attacker.id
  [.store (.addEntity ⟨.Idle, 5, 5, false⟩ bits (-1)),
    .store (.addEntity ⟨.Idle, 5, 5, false⟩ bits (-1)),
    .write 0 (.attacker ⟨0, ⟨0, 0, 8, 8⟩, 0, false, 0, 0⟩),
    .write 1 (.collidable ⟨⟨0, 0, 8, 8⟩, 0, .Mid_Bottom, false, false⟩),
    .update .Collision 16]

/-- The one nearby loses health. -/
theorem bystander_struck :
    ¬ ∀ b ∈ blowsOf (Setting.empty ℚ) (new ℚ) bystanders, b.Costs → b.Meant := by
  have hsome : blowsOf (Setting.empty ℚ) (new ℚ) bystanders ≠ [] := by decide +kernel
  have hseen : ∀ b ∈ blowsOf (Setting.empty ℚ) (new ℚ) bystanders,
      b.world.hasEntity .Combat b.message.receiver ∧ b.world.hasEntity .Combat b.message.sender ∧
      (b.world.getComponent (C_Attacker ℚ) b.message.sender).map (fun a => a.attacked) =
        some false ∧
      (b.world.getComponent C_Health b.message.receiver).map (fun h => h.health) = some 5 ∧
      (b.world.getComponent C_State b.message.sender).map (fun s => s.state) = some .Idle := by
    decide +kernel
  obtain ⟨b, hb⟩ := List.exists_mem_of_ne_nil _ hsome
  obtain ⟨hreceiver, hsender, hattacker, hhealth, hstate⟩ := hseen b hb
  obtain ⟨a, ha, hclear⟩ := Option.map_eq_some_iff.mp hattacker
  obtain ⟨h, hh, hfive⟩ := Option.map_eq_some_iff.mp hhealth
  intro hall
  have hmeant : b.Meant := by
    refine hall b hb ((costs_iff (blowsOf_fair _ consistent_new _ b hb)).mpr ?_)
    exact ⟨⟨hreceiver, hsender, a, ha, hclear⟩, h, hh, by rw [hfive]; decide⟩
  rw [Blow.Meant] at hmeant
  rw [hmeant] at hstate
  exact absurd hstate (by decide)

end Sfrpg
