import Sfrpg.Life
import Sfrpg.Lib.Post
import Sfrpg.Effects

/-!
The handlers of the seven systems in a consistent world: what they write, and that the pointers
they use without a check are there.

The only variable a handler can read unset is the event of a move in no direction. A dispatch nests
two others at the most: a hit, the news of it, and the news of the state it leads to.
-/

namespace Sfrpg

open Lib Lib.Word Life Ecs

variable {F : Type} [Field F] [LinearOrder F] {w : Ecs F} {e : EntityId}

/-! ### The bus -/

@[simp] lemma deref_some {α : Type} (a : α) : deref (some a) = .ok a := rfl
@[simp] lemma ok_bind {α β : Type} (a : α) (f : α → Outcome β) : (Except.ok a >>= f) = f a := rfl

lemma ite_bind {α β : Type} {p : Prop} [Decidable p] (x y : Outcome α) (f : α → Outcome β) :
    (if p then x >>= f else y >>= f) = (if p then x else y) >>= f := by
  split <;> rfl

lemma dispatchN_single {n : ℕ} {m : Message} {sys : System} (h : observers m.type = [sys]) :
    dispatchN (n + 1) m w = notify (dispatchN n) m w sys := by
  rw [dispatchN, h, List.foldlM_cons]
  simp only [List.foldlM_nil, bind_pure]

lemma dispatchN_pair {n : ℕ} {m : Message} {sys sys' : System}
    (h : observers m.type = [sys, sys']) :
    dispatchN (n + 1) m w = notify (dispatchN n) m w sys >>= fun w =>
      notify (dispatchN n) m w sys' := by
  rw [dispatchN, h, List.foldlM_cons]
  simp only [List.foldlM_cons, List.foldlM_nil, bind_pure]

/-- The component of one type of one entity. -/
def At (e : EntityId) (c : Component) (e' : EntityId) (c' : Component) : Prop := e' = e ∧ c' = c

lemma dispatch_switch (n : ℕ) {st : EntityState}
    (hs : w.getComponent C_State e = some ⟨st⟩) :
    dispatchN (n + 1) { Message.to .Switch_State e with int := st.val } w = .ok w := by
  have h1 : EntityMessage.Switch_State ≠ .Move := by decide
  have h2 : EntityMessage.Switch_State ≠ .Attack := by decide
  have h3 : EntityMessage.Switch_State ≠ .Hurt := by decide
  have hobs : observers .Switch_State = [.State] := by decide
  rw [dispatchN_single (m := { Message.to .Switch_State e with int := st.val }) hobs]
  simp [notify, S_State.notify, S_State.changeState, Message.to, hs, h1, h2, h3, pure, Except.pure]

/-! ### Changes of state -/

/-- The state is written unless it is there already, or the entity is dying and not forced; and
whoever is told of it does nothing. -/
lemma changeState_eq (n : ℕ) (st : EntityState) (force : Bool) {s : C_State}
    (hs : w.getComponent C_State e = some s) :
    S_State.changeState (dispatchN (n + 1)) e st force w =
      .ok (if st = s.state ∨ (force = false ∧ s.state = .Dying) then w
        else w.setComponent e (s.setState st)) := by
  unfold S_State.changeState
  rw [hs, deref_some, ok_bind]
  by_cases heq : st = s.state
  · rw [if_pos heq, if_pos (.inl heq)]
    rfl
  · rw [if_neg heq]
    by_cases hblock : force = false ∧ s.state = .Dying
    · rw [if_pos hblock, if_pos (.inr hblock)]
      rfl
    · rw [if_neg hblock, if_neg (by tauto)]
      refine dispatch_switch n ?_
      rw [getComponent_setComponent, hs]
      rfl

lemma changeState_post (n : ℕ) (st : EntityState) (force : Bool) {s : C_State}
    (hs : w.getComponent C_State e = some s) :
    Post (S_State.changeState (dispatchN (n + 1)) e st force w)
      (fun u => Writes (At e .State) w u ∧ u.getComponent C_State e =
        some ⟨if force = false ∧ s.state = .Dying then s.state else st⟩) fun _ => False := by
  rw [changeState_eq n st force hs, Post.post_ok]
  by_cases hblock : force = false ∧ s.state = .Dying
  · rw [if_pos (.inr hblock), if_pos hblock]
    exact ⟨.refl, hs⟩
  · rw [if_neg hblock]
    by_cases heq : st = s.state
    · rw [if_pos (.inl heq), heq]
      exact ⟨.refl, hs⟩
    · rw [if_neg (not_or.mpr ⟨heq, hblock⟩)]
      refine ⟨writes_set e _ w ⟨rfl, rfl⟩, ?_⟩
      rw [getComponent_setComponent, hs]
      rfl

/-! ### Messages -/

/-- The payload of a move is a direction. -/
def Directed (m : Message) : Prop :=
  m.type = .Move → m.int = Direction.Left.val ∨ m.int = Direction.Right.val ∨
    m.int = Direction.Up.val ∨ m.int = Direction.Down.val

lemma movingEvent_post {m : Message} (hm : m.type = .Move) :
    Post (S_State.movingEvent m.int) (fun _ => True)
      fun f => f = .uninitialised ∧ ¬ Directed m := by
  unfold S_State.movingEvent
  refine Post.ite (fun _ => trivial) fun h1 => Post.ite (fun _ => trivial) fun h2 => ?_
  refine Post.ite (fun _ => trivial) fun h3 => Post.ite (fun _ => trivial) fun h4 => ⟨rfl, ?_⟩
  intro hdir
  rcases hdir hm with h | h | h | h
  · exact h1 h
  · exact h2 h
  · exact h3 h
  · exact h4 h

/-- The state a message asks of its receiver. -/
def asked (m : Message) : Option EntityState :=
  if m.type = .Move then some .Walking
  else if m.type = .Attack then some .Attacking
  else if m.type = .Hurt then some .Hurt
  else if m.type = .Switch_State then some ⟨m.int⟩
  else none

lemma asked_attacked {m : Message} (h : m.type = .Being_Attacked) : asked m = none := by
  rw [asked, h, if_neg (by decide), if_neg (by decide), if_neg (by decide), if_neg (by decide)]

/-- What `S_State` makes of the state of the receiver. -/
def Obeys (m : Message) (s s' : C_State) : Prop :=
  s' = s ∨ (asked m = some s'.state ∧ s.state ≠ .Dying ∧
    (m.type = .Move → s.state ≠ .Attacking))

lemma Obeys.trans {m : Message} {s s' s'' : C_State} (h : Obeys m s s') (h' : Obeys m s' s'') :
    Obeys m s s'' := by
  rcases h with rfl | ⟨hasked, hs⟩
  · exact h'
  · rcases h' with rfl | ⟨hasked', -⟩
    · exact .inr ⟨hasked, hs⟩
    · exact .inr ⟨hasked', hs⟩

/-- The receiver of a message obeys it, if it has a state. -/
def Heard (m : Message) (w u : Ecs F) : Prop :=
  ∀ s, w.getComponent C_State m.receiver = some s →
    ∃ s', u.getComponent C_State m.receiver = some s' ∧ Obeys m s s'

omit [Field F] [LinearOrder F] in
lemma Heard.refl (m : Message) (w : Ecs F) : Heard m w w := fun s hs => ⟨s, hs, .inl rfl⟩

omit [Field F] [LinearOrder F] in
lemma Heard.trans {m : Message} {u v : Ecs F} (h : Heard m w u) (h' : Heard m u v) :
    Heard m w v := by
  intro s hs
  obtain ⟨s₁, hs₁, hobeys⟩ := h s hs
  obtain ⟨s₂, hs₂, hobeys'⟩ := h' s₁ hs₁
  exact ⟨s₂, hs₂, hobeys.trans hobeys'⟩

omit [Field F] [LinearOrder F] in
lemma heard_of_framed {m : Message} {u : Ecs F} {P : EntityId → Component → Prop}
    (h : Framed P w u) (hP : ¬ P m.receiver .State) : Heard m w u := fun s hs =>
  ⟨s, by rw [h.get (T := C_State) hP, hs], .inl rfl⟩

/-- What a message may have written: of its receiver, and the attack of its sender. -/
def Struck (m : Message) (e : EntityId) (c : Component) : Prop :=
  (e = m.receiver ∧ (c = .State ∨ c = .Health ∨ c = .Movable ∨ c = .Position)) ∨
    (e = m.sender ∧ c = .Attacker)

lemma struck_state {m : Message} : ∀ e c, At m.receiver .State e c → Struck m e c := by
  rintro e c ⟨rfl, rfl⟩
  exact .inl ⟨rfl, .inl rfl⟩

lemma state_notify_post (n : ℕ) (hw : Consistent w) (m : Message) :
    Post (S_State.notify (dispatchN (n + 1)) m w)
      (fun u => Effects (At m.receiver .State) w u ∧ Heard m w u)
      fun f => f = .uninitialised ∧ ¬ Directed m := by
  unfold S_State.notify
  refine Post.ite (fun _ => ⟨.refl, .refl m w⟩) fun hmem => ?_
  obtain ⟨s, hs⟩ := hw.get (T := C_State) (not_not.mp hmem) .State rfl (by decide)
  have hstay : Post (.ok w : Outcome (Ecs F))
      (fun u => Effects (At m.receiver .State) w u ∧ Heard m w u)
      fun f => f = .uninitialised ∧ ¬ Directed m := ⟨.refl, .refl m w⟩
  have hgo : ∀ (u : Ecs F) (st : EntityState), Effects (At m.receiver .State) w u →
      u.getComponent C_State m.receiver = some s → asked m = some st →
      (m.type = .Move → s.state ≠ .Attacking) →
      Post (S_State.changeState (dispatchN (n + 1)) m.receiver st false u)
        (fun v => Effects (At m.receiver .State) w v ∧ Heard m w v)
        fun f => f = .uninitialised ∧ ¬ Directed m := by
    intro u st hu hsu hasked hfree
    refine (changeState_post n st false hsu).mono ?_ fun _ h => h.elim
    rintro v ⟨hv, hsv⟩
    refine ⟨hu.trans hv.effects, fun s₀ hs₀ => ⟨_, hsv, ?_⟩⟩
    obtain rfl := Option.some.inj (hs.symm.trans hs₀)
    by_cases hd : s.state = .Dying
    · rw [if_pos ⟨rfl, hd⟩]
      exact .inl rfl
    · rw [if_neg fun h => hd h.2]
      exact .inr ⟨hasked, hd, hfree⟩
  have hevent : ∀ event, Effects (At m.receiver .State) w (w.addEvent m.receiver event) :=
    fun event => .single (.event m.receiver event)
  rw [hs, deref_some]
  simp only [ok_bind]
  refine Post.ite (fun hmove => Post.ite (fun _ => hstay) fun hbusy => ?_) fun hmove => ?_
  · refine (movingEvent_post hmove).bind fun event _ => ?_
    exact hgo _ _ (hevent _) hs (by rw [asked, if_pos hmove]) fun _ hatt => hbusy (.inl hatt)
  have hfree : m.type = .Move → s.state ≠ .Attacking := fun h => absurd h hmove
  refine Post.ite (fun hattack => Post.ite (fun _ => ?_) fun _ => hstay) fun hattack => ?_
  · exact hgo _ _ (hevent _) hs (by rw [asked, if_neg hmove, if_pos hattack]) hfree
  refine Post.ite (fun hhurt => Post.ite (fun _ => ?_) fun _ => hstay) fun hhurt => ?_
  · exact hgo _ _ .refl hs (by rw [asked, if_neg hmove, if_neg hattack, if_pos hhurt]) hfree
  refine Post.ite (fun hswitch => ?_) fun _ => hstay
  exact hgo _ _ .refl hs (by rw [asked, if_neg hmove, if_neg hattack, if_neg hhurt, if_pos hswitch])
    hfree

lemma movement_notify_post (hw : Consistent w) (m : Message) :
    Post (S_Movement.notify m w) (Effects (fun _ _ => False) w) fun _ => False := by
  unfold S_Movement.notify
  refine Post.ite (fun _ => .refl) fun hmem => Post.ite (fun _ => ?_) fun _ => .refl
  obtain ⟨mov, hmov⟩ := hw.get (T := C_Movable F) (not_not.mp hmem) .Movable rfl (by decide)
  rw [hmov, deref_some]
  simp only [ok_bind]
  exact Post.ite (fun _ => .refl) fun _ => .single (.event m.receiver _)

omit [LinearOrder F] in
lemma network_notify_post (m : Message) (w : Ecs F) :
    Post (S_Network.notify m w) (Effects (At m.receiver .Position) w) fun _ => False := by
  unfold S_Network.notify
  refine Post.ite (fun _ => .refl) fun _ => ?_
  refine Post.ite (fun _ => .single (.forget m.receiver)) fun _ => ?_
  refine Post.ite (fun _ => .single (.broadcast (S_Network.hurtPacket m.receiver))) fun _ => ?_
  refine Post.ite (fun _ => ?_) fun _ => .refl
  cases w.getComponent (C_Position F) m.receiver with
  | none => exact .refl
  | some pos => exact (writes_set m.receiver _ w ⟨rfl, rfl⟩).effects

lemma state_notify_hurt (n : ℕ) (hw : Consistent w) {s : C_State}
    (hs : w.getComponent C_State e = some s) :
    Post (S_State.notify (dispatchN (n + 1)) (.to .Hurt e) w)
      (fun u => Effects (At e .State) w u ∧ u.getComponent C_State e =
        some ⟨if s.state = .Dying then s.state else .Hurt⟩) fun _ => False := by
  have h1 : (Message.to .Hurt e).type ≠ .Move := show EntityMessage.Hurt ≠ .Move by decide
  have h2 : (Message.to .Hurt e).type ≠ .Attack := show EntityMessage.Hurt ≠ .Attack by decide
  have hmem : ¬ ¬ w.hasEntity .State (Message.to .Hurt e).receiver := not_not.mpr (hw.mem_state hs)
  rw [S_State.notify, if_neg hmem, if_neg h1, if_neg h2]
  simp only [Message.to, if_true, hs, deref_some, ok_bind]
  by_cases hd : s.state = .Dying
  · rw [if_neg (not_not.mpr hd), if_pos hd]
    exact ⟨.refl, hs⟩
  · rw [if_pos hd, if_neg hd]
    refine (changeState_post n .Hurt false hs).imp ?_
    rintro u ⟨hu, hs'⟩
    rw [if_neg fun h => hd h.2] at hs'
    exact ⟨hu.effects, hs'⟩

lemma dispatch_hurt_post (n : ℕ) (hw : Consistent w) {s : C_State}
    (hs : w.getComponent C_State e = some s) :
    Post (dispatchN (n + 2) (.to .Hurt e) w)
      (fun u => Effects (At e .State) w u ∧ u.getComponent C_State e =
        some ⟨if s.state = .Dying then s.state else .Hurt⟩) fun _ => False := by
  have hobs : observers .Hurt = [.Network, .State] := by decide
  have hne : EntityMessage.Hurt ≠ .Removed_Entity := by decide
  have hnet : Post (S_Network.notify (.to .Hurt e) w) (Effects (fun _ _ => False) w)
      fun _ => False := by
    unfold S_Network.notify
    refine Post.ite (fun _ => .refl) fun _ => Post.ite (fun h => absurd h hne) fun _ => ?_
    refine Post.ite (fun _ => .single (.broadcast (S_Network.hurtPacket e))) fun h => ?_
    exact absurd rfl h
  rw [dispatchN_pair (m := .to .Hurt e) hobs]
  refine Post.bind hnet fun u hu => ?_
  have hsu := (hu.framed.get (T := C_State) fun h => h).trans hs
  exact (state_notify_hurt n (hu.consistent hw) hsu).imp fun v hv =>
    ⟨(hu.mono fun _ _ h => h.elim).trans hv.1, hv.2⟩

/-! ### Hits -/

/-- `S_Combat` lets the blow through: both entities are listed, and the attack has not struck. -/
def Admits (w : Ecs F) (m : Message) : Prop :=
  w.hasEntity .Combat m.receiver ∧ w.hasEntity .Combat m.sender ∧
    ∃ a, w.getComponent (C_Attacker F) m.sender = some a ∧ a.attacked = false

/-- A hit, written down on both sides. -/
def hitNoted (m : Message) (h : C_Health) (a : C_Attacker F) (w : Ecs F) : Ecs F :=
  (w.setComponent m.receiver (h.setHealth (hitHealth h.health))).setComponent m.sender
    (a.setAttacked true)

/-- The news of a hit: the receiver dies, or hears that it is hurt. -/
def hitNews (dispatch : Dispatch F) (e : EntityId) (health : ℤ) (w : Ecs F) : Outcome (Ecs F) :=
  if health = 0 then S_State.changeState dispatch e .Dying true w else dispatch (.to .Hurt e) w

/-- The push at the end of a hit. -/
def knockBack (m : Message) (a : C_Attacker F) (w : Ecs F) : Outcome (Ecs F) :=
  match w.getComponent (C_Movable F) m.sender with
  | none => pure w
  | some mov => do
    let target ← deref (w.getComponent (C_Movable F) m.receiver)
    pure (w.setComponent m.receiver
      (target.setVelocity (S_Combat.knockbackVelocity mov.direction a.knockback)))

omit [LinearOrder F] in
lemma combat_notify_cases (dispatch : Dispatch F) (m : Message) (w : Ecs F) :
    (S_Combat.notify dispatch m w = .ok w ∧
      (m.type = .Being_Attacked → Admits w m → w.getComponent C_Health m.receiver = none)) ∨
    ∃ h a, Admits w m ∧ w.getComponent C_Health m.receiver = some h ∧
      w.getComponent (C_Attacker F) m.sender = some a ∧
      S_Combat.notify dispatch m w =
        hitNews dispatch m.receiver (hitHealth h.health) (hitNoted m h a w) >>= knockBack m a := by
  by_cases hmem : ¬ w.hasEntity .Combat m.receiver ∨ ¬ w.hasEntity .Combat m.sender
  · refine .inl ⟨by rw [S_Combat.notify, if_pos hmem]; rfl, fun _ hlet => ?_⟩
    exact absurd hmem (by rw [not_or, not_not, not_not]; exact ⟨hlet.1, hlet.2.1⟩)
  by_cases htype : m.type = .Being_Attacked
  swap
  · exact .inl ⟨by rw [S_Combat.notify, if_neg hmem, if_neg htype]; rfl, fun h => absurd h htype⟩
  rw [S_Combat.notify, if_neg hmem, if_pos htype]
  rw [not_or, not_not, not_not] at hmem
  cases hh : w.getComponent C_Health m.receiver with
  | none => exact .inl ⟨rfl, fun _ _ => rfl⟩
  | some h =>
    cases ha : w.getComponent (C_Attacker F) m.sender with
    | none =>
      refine .inl ⟨rfl, ?_⟩
      rintro - ⟨-, -, a, ha', -⟩
      rw [ha] at ha'
      cases ha'
    | some a =>
      by_cases hattacked : a.attacked = true
      · refine .inl ⟨by simp only [if_pos hattacked]; rfl, ?_⟩
        rintro - ⟨-, -, a', ha', hno⟩
        rw [ha] at ha'
        cases ha'
        rw [hattacked] at hno
        cases hno
      · refine .inr ⟨h, a, ⟨hmem.1, hmem.2, a, ha, by simpa using hattacked⟩, rfl, rfl, ?_⟩
        simp only [if_neg hattacked]
        exact ite_bind _ _ _

/-- What becomes of the state of somebody hit who is left with `health`. -/
def Wounded (health : ℤ) (s s' : C_State) : Prop :=
  s' = ⟨if health = 0 then .Dying else if s.state = .Dying then s.state else .Hurt⟩

lemma Wounded.cases {health : ℤ} {s s' : C_State} (h : Wounded health s s') :
    s' = s ∨ (s.state ≠ .Dying ∧ s' = ⟨if health = 0 then .Dying else .Hurt⟩) := by
  rw [Wounded] at h
  by_cases hd : s.state = .Dying
  · left
    rw [h]
    refine C_State.ext ?_
    show (if health = 0 then EntityState.Dying else _) = s.state
    rw [if_pos hd, hd, ite_self]
  · right
    rw [if_neg hd] at h
    exact ⟨hd, h⟩

lemma Wounded.not_attacking {health : ℤ} {s s' : C_State} (h : Wounded health s s') :
    s'.state ≠ .Attacking := by
  rw [h]
  show (if health = 0 then EntityState.Dying else _) ≠ .Attacking
  split
  · decide
  · split
    · next hd =>
      rw [hd]
      decide
    · decide

lemma hitNews_post (n : ℕ) (hw : Consistent w) (health : ℤ) {s : C_State}
    (hs : w.getComponent C_State e = some s) :
    Post (hitNews (dispatchN (n + 2)) e health w) (fun u => Effects (At e .State) w u ∧
      ∃ s', u.getComponent C_State e = some s' ∧ Wounded health s s') fun _ => False := by
  rw [hitNews]
  refine Post.ite (fun hzero => ?_) fun hzero => ?_
  · refine (changeState_post (n + 1) .Dying true hs).imp ?_
    rintro u ⟨hu, hs'⟩
    refine ⟨hu.effects, _, hs', ?_⟩
    rw [Wounded, if_pos hzero, if_neg (by simp)]
  · refine (dispatch_hurt_post n hw hs).imp ?_
    rintro u ⟨hu, hs'⟩
    refine ⟨hu, _, hs', ?_⟩
    rw [Wounded, if_neg hzero]

/-- What a hit may have written: it leaves everybody where they are. -/
def Beaten (m : Message) (e : EntityId) (c : Component) : Prop :=
  (e = m.receiver ∧ (c = .State ∨ c = .Health ∨ c = .Movable)) ∨ (e = m.sender ∧ c = .Attacker)

lemma beaten_struck {m : Message} : ∀ e c, Beaten m e c → Struck m e c := by
  rintro e c (⟨h, hc⟩ | h)
  · exact .inl ⟨h, by tauto⟩
  · exact .inr h

omit [Field F] [LinearOrder F] in
lemma hitNoted_writes (m : Message) (h : C_Health) (a : C_Attacker F) (w : Ecs F) :
    Writes (Beaten m) w (hitNoted m h a w) :=
  (writes_set m.receiver _ w (.inl ⟨rfl, .inr (.inl rfl)⟩)).trans
    (writes_set m.sender _ _ (.inr ⟨rfl, rfl⟩))

omit [Field F] [LinearOrder F] in
lemma hitNoted_state (m : Message) (h : C_Health) (a : C_Attacker F) (w : Ecs F) (e : EntityId) :
    (hitNoted m h a w).getComponent C_State e = w.getComponent C_State e := by
  rw [hitNoted, getComponent_setComponent_tag (show Component.State ≠ .Attacker by decide),
    getComponent_setComponent_tag (show Component.State ≠ .Health by decide)]

omit [Field F] [LinearOrder F] in
lemma hitNoted_health (m : Message) {h : C_Health} (a : C_Attacker F)
    (hh : w.getComponent C_Health m.receiver = some h) :
    (hitNoted m h a w).getComponent C_Health m.receiver =
      some (h.setHealth (hitHealth h.health)) := by
  rw [hitNoted, getComponent_setComponent_tag (show Component.Health ≠ .Attacker by decide),
    getComponent_setComponent, hh]
  rfl

omit [Field F] [LinearOrder F] in
lemma hitNoted_attacker (m : Message) (h : C_Health) {a : C_Attacker F}
    (ha : w.getComponent (C_Attacker F) m.sender = some a) :
    (hitNoted m h a w).getComponent (C_Attacker F) m.sender = some (a.setAttacked true) := by
  rw [hitNoted, getComponent_setComponent,
    getComponent_setComponent_tag (show Component.Attacker ≠ .Health by decide), ha]
  rfl

omit [LinearOrder F] in
lemma knockBack_spec (hw : Consistent w) {m : Message} (hr : w.hasEntity .Combat m.receiver)
    (a : C_Attacker F) :
    ∃ u, knockBack m a w = .ok u ∧ Effects (At m.receiver .Movable) w u := by
  rw [knockBack]
  cases w.getComponent (C_Movable F) m.sender with
  | none => exact ⟨w, rfl, .refl⟩
  | some mov =>
    obtain ⟨target, htarget⟩ := hw.get (T := C_Movable F) hr .Movable rfl (by decide)
    refine ⟨_, by rw [htarget]; rfl, (writes_set m.receiver _ w ⟨rfl, rfl⟩).effects⟩

lemma hit_spec (n : ℕ) (hw : Consistent w) {m : Message} (hr : w.hasEntity .Combat m.receiver)
    {h : C_Health} (hh : w.getComponent C_Health m.receiver = some h) {a : C_Attacker F}
    (ha : w.getComponent (C_Attacker F) m.sender = some a) :
    ∃ u, hitNews (dispatchN (n + 2)) m.receiver (hitHealth h.health) (hitNoted m h a w) >>=
        knockBack m a = .ok u ∧ Effects (Beaten m) w u ∧
      u.getComponent C_Health m.receiver = some (h.setHealth (hitHealth h.health)) ∧
      u.getComponent (C_Attacker F) m.sender = some (a.setAttacked true) ∧
      ∃ s s', w.getComponent C_State m.receiver = some s ∧
        u.getComponent C_State m.receiver = some s' ∧ Wounded (hitHealth h.health) s s' := by
  have hnoted := (hitNoted_writes m h a w).effects
  have hc₁ := hnoted.consistent hw
  obtain ⟨s, hs⟩ := hw.get (T := C_State) hr .State rfl (by decide)
  have hs₁ := (hitNoted_state m h a w m.receiver).trans hs
  obtain ⟨v, hv, hnews, s', hs', hwounded⟩ :=
    (hitNews_post n hc₁ (hitHealth h.health) hs₁).exists_ok
  have hrv : v.hasEntity .Combat m.receiver := by
    rw [hasEntity, hnews.framed.members, hnoted.framed.members]
    exact hr
  obtain ⟨u, hu, hpush⟩ := knockBack_spec (hnews.consistent hc₁) hrv a
  -- neither the news nor the push writes what the hit has noted
  have hkept : ∀ {T : Type} [CompType F T] (e : EntityId), CompType.tag F T ≠ .State →
      CompType.tag F T ≠ .Movable →
      u.getComponent T e = (hitNoted m h a w).getComponent T e := by
    intro T _ e hstate hmovable
    rw [hpush.framed.get fun hc => hmovable hc.2, hnews.framed.get fun hc => hstate hc.2]
  refine ⟨u, by rw [hv, ok_bind, hu], hnoted.trans ((hnews.mono ?_).trans (hpush.mono ?_)), ?_, ?_,
    s, s', hs, ?_, hwounded⟩
  · rintro x c ⟨rfl, rfl⟩
    exact .inl ⟨rfl, .inl rfl⟩
  · rintro x c ⟨rfl, rfl⟩
    exact .inl ⟨rfl, .inr (.inr rfl)⟩
  · exact (hkept (T := C_Health) m.receiver (show Component.Health ≠ .State by decide)
      (show Component.Health ≠ .Movable by decide)).trans (hitNoted_health m a hh)
  · exact (hkept (T := C_Attacker F) m.sender (show Component.Attacker ≠ .State by decide)
      (show Component.Attacker ≠ .Movable by decide)).trans (hitNoted_attacker m h ha)
  · rw [hpush.framed.get fun hc => absurd hc.2 (show Component.State ≠ .Movable by decide)]
    exact hs'

lemma combat_notify_post (n : ℕ) (hw : Consistent w) (m : Message) :
    Post (S_Combat.notify (dispatchN (n + 2)) m w) (Effects (Beaten m) w) fun _ => False := by
  obtain ⟨hnone, -⟩ | ⟨h, a, hlet, hh, ha, hhit⟩ := combat_notify_cases (dispatchN (n + 2)) m w
  · rw [hnone]
    exact .refl
  · obtain ⟨u, hu, heff, -⟩ := hit_spec n hw hlet.1 hh ha
    rw [hhit, hu]
    exact heff

/-- **A message in a consistent world**: no pointer it is handled through is null, however deep its
dispatches may nest. -/
lemma dispatchN_post (n : ℕ) (hw : Consistent w) (m : Message) :
    Post (dispatchN (n + 3) m w) (Effects (Struck m) w) (· = .uninitialised) := by
  rw [dispatchN]
  refine Post.foldlM (fun u sys _ hu => ?_) .refl
  have hcu := hu.consistent hw
  cases sys with
  | Network =>
    refine (network_notify_post m u).mono (fun v hv => hu.trans (hv.mono ?_)) fun _ h => h.elim
    rintro x c ⟨rfl, rfl⟩
    exact .inl ⟨rfl, .inr (.inr (.inr rfl))⟩
  | Movement =>
    exact (movement_notify_post hcu m).mono
      (fun v hv => hu.trans (hv.mono fun _ _ h => h.elim)) fun _ h => h.elim
  | State =>
    exact (state_notify_post (n + 1) hcu m).mono
      (fun v hv => hu.trans (hv.1.mono struck_state)) fun _ h => h.1
  | Combat =>
    exact (combat_notify_post n hcu m).mono (fun v hv => hu.trans (hv.mono beaten_struck))
      fun _ h => h.elim
  | Control => exact hu
  | Collision => exact hu
  | Timers => exact hu

lemma dispatch_post (hw : Consistent w) (m : Message) :
    Post (dispatch m w) (Effects (Struck m) w) (· = .uninitialised) := dispatchN_post 1 hw m

lemma dispatch_blow {m : Message} (hm : m.type = .Being_Attacked) (w : Ecs F) :
    dispatch m w = S_Combat.notify (dispatchN 3) m w := by
  have hobs : observers m.type = [.Combat] := by rw [hm]; decide
  exact dispatchN_single hobs

lemma dispatch_attack_post (hw : Consistent w) {m : Message} (hm : m.type = .Being_Attacked) :
    Post (dispatch m w) (Effects (Beaten m) w) fun _ => False := by
  rw [dispatch_blow hm]
  exact combat_notify_post 1 hw m

/-- A blow that finds health `h` and an attack `a` is a hit. -/
structure Wounds (m : Message) (h : C_Health) (a : C_Attacker F) (w u : Ecs F) : Prop where
  effects : Effects (Beaten m) w u
  admits : Admits w m
  health : w.getComponent C_Health m.receiver = some h
  attacker : w.getComponent (C_Attacker F) m.sender = some a
  hurt : u.getComponent C_Health m.receiver = some (h.setHealth (hitHealth h.health))
  noted : u.getComponent (C_Attacker F) m.sender = some (a.setAttacked true)
  state : ∃ s s', w.getComponent C_State m.receiver = some s ∧
    u.getComponent C_State m.receiver = some s' ∧ Wounded (hitHealth h.health) s s'

/-- **What becomes of a blow**: nothing, or a hit. -/
lemma blow_cases (hw : Consistent w) {m : Message} (hm : m.type = .Being_Attacked) :
    (dispatch m w = .ok w ∧ (Admits w m → w.getComponent C_Health m.receiver = none)) ∨
    ∃ u h a, dispatch m w = .ok u ∧ Wounds m h a w u := by
  rw [dispatch_blow hm]
  obtain ⟨hnone, hhealth⟩ | ⟨h, a, hlet, hh, ha, hhit⟩ := combat_notify_cases (dispatchN 3) m w
  · exact .inl ⟨hnone, hhealth hm⟩
  · obtain ⟨u, hu, heff, hhurt, hnoted, hstate⟩ := hit_spec 1 hw hlet.1 hh ha
    exact .inr ⟨u, h, a, hhit.trans hu, heff, hlet, hh, ha, hhurt, hnoted, hstate⟩

/-- What a message other than a blow may have written: state and place of its receiver. -/
def Led (m : Message) (e : EntityId) (c : Component) : Prop :=
  e = m.receiver ∧ (c = .State ∨ c = .Position)

lemma dispatch_peaceful_post (hw : Consistent w) {m : Message} (hm : m.type ≠ .Being_Attacked) :
    Post (dispatch m w) (fun u => Effects (Led m) w u ∧ Heard m w u)
      fun f => f = .uninitialised ∧ ¬ Directed m := by
  rw [dispatch, dispatchN]
  refine Post.foldlM (fun u sys _ hu => ?_) ⟨.refl, .refl m w⟩
  have hcu := hu.1.consistent hw
  have hnext : ∀ {P : EntityId → Component → Prop} {v : Ecs F}, Effects P u v →
      (∀ e c, P e c → e = m.receiver ∧ c = .Position) →
      Effects (Led m) w v ∧ Heard m w v := by
    intro P v hv hP
    refine ⟨hu.1.trans (hv.mono fun e c h => ⟨(hP e c h).1, .inr (hP e c h).2⟩), ?_⟩
    refine hu.2.trans (heard_of_framed hv.framed fun h => ?_)
    exact absurd (hP _ _ h).2 (show Component.State ≠ .Position by decide)
  cases sys with
  | Network =>
    exact (network_notify_post m u).mono (fun v hv => hnext hv fun _ _ h => h) fun _ h => h.elim
  | Movement =>
    exact (movement_notify_post hcu m).mono (fun v hv => hnext hv fun _ _ h => h.elim)
      fun _ h => h.elim
  | State =>
    refine (state_notify_post 2 hcu m).imp ?_
    rintro v ⟨hv, hheard⟩
    refine ⟨hu.1.trans (hv.mono ?_), hu.2.trans hheard⟩
    rintro x c ⟨rfl, rfl⟩
    exact ⟨rfl, .inl rfl⟩
  | Combat =>
    rw [notify, S_Combat.notify, if_neg hm]
    exact Post.ite (fun _ => hu) fun _ => hu
  | Control => exact hu
  | Collision => exact hu
  | Timers => exact hu

/-! ### How deep dispatches nest -/

lemma changeState_depth (n : ℕ) (e : EntityId) (st : EntityState) (force : Bool) (w : Ecs F) :
    S_State.changeState (dispatchN (n + 1)) e st force w =
      S_State.changeState (dispatchN 1) e st force w := by
  cases hs : w.getComponent C_State e with
  | none => rw [S_State.changeState, S_State.changeState, hs]; rfl
  | some s => rw [changeState_eq n st force hs, changeState_eq 0 st force hs]

lemma state_notify_depth (n : ℕ) (m : Message) (w : Ecs F) :
    S_State.notify (dispatchN (n + 1)) m w = S_State.notify (dispatchN 1) m w := by
  simp only [S_State.notify, changeState_depth n]

lemma notify_depth (n : ℕ) (m : Message) (w : Ecs F) {sys : System} (h : sys ≠ .Combat) :
    notify (dispatchN (n + 1)) m w sys = notify (dispatchN 1) m w sys := by
  cases sys with
  | State => exact state_notify_depth n m w
  | Combat => exact absurd rfl h
  | Network => rfl
  | Movement => rfl
  | Control => rfl
  | Collision => rfl
  | Timers => rfl

lemma dispatch_hurt_depth (n : ℕ) (e : EntityId) (w : Ecs F) :
    dispatchN (n + 2) (.to .Hurt e) w = dispatchN 2 (.to .Hurt e) w := by
  have hobs : observers .Hurt = [.Network, .State] := by decide
  rw [dispatchN_pair (m := .to .Hurt e) hobs, dispatchN_pair (m := .to .Hurt e) hobs]
  simp only [notify_depth n _ _ (show System.Network ≠ .Combat by decide),
    notify_depth n _ _ (show System.State ≠ .Combat by decide)]

lemma combat_notify_depth (n : ℕ) (m : Message) (w : Ecs F) :
    S_Combat.notify (dispatchN (n + 2)) m w = S_Combat.notify (dispatchN 2) m w := by
  simp only [S_Combat.notify, changeState_depth (n + 1), changeState_depth 1,
    dispatch_hurt_depth n]

/-- **Three dispatches under way at a time are enough.** -/
lemma dispatchN_depth (n : ℕ) (m : Message) (w : Ecs F) :
    dispatchN (n + 3) m w = dispatchN 3 m w := by
  have hsys : ∀ (u : Ecs F) sys,
      notify (dispatchN (n + 2)) m u sys = notify (dispatchN 2) m u sys := by
    intro u sys
    by_cases hc : sys = .Combat
    · subst hc
      exact combat_notify_depth n m u
    · rw [notify_depth (n + 1) m u hc, notify_depth 1 m u hc]
  show (observers m.type).foldlM (fun u sys => notify (dispatchN (n + 2)) m u sys) w =
    (observers m.type).foldlM (fun u sys => notify (dispatchN 2) m u sys) w
  simp only [hsys]

/-! ### Events -/

/-- What the handlers of events may write: how an entity moves, and its state. -/
def Steered (e : EntityId) (e' : EntityId) (c : Component) : Prop :=
  e' = e ∧ (c = .State ∨ c = .Movable)

lemma setDirection_post (d : Direction) {mov : C_Movable F}
    (hmov : w.getComponent (C_Movable F) e = some mov) :
    Post (S_Movement.setDirection dispatch e d w) (Writes (At e .Movable) w) fun _ => False := by
  have hobs : observers .Direction_Changed = [] := by decide
  rw [S_Movement.setDirection, hmov, deref_some, ok_bind, dispatch, dispatchN]
  simp only [Message.to, hobs, List.foldlM_nil]
  exact writes_set e _ w ⟨rfl, rfl⟩

lemma movement_handleEvent_post (hw : Consistent w) (e : EntityId) (event : EntityEvent) :
    Post (S_Movement.handleEvent dispatch e event w) (Writes (At e .Movable) w) fun _ => False := by
  unfold S_Movement.handleEvent
  refine Post.ite (fun _ => .refl) fun hmem => ?_
  obtain ⟨mov, hmov⟩ := hw.get (T := C_Movable F) (not_not.mp hmem) .Movable rfl (by decide)
  have hset : ∀ x : C_Movable F, Writes (At e .Movable) w (w.setComponent e x) :=
    fun x => writes_set e x w ⟨rfl, rfl⟩
  have hvertical : ∀ d, Post (S_Movement.setVertical dispatch e d w) (Writes (At e .Movable) w)
      fun _ => False := by
    intro d
    rw [S_Movement.setVertical, hmov, deref_some, ok_bind]
    exact Post.ite (fun _ => setDirection_post d hmov) fun _ => .refl
  refine Post.ite (fun _ => ?_) fun _ => Post.ite (fun _ => ?_) fun _ => ?_
  · rw [S_Movement.stopX, hmov]
    exact hset _
  · rw [S_Movement.stopY, hmov]
    exact hset _
  refine Post.ite (fun _ => setDirection_post _ hmov) fun _ => ?_
  refine Post.ite (fun _ => setDirection_post _ hmov) fun _ => ?_
  refine Post.ite (fun _ => hvertical _) fun _ => ?_
  exact Post.ite (fun _ => hvertical _) fun _ => .refl

omit [LinearOrder F] in
lemma control_handleEvent_post (hw : Consistent w) (he : e ∈ w.members .Control)
    (event : EntityEvent) :
    Post (S_Control.handleEvent e event w) (Writes (At e .Movable) w) fun _ => False := by
  obtain ⟨mov, hmov⟩ := hw.get (T := C_Movable F) he .Movable rfl (by decide)
  have hmove : ∀ d, Post (S_Control.moveEntity e d w) (Writes (At e .Movable) w)
      fun _ => False := by
    intro d
    rw [S_Control.moveEntity, hmov]
    exact writes_set e _ w ⟨rfl, rfl⟩
  unfold S_Control.handleEvent
  refine Post.ite (fun _ => hmove _) fun _ => Post.ite (fun _ => hmove _) fun _ => ?_
  exact Post.ite (fun _ => hmove _) fun _ => Post.ite (fun _ => hmove _) fun _ => .refl

/-- **An event in a consistent world**: its handler writes, and does nothing else. -/
lemma handleEvent_post (hw : Consistent w) {sys : System} (he : e ∈ w.members sys)
    (event : EntityEvent) :
    Post (handleEvent sys e event w) (Writes (Steered e) w) fun _ => False := by
  have hsteered : ∀ x c, At e .Movable x c → Steered e x c := fun x c h => ⟨h.1, .inr h.2⟩
  cases sys with
  | Movement => exact (movement_handleEvent_post hw e event).imp fun u hu => hu.mono hsteered
  | Control => exact (control_handleEvent_post hw he event).imp fun u hu => hu.mono hsteered
  | State =>
    obtain ⟨s, hs⟩ := hw.get (T := C_State) he .State rfl (by decide)
    rw [handleEvent, S_State.handleEvent]
    refine Post.ite (fun _ => ?_) fun _ => .refl
    refine (changeState_post 3 .Idle false hs).imp fun u hu => hu.1.mono ?_
    rintro x c ⟨rfl, rfl⟩
    exact ⟨rfl, .inl rfl⟩
  | Network => exact .refl
  | Collision => exact .refl
  | Combat => exact .refl
  | Timers => exact .refl

lemma handleEvent_goes (hw : Consistent w) {sys : System} (he : e ∈ w.members sys)
    (event : EntityEvent) {s : C_State} (hs : w.getComponent C_State e = some s) :
    Post (handleEvent sys e event w) (fun u => ∃ s', u.getComponent C_State e = some s' ∧
      (s' = s ∨ (s.state ≠ .Dying ∧ s'.state = .Idle ∧ sys = .State ∧ event = .Became_Idle)))
      fun _ => False := by
  have hstay : ∀ u, Writes (At e .Movable) w u → ∃ s', u.getComponent C_State e = some s' ∧
      (s' = s ∨ (s.state ≠ .Dying ∧ s'.state = .Idle ∧ sys = .State ∧ event = .Became_Idle)) := by
    intro u hu
    refine ⟨s, ?_, .inl rfl⟩
    rw [hu.effects.framed.get (T := C_State), hs]
    exact fun h => absurd h.2 (show Component.State ≠ .Movable by decide)
  cases sys with
  | Movement => exact (movement_handleEvent_post hw e event).imp hstay
  | Control => exact (control_handleEvent_post hw he event).imp hstay
  | State =>
    rw [handleEvent, S_State.handleEvent]
    refine Post.ite (fun hevent => ?_) fun _ => hstay w .refl
    refine (changeState_post 3 .Idle false hs).imp ?_
    rintro u ⟨-, hs'⟩
    refine ⟨_, hs', ?_⟩
    by_cases hd : s.state = .Dying
    · rw [if_pos ⟨rfl, hd⟩]
      exact .inl rfl
    · rw [if_neg fun h => hd h.2]
      exact .inr ⟨hd, rfl, rfl, hevent⟩
  | Network => exact hstay w .refl
  | Collision => exact hstay w .refl
  | Combat => exact hstay w .refl
  | Timers => exact hstay w .refl

/-- **The events of an entity**: the next one is handed to the systems that hold it, and may let it
rest. -/
lemma processEvent_post (hw : Consistent w) (systems : List System) (e : EntityId) :
    Post (processEvent systems e w) (fun u => Framed (Steered e) w u ∧
      ∀ s, w.getComponent C_State e = some s → ∃ s', u.getComponent C_State e = some s' ∧
        (s' = s ∨ (s.state ≠ .Dying ∧ s'.state = .Idle ∧ .State ∈ systems ∧
          ∃ later, w.events.lookup e = some (EntityEvent.Became_Idle.id :: later))))
      fun _ => False := by
  unfold processEvent
  split
  · next event later hq =>
    refine Post.foldlM ?_ ⟨framed_of_entities rfl rfl rfl, fun s hs => ⟨s, hs, .inl rfl⟩⟩
    rintro v sys hsys ⟨hv, hstate⟩
    refine Post.ite (fun hmem => ?_) fun _ => ⟨hv, hstate⟩
    have hc := hv.consistent hw
    obtain ⟨v', hv', hwrites⟩ := (handleEvent_post hc hmem ⟨event⟩).exists_ok
    rw [hv']
    refine ⟨hv.trans hwrites.effects.framed, fun s hs => ?_⟩
    obtain ⟨s₁, hs₁, hcase⟩ := hstate s hs
    obtain ⟨s', hs', rfl | ⟨hd, hidle, rfl, hevent⟩⟩ :=
      (handleEvent_goes hc hmem ⟨event⟩ hs₁).ok hv'
    · exact ⟨s', hs', hcase⟩
    · rw [show event = EntityEvent.Became_Idle.id from congrArg EntityEvent.id hevent] at hq
      rcases hcase with rfl | ⟨hd₀, -⟩
      · exact ⟨s', hs', .inr ⟨hd, hidle, hsys, later, hq⟩⟩
      · exact ⟨s', hs', .inr ⟨hd₀, hidle, hsys, later, hq⟩⟩
  · exact ⟨framed_of_entities rfl rfl rfl, fun s hs => ⟨s, hs, .inl rfl⟩⟩

end Sfrpg
