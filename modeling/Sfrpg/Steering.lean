import Sfrpg.Lib.Commute
import Sfrpg.Ticks

/-!
What the events do to the entities, whatever the order they are handed out in.

The queues lie in a hash table and so do the systems, and nobody says in which order `handleEvents`
goes through either. A handler that is called writes one component of one entity, and what it writes
is a function of what it finds there: `S_Movement` stops or turns an entity, `S_Control` pushes it,
`S_State` lets it rest. Calls for different entities or by different systems commute, so that only
the order of the events of one entity counts, and this is the order of its queue.
-/

namespace Sfrpg

open Lib Lib.Word Lib.Run Ecs

/-! ### A component changed in place -/

section Alter

variable {F T U : Type} {e e' : EntityId} {c c' : Component} {f g : C_Base F → C_Base F}

/-- The first element of type `c`, changed. -/
def changeFirst (c : Component) (f : C_Base F → C_Base F) : List (C_Base F) → List (C_Base F)
  | [] => []
  | a :: l => if a.getType = c then f a :: l else a :: changeFirst c f l

/-- A change of objects of type `c` does not change their type. -/
def Keeps (c : Component) (f : C_Base F → C_Base F) : Prop := ∀ b, b.getType = c → (f b).getType = c

lemma replaceFirst_eq {a : C_Base F} {l : List (C_Base F)} (h : l.find? (·.getType = c) = some a) :
    replaceFirst c (f a) l = changeFirst c f l := by
  induction l with
  | nil => rfl
  | cons b l ih =>
    by_cases hb : b.getType = c
    · rw [List.find?_cons_of_pos (by simpa using hb)] at h
      cases h
      rw [replaceFirst, changeFirst, if_pos hb, if_pos hb]
    · rw [List.find?_cons_of_neg (by simpa using hb)] at h
      rw [replaceFirst, changeFirst, if_neg hb, if_neg hb, ih h]

lemma replaceFirst_self {a : C_Base F} {l : List (C_Base F)}
    (h : l.find? (·.getType = c) = some a) :
    replaceFirst c a l = l := by
  induction l with
  | nil => rfl
  | cons b l ih =>
    by_cases hb : b.getType = c
    · rw [List.find?_cons_of_pos (by simpa using hb)] at h
      cases h
      rw [replaceFirst, if_pos hb]
    · rw [List.find?_cons_of_neg (by simpa using hb)] at h
      rw [replaceFirst, if_neg hb, ih h]

lemma changeFirst_changeFirst (hg : Keeps c g) (l : List (C_Base F)) :
    changeFirst c f (changeFirst c g l) = changeFirst c (f ∘ g) l := by
  induction l with
  | nil => rfl
  | cons b l ih =>
    by_cases hb : b.getType = c
    · simp [changeFirst, hb, hg b hb]
    · simp [changeFirst, hb, ih]

lemma changeFirst_comm (hc : c ≠ c') (hf : Keeps c f) (hg : Keeps c' g) (l : List (C_Base F)) :
    changeFirst c f (changeFirst c' g l) = changeFirst c' g (changeFirst c f l) := by
  induction l with
  | nil => rfl
  | cons b l ih =>
    by_cases hb : b.getType = c
    · have hb' : b.getType ≠ c' := fun h => hc (hb.symm.trans h)
      have hfb : (f b).getType ≠ c' := fun h => hc ((hf b hb).symm.trans h)
      simp [changeFirst, hb, hc, hfb]
    · by_cases hb' : b.getType = c'
      · have hgb : (g b).getType ≠ c := fun h => hc (h.symm.trans (hg b hb'))
        simp [changeFirst, hb', Ne.symm hc, hgb]
      · simp [changeFirst, hb, hb', ih]

lemma changeFirst_congr (h : ∀ b, b.getType = c → f b = g b) (l : List (C_Base F)) :
    changeFirst c f l = changeFirst c g l := by
  induction l with
  | nil => rfl
  | cons b l ih =>
    by_cases hb : b.getType = c
    · simp [changeFirst, hb, h b hb]
    · simp [changeFirst, hb, ih]

lemma find_changeFirst_ne (hc : c ≠ c') (hf : Keeps c f) (l : List (C_Base F)) :
    (changeFirst c f l).find? (·.getType = c') = l.find? (·.getType = c') := by
  induction l with
  | nil => rfl
  | cons b l ih =>
    by_cases hb : b.getType = c
    · simp [changeFirst, hb, hf b hb, hc]
    · simp [changeFirst, hb, List.find?_cons, ih]

/-- A change of a `T`, as one of whatever is a `T`. -/
def onType [CompType F T] (h : T → T) (b : C_Base F) : C_Base F :=
  match CompType.cast (T := T) b with
  | some x => CompType.wrap (h x)
  | none => b

lemma onType_wrap [CompType F T] (h : T → T) (x : T) :
    onType h (CompType.wrap x : C_Base F) = CompType.wrap (h x) := by
  rw [onType, CompType.cast_wrap]

lemma keeps_onType [CompType F T] (h : T → T) : Keeps (CompType.tag F T) (onType (F := F) h) := by
  intro b hb
  obtain ⟨x, rfl⟩ := CompType.exists_wrap (T := T) b hb
  rw [onType_wrap, CompType.getType_wrap]

/-- The component of an entity, changed where it is. -/
def alter [CompType F T] (e : EntityId) (h : T → T) (m : Dict EntityId (EntityData F)) :
    Dict EntityId (EntityData F) :=
  Dict.modify e (fun d => { d with
    components := changeFirst (CompType.tag F T) (onType h) d.components }) m

lemma alter_alter [CompType F T] (e : EntityId) (h h' : T → T) (m : Dict EntityId (EntityData F)) :
    alter e h (alter e h' m) = alter e (h ∘ h') m := by
  rw [alter, alter, Dict.modify_modify, alter]
  refine Dict.modify_congr fun d _ => ?_
  simp only [Function.comp_apply]
  rw [changeFirst_changeFirst (keeps_onType h')]
  congr 1
  refine changeFirst_congr (fun b hb => ?_) _
  obtain ⟨x, rfl⟩ := CompType.exists_wrap (T := T) b hb
  rw [Function.comp_apply, onType_wrap, onType_wrap, onType_wrap, Function.comp_apply]

lemma alter_comm [CompType F T] [CompType F U] (hne : e ≠ e' ∨ CompType.tag F T ≠ CompType.tag F U)
    (h : T → T) (h' : U → U) (m : Dict EntityId (EntityData F)) :
    alter e h (alter e' h' m) = alter e' h' (alter e h m) := by
  by_cases he : e = e'
  · subst he
    have htag : CompType.tag F T ≠ CompType.tag F U := hne.resolve_left fun h => h rfl
    rw [alter, alter, alter, alter, Dict.modify_modify, Dict.modify_modify]
    refine Dict.modify_congr fun d _ => ?_
    simp only [Function.comp_apply]
    rw [changeFirst_comm htag (keeps_onType h) (keeps_onType h')]
  · exact Dict.modify_comm he _ _ m

variable {w : Ecs F}

lemma setComponent_eq_alter [CompType F T] {x : T} (hx : w.getComponent T e = some x) (h : T → T) :
    w.setComponent e (h x) = { w with entities := alter e h w.entities } := by
  have hb : (w.getBase e (CompType.tag F T)).isSome := by
    rw [← isSome_getComponent, hx]
    rfl
  obtain ⟨b, hb⟩ := Option.isSome_iff_exists.mp hb
  obtain ⟨x', rfl, hx'⟩ := getBase_eq_wrap hb
  obtain rfl : x = x' := Option.some.inj (hx.symm.trans hx')
  rw [setComponent, alter]
  congr 1
  refine Dict.modify_congr fun d hd => ?_
  rw [getBase, hd] at hb
  dsimp only at hb
  split at hb
  · cases hb
  · rw [← onType_wrap, replaceFirst_eq hb]

lemma setComponent_self [CompType F T] {x : T} (hx : w.getComponent T e = some x) :
    w.setComponent e x = w := by
  have hb : (w.getBase e (CompType.tag F T)).isSome := by
    rw [← isSome_getComponent, hx]
    rfl
  obtain ⟨b, hb⟩ := Option.isSome_iff_exists.mp hb
  obtain ⟨x', rfl, hx'⟩ := getBase_eq_wrap hb
  obtain rfl : x = x' := Option.some.inj (hx.symm.trans hx')
  rw [getBase] at hb
  cases hd : w.entities.lookup e with
  | none =>
    rw [hd] at hb
    cases hb
  | some d =>
    rw [hd] at hb
    dsimp only at hb
    split at hb
    · cases hb
    · rw [setComponent, Dict.modify_eq_self hd (by rw [replaceFirst_self hb])]

lemma getComponent_alter [CompType F T] {x : T} (hx : w.getComponent T e = some x) (h : T → T) :
    { w with entities := alter e h w.entities }.getComponent T e = some (h x) := by
  rw [← setComponent_eq_alter hx, getComponent_setComponent, hx]
  rfl

lemma getComponent_alter_ne [CompType F T] [CompType F U]
    (hne : e ≠ e' ∨ CompType.tag F T ≠ CompType.tag F U) (h : T → T) :
    { w with entities := alter e h w.entities }.getComponent U e' = w.getComponent U e' := by
  rw [getComponent, getComponent, getBase, getBase, alter]
  by_cases he : e = e'
  · subst he
    have htag : CompType.tag F T ≠ CompType.tag F U := hne.resolve_left fun h => h rfl
    rw [Dict.lookup_modify]
    cases w.entities.lookup e with
    | none => rfl
    | some d => simp only [Option.map_some, find_changeFirst_ne htag (keeps_onType h)]
  · rw [Dict.lookup_modify_ne (Ne.symm he)]

end Alter

/-! ### What a handler makes of the component it writes -/

variable {F : Type} [Field F] [LinearOrder F] {w : Ecs F} {e : EntityId}

/-- What `S_Movement` makes of an event. -/
def S_Movement.answer (event : EntityEvent) (mov : C_Movable F) : C_Movable F :=
  if event = .Colliding_X then mov.setVelocity ⟨0, mov.velocity.y⟩
  else if event = .Colliding_Y then mov.setVelocity ⟨mov.velocity.x, 0⟩
  else if event = .Moving_Left then mov.setDirection .Left
  else if event = .Moving_Right then mov.setDirection .Right
  else if event = .Moving_Up then if mov.velocity.x = 0 then mov.setDirection .Up else mov
  else if event = .Moving_Down then if mov.velocity.x = 0 then mov.setDirection .Down else mov
  else mov

/-- What `S_Control` makes of an event. -/
def S_Control.answer (event : EntityEvent) (mov : C_Movable F) : C_Movable F :=
  if event = .Moving_Left then mov.move .Left
  else if event = .Moving_Right then mov.move .Right
  else if event = .Moving_Up then mov.move .Up
  else if event = .Moving_Down then mov.move .Down
  else mov

/-- What `S_State` makes of an event. -/
def S_State.answer (event : EntityEvent) (s : C_State) : C_State :=
  if event = .Became_Idle ∧ s.state ≠ .Dying then ⟨.Idle⟩ else s

/-- What the entities make of a call of a handler. -/
def heed (m : Dict EntityId (EntityData F)) (k : System × EntityId × EventID) :
    Dict EntityId (EntityData F) :=
  match k.1 with
  | .Movement => alter k.2.1 (S_Movement.answer (F := F) ⟨k.2.2⟩) m
  | .Control => alter k.2.1 (S_Control.answer (F := F) ⟨k.2.2⟩) m
  | .State => alter k.2.1 (S_State.answer ⟨k.2.2⟩) m
  | _ => m

lemma movement_handleEvent_eq (he : w.hasEntity .Movement e) (event : EntityEvent)
    {mov : C_Movable F} (hmov : w.getComponent (C_Movable F) e = some mov) :
    S_Movement.handleEvent dispatch e event w =
      .ok { w with entities := alter e (S_Movement.answer (F := F) event) w.entities } := by
  have hobs : observers .Direction_Changed = [] := by decide
  have hset : ∀ d, S_Movement.setDirection dispatch e d w =
      .ok (w.setComponent e (mov.setDirection d)) := by
    intro d
    rw [S_Movement.setDirection, hmov, deref_some, ok_bind, dispatch, dispatchN]
    simp only [Message.to, hobs, List.foldlM_nil]
    rfl
  have hvertical : ∀ d, S_Movement.setVertical dispatch e d w =
      .ok (w.setComponent e (if mov.velocity.x = 0 then mov.setDirection d else mov)) := by
    intro d
    rw [S_Movement.setVertical, hmov, deref_some, ok_bind, hset]
    split
    · rfl
    · rw [setComponent_self hmov]
      rfl
  rw [← setComponent_eq_alter hmov, S_Movement.handleEvent, if_neg (not_not.mpr he), hset, hset,
    hvertical, hvertical, S_Movement.stopX, S_Movement.stopY, hmov, S_Movement.answer]
  by_cases h1 : event = .Colliding_X
  · rw [if_pos h1, if_pos h1]
    rfl
  rw [if_neg h1, if_neg h1]
  by_cases h2 : event = .Colliding_Y
  · rw [if_pos h2, if_pos h2]
    rfl
  rw [if_neg h2, if_neg h2]
  split_ifs
  all_goals first | rfl | rw [setComponent_self hmov]; rfl

omit [LinearOrder F] in
lemma control_handleEvent_eq (event : EntityEvent) {mov : C_Movable F}
    (hmov : w.getComponent (C_Movable F) e = some mov) :
    S_Control.handleEvent e event w =
      .ok { w with entities := alter e (S_Control.answer (F := F) event) w.entities } := by
  have hmove : ∀ d, S_Control.moveEntity e d w = .ok (w.setComponent e (mov.move d)) := by
    intro d
    rw [S_Control.moveEntity, hmov]
    rfl
  rw [← setComponent_eq_alter hmov, S_Control.handleEvent, hmove, hmove, hmove, hmove,
    S_Control.answer]
  split_ifs
  all_goals first | rfl | rw [setComponent_self hmov]; rfl

lemma state_handleEvent_eq (event : EntityEvent) {s : C_State}
    (hs : w.getComponent C_State e = some s) :
    S_State.handleEvent dispatch e event w =
      .ok { w with entities := alter e (S_State.answer event) w.entities } := by
  rw [← setComponent_eq_alter hs, S_State.handleEvent, S_State.answer]
  by_cases hevent : event = .Became_Idle
  · rw [if_pos hevent, dispatch, changeState_eq 3 .Idle false hs]
    by_cases hd : s.state = .Dying
    · rw [if_pos (.inr ⟨rfl, hd⟩), if_neg fun h => h.2 hd, setComponent_self hs]
    rw [if_pos (And.intro hevent hd)]
    by_cases hidle : EntityState.Idle = s.state
    · rw [if_pos (.inl hidle), hidle]
      exact congrArg _ (setComponent_self hs).symm
    · rw [if_neg fun h => h.elim hidle fun h => hd h.2]
      rfl
  · rw [if_neg hevent, if_neg fun h => hevent h.1, setComponent_self hs]
    rfl

/-- **A handler changes one component** of the entity it is called for, by a function of it. -/
lemma handleEvent_eq (hw : Consistent w) {sys : System} (he : w.hasEntity sys e) (event : EventID) :
    handleEvent sys e ⟨event⟩ w = .ok { w with entities := heed w.entities (sys, e, event) } := by
  cases sys with
  | Movement =>
    obtain ⟨mov, hmov⟩ := hw.get (T := C_Movable F) he .Movable rfl (by decide)
    exact movement_handleEvent_eq he ⟨event⟩ hmov
  | Control =>
    obtain ⟨mov, hmov⟩ := hw.get (T := C_Movable F) he .Movable rfl (by decide)
    exact control_handleEvent_eq ⟨event⟩ hmov
  | State =>
    obtain ⟨s, hs⟩ := hw.get (T := C_State) he .State rfl (by decide)
    exact state_handleEvent_eq ⟨event⟩ hs
  | Network => rfl
  | Collision => rfl
  | Combat => rfl
  | Timers => rfl

/-! ### Calls that commute -/

/-- What a push in the direction of an event makes of an acceleration. -/
def pushed (event : EntityEvent) (speed a : Vector2f F) : Vector2f F where
  x := a.x + speed.x *
    ((if event = .Moving_Right then 1 else 0) - if event = .Moving_Left then 1 else 0)
  y := a.y + speed.y *
    ((if event = .Moving_Down then 1 else 0) - if event = .Moving_Up then 1 else 0)

omit [LinearOrder F] in
lemma S_Control.answer_eq (event : EntityEvent) (mov : C_Movable F) :
    S_Control.answer event mov = mov.setAcceleration (pushed event mov.speed mov.acceleration) := by
  have hlr : EntityEvent.Moving_Left ≠ .Moving_Right := by decide
  have hlu : EntityEvent.Moving_Left ≠ .Moving_Up := by decide
  have hld : EntityEvent.Moving_Left ≠ .Moving_Down := by decide
  have hru : EntityEvent.Moving_Right ≠ .Moving_Up := by decide
  have hrd : EntityEvent.Moving_Right ≠ .Moving_Down := by decide
  have hud : EntityEvent.Moving_Up ≠ .Moving_Down := by decide
  have dlr : Direction.Left ≠ .Right := by decide
  have dlu : Direction.Left ≠ .Up := by decide
  have dld : Direction.Left ≠ .Down := by decide
  have dru : Direction.Right ≠ .Up := by decide
  have drd : Direction.Right ≠ .Down := by decide
  have dud : Direction.Up ≠ .Down := by decide
  unfold S_Control.answer
  by_cases h1 : event = .Moving_Left
  · subst h1
    simp [C_Movable.move, C_Movable.setAcceleration, pushed, hlr, hlu, hld, sub_eq_add_neg]
  by_cases h2 : event = .Moving_Right
  · subst h2
    simp [C_Movable.move, C_Movable.setAcceleration, pushed, hlr.symm, hru, hrd, dlr.symm]
  by_cases h3 : event = .Moving_Up
  · subst h3
    simp [C_Movable.move, C_Movable.setAcceleration, pushed, hlu.symm, hru.symm, hud, dlu.symm,
      dru.symm, sub_eq_add_neg]
  by_cases h4 : event = .Moving_Down
  · subst h4
    simp [C_Movable.move, C_Movable.setAcceleration, pushed, hld.symm, hrd.symm, hud.symm, dld.symm,
      drd.symm, dud.symm]
  simp [C_Movable.setAcceleration, pushed, h1, h2, h3, h4]

lemma S_Movement.answer_setAcceleration (event : EntityEvent) (a : Vector2f F) (mov : C_Movable F) :
    S_Movement.answer event (mov.setAcceleration a) =
      (S_Movement.answer event mov).setAcceleration a := by
  have hv : (mov.setAcceleration a).velocity = mov.velocity := rfl
  unfold S_Movement.answer
  rw [hv]
  split_ifs <;> rfl

lemma S_Movement.answer_speed (event : EntityEvent) (mov : C_Movable F) :
    (S_Movement.answer event mov).speed = mov.speed := by
  unfold S_Movement.answer
  split_ifs <;> rfl

lemma S_Movement.answer_acceleration (event : EntityEvent) (mov : C_Movable F) :
    (S_Movement.answer event mov).acceleration = mov.acceleration := by
  unfold S_Movement.answer
  split_ifs <;> rfl

lemma answer_comm (event event' : EntityEvent) (mov : C_Movable F) :
    S_Movement.answer event (S_Control.answer event' mov) =
      S_Control.answer event' (S_Movement.answer event mov) := by
  rw [S_Control.answer_eq, S_Movement.answer_setAcceleration, S_Control.answer_eq,
    S_Movement.answer_speed, S_Movement.answer_acceleration]

omit [Field F] [LinearOrder F] in
lemma alter_comm_of {T : Type} [CompType F T] {h h' : T → T} (hcomm : ∀ x, h (h' x) = h' (h x))
    (e e' : EntityId) (m : Dict EntityId (EntityData F)) :
    alter e h (alter e' h' m) = alter e' h' (alter e h m) := by
  by_cases he : e = e'
  · subst he
    rw [alter_alter, alter_alter]
    exact congrArg (alter e · m) (funext hcomm)
  · exact alter_comm (.inl he) h h' m

/-- Who is called, and for whom. -/
def address (k : System × EntityId × EventID) : System × EntityId := (k.1, k.2.1)

/-- **Calls for different entities, or by different systems, commute.** -/
lemma heed_comm (m : Dict EntityId (EntityData F)) (k k' : System × EntityId × EventID)
    (hk : address k ≠ address k') : heed (heed m k) k' = heed (heed m k') k := by
  obtain ⟨sys, e, event⟩ := k
  obtain ⟨sys', e', event'⟩ := k'
  have hentity : sys = sys' → e ≠ e' := fun hs he => hk (by simp [address, hs, he])
  have hstate : CompType.tag F C_State ≠ CompType.tag F (C_Movable F) :=
    show Component.State ≠ .Movable by decide
  cases sys <;> cases sys' <;> try rfl
  case Movement.Movement => exact (alter_comm (.inl (hentity rfl)) _ _ m).symm
  case Movement.Control => exact (alter_comm_of (answer_comm _ _) e e' m).symm
  case Movement.State => exact alter_comm (.inr hstate) _ _ m
  case Control.Movement => exact alter_comm_of (answer_comm _ _) e' e m
  case Control.Control => exact (alter_comm (.inl (hentity rfl)) _ _ m).symm
  case Control.State => exact alter_comm (.inr hstate) _ _ m
  case State.Movement => exact alter_comm (.inr hstate.symm) _ _ m
  case State.Control => exact alter_comm (.inr hstate.symm) _ _ m
  case State.State => exact (alter_comm (.inl (hentity rfl)) _ _ m).symm

/-! ### What the loops leave -/

/-- The entities have heeded the calls on record, and the rest is as it was but for the queues. -/
structure Heeded (w u : Ecs F) (log : List (Delivery F)) : Prop where
  entities : u.entities = (log.map Delivery.key).foldl heed w.entities
  rest : u = { w with entities := u.entities, events := u.events }
  consistent : Consistent u

lemma heeded_handOne {u : Ecs F} {log : List (Delivery F)} (h : Heeded w u log) (event : EventID)
    (sys : System) :
    Post (handOne e event u sys) (fun p => Heeded w p.1 (log ++ p.2)) fun _ => True := by
  rw [handOne]
  by_cases hmem : u.hasEntity sys e
  · have hc := (handleEvent_post h.consistent hmem ⟨event⟩).ok
      (handleEvent_eq h.consistent hmem event)
    rw [if_pos hmem, handleEvent_eq h.consistent hmem event]
    refine ⟨?_, ?_, hc.effects.consistent h.consistent⟩
    swap
    · exact congrArg (fun v : Ecs F => { v with entities := heed u.entities (sys, e, event) })
        h.rest
    rw [List.map_append, List.foldl_append, ← h.entities]
    rfl
  · rw [if_neg hmem]
    simpa using h

lemma heeded_process {u : Ecs F} {log : List (Delivery F)} (h : Heeded w u log)
    (systems : List System) :
    Post (processTraced systems e u) (fun p => Heeded w p.1 (log ++ p.2)) fun _ => True := by
  rw [processTraced]
  split
  · next event rest _ =>
    have hpop : Heeded w { u with events := u.events.insert e rest } log :=
      ⟨h.entities, congrArg (fun v : Ecs F => { v with events := u.events.insert e rest }) h.rest,
        h.consistent.congr rfl rfl⟩
    exact Trace.post_foldl (I := Heeded w) (fun u log sys _ h => heeded_handOne h event sys) hpop
  · simpa using h

lemma heeded_drain {u : Ecs F} {log : List (Delivery F)} (h : Heeded w u log)
    (systems : List System) (n : ℕ) :
    Post (drainTraced systems e n u) (fun p => Heeded w p.1 (log ++ p.2)) fun _ => True := by
  induction n generalizing u log with
  | zero =>
    rw [drainTraced]
    exact Post.ite (fun _ => by simpa using h) fun _ => trivial
  | succ n ih =>
    rw [drainTraced]
    refine Post.ite (fun _ => by simpa using h) fun _ => ?_
    refine Trace.post_seq (Q := fun s a => Heeded w s (log ++ a))
      (R := fun s a => Heeded w s (log ++ a)) (heeded_process h systems) fun s a hs => ?_
    simpa [List.append_assoc] using ih hs

/-- **All entities do is heed the calls on record**, in the order of the record. -/
lemma heeded_handleEvents (hw : Consistent w) (systems : List System) (n : ℕ)
    (keys : List EntityId) :
    Post (handleEventsTraced n systems keys w) (fun p => Heeded w p.1 p.2) fun _ => True :=
  Trace.post_foldl (I := Heeded w) (a := []) (fun _ _ _ _ h => heeded_drain h systems n)
    ⟨rfl, rfl, hw⟩

lemma proj_calls (sys : System) (e : EntityId) (l : List (System × EntityId × EventID)) :
    Commute.proj address (sys, e) l =
      (l.filterMap fun k => if k.1 = sys ∧ k.2.1 = e then some k.2.2 else none).map
        fun event => (sys, e, event) := by
  induction l with
  | nil => rfl
  | cons k l ih =>
    obtain ⟨sys', e', event⟩ := k
    by_cases hk : sys' = sys ∧ e' = e
    · obtain ⟨rfl, rfl⟩ := hk
      have hself : Commute.proj address (sys', e') ((sys', e', event) :: l) =
          (sys', e', event) :: Commute.proj address (sys', e') l :=
        Commute.proj_cons_self (sys', e', event) l
      rw [hself, ih]
      simp
    · rw [Commute.proj_cons_ne (by simpa [address] using hk)]
      simp [hk, ih]

lemma handleEvents_heeded (hw : Consistent w) {systems : List System} (hs : systems.Nodup)
    (hall : ∀ sys, sys ∈ systems) {keys : List EntityId} (hk : keys.Nodup)
    (hkeys : ∀ x, x ∈ keys ↔ x ∈ w.events) :
    ∃ u log, handleEvents systems keys w = .ok u ∧ Heeded w u log ∧ Framed Moved w u ∧
      (∀ sys x, received sys x log = if w.hasEntity sys x then queue x w else []) ∧
      ∀ x, u.events.lookup x = if x ∈ w.events then some [] else none := by
  have hempty : ∀ x, x ∉ keys → queue x w = [] := by
    intro x hx
    rw [hkeys] at hx
    rw [queue, AList.lookup_eq_none.mpr hx]
    rfl
  obtain ⟨⟨u, log⟩, hp, hd, hq, hlog, -⟩ := (handleEvents_post systems w.backlog keys hw
    fun x => queue_le_backlog x w).exists_ok
  refine ⟨u, log, ?_, (heeded_handleEvents hw systems w.backlog keys).ok hp, hd.framed,
    fun sys x => ?_, fun x => ?_⟩
  · rw [handleEvents, ← forget_handleEvents, hp, Trace.forget_ok]
  · rw [received_schedule hs hk (hlog hk) sys x]
    by_cases hx : x ∈ keys
    · simp [hx, hall]
    · simp [hx, hempty x hx]
  · by_cases hx : x ∈ w.events
    · obtain ⟨q, hlook⟩ := Dict.exists_lookup ((hd.queues x).mpr hx)
      have hnone : queue x u = [] := by rw [hq x, if_pos ((hkeys x).mpr hx)]
      rw [queue, hlook] at hnone
      rw [if_pos hx, hlook]
      exact congrArg some hnone
    · rw [if_neg hx, AList.lookup_eq_none.mpr fun h => hx ((hd.queues x).mp h)]

/-- What a racer has: a place, a motion to control, and a state. -/
def racerBits : Bitmask :=
  (((Bitmask.empty.turnOnBit Component.Position.id).turnOnBit Component.Movable.id).turnOnBit
    Component.State.id).turnOnBit Component.Controller.id

/-- Two racers are added, and some events wait for both. -/
def race : List (Turn ℚ) :=
  [.store (.addEntity ⟨.Walking, 0, 0, false⟩ racerBits (-1)),
    .store (.addEntity ⟨.Idle, 0, 0, false⟩ racerBits (-1)),
    .addEvent 0 EntityEvent.Moving_Left.id, .addEvent 0 EntityEvent.Became_Idle.id,
    .addEvent 1 EntityEvent.Moving_Up.id]

def racers : Ecs ℚ := reached (turn (Setting.empty ℚ)) (new ℚ) race

lemma race_run : runE (turn (Setting.empty ℚ)) (new ℚ) race = .ok racers :=
  runE_reached (by decide +kernel)

lemma racers_keys (e : EntityId) : e ∈ [0, 1] ↔ e ∈ racers.events := by
  have hkeys : racers.events.keys = [1, 0] := by decide +kernel
  rw [AList.mem_keys, hkeys]
  simp [or_comm]

/-- The systems in the order of their enumerators. -/
def allSystems : List System :=
  [.Network, .Movement, .Control, .State, .Collision, .Combat, .Timers]

lemma mem_allSystems (sys : System) : sys ∈ allSystems := by
  cases sys <;> decide

/-- **No order matters.** In every reachable world the events are handed out with the same result,
in whatever order the systems and the queues lie in their hash tables: the same entities with the
same components, the same inputs, the same packets to send, and empty queues. -/
theorem events_any_order [FloorRing F] (S : Setting F) (turns : List (Turn F)) (w : Ecs F)
    (hw : runE (turn S) (new F) turns = .ok w) (systems systems' : List System)
    (hs : systems.Nodup) (hall : ∀ sys, sys ∈ systems) (hs' : systems'.Nodup)
    (hall' : ∀ sys, sys ∈ systems') (keys keys' : List EntityId) (hk : keys.Nodup)
    (hkeys : ∀ e, e ∈ keys ↔ e ∈ w.events) (hk' : keys'.Nodup)
    (hkeys' : ∀ e, e ∈ keys' ↔ e ∈ w.events) :
    ∃ u u', handleEvents systems keys w = .ok u ∧ handleEvents systems' keys' w = .ok u' ∧
      { u with events := u'.events } = u' ∧ ∀ e, u.events.lookup e = u'.events.lookup e := by
  have hc := consistent_reached hw
  obtain ⟨u, log, hu, hheed, -, hrec, hq⟩ := handleEvents_heeded hc hs hall hk hkeys
  obtain ⟨u', log', hu', hheed', -, hrec', hq'⟩ := handleEvents_heeded hc hs' hall' hk' hkeys'
  have hsame : u.entities = u'.entities := by
    rw [hheed.entities, hheed'.entities]
    refine Commute.foldl_eq_of_proj heed_comm (fun k => ?_) w.entities
    have hreceived : received k.1 k.2 log = received k.1 k.2 log' := by rw [hrec, hrec']
    rw [proj_calls, proj_calls]
    exact congrArg _ hreceived
  refine ⟨u, u', hu, hu', ?_, fun e => by rw [hq, hq']⟩
  calc { u with events := u'.events }
      = { w with entities := u.entities, events := u'.events } :=
        congrArg (fun v : Ecs F => { v with events := u'.events }) hheed.rest
    _ = { w with entities := u'.entities, events := u'.events } := by rw [hsame]
    _ = u' := hheed'.rest.symm

/-- Two orders for the racers. -/
theorem events_any_order_race :
    ∃ u u', handleEvents allSystems [0, 1] racers = .ok u ∧
      handleEvents allSystems.reverse [1, 0] racers = .ok u' ∧
      { u with events := u'.events } = u' ∧ ∀ e, u.events.lookup e = u'.events.lookup e :=
  events_any_order (Setting.empty ℚ) race racers race_run allSystems allSystems.reverse (by decide)
    mem_allSystems (by decide) (fun sys => List.mem_reverse.mpr (mem_allSystems sys)) [0, 1] [1, 0]
    (by decide) racers_keys (by decide) fun e => by rw [← racers_keys]; simp [or_comm]

/-! ### What becomes of an entity -/

/-- The direction after some events: up and down count once the entity does not move sideways. -/
def facing (x : F) (d : Direction) : List EventID → Direction
  | [] => d
  | id :: rest =>
    let event : EntityEvent := ⟨id⟩
    if event = .Colliding_X then facing 0 d rest
    else if event = .Moving_Left then facing x .Left rest
    else if event = .Moving_Right then facing x .Right rest
    else if event = .Moving_Up ∧ x = 0 then facing x .Up rest
    else if event = .Moving_Down ∧ x = 0 then facing x .Down rest
    else facing x d rest

/-- How often an event is among some, as a scalar. -/
def times (event : EntityEvent) (q : List EventID) : F := (q.count event.id : ℕ)

/-- What the events `pushes` for `S_Control` and `stops` for `S_Movement` make of an entity. -/
structure Driven (pushes stops : List EventID) (mov mov' : C_Movable F) : Prop where
  speed : mov'.speed = mov.speed
  velocityMax : mov'.velocityMax = mov.velocityMax
  acceleration : mov'.acceleration =
    ⟨mov.acceleration.x + mov.speed.x * (times .Moving_Right pushes - times .Moving_Left pushes),
      mov.acceleration.y + mov.speed.y * (times .Moving_Down pushes - times .Moving_Up pushes)⟩
  velocity : mov'.velocity =
    ⟨if EntityEvent.Colliding_X.id ∈ stops then 0 else mov.velocity.x,
      if EntityEvent.Colliding_Y.id ∈ stops then 0 else mov.velocity.y⟩
  direction : mov'.direction = facing mov.velocity.x mov.direction stops

lemma Driven.refl (mov : C_Movable F) : Driven [] [] mov mov where
  speed := rfl
  velocityMax := rfl
  acceleration := by simp [times]
  velocity := by simp
  direction := rfl

omit [Field F] [LinearOrder F] in
lemma event_eq_iff (id : EventID) (event : EntityEvent) :
    (⟨id⟩ : EntityEvent) = event ↔ id = event.id := by
  cases event
  simp

omit [LinearOrder F] in
lemma times_cons (event : EntityEvent) (id : EventID) (q : List EventID) :
    (times event (id :: q) : F) = times event q +
      if (⟨id⟩ : EntityEvent) = event then 1 else 0 := by
  by_cases h : id = event.id
  · simp [times, h]
  · simp [times, event_eq_iff, h]

lemma Driven.push {pushes stops : List EventID} {mov mov' : C_Movable F} {id : EventID}
    (h : Driven pushes stops (S_Control.answer ⟨id⟩ mov) mov') :
    Driven (id :: pushes) stops mov mov' := by
  rw [S_Control.answer_eq] at h
  refine ⟨h.speed, h.velocityMax, h.acceleration.trans ?_, h.velocity, h.direction⟩
  simp only [C_Movable.setAcceleration, pushed, times_cons]
  ext <;> ring

lemma S_Movement.answer_velocityMax (event : EntityEvent) (mov : C_Movable F) :
    (S_Movement.answer event mov).velocityMax = mov.velocityMax := by
  unfold S_Movement.answer
  split_ifs <;> rfl

lemma S_Movement.answer_velocity (event : EntityEvent) (mov : C_Movable F) :
    (S_Movement.answer event mov).velocity =
      ⟨if event = .Colliding_X then 0 else mov.velocity.x,
        if event = .Colliding_Y then 0 else mov.velocity.y⟩ := by
  have hxy : EntityEvent.Colliding_X ≠ .Colliding_Y := by decide
  unfold S_Movement.answer
  by_cases h1 : event = .Colliding_X
  · simp [h1, hxy, C_Movable.setVelocity]
  by_cases h2 : event = .Colliding_Y
  · simp [h2, hxy.symm, C_Movable.setVelocity]
  rw [if_neg h1, if_neg h2, if_neg h1, if_neg h2]
  split_ifs <;> rfl

lemma S_Movement.answer_direction (event : EntityEvent) (mov : C_Movable F) :
    (S_Movement.answer event mov).direction =
      if event = .Moving_Left then .Left
      else if event = .Moving_Right then .Right
      else if event = .Moving_Up ∧ mov.velocity.x = 0 then .Up
      else if event = .Moving_Down ∧ mov.velocity.x = 0 then .Down
      else mov.direction := by
  unfold S_Movement.answer
  by_cases h1 : event = .Colliding_X
  · subst h1
    rfl
  by_cases h2 : event = .Colliding_Y
  · subst h2
    rfl
  rw [if_neg h1, if_neg h2]
  split_ifs
  all_goals first | rfl | tauto

lemma facing_cons (id : EventID) (rest : List EventID) (mov : C_Movable F) :
    facing mov.velocity.x mov.direction (id :: rest) =
      facing (S_Movement.answer ⟨id⟩ mov).velocity.x (S_Movement.answer ⟨id⟩ mov).direction
        rest := by
  rw [S_Movement.answer_velocity, S_Movement.answer_direction, facing]
  by_cases h1 : (⟨id⟩ : EntityEvent) = .Colliding_X
  · rw [if_pos h1, h1]
    rfl
  · simp only [if_neg h1]
    split_ifs <;> rfl

lemma Driven.stop {pushes stops : List EventID} {mov mov' : C_Movable F} {id : EventID}
    (h : Driven pushes stops (S_Movement.answer ⟨id⟩ mov) mov') :
    Driven pushes (id :: stops) mov mov' where
  speed := h.speed.trans (S_Movement.answer_speed _ mov)
  velocityMax := h.velocityMax.trans (S_Movement.answer_velocityMax _ mov)
  acceleration := by
    rw [h.acceleration, S_Movement.answer_speed, S_Movement.answer_acceleration]
  velocity := by
    have hmem : ∀ event : EntityEvent, event.id ∈ id :: stops ↔
        (⟨id⟩ : EntityEvent) = event ∨ event.id ∈ stops := by
      intro event
      rw [List.mem_cons, event_eq_iff, eq_comm]
    rw [h.velocity, S_Movement.answer_velocity]
    simp only [hmem]
    ext <;> split_ifs <;> simp_all
  direction := by rw [h.direction, facing_cons]

/-- The events that some calls of the handlers bring a system for an entity. -/
def brought (sys : System) (e : EntityId) (l : List (System × EntityId × EventID)) : List EventID :=
  l.filterMap fun k => if k.1 = sys ∧ k.2.1 = e then some k.2.2 else none

omit [Field F] [LinearOrder F] in
lemma brought_self (sys : System) (e : EntityId) (id : EventID)
    (l : List (System × EntityId × EventID)) :
    brought sys e ((sys, e, id) :: l) = id :: brought sys e l := by
  simp [brought]

omit [Field F] [LinearOrder F] in
lemma brought_other (sys : System) {e : EntityId} {k : System × EntityId × EventID}
    (hk : ¬ (k.1 = sys ∧ k.2.1 = e)) (l : List (System × EntityId × EventID)) :
    brought sys e (k :: l) = brought sys e l := by
  simp [brought, hk]

lemma heed_movable (k : System × EntityId × EventID) {mov : C_Movable F}
    (hmov : w.getComponent (C_Movable F) e = some mov) :
    { w with entities := heed w.entities k }.getComponent (C_Movable F) e =
      some (if k.1 = .Movement ∧ k.2.1 = e then S_Movement.answer ⟨k.2.2⟩ mov
        else if k.1 = .Control ∧ k.2.1 = e then S_Control.answer ⟨k.2.2⟩ mov else mov) := by
  obtain ⟨sys, x, id⟩ := k
  have hstate : CompType.tag F C_State ≠ CompType.tag F (C_Movable F) :=
    show Component.State ≠ .Movable by decide
  by_cases hx : x = e
  · subst hx
    cases sys
    case Movement =>
      rw [if_pos (And.intro rfl rfl)]
      exact getComponent_alter hmov (S_Movement.answer ⟨id⟩)
    case Control =>
      rw [if_neg (by simp), if_pos (And.intro rfl rfl)]
      exact getComponent_alter hmov (S_Control.answer ⟨id⟩)
    case State => exact (getComponent_alter_ne (.inr hstate) (S_State.answer ⟨id⟩)).trans hmov
    all_goals exact hmov
  · rw [if_neg fun h => hx h.2, if_neg fun h => hx h.2]
    cases sys
    case Movement => exact (getComponent_alter_ne (.inl hx) (S_Movement.answer ⟨id⟩)).trans hmov
    case Control => exact (getComponent_alter_ne (.inl hx) (S_Control.answer ⟨id⟩)).trans hmov
    case State => exact (getComponent_alter_ne (.inl hx) (S_State.answer ⟨id⟩)).trans hmov
    all_goals exact hmov

lemma heed_state (k : System × EntityId × EventID) {s : C_State}
    (hs : w.getComponent C_State e = some s) :
    { w with entities := heed w.entities k }.getComponent C_State e =
      some (if k.1 = .State ∧ k.2.1 = e then S_State.answer ⟨k.2.2⟩ s else s) := by
  obtain ⟨sys, x, id⟩ := k
  have hmovable : CompType.tag F (C_Movable F) ≠ CompType.tag F C_State :=
    show Component.Movable ≠ .State by decide
  have hmoved : ∀ h : C_Movable F → C_Movable F,
      { w with entities := alter x h w.entities }.getComponent C_State e = some s :=
    fun h => (getComponent_alter_ne (.inr hmovable) h).trans hs
  cases sys
  case Movement => exact hmoved (S_Movement.answer ⟨id⟩)
  case Control => exact hmoved (S_Control.answer ⟨id⟩)
  case State =>
    by_cases hx : x = e
    · subst hx
      rw [if_pos (And.intro rfl rfl)]
      exact getComponent_alter hs (S_State.answer ⟨id⟩)
    · rw [if_neg fun h => hx h.2]
      exact (getComponent_alter_ne (.inl hx) (S_State.answer ⟨id⟩)).trans hs
  all_goals exact hs

lemma driven_foldl (l : List (System × EntityId × EventID)) {mov : C_Movable F}
    (hmov : w.getComponent (C_Movable F) e = some mov) :
    ∃ mov', { w with entities := l.foldl heed w.entities }.getComponent (C_Movable F) e =
      some mov' ∧
      Driven (brought .Control e l) (brought .Movement e l) mov mov' := by
  induction l generalizing w mov with
  | nil => exact ⟨mov, hmov, .refl mov⟩
  | cons k l ih =>
    obtain ⟨mov', hmov', hdriven⟩ := ih (heed_movable k hmov)
    refine ⟨mov', hmov', ?_⟩
    obtain ⟨sys, x, id⟩ := k
    by_cases hm : sys = .Movement ∧ x = e
    · obtain ⟨rfl, rfl⟩ := hm
      rw [if_pos (And.intro rfl rfl)] at hdriven
      rw [brought_other _ (by simp), brought_self]
      exact hdriven.stop
    · rw [if_neg hm] at hdriven
      rw [brought_other .Movement hm]
      by_cases hc : sys = .Control ∧ x = e
      · obtain ⟨rfl, rfl⟩ := hc
        rw [if_pos (And.intro rfl rfl)] at hdriven
        rw [brought_self]
        exact hdriven.push
      · rw [if_neg hc] at hdriven
        rw [brought_other .Control hc]
        exact hdriven

lemma calmed_foldl (l : List (System × EntityId × EventID)) {s : C_State}
    (hs : w.getComponent C_State e = some s) :
    { w with entities := l.foldl heed w.entities }.getComponent C_State e =
      some (if EntityEvent.Became_Idle.id ∈ brought .State e l ∧ s.state ≠ .Dying
        then ⟨.Idle⟩ else s) := by
  induction l generalizing w s with
  | nil => simpa [brought] using hs
  | cons k l ih =>
    refine (ih (heed_state k hs)).trans (congrArg some ?_)
    obtain ⟨sys, x, id⟩ := k
    by_cases hk : sys = .State ∧ x = e
    · obtain ⟨rfl, rfl⟩ := hk
      simp only [true_and, if_true, brought_self, List.mem_cons, S_State.answer, event_eq_iff]
      by_cases hd : s.state = .Dying
      · simp [hd]
      by_cases hid : id = EntityEvent.Became_Idle.id
      · simp [hd, hid]
      · simp [hd, hid, Ne.symm hid]
    · rw [if_neg hk, brought_other .State hk]

/-- **What the events do.** In every reachable world, whatever the order in which they are handed
out: the queued pushes add up in the acceleration of whoever `S_Control` holds, a collision ends the
motion along its axis, turns take effect in the order of the queue and up and down only where the
entity has stopped moving sideways, an entity that came to rest is idle unless it is dying, and no
other component of any entity has changed. -/
theorem events_drive [FloorRing F] (S : Setting F) (turns : List (Turn F)) (w : Ecs F)
    (hw : runE (turn S) (new F) turns = .ok w) (systems : List System) (hs : systems.Nodup)
    (hall : ∀ sys, sys ∈ systems) (keys : List EntityId) (hk : keys.Nodup)
    (hkeys : ∀ e, e ∈ keys ↔ e ∈ w.events) :
    ∃ u, handleEvents systems keys w = .ok u ∧
      (∀ e mov, w.getComponent (C_Movable F) e = some mov →
        ∃ mov', u.getComponent (C_Movable F) e = some mov' ∧
          Driven (if w.hasEntity .Control e then queue e w else [])
            (if w.hasEntity .Movement e then queue e w else []) mov mov') ∧
      (∀ e s, w.getComponent C_State e = some s → u.getComponent C_State e =
        some (if EntityEvent.Became_Idle.id ∈ queue e w ∧ s.state ≠ .Dying then ⟨.Idle⟩ else s)) ∧
      ∀ e c, c ≠ .State → c ≠ .Movable → u.getBase e c = w.getBase e c := by
  have hc := consistent_reached hw
  obtain ⟨u, log, hu, hheed, hframed, hrec, -⟩ := handleEvents_heeded hc hs hall hk hkeys
  have hbrought : ∀ sys e, brought sys e (log.map Delivery.key) =
      if w.hasEntity sys e then queue e w else [] := hrec
  refine ⟨u, hu, fun e mov hmov => ?_, fun e s hst => ?_, fun e c h1 h2 => ?_⟩
  · obtain ⟨mov', hmov', hdriven⟩ := driven_foldl (log.map Delivery.key) hmov
    rw [hbrought, hbrought] at hdriven
    rw [← hheed.entities] at hmov'
    exact ⟨mov', hmov', hdriven⟩
  · have hcalm := calmed_foldl (log.map Delivery.key) hst
    rw [hbrought, if_pos (hc.mem_state hst), ← hheed.entities] at hcalm
    exact hcalm
  · exact hframed.other e c fun h => h.elim h1 h2

/-- A racer that turns left and comes to rest. -/
theorem events_drive_race :
    ∃ u mov', handleEvents allSystems [0, 1] racers = .ok u ∧
      u.getComponent (C_Movable ℚ) 0 = some mov' ∧ mov'.direction = .Left ∧
      u.getComponent C_State 0 = some ⟨.Idle⟩ := by
  obtain ⟨u, hu, hmov, hstate, -⟩ := events_drive (Setting.empty ℚ) race racers race_run allSystems
    (by decide) mem_allSystems [0, 1] (by decide) racers_keys
  have hmov₀ : racers.getComponent (C_Movable ℚ) 0 = some .new := by rfl
  have hstate₀ : racers.getComponent C_State 0 = some ⟨.Walking⟩ := by rfl
  obtain ⟨mov', hmov', hdriven⟩ := hmov 0 _ hmov₀
  refine ⟨u, mov', hu, hmov', hdriven.direction.trans ?_, (hstate 0 _ hstate₀).trans ?_⟩
  · decide +kernel
  · rw [if_pos (by decide +kernel)]

end Sfrpg
