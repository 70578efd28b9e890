import Mathlib.Algebra.Order.Field.Rat
import Sfrpg.Blows

/-!
Where the entities are, and where their boxes are.

The pass of `S_Collision` over an entity puts it back on the map, and then pushes it out of the
solid tiles that its box overlaps. The box is a second copy of the position: it is written where the
position is put back and after every push, and whoever else writes the position leaves it. And the
pushes come last, so one of them can take the entity off the map again (`Sfrpg.Bounds`).
-/

namespace Sfrpg

open Lib Lib.Word Lib.Run Ecs

variable {F : Type} [Field F] [LinearOrder F] [FloorRing F] {w u : Ecs F} {e : EntityId}
  {pos : C_Position F} {col : C_Collidable F}

/-! ### One pass -/

/-- Position and box of an entity, as far as it has them. -/
def spot (e : EntityId) (w : Ecs F) : Option (C_Position F) × Option (C_Collidable F) :=
  (w.getComponent (C_Position F) e, w.getComponent (C_Collidable F) e)

omit [Field F] [LinearOrder F] [FloorRing F] in
lemma spot_eq_of_framed {P : EntityId → Component → Prop} (h : Framed P w u)
    (hposition : ¬ P e .Position) (hcollidable : ¬ P e .Collidable) : spot e u = spot e w := by
  rw [spot, spot, h.get (T := C_Position F) hposition, h.get (T := C_Collidable F) hcollidable]

namespace S_Collision

/-- What a pass makes of position and box. -/
def settle (S : Setting F) (pos : C_Position F) (col : C_Collidable F) :
    C_Position F × C_Collidable F :=
  let p := checkOutOfBounds S.map pos col.resetCollisionFlags
  let q := mapCollisions S p.1 p.2
  (q.1, q.2.1)

def settled (S : Setting F) :
    Option (C_Position F) × Option (C_Collidable F) →
      Option (C_Position F) × Option (C_Collidable F)
  | (some pos, some col) => ((settle S pos col).1, (settle S pos col).2)
  | s => s

omit [Field F] [LinearOrder F] [FloorRing F] in
lemma spot_addEvents (e x : EntityId) (l : List EntityEvent) (w : Ecs F) :
    spot x (l.foldl (fun u event => u.addEvent e event.id) w) = spot x w := by
  induction l generalizing w with
  | nil => rfl
  | cons event l ih => exact ih (w.addEvent e event.id)

lemma updateOne_spot (S : Setting F) (hw : Consistent w) (he : e ∈ w.members .Collision) :
    Post (updateOne S w e) (fun u => Effects (fun x c => x = e ∧ Placed x c) w u ∧
      spot e u = settled S (spot e w)) fun _ => False := by
  obtain ⟨pos, hpos⟩ := hw.get (T := C_Position F) he .Position rfl (by decide)
  obtain ⟨col, hcol⟩ := hw.get (T := C_Collidable F) he .Collidable rfl (by decide)
  obtain ⟨u, hu, heff⟩ := (collision_updateOne_post S hw he).exists_ok
  rw [hu]
  refine ⟨heff, ?_⟩
  rw [updateOne, hpos, hcol] at hu
  simp only [deref_some, ok_bind, if_pos (show w.hasEntity .Collision e from he)] at hu
  cases hu
  rw [spot_addEvents, spot, spot, hpos, hcol, getComponent_setComponent,
    getComponent_setComponent_tag (show Component.Position ≠ .Collidable by decide),
    getComponent_setComponent,
    getComponent_setComponent_tag (show Component.Collidable ≠ .Position by decide), hpos, hcol]
  rfl

lemma place_spot (S : Setting F) (hw : Consistent w) :
    Post ((w.members .Collision).foldlM (updateOne S) w) (fun u => Effects Placed w u ∧
      ∀ e ∈ w.members .Collision, spot e u = settled S (spot e w)) fun _ => False := by
  have hloop : Post ((w.members .Collision).foldlM (updateOne S) w) (fun u => Effects Placed w u ∧
      (∀ e ∈ w.members .Collision, spot e u = settled S (spot e w)) ∧
      ∀ e, e ∉ w.members .Collision → spot e u = spot e w) fun _ => False := by
    refine Post.foldlM_each (hw.nodup .Collision) (fun u e he hu => ?_) .refl
    refine (updateOne_spot S (hu.consistent hw) (by rw [hu.framed.members]; exact he)).imp ?_
    rintro v ⟨hv, hspot⟩
    refine ⟨hu.trans (hv.mono fun _ _ h => h.2), hspot, fun x hx => ?_⟩
    exact spot_eq_of_framed hv.framed (fun h => hx h.1) fun h => hx h.1
  exact hloop.imp fun u hu => ⟨hu.1, hu.2.1⟩

/-- **An update of the collisions** goes well, and settles every member. -/
lemma update_spot (S : Setting F) (hw : Consistent w) :
    ∃ u, update S w = .ok u ∧ u.members = w.members ∧
      ∀ e ∈ w.members .Collision, spot e u = settled S (spot e w) := by
  obtain ⟨v, hv, heff, hsettled⟩ := (place_spot S hw).exists_ok
  obtain ⟨u, hu, hfought⟩ := (entityCollisions_post (heff.consistent hw)).exists_ok
  refine ⟨u, ?_, ?_, fun e he => ?_⟩
  · rw [update, hv, ok_bind, hu]
  · rw [hfought.framed.members, heff.framed.members]
  · rw [← hsettled e he]
    refine spot_eq_of_framed hfought.framed ?_ ?_
    · simp only [Fought]
      decide
    · simp only [Fought]
      decide

/-! ### Boxes in step -/

/-- The box is where `setPosition` would put it. -/
def InStep (pos : C_Position F) (col : C_Collidable F) : Prop :=
  col.aabb.left = (col.setPosition pos.position).aabb.left ∧
    col.aabb.top = (col.setPosition pos.position).aabb.top

omit [LinearOrder F] [FloorRing F] in
lemma setPosition_setPosition (u v : Vector2f F) (col : C_Collidable F) :
    ((col.setPosition u).setPosition v).aabb = (col.setPosition v).aabb := by
  unfold C_Collidable.setPosition
  by_cases htop : col.origin = .Top_Left
  · simp [htop]
  · by_cases hmid : col.origin = .Abs_Centre ∨ col.origin = .Mid_Bottom
    · simp [htop, hmid]
    · simp [htop, hmid]

omit [LinearOrder F] [FloorRing F] in
lemma inStep_setPosition (pos : C_Position F) (col : C_Collidable F) :
    InStep pos (col.setPosition pos.position) := by
  rw [InStep, setPosition_setPosition]
  exact ⟨rfl, rfl⟩

omit [LinearOrder F] [FloorRing F] in
lemma InStep.congr {col' : C_Collidable F} (h : InStep pos col) (hbox : col'.aabb = col.aabb)
    (hoffset : col'.offset = col.offset) (horigin : col'.origin = col.origin) :
    InStep pos col' := by
  have hsame : (col'.setPosition pos.position).aabb = (col.setPosition pos.position).aabb := by
    unfold C_Collidable.setPosition
    rw [horigin]
    split
    · simp [hbox, hoffset]
    · split
      · simp [hbox, hoffset]
      · exact hbox
  rw [InStep, hsame, hbox]
  exact h

omit [FloorRing F] in
lemma pushOut_inStep (pos : C_Position F) (col : C_Collidable F) (bounds : FloatRect F) :
    InStep (pushOut pos col bounds).1 (pushOut pos col bounds).2.1 := by
  unfold pushOut
  dsimp only
  split
  · exact (inStep_setPosition _ col).congr rfl rfl rfl
  · exact (inStep_setPosition _ col).congr rfl rfl rfl

/-- Position and box after the pushes. -/
def pushAll (pos : C_Position F) (col : C_Collidable F) :
    List (CollisionElement F) → C_Position F × C_Collidable F
  | [] => (pos, col)
  | c :: cs => pushAll (pushOut pos col c.tileBounds).1 (pushOut pos col c.tileBounds).2.1 cs

lemma settle_eq (S : Setting F) (pos : C_Position F) (col : C_Collidable F) :
    settle S pos col =
      let p := checkOutOfBounds S.map pos col.resetCollisionFlags
      pushAll p.1 p.2 (collisions S p.2.aabb) := by
  have hfold : ∀ (cs : List (CollisionElement F)) (t : C_Position F × C_Collidable F ×
      List EntityEvent), Prod.map id Prod.fst
        (cs.foldl (fun t c =>
            let r := pushOut t.1 t.2.1 c.tileBounds
            (r.1, r.2.1, t.2.2 ++ [r.2.2])) t) = pushAll t.1 t.2.1 cs := by
    intro cs
    induction cs with
    | nil => exact fun _ => rfl
    | cons c cs ih => exact fun _ => ih _
  exact hfold _ (_, _, [])

omit [FloorRing F] in
lemma pushAll_inStep_iff (cs : List (CollisionElement F)) :
    InStep (pushAll pos col cs).1 (pushAll pos col cs).2 ↔ InStep pos col ∨ cs ≠ [] := by
  induction cs generalizing pos col with
  | nil => simp [pushAll]
  | cons c cs ih =>
    rw [pushAll, ih]
    simp [pushOut_inStep]

/-- Beyond the edges of the map, as `checkOutOfBounds` sees them. -/
def OffMap (map : Map F) (pos : C_Position F) : Prop :=
  (pos.position.x < 0 ∨ (Map.extent map.maxMapSize.x : F) < pos.position.x) ∨
    pos.position.y < 0 ∨ (Map.extent map.maxMapSize.y : F) < pos.position.y

omit [FloorRing F] in
lemma clamped_eq_none_iff (size : ℕ) (x : F) :
    clamped size x = none ↔ ¬ (x < 0 ∨ (Map.extent size : F) < x) := by
  unfold clamped
  split
  · simp_all
  · split
    · simp_all
    · simp_all

omit [FloorRing F] in
lemma checkOutOfBounds_cases (map : Map F) (pos : C_Position F) (col : C_Collidable F) :
    (¬ OffMap map pos ∧ checkOutOfBounds map pos col = (pos, col)) ∨
    (OffMap map pos ∧
      InStep (checkOutOfBounds map pos col).1 (checkOutOfBounds map pos col).2) := by
  have hx := clamped_eq_none_iff map.maxMapSize.x pos.position.x
  have hy := clamped_eq_none_iff map.maxMapSize.y pos.position.y
  unfold checkOutOfBounds OffMap
  cases hcx : clamped map.maxMapSize.x pos.position.x with
  | none =>
    cases hcy : clamped map.maxMapSize.y pos.position.y with
    | none =>
      left
      refine ⟨?_, by simp [hcy]⟩
      rw [not_or]
      exact ⟨hx.mp hcx, hy.mp hcy⟩
    | some y =>
      right
      refine ⟨.inr (by_contra fun h => ?_), ?_⟩
      · rw [hy.mpr h] at hcy
        cases hcy
      · simp only [hcy]
        exact inStep_setPosition _ col
  | some x =>
    right
    refine ⟨.inl (by_contra fun h => ?_), ?_⟩
    · rw [hx.mpr h] at hcx
      cases hcx
    · simp only [C_Position.setPosition]
      cases clamped map.maxMapSize.y pos.position.y with
      | none => exact inStep_setPosition _ col
      | some y => exact inStep_setPosition _ _

/-- **When a pass leaves the box in step**: it was, or it is written on the way. -/
lemma settle_inStep_iff (S : Setting F) (pos : C_Position F) (col : C_Collidable F) :
    InStep (settle S pos col).1 (settle S pos col).2 ↔
      InStep pos col ∨ OffMap S.map pos ∨ collisions S col.aabb ≠ [] := by
  rw [settle_eq, pushAll_inStep_iff]
  rcases checkOutOfBounds_cases S.map pos col.resetCollisionFlags with ⟨hon, heq⟩ | ⟨hoff, hin⟩
  · rw [heq]
    have hflags : InStep pos col.resetCollisionFlags ↔ InStep pos col :=
      ⟨fun h => h.congr rfl rfl rfl, fun h => h.congr rfl rfl rfl⟩
    rw [hflags]
    simp [hon, C_Collidable.resetCollisionFlags]
  · simp [hoff, hin]

end S_Collision

open S_Collision

/-- The entity has its box where it is. -/
def Boxed (e : EntityId) (w : Ecs F) : Prop :=
  ∃ pos col, spot e w = (some pos, some col) ∧ InStep pos col

/-- The box is in step, or the next pass writes it: the entity is off the map, or its box overlaps
a solid tile. -/
def Refreshed (S : Setting F) (e : EntityId) (w : Ecs F) : Prop :=
  ∃ pos col, spot e w = (some pos, some col) ∧
    (InStep pos col ∨ OffMap S.map pos ∨ collisions S col.aabb ≠ [])

omit [Field F] [LinearOrder F] [FloorRing F] in
lemma Ecs.Consistent.spot (hw : Consistent w) (he : e ∈ w.members .Collision) :
    ∃ pos col, spot e w = (some pos, some col) := by
  obtain ⟨pos, hpos⟩ := hw.get (T := C_Position F) he .Position rfl (by decide)
  obtain ⟨col, hcol⟩ := hw.get (T := C_Collidable F) he .Collidable rfl (by decide)
  exact ⟨pos, col, by rw [Sfrpg.spot, hpos, hcol]⟩

lemma update_members_iff (S : Setting F) (hw : Consistent w) {A B : EntityId → Ecs F → Prop}
    (h : ∀ u e pos col, spot e w = (some pos, some col) →
      spot e u = (some (settle S pos col).1, some (settle S pos col).2) → (A e u ↔ B e w)) :
    (∀ u, S_Collision.update S w = .ok u → ∀ e ∈ u.members .Collision, A e u) ↔
      ∀ e ∈ w.members .Collision, B e w := by
  obtain ⟨u, hu, hmem, hsettled⟩ := update_spot S hw
  have hiff : ∀ e ∈ w.members .Collision, A e u ↔ B e w := by
    intro e he
    obtain ⟨pos, col, hspot⟩ := hw.spot he
    have hafter := hsettled e he
    rw [hspot] at hafter
    exact h u e pos col hspot hafter
  constructor
  · intro hall e he
    exact (hiff e he).mp (hall u hu e (by rw [hmem]; exact he))
  · intro hall v hv e he
    rw [hu] at hv
    cases hv
    rw [hmem] at he
    exact (hiff e he).mpr (hall e he)

/-- A run in which every update of the collisions leaves the members in `A` is one in which each
finds them in `B`. -/
lemma along_collisions_iff (S : Setting F) {A B : EntityId → Ecs F → Prop}
    (h : ∀ w u e pos col, spot e w = (some pos, some col) →
      spot e u = (some (settle S pos col).1, some (settle S pos col).2) → (A e u ↔ B e w))
    (turns : List (Turn F)) :
    AlongE (turn S) (fun w i => ∀ dT, i = .update .Collision dT → ∀ u, turn S w i = .ok u →
        ∀ e ∈ u.members .Collision, A e u) (new F) turns ↔
      AlongE (turn S) (fun w i => ∀ dT, i = .update .Collision dT →
        ∀ e ∈ w.members .Collision, B e w) (new F) turns := by
  have hkeep : ∀ (w : Ecs F) i u, Consistent w → turn S w i = .ok u → Consistent u :=
    fun w i u hw hu => consistent_turn S hw hu
  have hstep : ∀ (w : Ecs F), Consistent w →
      ((∀ u, S_Collision.update S w = .ok u → ∀ e ∈ u.members .Collision, A e u) ↔
        ∀ e ∈ w.members .Collision, B e w) :=
    fun w hw => update_members_iff S hw fun u e pos col => h w u e pos col
  constructor
  · refine AlongE.imp (fun w i u hw _ hu => hkeep w i u hw hu) ?_ consistent_new
    rintro w i hw hall dT rfl
    exact (hstep w hw).mp (hall dT rfl)
  · refine AlongE.imp (fun w i u hw _ hu => hkeep w i u hw hu) ?_ consistent_new
    rintro w i hw hall dT rfl
    exact (hstep w hw).mpr (hall dT rfl)

/-- **Boxes in step.** In every run, each update of the collisions leaves the box of every member
where its position puts it exactly if each finds every member with its box in step, or off the map,
or with its box on a solid tile. -/
theorem boxes_in_step_iff (S : Setting F) (turns : List (Turn F)) :
    AlongE (turn S) (fun w i => ∀ dT, i = .update .Collision dT → ∀ u, turn S w i = .ok u →
        ∀ e ∈ u.members .Collision, Boxed e u) (new F) turns ↔
      AlongE (turn S) (fun w i => ∀ dT, i = .update .Collision dT →
        ∀ e ∈ w.members .Collision, Refreshed S e w) (new F) turns := by
  refine along_collisions_iff S (fun w u e pos col hw hu => ?_) turns
  constructor
  · rintro ⟨pos', col', hspot, hin⟩
    rw [hu] at hspot
    cases hspot
    exact ⟨pos, col, hw, (settle_inStep_iff S pos col).mp hin⟩
  · rintro ⟨pos', col', hspot, hcase⟩
    rw [hw] at hspot
    cases hspot
    exact ⟨_, _, hu, (settle_inStep_iff S pos col).mpr hcase⟩

/-- Someone with a box who walks a step to the right on an empty map. -/
def stroll : List (Turn ℚ) :=
  [.store (.addEntity ⟨.Idle, 1, 1, false⟩ ((((Bitmask.empty.turnOnBit
      Component.State.id).turnOnBit Component.Movable.id).turnOnBit
      Component.Position.id).turnOnBit Component.Collidable.id) (-1)),
    .write 0 (.movable ⟨⟨1, 0⟩, 1, ⟨1, 1⟩, 0, .Right⟩), .update .Movement 16,
    .update .Collision 16]

/-- The box is left behind. -/
theorem box_left_behind :
    ∃ u, runE (turn (Setting.empty ℚ)) (new ℚ) stroll = .ok u ∧ 0 ∈ u.members .Collision ∧
      ¬ Boxed 0 u := by
  refine ⟨reached (turn (Setting.empty ℚ)) (new ℚ) stroll, runE_reached (by decide +kernel),
    by decide +kernel, ?_⟩
  rintro ⟨pos, col, hspot, hleft, -⟩
  obtain ⟨hpos, hcol⟩ := Prod.mk.inj hspot
  have hone : ((reached (turn (Setting.empty ℚ)) (new ℚ) stroll).getComponent
      (C_Position ℚ) 0).map (fun p => p.position) = some ⟨1, 0⟩ := by decide +kernel
  have hbox : ((reached (turn (Setting.empty ℚ)) (new ℚ) stroll).getComponent
      (C_Collidable ℚ) 0).map (fun c => (c.aabb.left, (c.setPosition ⟨1, 0⟩).aabb.left)) =
      some (0, 1) := by decide +kernel
  rw [hpos, Option.map_some, Option.some.injEq] at hone
  rw [hcol, Option.map_some, Option.some.injEq, Prod.mk.injEq] at hbox
  rw [hone, hbox.1, hbox.2] at hleft
  exact absurd hleft (by decide)

end Sfrpg
