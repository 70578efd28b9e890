import Sfrpg.Bounds
import Sfrpg.Candidates

/-!
Tiles that no longer touch the entity.

`mapCollisions` gathers the tiles a box overlaps and then pushes the entity out of one after the
other. It takes the box anew for each tile, but does not ask whether the tile still overlaps it. So
no tile may lie where the box is taken away from it before its turn: each has to reach beyond the
tiles before it, on the side these push to.
-/

namespace Sfrpg

open Lib Lib.Word Ecs

variable {F : Type} [Field F] [LinearOrder F] {pos : C_Position F} {col : C_Collidable F}

namespace S_Collision

/-- A push by what it finds: where the entity is, its box, and the tile. -/
structure Push (F : Type) where
  position : Vector2f F
  box : FloatRect F
  tile : FloatRect F

/-- Where a push leaves the entity. -/
def Push.target (p : Push F) : Vector2f F := pushedTo p.position p.box p.tile

/-- The event of a push. -/
def Push.event (p : Push F) : EntityEvent :=
  if Sideways p.box p.tile then .Colliding_X else .Colliding_Y

/-- The pushes of a pass, in order. -/
def pushes (pos : C_Position F) (col : C_Collidable F) :
    List (CollisionElement F) → List (Push F)
  | [] => []
  | c :: cs => ⟨pos.position, col.aabb, c.tileBounds⟩ ::
      pushes (pushOut pos col c.tileBounds).1 (pushOut pos col c.tileBounds).2.1 cs

/-- No tile has been parted from the entity when its turn comes: a push finds the box over its tile,
and over the tiles of all pushes to come. -/
def NoneParted (ps : List (Push F)) : Prop :=
  (∀ p ∈ ps, p.box.intersects p.tile = true) ∧
    ps.Pairwise fun p q => p.box.intersects q.tile = true

/-- In one direction, a box of `size` at `near` and a tile have a stretch in common. -/
def Crosses (near size tile : F) : Prop :=
  max (min near (near + size)) tile < min (max near (near + size)) (tile + Sheet.Tile_Size)

instance (near size tile : F) : Decidable (Crosses near size tile) :=
  inferInstanceAs (Decidable (_ < _))

/-- The tile `d` lies across the stretch beside the tile `c` to which `c` pushes the box. What the
box lags behind `placed`, where the position would have it, it makes up with the push. -/
def StillMet (box placed c d : FloatRect F) : Prop :=
  if Sideways box c then
    Crosses (beside (xDiff box c) c.left box.width + (placed.left - box.left)) box.width d.left ∧
      Crosses placed.top box.height d.top
  else
    Crosses placed.left box.width d.left ∧
      Crosses (beside (yDiff box c) c.top box.height + (placed.top - box.top)) box.height d.top

instance (box placed c d : FloatRect F) : Decidable (StillMet box placed c d) :=
  inferInstanceAs (Decidable (if Sideways box c then
    Crosses (beside (xDiff box c) c.left box.width + (placed.left - box.left)) box.width d.left ∧
      Crosses placed.top box.height d.top
  else
    Crosses placed.left box.width d.left ∧
      Crosses (beside (yDiff box c) c.top box.height + (placed.top - box.top)) box.height d.top))

/-- No tile takes the box away from a tile after it: not the first from where the entity is, nor any
later one from wherever the tiles before it may have put the entity, over it and those after it. -/
structure Passable (pos : C_Position F) (col : C_Collidable F)
    (tiles : List (CollisionElement F)) : Prop where
  first : ∀ c cs, tiles = c :: cs → ∀ d ∈ cs,
    StillMet col.aabb (col.setPosition pos.position).aabb c.tileBounds d.tileBounds
  later : ∀ before b c after, tiles = before ++ b :: c :: after →
    ∀ v, MayStand pos.position col.aabb col before b.tileBounds v →
      (∀ d ∈ c :: after, (col.setPosition v).aabb.intersects d.tileBounds = true) → ∀ d ∈ after,
        StillMet (col.setPosition v).aabb (col.setPosition v).aabb c.tileBounds d.tileBounds

/-! ### The pushes of a pass -/

lemma pushOut_event (pos : C_Position F) (col : C_Collidable F) (bounds : FloatRect F) :
    (pushOut pos col bounds).2.2 = Push.event ⟨pos.position, col.aabb, bounds⟩ := by
  unfold pushOut Push.event
  by_cases hside : Sideways col.aabb bounds
  · rw [if_pos hside, if_pos (by exact hside)]
  · rw [if_neg hside, if_neg (by exact hside)]

lemma mapCollisions_eq [FloorRing F] (S : Setting F) (pos : C_Position F) (col : C_Collidable F) :
    mapCollisions S pos col = ((pushAll pos col (collisions S col.aabb)).1,
      (pushAll pos col (collisions S col.aabb)).2,
      (pushes pos col (collisions S col.aabb)).map Push.event) := by
  have hfold : ∀ (cs : List (CollisionElement F)) (pos : C_Position F) (col : C_Collidable F)
      (events : List EntityEvent), cs.foldl (fun s c =>
          let pushed := pushOut s.1 s.2.1 c.tileBounds
          (pushed.1, pushed.2.1, s.2.2 ++ [pushed.2.2])) (pos, col, events) =
        ((pushAll pos col cs).1, (pushAll pos col cs).2,
          events ++ (pushes pos col cs).map Push.event) := by
    intro cs
    induction cs with
    | nil => simp [pushAll, pushes]
    | cons c cs ih =>
      intro pos col events
      rw [List.foldl_cons, ih, pushAll, pushes, List.map_cons, ← pushOut_event, List.append_assoc]
      rfl
  exact hfold _ pos col []

lemma mem_pushes {cs : List (CollisionElement F)} {p : Push F} (hp : p ∈ pushes pos col cs) :
    ∃ c ∈ cs, p.tile = c.tileBounds := by
  induction cs generalizing pos col with
  | nil => cases hp
  | cons c cs ih =>
    rcases List.mem_cons.mp hp with rfl | hp
    · exact ⟨c, List.mem_cons_self, rfl⟩
    · obtain ⟨d, hd, htile⟩ := ih hp
      exact ⟨d, List.mem_cons_of_mem c hd, htile⟩

lemma exists_push {cs : List (CollisionElement F)} {d : CollisionElement F} (hd : d ∈ cs) :
    ∃ p ∈ pushes pos col cs, p.tile = d.tileBounds := by
  induction cs generalizing pos col with
  | nil => cases hd
  | cons c cs ih =>
    rcases List.mem_cons.mp hd with rfl | hd
    · exact ⟨_, List.mem_cons_self, rfl⟩
    · obtain ⟨p, hp, htile⟩ := ih hd
      exact ⟨p, List.mem_cons_of_mem _ hp, htile⟩

lemma noneParted_cons {c : CollisionElement F} {cs : List (CollisionElement F)}
    (hmet : ∀ d ∈ c :: cs, col.aabb.intersects d.tileBounds = true)
    (h : NoneParted (pushes (pushOut pos col c.tileBounds).1 (pushOut pos col c.tileBounds).2.1
      cs)) :
    NoneParted (pushes pos col (c :: cs)) := by
  refine ⟨fun p hp => ?_, List.pairwise_cons.mpr ⟨fun q hq => ?_, h.2⟩⟩
  · rcases List.mem_cons.mp hp with rfl | hp
    · exact hmet c List.mem_cons_self
    · exact h.1 p hp
  · obtain ⟨d, hd, htile⟩ := mem_pushes hq
    rw [htile]
    exact hmet d (List.mem_cons_of_mem c hd)

lemma noneParted_fixed {cs : List (CollisionElement F)} {box : FloatRect F}
    (hbox : col.aabb = box) (hfixed : ∀ v, (col.setPosition v).aabb = box)
    (hmet : ∀ d ∈ cs, box.intersects d.tileBounds = true) : NoneParted (pushes pos col cs) := by
  induction cs generalizing pos col with
  | nil => exact ⟨List.forall_mem_nil _, List.Pairwise.nil⟩
  | cons c cs ih =>
    obtain ⟨hpushed, hafter⟩ := pushOut_box pos col c.tileBounds
    refine noneParted_cons (hbox ▸ hmet) (ih (hpushed.trans (hfixed _))
      (fun v => (hafter v).trans (hfixed v)) fun d hd => hmet d (List.mem_cons_of_mem c hd))

omit [LinearOrder F] in
lemma setPosition_fixed (h : ¬ Carried col) (v : Vector2f F) :
    (col.setPosition v).aabb = col.aabb := by
  unfold C_Collidable.setPosition
  rw [if_neg fun ho => h (.inl ho), if_neg fun ho => h (.inr ho)]

section Ordered

variable [IsStrictOrderedRing F]

lemma intersects_iff (box tile : FloatRect F) (hwidth : tile.width = Sheet.Tile_Size)
    (hheight : tile.height = Sheet.Tile_Size) : box.intersects tile = true ↔
      Crosses box.left box.width tile.left ∧ Crosses box.top box.height tile.top := by
  have hedges : ∀ a : F, min a (a + Sheet.Tile_Size) = a ∧
      max a (a + Sheet.Tile_Size) = a + Sheet.Tile_Size :=
    fun a => ⟨min_eq_left (by simp), max_eq_right (by simp)⟩
  rw [FloatRect.intersects, FloatRect.intersection, hwidth, hheight]
  simp only [hedges, Crosses]
  split <;> simp_all

lemma stillMet_iff (hcarried : Carried col) (v : Vector2f F) {box c d : FloatRect F}
    (hsize : box.width = col.aabb.width ∧ box.height = col.aabb.height)
    (hd : d.width = Sheet.Tile_Size ∧ d.height = Sheet.Tile_Size) :
    StillMet box (col.setPosition v).aabb c d ↔
      (col.setPosition (pushedTo v box c)).aabb.intersects d = true := by
  obtain ⟨hwidth, hheight⟩ := setPosition_size (pushedTo v box c) col
  obtain ⟨hleft, htop⟩ := setPosition_moves hcarried (pushedTo v box c) v
  rw [intersects_iff _ _ hd.1 hd.2, hwidth, hheight, ← hsize.1, ← hsize.2]
  by_cases hside : Sideways box c
  · have hto : pushedTo v box c =
        ⟨beside (xDiff box c) c.left box.width - (box.left - v.x), v.y⟩ := if_pos hside
    have hx : (col.setPosition (pushedTo v box c)).aabb.left =
        beside (xDiff box c) c.left box.width + ((col.setPosition v).aabb.left - box.left) := by
      linarith [congrArg Vector2f.x hto]
    have hy : (col.setPosition (pushedTo v box c)).aabb.top = (col.setPosition v).aabb.top := by
      linarith [congrArg Vector2f.y hto]
    rw [hx, hy, StillMet, if_pos hside]
  · have hto : pushedTo v box c =
        ⟨v.x, beside (yDiff box c) c.top box.height - (box.top - v.y)⟩ := if_neg hside
    have hx : (col.setPosition (pushedTo v box c)).aabb.left = (col.setPosition v).aabb.left := by
      linarith [congrArg Vector2f.x hto]
    have hy : (col.setPosition (pushedTo v box c)).aabb.top =
        beside (yDiff box c) c.top box.height + ((col.setPosition v).aabb.top - box.top) := by
      linarith [congrArg Vector2f.y hto]
    rw [hx, hy, StillMet, if_neg hside]

variable {tiles : List (CollisionElement F)}

lemma Passable.noneParted (h : Passable pos col tiles) (hcarried : Carried col)
    (hsizes : ∀ d ∈ tiles, d.tileBounds.width = Sheet.Tile_Size ∧
      d.tileBounds.height = Sheet.Tile_Size)
    (hmet : ∀ d ∈ tiles, col.aabb.intersects d.tileBounds = true) :
    NoneParted (pushes pos col tiles) := by
  have hrest : ∀ (cs before : List (CollisionElement F)) (pos' : C_Position F)
      (col' : C_Collidable F), tiles = before ++ cs →
      Shoved pos.position col.aabb col before pos' col' →
      (∀ d ∈ cs, col'.aabb.intersects d.tileBounds = true) → NoneParted (pushes pos' col' cs) := by
    intro cs
    induction cs with
    | nil => exact fun _ _ _ _ _ _ => ⟨List.forall_mem_nil _, List.Pairwise.nil⟩
    | cons c cs ih =>
      intro before pos' col' htiles hs hmet
      refine noneParted_cons hmet
        (ih (before ++ [c]) _ _ (by simp [htiles]) (hs.push c fun _ => hcarried) ?_)
      intro d hd
      rw [(pushOut_box pos' col' c.tileBounds).1, hs.carries, pushOut_position,
        ← stillMet_iff hcarried _ hs.size (hsizes d (by simp [htiles, hd]))]
      by_cases hnil : before = []
      · obtain ⟨hpos, hbox⟩ := hs.start hnil
        rw [hpos, hbox]
        exact h.first c cs (by rw [htiles, hnil]; rfl) d hd
      · obtain ⟨l, b, rfl⟩ := List.eq_nil_or_concat before |>.resolve_left hnil
        rw [List.concat_eq_append] at htiles hs hnil
        rw [hs.box hnil] at hmet ⊢
        exact h.later l b c cs (by simp [htiles]) _ (hs.stands l b rfl) hmet d hd
  exact hrest tiles [] pos col rfl (shoved_nil fun _ => rfl) hmet

lemma stillMet_of_noneParted {c : CollisionElement F} {cs : List (CollisionElement F)}
    (hcarried : Carried col) (h : NoneParted (pushes pos col (c :: cs)))
    {d : CollisionElement F} (hd : d ∈ cs)
    (hsize : d.tileBounds.width = Sheet.Tile_Size ∧ d.tileBounds.height = Sheet.Tile_Size) :
    StillMet col.aabb (col.setPosition pos.position).aabb c.tileBounds d.tileBounds := by
  rw [stillMet_iff hcarried _ ⟨rfl, rfl⟩ hsize, ← pushOut_position,
    ← (pushOut_box pos col c.tileBounds).1]
  cases cs with
  | nil => cases hd
  | cons d' cs =>
    -- the push out of the second tile finds the box there
    obtain ⟨-, hafter⟩ := List.pairwise_cons.mp h.2
    rcases List.mem_cons.mp hd with rfl | hd
    · exact h.1 ⟨_, _, d.tileBounds⟩ (List.mem_cons_of_mem _ List.mem_cons_self)
    · obtain ⟨q, hq, htile⟩ := exists_push hd
      rw [← htile]
      exact (List.pairwise_cons.mp hafter).1 q hq

variable [FloorRing F]

omit [IsStrictOrderedRing F] in
lemma mem_collisions (S : Setting F) (box : FloatRect F) {c : CollisionElement F}
    (h : c ∈ collisions S box) : (c.tileBounds.width = Sheet.Tile_Size ∧
      c.tileBounds.height = Sheet.Tile_Size) ∧ box.intersects c.tileBounds = true := by
  rw [collisions, (S.sort_perm _).mem_iff, List.mem_flatMap] at h
  obtain ⟨x, -, hx⟩ := h
  obtain ⟨y, -, hy⟩ := List.mem_filterMap.mp hx
  obtain ⟨layer, -, hlayer⟩ := List.exists_of_findSome?_eq_some hy
  split at hlayer
  · cases hlayer
  · rw [Option.ite_none_right_eq_some, Option.some.injEq] at hlayer
    obtain ⟨⟨-, harea⟩, rfl⟩ := hlayer
    refine ⟨⟨rfl, rfl⟩, ?_⟩
    rw [FloatRect.overlap] at harea
    rw [FloatRect.intersects]
    split at harea
    · exact absurd rfl harea
    · next r hr => rw [hr]; rfl

/-- **No tile that the pushes have separated from the entity moves it**, where the tiles its box
overlaps are passable, or `setPosition` never moves the box. For every map, and every entity with
any box, also one that lags behind the entity. And the first tile must not take the box away from
any other, so that one tile or two have to be passable. -/
theorem none_parted_of_passable (S : Setting F) (pos : C_Position F) (col : C_Collidable F) :
    ((Carried col → Passable pos col (collisions S col.aabb)) →
      NoneParted (pushes pos col (collisions S col.aabb))) ∧
    (NoneParted (pushes pos col (collisions S col.aabb)) → Carried col →
      (∀ c cs, collisions S col.aabb = c :: cs → ∀ d ∈ cs,
        StillMet col.aabb (col.setPosition pos.position).aabb c.tileBounds d.tileBounds) ∧
      ((collisions S col.aabb).length ≤ 2 → Passable pos col (collisions S col.aabb))) := by
  have hmem := fun c hc => mem_collisions S col.aabb (c := c) hc
  constructor
  · intro h
    by_cases hcarried : Carried col
    · exact (h hcarried).noneParted hcarried (fun d hd => (hmem d hd).1) fun d hd => (hmem d hd).2
    · exact noneParted_fixed rfl (setPosition_fixed hcarried) fun d hd => (hmem d hd).2
  · intro h hcarried
    have hfirst : ∀ c cs, collisions S col.aabb = c :: cs → ∀ d ∈ cs,
        StillMet col.aabb (col.setPosition pos.position).aabb c.tileBounds d.tileBounds := by
      intro c cs hcs d hd
      have hsize := (hmem d (by rw [hcs]; exact List.mem_cons_of_mem c hd)).1
      rw [hcs] at h
      exact stillMet_of_noneParted hcarried h hd hsize
    refine ⟨hfirst, fun hlen => ⟨hfirst, fun before b c after hcs => ?_⟩⟩
    rw [hcs, List.length_append, List.length_cons, List.length_cons] at hlen
    obtain rfl : after = [] := List.length_eq_zero_iff.mp (by omega)
    exact fun _ _ _ d hd => by cases hd

/-- Solid tiles on three sides of the empty one. -/
def elbow : Setting ℚ :=
  { corner with
    map := ⟨[0, 1, 3].foldl (fun tiles i => tiles.insert i ⟨⟨0, 0, "", false⟩, true, false⟩)
      (∅ : Dict ℕ (Tile ℚ)), ⟨2, 2⟩⟩ }

/-- Someone of width and height 30, at 27, 25. -/
def elbowed : C_Position ℚ × C_Collidable ℚ :=
  (⟨0, ⟨27, 25⟩, 0⟩, ⟨⟨12, 10, 30, 30⟩, 0, .Mid_Bottom, false, false⟩)

/-- The first tile pushes to the right, the next one down, and the third, which is in the way of
both, is still met. -/
theorem none_parted_of_passable_elbow :
    (pushes elbowed.1 elbowed.2 (collisions elbow elbowed.2.aabb)).length = 3 ∧
      NoneParted (pushes elbowed.1 elbowed.2 (collisions elbow elbowed.2.aabb)) := by
  have htiles : collisions elbow elbowed.2.aabb =
      [⟨440, ⟨0, 0, 32, 32⟩⟩, ⟨220, ⟨32, 0, 32, 32⟩⟩, ⟨80, ⟨32, 32, 32, 32⟩⟩] := by
    decide +kernel
  refine ⟨by decide +kernel, (none_parted_of_passable elbow elbowed.1 elbowed.2).1 fun _ => ?_⟩
  rw [htiles]
  constructor
  case first =>
    intro c cs hcs
    cases hcs
    decide +kernel
  case later =>
    intro before b c after hcs v hv hmet
    rcases before with - | ⟨b', - | ⟨b'', before⟩⟩
    · cases hcs
      obtain ⟨x, y⟩ := v
      have hsize : ((Sheet.Tile_Size : ℕ) : ℚ) = 32 := rfl
      simp only [MayStand, BesideX, BesideY, MayLieX, MayLieY, MayLie, Touches, elbowed, hsize,
        List.map_nil, List.isEmpty_nil, if_true, or_false] at hv
      revert hmet
      rcases hv with ⟨hx, rfl⟩ | ⟨rfl, hy⟩
      · have hx : x = 47 ∨ x = -15 := hx.imp (fun h => by linarith) fun h => by linarith
        rcases hx with rfl | rfl
        · decide +kernel
        · decide +kernel
      · have hy : y = 47 ∨ y = -15 := hy.imp (fun h => by linarith) fun h => by linarith
        rcases hy with rfl | rfl
        · decide +kernel
        · decide +kernel
    · cases hcs
      exact fun d hd => by cases hd
    · have hlen := congrArg List.length hcs
      simp only [List.length_append, List.length_cons, List.length_nil] at hlen
      omega

/-- Someone of width 32, with the box at `x`, `y`. -/
def bulky (x y height : ℚ) : C_Position ℚ × C_Collidable ℚ :=
  (⟨0, ⟨x + 16, y + height / 2⟩, 0⟩, ⟨⟨x, y, 32, height⟩, 0, .Mid_Bottom, false, false⟩)

/-- A column with solid tiles in some of its four rows. -/
def column (rows : List ℕ) : Setting ℚ :=
  { corner with
    map := ⟨rows.foldl (fun tiles y => tiles.insert (2 * y) ⟨⟨0, 0, "", false⟩, true, false⟩)
      (∅ : Dict ℕ (Tile ℚ)), ⟨2, 4⟩⟩ }

/-- The tile in the second row pushes the entity to the right, and the one in the fourth, which it
no longer touches, then pushes it up. -/
theorem separated_tile_pushes :
    ∃ p ∈ pushes (bulky 22 4 96).1 (bulky 22 4 96).2
        (collisions (column [1, 3]) (bulky 22 4 96).2.aabb),
      p.box.intersects p.tile = false ∧ p.target ≠ p.position := by
  decide +kernel

end Ordered

end S_Collision

end Sfrpg
