import Mathlib.Tactic.Linarith
import Sfrpg.Boxes

/-!
Who is on the map.

The pass of `S_Collision` puts an entity back on the map, and then lets every solid tile its box
overlaps push it to one of its sides. Beside a tile near the edge the box may stretch so far that
the entity itself is off the map, and nothing puts it back again. So a pass is safe where each tile
has room on the side it pushes to, from wherever the tiles before it may have put the entity.
-/

namespace Sfrpg

open Lib Lib.Word Lib.Run Ecs

variable {F : Type} [Field F] [LinearOrder F] [FloorRing F] {w u : Ecs F} {e : EntityId}
  {pos : C_Position F} {col : C_Collidable F}

namespace S_Collision

/-! ### Pushes -/

/-- From the centre of the tile to that of the box. -/
def xDiff (box tile : FloatRect F) : F :=
  (box.left + box.width / 2) - (tile.left + tile.width / 2)

def yDiff (box tile : FloatRect F) : F :=
  (box.top + box.height / 2) - (tile.top + tile.height / 2)

/-- The tile pushes the box along the x axis. -/
def Sideways (box tile : FloatRect F) : Prop := |yDiff box tile| < |xDiff box tile|

instance (box tile : FloatRect F) : Decidable (Sideways box tile) :=
  inferInstanceAs (Decidable (_ < _))

/-- Where the box comes to lie in one direction: behind the tile, or before it. -/
def beside (diff tile size : F) : F := if 0 < diff then tile + Sheet.Tile_Size else tile - size

/-- Where the tile pushes an entity at `v` with that box. -/
def pushedTo (v : Vector2f F) (box tile : FloatRect F) : Vector2f F :=
  if Sideways box tile then ⟨beside (xDiff box tile) tile.left box.width - (box.left - v.x), v.y⟩
  else ⟨v.x, beside (yDiff box tile) tile.top box.height - (box.top - v.y)⟩

omit [FloorRing F] in
lemma resolve_eq (diff tile x near size : F) :
    (x + if 0 < diff then tile + (Sheet.Tile_Size : F) - near else -(near + size - tile)) =
      beside diff tile size - (near - x) := by
  unfold beside
  split <;> ring

omit [FloorRing F] in
lemma pushOut_position (pos : C_Position F) (col : C_Collidable F) (bounds : FloatRect F) :
    (pushOut pos col bounds).1.position = pushedTo pos.position col.aabb bounds := by
  unfold pushOut pushedTo
  by_cases hside : Sideways col.aabb bounds
  · rw [if_pos hside, if_pos (by exact hside)]
    ext
    · exact resolve_eq _ _ _ _ _
    · exact add_zero _
  · rw [if_neg hside, if_neg (by exact hside)]
    ext
    · exact add_zero _
    · exact resolve_eq _ _ _ _ _

/-! ### Boxes that are carried along -/

/-- The origin is one that `setPosition` knows, so the box goes where the position goes. -/
def Carried (col : C_Collidable F) : Prop :=
  col.origin = .Top_Left ∨ col.origin = .Abs_Centre ∨ col.origin = .Mid_Bottom

section Boxes

omit [LinearOrder F] [FloorRing F]

lemma setPosition_flags (v : Vector2f F) (col : C_Collidable F) :
    (col.collideOnX.setPosition v).aabb = (col.setPosition v).aabb ∧
      (col.collideOnY.setPosition v).aabb = (col.setPosition v).aabb ∧
      (col.resetCollisionFlags.setPosition v).aabb = (col.setPosition v).aabb := by
  unfold C_Collidable.setPosition C_Collidable.collideOnX C_Collidable.collideOnY
    C_Collidable.resetCollisionFlags
  dsimp only
  split
  · exact ⟨rfl, rfl, rfl⟩
  · split
    · exact ⟨rfl, rfl, rfl⟩
    · exact ⟨rfl, rfl, rfl⟩

lemma setPosition_size (v : Vector2f F) (col : C_Collidable F) :
    (col.setPosition v).aabb.width = col.aabb.width ∧
      (col.setPosition v).aabb.height = col.aabb.height := by
  unfold C_Collidable.setPosition
  split
  · exact ⟨rfl, rfl⟩
  · split
    · exact ⟨rfl, rfl⟩
    · exact ⟨rfl, rfl⟩

lemma setPosition_moves (h : Carried col) (u v : Vector2f F) :
    (col.setPosition u).aabb.left - u.x = (col.setPosition v).aabb.left - v.x ∧
      (col.setPosition u).aabb.top - u.y = (col.setPosition v).aabb.top - v.y := by
  unfold C_Collidable.setPosition
  by_cases htop : col.origin = .Top_Left
  · simp only [if_pos htop]
    exact ⟨by ring, by ring⟩
  · simp only [if_neg htop, if_pos (h.resolve_left htop)]
    exact ⟨by ring, by ring⟩

end Boxes

omit [FloorRing F] in
lemma pushOut_box (pos : C_Position F) (col : C_Collidable F) (bounds : FloatRect F) :
    (pushOut pos col bounds).2.1.aabb =
        (col.setPosition (pushOut pos col bounds).1.position).aabb ∧
      ∀ v, ((pushOut pos col bounds).2.1.setPosition v).aabb = (col.setPosition v).aabb := by
  unfold pushOut
  dsimp only
  split
  · exact ⟨rfl, fun v => (setPosition_flags v _).1.trans (setPosition_setPosition _ v col)⟩
  · exact ⟨rfl, fun v => (setPosition_flags v _).2.1.trans (setPosition_setPosition _ v col)⟩

/-! ### Where a pass begins -/

/-- Within the map, the edges included. -/
def Within (map : Map F) (v : Vector2f F) : Prop :=
  (0 ≤ v.x ∧ v.x ≤ map.maxMapSize.x * Sheet.Tile_Size) ∧
    0 ≤ v.y ∧ v.y ≤ map.maxMapSize.y * Sheet.Tile_Size

/-- Put back on the map, where it is beyond an edge. -/
def putBack (map : Map F) (v : Vector2f F) : Vector2f F :=
  ⟨(clamped map.maxMapSize.x v.x).getD v.x, (clamped map.maxMapSize.y v.y).getD v.y⟩

/-- The box there: the one it has, unless the entity has been put back. -/
def boxBack (map : Map F) (pos : C_Position F) (col : C_Collidable F) : FloatRect F :=
  (if putBack map pos.position = pos.position then col
    else col.setPosition (putBack map pos.position)).aabb

/-- The solid tiles a pass pushes the entity out of. -/
def walls (S : Setting F) (pos : C_Position F) (col : C_Collidable F) :
    List (CollisionElement F) :=
  collisions S (boxBack S.map pos col)

omit [FloorRing F] in
lemma clamped_ne {size : ℕ} {x y : F} (h : clamped size x = some y) : y ≠ x := by
  unfold clamped at h
  split at h
  · next hneg =>
    cases h
    exact hneg.ne'
  · split at h
    · next hlt =>
      cases h
      exact hlt.ne
    · cases h

omit [FloorRing F] in
lemma checkOutOfBounds_eq (map : Map F) (pos : C_Position F) (col : C_Collidable F) :
    (checkOutOfBounds map pos col).1.position = putBack map pos.position ∧
      (checkOutOfBounds map pos col).2.aabb = boxBack map pos col ∧
      ∀ v, ((checkOutOfBounds map pos col).2.setPosition v).aabb = (col.setPosition v).aabb := by
  unfold checkOutOfBounds boxBack putBack
  cases hx : clamped map.maxMapSize.x pos.position.x with
  | none =>
    dsimp only
    cases hy : clamped map.maxMapSize.y pos.position.y with
    | none =>
      rw [if_pos (by rfl)]
      exact ⟨rfl, rfl, fun _ => rfl⟩
    | some y =>
      rw [if_neg fun h => clamped_ne hy (congrArg Vector2f.y h)]
      exact ⟨rfl, rfl, fun v => setPosition_setPosition _ v col⟩
  | some x =>
    rw [if_neg fun h => clamped_ne hx (congrArg Vector2f.x h)]
    simp only [C_Position.setPosition]
    cases clamped map.maxMapSize.y pos.position.y with
    | none => exact ⟨rfl, rfl, fun v => setPosition_setPosition _ v col⟩
    | some y =>
      refine ⟨rfl, setPosition_setPosition _ _ col, fun v => ?_⟩
      rw [setPosition_setPosition, setPosition_setPosition]

/-! ### Room -/

/-- An entity at `x` with its box at `box` has room on a map of `size` tiles when the box has come
to lie at `near`. -/
def Room (size : ℕ) (x box near : F) : Prop :=
  box - x ≤ near ∧ near ≤ size * Sheet.Tile_Size + (box - x)

/-- The tile leaves room between itself and the edge, on the side it pushes the box to. -/
def Spacious (map : Map F) (v : Vector2f F) (box tile : FloatRect F) : Prop :=
  if Sideways box tile then
    Room map.maxMapSize.x v.x box.left (beside (xDiff box tile) tile.left box.width)
  else Room map.maxMapSize.y v.y box.top (beside (yDiff box tile) tile.top box.height)

instance (size : ℕ) (x box near : F) : Decidable (Room size x box near) :=
  inferInstanceAs (Decidable (_ ∧ _))

instance (map : Map F) (v : Vector2f F) (box tile : FloatRect F) :
    Decidable (Spacious map v box tile) :=
  inferInstanceAs (Decidable (if Sideways box tile then
    Room map.maxMapSize.x v.x box.left (beside (xDiff box tile) tile.left box.width)
  else Room map.maxMapSize.y v.y box.top (beside (yDiff box tile) tile.top box.height)))

/-- At `x`, a box of `size` that begins `off` further on touches the tile from outside. -/
def Touches (size off tile x : F) : Prop := x + off = tile + Sheet.Tile_Size ∨ x + off = tile - size

/-- Where, in one direction, the tiles may have put an entity that was at `x₀`: it is still there,
or beside one of them. Before the first push its box begins `raw` further on, and then `off`. -/
def MayLie (size raw off x₀ : F) (tiles : List F) (x : F) : Prop :=
  x = x₀ ∨ match tiles with
    | [] => False
    | tile :: tiles => Touches size raw tile x ∨ ∃ t ∈ tiles, Touches size off t x

section Places

variable (v₀ : Vector2f F) (box₀ : FloatRect F) (col : C_Collidable F)
  (tiles : List (CollisionElement F)) (last : FloatRect F)

/-- Where on the x axis the tiles may have put an entity that was at `v₀` with its box at `box₀`. -/
def MayLieX (x : F) : Prop :=
  MayLie col.aabb.width (box₀.left - v₀.x) ((col.setPosition v₀).aabb.left - v₀.x) v₀.x
    (tiles.map fun c => c.tileBounds.left) x

def MayLieY (y : F) : Prop :=
  MayLie col.aabb.height (box₀.top - v₀.y) ((col.setPosition v₀).aabb.top - v₀.y) v₀.y
    (tiles.map fun c => c.tileBounds.top) y

/-- Beside the tile `last`, which comes after the others. -/
def BesideX (x : F) : Prop :=
  Touches col.aabb.width
    (if tiles.isEmpty then box₀.left - v₀.x else (col.setPosition v₀).aabb.left - v₀.x) last.left x

def BesideY (y : F) : Prop :=
  Touches col.aabb.height
    (if tiles.isEmpty then box₀.top - v₀.y else (col.setPosition v₀).aabb.top - v₀.y) last.top y

/-- Where the tiles, and then `last`, may have put the entity: beside `last` along one axis, and
along the other wherever the tiles before it have. -/
def MayStand (v : Vector2f F) : Prop :=
  BesideX v₀ box₀ col tiles last v.x ∧ MayLieY v₀ box₀ col tiles v.y ∨
    MayLieX v₀ box₀ col tiles v.x ∧ BesideY v₀ box₀ col tiles last v.y

end Places

/-- Every solid tile that the box overlaps has room on the side it pushes to: the first from where
the entity is, and each later one from wherever on the map the tiles before it may have put it. -/
structure Roomy (S : Setting F) (pos : C_Position F) (col : C_Collidable F) : Prop where
  first : ∀ c cs, walls S pos col = c :: cs →
    Spacious S.map (putBack S.map pos.position) (boxBack S.map pos col) c.tileBounds
  later : ∀ before b c after, walls S pos col = before ++ b :: c :: after →
    Carried col ∧ ∀ v, Within S.map v →
      MayStand (putBack S.map pos.position) (boxBack S.map pos col) col before b.tileBounds v →
        Spacious S.map v (col.setPosition v).aabb c.tileBounds

section Lie

variable {size raw off x₀ x : F} {tiles : List F}

omit [LinearOrder F] [FloorRing F]

lemma MayLie.concat (h : MayLie size raw off x₀ tiles x) (t : F) :
    MayLie size raw off x₀ (tiles ++ [t]) x := by
  refine h.imp_right fun h => ?_
  cases tiles with
  | nil => exact h.elim
  | cons tile tiles =>
    refine h.imp_right ?_
    rintro ⟨t', ht', htouch⟩
    exact ⟨t', by simp [ht'], htouch⟩

lemma mayLie_touches {t : F} (h : Touches size (if tiles.isEmpty then raw else off) t x) :
    MayLie size raw off x₀ (tiles ++ [t]) x := by
  refine .inr ?_
  cases tiles with
  | nil => exact .inl h
  | cons tile tiles => exact .inr ⟨t, by simp, h⟩

end Lie

omit [FloorRing F] in
lemma touches_beside (diff tile size off : F) :
    Touches size off tile (beside diff tile size - off) := by
  rw [Touches, sub_add_cancel, beside]
  split
  · exact .inl rfl
  · exact .inr rfl

/-! ### The pushes of a pass -/

/-- Where the tiles in `before` have put an entity that was at `v₀` with its box at `box₀`: it is at
`pos'`, and its box at `col'`. -/
structure Shoved (v₀ : Vector2f F) (box₀ : FloatRect F) (col : C_Collidable F)
    (before : List (CollisionElement F)) (pos' : C_Position F) (col' : C_Collidable F) : Prop where
  liesX : MayLieX v₀ box₀ col before pos'.position.x
  liesY : MayLieY v₀ box₀ col before pos'.position.y
  stands : ∀ l b, before = l ++ [b] → MayStand v₀ box₀ col l b.tileBounds pos'.position
  start : before = [] → pos'.position = v₀ ∧ col'.aabb = box₀
  box : before ≠ [] → col'.aabb = (col.setPosition pos'.position).aabb
  carries : ∀ v, (col'.setPosition v).aabb = (col.setPosition v).aabb

section Shoves

omit [FloorRing F]

variable {v₀ : Vector2f F} {box₀ : FloatRect F} {before : List (CollisionElement F)}
  {pos' : C_Position F} {col' : C_Collidable F}

omit [LinearOrder F] in
lemma shoved_nil (hcarries : ∀ v, (col'.setPosition v).aabb = (col.setPosition v).aabb) :
    Shoved pos'.position col'.aabb col [] pos' col' where
  liesX := .inl rfl
  liesY := .inl rfl
  stands l b h := by simp at h
  start _ := ⟨rfl, rfl⟩
  box h := absurd rfl h
  carries := hcarries

omit [LinearOrder F] in
lemma Shoved.size (h : Shoved v₀ box₀ col before pos' col') :
    col'.aabb.width = col.aabb.width ∧ col'.aabb.height = col.aabb.height := by
  have hown := setPosition_size pos'.position col'
  have hcol := setPosition_size pos'.position col
  rw [h.carries] at hown
  exact ⟨hown.1.symm.trans hcol.1, hown.2.symm.trans hcol.2⟩

omit [LinearOrder F] in
lemma Shoved.offset (h : Shoved v₀ box₀ col before pos' col')
    (hcarried : before ≠ [] → Carried col) :
    col'.aabb.left - pos'.position.x = (if before.isEmpty then box₀.left - v₀.x
        else (col.setPosition v₀).aabb.left - v₀.x) ∧
      col'.aabb.top - pos'.position.y = if before.isEmpty then box₀.top - v₀.y
        else (col.setPosition v₀).aabb.top - v₀.y := by
  cases before with
  | nil =>
    obtain ⟨hp, hb⟩ := h.start rfl
    rw [hp, hb]
    exact ⟨rfl, rfl⟩
  | cons b before =>
    rw [h.box (List.cons_ne_nil b before)]
    exact setPosition_moves (hcarried (List.cons_ne_nil b before)) _ _

lemma Shoved.push (h : Shoved v₀ box₀ col before pos' col') (c : CollisionElement F)
    (hcarried : before ≠ [] → Carried col) :
    Shoved v₀ box₀ col (before ++ [c]) (pushOut pos' col' c.tileBounds).1
      (pushOut pos' col' c.tileBounds).2.1 := by
  obtain ⟨hbox, hcarries⟩ := pushOut_box pos' col' c.tileBounds
  have hto := pushOut_position pos' col' c.tileBounds
  obtain ⟨hwidth, hheight⟩ := h.size
  obtain ⟨hoffx, hoffy⟩ := h.offset hcarried
  have hx : Sideways col'.aabb c.tileBounds → BesideX v₀ box₀ col before c.tileBounds
      (pushedTo pos'.position col'.aabb c.tileBounds).x ∧
      (pushedTo pos'.position col'.aabb c.tileBounds).y = pos'.position.y := by
    intro hside
    rw [pushedTo, if_pos hside, BesideX, ← hoffx, ← hwidth]
    exact ⟨touches_beside _ _ _ _, rfl⟩
  have hy : ¬ Sideways col'.aabb c.tileBounds → BesideY v₀ box₀ col before c.tileBounds
      (pushedTo pos'.position col'.aabb c.tileBounds).y ∧
      (pushedTo pos'.position col'.aabb c.tileBounds).x = pos'.position.x := by
    intro hside
    rw [pushedTo, if_neg hside, BesideY, ← hoffy, ← hheight]
    exact ⟨touches_beside _ _ _ _, rfl⟩
  constructor
  case liesX =>
    rw [hto, MayLieX, List.map_append]
    by_cases hside : Sideways col'.aabb c.tileBounds
    · exact mayLie_touches (by simpa [BesideX] using (hx hside).1)
    · rw [(hy hside).2]
      exact h.liesX.concat _
  case liesY =>
    rw [hto, MayLieY, List.map_append]
    by_cases hside : Sideways col'.aabb c.tileBounds
    · rw [(hx hside).2]
      exact h.liesY.concat _
    · exact mayLie_touches (by simpa [BesideY] using (hy hside).1)
  case stands =>
    intro l b hl
    obtain ⟨rfl, hb⟩ := List.append_inj' hl rfl
    obtain rfl := (List.cons.inj hb).1
    rw [hto]
    by_cases hside : Sideways col'.aabb c.tileBounds
    · exact .inl ⟨(hx hside).1, (hx hside).2 ▸ h.liesY⟩
    · exact .inr ⟨(hy hside).2 ▸ h.liesX, (hy hside).1⟩
  case start => exact fun hnil => absurd hnil (by simp)
  case box => exact fun _ => hbox.trans (h.carries _)
  case carries => exact fun v => (hcarries v).trans (h.carries v)

end Shoves

lemma settle_walls (S : Setting F) (pos : C_Position F) (col : C_Collidable F) :
    ∃ pos' col', settle S pos col = pushAll pos' col' (walls S pos col) ∧
      Shoved (putBack S.map pos.position) (boxBack S.map pos col) col [] pos' col' := by
  obtain ⟨hpos, hbox, hcarries⟩ := checkOutOfBounds_eq S.map pos col.resetCollisionFlags
  have hflags : boxBack S.map pos col.resetCollisionFlags = boxBack S.map pos col := by
    unfold boxBack
    split
    · rfl
    · exact (setPosition_flags _ col).2.2
  rw [hflags] at hbox
  refine ⟨_, _, ?_, hpos ▸ hbox ▸ shoved_nil fun v =>
    (hcarries v).trans (setPosition_flags v col).2.2⟩
  rw [settle_eq, walls, ← hbox]

section Ordered

variable [IsStrictOrderedRing F]

omit [FloorRing F] in
lemma extent_le (size : ℕ) : (Map.extent size : F) ≤ size * Sheet.Tile_Size := by
  have hmod : Map.extent size ≤ size * Sheet.Tile_Size := Nat.mod_le _ _
  exact_mod_cast hmod

omit [FloorRing F] in
lemma clamped_mem (size : ℕ) (x : F) :
    0 ≤ (clamped size x).getD x ∧ (clamped size x).getD x ≤ size * Sheet.Tile_Size := by
  have hle := extent_le (F := F) size
  have h0 : (0 : F) ≤ Map.extent size := Nat.cast_nonneg _
  unfold clamped
  split
  · exact ⟨le_refl 0, h0.trans hle⟩
  · next hpos =>
    split
    · exact ⟨h0, hle⟩
    · next hin => exact ⟨not_lt.mp hpos, (not_lt.mp hin).trans hle⟩

omit [FloorRing F] in
lemma room_iff {size : ℕ} {x box near : F} :
    Room size x box near ↔
      0 ≤ near - (box - x) ∧ near - (box - x) ≤ size * Sheet.Tile_Size := by
  unfold Room
  constructor
  · rintro ⟨h1, h2⟩
    exact ⟨by linarith, by linarith⟩
  · rintro ⟨h1, h2⟩
    exact ⟨by linarith, by linarith⟩

omit [FloorRing F] in
lemma spacious_iff {map : Map F} {v : Vector2f F} (hv : Within map v) (box tile : FloatRect F) :
    Spacious map v box tile ↔ Within map (pushedTo v box tile) := by
  unfold Spacious pushedTo
  split
  · rw [room_iff]
    exact ⟨fun h => ⟨h, hv.2⟩, fun h => h.1⟩
  · rw [room_iff]
    exact ⟨fun h => ⟨hv.1, h⟩, fun h => h.2⟩

lemma settle_within (S : Setting F) (h : Roomy S pos col) :
    Within S.map (settle S pos col).1.position := by
  have hrest : ∀ (cs before : List (CollisionElement F)) (pos' : C_Position F)
      (col' : C_Collidable F), walls S pos col = before ++ cs → Within S.map pos'.position →
      Shoved (putBack S.map pos.position) (boxBack S.map pos col) col before pos' col' →
      Within S.map (pushAll pos' col' cs).1.position := by
    intro cs
    induction cs with
    | nil => exact fun _ _ _ _ hin _ => hin
    | cons c cs ih =>
      intro before pos' col' hcs hin hs
      have hlast : before ≠ [] → Carried col ∧
          Spacious S.map pos'.position (col.setPosition pos'.position).aabb c.tileBounds := by
        intro hne
        obtain ⟨l, b, rfl⟩ := List.eq_nil_or_concat before |>.resolve_left hne
        rw [List.concat_eq_append] at hcs hs
        obtain ⟨hcarried, hall⟩ := h.later l b c cs (by rw [hcs]; simp)
        exact ⟨hcarried, hall _ hin (hs.stands l b rfl)⟩
      have hroom : Spacious S.map pos'.position col'.aabb c.tileBounds := by
        by_cases hnil : before = []
        · obtain ⟨hp, hb⟩ := hs.start hnil
          rw [hp, hb]
          exact h.first c cs (by rw [hcs, hnil]; rfl)
        · rw [hs.box hnil]
          exact (hlast hnil).2
      refine ih (before ++ [c]) _ _ (by rw [hcs]; simp) ?_ (hs.push c fun hne => (hlast hne).1)
      rw [pushOut_position]
      exact (spacious_iff hin _ _).mp hroom
  obtain ⟨pos', col', heq, hs⟩ := settle_walls S pos col
  rw [heq]
  refine hrest (walls S pos col) [] pos' col' rfl ?_ hs
  rw [(hs.start rfl).1]
  exact ⟨clamped_mem _ _, clamped_mem _ _⟩

lemma roomy_of_single (S : Setting F) (hsingle : (walls S pos col).length ≤ 1)
    (h : Within S.map (settle S pos col).1.position) : Roomy S pos col := by
  constructor
  case first =>
    intro c cs hcs
    obtain rfl : cs = [] := by
      rw [hcs, List.length_cons] at hsingle
      exact List.length_eq_zero_iff.mp (by omega)
    obtain ⟨pos', col', heq, hs⟩ := settle_walls S pos col
    obtain ⟨hpos, hbox⟩ := hs.start rfl
    rw [heq, hcs, pushAll, pushAll, pushOut_position, hpos, hbox] at h
    exact (spacious_iff ⟨clamped_mem _ _, clamped_mem _ _⟩ _ _).mpr h
  case later =>
    intro before b c after hsplit
    rw [hsplit, List.length_append, List.length_cons, List.length_cons] at hsingle
    omega

end Ordered

end S_Collision

open S_Collision

/-- The entity is on the map, and `movementStep` looks up no tile at a negative coordinate. -/
def Inside (S : Setting F) (e : EntityId) (w : Ecs F) : Prop :=
  ∃ pos col, spot e w = (some pos, some col) ∧ Within S.map pos.position ∧
    0 ≤ ⌊pos.position.x / Sheet.Tile_Size⌋ ∧ 0 ≤ ⌊pos.position.y / Sheet.Tile_Size⌋

/-- The solid tiles around the entity leave it room on the map. -/
def HasRoom (S : Setting F) (e : EntityId) (w : Ecs F) : Prop :=
  ∃ pos col, spot e w = (some pos, some col) ∧ Roomy S pos col

/-- Its box overlaps one solid tile at the most. -/
def SingleWall (S : Setting F) (e : EntityId) (w : Ecs F) : Prop :=
  ∀ pos col, spot e w = (some pos, some col) → (walls S pos col).length ≤ 1

variable [IsStrictOrderedRing F]

lemma tile_nonneg {x : F} (h : 0 ≤ x) : 0 ≤ ⌊x / Sheet.Tile_Size⌋ := by
  rw [Int.floor_nonneg]
  exact div_nonneg h (Nat.cast_nonneg _)

omit [IsStrictOrderedRing F] in
lemma collision_settled (S : Setting F) (hw : Consistent w) (dT : F)
    (hu : turn S w (.update .Collision dT) = .ok u) :
    u.members .Collision = w.members .Collision ∧ ∀ e ∈ w.members .Collision,
      ∃ pos col, spot e w = (some pos, some col) ∧
        spot e u = (some (settle S pos col).1, some (settle S pos col).2) := by
  obtain ⟨v, hv, hmem, hsettled⟩ := update_spot S hw
  obtain rfl : v = u := Except.ok.inj (hv.symm.trans hu)
  refine ⟨congrFun hmem _, fun e he => ?_⟩
  obtain ⟨pos, col, hspot⟩ := hw.spot he
  exact ⟨pos, col, hspot, by rw [hsettled e he, hspot]; rfl⟩

/-- **On the map.** In every run in which each update of the collisions finds room for every member,
each leaves every member on the map, and so at no negative tile. And in a run in which no box
overlaps more than one solid tile, each leaves them there only if it has found room for them. -/
theorem on_map_of_room (S : Setting F) (turns : List (Turn F)) :
    (AlongE (turn S) (fun w i => ∀ dT, i = .update .Collision dT →
        ∀ e ∈ w.members .Collision, HasRoom S e w) (new F) turns →
      AlongE (turn S) (fun w i => ∀ dT, i = .update .Collision dT → ∀ u, turn S w i = .ok u →
        ∀ e ∈ u.members .Collision, Inside S e u) (new F) turns) ∧
    (AlongE (turn S) (fun w i => (∀ dT, i = .update .Collision dT →
        ∀ e ∈ w.members .Collision, SingleWall S e w) ∧
        ∀ dT, i = .update .Collision dT → ∀ u, turn S w i = .ok u →
          ∀ e ∈ u.members .Collision, Inside S e u) (new F) turns →
      AlongE (turn S) (fun w i => ∀ dT, i = .update .Collision dT →
        ∀ e ∈ w.members .Collision, HasRoom S e w) (new F) turns) := by
  constructor
  · refine AlongE.imp (fun w i u hw _ hu => consistent_turn S hw hu) ?_ consistent_new
    rintro w i hw hroom dT rfl u hu e he
    obtain ⟨hmem, hsettled⟩ := collision_settled S hw dT hu
    rw [hmem] at he
    obtain ⟨pos, col, hspot, hafter⟩ := hsettled e he
    obtain ⟨pos', col', hspot', hroomy⟩ := hroom dT rfl e he
    rw [hspot] at hspot'
    cases hspot'
    have hon := settle_within S hroomy
    exact ⟨_, _, hafter, hon, tile_nonneg hon.1.1, tile_nonneg hon.2.1⟩
  · refine AlongE.imp (fun w i u hw _ hu => consistent_turn S hw hu) ?_ consistent_new
    rintro w i hw ⟨hsingle, hin⟩ dT rfl e he
    obtain ⟨u, hu, -⟩ := update_spot S hw
    obtain ⟨hmem, hsettled⟩ := collision_settled S hw dT hu
    obtain ⟨pos, col, hspot, hafter⟩ := hsettled e he
    obtain ⟨pos', col', hspot', hon, -⟩ := hin dT rfl u hu e (by rw [hmem]; exact he)
    rw [hafter] at hspot'
    cases hspot'
    exact ⟨pos, col, hspot, roomy_of_single S (hsingle dT rfl e he pos col hspot) hon⟩

/-- An empty map but for a solid tile in its corner. -/
def corner : Setting ℚ :=
  { Setting.empty ℚ with
    map := ⟨(∅ : Dict ℕ (Tile ℚ)).insert 0 ⟨⟨0, 0, "", false⟩, true, false⟩, ⟨32, 32⟩⟩ }

/-- Someone with a box, at `x`, `y`. -/
def standing (x y : ℚ) : List (Turn ℚ) :=
  [.store (.addEntity ⟨.Idle, 1, 1, false⟩ ((Bitmask.empty.turnOnBit
      Component.Position.id).turnOnBit Component.Collidable.id) (-1)),
    .write 0 (.position ⟨0, ⟨x, y⟩, 0⟩),
    .write 0 (.collidable ⟨⟨x - 1, y - 1, 2, 2⟩, 0, .Mid_Bottom, false, false⟩),
    .update .Collision 16]

/-- The same with a solid tile below it. -/
def wall : Setting ℚ :=
  { corner with
    map := ⟨((∅ : Dict ℕ (Tile ℚ)).insert 0 ⟨⟨0, 0, "", false⟩, true, false⟩).insert 32
      ⟨⟨0, 0, "", false⟩, true, false⟩, ⟨32, 32⟩⟩ }

/-- Someone who leans against both tiles, with a box of width 20. -/
def leaning : List (Turn ℚ) :=
  [.store (.addEntity ⟨.Idle, 1, 1, false⟩ ((Bitmask.empty.turnOnBit
      Component.Position.id).turnOnBit Component.Collidable.id) (-1)),
    .write 0 (.position ⟨0, ⟨40, 34⟩, 0⟩),
    .write 0 (.collidable ⟨⟨30, 24, 20, 20⟩, 0, .Mid_Bottom, false, false⟩),
    .update .Collision 16]

lemma leaning_roomy :
    Roomy wall ⟨0, ⟨40, 34⟩, 0⟩ ⟨⟨30, 24, 20, 20⟩, 0, .Mid_Bottom, false, false⟩ := by
  have hwalls : walls wall ⟨0, ⟨40, 34⟩, 0⟩ ⟨⟨30, 24, 20, 20⟩, 0, .Mid_Bottom, false, false⟩ =
      [⟨24, ⟨0, 32, 32, 32⟩⟩, ⟨16, ⟨0, 0, 32, 32⟩⟩] := by
    decide +kernel
  constructor
  case first =>
    intro c cs hcs
    rw [hwalls] at hcs
    cases hcs
    decide +kernel
  case later =>
    intro before b c after hcs
    rw [hwalls] at hcs
    rcases before with - | ⟨b', before⟩
    · cases hcs
      refine ⟨.inr (.inr rfl), fun v hv hstand => ?_⟩
      obtain ⟨x, y⟩ := v
      have hback : putBack wall.map ⟨40, 34⟩ = ⟨40, 34⟩ := by decide +kernel
      have hbox : boxBack wall.map ⟨0, ⟨40, 34⟩, 0⟩
          ⟨⟨30, 24, 20, 20⟩, 0, .Mid_Bottom, false, false⟩ = ⟨30, 24, 20, 20⟩ := by
        decide +kernel
      have hsize : ((Sheet.Tile_Size : ℕ) : ℚ) = 32 := rfl
      simp only [MayStand, BesideX, BesideY, MayLieX, MayLieY, MayLie, Touches, hback, hbox, hsize,
        List.map_nil, List.isEmpty_nil, if_true, or_false] at hstand
      rcases hstand with ⟨hx, rfl⟩ | ⟨rfl, hy⟩
      · -- The entity has been pushed along the x axis, and on the left there is no room.
        obtain rfl : x = 42 := by
          rcases hx with hx | hx
          · linarith
          · have hpos := hv.1.1
            dsimp only at hpos
            linarith
        decide +kernel
      · have hy : y = 74 ∨ y = 22 := hy.imp (fun h => by linarith) fun h => by linarith
        rcases hy with rfl | rfl
        · decide +kernel
        · decide +kernel
    · have hlen := congrArg List.length hcs
      simp only [List.length_append, List.length_cons, List.length_nil] at hlen
      omega

/-- Someone who leans against a wall is pushed away from it, and stays on the map. -/
theorem on_map_of_room_leaning :
    AlongE (turn wall) (fun w i => ∀ dT, i = .update .Collision dT → ∀ u, turn wall w i = .ok u →
      ∀ e ∈ u.members .Collision, Inside wall e u) (new ℚ) leaning := by
  refine (on_map_of_room wall leaning).1 ?_
  refine ⟨fun dT h => (nomatch h), fun t ht => ⟨fun dT h => (nomatch h), fun u hu =>
    ⟨fun dT h => (nomatch h), fun w hw => ⟨fun dT _ e he => ?_, fun _ _ => trivial⟩⟩⟩⟩
  have hrun : runE (turn wall) (new ℚ) (leaning.take 3) = .ok w :=
    runE_cons_ok.mpr ⟨t, ht, runE_cons_ok.mpr ⟨u, hu, runE_cons_ok.mpr ⟨w, hw, rfl⟩⟩⟩
  rw [runE_reached (by decide +kernel), Except.ok.injEq] at hrun
  subst hrun
  have hmem : (reached (turn wall) (new ℚ) (leaning.take 3)).members .Collision = [0] := by
    decide +kernel
  rw [hmem, List.mem_singleton] at he
  subst he
  exact ⟨⟨0, ⟨40, 34⟩, 0⟩, ⟨⟨30, 24, 20, 20⟩, 0, .Mid_Bottom, false, false⟩, by rfl, leaning_roomy⟩

/-- In the corner, the tile pushes the entity over the edge. -/
theorem pushed_off_the_map :
    ∃ u, runE (turn corner) (new ℚ) (standing 1 16) = .ok u ∧ 0 ∈ u.members .Collision ∧
      ¬ Inside corner 0 u := by
  refine ⟨reached (turn corner) (new ℚ) (standing 1 16), runE_reached (by decide +kernel),
    by decide +kernel, ?_⟩
  rintro ⟨pos, col, hspot, hon, -⟩
  obtain ⟨hpos, -⟩ := Prod.mk.inj hspot
  have hout : ((reached (turn corner) (new ℚ) (standing 1 16)).getComponent
      (C_Position ℚ) 0).map (fun p => p.position) = some ⟨-1, 16⟩ := by decide +kernel
  rw [hpos, Option.map_some, Option.some.injEq] at hout
  have hneg := hon.1.1
  rw [hout] at hneg
  exact absurd hneg (by decide)

end Sfrpg
