import Mathlib.Analysis.SpecialFunctions.Sqrt
import Sfrpg.MapFile

/-!
Movement: the ground an entity walks on, and how fast it becomes.

The friction of the ground is that of the highest tile which is not above the entity. A step adds
the acceleration to the velocity, slows it down by the friction, and shortens it to the maximum.
-/

namespace Sfrpg

open Lib Lib.Run Lib.Word Lib.StringStream

/-! ### The ground -/

section Ground

variable {F : Type}

namespace Map

variable (m : Map F) (x y elevation : ℕ)

/-- The highest tile of a column at or below `elevation`. -/
def Highest (tile : Tile F) : Prop :=
  ∃ layer ≤ elevation, m.getTile x y layer = some tile ∧
    ∀ above, layer < above → above ≤ elevation → m.getTile x y above = none

/-- The column has no tile at or below `elevation`. -/
def Bare : Prop := ∀ layer ≤ elevation, m.getTile x y layer = none

variable {m x y elevation}

lemma tileFrom_highest {tile : Tile F} (h : m.tileFrom x y elevation = some tile) :
    m.Highest x y elevation tile := by
  induction elevation with
  | zero => exact ⟨0, le_rfl, h, fun above hlt hle => absurd hlt (by omega)⟩
  | succ elevation ih =>
    rw [tileFrom] at h
    cases htop : m.getTile x y (elevation + 1) with
    | some top =>
      rw [htop] at h
      refine ⟨elevation + 1, le_rfl, htop.trans h, fun above hlt hle => absurd hlt (by omega)⟩
    | none =>
      rw [htop] at h
      obtain ⟨layer, hle, htile, habove⟩ := ih h
      refine ⟨layer, by omega, htile, fun above hlt hle' => ?_⟩
      by_cases heq : above = elevation + 1
      · rw [heq, htop]
      · exact habove above hlt (by omega)

lemma tileFrom_bare (h : m.tileFrom x y elevation = none) : m.Bare x y elevation := by
  induction elevation with
  | zero =>
    intro layer hle
    rw [Nat.le_zero.mp hle]
    exact h
  | succ elevation ih =>
    rw [tileFrom] at h
    cases htop : m.getTile x y (elevation + 1) with
    | some top =>
      rw [htop] at h
      cases h
    | none =>
      rw [htop] at h
      intro layer hle
      by_cases heq : layer = elevation + 1
      · rw [heq, htop]
      · exact ih h layer (by omega)

lemma Highest.tileFrom {tile : Tile F} (h : m.Highest x y elevation tile) :
    m.tileFrom x y elevation = some tile := by
  obtain ⟨layer, hle, htile, habove⟩ := h
  cases hfound : m.tileFrom x y elevation with
  | none => rw [tileFrom_bare hfound layer hle] at htile; cases htile
  | some tile' =>
    obtain ⟨layer', hle', htile', habove'⟩ := tileFrom_highest hfound
    rcases lt_trichotomy layer layer' with hlt | rfl | hlt
    · rw [habove layer' hlt hle'] at htile'
      cases htile'
    · exact htile'.symm.trans htile
    · rw [habove' layer hlt hle] at htile
      cases htile

end Map

variable [Field F]

/-- What a line makes of the friction of the default tile. -/
def readFriction (friction : Vector2f F) (line : String) : Vector2f F :=
  match lineParts line with
  | none => friction
  | some (type, keystream) =>
    if type ≠ "DEFAULT_FRICTION" then friction else
    let (x, keystream) := readFloat friction.x keystream
    let (y, _) := readFloat friction.y keystream
    ⟨x, y⟩

/-- `friction` is that of the highest tile, or the friction `default` where the column is bare. -/
def OfGround (map : Map F) (default : Vector2f F) (x y elevation : ℕ) (friction : Vector2f F) :
    Prop :=
  (∃ tile, map.Highest x y elevation tile ∧ friction = tile.properties.friction) ∨
    (map.Bare x y elevation ∧ friction = default)

namespace MapLoad

variable {tileSet : TileSet F} {env : Env F} {m m' : MapLoad F} {line : String}
  {lines : List String}

lemma readFriction_of_ne (friction : Vector2f F) (h : lineType line ≠ some "DEFAULT_FRICTION") :
    readFriction friction line = friction := by
  unfold readFriction
  cases hparts : lineParts line with
  | none => rfl
  | some parts =>
    obtain ⟨type, keystream⟩ := parts
    have htype : type ≠ "DEFAULT_FRICTION" := by simpa [lineType_of_parts hparts] using h
    simp only [if_pos htype]

lemma loadLine_friction (h : loadLine tileSet env m line = .ok m') :
    m'.defaultTile.friction = readFriction m.defaultTile.friction line := by
  cases loadLine_took h with
  | comment htype => rw [readFriction_of_ne _ (by simp [htype])]
  | tile keystream hparts => rw [readFriction_of_ne _ (by simp [lineType_of_parts hparts])]
  | size keystream hparts => rw [readFriction_of_ne _ (by simp [lineType_of_parts hparts])]
  | friction keystream hparts => simp [readFriction, hparts]
  | entity keystream world hparts _ =>
    rw [readFriction_of_ne _ (by simp [lineType_of_parts hparts])]
  | unknown type keystream hparts hother =>
    rw [readFriction_of_ne _ fun ht => hother ?_]
    simp [Option.some.inj ((lineType_of_parts hparts).symm.trans ht)]

lemma loadMap_friction (h : loadMap tileSet env (some lines) m = .ok m') :
    m'.defaultTile.friction = lines.foldl readFriction m.defaultTile.friction := by
  rw [loadMap] at h
  induction lines generalizing m with
  | nil =>
    cases h
    rfl
  | cons line lines ih =>
    obtain ⟨n, hline, hrest⟩ := foldlM_cons_ok.mp h
    rw [List.foldl_cons, ← loadLine_friction hline]
    exact ih hrest

end MapLoad

namespace S_Movement

variable [LinearOrder F] [FloorRing F]

/-- The friction of a step on ground of the friction `coefficient`. -/
def appliedFriction (coefficient : Vector2f F) (dT : F) (mov : C_Movable F) : Vector2f F :=
  ⟨mov.speed.x * coefficient.x * dT, mov.speed.y * coefficient.y * dT⟩

/-- The first half of a step: the acceleration, and the friction. -/
def slowedDown (coefficient : Vector2f F) (dT : F) (mov : C_Movable F) : C_Movable F :=
  let added := mov.addVelocity ⟨mov.acceleration.x * dT, mov.acceleration.y * dT⟩
  (added.setAcceleration 0).applyFriction (appliedFriction coefficient dT mov)

/-- The length of the velocity. -/
def magnitude (S : Setting F) (mov : C_Movable F) : F :=
  S.sqrt (mov.velocity.x * mov.velocity.x + mov.velocity.y * mov.velocity.y)

/-- The second half of a step: a velocity that is too long is shortened to the maximum. -/
def shortened (S : Setting F) (mov : C_Movable F) : C_Movable F :=
  if magnitude S mov ≤ mov.velocityMax then mov
  else mov.setVelocity ⟨mov.velocity.x / magnitude S mov * mov.velocityMax,
    mov.velocity.y / magnitude S mov * mov.velocityMax⟩

/-- The friction `getTileFriction` finds under an entity. -/
def frictionUnder (map : Map F) (pos : C_Position F) : Vector2f F :=
  getTileFriction map pos.elevation (toUInt32 ⌊pos.position.x / Sheet.Tile_Size⌋).toNat
    (toUInt32 ⌊pos.position.y / Sheet.Tile_Size⌋).toNat

lemma movementStep_eq (S : Setting F) (dT : F) (mov : C_Movable F) (pos : C_Position F) :
    movementStep S dT mov pos = shortened S (slowedDown (frictionUnder S.map pos) dT mov) := rfl

omit [LinearOrder F] [FloorRing F] in
/-- **The friction found is that of the ground**, exactly if the column has a tile that is not above
the entity, or the default that the file has read is no friction at all. For every map loaded, every
column and every elevation. -/
theorem getTileFriction_iff (tileSet : TileSet F) (env : Env F) (m m' : MapLoad F)
    (lines : List String) (h : MapLoad.loadMap tileSet env (some lines) m = .ok m')
    (x y elevation : ℕ) :
    OfGround m'.map (lines.foldl readFriction m.defaultTile.friction) x y elevation
        (getTileFriction m'.map elevation x y) ↔
      ¬ m'.map.Bare x y elevation ∨ lines.foldl readFriction m.defaultTile.friction = 0 := by
  rw [← MapLoad.loadMap_friction h, getTileFriction]
  cases hfound : m'.map.tileFrom x y elevation with
  | some tile =>
    have hhighest := Map.tileFrom_highest hfound
    refine iff_of_true (.inl ⟨tile, hhighest, rfl⟩) (.inl fun hbare => ?_)
    obtain ⟨layer, hle, htile, -⟩ := hhighest
    rw [hbare layer hle] at htile
    cases htile
  | none =>
    have hbare := Map.tileFrom_bare hfound
    constructor
    · rintro (⟨tile, hhighest, -⟩ | ⟨-, hdefault⟩)
      · rw [hhighest.tileFrom] at hfound
        cases hfound
      · exact .inr hdefault.symm
    · rintro (hfull | hzero)
      · exact absurd hbare hfull
      · exact .inr ⟨hbare, hzero.symm⟩

/-- A map with one tile, and another friction for everywhere else. -/
def oneTile : List String := ["SIZE 2 2", "DEFAULT_FRICTION 0.5 0.5", "TILE 1 1 1 0 0"]

/-- From far above, the tile of the lowest layer counts. -/
theorem getTileFriction_iff_above :
    OfGround (MapLoad.ofLines oneTile).map
      (oneTile.foldl readFriction MapLoad.constructed.defaultTile.friction) 1 1 7
      (getTileFriction (MapLoad.ofLines oneTile).map 7 1 1) := by
  refine (getTileFriction_iff MapLoad.grassOnly MapLoad.noEntities MapLoad.constructed _ oneTile
    (MapLoad.loadMap_ofLines (by decide +kernel)) 1 1 7).mpr (.inl fun hbare => ?_)
  have htile : ((MapLoad.ofLines oneTile).map.getTile 1 1 0).isSome = true := by decide +kernel
  rw [hbare 0 (by decide)] at htile
  cases htile

/-- Beside the tile the friction of the map is not used. -/
theorem default_friction_unused :
    MapLoad.loadMap MapLoad.grassOnly MapLoad.noEntities (some oneTile) MapLoad.constructed =
      .ok (MapLoad.ofLines oneTile) ∧
    oneTile.foldl readFriction MapLoad.constructed.defaultTile.friction = ⟨1 / 2, 1 / 2⟩ ∧
    getTileFriction (MapLoad.ofLines oneTile).map 0 0 0 = 0 ∧
    ¬ OfGround (MapLoad.ofLines oneTile).map
      (oneTile.foldl readFriction MapLoad.constructed.defaultTile.friction) 0 0 0
      (getTileFriction (MapLoad.ofLines oneTile).map 0 0 0) := by
  have hdefault : oneTile.foldl readFriction MapLoad.constructed.defaultTile.friction =
      ⟨1 / 2, 1 / 2⟩ := by
    decide +kernel
  have hused : getTileFriction (MapLoad.ofLines oneTile).map 0 0 0 = 0 := by decide +kernel
  have hnone : ((MapLoad.ofLines oneTile).map.getTile 0 0 0).isNone = true := by decide +kernel
  refine ⟨MapLoad.loadMap_ofLines (by decide +kernel), hdefault, hused, ?_⟩
  rintro (⟨tile, ⟨layer, hle, htile, -⟩, -⟩ | ⟨-, heq⟩)
  · rw [Nat.le_zero.mp hle] at htile
    rw [htile] at hnone
    cases hnone
  · rw [hused, hdefault] at heq
    exact absurd heq (by decide +kernel)

end S_Movement

end Ground

/-! ### Speed -/

namespace S_Movement

section Checked

variable {F : Type} [Field F] [LinearOrder F]

/-- A quotient, where there is one. -/
def divide (a b : F) : Option F := if b = 0 then none else some (a / b)

lemma divide_of_ne {b : F} (a : F) (hb : b ≠ 0) : divide a b = some (a / b) := if_neg hb

/-- `C_Movable.limited`, which fails at a division by zero. -/
def limitedChecked (velocityMax v : F) : Option F :=
  if velocityMax < |v| then (divide v |v|).map (velocityMax * ·) else some v

/-- `shortened`, which fails at a division by zero. -/
def shortenedChecked (S : Setting F) (mov : C_Movable F) : Option (C_Movable F) :=
  if magnitude S mov ≤ mov.velocityMax then some mov
  else do
    let x ← divide mov.velocity.x (magnitude S mov)
    let y ← divide mov.velocity.y (magnitude S mov)
    some (mov.setVelocity ⟨x * mov.velocityMax, y * mov.velocityMax⟩)

/-- `movementStep`, which fails at a division by zero. -/
def movementStepChecked [FloorRing F] (S : Setting F) (dT : F) (mov : C_Movable F)
    (pos : C_Position F) : Option (C_Movable F) := do
  let tileX ← divide pos.position.x Sheet.Tile_Size
  let tileY ← divide pos.position.y Sheet.Tile_Size
  let coefficient := getTileFriction S.map pos.elevation
    (toUInt32 ⌊tileX⌋).toNat (toUInt32 ⌊tileY⌋).toNat
  let x ← limitedChecked mov.velocityMax (mov.velocity.x + mov.acceleration.x * dT)
  let y ← limitedChecked mov.velocityMax (mov.velocity.y + mov.acceleration.y * dT)
  let friction := appliedFriction coefficient dT mov
  let mov : C_Movable F := { mov with velocity := ⟨x, y⟩ }
  shortenedChecked S ((mov.setAcceleration 0).applyFriction friction)

lemma limitedChecked_eq {velocityMax : F} (hmax : 0 ≤ velocityMax) (v : F) :
    limitedChecked velocityMax v = some (C_Movable.limited velocityMax v) := by
  unfold limitedChecked C_Movable.limited
  split
  · next h => rw [divide_of_ne v (hmax.trans_lt h).ne', Option.map_some]
  · rfl

lemma shortenedChecked_eq (S : Setting F) {mov : C_Movable F} (hmax : 0 ≤ mov.velocityMax) :
    shortenedChecked S mov = some (shortened S mov) := by
  unfold shortenedChecked shortened
  split
  · rfl
  · next h =>
    have hne : magnitude S mov ≠ 0 := (hmax.trans_lt (not_le.mp h)).ne'
    rw [divide_of_ne _ hne, divide_of_ne _ hne]
    rfl

lemma movementStepChecked_eq [IsStrictOrderedRing F] [FloorRing F] (S : Setting F) (dT : F)
    {mov : C_Movable F} (pos : C_Position F) (hmax : 0 ≤ mov.velocityMax) :
    movementStepChecked S dT mov pos = some (movementStep S dT mov pos) := by
  have htile : (Sheet.Tile_Size : F) ≠ 0 := by
    rw [Sheet.Tile_Size]
    norm_num
  rw [movementStepChecked, divide_of_ne _ htile, divide_of_ne _ htile]
  simp only [Option.bind_eq_bind, Option.bind_some, limitedChecked_eq hmax]
  exact shortenedChecked_eq S hmax

end Checked

section Shrinks

variable {F : Type} [Field F] [LinearOrder F] [IsStrictOrderedRing F]

/-- `v'` is on no other side of zero than `v`, and no farther away. -/
structure Shrinks (v v' : F) : Prop where
  side : 0 ≤ v * v'
  size : |v'| ≤ |v|

variable {v v' v'' : F}

lemma Shrinks.refl (v : F) : Shrinks v v := ⟨mul_self_nonneg v, le_rfl⟩

lemma Shrinks.trans (h : Shrinks v v') (h' : Shrinks v' v'') : Shrinks v v'' where
  side := by
    by_cases hzero : v' = 0
    · have hsize := h'.size
      rw [hzero, abs_zero] at hsize
      rw [abs_nonpos_iff.mp hsize, mul_zero]
    · have hpos : 0 < v' * v' := mul_self_pos.mpr hzero
      have hprod : 0 ≤ v' * v' * (v * v'') := by
        calc 0 ≤ v * v' * (v' * v'') := mul_nonneg h.side h'.side
          _ = v' * v' * (v * v'') := by ring
      exact nonneg_of_mul_nonneg_right hprod hpos
  size := h'.size.trans h.size

lemma shrinks_mul {q : F} (hq : 0 ≤ q) (hq' : q ≤ 1) (v : F) : Shrinks v (v * q) where
  side := by
    rw [← mul_assoc]
    exact mul_nonneg (mul_self_nonneg v) hq
  size := by
    rw [abs_mul, abs_of_nonneg hq]
    exact mul_le_of_le_one_right (abs_nonneg v) hq'

lemma slowed_shrinks {friction : F} (hf : 0 ≤ friction) (v : F) :
    Shrinks v (C_Movable.slowed v friction) := by
  unfold C_Movable.slowed
  split
  · split
    · exact ⟨by rw [mul_zero], by rw [abs_zero]; exact abs_nonneg v⟩
    · next hge =>
      rw [abs_of_nonneg hf] at hge
      have hle : friction ≤ |v| := by linarith
      split
      · next hpos =>
        rw [abs_of_pos hpos] at hle
        have hrest : 0 ≤ v + friction * -1 := by linarith
        refine ⟨mul_nonneg hpos.le hrest, ?_⟩
        rw [abs_of_nonneg hrest, abs_of_pos hpos]
        linarith
      · next hneg =>
        rw [abs_of_nonpos (not_lt.mp hneg)] at hle
        have hrest : v + friction ≤ 0 := by linarith
        refine ⟨mul_nonneg_of_nonpos_of_nonpos (not_lt.mp hneg) hrest, ?_⟩
        rw [abs_of_nonpos hrest, abs_of_nonpos (not_lt.mp hneg)]
        linarith
  · exact .refl v

lemma shortened_shrinks (S : Setting F) {mov : C_Movable F} (hmax : 0 ≤ mov.velocityMax) :
    Shrinks mov.velocity.x (shortened S mov).velocity.x ∧
      Shrinks mov.velocity.y (shortened S mov).velocity.y := by
  unfold shortened
  split
  · exact ⟨.refl _, .refl _⟩
  · next h =>
    have hlt : mov.velocityMax < magnitude S mov := not_le.mp h
    have hpos : 0 < magnitude S mov := hmax.trans_lt hlt
    have hq : 0 ≤ mov.velocityMax / magnitude S mov := div_nonneg hmax hpos.le
    have hq' : mov.velocityMax / magnitude S mov ≤ 1 := (div_le_one hpos).mpr hlt.le
    have hpart : ∀ v : F, v / magnitude S mov * mov.velocityMax =
        v * (mov.velocityMax / magnitude S mov) := fun v => by ring
    refine ⟨?_, ?_⟩
    · change Shrinks mov.velocity.x (mov.velocity.x / magnitude S mov * mov.velocityMax)
      rw [hpart]
      exact shrinks_mul hq hq' _
    · change Shrinks mov.velocity.y (mov.velocity.y / magnitude S mov * mov.velocityMax)
      rw [hpart]
      exact shrinks_mul hq hq' _

end Shrinks

/-! ### In real numbers -/

lemma magnitude_shortened {S : Setting ℝ} (hsqrt : S.sqrt = Real.sqrt) {mov : C_Movable ℝ}
    (hmax : 0 ≤ mov.velocityMax) : magnitude S (shortened S mov) ≤ mov.velocityMax := by
  unfold shortened
  split
  · next h => exact h
  · next h =>
    have hpos : 0 < magnitude S mov := hmax.trans_lt (not_le.mp h)
    have hsquare : magnitude S mov * magnitude S mov =
        mov.velocity.x * mov.velocity.x + mov.velocity.y * mov.velocity.y := by
      rw [magnitude, hsqrt]
      exact Real.mul_self_sqrt (add_nonneg (mul_self_nonneg _) (mul_self_nonneg _))
    set x := mov.velocity.x
    set y := mov.velocity.y
    set length := magnitude S mov
    have hsum : x / length * mov.velocityMax * (x / length * mov.velocityMax) +
        y / length * mov.velocityMax * (y / length * mov.velocityMax) =
        mov.velocityMax * mov.velocityMax := by
      calc _ = (x * x + y * y) / (length * length) * (mov.velocityMax * mov.velocityMax) := by
            field_simp
        _ = mov.velocityMax * mov.velocityMax := by
            rw [← hsquare, div_self (mul_pos hpos hpos).ne', one_mul]
    change S.sqrt (x / length * mov.velocityMax * (x / length * mov.velocityMax) +
      y / length * mov.velocityMax * (y / length * mov.velocityMax)) ≤ mov.velocityMax
    rw [hsum, hsqrt, Real.sqrt_mul_self hmax]

/-- **A step keeps to the maximum.** Whatever the velocity was, it is no longer than the maximum
afterwards, nothing is left of the acceleration and nothing has been divided by zero; and where the
friction is not negative, no axis of the velocity turns round or grows once the acceleration is
in. -/
theorem movementStep_bounded (S : Setting ℝ) (hsqrt : S.sqrt = Real.sqrt) (dT : ℝ)
    (mov : C_Movable ℝ) (pos : C_Position ℝ) (hmax : 0 ≤ mov.velocityMax) :
    let mov' := movementStep S dT mov pos
    let added := mov.addVelocity ⟨mov.acceleration.x * dT, mov.acceleration.y * dT⟩
    let friction := appliedFriction (frictionUnder S.map pos) dT mov
    movementStepChecked S dT mov pos = some mov' ∧
      Real.sqrt (mov'.velocity.x * mov'.velocity.x + mov'.velocity.y * mov'.velocity.y) ≤
        mov.velocityMax ∧
      mov'.acceleration = 0 ∧
      (0 ≤ friction.x → 0 ≤ friction.y →
        Shrinks added.velocity.x mov'.velocity.x ∧ Shrinks added.velocity.y mov'.velocity.y) := by
  have hslow : 0 ≤ (slowedDown (frictionUnder S.map pos) dT mov).velocityMax := hmax
  refine ⟨movementStepChecked_eq S dT pos hmax, ?_, ?_, fun hx hy => ?_⟩
  · have hbound := magnitude_shortened hsqrt hslow
    rw [magnitude, hsqrt] at hbound
    exact hbound
  · rw [movementStep_eq, shortened]
    split <;> rfl
  · obtain ⟨hshortX, hshortY⟩ := shortened_shrinks S hslow
    exact ⟨(slowed_shrinks hx _).trans hshortX, (slowed_shrinks hy _).trans hshortY⟩

/-- Someone knocked back at ten times the maximum. -/
theorem movementStep_bounded_knocked :
    let S : Setting ℝ := { Setting.empty ℝ with sqrt := Real.sqrt }
    let mov : C_Movable ℝ := ⟨⟨30, 40⟩, 5, ⟨1, 1⟩, 0, .Up⟩
    let mov' := movementStep S 1 mov ⟨0, ⟨8, 8⟩, 0⟩
    (0 : ℝ) ≤ 5 ∧
      Real.sqrt (mov'.velocity.x * mov'.velocity.x + mov'.velocity.y * mov'.velocity.y) ≤ 5 := by
  have hmax : (0 : ℝ) ≤ 5 := by norm_num
  exact ⟨hmax, (movementStep_bounded { Setting.empty ℝ with sqrt := Real.sqrt } rfl 1
    ⟨⟨30, 40⟩, 5, ⟨1, 1⟩, 0, .Up⟩ ⟨0, ⟨8, 8⟩, 0⟩ hmax).2.1⟩

end S_Movement

end Sfrpg
