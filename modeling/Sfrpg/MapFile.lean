import Sfrpg.Cells
import Sfrpg.World

/-!
Maps read from files.

`loadMap` goes through the lines of a file: the size of the map, its tiles, the friction of the
default tile and the entities. A tile is filed under the number its coordinates come to in a map of
the size read so far, and the first one filed under a number stays. `names` says what a line of the
file is meant to say, and `filed` what `loadMap` makes of it.
-/

namespace Sfrpg

open Lib Lib.Run Lib.Word Lib.StringStream

abbrev TileSet (F : Type) := Dict ℕ (TileInfo F)

/-- What `loadMap` works on. -/
structure MapLoad (F : Type) where
  map : Map F
  defaultTile : TileInfo F
  world : World F

/-- What stands after the type of a `TILE` line. A number that cannot be read is zero; `complete`
tells whether all of them could. -/
structure TileLine where
  tileId : ℕ
  x : ℕ
  y : ℕ
  layer : ℕ
  solid : Bool
  complete : Bool
  warp : Bool

def TileLine.read (keystream : StringStream) : TileLine :=
  let (tileId, keystream) := readUInt32 0 keystream
  let (x, keystream) := readUInt32 0 keystream
  let (y, keystream) := readUInt32 0 keystream
  let (layer, keystream) := readUInt32 0 keystream
  let (solid, keystream) := readBool false keystream
  let (warp, _) := readWord "" keystream
  ⟨tileId, x, y, layer, solid, keystream.isSome, warp = "WARP"⟩

/-- The type of a line, and the stream after it. A comment has none. -/
def lineParts (line : String) : Option (String × StringStream) :=
  if line.toList.head? = some '|' then none else some (readWord "" (.ofLine line))

def lineType (line : String) : Option String := (lineParts line).map Prod.fst

variable {F : Type}

namespace Map

/-- The branch of `loadMap` for a tile. -/
def loadTile (tileSet : TileSet F) (keystream : StringStream) (m : Map F) : Map F :=
  let (tileId, keystream) := readUInt32 0 keystream
  match tileSet.lookup tileId with
  | none => m
  | some properties =>
    let (x, keystream) := readUInt32 0 keystream
    let (y, keystream) := readUInt32 0 keystream
    let (tileLayer, keystream) := readUInt32 0 keystream
    let (tileSolidity, keystream) := readBool false keystream
    if m.maxMapSize.x < x ∨ m.maxMapSize.y < y ∨ Sheet.Num_Layers ≤ tileLayer then m
    else
      let (warp, _) := readWord "" keystream
      let tile : Tile F := ⟨properties, tileSolidity, warp = "WARP"⟩
      { m with tileMap := Dict.emplace (m.convertCoords x y tileLayer) tile m.tileMap }

/-- The number a line is filed under, and its tile. -/
def filed (tileSet : TileSet F) (m : Map F) (line : String) : Option (ℕ × Tile F) :=
  match lineParts line with
  | none => none
  | some (type, keystream) =>
    if type ≠ "TILE" then none else
    let t := TileLine.read keystream
    match tileSet.lookup t.tileId with
    | none => none
    | some properties =>
      if m.maxMapSize.x < t.x ∨ m.maxMapSize.y < t.y ∨ Sheet.Num_Layers ≤ t.layer then none
      else some (m.convertCoords t.x t.y t.layer, ⟨properties, t.solid, t.warp⟩)

/-- The cell of the map a well-formed line names, and the tile it describes. -/
def names (tileSet : TileSet F) (m : Map F) (line : String) : Option ((ℕ × ℕ × ℕ) × Tile F) :=
  match lineParts line with
  | none => none
  | some (type, keystream) =>
    if type ≠ "TILE" then none else
    let t := TileLine.read keystream
    match tileSet.lookup t.tileId with
    | none => none
    | some properties =>
      if t.complete ∧ t.x < m.maxMapSize.x ∧ t.y < m.maxMapSize.y ∧ t.layer < Sheet.Num_Layers
      then some ((t.x, t.y, t.layer), ⟨properties, t.solid, t.warp⟩)
      else none

/-- The tile a line files under `key`. -/
def filedUnder (tileSet : TileSet F) (m : Map F) (key : ℕ) (line : String) : Option (Tile F) :=
  (m.filed tileSet line).bind fun e => if e.1 = key then some e.2 else none

/-- The tile of the first well-formed line that names a cell. -/
def described (tileSet : TileSet F) (m : Map F) (lines : List String) (x y layer : ℕ) :
    Option (Tile F) :=
  lines.findSome? fun line =>
    (m.names tileSet line).bind fun e => if e.1 = (x, y, layer) then some e.2 else none

/-- A line that names no cell of the map, and comes first among the lines filed under the number of
one, has the tile of the first line after it that names the cell. -/
def Undisturbed (tileSet : TileSet F) (m : Map F) (lines : List String) : Prop :=
  ∀ x y layer, x < m.maxMapSize.x → y < m.maxMapSize.y → layer < Sheet.Num_Layers →
    ∀ before line after tile, lines = before ++ line :: after →
      (∀ i ∈ before, m.filedUnder tileSet (m.convertCoords x y layer) i = none) →
      m.filedUnder tileSet (m.convertCoords x y layer) line = some tile →
      m.names tileSet line = none → m.described tileSet after x y layer = some tile

end Map

/-! ### Lines -/

namespace Map

variable {m : Map F} {x y layer : ℕ} {tileSet : TileSet F} {line : String} {tile : Tile F}

lemma filedUnder_of_names (h : m.names tileSet line = some ((x, y, layer), tile)) :
    m.filedUnder tileSet (m.convertCoords x y layer) line = some tile := by
  unfold names at h
  unfold filedUnder filed
  cases hparts : lineParts line with
  | none => simp [hparts] at h
  | some parts =>
    obtain ⟨type, keystream⟩ := parts
    simp only [hparts] at h ⊢
    by_cases htype : type = "TILE"
    · simp only [htype, ne_eq, not_true, if_false] at h ⊢
      cases hid : tileSet.lookup (TileLine.read keystream).tileId with
      | none => simp [hid] at h
      | some properties =>
        simp only [hid] at h ⊢
        split at h
        · next hin =>
          simp only [Option.some.injEq, Prod.mk.injEq] at h
          obtain ⟨⟨rfl, rfl, rfl⟩, rfl⟩ := h
          rw [if_neg (by omega)]
          simp
        · cases h
    · simp [htype] at h

lemma eq_of_filedUnder {key key' : ℕ} {tile' : Tile F}
    (h : m.filedUnder tileSet key line = some tile)
    (h' : m.filedUnder tileSet key' line = some tile') : key = key' ∧ tile = tile' := by
  unfold filedUnder at h h'
  cases hf : m.filed tileSet line with
  | none => simp [hf] at h
  | some e =>
    simp only [hf, Option.bind_some, Option.ite_none_right_eq_some, Option.some.injEq] at h h'
    exact ⟨h.1.symm.trans h'.1, h.2.symm.trans h'.2⟩

lemma names_inside (h : m.names tileSet line = some ((x, y, layer), tile)) :
    x < m.maxMapSize.x ∧ y < m.maxMapSize.y ∧ layer < Sheet.Num_Layers := by
  unfold names at h
  cases hparts : lineParts line with
  | none => simp [hparts] at h
  | some parts =>
    obtain ⟨type, keystream⟩ := parts
    simp only [hparts] at h
    split at h
    · cases h
    · split at h
      · cases h
      · split at h
        · next hin =>
          simp only [Option.some.injEq, Prod.mk.injEq] at h
          obtain ⟨⟨rfl, rfl, rfl⟩, -⟩ := h
          exact hin.2
        · cases h

/-- The lines that are filed and name no cell: a number is missing, or the tile stands one column or
one row outside. -/
lemma filed_stray {e : ℕ × Tile F} (h : m.filed tileSet line = some e)
    (hnames : m.names tileSet line = none) :
    ∃ keystream, lineParts line = some ("TILE", keystream) ∧
      ((TileLine.read keystream).complete = false ∨
        (TileLine.read keystream).x = m.maxMapSize.x ∨
        (TileLine.read keystream).y = m.maxMapSize.y) := by
  unfold filed at h
  unfold names at hnames
  cases hparts : lineParts line with
  | none => simp [hparts] at h
  | some parts =>
    obtain ⟨type, keystream⟩ := parts
    simp only [hparts] at h hnames
    by_cases htype : type = "TILE"
    · refine ⟨keystream, by rw [htype], ?_⟩
      simp only [htype, ne_eq, not_true, if_false] at h hnames
      cases hid : tileSet.lookup (TileLine.read keystream).tileId with
      | none => simp [hid] at h
      | some properties =>
        simp only [hid] at h hnames
        split at h
        · cases h
        · next hin =>
          split at hnames
          · cases hnames
          · next hout =>
            cases hcomplete : (TileLine.read keystream).complete with
            | false => exact .inl rfl
            | true =>
              rw [hcomplete] at hout
              right
              by_contra hborder
              exact hout ⟨rfl, by omega, by omega, by omega⟩
    · simp [htype] at h

end Map

section Load

variable [Field F]

namespace MapLoad

/-- One pass of the loop of `loadMap`. -/
def loadLine (tileSet : TileSet F) (env : Env F) (m : MapLoad F) (line : String) :
    Except Crash (MapLoad F) :=
  if line.toList.head? = some '|' then pure m else
  let (type, keystream) := readWord "" (.ofLine line)
  if type = "TILE" then pure { m with map := m.map.loadTile tileSet keystream }
  else if type = "SIZE" then
    let (x, keystream) := readUInt32 m.map.maxMapSize.x keystream
    let (y, _) := readUInt32 m.map.maxMapSize.y keystream
    pure { m with map := { m.map with maxMapSize := ⟨x, y⟩ } }
  else if type = "DEFAULT_FRICTION" then
    let (x, keystream) := readFloat m.defaultTile.friction.x keystream
    let (y, _) := readFloat m.defaultTile.friction.y keystream
    pure { m with defaultTile := { m.defaultTile with friction := ⟨x, y⟩ } }
  else if type = "ENTITY" then do
    let (name, keystream) := readWord "" keystream
    let world ← m.world.loadEntity env name keystream
    pure { m with world := world }
  else pure m

/-- `loadMap`; a file that does not open has no lines. -/
def loadMap (tileSet : TileSet F) (env : Env F) (file : Option (List String)) (m : MapLoad F) :
    Except Crash (MapLoad F) :=
  match file with
  | none => pure m
  | some lines => lines.foldlM (loadLine tileSet env) m

/-! ### What a file leaves in the map -/

variable {tileSet : TileSet F} {env : Env F} {m m' : MapLoad F} {line : String}
  {lines : List String}

omit [Field F] in
lemma loadTile_eq (keystream : StringStream) (m : Map F)
    (h : lineParts line = some ("TILE", keystream)) :
    m.loadTile tileSet keystream = { m with
      tileMap := (m.filed tileSet line).elim m.tileMap fun e =>
        Dict.emplace e.1 e.2 m.tileMap } := by
  unfold Map.loadTile Map.filed TileLine.read
  simp only [h, ne_eq, not_true, if_false]
  cases tileSet.lookup (readUInt32 0 keystream).1 with
  | none => rfl
  | some properties =>
    simp only
    split <;> rfl

omit [Field F] in
lemma filed_of_ne (m : Map F) (h : lineType line ≠ some "TILE") : m.filed tileSet line = none := by
  unfold Map.filed
  unfold lineType at h
  cases hparts : lineParts line with
  | none => rfl
  | some parts =>
    obtain ⟨type, keystream⟩ := parts
    have htype : type ≠ "TILE" := by simpa [hparts] using h
    simp only [if_pos htype]

/-- What a line makes of `m`, by its type. -/
inductive Took (tileSet : TileSet F) (env : Env F) (m : MapLoad F) (line : String) :
    MapLoad F → Prop
  | comment (h : lineType line = none) : Took tileSet env m line m
  | tile (keystream : StringStream) (h : lineParts line = some ("TILE", keystream)) :
      Took tileSet env m line { m with map := m.map.loadTile tileSet keystream }
  | size (keystream : StringStream) (h : lineParts line = some ("SIZE", keystream)) :
      Took tileSet env m line { m with map := { m.map with maxMapSize :=
        ⟨(readUInt32 m.map.maxMapSize.x keystream).1,
          (readUInt32 m.map.maxMapSize.y (readUInt32 m.map.maxMapSize.x keystream).2).1⟩ } }
  | friction (keystream : StringStream)
      (h : lineParts line = some ("DEFAULT_FRICTION", keystream)) :
      Took tileSet env m line { m with defaultTile := { m.defaultTile with friction :=
        ⟨(readFloat m.defaultTile.friction.x keystream).1,
          (readFloat m.defaultTile.friction.y
            (readFloat m.defaultTile.friction.x keystream).2).1⟩ } }
  | entity (keystream : StringStream) (world : World F)
      (h : lineParts line = some ("ENTITY", keystream))
      (hworld : m.world.loadEntity env (readWord "" keystream).1 (readWord "" keystream).2 =
        .ok world) : Took tileSet env m line { m with world := world }
  | unknown (type : String) (keystream : StringStream)
      (h : lineParts line = some (type, keystream))
      (htype : type ∉ ["TILE", "SIZE", "DEFAULT_FRICTION", "ENTITY"]) : Took tileSet env m line m

lemma lineType_of_parts {type : String} {keystream : StringStream}
    (h : lineParts line = some (type, keystream)) : lineType line = some type := by
  rw [lineType, h]
  rfl

lemma loadLine_took (h : loadLine tileSet env m line = .ok m') : Took tileSet env m line m' := by
  unfold loadLine at h
  by_cases hcomment : line.toList.head? = some '|'
  · rw [if_pos hcomment] at h
    cases h
    exact .comment (by rw [lineType, lineParts, if_pos hcomment]; rfl)
  have hparts : lineParts line = some (readWord "" (.ofLine line)) := by
    rw [lineParts, if_neg hcomment]
  rw [if_neg hcomment] at h
  rcases hword : readWord "" (.ofLine line) with ⟨type, keystream⟩
  rw [hword] at h hparts
  dsimp only at h
  split at h
  · next ht =>
    subst ht
    cases h
    exact .tile keystream hparts
  next htile =>
  split at h
  · next hs =>
    subst hs
    cases h
    exact .size keystream hparts
  next hsize =>
  split at h
  · next hf =>
    subst hf
    cases h
    exact .friction keystream hparts
  next hfriction =>
  split at h
  · next he =>
    subst he
    cases hworld : m.world.loadEntity env (readWord "" keystream).1 (readWord "" keystream).2 with
    | error crash =>
      rw [hworld] at h
      cases h
    | ok world =>
      rw [hworld] at h
      cases h
      exact .entity keystream world hparts hworld
  · next hentity =>
    cases h
    exact .unknown type keystream hparts (by simp [htile, hsize, hfriction, hentity])

lemma loadLine_cases (h : loadLine tileSet env m line = .ok m') :
    (∃ keystream, lineParts line = some ("TILE", keystream) ∧
      m'.map = m.map.loadTile tileSet keystream) ∨
    (lineType line = some "SIZE" ∧ m'.map.tileMap = m.map.tileMap) ∨
    (lineType line ≠ some "TILE" ∧ m'.map = m.map) := by
  cases loadLine_took h with
  | comment htype => exact .inr (.inr ⟨by simp [htype], rfl⟩)
  | tile keystream hparts => exact .inl ⟨keystream, hparts, rfl⟩
  | size keystream hparts => exact .inr (.inl ⟨lineType_of_parts hparts, rfl⟩)
  | friction keystream hparts => exact .inr (.inr ⟨by simp [lineType_of_parts hparts], rfl⟩)
  | entity keystream world hparts _ =>
    exact .inr (.inr ⟨by simp [lineType_of_parts hparts], rfl⟩)
  | unknown type keystream hparts hother =>
    refine .inr (.inr ⟨fun ht => hother ?_, rfl⟩)
    simp [Option.some.inj ((lineType_of_parts hparts).symm.trans ht)]

lemma loadLine_map (hline : lineType line ≠ some "SIZE")
    (h : loadLine tileSet env m line = .ok m') :
    m'.map = { m.map with
      tileMap := (m.map.filed tileSet line).elim m.map.tileMap fun e =>
        Dict.emplace e.1 e.2 m.map.tileMap } := by
  rcases loadLine_cases h with ⟨keystream, hparts, hmap⟩ | ⟨hsize, -⟩ | ⟨hne, hmap⟩
  · rw [hmap, loadTile_eq keystream m.map hparts]
  · exact absurd hsize hline
  · rw [hmap, filed_of_ne m.map hne]
    rfl

omit [Field F] in
lemma filed_congr {m n : Map F} (h : m.maxMapSize = n.maxMapSize) (line : String) :
    m.filed tileSet line = n.filed tileSet line := by
  unfold Map.filed Map.convertCoords
  rw [h]

lemma loadLines_sizes (hlines : ∀ line ∈ lines, lineType line ≠ some "TILE")
    (h : lines.foldlM (loadLine tileSet env) m = .ok m') :
    m'.map.tileMap = m.map.tileMap := by
  induction lines generalizing m with
  | nil =>
    cases h
    rfl
  | cons line lines ih =>
    obtain ⟨n, hline, hrest⟩ := foldlM_cons_ok.mp h
    rw [ih (fun l hl => hlines l (by simp [hl])) hrest]
    rcases loadLine_cases hline with ⟨keystream, hparts, -⟩ | ⟨-, htiles⟩ | ⟨-, hmap⟩
    · have htype : lineType line = some "TILE" := by rw [lineType, hparts]; rfl
      exact absurd htype (hlines line (by simp))
    · exact htiles
    · rw [hmap]

lemma loadLines_tiles (hlines : ∀ line ∈ lines, lineType line ≠ some "SIZE")
    (h : lines.foldlM (loadLine tileSet env) m = .ok m') :
    m'.map.maxMapSize = m.map.maxMapSize ∧
      m'.map.tileMap = lines.foldl (fun tiles line =>
        (m.map.filed tileSet line).elim tiles fun e => Dict.emplace e.1 e.2 tiles)
        m.map.tileMap := by
  induction lines generalizing m with
  | nil =>
    cases h
    exact ⟨rfl, rfl⟩
  | cons line lines ih =>
    obtain ⟨n, hline, hrest⟩ := foldlM_cons_ok.mp h
    have hn := loadLine_map (hlines line (by simp)) hline
    have hsize : n.map.maxMapSize = m.map.maxMapSize := by rw [hn]
    obtain ⟨hsize', htiles⟩ := ih (fun l hl => hlines l (by simp [hl])) hrest
    refine ⟨hsize'.trans hsize, ?_⟩
    rw [htiles, List.foldl_cons, hn]
    congr 1

lemma lookup_loadMap {sizes tiles : List String} (hempty : m.map.tileMap = ∅)
    (hsizes : ∀ line ∈ sizes, lineType line ≠ some "TILE")
    (htiles : ∀ line ∈ tiles, lineType line ≠ some "SIZE")
    (h : loadMap tileSet env (some (sizes ++ tiles)) m = .ok m') (key : ℕ) :
    m'.map.tileMap.lookup key = (sizes ++ tiles).findSome? (m'.map.filedUnder tileSet key) := by
  obtain ⟨n, hload, hrest⟩ := foldlM_append_ok.mp h
  obtain ⟨hsize, hmap⟩ := loadLines_tiles htiles hrest
  have hnone : sizes.findSome? (m'.map.filedUnder tileSet key) = none := by
    rw [List.findSome?_eq_none_iff]
    intro line hline
    rw [Map.filedUnder, filed_of_ne m'.map (hsizes line hline), Option.bind_none]
  have hfiled : ∀ line, n.map.filed tileSet line = m'.map.filed tileSet line :=
    fun line => filed_congr hsize.symm line
  rw [hmap, loadLines_sizes hsizes hload, hempty, Dict.lookup_foldl_emplace, AList.lookup_empty,
    Option.none_or, List.findSome?_append, hnone, Option.none_or]
  simp only [hfiled]
  rfl

/-- **What a map file says, the map has**, exactly if no line that names no cell comes first under
the number of one, unless the tile is the same. Such a line lacks a number, or its tile stands one
column or one row outside the map. -/
theorem loaded_iff (tileSet : TileSet F) (env : Env F) (m m' : MapLoad F)
    (hempty : m.map.tileMap = ∅) (sizes tiles : List String)
    (hsizes : ∀ line ∈ sizes, lineType line ≠ some "TILE")
    (htiles : ∀ line ∈ tiles, lineType line ≠ some "SIZE")
    (h : loadMap tileSet env (some (sizes ++ tiles)) m = .ok m')
    (hsmall : m'.map.maxMapSize.x * m'.map.maxMapSize.y * Sheet.Num_Layers ≤ 4294967296) :
    (∀ x y layer, m'.map.getTile x y layer =
      m'.map.described tileSet (sizes ++ tiles) x y layer) ↔
      m'.map.Undisturbed tileSet (sizes ++ tiles) := by
  have hlookup := lookup_loadMap hempty hsizes htiles h
  have hcell : ∀ x y layer, x < m'.map.maxMapSize.x → y < m'.map.maxMapSize.y →
      layer < Sheet.Num_Layers → m'.map.getTile x y layer =
        (sizes ++ tiles).findSome?
          (m'.map.filedUnder tileSet (m'.map.convertCoords x y layer)) := by
    intro x y layer hx hy hl
    rw [Map.getTile, if_neg (by omega), hlookup]
  have hfirst := fun x y layer => Dict.findSome?_eq_iff
    (f := m'.map.filedUnder tileSet (m'.map.convertCoords x y layer))
    (fun i b hi => Map.filedUnder_of_names (Dict.bind_key_eq_some.mp hi)) (sizes ++ tiles)
  constructor
  · intro hall x y layer hx hy hl before line after tile hlines hbefore hline hnone
    have heq := (hcell x y layer hx hy hl).symm.trans (hall x y layer)
    exact (hfirst x y layer).mp heq before line after tile hlines hbefore hline (by rw [hnone]; rfl)
  · intro hun x y layer
    by_cases hin : x < m'.map.maxMapSize.x ∧ y < m'.map.maxMapSize.y ∧ layer < Sheet.Num_Layers
    · obtain ⟨hx, hy, hl⟩ := hin
      rw [hcell x y layer hx hy hl]
      refine (hfirst x y layer).mpr ?_
      intro before line after tile hlines hbefore hline hnone
      refine hun x y layer hx hy hl before line after tile hlines hbefore hline ?_
      by_contra hsome
      -- a line that names a cell is filed under its number, and no other cell has that
      obtain ⟨⟨⟨x', y', layer'⟩, tile'⟩, hn⟩ := Option.ne_none_iff_exists'.mp hsome
      obtain ⟨hx', hy', hl'⟩ := Map.names_inside hn
      have hkey := Map.eq_of_filedUnder hline (Map.filedUnder_of_names hn)
      have hcoords := Map.convertCoords_inj hsmall hx hy hl hx' hy' hl' hkey.1
      rw [← hcoords] at hn
      rw [Dict.bind_key_eq_some.mpr hn] at hnone
      cases hnone
    · have hout : m'.map.getTile x y layer = none := by rw [Map.getTile, if_pos (by omega)]
      rw [hout, eq_comm, Map.described, List.findSome?_eq_none_iff]
      intro line _
      by_contra hsome
      obtain ⟨tile, htile⟩ := Option.ne_none_iff_exists'.mp hsome
      exact hin (Map.names_inside (Dict.bind_key_eq_some.mp htile))

/-! ### Two maps -/

/-- Surroundings without entity files. -/
def noEntities : Env ℚ := ⟨fun _ => true, fun _ => none, ⟨.Idle, 0, 0, false⟩, 0, fun _ => []⟩

def grass : TileInfo ℚ := ⟨1, ⟨1, 1⟩, "Grass", false⟩

def grassOnly : TileSet ℚ := AList.insert 1 grass ∅

def constructed : MapLoad ℚ := ⟨⟨∅, ⟨32, 32⟩⟩, ⟨0, 0, "", false⟩, .start⟩

/-- What a file makes of a map just constructed. -/
def ofLines (lines : List String) : MapLoad ℚ :=
  (loadMap grassOnly noEntities (some lines) constructed).toOption.getD constructed

lemma loadMap_ofLines {lines : List String}
    (h : (loadMap grassOnly noEntities (some lines) constructed).toBool = true) :
    loadMap grassOnly noEntities (some lines) constructed = .ok (ofLines lines) := by
  unfold ofLines
  cases hload : loadMap grassOnly noEntities (some lines) constructed with
  | ok m => rfl
  | error crash =>
    rw [hload] at h
    cases h

theorem loaded_iff_corner :
    ((ofLines (["SIZE 2 2"] ++ ["TILE 1 1 1 0 1 WARP"])).map.getTile 1 1 0).isSome = true ∧
    ∀ x y layer, (ofLines (["SIZE 2 2"] ++ ["TILE 1 1 1 0 1 WARP"])).map.getTile x y layer =
      (ofLines (["SIZE 2 2"] ++ ["TILE 1 1 1 0 1 WARP"])).map.described grassOnly
        (["SIZE 2 2"] ++ ["TILE 1 1 1 0 1 WARP"]) x y layer := by
  have hnamed : ∀ line ∈ ["SIZE 2 2"] ++ ["TILE 1 1 1 0 1 WARP"],
      ((ofLines (["SIZE 2 2"] ++ ["TILE 1 1 1 0 1 WARP"])).map.filed grassOnly line).isSome = true →
      ((ofLines (["SIZE 2 2"] ++ ["TILE 1 1 1 0 1 WARP"])).map.names grassOnly line).isSome =
      true := by
    decide +kernel
  refine ⟨by decide +kernel, ?_⟩
  refine (loaded_iff grassOnly noEntities constructed _ rfl ["SIZE 2 2"] ["TILE 1 1 1 0 1 WARP"]
    (by decide +kernel) (by decide +kernel) (loadMap_ofLines (by decide +kernel))
    (by decide +kernel)).mpr ?_
  intro x y layer _ _ _ before line after tile hlines _ hline hnone
  have hmem : line ∈ ["SIZE 2 2"] ++ ["TILE 1 1 1 0 1 WARP"] := by rw [hlines]; simp
  have hsome := hnamed line hmem
  rw [hnone] at hsome
  unfold Map.filedUnder at hline
  obtain ⟨e, he, -⟩ := Option.bind_eq_some_iff.mp hline
  rw [he] at hsome
  exact absurd (hsome rfl) (by decide)

/-- A tile one column outside stands in the next row of the map. -/
theorem border_tile_wraps :
    loadMap grassOnly noEntities (some (["SIZE 2 2"] ++ ["TILE 1 2 0 0 1"])) constructed =
      .ok (ofLines (["SIZE 2 2"] ++ ["TILE 1 2 0 0 1"])) ∧
    ((ofLines (["SIZE 2 2"] ++ ["TILE 1 2 0 0 1"])).map.getTile 0 1 0).isSome = true ∧
    ((ofLines (["SIZE 2 2"] ++ ["TILE 1 2 0 0 1"])).map.described grassOnly
      (["SIZE 2 2"] ++ ["TILE 1 2 0 0 1"]) 0 1 0).isNone = true :=
  ⟨loadMap_ofLines (by decide +kernel), by decide +kernel, by decide +kernel⟩

end MapLoad

end Load

end Sfrpg
