import Sfrpg.MapFile

/-!
Where the tiles of a map come from.

A tile that stands in a map after `loadMap` stood there before, or was filed by a line of the file,
in a map of the size read so far. Which cell the line names is told by the number only if 32 bits
can number the cells of the map; the number is then computed without a reduction.
-/

namespace Sfrpg

open Lib Lib.Run

namespace MapLoad

variable {F : Type} [Field F]

/-- `loadMap` comes to `line` with what it has made of `start` so far. -/
def Reads (tileSet : TileSet F) (env : Env F) (file : Option (List String)) (start now : MapLoad F)
    (line : String) : Prop :=
  ∃ before after, file = some (before ++ line :: after) ∧
    before.foldlM (loadLine tileSet env) start = .ok now

/-- What `getTile` returns was in the map before, or was filed by a line that names no other cell. A
line that names no cell of the map may have filed it, or one that was read in a map of another
size. -/
def ShowsOwn (tileSet : TileSet F) (env : Env F) (file : Option (List String))
    (start m : MapLoad F) : Prop :=
  ∀ (c : Cell m.map.maxMapSize) tile, m.map.getTile c.x c.y c.layer = some tile →
    start.map.tileMap.lookup (m.map.convertCoords c.x c.y c.layer) = some tile ∨
    ∃ now line, Reads tileSet env file start now line ∧
      now.map.filedUnder tileSet (m.map.convertCoords c.x c.y c.layer) line = some tile ∧
      (now.map.maxMapSize = m.map.maxMapSize → ∀ (c' : Cell m.map.maxMapSize) tile',
        now.map.names tileSet line = some (c'.coords, tile') → c' = c)

variable {tileSet : TileSet F} {env : Env F} {file : Option (List String)}
  {start m m' : MapLoad F} {line : String} {number : ℕ} {tile : Tile F}

lemma loadLine_brings (h : loadLine tileSet env m line = .ok m')
    (hbefore : m.map.tileMap.lookup number ≠ some tile)
    (hafter : m'.map.tileMap.lookup number = some tile) :
    m.map.filedUnder tileSet number line = some tile := by
  rcases loadLine_cases h with ⟨keystream, hparts, hmap⟩ | ⟨-, htiles⟩ | ⟨-, hmap⟩
  · rw [hmap, loadTile_eq keystream m.map hparts] at hafter
    cases hfiled : m.map.filed tileSet line with
    | none =>
      rw [hfiled] at hafter
      exact absurd hafter hbefore
    | some e =>
      rw [hfiled] at hafter
      obtain hthere | ⟨hkey, htile⟩ := Dict.lookup_emplace_some hafter
      · exact absurd hthere hbefore
      · rw [Map.filedUnder, hfiled, Option.bind_some, if_pos hkey, htile]
  · rw [htiles] at hafter
    exact absurd hafter hbefore
  · rw [hmap] at hafter
    exact absurd hafter hbefore

lemma loadMap_origin (h : loadMap tileSet env file start = .ok m)
    (htile : m.map.tileMap.lookup number = some tile) :
    start.map.tileMap.lookup number = some tile ∨
      ∃ now line, Reads tileSet env file start now line ∧
        now.map.filedUnder tileSet number line = some tile := by
  cases file with
  | none =>
    cases h
    exact .inl htile
  | some lines =>
    by_cases hstart : start.map.tileMap.lookup number = some tile
    · exact .inl hstart
    obtain ⟨before, line, after, now, next, hlines, hnow, hline, hno, hyes⟩ := foldlM_exists_step
      (P := fun n : MapLoad F => n.map.tileMap.lookup number = some tile) h hstart htile
    exact .inr ⟨now, line, ⟨before, after, by rw [hlines], hnow⟩, loadLine_brings hline hno hyes⟩

omit [Field F] in
/-- Where the cells have distinct numbers, a line filed under the number of a cell names no other.
-/
lemma eq_of_names {n m : Map F} (hsize : n.maxMapSize = m.maxMapSize)
    (hinj : Function.Injective fun c : Cell m.maxMapSize => m.convertCoords c.x c.y c.layer)
    {c c' : Cell m.maxMapSize} {tile' : Tile F}
    (hfiled : n.filedUnder tileSet (m.convertCoords c.x c.y c.layer) line = some tile)
    (hnames : n.names tileSet line = some (c'.coords, tile')) : c' = c := by
  have hfiled' := Map.filedUnder_of_names hnames
  rw [Map.convertCoords_congr hsize] at hfiled'
  exact hinj (Map.eq_of_filedUnder hfiled' hfiled).1

/-- **The cells of a map** have distinct numbers exactly if there are at most 2^32 of them. No
product or sum on the way to a number is reduced then, and no cell shows the tile of another. -/
theorem cells_apart_iff (tileSet : TileSet F) (env : Env F) (m : MapLoad F) :
    (Function.Injective (fun c : Cell m.map.maxMapSize => m.map.convertCoords c.x c.y c.layer) ↔
      4 * m.map.maxMapSize.x * m.map.maxMapSize.y ≤ 4294967296) ∧
    (4 * m.map.maxMapSize.x * m.map.maxMapSize.y ≤ 4294967296 →
      (∀ c : Cell m.map.maxMapSize, m.map.convertCoordsChecked c.x c.y c.layer =
        some (m.map.convertCoords c.x c.y c.layer)) ∧
      (∀ (c c' : Cell m.map.maxMapSize) tile, c' ≠ c →
        Map.getTile c.x c.y c.layer { m.map with
          tileMap := Dict.emplace (m.map.convertCoords c'.x c'.y c'.layer) tile m.map.tileMap } =
            m.map.getTile c.x c.y c.layer) ∧
      ∀ file start, loadMap tileSet env file start = .ok m →
        ShowsOwn tileSet env file start m) := by
  have hcount : Sheet.Num_Layers * m.map.maxMapSize.y * m.map.maxMapSize.x =
      4 * m.map.maxMapSize.x * m.map.maxMapSize.y := Nat.mul_right_comm _ _ _
  have hiff := m.map.convertCoords_injective_iff
  rw [hcount] at hiff
  refine ⟨hiff, fun hsmall => ⟨?_, ?_, ?_⟩⟩
  · exact m.map.convertCoordsChecked_eq (hcount.trans_le hsmall)
  · intro c c' tile hne
    exact Map.getTile_emplace (hiff.mpr hsmall) hne tile
  · intro file start hload c tile htile
    rw [Map.getTile_cell] at htile
    obtain hthere | ⟨now, line, hreads, hfiled⟩ := loadMap_origin hload htile
    · exact .inl hthere
    · refine .inr ⟨now, line, hreads, hfiled, fun hsize c' tile' hnames => ?_⟩
      exact eq_of_names hsize (hiff.mpr hsmall) hfiled hnames

/-- A tile in the last row and column of a map of two each. -/
theorem cells_apart_iff_corner :
    let m := ofLines ["SIZE 2 2", "TILE 1 1 1 0 1"]
    (m.map.getTile 1 1 0).isSome = true ∧
      Function.Injective (fun c : Cell m.map.maxMapSize => m.map.convertCoords c.x c.y c.layer) ∧
      ShowsOwn grassOnly noEntities (some ["SIZE 2 2", "TILE 1 1 1 0 1"]) constructed m := by
  intro m
  obtain ⟨hiff, hsmall⟩ := cells_apart_iff grassOnly noEntities m
  refine ⟨by decide +kernel, hiff.mpr (by decide +kernel), ?_⟩
  exact (hsmall (by decide +kernel)).2.2 _ _ (loadMap_ofLines (by decide +kernel))

end MapLoad

end Sfrpg
