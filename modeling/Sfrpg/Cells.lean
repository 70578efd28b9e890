import Sfrpg.Map

/-!
Cells and their numbers.

A map files its tiles under numbers of 32 bits. `convertCoords` writes the coordinates of a cell as
three digits, whose bases are the layers and the sides of the map, and the sides are as large as the
file of the map says.
-/

namespace Sfrpg

open Lib Lib.Word

/-- A place for a tile, in a map of a size. -/
structure Cell (size : Vector2u) where
  x : ℕ
  y : ℕ
  layer : ℕ
  x_lt : x < size.x
  y_lt : y < size.y
  layer_lt : layer < Sheet.Num_Layers

namespace Cell

variable {size : Vector2u}

def coords (c : Cell size) : ℕ × ℕ × ℕ := (c.x, c.y, c.layer)

/-- The digits of a cell, the last one the column. -/
def digits (size : Vector2u) :
    Cell size ≃ (Fin Sheet.Num_Layers × Fin size.y) × Fin size.x where
  toFun c := ((⟨c.layer, c.layer_lt⟩, ⟨c.y, c.y_lt⟩), ⟨c.x, c.x_lt⟩)
  invFun p := ⟨p.2, p.1.2, p.1.1, p.2.isLt, p.1.2.isLt, p.1.1.isLt⟩
  left_inv _ := rfl
  right_inv _ := rfl

/-- The cells of a map, numbered layer by layer and row by row. -/
def number (size : Vector2u) : Cell size ≃ Fin (Sheet.Num_Layers * size.y * size.x) :=
  (digits size).trans (withDigit (withDigit (.refl _) size.y) size.x)

lemma number_val (c : Cell size) :
    (number size c : ℕ) = (c.layer * size.y + c.y) * size.x + c.x := by
  calc (number size c : ℕ)
      = withDigit (withDigit (.refl _) size.y) size.x
          ((⟨c.layer, c.layer_lt⟩, ⟨c.y, c.y_lt⟩), ⟨c.x, c.x_lt⟩) := rfl
    _ = withDigit (.refl _) size.y (⟨c.layer, c.layer_lt⟩, ⟨c.y, c.y_lt⟩) * size.x + c.x :=
        withDigit_val _ _ _
    _ = (c.layer * size.y + c.y) * size.x + c.x := by
        rw [withDigit_val]
        rfl

end Cell

namespace Map

variable {F : Type} (m : Map F)

/-- `convertCoords` with every product and sum checked. -/
def convertCoordsChecked (x y layer : ℕ) (m : Map F) : Option ℕ := do
  let layers ← fitUInt32 (layer * m.maxMapSize.y)
  let rows ← fitUInt32 (layers + y)
  let cells ← fitUInt32 (rows * m.maxMapSize.x)
  fitUInt32 (cells + x)

lemma convertCoords_uint32 (tiles : Dict ℕ (Tile F)) (W H x y layer : UInt32) :
    convertCoords x.toNat y.toNat layer.toNat ⟨tiles, ⟨W.toNat, H.toNat⟩⟩ =
      ((layer * H + y) * W + x).toNat := by
  simp [convertCoords, Nat.add_mod, Nat.mul_mod]

variable {m} in
lemma convertCoords_congr {n : Map F} (h : n.maxMapSize = m.maxMapSize) (x y layer : ℕ) :
    n.convertCoords x y layer = m.convertCoords x y layer := by
  rw [convertCoords, convertCoords, h]

lemma convertCoords_cell (c : Cell m.maxMapSize) :
    m.convertCoords c.x c.y c.layer = (Cell.number m.maxMapSize c : ℕ) % 4294967296 := by
  rw [Cell.number_val, convertCoords]

/-- **The numbers of the cells** are distinct exactly if 32 bits can tell that many apart. -/
lemma convertCoords_injective_iff :
    Function.Injective (fun c : Cell m.maxMapSize => m.convertCoords c.x c.y c.layer) ↔
      Sheet.Num_Layers * m.maxMapSize.y * m.maxMapSize.x ≤ 4294967296 := by
  rw [← injective_mod_iff (Cell.number m.maxMapSize) (by decide)]
  simp only [convertCoords_cell]

example : (⟨∅, ⟨65536, 32768⟩⟩ : Map ℚ).convertCoords 0 0 2 =
    (⟨∅, ⟨65536, 32768⟩⟩ : Map ℚ).convertCoords 0 0 0 := by
  decide

variable {m} in
lemma convertCoords_inj {x y layer x' y' layer' : ℕ}
    (hsmall : m.maxMapSize.x * m.maxMapSize.y * Sheet.Num_Layers ≤ 4294967296)
    (hx : x < m.maxMapSize.x) (hy : y < m.maxMapSize.y) (hl : layer < Sheet.Num_Layers)
    (hx' : x' < m.maxMapSize.x) (hy' : y' < m.maxMapSize.y) (hl' : layer' < Sheet.Num_Layers)
    (h : m.convertCoords x y layer = m.convertCoords x' y' layer') :
    (x, y, layer) = (x', y', layer') := by
  let c : Cell m.maxMapSize := ⟨x, y, layer, hx, hy, hl⟩
  let c' : Cell m.maxMapSize := ⟨x', y', layer', hx', hy', hl'⟩
  have hcount : Sheet.Num_Layers * m.maxMapSize.y * m.maxMapSize.x =
      m.maxMapSize.x * m.maxMapSize.y * Sheet.Num_Layers := by ring
  have heq : c = c' := m.convertCoords_injective_iff.mpr (hcount.trans_le hsmall) h
  exact congrArg Cell.coords heq

lemma convertCoordsChecked_eq
    (hsmall : Sheet.Num_Layers * m.maxMapSize.y * m.maxMapSize.x ≤ 4294967296)
    (c : Cell m.maxMapSize) :
    m.convertCoordsChecked c.x c.y c.layer = some (m.convertCoords c.x c.y c.layer) := by
  have hnumber : (c.layer * m.maxMapSize.y + c.y) * m.maxMapSize.x + c.x < 4294967296 := by
    rw [← Cell.number_val]
    exact (Cell.number m.maxMapSize c).isLt.trans_le hsmall
  have hrow : c.layer * m.maxMapSize.y + c.y ≤ (c.layer * m.maxMapSize.y + c.y) * m.maxMapSize.x :=
    Nat.le_mul_of_pos_right _ (Nat.zero_lt_of_lt c.x_lt)
  have hlayers := fitUInt32_of_lt (show c.layer * m.maxMapSize.y < 4294967296 by omega)
  have hrows := fitUInt32_of_lt (show c.layer * m.maxMapSize.y + c.y < 4294967296 by omega)
  have hcells := fitUInt32_of_lt
    (show (c.layer * m.maxMapSize.y + c.y) * m.maxMapSize.x < 4294967296 by omega)
  simp only [convertCoordsChecked, hlayers, hrows, hcells, fitUInt32_of_lt hnumber,
    Option.bind_eq_bind, Option.bind_some]
  rw [convertCoords, Nat.mod_eq_of_lt hnumber]

variable {m}

lemma getTile_cell (c : Cell m.maxMapSize) :
    m.getTile c.x c.y c.layer = m.tileMap.lookup (m.convertCoords c.x c.y c.layer) := by
  obtain ⟨hx, hy, hl⟩ := And.intro c.x_lt (And.intro c.y_lt c.layer_lt)
  rw [getTile, if_neg (by omega)]

lemma getTile_emplace
    (hinj : Function.Injective fun c : Cell m.maxMapSize => m.convertCoords c.x c.y c.layer)
    {c c' : Cell m.maxMapSize} (h : c' ≠ c) (tile : Tile F) :
    getTile c.x c.y c.layer
      { m with tileMap := Dict.emplace (m.convertCoords c'.x c'.y c'.layer) tile m.tileMap } =
        m.getTile c.x c.y c.layer := by
  have hkey : m.convertCoords c.x c.y c.layer ≠ m.convertCoords c'.x c'.y c'.layer :=
    fun heq => h (hinj heq.symm)
  let filed : Map F :=
    { m with tileMap := Dict.emplace (m.convertCoords c'.x c'.y c'.layer) tile m.tileMap }
  calc filed.getTile c.x c.y c.layer
      = filed.tileMap.lookup (m.convertCoords c.x c.y c.layer) := getTile_cell (m := filed) c
    _ = m.tileMap.lookup (m.convertCoords c.x c.y c.layer) := Dict.lookup_emplace_ne hkey tile _
    _ = m.getTile c.x c.y c.layer := (getTile_cell c).symm

end Map

end Sfrpg
