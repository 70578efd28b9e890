import Mathlib.Data.List.Sort
import Sfrpg.Lib.Dict
import Sfrpg.Lib.Word
import Sfrpg.Components

/-!
The map of tiles, and the rectangles that meet on it.

`Setting` holds what `S_Movement` and `S_Collision` work with besides the entities: the map they
were both given, and the library functions whose result is not determined by exact arithmetic.
-/

namespace Sfrpg

open Lib Lib.Word

namespace Sheet

def Tile_Size : ℕ := 32
def Num_Layers : ℕ := 4

end Sheet

/-- A kind of tile. -/
structure TileInfo (F : Type) where
  id : ℕ
  friction : Vector2f F
  name : String
  deadly : Bool

structure Tile (F : Type) where
  properties : TileInfo F
  solid : Bool
  warp : Bool

structure Vector2u where
  x : ℕ
  y : ℕ

structure Map (F : Type) where
  tileMap : Dict ℕ (Tile F)
  maxMapSize : Vector2u

namespace Map

variable {F : Type}

def convertCoords (x y layer : ℕ) (m : Map F) : ℕ :=
  ((layer * m.maxMapSize.y + y) * m.maxMapSize.x + x) % 4294967296

def getTile (x y layer : ℕ) (m : Map F) : Option (Tile F) :=
  if m.maxMapSize.x ≤ x ∨ m.maxMapSize.y ≤ y ∨ Sheet.Num_Layers ≤ layer then none
  else m.tileMap.lookup (m.convertCoords x y layer)

/-- The tile at a layer, or the next one below it. -/
def tileFrom (x y : ℕ) (m : Map F) : ℕ → Option (Tile F)
  | 0 => m.getTile x y 0
  | layer + 1 =>
    match m.getTile x y (layer + 1) with
    | some tile => some tile
    | none => m.tileFrom x y layer

/-- `mapSize * tileSize` in one direction, as the unsigned product. -/
def extent (size : ℕ) : ℕ := (size * Sheet.Tile_Size) % 4294967296

end Map

/-! ### Rectangles -/

section Rectangles

variable {F : Type} [Field F] [LinearOrder F]

/-- `sf::FloatRect::intersects` with its second result. Sizes may be negative. -/
def FloatRect.intersection (a b : FloatRect F) : Option (FloatRect F) :=
  let left := max (min a.left (a.left + a.width)) (min b.left (b.left + b.width))
  let top := max (min a.top (a.top + a.height)) (min b.top (b.top + b.height))
  let right := min (max a.left (a.left + a.width)) (max b.left (b.left + b.width))
  let bottom := min (max a.top (a.top + a.height)) (max b.top (b.top + b.height))
  if left < right ∧ top < bottom then some ⟨left, top, right - left, bottom - top⟩ else none

def FloatRect.intersects (a b : FloatRect F) : Bool := (a.intersection b).isSome

def FloatRect.overlap (a b : FloatRect F) : F :=
  match a.intersection b with
  | none => 0
  | some r => r.width * r.height

end Rectangles

/-- The properties of a solid tile are not read once it is found. -/
structure CollisionElement (F : Type) where
  area : F
  tileBounds : FloatRect F
  deriving DecidableEq

/-- The surroundings of the systems. `sort` is `std::sort` with the order of `mapCollisions`: what
it makes of equal areas is left open. -/
structure Setting (F : Type) [LE F] where
  map : Map F
  sqrt : F → F
  sort : List (CollisionElement F) → List (CollisionElement F)
  sort_perm : ∀ l, (sort l).Perm l
  sort_desc : ∀ l, (sort l).Pairwise fun c₁ c₂ => c₂.area ≤ c₁.area

/-- An empty map, and sorting that keeps equal areas in place. -/
def Setting.empty (F : Type) [LinearOrder F] : Setting F where
  map := ⟨∅, ⟨32, 32⟩⟩
  sqrt := id
  sort := List.insertionSort fun c₁ c₂ => c₂.area ≤ c₁.area
  sort_perm := List.perm_insertionSort _
  sort_desc l := by
    have htrans : IsTrans (CollisionElement F) fun c₁ c₂ => c₂.area ≤ c₁.area :=
      ⟨fun _ _ _ h h' => h'.trans h⟩
    have htotal : Std.Total fun c₁ c₂ : CollisionElement F => c₂.area ≤ c₁.area :=
      ⟨fun _ _ => le_total _ _⟩
    exact List.pairwise_insertionSort _ l

end Sfrpg
