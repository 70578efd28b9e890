import Mathlib.Data.List.ProdSigma
import Mathlib.Data.Rat.Floor
import Mathlib.Tactic.Linarith
import Mathlib.Tactic.Positivity
import Sfrpg.Updates

/-!
The candidates of a collision with the map.

`mapCollisions` goes through the cells between the corners of a box and gathers the solid ones that
the box overlaps. The bounds of a cell are an unsigned product, so a cell from column or row 2^27 on
has those of another one.
-/

namespace Sfrpg

open Lib Lib.Word

/-- An element of `Collisions`, with the tile that `mapCollisions` does not read again. -/
structure Candidate (F : Type) extends CollisionElement F where
  tile : TileInfo F

variable {F : Type} [Field F] [LinearOrder F] [FloorRing F]

namespace S_Collision

/-- The bounds `mapCollisions` computes for a cell. -/
def tileBoundsAt (x y : ℕ) : FloatRect F :=
  ⟨Map.extent x, Map.extent y, Sheet.Tile_Size, Sheet.Tile_Size⟩

/-- The loop over the layers. -/
def candidateAt (map : Map F) (entityAABB : FloatRect F) (x y : ℤ) : Option (Candidate F) :=
  let tx := (toUInt32 x).toNat
  let ty := (toUInt32 y).toNat
  let area := entityAABB.overlap (tileBoundsAt tx ty)
  (List.range Sheet.Num_Layers).findSome? fun layer =>
    match map.getTile tx ty layer with
    | none => none
    | some tile =>
      if tile.solid ∧ area ≠ 0 then some ⟨⟨area, tileBoundsAt tx ty⟩, tile.properties⟩ else none

/-- `floor` as an `int`, which is not defined where it does not fit. -/
def cellOf (x : F) : Option ℤ :=
  if InInt32 ⌊x / Sheet.Tile_Size⌋ then some ⌊x / Sheet.Tile_Size⌋ else none

/-- The candidates, in the order of the loops. The counter of a loop overflows behind the last
`int`. -/
def gather (map : Map F) (entityAABB : FloatRect F) : Option (List (Candidate F)) := do
  let fromX ← cellOf entityAABB.left
  let toX ← cellOf (entityAABB.left + entityAABB.width)
  let fromY ← cellOf entityAABB.top
  let toY ← cellOf (entityAABB.top + entityAABB.height)
  if toX = 2147483647 ∨ toY = 2147483647 then none
  else some ((between fromX toX).flatMap fun x =>
    (between fromY toY).filterMap (candidateAt map entityAABB x))

/-! ### What the list is meant to hold -/

/-- The bounds of a cell. -/
def cellBounds (x y : ℕ) : FloatRect F :=
  ⟨x * Sheet.Tile_Size, y * Sheet.Tile_Size, Sheet.Tile_Size, Sheet.Tile_Size⟩

/-- The lowest solid tile of a cell. -/
def lowestSolid (map : Map F) (x y : ℕ) : Option (Tile F) :=
  (List.range Sheet.Num_Layers).findSome? fun layer =>
    (map.getTile x y layer).bind fun tile => if tile.solid then some tile else none

/-- The candidate of a solid cell of the map that the box overlaps. -/
def Meant (map : Map F) (box : FloatRect F) (c : Candidate F) : Prop :=
  ∃ x y tile, (x < map.maxMapSize.x ∧ y < map.maxMapSize.y) ∧ lowestSolid map x y = some tile ∧
    0 < box.overlap (cellBounds x y) ∧
    c = ⟨⟨box.overlap (cellBounds x y), cellBounds x y⟩, tile.properties⟩

/-- Cells that the numbers of the loops can reach and leave behind. -/
def Countable (box : FloatRect F) : Prop :=
  (InInt32 ⌊box.left / Sheet.Tile_Size⌋ ∧ InInt32 ⌊box.top / Sheet.Tile_Size⌋) ∧
    (InInt32 ⌊(box.left + box.width) / Sheet.Tile_Size⌋ ∧
      InInt32 ⌊(box.top + box.height) / Sheet.Tile_Size⌋) ∧
    ⌊(box.left + box.width) / Sheet.Tile_Size⌋ ≠ 2147483647 ∧
    ⌊(box.top + box.height) / Sheet.Tile_Size⌋ ≠ 2147483647

/-- The cell is one of those the loops go through. -/
def Visited (box : FloatRect F) (x y : ℕ) : Prop :=
  (⌊box.left / Sheet.Tile_Size⌋ ≤ x ∧ (x : ℤ) ≤ ⌊(box.left + box.width) / Sheet.Tile_Size⌋) ∧
    ⌊box.top / Sheet.Tile_Size⌋ ≤ y ∧ (y : ℤ) ≤ ⌊(box.top + box.height) / Sheet.Tile_Size⌋

/-- A solid cell whose bounds do not fit, and which the box overlaps where it is or where its bounds
are taken to be. -/
def Misplaced (map : Map F) (box : FloatRect F) (x y : ℕ) : Prop :=
  (134217728 ≤ x ∨ 134217728 ≤ y) ∧ (lowestSolid map x y).isSome = true ∧ Visited box x y ∧
    (0 < box.overlap (cellBounds x y) ∨ 0 < box.overlap (tileBoundsAt x y))

/-! ### Lists -/

lemma between_eq (a b : ℤ) :
    between a b = (List.range (b + 1 - a).toNat).map fun i : ℕ => a + (i : ℤ) := by
  simp [between, List.map_eq_flatMap, List.flatMap_assoc]

lemma mem_between {a b x : ℤ} : x ∈ between a b ↔ a ≤ x ∧ x ≤ b := by
  rw [between_eq, List.mem_map]
  constructor
  · rintro ⟨i, hi, rfl⟩
    rw [List.mem_range] at hi
    omega
  · rintro ⟨h1, h2⟩
    exact ⟨(x - a).toNat, by rw [List.mem_range]; omega, by omega⟩

lemma nodup_between (a b : ℤ) : (between a b).Nodup := by
  rw [between_eq]
  refine List.Nodup.map (fun i j h => ?_) List.nodup_range
  omega

lemma nodup_filterMap_iff {ι β : Type*} {f : ι → Option β} {l : List ι} (hl : l.Nodup) :
    (l.filterMap f).Nodup ↔
      ∀ i ∈ l, ∀ j ∈ l, ∀ b, f i = some b → f j = some b → i = j := by
  induction l with
  | nil => simp
  | cons a l ih =>
    obtain ⟨hnot, hnodup⟩ := List.nodup_cons.mp hl
    cases hf : f a with
    | none =>
      rw [List.filterMap_cons_none hf, ih hnodup]
      constructor
      · intro h i hi j hj b hib hjb
        rcases List.mem_cons.mp hi with rfl | hi
        · rw [hf] at hib
          cases hib
        rcases List.mem_cons.mp hj with rfl | hj
        · rw [hf] at hjb
          cases hjb
        exact h i hi j hj b hib hjb
      · intro h i hi j hj
        exact h i (List.mem_cons_of_mem a hi) j (List.mem_cons_of_mem a hj)
    | some c =>
      rw [List.filterMap_cons_some hf, List.nodup_cons, ih hnodup, List.mem_filterMap]
      constructor
      · rintro ⟨hc, h⟩ i hi j hj b hib hjb
        rcases List.mem_cons.mp hi with rfl | hi
        · rcases List.mem_cons.mp hj with rfl | hj
          · rfl
          · rw [hf, Option.some.injEq] at hib
            subst hib
            exact absurd ⟨j, hj, hjb⟩ hc
        · rcases List.mem_cons.mp hj with hja | hj
          · rw [hja, hf, Option.some.injEq] at hjb
            subst hjb
            exact absurd ⟨i, hi, hib⟩ hc
          · exact h i hi j hj b hib hjb
      · intro h
        refine ⟨?_, fun i hi j hj => h i (List.mem_cons_of_mem a hi) j (List.mem_cons_of_mem a hj)⟩
        rintro ⟨j, hj, hjc⟩
        obtain rfl := h a List.mem_cons_self j (List.mem_cons_of_mem a hj) c hf hjc
        exact hnot hj

lemma flatMap_filterMap {α β γ : Type*} (f : α → β → Option γ) (l : List α) (m : List β) :
    (l.flatMap fun x => m.filterMap (f x)) = (l ×ˢ m).filterMap fun p => f p.1 p.2 := by
  change _ = (l.flatMap fun x => m.map (Prod.mk x)).filterMap fun p => f p.1 p.2
  rw [List.filterMap_flatMap]
  simp only [List.filterMap_map]
  rfl

/-! ### One cell -/

omit [FloorRing F] in
lemma candidateAt_natCast (map : Map F) (box : FloatRect F) {x y : ℕ} (hx : x < 4294967296)
    (hy : y < 4294967296) :
    candidateAt map box x y = (lowestSolid map x y).bind fun tile =>
      if box.overlap (tileBoundsAt x y) ≠ 0 then
        some ⟨⟨box.overlap (tileBoundsAt x y), tileBoundsAt x y⟩, tile.properties⟩
      else none := by
  have hlayers : ∀ layers : List ℕ, (layers.findSome? fun layer =>
      match map.getTile x y layer with
      | none => none
      | some tile => if tile.solid ∧ box.overlap (tileBoundsAt x y) ≠ 0 then
          some (⟨⟨box.overlap (tileBoundsAt x y), tileBoundsAt x y⟩, tile.properties⟩ : Candidate F)
        else none) =
      (layers.findSome? fun layer =>
        (map.getTile x y layer).bind fun tile => if tile.solid then some tile else none).bind
        fun tile => if box.overlap (tileBoundsAt x y) ≠ 0 then
          some ⟨⟨box.overlap (tileBoundsAt x y), tileBoundsAt x y⟩, tile.properties⟩ else none := by
    intro layers
    induction layers with
    | nil => rfl
    | cons layer layers ih =>
      rw [List.findSome?_cons, List.findSome?_cons, ih]
      cases map.getTile x y layer with
      | none => rfl
      | some tile =>
        by_cases hsolid : tile.solid = true
        · by_cases harea : box.overlap (tileBoundsAt x y) = 0
          · simp [hsolid, harea]
          · simp [hsolid, harea]
        · simp [hsolid]
  have htx : (toUInt32 x).toNat = x := by unfold toUInt32; omega
  have hty : (toUInt32 y).toNat = y := by unfold toUInt32; omega
  rw [candidateAt, htx, hty]
  exact hlayers _

omit [FloorRing F] in
lemma candidateAt_neg (map : Map F) (box : FloatRect F) {x y : ℤ} (hx : InInt32 x) (hy : InInt32 y)
    (hneg : x < 0 ∨ y < 0) (hw : map.maxMapSize.x < 2147483648)
    (hh : map.maxMapSize.y < 2147483648) : candidateAt map box x y = none := by
  unfold InInt32 at hx hy
  have hout : map.maxMapSize.x ≤ (toUInt32 x).toNat ∨ map.maxMapSize.y ≤ (toUInt32 y).toNat := by
    unfold toUInt32
    omega
  rw [candidateAt, List.findSome?_eq_none_iff]
  intro layer _
  rw [Map.getTile, if_pos (by omega)]

lemma gather_eq (map : Map F) (box : FloatRect F) (h : Countable box) :
    gather map box = some ((between ⌊box.left / Sheet.Tile_Size⌋
        ⌊(box.left + box.width) / Sheet.Tile_Size⌋ ×ˢ between ⌊box.top / Sheet.Tile_Size⌋
        ⌊(box.top + box.height) / Sheet.Tile_Size⌋).filterMap
          fun p => candidateAt map box p.1 p.2) := by
  obtain ⟨⟨hleft, htop⟩, ⟨hright, hbottom⟩, hx, hy⟩ := h
  rw [← flatMap_filterMap, gather, cellOf, if_pos hleft, cellOf, if_pos hright, cellOf, if_pos htop,
    cellOf, if_pos hbottom]
  exact if_neg (not_or.mpr ⟨hx, hy⟩)

lemma countable_of_gather {map : Map F} {box : FloatRect F} {l : List (Candidate F)}
    (h : gather map box = some l) : Countable box := by
  have hcell : ∀ {x : F} {n : ℤ}, cellOf x = some n →
      ⌊x / Sheet.Tile_Size⌋ = n ∧ InInt32 ⌊x / Sheet.Tile_Size⌋ := by
    intro x n hn
    rw [cellOf, Option.ite_none_right_eq_some, Option.some.injEq] at hn
    exact ⟨hn.2, hn.1⟩
  unfold gather at h
  obtain ⟨fromX, hfromX, h⟩ := Option.bind_eq_some_iff.mp h
  obtain ⟨toX, htoX, h⟩ := Option.bind_eq_some_iff.mp h
  obtain ⟨fromY, hfromY, h⟩ := Option.bind_eq_some_iff.mp h
  obtain ⟨toY, htoY, h⟩ := Option.bind_eq_some_iff.mp h
  split at h
  · cases h
  · next hend =>
    obtain ⟨hx, hy⟩ := not_or.mp hend
    refine ⟨⟨(hcell hfromX).2, (hcell hfromY).2⟩, ⟨(hcell htoX).2, (hcell htoY).2⟩, ?_, ?_⟩
    · rwa [(hcell htoX).1]
    · rwa [(hcell htoY).1]

section Ordered

variable [IsStrictOrderedRing F] {map : Map F} {box : FloatRect F}

omit [FloorRing F] in
lemma overlap_nonneg (a b : FloatRect F) : 0 ≤ a.overlap b := by
  rw [FloatRect.overlap, FloatRect.intersection]
  split
  · exact le_refl 0
  · next r hr =>
    rw [Option.ite_none_right_eq_some, Option.some.injEq] at hr
    obtain ⟨⟨hx, hy⟩, rfl⟩ := hr
    exact mul_nonneg (sub_nonneg.mpr hx.le) (sub_nonneg.mpr hy.le)

omit [FloorRing F] in
lemma overlap_pos_iff (hw : 0 < box.width) (hh : 0 < box.height) {left top : F} :
    0 < box.overlap ⟨left, top, Sheet.Tile_Size, Sheet.Tile_Size⟩ ↔
      (box.left < left + Sheet.Tile_Size ∧ left < box.left + box.width) ∧
        box.top < top + Sheet.Tile_Size ∧ top < box.top + box.height := by
  have hsize : (0 : F) < Sheet.Tile_Size := by norm_num [Sheet.Tile_Size]
  have hedges : ∀ {a size : F}, 0 < size → min a (a + size) = a ∧ max a (a + size) = a + size :=
    fun hpos => ⟨min_eq_left (by linarith), max_eq_right (by linarith)⟩
  rw [FloatRect.overlap, FloatRect.intersection]
  simp only [hedges hw, hedges hh, hedges hsize]
  constructor
  · intro hpos
    split at hpos
    · exact absurd hpos (lt_irrefl 0)
    · next r hr =>
      obtain ⟨⟨hx, hy⟩, -⟩ := Option.ite_none_right_eq_some.mp hr
      rw [max_lt_iff, lt_min_iff, lt_min_iff] at hx hy
      exact ⟨⟨hx.1.2, hx.2.1⟩, hy.1.2, hy.2.1⟩
  · rintro ⟨⟨hx1, hx2⟩, hy1, hy2⟩
    have hx : max box.left left < min (box.left + box.width) (left + Sheet.Tile_Size) :=
      max_lt (lt_min (by linarith) hx1) (lt_min hx2 (by linarith))
    have hy : max box.top top < min (box.top + box.height) (top + Sheet.Tile_Size) :=
      max_lt (lt_min (by linarith) hy1) (lt_min hy2 (by linarith))
    rw [if_pos ⟨hx, hy⟩]
    exact mul_pos (sub_pos.mpr hx) (sub_pos.mpr hy)

lemma floor_le_cell {a : F} {n : ℕ} (h : a < n * Sheet.Tile_Size + Sheet.Tile_Size) :
    ⌊a / Sheet.Tile_Size⌋ ≤ n := by
  have hsize : (0 : F) < Sheet.Tile_Size := by norm_num [Sheet.Tile_Size]
  rw [← Int.lt_add_one_iff, Int.floor_lt, div_lt_iff₀ hsize]
  push_cast
  linarith

lemma cell_le_floor {a : F} {n : ℕ} (h : n * Sheet.Tile_Size < a) :
    (n : ℤ) ≤ ⌊a / Sheet.Tile_Size⌋ := by
  have hsize : (0 : F) < Sheet.Tile_Size := by norm_num [Sheet.Tile_Size]
  rw [Int.le_floor, le_div_iff₀ hsize]
  push_cast
  exact h.le

lemma visited_of_overlap (hw : 0 < box.width) (hh : 0 < box.height) {x y : ℕ}
    (h : 0 < box.overlap (cellBounds x y)) : Visited box x y := by
  obtain ⟨⟨hx1, hx2⟩, hy1, hy2⟩ := (overlap_pos_iff hw hh).mp h
  exact ⟨⟨floor_le_cell hx1, cell_le_floor hx2⟩, floor_le_cell hy1, cell_le_floor hy2⟩

omit [LinearOrder F] [FloorRing F] [IsStrictOrderedRing F] in
lemma tileBoundsAt_eq {x y : ℕ} (hx : x < 134217728) (hy : y < 134217728) :
    (tileBoundsAt x y : FloatRect F) = cellBounds x y := by
  have hextent : ∀ n, n < 134217728 → Map.extent n = n * Sheet.Tile_Size := by
    intro n hn
    exact Nat.mod_eq_of_lt (by rw [Sheet.Tile_Size]; omega)
  rw [tileBoundsAt, cellBounds, hextent x hx, hextent y hy, Nat.cast_mul, Nat.cast_mul]

omit [FloorRing F] in
lemma cellBounds_inj {x y x' y' : ℕ} (h : (cellBounds x y : FloatRect F) = cellBounds x' y') :
    x = x' ∧ y = y' := by
  have hsize : (Sheet.Tile_Size : F) ≠ 0 := by norm_num [Sheet.Tile_Size]
  rw [cellBounds, cellBounds, FloatRect.mk.injEq] at h
  exact ⟨Nat.cast_injective (mul_right_cancel₀ hsize h.1),
    Nat.cast_injective (mul_right_cancel₀ hsize h.2.1)⟩

omit [FloorRing F] in
lemma lt_of_tileBoundsAt {x y x' y' : ℕ} (h : (tileBoundsAt x y : FloatRect F) = cellBounds x' y') :
    x' < 134217728 ∧ y' < 134217728 := by
  have hlt : ∀ {n n' : ℕ}, (Map.extent n : F) = n' * Sheet.Tile_Size → n' < 134217728 := by
    intro n n' hn
    have hcast : Map.extent n = n' * Sheet.Tile_Size := by exact_mod_cast hn
    have hmod : Map.extent n < 4294967296 := Nat.mod_lt _ (by decide)
    rw [hcast, Sheet.Tile_Size] at hmod
    omega
  rw [tileBoundsAt, cellBounds, FloatRect.mk.injEq] at h
  exact ⟨hlt h.1, hlt h.2.1⟩

/-! ### The list -/

omit [FloorRing F] in
lemma candidateAt_eq_some (hW : map.maxMapSize.x < 2147483648) (hH : map.maxMapSize.y < 2147483648)
    {x y : ℤ} (hx : InInt32 x) (hy : InInt32 y) {c : Candidate F} :
    candidateAt map box x y = some c ↔ ∃ (n k : ℕ) (tile : Tile F), x = n ∧ y = k ∧
      lowestSolid map n k = some tile ∧ 0 < box.overlap (tileBoundsAt n k) ∧
      c = ⟨⟨box.overlap (tileBoundsAt n k), tileBoundsAt n k⟩, tile.properties⟩ := by
  constructor
  · intro h
    by_cases hneg : x < 0 ∨ y < 0
    · rw [candidateAt_neg map box hx hy hneg hW hH] at h
      cases h
    obtain ⟨n, rfl⟩ := Int.eq_ofNat_of_zero_le (not_lt.mp (not_or.mp hneg).1)
    obtain ⟨k, rfl⟩ := Int.eq_ofNat_of_zero_le (not_lt.mp (not_or.mp hneg).2)
    unfold InInt32 at hx hy
    rw [candidateAt_natCast map box (by omega) (by omega)] at h
    obtain ⟨tile, htile, hc⟩ := Option.bind_eq_some_iff.mp h
    rw [Option.ite_none_right_eq_some, Option.some.injEq] at hc
    exact ⟨n, k, tile, rfl, rfl, htile, lt_of_le_of_ne (overlap_nonneg _ _) (Ne.symm hc.1),
      hc.2.symm⟩
  · rintro ⟨n, k, tile, rfl, rfl, htile, hpos, rfl⟩
    unfold InInt32 at hx hy
    rw [candidateAt_natCast map box (by omega) (by omega), htile, Option.bind_some, if_pos hpos.ne']

omit [Field F] [LinearOrder F] [FloorRing F] [IsStrictOrderedRing F] in
lemma inside_of_lowestSolid {x y : ℕ} {tile : Tile F} (h : lowestSolid map x y = some tile) :
    x < map.maxMapSize.x ∧ y < map.maxMapSize.y := by
  obtain ⟨layer, -, hlayer⟩ := List.exists_of_findSome?_eq_some h
  obtain ⟨t, ht, -⟩ := Option.bind_eq_some_iff.mp hlayer
  rw [Map.getTile] at ht
  split at ht
  · cases ht
  · omega

/-- The loops find `c` at a cell. -/
def Found (map : Map F) (box : FloatRect F) (x y : ℕ) (c : Candidate F) : Prop :=
  Visited box x y ∧ ∃ tile, lowestSolid map x y = some tile ∧ 0 < box.overlap (tileBoundsAt x y) ∧
    c = ⟨⟨box.overlap (tileBoundsAt x y), tileBoundsAt x y⟩, tile.properties⟩

lemma gather_found (hW : map.maxMapSize.x < 2147483648) (hH : map.maxMapSize.y < 2147483648)
    (h : Countable box) : ∃ l, gather map box = some l ∧ (∀ c, c ∈ l ↔ ∃ x y, Found map box x y c) ∧
      (l.Nodup ↔ ∀ x y x' y' c, Found map box x y c → Found map box x' y' c → x = x' ∧ y = y') := by
  have hcell : ∀ {p : ℤ × ℤ} {c : Candidate F}, (p ∈ between ⌊box.left / Sheet.Tile_Size⌋
      ⌊(box.left + box.width) / Sheet.Tile_Size⌋ ×ˢ between ⌊box.top / Sheet.Tile_Size⌋
      ⌊(box.top + box.height) / Sheet.Tile_Size⌋ ∧ candidateAt map box p.1 p.2 = some c) ↔
      ∃ x y : ℕ, p = (↑x, ↑y) ∧ Found map box x y c := by
    rintro ⟨x, y⟩ c
    rw [List.mem_product, mem_between, mem_between]
    obtain ⟨⟨hleft, htop⟩, ⟨hright, hbottom⟩, -⟩ := h
    constructor
    · rintro ⟨hvisited, hc⟩
      have hx : InInt32 x := ⟨hleft.1.trans hvisited.1.1, hvisited.1.2.trans_lt hright.2⟩
      have hy : InInt32 y := ⟨htop.1.trans hvisited.2.1, hvisited.2.2.trans_lt hbottom.2⟩
      obtain ⟨n, k, tile, rfl, rfl, htile⟩ := (candidateAt_eq_some hW hH hx hy).mp hc
      exact ⟨n, k, rfl, hvisited, tile, htile⟩
    · rintro ⟨n, k, hp, hvisited, tile, htile⟩
      obtain ⟨rfl, rfl⟩ := Prod.mk.inj hp
      have hx : InInt32 n := ⟨hleft.1.trans hvisited.1.1, hvisited.1.2.trans_lt hright.2⟩
      have hy : InInt32 k := ⟨htop.1.trans hvisited.2.1, hvisited.2.2.trans_lt hbottom.2⟩
      exact ⟨hvisited, (candidateAt_eq_some hW hH hx hy).mpr ⟨n, k, tile, rfl, rfl, htile⟩⟩
  refine ⟨_, gather_eq map box h, fun c => ?_, ?_⟩
  · rw [List.mem_filterMap]
    constructor
    · rintro ⟨p, hp⟩
      obtain ⟨x, y, -, hfound⟩ := hcell.mp hp
      exact ⟨x, y, hfound⟩
    · rintro ⟨x, y, hfound⟩
      exact ⟨(↑x, ↑y), hcell.mpr ⟨x, y, rfl, hfound⟩⟩
  · rw [nodup_filterMap_iff ((nodup_between _ _).product (nodup_between _ _))]
    constructor
    · intro hinj x y x' y' c hfound hfound'
      obtain ⟨hp, hc⟩ := hcell.mpr ⟨x, y, rfl, hfound⟩
      obtain ⟨hp', hc'⟩ := hcell.mpr ⟨x', y', rfl, hfound'⟩
      have heq := hinj _ hp _ hp' c hc hc'
      rw [Prod.mk.injEq, Nat.cast_inj, Nat.cast_inj] at heq
      exact heq
    · intro hinj p hp p' hp' c hc hc'
      obtain ⟨x, y, rfl, hfound⟩ := hcell.mp ⟨hp, hc⟩
      obtain ⟨x', y', rfl, hfound'⟩ := hcell.mp ⟨hp', hc'⟩
      obtain ⟨rfl, rfl⟩ := hinj x y x' y' c hfound hfound'
      rfl

omit [IsStrictOrderedRing F] in
lemma Found.near (hplaced : ∀ x y, ¬ Misplaced map box x y) {x y : ℕ} {c : Candidate F}
    (h : Found map box x y c) : x < 134217728 ∧ y < 134217728 := by
  obtain ⟨hvisited, tile, htile, hpos, -⟩ := h
  by_contra hfar
  exact hplaced x y ⟨by omega, by rw [htile]; rfl, hvisited, .inr hpos⟩

lemma Found.unique (hplaced : ∀ x y, ¬ Misplaced map box x y) {x y x' y' : ℕ} {c : Candidate F}
    (h : Found map box x y c) (h' : Found map box x' y' c) : x = x' ∧ y = y' := by
  have hlt := h.near hplaced
  have hlt' := h'.near hplaced
  obtain ⟨-, tile, -, -, rfl⟩ := h
  obtain ⟨-, tile', -, -, hc⟩ := h'
  have hbounds := congrArg (fun c : Candidate F => c.tileBounds) hc
  dsimp only at hbounds
  rw [tileBoundsAt_eq hlt.1 hlt.2, tileBoundsAt_eq hlt'.1 hlt'.2] at hbounds
  exact cellBounds_inj hbounds

lemma found_iff_meant (hw : 0 < box.width) (hh : 0 < box.height)
    (hplaced : ∀ x y, ¬ Misplaced map box x y) {c : Candidate F} :
    (∃ x y, Found map box x y c) ↔ Meant map box c := by
  constructor
  · rintro ⟨x, y, h⟩
    have hlt := h.near hplaced
    obtain ⟨-, tile, htile, hpos, rfl⟩ := h
    rw [tileBoundsAt_eq hlt.1 hlt.2] at hpos ⊢
    exact ⟨x, y, tile, inside_of_lowestSolid htile, htile, hpos, rfl⟩
  · rintro ⟨x, y, tile, -, htile, hpos, rfl⟩
    have hvisited := visited_of_overlap hw hh hpos
    have hlt : x < 134217728 ∧ y < 134217728 := by
      by_contra hfar
      exact hplaced x y ⟨by omega, by rw [htile]; rfl, hvisited, .inl hpos⟩
    refine ⟨x, y, hvisited, tile, htile, ?_, ?_⟩
    · rwa [tileBoundsAt_eq hlt.1 hlt.2]
    · rw [tileBoundsAt_eq hlt.1 hlt.2]

lemma not_misplaced (hw : 0 < box.width) (hh : 0 < box.height)
    (hmeant : ∀ c, (∃ x y, Found map box x y c) ↔ Meant map box c)
    (hinj : ∀ x y x' y' c, Found map box x y c → Found map box x' y' c → x = x' ∧ y = y')
    (x y : ℕ) : ¬ Misplaced map box x y := by
  rintro ⟨hfar, hsolid, hvisited, hoverlap⟩
  obtain ⟨tile, htile⟩ := Option.isSome_iff_exists.mp hsolid
  rcases hoverlap with hpos | hpos
  · -- the cell is meant, and no candidate has its bounds
    obtain ⟨x', y', -, tile', -, -, hc⟩ := (hmeant _).mpr
      ⟨x, y, tile, inside_of_lowestSolid htile, htile, hpos, rfl⟩
    have hbounds := congrArg (fun c : Candidate F => c.tileBounds) hc
    have hlt := lt_of_tileBoundsAt hbounds.symm
    omega
  · -- the candidate found here is one of another cell too
    have hfound : Found map box x y _ := ⟨hvisited, tile, htile, hpos, rfl⟩
    obtain ⟨x', y', tile', -, htile', hpos', hc⟩ := (hmeant _).mp ⟨x, y, hfound⟩
    have hlt := lt_of_tileBoundsAt (congrArg (fun c : Candidate F => c.tileBounds) hc)
    have hfound' : Found map box x' y' _ :=
      ⟨visited_of_overlap hw hh hpos', tile', htile', by rwa [tileBoundsAt_eq hlt.1 hlt.2], rfl⟩
    rw [tileBoundsAt_eq hlt.1 hlt.2, ← hc] at hfound'
    obtain ⟨rfl, rfl⟩ := hinj x y x' y' _ hfound hfound'
    omega

/-- **The candidates** are exactly those meant, each once, if and only if the box stays within the
numbers of the loops and meets no solid cell whose bounds do not fit. For every map with fewer than
2^31 columns and rows, and every box of positive size. -/
theorem gather_iff (map : Map F) (box : FloatRect F) (hW : map.maxMapSize.x < 2147483648)
    (hH : map.maxMapSize.y < 2147483648) (hw : 0 < box.width) (hh : 0 < box.height) :
    (∃ l, gather map box = some l ∧ l.Nodup ∧ ∀ c, c ∈ l ↔ Meant map box c) ↔
      Countable box ∧ ∀ x y, ¬ Misplaced map box x y := by
  constructor
  · rintro ⟨l, hl, hnodup, hmeant⟩
    have hcount := countable_of_gather hl
    obtain ⟨l', hl', hmem, hinj⟩ := gather_found hW hH hcount
    obtain rfl := Option.some.inj (hl.symm.trans hl')
    exact ⟨hcount, not_misplaced hw hh (fun c => (hmem c).symm.trans (hmeant c)) (hinj.mp hnodup)⟩
  · rintro ⟨hcount, hplaced⟩
    obtain ⟨l, hl, hmem, hinj⟩ := gather_found hW hH hcount
    refine ⟨l, hl, hinj.mpr fun x y x' y' c h h' => h.unique hplaced h', fun c => ?_⟩
    rw [hmem]
    exact found_iff_meant hw hh hplaced

end Ordered

/-! ### Two maps -/

/-- A solid tile at the cell `x`, `0` of a map with a column after it. -/
def solidCell (x : ℕ) : Map ℚ :=
  ⟨(∅ : Dict ℕ (Tile ℚ)).insert x ⟨⟨0, 0, "", false⟩, true, false⟩, ⟨x + 1, 1⟩⟩

/-- A box that reaches beyond the left and the upper edge. -/
theorem gather_iff_corner :
    ∃ l, gather (solidCell 0) ⟨-8, -8, 16, 16⟩ = some l ∧ l.Nodup ∧
      ∀ c, c ∈ l ↔ Meant (solidCell 0) ⟨-8, -8, 16, 16⟩ c := by
  refine (gather_iff (solidCell 0) ⟨-8, -8, 16, 16⟩ (by decide) (by decide) (by norm_num)
    (by norm_num)).mpr ⟨⟨?_, ?_, ?_⟩, ?_⟩
  · decide +kernel
  · decide +kernel
  · decide +kernel
  · rintro x y ⟨hfar, -, ⟨⟨-, hx⟩, -, hy⟩, -⟩
    have hzero : ⌊((-8 : ℚ) + 16) / Sheet.Tile_Size⌋ = 0 := by decide +kernel
    rw [hzero] at hx hy
    omega

/-- The bounds of the cell in column 2^27 are those of the first one, and the box does not overlap
these. -/
theorem far_tile_missed :
    ¬ ∃ l, gather (solidCell 134217728) ⟨4294967296, 0, 1024, 32⟩ = some l ∧ l.Nodup ∧
      ∀ c, c ∈ l ↔ Meant (solidCell 134217728) ⟨4294967296, 0, 1024, 32⟩ c := by
  rintro ⟨l, hl, -, hmem⟩
  have hempty : (gather (solidCell 134217728) ⟨4294967296, 0, 1024, 32⟩).map List.isEmpty =
      some true := by
    decide +kernel
  rw [hl, Option.map_some, Option.some.injEq, List.isEmpty_iff] at hempty
  subst hempty
  have hsolid : (lowestSolid (solidCell 134217728) 134217728 0).isSome = true := by decide +kernel
  obtain ⟨tile, htile⟩ := Option.isSome_iff_exists.mp hsolid
  refine List.not_mem_nil ((hmem _).mpr
    ⟨134217728, 0, tile, ⟨by decide, by decide⟩, htile, ?_, rfl⟩)
  decide +kernel

/-! ### `mapCollisions` -/

omit [FloorRing F] in
lemma solidAt_eq (map : Map F) (box : FloatRect F) (x y : ℤ) :
    solidAt map box x y = (candidateAt map box x y).map fun c => c.toCollisionElement := by
  rw [solidAt, candidateAt, List.map_findSome?]
  congr 1
  funext layer
  rw [Function.comp_apply]
  cases map.getTile (toUInt32 x).toNat (toUInt32 y).toNat layer with
  | none => rfl
  | some tile =>
    dsimp only
    rw [apply_ite (Option.map fun c : Candidate F => c.toCollisionElement)]
    rfl

lemma collisions_eq (S : Setting F) {box : FloatRect F} {l : List (Candidate F)}
    (h : gather S.map box = some l) :
    collisions S box = S.sort (l.map fun c => c.toCollisionElement) := by
  have hgather := gather_eq S.map box (countable_of_gather h)
  rw [h, Option.some.injEq, ← flatMap_filterMap] at hgather
  have hcell : ∀ x, solidAt S.map box x = fun y =>
      (candidateAt S.map box x y).map fun c => c.toCollisionElement :=
    fun x => funext fun y => solidAt_eq S.map box x y
  rw [collisions, hgather, List.map_flatMap]
  simp only [hcell, List.map_filterMap]

end S_Collision

end Sfrpg
