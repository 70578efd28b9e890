import Sfrpg.MapFile

/-!
Kinds of tiles read from a file.

`loadTiles` takes the number a line starts with for the id of a tile, and the first line with an id
stays. `defined` says what a line is meant to say, and `taken` what `loadTiles` makes of it: a line
without a number counts as one for the id 0, and a negative number as the one it wraps around to.
-/

namespace Sfrpg

open Lib Lib.StringStream

variable {F : Type} [Field F]

/-- What stands after the id of a tile, in a tile that has nothing yet. -/
def TileInfo.read (id : ℕ) (keystream : StringStream) : TileInfo F :=
  let (name, keystream) := readWord "" keystream
  let (x, keystream) := readFloat 0 keystream
  let (y, keystream) := readFloat 0 keystream
  let (deadly, _) := readBool false keystream
  ⟨id, ⟨x, y⟩, name, deadly⟩

@[simp] lemma TileInfo.read_none (id : ℕ) :
    TileInfo.read id none = (⟨id, ⟨0, 0⟩, "", false⟩ : TileInfo F) := rfl

/-- The number a line starts with, and the characters after it. -/
def leadingInteger (line : String) : Option (ℤ × List Char) :=
  let (negative, l) := getSign (line.toList.dropWhile isSpace)
  let (digits, rest) := getDigits l
  if digits = [] then none else some (if negative then -value digits else value digits, rest)

namespace TileSet

/-- One pass of the loop of `loadTiles`. An id is never below zero. -/
def loadTile (tileSet : TileSet F) (line : String) : TileSet F :=
  if line.toList.head? = some '|' then tileSet else
  let (id, keystream) := readUInt32 0 (.ofLine line)
  Dict.emplace id (TileInfo.read id keystream) tileSet

/-- `loadTiles`; a file that does not open has no lines. -/
def loadTiles (file : Option (List String)) (tileSet : TileSet F) : TileSet F :=
  match file with
  | none => tileSet
  | some lines => lines.foldl loadTile tileSet

/-- The id a line takes, and its tile. -/
def taken (line : String) : Option (ℕ × TileInfo F) :=
  if line.toList.head? = some '|' then none else
  let (id, keystream) := readUInt32 0 (.ofLine line)
  some (id, TileInfo.read id keystream)

/-- The id a line that starts with one defines, and its tile. -/
def defined (line : String) : Option (ℕ × TileInfo F) :=
  if line.toList.head? = some '|' then none else
  (leadingInteger line).bind fun (n, rest) =>
    if 0 ≤ n ∧ n < 4294967296 then some (n.toNat, TileInfo.read n.toNat (some rest)) else none

/-- The part of a pair that stands under `id`. -/
def under (id : ℕ) (e : Option (ℕ × TileInfo F)) : Option (TileInfo F) :=
  e.bind fun e => if e.1 = id then some e.2 else none

/-- A line that defines nothing, and comes first among those that take an id, has the tile of the
first line after it that defines the id. -/
def Unusurped (F : Type) [Field F] (lines : List String) : Prop :=
  ∀ id before line after info, lines = before ++ line :: after →
    (∀ l ∈ before, under id (taken (F := F) l) = none) →
    under id (taken (F := F) line) = some info →
    defined (F := F) line = none → (after.findSome? fun l => under id (defined l)) = some info

/-! ### Lines -/

variable {line : String} {id : ℕ} {info : TileInfo F}

lemma loadTile_eq (tileSet : TileSet F) (line : String) :
    loadTile tileSet line = (taken line).elim tileSet fun e => Dict.emplace e.1 e.2 tileSet := by
  unfold loadTile taken
  split <;> rfl

lemma readUInt32_ofLine (line : String) :
    readUInt32 0 (.ofLine line) =
      (leadingInteger line).elim (0, none) fun e =>
        if 4294967296 ≤ e.1.natAbs then (4294967295, none)
        else ((e.1 % 4294967296).toNat, some e.2) := by
  have hextract : ∀ l, line.toList.dropWhile isSpace = l → readUInt32 0 (.ofLine line) =
      if l = [] then (0, none) else getUInt32 l := by
    rintro l rfl
    unfold readUInt32 extract ofLine
    rw [Option.map_some]
    cases line.toList.dropWhile isSpace <;> rfl
  rw [hextract _ rfl]
  unfold leadingInteger
  cases line.toList.dropWhile isSpace with
  | nil => rfl
  | cons c l =>
    rw [if_neg (List.cons_ne_nil c l)]
    unfold getUInt32
    rcases getSign (c :: l) with ⟨negative, l'⟩
    dsimp only
    rcases getDigits l' with ⟨digits, rest⟩
    dsimp only
    by_cases hdigits : digits = []
    · rw [if_pos hdigits, if_pos hdigits]
      rfl
    rw [if_neg hdigits, if_neg hdigits, Option.elim_some]
    dsimp only
    cases negative with
    | false =>
      simp only [Bool.false_eq_true, if_false, Int.natAbs_natCast]
      split
      · rfl
      · next hsmall => rw [show ((value digits : ℤ) % 4294967296).toNat = value digits by omega]
    | true =>
      simp only [if_true, Int.natAbs_neg, Int.natAbs_natCast]
      split
      · rfl
      · next hsmall =>
        rw [show (-(value digits : ℤ) % 4294967296).toNat =
          (4294967296 - value digits) % 4294967296 by omega]

lemma taken_of_defined (h : defined line = some (id, info)) : taken line = some (id, info) := by
  unfold defined at h
  unfold taken
  split at h
  · cases h
  next hcomment =>
  obtain ⟨⟨n, rest⟩, hn, hif⟩ := Option.bind_eq_some_iff.mp h
  dsimp only at hif
  obtain ⟨hrange, heq⟩ := Option.ite_none_right_eq_some.mp hif
  cases heq
  rw [if_neg hcomment, readUInt32_ofLine, hn, Option.elim_some]
  dsimp only
  rw [if_neg (by omega), show (n % 4294967296).toNat = n.toNat by omega]

/-- The lines that take an id and define none: there is no number, or one that is too large either
way, or one below zero. The first two leave the tile without anything. -/
lemma taken_stray (h : taken line = some (id, info)) (hdefined : defined (F := F) line = none) :
    (leadingInteger line = none ∧ id = 0 ∧ info = ⟨0, ⟨0, 0⟩, "", false⟩) ∨
    ∃ n rest, leadingInteger line = some (n, rest) ∧
      ((4294967296 ≤ n.natAbs ∧ id = 4294967295 ∧ info = ⟨4294967295, ⟨0, 0⟩, "", false⟩) ∨
        (n < 0 ∧ (id : ℤ) = n + 4294967296 ∧ info = TileInfo.read id (some rest))) := by
  unfold defined at hdefined
  unfold taken at h
  split at h
  · cases h
  next hcomment =>
  rw [if_neg hcomment] at hdefined
  rw [readUInt32_ofLine] at h
  cases hn : leadingInteger line with
  | none =>
    rw [hn] at h
    cases h
    exact .inl ⟨rfl, rfl, rfl⟩
  | some e =>
    obtain ⟨n, rest⟩ := e
    rw [hn] at h hdefined
    refine .inr ⟨n, rest, rfl, ?_⟩
    dsimp only [Option.bind_some, Option.elim_some] at h hdefined
    split at h
    · next hlarge =>
      cases h
      exact .inl ⟨hlarge, rfl, rfl⟩
    · next hsmall =>
      have hneg : n < 0 := by
        by_contra hpos
        rw [if_pos (by omega)] at hdefined
        cases hdefined
      cases h
      exact .inr ⟨hneg, by omega, rfl⟩

/-! ### The whole file -/

lemma lookup_loadTiles (lines : List String) (id : ℕ) :
    (loadTiles (F := F) (some lines) ∅).lookup id =
      lines.findSome? fun l => under id (taken l) := by
  have hfold : loadTiles (F := F) (some lines) ∅ = lines.foldl (fun tiles line =>
      (taken line).elim tiles fun e => Dict.emplace e.1 e.2 tiles) ∅ := by
    unfold loadTiles
    exact congrArg (fun f => lines.foldl f ∅) (funext fun t => funext fun l => loadTile_eq t l)
  rw [hfold, Dict.lookup_foldl_emplace, AList.lookup_empty, Option.none_or]
  rfl

/-- **A file of tiles is what its lines define**, exactly if no line that defines nothing comes
first under an id, unless the tile is that of the first line after it that defines the id. For
every text. -/
theorem loadTiles_iff (lines : List String) :
    (∀ id, (loadTiles (F := F) (some lines) ∅).lookup id =
      lines.findSome? fun l => under id (defined l)) ↔ Unusurped F lines := by
  have hfirst := fun id => Dict.findSome?_eq_iff
    (f := fun l => under (F := F) id (taken l)) (g := fun l => under id (defined l))
    (fun l info hl => Dict.bind_key_eq_some.mpr
      (taken_of_defined (Dict.bind_key_eq_some.mp hl))) lines
  constructor
  · intro hall id before line after info hlines hbefore hline hnone
    have heq := (lookup_loadTiles lines id).symm.trans (hall id)
    exact (hfirst id).mp heq before line after info hlines hbefore hline (by rw [hnone]; rfl)
  · intro hun id
    rw [lookup_loadTiles]
    refine (hfirst id).mpr fun before line after info hlines hbefore hline hnone => ?_
    refine hun id before line after info hlines hbefore hline ?_
    by_contra hsome
    -- what the line defines is what it takes
    obtain ⟨⟨i, a⟩, hd⟩ := Option.ne_none_iff_exists'.mp hsome
    have htaken := taken_of_defined hd
    rw [Dict.bind_key_eq_some.mp hline] at htaken
    cases htaken
    rw [under, Dict.bind_key_eq_some.mpr hd] at hnone
    cases hnone

/-- A blank line takes the id 0 from the tile that has it. -/
theorem blank_line_usurps :
    ((loadTiles (F := ℚ) (some ["", "0 Grass 1 1 0"]) ∅).lookup 0).map TileInfo.name = some "" ∧
    (["", "0 Grass 1 1 0"].findSome? fun l => under (F := ℚ) 0 (defined l)).map TileInfo.name =
      some "Grass" := by
  decide +kernel

end TileSet

end Sfrpg
