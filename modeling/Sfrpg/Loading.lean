import Sfrpg.Files

/-!
How a file of an entity is done with.

A file ends as its caller expects if it has created an entity, or has failed and left the store
alone. One that never comes to a line of attributes goes on to name the entity `-1`.
-/

namespace Sfrpg

open Lib Lib.Word Ecs

namespace Ecs

variable {F : Type} [Field F]

section Definitions

variable (u : Uninitialised)

/-- The positions of the bits the lines of components ask `getBit` for. -/
def askedBits : List EntityLine → EntityId → Ecs F → List ℕ
  | [], _, _ => []
  | .attributes mask :: lines, entityId, w =>
    if entityId ≠ -1 then askedBits lines entityId w
    else
      let (w, entityId) := w.addEntity u mask (-1)
      if entityId = -1 then [] else askedBits lines entityId w
  | .component c keystream :: lines, entityId, w =>
    if entityId = -1 then askedBits lines entityId w
    else c.id :: askedBits lines entityId (fillIn entityId w (.component c keystream))
  | .other :: lines, entityId, w => askedBits lines entityId w

/-- Nothing is shifted by more positions than an `int` has, which is undefined. -/
def NoWideShift (file : EntityFile) (w : Ecs F) : Prop :=
  ∀ lines, file = some lines → ∀ i ∈ askedBits u (lines.map .parse) (-1) w, i < 32

end Definitions

/-- The one entity that has come is what the file describes. -/
structure CreatedFrom (name : String) (file : EntityFile) (e : EntityId) (w w' : Ecs F) : Prop where
  fresh : e ∉ w.entities
  keys : w'.entities.keys = e :: w.entities.keys
  other : ∀ x, x ≠ e → w'.entities.lookup x = w.entities.lookup x
  made : ∃ d mask, w'.entities.lookup e = some d ∧ d.type = name ∧ fileMask file = some mask ∧
    ∀ i, d.bitmask.getBit i = (registered ⟨i⟩ && mask.getBit i)

/-- It returns, with the entity it has created, or with `-1` and the store as it was. -/
def EndsWell (u : Uninitialised) (name : String) (file : EntityFile) (w : Ecs F) : Prop :=
  NoWideShift u file w ∧ ∃ w' e, addEntityFile u name file w = .ok (w', e) ∧
    ((e ≠ -1 ∧ CreatedFrom name file e w w') ∨ (e = -1 ∧ w' = w))

/-! ### Lines after the entity is there -/

/-- The lines after the first line of attributes. -/
def afterMask : List EntityLine → List EntityLine
  | [] => []
  | .attributes _ :: lines => lines
  | _ :: lines => afterMask lines

/-- The number on a line of a component. -/
def number : EntityLine → Option ℕ
  | .component c _ => some c.id
  | _ => none

lemma askedBits_created (u : Uninitialised) {e : EntityId} (he : e ≠ -1) (lines : List EntityLine)
    (w : Ecs F) : askedBits u lines e w = lines.filterMap number := by
  induction lines generalizing w with
  | nil => rfl
  | cons line lines ih =>
    cases line with
    | attributes mask =>
      rw [askedBits, if_pos he, ih]
      rfl
    | component c keystream =>
      rw [askedBits, if_neg he, ih]
      rfl
    | other =>
      rw [askedBits, ih]
      rfl

lemma askedBits_eq (u : Uninitialised) (lines : List EntityLine) (w : Ecs F) :
    askedBits u lines (-1) w =
      match firstMask lines with
      | none => []
      | some mask =>
        if (w.addEntity u mask (-1)).2 = -1 then [] else (afterMask lines).filterMap number := by
  induction lines with
  | nil => rfl
  | cons line lines ih =>
    cases line with
    | attributes mask =>
      simp only [askedBits, firstMask, afterMask, ne_eq, not_true, if_false]
      split
      · rfl
      · next he => exact askedBits_created u he lines _
    | component c keystream =>
      rw [askedBits, if_pos rfl]
      exact ih
    | other => exact ih

/-! ### What stays of the data of the entity -/

section Stays

variable {u : Uninitialised} {w w' : Ecs F} {e : EntityId} {d : EntityData F}

lemma fillIn_data (hd : w.entities.lookup e = some d) (line : EntityLine) :
    ∃ d', (fillIn e w line).entities.lookup e = some d' ∧ d'.bitmask = d.bitmask := by
  cases line with
  | component c keystream =>
    rw [fillIn]
    cases w.getBase e c with
    | none => exact ⟨d, hd, rfl⟩
    | some comp =>
      dsimp only
      rw [overwrite, Dict.lookup_modify, hd]
      exact ⟨_, rfl, rfl⟩
  | attributes mask => exact ⟨d, hd, rfl⟩
  | other => exact ⟨d, hd, rfl⟩

lemma fillIn_run_data (lines : List EntityLine) (hd : w.entities.lookup e = some d) :
    ∃ d', (lines.foldl (fillIn e) w).entities.lookup e = some d' ∧ d'.bitmask = d.bitmask := by
  refine Dict.foldl_inv
    (I := fun v : Ecs F => ∃ d', v.entities.lookup e = some d' ∧ d'.bitmask = d.bitmask)
    (fun v line hv => ?_) lines ⟨d, hd, rfl⟩
  obtain ⟨d₁, hd₁, hbits₁⟩ := hv
  obtain ⟨d', hd', hbits⟩ := fillIn_data hd₁ line
  exact ⟨d', hd', hbits.trans hbits₁⟩

omit [Field F] in
lemma setType_eq_self {name : String} (hd : w.entities.lookup e = some d) :
    w.setType e name = w ↔ d.type = name := by
  constructor
  · intro h
    have hlook := congrArg (fun v : Ecs F => v.entities.lookup e) h
    simp only [setType, Dict.lookup_modify, hd, Option.map_some, Option.some.injEq] at hlook
    rw [← hlook]
  · intro h
    rw [setType, Dict.modify_eq_self hd (by rw [← h])]

end Stays

/-! ### How a file is done with -/

/-- A file creates its entity, or fails where a caller can see it: it does not open, or it describes
an entity and the id is taken, or it can be created under an id that is no failure and no number of
a component is beyond the bits. One that describes none has to find the entity `-1`, named like
it. -/
inductive DoneWith (name : String) (w : Ecs F) : EntityFile → Prop
  | closed : DoneWith name w none
  | taken {lines : List String} {mask : Bitmask}
      (described : firstMask (lines.map .parse) = some mask)
      (mem : nextId (-1) w ∈ w.entities) : DoneWith name w (some lines)
  | created {lines : List String} {mask : Bitmask}
      (described : firstMask (lines.map .parse) = some mask) (free : nextId (-1) w ∉ w.entities)
      (valid : nextId (-1) w ≠ -1)
      (numbers : ∀ i ∈ (afterMask (lines.map .parse)).filterMap number, i < 32) :
      DoneWith name w (some lines)
  | renamed {lines : List String} {d : EntityData F}
      (undescribed : firstMask (lines.map .parse) = none)
      (mem : w.entities.lookup (-1) = some d) (same : d.type = name) : DoneWith name w (some lines)

section Done

variable {u : Uninitialised} {name : String} {w w' : Ecs F} {lines : List String} {mask : Bitmask}

lemma noWideShift_iff (u : Uninitialised) (lines : List String) (w : Ecs F) :
    NoWideShift u (some lines) w ↔ ∀ i ∈ askedBits u (lines.map .parse) (-1) w, i < 32 := by
  simp [NoWideShift]

lemma endsWell_undescribed (hmask : firstMask (lines.map .parse) = none) :
    EndsWell u name (some lines) w ↔ ∃ d, w.entities.lookup (-1) = some d ∧ d.type = name := by
  have hread := readLines_undescribed u w hmask
  have hshift : NoWideShift u (some lines) w := by
    rw [noWideShift_iff, askedBits_eq, hmask]
    exact List.forall_mem_nil _
  cases hd : w.entities.lookup (-1) with
  | none =>
    have hmem : (-1 : EntityId) ∉ w.entities := AList.lookup_eq_none.mp hd
    have hthrow : addEntityFile u name (some lines) w = .error .out_of_range := by
      simp only [addEntityFile, hread, if_pos hmem]
      rfl
    refine iff_of_false ?_ (by simp)
    rintro ⟨-, w', e, hok, -⟩
    rw [hthrow] at hok
    cases hok
  | some d =>
    have hmem : (-1 : EntityId) ∈ w.entities := by
      rw [← AList.lookup_isSome, hd]
      rfl
    have hret : addEntityFile u name (some lines) w = .ok (w.setType (-1) name, -1) := by
      simp only [addEntityFile, hread, if_neg (not_not.mpr hmem)]
      rfl
    constructor
    · rintro ⟨-, w', e, hok, ⟨hne, -⟩ | ⟨-, hsame⟩⟩
      · rw [hret] at hok
        cases hok
        exact absurd rfl hne
      · rw [hret] at hok
        cases hok
        exact ⟨d, rfl, (setType_eq_self hd).mp hsame⟩
    · rintro ⟨d', hd', htype⟩
      cases hd'
      exact ⟨hshift, _, -1, hret, .inr ⟨rfl, (setType_eq_self hd).mpr htype⟩⟩

lemma endsWell_taken (hmask : firstMask (lines.map .parse) = some mask)
    (hmem : nextId (-1) w ∈ w.entities) : EndsWell u name (some lines) w := by
  have hadd := addEntity_taken u mask hmem
  refine ⟨?_, w, -1, ?_, .inr ⟨rfl, rfl⟩⟩
  · rw [noWideShift_iff, askedBits_eq, hmask]
    simp [hadd]
  · have hcase := readLines_described u w hmask
    rw [hadd] at hcase
    obtain ⟨-, hread⟩ | ⟨hne, -⟩ := hcase
    · simp only [addEntityFile, hread]
      rfl
    · exact absurd rfl hne

lemma addEntityFile_created (u : Uninitialised) (name : String) {file : EntityFile}
    (h : Loadable file mask w) : ∃ w', addEntityFile u name file w = .ok (w', nextId (-1) w) ∧
      CreatedFrom name file (nextId (-1) w) w w' := by
  obtain ⟨rest, heq⟩ := addEntityFile_eq u name h
  obtain ⟨-, hcreates, -⟩ := addEntity_free u mask h.free
  obtain ⟨d₀, hd₀, -, hbits₀⟩ := addEntity_made u mask h.free
  obtain ⟨d, hd, hbits⟩ := fillIn_run_data rest hd₀
  have hfills := (fillIn_run (nextId (-1) w) rest (w.addEntity u mask (-1)).1).trans
    (setType_fills (nextId (-1) w) name _)
  refine ⟨_, heq, h.free, hfills.keys.trans hcreates.keys,
    fun x hx => (hfills.other x hx).trans (hcreates.other x hx),
    { d with type := name }, mask, ?_, rfl, h.described, fun i => ?_⟩
  · rw [lookup_setType, hd]
    simp
  · rw [hbits]
    exact hbits₀ i

lemma not_endsWell_minus (hmask : firstMask (lines.map .parse) = some mask)
    (hfree : nextId (-1) w ∉ w.entities) (hneg : nextId (-1) w = -1) :
    ¬ EndsWell u name (some lines) w := by
  obtain ⟨hadd, hcreates, -⟩ := addEntity_free u mask hfree
  obtain ⟨-, hread⟩ | ⟨hvalid, -⟩ := readLines_described u w hmask
  swap
  · exact absurd (hadd.trans hneg) hvalid
  have hret : addEntityFile u name (some lines) w = .ok ((w.addEntity u mask (-1)).1, -1) := by
    simp only [addEntityFile, hread]
    rfl
  rintro ⟨-, w', e, hok, hcase⟩
  rw [hret] at hok
  cases hok
  rcases hcase with ⟨hne, -⟩ | ⟨-, hsame⟩
  · exact hne rfl
  · have hkeys := hcreates.keys
    rw [hsame] at hkeys
    exact absurd (congrArg List.length hkeys) (by simp)

/-- A file whose entity can be created creates it; what it returns is a failure all the same if the
id is `-1`. -/
lemma endsWell_free (hmask : firstMask (lines.map .parse) = some mask)
    (hfree : nextId (-1) w ∉ w.entities) :
    EndsWell u name (some lines) w ↔
      nextId (-1) w ≠ -1 ∧ ∀ i ∈ (afterMask (lines.map .parse)).filterMap number, i < 32 := by
  by_cases hvalid : nextId (-1) w = -1
  · exact iff_of_false (not_endsWell_minus hmask hfree hvalid) fun h => h.1 hvalid
  have hadd := (addEntity_free u mask hfree).1
  have hshift : NoWideShift u (some lines) w ↔
      ∀ i ∈ (afterMask (lines.map .parse)).filterMap number, i < 32 := by
    rw [noWideShift_iff, askedBits_eq, hmask]
    dsimp only
    rw [hadd, if_neg hvalid]
  have hload : Loadable (some lines) mask w := ⟨hmask, hfree, hvalid⟩
  obtain ⟨w', hok, hcreated⟩ := addEntityFile_created u name hload
  rw [EndsWell, hshift, and_comm]
  exact and_congr_left fun _ => iff_of_true ⟨w', _, hok, .inl ⟨hvalid, hcreated⟩⟩ hvalid

/-- **A file ends well** exactly if it is done with as a caller can see. For every text and every
store, whatever id is asked for. -/
theorem addEntityFile_endsWell_iff (u : Uninitialised) (name : String) (file : EntityFile)
    (w : Ecs F) : EndsWell u name file w ↔ DoneWith name w file := by
  cases file with
  | none =>
    refine iff_of_true ⟨fun lines h => ?_, w, -1, rfl, .inr ⟨rfl, rfl⟩⟩ .closed
    cases h
  | some lines =>
    cases hmask : firstMask (lines.map .parse) with
    | none =>
      rw [endsWell_undescribed hmask]
      constructor
      · rintro ⟨d, hd, htype⟩
        exact .renamed hmask hd htype
      · rintro (_ | ⟨hm, -⟩ | ⟨hm, -, -, -⟩ | ⟨-, hd, htype⟩)
        · rw [hmask] at hm
          cases hm
        · rw [hmask] at hm
          cases hm
        · exact ⟨_, hd, htype⟩
    | some mask =>
      by_cases hmem : nextId (-1) w ∈ w.entities
      · exact iff_of_true (endsWell_taken hmask hmem) (.taken hmask hmem)
      · rw [endsWell_free hmask hmem]
        constructor
        · rintro ⟨hvalid, hnumbers⟩
          exact .created hmask hmem hvalid hnumbers
        · rintro (_ | ⟨-, ht⟩ | ⟨-, -, hvalid, hnumbers⟩ | ⟨hm, -, -⟩)
          · exact absurd ht hmem
          · exact ⟨hvalid, hnumbers⟩
          · rw [hmask] at hm
            cases hm

end Done

/-- A file without a line of attributes is not a failure but an exception. -/
theorem blank_file_throws :
    addEntityFile ⟨.Idle, 0, 0, false⟩ "Player" (some ["Name Player"]) (Ecs.new ℚ) =
        .error .out_of_range ∧
      ¬ EndsWell ⟨.Idle, 0, 0, false⟩ "Player" (some ["Name Player"]) (Ecs.new ℚ) := by
  have hthrow : addEntityFile ⟨.Idle, 0, 0, false⟩ "Player" (some ["Name Player"]) (Ecs.new ℚ) =
      .error .out_of_range := by
    rfl
  refine ⟨hthrow, ?_⟩
  rintro ⟨-, w', e, hok, -⟩
  rw [hthrow] at hok
  cases hok

end Ecs

end Sfrpg
