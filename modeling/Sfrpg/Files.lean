import Sfrpg.Lib.StringStream
import Sfrpg.Calls

/-!
Entities read from files.

A file is its lines. The first line of attributes creates the entity, and lines of components after
it fill in what the components read from a stream. A file that creates nothing makes `addEntity`
look for the entity `-1`, and the look-up throws where there is none.
-/

namespace Sfrpg

open Lib Lib.Word Lib.StringStream Ecs

/-! ### Components read from a stream -/

section ReadIn

variable {F : Type} [Field F]

def C_Position.readIn (s : StringStream) (c : C_Position F) : C_Position F :=
  let (x, s) := readFloat c.position.x s
  let (y, s) := readFloat c.position.y s
  let (elevation, _) := readUInt32 c.elevation s
  { c with
    position := ⟨x, y⟩
    elevation := elevation }

def C_State.readIn (s : StringStream) (_ : C_State) : C_State :=
  let (state, _) := readUInt32 0 s
  ⟨⟨toInt32 state⟩⟩

def C_Movable.readIn (s : StringStream) (c : C_Movable F) : C_Movable F :=
  let (velocityMax, s) := readFloat c.velocityMax s
  let (x, s) := readFloat c.speed.x s
  let (y, s) := readFloat c.speed.y s
  let (dir, _) := readUInt32 0 s
  { c with
    velocityMax := velocityMax
    speed := ⟨x, y⟩
    direction := ⟨toInt32 dir⟩ }

def C_Collidable.readIn (s : StringStream) (c : C_Collidable F) : C_Collidable F :=
  let (width, s) := readFloat c.aabb.width s
  let (height, s) := readFloat c.aabb.height s
  let (x, s) := readFloat c.offset.x s
  let (y, s) := readFloat c.offset.y s
  let (origin, _) := readUInt32 0 s
  { c with
    aabb := { c.aabb with width := width, height := height }
    offset := ⟨x, y⟩
    origin := ⟨toInt32 origin⟩ }

def C_Health.readIn (s : StringStream) (c : C_Health) : C_Health :=
  let (maxHealth, s) := readInt32 c.maxHealth s
  let (hurtDuration, s) := readUInt32 c.hurtDuration s
  let (deathDuration, _) := readUInt32 c.deathDuration s
  { c with
    health := maxHealth
    maxHealth := maxHealth
    hurtDuration := hurtDuration
    deathDuration := deathDuration }

def C_Name.readIn (s : StringStream) (c : C_Name) : C_Name := ⟨(readWord c.name s).1⟩

def C_Attacker.readIn (s : StringStream) (c : C_Attacker F) : C_Attacker F :=
  let (x, s) := readFloat c.offset.x s
  let (y, s) := readFloat c.offset.y s
  let (width, s) := readFloat c.attackArea.width s
  let (height, s) := readFloat c.attackArea.height s
  let (knockback, s) := readFloat c.knockback s
  let (attackDuration, _) := readUInt32 c.attackDuration s
  { c with
    offset := ⟨x, y⟩
    attackArea := { c.attackArea with width := width, height := height }
    knockback := knockback
    attackDuration := attackDuration }

/-- The clients and the controllers read nothing. -/
def C_Base.readIn (s : StringStream) : C_Base F → C_Base F
  | .position c => .position (c.readIn s)
  | .state c => .state (c.readIn s)
  | .movable c => .movable (c.readIn s)
  | .controller c => .controller c
  | .collidable c => .collidable (c.readIn s)
  | .client c => .client c
  | .health c => .health (c.readIn s)
  | .name c => .name (c.readIn s)
  | .attacker c => .attacker (c.readIn s)

@[simp] lemma C_Base.getType_readIn (s : StringStream) (b : C_Base F) :
    (b.readIn s).getType = b.getType := by
  cases b <;> simp only [readIn, getType]

/-- What the timer of a component shows, where it has one. -/
def C_Base.timer : C_Base F → Time
  | .health c => c.duration
  | .attacker c => c.duration
  | _ => 0

lemma C_Base.timer_readIn (s : StringStream) (b : C_Base F) : (b.readIn s).timer = b.timer := by
  cases b <;> simp only [readIn, timer, C_Health.readIn, C_Attacker.readIn]

end ReadIn

/-! ### Entity files -/

/-- The lines of a file, or nothing where it does not open. -/
abbrev EntityFile := Option (List String)

/-- What a line says. -/
inductive EntityLine
  | attributes (mask : Bitmask)
  | component (c : Component) (keystream : StringStream)
  | other

def EntityLine.parse (line : String) : EntityLine :=
  if line.toList.head? = some '|' then .other else
  let (type, keystream) := readWord "" (.ofLine line)
  if type = "Attributes" then
    let (set, _) := readUInt32 0 keystream
    .attributes ⟨BitVec.ofNat 32 set⟩
  else if type = "Component" then
    let (cid, keystream) := readUInt32 0 keystream
    .component ⟨cid⟩ keystream
  else .other

/-- What ends the program: a fault, or an exception nobody catches. -/
inductive Crash
  | fault (f : Fault)
  | out_of_range
  deriving DecidableEq

namespace Ecs

variable {F : Type} [Field F]

/-- The loop over the lines, with the entity created so far. The result has no entity where the
loop was left because none could be created. -/
def readLines (u : Uninitialised) : List EntityLine → EntityId → Ecs F → Ecs F × Option EntityId
  | [], entityId, w => (w, some entityId)
  | .attributes mask :: lines, entityId, w =>
    if entityId ≠ -1 then readLines u lines entityId w
    else
      let (w, entityId) := w.addEntity u mask (-1)
      if entityId = -1 then (w, none) else readLines u lines entityId w
  | .component c keystream :: lines, entityId, w =>
    if entityId = -1 then readLines u lines entityId w
    else
      match w.getBase entityId c with
      | none => readLines u lines entityId w
      | some comp => readLines u lines entityId (w.overwrite entityId (comp.readIn keystream))
  | .other :: lines, entityId, w => readLines u lines entityId w

/-- The overload of `addEntity` for a file. The id asked for is not used. -/
def addEntityFile (u : Uninitialised) (l_entityFile : String) (file : EntityFile) (w : Ecs F) :
    Except Crash (Ecs F × EntityId) :=
  match file with
  | none => pure (w, -1)
  | some lines =>
    match readLines u (lines.map .parse) (-1) w with
    | (w, none) => pure (w, -1)
    | (w, some entityId) =>
      if entityId ∉ w.entities then throw .out_of_range
      else pure (w.setType entityId l_entityFile, entityId)

/-! ### What a file does to the store -/

variable {u : Uninitialised} {w w' w'' : Ecs F} {e x : EntityId} {mask : Bitmask}

/-- The mask of the first line of attributes. -/
def firstMask : List EntityLine → Option Bitmask
  | [] => none
  | .attributes mask :: _ => some mask
  | _ :: lines => firstMask lines

/-- A line read once the entity `e` is there. -/
def fillIn (e : EntityId) (w : Ecs F) : EntityLine → Ecs F
  | .component c keystream =>
    match w.getBase e c with
    | none => w
    | some comp => w.overwrite e (comp.readIn keystream)
  | _ => w

lemma readLines_created (u : Uninitialised) (he : e ≠ -1) (lines : List EntityLine) (w : Ecs F) :
    readLines u lines e w = (lines.foldl (fillIn e) w, some e) := by
  induction lines generalizing w with
  | nil => rfl
  | cons line lines ih =>
    rw [List.foldl_cons, ← ih]
    cases line with
    | attributes mask => rw [readLines, if_pos he]; rfl
    | component c keystream =>
      rw [readLines, if_neg he, fillIn]
      cases w.getBase e c <;> rfl
    | other => rfl

lemma readLines_undescribed (u : Uninitialised) {lines : List EntityLine} (w : Ecs F)
    (h : firstMask lines = none) : readLines u lines (-1) w = (w, some (-1)) := by
  induction lines with
  | nil => rfl
  | cons line lines ih =>
    cases line with
    | attributes mask => cases h
    | component c keystream =>
      rw [readLines, if_pos rfl]
      exact ih h
    | other => exact ih h

lemma readLines_described (u : Uninitialised) {lines : List EntityLine} (w : Ecs F)
    (h : firstMask lines = some mask) :
    ((w.addEntity u mask (-1)).2 = -1 ∧
      readLines u lines (-1) w = ((w.addEntity u mask (-1)).1, none)) ∨
    ((w.addEntity u mask (-1)).2 ≠ -1 ∧ ∃ rest : List EntityLine,
      readLines u lines (-1) w = (rest.foldl (fillIn (w.addEntity u mask (-1)).2)
        (w.addEntity u mask (-1)).1, some (w.addEntity u mask (-1)).2)) := by
  induction lines with
  | nil => cases h
  | cons line lines ih =>
    cases line with
    | attributes mask' =>
      cases h
      by_cases he : (w.addEntity u mask (-1)).2 = -1
      · refine .inl ⟨he, ?_⟩
        simp only [readLines, he, ne_eq, not_true, if_false, if_true]
      · refine .inr ⟨he, lines, ?_⟩
        simp only [readLines, he, ne_eq, not_true, if_false]
        exact readLines_created u he lines _
    | component c keystream =>
      rw [readLines, if_pos rfl]
      exact ih h
    | other => exact ih h

/-! ### Entities filled in -/

omit [Field F] in
lemma getComponent_congr {T : Type} [CompType F T]
    (h : w'.entities.lookup x = w.entities.lookup x) :
    w'.getComponent T x = w.getComponent T x := by
  rw [getComponent, getComponent, getBase, getBase, h]

omit [Field F] in
lemma getBase_setType (e : EntityId) (type : String) (w : Ecs F) (x : EntityId) (c : Component) :
    (w.setType e type).getBase x c = w.getBase x c := by
  rw [getBase, getBase, lookup_setType]
  cases w.entities.lookup x with
  | none => rfl
  | some d =>
    simp only [Option.map_some]
    split <;> rfl

/-- The entity `e` has other values, in the same components and for the same client. -/
structure Fills (e : EntityId) (w w' : Ecs F) : Prop extends Alters e w w' where
  consistent : Consistent w → Consistent w'
  has : ∀ x c, w'.hasComponent x c = w.hasComponent x c
  client : ∀ x, w'.getComponent C_Client x = w.getComponent C_Client x

omit [Field F] in
lemma Fills.refl (e : EntityId) (w : Ecs F) : Fills e w w :=
  ⟨.refl e w, id, fun _ _ => rfl, fun _ => rfl⟩

omit [Field F] in
lemma Fills.trans (h : Fills e w w') (h' : Fills e w' w'') : Fills e w w'' where
  toAlters := h.toAlters.trans h'.toAlters
  consistent hw := h'.consistent (h.consistent hw)
  has x c := (h'.has x c).trans (h.has x c)
  client x := (h'.client x).trans (h.client x)

omit [Field F] in
lemma overwrite_fills {b : C_Base F} (h : b.getType = .Client → w.getBase e .Client = some b) :
    Fills e w (w.overwrite e b) where
  toAlters := modify_alters e _ w
  consistent := (overwrite_framed (P := fun _ _ => True) b w trivial).consistent
  has := (overwrite_framed (P := fun _ _ => True) b w trivial).hasComponent
  client x := by
    by_cases hb : b.getType = .Client
    · obtain ⟨c, rfl⟩ := CompType.exists_wrap (F := F) (T := C_Client) b hb
      rw [← setComponent_eq]
      by_cases hx : x = e
      · subst hx
        have hc : w.getComponent C_Client x = some c := by
          rw [getComponent, show CompType.tag F C_Client = .Client from rfl, h hb]
          rfl
        rw [getComponent_setComponent, hc]
        rfl
      · exact getComponent_congr (lookup_setComponent_ne hx c w)
    · exact (overwrite_framed (P := fun _ c => c = b.getType) b w rfl).get fun hc => hb hc.symm

omit [Field F] in
lemma setType_fills (e : EntityId) (type : String) (w : Ecs F) : Fills e w (w.setType e type) where
  toAlters := modify_alters e _ w
  consistent hw := consistent_setType hw e type
  has x c := by
    rw [hasComponent, hasComponent, lookup_setType]
    cases w.entities.lookup x with
    | none => rfl
    | some d =>
      simp only [Option.map_some]
      split <;> rfl
  client x := by rw [getComponent, getComponent, getBase_setType]

lemma fillIn_fills (e : EntityId) (w : Ecs F) (line : EntityLine) :
    Fills e w (fillIn e w line) := by
  cases line with
  | component c keystream =>
    rw [fillIn]
    cases hb : w.getBase e c with
    | none => exact .refl e w
    | some comp =>
      refine overwrite_fills fun htype => ?_
      rw [C_Base.getType_readIn] at htype
      obtain ⟨client, rfl⟩ := CompType.exists_wrap (F := F) (T := C_Client) comp htype
      have hc : c = .Client := (getBase_type hb).symm
      rw [← hc, hb]
      rfl
  | attributes mask => exact .refl e w
  | other => exact .refl e w

/-! ### Entities created -/

/-- No component names a client. -/
def Unclaimed (d : EntityData F) : Prop := ∀ c, C_Base.client c ∈ d.components → c = .new

omit [Field F] in
lemma Unclaimed.get {d : EntityData F} (h : Unclaimed d) (hd : w.entities.lookup e = some d)
    {c : C_Client} (hc : w.getComponent C_Client e = some c) : c = .new := by
  obtain ⟨b, hb, hcast⟩ := Option.bind_eq_some_iff.mp hc
  obtain ⟨c', rfl, hc'⟩ := getBase_eq_wrap (T := C_Client) hb
  rw [hc] at hc'
  cases hc'
  rw [getBase, hd] at hb
  dsimp only at hb
  split at hb
  · cases hb
  · exact h c (List.mem_of_find?_eq_some hb)

lemma addRequested_unclaimed (u : Uninitialised) (mask : Bitmask) (i : ℕ)
    (h : ∃ d, w.entities.lookup e = some d ∧ Unclaimed d) :
    ∃ d, (addRequested u mask e w i).entities.lookup e = some d ∧ Unclaimed d := by
  obtain ⟨d, hd, hun⟩ := h
  unfold addRequested
  split
  · obtain ⟨heq, -⟩ | ⟨d₀, component, -, hmem, -, hedit⟩ := addComponent_cases u e ⟨i⟩ w
    · exact ⟨d, by rw [heq]; exact hd, hun⟩
    · have hd₀ := hedit.before
      rw [hd] at hd₀
      cases hd₀
      refine ⟨_, hedit.after, fun c hc => ?_⟩
      rcases List.mem_append.mp hc with hold | hnew
      · exact hun c hold
      · rw [List.mem_singleton] at hnew
        subst hnew
        exact mem_compFactory_client hmem
  · exact ⟨d, hd, hun⟩

lemma addEntity_made (u : Uninitialised) (mask : Bitmask) {l_id : EntityId}
    (hnew : nextId l_id w ∉ w.entities) :
    ∃ d, (w.addEntity u mask l_id).1.entities.lookup (nextId l_id w) = some d ∧ Unclaimed d ∧
      ∀ i, d.bitmask.getBit i = (registered ⟨i⟩ && mask.getBit i) := by
  have hid := hnew
  rw [nextId] at hid
  rw [addEntity, if_neg hid]
  set e : EntityId := if l_id = -1 then toInt32 w.idCounter else l_id with he
  set counter := if l_id = -1 then (w.idCounter + 1) % 4294967296 else w.idCounter
  set w₀ : Ecs F := { w with
    entities := w.entities.insert e (.new F)
    idCounter := counter } with hw₀
  have hd₀ : w₀.entities.lookup e = some (.new F) := AList.lookup_insert w.entities
  obtain ⟨d, hd, hbit⟩ := addRequested_bitmask u mask (List.range N_COMPONENT_TYPES) hd₀
  obtain ⟨d', hd', hun⟩ := Dict.foldl_inv
    (I := fun v : Ecs F => ∃ d, v.entities.lookup e = some d ∧ Unclaimed d)
    (fun v i hv => addRequested_unclaimed u mask i hv) (List.range N_COMPONENT_TYPES)
    ⟨_, hd₀, fun c hc => by simp [EntityData.new] at hc⟩
  rw [hd] at hd'
  cases hd'
  refine ⟨d, hd, hun, fun i => ?_⟩
  rw [hbit i]
  by_cases hi : registered ⟨i⟩ = true
  · have hlt : i < N_COMPONENT_TYPES := registered_lt hi
    simp only [EntityData.new, Bitmask.getBit_empty, Bool.false_or, List.mem_range, hlt, hi,
      decide_true, Bool.true_and]
  · simp [EntityData.new, hi]

/-- The entity `e` has come with what `mask` asks for, and belongs to no client. -/
structure Loads (mask : Bitmask) (e : EntityId) (w w' : Ecs F) : Prop extends Creates e w w' where
  counter : w'.idCounter = (w.idCounter + 1) % 4294967296
  consistent : Consistent w'
  has : ∀ c, registered c = true → w'.hasComponent e c = mask.getBit c.id
  unclaimed : ∀ c, w'.getComponent C_Client e = some c → c = .new

lemma addEntity_loads (hw : Consistent w) (u : Uninitialised) (mask : Bitmask)
    (hnew : nextId (-1) w ∉ w.entities) :
    Loads mask (nextId (-1) w) w (w.addEntity u mask (-1)).1 := by
  obtain ⟨d, hd, hun, hbit⟩ := addEntity_made u mask hnew
  obtain ⟨-, hc, hcounter⟩ := addEntity_free u mask hnew
  exact {
    toCreates := hc
    counter := hcounter
    consistent := hw.addEntity u mask (-1)
    has := fun c hreg => by
      rw [hasComponent, hd]
      dsimp only
      rw [hbit c.id, hreg, Bool.true_and]
    unclaimed := fun c hcl => hun.get hd hcl }

omit [Field F] in
lemma Loads.fills (h : Loads mask e w w') (hf : Fills e w' w'') : Loads mask e w w'' where
  fresh := h.fresh
  keys := hf.keys.trans h.keys
  other x hx := (hf.other x hx).trans (h.other x hx)
  members sys x hx := (hf.members sys x hx).trans (h.members sys x hx)
  events := hf.events.trans h.events
  input := hf.input.trans h.input
  broadcasts := hf.broadcasts.trans h.broadcasts
  counter := hf.idCounter.trans h.counter
  consistent := hf.consistent h.consistent
  has c hc := (hf.has e c).trans (h.has c hc)
  unclaimed c hc := h.unclaimed c (by rw [← hf.client]; exact hc)

/-! ### What becomes of a file -/

/-- The mask of the entity a file describes, if it opens and describes one. -/
def fileMask (file : EntityFile) : Option Bitmask :=
  file.bind fun lines => firstMask (lines.map .parse)

/-- The store can create the entity a file describes, under an id that is no failure. -/
structure Loadable (file : EntityFile) (mask : Bitmask) (w : Ecs F) : Prop where
  described : fileMask file = some mask
  free : nextId (-1) w ∉ w.entities
  valid : nextId (-1) w ≠ -1

lemma fillIn_run (e : EntityId) (lines : List EntityLine) (w : Ecs F) :
    Fills e w (lines.foldl (fillIn e) w) :=
  Dict.foldl_inv (I := Fills e w) (fun v line hv => hv.trans (fillIn_fills e v line)) lines
    (.refl e w)

lemma addEntityFile_eq (u : Uninitialised) (name : String) {file : EntityFile}
    (h : Loadable file mask w) :
    ∃ rest : List EntityLine, addEntityFile u name file w =
      .ok ((rest.foldl (fillIn (nextId (-1) w)) (w.addEntity u mask (-1)).1).setType
        (nextId (-1) w) name, nextId (-1) w) := by
  obtain ⟨lines, rfl, hmask⟩ := Option.bind_eq_some_iff.mp h.described
  obtain ⟨hid, hcreates, -⟩ := addEntity_free u mask h.free
  rcases readLines_described u w hmask with ⟨hneg, -⟩ | ⟨-, rest, hread⟩
  · exact absurd (hid.symm.trans hneg) h.valid
  rw [hid] at hread
  have hmem : nextId (-1) w ∈ (rest.foldl (fillIn (nextId (-1) w))
      (w.addEntity u mask (-1)).1).entities := by
    rw [AList.mem_keys, (fillIn_run (nextId (-1) w) rest _).keys, hcreates.keys]
    exact List.mem_cons_self
  refine ⟨rest, ?_⟩
  simp only [addEntityFile, hread, if_neg (not_not.mpr hmem)]
  rfl

lemma addEntityFile_loads (hw : Consistent w) (u : Uninitialised) (name : String)
    {file : EntityFile} (h : Loadable file mask w) :
    ∃ w', addEntityFile u name file w = .ok (w', nextId (-1) w) ∧
      Loads mask (nextId (-1) w) w w' := by
  obtain ⟨rest, heq⟩ := addEntityFile_eq u name h
  have hfilled := (addEntity_loads hw u mask h.free).fills (fillIn_run (nextId (-1) w) rest _)
  exact ⟨_, heq, hfilled.fills (setType_fills (nextId (-1) w) name _)⟩

/-- A file that cannot be loaded ends in an exception or in failure. Only the entity `-1` is renamed
then, or created. -/
lemma addEntityFile_fails (hw : Consistent w) (u : Uninitialised) (name : String)
    {file : EntityFile} (h : ∀ mask, ¬ Loadable file mask w) :
    addEntityFile u name file w = .error .out_of_range ∨
      ∃ w', addEntityFile u name file w = .ok (w', -1) ∧
        (w' = w ∨ w' = w.setType (-1) name ∨ ∃ mask, Loads mask (-1) w w') := by
  cases file with
  | none => exact .inr ⟨w, rfl, .inl rfl⟩
  | some lines =>
    cases hmask : firstMask (lines.map .parse) with
    | none =>
      have hread := readLines_undescribed u w hmask
      by_cases hmem : (-1 : EntityId) ∈ w.entities
      · refine .inr ⟨w.setType (-1) name, ?_, .inr (.inl rfl)⟩
        simp only [addEntityFile, hread, if_neg (not_not.mpr hmem)]
        rfl
      · left
        simp only [addEntityFile, hread, if_pos hmem]
        rfl
    | some mask =>
      have hcase := readLines_described u w hmask
      by_cases hmem : nextId (-1) w ∈ w.entities
      · have heq := addEntity_taken u mask hmem
        rcases hcase with ⟨-, hread⟩ | ⟨hvalid, -⟩
        · refine .inr ⟨w, ?_, .inl rfl⟩
          simp only [addEntityFile, hread, heq]
          rfl
        · rw [heq] at hvalid
          exact absurd rfl hvalid
      · have hneg : nextId (-1) w = -1 := by
          by_contra hvalid
          exact h mask ⟨hmask, hmem, hvalid⟩
        rcases hcase with ⟨-, hread⟩ | ⟨hvalid, -⟩
        · refine .inr ⟨_, ?_, .inr (.inr ⟨mask, hneg ▸ addEntity_loads hw u mask hmem⟩)⟩
          simp only [addEntityFile, hread]
          rfl
        · exact absurd ((addEntity_free u mask hmem).1.trans hneg) hvalid

lemma addEntityFile_cases (hw : Consistent w) (u : Uninitialised) (name : String)
    (file : EntityFile) :
    addEntityFile u name file w = .error .out_of_range ∨
      ∃ w' e, addEntityFile u name file w = .ok (w', e) ∧
        (w' = w ∨ w' = w.setType (-1) name ∨ ∃ mask, Loads mask e w w') := by
  by_cases h : ∃ mask, Loadable file mask w
  · obtain ⟨mask, hmask⟩ := h
    obtain ⟨w', hw', hloads⟩ := addEntityFile_loads hw u name hmask
    exact .inr ⟨w', _, hw', .inr (.inr ⟨mask, hloads⟩)⟩
  · refine (addEntityFile_fails hw u name (not_exists.mp h)).imp_right ?_
    rintro ⟨w', hw', hcase⟩
    exact ⟨w', -1, hw', hcase⟩

/-! ### Timers -/

omit [Field F] in
lemma mem_replaceFirst {c : Component} {a b : C_Base F} {l : List (C_Base F)}
    (h : a ∈ replaceFirst c b l) : a = b ∨ a ∈ l := by
  induction l with
  | nil => cases h
  | cons x l ih =>
    rw [replaceFirst] at h
    split at h
    · rcases List.mem_cons.mp h with rfl | hold
      · exact .inl rfl
      · exact .inr (List.mem_cons_of_mem x hold)
    · rcases List.mem_cons.mp h with rfl | hrest
      · exact .inr List.mem_cons_self
      · exact (ih hrest).imp_right (List.mem_cons_of_mem x)

lemma mem_compFactory_timer {c : Component} {b : C_Base F}
    (h : (c, b) ∈ compFactory (F := F) u) : b.timer = 0 := by
  simp only [compFactory, List.mem_cons, Prod.mk.injEq, List.not_mem_nil, or_false] at h
  rcases h with ⟨-, rfl⟩ | ⟨-, rfl⟩ | ⟨-, rfl⟩ | ⟨-, rfl⟩ | ⟨-, rfl⟩ | ⟨-, rfl⟩ | ⟨-, rfl⟩ |
    ⟨-, rfl⟩ | ⟨-, rfl⟩ <;> rfl

/-- No component has a timer that has counted. -/
def Unstarted (x : EntityId) (w : Ecs F) : Prop :=
  ∀ d, w.entities.lookup x = some d → ∀ b ∈ d.components, b.timer = 0

lemma fillIn_unstarted (h : Unstarted x w) (e : EntityId) (line : EntityLine) :
    Unstarted x (fillIn e w line) := by
  cases line with
  | component c keystream =>
    rw [fillIn]
    cases hb : w.getBase e c with
    | none => exact h
    | some comp =>
      dsimp only
      intro d' hd' b hbd
      by_cases hx : x = e
      · subst hx
        rw [overwrite, Dict.lookup_modify] at hd'
        obtain ⟨d, hd, rfl⟩ := Option.map_eq_some_iff.mp hd'
        rcases mem_replaceFirst hbd with rfl | hold
        · rw [C_Base.timer_readIn]
          refine h d hd comp ?_
          rw [getBase, hd] at hb
          dsimp only at hb
          split at hb
          · cases hb
          · exact List.mem_of_find?_eq_some hb
        · exact h d hd b hold
      · rw [overwrite, Dict.lookup_modify_ne hx] at hd'
        exact h d' hd' b hbd
  | attributes mask => exact h
  | other => exact h

lemma addRequested_unstarted (h : Unstarted x w) (u : Uninitialised) (mask : Bitmask)
    (e : EntityId) (i : ℕ) : Unstarted x (addRequested u mask e w i) := by
  unfold addRequested
  split
  · obtain ⟨heq, -⟩ | ⟨d₀, component, -, hmem, -, hedit⟩ := addComponent_cases u e ⟨i⟩ w
    · rwa [heq]
    · intro d hd b hb
      by_cases hx : x = e
      · subst hx
        rw [hedit.after] at hd
        cases hd
        rcases List.mem_append.mp hb with hold | hnew
        · exact h d₀ hedit.before b hold
        · rw [List.mem_singleton] at hnew
          subst hnew
          exact mem_compFactory_timer hmem
      · rw [hedit.other x hx] at hd
        exact h d hd b hb
  · exact h

lemma addEntity_unstarted (h : Unstarted x w) (u : Uninitialised) (mask : Bitmask)
    (l_id : EntityId) : Unstarted x (w.addEntity u mask l_id).1 := by
  rw [addEntity]
  by_cases hid : (if l_id = -1 then toInt32 w.idCounter else l_id) ∈ w.entities
  · rw [if_pos hid]
    exact h
  · rw [if_neg hid]
    refine Dict.foldl_inv (I := Unstarted x)
      (fun v i hv => addRequested_unstarted hv u mask _ i) (List.range N_COMPONENT_TYPES) ?_
    intro d hd b hb
    by_cases hx : x = if l_id = -1 then toInt32 w.idCounter else l_id
    · rw [hx, AList.lookup_insert] at hd
      cases hd
      cases hb
    · rw [AList.lookup_insert_ne hx] at hd
      exact h d hd b hb

lemma readLines_unstarted (h : Unstarted x w) (u : Uninitialised) (lines : List EntityLine)
    (e : EntityId) : Unstarted x (readLines u lines e w).1 := by
  induction lines generalizing w e with
  | nil => exact h
  | cons line lines ih =>
    cases line with
    | attributes mask =>
      rw [readLines]
      split
      · exact ih h e
      · have hadd := addEntity_unstarted h u mask (-1)
        dsimp only
        split
        · exact hadd
        · exact ih hadd _
    | component c keystream =>
      have hfill := fillIn_unstarted h e (.component c keystream)
      rw [readLines]
      split
      · exact ih h e
      · rw [fillIn] at hfill
        split
        · exact ih h e
        · next comp hcomp =>
          rw [hcomp] at hfill
          exact ih hfill e
    | other => exact ih h e

lemma addEntityFile_unstarted (h : Unstarted x w) (u : Uninitialised) (name : String)
    (file : EntityFile) : Post (addEntityFile u name file w) (fun r => Unstarted x r.1)
      fun _ => True := by
  unfold addEntityFile
  cases file with
  | none => exact h
  | some lines =>
    have hread := readLines_unstarted h u (lines.map .parse) (-1)
    dsimp only
    split
    · next v heq =>
      rw [heq] at hread
      exact hread
    · next v e heq =>
      rw [heq] at hread
      refine Post.ite (fun _ => trivial) fun _ => ?_
      rintro d hd b hb
      rw [lookup_setType] at hd
      obtain ⟨d₀, hd₀, rfl⟩ := Option.map_eq_some_iff.mp hd
      refine hread d₀ hd₀ b ?_
      revert hb
      split <;> exact id

end Ecs

end Sfrpg
