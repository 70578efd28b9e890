import Sfrpg.Calls
import Sfrpg.Lib.Things

/-!
What the store is for: things with parts.

An entity is a thing under its id, with at most one component of a type; the lists of the systems
are views of the things. The masks, the order of the components and the notices to the systems are
how the store keeps this. Ids come from a counter.
-/

namespace Sfrpg

open Lib Lib.Word Lib.Run Ecs

/-- The store as its callers see it. -/
structure Store (F : Type) where
  things : Things EntityId String Component (C_Base F)
  counter : ℕ

namespace Store

variable {F : Type} [Zero F]

def new (F : Type) : Store F := ⟨fun _ => none, 0⟩

/-- What the factory makes of a type. -/
def fresh (u : Uninitialised) (c : Component) : Option (C_Base F) :=
  ((compFactory u).find? (·.1 = c)).map Prod.snd

/-- The id the next entity is to have. -/
def nextId (l_id : EntityId) (s : Store F) : EntityId :=
  if l_id = -1 then toInt32 s.counter else l_id

/-- What a new entity has of what was asked for. -/
def requested (u : Uninitialised) (bits : Bitmask) (c : Component) : Option (C_Base F) :=
  if bits.getBit c.id then fresh u c else none

/-- What a caller does to the store: a call, a write through a pointer to a component, or a type
given to an entity. -/
inductive Edit (F : Type)
  | call (call : StoreCall)
  | write (e : EntityId) (b : C_Base F)
  | setType (e : EntityId) (type : String)

/-- What a caller is told. -/
inductive Answer
  | id (e : EntityId)
  | done (b : Bool)
  | nothing

/-- What each tells its caller. -/
def answer (s : Store F) : Edit F → Answer
  | .call (.addEntity _ _ l_id) =>
    .id (if (s.things (s.nextId l_id)).isNone then s.nextId l_id else -1)
  | .call (.addComponent u e c) => .done <|
    match s.things e with
    | none => false
    | some t => (t.part c).isNone && (fresh (F := F) u c).isSome
  | .call (.removeComponent e c) => .done ((s.things e).any fun t => (t.part c).isSome)
  | .call (.removeEntity e) => .done (s.things e).isSome
  | .call .purge => .nothing
  | .write _ _ => .nothing
  | .setType _ _ => .nothing

/-- What each does to the things. -/
def step (s : Store F) : Edit F → Store F
  | .call (.addEntity u bits l_id) =>
    if (s.things (s.nextId l_id)).isNone then
      ⟨s.things.create (s.nextId l_id) "" (requested u bits),
        if l_id = -1 then (s.counter + 1) % 4294967296 else s.counter⟩
    else s
  | .call (.addComponent u e c) => { s with things := s.things.attach e c (fresh u c) }
  | .call (.removeComponent e c) => { s with things := s.things.detach e c }
  | .call (.removeEntity e) => { s with things := s.things.strip e }
  | .call .purge => new F
  | .write e b => { s with things := s.things.write e b.getType b }
  | .setType e type => { s with things := s.things.relabel e type }

end Store

namespace Ecs

section Edits

variable {F : Type} [Field F] [LinearOrder F]

/-- The same, as the code does it. -/
def edit (w : Ecs F) : Store.Edit F → Outcome (Ecs F)
  | .call call => storeStep w call
  | .write e b => pure (w.overwrite e b)
  | .setType e type => pure (w.setType e type)

def answer (w : Ecs F) : Store.Edit F → Outcome Store.Answer
  | .call (.addEntity u bits l_id) => pure (.id (w.addEntity u bits l_id).2)
  | .call (.addComponent u e c) => pure (.done (w.addComponent u e c).2)
  | .call (.removeComponent e c) => pure (.done (w.removeComponent e c).2)
  | .call (.removeEntity e) => (fun r => .done r.2) <$> w.removeEntity e
  | .call .purge => pure .nothing
  | .write _ _ => pure .nothing
  | .setType _ _ => pure .nothing

end Edits

/-! ### The two -/

variable {F : Type}

/-- What an entity's data stand for. -/
def thingOf (d : EntityData F) : Thing String Component (C_Base F) where
  label := d.type
  part c := if !d.bitmask.getBit c.id then none else d.components.find? (·.getType = c)

/-- What the store stands for. -/
def abs (w : Ecs F) : Store F := ⟨fun e => (w.entities.lookup e).map thingOf, w.idCounter⟩

/-- The kinds of components a system asks for. -/
def required (sys : System) : Set (Set Component) :=
  {kinds | ∃ b ∈ requiredComponents sys, kinds = {c | b.getBit c.id = true}}

variable {w w' : Ecs F} {e : EntityId} {c : Component} {d d' : EntityData F} {u : Uninitialised}

lemma getBase_eq (e : EntityId) (c : Component) (w : Ecs F) :
    w.getBase e c = ((abs w).things e).bind fun t => t.part c := by
  rw [getBase, abs]
  dsimp only
  cases w.entities.lookup e <;> rfl

lemma things_of_lookup (hd : w.entities.lookup e = some d) :
    (abs w).things e = some (thingOf d) := by
  rw [abs]
  dsimp only
  rw [hd]
  rfl

lemma things_eq_none (h : w.entities.lookup e = none) : (abs w).things e = none := by
  rw [abs]
  dsimp only
  rw [h, Option.map_none]

lemma isNone_things : ((abs w).things e).isNone = true ↔ e ∉ w.entities := by
  rw [abs, Option.isNone_map, Option.isNone_iff_eq_none, AList.lookup_eq_none]

lemma isSome_part (h : Consistent w) (hd : w.entities.lookup e = some d) (c : Component) :
    ((thingOf d).part c).isSome = d.bitmask.getBit c.id := by
  have hbase := h.isSome_getBase e c
  rw [getBase_eq, things_of_lookup hd, hasComponent, hd] at hbase
  exact hbase

/-- **The lists of the systems are views** of the things. -/
lemma hasEntity_iff_views (h : Consistent w) (sys : System) (e : EntityId) :
    w.hasEntity sys e ↔ (abs w).things.Views (required sys) e := by
  rw [hasEntity, h.mem]
  constructor
  · rintro ⟨d, hd, hfits⟩
    obtain ⟨b, hb, hbits⟩ := (fitsRequirements_iff sys _).mp hfits
    refine ⟨thingOf d, things_of_lookup hd, _, ⟨b, hb, rfl⟩, fun c hc => ?_⟩
    rw [isSome_part h hd]
    exact hbits c.id hc
  · rintro ⟨t, ht, kinds, ⟨b, hb, rfl⟩, hparts⟩
    obtain ⟨d, hd, rfl⟩ := Option.map_eq_some_iff.mp ht
    refine ⟨d, hd, (fitsRequirements_iff sys _).mpr ⟨b, hb, fun q hq => ?_⟩⟩
    rw [← isSome_part h hd ⟨q⟩]
    exact hparts ⟨q⟩ hq

/-! ### Changes -/

lemma things_of_other (hown : w'.entities.lookup e = some d')
    (hother : ∀ x, x ≠ e → w'.entities.lookup x = w.entities.lookup x) :
    (abs w').things = Function.update (abs w).things e (some (thingOf d')) := by
  funext x
  by_cases hx : x = e
  · subst hx
    rw [Function.update_self, things_of_lookup hown]
  · rw [Function.update_of_ne hx, abs, abs]
    dsimp only
    rw [hother x hx]

lemma things_modify (e : EntityId) (f : EntityData F → EntityData F)
    {g : Thing String Component (C_Base F) → Thing String Component (C_Base F)}
    (hfg : ∀ d, thingOf (f d) = g (thingOf d)) (w : Ecs F) :
    abs { w with entities := Dict.modify e f w.entities } =
      { abs w with things := (abs w).things.alter e g } := by
  refine congrArg₂ Store.mk ?_ rfl
  funext x
  by_cases hx : x = e
  · subst hx
    rw [Things.alter, Function.update_self, Dict.lookup_modify]
    show _ = Option.map g (Option.map thingOf (w.entities.lookup x))
    rw [Option.map_map, Option.map_map]
    exact congrArg (Option.map · _) (funext hfg)
  · rw [Things.alter, Function.update_of_ne hx, Dict.lookup_modify_ne hx]
    rfl

lemma abs_overwrite (e : EntityId) (b : C_Base F) (w : Ecs F) :
    abs (w.overwrite e b) = { abs w with things := (abs w).things.write e b.getType b } := by
  refine things_modify e _ (fun d => ?_) w
  refine congrArg (Thing.mk d.type) (funext fun x => ?_)
  by_cases hx : x = b.getType
  · subst hx
    rw [Function.update_self, find_replaceFirst rfl, thingOf]
    dsimp only
    split <;> rfl
  · rw [Function.update_of_ne hx, find_replaceFirst_ne rfl hx]
    rfl

lemma abs_setType (e : EntityId) (type : String) (w : Ecs F) :
    abs (w.setType e type) = { abs w with things := (abs w).things.relabel e type } :=
  things_modify e _ (fun _ => rfl) w

lemma thingOf_add {component : C_Base F} (hd : Sound d) (hbit : d.bitmask.getBit c.id = false)
    (htype : component.getType = c) (hreg : registered c = true) :
    thingOf { d with
      bitmask := d.bitmask.turnOnBit c.id
      components := d.components ++ [component] } =
      { thingOf d with part := Function.update (thingOf d).part c (some component) } := by
  have hnone : d.components.find? (·.getType = c) = none := by
    have hcount := hd c
    rw [hbit] at hcount
    refine List.find?_eq_none.mpr fun b hb heq => ?_
    have hmem : c ∈ d.components.map C_Base.getType :=
      List.mem_map.mpr ⟨b, hb, by simpa using heq⟩
    exact absurd hcount (List.count_pos_iff.mpr hmem).ne'
  refine congrArg (Thing.mk d.type) (funext fun x => ?_)
  have hlt := registered_lt hreg
  by_cases hx : x = c
  · subst hx
    rw [Function.update_self, Bitmask.getBit_turnOnBit, List.find?_append, hnone]
    simp [hlt, htype]
  · have hid : c.id ≠ x.id := fun h => hx (by cases x; cases c; cases h; rfl)
    rw [Function.update_of_ne hx, Bitmask.getBit_turnOnBit, List.find?_append]
    simp [thingOf, hid, htype, Ne.symm hx]

lemma find_eraseP_ne {x : Component} (hx : x ≠ c) (l : List (C_Base F)) :
    (l.eraseP (·.getType = c)).find? (·.getType = x) = l.find? (·.getType = x) := by
  induction l with
  | nil => rfl
  | cons b l ih =>
    by_cases hb : b.getType = c
    · rw [List.eraseP_cons_of_pos (by simpa using hb), List.find?_cons_of_neg]
      simpa [hb] using hx.symm
    · rw [List.eraseP_cons_of_neg (by simpa using hb), List.find?_cons, List.find?_cons, ih]

lemma thingOf_remove (d : EntityData F) (c : Component) :
    thingOf { d with
      bitmask := d.bitmask.clearBit c.id
      components := d.components.eraseP (·.getType = c) } =
      { thingOf d with part := Function.update (thingOf d).part c none } := by
  refine congrArg (Thing.mk d.type) (funext fun x => ?_)
  by_cases hx : x = c
  · subst hx
    rw [Function.update_self, Bitmask.getBit_clearBit]
    simp
  · have hid : c.id ≠ x.id := fun h => hx (by cases x; cases c; cases h; rfl)
    rw [Function.update_of_ne hx, Bitmask.getBit_clearBit]
    have hfind : (d.components.eraseP (·.getType = c)).find? (·.getType = x) =
        d.components.find? (·.getType = x) := find_eraseP_ne hx d.components
    rw [hfind]
    simp [thingOf, hid]

lemma removeComponent_found (h : Consistent w) (e : EntityId) (c : Component) :
    (w.removeComponent e c = (w, false) ∧
      ∀ d, w.entities.lookup e = some d → d.bitmask.getBit c.id = false) ∨
    ∃ d, d.bitmask.getBit c.id = true ∧ (w.removeComponent e c).2 = true ∧
      Edits e d { d with
        bitmask := d.bitmask.clearBit c.id
        components := d.components.eraseP (·.getType = c) } w (w.removeComponent e c).1 := by
  unfold removeComponent
  cases hd : w.entities.lookup e with
  | none => exact .inl ⟨rfl, by simp⟩
  | some d =>
    dsimp only
    by_cases hbit : d.bitmask.getBit c.id = true
    · have hsome := isSome_part h hd c
      rw [hbit, Option.isSome_iff_exists] at hsome
      obtain ⟨b, hb⟩ := hsome
      simp only [thingOf, hbit, Bool.not_true, Bool.false_eq_true, if_false] at hb ⊢
      rw [hb]
      exact .inr ⟨d, hbit, rfl, edits_modify hd (fun d' => { d' with
        bitmask := d.bitmask.clearBit c.id
        components := d'.components.eraseP (·.getType = c) }) _ rfl⟩
    · refine .inl ⟨by simp [hbit], fun d' h => ?_⟩
      cases h
      simpa using hbit

lemma removeComponent_snd (h : Consistent w) (e : EntityId) (c : Component) :
    (w.removeComponent e c).2 = ((abs w).things e).any fun t => (t.part c).isSome := by
  rcases removeComponent_found h e c with ⟨heq, hno⟩ | ⟨d, hbit, htrue, he⟩
  · rw [heq]
    cases hd : w.entities.lookup e with
    | none => rw [things_eq_none hd, Option.any_none]
    | some d => rw [things_of_lookup hd, Option.any_some, isSome_part h hd, hno d hd]
  · rw [htrue, things_of_lookup he.before, Option.any_some, isSome_part h he.before, hbit]

lemma abs_removeComponent (h : Consistent w) (e : EntityId) (c : Component) :
    abs (w.removeComponent e c).1 = { abs w with things := (abs w).things.detach e c } := by
  refine congrArg₂ Store.mk ?_ (removeComponent_alters e c w).idCounter
  rcases removeComponent_found h e c with ⟨heq, hno⟩ | ⟨d, -, -, he⟩
  · rw [heq]
    refine (Things.alter_of_eq fun t ht => ?_).symm
    obtain ⟨d, hd, rfl⟩ := Option.map_eq_some_iff.mp ht
    have hnone := isSome_part h hd c
    rw [hno d hd, Option.isSome_eq_false_iff, Option.isNone_iff_eq_none] at hnone
    rw [← hnone, Function.update_eq_self]
  · rw [Things.detach, Things.alter_of_some (things_of_lookup he.before),
      ← thingOf_remove]
    exact things_of_other he.after he.other

section Additions

variable [Zero F]

lemma fresh_of_mem {component : C_Base F} (h : (c, component) ∈ compFactory u) :
    Store.fresh u c = some component := by
  simp only [compFactory, List.mem_cons, Prod.mk.injEq, List.not_mem_nil, or_false] at h
  rcases h with ⟨rfl, rfl⟩ | ⟨rfl, rfl⟩ | ⟨rfl, rfl⟩ | ⟨rfl, rfl⟩ | ⟨rfl, rfl⟩ | ⟨rfl, rfl⟩ |
    ⟨rfl, rfl⟩ | ⟨rfl, rfl⟩ | ⟨rfl, rfl⟩ <;> rfl

lemma isSome_fresh (u : Uninitialised) (c : Component) :
    (Store.fresh (F := F) u c).isSome = registered c := by
  rw [Bool.eq_iff_iff, ← exists_compFactory (F := F) u c, Store.fresh, Option.isSome_map,
    Option.isSome_iff_exists]

lemma addComponent_snd (h : Consistent w) (u : Uninitialised) (e : EntityId) (c : Component) :
    (w.addComponent u e c).2 = match (abs w).things e with
      | none => false
      | some t => (t.part c).isNone && (Store.fresh (F := F) u c).isSome := by
  cases hd : w.entities.lookup e with
  | none => rw [things_eq_none hd, addComponent, hd]
  | some d =>
    have hpart := isSome_part h hd c
    rw [things_of_lookup hd, addComponent, hd]
    dsimp only
    rw [← Option.not_isSome, hpart]
    cases d.bitmask.getBit c.id with
    | true => rfl
    | false =>
      rw [Store.fresh]
      cases (compFactory (F := F) u).find? (·.1 = c) <;> rfl

lemma abs_addComponent (h : Consistent w) (u : Uninitialised) (e : EntityId) (c : Component) :
    abs (w.addComponent u e c).1 =
      { abs w with things := (abs w).things.attach e c (Store.fresh u c) } := by
  refine congrArg₂ Store.mk ?_ (addComponent_alters u e c w).idCounter
  obtain ⟨heq, hno⟩ | ⟨d, component, hbit, hmem, hreg, he⟩ := addComponent_cases u e c w
  · rw [heq]
    refine (Things.alter_of_eq fun t ht => ?_).symm
    obtain ⟨d, hd, rfl⟩ := Option.map_eq_some_iff.mp ht
    have hpart : ((thingOf d).part c).or (Store.fresh u c) = (thingOf d).part c := by
      rcases hno d hd with hbit | hreg
      · rw [← isSome_part h hd] at hbit
        obtain ⟨b, hb⟩ := Option.isSome_iff_exists.mp hbit
        rw [hb]
        rfl
      · rw [← isSome_fresh (F := F) u, Option.isSome_eq_false_iff, Option.isNone_iff_eq_none]
          at hreg
        rw [hreg, Option.or_none]
    rw [hpart, Function.update_eq_self]
  · have hnone : (thingOf d).part c = none := by
      have hsome := isSome_part h he.before c
      rwa [hbit, Option.isSome_eq_false_iff, Option.isNone_iff_eq_none] at hsome
    rw [Things.attach, Things.alter_of_some (things_of_lookup he.before), hnone, Option.none_or,
      fresh_of_mem hmem, ← thingOf_add (h.sound e d he.before) hbit
      (mem_compFactory_type hmem) hreg]
    exact things_of_other he.after he.other

lemma abs_addRequested (h : Consistent w) (u : Uninitialised) (bits : Bitmask) (e : EntityId)
    (l : List ℕ) : abs (l.foldl (addRequested u bits e) w) = { abs w with
      things := (l.map Component.mk).foldl
        (fun s c => s.attach e c (Store.requested u bits c)) (abs w).things } := by
  induction l generalizing w with
  | nil => rfl
  | cons i l ih =>
    have hstep : Consistent (addRequested u bits e w i) ∧ abs (addRequested u bits e w i) =
        { abs w with things := (abs w).things.attach e ⟨i⟩ (Store.requested u bits ⟨i⟩) } := by
      unfold addRequested Store.requested
      split
      · exact ⟨h.addComponent u e ⟨i⟩, abs_addComponent h u e ⟨i⟩⟩
      · refine ⟨h, congrArg₂ Store.mk (Things.alter_of_eq fun t _ => ?_).symm rfl⟩
        rw [Option.or_none, Function.update_eq_self]
    rw [List.foldl_cons, ih hstep.1, hstep.2]
    rfl

lemma requested_of_notMem {bits : Bitmask}
    (h : c ∉ (List.range N_COMPONENT_TYPES).map Component.mk) :
    Store.requested (F := F) u bits c = none := by
  have hlt : ¬ c.id < 32 := fun hlt =>
    h (List.mem_map.mpr ⟨c.id, List.mem_range.mpr hlt, rfl⟩)
  rw [Store.requested, if_neg]
  exact fun hbit => hlt (Bitmask.lt_of_getBit hbit)

lemma abs_addEntity (h : Consistent w) (u : Uninitialised) (bits : Bitmask) (l_id : EntityId) :
    abs (w.addEntity u bits l_id).1 = (abs w).step (.call (.addEntity u bits l_id)) := by
  by_cases hmem : nextId l_id w ∈ w.entities
  · have hsome : ¬ ((abs w).things ((abs w).nextId l_id)).isNone = true :=
      fun hnone => isNone_things.mp hnone hmem
    rw [addEntity_taken u bits hmem, Store.step, if_neg hsome]
  · refine Eq.trans ?_ (if_pos (isNone_things.mpr hmem)).symm
    have hnew := hmem
    rw [nextId] at hnew
    rw [addEntity, if_neg hnew]
    set e : EntityId := nextId l_id w
    set w₀ : Ecs F := { w with
      entities := w.entities.insert e (.new F)
      idCounter := if l_id = -1 then (w.idCounter + 1) % 4294967296 else w.idCounter } with hw₀
    have hempty : thingOf (EntityData.new F) = ⟨"", fun _ => none⟩ := by
      simp [thingOf, EntityData.new]
    have hlook : w₀.entities.lookup e = some (.new F) := AList.lookup_insert _
    have hthings : (abs w₀).things =
      Function.update (abs w).things e (some ⟨"", fun _ => none⟩) := by
      rw [← hempty]
      exact things_of_other hlook fun x hx => AList.lookup_insert_ne hx
    refine (abs_addRequested (h.insert_new hmem _) u bits e _).trans ?_
    refine congrArg₂ Store.mk ?_ rfl
    rw [Things.foldl_attach _ _ ((things_of_lookup hlook).trans (congrArg some hempty)), hthings,
      Function.update_idem, Things.create]
    congr 3
    funext c
    split
    · exact Option.none_or
    · next hc => rw [requested_of_notMem hc, Option.none_or]

end Additions

/-! ### Runs -/

variable [Field F] [LinearOrder F]

lemma abs_removeEntity (h : Consistent w) (e : EntityId) :
    ∃ u, w.removeEntity e = .ok (u, ((abs w).things e).isSome) ∧ Consistent u ∧
      abs u = { abs w with things := (abs w).things.strip e } := by
  rcases removeEntity_cases e w with ⟨hno, hr⟩ | ⟨u, hr, hs⟩
  · have hnone := isNone_things.mpr hno
    rw [Option.isNone_iff_eq_none] at hnone
    refine ⟨w, ?_, h, congrArg₂ Store.mk ?_ rfl⟩
    · rw [hr, hnone]
      rfl
    · rw [Things.strip, Things.alter_of_none hnone]
      rfl
  · obtain ⟨d, hd⟩ := Dict.exists_lookup hs.stored
    have hown : u.entities.lookup e = some { d with bitmask := .empty, components := [] } := by
      rw [hs.own, hd]
      rfl
    refine ⟨u, ?_, hs.consistent h, congrArg₂ Store.mk ?_ hs.idCounter⟩
    · rw [hr, things_of_lookup hd]
      rfl
    · rw [Things.strip, Things.alter_of_some (things_of_lookup hd)]
      have hthing : thingOf (F := F) { d with bitmask := .empty, components := [] } =
          { thingOf d with part := fun _ => none } := by simp [thingOf]
      rw [← hthing]
      exact things_of_other hown hs.other

lemma edit_refines (w : Ecs F) (a : Store.Edit F) (h : Consistent w) :
    ∃ w', edit w a = .ok w' ∧ Consistent w' ∧ abs w' = (abs w).step a := by
  cases a with
  | call call =>
    cases call with
    | addEntity u bits l_id => exact ⟨_, rfl, h.addEntity u bits l_id, abs_addEntity h u bits l_id⟩
    | addComponent u e c => exact ⟨_, rfl, h.addComponent u e c, abs_addComponent h u e c⟩
    | removeComponent e c => exact ⟨_, rfl, h.removeComponent e c, abs_removeComponent h e c⟩
    | removeEntity e =>
      obtain ⟨u, hr, hu, habs⟩ := abs_removeEntity h e
      refine ⟨u, ?_, hu, habs⟩
      rw [edit, storeStep, hr]
      rfl
    | purge => exact ⟨_, rfl, consistent_purge w, rfl⟩
  | write e b =>
    exact ⟨_, rfl, (overwrite_framed (P := fun _ _ => True) b w trivial).consistent h,
      abs_overwrite e b w⟩
  | setType e type => exact ⟨_, rfl, consistent_setType h e type, abs_setType e type w⟩

lemma answer_refines (h : Consistent w) (a : Store.Edit F) :
    answer w a = .ok ((abs w).answer a) := by
  cases a with
  | call call =>
    cases call with
    | addEntity u bits l_id =>
      refine congrArg (fun e => Except.ok (Store.Answer.id e)) ?_
      rcases addEntity_cases u bits l_id w with ⟨hmem, heq⟩ | ⟨hid, hc, -⟩
      · have hsome : ¬ ((abs w).things ((abs w).nextId l_id)).isNone = true :=
          fun hnone => isNone_things.mp hnone hmem
        rw [heq, if_neg hsome]
      · exact hid.trans (if_pos (isNone_things.mpr hc.fresh)).symm
    | addComponent u e c =>
      refine congrArg (fun b => Except.ok (Store.Answer.done b)) ?_
      exact addComponent_snd h u e c
    | removeComponent e c =>
      exact congrArg (fun b => Except.ok (Store.Answer.done b)) (removeComponent_snd h e c)
    | removeEntity e =>
      obtain ⟨u, hr, -, -⟩ := abs_removeEntity h e
      rw [answer, hr]
      rfl
    | purge => rfl
  | write e b => rfl
  | setType e type => rfl

/-- **The store is things with parts.** Whatever calls and writes have been made, in whatever order,
the store stands for what the same calls make of things with parts; the next call tells its caller
what the things tell, a component is found where the thing has the part, and a system lists, once
each, the things that have what it asks for. -/
theorem store_refines (edits : List (Store.Edit F)) :
    ∃ w s, runE edit (new F) edits = .ok w ∧ s = run Store.step (Store.new F) edits ∧ abs w = s ∧
      (∀ a, answer w a = .ok (s.answer a)) ∧
      (∀ e c, w.getBase e c = (s.things e).bind fun t => t.part c) ∧
      ∀ sys, (w.members sys).Nodup ∧ ∀ e, w.hasEntity sys e ↔ s.things.Views (required sys) e := by
  obtain ⟨w, hrun, hw, habs⟩ := runE_refines edit_refines consistent_new edits
  exact ⟨w, abs w, hrun, habs, rfl, answer_refines hw, fun e c => getBase_eq e c w,
    fun sys => ⟨hw.nodup sys, hasEntity_iff_views hw sys⟩⟩

end Ecs

end Sfrpg
