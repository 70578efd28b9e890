import Sfrpg.Ticks

/-!
What the calls of the store leave behind, what they leave alone, and the same of the other steps of
the machine as far as entities and inputs go.

A call is about one entity: the others keep their data and their places in the lists. A new entity
is announced by an event; nothing else touches the queues and the inputs, save that a removal makes
`S_Network` forget one, and a purge not even those of the entities it drops.
-/

namespace Sfrpg

open Lib Lib.Word Ecs

namespace Ecs

variable {F : Type} {w w' w'' : Ecs F} {e e' : EntityId}

/-! ### Components come and go -/

/-- At most the entity `e` has changed, and it is stored as before. -/
structure Alters (e : EntityId) (w w' : Ecs F) : Prop where
  idCounter : w'.idCounter = w.idCounter
  keys : w'.entities.keys = w.entities.keys
  other : ∀ x, x ≠ e → w'.entities.lookup x = w.entities.lookup x
  members : ∀ sys x, x ≠ e → (x ∈ w'.members sys ↔ x ∈ w.members sys)
  events : w'.events = w.events
  input : w'.input = w.input
  broadcasts : w'.broadcasts = w.broadcasts

lemma Alters.refl (e : EntityId) (w : Ecs F) : Alters e w w :=
  ⟨rfl, rfl, fun _ _ => rfl, fun _ _ _ => .rfl, rfl, rfl, rfl⟩

lemma Alters.trans (h : Alters e w w') (h' : Alters e w' w'') : Alters e w w'' where
  idCounter := h'.idCounter.trans h.idCounter
  keys := h'.keys.trans h.keys
  other x hx := (h'.other x hx).trans (h.other x hx)
  members sys x hx := (h'.members sys x hx).trans (h.members sys x hx)
  events := h'.events.trans h.events
  input := h'.input.trans h.input
  broadcasts := h'.broadcasts.trans h.broadcasts

lemma mem_modifiedMembers_ne {sys : System} {bits : Bitmask} {l : List EntityId} {x : EntityId}
    (hx : x ≠ e) : x ∈ modifiedMembers sys e bits l ↔ x ∈ l := by
  unfold modifiedMembers
  split
  · split
    · simp [hx]
    · exact .rfl
  · split
    · exact .rfl
    · exact List.mem_erase_of_ne hx

lemma entityModified_alters (e : EntityId) (bits : Bitmask) (w : Ecs F) :
    Alters e w (w.entityModified e bits) where
  idCounter := rfl
  keys := rfl
  other _ _ := rfl
  members _ _ hx := mem_modifiedMembers_ne hx
  events := rfl
  input := rfl
  broadcasts := rfl

lemma modify_alters (e : EntityId) (f : EntityData F → EntityData F) (w : Ecs F) :
    Alters e w { w with entities := Dict.modify e f w.entities } where
  idCounter := rfl
  keys := Dict.keys_modify e f _
  other _ hx := Dict.lookup_modify_ne hx f _
  members _ _ _ := .rfl
  events := rfl
  input := rfl
  broadcasts := rfl

section Calls

variable [Zero F]

lemma addComponent_alters (u : Uninitialised) (e : EntityId) (c : Component) (w : Ecs F) :
    Alters e w (w.addComponent u e c).1 := by
  unfold addComponent
  cases w.entities.lookup e with
  | none => exact .refl e w
  | some d =>
    dsimp only
    split
    · exact .refl e w
    · cases (compFactory (F := F) u).find? (·.1 = c) with
      | none => exact .refl e w
      | some x => exact (modify_alters e _ w).trans (entityModified_alters e _ _)

omit [Zero F] in
lemma removeComponent_alters (e : EntityId) (c : Component) (w : Ecs F) :
    Alters e w (w.removeComponent e c).1 := by
  unfold removeComponent
  cases w.entities.lookup e with
  | none => exact .refl e w
  | some d =>
    dsimp only
    split
    · exact .refl e w
    · cases d.components.find? (·.getType = c) with
      | none => exact .refl e w
      | some x => exact (modify_alters e _ w).trans (entityModified_alters e _ _)

/-! ### An entity is created -/

/-- The id a call of `addEntity` is about. -/
def nextId (l_id : EntityId) (w : Ecs F) : EntityId :=
  if l_id = -1 then toInt32 w.idCounter else l_id

/-- The entity `e` has come, with the event that says so. -/
structure Creates (e : EntityId) (w w' : Ecs F) : Prop where
  fresh : e ∉ w.entities
  keys : w'.entities.keys = e :: w.entities.keys
  other : ∀ x, x ≠ e → w'.entities.lookup x = w.entities.lookup x
  members : ∀ sys x, x ≠ e → (x ∈ w'.members sys ↔ x ∈ w.members sys)
  events : w'.events = (w.addEvent e EntityEvent.Spawned.id).events
  input : w'.input = w.input
  broadcasts : w'.broadcasts = w.broadcasts

lemma addRequested_alters (u : Uninitialised) (bits : Bitmask) (e : EntityId) (l : List ℕ)
    (w : Ecs F) : Alters e w (l.foldl (addRequested u bits e) w) := by
  refine Dict.foldl_inv (I := Alters e w) (fun v i hv => ?_) l (.refl e w)
  unfold addRequested
  split
  · exact hv.trans (addComponent_alters u e ⟨i⟩ v)
  · exact hv

lemma addEntity_taken (u : Uninitialised) (bits : Bitmask) {l_id : EntityId} {w : Ecs F}
    (h : nextId l_id w ∈ w.entities) : w.addEntity u bits l_id = (w, -1) := by
  rw [nextId] at h
  rw [addEntity, if_pos h]

lemma addEntity_free (u : Uninitialised) (bits : Bitmask) {l_id : EntityId} {w : Ecs F}
    (h : nextId l_id w ∉ w.entities) :
    (w.addEntity u bits l_id).2 = nextId l_id w ∧
      Creates (nextId l_id w) w (w.addEntity u bits l_id).1 ∧
      (w.addEntity u bits l_id).1.idCounter =
        if l_id = -1 then (w.idCounter + 1) % 4294967296 else w.idCounter := by
  have hnew := h
  rw [nextId] at hnew
  rw [addEntity, if_neg hnew]
  set e : EntityId := if l_id = -1 then toInt32 w.idCounter else l_id with he
  set w₀ : Ecs F := { w with
    entities := w.entities.insert e (.new F)
    idCounter := if l_id = -1 then (w.idCounter + 1) % 4294967296 else w.idCounter } with hw₀
  have halt : Alters e w₀ (((List.range N_COMPONENT_TYPES).foldl (addRequested u bits e)
      w₀).entityModified e bits) :=
    (addRequested_alters u bits e _ w₀).trans (entityModified_alters e bits _)
  refine ⟨rfl, ?_, halt.idCounter⟩
  exact {
    fresh := h
    keys := by
      refine halt.keys.trans ((AList.keys_insert w.entities).trans ?_)
      rw [List.erase_of_not_mem fun h => hnew (AList.mem_keys.mpr h)]
      rfl
    other := fun x hx => (halt.other x hx).trans (AList.lookup_insert_ne hx)
    members := halt.members
    events := by
      have hev := halt.events
      show (Ecs.addEvent e _ _).events = _
      rw [addEvent, addEvent, hev]
      rfl
    input := halt.input
    broadcasts := halt.broadcasts }

lemma addEntity_cases (u : Uninitialised) (bits : Bitmask) (l_id : EntityId) (w : Ecs F) :
    (nextId l_id w ∈ w.entities ∧ w.addEntity u bits l_id = (w, -1)) ∨
    ((w.addEntity u bits l_id).2 = nextId l_id w ∧
      Creates (nextId l_id w) w (w.addEntity u bits l_id).1 ∧
      (w.addEntity u bits l_id).1.idCounter =
        if l_id = -1 then (w.idCounter + 1) % 4294967296 else w.idCounter) := by
  by_cases hmem : nextId l_id w ∈ w.entities
  · exact .inl ⟨hmem, addEntity_taken u bits hmem⟩
  · exact .inr (addEntity_free u bits hmem)

end Calls

end Ecs

/-! ### The entities and the inputs after a step -/

variable {F : Type} [Field F] [LinearOrder F] [FloorRing F] {S : Setting F} {w u : Ecs F}
  {i : Turn F}

lemma turn_effects (hw : Consistent w) (h : turn S w i = .ok u)
    (hcall : ∀ call, i ≠ .store call) (hpacket : ∀ v data client, i ≠ .updatePlayer v data client) :
    u.entities.keys = w.entities.keys ∧ ∀ e player, u.input.lookup e = some player →
      w.input.lookup e = some player ∨ player = ⟨0, 0, false⟩ := by
  have heff : ∀ {P : EntityId → Component → Prop}, Effects P w u →
      u.entities.keys = w.entities.keys ∧ ∀ e player, u.input.lookup e = some player →
        w.input.lookup e = some player ∨ player = ⟨0, 0, false⟩ :=
    fun he => ⟨he.framed.keys, fun e player hp => he.input hp⟩
  cases i with
  | store call => exact absurd rfl (hcall call)
  | updatePlayer v data client => exact absurd rfl (hpacket v data client)
  | write e b =>
    cases h
    exact heff (P := fun _ _ => True) (.single (.write e b trivial))
  | setType e type =>
    cases h
    exact ⟨Dict.keys_modify e _ _, fun x player hp => .inl hp⟩
  | message m => exact heff ((dispatch_post hw m).ok h)
  | addEvent e event =>
    cases h
    exact heff (P := fun _ _ => True) (.single (.event e event))
  | update sys dT =>
    by_cases hd : Disarmed w (.update sys dT)
    · rw [turn_disarmed S hw hd] at h
      cases h
    · exact heff ((update_post S hw sys dT hd).ok h)
  | handleEvents systems keys =>
    have hdrains := (handleEvents_ok hw systems keys).ok h
    refine ⟨hdrains.framed.keys, fun e player hp => .inl ?_⟩
    rw [← hdrains.input]
    exact hp

omit [FloorRing F] in
lemma storeStep_other {call : StoreCall} (h : storeStep w call = .ok u)
    (hadd : ∀ v bits l_id, call ≠ .addEntity v bits l_id) (hpurge : call ≠ .purge) :
    u.idCounter = w.idCounter ∧ u.entities.keys = w.entities.keys := by
  cases call with
  | addEntity v bits l_id => exact absurd rfl (hadd v bits l_id)
  | addComponent v e c =>
    cases h
    have halt := addComponent_alters v e c w
    exact ⟨halt.idCounter, halt.keys⟩
  | removeComponent e c =>
    cases h
    have halt := removeComponent_alters e c w
    exact ⟨halt.idCounter, halt.keys⟩
  | removeEntity e =>
    rw [storeStep] at h
    rcases removeEntity_cases e w with ⟨-, heq⟩ | ⟨v, heq, hs⟩
    · rw [heq] at h
      cases h
      exact ⟨rfl, rfl⟩
    · rw [heq] at h
      cases h
      exact ⟨hs.idCounter, hs.keys⟩
  | purge => exact absurd rfl hpurge

omit [FloorRing F] in
lemma storeStep_cases {call : StoreCall} (h : storeStep w call = .ok u) :
    ((∃ v bits l_id, call = .addEntity v bits l_id ∧ Creates (nextId l_id w) w u) ∨
      ∀ e, e ∈ u.entities → e ∈ w.entities) ∧
    ∀ e player, u.input.lookup e = some player → w.input.lookup e = some player := by
  have hkeys : u.entities.keys = w.entities.keys → ∀ e, e ∈ u.entities → e ∈ w.entities := by
    intro hk e he
    rw [AList.mem_keys] at he ⊢
    rwa [← hk]
  cases call with
  | addEntity v bits l_id =>
    cases h
    rcases addEntity_cases v bits l_id w with ⟨-, heq⟩ | ⟨-, hc, -⟩
    · rw [heq]
      exact ⟨.inr fun _ he => he, fun _ _ hp => hp⟩
    · refine ⟨.inl ⟨v, bits, l_id, rfl, hc⟩, fun e player hp => ?_⟩
      rwa [← hc.input]
  | addComponent v e c =>
    cases h
    have halt := addComponent_alters v e c w
    refine ⟨.inr (hkeys halt.keys), fun x player hp => ?_⟩
    rwa [← halt.input]
  | removeComponent e c =>
    cases h
    have halt := removeComponent_alters e c w
    refine ⟨.inr (hkeys halt.keys), fun x player hp => ?_⟩
    rwa [← halt.input]
  | removeEntity e =>
    rw [storeStep] at h
    rcases removeEntity_cases e w with ⟨-, heq⟩ | ⟨v, heq, hs⟩
    · rw [heq] at h
      cases h
      exact ⟨.inr fun _ he => he, fun _ _ hp => hp⟩
    · rw [heq] at h
      cases h
      refine ⟨.inr (hkeys hs.keys), fun x player hp => ?_⟩
      rw [hs.input] at hp
      split at hp
      · exact (Dict.lookup_erase_some hp).2
      · exact hp
  | purge =>
    cases h
    refine ⟨.inr fun e he => ?_, fun _ _ hp => hp⟩
    rw [AList.mem_keys] at he
    simp [purge] at he

end Sfrpg
