import Mathlib.Logic.Relation
import Sfrpg.Membership
import Sfrpg.Turns

/-!
What the handlers and the updates can do to the store at all: five kinds of effects.

They write components through pointers, add events, give an entity its first input or take its
input away, and tell the clients something. None of this makes an entity or a component come or go,
so whatever invariant speaks of these survives any handler; and what a handler may write is a
matter of which pointers it holds.
-/

namespace Sfrpg

open Lib Lib.Word

namespace Ecs

variable {F : Type} {w w' w'' : Ecs F} {e e' : EntityId} {c : Component}
  {P Q : EntityId → Component → Prop}

/-- One write through a pointer to a component in `P`. -/
inductive Write (P : EntityId → Component → Prop) (w : Ecs F) : Ecs F → Prop
  | mk (e : EntityId) (b : C_Base F) (h : P e b.getType) : Write P w (w.overwrite e b)

abbrev Writes (P : EntityId → Component → Prop) : Ecs F → Ecs F → Prop :=
  Relation.ReflTransGen (Write P)

inductive Effect (P : EntityId → Component → Prop) (w : Ecs F) : Ecs F → Prop
  | write (e : EntityId) (b : C_Base F) (h : P e b.getType) : Effect P w (w.overwrite e b)
  | event (e : EntityId) (event : EventID) : Effect P w (w.addEvent e event)
  | neutral (e : EntityId) (h : w.input.lookup e = none) :
    Effect P w { w with input := w.input.insert e ⟨0, 0, false⟩ }
  | forget (e : EntityId) : Effect P w { w with input := w.input.erase e }
  | broadcast (p : Packet) : Effect P w { w with broadcasts := w.broadcasts ++ [p] }

abbrev Effects (P : EntityId → Component → Prop) : Ecs F → Ecs F → Prop :=
  Relation.ReflTransGen (Effect P)

lemma writes_set {T : Type} [CompType F T] (e : EntityId) (x : T) (w : Ecs F)
    (h : P e (CompType.tag F T)) : Writes P w (w.setComponent e x) := by
  rw [setComponent_eq]
  exact .single ⟨e, _, by rw [CompType.getType_wrap]; exact h⟩

lemma Writes.effects (h : Writes P w w') : Effects P w w' := by
  refine Relation.ReflTransGen.mono ?_ _ _ h
  rintro u v ⟨e, b, hb⟩
  exact .write e b hb

lemma Writes.mono (h : Writes P w w') (hPQ : ∀ e c, P e c → Q e c) : Writes Q w w' := by
  refine Relation.ReflTransGen.mono ?_ _ _ h
  rintro u v ⟨e, b, hb⟩
  exact ⟨e, b, hPQ e _ hb⟩

lemma Effects.mono (h : Effects P w w') (hPQ : ∀ e c, P e c → Q e c) : Effects Q w w' := by
  refine Relation.ReflTransGen.mono ?_ _ _ h
  intro u v he
  cases he with
  | write e b hb => exact .write e b (hPQ e _ hb)
  | event e event => exact .event e event
  | neutral e hno => exact .neutral e hno
  | forget e => exact .forget e
  | broadcast p => exact .broadcast p

/-! ### What stays -/

/-- The parts of an entity that are not values of its components. -/
def shapeOf (d : EntityData F) : Bitmask × String × List Component :=
  (d.bitmask, d.type, d.components.map C_Base.getType)

/-- The entities and the kinds of their components are the same; only components in `P` may have
new values. -/
structure Framed (P : EntityId → Component → Prop) (w w' : Ecs F) : Prop where
  idCounter : w'.idCounter = w.idCounter
  members : w'.members = w.members
  keys : w'.entities.keys = w.entities.keys
  shape : ∀ e, (w'.entities.lookup e).map shapeOf = (w.entities.lookup e).map shapeOf
  other : ∀ e c, ¬ P e c → w'.getBase e c = w.getBase e c

lemma framed_of_entities (hid : w'.idCounter = w.idCounter) (hmem : w'.members = w.members)
    (hent : w'.entities = w.entities) : Framed P w w' where
  idCounter := hid
  members := hmem
  keys := by rw [hent]
  shape e := by rw [hent]
  other e c _ := by rw [getBase, getBase, hent]

lemma Framed.trans (h : Framed P w w') (h' : Framed P w' w'') : Framed P w w'' where
  idCounter := h'.idCounter.trans h.idCounter
  members := h'.members.trans h.members
  keys := h'.keys.trans h.keys
  shape e := (h'.shape e).trans (h.shape e)
  other e c hP := (h'.other e c hP).trans (h.other e c hP)

lemma map_getType_replaceFirst {b : C_Base F} (l : List (C_Base F)) :
    (replaceFirst b.getType b l).map C_Base.getType = l.map C_Base.getType := by
  induction l with
  | nil => rfl
  | cons a l ih =>
    by_cases ha : a.getType = b.getType
    · simp [replaceFirst, ha]
    · simp [replaceFirst, ha, ih]

lemma overwrite_framed (b : C_Base F) (w : Ecs F) (h : P e b.getType) :
    Framed P w (w.overwrite e b) where
  idCounter := rfl
  members := rfl
  keys := Dict.keys_modify e _ _
  shape x := by
    by_cases hx : x = e
    · subst hx
      rw [overwrite, Dict.lookup_modify]
      cases w.entities.lookup x with
      | none => rfl
      | some d => simp [shapeOf, map_getType_replaceFirst]
    · rw [overwrite, Dict.lookup_modify_ne hx]
  other x c hP := by
    rw [getBase, getBase, overwrite]
    by_cases hx : x = e
    · subst hx
      have hne : c ≠ b.getType := fun hc => hP (hc ▸ h)
      rw [Dict.lookup_modify]
      cases w.entities.lookup x with
      | none => rfl
      | some d =>
        simp only [Option.map_some]
        split
        · rfl
        · exact find_replaceFirst_ne rfl hne d.components
    · rw [Dict.lookup_modify_ne hx]

lemma Effect.framed (h : Effect P w w') : Framed P w w' := by
  cases h with
  | write e b hb => exact overwrite_framed b w hb
  | event e event => exact framed_of_entities rfl rfl rfl
  | neutral e h => exact framed_of_entities rfl rfl rfl
  | forget e => exact framed_of_entities rfl rfl rfl
  | broadcast p => exact framed_of_entities rfl rfl rfl

lemma Effects.framed (h : Effects P w w') : Framed P w w' := by
  induction h with
  | refl => exact framed_of_entities rfl rfl rfl
  | tail _ h ih => exact ih.trans h.framed

lemma Framed.lookup (h : Framed P w w') {d' : EntityData F} (hd : w'.entities.lookup e = some d') :
    ∃ d, w.entities.lookup e = some d ∧ d'.bitmask = d.bitmask ∧ d'.type = d.type ∧
      d'.components.map C_Base.getType = d.components.map C_Base.getType := by
  have hs := h.shape e
  rw [hd, Option.map_some] at hs
  obtain ⟨d, hd₀, he⟩ := Option.map_eq_some_iff.mp hs.symm
  simp only [shapeOf, Prod.mk.injEq] at he
  exact ⟨d, hd₀, he.1.symm, he.2.1.symm, he.2.2.symm⟩

lemma Framed.hasComponent (h : Framed P w w') (e : EntityId) (c : Component) :
    w'.hasComponent e c = w.hasComponent e c := by
  have hs := h.shape e
  rw [Ecs.hasComponent, Ecs.hasComponent]
  cases h' : w'.entities.lookup e <;> cases h₀ : w.entities.lookup e <;>
    simp_all [shapeOf]

lemma Framed.consistent (h : Framed P w w') (hw : Consistent w) : Consistent w' where
  mem sys e := by
    rw [h.members, hw.mem sys e]
    have hs := h.shape e
    constructor
    · rintro ⟨d, hd, hfit⟩
      rw [hd, Option.map_some] at hs
      obtain ⟨d', hd', he⟩ := Option.map_eq_some_iff.mp hs
      simp only [shapeOf, Prod.mk.injEq] at he
      exact ⟨d', hd', by rw [he.1]; exact hfit⟩
    · rintro ⟨d', hd', hfit⟩
      obtain ⟨d, hd, hbit, -⟩ := h.lookup hd'
      exact ⟨d, hd, hbit ▸ hfit⟩
  nodup sys := by
    rw [h.members]
    exact hw.nodup sys
  sound e d' hd' := by
    obtain ⟨d, hd, hbit, -, htypes⟩ := h.lookup hd'
    intro c
    rw [htypes, hbit]
    exact hw.sound e d hd c

lemma isSome_getBase_eq (e : EntityId) (c : Component) (w : Ecs F) :
    (w.getBase e c).isSome =
      ((w.entities.lookup e).map shapeOf).any fun s => s.1.getBit c.id && decide (c ∈ s.2.2) := by
  rw [getBase]
  cases w.entities.lookup e with
  | none => rfl
  | some d =>
    have hfind : (d.components.find? (·.getType = c)).isSome =
        decide (c ∈ d.components.map C_Base.getType) := by
      rw [Bool.eq_iff_iff, List.find?_isSome]
      simp
    cases hbit : d.bitmask.getBit c.id <;> simp [shapeOf, hbit, hfind]

lemma Framed.isSome_getBase (h : Framed P w w') (e : EntityId) (c : Component) :
    (w'.getBase e c).isSome = (w.getBase e c).isSome := by
  rw [isSome_getBase_eq, isSome_getBase_eq, h.shape]

lemma Effects.consistent (h : Effects P w w') (hw : Consistent w) : Consistent w' :=
  h.framed.consistent hw

lemma Framed.get {T : Type} [CompType F T] (h : Framed P w w') (hP : ¬ P e (CompType.tag F T)) :
    w'.getComponent T e = w.getComponent T e := by
  rw [getComponent, getComponent, h.other e _ hP]

lemma Framed.isSome_get {T : Type} [CompType F T] (h : Framed P w w') (e : EntityId) :
    (w'.getComponent T e).isSome = (w.getComponent T e).isSome := by
  rw [isSome_getComponent, h.isSome_getBase, isSome_getComponent]

lemma Framed.get_some {T : Type} [CompType F T] (h : Framed P w w') {x : T}
    (hx : w.getComponent T e = some x) : ∃ y : T, w'.getComponent T e = some y := by
  rw [← Option.isSome_iff_exists, h.isSome_get, hx]
  rfl

/-! ### Members have what their system requires -/

lemma Consistent.get {T : Type} [CompType F T] (hw : Consistent w) {sys : System}
    (he : e ∈ w.members sys) (c : Component) (hc : CompType.tag F T = c)
    (hreq : ∀ b ∈ requiredComponents sys, b.getBit c.id = true) :
    ∃ x : T, w.getComponent T e = some x := by
  subst hc
  obtain ⟨d, hd, hfit⟩ := (hw.mem sys e).mp he
  obtain ⟨b, hb, hbits⟩ := (fitsRequirements_iff sys d.bitmask).mp hfit
  have hhas : w.hasComponent e (CompType.tag F T) = true := by
    rw [hasComponent, hd]
    exact hbits _ (hreq b hb)
  rw [← hw.isSome_getBase, ← isSome_getComponent (T := T)] at hhas
  exact Option.isSome_iff_exists.mp hhas

lemma Consistent.mem_state (hw : Consistent w) {s : C_State}
    (hs : w.getComponent C_State e = some s) : w.hasEntity .State e := by
  have hsome : (w.getComponent C_State e).isSome := by
    rw [hs]
    rfl
  rw [isSome_getComponent, hw.isSome_getBase, hasComponent] at hsome
  cases hd : w.entities.lookup e with
  | none =>
    rw [hd] at hsome
    cases hsome
  | some d =>
    rw [hd] at hsome
    refine (hw.mem .State e).mpr ⟨d, hd, ?_⟩
    refine (fitsRequirements_iff _ _).mpr ⟨_, List.mem_cons_self, fun q hq => ?_⟩
    rw [Bitmask.getBit_turnOnBit] at hq
    simp only [Bitmask.getBit_empty, Bool.false_or, Bool.and_eq_true, decide_eq_true_eq] at hq
    exact hq.2 ▸ hsome

/-! ### What becomes of events and inputs -/

/-- The events that wait for an entity. -/
def queue (e : EntityId) (w : Ecs F) : List EventID := (w.events.lookup e).getD []

lemma Effects.input (h : Effects P w w') {p : PlayerInput} (hp : w'.input.lookup e = some p) :
    w.input.lookup e = some p ∨ p = ⟨0, 0, false⟩ := by
  induction h generalizing p with
  | refl => exact .inl hp
  | @tail u v _ h ih =>
    cases h with
    | neutral x hno =>
      by_cases hx : e = x
      · subst hx
        rw [AList.lookup_insert] at hp
        cases hp
        exact .inr rfl
      · rw [AList.lookup_insert_ne hx] at hp
        exact ih hp
    | forget x => exact ih (Dict.lookup_erase_some hp).2
    | write => exact ih hp
    | event => exact ih hp
    | broadcast => exact ih hp

lemma Writes.rest (h : Writes P w w') :
    w'.events = w.events ∧ w'.input = w.input ∧ w'.broadcasts = w.broadcasts := by
  induction h with
  | refl => exact ⟨rfl, rfl, rfl⟩
  | tail _ h ih =>
    cases h
    exact ih

end Ecs

end Sfrpg
