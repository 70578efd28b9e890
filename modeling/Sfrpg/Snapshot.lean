import Sfrpg.Ticks

/-!
Snapshots: what the clients are told of the entities.

An `EntitySnapshot` starts with its vectors at zero and its strings empty, and with whatever the
memory holds in its numbers. The members of components an entity lacks stay so. A state or health
that has been created and not set holds what was in the memory, too, and that is sent as it is.
-/

namespace Sfrpg

open Lib Lib.Word Ecs

structure EntitySnapshot (F : Type) where
  type : String
  position : Vector2f F
  elevation : ℤ
  velocity : Vector2f F
  acceleration : Vector2f F
  direction : UInt8
  state : UInt8
  health : UInt8
  name : String

namespace EntitySnapshot

/-- The members no constructor initialises. -/
structure Uninitialised where
  elevation : ℤ
  direction : UInt8
  state : UInt8
  health : UInt8

def new {F : Type} [Zero F] (u : Uninitialised) : EntitySnapshot F :=
  ⟨"", 0, u.elevation, 0, 0, u.direction, u.state, u.health, ""⟩

end EntitySnapshot

variable {F : Type} [Zero F] {w : Ecs F} {e : EntityId} {d : EntityData F}

namespace Ecs

omit [Zero F] in
/-- As many as there are, in 32 bits. -/
def getEntityCount (w : Ecs F) : ℕ := w.entities.keys.length % 4294967296

/-- Writes a component into the snapshot, where the mask says that there is one. -/
def takeComponent {T : Type} [CompType F T] (e : EntityId) (d : EntityData F) (w : Ecs F)
    (f : T → EntitySnapshot F → EntitySnapshot F) (s : EntitySnapshot F) :
    Outcome (EntitySnapshot F) :=
  if d.bitmask.getBit (CompType.tag F T).id then do
    let x ← deref (w.getComponent T e)
    pure (f x s)
  else pure s

/-- One pass of the loop of `dumpEntityInfo`. -/
def snapshotOf (u : EntitySnapshot.Uninitialised) (e : EntityId) (d : EntityData F) (w : Ecs F) :
    Outcome (EntitySnapshot F) :=
  pure { EntitySnapshot.new u with type := d.type } >>=
  takeComponent e d w (fun (pos : C_Position F) s => { s with
    position := pos.position
    elevation := toInt32 pos.elevation }) >>=
  takeComponent e d w (fun (mov : C_Movable F) s => { s with
    velocity := mov.velocity
    acceleration := mov.acceleration
    direction := Packet.byte mov.direction.val }) >>=
  takeComponent e d w (fun (state : C_State) s => { s with
    state := Packet.byte state.state.val }) >>=
  takeComponent e d w (fun (health : C_Health) s => { s with
    health := Packet.byte health.health }) >>=
  takeComponent e d w (fun (name : C_Name) s => { s with name := name.name })

/-- The records `dumpEntityInfo` writes, each with the id before it. -/
def dumpEntityInfo (u : EntityId → EntitySnapshot.Uninitialised) (w : Ecs F) :
    Outcome (List (EntityId × EntitySnapshot F)) :=
  w.entities.entries.mapM fun entry => do
    let s ← snapshotOf (u entry.1) entry.1 entry.2 w
    pure (entry.1, s)

end Ecs

namespace S_Network

/-- What a snapshot packet says after its stamp. -/
structure Snapshot (F : Type) where
  count : ℤ
  records : List (EntityId × EntitySnapshot F)

def createSnapshot (u : EntityId → EntitySnapshot.Uninitialised) (w : Ecs F) :
    Outcome (Snapshot F) :=
  if 0 < w.getEntityCount then do
    let records ← w.dumpEntityInfo u
    pure ⟨toInt32 w.getEntityCount, records⟩
  else pure ⟨toInt32 w.getEntityCount, []⟩

end S_Network

/-! ### A record for every entity -/

namespace Ecs

omit [Zero F] in
lemma Consistent.get_of_bit {T : Type} [CompType F T] (hw : Consistent w)
    (hd : w.entities.lookup e = some d) (hbit : d.bitmask.getBit (CompType.tag F T).id = true) :
    ∃ x : T, w.getComponent T e = some x := by
  have hhas : w.hasComponent e (CompType.tag F T) = true := by
    rw [hasComponent, hd]
    exact hbit
  rw [← hw.isSome_getBase, ← isSome_getComponent (T := T)] at hhas
  exact Option.isSome_iff_exists.mp hhas

omit [Zero F] in
lemma takeComponent_post {T : Type} [CompType F T] {f : T → EntitySnapshot F → EntitySnapshot F}
    (hw : Consistent w) (hd : w.entities.lookup e = some d) (s : EntitySnapshot F) :
    Post (takeComponent e d w f s) (fun _ => True) fun _ => False := by
  unfold takeComponent
  refine Post.ite (fun hbit => ?_) fun _ => trivial
  obtain ⟨x, hx⟩ := hw.get_of_bit (T := T) hd hbit
  rw [hx]
  trivial

lemma snapshotOf_post (u : EntitySnapshot.Uninitialised) (hw : Consistent w)
    (hd : w.entities.lookup e = some d) :
    Post (snapshotOf u e d w) (fun _ => True) fun _ => False := by
  have hnext : ∀ {T : Type} [CompType F T] (f : T → EntitySnapshot F → EntitySnapshot F)
      (x : Outcome (EntitySnapshot F)), Post x (fun _ => True) (fun _ => False) →
      Post (x >>= takeComponent e d w f) (fun _ => True) fun _ => False :=
    fun f x hx => hx.bind fun s _ => takeComponent_post hw hd s
  unfold snapshotOf
  exact hnext _ _ (hnext _ _ (hnext _ _ (hnext _ _ (hnext _ _ trivial))))

/-- **A dump goes well, and has one record for each stored entity.** -/
lemma dumpEntityInfo_post (u : EntityId → EntitySnapshot.Uninitialised) (hw : Consistent w) :
    Post (w.dumpEntityInfo u) (fun l => l.map Prod.fst = w.entities.keys) fun _ => False := by
  have hone : ∀ entry ∈ w.entities.entries, Post (do
      let s ← snapshotOf (u entry.1) entry.1 entry.2 w
      pure (entry.1, s) : Outcome (EntityId × EntitySnapshot F)) (fun r => r.1 = entry.1)
      fun _ => False := by
    intro entry hentry
    have hd : w.entities.lookup entry.1 = some entry.2 := Dict.mem_entries.mp hentry
    exact (snapshotOf_post (u entry.1) hw hd).bind fun _ _ => rfl
  refine (Post.mapM hone).imp fun l hl => ?_
  rw [AList.keys, List.keys]
  generalize w.entities.entries = entries at hl
  induction hl with
  | nil => rfl
  | cons hr _ ih => rw [List.map_cons, List.map_cons, hr, ih]

end Ecs

/-! ### Members that nobody has set -/

/-- The entities whose state, or health, is what the memory held when it was created. -/
structure Unset where
  state : List EntityId
  health : List EntityId

namespace Unset

def new : Unset := ⟨[], []⟩

/-- The entities that come by a component between `w` and `w'`. -/
def newcomers (c : Component) (w w' : Ecs F) : List EntityId :=
  w'.entities.keys.filter fun e => (w'.getBase e c).isSome && (w.getBase e c).isNone

/-- A call of the store creates components, and a write sets them. What the systems write they
choose by what they find, so after them a member counts as unset as it was. -/
def turn (g : Unset) (w : Ecs F) (i : Turn F) (w' : Ecs F) : Unset :=
  match i with
  | .store _ => ⟨newcomers .State w w' ++ g.state, newcomers .Health w w' ++ g.health⟩
  | .write e (.state _) => { g with state := g.state.filter (· ≠ e) }
  | .write e (.health _) => { g with health := g.health.filter (· ≠ e) }
  | _ => g

/-- The component has a member that nobody has set. -/
def Vague (g : Unset) (e : EntityId) (c : Component) : Prop :=
  (c = .State ∧ e ∈ g.state) ∨ (c = .Health ∧ e ∈ g.health)

end Unset

namespace Ecs

/-! ### What a record says -/

/-- The snapshot of `e` member by member, off the components `e` has. -/
def recordOf (u : EntitySnapshot.Uninitialised) (type : String) (e : EntityId) (w : Ecs F) :
    EntitySnapshot F where
  type := type
  position := (w.getComponent (C_Position F) e).elim 0 (·.position)
  elevation := (w.getComponent (C_Position F) e).elim u.elevation fun pos => toInt32 pos.elevation
  velocity := (w.getComponent (C_Movable F) e).elim 0 (·.velocity)
  acceleration := (w.getComponent (C_Movable F) e).elim 0 (·.acceleration)
  direction := (w.getComponent (C_Movable F) e).elim u.direction fun mov =>
    Packet.byte mov.direction.val
  state := (w.getComponent C_State e).elim u.state fun state => Packet.byte state.state.val
  health := (w.getComponent C_Health e).elim u.health fun health => Packet.byte health.health
  name := (w.getComponent C_Name e).elim "" (·.name)

omit [Zero F] in
lemma takeComponent_eq {T : Type} [CompType F T] (hw : Consistent w)
    (hd : w.entities.lookup e = some d) (f : T → EntitySnapshot F → EntitySnapshot F)
    (s : EntitySnapshot F) :
    takeComponent e d w f s = .ok ((w.getComponent T e).elim s fun x => f x s) := by
  unfold takeComponent
  by_cases hbit : d.bitmask.getBit (CompType.tag F T).id = true
  · obtain ⟨x, hx⟩ := hw.get_of_bit (T := T) hd hbit
    rw [if_pos hbit, hx]
    rfl
  · have hnone : w.getComponent T e = none := by
      rw [getComponent, getBase, hd]
      simp [hbit]
    rw [if_neg hbit, hnone]
    rfl

omit [Zero F] in
lemma bind_takeComponent {T : Type} [CompType F T] {f : T → EntitySnapshot F → EntitySnapshot F}
    {x : Outcome (EntitySnapshot F)} {s r : EntitySnapshot F} (hw : Consistent w)
    (hd : w.entities.lookup e = some d) (hx : x = .ok s)
    (hnone : w.getComponent T e = none → s = r)
    (hsome : ∀ c, w.getComponent T e = some c → f c s = r) :
    x >>= takeComponent e d w f = .ok r := by
  rw [hx, ok_bind, takeComponent_eq hw hd]
  cases h : w.getComponent T e with
  | none => rw [Option.elim_none, hnone h]
  | some c => rw [Option.elim_some, hsome c h]

omit [Zero F] in
lemma elim_of_some {T β : Type} {o : Option T} {c : T} (h : o = some c) (b : β) (f : T → β) :
    o.elim b f = f c := by
  subst h
  rfl

lemma snapshotOf_eq (u : EntitySnapshot.Uninitialised) (hw : Consistent w)
    (hd : w.entities.lookup e = some d) : snapshotOf u e d w = .ok (recordOf u d.type e w) := by
  have hpos := bind_takeComponent (T := C_Position F) (f := fun pos s => { s with
      position := pos.position
      elevation := toInt32 pos.elevation }) (x := pure { EntitySnapshot.new u with type := d.type })
    (s := ⟨d.type, 0, u.elevation, 0, 0, u.direction, u.state, u.health, ""⟩)
    (r := ⟨d.type, (recordOf u d.type e w).position, (recordOf u d.type e w).elevation, 0, 0,
      u.direction, u.state, u.health, ""⟩) hw hd rfl
    (fun h => by simp only [recordOf, h, Option.elim_none])
    (fun c h => by simp only [recordOf, elim_of_some h])
  have hmov := bind_takeComponent (T := C_Movable F) (f := fun mov s => { s with
      velocity := mov.velocity
      acceleration := mov.acceleration
      direction := Packet.byte mov.direction.val }) (r := { recordOf u d.type e w with
        name := ""
        health := u.health
        state := u.state }) hw hd hpos
    (fun h => by simp only [recordOf, h, Option.elim_none])
    (fun c h => by simp only [recordOf, elim_of_some h])
  have hstate := bind_takeComponent (T := C_State) (f := fun state s => { s with
      state := Packet.byte state.state.val }) (r := { recordOf u d.type e w with
        name := ""
        health := u.health }) hw hd hmov
    (fun h => by simp only [recordOf, h, Option.elim_none])
    (fun c h => by simp only [recordOf, elim_of_some h])
  have hhealth := bind_takeComponent (T := C_Health) (f := fun health s => { s with
      health := Packet.byte health.health }) (r := { recordOf u d.type e w with
        name := "" }) hw hd hstate
    (fun h => by simp only [recordOf, h, Option.elim_none])
    (fun c h => by simp only [recordOf, elim_of_some h])
  exact bind_takeComponent (T := C_Name) hw hd hhealth
    (fun h => by simp only [recordOf, h, Option.elim_none])
    (fun c h => by simp only [recordOf, elim_of_some h])

lemma dumpEntityInfo_eq (u : EntityId → EntitySnapshot.Uninitialised) (hw : Consistent w) :
    w.dumpEntityInfo u = .ok (w.entities.entries.map fun entry =>
      (entry.1, recordOf (u entry.1) entry.2.type entry.1 w)) := by
  refine Post.mapM_ok fun entry hentry => ?_
  rw [snapshotOf_eq (u entry.1) hw (Dict.mem_entries.mp hentry)]
  rfl

/-- The record `s` of `e` reports the components `e` has as they are, and `blank` for the others. -/
structure Reports (blank : EntitySnapshot F) (w : Ecs F) (e : EntityId) (s : EntitySnapshot F) :
    Prop where
  position : ∀ pos, w.getComponent (C_Position F) e = some pos →
    s.position = pos.position ∧ s.elevation = pos.elevation
  noPosition : w.getComponent (C_Position F) e = none →
    s.position = blank.position ∧ s.elevation = blank.elevation
  movable : ∀ mov, w.getComponent (C_Movable F) e = some mov → s.velocity = mov.velocity ∧
    s.acceleration = mov.acceleration ∧ (s.direction.toNat : ℤ) = mov.direction.val
  noMovable : w.getComponent (C_Movable F) e = none → s.velocity = blank.velocity ∧
    s.acceleration = blank.acceleration ∧ s.direction = blank.direction
  state : ∀ state, w.getComponent C_State e = some state → (s.state.toNat : ℤ) = state.state.val
  noState : w.getComponent C_State e = none → s.state = blank.state
  health : ∀ health, w.getComponent C_Health e = some health →
    (s.health.toNat : ℤ) = health.health
  noHealth : w.getComponent C_Health e = none → s.health = blank.health
  name : ∀ name, w.getComponent C_Name e = some name → s.name = name.name
  noName : w.getComponent C_Name e = none → s.name = blank.name

/-- A dump has one record for each entity, which reports its components and otherwise has `v` in the
numbers, and does not depend on what the memory holds: neither where a record starts, nor in the
states and healths that nobody has set. -/
def DumpFaithful (v : EntitySnapshot.Uninitialised) (g : Unset) (w : Ecs F) : Prop :=
  ∀ u, ∃ l, w.dumpEntityInfo u = .ok l ∧ l.map Prod.fst = w.entities.keys ∧
    (∀ r ∈ l, Reports (.new v) w r.1 r.2) ∧
    ∀ u' w', Framed g.Vague w w' → w'.dumpEntityInfo u' = .ok l

/-- The entity has every component a number of its record comes from, and the members of a record
hold the numbers. -/
structure Measured (w : Ecs F) (e : EntityId) : Prop where
  position : ∃ pos, w.getComponent (C_Position F) e = some pos ∧ pos.elevation < 2147483648
  movable : ∃ mov, w.getComponent (C_Movable F) e = some mov ∧ 0 ≤ mov.direction.val ∧
    mov.direction.val < 256
  state : ∃ state, w.getComponent C_State e = some state ∧ 0 ≤ state.state.val ∧
    state.state.val < 256
  health : ∃ health, w.getComponent C_Health e = some health ∧ 0 ≤ health.health ∧
    health.health < 256

/-- And somebody has set its state and its health. -/
structure Known (g : Unset) (w : Ecs F) (e : EntityId) : Prop extends Measured w e where
  stateSet : e ∉ g.state
  healthSet : e ∉ g.health

omit [Zero F] in
lemma toNat_byte_eq {x : ℤ} : ((Packet.byte x).toNat : ℤ) = x ↔ 0 ≤ x ∧ x < 256 := by
  rw [Packet.toNat_byte]
  omega

omit [Zero F] in
lemma toInt32_natCast_eq {n : ℕ} : toInt32 n = n ↔ n < 2147483648 := by
  unfold toInt32
  omega

omit [Zero F] in
lemma add_one_ne (x : UInt8) : x + 1 ≠ x := by
  intro h
  have hn := congrArg UInt8.toNat h
  have hlt := x.toNat_lt
  rw [UInt8.toNat_add, UInt8.toNat_one] at hn
  omega

lemma reports_recordOf (h : Measured w e) {blank : EntitySnapshot F} (hblank : blank.name = "")
    (u : EntitySnapshot.Uninitialised) (type : String) :
    Reports blank w e (recordOf u type e w) := by
  obtain ⟨⟨pos, hpos, helevation⟩, ⟨mov, hmov, hdirection⟩, ⟨state, hstate, hst⟩,
    health, hhealth, hh⟩ := h
  constructor
  case position =>
    intro c hc
    obtain rfl := Option.some.inj (hpos.symm.trans hc)
    simp only [recordOf, elim_of_some hpos, toInt32_natCast_eq, helevation, and_self]
  case movable =>
    intro c hc
    obtain rfl := Option.some.inj (hmov.symm.trans hc)
    simp only [recordOf, elim_of_some hmov, toNat_byte_eq, hdirection, and_self]
  case state =>
    intro c hc
    obtain rfl := Option.some.inj (hstate.symm.trans hc)
    simp only [recordOf, elim_of_some hstate, toNat_byte_eq, hst, and_self]
  case health =>
    intro c hc
    obtain rfl := Option.some.inj (hhealth.symm.trans hc)
    simp only [recordOf, elim_of_some hhealth, toNat_byte_eq, hh, and_self]
  case name => exact fun c hc => by simp only [recordOf, elim_of_some hc]
  case noName => exact fun hc => by simp only [recordOf, hc, Option.elim_none, hblank]
  case noPosition => exact fun hc => by simp [hpos] at hc
  case noMovable => exact fun hc => by simp [hmov] at hc
  case noState => exact fun hc => by simp [hstate] at hc
  case noHealth => exact fun hc => by simp [hhealth] at hc

lemma measured_of_reports {v u : EntitySnapshot.Uninitialised} {type : String}
    (h : Reports (.new v) w e (recordOf u type e w)) (helevation : u.elevation ≠ v.elevation)
    (hdirection : u.direction ≠ v.direction) (hstate : u.state ≠ v.state)
    (hhealth : u.health ≠ v.health) : Measured w e := by
  constructor
  case position =>
    cases hc : w.getComponent (C_Position F) e with
    | none =>
      have hr := (h.noPosition hc).2
      simp only [recordOf, hc, Option.elim_none, EntitySnapshot.new] at hr
      exact absurd hr helevation
    | some pos =>
      have hr := (h.position pos hc).2
      simp only [recordOf, elim_of_some hc] at hr
      exact ⟨pos, rfl, toInt32_natCast_eq.mp hr⟩
  case movable =>
    cases hc : w.getComponent (C_Movable F) e with
    | none =>
      have hr := (h.noMovable hc).2.2
      simp only [recordOf, hc, Option.elim_none, EntitySnapshot.new] at hr
      exact absurd hr hdirection
    | some mov =>
      have hr := (h.movable mov hc).2.2
      simp only [recordOf, elim_of_some hc] at hr
      exact ⟨mov, rfl, toNat_byte_eq.mp hr⟩
  case state =>
    cases hc : w.getComponent C_State e with
    | none =>
      have hr := h.noState hc
      simp only [recordOf, hc, Option.elim_none, EntitySnapshot.new] at hr
      exact absurd hr hstate
    | some state =>
      have hr := h.state state hc
      simp only [recordOf, elim_of_some hc] at hr
      exact ⟨state, rfl, toNat_byte_eq.mp hr⟩
  case health =>
    cases hc : w.getComponent C_Health e with
    | none =>
      have hr := h.noHealth hc
      simp only [recordOf, hc, Option.elim_none, EntitySnapshot.new] at hr
      exact absurd hr hhealth
    | some health =>
      have hr := h.health health hc
      simp only [recordOf, elim_of_some hc] at hr
      exact ⟨health, rfl, toNat_byte_eq.mp hr⟩

lemma recordOf_congr {g : Unset} {w' : Ecs F} (h : Known g w e) (hw' : Framed g.Vague w w')
    (u u' : EntitySnapshot.Uninitialised) (type : String) :
    recordOf u' type e w' = recordOf u type e w := by
  obtain ⟨⟨⟨pos, hpos, -⟩, ⟨mov, hmov, -⟩, ⟨state, hstate, -⟩, health, hhealth, -⟩, hs, hh⟩ := h
  have hsame : ∀ {T : Type} [CompType F T] {x : T}, w.getComponent T e = some x →
      w'.getComponent T e = some x := by
    intro T _ x hx
    rw [hw'.get, hx]
    rintro (⟨-, h⟩ | ⟨-, h⟩)
    · exact hs h
    · exact hh h
  have hname : w'.getComponent C_Name e = w.getComponent C_Name e := by
    refine hw'.get ?_
    rintro (⟨-, h⟩ | ⟨-, h⟩)
    · exact hs h
    · exact hh h
  simp only [recordOf, elim_of_some hpos, elim_of_some hmov, elim_of_some hstate,
    elim_of_some hhealth, elim_of_some (hsame hpos), elim_of_some (hsame hmov),
    elim_of_some (hsame hstate), elim_of_some (hsame hhealth), hname]

omit [Zero F] in
lemma map_entries_framed {P : EntityId → Component → Prop} {w' : Ecs F} (h : Framed P w w')
    {β : Type} (f : EntityId → String → β) :
    w'.entities.entries.map (fun entry => f entry.1 entry.2.type) =
      w.entities.entries.map fun entry => f entry.1 entry.2.type := by
  have hpass : ∀ t : Ecs F, t.entities.entries.map (fun entry => f entry.1 entry.2.type) =
      t.entities.keys.map fun e =>
        f e (((t.entities.lookup e).map shapeOf).elim "" fun s => s.2.1) := by
    intro t
    rw [AList.keys, List.keys, List.map_map]
    refine List.map_congr_left fun entry hentry => ?_
    rw [Function.comp_apply, Dict.mem_entries.mp hentry]
    rfl
  rw [hpass, hpass, h.keys]
  simp only [h.shape]

lemma recordOf_eq_of_dump {P : EntityId → Component → Prop} {w' : Ecs F} (hw : Consistent w)
    (hd : w.entities.lookup e = some d) (hw' : Framed P w w')
    {u u' : EntityId → EntitySnapshot.Uninitialised}
    (h : w'.dumpEntityInfo u' = w.dumpEntityInfo u) :
    recordOf (u' e) d.type e w' = recordOf (u e) d.type e w := by
  rw [dumpEntityInfo_eq u' (hw'.consistent hw), dumpEntityInfo_eq u hw, Except.ok.injEq,
    map_entries_framed hw' fun e type => (e, recordOf (u' e) type e w'), List.map_inj_left] at h
  exact (Prod.mk.inj (h ⟨e, d⟩ (Dict.mem_entries.mpr hd))).2

omit [Zero F] in
lemma byte_add_one_ne (x : ℤ) : Packet.byte (x + 1) ≠ Packet.byte x := by
  intro h
  have hn : ((Packet.byte (x + 1)).toNat : ℤ) = (Packet.byte x).toNat := by rw [h]
  rw [Packet.toNat_byte, Packet.toNat_byte] at hn
  omega

lemma dumpFaithful_iff (hw : Consistent w) (v : EntitySnapshot.Uninitialised) (g : Unset) :
    DumpFaithful v g w ↔ ∀ e ∈ w.entities, Known g w e := by
  have hdump := fun u => dumpEntityInfo_eq (w := w) u hw
  constructor
  · intro h e he
    obtain ⟨d, hd⟩ := Option.isSome_iff_exists.mp (AList.lookup_isSome.mpr he)
    obtain ⟨l, hl, -, hreports, hothers⟩ := h fun _ =>
      ⟨v.elevation + 1, v.direction + 1, v.state + 1, v.health + 1⟩
    rw [← hl] at hothers
    rw [hdump, Except.ok.injEq] at hl
    subst hl
    have hmeasured := measured_of_reports
      (hreports _ (List.mem_map_of_mem (Dict.mem_entries.mpr hd)))
      (show v.elevation + 1 ≠ v.elevation by omega) (add_one_ne _) (add_one_ne _) (add_one_ne _)
    -- a member that nobody has set might be one more
    refine ⟨hmeasured, fun hs => ?_, fun hh => ?_⟩
    · obtain ⟨state, hstate, -⟩ := hmeasured.state
      have hframed : Framed g.Vague w (w.setComponent e (⟨⟨state.state.val + 1⟩⟩ : C_State)) := by
        rw [setComponent_eq]
        exact overwrite_framed _ w (.inl ⟨rfl, hs⟩)
      have hsame := recordOf_eq_of_dump hw hd hframed (hothers (fun _ => v) _ hframed)
      have hbyte := congrArg EntitySnapshot.state hsame
      have hnow : (w.setComponent e (⟨⟨state.state.val + 1⟩⟩ : C_State)).getComponent C_State e =
          some ⟨⟨state.state.val + 1⟩⟩ := by rw [getComponent_setComponent, hstate]; rfl
      simp only [recordOf, elim_of_some hstate, elim_of_some hnow] at hbyte
      exact byte_add_one_ne _ hbyte
    · obtain ⟨health, hhealth, -⟩ := hmeasured.health
      have hframed : Framed g.Vague w
        (w.setComponent e (health.setHealth (health.health + 1))) := by
        rw [setComponent_eq]
        exact overwrite_framed _ w (.inr ⟨rfl, hh⟩)
      have hsame := recordOf_eq_of_dump hw hd hframed (hothers (fun _ => v) _ hframed)
      have hbyte := congrArg EntitySnapshot.health hsame
      have hnow :
          (w.setComponent e (health.setHealth (health.health + 1))).getComponent C_Health e =
            some (health.setHealth (health.health + 1)) := by
        rw [getComponent_setComponent, hhealth]
        rfl
      simp only [recordOf, elim_of_some hhealth, elim_of_some hnow] at hbyte
      exact byte_add_one_ne _ hbyte
  · intro h u
    have hknown : ∀ entry ∈ w.entities.entries, Known g w entry.1 := fun entry hentry =>
      h entry.1 (AList.lookup_isSome.mp (Option.isSome_iff_exists.mpr
        ⟨_, Dict.mem_entries.mp hentry⟩))
    refine ⟨_, hdump u, ?_, ?_, fun u' w' hw' => ?_⟩
    · rw [List.map_map]
      rfl
    · intro r hr
      obtain ⟨entry, hentry, rfl⟩ := List.mem_map.mp hr
      exact reports_recordOf (hknown entry hentry).toMeasured rfl _ _
    · rw [dumpEntityInfo_eq u' (hw'.consistent hw), Except.ok.injEq,
        map_entries_framed hw' fun e type => (e, recordOf (u' e) type e w')]
      exact List.map_congr_left fun entry hentry => by
        rw [recordOf_congr (hknown entry hentry) hw' (u entry.1)]

end Ecs

/-! ### The snapshots of a run -/

section Reached

variable {F : Type} [Field F] [LinearOrder F] [FloorRing F]

open Ecs Run

/-- The machine with a record of what nobody has set. -/
def unsetTurn (S : Setting F) : Ecs F × Unset → Turn F → Outcome (Ecs F × Unset) :=
  recorded (turn S) Unset.turn

lemma consistent_unsetTurn {S : Setting F} {turns : List (Turn F)} {w : Ecs F} {g : Unset}
    (hw : runE (unsetTurn S) (new F, .new) turns = .ok (w, g)) : Consistent w :=
  runE_inv (I := fun p : Ecs F × Unset => Consistent p.1) (P := fun _ => True)
    (fun _ _ _ hp _ hq => consistent_turn S hp (recorded_ok.mp hq).1) consistent_new
    (fun _ _ => trivial) hw

/-- A healthy entity with every component a record takes a number from. -/
def healthyWalker : List (Turn ℚ) :=
  [.store (.addEntity ⟨.Idle, 5, 5, false⟩ ((((Bitmask.empty.turnOnBit
    Component.State.id).turnOnBit Component.Movable.id).turnOnBit Component.Position.id).turnOnBit
    Component.Health.id) (-1)), .write 0 (.state ⟨.Idle⟩), .write 0 (.health ⟨0, 9, 9, 0, 0⟩)]

def walking : Ecs ℚ × Unset :=
  reached (unsetTurn (Setting.empty ℚ)) (new ℚ, .new) healthyWalker

def removedWalker : List (Turn ℚ) := healthyWalker ++ [.store (.removeEntity 0)]

def leftover : Ecs ℚ × Unset :=
  reached (unsetTurn (Setting.empty ℚ)) (new ℚ, .new) removedWalker

end Reached

end Sfrpg
