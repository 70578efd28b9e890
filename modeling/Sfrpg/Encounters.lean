import Sfrpg.Blows

/-!
Who is told of an attack.

`entityCollisions` visits every pair of members once and sends a message for each side of it. What a
message does to the entities leaves the boxes, the areas of attack and the members alone, so the
messages are those that the entities called for when the loop began.
-/

namespace Sfrpg

open Lib Lib.Word Lib.Run Ecs

namespace S_Collision

/-! ### Pairs -/

/-- The two sides of every pair, in the order of the loops. -/
def sides (l : List EntityId) : List (EntityId × EntityId) :=
  (pairs l).flatMap fun p => [p, p.swap]

lemma sides_cons (e : EntityId) (l : List EntityId) :
    sides (e :: l) = (l.flatMap fun x => [(e, x), (x, e)]) ++ sides l := by
  rw [sides, pairs, List.flatMap_append, List.flatMap_map]
  rfl

lemma mem_sides {l : List EntityId} (hl : l.Nodup) {s r : EntityId} :
    (s, r) ∈ sides l ↔ s ≠ r ∧ s ∈ l ∧ r ∈ l := by
  induction l with
  | nil => simp [sides, pairs]
  | cons e l ih =>
    obtain ⟨hnot, hnodup⟩ := List.nodup_cons.mp hl
    rw [sides_cons, List.mem_append, ih hnodup, List.mem_flatMap]
    simp only [List.mem_cons, Prod.mk.injEq, List.not_mem_nil, or_false]
    constructor
    · rintro (⟨x, hx, ⟨rfl, rfl⟩ | ⟨rfl, rfl⟩⟩ | ⟨hne, hs, hr⟩)
      · exact ⟨fun h => hnot (h ▸ hx), .inl rfl, .inr hx⟩
      · exact ⟨fun h => hnot (h ▸ hx), .inr hx, .inl rfl⟩
      · exact ⟨hne, .inr hs, .inr hr⟩
    · rintro ⟨hne, rfl | hs, rfl | hr⟩
      · exact absurd rfl hne
      · exact .inl ⟨r, hr, .inl ⟨rfl, rfl⟩⟩
      · exact .inl ⟨s, hs, .inr ⟨rfl, rfl⟩⟩
      · exact .inr ⟨hne, hs, hr⟩

lemma nodup_sides {l : List EntityId} (hl : l.Nodup) : (sides l).Nodup := by
  induction l with
  | nil => exact List.nodup_nil
  | cons e l ih =>
    obtain ⟨hnot, hnodup⟩ := List.nodup_cons.mp hl
    have hne : ∀ x ∈ l, e ≠ x := fun x hx h => hnot (h ▸ hx)
    rw [sides_cons, List.nodup_append]
    refine ⟨?_, ih hnodup, ?_⟩
    · rw [List.nodup_flatMap]
      refine ⟨fun x hx => by simp [hne x hx], hnodup.imp_of_mem fun {x y} hx hy hxy => ?_⟩
      intro p hp hq
      have hex := hne x hx
      have hey := hne y hy
      simp only [List.mem_cons, List.not_mem_nil, or_false] at hp hq
      rcases hp with rfl | rfl <;> rcases hq with hq | hq <;> simp_all
    · rintro ⟨s, r⟩ hp q hq rfl
      obtain ⟨-, hs, hr⟩ := (mem_sides hnodup).mp hq
      obtain ⟨x, -, hx⟩ := List.mem_flatMap.mp hp
      simp only [List.mem_cons, Prod.mk.injEq, List.not_mem_nil, or_false] at hx
      rcases hx with ⟨rfl, -⟩ | ⟨-, rfl⟩
      · exact hnot hs
      · exact hnot hr

end S_Collision

section Frame

variable {F : Type} {w u v : Ecs F}

/-- Where `e` strikes. -/
def areaOf (e : EntityId) (w : Ecs F) : Option (FloatRect F) :=
  (w.getComponent (C_Attacker F) e).map fun a => a.attackArea

/-- Boxes, areas of attack and members are those of `w`. -/
structure Unmoved (w u : Ecs F) : Prop where
  effects : Effects Fought w u
  area : ∀ e, areaOf e u = areaOf e w

namespace Unmoved

lemma refl (w : Ecs F) : Unmoved w w := ⟨.refl, fun _ => rfl⟩

lemma trans (h : Unmoved w u) (h' : Unmoved u v) : Unmoved w v :=
  ⟨h.effects.trans h'.effects, fun e => (h'.area e).trans (h.area e)⟩

lemma members (h : Unmoved w u) : u.members = w.members := h.effects.framed.members

lemma box (h : Unmoved w u) (e : EntityId) :
    u.getComponent (C_Collidable F) e = w.getComponent (C_Collidable F) e := by
  refine h.effects.framed.get (T := C_Collidable F) ?_
  show ¬ Fought e .Collidable
  simp only [Fought]
  decide

end Unmoved

/-- The area of attack of `s` meets the box of `r`. -/
def Reaches [Field F] [LinearOrder F] (w : Ecs F) (s r : EntityId) : Prop :=
  ∃ a col, w.getComponent (C_Attacker F) s = some a ∧ w.getComponent (C_Collidable F) r = some col ∧
    a.attackArea.intersects col.aabb = true

end Frame

variable {F : Type} [Field F] [LinearOrder F] {w u : Ecs F}

/-- The same, as a test. -/
def reaches (w : Ecs F) (p : EntityId × EntityId) : Bool :=
  match w.getComponent (C_Collidable F) p.2 with
  | none => false
  | some col => S_Collision.hits (w.getComponent (C_Attacker F) p.1) col

lemma reaches_iff {s r : EntityId} : reaches w (s, r) = true ↔ Reaches w s r := by
  unfold reaches Reaches S_Collision.hits
  cases w.getComponent (C_Collidable F) r with
  | none => simp
  | some col =>
    cases w.getComponent (C_Attacker F) s with
    | none => simp
    | some a => simp

lemma Unmoved.reaches (h : Unmoved w u) (p : EntityId × EntityId) :
    reaches u p = reaches w p := by
  have harea := h.area p.1
  unfold areaOf at harea
  unfold Sfrpg.reaches S_Collision.hits
  rw [h.box p.2]
  cases hu : u.getComponent (C_Attacker F) p.1 with
  | none =>
    rw [hu, Option.map_none, eq_comm, Option.map_eq_none_iff] at harea
    rw [harea]
  | some a =>
    rw [hu, Option.map_some, eq_comm, Option.map_eq_some_iff] at harea
    obtain ⟨a', ha', heq⟩ := harea
    simp only [ha', heq]

lemma blow_unmoved (hw : Consistent w) {m : Message} (hm : m.type = .Being_Attacked) :
    ∃ u, dispatch m w = .ok u ∧ Unmoved w u := by
  obtain ⟨hnone, -⟩ | ⟨u, h, a, hu, hhit⟩ := blow_cases hw hm
  · exact ⟨w, hnone, .refl w⟩
  · refine ⟨u, hu, hhit.effects.mono beaten_fought, fun e => ?_⟩
    unfold areaOf
    by_cases he : e = m.sender
    · rw [he, hhit.noted, hhit.attacker]
      rfl
    · rw [hhit.effects.framed.get (T := C_Attacker F)]
      rintro (⟨-, hc⟩ | ⟨hs, -⟩)
      · exact absurd hc (show ¬ (Component.Attacker = .State ∨ Component.Attacker = .Health ∨
          Component.Attacker = .Movable) by decide)
      · exact he hs

/-! ### The messages -/

namespace S_Collision

/-- The messages that sides of pairs call for, as the entities are in `w`. -/
def called (w : Ecs F) (l : List (EntityId × EntityId)) : List Message :=
  (l.filter (reaches w)).map fun p => attack p.1 p.2

/-- A pass of a loop that goes well, sends the messages `l` calls for, and moves nothing. -/
def Sends (w : Ecs F) (l : List (EntityId × EntityId)) (x : Traced Fault (Ecs F) (Blow F)) : Prop :=
  ∃ u log, x = .ok (u, log) ∧ Unmoved w u ∧ log.map Blow.message = called w l

lemma Sends.seq {l l' : List (EntityId × EntityId)} {x : Traced Fault (Ecs F) (Blow F)}
    {f : Ecs F → Traced Fault (Ecs F) (Blow F)} (hx : Sends w l x)
    (hf : ∀ u, Unmoved w u → Sends w l' (f u)) : Sends w (l ++ l') (Trace.seq x f) := by
  obtain ⟨u, log, rfl, hu, hlog⟩ := hx
  obtain ⟨v, log', hrun, hv, hlog'⟩ := hf u hu
  refine ⟨v, log ++ log', ?_, hv, ?_⟩
  · rw [Trace.seq, hrun]
  · rw [called, List.filter_append, List.map_append, List.map_append, hlog, hlog']
    rfl

lemma strikeTraced_sends (hw : Consistent w) (hu : Unmoved w u) (s : EntityId) {r : EntityId}
    (hr : r ∈ w.members .Collision) : Sends w [(s, r)] (strikeTraced s r u) := by
  have hcu := hu.effects.consistent hw
  obtain ⟨col, hcol⟩ := hcu.get (T := C_Collidable F) (by rw [hu.members]; exact hr) .Collidable rfl
    (by decide)
  have hreach : reaches w (s, r) = hits (u.getComponent (C_Attacker F) s) col := by
    rw [← hu.reaches, reaches, hcol]
  rw [strikeTraced, hcol, deref_some, ok_bind, ← hreach]
  by_cases hhit : reaches w (s, r) = true
  · obtain ⟨v, hv, hmoved⟩ := blow_unmoved hcu (m := attack s r) rfl
    rw [if_pos hhit, hv]
    exact ⟨v, [⟨u, attack s r⟩], rfl, hu.trans hmoved, by simp [called, hhit]⟩
  · rw [if_neg hhit]
    exact ⟨u, [], rfl, hu, by simp [called, hhit]⟩

lemma collidePairTraced_sends (hw : Consistent w) (hu : Unmoved w u) {p : EntityId × EntityId}
    (h1 : p.1 ∈ w.members .Collision) (h2 : p.2 ∈ w.members .Collision) :
    Sends w [p, p.swap] (collidePairTraced u p) := by
  have hcu := hu.effects.consistent hw
  rw [← hu.members] at h1 h2
  obtain ⟨col₁, hcol₁⟩ := hcu.get (T := C_Collidable F) h1 .Collidable rfl (by decide)
  obtain ⟨col₂, hcol₂⟩ := hcu.get (T := C_Collidable F) h2 .Collidable rfl (by decide)
  rw [hu.members] at h1 h2
  rw [collidePairTraced, hcol₁, hcol₂]
  simp only [deref_some, ok_bind]
  exact (strikeTraced_sends hw hu p.1 h2).seq fun v hv => strikeTraced_sends hw hv p.2 h1

lemma collidePairs_sends (hw : Consistent w) {ps : List (EntityId × EntityId)}
    (hps : ∀ p ∈ ps, p.1 ∈ w.members .Collision ∧ p.2 ∈ w.members .Collision) (hu : Unmoved w u) :
    Sends w (ps.flatMap fun p => [p, p.swap]) (Trace.foldl collidePairTraced u ps) := by
  induction ps generalizing u with
  | nil => exact ⟨u, [], rfl, hu, rfl⟩
  | cons p ps ih =>
    obtain ⟨h1, h2⟩ := hps p (by simp)
    rw [List.flatMap_cons, Trace.foldl]
    exact (collidePairTraced_sends hw hu h1 h2).seq fun v hv =>
      ih (fun q hq => hps q (by simp [hq])) hv

/-- **Who is told of an attack.** One call of `entityCollisions` goes well, and sends nothing but
messages of attacks, for `s` and `r` once exactly if they are different members and the area of
attack of `s` meets the box of `r` when the call begins. For every state of the entities in which
the members have the components of members, as every reachable one is. -/
theorem entityCollisions_sends (w : Ecs F) (hw : Consistent w) :
    ∃ u log, entityCollisionsTraced w = .ok (u, log) ∧ entityCollisions dispatch w = .ok u ∧
      (∀ m ∈ log.map Blow.message, ∃ s r, m = attack s r) ∧ (log.map Blow.message).Nodup ∧
      ∀ s r, attack s r ∈ log.map Blow.message ↔
        s ≠ r ∧ (s ∈ w.members .Collision ∧ r ∈ w.members .Collision) ∧ Reaches w s r := by
  have hnodup := hw.nodup .Collision
  obtain ⟨u, log, hrun, -, hlog⟩ := collidePairs_sends hw (fun p hp => mem_pairs hp) (.refl w)
  have hplain : entityCollisions dispatch w = .ok u := by
    rw [entityCollisions, ← Trace.forget_foldl forget_collidePair, hrun, Trace.forget_ok]
  have hinj : Function.Injective fun p : EntityId × EntityId => attack p.1 p.2 := by
    rintro ⟨s, r⟩ ⟨s', r'⟩ h
    cases h
    rfl
  refine ⟨u, log, hrun, hplain, ?_, ?_, fun s r => ?_⟩
  · rw [hlog]
    intro m hm
    obtain ⟨p, -, rfl⟩ := List.mem_map.mp hm
    exact ⟨p.1, p.2, rfl⟩
  · rw [hlog]
    exact ((nodup_sides hnodup).filter _).map hinj
  · rw [hlog, called, List.mem_map]
    constructor
    · rintro ⟨⟨s', r'⟩, hp, heq⟩
      cases heq
      obtain ⟨hmem, hreach⟩ := List.mem_filter.mp hp
      obtain ⟨hne, hs, hr⟩ := (mem_sides hnodup).mp hmem
      exact ⟨hne, ⟨hs, hr⟩, reaches_iff.mp hreach⟩
    · rintro ⟨hne, ⟨hs, hr⟩, hreach⟩
      exact ⟨(s, r), List.mem_filter.mpr ⟨(mem_sides hnodup).mpr ⟨hne, hs, hr⟩,
        reaches_iff.mpr hreach⟩, rfl⟩

/-- The bystanders, before the collisions are looked for. -/
def nearby : Ecs ℚ := reached (turn (Setting.empty ℚ)) (new ℚ) (bystanders.take 4)

theorem entityCollisions_sends_bystander :
    ∃ u log, entityCollisionsTraced nearby = .ok (u, log) ∧
      attack 0 1 ∈ log.map Blow.message ∧ attack 1 0 ∉ log.map Blow.message := by
  obtain ⟨u, log, hrun, -, -, -, hmem⟩ := entityCollisions_sends nearby
    (consistent_reached (runE_reached (by decide +kernel)))
  refine ⟨u, log, hrun, (hmem 0 1).mpr ⟨by decide, by decide +kernel,
    reaches_iff.mp (by decide +kernel)⟩, fun h => ?_⟩
  have hreach := reaches_iff.mpr ((hmem 1 0).mp h).2.2
  exact absurd hreach (by decide +kernel)

end S_Collision

end Sfrpg
