import Sfrpg.Changes
import Sfrpg.Stays

/-!
The server as a run of moments.

Each update of a system, each round of events, and each packet, timeout or command comes down to
messages, events, steps of the timers, and to what leaves states and timers alone. So whatever holds
of every run of moments holds of the server.
-/

namespace Sfrpg

open Lib Lib.Word Lib.Run Ecs

variable {F : Type} [Field F] [LinearOrder F] [FloorRing F] {w u : Ecs F}

/-- Moments lead from `w` to `u`, a consistent world. -/
structure Passes (w u : Ecs F) : Prop where
  leads : Leads moment (fun u i => i.Admitted u) w u
  consistent : Consistent u

lemma Passes.refl (hw : Consistent w) : Passes w w := ⟨.refl w, hw⟩

lemma Passes.trans {v : Ecs F} (h : Passes w u) (h' : Passes u v) : Passes w v :=
  ⟨h.leads.trans h'.leads, h'.consistent⟩

lemma Spares.passes (h : Spares w u) : Passes w u :=
  ⟨.single (i := .other u) h rfl, h.consistent⟩

omit [Field F] [LinearOrder F] [FloorRing F] in
lemma spares_of_watch (hu : Consistent u) (h : ∀ e, watch e u = watch e w) : Spares w u :=
  ⟨hu, fun e => .inl (h e)⟩

omit [Field F] [LinearOrder F] [FloorRing F] in
lemma spares_of_framed {P : EntityId → Component → Prop} (hw : Consistent w) (h : Framed P w u)
    (hP : ∀ e c, P e c → c ≠ .State ∧ c ≠ .Health ∧ c ≠ .Attacker) : Spares w u :=
  spares_of_watch (h.consistent hw) fun e => watch_of_framed h (fun hs => (hP e _ hs).1 rfl)
    (fun hs => (hP e _ hs).2.1 rfl) fun hs => (hP e _ hs).2.2 rfl

omit [Field F] [LinearOrder F] [FloorRing F] in
lemma watch_of_getBase {e : EntityId} (h : ∀ c, u.getBase e c = w.getBase e c) :
    watch e u = watch e w := by
  rw [watch, watch, body, body, getComponent, getComponent, getComponent, getComponent,
    getComponent, getComponent, h, h, h]

omit [Field F] [LinearOrder F] [FloorRing F] in
lemma spares_of_entities (hw : Consistent w) (hent : u.entities = w.entities)
    (hmem : u.members = w.members) : Spares w u :=
  spares_of_watch (hw.congr hent hmem) fun _ => watch_of_getBase fun c => by
    rw [getBase, getBase, hent]

lemma message_passes (hw : Consistent w) (m : Message) :
    Post (dispatch m w) (Passes w) fun _ => True := by
  have hpost := dispatch_post hw m
  cases hu : dispatch m w with
  | error f => trivial
  | ok u =>
    exact ⟨.single (i := .happening (.message m)) trivial hu, (hpost.ok hu).consistent hw⟩

lemma loop_passes {κ : Type} {f : Ecs F → κ → Outcome (Ecs F)} {l : List κ} (hw : Consistent w)
    (hf : ∀ u, ∀ k ∈ l, Passes w u → Post (f u k) (Passes u) fun _ => True) :
    Post (l.foldlM f w) (Passes w) fun _ => True :=
  Post.foldlM (fun u k hk hu => (hf u k hk hu).imp fun _ hv => hu.trans hv) (.refl hw)

/-! ### The systems -/

lemma strike_passes (hw : Consistent w) (a v : EntityId) :
    Post (S_Collision.strike dispatch a v w) (Passes w) fun _ => True := by
  rw [S_Collision.strike]
  cases w.getComponent (C_Collidable F) v with
  | none => trivial
  | some col => exact Post.ite (fun _ => message_passes hw _) fun _ => .refl hw

lemma collision_passes (S : Setting F) (hw : Consistent w) :
    Post (S_Collision.update S w) (Passes w) fun _ => True := by
  have hplace : Post ((w.members .Collision).foldlM (S_Collision.updateOne S) w)
      (Effects Placed w) fun _ => True :=
    loop_post hw fun u e hu he => (collision_updateOne_post S hu he).mono
      (fun v hv => hv.mono fun _ _ h => h.2) fun _ _ => trivial
  rw [S_Collision.update]
  refine hplace.bind fun u hu => ?_
  have hplaced : Passes w u := Spares.passes <| spares_of_framed hw hu.framed fun e c hc => by
    rcases hc with rfl | rfl <;> decide
  refine (loop_passes hplaced.consistent fun v p _ hv => ?_).imp fun v hv => hplaced.trans hv
  rw [S_Collision.collidePair]
  cases v.getComponent (C_Collidable F) p.1 with
  | none => trivial
  | some _ =>
    cases v.getComponent (C_Collidable F) p.2 with
    | none => trivial
    | some _ =>
      refine (strike_passes hv.consistent p.1 p.2).bind fun v' hv' => ?_
      exact (strike_passes hv'.consistent p.2 p.1).imp fun _ h => hv'.trans h

lemma network_passes (hw : Consistent w) :
    Post (S_Network.update w) (Passes w) fun _ => True := by
  refine loop_passes hw fun u e _ hu => ?_
  unfold S_Network.updateOne
  cases u.input.lookup e with
  | none =>
    dsimp only
    rw [Post.post_pure]
    refine (spares_of_entities hu.consistent ?_ ?_).passes <;> rfl
  | some player => exact loop_passes hu.consistent fun v m _ hv => message_passes hv.consistent m

lemma state_passes (hw : Consistent w) : Post (S_State.update w) (Passes w) fun _ => True := by
  refine loop_passes hw fun u e _ hu => ?_
  rw [S_State.updateOne]
  cases u.getComponent C_State e with
  | none => trivial
  | some s => exact Post.ite (fun _ => .refl hu.consistent) fun _ => message_passes hu.consistent _

lemma update_passes (S : Setting F) (hw : Consistent w) (sys : System) {dT : F} (hdT : 0 ≤ dT) :
    Post (update S dT sys w) (Passes w) fun _ => True := by
  cases sys with
  | Network => exact network_passes hw
  | Movement =>
    refine (movement_update_post S dT hw).mono (fun u hu => ?_) fun _ _ => trivial
    refine Spares.passes (spares_of_framed hw hu.framed fun e c hc => ?_)
    rcases hc with rfl | rfl <;> decide
  | Control => exact .refl hw
  | State => exact state_passes hw
  | Collision => exact collision_passes S hw
  | Combat =>
    have hpost := combat_update_post hw
    rw [update]
    cases hu : S_Combat.update w with
    | error f => trivial
    | ok u =>
      exact (spares_of_watch ((hpost.ok hu).consistent hw)
        fun e => (combat_watch w e).ok hu).passes
  | Timers =>
    rw [update]
    cases hu : S_Timers.update dT w with
    | error f => trivial
    | ok u => exact ⟨.single (i := .tick dT) hdT hu, (timers_body hw hu).1⟩

lemma handleEvents_passes (hw : Consistent w) (systems : List System) (keys : List EntityId) :
    Post (handleEvents systems keys w) (Passes w) fun _ => True := by
  have hdrain : ∀ n (u : Ecs F) e, Consistent u →
      Post (drain systems e n u) (Passes u) fun _ => True := by
    intro n
    induction n with
    | zero =>
      intro u e hu
      rw [drain]
      exact Post.ite (fun _ => .refl hu) fun _ => trivial
    | succ n ih =>
      intro u e hu
      rw [drain]
      refine Post.ite (fun _ => .refl hu) fun _ => ?_
      cases hv : processEvent systems e u with
      | error f => trivial
      | ok v =>
        have hpass : Passes u v := ⟨.single (i := .happening (.processEvent systems e)) trivial hv,
          (event_stirs hu hv e).1⟩
        exact (ih v e hpass.consistent).imp fun _ h => hpass.trans h
  exact loop_passes hw fun u e _ hu => hdrain _ u e hu.consistent

/-! ### The sections of the world -/

omit [Field F] [LinearOrder F] [FloorRing F] in
lemma watch_absent {e : EntityId} (h : ∀ c, w.getBase e c = none) : watch e w = .absent := by
  rw [watch, body, getComponent, getComponent, getComponent, h, h, h]
  rfl

omit [Field F] [LinearOrder F] [FloorRing F] in
lemma watch_new {e : EntityId} (h : Unstarted e w) : (watch e w).New := by
  have htimer : ∀ {T : Type} [CompType F T] {x : T}, w.getComponent T e = some x →
      (CompType.wrap x : C_Base F).timer = 0 := by
    intro T _ x hx
    obtain ⟨b, hb, hcast⟩ := Option.bind_eq_some_iff.mp hx
    obtain ⟨y, rfl, hy⟩ := getBase_eq_wrap (T := T) hb
    rw [hx] at hy
    cases hy
    rw [getBase] at hb
    cases hd : w.entities.lookup e with
    | none =>
      rw [hd] at hb
      cases hb
    | some d =>
      rw [hd] at hb
      dsimp only at hb
      split at hb
      · cases hb
      · exact h d hd _ (List.mem_of_find?_eq_some hb)
  constructor
  · intro t ht
    obtain ⟨x, hx, rfl⟩ := Option.map_eq_some_iff.mp ht
    exact htimer hx
  · intro p hp
    obtain ⟨x, hx, rfl⟩ := Option.map_eq_some_iff.mp hp
    exact htimer hx

omit [Field F] [LinearOrder F] [FloorRing F] in
lemma Ecs.Change.spares (h : Change w u) (hw : Consistent w) : Spares w u where
  consistent := h.consistent hw
  watches e := by
    cases h with
    | strip x h =>
      by_cases he : e = x
      · subst he
        refine .inr (.inl (watch_absent fun c => ?_))
        obtain ⟨d, hd⟩ := Dict.exists_lookup h.stored
        rw [getBase, h.own, hd]
        simp
      · exact .inl (watch_of_getBase fun c => by rw [getBase, getBase, h.other e he])
    | load mask x h hnew =>
      by_cases he : e = x
      · subst he
        refine .inr (.inr ⟨watch_absent fun c => ?_, watch_new hnew⟩)
        rw [getBase, AList.lookup_eq_none.mpr h.fresh]
      · exact .inl (watch_of_getBase fun c => by rw [getBase, getBase, h.other e he])
    | write x b hb =>
      have hf := overwrite_framed (P := fun _ c => c = b.getType) (e := x) b w rfl
      have hne : ∀ c, c = .State ∨ c = .Health ∨ c = .Attacker → ¬ c = b.getType := by
        rintro c hc rfl
        rcases hb with h | h | h <;> rw [h] at hc <;> revert hc <;> decide
      exact .inl (watch_of_framed hf (hne _ (.inl rfl)) (hne _ (.inr (.inl rfl)))
        (hne _ (.inr (.inr rfl))))
    | other _ hbase _ => exact .inl (watch_of_getBase (hbase e))

lemma Ecs.Changes.passes (h : Changes w u) (hw : Consistent w) : Passes w u := by
  induction h with
  | refl => exact .refl hw
  | tail _ h ih => exact ih.trans (h.spares ih.consistent).passes

namespace World

variable {w w' : World F}

omit [Field F] [LinearOrder F] [FloorRing F] in
lemma setHealth_spares (hw : Consistent w.ecs) (id : EntityId) (health : ℤ) :
    Spares w.ecs (w.setHealth id health).ecs := by
  have hf := setHealth_framed id health w
  refine spares_of_watch (hf.consistent hw) fun e => ?_
  by_cases he : e = id
  · subst he
    unfold setHealth
    cases hh : w.ecs.getComponent C_Health e with
    | none => rfl
    | some h =>
      dsimp only
      rw [watch, watch, body_set_health hh, Body.watch, Body.watch, body, hh]
      rfl
  · exact watch_of_framed hf (fun h => he h.1) (fun h => he h.1) fun h => he h.1

/-- **A section of the server**, where time does not run backwards: moments lead from the entities
before to those after. -/
theorem act_passes (S : Setting F) (hw : Consistent w.ecs) {i : Env F × Act F}
    (hdT : ∀ sys dT, i.2 = .update sys dT → 0 ≤ dT) (h : act S w i = .ok w') :
    Passes w.ecs w'.ecs := by
  obtain ⟨env, i⟩ := i
  have hsent : ∀ {u : Ecs F}, Passes w.ecs u → w'.ecs = { u with broadcasts := [] } →
      Passes w.ecs w'.ecs := by
    intro u hu heq
    rw [heq]
    refine hu.trans (spares_of_entities hu.consistent ?_ ?_).passes <;> rfl
  rcases act_cases S hw h with hchanges | ⟨sys, dT, u, rfl, hu, heq⟩ |
    ⟨systems, keys, u, rfl, hu, heq⟩ | ⟨id, health, rfl, heq⟩ | ⟨rfl, heq⟩
  · exact hchanges.passes hw
  · exact hsent ((update_passes S hw sys (hdT sys dT rfl)).ok hu) heq
  · exact hsent ((handleEvents_passes hw systems keys).ok hu) heq
  · rw [heq]
    exact (setHealth_spares hw id health).passes
  · rw [heq]
    exact Spares.passes ⟨consistent_purge w.ecs, fun e => .inr (.inl (watch_absent fun c => rfl))⟩

/-- Every world the server reaches is reached by moments. -/
theorem run_passes (S : Setting F) (acts : List (Env F × Act F))
    (hdT : ∀ i ∈ acts, ∀ sys dT, i.2 = .update sys dT → 0 ≤ dT)
    (h : runE (act S) start acts = .ok w) :
    Passes (new F) w.ecs := by
  refine runE_inv (I := fun u : World F => Passes (new F) u.ecs)
    (P := fun i => ∀ sys dT, i.2 = .update sys dT → 0 ≤ dT) ?_ (.refl consistent_new) hdT h
  intro u i v hu hi hv
  exact hu.trans (act_passes S hu.consistent hi hv)

end World

end Sfrpg
