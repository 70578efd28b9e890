import Sfrpg.Lib.Trace
import Sfrpg.Handlers

/-!
How the queued events are handed out.

`handleEvents` empties the queues one after another, and the inner loop takes events until the
queue is empty. It ends because no handler adds an event: all a handler of an event does, through
whatever messages, is to write components. The loops are run here with a record of the handlers
called, which is the schedule one reads off the queues and the lists of the systems beforehand.
-/

namespace Sfrpg

open Lib Lib.Word Lib.Run Ecs

/-- A call of an event handler, with the worlds before and after it. -/
structure Delivery (F : Type) where
  system : System
  entity : EntityId
  event : EventID
  before : Ecs F
  after : Ecs F

def Delivery.key {F : Type} (d : Delivery F) : System × EntityId × EventID :=
  (d.system, d.entity, d.event)

/-- The events a system received for an entity, in order. -/
def received {F : Type} (sys : System) (e : EntityId) (log : List (Delivery F)) : List EventID :=
  (log.map Delivery.key).filterMap fun k => if k.1 = sys ∧ k.2.1 = e then some k.2.2 else none

variable {F : Type} [Field F] [LinearOrder F] {w u : Ecs F} {e : EntityId}

/-! ### The loops with their record -/

def handOne (e : EntityId) (event : EventID) (w : Ecs F) (sys : System) :
    Traced Fault (Ecs F) (Delivery F) :=
  if w.hasEntity sys e then
    match handleEvent sys e ⟨event⟩ w with
    | .error f => .error f
    | .ok u => .ok (u, [⟨sys, e, event, w, u⟩])
  else .ok (w, [])

def processTraced (systems : List System) (e : EntityId) (w : Ecs F) :
    Traced Fault (Ecs F) (Delivery F) :=
  match w.events.lookup e with
  | some (event :: rest) =>
    Trace.foldl (handOne e event) { w with events := w.events.insert e rest } systems
  | _ => .ok (w, [])

def drainTraced (systems : List System) (e : EntityId) :
    ℕ → Ecs F → Traced Fault (Ecs F) (Delivery F)
  | 0, w => if queue e w = [] then .ok (w, []) else .error .outOfFuel
  | n + 1, w =>
    if queue e w = [] then .ok (w, [])
    else Trace.seq (processTraced systems e w) (drainTraced systems e n)

def handleEventsTraced (n : ℕ) (systems : List System) (keys : List EntityId) (w : Ecs F) :
    Traced Fault (Ecs F) (Delivery F) :=
  Trace.foldl (fun w e => drainTraced systems e n w) w keys

lemma forget_process (systems : List System) (e : EntityId) (w : Ecs F) :
    Trace.forget (processTraced systems e w) = processEvent systems e w := by
  rw [processTraced, processEvent]
  cases w.events.lookup e with
  | none => rfl
  | some q =>
    cases q with
    | nil => rfl
    | cons event rest =>
      refine Trace.forget_foldl (fun u sys => ?_) _ systems
      rw [handOne]
      split
      · cases handleEvent sys e ⟨event⟩ u <;> rfl
      · rfl

lemma forget_drain (systems : List System) (e : EntityId) (n : ℕ) (w : Ecs F) :
    Trace.forget (drainTraced systems e n w) = drain systems e n w := by
  induction n generalizing w with
  | zero =>
    rw [drainTraced, drain, queue]
    split <;> rfl
  | succ n ih =>
    rw [drainTraced, drain, queue]
    split
    · rfl
    · rw [Trace.forget_seq, forget_process]
      congr 1
      funext u
      exact ih u

lemma forget_handleEvents (n : ℕ) (systems : List System) (keys : List EntityId) (w : Ecs F) :
    Trace.forget (handleEventsTraced n systems keys w) = handleEventsN n systems keys w :=
  Trace.forget_foldl (fun u e => forget_drain systems e n u) w keys

/-! ### What is handed out -/

/-- What the handlers of events may write. -/
def Moved (_ : EntityId) (c : Component) : Prop := c = .State ∨ c = .Movable

lemma steered_moved : ∀ x c, Steered e x c → Moved x c := fun _ _ h => h.2

/-- What is left of a world when events are taken from its queues. -/
structure Drains (w u : Ecs F) : Prop where
  framed : Framed Moved w u
  queues : ∀ x, x ∈ u.events ↔ x ∈ w.events
  input : u.input = w.input
  broadcasts : u.broadcasts = w.broadcasts

omit [Field F] [LinearOrder F] in
lemma Drains.refl (w : Ecs F) : Drains w w :=
  ⟨framed_of_entities rfl rfl rfl, fun _ => .rfl, rfl, rfl⟩

omit [Field F] [LinearOrder F] in
lemma Drains.trans {v : Ecs F} (h : Drains w u) (h' : Drains u v) : Drains w v where
  framed := h.framed.trans h'.framed
  queues x := (h'.queues x).trans (h.queues x)
  input := h'.input.trans h.input
  broadcasts := h'.broadcasts.trans h.broadcasts

/-- The handlers on record left the queues alone. -/
def Quiet (log : List (Delivery F)) : Prop := ∀ d ∈ log, d.after.events = d.before.events

/-- The handlers that are to be called for one event. -/
def calls (systems : List System) (e : EntityId) (w : Ecs F) (event : EventID) :
    List (System × EntityId × EventID) :=
  (systems.filter fun sys => w.hasEntity sys e).map fun sys => (sys, e, event)

/-- The handlers that are to be called for one entity. -/
def schedule (systems : List System) (w : Ecs F) (e : EntityId) :
    List (System × EntityId × EventID) :=
  (queue e w).flatMap (calls systems e w)

omit [Field F] [LinearOrder F] in
lemma calls_congr (h : u.members = w.members) (systems : List System) (e : EntityId) :
    calls systems e u = calls systems e w := by
  funext event
  rw [calls, calls]
  congr 1
  refine List.filter_congr fun sys _ => decide_eq_decide.mpr ?_
  rw [hasEntity, hasEntity, h]

lemma handSystems_post (hw : Consistent w) (event : EventID) (systems : List System) :
    Post (Trace.foldl (handOne e event) w systems)
      (fun p => Writes (Steered e) w p.1 ∧ p.2.map Delivery.key = calls systems e w event ∧
        Quiet p.2) fun _ => False := by
  induction systems generalizing w with
  | nil => exact ⟨.refl, rfl, by simp [Quiet]⟩
  | cons sys systems ih =>
    rw [Trace.foldl]
    by_cases hmem : w.hasEntity sys e
    · obtain ⟨v, hv, hwrites⟩ := (handleEvent_post hw hmem ⟨event⟩).exists_ok
      have hone : handOne e event w sys = .ok (v, [⟨sys, e, event, w, v⟩]) := by
        rw [handOne, if_pos hmem, hv]
      rw [hone]
      have hev : v.events = w.events := hwrites.rest.1
      have hcalls : calls (sys :: systems) e w event =
          (sys, e, event) :: calls systems e v event := by
        rw [calls_congr hwrites.effects.framed.members, calls, List.filter_cons,
          if_pos (by simpa using hmem)]
        rfl
      refine Trace.post_seq
        (Q := fun s a => s = v ∧ a = [⟨sys, e, event, w, v⟩])
        (R := fun s a => Writes (Steered e) w s ∧
          a.map Delivery.key = calls (sys :: systems) e w event ∧ Quiet a) ⟨rfl, rfl⟩ ?_
      rintro s a ⟨rfl, rfl⟩
      refine (ih (hwrites.effects.consistent hw)).imp ?_
      rintro p ⟨hp, hkey, hq⟩
      refine ⟨hwrites.trans hp, by rw [hcalls, ← hkey]; rfl, ?_⟩
      intro d hd
      rcases List.mem_append.mp hd with hd | hd
      · rw [List.mem_singleton.mp hd]
        exact hev
      · exact hq d hd
    · have hone : handOne e event w sys = .ok (w, []) := by rw [handOne, if_neg hmem]
      have hcalls : calls (sys :: systems) e w event = calls systems e w event := by
        rw [calls, List.filter_cons, if_neg (by simpa using hmem)]
        rfl
      rw [hone, hcalls]
      refine Trace.post_seq (Q := fun s a => s = w ∧ a = [])
        (R := fun s a => Writes (Steered e) w s ∧
          a.map Delivery.key = calls systems e w event ∧ Quiet a) ⟨rfl, rfl⟩ ?_
      rintro s a ⟨rfl, rfl⟩
      exact ih hw

omit [Field F] [LinearOrder F] in
lemma queue_insert (e x : EntityId) (rest : List EventID) (w : Ecs F) :
    queue x { w with events := w.events.insert e rest } = if x = e then rest else queue x w := by
  rw [queue, queue]
  by_cases hx : x = e
  · subst hx
    simp
  · rw [if_neg hx, AList.lookup_insert_ne hx]

omit [Field F] [LinearOrder F] in
lemma lookup_of_queue {event : EventID} {rest : List EventID} (h : queue e w = event :: rest) :
    w.events.lookup e = some (event :: rest) := by
  rw [queue] at h
  cases hl : w.events.lookup e with
  | none => simp [hl] at h
  | some q =>
    simp only [hl, Option.getD_some] at h
    rw [h]

lemma process_post (hw : Consistent w) (systems : List System) {event : EventID}
    {rest : List EventID} (h : queue e w = event :: rest) :
    Post (processTraced systems e w)
      (fun p => Drains w p.1 ∧ (∀ x, queue x p.1 = if x = e then rest else queue x w) ∧
        p.2.map Delivery.key = calls systems e w event ∧ Quiet p.2) fun _ => False := by
  have hl := lookup_of_queue h
  have hc : Consistent { w with events := w.events.insert e rest } := hw.congr rfl rfl
  rw [processTraced, hl]
  refine (handSystems_post hc event systems).imp ?_
  rintro p ⟨hwrites, hkey, hq⟩
  obtain ⟨hev, hin, hbr⟩ := hwrites.rest
  refine ⟨⟨?_, ?_, hin, hbr⟩, ?_, hkey, hq⟩
  · have hpop : Framed Moved w { w with events := w.events.insert e rest } :=
      framed_of_entities rfl rfl rfl
    exact hpop.trans (hwrites.mono steered_moved).effects.framed
  · intro x
    rw [hev, AList.mem_insert]
    refine ⟨?_, .inr⟩
    rintro (rfl | hx)
    · exact Dict.mem_of_lookup hl
    · exact hx
  · intro x
    rw [queue, hev]
    exact queue_insert e x rest w

/-- **The inner loop** ends with the queue empty, after as many passes as there were events. -/
lemma drain_post (systems : List System) (n : ℕ) (hw : Consistent w)
    (hn : (queue e w).length ≤ n) :
    Post (drainTraced systems e n w)
      (fun p => Drains w p.1 ∧ (∀ x, queue x p.1 = if x = e then [] else queue x w) ∧
        p.2.map Delivery.key = schedule systems w e ∧ Quiet p.2) fun _ => False := by
  have hdone : ∀ v : Ecs F, queue e v = [] → Drains v v ∧
      (∀ x, queue x v = if x = e then [] else queue x v) ∧
      ([] : List (Delivery F)).map Delivery.key = schedule systems v e ∧
      Quiet ([] : List (Delivery F)) := by
    intro v hv
    refine ⟨.refl v, fun x => ?_, by rw [schedule, hv]; rfl, by simp [Quiet]⟩
    split
    · next h => rw [h, hv]
    · rfl
  induction n generalizing w with
  | zero =>
    have hempty : queue e w = [] := List.length_eq_zero_iff.mp (by omega)
    rw [drainTraced, if_pos hempty]
    exact hdone w hempty
  | succ n ih =>
    rw [drainTraced]
    cases hq : queue e w with
    | nil =>
      rw [if_pos rfl]
      exact hdone w hq
    | cons event rest =>
      rw [if_neg (by simp)]
      rw [hq, List.length_cons] at hn
      refine Trace.post_seq
        (Q := fun s a => Drains w s ∧ (∀ x, queue x s = if x = e then rest else queue x w) ∧
          a.map Delivery.key = calls systems e w event ∧ Quiet a)
        (R := fun s a => Drains w s ∧ (∀ x, queue x s = if x = e then [] else queue x w) ∧
          a.map Delivery.key = schedule systems w e ∧ Quiet a)
        (process_post hw systems hq) ?_
      rintro s a ⟨hd, hqs, hkey, hquiet⟩
      have hrest : queue e s = rest := by rw [hqs e, if_pos rfl]
      refine (ih (hd.framed.consistent hw) (by rw [hrest]; omega)).imp ?_
      rintro p ⟨hd', hqs', hkey', hquiet'⟩
      refine ⟨hd.trans hd', fun x => ?_, ?_, ?_⟩
      · rw [hqs' x, hqs x]
        split <;> rfl
      · rw [List.map_append, hkey, hkey', schedule, schedule, hrest, hq, List.flatMap_cons,
          calls_congr hd.framed.members]
      · intro d hmem
        rcases List.mem_append.mp hmem with hmem | hmem
        · exact hquiet d hmem
        · exact hquiet' d hmem

/-- **The outer loop** empties the queues it goes through. -/
lemma handleEvents_post (systems : List System) (n : ℕ) (keys : List EntityId)
    (hw : Consistent w) (hn : ∀ x, (queue x w).length ≤ n) :
    Post (handleEventsTraced n systems keys w)
      (fun p => Drains w p.1 ∧ (∀ x, queue x p.1 = if x ∈ keys then [] else queue x w) ∧
        (keys.Nodup → p.2.map Delivery.key = keys.flatMap (schedule systems w)) ∧ Quiet p.2)
      fun _ => False := by
  induction keys generalizing w with
  | nil => exact ⟨.refl w, fun x => by simp, fun _ => rfl, by simp [Quiet]⟩
  | cons e keys ih =>
    rw [handleEventsTraced, Trace.foldl]
    refine Trace.post_seq
      (Q := fun s a => Drains w s ∧ (∀ x, queue x s = if x = e then [] else queue x w) ∧
        a.map Delivery.key = schedule systems w e ∧ Quiet a)
      (R := fun s a => Drains w s ∧ (∀ x, queue x s = if x ∈ e :: keys then [] else queue x w) ∧
        ((e :: keys).Nodup → a.map Delivery.key = (e :: keys).flatMap (schedule systems w)) ∧
        Quiet a)
      (drain_post systems n hw (hn e)) ?_
    rintro s a ⟨hd, hqs, hkey, hquiet⟩
    have hshort : ∀ x, (queue x s).length ≤ n := by
      intro x
      rw [hqs x]
      split
      · exact Nat.zero_le n
      · exact hn x
    refine (ih (hd.framed.consistent hw) hshort).imp ?_
    rintro p ⟨hd', hqs', hkey', hquiet'⟩
    refine ⟨hd.trans hd', fun x => ?_, fun hnodup => ?_, ?_⟩
    · rw [hqs' x, hqs x]
      by_cases hx : x = e <;> by_cases hxk : x ∈ keys <;> simp [hx, hxk]
    · obtain ⟨hnot, hnodup⟩ := List.nodup_cons.mp hnodup
      rw [List.map_append, hkey, hkey' hnodup, List.flatMap_cons]
      congr 1
      refine List.flatMap_congr fun x hx => ?_
      have hne : x ≠ e := fun h => hnot (h ▸ hx)
      rw [schedule, schedule, hqs x, if_neg hne, calls_congr hd.framed.members]
    · intro d hmem
      rcases List.mem_append.mp hmem with hmem | hmem
      · exact hquiet d hmem
      · exact hquiet' d hmem

lemma drain_succ (systems : List System) (n : ℕ) (hw : Consistent w)
    (hn : (queue e w).length ≤ n) :
    drainTraced systems e (n + 1) w = drainTraced systems e n w := by
  induction n generalizing w with
  | zero =>
    have hempty : queue e w = [] := List.length_eq_zero_iff.mp (by omega)
    rw [drainTraced, drainTraced, if_pos hempty, if_pos hempty]
  | succ n ih =>
    rw [drainTraced, drainTraced]
    cases hq : queue e w with
    | nil => rfl
    | cons event rest =>
      rw [if_neg (by simp), if_neg (by simp)]
      obtain ⟨p, hp, hd, hqs, -⟩ := (process_post hw systems hq).exists_ok
      rw [hq, List.length_cons] at hn
      have hrest : queue e p.1 = rest := by rw [hqs e, if_pos rfl]
      have hsame := ih (hd.framed.consistent hw) (by rw [hrest]; omega)
      rw [hp, Trace.seq, Trace.seq, hsame]

lemma handleEvents_succ (systems : List System) (n : ℕ) (keys : List EntityId)
    (hw : Consistent w) (hn : ∀ x, (queue x w).length ≤ n) :
    handleEventsTraced (n + 1) systems keys w = handleEventsTraced n systems keys w := by
  induction keys generalizing w with
  | nil => rfl
  | cons e keys ih =>
    obtain ⟨p, hp, hd, hqs, -⟩ := (drain_post systems n hw (hn e)).exists_ok
    have hshort : ∀ x, (queue x p.1).length ≤ n := by
      intro x
      rw [hqs x]
      split
      · exact Nat.zero_le n
      · exact hn x
    have hsame := ih (hd.framed.consistent hw) hshort
    rw [handleEventsTraced] at hsame ⊢
    rw [handleEventsTraced] at hsame ⊢
    rw [Trace.foldl, Trace.foldl, drain_succ systems n hw (hn e), hp, Trace.seq, Trace.seq, hsame]

lemma handleEvents_fuel (systems : List System) {k n : ℕ} (hkn : k ≤ n) (keys : List EntityId)
    (hw : Consistent w) (hk : ∀ x, (queue x w).length ≤ k) :
    handleEventsTraced n systems keys w = handleEventsTraced k systems keys w := by
  induction n, hkn using Nat.le_induction with
  | base => rfl
  | succ n hn ih => rw [handleEvents_succ systems n keys hw fun x => (hk x).trans hn, ih]

omit [Field F] [LinearOrder F] in
lemma queue_le_backlog (e : EntityId) (w : Ecs F) : (queue e w).length ≤ w.backlog := by
  have hfold : ∀ (l : List ℕ) (k : ℕ), k ∈ l → k ≤ l.foldr max 0 := by
    intro l k hk
    induction l with
    | nil => simp at hk
    | cons a l ih =>
      rw [List.foldr_cons]
      rcases List.mem_cons.mp hk with rfl | hk
      · exact le_max_left _ _
      · exact (ih hk).trans (le_max_right _ _)
  by_cases he : e ∈ w.events
  · exact hfold _ _ (List.mem_map.mpr ⟨e, AList.mem_keys.mp he, rfl⟩)
  · rw [queue, AList.lookup_eq_none.mpr he]
    exact Nat.zero_le _

/-! ### Reading the schedule -/

lemma flatMap_only {α β : Type} [DecidableEq α] {l : List α} (hl : l.Nodup) (a : α) (x : List β) :
    (l.flatMap fun k => if k = a then x else []) = if a ∈ l then x else [] := by
  induction l with
  | nil => rfl
  | cons b l ih =>
    obtain ⟨hnot, hl⟩ := List.nodup_cons.mp hl
    rw [List.flatMap_cons, ih hl]
    by_cases hb : b = a
    · subst hb
      simp [hnot]
    · simp [hb, Ne.symm hb]

omit [Field F] [LinearOrder F] in
lemma filterMap_calls {systems : List System} (hs : systems.Nodup) (w : Ecs F) (x e : EntityId)
    (sys : System) (event : EventID) :
    ((calls systems x w event).filterMap fun k =>
      if k.1 = sys ∧ k.2.1 = e then some k.2.2 else none) =
      if x = e ∧ sys ∈ systems ∧ w.hasEntity sys x then [event] else [] := by
  rw [calls, List.filterMap_map]
  have hpiece : ((fun k : System × EntityId × EventID =>
      if k.1 = sys ∧ k.2.1 = e then some k.2.2 else none) ∘ fun s => (s, x, event)) =
      fun s => if s = sys ∧ x = e then some event else none := rfl
  rw [hpiece]
  by_cases hx : x = e
  · have honly := flatMap_only (hs.filter fun s => decide (w.hasEntity s x)) sys [event]
    simp only [List.mem_filter, decide_eq_true_eq] at honly
    simp only [hx, and_true, true_and] at honly ⊢
    rw [← honly, List.filterMap_eq_flatMap_toList]
    refine List.flatMap_congr fun s _ => ?_
    split <;> rfl
  · simp [hx]

omit [Field F] [LinearOrder F] in
lemma received_schedule {systems : List System} (hs : systems.Nodup) {keys : List EntityId}
    (hk : keys.Nodup) {log : List (Delivery F)}
    (hlog : log.map Delivery.key = keys.flatMap (schedule systems w)) (sys : System)
    (e : EntityId) :
    received sys e log =
      if e ∈ keys ∧ sys ∈ systems ∧ w.hasEntity sys e then queue e w else [] := by
  rw [received, hlog, List.filterMap_flatMap]
  have hone : ∀ x, (schedule systems w x).filterMap (fun k =>
      if k.1 = sys ∧ k.2.1 = e then some k.2.2 else none) =
      if x = e then (if sys ∈ systems ∧ w.hasEntity sys e then queue e w else []) else [] := by
    intro x
    rw [schedule, List.filterMap_flatMap]
    simp only [filterMap_calls hs]
    by_cases hx : x = e
    · subst hx
      by_cases hmem : sys ∈ systems ∧ w.hasEntity sys x
      · simp [hmem]
      · simp [hmem]
    · simp [hx]
  rw [List.flatMap_congr fun x _ => hone x, flatMap_only hk]
  by_cases he : e ∈ keys <;> simp [he]

end Sfrpg
