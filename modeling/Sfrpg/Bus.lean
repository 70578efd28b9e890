import Sfrpg.Lib.Commute
import Sfrpg.Lib.Roster
import Sfrpg.Handlers

/-!
The message bus as it is built: observers subscribe and unsubscribe at run time, and a message goes
to those that are subscribed to its type.

Whatever calls a bus has received, a message reaches the observers whose subscription stands, in the
order in which they subscribed to stay. The systems subscribe in their constructors and nobody else
does, so that the bus of the server is the fixed table of `observers`; and the order in which the
systems are created makes no difference to what a message does.
-/

namespace Sfrpg

open Lib

/-! ### `Communicator` and `MessageHandler` -/

section Bus

variable {ω σ : Type}

/-- `m_observers`, which `addObserver` keeps without repeats. -/
abbrev Communicator (ω : Type) := Roster ω

namespace Communicator

def broadcast (notify : σ → ω → Outcome σ) (c : Communicator ω) (s : σ) : Outcome σ :=
  c.names.foldlM notify s

variable [DecidableEq ω]

def addObserver (o : ω) (c : Communicator ω) : Bool × Communicator ω :=
  if h : o ∈ c.names then (false, c) else (true, Roster.add o c h)

def removeObserver (o : ω) (c : Communicator ω) : Bool × Communicator ω :=
  if o ∈ c.names then (true, Roster.leave o c) else (false, c)

variable {o : ω} {c : Communicator ω}

lemma addObserver_fst : (addObserver o c).1 = true ↔ o ∉ c.names := by
  unfold addObserver
  split <;> simpa

lemma addObserver_snd : (addObserver o c).2 = Roster.join o c := by
  unfold addObserver Roster.join
  split <;> rfl

lemma removeObserver_fst : (removeObserver o c).1 = true ↔ o ∈ c.names := by
  unfold removeObserver
  split <;> simpa

lemma removeObserver_snd : (removeObserver o c).2 = Roster.leave o c := by
  unfold removeObserver
  split
  · rfl
  · next h => simp [Roster.leave, List.erase_of_not_mem h]

end Communicator

structure MessageHandler (ω : Type) where
  communicators : Dict EntityMessage (Communicator ω)

namespace MessageHandler

def new : MessageHandler ω := ⟨∅⟩

/-- `m_communicators[type]`, which is made empty when it is not there. -/
def communicator (type : EntityMessage) (h : MessageHandler ω) : Communicator ω :=
  (h.communicators.lookup type).getD .empty

def dispatch (notify : Message → σ → ω → Outcome σ) (m : Message) (h : MessageHandler ω) (s : σ) :
    Outcome σ :=
  match h.communicators.lookup m.type with
  | none => pure s
  | some c => Communicator.broadcast (notify m) c s

variable {h : MessageHandler ω} {type : EntityMessage}

lemma dispatch_eq (notify : Message → σ → ω → Outcome σ) (m : Message) (h : MessageHandler ω)
    (s : σ) : h.dispatch notify m s = (h.communicator m.type).names.foldlM (notify m) s := by
  unfold dispatch communicator
  cases h.communicators.lookup m.type <;> rfl

lemma communicator_insert (t : EntityMessage) (c : Communicator ω) :
    communicator type ⟨h.communicators.insert t c⟩ =
      if t = type then c else h.communicator type := by
  unfold communicator
  split
  · next ht => rw [ht, AList.lookup_insert, Option.getD_some]
  · next ht => rw [AList.lookup_insert_ne (Ne.symm ht)]

variable [DecidableEq ω]

def subscribe (type : EntityMessage) (o : ω) (h : MessageHandler ω) : Bool × MessageHandler ω :=
  let r := Communicator.addObserver o (h.communicator type)
  (r.1, ⟨h.communicators.insert type r.2⟩)

def unsubscribe (type : EntityMessage) (o : ω) (h : MessageHandler ω) : Bool × MessageHandler ω :=
  let r := Communicator.removeObserver o (h.communicator type)
  (r.1, ⟨h.communicators.insert type r.2⟩)

/-- A call of the bus that changes it. -/
inductive Call (ω : Type)
  | subscribe (type : EntityMessage) (o : ω)
  | unsubscribe (type : EntityMessage) (o : ω)
  deriving DecidableEq

def call (h : MessageHandler ω) : Call ω → MessageHandler ω
  | .subscribe type o => (h.subscribe type o).2
  | .unsubscribe type o => (h.unsubscribe type o).2

def run (calls : List (Call ω)) (h : MessageHandler ω) : MessageHandler ω := calls.foldl call h

/-- What a call does to the observers of a type. -/
def Call.about (type : EntityMessage) : Call ω → Option (Roster.Call ω)
  | .subscribe t o => if t = type then some (.join o) else none
  | .unsubscribe t o => if t = type then some (.leave o) else none

/-- The observers of a type whose subscription stands after the calls. -/
def subscribed (type : EntityMessage) (calls : List (Call ω)) : List ω :=
  Roster.lasting (calls.filterMap (Call.about type))

lemma communicator_call (c : Call ω) : (h.call c).communicator type =
    Roster.run (c.about type).toList (h.communicator type) := by
  cases c with
  | subscribe t o =>
    rw [call, subscribe, communicator_insert, Communicator.addObserver_snd, Call.about]
    split
    · next ht => rw [ht]; rfl
    · rfl
  | unsubscribe t o =>
    rw [call, unsubscribe, communicator_insert, Communicator.removeObserver_snd, Call.about]
    split
    · next ht => rw [ht]; rfl
    · rfl

lemma communicator_run (calls : List (Call ω)) (h : MessageHandler ω) :
    (h.run calls).communicator type =
      Roster.run (calls.filterMap (Call.about type)) (h.communicator type) := by
  induction calls generalizing h with
  | nil => rfl
  | cons c calls ih =>
    have hrun : h.run (c :: calls) = (h.call c).run calls := rfl
    rw [hrun, ih, communicator_call, List.filterMap_cons, Roster.run, Roster.run, Roster.run]
    cases c.about type with
    | none => rfl
    | some d => rfl

lemma names_run (calls : List (Call ω)) :
    (((new : MessageHandler ω).run calls).communicator type).names = subscribed type calls := by
  rw [communicator_run]
  exact Roster.names_run _

lemma mem_subscribed {calls : List (Call ω)} {o : ω} : o ∈ subscribed type calls ↔
    ∃ before after, calls = before ++ .subscribe type o :: after ∧
      .unsubscribe type o ∉ after := by
  have hjoin : ∀ {c : Call ω}, c.about type = some (.join o) ↔ c = .subscribe type o := by
    rintro (⟨t, a⟩ | ⟨t, a⟩) <;> simp [Call.about]
  have hleave : ∀ {c : Call ω}, c.about type = some (.leave o) ↔ c = .unsubscribe type o := by
    rintro (⟨t, a⟩ | ⟨t, a⟩) <;> simp [Call.about]
  have hmem : ∀ l : List (Call ω), .leave o ∈ l.filterMap (Call.about type) ↔
      .unsubscribe type o ∈ l := by
    intro l
    rw [List.mem_filterMap]
    exact ⟨fun ⟨c, hc, h⟩ => hleave.mp h ▸ hc, fun h => ⟨_, h, hleave.mpr rfl⟩⟩
  rw [subscribed, Roster.mem_lasting]
  constructor
  · rintro ⟨b, a, hcalls, ha⟩
    obtain ⟨before, rest, rfl, -, hrest⟩ := List.filterMap_eq_append_iff.mp hcalls
    obtain ⟨skipped, c, after, rfl, hskip, hc, rfl⟩ := List.filterMap_eq_cons_iff.mp hrest
    rw [hjoin.mp hc]
    exact ⟨before ++ skipped, after, by simp, fun h => ha ((hmem after).mpr h)⟩
  · rintro ⟨before, after, rfl, hafter⟩
    refine ⟨before.filterMap (Call.about type), after.filterMap (Call.about type), ?_,
      fun h => hafter ((hmem after).mp h)⟩
    rw [List.filterMap_append, List.filterMap_cons, hjoin.mpr rfl]

/-- **A message reaches whoever is subscribed**, each once and in the order of the subscriptions
that stand, whatever calls the bus has received; and a call says whether it changed anything. -/
theorem dispatch_subscribed (calls : List (Call ω)) (notify : Message → σ → ω → Outcome σ)
    (m : Message) (s : σ) :
    (new.run calls).dispatch notify m s = (subscribed m.type calls).foldlM (notify m) s ∧
    (subscribed m.type calls).Nodup ∧
    (∀ o, o ∈ subscribed m.type calls ↔ ∃ before after,
      calls = before ++ .subscribe m.type o :: after ∧ .unsubscribe m.type o ∉ after) ∧
    (∀ o, ((new.run calls).subscribe m.type o).1 = true ↔ o ∉ subscribed m.type calls) ∧
    ∀ o, ((new.run calls).unsubscribe m.type o).1 = true ↔ o ∈ subscribed m.type calls := by
  refine ⟨?_, Roster.nodup_lasting _, fun o => mem_subscribed, fun o => ?_, fun o => ?_⟩
  · rw [dispatch_eq, names_run]
  · rw [subscribe, Communicator.addObserver_fst, names_run]
  · rw [unsubscribe, Communicator.removeObserver_fst, names_run]

end MessageHandler

end Bus

/-! ### `SystemManager` -/

/-- The systems that have been added, and their bus. A system is known by its id. -/
structure SystemManager where
  systems : List System
  messages : MessageHandler System

namespace SystemManager

def new : SystemManager := ⟨[], .new⟩

/-- What the constructor of a system subscribes to. -/
def subscribes : System → List EntityMessage
  | .Network => [.Hurt, .Respawn, .Removed_Entity]
  | .Movement => [.Is_Moving]
  | .Control => []
  | .State => [.Move, .Switch_State, .Attack, .Hurt]
  | .Collision => []
  | .Combat => [.Being_Attacked]
  | .Timers => []

/-- The calls of the bus in the constructor of a system. -/
def construct (sys : System) (h : MessageHandler System) : MessageHandler System :=
  (subscribes sys).foldl (fun h type => (h.subscribe type sys).2) h

def addSystem (sys : System) (mgr : SystemManager) : Bool × SystemManager :=
  if sys ∈ mgr.systems then (false, mgr)
  else (true, ⟨mgr.systems ++ [sys], construct sys mgr.messages⟩)

def addSystems (order : List System) (mgr : SystemManager) : SystemManager :=
  order.foldl (fun mgr sys => (mgr.addSystem sys).2) mgr

variable {F : Type} [Field F] [LinearOrder F]

/-- A message on the bus, with at most `n` dispatches under way at a time. -/
def dispatchN (mgr : SystemManager) : ℕ → Dispatch F
  | 0, _, _ => throw .outOfFuel
  | n + 1, m, w => mgr.messages.dispatch (fun m w sys => notify (mgr.dispatchN n) m w sys) m w

end SystemManager

/-- The constructor. -/
def ServerSystemManager.new : SystemManager :=
  SystemManager.new.addSystems [.Network, .Movement, .Control, .State, .Collision, .Combat, .Timers]

/-! ### The table of the subscriptions -/

namespace SystemManager

lemma subscriptions_eq : subscriptions =
    [System.Network, .Movement, .Control, .State, .Collision, .Combat, .Timers].flatMap
      fun sys => (subscribes sys).map fun type => (type, sys) := rfl

lemma mem_observers {type : EntityMessage} {sys : System} :
    sys ∈ observers type ↔ type ∈ subscribes sys := by
  rw [observers, subscriptions_eq, List.mem_map]
  constructor
  · rintro ⟨⟨t, sys'⟩, hmem, rfl⟩
    obtain ⟨hmem, ht⟩ := List.mem_filter.mp hmem
    obtain ⟨s, -, hs⟩ := List.mem_flatMap.mp hmem
    obtain ⟨t', ht', heq⟩ := List.mem_map.mp hs
    cases heq
    rwa [← of_decide_eq_true ht]
  · intro h
    refine ⟨(type, sys), List.mem_filter.mpr ⟨List.mem_flatMap.mpr ⟨sys, ?_, ?_⟩, ?_⟩, rfl⟩
    · cases sys <;> decide
    · exact List.mem_map.mpr ⟨type, h, rfl⟩
    · exact decide_eq_true rfl

lemma nodup_observers (type : EntityMessage) : (observers type).Nodup := by
  have hnodup : subscriptions.Nodup := by decide
  refine List.Nodup.map_on ?_ (hnodup.filter _)
  intro s hs s' hs' heq
  have ht : s.1 = type := of_decide_eq_true (List.mem_filter.mp hs).2
  have ht' : s'.1 = type := of_decide_eq_true (List.mem_filter.mp hs').2
  exact Prod.ext (ht.trans ht'.symm) heq

/-! ### The bus the constructors leave -/

lemma mem_subscribe {h : MessageHandler System} {t type : EntityMessage} {o sys : System} :
    o ∈ ((h.subscribe t sys).2.communicator type).names ↔
      o ∈ (h.communicator type).names ∨ (o = sys ∧ type = t) := by
  rw [MessageHandler.subscribe, MessageHandler.communicator_insert]
  by_cases ht : t = type
  · subst ht
    rw [if_pos rfl, Communicator.addObserver_snd, Roster.names_join]
    split
    · next hmem =>
      exact ⟨.inl, fun h => h.elim id fun h => h.1 ▸ hmem⟩
    · simp
  · rw [if_neg ht]
    simp [Ne.symm ht]

lemma mem_construct {h : MessageHandler System} {type : EntityMessage} {o sys : System} :
    o ∈ ((construct sys h).communicator type).names ↔
      o ∈ (h.communicator type).names ∨ (o = sys ∧ type ∈ subscribes sys) := by
  unfold construct
  generalize subscribes sys = types
  induction types generalizing h with
  | nil => simp
  | cons t types ih =>
    rw [List.foldl_cons, ih, mem_subscribe, List.mem_cons]
    tauto

lemma mem_addSystems (order : List System) {mgr : SystemManager}
    (hmgr : ∀ type sys, sys ∈ (mgr.messages.communicator type).names ↔
      sys ∈ mgr.systems ∧ type ∈ subscribes sys) (type : EntityMessage) (sys : System) :
    sys ∈ ((mgr.addSystems order).messages.communicator type).names ↔
      (sys ∈ mgr.systems ∨ sys ∈ order) ∧ type ∈ subscribes sys := by
  induction order generalizing mgr with
  | nil => simpa [addSystems] using hmgr type sys
  | cons s order ih =>
    have hadd : mgr.addSystems (s :: order) = (mgr.addSystem s).2.addSystems order := rfl
    rw [hadd]
    by_cases hs : s ∈ mgr.systems
    · have heq : (mgr.addSystem s).2 = mgr := by rw [addSystem, if_pos hs]
      rw [heq, ih hmgr, List.mem_cons]
      have hor : sys ∈ mgr.systems ∨ sys ∈ order ↔ sys ∈ mgr.systems ∨ sys = s ∨ sys ∈ order :=
        ⟨fun h => h.imp_right .inr, by rintro (h | rfl | h) <;> tauto⟩
      rw [hor]
    · have heq : (mgr.addSystem s).2 = ⟨mgr.systems ++ [s], construct s mgr.messages⟩ := by
        rw [addSystem, if_neg hs]
      rw [heq, ih, List.mem_cons, List.mem_append, List.mem_singleton, or_assoc]
      intro t o
      rw [mem_construct, hmgr, List.mem_append, List.mem_singleton]
      constructor
      · rintro (h | ⟨rfl, h⟩)
        · exact ⟨.inl h.1, h.2⟩
        · exact ⟨.inr rfl, h⟩
      · rintro ⟨h | rfl, ht⟩
        · exact .inl ⟨h, ht⟩
        · exact .inr ⟨rfl, ht⟩

lemma names_perm {order : List System} (horder : ∀ sys, sys ∈ order) (type : EntityMessage) :
    ((new.addSystems order).messages.communicator type).names.Perm (observers type) := by
  refine (List.perm_ext_iff_of_nodup (Roster.nodup _) (nodup_observers type)).mpr fun sys => ?_
  have hnew : ∀ type sys, sys ∈ (new.messages.communicator type).names ↔
      sys ∈ new.systems ∧ type ∈ subscribes sys := by
    intro type sys
    simp [new, MessageHandler.communicator, MessageHandler.new, Roster.empty]
  rw [mem_addSystems order hnew, mem_observers]
  simp [horder]

/-! ### Two who hear of a hit -/

section Hurt

variable {F : Type} {m : Message}

lemma network_hurt [Field F] (hm : m.type = .Hurt) (w : Ecs F) : S_Network.notify m w =
    .ok { w with broadcasts := if m.receiver ∈ w.members .Network
      then w.broadcasts ++ [S_Network.hurtPacket m.receiver] else w.broadcasts } := by
  have h1 : EntityMessage.Hurt ≠ .Removed_Entity := by decide
  unfold S_Network.notify
  by_cases hmem : w.hasEntity .Network m.receiver
  · have hmem' : m.receiver ∈ w.members .Network := hmem
    rw [if_neg (not_not.mpr hmem), hm, if_neg h1, if_pos rfl, if_pos hmem']
    rfl
  · have hmem' : m.receiver ∉ w.members .Network := hmem
    rw [if_pos hmem, if_neg hmem']
    rfl

variable [Field F] [LinearOrder F]

lemma state_hurt (n : ℕ) (hm : m.type = .Hurt) (w : Ecs F) :
    ∃ x : Outcome (Dict EntityId (EntityData F)), ∀ b,
      S_State.notify (Sfrpg.dispatchN n) m { w with broadcasts := b } =
        x.map fun entities => { w with entities := entities, broadcasts := b } := by
  have h1 : EntityMessage.Hurt ≠ .Move := by decide
  have h2 : EntityMessage.Hurt ≠ .Attack := by decide
  have hmem : ∀ b, ({ w with broadcasts := b } : Ecs F).hasEntity .State m.receiver ↔
      w.hasEntity .State m.receiver := fun b => Iff.rfl
  have hget : ∀ b, ({ w with broadcasts := b } : Ecs F).getComponent C_State m.receiver =
      w.getComponent C_State m.receiver := fun b => rfl
  have hset : ∀ b (s : C_State), ({ w with broadcasts := b } : Ecs F).setComponent m.receiver s =
      { w with entities := (w.setComponent m.receiver s).entities, broadcasts := b } :=
    fun b s => rfl
  simp only [S_State.notify, hm, h1, h2, if_false, if_true, hmem, hget]
  by_cases hlist : w.hasEntity .State m.receiver
  · simp only [hlist, not_true, if_false]
    cases hs : w.getComponent C_State m.receiver with
    | none => exact ⟨.error .nullDeref, fun b => rfl⟩
    | some s =>
      simp only [deref_some, ok_bind]
      by_cases hdying : s.state = .Dying
      · exact ⟨.ok w.entities, fun b => by rw [if_neg (not_not.mpr hdying)]; rfl⟩
      · simp only [hdying, ne_eq, not_false_eq_true, if_true]
        cases n with
        | zero =>
          simp only [S_State.changeState, hget, hs, deref_some, ok_bind, hdying, and_false,
            if_false]
          by_cases heq : EntityState.Hurt = s.state
          · exact ⟨.ok w.entities, fun b => by rw [if_pos heq]; rfl⟩
          · exact ⟨.error .outOfFuel, fun b => by rw [if_neg heq]; rfl⟩
        | succ n =>
          have hchange := fun b => changeState_eq n .Hurt false ((hget b).trans hs)
          by_cases heq : EntityState.Hurt = s.state ∨ (false = false ∧ s.state = .Dying)
          · exact ⟨.ok w.entities, fun b => by rw [hchange b, if_pos heq]; rfl⟩
          · exact ⟨.ok (w.setComponent m.receiver (s.setState .Hurt)).entities,
              fun b => by rw [hchange b, if_neg heq, hset b]; rfl⟩
  · exact ⟨.ok w.entities, fun b => by rw [if_pos hlist]; rfl⟩

lemma hurt_comm (n : ℕ) (hm : m.type = .Hurt) (w : Ecs F) :
    (S_Network.notify m w >>= S_State.notify (Sfrpg.dispatchN n) m) =
      S_State.notify (Sfrpg.dispatchN n) m w >>= S_Network.notify m := by
  obtain ⟨x, hx⟩ := state_hurt n hm w
  have hself : S_State.notify (Sfrpg.dispatchN n) m w =
      x.map fun entities => { w with entities := entities } := hx w.broadcasts
  rw [network_hurt hm, ok_bind, hx, hself]
  cases x with
  | error f => rfl
  | ok entities =>
    rw [Except.map, Except.map, ok_bind, network_hurt hm]

end Hurt

variable {F : Type} [Field F] [LinearOrder F]

lemma two_observers (sys sys' : System) (hne : sys ≠ sys') : ∀ type ∈ subscribes sys,
    type ∈ subscribes sys' → type = .Hurt ∧
      ((sys = .Network ∧ sys' = .State) ∨ (sys = .State ∧ sys' = .Network)) := by
  cases sys <;> cases sys' <;> first | exact absurd rfl hne | decide

lemma notify_comm (n : ℕ) (m : Message) {sys sys' : System} (h : sys ∈ observers m.type)
    (h' : sys' ∈ observers m.type) (w : Ecs F) :
    (notify (Sfrpg.dispatchN n) m w sys >>= fun w => notify (Sfrpg.dispatchN n) m w sys') =
      notify (Sfrpg.dispatchN n) m w sys' >>= fun w => notify (Sfrpg.dispatchN n) m w sys := by
  rw [mem_observers] at h h'
  by_cases heq : sys = sys'
  · rw [heq]
  · obtain ⟨hm, ⟨rfl, rfl⟩ | ⟨rfl, rfl⟩⟩ := two_observers sys sys' heq m.type h h'
    · exact hurt_comm n hm w
    · exact (hurt_comm n hm w).symm

/-- **The order in which the systems are created does not matter**: once all are there, the bus does
with each message what the table of subscriptions says, wherever the hash table puts them. -/
theorem dispatch_any_order {order : List System} (horder : ∀ sys, sys ∈ order) (n : ℕ)
    (m : Message) (w : Ecs F) :
    (new.addSystems order).dispatchN n m w = Sfrpg.dispatchN n m w := by
  induction n generalizing m w with
  | zero => rfl
  | succ n ih =>
    have hn : (new.addSystems order).dispatchN n = (Sfrpg.dispatchN n : Dispatch F) :=
      funext fun m => funext fun w => ih m w
    rw [dispatchN, MessageHandler.dispatch_eq, hn, Sfrpg.dispatchN]
    exact Commute.foldlM_perm (names_perm horder m.type) (fun x hx y hy z =>
      notify_comm n m (((names_perm horder m.type).mem_iff).mp hx)
        (((names_perm horder m.type).mem_iff).mp hy) z) w

/-- All systems in another order, and two of them once more. -/
def disorderly : List System :=
  [.State, .Combat, .State, .Timers, .Network, .Movement, .Network, .Collision, .Control]

/-- An idle player, of whom both `S_Network` and `S_State` hear. -/
def bystander : Ecs ℚ :=
  ((Ecs.new ℚ).addEntity ⟨.Idle, 1, 1, false⟩ ((Bitmask.empty.turnOnBit
    Component.State.id).turnOnBit Component.Client.id) (-1)).1

/-- Both act on the hit, and it does not matter that here `S_State` hears of it first and
`S_Network` in the server. -/
theorem dispatch_any_order_hit :
    (∀ sys, sys ∈ disorderly) ∧
    (new.addSystems disorderly).dispatchN 4 (.to .Hurt 0) bystander =
      ServerSystemManager.new.dispatchN 4 (.to .Hurt 0) bystander ∧
    ∃ w, (new.addSystems disorderly).dispatchN 4 (.to .Hurt 0) bystander = .ok w ∧
      w.broadcasts = [S_Network.hurtPacket 0] ∧ w.getComponent C_State 0 = some ⟨.Hurt⟩ := by
  have horder : ∀ sys, sys ∈ disorderly := by
    intro sys
    cases sys <;> decide
  have hserver : ∀ sys, sys ∈
      [System.Network, .Movement, .Control, .State, .Collision, .Combat, .Timers] := by
    intro sys
    cases sys <;> decide
  have hmessy := dispatch_any_order horder 4 (.to .Hurt 0) bystander
  have htidy := dispatch_any_order hserver 4 (.to .Hurt 0) bystander
  refine ⟨horder, hmessy.trans htidy.symm, ?_⟩
  rw [hmessy]
  exact ⟨_, rfl, rfl, rfl⟩

end SystemManager

end Sfrpg
