import Sfrpg.Handlers

/-!
What the handlers of a message leave alone, however deep its dispatches may nest: nobody's input is
forgotten but on the news of a removal, and nothing is put into a queue but by a move, an attack, or
the question whether somebody still moves.
-/

namespace Sfrpg

open Lib Lib.Word Ecs

/-- The messages on which an event is added. -/
def Stirring (type : EntityMessage) : Prop := type = .Move ∨ type = .Attack ∨ type = .Is_Moving

/-- What a message leaves as it is. -/
structure Spared {F : Type} (m : Message) (w u : Ecs F) : Prop where
  input : m.type ≠ .Removed_Entity → u.input = w.input
  events : ¬ Stirring m.type → u.events = w.events

variable {F : Type} {w u v : Ecs F} {m : Message} {dispatch : Dispatch F}

def Discreet (dispatch : Dispatch F) : Prop :=
  ∀ m w, Post (dispatch m w) (Spared m w) fun _ => True

/-- Neither inputs nor queues have changed. -/
def Silent (w u : Ecs F) : Prop := u.input = w.input ∧ u.events = w.events

lemma Silent.refl (w : Ecs F) : Silent w w := ⟨rfl, rfl⟩

lemma Silent.trans (h : Silent w u) (h' : Silent u v) : Silent w v :=
  ⟨h'.1.trans h.1, h'.2.trans h.2⟩

lemma Silent.spared (h : Silent w u) : Spared m w u := ⟨fun _ => h.1, fun _ => h.2⟩

lemma Spared.trans (h : Spared m w u) (h' : Spared m u v) : Spared m w v where
  input hm := (h'.input hm).trans (h.input hm)
  events hm := (h'.events hm).trans (h.events hm)

lemma Spared.silent (h : Spared m w u) (hm : m.type ≠ .Removed_Entity) (hm' : ¬ Stirring m.type) :
    Silent w u := ⟨h.input hm, h.events hm'⟩

lemma changeState_silent (h : Discreet dispatch) (e : EntityId) (st : EntityState) (force : Bool)
    (w : Ecs F) : Post (S_State.changeState dispatch e st force w) (Silent w) fun _ => True := by
  unfold S_State.changeState
  refine Post.bind (Q := fun _ => True) .any fun s _ => ?_
  refine Post.ite (fun _ => .refl w) fun _ => Post.ite (fun _ => .refl w) fun _ => ?_
  have hquiet : ¬ Stirring .Switch_State := by
    unfold Stirring
    decide
  refine (h _ _).imp fun u hu => ⟨?_, hu.events hquiet⟩
  exact hu.input (show EntityMessage.Switch_State ≠ .Removed_Entity by decide)

lemma state_notify_spared (h : Discreet dispatch) (m : Message) (w : Ecs F) :
    Post (S_State.notify dispatch m w) (Spared m w) fun _ => True := by
  have hquiet : ∀ st, Post (S_State.changeState dispatch m.receiver st false w) (Spared m w)
      fun _ => True := fun st => (changeState_silent h _ _ _ w).imp fun _ hu => hu.spared
  -- an event is added first, which the message may
  have hloud : ∀ event st, Stirring m.type →
      Post (S_State.changeState dispatch m.receiver st false (w.addEvent m.receiver event))
        (Spared m w) fun _ => True := fun event st hm =>
    (changeState_silent h _ _ _ _).imp fun _ hu => ⟨fun _ => hu.1, fun hno => absurd hm hno⟩
  have hstay : Spared m w w := (Silent.refl w).spared
  unfold S_State.notify
  refine Post.ite (fun _ => hstay) fun _ => Post.ite (fun hm => ?_) fun _ => ?_
  · refine Post.bind (Q := fun _ => True) .any fun s _ => Post.ite (fun _ => hstay) fun _ => ?_
    exact Post.bind (Q := fun _ => True) .any fun event _ => hloud event.id .Walking (.inl hm)
  refine Post.ite (fun hm => ?_) fun _ => Post.ite (fun _ => ?_) fun _ => ?_
  · refine Post.bind (Q := fun _ => True) .any fun s _ => Post.ite (fun _ => ?_) fun _ => hstay
    exact hloud _ .Attacking (.inr (.inl hm))
  · refine Post.bind (Q := fun _ => True) .any fun s _ => Post.ite (fun _ => ?_) fun _ => hstay
    exact hquiet .Hurt
  · exact Post.ite (fun _ => hquiet _) fun _ => hstay

variable [Field F]

lemma combat_notify_silent (h : Discreet dispatch) (m : Message) (w : Ecs F) :
    Post (S_Combat.notify dispatch m w) (Silent w) fun _ => True := by
  obtain ⟨heq, -⟩ | ⟨health, a, -, -, -, heq⟩ := combat_notify_cases dispatch m w
  · rw [heq]
    exact .refl w
  · rw [heq]
    refine Post.bind (Q := Silent w) ?_ fun u hu => ?_
    · unfold hitNews
      refine Post.ite (fun _ => changeState_silent h _ _ _ _) fun _ => ?_
      have hquiet : ¬ Stirring .Hurt := by
        unfold Stirring
        decide
      refine (h _ _).imp fun u hu => ⟨?_, hu.events hquiet⟩
      exact hu.input (show EntityMessage.Hurt ≠ .Removed_Entity by decide)
    · unfold knockBack
      cases u.getComponent (C_Movable F) m.sender with
      | none => exact hu
      | some mov => exact Post.bind (Q := fun _ => True) .any fun target _ => hu

variable [LinearOrder F]

lemma movement_notify_spared (m : Message) (w : Ecs F) :
    Post (S_Movement.notify m w) (Spared m w) fun _ => True := by
  have hstay : Spared m w w := (Silent.refl w).spared
  unfold S_Movement.notify
  refine Post.ite (fun _ => hstay) fun _ => Post.ite (fun hm => ?_) fun _ => hstay
  refine Post.bind (Q := fun _ => True) .any fun mov _ => Post.ite (fun _ => hstay) fun _ => ?_
  exact ⟨fun _ => rfl, fun hno => absurd (.inr (.inr hm)) hno⟩

omit [LinearOrder F] in
lemma network_notify_spared (m : Message) (w : Ecs F) :
    Post (S_Network.notify m w) (Spared m w) fun _ => True := by
  have hstay : Spared m w w := (Silent.refl w).spared
  unfold S_Network.notify
  refine Post.ite (fun _ => hstay) fun _ => Post.ite (fun hm => ?_) fun _ => ?_
  · exact ⟨fun hno => absurd hm hno, fun _ => rfl⟩
  refine Post.ite (fun _ => ⟨fun _ => rfl, fun _ => rfl⟩) fun _ =>
    Post.ite (fun _ => ?_) fun _ => hstay
  cases w.getComponent (C_Position F) m.receiver with
  | none => exact hstay
  | some pos => exact ⟨fun _ => rfl, fun _ => rfl⟩

/-- **The bus is discreet**, to any depth. -/
lemma discreet_dispatchN (n : ℕ) : Discreet (F := F) (dispatchN n) := by
  induction n with
  | zero => exact fun m w => trivial
  | succ n ih =>
    intro m w
    rw [dispatchN]
    refine Post.foldlM (I := Spared m w) (fun u sys _ hu => ?_) (Silent.refl w).spared
    have hnotify : Post (notify (dispatchN n) m u sys) (Spared m u) fun _ => True := by
      cases sys with
      | Network => exact network_notify_spared m u
      | Movement => exact movement_notify_spared m u
      | State => exact state_notify_spared ih m u
      | Combat => exact (combat_notify_silent ih m u).imp fun _ h => h.spared
      | Control => exact (Silent.refl u).spared
      | Collision => exact (Silent.refl u).spared
      | Timers => exact (Silent.refl u).spared
    exact hnotify.imp fun v hv => hu.trans hv

lemma dispatch_spared (m : Message) (w : Ecs F) :
    Post (Sfrpg.dispatch m w) (Spared m w) fun _ => True := discreet_dispatchN 4 m w

end Sfrpg
