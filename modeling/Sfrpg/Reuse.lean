import Sfrpg.Calls

/-!
What an entity inherits from those that had its id before.

A purge starts the ids over, and leaves the queues of events and the inputs as they are. To tell
what is inherited, the machine keeps a record beside it: when each stored entity was created, when
each waiting event was queued, and when the input of each player was recorded.
-/

namespace Sfrpg

open Lib Lib.Word Lib.Run Ecs

variable {F : Type}

/-! ### The record -/

namespace S_Network

/-- The entity an update packet is for. -/
def recipient (client : ClientID) (w : Ecs F) : Option EntityId :=
  match getEntityId client w with
  | .error _ => none
  | .ok e => if e = -1 ∨ ¬ w.hasEntity .Network e then none else some e

def InputMessage.isMove : InputMessage → Bool
  | .move _ _ => true
  | _ => false

/-- The packet says how the player moves. -/
def saysMove (u : ℤ) (data : List UInt8) : Bool :=
  (readMessages u data.length data).any InputMessage.isMove

end S_Network

/-- The times of a queue that has now `n` events: it is shortened in front and grows at its end. -/
def restamp (now : ℕ) (times : List ℕ) (n : ℕ) : List ℕ :=
  times.drop (times.length - n) ++ List.replicate (n - times.length) now

lemma length_restamp (now : ℕ) (times : List ℕ) (n : ℕ) : (restamp now times n).length = n := by
  rw [restamp, List.length_append, List.length_drop, List.length_replicate]
  omega

lemma mem_restamp {now n t : ℕ} {times : List ℕ} (h : t ∈ restamp now times n) :
    t ∈ times ∨ t = now := by
  rw [restamp, List.mem_append] at h
  rcases h with h | h
  · exact .inl (List.mem_of_mem_drop h)
  · exact .inr (List.eq_of_mem_replicate h)

/-- When entities were created, waiting events queued, and inputs recorded. -/
structure Ages where
  now : ℕ
  born : EntityId → ℕ
  queued : EntityId → List ℕ
  moved : EntityId → ℕ
  attacked : EntityId → ℕ

/-- The player wants to move. -/
def PlayerInput.Moves (player : PlayerInput) : Prop := player.movedX ≠ 0 ∨ player.movedY ≠ 0

namespace Ages

def new : Ages := ⟨0, fun _ => 0, fun _ => [], fun _ => 0, fun _ => 0⟩

def turn (g : Ages) (w : Ecs F) (i : Turn F) (u : Ecs F) : Ages where
  now := g.now + 1
  born e := if e ∉ w.entities ∧ e ∈ u.entities then g.now else g.born e
  queued e := restamp g.now (g.queued e) (queue e u).length
  moved e := match i with
    | .updatePlayer v data client =>
      if S_Network.recipient client w = some e ∧ S_Network.saysMove v data then g.now
      else g.moved e
    | _ => g.moved e
  attacked e := match i with
    | .updatePlayer _ _ client =>
      if S_Network.recipient client w = some e then g.now else g.attacked e
    | _ => g.attacked e

end Ages

variable [Field F] [LinearOrder F] [FloorRing F]

/-- The machine with its record. -/
def agedTurn (S : Setting F) : Ecs F × Ages → Turn F → Outcome (Ecs F × Ages) :=
  recorded (turn S) Ages.turn

/-! ### The requests of an update of `S_Network` -/

namespace S_Network

def updateOneTraced (w : Ecs F) (e : EntityId) : Outcome (Ecs F × List Message) :=
  match w.input.lookup e with
  | some player =>
    Trace.record ((requests e player).foldlM (fun w m => dispatch m w) w) (requests e player)
  | none => pure ({ w with input := w.input.insert e ⟨0, 0, false⟩ }, [])

/-- The update with the messages it sends. -/
def updateTraced (w : Ecs F) : Traced Fault (Ecs F) Message :=
  Trace.foldl updateOneTraced w (w.members .Network)

omit [FloorRing F] in
lemma forget_update (w : Ecs F) : Trace.forget (updateTraced w) = update w := by
  refine Trace.forget_foldl (fun u e => ?_) w _
  rw [updateOneTraced, updateOne]
  cases u.input.lookup e with
  | none => rfl
  | some player => exact Trace.forget_record _ _

lemma mem_requests {e : EntityId} {player : PlayerInput} {m : Message}
    (h : m ∈ requests e player) : m.receiver = e ∧
      ((m.type = .Move ∧ player.Moves) ∨
        (m.type = .Attack ∧ player.attacking = true)) := by
  rw [requests, List.mem_append, List.mem_append] at h
  rcases h with (h | h) | h
  · split at h
    · next hx =>
      rw [List.mem_singleton.mp h]
      exact ⟨rfl, .inl ⟨rfl, .inl hx⟩⟩
    · simp at h
  · split at h
    · next hy =>
      rw [List.mem_singleton.mp h]
      exact ⟨rfl, .inl ⟨rfl, .inr hy⟩⟩
    · simp at h
  · split at h
    · next ha =>
      rw [List.mem_singleton.mp h]
      exact ⟨rfl, .inr ⟨rfl, ha⟩⟩
    · simp at h

/-- The message was asked for by an input that was there beforehand. -/
def Asked (w : Ecs F) (m : Message) : Prop :=
  m.receiver ∈ w.members .Network ∧ ∃ player, w.input.lookup m.receiver = some player ∧
    m ∈ requests m.receiver player

omit [FloorRing F] in
lemma updateTraced_post {w : Ecs F} (hw : Consistent w) :
    Post (updateTraced w) (fun p => ∀ m ∈ p.2, Asked w m) (· = .uninitialised) := by
  have h : Post (updateTraced w) (fun p => Effects Played w p.1 ∧ ∀ m ∈ p.2, Asked w m)
      (· = .uninitialised) := by
    refine Trace.post_foldl (I := fun s a => Effects Played w s ∧ ∀ m ∈ a, Asked w m) (a := [])
      (fun s a e he hs => ?_) ⟨.refl, by simp⟩
    obtain ⟨heff, hasked⟩ := hs
    unfold updateOneTraced
    cases hin : s.input.lookup e with
    | none =>
      refine ⟨heff.tail (.neutral e hin), ?_⟩
      simpa using hasked
    | some player =>
      rw [Trace.post_record]
      have hloop : Post ((requests e player).foldlM (fun w m => dispatch m w) s)
          (Effects Played w) (· = .uninitialised) := by
        refine Post.foldlM (fun v m _ hv => ?_) heff
        exact (dispatch_post (hv.consistent hw) m).imp fun v' hv' =>
          hv.trans (hv'.mono struck_played)
      refine hloop.imp fun v hv => ⟨hv, fun m hm => ?_⟩
      rcases List.mem_append.mp hm with hm | hm
      · exact hasked m hm
      · obtain ⟨rfl, -⟩ := mem_requests hm
        refine ⟨he, ?_⟩
        rcases heff.input hin with hold | rfl
        · exact ⟨player, hold, hm⟩
        · simp [requests] at hm
  exact h.imp fun p hp => hp.2

end S_Network

/-! ### Nothing inherited -/

/-- Nothing waits under the id. -/
def Vacant (w : Ecs F) (e : EntityId) : Prop :=
  queue e w = [] ∧ ∀ player, w.input.lookup e = some player → player = ⟨0, 0, false⟩

/-- Where the step creates an entity, nothing waits under its id. -/
def Cleared (w : Ecs F) : Turn F → Prop
  | .store (.addEntity _ _ l_id) => nextId l_id w ∉ w.entities → Vacant w (nextId l_id w)
  | _ => True

/-- Events that are handed out were queued, and requests that are sent were recorded, after the
entity they are for was created. -/
def Own (p : Ecs F × Ages) : Turn F → Prop
  | .handleEvents systems keys => systems.Nodup → keys.Nodup → ∀ u log,
      handleEventsTraced p.1.backlog systems keys p.1 = .ok (u, log) → ∀ sys e,
        ∀ event ∈ (received sys e log).zip (p.2.queued e), p.2.born e ≤ event.2
  | .update .Network _ => ∀ u log, S_Network.updateTraced p.1 = .ok (u, log) → ∀ m ∈ log,
      (m.type = .Move → p.2.born m.receiver ≤ p.2.moved m.receiver) ∧
      (m.type = .Attack → p.2.born m.receiver ≤ p.2.attacked m.receiver)
  | _ => True

/-- What is recorded of a stored entity is later than its creation. -/
structure Aged (w : Ecs F) (g : Ages) : Prop where
  born : ∀ e, g.born e ≤ g.now
  length : ∀ e, (g.queued e).length = (queue e w).length
  events : ∀ e ∈ w.entities, ∀ t ∈ g.queued e, g.born e ≤ t
  moved : ∀ e ∈ w.entities, ∀ player, w.input.lookup e = some player →
    player.Moves → g.born e ≤ g.moved e
  attacked : ∀ e ∈ w.entities, ∀ player, w.input.lookup e = some player →
    player.attacking = true → g.born e ≤ g.attacked e

/-! ### What a packet does to the inputs -/

section Steps

variable {w u : Ecs F}

omit [FloorRing F] [LinearOrder F] [Field F] in
lemma updatePlayer_cases {v : ℤ} {data : List UInt8} {client : ClientID}
    (h : S_Network.updatePlayer v data client w = .ok u) :
    (S_Network.recipient client w = none ∧ u = w) ∨
    ∃ e, S_Network.recipient client w = some e ∧ u = { w with
      input := w.input.insert e
        (S_Network.newInput v data ((w.input.lookup e).getD ⟨0, 0, false⟩)) } := by
  unfold S_Network.updatePlayer at h
  unfold S_Network.recipient
  cases he : S_Network.getEntityId client w with
  | error f =>
    rw [he] at h
    cases h
  | ok e =>
    rw [he, ok_bind] at h
    dsimp only
    by_cases hnull : e = -1
    · rw [if_pos hnull] at h
      cases h
      exact .inl ⟨by rw [if_pos (.inl hnull)], rfl⟩
    rw [if_neg hnull] at h
    by_cases hmem : w.hasEntity .Network e
    · rw [if_neg (not_not.mpr hmem)] at h
      cases h
      exact .inr ⟨e, by rw [if_neg (by simp [hnull, hmem])], rfl⟩
    · rw [if_pos hmem] at h
      cases h
      exact .inl ⟨by rw [if_pos (.inr hmem)], rfl⟩

lemma foldl_record_moved {l : List S_Network.InputMessage} (hl : l.any (·.isMove) = false)
    (player : PlayerInput) : (l.foldl S_Network.record player).movedX = player.movedX ∧
      (l.foldl S_Network.record player).movedY = player.movedY := by
  induction l generalizing player with
  | nil => exact ⟨rfl, rfl⟩
  | cons m l ih =>
    rw [List.any_cons, Bool.or_eq_false_iff] at hl
    obtain ⟨hm, hl⟩ := hl
    have hsame : (S_Network.record player m).movedX = player.movedX ∧
        (S_Network.record player m).movedY = player.movedY := by
      cases m with
      | move x y => cases hm
      | attack a =>
        rw [S_Network.record]
        split <;> exact ⟨rfl, rfl⟩
      | other => exact ⟨rfl, rfl⟩
    obtain ⟨hx, hy⟩ := ih hl (S_Network.record player m)
    exact ⟨hx.trans hsame.1, hy.trans hsame.2⟩

lemma newInput_moved {v : ℤ} {data : List UInt8} (h : S_Network.saysMove v data = false)
    (player : PlayerInput) : (S_Network.newInput v data player).movedX = player.movedX ∧
      (S_Network.newInput v data player).movedY = player.movedY :=
  foldl_record_moved h _

end Steps

/-! ### Every run -/

section Runs

variable {S : Setting F} {w u : Ecs F} {i : Turn F} {g : Ages}

omit [Field F] [LinearOrder F] [FloorRing F] in
/-- A step that creates entities under vacant ids only, and after which every input is as it was or
is recorded as new. -/
lemma Aged.step (h : Aged w g) (hnew : ∀ e ∈ u.entities, e ∉ w.entities → Vacant w e)
    (hmoved : ∀ e player, u.input.lookup e = some player → player.Moves →
      (g.turn w i u).moved e = g.now ∨ ((g.turn w i u).moved e = g.moved e ∧
        ∃ player, w.input.lookup e = some player ∧ player.Moves))
    (hattacked : ∀ e player, u.input.lookup e = some player → player.attacking = true →
      (g.turn w i u).attacked e = g.now ∨ ((g.turn w i u).attacked e = g.attacked e ∧
        ∃ player, w.input.lookup e = some player ∧ player.attacking = true)) :
    Aged u (g.turn w i u) := by
  have hborn : ∀ e, (g.turn w i u).born e ≤ g.now := by
    intro e
    show (if _ then g.now else g.born e) ≤ g.now
    have hle := h.born e
    split <;> omega
  have hold : ∀ e, e ∈ w.entities → (g.turn w i u).born e = g.born e :=
    fun e he => if_neg fun hno => hno.1 he
  refine ⟨fun e => (hborn e).trans (Nat.le_succ _), fun e => length_restamp _ _ _,
    fun e he t ht => ?_, fun e he player hp hm => ?_, fun e he player hp ha => ?_⟩
  · rcases mem_restamp ht with ht | rfl
    · by_cases hw : e ∈ w.entities
      · rw [hold e hw]
        exact h.events e hw t ht
      · have hnone : g.queued e = [] := by
          rw [← List.length_eq_zero_iff, h.length e, (hnew e he hw).1]
          rfl
        rw [hnone] at ht
        simp at ht
    · exact hborn e
  · rcases hmoved e player hp hm with hnow | ⟨hsame, before, hbefore, hmoves⟩
    · rw [hnow]
      exact hborn e
    · by_cases hw : e ∈ w.entities
      · rw [hold e hw, hsame]
        exact h.moved e hw before hbefore hmoves
      · rw [(hnew e he hw).2 before hbefore] at hmoves
        simp [PlayerInput.Moves] at hmoves
  · rcases hattacked e player hp ha with hnow | ⟨hsame, before, hbefore, hattacks⟩
    · rw [hnow]
      exact hborn e
    · by_cases hw : e ∈ w.entities
      · rw [hold e hw, hsame]
        exact h.attacked e hw before hbefore hattacks
      · rw [(hnew e he hw).2 before hbefore] at hattacks
        cases hattacks

omit [Field F] [LinearOrder F] [FloorRing F] in
lemma Aged.unfed (h : Aged w g) (hnew : ∀ e ∈ u.entities, e ∉ w.entities → Vacant w e)
    (hin : ∀ e player, u.input.lookup e = some player →
      w.input.lookup e = some player ∨ player = ⟨0, 0, false⟩)
    (hpacket : ∀ v data client, i ≠ .updatePlayer v data client) : Aged u (g.turn w i u) := by
  have hsame : (g.turn w i u).moved = g.moved ∧ (g.turn w i u).attacked = g.attacked := by
    cases i with
    | updatePlayer v data client => exact absurd rfl (hpacket v data client)
    | _ => exact ⟨rfl, rfl⟩
  refine h.step hnew (fun e player hp hm => .inr ⟨by rw [hsame.1], ?_⟩)
    fun e player hp ha => .inr ⟨by rw [hsame.2], ?_⟩
  · rcases hin e player hp with hold | rfl
    · exact ⟨player, hold, hm⟩
    · simp [PlayerInput.Moves] at hm
  · rcases hin e player hp with hold | rfl
    · exact ⟨player, hold, ha⟩
    · cases ha

omit [Field F] [LinearOrder F] [FloorRing F] in
lemma Aged.fed (h : Aged w g) {v : ℤ} {data : List UInt8} {client : ClientID}
    (hu : S_Network.updatePlayer v data client w = .ok u) :
    Aged u (g.turn w (.updatePlayer v data client) u) := by
  rcases updatePlayer_cases hu with ⟨hnone, rfl⟩ | ⟨x, hx, rfl⟩
  · refine h.step (fun e he hno => absurd he hno) (fun e player hp hm => .inr ⟨?_, player, hp, hm⟩)
      fun e player hp ha => .inr ⟨?_, player, hp, ha⟩
    · exact if_neg fun hc => by simp [hnone] at hc
    · exact if_neg fun hc => by simp [hnone] at hc
  refine h.step (fun e he hno => absurd he hno) (fun e player hp hm => ?_)
    fun e player hp ha => ?_
  · by_cases he : e = x
    · subst he
      rw [AList.lookup_insert] at hp
      cases hp
      by_cases hword : S_Network.saysMove v data = true
      · exact .inl (if_pos ⟨hx, hword⟩)
      · right
        obtain ⟨hX, hY⟩ := newInput_moved (by simpa using hword)
          ((w.input.lookup e).getD ⟨0, 0, false⟩)
        refine ⟨if_neg fun hc => hword hc.2, ?_⟩
        rw [PlayerInput.Moves, hX, hY] at hm
        cases hold : w.input.lookup e with
        | none =>
          rw [hold] at hm
          simp at hm
        | some before =>
          rw [hold] at hm
          exact ⟨before, rfl, hm⟩
    · rw [AList.lookup_insert_ne he] at hp
      refine .inr ⟨if_neg fun hc => he ?_, player, hp, hm⟩
      exact Option.some.inj (hc.1.symm.trans hx)
  · by_cases he : e = x
    · subst he
      exact .inl (if_pos hx)
    · rw [AList.lookup_insert_ne he] at hp
      refine .inr ⟨if_neg fun hc => he ?_, player, hp, ha⟩
      exact Option.some.inj (hc.symm.trans hx)

/-- **A step that creates nothing under an id where something waits.** -/
lemma Aged.turn (h : Aged w g) (hw : Consistent w) (hi : Cleared w i)
    (hu : Sfrpg.turn S w i = .ok u) : Aged u (g.turn w i u) := by
  by_cases hpacket : ∃ v data client, i = .updatePlayer v data client
  · obtain ⟨v, data, client, rfl⟩ := hpacket
    exact h.fed hu
  have hno : ∀ v data client, i ≠ .updatePlayer v data client :=
    fun v data client hc => hpacket ⟨v, data, client, hc⟩
  by_cases hstore : ∃ call, i = .store call
  · obtain ⟨call, rfl⟩ := hstore
    obtain ⟨hent, hin⟩ := storeStep_cases hu
    refine h.unfed (fun e he hnot => ?_) (fun e player hp => .inl (hin e player hp)) hno
    rcases hent with ⟨v, bits, l_id, rfl, hc⟩ | hsub
    · have heq : e = nextId l_id w := by
        rw [AList.mem_keys, hc.keys, List.mem_cons, ← AList.mem_keys] at he
        exact he.resolve_right hnot
      rw [heq]
      exact hi hc.fresh
    · exact absurd (hsub e he) hnot
  · obtain ⟨hkeys, hin⟩ := turn_effects hw hu (fun call hc => hstore ⟨call, hc⟩) hno
    refine h.unfed (fun e he hnot => ?_) hin hno
    rw [AList.mem_keys, hkeys, ← AList.mem_keys] at he
    exact absurd he hnot

omit [FloorRing F] in
lemma Aged.own (h : Aged w g) (hw : Consistent w) (i : Turn F) : Own (w, g) i := by
  cases i with
  | handleEvents systems keys =>
    intro hs hk u log hrun sys e event hmem
    obtain ⟨-, -, hlog, -⟩ := (handleEvents_post systems w.backlog keys hw fun x =>
      queue_le_backlog x w).ok hrun
    rw [received_schedule hs hk (hlog hk)] at hmem
    split at hmem
    · next hheld =>
      obtain ⟨d, hd, -⟩ := (hw.mem sys e).mp hheld.2.2
      exact h.events e (Dict.mem_of_lookup hd) event.2 (List.of_mem_zip hmem).2
    · simp at hmem
  | update sys dT =>
    cases sys with
    | Network =>
      intro u log hrun m hm
      obtain ⟨hmem, player, hp, hreq⟩ := (S_Network.updateTraced_post hw).ok hrun m hm
      obtain ⟨d, hd, -⟩ := (hw.mem .Network m.receiver).mp hmem
      have hstored := Dict.mem_of_lookup hd
      have hne : EntityMessage.Move ≠ .Attack := by decide
      obtain ⟨-, ⟨htype, hmoves⟩ | ⟨htype, hattacks⟩⟩ := S_Network.mem_requests hreq
      · refine ⟨fun _ => h.moved _ hstored player hp hmoves, fun hattack => ?_⟩
        exact absurd (htype.symm.trans hattack) hne
      · refine ⟨fun hmove => ?_, fun _ => h.attacked _ hstored player hp hattacks⟩
        exact absurd (hmove.symm.trans htype) hne
    | _ => trivial
  | _ => trivial

end Runs

/-- **Nothing is inherited** in a run each step of which, where it creates an entity, finds no event
and no input waiting under its id: every event handed out was queued, and every request of
`S_Network` recorded, after the entity it is for was created. -/
theorem nothing_inherited (S : Setting F) (turns : List (Turn F))
    (h : AlongE (turn S) Cleared (new F) turns) :
    AlongE (agedTurn S) Own (new F, .new) turns := by
  have hrun : AlongE (recorded (turn S) Ages.turn) (fun p i => Cleared p.1 i)
      (new F, Ages.new) turns := AlongE.recorded (p := (new F, Ages.new)) h
  refine hrun.imp (I := fun p => Consistent p.1 ∧ Aged p.1 p.2) ?_ ?_ ?_
  · rintro p i q ⟨hw, hg⟩ hi hq
    obtain ⟨hstep, hrec⟩ := recorded_ok.mp hq
    refine ⟨consistent_turn S hw hstep, ?_⟩
    rw [hrec]
    exact hg.turn hw hi hstep
  · rintro ⟨w, g⟩ i ⟨hw, hg⟩ -
    exact hg.own hw i
  · exact ⟨consistent_new, fun _ => le_rfl, fun _ => rfl, by simp [new], by simp [new],
      by simp [new]⟩

/-- A player who can be told apart by a state only. -/
def playerMask : Bitmask :=
  (Bitmask.empty.turnOnBit Component.Client.id).turnOnBit Component.State.id

def addPlayer : Turn ℚ := .store (.addEntity ⟨.Idle, 1, 1, false⟩ playerMask (-1))

/-- A player joins, moves to the right, and all are disconnected; then the next one joins. -/
def succession : List (Turn ℚ) :=
  [addPlayer, .write 0 (.client ⟨7⟩), .updatePlayer 0 [0, 0, 0, 0, 1, 0, 0, 0, 0, 255] 7,
    .store .purge, addPlayer]

/-- The world the second player finds. -/
def inherited : Ecs ℚ × Ages :=
  match runE (agedTurn (Setting.empty ℚ)) (new ℚ, Ages.new) succession with
  | .ok p => p
  | .error _ => (new ℚ, Ages.new)

lemma inherited_reached :
    runE (agedTurn (Setting.empty ℚ)) (new ℚ, Ages.new) succession = .ok inherited := by
  rfl

/-- The second player is announced twice, and walks off to the right. -/
theorem inherits_events_and_input :
    (¬ AlongE (agedTurn (Setting.empty ℚ)) Own (new ℚ, Ages.new)
      (succession ++ [.handleEvents [.State] [0]])) ∧
    ¬ AlongE (agedTurn (Setting.empty ℚ)) Own (new ℚ, Ages.new)
      (succession ++ [.update .Network 16]) := by
  have hborn : inherited.2.born 0 = 4 := by decide +kernel
  have hplain : runE (turn (Setting.empty ℚ)) (new ℚ) succession = .ok inherited.1 := by rfl
  have hc := consistent_reached hplain
  constructor
  · intro h
    obtain ⟨⟨u, log⟩, hrun, -, -, hlog, -⟩ := (handleEvents_post [.State] inherited.1.backlog [0] hc
      fun x => queue_le_backlog x inherited.1).exists_ok
    have hown := h.last inherited_reached (by decide) (by decide) u log hrun .State 0
    rw [received_schedule (by decide) (by decide) (hlog (by decide))] at hown
    have hold : (EntityEvent.Spawned.id, 0) ∈ (if (0 : EntityId) ∈ ([0] : List EntityId) ∧
        System.State ∈ [System.State] ∧ inherited.1.hasEntity .State 0 then queue 0 inherited.1
        else []).zip (inherited.2.queued 0) := by decide +kernel
    have hle := hown _ hold
    rw [hborn] at hle
    exact absurd hle (by decide)
  · intro h
    have hmoved : inherited.2.moved 0 = 2 := by decide +kernel
    have hsent : (S_Network.updateTraced inherited.1).toOption.map (fun p =>
        p.2.map fun m => (m.type, m.receiver)) = some [(.Move, 0)] := by decide +kernel
    obtain ⟨p, hrun, hlog⟩ := Option.map_eq_some_iff.mp hsent
    obtain ⟨m, hm, hmove⟩ := List.map_eq_singleton_iff.mp hlog
    obtain ⟨htype, hreceiver⟩ := Prod.mk.inj hmove
    cases hup : S_Network.updateTraced inherited.1 with
    | error f =>
      rw [hup] at hrun
      cases hrun
    | ok q =>
      rw [hup] at hrun
      obtain rfl : q = p := Option.some.inj hrun
      have hle := (h.last inherited_reached q.1 q.2 hup m (by rw [hm]; simp)).1 htype
      simp only [hreceiver, hborn, hmoved] at hle
      exact absurd hle (by decide)

/-- The first player once its events have been handed out. -/
def settled : Ecs ℚ :=
  match runE (turn (Setting.empty ℚ)) (new ℚ) [addPlayer, .handleEvents [.State] [0]] with
  | .ok w => w
  | .error _ => new ℚ

/-- The next one then finds only its own. -/
theorem nothing_inherited_settled :
    AlongE (agedTurn (Setting.empty ℚ)) Own (new ℚ, Ages.new)
      [addPlayer, .handleEvents [.State] [0], .store .purge, addPlayer,
        .handleEvents [.State] [0]] := by
  have hqueue : queue 0 settled.purge = [] := by decide +kernel
  have hinput : settled.purge.input.lookup 0 = none := by decide +kernel
  have hid : nextId (-1) settled.purge = 0 := by decide +kernel
  refine nothing_inherited _ _ ⟨fun _ => ⟨by decide, fun _ h => nomatch h⟩, fun t ht => ?_⟩
  refine ⟨trivial, fun t' ht' => ⟨trivial, fun t'' ht'' => ?_⟩⟩
  have hsettled : runE (turn (Setting.empty ℚ)) (new ℚ)
      [addPlayer, .handleEvents [.State] [0]] = .ok settled := by rfl
  obtain rfl : t' = settled := by
    rw [runE, ht] at hsettled
    simp only [runE, ht'] at hsettled
    exact Except.ok.inj hsettled
  obtain rfl : settled.purge = t'' := Except.ok.inj ht''
  refine ⟨fun _ => ?_, fun v _ => ⟨trivial, fun _ _ => trivial⟩⟩
  rw [hid]
  refine ⟨hqueue, fun player h => ?_⟩
  rw [hinput] at h
  cases h

end Sfrpg
