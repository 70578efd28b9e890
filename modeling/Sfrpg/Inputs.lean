import Sfrpg.Turns
import Sfrpg.Wire

/-!
What a well-formed update packet leaves of a player's input.

The packet is a sequence of records, each followed by the delimiter. A record has its length from
its first byte, so a delimiter or a code inside a coordinate is read as a part of the coordinate.
-/

namespace Sfrpg

open Lib Lib.Word

namespace S_Network

/-- A record of an update packet, with values that fit. -/
inductive UpdateRecord
  | move (x y : ℤ) (hx : InInt32 x) (hy : InInt32 y)
  | attack (b : ℤ) (hb : -128 ≤ b ∧ b < 128)

namespace UpdateRecord

def code : UpdateRecord → ℤ
  | .move _ _ _ _ => EntityMessage.Move.id
  | .attack _ _ => EntityMessage.Attack.id

def body : UpdateRecord → List UInt8
  | .move x y _ _ => Packet.int32.put x ++ Packet.int32.put y
  | .attack b _ => Packet.int8.put b

/-- The record as it travels, with the delimiter. -/
def bytes (r : UpdateRecord) : List UInt8 :=
  Packet.int8.put r.code ++ (r.body ++ Packet.int8.put Network.PlayerUpdateDelim)

/-- What the loop of `updatePlayer` makes of it. -/
def message : UpdateRecord → InputMessage
  | .move x y _ _ => .move x y
  | .attack b _ => .attack b

def coordinates : UpdateRecord → Option (ℤ × ℤ)
  | .move x y _ _ => some (x, y)
  | .attack _ _ => none

def Strikes : UpdateRecord → Prop
  | .move _ _ _ _ => False
  | .attack b _ => b ≠ 0

end UpdateRecord

open UpdateRecord

/-- The payload of an update packet. -/
def payload (records : List UpdateRecord) : List UInt8 := records.flatMap bytes

/-- The coordinates of the last `Move`. -/
def lastMove (records : List UpdateRecord) : Option (ℤ × ℤ) :=
  (records.filterMap coordinates).getLast?

/-! ### One pass of the loop -/

/-- The bytes the loop of `updatePlayer` leaves unread, unless a read within a message fails. -/
def unreadAfter (u : ℤ) (n : ℕ) (data : List UInt8) : Packet.Unread := (readLoop u n data).2

lemma readLoop_succ (u : ℤ) (n : ℕ) (data : List UInt8) :
    readLoop u (n + 1) data = match Packet.getInt8 data with
      | none => ([], some data)
      | some (m, rest) => match Packet.readInt8 0 (readMessage u m rest).2 with
        | (delim, some rest') =>
          if delim = Network.PlayerUpdateDelim then
            ((readMessage u m rest).1 :: readMessages u n rest', unreadAfter u n rest')
          else ([(readMessage u m rest).1], some rest')
        | (_, none) => ([(readMessage u m rest).1], none) := rfl

lemma readInt8_put {x : ℤ} (hx : Packet.int8.Fits x) (y : ℤ) (rest : List UInt8) :
    Packet.readInt8 y (some (Packet.int8.put x ++ rest)) = (x, some rest) := by
  have hget : Packet.getInt8 (Packet.int8.put x ++ rest) = some (x, rest) :=
    Packet.int8.get_put x hx rest
  rw [Packet.readInt8, Option.bind_some, hget]

lemma readInt32_put {x : ℤ} (hx : InInt32 x) (y : ℤ) (rest : List UInt8) :
    Packet.readInt32 y (some (Packet.int32.put x ++ rest)) = (x, some rest) := by
  have hget : Packet.getInt32 (Packet.int32.put x ++ rest) = some (x, rest) :=
    Packet.int32.get_put x hx rest
  rw [Packet.readInt32, Option.bind_some, hget]

lemma code_fits (r : UpdateRecord) : Packet.int8.Fits r.code := by
  have hmove : (EntityMessage.Move.id : ℤ) = 0 := rfl
  have hattack : (EntityMessage.Attack.id : ℤ) = 6 := rfl
  show -128 ≤ r.code ∧ r.code < 128
  cases r with
  | move x y hx hy => exact ⟨by rw [code, hmove]; omega, by rw [code, hmove]; omega⟩
  | attack b hb => exact ⟨by rw [code, hattack]; omega, by rw [code, hattack]; omega⟩

lemma readMessage_body (u : ℤ) (r : UpdateRecord) (rest : List UInt8) :
    readMessage u r.code (r.body ++ rest) = (r.message, some rest) := by
  cases r with
  | move x y hx hy =>
    show readMessage u EntityMessage.Move.id (Packet.int32.put x ++ Packet.int32.put y ++ rest)
      = (.move x y, some rest)
    rw [readMessage, if_pos rfl, List.append_assoc, readInt32_put hx]
    dsimp only
    rw [readInt32_put hy]
  | attack b hb =>
    show readMessage u EntityMessage.Attack.id (Packet.int8.put b ++ rest) = (.attack b, some rest)
    rw [readMessage, if_neg (by decide), if_pos rfl, readInt8_put hb]

lemma read_record (u : ℤ) (r : UpdateRecord) (rest : List UInt8) : ∃ m tail,
    Packet.getInt8 (r.bytes ++ rest) = some (m, tail) ∧ (readMessage u m tail).1 = r.message ∧
      Packet.readInt8 0 (readMessage u m tail).2 = (Network.PlayerUpdateDelim, some rest) := by
  have hmsg := readMessage_body u r (Packet.int8.put Network.PlayerUpdateDelim ++ rest)
  refine ⟨r.code, r.body ++ (Packet.int8.put Network.PlayerUpdateDelim ++ rest), ?_, ?_, ?_⟩
  · rw [bytes, List.append_assoc, List.append_assoc]
    exact Packet.int8.get_put r.code (code_fits r) _
  · rw [hmsg]
  · rw [hmsg]
    exact readInt8_put ⟨by decide, by decide⟩ 0 rest

/-! ### The loop -/

lemma payload_cons (r : UpdateRecord) (records : List UpdateRecord) :
    payload (r :: records) = r.bytes ++ payload records := List.flatMap_cons

lemma read_append (u : ℤ) (n : ℕ) (records : List UpdateRecord) (rest : List UInt8) :
    readMessages u (records.length + n) (payload records ++ rest) =
        records.map message ++ readMessages u n rest ∧
      unreadAfter u (records.length + n) (payload records ++ rest) = unreadAfter u n rest := by
  induction records with
  | nil => simp [payload]
  | cons r records ih =>
    obtain ⟨m, tail, hget, hmsg, hdelim⟩ := read_record u r (payload records ++ rest)
    obtain ⟨hread, hunread⟩ := ih
    have hpass : readLoop u (records.length + n + 1) (r.bytes ++ (payload records ++ rest)) =
        (r.message :: readMessages u (records.length + n) (payload records ++ rest),
          unreadAfter u (records.length + n) (payload records ++ rest)) := by
      rw [readLoop_succ, hget]
      simp only [hdelim, if_true, hmsg]
    rw [hread, hunread] at hpass
    rw [List.length_cons, Nat.add_right_comm, payload_cons, List.append_assoc]
    exact Prod.mk.inj hpass

lemma read_payload (u : ℤ) {n : ℕ} {records : List UpdateRecord} (hn : records.length ≤ n) :
    readMessages u n (payload records) = records.map message ∧
      unreadAfter u n (payload records) = some [] := by
  obtain ⟨k, rfl⟩ := Nat.exists_eq_add_of_le hn
  have hempty : readMessages u k [] = [] ∧ unreadAfter u k [] = some [] := by
    cases k <;> exact ⟨rfl, rfl⟩
  obtain ⟨hread, hunread⟩ := read_append u k records []
  rw [List.append_nil] at hread hunread
  rw [hread, hunread, hempty.1, hempty.2, List.append_nil]
  exact ⟨rfl, rfl⟩

lemma length_le_payload (records : List UpdateRecord) :
    records.length ≤ (payload records).length := by
  induction records with
  | nil => exact le_rfl
  | cons r records ih =>
    have hpos : 1 ≤ r.bytes.length := by
      simp [bytes, Packet.int8]
    rw [payload_cons, List.length_append, List.length_cons]
    omega

lemma lastMove_cons (r : UpdateRecord) (records : List UpdateRecord) :
    lastMove (r :: records) = (lastMove records).or r.coordinates := by
  cases r with
  | move x y hx hy =>
    simp only [lastMove, coordinates, List.filterMap_cons]
    cases records.filterMap coordinates with
    | nil => rfl
    | cons p l => simp [List.getLast?_cons]
  | attack b hb => simp [lastMove, coordinates]

lemma foldl_record (records : List UpdateRecord) (player : PlayerInput) :
    let new := (records.map message).foldl record player
    (new.movedX, new.movedY) = (lastMove records).getD (player.movedX, player.movedY) ∧
      (new.attacking = true ↔ player.attacking = true ∨ ∃ r ∈ records, r.Strikes) := by
  induction records generalizing player with
  | nil => simp [lastMove]
  | cons r records ih =>
    obtain ⟨hmoved, hattack⟩ := ih (record player r.message)
    rw [lastMove_cons]
    cases r with
    | move x y hx hy =>
      refine ⟨?_, ?_⟩
      · rw [List.map_cons, List.foldl_cons, hmoved]
        cases lastMove records <;> rfl
      · rw [List.map_cons, List.foldl_cons, hattack]
        simp [record, message, Strikes]
    | attack b hb =>
      refine ⟨?_, ?_⟩
      · rw [List.map_cons, List.foldl_cons, hmoved]
        by_cases hzero : b = 0 <;> cases lastMove records <;>
          simp [record, message, hzero, coordinates]
      · rw [List.map_cons, List.foldl_cons, hattack]
        by_cases hzero : b = 0 <;> simp [record, message, Strikes, hzero]

/-! ### The packet -/

section Packets

variable {F : Type} {w : Ecs F} {client : ClientID} {e : EntityId}

lemma findEntity_mem {l : List EntityId} (h : findEntity client w l = .ok (some e)) : e ∈ l := by
  induction l with
  | nil => cases h
  | cons x l ih =>
    rw [findEntity] at h
    cases hc : w.getComponent C_Client x with
    | none =>
      rw [hc] at h
      cases h
    | some c =>
      rw [hc] at h
      change (if c.clientID = client then pure (some x) else findEntity client w l) = _ at h
      split at h
      · cases h
        exact List.mem_cons_self
      · exact List.mem_cons_of_mem x (ih h)

lemma hasEntity_of_getEntityId (h : getEntityId client w = .ok e) (hne : e ≠ -1) :
    w.hasEntity .Network e := by
  rw [getEntityId] at h
  cases hf : findEntity client w (w.members .Network) with
  | error f =>
    rw [hf] at h
    cases h
  | ok found =>
    rw [hf] at h
    cases found with
    | none =>
      cases h
      exact absurd rfl hne
    | some x =>
      cases h
      exact findEntity_mem hf

lemma updatePlayer_eq (u : ℤ) (data : List UInt8) (he : getEntityId client w = .ok e)
    (hne : e ≠ -1) :
    updatePlayer u data client w = .ok { w with
      input := w.input.insert e (newInput u data ((w.input.lookup e).getD ⟨0, 0, false⟩)) } := by
  rw [updatePlayer, he]
  change (if e = -1 then _ else _) = _
  rw [if_neg hne, if_neg (not_not.mpr (hasEntity_of_getEntityId he hne))]
  rfl

/-- **A well-formed packet is obeyed.** For every sequence of records, every client with an entity
and every previous input of that entity: `updatePlayer` leaves it the coordinates of the last
`Move`, or its own where there is none, has it attack exactly if some `Attack` is not zero, reads
the whole packet, and leaves every other input alone. -/
theorem updatePlayer_obeys (u : ℤ) (records : List UpdateRecord) (client : ClientID) (w : Ecs F)
    (e : EntityId) (he : getEntityId client w = .ok e) (hne : e ≠ -1) :
    let player := (w.input.lookup e).getD ⟨0, 0, false⟩
    ∃ w' new, updatePlayer u (payload records) client w = .ok w' ∧
      w'.input.lookup e = some new ∧
      (new.movedX, new.movedY) = (lastMove records).getD (player.movedX, player.movedY) ∧
      (new.attacking = true ↔ ∃ r ∈ records, r.Strikes) ∧
      unreadAfter u (payload records).length (payload records) = some [] ∧
      ∀ x, x ≠ e → w'.input.lookup x = w.input.lookup x := by
  intro player
  obtain ⟨hread, hunread⟩ := read_payload u (length_le_payload records)
  obtain ⟨hmoved, hattack⟩ := foldl_record records { player with attacking := false }
  have hnew : newInput u (payload records) player
      = (records.map message).foldl record { player with attacking := false } := by
    rw [newInput, hread]
  refine ⟨_, newInput u (payload records) player, updatePlayer_eq u _ he hne,
    AList.lookup_insert _, ?_, ?_, hunread, fun x hx => AList.lookup_insert_ne hx⟩
  · rw [hnew]
    exact hmoved
  · rw [hnew, hattack]
    simp

/-- An entity of client 7. -/
def onlyPlayer : Ecs ℚ :=
  (((Ecs.new ℚ).addEntity ⟨.Idle, 0, 0, false⟩ (Bitmask.empty.turnOnBit Component.Client.id)
    (-1)).1).overwrite 0 (.client ⟨7⟩)

/-- The bytes of the first coordinates are delimiters and the code of an attack. -/
def misleading : List UpdateRecord :=
  [.move (-1) 6 ⟨by decide, by decide⟩ ⟨by decide, by decide⟩, .attack 2 ⟨by decide, by decide⟩,
    .move 3 (-4) ⟨by decide, by decide⟩ ⟨by decide, by decide⟩]

theorem updatePlayer_obeys_misleading :
    ∃ w' new, updatePlayer 0 (payload misleading) 7 onlyPlayer = .ok w' ∧
      w'.input.lookup 0 = some new ∧ (new.movedX, new.movedY) = (3, -4) ∧
      new.attacking = true ∧ unreadAfter 0 (payload misleading).length (payload misleading)
        = some [] := by
  obtain ⟨w', new, hstep, hnew, hmoved, hattack, hunread, -⟩ :=
    updatePlayer_obeys 0 misleading 7 onlyPlayer 0 (by decide +kernel) (by decide)
  refine ⟨w', new, hstep, hnew, hmoved, hattack.mpr ?_, hunread⟩
  exact ⟨.attack 2 ⟨by decide, by decide⟩, by simp [misleading], show (2 : ℤ) ≠ 0 by decide⟩

end Packets

end S_Network

end Sfrpg
