import Sfrpg.Inputs

/-!
What a faulty update packet leaves of a player's input.

The loop stores what a record says before it looks for the delimiter, and does not ask whether the
fields of the record were there. So the last record of a faulty packet counts as far as it goes, and
where it breaks off, the variables that the packet has not set count in its place.
-/

namespace Sfrpg

open Lib Lib.Word

namespace S_Network

/-- The record as it travels, without the delimiter. -/
def UpdateRecord.fields (r : UpdateRecord) : List UInt8 := Packet.int8.put r.code ++ r.body

open UpdateRecord

/-- What a faulty packet has behind its last delimiter: a record that breaks off, or a record with
something else than the delimiter behind it. -/
inductive FaultyTail
  | cut (r : UpdateRecord) (n : ℕ) (hn : 0 < n ∧ n < r.fields.length)
  | undelimited (r : UpdateRecord) (rest : List UInt8)
      (hrest : ∀ x more, Packet.getInt8 rest = some (x, more) → x ≠ Network.PlayerUpdateDelim)

namespace FaultyTail

def bytes : FaultyTail → List UInt8
  | .cut r n _ => r.fields.take n
  | .undelimited r rest _ => r.fields ++ rest

/-- The record is whole, and says what the records before it have said, or the player's input. -/
def Harmless (records : List UpdateRecord) (player : PlayerInput) : FaultyTail → Prop
  | .cut _ _ _ => False
  | .undelimited (.move x y _ _) _ _ =>
    (x, y) = (lastMove records).getD (player.movedX, player.movedY)
  | .undelimited (.attack b _) _ _ => b ≠ 0 → ∃ r ∈ records, r.Strikes

end FaultyTail

/-- In every pass of the loop of `updatePlayer` the packet sets the variables the record is read
into. -/
def Supplied (u : ℤ) : ℕ → List UInt8 → Prop
  | 0, _ => True
  | n + 1, data =>
    match Packet.getInt8 data with
    | none => True
    | some (m, rest) =>
      (readMessage u m rest).2.isSome = true ∧
        match Packet.readInt8 0 (readMessage u m rest).2 with
        | (delim, some rest) =>
          if delim = Network.PlayerUpdateDelim then Supplied u n rest else True
        | (_, none) => True

/-! ### The records before the tail -/

lemma supplied_append (u : ℤ) (n : ℕ) (records : List UpdateRecord) (rest : List UInt8) :
    Supplied u (records.length + n) (payload records ++ rest) ↔ Supplied u n rest := by
  induction records with
  | nil => simp [payload]
  | cons r records ih =>
    obtain ⟨m, tail, hget, -, hdelim⟩ := read_record u r (payload records ++ rest)
    have hsome : (readMessage u m tail).2.isSome = true := by
      cases hunread : (readMessage u m tail).2 with
      | none => simp [hunread, Packet.readInt8] at hdelim
      | some l => rfl
    rw [List.length_cons, Nat.add_right_comm, Supplied, payload_cons, List.append_assoc, hget]
    simp only [hdelim, if_true, hsome, true_and]
    exact ih

/-! ### The tail -/

lemma read_undelimited (u : ℤ) (n : ℕ) (r : UpdateRecord) {rest : List UInt8}
    (hrest : ∀ x more, Packet.getInt8 rest = some (x, more) → x ≠ Network.PlayerUpdateDelim) :
    readMessages u (n + 1) (r.fields ++ rest) = [r.message] ∧
      Supplied u (n + 1) (r.fields ++ rest) := by
  have hget : Packet.getInt8 (r.fields ++ rest) = some (r.code, r.body ++ rest) := by
    rw [fields, List.append_assoc]
    exact Packet.int8.get_put r.code (code_fits r) _
  have hmsg := readMessage_body u r rest
  rw [readMessages, readLoop_succ, Supplied, hget]
  simp only [hmsg, Option.isSome_some, true_and]
  cases hdelim : Packet.getInt8 rest with
  | none => simp [Packet.readInt8, hdelim]
  | some p =>
    obtain ⟨x, more⟩ := p
    have hne := hrest x more hdelim
    simp [Packet.readInt8, hdelim, hne]

lemma length_of_getInt32 {l rest : List UInt8} {x : ℤ} (h : Packet.getInt32 l = some (x, rest)) :
    rest.length + 4 = l.length := by
  unfold Packet.getInt32 at h
  split at h
  · rw [Option.some.injEq, Prod.mk.injEq] at h
    rw [← h.2]
    rfl
  · cases h

lemma readInt32_twice {l : List UInt8} (hl : l.length < 8) (x y : ℤ) :
    (Packet.readInt32 y (Packet.readInt32 x (some l)).2).2 = none := by
  rw [Packet.readInt32, Packet.readInt32, Option.bind_some]
  cases hfirst : Packet.getInt32 l with
  | none => rfl
  | some p =>
    obtain ⟨x', rest⟩ := p
    have hrest := length_of_getInt32 hfirst
    dsimp only
    rw [Option.bind_some]
    cases hsecond : Packet.getInt32 rest with
    | none => rfl
    | some q =>
      have hmore := length_of_getInt32 hsecond
      omega

lemma not_supplied_cut (u : ℤ) (n : ℕ) (r : UpdateRecord) {k : ℕ}
    (hk : 0 < k ∧ k < r.fields.length) : ¬ Supplied u (n + 1) (r.fields.take k) := by
  obtain ⟨k, rfl⟩ : ∃ j, k = j + 1 := ⟨k - 1, by omega⟩
  have hget : Packet.getInt8 (r.fields.take (k + 1)) = some (r.code, r.body.take k) :=
    Packet.int8.get_put r.code (code_fits r) _
  have hlen : (r.body.take k).length < r.body.length := by
    have hfields : r.fields.length = r.body.length + 1 := by
      rw [fields, List.length_append, Nat.add_comm]
      rfl
    rw [List.length_take]
    omega
  suffices hnone : (readMessage u r.code (r.body.take k)).2 = none by
    rw [Supplied, hget]
    rintro ⟨hsome, -⟩
    rw [hnone] at hsome
    cases hsome
  cases r with
  | move x y hx hy => exact readInt32_twice hlen 0 0
  | attack b hb =>
    have hnil : (UpdateRecord.attack b hb).body.take k = [] :=
      List.length_eq_zero_iff.mp (Nat.lt_one_iff.mp hlen)
    rw [hnil]
    rfl

/-! ### The packet -/

section Packets

variable {F : Type} {w : Ecs F} {client : ClientID} {e : EntityId}

lemma updatePlayer_congr_iff (u : ℤ) (data data' : List UInt8) (he : getEntityId client w = .ok e)
    (hne : e ≠ -1) :
    updatePlayer u data client w = updatePlayer u data' client w ↔
      newInput u data ((w.input.lookup e).getD ⟨0, 0, false⟩) =
        newInput u data' ((w.input.lookup e).getD ⟨0, 0, false⟩) := by
  rw [updatePlayer_eq u data he hne, updatePlayer_eq u data' he hne]
  constructor
  · intro h
    have hinput := congrArg (fun v : Ecs F => v.input.lookup e) (Except.ok.inj h)
    dsimp only at hinput
    rw [AList.lookup_insert, AList.lookup_insert] at hinput
    exact Option.some.inj hinput
  · intro h
    rw [h]

lemma newInput_payload (u : ℤ) (records : List UpdateRecord) (player : PlayerInput) :
    newInput u (payload records) player =
      (records.map message).foldl record { player with attacking := false } := by
  rw [newInput, (read_payload u (length_le_payload records)).1]

lemma exists_passes (records : List UpdateRecord) (data : List UInt8) (hdata : 0 < data.length) :
    ∃ n, (payload records ++ data).length = records.length + (n + 1) := by
  have hle := length_le_payload records
  refine ⟨(payload records).length + data.length - records.length - 1, ?_⟩
  rw [List.length_append]
  omega

lemma newInput_undelimited (u : ℤ) (records : List UpdateRecord) (r : UpdateRecord)
    {rest : List UInt8}
    (hrest : ∀ x more, Packet.getInt8 rest = some (x, more) → x ≠ Network.PlayerUpdateDelim)
    (player : PlayerInput) :
    newInput u (payload records ++ (r.fields ++ rest)) player =
      record (newInput u (payload records) player) r.message := by
  obtain ⟨n, hn⟩ := exists_passes records (r.fields ++ rest) (by simp [fields, Packet.int8])
  rw [newInput, hn, (read_append u (n + 1) records _).1, (read_undelimited u n r hrest).1,
    List.foldl_append, newInput_payload]
  rfl

lemma record_eq_iff (r : UpdateRecord) (player : PlayerInput) :
    record player r.message = player ↔
      (∀ p ∈ r.coordinates, p = (player.movedX, player.movedY)) ∧
        (r.Strikes → player.attacking = true) := by
  obtain ⟨x₀, y₀, attacking⟩ := player
  cases r with
  | move x y hx hy => simp [record, message, coordinates, Strikes]
  | attack b hb =>
    by_cases hzero : b = 0
    · simp [record, message, coordinates, Strikes, hzero]
    · simp [record, message, coordinates, Strikes, hzero, eq_comm]

/-- **A faulty tail is harmless** exactly if it is a whole record that says nothing new. For every
sequence of records, every faulty tail behind them, every client with an entity and every previous
input of that entity: `updatePlayer` leaves what the records alone would, and reads no variable that
the packet has not set, exactly then. -/
theorem updatePlayer_faulty_iff (u : ℤ) (records : List UpdateRecord) (tail : FaultyTail)
    (client : ClientID) (w : Ecs F) (e : EntityId) (he : getEntityId client w = .ok e)
    (hne : e ≠ -1) :
    let data := payload records ++ tail.bytes
    (updatePlayer u data client w = updatePlayer u (payload records) client w ∧
      Supplied u data.length data) ↔
      tail.Harmless records ((w.input.lookup e).getD ⟨0, 0, false⟩) := by
  dsimp only
  rw [updatePlayer_congr_iff u _ (payload records) he hne]
  set player := (w.input.lookup e).getD ⟨0, 0, false⟩
  cases tail with
  | cut r k hk =>
    obtain ⟨n, hn⟩ := exists_passes records (r.fields.take k)
      (by rw [List.length_take]; omega)
    refine iff_of_false (fun h => ?_) id
    have hsupplied : Supplied u (records.length + (n + 1)) (payload records ++ r.fields.take k) :=
      hn ▸ h.2
    exact not_supplied_cut u n r hk ((supplied_append u (n + 1) records _).mp hsupplied)
  | undelimited r rest hrest =>
    obtain ⟨n, hn⟩ := exists_passes records (r.fields ++ rest)
      (by simp [fields, Packet.int8])
    have hsupplied : Supplied u (payload records ++ (r.fields ++ rest)).length
        (payload records ++ (r.fields ++ rest)) := by
      rw [hn, supplied_append]
      exact (read_undelimited u n r hrest).2
    obtain ⟨hmoved, hattack⟩ := foldl_record records { player with attacking := false }
    rw [← newInput_payload u] at hmoved hattack
    rw [FaultyTail.bytes, and_iff_left hsupplied, newInput_undelimited u records r hrest,
      record_eq_iff, hmoved, hattack]
    cases r with
    | move x y hx hy => simp [coordinates, Strikes, FaultyTail.Harmless]
    | attack b hb => simp [coordinates, Strikes, FaultyTail.Harmless]

/-- The last coordinates repeated, with nothing behind them. -/
theorem updatePlayer_faulty_repeated :
    updatePlayer 0 (payload misleading ++ (FaultyTail.undelimited
        (.move 3 (-4) ⟨by decide, by decide⟩ ⟨by decide, by decide⟩)
        [] (fun _ _ h => by cases h)).bytes)
        7 onlyPlayer = updatePlayer 0 (payload misleading) 7 onlyPlayer :=
  ((updatePlayer_faulty_iff 0 misleading (.undelimited
    (.move 3 (-4) ⟨by decide, by decide⟩ ⟨by decide, by decide⟩) [] (fun _ _ h => by cases h))
    7 onlyPlayer 0 (by decide +kernel) (by decide)).mpr rfl).1

/-- The code of a `Move` alone, behind a `Move`, sends the player back to the origin. -/
theorem cut_move_stored :
    let move : UpdateRecord := .move 5 7 ⟨by decide, by decide⟩ ⟨by decide, by decide⟩
    let tail : FaultyTail := .cut move 1 ⟨by decide, by decide⟩
    (updatePlayer 0 (payload [move] ++ tail.bytes) 7 onlyPlayer).toOption.map (·.input.lookup 0) =
        some (some ⟨0, 0, false⟩) ∧
      (updatePlayer 0 (payload [move]) 7 onlyPlayer).toOption.map (·.input.lookup 0) =
        some (some ⟨5, 7, false⟩) := by
  decide +kernel

end Packets

end S_Network

end Sfrpg
