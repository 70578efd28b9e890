import Sfrpg.ServerMain

/-!
`main.cpp` of the client: its handler of packets, and the replies of the server it reads.

What a run of the handler does is the list of the lines it prints and of the methods of the client
it calls. Its loop over the rows of a reply stops at the first row it cannot read.
-/

namespace Sfrpg

open Lib Lib.Word

namespace ClientMain

/-- What the handler does to the client and on the screen. -/
inductive Action
  | print (line : String)
  | setUserName (name : String)
  | disconnect
  deriving DecidableEq

/-- The loop over the rows, at most `n` of them. -/
def readRows : ℕ → Reading UInt8 DbResult
  | 0 => pure []
  | n + 1 => do
    let sender ← Packet.string.read ""
    if !(← Reading.valid) then return []
    let receiver ← Packet.string.read ""
    if !(← Reading.valid) then return []
    let content ← Packet.string.read ""
    if !(← Reading.valid) then return []
    let rows ← readRows n
    return (sender, receiver, content) :: rows

/-- The rows of a reply, or nothing where it is taken for an error reply. The size is read as an
`int`, which holds `u` before, and bounds the loop as a `size_t`. -/
def readResult (u : ℤ) : Reading UInt8 (Option DbResult) := do
  let size ← Packet.int32.read u
  if !(← Reading.valid) then return none
  if size = Network.NullID then return none
  let rows ← readRows (size % 18446744073709551616).toNat
  return some rows

/-- `handlePacket`, for a packet whose stamp `l_id` has been read. -/
def handlePacket (u l_id : ℤ) (unread : Packet.Unread) : List Action :=
  if l_id = PacketType.Message.id ∨ l_id = PacketType.Register.id ∨
      l_id = PacketType.ChatMessage.id then
    [.print (Packet.string.read "" unread).1]
  else if l_id = PacketType.Login.id then
    let (username, unread) := Packet.string.read "" unread
    if unread.isNone then [.print "Failed to login, error occured."]
    else [.setUserName username, .print "Logged in successfully."]
  else if l_id = PacketType.Sql.id then
    match (readResult u unread).1 with
    | none => [.print "Failed to load messages, error occured."]
    | some rows => rows.map fun (sender, receiver, content) =>
      .print ("sender: " ++ sender ++ ", receiver: " ++ receiver ++ ": " ++ content)
  else if l_id = PacketType.Chat.id then
    match (readResult u unread).1 with
    | none => [.print "Failed to load messages, error occured."]
    | some rows => rows.map fun (sender, _, content) => .print (sender ++ ": " ++ content)
  else if l_id = PacketType.Disconnect.id then [.disconnect]
  else []

/-! ### Rows -/

/-- The strings of a row are ones a packet carries. -/
structure RowFits (row : String × String × String) : Prop where
  sender : Packet.StringFits row.1
  receiver : Packet.StringFits row.2.1
  content : Packet.StringFits row.2.2

def putRow (row : String × String × String) : List UInt8 :=
  Packet.string.put row.1 ++ Packet.string.put row.2.1 ++ Packet.string.put row.2.2

lemma takes_readRows {rows : DbResult} (hrows : ∀ row ∈ rows, RowFits row) :
    Takes (readRows rows.length) (rows.flatMap putRow) rows := by
  induction rows with
  | nil => exact Takes.pure []
  | cons row rows ih =>
    have hrow := hrows row (by simp)
    have hrest := ih fun r hr => hrows r (by simp [hr])
    have hnext : ∀ {α : Type} {f : Bool → Reading UInt8 α} {v : List UInt8} {y : α},
        Takes (f true) v y → Takes (Reading.valid >>= f) v y := fun hf => Takes.valid.bind hf
    rw [List.flatMap_cons, putRow, ← List.append_nil (rows.flatMap putRow)]
    simp only [List.append_assoc]
    refine (Takes.read Packet.string hrow.sender "").bind (hnext ?_)
    refine (Takes.read Packet.string hrow.receiver "").bind (hnext ?_)
    refine (Takes.read Packet.string hrow.content "").bind (hnext ?_)
    exact hrest.bind (Takes.pure (row :: rows))

lemma takes_readResult {rows : DbResult} (hlen : rows.length < 2147483648)
    (hrows : ∀ row ∈ rows, RowFits row) (u : ℤ) :
    Takes (readResult u) (Packet.int32.put rows.length ++ rows.flatMap putRow) (some rows) := by
  have hsize : ((rows.length : ℤ) % 18446744073709551616).toNat = rows.length := by omega
  have hvalid : (rows.length : ℤ) ≠ Network.NullID := by
    unfold Network.NullID
    omega
  rw [← List.append_nil (rows.flatMap putRow)]
  refine (Takes.read Packet.int32 ⟨by omega, by omega⟩ u).bind ?_
  refine Takes.valid.bind ?_
  simp only [Bool.not_true, Bool.false_eq_true, if_false, if_neg hvalid, hsize]
  exact (takes_readRows hrows).bind (Takes.pure (some rows))

lemma readRows_take {rows : DbResult} (hrows : ∀ row ∈ rows, RowFits row) (n : ℕ) :
    (readRows n (some (rows.flatMap putRow))).1 = rows.take n := by
  induction n generalizing rows with
  | zero => rfl
  | succ n ih =>
    cases rows with
    | nil => rfl
    | cons row rows =>
      obtain ⟨hrow, hrows⟩ := List.forall_mem_cons.mp hrows
      have hvalid : ∀ {α : Type} (f : Bool → Reading UInt8 α) (rest : List UInt8),
          (Reading.valid >>= f) (some rest) = f true (some rest) := fun _ _ => rfl
      have hpass : readRows (n + 1) (some ((row :: rows).flatMap putRow)) =
          (readRows n >>= fun rows => pure (row :: rows)) (some (rows.flatMap putRow)) := by
        rw [List.flatMap_cons, putRow, List.append_assoc, List.append_assoc, readRows]
        refine ((Takes.read Packet.string hrow.sender "").andThen _ _).trans ((hvalid _ _).trans ?_)
        refine ((Takes.read Packet.string hrow.receiver "").andThen _ _).trans
          ((hvalid _ _).trans ?_)
        exact ((Takes.read Packet.string hrow.content "").andThen _ _).trans (hvalid _ _)
      rw [hpass, List.take_succ_cons, ← ih hrows]
      rfl

section Numbered

variable {size : ℤ} (hsize : InInt32 size) (u : ℤ) (rest : List UInt8)
include hsize

lemma readResult_word :
    readResult u (some (Packet.word size ++ rest)) =
      (if size = Network.NullID then pure none else
        readRows (size % 18446744073709551616).toNat >>= fun rows => pure (some rows) :
          Reading UInt8 (Option DbResult)) (some rest) := by
  have hread : Takes (Packet.int32.read u) (Packet.word size) size :=
    Takes.read Packet.int32 hsize u
  exact hread.andThen (fun size => Reading.valid >>= fun ok =>
    if !ok then pure none else if size = Network.NullID then pure none else
      readRows (size % 18446744073709551616).toNat >>= fun rows => pure (some rows)) rest

lemma readResult_rows {rows : DbResult} (hrows : ∀ row ∈ rows, RowFits row) :
    (readResult u (some (Packet.word size ++ rows.flatMap putRow))).1 = none ∨
      ∃ n, (readResult u (some (Packet.word size ++ rows.flatMap putRow))).1 =
        some (rows.take n) := by
  rw [readResult_word hsize]
  split
  · exact .inl rfl
  · exact .inr ⟨_, congrArg some (readRows_take hrows _)⟩

end Numbered

lemma readResult_null (u : ℤ) (rest : List UInt8) :
    (readResult u (some (Packet.word Network.NullID ++ rest))).1 = none := by
  rw [readResult_word ⟨by decide, by decide⟩, if_pos rfl]
  rfl

/-! ### The replies of the server -/

lemma putResult_data (result : DbResult) (p : Packet) :
    (ServerMain.putResult result p).data =
      p.data ++ (Packet.word (toInt32 result.length) ++ result.flatMap putRow) := by
  have hfold : ∀ (rows : DbResult) (q : Packet),
      (rows.foldl Packet.putRow q).data = q.data ++ rows.flatMap putRow := by
    intro rows
    induction rows with
    | nil => exact fun q => (List.append_nil _).symm
    | cons row rows ih =>
      intro q
      have hrow : (Packet.putRow q row).data = q.data ++ putRow row := by
        simp only [Packet.putRow, Packet.putString, putRow, List.append_assoc]
      rw [List.foldl_cons, ih, hrow, List.flatMap_cons, List.append_assoc]
  rw [ServerMain.putResult, hfold, ← List.append_assoc]
  rfl

/-- The rows the database has for a request. -/
def resultOf (db : Database) (type : PacketType) (data : List UInt8) : Option DbResult :=
  if type = .Sql then db.getMessagesForUser (ServerMain.payload ServerMain.readOne data)
  else db.getChatMessages (ServerMain.payload ServerMain.readTwo data).1
    (ServerMain.payload ServerMain.readTwo data).2

lemma stringFits_text (x : DbText) : Packet.StringFits x.text :=
  ⟨x.bytes, Nat.lt_trans x.short (by decide)⟩

lemma rowFits_of_fetch {rows : Option (List (DbText × DbText × DbText))} {result : DbResult}
    (h : Database.fetch rows = some result) : ∀ row ∈ result, RowFits row := by
  cases rows with
  | none => cases h
  | some rows =>
    obtain rfl := Option.some.inj h
    intro row hrow
    obtain ⟨x, -, rfl⟩ := List.mem_map.mp hrow
    exact ⟨stringFits_text _, stringFits_text _, stringFits_text _⟩

/-- The line the client prints for a row of a reply. -/
def line (type : PacketType) (row : String × String × String) : String :=
  if type = .Sql then "sender: " ++ row.1 ++ ", receiver: " ++ row.2.1 ++ ": " ++ row.2.2
  else row.1 ++ ": " ++ row.2.2

lemma handlePacket_sql (u : ℤ) (unread : Packet.Unread) :
    handlePacket u PacketType.Sql.id unread =
      match (readResult u unread).1 with
      | none => [.print "Failed to load messages, error occured."]
      | some rows => rows.map fun row => .print (line .Sql row) :=
  rfl

lemma handlePacket_chat (u : ℤ) (unread : Packet.Unread) :
    handlePacket u PacketType.Chat.id unread =
      match (readResult u unread).1 with
      | none => [.print "Failed to load messages, error occured."]
      | some rows => rows.map fun row => .print (line .Chat row) :=
  rfl

/-- **Rows survive the way to the client.** Whatever the database has for a `Sql` or a `Chat`
request, the client reads the same rows out of the reply, in the same order and to the last byte,
and takes it for no error; it prints a line for each. -/
theorem rows_round_trip (db : Database) (s : Server) (ip : IpAddress) (port : PortNumber)
    (id : ClientID) (hid : s.getClientID ip port = id) (hpos : 0 ≤ id) (type : PacketType)
    (htype : type = .Sql ∨ type = .Chat) (data : List UInt8) (rows : DbResult)
    (hrows : resultOf db type data = some rows) (hlen : rows.length < 2147483648) :
    ∃ p rest, ServerMain.handlePacket db s ip port type.id data = some [.send id p] ∧
      Packet.getInt8 p.data = some (type.id, rest) ∧
      ∀ u, readResult u (some rest) = (some rows, some []) ∧
        handlePacket u type.id (some rest) = rows.map fun row => .print (line type row) := by
  have hfits : ∀ row ∈ rows, RowFits row := by
    unfold resultOf at hrows
    split at hrows
    · exact rowFits_of_fetch hrows
    · exact rowFits_of_fetch hrows
  have hread : ∀ u, readResult u (some (Packet.word (toInt32 rows.length) ++
      rows.flatMap putRow)) = (some rows, some []) := by
    intro u
    rw [toInt32_natCast hlen]
    exact (takes_readResult hlen hfits u).run
  have hstamp : Packet.getInt8 (ServerMain.putResult rows (stampPacket type .empty)).data =
      some (type.id, Packet.word (toInt32 rows.length) ++ rows.flatMap putRow) := by
    rw [putResult_data]
    exact Packet.getInt8_byte (by cases type <;> decide) (by cases type <;> decide) _
  refine ⟨ServerMain.putResult rows (stampPacket type .empty), _, ?_, hstamp, fun u =>
    ⟨hread u, ?_⟩⟩
  · rw [ServerMain.handlePacket]
    simp only [hid, if_pos hpos]
    rcases htype with rfl | rfl
    · rw [ServerMain.handleClient_sql, show db.getMessagesForUser _ = some rows from hrows]
    · rw [ServerMain.handleClient_chat, show db.getChatMessages _ _ = some rows from hrows]
  · rcases htype with rfl | rfl
    · rw [handlePacket_sql, hread]
    · rw [handlePacket_chat, hread]

/-- Two messages, as a database with a single conversation has them. -/
def conversation : List (DbText × DbText × DbText) :=
  let text (s : String) (h : (s.toList.all fun c => c.toNat < 256) ∧ s.toList.length < 10) :
    DbText := ⟨s, by simpa using h.1, by omega⟩
  let ann := text "ann" (by decide)
  let bob := text "bob" (by decide)
  [(ann, bob, text "hi" (by decide)), (bob, ann, text "" (by decide))]

theorem rows_round_trip_conversation :
    ∃ p rest, ServerMain.handlePacket { ServerMain.emptyDatabase with
        selectMessages := fun _ _ => some conversation } ServerMain.oneClient 1 10
        PacketType.Sql.id [] = some [.send 0 p] ∧
      Packet.getInt8 p.data = some (PacketType.Sql.id, rest) ∧
      ∀ u, readResult u (some rest) = (some [("ann", "bob", "hi"), ("bob", "ann", "")], some []) ∧
        handlePacket u PacketType.Sql.id (some rest) =
          [("ann", "bob", "hi"), ("bob", "ann", "")].map fun row => .print (line .Sql row) :=
  rows_round_trip _ ServerMain.oneClient 1 10 0 (by decide) (by decide) .Sql (.inl rfl) [] _ rfl
    (by decide)

end ClientMain

end Sfrpg
