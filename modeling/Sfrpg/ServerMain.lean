import Sfrpg.Wire

/-!
`main.cpp` of the server: the handler of packets, and the calls of the database it makes.

The database is a parameter, by what SQLite makes of each statement. What a run of the handler does
to the server is the list of the public methods it calls. `authenticateUser` runs off its end where
no user has the address; nothing can be said of a handler that has called it so.
-/

namespace Sfrpg

open Lib Lib.Word

/-- A text of the database: bytes, as many as SQLite stores at the most. -/
structure DbText where
  text : String
  bytes : ∀ c ∈ text.toList, c.toNat < 256
  short : text.toList.length < 2147483648

/-- What SQLite makes of the statements `Server` prepares, by the values bound to them. An exception
is `none`. `hash` is `std::hash<std::string>`. -/
structure Database where
  insertUser : String → String → String → Option Unit
  selectUser : String → Option (Option (DbText × DbText))
  insertMessage : String → String → String → Option Unit
  selectMessages : String → String → Option (List (DbText × DbText × DbText))
  selectChat : String → String → String → String → Option (List (DbText × DbText × DbText))
  hash : String → ℕ

abbrev DbResult := List (String × String × String)

namespace Database

variable (db : Database)

def hashPassword (l_password : String) : String := toString (db.hash l_password)

def registerUser (l_email l_username l_password : String) : Bool :=
  (db.insertUser l_email l_username (db.hashPassword l_password)).isSome

/-- The answer, and what the call leaves in the variable of the name. -/
def authenticateUser (l_email l_password l_username : String) : Option (Bool × String) :=
  match db.selectUser l_email with
  | none => some (false, l_username)
  | some none => none
  | some (some (receivedPwd, receivedName)) =>
    let res := receivedPwd.text = db.hashPassword l_password
    some (res, if res then receivedName.text else l_username)

def addMessage (l_sender l_receiver l_content : String) : Bool :=
  (db.insertMessage l_sender l_receiver l_content).isSome

/-- The columns of the rows the statement steps through. -/
def fetch (rows : Option (List (DbText × DbText × DbText))) : Option DbResult :=
  rows.map (List.map fun row => (row.1.text, row.2.1.text, row.2.2.text))

def getMessagesForUser (l_username : String) : Option DbResult :=
  fetch (db.selectMessages l_username l_username)

def getChatMessages (l_firstUser l_secondUser : String) : Option DbResult :=
  fetch (db.selectChat l_firstUser l_firstUser l_secondUser l_secondUser)

lemma authenticateUser_eq_none (l_email l_password l_username : String) :
    db.authenticateUser l_email l_password l_username = none ↔
      db.selectUser l_email = some none := by
  unfold authenticateUser
  rcases db.selectUser l_email with _ | _ | _ <;> simp

lemma getMessagesForUser_eq_none (l_username : String) :
    db.getMessagesForUser l_username = none ↔ db.selectMessages l_username l_username = none := by
  simp [getMessagesForUser, fetch]

end Database

namespace Packet

def putString (s : String) (p : Packet) : Packet := ⟨p.data ++ string.put s⟩

def putRow (p : Packet) (row : String × String × String) : Packet :=
  ((p.putString row.1).putString row.2.1).putString row.2.2

end Packet

namespace ServerMain

open Server

/-! ### What the requests carry -/

def readOne : Reading UInt8 String := Packet.string.read ""

def readTwo : Reading UInt8 (String × String) := do
  let a ← Packet.string.read ""
  let b ← Packet.string.read ""
  pure (a, b)

def readThree : Reading UInt8 (String × String × String) := do
  let a ← Packet.string.read ""
  let b ← Packet.string.read ""
  let c ← Packet.string.read ""
  pure (a, b, c)

/-- The variables after the payload was read into them: what cannot be read stays empty. -/
def payload {α : Type} (r : Reading UInt8 α) (data : List UInt8) : α := (r (some data)).1

/-! ### The handler -/

/-- The rows behind their number. -/
def putResult (result : DbResult) (p : Packet) : Packet :=
  result.foldl Packet.putRow (p.putInt32 (toInt32 result.length))

def dotted (ip : IpAddress) : String :=
  ".".intercalate [toString (ip.toNat / 16777216), toString (ip.toNat / 65536 % 256),
    toString (ip.toNat / 256 % 256), toString (ip.toNat % 256)]

/-- The branch for a registered client. -/
def handleClient (db : Database) (cid : ClientID) (ip : IpAddress) (port : PortNumber) (l_id : ℤ)
    (data : List UInt8) : Option (List Call) :=
  if l_id = PacketType.Disconnect.id then
    some [.removeClient cid, .broadcast ((stampPacket .Message .empty).putString
      ("Client " ++ toString cid ++ " has left.")) cid]
  else if l_id = PacketType.Message.id then
    some [.broadcast ((stampPacket .Message .empty).putString
      (dotted ip ++ ":" ++ toString port.toNat ++ " " ++ payload readOne data)) cid]
  else if l_id = PacketType.Register.id then
    let (email, username, password) := payload readThree data
    let packet := stampPacket .Register .empty
    some [.send cid (packet.putString (if db.registerUser email username password
      then "Registered successfully!" else "Failed to register. Error occured!"))]
  else if l_id = PacketType.Login.id then
    let (email, password) := payload readTwo data
    let packet := stampPacket .Login .empty
    (db.authenticateUser email password "").map fun (known, username) =>
      [.send cid (if known then packet.putString username else packet)]
  else if l_id = PacketType.Sql.id then
    match db.getMessagesForUser (payload readOne data) with
    | none => some []  -- the packet with `NullID` is written, and never sent
    | some result => some [.send cid (putResult result (stampPacket .Sql .empty))]
  else if l_id = PacketType.ChatMessage.id then
    let (sender, receiver, content) := payload readThree data
    let packet := stampPacket .ChatMessage .empty
    some [.send cid (packet.putString (if db.addMessage sender receiver content
      then "Message has been successfully sent!" else "Failed to add message, error occured."))]
  else if l_id = PacketType.Chat.id then
    let (firstUser, secondUser) := payload readTwo data
    let packet := stampPacket .Chat .empty
    match db.getChatMessages firstUser secondUser with
    | none => some [.send cid (packet.putInt32 Network.NullID)]
    | some result => some [.send cid (putResult result packet)]
  else some []

/-- `handlePacket`: the methods it calls, or nothing where its behaviour is undefined. -/
def handlePacket (db : Database) (s : Server) (ip : IpAddress) (port : PortNumber) (l_id : ℤ)
    (data : List UInt8) : Option (List Call) :=
  let cid := s.getClientID ip port
  if 0 ≤ cid then handleClient db cid ip port l_id data
  else if l_id = PacketType.Connect.id then
    some [.addClient ip port, .send (s.addClient .UDP ip port).2 (stampPacket .Connect .empty)]
  else some []

/-! ### Every request and its reply -/

/-- The packets a run of the handler sends to `id`, in order. -/
def sentTo (id : ClientID) (calls : List Call) : List Packet :=
  calls.filterMap fun
    | .send i p => if i = id then some p else none
    | _ => none

/-- The requests a client waits for the reply of. -/
def requests : List PacketType := [.Register, .Login, .Sql, .ChatMessage, .Chat]

/-- The handler sends `id` one packet, stamped with the type of the request. -/
def Answered (db : Database) (s : Server) (ip : IpAddress) (port : PortNumber) (id : ClientID)
    (type : PacketType) (data : List UInt8) : Prop :=
  ∃ calls p, handlePacket db s ip port type.id data = some calls ∧ sentTo id calls = [p] ∧
    p.stamp = some type.id

/-- What the database answers a request with is one of the outcomes the handler replies to. -/
def Answerable (db : Database) (type : PacketType) (data : List UInt8) : Prop :=
  (type = .Sql → db.selectMessages (payload readOne data) (payload readOne data) ≠ none) ∧
    (type = .Login → db.selectUser (payload readTwo data).1 ≠ some none)

lemma stamp_putString {p : Packet} {i : ℤ} (h : p.stamp = some i) (s : String) :
    (p.putString s).stamp = some i := stamp_append h _

lemma stamp_putResult {p : Packet} {i : ℤ} (h : p.stamp = some i) (result : DbResult) :
    (putResult result p).stamp = some i := by
  have hfold : ∀ (rows : DbResult) (q : Packet), q.stamp = some i →
      (rows.foldl Packet.putRow q).stamp = some i := by
    intro rows
    induction rows with
    | nil => exact fun q hq => hq
    | cons row rows ih =>
      exact fun q hq => ih _ (stamp_putString (stamp_putString (stamp_putString hq _) _) _)
  exact hfold result _ (stamp_putInt32 h _)

@[simp] lemma sentTo_send (id : ClientID) (p : Packet) : sentTo id [.send id p] = [p] := by
  simp [sentTo]

section Branches

variable (db : Database) (cid : ClientID) (ip : IpAddress) (port : PortNumber) (data : List UInt8)

lemma handleClient_register :
    ∃ text, handleClient db cid ip port PacketType.Register.id data =
      some [.send cid ((stampPacket .Register .empty).putString text)] :=
  ⟨_, rfl⟩

lemma handleClient_chatMessage :
    ∃ text, handleClient db cid ip port PacketType.ChatMessage.id data =
      some [.send cid ((stampPacket .ChatMessage .empty).putString text)] :=
  ⟨_, rfl⟩

lemma handleClient_login :
    handleClient db cid ip port PacketType.Login.id data =
      (db.authenticateUser (payload readTwo data).1 (payload readTwo data).2 "").map fun answer =>
        [.send cid (if answer.1 then (stampPacket .Login .empty).putString answer.2
          else stampPacket .Login .empty)] :=
  rfl

lemma handleClient_sql :
    handleClient db cid ip port PacketType.Sql.id data =
      match db.getMessagesForUser (payload readOne data) with
      | none => some []
      | some result => some [.send cid (putResult result (stampPacket .Sql .empty))] :=
  rfl

lemma handleClient_chat :
    handleClient db cid ip port PacketType.Chat.id data =
      match db.getChatMessages (payload readTwo data).1 (payload readTwo data).2 with
      | none => some [.send cid ((stampPacket .Chat .empty).putInt32 Network.NullID)]
      | some result => some [.send cid (putResult result (stampPacket .Chat .empty))] :=
  rfl

end Branches

lemma answers_of_send {cid : ClientID} {type : PacketType} {x : Option (List Call)} {p : Packet}
    (hx : x = some [.send cid p]) (hp : p.stamp = some type.id) :
    ∃ calls p, x = some calls ∧ sentTo cid calls = [p] ∧ p.stamp = some type.id :=
  ⟨_, p, hx, sentTo_send cid p, hp⟩

lemma answerable_of_ne {db : Database} {type : PacketType} {data : List UInt8} (hsql : type ≠ .Sql)
    (hlogin : type ≠ .Login) : Answerable db type data :=
  ⟨fun h => absurd h hsql, fun h => absurd h hlogin⟩

/-- A registered client is answered exactly where the database's answer is one there is a reply
to. -/
lemma handleClient_iff (db : Database) (cid : ClientID) (ip : IpAddress) (port : PortNumber)
    {type : PacketType} (htype : type ∈ requests) (data : List UInt8) :
    (∃ calls p, handleClient db cid ip port type.id data = some calls ∧ sentTo cid calls = [p] ∧
      p.stamp = some type.id) ↔ Answerable db type data := by
  have hstamp := stamp_stampPacket
  simp only [requests, List.mem_cons, List.not_mem_nil, or_false] at htype
  rcases htype with rfl | rfl | rfl | rfl | rfl
  · obtain ⟨text, h⟩ := handleClient_register db cid ip port data
    exact iff_of_true (answers_of_send h (stamp_putString (hstamp _) _))
      (answerable_of_ne (by decide) (by decide))
  · rw [handleClient_login, Answerable, ne_eq (db.selectUser _),
      ← db.authenticateUser_eq_none _ (payload readTwo data).2 ""]
    cases db.authenticateUser (payload readTwo data).1 (payload readTwo data).2 "" with
    | none => simp
    | some answer =>
      have hpacket : Packet.stamp (if answer.1 then (stampPacket .Login .empty).putString answer.2
          else stampPacket .Login .empty) = some PacketType.Login.id := by
        split
        · exact stamp_putString (hstamp _) _
        · exact hstamp _
      exact iff_of_true (answers_of_send rfl hpacket) (by simp)
  · rw [handleClient_sql, Answerable, ne_eq, ← db.getMessagesForUser_eq_none]
    cases db.getMessagesForUser (payload readOne data) with
    | none => simp [sentTo]
    | some result =>
      exact iff_of_true (answers_of_send rfl (stamp_putResult (hstamp _) _)) (by simp)
  · obtain ⟨text, h⟩ := handleClient_chatMessage db cid ip port data
    exact iff_of_true (answers_of_send h (stamp_putString (hstamp _) _))
      (answerable_of_ne (by decide) (by decide))
  · rw [handleClient_chat]
    refine iff_of_true ?_ (answerable_of_ne (by decide) (by decide))
    split
    · exact answers_of_send rfl (stamp_putInt32 (hstamp _) _)
    · exact answers_of_send rfl (stamp_putResult (hstamp _) _)

/-- **Every request is answered once**, exactly if the server runs, the id of the client is not
negative, SQLite throws no exception for a `Sql` request, and it has a user for a `Login` request.
-/
theorem answered_iff (db : Database) (s : Server) (ip : IpAddress) (port : PortNumber)
    (id : ClientID) (hid : s.findClient ip port = some id) (type : PacketType)
    (htype : type ∈ requests) (data : List UInt8) :
    Answered db s ip port id type data ↔ s.running = true ∧ 0 ≤ id ∧ Answerable db type data := by
  have hconnect : type.id ≠ PacketType.Connect.id := by
    simp only [requests, List.mem_cons, List.not_mem_nil, or_false] at htype
    rcases htype with rfl | rfl | rfl | rfl | rfl <;> decide
  have hother : ∀ cid, s.getClientID ip port = cid → ¬ 0 ≤ cid →
      ¬ Answered db s ip port id type data := by
    rintro cid hcid hneg ⟨calls, p, hcalls, hsent, -⟩
    simp only [handlePacket, hcid, if_neg hneg, if_neg hconnect, Option.some.injEq] at hcalls
    rw [← hcalls] at hsent
    cases hsent
  by_cases hrun : s.running = true
  · have hcid : s.getClientID ip port = id := by simp [getClientID, hrun, hid]
    by_cases hpos : 0 ≤ id
    · simp only [hrun, hpos, true_and]
      rw [← handleClient_iff db id ip port htype data, Answered]
      simp only [handlePacket, hcid, if_pos hpos]
    · exact iff_of_false (hother id hcid hpos) fun h => hpos h.2.1
  · have hcid : s.getClientID ip port = Network.NullID := by simp [getClientID, hrun]
    exact iff_of_false (hother _ hcid (by decide)) fun h => hrun h.1

/-- A database that holds nothing, and one every statement of which throws. -/
def emptyDatabase : Database where
  insertUser _ _ _ := some ()
  selectUser _ := some none
  insertMessage _ _ _ := some ()
  selectMessages _ _ := some []
  selectChat _ _ _ _ := some []
  hash s := s.length

def failingDatabase : Database where
  insertUser _ _ _ := none
  selectUser _ := none
  insertMessage _ _ _ := none
  selectMessages _ _ := none
  selectChat _ _ _ _ := none
  hash s := s.length

/-- A server with one client, who has the id 0. -/
def oneClient : Server := (start.addClient .UDP 1 10).1

theorem answered_iff_empty : Answered emptyDatabase oneClient 1 10 0 .Sql [] :=
  (answered_iff emptyDatabase oneClient 1 10 0 (by decide) .Sql (by decide) []).mpr
    ⟨rfl, by decide, fun _ => by decide, fun h => absurd h (by decide)⟩

/-- Where the database throws, a `Sql` request is read and no reply is sent; a `Chat` request in the
same place gets its error reply. -/
theorem sql_unanswered : oneClient.findClient 1 10 = some 0 ∧
    handlePacket failingDatabase oneClient 1 10 PacketType.Sql.id [] = some [] ∧
    ¬ Answered failingDatabase oneClient 1 10 0 .Sql [] := by
  have hnone : handlePacket failingDatabase oneClient 1 10 PacketType.Sql.id [] = some [] := rfl
  refine ⟨by decide, hnone, ?_⟩
  rintro ⟨calls, p, hcalls, hsent, -⟩
  rw [hnone, Option.some.injEq] at hcalls
  rw [← hcalls] at hsent
  cases hsent

end ServerMain

end Sfrpg
