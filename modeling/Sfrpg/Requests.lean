import Sfrpg.Tables

/-!
Requests and the database: what the packets of the clients store, and what they are shown.

The handler reads strings without asking whether there were any, and inserts what it has. It takes
the names a request speaks for from the request; that a client has logged in is remembered by the
client alone.
-/

namespace Sfrpg

open Lib Lib.Run Lib.Table Server

namespace ServerMain

/-- What the branch for a registered client makes of the tables. -/
def clientTables (hash : String → ℕ) (throws : Bool) (l_id : ℤ) (data : List UInt8) (t : Tables) :
    Tables :=
  if l_id = PacketType.Register.id then
    let (email, username, password) := payload readThree data
    (t.registerUser hash throws email username password).1
  else if l_id = PacketType.ChatMessage.id then
    let (sender, receiver, content) := payload readThree data
    (t.addMessage throws sender receiver content).1
  else t

/-- What `handlePacket` makes of the tables. -/
def handleTables (hash : String → ℕ) (throws : Bool) (s : Server) (ip : IpAddress)
    (port : PortNumber) (l_id : ℤ) (data : List UInt8) (t : Tables) : Tables :=
  if 0 ≤ s.getClientID ip port then clientTables hash throws l_id data t else t

/-! ### Malformed payloads -/

/-- The bytes are not those of three strings: one of the reads fails. -/
def Malformed (data : List UInt8) : Prop := (readThree (some data)).2 = none

instance decidableMalformed (data : List UInt8) : Decidable (Malformed data) :=
  inferInstanceAs (Decidable (_ = _))

lemma read_cases (unread : Option (List UInt8)) :
    (Packet.string.read "" unread = ("", none)) ∨
      ∃ s rest, Packet.string.read "" unread = (s, some rest) := by
  unfold Codec.read
  cases unread.bind Packet.string.get with
  | none => exact .inl rfl
  | some y => exact .inr ⟨y.1, y.2, rfl⟩

lemma readThree_eq (unread : Option (List UInt8)) :
    readThree unread =
      let a := Packet.string.read "" unread
      let b := Packet.string.read "" a.2
      let c := Packet.string.read "" b.2
      ((a.1, b.1, c.1), c.2) := rfl

lemma Malformed.last {data : List UInt8} (h : Malformed data) :
    (payload readThree data).2.2 = "" := by
  rw [Malformed, readThree_eq] at h
  rw [payload, readThree_eq]
  dsimp only at h ⊢
  obtain hread | ⟨s, rest, hread⟩ :=
    read_cases (Packet.string.read "" (Packet.string.read "" (some data)).2).2
  · rw [hread]
  · rw [hread] at h
    cases h

/-- The row of what was read, with nothing for the last string, is refused. -/
def Refused (hash : String → ℕ) (throws : Bool) (type : PacketType) (data : List UInt8)
    (t : Tables) : Prop :=
  let read := payload readThree data
  throws = true ∨ if type = .Register then t.RefusesUser read.1 read.2.1 (toString (hash ""))
    else t.RefusesMessage read.1 read.2.1 ""

lemma registerUser_unchanged (hash : String → ℕ) (throws : Bool)
    (email username password : String) (t : Tables) :
    (t.registerUser hash throws email username password).1 = t ↔
      throws = true ∨ t.RefusesUser email username (toString (hash password)) := by
  obtain ⟨href, heq⟩ | ⟨⟨hthrows, href⟩, t', row, heq, -, -, -, huser, -⟩ :=
    t.registerUser_cases hash throws email username password
  · exact iff_of_true (by rw [heq]) href
  · refine iff_of_false (fun h => ?_) (not_or.mpr ⟨by simp [hthrows], href⟩)
    rw [heq] at h
    have hsame : t.user = t.user ++ [row] := by rw [← huser, ← h]
    simp at hsame

lemma addMessage_unchanged (throws : Bool) (sender receiver content : String) (t : Tables) :
    (t.addMessage throws sender receiver content).1 = t ↔
      throws = true ∨ t.RefusesMessage sender receiver content := by
  obtain ⟨href, heq⟩ | ⟨⟨hthrows, href⟩, t', row, heq, -, -, -, hmessage, -⟩ :=
    t.addMessage_cases throws sender receiver content
  · exact iff_of_true (by rw [heq]) href
  · refine iff_of_false (fun h => ?_) (not_or.mpr ⟨by simp [hthrows], href⟩)
    rw [heq] at h
    have hsame : t.message = t.message ++ [row] := by rw [← hmessage, ← h]
    simp at hsame

/-- **What a malformed packet leaves behind.** A `Register` or `ChatMessage` packet of a registered
client that does not carry its three strings leaves the tables as they are if and only if the
handler takes the client for none, or the row of what could be read is refused. -/
theorem malformed_unchanged_iff (hash : String → ℕ) (throws : Bool) (t : Tables) (s : Server)
    (ip : IpAddress) (port : PortNumber) (id : ClientID) (hid : s.findClient ip port = some id)
    (type : PacketType) (htype : type = .Register ∨ type = .ChatMessage) (data : List UInt8)
    (hdata : Malformed data) :
    handleTables hash throws s ip port type.id data t = t ↔
      s.running = false ∨ id < 0 ∨ Refused hash throws type data t := by
  have hbranch : clientTables hash throws type.id data t = t ↔ Refused hash throws type data t := by
    rw [Refused, ← hdata.last]
    rcases htype with rfl | rfl
    · exact registerUser_unchanged hash throws _ _ _ t
    · exact addMessage_unchanged throws _ _ _ t
  rw [handleTables]
  by_cases hrun : s.running = true
  · have hcid : s.getClientID ip port = id := by simp [getClientID, hrun, hid]
    rw [hcid]
    by_cases hpos : 0 ≤ id
    · rw [if_pos hpos, hbranch]
      simp [hrun, not_lt.mpr hpos]
    · rw [if_neg hpos]
      exact iff_of_true rfl (.inr (.inl (not_le.mp hpos)))
  · have hcid : s.getClientID ip port = Network.NullID := by simp [getClientID, hrun]
    rw [hcid, if_neg (by decide)]
    exact iff_of_true rfl (.inl (by simpa using hrun))

/-- The empty address is taken, and an empty packet registers nobody. -/
theorem malformed_unchanged_taken :
    let t := (Tables.fresh.registerUser String.length false "" "" "").1
    handleTables String.length false oneClient 1 10 PacketType.Register.id [] t = t :=
  (malformed_unchanged_iff String.length false _ oneClient 1 10 0 (by decide) .Register
    (.inl rfl) []
    (by decide)).mpr (.inr (.inr (.inr (.inr (.inl (by decide))))))

/-- An empty packet registers a user without a name, and another stores a message of nobody. -/
theorem malformed_stored : Malformed [] ∧ oneClient.findClient 1 10 = some 0 ∧
    handleTables String.length false oneClient 1 10 PacketType.Register.id [] .fresh ≠ .fresh ∧
    handleTables String.length false oneClient 1 10 PacketType.ChatMessage.id [] .fresh ≠
      .fresh := by
  refine ⟨by decide, by decide, fun h => ?_, fun h => ?_⟩
  · exact absurd (congrArg (fun t => t.user.length) h) (by decide)
  · exact absurd (congrArg (fun t => t.message.length) h) (by decide)

end ServerMain

/-! ### Who reads and writes what -/

/-- A client is known by its endpoint. -/
abbrev Endpoint := IpAddress × PortNumber

/-- What a request did: its client received a successful `Login` reply, received a row of the reply
to a request that speaks for `named`, or had a message stored in the name of its sender. -/
inductive Event
  | loggedIn (client : Endpoint) (username : String)
  | delivered (client : Endpoint) (named : String) (row : String × String × String)
  | posted (client : Endpoint) (row : String × String × String)
  deriving DecidableEq

/-- The server, its database, and what has happened, the newest first. No function reads `log`. -/
structure Site where
  server : Server
  tables : Tables
  log : List Event

namespace Site

open ServerMain

section Definitions

variable (hash : String → ℕ)

/-- A server started on a database file. -/
def start (file : Tables) : Site := ⟨.start, .initDatabase file, []⟩

/-- Whether the transport takes a packet the handler sends. -/
def took (tr : Transport) (s : Server) (calls : List Call) : Bool :=
  calls.any fun
    | .send id p => (s.send tr id p).2
    | _ => false

/-- The events of a request by a registered client; `took` tells whether it gets its reply. -/
def clientEvents (db : Database) (client : Endpoint) (l_id : ℤ) (data : List UInt8) (took : Bool) :
    List Event :=
  if l_id = PacketType.Login.id then
    let (email, password) := payload readTwo data
    match db.authenticateUser email password "" with
    | some (true, username) => if took then [.loggedIn client username] else []
    | _ => []
  else if l_id = PacketType.Sql.id then
    let username := payload readOne data
    match db.getMessagesForUser username with
    | some rows => if took then rows.map (.delivered client username) else []
    | none => []
  else if l_id = PacketType.ChatMessage.id then
    let (sender, receiver, content) := payload readThree data
    if db.addMessage sender receiver content then [.posted client (sender, receiver, content)]
    else []
  else if l_id = PacketType.Chat.id then
    let (firstUser, secondUser) := payload readTwo data
    match db.getChatMessages firstUser secondUser with
    | some rows => if took then rows.map (.delivered client firstUser) else []
    | none => []
  else []

/-- A packet for the handler, or a pass of the loop of `main`. -/
inductive Input
  | packet (client : Endpoint) (l_id : ℤ) (data : List UInt8)
  | update (dt : Time)

/-- The run ends where a handler's behaviour is undefined. -/
def step (w : Site) : Transport × Bool × Input → Except Unit Site
  | (tr, _, .update dt) => .ok { w with server := w.server.update tr dt }
  | (tr, throws, .packet client l_id data) =>
    let db := w.tables.database hash throws
    match handlePacket db w.server client.1 client.2 l_id data with
    | none => .error ()
    | some calls => .ok {
        server := calls.foldl (call tr) w.server
        tables := handleTables hash throws w.server client.1 client.2 l_id data w.tables
        log := (if 0 ≤ w.server.getClientID client.1 client.2
          then clientEvents db client l_id data (took tr w.server calls) else []) ++ w.log }

end Definitions

/-- The rows are ones of the user the request names. -/
def Named : Event → Prop
  | .delivered _ named row => row.1 = named ∨ row.2.1 = named
  | _ => True

/-- The client had logged in, in the events `l` before, as a user the event concerns. -/
def Covered (l : List Event) : Event → Prop
  | .loggedIn _ _ => True
  | .delivered client _ row => ∃ username, .loggedIn client username ∈ l ∧
    (row.1 = username ∨ row.2.1 = username)
  | .posted client row => .loggedIn client row.1 ∈ l

/-- Whatever was delivered or posted was covered when it was. -/
def Authorised : List Event → Prop
  | [] => True
  | e :: l => Covered l e ∧ Authorised l

/-- The requests that speak for a user. -/
def speaking : List ℤ := [PacketType.Sql.id, PacketType.ChatMessage.id, PacketType.Chat.id]

/-- The request speaks for a user its client has logged in as, if it speaks for any. -/
def Honest (w : Site) : Transport × Bool × Input → Prop
  | (_, _, .packet client l_id data) =>
    l_id ∈ speaking → .loggedIn client (payload readOne data) ∈ w.log
  | _ => True

/-! ### What a request shows and stores -/

variable {hash : String → ℕ} {throws : Bool} {t : Tables}

/-- The texts of the row of a message. -/
def texts (r : MessageRow) : String × String × String :=
  (r.sender.text, r.receiver.text, r.content.text)

lemma mem_fetch {rows : DbResult} {p : MessageRow → Bool}
    (h : Database.fetch (some (t.selectRows p)) = some rows) {row : String × String × String}
    (hrow : row ∈ rows) : ∃ r, p r = true ∧ texts r = row := by
  rw [Database.fetch, Option.map_some, Option.some.injEq, Tables.selectRows, List.map_map] at h
  rw [← h] at hrow
  obtain ⟨r, hr, rfl⟩ := List.mem_map.mp hrow
  exact ⟨r, (List.mem_filter.mp hr).2, rfl⟩

lemma names_iff {x : DbText} {r : MessageRow} :
    Tables.Names x x r = true ↔ (texts r).1 = x.text ∨ (texts r).2.1 = x.text := by
  simp [Tables.Names, texts]

lemma mem_getMessagesForUser {username : String} {rows : DbResult}
    (h : (t.database hash throws).getMessagesForUser username = some rows)
    {row : String × String × String} (hrow : row ∈ rows) :
    row.1 = username ∨ row.2.1 = username := by
  change Database.fetch (Tables.attempt throws (t.selectMessages username username)) = _ at h
  obtain ⟨-, heq⟩ | ⟨-, heq⟩ := Tables.attempt_cases throws (t.selectMessages username username)
  · rw [heq] at h
    cases h
  rw [heq, Tables.selectMessages] at h
  cases hx : DbText.bind username with
  | none =>
    rw [hx] at h
    cases h
  | some x =>
    rw [hx] at h
    obtain ⟨r, hr, rfl⟩ := mem_fetch h hrow
    rw [← DbText.bind_text hx]
    exact names_iff.mp hr

lemma mem_getChatMessages {firstUser secondUser : String} {rows : DbResult}
    (h : (t.database hash throws).getChatMessages firstUser secondUser = some rows)
    {row : String × String × String} (hrow : row ∈ rows) :
    row.1 = firstUser ∨ row.2.1 = firstUser := by
  change Database.fetch (Tables.attempt throws
    (t.selectChat firstUser firstUser secondUser secondUser)) = _ at h
  obtain ⟨-, heq⟩ | ⟨-, heq⟩ :=
    Tables.attempt_cases throws (t.selectChat firstUser firstUser secondUser secondUser)
  · rw [heq] at h
    cases h
  rw [heq, Tables.selectChat] at h
  cases hx : DbText.bind firstUser with
  | none =>
    rw [hx] at h
    cases h
  | some x =>
    cases hy : DbText.bind secondUser with
    | none =>
      rw [hx, hy] at h
      cases h
    | some y =>
      rw [hx, hy] at h
      obtain ⟨r, hr, rfl⟩ := mem_fetch h hrow
      rw [← DbText.bind_text hx]
      exact names_iff.mp (Bool.and_elim_left hr)

/-- **What an event of a request says.** -/
lemma mem_clientEvents {client : Endpoint} {l_id : ℤ} {data : List UInt8} {took : Bool} {e : Event}
    (h : e ∈ clientEvents (t.database hash throws) client l_id data took) :
    (∃ username, e = .loggedIn client username) ∨
    (l_id ∈ speaking ∧ ∃ row : String × String × String,
      e = .delivered client (payload readOne data) row ∧
      (row.1 = payload readOne data ∨ row.2.1 = payload readOne data)) ∨
    (l_id ∈ speaking ∧ ∃ row : String × String × String, e = .posted client row ∧
      row.1 = payload readOne data) := by
  have hdelivered : ∀ {rows : DbResult} {P : Prop}, P →
      (∀ row ∈ rows, row.1 = payload readOne data ∨ row.2.1 = payload readOne data) →
      e ∈ (if took = true then rows.map (.delivered client (payload readOne data)) else []) →
      P ∧ ∃ row : String × String × String, e = .delivered client (payload readOne data) row ∧
        (row.1 = payload readOne data ∨ row.2.1 = payload readOne data) := by
    intro rows P hP hrows he
    split at he
    · obtain ⟨row, hrow, rfl⟩ := List.mem_map.mp he
      exact ⟨hP, row, rfl, hrows row hrow⟩
    · cases he
  unfold clientEvents at h
  split at h
  · left
    dsimp only at h
    split at h
    · split at h
      · exact ⟨_, List.mem_singleton.mp h⟩
      · cases h
    · cases h
  split at h
  · rename_i hsql
    dsimp only at h
    split at h
    · rename_i rows hrows
      exact .inr (.inl (hdelivered (by simp [speaking, hsql])
        (fun row hrow => mem_getMessagesForUser hrows hrow) h))
    · cases h
  split at h
  · rename_i hchat
    dsimp only at h
    split at h
    · exact .inr (.inr ⟨by simp [speaking, hchat], _, List.mem_singleton.mp h, rfl⟩)
    · cases h
  split at h
  · rename_i hchat
    dsimp only at h
    split at h
    · rename_i rows hrows
      exact .inr (.inl (hdelivered (by simp [speaking, hchat])
        (fun row hrow => mem_getChatMessages hrows hrow) h))
    · cases h
  · cases h

lemma authorised_append {l m : List Event} (hl : Authorised l) (hm : ∀ e ∈ m, Covered l e) :
    Authorised (m ++ l) := by
  induction m with
  | nil => exact hl
  | cons e m ih =>
    refine ⟨?_, ih fun x hx => hm x (by simp [hx])⟩
    have he := hm e (by simp)
    cases e with
    | loggedIn => trivial
    | delivered client named row =>
      obtain ⟨username, hmem, hrow⟩ := he
      exact ⟨username, by simp [hmem], hrow⟩
    | posted client row => exact List.mem_append_right m he

/-! ### Runs -/

lemma step_log {w w' : Site} {i : Transport × Bool × Input} (h : step hash w i = .ok w') :
    w'.log = w.log ∨ ∃ tr throws client l_id data took, i = (tr, throws, .packet client l_id data) ∧
      w'.log = clientEvents (w.tables.database hash throws) client l_id data took ++ w.log := by
  obtain ⟨tr, throws, i⟩ := i
  cases i with
  | update dt =>
    cases h
    exact .inl rfl
  | packet client l_id data =>
    rw [step] at h
    split at h
    · cases h
    · cases h
      dsimp only
      split
      · exact .inr ⟨tr, throws, client, l_id, data, _, rfl, rfl⟩
      · exact .inl rfl

lemma step_log_sub {w w' : Site} {i : Transport × Bool × Input} (h : step hash w i = .ok w') :
    ∀ e ∈ w.log, e ∈ w'.log := by
  obtain heq | ⟨_, _, _, _, _, _, _, heq⟩ := step_log h
  · rw [heq]
    exact fun _ he => he
  · rw [heq]
    exact fun _ he => List.mem_append_right _ he

lemma clientTables_message (client : Endpoint) {l_id : ℤ} {data : List UInt8} (took : Bool)
    {r : MessageRow} (hr : r ∈ (clientTables hash throws l_id data t).message) :
    r ∈ t.message ∨
      .posted client (texts r) ∈ clientEvents (t.database hash throws) client l_id data took := by
  unfold clientTables at hr
  split at hr
  · left
    obtain ⟨-, heq⟩ | ⟨-, t', row, heq, -, -, -, -, hmessage, -⟩ :=
      t.registerUser_cases hash throws (payload readThree data).1 (payload readThree data).2.1
        (payload readThree data).2.2
    · dsimp only at hr
      rwa [heq] at hr
    · dsimp only at hr
      rwa [heq, hmessage] at hr
  split at hr
  · rename_i hid
    dsimp only at hr
    have hanswer := t.addMessage_answer hash throws (payload readThree data).1
      (payload readThree data).2.1 (payload readThree data).2.2
    obtain ⟨-, heq⟩ | ⟨-, t', row, heq, hs, hrec, hc, hmessage, -⟩ :=
      t.addMessage_cases throws (payload readThree data).1 (payload readThree data).2.1
        (payload readThree data).2.2
    · rw [heq] at hr
      exact .inl hr
    · rw [heq] at hr hanswer
      rw [hmessage] at hr
      rcases List.mem_append.mp hr with hr | hr
      · exact .inl hr
      · right
        rw [List.mem_singleton.mp hr, hid, clientEvents, if_neg (by decide), if_neg (by decide),
          if_pos rfl]
        dsimp only
        rw [if_pos hanswer.symm, texts, hs, hrec, hc]
        exact List.mem_singleton_self _
  · exact .inl hr

lemma step_message {w w' : Site} {i : Transport × Bool × Input} (h : step hash w i = .ok w')
    {r : MessageRow} (hr : r ∈ w'.tables.message) :
    r ∈ w.tables.message ∨ ∃ client, .posted client (texts r) ∈ w'.log := by
  obtain ⟨tr, throws, i⟩ := i
  cases i with
  | update dt =>
    cases h
    exact .inl hr
  | packet client l_id data =>
    rw [step] at h
    split at h
    · cases h
    · rename_i calls hcalls
      cases h
      dsimp only at hr ⊢
      rw [handleTables] at hr
      split at hr
      · rename_i hcid
        rw [if_pos hcid]
        obtain hold | hnew := clientTables_message client (took tr w.server calls) hr
        · exact .inl hold
        · exact .inr ⟨client, List.mem_append_left _ hnew⟩
      · exact .inl hr

/-- What holds of the site after any requests: rows were shown to those who named a user of theirs,
and the messages are those of the file and those posted. -/
structure Traced (file : Tables) (w : Site) : Prop where
  named : ∀ e ∈ w.log, Named e
  message : ∀ r ∈ w.tables.message, r ∈ file.message ∨ ∃ client, .posted client (texts r) ∈ w.log

lemma Traced.step {file : Tables} {w w' : Site} {i : Transport × Bool × Input}
    (hw : Traced file w) (h : step hash w i = .ok w') : Traced file w' := by
  refine ⟨?_, fun r hr => ?_⟩
  · obtain heq | ⟨_, _, client, l_id, data, _, -, heq⟩ := step_log h
    · rw [heq]
      exact hw.named
    · rw [heq]
      intro e he
      rcases List.mem_append.mp he with he | he
      · obtain ⟨_, rfl⟩ | ⟨-, row, rfl, hrow⟩ | ⟨-, row, rfl, -⟩ := mem_clientEvents he
        · trivial
        · exact hrow
        · trivial
      · exact hw.named e he
  · obtain hold | hnew := step_message h hr
    · obtain hfile | ⟨client, hposted⟩ := hw.message r hold
      · exact .inl hfile
      · exact .inr ⟨client, step_log_sub h _ hposted⟩
    · exact .inr hnew

lemma authorised_step {w w' : Site} {i : Transport × Bool × Input} (hw : Authorised w.log)
    (hi : Honest w i) (h : step hash w i = .ok w') : Authorised w'.log := by
  obtain heq | ⟨tr, throws, client, l_id, data, took, rfl, heq⟩ := step_log h
  · rwa [heq]
  · rw [heq]
    refine authorised_append hw fun e he => ?_
    obtain ⟨_, rfl⟩ | ⟨hid, row, rfl, hrow⟩ | ⟨hid, row, rfl, hrow⟩ := mem_clientEvents he
    · trivial
    · exact ⟨_, hi hid, hrow⟩
    · rw [Covered, hrow]
      exact hi hid

/-- **What the server guards.** In every run of requests, on any database file: a row is delivered
only in reply to a request that names its sender or its receiver, and every message that was not in
the file was posted by a request that names its sender. If each request names a user as whom its
client has logged in before, then every row delivered is of such a user, and every message posted is
from one. -/
theorem requests_named (hash : String → ℕ) (file : Tables)
    (inputs : List (Transport × Bool × Input))
    (w : Site) (hr : runE (step hash) (start file) inputs = .ok w) :
    ((∀ e ∈ w.log, Named e) ∧
      ∀ r ∈ w.tables.message, r ∈ file.message ∨ ∃ client, .posted client (texts r) ∈ w.log) ∧
    (AlongE (step hash) Honest (start file) inputs → Authorised w.log) := by
  have htraced : Traced file w :=
    runE_inv (I := Traced file) (P := fun _ => True) (fun _ _ _ hw _ h => hw.step h)
      ⟨List.forall_mem_nil _, fun r hr => .inl hr⟩ (fun _ _ => trivial) hr
  refine ⟨⟨htraced.named, htraced.message⟩, fun hhonest => ?_⟩
  rw [← List.append_nil inputs] at hhonest
  exact hhonest.reaches (I := fun u : Site => Authorised u.log)
    (fun _ _ _ hu hi h => authorised_step hu hi h) trivial hr

/-- A transport that takes everything, and a database that never throws of itself. -/
def calmly (i : Input) : Transport × Bool × Input := (fun _ => true, false, i)

/-- A client connects, registers as Ann and logs in. -/
def loggingIn : List (Transport × Bool × Input) :=
  [calmly (.packet (1, 10) PacketType.Connect.id []),
    calmly (.packet (1, 10) PacketType.Register.id
      (["a@b", "ann", "pw"].flatMap Packet.string.put)),
    calmly (.packet (1, 10) PacketType.Login.id (["a@b", "pw"].flatMap Packet.string.put))]

def annsMessage : Transport × Bool × Input := calmly (.packet (1, 10) PacketType.ChatMessage.id
  (["ann", "ann", "hi"].flatMap Packet.string.put))

/-- It writes as Ann. -/
theorem requests_named_ann :
    Authorised (reached (step String.length) (start .fresh) (loggingIn ++ [annsMessage])).log ∧
    (reached (step String.length) (start .fresh) (loggingIn ++ [annsMessage])).log =
      [.posted (1, 10) ("ann", "ann", "hi"), .loggedIn (1, 10) "ann"] := by
  refine ⟨(requests_named String.length .fresh (loggingIn ++ [annsMessage]) _
    (runE_reached (by decide +kernel))).2 ?_, by decide +kernel⟩
  have hquiet : AlongE (step String.length) Honest (start .fresh) loggingIn := by
    refine ⟨fun h => absurd h (by decide), fun _ _ =>
      ⟨fun h => absurd h (by decide), fun _ _ => ?_⟩⟩
    exact ⟨fun h => absurd h (by decide), fun _ _ => trivial⟩
  refine hquiet.snoc (runE_reached (by decide +kernel)) fun _ => ?_
  decide +kernel

/-- Two clients that never log in: one writes in Ann's name, the other reads Bob's messages. -/
def forgery : List (Transport × Bool × Input) :=
  [calmly (.packet (1, 10) PacketType.Connect.id []),
    calmly (.packet (1, 10) PacketType.ChatMessage.id
      (["ann", "bob", "hi"].flatMap Packet.string.put)),
    calmly (.packet (2, 20) PacketType.Connect.id []),
    calmly (.packet (2, 20) PacketType.Sql.id (Packet.string.put "bob"))]

theorem forgery_unauthorised :
    runE (step String.length) (start .fresh) forgery =
      .ok (reached (step String.length) (start .fresh) forgery) ∧
    (reached (step String.length) (start .fresh) forgery).log =
      [.delivered (2, 20) "bob" ("ann", "bob", "hi"), .posted (1, 10) ("ann", "bob", "hi")] ∧
    ¬ Authorised (reached (step String.length) (start .fresh) forgery).log := by
  have hlog : (reached (step String.length) (start .fresh) forgery).log =
      [.delivered (2, 20) "bob" ("ann", "bob", "hi"), .posted (1, 10) ("ann", "bob", "hi")] := by
    decide +kernel
  refine ⟨runE_reached (by decide +kernel), hlog, ?_⟩
  rw [hlog]
  rintro ⟨⟨username, hmem, -⟩, -⟩
  simp at hmem

end Site

end Sfrpg
