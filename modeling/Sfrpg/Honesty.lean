import Sfrpg.Answers
import Sfrpg.Room

/-!
What the chat program guarantees where all packets come from its clients.

The server believes every request. The clients speak for the name they were told, and they are told
a name in reply to an address and a password alone. So a client calls itself, writes and reads by a
name that was earned at its endpoint, or by none, and it shows nothing but what was stored.
-/

namespace Sfrpg

open Lib Lib.Run Server

/-! ### Packets of the clients -/

lemma PacketType.id_injective : Function.Injective PacketType.id := by
  intro a b h
  cases a <;> cases b <;> first | rfl | exact absurd h (by decide)

namespace Outgoing

lemma request_of_type {o : Outgoing} {type : PacketType} {data : List UInt8}
    (h : Packet.getInt8 o.packet.data = some (type.id, data))
    (htype : type ≠ .Connect ∧ type ≠ .Disconnect ∧ type ≠ .Heartbeat) :
    ∃ name r, o = .request name r ∧ r.type = type ∧
      data = (r.strings name).flatMap Packet.string.put := by
  have hother : ∀ type' : PacketType, type ≠ type' →
      Packet.getInt8 (stampPacket type' .empty).data ≠ some (type.id, data) := by
    intro type' hne h'
    rw [getInt8_stampPacket, Option.some.injEq, Prod.mk.injEq] at h'
    exact hne (PacketType.id_injective h'.1.symm)
  cases o with
  | connect => exact absurd h (hother _ htype.1)
  | disconnect => exact absurd h (hother _ htype.2.1)
  | heartbeat => exact absurd h (hother _ htype.2.2)
  | request name r =>
    rw [packet, r.getInt8_packet, Option.some.injEq, Prod.mk.injEq] at h
    exact ⟨name, r, rfl, PacketType.id_injective h.1, h.2.symm⟩

end Outgoing

namespace Room

variable {hash : String → ℕ} {file : Tables} {w v : Room} {e : Endpoint} {p q : Process}

/-! ### What a client makes of a packet -/

/-- What the handler of the client does is to call itself by an earned name, or to print what it
may. -/
structure Says (hash : String → ℕ) (w : Room) (e : Endpoint) (l_id : ℤ) (a : ClientMain.Action) :
    Prop where
  name : ∀ name, a = .setUserName name → Earned hash w e name ∧ Packet.StringFits name
  print : ∀ type, type = .Sql ∨ type = .Chat → l_id = type.id → MayPrint hash w e type a

lemma says_of_other {l_id : ℤ} {unread : Packet.Unread} {u : ℤ} {a : ClientMain.Action}
    (ha : a ∈ ClientMain.handlePacket u l_id unread)
    (hid : ∀ type ∈ ServerMain.telling, l_id ≠ type.id) : Says hash w e l_id a := by
  have hlogin := hid .Login (by decide)
  have hsql := hid .Sql (by decide)
  have hchat := hid .Chat (by decide)
  refine ⟨?_, fun type htype h => ?_⟩
  · rintro name rfl
    unfold ClientMain.handlePacket at ha
    rw [if_neg hlogin, if_neg hsql, if_neg hchat] at ha
    split at ha
    · cases List.mem_singleton.mp ha
    split at ha
    · cases List.mem_singleton.mp ha
    · cases ha
  · rcases htype with rfl | rfl
    · exact absurd h hsql
    · exact absurd h hchat

lemma handlePacket_login (u : ℤ) (unread : Packet.Unread) :
    ClientMain.handlePacket u PacketType.Login.id unread =
      if (Packet.string.read "" unread).2.isNone then
        [.print "Failed to login, error occured."]
      else [.setUserName (Packet.string.read "" unread).1, .print "Logged in successfully."] :=
  rfl

lemma says_failed {type : PacketType} (htype : type = .Sql ∨ type = .Chat)
    {unread : Packet.Unread} {u : ℤ} {a : ClientMain.Action}
    (hread : (ClientMain.readResult u unread).1 = none)
    (ha : a ∈ ClientMain.handlePacket u type.id unread) : Says hash w e type.id a := by
  have hprint : a = .print "Failed to load messages, error occured." := by
    rcases htype with rfl | rfl
    · rw [ClientMain.handlePacket_sql, hread] at ha
      exact List.mem_singleton.mp ha
    · rw [ClientMain.handlePacket_chat, hread] at ha
      exact List.mem_singleton.mp ha
  rw [hprint]
  exact ⟨fun _ h => (nomatch h), fun _ _ _ => .inl rfl⟩

lemma says_rows {type : PacketType} (htype : type = .Sql ∨ type = .Chat) {unread : Packet.Unread}
    {u : ℤ} {rows : DbResult} {a : ClientMain.Action}
    (hread : (ClientMain.readResult u unread).1 = some rows)
    (hrows : ∀ row ∈ rows, Shows hash w e row)
    (ha : a ∈ ClientMain.handlePacket u type.id unread) : Says hash w e type.id a := by
  have hline : ∃ row ∈ rows, a = .print (ClientMain.line type row) := by
    rcases htype with rfl | rfl
    · rw [ClientMain.handlePacket_sql, hread] at ha
      obtain ⟨row, hrow, rfl⟩ := List.mem_map.mp ha
      exact ⟨row, hrow, rfl⟩
    · rw [ClientMain.handlePacket_chat, hread] at ha
      obtain ⟨row, hrow, rfl⟩ := List.mem_map.mp ha
      exact ⟨row, hrow, rfl⟩
  obtain ⟨row, hrow, rfl⟩ := hline
  refine ⟨fun _ h => (nomatch h), fun type' _ h => .inr ⟨row, hrows row hrow, ?_⟩⟩
  rw [PacketType.id_injective h]

/-- **A client that is told what is earned says what is earned.** -/
lemma Told.says {packet : Packet} (h : Told hash w e packet) {l_id : ℤ} {data : List UInt8}
    (hdata : Packet.getInt8 packet.data = some (l_id, data)) {u : ℤ} {a : ClientMain.Action}
    (ha : a ∈ ClientMain.handlePacket u l_id (some data)) : Says hash w e l_id a := by
  have hlogin : ∀ text, l_id = PacketType.Login.id → data = text →
      ∀ name, (Packet.string.read "" (some text)) = (name, some []) → Earned hash w e name →
        Packet.StringFits name → Says hash w e l_id a := by
    rintro text rfl rfl name hread hearned hfits
    rw [handlePacket_login, hread] at ha
    have hmem : a = .setUserName name ∨ a = .print "Logged in successfully." := by
      simpa using ha
    rcases hmem with rfl | rfl
    · refine ⟨fun _ h => ?_, fun type htype h => ?_⟩
      · cases h
        exact ⟨hearned, hfits⟩
      · rcases htype with rfl | rfl <;> exact absurd h (by decide)
    · refine ⟨fun _ h => (by cases h), fun type htype h => ?_⟩
      rcases htype with rfl | rfl <;> exact absurd h (by decide)
  cases h with
  | plain h =>
    refine says_of_other ha fun type htype hid => h type htype ?_
    rw [Packet.stamp, hdata, hid]
    rfl
  | refused h =>
    rw [h, getInt8_stampPacket, Option.some.injEq, Prod.mk.injEq] at hdata
    obtain ⟨rfl, rfl⟩ := hdata
    rw [handlePacket_login] at ha
    have hmem : a = .print "Failed to login, error occured." := List.mem_singleton.mp ha
    rw [hmem]
    refine ⟨fun _ h => (by cases h), fun type htype h => ?_⟩
    rcases htype with rfl | rfl <;> exact absurd h (by decide)
  | name name fits earned h =>
    have hstamp : Packet.getInt8 packet.data =
        some (PacketType.Login.id, Packet.string.put name) := by
      rw [h]
      exact Packet.getInt8_byte (by decide) (by decide) _
    rw [hstamp, Option.some.injEq, Prod.mk.injEq] at hdata
    exact hlogin _ hdata.1.symm hdata.2.symm name (Takes.read Packet.string fits "").run earned fits
  | failed type htype h =>
    have hstamp : Packet.getInt8 packet.data =
        some (type.id, Packet.word Network.NullID) := by
      rw [h]
      exact Packet.getInt8_byte (ClientMain.id_bounds type).1 (ClientMain.id_bounds type).2 _
    rw [hstamp, Option.some.injEq, Prod.mk.injEq] at hdata
    obtain ⟨rfl, rfl⟩ := hdata
    have hread := ClientMain.readResult_null u []
    rw [List.append_nil] at hread
    exact says_failed htype hread ha
  | rows type htype rows fits shows h =>
    have hstamp : Packet.getInt8 packet.data = some (type.id,
        Packet.word (Word.toInt32 rows.length) ++ rows.flatMap ClientMain.putRow) := by
      rw [h, ClientMain.putResult_data]
      exact Packet.getInt8_byte (ClientMain.id_bounds type).1 (ClientMain.id_bounds type).2 _
    have hsize := Word.inInt32_toInt32 (rows.length : ℤ)
    generalize Word.toInt32 (rows.length : ℤ) = size at hstamp hsize
    rw [hstamp, Option.some.injEq, Prod.mk.injEq] at hdata
    obtain ⟨rfl, rfl⟩ := hdata
    obtain hread | ⟨n, hread⟩ := ClientMain.readResult_rows hsize u fits
    · exact says_failed htype hread ha
    · exact says_rows htype hread (fun row hrow => shows row (List.mem_of_mem_take hrow)) ha

/-! ### What a client does -/

/-- The process is as it should be, and what it sends it may. -/
def Safe (hash : String → ℕ) (w : Room) (e : Endpoint) (r : Process × List Outgoing) : Prop :=
  Fair hash w e r.1 ∧ ∀ name req, .request name req ∈ r.2 →
    SpeaksFor hash w e name ∧ req.Fits name

lemma stringFits_empty : Packet.StringFits "" := by decide

lemma fair_launch (k : ClientMain.Keyboard) : Fair hash w e (.launch k) where
  speaks := .inl rfl
  fits := stringFits_empty
  within := by
    intro rest h
    cases h
    exact List.suffix_rfl
  pending := fun _ h => nomatch h
  heard := List.forall_mem_nil _

lemma Fair.quiet (h : Fair hash w e p) : Safe hash w e (p, []) := ⟨h, fun _ _ hm => nomatch hm⟩

lemma Fair.disconnect (h : Fair hash w e p) : Safe hash w e p.disconnect := by
  unfold Process.disconnect
  split
  · refine ⟨⟨h.speaks, h.fits, h.within, h.pending, h.heard⟩, fun name req hm => ?_⟩
    cases List.mem_singleton.mp hm
  · exact h.quiet

lemma Safe.perform {l_id : ℤ} {acc : Process × List Outgoing} (h : Safe hash w e acc)
    {a : ClientMain.Action} (ha : Says hash w e l_id a) :
    Safe hash w e (Process.perform l_id acc a) := by
  have hheard : ∀ x ∈ acc.1.heard ++ [(l_id, a)], ∀ type, type = .Sql ∨ type = .Chat →
      x.1 = type.id → MayPrint hash w e type x.2 := by
    intro x hx type htype hid
    rcases List.mem_append.mp hx with hx | hx
    · exact h.1.heard x hx type htype hid
    · rw [List.mem_singleton.mp hx] at hid ⊢
      exact ha.print type htype hid
  cases a with
  | print line => exact ⟨⟨h.1.speaks, h.1.fits, h.1.within, h.1.pending, hheard⟩, h.2⟩
  | setUserName name =>
    obtain ⟨hearned, hfits⟩ := ha.name name rfl
    exact ⟨⟨.inr hearned, hfits, h.1.within, h.1.pending, hheard⟩, h.2⟩
  | disconnect =>
    have hfair : Fair hash w e { acc.1 with heard := acc.1.heard ++ [(l_id, .disconnect)] } :=
      ⟨h.1.speaks, h.1.fits, h.1.within, h.1.pending, hheard⟩
    obtain ⟨hp, hsent⟩ := hfair.disconnect
    refine ⟨hp, fun name req hm => ?_⟩
    rcases List.mem_append.mp hm with hm | hm
    · exact h.2 name req hm
    · exact hsent name req hm

lemma Fair.handle (h : Fair hash w e p) {u l_id : ℤ} {data : List UInt8}
    (hword : ∀ a ∈ ClientMain.handlePacket u l_id (some data), Says hash w e l_id a) :
    Safe hash w e (p.handle u l_id data) := by
  have hfold : ∀ (as : List ClientMain.Action), (∀ a ∈ as, Says hash w e l_id a) →
      ∀ acc, Safe hash w e acc → Safe hash w e (as.foldl (Process.perform l_id) acc) := by
    intro as
    induction as with
    | nil => exact fun _ acc hacc => hacc
    | cons a as ih =>
      intro has acc hacc
      obtain ⟨ha, has⟩ := List.forall_mem_cons.mp has
      exact ih has _ (hacc.perform ha)
  exact hfold _ hword _ h.quiet

lemma Fair.session (h : Fair hash w e p) (session : Client.Session) :
    Fair hash w e { p with session := session } :=
  ⟨h.speaks, h.fits, h.within, h.pending, h.heard⟩

lemma Fair.receive (h : Fair hash w e p) {packet : Packet} (htold : Told hash w e packet) {u : ℤ}
    {r : Process × List Outgoing} (hr : p.receive u packet = .ok r) : Safe hash w e r := by
  unfold Process.receive at hr
  split at hr
  · cases hr
    exact h.quiet
  rename_i l_id data hdata
  have hhandle : Safe hash w e (p.handle u l_id data) :=
    h.handle fun a ha => htold.says hdata ha
  split at hr
  · split at hr
    · cases hr
      exact ⟨⟨hhandle.1.speaks, hhandle.1.fits, hhandle.1.within, hhandle.1.pending,
        hhandle.1.heard⟩, hhandle.2⟩
    · cases hr
      exact h.quiet
  split at hr
  · cases hr
  split at hr
  · cases hr
    exact h.quiet
  split at hr
  · cases hs : Client.step p.session (.setTime (Packet.readInt32 u (some data)).1) with
    | error _ =>
      rw [hs] at hr
      cases hr
    | ok session =>
      rw [hs] at hr
      cases hr
      refine ⟨h.session session, fun name req hm => ?_⟩
      cases List.mem_singleton.mp hm
  · cases hr
    exact hhandle

lemma Fair.read (h : Fair hash w e p) (hr : p.read = .ok q) : Fair hash w e q := by
  unfold Process.read at hr
  split at hr
  · split at hr
    · cases hr
    · rename_i c terminal hrun
      cases hr
      obtain ⟨hc, hwithin⟩ := ClientMain.says_readCommand p.keyboard.text p.terminal h.within c
        terminal hrun
      refine ⟨h.speaks, h.fits, hwithin, fun c' h' => ?_, h.heard⟩
      cases h'
      exact hc
  · cases hr

/-- **A client speaks for the name it has.** -/
lemma Fair.carryOut (h : Fair hash w e p) {r : Process × List Outgoing}
    (hr : p.carryOut = .ok r) : Safe hash w e r := by
  have hdone : Fair hash w e { p with pending := none } :=
    ⟨h.speaks, h.fits, h.within, fun _ h => (nomatch h), h.heard⟩
  unfold Process.carryOut at hr
  split at hr
  · cases hr
  · cases hr
    exact hdone.quiet
  · cases hr
    exact hdone.disconnect
  · rename_i req hpending
    cases hr
    refine ⟨hdone, fun name req' hm => ?_⟩
    split at hm
    · cases List.mem_singleton.mp hm
      exact ⟨h.speaks, (ClientMain.Request.fits_of_typed (h.pending _ hpending) h.fits)⟩
    · cases hm

lemma Fair.update (h : Fair hash w e p) {dt : Time} {r : Process × List Outgoing}
    (hr : p.update dt = .ok r) : Safe hash w e r := by
  unfold Process.update at hr
  cases hs : Client.step p.session (.update dt) with
  | error _ =>
    rw [hs] at hr
    cases hr
  | ok session =>
    rw [hs] at hr
    cases hr
    refine ⟨h.session session, fun name req hm => ?_⟩
    dsimp only at hm
    split at hm
    · cases List.mem_singleton.mp hm
    · cases hm

lemma Fair.catchUp (h : Fair hash w e p) {r : Process × List Outgoing}
    (hr : p.catchUp = .ok r) : Safe hash w e r := by
  unfold Process.catchUp at hr
  cases hs : Client.step p.session .catchUp with
  | error _ =>
    rw [hs] at hr
    cases hr
  | ok session =>
    rw [hs] at hr
    cases hr
    exact (h.session session).quiet

/-! ### What the server makes of a packet -/

lemma rowFits_texts (r : MessageRow) : ClientMain.RowFits (Site.texts r) :=
  ⟨ClientMain.stringFits_text _, ClientMain.stringFits_text _, ClientMain.stringFits_text _⟩

lemma told_rows {type : PacketType} (htype : type = .Sql ∨ type = .Chat) {name : String}
    (hname : SpeaksFor hash w e name) {rows : DbResult} {p : MessageText → Bool}
    (hrows : (w.site.tables.message.map Site.texts).filter p = rows)
    (hp : ∀ row, p row = true → row.1 = name ∨ row.2.1 = name) :
    Told hash w e (ServerMain.putResult rows (stampPacket type .empty)) := by
  have hstored : ∀ row ∈ rows, (∃ r ∈ w.site.tables.message, Site.texts r = row) ∧
      (row.1 = name ∨ row.2.1 = name) := by
    rintro row hrow
    rw [← hrows] at hrow
    obtain ⟨hmem, hsel⟩ := List.mem_filter.mp hrow
    exact ⟨List.mem_map.mp hmem, hp row hsel⟩
  refine .rows type htype rows (fun row hrow => ?_) (fun row hrow => ?_) rfl
  · obtain ⟨⟨r, -, rfl⟩, -⟩ := hstored row hrow
    exact rowFits_texts r
  · obtain ⟨hmem, hside⟩ := hstored row hrow
    exact ⟨hmem, name, hname, hside⟩

/-- **The reply to a request of a client may be told to it.** -/
lemma Sound.told_reply (h : Sound hash file w) {o : Outgoing} (ho : (e, o) ∈ w.up)
    {type : PacketType} (htype : type ∈ ServerMain.telling) {data : List UInt8}
    (hdata : Packet.getInt8 o.packet.data = some (type.id, data)) {throws : Bool} {cid : ClientID}
    {packet : Packet} (hcalls : ServerMain.handleClient (w.site.tables.database hash throws) cid e.1
      e.2 type.id data = some [.send cid packet]) : Told hash w e packet := by
  simp only [ServerMain.telling, List.mem_cons, List.not_mem_nil, or_false] at htype
  rcases htype with rfl | rfl | rfl
  · -- `Login`: the name is that of the row with the address and the password
    obtain ⟨before, r, rfl, hr, rfl⟩ := Outgoing.request_of_type hdata (by decide)
    have hfits := (h.asked e before r ho).2
    cases r with
    | login email password =>
      have hread := (ClientMain.Request.reads hfits).two email password [] rfl
      rw [ServerMain.handleClient_login, hread] at hcalls
      obtain ⟨⟨known, name⟩, hanswer, hsend⟩ := Option.map_eq_some_iff.mp hcalls
      cases known with
      | false =>
        cases hsend
        exact .refused rfl
      | true =>
        cases hsend
        obtain ⟨r, hr, hemail, rfl, hpassword⟩ := Tables.mem_of_authenticateUser hanswer
        exact .name _ (ClientMain.stringFits_text _)
          ⟨before, email, password, ho, r, hr, hemail, rfl, hpassword⟩ rfl
    | _ => cases hr
  · -- `Sql`
    obtain ⟨name, r, rfl, hr, rfl⟩ := Outgoing.request_of_type hdata (by decide)
    obtain ⟨hname, hfits⟩ := h.asked e name r ho
    cases r with
    | chat =>
      have hread := (ClientMain.Request.reads hfits).one name [] rfl
      rw [ServerMain.handleClient_sql, hread, Tables.getMessagesForUser_eq] at hcalls
      split at hcalls
      · cases hcalls
      · rename_i rows hrows
        cases hcalls
        split at hrows
        · exact told_rows (.inl rfl) hname (Option.some.inj hrows) fun row hrow => by
            simpa using hrow
        · cases hrows
    | _ => cases hr
  · -- `Chat`
    obtain ⟨name, r, rfl, hr, rfl⟩ := Outgoing.request_of_type hdata (by decide)
    obtain ⟨hname, hfits⟩ := h.asked e name r ho
    cases r with
    | chatwith other =>
      have hread := (ClientMain.Request.reads hfits).two name other [] rfl
      rw [ServerMain.handleClient_chat, hread, Tables.getChatMessages_eq] at hcalls
      split at hcalls
      · cases hcalls
        exact .failed .Chat (.inr rfl) rfl
      · rename_i rows hrows
        cases hcalls
        split at hrows
        · refine told_rows (.inr rfl) hname (Option.some.inj hrows) fun row hrow => ?_
          exact (of_decide_eq_true hrow).1
        · cases hrows
    | _ => cases hr

lemma Sound.stored_message (h : Sound hash file w) {o : Outgoing} (ho : (e, o) ∈ w.up)
    {data : List UInt8} (hdata : Packet.getInt8 o.packet.data =
      some (PacketType.ChatMessage.id, data)) {r : MessageRow}
    (hr : Site.texts r = ServerMain.payload ServerMain.readThree data) :
    (e, .request r.sender.text (.message r.receiver.text r.content.text)) ∈ w.up := by
  obtain ⟨name, req, rfl, hreq, rfl⟩ := Outgoing.request_of_type hdata (by decide)
  have hfits := (h.asked e name req ho).2
  cases req with
  | message receiver content =>
    rw [(ClientMain.Request.reads hfits).three name receiver content [] rfl] at hr
    obtain ⟨rfl, h2⟩ := Prod.mk.inj hr
    obtain ⟨rfl, rfl⟩ := Prod.mk.inj h2
    exact ho
  | _ => cases hreq

/-- What the server does keeps the invariant, if it forgets no row, adds no message that was not
sent, and tells what may be told. -/
lemma Sound.site (h : Sound hash file w) {site : Site}
    (huser : ∀ r ∈ w.site.tables.user, r ∈ site.tables.user)
    (hmessage : ∀ r ∈ w.site.tables.message, r ∈ site.tables.message)
    (hstored : ∀ r ∈ site.tables.message, r ∈ w.site.tables.message ∨
      ∃ e, (e, .request r.sender.text (.message r.receiver.text r.content.text)) ∈ w.up)
    (haddressed : Addressed site.server)
    (hmails : Mails (Told hash w) w.site.server site.server) :
    Sound hash file { w with site := site } := by
  have hgrows : Grows w { w with site := site } := ⟨fun _ hx => hx, huser, hmessage⟩
  refine ⟨haddressed, fun m hm => ?_, fun e p hp => (h.process e p hp).grows hgrows,
    fun e name r hr => ?_, fun r hr => ?_⟩
  · rcases hmails.new m hm with hold | hnew
    · exact (h.told m hold).grows hgrows
    · exact hnew.grows hgrows
  · obtain ⟨hearned, hfits⟩ := h.asked e name r hr
    exact ⟨hearned.grows hgrows, hfits⟩
  · rcases hstored r hr with hold | hnew
    · exact h.stored r hold
    · exact .inr hnew

lemma Sound.server (h : Sound hash file w) {s : Server} (haddressed : Addressed s)
    (hmails : Mails (fun _ p => ServerMain.Plain p) w.site.server s) :
    Sound hash file { w with site := { w.site with server := s } } :=
  h.site (fun _ hr => hr) (fun _ hr => hr) (fun _ hr => .inl hr) haddressed
    (hmails.imp fun _ _ hp => .plain hp)

lemma Sound.mails_calls (h : Sound hash file w) {o : Outgoing} (ho : (e, o) ∈ w.up) {l_id : ℤ}
    {data : List UInt8} (hdata : Packet.getInt8 o.packet.data = some (l_id, data)) {s : Server}
    (hs : Addressed s) {throws : Bool} {calls : List Call}
    (hcalls : ServerMain.handlePacket (w.site.tables.database hash throws) s e.1 e.2 l_id data =
      some calls) (tr : Transport) : Mails (Told hash w) s (calls.foldl (Server.call tr) s) := by
  have hplain : ∀ {cs : List Call}, (∀ c ∈ cs, c.Mails fun _ p => ServerMain.Plain p) →
      Mails (Told hash w) s (cs.foldl (Server.call tr) s) := fun hcs =>
    (Server.mails_calls hcs tr s).imp fun _ _ hp => .plain hp
  unfold ServerMain.handlePacket at hcalls
  dsimp only at hcalls
  split at hcalls
  · rename_i hcid
    obtain hquiet | ⟨type, htype, rfl, packet, rfl⟩ := ServerMain.handleClient_sends hcalls
    · exact hplain hquiet
    · refine mails_send_to (fun e' haddress => ?_) tr
      rw [hs.endpointOf_getClientID hcid, Option.some.injEq] at haddress
      rw [← haddress]
      exact h.told_reply ho htype hdata hcalls
  split at hcalls
  · cases hcalls
    refine hplain fun c hc => ?_
    simp only [List.mem_cons, List.not_mem_nil, or_false] at hc
    rcases hc with rfl | rfl
    · trivial
    · exact fun _ => ServerMain.plain_of_stamp (stamp_stampPacket .Connect) (by decide)
  · cases hcalls
    exact .refl _ s

/-- **The server serves a packet of a client.** -/
lemma Sound.serve (h : Sound hash file w) {o : Outgoing} (ho : (e, o) ∈ w.up) {tr : Transport}
    {throws : Bool} {site : Site} (hs : w.site.listen hash tr throws e o.packet = .ok site) :
    Sound hash file { w with site := site } := by
  have haddressed : Addressed (w.site.counted o.packet) := h.addressed
  have hnothing : ∀ Q, Mails Q w.site.server (w.site.counted o.packet) :=
    fun Q => mails_of_outbox rfl
  have hquiet : ∀ {s : Server}, site.server = s → site.tables = w.site.tables → Addressed s →
      Mails (Told hash w) w.site.server s → Sound hash file { w with site := site } := by
    intro s hserver htables ha hm
    refine h.site (fun r hr => ?_) (fun r hr => ?_) (fun r hr => ?_) (hserver ▸ ha) (hserver ▸ hm)
    · rwa [htables]
    · rwa [htables]
    · rw [htables] at hr
      exact .inl hr
  cases Site.listened hs with
  | dropped server tables => exact hquiet server tables haddressed (hnothing _)
  | beat server tables =>
    refine hquiet server tables (haddressed.narrows (udpHeartbeat_narrows e.1 e.2 _))
      ((hnothing _).trans ?_)
    obtain heq | ⟨id, heq⟩ := udpHeartbeat_cases e.1 e.2 (w.site.counted o.packet)
    · rw [heq]
      exact .refl _ _
    · rw [heq]
      exact mails_heartbeatReply id _
  | handled l_id data calls hdata hcalls server tables =>
    refine h.site (fun r hr => ?_) (fun r hr => ?_) (fun r hr => ?_) ?_ ?_
    · rw [tables]
      exact ServerMain.handleTables_user hash throws _ e l_id data w.site.tables r hr
    · rw [tables]
      exact ServerMain.handleTables_message hash throws _ e l_id data w.site.tables r hr
    · rw [tables] at hr
      obtain hold | ⟨rfl, hnew⟩ := ServerMain.handleTables_stored hr
      · exact .inl hold
      · exact .inr ⟨e, h.stored_message ho hdata hnew⟩
    · rw [server]
      exact haddressed.calls tr calls
    · rw [server]
      exact (hnothing _).trans (h.mails_calls ho hdata haddressed hcalls tr)

/-! ### Runs -/

lemma Sound.put (h : Sound hash file w) {r : Process × List Outgoing} (hr : Safe hash w e r) :
    Sound hash file { w with
      processes := Function.update w.processes e (some r.1), up := w.up ++ r.2.map (e, ·) } := by
  obtain ⟨hfair, hsent⟩ := hr
  have hgrows : Grows w { w with
      processes := Function.update w.processes e (some r.1), up := w.up ++ r.2.map (e, ·) } :=
    ⟨fun _ hx => List.mem_append_left _ hx, fun _ hr => hr, fun _ hr => hr⟩
  refine ⟨h.addressed, fun m hm => (h.told m hm).grows hgrows, fun e' p hp => ?_,
    fun e' name req hreq => ?_, fun row hrow => ?_⟩
  · dsimp only at hp
    by_cases he : e' = e
    · rw [he, Function.update_self, Option.some.injEq] at hp
      rw [he, ← hp]
      exact hfair.grows hgrows
    · rw [Function.update_of_ne he] at hp
      exact (h.process e' p hp).grows hgrows
  · rcases List.mem_append.mp hreq with hold | hnew
    · obtain ⟨hearned, hfits⟩ := h.asked e' name req hold
      exact ⟨hearned.grows hgrows, hfits⟩
    · obtain ⟨o, ho, heq⟩ := List.mem_map.mp hnew
      cases heq
      obtain ⟨hearned, hfits⟩ := hsent name req ho
      exact ⟨hearned.grows hgrows, hfits⟩
  · obtain hfile | ⟨e', hup⟩ := h.stored row hrow
    · exact .inl hfile
    · exact .inr ⟨e', hgrows.up _ hup⟩

lemma Sound.move (h : Sound hash file w) {f : Process → Except Unit (Process × List Outgoing)}
    (hf : ∀ p, Fair hash w e p → ∀ r, f p = .ok r → Safe hash w e r)
    (hv : w.move e f = .ok v) : Sound hash file v := by
  unfold Room.move at hv
  split at hv
  · cases hv
  rename_i p hp
  cases hr : f p with
  | error _ =>
    rw [hr] at hv
    cases hv
  | ok r =>
    rw [hr] at hv
    obtain rfl := Except.ok.inj hv
    exact h.put (hf p (h.process e p hp) r hr)

lemma Sound.launch (h : Sound hash file w) (e : Endpoint) (k : ClientMain.Keyboard) :
    Sound hash file { w with
      processes := Function.update w.processes e (some (.launch k))
      up := w.up ++ [(e, .connect)] } := by
  refine h.put (r := (.launch k, [.connect])) ⟨fair_launch k, fun name req hm => ?_⟩
  cases List.mem_singleton.mp hm

lemma sound_start (hash : String → ℕ) (file : Tables) : Sound hash file (start file) where
  addressed := addressed_start
  told := List.forall_mem_nil _
  process := fun _ _ h => nomatch h
  asked := fun _ _ _ h => nomatch h
  stored := fun _ hr => .inl hr

/-- **Every step of every thread keeps the invariant.** -/
lemma Sound.step (h : Sound hash file w) {a : Act} (hv : step hash w a = .ok v) :
    Sound hash file v := by
  cases a with
  | launch e k =>
    rw [Room.step] at hv
    split at hv
    · cases hv
      exact h.launch e k
    · cases hv
  | giveUp e =>
    refine h.move (fun p hp r hr => ?_) hv
    cases hr
    exact Fair.quiet ⟨hp.speaks, hp.fits, hp.within, hp.pending, hp.heard⟩
  | read e =>
    refine h.move (fun p hp r hr => ?_) hv
    cases hread : p.read with
    | error _ =>
      rw [hread] at hr
      cases hr
    | ok q =>
      rw [hread] at hr
      cases hr
      exact (hp.read hread).quiet
  | carryOut e => exact h.move (fun p hp r hr => hp.carryOut hr) hv
  | receive e packet u =>
    rw [Room.step] at hv
    split at hv
    · rename_i hmem
      exact h.move (fun p hp r hr => hp.receive (h.told _ hmem) hr) hv
    · cases hv
  | catchUp e => exact h.move (fun p hp r hr => hp.catchUp hr) hv
  | update e dt => exact h.move (fun p hp r hr => hp.update hr) hv
  | serve e o tr throws =>
    rw [Room.step] at hv
    split at hv
    · rename_i ho
      cases hs : w.site.listen hash tr throws e o.packet with
      | error _ =>
        rw [hs] at hv
        cases hv
      | ok site =>
        rw [hs] at hv
        cases hv
        exact h.serve ho hs
    · cases hv
  | tick tr dt =>
    cases hv
    refine h.server (h.addressed.narrows (update_narrows tr dt _)) ?_
    exact mails_update (fun _ s => ServerMain.plain_heartbeatPacket s) tr dt _
  | dc tr =>
    cases hv
    refine h.server (fun id info hi => ?_)
      (mails_disconnectAll (fun _ => ServerMain.plain_disconnectPacket) tr _)
    simp [disconnectAll, clear] at hi

lemma sound_run {acts : List Act} (hr : runE (Room.step hash) (start file) acts = .ok w) :
    Sound hash file w :=
  runE_inv (I := Sound hash file) (P := fun _ => True) (fun _ _ _ hw _ hv => hw.step hv)
    (sound_start hash file) (fun _ _ => trivial) hr

/-- **What is shown was written.** In every run: each line a client prints of a reply with messages
is the error text, or that of a stored message which has on one side a user whose name was earned at
its endpoint, or the empty name. It was in the file, or a client wrote it so in a name earned where
it was written, or in the empty one. -/
theorem shown_written (hash : String → ℕ) (file : Tables) (acts : List Act) (w : Room)
    (hr : runE (Room.step hash) (start file) acts = .ok w) (e : Endpoint) (p : Process)
    (hp : w.processes e = some p) (type : PacketType) (htype : type = .Sql ∨ type = .Chat)
    (text : String) (hheard : (type.id, .print text) ∈ p.heard) :
    text = "Failed to load messages, error occured." ∨
    ∃ row : MessageText, text = ClientMain.line type row ∧
      (∃ named, (named = "" ∨ Earned hash w e named) ∧ (row.1 = named ∨ row.2.1 = named)) ∧
      ((∃ r ∈ file.message, Site.texts r = row) ∨
        ∃ e', (e', .request row.1 (.message row.2.1 row.2.2)) ∈ w.up ∧
          (row.1 = "" ∨ Earned hash w e' row.1)) := by
  have hw := sound_run hr
  obtain heq | ⟨row, ⟨⟨r, hstored, hrow⟩, hnamed⟩, heq⟩ :=
    (hw.process e p hp).heard _ hheard type htype rfl
  · cases heq
    exact .inl rfl
  · cases heq
    refine .inr ⟨row, rfl, hnamed, ?_⟩
    obtain hfile | ⟨e', hup⟩ := hw.stored r hstored
    · exact .inl ⟨r, hfile, hrow⟩
    · right
      rw [← hrow]
      exact ⟨e', hup, (hw.asked e' _ _ hup).1⟩

/-- Ann reads what she has written. -/
theorem shown_written_ann : ∃ p, annsRoom.processes (1, 10) = some p ∧
    (PacketType.Chat.id, .print "ann: hello bob") ∈ p.heard ∧
    ("ann: hello bob" = "Failed to load messages, error occured." ∨
      ∃ row : MessageText, "ann: hello bob" = ClientMain.line .Chat row ∧
        (∃ named, (named = "" ∨ Earned String.length annsRoom (1, 10) named) ∧
          (row.1 = named ∨ row.2.1 = named)) ∧
        ((∃ r ∈ Tables.fresh.message, Site.texts r = row) ∨
          ∃ e', (e', .request row.1 (.message row.2.1 row.2.2)) ∈ annsRoom.up ∧
            (row.1 = "" ∨ Earned String.length annsRoom e' row.1))) := by
  have hheard : (annsRoom.processes (1, 10)).map Process.heard =
      some [(PacketType.Login.id, .setUserName "ann"),
        (PacketType.Login.id, .print "Logged in successfully."),
        (PacketType.Chat.id, .print "ann: hello bob")] := by decide +kernel
  obtain ⟨p, hp, hlist⟩ := Option.map_eq_some_iff.mp hheard
  have hmem : (PacketType.Chat.id, .print "ann: hello bob") ∈ p.heard := by simp [hlist]
  exact ⟨p, hp, hmem, shown_written String.length .fresh annsSession annsRoom annsRoom_run
    (1, 10) p hp
    .Chat (.inr rfl) _ hmem⟩

end Room

end Sfrpg
