import Sfrpg.Honesty

/-!
Messages stay.

No step of a client or the server takes a row out of the tables, so whatever goes on after a message
was stored, who asks for it gets it.
-/

namespace Sfrpg

open Lib Lib.Run Server

namespace Room

variable {hash : String → ℕ} {file : Tables} {w v : Room} {e : Endpoint}

lemma Grows.refl (w : Room) : Grows w w := ⟨fun _ h => h, fun _ h => h, fun _ h => h⟩

lemma Grows.trans {x : Room} (h : Grows w v) (h' : Grows v x) : Grows w x :=
  ⟨fun y hy => h'.up y (h.up y hy), fun r hr => h'.user r (h.user r hr),
    fun r hr => h'.message r (h.message r hr)⟩

lemma grows_move {f : Process → Except Unit (Process × List Outgoing)}
    (hv : w.move e f = .ok v) : Grows w v ∧ v.site = w.site := by
  unfold Room.move at hv
  split at hv
  · cases hv
  rename_i p hp
  cases hr : f p with
  | error _ =>
    rw [hr] at hv
    cases hv
  | ok r =>
    rw [hr] at hv
    obtain rfl := Except.ok.inj hv
    exact ⟨⟨fun _ hx => List.mem_append_left _ hx, fun _ hr => hr, fun _ hr => hr⟩, rfl⟩

/-- **Nothing is forgotten**: no step takes a row out of the tables. -/
lemma grows_step {a : Act} (hv : Room.step hash w a = .ok v) :
    Grows w v ∧ v.site.tables.foreignKeys = w.site.tables.foreignKeys := by
  have hmove : ∀ {e f}, w.move e f = .ok v →
      Grows w v ∧ v.site.tables.foreignKeys = w.site.tables.foreignKeys := fun h =>
    ⟨(grows_move h).1, by rw [(grows_move h).2]⟩
  cases a with
  | launch e k =>
    rw [Room.step] at hv
    split at hv
    · cases hv
      exact ⟨⟨fun _ hx => List.mem_append_left _ hx, fun _ hr => hr, fun _ hr => hr⟩, rfl⟩
    · cases hv
  | giveUp e => exact hmove hv
  | read e => exact hmove hv
  | carryOut e => exact hmove hv
  | receive e packet u =>
    rw [Room.step] at hv
    split at hv
    · exact hmove hv
    · cases hv
  | catchUp e => exact hmove hv
  | update e dt => exact hmove hv
  | serve e o tr throws =>
    rw [Room.step] at hv
    split at hv
    · cases hs : w.site.listen hash tr throws e o.packet with
      | error _ =>
        rw [hs] at hv
        cases hv
      | ok site =>
        rw [hs] at hv
        cases hv
        have hquiet : site.tables = w.site.tables → Grows w { w with site := site } ∧
            site.tables.foreignKeys = w.site.tables.foreignKeys := fun heq =>
          ⟨⟨fun _ hx => hx, fun r hr => by rwa [heq], fun r hr => by rwa [heq]⟩, by rw [heq]⟩
        cases Site.listened hs with
        | dropped server tables => exact hquiet tables
        | beat server tables => exact hquiet tables
        | handled l_id data calls hdata hcalls server tables =>
          refine ⟨⟨fun _ hx => hx, fun r hr => ?_, fun r hr => ?_⟩, ?_⟩
          · rw [tables]
            exact ServerMain.handleTables_user hash throws _ e l_id data _ r hr
          · rw [tables]
            exact ServerMain.handleTables_message hash throws _ e l_id data _ r hr
          · dsimp only
            rw [tables, ServerMain.handleTables_foreignKeys]
    · cases hv
  | tick tr dt =>
    cases hv
    exact ⟨⟨fun _ h => h, fun _ h => h, fun _ h => h⟩, rfl⟩
  | dc tr =>
    cases hv
    exact ⟨⟨fun _ h => h, fun _ h => h, fun _ h => h⟩, rfl⟩

lemma grows_run {acts : List Act} (hr : runE (Room.step hash) w acts = .ok v) :
    Grows w v ∧ v.site.tables.foreignKeys = w.site.tables.foreignKeys :=
  runE_inv (I := fun u => Grows w u ∧ u.site.tables.foreignKeys = w.site.tables.foreignKeys)
    (P := fun _ => True)
    (fun _ _ _ hu _ hv => ⟨hu.1.trans (grows_step hv).1, (grows_step hv).2.trans hu.2⟩)
    ⟨.refl w, rfl⟩ (fun _ _ => trivial) hr

lemma listen_request {s site : Site} {tr : Transport} {throws : Bool} {name : String}
    {r : ClientMain.Request} (hs : s.listen hash tr throws e (r.packet name) = .ok site) :
    ∃ calls, ServerMain.handlePacket (s.tables.database hash throws) (s.counted (r.packet name))
        e.1 e.2 r.type.id ((r.strings name).flatMap Packet.string.put) = some calls ∧
      site.server = calls.foldl (Server.call tr) (s.counted (r.packet name)) ∧
      site.tables = ServerMain.handleTables hash throws (s.counted (r.packet name))
        e.1 e.2 r.type.id ((r.strings name).flatMap Packet.string.put) s.tables := by
  have hknown : ¬ (r.type.id < PacketType.Disconnect.id ∨ PacketType.OutOfBounds.id ≤ r.type.id) ∧
      r.type.id ≠ PacketType.Heartbeat.id := by
    cases r <;> simp [ClientMain.Request.type, PacketType.id]
  unfold Site.listen at hs
  rw [r.getInt8_packet] at hs
  dsimp only at hs
  rw [if_neg hknown.1, if_neg hknown.2, Site.step] at hs
  split at hs
  · cases hs
  · rename_i calls hcalls
    cases hs
    exact ⟨calls, hcalls, rfl, rfl⟩

lemma serve_message (hw : Sound hash file w) (hkeys : w.site.tables.foreignKeys = false)
    {sender receiver content : String} {tr : Transport}
    (hfits : DbText.Fits sender ∧ DbText.Fits receiver ∧ DbText.Fits content)
    (hclient : 0 ≤ w.site.server.getClientID e.1 e.2)
    (hv : Room.step hash w (.serve e (.request sender (.message receiver content)) tr false) =
      .ok v) : ∃ r ∈ v.site.tables.message, Site.texts r = (sender, receiver, content) := by
  rw [Room.step] at hv
  split at hv
  · rename_i hup
    have hread := (ClientMain.Request.reads (hw.asked _ _ _ hup).2).three sender receiver content []
      rfl
    cases hs : w.site.listen hash tr false e
        (Outgoing.request sender (.message receiver content)).packet with
    | error _ =>
      rw [hs] at hv
      cases hv
    | ok site =>
      rw [hs] at hv
      cases hv
      obtain ⟨calls, -, -, htables⟩ := listen_request hs
      dsimp only
      rw [htables, ServerMain.handleTables, Site.getClientID_counted, if_pos hclient]
      have hadd := ServerMain.clientTables_chatMessage hash false w.site.tables hread
      change ∃ r ∈ (ServerMain.clientTables hash false PacketType.ChatMessage.id _ _).message, _
      rw [hadd]
      obtain ⟨hrefused, -⟩ | ⟨-, t', row, heq, hsender, hreceiver, hcontent, hmessage, -⟩ :=
        w.site.tables.addMessage_cases false sender receiver content
      · refine absurd hrefused (not_or.mpr ⟨Bool.false_ne_true, ?_⟩)
        rintro (hno | ⟨hon, -⟩)
        · exact hno hfits
        · rw [hkeys] at hon
          cases hon
      · rw [heq]
        dsimp only
        rw [hmessage]
        exact ⟨row, by simp, by rw [Site.texts, hsender, hreceiver, hcontent]⟩
  · cases hv

/-- The request asks, in the name `name`, for the messages between the two, or for all of one. -/
def AsksFor (sender receiver name : String) (r : ClientMain.Request) : Prop :=
  (r = .chat ∧ (name = sender ∨ name = receiver)) ∨
    (r = .chatwith receiver ∧ name = sender) ∨ (r = .chatwith sender ∧ name = receiver)

lemma reply_has {t : Tables} {sender receiver content name : String} {r : ClientMain.Request}
    (hstored : ∃ r ∈ t.message, Site.texts r = (sender, receiver, content))
    (hasks : AsksFor sender receiver name r) (cid : ClientID) (e : Endpoint) :
    ∃ rows, (sender, receiver, content) ∈ rows ∧ (∀ row ∈ rows, ClientMain.RowFits row) ∧
      ServerMain.handleClient (t.database hash false) cid e.1 e.2 r.type.id
        ((r.strings name).flatMap Packet.string.put) =
        some [.send cid (ServerMain.putResult rows (stampPacket r.type .empty))] := by
  obtain ⟨row, hrow, htexts⟩ := hstored
  have hmem : (sender, receiver, content) ∈ t.message.map Site.texts :=
    List.mem_map.mpr ⟨row, hrow, htexts⟩
  have hsender : DbText.Fits sender := by
    have h := row.sender.fits_text
    rwa [show row.sender.text = sender from (Prod.mk.inj htexts).1] at h
  have hreceiver : DbText.Fits receiver := by
    have h := row.receiver.fits_text
    rwa [show row.receiver.text = receiver from (Prod.mk.inj (Prod.mk.inj htexts).2).1] at h
  have hfits : ∀ {p : MessageText → Bool}, ∀ row ∈ (t.message.map Site.texts).filter p,
      ClientMain.RowFits row := by
    intro p row hrow
    obtain ⟨r, -, rfl⟩ := List.mem_map.mp (List.mem_filter.mp hrow).1
    exact rowFits_texts r
  have hstring : ∀ {x : String}, DbText.Fits x → Packet.StringFits x := fun hx =>
    ⟨by simpa using hx.1, Nat.lt_trans hx.2 (by decide)⟩
  have hchat : ∀ {a b : String}, DbText.Fits a → DbText.Fits b →
      Selected a b (sender, receiver, content) → ∃ rows, (sender, receiver, content) ∈ rows ∧
        (∀ row ∈ rows, ClientMain.RowFits row) ∧
        ServerMain.handleClient (t.database hash false) cid e.1 e.2 PacketType.Chat.id
          (((ClientMain.Request.chatwith b).strings a).flatMap Packet.string.put) =
          some [.send cid (ServerMain.putResult rows (stampPacket .Chat .empty))] := by
    intro a b ha hb hsel
    refine ⟨(t.message.map Site.texts).filter (Selected a b),
      List.mem_filter.mpr ⟨hmem, decide_eq_true hsel⟩, hfits, ?_⟩
    have hasked : (ClientMain.Request.chatwith b).Fits a := fun s hs => by
      simp only [ClientMain.Request.strings, List.mem_cons, List.not_mem_nil, or_false] at hs
      rcases hs with rfl | rfl
      · exact hstring ha
      · exact hstring hb
    have hread := (ClientMain.Request.reads hasked).two a b [] rfl
    rw [ServerMain.handleClient_chat, hread, Tables.getChatMessages_eq, if_pos ⟨rfl, ha, hb⟩]
  rcases hasks with ⟨rfl, hname⟩ | ⟨rfl, rfl⟩ | ⟨rfl, rfl⟩
  · have hn : DbText.Fits name := by
      rcases hname with rfl | rfl
      · exact hsender
      · exact hreceiver
    refine ⟨(t.message.map Site.texts).filter fun m => m.1 = name ∨ m.2.1 = name,
      List.mem_filter.mpr ⟨hmem, decide_eq_true (hname.imp Eq.symm Eq.symm)⟩, hfits, ?_⟩
    have hasked : ClientMain.Request.chat.Fits name := fun s hs => by
      rw [List.mem_singleton.mp hs]
      exact hstring hn
    have hread := (ClientMain.Request.reads hasked).one name [] rfl
    change ServerMain.handleClient _ cid e.1 e.2 PacketType.Sql.id _ = _
    rw [ServerMain.handleClient_sql, hread, Tables.getMessagesForUser_eq, if_pos ⟨rfl, hn⟩]
    rfl
  · exact hchat hsender hreceiver ⟨.inl rfl, .inr rfl⟩
  · exact hchat hreceiver hsender ⟨.inr rfl, .inl rfl⟩

end Room

end Sfrpg
