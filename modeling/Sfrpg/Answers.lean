import Sfrpg.Chats
import Sfrpg.Outbox

/-!
The handler of the server on the tables: what a packet adds to them, and what they answer.

No request takes a row away. A message that is stored is the one its packet carries, and a name that
is told stands in the row with the address and the password.
-/

namespace Sfrpg

open Lib Lib.Table Server

namespace ServerMain

/-- What the branch for a registered client makes of the tables: nothing, a user more, or the
message of the request more. -/
lemma clientTables_cases (hash : String → ℕ) (throws : Bool) (l_id : ℤ) (data : List UInt8)
    (t : Tables) :
    clientTables hash throws l_id data t = t ∨
    (∃ row, (clientTables hash throws l_id data t).user = t.user ++ [row] ∧
      (clientTables hash throws l_id data t).message = t.message) ∨
    (l_id = PacketType.ChatMessage.id ∧ ∃ row, Site.texts row = payload readThree data ∧
      (clientTables hash throws l_id data t).message = t.message ++ [row] ∧
      (clientTables hash throws l_id data t).user = t.user) := by
  unfold clientTables
  split
  · obtain ⟨-, heq⟩ | ⟨-, t', row, heq, -, -, -, huser, hmessage, -⟩ :=
      t.registerUser_cases hash throws (payload readThree data).1 (payload readThree data).2.1
        (payload readThree data).2.2
    · left
      dsimp only
      rw [heq]
    · right
      left
      dsimp only
      rw [heq]
      exact ⟨row, huser, hmessage⟩
  split
  · rename_i hid
    obtain ⟨-, heq⟩ | ⟨-, t', row, heq, hs, hr, hc, hmessage, huser, -⟩ :=
      t.addMessage_cases throws (payload readThree data).1 (payload readThree data).2.1
        (payload readThree data).2.2
    · left
      dsimp only
      rw [heq]
    · right
      right
      dsimp only
      rw [heq]
      refine ⟨hid, row, ?_, hmessage, huser⟩
      rw [Site.texts, hs, hr, hc]
  · exact .inl rfl

lemma clientTables_chatMessage (hash : String → ℕ) (throws : Bool) (t : Tables) {data : List UInt8}
    {sender receiver content : String}
    (h : payload readThree data = (sender, receiver, content)) :
    clientTables hash throws PacketType.ChatMessage.id data t =
      (t.addMessage throws sender receiver content).1 := by
  rw [clientTables, if_neg (by decide), if_pos rfl, h]

lemma handleTables_user (hash : String → ℕ) (throws : Bool) (s : Server) (e : Endpoint) (l_id : ℤ)
    (data : List UInt8) (t : Tables) :
    ∀ r ∈ t.user, r ∈ (handleTables hash throws s e.1 e.2 l_id data t).user := by
  intro r hr
  unfold handleTables
  split
  · obtain heq | ⟨row, huser, -⟩ | ⟨-, row, -, -, huser⟩ :=
      clientTables_cases hash throws l_id data t
    · rwa [heq]
    · rw [huser]
      exact List.mem_append_left _ hr
    · rwa [huser]
  · exact hr

lemma handleTables_message (hash : String → ℕ) (throws : Bool) (s : Server) (e : Endpoint)
    (l_id : ℤ) (data : List UInt8) (t : Tables) :
    ∀ r ∈ t.message, r ∈ (handleTables hash throws s e.1 e.2 l_id data t).message := by
  intro r hr
  unfold handleTables
  split
  · obtain heq | ⟨row, -, hmessage⟩ | ⟨-, row, -, hmessage, -⟩ :=
      clientTables_cases hash throws l_id data t
    · rwa [heq]
    · rwa [hmessage]
    · rw [hmessage]
      exact List.mem_append_left _ hr
  · exact hr

lemma handleTables_foreignKeys (hash : String → ℕ) (throws : Bool) (s : Server) (e : Endpoint)
    (l_id : ℤ) (data : List UInt8) (t : Tables) :
    (handleTables hash throws s e.1 e.2 l_id data t).foreignKeys = t.foreignKeys := by
  unfold handleTables clientTables
  split
  · split
    · obtain ⟨-, heq⟩ | ⟨-, t', row, heq, -, -, -, -, -, hkeys⟩ :=
        t.registerUser_cases hash throws (payload readThree data).1 (payload readThree data).2.1
          (payload readThree data).2.2
      · dsimp only
        rw [heq]
      · dsimp only
        rw [heq, hkeys]
    split
    · obtain ⟨-, heq⟩ | ⟨-, t', row, heq, -, -, -, -, -, hkeys⟩ :=
        t.addMessage_cases throws (payload readThree data).1 (payload readThree data).2.1
          (payload readThree data).2.2
      · dsimp only
        rw [heq]
      · dsimp only
        rw [heq, hkeys]
    · rfl
  · rfl

lemma handleTables_stored {hash : String → ℕ} {throws : Bool} {s : Server} {e : Endpoint} {l_id : ℤ}
    {data : List UInt8} {t : Tables} {r : MessageRow}
    (hr : r ∈ (handleTables hash throws s e.1 e.2 l_id data t).message) :
    r ∈ t.message ∨ (l_id = PacketType.ChatMessage.id ∧ Site.texts r = payload readThree data) := by
  unfold handleTables at hr
  split at hr
  · obtain heq | ⟨row, -, hmessage⟩ | ⟨hid, row, hrow, hmessage, -⟩ :=
      clientTables_cases hash throws l_id data t
    · rw [heq] at hr
      exact .inl hr
    · rw [hmessage] at hr
      exact .inl hr
    · rw [hmessage] at hr
      rcases List.mem_append.mp hr with hold | hnew
      · exact .inl hold
      · rw [List.mem_singleton.mp hnew]
        exact .inr ⟨hid, hrow⟩
  · exact .inl hr

end ServerMain

namespace Tables

variable (hash : String → ℕ) (throws : Bool) (t : Tables)

lemma getMessagesForUser_eq (a : String) :
    (t.database hash throws).getMessagesForUser a =
      if throws = false ∧ DbText.Fits a then
        some ((t.message.map Site.texts).filter fun m => m.1 = a ∨ m.2.1 = a) else none := by
  change Database.fetch (attempt throws (t.selectMessages a a)) = _
  cases throws with
  | true => rfl
  | false =>
    change Database.fetch (t.selectMessages a a) = _
    rw [selectMessages]
    cases ha : DbText.bind a with
    | none => exact (if_neg fun h => DbText.bind_eq_none.mp ha h.2).symm
    | some x =>
      obtain rfl := DbText.bind_text ha
      rw [if_pos ⟨rfl, x.fits_text⟩]
      have hfetch : Database.fetch (some (t.selectRows (Names x x))) =
          some ((t.message.filter (Names x x)).map Site.texts) := by
        rw [Database.fetch, selectRows, Option.map_some, List.map_map]
        rfl
      refine hfetch.trans ?_
      rw [List.filter_map]
      congr 2
      refine List.filter_congr fun r _ => ?_
      rw [Bool.eq_iff_iff, Site.names_iff, Function.comp, decide_eq_true_iff]

lemma mem_of_authenticateUser {t : Tables} {hash : String → ℕ} {throws : Bool}
    {email password name before : String}
    (h : (t.database hash throws).authenticateUser email password before = some (true, name)) :
    ∃ r ∈ t.user, r.email.text = email ∧ r.username.text = name ∧
      r.password.text = toString (hash password) := by
  unfold Database.authenticateUser at h
  rw [database_selectUser] at h
  obtain ⟨-, heq⟩ | ⟨-, heq⟩ := attempt_cases throws (t.selectUser email)
  · rw [heq] at h
    cases h
  rw [heq] at h
  cases hx : DbText.bind email with
  | none =>
    rw [selectUser, hx] at h
    cases h
  | some x =>
    rw [t.selectUser_eq hx] at h
    cases hsel : select (fun r : UserRow => r.email.text) x.text t.user with
    | none =>
      rw [hsel] at h
      cases h
    | some r =>
      rw [hsel] at h
      obtain ⟨hr, hemail⟩ := mem_of_select hsel
      simp only [Option.map_some, Option.some.injEq, Prod.mk.injEq, decide_eq_true_eq] at h
      obtain ⟨hpassword, hname⟩ := h
      rw [if_pos hpassword] at hname
      exact ⟨r, hr, hemail.trans (DbText.bind_text hx), hname, hpassword⟩

end Tables

end Sfrpg
