import Sfrpg.Honesty

/-!
The lines the server sends to everybody, as text.

The server puts the endpoint of the speaker before what was said. Neither an address nor a port has
the character behind it, so the line tells the endpoint and the words, and no line of the server
looks like one.
-/

namespace Sfrpg

open Lib Lib.Word Lib.Run

namespace ServerMain

/-- A line that was said at `e`, as the server sends it. -/
def spoken (e : Endpoint) (str : String) : String :=
  dotted e.1 ++ ":" ++ toString e.2.toNat ++ " " ++ str

/-- The line that tells that a client has left. -/
def farewell (id : ClientID) : String := "Client " ++ toString id ++ " has left."

def messagePacket (line : String) : Packet := (stampPacket .Message .empty).putString line

lemma toList_dotted (ip : IpAddress) : (dotted ip).toList =
    Nat.toDigits 10 (ip.toNat / 16777216) ++ '.' :: (Nat.toDigits 10 (ip.toNat / 65536 % 256) ++
      '.' :: (Nat.toDigits 10 (ip.toNat / 256 % 256) ++
        '.' :: Nat.toDigits 10 (ip.toNat % 256))) := by
  have hdots : ∀ a b c d : String,
      ".".intercalate [a, b, c, d] = a ++ "." ++ b ++ "." ++ c ++ "." ++ d := fun _ _ _ _ => rfl
  simp [dotted, hdots]

lemma mem_dotted {c : Char} {ip : IpAddress} (hc : c ∈ (dotted ip).toList) :
    c.isDigit = true ∨ c = '.' := by
  rw [toList_dotted] at hc
  simp only [List.mem_append, List.mem_cons] at hc
  rcases hc with h | h | h | h | h | h | h
  all_goals first | exact .inr h | exact .inl (StringStream.isDigit_of_mem_toDigits h)

lemma length_dotted (ip : IpAddress) : (dotted ip).toList.length ≤ 15 := by
  have hdigits : ∀ n < 256, (Nat.toDigits 10 n).length ≤ 3 := fun n hn =>
    (Nat.length_toDigits_le_iff (by decide) (by decide)).mpr (by omega)
  have hip := ip.toNat_lt
  have h1 := hdigits (ip.toNat / 16777216) (by omega)
  have h2 := hdigits (ip.toNat / 65536 % 256) (by omega)
  have h3 := hdigits (ip.toNat / 256 % 256) (by omega)
  have h4 := hdigits (ip.toNat % 256) (by omega)
  rw [toList_dotted]
  simp only [List.length_append, List.length_cons]
  omega

lemma dotted_injective {ip ip' : IpAddress} (h : (dotted ip).toList = (dotted ip').toList) :
    ip = ip' := by
  have hdot : ∀ n, '.' ∉ Nat.toDigits 10 n := fun n hn =>
    absurd (StringStream.isDigit_of_mem_toDigits hn) (by decide)
  rw [toList_dotted, toList_dotted] at h
  obtain ⟨h1, h⟩ := StringStream.split_unique (hdot _) (hdot _) h
  obtain ⟨h2, h⟩ := StringStream.split_unique (hdot _) (hdot _) h
  obtain ⟨h3, h4⟩ := StringStream.split_unique (hdot _) (hdot _) h
  replace h1 := StringStream.toDigits_injective h1
  replace h2 := StringStream.toDigits_injective h2
  replace h3 := StringStream.toDigits_injective h3
  replace h4 := StringStream.toDigits_injective h4
  have hip := ip.toNat_lt
  have hip' := ip'.toNat_lt
  exact UInt32.toNat_inj.mp (by omega)

lemma toList_spoken (e : Endpoint) (str : String) : (spoken e str).toList =
    (dotted e.1).toList ++ ':' :: (Nat.toDigits 10 e.2.toNat ++ ' ' :: str.toList) := by
  simp [spoken]

/-- **A line tells who has said it, and what.** -/
lemma spoken_injective {e e' : Endpoint} {str str' : String} (h : spoken e str = spoken e' str') :
    e = e' ∧ str = str' := by
  have hcolon : ∀ ip, ':' ∉ (dotted ip).toList := fun ip hm =>
    (mem_dotted hm).elim (fun h => absurd h (by decide)) fun h => absurd h (by decide)
  have hblank : ∀ n, ' ' ∉ Nat.toDigits 10 n := fun n hn =>
    absurd (StringStream.isDigit_of_mem_toDigits hn) (by decide)
  have hlist := congrArg String.toList h
  rw [toList_spoken, toList_spoken] at hlist
  obtain ⟨hip, hlist⟩ := StringStream.split_unique (hcolon _) (hcolon _) hlist
  obtain ⟨hport, hstr⟩ := StringStream.split_unique (hblank _) (hblank _) hlist
  refine ⟨Prod.ext (dotted_injective hip) ?_, String.toList_inj.mp hstr⟩
  exact UInt16.toNat_inj.mp (StringStream.toDigits_injective hport)

lemma spoken_ne_farewell (e : Endpoint) (str : String) (id : ClientID) :
    spoken e str ≠ farewell id := by
  intro h
  have hlist := congrArg String.toList h
  rw [toList_spoken, toList_dotted] at hlist
  have hfarewell : (farewell id).toList =
      'C' :: ("lient " ++ toString id ++ " has left.").toList := by
    simp [farewell]
  rw [hfarewell] at hlist
  cases hdigits : Nat.toDigits 10 (e.1.toNat / 16777216) with
  | nil => exact Nat.toDigits_ne_nil hdigits
  | cons c l =>
    rw [hdigits] at hlist
    obtain rfl : c = 'C' := (List.cons.inj hlist).1
    have hc : 'C' ∈ Nat.toDigits 10 (e.1.toNat / 16777216) := by
      rw [hdigits]
      exact List.mem_cons_self
    exact absurd (StringStream.isDigit_of_mem_toDigits hc) (by decide)

lemma isDigit_lt {c : Char} (h : c.isDigit = true) : c.toNat < 256 := by
  rw [Char.isDigit, Bool.and_eq_true, decide_eq_true_eq, decide_eq_true_eq] at h
  exact lt_of_le_of_lt (UInt32.le_iff_toNat_le.mp h.2) (by decide)

lemma fits_spoken {e : Endpoint} {str : String} (hbytes : ∀ c ∈ str.toList, c.toNat < 256)
    (hshort : str.toList.length < 4294967274) : Packet.StringFits (spoken e str) := by
  have hport : (Nat.toDigits 10 e.2.toNat).length ≤ 5 := by
    have hlt := e.2.toNat_lt
    exact (Nat.length_toDigits_le_iff (by decide) (by decide)).mpr (by omega)
  have hip := length_dotted e.1
  constructor
  · intro c hc
    rw [toList_spoken] at hc
    simp only [List.mem_append, List.mem_cons] at hc
    rcases hc with h | rfl | h | rfl | h
    · rcases mem_dotted h with h | rfl
      · exact isDigit_lt h
      · decide
    · decide
    · exact isDigit_lt (StringStream.isDigit_of_mem_toDigits h)
    · decide
    · exact hbytes c h
  · rw [toList_spoken]
    simp only [List.length_append, List.length_cons]
    omega

lemma fits_farewell {id : ClientID} (hid : 0 ≤ id) (hrange : InInt32 id) :
    Packet.StringFits (farewell id) := by
  obtain ⟨n, rfl⟩ := Int.eq_ofNat_of_zero_le hid
  have hlen : (Nat.toDigits 10 n).length ≤ 10 := by
    have hlt := hrange.2
    exact (Nat.length_toDigits_le_iff (by decide) (by decide)).mpr (by omega)
  have hlist : (farewell (n : ℤ)).toList =
      "Client ".toList ++ (Nat.toDigits 10 n ++ " has left.".toList) := by
    have hstr : toString (n : ℤ) = Nat.repr n := rfl
    simp [farewell, hstr]
  have hfirst : Packet.StringFits "Client " := by decide
  have hlast : Packet.StringFits " has left." := by decide
  constructor
  · intro c hc
    rw [hlist] at hc
    simp only [List.mem_append] at hc
    rcases hc with h | h | h
    · exact hfirst.bytes c h
    · exact isDigit_lt (StringStream.isDigit_of_mem_toDigits h)
    · exact hlast.bytes c h
  · have h1 : "Client ".toList.length ≤ 10 := by decide
    have h2 : " has left.".toList.length ≤ 10 := by decide
    rw [hlist, List.length_append, List.length_append]
    omega

variable {db : Database} {cid : ClientID} {ip : IpAddress} {port : PortNumber} {l_id : ℤ}
  {data : List UInt8} {calls : List Server.Call}

lemma handleClient_message (db : Database) (cid : ClientID) (ip : IpAddress) (port : PortNumber)
    (data : List UInt8) : handleClient db cid ip port PacketType.Message.id data =
      some [.broadcast (messagePacket (spoken (ip, port) (payload readOne data))) cid] := rfl

/-- **What the handler broadcasts** for a registered client, and that it sends nothing else of that
type. -/
lemma handleClient_broadcasts (h : handleClient db cid ip port l_id data = some calls) :
    (l_id = PacketType.Disconnect.id ∧
      calls = [.removeClient cid, .broadcast (messagePacket (farewell cid)) cid]) ∨
    (l_id = PacketType.Message.id ∧
      calls = [.broadcast (messagePacket (spoken (ip, port) (payload readOne data))) cid]) ∨
    ∀ c ∈ calls, ∃ p, c = .send cid p ∧ p.stamp ≠ some PacketType.Message.id := by
  have hsend : ∀ {p : Packet} {t : PacketType}, p.stamp = some t.id → t ≠ .Message →
      ∀ c ∈ [Server.Call.send cid p], ∃ p, c = .send cid p ∧
        p.stamp ≠ some PacketType.Message.id := by
    intro p t hp htype c hc
    refine ⟨p, List.mem_singleton.mp hc, fun h => htype ?_⟩
    exact PacketType.id_injective (Option.some.inj (hp.symm.trans h))
  unfold handleClient at h
  split at h
  · rename_i hid
    exact .inl ⟨hid, (Option.some.inj h).symm⟩
  split at h
  · rename_i hid
    exact .inr (.inl ⟨hid, (Option.some.inj h).symm⟩)
  refine .inr (.inr ?_)
  split at h
  · obtain rfl := Option.some.inj h
    exact hsend (stamp_putString (stamp_stampPacket .Register) _) (by decide)
  split at h
  · obtain ⟨answer, -, rfl⟩ := Option.map_eq_some_iff.mp h
    refine hsend (t := .Login) ?_ (by decide)
    split
    · exact stamp_putString (stamp_stampPacket .Login) _
    · exact stamp_stampPacket .Login
  split at h
  · split at h
    · obtain rfl := Option.some.inj h
      exact List.forall_mem_nil _
    · obtain rfl := Option.some.inj h
      exact hsend (stamp_putResult (stamp_stampPacket .Sql) _) (by decide)
  split at h
  · obtain rfl := Option.some.inj h
    exact hsend (stamp_putString (stamp_stampPacket .ChatMessage) _) (by decide)
  split at h
  · dsimp only at h
    split at h
    · obtain rfl := Option.some.inj h
      exact hsend (stamp_putInt32 (stamp_stampPacket .Chat) _) (by decide)
    · obtain rfl := Option.some.inj h
      exact hsend (stamp_putResult (stamp_stampPacket .Chat) _) (by decide)
  · obtain rfl := Option.some.inj h
    exact List.forall_mem_nil _

end ServerMain

end Sfrpg
