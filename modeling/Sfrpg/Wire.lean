import Sfrpg.Lib.Codec
import Sfrpg.Snapshot

/-!
Packets as formats: the bytes of integers, strings, floats and snapshots, and their reading.

A `std::string` is a `String` whose characters are bytes. The bytes of a float are a parameter:
`sf::Packet` copies the four it is stored in.
-/

namespace Sfrpg

open Lib Lib.Word

namespace Packet

/-- The characters of a `std::string`. -/
def bytesOf (s : String) : List UInt8 := s.toList.map fun c => .ofNat c.toNat

/-- The strings a packet can carry: the characters are bytes, and 32 bits hold their number. -/
structure StringFits (s : String) : Prop where
  bytes : ∀ c ∈ s.toList, c.toNat < 256
  short : s.toList.length < 4294967296

/-- By a pass over the characters of the string. -/
instance decidableStringFits (s : String) : Decidable (StringFits s) :=
  decidable_of_iff ((s.toList.all fun c => c.toNat < 256) = true ∧ s.toList.length < 4294967296)
    ⟨fun h => ⟨by simpa using h.1, h.2⟩, fun h => ⟨by simpa using h.bytes, h.short⟩⟩

/-- The big-endian bytes of a number of 32 bits. -/
def word (x : ℤ) : List UInt8 :=
  [byte (x / 16777216), byte (x / 65536), byte (x / 256), byte x]

lemma getInt32_word {x : ℤ} (hx : InInt32 x) (rest : List UInt8) :
    getInt32 (word x ++ rest) = some (x, rest) := by
  have h1 := toNat_byte (x / 16777216)
  have h2 := toNat_byte (x / 65536)
  have h3 := toNat_byte (x / 256)
  have h4 := toNat_byte x
  have hsum : toInt32 ((((byte (x / 16777216)).toNat * 256 + (byte (x / 65536)).toNat : ℤ) * 256 +
      (byte (x / 256)).toNat) * 256 + (byte x).toNat) = x := by
    rw [h1, h2, h3, h4]
    unfold InInt32 at hx
    unfold toInt32
    omega
  simp only [word, List.cons_append, List.nil_append, getInt32, hsum]

lemma map_bytesOf {s : String} (hs : ∀ c ∈ s.toList, c.toNat < 256) :
    (bytesOf s).map (fun byte => Char.ofNat byte.toNat) = s.toList := by
  have hone : ∀ c ∈ s.toList, Char.ofNat (UInt8.ofNat c.toNat).toNat = c := by
    intro c hc
    have hn : (UInt8.ofNat c.toNat).toNat = c.toNat := by
      rw [UInt8.toNat_ofNat']
      exact Nat.mod_eq_of_lt (hs c hc)
    rw [hn, Char.ofNat_toNat]
  rw [bytesOf, List.map_map]
  exact List.map_congr_left hone |>.trans (List.map_id _)

lemma length_bytesOf (s : String) : (bytesOf s).length = s.toList.length := List.length_map _

lemma getString_word {s : String} (hs : StringFits s) (rest : List UInt8) :
    getString ((word s.toList.length ++ bytesOf s) ++ rest) = some (s, rest) := by
  have h1 := toNat_byte (s.toList.length / 16777216)
  have h2 := toNat_byte (s.toList.length / 65536)
  have h3 := toNat_byte (s.toList.length / 256)
  have h4 := toNat_byte s.toList.length
  have hshort := hs.short
  have hlength : (((byte (s.toList.length / 16777216)).toNat * 256 +
      (byte (s.toList.length / 65536)).toNat) * 256 + (byte (s.toList.length / 256)).toNat) * 256 +
      (byte s.toList.length).toNat = (bytesOf s).length := by
    rw [length_bytesOf]
    omega
  simp only [word, List.cons_append, List.nil_append, getString, hlength]
  rw [if_neg (by simp), List.take_left, List.drop_left, map_bytesOf hs.bytes, String.ofList_toList]

/-- `sf::Int8`. -/
def int8 : Codec UInt8 ℤ where
  Fits x := -128 ≤ x ∧ x < 128
  put x := [byte x]
  get := getInt8
  get_put _ hx rest := getInt8_byte hx.1 hx.2 rest

/-- `sf::Uint8`. -/
def uint8 : Codec UInt8 UInt8 where
  Fits _ := True
  put x := [x]
  get
    | [] => none
    | x :: rest => some (x, rest)
  get_put _ _ _ := rfl

/-- `sf::Int32`. -/
def int32 : Codec UInt8 ℤ where
  Fits := InInt32
  put := word
  get := getInt32
  get_put _ hx rest := getInt32_word hx rest

/-- `std::string`: the number of its bytes, and the bytes. -/
def string : Codec UInt8 String where
  Fits := StringFits
  put s := word s.toList.length ++ bytesOf s
  get := getString
  get_put _ hs rest := getString_word hs rest

end Packet

/-- The format of a float: its four bytes as they are stored. -/
structure FloatFormat (F : Type) extends Codec UInt8 F where
  length_put : ∀ x, (put x).length = 4

variable {F : Type} (float : FloatFormat F)

namespace EntitySnapshot

/-- What `operator <<` appends to a packet. -/
def put (s : EntitySnapshot F) : List UInt8 :=
  Packet.string.put s.type ++ Packet.string.put s.name ++ float.put s.position.x ++
  float.put s.position.y ++ Packet.int32.put s.elevation ++ float.put s.velocity.x ++
  float.put s.velocity.y ++ float.put s.acceleration.x ++ float.put s.acceleration.y ++
  Packet.uint8.put s.direction ++ Packet.uint8.put s.state ++ Packet.uint8.put s.health

/-- `operator >>` into the snapshot `s`. -/
def read (s : EntitySnapshot F) : Reading UInt8 (EntitySnapshot F) := do
  let type ← Packet.string.read s.type
  let name ← Packet.string.read s.name
  let positionX ← float.read s.position.x
  let positionY ← float.read s.position.y
  let elevation ← Packet.int32.read s.elevation
  let velocityX ← float.read s.velocity.x
  let velocityY ← float.read s.velocity.y
  let accelerationX ← float.read s.acceleration.x
  let accelerationY ← float.read s.acceleration.y
  let direction ← Packet.uint8.read s.direction
  let state ← Packet.uint8.read s.state
  let health ← Packet.uint8.read s.health
  pure ⟨type, ⟨positionX, positionY⟩, elevation, ⟨velocityX, velocityY⟩,
    ⟨accelerationX, accelerationY⟩, direction, state, health, name⟩

/-- The members are values of their types. -/
structure Fits (s : EntitySnapshot F) : Prop where
  type : Packet.StringFits s.type
  name : Packet.StringFits s.name
  position : float.Fits s.position.x ∧ float.Fits s.position.y
  elevation : InInt32 s.elevation
  velocity : float.Fits s.velocity.x ∧ float.Fits s.velocity.y
  acceleration : float.Fits s.acceleration.x ∧ float.Fits s.acceleration.y

variable {float} in
lemma takes_read {s : EntitySnapshot F} (hs : s.Fits float) (t : EntitySnapshot F) :
    Takes (t.read float) (s.put float) s := by
  have htake : ∀ {x : F}, float.Fits x → ∀ y, Takes (float.read y) (float.put x) x :=
    fun hx y => Takes.read float.toCodec hx y
  have hbyte : ∀ x y : UInt8, Takes (Packet.uint8.read y) (Packet.uint8.put x) x :=
    fun x y => Takes.read Packet.uint8 trivial y
  rw [put, ← List.append_nil (Packet.uint8.put s.health)]
  simp only [List.append_assoc]
  refine (Takes.read Packet.string hs.type t.type).bind ?_
  refine (Takes.read Packet.string hs.name t.name).bind ?_
  refine (htake hs.position.1 t.position.x).bind ((htake hs.position.2 t.position.y).bind ?_)
  refine (Takes.read Packet.int32 hs.elevation t.elevation).bind ?_
  refine (htake hs.velocity.1 t.velocity.x).bind ((htake hs.velocity.2 t.velocity.y).bind ?_)
  refine (htake hs.acceleration.1 t.acceleration.x).bind ?_
  refine (htake hs.acceleration.2 t.acceleration.y).bind ?_
  refine (hbyte s.direction t.direction).bind ((hbyte s.state t.state).bind ?_)
  exact (hbyte s.health t.health).bind (Takes.pure s)

end EntitySnapshot

namespace S_Network

/-! ### Snapshot packets -/

/-- What one pass of the loop of `dumpEntityInfo` appends to the packet. -/
def putRecord (r : EntityId × EntitySnapshot F) : List UInt8 :=
  Packet.int32.put r.1 ++ r.2.put float

/-- The packet `createSnapshot` writes. -/
def Snapshot.packet (s : Snapshot F) : Packet :=
  ⟨((stampPacket .Snapshot .empty).putInt32 s.count).data ++ s.records.flatMap (putRecord float)⟩

/-- An id and a snapshot, read into `r`. -/
def readRecord (r : EntityId × EntitySnapshot F) : Reading UInt8 (EntityId × EntitySnapshot F) := do
  let id ← Packet.int32.read r.1
  let s ← r.2.read float
  pure (id, s)

/-- The reading of a whole snapshot packet: its stamp, the count, and as many records. Pass `i` of
the loop reads into the variables `fresh i`. -/
def readSnapshot (type count : ℤ) (fresh : ℕ → EntityId × EntitySnapshot F) :
    Reading UInt8 (ℤ × List (EntityId × EntitySnapshot F)) := do
  let type ← Packet.int8.read type
  let count ← Packet.int32.read count
  let records ← (List.range count.toNat).mapM fun i => readRecord float (fresh i)
  pure (type, records)

/-- The id and the snapshot are values of their types. -/
structure RecordFits (r : EntityId × EntitySnapshot F) : Prop where
  id : InInt32 r.1
  snapshot : r.2.Fits float

variable {float}

lemma takes_readRecord {r : EntityId × EntitySnapshot F} (hr : RecordFits float r)
    (t : EntityId × EntitySnapshot F) : Takes (readRecord float t) (putRecord float r) r := by
  rw [putRecord, ← List.append_nil (r.2.put float)]
  refine (Takes.read Packet.int32 hr.id t.1).bind ?_
  exact (EntitySnapshot.takes_read hr.snapshot t.2).bind (Takes.pure r)

/-- What `createSnapshot` makes of the records of a dump. -/
def Snapshot.of (records : List (EntityId × EntitySnapshot F)) : Snapshot F :=
  ⟨toInt32 (records.length % 4294967296 : ℕ), records⟩

variable [Zero F] {u : EntityId → EntitySnapshot.Uninitialised} {w : Ecs F}

lemma length_dumpEntityInfo {l : List (EntityId × EntitySnapshot F)}
    (h : w.dumpEntityInfo u = .ok l) : l.length = w.entities.keys.length := by
  have hpost : Post (w.dumpEntityInfo u) (List.Forall₂ (fun _ _ => True) w.entities.entries)
      fun _ => True := by
    refine Post.mapM fun entry _ => ?_
    cases Ecs.snapshotOf (u entry.1) entry.1 entry.2 w <;> trivial
  have hlen := (hpost.ok h).length_eq
  rw [AList.keys, List.keys, List.length_map]
  exact hlen.symm

lemma createSnapshot_written {s : Snapshot F} (hcount : w.entities.keys.length < 4294967296)
    (h : createSnapshot u w = .ok s) :
    w.dumpEntityInfo u = .ok s.records ∧ s = Snapshot.of s.records := by
  have hn : w.getEntityCount = w.entities.keys.length := Nat.mod_eq_of_lt hcount
  rw [createSnapshot] at h
  split at h
  · cases hdump : w.dumpEntityInfo u with
    | error f =>
      rw [hdump] at h
      cases h
    | ok records =>
      rw [hdump] at h
      simp only [bind, Except.bind, pure, Except.pure, Except.ok.injEq] at h
      subst h
      have hlen := length_dumpEntityInfo hdump
      simp only [Snapshot.of, hn, hlen, Nat.mod_eq_of_lt hcount, and_self]
  · next hzero =>
    obtain rfl := Except.ok.inj h
    have hempty : w.entities.keys = [] := List.length_eq_zero_iff.mp (by omega)
    have hentries : w.entities.entries = [] := List.map_eq_nil_iff.mp hempty
    refine ⟨?_, ?_⟩
    · rw [Ecs.dumpEntityInfo, hentries, List.mapM_nil]
      rfl
    · simp only [Snapshot.of, hn, hempty, List.length_nil, Nat.zero_mod]

omit [Zero F] in
/-- **Snapshots survive the wire**: what is written for any list of records is read back as the
same list, and nothing is left. -/
theorem snapshot_round_trip (records : List (EntityId × EntitySnapshot F))
    (hlen : records.length < 2147483648) (hfits : ∀ r ∈ records, RecordFits float r)
    (type count : ℤ) (fresh : ℕ → EntityId × EntitySnapshot F) :
    readSnapshot float type count fresh (some ((Snapshot.of records).packet float).data) =
      ((PacketType.Snapshot.id, records), some []) := by
  have hcount : (Snapshot.of records).count = records.length := by
    rw [Snapshot.of, Nat.mod_eq_of_lt (by omega), toInt32_natCast hlen]
  have hbody : Takes ((List.range records.length).mapM fun i => readRecord float (fresh i))
      (records.flatMap (putRecord float)) records :=
    Takes.mapM List.length_range fun i _ r hr => takes_readRecord (hfits r hr) (fresh i)
  have hall : Takes (readSnapshot float type count fresh)
      (Packet.int8.put PacketType.Snapshot.id ++ (Packet.int32.put records.length ++
        (records.flatMap (putRecord float) ++ []))) (PacketType.Snapshot.id, records) := by
    refine (Takes.read Packet.int8 ⟨by decide, by decide⟩ type).bind ?_
    refine (Takes.read Packet.int32 ⟨by omega, by omega⟩ count).bind ?_
    exact hbody.bind (Takes.pure _)
  rw [List.append_nil, ← List.append_assoc] at hall
  have hdata : ((Snapshot.of records).packet float).data = Packet.int8.put PacketType.Snapshot.id ++
      Packet.int32.put records.length ++ records.flatMap (putRecord float) := by
    rw [Snapshot.packet, hcount]
    rfl
  rw [hdata]
  exact hall.run

/-- Floats that are known by the bytes they are stored in. -/
def storedFloat : FloatFormat (UInt8 × UInt8 × UInt8 × UInt8) where
  Fits _ := True
  put x := [x.1, x.2.1, x.2.2.1, x.2.2.2]
  get
    | a :: b :: c :: d :: rest => some ((a, b, c, d), rest)
    | _ => none
  get_put _ _ _ := rfl
  length_put _ := rfl

/-- A walking player, and an entity that only has a type. -/
def twoRecords : List (EntityId × EntitySnapshot (UInt8 × UInt8 × UInt8 × UInt8)) :=
  [(0, ⟨"Player", ⟨(0, 0, 128, 66), (0, 0, 128, 66)⟩, 1, ⟨(0, 0, 0, 63), (0, 0, 0, 0)⟩,
      ⟨(0, 0, 0, 0), (0, 0, 0, 0)⟩, 3, 1, 5, "Ann"⟩),
    (2147483647, ⟨"Tree", ⟨(0, 0, 0, 0), (0, 0, 0, 0)⟩, -1, ⟨(0, 0, 0, 0), (0, 0, 0, 0)⟩,
      ⟨(0, 0, 0, 0), (0, 0, 0, 0)⟩, 205, 205, 205, ""⟩)]

/-- Variables as a reader declares them. -/
def declared : EntityId × EntitySnapshot (UInt8 × UInt8 × UInt8 × UInt8) :=
  (-1, ⟨"", ⟨(0, 0, 0, 0), (0, 0, 0, 0)⟩, 77, ⟨(0, 0, 0, 0), (0, 0, 0, 0)⟩,
    ⟨(0, 0, 0, 0), (0, 0, 0, 0)⟩, 7, 7, 7, ""⟩)

theorem snapshot_round_trip_two :
    readSnapshot storedFloat 9 9 (fun _ => declared)
      (some ((Snapshot.of twoRecords).packet storedFloat).data) =
      ((PacketType.Snapshot.id, twoRecords), some []) := by
  refine snapshot_round_trip twoRecords (by decide) (fun r hr => ?_) 9 9 fun _ => declared
  have hall : ∀ r ∈ twoRecords, InInt32 r.1 ∧ Packet.StringFits r.2.type ∧
      Packet.StringFits r.2.name ∧ InInt32 r.2.elevation := by
    decide +kernel
  obtain ⟨hid, htype, hname, helevation⟩ := hall r hr
  exact ⟨hid, htype, hname, ⟨trivial, trivial⟩, helevation, ⟨trivial, trivial⟩, trivial, trivial⟩

end S_Network

end Sfrpg
