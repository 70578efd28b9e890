import Mathlib.Data.Int.Basic
import Mathlib.Data.List.Basic
import Sfrpg.Lib.Word

/-!
`sf::Packet` as the bytes it holds, and the stamp every packet of the protocol begins with.

Integers travel big-endian in their fixed width.
-/

namespace Sfrpg

structure Packet where
  data : List UInt8
  deriving DecidableEq

namespace Packet

def empty : Packet := ⟨[]⟩

def getDataSize (p : Packet) : ℕ := p.data.length

/-- The two's complement byte of an integer. -/
def byte (x : ℤ) : UInt8 := UInt8.ofNat (x % 256).toNat

/-- `operator <<` for `sf::Int8`. -/
def putInt8 (x : ℤ) (p : Packet) : Packet := ⟨p.data ++ [byte x]⟩

/-- `operator <<` for `sf::Int32`. -/
def putInt32 (x : ℤ) (p : Packet) : Packet :=
  ⟨p.data ++ [byte (x / 16777216), byte (x / 65536), byte (x / 256), byte x]⟩

/-- `operator >>` for `sf::Int8` on the bytes still unread: the value and the rest. -/
def getInt8 : List UInt8 → Option (ℤ × List UInt8)
  | [] => none
  | b :: rest => some (if b.toNat < 128 then b.toNat else b.toNat - 256, rest)

/-- `operator >>` for `sf::Int32`. -/
def getInt32 : List UInt8 → Option (ℤ × List UInt8)
  | a :: b :: c :: d :: rest =>
    some (Lib.Word.toInt32 (((a.toNat * 256 + b.toNat) * 256 + c.toNat) * 256 + d.toNat), rest)
  | _ => none

/-- `operator >>` for `std::string`: the length, and as many bytes. -/
def getString : List UInt8 → Option (String × List UInt8)
  | a :: b :: c :: d :: rest =>
    let length := ((a.toNat * 256 + b.toNat) * 256 + c.toNat) * 256 + d.toNat
    if rest.length < length then none
    else some (.ofList ((rest.take length).map fun byte => .ofNat byte.toNat), rest.drop length)
  | _ => none

/-- The bytes still unread, or nothing once a read has failed: every later one fails too. -/
abbrev Unread := Option (List UInt8)

/-- A read into a variable that holds `x`, which a failed read leaves alone. -/
def readInt8 (x : ℤ) (unread : Unread) : ℤ × Unread :=
  match unread.bind getInt8 with
  | some (y, rest) => (y, some rest)
  | none => (x, none)

def readInt32 (x : ℤ) (unread : Unread) : ℤ × Unread :=
  match unread.bind getInt32 with
  | some (y, rest) => (y, some rest)
  | none => (x, none)

lemma toNat_byte (x : ℤ) : ((byte x).toNat : ℤ) = x % 256 := by
  simp only [byte, UInt8.toNat_ofNat']
  omega

lemma getInt8_byte {x : ℤ} (h : -128 ≤ x) (h' : x < 128) (rest : List UInt8) :
    getInt8 (byte x :: rest) = some (x, rest) := by
  have hn : (byte x).toNat = (x % 256).toNat := by
    simp only [byte, UInt8.toNat_ofNat']
    omega
  simp only [getInt8, hn, Option.some.injEq, Prod.mk.injEq, and_true]
  split <;> omega

end Packet

inductive PacketType
  | Disconnect | Connect | Heartbeat | Message | Snapshot | Hurt | Player_Update
  | Register | Login | Sql | ChatMessage | Chat | OutOfBounds
  deriving DecidableEq

/-- The enumerator's value, as `PacketID` carries it. -/
def PacketType.id : PacketType → ℤ
  | .Disconnect => -1
  | .Connect => 0
  | .Heartbeat => 1
  | .Message => 2
  | .Snapshot => 3
  | .Hurt => 4
  | .Player_Update => 5
  | .Register => 6
  | .Login => 7
  | .Sql => 8
  | .ChatMessage => 9
  | .Chat => 10
  | .OutOfBounds => 11

def stampPacket (type : PacketType) (p : Packet) : Packet := p.putInt8 type.id

/-- The stamp a packet begins with. -/
def Packet.stamp (p : Packet) : Option ℤ := (Packet.getInt8 p.data).map Prod.fst

@[simp] lemma getInt8_stampPacket (type : PacketType) :
    Packet.getInt8 (stampPacket type .empty).data = some (type.id, []) := by
  cases type <;> exact Packet.getInt8_byte (by decide) (by decide) []

@[simp] lemma stamp_stampPacket (type : PacketType) :
    (stampPacket type .empty).stamp = some type.id := by
  simp [Packet.stamp]

lemma stamp_append {p : Packet} {i : ℤ} (h : p.stamp = some i) (l : List UInt8) :
    Packet.stamp ⟨p.data ++ l⟩ = some i := by
  obtain ⟨data⟩ := p
  cases data with
  | nil => simp [Packet.stamp, Packet.getInt8] at h
  | cons b rest => simpa [Packet.stamp, Packet.getInt8] using h

lemma stamp_putInt32 {p : Packet} {i : ℤ} (h : p.stamp = some i) (x : ℤ) :
    (p.putInt32 x).stamp = some i := stamp_append h _

end Sfrpg
