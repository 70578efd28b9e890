import Mathlib.Data.BitVec

/-!
`Bitmask`: 32 bits, read and written one at a time.

A mask is the set of the positions of its bits. Each operation is described by what it does to
the test of a bit, and a mask matches another, with its own bits as the relevant ones, when the
other has all of them.
-/

namespace Sfrpg

abbrev Bitset := BitVec 32

structure Bitmask where
  bits : Bitset
  deriving DecidableEq

namespace Bitmask

def empty : Bitmask := ⟨0⟩

def getMask (m : Bitmask) : Bitset := m.bits

/-- `matches`, which takes no relevant bits to stand for all of them. -/
def matchesBits (m l : Bitmask) (relevant : Bitset) : Bool :=
  if relevant ≠ 0 then l.getMask &&& relevant == m.bits &&& relevant else l.getMask == m.bits

def getBit (m : Bitmask) (pos : ℕ) : Bool := m.bits &&& (1#32 <<< pos) != 0#32

def turnOnBit (m : Bitmask) (pos : ℕ) : Bitmask := ⟨m.bits ||| (1#32 <<< pos)⟩

def clearBit (m : Bitmask) (pos : ℕ) : Bitmask := ⟨m.bits &&& ~~~(1#32 <<< pos)⟩

variable {m l : Bitmask} {p q : ℕ}

lemma getBit_eq (m : Bitmask) (p : ℕ) : m.getBit p = m.bits.getLsbD p := by
  have hne : p < 32 → BitVec.twoPow 32 p ≠ 0#32 := by
    intro hp h
    have hbit := congrArg (fun b => b.getLsbD p) h
    simp [hp] at hbit
  rw [getBit, ← BitVec.twoPow_eq, BitVec.and_twoPow]
  cases h : m.bits.getLsbD p with
  | false => simp
  | true =>
    have hp : p < 32 := BitVec.lt_of_getLsbD h
    simp [hne hp]

lemma lt_of_getBit (h : m.getBit p = true) : p < 32 := by
  rw [getBit_eq] at h
  exact BitVec.lt_of_getLsbD h

@[simp] lemma getBit_empty (p : ℕ) : empty.getBit p = false := by
  simp [getBit_eq, empty]

lemma getBit_turnOnBit (m : Bitmask) (p q : ℕ) :
    (m.turnOnBit p).getBit q = (m.getBit q || (decide (p < 32) && decide (p = q))) := by
  rw [getBit_eq, getBit_eq, turnOnBit, BitVec.getLsbD_or, ← BitVec.twoPow_eq,
    BitVec.getLsbD_twoPow]

lemma getBit_clearBit (m : Bitmask) (p q : ℕ) :
    (m.clearBit p).getBit q = (m.getBit q && decide (p ≠ q)) := by
  rw [getBit_eq, getBit_eq, clearBit, BitVec.getLsbD_and, BitVec.getLsbD_not,
    ← BitVec.twoPow_eq, BitVec.getLsbD_twoPow]
  by_cases hq : q < 32
  · by_cases hpq : p = q
    · simp [hpq, hq]
    · simp [hpq, hq]
  · have hno : m.bits.getLsbD q = false := BitVec.getLsbD_of_ge _ _ (by omega)
    simp [hno]

lemma matchesBits_self (hp : m.getBit p = true) :
    m.matchesBits l m.getMask = true ↔ ∀ q, m.getBit q = true → l.getBit q = true := by
  have hne : m.bits ≠ 0 := by
    intro h
    rw [getBit_eq, h] at hp
    simp at hp
  rw [matchesBits, getMask, getMask, if_pos hne, beq_iff_eq, BitVec.and_self]
  constructor
  · intro h q hq
    rw [getBit_eq] at hq ⊢
    rw [← h, BitVec.getLsbD_and, Bool.and_eq_true] at hq
    exact hq.1
  · intro h
    apply BitVec.eq_of_getLsbD_eq
    intro q _
    have hq := h q
    rw [getBit_eq, getBit_eq] at hq
    rw [BitVec.getLsbD_and]
    cases hm : m.bits.getLsbD q with
    | false => simp
    | true => simp [hq hm]

end Bitmask

end Sfrpg
