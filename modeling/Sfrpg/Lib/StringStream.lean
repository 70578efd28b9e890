import Mathlib.Algebra.Field.Basic
import Mathlib.Data.List.Basic

/-!
A line of text read as through a `std::stringstream`: words and decimal numbers between blanks.

What is left of the line is `none` once an extraction has failed, and every later one fails then.
An extraction is told what its variable holds: where nothing follows the blanks the variable keeps
it, and where what follows is no number it is set to zero. Integers out of range stop at the bounds
of their type; decimals are exact, and none is out of range.
-/

namespace Sfrpg.Lib

/-- The characters still unread. -/
abbrev StringStream := Option (List Char)

namespace StringStream

def ofLine (line : String) : StringStream := some line.toList

def isSpace (c : Char) : Bool := c = ' ' || (9 ≤ c.toNat && c.toNat ≤ 13)

/-- Extraction into a variable that holds `x`, by `get` from the first character that is
no blank. -/
def extract {α : Type*} (get : List Char → α × StringStream) (x : α) (s : StringStream) :
    α × StringStream :=
  match s.map (List.dropWhile isSpace) with
  | none => (x, none)
  | some [] => (x, none)
  | some l => get l

def getWord (l : List Char) : String × StringStream :=
  (.ofList (l.takeWhile (! isSpace ·)), some (l.dropWhile (! isSpace ·)))

/-- Whether there is a minus sign, and what follows the sign. -/
def getSign : List Char → Bool × List Char
  | '-' :: l => (true, l)
  | '+' :: l => (false, l)
  | l => (false, l)

/-- The leading digits, and the rest. -/
def getDigits (l : List Char) : List Char × List Char :=
  (l.takeWhile Char.isDigit, l.dropWhile Char.isDigit)

def value (digits : List Char) : ℕ := digits.foldl (fun n c => 10 * n + (c.toNat - 48)) 0

/-- A negative number is the unsigned one it wraps around to. -/
def getUInt32 (l : List Char) : ℕ × StringStream :=
  let (negative, l) := getSign l
  let (digits, rest) := getDigits l
  let n := value digits
  if digits = [] then (0, none)
  else if 4294967296 ≤ n then (4294967295, none)
  else (if negative then (4294967296 - n) % 4294967296 else n, some rest)

def getInt32 (l : List Char) : ℤ × StringStream :=
  let (negative, l) := getSign l
  let (digits, rest) := getDigits l
  let n : ℤ := if negative then -value digits else value digits
  if digits = [] then (0, none)
  else if n < -2147483648 then (-2147483648, none)
  else if 2147483647 < n then (2147483647, none)
  else (n, some rest)

/-- A number that is neither 0 nor 1 is true, and fails. -/
def getBool (l : List Char) : Bool × StringStream :=
  let (negative, l) := getSign l
  let (digits, rest) := getDigits l
  let n : ℤ := if negative then -value digits else value digits
  if digits = [] then (false, none)
  else if n = 0 then (false, some rest)
  else if n = 1 then (true, some rest)
  else (true, none)

/-- A decimal fraction with an exponent, in exact arithmetic. -/
def getFloat {F : Type*} [Field F] (l : List Char) : F × StringStream :=
  let (negative, l) := getSign l
  let (whole, l) := getDigits l
  let (fraction, l) := match l with
    | '.' :: l => getDigits l
    | l => ([], l)
  let n : F := value (whole ++ fraction) / 10 ^ fraction.length
  let x := if negative then -n else n
  if whole ++ fraction = [] then (0, none) else
  match l with
  | [] => (x, some [])
  | c :: rest =>
    if c = 'e' ∨ c = 'E' then
      let (negative, l) := getSign rest
      let (digits, l) := getDigits l
      if digits = [] then (0, none)
      else (if negative then x / 10 ^ value digits else x * 10 ^ value digits, some l)
    else (x, some (c :: rest))

def readWord : String → StringStream → String × StringStream := extract getWord
def readUInt32 : ℕ → StringStream → ℕ × StringStream := extract getUInt32
def readInt32 : ℤ → StringStream → ℤ × StringStream := extract getInt32
def readBool : Bool → StringStream → Bool × StringStream := extract getBool
def readFloat {F : Type*} [Field F] : F → StringStream → F × StringStream := extract getFloat

/-- `std::getline` into an empty string. The end of the line is taken too. -/
def readLine : StringStream → String × StringStream
  | none => ("", none)
  | some [] => ("", none)
  | some l => (.ofList (l.takeWhile (· ≠ '\n')), some ((l.dropWhile (· ≠ '\n')).drop 1))

/-- `ignore`, up to the end of the line. -/
def skipLine (s : StringStream) : StringStream := s.map fun l => (l.dropWhile (· ≠ '\n')).drop 1

/-! ### Words -/

/-- How much is left. -/
def size : StringStream → ℕ
  | none => 0
  | some l => l.length

lemma readWord_append {w : List Char} (hne : w ≠ []) (hw : ∀ c ∈ w, isSpace c = false)
    (x : String) (rest : List Char) :
    readWord x (some (w ++ rest)) =
      (.ofList (w ++ rest.takeWhile (! isSpace ·)), some (rest.dropWhile (! isSpace ·))) := by
  have hskip : (w ++ rest).dropWhile isSpace = w ++ rest := by
    cases w with
    | nil => exact absurd rfl hne
    | cons c w => exact List.dropWhile_cons_of_neg (by simp [hw c (by simp)])
  have hword : ∀ c ∈ w, (! isSpace c) = true := fun c hc => by rw [hw c hc]; rfl
  unfold readWord extract
  rw [Option.map_some, hskip]
  cases w with
  | nil => exact absurd rfl hne
  | cons c w =>
    change getWord (c :: w ++ rest) = _
    rw [getWord, List.takeWhile_append_of_pos hword, List.dropWhile_append_of_pos hword]

lemma readWord_word {w : List Char} (hne : w ≠ []) (hw : ∀ c ∈ w, isSpace c = false) (x : String)
    {c : Char} (hc : isSpace c = true) (rest : List Char) :
    readWord x (some (w ++ c :: rest)) = (.ofList w, some (c :: rest)) := by
  rw [readWord_append hne hw, List.takeWhile_cons_of_neg (by simp [hc]),
    List.dropWhile_cons_of_neg (by simp [hc]), List.append_nil]

lemma readWord_blank {c : Char} (hc : isSpace c = true) (x : String) (rest : List Char) :
    readWord x (some (c :: rest)) = readWord x (some rest) := by
  unfold readWord extract
  rw [Option.map_some, Option.map_some, List.dropWhile_cons_of_pos hc]

lemma size_readWord_lt (x : String) {l : List Char} (hl : l ≠ []) :
    size (readWord x (some l)).2 < l.length := by
  unfold readWord extract
  rw [Option.map_some]
  have hle : (l.dropWhile isSpace).length ≤ l.length := (List.dropWhile_suffix isSpace).length_le
  cases hword : l.dropWhile isSpace with
  | nil => exact List.length_pos_of_ne_nil hl
  | cons c l' =>
    have hc : isSpace c = false := by
      have hhead := List.head?_dropWhile_not isSpace l
      rw [hword] at hhead
      simpa using hhead
    rw [hword, List.length_cons] at hle
    change ((c :: l').dropWhile (! isSpace ·)).length < l.length
    rw [List.dropWhile_cons_of_pos (by rw [hc]; rfl)]
    have hrest := (List.dropWhile_suffix (l := l') (! isSpace ·)).length_le
    omega

/-! ### Where what is read comes from -/

lemma readWord_cases (x : String) (l : List Char) :
    readWord x (some l) = (x, none) ∨
      ∃ w rest, readWord x (some l) = (.ofList w, some rest) ∧ w <:+: l ∧ rest <:+ l := by
  unfold readWord extract
  rw [Option.map_some]
  have hskip : l.dropWhile isSpace <:+ l := List.dropWhile_suffix isSpace
  cases hword : l.dropWhile isSpace with
  | nil => exact .inl rfl
  | cons c l' =>
    rw [hword] at hskip
    right
    refine ⟨(c :: l').takeWhile (! isSpace ·), (c :: l').dropWhile (! isSpace ·), rfl, ?_, ?_⟩
    · exact (List.takeWhile_prefix _).isInfix.trans hskip.isInfix
    · exact (List.dropWhile_suffix _).trans hskip

lemma readLine_cases (s : StringStream) :
    readLine s = ("", none) ∨
      ∃ l line rest, s = some l ∧ readLine s = (.ofList line, some rest) ∧ line <:+: l ∧
        rest <:+ l := by
  match s with
  | none => exact .inl rfl
  | some [] => exact .inl rfl
  | some (c :: l) =>
    right
    refine ⟨c :: l, _, _, rfl, rfl, (List.takeWhile_prefix _).isInfix, ?_⟩
    exact (List.drop_suffix _ _).trans (List.dropWhile_suffix _)

lemma skipLine_suffix {l rest : List Char} (h : skipLine (some l) = some rest) : rest <:+ l := by
  obtain rfl := Option.some.inj h
  exact (List.drop_suffix _ _).trans (List.dropWhile_suffix _)

lemma size_readWord_le (x : String) (s : StringStream) :
    size (readWord x s).2 ≤ size s - 1 := by
  match s with
  | none => exact Nat.zero_le _
  | some [] => exact Nat.zero_le _
  | some (c :: l) =>
    have hlt := size_readWord_lt x (l := c :: l) (by simp)
    change _ ≤ (c :: l).length - 1
    omega

lemma readWord_of_size_eq_zero {s : StringStream} (hs : size s = 0) (x : String) :
    readWord x s = (x, none) := by
  match s with
  | none => rfl
  | some [] => rfl
  | some (_ :: _) => cases hs

example : readUInt32 7 (ofLine " -1 x") = (4294967295, some [' ', 'x']) := by decide

/-! ### Decimals and separators -/

lemma split_unique {α : Type*} {c : α} {a b x y : List α} (ha : c ∉ a) (hb : c ∉ b)
    (h : a ++ c :: x = b ++ c :: y) : a = b ∧ x = y := by
  induction a generalizing b with
  | nil =>
    cases b with
    | nil => exact ⟨rfl, (List.cons.inj h).2⟩
    | cons d b =>
      obtain ⟨rfl, -⟩ := List.cons.inj h
      exact absurd List.mem_cons_self hb
  | cons d a ih =>
    cases b with
    | nil =>
      obtain ⟨rfl, -⟩ := List.cons.inj h
      exact absurd List.mem_cons_self ha
    | cons d' b =>
      obtain ⟨rfl, htail⟩ := List.cons.inj h
      obtain ⟨rfl, hxy⟩ := ih (fun hm => ha (List.mem_cons_of_mem _ hm))
        (fun hm => hb (List.mem_cons_of_mem _ hm)) htail
      exact ⟨rfl, hxy⟩

lemma toDigits_injective {m n : ℕ} (h : Nat.toDigits 10 m = Nat.toDigits 10 n) : m = n := by
  have hm : Nat.ofDigitChars 10 (Nat.toDigits 10 m) 0 = m :=
    Nat.ofDigitChars_toDigits (by decide) (by decide)
  rw [h, Nat.ofDigitChars_toDigits (by decide) (by decide)] at hm
  exact hm.symm

lemma isDigit_of_mem_toDigits {c : Char} {n : ℕ} (hc : c ∈ Nat.toDigits 10 n) : c.isDigit = true :=
  Nat.isDigit_of_mem_toDigits (by decide) (by decide) hc

end StringStream

end Sfrpg.Lib
