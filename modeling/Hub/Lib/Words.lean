import Mathlib.Algebra.Group.Int.Defs
import Mathlib.Algebra.Group.Nat.Defs
import Mathlib.Tactic.Common

namespace hub

/-- The number of values of a `size_t`, an `unsigned long` and a `uint64_t`. -/
abbrev range64 : Nat := 18446744073709551616

/-- The `width` bytes of a number in memory, the least significant one first. -/
def leBytes : Nat → Nat → List UInt8
  | 0, _ => []
  | width + 1, value => UInt8.ofNat value :: leBytes width (value / 256)

/-- The number that bytes in memory stand for. -/
def leValue : List UInt8 → Nat
  | [] => 0
  | byte :: bytes => byte.toNat + 256 * leValue bytes

@[simp] theorem length_leBytes (width value : Nat) : (leBytes width value).length = width := by
  induction width generalizing value with
  | zero => rfl
  | succ width ih => simp [leBytes, ih]

theorem leValue_leBytes {width value : Nat} (hvalue : value < 256 ^ width) :
    leValue (leBytes width value) = value := by
  induction width generalizing value with
  | zero =>
    rw [Nat.pow_zero] at hvalue
    simp only [leBytes, leValue]
    omega
  | succ width ih =>
    rw [Nat.pow_succ] at hvalue
    have hrest : value / 256 < 256 ^ width := Nat.div_lt_of_lt_mul (by omega)
    have hbyte : (UInt8.ofNat value).toNat = value % 256 := UInt8.toNat_ofNat'
    rw [leBytes, leValue, ih hrest, hbyte]
    omega

/-- An array of 32-bit words in memory. -/
def wordBytes (words : List UInt32) : List UInt8 := words.flatMap fun word => leBytes 4 word.toNat

/-- The word at index `i` of an array in memory. -/
def readWord (bytes : List UInt8) (i : Nat) : UInt32 := UInt32.ofNat (leValue ((bytes.drop (4 * i)).take 4))

theorem length_wordBytes (words : List UInt32) : (wordBytes words).length = 4 * words.length := by
  induction words with
  | nil => rfl
  | cons word words ih =>
    have hcons : wordBytes (word :: words) = leBytes 4 word.toNat ++ wordBytes words := rfl
    rw [hcons, List.length_append, length_leBytes, ih, List.length_cons]
    omega

/-- What is read from a copy of an array are the array's words, whatever follows it. -/
theorem readWord_wordBytes {words : List UInt32} {i : Nat} {word : UInt32} (hword : words[i]? = some word)
    (rest : List UInt8) : readWord (wordBytes words ++ rest) i = word := by
  induction words generalizing i with
  | nil => simp at hword
  | cons first words ih =>
    have hcons : wordBytes (first :: words) ++ rest = leBytes 4 first.toNat ++ (wordBytes words ++ rest) := by
      simp [wordBytes]
    cases i with
    | zero =>
      cases hword
      have htake : ((wordBytes (word :: words) ++ rest).drop 0).take 4 = leBytes 4 word.toNat := by
        rw [hcons, List.drop_zero, List.take_left' (length_leBytes ..)]
      rw [readWord, htake, leValue_leBytes word.toNat_lt, UInt32.ofNat_toNat]
    | succ i =>
      have hdrop : (wordBytes (first :: words) ++ rest).drop (4 * (i + 1)) =
          (wordBytes words ++ rest).drop (4 * i) := by
        rw [hcons, Nat.mul_succ, Nat.add_comm, ← List.drop_drop, List.drop_left' (length_leBytes ..)]
      rw [readWord, hdrop]
      exact ih hword

/-- Memory at an address, byte by byte. Nothing marks the end of an object. -/
abbrev RawMemory : Type := Nat → UInt8

def RawMemory.read (memory : RawMemory) (len : Nat) : List UInt8 := (List.range len).map memory

theorem RawMemory.length_read (memory : RawMemory) (len : Nat) : (memory.read len).length = len := by
  simp [read]

/-- A 64-bit number cut to a signed 32-bit one. -/
theorem toInt_toInt32 (x : UInt64) :
    x.toUInt32.toInt32.toInt =
      if x.toNat % 2 ^ 32 < 2 ^ 31 then ((x.toNat % 2 ^ 32 : Nat) : Int) else (x.toNat % 2 ^ 32 : Nat) - 2 ^ 32 := by
  have hbits : x.toUInt32.toInt32.toInt = x.toUInt32.toBitVec.toInt := rfl
  rw [hbits, BitVec.toInt_eq_toNat_cond, UInt32.toNat_toBitVec, UInt64.toNat_toUInt32]
  split
  · split
    · rfl
    · omega
  · split
    · omega
    · rfl

end hub
