import Mathlib.Data.List.Basic

namespace hub.base

inductive Read where
  /-- At most this many bytes and one more are read. None are read at the end of the file only. -/
  | upTo (n : Nat)
  | EINTR
  | failed

structure FileRead where
  ret : Int
  data : List UInt8
  len : Nat

/-- The loop of `util_file_read` with what is left of the file and of the buffer: `ret`, the
bytes stored and `remain` at its end. There is no result if the outcomes end before it does. -/
def readLoop : List UInt8 → Nat → List Read → Option (Int × List UInt8 × Nat)
  | _, 0, _ => some (0, [], 0)
  | _, _, [] => none
  | file, remain + 1, .upTo n :: reads =>
    let n := min (n + 1) (min (remain + 1) file.length)
    if n = 0 then some (0, [], remain + 1)
    else (readLoop (file.drop n) (remain + 1 - n) reads).map fun (ret, data, left) => (ret, file.take n ++ data, left)
  | file, remain, .EINTR :: reads => readLoop file remain reads
  | _, remain, .failed :: _ => some (-1, [], remain)

/-- `file` is what `open` finds, if it succeeds. -/
def util_file_read (file : Option (List UInt8)) (len : Nat) (reads : List Read) : Option FileRead :=
  if len = 0 then some ⟨-1, [], len⟩
  else
    match file with
    | none => some ⟨-1, [], len⟩
    | some file => (readLoop file len reads).map fun (ret, data, remain) => ⟨ret, data, len - remain⟩

/-- The buffer holds the beginning of the file, all of it that fits unless the result is -1. -/
structure FileRead.IsBeginning (result : FileRead) (file : List UInt8) (len : Nat) : Prop where
  ret : result.ret = 0 ∨ result.ret = -1
  stored : result.len = result.data.length
  data : result.data = file.take result.len
  success : result.ret = 0 → result.data = file.take len

theorem readLoop_beginning {file : List UInt8} {remain : Nat} {reads : List Read} {ret : Int} {data : List UInt8}
    {left : Nat} (hloop : readLoop file remain reads = some (ret, data, left)) :
    left ≤ remain ∧ FileRead.IsBeginning ⟨ret, data, remain - left⟩ file remain := by
  fun_induction readLoop file remain reads generalizing ret data left with
  | case1 file reads =>
    cases hloop
    exact ⟨Nat.le_refl _, .inl rfl, rfl, rfl, fun _ => rfl⟩
  | case2 => cases hloop
  | case3 file remain n reads count =>
    -- the end of the file
    cases hloop
    obtain rfl : file = [] := List.eq_nil_of_length_eq_zero (by omega)
    exact ⟨Nat.le_refl _, .inl rfl, by simp, by simp, fun _ => by simp⟩
  | case4 file remain n reads count hcount =>
    rename_i ih
    obtain ⟨⟨ret', rest, left'⟩, hrest, heq⟩ := Option.map_eq_some_iff.mp hloop
    cases heq
    obtain ⟨hleft, hret, hstored, hdata, hsuccess⟩ := ih hrest
    have hcut : count + (remain + 1 - count) = remain + 1 := by omega
    have hlen : remain + 1 - left = count + (remain + 1 - count - left) := by omega
    simp only at hstored hdata hsuccess
    refine ⟨by omega, hret, ?_, ?_, fun h => ?_⟩
    · simp only [List.length_append, List.length_take, ← hstored]
      omega
    · simp only [hlen, List.take_add, ← hdata]
    · simp only [hsuccess h]
      rw [← List.take_add, hcut]
  | case5 file remain reads hremain ih => exact ih hloop
  | case6 file remain reads hremain =>
    cases hloop
    exact ⟨Nat.le_refl _, .inr rfl, by simp, by simp, fun h => by cases h⟩

/-- A file is read up to its end or the end of the buffer, or up to the first error. -/
theorem util_file_read_beginning {file : List UInt8} {len : Nat} {reads : List Read}
    {result : FileRead} (hlen : 1 ≤ len)
    (hreturn : util_file_read (some file) len reads = some result) :
    result.IsBeginning file len ∧ (result.ret = 0 → result.len = min file.length len) := by
  rw [util_file_read, if_neg (Nat.ne_of_gt hlen)] at hreturn
  obtain ⟨⟨ret, data, left⟩, hloop, rfl⟩ := Option.map_eq_some_iff.mp hreturn
  have hbeginning := (readLoop_beginning hloop).2
  refine ⟨hbeginning, fun hret => ?_⟩
  rw [hbeginning.stored, hbeginning.success hret, List.length_take, Nat.min_comm]

theorem util_file_read_short : (FileRead.mk (-1) [7, 8] 2).IsBeginning [7, 8, 9] 5 :=
  (@util_file_read_beginning _ _ [.upTo 0, .EINTR, .upTo 0, .failed] _ (by decide) rfl).1

end hub.base
