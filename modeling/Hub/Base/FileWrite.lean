import Mathlib.Algebra.GroupWithZero.Nat
import Mathlib.Data.List.Basic

namespace hub.base

/-- What is at `abs_filename` and at `tmp_abs_filename`. -/
structure Files where
  target : Option (List UInt8)
  tmp : Option (List UInt8)

inductive Write where
  | wrote (n : Nat)
  | EINTR
  | failed

/-- The outcomes of the calls of `util_file_write`, true for those that it accepts: `ENOENT`
is one of `stat` and `unlink`, and `ENOSYS` and `EINTR` are two of `fsync`. -/
structure Outcomes where
  stat : Bool
  nameFits : Bool
  unlink : Bool
  create : Bool
  writes : List Write
  fsync : Bool
  close : Bool
  rename : Bool
  lastUnlink : Bool

structure FileWritten where
  ret : Int
  files : Files
  /-- The final `unlink` succeeds, or finds no file. -/
  unlinked : Bool

/-- The write loop, with what it writes to the file. There is no result if the outcomes end
before it does. -/
def writeLoop : List UInt8 → List Write → Option (List UInt8)
  | [], _ => some []
  | _, [] => none
  | data, .wrote n :: writes => (writeLoop (data.drop n) writes).map (data.take n ++ ·)
  | data, .EINTR :: writes => writeLoop data writes
  -- only the loop is left, and `ret` is set again below
  | _, .failed :: _ => some []

variable (outcomes : Outcomes) (files : Files) (data : List UInt8)

def finish (ret : Int) : FileWritten where
  ret := ret
  files := if outcomes.lastUnlink then { files with tmp := none } else files
  unlinked := outcomes.lastUnlink

def util_file_write : Option FileWritten :=
  -- `tmp_abs_filename` is still empty here, and the final `unlink` fails
  if !outcomes.stat || !outcomes.nameFits then some ⟨-1, files, false⟩
  else if !outcomes.unlink then some (finish outcomes files (-1))
  else if !outcomes.create then some (finish outcomes { files with tmp := none } (-1))
  else (writeLoop data outcomes.writes).map fun written =>
    if !outcomes.fsync || !outcomes.close || !outcomes.rename then
      finish outcomes { files with tmp := some written } (-1)
    else finish outcomes { target := some written, tmp := none } 0

/-- The target holds the data on success and is unchanged on failure, and no temporary file
is left unless the final `unlink` fails. -/
structure FileWritten.Atomic (written : FileWritten) : Prop where
  success : written.ret = 0 → written.files.target = some data
  failure : written.ret = -1 → written.files.target = files.target
  tidy : written.unlinked = true → written.files.tmp = none

def Write.count : Write → Nat
  | .wrote n => n
  | .EINTR | .failed => 0

/-- `write` fails, with an error other than `EINTR`, only once the data is written. -/
def WritesAll (writes : List Write) : Prop :=
  ∀ n < writes.length, writes[n]? = some .failed → data.length ≤ ((writes.take n).map Write.count).sum

def Outcomes.others : Bool :=
  outcomes.stat && outcomes.nameFits && outcomes.unlink && outcomes.create && outcomes.fsync && outcomes.close &&
    outcomes.rename

variable {outcomes files data} {result : FileWritten}

theorem writesAll_cons {write : Write} {writes : List Write} (hwrite : write ≠ .failed) :
    WritesAll data (write :: writes) ↔ WritesAll (data.drop write.count) writes := by
  simp only [WritesAll, List.length_cons, Nat.forall_lt_succ_left, List.getElem?_cons_zero, Option.some.injEq, hwrite,
    false_implies, true_and, List.getElem?_cons_succ, List.take_succ_cons, List.map_cons, List.sum_cons,
    List.length_drop, Nat.sub_le_iff_le_add']

theorem writeLoop_eq_iff {writes : List Write} {written : List UInt8} (hloop : writeLoop data writes = some written) :
    written = data ↔ WritesAll data writes := by
  fun_induction writeLoop data writes generalizing written with
  | case1 =>
    cases hloop
    exact iff_of_true rfl fun _ _ _ => Nat.zero_le _
  | case2 => cases hloop
  | case3 data n writes hdata ih =>
    obtain ⟨rest, hrest, rfl⟩ := Option.map_eq_some_iff.mp hloop
    rw [writesAll_cons (by simp), Write.count, ← ih hrest]
    constructor
    · intro heq
      exact List.append_cancel_left (heq.trans (List.take_append_drop n data).symm)
    · intro heq
      rw [heq, List.take_append_drop]
  | case4 data writes hdata ih =>
    rw [writesAll_cons (by simp)]
    exact ih hloop
  | case5 data writes hdata =>
    cases hloop
    refine iff_of_false (fun heq => hdata heq.symm) fun hall => ?_
    exact hdata (List.length_eq_zero_iff.mp (Nat.le_zero.mp (hall 0 (Nat.succ_pos _) rfl)))

theorem finish_target (ret : Int) : (finish outcomes files ret).files.target = files.target := by
  simp only [finish, apply_ite Files.target, ite_self]

theorem finish_tidy (ret : Int) (hunlinked : (finish outcomes files ret).unlinked = true) :
    (finish outcomes files ret).files.tmp = none :=
  congrArg Files.tmp (if_pos hunlinked)

theorem atomic_of_failure {left : Files} (htarget : left.target = files.target) :
    (finish outcomes left (-1)).Atomic files data where
  success hret := by cases hret
  failure _ := (finish_target (-1)).trans htarget
  tidy := finish_tidy (-1)

/-- A write is atomic exactly if `write` does not fail before the end of the data, or another
call fails as well. -/
theorem util_file_write_atomic_iff (hreturn : util_file_write outcomes files data = some result) :
    result.Atomic files data ↔ (outcomes.others = true → WritesAll data outcomes.writes) := by
  simp only [util_file_write] at hreturn
  split at hreturn
  · rename_i hfails
    cases hreturn
    refine iff_of_true ⟨fun hret => ?_, fun _ => rfl, fun hunlinked => ?_⟩ (by grind [Outcomes.others])
    · cases hret
    · cases hunlinked
  split at hreturn
  · cases hreturn
    exact iff_of_true (atomic_of_failure rfl) (by grind [Outcomes.others])
  split at hreturn
  · cases hreturn
    exact iff_of_true (atomic_of_failure rfl) (by grind [Outcomes.others])
  obtain ⟨written, hloop, rfl⟩ := Option.map_eq_some_iff.mp hreturn
  by_cases hlater : (!outcomes.fsync || !outcomes.close || !outcomes.rename) = true
  · rw [if_pos hlater]
    exact iff_of_true (atomic_of_failure rfl) (by grind [Outcomes.others])
  · have hothers : outcomes.others = true := by grind [Outcomes.others]
    simp only [if_neg hlater, hothers, true_implies, ← writeLoop_eq_iff hloop]
    constructor
    · intro hatomic
      exact Option.some.inj ((finish_target 0).symm.trans (hatomic.success rfl))
    · intro hwritten
      refine ⟨fun _ => (finish_target 0).trans (congrArg some hwritten), fun hret => ?_, finish_tidy 0⟩
      cases hret

/-- The last `write` would fail, but the data is written before it. -/
def shortWrites : Outcomes := ⟨true, true, true, true, [.wrote 1, .EINTR, .wrote 2, .failed], true, true, true, true⟩

theorem util_file_write_short :
    util_file_write shortWrites ⟨some [9], none⟩ [1, 2, 3] = some ⟨0, ⟨some [1, 2, 3], none⟩, true⟩ ∧
      (FileWritten.mk 0 ⟨some [1, 2, 3], none⟩ true).Atomic ⟨some [9], none⟩ [1, 2, 3] :=
  ⟨rfl, (@util_file_write_atomic_iff shortWrites ⟨some [9], none⟩ [1, 2, 3] _ rfl).mpr fun _ => by
    rw [shortWrites, writesAll_cons (by simp), writesAll_cons (by simp), writesAll_cons (by simp)]
    exact fun _ _ _ => Nat.zero_le _⟩

/-- The disk is full after the first byte: the target is replaced by that byte, and the
result is 0. -/
theorem util_file_write_truncates :
    util_file_write { shortWrites with writes := [.wrote 1, .failed] } ⟨some [9], none⟩ [1, 2, 3] =
      some ⟨0, ⟨some [1], none⟩, true⟩ := by
  rfl

end hub.base
