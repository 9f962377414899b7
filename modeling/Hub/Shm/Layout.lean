import Hub.Shm.Segment
import Mathlib.Algebra.BigOperators.Group.List.Basic
import Mathlib.Algebra.GroupWithZero.Nat

namespace hub.shm

open ShmBlockInfo

def aligned (size : Nat) : Nat := (size + 7) / 8 * 8

theorem le_aligned (size : Nat) : size ≤ aligned size := by
  unfold aligned
  omega

theorem dvd_aligned (size : Nat) : 8 ∣ aligned size := Nat.dvd_mul_left 8 _

variable {blocks : List ShmBlock} {block : ShmBlock} {size : Nat} {i j : Nat}

theorem SHM_SIZE_of_lt (hfits : aligned size < range64) : SHM_SIZE size = aligned size := by
  have hsum : (size + 7) % range64 = size + 7 := by
    simp only [aligned, range64] at hfits ⊢
    omega
  rw [SHM_SIZE, hsum, aligned]

def span (blocks : List ShmBlock) : Nat := (blocks.map fun block => aligned block.block_size).sum

@[simp] theorem span_nil : span [] = 0 := rfl

@[simp] theorem span_cons (block : ShmBlock) (blocks : List ShmBlock) :
    span (block :: blocks) = aligned block.block_size + span blocks := List.sum_cons

theorem dvd_span (blocks : List ShmBlock) : 8 ∣ span blocks := by
  induction blocks with
  | nil => exact Nat.dvd_zero 8
  | cons block blocks ih => exact Nat.dvd_add (dvd_aligned _) ih

theorem span_take_add_drop (blocks : List ShmBlock) (i : Nat) :
    span (blocks.take i) + span (blocks.drop i) = span blocks := by
  rw [span, span, ← List.sum_append, ← List.map_append, List.take_append_drop, span]

theorem span_take_succ {i : Nat} (hblock : blocks[i]? = some block) :
    span (blocks.take (i + 1)) = span (blocks.take i) + aligned block.block_size := by
  rw [List.take_add_one, hblock]
  simp [span]

theorem span_take_le (blocks : List ShmBlock) (i : Nat) : span (blocks.take i) ≤ span blocks :=
  Nat.le.intro (span_take_add_drop blocks i)

theorem span_take_mono (blocks : List ShmBlock) (hij : i ≤ j) :
    span (blocks.take i) ≤ span (blocks.take j) := by
  have htake := span_take_le (blocks.take j) i
  rwa [List.take_take, Nat.min_eq_left hij] at htake

/-- The offset behind blocks of which the first has the given offset, as both loops compute
it. -/
def offsetAfter (offset : Nat) (blocks : List ShmBlock) : Nat :=
  blocks.foldl (fun size block => (size + SHM_SIZE block.block_size) % range64) offset

theorem offsetAfter_of_lt (hfits : size + span blocks < range64) : offsetAfter size blocks = size + span blocks := by
  induction blocks generalizing size with
  | nil => rfl
  | cons block blocks ih =>
    rw [span_cons] at hfits
    rw [offsetAfter, List.foldl_cons, SHM_SIZE_of_lt (by omega), Nat.mod_eq_of_lt (by omega)]
    rw [span_cons, ← Nat.add_assoc]
    exact ih (by omega)

/-- The loop over the blocks reaches block `i`: every mutex before it was initialised. -/
def Reached (sys : System) (i : Nat) : Prop := ∀ j < i, sys.blockMutex j = true

theorem Reached.mono {sys : System} (hreached : Reached sys j) (hij : i ≤ j) : Reached sys i :=
  fun k hk => hreached k (Nat.lt_of_lt_of_le hk hij)

open Classical in
/-- What the loop over the blocks leaves: an entry that it reaches has the offset behind the
blocks before it, and the other entries are what they were. -/
theorem getElem?_initBlocks {blockMutex : Nat → Bool} {entries : List ShmBlockInfo}
    {i offset j : Nat} (hlength : entries.length = blocks.length) (hblock : blocks[j]? = some block) :
    (initBlocks blockMutex blocks entries i offset)[j]? =
      if ∀ k < j, blockMutex (i + k) = true then
        some { offset := offsetAfter offset (blocks.take j), block_size := SHM_SIZE block.block_size,
               mutex := blockMutex (i + j) }
      else entries[j]? := by
  induction blocks generalizing entries i offset j with
  | nil => cases hblock
  | cons first blocks ih =>
    obtain ⟨entry, entries, rfl⟩ : ∃ entry rest, entries = entry :: rest :=
      List.exists_cons_of_length_eq_add_one hlength
    rw [initBlocks]
    cases j with
    | zero =>
      cases hblock
      split <;> simp [offsetAfter]
    | succ j =>
      rw [List.getElem?_cons_succ] at hblock
      -- The first mutex decides whether the loop goes on; the others are those of the rest.
      have hreach : (∀ k < j + 1, blockMutex (i + k) = true) ↔
          blockMutex i = true ∧ ∀ k < j, blockMutex (i + 1 + k) = true := by
        rw [Nat.forall_lt_succ_left]
        simp only [Nat.add_zero, Nat.add_assoc, Nat.add_comm 1]
      by_cases hmutex : blockMutex i = true
      · rw [if_pos hmutex, List.getElem?_cons_succ, ih (Nat.succ.inj hlength) hblock, List.getElem?_cons_succ]
        simp only [hreach, hmutex, true_and, List.take_succ_cons, offsetAfter, List.foldl_cons, Nat.add_assoc,
          Nat.add_comm 1]
      · rw [if_neg hmutex, List.getElem?_cons_succ, if_neg (fun hall => hmutex (hreach.mp hall).1),
          List.getElem?_cons_succ]

def blockRange (mutexSize : Nat) (s : Shm) (block_id : UInt32) : Option (Nat × Nat) :=
  (get_hdr s).bind fun found => (shm_get_block_addr mutexSize s block_id).bind fun addr =>
    found.2.block[block_id.toNat]?.map fun entry => (addr - found.1, entry.block_size)

theorem blockRange_eq {mutexSize addr : Nat} {s : Shm} {hdr : ShmHeader} (block_id : UInt32)
    (hhdr : get_hdr s = some (addr, hdr)) :
    blockRange mutexSize s block_id =
      if hdr.block_count ≤ block_id.toNat then none
      else hdr.block[block_id.toNat]?.map fun entry =>
        (dataOffset mutexSize hdr.block_count + entry.offset, entry.block_size) := by
  simp only [blockRange, shm_get_block_addr, get_data_start, hhdr, Option.bind_some]
  split
  · rfl
  · cases hdr.block[block_id.toNat]? with
    | none => rfl
    | some entry => simp [Nat.add_assoc]

def metaSize (mutexSize count : Nat) : Nat := sizeofHeader mutexSize + sizeofBlockInfo mutexSize * count

/-- Every block that was asked for has a place of its own in the segment. -/
structure LaidOut (mutexSize : Nat) (blocks : List ShmBlock) (s : Shm) : Prop where
  placed : ∀ (block_id : UInt32) (block : ShmBlock), blocks[block_id.toNat]? = some block →
    ∃ start size addr hdr, blockRange mutexSize s block_id = some (start, size) ∧ get_hdr s = some (addr, hdr) ∧
      8 ∣ start ∧ block.block_size ≤ size ∧ metaSize mutexSize blocks.length ≤ start ∧ start + size ≤ hdr.total_size
  ordered : ∀ (block_id later : UInt32) (start size start' size' : Nat), block_id.toNat < later.toNat →
    blockRange mutexSize s block_id = some (start, size) → blockRange mutexSize s later = some (start', size') →
    start + size ≤ start'

section Created

variable {mutexSize : Nat} {sys : System} {s next : Shm}

structure Creates (mutexSize : Nat) (sys : System) (blocks : List ShmBlock) (s next : Shm) : Prop where
  nonempty : blocks ≠ []
  absent : s.segment = none
  returns : shm_init_manager mutexSize sys (some blocks) s = (next, 0)

namespace Creates

variable (hcreates : Creates mutexSize sys blocks s next)

section Placed

include hcreates

theorem hdr :
    ∃ addr hdr, get_hdr next = some (addr, hdr) ∧ hdr.block_count = blocks.length ∧
      hdr.total_size = (dataOffset mutexSize blocks.length + blocksSize blocks) % range64 ∧
      hdr.block = initBlocks sys.blockMutex blocks (List.replicate blocks.length zero) 0 0 := by
  obtain ⟨hnonempty, habsent, hreturns⟩ := hcreates
  obtain ⟨first, rest, hblocks⟩ := List.exists_cons_of_ne_nil hnonempty
  rw [hblocks] at hreturns
  simp only [shm_init_manager, habsent] at hreturns
  rw [← hblocks] at hreturns
  split at hreturns
  · cases hreturns
  · unfold create at hreturns
    split at hreturns
    · cases hreturns
    split at hreturns
    · cases hreturns
    · rename_i addr hmmap
      split at hreturns
      · cases hreturns
      · cases hreturns
        exact ⟨addr, _, rfl, rfl, rfl, rfl⟩

variable {block_id : UInt32}

theorem exists_block {range : Nat × Nat}
    (hrange : blockRange mutexSize next block_id = some range) : ∃ block, blocks[block_id.toNat]? = some block := by
  obtain ⟨addr, hdr, hhdr, hcount, _, _⟩ := hcreates.hdr
  by_cases hlt : block_id.toNat < blocks.length
  · exact ⟨_, List.getElem?_eq_getElem hlt⟩
  · rw [blockRange_eq block_id hhdr, hcount, if_pos (Nat.not_lt.mp hlt)] at hrange
    cases hrange

variable (hblock : blocks[block_id.toNat]? = some block)

include hblock

theorem blockRange_of_entry {entry : ShmBlockInfo}
    (hentry : (initBlocks sys.blockMutex blocks (List.replicate blocks.length zero) 0 0)[block_id.toNat]? =
      some entry) :
    blockRange mutexSize next block_id =
      some (dataOffset mutexSize blocks.length + entry.offset, entry.block_size) := by
  obtain ⟨addr, hdr, hhdr, hcount, _, hentries⟩ := hcreates.hdr
  have hlt : ¬blocks.length ≤ block_id.toNat := Nat.not_le.mpr (List.getElem?_eq_some_iff.mp hblock).1
  rw [blockRange_eq block_id hhdr, hcount, if_neg hlt, hentries, hentry, Option.map_some]

theorem blockRange_of_reached (hreached : Reached sys block_id.toNat) :
    blockRange mutexSize next block_id =
      some (dataOffset mutexSize blocks.length + blocksSize (blocks.take block_id.toNat),
        SHM_SIZE block.block_size) := by
  have hreached' : ∀ k < block_id.toNat, sys.blockMutex (0 + k) = true := by
    simpa only [Nat.zero_add, Reached] using hreached
  exact hcreates.blockRange_of_entry hblock
    ((getElem?_initBlocks List.length_replicate hblock).trans (if_pos hreached'))

theorem blockRange_of_not_reached (hreached : ¬Reached sys block_id.toNat) :
    blockRange mutexSize next block_id = some (dataOffset mutexSize blocks.length, 0) := by
  have hreached' : ¬∀ k < block_id.toNat, sys.blockMutex (0 + k) = true := by
    simpa only [Nat.zero_add, Reached] using hreached
  have hzero : (List.replicate blocks.length zero)[block_id.toNat]? = some .zero :=
    List.getElem?_replicate_of_lt (List.getElem?_eq_some_iff.mp hblock).1
  exact hcreates.blockRange_of_entry hblock
    ((getElem?_initBlocks List.length_replicate hblock).trans ((if_neg hreached').trans hzero))

end Placed

variable {block_id : UInt32}
  (hfits : aligned (metaSize mutexSize blocks.length) + span blocks < range64)

include hfits

omit hcreates in
theorem dataOffset_eq :
    dataOffset mutexSize blocks.length = aligned (metaSize mutexSize blocks.length) := by
  have hfits' : aligned (metaSize mutexSize blocks.length) < range64 := by omega
  have hle := le_aligned (metaSize mutexSize blocks.length)
  unfold metaSize at hfits' hle ⊢
  have hentries : sizeofBlockInfo mutexSize * blocks.length % range64 = _ := Nat.mod_eq_of_lt (by omega)
  rw [dataOffset, hentries, Nat.mod_eq_of_lt (by omega), SHM_SIZE_of_lt hfits']

include hcreates

theorem blockRange_of_fits (hblock : blocks[block_id.toNat]? = some block) (hreached : Reached sys block_id.toNat) :
    blockRange mutexSize next block_id =
      some (dataOffset mutexSize blocks.length + span (blocks.take block_id.toNat), aligned block.block_size) := by
  have hend := span_take_le blocks (block_id.toNat + 1)
  rw [span_take_succ hblock] at hend
  have hoffset : blocksSize (blocks.take block_id.toNat) = _ := offsetAfter_of_lt (by omega)
  rw [hcreates.blockRange_of_reached hblock hreached, hoffset, Nat.zero_add, SHM_SIZE_of_lt (by omega)]

theorem laidOut_of_ranges (offset : UInt32 → Nat)
    (size : ShmBlock → Nat)
    (hrange : ∀ (block_id : UInt32) (block : ShmBlock), blocks[block_id.toNat]? = some block →
      blockRange mutexSize next block_id =
        some (dataOffset mutexSize blocks.length + offset block_id, size block))
    (hplaced : ∀ (block_id : UInt32) (block : ShmBlock), blocks[block_id.toNat]? = some block →
      8 ∣ offset block_id ∧ block.block_size ≤ size block ∧ offset block_id + size block ≤ span blocks)
    (hordered : ∀ (block_id later : UInt32) (block : ShmBlock), block_id.toNat < later.toNat →
      blocks[block_id.toNat]? = some block → offset block_id + size block ≤ offset later) :
    LaidOut mutexSize blocks next := by
  obtain ⟨addr, hdr, hhdr, _, htotal, _⟩ := hcreates.hdr
  have hdata := dataOffset_eq hfits
  have hmeta := le_aligned (metaSize mutexSize blocks.length)
  have hsize : blocksSize blocks = 0 + span blocks := offsetAfter_of_lt (by omega)
  rw [hsize, Nat.zero_add, Nat.mod_eq_of_lt (by omega)] at htotal
  have hdvd : 8 ∣ dataOffset mutexSize blocks.length := hdata ▸ dvd_aligned _
  constructor
  · intro block_id block hblock
    obtain ⟨hoffset, hsize, hend⟩ := hplaced block_id block hblock
    exact ⟨_, _, addr, hdr, hrange block_id block hblock, hhdr, Nat.dvd_add hdvd hoffset, hsize, by omega, by omega⟩
  · intro block_id later start size start' size' hlt hfirst hlater
    obtain ⟨block, hblock⟩ := hcreates.exists_block hfirst
    obtain ⟨block', hblock'⟩ := hcreates.exists_block hlater
    cases (hrange block_id block hblock).symm.trans hfirst
    cases (hrange later block' hblock').symm.trans hlater
    have hle := hordered block_id later block hlt hblock
    omega

theorem laidOut_of_reached
    (hreached : ∀ block_id : UInt32, block_id.toNat < blocks.length → Reached sys block_id.toNat) :
    LaidOut mutexSize blocks next := by
  refine hcreates.laidOut_of_ranges hfits (fun block_id => span (blocks.take block_id.toNat))
    (fun block => aligned block.block_size) ?_ ?_ ?_
  · intro block_id block hblock
    exact hcreates.blockRange_of_fits hfits hblock (hreached block_id (List.getElem?_eq_some_iff.mp hblock).1)
  · intro block_id block hblock
    refine ⟨dvd_span _, le_aligned _, ?_⟩
    rw [← span_take_succ hblock]
    exact span_take_le blocks _
  · intro block_id later block hlt hblock
    rw [← span_take_succ hblock]
    exact span_take_mono blocks hlt

theorem laidOut_of_empty
    (hempty : ∀ (block_id : UInt32) (block : ShmBlock), blocks[block_id.toNat]? = some block → block.block_size = 0) :
    LaidOut mutexSize blocks next := by
  -- Every block before one that has an id has an id itself.
  have hspan (i : Nat) (hi : i < 4294967296) : span (blocks.take i) = 0 := by
    induction i with
    | zero => rfl
    | succ i ih =>
      cases hblock : blocks[i]? with
      | none => rw [List.take_add_one, hblock, Option.toList_none, List.append_nil, ih (by omega)]
      | some block =>
        have hid : (UInt32.ofNat i).toNat = i := UInt32.toNat_ofNat_of_lt' (Nat.lt_of_succ_lt hi)
        have hsize : block.block_size = 0 := hempty (UInt32.ofNat i) block (by rw [hid]; exact hblock)
        rw [span_take_succ hblock, ih (by omega), hsize]
        rfl
  refine hcreates.laidOut_of_ranges hfits (fun _ => 0) (fun _ => 0) ?_ ?_ ?_
  · intro block_id block hblock
    by_cases hreached : Reached sys block_id.toNat
    · rw [hcreates.blockRange_of_fits hfits hblock hreached, hspan _ block_id.toNat_lt, hempty block_id block hblock]
      rfl
    · exact hcreates.blockRange_of_not_reached hblock hreached
  · intro block_id block hblock
    exact ⟨Nat.dvd_zero 8, Nat.le_of_eq (hempty block_id block hblock), Nat.zero_le _⟩
  · intro block_id later block _ _
    exact Nat.le_refl 0

theorem empty_of_laidOut (hlaid : LaidOut mutexSize blocks next) {missed : UInt32}
    (hmissed : missed.toNat < blocks.length) (hreached : ¬Reached sys missed.toNat) (block_id : UInt32)
    (block : ShmBlock) (hblock : blocks[block_id.toNat]? = some block) : block.block_size = 0 := by
  obtain ⟨start, size, _, _, hrange, _, _, hsize, _, _⟩ := hlaid.placed block_id block hblock
  by_cases hown : Reached sys block_id.toNat
  · -- The loop reached this block and not `missed`, which therefore comes later and starts at the data.
    have hlt : block_id.toNat < missed.toNat := by
      by_contra hle
      exact hreached (hown.mono (Nat.not_lt.mp hle))
    have hend := hlaid.ordered block_id missed _ _ _ _ hlt (hcreates.blockRange_of_fits hfits hblock hown)
      (hcreates.blockRange_of_not_reached (List.getElem?_eq_getElem hmissed) hreached)
    have hle := le_aligned block.block_size
    omega
  · cases (hcreates.blockRange_of_not_reached hblock hown).symm.trans hrange
    exact Nat.le_zero.mp hsize

end Creates

end Created

/-- After `shm_init_manager` has created the segment and returned 0, the blocks are laid out
unless a mutex failed before the last of them. -/
theorem shm_init_manager_layout_iff (mutexSize : Nat) (sys : System) (blocks : List ShmBlock) (s next : Shm)
    (hnonempty : blocks ≠ [])
    (hfits : aligned (metaSize mutexSize blocks.length) + span blocks < range64)
    (habsent : s.segment = none) (hreturns : shm_init_manager mutexSize sys (some blocks) s = (next, 0)) :
    LaidOut mutexSize blocks next ↔
      (∀ block_id : UInt32, block_id.toNat < blocks.length → Reached sys block_id.toNat) ∨
        ∀ (block_id : UInt32) (block : ShmBlock), blocks[block_id.toNat]? = some block → block.block_size = 0 := by
  have hcreates : Creates mutexSize sys blocks s next := ⟨hnonempty, habsent, hreturns⟩
  constructor
  · intro hlaid
    by_cases hall : ∀ block_id : UInt32, block_id.toNat < blocks.length → Reached sys block_id.toNat
    · exact Or.inl hall
    · push Not at hall
      obtain ⟨missed, hmissed, hreached⟩ := hall
      exact Or.inr fun block_id block hblock =>
        hcreates.empty_of_laidOut hfits hlaid hmissed hreached block_id block hblock
  · rintro (hreached | hempty)
    · exact hcreates.laidOut_of_reached hfits hreached
    · exact hcreates.laidOut_of_empty hfits hempty

def onlyBlockMutex (blockMutex : Nat → Bool) : System where
  creates := true
  opens := true
  ftruncate := true
  mmap := some 4096
  headerMutex := true
  blockMutex := blockMutex
  lock := .locked

def unattached : Shm where
  segment := none
  g_shm_ptr := none
  mappings := []

theorem shm_init_manager_layout_of_two :
    LaidOut 40 [⟨5⟩, ⟨16⟩] (shm_init_manager 40 (onlyBlockMutex fun _ => true) (some [⟨5⟩, ⟨16⟩]) unattached).1 :=
  (shm_init_manager_layout_iff 40 (onlyBlockMutex fun _ => true) [⟨5⟩, ⟨16⟩] unattached _
    (List.cons_ne_nil _ _) (by decide) rfl rfl).mpr (Or.inl fun _ _ _ _ => rfl)

/-- The mutex of the first of two blocks fails. The call returns 0, and the second block has
no room. -/
theorem shm_init_manager_misplaces :
    (shm_init_manager 40 (onlyBlockMutex fun _ => false) (some [⟨8⟩, ⟨8⟩]) unattached).2 = 0 ∧
      ¬LaidOut 40 [⟨8⟩, ⟨8⟩] (shm_init_manager 40 (onlyBlockMutex fun _ => false) (some [⟨8⟩, ⟨8⟩]) unattached).1 := by
  refine ⟨rfl, fun hlaid => ?_⟩
  obtain ⟨start, size, _, _, hrange, _, _, hsize, _⟩ := hlaid.placed 1 ⟨8⟩ rfl
  have hempty : blockRange 40
      (shm_init_manager 40 (onlyBlockMutex fun _ => false) (some [⟨8⟩, ⟨8⟩]) unattached).1 1 = some (184, 0) := by
    decide
  cases hempty.symm.trans hrange
  exact absurd hsize (by decide)

end hub.shm
