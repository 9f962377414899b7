import Hub.Shm.Layout

namespace hub.shm

/-- The length that `shm_init_manager` computes for a list of blocks. -/
def totalSize (mutexSize : Nat) (blocks : List ShmBlock) : Nat :=
  (dataOffset mutexSize blocks.length + blocksSize blocks) % range64

def LockResult.acquired : LockResult → Bool
  | .locked | .ownerDead true => true
  | .ownerDead false | .error => false

def Segment.counted (segment : Segment) : Segment :=
  { segment with hdr := { segment.hdr with refcount := (segment.hdr.refcount + 1) % range64 } }

variable {mutexSize total_size : Nat} {sys : System} {s created before next : Shm} {segment : Segment}
  {blocks others : List ShmBlock}

theorem attach_eq_zero (hret : attach sys segment total_size s = (next, 0)) :
    ∃ addr, next =
      { segment := some segment.counted, g_shm_ptr := some addr,
        mappings := { addr := addr, length := total_size } :: s.mappings } := by
  unfold attach at hret
  split at hret
  · cases hret
  split at hret
  · cases hret
  · rename_i addr _
    dsimp only at hret
    split at hret
    · cases hret
    · split at hret
      · cases hret
        exact ⟨addr, rfl⟩
      · cases hret
        exact ⟨addr, rfl⟩
      · cases hret
      · cases hret

/-- The object at a later time: processes have counted themselves and written to the blocks. -/
def Kept (created before : Shm) : Prop :=
  ∃ refcount data, before.segment = created.segment.map fun segment =>
    { segment with hdr := { segment.hdr with refcount := refcount }, data := data }

/-- Every block that the header counts lies inside the range that the call has mapped. -/
def Covered (mutexSize : Nat) (before next : Shm) : Prop :=
  ∃ mapping addr hdr, next.mappings = mapping :: before.mappings ∧ get_hdr next = some (addr, hdr) ∧
    mapping.addr = addr ∧ ∀ block_id : UInt32, block_id.toNat < hdr.block_count →
      ∃ start size, blockRange mutexSize next block_id = some (start, size) ∧ start + size ≤ mapping.length

/-- A process that attaches has every block mapped exactly if the length computed from its
own list reaches the end of every block that was placed. -/
theorem attach_covers_iff (mutexSize : Nat) (sys : System) (blocks : List ShmBlock) (s created : Shm)
    (hcreates : Creates mutexSize sys blocks s created) (sys' : System) (others : List ShmBlock) (before next : Shm)
    (hkept : Kept created before) (hreturns : shm_init_manager mutexSize sys' (some others) before = (next, 0)) :
    Covered mutexSize before next ↔
      ∀ (block_id : UInt32) (block : ShmBlock), blocks[block_id.toNat]? = some block → Reached sys block_id.toNat →
        dataOffset mutexSize blocks.length + blocksSize (blocks.take block_id.toNat) + SHM_SIZE block.block_size ≤
          totalSize mutexSize others := by
  obtain ⟨addr, hdr, hhdr, hcount, _, _⟩ := hcreates.hdr
  obtain ⟨base, _, hfound⟩ := Option.bind_eq_some_iff.mp hhdr
  obtain ⟨segment, hsegment, heq⟩ := Option.map_eq_some_iff.mp hfound
  cases heq
  obtain ⟨refcount, data, hbefore⟩ := hkept
  rw [hsegment, Option.map_some] at hbefore
  cases others with
  | nil => cases hreturns
  | cons first rest =>
    simp only [shm_init_manager, hbefore] at hreturns
    obtain ⟨addr', rfl⟩ := attach_eq_zero hreturns
    -- The blocks are where the creating call has put them.
    have hplace (block_id : UInt32) : blockRange mutexSize
        { segment := some (Segment.counted { segment with hdr := { segment.hdr with refcount }, data }),
          g_shm_ptr := some addr', mappings := ⟨addr', totalSize mutexSize (first :: rest)⟩ :: before.mappings }
        block_id = blockRange mutexSize created block_id := by
      rw [blockRange_eq block_id hhdr, blockRange_eq block_id rfl]
      rfl
    constructor
    · rintro ⟨mapping, _, _, hmapping, hget, -, hcovered⟩ block_id block hblock hreached
      cases hmapping
      cases hget
      have hlt := (List.getElem?_eq_some_iff.mp hblock).1
      obtain ⟨start, size, hrange, hend⟩ := hcovered block_id (hcount.symm ▸ hlt)
      cases (hcreates.blockRange_of_reached hblock hreached).symm.trans ((hplace block_id).symm.trans hrange)
      exact hend
    · intro hreach
      refine ⟨_, _, _, rfl, rfl, rfl, fun block_id hlt => ?_⟩
      have hblock := List.getElem?_eq_getElem (hcount ▸ hlt : block_id.toNat < blocks.length)
      by_cases hreached : Reached sys block_id.toNat
      · exact ⟨_, _, (hplace block_id).trans (hcreates.blockRange_of_reached hblock hreached),
          hreach block_id _ hblock hreached⟩
      · -- The loop reaches the first block, which starts where an entry of zeros points to.
        refine ⟨_, _, (hplace block_id).trans (hcreates.blockRange_of_not_reached hblock hreached), ?_⟩
        have hfirst : blocks[(0 : UInt32).toNat]? = some _ :=
          List.getElem?_eq_getElem (List.length_pos_of_ne_nil hcreates.nonempty)
        have hend := hreach 0 _ hfirst (fun j hj => absurd hj (Nat.not_lt_zero j))
        change _ ≤ totalSize mutexSize (first :: rest)
        omega

def elsewhere (s : Shm) : Shm := { s with g_shm_ptr := none, mappings := [] }

def oneBlock (block_size : Nat) : Shm :=
  elsewhere (shm_init_manager 40 (onlyBlockMutex fun _ => true) (some [⟨block_size⟩]) unattached).1

/-- The object that is created from two blocks when the mutex of the first one fails. The second
one has no place. -/
def firstMutexFails : Shm :=
  elsewhere (shm_init_manager 40 (onlyBlockMutex fun _ => false) (some [⟨8⟩, ⟨8192⟩]) unattached).1

theorem attach_covers_first :
    Covered 40 firstMutexFails
      (shm_init_manager 40 (onlyBlockMutex fun _ => true) (some [⟨8⟩, ⟨8⟩]) firstMutexFails).1 := by
  refine (attach_covers_iff 40 (onlyBlockMutex fun _ => false) [⟨8⟩, ⟨8192⟩] unattached _
    ⟨List.cons_ne_nil _ _, rfl, rfl⟩ (onlyBlockMutex fun _ => true) [⟨8⟩, ⟨8⟩] _ _ ⟨1, fun _ => 0, rfl⟩ rfl).mpr ?_
  intro block_id block hblock hreached
  cases hid : block_id.toNat with
  | zero =>
    rw [hid] at hblock
    cases hblock
    decide
  | succ id =>
    rw [hid] at hreached
    cases hreached 0 (Nat.succ_pos id)

/-- The segment has one block of 8192 bytes. A process that asks for 8 bytes attaches to it
with a mapping of 136 bytes. -/
theorem attach_maps_too_little :
    (shm_init_manager 40 (onlyBlockMutex fun _ => true) (some [⟨8⟩]) (oneBlock 8192)).2 = 0 ∧
      ¬Covered 40 (oneBlock 8192)
        (shm_init_manager 40 (onlyBlockMutex fun _ => true) (some [⟨8⟩]) (oneBlock 8192)).1 := by
  refine ⟨rfl, ?_⟩
  rintro ⟨mapping, addr, hdr, hmapping, hhdr, _, hcovered⟩
  cases hmapping
  cases hhdr
  obtain ⟨start, size, hrange, hend⟩ := hcovered 0 (by decide)
  have hplace : blockRange 40 (shm_init_manager 40 (onlyBlockMutex fun _ => true) (some [⟨8⟩]) (oneBlock 8192)).1 0 =
      some (128, 8192) := by decide
  cases hplace.symm.trans hrange
  exact absurd hend (by decide)

/-- What a call that returns 0 has set up: all mutexes of a segment that it created, or a
count of the process under the mutex of the header. -/
def Established (sys : System) (blocks : List ShmBlock) (s next : Shm) : Prop :=
  match s.segment with
  | none => ∃ segment, next.segment = some segment ∧ segment.hdr.mutex = true ∧
      segment.hdr.block.length = blocks.length ∧ ∀ entry ∈ segment.hdr.block, entry.mutex = true
  | some segment => sys.lock.acquired = true ∧ next.segment = some segment.counted

/-- A call sets everything up, or it leaves the process unattached and nothing mapped. -/
def AllOrNothing (sys : System) (blocks : List ShmBlock) (s : Shm) (result : Shm × Int) : Prop :=
  result.2 = 0 ∧ Established sys blocks s result.1 ∨
    result.2 = -1 ∧ result.1.g_shm_ptr = none ∧ result.1.mappings = s.mappings

def FailsEarly (sys : System) (blocks : List ShmBlock) (s : Shm) : Prop :=
  blocks = [] ∨ sys.mmap = none ∨
    match s.segment with
    | none => sys.creates = false ∨ sys.ftruncate = false
    | some _ => sys.opens = false

/-- A call that fails early is made by a process that is not attached. Otherwise no mutex of a
block fails behind that of the header, or the mutex of the header of a valid object is taken. -/
def Orderly (sys : System) (blocks : List ShmBlock) (s : Shm) : Prop :=
  (FailsEarly sys blocks s → s.g_shm_ptr = none) ∧
    (¬FailsEarly sys blocks s →
      match s.segment with
      | none => sys.headerMutex = true → ∀ i < blocks.length, sys.blockMutex i = true
      | some segment => segment.hdr.magic_num = SHM_MAGIC_NUM → sys.lock.acquired = true)

theorem initBlocks_established_iff {blockMutex : Nat → Bool} {entries : List ShmBlockInfo} {i offset : Nat}
    (hlength : entries.length = blocks.length) :
    ((initBlocks blockMutex blocks entries i offset).length = blocks.length ∧
        ∀ entry ∈ initBlocks blockMutex blocks entries i offset, entry.mutex = true) ↔
      ∀ k < blocks.length, blockMutex (i + k) = true := by
  induction blocks generalizing entries i offset with
  | nil =>
    cases List.length_eq_zero_iff.mp hlength
    simp [initBlocks]
  | cons block blocks ih =>
    obtain ⟨entry, entries, rfl⟩ := List.exists_cons_of_length_eq_add_one hlength
    rw [initBlocks, List.length_cons, Nat.forall_lt_succ_left]
    by_cases hfirst : blockMutex i = true
    · have hrest := @ih entries (i + 1) ((offset + SHM_SIZE block.block_size) % range64) (Nat.succ.inj hlength)
      simp only [Nat.add_assoc, Nat.add_comm 1] at hrest
      rw [if_pos hfirst, List.length_cons, List.forall_mem_cons, Nat.add_right_cancel_iff]
      simp only [hfirst, true_and, Nat.add_zero, hrest]
    · rw [if_neg hfirst]
      simp [hfirst]

theorem shm_init_manager_early {blocks : Option (List ShmBlock)} (hearly : FailsEarly sys (blocks.getD []) s) :
    shm_init_manager mutexSize sys blocks s = (s, -1) := by
  unfold shm_init_manager
  split
  · rfl
  · rfl
  · rename_i blocks hnonempty
    rcases hearly with hnil | hmmap | hfails
    · exact absurd hnil hnonempty
    · cases hsegment : s.segment with
      | none => simp [create, hmmap]
      | some segment => simp [attach, hmmap]
    · cases hsegment : s.segment with
      | none =>
        rw [hsegment] at hfails
        rcases hfails with hcreates | hftruncate
        · simp [hcreates]
        · simp [create, hftruncate]
      | some segment =>
        rw [hsegment] at hfails
        simp [attach, hfails]

section Calls

variable (hfresh : ∀ mapping ∈ s.mappings, sys.mmap ≠ some mapping.addr)

include hfresh

theorem munmap_mapped {addr length : Nat} (hmmap : sys.mmap = some addr) :
    munmap ({ addr := addr, length := length } :: s.mappings) addr = s.mappings := by
  rw [munmap, List.filter_cons_of_neg (by simp), List.filter_eq_self]
  intro mapping hmapping
  have hne : mapping.addr ≠ addr := fun heq => hfresh mapping hmapping (heq ▸ hmmap)
  exact bne_iff_ne.mpr hne

theorem create_allOrNothing_iff {addr : Nat} (hsegment : s.segment = none) (hftruncate : sys.ftruncate = true)
    (hmmap : sys.mmap = some addr) :
    AllOrNothing sys blocks s (create sys blocks total_size s) ↔
      (sys.headerMutex = true → ∀ i < blocks.length, sys.blockMutex i = true) := by
  have hgone : munmap (⟨addr, total_size⟩ :: s.mappings) addr = s.mappings := munmap_mapped hfresh hmmap
  cases hheader : sys.headerMutex with
  | false => simp [create, hftruncate, hmmap, hheader, AllOrNothing, hgone]
  | true =>
    have hblocks := @initBlocks_established_iff blocks sys.blockMutex (List.replicate blocks.length .zero) 0 0
      List.length_replicate
    simp only [Nat.zero_add] at hblocks
    simp [create, hftruncate, hmmap, hheader, AllOrNothing, Established, hsegment, createdHeader, hblocks]

theorem attach_allOrNothing_iff {addr : Nat} (hsegment : s.segment = some segment) (hopens : sys.opens = true)
    (hmmap : sys.mmap = some addr) :
    AllOrNothing sys blocks s (attach sys segment total_size s) ↔
      (segment.hdr.magic_num = SHM_MAGIC_NUM → sys.lock.acquired = true) := by
  have hgone : munmap (⟨addr, total_size⟩ :: s.mappings) addr = s.mappings := munmap_mapped hfresh hmmap
  by_cases hmagic : segment.hdr.magic_num = SHM_MAGIC_NUM
  · cases hlock : sys.lock with
    | locked => simp [attach, hopens, hmmap, hmagic, hlock, AllOrNothing, Established, hsegment, LockResult.acquired,
        Segment.counted]
    | ownerDead recovered =>
      cases recovered with
      | false | true => simp [attach, hopens, hmmap, hmagic, hlock, AllOrNothing, Established, hsegment,
          LockResult.acquired, Segment.counted]
    | error => simp [attach, hopens, hmmap, hmagic, hlock, AllOrNothing, LockResult.acquired]
  · simp [attach, hopens, hmmap, hmagic, AllOrNothing, hgone]

end Calls

/-- When a call sets up everything or nothing, whatever fails. `mmap` gives a new address. -/
theorem shm_init_manager_allOrNothing_iff (mutexSize : Nat) (sys : System) (blocks : Option (List ShmBlock)) (s : Shm)
    (hfresh : ∀ mapping ∈ s.mappings, sys.mmap ≠ some mapping.addr) :
    AllOrNothing sys (blocks.getD []) s (shm_init_manager mutexSize sys blocks s) ↔ Orderly sys (blocks.getD []) s := by
  by_cases hearly : FailsEarly sys (blocks.getD []) s
  · rw [shm_init_manager_early hearly]
    simp [AllOrNothing, Orderly, hearly]
  simp only [Orderly, hearly, false_implies, not_false_eq_true, true_implies, true_and]
  simp only [FailsEarly, not_or] at hearly
  obtain ⟨hnonempty, hmmap, hopened⟩ := hearly
  obtain ⟨addr, hmmap⟩ := Option.ne_none_iff_exists'.mp hmmap
  unfold shm_init_manager
  split
  · exact absurd rfl hnonempty
  · exact absurd rfl hnonempty
  · dsimp only
    cases hsegment : s.segment with
    | none =>
      simp only [hsegment, not_or, Bool.not_eq_false] at hopened
      rw [if_neg (by simp [hopened.1])]
      exact create_allOrNothing_iff hfresh hsegment hopened.2 hmmap
    | some segment =>
      simp only [hsegment, Bool.not_eq_false] at hopened
      exact attach_allOrNothing_iff hfresh hsegment hopened hmmap

/-- A process that is attached to nothing cannot open the object, and a later call of it
attaches. -/
theorem shm_init_manager_sets_up :
    AllOrNothing { onlyBlockMutex (fun _ => true) with opens := false, lock := .error } [⟨8⟩] (oneBlock 8)
        (shm_init_manager 40 { onlyBlockMutex (fun _ => true) with opens := false, lock := .error } (some [⟨8⟩])
          (oneBlock 8)) ∧
      AllOrNothing (onlyBlockMutex fun _ => true) [⟨8⟩] (oneBlock 8)
        (shm_init_manager 40 (onlyBlockMutex fun _ => true) (some [⟨8⟩]) (oneBlock 8)) := by
  constructor
  · refine (shm_init_manager_allOrNothing_iff 40 _ (some [⟨8⟩]) (oneBlock 8)
      (fun _ hmapping => by cases hmapping)).mpr ?_
    exact ⟨fun _ => rfl, fun hlate => absurd (.inr (.inr rfl)) hlate⟩
  · refine (shm_init_manager_allOrNothing_iff 40 _ (some [⟨8⟩]) (oneBlock 8)
      (fun _ hmapping => by cases hmapping)).mpr ?_
    exact ⟨fun _ => rfl, fun _ _ => rfl⟩

/-- A block whose mutex fails does not show in the result, and a process that cannot take the
mutex of the header stays attached. -/
theorem shm_init_manager_half :
    ¬AllOrNothing (onlyBlockMutex fun _ => false) [⟨8⟩] unattached
        (shm_init_manager 40 (onlyBlockMutex fun _ => false) (some [⟨8⟩]) unattached) ∧
      ¬AllOrNothing { onlyBlockMutex (fun _ => true) with lock := .error } [⟨8⟩] (oneBlock 8)
        (shm_init_manager 40 { onlyBlockMutex (fun _ => true) with lock := .error } (some [⟨8⟩]) (oneBlock 8)) := by
  constructor
  · rintro (⟨_, segment, hsegment, _, _, hentries⟩ | ⟨hret, _⟩)
    · cases hsegment
      cases hentries _ (.head _)
    · cases hret
  · rintro (⟨hret, _⟩ | ⟨_, hptr, _⟩)
    · cases hret
    · cases hptr

end hub.shm
