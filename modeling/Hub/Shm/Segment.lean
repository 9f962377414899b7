import Hub.Lib.Words

namespace hub.shm

def SHM_SIZE (size : Nat) : Nat := (size + 7) % range64 / 8 * 8

def SHM_MAGIC_NUM : Nat := 0x95279527

/-- What the manager asks for one block. Blocks are numbered by their place in the list. -/
structure ShmBlock where
  block_size : Nat

structure ShmBlockInfo where
  offset : Nat
  block_size : Nat
  /-- The process-shared mutex was initialised. -/
  mutex : Bool
deriving DecidableEq

def ShmBlockInfo.zero : ShmBlockInfo := { offset := 0, block_size := 0, mutex := false }

structure ShmHeader where
  magic_num : Nat
  refcount : Nat
  block_count : Nat
  total_size : Nat
  mutex : Bool
  block : List ShmBlockInfo

/-- The object that `MMAP_NAME` names: its length, the header with its entries, and the
bytes behind them by their distance from the start of the object. -/
structure Segment where
  size : Nat
  hdr : ShmHeader
  data : Nat → UInt8

structure Mapping where
  addr : Nat
  length : Nat

/-- The object and one process. `g_shm_ptr` is `none` for `MAP_FAILED`. -/
structure Shm where
  segment : Option Segment
  g_shm_ptr : Option Nat
  mappings : List Mapping

inductive LockResult where
  | locked
  /-- `EOWNERDEAD`, with the outcome of `pthread_mutex_consistent`. -/
  | ownerDead (recovered : Bool)
  | error

structure System where
  /-- `shm_open` with `O_EXCL` succeeds if there is no object of that name. -/
  creates : Bool
  /-- `shm_open` of an object that exists. -/
  opens : Bool
  ftruncate : Bool
  mmap : Option Nat
  headerMutex : Bool
  blockMutex : Nat → Bool
  lock : LockResult

section Sizes

-- The size of a `pthread_mutex_t`, which depends on the platform.
variable (mutexSize : Nat)

/-- `sizeof(shm_block_info_t)`. Its alignment is that of `size_t`. -/
def sizeofBlockInfo : Nat := (16 + mutexSize + 7) / 8 * 8

/-- `sizeof(shm_header_t)`, where the entries of the blocks start. -/
def sizeofHeader : Nat := (32 + mutexSize + 7) / 8 * 8

/-- The distance of the data from the header, as `shm_init_manager` and `get_data_start`
compute it. -/
def dataOffset (count : Nat) : Nat :=
  SHM_SIZE ((sizeofHeader mutexSize + sizeofBlockInfo mutexSize * count % range64) % range64)

def get_data_start (addr : Nat) (hdr : ShmHeader) : Nat := addr + dataOffset mutexSize hdr.block_count

end Sizes

/-- The first loop of `shm_init_manager`, which adds up the aligned sizes. -/
def blocksSize (blocks : List ShmBlock) : Nat :=
  blocks.foldl (fun size block => (size + SHM_SIZE block.block_size) % range64) 0

/-- The second loop, from block `i` on. An entry is written before its mutex is initialised,
and a mutex that fails ends the loop, so that the entries behind it keep what they held. -/
def initBlocks (blockMutex : Nat → Bool) : List ShmBlock → List ShmBlockInfo → Nat → Nat → List ShmBlockInfo
  | block :: blocks, _ :: entries, i, offset =>
    let size := SHM_SIZE block.block_size
    let entry := { offset := offset, block_size := size, mutex := blockMutex i }
    if blockMutex i then
      entry :: initBlocks blockMutex blocks entries (i + 1) ((offset + size) % range64)
    else entry :: entries
  | _, entries, _, _ => entries

def createdHeader (count total_size : Nat) (headerMutex : Bool) : ShmHeader where
  magic_num := SHM_MAGIC_NUM
  refcount := 1
  block_count := count
  total_size := total_size
  mutex := headerMutex
  block := List.replicate count .zero

def munmap (mappings : List Mapping) (addr : Nat) : List Mapping :=
  mappings.filter fun mapping => mapping.addr != addr

/-- `shm_init_manager` in the process that creates the object. -/
def create (sys : System) (blocks : List ShmBlock) (total_size : Nat) (s : Shm) : Shm × Int :=
  if sys.ftruncate = false then (s, -1)
  else
    match sys.mmap with
    | none => (s, -1)
    | some addr =>
      let hdr := createdHeader blocks.length total_size sys.headerMutex
      let mapped := { addr := addr, length := total_size } :: s.mappings
      if sys.headerMutex = false then
        ({ segment := none, g_shm_ptr := none, mappings := munmap mapped addr }, -1)
      else
        let hdr := { hdr with block := initBlocks sys.blockMutex blocks hdr.block 0 0 }
        -- The blocks are zeroed again. The loop may have ended early, and the result is 0 all the same.
        ({ segment := some { size := total_size, hdr := hdr, data := fun _ => 0 }
           g_shm_ptr := some addr, mappings := mapped }, 0)

/-- `shm_init_manager` in a process that finds the object. -/
def attach (sys : System) (segment : Segment) (total_size : Nat) (s : Shm) : Shm × Int :=
  if sys.opens = false then (s, -1)
  else
    match sys.mmap with
    | none => (s, -1)
    | some addr =>
      let mapped := { addr := addr, length := total_size } :: s.mappings
      let attached : Shm := { segment := some segment, g_shm_ptr := some addr, mappings := mapped }
      let counted : Segment := { segment with
        hdr := { segment.hdr with refcount := (segment.hdr.refcount + 1) % range64 } }
      if segment.hdr.magic_num ≠ SHM_MAGIC_NUM then
        ({ s with g_shm_ptr := none, mappings := munmap mapped addr }, -1)
      else
        match sys.lock with
        | .locked | .ownerDead true => ({ attached with segment := some counted }, 0)
        | .ownerDead false | .error => (attached, -1)

/-- `shm_init_manager`, with `none` for a null list. -/
def shm_init_manager (mutexSize : Nat) (sys : System) (blocks : Option (List ShmBlock)) (s : Shm) : Shm × Int :=
  match blocks with
  | none | some [] => (s, -1)
  | some blocks =>
    let total_size := (dataOffset mutexSize blocks.length + blocksSize blocks) % range64
    match s.segment with
    | some segment => attach sys segment total_size s
    | none => if sys.creates = false then (s, -1) else create sys blocks total_size s

def get_hdr (s : Shm) : Option (Nat × ShmHeader) :=
  s.g_shm_ptr.bind fun addr => s.segment.map fun segment => (addr, segment.hdr)

def shm_get_block_addr (mutexSize : Nat) (s : Shm) (block_id : UInt32) : Option Nat :=
  (get_hdr s).bind fun found =>
    if found.2.block_count ≤ block_id.toNat then none
    else found.2.block[block_id.toNat]?.map fun entry => get_data_start mutexSize found.1 found.2 + entry.offset

end hub.shm
