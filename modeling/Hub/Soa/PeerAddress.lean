import Hub.LocalRegistry.Peer
import Mathlib.Data.Nat.Digits.Defs

namespace hub.soa

open local_registry Str

/-- `LOCAL_REGISTEY_SOCKET_FMT2`, the address from which process `src` talks to process
`tgt`. -/
def LOCAL_REGISTEY_SOCKET_FMT2 (src : UInt32) (name : Str) (tgt : UInt32) : Str :=
  SOCKET_PATH_PREFIX ++ Nat.toDigits 10 src.toNat ++ ['-'] ++ name ++ ['-'] ++ Nat.toDigits 10 tgt.toNat ++
    ['-', '2', '.', 'i', 'p', 'c']

def sun_path (src : UInt32) (name : Str) (tgt : UInt32) : Str :=
  snprintf LOCAL_REGISTRY_SOCKET_LEN_MAX (LOCAL_REGISTEY_SOCKET_FMT2 src name tgt)

/-- What `parse_ipc` makes of an address. A name without room for its terminator in the
caller's array is written past its end. -/
inductive ParsedIpc where
  | invalid
  | overflow
  | parsed (src : UInt32) (name : Str) (tgt : UInt32)
deriving DecidableEq

def parse_ipc (s : Str) : ParsedIpc :=
  match s.rfind '-' with
  | none => .invalid
  -- `p1` stands before the string, and `p0` does not leave `start`
  | some 0 => .invalid
  | some (before + 1) =>
    let p2 := before + 1
    if (s.drop p2).take 6 ≠ ['-', '2', '.', 'i', 'p', 'c'] then .invalid
    else
      let p1 := s.scanBack '-' before
      if p1 = 0 then .invalid
      else
        let start := Str.succNpos (s.rfind '/')
        let p0 := s.scanForward '-' start p1
        if p0 = p1 ∨ p0 = start then .invalid
        else
          let v1 := Str.strtoul (s.drop start)
          if start + v1.2 ≠ p0 then .invalid
          else
            let v2 := Str.strtoul (s.drop (p1 + 1))
            if p1 + 1 + v2.2 ≠ p2 then .invalid
            else
              let len := p1 - p0 - 1
              if len < LOCAL_REGISTRY_CLIENT_NAME_MAX then
                .parsed (UInt32.ofNat v1.1) (s.substr (p0 + 1) len) (UInt32.ofNat v2.1)
              else .overflow

/-- The texts of which an address in the format of the processes is made: a directory, the
two numbers around the name, and what stands behind `-2.ipc`. -/
structure PeerText where
  dir : Str
  srcText : Str
  name : Str
  tgtText : Str
  rest : Str
  src : Nat
  tgt : Nat
  is_dir : dir = [] ∨ ∃ path, dir = path ++ ['/']
  slash : '/' ∉ srcText ++ '-' :: (name ++ '-' :: (tgtText ++ '-' :: (['2', '.', 'i', 'p', 'c'] ++ rest)))
  dash : '-' ∉ rest
  is_src : Str.IsUnsigned srcText src
  is_tgt : Str.IsUnsigned tgtText tgt

namespace PeerText

/-- The number that ends up in a `uint32_t`: `strtoul` cuts it to 64 bits, the assignment to
32. -/
def stored (value : Nat) : UInt32 := UInt32.ofNat (min value (range64 - 1))

variable (t : PeerText)

def address : Str :=
  t.dir ++ (t.srcText ++ '-' :: (t.name ++ '-' :: (t.tgtText ++ '-' :: (['2', '.', 'i', 'p', 'c'] ++ t.rest))))

def uptoSrc : Str := t.dir ++ t.srcText

def uptoName : Str := t.uptoSrc ++ '-' :: t.name

def uptoTgt : Str := t.uptoName ++ '-' :: t.tgtText

theorem length_uptoSrc : t.uptoSrc.length = t.dir.length + t.srcText.length := List.length_append

theorem length_uptoName : t.uptoName.length = t.uptoSrc.length + 1 + t.name.length := by
  simp only [uptoName, List.length_append, List.length_cons]
  omega

theorem length_uptoTgt : t.uptoTgt.length = t.uptoName.length + t.tgtText.length + 1 := by
  simp only [uptoTgt, List.length_append, List.length_cons]
  omega

theorem address_eq_uptoSrc : t.address =
    t.uptoSrc ++ '-' :: (t.name ++ '-' :: (t.tgtText ++ '-' :: (['2', '.', 'i', 'p', 'c'] ++ t.rest))) := by
  rw [uptoSrc, List.append_assoc]
  rfl

theorem address_eq_uptoName :
    t.address = t.uptoName ++ '-' :: (t.tgtText ++ '-' :: (['2', '.', 'i', 'p', 'c'] ++ t.rest)) := by
  rw [address_eq_uptoSrc, uptoName, List.append_assoc]
  rfl

theorem address_eq_uptoTgt : t.address = t.uptoTgt ++ '-' :: (['2', '.', 'i', 'p', 'c'] ++ t.rest) := by
  rw [address_eq_uptoName, uptoTgt, List.append_assoc]
  rfl

theorem address_p2 : t.address.rfind '-' = some (t.uptoName.length + t.tgtText.length + 1) := by
  have hrest : '-' ∉ ['2', '.', 'i', 'p', 'c'] ++ t.rest := by
    have hdash := t.dash
    simp [hdash]
  rw [address_eq_uptoTgt, rfind_append hrest, length_uptoTgt]

theorem address_tail :
    (t.address.drop (t.uptoName.length + t.tgtText.length + 1)).take 6 = ['-', '2', '.', 'i', 'p', 'c'] := by
  rw [← length_uptoTgt, address_eq_uptoTgt, List.drop_left]
  rfl

theorem address_p1 : t.address.scanBack '-' (t.uptoName.length + t.tgtText.length) = t.uptoName.length := by
  rw [address_eq_uptoName]
  exact scanBack_append t.is_tgt.dash_not_mem

theorem address_start : succNpos (t.address.rfind '/') = t.dir.length := by
  obtain hdir | ⟨path, hdir⟩ := t.is_dir
  · have hnone : t.address.rfind '/' = none := by
      apply rfind_eq_none
      rw [address, hdir]
      exact t.slash
    rw [hnone, hdir]
    rfl
  · have hlast := @rfind_append '/' path _ t.slash
    rw [List.append_cons, ← hdir] at hlast
    rw [address, hlast, hdir, List.length_append]
    rfl

theorem address_p0 : t.address.scanForward '-' t.dir.length t.uptoName.length = t.uptoSrc.length := by
  have hlimit : t.dir.length + t.srcText.length < t.uptoName.length := by
    rw [length_uptoName, length_uptoSrc]
    omega
  rw [length_uptoSrc]
  exact scanForward_append t.is_src.dash_not_mem hlimit

theorem isDigit_head_dash (rest : Str) : ∀ c ∈ ('-' :: rest).head?, c.isDigit = false := by
  intro c hc
  cases hc
  rfl

theorem address_v1 :
    strtoul (t.address.drop t.dir.length) = (min t.src (range64 - 1), t.srcText.length) := by
  rw [address, List.drop_left]
  exact strtoul_complete t.is_src (isDigit_head_dash _)

theorem address_v2 :
    strtoul (t.address.drop (t.uptoName.length + 1)) = (min t.tgt (range64 - 1), t.tgtText.length) := by
  rw [address_eq_uptoName, List.drop_length_add_append]
  exact strtoul_complete t.is_tgt (isDigit_head_dash _)

theorem address_name : t.address.substr (t.uptoSrc.length + 1) t.name.length = t.name := by
  rw [address_eq_uptoSrc, substr, List.drop_length_add_append]
  exact List.take_left

theorem parse_ipc_complete :
    parse_ipc t.address =
      if t.name.length < LOCAL_REGISTRY_CLIENT_NAME_MAX then .parsed (stored t.src) t.name (stored t.tgt)
      else .overflow := by
  have hdigits : 0 < t.srcText.length := List.length_pos_of_ne_nil t.is_src.ne_nil
  have hsrc := t.length_uptoSrc
  have hname := t.length_uptoName
  have hlen : t.uptoName.length - t.uptoSrc.length - 1 = t.name.length := by omega
  have hp1 : t.uptoName.length ≠ 0 := by omega
  have hp0 : ¬(t.uptoSrc.length = t.uptoName.length ∨ t.uptoSrc.length = t.dir.length) := by omega
  have hend : ¬t.dir.length + t.srcText.length ≠ t.uptoSrc.length := by omega
  have hend' : ¬t.uptoName.length + 1 + t.tgtText.length ≠ t.uptoName.length + t.tgtText.length + 1 := by omega
  simp only [parse_ipc, address_p2, address_tail, address_p1, address_start, address_p0, address_v1, address_v2, hlen,
    address_name]
  rw [if_neg (by simp), if_neg hp1, if_neg hp0, if_neg hend, if_neg hend']
  rfl

def ofProcess (src : UInt32) (name : Str) (tgt : UInt32) (hslash : '/' ∉ name) : PeerText where
  dir := SOCKET_PATH_PREFIX
  srcText := Nat.toDigits 10 src.toNat
  name := name
  tgtText := Nat.toDigits 10 tgt.toNat
  rest := []
  src := src.toNat
  tgt := tgt.toNat
  is_dir := .inr ⟨['/', 't', 'm', 'p'], rfl⟩
  slash := by
    have hdigits : ∀ id : UInt32, '/' ∉ Nat.toDigits 10 id.toNat := fun id => not_mem_toDigits (by decide) id.toNat
    simp [hdigits, hslash]
  dash := List.not_mem_nil
  is_src := Str.isUnsigned_toDigits src.toNat
  is_tgt := Str.isUnsigned_toDigits tgt.toNat

theorem stored_toNat (id : UInt32) : stored id.toNat = id := by
  have hid := id.toNat_lt
  rw [stored, range64, Nat.min_eq_left (by omega), UInt32.ofNat_toNat]

end PeerText

section RoundTrip

variable {src tgt : UInt32} {name : Str}

theorem length_toDigits_id_le (id : UInt32) : (Nat.toDigits 10 id.toNat).length ≤ 10 :=
  Nat.toDigits_length 10 id.toNat 10 (by decide) (Nat.lt_of_lt_of_le id.toNat_lt (by decide))

theorem sun_path_eq (hname : name.length < LOCAL_REGISTRY_CLIENT_NAME_MAX) :
    sun_path src name tgt = LOCAL_REGISTEY_SOCKET_FMT2 src name tgt := by
  have hsrc := length_toDigits_id_le src
  have htgt := length_toDigits_id_le tgt
  unfold LOCAL_REGISTRY_CLIENT_NAME_MAX at hname
  rw [sun_path, snprintf, List.take_of_length_le]
  simp only [LOCAL_REGISTEY_SOCKET_FMT2, SOCKET_PATH_PREFIX, LOCAL_REGISTRY_SOCKET_LEN_MAX, List.length_append,
    List.length_cons, List.length_nil]
  omega

end RoundTrip

/-- A peer reads the ids and the name out of the address that a process binds. -/
theorem peer_address_round_trip (src tgt : UInt32) {name : Str} (hname : name.length < LOCAL_REGISTRY_CLIENT_NAME_MAX)
    (hslash : '/' ∉ name) :
    sun_path src name tgt = LOCAL_REGISTEY_SOCKET_FMT2 src name tgt ∧
      parse_ipc (LOCAL_REGISTEY_SOCKET_FMT2 src name tgt) = .parsed src name tgt := by
  have haddress : LOCAL_REGISTEY_SOCKET_FMT2 src name tgt = (PeerText.ofProcess src name tgt hslash).address := by
    simp [LOCAL_REGISTEY_SOCKET_FMT2, PeerText.address, PeerText.ofProcess]
  refine ⟨sun_path_eq hname, ?_⟩
  rw [haddress, PeerText.parse_ipc_complete]
  simp only [PeerText.ofProcess, PeerText.stored_toNat, if_pos hname]

/-- A name that ends like an address. -/
theorem peer_address_round_trip_nested :
    parse_ipc (LOCAL_REGISTEY_SOCKET_FMT2 4294967295 ['a', '-', '7', '-', '2', '.', 'i', 'p', 'c'] 0) =
      .parsed 4294967295 ['a', '-', '7', '-', '2', '.', 'i', 'p', 'c'] 0 :=
  (peer_address_round_trip 4294967295 0 (by decide) (by decide)).2

end hub.soa
