import Hub.Soa.PeerAddress

namespace hub.soa

open local_registry Str

section Sound

variable {s : Str}

/-- The tests that an accepted address has passed, with the last dash at `before + 1`. -/
structure Accepted (s : Str) (before : Nat) : Prop where
  last_dash : s.rfind '-' = some (before + 1)
  tail : (s.drop (before + 1)).take 6 = ['-', '2', '.', 'i', 'p', 'c']
  p1_pos : s.scanBack '-' before ≠ 0
  p0_ne_p1 : s.scanForward '-' (Str.succNpos (s.rfind '/')) (s.scanBack '-' before) ≠ s.scanBack '-' before
  p0_ne_start : s.scanForward '-' (Str.succNpos (s.rfind '/')) (s.scanBack '-' before) ≠ Str.succNpos (s.rfind '/')
  src_end : Str.succNpos (s.rfind '/') + (Str.strtoul (s.drop (Str.succNpos (s.rfind '/')))).2 =
    s.scanForward '-' (Str.succNpos (s.rfind '/')) (s.scanBack '-' before)
  tgt_end : s.scanBack '-' before + 1 + (Str.strtoul (s.drop (s.scanBack '-' before + 1))).2 = before + 1

theorem accepted_of_parse_ipc (hparse : parse_ipc s ≠ .invalid) : ∃ before, Accepted s before := by
  unfold parse_ipc at hparse
  split at hparse
  · exact absurd rfl hparse
  · exact absurd rfl hparse
  · rename_i before hlast
    obtain ⟨htail, hparse⟩ := ite_ne_left_iff.mp hparse
    obtain ⟨hp1, hparse⟩ := ite_ne_left_iff.mp hparse.symm
    obtain ⟨hp0, hparse⟩ := ite_ne_left_iff.mp hparse.symm
    obtain ⟨hsrc, hparse⟩ := ite_ne_left_iff.mp hparse.symm
    obtain ⟨htgt, -⟩ := ite_ne_left_iff.mp hparse.symm
    obtain ⟨hne, hne'⟩ := not_or.mp hp0
    exact ⟨before, hlast, not_not.mp htail, hp1, hne, hne', not_not.mp hsrc, not_not.mp htgt⟩

theorem exists_dir (s : Str) : ∃ dir file, s = dir ++ file ∧ (dir = [] ∨ ∃ path, dir = path ++ ['/']) ∧ '/' ∉ file ∧
    succNpos (s.rfind '/') = dir.length := by
  by_cases hslash : '/' ∈ s
  · obtain ⟨path, file, rfl, hfile⟩ := eq_append_cons_of_mem_last hslash
    refine ⟨path ++ ['/'], file, by simp, .inr ⟨path, rfl⟩, hfile, ?_⟩
    rw [rfind_append hfile]
    simp [succNpos]
  · refine ⟨[], s, rfl, .inl rfl, hslash, ?_⟩
    rw [rfind_eq_none hslash]
    rfl

namespace Accepted

variable {before : Nat} (h : Accepted s before)

include h

theorem exists_front :
    ∃ front tgtText rest, s = front ++ '-' :: (tgtText ++ '-' :: (['2', '.', 'i', 'p', 'c'] ++ rest)) ∧
    '-' ∉ tgtText ∧ '-' ∉ rest ∧ s.scanBack '-' before = front.length ∧ before = front.length + tgtText.length := by
  have hdash : '-' ∈ s := by
    by_contra hnot
    cases (rfind_eq_none hnot).symm.trans h.last_dash
  obtain ⟨first, behind, rfl, hbehind⟩ := eq_append_cons_of_mem_last hdash
  have hlength : first.length = before + 1 := Option.some.inj ((rfind_append hbehind).symm.trans h.last_dash)
  have hrest : behind = ['2', '.', 'i', 'p', 'c'] ++ behind.drop 5 := by
    have htail := h.tail
    rw [← hlength, List.drop_left] at htail
    have hfive : behind.take 5 = ['2', '.', 'i', 'p', 'c'] := (List.cons.inj htail).2
    rw [← hfive, List.take_append_drop]
  have hmem : '-' ∈ first := by
    by_contra hnot
    exact h.p1_pos (scanBack_eq_zero hnot (by omega))
  obtain ⟨front, tgtText, rfl, htgt⟩ := eq_append_cons_of_mem_last hmem
  have hbefore : before = front.length + tgtText.length := by
    simp only [List.length_append, List.length_cons] at hlength
    omega
  refine ⟨front, tgtText, behind.drop 5, ?_, htgt, fun hin => hbehind (List.mem_of_mem_drop hin), ?_, hbefore⟩
  · rw [← hrest, List.append_assoc]
    rfl
  · rw [hbefore, List.append_assoc]
    exact scanBack_append htgt

theorem exists_text : ∃ t : PeerText, t.address = s := by
  obtain ⟨front, tgtText, rest, hs, htgt, hrest, hp1, hbefore⟩ := h.exists_front
  obtain ⟨dir, file, hfile, hdir, hslash, hstart⟩ := exists_dir s
  have hp0_ne_p1 := h.p0_ne_p1
  have hp0_ne_start := h.p0_ne_start
  have hsrc_end := h.src_end
  have htgt_end := h.tgt_end
  rw [hstart, hp1] at hp0_ne_p1 hp0_ne_start hsrc_end
  rw [hp1] at htgt_end
  -- the name lies behind the last slash
  have hshort : dir.length < front.length := by
    by_contra hlong
    exact hp0_ne_start (scanForward_of_le s (by omega))
  obtain ⟨middle, rfl⟩ : ∃ middle, front = dir ++ middle := by
    have hprefix : dir <+: front := by
      refine List.prefix_of_prefix_length_le ⟨file, hfile.symm⟩ ⟨_, hs.symm⟩ (Nat.le_of_lt hshort)
    exact hprefix.imp fun middle heq => heq.symm
  have hbody : file = middle ++ '-' :: (tgtText ++ '-' :: (['2', '.', 'i', 'p', 'c'] ++ rest)) := by
    have heq := hfile.symm.trans hs
    rw [List.append_assoc] at heq
    exact List.append_cancel_left heq
  have hmem : '-' ∈ middle := by
    by_contra hnot
    apply hp0_ne_p1
    rw [hs, List.append_assoc, List.length_append]
    exact scanForward_eq_limit hnot
  obtain ⟨srcText, name, rfl, hsrc⟩ := List.eq_append_cons_of_mem hmem
  have hs' : s = dir ++
      (srcText ++ '-' :: (name ++ '-' :: (tgtText ++ '-' :: (['2', '.', 'i', 'p', 'c'] ++ rest)))) := by
    rw [hs, List.append_assoc, List.append_assoc]
    rfl
  have hp0 : s.scanForward '-' dir.length (dir ++ (srcText ++ '-' :: name)).length = dir.length + srcText.length := by
    conv_lhs => rw [hs']
    apply scanForward_append hsrc
    simp only [List.length_append, List.length_cons]
    omega
  rw [hp0] at hp0_ne_start hsrc_end
  obtain ⟨src, hsrcNumber⟩ : ∃ src, IsUnsigned srcText src := by
    rw [hs', List.drop_left] at hsrc_end
    refine strtoul_sound ?_ hsrc (Nat.add_left_cancel hsrc_end)
    rintro rfl
    exact hp0_ne_start rfl
  obtain ⟨tgt, htgtNumber⟩ : ∃ tgt, IsUnsigned tgtText tgt := by
    rw [hs, List.drop_length_add_append, hbefore, Nat.add_right_comm _ tgtText.length] at htgt_end
    have hread : (strtoul (tgtText ++ '-' :: (['2', '.', 'i', 'p', 'c'] ++ rest))).2 = tgtText.length :=
      Nat.add_left_cancel htgt_end
    refine strtoul_sound ?_ htgt hread
    rintro rfl
    -- `strtoul` would read the 2 with a minus in front of it
    have hminus : (strtoul ('-' :: (['2', '.', 'i', 'p', 'c'] ++ rest))).2 = 2 := by
      simp [strtoul, isSpace, splitSign]
    rw [List.nil_append, hminus] at hread
    cases hread
  refine ⟨⟨dir, srcText, name, tgtText, rest, src, tgt, hdir, ?_, hrest, hsrcNumber, htgtNumber⟩, hs'.symm⟩
  rw [hbody, List.append_assoc] at hslash
  exact hslash

end Accepted

end Sound

theorem parse_ipc_ne_invalid_iff (s : Str) : parse_ipc s ≠ .invalid ↔ ∃ t : PeerText, t.address = s := by
  constructor
  · intro hparse
    obtain ⟨before, haccepted⟩ := accepted_of_parse_ipc hparse
    exact haccepted.exists_text
  · rintro ⟨t, rfl⟩
    rw [t.parse_ipc_complete]
    split
    · exact ParsedIpc.noConfusion
    · exact ParsedIpc.noConfusion

theorem PeerText.toNat_stored {value : Nat} (hvalue : value < 4294967296) : (stored value).toNat = value := by
  rw [stored, range64, Nat.min_eq_left (by omega), UInt32.toNat_ofNat_of_lt' hvalue]

/-- The name and its terminator fit the array of `on_accept`, and the ids are the numbers
that stand in the address. -/
def NameFits (s : Str) : Prop :=
  ∃ src name tgt, parse_ipc s = .parsed src name tgt ∧ name.length + 1 ≤ LOCAL_REGISTRY_CLIENT_NAME_MAX ∧
    ∀ t : PeerText, t.address = s → t.src = src.toNat ∧ t.name = name ∧ t.tgt = tgt.toNat

/-- The accepted addresses are those in the format. One of them has room for its name and
keeps its ids exactly when the name is shorter than the array and both numbers are 32-bit
numbers. -/
theorem peer_name_fits_iff (s : Str) :
    (parse_ipc s ≠ .invalid ↔ ∃ t : PeerText, t.address = s) ∧
      ((parse_ipc s ≠ .invalid → NameFits s) ↔
        ∀ t : PeerText, t.address = s →
          t.name.length < LOCAL_REGISTRY_CLIENT_NAME_MAX ∧ t.src < 4294967296 ∧ t.tgt < 4294967296) := by
  refine ⟨parse_ipc_ne_invalid_iff s, ?_⟩
  constructor
  · intro hfits t ht
    obtain ⟨src, name, tgt, -, hlength, htexts⟩ := hfits ((parse_ipc_ne_invalid_iff s).mpr ⟨t, ht⟩)
    obtain ⟨hsrc, hname, htgt⟩ := htexts t ht
    rw [hname, hsrc, htgt]
    exact ⟨hlength, src.toNat_lt, tgt.toNat_lt⟩
  · intro hbounds hparse
    obtain ⟨t, rfl⟩ := (parse_ipc_ne_invalid_iff s).mp hparse
    obtain ⟨hname, -, -⟩ := hbounds t rfl
    have hparse := t.parse_ipc_complete
    rw [if_pos hname] at hparse
    refine ⟨_, _, _, hparse, hname, fun t' ht' => ?_⟩
    obtain ⟨hname', hsrc', htgt'⟩ := hbounds t' ht'
    have hparse' := t'.parse_ipc_complete
    rw [if_pos hname', ht', hparse] at hparse'
    obtain ⟨hsrc, hsame, htgt⟩ := ParsedIpc.parsed.inj hparse'
    rw [hsrc, htgt, PeerText.toNat_stored hsrc', PeerText.toNat_stored htgt']
    exact ⟨rfl, hsame.symm, rfl⟩

def longName : Str := "1-abcdefghijklmnopqrstuvwxyzabcdef-2-2.ipc".toList

def largeId : Str := "4294967296-a-2-2.ipc".toList

/-- Both addresses are short enough for a socket. The name of the first one is written past
the end of its array, and the second one is taken for an address of process 0. -/
theorem peer_name_overflows : longName.length ≤ 107 ∧ parse_ipc longName = .overflow ∧ largeId.length ≤ 107 ∧
    parse_ipc largeId = .parsed 0 ['a'] 2 := by
  decide

end hub.soa
