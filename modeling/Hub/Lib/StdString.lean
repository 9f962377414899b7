import Hub.Lib.Words
import Mathlib.Data.List.Basic
import Mathlib.Data.List.Induction
import Mathlib.Data.List.Infix
import Mathlib.Data.List.TakeWhile

namespace hub

/-- A `std::string` or a C string as the sequence of its characters. -/
abbrev Str : Type := List Char

namespace Str

variable (s : Str)

/-- `s.find(c, pos)`; `none` stands for `npos`. -/
def find (c : Char) (pos : Nat) : Option Nat :=
  ((s.drop pos).findIdx? (· == c)).map (pos + ·)

/-- `s.rfind(c)`; `none` stands for `npos`. -/
def rfind (c : Char) : Option Nat :=
  (s.reverse.findIdx? (· == c)).map fun back => s.length - 1 - back

/-- `pos + 1` on a `size_t` that may hold `npos`, which wraps around to zero. -/
def succNpos : Option Nat → Nat
  | none => 0
  | some pos => pos + 1

/-- `s.substr(pos, len)` for `pos` within the string. -/
def substr (pos len : Nat) : Str := (s.drop pos).take len

/-- `strstr(s, needle) != nullptr`. -/
def strstr (s needle : Str) : Bool := s.tails.any fun rest => needle.isPrefixOf rest

/-- A string without some character of the needle does not hold the needle. -/
theorem strstr_eq_false {s needle : Str} {c : Char} (hneedle : c ∈ needle) (hs : c ∉ s) : s.strstr needle = false := by
  rw [Bool.eq_false_iff]
  intro hfound
  obtain ⟨rest, htail, hstart⟩ := List.any_eq_true.mp hfound
  have hrest : c ∈ rest := (List.isPrefixOf_iff_prefix.mp hstart).subset hneedle
  exact hs (((List.mem_tails _ _).mp htail).subset hrest)

/-- The contents of a zeroed `char[size]` after `strncpy` of `s` into it. A
source of `size` or more characters leaves no terminator. -/
def strncpy (size : Nat) : Str := s.take size

/-- The part of a file name before its first dot. -/
def stem : Str := s.takeWhile (· != '.')

/-- The `isspace` characters of the C locale. -/
def isSpace (c : Char) : Bool :=
  c == ' ' || (9 ≤ c.toNat && c.toNat ≤ 13)

/-- The optional sign of a number: whether it is a minus, and what follows. -/
def splitSign : Str → Bool × Str
  | '-' :: rest => (true, rest)
  | '+' :: rest => (false, rest)
  | rest => (false, rest)

/-- `std::stoi(s)`: leading white space, an optional sign, then the longest run
of digits; the rest is ignored. `none` stands for a thrown exception, either
`invalid_argument` (no digit) or `out_of_range` (outside 32-bit `int`). -/
def stoi : Option Int :=
  let signed := splitSign (s.dropWhile isSpace)
  let digits := signed.2.takeWhile Char.isDigit
  if digits = [] then none
  else
    let magnitude : Int := Nat.ofDigitChars 10 digits 0
    let value := if signed.1 then -magnitude else magnitude
    if -2147483648 ≤ value ∧ value ≤ 2147483647 then some value else none

/-- `strtoul(s, &end, 10)` with 64-bit `unsigned long`: the value and how many characters
`end` is behind `s`. A number that does not fit gives the largest value; without a digit
nothing is consumed. -/
def strtoul : Nat × Nat :=
  let signed := splitSign (s.dropWhile isSpace)
  let digits := signed.2.takeWhile Char.isDigit
  if digits = [] then (0, 0)
  else
    let magnitude := Nat.ofDigitChars 10 digits 0
    let value :=
      if range64 ≤ magnitude then range64 - 1
      else if signed.1 then (range64 - magnitude) % range64
      else magnitude
    (value, s.length - signed.2.length + digits.length)

/-- A pointer that is moved back from position `pos` to the nearest `c`, or to the start
of the string. -/
def scanBack (s : Str) (c : Char) : Nat → Nat
  | 0 => 0
  | pos + 1 => if s[pos + 1]? = some c then pos + 1 else scanBack s c pos

/-- A pointer that is moved forward from position `pos` to the nearest `c`, or to
position `limit`. -/
def scanForward (c : Char) (pos limit : Nat) : Nat :=
  pos + (((s.drop pos).take (limit - pos)).takeWhile (· != c)).length

/-- The contents of a `char[size]` after `snprintf` of `s` into it. -/
def snprintf (size : Nat) (s : Str) : Str := s.take (size - 1)

section Search

variable {c : Char} {first middle rest : Str}

theorem findIdx?_eq_none (hc : c ∉ middle) : middle.findIdx? (· == c) = none := by
  rw [List.findIdx?_eq_none_iff]
  intro other hmem
  rw [beq_eq_false_iff_ne]
  rintro rfl
  exact hc hmem

theorem findIdx?_append_cons (hc : c ∉ middle) : (middle ++ c :: rest).findIdx? (· == c) = some middle.length := by
  simp [List.findIdx?_append, findIdx?_eq_none hc, List.findIdx?_cons]

/-- A search that starts after `first` finds the character behind `middle`. -/
theorem find_append (hc : c ∉ middle) :
    find (first ++ (middle ++ c :: rest)) c first.length = some (first.length + middle.length) := by
  rw [find, List.drop_left, findIdx?_append_cons hc]
  rfl

theorem rfind_append (hc : c ∉ rest) : rfind (first ++ c :: rest) c = some first.length := by
  have hreverse : (first ++ c :: rest).reverse = rest.reverse ++ c :: first.reverse := by simp
  have hc' : c ∉ rest.reverse := fun hmem => hc (List.mem_reverse.mp hmem)
  rw [rfind, hreverse, findIdx?_append_cons hc', Option.map_some]
  simp only [List.length_append, List.length_cons, List.length_reverse, Option.some.injEq]
  omega

theorem substr_append : substr (first ++ (middle ++ rest)) first.length middle.length = middle := by
  rw [substr, List.drop_left, List.take_left]

theorem find_append_eq_none (hc : c ∉ rest) : find (first ++ rest) c first.length = none := by
  rw [find, List.drop_left, findIdx?_eq_none hc]
  rfl

theorem rfind_eq_none {s : Str} (hc : c ∉ s) : rfind s c = none := by
  rw [rfind, findIdx?_eq_none fun hmem => hc (List.mem_reverse.mp hmem)]
  rfl

/-- A string is cut at the last occurrence of a character. -/
theorem eq_append_cons_of_mem_last {s : Str} (hc : c ∈ s) : ∃ first rest, s = first ++ c :: rest ∧ c ∉ rest := by
  obtain ⟨behind, before, hreverse, hnot⟩ := List.eq_append_cons_of_mem (List.mem_reverse.mpr hc)
  refine ⟨before.reverse, behind.reverse, ?_, fun hmem => hnot (List.mem_reverse.mp hmem)⟩
  rw [← List.reverse_reverse s, hreverse]
  simp

theorem ne_of_not_mem (hc : c ∉ middle) : ∀ other ∈ middle, (other != c) = true := by
  intro other hmem
  rw [bne_iff_ne]
  rintro rfl
  exact hc hmem

theorem scanBack_append (hc : c ∉ middle) :
    scanBack (first ++ c :: (middle ++ rest)) c (first.length + middle.length) = first.length := by
  -- `middle` is used up from its end
  induction middle using List.reverseRecOn generalizing rest with
  | nil =>
    cases first with
    | nil => rfl
    | cons head tail => simp [scanBack]
  | append_singleton middle last ih =>
    have hlast : last ≠ c := fun heq => hc (by simp [heq])
    have hmiddle : c ∉ middle := fun hmem => hc (List.mem_append_left _ hmem)
    have hassoc : first ++ c :: (middle ++ [last] ++ rest) = first ++ c :: (middle ++ last :: rest) := by simp
    have hchar : (first ++ c :: (middle ++ last :: rest))[first.length + middle.length + 1]? = some last := by
      have hindex : first.length + middle.length + 1 = (first ++ c :: middle).length := by
        simp only [List.length_append, List.length_cons]
        omega
      have hsplit : first ++ c :: (middle ++ last :: rest) = (first ++ c :: middle) ++ last :: rest := by simp
      rw [hindex, hsplit, List.getElem?_append_right (Nat.le_refl _)]
      simp
    rw [List.length_append, List.length_singleton, ← Nat.add_assoc, hassoc, scanBack,
      hchar, if_neg (by simpa using hlast)]
    exact ih hmiddle

/-- A scan from behind `first` stops at the character behind `middle`. -/
theorem scanForward_append {limit : Nat} (hc : c ∉ middle) (hlimit : first.length + middle.length < limit) :
    scanForward (first ++ (middle ++ c :: rest)) c first.length limit = first.length + middle.length := by
  obtain ⟨more, hmore⟩ : ∃ more, limit - first.length = middle.length + (more + 1) :=
    ⟨limit - first.length - middle.length - 1, by omega⟩
  have htake : (middle ++ c :: rest).take (limit - first.length) = middle ++ c :: rest.take more := by
    rw [hmore, List.take_length_add_append, List.take_succ_cons]
  rw [scanForward, List.drop_left, htake, List.takeWhile_append_of_pos (ne_of_not_mem hc)]
  simp

theorem scanBack_eq_zero (hc : c ∉ first) {pos : Nat} (hpos : pos < first.length) :
    scanBack (first ++ rest) c pos = 0 := by
  induction pos with
  | zero => rfl
  | succ pos ih =>
    have hchar : (first ++ rest)[pos + 1]? ≠ some c := by
      rw [List.getElem?_append_left hpos]
      intro hfound
      exact hc (List.mem_of_getElem? hfound)
    rw [scanBack, if_neg hchar]
    exact ih (by omega)

theorem scanForward_eq_limit (hc : c ∉ middle) :
    scanForward (first ++ (middle ++ rest)) c first.length (first.length + middle.length) =
      first.length + middle.length := by
  rw [scanForward, List.drop_left, Nat.add_sub_cancel_left, List.take_left,
    List.takeWhile_eq_self_iff.mpr (ne_of_not_mem hc)]

theorem scanForward_of_le (s : Str) {pos limit : Nat} (hle : limit ≤ pos) : scanForward s c pos limit = pos := by
  rw [scanForward, Nat.sub_eq_zero_of_le hle]
  simp

end Search

section Stem

variable {s} {first rest : Str}

theorem mem_of_mem_stem {c : Char} (hmem : c ∈ stem s) : c ∈ s := (List.takeWhile_prefix _).subset hmem

theorem dot_not_mem_stem : '.' ∉ stem s := fun hmem => by simpa using List.mem_takeWhile_imp hmem

theorem stem_eq_self_iff : stem s = s ↔ '.' ∉ s := by
  constructor
  · intro hself
    rw [← hself]
    exact dot_not_mem_stem
  · intro hdot
    exact List.takeWhile_eq_self_iff.mpr (ne_of_not_mem hdot)

theorem stem_append (hdot : '.' ∉ first) : stem (first ++ '.' :: rest) = first := by
  rw [stem, List.takeWhile_append_of_pos (ne_of_not_mem hdot)]
  simp

end Stem

theorem toNat_of_isDigit {c : Char} (hc : c.isDigit = true) : 48 ≤ c.toNat ∧ c.toNat ≤ 57 := by
  simp only [Char.isDigit, Bool.and_eq_true, decide_eq_true_eq, ge_iff_le, UInt32.le_iff_toNat_le] at hc
  exact hc

theorem ne_of_isDigit {c other : Char} (hc : c.isDigit = true) (hother : other.toNat < 48) : c ≠ other := by
  rintro rfl
  have hrange := toNat_of_isDigit hc
  omega

theorem isSpace_of_isDigit {c : Char} (hc : c.isDigit = true) : isSpace c = false := by
  have hrange := toNat_of_isDigit hc
  have hblank : c ≠ ' ' := ne_of_isDigit hc (by decide)
  simp only [isSpace, Bool.or_eq_false_iff, beq_eq_false_iff_ne, Bool.and_eq_false_iff, decide_eq_false_iff_not]
  exact ⟨hblank, .inr (by omega)⟩

/-- The strings that `std::stoi` reads: white space, an optional sign and a longest run
of digits whose value is in the range of `int`. Anything may follow. -/
def IsInt : Prop :=
  ∃ spaces sign digits rest, s = spaces ++ (sign ++ (digits ++ rest)) ∧ (∀ c ∈ spaces, isSpace c = true) ∧
    (sign = [] ∨ sign = ['+'] ∨ sign = ['-']) ∧ digits ≠ [] ∧ (∀ c ∈ digits, c.isDigit = true) ∧
    (∀ c ∈ rest.head?, c.isDigit = false) ∧
    Nat.ofDigitChars 10 digits 0 ≤ if sign = ['-'] then 2147483648 else 2147483647

section Number

variable {sign digits rest : Str}

theorem splitSign_append (hsign : sign = [] ∨ sign = ['+'] ∨ sign = ['-']) (hne : digits ≠ [])
    (hdigits : ∀ c ∈ digits, c.isDigit = true) :
    splitSign (sign ++ (digits ++ rest)) = (decide (sign = ['-']), digits ++ rest) := by
  rcases hsign with rfl | rfl | rfl
  · obtain ⟨c, more, rfl⟩ := List.exists_cons_of_ne_nil hne
    have hc := hdigits c List.mem_cons_self
    have hminus : c ≠ '-' := ne_of_isDigit hc (by decide)
    have hplus : c ≠ '+' := ne_of_isDigit hc (by decide)
    simp only [List.nil_append, List.cons_append]
    rw [splitSign]
    · rfl
    · exact fun rest heq => hminus (List.cons.inj heq).1
    · exact fun rest heq => hplus (List.cons.inj heq).1
  · rfl
  · rfl

theorem splitSign_cases (s : Str) :
    ∃ sign, s = sign ++ (splitSign s).2 ∧ (sign = [] ∨ sign = ['+'] ∨ sign = ['-']) ∧
      (splitSign s).1 = decide (sign = ['-']) := by
  unfold splitSign
  split
  · exact ⟨['-'], rfl, .inr (.inr rfl), rfl⟩
  · exact ⟨['+'], rfl, .inr (.inl rfl), rfl⟩
  · exact ⟨[], rfl, .inl rfl, rfl⟩

theorem dropWhile_isSpace_append {spaces : Str} (hspaces : ∀ c ∈ spaces, isSpace c = true)
    (hsign : sign = [] ∨ sign = ['+'] ∨ sign = ['-']) (hne : digits ≠ []) (hdigits : ∀ c ∈ digits, c.isDigit = true) :
    (spaces ++ (sign ++ (digits ++ rest))).dropWhile isSpace = sign ++ (digits ++ rest) := by
  rw [List.dropWhile_append_of_pos hspaces]
  rcases hsign with rfl | rfl | rfl
  · obtain ⟨c, more, rfl⟩ := List.exists_cons_of_ne_nil hne
    have hc := isSpace_of_isDigit (hdigits c List.mem_cons_self)
    simp [hc]
  · rfl
  · rfl

theorem takeWhile_isDigit_append (hdigits : ∀ c ∈ digits, c.isDigit = true)
    (hrest : ∀ c ∈ rest.head?, c.isDigit = false) : (digits ++ rest).takeWhile Char.isDigit = digits := by
  rw [List.takeWhile_append_of_pos hdigits]
  cases rest with
  | nil => simp
  | cons c more => simp [hrest c rfl]

end Number

/-- A number as `strtoul` reads it: white space, an optional plus, and digits of the
value. -/
def IsUnsigned (text : Str) (value : Nat) : Prop :=
  ∃ spaces sign digits, text = spaces ++ (sign ++ digits) ∧ (∀ c ∈ spaces, isSpace c = true) ∧
    (sign = [] ∨ sign = ['+']) ∧ digits ≠ [] ∧ (∀ c ∈ digits, c.isDigit = true) ∧
    value = Nat.ofDigitChars 10 digits 0

section Unsigned

variable {text rest : Str} {value : Nat}

theorem IsUnsigned.ne_nil (h : IsUnsigned text value) : text ≠ [] := by
  obtain ⟨spaces, sign, digits, rfl, -, -, hne, -⟩ := h
  simp [hne]

theorem IsUnsigned.dash_not_mem (h : IsUnsigned text value) : '-' ∉ text := by
  obtain ⟨spaces, sign, digits, rfl, hspaces, hsign, -, hdigits, -⟩ := h
  simp only [List.mem_append, not_or]
  refine ⟨fun hmem => ?_, fun hmem => ?_, fun hmem => ?_⟩
  · exact absurd (hspaces _ hmem) (by decide)
  · obtain rfl | rfl := hsign
    · cases hmem
    · exact absurd (List.mem_singleton.mp hmem) (by decide)
  · exact absurd (hdigits _ hmem) (by decide)

/-- A number is read up to the first character that is not a digit. One that does not fit
gives the largest value. -/
theorem strtoul_complete (h : IsUnsigned text value) (hrest : ∀ c ∈ rest.head?, c.isDigit = false) :
    strtoul (text ++ rest) = (min value (range64 - 1), text.length) := by
  obtain ⟨spaces, sign, digits, rfl, hspaces, hsign, hne, hdigits, rfl⟩ := h
  have hsign' : sign = [] ∨ sign = ['+'] ∨ sign = ['-'] := hsign.imp_right .inl
  have hplus : decide (sign = ['-']) = false := by
    obtain rfl | rfl := hsign
    · rfl
    · rfl
  have hassoc : spaces ++ (sign ++ digits) ++ rest = spaces ++ (sign ++ (digits ++ rest)) := by simp
  have hlength : (spaces ++ (sign ++ (digits ++ rest))).length - (digits ++ rest).length + digits.length =
      (spaces ++ (sign ++ digits)).length := by
    simp only [List.length_append]
    omega
  simp only [hassoc, strtoul, dropWhile_isSpace_append hspaces hsign' hne hdigits,
    splitSign_append hsign' hne hdigits, takeWhile_isDigit_append hdigits hrest, hne,
    if_false, hplus, Bool.false_eq_true, hlength, Prod.mk.injEq, and_true]
  split
  · omega
  · omega

theorem isUnsigned_toDigits (n : Nat) : IsUnsigned (Nat.toDigits 10 n) n := by
  refine ⟨[], [], Nat.toDigits 10 n, rfl, by simp, .inl rfl, Nat.toDigits_ne_nil, ?_, ?_⟩
  · exact fun c hmem => Nat.isDigit_of_mem_toDigits (by decide) (by decide) hmem
  · exact (Nat.ofDigitChars_toDigits (by decide) (by decide)).symm

theorem strtoul_sound (htext : text ≠ []) (hdash : '-' ∉ text) (hend : (strtoul (text ++ rest)).2 = text.length) :
    ∃ value, IsUnsigned text value := by
  obtain ⟨sign, hsplit, hsign, -⟩ := splitSign_cases ((text ++ rest).dropWhile isSpace)
  generalize hdigits : (splitSign ((text ++ rest).dropWhile isSpace)).2.takeWhile Char.isDigit = digits
  generalize hafter : (splitSign ((text ++ rest).dropWhile isSpace)).2.dropWhile Char.isDigit = after
  generalize hspaces : (text ++ rest).takeWhile isSpace = spaces
  have hcut : text ++ rest = spaces ++ (sign ++ digits) ++ after := by
    rw [List.append_assoc, List.append_assoc, ← hdigits, ← hafter, List.takeWhile_append_dropWhile, ← hsplit, ← hspaces,
      List.takeWhile_append_dropWhile]
  have hsigned : (splitSign ((text ++ rest).dropWhile isSpace)).2 = digits ++ after := by
    rw [← hdigits, ← hafter, List.takeWhile_append_dropWhile]
  have hne : digits ≠ [] := by
    rintro rfl
    simp only [strtoul, hdigits, if_true] at hend
    exact htext (List.length_eq_zero_iff.mp hend.symm)
  have hlength : text.length = (spaces ++ (sign ++ digits)).length := by
    have hall := congrArg List.length hcut
    simp only [strtoul, hdigits, hne, if_false] at hend
    rw [hsigned] at hend
    simp only [List.length_append] at hall hend ⊢
    omega
  obtain ⟨rfl, -⟩ := List.append_inj hcut hlength
  refine ⟨_, spaces, sign, digits, rfl, ?_, ?_, hne, ?_, rfl⟩
  · rw [← hspaces]
    exact fun c hmem => List.mem_takeWhile_imp hmem
  · obtain rfl | rfl | rfl := hsign
    · exact .inl rfl
    · exact .inr rfl
    · exact absurd (by simp) hdash
  · rw [← hdigits]
    exact fun c hmem => List.mem_takeWhile_imp hmem

end Unsigned

theorem signed_in_range_iff (negative : Bool) (magnitude : Nat) :
    (-2147483648 ≤ (if negative then -(magnitude : Int) else magnitude) ∧
      (if negative then -(magnitude : Int) else magnitude) ≤ 2147483647) ↔
      magnitude ≤ if negative then 2147483648 else 2147483647 := by
  cases negative with
  | true =>
    simp only [if_true]
    omega
  | false =>
    simp only [Bool.false_eq_true, if_false]
    omega

theorem stoi_append {spaces sign digits rest : Str} (hspaces : ∀ c ∈ spaces, isSpace c = true)
    (hsign : sign = [] ∨ sign = ['+'] ∨ sign = ['-']) (hne : digits ≠ []) (hdigits : ∀ c ∈ digits, c.isDigit = true)
    (hrest : ∀ c ∈ rest.head?, c.isDigit = false)
    (hvalue : Nat.ofDigitChars 10 digits 0 ≤ if sign = ['-'] then 2147483648 else 2147483647) :
    stoi (spaces ++ (sign ++ (digits ++ rest))) =
      some (if sign = ['-'] then -(Nat.ofDigitChars 10 digits 0 : Int) else Nat.ofDigitChars 10 digits 0) := by
  have hrange := (signed_in_range_iff (decide (sign = ['-'])) (Nat.ofDigitChars 10 digits 0)).mpr (by
    simpa only [decide_eq_true_eq] using hvalue)
  simp only [stoi, dropWhile_isSpace_append hspaces hsign hne hdigits, splitSign_append hsign hne hdigits,
    takeWhile_isDigit_append hdigits hrest, hne, if_false]
  rw [if_pos hrange]
  simp only [decide_eq_true_eq]

theorem stoi_isSome_iff : (stoi s).isSome = true ↔ IsInt s := by
  constructor
  · intro hsome
    obtain ⟨sign, hsplit, hsign, hnegative⟩ := splitSign_cases (s.dropWhile isSpace)
    refine ⟨s.takeWhile isSpace, sign, (splitSign (s.dropWhile isSpace)).2.takeWhile Char.isDigit,
      (splitSign (s.dropWhile isSpace)).2.dropWhile Char.isDigit, ?_, ?_, hsign, ?_, ?_, ?_, ?_⟩
    · rw [List.takeWhile_append_dropWhile, ← hsplit, List.takeWhile_append_dropWhile]
    · exact fun c hmem => List.mem_takeWhile_imp hmem
    · intro hnil
      simp [stoi, hnil] at hsome
    · exact fun c hmem => List.mem_takeWhile_imp hmem
    · intro c hc
      have hhead := List.head?_dropWhile_not Char.isDigit (splitSign (s.dropWhile isSpace)).2
      rwa [Option.mem_def.mp hc] at hhead
    · have hrange : (if (splitSign (s.dropWhile isSpace)).1 then 2147483648 else 2147483647) =
          if sign = ['-'] then 2147483648 else 2147483647 := by
        rw [hnegative]
        simp only [decide_eq_true_eq]
      rw [← hrange, ← signed_in_range_iff]
      by_contra hout
      have hnone : stoi s = none := by
        simp only [stoi]
        rw [if_neg hout, ite_self]
      rw [hnone] at hsome
      cases hsome
  · rintro ⟨spaces, sign, digits, rest, rfl, hspaces, hsign, hne, hdigits, hrest, hvalue⟩
    rw [stoi_append hspaces hsign hne hdigits hrest hvalue]
    rfl

theorem stoi_toDigits {n : Nat} (hn : n ≤ 2147483647) : stoi (Nat.toDigits 10 n) = some (n : Int) := by
  have hvalue : Nat.ofDigitChars 10 (Nat.toDigits 10 n) 0 = n :=
    Nat.ofDigitChars_toDigits (by decide : 1 < 10) (by decide : 10 ≤ 10)
  have hread := @stoi_append [] [] (Nat.toDigits 10 n) [] (by simp) (.inl rfl) Nat.toDigits_ne_nil
    (fun c hmem => Nat.isDigit_of_mem_toDigits (by decide) (by decide) hmem) (by simp) (by rw [hvalue]; exact hn)
  rwa [hvalue, List.append_nil] at hread

end Str

end hub
