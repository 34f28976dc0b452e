import Mathlib.Data.List.TakeWhile
import ProfileOperator.Net.BindAddress
import ProfileOperator.Proofs.Quoting

/-!
# Addresses that are read back

A printed address is read as the same address.  Of an IPv6 address this is to be seen for each of its
three forms: all groups, groups around a gap, and the dotted form behind a gap.  The reader tries the
dotted form wherever two groups have room, so a group must never pass for the start of one; and a gap
must stand just where the groups in front of it cannot go on.
-/

namespace ProfileOperator

namespace Net

open ProfileOperator.Text (EndsDigits isDigit spanDigits)

/-! ### Numbers -/

theorem readNumber_toDigits {base limit n : Nat} (hbase : 1 < base) (hmost : base ≤ 16)
    (hlimit : n ≤ limit) {rest : List Char} (hend : EndsDigits base rest) :
    readNumber base limit (Nat.toDigits base n ++ rest) = some (n, rest) := by
  have hnone : ¬(Nat.toDigits base n = [] ∨ limit < n) := by
    rintro (hnil | hlarge)
    · exact Nat.toDigits_ne_nil hnil
    · omega
  simp only [readNumber, Text.spanDigits_toDigits hbase hmost n hend,
    Text.numeralValue_toDigits hbase hmost, if_neg hnone]

theorem readOctet_decimal (octet : UInt8) {rest : List Char} (hend : EndsDigits 10 rest) :
    readOctet (decimal octet.toNat ++ rest) = some (octet, rest) := by
  have hlt : octet.toNat < 256 := octet.toNat_lt
  have hlength : (Nat.toDigits 10 octet.toNat).length ≤ 3 :=
    (Nat.length_toDigits_le_iff (by decide) (by decide)).2 (by omega)
  have hplain : ¬(3 < (Nat.toDigits 10 octet.toNat).length ∨
      (Nat.toDigits 10 octet.toNat).head? = some '0' ∧
        1 < (Nat.toDigits 10 octet.toNat).length) := by
    rintro (hlong | ⟨hzero, hlong⟩)
    · omega
    · rcases Nat.eq_zero_or_pos octet.toNat with hnull | hpos
      · rw [hnull] at hlong
        exact absurd hlong (by decide)
      · exact Text.head?_toDigits_ne_zero (by decide) hpos hzero
  rw [readOctet, decimal, Text.spanDigits_toDigits (by decide) (by decide) _ hend, if_neg hplain,
    readNumber_toDigits (by decide) (by decide) (by omega) hend, Option.map_some]
  simp

theorem readGroup_hexadecimal (group : UInt16) {rest : List Char} (hend : EndsDigits 16 rest) :
    readGroup (hexadecimal group.toNat ++ rest) = some (group, rest) := by
  have hlt : group.toNat < 65536 := group.toNat_lt
  have hlength : (Nat.toDigits 16 group.toNat).length ≤ 4 :=
    (Nat.length_toDigits_le_iff (by decide) (by decide)).2 (by omega)
  rw [readGroup, hexadecimal, Text.spanDigits_toDigits (by decide) (by decide) _ hend,
    if_neg (Nat.not_lt.2 hlength), readNumber_toDigits (by decide) (by decide) (by omega) hend,
    Option.map_some]
  simp

/-! ### IPv4 addresses -/

@[simp] theorem readChar_cons (c : Char) (rest : List Char) : readChar c (c :: rest) = some rest :=
  if_pos rfl

theorem readIpv4_chars (ip : Ipv4) {rest : List Char} (hend : EndsDigits 10 rest) :
    readIpv4 (ip.chars ++ rest) = some (ip, rest) := by
  have hdot : ∀ more, EndsDigits 10 ('.' :: more) := Text.endsDigits_cons (by decide)
  simp only [Ipv4.chars, List.append_assoc, List.cons_append]
  simp only [readIpv4, readOctet_decimal _ (hdot _), readOctet_decimal _ hend, readChar_cons,
    Option.bind_eq_bind, Option.bind_some]

/-- Reading an octet takes all the digits there are. -/
theorem eq_of_readOctet {cs rest : List Char} {octet : UInt8}
    (h : readOctet cs = some (octet, rest)) : rest = (spanDigits 10 cs).2 := by
  simp only [readOctet] at h
  split at h
  · cases h
  · obtain ⟨read, hread, hrest⟩ := Option.map_eq_some_iff.1 h
    simp only [readNumber] at hread
    split at hread
    · cases hread
    · rw [← (Prod.mk.inj hrest).2, ← Option.some.inj hread]

/-- Where no dot follows the first digits, no IPv4 address stands. -/
theorem readIpv4_eq_none {cs : List Char} (h : (spanDigits 10 cs).2.head? ≠ some '.') :
    readIpv4 cs = none := by
  cases hread : readOctet cs with
  | none => rw [readIpv4, hread, Option.bind_eq_bind, Option.bind_none]
  | some read =>
      obtain ⟨octet, rest⟩ := read
      have hnodot : readChar '.' rest = none := by
        rw [eq_of_readOctet hread]
        cases hleft : (spanDigits 10 cs).2 with
        | nil => rfl
        | cons c more =>
            rw [hleft, List.head?_cons, Ne, Option.some.injEq] at h
            exact if_neg h
      simp only [readIpv4, hread, hnodot, Option.bind_eq_bind, Option.bind_some, Option.bind_none]

/-! ### Groups -/

/-- What may follow a group: neither a further digit nor a dot. -/
def EndsGroup (rest : List Char) : Prop :=
  ∀ c ∈ rest.head?, isDigit 16 c = false ∧ c ≠ '.'

theorem EndsGroup.endsDigits {rest : List Char} (h : EndsGroup rest) : EndsDigits 16 rest :=
  fun c hc => (h c hc).1

theorem endsGroup_cons {c : Char} (hdigit : isDigit 16 c = false) (hdot : c ≠ '.')
    (rest : List Char) : EndsGroup (c :: rest) := by
  rintro _ ⟨⟩
  exact ⟨hdigit, hdot⟩

theorem head?_dropWhile_ne {p : Char -> Bool} {cs rest : List Char} (hcs : '.' ∉ cs)
    (hrest : EndsGroup rest) (hp : ∀ c, isDigit 16 c = false -> p c = false) :
    ((cs ++ rest).dropWhile p).head? ≠ some '.' := by
  induction cs with
  | nil =>
      cases rest with
      | nil => simp
      | cons c more =>
          obtain ⟨hdigit, hdot⟩ := hrest c rfl
          rw [List.nil_append, List.dropWhile_cons_of_neg (by simp [hp c hdigit])]
          simpa using hdot
  | cons c cs ih =>
      rw [List.mem_cons, not_or] at hcs
      rw [List.cons_append, List.dropWhile_cons]
      split
      · exact ih hcs.2
      · simpa using Ne.symm hcs.1

/-- A group is not taken for the start of an IPv4 address. -/
theorem readIpv4_hexadecimal (group : UInt16) {rest : List Char} (hend : EndsGroup rest) :
    readIpv4 (hexadecimal group.toNat ++ rest) = none := by
  have hnodot : '.' ∉ Nat.toDigits 16 group.toNat := by
    intro hmem
    exact absurd (Text.isDigit_of_mem_toDigits (by decide) (by decide) '.' hmem) (by decide)
  apply readIpv4_eq_none
  exact head?_dropWhile_ne hnodot hend fun c => Text.isDigit_eq_false_of_le (by decide)

theorem readNumber_eq_none {base limit : Nat} {rest : List Char} (h : EndsDigits base rest) :
    readNumber base limit rest = none := by
  simp only [readNumber, h.spanDigits_eq, true_or, if_true]

theorem readGroup_eq_none {rest : List Char} (h : EndsDigits 16 rest) : readGroup rest = none := by
  rw [readGroup, readNumber_eq_none h, Option.map_none, ite_self]

theorem readIpv4_of_endsDigits {rest : List Char} (h : EndsDigits 10 rest) :
    readIpv4 rest = none := by
  have hoctet : readOctet rest = none := by
    simp only [readOctet, readNumber_eq_none h, Option.map_none, ite_self]
  rw [readIpv4, hoctet, Option.bind_eq_bind, Option.bind_none]

/-- No further group starts here, whether a separator is expected in front of it or not. -/
def Halts (rest : List Char) : Prop :=
  ∀ first, (readSeparator first rest).bind readIpv4 = none ∧
    (readSeparator first rest).bind readGroup = none

theorem halts_of_endsDigits {rest : List Char} (hrest : EndsDigits 16 rest)
    (hmore : ∀ more, rest = ':' :: more -> EndsDigits 16 more) : Halts rest := by
  have hnone : ∀ cs, EndsDigits 16 cs -> readIpv4 cs = none ∧ readGroup cs = none :=
    fun cs hcs => ⟨readIpv4_of_endsDigits (hcs.of_le (by decide)), readGroup_eq_none hcs⟩
  intro first
  cases first with
  | true => exact hnone rest hrest
  | false =>
      cases rest with
      | nil => exact ⟨rfl, rfl⟩
      | cons c more =>
          by_cases hc : c = ':'
          · subst hc
            exact hnone more (hmore more rfl)
          · have hseparator : readSeparator false (c :: more) = none := if_neg hc
            rw [hseparator]
            exact ⟨rfl, rfl⟩

theorem halts_colons (more : List Char) : Halts (':' :: ':' :: more) := by
  refine halts_of_endsDigits (Text.endsDigits_cons (by decide) _) ?_
  rintro _ ⟨⟩
  exact Text.endsDigits_cons (by decide) more

theorem Halts.readGroups_eq {rest : List Char} (h : Halts rest) (first : Bool) (room : Nat) :
    readGroups first room rest = { groups := [], dotted := false, rest := rest } := by
  obtain ⟨hdotted, hgroup⟩ := h first
  cases room with
  | zero => rfl
  | succ room => simp only [readGroups, hdotted, hgroup, ite_self]

theorem readGroups_succ {first : Bool} {cs : List Char} {group : UInt16} {rest : List Char}
    (room : Nat) (hseparator : readSeparator first cs = some (hexadecimal group.toNat ++ rest))
    (hend : EndsGroup rest) :
    readGroups first (room + 1) cs =
      { readGroups false room rest with
        groups := group :: (readGroups false room rest).groups } := by
  simp only [readGroups, hseparator, Option.bind_some, readIpv4_hexadecimal group hend,
    readGroup_hexadecimal group hend.endsDigits, ite_self]

/-- Groups as they are written behind others. -/
def groupTail (groups : List UInt16) : List Char :=
  groups.flatMap fun group => ':' :: hexadecimal group.toNat

theorem groupChars_cons (group : UInt16) (groups : List UInt16) :
    groupChars (group :: groups) = hexadecimal group.toNat ++ groupTail groups := by
  induction groups generalizing group with
  | nil => simp [groupChars, groupTail]
  | cons next groups ih =>
      have hnext := ih next
      rw [groupChars, List.map_cons] at hnext
      rw [groupChars, List.map_cons, List.map_cons, List.intercalate_cons_cons, hnext]
      simp [groupTail]

theorem endsGroup_groupTail (groups : List UInt16) {rest : List Char} (h : EndsGroup rest) :
    EndsGroup (groupTail groups ++ rest) := by
  cases groups with
  | nil => exact h
  | cons group groups => exact endsGroup_cons (by decide) (by decide) _

theorem readGroups_groupTail (groups : List UInt16) {room : Nat} {rest : List Char}
    (hroom : groups.length ≤ room) (hend : EndsGroup rest) (hhalts : Halts rest) :
    readGroups false room (groupTail groups ++ rest) =
      { groups := groups, dotted := false, rest := rest } := by
  induction groups generalizing room with
  | nil => exact hhalts.readGroups_eq false room
  | cons group groups ih =>
      obtain ⟨left, rfl⟩ : ∃ left, room = left + 1 := ⟨room - 1, by simp at hroom; omega⟩
      have hmore := ih (Nat.le_of_succ_le_succ hroom)
      have hseparator : readSeparator false (groupTail (group :: groups) ++ rest) =
          some (hexadecimal group.toNat ++ (groupTail groups ++ rest)) := by
        simp [readSeparator, groupTail]
      rw [readGroups_succ left hseparator (endsGroup_groupTail groups hend), hmore]

theorem readGroups_groupChars (groups : List UInt16) {room : Nat} {rest : List Char}
    (hroom : groups.length ≤ room) (hend : EndsGroup rest) (hhalts : Halts rest) :
    readGroups true room (groupChars groups ++ rest) =
      { groups := groups, dotted := false, rest := rest } := by
  cases groups with
  | nil => exact hhalts.readGroups_eq true room
  | cons group groups =>
      obtain ⟨left, rfl⟩ : ∃ left, room = left + 1 := ⟨room - 1, by simp at hroom; omega⟩
      have hmore := readGroups_groupTail groups (Nat.le_of_succ_le_succ hroom) hend hhalts
      have hseparator : readSeparator true (groupChars (group :: groups) ++ rest) =
          some (hexadecimal group.toNat ++ (groupTail groups ++ rest)) := by
        rw [groupChars_cons, List.append_assoc]
        rfl
      rw [readGroups_succ left hseparator (endsGroup_groupTail groups hend), hmore]

/-! ### Zero runs -/

theorem leadingZeros_eq (groups : List UInt16) :
    groups = List.replicate (leadingZeros groups) 0 ++ groups.dropWhile (· == 0) := by
  have hzeros : groups.takeWhile (· == 0) = List.replicate (leadingZeros groups) 0 := by
    apply List.eq_replicate_of_mem
    intro group hgroup
    have hzero := List.mem_takeWhile_imp hgroup
    exact eq_of_beq hzero
  rw [← hzeros, List.takeWhile_append_dropWhile]

/-- A run that is found stands between the groups in front of it and those behind it. -/
theorem exists_longestZeroRun_eq (index : Nat) (groups : List UInt16)
    (h : 0 < (longestZeroRun index groups).length) :
    ∃ front back,
      groups = front ++ (List.replicate (longestZeroRun index groups).length 0 ++ back) ∧
        (longestZeroRun index groups).start = index + front.length := by
  induction groups generalizing index with
  | nil => exact absurd h (Nat.lt_irrefl 0)
  | cons group rest ih =>
      simp only [longestZeroRun] at h ⊢
      -- The run that starts here counts, or else the one that is found behind it.
      split
      · exact ⟨[], _, leadingZeros_eq (group :: rest), rfl⟩
      · next hlater =>
          rw [if_neg hlater] at h
          obtain ⟨front, back, hrest, hstart⟩ := ih (index + 1) h
          refine ⟨group :: front, back, ?_, ?_⟩
          · rw [List.cons_append, ← hrest]
          · rw [hstart, List.length_cons]
            omega

/-! ### IPv6 addresses -/

/-- A group is put together again from its two bytes. -/
theorem shiftLeft_or_halves (word : UInt16) :
    (word >>> 8).toUInt8.toUInt16 <<< 8 ||| word.toUInt8.toUInt16 = word := by
  have hlt : word.toNat < 65536 := word.toNat_lt
  have hcut : ((word >>> 8).toUInt8.toUInt16 <<< 8).toNat =
      (word.toNat / 256 % 256) <<< 8 % 65536 := by
    simp [UInt16.toNat_shiftLeft, Nat.shiftRight_eq_div_pow]
  have hhigh : (word.toNat / 256 % 256) <<< 8 % 65536 = (word.toNat / 256) <<< 8 := by
    rw [Nat.shiftLeft_eq, Nat.shiftLeft_eq]
    omega
  apply UInt16.toNat_inj.1
  rw [UInt16.toNat_or, hcut, hhigh, UInt8.toNat_toUInt16, UInt16.toNat_toUInt8,
    ← Nat.shiftLeft_add_eq_or_of_lt (by omega), Nat.shiftLeft_eq]
  omega

theorem toGroups_halves (high low : UInt16) :
    Ipv4.toGroups {
      a := (high >>> 8).toUInt8
      b := high.toUInt8
      c := (low >>> 8).toUInt8
      d := low.toUInt8 } = [high, low] := by
  rw [Ipv4.toGroups, shiftLeft_or_halves, shiftLeft_or_halves]

theorem groups_of_mapped? {ip : Ipv6} {v4 : Ipv4} (h : ip.mapped? = some v4) :
    ip.groups = List.replicate 5 0 ++ 0xffff :: v4.toGroups := by
  unfold Ipv6.mapped? at h
  split at h
  · next high low hgroups =>
      rw [hgroups, ← Option.some.inj h, toGroups_halves]
      rfl
  · cases h

theorem ofGroups?_groups (ip : Ipv6) : Ipv6.ofGroups? ip.groups = some ip :=
  dif_pos ip.length_groups

/-- What may follow an address: neither more of its last group nor a further group. -/
structure EndsAddress (rest : List Char) : Prop where
  group : EndsGroup rest
  separator : rest.head? ≠ some ':'

theorem EndsAddress.halts {rest : List Char} (h : EndsAddress rest) : Halts rest := by
  refine halts_of_endsDigits h.group.endsDigits ?_
  rintro more rfl
  exact absurd rfl h.separator

/-- Groups up to a gap, groups behind it, and zeros in the gap. -/
theorem readIpv6_gap {cs more rest : List Char} {front back : List UInt16} {dotted : Bool}
    (hfront : readGroups true 8 cs =
      { groups := front, dotted := false, rest := ':' :: ':' :: more })
    (hback : readGroups true (7 - front.length) more =
      { groups := back, dotted := dotted, rest := rest }) (hlength : front.length < 8) :
    readIpv6 cs = (Ipv6.ofGroups?
      (front ++ List.replicate (8 - front.length - back.length) 0 ++ back)).map (·, rest) := by
  simp only [readIpv6, hfront, if_neg (Nat.ne_of_lt hlength), Bool.false_eq_true, if_false,
    readChar_cons, Option.bind_eq_bind, Option.bind_some, hback]

theorem readIpv6_mapped {ip : Ipv6} {v4 : Ipv4} (h : ip.mapped? = some v4) {rest : List Char}
    (hend : EndsDigits 10 rest) :
    readIpv6 ([':', ':', 'f', 'f', 'f', 'f', ':'] ++ v4.chars ++ rest) = some (ip, rest) := by
  have hhalts := halts_colons ('f' :: 'f' :: 'f' :: 'f' :: ':' :: (v4.chars ++ rest))
  have hfront := hhalts.readGroups_eq true 8
  have hback : readGroups true 7 ('f' :: 'f' :: 'f' :: 'f' :: ':' :: (v4.chars ++ rest)) =
      { groups := 0xffff :: v4.toGroups, dotted := true, rest := rest } := by
    have hseparator : readSeparator true ('f' :: 'f' :: 'f' :: 'f' :: ':' :: (v4.chars ++ rest)) =
        some (hexadecimal (0xffff : UInt16).toNat ++ ':' :: (v4.chars ++ rest)) :=
      rfl
    have hdotted : readGroups false 6 (':' :: (v4.chars ++ rest)) =
        { groups := v4.toGroups, dotted := true, rest := rest } := by
      simp [readGroups, readSeparator, readIpv4_chars v4 hend]
    rw [readGroups_succ 6 hseparator (endsGroup_cons (by decide) (by decide) _), hdotted]
  have hgroups : [] ++ List.replicate (8 - 0 - (0xffff :: v4.toGroups).length) 0 ++
      0xffff :: v4.toGroups = ip.groups := by
    rw [groups_of_mapped? h]
    rfl
  have hread := readIpv6_gap hfront hback (by decide)
  rw [List.length_nil, hgroups, ofGroups?_groups, Option.map_some] at hread
  exact hread

theorem readIpv6_compressed {ip : Ipv6} (h : 1 < (longestZeroRun 0 ip.groups).length)
    {rest : List Char} (hend : EndsAddress rest) :
    readIpv6 (groupChars (ip.groups.take (longestZeroRun 0 ip.groups).start) ++ [':', ':'] ++
      groupChars (ip.groups.drop ((longestZeroRun 0 ip.groups).start +
        (longestZeroRun 0 ip.groups).length)) ++ rest) = some (ip, rest) := by
  obtain ⟨front, back, hgroups, hstart⟩ := exists_longestZeroRun_eq 0 ip.groups (by omega)
  generalize longestZeroRun 0 ip.groups = run at h hgroups hstart ⊢
  rw [Nat.zero_add] at hstart
  have hlength := ip.length_groups
  rw [hgroups, List.length_append, List.length_append, List.length_replicate] at hlength
  have htake : ip.groups.take run.start = front := by
    rw [hgroups, hstart, List.take_left]
  have hdrop : ip.groups.drop (run.start + run.length) = back := by
    rw [hgroups, hstart, List.drop_length_add_append, List.drop_left' List.length_replicate]
  have hfront : readGroups true 8 (groupChars front ++ ':' :: ':' :: (groupChars back ++ rest)) =
      { groups := front, dotted := false, rest := ':' :: ':' :: (groupChars back ++ rest) } :=
    readGroups_groupChars front (by omega) (endsGroup_cons (by decide) (by decide) _)
      (halts_colons _)
  -- A gap is longer than one group, so what stands behind it fits into the room that is left.
  have hback : readGroups true (7 - front.length) (groupChars back ++ rest) =
      { groups := back, dotted := false, rest := rest } :=
    readGroups_groupChars back (by omega) hend.group hend.halts
  have hgap : 8 - front.length - back.length = run.length := by
    omega
  have hread := readIpv6_gap hfront hback (by omega)
  rw [hgap, List.append_assoc, ← hgroups, ofGroups?_groups, Option.map_some] at hread
  rw [htake, hdrop]
  simpa using hread

theorem readIpv6_full (ip : Ipv6) {rest : List Char} (hend : EndsAddress rest) :
    readIpv6 (groupChars ip.groups ++ rest) = some (ip, rest) := by
  have hgroups := readGroups_groupChars ip.groups ip.length_groups.le hend.group hend.halts
  simp only [readIpv6, hgroups, ip.length_groups, if_true, ofGroups?_groups, Option.map_some]

/-- An IPv6 address is read back, whichever of its three forms it is printed in. -/
theorem readIpv6_chars (ip : Ipv6) {rest : List Char} (hend : EndsAddress rest) :
    readIpv6 (ip.chars ++ rest) = some (ip, rest) := by
  unfold Ipv6.chars
  split
  · next v4 hmapped => exact readIpv6_mapped hmapped (hend.group.endsDigits.of_le (by decide))
  · simp only
    split
    · next hrun => exact readIpv6_compressed hrun hend
    · exact readIpv6_full ip hend

/-! ### Addresses with a port -/

theorem readPort_decimal (port : UInt16) :
    readPort (':' :: decimal port.toNat) = some (port, []) := by
  have hlt : port.toNat < 65536 := port.toNat_lt
  have hread : readNumber 10 0xffff (decimal port.toNat ++ []) = some (port.toNat, []) :=
    readNumber_toDigits (by decide) (by decide) (by omega) (by rintro _ ⟨⟩)
  rw [List.append_nil] at hread
  simp [readPort, hread]

theorem readZone_zoneChars (zone : UInt32) (rest : List Char) :
    readZone (SocketAddress.zoneChars zone ++ ']' :: rest) = (zone, ']' :: rest) := by
  unfold SocketAddress.zoneChars
  split
  · next hzero =>
      rw [hzero]
      rfl
  · have hlt : zone.toNat < 4294967296 := zone.toNat_lt
    have hread : readNumber 10 0xffffffff (decimal zone.toNat ++ ']' :: rest) =
        some (zone.toNat, ']' :: rest) :=
      readNumber_toDigits (by decide) (by decide) (by omega)
        (Text.endsDigits_cons (by decide) rest)
    simp [readZone, hread]

theorem endsAddress_zoneChars (zone : UInt32) (rest : List Char) :
    EndsAddress (SocketAddress.zoneChars zone ++ ']' :: rest) := by
  unfold SocketAddress.zoneChars
  split
  · exact ⟨endsGroup_cons (by decide) (by decide) rest, by simp⟩
  · exact ⟨endsGroup_cons (by decide) (by decide) _, by simp⟩

theorem readV4_chars (ip : Ipv4) (port : UInt16) :
    readV4 (SocketAddress.v4 ip port).chars = some (.v4 ip port, []) := by
  have hend : EndsDigits 10 (':' :: decimal port.toNat) := Text.endsDigits_cons (by decide) _
  have hip := readIpv4_chars ip hend
  simp only [SocketAddress.chars, readV4, hip, readPort_decimal, Option.bind_eq_bind,
    Option.bind_some]

theorem readV4_bracket (rest : List Char) : readV4 ('[' :: rest) = none := by
  have hip : readIpv4 ('[' :: rest) = none :=
    readIpv4_of_endsDigits (Text.endsDigits_cons (by decide) rest)
  rw [readV4, hip, Option.bind_eq_bind, Option.bind_none]

theorem readV6_chars (ip : Ipv6) (zone : UInt32) (port : UInt16) :
    readV6 (SocketAddress.v6 ip zone port).chars = some (.v6 ip zone port, []) := by
  have hip := readIpv6_chars ip (endsAddress_zoneChars zone (':' :: decimal port.toNat))
  simp only [SocketAddress.chars, List.cons_append, List.append_assoc, List.nil_append, readV6,
    readChar_cons, hip, readZone_zoneChars, readPort_decimal, Option.bind_eq_bind,
    Option.bind_some]

theorem SocketAddress.ofChars?_chars (address : SocketAddress) :
    ofChars? address.chars = some address := by
  cases address with
  | v4 ip port =>
      rw [ofChars?, readV4_chars, Option.some_or]
  | v6 ip zone port =>
      have hnone : readV4 (SocketAddress.v6 ip zone port).chars = none := readV4_bracket _
      rw [ofChars?, hnone, readV6_chars, Option.none_or]

/-! ### Bind addresses -/

theorem expandBind_chars (address : SocketAddress) : expandBind address.chars = address.chars := by
  cases address with
  | v4 ip port =>
      obtain ⟨d, ds, hdigits, hcolon⟩ := Text.exists_toDigits_eq_cons 10 (by decide)
        (P := fun d => d ≠ ':') (by decide) ip.a.toNat
      simp only [SocketAddress.chars, Ipv4.chars, decimal, hdigits, List.cons_append]
      rw [expandBind]
      rintro port ⟨⟩
      exact hcolon rfl
  | v6 ip zone port => rfl

theorem parseBind_text (address : SocketAddress) : parseBind address.text = .ok address := by
  rw [parseBind, SocketAddress.text, String.toList_ofList, expandBind_chars,
    SocketAddress.ofChars?_chars]

theorem expandBind_port (p : String) :
    expandBind (":" ++ p).toList = expandBind ("0.0.0.0:" ++ p).toList := by
  rw [String.toList_append, String.toList_append]
  rfl

/-- The wording quotes a text, and that is the one that was given. -/
theorem BindError.message_eq_iff (e : BindError) (shown : String) :
    e.message = "invalid bind address " ++ Text.quoted shown ++ ": invalid socket address syntax" ↔
      shown = e.given :=
  Text.quoted_between_iff "invalid bind address " ": invalid socket address syntax" shown e.given

theorem BindError.message_of_isPlain {e : BindError} (h : ∀ c ∈ e.given.toList, Text.IsPlain c) :
    e.message = "invalid bind address \"" ++ e.given ++ "\": invalid socket address syntax" := by
  have hfront : "invalid bind address " ++ "\"" = "invalid bind address \"" := by
    decide +kernel
  have hback : "\"" ++ ": invalid socket address syntax" = "\": invalid socket address syntax" := by
    decide +kernel
  have hshown := Text.quoted_between_of_isPlain "invalid bind address "
    ": invalid socket address syntax" h
  rwa [hfront, hback] at hshown

theorem parseBind_eq_error {given : String} {e : BindError} (h : parseBind given = .error e) :
    e.given = given := by
  unfold parseBind at h
  split at h
  · cases h
  · cases h
    rfl

/--
An address that is given back as it was printed is the same address, of whatever kind and form it is.
A port behind a colon alone stands for every IPv4 interface.  What is refused is quoted as it was given, and
no other text is quoted alike; one without anything to escape is shown as it is.
-/
theorem parseBind_reads_back :
    (∀ address : SocketAddress, parseBind address.text = .ok address) ∧
    (∀ p address, parseBind (":" ++ p) = .ok address ↔
      parseBind ("0.0.0.0:" ++ p) = .ok address) ∧
    ∀ given e, parseBind given = .error e ->
      e.given = given ∧
      (∀ shown, e.message =
        "invalid bind address " ++ Text.quoted shown ++ ": invalid socket address syntax" ↔
          shown = given) ∧
      ((∀ c ∈ given.toList, Text.isPrintable c = true ∧ c ≠ '\\' ∧ c ≠ '\x22') ->
        e.message =
          "invalid bind address \"" ++ given ++ "\": invalid socket address syntax") := by
  refine ⟨parseBind_text, ?_, ?_⟩
  · intro p address
    simp only [parseBind, expandBind_port]
    split
    · exact Iff.rfl
    · exact iff_of_false (fun h => nomatch h) fun h => nomatch h
  · intro given e h
    obtain rfl := parseBind_eq_error h
    exact ⟨rfl, e.message_eq_iff, BindError.message_of_isPlain⟩

/-- A mapped address with a zone, a port alone that is too large, and a text with something to escape. -/
theorem parseBind_reads_back_mapped :
    parseBind (SocketAddress.v6 ⟨[0, 0, 0, 0, 0, 0xffff, 0x0102, 0x00ff], rfl⟩ 7 80).text =
        .ok (.v6 ⟨[0, 0, 0, 0, 0, 0xffff, 0x0102, 0x00ff], rfl⟩ 7 80) ∧
      (∃ e, parseBind ":65536" = .error e ∧
        e.message = "invalid bind address \":65536\": invalid socket address syntax") ∧
      ∃ e, parseBind ":\"\n" = .error e ∧
        e.message = "invalid bind address \":\\\"\\n\": invalid socket address syntax" := by
  obtain ⟨hback, _, hrefused⟩ := parseBind_reads_back
  have hport : parseBind ":65536" = .error { given := ":65536" } := by
    decide
  have hmarks : parseBind ":\"\n" = .error { given := ":\"\n" } := by
    decide
  obtain ⟨_, _, hplain⟩ := hrefused ":65536" _ hport
  obtain ⟨_, hquoted, _⟩ := hrefused ":\"\n" _ hmarks
  have hshown := hplain (List.forall_iff_forall_mem.1 (by decide +kernel))
  refine ⟨hback _, ⟨_, hport, hshown⟩, _, hmarks, ?_⟩
  exact ((hquoted _).2 rfl).trans (by decide +kernel)

/-- Of two runs of equal length the first is left out, and a zero alone is none. -/
example : (SocketAddress.v6 ⟨[0x2001, 0, 0, 1, 0, 0, 0xab, 0], rfl⟩ 7 80).text =
    "[2001::1:0:0:ab:0%7]:80" := by
  decide

end Net

end ProfileOperator
