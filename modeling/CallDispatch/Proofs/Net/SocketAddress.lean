import CallDispatch.Net.SocketAddress
import CallDispatch.Proofs.Text.Digits
import CallDispatch.Proofs.Text.Reading
import Mathlib.Tactic.Lemma

/-!
# Addresses and their texts

A socket address is read back from its text (`SocketAddress.parse_text`), if it has no flow label,
for which the text has no place. An IPv4 address has four numbers between points. Of an IPv6 address
the text leaves out the longest run of zero groups: what stands in front of the gap and behind it
has no gap of its own, so the first `::` is the one that was written (`cutGapFrom_groupChars`), and
the groups that are missing are as many as were left out (`parse_of_cut`).
-/

namespace CallDispatch

open Text

/-! ## IPv4 addresses -/

namespace Ipv4

lemma chars_eq_intercalate (ip : Ipv4) :
    ip.chars = ['.'].intercalate [decimalDigits ip.a.toNat, decimalDigits ip.b.toNat,
      decimalDigits ip.c.toNat, decimalDigits ip.d.toNat] := by
  simp [chars]

/-- What holds of the decimal digits and the point holds of all characters of an address. -/
lemma of_mem_chars {p : Char → Prop} (hdigit : ∀ d < 10, p (Nat.digitChar d)) (hpoint : p '.')
    (ip : Ipv4) : ∀ c ∈ ip.chars, p c := by
  have hnumber : ∀ n, ∀ c ∈ decimalDigits n, p c := of_mem_toDigits (by decide) hdigit
  rw [chars_eq_intercalate]
  refine of_mem_intercalate (by simpa using hpoint) ?_
  simp only [List.forall_mem_cons]
  exact ⟨hnumber _, hnumber _, hnumber _, hnumber _, nofun⟩

/-- An octet is read from its digits. -/
lemma octet_decimalDigits (b : UInt8) : octet (decimalDigits b.toNat) = some b := by
  have hlt : b.toNat < 256 := b.toNat_lt
  have hlength : (decimalDigits b.toNat).length ≤ 3 :=
    (Nat.length_toDigits_le_iff (by decide) (by decide)).2 (by omega)
  have hzero : (decimalDigits b.toNat).head? = some '0' → (decimalDigits b.toNat).length = 1 :=
    fun hhead => congrArg List.length (decimalDigits_of_head? hhead)
  rw [octet, if_pos ⟨hlength, hzero⟩, readUpTo_decimalDigits (by omega), Option.map_some,
    UInt8.ofNat_toNat]

/-- An address is read back from its characters. -/
lemma parse_chars (ip : Ipv4) : parse ip.chars = some ip := by
  have hpoint : ∀ n, '.' ∉ decimalDigits n :=
    fun n hmem => absurd (isDigit_of_mem_decimalDigits hmem) (by decide)
  rw [parse, chars_eq_intercalate, pieces_intercalate (by simp) (by simp [hpoint])]
  simp [octet_decimalDigits]

/-- There is no address without points. -/
lemma parse_of_notMem {cs : List Char} (h : '.' ∉ cs) : parse cs = none := by
  rw [parse, pieces_of_notMem h]

/-- An address does not begin with a bracket. -/
lemma parse_bracket (cs : List Char) : parse ('[' :: cs) = none := by
  obtain ⟨first, rest, hpieces⟩ := List.exists_cons_of_ne_nil (pieces_ne_nil '.' cs)
  have hoctet : octet ('[' :: first) = none := by
    have hread : readUpTo 255 ('[' :: first) = none := by simp [readUpTo, readDecimal]
    simp [octet, hread]
  rw [parse, pieces_cons, if_neg (by decide), hpieces, extendFirst]
  split
  · rename_i hfour
    obtain ⟨rfl, -⟩ := List.cons.inj hfour
    simp [hoctet]
  · rfl

/-- A group is put together again from its two octets. -/
lemma group_of_octets (g : UInt16) : (g / 256).toUInt8.toUInt16 * 256 + g.toUInt8.toUInt16 = g := by
  have hlt := g.toNat_lt
  apply UInt16.toNat_inj.1
  simp only [UInt16.toUInt16_toUInt8, UInt16.toNat_add, UInt16.toNat_mul, UInt16.toNat_mod,
    UInt16.toNat_div, UInt16.reduceToNat, Nat.reducePow, Nat.mod_add_mod]
  omega

lemma high_ofGroups (high low : UInt16) : (ofGroups high low).high = high :=
  group_of_octets high

lemma low_ofGroups (high low : UInt16) : (ofGroups high low).low = low :=
  group_of_octets low

end Ipv4

/-! ## IPv6 addresses -/

namespace Ipv6

/-! ### Groups -/

/-- A group is read from its digits. -/
lemma group_hexDigits (g : UInt16) : group (hexDigits g.toNat) = some g := by
  have hlength : (hexDigits g.toNat).length ≤ 4 := length_hexDigits_le (by decide) g.toNat_lt
  rw [group, if_pos ⟨Nat.toDigits_ne_nil, hlength⟩, hexNumber_hexDigits, Option.map_some,
    UInt16.ofNat_toNat]

lemma notMem_hexDigits {c : Char} (h : ∀ d < 16, c ≠ Nat.digitChar d) (n : Nat) :
    c ∉ hexDigits n :=
  fun hmem => of_mem_toDigits (p := (c ≠ ·)) (by decide) h n c hmem rfl

/-- The digits of a group are no IPv4 address, so groups are read from their digits. -/
lemma groupsOf_hexDigits (embedded : Bool) (groups : List UInt16) :
    groupsOf embedded (groups.map fun g => hexDigits g.toNat) = some groups := by
  induction groups with
  | nil => rfl
  | cons g rest ih =>
    cases rest with
    | nil =>
      have hplain : Ipv4.parse (hexDigits g.toNat) = none :=
        Ipv4.parse_of_notMem (notMem_hexDigits (by decide) _)
      simp [groupsOf, hplain, group_hexDigits]
    | cons other rest =>
      rw [List.map_cons] at ih
      simp [groupsOf, ih, group_hexDigits]

lemma groupChars_cons_cons (g other : UInt16) (rest : List UInt16) :
    groupChars (g :: other :: rest) = hexDigits g.toNat ++ ':' :: groupChars (other :: rest) := by
  simp [groupChars]

/-- Groups begin with a digit. -/
lemma exists_groupChars_cons (g : UInt16) (rest : List UInt16) :
    ∃ c cs, groupChars (g :: rest) = c :: cs ∧ c ≠ ':' := by
  have hne : hexDigits g.toNat ≠ [] := Nat.toDigits_ne_nil
  obtain ⟨c, cs, hdigits⟩ := List.exists_cons_of_ne_nil hne
  have hc : c ≠ ':' := by
    rintro rfl
    exact notMem_hexDigits (by decide) g.toNat (hdigits ▸ List.mem_cons_self)
  cases rest with
  | nil => exact ⟨c, cs, by simp [groupChars, hdigits], hc⟩
  | cons other rest => exact ⟨c, _, by rw [groupChars_cons_cons, hdigits, List.cons_append], hc⟩

/-- The groups on one side of a gap are read from their characters. -/
lemma side_groupChars (embedded : Bool) (groups : List UInt16) :
    side embedded (groupChars groups) = some groups := by
  cases groups with
  | nil => rfl
  | cons g rest =>
    have hfree : ∀ part ∈ (g :: rest).map fun g => hexDigits g.toNat, ':' ∉ part := by
      intro part hpart
      obtain ⟨group, -, rfl⟩ := List.mem_map.1 hpart
      exact notMem_hexDigits (by decide) _
    have hsome : (groupChars (g :: rest)).isEmpty = false := by
      obtain ⟨c, cs, hchars, -⟩ := exists_groupChars_cons g rest
      rw [hchars, List.isEmpty_cons]
    rw [side, hsome, groupChars, pieces_intercalate (by simp) hfree]
    exact groupsOf_hexDigits embedded (g :: rest)

/-! ### The gap -/

/-- Characters without colons have no gap in them. -/
lemma cutGapFrom_append {cs : List Char} (h : ':' ∉ cs) (seen behind : List Char) :
    cutGapFrom seen (cs ++ behind) = cutGapFrom (cs.reverse ++ seen) behind := by
  induction cs generalizing seen with
  | nil => rfl
  | cons c cs ih =>
    have hc : c ≠ ':' := fun hc => h (hc ▸ List.mem_cons_self)
    rw [List.cons_append, cutGapFrom, if_neg fun hgap => hc hgap.1,
      ih fun hmem => h (List.mem_cons_of_mem c hmem)]
    simp

/-- Groups have no gap in them, and their last digit starts none. -/
lemma cutGapFrom_groupChars (groups : List UInt16) (seen behind : List Char) :
    cutGapFrom seen (groupChars groups ++ behind) =
      cutGapFrom ((groupChars groups).reverse ++ seen) behind := by
  induction groups generalizing seen with
  | nil => rfl
  | cons g rest ih =>
    have hg : ':' ∉ hexDigits g.toNat := notMem_hexDigits (by decide) _
    cases rest with
    | nil =>
      simp only [groupChars, List.map_cons, List.map_nil, List.intercalate_singleton]
      exact cutGapFrom_append hg seen behind
    | cons other rest =>
      -- the colon between two groups is followed by a digit
      have hnext : (groupChars (other :: rest) ++ behind).head? ≠ some ':' := by
        obtain ⟨c, cs, hchars, hc⟩ := exists_groupChars_cons other rest
        rw [hchars, List.cons_append, List.head?_cons]
        exact fun hhead => hc (Option.some.inj hhead)
      rw [groupChars_cons_cons, List.append_assoc, cutGapFrom_append hg, List.cons_append,
        cutGapFrom, if_neg fun hgap => hnext hgap.2, ih]
      simp

/-- The longest run of zero groups is a run of zero groups. -/
lemma longestRun_spec (start : Nat) (groups : List UInt16) :
    ∃ before behind,
      groups = before ++ List.replicate (longestRun start groups).2 0 ++ behind ∧
        (longestRun start groups).1 = start + before.length := by
  induction groups generalizing start with
  | nil => exact ⟨[], [], rfl, rfl⟩
  | cons g rest ih =>
    obtain ⟨before, behind, hgroups, hstart⟩ := ih (start + 1)
    rw [longestRun]
    by_cases hhere : (longestRun (start + 1) rest).2 ≤ zeroRun (g :: rest)
    -- either the run at the front is taken, or one that begins later
    · have hzeros : (g :: rest).takeWhile (· == 0) = List.replicate (zeroRun (g :: rest)) 0 := by
        refine List.eq_replicate_iff.2 ⟨rfl, fun other hother => ?_⟩
        simpa using List.mem_takeWhile_imp hother
      refine ⟨[], (g :: rest).dropWhile (· == 0), ?_, ?_⟩
      · simp only [hhere, if_true, List.nil_append, ← hzeros, List.takeWhile_append_dropWhile]
      · simp only [hhere, if_true, List.length_nil, Nat.add_zero]
    · refine ⟨g :: before, behind, ?_, ?_⟩
      · simp only [hhere, if_false, List.cons_append]
        exact congrArg (g :: ·) hgroups
      · simp only [hhere, if_false, hstart, List.length_cons]
        omega

/-! ### Whole addresses -/

lemma ofGroups?_toList (ip : Ipv6) : ofGroups? ip.groups.toList = some ip := by
  rw [ofGroups?, dif_pos ip.groups.length_toList]
  rfl

/-- An address is read from what stands on both sides of a gap. -/
lemma parse_of_cut {ip : Ipv6} {cs before after : List Char} {head tail : List UInt16} {zeros : Nat}
    (hcut : cutGapFrom [] cs = some (before, after)) (hhead : side false before = some head)
    (htail : side true after = some tail) (hpos : 0 < zeros)
    (hgroups : ip.groups.toList = head ++ List.replicate zeros 0 ++ tail) :
    parse cs = some ip := by
  have hlength := congrArg List.length hgroups
  rw [ip.groups.length_toList, List.length_append, List.length_append, List.length_replicate]
    at hlength
  -- as many groups are missing from eight as were left out
  have hzeros : 8 - (head.length + tail.length) = zeros := by omega
  have hknown : head.length + tail.length < 8 := by omega
  have hwhole : ofGroups? (head ++ List.replicate (8 - (head.length + tail.length)) 0 ++ tail) =
      some ip := by
    rw [hzeros, ← hgroups, ofGroups?_toList]
  rw [parse, hcut]
  simp only [hhead, htail, Option.bind_eq_bind, Option.bind_some, if_pos hknown, hwhole]

/-- An address is read back from its groups, with or without a gap. -/
lemma parse_compressed (ip : Ipv6) : parse ip.compressed = some ip := by
  obtain ⟨before, behind, hgroups, hstart⟩ := longestRun_spec 0 ip.groups.toList
  rw [Nat.zero_add] at hstart
  simp only [compressed]
  generalize longestRun 0 ip.groups.toList = run at hgroups hstart ⊢
  by_cases hlong : 1 < run.2
  · have htake : ip.groups.toList.take run.1 = before := by
      rw [hgroups, hstart, List.append_assoc, List.take_left]
    have hdrop : ip.groups.toList.drop (run.1 + run.2) = behind := by
      rw [hgroups]
      exact List.drop_left' (by simp [hstart])
    have hcut : cutGapFrom [] (groupChars before ++ [':', ':'] ++ groupChars behind) =
        some (groupChars before, groupChars behind) := by
      rw [List.append_assoc, cutGapFrom_groupChars]
      simp [cutGapFrom]
    rw [if_pos hlong, htake, hdrop]
    exact parse_of_cut hcut (side_groupChars _ _) (side_groupChars _ _) (by omega) hgroups
  · have hnone : cutGapFrom [] (groupChars ip.groups.toList) = none := by
      have hcut := cutGapFrom_groupChars ip.groups.toList [] []
      rwa [List.append_nil] at hcut
    rw [if_neg hlong, parse, hnone]
    simp [side_groupChars, ofGroups?_toList]

/-- An IPv4 address behind a group is read as two more groups. -/
lemma side_embedded (v4 : Ipv4) :
    side true ("ffff:".toList ++ v4.chars) = some [0xFFFF, v4.high, v4.low] := by
  have hcolon : ':' ∉ v4.chars := fun hmem =>
    v4.of_mem_chars (p := (':' ≠ ·)) (by decide) (by decide) ':' hmem rfl
  have hchars : "ffff:".toList ++ v4.chars =
      [':'].intercalate [['f', 'f', 'f', 'f'], v4.chars] := by
    simp
  have hgroup : group ['f', 'f', 'f', 'f'] = some 0xFFFF := by decide
  rw [side, hchars, pieces_intercalate (by simp) (by simpa using hcolon)]
  simp [groupsOf, hgroup, v4.parse_chars]

/-- An address that stands for an IPv4 address is read back from its characters. -/
lemma parse_mapped {ip : Ipv6} {v4 : Ipv4} (h : ip.mapped = some v4) :
    parse ("::ffff:".toList ++ v4.chars) = some ip := by
  unfold mapped at h
  split at h
  · rename_i high low hgroups
    cases h
    have hgap : ip.groups.toList = [] ++ List.replicate 5 0 ++ [0xFFFF, high, low] := hgroups
    have hside := side_embedded (.ofGroups high low)
    rw [Ipv4.high_ofGroups, Ipv4.low_ofGroups] at hside
    exact parse_of_cut rfl rfl hside (by decide) hgap
  · cases h

/-- An address is read back from its characters. -/
lemma parse_chars (ip : Ipv6) : parse ip.chars = some ip := by
  rw [chars]
  cases hmapped : ip.mapped with
  | none => exact ip.parse_compressed
  | some v4 => exact parse_mapped hmapped

/-- What holds of the hexadecimal digits, the colon and the point holds of all characters of an
address. -/
lemma of_mem_chars {p : Char → Prop} (hdigit : ∀ d < 16, p (Nat.digitChar d)) (hcolon : p ':')
    (hpoint : p '.') (ip : Ipv6) : ∀ c ∈ ip.chars, p c := by
  have hgroups : ∀ groups, ∀ c ∈ groupChars groups, p c := by
    intro groups
    refine of_mem_intercalate (by simpa using hcolon) fun part hpart => ?_
    obtain ⟨group, -, rfl⟩ := List.mem_map.1 hpart
    exact of_mem_toDigits (by decide) hdigit group.toNat
  unfold chars
  cases ip.mapped with
  | none =>
    simp only [compressed]
    split
    · simp only [List.forall_mem_append]
      exact ⟨⟨hgroups _, by simpa using hcolon⟩, hgroups _⟩
    · exact hgroups _
  | some v4 =>
    have hf : p 'f' := hdigit 15 (by decide)
    refine List.forall_mem_append.2 ⟨by simp [hcolon, hf], ?_⟩
    exact v4.of_mem_chars (fun d hd => hdigit d (by omega)) hpoint

end Ipv6

/-! ## Socket addresses -/

namespace SocketAddress

lemma of_mem_scopeChars {p : Char → Prop} (hdigit : ∀ d < 10, p (Nat.digitChar d))
    (hpercent : p '%') (scope : UInt32) : ∀ c ∈ scopeChars scope, p c := by
  unfold scopeChars
  split
  · exact nofun
  · exact List.forall_mem_cons.2 ⟨hpercent, of_mem_toDigits (by decide) hdigit _⟩

/-- What holds of the hexadecimal digits and the marks holds of all characters of an address. -/
lemma of_mem_chars {p : Char → Prop} (hdigit : ∀ d < 16, p (Nat.digitChar d))
    (hmark : ∀ c ∈ [':', '.', '%', '[', ']'], p c) (address : SocketAddress) :
    ∀ c ∈ address.chars, p c := by
  have hdecimal : ∀ d < 10, p (Nat.digitChar d) := fun d hd => hdigit d (by omega)
  have hport : ∀ port : UInt16, ∀ c ∈ decimalDigits port.toNat, p c :=
    fun port => of_mem_toDigits (by decide) hdecimal _
  simp only [List.forall_mem_cons] at hmark
  obtain ⟨hcolon, hpoint, hpercent, hopen, hclose, -⟩ := hmark
  cases address with
  | v4 ip port =>
    simp only [chars, List.forall_mem_append, List.forall_mem_cons]
    exact ⟨ip.of_mem_chars hdecimal hpoint, hcolon, hport port⟩
  | v6 ip port scope flow =>
    simp only [chars, List.forall_mem_append, List.forall_mem_cons]
    exact ⟨⟨⟨hopen, ip.of_mem_chars hdigit hcolon hpoint⟩,
      of_mem_scopeChars hdecimal hpercent scope⟩, hclose, hcolon, hport port⟩

lemma readPort_decimalDigits (port : UInt16) : readPort (decimalDigits port.toNat) = some port := by
  have hle : port.toNat ≤ max16 := Nat.le_of_lt_succ port.toNat_lt
  rw [readPort, readUpTo_decimalDigits hle, Option.map_some, UInt16.ofNat_toNat]

/-- A bracket begins no IPv4 address. -/
lemma parseV4_bracket (cs : List Char) : parseV4 ('[' :: cs) = none := by
  cases hcut : cutFirst ':' ('[' :: cs) with
  | none => simp [parseV4, hcut]
  | some cut =>
    obtain ⟨host, port⟩ := cut
    have hcs := eq_of_cutFirst hcut
    cases host with
    | nil => cases hcs
    | cons c host =>
      obtain ⟨rfl, -⟩ := List.cons.inj hcs
      simp [parseV4, hcut, Ipv4.parse_bracket]

/-- An address in brackets is read back with its scope. -/
lemma parseScoped_chars (ip : Ipv6) (scope : UInt32) :
    parseScoped (ip.chars ++ scopeChars scope) = some (ip, scope) := by
  have hpercent : '%' ∉ ip.chars := fun hmem =>
    ip.of_mem_chars (p := ('%' ≠ ·)) (by decide) (by decide) (by decide) '%' hmem rfl
  unfold scopeChars parseScoped
  by_cases hnone : scope = 0
  · rw [if_pos hnone, List.append_nil, cutFirst_eq_none hpercent]
    simp [ip.parse_chars, hnone]
  · have hle : scope.toNat ≤ max32 := Nat.le_of_lt_succ scope.toNat_lt
    rw [if_neg hnone, cutFirst_append hpercent]
    simp [ip.parse_chars, readUpTo_decimalDigits hle]

/-- A socket address without a flow label is read back from its text. -/
lemma parse_text {address : SocketAddress} (h : address.flow = 0) :
    parse address.text = some address := by
  rw [parse, text, String.toList_ofList]
  cases address with
  | v4 ip port =>
    have hcolon : ':' ∉ ip.chars := fun hmem =>
      ip.of_mem_chars (p := (':' ≠ ·)) (by decide) (by decide) ':' hmem rfl
    have hv4 : parseV4 (chars (.v4 ip port)) = some (.v4 ip port) := by
      rw [parseV4, chars, cutFirst_append hcolon]
      simp [ip.parse_chars, readPort_decimalDigits]
    simp only [hv4, Option.some_or]
  | v6 ip port scope flow =>
    obtain rfl : flow = 0 := h
    have hbracket : ']' ∉ ip.chars ++ scopeChars scope := by
      have hip : ∀ c ∈ ip.chars, ']' ≠ c :=
        ip.of_mem_chars (by decide) (by decide) (by decide)
      have hscope : ∀ c ∈ scopeChars scope, ']' ≠ c :=
        of_mem_scopeChars (by decide) (by decide) scope
      exact fun hmem => List.forall_mem_append.2 ⟨hip, hscope⟩ ']' hmem rfl
    have hv6 : parseV6 (chars (.v6 ip port scope 0)) = some (.v6 ip port scope 0) := by
      simp only [chars]
      rw [List.cons_append, List.cons_append, parseV6, cutFirst_append hbracket]
      simp [parseScoped_chars, readPort_decimalDigits]
    -- reading tries the other version first
    have hv4 : parseV4 (chars (.v6 ip port scope 0)) = none := parseV4_bracket _
    simp only [hv4, hv6, Option.none_or]

end SocketAddress

end CallDispatch
