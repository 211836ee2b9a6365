import LinkSense.NetAddr

/-!
# Addresses, written

What `std::net` writes for an address.  The longest run of zero groups of an IPv6 address, the first
of several, is left out where it has two groups or more, and an address that maps one of IPv4 ends
in that.

    what is written for an address is read as that address             (parseIpv4_text, parseIpv6_text)
    so a text is written for one address at most                                  (IpAddr.text_injective)
-/

namespace Net

open Scan

/-! ## Writing -/

/-- `Ipv4Addr`'s `Display`. -/
def Ipv4Addr.text (ip : Ipv4Addr) : List Char :=
  ['.'].intercalate ([ip.a, ip.b, ip.c, ip.d].map fun octet => Nat.toDigits 10 octet.toNat)

/-- A group in hexadecimal. -/
def groupText (group : UInt16) : List Char := Nat.toDigits 16 group.toNat

/-- `fmt_subslice`. -/
def groupsText (groups : List UInt16) : List Char := [':'].intercalate (groups.map groupText)

structure Span where
  start : Nat
  len : Nat
deriving DecidableEq, Repr

/-- The longest run of zeros, from the group at `i` on: the longest before, and the one that ends
there. -/
def zeroSpan (i : Nat) (longest current : Span) : List UInt16 → Span
  | [] => longest
  | group :: groups =>
    if group = 0 then
      let current : Span := ⟨if current.len = 0 then i else current.start, current.len + 1⟩
      zeroSpan (i + 1) (if current.len > longest.len then current else longest) current groups
    else zeroSpan (i + 1) longest ⟨0, 0⟩ groups

/-- `to_ipv4_mapped`. -/
def Ipv6Addr.toIpv4Mapped (ip : Ipv6Addr) : Option Ipv4Addr :=
  match ip.segments with
  | [0, 0, 0, 0, 0, 0xffff, ab, cd] =>
    some ⟨.ofNat (ab.toNat / 256), .ofNat (ab.toNat % 256), .ofNat (cd.toNat / 256),
      .ofNat (cd.toNat % 256)⟩
  | _ => none

/-- `Ipv6Addr`'s `Display`. -/
def Ipv6Addr.text (ip : Ipv6Addr) : List Char :=
  match ip.toIpv4Mapped with
  | some ipv4 => "::ffff:".toList ++ ipv4.text
  | none =>
    let zeroes := zeroSpan 0 ⟨0, 0⟩ ⟨0, 0⟩ ip.segments
    if zeroes.len > 1 then
      groupsText (ip.segments.take zeroes.start) ++
        ':' :: ':' :: groupsText (ip.segments.drop (zeroes.start + zeroes.len))
    else groupsText ip.segments

/-- `IpAddr`'s `Display`. -/
def IpAddr.text : IpAddr → List Char
  | .v4 ip => ip.text
  | .v6 ip => ip.text

/-! ## IPv4 -/

theorem parseOctet_toDigits_all :
    ∀ n, n < 256 → parseOctet (Nat.toDigits 10 n) = some (.ofNat n) := by
  decide +kernel

theorem parseOctet_toDigits (n : UInt8) : parseOctet (Nat.toDigits 10 n.toNat) = some n := by
  rw [parseOctet_toDigits_all n.toNat n.toNat_lt, UInt8.ofNat_toNat]

theorem parseIpv4_text (ip : Ipv4Addr) : parseIpv4 ip.text = some ip := by
  have hsplit : ip.text.splitOn '.' =
      [ip.a, ip.b, ip.c, ip.d].map fun octet => Nat.toDigits 10 octet.toNat := by
    refine List.splitOn_intercalate '.' ?_ (by simp)
    intro part hpart
    obtain ⟨octet, -, rfl⟩ := List.mem_map.1 hpart
    intro hdot
    exact absurd (Nat.isDigit_of_mem_toDigits (by omega) (by omega) hdot) (by decide)
  unfold parseIpv4
  rw [hsplit]
  simp only [List.map_cons, List.map_nil, parseOctet_toDigits]

/-! ## Groups -/

theorem hexDigit_digitChar :
    ∀ n, n < 16 → isHexDigit (Nat.digitChar n) = true ∧ hexDigit (Nat.digitChar n) = n := by
  decide

theorem isHexDigit_of_mem_toDigits (n : Nat) : ∀ c ∈ Nat.toDigits 16 n, isHexDigit c = true := by
  induction n using Nat.strongRecOn with
  | _ n ih =>
    intro c hc
    rw [Nat.toDigits_eq_if (by omega)] at hc
    split at hc
    · next hn =>
      obtain rfl := List.mem_singleton.1 hc
      exact (hexDigit_digitChar n hn).1
    · next hn =>
      rcases List.mem_append.1 hc with hc | hc
      · exact ih (n / 16) (by omega) c hc
      · obtain rfl := List.mem_singleton.1 hc
        exact (hexDigit_digitChar (n % 16) (by omega)).1

theorem hexadecimal_toDigits (n : Nat) : hexadecimal (Nat.toDigits 16 n) = n := by
  induction n using Nat.strongRecOn with
  | _ n ih =>
    unfold hexadecimal
    rw [Nat.toDigits_eq_if (by omega)]
    split
    · next hn =>
      rw [List.foldl_cons, List.foldl_nil, (hexDigit_digitChar n hn).2]
      omega
    · next hn =>
      have hprefix : (Nat.toDigits 16 (n / 16)).foldl (fun n c => 16 * n + hexDigit c) 0 = n / 16 :=
        ih (n / 16) (by omega)
      rw [List.foldl_append, hprefix, List.foldl_cons, List.foldl_nil,
        (hexDigit_digitChar (n % 16) (by omega)).2]
      omega

theorem parseGroup_text (group : UInt16) : parseGroup (groupText group) = some group := by
  have hlength : (groupText group).length ≤ 4 := by
    unfold groupText
    rw [Nat.length_toDigits_le_iff (by omega) (by omega)]
    exact group.toNat_lt
  have hall : (groupText group).all isHexDigit = true :=
    List.all_eq_true.2 (isHexDigit_of_mem_toDigits group.toNat)
  unfold parseGroup
  rw [if_pos ⟨Nat.toDigits_ne_nil, hlength, hall⟩]
  unfold groupText
  rw [hexadecimal_toDigits, UInt16.ofNat_toNat]

theorem not_colon_mem_groupText (group : UInt16) : ':' ∉ groupText group := by
  intro hcolon
  exact absurd (isHexDigit_of_mem_toDigits group.toNat ':' hcolon) (by decide)

theorem splitOn_groupsText {groups : List UInt16} (hne : groups ≠ []) :
    (groupsText groups).splitOn ':' = groups.map groupText := by
  refine List.splitOn_intercalate ':' ?_ (by simpa using hne)
  intro part hpart
  obtain ⟨group, -, rfl⟩ := List.mem_map.1 hpart
  exact not_colon_mem_groupText group

theorem groupsText_eq_nil_iff (groups : List UInt16) : groupsText groups = [] ↔ groups = [] := by
  unfold groupsText
  cases groups with
  | nil => simp
  | cons group groups =>
    cases groups with
    | nil => simp [groupText, Nat.toDigits_ne_nil]
    | cons next groups => simp

theorem parseGroups_map_text (groups : List UInt16) :
    parseGroups (groups.map groupText) = some groups := by
  induction groups with
  | nil => rfl
  | cons group groups ih =>
    cases groups with
    | nil => simp [parseGroups, parseGroup_text]
    | cons next groups =>
      have hrest : parseGroups (groupText next :: groups.map groupText) = some (next :: groups) := ih
      show parseGroups (groupText group :: groupText next :: groups.map groupText) = _
      rw [parseGroups, parseGroup_text, hrest]
      simp

theorem parseTail_text (groups : List UInt16) : parseTail (groupsText groups) = some groups := by
  unfold parseTail
  by_cases hne : groups = []
  · rw [if_pos ((groupsText_eq_nil_iff groups).2 hne), hne]
  · rw [if_neg (fun h => hne ((groupsText_eq_nil_iff groups).1 h)), splitOn_groupsText hne,
      parseGroups_map_text]

theorem parseHead_text (groups : List UInt16) : parseHead (groupsText groups) = some groups := by
  have hmap : ∀ groups : List UInt16, (groups.map groupText).mapM parseGroup = some groups := by
    intro groups
    induction groups with
    | nil => rfl
    | cons group groups ih =>
      rw [List.map_cons, List.mapM_cons, parseGroup_text, ih]
      rfl
  unfold parseHead
  by_cases hne : groups = []
  · rw [if_pos ((groupsText_eq_nil_iff groups).2 hne), hne]
  · rw [if_neg (fun h => hne ((groupsText_eq_nil_iff groups).1 h)), splitOn_groupsText hne, hmap]

/-! ## The double colon -/

theorem cutDouble_append {part : List Char} (hpart : ':' ∉ part) (rest : List Char) :
    cutDouble (part ++ rest) = (cutDouble rest).map fun p => (part ++ p.1, p.2) := by
  induction part with
  | nil => exact (Option.map_id' (x := cutDouble rest)).symm
  | cons c part ih =>
    have hc : c ≠ ':' := fun h => hpart (h ▸ List.mem_cons_self)
    have hcut : cutDouble (c :: (part ++ rest)) =
        (cutDouble (part ++ rest)).map fun p => (c :: p.1, p.2) := by
      rw [cutDouble]
      intro s hs
      exact absurd hs hc
    rw [List.cons_append, hcut, ih fun h => hpart (List.mem_cons_of_mem _ h), Option.map_map]
    rfl

theorem cutDouble_single {c : Char} (hc : c ≠ ':') (rest : List Char) :
    cutDouble (':' :: c :: rest) =
      (cutDouble (c :: rest)).map fun p => (':' :: p.1, p.2) := by
  rw [cutDouble]
  intro s _ hs
  exact absurd (List.cons.inj hs).1 hc

/-- Groups have no double colon, and do not end in a colon. -/
theorem cutDouble_groupsText (groups : List UInt16) (tail : List Char) :
    cutDouble (groupsText groups ++ tail) =
      (cutDouble tail).map fun p => (groupsText groups ++ p.1, p.2) := by
  unfold groupsText
  induction groups with
  | nil => exact (Option.map_id' (x := cutDouble tail)).symm
  | cons group groups ih =>
    cases groups with
    | nil =>
      rw [List.map_cons, List.map_nil, List.intercalate_singleton]
      exact cutDouble_append (not_colon_mem_groupText group) tail
    | cons next groups =>
      rw [List.map_cons] at ih ⊢
      rw [List.map_cons, List.intercalate_cons_cons, List.append_assoc, List.append_assoc,
        List.singleton_append, cutDouble_append (not_colon_mem_groupText group)]
      -- the next group begins with a digit
      have hnext : ∃ c rest, c ≠ ':' ∧
          [':'].intercalate (groupText next :: groups.map groupText) = c :: rest := by
        cases hdigits : groupText next with
        | nil => exact absurd hdigits Nat.toDigits_ne_nil
        | cons c digits =>
          refine ⟨c, _, ?_, List.intercalate_cons_cons_left⟩
          rintro rfl
          exact not_colon_mem_groupText next (hdigits ▸ List.mem_cons_self)
      obtain ⟨c, rest, hc, htext⟩ := hnext
      rw [htext] at ih ⊢
      rw [List.cons_append, cutDouble_single hc, ← List.cons_append, ih, Option.map_map,
        Option.map_map]
      refine congrArg (fun f => Option.map f _) ?_
      funext p
      simp

/-! ## Runs of zeros -/

/-- The groups of the span are zero. -/
def Span.Zeros (span : Span) (segments : List UInt16) : Prop :=
  ∀ j, span.start ≤ j → j < span.start + span.len → segments[j]? = some 0

/-- The invariant of the loop: both spans are of zeros, and the current one ends where it is. -/
theorem zeroSpan_zeros {before groups : List UInt16} {longest current : Span}
    (hlongest : longest.Zeros (before ++ groups)) (hcurrent : current.Zeros (before ++ groups))
    (hend : current.len = 0 ∨ current.start + current.len = before.length) :
    (zeroSpan before.length longest current groups).Zeros (before ++ groups) := by
  induction groups generalizing before longest current with
  | nil => exact hlongest
  | cons group groups ih =>
    have hassoc : before ++ group :: groups = (before ++ [group]) ++ groups := by simp
    have hlength : before.length + 1 = (before ++ [group]).length := by simp
    unfold zeroSpan
    by_cases hzero : group = 0
    · rw [if_pos hzero]
      dsimp only
      -- the run goes on, or begins
      have hgrown : Span.Zeros
          ⟨if current.len = 0 then before.length else current.start, current.len + 1⟩
          (before ++ group :: groups) := by
        intro j hj hj'
        by_cases hlast : j = before.length
        · rw [hlast, List.getElem?_append_right (le_refl _), Nat.sub_self, hzero]
          rfl
        · dsimp only at hj hj'
          rcases Nat.eq_zero_or_pos current.len with hrun | hrun
          · rw [if_pos hrun] at hj hj'
            omega
          · rw [if_neg (by omega)] at hj hj'
            exact hcurrent j hj (by omega)
      rw [hassoc, hlength]
      rw [hassoc] at hlongest hgrown
      refine ih ?_ hgrown (.inr ?_)
      · split
        · exact hgrown
        · exact hlongest
      · dsimp only
        rw [← hlength]
        split
        · omega
        · omega
    · rw [if_neg hzero, hassoc, hlength]
      rw [hassoc] at hlongest
      exact ih hlongest (fun j hj hj' => absurd hj' (by dsimp only at hj ⊢; omega)) (.inl rfl)

/-- Groups with a run of zeros in the middle. -/
theorem Span.Zeros.split {span : Span} {segments : List UInt16} (h : span.Zeros segments)
    (hlen : 0 < span.len) : span.start + span.len ≤ segments.length ∧
      segments.take span.start ++ List.replicate span.len 0 ++
        segments.drop (span.start + span.len) = segments := by
  have hle : span.start + span.len ≤ segments.length := by
    have hlast := h (span.start + span.len - 1) (by omega) (by omega)
    have := (List.getElem?_eq_some_iff.1 hlast).1
    omega
  refine ⟨hle, ?_⟩
  have hmiddle : List.replicate span.len 0 = (segments.drop span.start).take span.len := by
    refine (List.eq_replicate_iff.2 ⟨?_, fun g hg => ?_⟩).symm
    · rw [List.length_take, List.length_drop]
      omega
    · obtain ⟨j, hj, rfl⟩ := List.getElem_of_mem hg
      have hj' : j < span.len := by
        rw [List.length_take] at hj
        omega
      have hat := h (span.start + j) (by omega) (by omega)
      rw [List.getElem_take, List.getElem_drop]
      exact (List.getElem?_eq_some_iff.1 hat).2
  rw [hmiddle, List.append_assoc, ← List.drop_drop, List.take_append_drop, List.take_append_drop]

/-! ## IPv6 -/

theorem Ipv6Addr.segments_of_mapped {ip : Ipv6Addr} {ipv4 : Ipv4Addr}
    (h : ip.toIpv4Mapped = some ipv4) :
    ip.segments = [0, 0, 0, 0, 0, 0xffff, .ofNat (256 * ipv4.a.toNat + ipv4.b.toNat),
      .ofNat (256 * ipv4.c.toNat + ipv4.d.toNat)] := by
  have hbytes : ∀ g : UInt16, UInt16.ofNat (256 * (UInt8.ofNat (g.toNat / 256)).toNat +
      (UInt8.ofNat (g.toNat % 256)).toNat) = g := by
    intro g
    have hg := g.toNat_lt
    rw [UInt8.toNat_ofNat', UInt8.toNat_ofNat', Nat.mod_eq_of_lt (by omega),
      Nat.mod_eq_of_lt (by omega), Nat.div_add_mod, UInt16.ofNat_toNat]
  unfold toIpv4Mapped at h
  split at h
  · next ab cd hsegments =>
    obtain rfl := Option.some.inj h
    rw [hsegments]
    dsimp only
    rw [hbytes, hbytes]
  · cases h

/-- An address that maps one of IPv4. -/
theorem parseIpv6_mapped {ip : Ipv6Addr} {ipv4 : Ipv4Addr} (h : ip.toIpv4Mapped = some ipv4) :
    parseIpv6 ("::ffff:".toList ++ ipv4.text) = some ip := by
  have hnodot : ':' ∉ ipv4.text := not_colon_mem_of_parseIpv4 (parseIpv4_text ipv4)
  have hsplit : ("ffff:".toList ++ ipv4.text).splitOn ':' = ["ffff".toList, ipv4.text] := by
    have hjoin : "ffff:".toList ++ ipv4.text = [':'].intercalate ["ffff".toList, ipv4.text] := by
      simp
    rw [hjoin]
    refine List.splitOn_intercalate ':' ?_ (by simp)
    intro part hpart
    rcases List.mem_cons.1 hpart with rfl | hpart
    · decide
    · obtain rfl := List.mem_singleton.1 hpart
      exact hnodot
  have hgroup : parseGroup ipv4.text = none := by
    have hdot : '.' ∈ ipv4.text := by simp [Ipv4Addr.text]
    unfold parseGroup
    rw [if_neg]
    rintro ⟨-, -, hall⟩
    exact absurd (List.all_eq_true.1 hall '.' hdot) (by decide)
  have htail : parseTail ("ffff:".toList ++ ipv4.text) =
      some [0xffff, .ofNat (256 * ipv4.a.toNat + ipv4.b.toNat),
        .ofNat (256 * ipv4.c.toNat + ipv4.d.toNat)] := by
    unfold parseTail
    rw [if_neg (by simp), hsplit]
    have hlast : parseGroups [ipv4.text] = some [.ofNat (256 * ipv4.a.toNat + ipv4.b.toNat),
        .ofNat (256 * ipv4.c.toNat + ipv4.d.toNat)] := by
      unfold parseGroups parseIpv4Groups
      rw [hgroup, parseIpv4_text]
      rfl
    rw [parseGroups, hlast]
    · rfl
    · simp
  unfold parseIpv6
  have hcut : cutDouble ("::ffff:".toList ++ ipv4.text) = some ([], "ffff:".toList ++ ipv4.text) :=
    rfl
  rw [hcut]
  dsimp only
  rw [htail]
  have hsegments := ip.segments_of_mapped h
  obtain ⟨segments, hlength⟩ := ip
  dsimp only at hsegments
  subst hsegments
  rfl

/-- An address whose longest run of zeros is left out. -/
theorem parseIpv6_spanned {ip : Ipv6Addr} {span : Span} (hzeros : span.Zeros ip.segments)
    (hlen : 1 < span.len) :
    parseIpv6 (groupsText (ip.segments.take span.start) ++
      ':' :: ':' :: groupsText (ip.segments.drop (span.start + span.len))) = some ip := by
  obtain ⟨hle, hsplit⟩ := hzeros.split (by omega)
  have hlength := ip.length_eq
  unfold parseIpv6
  rw [cutDouble_groupsText]
  have hcut : ∀ rest, cutDouble (':' :: ':' :: rest) = some ([], rest) := fun _ => rfl
  rw [hcut]
  dsimp only [Option.map_some]
  rw [List.append_nil, parseHead_text, parseTail_text]
  dsimp only
  have hhead : (ip.segments.take span.start).length = span.start := by
    rw [List.length_take]
    omega
  have htail : (ip.segments.drop (span.start + span.len)).length = 8 - (span.start + span.len) := by
    rw [List.length_drop, hlength]
  unfold expand
  rw [dif_pos (by omega)]
  congr
  rw [hhead, htail]
  have hmiddle : 8 - span.start - (8 - (span.start + span.len)) = span.len := by omega
  rw [hmiddle]
  exact hsplit

theorem parseIpv6_text (ip : Ipv6Addr) : parseIpv6 ip.text = some ip := by
  unfold Ipv6Addr.text
  cases hmapped : ip.toIpv4Mapped with
  | some ipv4 => exact parseIpv6_mapped hmapped
  | none =>
    dsimp only
    split
    · next hlen =>
      have hnone : Span.Zeros ⟨0, 0⟩ ip.segments := fun j _ hj => absurd hj (Nat.not_lt_zero j)
      have hzeros : Span.Zeros (zeroSpan ([] : List UInt16).length ⟨0, 0⟩ ⟨0, 0⟩ ip.segments)
          ([] ++ ip.segments) := zeroSpan_zeros hnone hnone (.inl rfl)
      exact parseIpv6_spanned hzeros hlen
    · -- all groups are there
      have hne : ip.segments ≠ [] := by
        intro hnil
        have := ip.length_eq
        rw [hnil] at this
        cases this
      have hcut : cutDouble (groupsText ip.segments) = none := by
        rw [← List.append_nil (groupsText ip.segments), cutDouble_groupsText]
        rfl
      unfold parseIpv6
      rw [hcut]
      dsimp only
      rw [splitOn_groupsText hne, parseGroups_map_text]
      dsimp only
      rw [dif_pos ip.length_eq]

/-! ## Results -/

/-- **What is written for an address is read as that address.** -/
theorem parseIp_text (ip : IpAddr) : parseIp ip.text = some ip := by
  unfold parseIp
  cases ip with
  | v4 ip =>
    show ((parseIpv4 ip.text).map IpAddr.v4).or _ = _
    rw [parseIpv4_text]
    rfl
  | v6 ip =>
    -- two colons are in no address of IPv4
    have hnot : parseIpv4 ip.text = none := by
      by_contra hsome
      obtain ⟨ipv4, hipv4⟩ := Option.ne_none_iff_exists'.1 hsome
      have hcount := two_le_count_colon (parseIpv6_text ip)
      exact not_colon_mem_of_parseIpv4 hipv4 (List.count_pos_iff.1 (by omega))
    show ((parseIpv4 ip.text).map IpAddr.v4).or ((parseIpv6 ip.text).map IpAddr.v6) = _
    rw [hnot, parseIpv6_text]
    rfl

theorem IpAddr.text_injective : Function.Injective IpAddr.text := by
  intro ip ip' h
  have hread := parseIp_text ip
  rw [h, parseIp_text] at hread
  exact (Option.some.inj hread).symm

end Net
