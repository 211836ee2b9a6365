import LinkSense.Scan

/-!
# Addresses as text

`std::net`: what is read as an IPv4 or an IPv6 address, as a socket address, and what is looked up.

    s is a socket address ↔ it is an IPv4 address with a port, or an IPv6 address in brackets with
      one                                                     (parseSocketAddr_isSome_iff)
    an IPv4 address has no colon, an IPv6 address two, and no bracket
                                              (not_colon_mem_of_parseIpv4, two_le_count_colon)
-/

namespace Net

open Scan

/-! ## Addresses -/

structure Ipv4Addr where
  a : UInt8
  b : UInt8
  c : UInt8
  d : UInt8
deriving DecidableEq, Repr

structure Ipv6Addr where
  segments : List UInt16
  length_eq : segments.length = 8
deriving DecidableEq, Repr

inductive IpAddr where
  | v4 (ip : Ipv4Addr)
  | v6 (ip : Ipv6Addr)
deriving DecidableEq, Repr

structure SocketAddr where
  ip : IpAddr
  port : UInt16
  /-- The scope of an IPv6 address. -/
  scopeId : UInt32
deriving DecidableEq, Repr

/-! ## Reading them -/

/-- Three digits at most, and no zero in front of others. -/
def parseOctet (s : List Char) : Option UInt8 :=
  if s ≠ [] ∧ s.length ≤ 3 ∧ s.all Char.isDigit ∧ (s.head? = some '0' → s.length = 1) ∧
      decimal s < 256 then
    some (.ofNat (decimal s))
  else none

/-- `Ipv4Addr::from_str`. -/
def parseIpv4 (s : List Char) : Option Ipv4Addr :=
  match s.splitOn '.' with
  | [a, b, c, d] =>
    match parseOctet a, parseOctet b, parseOctet c, parseOctet d with
    | some a, some b, some c, some d => some ⟨a, b, c, d⟩
    | _, _, _, _ => none
  | _ => none

/-- Four hexadecimal digits at most. -/
def parseGroup (s : List Char) : Option UInt16 :=
  if s ≠ [] ∧ s.length ≤ 4 ∧ s.all isHexDigit then some (.ofNat (hexadecimal s)) else none

/-- An IPv4 address in the place of the last two groups. -/
def parseIpv4Groups (s : List Char) : Option (List UInt16) :=
  (parseIpv4 s).map fun ip =>
    [.ofNat (256 * ip.a.toNat + ip.b.toNat), .ofNat (256 * ip.c.toNat + ip.d.toNat)]

def parseGroups : List (List Char) → Option (List UInt16)
  | [] => some []
  | [last] => ((parseGroup last).map fun group => [group]).or (parseIpv4Groups last)
  | first :: rest =>
    match parseGroup first, parseGroups rest with
    | some group, some groups => some (group :: groups)
    | _, _ => none

/-- Before and after the first `::`. -/
def cutDouble : List Char → Option (List Char × List Char)
  | ':' :: ':' :: s => some ([], s)
  | c :: s => (cutDouble s).map fun p => (c :: p.1, p.2)
  | [] => none

/-- Groups before `::`, where no IPv4 address is. -/
def parseHead (s : List Char) : Option (List UInt16) :=
  if s = [] then some [] else (s.splitOn ':').mapM parseGroup

/-- Groups after `::`. -/
def parseTail (s : List Char) : Option (List UInt16) :=
  if s = [] then some [] else parseGroups (s.splitOn ':')

/-- One group at least is left out where `::` is. -/
def expand (head tail : List UInt16) : Option Ipv6Addr :=
  if h : head.length + tail.length ≤ 7 then
    some ⟨head ++ List.replicate (8 - head.length - tail.length) 0 ++ tail, by
      simp only [List.length_append, List.length_replicate]
      omega⟩
  else none

/-- `Ipv6Addr::from_str`. -/
def parseIpv6 (s : List Char) : Option Ipv6Addr :=
  match cutDouble s with
  | some (head, tail) =>
    match parseHead head, parseTail tail with
    | some head, some tail => expand head tail
    | _, _ => none
  | none =>
    match parseGroups (s.splitOn ':') with
    | some groups => if h : groups.length = 8 then some ⟨groups, h⟩ else none
    | none => none

/-- `IpAddr::from_str`. -/
def parseIp (s : List Char) : Option IpAddr :=
  ((parseIpv4 s).map .v4).or ((parseIpv6 s).map .v6)

/-- Digits of a number below `2 ^ bits`. -/
def parseBits (bits : Nat) (s : List Char) : Option Nat :=
  if s ≠ [] ∧ s.all Char.isDigit ∧ decimal s < 2 ^ bits then some (decimal s) else none

def parsePort (s : List Char) : Option UInt16 := (parseBits 16 s).map UInt16.ofNat

/-- `SocketAddrV4::from_str`. -/
def parseSocketAddrV4 (s : List Char) : Option SocketAddr :=
  match cutFirst ':' s with
  | some (ip, port) =>
    match parseIpv4 ip, parsePort port with
    | some ip, some port => some ⟨.v4 ip, port, 0⟩
    | _, _ => none
  | none => none

/-- What is between the brackets: an address, and perhaps its scope. -/
def parseScoped (s : List Char) : Option (Ipv6Addr × UInt32) :=
  match cutFirst '%' s with
  | some (ip, scope) =>
    match parseIpv6 ip, parseBits 32 scope with
    | some ip, some scope => some (ip, .ofNat scope)
    | _, _ => none
  | none => (parseIpv6 s).map (·, 0)

/-- `SocketAddrV6::from_str`. -/
def parseSocketAddrV6 (s : List Char) : Option SocketAddr :=
  match s with
  | '[' :: rest =>
    match cutFirst ']' rest with
    | some (inside, ':' :: port) =>
      match parseScoped inside, parsePort port with
      | some (ip, scope), some port => some ⟨.v6 ip, port, scope⟩
      | _, _ => none
    | _ => none
  | _ => none

/-- `SocketAddr::from_str`. -/
def parseSocketAddr (s : List Char) : Option SocketAddr :=
  (parseSocketAddrV4 s).or (parseSocketAddrV6 s)

/-- `u16::from_str`, which takes a plus sign. -/
def parseU16 (s : List Char) : Option UInt16 :=
  match s with
  | '+' :: digits => parsePort digits
  | _ => parsePort s

/-- `to_socket_addrs`: what is no address is a host, which is looked up, and a port. -/
def toSocketAddrs (lookup : List Char → UInt16 → Except String (List SocketAddr))
    (s : List Char) : Except String (List SocketAddr) :=
  match parseSocketAddr s with
  | some addr => .ok [addr]
  | none =>
    match cutLast ':' s with
    | none => .error "invalid socket address"
    | some (host, port) =>
      match parseU16 port with
      | none => .error "invalid port value"
      | some port => lookup host port

/-! ## What their texts are made of -/

theorem isHexDigit_of_isDigit {c : Char} (h : c.isDigit = true) : isHexDigit c = true := by
  simp [isHexDigit, h]

theorem parseOctet_digits {s : List Char} {n : UInt8} (h : parseOctet s = some n) :
    ∀ c ∈ s, c.isDigit = true := by
  unfold parseOctet at h
  split_ifs at h with hs
  exact List.all_eq_true.1 hs.2.2.1

theorem parseIpv4_chars {s : List Char} {ip : Ipv4Addr} (h : parseIpv4 s = some ip) :
    ∀ c ∈ s, c.isDigit = true ∨ c = '.' := by
  unfold parseIpv4 at h
  split at h
  · next a b c d hs =>
    split at h
    · next ha hb hc hd =>
      refine forall_mem_of_splitOn (x := '.') (.inr rfl) fun w hw e he => .inl ?_
      rw [hs] at hw
      simp only [List.mem_cons, List.not_mem_nil, or_false] at hw
      rcases hw with rfl | rfl | rfl | rfl
      · exact parseOctet_digits ha e he
      · exact parseOctet_digits hb e he
      · exact parseOctet_digits hc e he
      · exact parseOctet_digits hd e he
    · cases h
  · cases h

theorem not_colon_mem_of_parseIpv4 {s : List Char} {ip : Ipv4Addr} (h : parseIpv4 s = some ip) :
    ':' ∉ s := by
  intro hmem
  exact absurd (parseIpv4_chars h ':' hmem) (by decide)

/-- A character of an IPv6 address. -/
def isIpv6Char (c : Char) : Bool := isHexDigit c || c == ':' || c == '.'

theorem parseGroup_chars {s : List Char} {g : UInt16} (h : parseGroup s = some g) :
    ∀ c ∈ s, isIpv6Char c = true := by
  unfold parseGroup at h
  split_ifs at h with hs
  intro c hc
  simp [isIpv6Char, List.all_eq_true.1 hs.2.2 c hc]

theorem parseIpv4Groups_chars {s : List Char} {g : List UInt16} (h : parseIpv4Groups s = some g) :
    ∀ c ∈ s, isIpv6Char c = true := by
  obtain ⟨ip, hip, -⟩ := Option.map_eq_some_iff.1 h
  intro c hc
  rcases parseIpv4_chars hip c hc with hd | rfl
  · simp [isIpv6Char, isHexDigit_of_isDigit hd]
  · rfl

theorem parseGroups_chars {l : List (List Char)} {g : List UInt16} (h : parseGroups l = some g) :
    ∀ s ∈ l, ∀ c ∈ s, isIpv6Char c = true := by
  fun_induction parseGroups l generalizing g with
  | case1 => simp
  | case2 last =>
    rw [List.forall_mem_singleton]
    cases hlast : parseGroup last with
    | some group => exact parseGroup_chars hlast
    | none =>
      rw [hlast] at h
      exact parseIpv4Groups_chars h
  | case3 first rest hrest group groups hfirst hgroups ih =>
    rw [List.forall_mem_cons]
    exact ⟨parseGroup_chars hgroups, ih hfirst⟩
  | case4 => cases h

theorem parseTail_chars {s : List Char} {g : List UInt16} (h : parseTail s = some g) :
    ∀ c ∈ s, isIpv6Char c = true := by
  unfold parseTail at h
  split_ifs at h with hs
  · simp [hs]
  · exact forall_mem_of_splitOn rfl (parseGroups_chars h)

theorem exists_eq_some_of_mapM {α β : Type*} {f : α → Option β} {l : List α} {r : List β}
    (h : l.mapM f = some r) : ∀ x ∈ l, ∃ y, f x = some y := by
  induction l generalizing r with
  | nil => simp
  | cons x l ih =>
    rw [List.mapM_cons] at h
    obtain ⟨y, hy, hrest⟩ := Option.bind_eq_some_iff.1 h
    obtain ⟨ys, hys, -⟩ := Option.bind_eq_some_iff.1 hrest
    rw [List.forall_mem_cons]
    exact ⟨⟨y, hy⟩, ih hys⟩

theorem parseHead_chars {s : List Char} {g : List UInt16} (h : parseHead s = some g) :
    ∀ c ∈ s, isIpv6Char c = true := by
  unfold parseHead at h
  split_ifs at h with hs
  · simp [hs]
  · refine forall_mem_of_splitOn (x := ':') rfl fun w hw => ?_
    obtain ⟨g, hg⟩ := exists_eq_some_of_mapM h w hw
    exact parseGroup_chars hg

theorem cutDouble_eq_some {s : List Char} {p : List Char × List Char} (h : cutDouble s = some p) :
    s = p.1 ++ ':' :: ':' :: p.2 := by
  fun_induction cutDouble s generalizing p with
  | case1 s =>
    obtain rfl := Option.some.inj h
    rfl
  | case2 c s hs ih =>
    obtain ⟨q, hq, rfl⟩ := Option.map_eq_some_iff.1 h
    rw [List.cons_append, ← ih hq]
  | case3 => cases h

theorem parseIpv6_chars {s : List Char} {ip : Ipv6Addr} (h : parseIpv6 s = some ip) :
    ∀ c ∈ s, isIpv6Char c = true := by
  unfold parseIpv6 at h
  split at h
  · next head tail hs =>
    rw [cutDouble_eq_some hs, List.forall_mem_append, List.forall_mem_cons, List.forall_mem_cons]
    split at h
    · next hhead htail => exact ⟨parseHead_chars hhead, rfl, rfl, parseTail_chars htail⟩
    · cases h
  · split at h
    · next groups hs => exact forall_mem_of_splitOn rfl (parseGroups_chars hs)
    · cases h

/-- There is a group for each part, and two for an IPv4 address. -/
theorem length_parseGroups_le {l : List (List Char)} {g : List UInt16}
    (h : parseGroups l = some g) : g.length ≤ l.length + 1 := by
  fun_induction parseGroups l generalizing g with
  | case1 =>
    obtain rfl := Option.some.inj h
    simp
  | case2 last =>
    cases hlast : parseGroup last with
    | some group =>
      rw [hlast] at h
      obtain rfl := Option.some.inj h
      simp
    | none =>
      rw [hlast] at h
      obtain ⟨ip, -, rfl⟩ := Option.map_eq_some_iff.1 h
      simp
  | case3 first rest hrest group groups hfirst hgroups ih =>
    obtain rfl := Option.some.inj h
    have := ih hfirst
    simp only [List.length_cons]
    omega
  | case4 => cases h

theorem two_le_count_colon {s : List Char} {ip : Ipv6Addr} (h : parseIpv6 s = some ip) :
    2 ≤ s.count ':' := by
  unfold parseIpv6 at h
  split at h
  · next head tail hs =>
    rw [cutDouble_eq_some hs]
    simp only [List.count_append, List.count_cons_self]
    omega
  · split at h
    · next groups hs =>
      split_ifs at h with hlength
      have hgroups := length_parseGroups_le hs
      have hparts := length_splitOn_le ':' s
      omega
    · cases h

/-! ## Socket addresses -/

/-- What a socket address is written as. -/
inductive SocketText : List Char → SocketAddr → Prop where
  | v4 {ip port : List Char} {a : Ipv4Addr} {p : UInt16} (hip : parseIpv4 ip = some a)
    (hport : parsePort port = some p) : SocketText (ip ++ ':' :: port) ⟨.v4 a, p, 0⟩
  | v6 {inside port : List Char} {a : Ipv6Addr} {scope : UInt32} {p : UInt16}
    (hinside : parseScoped inside = some (a, scope)) (hport : parsePort port = some p) :
    SocketText ('[' :: inside ++ ']' :: ':' :: port) ⟨.v6 a, p, scope⟩

theorem parsePort_digits {s : List Char} {p : UInt16} (h : parsePort s = some p) :
    ∀ c ∈ s, c.isDigit = true := by
  obtain ⟨n, hn, -⟩ := Option.map_eq_some_iff.1 h
  unfold parseBits at hn
  split_ifs at hn with hs
  exact List.all_eq_true.1 hs.2.1

theorem not_bracket_mem_of_parseScoped {s : List Char} {p : Ipv6Addr × UInt32}
    (h : parseScoped s = some p) : ']' ∉ s := by
  have hip : ∀ {s : List Char} {ip : Ipv6Addr}, parseIpv6 s = some ip → ']' ∉ s := by
    intro s ip h hmem
    exact absurd (parseIpv6_chars h ']' hmem) (by decide)
  unfold parseScoped at h
  split at h
  · next ip scope hs =>
    split at h
    · next a n ha hn =>
      unfold parseBits at hn
      split_ifs at hn with hdigits
      intro hmem
      rw [cutFirst_eq_some hs, List.mem_append, List.mem_cons] at hmem
      rcases hmem with hmem | heq | hmem
      · exact hip ha hmem
      · exact absurd heq (by decide)
      · exact absurd (List.all_eq_true.1 hdigits.2.1 ']' hmem) (by decide)
    · cases h
  · obtain ⟨ip, hs, -⟩ := Option.map_eq_some_iff.1 h
    exact hip hs

theorem parseSocketAddrV4_eq_some {s : List Char} {addr : SocketAddr}
    (h : parseSocketAddrV4 s = some addr) : SocketText s addr := by
  unfold parseSocketAddrV4 at h
  split at h
  · next ip port hs =>
    split at h
    · next a p ha hp =>
      obtain rfl := Option.some.inj h
      rw [cutFirst_eq_some hs]
      exact .v4 ha hp
    · cases h
  · cases h

theorem parseSocketAddrV6_eq_some {s : List Char} {addr : SocketAddr}
    (h : parseSocketAddrV6 s = some addr) : SocketText s addr := by
  unfold parseSocketAddrV6 at h
  split at h
  · next rest =>
    split at h
    · next inside port hs =>
      split at h
      · next a scope p ha hp =>
        obtain rfl := Option.some.inj h
        rw [cutFirst_eq_some hs, ← List.cons_append]
        exact .v6 ha hp
      · cases h
    · cases h
  · cases h

theorem parseSocketAddrV4_text {ip port : List Char} {a : Ipv4Addr} {p : UInt16}
    (hip : parseIpv4 ip = some a) (hport : parsePort port = some p) :
    parseSocketAddrV4 (ip ++ ':' :: port) = some ⟨.v4 a, p, 0⟩ := by
  unfold parseSocketAddrV4
  simp only [cutFirst_append (not_colon_mem_of_parseIpv4 hip), hip, hport]

theorem parseSocketAddrV6_text {inside port : List Char} {a : Ipv6Addr} {scope : UInt32}
    {p : UInt16} (hinside : parseScoped inside = some (a, scope))
    (hport : parsePort port = some p) :
    parseSocketAddrV6 ('[' :: inside ++ ']' :: ':' :: port) = some ⟨.v6 a, p, scope⟩ := by
  unfold parseSocketAddrV6
  simp only [List.cons_append, cutFirst_append (not_bracket_mem_of_parseScoped hinside), hinside,
    hport]

/-- A bracket is in no IPv4 address. -/
theorem parseSocketAddrV4_bracket (s : List Char) : parseSocketAddrV4 ('[' :: s) = none := by
  cases h : parseSocketAddrV4 ('[' :: s) with
  | none => rfl
  | some addr =>
    unfold parseSocketAddrV4 at h
    split at h
    · next ip port hs =>
      split at h
      · next a p ha hp =>
        have hcut : '[' :: s = ip ++ ':' :: port := cutFirst_eq_some hs
        cases ip with
        | nil => simp at hcut
        | cons c ip =>
          obtain rfl : '[' = c := (List.cons.inj hcut).1
          exact absurd (parseIpv4_chars ha '[' List.mem_cons_self) (by decide)
      · cases h
    · cases h

/-- **What is read as a socket address**. -/
theorem parseSocketAddr_eq_some_iff {s : List Char} {addr : SocketAddr} :
    parseSocketAddr s = some addr ↔ SocketText s addr := by
  unfold parseSocketAddr
  constructor
  · intro h
    rcases Option.or_eq_some_iff.1 h with h4 | ⟨-, h6⟩
    · exact parseSocketAddrV4_eq_some h4
    · exact parseSocketAddrV6_eq_some h6
  · intro h
    cases h with
    | v4 hip hport =>
      rw [parseSocketAddrV4_text hip hport]
      rfl
    | v6 hinside hport =>
      rw [parseSocketAddrV6_text hinside hport, List.cons_append, parseSocketAddrV4_bracket]
      rfl

/-- An IPv6 address needs brackets. -/
theorem not_socketText_of_two_colons {s : List Char} (hcount : 2 ≤ s.count ':')
    (hbracket : '[' ∉ s) (addr : SocketAddr) : ¬ SocketText s addr := by
  intro h
  cases h with
  | @v4 ip port a p hip hport =>
    have hports : ':' ∉ port := fun hmem => absurd (parsePort_digits hport ':' hmem) (by decide)
    rw [List.count_append, List.count_cons_self, List.count_eq_zero.2 hports,
      List.count_eq_zero.2 (not_colon_mem_of_parseIpv4 hip)] at hcount
    omega
  | v6 hinside hport => simp at hbracket

theorem not_bracket_mem_of_parseIpv6 {s : List Char} {ip : Ipv6Addr} (h : parseIpv6 s = some ip) :
    '[' ∉ s ∧ ']' ∉ s ∧ '%' ∉ s := by
  have hno : ∀ c, isIpv6Char c = false → c ∉ s := by
    intro c hc hmem
    rw [parseIpv6_chars h c hmem] at hc
    cases hc
  exact ⟨hno _ rfl, hno _ rfl, hno _ rfl⟩

theorem parseScoped_of_parseIpv6 {s : List Char} {ip : Ipv6Addr} (h : parseIpv6 s = some ip) :
    parseScoped s = some (ip, 0) := by
  unfold parseScoped
  simp only [cutFirst_eq_none (not_bracket_mem_of_parseIpv6 h).2.2, h, Option.map_some]

theorem two_le_count_colon_of_parseScoped {s : List Char} {p : Ipv6Addr × UInt32}
    (h : parseScoped s = some p) : 2 ≤ s.count ':' := by
  unfold parseScoped at h
  split at h
  · next ip scope hs =>
    split at h
    · next a n ha hn =>
      have := two_le_count_colon ha
      rw [cutFirst_eq_some hs, List.count_append]
      omega
    · cases h
  · obtain ⟨ip, hs, -⟩ := Option.map_eq_some_iff.1 h
    exact two_le_count_colon hs

theorem colon_mem_of_socketText {s : List Char} {addr : SocketAddr} (h : SocketText s addr) :
    ':' ∈ s := by
  cases h with
  | v4 hip hport => simp
  | v6 hinside hport => simp

/-- A socket address with one colon is an IPv4 address with a port. -/
theorem exists_ipv4_of_socketText {s port : List Char} {addr : SocketAddr} (hs : ':' ∉ s)
    (hport : ':' ∉ port) (h : SocketText (s ++ ':' :: port) addr) :
    ∃ ip, parseIpv4 s = some ip := by
  have hone : (s ++ ':' :: port).count ':' = 1 := by
    rw [List.count_append, List.count_cons_self, List.count_eq_zero.2 hs,
      List.count_eq_zero.2 hport]
  generalize ht : s ++ ':' :: port = t at h hone
  cases h with
  | @v4 ip port' a p hip hport' =>
    have hcut := congrArg (cutFirst ':') ht
    rw [cutFirst_append hs, cutFirst_append (not_colon_mem_of_parseIpv4 hip)] at hcut
    rw [(Prod.mk.inj (Option.some.inj hcut)).1]
    exact ⟨a, hip⟩
  | v6 hinside hport' =>
    have := two_le_count_colon_of_parseScoped hinside
    simp only [List.cons_append, List.count_append, List.count_cons] at hone
    omega

end Net
