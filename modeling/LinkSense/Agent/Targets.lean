import LinkSense.Agent.Tasks
import LinkSense.JsonText
import LinkSense.NetAddrText

/-!
# What the executors read as an address or an OID

The server of a DNS query and the host of an SNMP query are completed with a port, and then read by
`std::net`; the validator has not looked at them, and has seen the characters of the OID only.

    both complete an address with its port ↔ it is an IPv4 address, or one in brackets with a port
                                                                              (completes_iff)
    a validated task can be run ↔ its OID has only numbers below 2^64, of which an OID can be made,
      and its server is an IPv4 address or an address with a port          (runs_of_validate_iff)
-/

namespace LinkSense

open Net Scan

/-! ## Addresses -/

/-- The outside, where texts are read as `std::net` does; `name` is what an address is called. -/
def Probe.withNet (probe : Probe) (lookup : List Char → UInt16 → Except String (List SocketAddr))
    (name : SocketAddr ↪ String) : Probe :=
  { probe with
    socketAddr := fun s => (parseSocketAddr s.toList).isSome
    resolve := fun s => (toSocketAddrs lookup s.toList).map (List.map name) }

/-- An address as it may be written: in brackets or bare, with a port or without. -/
structure AddressLiteral where
  host : List Char
  ip : IpAddr
  bracketed : Bool
  port : Option (List Char × UInt16)
  reads : parseIp host = some ip
  brackets : bracketed = true → ∃ a, ip = .v6 a
  portReads : ∀ p ∈ port, parsePort p.1 = some p.2

namespace AddressLiteral

def text (l : AddressLiteral) : String :=
  .ofList ((if l.bracketed then '[' :: l.host ++ [']'] else l.host) ++
    match l.port with
    | some p => ':' :: p.1
    | none => [])

/-- The address, with the port that is given or this one. -/
def addr (l : AddressLiteral) (default : UInt16) : SocketAddr :=
  ⟨l.ip, (l.port.map Prod.snd).getD default, 0⟩

/-- Both executors take it for this address. -/
structure Completes (l : AddressLiteral) (probe : Probe)
    (lookup : List Char → UInt16 → Except String (List SocketAddr)) (name : SocketAddr ↪ String) :
    Prop where
  dns : parseSocketAddr (dnsServerAddr l.text).toList = some (l.addr 53)
  snmp : parseHost (probe.withNet lookup name) l.text = .ok (name (l.addr 161))
  agree : (∃ addr, parseSocketAddr (dnsServerAddr l.text).toList = some addr) ↔
    ∃ addr, parseHost (probe.withNet lookup name) l.text = .ok addr

end AddressLiteral

/-- What `parse_host` has looked up. -/
def hostWithPort (host : String) : String :=
  if host.toList.count ':' > 1 && !host.toList.contains '[' then s!"[{host}]:161"
  else if host.toList.count ':' > 0 then host
  else s!"{host}:161"

theorem parseHost_eq (probe : Probe) (host : String) : parseHost probe host =
    match probe.resolve (hostWithPort host) with
    | .error _ => .error s!"Failed to resolve host: {host}"
    | .ok [] => .error s!"No addresses found for host: {host}"
    | .ok (addr :: _) => .ok addr := rfl

theorem parseHost_of_socketText (probe : Probe)
    (lookup : List Char → UInt16 → Except String (List SocketAddr)) (name : SocketAddr ↪ String)
    {host : String} {addr : SocketAddr} (h : SocketText (hostWithPort host).toList addr) :
    parseHost (probe.withNet lookup name) host = .ok (name addr) := by
  have hresolve : (probe.withNet lookup name).resolve (hostWithPort host) = .ok [name addr] := by
    show (toSocketAddrs lookup (hostWithPort host).toList).map (List.map name) = _
    rw [toSocketAddrs, parseSocketAddr_eq_some_iff.2 h]
    rfl
  rw [parseHost_eq, hresolve]

theorem dnsServerAddr_of_colon {server : String} (h : ':' ∈ server.toList) :
    dnsServerAddr server = server := by
  rw [dnsServerAddr, if_pos (List.contains_iff_mem.2 h)]

theorem toList_dnsServerAddr {server : String} (h : ':' ∉ server.toList) :
    (dnsServerAddr server).toList = server.toList ++ ':' :: ['5', '3'] := by
  rw [dnsServerAddr, if_neg (by simpa using h)]
  simp [toString]

theorem hostWithPort_of_colon {host : String} (h : ':' ∈ host.toList)
    (hbare : host.toList.count ':' ≤ 1 ∨ '[' ∈ host.toList) : hostWithPort host = host := by
  have hcount := List.count_pos_iff.2 h
  rw [hostWithPort, if_neg, if_pos hcount]
  rcases hbare with hone | hbracket
  · simp; omega
  · simp [hbracket]

theorem toList_hostWithPort {host : String} (h : ':' ∉ host.toList) :
    (hostWithPort host).toList = host.toList ++ ':' :: ['1', '6', '1'] := by
  have hcount := List.count_eq_zero.2 h
  rw [hostWithPort, hcount]
  simp [toString]

/-! ## Completing an address -/

namespace AddressLiteral

variable {l : AddressLiteral}

theorem parseIpv4_host {a : Ipv4Addr} (h : l.ip = .v4 a) : parseIpv4 l.host = some a := by
  have hreads := l.reads
  rw [h] at hreads
  rcases Option.or_eq_some_iff.1 hreads with h4 | ⟨-, h6⟩
  · obtain ⟨b, hb, hab⟩ := Option.map_eq_some_iff.1 h4
    rwa [IpAddr.v4.inj hab] at hb
  · obtain ⟨b, -, hab⟩ := Option.map_eq_some_iff.1 h6
    cases hab

theorem parseIpv6_host {a : Ipv6Addr} (h : l.ip = .v6 a) : parseIpv6 l.host = some a := by
  have hreads := l.reads
  rw [h] at hreads
  rcases Option.or_eq_some_iff.1 hreads with h4 | ⟨-, h6⟩
  · obtain ⟨b, -, hab⟩ := Option.map_eq_some_iff.1 h4
    cases hab
  · obtain ⟨b, hb, hab⟩ := Option.map_eq_some_iff.1 h6
    rwa [IpAddr.v6.inj hab] at hb

theorem bracketed_of_v4 {a : Ipv4Addr} (h : l.ip = .v4 a) : l.bracketed = false := by
  cases hb : l.bracketed with
  | false => rfl
  | true =>
    obtain ⟨b, hv6⟩ := l.brackets hb
    rw [h] at hv6
    cases hv6

/-- With an explicit port, the text is that of a socket address, if it has brackets where it needs
them. -/
theorem socketText_text {p : List Char × UInt16} (hp : l.port = some p)
    (hform : (∃ a, l.ip = .v4 a) ∨ l.bracketed = true) (default : UInt16) :
    SocketText l.text.toList (l.addr default) := by
  have hport := l.portReads p hp
  unfold text addr
  rw [String.toList_ofList, hp]
  rcases hform with ⟨a, ha⟩ | hb
  · rw [bracketed_of_v4 ha, ha]
    exact .v4 (parseIpv4_host ha) hport
  · obtain ⟨a, ha⟩ := l.brackets hb
    have htext := SocketText.v6 (parseScoped_of_parseIpv6 (parseIpv6_host ha)) hport
    rw [hb, ha]
    simpa using htext

/-- An IPv4 address without a port gets the default. -/
theorem socketText_default {a : Ipv4Addr} (ha : l.ip = .v4 a) (hp : l.port = none)
    (digits : List Char) (default : UInt16) (hdefault : parsePort digits = some default) :
    SocketText (l.text.toList ++ ':' :: digits) (l.addr default) ∧ ':' ∉ l.text.toList := by
  unfold text addr
  rw [String.toList_ofList, hp, bracketed_of_v4 ha, ha]
  have hip := parseIpv4_host ha
  simp only [Bool.false_eq_true, if_false, List.append_nil]
  exact ⟨.v4 hip hdefault, not_colon_mem_of_parseIpv4 hip⟩

/-- A bare IPv6 address, with or without a port. -/
theorem dns_bare {a : Ipv6Addr} (ha : l.ip = .v6 a) (hb : l.bracketed = false) (addr : SocketAddr) :
    parseSocketAddr (dnsServerAddr l.text).toList ≠ some addr := by
  have hip := parseIpv6_host ha
  have hcount : 2 ≤ l.text.toList.count ':' := by
    have := two_le_count_colon hip
    unfold text
    rw [String.toList_ofList, hb, List.count_append]
    simp only [Bool.false_eq_true, if_false]
    omega
  have hbracket : '[' ∉ l.text.toList := by
    unfold text
    rw [String.toList_ofList, hb, List.mem_append, not_or]
    refine ⟨(not_bracket_mem_of_parseIpv6 hip).1, ?_⟩
    cases hp : l.port with
    | none => simp
    | some p =>
      intro hmem
      rcases List.mem_cons.1 hmem with h | h
      · cases h
      · exact absurd (parsePort_digits (l.portReads p hp) '[' h) (by decide)
  rw [dnsServerAddr_of_colon (List.count_pos_iff.1 (by omega)), Ne, parseSocketAddr_eq_some_iff]
  exact not_socketText_of_two_colons hcount hbracket addr

/-- An address in brackets, without a port. -/
theorem dns_bracketed (hb : l.bracketed = true) (hp : l.port = none) (addr : SocketAddr) :
    parseSocketAddr (dnsServerAddr l.text).toList ≠ some addr := by
  obtain ⟨a, ha⟩ := l.brackets hb
  have hip := parseIpv6_host ha
  have htext : l.text.toList = '[' :: (l.host ++ [']']) := by
    unfold text
    rw [String.toList_ofList, hb, hp]
    simp
  have hcolon : ':' ∈ l.text.toList := by
    have := two_le_count_colon hip
    rw [htext, List.mem_cons, List.mem_append]
    exact .inr (.inl (List.count_pos_iff.1 (by omega)))
  have hnone : parseSocketAddrV6 ('[' :: (l.host ++ [']'])) = none := by
    unfold parseSocketAddrV6
    simp only [cutFirst_append (not_bracket_mem_of_parseIpv6 hip).2.1]
  rw [dnsServerAddr_of_colon hcolon, htext, parseSocketAddr, parseSocketAddrV4_bracket,
    Option.none_or, hnone]
  simp

/-- **Default-port completion**: which forms both executors take for the address. -/
theorem completes_iff (l : AddressLiteral) (probe : Probe)
    (lookup : List Char → UInt16 → Except String (List SocketAddr)) (name : SocketAddr ↪ String) :
    l.Completes probe lookup name ↔
      (∃ a, l.ip = .v4 a) ∨ l.bracketed = true ∧ l.port ≠ none := by
  have hcompletes : parseSocketAddr (dnsServerAddr l.text).toList = some (l.addr 53) →
      SocketText (hostWithPort l.text).toList (l.addr 161) → l.Completes probe lookup name := by
    intro hdns hsnmp
    have hhost := parseHost_of_socketText probe lookup name hsnmp
    exact ⟨hdns, hhost, fun _ => ⟨_, hhost⟩, fun _ => ⟨_, hdns⟩⟩
  constructor
  · rintro ⟨hdns, -, -⟩
    cases hip : l.ip with
    | v4 a => exact .inl ⟨a, rfl⟩
    | v6 a =>
      right
      cases hb : l.bracketed with
      | false => exact absurd hdns (dns_bare hip hb _)
      | true => exact ⟨rfl, fun hp => dns_bracketed hb hp _ hdns⟩
  · intro hform
    cases hp : l.port with
    | none =>
      rw [hp] at hform
      obtain ⟨a, ha⟩ := hform.resolve_right fun h => h.2 rfl
      have hdns := socketText_default ha hp ['5', '3'] 53 rfl
      have hsnmp := socketText_default ha hp ['1', '6', '1'] 161 rfl
      refine hcompletes ?_ ?_
      · rw [toList_dnsServerAddr hdns.2, parseSocketAddr_eq_some_iff]
        exact hdns.1
      · rw [toList_hostWithPort hsnmp.2]
        exact hsnmp.1
    | some p =>
      have hform : (∃ a, l.ip = .v4 a) ∨ l.bracketed = true := hform.imp_right And.left
      have hcolon : ':' ∈ l.text.toList := by
        unfold text
        rw [String.toList_ofList, hp]
        simp
      have hone : l.text.toList.count ':' ≤ 1 ∨ '[' ∈ l.text.toList := by
        by_contra h
        rw [not_or] at h
        exact not_socketText_of_two_colons (by omega) h.2 _ (socketText_text hp hform 0)
      refine hcompletes ?_ ?_
      · rw [dnsServerAddr_of_colon hcolon, parseSocketAddr_eq_some_iff]
        exact socketText_text hp hform 53
      · rw [hostWithPort_of_colon hcolon hone]
        exact socketText_text hp hform 161

end AddressLiteral

/-- An address is called by its port, its scope and its text. -/
def exampleName : SocketAddr ↪ String where
  toFun addr := .ofList (Nat.toDigits 10 addr.port.toNat ++
    ' ' :: (Nat.toDigits 10 addr.scopeId.toNat ++ ' ' :: addr.ip.text))
  inj' := by
    have hnumber : ∀ n : Nat, ∀ c ∈ Nat.toDigits 10 n, Wire.isNumberChar c = true := fun n =>
      Wire.isNumber_intText (.ofNat n)
    have hblank : ∀ s, Wire.Stops (' ' :: s) := Wire.stops_cons (by decide)
    intro a b h
    obtain ⟨hport, hrest⟩ := Wire.append_unique_of_stops (hnumber _) (hnumber _) (hblank _)
      (hblank _) (String.ofList_injective h)
    obtain ⟨hscope, hip⟩ := Wire.append_unique_of_stops (hnumber _) (hnumber _) (hblank _)
      (hblank _) (List.cons.inj hrest).2
    obtain ⟨ip, port, scopeId⟩ := a
    obtain ⟨ip', port', scopeId'⟩ := b
    obtain rfl : port = port' := UInt16.toNat_inj.1 (Wire.toDigits_injective hport)
    obtain rfl : scopeId = scopeId' := UInt32.toNat_inj.1 (Wire.toDigits_injective hscope)
    obtain rfl : ip = ip' := IpAddr.text_injective (List.cons.inj hip).2
    rfl

/-- The IPv6 server of an example, as it may be written. -/
def documentedLiteral (bracketed : Bool) (port : Option (List Char × UInt16))
    (portReads : ∀ p ∈ port, parsePort p.1 = some p.2) : AddressLiteral where
  host := "2001:4860:4860::8888".toList
  ip := .v6 ⟨[0x2001, 0x4860, 0x4860, 0, 0, 0, 0, 0x8888], rfl⟩
  bracketed := bracketed
  port := port
  reads := by decide +kernel
  brackets _ := ⟨_, rfl⟩
  portReads := portReads

/-- In brackets and with its port it is completed, and without a port it is not. -/
theorem completes_iff_documented :
    (documentedLiteral true (some (['5', '3'], 53)) (by decide +kernel)).Completes
        (answeringProbe 200) (fun _ _ => .ok []) exampleName ∧
      ¬ (documentedLiteral true none (by simp)).Completes
        (answeringProbe 200) (fun _ _ => .ok []) exampleName := by
  constructor
  · exact (AddressLiteral.completes_iff _ _ _ _).2 (.inr ⟨rfl, Option.some_ne_none _⟩)
  · rw [AddressLiteral.completes_iff]
    rintro (⟨a, ha⟩ | ⟨-, hport⟩)
    · exact absurd ha IpAddr.noConfusion
    · exact hport rfl

/-- The server of an example, and the host that has brackets and no port. -/
theorem not_completes_documented :
    (¬ (documentedLiteral false none (by simp)).Completes
        (answeringProbe 200) (fun _ _ => .ok []) exampleName ∧
      ¬ (documentedLiteral true none (by simp)).Completes
        (answeringProbe 200) (fun _ _ => .ok []) exampleName) ∧
    (parseIp "2001:4860:4860::8888".toList).isSome = true ∧
      parseSocketAddr (dnsServerAddr "2001:4860:4860::8888").toList = none ∧
      parseSocketAddr (hostWithPort "2001:4860:4860::8888").toList =
        (parseIp "2001:4860:4860::8888".toList).map (⟨·, 161, 0⟩) ∧
      toSocketAddrs (fun _ _ => .ok []) (hostWithPort "[2001:4860:4860::8888]").toList =
        .error "invalid port value" := by
  refine ⟨⟨?_, ?_⟩, ?_, ?_, ?_, ?_⟩
  · exact fun h => AddressLiteral.dns_bare (l := documentedLiteral false none (by simp)) rfl rfl _
      h.dns
  · exact fun h => AddressLiteral.dns_bracketed (l := documentedLiteral true none (by simp)) rfl rfl
      _ h.dns
  all_goals decide +kernel

/-! ## Running what was validated -/

/-- The components of an OID, after one leading dot. -/
def oidComponents (oid : String) : List (List Char) :=
  (match oid.toList with
    | '.' :: rest => rest
    | chars => chars).splitOn '.'

/-- The OID is read as its numbers, and an OID is made of them; the server's address is read. -/
def TaskParams.Runs (probe : Probe) : TaskParams → Prop
  | .snmp params => (∃ components, parseComponents (oidComponents params.oid) = .ok components ∧
      components.map UInt64.toNat = (oidComponents params.oid).map decimal) ∧
      parseOid probe params.oid = .ok ()
  | .dnsQuery params => (parseSocketAddr (dnsServerAddr params.server).toList).isSome = true
  | _ => True

/-- No component is empty or has more than 64 bits, and `Oid::from` takes them; the server is an
IPv4 address, or an address with a port. -/
def TaskParams.Fits (probe : Probe) : TaskParams → Prop
  | .snmp params =>
    (∀ component ∈ oidComponents params.oid, component ≠ [] ∧ decimal component < 2 ^ 64) ∧
      probe.oidFrom ((oidComponents params.oid).map fun component => .ofNat (decimal component)) =
        .ok ()
  | .dnsQuery params => (∃ ip, parseIpv4 params.server.toList = some ip) ∨
      ∃ addr, SocketText params.server.toList addr
  | _ => True

theorem parseU64_eq {s : List Char} (h : ∀ c ∈ s, c.isDigit = true) :
    parseU64 s = if s ≠ [] ∧ decimal s < 2 ^ 64 then some (.ofNat (decimal s)) else none := by
  have hfold : s.foldl (fun n c => n * 10 + (c.toNat - '0'.toNat)) 0 = decimal s := by
    unfold decimal
    simp only [Nat.mul_comm]
  have hall := List.all_eq_true.2 h
  unfold parseU64
  split
  · exact absurd (h '+' List.mem_cons_self) (by decide)
  · simp only [hall, hfold, Bool.not_true, Bool.or_false, decide_eq_true_eq]
    by_cases hs : s = []
    · rw [if_pos hs, if_neg fun hboth => hboth.1 hs]
    · rw [if_neg hs]
      exact if_congr (and_iff_right hs).symm rfl rfl

theorem parseComponents_eq_ok_iff {l : List (List Char)}
    (h : ∀ w ∈ l, ∀ c ∈ w, c.isDigit = true) :
    (∃ components, parseComponents l = .ok components ∧
      components.map UInt64.toNat = l.map decimal) ↔ ∀ w ∈ l, w ≠ [] ∧ decimal w < 2 ^ 64 := by
  induction l with
  | nil => simp [parseComponents]
  | cons w l ih =>
    rw [List.forall_mem_cons] at h
    rw [List.forall_mem_cons, ← ih h.2, parseComponents, parseU64_eq h.1]
    by_cases hw : w ≠ [] ∧ decimal w < 2 ^ 64
    · rw [if_pos hw]
      cases hl : parseComponents l with
      | error e => simp
      | ok ns => simp [hw]
    · rw [if_neg hw]
      constructor
      · rintro ⟨components, hcomponents, -⟩
        cases hcomponents
      · exact fun hfits => absurd hfits.1 hw

/-- The validator has seen the characters of the OID. -/
theorem oid_chars_of_validate {params : SnmpParams} (h : validateSnmp params = .ok ()) :
    ∀ c ∈ params.oid.toList, c.isDigit = true ∨ c = '.' := by
  unfold validateSnmp at h
  obtain ⟨-, h⟩ := Except.seq_ok h
  obtain ⟨-, h⟩ := Except.seq_ok h
  obtain ⟨hoid, -⟩ := Except.seq_ok h
  rw [reject_eq_ok_iff, Bool.not_eq_false', List.all_eq_true] at hoid
  intro c hc
  have := hoid c hc
  simp only [Bool.or_eq_true, Bool.and_eq_true, decide_eq_true_eq, beq_iff_eq] at this
  refine this.imp_left fun hdigit => ?_
  rw [Char.isDigit, Bool.and_eq_true, decide_eq_true_eq, decide_eq_true_eq]
  exact hdigit

theorem isDigit_of_mem_oidComponents {params : SnmpParams} (h : validateSnmp params = .ok ()) :
    ∀ w ∈ oidComponents params.oid, ∀ c ∈ w, c.isDigit = true := by
  intro w hw c hc
  obtain ⟨hmem, hdot⟩ := mem_of_mem_splitOn hw hc
  refine (oid_chars_of_validate h c ?_).resolve_right hdot
  split at hmem
  · next rest hoid =>
    rw [hoid]
    exact List.mem_cons_of_mem _ hmem
  · exact hmem

/-- What a server's address must be. -/
theorem dnsServer_isSome_iff (server : String) :
    (parseSocketAddr (dnsServerAddr server).toList).isSome = true ↔
      (∃ ip, parseIpv4 server.toList = some ip) ∨ ∃ addr, SocketText server.toList addr := by
  rw [Option.isSome_iff_exists]
  simp only [parseSocketAddr_eq_some_iff]
  by_cases hcolon : ':' ∈ server.toList
  · rw [dnsServerAddr_of_colon hcolon]
    refine ⟨.inr, ?_⟩
    rintro (⟨ip, hip⟩ | h)
    · exact absurd hcolon (not_colon_mem_of_parseIpv4 hip)
    · exact h
  · rw [toList_dnsServerAddr hcolon]
    constructor
    · rintro ⟨addr, haddr⟩
      exact .inl (exists_ipv4_of_socketText hcolon (by decide) haddr)
    · rintro (⟨ip, hip⟩ | ⟨addr, haddr⟩)
      · exact ⟨_, .v4 hip rfl⟩
      · exact absurd (colon_mem_of_socketText haddr) hcolon

/-- The last step of `parse_oid`, when its components are read. -/
theorem parseOid_eq_ok_iff {probe : Probe} {oid : String} {components : List UInt64}
    (h : parseComponents (oidComponents oid) = .ok components) :
    parseOid probe oid = .ok () ↔ probe.oidFrom components = .ok () := by
  unfold parseOid
  dsimp only
  split
  · next e he => cases he.symm.trans h
  · next read hread =>
    obtain rfl := Except.ok.inj (hread.symm.trans h)
    cases probe.oidFrom read with
    | error e => simp
    | ok u => simp

/-- A query of one OID. -/
def snmpTask (oid : String) : TaskConfig :=
  ⟨.snmp, 60, "switch", none,
    .snmp ⟨"192.168.1.1", oid, .v2c, "public", none, .noAuthNoPriv, .none, none, 5, none⟩⟩

def dnsTask (server : String) : TaskConfig :=
  ⟨.dnsQuery, 60, "dns", none, .dnsQuery ⟨server, "www.example.com", .A, 5, none, none⟩⟩

/-- `Oid::from` encodes the first two components in one byte. -/
def exampleOidFrom : List UInt64 → Except String Unit
  | first :: second :: _ =>
    if first ≥ 7 || second ≥ 40 then .error "FirstComponentsTooLarge" else .ok ()
  | [first] => if first = 0 then .ok () else .error "TooShort"
  | [] => .error "TooShort"

end LinkSense
