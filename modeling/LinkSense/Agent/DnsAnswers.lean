import LinkSense.Agent.Tasks
import LinkSense.NetAddrText
import LinkSense.Utf8

/-!
# Answers to DNS queries

What becomes of the records of a response: the texts that the metric stores, and the verdict on the
expected address, which compares texts.

    the query is a success ↔ there is a response, and the expected text is what one of its addresses
      is written as, or the text of another record
    the texts stored of addresses are read as these addresses
    an address that is expected in another spelling than its own is never found   (dns_addresses)
-/

namespace LinkSense

open Net Utf8

/-! ## Records -/

/-- The data of a record; a name, and what is not supported, is the text that it is printed as. -/
inductive RData where
  | a (ipv4 : Ipv4Addr)
  | aaaa (ipv6 : Ipv6Addr)
  | cname (cname : String)
  | mx (preference : UInt16) (exchange : String)
  | txt (txt : List (List UInt8))
  | ns (ns : String)
  | other (debug : String)

/-- A byte within a character. -/
def isContinuation (b : UInt8) : Bool := 0x80 ≤ b && b < 0xC0

/-- What may come second in a character of three or four bytes. -/
def isSecond (first second : UInt8) : Bool :=
  if first = 0xE0 then 0xA0 ≤ second && second < 0xC0
  else if first = 0xED then 0x80 ≤ second && second < 0xA0
  else if first = 0xF0 then 0x90 ≤ second && second < 0xC0
  else if first = 0xF4 then 0x80 ≤ second && second < 0x90
  else isContinuation second

/-- How many of the bytes after the first belong to it, and whether they make a character. -/
def utf8Chunk (first : UInt8) (rest : List UInt8) : Nat × Bool :=
  let width := if first < 0x80 then 0
    else if 0xC2 ≤ first && first < 0xE0 then 1
    else if 0xE0 ≤ first && first < 0xF0 then 2
    else if 0xF0 ≤ first && first < 0xF5 then 3
    else 4
  if width = 4 then (0, false)
  else
    let second := (rest.take (min width 1)).takeWhile fun b =>
      if width = 1 then isContinuation b else isSecond first b
    let more := if second = [] then [] else
      ((rest.drop 1).take (width - 1)).takeWhile isContinuation
    (second.length + more.length, second.length + more.length = width)

/-- `String::from_utf8_lossy`: what is no character is replaced. -/
def fromUtf8Lossy : List UInt8 → List Char
  | [] => []
  | first :: rest =>
    let chunk := utf8Chunk first rest
    (if chunk.2 then (decode (first :: rest.take chunk.1)).getD ['\uFFFD'] else ['\uFFFD']) ++
      fromUtf8Lossy (rest.drop chunk.1)
termination_by bytes => bytes.length
decreasing_by
  rw [List.length_drop, List.length_cons]
  omega

/-- The text that is stored of a record. -/
def RData.text : RData → String
  | .a ipv4 => .ofList ipv4.text
  | .aaaa ipv6 => .ofList ipv6.text
  | .cname name => name
  | .mx preference exchange => s!"{preference} {exchange}"
  | .txt parts => .ofList ([' '].intercalate (parts.map fromUtf8Lossy))
  | .ns name => name
  | .other debug => s!"Unsupported record type: {debug}"

/-- `parse_dns_response`. -/
def parseDnsResponse (answers : List RData) : UInt32 × List String :=
  (.ofNat answers.length, answers.map RData.text)

/-- The metric of a query, by the records of its response. -/
def dnsMetric (result : Except String (List RData)) (elapsed : Duration) (domain : String)
    (expectedIp targetId : Option String) : RawDnsMetric :=
  createDnsMetric (result.map fun answers => (parseDnsResponse answers).2) elapsed domain expectedIp
    targetId

/-! ## Addresses -/

/-- The address in a record. -/
def RData.address : RData → Option IpAddr
  | .a ipv4 => some (.v4 ipv4)
  | .aaaa ipv6 => some (.v6 ipv6)
  | _ => none

/-- The text is what an answered address is written as, or that of another record. -/
def Names (answers : List RData) (expected : String) : Prop :=
  (∃ r ∈ answers, ∃ ip, r.address = some ip ∧ ip.text = expected.toList) ∨
    ∃ r ∈ answers, r.address = none ∧ r.text = expected

theorem RData.toList_text {r : RData} {ip : IpAddr} (h : r.address = some ip) :
    r.text.toList = ip.text := by
  cases r with
  | a ipv4 =>
    obtain rfl := Option.some.inj h
    exact String.toList_ofList
  | aaaa ipv6 =>
    obtain rfl := Option.some.inj h
    exact String.toList_ofList
  | _ => cases h

theorem mem_texts_iff (answers : List RData) (expected : String) :
    expected ∈ (parseDnsResponse answers).2 ↔ Names answers expected := by
  unfold parseDnsResponse Names
  rw [List.mem_map]
  constructor
  · rintro ⟨r, hr, rfl⟩
    cases haddress : r.address with
    | none => exact .inr ⟨r, hr, haddress, rfl⟩
    | some ip => exact .inl ⟨r, hr, ip, haddress, (RData.toList_text haddress).symm⟩
  · rintro (⟨r, hr, ip, haddress, htext⟩ | ⟨r, hr, -, htext⟩)
    · refine ⟨r, hr, String.toList_inj.1 ?_⟩
      rw [RData.toList_text haddress, htext]
    · exact ⟨r, hr, htext⟩

theorem checkDnsMetric_isOk_iff (what : String) (metric : RawDnsMetric) :
    (checkDnsMetric what metric).isOk = true ↔
      metric.success = true ∧ metric.correctResolution = true := by
  unfold checkDnsMetric
  cases metric.success <;> cases metric.correctResolution <;> simp [Except.isOk, Except.toBool]

/-! ## Top theorem -/

/-- **What a query tells of addresses**: it is a success when the expected text is what an answered
address is written as, or the text of another record; its texts are read as the addresses they are
of; and an address in another spelling is not found among addresses. -/
theorem dns_addresses (result : Except String (List RData)) (elapsed : Duration)
    (what domain : String) (expectedIp targetId : Option String) :
    ((checkDnsMetric what (dnsMetric result elapsed domain expectedIp targetId)).isOk = true ↔
      ∃ answers, result = .ok answers ∧ ∀ expected ∈ expectedIp, Names answers expected) ∧
    ∀ answers, result = .ok answers → (∀ r ∈ answers, r.address ≠ none) →
      ((dnsMetric result elapsed domain expectedIp targetId).resolvedAddresses.map
        (List.map fun text => parseIp text.toList)) = some (answers.map RData.address) ∧
      ∀ expected ip, parseIp expected.toList = some ip →
        (Names answers expected ↔
          expected.toList = ip.text ∧ some ip ∈ answers.map RData.address) := by
  constructor
  · rw [checkDnsMetric_isOk_iff]
    unfold dnsMetric
    cases result with
    | error e => simp [Except.map, createDnsMetric]
    | ok answers =>
      simp only [Except.map, createDnsMetric, true_and, Except.ok.injEq, exists_eq_left']
      cases expectedIp with
      | none => simp
      | some expected => simp [mem_texts_iff]
  · rintro answers rfl hall
    have hread : ∀ r ∈ answers, parseIp r.text.toList = r.address := by
      intro r hr
      obtain ⟨ip, hip⟩ := Option.ne_none_iff_exists'.1 (hall r hr)
      rw [RData.toList_text hip, parseIp_text, hip]
    refine ⟨?_, fun expected ip hip => ?_⟩
    · show some (((answers.map RData.text)).map fun text => parseIp text.toList) = _
      rw [List.map_map]
      exact congrArg some (List.map_congr_left hread)
    · constructor
      · rintro (⟨r, hr, ip', haddress, htext⟩ | ⟨r, hr, hnone, -⟩)
        · rw [← htext, parseIp_text] at hip
          obtain rfl := Option.some.inj hip
          exact ⟨htext.symm, List.mem_map.2 ⟨r, hr, haddress⟩⟩
        · exact absurd hnone (hall r hr)
      · rintro ⟨htext, hmem⟩
        obtain ⟨r, hr, haddress⟩ := List.mem_map.1 hmem
        exact .inl ⟨r, hr, ip, haddress, htext.symm⟩

/-- The loopback address and one of a private network. -/
def loopbackAndPrivate : List RData :=
  [.aaaa ⟨[0, 0, 0, 0, 0, 0, 0, 1], rfl⟩, .a ⟨10, 0, 0, 1⟩]

/-- The loopback address is answered and expected with all its groups, and not found; `::1` is. -/
theorem dns_addresses_loopback :
    (dnsMetric (.ok loopbackAndPrivate) 0 "localhost" (some "0:0:0:0:0:0:0:1")
        none).resolvedAddresses.map (List.map fun text => parseIp text.toList) =
      some (loopbackAndPrivate.map RData.address) ∧
    parseIp "0:0:0:0:0:0:0:1".toList = parseIp "::1".toList ∧
    (checkDnsMetric "DNS query" (dnsMetric (.ok loopbackAndPrivate) 0 "localhost"
      (some "0:0:0:0:0:0:0:1") none)).isOk = false ∧
    (checkDnsMetric "DNS query" (dnsMetric (.ok loopbackAndPrivate) 0 "localhost"
      (some "::1") none)).isOk = true := by
  have hall : ∀ r ∈ loopbackAndPrivate, r.address ≠ none := by
    unfold loopbackAndPrivate
    simp [RData.address]
  obtain ⟨hspelled, hread⟩ := dns_addresses (.ok loopbackAndPrivate) 0 "DNS query" "localhost"
    (some "0:0:0:0:0:0:0:1") none
  obtain ⟨haddresses, hnames⟩ := hread _ rfl hall
  have hshort := dns_addresses (.ok loopbackAndPrivate) 0 "DNS query" "localhost"
    (some "::1") none
  refine ⟨haddresses, by decide +kernel, ?_, hshort.1.2 ⟨_, rfl, ?_⟩⟩
  · rw [Bool.eq_false_iff, Ne, hspelled]
    rintro ⟨answers, hanswers, hnamed⟩
    obtain rfl := Except.ok.inj hanswers
    have hspelling := ((hnames _ (.v6 ⟨[0, 0, 0, 0, 0, 0, 0, 1], rfl⟩) (by decide +kernel)).1
      (hnamed _ rfl)).1
    exact absurd hspelling (by decide +kernel)
  · rintro _ ⟨⟩
    refine ((hshort.2 _ rfl hall).2 _ (.v6 ⟨[0, 0, 0, 0, 0, 0, 0, 1], rfl⟩)
      (by decide +kernel)).2 ⟨by decide +kernel, ?_⟩
    exact List.mem_cons_self

end LinkSense
