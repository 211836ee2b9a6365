import LinkSense.Agent.Tasks
import LinkSense.JsonText
import LinkSense.NetAddrText
import LinkSense.Utf8

/-!
# Values of SNMP queries

`task_snmp.rs` from the session to the metric: the session that the parameters ask for, and the
text and the type name that the first value of the response is stored as.

A value is stored as text in the metric, and what the server shows is read off that text.  An object
identifier, and what is made of other values, is printed by the crate.  Of all other values text and
type name together tell which one it was, but for one case: an octet string that is no printable
text is stored in hexadecimal, which is what the octet string that spells it is stored as.

    a task that passes validation lacks nothing that its session is made with  (session_of_validate)
    the text and the type name are the same ↔ the values are, or are printed alike, or one spells
      the other                                                                (same_text_iff)
    two responses are stored alike ↔ their first values are the same, or are printed alike, or one
      spells the other                                                         (snmp_values)
-/

namespace LinkSense

open Net Utf8 Wire

/-! ## Sessions -/

/-- `Security`, with the protocol and the password that `authNoPriv` has. -/
structure Security where
  username : String
  auth : Option (SnmpAuthProtocol × String)
deriving DecidableEq, Repr

/-- What a session is created with. -/
inductive Session where
  | v1 (community : String)
  | v2c (community : String)
  | v3 (security : Security)
deriving DecidableEq, Repr

/-- The first half of `execute_v3_query`. -/
def v3Security (params : SnmpParams) : Except String Security :=
  match params.username with
  | none => .error "SNMPv3 requires username"
  | some username =>
    match params.securityLevel with
    | .noAuthNoPriv => .ok ⟨username, none⟩
    | .authNoPriv =>
      match params.authPassword with
      | none => .error "authNoPriv requires auth_password"
      | some authPassword =>
        match params.authProtocol with
        | .none => .error "authNoPriv requires an authentication protocol"
        | authProto => .ok ⟨username, some (authProto, authPassword)⟩

def session (params : SnmpParams) : Except String Session :=
  match params.version with
  | .v1 => .ok (.v1 params.community)
  | .v2c => .ok (.v2c params.community)
  | .v3 => (v3Security params).map .v3

/-- Where a query fails. -/
inductive QueryStep where
  | create
  | init
  | get
deriving DecidableEq, Repr

/-- The version as the errors write it. -/
def Session.version : Session → String
  | .v1 _ => "SNMPv1"
  | .v2c _ => "SNMPv2c"
  | .v3 _ => "SNMPv3"

/-- The context that a failed step is reported with. -/
def QueryStep.context (s : Session) : QueryStep → String
  | .create => s!"Failed to create {s.version} session"
  | .init => s!"{s.version} initialization failed"
  | .get => s!"{s.version} GET request failed"

/-! ## Values -/

/-- The values that are made of others. -/
inductive ComplexType where
  | sequence
  | set
  | constructed
  | getRequest
  | getNextRequest
  | getBulkRequest
  | setRequest
  | response
  | informRequest
  | trap
  | report
deriving DecidableEq, Repr

/-- A value of a response, where `ω` are the object identifiers and `κ` the contents of values that
are made of others. -/
inductive Value (ω κ : Type) where
  | boolean (b : Bool)
  | null
  | integer (i : Int64)
  | octetString (bytes : List UInt8)
  | objectIdentifier (oid : ω)
  | ipAddress (ip : Ipv4Addr)
  | counter32 (c : UInt32)
  | unsigned32 (u : UInt32)
  | timeticks (t : UInt32)
  | opaqueBytes (bytes : List UInt8)
  | counter64 (c : UInt64)
  | endOfMibView
  | noSuchObject
  | noSuchInstance
  | complex (type : ComplexType) (content : κ)

/-- How the crate prints what the agent does not take apart. -/
structure Printing (ω κ : Type) where
  oid : ω → String
  debug : ComplexType → κ → String

variable {ω κ : Type}

def hexByte (b : UInt8) : List Char :=
  [Nat.digitChar (b.toNat / 16), Nat.digitChar (b.toNat % 16)]

/-- `bytes_to_hex`. -/
def bytesToHex (bytes : List UInt8) : List Char := [':'].intercalate (bytes.map hexByte)

/-- `char::is_control`. -/
def isControl (c : Char) : Bool := c.toNat < 0x20 || 0x7F ≤ c.toNat && c.toNat < 0xA0

/-- A character that an octet string may have to be stored as a text. -/
def isPrintable (c : Char) : Bool := !isControl c || c == '\n' || c == '\t'

/-- The text of the bytes, when it is printable. -/
def printable (bytes : List UInt8) : Option (List Char) :=
  (decode bytes).filter fun s => s.all isPrintable

/-- The days, hours, minutes and seconds of a time, and the time as it was sent. -/
def timeticksText (t : UInt32) : List Char :=
  let seconds := t.toNat / 100
  Nat.toDigits 10 (seconds / 86400) ++ "d ".toList ++
    (Nat.toDigits 10 (seconds % 86400 / 3600) ++ "h ".toList) ++
    (Nat.toDigits 10 (seconds % 3600 / 60) ++ "m ".toList) ++
    (Nat.toDigits 10 (seconds % 60) ++ "s ".toList) ++
    '(' :: (Nat.toDigits 10 t.toNat ++ " ticks)".toList)

/-- `value_to_string`. -/
def valueToString (printing : Printing ω κ) : Value ω κ → String
  | .boolean b => if b then "true" else "false"
  | .null => "null"
  | .integer i => .ofList (intText i.toInt)
  | .octetString bytes => .ofList ((printable bytes).getD (bytesToHex bytes))
  | .objectIdentifier oid => printing.oid oid
  | .ipAddress ip => .ofList ip.text
  | .counter32 c => .ofList (Nat.toDigits 10 c.toNat)
  | .unsigned32 u => .ofList (Nat.toDigits 10 u.toNat)
  | .timeticks t => .ofList (timeticksText t)
  | .opaqueBytes bytes => .ofList (bytesToHex bytes)
  | .counter64 c => .ofList (Nat.toDigits 10 c.toNat)
  | .endOfMibView => "endOfMibView"
  | .noSuchObject => "noSuchObject"
  | .noSuchInstance => "noSuchInstance"
  | .complex type content => printing.debug type content

def ComplexType.typeName : ComplexType → String
  | .sequence => "Sequence"
  | .set => "Set"
  | .constructed => "Constructed"
  | .getRequest => "GetRequest"
  | .getNextRequest => "GetNextRequest"
  | .getBulkRequest => "GetBulkRequest"
  | .setRequest => "SetRequest"
  | .response => "Response"
  | .informRequest => "InformRequest"
  | .trap => "Trap"
  | .report => "Report"

/-- `value_type_name`. -/
def valueTypeName : Value ω κ → String
  | .boolean _ => "Boolean"
  | .null => "Null"
  | .integer _ => "Integer"
  | .octetString _ => "OctetString"
  | .objectIdentifier _ => "ObjectIdentifier"
  | .ipAddress _ => "IpAddress"
  | .counter32 _ => "Counter32"
  | .unsigned32 _ => "Unsigned32"
  | .timeticks _ => "Timeticks"
  | .opaqueBytes _ => "Opaque"
  | .counter64 _ => "Counter64"
  | .endOfMibView => "EndOfMibView"
  | .noSuchObject => "NoSuchObject"
  | .noSuchInstance => "NoSuchInstance"
  | .complex type _ => type.typeName

/-- `extract_value_from_response`: the text and the type name of the first value. -/
def extractValueFromResponse (printing : Printing ω κ) :
    List (Value ω κ) → Except String (String × String)
  | value :: _ => .ok (valueToString printing value, valueTypeName value)
  | [] => .error "No value returned in SNMP response"

/-- What becomes of the answer in a session. -/
def Session.result (printing : Printing ω κ) (s : Session) :
    Except QueryStep (List (Value ω κ)) → Except String (String × String)
  | .error failed => .error (failed.context s)
  | .ok varbinds => extractValueFromResponse printing varbinds

/-- What comes of a query in a session; `none` is that the device does not answer in time. -/
abbrev Device (ω κ : Type) := Session → Option (Except QueryStep (List (Value ω κ)))

/-- `execute_query`. -/
def executeQuery (printing : Printing ω κ) (ask : Device ω κ) (params : SnmpParams) :
    Option (Except String (String × String)) :=
  match session params with
  | .error e => some (.error e)
  | .ok s => (ask s).map (s.result printing)

/-- The metric of a query, by what the device answers. -/
def askedMetric (printing : Printing ω κ) (probe : Probe) (params : SnmpParams) (ask : Device ω κ) :
    RawSnmpMetric :=
  snmpMetric { probe with snmp := executeQuery printing ask params } params

theorem typeName_injective : Function.Injective ComplexType.typeName := by
  intro a b h
  cases a <;> cases b <;> first | rfl | exact absurd h (by decide)

/-! ## Hexadecimal -/

theorem not_colon_mem_hexByte (b : UInt8) : ':' ∉ hexByte b := by
  have hdigit : ∀ n, n < 16 → ':' ≠ Nat.digitChar n := by decide
  have hb := b.toNat_lt
  unfold hexByte
  rw [List.mem_cons, List.mem_singleton]
  rintro (h | h)
  · exact hdigit _ (by omega) h
  · exact hdigit _ (by omega) h

theorem hexByte_injective : Function.Injective hexByte := by
  intro a b h
  have ha := a.toNat_lt
  have hb := b.toNat_lt
  obtain ⟨hhigh, hrest⟩ := List.cons.inj h
  obtain ⟨hlow, -⟩ := List.cons.inj hrest
  have hdiv : a.toNat / 16 = b.toNat / 16 := by
    rw [← hexValue_digitChar (a.toNat / 16) (by omega), hhigh, hexValue_digitChar _ (by omega)]
  have hmod : a.toNat % 16 = b.toNat % 16 := by
    rw [← hexValue_digitChar (a.toNat % 16) (by omega), hlow, hexValue_digitChar _ (by omega)]
  exact UInt8.toNat_inj.1 (by omega)

theorem bytesToHex_eq_nil_iff (bytes : List UInt8) : bytesToHex bytes = [] ↔ bytes = [] := by
  constructor
  · intro h
    cases bytes with
    | nil => rfl
    | cons b rest =>
      cases rest with
      | nil => cases h
      | cons c rest => cases h
  · rintro rfl
    rfl

theorem bytesToHex_injective : Function.Injective bytesToHex := by
  have hsplit : ∀ bytes : List UInt8, bytes ≠ [] →
      (bytesToHex bytes).splitOn ':' = bytes.map hexByte := by
    intro bytes hne
    refine List.splitOn_intercalate ':' ?_ (by simpa using hne)
    intro part hpart
    obtain ⟨b, -, rfl⟩ := List.mem_map.1 hpart
    exact not_colon_mem_hexByte b
  intro x y h
  by_cases hx : x = []
  · subst hx
    exact ((bytesToHex_eq_nil_iff y).1 h.symm).symm
  · have hy : y ≠ [] := fun hy => hx ((bytesToHex_eq_nil_iff x).1 (by rw [h, hy]; rfl))
    refine hexByte_injective.list_map ?_
    rw [← hsplit x hx, h, hsplit y hy]

/-! ## Texts -/

theorem timeticksText_injective : Function.Injective timeticksText := by
  have hdigits : ∀ (n : Nat) (unit : List Char), '(' ∉ unit → '(' ∉ Nat.toDigits 10 n ++ unit := by
    intro n unit hunit h
    rcases List.mem_append.1 h with h | h
    · exact absurd (isDigit_of_mem_toDigits h) (by decide)
    · exact hunit h
  -- what stands before the bracket has none
  have hbefore : ∀ days hours minutes secs : Nat,
      '(' ∉ Nat.toDigits 10 days ++ "d ".toList ++ (Nat.toDigits 10 hours ++ "h ".toList) ++
        (Nat.toDigits 10 minutes ++ "m ".toList) ++ (Nat.toDigits 10 secs ++ "s ".toList) := by
    intro days hours minutes secs h
    rcases List.mem_append.1 h with h | h
    · rcases List.mem_append.1 h with h | h
      · rcases List.mem_append.1 h with h | h
        · exact hdigits days _ (by decide) h
        · exact hdigits hours _ (by decide) h
      · exact hdigits minutes _ (by decide) h
    · exact hdigits secs _ (by decide) h
  intro t u h
  have hafter : '(' ∉ Nat.toDigits 10 t.toNat ++ " ticks)".toList := hdigits _ _ (by decide)
  have hticks := ((List.append_cons_inj_of_notMem (hbefore _ _ _ _) hafter).1 h).2.2
  exact UInt32.toNat_inj.1 (toDigits_injective (List.append_cancel_right hticks))

theorem printable_eq_some_iff {bytes : List UInt8} {s : List Char} :
    printable bytes = some s ↔ toUtf8 s = bytes ∧ s.all isPrintable = true := by
  unfold printable
  rw [Option.filter_eq_some_iff, decode_eq_some_iff]

theorem valueToString_octets (printing : Printing ω κ) (bytes : List UInt8) :
    valueToString printing (.octetString bytes) =
      .ofList ((printable bytes).getD (bytesToHex bytes)) :=
  rfl

/-- The crate prints both, and prints them alike. -/
def PrintedAlike (printing : Printing ω κ) : Value ω κ → Value ω κ → Prop
  | .objectIdentifier a, .objectIdentifier b => printing.oid a = printing.oid b
  | .complex type a, .complex type' b => type = type' ∧ printing.debug type a = printing.debug type' b
  | _, _ => False

/-- The second is the hexadecimal spelling of the first, which is not printable. -/
def Spells (v w : Value ω κ) : Prop :=
  ∃ bytes, printable bytes = none ∧ v = .octetString bytes ∧
    w = .octetString (toUtf8 (bytesToHex bytes))

theorem isPrintable_bytesToHex (bytes : List UInt8) : (bytesToHex bytes).all isPrintable = true := by
  have hdigit : ∀ n, n < 16 → isPrintable (Nat.digitChar n) = true := by decide
  have hbyte : ∀ b, (hexByte b).all isPrintable = true := by
    intro b
    have hb := b.toNat_lt
    unfold hexByte
    rw [List.all_cons, List.all_cons, hdigit _ (by omega), hdigit _ (by omega)]
    rfl
  unfold bytesToHex
  induction bytes with
  | nil => rfl
  | cons b rest ih =>
    cases rest with
    | nil =>
      rw [List.map_cons, List.map_nil, List.intercalate_singleton]
      exact hbyte b
    | cons c rest =>
      rw [List.map_cons, List.map_cons, List.intercalate_cons_cons, List.all_append,
        List.all_append, hbyte b, ← List.map_cons, ih]
      rfl

theorem printable_hex (bytes : List UInt8) :
    printable (toUtf8 (bytesToHex bytes)) = some (bytesToHex bytes) :=
  printable_eq_some_iff.2 ⟨rfl, isPrintable_bytesToHex bytes⟩

theorem octets_eq_or_spells {x y : List UInt8}
    (h : (printable x).getD (bytesToHex x) = (printable y).getD (bytesToHex y)) :
    x = y ∨ Spells (.octetString x : Value ω κ) (.octetString y) ∨
      Spells (.octetString y : Value ω κ) (.octetString x) := by
  cases hx : printable x with
  | none =>
    cases hy : printable y with
    | none =>
      rw [hx, hy] at h
      exact .inl (bytesToHex_injective h)
    | some t =>
      rw [hx, hy] at h
      obtain ⟨rfl, -⟩ := printable_eq_some_iff.1 hy
      exact .inr (.inl ⟨x, hx, rfl, by rw [show t = bytesToHex x from h.symm]⟩)
  | some s =>
    obtain ⟨rfl, -⟩ := printable_eq_some_iff.1 hx
    cases hy : printable y with
    | none =>
      rw [hx, hy] at h
      exact .inr (.inr ⟨y, hy, rfl, by rw [show s = bytesToHex y from h]⟩)
    | some t =>
      rw [hx, hy] at h
      obtain ⟨rfl, -⟩ := printable_eq_some_iff.1 hy
      exact .inl (congrArg toUtf8 h)

theorem text_of_spells (printing : Printing ω κ) {v w : Value ω κ} (h : Spells v w) :
    valueToString printing v = valueToString printing w ∧ valueTypeName v = valueTypeName w := by
  obtain ⟨bytes, hnone, rfl, rfl⟩ := h
  refine ⟨?_, rfl⟩
  rw [valueToString_octets, valueToString_octets, hnone, printable_hex]
  rfl

/-- What the text and the type name tell, for values of one type. -/
theorem eq_or_spells_of_text {printing : Printing ω κ} {v w : Value ω κ}
    (htype : valueTypeName v = valueTypeName w)
    (htext : valueToString printing v = valueToString printing w) :
    v = w ∨ PrintedAlike printing v w ∨ Spells v w ∨ Spells w v := by
  have hdecimal : ∀ n k : Nat,
      String.ofList (Nat.toDigits 10 n) = String.ofList (Nat.toDigits 10 k) → n = k :=
    fun n k h => toDigits_injective (String.ofList_injective h)
  cases v <;> cases w
  case boolean.boolean b c =>
    have hwords : ("true" : String) ≠ "false" := by decide
    cases b <;> cases c
    · exact .inl rfl
    · exact absurd htext hwords.symm
    · exact absurd htext hwords
    · exact .inl rfl
  case null.null => exact .inl rfl
  case integer.integer i k =>
    have := intText_injective (String.ofList_injective htext)
    exact .inl (congrArg _ (Int64.toInt_inj.1 this))
  case octetString.octetString x y =>
    rcases octets_eq_or_spells (String.ofList_injective htext) with rfl | h
    · exact .inl rfl
    · exact .inr (.inr h)
  case objectIdentifier.objectIdentifier a b => exact .inr (.inl htext)
  case ipAddress.ipAddress a b =>
    have := parseIpv4_text a
    rw [show a.text = b.text from String.ofList_injective htext, parseIpv4_text] at this
    exact .inl (congrArg _ (Option.some.inj this).symm)
  case counter32.counter32 n k =>
    exact .inl (congrArg _ (UInt32.toNat_inj.1 (hdecimal _ _ htext)))
  case unsigned32.unsigned32 n k =>
    exact .inl (congrArg _ (UInt32.toNat_inj.1 (hdecimal _ _ htext)))
  case timeticks.timeticks t u =>
    exact .inl (congrArg _ (timeticksText_injective (String.ofList_injective htext)))
  case opaqueBytes.opaqueBytes x y =>
    exact .inl (congrArg _ (bytesToHex_injective (String.ofList_injective htext)))
  case counter64.counter64 n k =>
    exact .inl (congrArg _ (UInt64.toNat_inj.1 (hdecimal _ _ htext)))
  case endOfMibView.endOfMibView => exact .inl rfl
  case noSuchObject.noSuchObject => exact .inl rfl
  case noSuchInstance.noSuchInstance => exact .inl rfl
  case complex.complex type a type' b => exact .inr (.inl ⟨typeName_injective htype, htext⟩)
  -- the type names of the other pairs differ
  all_goals simp only [valueTypeName, String.reduceEq] at htype
  all_goals
    rename ComplexType => type
    cases type <;> exact absurd htype (by decide)

theorem text_of_printedAlike {printing : Printing ω κ} {v w : Value ω κ}
    (h : PrintedAlike printing v w) :
    valueToString printing v = valueToString printing w ∧ valueTypeName v = valueTypeName w := by
  unfold PrintedAlike at h
  split at h
  · exact ⟨h, rfl⟩
  · obtain ⟨rfl, h⟩ := h
    exact ⟨h, rfl⟩
  · exact h.elim

/-- **What is stored tells the value**, unless the crate prints it, or an octet string spells another
in hexadecimal. -/
theorem same_text_iff (printing : Printing ω κ) (v w : Value ω κ) :
    (valueToString printing v = valueToString printing w ∧ valueTypeName v = valueTypeName w) ↔
      v = w ∨ PrintedAlike printing v w ∨ Spells v w ∨ Spells w v := by
  constructor
  · rintro ⟨htext, htype⟩
    exact eq_or_spells_of_text htype htext
  · rintro (rfl | h | h | h)
    · exact ⟨rfl, rfl⟩
    · exact text_of_printedAlike h
    · exact text_of_spells printing h
    · obtain ⟨htext, htype⟩ := text_of_spells printing h
      exact ⟨htext.symm, htype.symm⟩

/-! ## Sessions of valid tasks -/

theorem session_of_validate {params : SnmpParams} (h : validateSnmp params = .ok ()) :
    ∃ s, session params = .ok s := by
  obtain ⟨-, -, h⟩ := Except.bind_eq_ok h
  obtain ⟨-, -, h⟩ := Except.bind_eq_ok h
  obtain ⟨-, -, h⟩ := Except.bind_eq_ok h
  obtain ⟨_, husername, h⟩ := Except.bind_eq_ok h
  obtain ⟨_, hprotocol, hpassword⟩ := Except.bind_eq_ok h
  rw [reject_eq_ok_iff] at husername hprotocol hpassword
  cases hversion : params.version with
  | v1 => exact ⟨_, by rw [session, hversion]⟩
  | v2c => exact ⟨_, by rw [session, hversion]⟩
  | v3 =>
    have hv3 : ∃ security, v3Security params = .ok security := by
      unfold v3Security
      cases hname : params.username with
      | none => simp [hversion, hname] at husername
      | some username =>
        cases hlevel : params.securityLevel with
        | noAuthNoPriv => exact ⟨_, rfl⟩
        | authNoPriv =>
          cases hsecret : params.authPassword with
          | none => simp [hversion, hlevel, hsecret] at hpassword
          | some authPassword =>
            cases hproto : params.authProtocol
            case none => simp [hversion, hlevel, hproto] at hprotocol
            all_goals exact ⟨_, rfl⟩
    obtain ⟨security, hsecurity⟩ := hv3
    exact ⟨.v3 security, by rw [session, hversion, hsecurity]; rfl⟩

/-! ## Metrics -/

theorem executeQuery_of_session {params : SnmpParams} {s : Session}
    (hsession : session params = .ok s) (printing : Printing ω κ) (ask : Device ω κ) :
    executeQuery printing ask params = (ask s).map (s.result printing) := by
  rw [executeQuery, hsession]

theorem success_askedMetric_iff {params : SnmpParams} {s : Session}
    (hsession : session params = .ok s) (printing : Printing ω κ) (probe : Probe)
    (ask : Device ω κ) :
    (askedMetric printing probe params ask).success = true ↔
      (∃ addr, parseHost probe params.host = .ok addr) ∧ parseOid probe params.oid = .ok () ∧
        ∃ v rest, ask s = some (.ok (v :: rest)) := by
  have hanswer : (∃ r, executeQuery printing ask params = some (.ok r)) ↔
      ∃ v rest, ask s = some (.ok (v :: rest)) := by
    rw [executeQuery_of_session hsession]
    rcases ask s with _ | failed | _ | ⟨v, rest⟩
    all_goals simp [Session.result, extractValueFromResponse]
  unfold askedMetric
  rw [success_snmpMetric, ← hanswer]
  constructor
  · rintro ⟨addr, r, hhost, hoid, hr⟩
    exact ⟨⟨addr, hhost⟩, hoid, r, hr⟩
  · rintro ⟨⟨addr, hhost⟩, hoid, r, hr⟩
    exact ⟨addr, r, hhost, hoid, hr⟩

/-- The metric of a query that is answered. -/
theorem askedMetric_of_answer {printing : Printing ω κ} {params : SnmpParams} {s : Session}
    {probe : Probe} {addr : String} {ask : Device ω κ} {v : Value ω κ} {rest : List (Value ω κ)}
    (hsession : session params = .ok s) (hhost : parseHost probe params.host = .ok addr)
    (hoid : parseOid probe params.oid = .ok ()) (hask : ask s = some (.ok (v :: rest))) :
    askedMetric printing probe params ask =
      ⟨some (millis probe.elapsed), true, some (valueToString printing v), some (valueTypeName v),
        params.oid, none, params.targetId⟩ := by
  have hhost' : parseHost { probe with snmp := executeQuery printing ask params } params.host =
      .ok addr := hhost
  have hoid' : parseOid { probe with snmp := executeQuery printing ask params } params.oid =
      .ok () := hoid
  have hquery : snmpQuery { probe with snmp := executeQuery printing ask params } params =
      .ok (valueToString printing v, valueTypeName v) := by
    unfold snmpQuery
    rw [hhost', hoid', executeQuery_of_session hsession, hask]
    rfl
  unfold askedMetric snmpMetric
  rw [hquery]

/-! ## Top theorem -/

/-- **What a query stores**: a task that passes validation has what its session is made with; the
metric is a success exactly when host and OID are understood and the response has a value; and two
responses are stored alike exactly when their first values are the same, or are printed alike by the
crate, or one is the octet string that spells the other in hexadecimal. -/
theorem snmp_values (printing : Printing ω κ) (probe : Probe) (params : SnmpParams)
    (hvalid : validateSnmp params = .ok ()) :
    ∃ s, session params = .ok s ∧
      (∀ ask, (askedMetric printing probe params ask).success = true ↔
        (∃ addr, parseHost probe params.host = .ok addr) ∧ parseOid probe params.oid = .ok () ∧
          ∃ v rest, ask s = some (.ok (v :: rest))) ∧
      ∀ ask ask' v v' rest rest',
        ask s = some (.ok (v :: rest)) → ask' s = some (.ok (v' :: rest')) →
        (askedMetric printing probe params ask).success = true →
        (askedMetric printing probe params ask = askedMetric printing probe params ask' ↔
          v = v' ∨ PrintedAlike printing v v' ∨ Spells v v' ∨ Spells v' v) := by
  obtain ⟨s, hsession⟩ := session_of_validate hvalid
  refine ⟨s, hsession, success_askedMetric_iff hsession printing probe, ?_⟩
  intro ask ask' v v' rest rest' hask hask' hsuccess
  obtain ⟨⟨addr, hhost⟩, hoid, -⟩ :=
    (success_askedMetric_iff hsession printing probe ask).1 hsuccess
  rw [askedMetric_of_answer hsession hhost hoid hask,
    askedMetric_of_answer hsession hhost hoid hask', ← same_text_iff]
  constructor
  · intro h
    injection h with _ _ htext htype
    exact ⟨Option.some.inj htext, Option.some.inj htype⟩
  · rintro ⟨htext, htype⟩
    rw [htext, htype]

def exampleSnmp : SnmpParams :=
  ⟨"192.0.2.1", ".1.3.6.1.2.1.1.3.0", .v3, "public", some "monitor", .authNoPriv, .sha256,
    some "secret", 5, none⟩

/-- Object identifiers with dots between their numbers. -/
def examplePrinting : Printing (List Nat) Unit where
  oid arcs := .ofList (['.'].intercalate (arcs.map (Nat.toDigits 10)))
  debug type _ := s!"{type.typeName}(..)"

/-- A device with one value to tell. -/
def deviceWith (v : Value (List Nat) Unit) : Device (List Nat) Unit := fun _ => some (.ok [v])

/-- The byte 255 and the text "ff" are stored alike, and the byte 254 is stored otherwise. -/
theorem snmp_values_spelled :
    ∃ probe, (askedMetric examplePrinting probe exampleSnmp
        (deviceWith (.octetString [0xFF]))).success = true ∧
      askedMetric examplePrinting probe exampleSnmp (deviceWith (.octetString [0xFF])) =
        askedMetric examplePrinting probe exampleSnmp
          (deviceWith (.octetString (toUtf8 "ff".toList))) ∧
      askedMetric examplePrinting probe exampleSnmp (deviceWith (.octetString [0xFF])) ≠
        askedMetric examplePrinting probe exampleSnmp (deviceWith (.octetString [0xFE])) := by
  obtain ⟨s, hsession, hsuccess, hstored⟩ := snmp_values examplePrinting
    { answeringProbe 200 with resolve := fun _ => .ok ["192.0.2.1:161"] } exampleSnmp (by rfl)
  have hok : ∀ v, (askedMetric examplePrinting
      { answeringProbe 200 with resolve := fun _ => .ok ["192.0.2.1:161"] } exampleSnmp
      (deviceWith v)).success = true := fun v =>
    (hsuccess _).2 ⟨⟨"192.0.2.1:161", rfl⟩, by decide +kernel, v, [], rfl⟩
  refine ⟨_, hok _, (hstored _ _ _ _ [] [] rfl rfl (hok _)).2 ?_,
    fun h => absurd ((hstored _ _ _ _ [] [] rfl rfl (hok _)).1 h) ?_⟩
  · exact .inr (.inr (.inl ⟨[0xFF], by decide +kernel, rfl, congrArg _ (by decide +kernel)⟩))
  · rintro (h | h | ⟨bytes, -, hv, hw⟩ | ⟨bytes, -, hv, hw⟩)
    · cases h
    · exact h
    · rw [← Value.octetString.inj hv] at hw
      exact absurd (Value.octetString.inj hw) (by decide +kernel)
    · rw [← Value.octetString.inj hv] at hw
      exact absurd (Value.octetString.inj hw) (by decide +kernel)

end LinkSense
