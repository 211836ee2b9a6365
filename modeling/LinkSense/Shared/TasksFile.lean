import LinkSense.Shared.Wire

/-!
# The tasks of a configuration file

How a `TasksConfig` is written to a map of fields and read back (`shared/src/config.rs`).  The
parameters of a task are written among its own fields; the reader takes the task's fields out of
the map and reads the rest by the task's type.  A TOML value is a tree without `null` and with the
integers of an `i64`; the order of a table's entries is not kept.  The list of headers stands for a
map of headers, in the order in which it was written.

    a configuration that validates is read back, in whatever order the fields of each task come;
      parameters share no field with the task, and none are read as another type's
                                                                    (deserialize_tasksConfig)
-/

namespace LinkSense

open Wire Wire.Fields

/-! ## Enumerations -/

def DnsRecordType.serdeName : DnsRecordType → String
  | .A => "A"
  | .AAAA => "AAAA"
  | .MX => "MX"
  | .CNAME => "CNAME"
  | .TXT => "TXT"
  | .NS => "NS"

def SqlQueryMode.serdeName : SqlQueryMode → String
  | .value => "value"
  | .json => "json"

def SnmpVersion.serdeName : SnmpVersion → String
  | .v1 => "v1"
  | .v2c => "v2c"
  | .v3 => "v3"

def SnmpAuthProtocol.serdeName : SnmpAuthProtocol → String
  | .none => "none"
  | .md5 => "md5"
  | .sha1 => "sha1"
  | .sha224 => "sha224"
  | .sha256 => "sha256"
  | .sha384 => "sha384"
  | .sha512 => "sha512"

def SnmpSecurityLevel.serdeName : SnmpSecurityLevel → String
  | .noAuthNoPriv => "no_auth_no_priv"
  | .authNoPriv => "auth_no_priv"

def DnsRecordType.codec : Codec DnsRecordType :=
  .variants [.A, .AAAA, .MX, .CNAME, .TXT, .NS] serdeName (by intro a; cases a <;> rfl)

def SqlQueryMode.codec : Codec SqlQueryMode :=
  .variants [.value, .json] serdeName (by intro a; cases a <;> rfl)

def SnmpVersion.codec : Codec SnmpVersion :=
  .variants [.v1, .v2c, .v3] serdeName (by intro a; cases a <;> rfl)

def SnmpAuthProtocol.codec : Codec SnmpAuthProtocol :=
  .variants [.none, .md5, .sha1, .sha224, .sha256, .sha384, .sha512] serdeName
    (by intro a; cases a <;> rfl)

def SnmpSecurityLevel.codec : Codec SnmpSecurityLevel :=
  .variants [.noAuthNoPriv, .authNoPriv] serdeName (by intro a; cases a <;> rfl)

/-! ## Parameters -/

def PingParams.fields : Fields PingParams :=
  ((field "host" .string).and <|
    (defaulted "timeout_seconds" .uint32 1).and <|
    (skipped "target_id" .string)).iso
    (fun (a, b, c) => ⟨a, b, c⟩)
    (fun p => (p.host, p.timeoutSeconds, p.targetId))
    (fun _ => rfl)

def TcpParams.fields : Fields TcpParams :=
  ((field "host" .string).and <|
    (defaulted "timeout_seconds" .uint32 1).and <|
    (skipped "target_id" .string)).iso
    (fun (a, b, c) => ⟨a, b, c⟩)
    (fun p => (p.host, p.timeoutSeconds, p.targetId))
    (fun _ => rfl)

def HttpGetParams.fields : Fields HttpGetParams :=
  ((field "url" .string).and <|
    (defaulted "timeout_seconds" .uint32 10).and <|
    (defaulted "headers" (.entries .string) []).and <|
    (defaulted "verify_ssl" .bool false).and <|
    (skipped "target_id" .string)).iso
    (fun (a, b, c, d, e) => ⟨a, b, c, d, e⟩)
    (fun p => (p.url, p.timeoutSeconds, p.headers, p.verifySsl, p.targetId))
    (fun _ => rfl)

def HttpContentParams.fields : Fields HttpContentParams :=
  ((field "url" .string).and <|
    (field "regexp" .string).and <|
    (defaulted "timeout_seconds" .uint32 10).and <|
    (skipped "target_id" .string)).iso
    (fun (a, b, c, d) => ⟨a, b, c, d⟩)
    (fun p => (p.url, p.regexp, p.timeoutSeconds, p.targetId))
    (fun _ => rfl)

def TlsHandshakeParams.fields : Fields TlsHandshakeParams :=
  ((field "host" .string).and <|
    (defaulted "verify_ssl" .bool false).and <|
    (skipped "target_id" .string)).iso
    (fun (a, b, c) => ⟨a, b, c⟩)
    (fun p => (p.host, p.verifySsl, p.targetId))
    (fun _ => rfl)

def DnsQueryParams.fields : Fields DnsQueryParams :=
  ((field "server" .string).and <|
    (field "domain" .string).and <|
    (field "record_type" DnsRecordType.codec).and <|
    (defaulted "timeout_seconds" .uint32 5).and <|
    (skipped "expected_ip" .string).and <|
    (skipped "target_id" .string)).iso
    (fun (a, b, c, d, e, f) => ⟨a, b, c, d, e, f⟩)
    (fun p => (p.server, p.domain, p.recordType, p.timeoutSeconds, p.expectedIp, p.targetId))
    (fun _ => rfl)

def DnsQueryDohParams.fields : Fields DnsQueryDohParams :=
  ((field "server_url" .string).and <|
    (field "domain" .string).and <|
    (field "record_type" DnsRecordType.codec).and <|
    (defaulted "timeout_seconds" .uint32 5).and <|
    (skipped "expected_ip" .string).and <|
    (skipped "target_id" .string)).iso
    (fun (a, b, c, d, e, f) => ⟨a, b, c, d, e, f⟩)
    (fun p => (p.serverUrl, p.domain, p.recordType, p.timeoutSeconds, p.expectedIp, p.targetId))
    (fun _ => rfl)

def BandwidthParams.fields : Fields BandwidthParams :=
  ((defaulted "timeout_seconds" .uint32 60).and <|
    (defaulted "max_retries" .uint32 10).and <|
    (skipped "target_id" .string)).iso
    (fun (a, b, c) => ⟨a, b, c⟩)
    (fun p => (p.timeoutSeconds, p.maxRetries, p.targetId))
    (fun _ => rfl)

def SqlQueryParams.fields : Fields SqlQueryParams :=
  ((field "query" .string).and <|
    (field "database_url" .string).and <|
    (field "database_type" .string).and <|
    (skipped "username" .string).and <|
    (skipped "password" .string).and <|
    (defaulted "timeout_seconds" .uint32 30).and <|
    (skipped "target_id" .string).and <|
    (defaulted "mode" SqlQueryMode.codec .value).and <|
    (defaulted "max_json_size_bytes" .uint64 65536).and <|
    (defaulted "max_rows" .uint64 1000)).iso
    (fun (a, b, c, d, e, f, g, h, i, j) => ⟨a, b, c, d, e, f, g, h, i, j⟩)
    (fun p => (p.query, p.databaseUrl, p.databaseType, p.username, p.password, p.timeoutSeconds,
      p.targetId, p.mode, p.maxJsonSizeBytes, p.maxRows))
    (fun _ => rfl)

def SnmpParams.fields : Fields SnmpParams :=
  ((field "host" .string).and <|
    (field "oid" .string).and <|
    (defaulted "version" SnmpVersion.codec .v2c).and <|
    (defaulted "community" .string "public").and <|
    (skipped "username" .string).and <|
    (defaulted "security_level" SnmpSecurityLevel.codec .noAuthNoPriv).and <|
    (defaulted "auth_protocol" SnmpAuthProtocol.codec .none).and <|
    (skipped "auth_password" .string).and <|
    (defaulted "timeout_seconds" .uint32 5).and <|
    (skipped "target_id" .string)).iso
    (fun (a, b, c, d, e, f, g, h, i, j) => ⟨a, b, c, d, e, f, g, h, i, j⟩)
    (fun p => (p.host, p.oid, p.version, p.community, p.username, p.securityLevel, p.authProtocol,
      p.authPassword, p.timeoutSeconds, p.targetId))
    (fun _ => rfl)

/-! ## Writing -/

/-- The fields of the struct inside an untagged variant. -/
def TaskParams.serialize : TaskParams → List (String × Json)
  | .httpContent params => HttpContentParams.fields.encode params
  | .httpGet params => HttpGetParams.fields.encode params
  | .ping params => PingParams.fields.encode params
  | .tcp params => TcpParams.fields.encode params
  | .tlsHandshake params => TlsHandshakeParams.fields.encode params
  | .dnsQuery params => DnsQueryParams.fields.encode params
  | .dnsQueryDoh params => DnsQueryDohParams.fields.encode params
  | .bandwidth params => BandwidthParams.fields.encode params
  | .sqlQuery params => SqlQueryParams.fields.encode params
  | .snmp params => SnmpParams.fields.encode params

/-- No number is above `i64::MAX`, which is an error of the TOML serializer. -/
def TaskParams.fitsToml : TaskParams → Bool
  | .sqlQuery params => params.maxJsonSizeBytes.toNat < 2 ^ 63 && params.maxRows.toNat < 2 ^ 63
  | _ => true

/-- The derived `Serialize` of `TaskConfig`, with its flattened parameters. -/
def TaskConfig.serialize (task : TaskConfig) : Option (List (String × Json)) :=
  if task.params.fitsToml then
    some (("type", .str task.taskType.wireName) ::
      ("schedule_seconds", Codec.uint32.encode task.scheduleSeconds) ::
      ("name", .str task.name) ::
      ((skipped "timeout" .uint32).encode task.timeout ++ task.params.serialize))
  else none

/-- The derived `Serialize` of `TasksConfig`: the map of each task. -/
def TasksConfig.serialize (config : TasksConfig) : Option (List (List (String × Json))) :=
  config.tasks.mapM TaskConfig.serialize

def tasksTable (maps : List (List (String × Json))) : Json :=
  .obj [("tasks", .arr (maps.map .obj))]

/-! ## Reading -/

inductive TaskError where
  | duplicateField (name : String)
  | missingField (name : String)
  | invalidValue (name : String)
  /-- `Failed to parse {task} task parameters: …` -/
  | params (task : String)
deriving DecidableEq, Repr

/-- What `visit_map` has read so far. -/
structure TaskConfigVisitor where
  taskType : Option TaskType := none
  scheduleSeconds : Option UInt32 := none
  name : Option String := none
  timeout : Option UInt32 := none
  paramsMap : List (String × Json) := []

/-- The value of a field that has not been read yet. -/
def readOnce {α : Type} (name : String) (c : Codec α) (old : Option α) (value : Json) :
    Except TaskError (Option α) :=
  if old.isSome then .error (.duplicateField name)
  else
    match c.decode value with
    | none => .error (.invalidValue name)
    | some a => .ok (some a)

/-- `map.insert`. -/
def insertEntry (entry : String × Json) (l : List (String × Json)) : List (String × Json) :=
  entry :: l.filter fun p => p.1 != entry.1

def TaskConfigVisitor.visit (features : Features) (v : TaskConfigVisitor) (entry : String × Json) :
    Except TaskError TaskConfigVisitor :=
  match entry.1 with
  | "type" => do
    return { v with taskType := ← readOnce "type" (TaskType.codec features) v.taskType entry.2 }
  | "schedule_seconds" => do
    return { v with
      scheduleSeconds := ← readOnce "schedule_seconds" .uint32 v.scheduleSeconds entry.2 }
  | "name" => do
    return { v with name := ← readOnce "name" .string v.name entry.2 }
  | "timeout" => do
    return { v with timeout := ← readOnce "timeout" .uint32 v.timeout entry.2 }
  | _ => .ok { v with paramsMap := insertEntry entry v.paramsMap }

def required {α : Type} (name : String) : Option α → Except TaskError α
  | none => .error (.missingField name)
  | some a => .ok a

/-- The parameters of one variant. -/
def readParams {α : Type} (taskType : TaskType) (f : Fields α) (variant : α → TaskParams)
    (l : List (String × Json)) : Except TaskError TaskParams :=
  match f.read l with
  | none => .error (.params taskType.debugName)
  | some params => .ok (variant params)

/-- Parameters are read by the type of the task, not by which fields there are. -/
def TaskType.deserializeParams (l : List (String × Json)) :
    TaskType → Except TaskError TaskParams
  | .ping => readParams .ping PingParams.fields .ping l
  | .tcp => readParams .tcp TcpParams.fields .tcp l
  | .httpGet => readParams .httpGet HttpGetParams.fields .httpGet l
  | .httpContent => readParams .httpContent HttpContentParams.fields .httpContent l
  | .tlsHandshake => readParams .tlsHandshake TlsHandshakeParams.fields .tlsHandshake l
  | .dnsQuery => readParams .dnsQuery DnsQueryParams.fields .dnsQuery l
  | .dnsQueryDoh => readParams .dnsQueryDoh DnsQueryDohParams.fields .dnsQueryDoh l
  | .bandwidth => readParams .bandwidth BandwidthParams.fields .bandwidth l
  | .sqlQuery => readParams .sqlQuery SqlQueryParams.fields .sqlQuery l
  | .snmp => readParams .snmp SnmpParams.fields .snmp l

def TaskConfigVisitor.finish (v : TaskConfigVisitor) : Except TaskError TaskConfig := do
  let taskType ← required "type" v.taskType
  let scheduleSeconds ← required "schedule_seconds" v.scheduleSeconds
  let name ← required "name" v.name
  let params ← taskType.deserializeParams v.paramsMap
  return ⟨taskType, scheduleSeconds, name, v.timeout, params⟩

/-- `TaskConfig::deserialize`. -/
def TaskConfig.deserialize (features : Features) (entries : List (String × Json)) :
    Except TaskError TaskConfig := do
  let v ← entries.foldlM (TaskConfigVisitor.visit features) {}
  v.finish

/-- A task is a map. -/
def TaskConfig.ofValue (features : Features) : Json → Except TaskError TaskConfig
  | .obj entries => TaskConfig.deserialize features entries
  | _ => .error (.invalidValue "tasks")

/-- The derived `Deserialize` of `TasksConfig`. -/
def TasksConfig.deserialize (features : Features) : Json → Except TaskError TasksConfig
  | .obj l =>
    if unrepeated ["tasks"] l then
      match l.lookup "tasks" with
      | none => .error (.missingField "tasks")
      | some (.arr items) => TasksConfig.mk <$> items.mapM (TaskConfig.ofValue features)
      | some _ => .error (.invalidValue "tasks")
    else .error (.duplicateField "tasks")
  | _ => .error (.invalidValue "tasks")

/-! ## Lemmas -/

/-- The task's own fields. -/
def taskNames : List String := ["type", "schedule_seconds", "name", "timeout"]

/-- The fields of the parameters of a type. -/
def TaskType.paramNames : TaskType → List String
  | .ping => PingParams.fields.names
  | .tcp => TcpParams.fields.names
  | .httpGet => HttpGetParams.fields.names
  | .httpContent => HttpContentParams.fields.names
  | .tlsHandshake => TlsHandshakeParams.fields.names
  | .dnsQuery => DnsQueryParams.fields.names
  | .dnsQueryDoh => DnsQueryDohParams.fields.names
  | .bandwidth => BandwidthParams.fields.names
  | .sqlQuery => SqlQueryParams.fields.names
  | .snmp => SnmpParams.fields.names

theorem paramNames_nodup (t : TaskType) : t.paramNames.Nodup := by
  cases t <;> decide

/-- Parameters share no field with the task. -/
theorem paramNames_disjoint (t : TaskType) : ∀ name ∈ t.paramNames, name ∉ taskNames := by
  cases t <;> decide

theorem serialize_names (p : TaskParams) :
    (p.serialize.map Prod.fst).Sublist p.taskType.paramNames := by
  cases p <;> exact encode_names _ _

/-- Fields are read back from any map that has them, beside others. -/
theorem readParams_eq {α : Type} {taskType : TaskType} {f : Fields α} {variant : α → TaskParams}
    {l : List (String × Json)} {a : α} (hnodup : (l.map Prod.fst).Nodup)
    (hl : ∀ name ∈ f.names, l.lookup name = (f.encode a).lookup name) (hvalid : f.valid a)
    (haccepts : f.accepts a = true) : readParams taskType f variant l = .ok (variant a) := by
  unfold readParams Fields.read
  rw [if_pos (unrepeated_of_nodup _ hnodup), f.decode_encode a _ hvalid hl, if_pos haccepts]

theorem deserializeParams_eq {l : List (String × Json)} (p : TaskParams)
    (hnodup : (l.map Prod.fst).Nodup)
    (hl : ∀ name ∈ p.taskType.paramNames, l.lookup name = p.serialize.lookup name) :
    p.taskType.deserializeParams l = .ok p := by
  cases p with
  | httpContent p =>
    exact readParams_eq hnodup hl (by simp [HttpContentParams.fields])
      (by simp [HttpContentParams.fields])
  | httpGet p =>
    exact readParams_eq hnodup hl (by simp [HttpGetParams.fields]) (by simp [HttpGetParams.fields])
  | ping p =>
    exact readParams_eq hnodup hl (by simp [PingParams.fields]) (by simp [PingParams.fields])
  | tcp p =>
    exact readParams_eq hnodup hl (by simp [TcpParams.fields]) (by simp [TcpParams.fields])
  | tlsHandshake p =>
    exact readParams_eq hnodup hl (by simp [TlsHandshakeParams.fields])
      (by simp [TlsHandshakeParams.fields])
  | dnsQuery p =>
    exact readParams_eq hnodup hl (by simp [DnsQueryParams.fields, DnsRecordType.codec])
      (by simp [DnsQueryParams.fields, DnsRecordType.codec])
  | dnsQueryDoh p =>
    exact readParams_eq hnodup hl (by simp [DnsQueryDohParams.fields, DnsRecordType.codec])
      (by simp [DnsQueryDohParams.fields, DnsRecordType.codec])
  | bandwidth p =>
    exact readParams_eq hnodup hl (by simp [BandwidthParams.fields])
      (by simp [BandwidthParams.fields])
  | sqlQuery p =>
    exact readParams_eq hnodup hl (by simp [SqlQueryParams.fields, SqlQueryMode.codec])
      (by simp [SqlQueryParams.fields, SqlQueryMode.codec])
  | snmp p =>
    exact readParams_eq hnodup hl
      (by simp [SnmpParams.fields, SnmpVersion.codec, SnmpSecurityLevel.codec,
        SnmpAuthProtocol.codec])
      (by simp [SnmpParams.fields, SnmpVersion.codec, SnmpSecurityLevel.codec,
        SnmpAuthProtocol.codec])

/-- Whatever is read, its parameters are of its type. -/
theorem readParams_taskType {α : Type} {taskType : TaskType} {f : Fields α}
    {variant : α → TaskParams} {l : List (String × Json)} {p : TaskParams}
    (h : readParams taskType f variant l = .ok p) (hv : ∀ a, (variant a).taskType = taskType) :
    p.taskType = taskType := by
  unfold readParams at h
  cases hr : f.read l with
  | none =>
    rw [hr] at h
    cases h
  | some a =>
    rw [hr] at h
    obtain rfl := Except.ok.inj h
    exact hv a

theorem deserializeParams_taskType {t : TaskType} {l : List (String × Json)} {p : TaskParams}
    (h : t.deserializeParams l = .ok p) : p.taskType = t := by
  cases t <;> exact readParams_taskType h fun _ => rfl

/-! ## Entries of a task -/

namespace TaskConfig

/-- The entries that `serialize` gives where it gives any. -/
def entries (task : TaskConfig) : List (String × Json) :=
  ("type", .str task.taskType.wireName) ::
    ("schedule_seconds", Codec.uint32.encode task.scheduleSeconds) ::
    ("name", .str task.name) ::
    ((skipped "timeout" .uint32).encode task.timeout ++ task.params.serialize)

variable {task : TaskConfig}

theorem serialize_eq (h : task.params.fitsToml = true) : task.serialize = some task.entries :=
  if_pos h

theorem entries_names : (task.entries.map Prod.fst).Sublist
    (taskNames ++ task.params.taskType.paramNames) := by
  have htimeout := encode_names (skipped "timeout" .uint32) task.timeout
  unfold entries
  rw [List.map_cons, List.map_cons, List.map_cons, List.map_append]
  exact ((htimeout.append (serialize_names task.params)).cons_cons _).cons_cons _ |>.cons_cons _

theorem entries_nodup : (task.entries.map Prod.fst).Nodup := by
  refine entries_names.nodup (List.nodup_append.2 ⟨by decide, paramNames_nodup _, ?_⟩)
  rintro a ha b hb rfl
  exact paramNames_disjoint _ a hb ha

/-- Beside the task's own fields there are those of its parameters. -/
theorem lookup_entries {name : String} (h : name ∉ taskNames) :
    task.entries.lookup name = task.params.serialize.lookup name := by
  have hne : ∀ n ∈ taskNames, (name == n) = false := by
    intro n hn
    rw [beq_eq_false_iff_ne]
    rintro rfl
    exact h hn
  have htimeout : ((skipped "timeout" .uint32).encode task.timeout).lookup name = none := by
    refine lookup_eq_none fun hm => h ?_
    have hname := (encode_names (skipped "timeout" .uint32) task.timeout).subset hm
    rw [List.mem_singleton.1 hname]
    decide
  unfold entries
  rw [List.lookup_cons, hne _ (by decide), List.lookup_cons, hne _ (by decide), List.lookup_cons,
    hne _ (by decide), List.lookup_append, htimeout, Option.none_or]

/-- The entries of a task, one by one. -/
theorem mem_entries {entry : String × Json} (h : entry ∈ task.entries) :
    entry = ("type", .str task.taskType.wireName) ∨
    entry = ("schedule_seconds", Codec.uint32.encode task.scheduleSeconds) ∨
    entry = ("name", .str task.name) ∨
    (∃ t, task.timeout = some t ∧ entry = ("timeout", Codec.uint32.encode t)) ∨
    entry.1 ∉ taskNames := by
  unfold entries at h
  simp only [List.mem_cons, List.mem_append] at h
  rcases h with h | h | h | h | h
  · exact .inl h
  · exact .inr (.inl h)
  · exact .inr (.inr (.inl h))
  · cases ht : task.timeout with
    | none =>
      rw [ht] at h
      cases h
    | some t =>
      rw [ht] at h
      exact .inr (.inr (.inr (.inl ⟨t, rfl, List.mem_singleton.1 h⟩)))
  · refine .inr (.inr (.inr (.inr ?_)))
    exact paramNames_disjoint _ _
      ((serialize_names task.params).subset (List.mem_map_of_mem h))

end TaskConfig

/-! ## Visiting -/

namespace TaskConfigVisitor

/-- A value, once its entry has been seen. -/
def held {α : Type} (name : String) (seen : List (String × Json)) (x : Option α) : Option α :=
  if name ∈ seen.map Prod.fst then x else none

theorem held_of_not_mem {α : Type} {name : String} {seen : List (String × Json)} (x : Option α)
    (h : name ∉ seen.map Prod.fst) : held name seen x = none :=
  if_neg h

theorem held_of_mem {α : Type} {name : String} {seen : List (String × Json)} (x : Option α)
    (h : name ∈ seen.map Prod.fst) : held name seen x = x :=
  if_pos h

theorem held_cons {α : Type} {name key : String} (h : name ≠ key) {value : Json}
    {seen : List (String × Json)} {x : Option α} :
    held name seen x = held name ((key, value) :: seen) x := by
  by_cases hm : name ∈ seen.map Prod.fst
  · rw [held_of_mem x hm, held_of_mem x (List.mem_cons_of_mem _ hm)]
  · have hm' : name ∉ ((key, value) :: seen).map Prod.fst := by
      rw [List.map_cons, List.mem_cons]
      exact not_or.2 ⟨h, hm⟩
    rw [held_of_not_mem x hm, held_of_not_mem x hm']

/-- A value after one entry more, which is its own or leaves it as it was. -/
theorem held_next {α : Type} {name key : String} {value : Json} {seen : List (String × Json)}
    {old new x : Option α} (hold : old = held name seen x)
    (hnew : new = if name = key then x else old) :
    new = held name ((key, value) :: seen) x := by
  rw [hnew]
  split
  · next he =>
    rw [he]
    exact (held_of_mem x List.mem_cons_self).symm
  · next hne => exact hold.trans (held_cons hne)

/-- What the visitor has after these entries of a task. -/
structure Has (task : TaskConfig) (seen : List (String × Json)) (v : TaskConfigVisitor) : Prop where
  taskType : v.taskType = held "type" seen (some task.taskType)
  scheduleSeconds : v.scheduleSeconds = held "schedule_seconds" seen (some task.scheduleSeconds)
  name : v.name = held "name" seen (some task.name)
  timeout : v.timeout = held "timeout" seen task.timeout
  nodup : (v.paramsMap.map Prod.fst).Nodup
  params : ∀ name ∉ taskNames, v.paramsMap.lookup name = seen.lookup name

variable {features : Features} {task : TaskConfig} {seen : List (String × Json)}
  {v : TaskConfigVisitor}

theorem has_nil (task : TaskConfig) : Has task [] {} :=
  ⟨rfl, rfl, rfl, rfl, List.nodup_nil, fun _ _ => rfl⟩

/-- A field that has not been seen is read. -/
theorem readOnce_eq {α : Type} {name : String} {c : Codec α} {old x : Option α} {a : α}
    (hold : old = held name seen x) (hnew : name ∉ seen.map Prod.fst) (hvalid : c.valid a)
    (haccepts : c.accepts a = true) : readOnce name c old (c.encode a) = .ok (some a) := by
  rw [hold, held_of_not_mem x hnew]
  unfold readOnce
  rw [c.decode_encode_of_accepts hvalid haccepts]
  rfl

theorem visit_other {entry : String × Json} (h : entry.1 ∉ taskNames) :
    visit features v entry = .ok { v with paramsMap := insertEntry entry v.paramsMap } := by
  unfold visit
  split
  · next he => exact absurd (by rw [he]; decide) h
  · next he => exact absurd (by rw [he]; decide) h
  · next he => exact absurd (by rw [he]; decide) h
  · next he => exact absurd (by rw [he]; decide) h
  · rfl

theorem lookup_filter_ne {name key : String} (hne : name ≠ key) (l : List (String × Json)) :
    (l.filter fun p => p.1 != key).lookup name = l.lookup name := by
  induction l with
  | nil => rfl
  | cons p l ih =>
    by_cases hp : p.1 = key
    · have hskip : (name == p.1) = false := beq_eq_false_iff_ne.2 (hp ▸ hne)
      rw [List.filter_cons_of_neg (by simp [hp]), List.lookup_cons, hskip, ih]
    · rw [List.filter_cons_of_pos (by simp [hp]), List.lookup_cons, List.lookup_cons, ih]

theorem lookup_insertEntry (entry : String × Json) (l : List (String × Json)) (name : String) :
    (insertEntry entry l).lookup name = (entry :: l).lookup name := by
  unfold insertEntry
  rw [List.lookup_cons, List.lookup_cons]
  cases hn : name == entry.1 with
  | true => rfl
  | false => exact lookup_filter_ne (beq_eq_false_iff_ne.1 hn) l

theorem insertEntry_nodup {entry : String × Json} {l : List (String × Json)}
    (h : (l.map Prod.fst).Nodup) : ((insertEntry entry l).map Prod.fst).Nodup := by
  unfold insertEntry
  rw [List.map_cons, List.nodup_cons]
  refine ⟨fun hm => ?_, (List.filter_sublist.map Prod.fst).nodup h⟩
  obtain ⟨p, hp, he⟩ := List.mem_map.1 hm
  exact absurd he (by simpa using (List.mem_filter.1 hp).2)

/-- An entry of the task itself changes nothing that is looked up for its parameters. -/
theorem Has.params_cons (h : Has task seen v) {key : String} (hkey : key ∈ taskNames)
    (value : Json) :
    ∀ name ∉ taskNames, v.paramsMap.lookup name = ((key, value) :: seen).lookup name := by
  intro name hname
  have hne : (name == key) = false := by
    rw [beq_eq_false_iff_ne]
    rintro rfl
    exact hname hkey
  rw [h.params name hname, List.lookup_cons, hne]

/-- An entry of the task itself. -/
theorem Has.own (h : Has task seen v) {key : String} {value : Json} (hkey : key ∈ taskNames)
    {v' : TaskConfigVisitor} (hmap : v'.paramsMap = v.paramsMap)
    (htype : v'.taskType = if "type" = key then some task.taskType else v.taskType)
    (hschedule : v'.scheduleSeconds =
      if "schedule_seconds" = key then some task.scheduleSeconds else v.scheduleSeconds)
    (hname : v'.name = if "name" = key then some task.name else v.name)
    (htimeout : v'.timeout = if "timeout" = key then task.timeout else v.timeout) :
    Has task ((key, value) :: seen) v' where
  taskType := held_next h.taskType htype
  scheduleSeconds := held_next h.scheduleSeconds hschedule
  name := held_next h.name hname
  timeout := held_next h.timeout htimeout
  nodup := hmap ▸ h.nodup
  params := hmap ▸ h.params_cons hkey value

/-- One entry more. -/
theorem Has.visit (h : Has task seen v) (htype : task.taskType.enabled features = true)
    {entry : String × Json} (hentry : entry ∈ task.entries)
    (hnew : entry.1 ∉ seen.map Prod.fst) :
    ∃ v', TaskConfigVisitor.visit features v entry = .ok v' ∧ Has task (entry :: seen) v' := by
  rcases TaskConfig.mem_entries hentry with rfl | rfl | rfl | ⟨t, ht, rfl⟩ | hother
  · refine ⟨{ v with taskType := some task.taskType }, ?_, h.own (by decide) rfl rfl rfl rfl rfl⟩
    have hread := readOnce_eq (c := TaskType.codec features) h.taskType hnew trivial htype
    exact congrArg (fun x => x >>= _) hread
  · refine ⟨{ v with scheduleSeconds := some task.scheduleSeconds }, ?_,
      h.own (by decide) rfl rfl rfl rfl rfl⟩
    have hread := readOnce_eq h.scheduleSeconds hnew (Codec.valid_uint32 task.scheduleSeconds) rfl
    exact congrArg (fun x => x >>= _) hread
  · refine ⟨{ v with name := some task.name }, ?_, h.own (by decide) rfl rfl rfl rfl rfl⟩
    have hread := readOnce_eq (c := .string) (a := task.name) h.name hnew trivial rfl
    exact congrArg (fun x => x >>= _) hread
  · refine ⟨{ v with timeout := some t }, ?_, h.own (by decide) rfl rfl rfl rfl ht.symm⟩
    have hread := readOnce_eq h.timeout hnew (Codec.valid_uint32 t) rfl
    exact congrArg (fun x => x >>= _) hread
  · -- an entry of the parameters
    obtain ⟨key, value⟩ := entry
    have hne : ∀ name ∈ taskNames, name ≠ key := fun name hname he => hother (he ▸ hname)
    refine ⟨_, visit_other hother, ⟨h.taskType.trans (held_cons (hne _ (by decide))),
      h.scheduleSeconds.trans (held_cons (hne _ (by decide))),
      h.name.trans (held_cons (hne _ (by decide))),
      h.timeout.trans (held_cons (hne _ (by decide))), insertEntry_nodup h.nodup, ?_⟩⟩
    intro name hname
    rw [lookup_insertEntry, List.lookup_cons, List.lookup_cons, h.params name hname]

/-- All entries, in any order. -/
theorem Has.visit_all (htype : task.taskType.enabled features = true)
    {rest : List (String × Json)} (h : Has task seen v)
    (hrest : ∀ entry ∈ rest, entry ∈ task.entries)
    (hnodup : ((rest ++ seen).map Prod.fst).Nodup) :
    ∃ v', rest.foldlM (TaskConfigVisitor.visit features) v = .ok v' ∧
      Has task (rest.reverse ++ seen) v' := by
  induction rest generalizing seen v with
  | nil => exact ⟨v, rfl, h⟩
  | cons entry rest ih =>
    rw [List.cons_append, List.map_cons, List.nodup_cons] at hnodup
    obtain ⟨hnew, hnodup'⟩ := hnodup
    have hseen : entry.1 ∉ seen.map Prod.fst := fun hm => hnew (by
      rw [List.map_append]
      exact List.mem_append_right _ hm)
    obtain ⟨v₁, hv₁, h₁⟩ := h.visit htype (hrest entry List.mem_cons_self) hseen
    have hperm : (entry :: (rest ++ seen)).Perm (rest ++ entry :: seen) :=
      List.perm_middle.symm
    obtain ⟨v', hv', h'⟩ := ih h₁ (fun e he => hrest e (List.mem_cons_of_mem _ he))
      ((hperm.map Prod.fst).nodup_iff.1 (by
        rw [List.map_cons, List.nodup_cons]
        exact ⟨hnew, hnodup'⟩))
    refine ⟨v', ?_, ?_⟩
    · rw [List.foldlM_cons, hv₁]
      exact hv'
    · rw [List.reverse_cons, List.append_assoc]
      exact h'

end TaskConfigVisitor

/-! ## Round trip -/

/-- A task is read back from its entries, in any order. -/
theorem TaskConfig.deserialize_perm {features : Features} {task : TaskConfig}
    (htype : task.taskType.enabled features = true) (hparams : task.params.taskType = task.taskType)
    {l : List (String × Json)} (hl : l.Perm task.entries) :
    TaskConfig.deserialize features l = .ok task := by
  have hmem : ∀ entry ∈ l, entry ∈ task.entries := fun entry => hl.mem_iff.1
  have hnodup : (l.map Prod.fst).Nodup := (hl.map Prod.fst).nodup_iff.2 entries_nodup
  obtain ⟨v, hv, hhas⟩ := (TaskConfigVisitor.has_nil task).visit_all htype hmem
    (by rwa [List.append_nil])
  rw [List.append_nil] at hhas
  have hperm : l.reverse.Perm task.entries := (List.reverse_perm l).trans hl
  have hkeys : ∀ {name}, name ∈ task.entries.map Prod.fst → name ∈ l.reverse.map Prod.fst :=
    fun h => (hperm.map Prod.fst).mem_iff.2 h
  have htimeout : v.timeout = task.timeout := by
    rw [hhas.timeout]
    cases ht : task.timeout with
    | none => exact ite_self _
    | some t => exact TaskConfigVisitor.held_of_mem _ (hkeys (by simp [entries, ht, skipped]))
  have hlookup : ∀ name ∈ task.params.taskType.paramNames,
      v.paramsMap.lookup name = task.params.serialize.lookup name := by
    intro name hname
    have hown := paramNames_disjoint _ name hname
    rw [hhas.params name hown, lookup_perm hperm ?_, lookup_entries hown]
    exact (hperm.map Prod.fst).nodup_iff.2 entries_nodup
  have hread := deserializeParams_eq task.params hhas.nodup hlookup
  rw [hparams] at hread
  unfold deserialize
  rw [hv]
  show v.finish = _
  unfold TaskConfigVisitor.finish
  rw [hhas.taskType, TaskConfigVisitor.held_of_mem _ (hkeys (by simp [entries])),
    hhas.scheduleSeconds, TaskConfigVisitor.held_of_mem _ (hkeys (by simp [entries])), hhas.name,
    TaskConfigVisitor.held_of_mem _ (hkeys (by simp [entries])), htimeout]
  show (do
    let params ← task.taskType.deserializeParams v.paramsMap
    return TaskConfig.mk task.taskType task.scheduleSeconds task.name task.timeout params) = _
  rw [hread]
  rfl

theorem TaskConfig.deserialize_taskType {features : Features} {l : List (String × Json)}
    {task : TaskConfig} (h : TaskConfig.deserialize features l = .ok task) :
    task.params.taskType = task.taskType := by
  unfold deserialize at h
  obtain ⟨v, -, h⟩ := Except.bind_eq_ok h
  unfold TaskConfigVisitor.finish at h
  obtain ⟨taskType, -, h⟩ := Except.bind_eq_ok h
  obtain ⟨scheduleSeconds, -, h⟩ := Except.bind_eq_ok h
  obtain ⟨name, -, h⟩ := Except.bind_eq_ok h
  obtain ⟨params, hp, h⟩ := Except.bind_eq_ok h
  obtain rfl := Except.ok.inj h
  exact deserializeParams_taskType hp

theorem validateSqlQuery_fits {params : SqlQueryParams} (h : validateSqlQuery params = .ok ()) :
    (TaskParams.sqlQuery params).fitsToml = true := by
  unfold validateSqlQuery at h
  obtain ⟨-, h⟩ := Except.seq_ok h
  obtain ⟨-, h⟩ := Except.seq_ok h
  obtain ⟨-, h⟩ := Except.seq_ok h
  obtain ⟨hsize, hrows⟩ := Except.seq_ok h
  rw [reject_eq_ok_iff, decide_eq_false_iff_not] at hsize hrows
  have hsize' : params.maxJsonSizeBytes.toNat ≤ 1048576 :=
    UInt64.le_iff_toNat_le.1 (UInt64.not_lt.1 hsize)
  have hrows' : params.maxRows.toNat ≤ 10000 :=
    UInt64.le_iff_toNat_le.1 (UInt64.not_lt.1 hrows)
  simp only [TaskParams.fitsToml, Bool.and_eq_true, decide_eq_true_eq]
  omega

/-- Sizes that validate are far below `i64::MAX`. -/
theorem validate_fitsToml {env : Externals} {task : TaskConfig}
    (h : task.validate env = .ok ()) : task.params.fitsToml = true := by
  have hparams := validate_matches env task h
  unfold TaskConfig.validate at h
  obtain ⟨-, h⟩ := Except.seq_ok h
  obtain ⟨-, h⟩ := Except.seq_ok h
  obtain ⟨-, h⟩ := Except.seq_ok h
  obtain ⟨-, h⟩ := Except.seq_ok h
  obtain ⟨-, h⟩ := Except.seq_ok h
  rw [← hparams] at h
  cases hp : task.params with
  | sqlQuery params =>
    rw [hp] at h
    exact validateSqlQuery_fits h
  | _ => rfl

theorem mapM_serialize {tasks : List TaskConfig} (h : ∀ task ∈ tasks, task.params.fitsToml = true) :
    tasks.mapM TaskConfig.serialize = some (tasks.map TaskConfig.entries) := by
  induction tasks with
  | nil => rfl
  | cons task tasks ih =>
    rw [List.mapM_cons, TaskConfig.serialize_eq (h task List.mem_cons_self),
      ih fun t ht => h t (List.mem_cons_of_mem _ ht)]
    rfl

theorem mapM_ofValue {features : Features} {tasks : List TaskConfig}
    {maps : List (List (String × Json))}
    (hmaps : List.Forall₂ List.Perm maps (tasks.map TaskConfig.entries))
    (h : ∀ task ∈ tasks, task.taskType.enabled features = true ∧
      task.params.taskType = task.taskType) :
    (maps.map Json.obj).mapM (TaskConfig.ofValue features) = .ok tasks := by
  induction tasks generalizing maps with
  | nil =>
    cases hmaps
    rfl
  | cons task tasks ih =>
    cases hmaps with
    | cons hperm hrest =>
      obtain ⟨htype, hparams⟩ := h task List.mem_cons_self
      have hread := TaskConfig.deserialize_perm htype hparams hperm
      rw [List.map_cons, List.mapM_cons, TaskConfig.ofValue, hread,
        ih hrest fun t ht => h t (List.mem_cons_of_mem _ ht)]
      rfl

/-- **A configuration that validates is read back.** -/
theorem deserialize_tasksConfig {env : Externals} {features : Features} {config : TasksConfig}
    (hvalid : config.validate env = .ok ())
    (hbuild : ∀ task ∈ config.tasks, task.taskType.enabled features = true) :
    (∃ maps, config.serialize = some maps ∧
      ∀ maps', List.Forall₂ List.Perm maps' maps →
        TasksConfig.deserialize features (tasksTable maps') = .ok config) ∧
    (∀ t : TaskType, ∀ name ∈ t.paramNames, name ∉ taskNames) ∧
    ∀ l task, TaskConfig.deserialize features l = .ok task →
      task.params.taskType = task.taskType := by
  obtain ⟨-, htasks⟩ := (validate_eq_ok_iff env config).1 hvalid
  refine ⟨⟨config.tasks.map TaskConfig.entries, ?_, fun maps' hmaps => ?_⟩, paramNames_disjoint,
    fun l task => TaskConfig.deserialize_taskType⟩
  · exact mapM_serialize fun task ht => validate_fitsToml (htasks task ht)
  · have hread : (maps'.map Json.obj).mapM (TaskConfig.ofValue features) = .ok config.tasks :=
      mapM_ofValue hmaps fun task ht =>
        ⟨hbuild task ht, validate_matches env task (htasks task ht)⟩
    show TasksConfig.mk <$> (maps'.map Json.obj).mapM (TaskConfig.ofValue features) = _
    rw [hread]
    rfl

/-- `https://example.com`, and any pattern. -/
def exampleUrls : Externals :=
  ⟨fun _ => .ok ⟨"https", some "example.com", "", none⟩, fun _ => .ok (), Char.isAlphanum⟩

def pageAndRows : TasksConfig :=
  ⟨[⟨.httpGet, 60, "page", some 5,
      .httpGet ⟨"https://example.com", 10, [("Accept", "text/html")], true, none⟩⟩,
    ⟨.sqlQuery, 60, "rows", none,
      .sqlQuery ⟨"SELECT 1", "postgresql://localhost/db", "postgres", none, some "secret", 30, none,
        .json, 65536, 1000⟩⟩]⟩

theorem deserialize_pageAndRows :
    pageAndRows.validate exampleUrls = .ok () ∧
    ∃ maps, pageAndRows.serialize = some maps ∧
      ∀ maps', List.Forall₂ List.Perm maps' maps →
        TasksConfig.deserialize ⟨true, true⟩ (tasksTable maps') = .ok pageAndRows := by
  have hvalid : pageAndRows.validate exampleUrls = .ok () := by rfl
  exact ⟨hvalid, (deserialize_tasksConfig hvalid (by decide)).1⟩

end LinkSense
