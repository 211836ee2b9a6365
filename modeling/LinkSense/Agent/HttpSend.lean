import Mathlib.Data.Bool.AllAny
import LinkSense.Agent.Tasks
import LinkSense.HttpRequest

/-!
# The request of an HTTP probe

`from_string` and `get_http_send_timing` of `agent/src/task_http.rs`: the text that goes out once
there is a connection.  The `url` crate is a parameter.

    the request is the configured one ↔ there is no query and no port in the URL, no header but what
      is sent anyway, and the URL begins with its scheme             (sendsConfigured_iff)
-/

namespace LinkSense

open Http Scan

/-! ## URLs -/

/-- A visible character of ASCII. -/
def isVisible (c : Char) : Bool := 33 ≤ c.toNat && c.toNat ≤ 126

/-- `url::Url`.  Path and host of a web address are of visible characters, a `?` is in no path, and
a colon in no host but an IPv6 address in its brackets. -/
structure Url extends ParsedUrl where
  path : String
  query : Option String
  /-- The port, unless it is the scheme's own. -/
  port : Option UInt16
  pathText : scheme = "http" ∨ scheme = "https" →
    ∀ c ∈ path.toList, isVisible c = true ∧ c ≠ '?'
  hostText : scheme = "http" ∨ scheme = "https" → ∀ h ∈ host,
    (∀ c ∈ h.toList, isVisible c = true) ∧ (':' ∉ h.toList ∨ h.toList.getLast? = some ']')

/-- `Url::parse`. -/
structure UrlCrate where
  parse : String → Except String Url
  http : ∀ s u, "http://".toList <+: s.toList → parse s = .ok u → u.scheme = "http"
  https : ∀ s u, "https://".toList <+: s.toList → parse s = .ok u → u.scheme = "https"

/-- The validator has the same crate. -/
def Externals.withUrls (env : Externals) (crate : UrlCrate) : Externals :=
  { env with urlParse := fun s => (crate.parse s).map Url.toParsedUrl }

/-! ## Sending -/

/-- The URL of `from_string`. -/
def completeScheme (url : String) : String :=
  if !"http://".toList.isPrefixOf url.toList && !"https://".toList.isPrefixOf url.toList then
    s!"https://{url}"
  else url

def requestText (path host : String) : String :=
  s!"GET {path} HTTP/1.1\r\nHost: {host}\r\nUser-Agent: curl/8.7.1\r\nConnection: close\r\n" ++
    "Accept: */*\r\n\r\n"

/-- `get_http_send_timing`. -/
def httpSend (url : Url) : Except String String :=
  let path := if url.path = "" then "/" else url.path
  match url.host with
  | some host => .ok (requestText path host)
  | none => .error "invalid url host"

/-- The host and port that `resolve_dns` looks up.  The port of the scheme is found even where the
URL has its own. -/
def resolveDns (url : Url) : Except String (String × UInt16) :=
  match url.host with
  | none => .error "invalid url"
  | some domain =>
    if url.scheme = "http" then .ok (domain, url.port.getD 80)
    else if url.scheme = "https" then .ok (domain, url.port.getD 443)
    else .error "invalid url scheme"

/-- What `from_string` sends, when it gets a connection. -/
def fromString (crate : UrlCrate) (url : String) : Except String String :=
  match crate.parse (completeScheme url) with
  | .error e => .error s!"invalid url: {e}"
  | .ok url =>
    match resolveDns url with
    | .error e => .error e
    | .ok _ => httpSend url

/-! ## What is asked for -/

/-- The target of a request for this URL. -/
def Url.target (url : Url) : List Char :=
  (if url.path = "" then "/" else url.path).toList ++
    match url.query with
    | some query => '?' :: query.toList
    | none => []

/-- The `Host` field of a request for this URL. -/
def Url.authority (url : Url) : List Char :=
  (url.host.getD "").toList ++
    match url.port with
    | some port => ':' :: (toString port.toNat).toList
    | none => []

/-- One request goes out, for this URL and with these headers. -/
def SendsConfigured (crate : UrlCrate) (params : HttpGetParams) : Prop :=
  ∃ url text r, crate.parse params.url = .ok url ∧ fromString crate params.url = .ok text ∧
    parseRequest text.toList = some r ∧ r.method = "GET".toList ∧ r.target = url.target ∧
    r.values "Host".toList = [url.authority] ∧
    ∀ header ∈ params.headers, r.countField header.1.toList header.2.toList = 1

/-- The fields that are sent for a host. -/
def sentFields (host : String) : List (String × String) :=
  [("Host", host), ("User-Agent", "curl/8.7.1"), ("Connection", "close"), ("Accept", "*/*")]

/-- Nothing is asked for that is not sent. -/
structure Sendable (crate : UrlCrate) (params : HttpGetParams) (url : Url) (host : String) :
    Prop where
  parsed : crate.parse params.url = .ok url
  hosted : url.host = some host
  /-- The scheme is there, or another one before it makes no difference. -/
  completed : ∃ url', crate.parse (completeScheme params.url) = .ok url' ∧
    url'.host = url.host ∧
    (if url'.path = "" then "/" else url'.path) = if url.path = "" then "/" else url.path
  query : url.query = none
  port : url.port = none
  headers : ∀ header ∈ params.headers, ∃ field ∈ sentFields host,
    sameName field.1.toList header.1.toList = true ∧ field.2 = header.2

/-! ## The request that goes out -/

theorem toList_requestText (path host : String) : (requestText path host).toList =
    ("GET ".toList ++ path.toList ++ " HTTP/1.1".toList) ++ '\r' :: '\n' ::
      (("Host: ".toList ++ host.toList) ++ '\r' :: '\n' ::
        ("User-Agent: curl/8.7.1".toList ++ '\r' :: '\n' ::
          ("Connection: close".toList ++ '\r' :: '\n' ::
            ("Accept: */*".toList ++ '\r' :: '\n' :: '\r' :: '\n' :: [])))) := by
  unfold requestText
  simp [String.toList_append, toString]

theorem parseField_append (name : List Char) (hname : name ≠ [] ∧ name.all isTokenChar = true)
    (hcolon : ':' ∉ name) {value : List Char} (hvalue : ∀ c ∈ value, isBlank c = false) :
    parseField (name ++ ':' :: ' ' :: value) = some (name, value) := by
  unfold parseField
  simp only [cutFirst_append hcolon, if_pos hname, trimBlanks_eq hvalue]

theorem isBlank_of_isVisible {c : Char} (h : isVisible c = true) : isBlank c = false := by
  unfold isBlank
  rw [Bool.or_eq_false_iff, beq_eq_false_iff_ne, beq_eq_false_iff_ne]
  refine ⟨?_, ?_⟩
  · rintro rfl
    revert h
    decide
  · rintro rfl
    revert h
    decide

/-- **One request is read** from the text, with the fields that are always sent. -/
theorem parseRequest_requestText {path host : String}
    (hpath : ∀ c ∈ path.toList, isVisible c = true)
    (hhost : ∀ c ∈ host.toList, isVisible c = true) :
    parseRequest (requestText path host).toList =
      some ⟨"GET".toList, path.toList, "HTTP/1.1".toList,
        (sentFields host).map fun field => (field.1.toList, field.2.toList)⟩ := by
  have hnot : ∀ {s : String} {c : Char}, (∀ c ∈ s.toList, isVisible c = true) →
      isVisible c = false → c ∉ s.toList := by
    intro s c hs hc hmem
    rw [hs c hmem] at hc
    cases hc
  have hlines : splitCrlf (requestText path host).toList =
      ["GET ".toList ++ path.toList ++ " HTTP/1.1".toList, "Host: ".toList ++ host.toList,
        "User-Agent: curl/8.7.1".toList, "Connection: close".toList, "Accept: */*".toList, [],
        []] := by
    rw [toList_requestText, splitCrlf_append, splitCrlf_append, splitCrlf_append (by decide),
      splitCrlf_append (by decide), splitCrlf_append (by decide)]
    · rfl
    · rw [List.mem_append, not_or]
      exact ⟨by decide, hnot hhost rfl⟩
    · rw [List.mem_append, List.mem_append, not_or, not_or]
      exact ⟨⟨by decide, hnot hpath rfl⟩, by decide⟩
  have hfirst : ("GET ".toList ++ path.toList ++ " HTTP/1.1".toList).splitOn ' ' =
      ["GET".toList, path.toList, "HTTP/1.1".toList] := by
    have hshape : "GET ".toList ++ path.toList ++ " HTTP/1.1".toList =
        "GET".toList ++ ' ' :: (path.toList ++ ' ' :: "HTTP/1.1".toList) := by simp
    rw [hshape, List.splitOn_append_cons_self_of_not_mem (by decide),
      List.splitOn_append_cons_self_of_not_mem (hnot hpath rfl),
      List.splitOn_eq_singleton (by decide)]
  have hhostField : parseField ("Host: ".toList ++ host.toList) =
      some ("Host".toList, host.toList) :=
    parseField_append "Host".toList (by decide) (by decide)
      fun c hc => isBlank_of_isVisible (hhost c hc)
  have hagent : parseField "User-Agent: curl/8.7.1".toList =
      some ("User-Agent".toList, "curl/8.7.1".toList) := by decide
  have hconnection : parseField "Connection: close".toList =
      some ("Connection".toList, "close".toList) := by decide
  have haccept : parseField "Accept: */*".toList = some ("Accept".toList, "*/*".toList) := by
    decide
  have hne : ("Host: ".toList ++ host.toList) ≠ [] := by simp
  generalize "Host: ".toList ++ host.toList = hostLine at hlines hhostField hne
  unfold parseRequest
  rw [hlines]
  simp only [hfirst]
  rw [List.dropWhile_cons_of_pos (by simpa using hne),
    List.takeWhile_cons_of_pos (by simpa using hne)]
  show ((hostLine :: ["User-Agent: curl/8.7.1".toList, "Connection: close".toList,
    "Accept: */*".toList]).mapM parseField).map _ = _
  simp only [List.mapM_cons, List.mapM_nil, hhostField, hagent, hconnection, haccept]
  rfl

/-! ## What is asked for and what is sent -/

/-- The request of `requestText`. -/
def sentRequest (path host : String) : Http.Request :=
  ⟨"GET".toList, path.toList, "HTTP/1.1".toList,
    (sentFields host).map fun field => (field.1.toList, field.2.toList)⟩

theorem values_sentRequest (path host : String) :
    (sentRequest path host).values "Host".toList = [host.toList] := by
  have hhost : sameName "Host".toList "Host".toList = true := by decide
  have hagent : sameName "User-Agent".toList "Host".toList = false := by decide
  have hconnection : sameName "Connection".toList "Host".toList = false := by decide
  have haccept : sameName "Accept".toList "Host".toList = false := by decide
  unfold Http.Request.values sentRequest sentFields
  simp only [List.map_cons, List.map_nil, List.filter_cons, List.filter_nil, hhost, hagent,
    hconnection, haccept]
  rfl

theorem nodup_sentRequest (path host : String) :
    ((sentRequest path host).fields.map fun field => field.1.map Char.toLower).Nodup := by
  have hnames : (sentRequest path host).fields.map (fun field => field.1.map Char.toLower) =
      ["Host".toList, "User-Agent".toList, "Connection".toList, "Accept".toList].map
        (List.map Char.toLower) := by
    simp only [sentRequest, sentFields, List.map_cons, List.map_nil]
  rw [hnames]
  decide

theorem countField_sentRequest (path host name value : String) :
    (sentRequest path host).countField name.toList value.toList = 1 ↔
      ∃ field ∈ sentFields host, sameName field.1.toList name.toList = true ∧ field.2 = value := by
  rw [Http.Request.countField_eq_one_iff (nodup_sentRequest path host)]
  unfold sentRequest
  simp [String.toList_inj]

theorem scheme_of_parse {crate : UrlCrate} {s : String} {url : Url}
    (h : crate.parse (completeScheme s) = .ok url) :
    url.scheme = "http" ∨ url.scheme = "https" := by
  unfold completeScheme at h
  split_ifs at h with hprefix
  · refine .inr (crate.https _ _ ?_ h)
    exact ⟨s.toList, by simp [toString]⟩
  · rw [Bool.and_eq_true, Bool.not_eq_true', Bool.not_eq_true', not_and_or, Bool.not_eq_false,
      Bool.not_eq_false, List.isPrefixOf_iff_prefix, List.isPrefixOf_iff_prefix] at hprefix
    exact hprefix.imp (fun hs => crate.http _ _ hs h) fun hs => crate.https _ _ hs h

/-- A web address is looked up where it has a host. -/
theorem resolveDns_of_scheme {url : Url} (h : url.scheme = "http" ∨ url.scheme = "https") :
    resolveDns url = match url.host with
      | none => .error "invalid url"
      | some domain => .ok (domain, url.port.getD (if url.scheme = "http" then 80 else 443)) := by
  unfold resolveDns
  cases url.host with
  | none => rfl
  | some domain => rcases h with h | h <;> simp [h]

/-- What goes out is the text of the completed URL. -/
theorem fromString_eq_ok_iff {crate : UrlCrate} {s text : String} :
    fromString crate s = .ok text ↔ ∃ url host, crate.parse (completeScheme s) = .ok url ∧
      url.host = some host ∧
      text = requestText (if url.path = "" then "/" else url.path) host := by
  unfold fromString
  cases hparse : crate.parse (completeScheme s) with
  | error e => simp
  | ok url =>
    dsimp only
    rw [resolveDns_of_scheme (scheme_of_parse hparse)]
    cases hhost : url.host with
    | none => simp [hhost]
    | some host =>
      simp only [httpSend, hhost, Except.ok.injEq]
      constructor
      · rintro rfl
        exact ⟨url, host, rfl, hhost, rfl⟩
      · rintro ⟨url', host', rfl, hhost', rfl⟩
        rw [Option.some.inj (hhost.symm.trans hhost')]

theorem isVisible_path {url : Url} (h : url.scheme = "http" ∨ url.scheme = "https") :
    ∀ c ∈ (if url.path = "" then "/" else url.path).toList, isVisible c = true ∧ c ≠ '?' := by
  split
  · exact List.forall_mem_singleton.2 (by decide)
  · exact url.pathText h

/-- The request of a URL, when it is sent. -/
theorem parseRequest_fromString {crate : UrlCrate} {s text : String}
    (h : fromString crate s = .ok text) : ∃ url host, crate.parse (completeScheme s) = .ok url ∧
      url.host = some host ∧
      parseRequest text.toList =
        some (sentRequest (if url.path = "" then "/" else url.path) host) := by
  obtain ⟨url, host, hparse, hhost, rfl⟩ := fromString_eq_ok_iff.1 h
  have hscheme := scheme_of_parse hparse
  refine ⟨url, host, hparse, hhost, parseRequest_requestText ?_ (url.hostText hscheme host hhost).1⟩
  exact fun c hc => (isVisible_path hscheme c hc).1

/-- A host is not the host and the port of another URL. -/
theorem port_eq_none_of_authority {url url' : Url} {host : String}
    (hscheme : url'.scheme = "http" ∨ url'.scheme = "https") (hhost : url'.host = some host)
    (h : host.toList = url.authority) : url.port = none := by
  cases hport : url.port with
  | none => rfl
  | some port =>
    unfold Url.authority at h
    rw [hport] at h
    rcases (url'.hostText hscheme host hhost).2 with hcolon | hlast
    · rw [h] at hcolon
      exact absurd (List.mem_append_right _ List.mem_cons_self) hcolon
    · -- the last character of a port is a digit
      simp only [Nat.toString_eq_repr, Nat.toList_repr] at h
      rw [h, List.getLast?_append, List.getLast?_cons_of_ne_nil Nat.toDigits_ne_nil] at hlast
      cases hdigit : (Nat.toDigits 10 port.toNat).getLast? with
      | none => exact absurd (List.getLast?_eq_none_iff.1 hdigit) Nat.toDigits_ne_nil
      | some c =>
        rw [hdigit] at hlast
        obtain rfl := Option.some.inj hlast
        exact absurd (Nat.isDigit_of_mem_toDigits (by omega) (by omega)
          (List.mem_of_getLast? hdigit)) (by decide)

theorem Except.map_eq_ok {ε α β : Type} {x : Except ε α} {f : α → β} {b : β}
    (h : x.map f = .ok b) : ∃ a, x = .ok a ∧ f a = b := by
  cases x with
  | error e => cases h
  | ok a => exact ⟨a, rfl, Except.ok.inj h⟩

/-- A URL that validates has a host. -/
theorem host_of_validate {crate : UrlCrate} {env : Externals} {task : TaskConfig}
    {params : HttpGetParams} (hparams : task.params = .httpGet params)
    (hvalid : task.validate (env.withUrls crate) = .ok ()) :
    ∃ url host, crate.parse params.url = .ok url ∧ url.host = some host := by
  have hmatches := validate_matches _ task hvalid
  have h := validateParams_of_validate hvalid
  rw [hparams] at hmatches h
  rw [← hmatches] at h
  obtain ⟨-, h⟩ := Except.seq_ok (show requireField _ _ >>= _ = _ from h)
  unfold validateUrl at h
  split at h
  · cases h
  · next parsed hparsed =>
    obtain ⟨url, hurl, rfl⟩ := Except.map_eq_ok hparsed
    cases hhost : url.host with
    | some host => exact ⟨url, host, hurl, hhost⟩
    | none =>
      rw [hhost] at h
      split_ifs at h with hsecure hweb hnone
      exact absurd rfl hnone

/-- **The request is the configured one** exactly when nothing else is asked for. -/
theorem sendsConfigured_iff (crate : UrlCrate) (env : Externals) (task : TaskConfig)
    (params : HttpGetParams) (hparams : task.params = .httpGet params)
    (hvalid : task.validate (env.withUrls crate) = .ok ()) :
    SendsConfigured crate params ↔ ∃ url host, Sendable crate params url host := by
  obtain ⟨url₀, host₀, hparse₀, hhost₀⟩ := host_of_validate hparams hvalid
  constructor
  · rintro ⟨url, text, r, hparse, hsend, hread, -, htarget, hhost, hheaders⟩
    obtain ⟨url', host, hparse', hhost', hread'⟩ := parseRequest_fromString hsend
    have hscheme := scheme_of_parse hparse'
    obtain rfl := Option.some.inj (hread.symm.trans hread')
    rw [values_sentRequest, List.singleton_inj] at hhost
    have hport := port_eq_none_of_authority hscheme hhost' hhost
    have hquery : url.query = none := by
      cases hq : url.query with
      | none => rfl
      | some query =>
        have hmark : '?' ∈ url.target := by
          unfold Url.target
          simp [hq]
        rw [← htarget] at hmark
        exact absurd rfl (isVisible_path hscheme '?' hmark).2
    have hsame : url.host = some host := by
      obtain rfl := Except.ok.inj (hparse₀.symm.trans hparse)
      unfold Url.authority at hhost
      rw [hhost₀, hport, List.append_nil, Option.getD_some] at hhost
      rw [hhost₀, String.toList_inj.1 hhost]
    refine ⟨url, host, hparse, hsame, ⟨url', hparse', hhost'.trans hsame.symm, ?_⟩, hquery, hport,
      ?_⟩
    · refine String.toList_inj.1 (htarget.trans ?_)
      unfold Url.target
      rw [hquery, List.append_nil]
    · intro header hmem
      exact (countField_sentRequest _ _ _ _).1 (hheaders header hmem)
  · rintro ⟨url, host, hparse, hhost, ⟨url', hparse', hsame, hpath⟩, hquery, hport, hheaders⟩
    have hhost' := hsame.trans hhost
    have hsend := fromString_eq_ok_iff.2 ⟨url', host, hparse', hhost', rfl⟩
    obtain ⟨url'', host'', hparse'', hhost'', hread⟩ := parseRequest_fromString hsend
    obtain rfl := Except.ok.inj (hparse'.symm.trans hparse'')
    obtain rfl := Option.some.inj (hhost'.symm.trans hhost'')
    refine ⟨url, _, _, hparse, hsend, hread, rfl, ?_, ?_, ?_⟩
    · show (if url'.path = "" then "/" else url'.path).toList = _
      unfold Url.target
      rw [hpath, hquery, List.append_nil]
    · rw [values_sentRequest]
      unfold Url.authority
      rw [hhost, hport, List.append_nil]
      rfl
    · exact fun header hmem => (countField_sentRequest _ _ _ _).2 (hheaders header hmem)

/-! ## A query and a header -/

/-- `https://example.com/health`, with a query. -/
def healthUrl (query : Option String) : Url where
  scheme := "https"
  host := some "example.com"
  username := ""
  password := none
  path := "/health"
  query := query
  port := none
  pathText := fun _ => List.all_iff_forall_prop.1 (by decide)
  hostText := fun _ h hh => by
    obtain rfl := Option.some.inj hh
    exact ⟨List.all_eq_true.1 (by decide), by decide⟩

def exampleCrate : UrlCrate where
  parse := fun s =>
    if s = "https://example.com/health" then .ok (healthUrl none)
    else if s = "https://example.com/health?full=1" then .ok (healthUrl (some "full=1"))
    else .error "relative URL without a base"
  http := fun s u hs hu => by
    split_ifs at hu with hplain hquery
    · rw [hplain] at hs
      exact absurd hs (by decide)
    · rw [hquery] at hs
      exact absurd hs (by decide)
  https := fun s u hs hu => by
    split_ifs at hu with hplain hquery
    · rw [← Except.ok.inj hu]
      rfl
    · rw [← Except.ok.inj hu]
      rfl

def healthParams (url : String) (headers : List (String × String)) : HttpGetParams :=
  ⟨url, 10, headers, false, none⟩

def healthTask (url : String) (headers : List (String × String)) : TaskConfig :=
  ⟨.httpGet, 30, "health", none, .httpGet (healthParams url headers)⟩

/-- Without a query and a header the request is sent. -/
theorem sendsConfigured_iff_health :
    SendsConfigured exampleCrate (healthParams "https://example.com/health" []) := by
  refine (sendsConfigured_iff exampleCrate exampleExternals
    (healthTask "https://example.com/health" []) _ rfl (by rfl)).2 ⟨healthUrl none, "example.com", ?_⟩
  exact ⟨rfl, rfl, ⟨healthUrl none, rfl, rfl, rfl⟩, rfl, rfl, List.forall_mem_nil _⟩

/-- The query is not sent, and neither is a header. -/
theorem not_sendsConfigured_health :
    ((healthTask "https://example.com/health?full=1" []).validate
        (exampleExternals.withUrls exampleCrate) = .ok () ∧
      ¬ SendsConfigured exampleCrate (healthParams "https://example.com/health?full=1" [])) ∧
    (healthTask "https://example.com/health" [("X-Custom-Header", "monitoring")]).validate
        (exampleExternals.withUrls exampleCrate) = .ok () ∧
      ¬ SendsConfigured exampleCrate
        (healthParams "https://example.com/health" [("X-Custom-Header", "monitoring")]) := by
  have hread : parseRequest (requestText "/health" "example.com").toList =
      some (sentRequest "/health" "example.com") :=
    parseRequest_requestText (List.all_eq_true.1 (by decide)) (List.all_eq_true.1 (by decide))
  refine ⟨⟨by rfl, ?_⟩, by rfl, ?_⟩
  · rintro ⟨url, text, r, hparse, hsend, hr, -, htarget, -⟩
    obtain rfl : healthUrl (some "full=1") = url := Except.ok.inj hparse
    obtain rfl : requestText "/health" "example.com" = text := Except.ok.inj hsend
    obtain rfl := Option.some.inj (hread.symm.trans hr)
    exact absurd htarget (by decide)
  · rintro ⟨url, text, r, -, hsend, hr, -, -, -, hheaders⟩
    obtain rfl : requestText "/health" "example.com" = text := Except.ok.inj hsend
    obtain rfl := Option.some.inj (hread.symm.trans hr)
    exact absurd (hheaders _ List.mem_cons_self) (by decide +kernel)

end LinkSense
