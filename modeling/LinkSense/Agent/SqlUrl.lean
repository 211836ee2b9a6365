import LinkSense.Shared.Config
import LinkSense.UrlGrammar

/-!
# The URL of a database

`build_connection_url` of `agent/src/task_sql.rs` puts the credentials into the URL as they are.

    the URL is read as these credentials and this database ↔ they have no character that stands for
      something else where they are                                              (recovers_iff)
-/

namespace LinkSense

open UrlGrammar Scan Utf8

/-- `build_connection_url`. -/
def buildConnectionUrl (params : SqlQueryParams) : String :=
  match params.username, params.password with
  | some username, some password =>
    s!"{params.databaseType}://{username}:{password}@{params.databaseUrl}"
  | some username, none => s!"{params.databaseType}://{username}@{params.databaseUrl}"
  | none, _ => s!"{params.databaseType}://{params.databaseUrl}"

/-- A driver that reads the URL gets these credentials, and this database. -/
def Recovers (params : SqlQueryParams) : Prop :=
  ∃ parts, splitUrl (buildConnectionUrl params).toList = some parts ∧
    parts.username = params.username.map (fun username => toUtf8 username.toList) ∧
    parts.password = params.password.map (fun password => toUtf8 password.toList) ∧
    parts.rest = params.databaseUrl.toList

/-- No end of an authority, and no escape. -/
structure Literal (s : String) : Prop where
  inside : ∀ c ∈ s.toList, endsAuthority c = false
  unescaped : hasEscape s.toList = false

structure CredentialsSafe (params : SqlQueryParams) : Prop where
  databaseType : ':' ∉ params.databaseType.toList
  databaseUrl : '@' ∉ params.databaseUrl.toList.takeWhile (!endsAuthority ·)
  username : ∀ username ∈ params.username, Literal username ∧ ':' ∉ username.toList
  password : ∀ password ∈ params.password, params.username ≠ none ∧ Literal password

/-! ## What is before the database -/

/-- The userinfo of the URL. -/
def SqlQueryParams.userinfo (params : SqlQueryParams) : Option (List Char) :=
  match params.username, params.password with
  | some username, some password => some (username.toList ++ ':' :: password.toList)
  | some username, none => some username.toList
  | none, _ => none

def SqlQueryParams.afterScheme (params : SqlQueryParams) : List Char :=
  match params.userinfo with
  | some userinfo => userinfo ++ '@' :: params.databaseUrl.toList
  | none => params.databaseUrl.toList

theorem toList_buildConnectionUrl (params : SqlQueryParams) :
    (buildConnectionUrl params).toList =
      params.databaseType.toList ++ ':' :: '/' :: '/' :: params.afterScheme := by
  have hslashes : ("://" : String).toList = [':', '/', '/'] := rfl
  have hcolon : (":" : String).toList = [':'] := rfl
  have hat : ("@" : String).toList = ['@'] := rfl
  unfold buildConnectionUrl SqlQueryParams.afterScheme SqlQueryParams.userinfo
  cases params.username with
  | none => simp [String.toList_append, hslashes, toString]
  | some username =>
    cases params.password with
    | none => simp [String.toList_append, hslashes, hat, toString]
    | some password => simp [String.toList_append, hslashes, hcolon, hat, toString]

theorem length_databaseUrl_le (params : SqlQueryParams) :
    params.databaseUrl.toList.length ≤ params.afterScheme.length := by
  unfold SqlQueryParams.afterScheme
  split
  · simp only [List.length_append, List.length_cons]
    omega
  · exact le_refl _

/-- A `:` in the type is taken for the end of the scheme. -/
theorem databaseType_of_recovers {params : SqlQueryParams} (h : Recovers params) :
    ':' ∉ params.databaseType.toList := by
  intro hmem
  obtain ⟨parts, hparts, -, -, hrest⟩ := h
  obtain ⟨scheme, rest, hcut, rfl⟩ := splitUrl_eq_some.1 hparts
  obtain ⟨a, b, hab, ha⟩ := exists_first hmem
  rw [toList_buildConnectionUrl, hab, List.append_assoc, List.cons_append,
    cutFirst_append ha] at hcut
  obtain ⟨rfl, hb⟩ := Prod.mk.inj (Option.some.inj hcut)
  -- the type goes on with `//`, and the true `//` ends the authority
  rcases b with _ | ⟨c, _ | ⟨d, b⟩⟩
  · simp at hb
  · simp at hb
  · simp only [List.cons_append, List.cons.injEq] at hb
    obtain ⟨-, -, rfl⟩ := hb
    have hlt := lt_length_rest a (c := '/') (by decide) (b ++ [':']) ('/' :: params.afterScheme)
    rw [List.append_assoc, List.singleton_append, hrest, List.length_cons] at hlt
    have hle := length_databaseUrl_le params
    omega

theorem splitUrl_buildConnectionUrl {params : SqlQueryParams}
    (h : ':' ∉ params.databaseType.toList) :
    splitUrl (buildConnectionUrl params).toList =
      some (splitAuthority params.databaseType.toList params.afterScheme) := by
  rw [toList_buildConnectionUrl]
  exact splitUrl_eq_some.2 ⟨_, _, cutFirst_append h _, rfl⟩

theorem recovers_of_scheme {params : SqlQueryParams} (h : ':' ∉ params.databaseType.toList) :
    Recovers params ↔
      (splitAuthority params.databaseType.toList params.afterScheme).username =
          params.username.map (fun username => toUtf8 username.toList) ∧
        (splitAuthority params.databaseType.toList params.afterScheme).password =
          params.password.map (fun password => toUtf8 password.toList) ∧
        (splitAuthority params.databaseType.toList params.afterScheme).rest =
          params.databaseUrl.toList := by
  unfold Recovers
  rw [splitUrl_buildConnectionUrl h]
  simp

/-! ## The credentials -/

theorem forall_mem_userinfo {username password : List Char} :
    (∀ c ∈ username ++ ':' :: password, endsAuthority c = false) ↔
      (∀ c ∈ username, endsAuthority c = false) ∧ ∀ c ∈ password, endsAuthority c = false := by
  rw [List.forall_mem_append, List.forall_mem_cons]
  simp [show endsAuthority ':' = false from rfl]

section

variable {params : SqlQueryParams} (htype : ':' ∉ params.databaseType.toList)

include htype

theorem recovers_iff_of_none (husername : params.username = none) :
    Recovers params ↔ CredentialsSafe params := by
  rw [recovers_of_scheme htype]
  simp only [SqlQueryParams.afterScheme, SqlQueryParams.userinfo, husername]
  constructor
  · rintro ⟨hname, hpassword, -⟩
    have hat : '@' ∉ params.databaseUrl.toList.takeWhile (!endsAuthority ·) :=
      fun hmem => username_ne_none _ hmem hname
    simp only [splitAuthority_plain _ hat] at hpassword
    have hnone : params.password = none := Option.map_eq_none_iff.1 hpassword.symm
    exact ⟨htype, hat, by simp [husername], by simp [hnone]⟩
  · rintro ⟨-, hat, -, hpassword⟩
    have hnone : params.password = none := by
      refine Option.eq_none_iff_forall_ne_some.2 fun password h => ?_
      exact (hpassword password h).1 husername
    simp [splitAuthority_plain _ hat, hnone]

theorem recovers_iff_of_username {username : String} (husername : params.username = some username)
    (hpassword : params.password = none) : Recovers params ↔ CredentialsSafe params := by
  rw [recovers_of_scheme htype]
  simp only [SqlQueryParams.afterScheme, SqlQueryParams.userinfo, husername, hpassword]
  constructor
  · rintro ⟨hname, hnone, hrest⟩
    obtain ⟨hinside, hat⟩ := (rest_eq_iff _).1 hrest
    simp only [splitAuthority_userinfo hinside _ _ hat] at hname hnone
    have hcolon : ':' ∉ username.toList := by
      intro hmem
      obtain ⟨a, b, hab, ha⟩ := exists_first hmem
      rw [hab, splitUserinfo_password ha] at hnone
      cases hnone
    rw [splitUserinfo_plain hcolon] at hname
    have hliteral : Literal username :=
      ⟨hinside, (percentDecode_eq_iff _).1 (Option.some.inj hname)⟩
    exact ⟨htype, hat, by simp [husername, hliteral, hcolon], by simp [hpassword]⟩
  · rintro ⟨-, hat, hname, -⟩
    obtain ⟨hliteral, hcolon⟩ := hname username husername
    rw [splitAuthority_userinfo hliteral.inside _ _ hat, splitUserinfo_plain hcolon]
    simp [(percentDecode_eq_iff _).2 hliteral.unescaped]

theorem recovers_iff_of_password {username password : String}
    (husername : params.username = some username) (hpassword : params.password = some password) :
    Recovers params ↔ CredentialsSafe params := by
  rw [recovers_of_scheme htype]
  simp only [SqlQueryParams.afterScheme, SqlQueryParams.userinfo, husername, hpassword]
  constructor
  · rintro ⟨hname, hword, hrest⟩
    obtain ⟨hinside, hat⟩ := (rest_eq_iff _).1 hrest
    simp only [splitAuthority_userinfo hinside _ _ hat] at hname hword
    obtain ⟨hinsideName, hinsideWord⟩ := forall_mem_userinfo.1 hinside
    have hcolon : ':' ∉ username.toList :=
      fun hmem => percentDecode_fst_ne hmem _ (Option.some.inj hname)
    rw [splitUserinfo_password hcolon] at hname hword
    have hliteral : Literal username :=
      ⟨hinsideName, (percentDecode_eq_iff _).1 (Option.some.inj hname)⟩
    have hliteralWord : Literal password :=
      ⟨hinsideWord, (percentDecode_eq_iff _).1 (Option.some.inj hword)⟩
    exact ⟨htype, hat, by simp [husername, hliteral, hcolon],
      by simp [hpassword, husername, hliteralWord]⟩
  · rintro ⟨-, hat, hname, hword⟩
    obtain ⟨hliteral, hcolon⟩ := hname username husername
    obtain ⟨-, hliteralWord⟩ := hword password hpassword
    have hinside := forall_mem_userinfo.2 ⟨hliteral.inside, hliteralWord.inside⟩
    rw [splitAuthority_userinfo hinside _ _ hat, splitUserinfo_password hcolon]
    simp [(percentDecode_eq_iff _).2 hliteral.unescaped,
      (percentDecode_eq_iff _).2 hliteralWord.unescaped]

end

/-- **Credentials survive the URL** exactly when they are safe. -/
theorem recovers_iff (params : SqlQueryParams) : Recovers params ↔ CredentialsSafe params := by
  by_cases htype : ':' ∈ params.databaseType.toList
  · exact ⟨fun h => absurd htype (databaseType_of_recovers h), fun h => absurd htype h.databaseType⟩
  cases husername : params.username with
  | none => exact recovers_iff_of_none htype husername
  | some username =>
    cases hpassword : params.password with
    | none => exact recovers_iff_of_username htype husername hpassword
    | some password => exact recovers_iff_of_password htype husername hpassword

/-- A password with an `@` and a `/` in it. -/
def slashPassword : SqlQueryParams :=
  ⟨"SELECT 1", "localhost/db", "postgresql", some "monitor", some "x@evil.com/", 10, none, .json,
    65536, 1⟩

/-- The host is another one. -/
theorem not_recovers_slashPassword :
    validateSqlQuery slashPassword = .ok () ∧
      (splitUrl (buildConnectionUrl slashPassword).toList).map (String.ofList ·.rest) =
        some "evil.com/@localhost/db" ∧
      ¬ Recovers slashPassword := by
  have hparts : (splitUrl (buildConnectionUrl slashPassword).toList).map (String.ofList ·.rest) =
      some "evil.com/@localhost/db" := by decide +kernel
  refine ⟨by decide, hparts, ?_⟩
  rintro ⟨parts, h, -, -, hrest⟩
  rw [h, Option.map_some, hrest] at hparts
  exact absurd hparts (by decide)

end LinkSense
