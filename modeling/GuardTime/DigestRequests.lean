import GuardTime.AuthParams
import GuardTime.Policy

namespace GuardTime

namespace Digest

open AuthParams

structure Challenge where
  realm : Text
  nonce : Text
  qop : Option Text
  opaqueValue : Option Text
deriving DecidableEq

/-- `key="([^"]+)"` at the start of a text. -/
def quotedAt (key : Text) (text : Text) : Option Text :=
  let pattern := key ++ ['=', '"']
  let rest := text.drop pattern.length
  let value := rest.takeWhile (· ≠ '"')
  if text.take pattern.length = pattern ∧ value ≠ [] ∧ rest.dropWhile (· ≠ '"') ≠ [] then some value
  else none

def realmKey : Text := "realm".toList

def nonceKey : Text := "nonce".toList

def qopKey : Text := "qop".toList

def opaqueKey : Text := "opaque".toList

/-- `qop="?([^",]+)"?` at the start of a text. -/
def qopAt (text : Text) : Option Text :=
  let pattern := qopKey ++ ['=']
  let rest := text.drop pattern.length
  let value := (if rest.head? = some '"' then rest.tail else rest).takeWhile fun c => c ≠ '"' ∧ c ≠ ','
  if text.take pattern.length = pattern ∧ value ≠ [] then some value else none

/-- Only one of the two plugins takes up what is opaque to it. -/
def parseDigestChallenge (keepsOpaque : Bool) (wwwAuthenticate : Option Text) : Option Challenge :=
  let header := wwwAuthenticate.getD []
  match scan (fun _ => quotedAt realmKey) none header, scan (fun _ => quotedAt nonceKey) none header with
  | some realm, some nonce => some ⟨realm, nonce, scan (fun _ => qopAt) none header,
      if keepsOpaque then scan (fun _ => quotedAt opaqueKey) none header else none⟩
  | _, _ => none

/-- `parts.join(':')`. -/
def joined (parts : List Text) : Text := List.intercalate [':'] parts

def NC : Text := "00000001".toList

/-- The `response` that a header has. -/
def digestResponse (md5 : Text → Text) (cnonce username password method uri : Text)
    (challenge : Challenge) : Text :=
  let ha1 := md5 (joined [username, challenge.realm, password])
  let ha2 := md5 (joined [method, uri])
  md5 (joined (match challenge.qop with
    | some qop => [ha1, challenge.nonce, NC, cnonce, qop, ha2]
    | none => [ha1, challenge.nonce, ha2]))

def buildDigestHeader (md5 : Text → Text) (cnonce username password method uri : Text)
    (challenge : Challenge) : Text :=
  let response := digestResponse md5 cnonce username password method uri challenge
  let header := "Digest username=\"".toList ++ username ++ "\", realm=\"".toList ++ challenge.realm ++
    "\", nonce=\"".toList ++ challenge.nonce ++ "\", uri=\"".toList ++ uri ++
    "\", response=\"".toList ++ response ++ ['"']
  let header := match challenge.qop with
    | some qop => header ++ ", qop=".toList ++ qop ++ ", nc=".toList ++ NC ++ ", cnonce=\"".toList ++
        cnonce ++ ['"']
    | none => header
  match challenge.opaqueValue with
  | some value => header ++ ", opaque=\"".toList ++ value ++ ['"']
  | none => header

structure HttpRequest where
  method : Text
  path : Text
  body : Option Text
  authorization : Option Text
deriving DecidableEq

structure HttpResponse where
  statusCode : Nat
  wwwAuthenticate : Option Text
  body : Text
deriving DecidableEq

structure Credentials where
  username : Option Text
  password : Option Text

section Requests

variable {σ : Type} (md5 : Text → Text)

/-- A request, and once more with an `Authorization` header if it is challenged. `send` is a request
on the network, which may throw. -/
def digestRequest (keepsOpaque : Bool) (cnonce : Text) (credentials : Credentials)
    (send : HttpRequest → σ → Except String HttpResponse × σ) (method path : Text)
    (body : Option Text) (s : σ) : Except String HttpResponse × σ :=
  match send ⟨method, path, body, none⟩ s with
  | (.error error, s) => (.error error, s)
  | (.ok first, s) =>
    if first.statusCode ≠ 401 then (.ok first, s)
    else
      match parseDigestChallenge keepsOpaque first.wwwAuthenticate,
        credentials.username.filter (· ≠ []) with
      | some challenge, some username =>
        let authHeader := buildDigestHeader md5 cnonce username (credentials.password.getD []) method
          path challenge
        send ⟨method, path, body, some authHeader⟩ s
      | _, _ => (.ok first, s)

end Requests

end Digest

namespace Digest

open AuthParams

/-- A server that asks for digest access authentication: it challenges a request without a valid
header, and only hands the others to what it protects. -/
structure Server (σ : Type) where
  realm : Text
  nonce : Text
  qops : List Text
  opaqueValue : Option Text
  secret : Text → Option Text
  app : Text → Text → Option Text → σ → HttpResponse × σ

variable {σ : Type}

def Server.params (server : Server σ) : List Param :=
  [⟨realmKey, server.realm, true⟩, ⟨nonceKey, server.nonce, true⟩] ++
    (if server.qops = [] then []
      else [⟨qopKey, List.intercalate [','] server.qops, true⟩]) ++
    server.opaqueValue.toList.map fun value => ⟨opaqueKey, value, true⟩

def scheme : Text := "Digest ".toList

def Server.challenge (server : Server σ) : Text := scheme ++ printParams server.params

def Server.expected (md5 : Text → Text) (server : Server σ) (method : Text)
    (fields : List (Text × Text)) (username password uri : Text) : Option Text :=
  let ha1 := md5 (joined [username, server.realm, password])
  let ha2 := md5 (joined [method, uri])
  match fields.lookup qopKey with
  | none =>
    if server.qops = [] then some (md5 (joined [ha1, server.nonce, ha2])) else none
  | some qop =>
    if qop = "auth".toList ∧ qop ∈ server.qops then do
      let nc ← fields.lookup "nc".toList
      let cnonce ← fields.lookup "cnonce".toList
      some (md5 (joined [ha1, server.nonce, nc, cnonce, qop, ha2]))
    else none

def Server.validFields (md5 : Text → Text) (server : Server σ) (method path : Text)
    (fields : List (Text × Text)) : Bool :=
  let valid := do
    let username ← fields.lookup "username".toList
    let uri ← fields.lookup "uri".toList
    let response ← fields.lookup "response".toList
    let password ← server.secret username
    let expected ← server.expected md5 method fields username password uri
    some (decide (fields.lookup realmKey = some server.realm ∧
      fields.lookup nonceKey = some server.nonce ∧ uri = path ∧
      fields.lookup opaqueKey = server.opaqueValue ∧ response = expected))
  valid.getD false

/-- The header is of the scheme, can be read, and its fields are valid. -/
def Server.accepts (md5 : Text → Text) (server : Server σ) (request : HttpRequest) : Bool :=
  request.authorization.any fun header =>
    header.take scheme.length = scheme &&
      (readParams header.length (header.drop scheme.length)).any
        (server.validFields md5 request.method request.path)

def Server.handle (md5 : Text → Text) (server : Server σ) (request : HttpRequest) (s : σ) :
    Except String HttpResponse × σ :=
  if server.accepts md5 request then
    let r := server.app request.method request.path request.body s
    (.ok r.1, r.2)
  else (.ok ⟨401, some server.challenge, []⟩, s)

/-- A server whose parameters can be told apart in its challenge: no quotes or backslashes in them, and
no name of a parameter with a sign behind it. -/
structure Server.Plain (server : Server σ) : Prop where
  realm_ne : server.realm ≠ []
  nonce_ne : server.nonce ≠ []
  opaque_ne : ∀ value ∈ server.opaqueValue, value ≠ []
  auth : server.qops = [] ∨ ∃ others, server.qops = "auth".toList :: others
  quotes : ∀ p ∈ server.params, '"' ∉ p.value ∧ '\\' ∉ p.value
  names : ∀ p ∈ server.params, ∀ key ∈ [realmKey, nonceKey, qopKey, opaqueKey],
    ¬key ++ ['='] <:+: p.value

theorem searchKey {key : Text} (h : key ∈ [realmKey, nonceKey, qopKey, opaqueKey]) : SearchKey key where
  plain := by
    have hall : ∀ key ∈ [realmKey, nonceKey, qopKey, opaqueKey],
        '=' ∉ key ∧ '"' ∉ key ∧ ',' ∉ key ∧ ' ' ∉ key := by decide +kernel
    obtain ⟨hequals, hquote, hcomma, hblank⟩ := hall key h
    intro c hc
    exact ⟨ne_of_mem_of_not_mem hc hequals, ne_of_mem_of_not_mem hc hquote,
      ne_of_mem_of_not_mem hc hcomma, ne_of_mem_of_not_mem hc hblank⟩

theorem keys_apart {key other : Text} (h : key ∈ [realmKey, nonceKey, qopKey, opaqueKey])
    (hother : other ∈ [realmKey, nonceKey, qopKey, opaqueKey]) (hne : other ≠ key) :
    '=' ∉ other ∧ ¬key <:+ other := by
  have hall : ∀ key ∈ [realmKey, nonceKey, qopKey, opaqueKey],
      ∀ other ∈ [realmKey, nonceKey, qopKey, opaqueKey], other ≠ key →
        '=' ∉ other ∧ ¬key <:+ other := by decide +kernel
  exact hall key h other hother hne

theorem params_key {server : Server σ} {p : Param} (h : p ∈ server.params) :
    p.key ∈ [realmKey, nonceKey, qopKey, opaqueKey] ∧ p.quoted = true := by
  simp only [Server.params, List.mem_append, List.mem_map, Option.mem_toList] at h
  rcases h with (h | h) | ⟨value, -, rfl⟩
  · rcases List.mem_cons.mp h with rfl | h
    · exact ⟨by simp, rfl⟩
    · rw [List.mem_singleton.mp h]
      exact ⟨by simp, rfl⟩
  · split at h
    next => exact absurd h List.not_mem_nil
    next =>
      rw [List.mem_singleton.mp h]
      exact ⟨by simp, rfl⟩
  · exact ⟨by simp, rfl⟩

/-- A search for a key in the challenge finds what the expression reads of its parameter. -/
theorem scan_challenge {server : Server σ} (hserver : server.Plain) {key : Text}
    (hkey : key ∈ [realmKey, nonceKey, qopKey, opaqueKey]) {f : Text → Option Text}
    (hf : ∀ text, ¬key ++ ['='] <+: text → f text = none) {value : Param → Text}
    (hread : ∀ p ∈ server.params, p.key = key → ∀ rest, f (p.text ++ rest) = some (value p)) :
    scan (fun _ => f) none server.challenge =
      (server.params.find? fun p => p.key = key).map value := by
  have hsearch := searchKey hkey
  have hblank : scheme = "Digest".toList ++ [' '] := by decide +kernel
  have hscheme : server.challenge = "Digest".toList ++ ' ' :: printParams server.params := by
    rw [Server.challenge, hblank, List.append_assoc, List.singleton_append]
  have habsent : ¬key ++ ['='] <:+: "Digest".toList := by
    intro h
    have hmem : '=' ∈ "Digest".toList := h.subset (by simp)
    revert hmem
    decide
  rw [hscheme, scan_block hf (hsearch.notMem (Or.inr (Or.inr rfl))) habsent]
  refine scan_printParams hsearch hf ?_ (fun p hp hpkey rest _ => hread p hp hpkey rest) none
  intro p hp hne
  obtain ⟨hplain, hother⟩ := keys_apart hkey (params_key hp).1 hne
  exact ⟨hplain, hother, hserver.names p hp key hkey⟩

theorem quotedAt_start {key text : Text} (h : ¬key ++ ['='] <+: text) : quotedAt key text = none := by
  refine if_neg ?_
  rintro ⟨htake, -, -⟩
  refine h ?_
  have hprefix : key ++ ['=', '"'] <+: text := by
    rw [← htake]
    exact List.take_prefix _ _
  exact (List.prefix_append_right_inj key |>.mpr (by simp)).trans hprefix

theorem takeWhile_quote {value : Text} (h : '"' ∉ value) (rest : Text) :
    (value ++ '"' :: rest).takeWhile (· ≠ '"') = value ∧
      (value ++ '"' :: rest).dropWhile (· ≠ '"') = '"' :: rest := by
  have hall : ∀ c ∈ value, decide (c ≠ '"') = true := by
    intro c hc
    exact decide_eq_true fun heq => h (heq ▸ hc)
  rw [List.takeWhile_append_of_pos hall, List.dropWhile_append_of_pos hall]
  simp

theorem quotedAt_text {p : Param} (hquoted : p.quoted = true) (hquote : '"' ∉ p.value)
    (hne : p.value ≠ []) (rest : Text) : quotedAt p.key (p.text ++ rest) = some p.value := by
  have htext : p.text ++ rest = (p.key ++ ['=', '"']) ++ (p.value ++ '"' :: rest) := by
    simp [Param.text, hquoted]
  obtain ⟨htake, hdrop⟩ := takeWhile_quote hquote rest
  rw [htext, quotedAt]
  simp only [List.take_left, List.drop_left, htake, hdrop]
  simp [hne]

theorem qopAt_start {text : Text} (h : ¬qopKey ++ ['='] <+: text) : qopAt text = none := by
  refine if_neg ?_
  rintro ⟨htake, -⟩
  refine h ?_
  rw [← htake]
  exact List.take_prefix _ _

theorem qopAt_text {first : Text} {others : List Text} (hfirst : ∀ c ∈ first, c ≠ '"' ∧ c ≠ ',')
    (hne : first ≠ []) (rest : Text) :
    qopAt (Param.text ⟨qopKey, List.intercalate [','] (first :: others), true⟩ ++ rest) =
      some first := by
  obtain ⟨tail, htail, hstop⟩ : ∃ tail, List.intercalate [','] (first :: others) ++ '"' :: rest =
      first ++ tail ∧ ∀ c ∈ tail.head?, c = '"' ∨ c = ',' := by
    cases others with
    | nil => exact ⟨'"' :: rest, by simp, by simp⟩
    | cons second others =>
      refine ⟨',' :: (List.intercalate [','] (second :: others) ++ '"' :: rest), ?_, by simp⟩
      simp [List.intercalate, List.intersperse]
  have htext : Param.text ⟨qopKey, List.intercalate [','] (first :: others), true⟩ ++ rest =
      (qopKey ++ ['=']) ++ '"' :: (first ++ tail) := by
    rw [← htail]
    simp [Param.text]
  have hall : ∀ c ∈ first, decide (c ≠ '"' ∧ c ≠ ',') = true :=
    fun c hc => decide_eq_true (hfirst c hc)
  have htake : (first ++ tail).takeWhile (fun c => c ≠ '"' ∧ c ≠ ',') = first := by
    rw [List.takeWhile_append_of_pos hall]
    cases tail with
    | nil => simp
    | cons c tail =>
      have hc : ¬(c ≠ '"' ∧ c ≠ ',') := by
        rcases hstop c rfl with rfl | rfl <;> simp
      rw [List.takeWhile_cons_of_neg (by simpa using hc), List.append_nil]
  rw [htext, qopAt]
  simp only [List.take_left, List.drop_left, List.head?_cons, if_true, List.tail_cons, htake]
  simp [hne]

theorem keys_ne : nonceKey ≠ realmKey ∧ qopKey ≠ realmKey ∧ opaqueKey ≠ realmKey ∧
    qopKey ≠ nonceKey ∧ opaqueKey ≠ nonceKey ∧ opaqueKey ≠ qopKey := by decide +kernel

def Server.taken (server : Server σ) (keepsOpaque : Bool) : Challenge :=
  ⟨server.realm, server.nonce, server.qops.head?, if keepsOpaque then server.opaqueValue else none⟩

theorem mem_params {server : Server σ} {p : Param} : p ∈ server.params ↔
    p = ⟨realmKey, server.realm, true⟩ ∨ p = ⟨nonceKey, server.nonce, true⟩ ∨
      (server.qops ≠ [] ∧ p = ⟨qopKey, List.intercalate [','] server.qops, true⟩) ∨
      ∃ value, server.opaqueValue = some value ∧ p = ⟨opaqueKey, value, true⟩ := by
  cases hopaque : server.opaqueValue with
  | none => by_cases hqops : server.qops = [] <;> simp [Server.params, hqops, hopaque]
  | some value => by_cases hqops : server.qops = [] <;> simp [Server.params, hqops, hopaque]

theorem find_params (server : Server σ) :
    (server.params.find? fun p => p.key = realmKey) = some ⟨realmKey, server.realm, true⟩ ∧
      (server.params.find? fun p => p.key = nonceKey) = some ⟨nonceKey, server.nonce, true⟩ ∧
      (server.params.find? fun p => p.key = qopKey) = (if server.qops = [] then none
        else some ⟨qopKey, List.intercalate [','] server.qops, true⟩) ∧
      (server.params.find? fun p => p.key = opaqueKey) =
        server.opaqueValue.map fun value => ⟨opaqueKey, value, true⟩ := by
  obtain ⟨hnr, hqr, hor, hqn, hon, hoq⟩ := keys_ne
  cases hopaque : server.opaqueValue with
  | none =>
    by_cases hqops : server.qops = [] <;>
      simp [Server.params, hqops, hopaque, hnr.symm, hqr.symm, hqn.symm, hor.symm, hon.symm,
        hoq.symm]
  | some value =>
    by_cases hqops : server.qops = [] <;>
      simp [Server.params, hqops, hopaque, hnr.symm, hqr.symm, hqn.symm, hor.symm, hon.symm,
        hoq, hoq.symm]

theorem scan_quoted {server : Server σ} (hserver : server.Plain) {key : Text}
    (hkey : key ∈ [realmKey, nonceKey, opaqueKey]) :
    scan (fun _ => quotedAt key) none server.challenge =
      (server.params.find? fun p => p.key = key).map Param.value := by
  obtain ⟨-, hqr, -, hqn, -, hoq⟩ := keys_ne
  have hall : key ∈ [realmKey, nonceKey, qopKey, opaqueKey] ∧ key ≠ qopKey := by
    simp only [List.mem_cons, List.not_mem_nil, or_false] at hkey ⊢
    rcases hkey with rfl | rfl | rfl
    · exact ⟨Or.inl rfl, hqr.symm⟩
    · exact ⟨Or.inr (Or.inl rfl), hqn.symm⟩
    · exact ⟨Or.inr (Or.inr (Or.inr rfl)), hoq⟩
  refine scan_challenge hserver hall.1 (fun text => quotedAt_start) ?_
  rintro p hp rfl rest
  refine quotedAt_text (params_key hp).2 (hserver.quotes p hp).1 ?_ rest
  rcases mem_params.mp hp with rfl | rfl | ⟨-, rfl⟩ | ⟨value, hvalue, rfl⟩
  · exact hserver.realm_ne
  · exact hserver.nonce_ne
  · exact absurd rfl hall.2
  · exact hserver.opaque_ne value hvalue

theorem scan_qop {server : Server σ} (hserver : server.Plain) :
    scan (fun _ => qopAt) none server.challenge = server.qops.head? := by
  obtain ⟨-, hqr, -, hqn, -, hoq⟩ := keys_ne
  have hauth : ∀ c ∈ "auth".toList, c ≠ '"' ∧ c ≠ ',' := by simp
  have hread : ∀ p ∈ server.params, p.key = qopKey → ∀ rest,
      qopAt (p.text ++ rest) = some "auth".toList := by
    intro p hp hkey rest
    rcases mem_params.mp hp with rfl | rfl | ⟨hne, rfl⟩ | ⟨value, -, rfl⟩
    · exact absurd hkey hqr.symm
    · exact absurd hkey hqn.symm
    · obtain ⟨others, hqops⟩ := hserver.auth.resolve_left hne
      rw [hqops]
      exact qopAt_text hauth (by decide) rest
    · exact absurd hkey hoq
  rw [scan_challenge hserver (by simp) (fun text => qopAt_start) hread, (find_params server).2.2.1]
  rcases hserver.auth with hnone | ⟨others, hqops⟩
  · simp [hnone]
  · simp [hqops]

theorem parse_challenge {server : Server σ} (hserver : server.Plain) (keepsOpaque : Bool) :
    parseDigestChallenge keepsOpaque (some server.challenge) = some (server.taken keepsOpaque) := by
  obtain ⟨hrealm, hnonce, -, hopaque⟩ := find_params server
  have hvalues : (server.opaqueValue.map fun value => (⟨opaqueKey, value, true⟩ : Param)).map
      Param.value = server.opaqueValue := by
    cases server.opaqueValue <;> rfl
  rw [parseDigestChallenge, Option.getD_some, scan_quoted hserver (by simp),
    scan_quoted hserver (by simp), scan_quoted hserver (by simp), scan_qop hserver, hrealm, hnonce,
    hopaque, hvalues]
  rfl

/-- The fields of the header that the plugin sends. -/
def headerParams (md5 : Text → Text) (cnonce username password method uri : Text)
    (challenge : Challenge) : List Param :=
  [⟨"username".toList, username, true⟩, ⟨realmKey, challenge.realm, true⟩,
    ⟨nonceKey, challenge.nonce, true⟩, ⟨"uri".toList, uri, true⟩,
    ⟨"response".toList, digestResponse md5 cnonce username password method uri challenge, true⟩] ++
  (match challenge.qop with
    | some qop => [⟨qopKey, qop, false⟩, ⟨"nc".toList, NC, false⟩, ⟨"cnonce".toList, cnonce, true⟩]
    | none => []) ++
  challenge.opaqueValue.toList.map fun value => ⟨opaqueKey, value, true⟩

theorem buildDigestHeader_eq (md5 : Text → Text) (cnonce username password method uri : Text)
    (challenge : Challenge) :
    buildDigestHeader md5 cnonce username password method uri challenge =
      scheme ++ printParams (headerParams md5 cnonce username password method uri challenge) := by
  -- the text between two values ends one parameter and begins the next
  have husername : "Digest username=\"".toList = scheme ++ ("username".toList ++ ['=', '"']) := by
    decide +kernel
  have hrealm : "\", realm=\"".toList = ['"', ',', ' '] ++ (realmKey ++ ['=', '"']) := by decide +kernel
  have hnonce : "\", nonce=\"".toList = ['"', ',', ' '] ++ (nonceKey ++ ['=', '"']) := by decide +kernel
  have huri : "\", uri=\"".toList = ['"', ',', ' '] ++ ("uri".toList ++ ['=', '"']) := by decide +kernel
  have hresponse : "\", response=\"".toList =
      ['"', ',', ' '] ++ ("response".toList ++ ['=', '"']) := by decide +kernel
  have hqop : ", qop=".toList = [',', ' '] ++ (qopKey ++ ['=']) := by decide +kernel
  have hnc : ", nc=".toList = [',', ' '] ++ ("nc".toList ++ ['=']) := by decide +kernel
  have hcnonce : ", cnonce=\"".toList = [',', ' '] ++ ("cnonce".toList ++ ['=', '"']) := by decide +kernel
  have hopaque : ", opaque=\"".toList = [',', ' '] ++ (opaqueKey ++ ['=', '"']) := by decide +kernel
  obtain ⟨realm, nonce, qop, opaqueValue⟩ := challenge
  rw [buildDigestHeader, headerParams, husername, hrealm, hnonce, huri, hresponse, hqop, hnc, hcnonce,
    hopaque]
  generalize "username".toList = usernameKey
  generalize "uri".toList = uriKey
  generalize "response".toList = responseKey
  cases qop <;> cases opaqueValue <;>
    simp only [printParams, Param.text, Option.toList_some, Option.toList_none,
      List.map_cons, List.map_nil, List.append_nil, List.nil_append, List.cons_append,
      List.append_assoc, if_true, Bool.false_eq_true, if_false]

/-- A text that a quoted string holds as it is. -/
def Clean (text : Text) : Prop := '"' ∉ text ∧ '\\' ∉ text

instance (text : Text) : Decidable (Clean text) :=
  inferInstanceAs (Decidable ('"' ∉ text ∧ '\\' ∉ text))

section Accepts

variable {server : Server σ} {md5 : Text → Text} {cnonce username password method path : Text}
  {keepsOpaque : Bool}

theorem headerParams_plain (hserver : server.Plain) (hmd5 : ∀ text, Clean (md5 text))
    (hcnonce : Clean cnonce) (husername : Clean username) (hpath : Clean path) :
    ∀ p ∈ headerParams md5 cnonce username password method path (server.taken keepsOpaque),
      p.Plain := by
  have hkeys : ∀ key ∈ ["username".toList, realmKey, nonceKey, "uri".toList, "response".toList,
      qopKey, "nc".toList, "cnonce".toList, opaqueKey], '=' ∉ key := by decide +kernel
  have hquoted : ∀ key value, key ∈ ["username".toList, realmKey, nonceKey, "uri".toList,
      "response".toList, qopKey, "nc".toList, "cnonce".toList, opaqueKey] → Clean value →
      (⟨key, value, true⟩ : Param).Plain :=
    fun key value hkey hvalue => ⟨hkeys key hkey, fun _ => hvalue, fun h => by simp at h⟩
  have hbare : ∀ key value, key ∈ ["username".toList, realmKey, nonceKey, "uri".toList,
      "response".toList, qopKey, "nc".toList, "cnonce".toList, opaqueKey] →
      ',' ∉ value ∧ value.head? ≠ some '"' → (⟨key, value, false⟩ : Param).Plain :=
    fun key value hkey hvalue => ⟨hkeys key hkey, fun h => by simp at h, fun _ => hvalue⟩
  have hrealm : Clean server.realm := hserver.quotes _ (mem_params.mpr (Or.inl rfl))
  have hnonce : Clean server.nonce := hserver.quotes _ (mem_params.mpr (Or.inr (Or.inl rfl)))
  intro p hp
  simp only [headerParams, List.mem_append, List.mem_map, Option.mem_toList] at hp
  rcases hp with (hp | hp) | ⟨value, hvalue, rfl⟩
  · simp only [List.mem_cons, List.not_mem_nil, or_false] at hp
    rcases hp with rfl | rfl | rfl | rfl | rfl
    · exact hquoted _ _ (by simp) husername
    · exact hquoted _ _ (by simp) hrealm
    · exact hquoted _ _ (by simp) hnonce
    · exact hquoted _ _ (by simp) hpath
    · exact hquoted _ _ (by simp) (hmd5 _)
  · rcases hserver.auth with hnone | ⟨others, hqops⟩
    · simp [Server.taken, hnone] at hp
    · simp only [Server.taken, hqops, List.head?_cons, List.mem_cons, List.not_mem_nil,
        or_false] at hp
      rcases hp with rfl | rfl | rfl
      · exact hbare _ _ (by simp) (by decide)
      · exact hbare _ _ (by simp) (by decide)
      · exact hquoted _ _ (by simp) hcnonce
  · have hmem : server.opaqueValue = some value := by
      cases keepsOpaque with
      | true => exact hvalue
      | false => cases hvalue
    exact hquoted _ _ (by simp)
      (hserver.quotes _ (mem_params.mpr (Or.inr (Or.inr (Or.inr ⟨value, hmem, rfl⟩)))))

theorem header_lookups (challenge : Challenge) :
    let fields := (headerParams md5 cnonce username password method path challenge).map fun p =>
      (p.key, p.value)
    fields.lookup "username".toList = some username ∧ fields.lookup "uri".toList = some path ∧
      fields.lookup "response".toList =
        some (digestResponse md5 cnonce username password method path challenge) ∧
      fields.lookup realmKey = some challenge.realm ∧ fields.lookup nonceKey = some challenge.nonce ∧
      fields.lookup opaqueKey = challenge.opaqueValue ∧ fields.lookup qopKey = challenge.qop ∧
      (challenge.qop ≠ none → fields.lookup "nc".toList = some NC ∧
        fields.lookup "cnonce".toList = some cnonce) := by
  obtain ⟨realm, nonce, qop, opaqueValue⟩ := challenge
  cases qop with
  | none =>
    cases opaqueValue with
    | none => exact ⟨rfl, rfl, rfl, rfl, rfl, rfl, rfl, fun h => absurd rfl h⟩
    | some value => exact ⟨rfl, rfl, rfl, rfl, rfl, rfl, rfl, fun h => absurd rfl h⟩
  | some qop =>
    cases opaqueValue with
    | none => exact ⟨rfl, rfl, rfl, rfl, rfl, rfl, rfl, fun _ => ⟨rfl, rfl⟩⟩
    | some value => exact ⟨rfl, rfl, rfl, rfl, rfl, rfl, rfl, fun _ => ⟨rfl, rfl⟩⟩

theorem expected_eq (hserver : server.Plain) (stored : Text) :
    server.expected md5 method ((headerParams md5 cnonce username password method path
        (server.taken keepsOpaque)).map fun p => (p.key, p.value)) username stored path =
      some (digestResponse md5 cnonce username stored method path (server.taken keepsOpaque)) := by
  obtain ⟨-, -, -, -, -, -, hqop, hnc⟩ := @header_lookups md5 cnonce username password method path
    (server.taken keepsOpaque)
  rcases hserver.auth with hnone | ⟨others, hqops⟩
  · have htaken : (server.taken keepsOpaque).qop = none := by simp [Server.taken, hnone]
    rw [htaken] at hqop
    simp only [Server.expected, hqop, hnone, if_true, digestResponse, htaken]
    rfl
  · have htaken : (server.taken keepsOpaque).qop = some "auth".toList := by
      simp [Server.taken, hqops]
    have hmem : "auth".toList ∈ server.qops := hqops ▸ List.mem_cons_self
    obtain ⟨hcount, hclient⟩ := hnc (by simp [htaken])
    rw [htaken] at hqop
    simp only [Server.expected, hqop, hmem, and_self, if_true, hcount, hclient, digestResponse, htaken,
      Option.bind_eq_bind, Option.bind_some]
    rfl

/-- The fields are valid if the server has them from its challenge, and a password of the user that
gives the same response. -/
theorem validFields_iff (hserver : server.Plain) :
    server.validFields md5 method path ((headerParams md5 cnonce username password method path
        (server.taken keepsOpaque)).map fun p => (p.key, p.value)) = true ↔
      (keepsOpaque = true ∨ server.opaqueValue = none) ∧ ∃ stored, server.secret username = some stored ∧
        digestResponse md5 cnonce username password method path (server.taken keepsOpaque) =
          digestResponse md5 cnonce username stored method path (server.taken keepsOpaque) := by
  obtain ⟨huser, huri, hresponse, hrealm, hnonce, hopaque, -, -⟩ :=
    @header_lookups md5 cnonce username password method path (server.taken keepsOpaque)
  have hkept : (server.taken keepsOpaque).opaqueValue = server.opaqueValue ↔
      keepsOpaque = true ∨ server.opaqueValue = none := by
    cases keepsOpaque <;> simp [Server.taken, eq_comm]
  have hsame : (server.taken keepsOpaque).realm = server.realm ∧
      (server.taken keepsOpaque).nonce = server.nonce := ⟨rfl, rfl⟩
  rw [← hkept]
  simp only [Server.validFields, huser, huri, hresponse, hrealm, hnonce, hopaque, hsame.1, hsame.2,
    Option.bind_eq_bind, Option.bind_some]
  cases server.secret username with
  | none => simp
  | some stored => simp [expected_eq hserver]

theorem printParams_length (ps : List Param) : ps.length ≤ (printParams ps).length := by
  induction ps with
  | nil => exact Nat.zero_le _
  | cons p ps ih =>
    have hone : 1 ≤ p.text.length := by
      rw [Param.text, List.length_append, List.length_cons]
      omega
    by_cases hnil : ps = []
    · rw [hnil]
      exact hone
    · rw [printParams_cons hnil]
      simp only [List.length_cons, List.length_append]
      omega

/-- The server lets the plugin's second request in exactly if it need not give back what is opaque to
it, and the user has a password that gives the same response. -/
theorem accepts_iff (hserver : server.Plain) (hmd5 : ∀ text, Clean (md5 text))
    (hcnonce : Clean cnonce) (husername : Clean username) (hpath : Clean path) (body : Option Text) :
    server.accepts md5 ⟨method, path, body, some (buildDigestHeader md5 cnonce username password method
        path (server.taken keepsOpaque))⟩ = true ↔
      (keepsOpaque = true ∨ server.opaqueValue = none) ∧ ∃ stored, server.secret username = some stored ∧
        digestResponse md5 cnonce username password method path (server.taken keepsOpaque) =
          digestResponse md5 cnonce username stored method path (server.taken keepsOpaque) := by
  have hplain := @headerParams_plain σ server md5 cnonce username password method path keepsOpaque
    hserver hmd5 hcnonce husername hpath
  have hlength := printParams_length
    (headerParams md5 cnonce username password method path (server.taken keepsOpaque))
  have hne : headerParams md5 cnonce username password method path (server.taken keepsOpaque) ≠ [] := by
    simp [headerParams]
  rw [← validFields_iff hserver, Server.accepts, Option.any_some, buildDigestHeader_eq,
    List.take_left, List.drop_left, readParams_printParams hne _ hplain]
  · simp
  · rw [List.length_append]
    omega

end Accepts

end Digest

namespace FritzBox

def digestRequest {σ : Type} (md5 : Text → Text) (cnonce : Text) (credentials : Digest.Credentials)
    (send : Digest.HttpRequest → σ → Except String Digest.HttpResponse × σ) (method path : Text)
    (body : Option Text) (s : σ) : Except String Digest.HttpResponse × σ :=
  Digest.digestRequest md5 true cnonce credentials send method path body s

end FritzBox

namespace Keenetic

/-- The text of an answer, which is parsed as JSON if it is not empty. -/
def parseRciResponse (result : Digest.HttpResponse) (method path : Text) : Except String Text :=
  if result.statusCode < 200 ∨ 300 ≤ result.statusCode then
    .error ("RCI " ++ String.ofList method ++ " " ++ String.ofList path ++ " failed (status " ++
      toString result.statusCode ++ "): " ++ String.ofList (result.body.take 200))
  else .ok result.body

def rciRequest {σ : Type} (md5 : Text → Text) (cnonce : Text) (credentials : Digest.Credentials)
    (send : Digest.HttpRequest → σ → Except String Digest.HttpResponse × σ) (method path : Text)
    (body : Option Text) (s : σ) : Except String Text × σ :=
  match Digest.digestRequest md5 false cnonce credentials send method path body s with
  | (.error error, s) => (.error error, s)
  | (.ok result, s) => (parseRciResponse result method path, s)

end Keenetic

namespace Digest

variable {σ : Type}

/-- The user has a password that gives the response of the one that is sent. -/
def Server.knows (server : Server σ) (md5 : Text → Text) (cnonce username password method path : Text)
    (challenge : Challenge) : Bool :=
  (server.secret username).any fun stored =>
    digestResponse md5 cnonce username password method path challenge =
      digestResponse md5 cnonce username stored method path challenge

/-- What a request comes to: it is carried out once, or not at all. -/
def Server.outcome (server : Server σ) (admitted : Bool) (method path : Text) (body : Option Text)
    (s : σ) : HttpResponse × σ :=
  if admitted then server.app method path body s else (⟨401, some server.challenge, []⟩, s)

variable {server : Server σ} {md5 : Text → Text} {cnonce username path : Text}
  {credentials : Credentials}

theorem digestRequest_outcome (hserver : server.Plain) (hmd5 : ∀ text, Clean (md5 text))
    (hcnonce : Clean cnonce) (huser : credentials.username.filter (· ≠ []) = some username)
    (husername : Clean username) (hpath : Clean path) (keepsOpaque : Bool) (method : Text)
    (body : Option Text) (s : σ) :
    digestRequest md5 keepsOpaque cnonce credentials (server.handle md5) method path body s =
      let r := server.outcome ((keepsOpaque || server.opaqueValue.isNone) &&
        server.knows md5 cnonce username (credentials.password.getD []) method path
          (server.taken keepsOpaque)) method path body s
      (.ok r.1, r.2) := by
  have hfirst : server.accepts md5 ⟨method, path, body, none⟩ = false := rfl
  have hsecond := @accepts_iff σ server md5 cnonce username (credentials.password.getD []) method path
    keepsOpaque hserver hmd5 hcnonce husername hpath body
  have hadmitted : server.accepts md5 ⟨method, path, body, some (buildDigestHeader md5 cnonce username
      (credentials.password.getD []) method path (server.taken keepsOpaque))⟩ =
      ((keepsOpaque || server.opaqueValue.isNone) && server.knows md5 cnonce username
        (credentials.password.getD []) method path (server.taken keepsOpaque)) := by
    rw [Bool.eq_iff_iff, hsecond, Bool.and_eq_true, Bool.or_eq_true, Option.isNone_iff_eq_none,
      Server.knows]
    cases server.secret username <;> simp
  simp only [digestRequest, Server.handle, hfirst, Bool.false_eq_true, if_false,
    parse_challenge hserver, huser, hadmitted, Server.outcome, ne_eq, not_true_eq_false]
  split <;> rfl

/-- A router with one user, whose state counts the requests that are carried out. -/
def gigaServer : Server Nat where
  realm := "Keenetic Giga".toList
  nonce := "dcd98b7102dd2f0e8b11d0f600bfb0c093==".toList
  qops := ["auth".toList, "auth-int".toList]
  opaqueValue := none
  secret user := if user = "admin".toList then some "secret".toList else none
  app _ _ _ n := (⟨200, none, []⟩, n + 1)

/-- MD5 of the texts of one request. -/
def gigaMd5 (text : Text) : Text :=
  if text = "admin:Keenetic Giga:secret".toList then "5a003182ec3148acffc551bd5d0855b8".toList
  else if text = "GET:/rci/show/version".toList then "99ec7d082ab5bc19e75c34e91b4f66f2".toList
  else "36e127a76a0121fce9191994e43738d2".toList

theorem gigaServer_plain : gigaServer.Plain where
  realm_ne := by decide +kernel
  nonce_ne := by decide +kernel
  opaque_ne := fun value h => by cases h
  auth := Or.inr ⟨["auth-int".toList], rfl⟩
  quotes := by decide +kernel
  names := by decide +kernel

end Digest

end GuardTime
