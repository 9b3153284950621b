import Yaaos.Exchange.Ledger

set_option autoImplicit false

namespace Yaaos.Exchange

open Yaaos.Base

def loweredHeaders (headers : Dict Json) : List (String × Json) := headers.map fun entry => (entry.1.toLower, entry.2)

def audienceInPayload (libraries : Libraries) (payload : String) : Option Json :=
  match libraries.loads payload with
  | some (.obj fields) =>
      match fields.lookup "headers" with
      | some (.obj headers) => headerOf (loweredHeaders headers) "x-yaaos-audience"
      | _ => none
  | _ => none

def audienceMatches (libraries : Libraries) (settings : Settings) (payload : String) : Bool :=
  match audienceInPayload libraries payload with
  | some (.str audience) => decide (audience ≠ "") && decide (audience = settings.yaaosPublicHostname)
  | _ => false

def exchangeIdentity (libraries : Libraries) (settings : Settings) (seen : String × String → Bool)
    (post : HttpRequest → Option StsResponse) (rateLimited : Bool) (env : Env) (db : Db) (request : ExchangeRequest) :
    Except ExchangeError Db :=
  if request.payload = "" then .error .unauthorized
  else if request.kind ≠ "aws-sts" then .error .unauthorized
  else if rateLimited then .error .rateLimited
  else if !audienceMatches libraries settings request.payload then .error .audienceMismatch
  else
    match verifyIdentity libraries settings seen post request.payload with
    | .error category => .error (.verificationFailed category)
    | .ok verified =>
        match exchangeLookup db request verified with
        | .error error => .error error
        | .ok pending => exchangeIssue env db pending

def signedHeaders (authorization : String) : List String :=
  match authorization.toList.tails.findSome? (afterPrefix "SignedHeaders=") with
  | none => []
  | some rest => ((rest.takeWhile fun letter => letter ≠ ',' ∧ letter ≠ ' ').splitOn ';').map String.ofList

structure Signing where
  arn : String
  authorization : String
  method : String
  url : Url
  body : String
  headers : List (String × String)
  names : signedHeaders authorization = headers.map Prod.fst

def Url.same (left right : Url) : Bool :=
  decide (left.scheme = right.scheme) && decide (left.host = right.host) && decide (left.port = right.port) &&
    decide (left.path = right.path) && decide (left.query = right.query)

def Signing.covers (request : HttpRequest) (signing : Signing) : Bool :=
  decide (headerOf request.headers "authorization" = some signing.authorization) &&
    decide (request.method = signing.method) && request.url.same signing.url && decide (request.body = signing.body) &&
    signing.headers.all fun header => decide (headerOf request.headers header.1 = some header.2)

def awsAnswer (signings : List Signing) (request : HttpRequest) : StsResponse :=
  match signings.find? (Signing.covers request) with
  | some signing => { statusCode := 200, arn := some signing.arn, code := none }
  | none => { statusCode := 403, arn := none, code := some "SignatureDoesNotMatch" }

def reachesAws (url : Url) : Bool :=
  decide (url.scheme = "https") && decide (url.port = none) && (stsHostRe url.host).isSome

def network (signings : List Signing) (anyone : HttpRequest → Option StsResponse) (request : HttpRequest) :
    Option StsResponse :=
  if reachesAws request.url then some (awsAnswer signings request) else anyone request

def replayed (libraries : Libraries) (settings : Settings) (payload : String) : Option HttpRequest :=
  match parseSignedRequest libraries settings payload with
  | .error _ => none
  | .ok signed =>
      (libraries.parseUrl signed.url).map fun url =>
        { method := "POST", url := url, headers := signed.headers, body := signed.body }

def authorizationOf (request : HttpRequest) : String := (headerOf request.headers "authorization").getD ""

-- A GetCallerIdentity request that the role itself has signed for this deployment.
structure OwnRequest (settings : Settings) (signings : List Signing) (request : HttpRequest) (rawArn : String) : Prop where
  method : request.method = "POST"
  https : request.url.scheme = "https"
  host : (stsHostRe request.url.host).isSome = true
  port : request.url.port = none
  path : request.url.path = "/"
  query : request.url.query = ""
  body : request.body = requiredBody
  audience : headerOf request.headers "x-yaaos-audience" = some settings.yaaosPublicHostname
  named : "x-yaaos-audience" ∈ signedHeaders (authorizationOf request)
  signed : ∃ signing ∈ signings, signing.arn = rawArn ∧ signing.method = "POST" ∧ signing.url.same request.url = true ∧
    signing.body = requiredBody ∧ ("x-yaaos-audience", settings.yaaosPublicHostname) ∈ signing.headers

-- What neither the endpoint nor the verifier looks at.
structure Untampered (request : HttpRequest) : Prop where
  service : reachesAws request.url = true
  path : request.url.path = "/"
  query : request.url.query = ""
  named : "x-yaaos-audience" ∈ signedHeaders (authorizationOf request)

variable (libraries : Libraries) (settings : Settings)

theorem lookup_texts (name text : String) (headers : Dict Json)
    (found : (loweredHeaders headers).lookup name = some (.str text)) :
    (textHeaders headers).lookup name = some text := by
  induction headers with
  | nil => cases found
  | cons entry rest ih =>
      obtain ⟨key, value⟩ := entry
      simp only [loweredHeaders, List.map_cons, List.lookup_cons] at found
      by_cases same : name = key.toLower
      · have hit : (name == key.toLower) = true := by simpa using same
        rw [hit] at found
        cases found
        simp [textHeaders, textHeader, same]
      · have miss : (name == key.toLower) = false := by simpa using same
        rw [miss] at found
        have later := ih found
        cases value with
        | str other => simpa [textHeaders, textHeader, List.lookup_cons, miss] using later
        | null | bool _ | num _ _ | arr _ | obj _ => exact later

theorem headerOf_texts (name text : String) (headers : Dict Json)
    (found : headerOf (loweredHeaders headers) name = some (.str text)) :
    headerOf (textHeaders headers) name = some text := by
  have reversed : (loweredHeaders headers.reverse).lookup name = some (.str text) := by
    simpa [headerOf, loweredHeaders, List.map_reverse] using found
  have texts := lookup_texts name text headers.reverse reversed
  simpa [headerOf, textHeaders, List.filterMap_reverse] using texts

theorem audienceMatches_headers (payload : String)
    (matched : audienceMatches libraries settings payload = true) :
    ∃ fields headers, libraries.loads payload = some (.obj fields) ∧ fields.lookup "headers" = some (.obj headers) ∧
      headerOf (textHeaders headers) "x-yaaos-audience" = some settings.yaaosPublicHostname := by
  unfold audienceMatches at matched
  split at matched
  · rename_i audience read
    unfold audienceInPayload at read
    split at read
    · rename_i fields decoded
      split at read
      · rename_i headers present
        simp only [Bool.and_eq_true, decide_eq_true_eq] at matched
        refine ⟨fields, headers, decoded, present, ?_⟩
        rw [← matched.2]
        exact headerOf_texts "x-yaaos-audience" audience headers read
      · cases read
    · cases read
  · cases matched

theorem parseSignedRequest_ok (raw : String) (signed : SignedStsRequest)
    (parsed : parseSignedRequest libraries settings raw = .ok signed) :
    ∃ fields headers, libraries.loads raw = some (.obj fields) ∧ fields.lookup "headers" = some (.obj headers) ∧
      signed.headers = textHeaders headers ∧ signed.body = requiredBody ∧
      (headerOf signed.headers "authorization").isSome = true := by
  unfold parseSignedRequest at parsed
  split at parsed
  · rename_i fields decoded
    split at parsed
    · rename_i url headers body _ present _
      split at parsed
      · cases parsed
      split at parsed
      · cases parsed
      split at parsed
      · cases parsed
      split at parsed
      · cases parsed
      rename_i exact_
      split at parsed
      · cases parsed
      rename_i authorized
      cases parsed
      refine ⟨fields, headers, decoded, present, rfl, not_not.mp exact_, ?_⟩
      cases held : headerOf (textHeaders headers) "authorization" with
      | none => simp [held] at authorized
      | some _ => rfl
    · cases parsed
  · cases parsed

theorem replayCallerIdentity_ok (post : HttpRequest → Option StsResponse)
    (signed : SignedStsRequest) (rawArn : String) (answered : replayCallerIdentity libraries post signed = .ok rawArn) :
    ∃ url response, libraries.parseUrl signed.url = some url ∧
      post { method := "POST", url := url, headers := signed.headers, body := signed.body } = some response ∧
      response.statusCode = 200 ∧ response.arn = some rawArn := by
  unfold replayCallerIdentity at answered
  split at answered
  · cases answered
  rename_i url parsed
  split at answered
  · cases answered
  rename_i response sent
  split at answered
  · cases answered
  rename_i accepted
  split at answered
  · cases answered
  rename_i arn named
  split at answered
  · cases answered
    exact ⟨url, response, parsed, sent, not_not.mp accepted, named⟩
  · cases answered

theorem verifyIdentity_ok (seen : String × String → Bool)
    (post : HttpRequest → Option StsResponse) (payload : String) (verified : VerifiedIdentity)
    (success : verifyIdentity libraries settings seen post payload = .ok verified) :
    ∃ signed, parseSignedRequest libraries settings payload = .ok signed ∧ seen (nonceOf signed) = false ∧
      replayCallerIdentity libraries post signed = .ok verified.rawArn := by
  obtain ⟨signed, parsed, rest⟩ := bind_eq_ok _ _ verified success
  split at rest
  · cases rest
  rename_i fresh
  obtain ⟨rawArn, answered, done⟩ := bind_eq_ok _ _ verified rest
  cases done
  exact ⟨signed, parsed, by simpa using fresh, answered⟩

theorem exchangeIdentity_ok (seen : String × String → Bool)
    (post : HttpRequest → Option StsResponse) (rateLimited : Bool) (env : Env) (db after : Db) (request : ExchangeRequest)
    (issued : exchangeIdentity libraries settings seen post rateLimited env db request = .ok after) :
    audienceMatches libraries settings request.payload = true ∧
      ∃ verified pending, verifyIdentity libraries settings seen post request.payload = .ok verified ∧
        exchangeLookup db request verified = .ok pending ∧ exchangeIssue env db pending = .ok after := by
  unfold exchangeIdentity at issued
  split at issued
  · cases issued
  split at issued
  · cases issued
  split at issued
  · cases issued
  split at issued
  · cases issued
  rename_i matched
  split at issued
  · cases issued
  rename_i verified success
  split at issued
  · cases issued
  rename_i pending found
  exact ⟨by simpa using matched, verified, pending, success, found, issued⟩

theorem same_symm (left right : Url) (same : left.same right = true) : right.same left = true := by
  simp only [Url.same, Bool.and_eq_true, decide_eq_true_eq] at same ⊢
  obtain ⟨⟨⟨⟨scheme, host⟩, port⟩, path⟩, query⟩ := same
  exact ⟨⟨⟨⟨scheme.symm, host.symm⟩, port.symm⟩, path.symm⟩, query.symm⟩

theorem awsAnswer_signed (signings : List Signing) (request : HttpRequest) (rawArn : String)
    (answered : (awsAnswer signings request).arn = some rawArn) :
    ∃ signing ∈ signings, signing.arn = rawArn ∧ signing.covers request = true := by
  unfold awsAnswer at answered
  split at answered
  · rename_i signing found
    refine ⟨signing, List.mem_of_find?_eq_some found, Option.some.inj answered, ?_⟩
    exact List.find?_some found
  · cases answered

-- The bearer rests on the role's own request exactly when the payload leaves the
-- parts that nobody checks as they should be.
theorem exchange_binds (signings : List Signing)
    (anyone : HttpRequest → Option StsResponse) (seen : String × String → Bool) (rateLimited : Bool) (env : Env)
    (db after : Db) (request : ExchangeRequest)
    (issued : exchangeIdentity libraries settings seen (network signings anyone) rateLimited env db request = .ok after) :
    ∃ sent verified, replayed libraries settings request.payload = some sent ∧
      verifyIdentity libraries settings seen (network signings anyone) request.payload = .ok verified ∧
      (OwnRequest settings signings sent verified.rawArn ↔ Untampered sent) := by
  obtain ⟨matched, verified, pending, success, _, _⟩ :=
    exchangeIdentity_ok libraries settings seen (network signings anyone) rateLimited env db after request issued
  obtain ⟨signed, parsed, _, answered⟩ :=
    verifyIdentity_ok libraries settings seen (network signings anyone) request.payload verified success
  obtain ⟨url, response, located, sent, _, arn⟩ :=
    replayCallerIdentity_ok libraries (network signings anyone) signed verified.rawArn answered
  obtain ⟨fields, headers, decoded, present, replayedHeaders, body, authorized⟩ :=
    parseSignedRequest_ok libraries settings request.payload signed parsed
  obtain ⟨fields', headers', decoded', present', audience⟩ :=
    audienceMatches_headers libraries settings request.payload matched
  have sameFields : fields' = fields := by
    rw [decoded] at decoded'
    cases decoded'
    rfl
  subst sameFields
  have sameHeaders : headers' = headers := by
    rw [present] at present'
    cases present'
    rfl
  subst sameHeaders
  rw [← replayedHeaders] at audience
  let whole : HttpRequest := { method := "POST", url := url, headers := signed.headers, body := signed.body }
  have request_ : replayed libraries settings request.payload = some whole := by
    simp [replayed, parsed, located, whole]
  refine ⟨whole, verified, request_, success, ?_⟩
  constructor
  · intro own
    refine ⟨?_, own.path, own.query, own.named⟩
    simp [reachesAws, own.https, own.port, own.host]
  · intro untampered
    have parts : (whole.url.scheme = "https" ∧ whole.url.port = none) ∧ (stsHostRe whole.url.host).isSome = true := by
      simpa [reachesAws] using untampered.service
    have fromAws : response = awsAnswer signings whole := by
      have reply : network signings anyone whole = some response := sent
      rw [network, if_pos untampered.service] at reply
      exact (Option.some.inj reply).symm
    rw [fromAws] at arn
    obtain ⟨signing, member, signer, covered⟩ := awsAnswer_signed signings whole verified.rawArn arn
    simp only [Signing.covers, Bool.and_eq_true, decide_eq_true_eq, List.all_eq_true] at covered
    obtain ⟨⟨⟨⟨authorization, method⟩, sameUrl⟩, sameBody⟩, covers⟩ := covered
    have named : "x-yaaos-audience" ∈ signing.headers.map Prod.fst := by
      rw [← signing.names]
      have same : authorizationOf whole = signing.authorization := by simp [authorizationOf, authorization]
      rw [← same]
      exact untampered.named
    obtain ⟨⟨name, value⟩, signedHeader, same⟩ := List.mem_map.mp named
    simp only at same
    subst same
    have value_ : value = settings.yaaosPublicHostname := by
      have read := covers ("x-yaaos-audience", value) signedHeader
      exact Option.some.inj (read.symm.trans audience)
    subst value_
    exact {
      method := rfl
      https := parts.1.1
      host := parts.2
      port := parts.1.2
      path := untampered.path
      query := untampered.query
      body := body
      audience := audience
      named := untampered.named
      signed := ⟨signing, member, signer, method.symm, same_symm _ _ sameUrl, sameBody.symm.trans body, signedHeader⟩ }

def stsUrl : Url where
  scheme := "https"
  host := "sts.us-east-1.amazonaws.com"
  port := none
  path := "/"
  query := ""
  printable := by decide

def podArn : String := "arn:aws:sts::111122223333:assumed-role/agents/pod-1"

def ownAuthorization : String :=
  "AWS4-HMAC-SHA256 Credential=AKIA/20260101/us-east-1/sts/aws4_request, " ++
    "SignedHeaders=host;x-amz-date;x-yaaos-audience, Signature=0a0b"

def vaultAuthorization : String :=
  "AWS4-HMAC-SHA256 Credential=AKIA/20260101/us-east-1/sts/aws4_request, " ++
    "SignedHeaders=host;x-amz-date;x-vault-aws-iam-server-id, Signature=0c0d"

def ownSigning : Signing where
  arn := podArn
  authorization := ownAuthorization
  method := "POST"
  url := stsUrl
  body := requiredBody
  headers := [("host", "sts.us-east-1.amazonaws.com"), ("x-amz-date", "20260101T000000Z"), ("x-yaaos-audience", "app.yaaos.dev")]
  names := by decide +kernel

def vaultSigning : Signing where
  arn := podArn
  authorization := vaultAuthorization
  method := "POST"
  url := stsUrl
  body := requiredBody
  headers := [("host", "sts.us-east-1.amazonaws.com"), ("x-amz-date", "20260101T000000Z"),
    ("x-vault-aws-iam-server-id", "vault.acme.com")]
  names := by decide +kernel

def envelope (authorization : String) : Json :=
  .obj [("url", .str "https://sts.us-east-1.amazonaws.com/"), ("body", .str requiredBody),
    ("headers", .obj [("Authorization", .str authorization), ("Host", .str "sts.us-east-1.amazonaws.com"),
      ("X-Amz-Date", .str "20260101T000000Z"), ("X-Vault-AWS-IAM-Server-ID", .str "vault.acme.com"),
      ("X-Yaaos-Audience", .str "app.yaaos.dev")])]

def sampleLibraries : Libraries where
  loads := fun raw =>
    if raw = "own" then some (envelope ownAuthorization)
    else if raw = "captured" then some (envelope vaultAuthorization) else none
  parseUrl := fun url => if url = "https://sts.us-east-1.amazonaws.com/" then some stsUrl else none

def sampleSettings : Settings := { yaaosStsHostOverride := none, yaaosPublicHostname := "app.yaaos.dev" }

def sampleDb : Db where
  nextId := 10
  orgs := { rows := [⟨1, none, none, some "arn:aws:iam::111122223333:role/agents", some "us-east-1", 4⟩], unique := by decide }
  agents := Table.empty
  bearers := Table.empty
  configUpdates := []

def exchanged (signings : List Signing) (payload : String) : Except ExchangeError Db :=
  exchangeIdentity sampleLibraries sampleSettings (fun _ => false) (network signings fun _ => none) false
    { now := 0, plaintext := "b1", hash := id, sourceIp := none } sampleDb
    { kind := "aws-sts", payload := payload, agentVersion := none, agentMetadata := ⟨none, none, none⟩ }

theorem own_exchange_binds :
    ∃ sent verified, replayed sampleLibraries sampleSettings "own" = some sent ∧
      verifyIdentity sampleLibraries sampleSettings (fun _ => false) (network [ownSigning] fun _ => none) "own" =
        .ok verified ∧
      (OwnRequest sampleSettings [ownSigning] sent verified.rawArn ↔ Untampered sent) := by
  cases issued : exchanged [ownSigning] "own" with
  | error error =>
      have bearer : (exchanged [ownSigning] "own").isOk = true := by decide +kernel
      rw [issued] at bearer
      cases bearer
  | ok after =>
      exact exchange_binds sampleLibraries sampleSettings [ownSigning] (fun _ => none) (fun _ => false) false _ sampleDb
        after _ issued

-- An envelope signed for another service gets a bearer once an audience header that
-- nobody has signed is added to it.
theorem captured_envelope_accepted :
    (exchanged [vaultSigning] "captured").isOk = true ∧
      ∃ sent, replayed sampleLibraries sampleSettings "captured" = some sent ∧
        ∀ rawArn, ¬ OwnRequest sampleSettings [vaultSigning] sent rawArn := by
  refine ⟨by decide +kernel, ?_⟩
  have unsigned : (replayed sampleLibraries sampleSettings "captured").map (fun sent =>
      (signedHeaders (authorizationOf sent)).contains "x-yaaos-audience") = some false := by decide +kernel
  obtain ⟨sent, sent_, absent⟩ := Option.map_eq_some_iff.mp unsigned
  refine ⟨sent, sent_, ?_⟩
  intro rawArn own
  have present : (signedHeaders (authorizationOf sent)).contains "x-yaaos-audience" = true := by simpa using own.named
  rw [absent] at present
  cases present

end Yaaos.Exchange
