import Mathlib.Data.List.Lex
import Yaaos.Base.Outcome
import Yaaos.Base.PyValue
import Yaaos.Base.Table

set_option autoImplicit false

namespace Yaaos.Mcp

open Yaaos.Base

structure McpReviewToken where
  tokenHash : String
  reviewId : Uuid
  orgId : Uuid
  expiresAt : Int

abbrev McpReviewTokens := Table McpReviewToken String McpReviewToken.tokenHash

-- Moments are whole microseconds.
def reviewTokenTtl : Int := 2 * 60 * 60 * 1000000

def mintToken (now : Int) (tokens : McpReviewTokens) (tokenHash : String) (reviewId orgId : Uuid) : Option McpReviewTokens :=
  tokens.insert? { tokenHash := tokenHash, reviewId := reviewId, orgId := orgId, expiresAt := now + reviewTokenTtl }

def lookupToken (now : Int) (tokens : McpReviewTokens) (tokenHash : String) : Option McpReviewToken :=
  match tokens.find? tokenHash with
  | none => none
  | some row => if row.expiresAt < now then none else some row

def revokeToken (tokens : McpReviewTokens) (reviewId : Uuid) : McpReviewTokens :=
  tokens.delete fun row => decide (row.reviewId = reviewId)

theorem lookupToken_some (now : Int) (tokens : McpReviewTokens) (tokenHash : String) (row : McpReviewToken) :
    lookupToken now tokens tokenHash = some row ↔ tokens.find? tokenHash = some row ∧ ¬ row.expiresAt < now := by
  unfold lookupToken
  cases tokens.find? tokenHash with
  | none => simp
  | some other =>
      dsimp only
      by_cases expired : other.expiresAt < now
      · rw [if_pos expired]
        constructor
        · nofun
        · rintro ⟨same, live⟩
          cases same
          exact absurd expired live
      · rw [if_neg expired]
        constructor
        · rintro same
          cases same
          exact ⟨rfl, expired⟩
        · exact fun both => both.1

structure McpCredential where
  orgId : Uuid
  provider : String
  encryptedAccessToken : String
  expiresAt : Int
  allowedTools : List String
  enabled : Bool
  lastRefreshStatus : Option String
  lastUsedAt : Option Int

def McpCredential.key (row : McpCredential) : Uuid × String := (row.orgId, row.provider)

structure ProviderConfig where
  mcpUrl : String
  knownWriteTools : List String

structure DispatchAuditPayload where
  provider : String
  method : PyText
  tool : Option PyText
  argsHash : String
  resultSummary : PyText
  upstreamAccount : String := "org_service_account"

structure AuditRow where
  orgId : Uuid
  kind : String
  payload : DispatchAuditPayload

structure ProxyDb where
  tokens : McpReviewTokens
  credentials : Table McpCredential (Uuid × String) McpCredential.key
  audits : List AuditRow
  brokenCreds : List (Uuid × String)

structure Forward where
  url : String
  upstreamToken : String
  body : PyDict

inductive UpstreamAnswer where
  | transportError (delivered : Bool)
  | response (status : Nat) (json : Except LoadError PyValue) (text : PyText)

-- `builds` tells the requests that the client can encode.
structure Env where
  now : Int
  python : Python
  hashToken : List Char → String
  decrypt : String → Option String
  getProvider : String → Option ProviderConfig
  dumps : PyValue → Option String
  sha256 : String → String
  builds : Forward → Bool
  upstream : Forward → UpstreamAnswer

structure DispatchRequest where
  authorization : List Char
  reviewId : Uuid
  server : String
  body : Except LoadError PyValue

structure RpcError where
  code : Int
  name : String

def rpcErrNotConnected : RpcError := { code := -32001, name := "not_connected" }

def rpcErrBrokenCreds : RpcError := { code := -32002, name := "broken_creds" }

def rpcErrBlockedByAllowlist : RpcError := { code := -32003, name := "blocked_by_allowlist" }

def rpcErrUnauthenticated : RpcError := { code := -32004, name := "unauthenticated" }

def rpcErrUpstream : RpcError := { code := -32005, name := "upstream_error" }

inductive Reply where
  | raised
  | rpcError (status : Nat) (rpcId : PyValue) (error : RpcError) (message : PyText)
  | payload (value : PyValue)

structure Refusal where
  broken : Bool
  reply : Reply

def refuse (body : PyDict) (error : RpcError) (message : PyText) : Refusal :=
  { broken := false, reply := .rpcError 200 (body.get "id") error message }

def refuseBroken (body : PyDict) (error : RpcError) (message : String) : Refusal :=
  { broken := true, reply := .rpcError 200 (body.get "id") error (pyText message) }

def refuseBearer (body : PyDict) (message : String) : Refusal :=
  { broken := false, reply := .rpcError 401 (body.get "id") rpcErrUnauthenticated (pyText message) }

def raises : Refusal := { broken := false, reply := .raised }

structure Call where
  body : PyDict
  rawToken : List Char
  token : McpReviewToken
  credential : McpCredential
  config : ProviderConfig
  tool : PyValue
  upstreamToken : String

def Call.forward (call : Call) : Forward :=
  { url := call.config.mcpUrl, upstreamToken := call.upstreamToken, body := call.body }

-- Only an object has the `get` that its id is read with.
def requestBody (request : DispatchRequest) : Except Refusal PyDict :=
  match request.body with
  | .ok (.dict entries) => .ok entries
  | _ => .error raises

def bearer (request : DispatchRequest) (body : PyDict) : Except Refusal (List Char) :=
  if "Bearer ".toList.isPrefixOf request.authorization then .ok (request.authorization.drop 7)
  else .error (refuseBearer body "missing bearer")

def reviewToken (env : Env) (db : ProxyDb) (request : DispatchRequest) (body : PyDict) (rawToken : List Char) :
    Except Refusal McpReviewToken :=
  match lookupToken env.now db.tokens (env.hashToken rawToken) with
  | none => .error (refuseBearer body "invalid or mismatched token")
  | some token =>
      if token.reviewId = request.reviewId then .ok token
      else .error (refuseBearer body "invalid or mismatched token")

def usableCredential (env : Env) (db : ProxyDb) (request : DispatchRequest) (body : PyDict) (token : McpReviewToken) :
    Except Refusal McpCredential :=
  match db.credentials.find? (token.orgId, request.server) with
  | none => .error (refuseBroken body rpcErrNotConnected (request.server ++ " not connected for org"))
  | some credential =>
      if !credential.enabled then
        .error (refuseBroken body rpcErrNotConnected (request.server ++ " not connected for org"))
      else if credential.lastRefreshStatus = some "failed" then
        .error (refuseBroken body rpcErrBrokenCreds (request.server ++ " credentials need reconnect"))
      else if credential.expiresAt < env.now then
        .error (refuseBroken body rpcErrBrokenCreds (request.server ++ " access token expired; reconnect required"))
      else .ok credential

-- `body.get("params") or {}`, none where that has no `get`.
def paramsOf (body : PyDict) : Option PyDict :=
  match (PyDict.get body "params").orElse (.dict []) with
  | .dict entries => some entries
  | _ => none

def methodOf (body : PyDict) : PyValue := (PyDict.get body "method").orElse (.str [])

def isToolsCall (body : PyDict) : Bool := (methodOf body).isText "tools/call"

def namesTool (tools : List String) (tool : PyValue) : Bool := tools.any fun name => tool.isText name

def permittedTool (env : Env) (request : DispatchRequest) (body : PyDict) (credential : McpCredential) :
    Except Refusal PyValue :=
  if isToolsCall body then
    match paramsOf body with
    | none => .error raises
    | some params =>
        let tool := PyDict.get params "name"
        let writes := match env.getProvider request.server with
          | none => false
          | some config => namesTool config.knownWriteTools tool
        if writes && !namesTool credential.allowedTools tool then
          .error (refuse body rpcErrBlockedByAllowlist
            (pyText request.server ++ pyText "." ++ tool.show env.python ++ pyText " not in allowlist"))
        else .ok tool
  else .ok .none

def decryptSecret (env : Env) (db : ProxyDb) (request : DispatchRequest) (body : PyDict) (token : McpReviewToken) :
    Except Refusal String :=
  match db.credentials.find? (token.orgId, request.server) with
  | none => .error (refuseBroken body rpcErrNotConnected (request.server ++ " not connected for org"))
  | some secret =>
      match env.decrypt secret.encryptedAccessToken with
      | none => .error (refuse body rpcErrBrokenCreds (pyText (request.server ++ " credentials unreadable")))
      | some upstreamToken => .ok upstreamToken

def providerConfig (env : Env) (request : DispatchRequest) (body : PyDict) : Except Refusal ProviderConfig :=
  match env.getProvider request.server with
  | none => .error (refuse body rpcErrNotConnected (pyText (request.server ++ " provider not registered")))
  | some config => .ok config

def authorize (env : Env) (db : ProxyDb) (request : DispatchRequest) : Except Refusal Call := do
  let body ← requestBody request
  let rawToken ← bearer request body
  let token ← reviewToken env db request body rawToken
  let credential ← usableCredential env db request body token
  let tool ← permittedTool env request body credential
  let upstreamToken ← decryptSecret env db request body token
  let config ← providerConfig env request body
  .ok { body := body, rawToken := rawToken, token := token, credential := credential, config := config, tool := tool,
        upstreamToken := upstreamToken }

def argsHash (env : Env) (arguments : PyValue) : String := env.sha256 ((env.dumps arguments).getD "<unhashable>")

def PyValue.typeName : PyValue → String
  | .none => "NoneType"
  | .bool _ => "bool"
  | .int _ => "int"
  | .float _ => "float"
  | .str _ => "str"
  | .list _ => "list"
  | .dict _ => "dict"

def firstKeys (entries : PyDict) : List PyText :=
  ((entries.map Prod.fst).mergeSort fun left right => decide (left ≤ right)).take 5

-- An `error` that is no object has no `get`.
def summarize (python : Python) (result : PyValue) : Option PyText :=
  match result with
  | .dict entries =>
      if PyDict.contains entries "error" then
        match PyDict.get entries "error" with
        | .dict error => some (pyText "error:" ++ (PyDict.get error "code").show python)
        | _ => none
      else some (pyText "ok:keys=" ++ (pyText ",").intercalate (firstKeys entries))
  | .list items => some (pyText "ok:list:len=" ++ pyText (toString items.length))
  | other => some (pyText ("ok:scalar:" ++ PyValue.typeName other))

def resultPayload (json : Except LoadError PyValue) (text : PyText) : Option PyValue :=
  match json with
  | .ok value => some value
  | .error .recursionError => none
  | .error _ => some (.dict [(pyText "raw", .str (text.take 200))])

def resultOf (payload : PyValue) : Option PyValue :=
  match payload with
  | .dict entries => some ((entries.lookup (pyText "result")).getD payload)
  | _ => none

def auditText (value : PyValue) : Option PyText :=
  match value with
  | .str letters => if storableLetters letters then some letters else none
  | _ => none

def auditTool (value : PyValue) : Option (Option PyText) :=
  match value with
  | .none => some none
  | other => (auditText other).map some

def auditRow (env : Env) (request : DispatchRequest) (call : Call) (payload : PyValue) : Option AuditRow := do
  let result ← resultOf payload
  let summary ← summarize env.python result
  let params ← paramsOf call.body
  let method ← auditText (methodOf call.body)
  let tool ← auditTool call.tool
  if storableLetters summary then
    some
      { orgId := call.token.orgId
        kind := "mcp." ++ request.server ++ ".dispatched"
        payload :=
          { provider := request.server, method := method, tool := tool,
            argsHash := argsHash env (PyDict.get params "arguments"), resultSummary := summary } }
  else none

def markLastUsed (env : Env) (db : ProxyDb) (orgId : Uuid) (provider : String) : ProxyDb :=
  { db with
    credentials := db.credentials.update (fun row => decide (row.key = (orgId, provider)))
      (fun row => { row with lastUsedAt := some env.now }) fun _ => rfl }

structure Outcome where
  db : ProxyDb
  forwarded : List Forward
  reply : Reply

def dispatch (env : Env) (db : ProxyDb) (request : DispatchRequest) : Outcome :=
  match authorize env db request with
  | .error refusal =>
      { db := if refusal.broken then
          { db with brokenCreds := db.brokenCreds ++ [(request.reviewId, request.server)] } else db
        forwarded := []
        reply := refusal.reply }
  | .ok call =>
      if !env.builds call.forward then { db := db, forwarded := [], reply := .raised }
      else
        match env.upstream call.forward with
        | .transportError delivered =>
            { db := db, forwarded := if delivered then [call.forward] else [],
              reply := (refuse call.body rpcErrUpstream (pyText "upstream transport error")).reply }
        | .response status json text =>
            if 500 ≤ status then
              { db := db, forwarded := [call.forward],
                reply := (refuse call.body rpcErrUpstream (pyText ("upstream " ++ toString status))).reply }
            else
              match resultPayload json text with
              | none => { db := db, forwarded := [call.forward], reply := .raised }
              | some payload =>
                  match auditRow env request call payload with
                  | none => { db := db, forwarded := [call.forward], reply := .raised }
                  | some row =>
                      let stamped := markLastUsed env db call.token.orgId request.server
                      { db := { stamped with audits := stamped.audits ++ [row] }, forwarded := [call.forward],
                        reply := .payload payload }

section Checks

structure Admitted (env : Env) (db : ProxyDb) (request : DispatchRequest) (call : Call) : Prop where
  decoded : request.body = .ok (.dict call.body)
  bearer : request.authorization = "Bearer ".toList ++ call.rawToken
  live : db.tokens.find? (env.hashToken call.rawToken) = some call.token ∧ ¬ call.token.expiresAt < env.now
  bound : call.token.reviewId = request.reviewId
  held : db.credentials.find? (call.token.orgId, request.server) = some call.credential
  enabled : call.credential.enabled = true
  unbroken : call.credential.lastRefreshStatus ≠ some "failed"
  unexpired : ¬ call.credential.expiresAt < env.now
  registered : env.getProvider request.server = some call.config
  tool : if isToolsCall call.body then ∃ params, paramsOf call.body = some params ∧ call.tool = PyDict.get params "name"
    else call.tool = .none
  allowed : isToolsCall call.body = true → namesTool call.config.knownWriteTools call.tool = true →
    namesTool call.credential.allowedTools call.tool = true
  decrypted : env.decrypt call.credential.encryptedAccessToken = some call.upstreamToken

variable (env : Env) (db : ProxyDb) (request : DispatchRequest)

theorem requestBody_ok (body : PyDict) : requestBody request = .ok body ↔ request.body = .ok (.dict body) := by
  unfold requestBody
  constructor
  · intro read
    split at read
    · rename_i entries decoded
      cases read
      exact decoded
    · cases read
  · intro decoded
    rw [decoded]

theorem bearer_ok (body : PyDict) (rawToken : List Char) :
    bearer request body = .ok rawToken ↔ request.authorization = "Bearer ".toList ++ rawToken := by
  unfold bearer
  constructor
  · intro read
    split at read
    · rename_i starts
      cases read
      obtain ⟨rest, whole⟩ := List.isPrefixOf_iff_prefix.mp starts
      rw [← whole]
      rfl
    · cases read
  · intro whole
    rw [whole, if_pos (List.isPrefixOf_iff_prefix.mpr (List.prefix_append _ _))]
    rfl

theorem reviewToken_ok (body : PyDict) (rawToken : List Char) (token : McpReviewToken) :
    reviewToken env db request body rawToken = .ok token ↔
      (db.tokens.find? (env.hashToken rawToken) = some token ∧ ¬ token.expiresAt < env.now) ∧
        token.reviewId = request.reviewId := by
  rw [← lookupToken_some]
  unfold reviewToken
  cases lookupToken env.now db.tokens (env.hashToken rawToken) with
  | none => simp
  | some other =>
      dsimp only
      by_cases bound : other.reviewId = request.reviewId
      · rw [if_pos bound]
        constructor
        · rintro same
          cases same
          exact ⟨rfl, bound⟩
        · rintro ⟨same, _⟩
          cases same
          rfl
      · rw [if_neg bound]
        constructor
        · nofun
        · rintro ⟨same, other⟩
          cases same
          exact absurd other bound

theorem usableCredential_ok (body : PyDict) (token : McpReviewToken) (credential : McpCredential) :
    usableCredential env db request body token = .ok credential ↔
      db.credentials.find? (token.orgId, request.server) = some credential ∧ credential.enabled = true ∧
        credential.lastRefreshStatus ≠ some "failed" ∧ ¬ credential.expiresAt < env.now := by
  unfold usableCredential
  cases db.credentials.find? (token.orgId, request.server) with
  | none => simp
  | some other =>
      dsimp only
      constructor
      · intro read
        split at read
        · cases read
        · rename_i enabled
          split at read
          · cases read
          · rename_i unbroken
            split at read
            · cases read
            · rename_i unexpired
              cases read
              exact ⟨rfl, by simpa using enabled, unbroken, unexpired⟩
      · rintro ⟨same, enabled, unbroken, unexpired⟩
        cases same
        rw [enabled, if_neg (by decide), if_neg unbroken, if_neg unexpired]

theorem permittedTool_ok (body : PyDict) (credential : McpCredential) (config : ProviderConfig) (tool : PyValue)
    (registered : env.getProvider request.server = some config) :
    permittedTool env request body credential = .ok tool ↔
      (if isToolsCall body then ∃ params, paramsOf body = some params ∧ tool = PyDict.get params "name" else tool = .none) ∧
        (isToolsCall body = true → namesTool config.knownWriteTools tool = true →
          namesTool credential.allowedTools tool = true) := by
  unfold permittedTool
  by_cases called : isToolsCall body = true
  · rw [if_pos called, if_pos called]
    cases paramsOf body with
    | none => simp
    | some params =>
        dsimp only
        rw [registered]
        dsimp only
        by_cases blocked :
            (namesTool config.knownWriteTools (PyDict.get params "name") &&
              !namesTool credential.allowedTools (PyDict.get params "name")) = true
        · rw [if_pos blocked]
          rw [Bool.and_eq_true, Bool.not_eq_true'] at blocked
          constructor
          · nofun
          · rintro ⟨⟨other, same, rfl⟩, allowed⟩
            cases same
            have there := allowed called blocked.1
            rw [blocked.2] at there
            cases there
        · rw [if_neg blocked]
          constructor
          · rintro same
            cases same
            refine ⟨⟨params, rfl, rfl⟩, ?_⟩
            intro _ writes
            by_contra absent
            rw [writes, Bool.eq_false_of_not_eq_true absent] at blocked
            exact blocked rfl
          · rintro ⟨⟨other, same, rfl⟩, _⟩
            cases same
            rfl
  · rw [if_neg called, if_neg called]
    constructor
    · rintro same
      cases same
      exact ⟨rfl, fun called' => absurd called' called⟩
    · rintro ⟨rfl, _⟩
      rfl

theorem authorize_ok (call : Call) : authorize env db request = .ok call ↔ Admitted env db request call := by
  constructor
  · intro taken
    obtain ⟨body, decoded, taken⟩ := bind_eq_ok _ _ _ taken
    obtain ⟨rawToken, presented, taken⟩ := bind_eq_ok _ _ _ taken
    obtain ⟨token, looked, taken⟩ := bind_eq_ok _ _ _ taken
    obtain ⟨credential, usable, taken⟩ := bind_eq_ok _ _ _ taken
    obtain ⟨tool, permitted, taken⟩ := bind_eq_ok _ _ _ taken
    obtain ⟨upstreamToken, decrypted, taken⟩ := bind_eq_ok _ _ _ taken
    obtain ⟨config, registered, taken⟩ := bind_eq_ok _ _ _ taken
    cases taken
    have provider : env.getProvider request.server = some config := by
      unfold providerConfig at registered
      split at registered
      · cases registered
      · rename_i found
        cases registered
        exact found
    obtain ⟨live, bound⟩ := (reviewToken_ok env db request body rawToken token).mp looked
    obtain ⟨held, enabled, unbroken, unexpired⟩ := (usableCredential_ok env db request body token credential).mp usable
    obtain ⟨named, allowed⟩ := (permittedTool_ok env request body credential config tool provider).mp permitted
    have secret : env.decrypt credential.encryptedAccessToken = some upstreamToken := by
      unfold decryptSecret at decrypted
      rw [held] at decrypted
      dsimp only at decrypted
      split at decrypted
      · cases decrypted
      · rename_i found
        cases decrypted
        exact found
    exact ⟨(requestBody_ok request body).mp decoded, (bearer_ok request body rawToken).mp presented, live, bound, held,
      enabled, unbroken, unexpired, provider, named, allowed, secret⟩
  · intro admitted
    have decoded := (requestBody_ok request call.body).mpr admitted.decoded
    have presented := (bearer_ok request call.body call.rawToken).mpr admitted.bearer
    have looked := (reviewToken_ok env db request call.body call.rawToken call.token).mpr ⟨admitted.live, admitted.bound⟩
    have usable := (usableCredential_ok env db request call.body call.token call.credential).mpr
      ⟨admitted.held, admitted.enabled, admitted.unbroken, admitted.unexpired⟩
    have permitted := (permittedTool_ok env request call.body call.credential call.config call.tool admitted.registered).mpr
      ⟨admitted.tool, admitted.allowed⟩
    have decrypted : decryptSecret env db request call.body call.token = .ok call.upstreamToken := by
      unfold decryptSecret
      rw [admitted.held]
      dsimp only
      rw [admitted.decrypted]
    have registered : providerConfig env request call.body = .ok call.config := by
      unfold providerConfig
      rw [admitted.registered]
    unfold authorize
    rw [decoded]
    change (bearer request call.body >>= _) = _
    rw [presented]
    change (reviewToken env db request call.body call.rawToken >>= _) = _
    rw [looked]
    change (usableCredential env db request call.body call.token >>= _) = _
    rw [usable]
    change (permittedTool env request call.body call.credential >>= _) = _
    rw [permitted]
    change (decryptSecret env db request call.body call.token >>= _) = _
    rw [decrypted]
    change (providerConfig env request call.body >>= _) = _
    rw [registered]
    rfl

end Checks

def shownParts (python : Python) (result : PyValue) : List PyText :=
  match result with
  | .dict entries =>
      if PyDict.contains entries "error" then
        match PyDict.get entries "error" with
        | .dict error => [(PyDict.get error "code").show python]
        | _ => []
      else firstKeys entries
  | _ => []

structure Describable (python : Python) (result : PyValue) : Prop where
  error : ∀ entries, result = .dict entries → PyDict.contains entries "error" = true →
    ∃ error, PyDict.get entries "error" = .dict error
  shown : ∀ part ∈ shownParts python result, storableLetters part = true

theorem storable_append (left right : PyText) :
    storableLetters (left ++ right) = (storableLetters left && storableLetters right) := List.all_append

theorem storable_number (number : Nat) : storableLetters (pyText (toString number)) = true := by
  unfold storableLetters pyText
  rw [List.all_map, List.all_eq_true]
  intro letter member
  have shown : letter ∈ Nat.toDigits 10 number := by
    have same : (toString number).toList = Nat.toDigits 10 number := Nat.toList_repr
    rw [← same]
    exact member
  have digit : letter.isDigit = true := Nat.isDigit_of_mem_toDigits (by decide) (by decide) shown
  simp only [Char.isDigit, Bool.and_eq_true, decide_eq_true_eq, ge_iff_le] at digit
  have low : 48 ≤ letter.toNat := digit.1
  have high : letter.toNat ≤ 57 := digit.2
  simp only [Function.comp, isSurrogate, Bool.and_eq_true, decide_eq_true_eq, Bool.not_eq_true', Bool.and_eq_false_iff,
    decide_eq_false_iff_not]
  omega

theorem storable_intercalate (separator : PyText) (parts : List PyText) (plain : storableLetters separator = true) :
    storableLetters (separator.intercalate parts) = parts.all storableLetters := by
  induction parts with
  | nil => rfl
  | cons part rest ih =>
      cases rest with
      | nil =>
          rw [List.intercalate_singleton]
          simp
      | cons second others =>
          rw [List.intercalate_cons_cons, storable_append, storable_append, plain, Bool.and_true, ih]
          rfl

theorem storable_typeName (value : PyValue) : storableLetters (pyText ("ok:scalar:" ++ PyValue.typeName value)) = true := by
  have named : PyValue.typeName value ∈ ["NoneType", "bool", "int", "float", "str", "list", "dict"] := by
    cases value <;> simp [PyValue.typeName]
  have each : ∀ name ∈ ["NoneType", "bool", "int", "float", "str", "list", "dict"],
      storableLetters (pyText ("ok:scalar:" ++ name)) = true := by decide
  exact each _ named

theorem summarize_describable (python : Python) (result : PyValue) :
    (∃ summary, summarize python result = some summary ∧ storableLetters summary = true) ↔ Describable python result := by
  have plain (value : PyValue) (simple : ∀ entries, value ≠ .dict entries) (silent : shownParts python value = []) :
      Describable python value := by
    refine ⟨fun entries same => absurd same (simple entries), ?_⟩
    rw [silent]
    exact fun _ => nofun
  cases result with
  | dict entries =>
      by_cases erring : PyDict.contains entries "error" = true
      · cases error : PyDict.get entries "error" with
        | dict error' =>
            have described : summarize python (.dict entries) =
                some (pyText "error:" ++ (PyDict.get error' "code").show python) := by
              simp only [summarize, if_pos erring, error]
            have parts : shownParts python (.dict entries) = [(PyDict.get error' "code").show python] := by
              simp only [shownParts, if_pos erring, error]
            have prefixed : storableLetters (pyText "error:") = true := by decide
            constructor
            · rintro ⟨summary, same, storable⟩
              rw [described] at same
              cases same
              rw [storable_append, prefixed, Bool.true_and] at storable
              refine ⟨?_, ?_⟩
              · rintro others same _
                cases same
                exact ⟨error', error⟩
              · intro part member
                rw [parts] at member
                rw [List.mem_singleton.mp member]
                exact storable
            · intro describable
              refine ⟨_, described, ?_⟩
              rw [storable_append, prefixed, Bool.true_and]
              apply describable.shown
              rw [parts]
              exact List.mem_singleton_self _
        | _ =>
            have silent : summarize python (.dict entries) = none := by
              simp only [summarize, if_pos erring, error]
            rw [silent]
            constructor
            · rintro ⟨_, same, _⟩
              cases same
            · intro describable
              obtain ⟨other, same⟩ := describable.error entries rfl erring
              rw [error] at same
              cases same
      · have described : summarize python (.dict entries) =
            some (pyText "ok:keys=" ++ (pyText ",").intercalate (firstKeys entries)) := by
          simp only [summarize, if_neg erring]
        have parts : shownParts python (.dict entries) = firstKeys entries := by
          simp only [shownParts, if_neg erring]
        have prefixed : storableLetters (pyText "ok:keys=") = true := by decide
        have comma : storableLetters (pyText ",") = true := by decide
        constructor
        · rintro ⟨summary, same, storable⟩
          rw [described] at same
          cases same
          rw [storable_append, prefixed, Bool.true_and, storable_intercalate _ _ comma] at storable
          refine ⟨?_, ?_⟩
          · rintro others same there
            cases same
            exact absurd there erring
          · rw [parts]
            exact List.all_eq_true.mp storable
        · intro describable
          refine ⟨_, described, ?_⟩
          rw [storable_append, prefixed, Bool.true_and, storable_intercalate _ _ comma, List.all_eq_true]
          intro part member
          apply describable.shown
          rw [parts]
          exact member
  | list items =>
      refine ⟨fun _ => plain _ (fun _ => nofun) rfl, fun _ => ⟨_, rfl, ?_⟩⟩
      rw [storable_append, storable_number, Bool.and_true]
      decide
  | none => exact ⟨fun _ => plain _ (fun _ => nofun) rfl, fun _ => ⟨_, rfl, storable_typeName _⟩⟩
  | bool value => exact ⟨fun _ => plain _ (fun _ => nofun) rfl, fun _ => ⟨_, rfl, storable_typeName (.bool value)⟩⟩
  | int value => exact ⟨fun _ => plain _ (fun _ => nofun) rfl, fun _ => ⟨_, rfl, storable_typeName (.int value)⟩⟩
  | float digits => exact ⟨fun _ => plain _ (fun _ => nofun) rfl, fun _ => ⟨_, rfl, storable_typeName (.float digits)⟩⟩
  | str letters => exact ⟨fun _ => plain _ (fun _ => nofun) rfl, fun _ => ⟨_, rfl, storable_typeName (.str letters)⟩⟩

-- What of a call and of its answer can be written down.
structure Recordable (env : Env) (call : Call) (payload : PyValue) : Prop where
  params : ∃ params, paramsOf call.body = some params
  method : ∃ letters, methodOf call.body = .str letters ∧ storableLetters letters = true
  tool : call.tool = .none ∨ ∃ letters, call.tool = .str letters ∧ storableLetters letters = true
  result : ∃ entries, payload = .dict entries ∧
    Describable env.python ((entries.lookup (pyText "result")).getD payload)

theorem auditText_some (value : PyValue) :
    (∃ text, auditText value = some text) ↔ ∃ letters, value = .str letters ∧ storableLetters letters = true := by
  constructor
  · rintro ⟨text, valid⟩
    unfold auditText at valid
    split at valid
    · rename_i letters
      split at valid
      · rename_i storable
        exact ⟨letters, rfl, storable⟩
      · cases valid
    · cases valid
  · rintro ⟨letters, rfl, storable⟩
    exact ⟨letters, if_pos storable⟩

theorem auditTool_text (value : PyValue) (named : value ≠ .none) : auditTool value = (auditText value).map some := by
  unfold auditTool
  split
  · exact absurd rfl named
  · rfl

theorem auditTool_some (value : PyValue) :
    (∃ tool, auditTool value = some tool) ↔
      value = .none ∨ ∃ letters, value = .str letters ∧ storableLetters letters = true := by
  by_cases unnamed : value = .none
  · rw [unnamed]
    exact ⟨fun _ => .inl rfl, fun _ => ⟨none, rfl⟩⟩
  · rw [← auditText_some, or_iff_right unnamed, auditTool_text value unnamed]
    constructor
    · rintro ⟨tool, valid⟩
      obtain ⟨text, stored, _⟩ := Option.map_eq_some_iff.mp valid
      exact ⟨text, stored⟩
    · rintro ⟨text, stored⟩
      exact ⟨some text, Option.map_eq_some_iff.mpr ⟨text, stored, rfl⟩⟩

theorem auditRow_some (env : Env) (request : DispatchRequest) (call : Call) (payload : PyValue) (row : AuditRow)
    (built : auditRow env request call payload = some row) :
    row.orgId = call.token.orgId ∧ row.kind = "mcp." ++ request.server ++ ".dispatched" ∧ Recordable env call payload := by
  unfold auditRow at built
  obtain ⟨result, read, built⟩ := Option.bind_eq_some_iff.mp built
  obtain ⟨summary, summarized, built⟩ := Option.bind_eq_some_iff.mp built
  obtain ⟨params, shaped, built⟩ := Option.bind_eq_some_iff.mp built
  obtain ⟨method, named, built⟩ := Option.bind_eq_some_iff.mp built
  obtain ⟨tool, called, built⟩ := Option.bind_eq_some_iff.mp built
  split at built
  · rename_i storable
    cases built
    refine ⟨rfl, rfl, ⟨params, shaped⟩, (auditText_some _).mp ⟨method, named⟩, (auditTool_some _).mp ⟨tool, called⟩, ?_⟩
    unfold resultOf at read
    split at read
    · rename_i entries
      cases read
      exact ⟨entries, rfl, (summarize_describable env.python _).mp ⟨summary, summarized, storable⟩⟩
    · cases read
  · cases built

theorem auditRow_recordable (env : Env) (request : DispatchRequest) (call : Call) (payload : PyValue)
    (recordable : Recordable env call payload) : ∃ row, auditRow env request call payload = some row := by
  obtain ⟨params, shaped⟩ := recordable.params
  obtain ⟨method, named⟩ := (auditText_some _).mpr recordable.method
  obtain ⟨tool, called⟩ := (auditTool_some _).mpr recordable.tool
  obtain ⟨entries, object, describable⟩ := recordable.result
  obtain ⟨summary, summarized, storable⟩ := (summarize_describable env.python _).mpr describable
  have read : resultOf payload = some ((entries.lookup (pyText "result")).getD payload) := by
    rw [object]
    rfl
  unfold auditRow
  rw [read]
  dsimp only [bind, Option.bind]
  rw [summarized, shaped, named, called]
  dsimp only
  rw [if_pos storable]
  exact ⟨_, rfl⟩

structure DispatchSound (env : Env) (db : ProxyDb) (request : DispatchRequest) (outcome : Outcome) : Prop where
  authorised : ∀ forward ∈ outcome.forwarded, ∃ call, Admitted env db request call ∧ forward = call.forward
  audited : ∃ rows, outcome.db.audits = db.audits ++ rows ∧ rows.length = outcome.forwarded.length ∧
    ∀ row ∈ rows, row.kind = "mcp." ++ request.server ++ ".dispatched" ∧
      ∃ call, Admitted env db request call ∧ row.orgId = call.token.orgId

def Answered (env : Env) (call : Call) : Prop :=
  ∃ status json text payload, env.upstream call.forward = .response status json text ∧ status < 500 ∧
    resultPayload json text = some payload ∧ Recordable env call payload

theorem unforwarded_sound (env : Env) (db : ProxyDb) (request : DispatchRequest) (outcome : Outcome)
    (kept : outcome.db.audits = db.audits) (none : outcome.forwarded = []) : DispatchSound env db request outcome := by
  constructor
  · rw [none]
    exact fun _ => nofun
  · refine ⟨[], ?_, ?_, fun _ => nofun⟩
    · rw [kept, List.append_nil]
    · rw [none]
      rfl

theorem unaudited_unsound (env : Env) (db : ProxyDb) (request : DispatchRequest) (outcome : Outcome) (forward : Forward)
    (kept : outcome.db.audits = db.audits) (one : outcome.forwarded = [forward]) :
    ¬ DispatchSound env db request outcome := by
  intro sound
  obtain ⟨rows, appended, count, _⟩ := sound.audited
  rw [kept] at appended
  have empty : rows = [] := List.append_right_eq_self.mp appended.symm
  rw [empty, one] at count
  cases count

theorem answered_iff (env : Env) (call : Call) (status : Nat) (json : Except LoadError PyValue) (text : PyText)
    (answer : env.upstream call.forward = .response status json text) :
    Answered env call ↔ status < 500 ∧ ∃ payload, resultPayload json text = some payload ∧ Recordable env call payload := by
  constructor
  · rintro ⟨otherStatus, otherJson, otherText, payload, same, below, read, recordable⟩
    rw [answer] at same
    cases same
    exact ⟨below, payload, read, recordable⟩
  · rintro ⟨below, payload, read, recordable⟩
    exact ⟨status, json, text, payload, answer, below, read, recordable⟩

theorem dispatch_admitted (env : Env) (db : ProxyDb) (request : DispatchRequest) (call : Call)
    (authorized : authorize env db request = .ok call) (builds : env.builds call.forward = true) :
    DispatchSound env db request (dispatch env db request) ↔
      (env.upstream call.forward ≠ .transportError false → Answered env call) := by
  have admitted := (authorize_ok env db request call).mp authorized
  unfold dispatch
  rw [authorized]
  dsimp only
  rw [builds, if_neg (by decide)]
  cases answer : env.upstream call.forward with
  | transportError delivered =>
      dsimp only
      cases delivered with
      | false =>
          refine ⟨fun _ lost => absurd rfl lost, fun _ => ?_⟩
          exact unforwarded_sound env db request _ rfl rfl
      | true =>
          refine ⟨fun sound => ?_, fun answered => ?_⟩
          · exact absurd sound (unaudited_unsound env db request _ call.forward rfl rfl)
          · obtain ⟨_, _, _, _, same, _⟩ := answered nofun
            rw [answer] at same
            cases same
  | response status json text =>
      rw [answered_iff env call status json text answer]
      have gone (outcome : Outcome) (kept : outcome.db.audits = db.audits) (one : outcome.forwarded = [call.forward])
          (fails : ¬ (status < 500 ∧ ∃ payload, resultPayload json text = some payload ∧ Recordable env call payload)) :
          DispatchSound env db request outcome ↔
            (UpstreamAnswer.response status json text ≠ .transportError false →
              status < 500 ∧ ∃ payload, resultPayload json text = some payload ∧ Recordable env call payload) :=
        ⟨fun sound => absurd sound (unaudited_unsound env db request outcome call.forward kept one),
          fun holds => absurd (holds nofun) fails⟩
      dsimp only
      by_cases failed : 500 ≤ status
      · rw [if_pos failed]
        exact gone _ rfl rfl fun holds => absurd holds.1 (by omega)
      · rw [if_neg failed]
        cases read : resultPayload json text with
        | none =>
            rw [read] at gone
            exact gone _ rfl rfl fun ⟨_, _, same, _⟩ => nomatch same
        | some payload =>
            dsimp only
            cases built : auditRow env request call payload with
            | none =>
                rw [read] at gone
                apply gone _ rfl rfl
                rintro ⟨_, _, same, recordable⟩
                cases same
                obtain ⟨row, exists_⟩ := auditRow_recordable env request call payload recordable
                rw [built] at exists_
                cases exists_
            | some row =>
                obtain ⟨org, kind, recordable⟩ := auditRow_some env request call payload row built
                refine ⟨fun _ _ => ⟨by omega, payload, rfl, recordable⟩, fun _ => ⟨?_, [row], rfl, rfl, ?_⟩⟩
                · intro forward member
                  exact ⟨call, admitted, List.mem_singleton.mp member⟩
                · intro other member
                  rw [List.mem_singleton.mp member]
                  exact ⟨kind, call, admitted, org⟩

-- A 5xx, a transport error behind the body and every shape that raises between the
-- answer and the commit leave a forwarded call without its row.
theorem dispatch_audited (env : Env) (db : ProxyDb) (request : DispatchRequest) :
    DispatchSound env db request (dispatch env db request) ↔
      ∀ call, Admitted env db request call → env.builds call.forward = true →
        env.upstream call.forward ≠ .transportError false → Answered env call := by
  cases authorized : authorize env db request with
  | error refusal =>
      have none (call : Call) (admitted : Admitted env db request call) : False := by
        rw [(authorize_ok env db request call).mpr admitted] at authorized
        cases authorized
      refine ⟨fun _ call admitted => (none call admitted).elim, fun _ => ?_⟩
      apply unforwarded_sound
      · unfold dispatch
        rw [authorized]
        dsimp only
        split <;> rfl
      · unfold dispatch
        rw [authorized]
  | ok call =>
      have only (other : Call) (admitted : Admitted env db request other) : other = call := by
        have same := (authorize_ok env db request other).mpr admitted
        rw [authorized] at same
        cases same
        rfl
      have admitted := (authorize_ok env db request call).mp authorized
      cases builds : env.builds call.forward with
      | false =>
          constructor
          · intro _ other otherAdmitted otherBuilds
            rw [only other otherAdmitted, builds] at otherBuilds
            cases otherBuilds
          · intro _
            apply unforwarded_sound
            · unfold dispatch
              rw [authorized]
              dsimp only
              rw [builds]
              rfl
            · unfold dispatch
              rw [authorized]
              dsimp only
              rw [builds]
              rfl
      | true =>
          rw [dispatch_admitted env db request call authorized builds]
          constructor
          · intro answered other otherAdmitted _
            rw [only other otherAdmitted]
            exact answered
          · intro each
            exact each call admitted builds

def sampleEnv (answer : UpstreamAnswer) : Env where
  now := 0
  python := { loads := fun _ => .error .jsonDecodeError, printable := fun _ => true }
  hashToken rawToken := String.ofList rawToken
  decrypt secret := some secret
  getProvider _ := some { mcpUrl := "https://mcp.linear.app", knownWriteTools := ["create_issue"] }
  dumps _ := some ""
  sha256 text := text
  builds _ := true
  upstream _ := answer

def sampleDb : ProxyDb where
  tokens := { rows := [{ tokenHash := "t", reviewId := 1, orgId := 2, expiresAt := 60 }], unique := List.nodup_singleton _ }
  credentials :=
    { rows :=
        [{ orgId := 2, provider := "linear", encryptedAccessToken := "s", expiresAt := 60, allowedTools := [],
           enabled := true, lastRefreshStatus := some "ok", lastUsedAt := none }]
      unique := List.nodup_singleton _ }
  audits := []
  brokenCreds := []

def sampleRequest : DispatchRequest where
  authorization := "Bearer t".toList
  reviewId := 1
  server := "linear"
  body := .ok (.dict [(pyText "method", .str (pyText "tools/list"))])

def failedTool : PyValue := .dict [(pyText "result", .dict [(pyText "error", .str (pyText "not found"))])]

theorem failed_tool_unaudited :
    ¬ ∀ (env : Env) (db : ProxyDb) (request : DispatchRequest), DispatchSound env db request (dispatch env db request) := by
  intro claim
  have sound := claim (sampleEnv (.response 200 (.ok failedTool) [])) sampleDb sampleRequest
  obtain ⟨rows, appended, count, _⟩ := sound.audited
  have kept : (dispatch (sampleEnv (.response 200 (.ok failedTool) [])) sampleDb sampleRequest).db.audits = [] := by
    decide +kernel
  have one : (dispatch (sampleEnv (.response 200 (.ok failedTool) [])) sampleDb sampleRequest).forwarded.length = 1 := by
    decide +kernel
  rw [kept] at appended
  have empty : rows = [] := (List.append_eq_nil_iff.mp appended.symm).2
  rw [empty, one] at count
  cases count

end Yaaos.Mcp
