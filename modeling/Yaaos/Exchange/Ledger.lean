import Yaaos.Base.Machine
import Yaaos.Base.PyValue
import Yaaos.Base.Table
import Yaaos.Exchange.Verifier

set_option autoImplicit false

namespace Yaaos.Exchange

open Yaaos.Base

structure OrgRow where
  id : Uuid
  archivedAt : Option Int
  sessionTimeoutOverride : Option Int
  registeredIamArn : Option String
  awsRegion : Option String
  workspaceMaxCount : Int

inductive Lifecycle where
  | unconfigured
  | active
  | draining
  | shutdown
  deriving DecidableEq

structure AgentMetadata where
  os : Option String
  cpuCount : Option Int
  memoryBytes : Option Int

structure WorkspaceAgentRow where
  id : Uuid
  orgId : Uuid
  instanceId : String
  iamArn : String
  version : Option String
  metadata : AgentMetadata
  lastHeartbeatAt : Int
  reachable : Bool
  lifecycle : Lifecycle

def WorkspaceAgentRow.key (row : WorkspaceAgentRow) : Uuid × String := (row.orgId, row.instanceId)

structure BearerTokenRow where
  id : Uuid
  orgId : Uuid
  agentId : Uuid
  tokenHash : String
  issuedAt : Int
  expiresAt : Int
  revokedAt : Option Int
  revokedReason : Option String
  sourceIp : Option String
  issuedIamArn : Option String

structure Db where
  nextId : Uuid
  orgs : Table OrgRow Uuid OrgRow.id
  agents : Table WorkspaceAgentRow (Uuid × String) WorkspaceAgentRow.key
  bearers : Table BearerTokenRow String BearerTokenRow.tokenHash
  configUpdates : List Uuid

inductive ExchangeError where
  | unauthorized
  | rateLimited
  | audienceMismatch
  | verificationFailed (category : FailureCategory)
  | unregisteredArn
  | regionMismatch
  | orgNotFound
  | invalidSessionTimeoutOverride
  | invalidRegisteredIamArn
  | invalidAwsRegion
  | invalidWorkspaceMaxCount
  | arnAndRegionMustBePaired
  | arnAlreadyRegistered
  | unknownCall
  | integrityError (constraint : String)
  deriving DecidableEq

def defaultTtlSeconds : Int := 60 * 60

structure Env where
  now : Int
  plaintext : String
  hash : String → String
  sourceIp : Option String

def Db.issue (env : Env) (db : Db) (agentId orgId : Uuid) (issuedIamArn : String) : Except ExchangeError Db :=
  match db.bearers.insert? {
      id := db.nextId
      orgId := orgId
      agentId := agentId
      tokenHash := env.hash env.plaintext
      issuedAt := env.now
      expiresAt := env.now + defaultTtlSeconds
      revokedAt := none
      revokedReason := none
      sourceIp := env.sourceIp
      issuedIamArn := some issuedIamArn } with
  | some bearers => .ok { db with nextId := db.nextId + 1, bearers := bearers }
  | none => .error (.integrityError "bearer_tokens_token_hash_key")

def BearerTokenRow.revoke (env : Env) (reason : String) (row : BearerTokenRow) : BearerTokenRow :=
  { row with revokedAt := some env.now, revokedReason := some reason }

def Db.revokeWhere (env : Env) (db : Db) (reason : String) (selected : BearerTokenRow → Bool) : Db :=
  { db with
    bearers := db.bearers.update (fun row => selected row && row.revokedAt.isNone) (BearerTokenRow.revoke env reason)
      (fun _ => rfl) }

def Db.revokeAllForArn (env : Env) (db : Db) (arn reason : String) : Db :=
  db.revokeWhere env reason fun row => decide (row.issuedIamArn = some arn)

def Db.revokeAllForAgent (env : Env) (db : Db) (agentId : Uuid) (reason : String) : Db :=
  db.revokeWhere env reason fun row => decide (row.agentId = agentId)

structure OrgArnRef where
  id : Uuid
  awsRegion : Option String

def Db.lookupOrgByArn (db : Db) (canonicalArn : String) : Option OrgArnRef :=
  (db.orgs.rows.find? fun row => decide (row.registeredIamArn = some canonicalArn) && row.archivedAt.isNone).map
    fun row => { id := row.id, awsRegion := row.awsRegion }

def WorkspaceAgentRow.refreshed (row excluded : WorkspaceAgentRow) : WorkspaceAgentRow :=
  { row with
    iamArn := excluded.iamArn
    version := excluded.version
    metadata := {
      os := excluded.metadata.os.or row.metadata.os
      cpuCount := excluded.metadata.cpuCount.or row.metadata.cpuCount
      memoryBytes := excluded.metadata.memoryBytes.or row.metadata.memoryBytes }
    lastHeartbeatAt := excluded.lastHeartbeatAt
    reachable := excluded.reachable
    lifecycle := if row.lifecycle = .shutdown then .unconfigured else row.lifecycle }

def Db.ensureAgentRow (env : Env) (db : Db) (orgId : Uuid) (instanceId iamArn version : String)
    (metadata : AgentMetadata) : Uuid × Db :=
  let excluded : WorkspaceAgentRow := {
    id := db.nextId
    orgId := orgId
    instanceId := instanceId
    iamArn := iamArn
    version := some version
    metadata := metadata
    lastHeartbeatAt := env.now
    reachable := true
    lifecycle := .unconfigured }
  let agents := db.agents.upsert excluded (fun row => row.refreshed excluded) (fun _ => rfl)
  (((agents.find? (orgId, instanceId)).map WorkspaceAgentRow.id).getD db.nextId,
    { db with nextId := db.nextId + 1, agents := agents })

def Db.enqueueConfigUpdateForAgent (db : Db) (agentId : Uuid) : Db :=
  { db with configUpdates := db.configUpdates ++ [agentId] }

structure ExchangeRequest where
  kind : String
  payload : String
  agentVersion : Option String
  agentMetadata : AgentMetadata

structure PendingExchange where
  verified : VerifiedIdentity
  orgId : Uuid
  version : String
  metadata : AgentMetadata

def versionOr (version : Option String) : String :=
  match version with
  | some version => if version = "" then "0.0.1" else version
  | none => "0.0.1"

def exchangeLookup (db : Db) (request : ExchangeRequest) (verified : VerifiedIdentity) :
    Except ExchangeError PendingExchange :=
  match db.lookupOrgByArn verified.canonicalArn with
  | none => .error .unregisteredArn
  | some ref =>
      match ref.awsRegion with
      | some region =>
          if region ≠ "" ∧ verified.region ≠ region then .error .regionMismatch
          else .ok ⟨verified, ref.id, versionOr request.agentVersion, request.agentMetadata⟩
      | none => .ok ⟨verified, ref.id, versionOr request.agentVersion, request.agentMetadata⟩

def exchangeIssue (env : Env) (db : Db) (pending : PendingExchange) : Except ExchangeError Db :=
  let (agentId, ensured) := db.ensureAgentRow env pending.orgId (extractInstanceId pending.verified.rawArn)
    pending.verified.canonicalArn pending.version pending.metadata
  (ensured.enqueueConfigUpdateForAgent agentId).issue env agentId pending.orgId pending.verified.canonicalArn

-- A key of the body is absent, or carries a value that may be null or of the wrong
-- kind.
inductive Given (α : Type) where
  | absent
  | malformed
  | given (value : Option α)

structure PatchBody where
  sessionTimeoutOverride : Given Int
  registeredIamArn : Given String
  awsRegion : Given String
  workspaceMaxCount : Given Int

def arnLetter (letter : Char) : Bool :=
  letter.isAlphanum || letter == '_' || "+=,.@-".toList.contains letter

-- `^arn:aws:iam::\d{12}:role/[\w+=,.@-]+$`
def iamRoleArnRe (arn : String) : Bool :=
  match afterPrefix "arn:aws:iam::" arn.toList with
  | none => false
  | some rest =>
      let account := rest.take 12
      match afterPrefix ":role/" (rest.drop 12) with
      | none => false
      | some name => decide (account.length = 12) && account.all Char.isDigit && !name.isEmpty && name.all arnLetter

def stripText (text : String) : String :=
  let left := text.toList.dropWhile fun letter => isSpace letter.toNat
  String.ofList (left.reverse.dropWhile fun letter => isSpace letter.toNat).reverse

def effTimeout (full : OrgRow) : Given Int → Except ExchangeError (Option Int)
  | .absent => .ok full.sessionTimeoutOverride
  | .malformed => .error .invalidSessionTimeoutOverride
  | .given none => .ok none
  | .given (some minutes) => if minutes ≤ 0 then .error .invalidSessionTimeoutOverride else .ok (some minutes)

def effArn (full : OrgRow) : Given String → Except ExchangeError (Option String)
  | .absent => .ok full.registeredIamArn
  | .malformed => .error .invalidRegisteredIamArn
  | .given none => .ok none
  | .given (some value) =>
      let arn := (stripText value).toLower
      if iamRoleArnRe arn then .ok (some arn) else .error .invalidRegisteredIamArn

def effRegion (full : OrgRow) : Given String → Except ExchangeError (Option String)
  | .absent => .ok full.awsRegion
  | .malformed => .error .invalidAwsRegion
  | .given none => .ok none
  | .given (some region) => if stripText region = "" then .error .invalidAwsRegion else .ok (some region)

def newWorkspaceMaxCount : Given Int → Except ExchangeError (Option Int)
  | .absent => .ok none
  | .malformed | .given none => .error .invalidWorkspaceMaxCount
  | .given (some count) => if 1 ≤ count ∧ count ≤ 50 then .ok (some count) else .error .invalidWorkspaceMaxCount

structure PendingPatch where
  full : OrgRow
  timeout : Option Int
  arn : Option String
  region : Option String
  workspaceMaxCount : Option Int

def patchRead (db : Db) (orgId : Uuid) (body : PatchBody) : Except ExchangeError PendingPatch := do
  match db.orgs.find? orgId with
  | none => .error .orgNotFound
  | some full =>
      let timeout ← effTimeout full body.sessionTimeoutOverride
      let arn ← effArn full body.registeredIamArn
      let region ← effRegion full body.awsRegion
      let count ← newWorkspaceMaxCount body.workspaceMaxCount
      if arn.isNone ≠ region.isNone then .error .arnAndRegionMustBePaired
      else
        match arn with
        | some new =>
            if full.registeredIamArn ≠ some new ∧
                (db.lookupOrgByArn new).any fun existing => decide (existing.id ≠ orgId) then
              .error .arnAlreadyRegistered
            else .ok { full := full, timeout := timeout, arn := arn, region := region, workspaceMaxCount := count }
        | none => .ok { full := full, timeout := timeout, arn := arn, region := region, workspaceMaxCount := count }

def PendingPatch.arnChanged (pending : PendingPatch) : Bool :=
  pending.full.registeredIamArn.isSome && decide (pending.full.registeredIamArn ≠ pending.arn)

def PendingPatch.write (pending : PendingPatch) (row : OrgRow) : OrgRow :=
  { row with
    sessionTimeoutOverride :=
      if pending.full.sessionTimeoutOverride = pending.timeout then row.sessionTimeoutOverride else pending.timeout
    registeredIamArn := if pending.full.registeredIamArn = pending.arn then row.registeredIamArn else pending.arn
    awsRegion := if pending.full.awsRegion = pending.region then row.awsRegion else pending.region
    workspaceMaxCount :=
      match pending.workspaceMaxCount with
      | some count => if pending.full.workspaceMaxCount = count then row.workspaceMaxCount else count
      | none => row.workspaceMaxCount }

theorem write_id (pending : PendingPatch) (row : OrgRow) : (pending.write row).id = row.id := rfl

def Db.updateOrgFields (db : Db) (orgId : Uuid) (pending : PendingPatch) : Db :=
  { db with orgs := db.orgs.update (fun row => decide (row.id = orgId)) pending.write (write_id pending) }

def arnsUnique (orgs : List OrgRow) : Bool :=
  decide (orgs.filterMap OrgRow.registeredIamArn).Nodup

def arnPaired (row : OrgRow) : Bool := decide (row.registeredIamArn.isNone = row.awsRegion.isNone)

def Db.enqueueConfigUpdateForAllOrgAgents (db : Db) (orgId : Uuid) : Db :=
  { db with
    configUpdates := db.configUpdates ++
      (db.agents.rows.filter fun row => decide (row.orgId = orgId)).map WorkspaceAgentRow.id }

def patchCommit (env : Env) (db : Db) (orgId : Uuid) (pending : PendingPatch) : Except ExchangeError Db :=
  let revoked :=
    match pending.full.registeredIamArn with
    | some arn => if pending.arnChanged then db.revokeAllForArn env arn "arn_change" else db
    | none => db
  let updated := revoked.updateOrgFields orgId pending
  if !updated.orgs.rows.all arnPaired then .error (.integrityError "ck_orgs_arn_region_paired")
  else if !arnsUnique updated.orgs.rows then .error (.integrityError "uq_orgs_registered_iam_arn")
  else
    match pending.workspaceMaxCount with
    | some count =>
        if pending.full.workspaceMaxCount ≠ count then .ok (updated.enqueueConfigUpdateForAllOrgAgents orgId)
        else .ok updated
    | none => .ok updated

end Yaaos.Exchange
