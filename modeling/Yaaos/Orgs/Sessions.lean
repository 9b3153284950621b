import Yaaos.Orgs.Types

set_option autoImplicit false

namespace Yaaos.Orgs

open Yaaos.Base

def Db.createSession (settings : Settings) (env : Env) (db : Db) (userId : Uuid) : Except OrgError Db :=
  match db.sessions.insert? {
      tokenHash := settings.hashToken env.newRawToken
      userId := some userId
      ssoSatisfiedForOrgId := none
      ssoSatisfiedAt := none
      lastSeenAt := env.now
      expiresAt := env.now + settings.sessionLifetimeSeconds } with
  | some sessions => .ok { db with sessions := sessions }
  | none => .error (.integrityError "sessions_pkey")

def Db.findSessionByHash (env : Env) (db : Db) (tokenHash : String) : Option SessionRow :=
  match db.sessions.find? tokenHash with
  | some row => if row.expiresAt < env.now then none else some row
  | none => none

def Db.lookupSession (settings : Settings) (env : Env) (db : Db) (rawToken : String) : Option SessionRow :=
  db.findSessionByHash env (settings.hashToken rawToken)

def Db.touchSession (settings : Settings) (env : Env) (db : Db) (rawToken : String) : Db :=
  { db with
    sessions := db.sessions.update
      (fun row => decide (row.tokenHash = settings.hashToken rawToken) && decide (row.expiresAt ≥ env.now))
      (fun row => { row with lastSeenAt := env.now }) (fun _ => rfl) }

def Db.revokeSession (settings : Settings) (db : Db) (rawToken : String) : Db :=
  { db with sessions := db.sessions.delete fun row => decide (row.tokenHash = settings.hashToken rawToken) }

def Db.revokeAllSessionsForUser (db : Db) (userId : Uuid) : Db :=
  { db with sessions := db.sessions.delete fun row => decide (row.userId = some userId) }

def Db.cleanupExpired (env : Env) (db : Db) : Db :=
  { db with sessions := db.sessions.delete fun row => decide (row.expiresAt < env.now) }

def Db.markSsoSatisfied (settings : Settings) (env : Env) (db : Db) (rawToken : String) (orgId : Uuid) :
    Except OrgError Db :=
  match db.findSessionByHash env (settings.hashToken rawToken) with
  | none => .error .sessionNotFound
  | some _ =>
      .ok { db with
        sessions := db.sessions.update
          (fun row => decide (row.tokenHash = settings.hashToken rawToken) && decide (row.expiresAt ≥ env.now))
          (fun row => { row with ssoSatisfiedForOrgId := some orgId, ssoSatisfiedAt := some env.now })
          (fun _ => rfl) }

def ssoTtl : Int := 8 * 60 * 60

def isSsoSatisfied (env : Env) (row : SessionRow) (orgId : Uuid) : Bool :=
  if row.ssoSatisfiedForOrgId ≠ some orgId then false
  else
    match row.ssoSatisfiedAt with
    | none => false
    | some satisfiedAt => decide (satisfiedAt + ssoTtl ≥ env.now)

def Db.hasVerifiedTotp (db : Db) (userId : Uuid) : Bool :=
  match db.totpSecrets.find? userId with
  | none => false
  | some row => row.verifiedAt.isSome

structure AuthOrg where
  orgId : Uuid
  slug : String
  role : Role
  ssoEnabled : Bool
  ssoExemptOwnerUserId : Option Uuid
  sessionTimeoutOverride : Option Int
  deriving DecidableEq

def Db.getOrgRowBySlug (db : Db) (slug : String) : Option OrgRow :=
  db.orgs.rows.find? fun row => decide (row.slug = slug) && row.archivedAt.isNone

def Db.getMembership (db : Db) (userId orgId : Uuid) : Option MembershipRow :=
  db.memberships.find? (userId, orgId)

def Db.resolveAuthOrg (db : Db) (userId : Uuid) (slug : String) : Option AuthOrg :=
  match db.getOrgRowBySlug slug with
  | none => none
  | some org =>
      match db.getMembership userId org.id with
      | none => none
      | some membership =>
          some {
            orgId := org.id
            slug := org.slug
            role := membership.role
            ssoEnabled := org.ssoEnabled
            ssoExemptOwnerUserId := org.ssoExemptOwnerUserId
            sessionTimeoutOverride := org.sessionTimeoutOverride }

structure Request where
  yaaosSession : Option String
  orgSlug : Option String
  queryOrg : Option String

def sessionIdleTimeout : Int := 12 * 60 * 60

def currentSession (settings : Settings) (env : Env) (db : Db) (request : Request) : Option SessionRow :=
  match truthy request.yaaosSession with
  | none => none
  | some rawToken => db.findSessionByHash env (settings.hashToken rawToken)

def currentSessionUserId (settings : Settings) (env : Env) (db : Db) (request : Request) : Option Uuid :=
  match currentSession settings env db request with
  | none => none
  | some row => row.userId

def requestSlug (request : Request) : Option String :=
  match truthy request.orgSlug with
  | some slug => some slug
  | none => truthy request.queryOrg

def idleWindow (override : Option Int) : Int :=
  match override with
  | some minutes => if minutes = 0 then sessionIdleTimeout else minutes * 60
  | none => sessionIdleTimeout

def isIdle (settings : Settings) (env : Env) (db : Db) (request : Request) (auth : AuthOrg) : Bool :=
  match currentSession settings env db request with
  | none => false
  | some row => decide (row.lastSeenAt + idleWindow auth.sessionTimeoutOverride < env.now)

def ssoOk (settings : Settings) (env : Env) (db : Db) (request : Request) (auth : AuthOrg) : Bool :=
  match currentSession settings env db request with
  | none => false
  | some row => isSsoSatisfied env row auth.orgId

def isExempt (userId : Uuid) (auth : AuthOrg) : Bool :=
  decide (auth.ssoExemptOwnerUserId = some userId) && decide (auth.role = .owner)

-- The gate of an org-scoped endpoint. The touch that follows a pass is a write
-- of its own.
def require (settings : Settings) (env : Env) (db : Db) (request : Request) (action : Action) :
    Except OrgError AuthOrg :=
  match currentSessionUserId settings env db request with
  | none => .error .unauthenticated
  | some userId =>
      match requestSlug request with
      | none => .error .missingOrgSlug
      | some slug =>
          match db.resolveAuthOrg userId slug with
          | none => .error .orgNotFound
          | some auth =>
              if !auth.role.covers (requiredRoleFor action) then .error .insufficientRole
              else if isIdle settings env db request auth then .error .sessionIdleExpired
              else if auth.ssoEnabled && !ssoOk settings env db request auth then
                if isExempt userId auth then
                  if db.hasVerifiedTotp userId then .ok auth else .error .ssoRequired
                else .error .ssoRequired
              else .ok auth

def touchAfter (settings : Settings) (env : Env) (db : Db) (request : Request) : Db :=
  match truthy request.yaaosSession with
  | none => db
  | some rawToken => db.touchSession settings env rawToken

structure Passes (settings : Settings) (env : Env) (db : Db) (request : Request) (action : Action) (auth : AuthOrg)
    (userId : Uuid) : Prop where
  caller : currentSessionUserId settings env db request = some userId
  member : ∃ slug, requestSlug request = some slug ∧ db.resolveAuthOrg userId slug = some auth
  covers : auth.role.covers (requiredRoleFor action) = true
  awake : isIdle settings env db request auth = false
  cleared : auth.ssoEnabled = true → ssoOk settings env db request auth = true ∨
    (isExempt userId auth = true ∧ db.hasVerifiedTotp userId = true)

theorem require_ok (settings : Settings) (env : Env) (db : Db) (request : Request) (action : Action) (auth : AuthOrg) :
    require settings env db request action = .ok auth ↔
      ∃ userId, Passes settings env db request action auth userId := by
  constructor
  · intro passed
    unfold require at passed
    split at passed
    · cases passed
    rename_i userId caller
    split at passed
    · cases passed
    rename_i slug slugged
    split at passed
    · cases passed
    rename_i found resolved
    split at passed
    · cases passed
    rename_i covered
    split at passed
    · cases passed
    rename_i awake
    have covers : found.role.covers (requiredRoleFor action) = true := by simpa using covered
    have still : isIdle settings env db request found = false := by simpa using awake
    split at passed
    · rename_i gated
      split at passed
      · rename_i exempt
        split at passed
        · rename_i verified
          cases passed
          exact ⟨userId, caller, ⟨slug, slugged, resolved⟩, covers, still, fun _ => .inr ⟨exempt, verified⟩⟩
        · cases passed
      · cases passed
    · rename_i open_
      cases passed
      refine ⟨userId, caller, ⟨slug, slugged, resolved⟩, covers, still, ?_⟩
      intro enabled
      simp only [enabled, Bool.true_and, Bool.not_eq_true', Bool.not_eq_false] at open_
      exact .inl open_
  · intro ⟨userId, passes⟩
    obtain ⟨slug, slugged, resolved⟩ := passes.member
    simp only [require, passes.caller, slugged, resolved, passes.covers, passes.awake, Bool.not_true,
      Bool.false_eq_true, if_false]
    by_cases enabled : auth.ssoEnabled = true
    · rcases passes.cleared enabled with satisfied | ⟨exempt, verified⟩
      · simp [satisfied]
      · simp [exempt, verified]
    · simp [enabled]

theorem resolveAuthOrg_some (db : Db) (userId : Uuid) (slug : String) (auth : AuthOrg)
    (resolved : db.resolveAuthOrg userId slug = some auth) :
    ∃ org membership, db.getOrgRowBySlug slug = some org ∧ db.getMembership userId org.id = some membership ∧
      auth = ⟨org.id, org.slug, membership.role, org.ssoEnabled, org.ssoExemptOwnerUserId, org.sessionTimeoutOverride⟩ := by
  unfold Db.resolveAuthOrg at resolved
  split at resolved
  · cases resolved
  rename_i org found
  split at resolved
  · cases resolved
  rename_i membership held
  cases resolved
  exact ⟨org, membership, found, held, rfl⟩

theorem isSsoSatisfied_iff (env : Env) (row : SessionRow) (orgId : Uuid) :
    isSsoSatisfied env row orgId = true ↔
      row.ssoSatisfiedForOrgId = some orgId ∧ ∃ at_, row.ssoSatisfiedAt = some at_ ∧ at_ + ssoTtl ≥ env.now := by
  unfold isSsoSatisfied
  by_cases other : row.ssoSatisfiedForOrgId = some orgId
  · cases satisfied : row.ssoSatisfiedAt with
    | none => simp [other]
    | some at_ => simp [other]
  · simp [other]

theorem findSessionByHash_some (env : Env) (db : Db) (tokenHash : String) (row : SessionRow)
    (found : db.findSessionByHash env tokenHash = some row) :
    row ∈ db.sessions.rows ∧ row.tokenHash = tokenHash ∧ row.expiresAt ≥ env.now := by
  unfold Db.findSessionByHash at found
  split at found
  · rename_i other stored
    split at found
    · cases found
    · rename_i live
      cases found
      obtain ⟨member, same⟩ := Table.find?_some db.sessions tokenHash row stored
      exact ⟨member, same, not_lt.mp live⟩
  · cases found

theorem currentSession_some (settings : Settings) (env : Env) (db : Db) (request : Request) (row : SessionRow)
    (current : currentSession settings env db request = some row) :
    ∃ rawToken, truthy request.yaaosSession = some rawToken ∧ row ∈ db.sessions.rows ∧
      row.tokenHash = settings.hashToken rawToken ∧ row.expiresAt ≥ env.now := by
  unfold currentSession at current
  split at current
  · cases current
  · rename_i rawToken cookie
    exact ⟨rawToken, cookie, findSessionByHash_some env db (settings.hashToken rawToken) row current⟩

end Yaaos.Orgs
