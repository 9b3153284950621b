import Yaaos.Orgs.Members

set_option autoImplicit false

namespace Yaaos.Orgs

open Yaaos.Base

def Db.findUserByEmail (db : Db) (email : String) : Option UserRow :=
  db.emails.rows.findSome? fun row =>
    if row.email.toLower = email.toLower ∧ row.verifiedAt.isSome then
      match db.users.find? row.userId with
      | some user => if user.deactivatedAt.isNone then some user else none
      | none => none
    else none

def Db.createUser (db : Db) : Except OrgError Db :=
  match db.users.insert? { id := db.nextId, deactivatedAt := none } with
  | some users => .ok { db with nextId := db.nextId + 1, users := users }
  | none => .error (.integrityError "users_pkey")

def Db.addEmail (env : Env) (db : Db) (userId : Uuid) (email : String) (verified : Bool) : Except OrgError Db :=
  if verified && db.emails.rows.any fun other =>
      decide (other.email.toLower = email.toLower) && other.verifiedAt.isSome then
    .error (.integrityError "uq_user_emails_email_active")
  else
    match db.emails.insert? {
        id := db.nextId
        userId := userId
        email := email
        verifiedAt := if verified then some env.now else none } with
    | some emails => .ok { db with nextId := db.nextId + 1, emails := emails }
    | none => .error (.integrityError "user_emails_pkey")

def Db.addOAuthIdentity (db : Db) (userId : Uuid) (provider externalSubject : String) : Except OrgError Db :=
  match db.identities.insert? { provider := provider, externalSubject := externalSubject, userId := userId } with
  | some identities => .ok { db with identities := identities }
  | none => .error (.integrityError "uq_oauth_identity_provider_subject")

def Db.verifyTotp (env : Env) (db : Db) (userId : Uuid) : Db :=
  { db with
    totpSecrets := db.totpSecrets.update (fun row => decide (row.userId = userId) && row.verifiedAt.isNone)
      (fun row => { row with verifiedAt := some env.now }) (fun _ => rfl) }

structure ProviderProfile where
  externalSubject : String
  primaryEmail : String
  emailVerified : Bool
  mfaSatisfied : Bool

def loginViaOauth (db : Db) (providerId : String) (profile : ProviderProfile) : Except OrgError (Option UserRow × Db) :=
  match db.identities.find? (providerId, profile.externalSubject) with
  | some identity =>
      match db.users.find? identity.userId with
      | some user => .ok (some user, db)
      | none => .error (.integrityError "oauth_identities_user_id_fkey")
  | none =>
      match db.findUserByEmail profile.primaryEmail with
      | some user =>
          match db.addOAuthIdentity user.id providerId profile.externalSubject with
          | .error error => .error error
          | .ok linked => .ok (some user, linked)
      | none => .ok (none, db)

def revokePreAuthSession (settings : Settings) (db : Db) (request : Request) : Db :=
  match truthy request.yaaosSession with
  | some rawToken => db.revokeSession settings rawToken
  | none => db

def mintSession (settings : Settings) (env : Env) (db : Db) (userId : Uuid) : Except OrgError (Option String × Db) :=
  match db.createSession settings env userId with
  | .error error => .error error
  | .ok minted => .ok (some env.newRawToken, minted)

def callback (settings : Settings) (env : Env) (db : Db) (request : Request) (provider : String)
    (profile : ProviderProfile) : Except OrgError (Option String × Db) :=
  if !profile.emailVerified then .error .emailNotVerified
  else
    match loginViaOauth db provider profile with
    | .error error => .error error
    | .ok (none, _) => .ok (none, db)
    | .ok (some user, linked) =>
        if !profile.mfaSatisfied && linked.hasVerifiedTotp user.id then .ok (none, linked)
        else mintSession settings env (revokePreAuthSession settings linked request) user.id

def totpChallenge (settings : Settings) (env : Env) (db : Db) (request : Request) (userId : Uuid) (codeMatches : Bool) :
    Except OrgError (Option String × Db) :=
  match db.totpSecrets.find? userId with
  | none => .error .totpInvalid
  | some _ =>
      if !codeMatches then .error .totpInvalid
      else mintSession settings env (revokePreAuthSession settings (db.verifyTotp env userId) request) userId

def logout (settings : Settings) (db : Db) (request : Request) : Db := revokePreAuthSession settings db request

def logoutAll (settings : Settings) (env : Env) (db : Db) (request : Request) : Db :=
  match currentSessionUserId settings env db request with
  | some userId => db.revokeAllSessionsForUser userId
  | none => revokePreAuthSession settings db request

structure SsoConfigBody where
  idpMetadataXml : String
  jitEnabled : Bool
  enabled : Bool
  exemptOwnerUserId : Option Uuid

def Db.setSsoAuthz (db : Db) (orgId : Uuid) (enabled : Bool) (exemptOwner : Option Uuid) : Db :=
  { db with
    orgs := db.orgs.update (fun row => decide (row.id = orgId))
      (fun row => { row with ssoEnabled := enabled, ssoExemptOwnerUserId := exemptOwner }) (fun _ => rfl) }

def upsertConfig (db : Db) (orgId : Uuid) (body : SsoConfigBody) : Except OrgError Db :=
  if body.idpMetadataXml.toList.contains '<' then
    let row : SsoConfigRow := {
      orgId := orgId
      idpMetadataXml := body.idpMetadataXml
      jitEnabled := body.jitEnabled
      enabled := body.enabled
      exemptOwnerUserId := body.exemptOwnerUserId }
    let written := db.ssoConfigs.upsert row
      (fun existing => { row with orgId := existing.orgId }) (fun _ => rfl)
    .ok ({ db with ssoConfigs := written }.setSsoAuthz orgId body.enabled body.exemptOwnerUserId)
  else .error .ssoConfigError

def checkExemptOwner (db : Db) (orgId : Uuid) : Option Uuid → Except OrgError Unit
  | none => .ok ()
  | some exempt =>
      match db.getMembership exempt orgId with
      | none => .error .exemptMustBeOwner
      | some membership =>
          if membership.role ≠ .owner then .error .exemptMustBeOwner
          else if db.hasVerifiedTotp exempt then .ok ()
          else .error .exemptOwnerNoTotp

def upsertOrgSsoConfig (db : Db) (orgId : Uuid) (body : SsoConfigBody) : Except OrgError Db :=
  match checkExemptOwner db orgId body.exemptOwnerUserId with
  | .error error => .error error
  | .ok _ => upsertConfig db orgId body

structure Accepted where
  orgId : Uuid
  email : String
  userId : Uuid
  jitCreated : Bool
  created : Option String

def matchUser (env : Env) (db : Db) (orgId : Uuid) (jitEnabled : Bool) (email : String) :
    Except OrgError (Uuid × Bool × Db) :=
  match db.findUserByEmail email with
  | some user => .ok (user.id, false, db)
  | none =>
      if !jitEnabled then .error .userNotProvisioned
      else
        match db.createUser with
        | .error error => .error error
        | .ok created =>
            match created.addEmail env db.nextId email true with
            | .error error => .error error
            | .ok named =>
                match named.createMembership db.nextId orgId .builder (handleOf email) with
                | .error error => .error error
                | .ok joined => .ok (db.nextId, true, joined)

def mintSatisfied (settings : Settings) (env : Env) (db : Db) (userId orgId : Uuid) :
    Except OrgError (Option String × Db) :=
  match mintSession settings env db userId with
  | .error error => .error error
  | .ok (created, minted) =>
      match minted.markSsoSatisfied settings env env.newRawToken orgId with
      | .error error => .error error
      | .ok marked => .ok (created, marked)

-- The session behind the cookie is marked whoever it belongs to; a cookie that
-- marks nothing is as good as none.
def satisfySession (settings : Settings) (env : Env) (db : Db) (request : Request) (userId orgId : Uuid) :
    Except OrgError (Option String × Db) :=
  match truthy request.yaaosSession with
  | none => mintSatisfied settings env db userId orgId
  | some rawToken =>
      match db.markSsoSatisfied settings env rawToken orgId with
      | .ok marked => .ok (none, marked)
      | .error _ => mintSatisfied settings env db userId orgId

def ssoAcs (settings : Settings) (env : Env) (db : Db) (slug samlResponse : String) (request : Request) :
    Except OrgError (Accepted × Db) :=
  match db.getOrgRowBySlug slug with
  | none => .error .orgNotFound
  | some org =>
      match db.ssoConfigs.find? org.id with
      | none => .error .ssoNotConfigured
      | some cfg =>
          if !cfg.enabled then .error .ssoNotConfigured
          else
            match (env.runAssertionVerifier samlResponse cfg.idpMetadataXml).bind fun payload => truthy payload.email with
            | none => .error .assertionInvalid
            | some asserted =>
                let email := asserted.toLower
                match matchUser env db org.id cfg.jitEnabled email with
                | .error error => .error error
                | .ok (userId, jitCreated, matched) =>
                    match matched.getMembership userId org.id with
                    | none => .error .noMembership
                    | some _ =>
                        match satisfySession settings env matched request userId org.id with
                        | .error error => .error error
                        | .ok (created, after) =>
                            .ok ({ orgId := org.id, email := email, userId := userId, jitCreated := jitCreated,
                                   created := created }, after)

end Yaaos.Orgs
