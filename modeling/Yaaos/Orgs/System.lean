import Yaaos.Base.Machine
import Yaaos.Orgs.SignOn

set_option autoImplicit false

namespace Yaaos.Orgs

open Yaaos.Base

structure Acceptance where
  orgId : Uuid
  email : String
  named : List Uuid
  tokenHash : String
  minted : Bool
  acceptedAt : Int

structure Issue where
  invitationId : Uuid
  orgId : Uuid
  issuerId : Uuid
  issuerRole : Role

structure World where
  db : Db
  clock : Int
  accepted : List Acceptance
  logins : List String
  issued : List Issue

inductive Label where
  | callback (request : Request) (provider : String) (profile : ProviderProfile)
  | totpChallenge (request : Request) (userId : Uuid) (codeMatches : Bool)
  | logout (request : Request)
  | logoutAll (request : Request)
  | ssoAcs (slug samlResponse : String) (request : Request)
  | endpoint (request : Request) (action : Action)
  | putSsoConfig (request : Request) (body : SsoConfigBody)
  | inviteMember (request : Request) (email : String) (role : Role)
  | acceptInvitation (request : Request) (rawToken : InvitationToken)
  | removeMember (request : Request) (targetUserId : Uuid)
  | changeRole (request : Request) (targetUserId : Uuid) (role : Role)
  | patchOwnHandle (request : Request) (orgId : Uuid) (handle : String)
  | createOrg (request : Request) (name slug : String)
  | identityPurge
  | invitationSweep
  | elsewhere (users : Table UserRow Uuid UserRow.id) (emails : Table UserEmailRow Uuid UserEmailRow.id)
      (identities : Table OAuthIdentityRow (String × String) OAuthIdentityRow.key)
      (totpSecrets : Table UserTotpSecretRow Uuid UserTotpSecretRow.userId) (orgs : Table OrgRow Uuid OrgRow.id)

def gated {α : Type} (settings : Settings) (env : Env) (db : Db) (request : Request) (action : Action)
    (handler : AuthOrg → Uuid → Db → Except OrgError α) : Except OrgError α :=
  match require settings env db request action with
  | .error error => .error error
  | .ok auth =>
      match currentSessionUserId settings env db request with
      | none => .error .unauthenticated
      | some userId => handler auth userId (touchAfter settings env db request)

def verifiedOwners (db : Db) (email : String) : List Uuid :=
  (db.emails.rows.filter fun row => decide (row.email.toLower = email.toLower) && row.verifiedAt.isSome).map
    UserEmailRow.userId

def acceptance (settings : Settings) (env : Env) (request : Request) (accepted : Accepted) (after : Db) : Acceptance where
  orgId := accepted.orgId
  email := accepted.email
  named := verifiedOwners after accepted.email
  tokenHash := settings.hashToken (accepted.created.getD ((truthy request.yaaosSession).getD ""))
  minted := accepted.created.isSome
  acceptedAt := env.now

-- The writes on the session, membership, invitation and SSO tables. An endpoint
-- whose handler raises after the gate has only touched the session, as `endpoint`
-- does; `elsewhere` stands for every write on the other tables.
def act (settings : Settings) (env : Env) (world : World) : Label → Except OrgError World
  | .callback request provider profile => do
      let (created, db) ← callback settings env world.db request provider profile
      .ok { world with db := db, logins := world.logins ++ (created.map settings.hashToken).toList }
  | .totpChallenge request userId codeMatches => do
      let (created, db) ← totpChallenge settings env world.db request userId codeMatches
      .ok { world with db := db, logins := world.logins ++ (created.map settings.hashToken).toList }
  | .logout request => .ok { world with db := logout settings world.db request }
  | .logoutAll request => .ok { world with db := logoutAll settings env world.db request }
  | .ssoAcs slug samlResponse request => do
      let (accepted, db) ← ssoAcs settings env world.db slug samlResponse request
      .ok { world with db := db, accepted := world.accepted ++ [acceptance settings env request accepted db] }
  | .endpoint request action =>
      gated settings env world.db request action fun _ _ touched => .ok { world with db := touched }
  | .putSsoConfig request body =>
      gated settings env world.db request .ssoConfigure fun auth _ touched => do
        let db ← upsertOrgSsoConfig touched auth.orgId body
        .ok { world with db := db }
  | .inviteMember request email role =>
      gated settings env world.db request .membersInvite fun auth userId touched => do
        let (db, _) ← invite settings env touched auth.orgId email role (some userId)
        .ok { world with
          db := db
          issued := world.issued ++ [⟨touched.nextId, auth.orgId, userId, auth.role⟩] }
  | .acceptInvitation request rawToken =>
      match currentSessionUserId settings env world.db request with
      | none => .error .unauthenticated
      | some userId => do
          let db ← acceptInvitation settings env world.db rawToken userId
          .ok { world with db := db }
  | .removeMember request targetUserId =>
      gated settings env world.db request .membersRemove fun auth _ touched =>
        .ok { world with db := removeMember touched auth.orgId targetUserId }
  | .changeRole request targetUserId role =>
      gated settings env world.db request .membersChangeRole fun auth _ touched => do
        let db ← changeRole touched auth.orgId targetUserId role
        .ok { world with db := db }
  | .patchOwnHandle request orgId handle =>
      gated settings env world.db request .userUpdateSelf fun _ userId touched => do
        let db ← touched.updateMemberHandle userId orgId handle
        .ok { world with db := db }
  | .createOrg request name slug => do
      let db ← createOrg settings env world.db request name slug
      .ok { world with db := db }
  | .identityPurge => .ok { world with db := world.db.cleanupExpired env }
  | .invitationSweep => .ok { world with db := world.db.deleteExpiredInvitations env }
  | .elsewhere users emails identities totpSecrets orgs =>
      .ok { world with
        db := { world.db with
          users := users, emails := emails, identities := identities, totpSecrets := totpSecrets, orgs := orgs } }

def step (settings : Settings) (world : World) (label : Env × Label) : Except OrgError World := do
  let next ← act settings label.1 world label.2
  .ok { next with clock := label.1.now }

def machine (settings : Settings) : Machine World (Env × Label) OrgError where
  initial := fun world =>
    world.db.sessions.rows = [] ∧ world.db.invitations.rows = [] ∧ world.accepted = [] ∧ world.logins = [] ∧
      world.issued = []
  allowed := fun world label => world.clock ≤ label.1.now
  step := step settings

end Yaaos.Orgs
