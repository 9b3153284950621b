import Yaaos.Orgs.Sessions

set_option autoImplicit false

namespace Yaaos.Orgs

open Yaaos.Base

def firstLetters (count : Nat) (text : String) : String := String.ofList (text.toList.take count)

def handleOf (email : String) : String := (firstLetters 64 ((email.splitOn "@").headD "")).toLower

def Db.createMembership (db : Db) (userId orgId : Uuid) (role : Role) (handle : String) : Except OrgError Db :=
  if db.memberships.rows.any fun other => decide (other.orgId = orgId) && decide (other.handle = handle) then
    .error (.integrityError "uq_membership_org_handle")
  else
    match db.memberships.insert? { userId := userId, orgId := orgId, role := role, handle := handle } with
    | some memberships => .ok { db with memberships := memberships }
    | none => .error (.integrityError "memberships_pkey")

def Db.updateRole (db : Db) (userId orgId : Uuid) (role : Role) : Db :=
  { db with
    memberships := db.memberships.update (fun row => decide (row.key = (userId, orgId)))
      (fun row => { row with role := role }) (fun _ => rfl) }

def Db.deleteMembership (db : Db) (userId orgId : Uuid) : Db :=
  { db with memberships := db.memberships.delete fun row => decide (row.key = (userId, orgId)) }

def Db.updateMemberHandle (db : Db) (userId orgId : Uuid) (handle : String) : Except OrgError Db :=
  match db.getMembership userId orgId with
  | none => .error .membershipNotFound
  | some _ =>
      if db.memberships.rows.any fun other =>
          decide (other.orgId = orgId) && decide (other.handle = handle) && decide (other.userId ≠ userId) then
        .error (.integrityError "uq_membership_org_handle")
      else
        .ok { db with
          memberships := db.memberships.update (fun row => decide (row.key = (userId, orgId)))
            (fun row => { row with handle := handle }) (fun _ => rfl) }

def alphanumeric (letter : Char) : Bool := letter.isLower || letter.isDigit

def validSlug (slug : String) : Bool :=
  let letters := slug.toList
  decide (letters.length ≤ 64) && letters.all (fun letter => alphanumeric letter || letter == '-') &&
    (letters.head?.map alphanumeric).getD false && (letters.getLast?.map alphanumeric).getD false

def createOrg (settings : Settings) (env : Env) (db : Db) (request : Request) (name slug : String) :
    Except OrgError Db :=
  match currentSessionUserId settings env db request with
  | none => .error .unauthenticated
  | some userId =>
      if !validSlug slug then .error .invalidSlug
      else
        match db.getOrgRowBySlug slug with
        | some _ => .error .slugTaken
        | none =>
            let row : OrgRow := {
              id := db.nextId
              slug := slug
              archivedAt := none
              sessionTimeoutOverride := none
              ssoEnabled := false
              ssoExemptOwnerUserId := none }
            if db.orgs.rows.any fun other => decide (other.slug = slug) then .error (.integrityError "orgs_slug_key")
            else
              match db.orgs.insert? row with
              | none => .error (.integrityError "orgs_pkey")
              | some orgs =>
                  { db with nextId := db.nextId + 1, orgs := orgs }.createMembership userId row.id .admin
                    (if firstLetters 64 name = "" then slug else firstLetters 64 name)

def invite (settings : Settings) (env : Env) (db : Db) (orgId : Uuid) (email : String) (role : Role)
    (invitedByUserId : Option Uuid) : Except OrgError (Db × InvitationToken) :=
  let token : InvitationToken := { orgId := orgId, email := email.toLower, timestamp := env.now, signed := true }
  let row : InvitationRow := {
    id := db.nextId
    orgId := orgId
    email := email.toLower
    role := role
    tokenHash := settings.hashInvitation token
    expiresAt := env.now + settings.invitationLifetimeSeconds
    acceptedAt := none
    invitedByUserId := invitedByUserId }
  if db.invitations.rows.any fun other => decide (other.tokenHash = row.tokenHash) then
    .error (.integrityError "invitations_token_hash_key")
  else if db.invitations.rows.any fun other => decide (other.orgId = orgId) &&
      decide (other.email.toLower = row.email.toLower) && other.acceptedAt.isNone then
    .error (.integrityError "uq_invitations_pending_org_email")
  else
    match db.invitations.insert? row with
    | some invitations => .ok ({ db with nextId := db.nextId + 1, invitations := invitations }, token)
    | none => .error (.integrityError "invitations_pkey")

def Db.getInvitationByTokenHash (db : Db) (tokenHash : String) : Option InvitationRow :=
  db.invitations.rows.find? fun row => decide (row.tokenHash = tokenHash)

def Db.setAccepted (env : Env) (db : Db) (invitationId : Uuid) : Db :=
  { db with
    invitations := db.invitations.update (fun row => decide (row.id = invitationId))
      (fun row => { row with acceptedAt := some env.now }) (fun _ => rfl) }

def loadInvitationToken (settings : Settings) (env : Env) (token : InvitationToken) : Except OrgError InvitationToken :=
  if !token.signed then .error .invitationInvalid
  else if env.now - token.timestamp > settings.invitationLifetimeSeconds ∨ env.now - token.timestamp < 0 then
    .error .invitationExpired
  else .ok token

def acceptInvitation (settings : Settings) (env : Env) (db : Db) (rawToken : InvitationToken) (userId : Uuid) :
    Except OrgError Db :=
  match loadInvitationToken settings env rawToken with
  | .error error => .error error
  | .ok payload =>
      match db.getInvitationByTokenHash (settings.hashInvitation rawToken) with
      | none => .error .invitationInvalid
      | some row =>
          if row.acceptedAt.isSome then .error .invitationUsed
          else if row.expiresAt < env.now then .error .invitationExpired
          else if row.orgId ≠ payload.orgId ∨ row.email.toLower ≠ payload.email.toLower then .error .invitationInvalid
          else
            match db.getMembership userId row.orgId with
            | some _ => .ok (db.setAccepted env row.id)
            | none =>
                match db.createMembership userId row.orgId row.role (handleOf row.email) with
                | .error error => .error error
                | .ok joined => .ok (joined.setAccepted env row.id)

def removeMember (db : Db) (orgId userId : Uuid) : Db :=
  match db.getMembership userId orgId with
  | none => db
  | some _ => (db.deleteMembership userId orgId).revokeAllSessionsForUser userId

def changeRole (db : Db) (orgId userId : Uuid) (newRole : Role) : Except OrgError Db :=
  match db.getMembership userId orgId with
  | none => .error .membershipNotFound
  | some _ => .ok ((db.updateRole userId orgId newRole).revokeAllSessionsForUser userId)

def Db.deleteExpiredInvitations (env : Env) (db : Db) : Db :=
  { db with
    invitations := db.invitations.delete fun row => decide (row.expiresAt < env.now) && row.acceptedAt.isNone }

end Yaaos.Orgs
