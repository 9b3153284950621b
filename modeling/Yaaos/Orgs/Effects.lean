import Yaaos.Orgs.System

set_option autoImplicit false

namespace Yaaos.Orgs

open Yaaos.Base

variable (settings : Settings) (env : Env) (db after : Db)

theorem createSession_ok (userId : Uuid)
    (created : db.createSession settings env userId = .ok after) :
    ∃ sessions row, after = { db with sessions := sessions } ∧ sessions.rows = db.sessions.rows ++ [row] ∧
      row.tokenHash = settings.hashToken env.newRawToken ∧ row.userId = some userId ∧ row.ssoSatisfiedForOrgId = none ∧
      ∀ other ∈ db.sessions.rows, other.tokenHash ≠ row.tokenHash := by
  unfold Db.createSession at created
  split at created
  · rename_i sessions inserted
    cases created
    obtain ⟨rows, fresh⟩ := Table.insert?_some db.sessions sessions _ inserted
    exact ⟨sessions, _, rfl, rows, rfl, rfl, rfl, fresh⟩
  · cases created

theorem mintSession_ok (userId : Uuid) (created : Option String)
    (minted : mintSession settings env db userId = .ok (created, after)) :
    created = some env.newRawToken ∧ db.createSession settings env userId = .ok after := by
  unfold mintSession at minted
  split at minted
  · cases minted
  · rename_i stored success
    cases minted
    exact ⟨rfl, success⟩

theorem createMembership_ok (userId orgId : Uuid) (role : Role) (handle : String)
    (created : db.createMembership userId orgId role handle = .ok after) :
    ∃ memberships, after = { db with memberships := memberships } ∧
      memberships.rows = db.memberships.rows ++ [⟨userId, orgId, role, handle⟩] ∧
      ∀ other ∈ db.memberships.rows, other.key ≠ (userId, orgId) := by
  unfold Db.createMembership at created
  split at created
  · cases created
  · split at created
    · rename_i memberships inserted
      cases created
      obtain ⟨rows, fresh⟩ := Table.insert?_some db.memberships memberships _ inserted
      exact ⟨memberships, rfl, rows, fresh⟩
    · cases created

theorem createUser_ok (created : db.createUser = .ok after) :
    ∃ users, after = { db with nextId := db.nextId + 1, users := users } := by
  unfold Db.createUser at created
  split at created
  · rename_i users _
    cases created
    exact ⟨users, rfl⟩
  · cases created

theorem addEmail_ok (userId : Uuid) (email : String)
    (added : db.addEmail env userId email true = .ok after) :
    ∃ emails, after = { db with nextId := db.nextId + 1, emails := emails } ∧
      emails.rows = db.emails.rows ++ [⟨db.nextId, userId, email, some env.now⟩] := by
  unfold Db.addEmail at added
  split at added
  · cases added
  · split at added
    · rename_i emails inserted
      cases added
      exact ⟨emails, rfl, (Table.insert?_some db.emails emails _ inserted).1⟩
    · cases added

theorem loginViaOauth_ok (providerId : String) (profile : ProviderProfile) (user : Option UserRow)
    (logged : loginViaOauth db providerId profile = .ok (user, after)) :
    ∃ identities, after = { db with identities := identities } := by
  unfold loginViaOauth at logged
  split at logged
  · split at logged
    · cases logged
      exact ⟨db.identities, rfl⟩
    · cases logged
  · split at logged
    · split at logged
      · cases logged
      · rename_i linked added
        cases logged
        unfold Db.addOAuthIdentity at added
        split at added
        · rename_i identities _
          cases added
          exact ⟨identities, rfl⟩
        · cases added
    · cases logged
      exact ⟨db.identities, rfl⟩

theorem invite_ok (orgId : Uuid) (email : String) (role : Role)
    (invitedByUserId : Option Uuid) (token : InvitationToken)
    (invited : invite settings env db orgId email role invitedByUserId = .ok (after, token)) :
    ∃ invitations row, after = { db with nextId := db.nextId + 1, invitations := invitations } ∧
      invitations.rows = db.invitations.rows ++ [row] ∧ row.id = db.nextId ∧ row.orgId = orgId ∧ row.role = role := by
  unfold invite at invited
  simp only at invited
  split at invited
  · cases invited
  · split at invited
    · cases invited
    · split at invited
      · rename_i invitations inserted
        cases invited
        exact ⟨invitations, _, rfl, (Table.insert?_some db.invitations invitations _ inserted).1, rfl, rfl, rfl⟩
      · cases invited

theorem acceptInvitation_ok (rawToken : InvitationToken) (userId : Uuid)
    (taken : acceptInvitation settings env db rawToken userId = .ok after) :
    ∃ row ∈ db.invitations.rows, row.tokenHash = settings.hashInvitation rawToken ∧
      (after = db.setAccepted env row.id ∨
        ∃ joined, db.createMembership userId row.orgId row.role (handleOf row.email) = .ok joined ∧
          after = joined.setAccepted env row.id) := by
  unfold acceptInvitation at taken
  split at taken
  · cases taken
  split at taken
  · cases taken
  rename_i row found
  have member : row ∈ db.invitations.rows := List.mem_of_find?_eq_some found
  have matched : row.tokenHash = settings.hashInvitation rawToken := by simpa using List.find?_some found
  refine ⟨row, member, matched, ?_⟩
  split at taken
  · cases taken
  split at taken
  · cases taken
  split at taken
  · cases taken
  split at taken
  · cases taken
    exact .inl rfl
  · split at taken
    · cases taken
    · rename_i joined created
      cases taken
      exact .inr ⟨joined, created, rfl⟩

theorem changeRole_ok (orgId userId : Uuid) (newRole : Role)
    (changed : changeRole db orgId userId newRole = .ok after) :
    after = (db.updateRole userId orgId newRole).revokeAllSessionsForUser userId := by
  unfold changeRole at changed
  split at changed
  · cases changed
  · cases changed
    rfl

theorem updateMemberHandle_ok (userId orgId : Uuid) (handle : String)
    (updated : db.updateMemberHandle userId orgId handle = .ok after) :
    after = { db with
      memberships := db.memberships.update (fun row => decide (row.key = (userId, orgId)))
        (fun row => { row with handle := handle }) (fun _ => rfl) } := by
  unfold Db.updateMemberHandle at updated
  split at updated
  · cases updated
  · split at updated
    · cases updated
    · cases updated
      rfl

theorem createOrg_ok (request : Request) (name slug : String)
    (created : createOrg settings env db request name slug = .ok after) :
    ∃ userId orgs handle,
      { db with nextId := db.nextId + 1, orgs := orgs }.createMembership userId db.nextId .admin handle = .ok after := by
  unfold createOrg at created
  split at created
  · cases created
  split at created
  · cases created
  split at created
  · cases created
  simp only at created
  split at created
  · cases created
  split at created
  · cases created
  · exact ⟨_, _, _, created⟩

theorem upsertOrgSsoConfig_ok (orgId : Uuid) (body : SsoConfigBody)
    (written : upsertOrgSsoConfig db orgId body = .ok after) :
    ∃ ssoConfigs orgs, after = { db with ssoConfigs := ssoConfigs, orgs := orgs } := by
  unfold upsertOrgSsoConfig at written
  split at written
  · cases written
  · unfold upsertConfig at written
    split at written
    · cases written
      exact ⟨_, _, rfl⟩
    · cases written

theorem touchAfter_sessions (db : Db) (request : Request) :
    ∃ sessions, touchAfter settings env db request = { db with sessions := sessions } := by
  unfold touchAfter
  split
  · exact ⟨db.sessions, rfl⟩
  · exact ⟨_, rfl⟩

theorem revokePreAuthSession_sessions (db : Db) (request : Request) :
    ∃ sessions, revokePreAuthSession settings db request = { db with sessions := sessions } := by
  unfold revokePreAuthSession
  split
  · exact ⟨_, rfl⟩
  · exact ⟨db.sessions, rfl⟩

section Gate

variable {α : Type}

theorem gated_ensures (db : Db) (request : Request) (action : Action)
    (handler : AuthOrg → Uuid → Db → Except OrgError α) (post : α → Prop)
    (handled : ∀ auth userId, Passes settings env db request action auth userId →
      Ensures (handler auth userId (touchAfter settings env db request)) post) :
    Ensures (gated settings env db request action handler) post := by
  unfold gated
  cases passed : require settings env db request action with
  | error error => exact ensures_error error post
  | ok auth =>
      obtain ⟨userId, passes⟩ := (require_ok settings env db request action auth).mp passed
      simp only [passes.caller]
      exact handled auth userId passes

end Gate

end Yaaos.Orgs
