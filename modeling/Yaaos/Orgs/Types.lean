import Yaaos.Base.Json
import Yaaos.Base.Outcome
import Yaaos.Base.Table

set_option autoImplicit false

namespace Yaaos.Orgs

open Yaaos.Base

inductive Role where
  | owner
  | admin
  | builder
  deriving DecidableEq

def Role.order : Role → Nat
  | .builder => 0
  | .admin => 1
  | .owner => 2

def Role.covers (role required : Role) : Bool := decide (role.order ≥ required.order)

inductive Action where
  | identityReadSelf
  | orgRead
  | membersRead
  | auditRead
  | userUpdateSelf
  | membersInvite
  | membersRemove
  | membersChangeRole
  | ssoConfigure
  | githubAppLink
  | reviewTrigger
  | vcsRead
  | vcsWrite
  | codingAgentRead
  | codingAgentWrite
  | apiKeyRead
  | apiKeyWrite
  | orgSettingsWrite
  | orgSettingsRead
  | integrationsRead
  | integrationsWrite
  | ticketsRead
  | lessonsRead
  | lessonsWrite
  | reviewerRead
  | reviewerWrite
  | workspaceAgentShutdown
  | pipelinesManage
  | reposManage
  deriving DecidableEq

def requiredRoleFor : Action → Role
  | .identityReadSelf | .orgRead | .membersRead | .userUpdateSelf | .reviewTrigger => .builder
  | .auditRead | .membersInvite | .membersRemove | .membersChangeRole => .admin
  | .ssoConfigure | .githubAppLink => .owner
  | .vcsRead | .vcsWrite | .codingAgentRead | .codingAgentWrite | .apiKeyRead | .apiKeyWrite => .admin
  | .orgSettingsWrite | .orgSettingsRead | .integrationsRead | .integrationsWrite => .admin
  | .ticketsRead | .lessonsRead | .lessonsWrite | .reviewerRead | .reviewerWrite => .builder
  | .workspaceAgentShutdown | .pipelinesManage | .reposManage => .admin

structure UserRow where
  id : Uuid
  deactivatedAt : Option Int

structure UserEmailRow where
  id : Uuid
  userId : Uuid
  email : String
  verifiedAt : Option Int

structure OAuthIdentityRow where
  provider : String
  externalSubject : String
  userId : Uuid

def OAuthIdentityRow.key (row : OAuthIdentityRow) : String × String := (row.provider, row.externalSubject)

structure UserTotpSecretRow where
  userId : Uuid
  verifiedAt : Option Int

structure SessionRow where
  tokenHash : String
  userId : Option Uuid
  ssoSatisfiedForOrgId : Option Uuid
  ssoSatisfiedAt : Option Int
  lastSeenAt : Int
  expiresAt : Int

structure OrgRow where
  id : Uuid
  slug : String
  archivedAt : Option Int
  sessionTimeoutOverride : Option Int
  ssoEnabled : Bool
  ssoExemptOwnerUserId : Option Uuid

structure MembershipRow where
  userId : Uuid
  orgId : Uuid
  role : Role
  handle : String

def MembershipRow.key (row : MembershipRow) : Uuid × Uuid := (row.userId, row.orgId)

structure InvitationRow where
  id : Uuid
  orgId : Uuid
  email : String
  role : Role
  tokenHash : String
  expiresAt : Int
  acceptedAt : Option Int
  invitedByUserId : Option Uuid

structure SsoConfigRow where
  orgId : Uuid
  idpMetadataXml : String
  jitEnabled : Bool
  enabled : Bool
  exemptOwnerUserId : Option Uuid

structure Db where
  nextId : Uuid
  users : Table UserRow Uuid UserRow.id
  emails : Table UserEmailRow Uuid UserEmailRow.id
  identities : Table OAuthIdentityRow (String × String) OAuthIdentityRow.key
  totpSecrets : Table UserTotpSecretRow Uuid UserTotpSecretRow.userId
  sessions : Table SessionRow String SessionRow.tokenHash
  orgs : Table OrgRow Uuid OrgRow.id
  memberships : Table MembershipRow (Uuid × Uuid) MembershipRow.key
  invitations : Table InvitationRow Uuid InvitationRow.id
  ssoConfigs : Table SsoConfigRow Uuid SsoConfigRow.orgId

inductive OrgError where
  | unauthenticated
  | missingOrgSlug
  | orgNotFound
  | insufficientRole
  | sessionIdleExpired
  | ssoRequired
  | ssoNotConfigured
  | assertionInvalid
  | userNotProvisioned
  | noMembership
  | emailNotVerified
  | totpInvalid
  | sessionNotFound
  | membershipNotFound
  | invitationExpired
  | invitationUsed
  | invitationInvalid
  | exemptMustBeOwner
  | exemptOwnerNoTotp
  | ssoConfigError
  | invalidSlug
  | slugTaken
  | integrityError (constraint : String)
  deriving DecidableEq

structure InvitationToken where
  orgId : Uuid
  email : String
  timestamp : Int
  signed : Bool
  deriving DecidableEq

structure AssertionPayload where
  email : Option String

structure Settings where
  hashToken : String → String
  hashInvitation : InvitationToken → String
  sessionLifetimeSeconds : Int
  invitationLifetimeSeconds : Int

-- What one request reads from outside: the clock, the token it may mint and the
-- registered assertion verifiers, the first answer of which counts.
structure Env where
  now : Int
  newRawToken : String
  runAssertionVerifier : String → String → Option AssertionPayload

def truthy : Option String → Option String
  | some text => if text = "" then none else some text
  | none => none

end Yaaos.Orgs
