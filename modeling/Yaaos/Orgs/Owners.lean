import Yaaos.Orgs.Satisfaction

set_option autoImplicit false

namespace Yaaos.Orgs

open Yaaos.Base

def isOwner (db : Db) (userId orgId : Uuid) : Bool :=
  match db.getMembership userId orgId with
  | some membership => decide (membership.role = .owner)
  | none => false

def SameOwners (before after : Db) : Prop := ∀ userId orgId, isOwner after userId orgId = isOwner before userId orgId

theorem sameOwners_same (before after : Db) (same : after.memberships = before.memberships) : SameOwners before after := by
  intro userId orgId
  simp only [isOwner, Db.getMembership, same]

theorem isOwner_joined (before after : Db) (userId orgId : Uuid) (role : Role) (handle : String)
    (rows : after.memberships.rows = before.memberships.rows ++ [⟨userId, orgId, role, handle⟩])
    (fresh : ∀ other ∈ before.memberships.rows, other.key ≠ (userId, orgId)) (user org : Uuid) :
    isOwner after user org =
      (isOwner before user org || (decide ((user, org) = (userId, orgId)) && decide (role = .owner))) := by
  have absent : before.memberships.find? (userId, orgId) = none := (Table.find?_isNone _ _).mpr fresh
  simp only [isOwner, Db.getMembership]
  have found : after.memberships.find? (user, org) = (before.memberships.find? (user, org)).or
      (if (userId, orgId) = (user, org) then some ⟨userId, orgId, role, handle⟩ else none) := by
    rw [Table.find?, rows, List.find?_append, List.find?_singleton]
    congr 1
    by_cases same : (userId, orgId) = (user, org)
    · rw [if_pos same]
      exact if_pos (decide_eq_true same)
    · rw [if_neg same]
      exact if_neg (by simpa [MembershipRow.key] using same)
  rw [found]
  by_cases same : (user, org) = (userId, orgId)
  · rw [same, absent]
    simp
  · rw [if_neg (Ne.symm same), Option.or_none]
    simp [same]

theorem isOwner_changed (db after : Db) (userId orgId : Uuid) (change : MembershipRow → MembershipRow)
    (kept : ∀ row, (change row).key = row.key)
    (same : after.memberships = db.memberships.update (fun row => decide (row.key = (userId, orgId))) change kept)
    (user org : Uuid) :
    isOwner after user org = if (user, org) = (userId, orgId) then
        ((db.getMembership userId orgId).map fun row => decide ((change row).role = .owner)).getD false
      else isOwner db user org := by
  simp only [isOwner, Db.getMembership, same, Table.find?_change]
  by_cases here : (user, org) = (userId, orgId)
  · rw [if_pos here, if_pos here]
    cases db.memberships.find? (userId, orgId) <;> rfl
  · rw [if_neg here, if_neg here]

theorem isOwner_deleted (db : Db) (userId orgId user org : Uuid) :
    isOwner (db.deleteMembership userId orgId) user org =
      (isOwner db user org && !decide ((user, org) = (userId, orgId))) := by
  simp only [isOwner, Db.getMembership, Db.deleteMembership, Table.find?_delete]
  by_cases here : (user, org) = (userId, orgId)
  · simp [here]
  · simp [here]

def issuer (settings : Settings) (world : World) : Env × Label → Option AuthOrg
  | (env, .inviteMember request _ _) => (require settings env world.db request .membersInvite).toOption
  | (env, .removeMember request _) => (require settings env world.db request .membersRemove).toOption
  | (env, .changeRole request _ _) => (require settings env world.db request .membersChangeRole).toOption
  | _ => none

-- What a request would do to the owners of an organisation.
def touchesOwners (db : Db) (orgId : Uuid) : Label → Bool
  | .inviteMember _ _ role => decide (role = .owner)
  | .removeMember _ targetUserId => isOwner db targetUserId orgId
  | .changeRole _ targetUserId role => isOwner db targetUserId orgId != decide (role = .owner)
  | _ => false

def restrained (settings : Settings) (world : World) (label : Env × Label) : Bool :=
  match issuer settings world label with
  | some auth => decide (auth.role = .owner) || !touchesOwners world.db auth.orgId label.2
  | none => true

def Restrained (settings : Settings) (world : World) (label : Env × Label) : Prop := restrained settings world label = true

instance (settings : Settings) (world : World) (label : Env × Label) : Decidable (Restrained settings world label) :=
  inferInstanceAs (Decidable (restrained settings world label = true))

def OwnersOnly (settings : Settings) (world : World) (label : Env × Label) (next : World) : Prop :=
  ∀ userId orgId, isOwner next.db userId orgId ≠ isOwner world.db userId orgId →
    (∃ auth, issuer settings world label = some auth ∧ auth.orgId = orgId ∧ auth.role = .owner) ∨
      (isOwner next.db userId orgId = true ∧
        ∃ request rawToken, label.2 = .acceptInvitation request rawToken ∧
          ∃ invitation ∈ world.db.invitations.rows, invitation.tokenHash = settings.hashInvitation rawToken ∧
            invitation.orgId = orgId ∧
            (∃ issue ∈ world.issued, issue.invitationId = invitation.id ∧ issue.orgId = orgId) ∧
            ∀ issue ∈ world.issued, issue.invitationId = invitation.id → issue.issuerRole = .owner)

section Effects

variable (settings : Settings) (env : Env)

def Retains (before after : Db) : Prop :=
  ∀ row ∈ after.invitations.rows, ∃ old ∈ before.invitations.rows,
    old.id = row.id ∧ old.orgId = row.orgId ∧ old.role = row.role

theorem retains_same (before after : Db) (same : after.invitations = before.invitations) : Retains before after := by
  intro row member
  rw [same] at member
  exact ⟨row, member, rfl, rfl, rfl⟩

theorem retains_setAccepted (db : Db) (invitationId : Uuid) : Retains db (db.setAccepted env invitationId) := by
  intro row member
  obtain ⟨old, held, same⟩ := List.mem_map.mp member
  refine ⟨old, held, ?_⟩
  split at same <;> subst same <;> exact ⟨rfl, rfl, rfl⟩

structure Quiet (world next : World) : Prop where
  nextId : world.db.nextId ≤ next.db.nextId
  owners : SameOwners world.db next.db
  invitations : Retains world.db next.db
  issued : next.issued = world.issued

inductive Effect (world next : World) : Label → Prop where
  | quiet (label : Label) (quiet : Quiet world next) : Effect world next label
  | invites (request : Request) (email : String) (role : Role) (auth : AuthOrg) (userId : Uuid)
      (passed : require settings env world.db request .membersInvite = .ok auth)
      (nextId : next.db.nextId = world.db.nextId + 1) (owners : SameOwners world.db next.db)
      (invitations : ∀ row ∈ next.db.invitations.rows, row ∈ world.db.invitations.rows ∨
        (row.id = world.db.nextId ∧ row.orgId = auth.orgId ∧ row.role = role))
      (issued : next.issued = world.issued ++ [⟨world.db.nextId, auth.orgId, userId, auth.role⟩]) :
      Effect world next (.inviteMember request email role)
  | joins (request : Request) (rawToken : InvitationToken) (userId : Uuid) (invitation : InvitationRow)
      (member : invitation ∈ world.db.invitations.rows)
      (token : invitation.tokenHash = settings.hashInvitation rawToken)
      (nextId : world.db.nextId ≤ next.db.nextId)
      (owners : ∀ user org, isOwner next.db user org = (isOwner world.db user org ||
        (decide ((user, org) = (userId, invitation.orgId)) && decide (invitation.role = .owner))))
      (invitations : Retains world.db next.db) (issued : next.issued = world.issued) :
      Effect world next (.acceptInvitation request rawToken)
  | removes (request : Request) (targetUserId : Uuid) (auth : AuthOrg)
      (passed : require settings env world.db request .membersRemove = .ok auth)
      (nextId : world.db.nextId ≤ next.db.nextId)
      (owners : ∀ user org, isOwner next.db user org =
        (isOwner world.db user org && !decide ((user, org) = (targetUserId, auth.orgId))))
      (invitations : Retains world.db next.db) (issued : next.issued = world.issued) :
      Effect world next (.removeMember request targetUserId)
  | changes (request : Request) (targetUserId : Uuid) (role : Role) (auth : AuthOrg)
      (passed : require settings env world.db request .membersChangeRole = .ok auth)
      (nextId : world.db.nextId ≤ next.db.nextId)
      (owners : ∀ user org, isOwner next.db user org =
        if (user, org) = (targetUserId, auth.orgId) then decide (role = .owner) else isOwner world.db user org)
      (invitations : Retains world.db next.db) (issued : next.issued = world.issued) :
      Effect world next (.changeRole request targetUserId role)

theorem gated_ok {α : Type} (db : Db) (request : Request) (action : Action)
    (handler : AuthOrg → Uuid → Db → Except OrgError α) (last : α)
    (done : gated settings env db request action handler = .ok last) :
    ∃ auth userId sessions, require settings env db request action = .ok auth ∧
      handler auth userId { db with sessions := sessions } = .ok last := by
  unfold gated at done
  split at done
  · cases done
  rename_i auth passed
  split at done
  · cases done
  rename_i userId _
  obtain ⟨sessions, touched⟩ := touchAfter_sessions settings env db request
  exact ⟨auth, userId, sessions, passed, touched ▸ done⟩

theorem quiet_memberships (world next : World) (nextId : world.db.nextId ≤ next.db.nextId)
    (memberships : next.db.memberships = world.db.memberships) (invitations : next.db.invitations = world.db.invitations)
    (issued : next.issued = world.issued) : Quiet world next where
  nextId := nextId
  owners := sameOwners_same world.db next.db memberships
  invitations := retains_same world.db next.db invitations
  issued := issued

theorem revokePreAuth_other (db : Db) (request : Request) :
    (revokePreAuthSession settings db request).nextId = db.nextId ∧
      (revokePreAuthSession settings db request).memberships = db.memberships ∧
      (revokePreAuthSession settings db request).invitations = db.invitations := by
  obtain ⟨sessions, same⟩ := revokePreAuthSession_sessions settings db request
  rw [same]
  exact ⟨rfl, rfl, rfl⟩

theorem mintSession_other (db after : Db) (userId : Uuid) (created : Option String)
    (minted : mintSession settings env db userId = .ok (created, after)) :
    after.nextId = db.nextId ∧ after.memberships = db.memberships ∧ after.invitations = db.invitations := by
  obtain ⟨sessions, row, rfl, _⟩ :=
    createSession_ok settings env db after userId (mintSession_ok settings env db after userId created minted).2
  exact ⟨rfl, rfl, rfl⟩

theorem callback_other (db after : Db) (request : Request) (provider : String) (profile : ProviderProfile)
    (created : Option String) (done : callback settings env db request provider profile = .ok (created, after)) :
    after.nextId = db.nextId ∧ after.memberships = db.memberships ∧ after.invitations = db.invitations := by
  unfold callback at done
  split at done
  · cases done
  split at done
  · cases done
  · cases done
    exact ⟨rfl, rfl, rfl⟩
  · rename_i user linked logged
    obtain ⟨identities, rfl⟩ := loginViaOauth_ok db linked provider profile (some user) logged
    split at done
    · cases done
      exact ⟨rfl, rfl, rfl⟩
    · obtain ⟨nextId, memberships, invitations⟩ := mintSession_other settings env _ after user.id created done
      obtain ⟨nextId', memberships', invitations'⟩ := revokePreAuth_other settings { db with identities } request
      exact ⟨nextId.trans nextId', memberships.trans memberships', invitations.trans invitations'⟩

theorem totpChallenge_other (db after : Db) (request : Request) (userId : Uuid) (codeMatches : Bool)
    (created : Option String) (done : totpChallenge settings env db request userId codeMatches = .ok (created, after)) :
    after.nextId = db.nextId ∧ after.memberships = db.memberships ∧ after.invitations = db.invitations := by
  unfold totpChallenge at done
  split at done
  · cases done
  split at done
  · cases done
  · obtain ⟨nextId, memberships, invitations⟩ := mintSession_other settings env _ after userId created done
    obtain ⟨nextId', memberships', invitations'⟩ := revokePreAuth_other settings (db.verifyTotp env userId) request
    exact ⟨nextId.trans nextId', memberships.trans memberships', invitations.trans invitations'⟩

theorem logoutAll_other (db : Db) (request : Request) :
    (logoutAll settings env db request).nextId = db.nextId ∧
      (logoutAll settings env db request).memberships = db.memberships ∧
      (logoutAll settings env db request).invitations = db.invitations := by
  unfold logoutAll
  split
  · exact ⟨rfl, rfl, rfl⟩
  · exact revokePreAuth_other settings db request

theorem sameOwners_joined (before after : Db) (userId orgId : Uuid) (role : Role) (handle : String)
    (rows : after.memberships.rows = before.memberships.rows ++ [⟨userId, orgId, role, handle⟩])
    (fresh : ∀ other ∈ before.memberships.rows, other.key ≠ (userId, orgId)) (below : role ≠ .owner) :
    SameOwners before after := by
  intro user org
  rw [isOwner_joined before after userId orgId role handle rows fresh, decide_eq_false below]
  simp

theorem consumed_owners (db after : Db) (slug samlResponse : String) (request : Request) (accepted : Accepted)
    (consumed : Consumed settings env db slug samlResponse request accepted after) : SameOwners db after := by
  rcases consumed.memberships with same | ⟨handle, rows, fresh⟩
  · exact sameOwners_same db after (Table.ext_rows _ _ same)
  · exact sameOwners_joined db after accepted.userId accepted.orgId .builder handle rows fresh (by decide)

theorem removeMember_effect (db : Db) (orgId targetUserId : Uuid) :
    (removeMember db orgId targetUserId).nextId = db.nextId ∧
      (removeMember db orgId targetUserId).invitations = db.invitations ∧
      ∀ user org, isOwner (removeMember db orgId targetUserId) user org =
        (isOwner db user org && !decide ((user, org) = (targetUserId, orgId))) := by
  unfold removeMember
  split
  · rename_i absent
    refine ⟨rfl, rfl, ?_⟩
    intro user org
    by_cases here : (user, org) = (targetUserId, orgId)
    · cases here
      simp [isOwner, absent]
    · simp [here]
  · exact ⟨rfl, rfl, fun user org => isOwner_deleted db targetUserId orgId user org⟩

theorem changeRole_effect (db after : Db) (orgId targetUserId : Uuid) (role : Role)
    (changed : changeRole db orgId targetUserId role = .ok after) :
    after.nextId = db.nextId ∧ after.invitations = db.invitations ∧
      ∀ user org, isOwner after user org =
        if (user, org) = (targetUserId, orgId) then decide (role = .owner) else isOwner db user org := by
  have member : ∃ membership, db.getMembership targetUserId orgId = some membership := by
    unfold changeRole at changed
    split at changed
    · cases changed
    · rename_i membership held
      exact ⟨membership, held⟩
  obtain ⟨membership, held⟩ := member
  have same := changeRole_ok db after orgId targetUserId role changed
  subst same
  refine ⟨rfl, rfl, ?_⟩
  intro user org
  have moved := isOwner_changed db ((db.updateRole targetUserId orgId role).revokeAllSessionsForUser targetUserId)
    targetUserId orgId (fun row => { row with role := role }) (fun _ => rfl) rfl user org
  rw [moved, held]
  rfl

theorem updateMemberHandle_owners (db after : Db) (userId orgId : Uuid) (handle : String)
    (updated : db.updateMemberHandle userId orgId handle = .ok after) :
    after.nextId = db.nextId ∧ after.invitations = db.invitations ∧ SameOwners db after := by
  have same := updateMemberHandle_ok db after userId orgId handle updated
  subst same
  refine ⟨rfl, rfl, ?_⟩
  intro user org
  rw [isOwner_changed db _ userId orgId (fun row => { row with handle := handle }) (fun _ => rfl) rfl user org]
  by_cases here : (user, org) = (userId, orgId)
  · cases here
    rw [if_pos rfl]
    unfold isOwner
    cases db.getMembership userId orgId <;> rfl
  · rw [if_neg here]

theorem createOrg_other (db after : Db) (request : Request) (name slug : String)
    (created : createOrg settings env db request name slug = .ok after) :
    db.nextId ≤ after.nextId ∧ after.invitations = db.invitations ∧ SameOwners db after := by
  obtain ⟨userId, orgs, handle, joined⟩ := createOrg_ok settings env db after request name slug created
  obtain ⟨memberships, rfl, rows, fresh⟩ := createMembership_ok _ _ _ _ _ _ joined
  refine ⟨Nat.le_succ db.nextId, rfl, ?_⟩
  exact sameOwners_joined db _ userId db.nextId .admin handle rows fresh (by decide)

theorem acceptInvitation_effect (world next : World) (request : Request) (rawToken : InvitationToken) (userId : Uuid)
    (taken : acceptInvitation settings env world.db rawToken userId = .ok next.db) (issued : next.issued = world.issued) :
    Effect settings env world next (.acceptInvitation request rawToken) := by
  obtain ⟨row, member, token, marked | ⟨joined, created, marked⟩⟩ :=
    acceptInvitation_ok settings env world.db next.db rawToken userId taken
  · refine .quiet _ ⟨?_, ?_, ?_, issued⟩
    · rw [marked]
      exact le_rfl
    · exact sameOwners_same world.db next.db (by rw [marked]; rfl)
    · rw [marked]
      exact retains_setAccepted env world.db row.id
  · obtain ⟨memberships, rfl, rows, fresh⟩ := createMembership_ok _ _ _ _ _ _ created
    refine .joins request rawToken userId row member token ?_ ?_ ?_ issued
    · rw [marked]
      exact le_rfl
    · intro user org
      exact isOwner_joined world.db next.db userId row.orgId row.role (handleOf row.email) (by rw [marked]; exact rows)
        fresh user org
    · rw [marked]
      exact retains_setAccepted env { world.db with memberships } row.id

theorem act_effect (world next : World) (label : Label) (done : act settings env world label = .ok next) :
    Effect settings env world next label := by
  cases label with
  | callback request provider profile =>
      obtain ⟨⟨created, db⟩, ran, rest⟩ := bind_eq_ok _ _ next done
      cases rest
      obtain ⟨nextId, memberships, invitations⟩ := callback_other settings env world.db db request provider profile created ran
      exact .quiet _ (quiet_memberships world _ (le_of_eq nextId.symm) memberships invitations rfl)
  | totpChallenge request userId codeMatches =>
      obtain ⟨⟨created, db⟩, ran, rest⟩ := bind_eq_ok _ _ next done
      cases rest
      obtain ⟨nextId, memberships, invitations⟩ :=
        totpChallenge_other settings env world.db db request userId codeMatches created ran
      exact .quiet _ (quiet_memberships world _ (le_of_eq nextId.symm) memberships invitations rfl)
  | logout request =>
      cases done
      obtain ⟨nextId, memberships, invitations⟩ := revokePreAuth_other settings world.db request
      exact .quiet _ (quiet_memberships world _ (le_of_eq nextId.symm) memberships invitations rfl)
  | logoutAll request =>
      cases done
      obtain ⟨nextId, memberships, invitations⟩ := logoutAll_other settings env world.db request
      exact .quiet _ (quiet_memberships world _ (le_of_eq nextId.symm) memberships invitations rfl)
  | ssoAcs slug samlResponse request =>
      obtain ⟨⟨accepted, db⟩, ran, rest⟩ := bind_eq_ok _ _ next done
      cases rest
      have consumed := ssoAcs_ok settings env world.db db slug samlResponse request accepted ran
      exact .quiet _ ⟨consumed.nextId, consumed_owners settings env world.db db slug samlResponse request accepted consumed,
        retains_same world.db db consumed.invitations, rfl⟩
  | endpoint request action =>
      simp only [act] at done
      obtain ⟨auth, userId, sessions, _, rest⟩ := gated_ok settings env _ _ _ _ next done
      cases rest
      exact .quiet _ (quiet_memberships world _ le_rfl rfl rfl rfl)
  | putSsoConfig request body =>
      simp only [act] at done
      obtain ⟨auth, userId, sessions, _, handled⟩ := gated_ok settings env _ _ _ _ next done
      obtain ⟨db, written, rest⟩ := bind_eq_ok _ _ next handled
      cases rest
      obtain ⟨ssoConfigs, orgs, rfl⟩ := upsertOrgSsoConfig_ok _ db auth.orgId body written
      exact .quiet _ (quiet_memberships world _ le_rfl rfl rfl rfl)
  | inviteMember request email role =>
      simp only [act] at done
      obtain ⟨auth, userId, sessions, passed, handled⟩ := gated_ok settings env _ _ _ _ next done
      obtain ⟨⟨db, token⟩, written, rest⟩ := bind_eq_ok _ _ next handled
      cases rest
      obtain ⟨invitations, row, rfl, rows, id, org, named⟩ :=
        invite_ok settings env _ db auth.orgId email role (some userId) token written
      refine .invites request email role auth userId passed rfl (sameOwners_same world.db _ rfl) ?_ rfl
      intro other member
      simp only [rows, List.mem_append, List.mem_singleton] at member
      rcases member with held | rfl
      · exact .inl held
      · exact .inr ⟨id, org, named⟩
  | acceptInvitation request rawToken =>
      simp only [act] at done
      split at done
      · cases done
      rename_i userId _
      obtain ⟨db, ran, rest⟩ := bind_eq_ok _ _ next done
      cases rest
      exact acceptInvitation_effect settings env world _ request rawToken userId ran rfl
  | removeMember request targetUserId =>
      simp only [act] at done
      obtain ⟨auth, userId, sessions, passed, rest⟩ := gated_ok settings env _ _ _ _ next done
      cases rest
      obtain ⟨nextId, invitations, owners⟩ := removeMember_effect { world.db with sessions } auth.orgId targetUserId
      exact .removes request targetUserId auth passed (le_of_eq nextId.symm) owners
        (retains_same world.db _ invitations) rfl
  | changeRole request targetUserId role =>
      simp only [act] at done
      obtain ⟨auth, userId, sessions, passed, handled⟩ := gated_ok settings env _ _ _ _ next done
      obtain ⟨db, written, rest⟩ := bind_eq_ok _ _ next handled
      cases rest
      obtain ⟨nextId, invitations, owners⟩ := changeRole_effect _ db auth.orgId targetUserId role written
      exact .changes request targetUserId role auth passed (le_of_eq nextId.symm) owners
        (retains_same world.db db invitations) rfl
  | patchOwnHandle request orgId handle =>
      simp only [act] at done
      obtain ⟨auth, userId, sessions, _, handled⟩ := gated_ok settings env _ _ _ _ next done
      obtain ⟨db, written, rest⟩ := bind_eq_ok _ _ next handled
      cases rest
      obtain ⟨nextId, invitations, owners⟩ := updateMemberHandle_owners _ db userId orgId handle written
      exact .quiet _ ⟨le_of_eq nextId.symm, owners, retains_same world.db db invitations, rfl⟩
  | createOrg request name slug =>
      obtain ⟨db, ran, rest⟩ := bind_eq_ok _ _ next done
      cases rest
      obtain ⟨nextId, invitations, owners⟩ := createOrg_other settings env world.db db request name slug ran
      exact .quiet _ ⟨nextId, owners, retains_same world.db db invitations, rfl⟩
  | identityPurge =>
      cases done
      exact .quiet _ (quiet_memberships world _ le_rfl rfl rfl rfl)
  | invitationSweep =>
      cases done
      refine .quiet _ ⟨le_rfl, sameOwners_same world.db _ rfl, ?_, rfl⟩
      intro row member
      exact ⟨row, (List.mem_filter.mp member).1, rfl, rfl, rfl⟩
  | elsewhere users emails identities totpSecrets orgs =>
      cases done
      exact .quiet _ (quiet_memberships world _ le_rfl rfl rfl rfl)

end Effects

structure OwnersInvite (world : World) : Prop where
  past : ∀ issue ∈ world.issued, issue.invitationId < world.db.nextId
  known : ∀ row ∈ world.db.invitations.rows, ∃ issue ∈ world.issued,
    issue.invitationId = row.id ∧ issue.orgId = row.orgId
  owners : ∀ row ∈ world.db.invitations.rows, row.role = .owner →
    ∀ issue ∈ world.issued, issue.invitationId = row.id → issue.issuerRole = .owner

theorem ownersInvite_kept (world next : World) (holds : OwnersInvite world) (nextId : world.db.nextId ≤ next.db.nextId)
    (retains : Retains world.db next.db) (issued : next.issued = world.issued) : OwnersInvite next where
  past := by
    intro issue member
    exact lt_of_lt_of_le (holds.past issue (issued ▸ member)) nextId
  known := by
    intro row member
    obtain ⟨old, held, id, org, _⟩ := retains row member
    obtain ⟨issue, present, sameId, sameOrg⟩ := holds.known old held
    exact ⟨issue, issued ▸ present, sameId.trans id, sameOrg.trans org⟩
  owners := by
    intro row member role issue present same
    obtain ⟨old, held, id, _, oldRole⟩ := retains row member
    exact holds.owners old held (oldRole.trans role) issue (issued ▸ present) (same.trans id.symm)

theorem ownersInvite_issued (world next : World) (holds : OwnersInvite world) (auth : AuthOrg) (userId : Uuid) (role : Role)
    (nextId : next.db.nextId = world.db.nextId + 1)
    (invitations : ∀ row ∈ next.db.invitations.rows, row ∈ world.db.invitations.rows ∨
      (row.id = world.db.nextId ∧ row.orgId = auth.orgId ∧ row.role = role))
    (issued : next.issued = world.issued ++ [⟨world.db.nextId, auth.orgId, userId, auth.role⟩])
    (restrained : auth.role ≠ .owner → role ≠ .owner) : OwnersInvite next where
  past := by
    intro issue member
    rw [issued, List.mem_append, List.mem_singleton] at member
    rw [nextId]
    rcases member with old | rfl
    · exact Nat.lt_succ_of_lt (holds.past issue old)
    · exact Nat.lt_succ_self world.db.nextId
  known := by
    intro row member
    rw [issued]
    rcases invitations row member with old | ⟨id, org, _⟩
    · obtain ⟨issue, present, same⟩ := holds.known row old
      exact ⟨issue, List.mem_append_left _ present, same⟩
    · exact ⟨_, List.mem_append_right _ (List.mem_singleton.mpr rfl), id.symm, org.symm⟩
  owners := by
    intro row member owner issue present same
    rw [issued, List.mem_append, List.mem_singleton] at present
    rcases invitations row member with old | ⟨id, _, given⟩
    · rcases present with earlier | rfl
      · exact holds.owners row old owner issue earlier same
      · -- The fresh identifier is no earlier invitation's.
        obtain ⟨before, known, beforeId, _⟩ := holds.known row old
        have below := holds.past before known
        simp only at same
        rw [beforeId, ← same] at below
        exact absurd below (lt_irrefl _)
    · rcases present with earlier | rfl
      · have below := holds.past issue earlier
        rw [same, id] at below
        exact absurd below (lt_irrefl _)
      · by_contra builder
        exact restrained builder (given.symm.trans owner)

theorem effect_ownersInvite (settings : Settings) (env : Env) (world next : World) (label : Label)
    (holds : OwnersInvite world) (careful : Restrained settings world (env, label))
    (effect : Effect settings env world next label) : OwnersInvite next := by
  cases effect with
  | quiet _ quiet => exact ownersInvite_kept world next holds quiet.nextId quiet.invitations quiet.issued
  | invites request email role auth userId passed nextId owners invitations issued =>
      refine ownersInvite_issued world next holds auth userId role nextId invitations issued ?_
      intro builder
      simpa [Restrained, restrained, issuer, passed, Except.toOption, touchesOwners, builder] using careful
  | joins request rawToken userId invitation member token nextId owners invitations issued =>
      exact ownersInvite_kept world next holds nextId invitations issued
  | removes request targetUserId auth passed nextId owners invitations issued =>
      exact ownersInvite_kept world next holds nextId invitations issued
  | changes request targetUserId role auth passed nextId owners invitations issued =>
      exact ownersInvite_kept world next holds nextId invitations issued

theorem ownersInvite_inductive (settings : Settings) :
    Inductive ((machine settings).restrict (Restrained settings)) OwnersInvite where
  initially := by
    intro world ⟨_, invitations, _, _, issued⟩
    refine ⟨?_, ?_, ?_⟩
    · intro issue member
      rw [issued] at member
      cases member
    · intro row member
      rw [invitations] at member
      cases member
    · intro row member
      rw [invitations] at member
      cases member
  kept := by
    intro world label next holds ⟨_, careful⟩ taken
    obtain ⟨env, label⟩ := label
    obtain ⟨middle, ran, rfl⟩ := step_act settings env world next label taken
    have kept := effect_ownersInvite settings env world middle label holds careful (act_effect settings env world middle label ran)
    exact ⟨kept.past, kept.known, kept.owners⟩

theorem effect_ownersOnly (settings : Settings) (env : Env) (world next : World) (label : Label)
    (holds : OwnersInvite world) (careful : Restrained settings world (env, label))
    (effect : Effect settings env world next label) : OwnersOnly settings world (env, label) next := by
  intro userId orgId moved
  cases effect with
  | quiet _ quiet => exact absurd (quiet.owners userId orgId) moved
  | invites request email role auth caller passed nextId owners invitations issued =>
      exact absurd (owners userId orgId) moved
  | joins request rawToken joiner invitation member token nextId owners invitations issued =>
      have new := owners userId orgId
      by_cases here : (userId, orgId) = (joiner, invitation.orgId) ∧ invitation.role = .owner
      · obtain ⟨same, owner⟩ := here
        cases same
        refine .inr ⟨by simp [new, owner], request, rawToken, rfl, invitation, member, token, rfl, ?_, ?_⟩
        · exact holds.known invitation member
        · exact holds.owners invitation member owner
      · refine absurd ?_ moved
        rw [new]
        by_cases same : (userId, orgId) = (joiner, invitation.orgId)
        · have below : invitation.role ≠ .owner := fun owner => here ⟨same, owner⟩
          simp [below]
        · simp [same]
  | removes request targetUserId auth passed nextId owners invitations issued =>
      have new := owners userId orgId
      by_cases here : (userId, orgId) = (targetUserId, auth.orgId)
      · cases here
        refine .inl ⟨auth, by simp [issuer, passed, Except.toOption], rfl, ?_⟩
        by_contra builder
        have plain : isOwner world.db userId auth.orgId = false := by
          simpa [Restrained, restrained, issuer, passed, Except.toOption, touchesOwners, builder] using careful
        rw [new, plain] at moved
        exact moved rfl
      · refine absurd ?_ moved
        simp [new, here]
  | changes request targetUserId role auth passed nextId owners invitations issued =>
      have new := owners userId orgId
      by_cases here : (userId, orgId) = (targetUserId, auth.orgId)
      · cases here
        refine .inl ⟨auth, by simp [issuer, passed, Except.toOption], rfl, ?_⟩
        by_contra builder
        have plain : isOwner world.db userId auth.orgId = decide (role = .owner) := by
          simpa [Restrained, restrained, issuer, passed, Except.toOption, touchesOwners, builder] using careful
        rw [if_pos rfl] at new
        exact moved (new.trans plain.symm)
      · refine absurd ?_ moved
        rw [new, if_neg here]

theorem owners_change_owners (settings : Settings) (world : World)
    (reachable : Reachable ((machine settings).restrict (Restrained settings)) world) (label : Env × Label)
    (later : world.clock ≤ label.1.now) (careful : Restrained settings world label) (next : World)
    (taken : (machine settings).step world label = .ok next) : OwnersOnly settings world label next := by
  have holds := reachable_invariant _ _ (ownersInvite_inductive settings) world reachable
  obtain ⟨env, label⟩ := label
  obtain ⟨middle, ran, rfl⟩ := step_act settings env world next label taken
  exact effect_ownersOnly settings env world middle label holds careful (act_effect settings env world middle label ran)

def teamWorld : World where
  db := { sampleDb with
    users := { rows := [⟨12, none⟩, ⟨13, none⟩, ⟨14, none⟩], unique := by decide }
    identities := { rows := [⟨"github", "carol", 12⟩, ⟨"github", "dave", 13⟩], unique := by decide }
    memberships := {
      rows := [⟨12, 2, .owner, "carol"⟩, ⟨13, 2, .admin, "dave"⟩, ⟨14, 2, .builder, "erin"⟩]
      unique := by decide } }
  clock := 0
  accepted := []
  logins := []
  issued := []

theorem teamWorld_initial (settings : Settings) : (machine settings).initial teamWorld := ⟨rfl, rfl, rfl, rfl, rfl⟩

def signsIn (subject rawToken : String) : Env × Label :=
  (sampleEnv 0 rawToken, .callback { yaaosSession := none, orgSlug := none, queryOrg := none } "github"
    ⟨subject, subject, true, true⟩)

def signedIn (subject : String) : World := (machine sampleSettings).after teamWorld [signsIn subject "t1"]

def promotes (targetUserId : Uuid) : Env × Label := (sampleEnv 1 "", .changeRole (withCookie "t1" "other") targetUserId .owner)

theorem carol_promotes :
    OwnersOnly sampleSettings (signedIn "carol") (promotes 13)
        ((machine sampleSettings).committed (promotes 13) (signedIn "carol")) ∧
      isOwner ((machine sampleSettings).committed (promotes 13) (signedIn "carol")).db 13 2 = true :=
  ⟨owners_change_owners sampleSettings (signedIn "carol")
    ⟨teamWorld, _, teamWorld_initial sampleSettings, commits_restrict _ _ _ _ (by decide +kernel) (by decide +kernel)⟩
    (promotes 13) (by decide +kernel) (by decide +kernel) _ (step_committed _ _ _ (by decide +kernel)), by decide +kernel⟩

def daveRemoves : Env × Label := (sampleEnv 1 "", .removeMember (withCookie "t1" "other") 12)

theorem admin_takes_over :
    Reachable (machine sampleSettings) (signedIn "dave") ∧
      ((machine sampleSettings).step (signedIn "dave") (promotes 13)).isOk = true ∧
      ¬ OwnersOnly sampleSettings (signedIn "dave") (promotes 13)
        ((machine sampleSettings).committed (promotes 13) (signedIn "dave")) ∧
      ((machine sampleSettings).step (signedIn "dave") daveRemoves).isOk = true ∧
      ¬ OwnersOnly sampleSettings (signedIn "dave") daveRemoves
        ((machine sampleSettings).committed daveRemoves (signedIn "dave")) := by
  have admin : ((issuer sampleSettings (signedIn "dave") (promotes 13)).map AuthOrg.role,
      (issuer sampleSettings (signedIn "dave") daveRemoves).map AuthOrg.role) = (some .admin, some .admin) := by
    decide +kernel
  obtain ⟨promoting, removing⟩ := Prod.mk.inj admin
  refine ⟨⟨teamWorld, _, teamWorld_initial sampleSettings, commits_path _ _ _ (by decide +kernel)⟩,
    by decide +kernel, ?_, by decide +kernel, ?_⟩
  · intro only
    rcases only 13 2 (by decide +kernel) with ⟨auth, issued, _, owner⟩ | ⟨_, request, rawToken, other, _⟩
    · rw [issued] at promoting
      simp [owner] at promoting
    · cases other
  · intro only
    rcases only 12 2 (by decide +kernel) with ⟨auth, issued, _, owner⟩ | ⟨_, request, rawToken, other, _⟩
    · rw [issued] at removing
      simp [owner] at removing
    · cases other

end Yaaos.Orgs
