import Yaaos.Orgs.Effects

set_option autoImplicit false

namespace Yaaos.Orgs

open Yaaos.Base

def Tracked (db : Db) (row : SessionRow) : Prop :=
  row.ssoSatisfiedForOrgId = none ∨
    ∃ old ∈ db.sessions.rows, old.tokenHash = row.tokenHash ∧ old.userId = row.userId ∧
      old.ssoSatisfiedForOrgId = row.ssoSatisfiedForOrgId ∧ old.ssoSatisfiedAt = row.ssoSatisfiedAt

def Tracks (before after : Db) : Prop := ∀ row ∈ after.sessions.rows, Tracked before row

theorem tracks_same (before after : Db) (same : after.sessions = before.sessions) : Tracks before after := by
  intro row member
  rw [same] at member
  exact .inr ⟨row, member, rfl, rfl, rfl, rfl⟩

theorem tracks_trans (first middle last : Db) (left : Tracks first middle) (right : Tracks middle last) :
    Tracks first last := by
  intro row member
  rcases right row member with unmarked | ⟨old, held, token, user, org, at_⟩
  · exact .inl unmarked
  rcases left old held with unmarked | ⟨older, present, token', user', org', at'⟩
  · exact .inl (org ▸ unmarked)
  · exact .inr ⟨older, present, token'.trans token, user'.trans user, org'.trans org, at'.trans at_⟩

theorem tracks_touch (settings : Settings) (env : Env) (db : Db) (rawToken : String) :
    Tracks db (db.touchSession settings env rawToken) := by
  intro row member
  obtain ⟨old, held, same⟩ := List.mem_map.mp member
  refine .inr ⟨old, held, ?_⟩
  split at same <;> subst same <;> exact ⟨rfl, rfl, rfl, rfl⟩

theorem tracks_touchAfter (settings : Settings) (env : Env) (db : Db) (request : Request) :
    Tracks db (touchAfter settings env db request) := by
  unfold touchAfter
  split
  · exact tracks_same db db rfl
  · exact tracks_touch settings env db _

theorem tracks_delete (db : Db) (selected : SessionRow → Bool) :
    Tracks db { db with sessions := db.sessions.delete selected } := by
  intro row member
  exact .inr ⟨row, (List.mem_filter.mp member).1, rfl, rfl, rfl, rfl⟩

theorem tracks_revokePreAuth (settings : Settings) (db : Db) (request : Request) :
    Tracks db (revokePreAuthSession settings db request) := by
  unfold revokePreAuthSession
  split
  · exact tracks_delete db _
  · exact tracks_same db db rfl

theorem tracks_create (settings : Settings) (env : Env) (db after : Db) (userId : Uuid)
    (created : db.createSession settings env userId = .ok after) : Tracks db after := by
  obtain ⟨sessions, row, rfl, rows, _, _, unmarked, _⟩ := createSession_ok settings env db after userId created
  intro other member
  simp only [rows, List.mem_append, List.mem_singleton] at member
  rcases member with held | rfl
  · exact .inr ⟨other, held, rfl, rfl, rfl, rfl⟩
  · exact .inl unmarked

theorem findUserByEmail_some (db : Db) (email : String) (user : UserRow) (found : db.findUserByEmail email = some user) :
    user.id ∈ verifiedOwners db email := by
  obtain ⟨row, member, hit⟩ := List.exists_of_findSome?_eq_some found
  split at hit
  · rename_i named
    split at hit
    · rename_i other stored
      split at hit
      · cases hit
        have same := (Table.find?_some db.users row.userId user stored).2
        exact List.mem_map.mpr ⟨row, List.mem_filter.mpr ⟨member, by simp [named]⟩, same.symm⟩
      · cases hit
    · cases hit
  · cases hit

theorem verifiedOwners_grows (before after : Db) (email : String)
    (kept : ∀ row ∈ before.emails.rows, row ∈ after.emails.rows) (userId : Uuid)
    (named : userId ∈ verifiedOwners before email) : userId ∈ verifiedOwners after email := by
  obtain ⟨row, selected, same⟩ := List.mem_map.mp named
  obtain ⟨member, hit⟩ := List.mem_filter.mp selected
  exact List.mem_map.mpr ⟨row, List.mem_filter.mpr ⟨kept row member, hit⟩, same⟩

structure Matched (before : Db) (orgId : Uuid) (email : String) (userId : Uuid) (after : Db) : Prop where
  nextId : before.nextId ≤ after.nextId
  sessions : after.sessions = before.sessions
  invitations : after.invitations = before.invitations
  emails : ∀ row ∈ before.emails.rows, row ∈ after.emails.rows
  named : userId ∈ verifiedOwners after email
  memberships : after.memberships.rows = before.memberships.rows ∨
    ∃ handle, after.memberships.rows = before.memberships.rows ++ [⟨userId, orgId, .builder, handle⟩] ∧
      ∀ other ∈ before.memberships.rows, other.key ≠ (userId, orgId)

theorem matchUser_ok (env : Env) (db after : Db) (orgId userId : Uuid) (jitEnabled jitCreated : Bool) (email : String)
    (matched : matchUser env db orgId jitEnabled email = .ok (userId, jitCreated, after)) :
    Matched db orgId email userId after := by
  unfold matchUser at matched
  split at matched
  · rename_i user found
    cases matched
    exact ⟨le_rfl, rfl, rfl, fun row member => member, findUserByEmail_some db email user found, .inl rfl⟩
  · split at matched
    · cases matched
    split at matched
    · cases matched
    rename_i created userCreated
    split at matched
    · cases matched
    rename_i named emailAdded
    split at matched
    · cases matched
    rename_i joined membershipCreated
    cases matched
    obtain ⟨users, rfl⟩ := createUser_ok db created userCreated
    obtain ⟨emails, rfl, emailRows⟩ := addEmail_ok env _ named db.nextId email emailAdded
    obtain ⟨memberships, rfl, rows, fresh⟩ := createMembership_ok _ after db.nextId orgId .builder (handleOf email)
      membershipCreated
    refine ⟨?_, rfl, rfl, ?_, ?_, .inr ⟨handleOf email, rows, fresh⟩⟩
    · exact Nat.le_add_right db.nextId 2
    · intro row member
      simp only [emailRows, List.mem_append]
      exact .inl member
    · refine List.mem_map.mpr ⟨⟨db.nextId + 1, db.nextId, email, some env.now⟩, List.mem_filter.mpr ⟨?_, ?_⟩, rfl⟩
      · simp [emailRows]
      · simp

structure Stamp (settings : Settings) (env : Env) (orgId : Uuid) (rawToken : String) (row : SessionRow) : Prop where
  token : row.tokenHash = settings.hashToken rawToken
  org : row.ssoSatisfiedForOrgId = some orgId
  at_ : row.ssoSatisfiedAt = some env.now

theorem markSsoSatisfied_ok (settings : Settings) (env : Env) (db after : Db) (rawToken : String) (orgId : Uuid)
    (marked : db.markSsoSatisfied settings env rawToken orgId = .ok after) :
    ∃ sessions found, after = { db with sessions := sessions } ∧
      db.findSessionByHash env (settings.hashToken rawToken) = some found ∧
      ∀ row ∈ sessions.rows, row ∈ db.sessions.rows ∨
        (Stamp settings env orgId rawToken row ∧ row.userId = found.userId) := by
  unfold Db.markSsoSatisfied at marked
  split at marked
  · cases marked
  rename_i found live
  cases marked
  refine ⟨_, found, rfl, live, ?_⟩
  intro row member
  obtain ⟨old, held, same⟩ := List.mem_map.mp member
  split at same
  · rename_i hit
    simp only [Bool.and_eq_true, decide_eq_true_eq] at hit
    obtain ⟨present, token, _⟩ := findSessionByHash_some env db (settings.hashToken rawToken) found live
    have one : old = found := Table.eq_of_key db.sessions old found held present (hit.1.trans token.symm)
    subst same
    exact .inr ⟨⟨hit.1, rfl, rfl⟩, by rw [one]⟩
  · subst same
    exact .inl held

def Holds (settings : Settings) (env : Env) (db : Db) (request : Request) (userId : Uuid) (created : Option String)
    (row : SessionRow) : Prop :=
  match created with
  | some _ => row.userId = some userId
  | none => ∃ found, currentSession settings env db request = some found ∧ row.userId = found.userId

def markedToken (request : Request) (created : Option String) : String :=
  created.getD ((truthy request.yaaosSession).getD "")

def Marks (settings : Settings) (env : Env) (db : Db) (request : Request) (userId orgId : Uuid) (created : Option String)
    (row : SessionRow) : Prop :=
  Stamp settings env orgId (markedToken request created) row ∧ Holds settings env db request userId created row

theorem mintSatisfied_ok (settings : Settings) (env : Env) (db after : Db) (request : Request) (userId orgId : Uuid)
    (created : Option String) (minted : mintSatisfied settings env db userId orgId = .ok (created, after)) :
    (∃ sessions, after = { db with sessions := sessions }) ∧
      ∀ row ∈ after.sessions.rows, Tracked db row ∨ Marks settings env db request userId orgId created row := by
  unfold mintSatisfied at minted
  split at minted
  · cases minted
  rename_i token stored success
  split at minted
  · cases minted
  rename_i marked
  cases minted
  obtain ⟨rfl, create⟩ := mintSession_ok settings env db stored userId created success
  obtain ⟨sessions, fresh, rfl, rows, token, owner, _, _⟩ := createSession_ok settings env db stored userId create
  obtain ⟨after', found, rfl, live, stamped⟩ := markSsoSatisfied_ok settings env _ after env.newRawToken orgId marked
  refine ⟨⟨after', rfl⟩, ?_⟩
  intro row member
  rcases stamped row member with held | ⟨stamp, same⟩
  · exact .inl (tracks_create settings env db _ userId create row held)
  · -- The row behind the fresh token is the one just minted.
    obtain ⟨present, foundToken, _⟩ := findSessionByHash_some env _ _ found live
    have freshMember : fresh ∈ sessions.rows := by simp [rows]
    have one : found = fresh := Table.eq_of_key sessions found fresh present freshMember (foundToken.trans token.symm)
    refine .inr ⟨stamp, ?_⟩
    show row.userId = some userId
    rw [same, one, owner]

theorem satisfySession_ok (settings : Settings) (env : Env) (db after : Db) (request : Request) (userId orgId : Uuid)
    (created : Option String) (satisfied : satisfySession settings env db request userId orgId = .ok (created, after)) :
    (∃ sessions, after = { db with sessions := sessions }) ∧
      ∀ row ∈ after.sessions.rows, Tracked db row ∨ Marks settings env db request userId orgId created row := by
  unfold satisfySession at satisfied
  split at satisfied
  · exact mintSatisfied_ok settings env db after request userId orgId created satisfied
  rename_i rawToken cookie
  split at satisfied
  · rename_i marked success
    cases satisfied
    obtain ⟨sessions, found, rfl, live, stamped⟩ := markSsoSatisfied_ok settings env db after rawToken orgId success
    refine ⟨⟨sessions, rfl⟩, ?_⟩
    intro row member
    rcases stamped row member with held | ⟨stamp, same⟩
    · exact .inl (.inr ⟨row, held, rfl, rfl, rfl, rfl⟩)
    · refine .inr ⟨?_, found, ?_, same⟩
      · simpa [markedToken, cookie] using stamp
      · simpa [currentSession, cookie] using live
  · exact mintSatisfied_ok settings env db after request userId orgId created satisfied

def assertedEmail (env : Env) (db : Db) (slug samlResponse : String) : Option String := do
  let org ← db.getOrgRowBySlug slug
  let cfg ← db.ssoConfigs.find? org.id
  let payload ← if cfg.enabled then env.runAssertionVerifier samlResponse cfg.idpMetadataXml else none
  let asserted ← truthy payload.email
  some asserted.toLower

structure Consumed (settings : Settings) (env : Env) (db : Db) (slug samlResponse : String) (request : Request)
    (accepted : Accepted) (after : Db) : Prop where
  nextId : db.nextId ≤ after.nextId
  asserted : assertedEmail env db slug samlResponse = some accepted.email
  org : ∃ org, db.getOrgRowBySlug slug = some org ∧ accepted.orgId = org.id
  named : accepted.userId ∈ verifiedOwners after accepted.email
  emails : ∀ row ∈ db.emails.rows, row ∈ after.emails.rows
  sessions : ∀ row ∈ after.sessions.rows,
    Tracked db row ∨ Marks settings env db request accepted.userId accepted.orgId accepted.created row
  invitations : after.invitations = db.invitations
  memberships : after.memberships.rows = db.memberships.rows ∨
    ∃ handle, after.memberships.rows = db.memberships.rows ++ [⟨accepted.userId, accepted.orgId, .builder, handle⟩] ∧
      ∀ other ∈ db.memberships.rows, other.key ≠ (accepted.userId, accepted.orgId)

theorem ssoAcs_ok (settings : Settings) (env : Env) (db after : Db) (slug samlResponse : String) (request : Request)
    (accepted : Accepted) (success : ssoAcs settings env db slug samlResponse request = .ok (accepted, after)) :
    Consumed settings env db slug samlResponse request accepted after := by
  unfold ssoAcs at success
  split at success
  · cases success
  rename_i org found
  split at success
  · cases success
  rename_i cfg configured
  split at success
  · cases success
  rename_i enabled
  split at success
  · cases success
  rename_i asserted read
  simp only at success
  split at success
  · cases success
  rename_i userId jitCreated matched matchedOk
  split at success
  · cases success
  split at success
  · cases success
  rename_i created stored satisfied
  cases success
  have on : cfg.enabled = true := by simpa using enabled
  obtain ⟨payload, verified, email⟩ := Option.bind_eq_some_iff.mp read
  have whole := matchUser_ok env db matched org.id userId cfg.jitEnabled jitCreated asserted.toLower matchedOk
  obtain ⟨⟨sessions, rfl⟩, marks⟩ := satisfySession_ok settings env matched after request userId org.id created satisfied
  have sameSession : currentSession settings env matched request = currentSession settings env db request := by
    simp only [currentSession, Db.findSessionByHash, whole.sessions]
  refine { nextId := whole.nextId, asserted := ?_, org := ⟨org, found, rfl⟩, named := whole.named, emails := whole.emails,
           sessions := ?_, invitations := whole.invitations, memberships := whole.memberships }
  · simp [assertedEmail, found, configured, on, verified, email]
  · intro row member
    rcases marks row member with tracked | ⟨stamp, holds⟩
    · left
      unfold Tracked at tracked ⊢
      rw [whole.sessions] at tracked
      exact tracked
    · refine .inr ⟨stamp, ?_⟩
      unfold Holds at holds ⊢
      rw [sameSession] at holds
      exact holds

section Steps

variable (settings : Settings) (env : Env)

theorem tracks_gated (world : World) (request : Request) (action : Action)
    (handler : AuthOrg → Uuid → Db → Except OrgError World)
    (handled : ∀ auth userId touched, Ensures (handler auth userId touched) fun next =>
      next.accepted = world.accepted ∧ Tracks touched next.db) :
    Ensures (gated settings env world.db request action handler) fun next =>
      next.accepted = world.accepted ∧ Tracks world.db next.db := by
  apply gated_ensures
  intro auth userId _
  refine ensures_mono _ _ _ (handled auth userId (touchAfter settings env world.db request)) ?_
  intro next ⟨same, tracks⟩
  exact ⟨same, tracks_trans world.db _ next.db (tracks_touchAfter settings env world.db request) tracks⟩

theorem tracks_mint (db : Db) (before after : Db) (userId : Uuid) (created : Option String) (left : Tracks db before)
    (minted : mintSession settings env before userId = .ok (created, after)) : Tracks db after :=
  tracks_trans db before after left
    (tracks_create settings env before after userId (mintSession_ok settings env before after userId created minted).2)

theorem callback_tracks (db after : Db) (request : Request) (provider : String) (profile : ProviderProfile)
    (created : Option String) (done : callback settings env db request provider profile = .ok (created, after)) :
    Tracks db after := by
  unfold callback at done
  split at done
  · cases done
  split at done
  · cases done
  · cases done
    exact tracks_same db db rfl
  · rename_i user linked logged
    obtain ⟨identities, rfl⟩ := loginViaOauth_ok db linked provider profile (some user) logged
    split at done
    · cases done
      exact tracks_same db _ rfl
    · apply tracks_mint settings env db _ after user.id created ?_ done
      exact tracks_trans db _ _ (tracks_same db _ rfl) (tracks_revokePreAuth settings _ request)

theorem totpChallenge_tracks (db after : Db) (request : Request) (userId : Uuid) (codeMatches : Bool)
    (created : Option String) (done : totpChallenge settings env db request userId codeMatches = .ok (created, after)) :
    Tracks db after := by
  unfold totpChallenge at done
  split at done
  · cases done
  split at done
  · cases done
  · apply tracks_mint settings env db _ after userId created ?_ done
    exact tracks_trans db _ _ (tracks_same db _ rfl) (tracks_revokePreAuth settings _ request)

theorem act_sessions (world : World) (label : Label) :
    Ensures (act settings env world label) fun next =>
      (next.accepted = world.accepted ∧ Tracks world.db next.db) ∨
        ∃ slug samlResponse request accepted, label = .ssoAcs slug samlResponse request ∧
          Consumed settings env world.db slug samlResponse request accepted next.db ∧
          next.accepted = world.accepted ++ [acceptance settings env request accepted next.db] := by
  intro next done
  cases label with
  | callback request provider profile =>
      obtain ⟨⟨created, db⟩, ran, rest⟩ := bind_eq_ok _ _ next done
      cases rest
      exact .inl ⟨rfl, callback_tracks settings env world.db db request provider profile created ran⟩
  | totpChallenge request userId codeMatches =>
      obtain ⟨⟨created, db⟩, ran, rest⟩ := bind_eq_ok _ _ next done
      cases rest
      exact .inl ⟨rfl, totpChallenge_tracks settings env world.db db request userId codeMatches created ran⟩
  | logout request =>
      cases done
      exact .inl ⟨rfl, tracks_revokePreAuth settings world.db request⟩
  | logoutAll request =>
      cases done
      refine .inl ⟨rfl, ?_⟩
      show Tracks world.db (logoutAll settings env world.db request)
      unfold logoutAll
      split
      · exact tracks_delete world.db _
      · exact tracks_revokePreAuth settings world.db request
  | ssoAcs slug samlResponse request =>
      obtain ⟨⟨accepted, db⟩, ran, rest⟩ := bind_eq_ok _ _ next done
      cases rest
      exact .inr ⟨slug, samlResponse, request, accepted, rfl,
        ssoAcs_ok settings env world.db db slug samlResponse request accepted ran, rfl⟩
  | endpoint request action =>
      simp only [act] at done
      refine .inl (tracks_gated settings env world request action _ ?_ next done)
      intro auth userId touched
      exact ensures_ok _ _ ⟨rfl, tracks_same touched touched rfl⟩
  | putSsoConfig request body =>
      simp only [act] at done
      refine .inl (tracks_gated settings env world request .ssoConfigure _ ?_ next done)
      intro auth userId touched after ran
      obtain ⟨db, written, rest⟩ := bind_eq_ok _ _ after ran
      cases rest
      obtain ⟨ssoConfigs, orgs, rfl⟩ := upsertOrgSsoConfig_ok touched db auth.orgId body written
      exact ⟨rfl, tracks_same touched _ rfl⟩
  | inviteMember request email role =>
      simp only [act] at done
      refine .inl (tracks_gated settings env world request .membersInvite _ ?_ next done)
      intro auth userId touched after ran
      obtain ⟨⟨db, token⟩, written, rest⟩ := bind_eq_ok _ _ after ran
      cases rest
      obtain ⟨invitations, row, rfl, _⟩ := invite_ok settings env touched db auth.orgId email role _ token written
      exact ⟨rfl, tracks_same touched _ rfl⟩
  | acceptInvitation request rawToken =>
      simp only [act] at done
      split at done
      · cases done
      rename_i userId _
      obtain ⟨db, ran, rest⟩ := bind_eq_ok _ _ next done
      cases rest
      obtain ⟨row, _, _, rfl | ⟨joined, created, rfl⟩⟩ := acceptInvitation_ok settings env world.db db rawToken userId ran
      · exact .inl ⟨rfl, tracks_same world.db _ rfl⟩
      · obtain ⟨memberships, rfl, _⟩ := createMembership_ok _ _ _ _ _ _ created
        exact .inl ⟨rfl, tracks_same world.db _ rfl⟩
  | removeMember request targetUserId =>
      simp only [act] at done
      refine .inl (tracks_gated settings env world request .membersRemove _ ?_ next done)
      intro auth userId touched
      refine ensures_ok _ _ ⟨rfl, ?_⟩
      show Tracks touched (removeMember touched auth.orgId targetUserId)
      unfold removeMember
      split
      · exact tracks_same touched touched rfl
      · exact tracks_delete touched _
  | changeRole request targetUserId role =>
      simp only [act] at done
      refine .inl (tracks_gated settings env world request .membersChangeRole _ ?_ next done)
      intro auth userId touched after ran
      obtain ⟨db, written, rest⟩ := bind_eq_ok _ _ after ran
      cases rest
      rw [changeRole_ok touched db auth.orgId targetUserId role written]
      exact ⟨rfl, tracks_delete touched _⟩
  | patchOwnHandle request orgId handle =>
      simp only [act] at done
      refine .inl (tracks_gated settings env world request .userUpdateSelf _ ?_ next done)
      intro auth userId touched after ran
      obtain ⟨db, written, rest⟩ := bind_eq_ok _ _ after ran
      cases rest
      rw [updateMemberHandle_ok touched db userId orgId handle written]
      exact ⟨rfl, tracks_same touched _ rfl⟩
  | createOrg request name slug =>
      obtain ⟨db, ran, rest⟩ := bind_eq_ok _ _ next done
      cases rest
      obtain ⟨userId, orgs, handle, created⟩ := createOrg_ok settings env world.db db request name slug ran
      obtain ⟨memberships, rfl, _⟩ := createMembership_ok _ _ _ _ _ _ created
      exact .inl ⟨rfl, tracks_same world.db _ rfl⟩
  | identityPurge =>
      cases done
      exact .inl ⟨rfl, tracks_delete world.db _⟩
  | invitationSweep =>
      cases done
      exact .inl ⟨rfl, tracks_same world.db _ rfl⟩
  | elsewhere users emails identities totpSecrets orgs =>
      cases done
      exact .inl ⟨rfl, tracks_same world.db _ rfl⟩

theorem step_act (world next : World) (label : Label) (taken : step settings world (env, label) = .ok next) :
    ∃ middle, act settings env world label = .ok middle ∧ next = { middle with clock := env.now } := by
  obtain ⟨middle, ran, rest⟩ := bind_eq_ok _ _ next taken
  cases rest
  exact ⟨middle, ran, rfl⟩

end Steps

def Warranted (warrant : Acceptance → Uuid → Prop) (world : World) : Prop :=
  ∀ row ∈ world.db.sessions.rows, ∀ orgId at_, row.ssoSatisfiedForOrgId = some orgId → row.ssoSatisfiedAt = some at_ →
    ∃ entry ∈ world.accepted, entry.tokenHash = row.tokenHash ∧ entry.orgId = orgId ∧ entry.acceptedAt = at_ ∧
      at_ ≤ world.clock ∧ ∀ userId, row.userId = some userId → warrant entry userId

theorem warranted_step (settings : Settings) (env : Env) (warrant : Acceptance → Uuid → Prop) (world next : World)
    (label : Label) (later : world.clock ≤ env.now)
    (given : ∀ slug samlResponse request accepted after, label = .ssoAcs slug samlResponse request →
      Consumed settings env world.db slug samlResponse request accepted after →
      ∀ row, Holds settings env world.db request accepted.userId accepted.created row →
        ∀ userId, row.userId = some userId → warrant (acceptance settings env request accepted after) userId)
    (warranted : Warranted warrant world) (taken : step settings world (env, label) = .ok next) :
    Warranted warrant next := by
  obtain ⟨middle, ran, rfl⟩ := step_act settings env world next label taken
  intro row member orgId at_ org marked
  have old : ∀ source ∈ world.db.sessions.rows, source.tokenHash = row.tokenHash → source.userId = row.userId →
      source.ssoSatisfiedForOrgId = row.ssoSatisfiedForOrgId → source.ssoSatisfiedAt = row.ssoSatisfiedAt →
      ∃ entry ∈ world.accepted, entry.tokenHash = row.tokenHash ∧ entry.orgId = orgId ∧ entry.acceptedAt = at_ ∧
        at_ ≤ env.now ∧ ∀ userId, row.userId = some userId → warrant entry userId := by
    intro source held token user sourceOrg sourceAt
    obtain ⟨entry, accepted, entryToken, entryOrg, entryAt, before, owner⟩ :=
      warranted source held orgId at_ (sourceOrg.trans org) (sourceAt.trans marked)
    refine ⟨entry, accepted, entryToken.trans token, entryOrg, entryAt, before.trans later, ?_⟩
    intro userId same
    exact owner userId (user.trans same)
  rcases act_sessions settings env world label middle ran with ⟨same, tracks⟩ |
    ⟨slug, samlResponse, request, accepted, acs, consumed, grown⟩
  · rcases tracks row member with unmarked | ⟨source, held, token, user, sourceOrg, sourceAt⟩
    · rw [unmarked] at org
      cases org
    · obtain ⟨entry, present, rest⟩ := old source held token user sourceOrg sourceAt
      exact ⟨entry, same ▸ present, rest⟩
  · show ∃ entry ∈ middle.accepted, _
    rw [grown]
    rcases consumed.sessions row member with (unmarked | ⟨source, held, token, user, sourceOrg, sourceAt⟩) | ⟨stamp, holds⟩
    · rw [unmarked] at org
      cases org
    · obtain ⟨entry, present, rest⟩ := old source held token user sourceOrg sourceAt
      exact ⟨entry, List.mem_append_left _ present, rest⟩
    · refine ⟨_, List.mem_append_right _ (List.mem_singleton.mpr rfl), stamp.token.symm, ?_, ?_, ?_, ?_⟩
      · exact Option.some.inj (stamp.org.symm.trans org)
      · exact Option.some.inj (stamp.at_.symm.trans marked)
      · exact le_of_eq (Option.some.inj (marked.symm.trans stamp.at_))
      · exact given slug samlResponse request accepted middle.db acs consumed row holds

end Yaaos.Orgs
