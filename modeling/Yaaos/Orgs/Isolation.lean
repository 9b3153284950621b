import Yaaos.Orgs.Satisfaction

set_option autoImplicit false

namespace Yaaos.Orgs

open Yaaos.Base

variable (settings : Settings)

def bearing (rawToken : String) : Request := { yaaosSession := some rawToken, orgSlug := none, queryOrg := none }

-- Minted by the organisation's consumer service, and satisfied by no other
-- organisation's provider since.
structure MintedBy (settings : Settings) (world : World) (orgId : Uuid) (rawToken : String) : Prop where
  minted : ∃ entry ∈ world.accepted,
    entry.tokenHash = settings.hashToken rawToken ∧ entry.orgId = orgId ∧ entry.minted = true
  alone : ∀ entry ∈ world.accepted, entry.tokenHash = settings.hashToken rawToken → entry.orgId = orgId
  unlogged : settings.hashToken rawToken ∉ world.logins

def StaysWithin (settings : Settings) (env : Env) (db : Db) (orgId : Uuid) (rawToken : String) : Prop :=
  ∀ request action auth, request.yaaosSession = some rawToken → require settings env db request action = .ok auth →
    auth.orgId = orgId

def ShutOut (settings : Settings) (env : Env) (db : Db) (orgId : Uuid) (rawToken : String) : Prop :=
  ∀ row userId slug org membership, currentSession settings env db (bearing rawToken) = some row →
    row.userId = some userId → slug ≠ "" → db.getOrgRowBySlug slug = some org → org.id ≠ orgId →
    db.getMembership userId org.id = some membership →
    row.lastSeenAt + idleWindow org.sessionTimeoutOverride < env.now ∨
      (org.ssoEnabled = true ∧
        ¬ (org.ssoExemptOwnerUserId = some userId ∧ membership.role = .owner ∧ db.hasVerifiedTotp userId = true))

theorem currentSession_bearing (env : Env) (db : Db) (request : Request) (rawToken : String)
    (cookie : request.yaaosSession = some rawToken) :
    currentSession settings env db request = currentSession settings env db (bearing rawToken) := by
  simp [currentSession, bearing, cookie]

theorem machine_warranted : Inductive (machine settings) (Warranted fun _ _ => True) where
  initially := by
    intro world ⟨empty, _⟩ row member
    rw [empty] at member
    cases member
  kept := by
    intro world label next warranted later taken
    obtain ⟨env, label⟩ := label
    refine warranted_step settings env _ world next label later ?_ warranted taken
    intros
    trivial

theorem requestSlug_some (request : Request) (slug : String) (slugged : requestSlug request = some slug) : slug ≠ "" := by
  have full : ∀ text : Option String, truthy text = some slug → slug ≠ "" := by
    intro text read
    unfold truthy at read
    split at read
    · split at read
      · cases read
      · rename_i present
        cases read
        exact present
    · cases read
  unfold requestSlug at slugged
  split at slugged
  · rename_i given same
    cases slugged
    exact full request.orgSlug same
  · exact full request.queryOrg slugged

theorem shutOut_within (env : Env) (world : World) (orgId : Uuid) (rawToken : String)
    (warranted : Warranted (fun _ _ => True) world) (minted : MintedBy settings world orgId rawToken)
    (shut : ShutOut settings env world.db orgId rawToken) : StaysWithin settings env world.db orgId rawToken := by
  intro request action auth cookie passed
  by_contra elsewhere
  obtain ⟨userId, passes⟩ := (require_ok settings env world.db request action auth).mp passed
  obtain ⟨slug, slugged, resolved⟩ := passes.member
  obtain ⟨org, membership, found, held, rfl⟩ := resolveAuthOrg_some world.db userId slug auth resolved
  obtain ⟨row, current, owner⟩ := currentSessionUserId_some settings env world.db request userId passes.caller
  have behind := current
  rw [currentSession_bearing settings env world.db request rawToken cookie] at behind
  rcases shut row userId slug org membership behind owner (requestSlug_some request slug slugged) found elsewhere held with
    idle | ⟨enabled, notExempt⟩
  · have awake := passes.awake
    simp only [isIdle, current, decide_eq_false_iff_not] at awake
    exact awake idle
  · rcases passes.cleared enabled with satisfied | ⟨exempt, verified⟩
    · -- A mark for the other organisation would be an assertion of its own provider.
      have fresh : isSsoSatisfied env row org.id = true := by simpa [ssoOk, current] using satisfied
      obtain ⟨marked, at_, time, _⟩ := (isSsoSatisfied_iff env row org.id).mp fresh
      obtain ⟨other, otherCookie, member, token, _⟩ := currentSession_some settings env world.db (bearing rawToken) row behind
      have sameToken : other = rawToken := by
        unfold truthy bearing at otherCookie
        simp only at otherCookie
        split at otherCookie
        · cases otherCookie
        · exact (Option.some.inj otherCookie).symm
      obtain ⟨entry, accepted, entryToken, entryOrg, _⟩ := warranted row member org.id at_ marked time
      have own := minted.alone entry accepted (entryToken.trans (sameToken ▸ token))
      exact elsewhere (entryOrg.symm.trans own)
    · simp only [isExempt, Bool.and_eq_true, decide_eq_true_eq] at exempt
      exact notExempt ⟨exempt.1, exempt.2, verified⟩

theorem within_shutOut (env : Env) (db : Db) (orgId : Uuid) (rawToken : String)
    (within : StaysWithin settings env db orgId rawToken) : ShutOut settings env db orgId rawToken := by
  intro row userId slug org membership current owner full found other held
  by_contra open_
  rw [not_or] at open_
  obtain ⟨awake, ungated⟩ := open_
  let request : Request := { yaaosSession := some rawToken, orgSlug := some slug, queryOrg := none }
  let auth : AuthOrg :=
    ⟨org.id, org.slug, membership.role, org.ssoEnabled, org.ssoExemptOwnerUserId, org.sessionTimeoutOverride⟩
  have present : currentSession settings env db request = some row :=
    (currentSession_bearing settings env db request rawToken rfl).trans current
  have passed : require settings env db request .orgRead = .ok auth := by
    refine (require_ok settings env db request .orgRead auth).mpr ⟨userId, ?_, ⟨slug, ?_, ?_⟩, ?_, ?_, ?_⟩
    · simp only [currentSessionUserId, present]
      exact owner
    · simp [request, requestSlug, truthy, full]
    · simp [Db.resolveAuthOrg, found, held, auth]
    · cases role : auth.role <;> rfl
    · simp only [isIdle, present]
      exact decide_eq_false awake
    · intro enabled
      by_contra blocked
      rw [not_or] at blocked
      refine ungated ⟨enabled, ?_⟩
      rintro ⟨exempt, role, verified⟩
      exact blocked.2 ⟨by simp [isExempt, auth, exempt, role], verified⟩
  exact other (within request .orgRead auth rfl passed)

theorem idp_authority (world : World) (reachable : Reachable (machine settings) world)
    (orgId : Uuid) (rawToken : String) (minted : MintedBy settings world orgId rawToken) (env : Env) :
    StaysWithin settings env world.db orgId rawToken ↔ ShutOut settings env world.db orgId rawToken := by
  constructor
  · exact within_shutOut settings env world.db orgId rawToken
  · exact shutOut_within settings env world orgId rawToken
      (reachable_invariant _ _ (machine_warranted settings) world reachable) minted

def mintedFor (email : String) : World :=
  (machine sampleSettings).after sampleWorld
    [(sampleEnv 1 "t2", .ssoAcs "acme" email { yaaosSession := none, orgSlug := none, queryOrg := none })]

instance (settings : Settings) (world : World) (orgId : Uuid) (rawToken : String) :
    Decidable (MintedBy settings world orgId rawToken) :=
  decidable_of_iff
    ((∃ entry ∈ world.accepted, entry.tokenHash = settings.hashToken rawToken ∧ entry.orgId = orgId ∧ entry.minted = true) ∧
      (∀ entry ∈ world.accepted, entry.tokenHash = settings.hashToken rawToken → entry.orgId = orgId) ∧
      settings.hashToken rawToken ∉ world.logins)
    ⟨fun ⟨minted, alone, unlogged⟩ => ⟨minted, alone, unlogged⟩, fun ⟨minted, alone, unlogged⟩ => ⟨minted, alone, unlogged⟩⟩

theorem mintedFor_reachable_bob : Reachable (machine sampleSettings) (mintedFor "bob@acme.com") :=
  ⟨sampleWorld, _, sampleWorld_initial sampleSettings, commits_path _ _ _ (by decide +kernel)⟩

-- The other organisation that Bob is in asks for its own provider.
theorem bob_within : StaysWithin sampleSettings (sampleEnv 2 "") (mintedFor "bob@acme.com").db 1 "t2" := by
  refine (idp_authority sampleSettings (mintedFor "bob@acme.com") mintedFor_reachable_bob 1 "t2" (by decide +kernel)
    (sampleEnv 2 "")).mpr ?_
  intro row userId slug org membership current owner _ found other held
  have bob : (currentSession sampleSettings (sampleEnv 2 "") (mintedFor "bob@acme.com").db (bearing "t2")).bind
      SessionRow.userId = some 11 := by decide +kernel
  rw [current] at bob
  have same : userId = 11 := Option.some.inj (owner.symm.trans bob)
  have orgs : (mintedFor "bob@acme.com").db.orgs.rows.all fun org =>
      decide (org.id = 1) || ((mintedFor "bob@acme.com").db.getMembership 11 org.id).isNone ||
        (org.ssoEnabled && org.ssoExemptOwnerUserId.isNone) := by decide +kernel
  have one := List.all_eq_true.mp orgs org (List.mem_of_find?_eq_some found)
  rw [same] at held
  simp only [decide_eq_false other, held, Option.isNone_some, Bool.false_or, Bool.and_eq_true, Option.isNone_iff_eq_none] at one
  refine .inr ⟨one.1, fun exempt => ?_⟩
  rw [one.2] at exempt
  cases exempt.1

-- Ada's session, minted by the provider of one organisation, opens the other one.
theorem minted_session_crosses :
    Reachable (machine sampleSettings) (mintedFor "ada@acme.com") ∧
      MintedBy sampleSettings (mintedFor "ada@acme.com") 1 "t2" ∧
      require sampleSettings (sampleEnv 2 "") (mintedFor "ada@acme.com").db (withCookie "t2" "other") .orgRead =
        .ok ⟨2, "other", .builder, false, none, none⟩ ∧
      ¬ StaysWithin sampleSettings (sampleEnv 2 "") (mintedFor "ada@acme.com").db 1 "t2" := by
  have crosses : require sampleSettings (sampleEnv 2 "") (mintedFor "ada@acme.com").db (withCookie "t2" "other") .orgRead =
      .ok ⟨2, "other", .builder, false, none, none⟩ := by decide +kernel
  refine ⟨⟨sampleWorld, _, sampleWorld_initial sampleSettings, commits_path _ _ _ (by decide +kernel)⟩,
    by decide +kernel, crosses, ?_⟩
  intro within
  exact absurd (within (withCookie "t2" "other") .orgRead _ rfl crosses) (by decide)

end Yaaos.Orgs
