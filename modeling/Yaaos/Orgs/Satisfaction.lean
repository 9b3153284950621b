import Yaaos.Orgs.Marks

set_option autoImplicit false

namespace Yaaos.Orgs

open Yaaos.Base

variable (settings : Settings)

def NamesVerified (db : Db) : Option String → Option Uuid → Prop
  | some email, some userId => userId ∈ verifiedOwners db email
  | _, _ => True

def Matching (settings : Settings) (world : World) : Env × Label → Prop
  | (env, .ssoAcs slug samlResponse request) =>
      NamesVerified world.db (assertedEmail env world.db slug samlResponse)
        (currentSessionUserId settings env world.db request)
  | _ => True

instance (db : Db) (email : Option String) (userId : Option Uuid) : Decidable (NamesVerified db email userId) :=
  match email, userId with
  | some email, some userId => inferInstanceAs (Decidable (userId ∈ verifiedOwners db email))
  | some _, none => isTrue trivial
  | none, _ => isTrue trivial

instance (settings : Settings) (world : World) (label : Env × Label) : Decidable (Matching settings world label) :=
  match label with
  | (env, .ssoAcs slug samlResponse request) =>
      inferInstanceAs (Decidable (NamesVerified world.db (assertedEmail env world.db slug samlResponse)
        (currentSessionUserId settings env world.db request)))
  | (_, .callback ..) | (_, .totpChallenge ..) | (_, .logout ..) | (_, .logoutAll ..) | (_, .endpoint ..)
  | (_, .putSsoConfig ..) | (_, .inviteMember ..) | (_, .acceptInvitation ..) | (_, .removeMember ..)
  | (_, .changeRole ..) | (_, .patchOwnHandle ..) | (_, .createOrg ..) | (_, .identityPurge)
  | (_, .invitationSweep) | (_, .elsewhere ..) => isTrue trivial

instance (settings : Settings) (world : World) (label : Env × Label) : Decidable ((machine settings).allowed world label) :=
  inferInstanceAs (Decidable (world.clock ≤ label.1.now))

-- The user's own assertion for the organisation, posted for this very session or
-- minting it, within the last eight hours.
def Vouched (settings : Settings) (env : Env) (world : World) (request : Request) (auth : AuthOrg) (userId : Uuid) :
    Prop :=
  ∃ rawToken, truthy request.yaaosSession = some rawToken ∧
    ∃ entry ∈ world.accepted, entry.tokenHash = settings.hashToken rawToken ∧ entry.orgId = auth.orgId ∧
      userId ∈ entry.named ∧ entry.acceptedAt ≤ env.now ∧ env.now ≤ entry.acceptedAt + ssoTtl

def BreaksGlass (db : Db) (auth : AuthOrg) (userId : Uuid) : Prop :=
  auth.ssoExemptOwnerUserId = some userId ∧ auth.role = .owner ∧ db.hasVerifiedTotp userId = true

def OwnSatisfaction (settings : Settings) (env : Env) (world : World) (request : Request) (auth : AuthOrg) : Prop :=
  ∃ userId, currentSessionUserId settings env world.db request = some userId ∧
    (Vouched settings env world request auth userId ∨ BreaksGlass world.db auth userId)

theorem currentSessionUserId_some (env : Env) (db : Db) (request : Request) (userId : Uuid)
    (caller : currentSessionUserId settings env db request = some userId) :
    ∃ row, currentSession settings env db request = some row ∧ row.userId = some userId := by
  unfold currentSessionUserId at caller
  split at caller
  · cases caller
  · rename_i row current
    exact ⟨row, current, caller⟩

theorem matching_warranted :
    Inductive ((machine settings).restrict (Matching settings)) (Warranted fun entry userId => userId ∈ entry.named) where
  initially := by
    intro world ⟨empty, _⟩ row member
    rw [empty] at member
    cases member
  kept := by
    intro world label next warranted ⟨later, matching⟩ taken
    obtain ⟨env, label⟩ := label
    refine warranted_step settings env _ world next label later ?_ warranted taken
    intro slug samlResponse request accepted after acs consumed row holds userId owner
    subst acs
    cases created : accepted.created with
    | some rawToken =>
        -- A minted session belongs to the user the assertion matched.
        have minted : row.userId = some accepted.userId := by simpa [Holds, created] using holds
        rw [minted] at owner
        cases owner
        exact consumed.named
    | none =>
        have kept : ∃ found, currentSession settings env world.db request = some found ∧ row.userId = found.userId := by
          simpa [Holds, created] using holds
        obtain ⟨found, current, same⟩ := kept
        have caller : currentSessionUserId settings env world.db request = some userId := by
          simp only [currentSessionUserId, current]
          exact same.symm.trans owner
        have named : NamesVerified world.db (assertedEmail env world.db slug samlResponse)
            (currentSessionUserId settings env world.db request) := matching
        rw [consumed.asserted, caller] at named
        exact verifiedOwners_grows world.db after accepted.email consumed.emails userId named

theorem satisfied_vouched (env : Env) (world : World) (request : Request) (auth : AuthOrg)
    (userId : Uuid) (warranted : Warranted (fun entry userId => userId ∈ entry.named) world)
    (later : world.clock ≤ env.now) (caller : currentSessionUserId settings env world.db request = some userId)
    (satisfied : ssoOk settings env world.db request auth = true) : Vouched settings env world request auth userId := by
  obtain ⟨row, current, owner⟩ := currentSessionUserId_some settings env world.db request userId caller
  obtain ⟨rawToken, cookie, member, token, _⟩ := currentSession_some settings env world.db request row current
  have fresh : isSsoSatisfied env row auth.orgId = true := by simpa [ssoOk, current] using satisfied
  obtain ⟨org, at_, marked, within⟩ := (isSsoSatisfied_iff env row auth.orgId).mp fresh
  obtain ⟨entry, accepted, entryToken, entryOrg, entryAt, before, warrant⟩ :=
    warranted row member auth.orgId at_ org marked
  refine ⟨rawToken, cookie, entry, accepted, entryToken.trans token, entryOrg, warrant userId owner, ?_, ?_⟩
  · rw [entryAt]
    exact before.trans later
  · rw [entryAt]
    exact within

theorem sso_satisfaction_own (world : World)
    (reachable : Reachable ((machine settings).restrict (Matching settings)) world) (env : Env)
    (later : world.clock ≤ env.now) (request : Request) (action : Action) (auth : AuthOrg)
    (passed : require settings env world.db request action = .ok auth) (enabled : auth.ssoEnabled = true) :
    OwnSatisfaction settings env world request auth := by
  have warranted := reachable_invariant _ _ (matching_warranted settings) world reachable
  obtain ⟨userId, passes⟩ := (require_ok settings env world.db request action auth).mp passed
  refine ⟨userId, passes.caller, ?_⟩
  rcases passes.cleared enabled with satisfied | ⟨exempt, verified⟩
  · exact .inl (satisfied_vouched settings env world request auth userId warranted later passes.caller satisfied)
  · simp only [isExempt, Bool.and_eq_true, decide_eq_true_eq] at exempt
    exact .inr ⟨exempt.1, exempt.2, verified⟩

def sampleSettings : Settings where
  hashToken := id
  hashInvitation := fun token => token.email
  sessionLifetimeSeconds := 86400
  invitationLifetimeSeconds := 604800

def sampleEnv (now : Int) (newRawToken : String) : Env where
  now := now
  newRawToken := newRawToken
  runAssertionVerifier := fun samlResponse _ => some { email := some samlResponse }

def sampleDb : Db where
  nextId := 100
  users := { rows := [⟨10, none⟩, ⟨11, none⟩], unique := by decide }
  emails := { rows := [⟨20, 10, "ada@acme.com", some 0⟩, ⟨21, 11, "bob@acme.com", some 0⟩], unique := by decide }
  identities := { rows := [⟨"github", "ada", 10⟩, ⟨"github", "bob", 11⟩], unique := by decide }
  totpSecrets := Table.empty
  sessions := Table.empty
  orgs := {
    rows := [⟨1, "acme", none, none, true, none⟩, ⟨2, "other", none, none, false, none⟩, ⟨3, "strict", none, none, true, none⟩]
    unique := by decide }
  memberships := {
    rows := [⟨10, 1, .builder, "ada"⟩, ⟨11, 1, .builder, "bob"⟩, ⟨10, 2, .builder, "ada"⟩, ⟨11, 3, .builder, "bob"⟩]
    unique := by decide }
  invitations := Table.empty
  ssoConfigs := { rows := [⟨1, "<idp/>", false, true, none⟩], unique := by decide }

def sampleWorld : World := { db := sampleDb, clock := 0, accepted := [], logins := [], issued := [] }

theorem sampleWorld_initial : (machine settings).initial sampleWorld := ⟨rfl, rfl, rfl, rfl, rfl⟩

def withCookie (rawToken slug : String) : Request := { yaaosSession := some rawToken, orgSlug := some slug, queryOrg := none }

def adaSignsIn : Env × Label :=
  (sampleEnv 0 "t1", .callback { yaaosSession := none, orgSlug := none, queryOrg := none } "github"
    ⟨"ada", "ada@acme.com", true, true⟩)

def assertionPosted (email : String) : Env × Label :=
  (sampleEnv 1 "t2", .ssoAcs "acme" email (withCookie "t1" "acme"))

def ownAssertion : World := (machine sampleSettings).after sampleWorld [adaSignsIn, assertionPosted "ada@acme.com"]

theorem ownAssertion_reachable : Reachable ((machine sampleSettings).restrict (Matching sampleSettings)) ownAssertion :=
  ⟨sampleWorld, _, sampleWorld_initial sampleSettings, commits_restrict _ _ _ _ (by decide +kernel) (by decide +kernel)⟩

def acmeForBuilder : AuthOrg := ⟨1, "acme", .builder, true, none, none⟩

theorem ownAssertion_own :
    OwnSatisfaction sampleSettings (sampleEnv 2 "") ownAssertion (withCookie "t1" "acme") acmeForBuilder :=
  sso_satisfaction_own sampleSettings ownAssertion ownAssertion_reachable (sampleEnv 2 "") (by decide +kernel)
    (withCookie "t1" "acme") .orgRead acmeForBuilder (by decide +kernel) rfl

def strangeAssertion : World := (machine sampleSettings).after sampleWorld [adaSignsIn, assertionPosted "bob@acme.com"]

theorem strange_assertion_passes :
    Reachable (machine sampleSettings) strangeAssertion ∧
      require sampleSettings (sampleEnv 2 "") strangeAssertion.db (withCookie "t1" "acme") .orgRead =
        .ok acmeForBuilder ∧
      acmeForBuilder.ssoEnabled = true ∧
      ¬ OwnSatisfaction sampleSettings (sampleEnv 2 "") strangeAssertion (withCookie "t1" "acme") acmeForBuilder := by
  refine ⟨⟨sampleWorld, _, sampleWorld_initial sampleSettings, commits_path _ _ _ (by decide +kernel)⟩,
    by decide +kernel, rfl, ?_⟩
  rintro ⟨userId, caller, ⟨rawToken, cookie, entry, accepted, token, org, named, _⟩ | ⟨exempt, _⟩⟩
  · have ada : userId = 10 := by
      have same : currentSessionUserId sampleSettings (sampleEnv 2 "") strangeAssertion.db (withCookie "t1" "acme") =
        some 10 := by decide +kernel
      exact Option.some.inj (caller.symm.trans same)
    have only : strangeAssertion.accepted.all fun entry => decide (entry.named = [11]) := by decide +kernel
    have names : entry.named = [11] := by simpa using List.all_eq_true.mp only entry accepted
    rw [names, ada] at named
    exact absurd named (by decide)
  · cases exempt

end Yaaos.Orgs
