import Yaaos.Base.Machine
import Yaaos.Orgs.SignOn

set_option autoImplicit false

namespace Yaaos.Orgs.StepUp

open Yaaos.Base

structure TotpSecret where
  userId : Uuid
  encryptedSecret : String
  verifiedAt : Option Int
  lastUsedAt : Option Int
  createdAt : Int

abbrev TotpSecrets := Table TotpSecret Uuid TotpSecret.userId

-- `totp.verify(code, valid_window=1)`: the time step that the code is of.
structure Totp where
  decrypt : String → Option String
  matchedStep : String → String → Int → Option Int

def upsertTotpSecret (now : Int) (secrets : TotpSecrets) (userId : Uuid) (encryptedSecret : String) : TotpSecrets :=
  secrets.upsert
    { userId := userId, encryptedSecret := encryptedSecret, verifiedAt := none, lastUsedAt := none, createdAt := now }
    (fun existing => { existing with encryptedSecret := encryptedSecret, verifiedAt := none, lastUsedAt := none })
    fun _ => rfl

structure Proof where
  userId : Uuid
  secret : String
  step : Int
  deriving DecidableEq

def proofOf (totp : Totp) (now : Int) (secrets : TotpSecrets) (userId : Uuid) (code : String) : Option Proof :=
  match secrets.find? userId with
  | none => none
  | some row =>
      match totp.decrypt row.encryptedSecret with
      | none => none
      | some seed =>
          match totp.matchedStep seed code now with
          | none => none
          | some step => some { userId := userId, secret := row.encryptedSecret, step := step }

def stampUsed (now : Int) (secrets : TotpSecrets) (userId : Uuid) : TotpSecrets :=
  secrets.update (fun row => decide (row.userId = userId))
    (fun row => { row with verifiedAt := row.verifiedAt.or (some now), lastUsedAt := some now }) fun _ => rfl

def verifiedSecret (secrets : TotpSecrets) (userId : Uuid) : Option String :=
  match secrets.find? userId with
  | none => none
  | some row => if row.verifiedAt.isSome then some row.encryptedSecret else none

def hasVerifiedTotp (secrets : TotpSecrets) (userId : Uuid) : Bool := (verifiedSecret secrets userId).isSome

def unverifiedTotpTtl : Int := 24 * 60 * 60

def purgeStaleUnverified (now : Int) (secrets : TotpSecrets) : TotpSecrets :=
  secrets.delete fun row => row.verifiedAt.isNone && decide (row.createdAt < now - unverifiedTotpTtl)

-- A signed challenge cookie. Its signature is only ever made by the callback, so a
-- request presents one of those that were issued; `secret` is what the user had
-- verified then and is not in the cookie.
structure Challenge where
  userId : Uuid
  issuedAt : Int
  secret : String

inductive Way where
  | callback (mfaSatisfied : Bool)
  | challenge (challenge : Challenge) (proof : Proof)

structure Minted where
  userId : Uuid
  way : Way

structure World where
  db : Db
  secrets : TotpSecrets
  challenges : List Challenge
  minted : List Minted
  proofs : List Proof
  accepted : List Proof

inductive Label where
  | callback (request : Request) (provider : String) (profile : ProviderProfile)
  | totpEnroll (request : Request) (encryptedSecret : String)
  | totpVerify (request : Request) (code : String)
  | totpChallenge (request : Request) (cookie : Nat) (code : String)
  | purgeExpiredSessions
  | purgeStaleUnverifiedTotpSecrets
  | elsewhere (db : Db)

inductive StepUpError where
  | org (error : OrgError)
  | challengeInvalid
  | totpInvalid

def challengeMaxAgeSeconds : Int := 600

def holder (settings : Settings) (env : Env) (world : World) (request : Request) : Option Uuid :=
  currentSessionUserId settings env world.db request

def mint (settings : Settings) (env : Env) (world : World) (request : Request) (userId : Uuid) (way : Way) :
    Except StepUpError World :=
  match mintSession settings env (revokePreAuthSession settings world.db request) userId with
  | .error error => .error (.org error)
  | .ok (_, db) => .ok { world with db := db, minted := world.minted ++ [{ userId := userId, way := way }] }

def callback (settings : Settings) (env : Env) (world : World) (request : Request) (provider : String)
    (profile : ProviderProfile) : Except StepUpError World :=
  if !profile.emailVerified then .error (.org .emailNotVerified)
  else
    match loginViaOauth world.db provider profile with
    | .error error => .error (.org error)
    | .ok (none, _) => .ok world
    | .ok (some user, linked) =>
        match profile.mfaSatisfied, verifiedSecret world.secrets user.id with
        | false, some secret =>
            let challenge := { userId := user.id, issuedAt := env.now, secret := secret }
            .ok { world with db := linked, challenges := world.challenges ++ [challenge] }
        | mfaSatisfied, _ =>
            mint settings env { world with db := linked } request user.id (.callback mfaSatisfied)

def totpEnroll (settings : Settings) (env : Env) (world : World) (request : Request) (encryptedSecret : String) :
    Except StepUpError World :=
  match holder settings env world request with
  | none => .error (.org .unauthenticated)
  | some userId => .ok { world with secrets := upsertTotpSecret env.now world.secrets userId encryptedSecret }

def totpVerify (settings : Settings) (totp : Totp) (env : Env) (world : World) (request : Request) (code : String) :
    Except StepUpError World :=
  match holder settings env world request with
  | none => .error (.org .unauthenticated)
  | some userId =>
      match proofOf totp env.now world.secrets userId code with
      | none => .error .totpInvalid
      | some proof =>
          .ok { world with
            secrets := stampUsed env.now world.secrets userId
            proofs := world.proofs ++ [proof] }

def totpChallenge (settings : Settings) (totp : Totp) (env : Env) (world : World) (request : Request) (cookie : Nat)
    (code : String) : Except StepUpError World :=
  match world.challenges[cookie]? with
  | none => .error .challengeInvalid
  | some challenge =>
      if env.now - challenge.issuedAt > challengeMaxAgeSeconds then .error .challengeInvalid
      else
        match proofOf totp env.now world.secrets challenge.userId code with
        | none => .error .totpInvalid
        | some proof =>
            let proven := { world with
              secrets := stampUsed env.now world.secrets challenge.userId
              proofs := world.proofs ++ [proof]
              accepted := world.accepted ++ [proof] }
            mint settings env proven request challenge.userId (.challenge challenge proof)

def step (settings : Settings) (totp : Totp) (world : World) (label : Env × Label) : Except StepUpError World :=
  match label.2 with
  | .callback request provider profile => callback settings label.1 world request provider profile
  | .totpEnroll request encryptedSecret => totpEnroll settings label.1 world request encryptedSecret
  | .totpVerify request code => totpVerify settings totp label.1 world request code
  | .totpChallenge request cookie code => totpChallenge settings totp label.1 world request cookie code
  | .purgeExpiredSessions => .ok { world with db := world.db.cleanupExpired label.1 }
  | .purgeStaleUnverifiedTotpSecrets => .ok { world with secrets := purgeStaleUnverified label.1.now world.secrets }
  | .elsewhere db => .ok { world with db := db }

-- Any users, sessions and secrets; nothing of what the law is about has happened.
def machine (settings : Settings) (totp : Totp) : Machine World (Env × Label) StepUpError where
  initial world := world.challenges = [] ∧ world.minted = [] ∧ world.proofs = [] ∧ world.accepted = []
  allowed _ _ := True
  step := step settings totp

instance (settings : Settings) (totp : Totp) (world : World) (label : Env × Label) :
    Decidable ((machine settings totp).allowed world label) := inferInstanceAs (Decidable True)

variable (settings : Settings) (totp : Totp) (env : Env) (world next : World) (request : Request)

theorem verifiedSecret_upsert (now : Int) (secrets : TotpSecrets) (userId other : Uuid) (encryptedSecret : String)
    (apart : other ≠ userId) :
    verifiedSecret (upsertTotpSecret now secrets userId encryptedSecret) other = verifiedSecret secrets other := by
  unfold verifiedSecret upsertTotpSecret
  rw [Table.find?_upsert, if_neg apart]

theorem verifiedSecret_stamp (now : Int) (secrets : TotpSecrets) (userId other : Uuid) (secret : String)
    (verified : verifiedSecret secrets other = some secret) :
    verifiedSecret (stampUsed now secrets userId) other = some secret := by
  unfold verifiedSecret at verified ⊢
  rw [stampUsed, Table.find?_update]
  cases found : secrets.find? other with
  | none =>
      rw [found] at verified
      cases verified
  | some row =>
      rw [found] at verified
      dsimp only [Option.map_some] at verified ⊢
      split at verified
      · rename_i stamped
        by_cases own : row.userId = userId
        · rw [if_pos (decide_eq_true own)]
          have still : (row.verifiedAt.or (some now)).isSome = true := by
            rw [Option.isSome_or, stamped, Bool.true_or]
          dsimp only
          rw [if_pos still]
          exact verified
        · have other : ¬ decide (row.userId = userId) = true := by simpa using own
          rw [if_neg other, if_pos stamped]
          exact verified
      · cases verified

theorem verifiedSecret_purge (now : Int) (secrets : TotpSecrets) (userId : Uuid) (secret : String)
    (verified : verifiedSecret secrets userId = some secret) :
    verifiedSecret (purgeStaleUnverified now secrets) userId = some secret := by
  unfold verifiedSecret at verified ⊢
  cases found : secrets.find? userId with
  | none =>
      rw [found] at verified
      cases verified
  | some row =>
      rw [found] at verified
      dsimp only at verified
      split at verified
      · rename_i stamped
        obtain ⟨member, own⟩ := Table.find?_some secrets userId row found
        have kept : (purgeStaleUnverified now secrets).find? userId = some row := by
          apply Table.find?_eq _ row userId _ own
          apply List.mem_filter.mpr
          refine ⟨member, ?_⟩
          dsimp only
          rw [Option.isNone_eq_false_iff.mpr stamped]
          rfl
        rw [kept]
        dsimp only
        rw [if_pos stamped]
        exact verified
      · cases verified

theorem proofOf_secret (now : Int) (secrets : TotpSecrets) (userId : Uuid) (code secret : String)
    (proof : Proof) (proven : proofOf totp now secrets userId code = some proof)
    (verified : verifiedSecret secrets userId = some secret) : proof.userId = userId ∧ proof.secret = secret := by
  unfold proofOf at proven
  unfold verifiedSecret at verified
  cases found : secrets.find? userId with
  | none =>
      rw [found] at proven
      cases proven
  | some row =>
      rw [found] at proven verified
      dsimp only at proven verified
      split at verified
      · cases verified
        split at proven
        · cases proven
        · split at proven
          · cases proven
          · cases proven
            exact ⟨rfl, rfl⟩
      · cases verified

def Minted.Warranted (minted : Minted) : Prop :=
  match minted.way with
  | .callback mfaSatisfied => mfaSatisfied = true
  | .challenge challenge proof => proof.secret = challenge.secret

structure SecondFactor (world next : World) : Prop where
  kept : ∀ userId secret, verifiedSecret world.secrets userId = some secret →
    (∀ proof ∈ next.proofs.drop world.proofs.length, ¬ (proof.userId = userId ∧ proof.secret = secret)) →
    ∀ minted ∈ next.minted.drop world.minted.length, minted.userId = userId → minted.Warranted
  once : next.accepted.Nodup

def careful (settings : Settings) (totp : Totp) (world : World) (label : Env × Label) : Bool :=
  match label.2 with
  | .totpEnroll request _ =>
      match holder settings label.1 world request with
      | none => true
      | some userId => !hasVerifiedTotp world.secrets userId
  | .totpChallenge _ cookie code =>
      match world.challenges[cookie]? with
      | none => true
      | some challenge =>
          match proofOf totp label.1.now world.secrets challenge.userId code with
          | none => true
          | some proof => decide (proof ∉ world.accepted)
  | _ => true

def carefulRuns (settings : Settings) (totp : Totp) : Machine World (Env × Label) StepUpError :=
  (machine settings totp).restrict fun world label => careful settings totp world label = true

structure Held (world : World) : Prop where
  challenged : ∀ challenge ∈ world.challenges, verifiedSecret world.secrets challenge.userId = some challenge.secret
  once : world.accepted.Nodup

structure Grows (before after : World) : Prop where
  secrets : ∀ userId secret, verifiedSecret before.secrets userId = some secret →
    verifiedSecret after.secrets userId = some secret
  minted : ∃ more, after.minted = before.minted ++ more ∧
    ∀ minted ∈ more, hasVerifiedTotp before.secrets minted.userId = true → minted.Warranted

theorem grows_refl (world : World) : Grows world world :=
  ⟨fun _ _ => id, [], (List.append_nil _).symm, fun _ => nofun⟩

theorem grows_trans (first middle last : World) (left : Grows first middle) (right : Grows middle last) :
    Grows first last := by
  obtain ⟨early, leftMinted, leftWarranted⟩ := left.minted
  obtain ⟨late, rightMinted, rightWarranted⟩ := right.minted
  refine ⟨fun userId secret verified => right.secrets userId secret (left.secrets userId secret verified), early ++ late, ?_, ?_⟩
  · rw [rightMinted, leftMinted, List.append_assoc]
  · intro minted member verified
    rcases List.mem_append.mp member with old | new
    · exact leftWarranted minted old verified
    · apply rightWarranted minted new
      obtain ⟨secret, there⟩ := Option.isSome_iff_exists.mp verified
      unfold hasVerifiedTotp
      rw [left.secrets minted.userId secret there]
      rfl

theorem mint_ok (userId : Uuid) (way : Way)
    (taken : mint settings env world request userId way = .ok next) :
    ∃ db, next = { world with db := db, minted := world.minted ++ [{ userId := userId, way := way }] } := by
  unfold mint at taken
  split at taken
  · cases taken
  · cases taken
    exact ⟨_, rfl⟩

theorem minted_grows (before after : World) (secrets : ∀ userId secret, verifiedSecret before.secrets userId = some secret →
      verifiedSecret after.secrets userId = some secret) (minted : Minted)
    (appended : after.minted = before.minted ++ [minted])
    (warranted : hasVerifiedTotp before.secrets minted.userId = true → minted.Warranted) : Grows before after := by
  refine ⟨secrets, [minted], appended, ?_⟩
  intro other member
  rw [List.mem_singleton.mp member]
  exact warranted

theorem callback_grows (provider : String)
    (profile : ProviderProfile) (held : Held world) (taken : callback settings env world request provider profile = .ok next) :
    Grows world next ∧ Held next := by
  unfold callback at taken
  split at taken
  · cases taken
  · split at taken
    · cases taken
    · cases taken
      exact ⟨grows_refl _, held⟩
    · rename_i user linked _
      split at taken
      · rename_i secret unsatisfied verified
        cases taken
        refine ⟨⟨fun _ _ => id, [], (List.append_nil _).symm, fun _ => nofun⟩, ?_, held.once⟩
        intro challenge member
        rcases List.mem_append.mp member with old | new
        · exact held.challenged challenge old
        · rw [List.mem_singleton.mp new]
          exact verified
      · rename_i asked
        obtain ⟨db, rfl⟩ := mint_ok settings env _ next request user.id _ taken
        refine ⟨minted_grows _ _ (fun _ _ => id) _ rfl ?_, held.challenged, held.once⟩
        intro verified
        obtain ⟨secret, there⟩ := Option.isSome_iff_exists.mp verified
        change profile.mfaSatisfied = true
        cases satisfied : profile.mfaSatisfied with
        | true => rfl
        | false => exact absurd there (asked secret satisfied)

theorem totpEnroll_grows
    (encryptedSecret : String) (held : Held world)
    (cautious : careful settings totp world (env, .totpEnroll request encryptedSecret) = true)
    (taken : totpEnroll settings env world request encryptedSecret = .ok next) : Grows world next ∧ Held next := by
  unfold totpEnroll at taken
  unfold careful at cautious
  dsimp only at cautious
  cases caller : holder settings env world request with
  | none =>
      rw [caller] at taken
      cases taken
  | some userId =>
      rw [caller] at taken cautious
      cases taken
      have unverified : verifiedSecret world.secrets userId = none := by
        simpa [hasVerifiedTotp] using cautious
      have kept (other : Uuid) (secret : String) (verified : verifiedSecret world.secrets other = some secret) :
          verifiedSecret (upsertTotpSecret env.now world.secrets userId encryptedSecret) other = some secret := by
        rw [verifiedSecret_upsert]
        · exact verified
        · rintro rfl
          rw [unverified] at verified
          cases verified
      refine ⟨⟨kept, [], (List.append_nil _).symm, fun _ => nofun⟩, ?_, held.once⟩
      intro challenge member
      exact kept _ _ (held.challenged challenge member)

theorem totpVerify_grows
    (code : String) (held : Held world) (taken : totpVerify settings totp env world request code = .ok next) :
    Grows world next ∧ Held next := by
  unfold totpVerify at taken
  split at taken
  · cases taken
  · rename_i userId _
    split at taken
    · cases taken
    · cases taken
      have kept := verifiedSecret_stamp env.now world.secrets userId
      refine ⟨⟨kept, [], (List.append_nil _).symm, fun _ => nofun⟩, ?_, held.once⟩
      intro challenge member
      exact kept _ _ (held.challenged challenge member)

theorem totpChallenge_grows
    (cookie : Nat) (code : String) (held : Held world)
    (cautious : careful settings totp world (env, .totpChallenge request cookie code) = true)
    (taken : totpChallenge settings totp env world request cookie code = .ok next) : Grows world next ∧ Held next := by
  unfold totpChallenge at taken
  unfold careful at cautious
  dsimp only at cautious
  cases presented : world.challenges[cookie]? with
  | none =>
      rw [presented] at taken
      cases taken
  | some challenge =>
      rw [presented] at taken cautious
      dsimp only at taken cautious
      split at taken
      · cases taken
      · cases proven : proofOf totp env.now world.secrets challenge.userId code with
        | none =>
            rw [proven] at taken
            cases taken
        | some proof =>
            rw [proven] at taken cautious
            obtain ⟨db, rfl⟩ := mint_ok settings env _ next request challenge.userId _ taken
            have verified := held.challenged challenge (List.mem_of_getElem? presented)
            have kept := verifiedSecret_stamp env.now world.secrets challenge.userId
            refine ⟨minted_grows _ _ kept _ rfl ?_, ?_, ?_⟩
            · intro _
              exact (proofOf_secret totp env.now world.secrets challenge.userId code challenge.secret proof proven verified).2
            · intro other member
              exact kept _ _ (held.challenged other member)
            · change (world.accepted ++ [proof]).Nodup
              have fresh : proof ∉ world.accepted := of_decide_eq_true cautious
              rw [List.nodup_append]
              refine ⟨held.once, List.nodup_singleton proof, ?_⟩
              rintro earlier member other single rfl
              rw [List.mem_singleton.mp single] at member
              exact fresh member

theorem step_grows (label : Env × Label) (held : Held world)
    (cautious : careful settings totp world label = true) (taken : step settings totp world label = .ok next) :
    Grows world next ∧ Held next := by
  obtain ⟨env, label⟩ := label
  cases label with
  | callback request provider profile => exact callback_grows settings env world next request provider profile held taken
  | totpEnroll request encryptedSecret =>
      exact totpEnroll_grows settings totp env world next request encryptedSecret held cautious taken
  | totpVerify request code => exact totpVerify_grows settings totp env world next request code held taken
  | totpChallenge request cookie code =>
      exact totpChallenge_grows settings totp env world next request cookie code held cautious taken
  | purgeExpiredSessions =>
      cases taken
      exact ⟨⟨fun _ _ => id, [], (List.append_nil _).symm, fun _ => nofun⟩, held.challenged, held.once⟩
  | purgeStaleUnverifiedTotpSecrets =>
      cases taken
      have kept := verifiedSecret_purge env.now world.secrets
      refine ⟨⟨kept, [], (List.append_nil _).symm, fun _ => nofun⟩, ?_, held.once⟩
      intro challenge member
      exact kept _ _ (held.challenged challenge member)
  | elsewhere db =>
      cases taken
      exact ⟨⟨fun _ _ => id, [], (List.append_nil _).symm, fun _ => nofun⟩, held.challenged, held.once⟩

theorem held_inductive : Inductive (carefulRuns settings totp) Held where
  initially world initial := by
    obtain ⟨challenges, _, _, accepted⟩ := initial
    constructor
    · rw [challenges]
      exact fun _ => nofun
    · rw [accepted]
      exact List.nodup_nil
  kept world label next held allowed taken := (step_grows settings totp world next label held allowed.2 taken).2

theorem path_grows (labels : List (Env × Label)) (held : Held world)
    (path : Path (carefulRuns settings totp) world labels next) : Grows world next := by
  induction path with
  | nil world => exact grows_refl world
  | cons world middle last label labels allowed taken rest ih =>
      obtain ⟨first, later⟩ := step_grows settings totp world middle label held allowed.2 taken
      exact grows_trans world middle last first (ih later)

-- The column `verified_at` goes with a new enrolment and `last_used_at` is never read.
theorem second_factor_stays (labels : List (Env × Label))
    (reachable : Reachable (carefulRuns settings totp) world) (path : Path (carefulRuns settings totp) world labels next) :
    SecondFactor world next := by
  have held := reachable_invariant _ Held (held_inductive settings totp) world reachable
  have ended := reachable_invariant _ Held (held_inductive settings totp) next (reachable_path _ _ _ _ reachable path)
  refine ⟨?_, ended.once⟩
  intro userId secret verified _ minted member own
  obtain ⟨more, appended, warranted⟩ := (path_grows settings totp world next labels held path).minted
  rw [appended, List.drop_left] at member
  apply warranted minted member
  rw [own, hasVerifiedTotp, verified]
  rfl

def sampleTotp : Totp where
  decrypt secret := some secret
  matchedStep seed code now := if code = seed ++ " code" then some (now / 30) else none

def sampleSettings : Settings where
  hashToken := id
  hashInvitation := fun token => token.email
  sessionLifetimeSeconds := 86400
  invitationLifetimeSeconds := 604800

def sampleEnv (newRawToken : String) : Env where
  now := 40
  newRawToken := newRawToken
  runAssertionVerifier := fun _ _ => none

def sampleWorld : World where
  db :=
    { nextId := 100
      users := { rows := [⟨10, none⟩], unique := by decide }
      emails := { rows := [⟨20, 10, "ada@acme.com", some 0⟩], unique := by decide }
      identities := { rows := [⟨"github", "ada", 10⟩], unique := by decide }
      totpSecrets := Table.empty
      sessions := Table.empty
      orgs := Table.empty
      memberships := Table.empty
      invitations := Table.empty
      ssoConfigs := Table.empty }
  secrets := Table.empty
  challenges := []
  minted := []
  proofs := []
  accepted := []

def cookie (rawToken : Option String) : Request := { yaaosSession := rawToken, orgSlug := none, queryOrg := none }

def adaSignsIn (newRawToken : String) : Env × Label :=
  (sampleEnv newRawToken, .callback (cookie none) "github" ⟨"ada", "ada@acme.com", true, false⟩)

def adaEnrolls (secret : String) : Env × Label := (sampleEnv "", .totpEnroll (cookie (some "t1")) secret)

def adaVerifies : Env × Label := (sampleEnv "", .totpVerify (cookie (some "t1")) "s1 code")

def adaAnswers : Env × Label := (sampleEnv "t2", .totpChallenge (cookie none) 0 "s1 code")

def enrolled : World := (machine sampleSettings sampleTotp).after sampleWorld [adaSignsIn "t1", adaEnrolls "s1", adaVerifies]

-- Ada answers the challenge, and signs in again by an identity that was asked for a second factor.
def adaSteps : List (Env × Label) :=
  [adaSignsIn "t3", adaAnswers, (sampleEnv "t4", .callback (cookie none) "github" ⟨"ada", "ada@acme.com", true, true⟩)]

def steppedUp : World := (machine sampleSettings sampleTotp).after enrolled adaSteps

theorem steppedUp_stays : SecondFactor enrolled steppedUp :=
  second_factor_stays sampleSettings sampleTotp enrolled steppedUp adaSteps
    ⟨sampleWorld, _, ⟨rfl, rfl, rfl, rfl⟩, commits_restrict _ _ _ _ (by decide +kernel) (by decide +kernel)⟩
    (commits_restrict _ _ _ _ (by decide +kernel) (by decide +kernel))

def shed : World := (machine sampleSettings sampleTotp).after enrolled [adaEnrolls "s2", adaSignsIn "t3"]

theorem second_factor_shed :
    ¬ ∀ (settings : Settings) (totp : Totp) (world next : World) (labels : List (Env × Label)),
      Reachable (machine settings totp) world → Path (machine settings totp) world labels next → SecondFactor world next := by
  intro claim
  have law := claim sampleSettings sampleTotp enrolled shed [adaEnrolls "s2", adaSignsIn "t3"]
    ⟨sampleWorld, _, ⟨rfl, rfl, rfl, rfl⟩, commits_path _ _ _ (by decide +kernel)⟩ (commits_path _ _ _ (by decide +kernel))
  have warranted := law.kept 10 "s1" rfl (fun _ => nofun) ⟨10, .callback false⟩ (List.mem_singleton_self _) rfl
  cases warranted

end Yaaos.Orgs.StepUp
