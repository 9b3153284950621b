import Yaaos.Exchange.Ledger

set_option autoImplicit false

namespace Yaaos.Exchange

open Yaaos.Base

structure World where
  db : Db
  exchanges : List (Uuid × PendingExchange)
  patches : List (Uuid × Uuid × PendingPatch)

inductive Label where
  | lookup (call : Uuid) (request : ExchangeRequest) (verified : VerifiedIdentity)
  | issue (call : Uuid)
  | patchRead (call orgId : Uuid) (body : PatchBody)
  | patchCommit (call : Uuid)
  | abandon (call : Uuid)
  | revokeAllForAgent (agentId : Uuid) (reason : String)
  | createOrg (row : OrgRow)

def forget {α : Type} (call : Uuid) (pending : List (Uuid × α)) : List (Uuid × α) :=
  pending.filter fun entry => decide (entry.1 ≠ call)

-- An organisation starts without an ARN.
def Db.insertOrg (db : Db) (row : OrgRow) : Except ExchangeError Db :=
  match db.orgs.insert? { row with registeredIamArn := none, awsRegion := none } with
  | some orgs => .ok { db with orgs := orgs }
  | none => .error (.integrityError "orgs_pkey")

def act (env : Env) (world : World) : Label → Except ExchangeError World
  | .lookup call request verified =>
      (exchangeLookup world.db request verified).map fun pending =>
        { world with exchanges := (call, pending) :: world.exchanges }
  | .issue call =>
      match world.exchanges.lookup call with
      | none => .error .unknownCall
      | some pending =>
          (exchangeIssue env world.db pending).map fun db =>
            { world with db := db, exchanges := forget call world.exchanges }
  | .patchRead call orgId body =>
      (patchRead world.db orgId body).map fun pending => { world with patches := (call, orgId, pending) :: world.patches }
  | .patchCommit call =>
      match world.patches.lookup call with
      | none => .error .unknownCall
      | some (orgId, pending) =>
          (patchCommit env world.db orgId pending).map fun db =>
            { world with db := db, patches := forget call world.patches }
  | .abandon call =>
      .ok { world with exchanges := forget call world.exchanges, patches := forget call world.patches }
  | .revokeAllForAgent agentId reason => .ok { world with db := world.db.revokeAllForAgent env agentId reason }
  | .createOrg row => (world.db.insertOrg row).map fun db => { world with db := db }

def machine : Machine World (Env × Label) ExchangeError where
  initial := fun world =>
    world.db.bearers.rows = [] ∧ world.exchanges = [] ∧ world.patches = [] ∧ arnsUnique world.db.orgs.rows = true
  allowed := fun _ _ => True
  step := fun world label => act label.1 world label.2

def arnOf (db : Db) (orgId : Uuid) : Option String := (db.orgs.find? orgId).bind OrgRow.registeredIamArn

-- What a patch that changes the ARN takes away is what it has read: its own
-- bearers under any other ARN, and the bearers of another organisation under this
-- one, are gone already.
def sparesRow (orgId : Uuid) (pending : PendingPatch) (row : BearerTokenRow) : Bool :=
  row.revokedAt.isSome ||
    if row.orgId = orgId then
      decide (row.issuedIamArn = pending.full.registeredIamArn) || decide (row.issuedIamArn = pending.arn)
    else decide (row.issuedIamArn ≠ pending.full.registeredIamArn)

def spares (db : Db) (orgId : Uuid) (pending : PendingPatch) : Bool :=
  decide (pending.full.registeredIamArn = pending.arn) || db.bearers.rows.all (sparesRow orgId pending)

-- The ARN an exchange has looked up is still the organisation's when the bearer is
-- issued.
def current (db : Db) (pending : PendingExchange) : Bool :=
  decide (arnOf db pending.orgId = some pending.verified.canonicalArn)

def timely (world : World) : Label → Bool
  | .issue call => ((world.exchanges.lookup call).map (current world.db)).getD true
  | .patchCommit call => ((world.patches.lookup call).map fun entry => spares world.db entry.1 entry.2).getD true
  | _ => true

def Timely (world : World) (label : Env × Label) : Prop := timely world label.2 = true

instance (world : World) (label : Env × Label) : Decidable (Timely world label) :=
  inferInstanceAs (Decidable (timely world label.2 = true))

instance (world : World) (label : Env × Label) : Decidable (machine.allowed world label) := isTrue trivial

variable (env : Env) (db after : Db)

theorem revokeWhere_rows (db : Db) (reason : String) (selected : BearerTokenRow → Bool)
    (row : BearerTokenRow) (member : row ∈ (db.revokeWhere env reason selected).bearers.rows) :
    row.revokedAt.isSome = true ∨ (row ∈ db.bearers.rows ∧ selected row = false) := by
  obtain ⟨old, held, same⟩ := List.mem_map.mp member
  split at same
  · subst same
    exact .inl rfl
  · rename_i missed
    subst same
    cases revoked : old.revokedAt with
    | some _ => exact .inl rfl
    | none =>
        refine .inr ⟨held, ?_⟩
        simpa [revoked] using missed

theorem issue_ok (agentId orgId : Uuid) (arn : String)
    (issued : db.issue env agentId orgId arn = .ok after) :
    ∃ bearers row, after = { db with nextId := db.nextId + 1, bearers := bearers } ∧
      bearers.rows = db.bearers.rows ++ [row] ∧ row.orgId = orgId ∧ row.issuedIamArn = some arn := by
  unfold Db.issue at issued
  split at issued
  · rename_i bearers inserted
    cases issued
    exact ⟨bearers, _, rfl, (Table.insert?_some db.bearers bearers _ inserted).1, rfl, rfl⟩
  · cases issued

theorem exchangeIssue_ok (pending : PendingExchange)
    (issued : exchangeIssue env db pending = .ok after) :
    after.orgs = db.orgs ∧ ∃ row, after.bearers.rows = db.bearers.rows ++ [row] ∧ row.orgId = pending.orgId ∧
      row.issuedIamArn = some pending.verified.canonicalArn := by
  obtain ⟨bearers, row, rfl, rows, org, arn⟩ := issue_ok env _ after _ pending.orgId _ issued
  exact ⟨rfl, row, rows, org, arn⟩

def patchRevoked (env : Env) (db : Db) (pending : PendingPatch) : Db :=
  match pending.full.registeredIamArn with
  | some arn => if pending.arnChanged then db.revokeAllForArn env arn "arn_change" else db
  | none => db

theorem patchCommit_ok (orgId : Uuid) (pending : PendingPatch)
    (committed : patchCommit env db orgId pending = .ok after) :
    after.orgs = db.orgs.update (fun row => decide (row.id = orgId)) pending.write (write_id pending) ∧
      after.bearers = (patchRevoked env db pending).bearers ∧ arnsUnique after.orgs.rows = true := by
  have sameOrgs : (patchRevoked env db pending).orgs = db.orgs := by
    unfold patchRevoked
    split
    · split <;> rfl
    · rfl
  have whole : after.orgs = ((patchRevoked env db pending).updateOrgFields orgId pending).orgs ∧
      after.bearers = ((patchRevoked env db pending).updateOrgFields orgId pending).bearers ∧
      arnsUnique ((patchRevoked env db pending).updateOrgFields orgId pending).orgs.rows = true := by
    have unfolded : patchCommit env db orgId pending =
        (let updated := (patchRevoked env db pending).updateOrgFields orgId pending
         if !updated.orgs.rows.all arnPaired then .error (.integrityError "ck_orgs_arn_region_paired")
         else if !arnsUnique updated.orgs.rows then .error (.integrityError "uq_orgs_registered_iam_arn")
         else pending.workspaceMaxCount.elim (.ok updated) fun count =>
           if pending.full.workspaceMaxCount ≠ count then .ok (updated.enqueueConfigUpdateForAllOrgAgents orgId)
           else .ok updated) := by
      rw [patchCommit]
      cases pending.workspaceMaxCount <;> rfl
    rw [unfolded] at committed
    simp only at committed
    split at committed
    · cases committed
    split at committed
    · cases committed
    rename_i unique
    have holds : arnsUnique ((patchRevoked env db pending).updateOrgFields orgId pending).orgs.rows = true := by
      simpa using unique
    cases cap : pending.workspaceMaxCount with
    | none =>
        rw [cap] at committed
        cases committed
        exact ⟨rfl, rfl, holds⟩
    | some count =>
        rw [cap, Option.elim_some] at committed
        split at committed <;> cases committed <;> exact ⟨rfl, rfl, holds⟩
  obtain ⟨orgs, bearers, unique⟩ := whole
  refine ⟨?_, bearers, orgs ▸ unique⟩
  rw [orgs, Db.updateOrgFields, sameOrgs]

theorem arnOf_patched (orgId other : Uuid) (pending : PendingPatch)
    (orgs : after.orgs = db.orgs.update (fun row => decide (row.id = orgId)) pending.write (write_id pending)) :
    arnOf after other =
      if other = orgId ∧ pending.full.registeredIamArn ≠ pending.arn then
        (db.orgs.find? orgId).bind fun _ => pending.arn
      else arnOf db other := by
  simp only [arnOf, orgs]
  rw [Table.find?_change]
  by_cases here : other = orgId
  · rw [if_pos here, here]
    cases db.orgs.find? orgId with
    | none => simp
    | some row =>
        by_cases same : pending.full.registeredIamArn = pending.arn
        · simp [PendingPatch.write, same]
        · simp [PendingPatch.write, same]
  · simp [here]

def Follows (db : Db) : Prop :=
  ∀ row ∈ db.bearers.rows, row.revokedAt = none → ∃ arn, row.issuedIamArn = some arn ∧ arnOf db row.orgId = some arn

theorem follows_issue (pending : PendingExchange) (follows : Follows db)
    (timely : current db pending = true) (issued : exchangeIssue env db pending = .ok after) : Follows after := by
  obtain ⟨orgs, fresh, rows, org, arn⟩ := exchangeIssue_ok env db after pending issued
  intro row member live
  have sameArn : ∀ orgId, arnOf after orgId = arnOf db orgId := by
    intro orgId
    simp only [arnOf, orgs]
  rw [rows, List.mem_append, List.mem_singleton] at member
  rw [sameArn]
  rcases member with held | rfl
  · exact follows row held live
  · refine ⟨pending.verified.canonicalArn, arn, ?_⟩
    rw [org]
    simpa [current] using timely

theorem follows_patch (orgId : Uuid) (pending : PendingPatch) (follows : Follows db)
    (spared : spares db orgId pending = true) (committed : patchCommit env db orgId pending = .ok after) :
    Follows after := by
  obtain ⟨orgs, bearers, _⟩ := patchCommit_ok env db after orgId pending committed
  intro row member live
  rw [bearers] at member
  -- The row was there before, and the revocation has missed it.
  have old : row ∈ db.bearers.rows ∧
      (pending.full.registeredIamArn ≠ pending.arn → row.issuedIamArn = pending.full.registeredIamArn →
        row.issuedIamArn = none) := by
    unfold patchRevoked at member
    split at member
    · rename_i read known
      by_cases changed : pending.arnChanged = true
      · rw [if_pos changed] at member
        rcases revokeWhere_rows env db "arn_change" _ row member with revoked | ⟨held, missed⟩
        · simp [live] at revoked
        · refine ⟨held, ?_⟩
          intro _ same
          rw [known] at same
          simp [same] at missed
      · rw [if_neg changed] at member
        refine ⟨member, ?_⟩
        intro moved _
        simp [PendingPatch.arnChanged, known] at changed
        exact absurd (known.trans changed) moved
    · rename_i unknown
      exact ⟨member, fun _ same => same.trans unknown⟩
  obtain ⟨held, missed⟩ := old
  obtain ⟨arn, issued, registered⟩ := follows row held live
  refine ⟨arn, issued, ?_⟩
  rw [arnOf_patched db after orgId row.orgId pending orgs]
  by_cases moved : row.orgId = orgId ∧ pending.full.registeredIamArn ≠ pending.arn
  · rw [if_pos moved]
    obtain ⟨here, changed⟩ := moved
    have spare : sparesRow orgId pending row = true := by
      have each : db.bearers.rows.all (sparesRow orgId pending) = true := by simpa [spares, changed] using spared
      exact List.all_eq_true.mp each row held
    have two : row.issuedIamArn = pending.full.registeredIamArn ∨ row.issuedIamArn = pending.arn := by
      simpa [sparesRow, live, here] using spare
    rcases two with same | same
    · rw [missed changed same] at issued
      cases issued
    · have present : ∃ org, db.orgs.find? orgId = some org := by
        rw [here, arnOf] at registered
        cases found : db.orgs.find? orgId with
        | none => simp [found] at registered
        | some org => exact ⟨org, rfl⟩
      obtain ⟨org, found⟩ := present
      rw [found]
      exact same.symm.trans issued
  · rw [if_neg moved]
    exact registered

theorem follows_revoked (db : Db) (reason : String) (selected : BearerTokenRow → Bool)
    (follows : Follows db) : Follows (db.revokeWhere env reason selected) := by
  intro row member live
  rcases revokeWhere_rows env db reason selected row member with revoked | ⟨held, _⟩
  · simp [live] at revoked
  · exact follows row held live

theorem follows_inserted (row : OrgRow) (follows : Follows db)
    (inserted : db.insertOrg row = .ok after) : Follows after := by
  unfold Db.insertOrg at inserted
  split at inserted
  · rename_i orgs success
    cases inserted
    intro bearer member live
    obtain ⟨arn, issued, registered⟩ := follows bearer member live
    refine ⟨arn, issued, ?_⟩
    rw [arnOf] at registered ⊢
    cases found : db.orgs.find? bearer.orgId with
    | none => simp [found] at registered
    | some org =>
        rw [found] at registered
        show (orgs.find? bearer.orgId).bind OrgRow.registeredIamArn = some arn
        rw [Table.find?_insert db.orgs orgs _ bearer.orgId success, found]
        exact registered
  · cases inserted

theorem follows_inductive : Inductive (machine.restrict Timely) fun world => Follows world.db where
  initially := by
    intro world ⟨empty, _⟩ row member
    rw [empty] at member
    cases member
  kept := by
    intro world label next follows ⟨_, timely⟩ taken
    obtain ⟨env, label⟩ := label
    cases label with
    | lookup call request verified =>
        obtain ⟨pending, _, rfl⟩ := map_eq_ok _ _ next taken
        exact follows
    | issue call =>
        simp only [Machine.restrict, machine, act] at taken
        split at taken
        · cases taken
        rename_i pending found
        obtain ⟨db, issued, rfl⟩ := map_eq_ok _ _ next taken
        refine follows_issue env world.db db pending follows ?_ issued
        simpa [Timely, Exchange.timely, found] using timely
    | patchRead call orgId body =>
        obtain ⟨pending, _, rfl⟩ := map_eq_ok _ _ next taken
        exact follows
    | patchCommit call =>
        simp only [Machine.restrict, machine, act] at taken
        split at taken
        · cases taken
        rename_i orgId pending found
        obtain ⟨db, committed, rfl⟩ := map_eq_ok _ _ next taken
        refine follows_patch env world.db db orgId pending follows ?_ committed
        simpa [Timely, Exchange.timely, found] using timely
    | abandon call =>
        cases taken
        exact follows
    | revokeAllForAgent agentId reason =>
        cases taken
        exact follows_revoked env world.db reason _ follows
    | createOrg row =>
        obtain ⟨db, inserted, rfl⟩ := map_eq_ok _ _ next taken
        exact follows_inserted world.db db row follows inserted

def secondArn : String := "arn:aws:iam::111122223333:role/workers"

def sampleEnv (now : Int) : Env := { now := now, plaintext := "b1", hash := id, sourceIp := none }

def issues : Env × Label := (sampleEnv 3, .issue 1)

def reads : Env × Label := (sampleEnv 1, .patchRead 2 1 ⟨.absent, .given (some secondArn), .absent, .absent⟩)

def commits : Env × Label := (sampleEnv 2, .patchCommit 2)

end Yaaos.Exchange
