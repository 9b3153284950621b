import Yaaos.Intake.PullRequests

set_option autoImplicit false

namespace Yaaos.Intake

open Yaaos.Base
open Yaaos.Pipelines

structure Kept (store : PullStore) : Prop where
  coherent : Coherent store.db
  ids : ∀ row ∈ store.pulls.rows, ∀ other ∈ store.pulls.rows, row.id = other.id → row = other
  bound : ∀ row ∈ store.pulls.rows, row.id < store.db.nextId
  ticketed : ∀ row ∈ store.pulls.rows, ∃ ticket, store.db.tickets.find? row.ticketId = some ticket ∧
    ticket.orgId = row.orgId
  announced : ∀ externalId, store.implied externalId ≠ none → store.pulls.find? ("github", externalId) ≠ none

section Keeping

variable (store : PullStore)

theorem kept_db (kept : Kept store) (db : Db) (coherent : Coherent db) (carried : Carried store.db db)
    (grows : store.db.nextId ≤ db.nextId) : Kept { store with db := db } where
  coherent := coherent
  ids := kept.ids
  bound := fun row member => Nat.lt_of_lt_of_le (kept.bound row member) grows
  ticketed := by
    intro row member
    obtain ⟨ticket, found, org⟩ := kept.ticketed row member
    obtain ⟨next, nextFound, same⟩ := carried row.ticketId ticket found
    exact ⟨next, nextFound, same.trans org⟩
  announced := kept.announced

theorem kept_update (kept : Kept store) (selected : PullRequest → Bool) (change : PullRequest → PullRequest)
    (keptKey : ∀ row, (change row).key = row.key)
    (same : ∀ row, (change row).id = row.id ∧ (change row).orgId = row.orgId ∧ (change row).ticketId = row.ticketId) :
    Kept { store with pulls := store.pulls.update selected change keptKey } where
  coherent := kept.coherent
  ids := by
    intro row member other otherMember ids
    simp only [Table.update, List.mem_map] at member otherMember
    obtain ⟨row, rowMember, rfl⟩ := member
    obtain ⟨other, otherOld, rfl⟩ := otherMember
    have equal : row = other := by
      apply kept.ids row rowMember other otherOld
      split at ids <;> split at ids <;> simpa [same] using ids
    rw [equal]
  bound := by
    intro row member
    simp only [Table.update, List.mem_map] at member
    obtain ⟨row, rowMember, rfl⟩ := member
    have low := kept.bound row rowMember
    split
    · simpa [same] using low
    · exact low
  ticketed := by
    intro row member
    simp only [Table.update, List.mem_map] at member
    obtain ⟨row, rowMember, rfl⟩ := member
    have owned := kept.ticketed row rowMember
    split
    · simpa [same] using owned
    · exact owned
  announced := by
    intro externalId said absent
    rw [Table.find?_update, Option.map_eq_none_iff] at absent
    exact kept.announced externalId said absent

theorem kept_updateState (kept : Kept store) (prId : Uuid) (state : PrState) (orgId : Uuid) :
    Kept (store.updateState prId state orgId) :=
  kept_update store kept _ _ _ fun _ => ⟨rfl, rfl, rfl⟩

theorem kept_upsert (kept : Kept store) (pr : VcsPullRequest) (ticketId orgId : Uuid)
    (ticketed : ∃ ticket, store.db.tickets.find? ticketId = some ticket ∧ ticket.orgId = orgId) :
    Kept (store.upsert pr ticketId orgId).1 := by
  unfold PullStore.upsert
  cases found : store.pulls.find? (pr.pluginId, pr.externalId) with
  | some existing => exact kept_update store kept _ _ _ fun _ => ⟨rfl, rfl, rfl⟩
  | none =>
      let row : PullRequest := { id := store.db.nextId, orgId := orgId, ticketId := ticketId, mirror := pr }
      let db : Db := { store.db with nextId := store.db.nextId + 1 }
      have minted : Kept { store with db := db } := by
        have carried : Carried store.db db := carried_anchors _ _ (anchors_same _ _ rfl)
        have coherent := coherent_tickets store.db _ (store.db.nextId + 1) kept.coherent (Nat.le_succ _) carried
        exact kept_db store kept db coherent carried (Nat.le_succ _)
      cases inserted : store.pulls.insert? row with
      | none => simpa [row, inserted] using minted
      | some grown =>
          obtain ⟨rows, fresh⟩ := store.pulls.insert?_some grown row inserted
          have split (other : PullRequest) (member : other ∈ grown.rows) : other ∈ store.pulls.rows ∨ other = row := by
            rw [rows] at member
            simpa using member
          simp only [row, inserted, Option.getD_some]
          refine { coherent := minted.coherent, ids := ?_, bound := ?_, ticketed := ?_, announced := ?_ }
          · intro left leftMember right rightMember same
            rcases split left leftMember with old | new
            · rcases split right rightMember with earlier | newer
              · exact kept.ids left old right earlier same
              · have low := kept.bound left old
                rw [same, newer] at low
                exact absurd low (Nat.lt_irrefl _)
            · rcases split right rightMember with earlier | newer
              · have low := kept.bound right earlier
                rw [← same, new] at low
                exact absurd low (Nat.lt_irrefl _)
              · rw [new, newer]
          · intro other member
            rcases split other member with old | new
            · exact minted.bound other old
            · rw [new]
              exact Nat.lt_succ_self _
          · intro other member
            rcases split other member with old | new
            · exact kept.ticketed other old
            · rw [new]
              exact ticketed
          · intro externalId said absent
            have stored := kept.announced externalId said
            obtain ⟨pull, present⟩ := Option.ne_none_iff_exists'.mp stored
            rw [Table.find?_insert _ _ _ _ inserted, present] at absent
            cases absent

theorem kept_tickets (kept : Kept store) (ticketId : Uuid) (selected : Ticket → Bool) (change : Ticket → Ticket)
    (keptId : ∀ row, (change row).id = row.id) (org : ∀ row, (change row).orgId = row.orgId) :
    Kept { store with db := store.db.updateTicket ticketId selected change keptId } := by
  have carried := carried_update store.db ticketId selected change keptId org
  have coherent := coherent_tickets store.db _ store.db.nextId kept.coherent (Nat.le_refl _) carried
  exact kept_db store kept _ coherent carried (Nat.le_refl _)

theorem kept_createFromPr (kept : Kept store) (pr : VcsPullRequest) (orgId : Uuid) :
    Kept (store.createFromPr pr orgId).1 := by
  unfold PullStore.createFromPr
  cases store.sources.find? (orgId, "github_pr", pr.externalId) with
  | some winner => exact kept
  | none =>
      let ticket : Ticket :=
        { id := mintTicketId store.db, orgId := orgId, status := .pending, currentRunId := none, prId := none,
          branchName := pr.headBranch, pluginId := pr.pluginId, repoExternalId := pr.repoExternalId }
      have grows : store.db.nextId ≤ ticket.id + 1 := Nat.le_succ_of_le (mintTicketId_above store.db).1
      have carried := carried_insert store.db ticket
      have coherent := coherent_tickets store.db _ (ticket.id + 1) kept.coherent grows carried
      have grown := kept_db store kept _ coherent carried grows
      exact { grown with }

theorem createFromPr_ticketed (pr : VcsPullRequest) (orgId : Uuid) (created : (store.createFromPr pr orgId).2.2 = true) :
    ∃ ticket, (store.createFromPr pr orgId).1.db.tickets.find? (store.createFromPr pr orgId).2.1 = some ticket ∧
      ticket.orgId = orgId := by
  unfold PullStore.createFromPr at created ⊢
  cases found : store.sources.find? (orgId, "github_pr", pr.externalId) with
  | some winner => simp [found] at created
  | none =>
      let ticket : Ticket :=
        { id := mintTicketId store.db, orgId := orgId, status := .pending, currentRunId := none, prId := none,
          branchName := pr.headBranch, pluginId := pr.pluginId, repoExternalId := pr.repoExternalId }
      have fresh : ∀ row ∈ store.db.tickets.rows, row.id ≠ ticket.id := fun row member =>
        Nat.ne_of_lt ((mintTicketId_above store.db).2 row member)
      refine ⟨ticket, ?_, rfl⟩
      obtain ⟨grown, inserted⟩ := store.db.tickets.insert?_fresh ticket fresh
      have absent : store.db.tickets.find? ticket.id = none := (Table.find?_isNone _ _).mpr fresh
      simp only [inserted, Option.getD_some, ticket]
      rw [Table.find?_insert _ _ _ _ inserted, absent]
      simp [ticket]

structure Grown (before after : Db) : Prop where
  coherent : Coherent after
  carried : Carried before after
  grows : before.nextId ≤ after.nextId

theorem startRun_grown (env : Env) (db : Db) (orgId ticketId pipelineId : Uuid) (kickoff : Kickoff)
    (triggeredByUserId : Option Uuid) (coherent : Coherent db)
    (ticketed : ∃ ticket, db.tickets.find? ticketId = some ticket ∧ ticket.orgId = orgId) :
    Ensures (startRun env db orgId ticketId pipelineId kickoff triggeredByUserId) (Grown db) := by
  intro next started
  have stepped := engineStep_stepped db (.startRun env orgId ticketId pipelineId kickoff triggeredByUserId) coherent ticketed
    next started
  have moves : Moves (fun _ => False) db next :=
    startRun_moves env db orgId ticketId pipelineId kickoff triggeredByUserId ticketed next started
  exact ⟨stepped.coherent, moves_carried db next moves, stepped.advances.nextId⟩

theorem startRuns_grown (env : IntakeEnv) (db : Db) (orgId ticketId : Uuid) (pipelineIds : List Uuid) (kickoff : Kickoff)
    (triggeredByUserId : Option Uuid) (coherent : Coherent db)
    (ticketed : ∃ ticket, db.tickets.find? ticketId = some ticket ∧ ticket.orgId = orgId) :
    Grown db (startRuns env db orgId ticketId pipelineIds kickoff triggeredByUserId).1 := by
  unfold startRuns
  generalize 0 = count
  induction pipelineIds generalizing db count with
  | nil => exact ⟨coherent, carried_anchors _ _ (anchors_refl db), Nat.le_refl _⟩
  | cons pipelineId rest ih =>
      rw [List.foldl_cons]
      cases started : startRun env.engine db orgId ticketId pipelineId kickoff triggeredByUserId with
      | error error =>
          simp only
          exact ih db coherent ticketed count
      | ok next =>
          simp only
          have grown := startRun_grown env.engine db orgId ticketId pipelineId kickoff triggeredByUserId coherent ticketed next
            started
          obtain ⟨ticket, found, org⟩ := ticketed
          obtain ⟨later, laterFound, same⟩ := grown.carried ticketId ticket found
          have rest := ih next grown.coherent ⟨later, laterFound, same.trans org⟩ (count + 1)
          exact ⟨rest.coherent, carried_trans _ _ _ grown.carried rest.carried, Nat.le_trans grown.grows rest.grows⟩

theorem kept_startAll (kept : Kept store) (env : IntakeEnv) (orgId ticketId : Uuid) (pipelineIds : List Uuid)
    (intakePointId : String) (pr : VcsPullRequest)
    (ticketed : ∃ ticket, store.db.tickets.find? ticketId = some ticket ∧ ticket.orgId = orgId) :
    Kept (store.startAll env orgId ticketId pipelineIds intakePointId pr).1 := by
  have grown := startRuns_grown env store.db orgId ticketId pipelineIds (pullKickoff intakePointId pr)
    (env.attribution pr.authorLogin orgId) kept.coherent ticketed
  exact kept_db store kept _ grown.coherent grown.carried grown.grows

theorem upsert_tickets (pr : VcsPullRequest) (ticketId orgId : Uuid) :
    (store.upsert pr ticketId orgId).1.db.tickets = store.db.tickets := by
  unfold PullStore.upsert
  cases store.pulls.find? (pr.pluginId, pr.externalId) <;> rfl

theorem kept_prepare (kept : Kept store) (env : IntakeEnv) (orgId : Uuid) (payload : PullPayload) :
    Ensures (store.prepareReviewOrRun env orgId payload) fun done => Kept done.1 := by
  unfold PullStore.prepareReviewOrRun
  cases env.findBindings orgId payload.repoFullName "github:pr_opened" with
  | nil => exact ensures_ok _ _ kept
  | cons pipelineId others =>
      refine ensures_read _ _ _ fun pr _ => ?_
      by_cases fork : pr.isFork = true
      · rw [if_pos fork]
        exact ensures_ok _ _ kept
      · rw [if_neg fork]
        by_cases bot : pr.authorIsBot = true
        · rw [if_pos bot]
          exact ensures_ok _ _ kept
        · rw [if_neg bot]
          have created := kept_createFromPr store kept pr orgId
          have ticketed := createFromPr_ticketed store pr orgId
          rcases same : store.createFromPr pr orgId with ⟨next, ticketId, fresh⟩
          rw [same] at created ticketed
          cases fresh with
          | false => exact ensures_ok _ _ kept
          | true =>
              refine ensures_ok _ _ ?_
              obtain ⟨ticket, found, org⟩ := ticketed rfl
              have mirrored := kept_upsert next created pr ticketId orgId ⟨ticket, found, org⟩
              have bound := kept_tickets _ mirrored ticketId (fun row => row.orgId == orgId && row.prId == none)
                (fun row => { row with prId := some (next.upsert pr ticketId orgId).2 }) (fun _ => rfl) fun _ => rfl
              refine kept_startAll _ bound env orgId ticketId _ _ pr ?_
              have carried := carried_update (next.upsert pr ticketId orgId).1.db ticketId
                (fun row => row.orgId == orgId && row.prId == none)
                (fun row => { row with prId := some (next.upsert pr ticketId orgId).2 }) (fun _ => rfl) fun _ => rfl
              obtain ⟨later, laterFound, same⟩ := carried ticketId ticket (by rw [upsert_tickets]; exact found)
              exact ⟨later, laterFound, same.trans org⟩

theorem getByExternal_some (externalId : String) (orgId : Uuid) (pull : PullRequest)
    (found : store.getByExternal externalId orgId = some pull) :
    store.pulls.find? ("github", externalId) = some pull ∧ pull.orgId = orgId := by
  simpa [PullStore.getByExternal, Option.filter_eq_some_iff] using found

theorem kept_synchronize (kept : Kept store) (env : IntakeEnv) (orgId : Uuid) (payload : PullPayload)
    (externalId : String) : Ensures (store.handleSynchronize env orgId payload externalId) fun done => Kept done.1 := by
  unfold PullStore.handleSynchronize
  cases found : store.getByExternal externalId orgId with
  | none => exact ensures_ok _ _ kept
  | some existing =>
      obtain ⟨stored, own⟩ := getByExternal_some store externalId orgId existing found
      have ticketed := kept.ticketed existing (store.pulls.find?_some _ existing stored).1
      rw [own] at ticketed
      refine ensures_read _ _ _ fun fresh _ => ?_
      have mirrored := kept_upsert store kept fresh existing.ticketId orgId ticketed
      cases env.findBindings orgId payload.repoFullName "github:pr_commits" with
      | nil => exact ensures_ok _ _ mirrored
      | cons pipelineId others =>
          refine ensures_ok _ _ (kept_startAll _ mirrored env orgId existing.ticketId _ _ fresh ?_)
          rw [upsert_tickets]
          exact ticketed

end Keeping

end Yaaos.Intake
