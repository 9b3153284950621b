import Yaaos.Pipelines.Cancelling
import Yaaos.Pipelines.FindingLedger
import Yaaos.Pipelines.Transactions
import Yaaos.Pipelines.Verdicts

set_option autoImplicit false

namespace Yaaos.Pipelines

open Yaaos.Base

def Foreign (run : PipelineRun) (finding : Finding) : Prop :=
  finding.ticketId ≠ run.ticketId ∨ finding.orgId ≠ run.orgId

def OwnOnly (session after : Session) : Prop :=
  ∀ finding, Foreign session.run finding → (finding ∈ after.db.findings.rows ↔ finding ∈ session.db.findings.rows)

def FindingStatus.repeated (status : FindingStatus) : VerdictStatus → Bool
  | .fixed => status == .resolved
  | .stillPresent => false
  | .userOverrode => status == .dismissed

def Spared (session : Session) (verdicts : List PriorFindingVerdict) : Prop :=
  ∀ finding ∈ session.db.findings.rows, Foreign session.run finding →
    ∀ said ∈ assertions finding.id verdicts, finding.status.repeated said = true

variable (db : Db)

theorem attemptPromotion_minted (run : PipelineRun) (minted : db.Minted) : (attemptPromotion db run).Minted := by
  unfold attemptPromotion
  split
  · exact minted
  · split
    · exact minted
    · exact minted_later db _ rfl (Nat.le_refl _) minted

theorem promoteOldestQueued_minted (ticketId : Uuid) (minted : db.Minted) :
    (promoteOldestQueued db ticketId).Minted := by
  unfold promoteOldestQueued
  cases oldestQueued db ticketId with
  | none => exact minted
  | some candidate => exact attemptPromotion_minted db candidate minted

theorem hooks_minted (hooks : List String) (db : Db) (orgId ticketId : Uuid) (minted : db.Minted) :
    (hooks.foldl (fun db hook => db.enqueue (.runTerminalHook hook orgId ticketId)) db).Minted := by
  induction hooks generalizing db with
  | nil => exact minted
  | cons hook rest ih => exact ih _ (minted_later db _ rfl (Nat.le_refl _) minted)

theorem enterTerminal_minted (env : Env) (session : Session) (target : TerminalState) (reason : Option String)
    (minted : session.db.Minted) : (enterTerminal env session target reason).db.Minted := by
  rw [enterTerminal]
  apply promoteOldestQueued_minted
  apply hooks_minted
  exact minted_later session.db _ rfl (Nat.le_refl _) minted

theorem insertRun_minted (run : PipelineRun) (minted : db.Minted) : (insertRun db run).Minted := by
  rw [insertRun]
  cases db.runs.insert? run with
  | none => exact minted
  | some table =>
      apply attemptPromotion_minted
      exact minted_later db _ rfl (Nat.le_succ _) minted

theorem transacts_minted (db after : Db) (label : Label) (transacts : Transacts db label after) (minted : db.Minted) :
    after.Minted := by
  cases transacts with
  | rests _ _ orders nextId runs workspaceIds bound kept => exact kept minted
  | inserts _ run => exact insertRun_minted db run minted
  | saves => exact minted
  | materialises event command _ member named provision succeeded orders nextId runs workspaceIds bound kept =>
      exact kept minted
  | concludes _ env opened run next last subject opens concludes =>
      have start : opened.Minted := minted_later db opened opens.findings (Nat.le_of_eq opens.nextId.symm) minted
      have saved (middle : Db) (done : middle.Minted) : (middle.saveRun last.run).Minted := done
      cases concludes with
      | works issued => exact saved last.db ((issued_fixed _ _ issued).minted start)
      | ends ended target reason issued same =>
          have closed := enterTerminal_minted env ended target reason ((issued_fixed _ _ issued).minted start)
          rw [← same] at closed
          exact saved last.db closed

theorem reachable_minted (reachable : Reachable runEngine db) : db.Minted := by
  have inductive_ : Inductive runEngine fun state => Reachable runEngine state ∧ state.Minted := by
    constructor
    · intro start fresh
      refine ⟨⟨start, [], fresh, .nil start⟩, ?_⟩
      intro finding member
      rw [fresh.findings] at member
      cases member
    · intro state label next holds allowed taken
      refine ⟨reachable_step runEngine state next label holds.1 allowed taken, ?_⟩
      exact transacts_minted state next label
        (engineStep_transacts state label (reachable_coherent state holds.1) next taken) holds.2
  exact (reachable_invariant runEngine _ inductive_ db reachable).2

theorem findingSpecs_fresh (session : Session) (findings : List SkillReviewFinding) :
    ∀ spec ∈ (findingSpecs session findings).2, session.db.nextId ≤ spec.id := by
  induction findings generalizing session with
  | nil => exact fun _ => nofun
  | cons finding rest ih =>
      intro spec member
      rcases List.mem_cons.mp member with first | later
      · rw [first]
      · exact Nat.le_trans (Nat.le_succ session.db.nextId) (ih session.mint spec later)

section Recording

variable (run : PipelineRun)

def Elsewhere (before after : Table Finding Uuid Finding.id) : Prop :=
  ∀ finding, Foreign run finding → (finding ∈ after.rows ↔ finding ∈ before.rows)

theorem elsewhere_refl (table : Table Finding Uuid Finding.id) : Elsewhere run table table := fun _ _ => Iff.rfl

theorem elsewhere_trans (first middle last : Table Finding Uuid Finding.id) (left : Elsewhere run first middle)
    (right : Elsewhere run middle last) : Elsewhere run first last :=
  fun finding foreign => (right finding foreign).trans (left finding foreign)

theorem elsewhere_update (table : Table Finding Uuid Finding.id) (selected : Finding → Bool) (change : Finding → Finding)
    (kept : ∀ row, (change row).id = row.id)
    (own : ∀ row ∈ table.rows, selected row = true → ¬ Foreign run row ∧ ¬ Foreign run (change row)) :
    Elsewhere run table (table.update selected change kept) := by
  intro finding foreign
  constructor
  · intro member
    obtain ⟨row, stored, same⟩ := List.mem_map.mp member
    by_cases hit : selected row = true
    · rw [if_pos hit] at same
      rw [← same] at foreign
      exact absurd foreign (own row stored hit).2
    · rw [if_neg hit] at same
      rw [← same]
      exact stored
  · intro member
    apply List.mem_map.mpr
    exact ⟨finding, member, if_neg fun hit => (own finding member hit).1 foreign⟩

theorem elsewhere_insert (table after : Table Finding Uuid Finding.id) (row : Finding) (own : ¬ Foreign run row)
    (inserted : table.insert? row = some after) : Elsewhere run table after := by
  intro finding foreign
  rw [(Table.insert?_some table after row inserted).1, List.mem_append, List.mem_singleton]
  constructor
  · rintro (old | new)
    · exact old
    · rw [new] at foreign
      exact absurd foreign own
  · exact .inl

theorem recordFindings_elsewhere (session : Session) (stageExec : StageExecution) (iteration first : Nat)
    (specs : List FindingSpec)
    (own : ∀ row ∈ session.db.findings.rows, ∀ spec ∈ specs, row.id = spec.id → ¬ Foreign session.run row) :
    Elsewhere session.run session.db.findings (recordFindings session stageExec iteration first specs).1.db.findings := by
  induction specs generalizing session first with
  | nil => exact elsewhere_refl session.run _
  | cons spec rest ih =>
      rw [recordFindings]
      cases found : session.db.findings.find? spec.id with
      | some existing =>
          let updated := session.db.findings.update (fun row => row.id == spec.id) (Finding.refresh spec) fun _ => rfl
          have hit (row : Finding) (member : row ∈ session.db.findings.rows) (chosen : (row.id == spec.id) = true) :
              ¬ Foreign session.run row :=
            own row member spec List.mem_cons_self (beq_iff_eq.mp chosen)
          have refreshed : Elsewhere session.run session.db.findings updated := by
            apply elsewhere_update
            exact fun row member chosen => ⟨hit row member chosen, hit row member chosen⟩
          apply elsewhere_trans session.run _ updated _ refreshed
          apply ih { session with db := { session.db with findings := updated } } first
          intro row member other listed same
          obtain ⟨old, stored, changed⟩ := List.mem_map.mp member
          by_cases chosen : (old.id == spec.id) = true
          · rw [if_pos chosen] at changed
            rw [← changed]
            exact hit old stored chosen
          · rw [if_neg chosen] at changed
            rw [← changed] at same ⊢
            exact own old stored other (List.mem_cons_of_mem _ listed) same
      | none =>
          let row : Finding :=
            { id := spec.id, orgId := session.run.orgId, ticketId := session.run.ticketId,
              sourceRunId := session.run.id, sourceStageName := stageExec.stageName,
              sourceStageExecutionId := stageExec.id, firstSeenIteration := iteration,
              displayPrefix := spec.displayPrefix, displayId := first, severity := spec.severity,
              body := spec.body, codeFile := spec.codeFile, codeLine := spec.codeLine,
              artifactSection := spec.artifactSection, defectInArtifact := spec.defectInArtifact,
              status := .opened, statusEvents := [] }
          have mine : ¬ Foreign session.run row := by
            rintro (ticket | org)
            · exact ticket rfl
            · exact org rfl
          obtain ⟨inserted, stored⟩ :=
            Table.insert?_fresh session.db.findings row ((Table.find?_isNone session.db.findings spec.id).mp found)
          dsimp only
          rw [stored]
          apply elsewhere_trans session.run _ inserted _ (elsewhere_insert session.run _ inserted row mine stored)
          apply ih { session with db := { session.db with findings := inserted } } (first + 1)
          intro old member other listed same
          change old ∈ inserted.rows at member
          rw [(Table.insert?_some _ inserted row stored).1] at member
          rcases List.mem_append.mp member with earlier | new
          · exact own old earlier other (List.mem_cons_of_mem _ listed) same
          · rw [List.mem_singleton.mp new]
            exact mine

end Recording

section Applying

variable (session : Session) (row : StageExecution) (now : Nat) (ownStatus : Uuid → Option FindingStatus)

inductive Takes (db : Db) (verdict : PriorFindingVerdict) : Db → Prop where
  | silent (quiet : verdict.status = none) : Takes db verdict db
  | skips (said : VerdictStatus) (finding : Finding) (asserts : verdict.status = some said)
      (member : finding ∈ db.findings.rows) (named : finding.id = verdict.findingId)
      (there : finding.status = said.outcome)
      (known : said = .stillPresent → (ownStatus verdict.findingId).getD .opened = .resolved) : Takes db verdict db
  | marks (said : VerdictStatus) (finding : Finding) (event : FindingStatusEvent) (asserts : verdict.status = some said)
      (member : finding ∈ db.findings.rows) (named : finding.id = verdict.findingId)
      (apart : said = .stillPresent ∨ finding.status ≠ said.outcome) :
      Takes db verdict (appendEvent db verdict.findingId said.outcome event)

theorem applyVerdict_cases (verdict : PriorFindingVerdict) (db : Db) :
    Ensures (applyVerdict session row now ownStatus verdict db) (Takes ownStatus db verdict) := by
  intro after done
  rw [applyVerdict] at done
  have transitioned (said : VerdictStatus) (event : FindingStatusEvent) (asserts : verdict.status = some said)
      (known : said = .stillPresent → (ownStatus verdict.findingId).getD .opened = .resolved)
      (taken : transitionFinding said.outcome db verdict.findingId event = .ok after) : Takes ownStatus db verdict after := by
    obtain ⟨finding, member, named, settled⟩ := transitionFinding_cases said.outcome db after verdict.findingId event taken
    rcases settled with ⟨there, rfl⟩ | ⟨apart, _, rfl⟩
    · exact .skips said finding asserts member named there known
    · exact .marks said finding event asserts member named (.inr apart)
  cases asserts : verdict.status with
  | none =>
      rw [asserts] at done
      cases done
      exact .silent asserts
  | some said =>
      rw [asserts] at done
      cases said with
      | fixed => exact transitioned .fixed _ asserts (by intros; contradiction) done
      | userOverrode => exact transitioned .userOverrode _ asserts (by intros; contradiction) done
      | stillPresent =>
          dsimp only at done
          by_cases known : (ownStatus verdict.findingId).getD .opened = .resolved
          · rw [if_pos known] at done
            exact transitioned .stillPresent _ asserts (fun _ => known) done
          · rw [if_neg known] at done
            obtain ⟨finding, member, named, _, rfl⟩ := reflagFinding_cases db after verdict.findingId _ done
            exact .marks .stillPresent finding _ asserts member named (.inl rfl)

def Grown (finding next : Finding) : Prop :=
  next.stamp = finding.stamp ∧ finding.statusEvents.length ≤ next.statusEvents.length

theorem appendEvent_rewrites (findingId : Uuid) (status : FindingStatus) (event : FindingStatusEvent) :
    Table.Rewrites Grown db.findings (appendEvent db findingId status event).findings := by
  refine Table.rewrites_update Grown db.findings (fun finding => finding.id == findingId)
    (fun finding => { finding with status := status, statusEvents := finding.statusEvents ++ [event] }) (fun _ => rfl)
    ?_ ?_
  · exact fun finding _ _ => ⟨rfl, Nat.le_refl _⟩
  · intro finding _ _
    refine ⟨rfl, ?_⟩
    simp

theorem takes_rewrites (verdict : PriorFindingVerdict) (db after : Db) (takes : Takes ownStatus db verdict after) :
    Table.Rewrites Grown db.findings after.findings := by
  have same : Table.Rewrites Grown db.findings db.findings :=
    Table.rewrites_refl Grown db.findings fun finding _ => ⟨rfl, Nat.le_refl _⟩
  cases takes with
  | silent => exact same
  | skips => exact same
  | marks said finding event => exact appendEvent_rewrites db verdict.findingId said.outcome event

theorem applyVerdicts_rewrites (verdicts : List PriorFindingVerdict) (db : Db) :
    Ensures (applyVerdicts session row now ownStatus verdicts db) fun after =>
      Table.Rewrites Grown db.findings after.findings := by
  induction verdicts generalizing db with
  | nil => exact ensures_ok _ _ (Table.rewrites_refl Grown db.findings fun finding _ => ⟨rfl, Nat.le_refl _⟩)
  | cons verdict rest ih =>
      refine ensures_bind _ _ _ _ (applyVerdict_cases session row now ownStatus verdict db) fun middle takes => ?_
      refine ensures_mono _ _ _ (ih middle) fun after later => ?_
      apply Table.rewrites_trans Grown Grown Grown db.findings middle.findings after.findings _
        (takes_rewrites ownStatus verdict db middle takes) later
      intro finding _ next last left _ right
      exact ⟨right.1.trans left.1, Nat.le_trans left.2 right.2⟩

theorem grown_apart (before after : Db) (finding next : Finding) (member : next ∈ before.findings.rows)
    (id : next.id = finding.id) (longer : finding.statusEvents.length < next.statusEvents.length)
    (rewrites : Table.Rewrites Grown before.findings after.findings) : finding ∉ after.findings.rows := by
  intro still
  obtain ⟨last, lastMember, stamp, events⟩ := Table.rewrites_forward Grown _ _ rewrites next member
  have lastId : last.id = next.id := congrArg FindingStamp.id stamp
  have same := Table.eq_of_key after.findings last finding lastMember still (lastId.trans id)
  rw [same] at events
  omega

theorem applyVerdicts_spares (finding : Finding) (verdicts : List PriorFindingVerdict) (db : Db)
    (member : finding ∈ db.findings.rows)
    (knows : (ownStatus finding.id).getD .opened = .resolved → finding.status = .resolved) :
    Ensures (applyVerdicts session row now ownStatus verdicts db) fun after =>
      (finding ∈ after.findings.rows ↔
        ∀ said ∈ assertions finding.id verdicts, finding.status.repeated said = true) := by
  induction verdicts generalizing db with
  | nil => exact ensures_ok _ _ ⟨fun _ _ => nofun, fun _ => member⟩
  | cons verdict rest ih =>
      refine ensures_bind _ _ _ _ (applyVerdict_cases session row now ownStatus verdict db) fun middle takes => ?_
      rw [assertions_cons]
      have passed (listed : finding ∈ middle.findings.rows) (other : verdict.findingId ≠ finding.id) :
          Ensures (applyVerdicts session row now ownStatus rest middle) fun after =>
            (finding ∈ after.findings.rows ↔
              ∀ said ∈ (if verdict.findingId = finding.id then verdict.status.toList else []) ++ assertions finding.id rest,
                finding.status.repeated said = true) := by
        rw [if_neg other]
        exact ih middle listed
      cases takes with
      | silent quiet =>
          rw [quiet]
          have nothing : (if verdict.findingId = finding.id then (none : Option VerdictStatus).toList else []) = [] := by
            split
            · rfl
            · rfl
          rw [nothing]
          exact ih db member
      | skips said stored asserts storedMember named there known =>
          by_cases own : verdict.findingId = finding.id
          · have same : stored = finding := Table.eq_of_key db.findings stored finding storedMember member (named.trans own)
            rw [same] at there
            have repeats : finding.status.repeated said = true := by
              cases said with
              | fixed => rw [there]; rfl
              | userOverrode => rw [there]; rfl
              | stillPresent =>
                  have resolved := knows (own ▸ known rfl)
                  rw [there] at resolved
                  cases resolved
            rw [if_pos own, asserts]
            refine ensures_mono _ _ _ (ih db member) fun after rest => rest.trans ?_
            simp [repeats]
          · exact passed member own
      | marks said stored event asserts storedMember named apart =>
          by_cases own : verdict.findingId = finding.id
          · have same : stored = finding := Table.eq_of_key db.findings stored finding storedMember member (named.trans own)
            rw [same] at apart
            have new : finding.status.repeated said ≠ true := by
              rcases apart with sighted | different
              · rw [sighted]
                exact nofun
              · cases said with
                | fixed => simpa [FindingStatus.repeated, VerdictStatus.outcome] using different
                | userOverrode => simpa [FindingStatus.repeated, VerdictStatus.outcome] using different
                | stillPresent => exact nofun
            refine ensures_mono _ _ _ (applyVerdicts_rewrites session row now ownStatus rest _) fun after rewrites => ?_
            rw [if_pos own, asserts]
            constructor
            · intro still
              let marked : Finding :=
                { finding with status := said.outcome, statusEvents := finding.statusEvents ++ [event] }
              have listed : marked ∈ (appendEvent db verdict.findingId said.outcome event).findings.rows :=
                List.mem_map.mpr ⟨finding, member, if_pos (beq_iff_eq.mpr own.symm)⟩
              exact absurd still (grown_apart _ after finding marked listed rfl (by simp [marked]) rewrites)
            · intro repeats
              exact absurd (repeats said (by simp)) new
          · refine passed (List.mem_map.mpr ⟨finding, member, if_neg ?_⟩) own
            exact fun hit => own (beq_iff_eq.mp hit).symm

end Applying

theorem recorded_elsewhere (session : Session) (row : StageExecution) (findings : List SkillReviewFinding) (iteration : Nat)
    (minted : session.db.Minted) :
    let started := (findingSpecs session findings).1
    Elsewhere session.run session.db.findings (recordFindings started row iteration
      (latestDisplayId started.db session.run.ticketId + 1) (findingSpecs session findings).2).1.db.findings := by
  intro started
  have run : started.run = session.run := (findingSpecs_only session findings).1
  have stored : started.db.findings = session.db.findings := findingSpecs_findings session findings
  rw [← run, ← stored]
  apply recordFindings_elsewhere
  rw [stored]
  intro finding member spec listed same
  have known := minted finding member
  have fresh := findingSpecs_fresh session findings spec listed
  rw [same] at known
  exact absurd known (Nat.not_lt_of_le fresh)

theorem ownStatus_knows (row : StageExecution) (finding : Finding) (member : finding ∈ db.findings.rows)
    (known : (ownStatusById db row finding.id).getD .opened = .resolved) : finding.status = .resolved := by
  rw [ownStatusById_row db row finding member] at known
  split at known
  · exact known
  · cases known

-- In a state that the engine reaches, an accepted return leaves the findings of the
-- other tickets and orgs alone if and only if its verdicts spare them.
theorem review_own_only_iff (env : Env) (db : Db) (position : Nat) (run : PipelineRun) (row : StageExecution)
    (reviewReturn : SkillReviewReturn) (iteration : Nat) (reachable : Reachable runEngine db) :
    Ensures (recordAndApplyReview env (handling db position run) row reviewReturn iteration) fun reviewed =>
      (OwnOnly (handling db position run) reviewed.1 ↔
        Spared (handling db position run) reviewReturn.priorFindingVerdicts) := by
  have minted : (handling db position run).db.Minted := reachable_minted db reachable
  have elsewhere := recorded_elsewhere (handling db position run) row reviewReturn.newFindings iteration minted
  rw [recordAndApplyReview]
  refine ensures_read _ _ _ fun after applied => ensures_ok _ _ ?_
  let recorded := recordFindings (findingSpecs (handling db position run) reviewReturn.newFindings).1 row iteration
    (latestDisplayId (findingSpecs (handling db position run) reviewReturn.newFindings).1.db run.ticketId + 1)
    (findingSpecs (handling db position run) reviewReturn.newFindings).2
  have rewrites := applyVerdicts_rewrites _ row env.now _ _ _ after applied
  have spares (finding : Finding) (member : finding ∈ recorded.1.db.findings.rows) :
      finding ∈ after.findings.rows ↔
        ∀ said ∈ assertions finding.id reviewReturn.priorFindingVerdicts, finding.status.repeated said = true :=
    applyVerdicts_spares _ row env.now _ finding _ _ member (ownStatus_knows recorded.1.db row finding member) after applied
  constructor
  · intro only finding member foreign
    exact (spares finding ((elsewhere finding foreign).mpr member)).mp ((only finding foreign).mpr member)
  · intro spared finding foreign
    have kept (other : Finding) (otherForeign : Foreign run other) (member : other ∈ db.findings.rows) :
        other ∈ after.findings.rows :=
      (spares other ((elsewhere other otherForeign).mpr member)).mpr (spared other member otherForeign)
    constructor
    · intro member
      obtain ⟨old, oldMember, stamp, _⟩ := Table.rewrites_backward Grown _ _ rewrites finding member
      have ticketId : finding.ticketId = old.ticketId := congrArg FindingStamp.ticketId stamp
      have orgId : finding.orgId = old.orgId := congrArg FindingStamp.orgId stamp
      have oldForeign : Foreign run old := by
        rw [Foreign, ← ticketId, ← orgId]
        exact foreign
      have stored := (elsewhere old oldForeign).mp oldMember
      have equal := Table.eq_of_key after.findings finding old member (kept old oldForeign stored)
        (congrArg FindingStamp.id stamp)
      rw [equal]
      exact stored
    · exact kept finding foreign

def auditStage : ReviewSkillStage :=
  { name := "audit", skillName := "audit", codingAgentPluginId := "claude_code", model := "opus", effort := "high",
    contextStages := none, wallclockSeconds := 600, boundary := (sampleSkill none .alwaysProceed).boundary }

theorem confidence_bounded : 95 ≤ 100 := by decide

def auditReturn (verdicts : List PriorFindingVerdict) : SkillReviewReturn :=
  { newFindings :=
      [{ category := "sec", severity := .blocker, body := "body", codeFile := none, codeLine := none,
         artifactSection := none, defectInArtifact := none }],
    priorFindingVerdicts := verdicts, confidence := 95, summary := "done", bounded := confidence_bounded }

def auditEnv : Env :=
  { sampleEnv { stages := [.review auditStage], nonempty := by simp, distinct := List.nodup_singleton "audit" } with
    reviewReturnOf := fun _ => .ok (auditReturn []) }

def auditTurn : Label := .deliver auditEnv 0

def auditSteps : List Label :=
  [.createTicket sampleTicket, .createTicket { sampleTicket with id := 4, orgId := 5 },
    .startRun auditEnv 1 2 3 sampleKickoff none, auditTurn, auditTurn, .terminalEvent (sampleEvent 13 "success" []),
    auditTurn, auditTurn, .terminalEvent (sampleEvent 15 "success" []), auditTurn, auditTurn,
    .startRun auditEnv 5 4 3 sampleKickoff none, auditTurn, auditTurn, .terminalEvent (sampleEvent 22 "success" []),
    auditTurn, auditTurn, .terminalEvent (sampleEvent 24 "success" [])]

def audited : Db := runEngine.after (.empty 10) auditSteps

theorem audited_reachable : Reachable runEngine audited := by
  refine reachable_path runEngine _ _ auditSteps ⟨.empty 10, [], ⟨rfl, rfl, rfl, rfl, rfl, rfl⟩, .nil _⟩ ?_
  apply commits_path
  exact ⟨trivial, rfl, trivial, rfl, ⟨_, rfl, rfl⟩, rfl, trivial, rfl, trivial, rfl, trivial, rfl, trivial, rfl, trivial,
    rfl, trivial, rfl, trivial, rfl, trivial, rfl, ⟨_, rfl, rfl⟩, rfl, trivial, rfl, trivial, rfl, trivial, rfl, trivial,
    rfl, trivial, rfl, trivial, rfl, trivial⟩

def auditRun : PipelineRun := (audited.runs.find? 19).get rfl

def auditPass : StageExecution := (runningExecution auditRun).get rfl

def auditVerdict (status : Option VerdictStatus) : List PriorFindingVerdict :=
  [{ findingId := 16, status := status, reply := none }]

-- The finding of the other org is resolved by the first review, and said to be fixed once more by a later one.
def auditAgain : List Label :=
  [.deliver { auditEnv with reviewReturnOf := fun _ => .ok (auditReturn (auditVerdict (some .fixed))) } 0, auditTurn,
    .createTicket { sampleTicket with id := 5, orgId := 5 }, .startRun auditEnv 5 5 3 sampleKickoff none, auditTurn,
    auditTurn, .terminalEvent (sampleEvent 31 "success" []), auditTurn, auditTurn,
    .terminalEvent (sampleEvent 33 "success" [])]

def auditedAgain : Db := runEngine.after audited auditAgain

theorem auditedAgain_reachable : Reachable runEngine auditedAgain := by
  refine reachable_path runEngine _ _ auditAgain audited_reachable ?_
  apply commits_path
  exact ⟨trivial, rfl, trivial, rfl, trivial, rfl, ⟨_, rfl, rfl⟩, rfl, trivial, rfl, trivial, rfl, trivial, rfl, trivial, rfl,
    trivial, rfl, trivial, rfl, trivial⟩

def laterRun : PipelineRun := (auditedAgain.runs.find? 28).get rfl

def laterPass : StageExecution := (runningExecution laterRun).get rfl

theorem repeated_fix_spares :
    ∃ reviewed, recordAndApplyReview auditEnv (handling auditedAgain 0 laterRun) laterPass
        (auditReturn (auditVerdict (some .fixed))) 1 = .ok reviewed ∧
      OwnOnly (handling auditedAgain 0 laterRun) reviewed.1 := by
  have done : (recordAndApplyReview auditEnv (handling auditedAgain 0 laterRun) laterPass
      (auditReturn (auditVerdict (some .fixed))) 1).isOk = true := by decide +kernel
  cases worked : recordAndApplyReview auditEnv (handling auditedAgain 0 laterRun) laterPass
      (auditReturn (auditVerdict (some .fixed))) 1 with
  | error error =>
      rw [worked] at done
      cases done
  | ok reviewed =>
      refine ⟨reviewed, rfl, (review_own_only_iff auditEnv auditedAgain 0 laterRun laterPass
        (auditReturn (auditVerdict (some .fixed))) 1 auditedAgain_reachable reviewed worked).mpr ?_⟩
      intro finding member _ said asserted
      change said ∈ assertions finding.id (auditVerdict (some .fixed)) at asserted
      have stored := Table.find?_of_mem auditedAgain.findings finding member
      by_cases named : 16 = finding.id
      · have status : (auditedAgain.findings.find? 16).map Finding.status = some .resolved := by decide +kernel
        rw [named, stored] at status
        have fixed : said = .fixed := by simpa [assertions, auditVerdict, named] using asserted
        rw [Option.some.inj status, fixed]
        rfl
      · simp [assertions, auditVerdict, named] at asserted

def auditFinding : Finding := (audited.findings.find? 16).get rfl

-- The finding of the other org is resolved.
theorem verdict_crosses :
    ¬ ∀ env db position run row reviewReturn iteration, Reachable runEngine db → run ∈ db.runs.rows →
      Ensures (recordAndApplyReview env (handling db position run) row reviewReturn iteration) fun reviewed =>
        OwnOnly (handling db position run) reviewed.1 := by
  intro claimed
  have listed : auditRun ∈ audited.runs.rows := (Table.find?_some _ 19 auditRun (Option.some_get _).symm).1
  obtain ⟨reviewed, done, resolved⟩ : ∃ reviewed, recordAndApplyReview auditEnv (handling audited 0 auditRun) auditPass
      (auditReturn (auditVerdict (some .fixed))) 1 = .ok reviewed ∧
      (reviewed.1.db.findings.find? 16).map Finding.status = some .resolved := ⟨_, rfl, rfl⟩
  have stored : auditFinding ∈ audited.findings.rows := (Table.find?_some _ 16 auditFinding (Option.some_get _).symm).1
  have only := claimed auditEnv audited 0 auditRun auditPass (auditReturn (auditVerdict (some .fixed))) 1 audited_reachable
    listed reviewed done
  have still := (only auditFinding (.inl (by decide))).mpr stored
  have found : reviewed.1.db.findings.find? 16 = some auditFinding := Table.find?_eq _ auditFinding 16 still rfl
  rw [found] at resolved
  cases resolved

end Yaaos.Pipelines
