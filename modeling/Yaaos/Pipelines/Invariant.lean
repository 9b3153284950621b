import Yaaos.Pipelines.Committed

set_option autoImplicit false

namespace Yaaos.Pipelines

open Yaaos.Base

variable (db : Db)

theorem open_answered (run : PipelineRun) (pause next : RunPause) (coherent : Coherent db)
    (member : run ∈ db.runs.rows) (paused : pause ∈ run.pauses) (opened : pause.resolvedAt = none)
    (same : next.id = pause.id) (resolved : next.resolvedAt ≠ none) :
    run.state = .paused ∧
      ∃ row rest, Answered ⟨db, run⟩ (({ db := db, run := run } : Session).putPause next) row rest ∧
        pause.stageExecutionId = row.id := by
  have stands : Stands (db.messagesFor run.id) (workspaceOf db run) run := coherent.stands run member
  cases stands with
  | queued state rows pauses => rw [pauses] at paused; cases paused
  | routing args state idle => exact absurd opened (idle.closed pause paused)
  | starting index stage state idle => exact absurd opened (idle.closed pause paused)
  | parked command row rest state pending closed => exact absurd opened (closed pause paused)
  | paused row rest head others state unparked quiet rows kind status pauses first names closed silent phase unclaimed
      present =>
      rw [pauses] at paused
      have isHead := open_pause head pause others paused opened closed
      rw [isHead] at same
      refine ⟨state, row, rest, ?_, by rw [isHead]; exact names⟩
      exact answered_put ⟨db, run⟩ next row rest head others (coherent.sound run member) unparked quiet rows kind status
        pauses closed silent phase unclaimed present same resolved
  | ended state idle => exact absurd opened (idle.closed pause paused)

theorem resolving_answered (pauseId : Uuid) (resolution : PauseResolution) (run : PipelineRun)
    (pause closed : RunPause) (coherent : Coherent db)
    (resolving : Resolving db pauseId resolution run pause closed) :
    run.state = .paused ∧
      ∃ row rest, Answered ⟨db, run⟩ (({ db := db, run := run } : Session).putPause closed) row rest ∧
        pause.stageExecutionId = row.id :=
  open_answered db run pause closed coherent resolving.member resolving.listed resolving.opened resolving.id
    resolving.resolved

theorem resolvePause_stepped (env : Env) (db : Db) (orgId pauseId : Uuid) (resolution : PauseResolution) (actor : Actor)
    (coherent : Coherent db) :
    Ensures (resolvePause env db orgId pauseId resolution actor)
      (Stepped ((findPause db pauseId).map fun found => found.1.id) db) := by
  intro next taken
  obtain ⟨run, pause, closed, last, resolving, done, same⟩ :=
    resolvePause_resolves env db orgId pauseId resolution actor next taken
  obtain ⟨_, row, rest, answered, names⟩ := resolving_answered db pauseId resolution run pause closed coherent resolving
  rw [resolving.found, Option.map_some, same]
  have reached := resolveWith_reaches env _ _ pause resolution row rest answered names last done
  have committed := commit_reaches env db run last (coherent_opened db run.id coherent) resolving.member reached
  exact ⟨committed.coherent, committed.advances⟩

theorem stands_cancelRequested (messages : List Message) (workspace : Option Workspace) (run : PipelineRun)
    (requested : Bool) (stands : Stands messages workspace run) :
    Stands messages workspace { run with cancelRequested := requested } := by
  cases stands with
  | queued state rows pauses unparked silent unprovisioned phase start =>
      exact .queued state rows pauses unparked silent unprovisioned phase start
  | routing args state idle driven routes ready =>
      refine .routing args state ⟨idle.unparked, idle.quiet, idle.closed⟩ driven ?_
        ⟨ready.phase, ready.unclaimed, ready.provisioned⟩
      cases routes with
      | bootstrap rows start => exact .bootstrap rows start
      | settled row rest rows kind status => exact .settled row rest rows kind status
      | failed row rest reason rows kind status failureReason =>
          exact .failed row rest reason rows kind status failureReason
  | starting index stage state idle driven current found phase unclaimed provisioned =>
      exact .starting index stage state ⟨idle.unparked, idle.quiet, idle.closed⟩ driven current found phase unclaimed
        provisioned
  | parked command row rest state pending closed rows active quiet silent parkedOn =>
      refine .parked command row rest state pending closed rows active quiet silent ?_
      cases parkedOn with
      | provision index stage kind named phase current found works claimed requested =>
          exact .provision index stage kind named phase current found works claimed requested
      | cleanup kind named phase => exact .cleanup kind named phase
      | refresh index stage kind named phase current found claimed present =>
          exact .refresh index stage kind named phase current found claimed present
      | stage kind phase current claimed present => exact .stage kind phase current claimed present
  | paused row rest pause others state unparked quiet rows kind status pauses opened names closed silent phase unclaimed
      present =>
      exact .paused row rest pause others state unparked quiet rows kind status pauses opened names closed silent phase
        unclaimed present
  | ended state idle silent => exact .ended state ⟨idle.unparked, idle.quiet, idle.closed⟩ silent

theorem queued_withdrawn (messages : List Message) (workspace : Option Workspace) (run : PipelineRun) (now : Nat)
    (queued : run.state = .queued) (stands : Stands messages workspace run) :
    Stands messages workspace { run with state := .cancelled, completedAt := some now } := by
  have unbegun := stands_unbegun messages workspace run stands queued
  have idle := unbegun_idle messages run unbegun
  exact .ended rfl ⟨idle.unparked, idle.quiet, idle.closed⟩ unbegun.silent

theorem requestCancel_stepped (env : Env) (db : Db) (orgId runId : Uuid) (coherent : Coherent db) :
    Ensures (requestCancel env db orgId runId) (Stepped (some runId) db) := by
  intro next taken
  have committed (run : PipelineRun) (member : run ∈ db.runs.rows) (named : run.id = runId) (after : Session)
      (reaches : Reaches env ⟨db, run⟩ after) : Stepped (some runId) db after.commit := by
    rw [← named]
    have done := commit_reaches env db run after (coherent_opened db run.id coherent) member reaches
    exact ⟨done.coherent, done.advances⟩
  cases requestCancel_cancels env db orgId runId next taken with
  | queued run member named queued =>
      refine committed run member named _ (.settled (carries_run ⟨db, run⟩ _ rfl rfl rfl rfl rfl rfl)
        (sound_congr db run _ rfl rfl rfl rfl rfl rfl (coherent.sound run member)) ?_)
      exact queued_withdrawn _ _ run env.now queued (coherent.stands run member)
  | running run member named state =>
      refine committed run member named _ (.settled (carries_run ⟨db, run⟩ _ rfl rfl rfl rfl rfl rfl)
        (sound_congr db run _ rfl rfl rfl rfl rfl rfl (coherent.sound run member)) ?_)
      exact stands_cancelRequested _ _ run true (coherent.stands run member)
  | paused run pause last member named state listed opened done =>
      obtain ⟨_, row, rest, answered, _⟩ := open_answered db run pause { pause with resolvedAt := some env.now }
        coherent member listed opened rfl (by intro same; cases same)
      exact committed run member named last
        (finishOrCleanup_reaches env _ _ _ _ (answered_running _ _ row rest true answered) last done)

theorem insertRun_stepped (orgId ticketId : Uuid) (pipelineId : Option Uuid) (flattened : FlattenedDefinition)
    (kickoff : Kickoff) (current : Option Nat) (triggeredByUserId : Option Uuid) (coherent : Coherent db)
    (ticketed : ∃ ticket, db.tickets.find? ticketId = some ticket ∧ ticket.orgId = orgId)
    (start : ∀ index, current = some index →
      ∃ stage, flattened.stages[index]? = some stage ∧ stage.isAction = false) :
    Stepped none db
      (insertRun db (newRun db.nextId orgId ticketId pipelineId flattened kickoff current triggeredByUserId)) := by
  let run := newRun db.nextId orgId ticketId pipelineId flattened kickoff current triggeredByUserId
  rw [insertRun]
  cases inserted : db.runs.insert? run with
  | none => exact ⟨coherent, advances_refl none db⟩
  | some runs =>
      obtain ⟨rows, _⟩ := Table.insert?_some _ _ _ inserted
      let queued : Db := { db with runs := runs, nextId := db.nextId + 1 }
      have member (row : PipelineRun) (rowMember : row ∈ queued.runs.rows) : row ∈ db.runs.rows ∨ row = run := by
        have listed : row ∈ runs.rows := rowMember
        rw [rows] at listed
        simpa using listed
      have shared : Shared queued :=
        { driven := fun message queuedMember runId drives =>
            Nat.lt_succ_of_lt (coherent.driven message queuedMember runId drives)
          events := fun args queuedMember =>
            ⟨Nat.lt_succ_of_lt (coherent.events args queuedMember).1, (coherent.events args queuedMember).2⟩
          commands := fun command stored =>
            ⟨Nat.lt_succ_of_lt (coherent.commands command stored).1,
              Nat.lt_succ_of_lt (coherent.commands command stored).2⟩
          claims := fun row rowMember command claimed => Nat.lt_succ_of_lt (coherent.claims row rowMember command claimed)
          workspaceIds := fun row rowMember => Nat.lt_succ_of_lt (coherent.workspaceIds row rowMember) }
      have settled : Coherent queued :=
        { shared with
          sound := by
            intro row rowMember
            rcases member row rowMember with earlier | own
            · have sound := coherent.sound row earlier
              exact ⟨Nat.lt_succ_of_lt sound.bound, fun exec stored => Nat.lt_succ_of_lt (sound.rowsBound exec stored),
                sound.distinct, sound.rowsOf, sound.stored,
                fun workspaceId requested => Nat.lt_succ_of_lt (sound.workspaceBound workspaceId requested),
                shared.workspaceIds, sound.ticketed⟩
            · rw [own]
              exact ⟨Nat.lt_succ_self _, fun _ none_ => (by cases none_), List.nodup_nil, fun _ none_ => (by cases none_),
                fun _ none_ => (by cases none_), fun _ requested => (by cases requested), shared.workspaceIds, ticketed⟩
          stands := by
            intro row rowMember
            rcases member row rowMember with earlier | own
            · exact coherent.stands row earlier
            · rw [own]
              refine .queued rfl rfl rfl rfl ?_ rfl rfl start
              refine List.filter_eq_nil_iff.mpr fun message waiting drives => ?_
              have low := coherent.driven message waiting run.id (by simpa using drives)
              exact absurd low (Nat.lt_irrefl _)
          apart := by
            intro first firstMember second secondMember workspaceId left right
            rcases member first firstMember with earlier | own
            · rcases member second secondMember with another | ownToo
              · exact coherent.apart first earlier second another workspaceId left right
              · rw [ownToo] at right
                cases right
            · rw [own] at left
              cases left }
      have advanced : Advances none db queued :=
        { nextId := Nat.le_succ _
          others := by
            intro row rowMember _ _
            refine ⟨?_, rfl⟩
            show row ∈ runs.rows
            rw [rows]
            exact List.mem_append_left _ rowMember
          pending := by
            intro row rowMember command pending
            rcases member row rowMember with earlier | own
            · exact .inr ⟨row, earlier, rfl, pending⟩
            · rw [own] at pending
              cases pending }
      have stored : run ∈ queued.runs.rows := by
        show run ∈ runs.rows
        rw [rows]
        exact List.mem_append_right _ (List.mem_singleton.mpr rfl)
      obtain ⟨promoted, promotes⟩ := attemptPromotion_coherent queued run settled stored
      exact ⟨promoted, advances_trans none db queued _ advanced promotes⟩

theorem released_claim (commandId : Uuid) (row : Workspace)
    (member : row ∈ (releaseClaim db commandId).workspaces.rows) :
    row.currentCommandId ≠ some commandId ∧ ∃ old ∈ db.workspaces.rows, old.id = row.id ∧
      (row.currentCommandId = none ∨ row.currentCommandId = old.currentCommandId) := by
  simp only [releaseClaim, Table.update, List.mem_map] at member
  obtain ⟨old, oldMember, same⟩ := member
  by_cases held : old.currentCommandId = some commandId
  · rw [if_pos (by simp [held])] at same
    rw [← same]
    exact ⟨by simp, old, oldMember, rfl, .inl rfl⟩
  · rw [if_neg (by simpa using held)] at same
    rw [← same]
    exact ⟨held, old, oldMember, rfl, .inr rfl⟩

theorem releaseClaim_eases (commandId workspaceId : Uuid) :
    Eases (db.workspaces.find? workspaceId) ((releaseClaim db commandId).workspaces.find? workspaceId) := by
  rw [releaseClaim, Table.find?_update]
  cases db.workspaces.find? workspaceId with
  | none => exact eases_refl none
  | some old =>
      refine ⟨by simp, fun row found => ?_⟩
      simp only [Option.map_some, Option.some.injEq] at found
      rw [← found]
      split
      · exact .inl rfl
      · exact .inr ⟨old, rfl, rfl⟩

theorem insert_eases (workspaces after : Table Workspace Uuid Workspace.id) (row : Workspace) (workspaceId : Uuid)
    (inserted : workspaces.insert? row = some after) (free : row.currentCommandId = none) :
    Eases (workspaces.find? workspaceId) (after.find? workspaceId) := by
  rw [Table.find?_insert workspaces after row workspaceId inserted]
  cases workspaces.find? workspaceId with
  | some old => exact eases_refl (some old)
  | none =>
      refine ⟨by simp, fun found same => ?_⟩
      by_cases hit : row.id = workspaceId
      · rw [if_pos hit] at same
        cases same
        exact .inl free
      · rw [if_neg hit] at same
        cases same

theorem eases_trans (before middle after : Option Workspace) (left : Eases before middle) (right : Eases middle after) :
    Eases before after := by
  refine ⟨fun present => right.1 (left.1 present), fun row found => ?_⟩
  rcases right.2 row found with free | ⟨old, same, kept⟩
  · exact .inl free
  · rcases left.2 old same with free | ⟨first, sameFirst, keptFirst⟩
    · exact .inl (kept.trans free)
    · exact .inr ⟨first, sameFirst, kept.trans keptFirst⟩

theorem recordTerminalEvent_stepped (event : TerminalEvent) (coherent : Coherent db) :
    Ensures (recordTerminalEvent db event) (Stepped none db) := by
  rw [recordTerminalEvent]
  cases found : db.agentCommands.find? fun row => row.id == event.commandId with
  | none => exact ensures_error _ _
  | some command =>
      have known := coherent.commands command (List.mem_of_find?_eq_some found)
      have isCommand : command.id = event.commandId := by simpa using List.find?_some found
      rw [isCommand] at known
      simp only
      let retired := retireCommand (releaseClaim db event.commandId) event.commandId
      have released := released_claim db event.commandId
      have stepped (workspaces : Table Workspace Uuid Workspace.id)
          (rows : ∀ row ∈ workspaces.rows, row ∈ retired.workspaces.rows ∨
            row.id = command.workspaceId ∧ row.currentCommandId = none)
          (eases : ∀ workspaceId, Eases (retired.workspaces.find? workspaceId) (workspaces.find? workspaceId)) :
          Stepped none db
            (({ retired with workspaces := workspaces } : Db).enqueue (.handleAgentEvent
              { runId := command.context.runId, agentCommandId := event.commandId,
                outcomeLabel := event.outcomeLabel, outputs := event.outputs })) := by
        have messages (runId : Uuid) :
            (({ retired with workspaces := workspaces } : Db).enqueue (.handleAgentEvent
              { runId := command.context.runId, agentCommandId := event.commandId,
                outcomeLabel := event.outcomeLabel, outputs := event.outputs })).messagesFor runId =
              db.messagesFor runId := by
          rw [messagesFor_enqueue, if_neg (by intro drives; cases drives), List.append_nil]
          rfl
        refine ⟨coherent_ambient db _ coherent ?_ rfl (Nat.le_refl _) messages
          (fun ticketId ticket stored => ⟨ticket, stored, rfl⟩) rfl ?_, advances_same none db _ (Nat.le_refl _) rfl
            fun runId _ => messages runId⟩
        · refine ⟨?_, ?_, ?_, ?_, ?_⟩
          · intro message member runId drives
            simp only [Db.enqueue, List.mem_append, List.mem_singleton] at member
            rcases member with earlier | own
            · exact coherent.driven message earlier runId drives
            · rw [own] at drives
              cases drives
          · intro args member
            simp only [Db.enqueue, List.mem_append, List.mem_singleton] at member
            rcases member with earlier | own
            · obtain ⟨low, free⟩ := coherent.events args earlier
              refine ⟨low, fun row rowMember claimed => ?_⟩
              rcases rows row rowMember with stored | ⟨_, none_⟩
              · obtain ⟨_, old, oldMember, _, cleared | kept⟩ := released row stored
                · rw [cleared] at claimed
                  cases claimed
                · exact free old oldMember (kept.symm.trans claimed)
              · rw [none_] at claimed
                cases claimed
            · cases own
              refine ⟨known.1, fun row rowMember claimed => ?_⟩
              rcases rows row rowMember with stored | ⟨_, none_⟩
              · exact (released row stored).1 claimed
              · rw [none_] at claimed
                cases claimed
          · intro other member
            have listed : other ∈ db.agentCommands.map fun row =>
                if row.id = event.commandId then { row with done := true } else row := member
            obtain ⟨old, oldMember, same⟩ := List.mem_map.mp listed
            have bound := coherent.commands old oldMember
            rw [← same]
            split
            · exact bound
            · exact bound
          · intro row rowMember claimant claimed
            rcases rows row rowMember with stored | ⟨_, none_⟩
            · obtain ⟨_, old, oldMember, _, cleared | kept⟩ := released row stored
              · rw [cleared] at claimed
                cases claimed
              · exact coherent.claims old oldMember claimant (kept.symm.trans claimed)
            · rw [none_] at claimed
              cases claimed
          · intro row rowMember
            rcases rows row rowMember with stored | ⟨own, _⟩
            · obtain ⟨_, old, oldMember, same, _⟩ := released row stored
              rw [← same]
              exact coherent.workspaceIds old oldMember
            · rw [own]
              exact known.2
        · exact fun workspaceId =>
            eases_trans _ _ _ (releaseClaim_eases db event.commandId workspaceId) (eases workspaceId)
      refine ensures_ok _ _ ?_
      split
      · let row : Workspace :=
          { id := command.workspaceId, orgId := command.orgId, status := .active, currentCommandId := none,
            owningAgentId := some event.agentId, expiresAt := event.expiresAt }
        refine stepped ((retired.workspaces.insert? row).getD retired.workspaces) ?_ ?_
        · cases inserted : retired.workspaces.insert? row with
          | none => exact fun other stored => .inl stored
          | some after =>
              intro other stored
              have listed : other ∈ after.rows := stored
              rw [(Table.insert?_some _ _ _ inserted).1, List.mem_append, List.mem_singleton] at listed
              rcases listed with earlier | own
              · exact .inl earlier
              · rw [own]
                exact .inr ⟨rfl, rfl⟩
        · intro workspaceId
          cases inserted : retired.workspaces.insert? row with
          | none => exact eases_refl _
          | some after => exact insert_eases retired.workspaces after row workspaceId inserted rfl
      · exact stepped retired.workspaces (fun row stored => .inl stored) fun workspaceId => eases_refl _

theorem workspaceStatus_stepped (workspaceId : Uuid) (status : WorkspaceStatus) (coherent : Coherent db) :
    Stepped none db (db.updateWorkspace workspaceId (fun row => { row with status := status }) fun _ => rfl) := by
  have rows (row : Workspace)
      (member : row ∈ (db.updateWorkspace workspaceId (fun row => { row with status := status }) fun _ => rfl).workspaces.rows) :
      ∃ old ∈ db.workspaces.rows, old.id = row.id ∧ row.currentCommandId = old.currentCommandId := by
    simp only [Db.updateWorkspace, Table.update, List.mem_map] at member
    obtain ⟨old, oldMember, same⟩ := member
    refine ⟨old, oldMember, ?_⟩
    rw [← same]
    split
    · exact ⟨rfl, rfl⟩
    · exact ⟨rfl, rfl⟩
  refine ⟨coherent_ambient db _ coherent { coherent.toShared with events := ?_, claims := ?_, workspaceIds := ?_ } rfl
    (Nat.le_refl _) (fun _ => rfl) (fun ticketId ticket found => ⟨ticket, found, rfl⟩) rfl ?_,
    advances_same none db _ (Nat.le_refl _) rfl fun _ _ => rfl⟩
  · intro args member
    obtain ⟨low, free⟩ := coherent.events args member
    refine ⟨low, fun row rowMember claimed => ?_⟩
    obtain ⟨old, oldMember, _, kept⟩ := rows row rowMember
    exact free old oldMember (kept.symm.trans claimed)
  · intro row rowMember command claimed
    obtain ⟨old, oldMember, _, kept⟩ := rows row rowMember
    exact coherent.claims old oldMember command (kept.symm.trans claimed)
  · intro row rowMember
    obtain ⟨old, oldMember, same, _⟩ := rows row rowMember
    rw [← same]
    exact coherent.workspaceIds old oldMember
  · intro other
    rw [find?_updateWorkspace]
    cases found : db.workspaces.find? other with
    | none => simp [eases_refl]
    | some old =>
        by_cases hit : other = workspaceId
        · rw [if_pos hit]
          exact ⟨by simp, fun row same => .inr ⟨old, rfl, by cases same; rfl⟩⟩
        · rw [if_neg hit]
          exact eases_refl _

theorem createTicket_stepped (ticket : Ticket) (coherent : Coherent db) :
    Stepped none db { db with tickets := (db.tickets.insert? ticket).getD db.tickets } := by
  refine ⟨coherent_ambient db _ coherent { coherent.toShared with } rfl (Nat.le_refl _) (fun _ => rfl) ?_ rfl
    fun _ => eases_refl _, advances_same none db _ (Nat.le_refl _) rfl fun _ _ => rfl⟩
  intro ticketId row found
  cases inserted : db.tickets.insert? ticket with
  | none => exact ⟨row, found, rfl⟩
  | some tickets =>
      refine ⟨row, ?_, rfl⟩
      show tickets.find? ticketId = some row
      rw [Table.find?_insert _ _ _ _ inserted, found]
      rfl

theorem bindPullRequest_stepped (ticketId prId : Uuid) (coherent : Coherent db) :
    Stepped none db
      (db.updateTicket ticketId (fun _ => true) (fun row => { row with prId := some prId }) fun _ => rfl) := by
  have carries := dbCarries_updateTicket 0 none db ticketId (fun _ => true) (fun row => { row with prId := some prId })
    (fun _ => rfl) fun _ => rfl
  exact ⟨coherent_ambient db _ coherent { coherent.toShared with } rfl (Nat.le_refl _) (fun _ => rfl) carries.tickets rfl
    fun _ => eases_refl _, advances_same none db _ (Nat.le_refl _) rfl fun _ _ => rfl⟩

theorem dismissFinding_stepped (findingId : Uuid) (event : FindingStatusEvent) (coherent : Coherent db) :
    Ensures (dismissFinding db findingId event) (Stepped none db) := by
  refine ensures_mono _ _ _ (transitionFinding_only .dismissed db findingId event) fun after only => ?_
  obtain ⟨nextId, findings, low, same⟩ := only
  rw [same]
  have shared : Shared { db with nextId := nextId, findings := findings } :=
    { driven := fun message member runId drives => Nat.lt_of_lt_of_le (coherent.driven message member runId drives) low
      events := fun args member =>
        ⟨Nat.lt_of_lt_of_le (coherent.events args member).1 low, (coherent.events args member).2⟩
      commands := fun command stored =>
        ⟨Nat.lt_of_lt_of_le (coherent.commands command stored).1 low,
          Nat.lt_of_lt_of_le (coherent.commands command stored).2 low⟩
      claims := fun row member command claimed => Nat.lt_of_lt_of_le (coherent.claims row member command claimed) low
      workspaceIds := fun row member => Nat.lt_of_lt_of_le (coherent.workspaceIds row member) low }
  exact ⟨coherent_ambient db _ coherent shared rfl low (fun _ => rfl)
    (fun ticketId ticket found => ⟨ticket, found, rfl⟩) rfl fun _ => eases_refl _,
    advances_same none db _ low rfl fun _ _ => rfl⟩

theorem engineStep_stepped (label : Label) (coherent : Coherent db) (allowed : label.Allowed db) :
    Ensures (engineStep db label) (Stepped (label.subject db) db) := by
  have inserted (next : Db) (started : Started db (label.Allowed db) next) : Stepped none db next := by
    obtain ⟨orgId, ticketId, pipelineId, flattened, kickoff, current, triggeredByUserId, ticketed, begins⟩ := started
    exact insertRun_stepped db orgId ticketId pipelineId flattened kickoff current triggeredByUserId coherent
      (ticketed allowed) begins
  cases label with
  | startRun => exact ensures_mono _ _ _ (engineStep_started db _ rfl) inserted
  | startRerun => exact ensures_mono _ _ _ (engineStep_started db _ rfl) inserted
  | startRerunFromStage => exact ensures_mono _ _ _ (engineStep_started db _ rfl) inserted
  | requestCancel env orgId runId => exact requestCancel_stepped env db orgId runId coherent
  | resolvePause env orgId pauseId resolution actor =>
      exact resolvePause_stepped env db orgId pauseId resolution actor coherent
  | deliver env position => exact deliver_stepped db position env coherent
  | terminalEvent event => exact recordTerminalEvent_stepped db event coherent
  | workspaceStatus workspaceId status => exact ensures_ok _ _ (workspaceStatus_stepped db workspaceId status coherent)
  | createTicket ticket => exact ensures_ok _ _ (createTicket_stepped db ticket coherent)
  | bindPullRequest ticketId prId => exact ensures_ok _ _ (bindPullRequest_stepped db ticketId prId coherent)
  | dismissFinding findingId event => exact dismissFinding_stepped db findingId event coherent

theorem fresh_coherent (fresh : Fresh db) : Coherent db where
  driven := by
    rw [fresh.outbox]
    exact fun _ none_ => (by cases none_)
  events := by
    rw [fresh.outbox]
    exact fun _ none_ => (by cases none_)
  commands := by
    rw [fresh.agentCommands]
    exact fun _ none_ => (by cases none_)
  claims := by
    rw [fresh.workspaces]
    exact fun _ none_ => (by cases none_)
  workspaceIds := by
    rw [fresh.workspaces]
    exact fun _ none_ => (by cases none_)
  sound := by
    rw [fresh.runs]
    exact fun _ none_ => (by cases none_)
  stands := by
    rw [fresh.runs]
    exact fun _ none_ => (by cases none_)
  apart := by
    rw [fresh.runs]
    exact fun _ none_ => (by cases none_)

theorem engine_inductive : Inductive runEngine Coherent where
  initially := fresh_coherent
  kept := fun db label next coherent allowed taken => (engineStep_stepped db label coherent allowed next taken).coherent

theorem reachable_coherent (reachable : Reachable runEngine db) : Coherent db :=
  reachable_invariant runEngine Coherent engine_inductive db reachable

end Yaaos.Pipelines
