import Yaaos.Base.Machine
import Yaaos.Pipelines.Stores

set_option autoImplicit false

namespace Yaaos.Pipelines

open Yaaos.Base

def markDefended (db : Db) (findingId : Uuid) (now : Nat) : Except EngineError Db := do
  let row ← getFinding db findingId
  if row.defendedAt.isSome then .ok db
  else
    .ok { db with
      findings := db.findings.update (fun row => row.id == findingId) (fun row => { row with defendedAt := some now })
        fun _ => rfl }

def recordBatch (db : Db) (run : PipelineRun) (stageExec : StageExecution) (iteration : Nat) (specs : List FindingSpec) : Db :=
  (recordFindings { db := db, run := run } stageExec iteration (latestDisplayId db run.ticketId + 1) specs).1.db

inductive LedgerCall where
  | record (run : PipelineRun) (stageExec : StageExecution) (iteration : Nat) (specs : List FindingSpec)
  | resolve (findingId : Uuid) (event : FindingStatusEvent)
  | reopen (findingId : Uuid) (event : FindingStatusEvent)
  | dismiss (findingId : Uuid) (event : FindingStatusEvent)
  | reflag (findingId : Uuid) (event : FindingStatusEvent)
  | markDefended (findingId : Uuid) (now : Nat)

def ledgerStep (db : Db) : LedgerCall → Except EngineError Db
  | .record run stageExec iteration specs => .ok (recordBatch db run stageExec iteration specs)
  | .resolve findingId event => resolveFinding db findingId event
  | .reopen findingId event => reopenFinding db findingId event
  | .dismiss findingId event => dismissFinding db findingId event
  | .reflag findingId event => reflagFinding db findingId event
  | .markDefended findingId now => Pipelines.markDefended db findingId now

def ledger : Machine Db LedgerCall EngineError where
  initial db := db.findings.rows = []
  allowed _ _ := True
  step := ledgerStep

structure FindingStamp where
  id : Uuid
  orgId : Uuid
  ticketId : Uuid
  sourceRunId : Uuid
  sourceStageName : String
  sourceStageExecutionId : Uuid
  firstSeenIteration : Nat
  displayPrefix : String
  displayId : Nat
  severity : Severity

def Finding.stamp (finding : Finding) : FindingStamp :=
  { id := finding.id, orgId := finding.orgId, ticketId := finding.ticketId, sourceRunId := finding.sourceRunId,
    sourceStageName := finding.sourceStageName, sourceStageExecutionId := finding.sourceStageExecutionId,
    firstSeenIteration := finding.firstSeenIteration, displayPrefix := finding.displayPrefix,
    displayId := finding.displayId, severity := finding.severity }

def Finding.course (finding : Finding) : FindingStatus × List FindingStatusEvent := (finding.status, finding.statusEvents)

structure Appends (R : Finding → Finding → Prop) (before after : List Finding) (added : List Finding) : Prop where
  shape : ∃ change : Finding → Finding, after = before.map change ++ added ∧ ∀ row ∈ before, R row (change row)

def Refreshed (row next : Finding) : Prop := next.stamp = row.stamp ∧ next.course = row.course

-- The rows that a batch adds: open ones without events, numbered from the given number on.
structure Numbered (ticketId : Uuid) (first : Nat) (added : List Finding) : Prop where
  ticket : ∀ row ∈ added, row.ticketId = ticketId
  fresh : ∀ row ∈ added, row.course = (.opened, [])
  numbers : added.map Finding.displayId = List.range' first added.length

def refreshedBy (specs : List FindingSpec) (row : Finding) : Finding :=
  specs.foldl (fun row spec => if row.id == spec.id then row.refresh spec else row) row

def firstNew (known : List Uuid) : List FindingSpec → List FindingSpec
  | [] => []
  | spec :: rest => if spec.id ∈ known then firstNew known rest else spec :: firstNew (known ++ [spec.id]) rest

def firstRecord (run : PipelineRun) (stageExec : StageExecution) (iteration : Nat) (entry : FindingSpec × Nat) : Finding :=
  { id := entry.1.id, orgId := run.orgId, ticketId := run.ticketId, sourceRunId := run.id,
    sourceStageName := stageExec.stageName, sourceStageExecutionId := stageExec.id, firstSeenIteration := iteration,
    displayPrefix := entry.1.displayPrefix, displayId := entry.2, severity := entry.1.severity, body := entry.1.body,
    codeFile := entry.1.codeFile, codeLine := entry.1.codeLine, artifactSection := entry.1.artifactSection,
    defectInArtifact := entry.1.defectInArtifact, status := .opened, statusEvents := [] }

def firstRecords (run : PipelineRun) (stageExec : StageExecution) (iteration first : Nat) (specs : List FindingSpec) :
    List Finding :=
  (specs.zipIdx first).map (firstRecord run stageExec iteration)

theorem refreshedBy_refreshed (specs : List FindingSpec) (row : Finding) : Refreshed row (refreshedBy specs row) := by
  induction specs generalizing row with
  | nil => exact ⟨rfl, rfl⟩
  | cons spec rest ih =>
      obtain ⟨stamp, course⟩ := ih (if row.id == spec.id then row.refresh spec else row)
      constructor
      · refine stamp.trans ?_
        split <;> rfl
      · refine course.trans ?_
        split <;> rfl

theorem firstNew_unknown (known : List Uuid) (specs : List FindingSpec) :
    ∀ spec ∈ firstNew known specs, spec.id ∉ known := by
  induction specs generalizing known with
  | nil => exact fun spec none_ => absurd none_ List.not_mem_nil
  | cons spec rest ih =>
      intro other member
      rw [firstNew] at member
      split at member
      · exact ih known other member
      · rename_i unknown
        rcases List.mem_cons.mp member with same | later
        · rw [same]
          exact unknown
        · exact fun inside => ih (known ++ [spec.id]) other later (List.mem_append_left _ inside)

theorem refreshedBy_cons (spec : FindingSpec) (rest : List FindingSpec) (rows : List Finding)
    (apart : ∀ row ∈ rows, row.id ≠ spec.id) : rows.map (refreshedBy (spec :: rest)) = rows.map (refreshedBy rest) := by
  refine List.map_congr_left fun row member => ?_
  change refreshedBy rest (if row.id == spec.id then row.refresh spec else row) = _
  rw [if_neg (by simpa using apart row member)]

theorem firstRecords_apart (run : PipelineRun) (stageExec : StageExecution) (iteration first : Nat) (known : List Uuid)
    (specs : List FindingSpec) (id : Uuid) (inside : id ∈ known) :
    ∀ row ∈ firstRecords run stageExec iteration first (firstNew known specs), row.id ≠ id := by
  intro row member same
  obtain ⟨entry, listed, isRow⟩ := List.mem_map.mp member
  have unknown := firstNew_unknown known specs entry.1 (List.fst_mem_of_mem_zipIdx listed)
  rw [← isRow] at same
  change entry.1.id = id at same
  rw [same] at unknown
  exact unknown inside

theorem recordFindings_rows (session : Session) (stageExec : StageExecution) (iteration first : Nat)
    (specs : List FindingSpec) :
    (recordFindings session stageExec iteration first specs).1.db.findings.rows =
      (session.db.findings.rows ++ firstRecords session.run stageExec iteration first
        (firstNew (session.db.findings.rows.map Finding.id) specs)).map (refreshedBy specs) := by
  induction specs generalizing session first with
  | nil =>
      rw [recordFindings, firstNew, firstRecords, List.zipIdx_nil, List.map_nil, List.append_nil]
      exact (List.map_id _).symm
  | cons spec rest ih =>
      rw [recordFindings]
      cases found : session.db.findings.find? spec.id with
      | some existing =>
          obtain ⟨held, same⟩ := Table.find?_some _ _ _ found
          have known : spec.id ∈ session.db.findings.rows.map Finding.id := List.mem_map.mpr ⟨existing, held, same⟩
          have later := firstRecords_apart session.run stageExec iteration first _ rest spec.id known
          let updated := session.db.findings.update (fun row => row.id == spec.id) (Finding.refresh spec) fun _ => rfl
          have ids : updated.rows.map Finding.id = session.db.findings.rows.map Finding.id := by
            change (List.map _ session.db.findings.rows).map Finding.id = _
            rw [List.map_map]
            refine List.map_congr_left fun row _ => ?_
            dsimp only [Function.comp]
            split <;> rfl
          have rows := ih { session with db := { session.db with findings := updated } } first
          dsimp only at rows ⊢
          rw [rows, ids, firstNew, if_pos known, List.map_append, List.map_append, refreshedBy_cons spec rest _ later]
          congr 1
          change (List.map _ session.db.findings.rows).map (refreshedBy rest) = _
          rw [List.map_map]
          rfl
      | none =>
          have fresh := (Table.find?_isNone session.db.findings spec.id).mp found
          have unknown : spec.id ∉ session.db.findings.rows.map Finding.id := by
            intro inside
            obtain ⟨row, held, same⟩ := List.mem_map.mp inside
            exact fresh row held same
          let row := firstRecord session.run stageExec iteration (spec, first)
          obtain ⟨inserted, stored⟩ := Table.insert?_fresh session.db.findings row fresh
          obtain ⟨appended, _⟩ := Table.insert?_some _ _ _ stored
          have rows := ih { session with db := { session.db with findings := inserted } } (first + 1)
          have later := firstRecords_apart session.run stageExec iteration (first + 1)
            (session.db.findings.rows.map Finding.id ++ [spec.id]) rest spec.id
            (List.mem_append_right _ (List.mem_singleton_self _))
          have own : refreshedBy (spec :: rest) row = refreshedBy rest row := by
            change refreshedBy rest (if spec.id == spec.id then row.refresh spec else row) = _
            rw [if_pos (beq_self_eq_true spec.id)]
            rfl
          dsimp only [row, firstRecord] at stored
          dsimp only
          rw [stored, firstNew, if_neg unknown]
          refine rows.trans ?_
          dsimp only
          let records := firstRecords session.run stageExec iteration (first + 1)
            (firstNew (session.db.findings.rows.map Finding.id ++ [spec.id]) rest)
          have unchanged : (session.db.findings.rows ++ row :: records).map (refreshedBy (spec :: rest)) =
              (session.db.findings.rows ++ row :: records).map (refreshedBy rest) := by
            rw [List.map_append, List.map_append, List.map_cons, List.map_cons, refreshedBy_cons spec rest _ fresh,
              refreshedBy_cons spec rest _ later, own]
          refine Eq.trans ?_ unchanged.symm
          have ids : inserted.rows.map Finding.id = session.db.findings.rows.map Finding.id ++ [spec.id] := by
            rw [appended, List.map_append]
            rfl
          rw [ids, appended, List.append_assoc]
          rfl

theorem recordFindings_grows (session : Session) (stageExec : StageExecution) (iteration first : Nat)
    (specs : List FindingSpec) :
    ∃ added, Appends Refreshed session.db.findings.rows
        (recordFindings session stageExec iteration first specs).1.db.findings.rows added ∧
      Numbered session.run.ticketId first added := by
  let new := firstNew (session.db.findings.rows.map Finding.id) specs
  refine ⟨(firstRecords session.run stageExec iteration first new).map (refreshedBy specs), ⟨refreshedBy specs, ?_, ?_⟩, ?_⟩
  · rw [recordFindings_rows, List.map_append]
  · exact fun row _ => refreshedBy_refreshed specs row
  · have entered (row : Finding) (member : row ∈ (firstRecords session.run stageExec iteration first new).map (refreshedBy specs)) :
        row.ticketId = session.run.ticketId ∧ row.course = (.opened, []) := by
      obtain ⟨before, listed, same⟩ := List.mem_map.mp member
      obtain ⟨entry, _, isRecord⟩ := List.mem_map.mp listed
      obtain ⟨stamp, course⟩ := refreshedBy_refreshed specs before
      have ticket : (refreshedBy specs before).ticketId = before.ticketId := congrArg FindingStamp.ticketId stamp
      rw [← same, course, ticket, ← isRecord]
      exact ⟨rfl, rfl⟩
    refine ⟨fun row member => (entered row member).1, fun row member => (entered row member).2, ?_⟩
    have stamps : Finding.displayId ∘ refreshedBy specs = Finding.displayId := by
      funext row
      exact congrArg FindingStamp.displayId (refreshedBy_refreshed specs row).1
    rw [List.map_map, stamps, List.length_map, firstRecords, List.length_map, List.length_zipIdx, List.map_map]
    exact List.zipIdx_map_snd first new

variable (db next : Db) (row : Finding) (findingId : Uuid) (target : FindingStatus) (event : FindingStatusEvent)

def Finding.turned (row : Finding) (findingId : Uuid) (target : FindingStatus) (event : FindingStatusEvent) :
    FindingStatus × List FindingStatusEvent :=
  if row.id = findingId ∧ row.status ≠ target then (target, row.statusEvents ++ [event]) else row.course

def LedgerCall.moves (row : Finding) : LedgerCall → FindingStatus × List FindingStatusEvent
  | .resolve findingId event => row.turned findingId .resolved event
  | .reopen findingId event => row.turned findingId .opened event
  | .dismiss findingId event => row.turned findingId .dismissed event
  | .reflag findingId event =>
      if row.id = findingId then (row.status, row.statusEvents ++ [event]) else row.course
  | .record _ _ _ _ => row.course
  | .markDefended _ _ => row.course

structure Moved (call : LedgerCall) (row next : Finding) : Prop where
  stamp : next.stamp = row.stamp
  course : next.course = call.moves row
  legal : next.status = row.status ∨ legalTransition row.status next.status = true

theorem getFinding_some (db : Db) (findingId : Uuid) (row : Finding) (read : getFinding db findingId = .ok row) :
    row ∈ db.findings.rows ∧ row.id = findingId := by
  unfold getFinding at read
  cases found : db.findings.find? findingId with
  | none =>
      rw [found] at read
      cases read
  | some other =>
      rw [found] at read
      cases read
      exact Table.find?_some _ _ _ found

theorem transitionFinding_cases (db next : Db) (findingId : Uuid) (event : FindingStatusEvent)
    (taken : transitionFinding target db findingId event = .ok next) :
    ∃ row, row ∈ db.findings.rows ∧ row.id = findingId ∧
      ((row.status = target ∧ next = db) ∨
        (row.status ≠ target ∧ legalTransition row.status target = true ∧ next = appendEvent db findingId target event)) := by
  unfold transitionFinding at taken
  cases read : getFinding db findingId with
  | error error =>
      rw [read] at taken
      cases taken
  | ok row =>
      obtain ⟨member, same⟩ := getFinding_some db findingId row read
      rw [read] at taken
      change (if row.status = target then Except.ok db
        else if legalTransition row.status target = true then .ok (appendEvent db findingId target event)
        else .error (EngineError.invalidFindingTransition findingId row.status)) = .ok next at taken
      by_cases there : row.status = target
      · rw [if_pos there] at taken
        cases taken
        exact ⟨row, member, same, .inl ⟨there, rfl⟩⟩
      · rw [if_neg there] at taken
        by_cases legal : legalTransition row.status target = true
        · rw [if_pos legal] at taken
          cases taken
          exact ⟨row, member, same, .inr ⟨there, legal, rfl⟩⟩
        · rw [if_neg legal] at taken
          cases taken

theorem reflagFinding_cases
    (taken : reflagFinding db findingId event = .ok next) :
    ∃ row, row ∈ db.findings.rows ∧ row.id = findingId ∧ row.status = .opened ∧
      next = appendEvent db findingId .opened event := by
  unfold reflagFinding at taken
  cases read : getFinding db findingId with
  | error error =>
      rw [read] at taken
      cases taken
  | ok row =>
      obtain ⟨member, same⟩ := getFinding_some db findingId row read
      rw [read] at taken
      change (if row.status = .opened then Except.ok (appendEvent db findingId .opened event)
        else .error (EngineError.invalidFindingTransition findingId row.status)) = .ok next at taken
      by_cases opened : row.status = .opened
      · rw [if_pos opened] at taken
        cases taken
        exact ⟨row, member, same, opened, rfl⟩
      · rw [if_neg opened] at taken
        cases taken

theorem markDefended_cases (now : Nat) (taken : markDefended db findingId now = .ok next) :
    next.findings.rows = db.findings.rows ∨
      next.findings.rows = db.findings.rows.map fun row => if row.id == findingId then { row with defendedAt := some now } else row := by
  unfold markDefended at taken
  cases read : getFinding db findingId with
  | error error =>
      rw [read] at taken
      cases taken
  | ok row =>
      rw [read] at taken
      change (if row.defendedAt.isSome = true then Except.ok db else .ok _) = .ok next at taken
      by_cases stamped : row.defendedAt.isSome = true
      · rw [if_pos stamped] at taken
        cases taken
        exact .inl rfl
      · rw [if_neg stamped] at taken
        cases taken
        exact .inr rfl

theorem appendEvent_grows (call : LedgerCall) (db : Db) (findingId : Uuid) (status : FindingStatus)
    (event : FindingStatusEvent)
    (hit : ∀ row ∈ db.findings.rows, row.id = findingId →
      LedgerCall.moves row call = (status, row.statusEvents ++ [event]) ∧
        (status = row.status ∨ legalTransition row.status status = true))
    (missed : ∀ row ∈ db.findings.rows, row.id ≠ findingId → LedgerCall.moves row call = row.course) :
    Appends (Moved call) db.findings.rows (appendEvent db findingId status event).findings.rows [] := by
  refine ⟨fun row => if row.id == findingId then
    { row with status := status, statusEvents := row.statusEvents ++ [event] } else row, ?_, ?_⟩
  · rw [List.append_nil]
    rfl
  · intro row member
    dsimp only
    by_cases same : row.id = findingId
    · obtain ⟨course, legal⟩ := hit row member same
      rw [if_pos (by rw [same]; exact beq_self_eq_true findingId)]
      exact ⟨rfl, course.symm, legal⟩
    · rw [if_neg (by simpa using same)]
      exact ⟨rfl, (missed row member same).symm, .inl rfl⟩

theorem still_grows (call : LedgerCall) (rows : List Finding) (silent : ∀ row ∈ rows, LedgerCall.moves row call = row.course) :
    Appends (Moved call) rows rows [] :=
  ⟨id, by simp, fun row member => ⟨rfl, (silent row member).symm, .inl rfl⟩⟩

theorem transition_grows (call : LedgerCall) (target : FindingStatus) (db next : Db) (findingId : Uuid)
    (event : FindingStatusEvent) (aims : ∀ row, LedgerCall.moves row call = row.turned findingId target event)
    (taken : transitionFinding target db findingId event = .ok next) :
    Appends (Moved call) db.findings.rows next.findings.rows [] := by
  obtain ⟨found, stored, id, settled⟩ := transitionFinding_cases target db next findingId event taken
  have isFound (row : Finding) (member : row ∈ db.findings.rows) (same : row.id = findingId) : row = found :=
    Table.eq_of_key db.findings row found member stored (same.trans id.symm)
  rcases settled with ⟨there, rfl⟩ | ⟨apart, legal, rfl⟩
  · apply still_grows
    intro row member
    rw [aims, Finding.turned, if_neg]
    rintro ⟨same, different⟩
    rw [isFound row member same] at different
    exact different there
  · apply appendEvent_grows
    · intro row member same
      rw [aims, Finding.turned, isFound row member same]
      exact ⟨if_pos ⟨id, apart⟩, .inr legal⟩
    · intro row _ other
      rw [aims, Finding.turned, if_neg fun both => other both.1]

inductive Adds (db : Db) (call : LedgerCall) : List Finding → Prop where
  | none : Adds db call []
  | batch (run : PipelineRun) (stageExec : StageExecution) (iteration : Nat) (specs : List FindingSpec)
      (added : List Finding) (records : call = .record run stageExec iteration specs)
      (numbered : Numbered run.ticketId (latestDisplayId db run.ticketId + 1) added) : Adds db call added

theorem ledger_grows (call : LedgerCall) (taken : ledgerStep db call = .ok next) :
    ∃ added, Appends (Moved call) db.findings.rows next.findings.rows added ∧ Adds db call added := by
  cases call with
  | record run stageExec iteration specs =>
      cases taken
      obtain ⟨added, ⟨change, rows, kept⟩, numbered⟩ := recordFindings_grows { db := db, run := run } stageExec iteration
        (latestDisplayId db run.ticketId + 1) specs
      refine ⟨added, ⟨change, rows, ?_⟩, .batch run stageExec iteration specs added rfl numbered⟩
      intro row member
      obtain ⟨stamp, course⟩ := kept row member
      exact ⟨stamp, course, .inl (congrArg Prod.fst course)⟩
  | resolve findingId event =>
      exact ⟨[], transition_grows _ .resolved db next findingId event (fun _ => rfl) taken, .none⟩
  | reopen findingId event =>
      exact ⟨[], transition_grows _ .opened db next findingId event (fun _ => rfl) taken, .none⟩
  | dismiss findingId event =>
      exact ⟨[], transition_grows _ .dismissed db next findingId event (fun _ => rfl) taken, .none⟩
  | reflag findingId event =>
      obtain ⟨found, stored, id, opened, rfl⟩ := reflagFinding_cases db next findingId event taken
      refine ⟨[], appendEvent_grows _ db findingId .opened event ?_ ?_, .none⟩
      · intro row member same
        have status : row.status = .opened := by
          rw [Table.eq_of_key db.findings row found member stored (same.trans id.symm), opened]
        refine ⟨?_, .inl status.symm⟩
        rw [LedgerCall.moves, if_pos same, status]
      · intro row _ other
        exact if_neg other
  | markDefended findingId now =>
      refine ⟨[], ?_, .none⟩
      rcases markDefended_cases db next findingId now taken with same | stamped
      · rw [same]
        exact still_grows _ _ fun row _ => rfl
      · rw [stamped]
        refine ⟨fun row => if row.id == findingId then { row with defendedAt := some now } else row, by simp, ?_⟩
        intro row _
        dsimp only
        split
        · exact ⟨rfl, rfl, .inl rfl⟩
        · exact ⟨rfl, rfl, .inl rfl⟩

def numbersOf (rows : List Finding) (ticketId : Uuid) : List Nat :=
  (rows.filter fun row => row.ticketId == ticketId).map Finding.displayId

theorem numbersOf_append (rows added : List Finding) (ticketId : Uuid) :
    numbersOf (rows ++ added) ticketId = numbersOf rows ticketId ++ numbersOf added ticketId := by
  rw [numbersOf, List.filter_append, List.map_append]
  rfl

theorem numbersOf_map (rows : List Finding) (change : Finding → Finding) (ticketId : Uuid)
    (stamp : ∀ row ∈ rows, (change row).stamp = row.stamp) : numbersOf (rows.map change) ticketId = numbersOf rows ticketId := by
  induction rows with
  | nil => rfl
  | cons row rest ih =>
      have mine := stamp row List.mem_cons_self
      have ticket : (change row).ticketId = row.ticketId := congrArg FindingStamp.ticketId mine
      have number : (change row).displayId = row.displayId := congrArg FindingStamp.displayId mine
      have later := ih fun other member => stamp other (List.mem_cons_of_mem _ member)
      unfold numbersOf at later ⊢
      rw [List.map_cons, List.filter_cons, List.filter_cons, ticket]
      by_cases own : (row.ticketId == ticketId) = true
      · rw [if_pos own, if_pos own, List.map_cons, List.map_cons, number, later]
      · rw [if_neg own, if_neg own, later]

theorem foldl_max (count : Nat) (first : Nat) : (List.range' 1 count).foldl max first = max first count := by
  induction count with
  | zero => exact (Nat.max_zero first).symm
  | succ count ih =>
      rw [List.range'_concat, List.foldl_append, ih]
      simp only [List.foldl_cons, List.foldl_nil]
      omega

theorem latestDisplayId_numbers (db : Db) (ticketId : Uuid) (count : Nat)
    (numbered : numbersOf db.findings.rows ticketId = List.range' 1 count) : latestDisplayId db ticketId = count := by
  change (numbersOf db.findings.rows ticketId).foldl max 0 = count
  rw [numbered, foldl_max, Nat.zero_max]

theorem numbersOf_added (ticketId other : Uuid) (first : Nat) (added : List Finding) (numbered : Numbered ticketId first added) :
    numbersOf added other = if other = ticketId then List.range' first added.length else [] := by
  unfold numbersOf
  by_cases own : other = ticketId
  · rw [if_pos own, List.filter_eq_self.mpr, numbered.numbers]
    intro row member
    rw [numbered.ticket row member, own]
    exact beq_self_eq_true ticketId
  · rw [if_neg own, List.filter_eq_nil_iff.mpr]
    · rfl
    · intro row member
      rw [numbered.ticket row member]
      simpa using Ne.symm own

def Counted (rows : List Finding) : Prop := ∀ ticketId, ∃ count, numbersOf rows ticketId = List.range' 1 count

theorem counted_step (call : LedgerCall) (counted : Counted db.findings.rows)
    (taken : ledgerStep db call = .ok next) : Counted next.findings.rows := by
  obtain ⟨added, ⟨change, rows, moved⟩, adds⟩ := ledger_grows db next call taken
  intro ticketId
  obtain ⟨count, numbers⟩ := counted ticketId
  rw [rows, numbersOf_append, numbersOf_map _ change ticketId fun row member => (moved row member).stamp, numbers]
  cases adds with
  | none => exact ⟨count, List.append_nil _⟩
  | batch run stageExec iteration specs added records numbered =>
      rw [numbersOf_added run.ticketId ticketId _ added numbered]
      by_cases same : ticketId = run.ticketId
      · rw [if_pos same, ← same, latestDisplayId_numbers db ticketId count numbers]
        refine ⟨count + added.length, ?_⟩
        rw [Nat.add_comm count 1]
        exact List.range'_append_1
      · rw [if_neg same]
        exact ⟨count, List.append_nil _⟩

theorem committed_ok (call : LedgerCall) (taken : ledgerStep db call = .ok next) :
    ledger.committed call db = next := by
  simp only [Machine.committed, ledger, taken]

theorem committed_error (db : Db) (call : LedgerCall) (error : EngineError) (raised : ledgerStep db call = .error error) :
    ledger.committed call db = db := by
  simp only [Machine.committed, ledger, raised]

structure Lasting (row next : Finding) : Prop where
  stamp : next.stamp = row.stamp
  events : row.statusEvents <+: next.statusEvents
  dismissed : row.status = .dismissed → next.status = .dismissed

theorem lasting_refl : Lasting row row := ⟨rfl, List.prefix_rfl, id⟩

theorem lasting_trans (first middle last : Finding) (left : Lasting first middle) (right : Lasting middle last) :
    Lasting first last where
  stamp := right.stamp.trans left.stamp
  events := left.events.trans right.events
  dismissed := fun gone => right.dismissed (left.dismissed gone)

theorem turned_events :
    row.statusEvents <+: (row.turned findingId target event).2 := by
  unfold Finding.turned
  split
  · exact List.prefix_append _ _
  · exact List.prefix_rfl

theorem moves_events (call : LedgerCall) : row.statusEvents <+: (call.moves row).2 := by
  cases call with
  | record run stageExec iteration specs => exact List.prefix_rfl
  | resolve findingId event => exact turned_events row findingId .resolved event
  | reopen findingId event => exact turned_events row findingId .opened event
  | dismiss findingId event => exact turned_events row findingId .dismissed event
  | reflag findingId event =>
      unfold LedgerCall.moves
      dsimp only
      split
      · exact List.prefix_append _ _
      · exact List.prefix_rfl
  | markDefended findingId now => exact List.prefix_rfl

theorem moved_lasting (call : LedgerCall) (row next : Finding) (moved : Moved call row next) : Lasting row next where
  stamp := moved.stamp
  events := by
    have grown := moves_events row call
    rw [← moved.course] at grown
    exact grown
  dismissed := by
    intro gone
    rcases moved.legal with same | legal
    · rw [same, gone]
    · rw [gone] at legal
      cases legal

theorem committed_lasting (db : Db) (call : LedgerCall) :
    (∀ row ∈ db.findings.rows, ∃ next ∈ (ledger.committed call db).findings.rows, Lasting row next) ∧
      db.findings.rows.map Finding.stamp <+: (ledger.committed call db).findings.rows.map Finding.stamp := by
  cases taken : ledgerStep db call with
  | error error =>
      rw [committed_error db call error taken]
      exact ⟨fun row member => ⟨row, member, lasting_refl row⟩, List.prefix_rfl⟩
  | ok next =>
      obtain ⟨added, ⟨change, rows, moved⟩, _⟩ := ledger_grows db next call taken
      rw [committed_ok db next call taken, rows]
      constructor
      · intro row member
        exact ⟨change row, List.mem_append_left _ (List.mem_map_of_mem member), moved_lasting call row _ (moved row member)⟩
      · have stamps : (db.findings.rows.map change).map Finding.stamp = db.findings.rows.map Finding.stamp := by
          rw [List.map_map]
          exact List.map_congr_left fun row member => (moved row member).stamp
        rw [List.map_append, stamps]
        exact List.prefix_append _ _

theorem after_lasting (db : Db) (calls : List LedgerCall) :
    (∀ row ∈ db.findings.rows, ∃ next ∈ (ledger.after db calls).findings.rows, Lasting row next) ∧
      db.findings.rows.map Finding.stamp <+: (ledger.after db calls).findings.rows.map Finding.stamp := by
  induction calls generalizing db with
  | nil => exact ⟨fun row member => ⟨row, member, lasting_refl row⟩, List.prefix_rfl⟩
  | cons call rest ih =>
      obtain ⟨first, stamps⟩ := committed_lasting db call
      obtain ⟨later, more⟩ := ih (ledger.committed call db)
      refine ⟨?_, stamps.trans more⟩
      intro row member
      obtain ⟨middle, inside, left⟩ := first row member
      obtain ⟨last, end_, right⟩ := later middle inside
      exact ⟨last, end_, lasting_trans row middle last left right⟩

theorem after_counted (db : Db) (calls : List LedgerCall) (counted : Counted db.findings.rows) :
    Counted (ledger.after db calls).findings.rows := by
  induction calls generalizing db with
  | nil => exact counted
  | cons call rest ih =>
      apply ih
      change Counted (ledger.committed call db).findings.rows
      cases taken : ledgerStep db call with
      | error error =>
          rw [committed_error db call error taken]
          exact counted
      | ok next =>
          rw [committed_ok db next call taken]
          exact counted_step db next call counted taken

def LedgerCall.target? (findingId : Uuid) : LedgerCall → Option FindingStatus
  | .resolve id _ => if id = findingId then some .resolved else none
  | .reopen id _ => if id = findingId then some .opened else none
  | .dismiss id _ => if id = findingId then some .dismissed else none
  | _ => none

def lastTarget (findingId : Uuid) : Db → List LedgerCall → Option FindingStatus → Option FindingStatus
  | _, [], last => last
  | db, call :: rest, last =>
      lastTarget findingId (ledger.committed call db) rest
        (if (ledgerStep db call).isOk then (call.target? findingId).or last else last)

theorem turned_status :
    (row.turned findingId target event).1 = (if findingId = row.id then some target else none).getD row.status := by
  unfold Finding.turned
  by_cases own : row.id = findingId
  · rw [if_pos own.symm]
    by_cases there : row.status = target
    · rw [if_neg fun both => both.2 there]
      exact there
    · rw [if_pos ⟨own, there⟩]
      rfl
  · rw [if_neg fun both => own both.1, if_neg (Ne.symm own)]
    rfl

theorem moves_status (call : LedgerCall) : (call.moves row).1 = (call.target? row.id).getD row.status := by
  cases call with
  | record run stageExec iteration specs => rfl
  | resolve findingId event => exact turned_status row findingId .resolved event
  | reopen findingId event => exact turned_status row findingId .opened event
  | dismiss findingId event => exact turned_status row findingId .dismissed event
  | reflag findingId event =>
      unfold LedgerCall.moves
      dsimp only
      split
      · rfl
      · rfl
  | markDefended findingId now => rfl

theorem target_stored (call : LedgerCall) (findingId : Uuid) (target : FindingStatus)
    (aims : call.target? findingId = some target) (taken : ledgerStep db call = .ok next) :
    ∃ row ∈ db.findings.rows, row.id = findingId := by
  have stored (id : Uuid) (event : FindingStatusEvent) (goal : FindingStatus)
      (aims : (if id = findingId then some goal else none) = some target)
      (taken : transitionFinding goal db id event = .ok next) : ∃ row ∈ db.findings.rows, row.id = findingId := by
    obtain ⟨row, member, same, _⟩ := transitionFinding_cases goal db next id event taken
    by_cases own : id = findingId
    · exact ⟨row, member, same.trans own⟩
    · rw [if_neg own] at aims
      cases aims
  cases call with
  | record run stageExec iteration specs => cases aims
  | resolve id event => exact stored id event .resolved aims taken
  | reopen id event => exact stored id event .opened aims taken
  | dismiss id event => exact stored id event .dismissed aims taken
  | reflag id event => cases aims
  | markDefended id now => cases aims

theorem added_new (call : LedgerCall) (change : Finding → Finding) (added : List Finding)
    (rows : next.findings.rows = db.findings.rows.map change ++ added)
    (moved : ∀ row ∈ db.findings.rows, Moved call row (change row)) (adds : Adds db call added) (row : Finding)
    (member : row ∈ added) : (∀ old ∈ db.findings.rows, old.id ≠ row.id) ∧ row.course = (.opened, []) := by
  constructor
  · intro old inside same
    have distinct := next.findings.unique
    rw [rows, List.map_append, List.nodup_append] at distinct
    have id : (change old).id = old.id := congrArg FindingStamp.id (moved old inside).stamp
    have left : row.id ∈ (db.findings.rows.map change).map Finding.id := by
      rw [← same, ← id]
      exact List.mem_map_of_mem (List.mem_map_of_mem inside)
    exact distinct.2.2 _ left _ (List.mem_map_of_mem member) rfl
  · cases adds with
    | none => cases member
    | batch run stageExec iteration specs added records numbered => exact numbered.fresh row member

structure StandsAt (findingId : Uuid) (db : Db) (last : Option FindingStatus) : Prop where
  there : ∀ row ∈ db.findings.rows, row.id = findingId → row.status = last.getD .opened
  absent : (∀ row ∈ db.findings.rows, row.id ≠ findingId) → last = none

theorem stands_step (db next : Db) (call : LedgerCall) (last : Option FindingStatus)
    (stands : StandsAt findingId db last) (taken : ledgerStep db call = .ok next) :
    StandsAt findingId next ((call.target? findingId).or last) := by
  obtain ⟨added, ⟨change, rows, moved⟩, adds⟩ := ledger_grows db next call taken
  have ids (row : Finding) (member : row ∈ db.findings.rows) : (change row).id = row.id :=
    congrArg FindingStamp.id (moved row member).stamp
  constructor
  · intro row member same
    rw [rows] at member
    rcases List.mem_append.mp member with old | new
    · obtain ⟨before, inside, rfl⟩ := List.mem_map.mp old
      have own : before.id = findingId := (ids before inside).symm.trans same
      have status : (change before).status = (call.target? before.id).getD before.status :=
        (congrArg Prod.fst (moved before inside).course).trans (moves_status before call)
      rw [status, stands.there before inside own, own]
      cases call.target? findingId with
      | none => rfl
      | some target => rfl
    · obtain ⟨fresh, course⟩ := added_new db next call change added rows moved adds row new
      rw [same] at fresh
      rw [stands.absent fresh]
      cases aims : call.target? findingId with
      | none => exact congrArg Prod.fst course
      | some target =>
          obtain ⟨old, inside, own⟩ := target_stored db next call findingId target aims taken
          exact absurd own (fresh old inside)
  · intro none
    have before : ∀ row ∈ db.findings.rows, row.id ≠ findingId := by
      intro row member
      rw [← ids row member]
      exact none _ (by rw [rows]; exact List.mem_append_left _ (List.mem_map_of_mem member))
    rw [stands.absent before]
    cases aims : call.target? findingId with
    | none => rfl
    | some target =>
        obtain ⟨row, member, same⟩ := target_stored db next call findingId target aims taken
        exact absurd same (before row member)

theorem stands_after (db : Db) (calls : List LedgerCall) (last : Option FindingStatus)
    (stands : StandsAt findingId db last) : StandsAt findingId (ledger.after db calls) (lastTarget findingId db calls last) := by
  induction calls generalizing db last with
  | nil => exact stands
  | cons call rest ih =>
      apply ih
      change StandsAt findingId (ledger.committed call db) _
      cases taken : ledgerStep db call with
      | error error =>
          rw [committed_error db call error taken]
          exact stands
      | ok next =>
          rw [committed_ok db next call taken]
          exact stands_step findingId db next call last stands taken

-- What a batch leaves: the rows that were there and, numbered on in the order of the specs, one
-- for each new id. Each shows what the last spec with its id says.
def Records (db next : Db) (run : PipelineRun) (stageExec : StageExecution) (iteration : Nat) (specs : List FindingSpec) :
    Prop :=
  next.findings.rows = (db.findings.rows ++ firstRecords run stageExec iteration (latestDisplayId db run.ticketId + 1)
    (firstNew (db.findings.rows.map Finding.id) specs)).map (refreshedBy specs)

structure CallHolds (db : Db) (call : LedgerCall) : Prop where
  raises : ∀ error, ledgerStep db call = .error error → ledger.committed call db = db
  moves : ∀ next, ledgerStep db call = .ok next → ∀ row ∈ db.findings.rows, ∃ after ∈ next.findings.rows, Moved call row after
  opens : ∀ next, ledgerStep db call = .ok next → ∀ after ∈ next.findings.rows,
    (∀ row ∈ db.findings.rows, row.id ≠ after.id) → after.course = (.opened, [])
  records : ∀ run stageExec iteration specs, call = .record run stageExec iteration specs →
    ∃ next, ledgerStep db call = .ok next ∧ Records db next run stageExec iteration specs
  silent : ∀ next, ledgerStep db call = .ok next → (∀ run stageExec iteration specs, call ≠ .record run stageExec iteration specs) →
    next.findings.rows.map Finding.id = db.findings.rows.map Finding.id

structure LedgerHolds (db : Db) (calls : List LedgerCall) : Prop where
  numbered : ∀ ticketId, ∃ count, numbersOf (ledger.after db calls).findings.rows ticketId = List.range' 1 count
  ordered : ∀ earlier later, calls = earlier ++ later →
    (ledger.after db earlier).findings.rows.map Finding.stamp <+: (ledger.after db calls).findings.rows.map Finding.stamp
  lasting : ∀ earlier later, calls = earlier ++ later → ∀ row ∈ (ledger.after db earlier).findings.rows,
    ∃ next ∈ (ledger.after db calls).findings.rows, Lasting row next
  status : ∀ row ∈ (ledger.after db calls).findings.rows, row.status = (lastTarget row.id db calls none).getD .opened
  each : ∀ earlier call later, calls = earlier ++ call :: later → CallHolds (ledger.after db earlier) call

theorem call_holds (db : Db) (call : LedgerCall) : CallHolds db call where
  records run stageExec iteration specs same := by
    rw [same]
    exact ⟨_, rfl, recordFindings_rows _ stageExec iteration _ specs⟩
  silent next taken other := by
    obtain ⟨added, ⟨change, rows, moved⟩, adds⟩ := ledger_grows db next call taken
    cases adds with
    | none =>
        rw [rows, List.append_nil, List.map_map]
        exact List.map_congr_left fun row member => congrArg FindingStamp.id (moved row member).stamp
    | batch run stageExec iteration specs added records => exact absurd records (other run stageExec iteration specs)
  raises := committed_error db call
  moves next taken row member := by
    obtain ⟨added, ⟨change, rows, moved⟩, _⟩ := ledger_grows db next call taken
    exact ⟨change row, by rw [rows]; exact List.mem_append_left _ (List.mem_map_of_mem member), moved row member⟩
  opens next taken after member fresh := by
    obtain ⟨added, ⟨change, rows, moved⟩, adds⟩ := ledger_grows db next call taken
    rw [rows] at member
    rcases List.mem_append.mp member with old | new
    · obtain ⟨before, inside, rfl⟩ := List.mem_map.mp old
      exact absurd (congrArg FindingStamp.id (moved before inside).stamp).symm (fresh before inside)
    · exact (added_new db next call change added rows moved adds after new).2

-- The ledger over every series of calls that begins without findings.
theorem ledger_holds (db : Db) (calls : List LedgerCall) : LedgerHolds { db with findings := .empty } calls where
  numbered := after_counted _ calls fun _ => ⟨0, rfl⟩
  ordered earlier later split := by
    rw [split, Machine.after, Machine.after, List.foldl_append]
    exact (after_lasting _ later).2
  lasting earlier later split row member := by
    rw [split, Machine.after, List.foldl_append]
    exact (after_lasting _ later).1 row member
  status row member := by
    have stands : StandsAt row.id { db with findings := .empty } none := ⟨fun _ => nofun, fun _ => rfl⟩
    exact (stands_after row.id _ calls none stands).there row member rfl
  each earlier call _ _ := call_holds _ call

end Yaaos.Pipelines
