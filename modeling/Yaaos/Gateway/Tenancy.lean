import Mathlib.Data.Prod.Lex
import Yaaos.Gateway.Run

set_option autoImplicit false

namespace Yaaos.Gateway

open Yaaos.Base

instance (agentId : WireUuid) (request : ClaimRequest) (row other : AgentCommandRow) :
    Decidable (Precedes agentId request row other) :=
  inferInstanceAs (Decidable (_ ∨ _))

def candidate (env : ClaimEnv) (agentId : WireUuid) (request : ClaimRequest) (row : AgentCommandRow) : Bool :=
  waiting env.locked row && eligible agentId request row

def skipped (env : ClaimEnv) (row : AgentCommandRow) : Bool :=
  credentialsFail env row && runBearingKinds.contains row.commandKind

def ahead (env : ClaimEnv) (agentId : WireUuid) (request : ClaimRequest) (rows : List AgentCommandRow)
    (row : AgentCommandRow) : List AgentCommandRow :=
  rows.filter fun other => candidate env agentId request other && decide (Precedes agentId request other row)

structure InReach (env : ClaimEnv) (agentId : WireUuid) (request : ClaimRequest) (remaining : Nat)
    (rows : List AgentCommandRow) (row : AgentCommandRow) : Prop where
  member : row ∈ rows
  own : candidate env agentId request row = true
  passed : ∀ other ∈ ahead env agentId request rows row, skipped env other = true
  room : (ahead env agentId request rows row).length ≤ remaining

theorem precedes_irrefl (agentId : WireUuid) (request : ClaimRequest) (row : AgentCommandRow) :
    ¬ Precedes agentId request row row := by
  intro order
  rcases order with less | ⟨_, less⟩
  · exact Nat.lt_irrefl _ less
  · exact lt_irrefl _ less

theorem precedes_asymm (agentId : WireUuid) (request : ClaimRequest) (row other : AgentCommandRow)
    (order : Precedes agentId request row other) : ¬ Precedes agentId request other row := by
  intro reverse
  rcases order with less | ⟨same, less⟩ <;> rcases reverse with later | ⟨equal, later⟩
  · omega
  · omega
  · omega
  · exact lt_asymm less later

theorem precedes_total (agentId : WireUuid) (request : ClaimRequest) (row other : AgentCommandRow)
    (different : row.id ≠ other.id) : Precedes agentId request row other ∨ Precedes agentId request other row := by
  rcases Nat.lt_trichotomy (bucket agentId request row) (bucket agentId request other) with less | same | more
  · exact .inl (.inl less)
  · rcases lt_or_gt_of_ne different with older | younger
    · exact .inl (.inr ⟨same, older⟩)
    · exact .inr (.inr ⟨same.symm, younger⟩)
  · exact .inr (.inl more)

section Reach

variable (env : ClaimEnv) (agentId : WireUuid) (request : ClaimRequest) (rows : List AgentCommandRow)
  (unique : (rows.map AgentCommandRow.id).Nodup)

include unique

theorem select_least (row : AgentCommandRow) (member : row ∈ rows) (own : candidate env agentId request row = true) :
    ∃ first, selectEligibleRowNowait env.locked agentId request rows = some first ∧
      ∀ other ∈ rows, candidate env agentId request other = true →
        other = first ∨ Precedes agentId request first other := by
  let column : AgentCommandRow → Lex (Nat × WireUuid) := fun row => toLex (bucket agentId request row, row.id)
  cases least : firstWhere rows (candidate env agentId request) column with
  | none =>
      have missed := (firstWhere_none rows _ column).mp least row member
      rw [own] at missed
      cases missed
  | some minimal =>
      obtain ⟨present, hit, bound⟩ := firstWhere_some rows _ column minimal least
      have before : ∀ other ∈ rows, candidate env agentId request other = true →
          other = minimal ∨ Precedes agentId request minimal other := by
        intro other otherMember otherOwn
        by_cases same : other.id = minimal.id
        · exact .inl (List.inj_on_of_nodup_map unique otherMember present same)
        · refine .inr ((precedes_total agentId request minimal other (Ne.symm same)).resolve_right ?_)
          intro earlier
          have order : column other < column minimal := Prod.Lex.toLex_lt_toLex.mpr earlier
          exact absurd (bound other otherMember otherOwn) (not_le.mpr order)
      simp only [candidate, Bool.and_eq_true] at hit
      refine ⟨minimal, ?_, before⟩
      exact selectEligibleRowNowait_eq env.locked agentId request rows minimal present hit.1 hit.2
        fun other otherMember otherHeld otherFit =>
          before other otherMember (by simp only [candidate, otherHeld, otherFit, Bool.and_self])

theorem select_first (first : AgentCommandRow)
    (found : selectEligibleRowNowait env.locked agentId request rows = some first) (other : AgentCommandRow)
    (member : other ∈ rows) (own : candidate env agentId request other = true) :
    other = first ∨ Precedes agentId request first other := by
  obtain ⟨least, selected, before⟩ := select_least env agentId request rows unique other member own
  rw [found] at selected
  cases selected
  exact before other member own

theorem ahead_first (first : AgentCommandRow)
    (found : selectEligibleRowNowait env.locked agentId request rows = some first) :
    ahead env agentId request rows first = [] := by
  rw [ahead, List.filter_eq_nil_iff]
  intro other member both
  simp only [Bool.and_eq_true, decide_eq_true_eq] at both
  rcases select_first env agentId request rows unique first found other member both.1 with same | order
  · exact precedes_irrefl agentId request first (same ▸ both.2)
  · exact precedes_asymm agentId request first other order both.2

theorem ahead_rest (first row : AgentCommandRow) (member : first ∈ rows)
    (own : candidate env agentId request first = true) (order : Precedes agentId request first row) :
    (ahead env agentId request rows row).length =
      (ahead env agentId request (rows.filter fun other => decide (other.id ≠ first.id)) row).length + 1 := by
  have swapped : ahead env agentId request (rows.filter fun other => decide (other.id ≠ first.id)) row =
      (ahead env agentId request rows row).filter fun other => decide (other.id ≠ first.id) := by
    simp only [ahead, List.filter_comm]
  have inside : first ∈ ahead env agentId request rows row := by
    rw [ahead, List.mem_filter]
    exact ⟨member, by simp only [own, order, decide_true, Bool.and_self]⟩
  have distinct : (ahead env agentId request rows row).Nodup :=
    (List.Nodup.of_map _ unique).filter _
  have alone : (ahead env agentId request rows row).filter (fun other => !decide (other.id ≠ first.id)) = [first] := by
    have only : ∀ other ∈ (ahead env agentId request rows row).filter (fun other => !decide (other.id ≠ first.id)),
        other = first := by
      intro other otherMember
      obtain ⟨present, same⟩ := List.mem_filter.mp otherMember
      exact List.inj_on_of_nodup_map unique (List.mem_filter.mp present).1 member (by simpa using same)
    have repeated := List.eq_replicate_of_mem only
    have single := List.nodup_replicate.mp (repeated ▸ distinct.filter _)
    have held : first ∈ (ahead env agentId request rows row).filter (fun other => !decide (other.id ≠ first.id)) :=
      List.mem_filter.mpr ⟨inside, by simp⟩
    have positive := List.length_pos_of_mem held
    have one : ((ahead env agentId request rows row).filter (fun other => !decide (other.id ≠ first.id))).length = 1 := by
      omega
    rw [repeated, one]
    rfl
  rw [swapped]
  have parts := List.length_eq_length_filter_add (l := ahead env agentId request rows row)
    (fun other => decide (other.id ≠ first.id))
  rw [alone] at parts
  simpa using parts

end Reach

theorem inReach_first (env : ClaimEnv) (agentId : WireUuid) (request : ClaimRequest) (remaining : Nat)
    (rows : List AgentCommandRow) (unique : (rows.map AgentCommandRow.id).Nodup) (first : AgentCommandRow)
    (found : selectEligibleRowNowait env.locked agentId request rows = some first) :
    InReach env agentId request remaining rows first := by
  obtain ⟨member, held, fit⟩ := selectEligibleRowNowait_some env.locked agentId request rows first found
  have nothing := ahead_first env agentId request rows unique first found
  refine ⟨member, by simp only [candidate, held, fit, Bool.and_self], ?_, ?_⟩
  · intro other inside
    rw [nothing] at inside
    cases inside
  · rw [nothing]
    exact Nat.zero_le remaining

theorem inReach_rest (env : ClaimEnv) (agentId : WireUuid) (request : ClaimRequest) (remaining : Nat)
    (rows : List AgentCommandRow) (unique : (rows.map AgentCommandRow.id).Nodup) (first row : AgentCommandRow)
    (found : selectEligibleRowNowait env.locked agentId request rows = some first) (different : row ≠ first) :
    InReach env agentId request remaining rows row ↔
      skipped env first = true ∧ ∃ left, remaining = left + 1 ∧
        InReach env agentId request left (rows.filter fun other => decide (other.id ≠ first.id)) row := by
  obtain ⟨member, held, fit⟩ := selectEligibleRowNowait_some env.locked agentId request rows first found
  have own : candidate env agentId request first = true := by simp only [candidate, held, fit, Bool.and_self]
  have swapped : ∀ other ∈ ahead env agentId request rows row,
      other = first ∨ other ∈ ahead env agentId request (rows.filter fun other => decide (other.id ≠ first.id)) row := by
    intro other inside
    obtain ⟨present, both⟩ := List.mem_filter.mp inside
    by_cases same : other.id = first.id
    · exact .inl (List.inj_on_of_nodup_map unique present member same)
    · exact .inr (List.mem_filter.mpr ⟨List.mem_filter.mpr ⟨present, by simpa using same⟩, both⟩)
  constructor
  · intro reach
    have order := (select_first env agentId request rows unique first found row reach.member reach.own).resolve_left
      different
    have inside : first ∈ ahead env agentId request rows row :=
      List.mem_filter.mpr ⟨member, by simp only [own, order, decide_true, Bool.and_self]⟩
    have count := ahead_rest env agentId request rows unique first row member own order
    have room := reach.room
    refine ⟨reach.passed first inside, remaining - 1, by omega, ?_, reach.own, ?_, by omega⟩
    · refine List.mem_filter.mpr ⟨reach.member, ?_⟩
      have apart : row.id ≠ first.id := fun same => different (List.inj_on_of_nodup_map unique reach.member member same)
      simpa using apart
    · intro other otherInside
      obtain ⟨present, both⟩ := List.mem_filter.mp otherInside
      exact reach.passed other (List.mem_filter.mpr ⟨(List.mem_filter.mp present).1, both⟩)
  · rintro ⟨skip, left, rfl, reach⟩
    have present := (List.mem_filter.mp reach.member).1
    have order := (select_first env agentId request rows unique first found row present reach.own).resolve_left
      different
    have count := ahead_rest env agentId request rows unique first row member own order
    have room := reach.room
    refine ⟨present, reach.own, ?_, by omega⟩
    intro other inside
    rcases swapped other inside with same | later
    · rw [same]
      exact skip
    · exact reach.passed other later

theorem takenUp_some (env : ClaimEnv) (agentId : WireUuid) (request : ClaimRequest) (remaining : Nat)
    (rows : List AgentCommandRow) (first row : AgentCommandRow)
    (found : selectEligibleRowNowait env.locked agentId request rows = some first) (different : row ≠ first) :
    row ∈ takenUp env agentId request remaining rows ↔ skipped env first = true ∧ ∃ left, remaining = left + 1 ∧
      row ∈ takenUp env agentId request left (rows.filter fun other => decide (other.id ≠ first.id)) := by
  conv_lhs => unfold takenUp
  rw [found]
  simp only [List.mem_cons, different, false_or]
  unfold skipped
  cases credentialsFail env first && runBearingKinds.contains first.commandKind with
  | false => simp
  | true =>
      cases remaining with
      | zero => simp
      | succ left => simp

theorem takenUp_first (env : ClaimEnv) (agentId : WireUuid) (request : ClaimRequest) (remaining : Nat)
    (rows : List AgentCommandRow) (first : AgentCommandRow)
    (found : selectEligibleRowNowait env.locked agentId request rows = some first) :
    first ∈ takenUp env agentId request remaining rows := by
  unfold takenUp
  simp [found]

theorem takenUp_iff (env : ClaimEnv) (agentId : WireUuid) (request : ClaimRequest) (remaining : Nat)
    (rows : List AgentCommandRow) (unique : (rows.map AgentCommandRow.id).Nodup) (row : AgentCommandRow) :
    row ∈ takenUp env agentId request remaining rows ↔ InReach env agentId request remaining rows row := by
  induction remaining using Nat.strong_induction_on generalizing rows with
  | _ remaining ih =>
      cases found : selectEligibleRowNowait env.locked agentId request rows with
      | none =>
          rw [takenUp_nothing env agentId request remaining rows found]
          simp only [List.not_mem_nil, false_iff]
          intro reach
          obtain ⟨first, selected, _⟩ := select_least env agentId request rows unique row reach.member reach.own
          rw [found] at selected
          cases selected
      | some first =>
          by_cases same : row = first
          · subst same
            exact ⟨fun _ => inReach_first env agentId request remaining rows unique row found,
              fun _ => takenUp_first env agentId request remaining rows row found⟩
          · rw [takenUp_some env agentId request remaining rows first row found same,
              inReach_rest env agentId request remaining rows unique first row found same]
            have still : ((rows.filter fun other => decide (other.id ≠ first.id)).map AgentCommandRow.id).Nodup :=
              unique.sublist (List.filter_sublist.map _)
            refine and_congr_right fun _ => exists_congr fun left => and_congr_right fun count => ?_
            exact ih left (by omega) _ still

def claimedOutcome (env : ClaimEnv) (agentId : WireUuid) (request : ClaimRequest) (db : GatewayDb) :
    GatewayDb × Option (AgentCommandRow × AgentCommand) :=
  match claimRow env agentId request db with
  | .ok outcome => outcome
  | .error _ => (db, none)

structure Isolated (orgId : WireUuid) (before : GatewayDb)
    (outcome : GatewayDb × Option (AgentCommandRow × AgentCommand)) : Prop where
  returned : ∀ row command, outcome.2 = some (row, command) → row.orgId = orgId
  changed : ∀ row ∈ before.agentCommands.rows, ∀ next ∈ outcome.1.agentCommands.rows, next.id = row.id →
    (next.status ≠ row.status ∨ next.agentId ≠ row.agentId ∨ next.completionTokenHash ≠ row.completionTokenHash) →
    row.orgId = orgId

theorem claimedRow_id (env : ClaimEnv) (agentId : WireUuid) (request : ClaimRequest) (first : Nat)
    (taken : List AgentCommandRow) (row next : AgentCommandRow)
    (claimed : ClaimedRow env agentId request first taken row next) : next.id = row.id := by
  rcases claimed with ⟨_, _, took⟩ | ⟨_, same⟩
  · exact took.sameId
  · rw [same]

theorem isolated_nothing (orgId : WireUuid) (db : GatewayDb) : Isolated orgId db (db, none) where
  returned := by
    intro row command same
    cases same
  changed := by
    intro row member next nextMember sameId changed
    have same := Table.eq_of_key db.agentCommands next row nextMember member sameId
    subst same
    simp at changed

def FreshTokens (env : ClaimEnv) (db : GatewayDb) : Prop :=
  ∀ row ∈ db.agentCommands.rows, ∀ draw, row.completionTokenHash ≠ some (env.sha256 (env.token draw))

theorem claimRow_isolated_iff (env : ClaimEnv) (agent : WorkspaceAgentRow) (request : ClaimRequest)
    (db : GatewayDb) (outcome : GatewayDb × Option (AgentCommandRow × AgentCommand))
    (returned : claimRow env agent.id request db = .ok outcome) (fresh : FreshTokens env db) :
    Isolated agent.orgId db outcome ↔
      ∀ row, InReach env agent.id request hydrationRetireCap db.agentCommands.rows row → row.orgId = agent.orgId := by
  have spec := claimRow_spec env agent.id request db outcome.1 outcome.2 returned
  have reach := fun row => takenUp_iff env agent.id request hydrationRetireCap db.agentCommands.rows
    db.agentCommands.unique row
  constructor
  · intro isolated row inReach
    have inside := (reach row).mpr inReach
    obtain ⟨next, nextMember, claimed⟩ := Table.rewrites_forward _ _ _ spec.rewrites row inReach.member
    rcases claimed with ⟨position, _, took⟩ | ⟨outside, _⟩
    · refine isolated.changed row inReach.member next nextMember took.sameId (.inr (.inr ?_))
      rw [took.hash]
      exact fun same => fresh row inReach.member _ same.symm
    · exact absurd inside outside
  · intro own
    refine ⟨?_, ?_⟩
    · intro row command same
      exact own row ((reach row).mp (spec.handedRow row command same).1)
    · intro row member next nextMember sameId changed
      have claimed := Table.rewrites_row _ _ _ spec.rewrites (claimedRow_id env agent.id request _ _) row next member
        nextMember sameId
      rcases claimed with ⟨position, inside, _⟩ | ⟨_, unchanged⟩
      · exact own row ((reach row).mp (List.mem_of_getElem? inside))
      · subst unchanged
        simp at changed

def invalid (payload : Dict Json) : Option GatewayError :=
  match validatePython payload with
  | .ok _ => none
  | .error error => some (.validation error)

def failure (env : ClaimEnv) (row : AgentCommandRow) : Option GatewayError :=
  match env.hydrators row.commandKind with
  | none => invalid row.payload
  | some hydrator =>
    match hydrator row.payload row.orgId with
    | .ok hydratedPayload => invalid hydratedPayload
    | .error .raised => some .hydratorRaised
    | .error (.credential _) => none

theorem buildCommand_raises (raw : String) (row : AgentCommandRow) (payload : Dict Json) (error : GatewayError) :
    buildCommand raw row payload = .error error ↔ invalid payload = some error := by
  unfold buildCommand invalid
  cases validatePython payload with
  | error error => simp
  | ok command => simp

theorem map_raises {ε α β : Type} (body : Except ε α) (f : α → β) (error : ε) :
    body.map f = .error error ↔ body = .error error := by
  cases body with
  | error error => simp [Except.map]
  | ok result => simp [Except.map]

theorem settle_raises (env : ClaimEnv) (draw : Nat) (row : AgentCommandRow) (error : GatewayError) :
    settle env draw row = .error error ↔ failure env row = some error := by
  unfold settle failure
  cases registered : env.hydrators row.commandKind with
  | none => simp only [map_raises, buildCommand_raises]
  | some hydrator =>
      simp only
      cases hydrated : hydrator row.payload row.orgId with
      | ok payload => simp only [map_raises, buildCommand_raises]
      | error cause =>
          cases cause with
          | raised => simp
          | credential userMessage => simp

theorem failure_kept (env : ClaimEnv) (row : AgentCommandRow) (error : GatewayError) (fails : failure env row = some error) :
    skipped env row = false := by
  by_contra skip
  rw [Bool.not_eq_false, skipped, Bool.and_eq_true] at skip
  have raised := (settle_raises env 0 row error).mpr fails
  rw [settle_skipped env 0 row skip.1] at raised
  cases raised

theorem lastSettled_raises (env : ClaimEnv) (first : Nat) (taken : List AgentCommandRow) (error : GatewayError) :
    lastSettled env first taken = .error error ↔ ∃ last, taken.getLast? = some last ∧ failure env last = some error := by
  unfold lastSettled
  cases last : taken.getLast? with
  | none => simp
  | some row => simp only [settle_raises, Option.some.injEq, exists_eq_left']

def received (env : ClaimEnv) (agentId : WireUuid) (request : ClaimRequest) (db : GatewayDb) :
    Except GatewayError (Option (AgentCommandRow × AgentCommand)) :=
  (claimRow env agentId request db).map Prod.snd

def Raises (env : ClaimEnv) (agentId : WireUuid) (request : ClaimRequest) (db : GatewayDb) (error : GatewayError) : Prop :=
  ∃ row, InReach env agentId request hydrationRetireCap db.agentCommands.rows row ∧ failure env row = some error

def ReachesOwn (env : ClaimEnv) (agent : WorkspaceAgentRow) (request : ClaimRequest) (db : GatewayDb) : Prop :=
  ∀ row, InReach env agent.id request hydrationRetireCap db.agentCommands.rows row → row.orgId = agent.orgId

theorem received_raises (env : ClaimEnv) (agentId : WireUuid) (request : ClaimRequest) (db : GatewayDb)
    (error : GatewayError) : received env agentId request db = .error error ↔ Raises env agentId request db error := by
  rw [received, claimRow_handed, lastSettled_raises]
  have reach := fun row => takenUp_iff env agentId request hydrationRetireCap db.agentCommands.rows
    db.agentCommands.unique row
  constructor
  · rintro ⟨last, found, fails⟩
    exact ⟨last, (reach last).mp (List.mem_of_getLast? found), fails⟩
  · rintro ⟨row, inReach, fails⟩
    exact ⟨row, takenUp_last env agentId request _ _ row (failure_kept env row error fails) ((reach row).mpr inReach), fails⟩

theorem select_own (env : ClaimEnv) (agentId : WireUuid) (request : ClaimRequest) (own : AgentCommandRow → Prop)
    (left right : List AgentCommandRow) (leftUnique : (left.map AgentCommandRow.id).Nodup)
    (rightUnique : (right.map AgentCommandRow.id).Nodup) (alike : ∀ row, own row → (row ∈ left ↔ row ∈ right))
    (leftOwn : ∀ first, selectEligibleRowNowait env.locked agentId request left = some first → own first)
    (rightOwn : ∀ first, selectEligibleRowNowait env.locked agentId request right = some first → own first) :
    selectEligibleRowNowait env.locked agentId request left = selectEligibleRowNowait env.locked agentId request right := by
  cases found : selectEligibleRowNowait env.locked agentId request left with
  | none =>
      cases other : selectEligibleRowNowait env.locked agentId request right with
      | none => rfl
      | some second =>
          have reach := inReach_first env agentId request 0 right rightUnique second other
          have present := (alike second (rightOwn second other)).mpr reach.member
          obtain ⟨first, selected, _⟩ := select_least env agentId request left leftUnique second present reach.own
          rw [found] at selected
          cases selected
  | some first =>
      have reach := inReach_first env agentId request 0 left leftUnique first found
      have present := (alike first (leftOwn first found)).mp reach.member
      obtain ⟨second, other, before⟩ := select_least env agentId request right rightUnique first present reach.own
      rw [other]
      rcases before first present reach.own with equal | earlier
      · rw [equal]
      · have held := inReach_first env agentId request 0 right rightUnique second other
        have back := (alike second (rightOwn second other)).mpr held.member
        rcases select_first env agentId request left leftUnique first found second back held.own with equal | later
        · rw [equal]
        · exact absurd later (precedes_asymm agentId request second first earlier)

-- The rows of an org decide what is taken up as long as no other row is.
theorem takenUp_own (env : ClaimEnv) (agentId : WireUuid) (request : ClaimRequest) (remaining : Nat)
    (own : AgentCommandRow → Prop) (left right : List AgentCommandRow) (leftUnique : (left.map AgentCommandRow.id).Nodup)
    (rightUnique : (right.map AgentCommandRow.id).Nodup) (alike : ∀ row, own row → (row ∈ left ↔ row ∈ right))
    (leftOwn : ∀ row ∈ takenUp env agentId request remaining left, own row)
    (rightOwn : ∀ row ∈ takenUp env agentId request remaining right, own row) :
    takenUp env agentId request remaining left = takenUp env agentId request remaining right := by
  induction remaining using Nat.strong_induction_on generalizing left right with
  | _ remaining ih =>
      have same := select_own env agentId request own left right leftUnique rightUnique alike
        (fun first found => leftOwn first (takenUp_first env agentId request remaining left first found))
        fun first found => rightOwn first (takenUp_first env agentId request remaining right first found)
      unfold takenUp at leftOwn rightOwn ⊢
      rw [← same] at rightOwn ⊢
      cases found : selectEligibleRowNowait env.locked agentId request left with
      | none => rfl
      | some first =>
          simp only [found] at leftOwn rightOwn ⊢
          cases skip : credentialsFail env first && runBearingKinds.contains first.commandKind with
          | false => rfl
          | true =>
              cases remaining with
              | zero => rfl
              | succ remaining =>
                  simp only [skip, if_true, List.mem_cons] at leftOwn rightOwn ⊢
                  refine congrArg (first :: ·) (ih remaining (Nat.lt_succ_self _) _ _
                    (leftUnique.sublist (List.filter_sublist.map _)) (rightUnique.sublist (List.filter_sublist.map _))
                    (fun row mine => ?_) (fun row member => leftOwn row (.inr member))
                    (fun row member => rightOwn row (.inr member)))
                  rw [List.mem_filter, List.mem_filter, alike row mine]

-- Two states of the queue that differ in rows of other orgs at most.
def Alike (orgId : WireUuid) (db other : GatewayDb) : Prop :=
  ∀ row : AgentCommandRow, row.orgId = orgId → (row ∈ db.agentCommands.rows ↔ row ∈ other.agentCommands.rows)

theorem received_own (env : ClaimEnv) (agent : WorkspaceAgentRow) (request : ClaimRequest) (db other : GatewayDb)
    (alike : Alike agent.orgId db other) (own : ReachesOwn env agent request db) (ownOther : ReachesOwn env agent request other) :
    received env agent.id request db = received env agent.id request other := by
  rw [received, received, claimRow_handed, claimRow_handed]
  refine congrArg _ (takenUp_own env agent.id request _ (fun row => row.orgId = agent.orgId) _ _ db.agentCommands.unique
    other.agentCommands.unique alike (fun row taken => own row ?_) fun row taken => ownOther row ?_)
  · exact (takenUp_iff env agent.id request _ _ db.agentCommands.unique row).mp taken
  · exact (takenUp_iff env agent.id request _ _ other.agentCommands.unique row).mp taken

theorem outcome_isolated (env : ClaimEnv) (agent : WorkspaceAgentRow) (request : ClaimRequest) (db : GatewayDb)
    (fresh : FreshTokens env db) :
    Isolated agent.orgId db (claimedOutcome env agent.id request db) ↔
      (∃ error, Raises env agent.id request db error) ∨ ReachesOwn env agent request db := by
  simp only [← received_raises]
  unfold claimedOutcome received
  cases returned : claimRow env agent.id request db with
  | error error => simp [isolated_nothing, Except.map]
  | ok outcome =>
      rw [claimRow_isolated_iff env agent request db outcome returned fresh]
      simp [Except.map, ReachesOwn]

-- The call keeps to its tenant in both states, and the rows of other orgs do not
-- tell in what the agent receives.
structure Tenanted (env : ClaimEnv) (agent : WorkspaceAgentRow) (request : ClaimRequest) (db other : GatewayDb) : Prop where
  isolated : Isolated agent.orgId db (claimedOutcome env agent.id request db)
  isolatedOther : Isolated agent.orgId other (claimedOutcome env agent.id request other)
  same : received env agent.id request db = received env agent.id request other

-- Nothing in the three buckets compares the org of a row with the agent's.
theorem claim_isolated_iff (env : ClaimEnv) (agent : WorkspaceAgentRow) (request : ClaimRequest) (db other : GatewayDb)
    (alike : Alike agent.orgId db other) (fresh : FreshTokens env db) (freshOther : FreshTokens env other) :
    Tenanted env agent request db other ↔
      (ReachesOwn env agent request db ∧ ReachesOwn env agent request other) ∨
        ∃ error, Raises env agent.id request db error ∧ Raises env agent.id request other error := by
  constructor
  · rintro ⟨isolated, isolatedOther, same⟩
    by_cases raised : ∃ error, Raises env agent.id request db error
    · obtain ⟨error, raises⟩ := raised
      refine .inr ⟨error, raises, ?_⟩
      rwa [← received_raises, ← same, received_raises]
    · have raisedOther : ¬ ∃ error, Raises env agent.id request other error := by
        rintro ⟨error, raises⟩
        rw [← received_raises, ← same, received_raises] at raises
        exact raised ⟨error, raises⟩
      exact .inl ⟨((outcome_isolated env agent request db fresh).mp isolated).resolve_left raised,
        ((outcome_isolated env agent request other freshOther).mp isolatedOther).resolve_left raisedOther⟩
  · rintro (⟨own, ownOther⟩ | ⟨error, raises, raisesOther⟩)
    · exact ⟨(outcome_isolated env agent request db fresh).mpr (.inr own),
        (outcome_isolated env agent request other freshOther).mpr (.inr ownOther),
        received_own env agent request db other alike own ownOther⟩
    · refine ⟨(outcome_isolated env agent request db fresh).mpr (.inl ⟨error, raises⟩),
        (outcome_isolated env agent request other freshOther).mpr (.inl ⟨error, raisesOther⟩), ?_⟩
      rw [(received_raises env agent.id request db error).mpr raises,
        (received_raises env agent.id request other error).mpr raisesOther]

def tenantAgent : WorkspaceAgentRow := { id := sampleId 4, orgId := sampleId 7, lifecycle := .active }

def sharedQueue : QueueState :=
  let agents : Table WorkspaceAgentRow WireUuid WorkspaceAgentRow.id := {
    rows := [tenantAgent], unique := List.nodup_singleton _ }
  committed (.dispatch (sampleDispatch sampleProvision .unassigned))
    { QueueState.empty with db := { GatewayDb.empty with workspaceAgents := agents } }

theorem sharedQueue_fresh (now : Nat) : FreshTokens (sampleClaimEnv now "first") sharedQueue.db := by
  intro row member draw
  have rows : sharedQueue.db.agentCommands.rows = [(sampleDispatch sampleProvision .unassigned).row] := rfl
  rw [rows, List.mem_singleton] at member
  rw [member]
  intro same
  cases same

def ownDispatch : Dispatch := { sampleDispatch sampleProvision .unassigned with orgId := sampleId 7 }

def laterProvision : AgentCommand :=
  match sampleProvision with
  | .provisionWorkspace _ fields => .provisionWorkspace (sampleBase 9) fields
  | other => other

def ownQueue : QueueState := committed (.dispatch ownDispatch) .empty

def joinedQueue : QueueState := committed (.dispatch (sampleDispatch laterProvision .unassigned)) ownQueue

theorem ownQueue_rows : ownQueue.db.agentCommands.rows = [ownDispatch.row] := rfl

theorem joinedQueue_rows : joinedQueue.db.agentCommands.rows =
    [ownDispatch.row, (sampleDispatch laterProvision .unassigned).row] := rfl

theorem claim_isolated_joined :
    Tenanted (sampleClaimEnv 0 "first") tenantAgent sampleRequest ownQueue.db joinedQueue.db := by
  have reaches : ∀ db : GatewayDb,
      takenUp (sampleClaimEnv 0 "first") (sampleId 4) sampleRequest hydrationRetireCap db.agentCommands.rows =
        [ownDispatch.row] → ReachesOwn (sampleClaimEnv 0 "first") tenantAgent sampleRequest db := by
    intro db taken row inReach
    have first := (takenUp_iff _ _ _ _ _ db.agentCommands.unique row).mpr inReach
    rw [show tenantAgent.id = sampleId 4 from rfl, taken] at first
    rw [List.mem_singleton.mp first]
    rfl
  refine (claim_isolated_iff _ tenantAgent _ ownQueue.db joinedQueue.db ?_ ?_ ?_).mpr (.inl ⟨reaches _ rfl, reaches _ rfl⟩)
  · intro row own
    rw [ownQueue_rows, joinedQueue_rows, List.mem_singleton, List.mem_cons, List.mem_singleton]
    refine (or_iff_left ?_).symm
    rintro rfl
    exact absurd own (by decide)
  · intro row member draw
    rw [ownQueue_rows, List.mem_singleton] at member
    rw [member]
    intro same
    cases same
  · intro row member draw
    rw [joinedQueue_rows, List.mem_cons, List.mem_singleton] at member
    rcases member with rfl | rfl
    · intro same
      cases same
    · intro same
      cases same

-- An agent of one org receives the ProvisionWorkspace of another, with its token.
theorem claim_crosses_tenants : ¬ ∀ (env : ClaimEnv) (agent : WorkspaceAgentRow) (request : ClaimRequest)
    (db other : GatewayDb) (_ : agent ∈ db.workspaceAgents.rows) (_ : Alike agent.orgId db other)
    (_ : FreshTokens env db) (_ : FreshTokens env other), Tenanted env agent request db other := by
  intro always
  have tenanted := always (sampleClaimEnv 0 "first") tenantAgent sampleRequest sharedQueue.db sharedQueue.db
    (List.mem_singleton.mpr rfl) (fun _ _ => Iff.rfl) (sharedQueue_fresh 0) (sharedQueue_fresh 0)
  have foreign := tenanted.isolated.returned (sampleDispatch sampleProvision .unassigned).row _ rfl
  cases foreign

end Yaaos.Gateway
