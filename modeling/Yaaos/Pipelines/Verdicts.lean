import Yaaos.Pipelines.Progress

set_option autoImplicit false

namespace Yaaos.Pipelines

open Yaaos.Base

def VerdictStatus.outcome : VerdictStatus → FindingStatus
  | .fixed => .resolved
  | .stillPresent => .opened
  | .userOverrode => .dismissed

def assertions (findingId : Uuid) (verdicts : List PriorFindingVerdict) : List VerdictStatus :=
  verdicts.filterMap fun verdict => if verdict.findingId = findingId then verdict.status else none

def ownStatusById (db : Db) (row : StageExecution) (findingId : Uuid) : Option FindingStatus :=
  ((listForStageExecution db row.id).find? fun finding => finding.id == findingId).map Finding.status

def FindingStatus.take (known status : FindingStatus) : VerdictStatus → Option FindingStatus
  | .fixed => if status = .dismissed then none else some .resolved
  | .stillPresent =>
      if known = .resolved then if status = .dismissed then none else some .opened
      else if status = .opened then some .opened else none
  | .userOverrode => some .dismissed

structure Judged (before : Db) (verdicts : List PriorFindingVerdict) (after : Db) : Prop where
  decided : ∀ finding ∈ before.findings.rows, finding.status ≠ .dismissed →
    ∀ said, (assertions finding.id verdicts).getLast? = some said →
      ∃ next, after.findings.find? finding.id = some next ∧ next.status = said.outcome
  dismissed : ∀ finding ∈ before.findings.rows, finding.status = .dismissed →
    ∃ next, after.findings.find? finding.id = some next ∧ next.status = .dismissed
  unsaid : ∀ findingId, assertions findingId verdicts = [] →
    after.findings.find? findingId = before.findings.find? findingId

-- The order in which statuses may be asserted of a finding: only an override is
-- about a dismissed finding or follows an override; "still present" is neither
-- about a resolved finding of another stage execution nor follows a fix of an open one.
structure Consistent (own : Prop) (status : FindingStatus) (said : List VerdictStatus) : Prop where
  dismissed : status = .dismissed → ∀ verdict ∈ said, verdict = .userOverrode
  overridden : said.Pairwise fun earlier later => earlier = .userOverrode → later = .userOverrode
  elsewhere : status = .resolved → ¬ own → .stillPresent ∉ said
  refuted : status = .opened → said.Pairwise fun earlier later => earlier = .fixed → later ≠ .stillPresent

section Statuses

variable (known status : FindingStatus) (said : List VerdictStatus)

theorem take_outcome (verdict : VerdictStatus) (next : FindingStatus)
    (taken : FindingStatus.take known status verdict = some next) : next = verdict.outcome := by
  cases verdict <;> simp only [FindingStatus.take] at taken <;> grind [VerdictStatus.outcome]

theorem takes_last (final : FindingStatus) (taken : said.foldlM (FindingStatus.take known) status = some final) :
    final = ((said.getLast?).map VerdictStatus.outcome).getD status := by
  induction said generalizing status with
  | nil => simpa using taken.symm
  | cons verdict rest ih =>
      rw [List.foldlM_cons, Option.bind_eq_bind, Option.bind_eq_some_iff] at taken
      obtain ⟨next, first, later⟩ := taken
      rw [ih next later, take_outcome known status verdict next first]
      cases rest with
      | nil => rfl
      | cons second others => simp [List.getLast?_cons]

theorem takes_dismissed :
    (said.foldlM (FindingStatus.take known) .dismissed).isSome ↔ ∀ verdict ∈ said, verdict = .userOverrode := by
  induction said with
  | nil => simp
  | cons verdict rest ih =>
      rw [List.foldlM_cons, List.forall_mem_cons, ← ih]
      cases verdict <;> simp [FindingStatus.take]

theorem takes_reopened (live : status ≠ .dismissed) :
    (said.foldlM (FindingStatus.take .resolved) status).isSome ↔
      said.Pairwise fun earlier later => earlier = .userOverrode → later = .userOverrode := by
  induction said generalizing status with
  | nil => simp
  | cons verdict rest ih =>
      rw [List.foldlM_cons, List.pairwise_cons]
      cases verdict with
      | fixed => simp [FindingStatus.take, live, ih .resolved]
      | stillPresent => simp [FindingStatus.take, live, ih .opened]
      | userOverrode =>
          have overrides := takes_dismissed .resolved rest
          simp only [FindingStatus.take, Option.bind_eq_bind, Option.bind_some, overrides, forall_const]
          refine ⟨fun only => ⟨only, ?_⟩, And.left⟩
          exact List.pairwise_iff_forall_sublist.mpr fun pair _ => only _ (pair.subset (by simp))

theorem takes_resolved (unknown : known ≠ .resolved) :
    (said.foldlM (FindingStatus.take known) .resolved).isSome ↔
      said.Pairwise (fun earlier later => earlier = .userOverrode → later = .userOverrode) ∧ .stillPresent ∉ said := by
  induction said with
  | nil => simp
  | cons verdict rest ih =>
      rw [List.foldlM_cons, List.pairwise_cons]
      cases verdict with
      | fixed => simp [FindingStatus.take, ih]
      | stillPresent => simp [FindingStatus.take, unknown]
      | userOverrode =>
          have overrides := takes_dismissed known rest
          simp only [FindingStatus.take, Option.bind_eq_bind, Option.bind_some, overrides, forall_const]
          constructor
          · intro only
            refine ⟨⟨only, ?_⟩, fun sighted => ?_⟩
            · exact List.pairwise_iff_forall_sublist.mpr fun pair _ => only _ (pair.subset (by simp))
            · rcases List.mem_cons.mp sighted with first | later
              · cases first
              · cases only _ later
          · exact fun both => both.1.1

theorem takes_opened (unknown : known ≠ .resolved) :
    (said.foldlM (FindingStatus.take known) .opened).isSome ↔
      said.Pairwise (fun earlier later => earlier = .userOverrode → later = .userOverrode) ∧
        said.Pairwise fun earlier later => earlier = .fixed → later ≠ .stillPresent := by
  induction said with
  | nil => simp
  | cons verdict rest ih =>
      rw [List.foldlM_cons, List.pairwise_cons, List.pairwise_cons]
      cases verdict with
      | fixed =>
          have resolved := takes_resolved known rest unknown
          simp only [FindingStatus.take, reduceCtorEq, ↓reduceIte, Option.bind_eq_bind, Option.bind_some, resolved,
            IsEmpty.forall_iff, implies_true, true_and, forall_const]
          constructor
          · intro both
            refine ⟨both.1, fun later member same => both.2 (same ▸ member), ?_⟩
            exact List.pairwise_iff_forall_sublist.mpr fun pair _ same => both.2 (same ▸ pair.subset (by simp))
          · exact fun both => ⟨both.1, fun member => both.2.1 _ member rfl⟩
      | stillPresent => simp [FindingStatus.take, unknown, ih]
      | userOverrode =>
          have overrides := takes_dismissed known rest
          simp only [FindingStatus.take, Option.bind_eq_bind, Option.bind_some, overrides, forall_const, reduceCtorEq,
            IsEmpty.forall_iff, implies_true, true_and]
          constructor
          · intro only
            have each (earlier later : VerdictStatus) (pair : [earlier, later].Sublist rest) : later = .userOverrode :=
              only _ (pair.subset (by simp))
            refine ⟨⟨only, List.pairwise_iff_forall_sublist.mpr fun pair _ => each _ _ pair⟩, ?_⟩
            refine List.pairwise_iff_forall_sublist.mpr fun pair _ => ?_
            rw [each _ _ pair]
            decide
          · exact fun both => both.1.1

theorem takes_consistent (own : Prop) [Decidable own] :
    (said.foldlM (FindingStatus.take (if own then status else .opened)) status).isSome ↔ Consistent own status said := by
  cases status with
  | dismissed =>
      rw [takes_dismissed]
      refine ⟨fun only => ⟨fun _ => only, ?_, by simp, by simp⟩, fun consistent => consistent.dismissed rfl⟩
      exact List.pairwise_iff_forall_sublist.mpr fun pair _ => only _ (pair.subset (by simp))
  | opened =>
      rw [takes_opened _ _ (by split <;> decide)]
      exact ⟨fun both => ⟨by simp, both.1, by simp, fun _ => both.2⟩,
        fun consistent => ⟨consistent.overridden, consistent.refuted rfl⟩⟩
  | resolved =>
      by_cases mine : own
      · rw [if_pos mine, takes_reopened _ _ (by decide)]
        exact ⟨fun overridden => ⟨by simp, overridden, fun _ other => absurd mine other, by simp⟩,
          Consistent.overridden⟩
      · rw [if_neg mine, takes_resolved _ _ (by decide)]
        exact ⟨fun both => ⟨by simp, both.1, fun _ _ => both.2, by simp⟩,
          fun consistent => ⟨consistent.overridden, consistent.elsewhere rfl mine⟩⟩

end Statuses

section Passes

def statusOf (db : Db) (findingId : Uuid) : Option FindingStatus := (db.findings.find? findingId).map Finding.status

structure Turned (db : Db) (findingId : Uuid) (status : FindingStatus) (after : Db) : Prop where
  reached : statusOf after findingId = some status
  others : ∀ other, other ≠ findingId → after.findings.find? other = db.findings.find? other

variable (db : Db) (finding : Finding) (findingId : Uuid) (event : FindingStatusEvent)

theorem appendEvent_turned (status : FindingStatus) (found : db.findings.find? findingId = some finding) :
    Turned db findingId status (appendEvent db findingId status event) := by
  have changed (other : Uuid) := Table.find?_change db.findings findingId other
    (fun row => { row with status := status, statusEvents := row.statusEvents ++ [event] }) fun _ => rfl
  constructor
  · rw [statusOf]
    exact (congrArg (Option.map Finding.status) (changed findingId)).trans (by simp [found])
  · intro other different
    exact (changed other).trans (if_neg different)

theorem unturned (found : db.findings.find? findingId = some finding) : Turned db findingId finding.status db :=
  ⟨by rw [statusOf, found]; rfl, fun _ _ => rfl⟩

theorem transitionFinding_turned (target : FindingStatus) (found : db.findings.find? findingId = some finding)
    (legal : finding.status = target ∨ legalTransition finding.status target = true) :
    Completes (transitionFinding target db findingId event) (Turned db findingId target) := by
  rw [transitionFinding, getFinding, found]
  by_cases same : finding.status = target
  · refine ⟨db, if_pos same, ?_⟩
    rw [← same]
    exact unturned db finding findingId found
  · have allowed := legal.resolve_left same
    refine ⟨appendEvent db findingId target event, (if_neg same).trans (if_pos allowed), ?_⟩
    exact appendEvent_turned db finding findingId event target found

theorem transitionFinding_refused (target : FindingStatus) (found : db.findings.find? findingId = some finding)
    (different : finding.status ≠ target) (illegal : legalTransition finding.status target = false) :
    Raises (transitionFinding target db findingId event) := by
  rw [transitionFinding, getFinding, found]
  exact ⟨_, (if_neg different).trans (if_neg (by simp [illegal]))⟩

theorem reflagFinding_turned (found : db.findings.find? findingId = some finding) (opened : finding.status = .opened) :
    Completes (reflagFinding db findingId event) (Turned db findingId .opened) := by
  rw [reflagFinding, getFinding, found]
  exact ⟨_, if_pos opened, appendEvent_turned db finding findingId event .opened found⟩

theorem reflagFinding_refused (found : db.findings.find? findingId = some finding) (closed : finding.status ≠ .opened) :
    Raises (reflagFinding db findingId event) := by
  rw [reflagFinding, getFinding, found]
  exact ⟨_, if_neg closed⟩

variable (session : Session) (row : StageExecution) (now : Nat) (ownStatus : Uuid → Option FindingStatus)
variable (verdict : PriorFindingVerdict) (said : VerdictStatus)

theorem applyVerdict_takes (asserts : verdict.status = some said)
    (found : db.findings.find? verdict.findingId = some finding) (next : FindingStatus)
    (taken : FindingStatus.take ((ownStatus verdict.findingId).getD .opened) finding.status said = some next) :
    Completes (applyVerdict session row now ownStatus verdict db) (Turned db verdict.findingId next) := by
  rw [applyVerdict, asserts]
  cases said with
  | fixed =>
      simp only [FindingStatus.take, Option.ite_none_left_eq_some, Option.some.injEq] at taken
      rw [← taken.2]
      refine transitionFinding_turned db finding verdict.findingId _ .resolved found ?_
      cases status : finding.status <;> simp_all [legalTransition]
  | stillPresent =>
      by_cases known : (ownStatus verdict.findingId).getD .opened = .resolved
      · simp only [FindingStatus.take, if_pos known, Option.ite_none_left_eq_some, Option.some.injEq] at taken
        simp only [if_pos known]
        rw [← taken.2]
        refine transitionFinding_turned db finding verdict.findingId _ .opened found ?_
        cases status : finding.status <;> simp_all [legalTransition]
      · simp only [FindingStatus.take, if_neg known, Option.ite_none_right_eq_some, Option.some.injEq] at taken
        simp only [if_neg known]
        rw [← taken.2]
        exact reflagFinding_turned db finding verdict.findingId _ found taken.1
  | userOverrode =>
      rw [← Option.some.inj taken]
      refine transitionFinding_turned db finding verdict.findingId _ .dismissed found ?_
      cases finding.status <;> simp [legalTransition]

theorem applyVerdict_refuses (asserts : verdict.status = some said)
    (found : db.findings.find? verdict.findingId = some finding)
    (untaken : FindingStatus.take ((ownStatus verdict.findingId).getD .opened) finding.status said = none) :
    Raises (applyVerdict session row now ownStatus verdict db) := by
  rw [applyVerdict, asserts]
  cases said with
  | fixed =>
      have dismissed : finding.status = .dismissed := by simpa [FindingStatus.take] using untaken
      exact transitionFinding_refused db finding verdict.findingId _ .resolved found (by simp [dismissed])
        (by simp [dismissed, legalTransition])
  | stillPresent =>
      by_cases known : (ownStatus verdict.findingId).getD .opened = .resolved
      · have dismissed : finding.status = .dismissed := by simpa [FindingStatus.take, known] using untaken
        simp only [if_pos known]
        exact transitionFinding_refused db finding verdict.findingId _ .opened found (by simp [dismissed])
          (by simp [dismissed, legalTransition])
      · have closed : finding.status ≠ .opened := by simpa [FindingStatus.take, known] using untaken
        simp only [if_neg known]
        exact reflagFinding_refused db finding verdict.findingId _ found closed
  | userOverrode => cases untaken

def takes (ownStatus : Uuid → Option FindingStatus) (findingId : Uuid) (verdicts : List PriorFindingVerdict)
    (status : FindingStatus) : Option FindingStatus :=
  (assertions findingId verdicts).foldlM (FindingStatus.take ((ownStatus findingId).getD .opened)) status

structure Heard (ownStatus : Uuid → Option FindingStatus) (db : Db) (verdicts : List PriorFindingVerdict)
    (after : Db) : Prop where
  statuses : ∀ findingId, statusOf after findingId = (statusOf db findingId).bind (takes ownStatus findingId verdicts)
  silent : ∀ findingId, assertions findingId verdicts = [] → after.findings.find? findingId = db.findings.find? findingId
  kept : ∀ findingId, statusOf db findingId ≠ none → statusOf after findingId ≠ none

theorem assertions_cons (rest : List PriorFindingVerdict) :
    assertions findingId (verdict :: rest) =
      (if verdict.findingId = findingId then verdict.status.toList else []) ++ assertions findingId rest := by
  rw [assertions, List.filterMap_cons]
  by_cases same : verdict.findingId = findingId
  · cases status : verdict.status <;> simp [same, assertions]
  · simp [same, assertions]

theorem takes_other (rest : List PriorFindingVerdict) (different : verdict.findingId ≠ findingId) :
    takes ownStatus findingId (verdict :: rest) = takes ownStatus findingId rest := by
  funext status
  rw [takes, assertions_cons, if_neg different]
  rfl

theorem takes_cons (rest : List PriorFindingVerdict) (status : FindingStatus) (asserts : verdict.status = some said) :
    takes ownStatus verdict.findingId (verdict :: rest) status =
      (FindingStatus.take ((ownStatus verdict.findingId).getD .opened) status said).bind
        (takes ownStatus verdict.findingId rest) := by
  rw [takes, assertions_cons, if_pos rfl, asserts]
  rfl

theorem follows_silent (rest : List PriorFindingVerdict) (after : Db) (quiet : verdict.status = none)
    (follows : Heard ownStatus db rest after) : Heard ownStatus db (verdict :: rest) after := by
  have same (findingId : Uuid) : assertions findingId (verdict :: rest) = assertions findingId rest := by
    rw [assertions_cons, quiet]
    simp
  have turned (findingId : Uuid) : takes ownStatus findingId (verdict :: rest) = takes ownStatus findingId rest := by
    funext status
    rw [takes, same]
    rfl
  refine ⟨fun findingId => ?_, fun findingId unsaid => follows.silent findingId (same findingId ▸ unsaid), follows.kept⟩
  rw [turned]
  exact follows.statuses findingId

theorem follows_cons (rest : List PriorFindingVerdict) (middle after : Db) (next : FindingStatus)
    (asserts : verdict.status = some said) (found : db.findings.find? verdict.findingId = some finding)
    (taken : FindingStatus.take ((ownStatus verdict.findingId).getD .opened) finding.status said = some next)
    (turned : Turned db verdict.findingId next middle) (follows : Heard ownStatus middle rest after) :
    Heard ownStatus db (verdict :: rest) after := by
  constructor
  · intro findingId
    rw [follows.statuses]
    by_cases same : findingId = verdict.findingId
    · have started : statusOf db verdict.findingId = some finding.status := by rw [statusOf, found]; rfl
      rw [same, turned.reached, started, Option.bind_some, Option.bind_some,
        takes_cons ownStatus verdict said rest finding.status asserts, taken, Option.bind_some]
    · rw [takes_other findingId ownStatus verdict rest (Ne.symm same), statusOf, turned.others findingId same]
      rfl
  · intro findingId unsaid
    rw [assertions_cons] at unsaid
    by_cases same : verdict.findingId = findingId
    · simp [same, asserts] at unsaid
    · rw [if_neg same] at unsaid
      rw [follows.silent findingId unsaid, turned.others findingId (Ne.symm same)]
  · intro findingId present
    refine follows.kept findingId ?_
    by_cases same : findingId = verdict.findingId
    · rw [same, turned.reached]
      simp
    · rw [statusOf, turned.others findingId same]
      exact present

theorem turned_stored (rest : List PriorFindingVerdict) (middle : Db) (next : FindingStatus)
    (stored : ∀ other ∈ rest, db.findings.find? other.findingId ≠ none) (turned : Turned db findingId next middle) :
    ∀ other ∈ rest, middle.findings.find? other.findingId ≠ none := by
  intro other member absent
  by_cases same : other.findingId = findingId
  · have reached := turned.reached
    rw [statusOf, ← same, absent] at reached
    cases reached
  · exact stored other member (turned.others _ same ▸ absent)

theorem applyVerdicts_cons (rest : List PriorFindingVerdict) :
    applyVerdicts session row now ownStatus (verdict :: rest) db =
      applyVerdict session row now ownStatus verdict db >>= applyVerdicts session row now ownStatus rest := rfl

theorem applyVerdicts_follows (verdicts : List PriorFindingVerdict)
    (stored : ∀ verdict ∈ verdicts, db.findings.find? verdict.findingId ≠ none) :
    Ensures (applyVerdicts session row now ownStatus verdicts db) (Heard ownStatus db verdicts) := by
  induction verdicts generalizing db with
  | nil => exact ensures_ok _ _ ⟨fun findingId => (Option.bind_fun_some _).symm, fun _ _ => rfl, fun _ => id⟩
  | cons verdict rest ih =>
      have later : ∀ other ∈ rest, db.findings.find? other.findingId ≠ none :=
        fun other member => stored other (List.mem_cons_of_mem _ member)
      cases asserts : verdict.status with
      | none =>
          have skipped : applyVerdict session row now ownStatus verdict db = .ok db := by rw [applyVerdict, asserts]
          rw [applyVerdicts_cons, skipped]
          exact ensures_mono _ _ _ (ih db later) fun after => follows_silent db ownStatus verdict rest after asserts
      | some said =>
          cases found : db.findings.find? verdict.findingId with
          | none => exact absurd found (stored verdict List.mem_cons_self)
          | some finding =>
              cases taken : FindingStatus.take ((ownStatus verdict.findingId).getD .opened) finding.status said with
              | none =>
                  obtain ⟨error, raised⟩ :=
                    applyVerdict_refuses db finding session row now ownStatus verdict said asserts found taken
                  rw [applyVerdicts_cons, raised]
                  exact ensures_error _ _
              | some next =>
                  obtain ⟨middle, applied, turned⟩ :=
                    applyVerdict_takes db finding session row now ownStatus verdict said asserts found next taken
                  rw [applyVerdicts_cons, applied]
                  have kept := turned_stored db verdict.findingId rest middle next later turned
                  exact ensures_mono _ _ _ (ih middle kept) fun after =>
                    follows_cons db finding ownStatus verdict said rest middle after next asserts found taken turned

theorem applyVerdicts_completes (verdicts : List PriorFindingVerdict)
    (stored : ∀ verdict ∈ verdicts, db.findings.find? verdict.findingId ≠ none)
    (takeable : ∀ findingId status, statusOf db findingId = some status →
      (takes ownStatus findingId verdicts status).isSome) :
    ∃ after, applyVerdicts session row now ownStatus verdicts db = .ok after := by
  induction verdicts generalizing db with
  | nil => exact ⟨db, rfl⟩
  | cons verdict rest ih =>
      have later : ∀ other ∈ rest, db.findings.find? other.findingId ≠ none :=
        fun other member => stored other (List.mem_cons_of_mem _ member)
      cases asserts : verdict.status with
      | none =>
          have skipped : applyVerdict session row now ownStatus verdict db = .ok db := by rw [applyVerdict, asserts]
          rw [applyVerdicts_cons, skipped]
          refine ih db later fun findingId status started => ?_
          have same : assertions findingId (verdict :: rest) = assertions findingId rest := by
            rw [assertions_cons, asserts]
            simp
          have whole := takeable findingId status started
          rwa [takes, same] at whole
      | some said =>
          cases found : db.findings.find? verdict.findingId with
          | none => exact absurd found (stored verdict List.mem_cons_self)
          | some finding =>
              have started : statusOf db verdict.findingId = some finding.status := by rw [statusOf, found]; rfl
              have whole := takeable verdict.findingId finding.status started
              rw [takes_cons ownStatus verdict said rest finding.status asserts] at whole
              obtain ⟨final, reached⟩ := Option.isSome_iff_exists.mp whole
              obtain ⟨next, taken, remaining⟩ := Option.bind_eq_some_iff.mp reached
              obtain ⟨middle, applied, turned⟩ :=
                applyVerdict_takes db finding session row now ownStatus verdict said asserts found next taken
              rw [applyVerdicts_cons, applied]
              refine ih middle (turned_stored db verdict.findingId rest middle next later turned) ?_
              intro findingId status at_
              by_cases same : findingId = verdict.findingId
              · rw [same, turned.reached] at at_
                rw [same, ← Option.some.inj at_, remaining]
                rfl
              · rw [statusOf, turned.others findingId same] at at_
                have other := takeable findingId status at_
                rwa [takes_other findingId ownStatus verdict rest (Ne.symm same)] at other

end Passes

theorem getFindings_stored (db : Db) (findingIds : List Uuid) :
    Ensures (getFindings db findingIds) fun findings => ∀ finding ∈ findings, finding ∈ db.findings.rows := by
  induction findingIds with
  | nil => exact ensures_ok _ _ (by simp)
  | cons findingId rest ih =>
      rw [getFindings]
      refine ensures_read _ _ _ fun finding read => ensures_bind _ _ _ _ ih fun others stored => ensures_ok _ _ ?_
      rw [getFinding] at read
      cases found : db.findings.find? findingId with
      | none => simp [found] at read
      | some stored_ =>
          have same : stored_ = finding := by simpa [found] using read
          rw [same] at found
          exact List.forall_mem_cons.mpr ⟨(Table.find?_some _ _ _ found).1, stored⟩

theorem merged_member (findings loopFindings : List Finding) (finding : Finding)
    (member : finding ∈ findings.foldl
      (fun kept finding => if kept.any (fun other => other.id == finding.id) then kept else kept ++ [finding])
      loopFindings) : finding ∈ loopFindings ∨ finding ∈ findings := by
  induction findings generalizing loopFindings with
  | nil => exact .inl member
  | cons first rest ih =>
      rw [List.foldl_cons] at member
      rcases ih _ member with kept | later
      · split at kept
        · exact .inl kept
        · rcases List.mem_append.mp kept with own | last
          · exact .inl own
          · exact .inr (List.mem_cons.mpr (.inl (List.mem_singleton.mp last)))
      · exact .inr (List.mem_cons_of_mem _ later)

theorem offered_stored (env : Env) (session : Session) (row : StageExecution) :
    Ensures (resolvePriorFindings env session row) fun offered =>
      ∀ findingId ∈ offered.map PriorFindingRef.findingId, session.db.findings.find? findingId ≠ none := by
  refine ensures_bind _ _ _ _ (getFindings_stored session.db _) fun comments stored => ensures_ok _ _ ?_
  intro findingId offered
  rw [mergePriorFindings, List.map_map, List.mem_map] at offered
  obtain ⟨finding, member, same⟩ := offered
  have row_ : finding ∈ session.db.findings.rows := by
    rcases merged_member _ _ finding member with own | other
    · exact (List.mem_filter.mp own).1
    · rcases List.mem_append.mp other with opened | comment
      · exact (List.mem_filter.mp opened).1
      · exact stored finding comment
  rw [← same]
  have found := Table.find?_of_mem session.db.findings finding row_
  intro absent
  exact nomatch found.symm.trans absent

theorem ownStatusById_row (db : Db) (row : StageExecution) (finding : Finding) (member : finding ∈ db.findings.rows) :
    (ownStatusById db row finding.id).getD .opened =
      if finding.sourceStageExecutionId = row.id then finding.status else .opened := by
  rw [ownStatusById]
  by_cases own : finding.sourceStageExecutionId = row.id
  · have listed : finding ∈ listForStageExecution db row.id := List.mem_filter.mpr ⟨member, by simp [own]⟩
    rw [if_pos own]
    cases found : (listForStageExecution db row.id).find? fun other => other.id == finding.id with
    | none => simpa using List.find?_eq_none.mp found finding listed
    | some other =>
        have same : other.id = finding.id := by simpa using List.find?_some found
        have stored := (List.mem_filter.mp (List.mem_of_find?_eq_some found)).1
        rw [Table.eq_of_key db.findings other finding stored member same]
        rfl
  · rw [if_neg own]
    cases found : (listForStageExecution db row.id).find? fun other => other.id == finding.id with
    | none => rfl
    | some other =>
        have same : other.id = finding.id := by simpa using List.find?_some found
        have listed := List.mem_filter.mp (List.mem_of_find?_eq_some found)
        rw [Table.eq_of_key db.findings other finding listed.1 member same] at listed
        exact absurd (by simpa using listed.2) own

section Judging

variable (db after : Db) (row : StageExecution) (verdicts : List PriorFindingVerdict)

theorem statusOf_row (finding : Finding) (member : finding ∈ db.findings.rows) :
    statusOf db finding.id = some finding.status := by
  rw [statusOf, Table.find?_of_mem db.findings finding member]
  rfl

theorem follows_row (follows : Heard (ownStatusById db row) db verdicts after) (finding : Finding)
    (member : finding ∈ db.findings.rows) :
    ∃ next, after.findings.find? finding.id = some next ∧
      takes (ownStatusById db row) finding.id verdicts finding.status = some next.status := by
  have present : statusOf after finding.id ≠ none := by
    refine follows.kept finding.id ?_
    rw [statusOf_row db finding member]
    simp
  have status := follows.statuses finding.id
  rw [statusOf_row db finding member, Option.bind_some] at status
  cases stored : after.findings.find? finding.id with
  | none => exact absurd (by rw [statusOf, stored]; rfl) present
  | some next =>
      rw [statusOf, stored] at status
      exact ⟨next, rfl, status.symm⟩

theorem takes_iff (finding : Finding) (member : finding ∈ db.findings.rows) :
    (takes (ownStatusById db row) finding.id verdicts finding.status).isSome ↔
      Consistent (finding.sourceStageExecutionId = row.id) finding.status (assertions finding.id verdicts) := by
  rw [takes, ownStatusById_row db row finding member]
  exact takes_consistent finding.status _ _

theorem follows_judged (follows : Heard (ownStatusById db row) db verdicts after) : Judged db verdicts after := by
  constructor
  · intro finding member _ said last
    obtain ⟨next, stored, taken⟩ := follows_row db after row verdicts follows finding member
    refine ⟨next, stored, ?_⟩
    rw [takes_last _ _ _ next.status taken, last]
    rfl
  · intro finding member dismissed
    obtain ⟨next, stored, taken⟩ := follows_row db after row verdicts follows finding member
    have consistent := (takes_iff db row verdicts finding member).mp (by rw [taken]; rfl)
    refine ⟨next, stored, ?_⟩
    rw [takes_last _ _ _ next.status taken]
    cases last : (assertions finding.id verdicts).getLast? with
    | none => exact dismissed
    | some said =>
        rw [consistent.dismissed dismissed said (List.mem_of_getLast? last)]
        rfl
  · exact follows.silent

-- Nothing deletes a finding between the offer and the return of a pass.
theorem verdicts_applied_iff (env : Env) (shown session : Session) (now : Nat) (offered : List PriorFindingRef)
    (offers : resolvePriorFindings env shown row = .ok offered)
    (kept : ∀ findingId, shown.db.findings.find? findingId ≠ none → session.db.findings.find? findingId ≠ none)
    (named : ∀ verdict ∈ verdicts, verdict.findingId ∈ offered.map PriorFindingRef.findingId) :
    Completes (applyVerdicts session row now (ownStatusById session.db row) verdicts session.db)
        (Judged session.db verdicts) ↔
      ∀ finding ∈ session.db.findings.rows,
        Consistent (finding.sourceStageExecutionId = row.id) finding.status (assertions finding.id verdicts) := by
  have stored : ∀ verdict ∈ verdicts, session.db.findings.find? verdict.findingId ≠ none :=
    fun verdict member => kept _ (offered_stored env shown row offered offers _ (named verdict member))
  have follows := applyVerdicts_follows session.db session row now (ownStatusById session.db row) verdicts stored
  constructor
  · rintro ⟨after, applied, _⟩ finding member
    obtain ⟨next, _, taken⟩ := follows_row session.db after row verdicts (follows after applied) finding member
    exact (takes_iff session.db row verdicts finding member).mp (by rw [taken]; rfl)
  · intro consistent
    obtain ⟨after, applied⟩ := applyVerdicts_completes session.db session row now (ownStatusById session.db row) verdicts
      stored fun findingId status started => by
        obtain ⟨finding, found, same⟩ := Option.map_eq_some_iff.mp started
        obtain ⟨member, key⟩ := Table.find?_some _ _ _ found
        rw [← same, ← key]
        exact (takes_iff session.db row verdicts finding member).mpr (consistent finding member)
    exact ⟨after, applied, follows_judged session.db after row verdicts (follows after applied)⟩

end Judging

def sampleFinding (status : FindingStatus) : Finding :=
  { id := 5, orgId := 1, ticketId := 2, sourceRunId := 3, sourceStageName := "review", sourceStageExecutionId := 4,
    firstSeenIteration := 1, displayPrefix := "sec", displayId := 1, severity := .blocker, body := "body",
    codeFile := none, codeLine := none, artifactSection := none, defectInArtifact := none, status := status,
    statusEvents := [] }

def sampleReviewing (status : FindingStatus) : Session :=
  let run := newRun 10 1 2 none (sampleSkills none .alwaysProceed) sampleKickoff none none
  let session : Session := { db := .empty 20, run := run }
  { session with
    db := { session.db with findings := { rows := [sampleFinding status], unique := List.nodup_singleton 5 } } }

def sampleCommented : Env := { sampleEnv (sampleSkills none .alwaysProceed) with commentFindingIds := fun _ => [5] }

def samplePass : StageExecution := newExecution 11 (some 0) .review "review"

def sampleVerdicts (said : List VerdictStatus) : List PriorFindingVerdict :=
  said.map fun status => { findingId := 5, status := some status, reply := none }

def sampleOffer (status : FindingStatus) : List PriorFindingRef := [(sampleFinding status).reference]

theorem verdicts_applied :
    Completes (applyVerdicts (sampleReviewing .opened) samplePass 0 (ownStatusById (sampleReviewing .opened).db samplePass)
        (sampleVerdicts [.stillPresent, .fixed]) (sampleReviewing .opened).db)
      (Judged (sampleReviewing .opened).db (sampleVerdicts [.stillPresent, .fixed])) := by
  refine (verdicts_applied_iff samplePass (sampleVerdicts [.stillPresent, .fixed]) sampleCommented (sampleReviewing .opened)
    (sampleReviewing .opened) 0 (sampleOffer .opened) rfl (fun _ => id) (by decide)).mpr ?_
  intro finding member
  rw [List.mem_singleton.mp member]
  exact ⟨by decide, by decide, by decide, by decide⟩

-- The finding is shown because a comment is about it, and the reviewer sees it again.
theorem resighted_raises :
    resolvePriorFindings sampleCommented (sampleReviewing .resolved) samplePass = .ok (sampleOffer .resolved) ∧
      (∀ verdict ∈ sampleVerdicts [.stillPresent],
        verdict.findingId ∈ (sampleOffer .resolved).map PriorFindingRef.findingId) ∧
      ¬ Completes (applyVerdicts (sampleReviewing .resolved) samplePass 0
          (ownStatusById (sampleReviewing .resolved).db samplePass) (sampleVerdicts [.stillPresent])
          (sampleReviewing .resolved).db)
        (Judged (sampleReviewing .resolved).db (sampleVerdicts [.stillPresent])) := by
  refine ⟨rfl, by decide, ?_⟩
  rintro ⟨after, applied, _⟩
  cases applied

end Yaaos.Pipelines
