import Yaaos.Intake.PullClosing

set_option autoImplicit false

namespace Yaaos.Intake

open Yaaos.Base
open Yaaos.Pipelines

def Follows (store : PullStore) : Prop :=
  ∀ externalId pull state, store.pulls.find? ("github", externalId) = some pull →
    store.implied externalId = some state → pull.mirror.state = state

def PullStore.admits (env : IntakeEnv) (store : PullStore) (orgId : Uuid) (payload : PullPayload) : Bool :=
  match parsePr payload with
  | .error _ => false
  | .ok pr => !(env.findBindings orgId payload.repoFullName "github:pr_opened").isEmpty && !pr.isFork && !pr.authorIsBot &&
      (store.sources.find? (orgId, "github_pr", pr.externalId)).isNone

def Heard (store : PullStore) : PullLabel → Prop
  | .engine _ => True
  | .webhook env orgId action payload =>
      ∀ externalId pull, payload.externalId? = some externalId →
        store.pulls.find? ("github", externalId) = some pull →
          (action = .closed → pull.orgId = orgId ∨ pull.mirror.state = PullStore.closedState payload) ∧
            (action = .reopened → pull.mirror.state = .opened ∨ store.admits env orgId payload = true)

structure Refreshes (store after : PullStore) (payload : PullPayload) : Prop where
  implied : after.implied = store.implied
  own : ∀ externalId, payload.externalId? = some externalId →
    ∃ pull, after.pulls.find? ("github", externalId) = some pull ∧ pull.mirror.state = payload.prState
  others : ∀ externalId, payload.externalId? ≠ some externalId →
    after.pulls.find? ("github", externalId) = store.pulls.find? ("github", externalId)

structure Untouched (store after : PullStore) : Prop where
  implied : after.implied = store.implied
  pulls : after.pulls = store.pulls

section Following

variable (store : PullStore)

theorem untouched_refl : Untouched store store := ⟨rfl, rfl⟩

theorem refreshes_after (middle after : PullStore) (payload : PullPayload) (untouched : Untouched store middle)
    (refreshes : Refreshes middle after payload) : Refreshes store after payload where
  implied := refreshes.implied.trans untouched.implied
  own := refreshes.own
  others := fun externalId other => by rw [refreshes.others externalId other, untouched.pulls]

theorem upsert_refreshes (payload : PullPayload) (pr : VcsPullRequest) (ticketId orgId : Uuid)
    (parsed : parsePr payload = .ok pr) : Refreshes store (store.upsert pr ticketId orgId).1 payload := by
  obtain ⟨plugin, named, shown⟩ := parsePr_ok payload pr parsed
  have other (externalId : String) (different : payload.externalId? ≠ some externalId) : externalId ≠ pr.externalId := by
    intro same
    rw [same] at different
    exact different named
  unfold PullStore.upsert
  rw [plugin]
  cases found : store.pulls.find? ("github", pr.externalId) with
  | some existing =>
      refine ⟨rfl, ?_, ?_⟩
      · intro externalId own
        rw [named, Option.some.injEq] at own
        subst own
        have key := (store.pulls.find?_some _ existing found).2
        refine ⟨existing.sync pr, ?_, shown⟩
        dsimp only
        rw [Table.find?_update, found]
        simp [key]
      · intro externalId different
        dsimp only
        rw [Table.find?_update]
        cases present : store.pulls.find? ("github", externalId) with
        | none => rfl
        | some row =>
            have key := (store.pulls.find?_some _ row present).2
            simp [key, other externalId different]
  | none =>
      let row : PullRequest := { id := store.db.nextId, orgId := orgId, ticketId := ticketId, mirror := pr }
      have key : row.key = ("github", pr.externalId) := by simp [row, PullRequest.key, plugin]
      obtain ⟨grown, inserted⟩ := store.pulls.insert?_fresh row fun other member same =>
        (store.pulls.find?_isNone _).mp found other member (same.trans key)
      simp only [row, inserted, Option.getD_some]
      refine ⟨rfl, ?_, ?_⟩
      · intro externalId own
        rw [named, Option.some.injEq] at own
        subst own
        refine ⟨row, ?_, shown⟩
        rw [Table.find?_insert _ _ _ _ inserted, found]
        simp [key]
      · intro externalId different
        rw [Table.find?_insert _ _ _ _ inserted]
        simp [key, Ne.symm (other externalId different)]

theorem createFromPr_untouched (pr : VcsPullRequest) (orgId : Uuid) : Untouched store (store.createFromPr pr orgId).1 := by
  unfold PullStore.createFromPr
  cases store.sources.find? (orgId, "github_pr", pr.externalId) <;> exact ⟨rfl, rfl⟩

theorem prepare_refreshes (env : IntakeEnv) (orgId : Uuid) (payload : PullPayload) :
    if store.admits env orgId payload then
      Refreshes store (store.commitOr (store.prepareReviewOrRun env orgId payload)).1 payload
    else Untouched store (store.commitOr (store.prepareReviewOrRun env orgId payload)).1 := by
  unfold PullStore.admits PullStore.prepareReviewOrRun
  cases parsed : parsePr payload with
  | error error =>
      cases env.findBindings orgId payload.repoFullName "github:pr_opened" <;> exact untouched_refl store
  | ok pr =>
      cases env.findBindings orgId payload.repoFullName "github:pr_opened" with
      | nil => exact untouched_refl store
      | cons pipelineId others =>
          by_cases fork : pr.isFork = true
          · simp [fork, PullStore.commitOr, untouched_refl, bind, Except.bind]
          · by_cases bot : pr.authorIsBot = true
            · simp [fork, bot, PullStore.commitOr, untouched_refl, bind, Except.bind]
            · have earlier := createFromPr_untouched store pr orgId
              cases found : store.sources.find? (orgId, "github_pr", pr.externalId) with
              | some winner =>
                  simp [fork, bot, found, PullStore.createFromPr, PullStore.commitOr, untouched_refl, bind, Except.bind]
              | none =>
                  have fresh : (store.createFromPr pr orgId).2.2 = true := by simp [PullStore.createFromPr, found]
                  rcases same : store.createFromPr pr orgId with ⟨created, ticketId, flag⟩
                  rw [same] at earlier fresh
                  cases flag with
                  | false => cases fresh
                  | true =>
                      have refreshed := refreshes_after store created _ payload earlier
                        (upsert_refreshes created payload pr ticketId orgId parsed)
                      rw [if_pos (by simp [fork, bot, found])]
                      simp only [bind, Except.bind]
                      rw [if_neg fork, if_neg bot, same]
                      exact ⟨refreshed.implied, refreshed.own, refreshed.others⟩

theorem synchronize_refreshes (env : IntakeEnv) (orgId : Uuid) (payload : PullPayload) (externalId : String) :
    Untouched store (store.commitOr (store.handleSynchronize env orgId payload externalId)).1 ∨
      Refreshes store (store.commitOr (store.handleSynchronize env orgId payload externalId)).1 payload := by
  unfold PullStore.handleSynchronize
  cases store.getByExternal externalId orgId with
  | none => exact .inl (untouched_refl store)
  | some existing =>
      cases parsed : parsePr payload with
      | error error => exact .inl (untouched_refl store)
      | ok fresh =>
          have refreshed := upsert_refreshes store payload fresh existing.ticketId orgId parsed
          simp only [bind, Except.bind]
          cases env.findBindings orgId payload.repoFullName "github:pr_commits" with
          | nil => exact .inr refreshed
          | cons pipelineId others => exact .inr ⟨refreshed.implied, refreshed.own, refreshed.others⟩

theorem closed_refreshes (kept : Kept store) (env : IntakeEnv) (orgId : Uuid) (payload : PullPayload)
    (externalId : String) (pull : PullRequest) (found : store.getByExternal externalId orgId = some pull)
    (named : payload.externalId? = some externalId) (shown : payload.prState = PullStore.closedState payload) :
    Refreshes store (store.handleClosed env orgId payload externalId).1 payload := by
  obtain ⟨pulls, implied, _⟩ := handleClosed_closed env store orgId payload externalId pull found
  obtain ⟨stored, own⟩ := getByExternal_some store externalId orgId pull found
  obtain ⟨member, key⟩ := store.pulls.find?_some _ pull stored
  refine ⟨implied, ?_, ?_⟩
  · intro other same
    rw [named, Option.some.injEq] at same
    subst same
    refine ⟨pull.setState (PullStore.closedState payload), ?_, shown.symm⟩
    rw [pulls, PullStore.updateState, Table.find?_update, stored]
    simp [own]
  · intro other different
    rw [pulls, PullStore.updateState, Table.find?_update]
    cases present : store.pulls.find? ("github", other) with
    | none => rfl
    | some row =>
        obtain ⟨rowMember, rowKey⟩ := store.pulls.find?_some _ row present
        have apart : row.id ≠ pull.id := by
          intro same
          rw [kept.ids row rowMember pull member same, key] at rowKey
          simp only [Prod.mk.injEq, true_and] at rowKey
          rw [rowKey] at named
          exact different named
        simp [apart]

theorem closed_unheard (env : IntakeEnv) (orgId : Uuid) (payload : PullPayload) (externalId : String)
    (unknown : store.getByExternal externalId orgId = none) :
    store.handleClosed env orgId payload externalId = (store, .ok "closed") := by
  simp [PullStore.handleClosed, unknown]

theorem kept_shape (after : PullStore) (kept : Kept store) (pulls : after.pulls = store.pulls)
    (implied : after.implied = store.implied) (grown : Grown store.db after.db) : Kept after := by
  have same := kept_db store kept after.db grown.coherent grown.carried grown.grows
  exact
    { coherent := grown.coherent
      ids := by rw [pulls]; exact kept.ids
      bound := by rw [pulls]; exact same.bound
      ticketed := by rw [pulls]; exact same.ticketed
      announced := by rw [pulls, implied]; exact kept.announced }

theorem kept_closed (kept : Kept store) (env : IntakeEnv) (orgId : Uuid) (payload : PullPayload) (externalId : String) :
    Kept (store.handleClosed env orgId payload externalId).1 := by
  cases found : store.getByExternal externalId orgId with
  | none =>
      rw [closed_unheard store env orgId payload externalId found]
      exact kept
  | some pull =>
      obtain ⟨pulls, implied, closed⟩ := handleClosed_closed env store orgId payload externalId pull found
      have updated := kept_updateState store kept pull.id (PullStore.closedState payload) orgId
      exact kept_shape _ _ updated pulls implied (closed_grown env.engine store.db _ pull kept.coherent closed)

theorem kept_commitOr (kept : Kept store) (body : Except PullError (PullStore × String))
    (ensured : Ensures body fun done => Kept done.1) : Kept (store.commitOr body).1 := by
  cases body with
  | error error => exact kept
  | ok done => exact ensured done rfl

theorem kept_handle (kept : Kept store) (env : IntakeEnv) (orgId : Uuid) (action : PullAction) (payload : PullPayload) :
    Kept (store.handlePullRequest env orgId action payload).1 := by
  have prepared := kept_commitOr store kept _ (kept_prepare store kept env orgId payload)
  cases action with
  | opened =>
      by_cases draft : payload.draft = true
      · simpa [PullStore.handlePullRequest, draft] using kept
      · simpa [PullStore.handlePullRequest, draft] using prepared
  | reopened => simpa [PullStore.handlePullRequest] using prepared
  | readyForReview => simpa [PullStore.handlePullRequest] using prepared
  | synchronize =>
      cases named : payload.externalId? with
      | none => simpa [PullStore.handlePullRequest, named] using kept
      | some externalId =>
          have done := kept_commitOr store kept _ (kept_synchronize store kept env orgId payload externalId)
          simpa [PullStore.handlePullRequest, named] using done
  | closed =>
      cases named : payload.externalId? with
      | none => simpa [PullStore.handlePullRequest, named] using kept
      | some externalId =>
          simpa [PullStore.handlePullRequest, named] using kept_closed store kept env orgId payload externalId
  | other => simpa [PullStore.handlePullRequest] using kept

theorem handle_refreshes (kept : Kept store) (env : IntakeEnv) (orgId : Uuid) (action : PullAction) (payload : PullPayload)
    (shown : ∀ externalId, payload.externalId? = some externalId → action = .closed →
      payload.prState = PullStore.closedState payload)
    (heard : Heard store (.webhook env orgId action payload)) :
    Refreshes store (store.handlePullRequest env orgId action payload).1 payload ∨
      Untouched store (store.handlePullRequest env orgId action payload).1 ∧
        ∀ externalId pull state, payload.externalId? = some externalId →
          store.pulls.find? ("github", externalId) = some pull → impliedBy action payload = some state →
            pull.mirror.state = state := by
  have silent (none_ : impliedBy action payload = none) : ∀ externalId pull state, payload.externalId? = some externalId →
      store.pulls.find? ("github", externalId) = some pull → impliedBy action payload = some state →
        pull.mirror.state = state := by
    intro externalId pull state _ _ said
    rw [none_] at said
    cases said
  have prepared := prepare_refreshes store env orgId payload
  cases action with
  | opened =>
      by_cases draft : payload.draft = true
      · simp only [PullStore.handlePullRequest, draft]
        exact .inr ⟨untouched_refl store, silent rfl⟩
      · by_cases admits : store.admits env orgId payload = true
        · rw [if_pos admits] at prepared
          simp only [PullStore.handlePullRequest, draft]
          exact .inl prepared
        · rw [if_neg admits] at prepared
          simp only [PullStore.handlePullRequest, draft]
          exact .inr ⟨prepared, silent rfl⟩
  | reopened =>
      by_cases admits : store.admits env orgId payload = true
      · rw [if_pos admits] at prepared
        exact .inl prepared
      · rw [if_neg admits] at prepared
        refine .inr ⟨prepared, fun externalId pull state named found said => ?_⟩
        cases said
        exact ((heard externalId pull named found).2 rfl).resolve_right admits
  | readyForReview =>
      by_cases admits : store.admits env orgId payload = true
      · rw [if_pos admits] at prepared
        exact .inl prepared
      · rw [if_neg admits] at prepared
        exact .inr ⟨prepared, silent rfl⟩
  | synchronize =>
      cases named : payload.externalId? with
      | none =>
          simp only [PullStore.handlePullRequest, named]
          exact .inr ⟨untouched_refl store, by simp⟩
      | some externalId =>
          simp only [PullStore.handlePullRequest, named]
          rcases synchronize_refreshes store env orgId payload externalId with untouched | refreshed
          · exact .inr ⟨untouched, by rw [← named]; exact silent rfl⟩
          · exact .inl refreshed
  | closed =>
      cases named : payload.externalId? with
      | none =>
          simp only [PullStore.handlePullRequest, named]
          exact .inr ⟨untouched_refl store, by simp⟩
      | some externalId =>
          simp only [PullStore.handlePullRequest, named]
          cases found : store.getByExternal externalId orgId with
          | some pull =>
              exact .inl (closed_refreshes store kept env orgId payload externalId pull found named (shown externalId named rfl))
          | none =>
              refine .inr ⟨?_, ?_⟩
              · show Untouched store (store.handleClosed env orgId payload externalId).1
                rw [closed_unheard store env orgId payload externalId found]
                exact untouched_refl store
              · intro other pull state same stored said
                cases said
                cases same
                rcases (heard externalId pull named stored).1 rfl with own | already
                · simp [PullStore.getByExternal, stored, own] at found
                · exact already
  | other => exact .inr ⟨untouched_refl store, silent rfl⟩

end Following

section Stepping

variable (store : PullStore) (action : PullAction) (payload : PullPayload)

theorem announce_tables : (store.announce action payload).pulls = store.pulls ∧
    (store.announce action payload).db = store.db ∧ (store.announce action payload).sources = store.sources := by
  unfold PullStore.announce
  split
  · split <;> exact ⟨rfl, rfl, rfl⟩
  · exact ⟨rfl, rfl, rfl⟩

theorem announce_other (externalId : String) (different : payload.externalId? ≠ some externalId) :
    (store.announce action payload).implied externalId = store.implied externalId := by
  unfold PullStore.announce
  split
  · rename_i named said
    split
    · exact Function.update_of_ne (fun same => different (by rw [named, same])) _ _
    · rfl
  · rfl

theorem announce_own (externalId : String) (pull : PullRequest) (named : payload.externalId? = some externalId)
    (found : store.pulls.find? ("github", externalId) = some pull) :
    (store.announce action payload).implied externalId = (impliedBy action payload).or (store.implied externalId) := by
  unfold PullStore.announce
  cases said : impliedBy action payload with
  | none => simp [named]
  | some state => simp [named, found]

theorem announce_unstored (externalId : String) (absent : store.pulls.find? ("github", externalId) = none) :
    (store.announce action payload).implied externalId = store.implied externalId := by
  unfold PullStore.announce
  split
  · rename_i other state named said
    split
    · rename_i stored
      refine Function.update_of_ne (fun same => ?_) _ _
      rw [← same, absent] at stored
      cases stored
    · rfl
  · rfl

theorem kept_announce (kept : Kept store) : Kept (store.announce action payload) := by
  obtain ⟨pulls, db, _⟩ := announce_tables store action payload
  refine { coherent := by rw [db]; exact kept.coherent, ids := by rw [pulls]; exact kept.ids,
           bound := by rw [pulls, db]; exact kept.bound, ticketed := by rw [pulls, db]; exact kept.ticketed,
           announced := ?_ }
  intro externalId said absent
  rw [pulls] at absent
  rw [announce_unstored store action payload externalId absent] at said
  exact kept.announced externalId said absent

theorem heard_announce (env : IntakeEnv) (orgId : Uuid) (heard : Heard store (.webhook env orgId action payload)) :
    Heard (store.announce action payload) (.webhook env orgId action payload) := by
  obtain ⟨pulls, _, sources⟩ := announce_tables store action payload
  intro externalId pull named found
  rw [pulls] at found
  have same : (store.announce action payload).admits env orgId payload = store.admits env orgId payload := by
    simp only [PullStore.admits, sources]
  rw [same]
  exact heard externalId pull named found

theorem follows_webhook (env : IntakeEnv) (orgId : Uuid) (kept : Kept store) (follows : Follows store)
    (shows : Shows store action payload) (heard : Heard store (.webhook env orgId action payload)) :
    Follows ((store.announce action payload).handlePullRequest env orgId action payload).1 := by
  obtain ⟨pulls, _, _⟩ := announce_tables store action payload
  have announcedKept := kept_announce store action payload kept
  intro externalId pull state found said
  have shown (other : String) (numbered : payload.externalId? = some other) (closed : action = .closed) :
      payload.prState = PullStore.closedState payload := shows other numbered _ (by simp [closed, impliedBy])
  have effect := handle_refreshes _ announcedKept env orgId action payload shown
    (heard_announce store action payload env orgId heard)
  by_cases named : payload.externalId? = some externalId
  · rcases effect with refreshed | ⟨untouched, already⟩
    · rw [refreshed.implied] at said
      obtain ⟨row, rowFound, stateShown⟩ := refreshed.own externalId named
      rw [found, Option.some.injEq] at rowFound
      subst rowFound
      cases stored : store.pulls.find? ("github", externalId) with
      | none =>
          rw [announce_unstored store action payload externalId stored] at said
          exact absurd stored (kept.announced externalId (by simp [said]))
      | some old =>
          rw [announce_own store action payload externalId old named stored] at said
          rw [stateShown]
          exact shows externalId named state said
    · rw [untouched.implied] at said
      rw [untouched.pulls, pulls] at found
      rw [announce_own store action payload externalId pull named found] at said
      cases announcedNow : impliedBy action payload with
      | none =>
          rw [announcedNow, Option.none_or] at said
          exact follows externalId pull state found said
      | some now =>
          rw [announcedNow, Option.some_or, Option.some.injEq] at said
          subst said
          exact already externalId pull now named (by rw [pulls]; exact found) announcedNow
  · have unsaid := announce_other store action payload externalId named
    rcases effect with refreshed | ⟨untouched, _⟩
    · rw [refreshed.implied, unsaid] at said
      rw [refreshed.others externalId named, pulls] at found
      exact follows externalId pull state found said
    · rw [untouched.implied, unsaid] at said
      rw [untouched.pulls, pulls] at found
      exact follows externalId pull state found said

theorem stocked_kept (stocked : Stocked store) : Kept store :=
  { coherent := reachable_coherent store.db stocked.engine, ids := stocked.ids, bound := stocked.bound,
    ticketed := stocked.ticketed, announced := fun externalId said => absurd (stocked.silent externalId) said }

theorem kept_step (label : PullLabel) (next : PullStore) (kept : Kept store) (allowed : pullMachine.allowed store label)
    (taken : pullStep store label = .ok next) : Kept next := by
  cases label with
  | webhook env orgId action payload =>
      cases taken
      exact kept_handle _ (kept_announce store action payload kept) env orgId action payload
  | engine label =>
      simp only [pullStep] at taken
      cases stepped : engineStep store.db label with
      | error error => simp [stepped] at taken
      | ok db =>
          simp only [stepped, Except.ok.injEq] at taken
          subst taken
          have done := engineStep_stepped store.db label kept.coherent allowed db stepped
          have moves := engineStep_moves store.db label kept.coherent allowed db stepped
          exact kept_db store kept db done.coherent (moves_carried store.db db moves) done.advances.nextId

theorem follows_step (label : PullLabel) (next : PullStore) (kept : Kept store) (follows : Follows store)
    (allowed : (pullMachine.restrict Heard).allowed store label) (taken : pullStep store label = .ok next) :
    Follows next := by
  cases label with
  | webhook env orgId action payload =>
      cases taken
      exact follows_webhook store action payload env orgId kept follows allowed.1 allowed.2
  | engine label =>
      simp only [pullStep] at taken
      cases stepped : engineStep store.db label with
      | error error => simp [stepped] at taken
      | ok db =>
          simp only [stepped, Except.ok.injEq] at taken
          subst taken
          exact follows

theorem kept_inductive : Inductive pullMachine Kept where
  initially := stocked_kept
  kept := fun store label next kept allowed taken => kept_step store label next kept allowed taken

theorem follows_inductive : Inductive (pullMachine.restrict Heard) fun store => Kept store ∧ Follows store where
  initially := by
    intro store stocked
    refine ⟨stocked_kept store stocked, fun externalId pull state _ said => ?_⟩
    rw [stocked.silent externalId] at said
    cases said
  kept := fun store label next holds allowed taken =>
    ⟨kept_step store label next holds.1 allowed.1 taken, follows_step store label next holds.1 holds.2 allowed taken⟩

def PullStore.delivered (store : PullStore) (env : IntakeEnv) (orgId : Uuid) (action : PullAction) (payload : PullPayload) :
    PullStore :=
  ((store.announce action payload).handlePullRequest env orgId action payload).1

theorem closed_halts_iff (kept : Kept store) (env : IntakeEnv) (orgId : Uuid) (externalId : String) (pull : PullRequest)
    (named : payload.externalId? = some externalId) (stored : store.pulls.find? ("github", externalId) = some pull) :
    Halts (store.delivered env orgId .closed payload).db pull ↔ Haltable store.db orgId pull := by
  obtain ⟨pulls, db, _⟩ := announce_tables store .closed payload
  have handled : (store.delivered env orgId .closed payload) =
      ((store.announce .closed payload).handleClosed env orgId payload externalId).1 := by
    simp [PullStore.delivered, PullStore.handlePullRequest, named]
  rw [handled]
  by_cases own : pull.orgId = orgId
  · subst own
    have found : (store.announce .closed payload).getByExternal externalId pull.orgId = some pull := by
      simp [PullStore.getByExternal, pulls, stored]
    obtain ⟨_, _, closed⟩ := handleClosed_closed env _ pull.orgId payload externalId pull found
    rw [db] at closed
    exact ⟨closed_haltable env.engine store.db _ pull kept.coherent closed,
      closed_halts env.engine store.db _ pull kept.coherent closed⟩
  · have unknown : (store.announce .closed payload).getByExternal externalId orgId = none := by
      simp [PullStore.getByExternal, pulls, stored, own]
    rw [closed_unheard _ env orgId payload externalId unknown, db]
    constructor
    · exact fun halts ticket bound run member owned => .inl (halts ticket bound run member owned)
    · intro haltable ticket bound run member owned
      exact (haltable ticket bound run member owned).resolve_right fun other => own other.1

theorem pull_request_followed (store : PullStore) :
    (Reachable (pullMachine.restrict Heard) store → Follows store) ∧
      (Reachable pullMachine store → ∀ env orgId payload externalId pull, payload.externalId? = some externalId →
        store.pulls.find? ("github", externalId) = some pull →
          (Halts (store.delivered env orgId .closed payload).db pull ↔ Haltable store.db orgId pull)) := by
  constructor
  · exact fun reachable => (reachable_invariant _ _ follows_inductive store reachable).2
  · intro reachable env orgId payload externalId pull named stored
    have kept := reachable_invariant _ _ kept_inductive store reachable
    exact closed_halts_iff store payload kept env orgId externalId pull named stored

end Stepping

def sampleMirror : VcsPullRequest :=
  { pluginId := "github", externalId := "me/repo#7", repoExternalId := "me/repo", number := 7, title := "title",
    body := none, authorLogin := "author", authorIsBot := false, baseBranch := "main", headBranch := "topic",
    baseSha := "b", headSha := "h", isDraft := false, isFork := false, state := .opened, htmlUrl := "" }

def samplePull : PullRequest := { id := 5, orgId := 1, ticketId := 2, mirror := sampleMirror }

def startSample : Label := .startRun (sampleEnv sampleActions) 1 2 3 sampleKickoff none

def sampleLabels : List Label := [.createTicket sampleTicket, .bindPullRequest 2 5, startSample]

def queuedLabels : List Label := [.createTicket sampleTicket, .bindPullRequest 2 5, startSample, startSample]

def pullsOver (labels : List Label) : PullStore :=
  { db := runEngine.after (.empty 10) labels, pulls := ⟨[samplePull], List.nodup_singleton _⟩,
    sources := ⟨[⟨1, "github_pr", "me/repo#7", 2⟩], List.nodup_singleton _⟩, implied := fun _ => none }

def sampleIntake : IntakeEnv :=
  { engine := sampleEnv sampleActions, attribution := fun _ _ => none
    findBindings := fun _ _ point => if point = "github:pr_opened" then [3] else [] }

def samplePayload (state : PrState) : PullPayload :=
  { repoFullName := "me/repo", number := some 7, title := "title", body := none, userLogin := "author", userType := "User",
    baseRef := "main", headRef := "topic", baseSha := "b", headSha := "h", draft := false, headRepo := some "me/repo",
    baseRepo := some "me/repo", merged := false, state := state, htmlUrl := "" }

def sampleDelivery (action : PullAction) (state : PrState) : PullLabel :=
  .webhook sampleIntake 1 action (samplePayload state)

theorem pullsOver_stocked (labels : List Label) (commits : runEngine.Commits (.empty 10) labels)
    (minted : 10 ≤ (runEngine.after (.empty 10) labels).nextId)
    (ticketed : ((runEngine.after (.empty 10) labels).tickets.find? 2).map Ticket.orgId = some 1) :
    Stocked (pullsOver labels) where
  engine := ⟨.empty 10, labels, ⟨rfl, rfl, rfl, rfl, rfl, rfl⟩, commits_path runEngine _ labels commits⟩
  ids := by simp [pullsOver]
  bound := by
    intro row member
    rw [List.mem_singleton.mp member]
    exact Nat.lt_of_lt_of_le (by decide) minted
  ticketed := by
    intro row member
    rw [List.mem_singleton.mp member]
    exact Option.map_eq_some_iff.mp ticketed
  silent := fun _ => rfl

theorem startSample_allowed (db : Db) (found : (db.tickets.find? 2).map Ticket.orgId = some 1) : startSample.Allowed db :=
  Option.map_eq_some_iff.mp found

theorem sampleLabels_commits : runEngine.Commits (.empty 10) sampleLabels :=
  ⟨trivial, rfl, trivial, rfl, startSample_allowed _ rfl, rfl, trivial⟩

theorem queuedLabels_commits : runEngine.Commits (.empty 10) queuedLabels :=
  ⟨trivial, rfl, trivial, rfl, startSample_allowed _ rfl, rfl, startSample_allowed _ rfl, rfl, trivial⟩

theorem reopened_unfollowed :
    Reachable pullMachine (pullMachine.after (pullsOver queuedLabels)
        [sampleDelivery .closed .closed, sampleDelivery .reopened .opened]) ∧
      ¬ Follows (pullMachine.after (pullsOver queuedLabels)
        [sampleDelivery .closed .closed, sampleDelivery .reopened .opened]) ∧
      ¬ Halts (pullMachine.after (pullsOver queuedLabels) [sampleDelivery .closed .closed]).db samplePull := by
  have stocked := pullsOver_stocked queuedLabels queuedLabels_commits (by decide +kernel) (by decide +kernel)
  have shows (store : PullStore) (action : PullAction) (state : PrState) (own : impliedBy action (samplePayload state) =
      some (samplePayload state).prState) : Shows store action (samplePayload state) := by
    intro externalId _ said announced
    rw [own, Option.some_or, Option.some.injEq] at announced
    exact announced
  refine ⟨⟨_, _, stocked, commits_path pullMachine _ _ ?_⟩, fun follows => ?_, fun halts => ?_⟩
  · exact ⟨shows _ _ _ rfl, rfl, shows _ _ _ rfl, rfl, trivial⟩
  · have wrong := follows "me/repo#7" (samplePull.setState .closed) .opened (by decide +kernel) (by decide +kernel)
    cases wrong
  · have ticketed : (boundTickets (pullMachine.after (pullsOver queuedLabels) [sampleDelivery .closed .closed]).db
        samplePull.id samplePull.orgId).map Ticket.id = [2] := by decide +kernel
    have queued : ((pullMachine.after (pullsOver queuedLabels) [sampleDelivery .closed .closed]).db.runs.find? 11).map
        (fun run => (run.ticketId, run.halting)) = some (2, false) := by decide +kernel
    obtain ⟨ticket, member, named⟩ := List.mem_map.mp (ticketed ▸ List.mem_singleton.mpr rfl)
    obtain ⟨run, found, same⟩ := Option.map_eq_some_iff.mp queued
    obtain ⟨own, goesOn⟩ := Prod.mk.injEq _ _ _ _ ▸ same
    have stopped := halts ticket member run (Table.find?_some _ _ run found).1 (own.trans named.symm)
    rw [goesOn] at stopped
    cases stopped

theorem closed_followed :
    Follows (pullMachine.after (pullsOver sampleLabels) [sampleDelivery .closed .closed]) ∧
      (Halts ((pullsOver sampleLabels).delivered sampleIntake 1 .closed (samplePayload .closed)).db samplePull ↔
        Haltable (pullsOver sampleLabels).db 1 samplePull) := by
  have stocked := pullsOver_stocked sampleLabels sampleLabels_commits (by decide +kernel) (by decide +kernel)
  constructor
  · refine (pull_request_followed _).1 ⟨_, _, stocked, commits_restrict pullMachine Heard _ _ ?_ ?_⟩
    · refine ⟨fun externalId _ state announced => ?_, rfl, trivial⟩
      exact Option.some.inj announced
    · refine ⟨fun externalId pull named found => ⟨fun _ => .inl ?_, fun wrong => by cases wrong⟩, trivial⟩
      cases named
      have same : some samplePull = some pull := by
        rw [← found]
        decide +kernel
      cases same
      rfl
  · exact (pull_request_followed (pullsOver sampleLabels)).2 ⟨_, [], stocked, .nil _⟩ sampleIntake 1 (samplePayload .closed)
      "me/repo#7" samplePull (by decide +kernel) (by decide +kernel)

end Yaaos.Intake
