import Yaaos.Base.Machine
import Yaaos.Web.PipelineDraft

set_option autoImplicit false

namespace Yaaos.Web

open Yaaos.Base

inductive SaveStatus where
  | idle
  | saving
  | saved
  | blocked
  | error
  deriving DecidableEq

structure Put where
  mutation : Nat
  body : PipelineDefinitionBody
  deriving DecidableEq

structure AutoSave where
  lastSavedBody : Option PipelineDefinitionBody
  inFlightBody : Option PipelineDefinitionBody
  queued : Option PipelineDraft
  blocked : Bool
  hasSavedOnce : Bool
  status : SaveStatus
  mounted : Bool
  mutations : Nat
  puts : List Put
  server : PipelineDetailView
  newest : Option PipelineDraft
  failed : Bool

namespace AutoSave

def startPut (editor : AutoSave) (draft : PipelineDraft) : AutoSave :=
  { editor with
    inFlightBody := some (draftToWire draft)
    status := .saving
    mutations := editor.mutations + 1
    puts := editor.puts ++ [{ mutation := editor.mutations + 1, body := draftToWire draft }] }

def onSuccess (editor : AutoSave) (body : PipelineDefinitionBody) : AutoSave :=
  let saved := { editor with lastSavedBody := some body, hasSavedOnce := true }
  match editor.queued with
  | some draft => startPut { saved with queued := none } draft
  | none =>
      if editor.blocked then { saved with inFlightBody := none }
      else { saved with inFlightBody := none, status := .saved }

def onError (editor : AutoSave) : AutoSave :=
  let settled := { editor with inFlightBody := none, queued := none }
  if editor.blocked then settled else { settled with status := .error }

def commit (editor : AutoSave) (draft : PipelineDraft) : AutoSave :=
  let body := draftToWire draft
  if some body = editor.lastSavedBody then
    if editor.inFlightBody ≠ none ∧ editor.inFlightBody ≠ some body then
      { editor with blocked := false, queued := some draft, status := .saving }
    else
      { editor with
        blocked := false
        queued := none
        status := if editor.status = .blocked ∨ editor.status = .error then
          (if editor.hasSavedOnce then .saved else .idle) else editor.status }
  else if pipelineDraftIsValid draft then
    if editor.inFlightBody ≠ none then { editor with blocked := false, queued := some draft, status := .saving }
    else startPut { editor with blocked := false } draft
  else { editor with blocked := true, queued := none, status := .blocked }

def markSaved (editor : AutoSave) (draft : PipelineDraft) : AutoSave :=
  { editor with lastSavedBody := some (draftToWire draft) }

def seeded (newKey : String → String) (detail : PipelineDetailView) : AutoSave :=
  markSaved
    { lastSavedBody := none, inFlightBody := none, queued := none, blocked := false, hasSavedOnce := false, status := .idle,
      mounted := true, mutations := 0, puts := [], server := detail, newest := none, failed := false }
    (detailToDraft newKey detail)

end AutoSave

inductive EditLabel where
  | commit (draft : PipelineDraft)
  | succeed (index : Nat) (detail : PipelineDetailView)
  | fail (index : Nat)
  | unmount

-- The callbacks of a PUT run for the latest `mutate` call, while the editor is mounted.
def AutoSave.step (editor : AutoSave) : EditLabel → Except Unit AutoSave
  | .commit draft =>
      if editor.mounted then .ok { editor.commit draft with newest := some draft, failed := false } else .error ()
  | .succeed index detail => match editor.puts[index]? with
      | none => .error ()
      | some put =>
          let landed := { editor with puts := editor.puts.eraseIdx index, server := detail }
          .ok (if editor.mounted && put.mutation == editor.mutations then landed.onSuccess put.body else landed)
  | .fail index => match editor.puts[index]? with
      | none => .error ()
      | some put =>
          let landed := { editor with puts := editor.puts.eraseIdx index, failed := true }
          .ok (if editor.mounted && put.mutation == editor.mutations then landed.onError else landed)
  | .unmount => if editor.mounted then .ok { editor with mounted := false } else .error ()

def AutoSave.answers (editor : AutoSave) : EditLabel → Bool
  | .succeed index detail => (editor.puts[index]?).all fun put => stores put.body detail
  | _ => true

def autoSaveMachine : Machine AutoSave EditLabel Unit where
  initial := fun editor => ∃ newKey detail, editor = AutoSave.seeded newKey detail
  allowed := fun editor label => editor.answers label = true
  step := AutoSave.step

instance (editor : AutoSave) (label : EditLabel) : Decidable (autoSaveMachine.allowed editor label) :=
  inferInstanceAs (Decidable (editor.answers label = true))

-- The editor does not close on a queued draft other than the one on the wire, and the
-- saved body is not committed again as an invalid draft while another one is on the wire,
-- nor out of a blocked state while it is on the wire itself.
def AutoSave.settles (editor : AutoSave) : EditLabel → Bool
  | .unmount => editor.queued.all fun draft => decide (editor.inFlightBody = some (draftToWire draft))
  | .commit draft =>
      editor.lastSavedBody ≠ some (draftToWire draft) || editor.inFlightBody = none ||
        (if editor.inFlightBody = some (draftToWire draft) then decide (editor.status ≠ .blocked)
         else pipelineDraftIsValid draft)
  | _ => true

def Settles (editor : AutoSave) (label : EditLabel) : Prop := editor.settles label = true

instance (editor : AutoSave) (label : EditLabel) : Decidable (Settles editor label) :=
  inferInstanceAs (Decidable (editor.settles label = true))

def AutoSave.reaches (editor : AutoSave) (body : PipelineDefinitionBody) : Prop :=
  (∀ put ∈ editor.puts, put.body = body) ∧ (editor.puts = [] → stores body editor.server = true)

def AutoSave.stands (editor : AutoSave) (draft : PipelineDraft) : Prop :=
  editor.newest = some draft ∧ pipelineDraftIsValid draft = true ∧ editor.failed = false

structure Converges (editor : AutoSave) : Prop where
  single : editor.puts.length ≤ 1
  converged : ∀ draft, editor.stands draft → editor.puts = [] → stores (draftToWire draft) editor.server = true
  shown : editor.mounted = true → editor.status = .saved → editor.puts = [] ∧ ∃ draft, editor.stands draft
  sent : ∀ draft, editor.stands draft → editor.mounted = false →
    (∃ put ∈ editor.puts, put.body = draftToWire draft) ∨ stores (draftToWire draft) editor.server = true

structure Mounted (editor : AutoSave) : Prop where
  single : editor.puts.length ≤ 1
  latest : ∀ put ∈ editor.puts, put.mutation = editor.mutations
  wired : editor.inFlightBody = editor.puts.head?.map Put.body
  saved : ∀ body, editor.lastSavedBody = some body → stores body editor.server = true
  sound : editor.hasSavedOnce = true → ∀ body, editor.lastSavedBody = some body → body.isValid = true
  asked : ∀ put ∈ editor.puts, put.body.isValid = true ∧ editor.failed = false ∧
    (editor.blocked = false → ∃ draft, editor.stands draft)
  waiting : ∀ draft, editor.queued = some draft → editor.newest = some draft ∧ editor.puts ≠ []
    ∧ editor.blocked = false
  reached : ∀ draft, editor.stands draft → editor.queued = none → editor.reaches (draftToWire draft)
  shown : editor.status = .saved → editor.puts = [] ∧ editor.hasSavedOnce = true ∧ ∃ draft, editor.stands draft
  erred : editor.status = .error → editor.puts = []

structure Unmounted (editor : AutoSave) : Prop where
  single : editor.puts.length ≤ 1
  reached : ∀ draft, editor.stands draft → editor.reaches (draftToWire draft)

def Keeps (editor : AutoSave) : Prop :=
  (editor.mounted = true → Mounted editor) ∧ (editor.mounted = false → Unmounted editor)

section Steps

variable (editor : AutoSave) (draft : PipelineDraft)

theorem stands_unique (other : PipelineDraft) (newest : editor.newest = some draft) (stands : editor.stands other) :
    other = draft := Option.some.inj (stands.1.symm.trans newest)

theorem only_put (index : Nat) (put : Put) (single : editor.puts.length ≤ 1) (there : editor.puts[index]? = some put) :
    editor.puts = [put] ∧ editor.puts.eraseIdx index = [] := by
  obtain ⟨inside, same⟩ := List.getElem?_eq_some_iff.mp there
  have first : index = 0 := by omega
  subst first
  obtain ⟨only, isOnly⟩ := List.length_eq_one_iff.mp (Nat.le_antisymm single (by omega))
  rw [isOnly] at there ⊢
  exact ⟨congrArg (fun put => [put]) (Option.some.inj there), rfl⟩

theorem flying (mounted : Mounted editor) (body : PipelineDefinitionBody) (wired : editor.inFlightBody = some body) :
    ∃ put, editor.puts = [put] ∧ put.body = body := by
  have single := mounted.single
  have head := mounted.wired.symm.trans wired
  obtain ⟨put, found, same⟩ := Option.map_eq_some_iff.mp head
  cases all : editor.puts with
  | nil =>
      rw [all] at found
      cases found
  | cons first rest =>
      rw [all] at found single
      cases found
      refine ⟨put, congrArg (put :: ·) (List.eq_nil_of_length_eq_zero ?_), same⟩
      rw [List.length_cons] at single
      omega

theorem grounded (mounted : Mounted editor) (unwired : editor.inFlightBody = none) : editor.puts = [] := by
  have head := mounted.wired.symm.trans unwired
  rw [Option.map_eq_none_iff] at head
  exact List.head?_eq_none_iff.mp head

theorem startPut_mounted (landed : editor.puts = []) (stands : editor.stands draft) (quiet : editor.queued = none)
    (saved : ∀ body, editor.lastSavedBody = some body → stores body editor.server = true)
    (sound : editor.hasSavedOnce = true → ∀ body, editor.lastSavedBody = some body → body.isValid = true) :
    Mounted (editor.startPut draft) := by
  have puts : (editor.startPut draft).puts = [{ mutation := editor.mutations + 1, body := draftToWire draft }] := by
    rw [AutoSave.startPut, landed]
    rfl
  have stands' : (editor.startPut draft).stands draft := stands
  constructor
  · rw [puts]
    exact Nat.le_refl 1
  · intro put member
    rw [puts, List.mem_singleton] at member
    rw [member]
    rfl
  · rw [puts]
    rfl
  · exact saved
  · exact sound
  · intro put member
    rw [puts, List.mem_singleton] at member
    rw [member, draftToWire_valid]
    exact ⟨stands.2.1, stands.2.2, fun _ => ⟨draft, stands'⟩⟩
  · intro other waits
    rw [show (editor.startPut draft).queued = none from quiet] at waits
    cases waits
  · intro other newer _
    rw [stands_unique _ draft other stands'.1 newer, AutoSave.reaches, puts]
    exact ⟨fun put member => by rw [List.mem_singleton.mp member], fun none_ => absurd none_ (List.cons_ne_nil _ _)⟩
  · intro shown
    cases shown
  · intro erred
    cases erred

theorem queue_mounted (mounted : Mounted editor) (wired : editor.inFlightBody ≠ none)
    (valid : pipelineDraftIsValid draft = true) : Mounted { editor with
      blocked := false, queued := some draft, status := .saving, newest := some draft, failed := false } := by
  obtain ⟨body, isBody⟩ := Option.ne_none_iff_exists'.mp wired
  obtain ⟨put, puts, _⟩ := flying editor mounted body isBody
  constructor
  · exact mounted.single
  · exact mounted.latest
  · exact mounted.wired
  · exact mounted.saved
  · exact mounted.sound
  · exact fun other member => ⟨(mounted.asked other member).1, rfl, fun _ => ⟨draft, rfl, valid, rfl⟩⟩
  · intro other waits
    refine ⟨waits, ?_, rfl⟩
    rw [puts]
    exact List.cons_ne_nil put []
  · intro other _ quiet
    cases quiet
  · intro shown
    cases shown
  · intro erred
    cases erred

theorem block_mounted (mounted : Mounted editor) (invalid : ¬ pipelineDraftIsValid draft = true) : Mounted { editor with
      blocked := true, queued := none, status := .blocked, newest := some draft, failed := false } := by
  constructor
  · exact mounted.single
  · exact mounted.latest
  · exact mounted.wired
  · exact mounted.saved
  · exact mounted.sound
  · exact fun other member => ⟨(mounted.asked other member).1, rfl, fun free => by cases free⟩
  · intro other waits
    cases waits
  · intro other stands _
    cases stands.1
    exact absurd stands.2.1 invalid
  · intro shown
    cases shown
  · intro erred
    cases erred

theorem unchanged_mounted (mounted : Mounted editor) (same : some (draftToWire draft) = editor.lastSavedBody)
    (alone : editor.inFlightBody = none ∨
      editor.inFlightBody = some (draftToWire draft) ∧ editor.status ≠ .blocked) : Mounted { editor with
      blocked := false
      queued := none
      status := if editor.status = .blocked ∨ editor.status = .error then
        (if editor.hasSavedOnce then .saved else .idle) else editor.status
      newest := some draft
      failed := false } := by
  have carried (put : Put) (member : put ∈ editor.puts) : put.body = draftToWire draft := by
    cases alone with
    | inl unwired =>
        rw [grounded editor mounted unwired] at member
        cases member
    | inr wired =>
        obtain ⟨only, puts, isBody⟩ := flying editor mounted _ wired.1
        rw [puts, List.mem_singleton] at member
        rw [member, isBody]
  have held := mounted.saved _ same.symm
  constructor
  · exact mounted.single
  · exact mounted.latest
  · exact mounted.wired
  · exact mounted.saved
  · exact mounted.sound
  · intro put member
    have valid := (mounted.asked put member).1
    refine ⟨valid, rfl, fun _ => ⟨draft, rfl, ?_, rfl⟩⟩
    rw [carried put member, draftToWire_valid] at valid
    exact valid
  · intro other waits
    cases waits
  · intro other stands _
    cases stands.1
    exact ⟨carried, fun _ => held⟩
  · intro shown
    have both : editor.puts = [] ∧ editor.hasSavedOnce = true := by
      dsimp only at shown
      split at shown
      · rename_i stale
        split at shown
        · rename_i once
          refine ⟨?_, once⟩
          cases alone with
          | inl unwired => exact grounded editor mounted unwired
          | inr wired => exact mounted.erred (stale.resolve_left wired.2)
        · cases shown
      · exact ⟨(mounted.shown shown).1, (mounted.shown shown).2.1⟩
    refine ⟨both.1, both.2, draft, rfl, ?_, rfl⟩
    rw [← draftToWire_valid]
    exact mounted.sound both.2 _ same.symm
  · intro erred
    dsimp only at erred
    split at erred
    · split at erred <;> cases erred
    · rename_i fresh
      exact absurd (Or.inr erred) fresh

theorem commit_mounted (mounted : Mounted editor) (settles : Settles editor (.commit draft)) :
    Mounted { editor.commit draft with newest := some draft, failed := false } := by
  rw [AutoSave.commit]
  dsimp only
  by_cases same : some (draftToWire draft) = editor.lastSavedBody
  · rw [if_pos same]
    by_cases other : editor.inFlightBody ≠ none ∧ editor.inFlightBody ≠ some (draftToWire draft)
    · rw [if_pos other]
      refine queue_mounted editor draft mounted other.1 ?_
      simpa [Settles, AutoSave.settles, same.symm, other.1, other.2] using settles
    · rw [if_neg other]
      refine unchanged_mounted editor draft mounted same ?_
      by_cases unwired : editor.inFlightBody = none
      · exact .inl unwired
      · have wired : editor.inFlightBody = some (draftToWire draft) := by
          by_contra away
          exact other ⟨unwired, away⟩
        refine .inr ⟨wired, ?_⟩
        simpa [Settles, AutoSave.settles, same.symm, wired] using settles
  · rw [if_neg same]
    by_cases valid : pipelineDraftIsValid draft = true
    · rw [if_pos valid]
      by_cases wired : editor.inFlightBody ≠ none
      · rw [if_pos wired]
        exact queue_mounted editor draft mounted wired valid
      · rw [if_neg wired]
        have landed := grounded editor mounted (not_not.mp wired)
        refine startPut_mounted { editor with blocked := false, newest := some draft, failed := false } draft landed
          ⟨rfl, valid, rfl⟩ ?_ mounted.saved mounted.sound
        by_contra waits
        obtain ⟨other, isOther⟩ := Option.ne_none_iff_exists'.mp waits
        exact (mounted.waiting other isOther).2.1 landed
    · rw [if_neg valid]
      exact block_mounted editor draft mounted valid

theorem succeed_mounted (mounted : Mounted editor) (put : Put) (detail : PipelineDetailView) (puts : editor.puts = [put])
    (answers : stores put.body detail = true) :
    Mounted ({ editor with puts := [], server := detail }.onSuccess put.body) := by
  have member : put ∈ editor.puts := puts ▸ List.mem_cons_self
  obtain ⟨valid, fresh, asked⟩ := mounted.asked put member
  have saved : ∀ body, some put.body = some body → stores body detail = true := by
    intro body same
    cases same
    exact answers
  have sound : ∀ body, some put.body = some body → body.isValid = true := by
    intro body same
    cases same
    exact valid
  cases queued : editor.queued with
  | some draft =>
      obtain ⟨newest, _, free⟩ := mounted.waiting draft queued
      obtain ⟨other, stands⟩ := asked free
      rw [stands_unique editor draft other newest stands] at stands
      rw [AutoSave.onSuccess]
      dsimp only
      exact startPut_mounted
        { editor with
          puts := [], server := detail, lastSavedBody := some put.body, hasSavedOnce := true, queued := none }
        draft rfl stands rfl saved fun _ => sound
  | none =>
      have reached (draft : PipelineDraft) (stands : editor.stands draft) : stores (draftToWire draft) detail = true := by
        rw [← (mounted.reached draft stands queued).1 put member]
        exact answers
      have quiet (status : SaveStatus) (shown : status = .saved → ∃ draft, editor.stands draft) (calm : status ≠ .error) :
          Mounted { editor with
            puts := [], server := detail, lastSavedBody := some put.body, hasSavedOnce := true, inFlightBody := none
            queued := none, status := status } := by
        constructor
        · exact Nat.zero_le 1
        · exact fun other landed => by cases landed
        · rfl
        · exact saved
        · exact fun _ => sound
        · exact fun other landed => by cases landed
        · exact fun draft waits => by cases waits
        · exact fun draft stands _ => ⟨fun other landed => absurd landed List.not_mem_nil, fun _ => reached draft stands⟩
        · exact fun isSaved => ⟨rfl, rfl, shown isSaved⟩
        · exact fun isError => absurd isError calm
      rw [AutoSave.onSuccess]
      dsimp only
      by_cases blocked : editor.blocked = true
      · rw [if_pos blocked]
        have still := quiet editor.status (fun isSaved => (mounted.shown isSaved).2.2) fun isError => by
          rw [mounted.erred isError] at puts
          cases puts
        exact still
      · rw [if_neg blocked]
        exact quiet .saved (fun _ => asked (Bool.eq_false_iff.mpr blocked)) (by decide)

theorem fail_mounted (mounted : Mounted editor) (put : Put) (puts : editor.puts = [put]) :
    Mounted { editor with puts := [], failed := true }.onError := by
  have quiet (status : SaveStatus) (calm : status ≠ .saved) : Mounted { editor with
      puts := [], failed := true, inFlightBody := none, queued := none, status := status } := by
    constructor
    · exact Nat.zero_le 1
    · exact fun other landed => by cases landed
    · rfl
    · exact mounted.saved
    · exact mounted.sound
    · exact fun other landed => by cases landed
    · exact fun draft waits => by cases waits
    · exact fun draft stands _ => by cases stands.2.2
    · exact fun isSaved => absurd isSaved calm
    · exact fun _ => rfl
  rw [AutoSave.onError]
  dsimp only
  by_cases blocked : editor.blocked = true
  · rw [if_pos blocked]
    refine quiet editor.status fun isSaved => ?_
    rw [(mounted.shown isSaved).1] at puts
    cases puts
  · rw [if_neg blocked]
    exact quiet .error (by decide)

theorem unmount_mounted (mounted : Mounted editor) (settles : Settles editor .unmount) :
    Unmounted { editor with mounted := false } := by
  refine ⟨mounted.single, fun draft stands => ?_⟩
  cases queued : editor.queued with
  | none => exact mounted.reached draft stands queued
  | some waiting =>
      have newest := (mounted.waiting waiting queued).1
      have wired : editor.inFlightBody = some (draftToWire waiting) := by
        simpa [Settles, AutoSave.settles, queued] using settles
      obtain ⟨put, puts, isBody⟩ := flying editor mounted _ wired
      rw [stands_unique editor waiting draft newest stands]
      refine ⟨fun other member => ?_, fun landed => ?_⟩
      · rw [show other = put from List.mem_singleton.mp (puts ▸ member), isBody]
      · rw [puts] at landed
        cases landed

theorem succeed_unmounted (unmounted : Unmounted editor) (put : Put) (detail : PipelineDetailView)
    (puts : editor.puts = [put]) (answers : stores put.body detail = true) :
    Unmounted { editor with puts := [], server := detail } := by
  refine ⟨Nat.zero_le 1, fun draft stands => ⟨fun other landed => absurd landed List.not_mem_nil, fun _ => ?_⟩⟩
  rw [← (unmounted.reached draft stands).1 put (puts ▸ List.mem_cons_self)]
  exact answers

theorem commit_stays (draft : PipelineDraft) : (editor.commit draft).mounted = editor.mounted := by
  rw [AutoSave.commit]
  split
  · split <;> rfl
  · split
    · split <;> rfl
    · rfl

theorem onSuccess_stays (body : PipelineDefinitionBody) : (editor.onSuccess body).mounted = editor.mounted := by
  rw [AutoSave.onSuccess]
  dsimp only
  split
  · rfl
  · split <;> rfl

theorem onError_stays : editor.onError.mounted = editor.mounted := by
  rw [AutoSave.onError]
  dsimp only
  split <;> rfl

theorem called_back (keeps : Keeps editor) (put : Put) (puts : editor.puts = [put]) :
    (editor.mounted && put.mutation == editor.mutations) = editor.mounted := by
  cases mounted : editor.mounted with
  | true =>
      have latest := (keeps.1 mounted).latest put (puts ▸ List.mem_cons_self)
      rw [latest, beq_self_eq_true, Bool.true_and]
  | false => rw [Bool.false_and]

theorem step_keeps (label : EditLabel) (next : AutoSave) (keeps : Keeps editor)
    (allowed : (autoSaveMachine.restrict Settles).allowed editor label)
    (taken : (autoSaveMachine.restrict Settles).step editor label = .ok next) : Keeps next := by
  obtain ⟨answers, settles⟩ := allowed
  have stepped : editor.step label = .ok next := taken
  have answers : editor.answers label = true := answers
  have single : editor.puts.length ≤ 1 := by
    cases mounted : editor.mounted with
    | true => exact (keeps.1 mounted).single
    | false => exact (keeps.2 mounted).single
  cases label with
  | commit draft =>
      rw [AutoSave.step] at stepped
      split at stepped
      · rename_i mounted
        cases stepped
        have still : (editor.commit draft).mounted = true := (commit_stays editor draft).trans mounted
        exact ⟨fun _ => commit_mounted editor draft (keeps.1 mounted) settles,
          fun gone => absurd (still.symm.trans gone) (by decide)⟩
      · cases stepped
  | succeed index detail =>
      rw [AutoSave.step] at stepped
      split at stepped
      · cases stepped
      · rename_i put there
        obtain ⟨puts, landed⟩ := only_put editor index put single there
        have stored : stores put.body detail = true := by simpa [AutoSave.answers, there] using answers
        rw [landed] at stepped
        dsimp only at stepped
        rw [called_back editor keeps put puts] at stepped
        cases mounted : editor.mounted with
        | true =>
            rw [if_pos mounted] at stepped
            cases stepped
            have still : ({ editor with puts := [], server := detail }.onSuccess put.body).mounted = true :=
              (onSuccess_stays _ put.body).trans mounted
            exact ⟨fun _ => succeed_mounted editor (keeps.1 mounted) put detail puts stored,
              fun gone => absurd (still.symm.trans gone) (by decide)⟩
        | false =>
            rw [if_neg (by rw [mounted]; decide)] at stepped
            cases stepped
            exact ⟨fun there => absurd (mounted.symm.trans there) (by decide),
              fun _ => succeed_unmounted editor (keeps.2 mounted) put detail puts stored⟩
  | fail index =>
      rw [AutoSave.step] at stepped
      split at stepped
      · cases stepped
      · rename_i put there
        obtain ⟨puts, landed⟩ := only_put editor index put single there
        rw [landed] at stepped
        dsimp only at stepped
        rw [called_back editor keeps put puts] at stepped
        cases mounted : editor.mounted with
        | true =>
            rw [if_pos mounted] at stepped
            cases stepped
            have still : { editor with puts := [], failed := true }.onError.mounted = true :=
              (onError_stays _).trans mounted
            exact ⟨fun _ => fail_mounted editor (keeps.1 mounted) put puts,
              fun gone => absurd (still.symm.trans gone) (by decide)⟩
        | false =>
            rw [if_neg (by rw [mounted]; decide)] at stepped
            cases stepped
            refine ⟨fun there => absurd (mounted.symm.trans there) (by decide), fun _ => ⟨Nat.zero_le 1, ?_⟩⟩
            intro draft stands
            cases stands.2.2
  | unmount =>
      rw [AutoSave.step] at stepped
      split at stepped
      · rename_i mounted
        cases stepped
        exact ⟨fun there => absurd there Bool.false_ne_true, fun _ => unmount_mounted editor (keeps.1 mounted) settles⟩
      · cases stepped

theorem seeded_keeps (newKey : String → String) (detail : PipelineDetailView) : Keeps (AutoSave.seeded newKey detail) := by
  refine ⟨fun _ => ?_, fun gone => by cases gone⟩
  constructor
  · exact Nat.zero_le 1
  · exact fun put landed => by cases landed
  · rfl
  · intro body same
    cases same
    exact detail_round_trip newKey detail
  · exact fun once => by cases once
  · exact fun put landed => by cases landed
  · exact fun draft waits => by cases waits
  · exact fun draft stands _ => by cases stands.1
  · exact fun isSaved => by cases isSaved
  · exact fun isError => by cases isError

theorem keeps_converges (keeps : Keeps editor) : Converges editor := by
  cases mounted : editor.mounted with
  | true =>
      have holds := keeps.1 mounted
      refine ⟨holds.single, fun draft stands landed => ?_, fun _ isSaved => ?_, fun draft _ gone => ?_⟩
      · cases queued : editor.queued with
        | none => exact (holds.reached draft stands queued).2 landed
        | some waiting => exact absurd landed (holds.waiting waiting queued).2.1
      · exact ⟨(holds.shown isSaved).1, (holds.shown isSaved).2.2⟩
      · rw [mounted] at gone
        cases gone
  | false =>
      have holds := keeps.2 mounted
      refine ⟨holds.single, fun draft stands => (holds.reached draft stands).2, fun there => ?_, fun draft stands _ => ?_⟩
      · rw [mounted] at there
        cases there
      · obtain ⟨carried, stored⟩ := holds.reached draft stands
        cases puts : editor.puts with
        | nil => exact .inr (stored puts)
        | cons put rest => exact .inl ⟨put, List.mem_cons_self, carried put (puts ▸ List.mem_cons_self)⟩

end Steps

theorem auto_save_converges (newKey : String → String) (detail : PipelineDetailView) (labels : List EditLabel)
    (last : AutoSave) (path : Path (autoSaveMachine.restrict Settles) (AutoSave.seeded newKey detail) labels last) :
    Converges last := by
  have keeps := path_keeps _ Keeps
    (fun editor label next keeps allowed taken => step_keeps editor label next keeps allowed taken)
    (AutoSave.seeded newKey detail) last labels path (seeded_keeps newKey detail)
  exact keeps_converges last keeps

def triage : PipelineDetailView :=
  { id := "p", name := "triage", description := "", stages := [{ id := "s", description := "", kind := .call "q" }] }

def renamed (name : String) : PipelineDraft := { detailToDraft id triage with name := name }

def renamedDetail (name : String) : PipelineDetailView := { triage with name := name }

def patient : List EditLabel :=
  [.commit (renamed "bugs"), .commit (renamed "issues"), .succeed 0 (renamedDetail "bugs"),
   .unmount, .succeed 0 (renamedDetail "issues")]

theorem auto_save_converges_patient : Converges (autoSaveMachine.after (AutoSave.seeded id triage) patient) :=
  auto_save_converges id triage patient _
    (commits_restrict autoSaveMachine Settles (AutoSave.seeded id triage) patient (by decide) (by decide))

def hasty : List EditLabel :=
  [.commit (renamed "bugs"), .commit (renamed "issues"), .unmount, .succeed 0 (renamedDetail "bugs")]

theorem queued_draft_lost : autoSaveMachine.Commits (AutoSave.seeded id triage) hasty ∧
    ¬ Converges (autoSaveMachine.after (AutoSave.seeded id triage) hasty) := by
  refine ⟨by decide, fun converges => ?_⟩
  have stored := converges.converged (renamed "issues") ⟨rfl, by decide, rfl⟩ rfl
  revert stored
  decide

end Yaaos.Web
