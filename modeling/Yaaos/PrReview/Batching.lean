import Yaaos.PrReview.Comments

set_option autoImplicit false

namespace Yaaos.PrReview

open Yaaos.Base
open Yaaos.Pipelines (RunState)

def Phase.held : Phase → List Uuid
  | .starting _ held | .ending _ held _ => held
  | _ => []

structure Sound (talk : Conversation) : Prop where
  owned : ∀ worker, ∀ id ∈ (talk.workers worker).held, talk.locks id = some worker
  kept : ∀ worker, ∀ id ∈ (talk.workers worker).held, ∃ row ∈ talk.comments.rows, row.id = id ∧ row.waiting = true
  fresh : ∀ run ∈ talk.runs.rows, run.id < talk.nextId
  claimed : ∀ run ∈ talk.runs.rows, ∀ id ∈ run.batch,
    ∃ row ∈ talk.comments.rows, row.id = id ∧ row.claimedByRunId = some run.id
  batched : ∀ row ∈ talk.comments.rows, ∀ runId, row.claimedByRunId = some runId →
    ∃ run ∈ talk.runs.rows, run.id = runId ∧ row.id ∈ run.batch

inductive ConversationMove (talk : Conversation) : ConversationLabel → Conversation → Prop where
  | post (comment : InboundComment) (findingId : Option Uuid) (next : Conversation)
      (posted : talk.post comment findingId = .ok next) : ConversationMove talk (.post comment findingId) next
  | deliver (worker : Nat) (message : Message) (left : Nat) (again : Bool) (idle : talk.workers worker = .idle)
      (queued : (message, left) ∈ talk.pending) :
      ConversationMove talk (.deliver worker message left again) (talk.deliver worker message left again)
  | load (worker : Nat) (commentId : Uuid) (loading : talk.workers worker = .loading commentId) :
      ConversationMove talk (.load worker) (talk.load worker commentId)
  | stamp (worker : Nat) (result : ClassifyCommentOutput) (commentId : Uuid) (next : Conversation)
      (classifying : talk.workers worker = .classifying commentId)
      (stamped : talk.stamp worker commentId result = .ok next) : ConversationMove talk (.stamp worker result) next
  | reply (worker : Nat) (replying : talk.workers worker = .replying) :
      ConversationMove talk (.reply worker) (talk.turn worker .idle)
  | look (worker : Nat) (caller : Caller) (looking : talk.workers worker = .looking caller) :
      ConversationMove talk (.look worker) (talk.look worker caller)
  | select (worker : Nat) (caller : Caller) (selecting : talk.workers worker = .selecting caller) :
      ConversationMove talk (.select worker) (talk.select worker caller)
  | lock (worker : Nat) (caller : Caller) (snapshot : List Uuid) (next : Conversation)
      (locking : talk.workers worker = .locking caller snapshot)
      (locked : talk.lock worker caller snapshot = .ok next) : ConversationMove talk (.lock worker) next
  | start (worker : Nat) (handle : Uuid → String) (succeeds : Bool) (caller : Caller) (held : List Uuid)
      (starting : talk.workers worker = .starting caller held) :
      ConversationMove talk (.start worker handle succeeds) (talk.start worker caller held handle succeeds)
  | finish (worker : Nat) (view : ApprovalView) (promoted : Bool) (caller : Caller) (held : List Uuid)
      (inputText : Option String) (ending : talk.workers worker = .ending caller held inputText) :
      ConversationMove talk (.finish worker view promoted) (talk.finish worker caller held inputText view promoted)
  | fail (worker : Nat) : ConversationMove talk (.fail worker) (talk.release worker)
  | otherRun (inputText : Option String) (next : Conversation) (started : talk.otherRun inputText = .ok next) :
      ConversationMove talk (.otherRun inputText) next
  | advance (runId : Uuid) (state : RunState) (next : Conversation) (advanced : talk.advance runId state = .ok next) :
      ConversationMove talk (.advance runId state) next
  | cancelQueued (runId : Uuid) (next : Conversation) (cancelled : talk.cancelQueued runId = .ok next) :
      ConversationMove talk (.cancelQueued runId) next
  | bind (bound : Bool) : ConversationMove talk (.bind bound) { talk with bound := bound }

theorem conversationStep_moves (talk next : Conversation) (label : ConversationLabel)
    (taken : conversationStep talk label = .ok next) : ConversationMove talk label next := by
  cases label with
  | post comment findingId => exact .post comment findingId next taken
  | deliver worker message left again =>
      cases phase : talk.workers worker <;> simp only [conversationStep, phase, reduceCtorEq] at taken
      split at taken <;> cases taken
      rename_i queued
      exact .deliver worker message left again phase queued
  | load worker =>
      cases phase : talk.workers worker <;> simp only [conversationStep, phase, reduceCtorEq, Except.ok.injEq] at taken
      exact taken ▸ .load worker _ phase
  | stamp worker result =>
      cases phase : talk.workers worker <;> simp only [conversationStep, phase, reduceCtorEq] at taken
      exact .stamp worker result _ next phase taken
  | reply worker =>
      cases phase : talk.workers worker <;> simp only [conversationStep, phase, reduceCtorEq, Except.ok.injEq] at taken
      exact taken ▸ .reply worker phase
  | look worker =>
      cases phase : talk.workers worker <;> simp only [conversationStep, phase, reduceCtorEq, Except.ok.injEq] at taken
      exact taken ▸ .look worker _ phase
  | select worker =>
      cases phase : talk.workers worker <;> simp only [conversationStep, phase, reduceCtorEq, Except.ok.injEq] at taken
      exact taken ▸ .select worker _ phase
  | lock worker =>
      cases phase : talk.workers worker <;> simp only [conversationStep, phase, reduceCtorEq] at taken
      exact .lock worker _ _ next phase taken
  | start worker handle succeeds =>
      cases phase : talk.workers worker <;> simp only [conversationStep, phase, reduceCtorEq, Except.ok.injEq] at taken
      exact taken ▸ .start worker handle succeeds _ _ phase
  | finish worker view promoted =>
      cases phase : talk.workers worker <;> simp only [conversationStep, phase, reduceCtorEq, Except.ok.injEq] at taken
      exact taken ▸ .finish worker view promoted _ _ _ phase
  | fail worker =>
      cases taken
      exact .fail worker
  | otherRun inputText => exact .otherRun inputText next taken
  | advance runId state => exact .advance runId state next taken
  | cancelQueued runId => exact .cancelQueued runId next taken
  | bind bound =>
      cases taken
      exact .bind bound

theorem load_turns (talk : Conversation) (worker : Nat) (commentId : Uuid) :
    talk.load worker commentId = talk.turn worker .idle ∨
      talk.load worker commentId = talk.turn worker (.classifying commentId) := by
  unfold Conversation.load
  split
  · exact .inl rfl
  · split
    · exact .inl rfl
    · exact .inr rfl

theorem look_turns (talk : Conversation) (worker : Nat) (caller : Caller) :
    talk.look worker caller = talk.turn worker (.ending caller [] none) ∨
      talk.look worker caller = talk.turn worker (.selecting caller) := by
  unfold Conversation.look
  split
  · exact .inl rfl
  · exact .inr rfl

section Soundness

variable (talk : Conversation)

theorem turn_workers (worker other : Nat) (phase : Phase) :
    (talk.turn worker phase).workers other = if other = worker then phase else talk.workers other := by
  simp [Conversation.turn, Function.update_apply]

theorem release_workers (worker other : Nat) :
    (talk.release worker).workers other = if other = worker then .idle else talk.workers other :=
  turn_workers talk worker other .idle

variable (worker : Nat)

theorem sound_turn (phase : Phase) (less : ∀ id ∈ phase.held, id ∈ (talk.workers worker).held)
    (sound : Sound talk) : Sound (talk.turn worker phase) := by
  have before (other : Nat) (id : Uuid) (member : id ∈ ((talk.turn worker phase).workers other).held) :
      id ∈ (talk.workers other).held := by
    rw [turn_workers] at member
    by_cases same : other = worker
    · rw [if_pos same] at member
      exact same ▸ less id member
    · rwa [if_neg same] at member
  refine ⟨?_, ?_, sound.fresh, sound.claimed, sound.batched⟩
  · intro other id member
    exact sound.owned other id (before other id member)
  · intro other id member
    exact sound.kept other id (before other id member)

theorem sound_release (sound : Sound talk) : Sound (talk.release worker) := by
  have before (other : Nat) (id : Uuid) (member : id ∈ ((talk.release worker).workers other).held) :
      other ≠ worker ∧ id ∈ (talk.workers other).held := by
    rw [release_workers] at member
    by_cases same : other = worker
    · simp [if_pos same, Phase.held] at member
    · rw [if_neg same] at member
      exact ⟨same, member⟩
  refine ⟨?_, ?_, sound.fresh, sound.claimed, sound.batched⟩
  · intro other id member
    obtain ⟨apart, earlier⟩ := before other id member
    have owner := sound.owned other id earlier
    simp [Conversation.release, owner, apart]
  · intro other id member
    exact sound.kept other id (before other id member).2

theorem sound_post (comment : InboundComment) (findingId : Option Uuid) (next : Conversation) (sound : Sound talk)
    (posted : talk.post comment findingId = .ok next) : Sound next := by
  unfold Conversation.post at posted
  split at posted
  · cases posted
  · cases inserted : talk.comments.insert? (talk.newComment comment findingId) with
    | none => simp [inserted] at posted
    | some comments =>
        simp only [inserted, Except.ok.injEq] at posted
        subst posted
        obtain ⟨rows, _⟩ := Table.insert?_some _ _ _ inserted
        have grown (row : PRComment) (member : row ∈ talk.comments.rows) : row ∈ comments.rows := by
          rw [rows]
          exact List.mem_append_left _ member
        refine ⟨sound.owned, ?_, ?_, ?_, ?_⟩
        · intro worker id member
          obtain ⟨row, stored, same⟩ := sound.kept worker id member
          exact ⟨row, grown row stored, same⟩
        · intro run member
          exact Nat.lt_succ_of_lt (sound.fresh run member)
        · intro run member id batched
          obtain ⟨row, stored, same⟩ := sound.claimed run member id batched
          exact ⟨row, grown row stored, same⟩
        · intro row member runId claimed
          change row ∈ comments.rows at member
          rw [rows, List.mem_append, List.mem_singleton] at member
          rcases member with earlier | new
          · exact sound.batched row earlier runId claimed
          · simp [new, Conversation.newComment] at claimed

theorem sound_stampRow (commentId : Uuid) (classification : Classification) (unlocked : talk.locks commentId = none)
    (sound : Sound talk) : Sound (talk.stampRow commentId classification) := by
  have rows : (talk.stampRow commentId classification).comments.rows =
      talk.comments.rows.map fun row => if row.id == commentId then row.stamp classification else row := rfl
  refine ⟨sound.owned, ?_, sound.fresh, ?_, ?_⟩
  · intro worker id member
    obtain ⟨row, stored, same, waits⟩ := sound.kept worker id member
    have owner := sound.owned worker id member
    have apart : row.id ≠ commentId := by
      intro clash
      rw [← same, clash, unlocked] at owner
      cases owner
    refine ⟨row, ?_, same, waits⟩
    rw [rows]
    exact List.mem_map.mpr ⟨row, stored, by simp [apart]⟩
  · intro run member id batched
    obtain ⟨row, stored, same, claimed⟩ := sound.claimed run member id batched
    refine ⟨_, List.mem_map_of_mem stored, ?_⟩
    split
    · exact ⟨same, claimed⟩
    · exact ⟨same, claimed⟩
  · intro row member runId claimed
    rw [rows, List.mem_map] at member
    obtain ⟨before, stored, same⟩ := member
    have keeps : row.id = before.id ∧ row.claimedByRunId = before.claimedByRunId := by
      rw [← same]
      split
      · exact ⟨rfl, rfl⟩
      · exact ⟨rfl, rfl⟩
    rw [keeps.2] at claimed
    rw [keeps.1]
    exact sound.batched before stored runId claimed

theorem sound_stamp (commentId : Uuid) (result : ClassifyCommentOutput) (next : Conversation)
    (sound : Sound talk) (stamped : talk.stamp worker commentId result = .ok next) : Sound next := by
  unfold Conversation.stamp at stamped
  by_cases locked : talk.locks commentId ≠ none
  · simp [locked] at stamped
  · have unlocked : talk.locks commentId = none := not_not.mp locked
    rw [if_neg locked] at stamped
    cases found : talk.comments.find? commentId with
    | none =>
        simp only [found, Except.ok.injEq] at stamped
        subst stamped
        exact sound_turn talk worker .idle (by simp [Phase.held]) sound
    | some row =>
        cases verdict : row.classify result with
        | unclear =>
            simp only [found, verdict, Except.ok.injEq] at stamped
            subst stamped
            exact sound_turn _ worker .replying (by simp [Phase.held])
              (sound_stampRow talk commentId .unclear unlocked sound)
        | intent intent =>
            simp only [found, verdict, Except.ok.injEq] at stamped
            subst stamped
            exact sound_turn _ worker (.looking .classifyComment) (by simp [Phase.held])
              (sound_stampRow talk commentId (.intent intent) unlocked sound)

theorem sound_lock (caller : Caller) (snapshot : List Uuid) (next : Conversation)
    (sound : Sound talk) (locked : talk.lock worker caller snapshot = .ok next) : Sound next := by
  unfold Conversation.lock at locked
  split at locked
  · cases locked
  · rename_i unlocked
    dsimp only at locked
    split at locked
    · cases locked
      exact sound_turn talk worker (.ending caller [] none) (by simp [Phase.held]) sound
    · cases locked
      have waits (id : Uuid) (member : id ∈ (talk.waitingRows.filter fun row => snapshot.contains row.id).map PRComment.id) :
          talk.locks id = none ∧ ∃ row ∈ talk.comments.rows, row.id = id ∧ row.waiting = true := by
        obtain ⟨row, chosen, same⟩ := List.mem_map.mp member
        simp only [Conversation.waitingRows, List.mem_filter, List.contains_eq_mem, decide_eq_true_eq] at chosen
        obtain ⟨⟨stored, waiting⟩, seen⟩ := chosen
        refine ⟨?_, row, stored, same, waiting⟩
        simp only [List.any_eq_true, not_exists, not_and, Bool.not_eq_true] at unlocked
        have free := unlocked row.id seen
        rw [← same]
        simpa using free
      have source (other : Nat) (id : Uuid)
          (member : id ∈ ((talk.turn worker (.starting caller
            ((talk.waitingRows.filter fun row => snapshot.contains row.id).map PRComment.id))).workers other).held) :
          (other = worker ∧ id ∈ (talk.waitingRows.filter fun row => snapshot.contains row.id).map PRComment.id) ∨
            id ∈ (talk.workers other).held := by
        rw [turn_workers] at member
        by_cases same : other = worker
        · rw [if_pos same] at member
          exact .inl ⟨same, member⟩
        · rw [if_neg same] at member
          exact .inr member
      refine ⟨?_, ?_, sound.fresh, sound.claimed, sound.batched⟩
      · intro other id member
        rcases source other id member with ⟨same, chosen⟩ | earlier
        · simp only [if_pos chosen, same]
        · have owner := sound.owned other id earlier
          have apart : id ∉ (talk.waitingRows.filter fun row => snapshot.contains row.id).map PRComment.id := by
            intro chosen
            rw [(waits id chosen).1] at owner
            cases owner
          simp only [if_neg apart, owner]
      · intro other id member
        rcases source other id member with ⟨_, chosen⟩ | earlier
        · exact (waits id chosen).2
        · exact sound.kept other id earlier

theorem sound_commitBatch (caller : Caller) (held : List Uuid) (inputText : String) (promoted : Bool)
    (ending : talk.workers worker = .ending caller held (some inputText)) (sound : Sound talk) :
    Sound ((talk.commitBatch held inputText promoted).release worker) := by
  unfold Conversation.commitBatch
  cases inserted : talk.runs.insert? (talk.newRun held inputText promoted) with
  | none => exact sound_release talk worker sound
  | some runs =>
      obtain ⟨rows, _⟩ := Table.insert?_some _ _ _ inserted
      have mine (id : Uuid) (member : id ∈ held) : talk.locks id = some worker :=
        sound.owned worker id (by rw [ending]; exact member)
      have free (id : Uuid) (member : id ∈ held) :
          ∃ row ∈ talk.comments.rows, row.id = id ∧ row.waiting = true :=
        sound.kept worker id (by rw [ending]; exact member)
      have unclaimed (row : PRComment) (stored : row ∈ talk.comments.rows) (member : row.id ∈ held) :
          row.claimedByRunId = none := by
        obtain ⟨other, otherStored, same, waits⟩ := free row.id member
        rw [Table.eq_of_key talk.comments row other stored otherStored same.symm]
        exact waiting_unclaimed other waits
      have others (other : Nat) (id : Uuid) (apart : other ≠ worker) (member : id ∈ (talk.workers other).held) :
          talk.locks id = some other ∧ id ∉ held := by
        have owner := sound.owned other id member
        refine ⟨owner, fun chosen => ?_⟩
        rw [mine id chosen, Option.some.injEq] at owner
        exact apart owner.symm
      have before (other : Nat) (id : Uuid)
          (member : id ∈ (if other = worker then Phase.idle else talk.workers other).held) :
          other ≠ worker ∧ id ∈ (talk.workers other).held := by
        by_cases same : other = worker
        · simp [if_pos same, Phase.held] at member
        · rw [if_neg same] at member
          exact ⟨same, member⟩
      refine ⟨?_, ?_, ?_, ?_, ?_⟩
      · intro other id member
        rw [release_workers] at member
        obtain ⟨apart, earlier⟩ := before other id member
        have owner := (others other id apart earlier).1
        simp [Conversation.release, Conversation.turn, owner, apart]
      · intro other id member
        rw [release_workers] at member
        obtain ⟨apart, earlier⟩ := before other id member
        obtain ⟨row, stored, same, waits⟩ := sound.kept other id earlier
        have outside := (others other id apart earlier).2
        refine ⟨row, List.mem_map.mpr ⟨row, stored, ?_⟩, same, waits⟩
        simp [same, outside]
      · intro run member
        change run ∈ runs.rows at member
        rw [rows, List.mem_append, List.mem_singleton] at member
        rcases member with earlier | new
        · exact Nat.lt_succ_of_lt (sound.fresh run earlier)
        · exact new ▸ Nat.lt_succ_self talk.nextId
      · intro run member id batched
        change run ∈ runs.rows at member
        rw [rows, List.mem_append, List.mem_singleton] at member
        rcases member with earlier | new
        · obtain ⟨row, stored, same, claimed⟩ := sound.claimed run earlier id batched
          have outside : row.id ∉ held := by
            intro chosen
            rw [unclaimed row stored chosen] at claimed
            cases claimed
          refine ⟨row, List.mem_map.mpr ⟨row, stored, ?_⟩, same, claimed⟩
          simp [outside]
        · rw [new] at batched ⊢
          obtain ⟨row, stored, same, _⟩ := free id batched
          have chosen : held.contains row.id = true := by
            rw [same]
            exact List.contains_iff_mem.mpr batched
          refine ⟨row.claim talk.nextId, List.mem_map.mpr ⟨row, stored, if_pos chosen⟩, same, rfl⟩
      · intro row member runId claimed
        obtain ⟨earlier, stored, same⟩ := List.mem_map.mp member
        subst same
        by_cases chosen : held.contains earlier.id = true
        · rw [if_pos chosen] at claimed ⊢
          refine ⟨talk.newRun held inputText promoted, ?_, Option.some.inj claimed, List.contains_iff_mem.mp chosen⟩
          change talk.newRun held inputText promoted ∈ runs.rows
          rw [rows]
          exact List.mem_append_right _ (List.mem_singleton_self _)
        · rw [if_neg chosen] at claimed ⊢
          obtain ⟨run, ran, own, batched⟩ := sound.batched earlier stored runId claimed
          refine ⟨run, ?_, own, batched⟩
          change run ∈ runs.rows
          rw [rows]
          exact List.mem_append_left _ ran

theorem sound_finish (caller : Caller) (held : List Uuid) (inputText : Option String)
    (view : ApprovalView) (promoted : Bool) (ending : talk.workers worker = .ending caller held inputText)
    (sound : Sound talk) : Sound (talk.finish worker caller held inputText view promoted) := by
  unfold Conversation.finish
  split
  · exact sound_release talk worker sound
  · cases inputText with
    | none => exact sound_release talk worker sound
    | some text => exact sound_commitBatch talk worker caller held text promoted ending sound

theorem sound_otherRun (inputText : Option String) (next : Conversation) (sound : Sound talk)
    (started : talk.otherRun inputText = .ok next) : Sound next := by
  unfold Conversation.otherRun at started
  split at started
  · cases started
  · rename_i runs inserted
    cases started
    obtain ⟨rows, _⟩ := Table.insert?_some _ _ _ inserted
    refine ⟨sound.owned, sound.kept, ?_, ?_, ?_⟩
    · intro run member
      change run ∈ runs.rows at member
      rw [rows, List.mem_append, List.mem_singleton] at member
      rcases member with earlier | new
      · exact Nat.lt_succ_of_lt (sound.fresh run earlier)
      · exact new ▸ Nat.lt_succ_self talk.nextId
    · intro run member id batched
      change run ∈ runs.rows at member
      rw [rows, List.mem_append, List.mem_singleton] at member
      rcases member with earlier | new
      · exact sound.claimed run earlier id batched
      · simp [new] at batched
    · intro row member runId claimed
      obtain ⟨run, ran, own, batched⟩ := sound.batched row member runId claimed
      refine ⟨run, ?_, own, batched⟩
      change run ∈ runs.rows
      rw [rows]
      exact List.mem_append_left _ ran

theorem sound_moveRun (runId : Uuid) (state : RunState) (sound : Sound talk) : Sound (talk.moveRun runId state) := by
  refine ⟨sound.owned, sound.kept, ?_, ?_, ?_⟩
  · intro other member
    obtain ⟨before, stored, same⟩ := List.mem_map.mp member
    subst same
    split
    · exact sound.fresh before stored
    · exact sound.fresh before stored
  · intro other member id batched
    obtain ⟨before, stored, same⟩ := List.mem_map.mp member
    have keeps : other.id = before.id ∧ other.batch = before.batch := by
      rw [← same]
      split
      · exact ⟨rfl, rfl⟩
      · exact ⟨rfl, rfl⟩
    rw [keeps.2] at batched
    rw [keeps.1]
    exact sound.claimed before stored id batched
  · intro row member owner claimed
    obtain ⟨before, stored, own, batched⟩ := sound.batched row member owner claimed
    refine ⟨_, List.mem_map_of_mem stored, ?_⟩
    split
    · exact ⟨own, batched⟩
    · exact ⟨own, batched⟩

theorem advance_moves (runId : Uuid) (state : RunState) (next : Conversation)
    (advanced : talk.advance runId state = .ok next) : ∃ run, talk.runs.find? runId = some run ∧
      next = if state.isTerminal then (talk.moveRun runId state).enqueue .afterRunTerminal else talk.moveRun runId state := by
  unfold Conversation.advance at advanced
  split at advanced
  · cases advanced
  · rename_i run found
    split at advanced
    · cases advanced
    · split at advanced
      · cases advanced
      · cases advanced
        exact ⟨run, found, rfl⟩

theorem cancelQueued_moves (runId : Uuid) (next : Conversation) (cancelled : talk.cancelQueued runId = .ok next) :
    next = talk.moveRun runId .cancelled := by
  unfold Conversation.cancelQueued at cancelled
  split at cancelled
  · cases cancelled
  · split at cancelled
    · cases cancelled
      rfl
    · cases cancelled

theorem sound_step (next : Conversation) (label : ConversationLabel) (sound : Sound talk)
    (taken : conversationStep talk label = .ok next) : Sound next := by
  cases conversationStep_moves talk next label taken with
  | post comment findingId _ posted => exact sound_post talk comment findingId next sound posted
  | deliver worker message left again =>
      have queued : Sound { talk with
          pending := if again && decide (0 < left) then (message, left - 1) :: talk.pending.erase (message, left)
            else talk.pending.erase (message, left) } :=
        ⟨sound.owned, sound.kept, sound.fresh, sound.claimed, sound.batched⟩
      refine sound_turn _ worker message.body ?_ queued
      cases message <;> simp [Message.body, Phase.held]
  | load worker commentId =>
      rcases load_turns talk worker commentId with same | same <;> rw [same]
      · exact sound_turn talk worker .idle (by simp [Phase.held]) sound
      · exact sound_turn talk worker (.classifying _) (by simp [Phase.held]) sound
  | stamp worker result commentId _ _ stamped => exact sound_stamp talk worker commentId result next sound stamped
  | reply worker => exact sound_turn talk worker .idle (by simp [Phase.held]) sound
  | look worker caller =>
      rcases look_turns talk worker caller with same | same <;> rw [same]
      · exact sound_turn talk worker (.ending _ [] none) (by simp [Phase.held]) sound
      · exact sound_turn talk worker (.selecting _) (by simp [Phase.held]) sound
  | select worker caller => exact sound_turn talk worker (.locking _ _) (by simp [Phase.held]) sound
  | lock worker caller snapshot _ _ locked => exact sound_lock talk worker caller snapshot next sound locked
  | start worker handle succeeds caller held starting =>
      have same (text : Option String) : ∀ id ∈ (Phase.ending caller held text).held,
          id ∈ (talk.workers worker).held := by
        rw [starting]
        exact fun id member => member
      unfold Conversation.start
      split
      · exact sound_turn talk worker _ (same none) sound
      · split
        · exact sound_turn talk worker _ (same _) sound
        · exact sound_release talk worker sound
  | finish worker view promoted caller held inputText ending =>
      exact sound_finish talk worker caller held inputText view promoted ending sound
  | fail worker => exact sound_release talk worker sound
  | otherRun inputText _ started => exact sound_otherRun talk inputText next sound started
  | advance runId state _ advanced =>
      obtain ⟨_, _, same⟩ := advance_moves talk runId state next advanced
      have moved := sound_moveRun talk runId state sound
      rw [same]
      split
      · exact ⟨moved.owned, moved.kept, moved.fresh, moved.claimed, moved.batched⟩
      · exact moved
  | cancelQueued runId _ cancelled =>
      rw [cancelQueued_moves talk runId next cancelled]
      exact sound_moveRun talk runId .cancelled sound
  | bind bound => exact ⟨sound.owned, sound.kept, sound.fresh, sound.claimed, sound.batched⟩

theorem unspoken_sound (unspoken : Unspoken talk) : Sound talk := by
  refine ⟨?_, ?_, ?_, ?_, ?_⟩
  · intro worker id member
    simp [unspoken.resting, Phase.held] at member
  · intro worker id member
    simp [unspoken.resting, Phase.held] at member
  · simp [unspoken.runs]
  · simp [unspoken.runs]
  · simp [unspoken.comments]

theorem conversations_sound (reachable : Reachable conversations talk) : Sound talk :=
  reachable_invariant conversations Sound
    ⟨unspoken_sound, fun state label next sound _ taken => sound_step state next label sound taken⟩ talk reachable

end Soundness

def Phase.sees : Phase → Uuid → Prop
  | .looking _, _ | .selecting _, _ => True
  | .locking _ snapshot, id => id ∈ snapshot
  | .starting _ held, id | .ending _ held (some _), id => id ∈ held
  | .idle, _ | .loading _, _ | .classifying _, _ | .replying, _ | .ending _ _ none, _ => False

def Conversation.Attended (talk : Conversation) (id : Uuid) : Prop :=
  talk.hasRunInFlight = true ∨ (∃ left, (Message.afterRunTerminal, left) ∈ talk.pending) ∨
    ∃ worker, (talk.workers worker).sees id

def NoneForgotten (talk : Conversation) : Prop :=
  ∀ row ∈ talk.comments.rows, row.waiting = true → talk.Attended row.id

def givesUp (talk : Conversation) : ConversationLabel → Option Nat
  | .fail worker => some worker
  | .start worker _ succeeds => if talk.bound && succeeds then none else some worker
  | .finish worker view _ => match talk.workers worker with
      | .ending .afterRunTerminal _ _ => if evaluateAutoApproval view = .raised then some worker else none
      | _ => none
  | _ => none

def Conversation.AttendedBeside (talk : Conversation) (runId id : Uuid) : Prop :=
  (∃ run ∈ talk.runs.rows, run.id ≠ runId ∧ run.inFlight = true) ∨
    (∃ left, (Message.afterRunTerminal, left) ∈ talk.pending) ∨ ∃ worker, (talk.workers worker).sees id

structure Relieved (talk : Conversation) (label : ConversationLabel) : Prop where
  attempt : ∀ worker, givesUp talk label = some worker → NoneForgotten (talk.turn worker .idle)
  withdrawn : ∀ runId, label = .cancelQueued runId → ∀ row ∈ talk.comments.rows, row.waiting = true →
    talk.AttendedBeside runId row.id

section Attention

variable (talk : Conversation)

variable (worker : Nat) (caller : Caller)

theorem attended_turn (phase : Phase) (id : Uuid) (attended : talk.Attended id)
    (seen : (talk.workers worker).sees id → (talk.turn worker phase).Attended id) :
    (talk.turn worker phase).Attended id := by
  rcases attended with running | queued | ⟨other, sees⟩
  · exact .inl running
  · exact .inr (.inl queued)
  · by_cases same : other = worker
    · exact seen (same ▸ sees)
    · refine .inr (.inr ⟨other, ?_⟩)
      rwa [turn_workers, if_neg same]

theorem attended_seen (phase : Phase) (id : Uuid) (sees : phase.sees id) :
    (talk.turn worker phase).Attended id :=
  .inr (.inr ⟨worker, by rwa [turn_workers, if_pos rfl]⟩)

theorem noneForgotten_turn (phase : Phase) (blind : ∀ id, ¬ (talk.workers worker).sees id)
    (none : NoneForgotten talk) : NoneForgotten (talk.turn worker phase) :=
  fun row member waits => attended_turn talk worker phase row.id (none row member waits) fun sees =>
    absurd sees (blind row.id)

theorem noneForgotten_release (none : NoneForgotten (talk.turn worker .idle)) :
    NoneForgotten (talk.release worker) := none

theorem noneForgotten_running (running : talk.hasRunInFlight = true) : NoneForgotten talk :=
  fun _ _ _ => .inl running

theorem noneForgotten_post (comment : InboundComment) (findingId : Option Uuid) (next : Conversation)
    (none : NoneForgotten talk) (posted : talk.post comment findingId = .ok next) : NoneForgotten next := by
  unfold Conversation.post at posted
  split at posted
  · cases posted
  · split at posted
    · cases posted
    · rename_i comments inserted
      cases posted
      obtain ⟨rows, _⟩ := Table.insert?_some _ _ _ inserted
      intro row member waits
      change row ∈ comments.rows at member
      rw [rows, List.mem_append, List.mem_singleton] at member
      rcases member with earlier | new
      · rcases none row earlier waits with running | ⟨left, queued⟩ | seen
        · exact .inl running
        · exact .inr (.inl ⟨left, List.mem_append_left _ queued⟩)
        · exact .inr (.inr seen)
      · simp [new, Conversation.newComment, PRComment.waiting, PRComment.actionable] at waits

theorem noneForgotten_deliver (message : Message) (left : Nat) (again : Bool)
    (idle : talk.workers worker = .idle) (none : NoneForgotten talk) :
    NoneForgotten (talk.deliver worker message left again) := by
  intro row member waits
  cases message with
  | afterRunTerminal =>
      exact attended_seen _ worker (.looking .afterRunTerminal) row.id trivial
  | classifyComment commentId =>
      have others (kept : Nat) (queued : (Message.afterRunTerminal, kept) ∈ talk.pending) :
          (Message.afterRunTerminal, kept) ∈ talk.pending.erase (.classifyComment commentId, left) :=
        (List.mem_erase_of_ne (by simp)).mpr queued
      refine attended_turn _ worker (.loading commentId) row.id ?_ fun sees => ?_
      · rcases none row member waits with running | ⟨kept, queued⟩ | seen
        · exact .inl running
        · refine .inr (.inl ⟨kept, ?_⟩)
          dsimp only
          split
          · exact List.mem_cons_of_mem _ (others kept queued)
          · exact others kept queued
        · exact .inr (.inr seen)
      · change (talk.workers worker).sees row.id at sees
        rw [idle] at sees
        exact sees.elim

theorem noneForgotten_stamp (commentId : Uuid) (result : ClassifyCommentOutput) (next : Conversation)
    (classifying : talk.workers worker = .classifying commentId) (none : NoneForgotten talk)
    (stamped : talk.stamp worker commentId result = .ok next) : NoneForgotten next := by
  have blind (id : Uuid) : ¬ (talk.workers worker).sees id := by
    rw [classifying]
    exact fun sees => sees
  have unstamped (classification : Classification) (phase : Phase) (row : PRComment)
      (member : row ∈ (talk.stampRow commentId classification).comments.rows) (waits : row.waiting = true)
      (apart : row.id ≠ commentId) : ((talk.stampRow commentId classification).turn worker phase).Attended row.id := by
    obtain ⟨before, stored, same⟩ := List.mem_map.mp member
    by_cases here : before.id = commentId
    · rw [if_pos (by simpa using here)] at same
      exact absurd (same ▸ here) apart
    · rw [if_neg (by simpa using here)] at same
      subst same
      exact attended_turn _ worker phase before.id (none before stored waits) fun sees => absurd sees (blind before.id)
  unfold Conversation.stamp at stamped
  split at stamped
  · cases stamped
  · split at stamped
    · cases stamped
      exact noneForgotten_turn talk worker .idle blind none
    · rename_i row found
      split at stamped
      · cases stamped
        intro other member waits
        refine unstamped .unclear .replying other member waits fun here => ?_
        obtain ⟨before, stored, same⟩ := List.mem_map.mp member
        have stampedHere : before.id = commentId := by
          rw [← here, ← same]
          split
          · rfl
          · rfl
        rw [if_pos (by simpa using stampedHere)] at same
        simp [← same, PRComment.waiting, PRComment.actionable, PRComment.stamp] at waits
      · cases stamped
        exact fun other _ _ => attended_seen _ worker (.looking .classifyComment) other.id trivial

theorem noneForgotten_look : NoneForgotten (talk.look worker caller) := by
  unfold Conversation.look
  by_cases running : talk.hasRunInFlight = true
  · rw [if_pos running]
    exact noneForgotten_running _ running
  · rw [if_neg running]
    exact fun row _ _ => attended_seen talk worker (.selecting caller) row.id trivial

theorem noneForgotten_select : NoneForgotten (talk.select worker caller) := by
  intro row member waits
  refine attended_seen talk worker (.locking caller _) row.id ?_
  exact List.mem_map_of_mem (List.mem_filter.mpr ⟨member, waits⟩)

theorem noneForgotten_lock (snapshot : List Uuid) (next : Conversation)
    (locking : talk.workers worker = .locking caller snapshot) (none : NoneForgotten talk)
    (locked : talk.lock worker caller snapshot = .ok next) : NoneForgotten next := by
  have chosen (row : PRComment) (member : row ∈ talk.comments.rows) (waits : row.waiting = true)
      (sees : (talk.workers worker).sees row.id) :
      row.id ∈ (talk.waitingRows.filter fun row => snapshot.contains row.id).map PRComment.id := by
    rw [locking] at sees
    refine List.mem_map_of_mem (List.mem_filter.mpr ⟨List.mem_filter.mpr ⟨member, waits⟩, ?_⟩)
    exact List.contains_iff_mem.mpr sees
  unfold Conversation.lock at locked
  split at locked
  · cases locked
  · dsimp only at locked
    split at locked
    · rename_i empty
      cases locked
      refine fun row member waits => attended_turn talk worker _ row.id (none row member waits) fun sees => ?_
      have held := chosen row member waits sees
      rw [empty] at held
      cases held
    · cases locked
      intro row member waits
      refine attended_turn talk worker (.starting caller _) row.id (none row member waits) fun sees => ?_
      exact attended_seen talk worker (.starting caller _) row.id (chosen row member waits sees)

theorem noneForgotten_start (held : List Uuid) (handle : Uuid → String)
    (succeeds : Bool) (starting : talk.workers worker = .starting caller held)
    (relieved : Relieved talk (.start worker handle succeeds)) (none : NoneForgotten talk) :
    NoneForgotten (talk.start worker caller held handle succeeds) := by
  unfold Conversation.start
  cases bound : talk.bound with
  | false =>
      have idle := relieved.attempt worker (by simp [givesUp, bound])
      intro row member waits
      rcases idle row member waits with running | queued | ⟨other, sees⟩
      · exact .inl running
      · exact .inr (.inl queued)
      · rw [turn_workers] at sees
        by_cases same : other = worker
        · simp [if_pos same, Phase.sees] at sees
        · rw [if_neg same] at sees
          refine .inr (.inr ⟨other, ?_⟩)
          change ((talk.turn worker (.ending caller held .none)).workers other).sees row.id
          rwa [turn_workers, if_neg same]
  | true =>
      cases succeeds with
      | false => exact noneForgotten_release talk worker (relieved.attempt worker (by simp [givesUp]))
      | true =>
          intro row member waits
          refine attended_turn talk worker _ row.id (none row member waits) fun sees => ?_
          rw [starting] at sees
          exact attended_seen talk worker (.ending caller held (some _)) row.id sees

theorem commitBatch_running (held : List Uuid) (inputText : String) (promoted : Bool) (sound : Sound talk) :
    (talk.commitBatch held inputText promoted).hasRunInFlight = true := by
  obtain ⟨runs, inserted⟩ := Table.insert?_fresh talk.runs (talk.newRun held inputText promoted)
    fun run member => Nat.ne_of_lt (sound.fresh run member)
  obtain ⟨rows, _⟩ := Table.insert?_some _ _ _ inserted
  unfold Conversation.commitBatch
  rw [inserted]
  refine List.any_eq_true.mpr ⟨talk.newRun held inputText promoted, ?_, ?_⟩
  · change _ ∈ runs.rows
    rw [rows]
    exact List.mem_append_right _ (List.mem_singleton_self _)
  · rw [TicketRun.inFlight, Conversation.newRun]
    dsimp only
    split
    · rfl
    · rfl

theorem noneForgotten_finish (held : List Uuid) (inputText : Option String)
    (view : ApprovalView) (promoted : Bool) (ending : talk.workers worker = .ending caller held inputText)
    (relieved : Relieved talk (.finish worker view promoted)) (sound : Sound talk) (none : NoneForgotten talk) :
    NoneForgotten (talk.finish worker caller held inputText view promoted) := by
  unfold Conversation.finish
  by_cases undone : caller = .afterRunTerminal ∧ evaluateAutoApproval view = .raised
  · rw [if_pos undone]
    refine noneForgotten_release talk worker (relieved.attempt worker ?_)
    simp [givesUp, ending, undone]
  · rw [if_neg undone]
    cases inputText with
    | none =>
        refine noneForgotten_release talk worker (noneForgotten_turn talk worker .idle (fun id sees => ?_) none)
        rw [ending] at sees
        exact sees
    | some text => exact noneForgotten_running _ (commitBatch_running talk held text promoted sound)

theorem noneForgotten_otherRun (inputText : Option String) (next : Conversation)
    (started : talk.otherRun inputText = .ok next) : NoneForgotten next := by
  unfold Conversation.otherRun at started
  split at started
  · cases started
  · rename_i runs inserted
    cases started
    obtain ⟨rows, _⟩ := Table.insert?_some _ _ _ inserted
    have added : { id := talk.nextId, state := .queued, inputText := inputText, batch := [] } ∈ runs.rows := by
      rw [rows]
      exact List.mem_append_right _ (List.mem_singleton_self _)
    exact noneForgotten_running _ (List.any_eq_true.mpr ⟨_, added, rfl⟩)

theorem noneForgotten_advance (runId : Uuid) (state : RunState) (next : Conversation)
    (advanced : talk.advance runId state = .ok next) : NoneForgotten next := by
  obtain ⟨run, found, same⟩ := advance_moves talk runId state next advanced
  obtain ⟨stored, own⟩ := Table.find?_some talk.runs runId run found
  rw [same]
  by_cases ended : state.isTerminal = true
  · intro row member waits
    rw [if_pos ended]
    exact .inr (.inl ⟨_, List.mem_append_right _ (List.mem_singleton_self _)⟩)
  · rw [if_neg ended]
    refine noneForgotten_running _ (List.any_eq_true.mpr ⟨_, List.mem_map_of_mem stored, ?_⟩)
    rw [if_pos (by simpa using own)]
    simpa [TicketRun.inFlight] using ended

theorem noneForgotten_cancelQueued (runId : Uuid) (next : Conversation) (relieved : Relieved talk (.cancelQueued runId))
    (cancelled : talk.cancelQueued runId = .ok next) : NoneForgotten next := by
  rw [cancelQueued_moves talk runId next cancelled]
  intro row member waits
  rcases relieved.withdrawn runId rfl row member waits with ⟨run, stored, apart, flies⟩ | queued | seen
  · refine .inl (List.any_eq_true.mpr ⟨run, List.mem_map.mpr ⟨run, stored, ?_⟩, flies⟩)
    rw [if_neg (by simpa using apart)]
  · exact .inr (.inl queued)
  · exact .inr (.inr seen)

theorem noneForgotten_step (next : Conversation) (label : ConversationLabel) (relieved : Relieved talk label)
    (sound : Sound talk) (none : NoneForgotten talk) (taken : conversationStep talk label = .ok next) :
    NoneForgotten next := by
  cases conversationStep_moves talk next label taken with
  | post comment findingId _ posted => exact noneForgotten_post talk comment findingId next none posted
  | deliver worker message left again idle => exact noneForgotten_deliver talk worker message left again idle none
  | load worker commentId loading =>
      have blind (id : Uuid) : ¬ (talk.workers worker).sees id := by
        rw [loading]
        exact fun sees => sees
      rcases load_turns talk worker commentId with same | same <;> rw [same]
      · exact noneForgotten_turn talk worker .idle blind none
      · exact noneForgotten_turn talk worker (.classifying commentId) blind none
  | stamp worker result commentId _ classifying stamped =>
      exact noneForgotten_stamp talk worker commentId result next classifying none stamped
  | reply worker replying =>
      refine noneForgotten_turn talk worker .idle (fun id sees => ?_) none
      rw [replying] at sees
      exact sees
  | look worker caller => exact noneForgotten_look talk worker caller
  | select worker caller => exact noneForgotten_select talk worker caller
  | lock worker caller snapshot _ locking locked =>
      exact noneForgotten_lock talk worker caller snapshot next locking none locked
  | start worker handle succeeds caller held starting =>
      exact noneForgotten_start talk worker caller held handle succeeds starting relieved none
  | finish worker view promoted caller held inputText ending =>
      exact noneForgotten_finish talk worker caller held inputText view promoted ending relieved sound none
  | fail worker => exact noneForgotten_release talk worker (relieved.attempt worker rfl)
  | otherRun inputText _ started => exact noneForgotten_otherRun talk inputText next started
  | advance runId state _ advanced => exact noneForgotten_advance talk runId state next advanced
  | cancelQueued runId _ cancelled => exact noneForgotten_cancelQueued talk runId next relieved cancelled
  | bind bound => exact none

theorem relieved_reachable (reachable : Reachable (conversations.restrict Relieved) talk) :
    Sound talk ∧ NoneForgotten talk :=
  reachable_invariant (conversations.restrict Relieved) (fun talk => Sound talk ∧ NoneForgotten talk)
    ⟨fun state unspoken => ⟨unspoken_sound state unspoken, by simp [NoneForgotten, unspoken.comments]⟩,
      fun state label next inv allowed taken =>
        ⟨sound_step state next label inv.1 taken,
          noneForgotten_step state next label allowed.2 inv.1 inv.2 taken⟩⟩ talk reachable

end Attention

structure Quiescent (talk : Conversation) : Prop where
  pending : talk.pending = []
  resting : ∀ worker, talk.workers worker = .idle
  finished : talk.hasRunInFlight = false
  bound : talk.bound = true

def ClaimedOnce (talk : Conversation) : Prop :=
  ∀ run ∈ talk.runs.rows, ∀ other ∈ talk.runs.rows, ∀ id ∈ run.batch, id ∈ other.batch → run = other

theorem sound_claimedOnce (talk : Conversation) (sound : Sound talk) : ClaimedOnce talk := by
  intro run ran other otherRan id batched otherBatched
  obtain ⟨row, stored, same, claimed⟩ := sound.claimed run ran id batched
  obtain ⟨twin, twinStored, twinSame, twinClaimed⟩ := sound.claimed other otherRan id otherBatched
  have rows : row = twin := Table.eq_of_key talk.comments row twin stored twinStored (same.trans twinSame.symm)
  rw [rows, twinClaimed, Option.some.injEq] at claimed
  exact Table.eq_of_key talk.runs run other ran otherRan claimed.symm

theorem quiescent_none_waiting (talk : Conversation) (quiescent : Quiescent talk) (none : NoneForgotten talk) :
    ∀ row ∈ talk.comments.rows, row.waiting = false := by
  intro row member
  by_contra waits
  rcases none row member (by simpa using waits) with running | ⟨left, queued⟩ | ⟨worker, sees⟩
  · rw [quiescent.finished] at running
    cases running
  · rw [quiescent.pending] at queued
    cases queued
  · rw [quiescent.resting worker] at sees
    exact sees

-- No comment is ever in two batches. None is left waiting, as long as every attempt that gives up and
-- every queued run that is cancelled leaves it to another.
theorem comments_batched (talk : Conversation) :
    (Reachable conversations talk → ClaimedOnce talk) ∧
    (Reachable (conversations.restrict Relieved) talk → Quiescent talk →
      ∀ row ∈ talk.comments.rows, row.waiting = false) := by
  refine ⟨fun reachable => sound_claimedOnce talk (conversations_sound talk reachable), ?_⟩
  intro reachable quiescent
  exact quiescent_none_waiting talk quiescent (relieved_reachable talk reachable).2

def ConversationLabel.worker? : ConversationLabel → Option Nat
  | .deliver worker _ _ _ | .load worker | .stamp worker _ | .reply worker | .look worker | .select worker
  | .lock worker | .start worker _ _ | .finish worker _ _ | .fail worker => some worker
  | .post _ _ | .otherRun _ | .advance _ _ | .cancelQueued _ | .bind _ => none

section Bystanders

variable (talk : Conversation) (other : Nat)

theorem turn_bystander (worker : Nat) (phase : Phase) (apart : other ≠ worker) :
    (talk.turn worker phase).workers other = talk.workers other := by
  rw [turn_workers, if_neg apart]

theorem release_bystander (worker : Nat) (apart : other ≠ worker) :
    (talk.release worker).workers other = talk.workers other := by
  rw [release_workers, if_neg apart]

theorem step_bystander (next : Conversation) (label : ConversationLabel) (apart : label.worker? ≠ some other)
    (taken : conversationStep talk label = .ok next) : next.workers other = talk.workers other := by
  have others (worker : Nat) (own : label.worker? = some worker) : other ≠ worker := by
    intro same
    exact apart (own.trans (congrArg some same.symm))
  cases conversationStep_moves talk next label taken with
  | post comment findingId _ posted =>
      rw [Conversation.post] at posted
      split at posted
      · cases posted
      · split at posted <;> cases posted
        rfl
  | otherRun inputText _ started =>
      rw [Conversation.otherRun] at started
      split at started <;> cases started
      rfl
  | advance runId state _ advanced =>
      obtain ⟨_, _, same⟩ := advance_moves talk runId state next advanced
      rw [same]
      split <;> rfl
  | cancelQueued runId _ cancelled =>
      rw [cancelQueued_moves talk runId next cancelled]
      rfl
  | bind bound => rfl
  | deliver worker message left again => exact turn_bystander _ other worker message.body (others worker rfl)
  | load worker commentId =>
      rcases load_turns talk worker commentId with same | same <;> rw [same] <;>
        exact turn_bystander talk other worker _ (others worker rfl)
  | stamp worker result commentId _ _ stamped =>
      rw [Conversation.stamp] at stamped
      split at stamped
      · cases stamped
      · split at stamped
        · cases stamped
          exact turn_bystander talk other worker _ (others worker rfl)
        · split at stamped <;> cases stamped <;> exact turn_bystander _ other worker _ (others worker rfl)
  | reply worker => exact turn_bystander talk other worker _ (others worker rfl)
  | look worker caller =>
      rcases look_turns talk worker caller with same | same <;> rw [same] <;>
        exact turn_bystander talk other worker _ (others worker rfl)
  | select worker caller => exact turn_bystander talk other worker _ (others worker rfl)
  | lock worker caller snapshot _ _ locked =>
      rw [Conversation.lock] at locked
      split at locked
      · cases locked
      · dsimp only at locked
        split at locked <;> cases locked <;> exact turn_bystander talk other worker _ (others worker rfl)
  | start worker handle succeeds caller held =>
      unfold Conversation.start
      split
      · exact turn_bystander talk other worker _ (others worker rfl)
      · split
        · exact turn_bystander talk other worker _ (others worker rfl)
        · exact release_bystander talk other worker (others worker rfl)
  | finish worker view promoted caller held inputText =>
      unfold Conversation.finish
      split
      · exact release_bystander talk other worker (others worker rfl)
      · split
        · exact release_bystander talk other worker (others worker rfl)
        · rw [release_bystander _ other worker (others worker rfl), Conversation.commitBatch]
          split <;> rfl
  | fail worker => exact release_bystander talk other worker (others worker rfl)

theorem run_bystander (labels : List ConversationLabel) (apart : ∀ label ∈ labels, label.worker? ≠ some other) :
    (conversations.after talk labels).workers other = talk.workers other := by
  induction labels generalizing talk with
  | nil => rfl
  | cons label rest ih =>
      have later := ih (conversations.committed label talk) fun label member => apart label (List.mem_cons_of_mem _ member)
      refine later.trans ?_
      rw [Machine.committed]
      split
      · rename_i next taken
        exact step_bystander talk other next label (apart label List.mem_cons_self) taken
      · rfl

end Bystanders

instance (talk : Conversation) (label : ConversationLabel) : Decidable (conversations.allowed talk label) :=
  isTrue trivial

def newTicket : Conversation :=
  { nextId := 1, comments := .empty, runs := .empty, bound := true, pending := [], workers := fun _ => .idle
    locks := fun _ => none }

theorem newTicket_unspoken : Unspoken newTicket := ⟨rfl, rfl, rfl, fun _ => rfl, fun _ => rfl⟩

def disputed : InboundComment := { externalId := "1893", authorLogin := "octocat", body := "This is not a bug." }

def disputes : ClassifyCommentOutput := { intent := .dispute, confidence := 95 }

def approvable (hasActiveApproval : Option Bool) : ApprovalView :=
  { prId := some 7, autoApproveEnabled := true, branchName := some "fix/null-check", conditionsPass := true
    hasActiveApproval := hasActiveApproval, approvePr := some () }

def ConversationLabel.withdraws : ConversationLabel → Bool
  | .cancelQueued _ => true
  | _ => false

def answeredRun : List ConversationLabel :=
  [.otherRun none, .post disputed (some 9), .deliver 0 (.classifyComment 2) 3 false, .load 0, .stamp 0 disputes,
    .look 0, .finish 0 (approvable (some true)) true, .advance 1 .running, .advance 1 .completed,
    .deliver 0 .afterRunTerminal 1 false,
    .look 0, .select 0, .lock 0, .start 0 (fun _ => "F1") true, .finish 0 (approvable (some false)) true,
    .advance 3 .completed, .deliver 0 .afterRunTerminal 1 false, .look 0, .select 0, .lock 0,
    .finish 0 (approvable (some true)) true]

theorem answered_reachable :
    Reachable (conversations.restrict Relieved) (conversations.after newTicket answeredRun) := by
  refine ⟨newTicket, answeredRun, newTicket_unspoken, commits_restrict _ _ _ _ (by decide +kernel) ?_⟩
  refine meets_mono conversations (fun talk label => givesUp talk label = none ∧ label.withdraws = false) Relieved ?_ _ _
    (by decide +kernel)
  rintro talk label ⟨calm, kept⟩
  refine ⟨fun worker gives => ?_, fun runId withdraws => ?_⟩
  · rw [calm] at gives
    cases gives
  · rw [withdraws] at kept
    cases kept

theorem single_resting (labels : List ConversationLabel)
    (single : ∀ label ∈ labels, label.worker? = none ∨ label.worker? = some 0)
    (rests : (conversations.after newTicket labels).workers 0 = .idle) (worker : Nat) :
    (conversations.after newTicket labels).workers worker = .idle := by
  by_cases first : worker = 0
  · exact first ▸ rests
  · refine run_bystander newTicket worker labels fun label member own => ?_
    rcases single label member with nobody | zero
    · rw [nobody] at own
      cases own
    · rw [zero, Option.some.injEq] at own
      exact first own.symm

theorem answered_quiescent : Quiescent (conversations.after newTicket answeredRun) where
  pending := by decide +kernel
  resting := single_resting answeredRun (by decide +kernel) (by decide +kernel)
  finished := by decide +kernel
  bound := by decide +kernel

theorem answered_batched :
    ∀ row ∈ (conversations.after newTicket answeredRun).comments.rows, row.waiting = false :=
  (comments_batched _).2 answered_reachable answered_quiescent

def droppedRun : List ConversationLabel :=
  [.otherRun none, .post disputed (some 9), .deliver 0 (.classifyComment 2) 3 false, .load 0, .stamp 0 disputes,
    .look 0, .finish 0 (approvable (some true)) true, .advance 1 .running, .advance 1 .completed,
    .deliver 0 .afterRunTerminal 1 true,
    .look 0, .select 0, .lock 0, .start 0 (fun _ => "F1") true, .finish 0 (approvable none) true,
    .deliver 0 .afterRunTerminal 0 true, .look 0, .select 0, .lock 0, .start 0 (fun _ => "F1") true,
    .finish 0 (approvable none) true]

theorem dropped_comment_waits :
    conversations.Commits newTicket droppedRun ∧ Unspoken newTicket ∧
      Quiescent (conversations.after newTicket droppedRun) ∧
      (conversations.after newTicket droppedRun).comments.rows.map PRComment.waiting = [true] :=
  ⟨by decide +kernel, newTicket_unspoken,
    ⟨by decide +kernel, single_resting droppedRun (by decide +kernel) (by decide +kernel), by decide +kernel,
      by decide +kernel⟩, by decide +kernel⟩

end Yaaos.PrReview
