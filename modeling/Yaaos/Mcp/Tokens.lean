import Yaaos.Base.Machine
import Yaaos.Mcp.Dispatch

set_option autoImplicit false

namespace Yaaos.Mcp

open Yaaos.Base

def sweepExpired (now : Int) (tokens : McpReviewTokens) : McpReviewTokens :=
  tokens.delete fun row => decide (row.expiresAt < now)

inductive ProxyStep where
  | mint (now : Int) (tokenHash : String) (reviewId orgId : Uuid)
  | revoke (reviewId : Uuid)
  | sweep (now : Int)
  | dispatch (env : Env) (request : DispatchRequest)

def ProxyDb.step (db : ProxyDb) : ProxyStep → Except Unit ProxyDb
  | .mint now tokenHash reviewId orgId =>
      match mintToken now db.tokens tokenHash reviewId orgId with
      | none => .error ()
      | some tokens => .ok { db with tokens := tokens }
  | .revoke reviewId => .ok { db with tokens := revokeToken db.tokens reviewId }
  | .sweep now => .ok { db with tokens := sweepExpired now db.tokens }
  | .dispatch env request => .ok (Mcp.dispatch env db request).db

-- Reviews that come and go, the hourly sweep and the calls of their agents. The
-- clocks of the processes need not agree.
def proxy : Machine ProxyDb ProxyStep Unit where
  initial db := db.tokens.rows = []
  allowed _ _ := True
  step := ProxyDb.step

def ProxyStep.spares (row : McpReviewToken) : ProxyStep → Prop
  | .revoke reviewId => reviewId ≠ row.reviewId
  | .sweep now => ¬ row.expiresAt < now
  | _ => True

def ProxyStep.mints (row : McpReviewToken) (step : ProxyStep) : Prop :=
  ∃ now, step = .mint now row.tokenHash row.reviewId row.orgId ∧ row.expiresAt = now + reviewTokenTtl

def Live (row : McpReviewToken) : List ProxyStep → Prop
  | [] => False
  | step :: rest => step.mints row ∧ (∀ other ∈ rest, other.spares row) ∨ Live row rest

theorem dispatch_sends (env : Env) (db : ProxyDb) (request : DispatchRequest) :
    (dispatch env db request).db.tokens = db.tokens ∧ ∀ forward ∈ (dispatch env db request).forwarded,
      ∃ call, authorize env db request = .ok call ∧ forward = call.forward := by
  unfold dispatch
  cases authorized : authorize env db request with
  | error refusal =>
      dsimp only
      refine ⟨?_, fun forward sent => by cases sent⟩
      split <;> rfl
  | ok call =>
      have one : ∀ forward ∈ [call.forward], ∃ admitted, Except.ok (ε := Refusal) call = .ok admitted ∧ forward = admitted.forward :=
        fun forward sent => ⟨call, rfl, List.mem_singleton.mp sent⟩
      dsimp only
      split
      · exact ⟨rfl, fun forward sent => by cases sent⟩
      · cases env.upstream call.forward with
        | transportError delivered =>
            cases delivered with
            | false => exact ⟨rfl, fun forward sent => by cases sent⟩
            | true => exact ⟨rfl, one⟩
        | response status json text =>
            dsimp only
            split
            · exact ⟨rfl, one⟩
            · cases resultPayload json text with
              | none => exact ⟨rfl, one⟩
              | some payload =>
                  dsimp only
                  cases auditRow env request call payload <;> exact ⟨rfl, one⟩

theorem step_tokens (db next : ProxyDb) (step : ProxyStep) (taken : db.step step = .ok next) (row : McpReviewToken) :
    row ∈ next.tokens.rows ↔ step.mints row ∨ row ∈ db.tokens.rows ∧ step.spares row := by
  cases step with
  | mint now tokenHash reviewId orgId =>
      cases minted : mintToken now db.tokens tokenHash reviewId orgId with
      | none =>
          simp only [ProxyDb.step, minted] at taken
          cases taken
      | some tokens =>
          simp only [ProxyDb.step, minted] at taken
          cases taken
          rw [(Table.insert?_some _ _ _ minted).1, List.mem_append, List.mem_singleton, or_comm]
          refine or_congr ⟨?_, ?_⟩ ⟨fun member => ⟨member, trivial⟩, And.left⟩
          · rintro rfl
            exact ⟨now, rfl, rfl⟩
          · rintro ⟨_, same, expires⟩
            cases same
            cases row
            cases expires
            rfl
  | revoke reviewId =>
      cases taken
      have none_ : ¬ (ProxyStep.revoke reviewId).mints row := by
        rintro ⟨_, same, _⟩
        cases same
      simp only [none_, false_or, revokeToken, Table.delete, List.mem_filter, ProxyStep.spares]
      refine and_congr_right fun _ => ?_
      rw [Bool.not_eq_true', decide_eq_false_iff_not]
      exact not_congr eq_comm
  | sweep now =>
      cases taken
      have none_ : ¬ (ProxyStep.sweep now).mints row := by
        rintro ⟨_, same, _⟩
        cases same
      simp only [none_, false_or, sweepExpired, Table.delete, List.mem_filter, ProxyStep.spares]
      exact and_congr_right fun _ => by rw [Bool.not_eq_true', decide_eq_false_iff_not]
  | dispatch env request =>
      cases taken
      have none_ : ¬ (ProxyStep.dispatch env request).mints row := by
        rintro ⟨_, same, _⟩
        cases same
      rw [(dispatch_sends env db request).1]
      simp only [none_, false_or, ProxyStep.spares, and_true]

theorem path_tokens (first last : ProxyDb) (steps : List ProxyStep) (path : Path proxy first steps last)
    (row : McpReviewToken) :
    row ∈ last.tokens.rows ↔ Live row steps ∨ row ∈ first.tokens.rows ∧ ∀ step ∈ steps, step.spares row := by
  induction path with
  | nil db => simp [Live]
  | cons first middle last step rest _ taken _ ih =>
      rw [ih, step_tokens first middle step taken row, Live, List.forall_mem_cons]
      tauto

theorem tokens_live_iff (db : ProxyDb) (steps : List ProxyStep) (last : ProxyDb) (fresh : proxy.initial db)
    (path : Path proxy db steps last) (row : McpReviewToken) : row ∈ last.tokens.rows ↔ Live row steps := by
  rw [path_tokens db last steps path row, show db.tokens.rows = [] from fresh]
  simp

theorem live_split (row : McpReviewToken) (steps : List ProxyStep) (live : Live row steps) :
    ∃ before step after, steps = before ++ step :: after ∧ step.mints row ∧ ∀ other ∈ after, other.spares row := by
  induction steps with
  | nil => cases live
  | cons step rest ih =>
      rcases live with ⟨mints, spared⟩ | later
      · exact ⟨[], step, rest, rfl, mints, spared⟩
      · obtain ⟨before, minting, after, split, mints, spared⟩ := ih later
        exact ⟨step :: before, minting, after, by rw [split]; rfl, mints, spared⟩

-- What goes to a provider goes under a bearer that was minted for the review in the
-- path, at most its lifetime ago, and that no revocation of the review came after;
-- it carries the credential of the org the bearer was minted for.
theorem forwarded_minted (db : ProxyDb) (steps : List ProxyStep) (last : ProxyDb) (fresh : proxy.initial db)
    (path : Path proxy db steps last) (env : Env) (request : DispatchRequest) (forward : Forward)
    (sent : forward ∈ (dispatch env last request).forwarded) :
    ∃ rawToken now orgId before after, request.authorization = "Bearer ".toList ++ rawToken ∧
      steps = before ++ .mint now (env.hashToken rawToken) request.reviewId orgId :: after ∧
      env.now ≤ now + reviewTokenTtl ∧ .revoke request.reviewId ∉ after ∧
      ∃ credential ∈ last.credentials.rows, credential.key = (orgId, request.server) ∧
        env.decrypt credential.encryptedAccessToken = some forward.upstreamToken := by
  obtain ⟨call, authorized, rfl⟩ := (dispatch_sends env last request).2 forward sent
  have admitted := (authorize_ok env last request call).mp authorized
  obtain ⟨member, hash⟩ := Table.find?_some _ _ _ admitted.live.1
  have live := (path_tokens db last steps path call.token).mp member
  rw [show db.tokens.rows = [] from fresh] at live
  obtain ⟨before, step, after, split, ⟨now, rfl, expires⟩, spared⟩ :=
    live_split call.token steps (live.resolve_right fun old => by cases old.1)
  obtain ⟨held, key⟩ := Table.find?_some _ _ _ admitted.held
  refine ⟨call.rawToken, now, call.token.orgId, before, after, admitted.bearer, ?_, ?_, ?_, call.credential, held, key,
    admitted.decrypted⟩
  · rw [split, hash, admitted.bound]
  · have valid := admitted.live.2
    omega
  · intro revoked
    exact spared _ revoked admitted.bound.symm

def sampleMint : ProxyDb := { sampleDb with tokens := .empty }

theorem sampleMint_path : Path proxy sampleMint [.mint 0 "t" 1 2] (proxy.after sampleMint [.mint 0 "t" 1 2]) :=
  commits_path proxy sampleMint [.mint 0 "t" 1 2] ⟨trivial, rfl, trivial⟩

def sampleHistory : List ProxyStep := [.mint 0 "t" 1 2, .mint 5 "u" 3 2, .revoke 3, .mint 10 "v" 4 2, .sweep 7200000005]

def sampleToken : McpReviewToken := { tokenHash := "v", reviewId := 4, orgId := 2, expiresAt := 7200000010 }

theorem tokens_live_swept : sampleToken ∈ (proxy.after sampleMint sampleHistory).tokens.rows ↔ Live sampleToken sampleHistory :=
  tokens_live_iff sampleMint _ _ rfl (commits_path proxy sampleMint sampleHistory
    ⟨trivial, rfl, trivial, rfl, trivial, rfl, trivial, rfl, trivial, rfl, trivial⟩) _

theorem forwarded_minted_once : ∃ forward : Forward, ∃ rawToken now orgId before after,
    sampleRequest.authorization = "Bearer ".toList ++ rawToken ∧
      [ProxyStep.mint 0 "t" 1 2] = before ++ .mint now (String.ofList rawToken) 1 orgId :: after ∧
      0 ≤ now + reviewTokenTtl ∧ .revoke 1 ∉ after ∧
      ∃ credential ∈ sampleDb.credentials.rows, credential.key = (orgId, "linear") ∧
        some credential.encryptedAccessToken = some forward.upstreamToken := by
  have one : 0 < (dispatch (sampleEnv (.transportError true)) (proxy.after sampleMint [.mint 0 "t" 1 2])
      sampleRequest).forwarded.length := by decide +kernel
  obtain ⟨forward, sent⟩ := List.exists_mem_of_length_pos one
  exact ⟨forward, forwarded_minted sampleMint _ _ rfl sampleMint_path _ sampleRequest forward sent⟩

end Yaaos.Mcp
