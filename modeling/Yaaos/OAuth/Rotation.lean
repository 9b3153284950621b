import Yaaos.OAuth.Connections

set_option autoImplicit false

namespace Yaaos.OAuth

open Yaaos.Base

def Pass.Counted (pass : Pass) : Prop := pass.found = pass.tried ++ pass.rows.map Prod.snd

def Fits (world : World) (worker : Nat) : Body → Prop
  | .calling _ key token => world.locks key = some worker ∧
      ∃ row, world.connections.find? key = some row ∧ row.status = .connected ∧ row.refreshToken = some token
  | .storing _ key tokens => world.locks key = some worker ∧
      ∃ row, world.connections.find? key = some row ∧ row.status = .connected ∧
        ∀ token, tokens.refreshToken = some token →
          token.grant = row.grant ∧ world.provider.honours key token = true
  | .flipping _ key _ => world.locks key = some worker ∧
      ∃ row, world.connections.find? key = some row ∧
        ∃ call ∈ world.calls, call.key = key ∧ call.rejected = true ∧ row.refreshToken = some call.token
  | .exchanging _ key _ _ => world.sessionLocks key = some worker
  | .granting _ key tokens => world.sessionLocks key = some worker ∧
      tokens.grant < world.provider.nextGrant key ∧ (∀ grant, (key, grant) ∈ world.stored → grant < tokens.grant) ∧
        ∀ token, tokens.refreshToken = some token →
          token.grant = tokens.grant ∧ world.provider.honours key token = true
  | .idle | .scanning _ | .locking _ _ | .polling _ _ _ _ => True

structure Wired (world : World) : Prop where
  fits : ∀ worker, Fits world worker (world.workers worker)
  owned : ∀ key row token, world.connections.find? key = some row → row.refreshToken = some token →
    token.grant = row.grant
  minted : ∀ key grant, (key, grant) ∈ world.stored → grant < world.provider.nextGrant key
  newest : ∀ key row grant, world.connections.find? key = some row → (key, grant) ∈ world.stored → grant ≤ row.grant
  listed : ∀ key row, world.connections.find? key = some row → (key, row.grant) ∈ world.stored
  gone : ∀ key row, world.connections.find? key = some row → (key, row.grant) ∉ world.retired
  past : ∀ entry ∈ world.retired, entry ∈ world.stored
  blamed : ∀ key row, world.connections.find? key = some row → row.status = .needsReauth →
    ∃ call ∈ world.calls, call.key = key ∧ call.rejected = true ∧ row.refreshToken = some call.token
  counted : ∀ worker pass, (world.workers worker).pass? = some pass → pass.Counted
  counts : ∀ pass ∈ world.ended, pass.Counted

section Wiring

variable (world : World)

theorem turn_workers (worker other : Nat) (body : Body) :
    (world.turn worker body).workers other = if other = worker then body else world.workers other := by
  simp [World.turn, Function.update_apply]

theorem leave_workers (worker other : Nat) (body : Body) :
    (world.leave worker body).workers other = if other = worker then body else world.workers other :=
  turn_workers world worker other body

theorem minted_row (wired : Wired world) (key : ConnectionKey) (row : UserOAuthConnection)
    (found : world.connections.find? key = some row) : row.grant < world.provider.nextGrant key :=
  wired.minted key row.grant (wired.listed key row found)

theorem fits_kept (next : World) (worker : Nat) (body : Body) (wired : Wired world) (fits : Fits world worker body)
    (locks : ∀ key, world.locks key = some worker →
      next.locks key = some worker ∧ next.connections.find? key = world.connections.find? key)
    (sessionLocks : ∀ key, world.sessionLocks key = some worker →
      next.sessionLocks key = some worker ∧ ∀ grant, (key, grant) ∈ next.stored → (key, grant) ∈ world.stored)
    (calls : ∀ call ∈ world.calls, call ∈ next.calls)
    (minted : ∀ key, world.provider.nextGrant key ≤ next.provider.nextGrant key)
    (honoured : ∀ key token, world.provider.honours key token = true → token.grant < world.provider.nextGrant key →
      (world.locks key = some worker ∨ ∀ grant, (key, grant) ∈ world.stored → grant < token.grant) →
        next.provider.honours key token = true) : Fits next worker body := by
  cases body with
  | idle => trivial
  | scanning pass => trivial
  | locking purpose key => trivial
  | polling app key session now => trivial
  | calling purpose key token =>
      obtain ⟨own, row, found, rest⟩ := fits
      exact ⟨(locks key own).1, row, (locks key own).2.trans found, rest⟩
  | storing purpose key tokens =>
      obtain ⟨own, row, found, connected, held⟩ := fits
      refine ⟨(locks key own).1, row, (locks key own).2.trans found, connected, fun token fresh => ?_⟩
      obtain ⟨same, honours⟩ := held token fresh
      have below : token.grant < world.provider.nextGrant key := same ▸ minted_row world wired key row found
      exact ⟨same, honoured key token honours below (.inl own)⟩
  | flipping purpose key code =>
      obtain ⟨own, row, found, call, member, rest⟩ := fits
      exact ⟨(locks key own).1, row, (locks key own).2.trans found, call, calls call member, rest⟩
  | exchanging app key session now => exact (sessionLocks key fits).1
  | granting app key tokens =>
      obtain ⟨own, below, above, held⟩ := fits
      refine ⟨(sessionLocks key own).1, Nat.lt_of_lt_of_le below (minted key), ?_, fun token fresh => ?_⟩
      · intro grant member
        exact above grant ((sessionLocks key own).2 grant member)
      · obtain ⟨same, honours⟩ := held token fresh
        refine ⟨same, honoured key token honours (same ▸ below) (.inr fun grant member => ?_)⟩
        rw [same]
        exact above grant member

theorem fits_same (next : World) (worker : Nat) (body : Body) (wired : Wired world) (fits : Fits world worker body)
    (locks : next.locks = world.locks) (connections : next.connections = world.connections)
    (sessionLocks : next.sessionLocks = world.sessionLocks) (stored : next.stored = world.stored)
    (calls : next.calls = world.calls) (provider : next.provider = world.provider) : Fits next worker body := by
  refine fits_kept world next worker body wired fits ?_ ?_ ?_ ?_ ?_
  · intro key own
    exact ⟨locks ▸ own, by rw [connections]⟩
  · intro key own
    exact ⟨sessionLocks ▸ own, fun grant member => stored ▸ member⟩
  · exact fun call member => calls ▸ member
  · exact fun key => by rw [provider]
  · exact fun key token honours _ _ => provider ▸ honours

variable (worker : Nat) (purpose : Purpose) (key : ConnectionKey) (app : UserOAuthApp) (provider : Provider)

theorem wired_turn (body : Body) (wired : Wired world) (fits : Fits world worker body)
    (counted : ∀ pass, body.pass? = some pass → pass.Counted) : Wired (world.turn worker body) := by
  refine { wired with fits := ?_, counted := ?_ }
  · intro other
    rw [turn_workers]
    by_cases same : other = worker
    · rw [if_pos same, same]
      exact fits_same world _ worker body wired fits rfl rfl rfl rfl rfl rfl
    · rw [if_neg same]
      exact fits_same world _ other _ wired (wired.fits other) rfl rfl rfl rfl rfl rfl
  · intro other pass walking
    rw [turn_workers] at walking
    by_cases same : other = worker
    · rw [if_pos same] at walking
      exact counted pass walking
    · rw [if_neg same] at walking
      exact wired.counted other pass walking

theorem wired_leave (body : Body) (wired : Wired world) (free : ∀ other, Fits other worker body)
    (counted : ∀ pass, body.pass? = some pass → pass.Counted) : Wired (world.leave worker body) := by
  refine { wired with fits := ?_, counted := ?_ }
  · intro other
    rw [leave_workers]
    by_cases same : other = worker
    · rw [if_pos same, same]
      exact free _
    · rw [if_neg same]
      refine fits_kept world _ other _ wired (wired.fits other) (fun key own => ⟨?_, rfl⟩)
        (fun key own => ⟨?_, fun _ member => member⟩) (fun _ member => member) (fun _ => Nat.le_refl _)
        fun _ _ honours _ _ => honours
      · simp [World.leave, own, same]
      · simp [World.leave, own, same]
  · intro other pass walking
    rw [leave_workers] at walking
    by_cases same : other = worker
    · rw [if_pos same] at walking
      exact counted pass walking
    · rw [if_neg same] at walking
      exact wired.counted other pass walking

theorem wired_next (wired : Wired world)
    (counted : ∀ pass, purpose.pass? = some pass → pass.Counted) : Wired (world.leave worker purpose.next) := by
  cases purpose with
  | ensure app minRemaining => exact wired_leave world worker .idle wired (fun _ => trivial) (by simp [Body.pass?])
  | sweep app pass => exact wired_leave world worker (.scanning pass) wired (fun _ => trivial) counted

theorem wired_raise (wired : Wired world) : Wired (world.raise worker) := by
  have left := wired_leave world worker .idle wired (fun _ => trivial) (by simp [Body.pass?])
  refine { left with counts := ?_ }
  intro pass member
  rcases List.mem_append.mp member with earlier | ending
  · exact wired.counts pass earlier
  · exact wired.counted worker pass (by simpa using ending)

theorem wired_sessions (sessions : Table DeviceSession ConnectionKey DeviceSession.key) (wired : Wired world) :
    Wired { world with sessions := sessions } :=
  { wired with
    fits := fun worker => fits_same world _ worker _ wired (wired.fits worker) rfl rfl rfl rfl rfl rfl }

theorem wired_end (pass : Pass) (counted : pass.Counted) (wired : Wired world) :
    Wired { world with ended := world.ended ++ [pass] } := by
  refine { wired with fits := fun worker => ?_, counts := ?_ }
  · exact fits_same world _ worker _ wired (wired.fits worker) rfl rfl rfl rfl rfl rfl
  · intro other member
    rcases List.mem_append.mp member with earlier | new
    · exact wired.counts other earlier
    · exact List.mem_singleton.mp new ▸ counted

theorem wired_acquire (free : world.locks key = none) (wired : Wired world) :
    Wired { world with locks := Function.update world.locks key (some worker) } := by
  refine { wired with fits := fun other => ?_ }
  refine fits_kept world _ other _ wired (wired.fits other) (fun held own => ⟨?_, rfl⟩)
    (fun _ own => ⟨own, fun _ member => member⟩) (fun _ member => member) (fun _ => Nat.le_refl _)
    fun _ _ honours _ _ => honours
  have apart : held ≠ key := by
    intro same
    rw [same, free] at own
    cases own
  exact (Function.update_of_ne apart _ _).trans own

theorem wired_acquireSession (free : world.sessionLocks key = none)
    (wired : Wired world) : Wired { world with sessionLocks := Function.update world.sessionLocks key (some worker) } := by
  refine { wired with fits := fun other => ?_ }
  refine fits_kept world _ other _ wired (wired.fits other) (fun _ own => ⟨own, rfl⟩)
    (fun held own => ⟨?_, fun _ member => member⟩) (fun _ member => member) (fun _ => Nat.le_refl _)
    fun _ _ honours _ _ => honours
  have apart : held ≠ key := by
    intro same
    rw [same, free] at own
    cases own
  exact (Function.update_of_ne apart _ _).trans own

theorem wired_record (token : RefreshToken) (rejected : Bool) (wired : Wired world) :
    Wired (world.record key token rejected) := by
  have grows (call : Call) (member : call ∈ world.calls) : call ∈ (world.record key token rejected).calls :=
    List.mem_append_left _ member
  refine { wired with fits := fun worker => ?_, blamed := ?_ }
  · exact fits_kept world _ worker _ wired (wired.fits worker) (fun _ own => ⟨own, rfl⟩)
      (fun _ own => ⟨own, fun _ member => member⟩) grows (fun _ => Nat.le_refl _) fun _ _ honours _ _ => honours
  · intro other row found flagged
    obtain ⟨call, member, rest⟩ := wired.blamed other row found flagged
    exact ⟨call, grows call member, rest⟩

theorem rotate_honours (key other : ConnectionKey) (token held : RefreshToken)
    (apart : other ≠ key ∨ held.grant ≠ token.grant) :
    (provider.rotate key token).honours other held = provider.honours other held := by
  by_cases same : other = key
  · have grants : held.grant ≠ token.grant := apart.resolve_left fun different => different same
    simp [Provider.rotate, Provider.honours, same, grants]
  · simp [Provider.rotate, Provider.honours, same]

theorem rotate_honours_new (key : ConnectionKey) (token : RefreshToken) :
    (provider.rotate key token).honours key { token with generation := token.generation + 1 } = true := by
  simp [Provider.rotate, Provider.honours]

theorem wired_rotate (token : RefreshToken)
    (calling : world.workers worker = .calling purpose key token) (wired : Wired world) :
    Wired { world with provider := world.provider.rotate key token } := by
  have fits := wired.fits worker
  rw [calling] at fits
  obtain ⟨mine, row, found, connected, held⟩ := fits
  have grantOf := wired.owned key row token found held
  refine { wired with fits := fun other => ?_ }
  by_cases same : other = worker
  · rw [same, calling]
    exact ⟨mine, row, found, connected, held⟩
  · refine fits_kept world _ other _ wired (wired.fits other) (fun _ own => ⟨own, rfl⟩)
      (fun _ own => ⟨own, fun _ member => member⟩) (fun _ member => member) (fun _ => Nat.le_refl _) ?_
    intro place kept honours _ apart
    refine (rotate_honours world.provider key place token kept ?_).trans honours
    by_cases here : place = key
    · right
      rcases apart with own | above
      · rw [here, mine, Option.some.injEq] at own
        exact absurd own.symm same
      · have later := above row.grant (here ▸ wired.listed key row found)
        rw [grantOf]
        exact Nat.ne_of_gt later
    · exact .inl here

theorem give_honours (key other : ConnectionKey) (token : RefreshToken)
    (below : token.grant < provider.nextGrant other) :
    (provider.give key).honours other token = provider.honours other token := by
  by_cases same : other = key
  · have older : token.grant ≠ provider.nextGrant key := Nat.ne_of_lt (same ▸ below)
    simp [Provider.give, Provider.honours, same, older]
  · simp [Provider.give, Provider.honours, same]

theorem give_nextGrant (key other : ConnectionKey) :
    provider.nextGrant other ≤ (provider.give key).nextGrant other := by
  by_cases same : other = key <;> simp [Provider.give, same]

theorem wired_give (wired : Wired world) :
    Wired { world with provider := world.provider.give key } := by
  refine { wired with fits := fun worker => ?_, minted := ?_ }
  · exact fits_kept world _ worker _ wired (wired.fits worker) (fun _ own => ⟨own, rfl⟩)
      (fun _ own => ⟨own, fun _ member => member⟩) (fun _ member => member)
      (fun other => give_nextGrant world.provider key other)
      fun other token honours below _ => (give_honours world.provider key other token below).trans honours
  · intro other grant member
    exact Nat.lt_of_lt_of_le (wired.minted other grant member) (give_nextGrant world.provider key other)

theorem wired_change (row : UserOAuthConnection)
    (change : UserOAuthConnection → UserOAuthConnection) (kept : ∀ row, (change row).key = row.key)
    (mine : world.locks key = some worker) (found : world.connections.find? key = some row)
    (grant : (change row).grant = row.grant)
    (owned : ∀ token, (change row).refreshToken = some token → token.grant = row.grant)
    (blamed : (change row).status = .needsReauth →
      ∃ call ∈ world.calls, call.key = key ∧ call.rejected = true ∧ (change row).refreshToken = some call.token)
    (fits : Fits { world with
      connections := world.connections.update (fun row => decide (row.key = key)) change kept } worker (world.workers worker))
    (wired : Wired world) :
    Wired { world with connections := world.connections.update (fun row => decide (row.key = key)) change kept } := by
  have rows (other : ConnectionKey) :
      (world.connections.update (fun row => decide (row.key = key)) change kept).find? other =
        if other = key then some (change row) else world.connections.find? other := by
    rw [Table.find?_change, found]
    rfl
  have source (other : ConnectionKey) (after : UserOAuthConnection)
      (holds : (world.connections.update (fun row => decide (row.key = key)) change kept).find? other = some after) :
      (other = key ∧ after = change row) ∨ (other ≠ key ∧ world.connections.find? other = some after) := by
    rw [rows] at holds
    by_cases same : other = key
    · rw [if_pos same, Option.some.injEq] at holds
      exact .inl ⟨same, holds.symm⟩
    · rw [if_neg same] at holds
      exact .inr ⟨same, holds⟩
  refine { wired with fits := ?_, owned := ?_, newest := ?_, listed := ?_, gone := ?_, blamed := ?_ }
  · intro other
    by_cases same : other = worker
    · exact same ▸ fits
    · refine fits_kept world _ other _ wired (wired.fits other) (fun held own => ⟨own, ?_⟩)
        (fun _ own => ⟨own, fun _ member => member⟩) (fun _ member => member) (fun _ => Nat.le_refl _)
        fun _ _ honours _ _ => honours
      have apart : held ≠ key := by
        intro here
        rw [here, mine, Option.some.injEq] at own
        exact same own.symm
      exact (rows held).trans (if_neg apart)
  · intro other after token holds fresh
    rcases source other after holds with ⟨_, same⟩ | ⟨_, before⟩
    · subst same
      exact (owned token fresh).trans grant.symm
    · exact wired.owned other after token before fresh
  · intro other after given holds member
    rcases source other after holds with ⟨here, same⟩ | ⟨_, before⟩
    · subst same
      rw [grant]
      exact wired.newest key row given found (here ▸ member)
    · exact wired.newest other after given before member
  · intro other after holds
    rcases source other after holds with ⟨here, same⟩ | ⟨_, before⟩
    · subst same
      rw [grant, here]
      exact wired.listed key row found
    · exact wired.listed other after before
  · intro other after holds
    rcases source other after holds with ⟨here, same⟩ | ⟨_, before⟩
    · subst same
      rw [grant, here]
      exact wired.gone key row found
    · exact wired.gone other after before
  · intro other after holds flagged
    rcases source other after holds with ⟨here, same⟩ | ⟨_, before⟩
    · subst same
      rw [here]
      exact blamed flagged
    · exact wired.blamed other after before flagged

theorem wired_storeRotation (tokens : Tokens)
    (expiresAt now : Int) (storing : world.workers worker = .storing purpose key tokens) (wired : Wired world) :
    Wired (world.storeRotation key tokens expiresAt now) := by
  have fits := wired.fits worker
  rw [storing] at fits
  obtain ⟨mine, row, found, connected, held⟩ := fits
  refine wired_change world worker key row (fun row => row.rotate tokens expiresAt now) _ mine found rfl ?_ ?_ ?_ wired
  · intro token fresh
    cases handed : tokens.refreshToken with
    | some rotated =>
        rw [UserOAuthConnection.rotate, handed] at fresh
        exact Option.some.inj fresh ▸ (held rotated handed).1
    | none =>
        rw [UserOAuthConnection.rotate, handed] at fresh
        exact wired.owned key row token found fresh
  · intro flagged
    rw [UserOAuthConnection.rotate, connected] at flagged
    cases flagged
  · rw [storing]
    refine ⟨mine, row.rotate tokens expiresAt now, ?_, connected, held⟩
    rw [Table.find?_change, if_pos rfl, found]
    rfl

theorem wired_storeFlag (code : String)
    (flipping : world.workers worker = .flipping purpose key code) (wired : Wired world) :
    Wired (world.storeFlag key code) := by
  have fits := wired.fits worker
  rw [flipping] at fits
  obtain ⟨mine, row, found, call, member, at_, rejected, held⟩ := fits
  refine wired_change world worker key row (fun row => row.flag code) _ mine found rfl ?_ ?_ ?_ wired
  · exact fun token fresh => wired.owned key row token found fresh
  · exact fun _ => ⟨call, member, at_, rejected, held⟩
  · rw [flipping]
    refine ⟨mine, row.flag code, ?_, call, member, at_, rejected, held⟩
    rw [Table.find?_change, if_pos rfl, found]
    rfl

theorem wired_disconnect (free : world.locks key = none) (wired : Wired world) :
    Wired (world.disconnect key) := by
  unfold World.disconnect
  cases found : world.connections.find? key with
  | none => exact wired
  | some row =>
      have source (other : ConnectionKey) (after : UserOAuthConnection)
          (holds : (world.connections.delete fun row => decide (row.key = key)).find? other = some after) :
          other ≠ key ∧ world.connections.find? other = some after := by
        rw [Table.find?_delete] at holds
        by_cases same : other = key
        · simp [same] at holds
        · rw [if_neg same] at holds
          exact ⟨same, holds⟩
      refine { wired with fits := ?_, owned := ?_, newest := ?_, listed := ?_, gone := ?_, past := ?_, blamed := ?_ }
      · intro worker
        refine fits_kept world _ worker _ wired (wired.fits worker) (fun held own => ⟨own, ?_⟩)
          (fun _ own => ⟨own, fun _ member => member⟩) (fun _ member => member) (fun _ => Nat.le_refl _)
          fun _ _ honours _ _ => honours
        have apart : held ≠ key := by
          intro here
          rw [here, free] at own
          cases own
        exact (Table.find?_delete _ _ _).trans (if_neg apart)
      · intro other after token holds fresh
        exact wired.owned other after token (source other after holds).2 fresh
      · intro other after given holds member
        exact wired.newest other after given (source other after holds).2 member
      · intro other after holds
        exact wired.listed other after (source other after holds).2
      · intro other after holds member
        obtain ⟨apart, before⟩ := source other after holds
        rcases List.mem_append.mp member with earlier | new
        · exact wired.gone other after before earlier
        · exact apart (congrArg Prod.fst (List.mem_singleton.mp new))
      · intro entry member
        rcases List.mem_append.mp member with earlier | new
        · exact wired.past entry earlier
        · exact List.mem_singleton.mp new ▸ wired.listed key row found
      · intro other after holds flagged
        exact wired.blamed other after (source other after holds).2 flagged

theorem wired_storeGrant (tokens : Tokens) (expiresAt now : Int)
    (free : world.locks key = none) (alone : world.sessionLocks key = none)
    (below : tokens.grant < world.provider.nextGrant key)
    (above : ∀ grant, (key, grant) ∈ world.stored → grant < tokens.grant)
    (owned : ∀ token, tokens.refreshToken = some token → token.grant = tokens.grant) (wired : Wired world) :
    Wired (world.storeGrant key tokens expiresAt now) := by
  have log (other : ConnectionKey) (grant : Nat) :
      (other, grant) ∈ (world.storeGrant key tokens expiresAt now).stored ↔
        (other, grant) ∈ world.stored ∨ other = key ∧ grant = tokens.grant := by
    simp [World.storeGrant]
  have source (other : ConnectionKey) (after : UserOAuthConnection)
      (holds : (world.storeGrant key tokens expiresAt now).connections.find? other = some after) :
      (other = key ∧ after.grant = tokens.grant ∧ after.refreshToken = tokens.refreshToken ∧ after.status = .connected) ∨
        (other ≠ key ∧ world.connections.find? other = some after) := by
    rw [World.storeGrant, Table.find?_upsert, granted_key] at holds
    by_cases same : other = key
    · rw [if_pos same, Option.some.injEq] at holds
      subst holds
      cases world.connections.find? key with
      | none => exact .inl ⟨same, rfl, rfl, rfl⟩
      | some row => exact .inl ⟨same, rfl, rfl, rfl⟩
    · rw [if_neg same] at holds
      exact .inr ⟨same, holds⟩
  refine { wired with
    fits := ?_, owned := ?_, minted := ?_, newest := ?_, listed := ?_, gone := ?_, past := ?_, blamed := ?_ }
  · intro worker
    refine fits_kept world _ worker _ wired (wired.fits worker) (fun held own => ⟨own, ?_⟩) (fun held own => ⟨own, ?_⟩)
      (fun _ member => member) (fun _ => Nat.le_refl _) fun _ _ honours _ _ => honours
    · have apart : held ≠ key := by
        intro here
        rw [here, free] at own
        cases own
      exact (Table.find?_upsert _ _ _ _ held).trans (if_neg apart)
    · intro grant member
      rcases (log held grant).mp member with earlier | ⟨here, _⟩
      · exact earlier
      · rw [here, alone] at own
        cases own
  · intro other after token holds fresh
    rcases source other after holds with ⟨_, grant, refresh, _⟩ | ⟨_, before⟩
    · rw [refresh] at fresh
      exact (owned token fresh).trans grant.symm
    · exact wired.owned other after token before fresh
  · intro other grant member
    rcases (log other grant).mp member with earlier | ⟨here, same⟩
    · exact wired.minted other grant earlier
    · rw [here, same]
      exact below
  · intro other after given holds member
    rcases source other after holds with ⟨here, grant, _, _⟩ | ⟨apart, before⟩
    · rw [grant]
      rcases (log other given).mp member with earlier | ⟨_, same⟩
      · exact Nat.le_of_lt (above given (here ▸ earlier))
      · exact Nat.le_of_eq same
    · rcases (log other given).mp member with earlier | ⟨here, _⟩
      · exact wired.newest other after given before earlier
      · exact absurd here apart
  · intro other after holds
    rcases source other after holds with ⟨here, grant, _, _⟩ | ⟨_, before⟩
    · exact (log other after.grant).mpr (.inr ⟨here, grant⟩)
    · exact (log other after.grant).mpr (.inl (wired.listed other after before))
  · intro other after holds member
    rcases source other after holds with ⟨here, grant, _, _⟩ | ⟨_, before⟩
    · have earlier := wired.past _ member
      rw [here, grant] at earlier
      exact Nat.lt_irrefl _ (above tokens.grant earlier)
    · exact wired.gone other after before member
  · intro entry member
    exact (log entry.1 entry.2).mpr (.inl (wired.past entry member))
  · intro other after holds flagged
    rcases source other after holds with ⟨_, _, _, connected⟩ | ⟨_, before⟩
    · rw [connected] at flagged
      cases flagged
    · exact wired.blamed other after before flagged

theorem fits_next : Fits world worker purpose.next := by
  cases purpose <;> trivial

theorem next_pass : purpose.next.pass? = purpose.pass? := by
  cases purpose <;> rfl

theorem wired_turnNext (wired : Wired world)
    (counted : ∀ pass, purpose.pass? = some pass → pass.Counted) : Wired (world.turn worker purpose.next) :=
  wired_turn world worker purpose.next wired (fits_next world worker purpose) fun pass walking =>
    counted pass (next_pass purpose ▸ walking)

theorem wired_poll (key : ConnectionKey) (now : Int) (wired : Wired world) :
    Wired (world.poll worker app key now) := by
  unfold World.poll
  cases world.sessions.find? key with
  | none => exact wired
  | some session =>
      by_cases cooling : session.coolingDown now = true
      · simp only [if_pos cooling]
        exact wired
      · simp only [if_neg cooling]
        exact wired_turn world worker (.polling app key session now) wired trivial (by simp [Body.pass?])

theorem wired_stampPoll (key : ConnectionKey) (session : DeviceSession) (now : Int)
    (free : world.sessionLocks key = none) (wired : Wired world) :
    Wired (world.stampPoll worker app key session now) := by
  unfold World.stampPoll
  cases world.sessions.find? key with
  | none => exact wired_turn world worker .idle wired trivial (by simp [Body.pass?])
  | some _ =>
      have acquired := wired_acquireSession world worker key free wired
      exact wired_turn _ worker (.exchanging app key session now) acquired (Function.update_self ..) (by simp [Body.pass?])

theorem wired_exchange (key : ConnectionKey) (session : DeviceSession) (now : Int)
    (answer : PollAnswer) (exchanging : world.workers worker = .exchanging app key session now) (wired : Wired world) :
    Wired (world.exchange worker app key session now answer) := by
  have left (sessions : Table DeviceSession ConnectionKey DeviceSession.key) :
      Wired ({ world with sessions := sessions }.leave worker .idle) :=
    wired_leave _ worker .idle (wired_sessions world sessions wired) (fun _ => trivial) (by simp [Body.pass?])
  cases answer with
  | slowDown => exact left _
  | pending => exact left _
  | ended => exact left _
  | raised => exact left _
  | granted refreshable expiresIn jwtExp =>
      have own := wired.fits worker
      rw [exchanging] at own
      refine wired_turn _ worker (.granting app key _) (wired_give world key wired) ⟨own, ?_, ?_, ?_⟩ (by simp [Body.pass?])
      · simp [Provider.give]
      · exact fun grant member => wired.minted key grant member
      · intro token fresh
        cases refreshable with
        | false => cases fresh
        | true =>
            cases fresh
            exact ⟨rfl, by simp [Provider.give, Provider.honours]⟩

theorem wired_grant (key : ConnectionKey) (tokens : Tokens) (now : Int)
    (granting : world.workers worker = .granting app key tokens) (free : world.locks key = none) (wired : Wired world) :
    Wired (world.grant worker app key tokens now) := by
  unfold World.grant
  cases computeExpiresAt app tokens now with
  | none => exact wired_raise world worker wired
  | some expiresAt =>
      have fits := wired.fits worker
      rw [granting] at fits
      obtain ⟨own, below, above, held⟩ := fits
      have left := wired_leave world worker .idle wired (fun _ => trivial) (by simp [Body.pass?])
      exact wired_storeGrant (world.leave worker .idle) key tokens expiresAt now (by simp [World.leave, free])
        (by simp [World.leave, own]) below above (fun token fresh => (held token fresh).1) left

theorem wired_ensure (key : ConnectionKey) (minRemaining now : Int)
    (wired : Wired world) : Wired (world.ensure worker app key minRemaining now) := by
  unfold World.ensure
  split
  · exact wired
  · split
    · exact wired
    · split
      · exact wired
      · exact wired_turn world worker (.locking (.ensure app minRemaining) key) wired trivial
          (by simp [Body.pass?, Purpose.pass?])

theorem wired_scan (pass : Pass) (now : Int) (scanning : world.workers worker = .scanning pass)
    (wired : Wired world) : Wired (world.scan worker pass now) := by
  have counted : pass.Counted := wired.counted worker pass (by rw [scanning]; rfl)
  unfold World.scan
  cases rows : pass.rows with
  | cons entry rest =>
      obtain ⟨app, key⟩ := entry
      refine wired_turn world worker _ wired trivial ?_
      intro walked same
      cases same
      rw [Pass.Counted, counted, rows]
      simp
  | nil =>
      cases left : pass.apps with
      | cons app later =>
          refine wired_turn world worker _ wired trivial ?_
          intro walked same
          cases same
          rw [Pass.Counted, counted, rows]
          simp [List.map_map, Function.comp_def]
      | nil =>
          have purged : Wired (world.purgeSessions now) := wired_sessions world _ wired
          exact wired_end _ pass counted (wired_turn _ worker .idle purged trivial (by simp [Body.pass?]))

theorem skips_connected (row : UserOAuthConnection) (now : Int)
    (due : ¬ purpose.skips row now = true) : row.status = .connected := by
  cases purpose with
  | ensure app minRemaining =>
      cases status : row.status with
      | connected => rfl
      | needsReauth => simp [Purpose.skips, status] at due
  | sweep app pass =>
      by_contra other
      simp [Purpose.skips, other] at due

theorem wired_lock (now : Int)
    (locking : world.workers worker = .locking purpose key) (free : world.locks key = none) (wired : Wired world) :
    Wired (world.lock worker purpose key now) := by
  have counted (pass : Pass) (walking : purpose.pass? = some pass) : pass.Counted :=
    wired.counted worker pass (by rw [locking]; exact walking)
  unfold World.lock
  cases found : world.connections.find? key with
  | none => exact wired_turnNext world worker purpose wired counted
  | some row =>
      by_cases skipped : purpose.skips row now = true
      · simp only [if_pos skipped]
        exact wired_turnNext world worker purpose wired counted
      · simp only [if_neg skipped]
        cases held : row.refreshToken with
        | none => exact wired_turnNext world worker purpose wired counted
        | some token =>
            have acquired := wired_acquire world worker key free wired
            refine wired_turn _ worker (.calling purpose key token) acquired ?_ counted
            exact ⟨Function.update_self .., row, found, skips_connected purpose row now skipped, held⟩

theorem wired_answer (token : RefreshToken)
    (answer : RefreshAnswer) (next : World) (calling : world.workers worker = .calling purpose key token)
    (wired : Wired world) (taken : world.answer worker purpose key token answer = .ok next) : Wired next := by
  have counted (pass : Pass) (walking : purpose.pass? = some pass) : pass.Counted :=
    wired.counted worker pass (by rw [calling]; exact walking)
  have fits := wired.fits worker
  rw [calling] at fits
  obtain ⟨mine, row, found, connected, held⟩ := fits
  have recorded (rejected : Bool) := wired_record world key token rejected wired
  unfold World.answer at taken
  cases answer with
  | otherError =>
      cases taken
      exact wired_next _ worker purpose (recorded false) counted
  | oauthError code =>
      by_cases terminal : isTerminalErrorCode code = true
      · simp only [if_pos terminal, Except.ok.injEq] at taken
        subst taken
        refine wired_turn _ worker (.flipping purpose key _) (recorded true) ?_ counted
        exact ⟨mine, row, found, _, List.mem_append_right _ (List.mem_singleton_self _), rfl, rfl, held⟩
      · simp only [if_neg terminal, Except.ok.injEq] at taken
        subst taken
        exact wired_next _ worker purpose (recorded false) counted
  | tokens rotates expiresIn jwtExp =>
      by_cases honoured : world.provider.honours key token = true
      · simp only [if_pos honoured] at taken
        have served : Wired { world.record key token false with
            provider := if rotates then world.provider.rotate key token else world.provider } := by
          cases rotates with
          | false => exact recorded false
          | true => exact wired_rotate (world.record key token false) worker purpose key token calling (recorded false)
        cases expiresIn with
        | none =>
            cases taken
            exact wired_next _ worker purpose served counted
        | some seconds =>
            cases taken
            refine wired_turn _ worker (.storing purpose key _) served ⟨mine, row, found, connected, ?_⟩ counted
            intro fresh handed
            cases rotates with
            | false => cases handed
            | true =>
                cases handed
                exact ⟨wired.owned key row token found held, rotate_honours_new world.provider key token⟩
      · simp [if_neg honoured] at taken

theorem wired_commitRotation (tokens : Tokens) (now : Int)
    (storing : world.workers worker = .storing purpose key tokens) (wired : Wired world) :
    Wired (world.commitRotation worker purpose key tokens now) := by
  unfold World.commitRotation
  cases computeExpiresAt purpose.app tokens now with
  | none => exact wired_raise world worker wired
  | some expiresAt =>
      refine wired_next _ worker purpose (wired_storeRotation world worker purpose key tokens expiresAt now storing wired) ?_
      exact fun pass walking => wired.counted worker pass (by rw [storing]; exact walking)

variable (apps : List UserOAuthApp)

theorem wired_step (next : World) (label : OAuthLabel) (wired : Wired world)
    (taken : oauthStep apps world label = .ok next) : Wired next := by
  cases label with
  | startDeviceAuth started =>
      simp only [oauthStep] at taken
      split at taken <;> cases taken
      exact wired_sessions world _ wired
  | poll worker key now =>
      simp only [oauthStep] at taken
      split at taken
      · split at taken <;> cases taken
        exact wired_poll world worker _ key now wired
      · cases taken
  | stampPoll worker =>
      simp only [oauthStep] at taken
      split at taken
      · split at taken <;> cases taken
        rename_i free
        exact wired_stampPoll world worker _ _ _ _ (not_not.mp free) wired
      · cases taken
  | exchange worker answer =>
      simp only [oauthStep] at taken
      split at taken <;> cases taken
      rename_i exchanging
      exact wired_exchange world worker _ _ _ _ answer exchanging wired
  | grant worker now =>
      simp only [oauthStep] at taken
      split at taken
      · rename_i granting
        split at taken <;> cases taken
        rename_i free
        exact wired_grant world worker _ _ _ now granting (not_not.mp free) wired
      · cases taken
  | disconnect key =>
      simp only [oauthStep] at taken
      split at taken <;> cases taken
      rename_i free
      exact wired_disconnect world key (not_not.mp free) wired
  | ensure worker key minRemaining now =>
      simp only [oauthStep] at taken
      split at taken
      · split at taken <;> cases taken
        exact wired_ensure world worker _ key minRemaining now wired
      · cases taken
  | sweep worker now =>
      simp only [oauthStep] at taken
      split at taken <;> cases taken
      refine wired_turn world worker _ wired trivial ?_
      intro pass same
      cases same
      rfl
  | scan worker now =>
      simp only [oauthStep] at taken
      split at taken <;> cases taken
      rename_i scanning
      exact wired_scan world worker _ now scanning wired
  | lock worker now =>
      simp only [oauthStep] at taken
      split at taken
      · rename_i locking
        split at taken <;> cases taken
        rename_i free
        exact wired_lock world worker _ _ now locking (not_not.mp free) wired
      · cases taken
  | answer worker answer =>
      simp only [oauthStep] at taken
      split at taken
      · rename_i calling
        exact wired_answer world worker _ _ _ answer next calling wired taken
      · cases taken
  | commit worker now =>
      simp only [oauthStep] at taken
      split at taken
      · rename_i storing
        cases taken
        exact wired_commitRotation world worker _ _ _ now storing wired
      · rename_i purpose key code flipping
        cases taken
        refine wired_next _ worker purpose (wired_storeFlag world worker purpose key code flipping wired) ?_
        exact fun pass walking => wired.counted worker pass (by rw [flipping]; exact walking)
      · cases taken
  | raise worker =>
      cases taken
      exact wired_raise world worker wired

theorem unconnected_wired (unconnected : Unconnected world) : Wired world := by
  have absent (key : ConnectionKey) : world.connections.find? key = none := by
    simp [Table.find?, unconnected.connections]
  refine ⟨?_, ?_, ?_, ?_, ?_, ?_, ?_, ?_, ?_, ?_⟩
  · intro worker
    rw [unconnected.resting worker]
    trivial
  · intro key row token found
    rw [absent] at found
    cases found
  · simp [unconnected.stored]
  · simp [unconnected.stored]
  · intro key row found
    rw [absent] at found
    cases found
  · simp [unconnected.retired]
  · simp [unconnected.retired]
  · intro key row found
    rw [absent] at found
    cases found
  · simp [unconnected.resting, Body.pass?]
  · simp [unconnected.ended]

theorem reachable_wired (reachable : Reachable (oauth apps) world) : Wired world :=
  reachable_invariant (oauth apps) Wired
    ⟨unconnected_wired, fun state label next wired _ taken => wired_step state apps next label wired taken⟩ world reachable

end Wiring

end Yaaos.OAuth
