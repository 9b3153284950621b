import Yaaos.OAuth.Rotation

set_option autoImplicit false

namespace Yaaos.OAuth

open Yaaos.Base

def Body.lags : Body → ConnectionKey → Prop
  | .storing _ key tokens, other => key = other ∧ tokens.refreshToken.isSome = true
  | _, _ => False

def Current (world : World) : Prop :=
  ∀ key row token, world.connections.find? key = some row → row.refreshToken = some token →
    world.provider.honours key token = true ∨ ∃ worker, (world.workers worker).lags key

def Pass.Complete (pass : Pass) : Prop := pass.apps = [] ∧ pass.rows = []

-- No rotated token is lost or presented again, and no pass is cut short.
structure Sparing (world : World) : Prop where
  current : Current world
  honoured : ∀ call ∈ world.calls, call.honoured = true
  complete : ∀ pass ∈ world.ended, pass.Complete

def raises (world : World) : OAuthLabel → Option Nat
  | .raise worker => some worker
  | .commit worker now => match world.workers worker with
      | .storing purpose _ tokens => if (computeExpiresAt purpose.app tokens now).isNone then some worker else none
      | _ => none
  | _ => none

def OAuthLabel.readable : OAuthLabel → Bool
  | .answer _ (.tokens true none _) => false
  | _ => true

-- Nothing fails between an answer that rotates and its commit, and a pass of the
-- sweeper does not fail while it has rows left.
structure Careful (world : World) (label : OAuthLabel) : Prop where
  stores : ∀ worker, raises world label = some worker → ∀ key, ¬ (world.workers worker).lags key
  sweeps : ∀ worker, raises world label = some worker → ∀ pass, (world.workers worker).pass? = some pass → pass.Complete
  reads : label.readable = true

section Sparing

variable (world : World)

variable (worker : Nat) (purpose : Purpose) (key : ConnectionKey)

theorem lags_turn (body : Body) (calm : ∀ key, ¬ (world.workers worker).lags key) (key : ConnectionKey)
    (lagging : ∃ other, (world.workers other).lags key) : ∃ other, ((world.turn worker body).workers other).lags key := by
  obtain ⟨other, lags⟩ := lagging
  have apart : other ≠ worker := fun same => calm key (same ▸ lags)
  exact ⟨other, by rwa [turn_workers, if_neg apart]⟩

theorem current_turn (body : Body) (calm : ∀ key, ¬ (world.workers worker).lags key)
    (current : Current world) : Current (world.turn worker body) := by
  intro key row token found held
  rcases current key row token found held with honours | lagging
  · exact .inl honours
  · exact .inr (lags_turn world worker body calm key lagging)

theorem sparing_turn (body : Body) (calm : ∀ key, ¬ (world.workers worker).lags key)
    (sparing : Sparing world) : Sparing (world.turn worker body) :=
  ⟨current_turn world worker body calm sparing.current, sparing.honoured, sparing.complete⟩

theorem sparing_leave (body : Body) (calm : ∀ key, ¬ (world.workers worker).lags key)
    (sparing : Sparing world) : Sparing (world.leave worker body) :=
  ⟨current_turn world worker body calm sparing.current, sparing.honoured, sparing.complete⟩

theorem sparing_raise (calm : ∀ key, ¬ (world.workers worker).lags key)
    (complete : ∀ pass, (world.workers worker).pass? = some pass → pass.Complete) (sparing : Sparing world) :
    Sparing (world.raise worker) := by
  refine ⟨current_turn world worker .idle calm sparing.current, sparing.honoured, fun pass member => ?_⟩
  rcases List.mem_append.mp member with earlier | ending
  · exact sparing.complete pass earlier
  · exact complete pass (by simpa using ending)

theorem sparing_give (wired : Wired world) (sparing : Sparing world) :
    Sparing { world with provider := world.provider.give key } := by
  refine ⟨?_, sparing.honoured, sparing.complete⟩
  intro other row token found held
  rcases sparing.current other row token found held with honours | lagging
  · have below : token.grant < world.provider.nextGrant other :=
      wired.owned other row token found held ▸ minted_row world wired other row found
    exact .inl ((give_honours world.provider key other token below).trans honours)
  · exact .inr lagging

theorem sparing_exchange (app : UserOAuthApp) (key : ConnectionKey) (session : DeviceSession) (now : Int)
    (answer : PollAnswer) (exchanging : world.workers worker = .exchanging app key session now) (wired : Wired world)
    (sparing : Sparing world) : Sparing (world.exchange worker app key session now answer) := by
  have calm (other : ConnectionKey) : ¬ (world.workers worker).lags other := by
    rw [exchanging]
    exact fun lags => lags
  have left (sessions : Table DeviceSession ConnectionKey DeviceSession.key) :
      Sparing ({ world with sessions := sessions }.leave worker .idle) :=
    ⟨current_turn world worker .idle calm sparing.current, sparing.honoured, sparing.complete⟩
  cases answer with
  | slowDown => exact left _
  | pending => exact left _
  | ended => exact left _
  | raised => exact left _
  | granted refreshable expiresIn jwtExp =>
      have turned (body : Body) : Sparing ({ world with provider := world.provider.give key }.turn worker body) :=
        sparing_turn _ worker body calm (sparing_give world key wired sparing)
      exact turned _

theorem sparing_grant (app : UserOAuthApp) (key : ConnectionKey) (tokens : Tokens) (now : Int)
    (granting : world.workers worker = .granting app key tokens) (wired : Wired world) (sparing : Sparing world) :
    Sparing (world.grant worker app key tokens now) := by
  have calm (other : ConnectionKey) : ¬ (world.workers worker).lags other := by
    rw [granting]
    exact fun lags => lags
  unfold World.grant
  cases computeExpiresAt app tokens now with
  | none => exact sparing_raise world worker calm (by simp [granting, Body.pass?]) sparing
  | some expiresAt =>
      have fits := wired.fits worker
      rw [granting] at fits
      obtain ⟨_, _, _, held⟩ := fits
      refine ⟨?_, sparing.honoured, sparing.complete⟩
      refine current_turn (world.storeGrant key tokens expiresAt now) worker .idle calm ?_
      intro other row token found fresh
      rw [World.storeGrant, Table.find?_upsert, granted_key] at found
      by_cases same : other = key
      · rw [if_pos same, Option.some.injEq] at found
        have refresh : row.refreshToken = tokens.refreshToken := by
          subst found
          cases world.connections.find? key with
          | none => rfl
          | some before => rfl
        rw [refresh] at fresh
        exact .inl (same ▸ (held token fresh).2)
      · rw [if_neg same] at found
        exact sparing.current other row token found fresh

theorem sparing_disconnect (sparing : Sparing world) : Sparing (world.disconnect key) := by
  unfold World.disconnect
  cases world.connections.find? key with
  | none => exact sparing
  | some row =>
      refine ⟨?_, sparing.honoured, sparing.complete⟩
      intro other after token found held
      rw [Table.find?_delete] at found
      by_cases same : other = key
      · simp [same] at found
      · rw [if_neg same] at found
        exact sparing.current other after token found held

theorem sparing_scan (pass : Pass) (now : Int) (scanning : world.workers worker = .scanning pass)
    (sparing : Sparing world) : Sparing (world.scan worker pass now) := by
  have calm (other : ConnectionKey) : ¬ (world.workers worker).lags other := by
    rw [scanning]
    exact fun lags => lags
  unfold World.scan
  cases rows : pass.rows with
  | cons entry rest => exact sparing_turn world worker _ calm sparing
  | nil =>
      cases left : pass.apps with
      | cons app later => exact sparing_turn world worker _ calm sparing
      | nil =>
          refine ⟨current_turn world worker .idle calm sparing.current, sparing.honoured, fun other member => ?_⟩
          rcases List.mem_append.mp member with earlier | new
          · exact sparing.complete other earlier
          · exact List.mem_singleton.mp new ▸ ⟨left, rows⟩

theorem sparing_lock (now : Int)
    (locking : world.workers worker = .locking purpose key) (sparing : Sparing world) :
    Sparing (world.lock worker purpose key now) := by
  have calm (other : ConnectionKey) : ¬ (world.workers worker).lags other := by
    rw [locking]
    exact fun lags => lags
  have turned (body : Body) : Sparing (world.turn worker body) := sparing_turn world worker body calm sparing
  unfold World.lock
  cases world.connections.find? key with
  | none => exact turned purpose.next
  | some row =>
      by_cases skipped : purpose.skips row now = true
      · simp only [if_pos skipped]
        exact turned purpose.next
      · simp only [if_neg skipped]
        cases row.refreshToken with
        | none => exact turned purpose.next
        | some token =>
            have calling := turned (.calling purpose key token)
            exact ⟨calling.current, calling.honoured, calling.complete⟩

theorem lags_locked (wired : Wired world) (worker : Nat) (key : ConnectionKey)
    (lags : (world.workers worker).lags key) : world.locks key = some worker := by
  have fits := wired.fits worker
  cases body : world.workers worker with
  | storing purpose place tokens =>
      rw [body] at lags fits
      exact lags.1 ▸ fits.1
  | idle => rw [body] at lags; exact lags.elim
  | scanning pass => rw [body] at lags; exact lags.elim
  | locking purpose place => rw [body] at lags; exact lags.elim
  | calling purpose place token => rw [body] at lags; exact lags.elim
  | flipping purpose place code => rw [body] at lags; exact lags.elim
  | polling app place session now => rw [body] at lags; exact lags.elim
  | exchanging app place session now => rw [body] at lags; exact lags.elim
  | granting app place tokens => rw [body] at lags; exact lags.elim

theorem current_locked (row : UserOAuthConnection) (token : RefreshToken)
    (mine : world.locks key = some worker) (calm : ¬ (world.workers worker).lags key)
    (found : world.connections.find? key = some row) (held : row.refreshToken = some token) (wired : Wired world)
    (sparing : Sparing world) : world.provider.honours key token = true := by
  rcases sparing.current key row token found held with honours | ⟨other, lags⟩
  · exact honours
  · have theirs := lags_locked world wired other key lags
    rw [mine, Option.some.injEq] at theirs
    exact absurd (theirs ▸ lags) calm

theorem sparing_record (token : RefreshToken) (rejected : Bool)
    (honours : world.provider.honours key token = true) (sparing : Sparing world) :
    Sparing (world.record key token rejected) := by
  refine ⟨sparing.current, fun call member => ?_, sparing.complete⟩
  rcases List.mem_append.mp member with earlier | new
  · exact sparing.honoured call earlier
  · exact List.mem_singleton.mp new ▸ honours

theorem sparing_rotated (token : RefreshToken) (tokens : Tokens)
    (calm : ∀ key, ¬ (world.workers worker).lags key) (rotated : tokens.refreshToken.isSome = true)
    (sparing : Sparing world) :
    Sparing ({ world with provider := world.provider.rotate key token }.turn worker (.storing purpose key tokens)) := by
  refine ⟨?_, sparing.honoured, sparing.complete⟩
  intro other row held found fresh
  by_cases same : other = key
  · refine .inr ⟨worker, ?_⟩
    rw [turn_workers, if_pos rfl]
    exact ⟨same.symm, rotated⟩
  · rcases sparing.current other row held found fresh with honours | lagging
    · exact .inl ((rotate_honours world.provider key other token held (.inl same)).trans honours)
    · exact .inr (lags_turn world worker _ calm other lagging)

theorem sparing_answer (token : RefreshToken)
    (answer : RefreshAnswer) (next : World) (calling : world.workers worker = .calling purpose key token)
    (reads : ∀ jwtExp, answer ≠ .tokens true none jwtExp) (wired : Wired world) (sparing : Sparing world)
    (taken : world.answer worker purpose key token answer = .ok next) : Sparing next := by
  have calm (other : ConnectionKey) : ¬ (world.workers worker).lags other := by
    rw [calling]
    exact fun lags => lags
  have fits := wired.fits worker
  rw [calling] at fits
  obtain ⟨mine, row, found, _, held⟩ := fits
  have honours := current_locked world worker key row token mine (calm key) found held wired sparing
  have recorded (rejected : Bool) := sparing_record world key token rejected honours sparing
  unfold World.answer at taken
  cases answer with
  | otherError =>
      cases taken
      exact sparing_leave _ worker purpose.next calm (recorded false)
  | oauthError code =>
      by_cases terminal : isTerminalErrorCode code = true
      · simp only [if_pos terminal, Except.ok.injEq] at taken
        subst taken
        exact sparing_turn _ worker (.flipping purpose key _) calm (recorded true)
      · simp only [if_neg terminal, Except.ok.injEq] at taken
        subst taken
        exact sparing_leave _ worker purpose.next calm (recorded false)
  | tokens rotates expiresIn jwtExp =>
      simp only [if_pos honours] at taken
      cases rotates with
      | false =>
          cases expiresIn with
          | none =>
              cases taken
              exact sparing_leave _ worker purpose.next calm (recorded false)
          | some seconds =>
              cases taken
              exact sparing_turn _ worker (.storing purpose key _) calm (recorded false)
      | true =>
          cases expiresIn with
          | none => exact absurd rfl (reads jwtExp)
          | some seconds =>
              cases taken
              exact sparing_rotated (world.record key token false) worker purpose key token _ calm rfl (recorded false)

theorem sparing_stored (tokens : Tokens) (expiresAt now : Int)
    (body : Body) (storing : world.workers worker = .storing purpose key tokens) (wired : Wired world)
    (sparing : Sparing world) : Sparing ((world.storeRotation key tokens expiresAt now).leave worker body) := by
  have fits := wired.fits worker
  rw [storing] at fits
  obtain ⟨mine, row, found, _, held⟩ := fits
  refine ⟨?_, sparing.honoured, sparing.complete⟩
  intro other after token holds fresh
  change (world.storeRotation key tokens expiresAt now).connections.find? other = some after at holds
  rw [World.storeRotation, Table.find?_change, found] at holds
  by_cases same : other = key
  · subst same
    rw [if_pos rfl, Option.map_some, Option.some.injEq] at holds
    subst holds
    left
    cases handed : tokens.refreshToken with
    | some rotated =>
        rw [UserOAuthConnection.rotate, handed] at fresh
        exact Option.some.inj fresh ▸ (held rotated handed).2
    | none =>
        rw [UserOAuthConnection.rotate, handed] at fresh
        refine current_locked world worker other row token mine ?_ found fresh wired sparing
        rw [storing]
        simp [Body.lags, handed]
  · rw [if_neg same] at holds
    rcases sparing.current other after token holds fresh with honours | ⟨lagging, lags⟩
    · exact .inl honours
    · have apart : lagging ≠ worker := by
        intro own
        rw [own, storing] at lags
        exact same lags.1.symm
      refine .inr ⟨lagging, ?_⟩
      rw [leave_workers, if_neg apart]
      exact lags

theorem sparing_flagged (code : String) (body : Body)
    (flipping : world.workers worker = .flipping purpose key code) (sparing : Sparing world) :
    Sparing ((world.storeFlag key code).leave worker body) := by
  refine ⟨?_, sparing.honoured, sparing.complete⟩
  refine current_turn (world.storeFlag key code) worker body ?_ ?_
  · intro other lags
    change (world.workers worker).lags other at lags
    rw [flipping] at lags
    exact lags
  · intro other after token holds fresh
    rw [World.storeFlag, Table.find?_change] at holds
    by_cases same : other = key
    · rw [if_pos same] at holds
      obtain ⟨row, found, changed⟩ := Option.map_eq_some_iff.mp holds
      subst changed
      exact sparing.current other row token (same ▸ found) fresh
    · rw [if_neg same] at holds
      exact sparing.current other after token holds fresh

variable (apps : List UserOAuthApp)

theorem sparing_step (next : World) (label : OAuthLabel) (careful : Careful world label) (wired : Wired world)
    (sparing : Sparing world) (taken : oauthStep apps world label = .ok next) : Sparing next := by
  cases label with
  | startDeviceAuth started =>
      simp only [oauthStep] at taken
      split at taken <;> cases taken
      exact ⟨sparing.current, sparing.honoured, sparing.complete⟩
  | poll worker key now =>
      simp only [oauthStep] at taken
      split at taken
      · rename_i idle
        split at taken <;> cases taken
        unfold World.poll
        split
        · exact sparing
        · split
          · exact sparing
          · exact sparing_turn world worker _ (by simp [idle, Body.lags]) sparing
      · cases taken
  | stampPoll worker =>
      simp only [oauthStep] at taken
      split at taken
      · rename_i app key session now polling
        split at taken <;> cases taken
        unfold World.stampPoll
        split
        · exact sparing_turn world worker .idle (by simp [polling, Body.lags]) sparing
        · have turned := sparing_turn world worker (.exchanging app key session now) (by simp [polling, Body.lags]) sparing
          exact ⟨turned.current, turned.honoured, turned.complete⟩
      · cases taken
  | exchange worker answer =>
      simp only [oauthStep] at taken
      split at taken <;> cases taken
      rename_i exchanging
      exact sparing_exchange world worker _ _ _ _ answer exchanging wired sparing
  | grant worker now =>
      simp only [oauthStep] at taken
      split at taken
      · rename_i granting
        split at taken <;> cases taken
        exact sparing_grant world worker _ _ _ now granting wired sparing
      · cases taken
  | disconnect key =>
      simp only [oauthStep] at taken
      split at taken <;> cases taken
      exact sparing_disconnect world key sparing
  | ensure worker key minRemaining now =>
      simp only [oauthStep] at taken
      split at taken
      · rename_i idle
        split at taken <;> cases taken
        unfold World.ensure
        split
        · exact sparing
        · split
          · exact sparing
          · split
            · exact sparing
            · exact sparing_turn world worker _ (by simp [idle, Body.lags]) sparing
      · cases taken
  | sweep worker now =>
      simp only [oauthStep] at taken
      split at taken <;> cases taken
      rename_i idle
      exact sparing_turn world worker _ (by simp [idle, Body.lags]) sparing
  | scan worker now =>
      simp only [oauthStep] at taken
      split at taken <;> cases taken
      rename_i scanning
      exact sparing_scan world worker _ now scanning sparing
  | lock worker now =>
      simp only [oauthStep] at taken
      split at taken
      · rename_i locking
        split at taken <;> cases taken
        exact sparing_lock world worker _ _ now locking sparing
      · cases taken
  | answer worker answer =>
      simp only [oauthStep] at taken
      split at taken
      · rename_i calling
        refine sparing_answer world worker _ _ _ answer next calling (fun jwtExp same => ?_) wired sparing taken
        simpa [same, OAuthLabel.readable] using careful.reads
      · cases taken
  | commit worker now =>
      simp only [oauthStep] at taken
      split at taken
      · rename_i purpose key tokens storing
        cases taken
        unfold World.commitRotation
        cases expiry : computeExpiresAt purpose.app tokens now with
        | none =>
            have raised : raises world (.commit worker now) = some worker := by simp [raises, storing, expiry]
            exact sparing_raise world worker (careful.stores worker raised) (careful.sweeps worker raised) sparing
        | some expiresAt => exact sparing_stored world worker purpose key tokens expiresAt now _ storing wired sparing
      · rename_i purpose key code flipping
        cases taken
        exact sparing_flagged world worker purpose key code _ flipping sparing
      · cases taken
  | raise worker =>
      cases taken
      exact sparing_raise world worker (careful.stores worker rfl) (careful.sweeps worker rfl) sparing

theorem careful_reachable (reachable : Reachable ((oauth apps).restrict Careful) world) :
    Wired world ∧ Sparing world := by
  refine reachable_invariant ((oauth apps).restrict Careful) (fun world => Wired world ∧ Sparing world) ⟨?_, ?_⟩ world
    reachable
  · intro state unconnected
    refine ⟨unconnected_wired state unconnected, ?_, ?_, ?_⟩
    · intro key row token found
      simp [Table.find?, unconnected.connections] at found
    · simp [unconnected.calls]
    · simp [unconnected.ended]
  · intro state label next inv allowed taken
    exact ⟨wired_step state apps next label inv.1 taken,
      sparing_step state apps next label allowed.2 inv.1 inv.2 taken⟩

end Sparing

section Rotation

def Body.refreshes : Body → ConnectionKey → Prop
  | .calling _ key _, other | .storing _ key _, other | .flipping _ key _, other => key = other
  | _, _ => False

structure Ordered (world : World) : Prop where
  alone : ∀ first second key, (world.workers first).refreshes key → (world.workers second).refreshes key → first = second
  newest : ∀ key row grant, world.connections.find? key = some row → (key, grant) ∈ world.stored → grant ≤ row.grant
  gone : ∀ key row, world.connections.find? key = some row → (key, row.grant) ∉ world.retired

structure SingleUse (world : World) : Prop where
  presented : ∀ call ∈ world.calls, call.honoured = true
  blamed : ∀ key row, world.connections.find? key = some row → row.status = .needsReauth →
    ∃ call ∈ world.calls, call.key = key ∧ call.rejected = true ∧ row.refreshToken = some call.token
  durable : ∀ key row token, world.connections.find? key = some row → world.locks key = none →
    row.refreshToken = some token → world.provider.honours key token = true
  swept : ∀ pass ∈ world.ended, pass.apps = [] ∧ pass.tried = pass.found

variable (world : World) (apps : List UserOAuthApp)

theorem refreshes_locked (wired : Wired world) (worker : Nat) (key : ConnectionKey)
    (refreshes : (world.workers worker).refreshes key) : world.locks key = some worker := by
  have fits := wired.fits worker
  cases body : world.workers worker with
  | calling purpose place token =>
      rw [body] at refreshes fits
      exact refreshes ▸ fits.1
  | storing purpose place tokens =>
      rw [body] at refreshes fits
      exact refreshes ▸ fits.1
  | flipping purpose place code =>
      rw [body] at refreshes fits
      exact refreshes ▸ fits.1
  | idle => rw [body] at refreshes; exact refreshes.elim
  | scanning pass => rw [body] at refreshes; exact refreshes.elim
  | locking purpose place => rw [body] at refreshes; exact refreshes.elim
  | polling app place session now => rw [body] at refreshes; exact refreshes.elim
  | exchanging app place session now => rw [body] at refreshes; exact refreshes.elim
  | granting app place tokens => rw [body] at refreshes; exact refreshes.elim

theorem wired_ordered (wired : Wired world) : Ordered world where
  alone first second key one other := by
    have mine := refreshes_locked world wired first key one
    rw [refreshes_locked world wired second key other, Option.some.injEq] at mine
    exact mine.symm
  newest := wired.newest
  gone := wired.gone

theorem sparing_singleUse (wired : Wired world) (sparing : Sparing world) : SingleUse world where
  presented := sparing.honoured
  blamed := wired.blamed
  durable key row token found free held := by
    rcases sparing.current key row token found held with honours | ⟨worker, lags⟩
    · exact honours
    · rw [lags_locked world wired worker key lags] at free
      cases free
  swept pass member := by
    obtain ⟨apps, rows⟩ := sparing.complete pass member
    have counted := wired.counts pass member
    rw [Pass.Counted, rows] at counted
    exact ⟨apps, by simpa using counted.symm⟩

-- Order holds in every run. As long as nothing fails between a rotation and its
-- commit, nor within a pass, every token is used once and every pass is whole.
theorem refresh_rotation :
    (∀ world, Reachable (oauth apps) world → Ordered world) ∧
    ∀ world, Reachable ((oauth apps).restrict Careful) world → SingleUse world := by
  refine ⟨fun world reachable => wired_ordered world (reachable_wired world apps reachable), fun world reachable => ?_⟩
  obtain ⟨wired, sparing⟩ := careful_reachable world apps reachable
  exact sparing_singleUse world wired sparing

end Rotation

def codexApp : UserOAuthApp := { providerId := "codex", expirySource := .expiresIn, refreshAfterSeconds := 345600 }

def firstUser : ConnectionKey := (1, "codex")

def secondUser : ConnectionKey := (2, "codex")

def emptyWorld : World :=
  { connections := .empty, sessions := .empty, locks := fun _ => none, sessionLocks := fun _ => none
    workers := fun _ => .idle, provider := { nextGrant := fun _ => 0, generation := fun _ _ => 0 }, calls := []
    stored := [], retired := [], ended := [] }

theorem emptyWorld_unconnected : Unconnected emptyWorld :=
  ⟨rfl, fun _ => rfl, fun _ => rfl, fun _ => rfl, rfl, rfl, rfl, rfl⟩

instance (world : World) (label : OAuthLabel) : Decidable ((oauth [codexApp]).allowed world label) := isTrue trivial

def connects (key : ConnectionKey) : List OAuthLabel :=
  [.startDeviceAuth { userId := key.1, providerId := key.2, deviceCode := "GmRhm", pollIntervalSeconds := 5
                      expiresAt := 900, lastPolledAt := none },
    .poll 0 key 0, .stampPoll 0, .exchange 0 (.granted true 3600 none), .grant 0 1]

def visits (now expiresIn : Int) : List OAuthLabel :=
  [.scan 0 now, .lock 0 now, .answer 0 (.tokens true (some expiresIn) none), .commit 0 now]

def wholePass : List OAuthLabel :=
  connects firstUser ++ connects secondUser ++ [.sweep 0 500000, .scan 0 500000] ++ visits 500000 3600 ++
    visits 500001 3600 ++ [.scan 0 500002]

theorem wholePass_reachable :
    Reachable ((oauth [codexApp]).restrict Careful) ((oauth [codexApp]).after emptyWorld wholePass) := by
  refine ⟨emptyWorld, wholePass, emptyWorld_unconnected, commits_restrict _ _ _ _ (by decide +kernel) ?_⟩
  refine meets_mono (oauth [codexApp]) (fun world label => raises world label = none ∧ label.readable = true) Careful ?_ _ _
    (by decide +kernel)
  intro world label calm
  refine ⟨fun worker raised => ?_, fun worker raised => ?_, calm.2⟩
  · rw [calm.1] at raised
    cases raised
  · rw [calm.1] at raised
    cases raised

theorem wholePass_singleUse :
    SingleUse ((oauth [codexApp]).after emptyWorld wholePass) ∧
      ((oauth [codexApp]).after emptyWorld wholePass).calls.length = 2 ∧
      ((oauth [codexApp]).after emptyWorld wholePass).ended.map Pass.tried = [[firstUser, secondUser]] :=
  ⟨(refresh_rotation [codexApp]).2 _ wholePass_reachable, by decide +kernel, by decide +kernel⟩

def overflowRun : List OAuthLabel :=
  connects firstUser ++ connects secondUser ++ [.sweep 0 500000, .scan 0 500000] ++ visits 500000 1000000000000 ++
    [.sweep 0 503600, .scan 0 503600, .scan 0 503600, .lock 0 503600, .answer 0 (.oauthError (some "invalid_grant")),
      .commit 0 503601]

-- The pass ends at the first of two due rows; the next one presents the rotated
-- token of that row, and the connection is lost.
theorem overflow_loses_rotation :
    Unconnected emptyWorld ∧ (oauth [codexApp]).Commits emptyWorld overflowRun ∧
      ((oauth [codexApp]).after emptyWorld overflowRun).calls.map (fun call => (call.key, call.honoured, call.rejected)) =
        [(firstUser, true, false), (firstUser, false, true)] ∧
      (((oauth [codexApp]).after emptyWorld overflowRun).connections.find? firstUser).map UserOAuthConnection.status =
        some .needsReauth ∧
      ((oauth [codexApp]).after emptyWorld overflowRun).ended.map (fun pass => (pass.found, pass.tried)) =
        [([firstUser, secondUser], [firstUser])] :=
  ⟨emptyWorld_unconnected, by decide +kernel, by decide +kernel, by decide +kernel, by decide +kernel⟩

end Yaaos.OAuth
