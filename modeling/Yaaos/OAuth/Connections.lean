import Mathlib.Logic.Function.Basic
import Yaaos.Base.Json
import Yaaos.Base.Machine
import Yaaos.Base.Table

set_option autoImplicit false

namespace Yaaos.OAuth

open Yaaos.Base

abbrev ConnectionKey : Type := Uuid × String

inductive ExpirySource where
  | expiresIn
  | jwtExp
  deriving DecidableEq

structure UserOAuthApp where
  providerId : String
  expirySource : ExpirySource
  refreshAfterSeconds : Int

structure RefreshToken where
  grant : Nat
  generation : Nat
  deriving DecidableEq

structure Tokens where
  grant : Nat
  refreshToken : Option RefreshToken
  expiresIn : Int
  jwtExp : Option Int

-- `datetime.max` and `datetime.min`, in seconds.
def datetimeMax : Int := 253402300799

def datetimeMin : Int := -62135596800

-- The sum of a date and a span raises where it leaves the calendar.
def computeExpiresAt (app : UserOAuthApp) (tokens : Tokens) (now : Int) : Option Int :=
  let fallback := now + tokens.expiresIn
  match app.expirySource, tokens.jwtExp with
  | .jwtExp, some exp => some exp
  | _, _ => if datetimeMin ≤ fallback ∧ fallback ≤ datetimeMax then some fallback else none

def isTerminalErrorCode (code : Option String) : Bool :=
  code == some "invalid_grant" || code == some "refresh_token_reused" || code == some "access_denied"

inductive ConnectionStatus where
  | connected
  | needsReauth
  deriving DecidableEq

structure UserOAuthConnection where
  userId : Uuid
  providerId : String
  status : ConnectionStatus
  grant : Nat
  refreshToken : Option RefreshToken
  accessTokenExpiresAt : Int
  lastRefreshAt : Int
  needsReauthReason : Option String

def UserOAuthConnection.key (row : UserOAuthConnection) : ConnectionKey := (row.userId, row.providerId)

def UserOAuthConnection.rotate (row : UserOAuthConnection) (tokens : Tokens) (expiresAt now : Int) : UserOAuthConnection :=
  { row with
    refreshToken := tokens.refreshToken.or row.refreshToken, accessTokenExpiresAt := expiresAt, lastRefreshAt := now }

def UserOAuthConnection.flag (row : UserOAuthConnection) (code : String) : UserOAuthConnection :=
  { row with status := .needsReauth, needsReauthReason := some ("token refresh rejected (" ++ code ++ ")") }

def UserOAuthConnection.regrant (row : UserOAuthConnection) (tokens : Tokens) (expiresAt now : Int) :
    UserOAuthConnection :=
  { row with
    status := .connected, grant := tokens.grant, refreshToken := tokens.refreshToken, accessTokenExpiresAt := expiresAt
    lastRefreshAt := now, needsReauthReason := none }

def granted (key : ConnectionKey) (tokens : Tokens) (expiresAt now : Int) : UserOAuthConnection :=
  { userId := key.1, providerId := key.2, status := .connected, grant := tokens.grant
    refreshToken := tokens.refreshToken, accessTokenExpiresAt := expiresAt, lastRefreshAt := now
    needsReauthReason := none }

theorem rotate_key (row : UserOAuthConnection) (tokens : Tokens) (expiresAt now : Int) :
    (row.rotate tokens expiresAt now).key = row.key := rfl

theorem flag_key (row : UserOAuthConnection) (code : String) : (row.flag code).key = row.key := rfl

theorem regrant_key (row : UserOAuthConnection) (tokens : Tokens) (expiresAt now : Int) :
    (row.regrant tokens expiresAt now).key = row.key := rfl

theorem granted_key (key : ConnectionKey) (tokens : Tokens) (expiresAt now : Int) :
    (granted key tokens expiresAt now).key = key := rfl

structure DeviceSession where
  userId : Uuid
  providerId : String
  deviceCode : String
  pollIntervalSeconds : Int
  expiresAt : Int
  lastPolledAt : Option Int

def DeviceSession.key (row : DeviceSession) : ConnectionKey := (row.userId, row.providerId)

def DeviceSession.coolingDown (row : DeviceSession) (now : Int) : Bool :=
  row.lastPolledAt.any fun polled => decide (now - polled < row.pollIntervalSeconds)

-- A new handshake takes the place of a pending one; the cooldown column stays.
def DeviceSession.restart (row started : DeviceSession) : DeviceSession :=
  { row with
    deviceCode := started.deviceCode, pollIntervalSeconds := started.pollIntervalSeconds, expiresAt := started.expiresAt }

def DeviceSession.stamp (row : DeviceSession) (now interval : Int) : DeviceSession :=
  { row with lastPolledAt := some now, pollIntervalSeconds := interval }

theorem restart_key (row started : DeviceSession) : (row.restart started).key = row.key := rfl

theorem stamp_key (row : DeviceSession) (now interval : Int) : (row.stamp now interval).key = row.key := rfl

structure Provider where
  nextGrant : ConnectionKey → Nat
  generation : ConnectionKey → Nat → Nat

def Provider.honours (provider : Provider) (key : ConnectionKey) (token : RefreshToken) : Bool :=
  provider.generation key token.grant == token.generation

def Provider.rotate (provider : Provider) (key : ConnectionKey) (token : RefreshToken) : Provider :=
  { provider with
    generation := Function.update provider.generation key
      (Function.update (provider.generation key) token.grant (token.generation + 1)) }

def Provider.give (provider : Provider) (key : ConnectionKey) : Provider :=
  { nextGrant := Function.update provider.nextGrant key (provider.nextGrant key + 1)
    generation := Function.update provider.generation key
      (Function.update (provider.generation key) (provider.nextGrant key) 0) }

inductive RefreshAnswer where
  | tokens (rotates : Bool) (expiresIn : Option Int) (jwtExp : Option Int)
  | oauthError (code : Option String)
  | otherError

inductive PollAnswer where
  | granted (refreshable : Bool) (expiresIn : Int) (jwtExp : Option Int)
  | slowDown
  | pending
  | ended
  | raised

structure Call where
  key : ConnectionKey
  token : RefreshToken
  honoured : Bool
  rejected : Bool

section World

structure Pass where
  now : Int
  apps : List UserOAuthApp
  rows : List (UserOAuthApp × ConnectionKey)
  found : List ConnectionKey
  tried : List ConnectionKey

inductive Purpose where
  | ensure (app : UserOAuthApp) (minRemaining : Int)
  | sweep (app : UserOAuthApp) (pass : Pass)

def Purpose.app : Purpose → UserOAuthApp
  | .ensure app _ | .sweep app _ => app

inductive Body where
  | idle
  | scanning (pass : Pass)
  | locking (purpose : Purpose) (key : ConnectionKey)
  | calling (purpose : Purpose) (key : ConnectionKey) (token : RefreshToken)
  | storing (purpose : Purpose) (key : ConnectionKey) (tokens : Tokens)
  | flipping (purpose : Purpose) (key : ConnectionKey) (code : String)
  | polling (app : UserOAuthApp) (key : ConnectionKey) (session : DeviceSession) (now : Int)
  | exchanging (app : UserOAuthApp) (key : ConnectionKey) (session : DeviceSession) (now : Int)
  | granting (app : UserOAuthApp) (key : ConnectionKey) (tokens : Tokens)

def Purpose.next : Purpose → Body
  | .ensure _ _ => .idle
  | .sweep _ pass => .scanning pass

def Purpose.pass? : Purpose → Option Pass
  | .ensure _ _ => none
  | .sweep _ pass => some pass

def Purpose.skips (purpose : Purpose) (row : UserOAuthConnection) (now : Int) : Bool :=
  match purpose with
  | .ensure _ minRemaining =>
      decide (row.status = .needsReauth) || decide (now + minRemaining < row.accessTokenExpiresAt)
  | .sweep app pass =>
      decide (row.status ≠ .connected) || decide (pass.now - app.refreshAfterSeconds ≤ row.lastRefreshAt)

def Body.pass? : Body → Option Pass
  | .scanning pass => some pass
  | .locking purpose _ | .calling purpose _ _ | .storing purpose _ _ | .flipping purpose _ _ => purpose.pass?
  | .idle | .polling _ _ _ _ | .exchanging _ _ _ _ | .granting _ _ _ => none

-- The tables with their row locks, the workers and the provider. `calls`,
-- `stored`, `retired` and `ended` record the refresh tokens presented, the grants
-- stored, those whose connection was removed, and the passes that are over.
structure World where
  connections : Table UserOAuthConnection ConnectionKey UserOAuthConnection.key
  sessions : Table DeviceSession ConnectionKey DeviceSession.key
  locks : ConnectionKey → Option Nat
  sessionLocks : ConnectionKey → Option Nat
  workers : Nat → Body
  provider : Provider
  calls : List Call
  stored : List (ConnectionKey × Nat)
  retired : List (ConnectionKey × Nat)
  ended : List Pass

inductive OAuthLabel where
  | startDeviceAuth (started : DeviceSession)
  | poll (worker : Nat) (key : ConnectionKey) (now : Int)
  | stampPoll (worker : Nat)
  | exchange (worker : Nat) (answer : PollAnswer)
  | grant (worker : Nat) (now : Int)
  | disconnect (key : ConnectionKey)
  | ensure (worker : Nat) (key : ConnectionKey) (minRemaining now : Int)
  | sweep (worker : Nat) (now : Int)
  | scan (worker : Nat) (now : Int)
  | lock (worker : Nat) (now : Int)
  | answer (worker : Nat) (answer : RefreshAnswer)
  | commit (worker : Nat) (now : Int)
  | raise (worker : Nat)

inductive OAuthStepError where
  | lookupError
  | outOfTurn
  | blocked
  | reused
  deriving DecidableEq

namespace World

def turn (world : World) (worker : Nat) (body : Body) : World :=
  { world with workers := Function.update world.workers worker body }

def leave (world : World) (worker : Nat) (body : Body) : World :=
  { world.turn worker body with
    locks := fun key => if world.locks key = some worker then none else world.locks key
    sessionLocks := fun key => if world.sessionLocks key = some worker then none else world.sessionLocks key }

def raise (world : World) (worker : Nat) : World :=
  { world.leave worker .idle with ended := world.ended ++ (world.workers worker).pass?.toList }

def startDeviceAuth (world : World) (started : DeviceSession) : World :=
  { world with
    sessions := world.sessions.upsert started (fun row => row.restart started) fun row => restart_key row started }

def updateSession (world : World) (key : ConnectionKey) (now interval : Int) : World :=
  { world with
    sessions := world.sessions.update (fun row => decide (row.key = key)) (fun row => row.stamp now interval) fun row =>
      stamp_key row now interval }

def deleteSession (world : World) (key : ConnectionKey) : World :=
  { world with sessions := world.sessions.delete fun row => decide (row.key = key) }

def poll (world : World) (worker : Nat) (app : UserOAuthApp) (key : ConnectionKey) (now : Int) : World :=
  match world.sessions.find? key with
  | none => world
  | some session => if session.coolingDown now then world else world.turn worker (.polling app key session now)

def stampPoll (world : World) (worker : Nat) (app : UserOAuthApp) (key : ConnectionKey) (session : DeviceSession)
    (now : Int) : World :=
  match world.sessions.find? key with
  | none => world.turn worker .idle
  | some _ =>
      { world.turn worker (.exchanging app key session now) with
        sessionLocks := Function.update world.sessionLocks key (some worker) }

def exchange (world : World) (worker : Nat) (app : UserOAuthApp) (key : ConnectionKey) (session : DeviceSession)
    (now : Int) : PollAnswer → World
  | .pending => (world.updateSession key now session.pollIntervalSeconds).leave worker .idle
  | .slowDown => (world.updateSession key now (session.pollIntervalSeconds + 5)).leave worker .idle
  | .ended => (world.deleteSession key).leave worker .idle
  | .raised => world.leave worker .idle
  | .granted refreshable expiresIn jwtExp =>
      let grant := world.provider.nextGrant key
      let tokens : Tokens :=
        { grant := grant, refreshToken := if refreshable then some { grant := grant, generation := 0 } else none
          expiresIn := expiresIn, jwtExp := jwtExp }
      { world.turn worker (.granting app key tokens) with provider := world.provider.give key }

def storeGrant (world : World) (key : ConnectionKey) (tokens : Tokens) (expiresAt now : Int) : World :=
  { world.deleteSession key with
    connections := world.connections.upsert (granted key tokens expiresAt now)
      (fun row => row.regrant tokens expiresAt now) fun row => regrant_key row tokens expiresAt now
    stored := world.stored ++ [(key, tokens.grant)] }

def grant (world : World) (worker : Nat) (app : UserOAuthApp) (key : ConnectionKey) (tokens : Tokens) (now : Int) :
    World :=
  match computeExpiresAt app tokens now with
  | none => world.raise worker
  | some expiresAt => (world.storeGrant key tokens expiresAt now).leave worker .idle

def disconnect (world : World) (key : ConnectionKey) : World :=
  match world.connections.find? key with
  | none => world
  | some row =>
      { world with
        connections := world.connections.delete fun row => decide (row.key = key)
        retired := world.retired ++ [(key, row.grant)] }

def ensure (world : World) (worker : Nat) (app : UserOAuthApp) (key : ConnectionKey) (minRemaining now : Int) : World :=
  match world.connections.find? key with
  | none => world
  | some row =>
      if row.status = .needsReauth then world
      else if now + minRemaining < row.accessTokenExpiresAt then world
      else world.turn worker (.locking (.ensure app minRemaining) key)

def dueRows (world : World) (app : UserOAuthApp) (now : Int) : List ConnectionKey :=
  (world.connections.rows.filter fun row => decide (row.providerId = app.providerId ∧ row.status = .connected ∧
    row.lastRefreshAt < now - app.refreshAfterSeconds)).map UserOAuthConnection.key

def purgeSessions (world : World) (now : Int) : World :=
  { world with
    sessions := world.sessions.delete fun row => decide (row.expiresAt < now) && (world.sessionLocks row.key).isNone }

def scan (world : World) (worker : Nat) (pass : Pass) (now : Int) : World :=
  match pass.rows, pass.apps with
  | (app, key) :: rest, _ =>
      world.turn worker (.locking (.sweep app { pass with rows := rest, tried := pass.tried ++ [key] }) key)
  | [], app :: later =>
      let due := world.dueRows app pass.now
      world.turn worker (.scanning { pass with apps := later, rows := due.map (app, ·), found := pass.found ++ due })
  | [], [] =>
      { (world.purgeSessions now).turn worker .idle with ended := world.ended ++ [pass] }

def lock (world : World) (worker : Nat) (purpose : Purpose) (key : ConnectionKey) (now : Int) : World :=
  match world.connections.find? key with
  | none => world.turn worker purpose.next
  | some row =>
      if purpose.skips row now then world.turn worker purpose.next
      else match row.refreshToken with
        | none => world.turn worker purpose.next
        | some token =>
            { world.turn worker (.calling purpose key token) with
              locks := Function.update world.locks key (some worker) }

def record (world : World) (key : ConnectionKey) (token : RefreshToken) (rejected : Bool) : World :=
  { world with
    calls := world.calls ++
      [{ key := key, token := token, honoured := world.provider.honours key token, rejected := rejected }] }

def answer (world : World) (worker : Nat) (purpose : Purpose) (key : ConnectionKey) (token : RefreshToken) :
    RefreshAnswer → Except OAuthStepError World
  | .tokens rotates expiresIn jwtExp =>
      if world.provider.honours key token then
        let provider := if rotates then world.provider.rotate key token else world.provider
        let served := { world.record key token false with provider := provider }
        match expiresIn with
        | none => .ok (served.leave worker purpose.next)
        | some seconds =>
            let fresh : Option RefreshToken :=
              if rotates then some { token with generation := token.generation + 1 } else none
            .ok (served.turn worker (.storing purpose key
              { grant := token.grant, refreshToken := fresh, expiresIn := seconds, jwtExp := jwtExp }))
      else .error .reused
  | .oauthError code =>
      if isTerminalErrorCode code then
        .ok ((world.record key token true).turn worker (.flipping purpose key (code.getD "None")))
      else .ok ((world.record key token false).leave worker purpose.next)
  | .otherError => .ok ((world.record key token false).leave worker purpose.next)

def storeRotation (world : World) (key : ConnectionKey) (tokens : Tokens) (expiresAt now : Int) : World :=
  { world with
    connections := world.connections.update (fun row => decide (row.key = key))
      (fun row => row.rotate tokens expiresAt now) fun row => rotate_key row tokens expiresAt now }

def storeFlag (world : World) (key : ConnectionKey) (code : String) : World :=
  { world with
    connections := world.connections.update (fun row => decide (row.key = key)) (fun row => row.flag code) fun row =>
      flag_key row code }

def commitRotation (world : World) (worker : Nat) (purpose : Purpose) (key : ConnectionKey) (tokens : Tokens)
    (now : Int) : World :=
  match computeExpiresAt purpose.app tokens now with
  | none => world.raise worker
  | some expiresAt => (world.storeRotation key tokens expiresAt now).leave worker purpose.next

end World

variable (apps : List UserOAuthApp)

def getUserOAuthApp (providerId : String) : Option UserOAuthApp :=
  apps.find? fun app => app.providerId == providerId

def oauthStep (world : World) : OAuthLabel → Except OAuthStepError World
  | .startDeviceAuth started =>
      if world.sessionLocks started.key ≠ none then .error .blocked else .ok (world.startDeviceAuth started)
  | .poll worker key now => match world.workers worker with
      | .idle => match getUserOAuthApp apps key.2 with
          | none => .error .lookupError
          | some app => .ok (world.poll worker app key now)
      | _ => .error .outOfTurn
  | .stampPoll worker => match world.workers worker with
      | .polling app key session now =>
          if world.sessionLocks key ≠ none then .error .blocked else .ok (world.stampPoll worker app key session now)
      | _ => .error .outOfTurn
  | .exchange worker answer => match world.workers worker with
      | .exchanging app key session now => .ok (world.exchange worker app key session now answer)
      | _ => .error .outOfTurn
  | .grant worker now => match world.workers worker with
      | .granting app key tokens =>
          if world.locks key ≠ none then .error .blocked else .ok (world.grant worker app key tokens now)
      | _ => .error .outOfTurn
  | .disconnect key => if world.locks key ≠ none then .error .blocked else .ok (world.disconnect key)
  | .ensure worker key minRemaining now => match world.workers worker with
      | .idle => match getUserOAuthApp apps key.2 with
          | none => .error .lookupError
          | some app => .ok (world.ensure worker app key minRemaining now)
      | _ => .error .outOfTurn
  | .sweep worker now => match world.workers worker with
      | .idle => .ok (world.turn worker (.scanning { now := now, apps := apps, rows := [], found := [], tried := [] }))
      | _ => .error .outOfTurn
  | .scan worker now => match world.workers worker with
      | .scanning pass => .ok (world.scan worker pass now)
      | _ => .error .outOfTurn
  | .lock worker now => match world.workers worker with
      | .locking purpose key =>
          if world.locks key ≠ none then .error .blocked else .ok (world.lock worker purpose key now)
      | _ => .error .outOfTurn
  | .answer worker answer => match world.workers worker with
      | .calling purpose key token => world.answer worker purpose key token answer
      | _ => .error .outOfTurn
  | .commit worker now => match world.workers worker with
      | .storing purpose key tokens => .ok (world.commitRotation worker purpose key tokens now)
      | .flipping purpose key code => .ok ((world.storeFlag key code).leave worker purpose.next)
      | _ => .error .outOfTurn
  | .raise worker => .ok (world.raise worker)

structure Unconnected (world : World) : Prop where
  connections : world.connections.rows = []
  resting : ∀ worker, world.workers worker = .idle
  unlocked : ∀ key, world.locks key = none
  unlockedSessions : ∀ key, world.sessionLocks key = none
  calls : world.calls = []
  stored : world.stored = []
  retired : world.retired = []
  ended : world.ended = []

def oauth : Machine World OAuthLabel OAuthStepError where
  initial := Unconnected
  allowed := fun _ _ => True
  step := oauthStep apps

end World

end Yaaos.OAuth
