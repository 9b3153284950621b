import Mathlib.Logic.Function.Basic
import Yaaos.Base.Json
import Yaaos.Base.Machine
import Yaaos.Base.Table
import Yaaos.Tasks.Cron

set_option autoImplicit false

namespace Yaaos.Intake

open Yaaos.Base

inductive InstallationStatus where
  | active
  | suspended
  | uninstalled
  deriving DecidableEq

structure Installation where
  externalId : Int
  orgId : Uuid
  accountLogin : String
  status : InstallationStatus

abbrev Installations := Table Installation Int Installation.externalId

def upsertInstallation (rows : Installations) (externalId : Int) (accountLogin : String) (orgId : Uuid) : Installations :=
  match rows.insert? { externalId := externalId, orgId := orgId, accountLogin := accountLogin, status := .active } with
  | some inserted => inserted
  | none =>
      rows.update (fun row => row.externalId == externalId)
        (fun row => { row with orgId := orgId, accountLogin := accountLogin, status := .active }) fun _ => rfl

def markInstallationInactive (rows : Installations) (externalId : Int) (status : InstallationStatus) : Installations :=
  rows.update (fun row => row.externalId == externalId) (fun row => { row with status := status }) fun _ => rfl

def clearVcs (rows : Installations) (orgId : Uuid) : Installations := rows.delete fun row => row.orgId == orgId

theorem find?_upsert (rows : Installations) (externalId : Int) (accountLogin : String) (orgId : Uuid) (other : Int) :
    (upsertInstallation rows externalId accountLogin orgId).find? other =
      if other = externalId then
        some { externalId := externalId, orgId := orgId, accountLogin := accountLogin, status := .active }
      else rows.find? other := by
  unfold upsertInstallation
  cases inserted : rows.insert? ⟨externalId, orgId, accountLogin, .active⟩ with
  | some grown =>
      dsimp only
      rw [Table.find?_insert rows grown _ other inserted]
      obtain ⟨_, fresh⟩ := rows.insert?_some grown _ inserted
      by_cases same : other = externalId
      · have absent : rows.find? other = none :=
          (rows.find?_isNone other).mpr fun row member => same ▸ fresh row member
        simp [same, same ▸ absent]
      · simp [same, Ne.symm same]
  | none =>
      dsimp only
      rw [Table.find?_update]
      by_cases same : other = externalId
      · subst same
        obtain ⟨row, found⟩ : ∃ row, rows.find? other = some row := by
          apply Option.ne_none_iff_exists'.mp
          intro absent
          have fresh := (rows.find?_isNone other).mp absent
          have taken : ∃ row ∈ rows.rows, row.externalId = other := by
            simpa [Table.insert?] using inserted
          obtain ⟨row, member, named⟩ := taken
          exact fresh row member named
        have named := (rows.find?_some other row found).2
        simp [found, named]
      · simp only [if_neg same]
        cases found : rows.find? other with
        | none => rfl
        | some row =>
            have named := (rows.find?_some other row found).2
            simp [named, same]

theorem find?_inactive (rows : Installations) (externalId : Int) (status : InstallationStatus) (other : Int) :
    ((markInstallationInactive rows externalId status).find? other).map Installation.orgId =
      (rows.find? other).map Installation.orgId := by
  rw [markInstallationInactive, Table.find?_update, Option.map_map]
  congr 1
  funext row
  simp only [Function.comp]
  split <;> rfl

theorem find?_clear (rows : Installations) (orgId : Uuid) (other : Int) :
    (clearVcs rows orgId).find? other = (rows.find? other).filter fun row => row.orgId != orgId := by
  cases found : rows.find? other with
  | none =>
      rw [Option.filter_none, Table.find?_isNone]
      exact fun row member => (rows.find?_isNone other).mp found row (List.mem_of_mem_filter member)
  | some row =>
      obtain ⟨member, named⟩ := rows.find?_some other row found
      by_cases cleared : row.orgId = orgId
      · rw [Option.filter_some, if_neg (by simp [cleared]), Table.find?_isNone]
        intro left leftMember same
        obtain ⟨present, kept⟩ := List.mem_filter.mp leftMember
        rw [rows.eq_of_key left row present member (same.trans named.symm)] at kept
        simp [cleared] at kept
      · rw [Option.filter_some, if_pos (by simp [cleared])]
        exact Table.find?_eq _ row other (List.mem_filter.mpr ⟨member, by simp [cleared]⟩) named

def defaultOrgId : Uuid := 1

inductive InstallState where
  | forged
  | expired
  | valid (orgId : Option Uuid)

structure InstallCallback where
  state : Option InstallState
  installationId : String

inductive InstallError where
  | missingParams
  | stateExpired
  | stateInvalid
  | valueError
  | noInstallRow
  | noDelivery
  | noActiveInstallation

def InstallCallback.resolve (request : InstallCallback) : Except InstallError (Uuid × Int) :=
  match request.state with
  | none => .error .missingParams
  | some state =>
      if request.installationId = "" then .error .missingParams
      else match state with
        | .expired => .error .stateExpired
        | .forged | .valid none => .error .stateInvalid
        | .valid (some orgId) =>
            match Tasks.toInt (request.installationId.toList.map Char.toNat) with
            | none => .error .valueError
            | some installationId => .ok (orgId, installationId)

structure Webhook where
  delivery : String
  event : String
  action : String
  installId : Int
  accountLogin : String

def Webhook.binds (webhook : Webhook) : Bool :=
  webhook.event == "installation" &&
    (webhook.action == "created" || webhook.action == "new_permissions_accepted" || webhook.action == "unsuspend")

structure Handling where
  webhook : Webhook
  orgId : Uuid

-- An event or a token of an installation, the org it went to, and the org that
-- held the installation at that time.
structure Attribution where
  externalId : Int
  orgId : Uuid
  holder : Option Uuid
  deriving DecidableEq

-- `holder` is the purpose: whoever binds a free installation holds it until it is
-- no longer active or its org drops it.
structure Registry where
  rows : Installations
  seen : List String
  handling : List Handling
  holder : Int → Option Uuid
  attributed : List Attribution

def Registry.attribute (registry : Registry) (externalId : Int) (orgId : Uuid) : Registry :=
  { registry with
    attributed := registry.attributed ++
      [{ externalId := externalId, orgId := orgId, holder := registry.holder externalId }] }

def Registry.isActive (registry : Registry) (externalId : Int) : Bool :=
  (registry.rows.find? externalId).any fun row => row.status == .active

def Registry.bind (registry : Registry) (externalId : Int) (accountLogin : String) (orgId : Uuid) : Registry :=
  { registry with
    rows := upsertInstallation registry.rows externalId accountLogin orgId
    holder := if registry.isActive externalId then registry.holder else Function.update registry.holder externalId (some orgId) }

def Registry.callback (registry : Registry) (request : InstallCallback) (accountLogin : Option String) :
    Except InstallError Registry :=
  request.resolve.map fun (orgId, externalId) => registry.bind externalId (accountLogin.getD "") orgId

def Registry.receive (registry : Registry) (webhook : Webhook) : Except InstallError Registry :=
  let record (orgId : Uuid) : Registry :=
    if registry.seen.contains webhook.delivery then registry
    else
      { registry with
        seen := registry.seen ++ [webhook.delivery]
        handling := registry.handling ++ [{ webhook := webhook, orgId := orgId }] }
  match registry.rows.find? webhook.installId with
  | some row => .ok (record row.orgId)
  | none => if webhook.binds then .ok (record defaultOrgId) else .error .noInstallRow

def Registry.handleInstallation (registry : Registry) (handling : Handling) : Registry :=
  let webhook := handling.webhook
  if webhook.event ≠ "installation" then registry
  else if webhook.binds then registry.bind webhook.installId webhook.accountLogin handling.orgId
  else if webhook.action = "deleted" then
    { registry with rows := markInstallationInactive registry.rows webhook.installId .uninstalled }
  else if webhook.action = "suspend" then
    { registry with rows := markInstallationInactive registry.rows webhook.installId .suspended }
  else registry

def Registry.handle (registry : Registry) (index : Nat) : Except InstallError Registry :=
  match registry.handling[index]? with
  | none => .error .noDelivery
  | some handling =>
      let attributed := registry.attribute handling.webhook.installId handling.orgId
      .ok ({ attributed with handling := registry.handling.eraseIdx index }.handleInstallation handling)

def Registry.installationToken (registry : Registry) (orgId : Uuid) (externalId : Int) : Except InstallError Registry :=
  match registry.rows.find? externalId with
  | none => .error .noActiveInstallation
  | some row =>
      if row.orgId = orgId ∧ row.status = .active then .ok (registry.attribute externalId orgId)
      else .error .noActiveInstallation

def Registry.clear (registry : Registry) (orgId : Uuid) : Registry :=
  { registry with
    rows := clearVcs registry.rows orgId
    holder := fun externalId =>
      if (registry.rows.find? externalId).any fun row => row.orgId == orgId then none else registry.holder externalId }

inductive InstallLabel where
  | callback (request : InstallCallback) (accountLogin : Option String)
  | receive (webhook : Webhook)
  | handle (index : Nat)
  | token (orgId : Uuid) (externalId : Int)
  | clear (orgId : Uuid)

structure NoInstallations (registry : Registry) : Prop where
  rows : registry.rows = Table.empty
  handling : registry.handling = []
  holder : ∀ externalId, registry.holder externalId = none
  attributed : registry.attributed = []

def installations : Machine Registry InstallLabel InstallError where
  initial := NoInstallations
  allowed := fun _ _ => True
  step
    | registry, .callback request accountLogin => registry.callback request accountLogin
    | registry, .receive webhook => registry.receive webhook
    | registry, .handle index => registry.handle index
    | registry, .token orgId externalId => registry.installationToken orgId externalId
    | registry, .clear orgId => .ok (registry.clear orgId)

structure Attributed (registry : Registry) : Prop where
  active : ∀ externalId row, registry.rows.find? externalId = some row → row.status = .active →
    registry.holder externalId = some row.orgId
  events : ∀ entry ∈ registry.attributed, ∀ holder, entry.holder = some holder → entry.orgId = holder

-- A callback names no installation that is active under another org or whose
-- webhook is being handled under another org; an org drops none of its
-- installations while a webhook of its own is being handled.
def Consents (registry : Registry) : InstallLabel → Prop
  | .callback request _ => ∀ orgId externalId, request.resolve = .ok (orgId, externalId) →
      (∀ row, registry.rows.find? externalId = some row → row.status = .active → row.orgId = orgId) ∧
        ∀ handling ∈ registry.handling, handling.webhook.installId = externalId → handling.orgId = orgId
  | .clear orgId => ∀ handling ∈ registry.handling, handling.orgId ≠ orgId
  | _ => True

structure Settled (registry : Registry) : Prop where
  held : ∀ externalId row, registry.rows.find? externalId = some row → registry.holder externalId = some row.orgId
  free : ∀ externalId, registry.rows.find? externalId = none → registry.holder externalId = none
  agrees : ∀ handling ∈ registry.handling, ∀ row, registry.rows.find? handling.webhook.installId = some row →
    row.orgId = handling.orgId
  falls : ∀ handling ∈ registry.handling, registry.rows.find? handling.webhook.installId = none →
    handling.orgId = defaultOrgId
  events : ∀ entry ∈ registry.attributed, ∀ holder, entry.holder = some holder → entry.orgId = holder

theorem settled_attributed (registry : Registry) (settled : Settled registry) : Attributed registry where
  active := fun externalId row found _ => settled.held externalId row found
  events := settled.events

theorem settled_initial (registry : Registry) (none : NoInstallations registry) : Settled registry := by
  have absent (externalId : Int) : registry.rows.find? externalId = .none := by
    rw [none.rows]
    rfl
  refine ⟨fun externalId row found => ?_, fun externalId _ => none.holder externalId, ?_, ?_, ?_⟩
  · cases (absent externalId).symm.trans found
  · simp [none.handling]
  · simp [none.handling]
  · simp [none.attributed]

theorem settled_bind (registry : Registry) (externalId : Int) (accountLogin : String) (orgId : Uuid) (settled : Settled registry)
    (own : ∀ row, registry.rows.find? externalId = some row → row.status = .active → row.orgId = orgId)
    (same : ∀ handling ∈ registry.handling, handling.webhook.installId = externalId → handling.orgId = orgId) :
    Settled (registry.bind externalId accountLogin orgId) := by
  have holder (other : Int) : (registry.bind externalId accountLogin orgId).holder other =
      if other = externalId then some orgId else registry.holder other := by
    rw [Registry.bind]
    dsimp only
    by_cases named : other = externalId
    · subst named
      rw [if_pos rfl]
      split
      · rename_i active
        rw [Registry.isActive, Option.any_eq_true] at active
        obtain ⟨row, found, isActive⟩ := active
        rw [settled.held other row found, own row found (by simpa using isActive)]
      · exact Function.update_self ..
    · rw [if_neg named]
      split
      · rfl
      · exact Function.update_of_ne named ..
  refine ⟨fun other row found => ?_, fun other absent => ?_, fun handling member row found => ?_,
    fun handling member absent => ?_, settled.events⟩
  · rw [Registry.bind, find?_upsert] at found
    rw [holder]
    by_cases named : other = externalId
    · rw [if_pos named] at found ⊢
      cases found
      rfl
    · rw [if_neg named] at found ⊢
      exact settled.held other row found
  · rw [Registry.bind, find?_upsert] at absent
    rw [holder]
    by_cases named : other = externalId
    · rw [if_pos named] at absent
      cases absent
    · rw [if_neg named] at absent ⊢
      exact settled.free other absent
  · rw [Registry.bind, find?_upsert] at found
    by_cases named : handling.webhook.installId = externalId
    · rw [if_pos named] at found
      cases found
      exact (same handling member named).symm
    · rw [if_neg named] at found
      exact settled.agrees handling member row found
  · rw [Registry.bind, find?_upsert] at absent
    by_cases named : handling.webhook.installId = externalId
    · rw [if_pos named] at absent
      cases absent
    · rw [if_neg named] at absent
      exact settled.falls handling member absent

theorem settled_attribute (registry : Registry) (externalId : Int) (orgId : Uuid) (settled : Settled registry)
    (own : ∀ holder, registry.holder externalId = some holder → orgId = holder) :
    Settled (registry.attribute externalId orgId) := by
  refine ⟨settled.held, settled.free, settled.agrees, settled.falls, fun entry member => ?_⟩
  rcases List.mem_append.mp member with old | new
  · exact settled.events entry old
  · rw [List.mem_singleton.mp new]
    exact own

theorem settled_inactive (registry : Registry) (externalId : Int) (status : InstallationStatus) (settled : Settled registry) :
    Settled { registry with rows := markInstallationInactive registry.rows externalId status } := by
  have orgs := find?_inactive registry.rows externalId status
  have before (other : Int) (row : Installation)
      (found : (markInstallationInactive registry.rows externalId status).find? other = some row) :
      ∃ old, registry.rows.find? other = some old ∧ old.orgId = row.orgId := by
    have mapped := orgs other
    rw [found, Option.map_some] at mapped
    exact Option.map_eq_some_iff.mp mapped.symm
  have absent (other : Int) (gone : (markInstallationInactive registry.rows externalId status).find? other = none) :
      registry.rows.find? other = none := by
    have mapped := orgs other
    rw [gone, Option.map_none] at mapped
    exact Option.map_eq_none_iff.mp mapped.symm
  refine ⟨fun other row found => ?_, fun other gone => settled.free other (absent other gone),
    fun handling member row found => ?_, fun handling member gone => settled.falls handling member (absent _ gone),
    settled.events⟩
  · obtain ⟨old, present, same⟩ := before other row found
    exact same ▸ settled.held other old present
  · obtain ⟨old, present, same⟩ := before _ row found
    exact same ▸ settled.agrees handling member old present

theorem settled_clear (registry : Registry) (orgId : Uuid) (settled : Settled registry)
    (quiet : ∀ handling ∈ registry.handling, handling.orgId ≠ orgId) : Settled (registry.clear orgId) := by
  have before (other : Int) (row : Installation) (found : (registry.clear orgId).rows.find? other = some row) :
      registry.rows.find? other = some row ∧ row.orgId ≠ orgId := by
    rw [Registry.clear, find?_clear, Option.filter_eq_some_iff] at found
    simpa using found
  refine ⟨fun other row found => ?_, fun other gone => ?_, fun handling member row found => ?_,
    fun handling member gone => ?_, settled.events⟩
  · obtain ⟨present, kept⟩ := before other row found
    simp [Registry.clear, present, kept, settled.held other row present]
  · simp only [Registry.clear]
    split
    · rfl
    · rename_i kept
      cases present : registry.rows.find? other with
      | none => exact settled.free other present
      | some row =>
          rw [Registry.clear, find?_clear, present, Option.filter_some] at gone
          rw [present] at kept
          simp only [Option.any_some, beq_iff_eq] at kept
          simp [kept] at gone
  · exact settled.agrees handling member row (before _ row found).1
  · cases present : registry.rows.find? handling.webhook.installId with
    | none => exact settled.falls handling member present
    | some row =>
        have own := settled.agrees handling member row present
        rw [Registry.clear, find?_clear, present, Option.filter_some] at gone
        have kept : row.orgId ≠ orgId := own ▸ quiet handling member
        simp [kept] at gone

theorem settled_receive (registry next : Registry) (webhook : Webhook) (settled : Settled registry)
    (received : registry.receive webhook = .ok next) : Settled next := by
  have recorded (orgId : Uuid) (agrees : ∀ row, registry.rows.find? webhook.installId = some row → row.orgId = orgId)
      (falls : registry.rows.find? webhook.installId = none → orgId = defaultOrgId) :
      Settled { registry with
        seen := registry.seen ++ [webhook.delivery]
        handling := registry.handling ++ [{ webhook := webhook, orgId := orgId }] } := by
    refine ⟨settled.held, settled.free, fun handling member => ?_, fun handling member => ?_, settled.events⟩
    all_goals rcases List.mem_append.mp member with old | new
    · exact settled.agrees handling old
    · rw [List.mem_singleton.mp new]
      exact agrees
    · exact settled.falls handling old
    · rw [List.mem_singleton.mp new]
      exact falls
  unfold Registry.receive at received
  dsimp only at received
  split at received
  · rename_i row found
    cases received
    split
    · exact settled
    · exact recorded row.orgId (fun other present => by rw [found] at present; cases present; rfl)
        (fun absent => by rw [found] at absent; cases absent)
  · rename_i absent
    split at received
    · cases received
      split
      · exact settled
      · exact recorded defaultOrgId (fun other present => by rw [absent] at present; cases present) fun _ => rfl
    · cases received

theorem settled_handle (registry next : Registry) (index : Nat) (settled : Settled registry)
    (handled : registry.handle index = .ok next) : Settled next := by
  unfold Registry.handle at handled
  split at handled
  · cases handled
  · rename_i handling here
    have member : handling ∈ registry.handling := List.mem_of_getElem? here
    have alike (other : Handling) (present : other ∈ registry.handling)
        (same : other.webhook.installId = handling.webhook.installId) : other.orgId = handling.orgId := by
      cases found : registry.rows.find? handling.webhook.installId with
      | none =>
          rw [settled.falls handling member found]
          exact settled.falls other present (same ▸ found)
      | some row =>
          rw [← settled.agrees handling member row found]
          exact (settled.agrees other present row (same ▸ found)).symm
    have logged := settled_attribute registry handling.webhook.installId handling.orgId settled fun holder held => by
      cases found : registry.rows.find? handling.webhook.installId with
      | none => cases (settled.free _ found).symm.trans held
      | some row =>
          rw [← settled.agrees handling member row found]
          exact Option.some.inj ((settled.held _ row found).symm.trans held)
    have left : Settled
        { registry.attribute handling.webhook.installId handling.orgId with handling := registry.handling.eraseIdx index } :=
      ⟨logged.held, logged.free, fun other still => logged.agrees other (List.mem_of_mem_eraseIdx still),
        fun other still => logged.falls other (List.mem_of_mem_eraseIdx still), logged.events⟩
    cases handled
    unfold Registry.handleInstallation
    dsimp only
    split
    · exact left
    · split
      · exact settled_bind _ _ _ _ left (fun row found _ => settled.agrees handling member row found)
          fun other still => alike other (List.mem_of_mem_eraseIdx still)
      · split
        · exact settled_inactive _ _ _ left
        · split
          · exact settled_inactive _ _ _ left
          · exact left

theorem settled_inductive : Inductive (installations.restrict Consents) Settled where
  initially := settled_initial
  kept := by
    rintro registry label next settled ⟨_, consents⟩ taken
    cases label with
    | callback request accountLogin =>
        cases resolved : request.resolve with
        | error error =>
            simp only [installations, Machine.restrict, Registry.callback, resolved] at taken
            cases taken
        | ok named =>
            simp only [installations, Machine.restrict, Registry.callback, resolved] at taken
            cases taken
            obtain ⟨own, same⟩ := consents named.1 named.2 resolved
            exact settled_bind registry named.2 (accountLogin.getD "") named.1 settled own same
    | receive webhook => exact settled_receive registry next webhook settled taken
    | handle index => exact settled_handle registry next index settled taken
    | token orgId externalId =>
        simp only [installations, Machine.restrict, Registry.installationToken] at taken
        split at taken
        · cases taken
        · rename_i row found
          split at taken
          · rename_i own
            cases taken
            refine settled_attribute registry externalId orgId settled fun holder held => ?_
            rw [← own.1]
            exact Option.some.inj ((settled.held externalId row found).symm.trans held)
          · cases taken
    | clear orgId =>
        cases taken
        exact settled_clear registry orgId settled consents

theorem installation_attributed (registry : Registry) (reachable : Reachable (installations.restrict Consents) registry) :
    Attributed registry :=
  settled_attributed registry (reachable_invariant _ _ settled_inductive registry reachable)

def emptyRegistry : Registry :=
  { rows := Table.empty, seen := [], handling := [], holder := fun _ => none, attributed := [] }

theorem emptyRegistry_fresh : NoInstallations emptyRegistry := ⟨rfl, rfl, fun _ => rfl, rfl⟩

def sampleCallback (orgId : Uuid) : InstallLabel :=
  .callback { state := some (.valid (some orgId)), installationId := "7" } (some "acme")

def sampleWebhook (delivery event action : String) : InstallLabel :=
  .receive { delivery := delivery, event := event, action := action, installId := 7, accountLogin := "acme" }

def takeover : List InstallLabel :=
  [sampleCallback 10, sampleCallback 20, sampleWebhook "d1" "pull_request" "opened", .handle 0]

theorem takeover_unattributed :
    Reachable installations (installations.after emptyRegistry takeover) ∧
      ¬ Attributed (installations.after emptyRegistry takeover) := by
  refine ⟨⟨_, takeover, emptyRegistry_fresh, commits_path _ _ _ ?_⟩, fun attributed => ?_⟩
  · exact ⟨trivial, rfl, trivial, rfl, trivial, rfl, trivial, rfl, trivial⟩
  · have logged : (installations.after emptyRegistry takeover).attributed =
        [{ externalId := 7, orgId := 20, holder := some 10 }] := by decide +kernel
    have wrong := attributed.events { externalId := 7, orgId := 20, holder := some 10 }
      (by rw [logged]; exact List.mem_singleton_self _) 10 rfl
    exact absurd wrong (by decide)

def installed : List InstallLabel :=
  [sampleCallback 10, sampleWebhook "d1" "installation" "created", .handle 0,
    sampleWebhook "d2" "pull_request" "opened", .handle 0]

theorem installed_attributed : Attributed (installations.after emptyRegistry installed) := by
  refine installation_attributed _ ⟨_, installed, emptyRegistry_fresh, commits_restrict _ _ _ _ ?_ ?_⟩
  · exact ⟨trivial, rfl, trivial, rfl, trivial, rfl, trivial, rfl, trivial, rfl, trivial⟩
  · exact ⟨fun orgId externalId _ => ⟨nofun, nofun⟩, trivial, trivial, trivial, trivial, trivial⟩

end Yaaos.Intake
