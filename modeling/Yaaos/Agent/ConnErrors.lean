import Yaaos.Base.JsonText
import Yaaos.Base.Scan

set_option autoImplicit false

namespace Yaaos.Agent

open Yaaos.Base

section Client

def ascii (text : String) : Bytes := encodeChars text.toList

def decimal (number : Nat) : Bytes := encodeChars (Nat.toDigits 10 number)

structure Response where
  status : Nat
  body : Bytes

inductive Endpoint where
  | exchangeIdentity
  | heartbeat
  | claimCommand
  | postCommandEvent (commandId : Bytes)
  | deregister

def Endpoint.path : Endpoint → Bytes
  | .exchangeIdentity => ascii "/api/v1/agent/identity"
  | .heartbeat => ascii "/api/v1/agent/heartbeat"
  | .claimCommand => ascii "/api/v1/agent/commands/claim"
  | .postCommandEvent commandId => ascii "/api/v1/commands/" ++ commandId ++ ascii "/events"
  | .deregister => ascii "/api/v1/agent/identity"

def errNoCommand : Bytes := ascii "protocol: no command available (204)"

def errStaleClaim : Bytes := ascii "protocol: stale claim (410)"

-- `decode` reads a body into the endpoint's own type; where it fails, its error has a text.
variable (decode : Endpoint → Bytes → Option Bytes)

def Client.doJSON (endpoint : Endpoint) (response : Response) : Option Bytes :=
  match response.status with
  | 200 => decode endpoint response.body
  | 204 => none
  | 401 => some (ascii "POST " ++ endpoint.path ++ ascii ": unauthorized")
  | 410 => some errStaleClaim
  | status => some (ascii "POST " ++ endpoint.path ++ ascii ": " ++ decimal status ++ ascii " " ++ response.body)

def Client.claimCommand (response : Response) : Option Bytes :=
  match response.status with
  | 200 => none
  | 204 => some errNoCommand
  | 401 => some (ascii "claim: unauthorized")
  | status => some (ascii "claim: unexpected status " ++ decimal status)

def Client.deregister (response : Response) : Option Bytes :=
  if response.status ≠ 204 then
    some (ascii "deregister: unexpected status " ++ decimal response.status ++ ascii ": " ++ response.body)
  else none

def Endpoint.error (endpoint : Endpoint) (response : Response) : Option Bytes :=
  match endpoint with
  | .claimCommand => Client.claimCommand response
  | .deregister => Client.deregister response
  | .exchangeIdentity | .heartbeat | .postCommandEvent _ => Client.doJSON decode endpoint response

end Client

inductive ConnClass where
  | empty
  | auth
  | network
  deriving DecidableEq

def containsStatus (text : Bytes) (code : String) : Bool :=
  scan (fun rest => (ascii ": " ++ ascii code ++ ascii " ").isPrefixOf rest) text

def endsWord : Bytes → Bool
  | [] => true
  | letter :: _ => letter = 32 || letter = 46 || letter = 44

def containsWord (text : Bytes) (word : String) : Bool :=
  scan (fun rest => (ascii ": " ++ ascii word).isPrefixOf rest && endsWord (rest.drop (ascii ": " ++ ascii word).length)) text

def looksAuth (text : Bytes) : Bool :=
  containsStatus text "401" || containsStatus text "403" || containsWord text "unauthorized"

def classifyConnErr : Option Bytes → ConnClass
  | none => .empty
  | some text => if looksAuth text then .auth else .network

theorem digit_encoded (char : Char) (digit : char.isDigit = true) :
    ∃ byte : UInt8, String.utf8EncodeChar char = [byte] ∧ 48 ≤ byte.toNat ∧ byte.toNat ≤ 57 := by
  have range : 48 ≤ char.val.toNat ∧ char.val.toNat ≤ 57 := by
    simp only [Char.isDigit, Bool.and_eq_true, decide_eq_true_eq] at digit
    exact ⟨UInt32.le_iff_toNat_le.mp digit.1, UInt32.le_iff_toNat_le.mp digit.2⟩
  have encoded : String.utf8EncodeChar char = [UInt8.ofNat char.val.toNat] := by
    unfold String.utf8EncodeChar
    exact if_pos (by omega)
  have value : (UInt8.ofNat char.val.toNat).toNat = char.val.toNat := UInt8.toNat_ofNat_of_lt' (Nat.lt_of_le_of_lt range.2 (by decide))
  exact ⟨_, encoded, by omega, by omega⟩

theorem decimal_digits (number : Nat) (byte : UInt8) (member : byte ∈ decimal number) :
    48 ≤ byte.toNat ∧ byte.toNat ≤ 57 := by
  obtain ⟨char, written, inside⟩ := List.mem_flatMap.mp member
  have digit := Nat.isDigit_of_mem_toDigits (by decide) (by decide) written
  obtain ⟨encoded, same, low, high⟩ := digit_encoded char digit
  rw [same, List.mem_singleton] at inside
  rw [inside]
  exact ⟨low, high⟩

theorem decimal_foreign (number : Nat) (byte : UInt8) (foreign : byte.toNat < 48 ∨ 57 < byte.toNat) :
    byte ∉ decimal number := by
  intro member
  have range := decimal_digits number byte member
  omega

theorem encodeChars_inj (first second : List Char) (same : encodeChars first = encodeChars second) : first = second := by
  have runes := congrArg runes same
  rw [runes_encoded, runes_encoded] at runes
  exact List.map_injective_iff.mpr (fun left right equal => Option.some.inj equal) runes

theorem decimal_inj (first second : Nat) (same : decimal first = decimal second) : first = second := by
  have digits := congrArg (fun digits => Nat.ofDigitChars 10 digits 0) (encodeChars_inj _ _ same)
  rw [Nat.ofDigitChars_ten_toDigits, Nat.ofDigitChars_ten_toDigits] at digits
  exact digits

theorem decimal_filled (number : Nat) : decimal number ≠ [] := by
  intro empty
  exact Nat.toDigits_ne_nil (encodeChars_inj _ [] empty)

def opensAuth (rest : Bytes) : Bool :=
  ((ascii ": " ++ ascii "401" ++ ascii " ").isPrefixOf rest || (ascii ": " ++ ascii "403" ++ ascii " ").isPrefixOf rest) ||
    ((ascii ": " ++ ascii "unauthorized").isPrefixOf rest &&
      endsWord (rest.drop (ascii ": " ++ ascii "unauthorized").length))

theorem looksAuth_scan (text : Bytes) : looksAuth text = scan opensAuth text := by
  unfold looksAuth containsStatus containsWord opensAuth
  rw [scan_or, scan_or]

theorem word_marked (word : Bytes) : Marked (58 : UInt8) fun rest => (58 :: word).isPrefixOf rest := by
  intro letter rest other
  dsimp only
  rw [List.isPrefixOf_cons_cons, beq_eq_false_iff_ne.mpr other.symm, Bool.false_and]

theorem opensAuth_marked : Marked (58 : UInt8) opensAuth := by
  intro letter rest other
  have absent (word : Bytes) := word_marked word letter rest other
  have first : (ascii ": " ++ ascii "401" ++ ascii " ").isPrefixOf (letter :: rest) = false := absent (ascii " 401 ")
  have second : (ascii ": " ++ ascii "403" ++ ascii " ").isPrefixOf (letter :: rest) = false := absent (ascii " 403 ")
  have third : (ascii ": " ++ ascii "unauthorized").isPrefixOf (letter :: rest) = false := absent (ascii " unauthorized")
  rw [opensAuth, first, second, third]
  rfl

theorem looksAuth_plain (front back : Bytes) (plain : 58 ∉ front) : looksAuth (front ++ back) = looksAuth back := by
  rw [looksAuth_scan, looksAuth_scan]
  exact scan_plain opensAuth_marked front back plain

theorem prefix_apart (word text back : Bytes) (letter : UInt8) (inner : 58 ∉ word) :
    (58 :: word).isPrefixOf (letter :: text ++ 58 :: back) = (58 :: word).isPrefixOf (letter :: text) := by
  rw [List.cons_append, List.isPrefixOf_cons_cons, List.isPrefixOf_cons_cons, word_apart word text back 58 inner]

theorem opensAuth_apart (letter : UInt8) (text back : Bytes) (unfinished : letter :: text ≠ ascii ": unauthorized") :
    opensAuth (letter :: text ++ 58 :: back) = opensAuth (letter :: text) := by
  have first := prefix_apart (ascii " 401 ") text back letter (by decide)
  have second := prefix_apart (ascii " 403 ") text back letter (by decide)
  have third := prefix_apart (ascii " unauthorized") text back letter (by decide)
  have ends : (58 :: ascii " unauthorized").isPrefixOf (letter :: text) = true →
      endsWord ((letter :: text ++ 58 :: back).drop 14) = endsWord ((letter :: text).drop 14) := by
    intro begins
    obtain ⟨rest, whole⟩ := List.isPrefixOf_iff_prefix.mp begins
    have long : (58 :: ascii " unauthorized").length = 14 := by rfl
    rw [← whole, List.append_assoc, ← long, List.drop_left, List.drop_left]
    cases rest with
    | nil => exact absurd (whole.symm.trans (List.append_nil _)) unfinished
    | cons next others => rfl
  change ((58 :: ascii " 401 ").isPrefixOf _ || (58 :: ascii " 403 ").isPrefixOf _ ||
    ((58 :: ascii " unauthorized").isPrefixOf _ && endsWord (List.drop 14 _))) =
    ((58 :: ascii " 401 ").isPrefixOf _ || (58 :: ascii " 403 ").isPrefixOf _ ||
    ((58 :: ascii " unauthorized").isPrefixOf _ && endsWord (List.drop 14 _)))
  rw [first, second, third]
  cases begins : (58 :: ascii " unauthorized").isPrefixOf (letter :: text) with
  | false => rw [Bool.false_and, Bool.false_and]
  | true => rw [ends begins]

theorem looksAuth_split (front back : Bytes) (unfinished : ¬ ascii ": unauthorized" <:+ front) :
    looksAuth (front ++ 58 :: back) = (looksAuth front || looksAuth (58 :: back)) := by
  rw [looksAuth_scan, looksAuth_scan, looksAuth_scan]
  refine scan_apart front (58 :: back) fun letter rest tail => ?_
  exact opensAuth_apart letter rest back fun same => unfinished (by rw [← same]; exact tail)

theorem looksAuth_status (status : Nat) (body : Bytes) :
    looksAuth (ascii ": " ++ decimal status ++ ascii " " ++ body) =
      (decide (status = 401) || decide (status = 403) || looksAuth body) := by
  have blank : (32 : UInt8) ∉ decimal status := decimal_foreign status 32 (.inl (by decide))
  have coded (code : Nat) (digits : Bytes) (written : decimal code = digits) (plain : 32 ∉ digits) :
      (digits ++ [32]).isPrefixOf (decimal status ++ 32 :: body) = decide (status = code) := by
    rw [word_stopped digits (decimal status) body 32 plain blank, ← written]
    refine decide_eq_decide.mpr ⟨fun same => (decimal_inj _ _ same).symm, fun same => by rw [same]⟩
  have worded : (ascii "unauthorized").isPrefixOf (decimal status ++ 32 :: body) = false := by
    cases digits : decimal status with
    | nil => exact absurd digits (decimal_filled status)
    | cons digit others =>
        have range := decimal_digits status digit (by rw [digits]; exact List.mem_cons_self)
        have other : (117 : UInt8) ≠ digit := fun same => by
          rw [← same] at range
          exact absurd range.2 (by decide)
        change ((117 : UInt8) :: ascii "nauthorized").isPrefixOf (digit :: (others ++ 32 :: body)) = false
        rw [List.isPrefixOf_cons_cons, beq_eq_false_iff_ne.mpr other, Bool.false_and]
  have behind : scan opensAuth (decimal status ++ 32 :: body) = scan opensAuth body := by
    rw [scan_plain opensAuth_marked _ _ (decimal_foreign status 58 (.inr (by decide)))]
    exact scan_skip opensAuth_marked 32 body (by decide)
  have whole : ascii ": " ++ decimal status ++ ascii " " ++ body = 58 :: 32 :: (decimal status ++ 32 :: body) := by
    rw [show ascii ": " = [58, 32] by rfl, show ascii " " = [32] by rfl]
    simp
  have opens : opensAuth (58 :: 32 :: (decimal status ++ 32 :: body)) = (decide (status = 401) || decide (status = 403)) := by
    change ((ascii "401" ++ [32]).isPrefixOf (decimal status ++ 32 :: body) ||
      (ascii "403" ++ [32]).isPrefixOf (decimal status ++ 32 :: body) ||
      ((ascii "unauthorized").isPrefixOf (decimal status ++ 32 :: body) && _)) = _
    rw [coded 401 (ascii "401") (by rfl) (by decide), coded 403 (ascii "403") (by rfl) (by decide), worded,
      Bool.false_and, Bool.or_false]
  rw [whole, looksAuth_scan, looksAuth_scan, scan, opens, scan_skip opensAuth_marked 32 _ (by decide), behind]

def Response.refused (response : Response) : Prop := response.status = 401 ∨ response.status = 403

def Faithful (decode : Endpoint → Bytes → Option Bytes) (endpoint : Endpoint) (response : Response) : Prop :=
  match endpoint with
  | .claimCommand => response.status ≠ 403
  | .deregister => response.status ≠ 204 → (looksAuth (ascii ": " ++ response.body) ↔ response.refused)
  | .exchangeIdentity | .heartbeat | .postCommandEvent _ =>
      (response.status = 200 → ∀ text, decode endpoint response.body = some text → ¬ looksAuth text) ∧
        (response.status ∉ [200, 204, 401, 403, 410] → ¬ looksAuth endpoint.path ∧ ¬ looksAuth response.body)

section Errors

variable (decode : Endpoint → Bytes → Option Bytes)

theorem classifyConnErr_some (text : Bytes) : classifyConnErr (some text) = .auth ↔ looksAuth text = true := by
  rw [classifyConnErr]
  by_cases looks : looksAuth text = true
  · simp [looks]
  · simp [looks]

theorem path_ends (endpoint : Endpoint) : ∃ front letter, endpoint.path = front ++ [letter] ∧ letter ≠ (100 : UInt8) := by
  cases endpoint with
  | exchangeIdentity => exact ⟨ascii "/api/v1/agent/identit", 121, by rfl, by decide⟩
  | heartbeat => exact ⟨ascii "/api/v1/agent/heartbea", 116, by rfl, by decide⟩
  | claimCommand => exact ⟨ascii "/api/v1/agent/commands/clai", 109, by rfl, by decide⟩
  | postCommandEvent commandId =>
      refine ⟨ascii "/api/v1/commands/" ++ commandId ++ ascii "/event", 115, ?_, by decide⟩
      rw [List.append_assoc]
      rfl
  | deregister => exact ⟨ascii "/api/v1/agent/identit", 121, by rfl, by decide⟩

theorem path_unfinished (endpoint : Endpoint) : ¬ ascii ": unauthorized" <:+ ascii "POST " ++ endpoint.path := by
  rintro ⟨before, whole⟩
  obtain ⟨front, letter, ends, other⟩ := path_ends endpoint
  rw [ends, show ascii ": unauthorized" = ascii ": unauthorize" ++ [100] by rfl, ← List.append_assoc,
    ← List.append_assoc] at whole
  have last := (List.append_inj' whole rfl).2
  exact other (List.cons.inj last).1.symm

theorem looksAuth_request (endpoint : Endpoint) (back : Bytes) :
    looksAuth (ascii "POST " ++ endpoint.path ++ 58 :: back) = (looksAuth endpoint.path || looksAuth (58 :: back)) := by
  rw [looksAuth_split _ back (path_unfinished endpoint), looksAuth_plain (ascii "POST ") endpoint.path (by decide)]

theorem looksAuth_unauthorized (endpoint : Endpoint) :
    looksAuth (ascii "POST " ++ endpoint.path ++ ascii ": unauthorized") = true := by
  have found : looksAuth (58 :: ascii " unauthorized") = true := by decide +kernel
  rw [show ascii ": unauthorized" = 58 :: ascii " unauthorized" by rfl, looksAuth_request, found, Bool.or_true]

theorem looksAuth_answer (endpoint : Endpoint) (status : Nat) (body : Bytes) :
    looksAuth (ascii "POST " ++ endpoint.path ++ ascii ": " ++ decimal status ++ ascii " " ++ body) =
      (looksAuth endpoint.path || (decide (status = 401) || decide (status = 403) || looksAuth body)) := by
  have whole : ascii "POST " ++ endpoint.path ++ ascii ": " ++ decimal status ++ ascii " " ++ body =
      ascii "POST " ++ endpoint.path ++ 58 :: (32 :: (decimal status ++ ascii " " ++ body)) := by
    rw [show ascii ": " = [58, 32] by rfl]
    simp
  rw [whole, looksAuth_request, ← looksAuth_status status body, show ascii ": " = [58, 32] by rfl]
  simp

theorem doJSON_class (endpoint : Endpoint) (response : Response) :
    (classifyConnErr (Client.doJSON decode endpoint response) = .auth ↔ response.refused) ↔
      (response.status = 200 → ∀ text, decode endpoint response.body = some text → ¬ looksAuth text) ∧
        (response.status ∉ [200, 204, 401, 403, 410] → ¬ looksAuth endpoint.path ∧ ¬ looksAuth response.body) := by
  obtain ⟨status, body⟩ := response
  unfold Client.doJSON Response.refused
  dsimp only
  split
  · cases decode endpoint body with
    | none => simp [classifyConnErr]
    | some text => simp [classifyConnErr_some]
  · simp [classifyConnErr]
  · rw [classifyConnErr_some, looksAuth_unauthorized]
    simp
  · have plain : looksAuth errStaleClaim = false := by decide +kernel
    simp [classifyConnErr_some, plain]
  · rename_i decoded empty unauthorized gone
    rw [classifyConnErr_some, looksAuth_answer]
    by_cases forbidden : status = 403
    · simp [forbidden]
    · have others : status ≠ 200 ∧ status ≠ 204 ∧ status ≠ 401 ∧ status ≠ 410 := ⟨decoded, empty, unauthorized, gone⟩
      simp [forbidden, others]

theorem looksAuth_unexpected (before : Bytes) (status : Nat) (back : Bytes) (plain : 58 ∉ before) :
    looksAuth (before ++ 58 :: (ascii " unexpected status " ++ decimal status ++ back)) = looksAuth back := by
  have skipped : 58 ∉ ascii " unexpected status " ++ decimal status := by
    rw [List.mem_append, not_or]
    exact ⟨by decide, decimal_foreign status 58 (.inr (by decide))⟩
  have closed : opensAuth (58 :: (ascii " unexpected status " ++ decimal status ++ back)) = false := by rfl
  rw [looksAuth_plain before _ plain, looksAuth_scan, looksAuth_scan, scan, closed, Bool.false_or,
    scan_plain opensAuth_marked _ back skipped]

theorem claimCommand_class (response : Response) :
    (classifyConnErr (Client.claimCommand response) = .auth ↔ response.refused) ↔ response.status ≠ 403 := by
  obtain ⟨status, body⟩ := response
  unfold Client.claimCommand Response.refused
  dsimp only
  split
  · simp [classifyConnErr]
  · have plain : looksAuth errNoCommand = false := by decide +kernel
    simp [classifyConnErr_some, plain]
  · have found : looksAuth (ascii "claim: unauthorized") = true := by decide +kernel
    simp [classifyConnErr_some, found]
  · rename_i decoded empty unauthorized
    have plain : looksAuth (ascii "claim: unexpected status " ++ decimal status) = false := by
      have same := looksAuth_unexpected (ascii "claim") status [] (by decide)
      rw [List.append_nil] at same
      exact same
    have other : status ≠ 401 := unauthorized
    simp [classifyConnErr_some, plain, other]

theorem deregister_class (response : Response) :
    (classifyConnErr (Client.deregister response) = .auth ↔ response.refused) ↔
      (response.status ≠ 204 → (looksAuth (ascii ": " ++ response.body) ↔ response.refused)) := by
  obtain ⟨status, body⟩ := response
  unfold Client.deregister
  by_cases finished : status = 204
  · simp [classifyConnErr, Response.refused, finished]
  · have whole : ascii "deregister: unexpected status " ++ decimal status ++ ascii ": " ++ body =
        ascii "deregister" ++ 58 :: (ascii " unexpected status " ++ decimal status ++ (ascii ": " ++ body)) := by
      rw [show ascii "deregister: unexpected status " =
        ascii "deregister" ++ 58 :: ascii " unexpected status " by rfl]
      simp only [List.append_assoc, List.cons_append]
    rw [if_pos finished, classifyConnErr_some, whole, looksAuth_unexpected _ status _ (by decide)]
    simp [finished]

theorem classifyConnErr_faithful (endpoint : Endpoint) (response : Response) :
    (classifyConnErr (endpoint.error decode response) = .auth ↔ response.refused) ↔
      Faithful decode endpoint response := by
  cases endpoint with
  | exchangeIdentity => exact doJSON_class decode .exchangeIdentity response
  | heartbeat => exact doJSON_class decode .heartbeat response
  | claimCommand => exact claimCommand_class response
  | postCommandEvent commandId => exact doJSON_class decode (.postCommandEvent commandId) response
  | deregister => exact deregister_class response

-- A bearer that the claim endpoint forbids is not told from a broken network.
theorem forbidden_claim :
    ¬ ∀ (decode : Endpoint → Bytes → Option Bytes) (endpoint : Endpoint) (response : Response),
      classifyConnErr (endpoint.error decode response) = .auth ↔ response.refused := by
  intro always
  have told := (always (fun _ _ => none) .claimCommand { status := 403, body := [] }).mpr (.inr rfl)
  exact absurd told (by decide +kernel)

end Errors

end Yaaos.Agent
