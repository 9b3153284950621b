import Mathlib.Data.List.Basic
import Mathlib.Data.List.TakeDrop
import Mathlib.Tactic.IntervalCases

set_option autoImplicit false

namespace Yaaos.Base

-- Row and command identifiers are uuid7s. They are compared and ordered as
-- numbers; the 128-bit bound matters only where one is written out as text.
abbrev Uuid := Nat

abbrev Dict (α : Type) := List (String × α)

inductive Json where
  | null
  | bool (value : Bool)
  | num (mantissa : Int) (exponent : Nat)
  | str (text : String)
  | arr (items : List Json)
  | obj (fields : List (String × Json))

def Json.truthy : Json → Bool
  | .null => false
  | .bool value => value
  | .num mantissa _ => decide (mantissa ≠ 0)
  | .str text => decide (text ≠ "")
  | .arr items => !items.isEmpty
  | .obj fields => !fields.isEmpty

def storableText (text : String) : Bool := text.toList.all fun letter => letter ≠ '\x00'

mutual

def Json.storable : Json → Bool
  | .str text => storableText text
  | .arr items => storableItems items
  | .obj fields => storableFields fields
  | _ => true

def storableItems : List Json → Bool
  | [] => true
  | item :: rest => item.storable && storableItems rest

def storableFields : Dict Json → Bool
  | [] => true
  | (key, value) :: rest => storableText key && value.storable && storableFields rest

end

namespace Dict

variable {α : Type}

def keys (dict : Dict α) : List String := dict.map Prod.fst

def merge (left right : Dict α) : Dict α :=
  left.map (fun entry => (entry.1, (right.lookup entry.1).getD entry.2)) ++
    right.filter fun entry => !(keys left).contains entry.1

def set (dict : Dict α) (key : String) (value : α) : Dict α := merge dict [(key, value)]

def without (dict : Dict α) (dropped : List String) : Dict α :=
  dict.filter fun entry => !dropped.contains entry.1

theorem lookup_map_values (dict : Dict α) (change : String → α → α) (key : String) :
    (dict.map fun entry => (entry.1, change entry.1 entry.2)).lookup key = (dict.lookup key).map (change key) := by
  induction dict with
  | nil => rfl
  | cons entry rest ih =>
      obtain ⟨name, value⟩ := entry
      by_cases same : key = name
      · subst same
        simp
      · have different : (key == name) = false := by simpa using same
        simp only [List.map_cons, List.lookup_cons, different, ih]

theorem lookup_filter_keys (dict : Dict α) (kept : String → Bool) (key : String) :
    (dict.filter fun entry => kept entry.1).lookup key = if kept key then dict.lookup key else none := by
  induction dict with
  | nil => simp
  | cons entry rest ih =>
      obtain ⟨name, value⟩ := entry
      by_cases same : key = name
      · subst same
        cases holds : kept key with
        | true => simp [holds]
        | false => simp [holds, ih]
      · have different : (key == name) = false := by simpa using same
        cases holds : kept name with
        | true => simp only [List.filter_cons, holds, if_true, List.lookup_cons, different, ih]
        | false => simp only [List.filter_cons, holds, Bool.false_eq_true, if_false, List.lookup_cons, different, ih]

theorem lookup_isSome_iff (dict : Dict α) (key : String) : (dict.lookup key).isSome ↔ key ∈ keys dict := by
  induction dict with
  | nil => simp [keys]
  | cons entry rest ih =>
      obtain ⟨name, value⟩ := entry
      by_cases same : key = name
      · subst same
        simp [keys]
      · have different : (key == name) = false := by simpa using same
        simp only [keys] at ih
        simp only [List.lookup_cons, different, keys, List.map_cons, List.mem_cons, same, false_or, ih]

theorem lookup_merge (left right : Dict α) (key : String) :
    (merge left right).lookup key = (right.lookup key).or (left.lookup key) := by
  rw [merge, List.lookup_append, lookup_map_values left (fun name value => (right.lookup name).getD value),
    lookup_filter_keys right (fun name => !(keys left).contains name)]
  have stored := lookup_isSome_iff left key
  cases found : left.lookup key with
  | none =>
      have absent : key ∉ keys left := by simpa [found] using stored
      cases other : right.lookup key <;> simp [absent]
  | some value =>
      have present : key ∈ keys left := by simpa [found] using stored
      cases other : right.lookup key <;> simp [present]

theorem lookup_without (dict : Dict α) (dropped : List String) (key : String) :
    (without dict dropped).lookup key = if dropped.contains key then none else dict.lookup key := by
  rw [without, lookup_filter_keys dict (fun name => !dropped.contains name)]
  cases dropped.contains key <;> rfl

end Dict

def hexDigits : Nat → Nat → List Nat
  | 0, _ => []
  | width + 1, value => value % 16 :: hexDigits width (value / 16)

def hexValue : List Nat → Nat
  | [] => 0
  | digit :: rest => digit + 16 * hexValue rest

theorem hexDigits_length (width value : Nat) : (hexDigits width value).length = width := by
  induction width generalizing value with
  | zero => rfl
  | succ width ih => simp [hexDigits, ih]

theorem hexDigits_lt (width value digit : Nat) (member : digit ∈ hexDigits width value) : digit < 16 := by
  induction width generalizing value with
  | zero => simp [hexDigits] at member
  | succ width ih =>
      rcases List.mem_cons.mp member with first | later
      · omega
      · exact ih (value / 16) later

theorem hexValue_hexDigits (width value : Nat) (bound : value < 16 ^ width) :
    hexValue (hexDigits width value) = value := by
  induction width generalizing value with
  | zero =>
      simp only [pow_zero] at bound
      simp only [hexDigits, hexValue]
      omega
  | succ width ih =>
      have smaller : value / 16 < 16 ^ width := by
        rw [pow_succ] at bound
        omega
      rw [hexDigits, hexValue, ih (value / 16) smaller]
      omega

def hexChar (digit : Nat) : Char := Char.ofNat (if digit < 10 then 48 + digit else 87 + digit)

def hexDigit? (letter : Char) : Option Nat :=
  let code := letter.toNat
  if 48 ≤ code ∧ code ≤ 57 then some (code - 48)
  else if 97 ≤ code ∧ code ≤ 102 then some (code - 87)
  else if 65 ≤ code ∧ code ≤ 70 then some (code - 55)
  else none

theorem hexDigit_hexChar (digit : Nat) (bound : digit < 16) : hexDigit? (hexChar digit) = some digit := by
  interval_cases digit <;> rfl

theorem hexChar_ne_hyphen (digit : Nat) (bound : digit < 16) : hexChar digit ≠ '-' := by
  interval_cases digit <;> decide

theorem mapM_hexDigit (digits : List Nat) (bounded : ∀ digit ∈ digits, digit < 16) :
    (digits.map hexChar).mapM hexDigit? = some digits := by
  induction digits with
  | nil => rfl
  | cons digit rest ih =>
      have first := hexDigit_hexChar digit (bounded digit (by simp))
      have later := ih fun other member => bounded other (by simp [member])
      simp [List.mapM_cons, first, later]

def hyphenate (letters : List Char) : List Char :=
  letters.take 8 ++ '-' :: ((letters.drop 8).take 4 ++ '-' :: ((letters.drop 12).take 4 ++
    '-' :: ((letters.drop 16).take 4 ++ '-' :: letters.drop 20)))

def uuidText (id : Uuid) : String :=
  String.ofList (hyphenate ((hexDigits 32 id).map hexChar).reverse)

def parseUuid (text : String) : Option Uuid :=
  let letters := text.toList.filter fun letter => letter ≠ '-'
  if letters.length = 32 then (letters.reverse.mapM hexDigit?).map hexValue else none

theorem filter_hyphenate (letters : List Char) (clean : ∀ letter ∈ letters, letter ≠ '-') :
    (hyphenate letters).filter (fun letter => letter ≠ '-') = letters := by
  have keeps : ∀ part : List Char, part ⊆ letters → part.filter (fun letter => letter ≠ '-') = part := by
    intro part included
    rw [List.filter_eq_self]
    intro letter member
    simpa using clean letter (included member)
  have first := keeps (letters.take 8) (List.take_subset 8 letters)
  have second := keeps ((letters.drop 8).take 4) (fun _ member => List.drop_subset 8 letters (List.take_subset 4 _ member))
  have third := keeps ((letters.drop 12).take 4) (fun _ member => List.drop_subset 12 letters (List.take_subset 4 _ member))
  have fourth := keeps ((letters.drop 16).take 4) (fun _ member => List.drop_subset 16 letters (List.take_subset 4 _ member))
  have fifth := keeps (letters.drop 20) (List.drop_subset 20 letters)
  have glue : ∀ skip, (letters.drop skip).take 4 ++ letters.drop (skip + 4) = letters.drop skip := by
    intro skip
    rw [← List.drop_drop]
    exact List.take_append_drop 4 (letters.drop skip)
  simp only [hyphenate, List.filter_append, List.filter_cons, first, second, third, fourth, fifth, ne_eq,
    not_true_eq_false, decide_false, Bool.false_eq_true, if_false]
  rw [glue 16, glue 12, glue 8]
  exact List.take_append_drop 8 letters

theorem parseUuid_uuidText (id : Uuid) (bound : id < 2 ^ 128) : parseUuid (uuidText id) = some id := by
  have digits : ∀ digit ∈ hexDigits 32 id, digit < 16 := fun digit => hexDigits_lt 32 id digit
  have clean : ∀ letter ∈ ((hexDigits 32 id).map hexChar).reverse, letter ≠ '-' := by
    intro letter member
    simp only [List.mem_reverse, List.mem_map] at member
    obtain ⟨digit, present, rfl⟩ := member
    exact hexChar_ne_hyphen digit (digits digit present)
  have size : ((hexDigits 32 id).map hexChar).reverse.length = 32 := by
    simp [hexDigits_length]
  rw [parseUuid, uuidText, String.toList_ofList]
  simp only [filter_hyphenate _ clean]
  rw [if_pos size, List.reverse_reverse, mapM_hexDigit _ digits, Option.map_some,
    hexValue_hexDigits 32 id (by simpa using bound)]

theorem uuidText_injective (left right : Uuid) (leftBound : left < 2 ^ 128) (rightBound : right < 2 ^ 128)
    (same : uuidText left = uuidText right) : left = right := by
  have parsed := parseUuid_uuidText left leftBound
  rw [same, parseUuid_uuidText right rightBound] at parsed
  exact (Option.some.inj parsed).symm

def uuidExtractVersion (id : Uuid) : Option Nat :=
  if id / 2 ^ 62 % 4 = 2 then some (id / 2 ^ 76 % 16) else none

def uuidv7Check (id : Uuid) : Bool :=
  match uuidExtractVersion id with
  | none => true
  | some version => version == 7

end Yaaos.Base
