import Yaaos.Base.Json

set_option autoImplicit false

namespace Yaaos.Base

-- One minute of UTC, and a moment within it.
structure Minute where
  year : Fin 10000
  month : Fin 13
  day : Fin 32
  hour : Fin 24
  minute : Fin 60
  deriving DecidableEq

structure DateTime where
  slot : Minute
  second : Fin 60
  microsecond : Fin 1000000
  deriving DecidableEq

def isLeap (year : Nat) : Bool := year % 4 = 0 && (year % 100 ≠ 0 || year % 400 = 0)

def daysInMonth (year month : Nat) : Nat :=
  if month = 2 then if isLeap year then 29 else 28
  else if month = 4 ∨ month = 6 ∨ month = 9 ∨ month = 11 then 30
  else 31

def Minute.toOrdinal (slot : Minute) : Nat :=
  let before := slot.year.val - 1
  before * 365 + before / 4 - before / 100 + before / 400 +
    ((List.range slot.month).filterMap fun month => if month = 0 then none else some (daysInMonth slot.year month)).sum +
    slot.day

def Minute.weekday (slot : Minute) : Nat := (slot.toOrdinal + 6) % 7

def digit (value : Nat) : Char := Char.ofNat (48 + value)

def twoDigits (value : Nat) : List Char := [digit (value / 10), digit (value % 10)]

def fourDigits (value : Nat) : List Char := twoDigits (value / 100) ++ twoDigits (value % 100)

def Minute.isoLetters (slot : Minute) : List Char :=
  fourDigits slot.year ++ '-' :: (twoDigits slot.month ++ '-' :: (twoDigits slot.day ++ 'T' ::
    (twoDigits slot.hour ++ ':' :: (twoDigits slot.minute ++ ":00+00:00".toList))))

theorem digit_injective (left right : Nat) (leftBound : left < 10) (rightBound : right < 10)
    (same : digit left = digit right) : left = right := by
  have all : ∀ left right : Fin 10, digit left = digit right → left = right := by decide
  exact congrArg Fin.val (all ⟨left, leftBound⟩ ⟨right, rightBound⟩ same)

theorem twoDigits_injective (left right : Nat) (leftBound : left < 100) (rightBound : right < 100)
    (same : twoDigits left = twoDigits right) : left = right := by
  simp only [twoDigits, List.cons.injEq, and_true] at same
  have tens := digit_injective _ _ (by omega) (by omega) same.1
  have ones := digit_injective _ _ (by omega) (by omega) same.2
  omega

theorem fourDigits_injective (left right : Nat) (leftBound : left < 10000) (rightBound : right < 10000)
    (same : fourDigits left = fourDigits right) : left = right := by
  obtain ⟨high, low⟩ := List.append_inj same rfl
  have hundreds := twoDigits_injective _ _ (by omega) (by omega) high
  have rest := twoDigits_injective _ _ (by omega) (by omega) low
  omega

theorem isoLetters_injective (left right : Minute) (same : left.isoLetters = right.isoLetters) : left = right := by
  obtain ⟨year, rest⟩ := List.append_inj same rfl
  obtain ⟨month, rest⟩ := List.append_inj (List.cons.inj rest).2 rfl
  obtain ⟨day, rest⟩ := List.append_inj (List.cons.inj rest).2 rfl
  obtain ⟨hour, rest⟩ := List.append_inj (List.cons.inj rest).2 rfl
  obtain ⟨minute, _⟩ := List.append_inj (List.cons.inj rest).2 rfl
  cases left
  cases right
  have hundred {bound : Nat} (value : Fin bound) (small : bound ≤ 100) : value.val < 100 :=
    Nat.lt_of_lt_of_le value.isLt small
  rw [Minute.mk.injEq]
  refine ⟨Fin.ext (fourDigits_injective _ _ (Fin.isLt _) (Fin.isLt _) year), Fin.ext ?_, Fin.ext ?_, Fin.ext ?_,
    Fin.ext ?_⟩
  · exact twoDigits_injective _ _ (hundred _ (by decide)) (hundred _ (by decide)) month
  · exact twoDigits_injective _ _ (hundred _ (by decide)) (hundred _ (by decide)) day
  · exact twoDigits_injective _ _ (hundred _ (by decide)) (hundred _ (by decide)) hour
  · exact twoDigits_injective _ _ (hundred _ (by decide)) (hundred _ (by decide)) minute

def minuteKey (id : Fin (2 ^ 128)) (slot : Minute) : String :=
  String.ofList ((uuidText id.val).toList ++ ':' :: slot.isoLetters)

theorem uuidText_length (id : Uuid) : (uuidText id).toList.length = 36 := by
  simp [uuidText, hyphenate, hexDigits_length]

theorem minuteKey_injective (left right : Fin (2 ^ 128)) (leftSlot rightSlot : Minute)
    (same : minuteKey left leftSlot = minuteKey right rightSlot) : left = right ∧ leftSlot = rightSlot := by
  have letters := String.ofList_injective same
  obtain ⟨ids, rest⟩ := List.append_inj letters (by rw [uuidText_length, uuidText_length])
  refine ⟨Fin.ext (uuidText_injective _ _ left.isLt right.isLt (String.toList_inj.mp ids)), ?_⟩
  exact isoLetters_injective leftSlot rightSlot (List.cons.inj rest).2

end Yaaos.Base
