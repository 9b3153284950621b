import Yaaos.Base.PyValue

set_option autoImplicit false

namespace Yaaos.Base

namespace Toml

structure Document where
  root : List (PyText × PyText)
  tables : List (PyText × List (PyText × PyText))
  deriving DecidableEq

def isBareKey (letter : Nat) : Bool :=
  (48 ≤ letter && letter ≤ 57) || (65 ≤ letter && letter ≤ 90) || (97 ≤ letter && letter ≤ 122) || letter == 45 || letter == 95

def isControl (letter : Nat) : Bool := letter < 32 || letter == 127

def isScalar (letter : Nat) : Bool := letter < 1114112 && !isSurrogate letter

-- What may stand in a string as it is. A tab may, and a line feed between three quotes.
def isLegal (multiline : Bool) (letter : Nat) : Bool :=
  !isControl letter || letter == 9 || (multiline && letter == 10)

def isBlank (letter : Nat) : Bool := letter == 32 || letter == 9

def isBreak (letter : Nat) : Bool := isBlank letter || letter == 10

def hexDigit? (letter : Nat) : Option Nat :=
  if 48 ≤ letter ∧ letter ≤ 57 then some (letter - 48)
  else if 65 ≤ letter ∧ letter ≤ 70 then some (letter - 55)
  else if 97 ≤ letter ∧ letter ≤ 102 then some (letter - 87) else none

def readHex (width : Nat) (source : PyText) : Option (PyText × PyText) := do
  if source.length < width then none
  else
    let digits ← (source.take width).mapM hexDigit?
    let letter := digits.foldl (fun value digit => 16 * value + digit) 0
    if isScalar letter then some ([letter], source.drop width) else none

def readEscape (multiline : Bool) : PyText → Option (PyText × PyText)
  | [] => none
  | letter :: rest =>
      if multiline && isBreak letter then
        match (letter :: rest).dropWhile isBlank with
        | [] => some ([], [])
        | first :: rest => if first = 10 then some ([], rest.dropWhile isBreak) else none
      else if letter = 117 then readHex 4 rest
      else if letter = 85 then readHex 8 rest
      else ([(98, 8), (116, 9), (110, 10), (102, 12), (114, 13), (34, 34), (92, 92)].lookup letter).map fun meant =>
        ([meant], rest)

def readBasic (multiline : Bool) : Nat → PyText → Option (PyText × PyText)
  | 0, _ => none
  | _, [] => none
  | fuel + 1, letter :: rest =>
      if letter = 34 then
        if !multiline then some ([], rest)
        else if rest.take 2 = [34, 34] then some ([], rest.drop 2)
        else (readBasic multiline fuel rest).map fun read => (34 :: read.1, read.2)
      else if letter = 92 then
        (readEscape multiline rest).bind fun escape =>
          (readBasic multiline fuel escape.2).map fun read => (escape.1 ++ read.1, read.2)
      else if isLegal multiline letter then (readBasic multiline fuel rest).map fun read => (letter :: read.1, read.2)
      else none

def closing (read : PyText × PyText) : PyText × PyText :=
  let more := (read.2.take 2).takeWhile (· == 34)
  (read.1 ++ more, read.2.drop more.length)

def readValue (source : PyText) : Option (PyText × PyText) :=
  if source.take 3 = [34, 34, 34] then
    let body := source.drop 3
    let body := if body.head? = some 10 then body.tail else body
    (readBasic true body.length body).map closing
  else match source with
    | 34 :: body => readBasic false body.length body
    | _ => none

def skipComment (source : PyText) : Option PyText :=
  match source with
  | 35 :: comment =>
      if (comment.takeWhile (· ≠ 10)).all (isLegal false) then some (comment.dropWhile (· ≠ 10)) else none
  | _ => some source

def endLine (source : PyText) : Option PyText :=
  (skipComment (source.dropWhile isBlank)).bind fun rest =>
    match rest with
    | [] => some []
    | 10 :: rest => some rest
    | _ => none

def readPair (source : PyText) : Option ((PyText × PyText) × PyText) :=
  let key := source.takeWhile isBareKey
  match (source.dropWhile isBareKey).dropWhile isBlank with
  | 61 :: rest =>
      if key = [] then none
      else (readValue (rest.dropWhile isBlank)).map fun read => ((key, read.1), read.2)
  | _ => none

def readHeader (source : PyText) : Option (PyText × PyText) :=
  let inner := source.dropWhile isBlank
  let key := inner.takeWhile isBareKey
  match (inner.dropWhile isBareKey).dropWhile isBlank with
  | 93 :: rest => if key = [] then none else some (key, rest)
  | _ => none

def insertPair (pair : PyText × PyText) (pairs : List (PyText × PyText)) : Option (List (PyText × PyText)) :=
  if pairs.any (fun other => other.1 = pair.1) then none else some (pairs ++ [pair])

def Document.put (document : Document) (pair : PyText × PyText) : Option Document :=
  match document.tables.getLast? with
  | none => (insertPair pair document.root).map fun pairs => { document with root := pairs }
  | some table => (insertPair pair table.2).map fun pairs =>
      { document with tables := document.tables.dropLast ++ [(table.1, pairs)] }

def Document.open (document : Document) (name : PyText) : Option Document :=
  if document.root.any (fun pair => pair.1 = name) || document.tables.any (fun table => table.1 = name) then none
  else some { document with tables := document.tables ++ [(name, [])] }

-- The statements of a document whose values are basic strings and whose keys are bare.
def readLines : Nat → Document → PyText → Option Document
  | 0, _, _ => none
  | fuel + 1, document, source =>
      match source.dropWhile isBlank with
      | [] => some document
      | first :: rest =>
          if first = 10 then readLines fuel document rest
          else if first = 35 then (endLine (first :: rest)).bind (readLines fuel document)
          else if first = 91 then
            (readHeader rest).bind fun header => (document.open header.1).bind fun opened =>
              (endLine header.2).bind (readLines fuel opened)
          else
            (readPair (first :: rest)).bind fun pair => (document.put pair.1).bind fun grown =>
              (endLine pair.2).bind (readLines fuel grown)

def foldBreaks : PyText → PyText
  | [] => []
  | [letter] => [letter]
  | letter :: next :: rest =>
      if letter = 13 ∧ next = 10 then 10 :: foldBreaks rest else letter :: foldBreaks (next :: rest)

def loads (source : PyText) : Option Document :=
  if source.all isScalar then
    let source := foldBreaks source
    readLines (source.length + 1) { root := [], tables := [] } source
  else none

section Strings

variable (multiline : Bool)

def Spells (letter : Nat) (spelling : PyText) : Prop := ∀ fuel rest,
  readBasic multiline (fuel + 1) (spelling ++ rest) =
    (readBasic multiline fuel rest).map fun read => (letter :: read.1, read.2)

def Spoils (spelling : PyText) : Prop := ∀ fuel rest, readBasic multiline fuel (spelling ++ rest) = none

theorem plain_spells (letter : Nat) (legal : isLegal multiline letter = true) (quote : letter ≠ 34) (slash : letter ≠ 92) :
    Spells multiline letter [letter] := by
  intro fuel rest
  rw [List.singleton_append, readBasic, if_neg quote, if_neg slash, if_pos legal]

theorem illegal_spoils (letter : Nat) (illegal : isLegal multiline letter ≠ true) (quote : letter ≠ 34) (slash : letter ≠ 92) :
    Spoils multiline [letter] := by
  intro fuel rest
  cases fuel with
  | zero => rw [readBasic]
  | succ fuel => rw [List.singleton_append, readBasic, if_neg quote, if_neg slash, if_neg illegal]

theorem escape_spells (letter spelling : Nat)
    (meant : ∀ rest, readEscape multiline (spelling :: rest) = some ([letter], rest)) :
    Spells multiline letter [92, spelling] := by
  intro fuel rest
  rw [List.cons_append, List.singleton_append, readBasic, if_neg (by decide), if_pos rfl, meant, Option.bind_some]
  rfl

theorem readBasic_spelled (spell : Nat → PyText) (letters rest : PyText) (fuel : Nat)
    (spelled : ∀ letter ∈ letters, Spells multiline letter (spell letter)) :
    readBasic multiline (fuel + letters.length) (letters.flatMap spell ++ rest) =
      (readBasic multiline fuel rest).map fun read => (letters ++ read.1, read.2) := by
  induction letters with
  | nil =>
      cases read : readBasic multiline fuel rest <;> simp [read]
  | cons letter letters ih =>
      rw [List.flatMap_cons, List.append_assoc, List.length_cons, ← Nat.add_assoc, spelled letter List.mem_cons_self,
        ih fun other member => spelled other (List.mem_cons_of_mem _ member), Option.map_map]
      rfl

theorem readBasic_spoiled (spell : Nat → PyText) (letters rest : PyText) (fuel : Nat)
    (either : ∀ letter ∈ letters, Spells multiline letter (spell letter) ∨ Spoils multiline (spell letter))
    (spoils : ∃ letter ∈ letters, Spoils multiline (spell letter)) :
    readBasic multiline fuel (letters.flatMap spell ++ rest) = none := by
  induction letters generalizing fuel with
  | nil =>
      obtain ⟨letter, member, _⟩ := spoils
      cases member
  | cons letter letters ih =>
      rw [List.flatMap_cons, List.append_assoc]
      cases either letter List.mem_cons_self with
      | inr spoiled => exact spoiled fuel _
      | inl spelled =>
          cases fuel with
          | zero => rw [readBasic]
          | succ fuel =>
              rw [spelled, Option.map_eq_none_iff]
              obtain ⟨other, member, spoiled⟩ := spoils
              cases List.mem_cons.mp member with
              | inl first =>
                  have stopped := spoiled (fuel + 1) (letters.flatMap spell ++ rest)
                  rw [first, spelled, Option.map_eq_none_iff] at stopped
                  exact stopped
              | inr later =>
                  exact ih fuel (fun other member => either other (List.mem_cons_of_mem _ member))
                    ⟨other, later, spoiled⟩

end Strings

theorem foldBreaks_plain (letters rest : PyText) (plain : ∀ letter ∈ letters, letter ≠ 13) :
    foldBreaks (letters ++ rest) = letters ++ foldBreaks rest := by
  induction letters with
  | nil => rfl
  | cons letter letters ih =>
      have later := ih fun other member => plain other (List.mem_cons_of_mem _ member)
      have first := plain letter List.mem_cons_self
      rw [List.cons_append, List.cons_append, ← later]
      cases letters ++ rest with
      | nil => rfl
      | cons next others => rw [foldBreaks, if_neg fun both => first both.1]

theorem foldBreaks_same (letters : PyText) (plain : ∀ letter ∈ letters, letter ≠ 13) : foldBreaks letters = letters := by
  have folded := foldBreaks_plain letters [] plain
  rwa [List.append_nil, foldBreaks, List.append_nil] at folded

theorem foldBreaks_carriage (next : Nat) (rest : PyText) (apart : next ≠ 10) :
    foldBreaks (13 :: next :: rest) = 13 :: foldBreaks (next :: rest) := by
  rw [foldBreaks, if_neg fun both => apart both.2]

theorem foldBreaks_keeps (letters : PyText) (letter : Nat) (member : letter ∈ letters) (other : letter ≠ 13) :
    letter ∈ foldBreaks letters := by
  induction letters using foldBreaks.induct with
  | case1 => cases member
  | case2 => exact member
  | case3 first next rest crlf ih =>
      rw [foldBreaks, if_pos crlf]
      rcases List.mem_cons.mp member with rfl | later
      · exact absurd crlf.1 other
      · rcases List.mem_cons.mp later with rfl | later
        · rw [crlf.2]
          exact List.mem_cons_self
        · exact List.mem_cons_of_mem _ (ih later)
  | case4 first next rest apart ih =>
      rw [foldBreaks, if_neg apart]
      rcases List.mem_cons.mp member with rfl | later
      · exact List.mem_cons_self
      · exact List.mem_cons_of_mem _ (ih later)

theorem readPair_bare (key value : PyText) (bare : ∀ letter ∈ key, isBareKey letter = true) (filled : key ≠ [])
    (shown : value.dropWhile isBlank = value) : readPair (key ++ 32 :: 61 :: 32 :: value) =
      (readValue value).map fun read => ((key, read.1), read.2) := by
  have taken : (key ++ 32 :: 61 :: 32 :: value).takeWhile isBareKey = key := by
    rw [List.takeWhile_append_of_pos bare, List.takeWhile_cons_of_neg (by decide), List.append_nil]
  have dropped : (key ++ 32 :: 61 :: 32 :: value).dropWhile isBareKey = 32 :: 61 :: 32 :: value := by
    rw [List.dropWhile_append_of_pos bare, List.dropWhile_cons_of_neg (by decide)]
  rw [readPair, taken, dropped, List.dropWhile_cons_of_pos (by decide), List.dropWhile_cons_of_neg (by decide)]
  change (if key = [] then none else
    (readValue ((32 :: value).dropWhile isBlank)).map fun read => ((key, read.1), read.2)) = _
  rw [if_neg filled, List.dropWhile_cons_of_pos (by decide), shown]

theorem readLines_pair (fuel : Nat) (document : Document) (key value : PyText) (bare : ∀ letter ∈ key, isBareKey letter = true)
    (filled : key ≠ []) (shown : value.dropWhile isBlank = value) :
    readLines (fuel + 1) document (key ++ 32 :: 61 :: 32 :: value) =
      (readValue value).bind fun read => (document.put (key, read.1)).bind fun grown =>
        (endLine read.2).bind (readLines fuel grown) := by
  have pair := readPair_bare key value bare filled shown
  cases key with
  | nil => exact absurd rfl filled
  | cons first letters =>
      have letter := bare first List.mem_cons_self
      have apart (other : Nat) (foreign : isBareKey other = false) : first ≠ other := by
        rintro rfl
        rw [foreign] at letter
        cases letter
      have dark : isBlank first ≠ true := by
        intro blank
        rw [isBlank, Bool.or_eq_true, beq_iff_eq, beq_iff_eq] at blank
        cases blank with
        | inl space => exact apart 32 rfl space
        | inr tab => exact apart 9 rfl tab
      rw [List.cons_append] at pair ⊢
      rw [readLines, List.dropWhile_cons_of_neg dark]
      dsimp only
      rw [if_neg (apart 10 rfl), if_neg (apart 35 rfl), if_neg (apart 91 rfl), pair, Option.bind_map]
      rfl

end Toml

end Yaaos.Base
