import Mathlib.Data.List.Basic

set_option autoImplicit false

namespace Yaaos.Base

abbrev Bytes : Type := List UInt8

def encodeChars (chars : List Char) : Bytes := chars.flatMap String.utf8EncodeChar

def ValidUtf8 (bytes : Bytes) : Prop := ∃ chars, bytes = encodeChars chars

def decodeRune (bytes : Bytes) : Option Char := bytes.toByteArray.utf8DecodeChar? 0

-- The characters of a string, with `none` for a byte that is part of none.
def runesUpTo : Nat → Bytes → List (Option Char)
  | 0, _ => []
  | _ + 1, [] => []
  | fuel + 1, byte :: rest =>
    match decodeRune (byte :: rest) with
    | some char => some char :: runesUpTo fuel ((byte :: rest).drop char.utf8Size)
    | none => none :: runesUpTo fuel rest

def runes (bytes : Bytes) : List (Option Char) := runesUpTo bytes.length bytes

def repaired (rune : Option Char) : Char := rune.getD '\uFFFD'

def sanitize (bytes : Bytes) : Bytes := encodeChars ((runes bytes).map repaired)

theorem encodeChars_cons (char : Char) (rest : List Char) :
    encodeChars (char :: rest) = String.utf8EncodeChar char ++ encodeChars rest := List.flatMap_cons

theorem encodeChars_append (left right : List Char) :
    encodeChars (left ++ right) = encodeChars left ++ encodeChars right := List.flatMap_append

theorem decodeRune_encoded (char : Char) (rest : Bytes) :
    decodeRune (String.utf8EncodeChar char ++ rest) = some char := by
  rw [decodeRune, List.toByteArray_append]
  exact ByteArray.utf8DecodeChar?_utf8EncodeChar_append

theorem runesUpTo_encoded (chars : List Char) (fuel : Nat) (enough : (encodeChars chars).length ≤ fuel) :
    runesUpTo fuel (encodeChars chars) = chars.map some := by
  induction chars generalizing fuel with
  | nil => cases fuel <;> rfl
  | cons char rest ih =>
      rw [encodeChars_cons] at enough ⊢
      have decoded := decodeRune_encoded char (encodeChars rest)
      have width := String.length_utf8EncodeChar char
      have positive := char.utf8Size_pos
      rw [List.length_append] at enough
      cases encoded : String.utf8EncodeChar char with
      | nil =>
          rw [encoded] at width
          exact absurd width.symm (Nat.ne_of_gt positive)
      | cons byte others =>
          rw [encoded] at decoded width enough
          cases fuel with
          | zero => simp at enough
          | succ fuel =>
              rw [List.cons_append] at decoded ⊢
              simp only [runesUpTo, decoded, List.map_cons]
              rw [← List.cons_append, ← width, List.drop_left]
              rw [ih fuel (by simp only [List.length_cons] at enough; omega)]

theorem runes_encoded (chars : List Char) : runes (encodeChars chars) = chars.map some :=
  runesUpTo_encoded chars _ (Nat.le_refl _)

theorem repaired_some (chars : List Char) : (chars.map some).map repaired = chars := by
  rw [List.map_map]
  exact List.map_id chars

theorem sanitize_valid (bytes : Bytes) (valid : ValidUtf8 bytes) : sanitize bytes = bytes := by
  obtain ⟨chars, rfl⟩ := valid
  rw [sanitize, runes_encoded, repaired_some]

theorem sanitize_iff (bytes : Bytes) : sanitize bytes = bytes ↔ ValidUtf8 bytes :=
  ⟨fun same => ⟨_, same.symm⟩, sanitize_valid bytes⟩

theorem high_byte (value : Nat) (high : 128 ≤ value) (small : value < 256) : (10 : UInt8) ≠ UInt8.ofNat value := by
  intro same
  have equal := congrArg UInt8.toNat same
  rw [UInt8.toNat_ofNat', Nat.mod_eq_of_lt small] at equal
  have ten : (10 : UInt8).toNat = 10 := rfl
  omega

theorem newline_encoded (char : Char) (member : 10 ∈ String.utf8EncodeChar char) : char = '\n' := by
  unfold String.utf8EncodeChar at member
  simp only at member
  split at member
  · rename_i short
    have equal := congrArg UInt8.toNat (List.mem_singleton.mp member)
    rw [UInt8.toNat_ofNat', Nat.mod_eq_of_lt (by omega)] at equal
    exact Char.ext (UInt32.toNat.inj equal.symm)
  split at member
  · exact absurd member (by simp only [List.mem_cons, List.not_mem_nil, or_false, not_or]
                            exact ⟨high_byte _ (by omega) (by omega), high_byte _ (by omega) (by omega)⟩)
  split at member
  · exact absurd member (by simp only [List.mem_cons, List.not_mem_nil, or_false, not_or]
                            exact ⟨high_byte _ (by omega) (by omega), high_byte _ (by omega) (by omega),
                              high_byte _ (by omega) (by omega)⟩)
  · exact absurd member (by simp only [List.mem_cons, List.not_mem_nil, or_false, not_or]
                            exact ⟨high_byte _ (by omega) (by omega), high_byte _ (by omega) (by omega),
                              high_byte _ (by omega) (by omega), high_byte _ (by omega) (by omega)⟩)

theorem encodeChars_line (chars : List Char) (plain : '\n' ∉ chars) : 10 ∉ encodeChars chars := by
  intro member
  obtain ⟨char, present, byte⟩ := List.mem_flatMap.mp member
  exact plain (newline_encoded char byte ▸ present)

inductive JsonValue where
  | bool (value : Bool)
  | int (value : Int)
  | text (bytes : Bytes)
  | object (fields : List (String × JsonValue))

def unicodeEscape (code : Nat) : List Char :=
  ['\\', 'u', (code / 4096 % 16).digitChar, (code / 256 % 16).digitChar, (code / 16 % 16).digitChar, (code % 16).digitChar]

def escapeChar (char : Char) : List Char :=
  if char = '"' then ['\\', '"']
  else if char = '\\' then ['\\', '\\']
  else if char = '\x08' then ['\\', 'b']
  else if char = '\x0c' then ['\\', 'f']
  else if char = '\n' then ['\\', 'n']
  else if char = '\r' then ['\\', 'r']
  else if char = '\t' then ['\\', 't']
  else if char.toNat < 32 ∨ char = '<' ∨ char = '>' ∨ char = '&' ∨ char = '\u2028' ∨ char = '\u2029' then
    unicodeEscape char.toNat
  else [char]

def escapeRune : Option Char → List Char
  | some char => escapeChar char
  | none => unicodeEscape 0xfffd

def quoted (runes : List (Option Char)) : List Char := '"' :: (runes.flatMap escapeRune ++ ['"'])

def intChars : Int → List Char
  | .ofNat number => Nat.toDigits 10 number
  | .negSucc number => '-' :: Nat.toDigits 10 (number + 1)

mutual

def JsonValue.chars : JsonValue → List Char
  | .bool true => ['t', 'r', 'u', 'e']
  | .bool false => ['f', 'a', 'l', 's', 'e']
  | .int value => intChars value
  | .text bytes => quoted (runes bytes)
  | .object fields => '{' :: (fieldChars fields ++ ['}'])

def fieldChars : List (String × JsonValue) → List Char
  | [] => []
  | [(key, value)] => quoted (key.toList.map some) ++ ':' :: value.chars
  | (key, value) :: rest => quoted (key.toList.map some) ++ ':' :: (value.chars ++ ',' :: fieldChars rest)

end

def skipSpace (chars : List Char) : List Char :=
  chars.dropWhile fun char => char = ' ' || char = '\t' || char = '\n' || char = '\r'

def unescape : Char → Option Char
  | '"' => some '"'
  | '\\' => some '\\'
  | '/' => some '/'
  | 'b' => some '\x08'
  | 'f' => some '\x0c'
  | 'n' => some '\n'
  | 'r' => some '\r'
  | 't' => some '\t'
  | _ => none

def unhexDigit (char : Char) : Option Nat :=
  if '0' ≤ char ∧ char ≤ '9' then some (char.toNat - 48)
  else if 'a' ≤ char ∧ char ≤ 'f' then some (char.toNat - 87)
  else if 'A' ≤ char ∧ char ≤ 'F' then some (char.toNat - 55)
  else none

-- Half a surrogate pair is read as a replacement character. No writer here writes one.
def scalar (code : Nat) : Char := if code < 0xd800 ∨ 0xdfff < code then Char.ofNat code else '\uFFFD'

def readCode (a b c d : Char) : Option Char := do
  let code := (((← unhexDigit a) * 16 + (← unhexDigit b)) * 16 + (← unhexDigit c)) * 16 + (← unhexDigit d)
  some (scalar code)

def prepend (char : Char) (read : List Char × List Char) : List Char × List Char := (char :: read.1, read.2)

def readBody : List Char → Option (List Char × List Char)
  | [] => none
  | char :: rest =>
    if char = '"' then some ([], rest)
    else if char = '\\' then
      match rest with
      | 'u' :: a :: b :: c :: d :: after => (readCode a b c d).bind fun read => (readBody after).map (prepend read)
      | letter :: after => (unescape letter).bind fun read => (readBody after).map (prepend read)
      | [] => none
    else if char.toNat < 32 then none
    else (readBody rest).map (prepend char)

def readNat (chars : List Char) : Option (Nat × List Char) :=
  match chars.takeWhile Char.isDigit with
  | [] => none
  | digits => some (Nat.ofDigitChars 10 digits 0, chars.dropWhile Char.isDigit)

def readInt : List Char → Option (Int × List Char)
  | '-' :: rest => (readNat rest).map fun read => (-(read.1 : Int), read.2)
  | chars => (readNat chars).map fun read => ((read.1 : Int), read.2)

mutual

def readValue : Nat → List Char → Option (JsonValue × List Char)
  | 0, _ => none
  | fuel + 1, chars =>
    match skipSpace chars with
    | '"' :: rest => (readBody rest).map fun read => (.text (encodeChars read.1), read.2)
    | '{' :: rest =>
      match skipSpace rest with
      | '}' :: after => some (.object [], after)
      | body => (readFields fuel body).map fun read => (.object read.1, read.2)
    | 't' :: 'r' :: 'u' :: 'e' :: rest => some (.bool true, rest)
    | 'f' :: 'a' :: 'l' :: 's' :: 'e' :: rest => some (.bool false, rest)
    | rest => (readInt rest).map fun read => (.int read.1, read.2)

def readFields : Nat → List Char → Option (List (String × JsonValue) × List Char)
  | 0, _ => none
  | fuel + 1, chars =>
    match skipSpace chars with
    | '"' :: rest =>
      (readBody rest).bind fun key =>
        match skipSpace key.2 with
        | ':' :: afterColon =>
          (readValue fuel afterColon).bind fun value =>
            match skipSpace value.2 with
            | ',' :: more =>
              (readFields fuel more).map fun others => ((String.ofList key.1, value.1) :: others.1, others.2)
            | '}' :: after => some ([(String.ofList key.1, value.1)], after)
            | _ => none
        | _ => none
    | _ => none

end

def parseJson (chars : List Char) : Option JsonValue :=
  match readValue chars.length chars with
  | some (value, rest) => if skipSpace rest = [] then some value else none
  | none => none

mutual

def JsonValue.sanitized : JsonValue → JsonValue
  | .text bytes => .text (sanitize bytes)
  | .object fields => .object (sanitizedFields fields)
  | value => value

def sanitizedFields : List (String × JsonValue) → List (String × JsonValue)
  | [] => []
  | (key, value) :: rest => (key, value.sanitized) :: sanitizedFields rest

end

theorem unhexDigit_digit (digit : Nat) (small : digit < 16) : unhexDigit digit.digitChar = some digit := by
  revert digit
  decide

theorem readCode_unicode (code : Nat) (small : code < 65536) :
    readCode (code / 4096 % 16).digitChar (code / 256 % 16).digitChar (code / 16 % 16).digitChar (code % 16).digitChar =
      some (scalar code) := by
  have digit (part : Nat) : unhexDigit (part % 16).digitChar = some (part % 16) :=
    unhexDigit_digit _ (Nat.mod_lt _ (by decide))
  have whole : ((code / 4096 % 16 * 16 + code / 256 % 16) * 16 + code / 16 % 16) * 16 + code % 16 = code := by omega
  simp only [readCode, digit, Option.bind_eq_bind, Option.bind_some, whole]

theorem readBody_unicode (code : Nat) (rest : List Char) (small : code < 65536) :
    readBody (unicodeEscape code ++ rest) = (readBody rest).map (prepend (scalar code)) := by
  rw [unicodeEscape]
  simp only [List.cons_append, List.nil_append]
  rw [readBody]
  simp only [if_neg (show '\\' ≠ '"' by decide), if_true, readCode_unicode code small, Option.bind_some]

theorem readBody_letter (letter read : Char) (rest : List Char) (plain : letter ≠ 'u')
    (known : unescape letter = some read) :
    readBody ('\\' :: letter :: rest) = (readBody rest).map (prepend read) := by
  rw [readBody, if_neg (by decide), if_pos rfl, known, Option.bind_some]
  exact fun _ _ _ _ _ same _ => plain same

theorem scalar_char (char : Char) : scalar char.toNat = char := by
  have valid := char.valid
  have ranges : char.toNat < 0xd800 ∨ 0xdfff < char.toNat := by
    rcases valid with low | high
    · exact .inl low
    · exact .inr high.1
  rw [scalar, if_pos ranges, Char.ofNat_toNat]

theorem readBody_char (char : Char) (rest : List Char) :
    readBody (escapeChar char ++ rest) = (readBody rest).map (prepend char) := by
  unfold escapeChar
  split
  · rename_i same
    exact same ▸ readBody_letter '"' '"' rest (by decide) rfl
  split
  · rename_i same
    exact same ▸ readBody_letter '\\' '\\' rest (by decide) rfl
  split
  · rename_i same
    exact same ▸ readBody_letter 'b' '\x08' rest (by decide) rfl
  split
  · rename_i same
    exact same ▸ readBody_letter 'f' '\x0c' rest (by decide) rfl
  split
  · rename_i same
    exact same ▸ readBody_letter 'n' '\n' rest (by decide) rfl
  split
  · rename_i same
    exact same ▸ readBody_letter 'r' '\r' rest (by decide) rfl
  split
  · rename_i same
    exact same ▸ readBody_letter 't' '\t' rest (by decide) rfl
  split
  · rename_i special
    have small : char.toNat < 65536 := by
      rcases special with low | rfl | rfl | rfl | rfl | rfl
      · exact Nat.lt_trans low (by decide)
      · decide
      · decide
      · decide
      · decide
      · decide
    rw [readBody_unicode char.toNat rest small, scalar_char char]
  · rename_i quote slash _ _ _ _ _ special
    rw [List.singleton_append, readBody.eq_def]
    simp only
    rw [if_neg quote, if_neg slash, if_neg fun low => special (.inl low)]

theorem readBody_runes (runes : List (Option Char)) (rest : List Char) :
    readBody (runes.flatMap escapeRune ++ '"' :: rest) = some (runes.map repaired, rest) := by
  induction runes with
  | nil =>
      rw [List.flatMap_nil, List.nil_append, readBody.eq_def]
      simp only [if_true]
      rfl
  | cons rune others ih =>
      rw [List.flatMap_cons, List.append_assoc]
      cases rune with
      | some char =>
          rw [escapeRune, readBody_char, ih]
          rfl
      | none =>
          rw [escapeRune, readBody_unicode 0xfffd _ (by decide), ih]
          rfl

def Ends (rest : List Char) : Prop := ∀ char ∈ rest.head?, char.isDigit = false

theorem readNat_digits (number : Nat) (rest : List Char) (ends : Ends rest) :
    readNat (Nat.toDigits 10 number ++ rest) = some (number, rest) := by
  have digits : ∀ char ∈ Nat.toDigits 10 number, char.isDigit = true := fun char member =>
    Nat.isDigit_of_mem_toDigits (by decide) (by decide) member
  have stop : rest.takeWhile Char.isDigit = [] ∧ rest.dropWhile Char.isDigit = rest := by
    cases rest with
    | nil => exact ⟨rfl, rfl⟩
    | cons char others =>
        have other := ends char rfl
        exact ⟨by rw [List.takeWhile_cons, other]; rfl, by rw [List.dropWhile_cons, other]; rfl⟩
  have taken : (Nat.toDigits 10 number ++ rest).takeWhile Char.isDigit = Nat.toDigits 10 number := by
    rw [List.takeWhile_append_of_pos digits, stop.1, List.append_nil]
  have dropped : (Nat.toDigits 10 number ++ rest).dropWhile Char.isDigit = rest := by
    rw [List.dropWhile_append_of_pos digits, stop.2]
  rw [readNat, taken, dropped]
  split
  · rename_i written
    exact absurd written Nat.toDigits_ne_nil
  · rw [Nat.ofDigitChars_ten_toDigits]

theorem readInt_chars (value : Int) (rest : List Char) (ends : Ends rest) :
    readInt (intChars value ++ rest) = some (value, rest) := by
  cases value with
  | ofNat number =>
      rw [intChars, readInt.eq_def]
      split
      · rename_i others same
        have digit : Char.isDigit '-' = true := by
          cases written : Nat.toDigits 10 number with
          | nil => exact absurd written Nat.toDigits_ne_nil
          | cons first more =>
              rw [written] at same
              have equal : first = '-' := (List.cons.inj same).1
              rw [← equal]
              exact Nat.isDigit_of_mem_toDigits (b := 10) (n := number) (by decide) (by decide)
                (by rw [written]; exact List.mem_cons_self)
        cases digit
      · rw [readNat_digits number rest ends]
        rfl
  | negSucc number =>
      rw [intChars, List.cons_append, readInt, readNat_digits (number + 1) rest ends]
      rfl

theorem readBody_quoted (runes : List (Option Char)) (rest : List Char) :
    readBody (runes.flatMap escapeRune ++ ['"'] ++ rest) = some (runes.map repaired, rest) := by
  rw [List.append_assoc, List.singleton_append]
  exact readBody_runes runes rest

theorem ends_cons (char : Char) (rest : List Char) (other : char.isDigit = false) : Ends (char :: rest) := by
  intro first same
  cases same
  exact other

theorem skipSpace_cons (char : Char) (rest : List Char)
    (dark : (char = ' ' || char = '\t' || char = '\n' || char = '\r') = false) :
    skipSpace (char :: rest) = char :: rest := by
  rw [skipSpace, List.dropWhile_cons, dark]
  rfl

theorem readKey (key : String) (rest : List Char) :
    readBody ((key.toList.map some).flatMap escapeRune ++ ['"'] ++ rest) = some (key.toList, rest) := by
  rw [readBody_quoted, repaired_some]

def Opens (chars : List Char) : Prop :=
  ∃ first rest, chars = first :: rest ∧
    (first = '"' ∨ first = '{' ∨ first = 't' ∨ first = 'f' ∨ first = '-' ∨ first.isDigit = true)

theorem digits_open (number : Nat) : Opens (Nat.toDigits 10 number) := by
  cases written : Nat.toDigits 10 number with
  | nil => exact absurd written Nat.toDigits_ne_nil
  | cons first rest =>
      refine ⟨first, rest, rfl, .inr (.inr (.inr (.inr (.inr ?_))))⟩
      exact Nat.isDigit_of_mem_toDigits (b := 10) (n := number) (by decide) (by decide)
        (by rw [written]; exact List.mem_cons_self)

theorem chars_open (value : JsonValue) : Opens value.chars := by
  cases value with
  | bool value =>
      cases value with
      | true => exact ⟨'t', _, by rw [JsonValue.chars], .inr (.inr (.inl rfl))⟩
      | false => exact ⟨'f', _, by rw [JsonValue.chars], .inr (.inr (.inr (.inl rfl)))⟩
  | int value =>
      rw [JsonValue.chars]
      cases value with
      | ofNat number => exact digits_open number
      | negSucc number => exact ⟨'-', _, rfl, .inr (.inr (.inr (.inr (.inl rfl))))⟩
  | text bytes => exact ⟨'"', _, by rw [JsonValue.chars, quoted], .inl rfl⟩
  | object fields => exact ⟨'{', _, by rw [JsonValue.chars], .inr (.inl rfl)⟩

theorem digit_dark (char : Char) (digit : char.isDigit = true) :
    (char = ' ' || char = '\t' || char = '\n' || char = '\r') = false := by
  rw [Bool.eq_false_iff]
  intro space
  simp only [Bool.or_eq_true, decide_eq_true_eq] at space
  rcases space with ((rfl | rfl) | rfl) | rfl <;> cases digit

theorem skipSpace_open (chars rest : List Char) (opens : Opens chars) : skipSpace (chars ++ rest) = chars ++ rest := by
  obtain ⟨first, others, rfl, kinds⟩ := opens
  refine skipSpace_cons first _ ?_
  rcases kinds with rfl | rfl | rfl | rfl | rfl | digit
  · rfl
  · rfl
  · rfl
  · rfl
  · rfl
  · exact digit_dark first digit

theorem readValue_int (value : Int) (fuel : Nat) (rest : List Char) (ends : Ends rest) :
    readValue (fuel + 1) (intChars value ++ rest) = some (.int value, rest) := by
  have opens : Opens (intChars value) := by
    have opened := chars_open (.int value)
    rw [JsonValue.chars] at opened
    exact opened
  have kinds : ∀ first others, intChars value ++ rest = first :: others → first = '-' ∨ first.isDigit = true := by
    intro first others same
    cases value with
    | ofNat number =>
        obtain ⟨letter, more, written, _⟩ := digits_open number
        rw [intChars, written] at same
        rw [← (List.cons.inj same).1]
        refine .inr (Nat.isDigit_of_mem_toDigits (b := 10) (n := number) (by decide) (by decide) ?_)
        rw [written]
        exact List.mem_cons_self
    | negSucc number => exact .inl (List.cons.inj same).1.symm
  have read := readInt_chars value rest ends
  rw [readValue, skipSpace_open _ rest opens]
  have never (letter : Char) (others : List Char) (same : intChars value ++ rest = letter :: others)
      (minus : letter ≠ '-') (digit : letter.isDigit = false) : False := by
    rcases kinds letter others same with rfl | is
    · exact minus rfl
    · rw [digit] at is
      cases is
  split
  · rename_i same
    exact (never _ _ same (by decide) rfl).elim
  · rename_i same
    exact (never _ _ same (by decide) rfl).elim
  · rename_i same
    exact (never _ _ same (by decide) rfl).elim
  · rename_i same
    exact (never _ _ same (by decide) rfl).elim
  · rw [read]
    rfl

theorem fieldChars_open (key : String) (value : JsonValue) (others : List (String × JsonValue)) :
    ∃ more, fieldChars ((key, value) :: others) = '"' :: more := by
  cases others with
  | nil => exact ⟨_, by rw [fieldChars, quoted, List.cons_append]⟩
  | cons next rest => exact ⟨_, by rw [fieldChars, quoted, List.cons_append]; exact nofun⟩

mutual

theorem readValue_chars (value : JsonValue) (fuel : Nat) (rest : List Char) (ends : Ends rest)
    (enough : (value.chars ++ rest).length ≤ fuel) : readValue fuel (value.chars ++ rest) = some (value.sanitized, rest) := by
  have opens := chars_open value
  cases fuel with
  | zero =>
      obtain ⟨first, others, same, _⟩ := opens
      rw [same] at enough
      cases enough
  | succ fuel =>
      match value with
      | .bool true => rfl
      | .bool false => rfl
      | .int value => exact readValue_int value fuel rest ends
      | .text bytes =>
          rw [JsonValue.chars, quoted, List.cons_append, readValue, skipSpace_cons '"' _ rfl]
          simp only
          rw [readBody_quoted]
          rfl
      | .object [] => rfl
      | .object ((key, value) :: others) =>
          have read := readFields_chars key value others fuel rest (by
            rw [JsonValue.chars, List.cons_append, List.length_cons] at enough
            exact Nat.le_of_succ_le_succ enough)
          obtain ⟨more, opened⟩ := fieldChars_open key value others
          rw [JsonValue.chars, List.cons_append, readValue, skipSpace_cons '{' _ rfl]
          rw [opened, List.cons_append, List.cons_append] at read ⊢
          simp only [skipSpace_cons '"' _ rfl]
          exact congrArg (Option.map fun read => (JsonValue.object read.1, read.2)) read

theorem readFields_chars (key : String) (value : JsonValue) (others : List (String × JsonValue)) (fuel : Nat)
    (rest : List Char) (enough : (fieldChars ((key, value) :: others) ++ ['}'] ++ rest).length ≤ fuel) :
    readFields fuel (fieldChars ((key, value) :: others) ++ ['}'] ++ rest) =
      some (sanitizedFields ((key, value) :: others), rest) := by
  cases fuel with
  | zero =>
      obtain ⟨more, opened⟩ := fieldChars_open key value others
      rw [opened] at enough
      cases enough
  | succ fuel =>
      match others with
      | [] =>
          have written : fieldChars [(key, value)] ++ ['}'] ++ rest =
              '"' :: ((key.toList.map some).flatMap escapeRune ++ ['"'] ++ ':' :: (value.chars ++ '}' :: rest)) := by
            simp only [fieldChars, quoted, List.cons_append, List.append_assoc, List.nil_append]
          rw [written] at enough ⊢
          have read := readValue_chars value fuel ('}' :: rest) (ends_cons '}' rest rfl) (by
            simp only [List.length_cons, List.length_append] at enough ⊢
            omega)
          simp only [readFields, skipSpace_cons '"' _ rfl, readKey, Option.bind_some, skipSpace_cons ':' _ rfl, read,
            skipSpace_cons '}' _ rfl, String.ofList_toList, sanitizedFields]
      | (next, following) :: others =>
          have written : fieldChars ((key, value) :: (next, following) :: others) ++ ['}'] ++ rest =
              '"' :: ((key.toList.map some).flatMap escapeRune ++ ['"'] ++
                ':' :: (value.chars ++ ',' :: (fieldChars ((next, following) :: others) ++ ['}'] ++ rest))) := by
            simp only [fieldChars, quoted, List.cons_append, List.append_assoc, List.nil_append]
          rw [written] at enough ⊢
          have read := readValue_chars value fuel (',' :: (fieldChars ((next, following) :: others) ++ ['}'] ++ rest))
            (ends_cons ',' _ rfl) (by
              simp only [List.length_cons, List.length_append] at enough ⊢
              omega)
          have readMore := readFields_chars next following others fuel rest (by
            simp only [List.length_cons, List.length_append] at enough ⊢
            omega)
          simp only [readFields, skipSpace_cons '"' _ rfl, readKey, Option.bind_some, skipSpace_cons ':' _ rfl, read,
            skipSpace_cons ',' _ rfl, readMore, Option.map_some, String.ofList_toList, sanitizedFields]

end

theorem parseJson_chars (value : JsonValue) : parseJson value.chars = some value.sanitized := by
  have read := readValue_chars value value.chars.length [] nofun (Nat.le_of_eq (by rw [List.append_nil]))
  rw [List.append_nil] at read
  rw [parseJson, read]
  rfl

theorem digitChar_plain (digit : Nat) (small : digit < 16) : digit.digitChar ≠ '\n' := by
  revert digit
  decide

theorem unicodeEscape_plain (code : Nat) : '\n' ∉ unicodeEscape code := by
  have digit (part : Nat) : '\n' ≠ (part % 16).digitChar := Ne.symm (digitChar_plain _ (Nat.mod_lt _ (by decide)))
  simp only [unicodeEscape, List.mem_cons, List.not_mem_nil, digit, or_false, or_self]
  decide

theorem escapeRune_plain (rune : Option Char) : '\n' ∉ escapeRune rune := by
  cases rune with
  | none => exact unicodeEscape_plain 0xfffd
  | some char =>
      rw [escapeRune, escapeChar]
      split
      · decide
      split
      · decide
      split
      · decide
      split
      · decide
      split
      · decide
      split
      · decide
      split
      · decide
      split
      · exact unicodeEscape_plain char.toNat
      · rename_i newline _ _ _
        exact fun member => newline (List.mem_singleton.mp member).symm

theorem quoted_plain (runes : List (Option Char)) : '\n' ∉ quoted runes := by
  intro member
  simp only [quoted, List.mem_cons, List.mem_append, List.mem_flatMap, List.not_mem_nil, or_false] at member
  rcases member with quote | ⟨rune, _, inside⟩ | quote
  · cases quote
  · exact escapeRune_plain rune inside
  · cases quote

theorem toDigits_plain (number : Nat) : '\n' ∉ Nat.toDigits 10 number := by
  intro member
  have digit : Char.isDigit '\n' = true := Nat.isDigit_of_mem_toDigits (b := 10) (n := number) (by decide) (by decide) member
  cases digit

mutual

theorem chars_plain (value : JsonValue) : '\n' ∉ value.chars := by
  match value with
  | .bool true => rw [JsonValue.chars]; decide
  | .bool false => rw [JsonValue.chars]; decide
  | .int (.ofNat number) => rw [JsonValue.chars]; exact toDigits_plain number
  | .int (.negSucc number) =>
      rw [JsonValue.chars, intChars, List.mem_cons, not_or]
      exact ⟨by decide, toDigits_plain (number + 1)⟩
  | .text bytes => rw [JsonValue.chars]; exact quoted_plain (runes bytes)
  | .object fields =>
      have inside := fieldChars_plain fields
      rw [JsonValue.chars, List.mem_cons, List.mem_append, List.mem_singleton, not_or, not_or]
      exact ⟨by decide, inside, by decide⟩

theorem fieldChars_plain (fields : List (String × JsonValue)) : '\n' ∉ fieldChars fields := by
  match fields with
  | [] => exact List.not_mem_nil
  | [(key, value)] =>
      have first := chars_plain value
      rw [fieldChars, List.mem_append, List.mem_cons, not_or, not_or]
      exact ⟨quoted_plain _, by decide, first⟩
  | (key, value) :: next :: rest =>
      have first := chars_plain value
      have others := fieldChars_plain (next :: rest)
      rw [fieldChars, List.mem_append, List.mem_cons, List.mem_append, List.mem_cons, not_or, not_or, not_or, not_or]
      · exact ⟨quoted_plain _, by decide, first, by decide, others⟩
      · exact nofun

end

mutual

def JsonValue.Valid : JsonValue → Prop
  | .text bytes => ValidUtf8 bytes
  | .object fields => ValidFields fields
  | _ => True

def ValidFields : List (String × JsonValue) → Prop
  | [] => True
  | (_, value) :: rest => value.Valid ∧ ValidFields rest

end

mutual

theorem sanitized_iff (value : JsonValue) : value.sanitized = value ↔ value.Valid := by
  match value with
  | .bool _ => simp [JsonValue.sanitized, JsonValue.Valid]
  | .int _ => simp [JsonValue.sanitized, JsonValue.Valid]
  | .text bytes => simp [JsonValue.sanitized, JsonValue.Valid, sanitize_iff]
  | .object fields =>
      have inside := sanitizedFields_iff fields
      simp [JsonValue.sanitized, JsonValue.Valid, inside]

theorem sanitizedFields_iff (fields : List (String × JsonValue)) :
    sanitizedFields fields = fields ↔ ValidFields fields := by
  match fields with
  | [] => simp [sanitizedFields, ValidFields]
  | (key, value) :: rest =>
      have first := sanitized_iff value
      have others := sanitizedFields_iff rest
      simp [sanitizedFields, ValidFields, first, others]

end

theorem sanitizedFields_map (fields : List (String × JsonValue)) :
    sanitizedFields fields = fields.map fun field => (field.1, field.2.sanitized) := by
  induction fields with
  | nil => rfl
  | cons field rest ih => rw [sanitizedFields, ih, List.map_cons]

theorem sanitize_eq_nil (bytes : Bytes) : sanitize bytes = [] ↔ bytes = [] := by
  cases bytes with
  | nil => exact ⟨fun _ => rfl, fun _ => rfl⟩
  | cons byte rest =>
      refine ⟨fun gone => ?_, fun none => by cases none⟩
      have written : ∃ rune others, runes (byte :: rest) = rune :: others := by
        rw [runes, List.length_cons, runesUpTo]
        cases decodeRune (byte :: rest) with
        | none => exact ⟨_, _, rfl⟩
        | some char => exact ⟨_, _, rfl⟩
      obtain ⟨rune, others, same⟩ := written
      rw [sanitize, same, List.map_cons, encodeChars_cons, List.append_eq_nil_iff] at gone
      exact absurd gone.1 String.utf8EncodeChar_ne_nil

theorem encodeChars_infix (part whole : List Char) (inside : part <:+: whole) :
    (encodeChars part).length ≤ (encodeChars whole).length := by
  obtain ⟨before, after, rfl⟩ := inside
  rw [encodeChars_append, encodeChars_append, List.length_append, List.length_append]
  omega

theorem length_encodeChars (chars : List Char) : chars.length ≤ (encodeChars chars).length := by
  induction chars with
  | nil => exact Nat.le_refl _
  | cons char rest ih =>
      have positive := char.utf8Size_pos
      rw [encodeChars_cons, List.length_append, String.length_utf8EncodeChar, List.length_cons]
      omega

theorem unicodeEscape_length (code : Nat) : 6 ≤ (encodeChars (unicodeEscape code)).length :=
  length_encodeChars (unicodeEscape code)

theorem escapeChar_length (char : Char) : char.utf8Size ≤ (encodeChars (escapeChar char)).length := by
  rw [escapeChar]
  split
  · subst char
    decide
  split
  · subst char
    decide
  split
  · subst char
    decide
  split
  · subst char
    decide
  split
  · subst char
    decide
  split
  · subst char
    decide
  split
  · subst char
    decide
  split
  · have bound := char.utf8Size_le_four
    have six := unicodeEscape_length char.toNat
    omega
  · rw [encodeChars_cons, List.length_append, String.length_utf8EncodeChar]
    exact Nat.le_add_right _ _

theorem quoted_length (chars : List Char) :
    (encodeChars chars).length + 2 ≤ (encodeChars (quoted (chars.map some))).length := by
  have body : (encodeChars chars).length ≤ (encodeChars ((chars.map some).flatMap escapeRune)).length := by
    induction chars with
    | nil => exact Nat.le_refl _
    | cons char rest ih =>
        have first := escapeChar_length char
        rw [List.map_cons, List.flatMap_cons, encodeChars_cons, encodeChars_append, List.length_append, List.length_append,
          String.length_utf8EncodeChar, escapeRune]
        omega
  have mark : (String.utf8EncodeChar '"').length = 1 := rfl
  rw [quoted, encodeChars_cons, encodeChars_append, List.length_append, List.length_append, mark]
  have close : (encodeChars ['"']).length = 1 := rfl
  omega

theorem text_length (chars : List Char) :
    (encodeChars chars).length + 2 ≤ (encodeChars (JsonValue.text (encodeChars chars)).chars).length := by
  rw [JsonValue.chars, runes_encoded]
  exact quoted_length chars

theorem field_inside (key : String) (value : JsonValue) (fields : List (String × JsonValue)) (member : (key, value) ∈ fields) :
    value.chars <:+: fieldChars fields := by
  induction fields with
  | nil => cases member
  | cons first rest ih =>
      obtain ⟨name, other⟩ := first
      cases rest with
      | nil =>
          cases List.mem_singleton.mp member
          rw [fieldChars]
          exact ⟨quoted (key.toList.map some) ++ [':'], [], by simp⟩
      | cons next more =>
          rw [fieldChars]
          · rcases List.mem_cons.mp member with same | later
            · cases same
              exact ⟨quoted (key.toList.map some) ++ [':'], ',' :: fieldChars (next :: more), by simp⟩
            · obtain ⟨before, after, inside⟩ := ih later
              exact ⟨quoted (name.toList.map some) ++ ':' :: (other.chars ++ [',']) ++ before, after, by simp [← inside]⟩
          · exact nofun

theorem object_length (key : String) (value : JsonValue) (fields : List (String × JsonValue)) (member : (key, value) ∈ fields) :
    (encodeChars value.chars).length ≤ (encodeChars (JsonValue.object fields).chars).length := by
  refine encodeChars_infix _ _ ((field_inside key value fields member).trans ?_)
  rw [JsonValue.chars]
  exact ⟨['{'], ['}'], rfl⟩

end Yaaos.Base
