import Mathlib.Data.List.Infix
import Yaaos.Base.Json

set_option autoImplicit false

namespace Yaaos.Base

-- A Python text is a list of code points, lone surrogates among them.
abbrev PyText := List Nat

def pyText (literal : String) : PyText := literal.toList.map Char.toNat

-- What `json.loads` makes of a document. A float is known by its repr.
inductive PyValue where
  | none
  | bool (value : Bool)
  | int (value : Int)
  | float (digits : PyText)
  | str (letters : PyText)
  | list (items : List PyValue)
  | dict (entries : List (PyText × PyValue))

abbrev PyDict := List (PyText × PyValue)

inductive LoadError where
  | jsonDecodeError
  | recursionError
  | valueError

structure Python where
  loads : PyText → Except LoadError PyValue
  printable : Nat → Bool

def PyValue.truthy : PyValue → Bool
  | .none => false
  | .bool value => value
  | .int value => decide (value ≠ 0)
  | .float digits => digits != pyText "0.0" && digits != pyText "-0.0"
  | .str letters => !letters.isEmpty
  | .list items => !items.isEmpty
  | .dict entries => !entries.isEmpty

def PyValue.orElse (value default : PyValue) : PyValue := if value.truthy then value else default

def PyValue.isStr : PyValue → Bool
  | .str _ => true
  | _ => false

def PyValue.isText (value : PyValue) (literal : String) : Bool :=
  match value with
  | .str letters => letters == pyText literal
  | _ => false

def PyDict.contains (dict : PyDict) (key : String) : Bool := dict.any fun entry => entry.1 == pyText key

def PyDict.get (dict : PyDict) (key : String) : PyValue := (dict.lookup (pyText key)).getD .none

def isSpace (letter : Nat) : Bool :=
  (9 ≤ letter && letter ≤ 13) || (28 ≤ letter && letter ≤ 32) || letter == 133 || letter == 160 || letter == 5760 ||
    (8192 ≤ letter && letter ≤ 8202) || letter == 8232 || letter == 8233 || letter == 8239 || letter == 8287 ||
    letter == 12288

def strip (letters : PyText) : PyText := ((letters.dropWhile isSpace).reverse.dropWhile isSpace).reverse

def isLineBreak (letter : Nat) : Bool :=
  (10 ≤ letter && letter ≤ 13) || (28 ≤ letter && letter ≤ 30) || letter == 133 || letter == 8232 || letter == 8233

def splitLinesFrom (current : PyText) : PyText → List PyText
  | [] => if current.isEmpty then [] else [current.reverse]
  | 13 :: 10 :: rest => current.reverse :: splitLinesFrom [] rest
  | letter :: rest =>
      if isLineBreak letter then current.reverse :: splitLinesFrom [] rest else splitLinesFrom (letter :: current) rest

def splitLines (letters : PyText) : List PyText := splitLinesFrom [] letters

def occursIn (needle letters : PyText) : Bool := letters.tails.any fun rest => needle.isPrefixOf rest

def isSurrogate (letter : Nat) : Bool := 55296 ≤ letter && letter ≤ 57343

def storableLetters (letters : PyText) : Bool := letters.all fun letter => letter ≠ 0 && !isSurrogate letter

def encodedLength (letters : PyText) : Option Nat :=
  if letters.any isSurrogate then none
  else some ((letters.map fun letter =>
    if letter < 128 then 1 else if letter < 2048 then 2 else if letter < 65536 then 3 else 4).sum)

def excerpt (limit : Nat) (letters : PyText) : PyText :=
  if letters.length < limit then letters else letters.take (limit - 3) ++ [8230]

section Printing

variable (python : Python)

def hexEscape (mark : String) (width letter : Nat) : PyText :=
  pyText mark ++ ((hexDigits width letter).map fun digit => (hexChar digit).toNat).reverse

def reprLetter (quote letter : Nat) : PyText :=
  if letter = quote ∨ letter = 92 then [92, letter]
  else if letter = 9 then pyText "\\t"
  else if letter = 10 then pyText "\\n"
  else if letter = 13 then pyText "\\r"
  else if 32 ≤ letter ∧ letter < 127 ∨ 127 < letter ∧ python.printable letter then [letter]
  else if letter < 256 then hexEscape "\\x" 2 letter
  else if letter < 65536 then hexEscape "\\u" 4 letter
  else hexEscape "\\U" 8 letter

def reprText (letters : PyText) : PyText :=
  let quote := if letters.contains 39 && !letters.contains 34 then 34 else 39
  quote :: letters.flatMap (reprLetter python quote) ++ [quote]

mutual

def PyValue.repr : PyValue → PyText
  | .none => pyText "None"
  | .bool value => pyText (if value then "True" else "False")
  | .int value => pyText (toString value)
  | .float digits => digits
  | .str letters => reprText python letters
  | .list items => pyText "[" ++ PyValue.reprItems items ++ pyText "]"
  | .dict entries => pyText "\x7b" ++ PyValue.reprEntries entries ++ pyText "\x7d"

def PyValue.reprItems : List PyValue → PyText
  | [] => []
  | [item] => PyValue.repr item
  | item :: rest => PyValue.repr item ++ pyText ", " ++ PyValue.reprItems rest

def PyValue.reprEntries : List (PyText × PyValue) → PyText
  | [] => []
  | [(key, value)] => reprText python key ++ pyText ": " ++ PyValue.repr value
  | (key, value) :: rest =>
      reprText python key ++ pyText ": " ++ PyValue.repr value ++ pyText ", " ++ PyValue.reprEntries rest

end

def PyValue.show (value : PyValue) : PyText :=
  match value with
  | .str letters => letters
  | other => other.repr python

end Printing

end Yaaos.Base
