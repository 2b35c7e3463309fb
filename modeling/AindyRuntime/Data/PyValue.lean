import AindyRuntime.Data.PyError

/-! # Equality, order and arithmetic of Python values

`None` where Python raises `TypeError`.  A `bool` is an `int` to all of these.
-/

namespace AindyRuntime.Json

def number? : Json → Option Int
  | .bool value => some (if value then 1 else 0)
  | .int value => some value
  | _ => none

mutual

def pyEq : Json → Json → Bool
  | .null, .null => true
  | .bool a, right => right.number? == some (if a then 1 else 0)
  | .int a, right => right.number? == some a
  | .str a, .str b => a == b
  | .arr a, .arr b => pyEqItems a b
  | .obj a, .obj b => a.length == b.length && pyEqEntries a b
  | _, _ => false

def pyEqItems : List Json → List Json → Bool
  | [], [] => true
  | a :: as, b :: bs => pyEq a b && pyEqItems as bs
  | _, _ => false

def pyEqEntries : List (String × Json) → List (String × Json) → Bool
  | [], _ => true
  | (key, a) :: rest, right =>
    (match Dict.Entries.find? key right with
      | some b => pyEq a b
      | none => false) && pyEqEntries rest right

end

mutual

def pyLt : Json → Json → Option Bool
  | .bool a, right => right.number?.map fun b => decide ((if a then 1 else 0) < b)
  | .int a, right => right.number?.map fun b => decide (a < b)
  | .str a, .str b => some (decide (a < b))
  | .arr a, .arr b => pyLtItems a b
  | _, _ => none

def pyLtItems : List Json → List Json → Option Bool
  | [], [] => some false
  | [], _ :: _ => some true
  | _ :: _, [] => some false
  | a :: as, b :: bs => if pyEq a b then pyLtItems as bs else pyLt a b

end

variable (left right : Json)

def pyAdd : Option Json :=
  match left, right with
  | .str a, .str b => some (.str (a ++ b))
  | .arr a, .arr b => some (.arr (a ++ b))
  | left, right => do return .int ((← left.number?) + (← right.number?))

def pyMax : Option Json :=
  (pyLt left right).map fun less => if less then right else left

def pyMin : Option Json :=
  (pyLt right left).map fun less => if less then right else left

def members? : Json → Option (List Json)
  | .arr items =>
    if items.all fun item => match item with
      | .arr _ | .obj _ => false
      | _ => true
    then some items else none
  | .str value => some (value.toList.map fun letter => .str (String.singleton letter))
  | .obj entries => some (entries.map fun entry => .str entry.1)
  | _ => none

def dedupe : List Json → List Json → List Json
  | kept, [] => kept.reverse
  | kept, item :: rest =>
    if kept.any fun other => pyEq other item then dedupe kept rest else dedupe (item :: kept) rest

def insertSorted (item : Json) : List Json → Option (List Json)
  | [] => some [item]
  | head :: rest => do
    if ← pyLt item head then return item :: head :: rest
    else return head :: (← insertSorted item rest)

def sorted : List Json → Option (List Json)
  | [] => some []
  | item :: rest => do insertSorted item (← sorted rest)

def pyUnion : Option Json := do
  return .arr (← sorted (dedupe [] ((← left.members?) ++ (← right.members?))))

/-- The zeros of the decimal digits of Unicode; nine digits follow each. -/
def decimalZeros : List Nat :=
  [0x30, 0x660, 0x6f0, 0x7c0, 0x966, 0x9e6, 0xa66, 0xae6, 0xb66, 0xbe6, 0xc66, 0xce6, 0xd66, 0xde6,
    0xe50, 0xed0, 0xf20, 0x1040, 0x1090, 0x17e0, 0x1810, 0x1946, 0x19d0, 0x1a80, 0x1a90, 0x1b50, 0x1bb0,
    0x1c40, 0x1c50, 0xa620, 0xa8d0, 0xa900, 0xa9d0, 0xa9f0, 0xaa50, 0xabf0, 0xff10, 0x104a0, 0x10d30,
    0x11066, 0x110f0, 0x11136, 0x111d0, 0x112f0, 0x11450, 0x114d0, 0x11650, 0x116c0, 0x11730, 0x118e0,
    0x11950, 0x11c50, 0x11d50, 0x11da0, 0x11f50, 0x16a60, 0x16ac0, 0x16b50, 0x1d7ce, 0x1d7d8, 0x1d7e2,
    0x1d7ec, 0x1d7f6, 0x1e140, 0x1e2f0, 0x1e4f0, 0x1e950, 0x1fbf0]

def decimalDigit? (letter : Char) : Option Nat :=
  (decimalZeros.find? fun first => decide (first ≤ letter.toNat ∧ letter.toNat < first + 10)).map
    (letter.toNat - ·)

/-- Decimal digits with single underscores between them, at most 4300 of them. -/
def readDigits : (value count : Nat) → (afterDigit : Bool) → List Char → Option Nat
  | value, count, afterDigit, [] => if afterDigit && count ≤ 4300 then some value else none
  | value, count, afterDigit, letter :: rest =>
    if letter = '_' then
      if afterDigit then readDigits value count false rest else none
    else
      match decimalDigit? letter with
      | some digit => readDigits (10 * value + digit) (count + 1) true rest
      | none => none

def readInt (text : String) : Option Int :=
  match (strip text).toList with
  | '+' :: digits => (readDigits 0 0 false digits).map Int.ofNat
  | '-' :: digits => (readDigits 0 0 false digits).map fun value => -Int.ofNat value
  | digits => (readDigits 0 0 false digits).map Int.ofNat

def toInt : Json → Except PyError Int
  | .int value => .ok value
  | .bool value => .ok (if value then 1 else 0)
  | .str value =>
    match readInt value with
    | some number => .ok number
    | none => .error ⟨.value, "invalid literal for int() with base 10: " ++ quote value⟩
  | value =>
    .error ⟨.other, "int() argument must be a string, a bytes-like object or a real number, not "
      ++ quote value.typeName⟩

end AindyRuntime.Json
