import AindyRuntime.Data.Json
import Mathlib.Data.List.Sort

/-! # Exceptions and the texts they carry -/

namespace AindyRuntime

/-- The exception classes the runtime's handlers tell apart; `attribute` stands
for `ImportError` and `AttributeError`, which are only ever caught together. -/
inductive ErrorKind where
  | attribute
  | lookup
  | value
  | permission
  | other
deriving DecidableEq, Repr

structure PyError where
  kind : ErrorKind
  text : String
deriving DecidableEq, Repr

def quote (text : String) : String := "'" ++ text ++ "'"

def quoteAll (texts : List String) : String :=
  "[" ++ String.intercalate ", " (texts.map quote) ++ "]"

namespace Json

mutual

def repr : Json → String
  | .null => "None"
  | .bool value => if value then "True" else "False"
  | .int value => toString value
  | .str value => quote value
  | .arr items => "[" ++ reprItems items ++ "]"
  | .obj entries => "\x7b" ++ reprEntries entries ++ "\x7d"

def reprItems : List Json → String
  | [] => ""
  | [item] => repr item
  | item :: rest => repr item ++ ", " ++ reprItems rest

def reprEntries : List (String × Json) → String
  | [] => ""
  | [(key, value)] => quote key ++ ": " ++ repr value
  | (key, value) :: rest => quote key ++ ": " ++ repr value ++ ", " ++ reprEntries rest

end

def text : Json → String
  | .str value => value
  | value => value.repr

end Json

def asciiUpper (text : String) : String := String.ofList (text.toList.map Char.toUpper)

def asciiLower (text : String) : String := String.ofList (text.toList.map Char.toLower)

def isAscii (text : String) : Bool := text.toList.all fun letter => letter.toNat < 128

/-- `str.upper` and `str.lower`, of which only ASCII text is settled here. -/
structure TextCase where
  (upper lower : String → String)
  upper_ascii : ∀ text, isAscii text = true → upper text = asciiUpper text
  lower_ascii : ∀ text, isAscii text = true → lower text = asciiLower text

def TextCase.ascii : TextCase := ⟨asciiUpper, asciiLower, fun _ _ => rfl, fun _ _ => rfl⟩

structure UuidText (Uuid : Type) where
  parse? : String → Option Uuid
  text : Uuid → String
  parse?_text : ∀ uuid, parse? (text uuid) = some uuid

def UuidText.plain : UuidText String := ⟨some, id, fun _ => rfl⟩

def sortNames (names : List String) : List String := names.insertionSort (· ≤ ·)

theorem nodup_eraseDups (names : List String) : names.eraseDups.Nodup := by
  induction size : names.length using Nat.strong_induction_on generalizing names with
  | _ length ih =>
    cases names with
    | nil => exact List.nodup_nil
    | cons name later =>
      have shorter : (later.filter fun other => !other == name).length < length := by
        have kept := List.length_filter_le (fun other => !other == name) later
        rw [List.length_cons] at size
        omega
      rw [List.eraseDups_cons]
      apply List.nodup_cons.mpr
      refine ⟨?_, ih _ shorter _ rfl⟩
      intro again
      have differs := (List.mem_filter.mp (List.mem_eraseDups.mp again)).2
      simp at differs

def isSpace (letter : Char) : Bool :=
  let code := letter.toNat
  (9 ≤ code && code ≤ 13) || (28 ≤ code && code ≤ 32) || code = 0x85 || code = 0xa0
    || code = 0x1680 || (0x2000 ≤ code && code ≤ 0x200a) || code = 0x2028 || code = 0x2029
    || code = 0x202f || code = 0x205f || code = 0x3000

def strip (text : String) : String :=
  String.ofList ((text.toList.dropWhile isSpace).reverse.dropWhile isSpace).reverse

end AindyRuntime
