import AindyRuntime.Data.PyError

/-! # Python objects

What a handler may return: JSON values, tuples and instances of any other class.
-/

namespace AindyRuntime

inductive PyObject where
  | null
  | bool (value : Bool)
  | int (value : Int)
  | str (value : String)
  | list (items : List PyObject)
  | tuple (items : List PyObject)
  | dict (entries : List (String × PyObject))
  | object (className text : String) (canHash : Bool)
deriving Repr, Inhabited

abbrev PyEntries : Type := List (String × PyObject)

def PyEntries.get (entries : PyEntries) (key : String) : PyObject :=
  (Dict.Entries.find? key entries).getD .null

def PyEntries.getOr (entries : PyEntries) (key : String) (default : PyObject) : PyObject :=
  (Dict.Entries.find? key entries).getD default

namespace PyObject

def typeName : PyObject → String
  | .null => "NoneType"
  | .bool _ => "bool"
  | .int _ => "int"
  | .str _ => "str"
  | .list _ => "list"
  | .tuple _ => "tuple"
  | .dict _ => "dict"
  | .object className _ _ => className

def truthy : PyObject → Bool
  | .null => false
  | .bool value => value
  | .int value => value != 0
  | .str value => value != ""
  | .list items | .tuple items => !items.isEmpty
  | .dict entries => !entries.isEmpty
  | .object _ _ _ => true

def isNone : PyObject → Bool
  | .null => true
  | _ => false

def orElse (value other : PyObject) : PyObject := if value.truthy then value else other

mutual

def unhashable? : PyObject → Option String
  | .list _ => some "list"
  | .dict _ => some "dict"
  | .tuple items => unhashableItem? items
  | .object className _ canHash => if canHash then none else some className
  | _ => none

def unhashableItem? : List PyObject → Option String
  | [] => none
  | item :: rest => (unhashable? item).or (unhashableItem? rest)

end

def requireHashable (value : PyObject) : Except PyError Unit :=
  match value.unhashable? with
  | none => .ok ()
  | some className => .error ⟨.other, "unhashable type: " ++ quote className⟩

def maxStrDigits : Nat := 4300

def printable (value : Int) : Bool := decide (value.natAbs < Nat.pow 10 maxStrDigits)

def tooManyDigits : PyError :=
  ⟨.value, "Exceeds the limit (4300 digits) for integer string conversion; "
    ++ "use sys.set_int_max_str_digits() to increase the limit"⟩

def tooDeep (activity : String) : PyError :=
  ⟨.other, "maximum recursion depth exceeded while " ++ activity⟩

mutual

def repr : Nat → PyObject → Except PyError String
  | _, .null => .ok "None"
  | _, .bool value => .ok (if value then "True" else "False")
  | _, .int value => if printable value then .ok (toString value) else .error tooManyDigits
  | _, .str value => .ok (quote value)
  | _, .object _ text _ => .ok text
  | room + 1, .list items => do return "[" ++ String.intercalate ", " (← reprItems room items) ++ "]"
  | room + 1, .tuple items => do
    match ← reprItems room items with
    | [item] => return "(" ++ item ++ ",)"
    | texts => return "(" ++ String.intercalate ", " texts ++ ")"
  | room + 1, .dict entries => do
    return "\x7b" ++ String.intercalate ", " (← reprEntries room entries) ++ "\x7d"
  | 0, .list _ | 0, .tuple _ | 0, .dict _ => .error (tooDeep "getting the repr of an object")

def reprItems : Nat → List PyObject → Except PyError (List String)
  | _, [] => .ok []
  | room, item :: rest => do return (← repr room item) :: (← reprItems room rest)

def reprEntries : Nat → List (String × PyObject) → Except PyError (List String)
  | _, [] => .ok []
  | room, (key, value) :: rest => do
    return (quote key ++ ": " ++ (← repr room value)) :: (← reprEntries room rest)

end

def text (room : Nat) : PyObject → Except PyError String
  | .str value => .ok value
  | value => value.repr room

inductive DumpError where
  | unsupported (className : String)
  | digits
  | nesting
deriving DecidableEq, Repr

def DumpError.error : DumpError → PyError
  | .unsupported className => ⟨.other, "Object of type " ++ className ++ " is not JSON serializable"⟩
  | .digits => tooManyDigits
  | .nesting => tooDeep "encoding a JSON object"

mutual

def dumps : Nat → PyObject → Except DumpError Json
  | _, .null => .ok .null
  | _, .bool value => .ok (.bool value)
  | _, .int value => if printable value then .ok (.int value) else .error .digits
  | _, .str value => .ok (.str value)
  | _, .object className _ _ => .error (.unsupported className)
  | room + 1, .list items => do return .arr (← dumpsItems room items)
  | room + 1, .tuple items => do return .arr (← dumpsItems room items)
  | room + 1, .dict entries => do return .obj (← dumpsEntries room entries)
  | 0, .list _ | 0, .tuple _ | 0, .dict _ => .error .nesting

def dumpsItems : Nat → List PyObject → Except DumpError (List Json)
  | _, [] => .ok []
  | room, item :: rest => do return (← dumps room item) :: (← dumpsItems room rest)

def dumpsEntries : Nat → List (String × PyObject) → Except DumpError (List (String × Json))
  | _, [] => .ok []
  | room, (key, value) :: rest => do
    return (key, ← dumps room value) :: (← dumpsEntries room rest)

end

mutual

def ofJson : Json → PyObject
  | .null => .null
  | .bool value => .bool value
  | .int value => .int value
  | .str value => .str value
  | .arr items => .list (ofItems items)
  | .obj entries => .dict (ofEntries entries)

def ofItems : List Json → List PyObject
  | [] => []
  | item :: rest => ofJson item :: ofItems rest

def ofEntries : List (String × Json) → PyEntries
  | [] => []
  | (key, value) :: rest => (key, ofJson value) :: ofEntries rest

end

variable (shown : String → String → Option String)

mutual

/-- `_json_safe`; `shown` is the text of a UUID, datetime or date. -/
def jsonSafe : PyObject → PyObject
  | .object className text canHash => (shown className text).elim (.object className text canHash) .str
  | .list items | .tuple items => .list (jsonSafeItems items)
  | .dict entries => .dict (jsonSafeEntries entries)
  | value => value

def jsonSafeItems : List PyObject → List PyObject
  | [] => []
  | item :: rest => jsonSafe item :: jsonSafeItems rest

def jsonSafeEntries : PyEntries → PyEntries
  | [] => []
  | (key, value) :: rest => (key, jsonSafe value) :: jsonSafeEntries rest

end

mutual

theorem jsonSafe_ofJson : ∀ value, jsonSafe shown (ofJson value) = ofJson value
  | .null | .bool _ | .int _ | .str _ => rfl
  | .arr items => by rw [ofJson, jsonSafe, jsonSafeItems_ofItems]
  | .obj entries => by rw [ofJson, jsonSafe, jsonSafeEntries_ofEntries]

theorem jsonSafeItems_ofItems : ∀ items, jsonSafeItems shown (ofItems items) = ofItems items
  | [] => rfl
  | item :: rest => by rw [ofItems, jsonSafeItems, jsonSafe_ofJson, jsonSafeItems_ofItems]

theorem jsonSafeEntries_ofEntries : ∀ entries, jsonSafeEntries shown (ofEntries entries) = ofEntries entries
  | [] => rfl
  | (_, value) :: rest => by rw [ofEntries, jsonSafeEntries, jsonSafe_ofJson, jsonSafeEntries_ofEntries]

end

end PyObject

end AindyRuntime
