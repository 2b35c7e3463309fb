import AindyRuntime.Lib.Dict

/-! # Values of the runtime

What the runtime keeps in JSON columns and passes between nodes: `None`,
booleans, integers, strings, lists and dictionaries with string keys.
-/

namespace AindyRuntime

inductive Json where
  | null
  | bool (value : Bool)
  | int (value : Int)
  | str (value : String)
  | arr (items : List Json)
  | obj (entries : List (String × Json))
deriving Repr, Inhabited

namespace Json

mutual

def decEq : (left right : Json) → Decidable (left = right)
  | .null, .null => isTrue rfl
  | .bool a, .bool b => decidable_of_iff (a = b) (by simp)
  | .int a, .int b => decidable_of_iff (a = b) (by simp)
  | .str a, .str b => decidable_of_iff (a = b) (by simp)
  | .arr a, .arr b => match decEqItems a b with
    | isTrue same => isTrue (congrArg _ same)
    | isFalse differ => isFalse fun same => differ (Json.arr.inj same)
  | .obj a, .obj b => match decEqEntries a b with
    | isTrue same => isTrue (congrArg _ same)
    | isFalse differ => isFalse fun same => differ (Json.obj.inj same)
  | .null, .bool _ | .null, .int _ | .null, .str _ | .null, .arr _ | .null, .obj _
  | .bool _, .null | .bool _, .int _ | .bool _, .str _ | .bool _, .arr _ | .bool _, .obj _
  | .int _, .null | .int _, .bool _ | .int _, .str _ | .int _, .arr _ | .int _, .obj _
  | .str _, .null | .str _, .bool _ | .str _, .int _ | .str _, .arr _ | .str _, .obj _
  | .arr _, .null | .arr _, .bool _ | .arr _, .int _ | .arr _, .str _ | .arr _, .obj _
  | .obj _, .null | .obj _, .bool _ | .obj _, .int _ | .obj _, .str _ | .obj _, .arr _ => isFalse (by simp)

def decEqItems : (left right : List Json) → Decidable (left = right)
  | [], [] => isTrue rfl
  | a :: as, b :: bs => match decEq a b, decEqItems as bs with
    | isTrue same, isTrue rest => isTrue (by rw [same, rest])
    | isFalse differ, _ => isFalse fun same => differ (List.cons.inj same).1
    | _, isFalse differ => isFalse fun same => differ (List.cons.inj same).2
  | [], _ :: _ => isFalse (by simp)
  | _ :: _, [] => isFalse (by simp)

def decEqEntries : (left right : List (String × Json)) → Decidable (left = right)
  | [], [] => isTrue rfl
  | (k, a) :: as, (l, b) :: bs => match decEq a b, decEqEntries as bs with
    | isTrue same, isTrue rest => decidable_of_iff (k = l) (by simp [same, rest])
    | isFalse differ, _ => isFalse fun same => differ (Prod.mk.inj (List.cons.inj same).1).2
    | _, isFalse differ => isFalse fun same => differ (List.cons.inj same).2
  | [], _ :: _ => isFalse (by simp)
  | _ :: _, [] => isFalse (by simp)

end

instance : DecidableEq Json := decEq

def truthy : Json → Bool
  | .null => false
  | .bool value => value
  | .int value => value != 0
  | .str value => value != ""
  | .arr items => !items.isEmpty
  | .obj entries => !entries.isEmpty

def typeName : Json → String
  | .null => "NoneType"
  | .bool _ => "bool"
  | .int _ => "int"
  | .str _ => "str"
  | .arr _ => "list"
  | .obj _ => "dict"

def isDict : Json → Bool
  | .obj _ => true
  | _ => false

def get (value : Json) (key : String) : Json :=
  match value with
  | .obj entries => (Dict.Entries.find? key entries).getD .null
  | _ => .null

def hasKey (value : Json) (key : String) : Bool :=
  match value with
  | .obj entries => (Dict.Entries.find? key entries).isSome
  | _ => false

def orElse (value other : Json) : Json := if value.truthy then value else other

end Json

end AindyRuntime
