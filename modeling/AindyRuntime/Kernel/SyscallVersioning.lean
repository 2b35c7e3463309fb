import AindyRuntime.Data.PyObject

/-! # Validation against the ABI schemas

`validate_payload` of `kernel/syscall_versioning.py`.
-/

namespace AindyRuntime.Syscall

inductive SchemaType where
  | string
  | integer
  | number
  | boolean
  | array
  | mapping
deriving DecidableEq, Repr

def schemaTypeMap : List (String × SchemaType) :=
  [("string", .string), ("str", .string), ("int", .integer), ("integer", .integer),
    ("float", .number), ("number", .number), ("bool", .boolean), ("boolean", .boolean),
    ("list", .array), ("array", .array), ("dict", .mapping), ("object", .mapping)]

/-- `isinstance`; a `bool` is an `int`, and no modelled value is a `float`. -/
def SchemaType.admits : SchemaType → PyObject → Bool
  | .string, .str _ | .integer, .int _ | .integer, .bool _ | .boolean, .bool _ | .array, .list _
  | .mapping, .dict _ => true
  | _, _ => false

def iterated : PyObject → Except PyError (List PyObject)
  | .list items | .tuple items => .ok items
  | .str value => .ok (value.toList.map fun letter => .str (String.singleton letter))
  | .dict entries => .ok (entries.map fun entry => .str entry.1)
  | value => .error ⟨.other, quote value.typeName ++ " object is not iterable"⟩

def missing (payload : PyEntries) : PyObject → Bool
  | .str name =>
    match Dict.Entries.find? name payload with
    | none | some .null => true
    | some _ => false
  | _ => true

def requiredErrors (room : Nat) (payload : PyEntries) : List PyObject → Except PyError (List String)
  | [] => .ok []
  | name :: rest => do
    name.requireHashable
    if missing payload name then
      let text ← name.repr room
      return ("Missing required field: " ++ text) :: (← requiredErrors room payload rest)
    else requiredErrors room payload rest

def typeError (name typeName : String) (actual : PyObject) : String :=
  "Field " ++ quote name ++ ": expected type " ++ quote typeName ++ ", got " ++ quote actual.typeName

def checkProperty (name : String) (spec actual : PyObject) : Except PyError (Option String) :=
  match spec with
  | .dict fields =>
    let expected := PyEntries.get fields "type"
    if !expected.truthy then .ok none
    else do
      expected.requireHashable
      match expected with
      | .str typeName =>
        match Dict.Entries.find? typeName schemaTypeMap with
        | some schemaType =>
          return if schemaType.admits actual then none else some (typeError name typeName actual)
        | none => return none
      | _ => return none
  | spec => .error ⟨.attribute, quote spec.typeName ++ " object has no attribute 'get'"⟩

def propertyErrors (payload : PyEntries) : PyEntries → Except PyError (List String)
  | [] => .ok []
  | (name, spec) :: rest =>
    match Dict.Entries.find? name payload with
    | none => propertyErrors payload rest
    | some actual => do
      let problem ← checkProperty name spec actual
      return problem.toList ++ (← propertyErrors payload rest)

def validatePayload (room : Nat) (schema payload : PyEntries) : Except PyError (List String) :=
  if schema.isEmpty then .ok []
  else do
    let required ← iterated ((schema.get "required").orElse (.list []))
    let absent ← requiredErrors room payload required
    match (schema.get "properties").orElse (.dict []) with
    | .dict properties => return absent ++ (← propertyErrors payload properties)
    | properties => .error ⟨.attribute, quote properties.typeName ++ " object has no attribute 'items'"⟩

def validateOutput (room : Nat) (schema data : PyEntries) : Except PyError (List String) :=
  validatePayload room schema data

end AindyRuntime.Syscall
