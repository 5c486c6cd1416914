import CallAtlas.Text.Blank

set_option autoImplicit false
set_option relaxedAutoImplicit false

namespace CallAtlas.Reference

/-- The field of a row that names the called function. -/
inductive Column
  | last
  | second
  deriving DecidableEq

structure Call where
  caller : String
  callee : String
  deriving DecidableEq

def fieldsMin : Nat := 4

def Column.pick? : Column → List (List Char) → Option (List Char)
  | .last, fields => fields.getLast?
  | .second, fields => fields[1]?

def calleeOf? (column : Column) (row : String) : Option String :=
  let fields := Text.fields row.toList
  if fields.length < fieldsMin then none else (column.pick? fields).map String.ofList

def calls (column : Column) (caller : String) (rows : List String) : List Call :=
  rows.filterMap fun row => (calleeOf? column row).map fun callee => ⟨caller, callee⟩

end CallAtlas.Reference
