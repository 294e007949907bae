import Mathlib.Data.List.Basic

/-!
# The data type model

The canonical type system of `src/cpp/src/data_type.cc`: the six scalar factories built by
`TYPE_FACTORY` (lines 127–139), `list` (141–143) and user-defined types. A type is a tree
along its list children; `Supported` names the types that carry no user-defined node.
-/

namespace Gar

/-- Modelled from the spec: `Type`, the id of a data type, declared in
`gar/util/data_type.h` outside `src/`; its members are those the switches of
`data_type.cc` name. -/
inductive TypeId where
  | BOOL | INT32 | INT64 | FLOAT | DOUBLE | STRING | LIST | USER_DEFINED
  deriving DecidableEq, Repr

/-- Modelled from the spec: `DataType`, declared in `gar/util/data_type.h` outside `src/`,
by the way each value is built: the scalar factories `boolean()`, `int32()`, `int64()`,
`float32()`, `float64()` and `string()`, `list(value_type)` with its child, and
`DataType(Type::USER_DEFINED, name)`. A list always owns its child; only a user-defined
type carries a name. -/
inductive DataType where
  | boolean | int32 | int64 | float32 | float64 | string
  | list (child : DataType)
  | userDefined (name : String)
  deriving DecidableEq, Repr

namespace DataType

/-- `DataType::id()`. -/
def id : DataType → TypeId
  | boolean => .BOOL
  | int32 => .INT32
  | int64 => .INT64
  | float32 => .FLOAT
  | float64 => .DOUBLE
  | string => .STRING
  | list _ => .LIST
  | userDefined _ => .USER_DEFINED

/-- The nodes of a type tree from the root down: the type, then the nodes of its list
child. -/
def nodes : DataType → List DataType
  | t@(list child) => t :: child.nodes
  | t => [t]

/-- How deeply lists nest in the type: `0` for a scalar or a user-defined type. -/
def listDepth : DataType → Nat
  | list child => child.listDepth + 1
  | _ => 0

/-- No node of the type is user-defined. -/
def Supported (t : DataType) : Prop := ∀ n ∈ t.nodes, n.id ≠ .USER_DEFINED

instance : DecidablePred Supported := fun t => inferInstanceAs (Decidable (∀ n ∈ t.nodes, _))

/-- A list's nodes are the list, then its child's nodes. -/
@[simp] theorem nodes_list (child : DataType) :
    (list child).nodes = list child :: child.nodes := rfl

/-- A user-defined type is its only node. -/
@[simp] theorem nodes_userDefined (name : String) :
    (userDefined name).nodes = [userDefined name] := rfl

/-- A list is supported exactly when its child is. -/
@[simp] theorem supported_list (child : DataType) : (list child).Supported ↔ child.Supported := by
  simp [Supported, id]

/-- A user-defined type is never supported. -/
@[simp] theorem not_supported_userDefined (name : String) : ¬(userDefined name).Supported := by
  simp [Supported, id]

end DataType

end Gar
