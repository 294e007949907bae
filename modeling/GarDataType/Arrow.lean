import Mathlib.Data.List.Basic

/-!
# Arrow data types, as the type mapping sees them

The backend half of `src/cpp/src/data_type.cc`: the `arrow::Type::type` ids that
`ArrowDataTypeToDataType` switches on, and the Arrow factories that
`DataTypeToArrowDataType` calls. A list is seen through its value field, `field(0)`,
with the field's name, type and nullability; any other Arrow type is seen through its id
alone, since neither conversion reads more of it (a timestamp's unit, a struct's fields).
-/

namespace Arrow

/-- `arrow::Type::type`: the id every Arrow type carries. -/
inductive TypeId where
  | NA | BOOL | UINT8 | INT8 | UINT16 | INT16 | UINT32 | INT32 | UINT64 | INT64
  | HALF_FLOAT | FLOAT | DOUBLE | STRING | BINARY | FIXED_SIZE_BINARY | DATE32 | DATE64
  | TIMESTAMP | TIME32 | TIME64 | INTERVAL_MONTHS | INTERVAL_DAY_TIME | DECIMAL128
  | DECIMAL256 | LIST | STRUCT | SPARSE_UNION | DENSE_UNION | DICTIONARY | MAP | EXTENSION
  | FIXED_SIZE_LIST | DURATION | LARGE_STRING | LARGE_BINARY | LARGE_LIST
  | INTERVAL_MONTH_DAY_NANO | RUN_END_ENCODED
  deriving DecidableEq, Repr

/-- An Arrow type tree. `listType` is `arrow::ListType` with its value field: the field's
name, its type and whether it is nullable. Every other type is `ofId` its id, which
`notList` keeps from being a list without a value field. -/
inductive DataType where
  | listType (fieldName : String) (valueType : DataType) (nullable : Bool)
  | ofId (id : TypeId) (notList : id ≠ .LIST := by decide)
  deriving DecidableEq, Repr

/-- `arrow::boolean()`. -/
def boolean : DataType := .ofId .BOOL

/-- `arrow::int32()`. -/
def int32 : DataType := .ofId .INT32

/-- `arrow::int64()`. -/
def int64 : DataType := .ofId .INT64

/-- `arrow::float32()`. -/
def float32 : DataType := .ofId .FLOAT

/-- `arrow::float64()`. -/
def float64 : DataType := .ofId .DOUBLE

/-- `arrow::utf8()`: strings with 32-bit offsets. -/
def utf8 : DataType := .ofId .STRING

/-- `arrow::large_utf8()`: strings with 64-bit offsets. -/
def largeUtf8 : DataType := .ofId .LARGE_STRING

/-- `arrow::list(value_type)`: the value field is named `item` and nullable. -/
def list (valueType : DataType) : DataType := .listType "item" valueType true

namespace DataType

/-- `arrow::DataType::id()`. -/
def id : DataType → TypeId
  | listType .. => .LIST
  | ofId id _ => id

/-- The nodes of a type tree from the root down: the type, then the nodes of its list
element. -/
def nodes : DataType → List DataType
  | t@(listType _ valueType _) => t :: valueType.nodes
  | t@(ofId ..) => [t]

/-- The form in which the mapping writes a type back: every `utf8` node widened to
`large_utf8`, every list rebuilt by `arrow::list`, every other node kept. -/
def canonical : DataType → DataType
  | listType _ valueType _ => Arrow.list valueType.canonical
  | ofId .STRING _ => largeUtf8
  | t@(ofId ..) => t

/-- A list's nodes are the list, then its value type's nodes. -/
@[simp] theorem nodes_listType (name : String) (valueType : DataType) (nullable : Bool) :
    (listType name valueType nullable).nodes =
      listType name valueType nullable :: valueType.nodes := rfl

/-- A type seen through its id is its only node. -/
@[simp] theorem nodes_ofId (id : TypeId) (h : id ≠ .LIST) : (ofId id h).nodes = [ofId id h] :=
  rfl

/-- A list's canonical form is rebuilt by `arrow::list` from its value type's. -/
@[simp] theorem canonical_listType (name : String) (valueType : DataType) (nullable : Bool) :
    (listType name valueType nullable).canonical = Arrow.list valueType.canonical := rfl

/-- Among the types seen through their id, canonicalising changes only `utf8`. -/
theorem canonical_ofId (id : TypeId) (h : id ≠ .LIST) :
    (ofId id h).canonical = if id = .STRING then largeUtf8 else ofId id h := by
  cases id <;> rfl

end DataType

end Arrow
