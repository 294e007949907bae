import GarDataType.Arrow
import GarDataType.DataType

/-!
# The mapping to and from Arrow types

`DataType::DataTypeToArrowDataType` and `DataType::ArrowDataTypeToDataType`,
`src/cpp/src/data_type.cc:27–71`. Both switch on the type id and recurse through a list's
element; a thrown `std::runtime_error` is an `Except` error carrying its message.
The encoder fails exactly on types with a user-defined node and the decoder undoes it; the
decoder accepts exactly the trees of seven scalars under lists, and re-encoding what it
returns gives the tree's canonical form.
-/

namespace Arrow.DataType

/-- Every node of the Arrow type is one of the seven scalars the decoder names, or a list. -/
def Decodable (a : DataType) : Prop :=
  ∀ n ∈ a.nodes,
    n.id ∈ [.BOOL, .INT32, .INT64, .FLOAT, .DOUBLE, .STRING, .LARGE_STRING, .LIST]

instance : DecidablePred Decodable := fun a => inferInstanceAs (Decidable (∀ n ∈ a.nodes, _))

/-- A list is decodable exactly when its value type is. -/
@[simp] theorem decodable_listType (name : String) (valueType : DataType) (nullable : Bool) :
    (listType name valueType nullable).Decodable ↔ valueType.Decodable := by
  simp [Decodable, id]

/-- A type seen through its id is decodable exactly when the decoder names that id. -/
@[simp] theorem decodable_ofId (id : TypeId) (h : id ≠ .LIST) :
    (ofId id h).Decodable ↔
      id ∈ [.BOOL, .INT32, .INT64, .FLOAT, .DOUBLE, .STRING, .LARGE_STRING, .LIST] := by
  simp [Decodable, DataType.id]

end Arrow.DataType

namespace Gar

/-- Modelled from the spec: the Arrow id a data type id is written under, the id of the same
name except that `STRING` is written as `LARGE_STRING`; `USER_DEFINED` has none. -/
def TypeId.arrowId : TypeId → Option Arrow.TypeId
  | .BOOL => some .BOOL
  | .INT32 => some .INT32
  | .INT64 => some .INT64
  | .FLOAT => some .FLOAT
  | .DOUBLE => some .DOUBLE
  | .STRING => some .LARGE_STRING
  | .LIST => some .LIST
  | .USER_DEFINED => none

namespace DataType

/-- `DataType::DataTypeToArrowDataType`, `data_type.cc:27–47`. -/
def dataTypeToArrowDataType : DataType → Except String Arrow.DataType
  | boolean => pure Arrow.boolean
  | int32 => pure Arrow.int32
  | int64 => pure Arrow.int64
  | float32 => pure Arrow.float32
  | float64 => pure Arrow.float64
  | string => pure Arrow.largeUtf8
  | list child => Arrow.list <$> dataTypeToArrowDataType child
  | _ => throw "Unsupported data type"

/-- `DataType::ArrowDataTypeToDataType`, `data_type.cc:49–71`; the `LIST` case reads the
value field's type, `type->field(0)->type()`. -/
def arrowDataTypeToDataType : Arrow.DataType → Except String DataType
  | .ofId .BOOL _ => pure boolean
  | .ofId .INT32 _ => pure int32
  | .ofId .INT64 _ => pure int64
  | .ofId .FLOAT _ => pure float32
  | .ofId .DOUBLE _ => pure float64
  | .ofId .STRING _ => pure string
  | .ofId .LARGE_STRING _ => pure string
  | .listType _ valueType _ => list <$> arrowDataTypeToDataType valueType
  | _ => throw "Unsupported data type"

/-- Everything the encoder can do: a supported type is written as an Arrow type that the
decoder reads back and that is already canonical; any other type is refused. -/
theorem dataTypeToArrowDataType_spec (t : DataType) :
    (t.Supported ∧ ∃ a, dataTypeToArrowDataType t = .ok a ∧
        arrowDataTypeToDataType a = .ok t ∧ a.canonical = a) ∨
      (¬t.Supported ∧ dataTypeToArrowDataType t = .error "Unsupported data type") := by
  induction t with
  | list child ih =>
    rcases ih with ⟨hs, a, he, hd, hc⟩ | ⟨hs, he⟩
    · refine .inl ⟨by simpa using hs, Arrow.list a, ?_, ?_, by simp [Arrow.list, hc]⟩
      · simp [dataTypeToArrowDataType, he, Functor.map, Except.map]
      · simp [arrowDataTypeToDataType, Arrow.list, hd, Functor.map, Except.map]
    · refine .inr ⟨by simpa using hs, ?_⟩
      simp [dataTypeToArrowDataType, he, Functor.map, Except.map]
  | userDefined name => exact .inr ⟨not_supported_userDefined name, rfl⟩
  | boolean | int32 | int64 | float32 | float64 | string =>
    exact .inl ⟨by decide, _, rfl, rfl, rfl⟩

/-- Everything the decoder can do: an Arrow type whose nodes are all scalars it names or
lists is read as a supported type, which the encoder writes back as the canonical form of
the input; any other Arrow type is refused. -/
theorem arrowDataTypeToDataType_spec (a : Arrow.DataType) :
    (a.Decodable ∧ ∃ t, arrowDataTypeToDataType a = .ok t ∧ t.Supported ∧
        dataTypeToArrowDataType t = .ok a.canonical) ∨
      (¬a.Decodable ∧ arrowDataTypeToDataType a = .error "Unsupported data type") := by
  induction a with
  | listType name valueType nullable ih =>
    rcases ih with ⟨hd, t, hdec, hs, he⟩ | ⟨hd, hdec⟩
    · refine .inl ⟨by simpa using hd, list t, ?_, by simpa using hs, ?_⟩
      · simp [arrowDataTypeToDataType, hdec, Functor.map, Except.map]
      · simp [dataTypeToArrowDataType, he, Functor.map, Except.map]
    · refine .inr ⟨by simpa using hd, ?_⟩
      simp [arrowDataTypeToDataType, hdec, Functor.map, Except.map]
  | ofId id h =>
    simp only [Arrow.DataType.decodable_ofId]
    cases id
    all_goals first
      | exact absurd rfl h
      | exact .inl ⟨by decide, _, rfl, by decide, rfl⟩
      | exact .inr ⟨by decide, rfl⟩

/-- What the encoder writes, the decoder reads back, and it is already canonical. -/
theorem arrowDataTypeToDataType_of_dataTypeToArrowDataType {t : DataType} {a : Arrow.DataType}
    (h : dataTypeToArrowDataType t = .ok a) :
    arrowDataTypeToDataType a = .ok t ∧ a.canonical = a := by
  rcases dataTypeToArrowDataType_spec t with ⟨-, b, hb, hd, hc⟩ | ⟨-, hb⟩
  · cases hb.symm.trans h
    exact ⟨hd, hc⟩
  · cases hb.symm.trans h

/-- What the decoder reads is supported, from a decodable type, and the encoder writes it
back as that type's canonical form. -/
theorem dataTypeToArrowDataType_of_arrowDataTypeToDataType {a : Arrow.DataType} {t : DataType}
    (h : arrowDataTypeToDataType a = .ok t) :
    dataTypeToArrowDataType t = .ok a.canonical ∧ t.Supported ∧ a.Decodable := by
  rcases arrowDataTypeToDataType_spec a with ⟨hd, u, hu, hs, he⟩ | ⟨-, hu⟩
  · cases hu.symm.trans h
    exact ⟨he, hs, hd⟩
  · cases hu.symm.trans h

/-- The encoder writes a list exactly when it writes the child, as `arrow::list` of it. -/
theorem dataTypeToArrowDataType_list_eq_ok {child : DataType} {a : Arrow.DataType} :
    dataTypeToArrowDataType (list child) = .ok a ↔
      ∃ b, dataTypeToArrowDataType child = .ok b ∧ a = Arrow.list b := by
  simp only [dataTypeToArrowDataType]
  cases dataTypeToArrowDataType child <;> simp [Functor.map, Except.map, eq_comm]

/-- Node by node from the root down, the encoder's output carries the Arrow id of each node
of its input: the same list nesting, with `STRING` written as `LARGE_STRING`. -/
theorem map_id_nodes_of_dataTypeToArrowDataType {t : DataType} {a : Arrow.DataType}
    (h : dataTypeToArrowDataType t = .ok a) :
    a.nodes.map (fun n => some n.id) = t.nodes.map (fun n => n.id.arrowId) := by
  induction t generalizing a with
  | list child ih =>
    obtain ⟨b, hb, rfl⟩ := dataTypeToArrowDataType_list_eq_ok.1 h
    simp only [Arrow.list, Arrow.DataType.nodes_listType, nodes_list, List.map_cons, ih hb]
    rfl
  | userDefined name => cases h
  | boolean | int32 | int64 | float32 | float64 | string => cases h; rfl

/-- The encoder throws exactly on a type with a user-defined node somewhere along its list
nesting; whatever it writes has the input's list nesting and node ids, `STRING` written as
`LARGE_STRING` at every depth, and the decoder reads it back as the same tree. -/
theorem dataTypeToArrowDataType_roundtrip (t : DataType) :
    ((∃ e, dataTypeToArrowDataType t = .error e) ↔ ∃ n ∈ t.nodes, n.id = .USER_DEFINED) ∧
      ∀ a, dataTypeToArrowDataType t = .ok a →
        a.nodes.map (fun n => some n.id) = t.nodes.map (fun n => n.id.arrowId) ∧
          arrowDataTypeToDataType a = .ok t := by
  refine ⟨?_, fun a h => ⟨map_id_nodes_of_dataTypeToArrowDataType h,
    (arrowDataTypeToDataType_of_dataTypeToArrowDataType h).1⟩⟩
  rcases dataTypeToArrowDataType_spec t with ⟨hs, a, he, -⟩ | ⟨hs, he⟩
  · simpa [he, Supported] using hs
  · exact ⟨fun _ => by simpa [Supported] using hs, fun _ => ⟨_, he⟩⟩

example : dataTypeToArrowDataType (.list (.list .string)) =
    .ok (Arrow.list (Arrow.list Arrow.largeUtf8)) := rfl

/-- The decoder accepts exactly the Arrow types whose every node is one of the seven
scalars it names or a list, and re-encoding what it returns gives the canonical form of
the input: `utf8` widened to `large_utf8`, list fields renamed `item` and made nullable. -/
theorem arrowDataTypeToDataType_reencode (a : Arrow.DataType) :
    ((∃ t, arrowDataTypeToDataType a = .ok t) ↔ a.Decodable) ∧
      ∀ t, arrowDataTypeToDataType a = .ok t → dataTypeToArrowDataType t = .ok a.canonical := by
  refine ⟨?_, fun t h => (dataTypeToArrowDataType_of_arrowDataTypeToDataType h).1⟩
  rcases arrowDataTypeToDataType_spec a with ⟨hd, t, ht, -⟩ | ⟨hd, he⟩
  · exact ⟨fun _ => hd, fun _ => ⟨t, ht⟩⟩
  · exact ⟨fun ⟨_, ht⟩ => (nomatch he.symm.trans ht), fun h => absurd h hd⟩

example : (arrowDataTypeToDataType (.listType "element" Arrow.utf8 false) >>=
    dataTypeToArrowDataType) = .ok (Arrow.list Arrow.largeUtf8) := rfl

end DataType

end Gar
