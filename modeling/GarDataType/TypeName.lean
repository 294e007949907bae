import Mathlib.Data.Set.Operations
import GarDataType.DataType

/-!
# Type names

`DataType::ToTypeName` and `DataType::TypeNameToDataType`, `src/cpp/src/data_type.cc:73–125`:
the text a schema stores for a type. The printer recurses through lists, the parser is a
fixed chain of eleven comparisons: names of scalars and of lists of five scalars come back,
a name with a list inside a list never does.
-/

namespace Gar

/-- Modelled from the spec: `GAR_STRINGIFY(_id)`, a macro defined in a header outside
`src/`, which spells the id's enumerator. -/
def TypeId.stringify : TypeId → String
  | .BOOL => "BOOL"
  | .INT32 => "INT32"
  | .INT64 => "INT64"
  | .FLOAT => "FLOAT"
  | .DOUBLE => "DOUBLE"
  | .STRING => "STRING"
  | .LIST => "LIST"
  | .USER_DEFINED => "USER_DEFINED"

namespace DataType

/-- `TO_STRING_CASE(_id)`: the enumerator's spelling, lowered character by character by
`std::transform` with `::tolower`. `Char.toLower` stands for `::tolower` in the C locale,
the one every C++ program starts in, where it lowers `A`–`Z` and keeps every other
character. -/
def toStringCase (id : TypeId) : String := ⟨id.stringify.data.map Char.toLower⟩

/-- `DataType::ToTypeName`, `data_type.cc:73–97`. -/
def toTypeName : DataType → String
  | boolean => toStringCase .BOOL
  | int32 => toStringCase .INT32
  | int64 => toStringCase .INT64
  | float32 => toStringCase .FLOAT
  | float64 => toStringCase .DOUBLE
  | string => toStringCase .STRING
  | userDefined name => name
  | list child => "list<" ++ child.toTypeName ++ ">"

/-- `DataType::TypeNameToDataType`, `data_type.cc:99–125`. -/
def typeNameToDataType (str : String) : Except String DataType :=
  if str = "bool" then pure boolean
  else if str = "int32" then pure int32
  else if str = "int64" then pure int64
  else if str = "float" then pure float32
  else if str = "double" then pure float64
  else if str = "string" then pure string
  else if str = "list<int32>" then pure (list int32)
  else if str = "list<int64>" then pure (list int64)
  else if str = "list<float>" then pure (list float32)
  else if str = "list<double>" then pure (list float64)
  else if str = "list<string>" then pure (list string)
  else throw ("Unsupported data type " ++ str)

/-- A list's name wraps its child's name in `list<` and `>`. -/
@[simp] theorem toTypeName_list (child : DataType) :
    (list child).toTypeName = "list<" ++ child.toTypeName ++ ">" := rfl

/-- The eleven names `TypeNameToDataType` compares its input against, in its order. -/
def typeNames : List String :=
  ["bool", "int32", "int64", "float", "double", "string", "list<int32>", "list<int64>",
    "list<float>", "list<double>", "list<string>"]

/-- A name outside the eleven falls through every comparison to the `throw`. -/
theorem typeNameToDataType_of_not_mem (str : String) (h : str ∉ typeNames) :
    typeNameToDataType str = .error ("Unsupported data type " ++ str) := by
  simp only [typeNames, List.mem_cons, List.not_mem_nil, or_false, not_or] at h
  obtain ⟨h₁, h₂, h₃, h₄, h₅, h₆, h₇, h₈, h₉, h₁₀, h₁₁⟩ := h
  simp only [typeNameToDataType, h₁, h₂, h₃, h₄, h₅, h₆, h₇, h₈, h₉, h₁₀, h₁₁,
    if_false]
  rfl

/-- Everything the parser can do: it refuses a name outside the eleven with a message
quoting it, and reads each of the eleven as a supported type, with lists nested at most
once, whose printed name is that name. -/
theorem typeNameToDataType_spec (str : String) :
    (str ∈ typeNames ∧ ∃ t, typeNameToDataType str = .ok t ∧ t.toTypeName = str ∧
        t.Supported ∧ t.listDepth ≤ 1) ∨
      (str ∉ typeNames ∧
        typeNameToDataType str = .error ("Unsupported data type " ++ str)) := by
  by_cases h : str ∈ typeNames
  · refine .inl ⟨h, ?_⟩
    simp only [typeNames, List.mem_cons, List.not_mem_nil, or_false] at h
    rcases h with rfl | rfl | rfl | rfl | rfl | rfl | rfl | rfl | rfl | rfl | rfl
    all_goals exact ⟨_, rfl, rfl, by decide, by decide⟩
  · exact .inr ⟨h, typeNameToDataType_of_not_mem str h⟩

example :
    typeNameToDataType (list boolean).toTypeName = .error "Unsupported data type list<bool>" :=
  rfl

/-- The printed name of a list inside a list starts with `list<list<`, as none of the
eleven names does. -/
theorem toTypeName_list_list_not_mem (u : DataType) : (list (list u)).toTypeName ∉ typeNames := by
  have hp : (list (list u)).toTypeName.data.take 10 = "list<list<".data := by
    simp [List.take_append_eq_append_take]
  have hn : ∀ s ∈ typeNames, s.data.take 10 ≠ "list<list<".data := by decide
  exact fun h => hn _ h hp

/-- A type nested at least two lists deep is a list of a list. -/
theorem exists_eq_list_list {t : DataType} (h : 2 ≤ t.listDepth) : ∃ u, t = list (list u) := by
  cases t with
  | list child =>
    cases child with
    | list u => exact ⟨u, rfl⟩
    | _ => simp [listDepth] at h
  | _ => simp [listDepth] at h

/-- A supported type nested at most one list deep, other than `list<bool>`, reads back
from its printed name. -/
theorem typeNameToDataType_toTypeName_of_flat {t : DataType} (hs : t.Supported)
    (hd : t.listDepth ≤ 1) (hb : t ≠ list boolean) :
    typeNameToDataType t.toTypeName = .ok t := by
  cases t with
  | list child =>
    cases child with
    | boolean => exact absurd rfl hb
    | list u => simp [listDepth] at hd
    | userDefined => simp at hs
    | _ => rfl
  | userDefined => simp at hs
  | _ => rfl

/-- The printed name of a type nested at least two lists deep is refused, with a message
quoting it. -/
theorem typeNameToDataType_toTypeName_of_nested {t : DataType} (hd : 2 ≤ t.listDepth) :
    typeNameToDataType t.toTypeName = .error ("Unsupported data type " ++ t.toTypeName) := by
  obtain ⟨u, rfl⟩ := exists_eq_list_list hd
  exact typeNameToDataType_of_not_mem _ (toTypeName_list_list_not_mem u)

/-- A supported type's printed name reads back as the type when lists nest at most once,
`list<bool>` apart, and is refused when a list sits inside a list. -/
theorem typeNameToDataType_toTypeName (t : DataType) :
    (t.Supported → t.listDepth ≤ 1 → t ≠ list boolean →
        typeNameToDataType t.toTypeName = .ok t) ∧
      (2 ≤ t.listDepth →
        typeNameToDataType t.toTypeName = .error ("Unsupported data type " ++ t.toTypeName)) :=
  ⟨fun hs hd hb => typeNameToDataType_toTypeName_of_flat hs hd hb,
    typeNameToDataType_toTypeName_of_nested⟩

/-- `list<int64>` is supported, flat and not `list<bool>`, and reads back from its name. -/
theorem typeNameToDataType_toTypeName_list_int64 :
    (list int64).Supported ∧ (list int64).listDepth ≤ 1 ∧ list int64 ≠ list boolean ∧
      typeNameToDataType (list int64).toTypeName = .ok (list int64) :=
  ⟨by decide, by decide, by decide,
    (typeNameToDataType_toTypeName (list int64)).1 (by decide) (by decide) (by decide)⟩

/-- `list<list<int32>>` is supported, and its printed name is refused. -/
theorem typeNameToDataType_list_list_int32 :
    (list (list int32)).Supported ∧
      typeNameToDataType (list (list int32)).toTypeName =
        .error "Unsupported data type list<list<int32>>" :=
  ⟨by decide, rfl⟩

/-- The printed name of a list starts with `list<`, as no scalar's name does. -/
theorem toTypeName_list_ne_scalar (c t : DataType) (ht : t.listDepth = 0) (hs : t.Supported) :
    (list c).toTypeName ≠ t.toTypeName := by
  intro h
  have h5 := congrArg (fun x : String => x.data.take 5) h
  simp [List.take_append_eq_append_take] at h5
  cases t with
  | list => simp [listDepth] at ht
  | userDefined => simp at hs
  | _ => exact absurd h5 (by decide)

/-- Distinct supported types are printed under distinct names. -/
theorem toTypeName_injOn : Set.InjOn toTypeName {t | t.Supported} := by
  intro s hs t ht h
  induction s generalizing t with
  | list c ih =>
    cases t with
    | list d =>
      have hcd : c.toTypeName = d.toTypeName := by simpa [String.ext_iff] using h
      rw [ih (by simpa using hs) (show d ∈ {t | t.Supported} by simpa using ht) hcd]
    | userDefined => simp at ht
    | _ => exact absurd h (toTypeName_list_ne_scalar c _ rfl (by decide))
  | userDefined => simp at hs
  | _ =>
    cases t with
    | list d => exact absurd h.symm (toTypeName_list_ne_scalar d _ rfl (by decide))
    | userDefined => simp at ht
    | _ => first | rfl | exact absurd h (by decide)

example : (userDefined "int32").toTypeName = int32.toTypeName := rfl

end DataType

end Gar
