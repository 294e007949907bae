import Mathlib.Logic.Equiv.Defs
import GarDataType.Backend

/-!
# The mapping as a bijection

What `src/cpp/src/data_type.cc:27–71` is for: the supported data types and the Arrow types
in canonical form are in one-to-one correspondence, with `DataTypeToArrowDataType` one
direction and `ArrowDataTypeToDataType` the other. The decoder sees an Arrow type only up
to its canonical form, so a backend schema may use `utf8` and any list field name.
-/

namespace Gar

namespace DataType

/-- The decoder reads an Arrow type and its canonical form alike, refusals included. -/
theorem arrowDataTypeToDataType_canonical (a : Arrow.DataType) :
    arrowDataTypeToDataType a.canonical = arrowDataTypeToDataType a := by
  induction a with
  | listType name valueType nullable ih =>
    simp only [Arrow.DataType.canonical_listType, Arrow.list, arrowDataTypeToDataType, ih]
  | ofId id h =>
    rw [Arrow.DataType.canonical_ofId]
    split
    · subst id
      rfl
    · rfl

/-- The decoder forgets exactly what canonicalising changes: it reads a decodable Arrow type
and any other the same way exactly when the two have the same canonical form. -/
theorem arrowDataTypeToDataType_eq_iff_canonical_eq {a : Arrow.DataType} (b : Arrow.DataType)
    (ha : a.Decodable) :
    arrowDataTypeToDataType a = arrowDataTypeToDataType b ↔ a.canonical = b.canonical := by
  refine ⟨fun h => ?_, fun h => ?_⟩
  · rcases arrowDataTypeToDataType_spec a with ⟨-, t, ht, -, he⟩ | ⟨hn, -⟩
    · have hb := (dataTypeToArrowDataType_of_arrowDataTypeToDataType (h ▸ ht)).1
      exact Except.ok.inj (he.symm.trans hb)
    · exact absurd ha hn
  · rw [← arrowDataTypeToDataType_canonical a, h, arrowDataTypeToDataType_canonical]

/-- `utf8` is decodable, and the decoder reads it as it reads `large_utf8`, the two having
one canonical form. -/
theorem arrowDataTypeToDataType_eq_iff_canonical_eq_utf8 :
    Arrow.utf8.Decodable ∧
      (arrowDataTypeToDataType Arrow.utf8 = arrowDataTypeToDataType Arrow.largeUtf8 ↔
        Arrow.utf8.canonical = Arrow.largeUtf8.canonical) :=
  ⟨by decide, arrowDataTypeToDataType_eq_iff_canonical_eq Arrow.largeUtf8 (by decide)⟩

/-- The Arrow types the encoder writes are exactly the decodable ones in canonical form. -/
theorem exists_dataTypeToArrowDataType_eq_ok (a : Arrow.DataType) :
    (∃ t, dataTypeToArrowDataType t = .ok a) ↔ a.Decodable ∧ a.canonical = a := by
  constructor
  · rintro ⟨t, ht⟩
    have h := arrowDataTypeToDataType_of_dataTypeToArrowDataType ht
    exact ⟨(dataTypeToArrowDataType_of_arrowDataTypeToDataType h.1).2.2, h.2⟩
  · rintro ⟨hd, hc⟩
    rcases arrowDataTypeToDataType_spec a with ⟨-, t, -, -, he⟩ | ⟨hn, -⟩
    · exact ⟨t, hc ▸ he⟩
    · exact absurd hd hn

/-- On Arrow types in canonical form, the encoder and the decoder are converse relations:
the encoder writes `a` for `t` exactly when the decoder reads `t` from `a`. -/
theorem dataTypeToArrowDataType_eq_ok_iff {t : DataType} {a : Arrow.DataType}
    (ha : a.canonical = a) :
    dataTypeToArrowDataType t = .ok a ↔ arrowDataTypeToDataType a = .ok t :=
  ⟨fun h => (arrowDataTypeToDataType_of_dataTypeToArrowDataType h).1,
    fun h => ha ▸ (dataTypeToArrowDataType_of_arrowDataTypeToDataType h).1⟩

/-- `list<large_utf8>` is canonical, and it is what `list<string>` is written as. -/
theorem dataTypeToArrowDataType_eq_ok_iff_list_string :
    (Arrow.list Arrow.largeUtf8).canonical = Arrow.list Arrow.largeUtf8 ∧
      (dataTypeToArrowDataType (list string) = .ok (Arrow.list Arrow.largeUtf8) ↔
        arrowDataTypeToDataType (Arrow.list Arrow.largeUtf8) = .ok (list string)) :=
  ⟨rfl, dataTypeToArrowDataType_eq_ok_iff rfl⟩

/-- The encoder never refuses a supported type. -/
theorem dataTypeToArrowDataType_ne_error {t : DataType} (h : t.Supported) (e : String) :
    dataTypeToArrowDataType t ≠ .error e := by
  rcases dataTypeToArrowDataType_spec t with ⟨-, a, ha, -⟩ | ⟨hn, -⟩
  · simp [ha]
  · exact absurd h hn

/-- The decoder never refuses a decodable type. -/
theorem arrowDataTypeToDataType_ne_error {a : Arrow.DataType} (h : a.Decodable) (e : String) :
    arrowDataTypeToDataType a ≠ .error e := by
  rcases arrowDataTypeToDataType_spec a with ⟨-, t, ht, -⟩ | ⟨hn, -⟩
  · simp [ht]
  · exact absurd h hn

/-- `DataTypeToArrowDataType` on a supported type, which it never refuses. -/
def toArrow (t : {t : DataType // t.Supported}) : Arrow.DataType :=
  match h : dataTypeToArrowDataType t.1 with
  | .ok a => a
  | .error e => absurd h (dataTypeToArrowDataType_ne_error t.2 e)

/-- `ArrowDataTypeToDataType` on a decodable Arrow type, which it never refuses. -/
def ofArrow (a : {a : Arrow.DataType // a.Decodable}) : DataType :=
  match h : arrowDataTypeToDataType a.1 with
  | .ok t => t
  | .error e => absurd h (arrowDataTypeToDataType_ne_error a.2 e)

/-- `toArrow` is what the encoder returns. -/
theorem dataTypeToArrowDataType_eq_toArrow (t : {t : DataType // t.Supported}) :
    dataTypeToArrowDataType t.1 = .ok (toArrow t) := by
  unfold toArrow
  split
  · assumption
  · exact absurd ‹_› (dataTypeToArrowDataType_ne_error t.2 _)

/-- `ofArrow` is what the decoder returns. -/
theorem arrowDataTypeToDataType_eq_ofArrow (a : {a : Arrow.DataType // a.Decodable}) :
    arrowDataTypeToDataType a.1 = .ok (ofArrow a) := by
  unfold ofArrow
  split
  · assumption
  · exact absurd ‹_› (arrowDataTypeToDataType_ne_error a.2 _)

/-- The supported data types and the Arrow types in canonical form, matched by the mapping:
`DataTypeToArrowDataType` one way, `ArrowDataTypeToDataType` the other. -/
def arrowEquiv :
    {t : DataType // t.Supported} ≃ {a : Arrow.DataType // a.Decodable ∧ a.canonical = a} where
  toFun t :=
    have h :=
      arrowDataTypeToDataType_of_dataTypeToArrowDataType (dataTypeToArrowDataType_eq_toArrow t)
    ⟨toArrow t, (dataTypeToArrowDataType_of_arrowDataTypeToDataType h.1).2.2, h.2⟩
  invFun a := ⟨ofArrow ⟨a.1, a.2.1⟩,
    (dataTypeToArrowDataType_of_arrowDataTypeToDataType
      (arrowDataTypeToDataType_eq_ofArrow _)).2.1⟩
  left_inv t := Subtype.ext <| Except.ok.inj <| (arrowDataTypeToDataType_eq_ofArrow _).symm.trans
    (arrowDataTypeToDataType_of_dataTypeToArrowDataType (dataTypeToArrowDataType_eq_toArrow t)).1
  right_inv a := Subtype.ext <| Except.ok.inj <|
    (dataTypeToArrowDataType_eq_toArrow _).symm.trans <|
    (dataTypeToArrowDataType_of_arrowDataTypeToDataType
      (arrowDataTypeToDataType_eq_ofArrow ⟨a.1, a.2.1⟩)).1.trans (congrArg _ a.2.2)

/-- The code's two conversions are the two directions of `arrowEquiv`. -/
theorem arrowEquiv_spec (t : {t : DataType // t.Supported})
    (a : {a : Arrow.DataType // a.Decodable ∧ a.canonical = a}) :
    dataTypeToArrowDataType t.1 = .ok (arrowEquiv t).1 ∧
      arrowDataTypeToDataType a.1 = .ok (arrowEquiv.symm a).1 :=
  ⟨dataTypeToArrowDataType_eq_toArrow t, arrowDataTypeToDataType_eq_ofArrow ⟨a.1, a.2.1⟩⟩

end DataType

end Gar
