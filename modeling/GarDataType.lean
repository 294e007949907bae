import GarDataType.Arrow
import GarDataType.DataType
import GarDataType.Backend
import GarDataType.TypeName
import GarDataType.Correspondence
