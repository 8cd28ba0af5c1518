import Shipshape.Json.Decode
import Shipshape.Json.Printer
import Shipshape.Proofs.Dict

/-!
# Reading objects

An object that is made from a dictionary or from a list of fields is read as that dictionary, or as the one that
the list fills.
-/

namespace Shipshape.Json

theorem get?_obj (l : List (String × Json)) (k : String) : (obj l).get? k = l.reverse.lookup k :=
  Dict.get?_ofList l k

@[simp] theorem fields?_ofDict (d : Dict Json) : (ofDict d).fields? = some d :=
  congrArg some d.ofList_entries

@[simp] theorem fields_ofDict (d : Dict Json) : (ofDict d).fields = d := by
  rw [fields, fields?_ofDict, Option.getD_some]

theorem ofDict_injective : Function.Injective ofDict := Function.LeftInverse.injective fields_ofDict

@[simp] theorem get?_ofDict (d : Dict Json) (k : String) : (ofDict d).get? k = d.get? k := by
  rw [get?, fields_ofDict]

@[simp] theorem fields_setField (v : Json) (k : String) (x : Json) : (v.setField k x).fields = v.fields.insert k x :=
  fields_ofDict _

theorem get?_ofFields (l : List (String × Json)) (k : String) : (ofFields l).get? k = l.reverse.lookup k := by
  rw [ofFields, get?_ofDict, Dict.get?_ofList]

theorem get?_ofFields_eq_none_iff {l : List (String × Json)} {k : String} :
    (ofFields l).get? k = none ↔ k ∉ l.map Prod.fst := by
  rw [get?_ofFields, Dict.lookup_eq_none_iff, List.map_reverse, List.mem_reverse]

theorem getD_ofFields (l : List (String × Json)) (k : String) :
    (ofFields l).getD k = (l.reverse.lookup k).getD .null := by
  rw [getD, get?_ofFields]

theorem record?_ofDict (names : List String) (d : Dict Json) : (ofDict d).record? names = some d.get? :=
  congrArg (fun d : Dict Json => some d.get?) d.ofList_entries

theorem record?_ofFields (names : List String) (l : List (String × Json)) :
    (ofFields l).record? names = some fun k => l.reverse.lookup k := by
  rw [ofFields, record?_ofDict]
  exact congrArg some (funext (Dict.get?_ofList l))

theorem plainTexts_ofStrings (l : List String) : (ofStrings l).plainTexts = l := by
  rw [ofStrings, plainTexts, List.map_map]
  exact List.map_id l

theorem plainTextDict_ofStringDict (d : Dict String) : (ofStringDict d).plainTextDict = d := by
  rw [ofStringDict, plainTextDict, fields_ofDict]
  ext k : 1
  rw [Dict.get?_mapValues, Dict.get?_mapValues, Option.map_map]
  exact congrFun Option.map_id _

end Shipshape.Json
