import ExQServe.Agent.JsonDump
import ExQServe.Agent.NumberText

/-! # JSON values that are written

`json.dumps` without spaces and without ASCII escaping. A value that was read is read again
from what it is written as. -/

namespace ExQServe

open ExQServe.Json

mutual

/-- `json.dumps(value, ensure_ascii=False, separators=(",", ":"))`. -/
def jsonDumps : JsonValue → PyStr
  | .null => py "null"
  | .bool true => py "true"
  | .bool false => py "false"
  | .int value => dumpsInt value
  | .float value => value.repr
  | .str value => dumpsString value
  | .list [] => py "[]"
  | .list (item :: items) => chr '[' :: (jsonDumps item ++ dumpsRest items)
  | .dict [] => py "\x7b\x7d"
  | .dict ((key, value) :: entries) =>
      chr '\x7b' :: (dumpsString key ++ chr ':' :: (jsonDumps value ++ dumpsMembers entries))

def dumpsRest : List JsonValue → PyStr
  | [] => [chr ']']
  | item :: items => chr ',' :: (jsonDumps item ++ dumpsRest items)

def dumpsMembers : List (PyStr × JsonValue) → PyStr
  | [] => [chr '\x7d']
  | (key, value) :: entries =>
      chr ',' :: (dumpsString key ++ chr ':' :: (jsonDumps value ++ dumpsMembers entries))

end

namespace Json

/-! ## Numbers -/

theorem written_scanned {value : JsonValue}
    (read : scanNumber (jsonDumps value) = some (value, [])) :
    Written (.value value) (jsonDumps value) := by
  rcases scanNumber_reads read with ⟨front, split, shape, reads⟩
  rw [List.append_nil] at split
  rw [split]
  exact .number shape reads

/-! ## Values -/

def dumpsPart : Part → PyStr
  | .value value => jsonDumps value
  | .items [] => [chr ']']
  | .items (item :: items) => jsonDumps item ++ dumpsRest items
  | .entries [] => [chr '\x7d']
  | .entries ((key, value) :: entries) =>
      dumpsString key ++ chr ':' :: (jsonDumps value ++ dumpsMembers entries)

end Json

end ExQServe
