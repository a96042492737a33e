import ClientForge.Json.Text
import ClientForge.Text.Order

/-!
The canonical form of a document: the fields of every object sorted by key, at every depth. Keys
compare by code points, which is the order of their UTF-8 bytes.
-/

namespace ClientForge.Json

mutual

def canonical : Json → Json
  | .array items => .array (canonicalItems items)
  | .object fields => .object (Text.sortOn Prod.fst (canonicalFields fields))
  | scalar => scalar

def canonicalItems : List Json → List Json
  | [] => []
  | item :: items => canonical item :: canonicalItems items

def canonicalFields : List (String × Json) → List (String × Json)
  | [] => []
  | (key, value) :: fields => (key, canonical value) :: canonicalFields fields

end

/-- Two spellings of one document have the same canonical text. -/
def canonicalText (document : Json) : String := compact (canonical document)

theorem canonicalItems_eq_map (items : List Json) : canonicalItems items = items.map canonical := by
  induction items with
  | nil => rfl
  | cons item items ih => simp [canonicalItems, ih]

theorem canonicalFields_eq_map (fields : List (String × Json)) :
    canonicalFields fields = fields.map fun f => (f.1, canonical f.2) := by
  induction fields with
  | nil => rfl
  | cons field fields ih => simp [canonicalFields, ih]

example : canonicalText (.object [("b", ofInt 1), ("a", .array [.object [("d", .null), ("c", .null)]])])
    = "\x7b\"a\":[\x7b\"c\":null,\"d\":null\x7d],\"b\":1\x7d" := by decide +kernel

end ClientForge.Json
