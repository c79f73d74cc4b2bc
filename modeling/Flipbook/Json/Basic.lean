import Flipbook.Number.Binary64

/-! JSON values. Members of an object keep their order. -/
namespace Flipbook

inductive Json where
  | null
  | bool (value : Bool)
  | integer (value : Int)
  | real (value : Binary64)
  | text (value : String)
  | list (members : List Json)
  | object (members : List (String × Json))
deriving Inhabited

/-- The two spellings of a field: it is written under the first and read under either. -/
structure Json.Key where
  written : String
  name : String
deriving DecidableEq, Repr

end Flipbook
