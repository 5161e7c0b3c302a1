namespace Guidebook

/-!
# JSON data

The data that guides and code are handed on as.
-/

/-- A JSON value; the members of an object keep their order. -/
inductive Json where
  | null
  | boolean (value : Bool)
  | number (value : Nat)
  | string (text : String)
  | array (items : List Json)
  | object (members : List (String × Json))
  deriving Repr, Inhabited

end Guidebook
