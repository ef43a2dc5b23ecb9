import SparqlExpr.Double.Basic

/-! JSON values. An object is the list of its members. -/
namespace SparqlExpr

inductive Json where
  | null
  | bool (value : Bool)
  | integer (value : Int)
  | double (value : Double)
  | string (value : String)
  | array (items : List Json)
  | object (members : List (String × Json))
deriving Inhabited

namespace Json

/-- Looks a key up among members. -/
def find? (key : String) (members : List (String × Json)) : Option Json :=
  members.lookup key

/-- The member of an object under a key. -/
def get? (key : String) : Json → Option Json
  | object members => find? key members
  | _ => none

def asString? : Json → Option String
  | string value => some value
  | _ => none

def asArray? : Json → Option (List Json)
  | array items => some items
  | _ => none

/-- Puts a member at its place in key order; a key that is there already gets the new value. -/
def insertMember (key : String) (value : Json) : List (String × Json) → List (String × Json)
  | [] => [(key, value)]
  | (k, v) :: rest =>
    if key < k then (key, value) :: (k, v) :: rest
    else if key = k then (key, value) :: rest
    else (k, v) :: insertMember key value rest

/-- An object with its members in key order, the last of each key kept. -/
def ofMembers (members : List (String × Json)) : Json :=
  object (members.foldl (fun sorted m => insertMember m.1 m.2 sorted) [])

end Json

end SparqlExpr
