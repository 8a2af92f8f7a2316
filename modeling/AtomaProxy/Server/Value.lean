/-
JSON values as the proxy reads them (`serde_json::Value`). A number is an
unsigned or a negative 64-bit integer, or a float, which no integer accessor
reads; an object is the list of its members, looked up by key.
-/
import Mathlib.Data.List.Basic
import Mathlib.Data.UInt

namespace AtomaProxy

inductive Number where
  | posInt (n : UInt64)
  | negInt (n : Int64)
  | float (bits : UInt64)
  deriving DecidableEq, Repr

inductive Value where
  | null
  | bool (b : Bool)
  | number (n : Number)
  | string (s : String)
  | array (items : List Value)
  | object (members : List (String × Value))
  deriving BEq, Repr

namespace Value

/-- `get`: the member of an object, nothing of any other value. -/
def get (v : Value) (key : String) : Option Value :=
  match v with
  | .object members => members.lookup key
  | _ => .none

/-- Indexing by a key: `null` where there is no such member. -/
def index (v : Value) (key : String) : Value := (v.get key).getD .null

def asStr : Value → Option String
  | .string s => .some s
  | _ => .none

def asBool : Value → Option Bool
  | .bool b => .some b
  | _ => .none

def asArray : Value → Option (List Value)
  | .array items => .some items
  | _ => .none

def asU64 : Value → Option UInt64
  | .number (.posInt n) => .some n
  | _ => .none

def asI64 : Value → Option Int64
  | .number (.posInt n) => if n.toNat < 2 ^ 63 then .some n.toInt64 else .none
  | .number (.negInt n) => .some n
  | _ => .none

def isNull : Value → Bool
  | .null => true
  | _ => false

/-- `obj.contains_key` on the members of an object. -/
def containsKey (v : Value) (key : String) : Bool := (v.get key).isSome

end Value

end AtomaProxy
