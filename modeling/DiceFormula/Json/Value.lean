/-
# JSON values

Integers are kept exactly and apart from numbers with a fraction or an exponent.
The members of an object stay in the order in which they are written, repeated
names included, because what is said about an object follows that order.
-/

import DiceFormula.Decimal.Binary64

namespace DiceFormula

inductive Json where
  | null
  | bool (value : Bool)
  | integer (value : Int)
  | decimal (value : Binary64)
  | string (value : String)
  | array (items : List Json)
  | object (members : List (String × Json))

namespace Json

/-- The last value given to a name. -/
def lastMember? (members : List (String × Json)) (name : String) : Option Json :=
  (members.reverse.find? fun member => member.1 = name).map Prod.snd

def get? (json : Json) (name : String) : Option Json :=
  match json with
  | object members => lastMember? members name
  | _ => none

def ofNat (n : Nat) : Json :=
  integer n

end Json

end DiceFormula
