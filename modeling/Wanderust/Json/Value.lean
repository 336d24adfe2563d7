import Mathlib.Algebra.Group.Int.Defs

/-!
# JSON values

The values of a JSON text.  A number is an integer or a finite floating-point
number; a number that is not finite has no JSON value and is written as `null`.
-/

namespace Json

/-- What JSON needs of a type of floating-point numbers. -/
class JsonFloat (F : Type) where
  isFinite : F -> Bool
  ofInt : Int -> F

abbrev Finite (F : Type) [JsonFloat F] := { x : F // JsonFloat.isFinite x = true }

inductive Value (F : Type) [JsonFloat F] where
  | null
  | bool (b : Bool)
  | integer (i : Int)
  | float (x : Finite F)
  | string (s : String)
  | array (items : List (Value F))
  | object (members : List (String × Value F))

namespace Value

variable {F : Type} [JsonFloat F]

/-- A floating-point number as a value: `null` where it is not finite. -/
def ofFloat (x : F) : Value F :=
  if h : JsonFloat.isFinite x = true then .float ⟨x, h⟩ else .null

/-- The range of the integers that are kept as integers, from `i64::MIN` to `u64::MAX`. -/
def IntegerInRange (i : Int) : Prop := -(2 ^ 63) ≤ i ∧ i < 2 ^ 64

mutual

def InRange : Value F -> Prop
  | .integer i => IntegerInRange i
  | .array items => ItemsInRange items
  | .object members => MembersInRange members
  | _ => True

def ItemsInRange : List (Value F) -> Prop
  | [] => True
  | v :: rest => InRange v ∧ ItemsInRange rest

def MembersInRange : List (String × Value F) -> Prop
  | [] => True
  | (_, v) :: rest => InRange v ∧ MembersInRange rest

end

theorem inRange_ofFloat (x : F) : InRange (ofFloat x) := by
  unfold ofFloat
  split
  · unfold InRange
    trivial
  · unfold InRange
    trivial

end Value

structure TextFormat (F : Type) [JsonFloat F] where
  print : Value F -> String
  parse : String -> Option (Value F)

def TextFormat.Inverse {F : Type} [JsonFloat F] (text : TextFormat F) : Prop :=
  forall v, v.InRange -> text.parse (text.print v) = some v

end Json
