import Floorplan.Json.Reader
import Floorplan.Json.Writer
import Floorplan.Number.Scaled

/-!
The JSON form of a type: how its values are written, and which JSON values are read as one. A record
is written as an object with its fields in order; it is also read from an array of them.
-/

set_option autoImplicit false

namespace Floorplan

open Number (Decimal Binary64)

class JsonForm (β : Type) where
  write : β → Json
  read? : Json → Option β

class Named (β : Type) where
  all : List β
  name : β → String

def Named.ofName? {β : Type} [Named β] (name : String) : Option β :=
  Named.all.find? fun value => Named.name value == name

namespace Json

/-- A whole number of `[lo, hi]`. A zero with a sign is none. -/
def wholeIn? (lo hi : Int) : Json → Option Int
  | .number (.whole false magnitude) => if (magnitude : Int) ≤ hi then some magnitude else none
  | .number (.whole true magnitude) =>
    if magnitude ≠ 0 ∧ lo ≤ -(magnitude : Int) then some (-(magnitude : Int)) else none
  | _ => none

def countUpTo? (hi : Nat) (json : Json) : Option Nat := (wholeIn? 0 hi json).map Int.toNat

def Numeral.parts : Numeral → Bool × Decimal
  | .whole negative magnitude => (negative, { digits := magnitude, exponent := 0 })
  | .decimal negative value => (negative, value)

def Numeral.toFloat? (value : Numeral) : Option Float :=
  let (negative, size) := value.parts
  let bits := size.scaledBits
  if bits < Binary64.infinityBits then some (Binary64.floatOfBits negative bits) else none

def bool? : Json → Option Bool
  | .bool value => some value
  | _ => none

def string? : Json → Option String
  | .string text => text
  | _ => none

def list? {β : Type} (item? : Json → Option β) : Json → Option (List β)
  | .array items => items.mapM item?
  | _ => none

def pair? {β γ : Type} (first? : Json → Option β) (second? : Json → Option γ) :
    Json → Option (β × γ)
  | .array [a, b] => do
    let a ← first? a
    let b ← second? b
    pure (a, b)
  | _ => none

def knownMembers? (names : List String) : List (Text × Json) → Option (List (String × Json))
  | [] => some []
  | (none, _) :: _ => none
  | (some name, value) :: rest =>
    (knownMembers? names rest).map fun known =>
      if names.contains name then (name, value) :: known else known

/-- The fields of a record that are given, each once. Other members are passed over; an array gives
the first fields in their order. -/
def fields? (names : List String) : Json → Option (List (String × Json))
  | .object members => do
    let known ← knownMembers? names members
    if (known.map (·.1)).Nodup then pure known else none
  | .array items => if items.length ≤ names.length then some (names.zip items) else none
  | _ => none

def field? {β : Type} [JsonForm β] (fields : List (String × Json)) (name : String) : Option β :=
  (fields.lookup name).bind JsonForm.read?

def fieldOr? {β : Type} [JsonForm β] (fields : List (String × Json)) (name : String) (default : β) :
    Option β :=
  match fields.lookup name with
  | none => some default
  | some value => JsonForm.read? value

def tagged? : Json → Option (String × Json)
  | .string (some name) => some (name, .null)
  | .object [(some name, value)] => some (name, value)
  | _ => none

end Json

instance : JsonForm Bool where
  write := Json.bool
  read? := Json.bool?

instance : JsonForm UInt32 where
  write := fun n => Json.ofNat n.toNat
  read? := fun json => (json.countUpTo? ((1 <<< 32) - 1)).map UInt32.ofNat

instance : JsonForm UInt64 where
  write := fun n => Json.ofNat n.toNat
  read? := fun json => (json.countUpTo? ((1 <<< 64) - 1)).map UInt64.ofNat

instance : JsonForm Float where
  write := Json.ofFloat
  read?
    | .number value => value.toFloat?
    | _ => none

instance {β : Type} [JsonForm β] : JsonForm (List β) where
  write := fun items => .array (items.map JsonForm.write)
  read? := Json.list? JsonForm.read?

instance {β γ : Type} [JsonForm β] [JsonForm γ] : JsonForm (β × γ) where
  write := fun (a, b) => .array [JsonForm.write a, JsonForm.write b]
  read? := Json.pair? JsonForm.read? JsonForm.read?

def Named.write {β : Type} [Named β] (value : β) : Json := Json.ofString (Named.name value)

def Named.read? {β : Type} [Named β] (json : Json) : Option β := do
  let (name, content) ← json.tagged?
  match content with
  | .null => Named.ofName? name
  | _ => none

end Floorplan
