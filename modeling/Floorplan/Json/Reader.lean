import Floorplan.Json.Token

set_option autoImplicit false

namespace Floorplan.Json

inductive Frame where
  | item (before : List Json)
  | member (before : List (Text × Json)) (name : Text)

inductive Expect where
  | value
  | itemOrEnd
  | afterItem (items : List Json)
  | nameOrEnd
  | name (members : List (Text × Json))
  | colon (members : List (Text × Json)) (name : Text)
  | afterMember (members : List (Text × Json))
  | nothing (result : Json)

structure Reading where
  expect : Expect
  stack : List Frame

namespace Reading

def start : Reading := { expect := .value, stack := [] }

def complete (value : Json) : List Frame → Reading
  | [] => { expect := .nothing value, stack := [] }
  | .item before :: stack => { expect := .afterItem (value :: before), stack }
  | .member before name :: stack => { expect := .afterMember ((name, value) :: before), stack }

def beginValue (stack : List Frame) : Token → Option Reading
  | .openArray => some { expect := .itemOrEnd, stack }
  | .openObject => some { expect := .nameOrEnd, stack }
  | .null => some (complete .null stack)
  | .bool value => some (complete (.bool value) stack)
  | .number value => some (complete (.number value) stack)
  | .string text => some (complete (.string text) stack)
  | .closeArray => none
  | .closeObject => none
  | .comma => none
  | .colon => none

def step (reading : Reading) (token : Token) : Option Reading :=
  let stack := reading.stack
  match reading.expect, token with
  | .value, token => beginValue stack token
  | .itemOrEnd, .closeArray => some (complete (.array []) stack)
  | .itemOrEnd, token => beginValue (.item [] :: stack) token
  | .afterItem items, .comma => some { expect := .value, stack := .item items :: stack }
  | .afterItem items, .closeArray => some (complete (.array items.reverse) stack)
  | .nameOrEnd, .closeObject => some (complete (.object []) stack)
  | .nameOrEnd, .string name => some { expect := .colon [] name, stack }
  | .name members, .string name => some { expect := .colon members name, stack }
  | .colon members name, .colon => some { expect := .value, stack := .member members name :: stack }
  | .afterMember members, .comma => some { expect := .name members, stack }
  | .afterMember members, .closeObject => some (complete (.object members.reverse) stack)
  | _, _ => none

def result? (reading : Reading) : Option Json :=
  match reading.expect with
  | .nothing value => some value
  | _ => none

end Reading

def ofTokens? (tokens : List Token) : Option Json :=
  (tokens.foldlM Reading.step Reading.start).bind Reading.result?

def parse? (text : String) : Option Json := (Token.scan text.toList).bind ofTokens?

end Floorplan.Json
