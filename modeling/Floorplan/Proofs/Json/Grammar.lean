import Floorplan.Json.Token
import Floorplan.Json.Writer

set_option autoImplicit false

namespace Floorplan.Json

open Number (digitsValue)
open Token (escape? isBlank isHighHalf isLowHalf joinHalves numeral unit?)

def Blanks (s : List Char) : Prop := ∀ c ∈ s, isBlank c = true

def Digits (s : List Char) : Prop := s ≠ [] ∧ ∀ c ∈ s, c.isDigit = true

inductive SpellsWhole : List Char → Prop where
  | zero : SpellsWhole ['0']
  | digits (s : List Char) (proper : Digits s) (leading : s.head? ≠ some '0') : SpellsWhole s

inductive SpellsFraction : Option (List Char) → List Char → Prop where
  | absent : SpellsFraction none []
  | places (s : List Char) (proper : Digits s) : SpellsFraction (some s) ('.' :: s)

inductive SpellsSign : Bool → List Char → Prop where
  | absent : SpellsSign false []
  | plus : SpellsSign false ['+']
  | minus : SpellsSign true ['-']

inductive SpellsPower : Option Int → List Char → Prop where
  | absent : SpellsPower none []
  | power (letter : Char) (negative : Bool) (sign digits : List Char)
      (exponent : letter = 'e' ∨ letter = 'E') (signed : SpellsSign negative sign) (proper : Digits digits) :
      SpellsPower (some (if negative then -(digitsValue digits : Int) else digitsValue digits))
        (letter :: (sign ++ digits))

def minusText (negative : Bool) : List Char := if negative then ['-'] else []

inductive SpellsNumber : Numeral → List Char → Prop where
  | number (negative : Bool) (whole : List Char) (fraction : Option (List Char)) (places : List Char)
      (power : Option Int) (scale : List Char) (integral : SpellsWhole whole)
      (fractional : SpellsFraction fraction places) (scaled : SpellsPower power scale) :
      SpellsNumber (numeral negative whole fraction power)
        (minusText negative ++ (whole ++ (places ++ scale)))

def BeginsLowHalf (s : List Char) : Prop :=
  ∃ a b c d unit rest, s = '\\' :: 'u' :: a :: b :: c :: d :: rest ∧ unit? a b c d = some unit
    ∧ isLowHalf unit = true

inductive SpellsChars : Option (List Char) → List Char → Prop where
  | done : SpellsChars (some []) []
  | plain (c : Char) (text : Option (List Char)) (s : List Char) (printed : 0x20 ≤ c.toNat)
      (unquoted : c ≠ '"') (bare : c ≠ '\\') (next : SpellsChars text s) :
      SpellsChars (text.map (c :: ·)) (c :: s)
  | escaped (letter c : Char) (text : Option (List Char)) (s : List Char)
      (short : escape? letter = some c) (next : SpellsChars text s) :
      SpellsChars (text.map (c :: ·)) ('\\' :: letter :: s)
  | named (a b c d : Char) (unit : Nat) (text : Option (List Char)) (s : List Char)
      (read : unit? a b c d = some unit) (first : isHighHalf unit = false) (second : isLowHalf unit = false)
      (next : SpellsChars text s) :
      SpellsChars (text.map (Char.ofNat unit :: ·)) ('\\' :: 'u' :: a :: b :: c :: d :: s)
  | pair (a b c d e f g h : Char) (high low : Nat) (text : Option (List Char)) (s : List Char)
      (read : unit? a b c d = some high) (first : isHighHalf high = true)
      (follow : unit? e f g h = some low) (second : isLowHalf low = true) (next : SpellsChars text s) :
      SpellsChars (text.map (joinHalves high low :: ·))
        ('\\' :: 'u' :: a :: b :: c :: d :: '\\' :: 'u' :: e :: f :: g :: h :: s)
  | half (a b c d : Char) (unit : Nat) (text : Option (List Char)) (s : List Char)
      (read : unit? a b c d = some unit)
      (lone : isLowHalf unit = true ∨ isHighHalf unit = true ∧ ¬ BeginsLowHalf s)
      (next : SpellsChars text s) :
      SpellsChars none ('\\' :: 'u' :: a :: b :: c :: d :: s)

inductive SpellsText : Text → List Char → Prop where
  | text (chars : Option (List Char)) (s : List Char) (inner : SpellsChars chars s) :
      SpellsText (chars.map String.ofList) ('"' :: (s ++ ['"']))

mutual

inductive Spells : Json → List Char → Prop where
  | null : Spells .null ['n', 'u', 'l', 'l']
  | bool (value : Bool) : Spells (.bool value) (boolText value)
  | number (value : Numeral) (s : List Char) (leaf : SpellsNumber value s) : Spells (.number value) s
  | string (text : Text) (s : List Char) (leaf : SpellsText text s) : Spells (.string text) s
  | array (items : List Json) (s : List Char) (inner : SpellsItems items s) :
      Spells (.array items) ('[' :: (s ++ [']']))
  | object (members : List (Text × Json)) (s : List Char) (inner : SpellsMembers members s) :
      Spells (.object members) ('\x7b' :: (s ++ ['\x7d']))

inductive SpellsItems : List Json → List Char → Prop where
  | empty (blanks : List Char) (blank : Blanks blanks) : SpellsItems [] blanks
  | last (item : Json) (before s after : List Char) (left : Blanks before) (right : Blanks after)
      (value : Spells item s) : SpellsItems [item] (before ++ (s ++ after))
  | more (item next : Json) (rest : List Json) (before s after others : List Char) (left : Blanks before)
      (right : Blanks after) (value : Spells item s) (remaining : SpellsItems (next :: rest) others) :
      SpellsItems (item :: next :: rest) (before ++ (s ++ (after ++ ',' :: others)))

inductive SpellsMembers : List (Text × Json) → List Char → Prop where
  | empty (blanks : List Char) (blank : Blanks blanks) : SpellsMembers [] blanks
  | last (name : Text) (value : Json) (s : List Char) (member : SpellsMember name value s) :
      SpellsMembers [(name, value)] s
  | more (name : Text) (value : Json) (next : Text × Json) (rest : List (Text × Json)) (s others : List Char)
      (member : SpellsMember name value s) (remaining : SpellsMembers (next :: rest) others) :
      SpellsMembers ((name, value) :: next :: rest) (s ++ ',' :: others)

inductive SpellsMember : Text → Json → List Char → Prop where
  | member (name : Text) (value : Json) (before label middle gap s after : List Char) (left : Blanks before)
      (named : SpellsText name label) (ahead : Blanks middle) (behind : Blanks gap) (inner : Spells value s)
      (right : Blanks after) :
      SpellsMember name value (before ++ (label ++ (middle ++ ':' :: (gap ++ (s ++ after)))))

end

def IsText (json : Json) (text : String) : Prop :=
  ∃ before s after, Blanks before ∧ Spells json s ∧ Blanks after ∧ text.toList = before ++ (s ++ after)

end Floorplan.Json
