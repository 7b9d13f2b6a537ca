import Floorplan.Json.Value

set_option autoImplicit false

namespace Floorplan.Json

open Number (Decimal digitValue digitsValue)

inductive Token where
  | openArray
  | closeArray
  | openObject
  | closeObject
  | comma
  | colon
  | null
  | bool (value : Bool)
  | number (value : Numeral)
  | string (text : Text)
deriving DecidableEq

namespace Token

def isBlank (c : Char) : Bool := c == ' ' || c == '\t' || c == '\n' || c == '\r'

def mark? : Char → Option Token
  | '[' => some .openArray
  | ']' => some .closeArray
  | '\x7b' => some .openObject
  | '\x7d' => some .closeObject
  | ',' => some .comma
  | ':' => some .colon
  | _ => none

def hexDigit? (c : Char) : Option Nat :=
  if c.isDigit then some (digitValue c)
  else if 'a' ≤ c && c ≤ 'f' then some (c.toNat - 'a'.toNat + 10)
  else if 'A' ≤ c && c ≤ 'F' then some (c.toNat - 'A'.toNat + 10)
  else none

def unit? (a b c d : Char) : Option Nat := do
  let a ← hexDigit? a
  let b ← hexDigit? b
  let c ← hexDigit? c
  let d ← hexDigit? d
  pure (((a * 16 + b) * 16 + c) * 16 + d)

def isHighHalf (unit : Nat) : Bool := decide (0xD800 ≤ unit) && decide (unit < 0xDC00)
def isLowHalf (unit : Nat) : Bool := decide (0xDC00 ≤ unit) && decide (unit < 0xE000)

def joinHalves (high low : Nat) : Char := Char.ofNat (0x10000 + (high - 0xD800) * 0x400 + (low - 0xDC00))

def escape? : Char → Option Char
  | '"' => some '"'
  | '\\' => some '\\'
  | '/' => some '/'
  | 'b' => some '\x08'
  | 'f' => some '\x0c'
  | 'n' => some '\n'
  | 'r' => some '\r'
  | 't' => some '\t'
  | _ => none

/-- The character that the first escape of a text stands for, and how many characters the escape
takes after its backslash and its letter; no character for half of a pair. -/
def unicodeEscape? : List Char → Option (Option Char × Nat)
  | a :: b :: c :: d :: rest => do
    let unit ← unit? a b c d
    if isHighHalf unit then
      match rest with
      | '\\' :: 'u' :: e :: f :: g :: h :: _ => do
        let second ← unit? e f g h
        if isLowHalf second then pure (some (joinHalves unit second), 10) else pure (none, 4)
      | _ => pure (none, 4)
    else if isLowHalf unit then pure (none, 4)
    else pure (some (Char.ofNat unit), 4)
  | _ => none

/-- The characters up to the closing quote, and what follows it. `skip` characters are still part of
an escape; `whole` says that no half of a pair was met. Characters are kept last first. -/
def scanText (done : List Char) (whole : Bool) : Nat → List Char → Option (Text × List Char)
  | _, [] => none
  | skip + 1, _ :: rest => scanText done whole skip rest
  | 0, '"' :: rest => some (if whole then some (String.ofList done.reverse) else none, rest)
  | 0, '\\' :: 'u' :: rest =>
    match unicodeEscape? rest with
    | none => none
    | some (some c, taken) => scanText (c :: done) whole taken rest
    | some (none, taken) => scanText done false taken rest
  | 0, '\\' :: c :: rest =>
    match escape? c with
    | none => none
    | some c => scanText (c :: done) whole 0 rest
  | 0, c :: rest => if c.toNat < 0x20 then none else scanText (c :: done) whole 0 rest

def spanDigits (s : List Char) : List Char × List Char :=
  (s.takeWhile Char.isDigit, s.dropWhile Char.isDigit)

def scanFraction : List Char → Option (Option (List Char) × List Char)
  | '.' :: rest =>
    match spanDigits rest with
    | ([], _) => none
    | (digits, rest) => some (some digits, rest)
  | rest => some (none, rest)

def scanPower (negative : Bool) (s : List Char) : Option (Option Int × List Char) :=
  match spanDigits s with
  | ([], _) => none
  | (digits, rest) =>
    let power : Int := digitsValue digits
    some (some (if negative then -power else power), rest)

def scanExponent : List Char → Option (Option Int × List Char)
  | e :: '+' :: rest => if e = 'e' ∨ e = 'E' then scanPower false rest else some (none, e :: '+' :: rest)
  | e :: '-' :: rest => if e = 'e' ∨ e = 'E' then scanPower true rest else some (none, e :: '-' :: rest)
  | e :: rest => if e = 'e' ∨ e = 'E' then scanPower false rest else some (none, e :: rest)
  | [] => some (none, [])

def scanWhole : List Char → Option (List Char × List Char)
  | '0' :: rest => some (['0'], rest)
  | s =>
    match spanDigits s with
    | ([], _) => none
    | (digits, rest) => some (digits, rest)

/-- Add digits to a number while it fits into a word; the second part counts those left over. -/
def fill (n : Nat) : List Char → Nat × Nat
  | [] => (n, 0)
  | c :: rest =>
    let next := 10 * n + digitValue c
    if next < 1 <<< 64 then fill next rest else (n, rest.length + 1)

def numeral (negative : Bool) (whole : List Char) (fraction : Option (List Char))
    (power : Option Int) : Numeral :=
  let (n, beyond) := fill 0 whole
  match fraction, power with
  | none, none =>
    if beyond = 0 then .whole negative n else .decimal negative { digits := n, exponent := beyond }
  | _, _ =>
    let places := fraction.getD []
    -- digits before the point that were left over do not keep those after it from being added
    let (digits, left) := fill n places
    .decimal negative
      { digits, exponent := power.getD 0 + beyond - (places.length - left : Nat) }

def scanUnsigned (negative : Bool) (s : List Char) : Option (Numeral × List Char) := do
  let (whole, rest) ← scanWhole s
  let (fraction, rest) ← scanFraction rest
  let (power, rest) ← scanExponent rest
  pure (numeral negative whole fraction power, rest)

def scanNumber : List Char → Option (Numeral × List Char)
  | '-' :: rest => scanUnsigned true rest
  | s => scanUnsigned false s

def next? : List Char → Option (Token × List Char)
  | [] => none
  | '"' :: rest => (scanText [] true 0 rest).map fun (text, rest) => (.string text, rest)
  | 'n' :: 'u' :: 'l' :: 'l' :: rest => some (.null, rest)
  | 't' :: 'r' :: 'u' :: 'e' :: rest => some (.bool true, rest)
  | 'f' :: 'a' :: 'l' :: 's' :: 'e' :: rest => some (.bool false, rest)
  | c :: rest =>
    match mark? c with
    | some token => some (token, rest)
    | none => (scanNumber (c :: rest)).map fun (value, rest) => (.number value, rest)

def scanWith : Nat → List Char → Option (List Token)
  | _, [] => some []
  | 0, _ :: _ => none
  | fuel + 1, c :: rest =>
    if isBlank c then scanWith fuel rest
    else
      match next? (c :: rest) with
      | none => none
      | some (token, rest) => (scanWith fuel rest).map (token :: ·)

def scan (s : List Char) : Option (List Token) := scanWith s.length s

end Token

end Floorplan.Json
