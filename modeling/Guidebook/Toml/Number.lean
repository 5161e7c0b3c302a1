import Guidebook.Toml.Quoted
import Guidebook.Toml.Value

namespace Guidebook.Toml

/-!
# Numbers of TOML

Whole numbers are written in decimal, hexadecimal, octal or binary digits, other
numbers in decimal digits with a fraction, an exponent or both.  An underscore
may stand between any two digits.
-/

/-- The digits of a numeral without the underscores between them. -/
def digits? (isDigit : Char → Bool) : Text → Option Text
  | [] => none
  | [digit] => if isDigit digit then some [digit] else none
  | digit :: '_' :: rest =>
      if isDigit digit then (digits? isDigit rest).map (digit :: ·) else none
  | digit :: rest => if isDigit digit then (digits? isDigit rest).map (digit :: ·) else none

/-- The number that digits of a base spell. -/
def numberOf (base : Nat) (digits : Text) : Nat :=
  digits.foldl (fun number digit => number * base + (hexDigit? digit).getD 0) 0

/-- The number that a numeral in digits of a base spells. -/
def numeral? (base : Nat) (text : Text) : Option Nat :=
  (digits? (fun digit => (hexDigit? digit).any (· < base)) text).map (numberOf base)

/-- Decimal digits that do not start with a zero, or the zero alone. -/
def wholeDigits? (text : Text) : Option Text :=
  match digits? Char.isDigit text with
  | some ('0' :: _ :: _) => none
  | digits => digits

/-- The sign of a number and what it stands before. -/
def signed (text : Text) : Bool × Text :=
  match text with
  | '-' :: rest => (true, rest)
  | '+' :: rest => (false, rest)
  | _ => (false, text)

/-- Whole numbers have at most 128 bits. -/
def isInRange (value : Int) : Bool :=
  match value with
  | .ofNat magnitude => magnitude < Nat.pow 2 128
  | .negSucc pred => pred < Nat.pow 2 127

/-- The whole number that a text spells. -/
def integer? (text : Text) : Option Value :=
  let value :=
    match text with
    | '0' :: 'x' :: digits => (numeral? 16 digits).map Int.ofNat
    | '0' :: 'o' :: digits => (numeral? 8 digits).map Int.ofNat
    | '0' :: 'b' :: digits => (numeral? 2 digits).map Int.ofNat
    | _ =>
        let (negative, magnitude) := signed text
        (wholeDigits? magnitude).map fun digits =>
          if negative then -Int.ofNat (numberOf 10 digits) else Int.ofNat (numberOf 10 digits)
  match value with
  | some value => if isInRange value then some (.integer value) else none
  | none => none

/-- Whether a decimal number, the given times a power of ten, rounds beyond all finite doubles. -/
def isBeyondDoubles (mantissa : Nat) (power : Int) : Bool :=
  let bound := Nat.pow 2 1024 - Nat.pow 2 970
  if mantissa = 0 then false
  else if 0 ≤ power then
    400 < power || bound ≤ mantissa * Nat.pow 10 power.toNat
  else
    let places := (-power).toNat
    places ≤ (Text.decimal mantissa).length && bound * Nat.pow 10 places ≤ mantissa

/-- Splits a text at the first character of a class, which is dropped. -/
def splitAtFirst (isMark : Char → Bool) (text : Text) : Text × Option Text :=
  match text.dropWhile (!isMark ·) with
  | [] => (text, none)
  | _ :: rest => (text.takeWhile (!isMark ·), some rest)

/-- The number with a fraction, an exponent or both that a text spells. -/
def float? (text : Text) : Option Value := do
  let (_, magnitude) := signed text
  if magnitude = ['i', 'n', 'f'] ∨ magnitude = ['n', 'a', 'n'] then
    return .float (String.ofList text)
  let (number, exponent) := splitAtFirst (fun mark => mark == 'e' || mark == 'E') magnitude
  let (whole, fraction) := splitAtFirst (· == '.') number
  if exponent.isNone && fraction.isNone then none
  let wholeDigits ← wholeDigits? whole
  let fractionDigits ←
    match fraction with
    | none => some []
    | some digits => digits? Char.isDigit digits
  let (isNegativePower, powerDigits) ←
    match exponent with
    | none => some (false, ['0'])
    | some power =>
        let (isNegative, digits) := signed power
        (digits? Char.isDigit digits).map fun digits => (isNegative, digits)
  let power : Int := numberOf 10 powerDigits
  let scale := (if isNegativePower then -power else power) - fractionDigits.length
  if isBeyondDoubles (numberOf 10 (wholeDigits ++ fractionDigits)) scale then none
  return .float (String.ofList text)

end Guidebook.Toml
