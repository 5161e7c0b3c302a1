import Guidebook.Toml.Number

namespace Guidebook.Toml

/-!
# Dates and times of TOML

A date, a time of day, or a date and a time with or without an offset from
universal time.  Each is kept in one notation: `T` before the time of day, the
seconds written out, no zeros at the end of a fraction, a capital `Z`, and a
plus sign before an offset of zero.
-/

/-- Takes a number of exactly so many decimal digits, within bounds. -/
def digitField (width low high : Nat) : Reader Text := fun text =>
  let digits := text.take width
  let value := numberOf 10 digits
  if digits.length = width ∧ digits.all Char.isDigit ∧ low ≤ value ∧ value ≤ high then
    some (digits, text.drop width)
  else
    none

/-- Takes a given character. -/
def mark (expected : Char) (text : Text) : Option Text :=
  match text with
  | [] => none
  | character :: rest => if character = expected then some rest else none

/-- The number of days of a month. -/
def daysOfMonth (year month : Nat) : Nat :=
  if month = 2 then
    if year % 4 = 0 ∧ (year % 100 ≠ 0 ∨ year % 400 = 0) then 29 else 28
  else if month = 4 ∨ month = 6 ∨ month = 9 ∨ month = 11 then 30
  else 31

/-- Takes a date. -/
def date : Reader Text := fun text => do
  let (year, text) ← digitField 4 0 9999 text
  let text ← mark '-' text
  let (month, text) ← digitField 2 1 12 text
  let text ← mark '-' text
  let (day, text) ← digitField 2 1 (daysOfMonth (numberOf 10 year) (numberOf 10 month)) text
  return (year ++ '-' :: month ++ '-' :: day, text)

/-- Takes a fraction of a second, of which nine digits count and zeros at the end do not. -/
def fractionOfSecond : Reader Text := fun text =>
  match text with
  | '.' :: rest =>
      let digits := rest.takeWhile Char.isDigit
      let kept := ((digits.take 9).reverse.dropWhile (· == '0')).reverse
      if digits.isEmpty then none
      else some (if kept.isEmpty then [] else '.' :: kept, rest.dropWhile Char.isDigit)
  | _ => some ([], text)

/-- Takes the seconds of a time of day, which are `00` where they are left out. -/
def seconds : Reader Text := fun text =>
  match text with
  | ':' :: rest => do
      let (second, text) ← digitField 2 0 60 rest
      let (fraction, text) ← fractionOfSecond text
      return (':' :: second ++ fraction, text)
  | _ => some ([':', '0', '0'], text)

/-- Takes a time of day. -/
def time : Reader Text := fun text => do
  let (hour, text) ← digitField 2 0 23 text
  let text ← mark ':' text
  let (minute, text) ← digitField 2 0 59 text
  let (second, text) ← seconds text
  return (hour ++ ':' :: minute ++ second, text)

/-- Takes an offset from universal time, if there is one.  An offset of zero has a plus sign. -/
def offset : Reader Text := fun text =>
  match text with
  | [] => some ([], [])
  | sign :: rest =>
      if sign = 'Z' ∨ sign = 'z' then some (['Z'], rest)
      else if sign = '+' ∨ sign = '-' then do
        let (hour, text) ← digitField 2 0 23 rest
        let text ← mark ':' text
        let (minute, text) ← digitField 2 0 59 text
        let isZero := numberOf 10 hour = 0 ∧ numberOf 10 minute = 0
        return ((if isZero then '+' else sign) :: hour ++ ':' :: minute, text)
      else some ([], text)

/-- Takes the time of day that follows a date, if there is one, and the offset. -/
def timeAfterDate : Reader Text := fun text =>
  match text with
  | [] => some ([], [])
  | separator :: rest =>
      if separator = 'T' ∨ separator = 't' ∨ separator = ' ' then do
        let (time, text) ← time rest
        let (offset, text) ← offset text
        return ('T' :: time ++ offset, text)
      else none

/-- The date, time or both that a text spells. -/
def dateTime? (text : Text) : Option Value :=
  match date text with
  | some (date, rest) =>
      match timeAfterDate rest with
      | some (time, []) => some (.dateTime (String.ofList (date ++ time)))
      | _ => none
  | none =>
      match time text with
      | some (time, []) => some (.dateTime (String.ofList time))
      | _ => none

end Guidebook.Toml
