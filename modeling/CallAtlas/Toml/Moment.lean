import CallAtlas.Text.Numeral
import CallAtlas.Toml.Basic

set_option autoImplicit false
set_option relaxedAutoImplicit false

namespace CallAtlas.Toml

def readFixed? (width : Nat) (text : List Char) : Option (Nat × List Char) :=
  let digits := text.take width
  if digits.length = width ∧ digits.all Char.isDigit then
    some (digits.foldl (fun value c => 10 * value + (Text.digit? c).getD 0) 0, text.drop width)
  else none

def readMark? (mark : Char) : List Char → Option (List Char)
  | c :: rest => if c = mark then some rest else none
  | [] => none

def isLeap (year : Nat) : Bool := year % 4 = 0 && (year % 100 ≠ 0 || year % 400 = 0)

def daysOf (year month : Nat) : Nat :=
  if month = 2 then (if isLeap year then 29 else 28)
  else if month = 4 ∨ month = 6 ∨ month = 9 ∨ month = 11 then 30
  else 31

def padded (width n : Nat) : List Char :=
  let digits := Text.decimal n
  List.replicate (width - digits.length) '0' ++ digits

def readDate? (text : List Char) : Option (List Char × List Char) := do
  let (year, text) ← readFixed? 4 text
  let text ← readMark? '-' text
  let (month, text) ← readFixed? 2 text
  let text ← readMark? '-' text
  let (day, text) ← readFixed? 2 text
  if 1 ≤ month ∧ month ≤ 12 ∧ 1 ≤ day ∧ day ≤ daysOf year month then
    some (padded 4 year ++ '-' :: padded 2 month ++ '-' :: padded 2 day, text)
  else none

/-- The spelling of a fraction of a second: nine places at most, no zeros at the end. -/
def fractionText (digits : List Char) : List Char :=
  match ((digits.take 9).reverse.dropWhile (· = '0')).reverse with
  | [] => []
  | places => '.' :: places

def readTime? (text : List Char) : Option (List Char × List Char) := do
  let (hour, text) ← readFixed? 2 text
  let text ← readMark? ':' text
  let (minute, text) ← readFixed? 2 text
  let text ← readMark? ':' text
  let (second, text) ← readFixed? 2 text
  if 23 < hour ∨ 59 < minute ∨ 60 < second then none
  else
    let spelling := padded 2 hour ++ ':' :: padded 2 minute ++ ':' :: padded 2 second
    match text with
    | '.' :: rest =>
      let digits := rest.takeWhile Char.isDigit
      if digits.isEmpty then none
      else some (spelling ++ fractionText digits, rest.dropWhile Char.isDigit)
    | text => some (spelling, text)

def readOffset? : List Char → Option (List Char)
  | [] => some []
  | ['Z'] => some ['Z']
  | ['z'] => some ['Z']
  | sign :: text =>
    if sign = '+' ∨ sign = '-' then do
      let (hours, text) ← readFixed? 2 text
      let text ← readMark? ':' text
      let (minutes, text) ← readFixed? 2 text
      if text = [] ∧ hours ≤ 23 ∧ minutes ≤ 59 then
        let sign := if hours = 0 ∧ minutes = 0 then '+' else sign
        some (sign :: padded 2 hours ++ ':' :: padded 2 minutes)
      else none
    else none

def readMoment? (text : List Char) : Option (List Char) :=
  match readDate? text with
  | some (date, []) => some date
  | some (date, mark :: rest) =>
    if mark = 'T' ∨ mark = 't' ∨ mark = ' ' then do
      let (time, rest) ← readTime? rest
      let offset ← readOffset? rest
      some (date ++ 'T' :: time ++ offset)
    else none
  | none =>
    match readTime? text with
    | some (time, []) => some time
    | _ => none

end CallAtlas.Toml
