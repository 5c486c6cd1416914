import CallAtlas.Text.Numeral

set_option autoImplicit false
set_option relaxedAutoImplicit false

namespace CallAtlas

structure Duration where
  nanoseconds : Nat
  deriving DecidableEq

namespace Duration

def second : Nat := 1000000000

def ofSeconds (seconds : Nat) : Duration := ⟨seconds * second⟩

def seconds (duration : Duration) : Nat := duration.nanoseconds / second

/-- A number of parts as places after a point, without zeros at the end. -/
def places (count width : Nat) : List Char :=
  let digits := Text.decimal count
  let padded := List.replicate (width - digits.length) '0' ++ digits
  (padded.reverse.dropWhile (· = '0')).reverse

/-- A number of units of which each has `10 ^ width` parts. -/
def inUnits (parts width : Nat) (unit : String) : String :=
  let whole := Text.decimal (parts / Nat.pow 10 width)
  let rest := parts % Nat.pow 10 width
  let text := if rest = 0 then whole else whole ++ '.' :: places rest width
  String.ofList text ++ unit

def text (duration : Duration) : String :=
  let parts := duration.nanoseconds
  if second ≤ parts then inUnits parts 9 "s"
  else if 1000000 ≤ parts then inUnits parts 6 "ms"
  else if 1000 ≤ parts then inUnits parts 3 "µs"
  else inUnits parts 0 "ns"

example : (Duration.mk 1500000000).text = "1.5s" := by decide +kernel
example : (Duration.mk 1000).text = "1µs" := by decide +kernel
example : (Duration.mk 0).text = "0ns" := by decide +kernel

end Duration

end CallAtlas
