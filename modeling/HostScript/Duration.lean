import HostScript.Text.Decimal

/-!
# Spans of time

A span is a whole number of nanoseconds. Its text uses the largest of the units s, ms, µs and ns that
it fills at least once, with the rest of it as a decimal fraction.
-/
namespace HostScript

structure Duration where
  nanoseconds : Nat
  deriving DecidableEq, Repr

namespace Duration

def ofMilliseconds (n : Nat) : Duration := ⟨n * 1000000⟩

/-- The whole milliseconds in a span. -/
def milliseconds (d : Duration) : Nat := d.nanoseconds / 1000000

/-- The digits of a fraction with so many places, without the zeros at its end. -/
def fractionDigits (places n : Nat) : List Char :=
  let digits := Text.decimalDigits n
  ((List.replicate (places - digits.length) '0' ++ digits).reverse.dropWhile (· = '0')).reverse

/-- A span counted in a unit of as many nanoseconds as a one with `places` zeros says. -/
def inUnit (places : Nat) (unit : String) (n : Nat) : String :=
  let fraction := fractionDigits places (n % Nat.pow 10 places)
  Text.natural (n / Nat.pow 10 places) ++
    (if fraction.isEmpty then "" else "." ++ String.ofList fraction) ++ unit

def text (d : Duration) : String :=
  if 1000000000 ≤ d.nanoseconds then inUnit 9 "s" d.nanoseconds
  else if 1000000 ≤ d.nanoseconds then inUnit 6 "ms" d.nanoseconds
  else if 1000 ≤ d.nanoseconds then inUnit 3 "µs" d.nanoseconds
  else Text.natural d.nanoseconds ++ "ns"

end Duration

end HostScript
