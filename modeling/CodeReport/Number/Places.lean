import CodeReport.Number.Binary64

/-!
# Fixed decimal places

A binary64 value written with a fixed number of decimal places and never with
an exponent. The exact value is rounded, a tie to the even last digit. The sign
is written for every negative value, also when the digits are all zero.
-/

namespace CodeReport.Binary64

/-- Digits with a point before the last `places` of them, at least one digit in front of it. -/
def placePoint (places digits : Nat) : String :=
  if places = 0 then toString digits
  else
    let fraction := toString (digits % Nat.pow 10 places)
    toString (digits / Nat.pow 10 places) ++ "." ++
      String.ofList (List.replicate (places - fraction.length) '0') ++ fraction

/-- A value with `places` digits behind the point. -/
def withPlaces (places : Nat) : Binary64 → String
  | .notANumber => "NaN"
  | .infinity negative => if negative then "-inf" else "inf"
  | .finite negative significand exponent =>
    let (numerator, denominator) := ratio significand exponent
    let digits := divideNearest (numerator * Nat.pow 10 places) denominator
    (if negative then "-" else "") ++ placePoint places digits

end CodeReport.Binary64
