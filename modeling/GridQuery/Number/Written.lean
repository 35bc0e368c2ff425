import GridQuery.Number.Decimal

/-!
# The written form of doubles

The shortest digits that name a double, positional from `10 ^ (-4)` up to `10 ^ 16` and with an
exponent beyond.  A positional form keeps at least one digit after the point, an exponent has a sign
and at least two digits.
-/

namespace GridQuery

namespace Decimal

def numeral (n : Nat) : List Char := Nat.toDigits 10 n

/-- Positional form of digits whose point stands after the first `point` of them. -/
def positional (digits : List Char) (point : Int) : List Char :=
  if point ≤ 0 then
    '0' :: '.' :: List.replicate (-point).toNat '0' ++ digits
  else if (digits.length : Int) ≤ point then
    digits ++ List.replicate (point.toNat - digits.length) '0' ++ ['.', '0']
  else
    digits.take point.toNat ++ '.' :: digits.drop point.toNat

def scientific (digits : List Char) (exponent : Int) : List Char :=
  let mantissa := match digits with
    | [] => []
    | [d] => [d]
    | d :: rest => d :: '.' :: rest
  let power := numeral exponent.natAbs
  mantissa ++ 'e' :: (if exponent < 0 then '-' else '+') ::
    List.replicate (2 - power.length) '0' ++ power

def written (d : Decimal) : List Char :=
  let digits := numeral d.digits
  let point := digits.length + d.exponent
  if -4 < point ∧ point ≤ 16 then positional digits point else scientific digits (point - 1)

end Decimal

def Magnitude.written (m : Magnitude) : List Char :=
  if m.rank = 0 then ['0', '.', '0']
  else if m.isFinite then (Decimal.shortest m).written
  else ['i', 'n', 'f']

def Double.text : Double → String
  | .nan => "nan"
  | .signed negative m => String.ofList (if negative then '-' :: m.written else m.written)

end GridQuery
