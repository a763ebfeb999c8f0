import Sctp.Text.Radix

/-! Decimal numbers, with or without fraction and exponent. -/
namespace Sctp.Text.Decimal

def unsigned : List Char → List Char
  | '+' :: digits => digits
  | '-' :: digits => digits
  | digits => digits

def areDigits (text : List Char) : Bool := !text.isEmpty && text.all (decimalDigit? · |>.isSome)

def isMantissa (text : List Char) : Bool :=
  match text.span (· != '.') with
  | (whole, []) => areDigits whole
  | (whole, _ :: fraction) => areDigits (whole ++ fraction)

/-- The names of infinity and of what is no number are numbers too, in letters of either case. -/
def isNumber (text : List Char) : Bool :=
  let text := unsigned text
  ["inf", "infinity", "nan"].contains (String.ofList text).toLower
    || match text.span (fun c => c != 'e' && c != 'E') with
      | (mantissa, []) => isMantissa mantissa
      | (mantissa, _ :: exponent) => isMantissa mantissa && areDigits (unsigned exponent)

end Sctp.Text.Decimal
