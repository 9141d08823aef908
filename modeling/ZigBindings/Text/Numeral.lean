import ZigBindings.Text.CodePoint

/-!
# Whole numbers as text

A numeral is read with white space around it, with a sign, with the digits of any script and with
single underscores between digits. It is written in one form only: a minus where needed and ASCII
digits without a leading zero.
-/

namespace ZigBindings.Text

def digitLimit : Nat := 4300

/-- The values of the digits of a numeral after its first digit: an underscore has a digit on each
side. -/
def laterDigits? : List Char → Option (List Nat)
  | [] => some []
  | '_' :: c :: rest => do
    let value ← digitValue? c
    let values ← laterDigits? rest
    return value :: values
  | c :: rest => do
    let value ← digitValue? c
    let values ← laterDigits? rest
    return value :: values

def digits? : List Char → Option (List Nat)
  | [] => none
  | c :: rest => do
    let value ← digitValue? c
    let values ← laterDigits? rest
    return value :: values

/-- The number that a list of decimal digits stands for, the most significant one first. -/
def ofDigits (values : List Nat) : Nat :=
  values.foldl (fun number value => 10 * number + value) 0

def natural? (text : List Char) : Option Nat := do
  let values ← digits? text
  if values.length ≤ digitLimit then some (ofDigits values) else none

def trimBlank (text : List Char) : List Char :=
  ((text.dropWhile isBlank).reverse.dropWhile isBlank).reverse

def integer? (text : List Char) : Option Int :=
  match trimBlank text with
  | '-' :: rest => (natural? rest).map fun number => -(number : Int)
  | '+' :: rest => (natural? rest).map Int.ofNat
  | digits => (natural? digits).map Int.ofNat

def decimal (number : Int) : String :=
  match number with
  | .ofNat magnitude => String.ofList (Nat.toDigits 10 magnitude)
  | .negSucc magnitude => "-" ++ String.ofList (Nat.toDigits 10 (magnitude + 1))

end ZigBindings.Text
