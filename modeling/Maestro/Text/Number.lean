import Mathlib.Algebra.Order.Floor.Ring
import Mathlib.Data.Rat.Floor

/-!
# Numbers in texts

`atoi`, and `sscanf` with a format that ends in `%lf`, as the C library has them: white space,
a sign, and then as many characters as make a number. A double is a rational number, an
infinity or not a number; the rounding of doubles is left out.
-/

namespace Text

/-- A double without rounding. -/
inductive Number where
  | finite (value : ℚ)
  | infinite (negative : Bool)
  | nan
deriving DecidableEq

/-- The quotient of two doubles; a zero divisor counts as positive. -/
def Number.quotient (a b : ℚ) : Number :=
  if b ≠ 0 then .finite (a / b) else if a = 0 then .nan else .infinite (decide (a < 0))

/-- A double divided by a positive constant. -/
def Number.over (x : Number) (d : ℚ) : Number :=
  match x with
  | finite value => finite (value / d)
  | infinite negative => infinite negative
  | nan => nan

/-- A number with the given number of decimals, a tie going to the even digit. -/
def Number.fixed (places : ℕ) : Number → String
  | finite value =>
    let scaled := |value| * 10 ^ places
    let rest := scaled - ⌊scaled⌋
    let rounded := if rest < 1 / 2 ∨ rest = 1 / 2 ∧ ⌊scaled⌋ % 2 = 0 then ⌊scaled⌋ else ⌊scaled⌋ + 1
    let decimals := toString (rounded % 10 ^ places)
    (if value < 0 then "-" else "") ++ toString (rounded / 10 ^ places) ++ "." ++
      String.ofList (List.replicate (places - decimals.length) '0') ++ decimals
  | infinite negative => if negative then "-inf" else "inf"
  | nan => "nan"

/-- A number as the format `%.2lf` prints it. -/
def Number.text (x : Number) : String := x.fixed 2

/-- White space in the C locale. -/
def isSpace (c : Char) : Bool := c ∈ [' ', '\t', '\n', '\x0b', '\x0c', '\r']

/-- An optional sign, and what follows it. -/
def takeSign : List Char → Bool × List Char
  | '-' :: text => (true, text)
  | '+' :: text => (false, text)
  | text => (false, text)

/-- The value of a digit, which may be hexadecimal. -/
def digitValue (c : Char) : ℕ := if c.isDigit then c.toNat - '0'.toNat else c.toLower.toNat - 'a'.toNat + 10

/-- A digit of the base. -/
def isDigitOf (base : ℕ) (c : Char) : Bool :=
  c.isDigit || (base == 16 && 'a' ≤ c.toLower && c.toLower ≤ 'f')

/-- The value of a run of digits. -/
def digitsValue (base : ℕ) (digits : List Char) : ℕ :=
  digits.foldl (fun value c => base * value + digitValue c) 0

/-- A value brought into the range of `long`. -/
def clampLong (value : ℤ) : ℤ := max (-2 ^ 63) (min value (2 ^ 63 - 1))

/-- `atoi`: `strtol` in base 10, converted to `int`. -/
def atoi (text : List Char) : ℤ :=
  let (negative, body) := takeSign (text.dropWhile isSpace)
  let value : ℤ := digitsValue 10 (body.takeWhile Char.isDigit)
  (clampLong (if negative then -value else value)).bmod (2 ^ 32)

/-- The exponent after a mantissa; 0 if there is none. -/
def exponentOf (mark : Char) : List Char → ℤ
  | [] => 0
  | c :: text =>
    if c.toLower = mark then
      let (negative, body) := takeSign text
      let value : ℤ := digitsValue 10 (body.takeWhile Char.isDigit)
      if negative then -value else value
    else 0

/-- A mantissa in a base and a power of `scale` after a mark. -/
def scanMantissa (base scale : ℕ) (mark : Char) (text : List Char) : Option ℚ :=
  let whole := text.takeWhile (isDigitOf base)
  let (fraction, rest) :=
    match text.dropWhile (isDigitOf base) with
    | '.' :: rest => (rest.takeWhile (isDigitOf base), rest.dropWhile (isDigitOf base))
    | rest => ([], rest)
  if whole ++ fraction = [] then none
  else some (digitsValue base (whole ++ fraction) / base ^ fraction.length * scale ^ exponentOf mark rest)

/-- The text begins with the word, in any case. -/
def startsWith (word : String) (text : List Char) : Bool := word.toList.isPrefixOf (text.map Char.toLower)

/-- What a sign does to a value. -/
def signed (negative : Bool) (value : ℚ) : Number := .finite (if negative then -value else value)

/-- The conversion `%lf`; `none` is a matching failure. -/
def scanDouble (text : List Char) : Option Number :=
  let (negative, body) := takeSign (text.dropWhile isSpace)
  if startsWith "nan" body then some .nan
  else if startsWith "inf" body then
    if startsWith "infi" body && !startsWith "infinity" body then none else some (.infinite negative)
  else if startsWith "0x" body then (scanMantissa 16 2 'p' (body.drop 2)).map (signed negative)
  else (scanMantissa 10 10 'e' body).map (signed negative)

/-- The part of a format before the conversion: white space matches any amount of it, and any other
character itself. -/
def matchFormat : List Char → List Char → Option (List Char)
  | [], text => some text
  | f :: format, text =>
    if isSpace f then matchFormat format (text.dropWhile isSpace)
    else
      match text with
      | [] => none
      | c :: text => if c = f then matchFormat format text else none

/-- `sscanf` with a format and then `%lf`: the number that is assigned, if one is. -/
def sscanf (format : String) (text : List Char) : Option Number :=
  (matchFormat format.toList text).bind scanDouble

end Text
