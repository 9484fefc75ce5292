import AspectWeaver.Toml.Item
import AspectWeaver.Toml.Quoted

/-!
# TOML numbers

Integers are decimal with an optional sign, or have a base and no sign; they must fit 64 bits.
Underscores may stand between digits. A number with a fraction or an exponent must not be so large that
it would round to infinity in double precision; on the negative side there is no such limit.
-/

set_option autoImplicit false

namespace AspectWeaver.Toml

open Reader

/-- Whether a character is a decimal digit. -/
def isDigit (c : Char) : Bool := '0' ≤ c && c ≤ '9'

/-- A digit, perhaps behind an underscore. -/
def nextDigit (accept : Char → Bool) : Reader Char :=
  satisfy accept <|> do char '_'; satisfy accept

/-- Digits with single underscores between them. -/
def digits (accept : Char → Bool) : Reader (List Char) := do
  let first ← satisfy accept
  let rest ← many (nextDigit accept)
  pure (first :: rest)

/-- Decimal digits without a needless zero in front. -/
def canonicalDigits : Reader (List Char) := do
  let first ← satisfy isDigit
  if first == '0' then pure [first]
  else do
    let rest ← many (nextDigit isDigit)
    pure (first :: rest)

/-- An optional sign; whether it is a minus. -/
def sign : Reader Bool := (do char '-'; pure true) <|> (do char '+'; pure false) <|> pure false

/-- A number with its sign. -/
def signed (negative : Bool) (n : Nat) : Int := if negative then -n else n

/-- An integer that fits 64 bits. -/
def bounded (n : Int) : Reader Item :=
  if -0x8000000000000000 ≤ n && n < 0x8000000000000000 then pure (.integer n) else failure

/-- An integer with a base. -/
def basedInteger (mark : Char) (base : Nat) (accept : Char → Bool) : Reader Item := do
  chars ['0', mark]
  bounded (Text.numberOf base (← digits accept))

/-- An integer. -/
def integer : Reader Item :=
  basedInteger 'x' 16 Text.isHexDigit
    <|> basedInteger 'o' 8 (fun c => '0' ≤ c && c ≤ '7')
    <|> basedInteger 'b' 2 (fun c => c == '0' || c == '1')
    <|> do
      let negative ← sign
      bounded (signed negative (Text.numberOf 10 (← canonicalDigits)))

/-- The smallest number that rounds to infinity in double precision: halfway between the largest
double and the next power of two. -/
def doubleLimit : Nat := (Nat.pow 2 54 - 1) * Nat.pow 2 970

/-- Whether `significand * 10 ^ exponent` rounds to infinity in double precision. Far from the limit
the number of digits decides. -/
def overflows (significand : Nat) (exponent : Int) : Bool :=
  let magnitude := (toString significand).length + exponent
  if significand = 0 || magnitude < 300 then false
  else if 400 < magnitude then true
  else if 0 ≤ exponent then doubleLimit ≤ significand * Nat.pow 10 exponent.toNat
  else doubleLimit * Nat.pow 10 (-exponent).toNat ≤ significand

/-- The digits behind the point. -/
def fraction : Reader (List Char) := do
  char '.'
  digits isDigit

/-- The power of ten. -/
def exponent : Reader Int := do
  let _ ← satisfy fun c => c == 'e' || c == 'E'
  let negative ← sign
  pure (signed negative (Text.numberOf 10 (← digits isDigit)))

/-- A number with a fraction, an exponent or both. -/
def finiteFloat : Reader Item := do
  let negative ← sign
  let whole ← canonicalDigits
  let (behind, power) ← (do
      let behind ← fraction
      let power ← maybe exponent
      pure (behind, power.getD 0))
    <|> (do pure ([], ← exponent))
  let significand := Text.numberOf 10 (whole ++ behind)
  let power := power - behind.length
  if !negative && overflows significand power then failure
  else pure (.float (.finite negative significand power))

/-- An infinite number, or the number that is none. -/
def specialFloat : Reader Item := do
  let negative ← sign
  (do word "inf"; pure (.float (.infinite negative))) <|> (do word "nan"; pure (.float .undefined))

end AspectWeaver.Toml
