/-!
# Numerals

Numbers as messages and device lists print them, with leading zeros up to a width, and as options
give them, with an optional plus sign.
-/

namespace ScopeLink.Text

/-- `digits` with zeros before them up to `width`. -/
def padZeros (width : Nat) (digits : List Char) : List Char :=
  List.replicate (width - digits.length) '0' ++ digits

def decimal (width n : Nat) : String := String.ofList (padZeros width (Nat.toDigits 10 n))

/-- Lower-case hexadecimal digits. -/
def hex (width n : Nat) : String := String.ofList (padZeros width (Nat.toDigits 16 n))

/-- A byte as `0x` and two hexadecimal digits. -/
def hexByte (b : UInt8) : String := "0x" ++ hex 2 b.toNat

/-- Two hexadecimal digits for each byte. -/
def hexBytes (b : List UInt8) : String := String.join (b.map fun x => hex 2 x.toNat)

/-- The value of a digit, letters of either case standing for ten and above. -/
def digitValue (c : Char) : Nat :=
  if c.isDigit then c.toNat - '0'.toNat
  else if c.isAlpha then c.toLower.toNat - 'a'.toNat + 10
  else 255

/-- The number written by these digits; there is at least one, and each is below `base`. -/
def readDigits (base : Nat) (cs : List Char) : Option Nat :=
  if cs.isEmpty || !cs.all (fun c => digitValue c < base) then none
  else some (cs.foldl (fun n c => base * n + digitValue c) 0)

/-- Digits after an optional plus sign. -/
def readNatural (base : Nat) : List Char → Option Nat
  | '+' :: cs => readDigits base cs
  | cs => readDigits base cs

/-- Decimal digits after an optional sign, where a minus sign leaves room for zero alone. -/
def readUnsigned : List Char → Option Nat
  | '-' :: cs => (readDigits 10 cs).filter (· == 0)
  | cs => readNatural 10 cs

end ScopeLink.Text
