import ChatMarkup.Text.Basic

/-!
# Digits

Numbers as they are written: the value of a digit, of a run of digits, and the
digits of a number.

Only ASCII digits count. Letters serve as the digits above nine, in either
case when they are read and in lower case when they are written.

## Main definitions

* `digitValue?`: The value of a digit.
* `isDigitOf`: Whether a character is a digit to a base.
* `readDigits`: The number that digits write.
* `decimal`, `hexadecimal`: The digits of a number.
-/

namespace ChatMarkup

namespace Text

/-- The value of the digit, which may be one to the base sixteen. -/
def digitValue? (c : Char) : Option Nat :=
  if '0' ≤ c ∧ c ≤ '9' then some (c.toNat - 48)
  else if 'a' ≤ c ∧ c ≤ 'f' then some (c.toNat - 87)
  else if 'A' ≤ c ∧ c ≤ 'F' then some (c.toNat - 55)
  else none

/-- Whether the character is a digit to the base. -/
def isDigitOf (base : Nat) (c : Char) : Bool :=
  (digitValue? c).any fun value => decide (value < base)

/-- Whether the character is a decimal digit. -/
def isDigit (c : Char) : Bool :=
  isDigitOf 10 c

/-- The number that the digits write to the base. -/
def readDigits (base : Nat) (digits : Text) : Nat :=
  digits.foldl (fun n c => base * n + (digitValue? c).getD 0) 0

/-- The digits of `n` to the base ten. -/
def decimal (n : Nat) : Text :=
  Nat.toDigits 10 n

/-- The digits of `n` to the base sixteen. -/
def hexadecimal (n : Nat) : Text :=
  Nat.toDigits 16 n

end Text

end ChatMarkup
