/-! Numbers in hexadecimal digits, as escapes write them. -/

namespace JavaStubs.Text

def hexDigit (n : Nat) : Char :=
  if n % 16 < 10 then Char.ofNat (n % 16 + '0'.toNat) else Char.ofNat (n % 16 - 10 + 'a'.toNat)

def hexDigits : (width n : Nat) → List Char
  | 0, _ => []
  | width + 1, n => hexDigits width (n / 16) ++ [hexDigit n]

def hex (width n : Nat) : String :=
  String.ofList (hexDigits width n)

def hexValue? (c : Char) : Option Nat :=
  if '0' ≤ c ∧ c ≤ '9' then some (c.toNat - '0'.toNat)
  else if 'a' ≤ c ∧ c ≤ 'f' then some (c.toNat - 'a'.toNat + 10)
  else if 'A' ≤ c ∧ c ≤ 'F' then some (c.toNat - 'A'.toNat + 10)
  else none

@[simp] theorem length_hexDigits (width n : Nat) : (hexDigits width n).length = width := by
  induction width generalizing n with
  | zero => rfl
  | succ w ih => simp [hexDigits, ih]

end JavaStubs.Text
