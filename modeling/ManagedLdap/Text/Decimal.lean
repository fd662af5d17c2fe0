/-
# ManagedLdap.Text.Decimal -- whole numbers written in decimal

Placeholders, page sizes and ports are ASCII decimal digits, read into a number
that has to fit the width it is meant for; a number that does not fit is refused,
never wrapped.
-/
namespace ManagedLdap.Text

set_option autoImplicit false

/-- The value of an ASCII decimal digit. -/
def digit? (c : Char) : Option Nat :=
  if '0' ≤ c ∧ c ≤ '9' then some (c.toNat - '0'.toNat) else none

/-- Read the digits onto the value of those before them. -/
def digitsFrom : Nat → List Char → Option Nat
  | value, [] => some value
  | value, c :: cs => (digit? c).bind fun d => digitsFrom (value * 10 + d) cs

/-- A number written as at least one digit. -/
def digits? : List Char → Option Nat
  | [] => none
  | cs => digitsFrom 0 cs

/-- A number at most `limit`, written as digits after at most one plus sign. -/
def unsigned? (limit : Nat) (cs : List Char) : Option Nat :=
  let body := match cs with
    | '+' :: rest => rest
    | _ => cs
  (digits? body).filter (· ≤ limit)

/-- A number in the range of 32-bit signed words, with at most one sign. -/
def signed32? (cs : List Char) : Option Int :=
  let value := match cs with
    | '+' :: rest => (digits? rest).map Int.ofNat
    | '-' :: rest => (digits? rest).map fun n => -(n : Int)
    | _ => (digits? cs).map Int.ofNat
  value.filter fun n => -2147483648 ≤ n ∧ n ≤ 2147483647

/-- The largest 64-bit unsigned word. -/
def word64Max : Nat := 18446744073709551615

end ManagedLdap.Text
