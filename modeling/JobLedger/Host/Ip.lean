import JobLedger.Text.Cut
import JobLedger.Text.Numeral

/-!
# Numeric addresses

A host can be named by its address. An IPv4 address is made of up to four
numbers in any of three bases, the last of which may fill the places of
those that are missing (`Ip.isIpv4`). An IPv6 address is made of eight
groups, of which a row of zeros can be left out once (`Ip.isIpv6`).
-/

namespace JobLedger.Ip

/-- A number of an IPv4 address: hexadecimal behind `0x`, octal behind
`0`. The value is missing if it has more than 32 bits. -/
def ipv4Number? (cs : List Char) : Option (Option Nat) :=
  let read (base : Nat) (cs : List Char) : Option (Option Nat) :=
    if cs = [] then some (some 0)
    else if cs.all fun c => (Numeral.digit? base c).isSome then
      match Numeral.read base 4294967295 cs with
      | .ok n => some (some n)
      | .error _ => some none
    else none
  match cs with
  | [] => none
  | '0' :: 'x' :: r => read 16 r
  | '0' :: 'X' :: r => read 16 r
  | '0' :: c :: r => read 8 (c :: r)
  | cs => read 10 cs

/-- The parts of a host name; one empty part at the end does not count. -/
def hostParts (cs : List Char) : List (List Char) :=
  let parts := pieces '.' cs
  if parts.length > 1 ∧ parts.getLast? = some [] then parts.dropLast else parts

/-- A host whose last part is a number has to be an IPv4 address. -/
def endsInNumber (cs : List Char) : Bool :=
  match (hostParts cs).getLast? with
  | some last => (last ≠ [] && last.all Char.isDigit) || (ipv4Number? last).isSome
  | none => false

/-- Numbers that make an IPv4 address: up to four, all but the last below
256, the last one filling what is left of 32 bits. -/
def isIpv4 (cs : List Char) : Bool :=
  let numbers := (hostParts cs).map ipv4Number?
  match numbers.reverse with
  | some (some last) :: front =>
      front.length ≤ 3 && last < Nat.pow 256 (4 - front.length)
        && front.all fun n => match n with
          | some (some n) => n < 256
          | _ => false
  | _ => false

/-- A number below 256 in decimal digits, without leading zeros. -/
def isOctet (cs : List Char) : Bool :=
  cs ≠ [] && cs.all Char.isDigit && (cs.length = 1 || cs.head? ≠ some '0')
    && match Numeral.read 10 255 cs with
      | .ok _ => true
      | .error _ => false

/-- Groups of an IPv6 address, of which the last may be an IPv4 address in
dotted form. Gives how many 16-bit units they fill. -/
def ipv6Units? (mayEndInIpv4 : Bool) : List (List Char) → Option Nat
  | [] => some 0
  | g :: r =>
      if g ≠ [] ∧ g.length ≤ 4 ∧ g.all (fun c => (Numeral.digit? 16 c).isSome) then
        (ipv6Units? mayEndInIpv4 r).map (· + 1)
      else if r = [] ∧ mayEndInIpv4 = true then
        let numbers := pieces '.' g
        if numbers.length = 4 ∧ numbers.all isOctet then some 2 else none
      else none

def cutDoubleColon : List Char → Option (List Char × List Char)
  | ':' :: ':' :: r => some ([], r)
  | c :: r => (cutDoubleColon r).map fun (a, b) => (c :: a, b)
  | [] => none

/-- The groups between colons; none in an empty text. -/
def ipv6Groups (cs : List Char) : List (List Char) := if cs = [] then [] else pieces ':' cs

def isIpv6 (cs : List Char) : Bool :=
  match cutDoubleColon cs with
  | none => ipv6Units? true (ipv6Groups cs) = some 8
  | some (a, b) =>
      match ipv6Units? false (ipv6Groups a), ipv6Units? true (ipv6Groups b) with
      | some m, some n => m + n ≤ 7
      | _, _ => false

example : isIpv4 "0x7f.1".toList = true := by decide +kernel
example : isIpv4 "1.2.3.256".toList = false := by decide +kernel
example : endsInNumber "a.1.".toList = true := by decide +kernel
example : isIpv6 "1::1.2.3.4".toList = true := by decide +kernel
example : isIpv6 "1:2:3:4:5:6:7".toList = false := by decide +kernel

end JobLedger.Ip
