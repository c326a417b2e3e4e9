/-
This file embeds `get<uint64_t>` of `cmdline_parser.cpp`, which calls `std::stoull` with base 0 and no end pointer.
-/

import Vtb.Library.Numeral
import Vtb.Construction.CmdlineParser

namespace Vtb
open Library

namespace CmdlineParser

def IsMarker (c : Char) : Prop := c = 'x' ∨ c = 'X'

instance (c : Char) : Decidable (IsMarker c) := inferInstanceAs (Decidable (_ ∨ _))

/-- Base 0 takes the base from the text: `0x` in front of a hexadecimal digit, another leading zero, or none. -/
def baseOf (text : List Char) : Nat × List Char :=
  match text with
  | [] => (10, [])
  | c :: rest =>
      if c = '0' then
        match rest with
        | marker :: digit :: more =>
            if IsMarker marker ∧ isDigitOf 16 digit then (16, digit :: more) else (8, c :: rest)
        | _ => (8, c :: rest)
      else (10, c :: rest)

/-- A text without digits and a number outside of 64 bits are exceptions with the text of the function name.
A minus negates the number in 64 bits. -/
def stoull (text : String) : Except String UInt64 :=
  let (negative, unsigned) := afterSign text.toList
  let (base, rest) := baseOf unsigned
  let digits := rest.takeWhile (isDigitOf base)
  if digits = [] ∨ 2 ^ 64 ≤ numeral base digits then .error "stoull"
  else .ok (if negative then -UInt64.ofNat (numeral base digits) else UInt64.ofNat (numeral base digits))

/-- `get<uint64_t>` -/
def getUInt64 (parser : CmdlineParser) (name : String) : Except String UInt64 :=
  if (parser.get name).isEmpty then .ok 0 else stoull (parser.get name)

end CmdlineParser

end Vtb
