/-
This file models `ip_to_str` of `debug.c`: the text of an address, four decimal numbers between
dots.
-/

import Aodvd.TableMap
import Aodvd.Library.PythonText

namespace Aodvd

open PythonText

/-- `%u` and `%lu`. -/
def decimal (number : Nat) : List Char := Nat.toDigits 10 number

/-- `ip_to_str`: the bytes of the address in memory order. -/
def ipToStr (addr : Addr) : List Char :=
  ['.'].intercalate ((addrBytes addr).map fun byte => decimal byte.toNat)

theorem digits_decimal (number : Nat) : Digits (decimal number) := digits_toDigits number

/-- The four numbers of an address. -/
theorem ipToStr_eq (addr : Addr) :
    ipToStr addr =
      decimal (addr.extractLsb' 0 8).toNat ++ '.' :: (decimal (addr.extractLsb' 8 8).toNat ++
        '.' :: (decimal (addr.extractLsb' 16 8).toNat ++ '.' ::
          decimal (addr.extractLsb' 24 8).toNat)) := by
  simp [ipToStr, addrBytes, List.intercalate]

end Aodvd
