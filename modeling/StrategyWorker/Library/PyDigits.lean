import Mathlib.Algebra.Ring.Nat
import Mathlib.Data.List.Basic

/-!
# Digits of a text

{lit}`str.isdigit` and {lit}`int(text)` do not agree on what a digit is: the
first takes every character that has the value of a digit, as superscripts and
circled digits have, the second only those of a decimal system, and no more than
4300 of them.

Main results:

- Theorem {lit}`isSome_intOfDigits_iff`: which texts of digits are numbers.
-/

namespace StrategyWorker
namespace Library
namespace PyText

/-- The zeros of the decimal systems; the other digits of a system follow its zero. -/
def decimalZeros : List Nat :=
  [0x30, 0x660, 0x6f0, 0x7c0, 0x966, 0x9e6, 0xa66, 0xae6, 0xb66, 0xbe6, 0xc66, 0xce6, 0xd66, 0xde6,
    0xe50, 0xed0, 0xf20, 0x1040, 0x1090, 0x17e0, 0x1810, 0x1946, 0x19d0, 0x1a80, 0x1a90, 0x1b50,
    0x1bb0, 0x1c40, 0x1c50, 0xa620, 0xa8d0, 0xa900, 0xa9d0, 0xa9f0, 0xaa50, 0xabf0, 0xff10, 0x104a0,
    0x10d30, 0x11066, 0x110f0, 0x11136, 0x111d0, 0x112f0, 0x11450, 0x114d0, 0x11650, 0x116c0,
    0x11730, 0x118e0, 0x11950, 0x11c50, 0x11d50, 0x11da0, 0x16a60, 0x16ac0, 0x16b50, 0x1d7ce,
    0x1d7d8, 0x1d7e2, 0x1d7ec, 0x1d7f6, 0x1e140, 0x1e2f0, 0x1e950, 0x1fbf0]

/-- The first and last of every row of characters that are digits of no decimal system. -/
def otherDigits : List (Nat × Nat) :=
  [(0xb2, 0xb3), (0xb9, 0xb9), (0x1369, 0x1371), (0x19da, 0x19da), (0x2070, 0x2070),
    (0x2074, 0x2079), (0x2080, 0x2089), (0x2460, 0x2468), (0x2474, 0x247c), (0x2488, 0x2490),
    (0x24ea, 0x24ea), (0x24f5, 0x24fd), (0x24ff, 0x24ff), (0x2776, 0x277e), (0x2780, 0x2788),
    (0x278a, 0x2792), (0x10a40, 0x10a43), (0x10e60, 0x10e68), (0x11052, 0x1105a),
    (0x1f100, 0x1f10a)]

/-- The value of a digit of a decimal system. -/
def decimalValue? (c : Char) : Option Nat :=
  (decimalZeros.find? fun first => first ≤ c.toNat ∧ c.toNat < first + 10).map fun first =>
    c.toNat - first

/-- {lit}`c.isdecimal()`. -/
def isDecimal (c : Char) : Bool :=
  (decimalValue? c).isSome

/-- {lit}`c.isdigit()`. -/
def isDigit (c : Char) : Bool :=
  isDecimal c || otherDigits.any fun row => row.1 ≤ c.toNat ∧ c.toNat ≤ row.2

/-- {lit}`text.isdigit()`. -/
def isDigitText (text : String) : Bool :=
  text ≠ "" && text.toList.all isDigit

/-- {lit}`sys.get_int_max_str_digits()`. -/
def maxDigits : Nat :=
  4300

/-- The number that digits stand for, highest first. -/
def valueOfDigits : List Char → Option Nat
  | [] => some 0
  | c :: cs => do
      let d ← decimalValue? c
      let rest ← valueOfDigits cs
      return d * 10 ^ cs.length + rest

/-- {lit}`int(text)` of a text for which {lit}`text.isdigit()`: {lit}`none` where it raises. -/
def intOfDigits (text : String) : Option Nat :=
  if maxDigits < text.toList.length then none else valueOfDigits text.toList

theorem isSome_valueOfDigits_iff (cs : List Char) :
    (valueOfDigits cs).isSome ↔ ∀ c ∈ cs, isDecimal c = true := by
  induction cs with
  | nil => simp [valueOfDigits]
  | cons c cs ih =>
      rw [List.forall_mem_cons, ← ih, isDecimal, valueOfDigits]
      cases decimalValue? c with
      | none => simp
      | some d => cases valueOfDigits cs <;> simp

/-- A text of digits is a number when they are of decimal systems and not too many. -/
theorem isSome_intOfDigits_iff (text : String) :
    (intOfDigits text).isSome ↔
      (∀ c ∈ text.toList, isDecimal c = true) ∧ text.toList.length ≤ maxDigits := by
  unfold intOfDigits
  split
  · rename_i hlong
    have hshort : ¬ text.toList.length ≤ maxDigits := by omega
    simp [hshort]
  · rename_i hshort
    rw [isSome_valueOfDigits_iff]
    exact (and_iff_left (by omega)).symm

example : isDigitText "²" = true ∧ intOfDigits "²" = none ∧ intOfDigits "٢٠" = some 20 := by
  decide +kernel

end PyText
end Library
end StrategyWorker
