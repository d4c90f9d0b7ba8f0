import Mathlib.Data.Nat.Bitwise

/-!
# CRC-32

The reflected IEEE polynomial over bytes, as {lit}`zlib.crc32` computes it.
Words of 32 bits are natural numbers below {lit}`2 ^ 32`.

Main results:

- Definition {lit}`crc32`: the check value of a list of bytes.
- Theorem {lit}`crc32_lt`: a check value has 32 bits.
-/

namespace StrategyWorker
namespace Library

def crcPolynomial : Nat := 0xedb88320

/-- One bit of a byte. -/
def crcBit (crc : Nat) : Nat :=
  if crc.testBit 0 then (crc >>> 1) ^^^ crcPolynomial else crc >>> 1

def crcByte (crc byte : Nat) : Nat :=
  Nat.iterate crcBit 8 (crc ^^^ byte)

/-- {lit}`zlib.crc32(data)`. -/
def crc32 (bytes : List Nat) : Nat :=
  bytes.foldl crcByte 0xffffffff ^^^ 0xffffffff

example : crc32 [0x31, 0x32, 0x33, 0x34, 0x35, 0x36, 0x37, 0x38, 0x39] = 0xcbf43926 := by
  decide +kernel

theorem crcBit_lt {crc : Nat} (h : crc < 2 ^ 32) : crcBit crc < 2 ^ 32 := by
  have hshift : crc >>> 1 < 2 ^ 32 := by
    rw [Nat.shiftRight_eq_div_pow]
    omega
  unfold crcBit
  split
  · exact Nat.xor_lt_two_pow hshift (by decide)
  · exact hshift

theorem crcByte_lt {crc byte : Nat} (h : crc < 2 ^ 32) (hbyte : byte < 2 ^ 8) :
    crcByte crc byte < 2 ^ 32 := by
  have hxor : crc ^^^ byte < 2 ^ 32 := Nat.xor_lt_two_pow h (by omega)
  unfold crcByte
  generalize crc ^^^ byte = word at hxor
  have hbits : ∀ n, Nat.iterate crcBit n word < 2 ^ 32 := by
    intro n
    induction n with
    | zero => exact hxor
    | succ n ih =>
        rw [Function.iterate_succ_apply']
        exact crcBit_lt ih
  exact hbits 8

/-- A check value has 32 bits. -/
theorem crc32_lt {bytes : List Nat} (h : ∀ byte ∈ bytes, byte < 2 ^ 8) :
    crc32 bytes < 2 ^ 32 := by
  have hfold : ∀ (bytes : List Nat) (crc : Nat), (∀ byte ∈ bytes, byte < 2 ^ 8) →
      crc < 2 ^ 32 → bytes.foldl crcByte crc < 2 ^ 32 := by
    intro bytes
    induction bytes with
    | nil => exact fun _ _ hcrc => hcrc
    | cons byte bytes ih =>
        intro crc hbytes hcrc
        exact ih _ (fun b hb => hbytes b (List.mem_cons_of_mem _ hb))
          (crcByte_lt hcrc (hbytes byte List.mem_cons_self))
  exact Nat.xor_lt_two_pow (hfold bytes _ h (by decide)) (by decide)

end Library
end StrategyWorker
