import Mathlib.Algebra.Ring.Nat
import StrategyWorker.Library.PyText

/-!
# SHA-256

The digest of a text in UTF-8, as {lit}`hashlib.sha256(...).hexdigest()` gives
it.  Words of 32 bits are natural numbers below {lit}`2 ^ 32`.

Main results:

- Definition {lit}`hexdigest`: the digest in hexadecimal digits.
- Theorem {lit}`hexDigit_of_mem_hexdigest`: a digest holds digits and the
  letters a to f only.
-/

namespace StrategyWorker
namespace Library
namespace Sha256

open PyText

/-! ## Words -/

def wordSize : Nat := 2 ^ 32

def add32 (x y : Nat) : Nat :=
  (x + y) % wordSize

def rotr (x n : Nat) : Nat :=
  (x >>> n) ||| ((x <<< (32 - n)) % wordSize)

def not32 (x : Nat) : Nat :=
  x ^^^ (wordSize - 1)

def choose (e f g : Nat) : Nat :=
  (e &&& f) ^^^ (not32 e &&& g)

def majority (a b c : Nat) : Nat :=
  (a &&& b) ^^^ (a &&& c) ^^^ (b &&& c)

/-- Fractional parts of the cube roots of the first 64 primes. -/
def roundConstants : List Nat :=
  [0x428a2f98, 0x71374491, 0xb5c0fbcf, 0xe9b5dba5, 0x3956c25b, 0x59f111f1, 0x923f82a4, 0xab1c5ed5,
    0xd807aa98, 0x12835b01, 0x243185be, 0x550c7dc3, 0x72be5d74, 0x80deb1fe, 0x9bdc06a7, 0xc19bf174,
    0xe49b69c1, 0xefbe4786, 0x0fc19dc6, 0x240ca1cc, 0x2de92c6f, 0x4a7484aa, 0x5cb0a9dc, 0x76f988da,
    0x983e5152, 0xa831c66d, 0xb00327c8, 0xbf597fc7, 0xc6e00bf3, 0xd5a79147, 0x06ca6351, 0x14292967,
    0x27b70a85, 0x2e1b2138, 0x4d2c6dfc, 0x53380d13, 0x650a7354, 0x766a0abb, 0x81c2c92e, 0x92722c85,
    0xa2bfe8a1, 0xa81a664b, 0xc24b8b70, 0xc76c51a3, 0xd192e819, 0xd6990624, 0xf40e3585, 0x106aa070,
    0x19a4c116, 0x1e376c08, 0x2748774c, 0x34b0bcb5, 0x391c0cb3, 0x4ed8aa4a, 0x5b9cca4f, 0x682e6ff3,
    0x748f82ee, 0x78a5636f, 0x84c87814, 0x8cc70208, 0x90befffa, 0xa4506ceb, 0xbef9a3f7, 0xc67178f2]

/-- Fractional parts of the square roots of the first 8 primes. -/
def initialHash : List Nat :=
  [0x6a09e667, 0xbb67ae85, 0x3c6ef372, 0xa54ff53a, 0x510e527f, 0x9b05688c, 0x1f83d9ab, 0x5be0cd19]

/-! ## Compression -/

/-- The next word of the message schedule; the words before it come latest first. -/
def nextWord (ws : List Nat) : Nat :=
  let w2 := ws.getD 1 0
  let w15 := ws.getD 14 0
  let s0 := rotr w15 7 ^^^ rotr w15 18 ^^^ (w15 >>> 3)
  let s1 := rotr w2 17 ^^^ rotr w2 19 ^^^ (w2 >>> 10)
  add32 (add32 (ws.getD 15 0) s0) (add32 (ws.getD 6 0) s1)

/-- The message schedule, latest word first. -/
def schedule : Nat → List Nat → List Nat
  | 0, ws => ws
  | n + 1, ws => schedule n (nextWord ws :: ws)

/-- The eight working variables. -/
structure Working where
  a : Nat
  b : Nat
  c : Nat
  d : Nat
  e : Nat
  f : Nat
  g : Nat
  h : Nat

def Working.ofHash (hs : List Nat) : Working :=
  ⟨hs.getD 0 0, hs.getD 1 0, hs.getD 2 0, hs.getD 3 0, hs.getD 4 0, hs.getD 5 0, hs.getD 6 0,
    hs.getD 7 0⟩

def Working.toList (v : Working) : List Nat :=
  [v.a, v.b, v.c, v.d, v.e, v.f, v.g, v.h]

/-- One round with its constant and its word of the schedule. -/
def round (v : Working) (kw : Nat × Nat) : Working :=
  let s1 := rotr v.e 6 ^^^ rotr v.e 11 ^^^ rotr v.e 25
  let t1 := add32 (add32 (add32 v.h s1) (add32 (choose v.e v.f v.g) kw.1)) kw.2
  let s0 := rotr v.a 2 ^^^ rotr v.a 13 ^^^ rotr v.a 22
  let t2 := add32 s0 (majority v.a v.b v.c)
  ⟨add32 t1 t2, v.a, v.b, v.c, add32 v.d t1, v.e, v.f, v.g⟩

/-- The hash after a block of 16 words. -/
def compress (hs block : List Nat) : List Nat :=
  let ws := (schedule 48 block.reverse).reverse
  let v := (roundConstants.zip ws).foldl round (Working.ofHash hs)
  List.zipWith add32 hs v.toList

/-! ## Message -/

/-- The eight bytes of the length, highest first. -/
def lengthBytes (n : Nat) : List Nat :=
  ((List.range 8).map fun i => (n >>> (8 * i)) % 256).reverse

/-- The message, a one bit, zeros and the length in bits. -/
def pad (bytes : List Nat) : List Nat :=
  bytes ++ [0x80] ++ List.replicate ((119 - bytes.length % 64) % 64) 0 ++
    lengthBytes (8 * bytes.length)

/-- Words of four bytes, highest first. -/
def wordsOf : List Nat → List Nat
  | a :: b :: c :: d :: bytes => (((a * 256 + b) * 256 + c) * 256 + d) :: wordsOf bytes
  | _ => []

/-- Blocks of 16 words, one after the other. -/
def digestWords : (blocks : Nat) → (hs words : List Nat) → List Nat
  | 0, hs, _ => hs
  | n + 1, hs, words => digestWords n (compress hs (words.take 16)) (words.drop 16)

/-- {lit}`text.encode("utf-8")`. -/
def utf8 (text : String) : List Nat :=
  text.toList.flatMap fun c => (String.utf8EncodeChar c).map UInt8.toNat

def digest (bytes : List Nat) : List Nat :=
  let words := wordsOf (pad bytes)
  digestWords (words.length / 16) initialHash words

/-- {lit}`hashlib.sha256(text.encode("utf-8")).hexdigest()`. -/
def hexdigest (text : String) : String :=
  String.ofList ((digest (utf8 text)).flatMap (hexText 8))

/-- A digest holds digits and the letters a to f only. -/
theorem hexDigit_of_mem_hexdigest {text : String} {c : Char}
    (h : c ∈ (hexdigest text).toList) : c ∈ hexDigits := by
  rw [hexdigest, String.toList_ofList, List.mem_flatMap] at h
  rcases h with ⟨w, -, hc⟩
  exact mem_hexDigits_of_mem_hexText hc

example : hexdigest "abc" =
    "ba7816bf8f01cfea414140de5dae2223b00361a396177a9cb410ff61f20015ad" := by
  decide +kernel

end Sha256
end Library
end StrategyWorker
