import SessionKit.Bytes

/-!
# Rows of sixteen words

BLAKE2b and Argon2 work on sixteen 64-bit words at a time, in the same order: four columns of a
four by four square, then its four diagonals, each mixed by one function of four words.
-/

namespace SessionKit

structure Row where
  w0 : UInt64
  w1 : UInt64
  w2 : UInt64
  w3 : UInt64
  w4 : UInt64
  w5 : UInt64
  w6 : UInt64
  w7 : UInt64
  w8 : UInt64
  w9 : UInt64
  w10 : UInt64
  w11 : UInt64
  w12 : UInt64
  w13 : UInt64
  w14 : UInt64
  w15 : UInt64

namespace Row

def zero : Row := ⟨0, 0, 0, 0, 0, 0, 0, 0, 0, 0, 0, 0, 0, 0, 0, 0⟩

def xor (x y : Row) : Row :=
  ⟨x.w0 ^^^ y.w0, x.w1 ^^^ y.w1, x.w2 ^^^ y.w2, x.w3 ^^^ y.w3, x.w4 ^^^ y.w4, x.w5 ^^^ y.w5,
   x.w6 ^^^ y.w6, x.w7 ^^^ y.w7, x.w8 ^^^ y.w8, x.w9 ^^^ y.w9, x.w10 ^^^ y.w10, x.w11 ^^^ y.w11,
   x.w12 ^^^ y.w12, x.w13 ^^^ y.w13, x.w14 ^^^ y.w14, x.w15 ^^^ y.w15⟩

def toList (x : Row) : List UInt64 :=
  [x.w0, x.w1, x.w2, x.w3, x.w4, x.w5, x.w6, x.w7, x.w8, x.w9, x.w10, x.w11, x.w12, x.w13, x.w14,
   x.w15]

/-- Words that are missing are zero. -/
def ofList (ws : List UInt64) : Row :=
  match ws ++ List.replicate 16 0 with
  | a :: b :: c :: d :: e :: f :: g :: h :: i :: j :: k :: l :: m :: n :: o :: p :: _ =>
    ⟨a, b, c, d, e, f, g, h, i, j, k, l, m, n, o, p⟩
  | _ => zero

def toBytes (x : Row) : Bytes := x.toList.flatMap Bytes.littleEndian64

@[inline] def rotateRight (w : UInt64) (n : UInt64) : UInt64 := (w >>> n) ||| (w <<< (64 - n))

/-- Mixes the columns and then the diagonals. The mixing function is given the place of the mix in
this order and passes its four words on. -/
@[inline] def mixed
    (mix : {β : Type} → Nat → UInt64 → UInt64 → UInt64 → UInt64 →
      (UInt64 → UInt64 → UInt64 → UInt64 → β) → β)
    (x : Row) : Row :=
  mix 0 x.w0 x.w4 x.w8 x.w12 fun a0 b0 c0 d0 =>
  mix 1 x.w1 x.w5 x.w9 x.w13 fun a1 b1 c1 d1 =>
  mix 2 x.w2 x.w6 x.w10 x.w14 fun a2 b2 c2 d2 =>
  mix 3 x.w3 x.w7 x.w11 x.w15 fun a3 b3 c3 d3 =>
  mix 4 a0 b1 c2 d3 fun a0 b1 c2 d3 =>
  mix 5 a1 b2 c3 d0 fun a1 b2 c3 d0 =>
  mix 6 a2 b3 c0 d1 fun a2 b3 c0 d1 =>
  mix 7 a3 b0 c1 d2 fun a3 b0 c1 d2 =>
  ⟨a0, a1, a2, a3, b0, b1, b2, b3, c0, c1, c2, c3, d0, d1, d2, d3⟩

end Row
end SessionKit
