import SessionKit.Base64
import Mathlib.Data.List.TakeWhile

/-!
# Base64 both ways

What the reader accepts is what the writer writes, and nothing else: a text decodes to a byte string
if and only if it is the written form of this byte string. The written forms are the texts of
symbols alone that stand for whole bytes, with the bits left over being zero (`exists_eq_encode`).
-/

namespace SessionKit

theorem bind_eq_ok {ε α β : Type} {x : Except ε α} {f : α → Except ε β} {b : β} :
    x >>= f = .ok b ↔ ∃ a, x = .ok a ∧ f a = .ok b := by
  cases x with
  | ok a => exact ⟨fun h => ⟨a, rfl, h⟩, fun ⟨_, same, h⟩ => Except.ok.inj same ▸ h⟩
  | error e => exact ⟨nofun, nofun⟩

theorem bind_of_eq_ok {ε α β : Type} {x : Except ε α} {a : α} (h : x = .ok a)
    (f : α → Except ε β) : x >>= f = f a := by
  rw [h]
  rfl

theorem guard_eq_ok {ε α : Type} {c : Prop} [Decidable c] {e : ε} {x : Except ε α} {a : α} :
    (if c then .error e else x) = .ok a ↔ ¬ c ∧ x = .ok a := by
  by_cases h : c <;> simp [h]

/-! ## Texts as bytes -/

namespace Bytes

variable {s t : String} {cs : List Char}

theorem ofText_inj : ofText s = ofText t ↔ s = t := by
  rw [ofText, ofText, Array.toList_inj, ByteArray.ext_iff.symm, String.toByteArray_inj]

theorem ofText_ofList (cs : List Char) :
    ofText (String.ofList cs) = cs.flatMap String.utf8EncodeChar := by
  simp [ofText, List.utf8Encode]

/-- An ASCII character is one byte. -/
theorem ofText_of_ascii (ascii : ∀ c ∈ cs, c.toNat < 128) :
    ofText (String.ofList cs) = cs.map Char.toUInt8 := by
  rw [ofText_ofList]
  induction cs with
  | nil => rfl
  | cons c cs ih =>
    have one : c.utf8Size = 1 := by
      rw [Char.utf8Size_eq_one_iff, UInt32.le_iff_toNat_le]
      exact Nat.le_of_lt_succ (ascii c (by simp))
    rw [List.flatMap_cons, String.utf8EncodeChar_eq_singleton one, List.map_cons,
      ih fun d mem => ascii d (by simp [mem])]
    rfl

theorem length_toList_le (s : String) : s.toList.length ≤ (ofText s).length := by
  rw [← String.ofList_toList (s := s), ofText_ofList, String.toList_ofList]
  induction s.toList with
  | nil => simp
  | cons c cs ih =>
    have := c.utf8Size_pos
    simp only [List.flatMap_cons, List.length_append, List.length_cons,
      String.length_utf8EncodeChar]
    omega

end Bytes

namespace Base64

variable {t : Alphabet} {b : UInt8} {bs out : Bytes} {n v offset : Nat} {c : Char} {cs : List Char}

/-! ## Symbols -/

namespace Alphabet

/-- The byte of a symbol. -/
def byte (t : Alphabet) (n : Nat) : UInt8 := (t.symbol n).toUInt8

theorem value?_byte (h : n < 64) : t.value? (t.byte n) = some n := by
  revert n
  cases t <;> decide

theorem byte_of_value? (h : t.value? b = some v) : v < 64 ∧ b = t.byte v := by
  have all : ∀ n < 256, ∀ v ∈ t.value? (UInt8.ofNat n), v < 64 ∧ UInt8.ofNat n = t.byte v := by
    cases t <;> decide +kernel
  simpa using all b.toNat b.toNat_lt v (by simpa using h)

theorem value?_eq_some : t.value? b = some v ↔ v < 64 ∧ b = t.byte v := by
  constructor
  · exact byte_of_value?
  · rintro ⟨small, rfl⟩
    exact value?_byte small

theorem byte_ne_padding (h : n < 64) : t.byte n ≠ padding := by
  intro same
  have foreign : t.value? padding = none := by
    cases t <;> decide
  rw [← same, value?_byte h] at foreign
  cases foreign

/-- No symbol is taken for the delimiter of what base64 is written into. -/
theorem symbol_plain (h : n < 64) : (t.symbol n).toNat < 128 ∧ t.symbol n ≠ '$' := by
  revert n
  cases t <;> decide

end Alphabet

/-! ## Values of six bits -/

/-- The values that a byte string is written with. -/
def sextets : Bytes → List Nat
  | [] => []
  | [a] => [a.toNat / 4, a.toNat % 4 * 16]
  | [a, b] => [a.toNat / 4, a.toNat % 4 * 16 + b.toNat / 16, b.toNat % 16 * 4]
  | a :: b :: c :: rest =>
    a.toNat / 4 :: (a.toNat % 4 * 16 + b.toNat / 16) :: (b.toNat % 16 * 4 + c.toNat / 64) ::
      c.toNat % 64 :: sextets rest

theorem encode_eq_map (t : Alphabet) (bs : Bytes) : encode t bs = (sextets bs).map t.symbol := by
  induction bs using encode.induct with
  | case1 | case2 | case3 => rfl
  | case4 a b c rest ih => simp [encode, sextets, ih]

theorem sextets_lt (mem : v ∈ sextets bs) : v < 64 := by
  have bound (b : UInt8) : b.toNat < 256 := b.toNat_lt
  induction bs using sextets.induct with
  | case1 => cases mem
  | case2 a =>
    have := bound a
    simp only [sextets, List.mem_cons, List.not_mem_nil, or_false] at mem
    omega
  | case3 a b =>
    have := bound a
    have := bound b
    simp only [sextets, List.mem_cons, List.not_mem_nil, or_false] at mem
    omega
  | case4 a b c rest ih =>
    have := bound a
    have := bound b
    have := bound c
    simp only [sextets, List.mem_cons] at mem
    rcases mem with rfl | rfl | rfl | rfl | mem
    · omega
    · omega
    · omega
    · omega
    · exact ih mem

theorem length_sextets (bs : Bytes) : (sextets bs).length = (4 * bs.length + 2) / 3 := by
  induction bs using sextets.induct with
  | case1 | case2 | case3 => simp [sextets]
  | case4 a b c rest ih =>
    simp only [sextets, List.length_cons, ih]
    omega

theorem ofNat_eq (h : n = b.toNat) : UInt8.ofNat n = b := by
  rw [h, UInt8.ofNat_toNat]

/-- Three bytes hold four values of six bits. -/
theorem toNat_ofNat_of_values {x y z w : Nat} (hx : x < 64) (hy : y < 64) (hz : z < 64)
    (hw : w < 64) :
    (UInt8.ofNat (x * 4 + y / 16)).toNat = x * 4 + y / 16 ∧
      (UInt8.ofNat (y % 16 * 16 + z / 4)).toNat = y % 16 * 16 + z / 4 ∧
      (UInt8.ofNat (z % 4 * 64 + w)).toNat = z % 4 * 64 + w := by
  refine ⟨?_, ?_, ?_⟩ <;> exact UInt8.toNat_ofNat_of_lt' (show _ < 256 by omega)

/-- The values of a group are those that its bytes are written with. -/
theorem sextets_of_values {x y z w : Nat} (hx : x < 64) (hy : y < 64) (hz : z < 64) (hw : w < 64)
    (rest : Bytes) :
    sextets (UInt8.ofNat (x * 4 + y / 16) :: UInt8.ofNat (y % 16 * 16 + z / 4) ::
        UInt8.ofNat (z % 4 * 64 + w) :: rest) = x :: y :: z :: w :: sextets rest := by
  obtain ⟨first, second, third⟩ := toNat_ofNat_of_values hx hy hz hw
  simp only [sextets, first, second, third, List.cons.injEq, and_true]
  omega

theorem sextets_of_two {x y : Nat} (hx : x < 64) (hy : y < 64) (zero : y % 16 = 0) :
    sextets [UInt8.ofNat (x * 4 + y / 16)] = [x, y] := by
  obtain ⟨first, _, _⟩ := toNat_ofNat_of_values hx hy hy hy
  simp only [sextets, first, List.cons.injEq, and_true]
  omega

theorem sextets_of_three {x y z : Nat} (hx : x < 64) (hy : y < 64) (hz : z < 64)
    (zero : z % 4 = 0) :
    sextets [UInt8.ofNat (x * 4 + y / 16), UInt8.ofNat (y % 16 * 16 + z / 4)] = [x, y, z] := by
  obtain ⟨first, second, _⟩ := toNat_ofNat_of_values hx hy hz hz
  simp only [sextets, first, second, List.cons.injEq, and_true]
  omega

/-- The bytes of a group are those of the values that they are written with. -/
theorem ofNat_of_bytes (a b c : UInt8) :
    UInt8.ofNat (a.toNat / 4 * 4 + (a.toNat % 4 * 16 + b.toNat / 16) / 16) = a ∧
      UInt8.ofNat ((a.toNat % 4 * 16 + b.toNat / 16) % 16 * 16 +
        (b.toNat % 16 * 4 + c.toNat / 64) / 4) = b ∧
      UInt8.ofNat ((b.toNat % 16 * 4 + c.toNat / 64) % 4 * 64 + c.toNat % 64) = c := by
  have bound (b : UInt8) : b.toNat < 256 := b.toNat_lt
  have := bound a
  have := bound b
  have := bound c
  exact ⟨ofNat_eq (by omega), ofNat_eq (by omega), ofNat_eq (by omega)⟩

/-- The values stand for whole bytes: none is left over at the end, and the bits of the last one
that belong to no byte are zero. -/
def Whole : List Nat → Prop
  | [] => True
  | [_] => False
  | [_, y] => y % 16 = 0
  | [_, _, z] => z % 4 = 0
  | _ :: _ :: _ :: _ :: rest => Whole rest

theorem whole_sextets (bs : Bytes) : Whole (sextets bs) := by
  induction bs using sextets.induct with
  | case1 => trivial
  | case2 a =>
    show a.toNat % 4 * 16 % 16 = 0
    omega
  | case3 a b =>
    show b.toNat % 16 * 4 % 4 = 0
    omega
  | case4 a b c rest ih => exact ih

theorem exists_sextets {values : List Nat} (whole : Whole values) (small : ∀ v ∈ values, v < 64) :
    ∃ bs, values = sextets bs := by
  induction values using Whole.induct with
  | case1 => exact ⟨[], rfl⟩
  | case2 => exact whole.elim
  | case3 x y =>
    exact ⟨_, (sextets_of_two (small x (by simp)) (small y (by simp)) whole).symm⟩
  | case4 x y z =>
    exact ⟨_, (sextets_of_three (small x (by simp)) (small y (by simp)) (small z (by simp))
      whole).symm⟩
  | case5 x y z w rest ih =>
    obtain ⟨bs, rfl⟩ := ih whole fun v mem => small v (by simp [mem])
    exact ⟨_, (sextets_of_values (small x (by simp)) (small y (by simp)) (small z (by simp))
      (small w (by simp)) bs).symm⟩

/-- What the last values stand for, four of them or fewer. -/
theorem bytesOfLast_eq_ok {values : List Nat} (small : ∀ v ∈ values, v < 64)
    (short : values.length ≤ 4) :
    bytesOfLast offset b values = .ok out ↔ values = sextets out := by
  constructor
  · intro ok
    match values with
    | [] =>
      cases ok
      rfl
    | [x] => cases ok
    | [x, y] =>
      rw [bytesOfLast] at ok
      split at ok
      next zero =>
        cases ok
        exact (sextets_of_two (small x (by simp)) (small y (by simp)) zero).symm
      next => cases ok
    | [x, y, z] =>
      rw [bytesOfLast] at ok
      split at ok
      next zero =>
        cases ok
        exact (sextets_of_three (small x (by simp)) (small y (by simp)) (small z (by simp))
          zero).symm
      next => cases ok
    | [x, y, z, w] =>
      cases ok
      exact (sextets_of_values (small x (by simp)) (small y (by simp)) (small z (by simp))
        (small w (by simp)) []).symm
    | _ :: _ :: _ :: _ :: _ :: _ =>
      simp only [List.length_cons] at short
      omega
  · rintro rfl
    match out with
    | [] => rfl
    | [a] =>
      have := a.toNat_lt
      simp only [sextets, bytesOfLast]
      rw [if_pos (by omega), ofNat_eq (b := a) (by omega)]
    | [a, b] =>
      have := a.toNat_lt
      have := b.toNat_lt
      simp only [sextets, bytesOfLast]
      rw [if_pos (by omega), ofNat_eq (b := a) (by omega), ofNat_eq (b := b) (by omega)]
    | [a, b, c] =>
      obtain ⟨first, second, third⟩ := ofNat_of_bytes a b c
      simp only [sextets, bytesOfLast, first, second, third]
    | a :: b :: c :: d :: rest =>
      have := length_sextets (d :: rest)
      simp only [sextets, List.length_cons] at short this
      omega

/-! ## Reading -/

theorem valueAt_eq_ok : valueAt t offset b = .ok v ↔ v < 64 ∧ b = t.byte v := by
  rw [← Alphabet.value?_eq_some, valueAt]
  cases t.value? b <;> simp

theorem valuesFrom_eq_ok {values : List Nat} :
    valuesFrom t offset bs = .ok values ↔ (∀ v ∈ values, v < 64) ∧ bs = values.map t.byte := by
  induction bs generalizing offset values with
  | nil =>
    constructor
    · rintro ⟨⟩
      simp
    · rintro ⟨_, none⟩
      rw [List.map_eq_nil_iff.mp none.symm]
      rfl
  | cons b bs ih =>
    simp only [valuesFrom, bind_eq_ok, valueAt_eq_ok, ih]
    constructor
    · rintro ⟨v, ⟨small, rfl⟩, values, ⟨smaller, rfl⟩, ⟨⟩⟩
      exact ⟨by simpa [small] using smaller, rfl⟩
    · rintro ⟨small, same⟩
      cases values with
      | nil => cases same
      | cons v values =>
        obtain ⟨rfl, rfl⟩ := List.cons.inj same
        have smaller : ∀ v ∈ values, v < 64 := fun v mem => small v (by simp [mem])
        exact ⟨v, ⟨small v (by simp), rfl⟩, values, ⟨smaller, rfl⟩, rfl⟩

/-- The last group, four symbols or fewer. -/
theorem decodeLast_eq_ok (short : bs.length ≤ 4) :
    decodeLast t offset bs = .ok out ↔ bs = (sextets out).map t.byte := by
  constructor
  · intro ok
    simp only [decodeLast, bind_eq_ok] at ok
    obtain ⟨values, read, ok⟩ := ok
    obtain ⟨small, symbols⟩ := valuesFrom_eq_ok.mp read
    split at ok
    next whole =>
      -- There is no padding, so the symbols are all there is.
      have all := List.takeWhile_append_dropWhile (p := (· ≠ padding)) (l := bs)
      rw [whole, List.append_nil, symbols] at all
      rw [← all, List.length_map] at short
      rw [← all, (bytesOfLast_eq_ok small short).mp ok]
    next =>
      split at ok
      · cases ok
      · cases ok
  · intro same
    have symbols : ∀ b ∈ bs, decide (b ≠ padding) = true := by
      rw [same]
      intro b mem
      obtain ⟨v, value, rfl⟩ := List.mem_map.mp mem
      exact decide_eq_true (Alphabet.byte_ne_padding (sextets_lt value))
    have read : valuesFrom t offset bs = .ok (sextets out) :=
      valuesFrom_eq_ok.mpr ⟨fun _ => sextets_lt, same⟩
    rw [same, List.length_map] at short
    rw [decodeLast, List.takeWhile_eq_self_iff.mpr symbols, List.dropWhile_eq_nil_iff.mpr symbols]
    exact bind_eq_ok.mpr ⟨_, read, (bytesOfLast_eq_ok (fun _ => sextets_lt) short).mpr rfl⟩

theorem decodeFrom_eq_ok :
    decodeFrom t offset bs = .ok out ↔ bs = (sextets out).map t.byte := by
  induction offset, bs using decodeFrom.induct generalizing out with
  | case1 offset a b c d e rest ih =>
    simp only [decodeFrom, bind_eq_ok, valueAt_eq_ok, ih]
    constructor
    · rintro ⟨x, ⟨hx, rfl⟩, y, ⟨hy, rfl⟩, z, ⟨hz, rfl⟩, w, ⟨hw, rfl⟩, bytes, read, ⟨⟩⟩
      simp only [sextets_of_values hx hy hz hw, List.map_cons, read]
    · intro same
      match out with
      | [] | [_] | [_, _] => simp [sextets] at same
      | p :: q :: r :: out =>
        have := p.toNat_lt
        have := q.toNat_lt
        have := r.toNat_lt
        simp only [sextets, List.map_cons, List.cons.injEq] at same
        obtain ⟨rfl, rfl, rfl, rfl, same⟩ := same
        obtain ⟨first, second, third⟩ := ofNat_of_bytes p q r
        refine ⟨_, ⟨by omega, rfl⟩, _, ⟨by omega, rfl⟩, _, ⟨by omega, rfl⟩, _, ⟨by omega, rfl⟩,
          out, same, ?_⟩
        rw [first, second, third]
        rfl
  | case2 offset bs longer =>
    have short : bs.length ≤ 4 := by
      match bs with
      | [] | [_] | [_, _] | [_, _, _] | [_, _, _, _] => simp
      | _ :: _ :: _ :: _ :: _ :: _ => exact absurd rfl (longer _ _ _ _ _ _)
    rw [decodeFrom, decodeLast_eq_ok short]
    exact longer

theorem decode_eq_ok : decode t bs = .ok out ↔ bs = (sextets out).map t.byte := by
  unfold decode
  split
  next b last =>
    split
    next foreign =>
      -- The byte that is named is none of the symbols, so this was not written.
      constructor
      · nofun
      · rintro rfl
        obtain ⟨v, mem, rfl⟩ := List.mem_map.mp (List.mem_of_getLast? last)
        have none := foreign.2.2
        rw [Alphabet.value?_byte (sextets_lt mem)] at none
        cases none
    next => exact decodeFrom_eq_ok
  next => exact decodeFrom_eq_ok

/-! ## Texts -/

theorem exists_symbol_of_mem_encode (mem : c ∈ encode t bs) : ∃ n < 64, c = t.symbol n := by
  rw [encode_eq_map] at mem
  obtain ⟨n, value, rfl⟩ := List.mem_map.mp mem
  exact ⟨n, sextets_lt value, rfl⟩

/-- A text is written for some bytes if it has nothing but symbols, which stand for whole bytes. -/
theorem exists_eq_encode :
    (∃ bs, cs = encode t bs) ↔
      ∃ values, (∀ v ∈ values, v < 64) ∧ Whole values ∧ cs = values.map t.symbol := by
  constructor
  · rintro ⟨bs, rfl⟩
    exact ⟨sextets bs, fun _ => sextets_lt, whole_sextets bs, encode_eq_map t bs⟩
  · rintro ⟨values, small, whole, rfl⟩
    obtain ⟨bs, rfl⟩ := exists_sextets whole small
    exact ⟨bs, (encode_eq_map t bs).symm⟩

theorem length_encode (t : Alphabet) (bs : Bytes) :
    (encode t bs).length = (4 * bs.length + 2) / 3 := by
  rw [encode_eq_map, List.length_map, length_sextets]

theorem length_le_length_encode (t : Alphabet) (bs : Bytes) :
    bs.length ≤ (encode t bs).length := by
  rw [length_encode]
  omega

theorem ofText_encodeText : Bytes.ofText (encodeText t bs) = (sextets bs).map t.byte := by
  rw [encodeText, Bytes.ofText_of_ascii, encode_eq_map, List.map_map]
  · rfl
  · intro c mem
    obtain ⟨n, small, rfl⟩ := exists_symbol_of_mem_encode mem
    exact (Alphabet.symbol_plain small).1

/-- The texts that decode are those that are written, each to what it was written for. -/
theorem decodeText_eq_ok {s : String} : decodeText t s = .ok bs ↔ s = encodeText t bs := by
  rw [decodeText, decode_eq_ok, ← ofText_encodeText, Bytes.ofText_inj]

end Base64
end SessionKit
