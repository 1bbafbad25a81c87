import SessionKit.Identifier
import Mathlib.Data.FinEnum
import Mathlib.Data.Set.Card
import Mathlib.Data.Set.Finite.List
import Mathlib.Order.Bounds.Basic

/-!
# Which positions bytes select

A byte selects the position that its low bits spell, if the alphabet has one. Two positions are
exchanged by exchanging the bits in which they differ, and the bytes that select nothing stay as
they are. Done byte by byte, this turns the byte strings whose first selected positions are given
ones into those that begin with any other positions, and back: there are equally many of both.
-/

namespace SessionKit.Identifier

/-! ## Masks -/

/-- A mask has only ones, and it is the smallest that covers the last position. -/
theorem isLeast_maskOf {size : Nat} (two : 2 ≤ size) :
    IsLeast {m | (∃ k, m = 2 ^ k - 1) ∧ size - 1 ≤ m} (Alphabet.maskOf size) := by
  have covers : size - 1 < 2 ^ ((size - 1).log2 + 1) := Nat.lt_log2_self
  constructor
  · refine ⟨⟨_, rfl⟩, ?_⟩
    show size - 1 ≤ 2 ^ ((size - 1).log2 + 1) - 1
    omega
  · rintro m ⟨⟨k, rfl⟩, covered⟩
    have pos : 0 < 2 ^ k := Nat.two_pow_pos k
    have below : (size - 1).log2 < k := (Nat.log2_lt (by omega)).mpr (by omega)
    exact Nat.sub_le_sub_right (Nat.pow_le_pow_right (by decide) below) 1

namespace Alphabet

variable {a : Alphabet} {b : UInt8} {bs : Bytes} {i j : Fin a.size}
  {turns : List (Fin a.size × Fin a.size)}

theorem two_le_size (a : Alphabet) : 2 ≤ a.size :=
  Nat.le_trans (by decide) a.minLength_le

theorem lt_of_position (i : Fin a.size) : i.val < 256 :=
  Nat.lt_of_lt_of_le i.isLt (Nat.le_trans a.le_maxLength (by decide))

/-- A position has no bits beyond the mask. -/
theorem and_mask (i : Fin a.size) : i.val &&& a.mask = i.val := by
  obtain ⟨⟨⟨k, ones⟩, covers⟩, _⟩ := isLeast_maskOf a.two_le_size
  change a.mask = 2 ^ k - 1 at ones
  change a.size - 1 ≤ a.mask at covers
  rw [ones, Nat.and_two_pow_sub_one_eq_mod]
  apply Nat.mod_eq_of_lt
  have := i.isLt
  have := Nat.two_pow_pos k
  omega

/-! ## Positions -/

/-- The position that a random byte selects, if it selects one. -/
def index? (a : Alphabet) (b : UInt8) : Option (Fin a.size) :=
  if h : b.toNat &&& a.mask < a.size then some ⟨b.toNat &&& a.mask, h⟩ else none

theorem index?_eq_some : a.index? b = some i ↔ b.toNat &&& a.mask = i.val := by
  unfold index?
  split
  next within => simp [Fin.ext_iff]
  next beyond =>
    have := i.isLt
    simp only [reduceCtorEq, false_iff]
    omega

def character (a : Alphabet) (i : Fin a.size) : Char := a.characters.get i

/-- What is selected is the character at the position. -/
theorem select?_eq_map (a : Alphabet) (b : UInt8) :
    a.select? b = (a.index? b).map a.character := by
  unfold select? index?
  split
  next within => exact List.getElem?_eq_getElem within
  next beyond => exact List.getElem?_eq_none (Nat.le_of_not_lt beyond)

/-- The byte that selects `j` where the given one selects `i`. -/
def exchange (i j : Fin a.size) (b : UInt8) : UInt8 :=
  b ^^^ UInt8.ofNat i.val ^^^ UInt8.ofNat j.val

theorem exchange_exchange : exchange j i (exchange i j b) = b := by
  simp [exchange, UInt8.xor_assoc]

theorem toNat_exchange : (exchange i j b).toNat = b.toNat ^^^ i.val ^^^ j.val := by
  simp [exchange, Nat.mod_eq_of_lt (lt_of_position i), Nat.mod_eq_of_lt (lt_of_position j)]

theorem index?_exchange (selected : a.index? b = some i) :
    a.index? (exchange i j b) = some j := by
  rw [index?_eq_some] at selected ⊢
  simp only [toNat_exchange, Nat.and_xor_distrib_right, and_mask, selected]
  simp

/-! ## Byte strings -/

/-- The positions that the bytes select, in their order. -/
def positions (a : Alphabet) (bs : Bytes) : List (Fin a.size) := bs.filterMap a.index?

/-- One exchange after the other, each for the next byte that selects a position. -/
def recast : List (Fin a.size × Fin a.size) → Bytes → Bytes
  | [], bs => bs
  | _ :: _, [] => []
  | (i, j) :: turns, b :: bs =>
    match a.index? b with
    -- The turn is still to come.
    | none => b :: recast ((i, j) :: turns) bs
    | some _ => exchange i j b :: recast turns bs

theorem length_recast : (recast turns bs).length = bs.length := by
  induction turns, bs using recast.induct with
  | case1 bs => simp [recast]
  | case2 turn turns => rfl
  | case3 i j turns b bs rejected ih => simp [recast, rejected, ih]
  | case4 i j turns b bs k selected ih => simp [recast, selected, ih]

/-- The first positions become those that they are exchanged for. -/
theorem positions_recast (leads : turns.map Prod.fst <+: a.positions bs) :
    turns.map Prod.snd <+: a.positions (recast turns bs) := by
  induction turns, bs using recast.induct with
  | case1 bs => exact List.nil_prefix
  | case2 turn turns => simp [positions] at leads
  | case3 i j turns b bs rejected ih =>
    simp only [positions, List.filterMap_cons, rejected] at leads
    simpa [positions, recast, rejected] using ih leads
  | case4 i j turns b bs k selected ih =>
    simp only [positions, List.filterMap_cons, selected, List.map_cons,
      List.cons_prefix_cons] at leads
    obtain ⟨rfl, leads⟩ := leads
    simpa [positions, recast, selected, index?_exchange selected] using ih leads

/-- Exchanging back restores the bytes. -/
theorem recast_recast (leads : turns.map Prod.fst <+: a.positions bs) :
    recast (turns.map Prod.swap) (recast turns bs) = bs := by
  induction turns, bs using recast.induct with
  | case1 bs => simp [recast]
  | case2 turn turns => rfl
  | case3 i j turns b bs rejected ih =>
    simp only [positions, List.filterMap_cons, rejected] at leads
    simpa [recast, rejected] using ih leads
  | case4 i j turns b bs k selected ih =>
    simp only [positions, List.filterMap_cons, selected, List.map_cons,
      List.cons_prefix_cons] at leads
    obtain ⟨rfl, leads⟩ := leads
    simpa [recast, selected, index?_exchange selected, exchange_exchange] using ih leads

/-- The byte strings of a length whose first selected positions are these. -/
def leading (a : Alphabet) (N : Nat) (is : List (Fin a.size)) : Set Bytes :=
  {bs | bs.length = N ∧ is <+: a.positions bs}

theorem recast_mem_leading {N : Nat} (mem : bs ∈ a.leading N (turns.map Prod.fst)) :
    recast turns bs ∈ a.leading N (turns.map Prod.snd) :=
  ⟨length_recast.trans mem.1, positions_recast mem.2⟩

theorem recast_swap_mem_leading {N : Nat} (mem : bs ∈ a.leading N (turns.map Prod.snd)) :
    recast (turns.map Prod.swap) bs ∈ a.leading N (turns.map Prod.fst) ∧
      recast turns (recast (turns.map Prod.swap) bs) = bs := by
  have fst : (turns.map Prod.swap).map Prod.fst = turns.map Prod.snd := by simp
  have snd : (turns.map Prod.swap).map Prod.snd = turns.map Prod.fst := by simp
  have back : (turns.map Prod.swap).map Prod.swap = turns := by simp
  rw [← fst] at mem
  constructor
  · simpa [snd] using recast_mem_leading mem
  · simpa [back] using recast_recast mem.2

theorem ncard_leading_map (N : Nat) (turns : List (Fin a.size × Fin a.size)) :
    (a.leading N (turns.map Prod.fst)).ncard = (a.leading N (turns.map Prod.snd)).ncard := by
  refine Set.ncard_congr (fun bs _ => recast turns bs) ?_ ?_ ?_
  · intro bs mem
    exact recast_mem_leading mem
  · intro bs bs' mem mem' same
    rw [← recast_recast mem.2, same, recast_recast mem'.2]
  · intro bs mem
    obtain ⟨mem', back⟩ := recast_swap_mem_leading mem
    exact ⟨_, mem', back⟩

theorem finite_leading (N : Nat) (is : List (Fin a.size)) : (a.leading N is).Finite :=
  (List.finite_length_eq UInt8 N).subset fun _ mem => mem.1

/-- The characters that the bytes select, in their order. -/
def selected (a : Alphabet) (bs : Bytes) : List Char := bs.filterMap a.select?

theorem selected_eq_map (a : Alphabet) (bs : Bytes) :
    a.selected bs = (a.positions bs).map a.character := by
  rw [selected, positions, List.map_filterMap, ← funext a.select?_eq_map]

/-- Among the byte strings of a length, as many select one sequence of positions first as select any
other sequence of as many positions: no identifier is favoured. The characters that are selected are
those at the positions. -/
theorem ncard_leading_eq (a : Alphabet) (n N : Nat) (v w : Vector (Fin a.size) n) :
    (∀ bs : Bytes, a.selected bs = (a.positions bs).map a.character) ∧
    {bs : Bytes | bs.length = N ∧ (a.positions bs).take n = v.toList}.Finite ∧
    {bs : Bytes | bs.length = N ∧ (a.positions bs).take n = v.toList}.ncard =
      {bs : Bytes | bs.length = N ∧ (a.positions bs).take n = w.toList}.ncard := by
  have leads (u : Vector (Fin a.size) n) :
      {bs : Bytes | bs.length = N ∧ (a.positions bs).take n = u.toList} = a.leading N u.toList := by
    ext bs
    simp [leading, List.prefix_iff_eq_take, eq_comm]
  have fst : (v.toList.zip w.toList).map Prod.fst = v.toList := List.map_fst_zip (by simp)
  have snd : (v.toList.zip w.toList).map Prod.snd = w.toList := List.map_snd_zip (by simp)
  rw [leads, leads]
  -- The turns exchange each position of `v` for the one of `w` at its place.
  refine ⟨selected_eq_map a, finite_leading N v.toList, ?_⟩
  calc (a.leading N v.toList).ncard
    _ = (a.leading N ((v.toList.zip w.toList).map Prod.fst)).ncard := by rw [fst]
    _ = (a.leading N ((v.toList.zip w.toList).map Prod.snd)).ncard := ncard_leading_map N _
    _ = (a.leading N w.toList).ncard := by rw [snd]

end Alphabet
end SessionKit.Identifier
