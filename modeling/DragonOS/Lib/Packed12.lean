import DragonOS.Lib.Buffer

/-!
# Tables of 12-bit entries

Two entries share three bytes: an even entry owns the low half of the byte between
them and an odd one the high half. Entry `i` starts in byte `i + i / 2`. A write of
the two bytes of an entry that keeps the half it does not own changes no other entry.
-/

namespace DragonOS.Lib

def entry12 (table : List UInt8) (i : Nat) : Nat :=
  let low := (table.getD (i + i / 2) 0).toNat
  let high := (table.getD (i + i / 2 + 1) 0).toNat
  if i % 2 = 0 then low + 256 * (high % 16) else low / 16 + 16 * high

section
variable {table : List UInt8} {offset i j : Nat} {first second : UInt8}

theorem getD_overwrite_pair (h : offset + 2 ≤ table.length) (k : Nat) :
    (overwrite table offset [first, second]).getD k 0 =
      if k = offset then first else if k = offset + 1 then second else table.getD k 0 := by
  rw [List.getD_eq_getElem?_getD, getElem?_overwrite h, List.length_cons, List.length_singleton]
  by_cases hfirst : k = offset
  · rw [if_pos (by omega), if_pos hfirst, hfirst, Nat.sub_self]
    rfl
  by_cases hsecond : k = offset + 1
  · rw [if_pos (by omega), if_neg hfirst, if_pos hsecond, hsecond, Nat.add_sub_cancel_left]
    rfl
  · rw [if_neg (by omega), if_neg hfirst, if_neg hsecond, List.getD_eq_getElem?_getD]

theorem entry12_overwrite_self (h : i + i / 2 + 2 ≤ table.length) :
    entry12 (overwrite table (i + i / 2) [first, second]) i =
      if i % 2 = 0 then first.toNat + 256 * (second.toNat % 16)
      else first.toNat / 16 + 16 * second.toNat := by
  simp only [entry12, getD_overwrite_pair h, if_true, if_neg (Nat.succ_ne_self _)]

theorem entry12_overwrite_of_ne (h : i + i / 2 + 2 ≤ table.length) (hne : j ≠ i)
    (heven : i % 2 = 0 → second.toNat / 16 = (table.getD (i + i / 2 + 1) 0).toNat / 16)
    (hodd : i % 2 ≠ 0 → first.toNat % 16 = (table.getD (i + i / 2) 0).toNat % 16) :
    entry12 (overwrite table (i + i / 2) [first, second]) j = entry12 table j := by
  simp only [entry12, getD_overwrite_pair h]
  have hfirst : j + j / 2 ≠ i + i / 2 := by omega
  have hsecond : j + j / 2 + 1 ≠ i + i / 2 + 1 := by omega
  by_cases hbefore : j + j / 2 + 1 = i + i / 2
  · have hparity : j % 2 = 0 := by omega
    have hafter : j + j / 2 ≠ i + i / 2 + 1 := by omega
    rw [if_neg hfirst, if_neg hafter, if_pos hbefore, hbefore, if_pos hparity, if_pos hparity,
      hodd (by omega)]
  by_cases hafter : j + j / 2 = i + i / 2 + 1
  · have hparity : j % 2 ≠ 0 := by omega
    rw [if_neg hfirst, if_pos hafter, if_neg hbefore, if_neg hsecond, hafter, if_neg hparity,
      if_neg hparity, heven (by omega)]
  · rw [if_neg hfirst, if_neg hafter, if_neg hbefore, if_neg hsecond]

theorem toNat_joinHalves (high low : UInt8) :
    ((high &&& 0xF0) ||| (low &&& 0x0F)).toNat = 16 * (high.toNat / 16) + low.toNat % 16 := by
  have hhigh : high.toNat &&& 0xF0 = 16 * (high.toNat / 16) := by
    have h : ∀ byte : Fin 256, byte.val &&& 0xF0 = 16 * (byte.val / 16) := by decide +kernel
    exact h ⟨high.toNat, high.toNat_lt⟩
  have hlow : low.toNat &&& 0x0F = low.toNat % 16 := Nat.and_two_pow_sub_one_eq_mod low.toNat 4
  rw [UInt8.toNat_or, UInt8.toNat_and, UInt8.toNat_and]
  change (high.toNat &&& 0xF0) ||| (low.toNat &&& 0x0F) = _
  rw [hhigh, hlow]
  exact (Nat.two_pow_add_eq_or_of_lt (i := 4) (Nat.mod_lt _ (by decide)) _).symm

theorem toUInt8_shiftRight_eight (value : UInt16) :
    (value >>> 8).toUInt8.toNat = value.toNat / 256 := by
  have := value.toNat_lt
  rw [UInt16.toNat_toUInt8, UInt16.toNat_shiftRight]
  change value.toNat >>> 8 % 2 ^ 8 = _
  rw [Nat.shiftRight_eq_div_pow]
  omega

theorem toUInt8_shiftRight_four (value : UInt16) :
    (value >>> 4).toUInt8.toNat = value.toNat / 16 % 256 := by
  rw [UInt16.toNat_toUInt8, UInt16.toNat_shiftRight]
  change value.toNat >>> 4 % 2 ^ 8 = _
  rw [Nat.shiftRight_eq_div_pow]

theorem toUInt8_shiftLeft_four (value : UInt16) :
    (value <<< 4).toUInt8.toNat = value.toNat * 16 % 256 := by
  rw [UInt16.toNat_toUInt8, UInt16.toNat_shiftLeft]
  change (value.toNat <<< 4 % 2 ^ 16) % 2 ^ 8 = _
  rw [Nat.shiftLeft_eq]
  omega

end

end DragonOS.Lib
