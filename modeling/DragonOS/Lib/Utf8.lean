import Mathlib.Algebra.Group.Nat.Defs
import Mathlib.Data.List.Basic
import Mathlib.Tactic.Common

/-!
# UTF-8 in pieces

A decoder gets its bytes piece by piece and keeps the ones that may still become a
character. What cannot be one is replaced, and the byte that shows it begins anew. The
characters are UTF-16 units.
-/

namespace DragonOS.Lib.Utf8

-- ---------------------------------------------------------------------------
-- Characters
-- ---------------------------------------------------------------------------

/-- The length of the character that a byte begins; 0 if it begins none. -/
def leadLength (lead : UInt8) : Nat :=
  if lead < 0x80 then 1
  else if lead < 0xC2 then 0
  else if lead < 0xE0 then 2
  else if lead < 0xF0 then 3
  else if lead < 0xF5 then 4
  else 0

/-- No overlong forms, no surrogates, and nothing beyond U+10FFFF. -/
def secondBytes (lead : UInt8) : UInt8 × UInt8 :=
  if lead = 0xE0 then (0xA0, 0xBF)
  else if lead = 0xED then (0x80, 0x9F)
  else if lead = 0xF0 then (0x90, 0xBF)
  else if lead = 0xF4 then (0x80, 0x8F)
  else (0x80, 0xBF)

def continues : (pending : List UInt8) → (byte : UInt8) → Bool
  | [lead], byte => (secondBytes lead).1 ≤ byte && byte ≤ (secondBytes lead).2
  | _, byte => 0x80 ≤ byte && byte ≤ 0xBF

def codePoint : List UInt8 → Nat
  | [] => 0
  | lead :: rest =>
    rest.foldl (fun value byte => value * 64 + byte.toNat % 64)
      (lead.toNat % 2 ^ (6 - rest.length))

def units (codePoint : Nat) : List UInt16 :=
  if codePoint < 0x10000 then [UInt16.ofNat codePoint]
  else
    [0xD800 + UInt16.ofNat ((codePoint - 0x10000) / 0x400),
      0xDC00 + UInt16.ofNat ((codePoint - 0x10000) % 0x400)]

def replacement : UInt16 := 0xFFFD

-- ---------------------------------------------------------------------------
-- The decoder
-- ---------------------------------------------------------------------------

def start (byte : UInt8) : List UInt16 × List UInt8 :=
  match leadLength byte with
  | 0 => ([replacement], [])
  | 1 => ([byte.toUInt16], [])
  | _ => ([], [byte])

/-- The units that a byte completes, and the bytes that are pending after it. -/
def push : (pending : List UInt8) → (byte : UInt8) → List UInt16 × List UInt8
  | [], byte => start byte
  | lead :: rest, byte =>
    if continues (lead :: rest) byte then
      if rest.length + 2 = leadLength lead then (units (codePoint (lead :: (rest ++ [byte]))), [])
      else ([], lead :: (rest ++ [byte]))
    else (replacement :: (start byte).1, (start byte).2)

def decode : (pending bytes : List UInt8) → List UInt16 × List UInt8
  | pending, [] => ([], pending)
  | pending, byte :: bytes =>
    let later := decode (push pending byte).2 bytes
    ((push pending byte).1 ++ later.1, later.2)

-- ---------------------------------------------------------------------------
-- ASCII
-- ---------------------------------------------------------------------------

theorem decode_ascii {bytes : List UInt8} (h : ∀ byte ∈ bytes, byte < 0x80) :
    decode [] bytes = (bytes.map UInt8.toUInt16, []) := by
  induction bytes with
  | nil => rfl
  | cons byte bytes ih =>
    obtain ⟨hbyte, hbytes⟩ := List.forall_mem_cons.mp h
    have hlead : leadLength byte = 1 := if_pos hbyte
    have hpush : push [] byte = ([byte.toUInt16], []) := by
      simp only [push, start, hlead]
    rw [decode, hpush, ih hbytes]
    rfl

theorem length_start_le (byte : UInt8) : (start byte).1.length ≤ 1 := by
  unfold start
  split <;> simp

/-- The second unit of a pair is far from ASCII. -/
theorem length_units_le_of_ascii {codePoint : Nat} (h : ∀ unit ∈ units codePoint, unit < 0x80) :
    (units codePoint).length ≤ 1 := by
  unfold units at h ⊢
  split at h
  next hsmall =>
    rw [if_pos hsmall]
    exact Nat.le_refl 1
  next hlarge =>
    have hlow := h _ (List.mem_cons_of_mem _ List.mem_cons_self)
    have hrest := Nat.mod_lt (codePoint - 0x10000) (show 0 < 0x400 by decide)
    rw [UInt16.lt_iff_toNat_lt, UInt16.toNat_add, UInt16.toNat_ofNat',
      Nat.mod_eq_of_lt (Nat.lt_trans hrest (by decide))] at hlow
    change (0xDC00 + _) % 2 ^ 16 < 0x80 at hlow
    omega

theorem length_push_le_of_ascii {pending : List UInt8} {byte : UInt8}
    (h : ∀ unit ∈ (push pending byte).1, unit < 0x80) : (push pending byte).1.length ≤ 1 := by
  cases pending with
  | nil => exact length_start_le byte
  | cons lead rest =>
    rw [push] at h ⊢
    by_cases hcontinues : continues (lead :: rest) byte = true
    · rw [if_pos hcontinues] at h ⊢
      by_cases hcomplete : rest.length + 2 = leadLength lead
      · rw [if_pos hcomplete] at h ⊢
        exact length_units_le_of_ascii h
      · rw [if_neg hcomplete]
        exact Nat.zero_le 1
    · rw [if_neg hcontinues] at h
      exact absurd (h replacement List.mem_cons_self) (by decide)

theorem length_decode_le_of_ascii {pending bytes : List UInt8}
    (h : ∀ unit ∈ (decode pending bytes).1, unit < 0x80) :
    (decode pending bytes).1.length ≤ bytes.length := by
  induction bytes generalizing pending with
  | nil => exact Nat.le_refl 0
  | cons byte bytes ih =>
    obtain ⟨hfirst, hlater⟩ := List.forall_mem_append.mp h
    have hpush := length_push_le_of_ascii hfirst
    have hrest := ih hlater
    rw [decode, List.length_append, List.length_cons]
    omega

/-- Each byte is a character, and nothing is pending after the last one. -/
def Bytewise (bytes : List UInt8) : Prop :=
  (decode [] bytes).1.length = bytes.length ∧ (decode [] bytes).2 = []

instance (bytes : List UInt8) : Decidable (Bytewise bytes) :=
  inferInstanceAs (Decidable (_ ∧ _))

theorem bytewise_of_ascii {bytes : List UInt8} (h : ∀ byte ∈ bytes, byte < 0x80) :
    Bytewise bytes := by
  rw [Bytewise, decode_ascii h]
  exact ⟨List.length_map _, rfl⟩

theorem start_of_ascii {byte : UInt8} (hone : (start byte).1.length = 1)
    (h : ∀ unit ∈ (start byte).1, unit < 0x80) : start byte = ([byte.toUInt16], []) := by
  revert hone h
  unfold start
  split
  next => exact fun _ h => absurd (h replacement List.mem_cons_self) (by decide)
  next => exact fun _ _ => rfl
  next => exact nofun

theorem eq_map_of_ascii {bytes : List UInt8} (hlength : (decode [] bytes).1.length = bytes.length)
    (h : ∀ unit ∈ (decode [] bytes).1, unit < 0x80) :
    (decode [] bytes).1 = bytes.map UInt8.toUInt16 := by
  induction bytes with
  | nil => rfl
  | cons byte bytes ih =>
    have hsplit : (decode [] (byte :: bytes)).1 = (start byte).1 ++ (decode (start byte).2 bytes).1 :=
      rfl
    rw [hsplit] at hlength h ⊢
    obtain ⟨hfirst, hlater⟩ := List.forall_mem_append.mp h
    have hrest := length_decode_le_of_ascii hlater
    have hle := length_start_le byte
    rw [List.length_append, List.length_cons] at hlength
    have hstart := start_of_ascii (by omega) hfirst
    rw [hstart] at hlength hlater ⊢
    rw [ih (Nat.add_left_cancel (hlength.trans (Nat.add_comm _ 1))) hlater]
    rfl

end DragonOS.Lib.Utf8
