import Mathlib.Data.List.Nodup

/-!
# Lists of values with a key

`eraseFirst` and `replaceFirst` change the first value with a key and leave all values with
other keys where they are. No value with the key is left, or the new one is the only one, if
there was one before. `eraseP_same` is for lists that compare whole values instead of keys.
-/

namespace DragonOS.Lib

section
variable {value : Type} {Key : Type} [DecidableEq Key] (key : value → Key)

def eraseFirst (k : Key) (values : List value) : List value := values.eraseP fun v => key v = k

/-- The first value with the key of the new one; none if there is no such value. -/
def replaceFirst (new : value) : List value → Option (List value)
  | [] => none
  | v :: rest => if key v = key new then some (new :: rest) else (replaceFirst new rest).map (v :: ·)

def withKey (k : Key) (values : List value) : List value := values.filter fun v => key v = k

def withoutKey (k : Key) (values : List value) : List value := values.filter fun v => key v ≠ k

end

section
variable {value : Type} {Key : Type} [DecidableEq Key] {key : value → Key} {k : Key}
  {values after : List value} {v new : value}

theorem withKey_eq_nil : withKey key k values = [] ↔ ∀ v ∈ values, key v ≠ k := by
  simp [withKey, List.filter_eq_nil_iff]

theorem tail_withKey_eq_nil_iff :
    (withKey key k values).tail = [] ↔ (withKey key k values).length ≤ 1 := by
  rw [← List.length_eq_zero_iff, List.length_tail, Nat.sub_eq_zero_iff_le]

theorem withKey_eraseFirst : withKey key k (eraseFirst key k values) = (withKey key k values).tail := by
  induction values with
  | nil => rfl
  | cons v values ih =>
    by_cases hkey : key v = k
    · simp [eraseFirst, withKey, hkey]
    · simpa [eraseFirst, withKey, hkey] using ih

theorem withoutKey_eraseFirst :
    withoutKey key k (eraseFirst key k values) = withoutKey key k values := by
  induction values with
  | nil => rfl
  | cons v values ih =>
    by_cases hkey : key v = k
    · simp [eraseFirst, withoutKey, hkey]
    · simpa [eraseFirst, withoutKey, hkey] using ih

theorem replaceFirst_eq_none : replaceFirst key new values = none ↔ withKey key (key new) values = [] := by
  induction values with
  | nil => simp [replaceFirst, withKey]
  | cons v values ih =>
    by_cases hkey : key v = key new
    · simp [replaceFirst, withKey, hkey]
    · simpa [replaceFirst, withKey, hkey] using ih

/-- All that replacing does: one value with the key makes place for the new one. -/
theorem split_replaceFirst (h : replaceFirst key new values = some after) :
    ∃ front old back, (∀ v ∈ front, key v ≠ key new) ∧ key old = key new ∧
      values = front ++ old :: back ∧ after = front ++ new :: back := by
  induction values generalizing after with
  | nil => cases h
  | cons v values ih =>
    unfold replaceFirst at h
    split at h
    next hkey =>
      exact ⟨[], v, values, List.forall_mem_nil _, hkey, rfl, (Option.some.inj h).symm⟩
    next hkey =>
      obtain ⟨rest, hrest, rfl⟩ := Option.map_eq_some_iff.mp h
      obtain ⟨front, old, back, hfront, hold, rfl, rfl⟩ := ih hrest
      exact ⟨v :: front, old, back, List.forall_mem_cons.mpr ⟨hkey, hfront⟩, hold, rfl, rfl⟩

theorem withKey_replaceFirst (h : replaceFirst key new values = some after) :
    withKey key (key new) after = new :: (withKey key (key new) values).tail := by
  obtain ⟨front, old, back, hfront, hold, rfl, rfl⟩ := split_replaceFirst h
  have hnone : front.filter (fun v => key v = key new) = [] := withKey_eq_nil.mpr hfront
  simp [withKey, hnone, hold]

theorem withoutKey_replaceFirst (h : replaceFirst key new values = some after) :
    withoutKey key (key new) after = withoutKey key (key new) values := by
  obtain ⟨front, old, back, -, hold, rfl, rfl⟩ := split_replaceFirst h
  simp [withoutKey, hold]

theorem map_key_replaceFirst (h : replaceFirst key new values = some after) :
    after.map key = values.map key := by
  obtain ⟨front, old, back, -, hold, rfl, rfl⟩ := split_replaceFirst h
  rw [List.map_append, List.map_append, List.map_cons, List.map_cons, hold]

/-- To look a key up and to erase the first value that equals the one found is to erase the
first one with the key, for any equality that tells values with different keys apart. -/
theorem eraseP_same {same : value → value → Bool} (hrefl : ∀ v, same v v = true)
    (hkey : ∀ v w, same v w = true → key v = key w)
    (hfound : values.find? (fun v => key v = k) = some v) :
    values.eraseP (same · v) = eraseFirst key k values := by
  induction values with
  | nil => cases hfound
  | cons w values ih =>
    have hv : key v = k := by simpa using List.find?_some hfound
    by_cases hw : key w = k
    · rw [List.find?_cons_of_pos (by simpa using hw)] at hfound
      obtain rfl := Option.some.inj hfound
      rw [List.eraseP_cons_of_pos (p := (same · w)) (hrefl w), eraseFirst,
        List.eraseP_cons_of_pos (by simpa using hw)]
    · have hne : ¬ same w v = true := fun hsame => hw ((hkey w v hsame).trans hv)
      rw [List.find?_cons_of_neg (by simpa using hw)] at hfound
      rw [List.eraseP_cons_of_neg (p := (same · v)) hne, ih hfound, eraseFirst, eraseFirst,
        List.eraseP_cons_of_neg (by simpa using hw)]

theorem length_withKey_le_one (h : (values.map key).Nodup) : (withKey key k values).length ≤ 1 := by
  induction values with
  | nil => exact Nat.zero_le 1
  | cons v values ih =>
    rw [List.map_cons, List.nodup_cons] at h
    by_cases hkey : key v = k
    · have hnone : withKey key k values = [] :=
        withKey_eq_nil.mpr fun w hw hsame =>
          h.1 (List.mem_map.mpr ⟨w, hw, hsame.trans hkey.symm⟩)
      rw [withKey, List.filter_cons_of_pos (by simpa using hkey), ← withKey, hnone]
      exact Nat.le_refl 1
    · rw [withKey, List.filter_cons_of_neg (by simpa using hkey)]
      exact ih h.2

end

end DragonOS.Lib
