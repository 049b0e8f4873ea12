import DragonOS.Lib.Buffer

/-!
# Regions of a buffer

A buffer is filled by writing regions to it, each behind the one before. Whatever is
written is found again at its place, and what is not written stays.
-/

namespace DragonOS.Lib

section
variable {α : Type} {target bytes : List α} {regions : List (Nat × List α)} {first offset : Nat}

def putRegions (target : List α) (regions : List (Nat × List α)) : List α :=
  regions.foldl (fun target region => overwrite target region.1 region.2) target

theorem putRegions_cons (target : List α) (region : Nat × List α) (rest : List (Nat × List α)) :
    putRegions target (region :: rest) = putRegions (overwrite target region.1 region.2) rest := rfl

theorem putRegions_append (target : List α) (first second : List (Nat × List α)) :
    putRegions target (first ++ second) = putRegions (putRegions target first) second :=
  List.foldl_append

/-- Every region starts where the one before has ended, or later, and none reaches
beyond `limit`. -/
def InOrder (first limit : Nat) : List (Nat × List α) → Prop
  | [] => first ≤ limit
  | region :: rest => first ≤ region.1 ∧ InOrder (region.1 + region.2.length) limit rest

theorem InOrder.first_le (h : InOrder first limit regions) : first ≤ limit := by
  induction regions generalizing first with
  | nil => exact h
  | cons region rest ih =>
    have hrest := ih h.2
    have hfirst := h.1
    omega

theorem InOrder.bounds (h : InOrder first limit regions) (hmem : region ∈ regions) :
    first ≤ region.1 ∧ region.1 + region.2.length ≤ limit := by
  induction regions generalizing first with
  | nil => cases hmem
  | cons head rest ih =>
    rcases List.mem_cons.mp hmem with rfl | hrest
    · exact ⟨h.1, h.2.first_le⟩
    · have hbounds := ih h.2 hrest
      have hfirst := h.1
      omega

theorem InOrder.append (h : InOrder first middle regions) {more : List (Nat × List α)}
    (hmore : InOrder middle limit more) : InOrder first limit (regions ++ more) := by
  induction regions generalizing first with
  | nil =>
    cases more with
    | nil => exact Nat.le_trans h hmore
    | cons region rest => exact ⟨Nat.le_trans h hmore.1, hmore.2⟩
  | cons region rest ih => exact ⟨h.1, ih h.2⟩

theorem InOrder.weaken (h : InOrder first middle regions) (hlimit : middle ≤ limit) :
    InOrder first limit regions := by
  have hnone : InOrder middle limit ([] : List (Nat × List α)) := hlimit
  simpa only [List.append_nil] using h.append hnone

theorem InOrder.left {more : List (Nat × List α)} (h : InOrder first limit (regions ++ more)) :
    InOrder first limit regions := by
  induction regions generalizing first with
  | nil => exact h.first_le
  | cons region rest ih => exact ⟨h.1, ih h.2⟩

theorem length_putRegions (h : InOrder first target.length regions) :
    (putRegions target regions).length = target.length := by
  induction regions generalizing target first with
  | nil => rfl
  | cons region rest ih =>
    have hlength := length_overwrite (h.2.first_le)
    rw [putRegions, List.foldl_cons, ← putRegions, ih (hlength.symm ▸ h.2), hlength]

theorem slice_putRegions_of_beside (h : InOrder first target.length regions)
    (hbeside : ∀ region ∈ regions,
      start + length ≤ region.1 ∨ region.1 + region.2.length ≤ start) :
    slice (putRegions target regions) start length = slice target start length := by
  induction regions generalizing target first with
  | nil => rfl
  | cons region rest ih =>
    obtain ⟨hregion, hrest⟩ := List.forall_mem_cons.mp hbeside
    have hfit := h.2.first_le
    rw [putRegions, List.foldl_cons, ← putRegions,
      ih ((length_overwrite hfit).symm ▸ h.2) hrest, slice_overwrite_of_disjoint hfit hregion]

theorem slice_putRegions_inside (h : InOrder first target.length regions)
    (hmem : (offset, bytes) ∈ regions) (hinside : start + length ≤ bytes.length) :
    slice (putRegions target regions) (offset + start) length = slice bytes start length := by
  induction regions generalizing target first with
  | nil => cases hmem
  | cons region rest ih =>
    have hfit := h.2.first_le
    have hnext : InOrder (region.1 + region.2.length) (overwrite target region.1 region.2).length
        rest := (length_overwrite hfit).symm ▸ h.2
    rw [putRegions, List.foldl_cons, ← putRegions]
    rcases List.mem_cons.mp hmem with rfl | hrest
    · rw [slice_putRegions_of_beside hnext, slice_overwrite_inside hfit hinside]
      intro later hlater
      have hbounds := h.2.bounds hlater
      simp only at hbounds
      omega
    · exact ih hnext hrest

theorem slice_putRegions (h : InOrder first target.length regions)
    (hmem : (offset, bytes) ∈ regions) :
    slice (putRegions target regions) offset bytes.length = bytes := by
  have hinside := slice_putRegions_inside h hmem (Nat.le_of_eq (Nat.zero_add bytes.length))
  rwa [slice_self] at hinside

theorem getElem?_putRegions (h : InOrder first target.length regions)
    (hmem : (offset, bytes) ∈ regions) {i : Nat} (hi : i < bytes.length) :
    (putRegions target regions)[offset + i]? = bytes[i]? := by
  have hslice := congrArg (·[i]?) (slice_putRegions h hmem)
  simpa only [getElem?_slice, if_pos hi] using hslice

def Contiguous (first : Nat) : List (Nat × List α) → Prop
  | [] => True
  | region :: rest => region.1 = first ∧ Contiguous (first + region.2.length) rest

/-- Regions without gaps are what they hold, one after another. -/
theorem putRegions_contiguous {front rest : List α} (h : Contiguous front.length regions) :
    putRegions (front ++ rest) regions =
      front ++ regions.flatMap (·.2) ++ rest.drop (regions.flatMap (·.2)).length := by
  induction regions generalizing front rest with
  | nil => simp [putRegions]
  | cons region regions ih =>
    have hwrite : overwrite (front ++ rest) region.1 region.2 =
        (front ++ region.2) ++ rest.drop region.2.length := by
      rw [h.1, overwrite, List.take_left, List.drop_append]
      simp
    rw [putRegions, List.foldl_cons, ← putRegions, hwrite, ih (by rw [List.length_append]; exact h.2),
      List.flatMap_cons, List.length_append, List.drop_drop]
    simp only [List.append_assoc]

theorem slice_parts {middle whole : List α} (front rest : List α)
    (h : whole = front ++ middle ++ rest) (hfront : front.length = offset) (hmiddle : middle.length = length) :
    slice whole offset length = middle := by
  rw [h, slice, List.append_assoc, List.drop_left' hfront, List.take_left' hmiddle]

theorem slice_append_left {front : List α} (rest : List α) (h : offset + length ≤ front.length) :
    slice (front ++ rest) offset length = slice front offset length := by
  rw [slice, slice, List.drop_append_of_le_length (by omega), List.take_append_of_le_length]
  rw [List.length_drop]
  omega

end

end DragonOS.Lib
