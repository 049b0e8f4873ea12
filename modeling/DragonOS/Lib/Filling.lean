import DragonOS.Lib.Buffer
import DragonOS.Lib.Outcome

/-!
# Filling arrays in order

Two nested loops that store at `row * columns + column` go through an array from its front
to its end. Such a loop returns what its reads return, one after another: it is a `mapM`
over the places (`foldlM_range_nested`, `foldlM_range_fill`).
-/

namespace DragonOS.Lib

section
variable {ε σ α β : Type}

theorem foldlM_congr_mem {first second : σ → α → Except ε σ} {items : List α} {start : σ}
    (h : ∀ item ∈ items, ∀ state, first state item = second state item) :
    items.foldlM first start = items.foldlM second start := by
  induction items generalizing start with
  | nil => rfl
  | cons item rest ih =>
    obtain ⟨hitem, hrest⟩ := List.forall_mem_cons.mp h
    rw [List.foldlM_cons, List.foldlM_cons, hitem]
    congr 1
    funext state
    exact ih hrest

theorem mapM_congr_mem {first second : α → Except ε β} {items : List α}
    (h : ∀ item ∈ items, first item = second item) : items.mapM first = items.mapM second := by
  induction items with
  | nil => rfl
  | cons item rest ih =>
    obtain ⟨hitem, hrest⟩ := List.forall_mem_cons.mp h
    rw [List.mapM_cons, List.mapM_cons, hitem, ih hrest]

-- ---------------------------------------------------------------------------
-- Places
-- ---------------------------------------------------------------------------

section
variable {row column rows columns : Nat}

theorem place_lt (hrow : row < rows) (hcolumn : column < columns) :
    row * columns + column < rows * columns := by
  have hrows : row * columns + columns ≤ rows * columns := by
    rw [← Nat.succ_mul]
    exact Nat.mul_le_mul_right columns hrow
  omega

theorem place_div (h : column < columns) : (row * columns + column) / columns = row := by
  rw [Nat.mul_comm, Nat.mul_add_div (Nat.zero_lt_of_lt h), Nat.div_eq_of_lt h, Nat.add_zero]

theorem place_mod (h : column < columns) : (row * columns + column) % columns = column := by
  rw [Nat.mul_comm, Nat.mul_add_mod, Nat.mod_eq_of_lt h]

end

-- ---------------------------------------------------------------------------
-- Loops
-- ---------------------------------------------------------------------------

/-- Two nested loops are one loop over the places. -/
theorem foldlM_range_nested (step : σ → Nat → Nat → Except ε σ) (rows columns : Nat) (start : σ) :
    (List.range rows).foldlM
        (fun state row => (List.range columns).foldlM (fun state column => step state row column)
          state) start =
      (List.range (rows * columns)).foldlM
        (fun state place => step state (place / columns) (place % columns)) start := by
  induction rows with
  | zero => rw [Nat.zero_mul, List.range_zero, List.foldlM_nil, List.foldlM_nil]
  | succ rows ih =>
    rw [foldlM_range_succ, ih, Nat.succ_mul, List.range_add, List.foldlM_append]
    congr 1
    funext state
    rw [List.foldlM_map]
    refine foldlM_congr_mem fun column hcolumn state => ?_
    have hlt := List.mem_range.mp hcolumn
    rw [place_div hlt, place_mod hlt]

theorem mapM_range_succ (read : Nat → Except ε β) (count : Nat) :
    (List.range (count + 1)).mapM read =
      (List.range count).mapM read >>= fun values =>
        read count >>= fun value => .ok (values ++ [value]) := by
  rw [List.range_succ, List.mapM_append]
  congr 1
  funext values
  rw [List.mapM_cons, List.mapM_nil]
  cases read count <;> rfl

theorem mapM_range_ok {read : Nat → Except ε β} {count : Nat} {values : List β} :
    (List.range count).mapM read = .ok values ↔
      values.length = count ∧ ∀ i value, values[i]? = some value → read i = .ok value := by
  induction count generalizing values with
  | zero =>
    rw [List.range_zero, List.mapM_nil, pure_ok, List.length_eq_zero_iff]
    exact ⟨fun h => ⟨h.symm, by rintro i value hvalue; simp [← h] at hvalue⟩, fun h => h.1.symm⟩
  | succ count ih =>
    rw [mapM_range_succ, bind_ok]
    constructor
    · rintro ⟨front, hfront, h⟩
      obtain ⟨last, hlast, h⟩ := bind_ok.mp h
      obtain rfl := Except.ok.inj h
      obtain ⟨hlength, hread⟩ := ih.mp hfront
      refine ⟨by rw [List.length_append, hlength, List.length_singleton], fun i value hvalue => ?_⟩
      rw [List.getElem?_append] at hvalue
      split at hvalue
      next => exact hread i value hvalue
      next hi =>
        obtain ⟨hplace, hvalue⟩ := List.getElem?_eq_some_iff.mp hvalue
        rw [List.length_singleton] at hplace
        obtain rfl : i = count := by omega
        rw [List.getElem_singleton] at hvalue
        rw [hlast, hvalue]
    · rintro ⟨hlength, hread⟩
      obtain ⟨front, last, rfl⟩ : ∃ front last, values = front ++ [last] :=
        ⟨_, _, (List.dropLast_concat_getLast (List.ne_nil_of_length_eq_add_one hlength)).symm⟩
      rw [List.length_append, List.length_singleton, Nat.add_right_cancel_iff] at hlength
      refine ⟨front, ih.mpr ⟨hlength, fun i value hvalue => hread i value ?_⟩, ?_⟩
      · rw [List.getElem?_append_left (List.getElem?_eq_some_iff.mp hvalue).1, hvalue]
      · rw [hread count last (by rw [← hlength, List.getElem?_concat_length]), ok_bind]

theorem mapM_range_eq {read : Nat → Except ε β} {value : Nat → β} {count : Nat}
    (h : ∀ i < count, read i = .ok (value i)) :
    (List.range count).mapM read = .ok ((List.range count).map value) := by
  refine mapM_range_ok.mpr ⟨by simp, fun i found hfound => ?_⟩
  obtain ⟨hi, rfl⟩ := List.getElem?_eq_some_iff.mp hfound
  rw [List.length_map, List.length_range] at hi
  rw [h i hi, List.getElem_map, List.getElem_range]

theorem foldlM_range_fill {step : σ → Nat → Except ε σ} {read : Nat → Except ε β} {count : Nat}
    (stateOf : List β → σ)
    (hstep : ∀ values : List β, values.length < count →
      step (stateOf values) values.length =
        read values.length >>= fun value => .ok (stateOf (values ++ [value]))) :
    (List.range count).foldlM step (stateOf []) =
      (List.range count).mapM read >>= fun values => .ok (stateOf values) := by
  induction count with
  | zero => rfl
  | succ count ih =>
    rw [foldlM_range_succ, mapM_range_succ, ih fun values h => hstep values (Nat.lt_succ_of_lt h)]
    cases hvalues : (List.range count).mapM read with
    | error exception => rfl
    | ok values =>
      obtain ⟨hlength, -⟩ := mapM_range_ok.mp hvalues
      have hlast := hstep values (hlength ▸ Nat.lt_succ_self _)
      rw [hlength] at hlast
      rw [ok_bind, ok_bind, ok_bind, hlast]
      cases read count <;> rfl

theorem map_getD_range {array : List α} {filler : α} {origin : Nat → Nat} (h : array.length = count)
    (horigin : ∀ i < count, origin i = i) :
    (List.range count).map (fun i => array.getD (origin i) filler) = array := by
  refine List.ext_getElem (by simp [h]) fun i hi hlt => ?_
  rw [List.getElem_map, List.getElem_range, horigin i (h ▸ hlt), List.getD_eq_getElem?_getD,
    List.getElem?_eq_getElem hlt, Option.getD_some]

theorem overwrite_next (filler value : α) {values : List α} (h : values.length < count) :
    overwrite (fillTo filler count values) values.length [value] =
      fillTo filler count (values ++ [value]) := by
  obtain ⟨rest, rfl⟩ := Nat.exists_eq_add_of_lt h
  have hlength : (values ++ [value]).length = values.length + 1 := List.length_append
  rw [fillTo_of_le filler h.le, fillTo_of_le filler (by omega), hlength, overwrite, List.take_left,
    List.length_singleton, List.drop_append, List.drop_of_length_le (Nat.le_succ _),
    List.nil_append, List.drop_replicate]
  congr 2
  omega

end

end DragonOS.Lib
