import DragonOS.Lib.Outcome

/-!
# Loops that may throw

A turn of a loop goes on with another state, or leaves the loop, or throws. The loop is
its completed turns and the turn that leaves it (`loop_ok_iff`). A measure that every
turn lowers bounds the turns (`Turns.count_le`), so the loop comes to an end
(`loop_ne_stuck`).
-/

namespace DragonOS.Lib

theorem exists_ok_iff {a : α} {P : α → Prop} :
    (∃ b, (Except.ok a : Except ε α) = .ok b ∧ P b) ↔ P a := by
  constructor
  · rintro ⟨b, h, hb⟩
    rwa [Except.ok.inj h]
  · exact fun h => ⟨a, rfl, h⟩

theorem exists_bind_ok_iff {x : Except ε α} {f : α → β} {P : β → Prop} :
    (∃ b, (x >>= fun a => .ok (f a)) = .ok b ∧ P b) ↔ ∃ a, x = .ok a ∧ P (f a) := by
  cases x with
  | error e =>
    refine iff_of_false ?_ ?_ <;>
      · rintro ⟨_, h, -⟩
        cases h
  | ok a => exact exists_ok_iff.trans (exists_ok_iff (P := fun a => P (f a))).symm

inductive Turn (σ : Type)
  | leave (state : σ)
  | again (state : σ)
  deriving DecidableEq, Repr

section
variable {σ ε : Type} (turn : σ → Except ε (Turn σ))

/-- `stuck` is what comes of a loop with more turns than `fuel`. -/
def loop (stuck : ε) : (fuel : Nat) → σ → Except ε σ
  | 0, _ => .error stuck
  | fuel + 1, state =>
    turn state >>= fun
      | .leave state => .ok state
      | .again state => loop stuck fuel state

/-- Turns that are completed, one after another. -/
inductive Turns : (count : Nat) → σ → σ → Prop
  | none (state : σ) : Turns 0 state state
  | more : turn state = .ok (.again next) → Turns count next after → Turns (count + 1) state after

variable {turn} {stuck : ε} {state next after : σ} {fuel count : Nat}

theorem loop_leave (h : turn state = .ok (.leave after)) :
    loop turn stuck (fuel + 1) state = .ok after := by
  rw [loop, h]
  rfl

theorem loop_again (h : turn state = .ok (.again next)) :
    loop turn stuck (fuel + 1) state = loop turn stuck fuel next := by
  rw [loop, h]
  rfl

theorem loop_ne_ok (h : ∀ result, turn state ≠ .ok result) :
    loop turn stuck fuel state ≠ .ok after := by
  intro hloop
  cases fuel with
  | zero => cases hloop
  | succ fuel =>
    obtain ⟨result, hturn, -⟩ := bind_ok.mp hloop
    exact h result hturn

theorem loop_ok_iff :
    loop turn stuck fuel state = .ok after ↔
      ∃ count last, count < fuel ∧ Turns turn count state last ∧ turn last = .ok (.leave after) := by
  induction fuel generalizing state with
  | zero => exact ⟨nofun, fun ⟨_, _, h, _⟩ => absurd h (Nat.not_lt_zero _)⟩
  | succ fuel ih =>
    constructor
    · intro h
      obtain ⟨found, hturn, h⟩ := bind_ok.mp h
      cases found with
      | leave left =>
        obtain rfl := Except.ok.inj h
        exact ⟨0, state, Nat.succ_pos fuel, .none state, hturn⟩
      | again next =>
        obtain ⟨count, last, hcount, hturns, hlast⟩ := ih.mp h
        exact ⟨count + 1, last, Nat.succ_lt_succ hcount, .more hturn hturns, hlast⟩
    · rintro ⟨count, last, hcount, hturns, hlast⟩
      cases hturns with
      | none => exact loop_leave hlast
      | more hturn hturns =>
        rw [loop_again hturn]
        exact ih.mpr ⟨_, last, Nat.lt_of_succ_lt_succ hcount, hturns, hlast⟩

section
variable (inv : σ → Prop) (measure : σ → Nat) {step : Nat}

theorem Turns.invariant (h : Turns turn count state after)
    (hturn : ∀ state next, inv state → turn state = .ok (.again next) → inv next)
    (hinv : inv state) : inv after := by
  induction h with
  | none state => exact hinv
  | more hgo _ ih => exact ih (hturn _ _ hinv hgo)

/-- Every completed turn lowers the measure by `step`. -/
theorem Turns.count_le (h : Turns turn count state after)
    (hturn : ∀ state next, inv state → turn state = .ok (.again next) →
      inv next ∧ measure next + step ≤ measure state) (hinv : inv state) :
    measure after + step * count ≤ measure state := by
  induction h with
  | none state => exact Nat.le_refl _
  | more hgo _ ih =>
    obtain ⟨hnext, hlower⟩ := hturn _ _ hinv hgo
    have hrest := ih hnext
    rw [Nat.mul_succ]
    omega

theorem loop_ne_stuck
    (hthrow : ∀ state, inv state → turn state ≠ .error stuck)
    (hturn : ∀ state next, inv state → turn state = .ok (.again next) →
      inv next ∧ measure next < measure state)
    (hinv : inv state) (hfuel : measure state < fuel) :
    loop turn stuck fuel state ≠ .error stuck := by
  induction fuel generalizing state with
  | zero => exact absurd hfuel (Nat.not_lt_zero _)
  | succ fuel ih =>
    have hfirst := hthrow state hinv
    cases hgo : turn state with
    | error exception =>
      rw [hgo] at hfirst
      rw [loop, hgo]
      exact fun h => hfirst (congrArg Except.error (Except.error.inj h))
    | ok found =>
      cases found with
      | leave left =>
        rw [loop_leave hgo]
        exact nofun
      | again next =>
        rw [loop_again hgo]
        obtain ⟨hnext, hlower⟩ := hturn state next hinv hgo
        exact ih hnext (by omega)

end

end

end DragonOS.Lib
