import Mathlib.Logic.Relation

/-!
# Runs of a machine

A machine may have several ways to go on from a state: what is outside of it chooses.
`Eventually` says of all of its runs that they get somewhere, `Forever` that they stay
somewhere and do not stop.
-/

namespace DragonOS.Lib

section
variable {σ : Type} (step : σ → σ → Prop)

/-- Every run from the state gets to a `goal`, and none stops before it. -/
inductive Eventually (goal : σ → Prop) : σ → Prop
  | now {s : σ} : goal s → Eventually goal s
  | later {s : σ} : (∃ t, step s t) → (∀ t, step s t → Eventually goal t) → Eventually goal s

/-- Whatever a run gets to is `good`, and it goes on from there. -/
def Forever (good : σ → Prop) (s : σ) : Prop :=
  ∀ t, Relation.ReflTransGen step s t → good t ∧ ∃ u, step t u

variable {step} {goal good : σ → Prop} {s : σ}

theorem Eventually.trans {middle : σ → Prop} (h : Eventually step middle s)
    (hnext : ∀ t, middle t → Eventually step goal t) : Eventually step goal s := by
  induction h with
  | now hmiddle => exact hnext _ hmiddle
  | later hgo _ ih => exact .later hgo ih

theorem Eventually.mono {goal' : σ → Prop} (h : Eventually step goal s)
    (himp : ∀ t, goal t → goal' t) : Eventually step goal' s :=
  h.trans fun t ht => .now (himp t ht)

theorem Forever.mono {good' : σ → Prop} (h : Forever step good s) (himp : ∀ t, good t → good' t) :
    Forever step good' s := fun t ht => ⟨himp t (h t ht).1, (h t ht).2⟩

theorem Forever.of_invariant {inv : σ → Prop} (hgood : ∀ s, inv s → good s)
    (hgo : ∀ s, inv s → ∃ t, step s t) (hkeep : ∀ s t, inv s → step s t → inv t)
    (hinv : inv s) : Forever step good s := by
  intro t ht
  suffices inv t from ⟨hgood t this, hgo t this⟩
  induction ht with
  | refl => exact hinv
  | tail _ hstep ih => exact hkeep _ _ ih hstep

end

end DragonOS.Lib
