import Mathlib.Tactic.Common

/-!
# Programs and their surroundings

A dialogue performs one action after the other, goes on with the replies, and returns a value
in the end. What replies is a relation on states: it may have several replies to an action,
and it may change by itself. `Ends` speaks of all runs of a dialogue in its surroundings.
-/

namespace DragonOS.Lib

inductive Dialogue (Act : Type) (Reply : Act → Type) (α : Type) : Type
  | done (value : α)
  | ask (act : Act) (next : Reply act → Dialogue Act Reply α)

namespace Dialogue

variable {Act : Type} {Reply : Act → Type} {α β σ : Type}

protected def bind :
    Dialogue Act Reply α → (α → Dialogue Act Reply β) → Dialogue Act Reply β
  | done value, next => next value
  | ask act rest, next => ask act fun reply => (rest reply).bind next

instance : Monad (Dialogue Act Reply) where
  pure := done
  bind := Dialogue.bind

def request (act : Act) : Dialogue Act Reply (Reply act) := ask act done

/-- At most so many rounds, until one of them has a value. -/
def attempts (round : Dialogue Act Reply (Option α)) : Nat → Dialogue Act Reply (Option α)
  | 0 => done none
  | left + 1 => do
    match ← round with
    | some value => pure (some value)
    | none => attempts round left

/-- The replies that a state may give, each with the state that it leaves. -/
abbrev Surroundings (σ Act : Type) (Reply : Act → Type) : Type :=
  σ → (act : Act) → Reply act → σ → Prop

/-- Every run gets a reply to each of its actions and ends with a value and a state that
are as they should be. -/
def Ends (answers : Surroundings σ Act Reply) (goal : α → σ → Prop) :
    Dialogue Act Reply α → σ → Prop
  | done value, s => goal value s
  | ask act next, s =>
    (∃ reply t, answers s act reply t) ∧
      ∀ reply t, answers s act reply t → (next reply).Ends answers goal t

/-- Some run ends with that value and in that state. -/
def MayEnd (answers : Surroundings σ Act Reply) (value : α) (last : σ) :
    Dialogue Act Reply α → σ → Prop
  | done found, s => found = value ∧ s = last
  | ask act next, s =>
    ∃ reply t, answers s act reply t ∧ (next reply).MayEnd answers value last t

section
variable {answers : Surroundings σ Act Reply} {goal goal' : α → σ → Prop}
  {dialogue : Dialogue Act Reply α} {s : σ}

theorem Ends.mono (h : dialogue.Ends answers goal s) (himp : ∀ value t, goal value t → goal' value t) :
    dialogue.Ends answers goal' s := by
  induction dialogue generalizing s with
  | done value => exact himp value s h
  | ask act next ih => exact ⟨h.1, fun reply t ht => ih reply (h.2 reply t ht)⟩

theorem Ends.and (h : dialogue.Ends answers goal s) (h' : dialogue.Ends answers goal' s) :
    dialogue.Ends answers (fun value t => goal value t ∧ goal' value t) s := by
  induction dialogue generalizing s with
  | done value => exact ⟨h, h'⟩
  | ask act next ih =>
    exact ⟨h.1, fun reply t ht => ih reply (h.2 reply t ht) (h'.2 reply t ht)⟩

/-- What a run ends with is something that it may end with. -/
theorem Ends.mayEnd (h : dialogue.Ends answers goal s) :
    dialogue.Ends answers (fun value t => goal value t ∧ dialogue.MayEnd answers value t s) s := by
  induction dialogue generalizing s with
  | done value => exact ⟨h, rfl, rfl⟩
  | ask act next ih =>
    refine ⟨h.1, fun reply t ht => (ih reply (h.2 reply t ht)).mono fun value last hlast => ?_⟩
    exact ⟨hlast.1, reply, t, ht, hlast.2⟩

theorem Ends.bind {middle : α → σ → Prop} {next : α → Dialogue Act Reply β}
    {goal : β → σ → Prop} (h : dialogue.Ends answers middle s)
    (hnext : ∀ value t, middle value t → (next value).Ends answers goal t) :
    (dialogue >>= next).Ends answers goal s := by
  induction dialogue generalizing s with
  | done value => exact hnext value s h
  | ask act rest ih => exact ⟨h.1, fun reply t ht => ih reply (h.2 reply t ht)⟩

theorem ends_pure {value : α} (h : goal value s) :
    (pure value : Dialogue Act Reply α).Ends answers goal s := h

theorem ends_request {act : Act} {goal : Reply act → σ → Prop}
    (hsome : ∃ reply t, answers s act reply t)
    (hall : ∀ reply t, answers s act reply t → goal reply t) :
    (request act : Dialogue Act Reply (Reply act)).Ends answers goal s :=
  ⟨hsome, hall⟩

theorem ends_request_bind {act : Act} {next : Reply act → Dialogue Act Reply α}
    (hsome : ∃ reply t, answers s act reply t)
    (hall : ∀ reply t, answers s act reply t → (next reply).Ends answers goal t) :
    (request act >>= next).Ends answers goal s := ⟨hsome, hall⟩

/-- The rounds keep an invariant that knows how many of them have gone by. -/
theorem ends_attempts {round : Dialogue Act Reply (Option α)} {goal : Option α → σ → Prop}
    (inv : Nat → σ → Prop) (left passed : Nat)
    (hround : ∀ before s, before < passed + left → inv before s → round.Ends answers
      (fun value t => (value = none ∧ inv (before + 1) t) ∨
        ∃ found, value = some found ∧ goal (some found) t) s)
    (hover : ∀ s, inv (passed + left) s → goal none s) (hinv : inv passed s) :
    (attempts round left).Ends answers goal s := by
  induction left generalizing passed s with
  | zero => exact hover s hinv
  | succ left ih =>
    have hcount : passed + 1 + left = passed + (left + 1) := by omega
    refine (hround passed s (by omega) hinv).bind fun value t ht => ?_
    rcases ht with ⟨rfl, hinv⟩ | ⟨found, rfl, hgoal⟩
    · refine ih (passed + 1) (fun before u hbefore => hround before u ?_) (fun u hu => hover u ?_) hinv
      · rwa [← hcount]
      · rwa [← hcount]
    · exact hgoal

/-- What is achieved whatever the replies are is achieved where some of them never come. -/
theorem Ends.restrict {τ : Type} {narrower : Surroundings τ Act Reply} {view : τ → σ} {t : τ}
    (hsome : ∀ t act, ∃ reply after, narrower t act reply after)
    (hview : ∀ t act reply after, narrower t act reply after →
      answers (view t) act reply (view after))
    (h : dialogue.Ends answers goal (view t)) :
    dialogue.Ends narrower (fun value after => goal value (view after)) t := by
  induction dialogue generalizing t with
  | done value => exact h
  | ask act next ih =>
    exact ⟨hsome t act, fun reply after ht => ih reply (h.2 reply _ (hview _ _ _ _ ht))⟩

end

end Dialogue

end DragonOS.Lib
