import HilBridge.Connection.Resolver
import Mathlib.Logic.Function.Iterate

/-!
# `HilBridge.Proofs.Connection.Worker` — what can become of a resolver

Two things happen to a resolver: what is due to it and, where the bridge is told to shut down, that it notices
so. `Resolver.Reaches` is any number of these, in any order; so it covers every moment at which a wait may begin
or end, and every moment at which a shutdown may come.

A resolver that has ended is changed by neither (`Reaches.eq_of_ended`), which makes its last state final. Left
to itself it does end (`isRunning_runToEnd`).
-/

namespace HilBridge

namespace Resolver

variable {names : NameService} {down : Bool} {r r' r'' : Resolver}

/-! ## A resolver that has ended -/

theorem step_of_ended (h : r.isRunning = false) : r.step names = r := by
  obtain ⟨policy, phase, lookups⟩ := r
  cases phase with
  | settled state => rfl
  | _ => cases h

theorem cancel_of_ended (h : r.isRunning = false) : r.cancel = r := by
  rw [cancel, h, if_neg Bool.false_ne_true]

@[simp]
theorem isRunning_cancel (r : Resolver) : r.cancel.isRunning = false := by
  unfold cancel
  split
  · rfl
  · exact Bool.eq_false_iff.mpr ‹_›

@[simp]
theorem lookups_cancel (r : Resolver) : r.cancel.lookups = r.lookups := by
  unfold cancel
  split <;> rfl

theorem state_cancel (h : r.isRunning = true) : r.cancel.state = .cancelled := by
  rw [cancel, if_pos h]
  rfl

/-- Nothing is due to a resolver exactly if it has ended. -/
theorem due?_eq_none_iff : r.due? = none ↔ r.isRunning = false := by
  obtain ⟨policy, phase, lookups⟩ := r
  cases phase <;> simp [due?, isRunning]

/-- While a resolver runs, the state that it publishes is not final. -/
theorem isRunning_of_isSettled (h : r.state.isSettled = true) : r.isRunning = false := by
  obtain ⟨policy, phase, lookups⟩ := r
  cases phase with
  | settled state => rfl
  | _ => cases h

/-- The state in which a resolver has ended is a final one. -/
def EndsSettled (r : Resolver) : Prop :=
  ∀ state, r.phase = .settled state → state.isSettled = true

theorem endsSettled_spawn (policy : RetryPolicy) (now lookups : Nat) :
    (spawn policy now lookups).EndsSettled :=
  nofun

theorem EndsSettled.isSettled (h : r.EndsSettled) (hended : r.isRunning = false) :
    r.state.isSettled = true := by
  obtain ⟨policy, phase, lookups⟩ := r
  cases phase with
  | settled state => exact h state rfl
  | _ => cases hended

theorem EndsSettled.step (h : r.EndsSettled) (names : NameService) : (r.step names).EndsSettled := by
  intro state hstate
  obtain ⟨policy, phase, lookups⟩ := r
  cases phase with
  | spawned since => cases hstate
  | looking attempt backoff due answer =>
    simp only [Resolver.step, conclude] at hstate
    split at hstate
    · cases hstate
      rfl
    · split at hstate
      · cases hstate
      · cases hstate
        rfl
  | pausing attempt backoff due => cases hstate
  | settled state' => exact h state hstate

theorem EndsSettled.cancel (h : r.EndsSettled) : r.cancel.EndsSettled := by
  intro state hstate
  by_cases hrun : r.isRunning = true
  · rw [Resolver.cancel, if_pos hrun] at hstate
    cases hstate
    rfl
  · rw [cancel_of_ended (Bool.eq_false_iff.mpr hrun)] at hstate
    exact h state hstate

/-! ## As time passes -/

/-- What a resolver can come to while time passes, where a shutdown may have been asked for or not. -/
inductive Reaches (names : NameService) (down : Bool) (r : Resolver) : Resolver → Prop
  | refl : Reaches names down r r
  /-- What is due to it happens. -/
  | step {r' : Resolver} : Reaches names down r r' → Reaches names down r (r'.step names)
  /-- It notices a shutdown. -/
  | cancel {r' : Resolver} (asked : down = true) : Reaches names down r r' → Reaches names down r r'.cancel

theorem Reaches.trans (h : r.Reaches names down r') (h' : r'.Reaches names down r'') :
    r.Reaches names down r'' := by
  induction h' with
  | refl => exact h
  | step _ ih => exact ih.step
  | cancel asked _ ih => exact ih.cancel asked

theorem Reaches.mono {down' : Bool} (h : r.Reaches names down r') (hdown : down = true → down' = true) :
    r.Reaches names down' r' := by
  induction h with
  | refl => exact .refl
  | step _ ih => exact ih.step
  | cancel asked _ ih => exact ih.cancel (hdown asked)

/-- In the place of a resolver is the same one, and something may have come of it. -/
def Works (names : NameService) (down : Bool) : Option Resolver → Option Resolver → Prop :=
  Option.Rel (Reaches names down)

theorem Works.refl (r? : Option Resolver) : Works names down r? r? := by
  cases r? with
  | none => exact .none
  | some r => exact .some .refl

theorem Works.trans {r? r'? r''? : Option Resolver} (h : Works names down r? r'?)
    (h' : Works names down r'? r''?) : Works names down r? r''? := by
  cases h with
  | none => exact h'
  | some hreaches =>
    cases h' with
    | some hreaches' => exact .some (hreaches.trans hreaches')

theorem Works.mono {down' : Bool} {r? r'? : Option Resolver} (h : Works names down r? r'?)
    (hdown : down = true → down' = true) : Works names down' r? r'? := by
  cases h with
  | none => exact .none
  | some hreaches => exact .some (hreaches.mono hdown)

/-- A resolver that has ended stays as it is. -/
theorem Reaches.eq_of_ended (h : r.Reaches names down r') (hended : r.isRunning = false) : r' = r := by
  induction h with
  | refl => rfl
  | step _ ih => rw [ih, step_of_ended hended]
  | cancel _ _ ih => rw [ih, cancel_of_ended hended]

theorem Reaches.endsSettled (h : r.Reaches names down r') (hr : r.EndsSettled) : r'.EndsSettled := by
  induction h with
  | refl => exact hr
  | step _ ih => exact ih.step names
  | cancel _ _ ih => exact ih.cancel

/-- Without a shutdown a resolver does nothing but what is due to it. -/
theorem Reaches.exists_iterate (h : r.Reaches names false r') : ∃ n, r' = (·.step names)^[n] r := by
  induction h with
  | refl => exact ⟨0, rfl⟩
  | step _ ih =>
    obtain ⟨n, hn⟩ := ih
    refine ⟨n + 1, ?_⟩
    rw [Function.iterate_succ_apply', ← hn]
  | cancel asked _ _ => cases asked

theorem reaches_iterate (n : Nat) : r.Reaches names down ((·.step names)^[n] r) := by
  induction n with
  | zero => exact .refl
  | succ n ih =>
    rw [Function.iterate_succ_apply']
    exact ih.step

theorem reaches_runBefore (limit : Nat) (r : Resolver) : r.Reaches names down (runBefore names limit r) := by
  fun_induction runBefore names limit r with
  | case1 r due hdue hlt ih => exact (Reaches.refl.step).trans ih
  | case2 r due hdue hlt => exact .refl
  | case3 r hdue => exact .refl

theorem reaches_runToEnd (now : Nat) (r : Resolver) : r.Reaches names down (runToEnd names now r).1 := by
  fun_induction runToEnd names now r with
  | case1 now r due hdue ih => exact (Reaches.refl.step).trans ih
  | case2 now r hdue => exact .refl

/-- Left to itself a resolver ends. -/
theorem isRunning_runToEnd (now : Nat) (r : Resolver) : (runToEnd names now r).1.isRunning = false := by
  fun_induction runToEnd names now r with
  | case1 now r due hdue ih => exact ih
  | case2 now r hdue => exact due?_eq_none_iff.mp hdue

end Resolver

end HilBridge
