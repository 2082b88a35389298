import HilBridge.Connection.Lifecycle
import HilBridge.Proofs.Connection.Worker
import HilBridge.Proofs.Lockstep.Sighting

/-!
# `HilBridge.Proofs.Connection.Passing` — a connection while time passes

While time passes nobody touches the link, and of the resolver only comes what can come of it by itself
(`Connection.Passes`). Every operation that waits is made of such passages, so it is one too.

A wait for the resolver lasts until the resolver has ended (`isResolving_waitSettled`).
-/

namespace HilBridge

namespace Connection

variable {L α : Type}

/-- What time may do to a connection. -/
structure Passes (c c' : Connection L α) : Prop where
  link : c'.link = c.link
  names : c'.names = c.names
  epoch : c'.epoch = c.epoch
  sendFailures : c'.sendFailures = c.sendFailures
  openFailures : c'.openFailures = c.openFailures
  /-- A shutdown is for good. -/
  isShutdown : c.isShutdown = true → c'.isShutdown = true
  resolver : Resolver.Works c.names c'.isShutdown c.resolver c'.resolver
  /-- After a shutdown no lookup is made. -/
  lookupCount : c.isShutdown = true → c'.lookupCount = c.lookupCount

section
variable {c c' c'' : Connection L α}

/-- Only the resolver works. -/
theorem Passes.work {f : Resolver → Resolver} {channel : CommandChannel α} {down : Bool} {now : Nat}
    (hdown : c.isShutdown = true → down = true) (hf : ∀ r, Resolver.Reaches c.names down r (f r))
    (hlookups : c.isShutdown = true → ∀ r, (f r).lookups = r.lookups) :
    c.Passes { c with channel, isShutdown := down, resolver := c.resolver.map f, now } where
  link := rfl
  names := rfl
  epoch := rfl
  sendFailures := rfl
  openFailures := rfl
  isShutdown := hdown
  resolver := by
    cases c.resolver with
    | none => exact .none
    | some r => exact .some (hf r)
  lookupCount hs := by
    unfold Connection.lookupCount
    cases c.resolver with
    | none => rfl
    | some r => exact hlookups hs r

theorem Passes.refl (c : Connection L α) : c.Passes c where
  link := rfl
  names := rfl
  epoch := rfl
  sendFailures := rfl
  openFailures := rfl
  isShutdown := id
  resolver := .refl _
  lookupCount _ := rfl

theorem Passes.trans (h : c.Passes c') (h' : c'.Passes c'') : c.Passes c'' where
  link := h'.link.trans h.link
  names := h'.names.trans h.names
  epoch := h'.epoch.trans h.epoch
  sendFailures := h'.sendFailures.trans h.sendFailures
  openFailures := h'.openFailures.trans h.openFailures
  isShutdown hs := h'.isShutdown (h.isShutdown hs)
  resolver := by
    have hfirst := h.resolver.mono h'.isShutdown
    have hsecond := h'.resolver
    rw [h.names] at hsecond
    exact hfirst.trans hsecond
  lookupCount hs := (h'.lookupCount (h.isShutdown hs)).trans (h.lookupCount hs)

/-- No resolver begins to run, and one that has ended stays as it is. -/
theorem Passes.resolver_eq (h : c.Passes c') (hended : c.isResolving = false) : c'.resolver = c.resolver := by
  have hresolver := h.resolver
  unfold isResolving at hended
  revert hresolver hended
  generalize c.resolver = r, c'.resolver = r'
  intro hended hresolver
  cases hresolver with
  | none => rfl
  | some hreaches => rw [hreaches.eq_of_ended hended]

theorem Passes.isResolving_eq_false (h : c.Passes c') (hended : c.isResolving = false) :
    c'.isResolving = false := by
  rw [isResolving, h.resolver_eq hended]
  exact hended

/-- A resolver stays, and something may have come of it. -/
theorem Passes.resolver_of_some (h : c.Passes c') {r : Resolver} (hr : c.resolver = some r) :
    ∃ r', c'.resolver = some r' ∧ r.Reaches c.names c'.isShutdown r' := by
  have hresolver := h.resolver
  rw [hr] at hresolver
  revert hresolver
  generalize c'.resolver = r'
  intro hresolver
  cases hresolver with
  | some hreaches => exact ⟨_, rfl, hreaches⟩

end

/-! ## Passages -/

theorem passes_cancel (c : Connection L α) : c.Passes c.cancel := by
  have hstays := Passes.refl c
  exact { hstays with
    isShutdown := fun _ => rfl
    resolver := .refl c.resolver }

theorem passes_passUntil (c : Connection L α) (moment : Nat) : c.Passes (c.passUntil moment) := by
  refine .work id (fun r => ?_) fun hs r => ?_
  · by_cases hs : c.isShutdown = true
    · rw [if_pos hs]
      exact Resolver.Reaches.refl.cancel hs
    · rw [if_neg hs]
      exact Resolver.reaches_runBefore _ r
  · rw [if_pos hs]
    exact r.lookups_cancel

theorem passes_passUntilBurst (c : Connection L α) (armed : Option Nat) (moment : Nat) :
    c.Passes (c.passUntilBurst armed moment) := by
  refine .work id (fun r => ?_) fun hs r => ?_
  · by_cases hs : c.isShutdown = true
    · rw [if_pos hs]
      exact Resolver.Reaches.refl.cancel hs
    · rw [if_neg hs]
      exact Resolver.reaches_runBefore _ r
  · rw [if_pos hs]
    exact r.lookups_cancel

theorem passes_join (c : Connection L α) : c.Passes c.join := by
  unfold join
  split
  case h_1 hnone => exact .refl c
  case h_2 r hresolver =>
    have hmap : ∀ f : Resolver → Resolver, some (f r) = c.resolver.map f := by
      intro f
      rw [hresolver]
      rfl
    split
    case isTrue hs =>
      rw [hmap Resolver.cancel]
      exact .work id (fun r => Resolver.Reaches.refl.cancel hs) fun _ r => r.lookups_cancel
    case isFalse hs =>
      dsimp only
      rw [hmap fun r => (r.runToEnd c.names c.now).1]
      exact .work id (fun r => Resolver.reaches_runToEnd c.now r) fun hs' => absurd hs' hs

@[simp]
theorem isShutdown_join (c : Connection L α) : c.join.isShutdown = c.isShutdown := by
  unfold join
  split
  · rfl
  · split <;> rfl

/-- Whoever has waited for the resolver finds that it has ended. -/
theorem isResolving_join (c : Connection L α) : c.join.isResolving = false := by
  unfold join
  split
  case h_1 hnone => rw [isResolving, hnone, Option.any_none]
  case h_2 r _ =>
    split
    · exact r.isRunning_cancel
    · exact Resolver.isRunning_runToEnd c.now r

variable [AutopilotLink L α]

theorem passes_happen (c : Connection L α) (events : List (WaitEvent α)) : c.Passes (c.happen events) := by
  refine .work (fun hs => ?_) (fun r => ?_) fun _ r => ?_
  · rw [WaitEvent.applyAll_eq, hs, Bool.true_or]
  · split
    case isTrue hdown => exact Resolver.Reaches.refl.cancel hdown
    case isFalse => exact .refl
  · split
    · exact r.lookups_cancel
    · rfl

theorem passes_advance (c : Connection L α) (ms : Nat) (bursts : List (Burst α)) :
    c.Passes (c.advance ms bursts) := by
  have hbursts : ∀ (bursts : List (Burst α)) (start : Nat) (armed : Option Nat) (c : Connection L α),
      c.Passes (bursts.foldl
        (fun c burst => (c.passUntilBurst armed (start + burst.time)).happen burst.events) c) := by
    intro bursts start armed
    induction bursts with
    | nil => exact .refl
    | cons burst rest ih =>
      intro c
      exact ((c.passes_passUntilBurst armed _).trans (passes_happen _ _)).trans (ih _)
  exact ((c.passes_passUntil c.now).trans (hbursts _ _ _ _)).trans (passes_passUntil _ _)

theorem passes_awaitResolver (start : Nat) (armed : Option Nat) (c : Connection L α)
    (bursts : List (Burst α)) : c.Passes (c.awaitResolver start armed bursts) := by
  induction bursts generalizing c with
  | nil => exact c.passes_join
  | cons burst rest ih =>
    have hnext := c.passes_passUntilBurst armed (start + burst.time)
    unfold awaitResolver
    dsimp only
    split
    · exact (hnext.trans (passes_happen _ burst.events)).trans (ih _)
    · split
      · exact c.passes_join
      · exact hnext.trans (passes_happen _ burst.events)

theorem passes_waitSettled (c : Connection L α) (bursts : List (Burst α)) :
    c.Passes (c.waitSettled bursts) := by
  unfold waitSettled
  split
  · exact (c.passes_passUntil c.now).trans (passes_awaitResolver _ _ _ bursts)
  · exact .refl c

theorem isResolving_awaitResolver (start : Nat) (armed : Option Nat) (c : Connection L α)
    (bursts : List (Burst α)) : (c.awaitResolver start armed bursts).isResolving = false := by
  induction bursts generalizing c with
  | nil => exact c.isResolving_join
  | cons burst rest ih =>
    unfold awaitResolver
    dsimp only
    split
    · exact ih _
    case isFalse hended =>
      split
      · exact c.isResolving_join
      · exact (passes_happen _ burst.events).isResolving_eq_false (Bool.eq_false_iff.mpr hended)

/-- A wait lasts until the resolver has ended, whatever happens meanwhile. -/
theorem isResolving_waitSettled (c : Connection L α) (bursts : List (Burst α)) :
    (c.waitSettled bursts).isResolving = false := by
  unfold waitSettled
  split
  · exact isResolving_awaitResolver _ _ _ bursts
  · exact Bool.eq_false_iff.mpr ‹_›

end Connection

end HilBridge
