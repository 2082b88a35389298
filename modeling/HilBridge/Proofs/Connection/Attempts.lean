import HilBridge.Connection.ScriptedLink
import HilBridge.Proofs.Connection.Passing
import Mathlib.Algebra.Group.Nat.Defs
import Mathlib.Data.List.Basic
import Mathlib.Order.Nat

/-!
# `HilBridge.Proofs.Connection.Attempts` — which attempts a resolution makes, and when

A `Resolution` is what decides a resolver's course: its policy, the name service, the moment of its start and
the lookups made before. From these everything can be written down in advance: when an attempt begins, how
long the pause after it is, and what it ends in. What a resolver really does is read off its states, one step
after another (`Resolver.history`).

**Main statement.** `resolution_takes_its_course`: the two are the same, up to the first attempt that finds an
address or the last one allowed. Wherever in between a shutdown comes, the resolver ends without another
lookup, and what it has ended in stays and is what a wait for it returns.
-/

namespace HilBridge

/-! ## What a resolver does -/

/-- Something that a resolver does. -/
inductive ResolverAct where
  | published (state : ResolutionState)
  /-- The lookup with the given number is made of the name service. -/
  | lookedUp (index : Nat)
  | slept (ms : Nat)
  deriving Repr, DecidableEq

namespace Resolver

/-- What a resolver has done on the way from one state to the next. -/
def acts (before after : Resolver) : List ResolverAct :=
  (if after.state = before.state then [] else [.published after.state])
    ++ (if after.lookups = before.lookups then [] else [.lookedUp before.lookups])
    ++ match after.phase with
      | .pausing _ backoff _ => [.slept backoff]
      | _ => []

/-- Everything that a resolver does if it is left to itself, with the moments. -/
def history (names : NameService) (r : Resolver) : List (Nat × ResolverAct) :=
  match _h : r.due? with
  | some due => (acts r (r.step names)).map (due, ·) ++ history names (r.step names)
  | none => []
termination_by r.remaining
decreasing_by exact remaining_step names ‹_›

theorem history_of_due {names : NameService} {r : Resolver} {due : Nat} (h : r.due? = some due) :
    r.history names = (acts r (r.step names)).map (due, ·) ++ (r.step names).history names := by
  rw [history]
  split
  · rename_i due' hdue
    rw [h] at hdue
    cases hdue
    rfl
  · rename_i hdue
    rw [h] at hdue
    cases hdue

theorem history_of_ended {names : NameService} {r : Resolver} (h : r.isRunning = false) :
    r.history names = [] := by
  rw [history]
  split
  · rename_i due hdue
    rw [due?_eq_none_iff.mpr h] at hdue
    cases hdue
  · rfl

theorem runToEnd_of_due {names : NameService} {r : Resolver} {due : Nat} (h : r.due? = some due) (now : Nat) :
    r.runToEnd names now = (r.step names).runToEnd names (max now due) := by
  rw [runToEnd]
  split
  · rename_i due' hdue
    rw [h] at hdue
    cases hdue
    rfl
  · rename_i hdue
    rw [h] at hdue
    cases hdue

/--
What a resolver comes to if the bridge is told to shut down at a moment. It either notices that first or, where
the answer of an attempt has come at that same moment, takes the answer first.
-/
inductive CancelledAt (moment : Nat) (r : Resolver) : Resolver → Prop
  | noticed : CancelledAt moment r r.cancel
  | answered {attempt backoff : Nat} {answer : Option (List Endpoint)}
      (phase : r.phase = .looking attempt backoff moment answer) :
    CancelledAt moment r (r.conclude attempt backoff moment answer).cancel

/-- No lookup follows a shutdown, and the resolver has ended: as cancelled, or with what it was about to do. -/
theorem CancelledAt.ends {moment : Nat} {r r' : Resolver} (h : r.CancelledAt moment r')
    (hrun : r.isRunning = true) (names : NameService) :
    r'.isRunning = false ∧ r'.lookups = r.lookups
      ∧ (r'.state = .cancelled
        ∨ r.due? = some moment ∧ r' = r.step names ∧ r'.state.isSettled = true) := by
  cases h with
  | noticed => exact ⟨r.isRunning_cancel, r.lookups_cancel, .inl (state_cancel hrun)⟩
  | @answered attempt backoff answer phase =>
    have hlookups : (r.conclude attempt backoff moment answer).lookups = r.lookups := by
      unfold conclude
      split
      · rfl
      · split <;> rfl
    have hstep : r.step names = r.conclude attempt backoff moment answer := by
      rw [step, phase]
    have hdue : r.due? = some moment := by
      rw [due?, phase]
    refine ⟨isRunning_cancel _, (lookups_cancel _).trans hlookups, ?_⟩
    -- the answer settles the resolution, unless another attempt would follow it
    by_cases hgoes : (r.conclude attempt backoff moment answer).isRunning = true
    · exact .inl (state_cancel hgoes)
    · rw [Bool.not_eq_true] at hgoes
      have hends : r.EndsSettled := by
        intro state hstate
        rw [phase] at hstate
        cases hstate
      have hsettled := hends.step names
      rw [hstep] at hsettled
      rw [cancel_of_ended hgoes, hstep]
      exact .inr ⟨hdue, rfl, hsettled.isSettled hgoes⟩

end Resolver

/-! ## What a resolution comes to -/

/-- The address that is chosen of those found: the first of version four or, where none is, the first of all. -/
inductive IsChoice : List Endpoint → Endpoint → Prop where
  | firstV4 {front rest : List Endpoint} {remote : Endpoint} {octets : List Nat} (hremote : remote.address = .v4 octets)
    (hfront : ∀ e ∈ front, ∀ octets, e.address ≠ .v4 octets) : IsChoice (front ++ remote :: rest) remote
  | first {rest : List Endpoint} {remote : Endpoint}
    (hnone : ∀ e ∈ remote :: rest, ∀ octets, e.address ≠ .v4 octets) : IsChoice (remote :: rest) remote

theorem IpAddress.isV4_iff {address : IpAddress} : address.isV4 = true ↔ ∃ octets, address = .v4 octets := by
  cases address with
  | v4 octets => exact ⟨fun _ => ⟨octets, rfl⟩, fun _ => rfl⟩
  | v6 groups zone => exact ⟨nofun, nofun⟩

/-- What a resolver picks is that choice, and there is one unless nothing was found. -/
theorem pickAddress_spec (found : List Endpoint) :
    (found = [] ∧ pickAddress found = none) ∨ ∃ remote, pickAddress found = some remote ∧ IsChoice found remote := by
  have hother {e : Endpoint} (h : e.address.isV4 = false) (octets : List Nat) : e.address ≠ .v4 octets := by
    intro hv4
    rw [hv4] at h
    cases h
  unfold pickAddress
  cases hv4 : found.find? (·.address.isV4) with
  | some remote =>
    obtain ⟨hremote, front, rest, rfl, hfront⟩ := List.find?_eq_some_iff_append.mp hv4
    obtain ⟨octets, hoctets⟩ := IpAddress.isV4_iff.mp hremote
    refine .inr ⟨remote, rfl, .firstV4 hoctets fun e he => hother ?_⟩
    simpa using hfront e he
  | none =>
    have hnone := List.find?_eq_none.mp hv4
    cases found with
    | nil => exact .inl ⟨rfl, rfl⟩
    | cons remote rest =>
      exact .inr ⟨remote, rfl, .first fun e he => hother (Bool.eq_false_iff.mpr (hnone e he))⟩

theorem pickAddress_eq_none_iff {addresses : List Endpoint} : pickAddress addresses = none ↔ addresses = [] := by
  rcases pickAddress_spec addresses with ⟨rfl, hnone⟩ | ⟨remote, hremote, hchoice⟩
  · exact ⟨fun _ => rfl, fun _ => hnone⟩
  · refine ⟨fun hnone => ?_, fun hnil => ?_⟩
    · rw [hremote] at hnone
      cases hnone
    · subst hnil
      cases hremote

/-- What decides the course of a resolver that starts. -/
structure Resolution where
  policy : RetryPolicy
  names : NameService
  /-- The moment at which it starts. -/
  since : Nat
  /-- Lookups that were made of the name service before. -/
  base : Nat

namespace Resolution

variable (t : Resolution)

/-- The resolver that starts. -/
def start : Resolver :=
  .spawn t.policy t.since t.base

/-- Attempts that are made at most. -/
def limit : Nat :=
  max t.policy.maxAttempts 1

/-! Attempts are counted from zero here; what a resolver publishes counts them from one. -/

/-- What comes back from an attempt. -/
def answer (i : Nat) : LookupAnswer :=
  t.names (t.base + i)

/-- Whether an attempt finds no address. -/
def Fails (i : Nat) : Prop :=
  (t.answer i).addresses.getD [] = []

/-- The pause after an attempt: the first one doubled as often as attempts came before, up to the limit. -/
def pause (i : Nat) : Nat :=
  min (t.policy.initialBackoffMs * 2 ^ i) t.policy.maxBackoffMs

/-- The moment at which an attempt begins. -/
def begins : Nat → Nat
  | 0 => t.since
  | i + 1 => begins i + (t.answer i).delayMs + t.pause i

/-- The moment at which the answer of an attempt comes. -/
def ends (i : Nat) : Nat :=
  t.begins i + (t.answer i).delayMs

/-- What a resolution ends in after an attempt: the first address of version four that was found, or else the first. -/
def outcome (i : Nat) : ResolutionState :=
  let found := (t.answer i).addresses.getD []
  match (found.find? (·.address.isV4)).or found.head? with
  | some remote => .resolved remote
  | none => .unavailable t.limit

/-- How an attempt begins. -/
def opening (i : Nat) : List (Nat × ResolverAct) :=
  [(t.begins i, .published (.resolving (i + 1))), (t.begins i, .lookedUp (t.base + i))]

/-- An attempt that another one follows. -/
def failedAttempt (i : Nat) : List (Nat × ResolverAct) :=
  t.opening i ++ [(t.ends i, .slept (t.pause i))]

/-- An attempt with which the resolution ends. -/
def lastAttempt (i : Nat) : List (Nat × ResolverAct) :=
  t.opening i ++ [(t.ends i, .published (t.outcome i))]

/-- The attempt with which a resolution ends: the first that finds an address, or the last that is allowed. -/
structure IsLast (last : Nat) : Prop where
  lt : last < t.limit
  failed : ∀ i < last, t.Fails i
  ended : ¬ t.Fails last ∨ last + 1 = t.limit

theorem exists_isLast : ∃ last, t.IsLast last := by
  classical
  have hallowed : ∃ i, ¬ t.Fails i ∨ i + 1 = t.limit := by
    have hlimit : 1 ≤ t.limit := Nat.le_max_right _ _
    exact ⟨t.limit - 1, .inr (by omega)⟩
  refine ⟨Nat.find hallowed, ?_, fun i hi => ?_, Nat.find_spec hallowed⟩
  · have hlimit : 1 ≤ t.limit := Nat.le_max_right _ _
    have hle : Nat.find hallowed ≤ t.limit - 1 := Nat.find_min' hallowed (.inr (by omega))
    omega
  · have hmin := Nat.find_min hallowed hi
    rw [not_or, not_not] at hmin
    exact hmin.1

variable {t}

/-- There is only one such attempt. -/
theorem IsLast.eq {i j : Nat} (hi : t.IsLast i) (hj : t.IsLast j) : i = j := by
  have hle : ∀ {i j : Nat}, t.IsLast i → t.IsLast j → ¬ i < j := by
    intro i j hi hj hlt
    rcases hi.ended with hfound | hlimit
    · exact hfound (hj.failed i hlt)
    · have := hj.lt
      omega
  exact Nat.le_antisymm (Nat.le_of_not_lt (hle hj hi)) (Nat.le_of_not_lt (hle hi hj))

theorem fails_iff {i : Nat} : t.Fails i ↔ (t.answer i).addresses.bind pickAddress = none := by
  unfold Fails
  cases (t.answer i).addresses with
  | none => simp
  | some addresses => simp [pickAddress_eq_none_iff]

/-- A resolution ends with the address that its resolver picks. -/
theorem outcome_eq (i : Nat) :
    t.outcome i = ((t.answer i).addresses.bind pickAddress).elim (.unavailable t.limit) .resolved := by
  unfold outcome
  cases (t.answer i).addresses with
  | none => rfl
  | some found =>
    show (match pickAddress found with
      | some remote => ResolutionState.resolved remote
      | none => .unavailable t.limit) = (pickAddress found).elim _ _
    cases pickAddress found <;> rfl

theorem outcome_spec (i : Nat) :
    (t.Fails i ∧ t.outcome i = .unavailable t.limit)
      ∨ ∃ remote, t.outcome i = .resolved remote ∧ IsChoice ((t.answer i).addresses.getD []) remote := by
  rw [outcome_eq, Fails]
  cases (t.answer i).addresses with
  | none => exact .inl ⟨rfl, rfl⟩
  | some found =>
    rcases pickAddress_spec found with ⟨hfound, hnone⟩ | ⟨remote, hremote, hchoice⟩
    · rw [Option.bind_some, hnone]
      exact .inl ⟨hfound, rfl⟩
    · rw [Option.bind_some, hremote]
      exact .inr ⟨remote, rfl, hchoice⟩

/-! ## The course of a resolver -/

variable (t) in
/-- The resolver after so many things that were due to it have happened. -/
def after (n : Nat) : Resolver :=
  (·.step t.names)^[n] t.start

theorem after_succ (n : Nat) : t.after (n + 1) = (t.after n).step t.names :=
  Function.iterate_succ_apply' _ n t.start

variable (t) in
/-- The resolver while it waits for the answer of an attempt. -/
def looking (i : Nat) : Resolver :=
  ⟨t.policy, .looking (i + 1) (t.pause i) (t.ends i) (t.answer i).addresses, t.base + i + 1⟩

variable (t) in
/-- The resolver in the pause after an attempt. -/
def pausing (i : Nat) : Resolver :=
  ⟨t.policy, .pausing (i + 1) (t.pause i) (t.begins (i + 1)), t.base + i + 1⟩

variable (t) in
/-- The resolver that has ended with an attempt. -/
def settled (i : Nat) : Resolver :=
  ⟨t.policy, .settled (t.outcome i), t.base + i + 1⟩

theorem pause_succ (i : Nat) : t.pause (i + 1) = min (2 * t.pause i) t.policy.maxBackoffMs := by
  unfold pause
  rw [Nat.pow_succ, ← Nat.mul_assoc]
  omega

theorem step_start : t.start.step t.names = t.looking 0 := by
  simp [start, Resolver.spawn, Resolver.step, Resolver.begin, Resolver.firstBackoff, looking, pause, ends,
    begins, answer]

theorem step_pausing (i : Nat) : (t.pausing i).step t.names = t.looking (i + 1) := by
  simp [pausing, Resolver.step, Resolver.begin, Resolver.nextBackoff, looking, pause_succ, ends, answer,
    Nat.add_assoc]

/-- After an attempt that failed comes a pause, if another one is allowed. -/
theorem step_looking_of_fails {i : Nat} (hfails : t.Fails i) (hlt : i + 1 < t.limit) :
    (t.looking i).step t.names = t.pausing i := by
  have hallowed : i + 1 < (t.looking i).attempts := hlt
  show (t.looking i).conclude (i + 1) (t.pause i) (t.ends i) (t.answer i).addresses = t.pausing i
  unfold Resolver.conclude
  rw [fails_iff.mp hfails, if_pos hallowed]
  rfl

theorem step_looking_last {last : Nat} (h : t.IsLast last) :
    (t.looking last).step t.names = t.settled last := by
  show (t.looking last).conclude (last + 1) (t.pause last) (t.ends last) (t.answer last).addresses
    = t.settled last
  unfold Resolver.conclude settled
  rw [outcome_eq]
  cases hfound : (t.answer last).addresses.bind pickAddress with
  | some remote => rfl
  | none =>
    have hlimit : last + 1 = t.limit := h.ended.resolve_left fun hnot => hnot (fails_iff.mpr hfound)
    have hnot : ¬ last + 1 < (t.looking last).attempts := by
      show ¬ last + 1 < t.limit
      rw [hlimit]
      exact Nat.lt_irrefl _
    rw [if_neg hnot]
    rfl

/-- The states of a resolution, one after another. -/
theorem after_cases {last : Nat} (h : t.IsLast last) (n : Nat) :
    t.after n = t.start
      ∨ (∃ i ≤ last, t.after n = t.looking i)
      ∨ (∃ i < last, t.after n = t.pausing i)
      ∨ t.after n = t.settled last := by
  induction n with
  | zero => exact .inl rfl
  | succ n ih =>
    rw [after_succ]
    rcases ih with hstart | ⟨i, hi, hlooking⟩ | ⟨i, hi, hpausing⟩ | hsettled
    · rw [hstart, step_start]
      exact .inr (.inl ⟨0, Nat.zero_le _, rfl⟩)
    · rw [hlooking]
      rcases Nat.lt_or_eq_of_le hi with hlt | rfl
      · have hallowed : i + 1 < t.limit := by
          have := h.lt
          omega
        rw [step_looking_of_fails (h.failed i hlt) hallowed]
        exact .inr (.inr (.inl ⟨i, hlt, rfl⟩))
      · rw [step_looking_last h]
        exact .inr (.inr (.inr rfl))
    · rw [hpausing, step_pausing]
      exact .inr (.inl ⟨i + 1, hi, rfl⟩)
    · rw [hsettled, Resolver.step_of_ended rfl]
      exact .inr (.inr (.inr rfl))

/-! ### What it does -/

theorem history_start : t.start.history t.names = t.opening 0 ++ (t.looking 0).history t.names := by
  have hdue : t.start.due? = some t.since := rfl
  have hopening : (Resolver.acts t.start (t.looking 0)).map (t.since, ·) = t.opening 0 := by
    simp [Resolver.acts, start, Resolver.spawn, looking, Resolver.state, opening, begins]
  rw [Resolver.history_of_due hdue, step_start, hopening]

theorem history_looking_of_fails {i : Nat} (hfails : t.Fails i) (hlt : i + 1 < t.limit) :
    (t.looking i).history t.names
      = (t.ends i, .slept (t.pause i)) :: (t.opening (i + 1) ++ (t.looking (i + 1)).history t.names) := by
  have hdue : (t.looking i).due? = some (t.ends i) := rfl
  have hdue' : (t.pausing i).due? = some (t.begins (i + 1)) := rfl
  have hstep := step_looking_of_fails hfails hlt
  rw [Resolver.history_of_due hdue, hstep, Resolver.history_of_due hdue', step_pausing]
  have hpause : Resolver.acts (t.looking i) (t.pausing i) = [.slept (t.pause i)] := by
    simp [Resolver.acts, looking, pausing, Resolver.state]
  have hopening : (Resolver.acts (t.pausing i) (t.looking (i + 1))).map (t.begins (i + 1), ·)
      = t.opening (i + 1) := by
    simp [Resolver.acts, looking, pausing, Resolver.state, opening, Nat.add_assoc]
  rw [hpause, hopening]
  rfl

theorem history_looking_last {last : Nat} (h : t.IsLast last) :
    (t.looking last).history t.names = [(t.ends last, .published (t.outcome last))] := by
  have hdue : (t.looking last).due? = some (t.ends last) := rfl
  have hacts : Resolver.acts (t.looking last) (t.settled last) = [.published (t.outcome last)] := by
    have hne : t.outcome last ≠ .resolving (last + 1) := by
      rcases outcome_spec (t := t) last with ⟨-, hnone⟩ | ⟨remote, hremote, -⟩
      · rw [hnone]
        nofun
      · rw [hremote]
        nofun
    simp [Resolver.acts, looking, settled, Resolver.state, hne]
  rw [Resolver.history_of_due hdue, step_looking_last h, hacts, Resolver.history_of_ended rfl]
  rfl

/-- From any attempt on, the ones that fail follow each other until the last. -/
theorem history_looking {last : Nat} (h : t.IsLast last) {i left : Nat} (hi : i + left = last) :
    t.opening i ++ (t.looking i).history t.names
      = (List.range' i left).flatMap t.failedAttempt ++ t.lastAttempt last := by
  induction left generalizing i with
  | zero =>
    obtain rfl : i = last := hi
    rw [history_looking_last h]
    rfl
  | succ left ih =>
    have hlt : i < last := by omega
    have hallowed : i + 1 < t.limit := by
      have := h.lt
      omega
    have hrest := ih (i := i + 1) (by omega)
    rw [history_looking_of_fails (h.failed i hlt) hallowed, hrest, List.range'_succ, List.flatMap_cons,
      failedAttempt]
    simp only [List.append_assoc, List.cons_append, List.nil_append]

theorem runToEnd_looking {last : Nat} (h : t.IsLast last) {i left : Nat} (hi : i + left = last) (now : Nat) :
    ((t.looking i).runToEnd t.names now).1 = t.settled last := by
  induction left generalizing i now with
  | zero =>
    obtain rfl : i = last := hi
    have hdue : (t.looking i).due? = some (t.ends i) := rfl
    rw [Resolver.runToEnd_of_due hdue, step_looking_last h]
    have hreaches : (t.settled i).Reaches t.names false ((t.settled i).runToEnd t.names (max now (t.ends i))).1 :=
      Resolver.reaches_runToEnd _ _
    exact hreaches.eq_of_ended rfl
  | succ left ih =>
    have hlt : i < last := by omega
    have hallowed : i + 1 < t.limit := by
      have := h.lt
      omega
    have hdue : (t.looking i).due? = some (t.ends i) := rfl
    have hdue' : (t.pausing i).due? = some (t.begins (i + 1)) := rfl
    rw [Resolver.runToEnd_of_due hdue, step_looking_of_fails (h.failed i hlt) hallowed,
      Resolver.runToEnd_of_due hdue', step_pausing]
    exact ih (by omega) _

theorem runToEnd_start {last : Nat} (h : t.IsLast last) (now : Nat) :
    (t.start.runToEnd t.names now).1 = t.settled last := by
  have hdue : t.start.due? = some t.since := rfl
  rw [Resolver.runToEnd_of_due hdue, step_start]
  exact runToEnd_looking h (Nat.zero_add last) _

/-! ## The whole course -/

/-- A resolution that nobody has told to stop ends as foreseen. -/
theorem after_eq_settled {last n : Nat} (h : t.IsLast last)
    (hended : (t.after n).isRunning = false) :
    t.after n = t.settled last := by
  rcases after_cases h n with hstart | ⟨i, -, hlooking⟩ | ⟨i, -, hpausing⟩ | hsettled
  · rw [hstart] at hended
    cases hended
  · rw [hlooking] at hended
    cases hended
  · rw [hpausing] at hended
    cases hended
  · exact hsettled

/-- Every pause is one that was foreseen, so it is no longer than the limit. -/
theorem backoff_le {last n attempt backoff due : Nat} (h : t.IsLast last)
    (hphase : (t.after n).phase = .pausing attempt backoff due) :
    backoff ≤ t.policy.maxBackoffMs := by
  rcases after_cases h n with hstart | ⟨i, -, hlooking⟩ | ⟨i, -, hpausing⟩ | hsettled
  · rw [hstart] at hphase
    cases hphase
  · rw [hlooking] at hphase
    cases hphase
  · rw [hpausing] at hphase
    cases hphase
    exact Nat.min_le_right _ _
  · rw [hsettled] at hphase
    cases hphase

/-- What is about to be published when an answer ends a resolution is the outcome. -/
theorem eq_settled_of_step {last n : Nat} (h : t.IsLast last) {r : Resolver}
    (hr : r = (t.after n).step t.names) (hsettled : r.state.isSettled = true) :
    r = t.settled last := by
  rw [← after_succ] at hr
  have hended := Resolver.isRunning_of_isSettled hsettled
  rw [hr] at hended ⊢
  exact after_eq_settled h hended

section
variable {L α : Type} [AutopilotLink L α]

/-- Whoever waits for the resolver gets the state in which it has ended. -/
theorem isSettled_waitSettled {c : Connection L α} {n : Nat} (hnames : c.names = t.names)
    (hr : c.resolver = some (t.after n)) {last : Nat} (h : t.IsLast last)
    (bursts : List (Burst α)) :
    (c.waitSettled bursts).resolution.isSettled = true
      ∧ ((c.waitSettled bursts).isShutdown = false → (c.waitSettled bursts).resolution = t.outcome last) := by
  obtain ⟨r', hr', hreaches⟩ := (c.passes_waitSettled bursts).resolver_of_some hr
  have hended : r'.isRunning = false := by
    have hresolving := c.isResolving_waitSettled bursts
    rw [Connection.isResolving, hr'] at hresolving
    exact hresolving
  have hresolution : (c.waitSettled bursts).resolution = r'.state := by
    rw [Connection.resolution, hr']
  rw [hresolution]
  rw [hnames] at hreaches
  have hstart : t.start.Reaches t.names (c.waitSettled bursts).isShutdown r' :=
    (Resolver.reaches_iterate n).trans hreaches
  refine ⟨(hstart.endsSettled (Resolver.endsSettled_spawn _ _ _)).isSettled hended, fun hs => ?_⟩
  -- nobody was told to shut down, so the resolver did nothing but what was due to it
  rw [hs] at hstart
  obtain ⟨m, hm⟩ := hstart.exists_iterate
  have hafter : r' = t.after m := hm
  rw [hafter] at hended ⊢
  rw [after_eq_settled h hended]
  rfl

/--
**A resolution takes the course that is foreseen for it.** One attempt is its last. Left to itself the resolver
publishes the attempts up to that one and makes a lookup for each, sleeps between them as long as the policy
says, ends with the first address of version four in the last answer, with the first address if there is none and as
unavailable if there is no address, and never computes a time that would not fit (one of `2 ^ 64` seconds or more would
not, and a pause is doubled before it is cut to its limit). Told to shut down before, it ends at once: as cancelled, or
with the outcome if that was due at the same moment; and it makes no other lookup. What a resolver has ended in stays,
and a wait for it returns that.
-/
theorem resolution_takes_its_course (t : Resolution) (hlimit : t.policy.maxBackoffMs < 2 ^ 64) :
    ∃ last, t.IsLast last
      ∧ t.start.state = .idle
      ∧ t.start.history t.names = (List.range last).flatMap t.failedAttempt ++ t.lastAttempt last
      ∧ ((t.Fails last ∧ t.outcome last = .unavailable t.limit)
        ∨ ∃ remote, t.outcome last = .resolved remote ∧ IsChoice ((t.answer last).addresses.getD []) remote)
      ∧ (∀ now, (t.start.runToEnd t.names now).1.state = t.outcome last
        ∧ (t.start.runToEnd t.names now).1.lookups = t.base + (last + 1))
      ∧ (∀ n attempt backoff due, (t.after n).phase = .pausing attempt backoff due →
        2 * backoff < 2 ^ 64 * 1000)
      ∧ (∀ n moment stopped, let r := t.after n
        r.isRunning = true → r.CancelledAt moment stopped →
          (stopped.state = .cancelled ∨ r.due? = some moment ∧ stopped.state = t.outcome last)
            ∧ ∀ later down, stopped.Reaches t.names down later → later.lookups = r.lookups)
      ∧ (∀ (r r' : Resolver) down, r.state.isSettled = true → r.Reaches t.names down r' → r' = r)
      ∧ ∀ (c : Connection L α) n bursts, c.names = t.names →
        c.resolver = some (t.after n) →
          (c.waitSettled bursts).resolution.isSettled = true
            ∧ ((c.waitSettled bursts).isShutdown = false →
              (c.waitSettled bursts).resolution = t.outcome last)
            ∧ (c.resolution.isSettled = true → c.waitSettled bursts = c)
            ∧ (c.isShutdown = true → (c.waitSettled bursts).lookupCount = c.lookupCount) := by
  obtain ⟨last, h⟩ := t.exists_isLast
  have hhistory : t.start.history t.names = (List.range last).flatMap t.failedAttempt ++ t.lastAttempt last := by
    rw [history_start, history_looking h (Nat.zero_add last), List.range_eq_range']
  have hend : ∀ now, (t.start.runToEnd t.names now).1.state = t.outcome last
      ∧ (t.start.runToEnd t.names now).1.lookups = t.base + (last + 1) := by
    intro now
    rw [runToEnd_start h]
    exact ⟨rfl, rfl⟩
  refine ⟨last, h, rfl, hhistory, outcome_spec last, hend, ?_, ?_, ?_, ?_⟩
  · intro n attempt backoff due hphase
    have hle := backoff_le h hphase
    omega
  · intro n moment stopped r hrun hcancelled
    obtain ⟨hended, hlookups, hstate⟩ := hcancelled.ends hrun t.names
    refine ⟨hstate.imp_right ?_, ?_⟩
    · rintro ⟨hdue, hstep, hsettled⟩
      rw [eq_settled_of_step h hstep hsettled]
      exact ⟨hdue, rfl⟩
    · intro later down hlater
      rw [hlater.eq_of_ended hended, hlookups]
  · intro r r' down hsettled hreaches
    exact hreaches.eq_of_ended (Resolver.isRunning_of_isSettled hsettled)
  · intro c n bursts hnames hr
    obtain ⟨hsettled, houtcome⟩ := isSettled_waitSettled hnames hr h bursts
    refine ⟨hsettled, houtcome, ?_, (c.passes_waitSettled bursts).lookupCount⟩
    intro hdone
    have hresolving : c.isResolving = false := by
      rw [Connection.resolution, hr] at hdone
      rw [Connection.isResolving, hr]
      exact Resolver.isRunning_of_isSettled hdone
    rw [Connection.waitSettled, hresolving, if_neg Bool.false_ne_true]

/-- Two lookups fail, the second with no address at all; the third one finds addresses of both versions. -/
def thirdTime : Resolution where
  policy := ⟨4294967295, 18446744073709551615, 18446744073709551615⟩
  names
    | 0 => ⟨5, none⟩
    | 1 => ⟨0, some []⟩
    | _ => ⟨7, some [⟨.v6 [0, 0, 0, 0, 0, 0, 0, 1] 0, 4560⟩, ⟨.v4 [127, 0, 0, 1], 4560⟩]⟩
  since := 0
  base := 0

/-- With the longest times that can be asked for, both pauses are of full length. -/
theorem third_attempt_finds_address :
    thirdTime.policy.maxBackoffMs < 2 ^ 64
      ∧ thirdTime.start.history thirdTime.names =
        [(0, .published (.resolving 1)), (0, .lookedUp 0), (5, .slept 18446744073709551615),
          (18446744073709551620, .published (.resolving 2)), (18446744073709551620, .lookedUp 1),
          (18446744073709551620, .slept 18446744073709551615),
          (36893488147419103235, .published (.resolving 3)), (36893488147419103235, .lookedUp 2),
          (36893488147419103242, .published (.resolved ⟨.v4 [127, 0, 0, 1], 4560⟩))]
      ∧ (∀ down later, (thirdTime.after 2).cancel.Reaches thirdTime.names down later → later.lookups = 1)
      ∧ ∀ bursts : List (Burst Float),
        (Connection.waitSettled { Connection.new .default (ScriptedLink.new "trial") thirdTime.names with
          resolver := some thirdTime.start } bursts).resolution.isSettled = true := by
  have hlimit : thirdTime.policy.maxBackoffMs < 2 ^ 64 := by decide
  have hlast : thirdTime.IsLast 2 := by
    refine ⟨by decide, fun i hi => ?_, .inl (by unfold Fails; decide)⟩
    match i, hi with
    | 0, _ => rfl
    | 1, _ => rfl
  obtain ⟨last, h, -, hhistory, -, -, -, hstopped, -, hwait⟩ :=
    resolution_takes_its_course (L := ScriptedLink Float) thirdTime hlimit
  obtain rfl : last = 2 := h.eq hlast
  refine ⟨hlimit, hhistory, fun down later => ?_, fun bursts => ?_⟩
  · exact (hstopped 2 0 _ rfl .noticed).2 later down
  · exact (hwait _ 0 bursts rfl rfl).1

end

end Resolution

end HilBridge
