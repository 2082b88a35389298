import HilBridge.Proofs.Recording
import HilBridge.Sensor.Slot
import Mathlib.Logic.Function.Basic

/-!
# `HilBridge.Proofs.Sensor.SharedStore` — one store of inertial samples for many threads

A store of inertial samples is shared: whoever has a handle on it can make another one, and every thread calls it
through a handle of its own. A call is one undivided operation, because a lock is held meanwhile. So whatever the
threads do, the calls come in some order, and a run is any list of calls, each by any thread through any handle.

What an order of calls has to answer is said without a store. The log of the calls on a store tells how many samples
were stored so far (`stores`), which one last (`newest`), and whether that has been taken since (`waiting`);
`StoreEvent.Answers` reads the answer of the next call off these.

**Main statement.** `calls_linearize`: on every store, in every run, each call is answered as the log of the calls
before it says. Hence samples are numbered in the order in which they are stored and never torn from their numbers,
and each is taken once at most.
-/

namespace HilBridge

variable {α : Type}

/-- A sample of the inertial measurement unit with its number. -/
abbrev NumberedImu (α : Type) := Numbered (Stamped (ImuReading α))

/-! ## Calls on a store -/

/-- What is called on a store. -/
inductive StoreCall (α : Type) where
  | store (sample : Stamped (ImuReading α))
  | take
  | peek
  | isUpdated
  deriving Repr, DecidableEq

/-- A call that was carried out, with its answer. -/
inductive StoreEvent (α : Type) where
  | stored (sample : Stamped (ImuReading α)) (seq : UInt8)
  | taken (found : Option (NumberedImu α))
  | peeked (found : Option (NumberedImu α))
  | checked (updated : Bool)
  deriving Repr, DecidableEq

/-- Carries out a call. -/
def ImuStore.serve (s : ImuStore α) : StoreCall α → StoreEvent α × ImuStore α
  | .store sample => (.stored sample (s.store sample).1, (s.store sample).2)
  | .take => (.taken s.take.1, s.take.2)
  | .peek => (.peeked s.peek, s)
  | .isUpdated => (.checked s.isUpdated, s)

/-- The calls on a store in their order. -/
abbrev StoreLog (α : Type) := List (StoreEvent α)

namespace StoreEvent

def stored? : StoreEvent α → Option (NumberedImu α)
  | .stored sample seq => some ⟨seq, sample⟩
  | _ => none

def taken? : StoreEvent α → Option (NumberedImu α)
  | .taken found => found
  | _ => none

/-- Whether a sample was asked for to be taken, found or not. -/
def isTake : StoreEvent α → Bool
  | .taken _ => true
  | _ => false

/-- The sample that waits to be taken after a call, given the one that waited before. -/
def waits (before : Option (NumberedImu α)) : StoreEvent α → Option (NumberedImu α)
  | .stored sample seq => some ⟨seq, sample⟩
  | .taken _ => none
  | .peeked _ => before
  | .checked _ => before

theorem eq_stored_of_stored? {e : StoreEvent α} {x : NumberedImu α} (h : e.stored? = some x) :
    e = .stored x.value x.seq := by
  cases e with
  | stored sample seq =>
    cases h
    rfl
  | _ => cases h

/-- Only a sample that is stored, or taken, changes what waits. -/
theorem waits_of_not_stored {e : StoreEvent α} (h : e.stored? = none) (before : Option (NumberedImu α)) :
    e.waits before = if e.isTake then none else before := by
  cases e with
  | stored sample seq => cases h
  | _ => rfl

end StoreEvent

namespace StoreLog

open StoreEvent

/-- How many samples were stored. -/
def stores (log : StoreLog α) : Nat :=
  log.countP fun e => e.stored?.isSome

/-- The sample stored last. -/
def newest (log : StoreLog α) : Option (NumberedImu α) :=
  (log.filterMap stored?).getLast?

/-- The sample stored last, unless one was asked for since. -/
def waiting (log : StoreLog α) : Option (NumberedImu α) :=
  log.foldl waits none

theorem stores_append (log more : StoreLog α) : stores (log ++ more) = log.stores + more.stores :=
  List.countP_append

theorem stores_of_quiet {log : StoreLog α} (h : ∀ e ∈ log, e.stored? = none) : log.stores = 0 := by
  rw [stores, List.countP_eq_zero]
  intro e he
  rw [h e he]
  nofun

theorem newest_concat (log : StoreLog α) (e : StoreEvent α) : newest (log ++ [e]) = e.stored?.or log.newest := by
  unfold newest
  cases h : e.stored? <;> simp [h]

theorem waiting_concat (log : StoreLog α) (e : StoreEvent α) : waiting (log ++ [e]) = e.waits log.waiting := by
  rw [waiting, List.foldl_append]
  rfl

/-- As long as nothing is stored, all that matters is whether a sample is asked for. -/
theorem waiting_append_of_quiet (log : StoreLog α) {quiet : StoreLog α} (h : ∀ e ∈ quiet, e.stored? = none) :
    waiting (log ++ quiet) = if quiet.any isTake then none else log.waiting := by
  induction quiet using List.reverseRecOn with
  | nil => rw [List.append_nil]; rfl
  | append_singleton quiet e ih =>
    have hbefore := ih fun d hd => h d (List.mem_append_left _ hd)
    have hlast : e.stored? = none := h e (by simp)
    rw [← List.append_assoc, waiting_concat, waits_of_not_stored hlast, hbefore, List.any_append]
    cases quiet.any isTake <;> cases htake : e.isTake <;> simp [htake]

theorem newest_append_of_quiet (log : StoreLog α) {quiet : StoreLog α} (h : ∀ e ∈ quiet, e.stored? = none) :
    newest (log ++ quiet) = log.newest := by
  rw [newest, List.filterMap_append, List.filterMap_eq_nil_iff.mpr h, List.append_nil]
  rfl

/-- The sample stored last was stored somewhere, and nothing since. -/
theorem exists_of_newest {log : StoreLog α} {x : NumberedImu α} (h : log.newest = some x) :
    ∃ front back, log = front ++ .stored x.value x.seq :: back ∧ ∀ e ∈ back, e.stored? = none := by
  induction log using List.reverseRecOn with
  | nil => cases h
  | append_singleton log e ih =>
    rw [newest_concat] at h
    cases hstored : e.stored? with
    | some y =>
      rw [hstored] at h
      cases h
      exact ⟨log, [], by rw [eq_stored_of_stored? hstored], nofun⟩
    | none =>
      rw [hstored] at h
      obtain ⟨front, back, rfl, hback⟩ := ih h
      refine ⟨front, back ++ [e], by simp, ?_⟩
      intro d hd
      rcases List.mem_append.mp hd with hd | hd
      · exact hback d hd
      · rw [List.mem_singleton.mp hd, hstored]

/-- Only the sample stored last can wait. -/
theorem newest_of_waiting {log : StoreLog α} {x : NumberedImu α} (h : log.waiting = some x) :
    log.newest = some x := by
  induction log using List.reverseRecOn with
  | nil => cases h
  | append_singleton log e ih =>
    rw [waiting_concat] at h
    rw [newest_concat]
    cases e with
    | stored sample seq => exact h
    | taken found => cases h
    | peeked found => exact ih h
    | checked updated => exact ih h

/-- What waits where nothing waited before was stored since. -/
theorem mem_of_waiting {log more : StoreLog α} {x : NumberedImu α} (hnone : log.waiting = none)
    (h : waiting (log ++ more) = some x) : StoreEvent.stored x.value x.seq ∈ more := by
  induction more using List.reverseRecOn with
  | nil =>
    rw [List.append_nil, hnone] at h
    cases h
  | append_singleton more e ih =>
    rw [← List.append_assoc, waiting_concat] at h
    cases e with
    | stored sample seq =>
      cases h
      simp
    | taken found => cases h
    | peeked found => exact List.mem_append_left _ (ih h)
    | checked updated => exact List.mem_append_left _ (ih h)

end StoreLog

open StoreLog

/-! ## The answers of a log -/

/-- The answer of a call, given the calls before it. -/
def StoreEvent.Answers (before : StoreLog α) : StoreEvent α → Prop
  | .stored _ seq => seq = UInt8.ofNat before.stores
  | .taken found => found = before.waiting
  | .peeked found => found = before.newest
  | .checked updated => updated = before.waiting.isSome

/-- Every call in a log has the answer that the calls before it give. -/
abbrev StoreLog.IsAnswered (log : StoreLog α) : Prop :=
  EachAfter StoreEvent.Answers log

namespace StoreLog.IsAnswered

variable {log : StoreLog α}

/-- The number of the sample stored last is one behind the number of stores. -/
theorem seq_newest (h : log.IsAnswered) {x : NumberedImu α} (hx : log.newest = some x) :
    x.seq + 1 = UInt8.ofNat log.stores := by
  obtain ⟨front, back, rfl, hback⟩ := exists_of_newest hx
  have hseq : x.seq = UInt8.ofNat (stores front) := h front _ back rfl
  have hone : stores [StoreEvent.stored x.value x.seq] = 1 := rfl
  rw [List.append_cons, stores_append, stores_append, stores_of_quiet hback, hone, hseq, Nat.add_zero,
    UInt8.ofNat_add]
  rfl

/-- From one take to another the numbers advance by the stores between them. -/
theorem seq_sub (h : log.IsAnswered) {front between after : StoreLog α} {x y : NumberedImu α}
    (hsplit : log = front ++ .taken (some x) :: between ++ .taken (some y) :: after) :
    y.seq - x.seq = UInt8.ofNat between.stores := by
  have hx : some x = waiting front := h front (.taken (some x)) (between ++ .taken (some y) :: after) (by simp [hsplit])
  have hy : some y = waiting (front ++ .taken (some x) :: between) := h _ (.taken (some y)) after hsplit
  have hlater : StoreLog.IsAnswered (front ++ .taken (some x) :: between) := EachAfter.of_append (hsplit ▸ h)
  have hfirst : x.seq + 1 = UInt8.ofNat (stores front) :=
    seq_newest (EachAfter.of_append hlater) (newest_of_waiting hx.symm)
  have hsecond : y.seq + 1 = UInt8.ofNat (stores (front ++ .taken (some x) :: between)) :=
    hlater.seq_newest (newest_of_waiting hy.symm)
  have hstores : stores (front ++ .taken (some x) :: between) = stores front + stores between := stores_append ..
  -- both are counted from the number of the next sample at the first take
  have hseq : y.seq + 1 = x.seq + UInt8.ofNat between.stores + 1 := by
    rw [hsecond, hstores, UInt8.ofNat_add, ← hfirst, UInt8.add_assoc, UInt8.add_comm 1, ← UInt8.add_assoc]
  rw [UInt8.add_left_inj] at hseq
  rw [hseq, UInt8.add_comm, UInt8.add_sub_cancel]

/-- A sample has the number of stores before it, modulo 256. -/
theorem seq_stored (h : log.IsAnswered) {before after : StoreLog α} {sample : Stamped (ImuReading α)} {seq : UInt8}
    (hsplit : log = before ++ .stored sample seq :: after) : seq.toNat = stores before % 256 := by
  have hseq : seq = UInt8.ofNat (stores before) := h before (.stored sample seq) after hsplit
  rw [hseq, UInt8.toNat_ofNat']

/-- What is found, to be taken or only to be looked at, is the sample stored last. -/
theorem newest_of_found (h : log.IsAnswered) {before after : StoreLog α} {x : NumberedImu α}
    (hsplit : log = before ++ .taken (some x) :: after ∨ log = before ++ .peeked (some x) :: after) :
    newest before = some x := by
  rcases hsplit with htaken | hpeeked
  · have hwaiting : some x = waiting before := h before (.taken (some x)) after htaken
    exact newest_of_waiting hwaiting.symm
  · exact (h before (.peeked (some x)) after hpeeked).symm

/-- The first who asks for the sample stored last gets it, and nobody after. -/
theorem taken_after_store (h : log.IsAnswered) {before between after : StoreLog α} {sample : Stamped (ImuReading α)}
    {seq : UInt8} {found : Option (NumberedImu α)} (hquiet : ∀ e ∈ between, e.stored? = none)
    (hsplit : log = before ++ .stored sample seq :: between ++ .taken found :: after) :
    found = if between.any StoreEvent.isTake then none else some ⟨seq, sample⟩ := by
  have hfound : found = waiting (before ++ .stored sample seq :: between) := h _ (.taken found) after hsplit
  rw [hfound, List.append_cons, waiting_append_of_quiet _ hquiet, waiting_concat]
  rfl

/-- All who look find the sample stored last. -/
theorem peeked_after_store (h : log.IsAnswered) {before between after : StoreLog α}
    {sample : Stamped (ImuReading α)} {seq : UInt8} {found : Option (NumberedImu α)}
    (hquiet : ∀ e ∈ between, e.stored? = none)
    (hsplit : log = before ++ .stored sample seq :: between ++ .peeked found :: after) :
    found = some ⟨seq, sample⟩ := by
  have hfound : found = newest (before ++ .stored sample seq :: between) := h _ (.peeked found) after hsplit
  rw [hfound, List.append_cons, newest_append_of_quiet _ hquiet, newest_concat]
  rfl

/-- Nothing is found before anything is stored. -/
theorem found_before_store (h : log.IsAnswered) {before after : StoreLog α} {found : Option (NumberedImu α)}
    (hquiet : ∀ e ∈ before, e.stored? = none)
    (hsplit : log = before ++ .taken found :: after ∨ log = before ++ .peeked found :: after) : found = none := by
  rw [Option.eq_none_iff_forall_ne_some]
  rintro x rfl
  have hnone : newest before = none := newest_append_of_quiet [] hquiet
  rw [h.newest_of_found hsplit] at hnone
  cases hnone

/-- A sample that is taken after another take was stored since. -/
theorem stored_between (h : log.IsAnswered) {before between after : StoreLog α} {found : Option (NumberedImu α)}
    {y : NumberedImu α} (hsplit : log = before ++ .taken found :: between ++ .taken (some y) :: after) :
    StoreEvent.stored y.value y.seq ∈ between := by
  have hwaiting : some y = waiting (before ++ .taken found :: between) := h _ (.taken (some y)) after hsplit
  rw [List.append_cons] at hwaiting
  refine mem_of_waiting ?_ hwaiting.symm
  rw [waiting_concat]
  rfl

/-- What was taken, and what waits behind it, are some of the samples stored, in their order. -/
theorem taken_sublist (h : log.IsAnswered) :
    (log.filterMap StoreEvent.taken? ++ (waiting log).toList).Sublist (log.filterMap StoreEvent.stored?) := by
  induction log using List.reverseRecOn with
  | nil => exact .refl []
  | append_singleton log e ih =>
    have hbefore := ih (EachAfter.of_append h)
    have hlast : e.Answers log := h log e [] rfl
    rw [List.filterMap_append, List.filterMap_append, waiting_concat]
    cases e with
    | stored sample seq =>
      -- it takes the place of whatever waited
      have htaken := (List.sublist_append_left _ _).trans hbefore
      simpa [List.filterMap_cons, StoreEvent.taken?, StoreEvent.stored?, StoreEvent.waits] using htaken
    | taken found =>
      have hfound : found = waiting log := hlast
      subst hfound
      cases hwaiting : waiting log <;>
        simpa [List.filterMap_cons, StoreEvent.taken?, StoreEvent.stored?, StoreEvent.waits, hwaiting] using hbefore
    | peeked found =>
      simpa [List.filterMap_cons, StoreEvent.taken?, StoreEvent.stored?, StoreEvent.waits] using hbefore
    | checked updated =>
      simpa [List.filterMap_cons, StoreEvent.taken?, StoreEvent.stored?, StoreEvent.waits] using hbefore

end StoreLog.IsAnswered

/-! ## A store and its log -/

/-- A store is as its log tells. -/
structure ImuStore.Follows (log : StoreLog α) (s : ImuStore α) : Prop where
  nextSeq : s.nextSeq = UInt8.ofNat (stores log)
  newest : s.slot.latest = log.newest
  waiting : s.slot.pending? = log.waiting
  updated : s.slot.updated = log.waiting.isSome

namespace ImuStore

variable {log : StoreLog α} {s : ImuStore α}

theorem follows_empty : Follows [] (empty : ImuStore α) :=
  ⟨rfl, rfl, rfl, rfl⟩

/-- A call has the answer that the log gives. -/
theorem Follows.answers (h : s.Follows log) (call : StoreCall α) : (s.serve call).1.Answers log := by
  cases call with
  | store sample => exact h.nextSeq
  | take => exact h.waiting
  | peek => exact h.newest
  | isUpdated => exact h.updated

/-- A store follows its log with one more call in it. -/
theorem Follows.serve (h : s.Follows log) (call : StoreCall α) :
    (s.serve call).2.Follows (log ++ [(s.serve call).1]) := by
  constructor
  case nextSeq =>
    rw [stores_append]
    cases call with
    | store sample =>
      show s.nextSeq + 1 = UInt8.ofNat (stores log + 1)
      rw [h.nextSeq, UInt8.ofNat_add]
      rfl
    | _ => exact h.nextSeq
  case newest =>
    rw [newest_concat]
    cases call with
    | store sample => rfl
    | _ => exact h.newest
  case waiting =>
    rw [waiting_concat]
    cases call with
    | store sample => rfl
    | take => rfl
    | _ => exact h.waiting
  case updated =>
    rw [waiting_concat]
    cases call with
    | store sample => rfl
    | take => rfl
    | _ => exact h.updated

end ImuStore

/-! ## Handles and threads -/

/-- Stores at addresses, and handles that say at which. -/
structure Handles (α : Type) where
  memory : Nat → ImuStore α
  /-- The address of the next store. -/
  next : Nat
  /-- The address of the store behind each handle. -/
  addresses : List Nat

/-- What a thread does with handles. -/
inductive HandleCall (α : Type) where
  /-- A handle on a new store. -/
  | create
  /-- Another handle on the store of a handle. -/
  | clone (handle : Nat)
  | call (handle : Nat) (call : StoreCall α)
  deriving Repr, DecidableEq

/-- A thread does something, undisturbed by the others. -/
structure Act (α : Type) where
  thread : Nat
  call : HandleCall α
  deriving Repr, DecidableEq

/-- A call that reached a store. -/
structure Access (α : Type) where
  thread : Nat
  address : Nat
  event : StoreEvent α
  deriving Repr, DecidableEq

namespace Handles

/-- No handles yet. -/
def initial : Handles α :=
  ⟨fun _ => .empty, 0, []⟩

def apply (h : Handles α) (act : Act α) : Handles α :=
  match act.call with
  | .create => { h with next := h.next + 1, addresses := h.addresses ++ [h.next] }
  | .clone handle => { h with addresses := h.addresses ++ h.addresses[handle]?.toList }
  | .call handle call =>
    match h.addresses[handle]? with
    | some address => { h with memory := Function.update h.memory address ((h.memory address).serve call).2 }
    | none => h

/-- The store that an act reaches, with what happens there. -/
def accesses (h : Handles α) (act : Act α) : List (Access α) :=
  match act.call with
  | .create => []
  | .clone _ => []
  | .call handle call =>
    (h.addresses[handle]?.map fun address => ⟨act.thread, address, ((h.memory address).serve call).1⟩).toList

end Handles

/-- Runs of threads that share stores. -/
def sharing (α : Type) : Recorder (Handles α) (Act α) (Access α) :=
  ⟨Handles.apply, Handles.accesses⟩

/-- What happened to one store. -/
def logAt (address : Nat) (accesses : List (Access α)) : StoreLog α :=
  (accesses.filter fun access => access.address = address).map (·.event)

theorem logAt_append (address : Nat) (accesses more : List (Access α)) :
    logAt address (accesses ++ more) = logAt address accesses ++ logAt address more := by
  rw [logAt, List.filter_append, List.map_append]
  rfl

namespace Handles

/-- Every store follows its log, and all calls in it were answered. -/
def Follow (accesses : List (Access α)) (h : Handles α) : Prop :=
  ∀ address, (h.memory address).Follows (logAt address accesses) ∧ (logAt address accesses).IsAnswered

theorem follow_initial : (initial : Handles α).Follow [] :=
  fun _ => ⟨ImuStore.follows_empty, .nil⟩

/-- A call on one store is answered by it, and no other store has any part in it. -/
theorem Follow.call {h : Handles α} {accesses : List (Access α)} (hfollow : h.Follow accesses)
    (thread address : Nat) (call : StoreCall α) :
    Follow (accesses ++ [⟨thread, address, ((h.memory address).serve call).1⟩])
      { h with memory := Function.update h.memory address ((h.memory address).serve call).2 } := by
  intro other
  obtain ⟨hstore, hanswered⟩ := hfollow other
  rw [logAt_append]
  by_cases hsame : address = other
  · subst hsame
    have hlog : logAt address [⟨thread, address, ((h.memory address).serve call).1⟩]
        = [((h.memory address).serve call).1] := by
      simp [logAt]
    rw [hlog]
    show (Function.update h.memory address _ address).Follows _ ∧ _
    rw [Function.update_self]
    exact ⟨hstore.serve call, hanswered.concat (hstore.answers call)⟩
  · have hlog : logAt other [⟨thread, address, ((h.memory address).serve call).1⟩] = [] := by
      simp [logAt, hsame]
    rw [hlog, List.append_nil]
    show (Function.update h.memory address _ other).Follows _ ∧ _
    rw [Function.update_of_ne (Ne.symm hsame)]
    exact ⟨hstore, hanswered⟩

theorem Follow.act {h : Handles α} {accesses : List (Access α)} (hfollow : h.Follow accesses) (act : Act α) :
    (h.apply act).Follow (accesses ++ h.accesses act) := by
  obtain ⟨thread, call⟩ := act
  cases call with
  | create =>
    rw [Handles.accesses, List.append_nil]
    exact hfollow
  | clone handle =>
    rw [Handles.accesses, List.append_nil]
    exact hfollow
  | call handle call =>
    cases haddress : h.addresses[handle]? with
    | none =>
      simp only [apply, Handles.accesses, haddress, Option.map_none, Option.toList_none, List.append_nil]
      exact hfollow
    | some address =>
      simp only [apply, Handles.accesses, haddress, Option.map_some, Option.toList_some]
      exact hfollow.call thread address call

/-- So it is after every run. -/
theorem follow_run (acts : List (Act α)) :
    ((sharing α).run initial acts).1.Follow ((sharing α).run initial acts).2 :=
  (sharing α).run_induction (P := fun h accesses => h.Follow accesses) follow_initial
    (fun _ _ act hfollow => hfollow.act act) acts

/-- What a thread does leaves the handles that there are on their stores. -/
theorem addresses_act (h : Handles α) (act : Act α) : h.addresses <+: (h.apply act).addresses := by
  obtain ⟨thread, call⟩ := act
  cases call with
  | create => exact List.prefix_append ..
  | clone handle => exact List.prefix_append ..
  | call handle call =>
    unfold apply
    dsimp only
    split <;> exact List.prefix_refl _

theorem addresses_run (acts more : List (Act α)) :
    ((sharing α).run initial acts).1.addresses <+: ((sharing α).run initial (acts ++ more)).1.addresses := by
  induction more using List.reverseRecOn with
  | nil => simp only [List.append_nil, List.prefix_refl]
  | append_singleton front act ih =>
    rw [← List.append_assoc, Recorder.run_concat]
    exact ih.trans (addresses_act _ act)

/-- A clone is on the store of the handle that it was made from. -/
theorem address_clone {h : Handles α} {handle address : Nat} (haddress : h.addresses[handle]? = some address)
    (thread : Nat) : (h.apply ⟨thread, .clone handle⟩).addresses[h.addresses.length]? = some address := by
  show (h.addresses ++ h.addresses[handle]?.toList)[h.addresses.length]? = some address
  rw [haddress]
  exact List.getElem?_concat_length

/-- It stays on that store whatever the threads do later. -/
theorem addresses_clone (acts later : List (Act α)) {handle address : Nat} (thread : Nat)
    (haddress : ((sharing α).run initial acts).1.addresses[handle]? = some address) :
    ((sharing α).run initial (acts ++ ⟨thread, .clone handle⟩ :: later)).1.addresses[
      ((sharing α).run initial acts).1.addresses.length]? = some address := by
  have hclone := address_clone haddress thread
  have hkept := addresses_run (acts ++ [⟨thread, .clone handle⟩]) later
  rw [Recorder.run_concat, List.append_assoc] at hkept
  obtain ⟨more, hmore⟩ := hkept
  obtain ⟨hlt, -⟩ := List.getElem?_eq_some_iff.mp hclone
  rw [← List.singleton_append, ← hmore]
  exact (List.getElem?_append_left hlt).trans hclone

/--
**Calls on a shared store linearize.** A clone is on the store of its handle for good. Whatever threads do with
handles and clones, in any order, the calls on a store are answered as if one thread had made them. The sample that
is stored `n`-th has the number `n - 1` modulo 256. What a call finds was stored as a whole. A sample stored last is
found by all that look at it, but only by the first that takes; so what is taken are some of the samples stored, each
once and in their order. And from one take to a later one the numbers advance by the stores between, modulo 256.
-/
theorem calls_linearize (acts : List (Act α)) (address : Nat) :
    let h := ((sharing α).run initial acts).1
    let log := logAt address ((sharing α).run initial acts).2
    (∀ handle, h.addresses[handle]? = some address → ∀ thread later,
        ((sharing α).run initial (acts ++ ⟨thread, .clone handle⟩ :: later)).1.addresses[h.addresses.length]?
          = some address)
      ∧ (∀ before sample seq after, log = before ++ .stored sample seq :: after →
        seq.toNat = stores before % 256)
      ∧ (∀ before x after,
        log = before ++ .taken (some x) :: after ∨ log = before ++ .peeked (some x) :: after →
        .stored x.value x.seq ∈ before)
      ∧ (∀ before sample seq between after, (∀ e ∈ between, e.stored? = none) →
        (∀ found, log = before ++ .stored sample seq :: between ++ .taken found :: after →
          found = if between.any StoreEvent.isTake then none else some ⟨seq, sample⟩)
        ∧ (∀ found, log = before ++ .stored sample seq :: between ++ .peeked found :: after →
          found = some ⟨seq, sample⟩))
      ∧ (∀ before found after, (∀ e ∈ before, e.stored? = none) →
        log = before ++ .taken found :: after ∨ log = before ++ .peeked found :: after → found = none)
      ∧ (log.filterMap StoreEvent.taken?).Sublist (log.filterMap StoreEvent.stored?)
      ∧ (∀ before x between y after, log = before ++ .taken (some x) :: between ++ .taken (some y) :: after →
        .stored y.value y.seq ∈ between ∧ (y.seq - x.seq).toNat = stores between % 256) := by
  intro h log
  obtain ⟨-, hanswered⟩ := follow_run acts address
  refine ⟨?shared, ?numbered, ?whole, ?latest, ?nothing, ?once, ?apart⟩
  case shared =>
    intro handle haddress thread later
    exact addresses_clone acts later thread haddress
  case numbered =>
    intro before sample seq after hsplit
    exact hanswered.seq_stored hsplit
  case whole =>
    intro before x after hsplit
    obtain ⟨front, back, rfl, -⟩ := exists_of_newest (hanswered.newest_of_found hsplit)
    simp
  case latest =>
    intro before sample seq between after hquiet
    constructor
    · intro found hsplit
      exact hanswered.taken_after_store hquiet hsplit
    · intro found hsplit
      exact hanswered.peeked_after_store hquiet hsplit
  case nothing =>
    intro before found after hquiet hsplit
    exact hanswered.found_before_store hquiet hsplit
  case once => exact (List.sublist_append_left _ _).trans hanswered.taken_sublist
  case apart =>
    intro before x between y after hsplit
    refine ⟨hanswered.stored_between hsplit, ?_⟩
    rw [hanswered.seq_sub hsplit, UInt8.toNat_ofNat']

/-- Two threads store through a handle and its clone, and two take: the second take finds the newer of two samples,
whose number is two ahead, and a third finds nothing. -/
theorem clones_take_once :
    let sample (time : Nat) : Stamped (ImuReading Float) := ⟨time, ⟨⟨0.0, 0.0, 0.0⟩, ⟨0.0, 0.0, 9.8⟩⟩⟩
    let acts : List (Act Float) :=
      [⟨0, .create⟩, ⟨0, .clone 0⟩, ⟨1, .call 1 (.store (sample 10))⟩, ⟨2, .call 0 .take⟩,
       ⟨1, .call 1 (.store (sample 20))⟩, ⟨0, .call 0 (.store (sample 30))⟩, ⟨2, .call 1 .take⟩,
       ⟨0, .call 0 .take⟩]
    ∃ found again, logAt 0 ((sharing Float).run initial acts).2
        = [.stored (sample 10) 0, .taken (some ⟨0, sample 10⟩), .stored (sample 20) 1, .stored (sample 30) 2]
          ++ .taken found :: [.taken again]
      ∧ found = some ⟨2, sample 30⟩ ∧ again = none
      ∧ (2 - 0 : UInt8).toNat = stores [.stored (sample 20) 1, .stored (sample 30) 2] % 256 := by
  intro sample acts
  have hlog : logAt 0 ((sharing Float).run initial acts).2
      = [.stored (sample 10) 0, .taken (some ⟨0, sample 10⟩), .stored (sample 20) 1, .stored (sample 30) 2,
          .taken (some ⟨2, sample 30⟩), .taken none] := by
    decide +kernel
  obtain ⟨-, -, -, hlatest, -, -, hapart⟩ := calls_linearize acts 0
  refine ⟨some ⟨2, sample 30⟩, none, hlog, ?_, ?_, ?_⟩
  · exact (hlatest [.stored (sample 10) 0, .taken (some ⟨0, sample 10⟩), .stored (sample 20) 1] (sample 30) 2 []
      [.taken none] nofun).1 _ hlog
  · exact (hlatest [.stored (sample 10) 0, .taken (some ⟨0, sample 10⟩), .stored (sample 20) 1] (sample 30) 2
      [.taken (some ⟨2, sample 30⟩)] [] (by simp [StoreEvent.stored?])).1 _ hlog
  · exact (hapart [.stored (sample 10) 0] ⟨0, sample 10⟩ [.stored (sample 20) 1, .stored (sample 30) 2]
      ⟨2, sample 30⟩ [.taken none] hlog).2

end Handles

end HilBridge
