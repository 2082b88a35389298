import Mathlib.Data.List.Induction

/-!
# `HilBridge.Proofs.Recording` — runs with a record beside them

Statements about runs speak of the past, and the objects of this library forget it. A `Recorder` says how a
call changes an object and what is to be written down about it; a run starts with nothing written down. The
record is never read by the calls.

`run_induction` is the one induction over runs: what holds at first and is kept by every call holds at the end
of every run. What is to hold of each entry in view of those before it is `EachAfter`.
-/

namespace HilBridge

/-! ## Records -/

/-- Of every entry something holds in view of the entries before it. -/
def EachAfter {ε : Type} (P : List ε → ε → Prop) (log : List ε) : Prop :=
  ∀ before e after, log = before ++ e :: after → P before e

namespace EachAfter

variable {ε : Type} {P : List ε → ε → Prop} {log : List ε}

theorem nil : EachAfter P [] := by
  intro before e after hsplit
  simp at hsplit

theorem concat (h : EachAfter P log) {e : ε} (he : P log e) : EachAfter P (log ++ [e]) := by
  intro before d after hsplit
  rcases List.eq_nil_or_concat after with rfl | ⟨front, last, rfl⟩
  · obtain ⟨rfl, hlast⟩ := List.append_inj' hsplit rfl
    cases hlast
    exact he
  · rw [List.concat_eq_append, ← List.cons_append, ← List.append_assoc] at hsplit
    obtain ⟨hfront, -⟩ := List.append_inj' hsplit rfl
    exact h before d front hfront

theorem of_append {more : List ε} (h : EachAfter P (log ++ more)) : EachAfter P log := by
  rintro before e after rfl
  exact h before e (after ++ more) (by simp)

end EachAfter

/-! ## Runs -/

/-- How calls change an object, and what is written down about each of them. -/
structure Recorder (σ κ ε : Type) where
  apply : σ → κ → σ
  entries : σ → κ → List ε

namespace Recorder

variable {σ κ ε : Type} (m : Recorder σ κ ε)

/-- One call, of an object with its record. -/
def step (r : σ × List ε) (call : κ) : σ × List ε :=
  (m.apply r.1 call, r.2 ++ m.entries r.1 call)

/-- A run, with what was written down in the course of it. -/
def run (s : σ) (calls : List κ) : σ × List ε :=
  calls.foldl m.step (s, [])

@[simp]
theorem run_concat (s : σ) (calls : List κ) (call : κ) :
    m.run s (calls ++ [call]) = m.step (m.run s calls) call := by
  rw [run, List.foldl_append]
  rfl

/-- A run after its first call. -/
theorem run_cons (s : σ) (call : κ) (calls : List κ) :
    m.run s (call :: calls)
      = ((m.run (m.apply s call) calls).1, m.entries s call ++ (m.run (m.apply s call) calls).2) := by
  induction calls using List.reverseRecOn with
  | nil => exact Prod.ext rfl (List.append_nil _).symm
  | append_singleton front last ih =>
    rw [← List.cons_append, run_concat, run_concat, ih]
    exact Prod.ext rfl (List.append_assoc _ _ _)

/-- What holds at first and is kept by every call holds after every run. -/
theorem run_induction {P : σ → List ε → Prop} {s : σ} (base : P s [])
    (kept : ∀ t log call, P t log → P (m.apply t call) (log ++ m.entries t call)) (calls : List κ) :
    P (m.run s calls).1 (m.run s calls).2 := by
  unfold run
  generalize hstart : (s, ([] : List ε)) = r
  have hr : P r.1 r.2 := by
    rw [← hstart]
    exact base
  clear hstart
  induction calls generalizing r with
  | nil => exact hr
  | cons call rest ih => exact ih (m.step r call) (kept r.1 r.2 call hr)

/-- What is read off the entries of each call is read off the record of the run. -/
theorem run_filterMap {δ : Type} (m' : Recorder σ κ δ) (read : ε → Option δ)
    (happly : m'.apply = m.apply)
    (hentries : ∀ s call, m'.entries s call = (m.entries s call).filterMap read) (s : σ) (calls : List κ) :
    m'.run s calls = ((m.run s calls).1, (m.run s calls).2.filterMap read) := by
  induction calls using List.reverseRecOn with
  | nil => rfl
  | append_singleton front call ih =>
    rw [run_concat, run_concat, ih, step, step, List.filterMap_append, hentries, happly]

end Recorder

end HilBridge
