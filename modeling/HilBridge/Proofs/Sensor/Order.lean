import HilBridge.Proofs.Recording
import HilBridge.Proofs.Sensor.Bookkeeping

/-!
# `HilBridge.Proofs.Sensor.Order` — no report is older than one before it

An assembler is used in any order: samples are delivered or stored, distances delivered, the numbering is
started over, and cycles with any plans are assembled. The ledger of such a run follows the samples, and the
reports in it are those that the cycles put out (`reports_run`).

**Main statement.** `reports_in_time_order`: in each category every report is made from an accepted sample of
its own, and their times never decrease.
-/

namespace HilBridge

variable {α : Type} [Scalar α]

namespace Assembler

/-! ## Calls and runs -/

/-- What can be done with an assembler. -/
inductive Call (α : Type) where
  | deliver (sample : Sample α)
  | storeImu (sample : Stamped (ImuReading α))
  | deliverRange (link : String) (sample : Stamped α)
  | resetSequence
  | assemble (plan : CyclePlan)
  deriving Repr, DecidableEq

namespace Call

/-- The assembler after a call. -/
def apply (a : Assembler α) : Call α → Assembler α
  | .deliver sample => (a.deliver sample).2
  | .storeImu sample => (a.storeImu sample).2
  | .deliverRange link sample => (a.deliverRange link sample).2
  | .resetSequence => a.resetSequence
  | .assemble plan => (a.assemble plan).2

/-- What a call does with samples. -/
def entries (a : Assembler α) : Call α → Ledger α
  | .deliver sample => a.deliverEntries sample
  | .storeImu sample => a.storeImuEntries sample
  | .deliverRange link sample => a.deliverRangeEntries link sample
  | .resetSequence => []
  | .assemble plan => a.assembleEntries plan

/-- The reports that a call puts out. -/
def reports (a : Assembler α) : Call α → List (Stamped (Report α))
  | .assemble plan => (a.assemble plan).1
  | .deliver _ => []
  | .storeImu _ => []
  | .deliverRange .. => []
  | .resetSequence => []

end Call

/-- Runs of an assembler with their ledgers. -/
def bookkeeper (α : Type) [Scalar α] : Recorder (Assembler α) (Call α) (Entry α) :=
  ⟨Call.apply, Call.entries⟩

/-- Runs of an assembler with all that they put out. -/
def reporter (α : Type) [Scalar α] : Recorder (Assembler α) (Call α) (Stamped (Report α)) :=
  ⟨Call.apply, Call.reports⟩

variable {a : Assembler α}

/-- Every call agrees with its entries. -/
theorem books_call (ha : a.InOrder) (call : Call α) : a.Books (call.entries a) (call.apply a) := by
  cases call with
  | deliver sample => exact books_deliver a sample
  | storeImu sample => exact books_storeImu a sample
  | deliverRange link sample => exact books_deliverRange a link sample
  | resetSequence => exact books_resetSequence a
  | assemble plan => exact books_assemble ha plan

theorem books_run (ha : a.InOrder) (calls : List (Call α)) :
    a.Books ((bookkeeper α).run a calls).2 ((bookkeeper α).run a calls).1 := by
  refine (bookkeeper α).run_induction (P := fun b l => a.Books l b) (.refl a) (fun b l call h => ?_) calls
  exact h.trans (books_call (h.inOrder ha) call)

/-- The entries of a call speak of the reports that it puts out. -/
theorem reports_entries (a : Assembler α) (call : Call α) :
    Ledger.reports (call.entries a) = call.reports a := by
  cases call with
  | deliver sample =>
    rw [Call.entries, deliverEntries]
    split <;> rfl
  | storeImu sample => rfl
  | deliverRange link sample =>
    rw [Call.entries, deliverRangeEntries]
    split
    · rfl
    · split <;> rfl
  | resetSequence => rfl
  | assemble plan => exact reports_assembleEntries a plan

/-- The reports in a ledger are all that was put out. -/
theorem reports_run (a : Assembler α) (calls : List (Call α)) :
    Ledger.reports ((bookkeeper α).run a calls).2 = ((reporter α).run a calls).2 := by
  rw [(bookkeeper α).run_filterMap (reporter α) Entry.report? rfl fun b call => (reports_entries b call).symm]
  rfl

/-! ## The theorem -/

/--
**No report is older than one before it.** Whatever is done with an assembler: what it puts out are the reports
of its ledger, and of those that a category has, every one is of the category's kind and made from an accepted
sample of its own, has that sample's time, and comes after none that is later.
-/
theorem reports_in_time_order (c : Config α) (links : List RangeLink) (calls : List (Call α)) :
    let l : Ledger α := ((bookkeeper α).run (.new c links) calls).2
    ((reporter α).run (.new c links) calls).2 = l.reports
      ∧ ∀ k, (∃ used, used.Sublist (l.moving k).arrivals
          ∧ List.Forall₂ (Arrival.Makes c.assembly links) used (l.moving k).reports)
        ∧ (∀ report ∈ (l.moving k).reports, k.covers report.value = true)
        ∧ ((l.moving k).reports.map (·.time)).Pairwise (· ≤ ·) := by
  intro l
  refine ⟨(reports_run (.new c links) calls).symm, fun k => ?_⟩
  have hempty := tray_new c links
  have hsteps := (books_run (inOrder_of_empty hempty) calls).steps hempty k
  rw [rangeLinks_new] at hsteps
  exact ⟨Tray.made_in_order hsteps, fun _ => Tray.covers_of_mem_reports hsteps,
    (Tray.times_pairwise hsteps).1⟩

/-- Three inertial samples are stored, the second of them older than the first. -/
def storing : List (Call Float) :=
  [8000, 4000, 9000].flatMap fun time =>
    [.storeImu ⟨time, ⟨⟨0.0, 0.0, 0.0⟩, ⟨0.0, 0.0, 9.8⟩⟩⟩, .assemble ⟨10000, true, none⟩]

/-- The older one is found out when its own report is due; the other two are reported in their order. -/
theorem older_in_store_is_passed_over :
    let l : Ledger Float := ((bookkeeper Float).run (.new .default []) storing).2
    ((reporter Float).run (.new .default []) storing).2.map (·.time) = [8000, 9000]
      ∧ l.reports.map (·.time) = [8000, 9000]
      ∧ (l.moving .imu).arrivals.length = 3
      ∧ ∃ used, used.Sublist (l.moving .imu).arrivals ∧ used.length = 2
        ∧ List.Forall₂ (Arrival.Makes Config.default.assembly []) used (l.moving .imu).reports := by
  intro l
  obtain ⟨hreports, hordered⟩ := reports_in_time_order (Config.default : Config Float) [] storing
  obtain ⟨⟨used, hused, hmakes⟩, -, -⟩ := hordered .imu
  have htimes : l.reports.map (·.time) = [8000, 9000] := by decide
  have hcount : (l.moving .imu).reports.length = 2 := by decide
  exact ⟨by rw [hreports, htimes], htimes, by decide, used, hused, hmakes.length_eq.trans hcount, hmakes⟩

end Assembler

end HilBridge
