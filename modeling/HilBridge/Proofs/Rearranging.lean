import HilBridge.Proofs.Recording

/-!
# `HilBridge.Proofs.Rearranging` — the same calls in another order

Some calls belong to a lane, others concern all lanes. Two sequences of calls are the same to an observer of one
lane if they are the same as far as that lane is concerned (`sees`). If they are the same to all observers, either
can be turned into the other by exchanging neighbours of different lanes (`rearranged_of_filter_eq`).

So where such neighbours can be exchanged without a difference, the order across lanes makes none: the runs end in
the same state, and every lane has the same record (`Recorder.run_rearranged`).
-/

namespace HilBridge

variable {κ ι : Type}

/-! ## Lanes -/

section
variable [DecidableEq ι]

/-- Whether a call concerns a lane: it belongs to it, or to none. -/
def sees (lane? : κ → Option ι) (lane : ι) (call : κ) : Bool :=
  (lane? call).all (· = lane)

variable {lane? : κ → Option ι} {lane : ι} {call : κ}

theorem sees_of_none (h : lane? call = none) : sees lane? lane call = true := by
  rw [sees, h]
  rfl

theorem sees_of_some {i : ι} (h : lane? call = some i) : sees lane? lane call = decide (i = lane) := by
  rw [sees, h]
  rfl

/-- A call that does not concern a lane belongs to another one. -/
theorem exists_lane_of_not_sees (h : ¬ sees lane? lane call = true) : ∃ i, lane? call = some i ∧ i ≠ lane := by
  cases hcall : lane? call with
  | none => exact absurd (sees_of_none hcall) h
  | some i =>
    rw [sees_of_some hcall, decide_eq_true_iff] at h
    exact ⟨i, rfl, h⟩

end

/-- Two calls belong to different lanes. -/
def Apart (lane? : κ → Option ι) (x y : κ) : Prop :=
  ∃ i j, lane? x = some i ∧ lane? y = some j ∧ i ≠ j

theorem Apart.symm {lane? : κ → Option ι} {x y : κ} : Apart lane? x y → Apart lane? y x := by
  rintro ⟨i, j, hx, hy, hne⟩
  exact ⟨j, i, hy, hx, hne.symm⟩

/-! ## Rearranging -/

/-- Neighbours of different lanes were exchanged, any number of times. -/
inductive Rearranged (lane? : κ → Option ι) : List κ → List κ → Prop
  | refl (calls : List κ) : Rearranged lane? calls calls
  | cons (call : κ) {calls others : List κ} (rest : Rearranged lane? calls others) :
    Rearranged lane? (call :: calls) (call :: others)
  | exchange {x y : κ} (apart : Apart lane? x y) (calls : List κ) :
    Rearranged lane? (x :: y :: calls) (y :: x :: calls)
  | trans {first second third : List κ} (h : Rearranged lane? first second) (k : Rearranged lane? second third) :
    Rearranged lane? first third

namespace Rearranged

variable {lane? : κ → Option ι}

/-- A call is moved behind calls of other lanes. -/
theorem move (x : κ) {front : List κ} (hfront : ∀ y ∈ front, Apart lane? x y) (back : List κ) :
    Rearranged lane? (x :: (front ++ back)) (front ++ x :: back) := by
  induction front with
  | nil => exact .refl _
  | cons y front ih =>
    have hrest : ∀ y ∈ front, Apart lane? x y := fun y hy => hfront y (List.mem_cons_of_mem _ hy)
    exact .trans (.exchange (hfront y List.mem_cons_self) _) (.cons y (ih hrest))

end Rearranged

section
variable [DecidableEq ι] {lane? : κ → Option ι}

/-- A call that comes first to all observers has only calls of other lanes in front of it. -/
theorem exists_split_of_filter_eq [Nonempty ι] {x : κ} {xs ys : List κ}
    (h : ∀ lane, (x :: xs).filter (sees lane? lane) = ys.filter (sees lane? lane)) :
    ∃ front back, ys = front ++ x :: back ∧ ∀ y ∈ front, Apart lane? x y := by
  obtain ⟨lane, hsees⟩ : ∃ lane, sees lane? lane x = true := by
    cases hx : lane? x with
    | none => exact ⟨Classical.arbitrary ι, sees_of_none hx⟩
    | some i => exact ⟨i, by rw [sees_of_some hx, decide_eq_true rfl]⟩
  have hlane := (h lane).symm
  rw [List.filter_cons_of_pos hsees] at hlane
  obtain ⟨front, back, hys, hfront, -, -⟩ := List.filter_eq_cons_iff.mp hlane
  refine ⟨front, back, hys, fun y hy => ?_⟩
  obtain ⟨j, hj, hne⟩ := exists_lane_of_not_sees (hfront y hy)
  cases hx : lane? x with
  | some i =>
    rw [sees_of_some hx, decide_eq_true_iff] at hsees
    exact ⟨i, j, hx, hj, fun hij => hne (hij.symm.trans hsees)⟩
  | none =>
    -- the first call of another lane would come before `x` to the observer of that lane
    obtain ⟨first, rest, rfl⟩ := List.exists_cons_of_ne_nil (List.ne_nil_of_mem hy)
    obtain ⟨i, hi, -⟩ := exists_lane_of_not_sees (hfront first List.mem_cons_self)
    have hother := h i
    rw [hys, List.cons_append, List.filter_cons_of_pos (sees_of_none hx),
      List.filter_cons_of_pos (by rw [sees_of_some hi, decide_eq_true rfl])] at hother
    rw [← (List.cons.inj hother).1, hx] at hi
    cases hi

/-- Sequences that are the same to the observers of all lanes differ by exchanges. -/
theorem rearranged_of_filter_eq [Nonempty ι] {xs ys : List κ}
    (h : ∀ lane, xs.filter (sees lane? lane) = ys.filter (sees lane? lane)) : Rearranged lane? xs ys := by
  induction xs generalizing ys with
  | nil =>
    cases ys with
    | nil => exact .refl _
    | cons y ys =>
      obtain ⟨front, back, hnil, -⟩ := exists_split_of_filter_eq fun lane => (h lane).symm
      cases front <;> cases hnil
  | cons x xs ih =>
    obtain ⟨front, back, rfl, hfront⟩ := exists_split_of_filter_eq h
    refine .trans (.cons x (ih fun lane => ?_)) (.move x hfront back)
    have hlane := h lane
    rw [List.filter_append] at hlane ⊢
    by_cases hsees : sees lane? lane x = true
    · -- what stands in front does not show in a lane in which `x` does
      have hnone : front.filter (sees lane? lane) = [] := by
        refine List.filter_eq_nil_iff.mpr fun y hy => ?_
        obtain ⟨i, j, hi, hj, hne⟩ := hfront y hy
        rw [sees_of_some hi, decide_eq_true_iff] at hsees
        rw [sees_of_some hj, decide_eq_true_iff]
        exact fun hj => hne (hsees.trans hj.symm)
      rw [hnone, List.filter_cons_of_pos hsees, List.filter_cons_of_pos hsees] at hlane
      rw [hnone]
      exact (List.cons.inj hlane).2
    · rw [List.filter_cons_of_neg hsees, List.filter_cons_of_neg hsees] at hlane
      exact hlane

end

/-! ## Runs -/

namespace Recorder

variable {σ ρ : Type}

/-- Runs with every call and what it returned. -/
def answering (apply : σ → κ → σ) (answer : σ → κ → ρ) : Recorder σ κ (κ × ρ) :=
  ⟨apply, fun s call => [(call, answer s call)]⟩

variable [DecidableEq ι] {lane? : κ → Option ι} {apply : σ → κ → σ} {answer : σ → κ → ρ}

/--
Where neighbours of different lanes can be exchanged, rearranged calls lead to the same state, and to each lane they
return the same.
-/
theorem run_rearranged
    (hstate : ∀ s x y, Apart lane? x y → apply (apply s x) y = apply (apply s y) x)
    (hanswer : ∀ s x y, Apart lane? x y → answer (apply s x) y = answer s y) {xs ys : List κ}
    (h : Rearranged lane? xs ys) (s : σ) :
    ((answering apply answer).run s xs).1 = ((answering apply answer).run s ys).1
      ∧ ∀ lane, ((answering apply answer).run s xs).2.filter (fun r => sees lane? lane r.1)
        = ((answering apply answer).run s ys).2.filter fun r => sees lane? lane r.1 := by
  induction h generalizing s with
  | refl calls => exact ⟨rfl, fun _ => rfl⟩
  | trans _ _ ih ih' => exact ⟨(ih s).1.trans (ih' s).1, fun lane => ((ih s).2 lane).trans ((ih' s).2 lane)⟩
  | cons call rest ih =>
    obtain ⟨hend, hrecord⟩ := ih (apply s call)
    rw [run_cons, run_cons]
    refine ⟨hend, fun lane => ?_⟩
    rw [List.filter_append, List.filter_append]
    exact congrArg _ (hrecord lane)
  | @exchange x y apart calls =>
    have hfirst : answer (apply s y) x = answer s x := hanswer s y x apart.symm
    simp only [run_cons]
    show ((answering apply answer).run (apply (apply s x) y) calls).1
        = ((answering apply answer).run (apply (apply s y) x) calls).1 ∧ _
    rw [hstate s x y apart]
    refine ⟨rfl, fun lane => ?_⟩
    show List.filter _ ((x, answer s x) :: (y, answer (apply s x) y)
          :: ((answering apply answer).run (apply (apply s x) y) calls).2)
        = List.filter _ ((y, answer s y) :: (x, answer (apply s y) x)
          :: ((answering apply answer).run (apply (apply s y) x) calls).2)
    rw [hstate s x y apart, hanswer s x y apart, hfirst]
    -- at most one of the two concerns the lane
    obtain ⟨i, j, hi, hj, hne⟩ := apart
    by_cases hx : sees lane? lane x = true
    · have hy : ¬ sees lane? lane y = true := by
        rw [sees_of_some hi, decide_eq_true_iff] at hx
        rw [sees_of_some hj, decide_eq_true_iff]
        exact fun hy => hne (hx.trans hy.symm)
      simp [hx, hy]
    · simp [List.filter_cons, hx]

end Recorder

end HilBridge
