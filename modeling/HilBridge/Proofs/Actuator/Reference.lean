import HilBridge.Actuator.Dispatcher
import HilBridge.Proofs.Config.Validity
import Mathlib.Data.List.Induction

/-!
# `HilBridge.Proofs.Actuator.Reference` — a dispatcher has no memory but the last command

A dispatcher is an object with a history: commands change it one after another, some are refused, and what it
publishes is put together by a walk over its channels. `Config.reference` says without any of this what is
published: every channel belongs to one path once and for all, and its value is read off the last command that
had any entries.

* `Channel.path` and `Config.assigned` are the layout. It is a matter of the configuration alone.
* `Channel.output` is the value of one channel, from the armed flag and one entry.
* `Dispatcher.Follows` is the invariant of a run: what the dispatcher remembers is the last command.

**Main statement.** `applyAll_refines_reference`: a dispatcher with a valid configuration publishes the reference
after every sequence of commands. So nothing that happened before the last command shows, channels do not
influence each other, and nothing moves while the vehicle is disarmed.
-/

namespace HilBridge

variable {α : Type}

/-! ## The layout -/

/-- The three lists in which the outputs of channels are published. -/
inductive Path where
  | motor
  | servo
  | external
  deriving Repr, DecidableEq

/-- Where a channel is published, given the controllers outside. -/
def Channel.path (e : ExternalControllers) (ch : Channel α) : Path :=
  if e.handles ch.role then .external
  else
    match ch.control with
    | .motor => .motor
    | .servo => .servo
    | .passThrough => .external

namespace Channel

/-- Controllers outside have the channels that are passed through, and those whose role they drive. -/
theorem path_eq_external_iff {e : ExternalControllers} {ch : Channel α} :
    ch.path e = .external ↔ ch.control = .passThrough ∨ e.handles ch.role = true := by
  unfold path
  cases e.handles ch.role <;> cases ch.control <;> simp

/-- A channel that no controller outside drives is where its type says. -/
theorem path_of_inside {e : ExternalControllers} {ch : Channel α} (h : ch.path e ≠ .external) :
    (ch.path e = .motor ∧ ch.control = .motor) ∨ (ch.path e = .servo ∧ ch.control = .servo) := by
  unfold path at h ⊢
  split at h
  · exact absurd rfl h
  · rename_i hunhandled
    rw [if_neg hunhandled]
    cases hcontrol : ch.control with
    | motor => exact .inl ⟨rfl, rfl⟩
    | servo => exact .inr ⟨rfl, rfl⟩
    | passThrough =>
      rw [hcontrol] at h
      exact absurd rfl h

end Channel

/-- The channels of a path among some with their positions. -/
def onPath (e : ExternalControllers) (path : Path) (placed : List (Channel α × Nat)) : List (Channel α × Nat) :=
  placed.filter fun (ch, _) => ch.path e = path

theorem onPath_cons (e : ExternalControllers) (path : Path) (placed : List (Channel α × Nat)) (ch : Channel α)
    (position : Nat) :
    onPath e path ((ch, position) :: placed)
      = if ch.path e = path then (ch, position) :: onPath e path placed else onPath e path placed := by
  simp only [onPath, List.filter_cons, decide_eq_true_eq]

theorem onPath_concat (e : ExternalControllers) (path : Path) (placed : List (Channel α × Nat)) (ch : Channel α)
    (position : Nat) :
    onPath e path (placed ++ [(ch, position)])
      = onPath e path placed ++ if ch.path e = path then [(ch, position)] else [] := by
  have hlast : onPath e path [(ch, position)] = if ch.path e = path then [(ch, position)] else [] :=
    onPath_cons e path [] ch position
  rw [← hlast]
  exact List.filter_append ..

/-- Every channel is on one path, and on one only. -/
theorem onPath_perm (e : ExternalControllers) (placed : List (Channel α × Nat)) :
    (onPath e .motor placed ++ onPath e .servo placed ++ onPath e .external placed).Perm placed := by
  induction placed with
  | nil => exact .refl []
  | cons head rest ih =>
    obtain ⟨ch, position⟩ := head
    simp only [onPath_cons]
    -- the channel is at the front of the one list that takes it
    cases ch.path e with
    | motor =>
      simp only [reduceCtorEq, if_true, if_false]
      exact ih.cons _
    | servo =>
      simp only [reduceCtorEq, if_true, if_false, List.append_assoc] at ih ⊢
      exact List.perm_middle.trans (ih.cons _)
    | external =>
      simp only [reduceCtorEq, if_true, if_false]
      exact List.perm_middle.trans (ih.cons _)

/-- The outputs in which every channel has the value that is given for it. -/
def Outputs.arranged (e : ExternalControllers) (value : Path → Channel α → α) (placed : List (Channel α × Nat)) :
    Outputs α :=
  { motors := (onPath e .motor placed).map fun (ch, _) => value .motor ch
    servos := (onPath e .servo placed).map fun (ch, position) => ⟨position, value .servo ch⟩
    external := (onPath e .external placed).map fun (ch, position) => ⟨position, ch.role, value .external ch⟩
    wrench := none }

namespace Config

/-- The channels of a path with their positions, in their order. -/
def assigned (c : Config α) (path : Path) : List (Channel α × Nat) :=
  onPath c.externalControllers path c.channels.zipIdx

/-- The outputs of a vehicle: those of its channels, or thrust and torque of the whole. -/
def arrange (c : Config α) (wrench : ThrustTorque α → Wrench α) (value : Path → Channel α → α) : Outputs α :=
  match c.thrustTorque with
  | some t => { Outputs.empty with wrench := some (wrench t) }
  | none => .arranged c.externalControllers value c.channels.zipIdx

end Config

/-- The values that are published on a path, without the channels that they are for. -/
def Outputs.valuesOn (o : Outputs α) : Path → List α
  | .motor => o.motors
  | .servo => o.servos.map (·.position)
  | .external => o.external.map (·.normalized)

theorem Config.valuesOn_arrange {c : Config α} (h : c.thrustTorque = none) (wrench : ThrustTorque α → Wrench α)
    (value : Path → Channel α → α) (path : Path) :
    (c.arrange wrench value).valuesOn path = (c.assigned path).map fun (ch, _) => value path ch := by
  unfold Config.arrange
  rw [h]
  cases path with
  | motor => rfl
  | servo => exact List.map_map ..
  | external => exact List.map_map ..

/-! ## The last command -/

/-- The last of some commands that had any entries. -/
def lastAccepted (commands : List (Command α)) : Option (Command α) :=
  (commands.filter fun m => !m.controls.isEmpty).getLast?

/-- Whether the vehicle is armed by what was last commanded. -/
def armedBy (last : Option (Command α)) : Bool :=
  last.any (·.armed)

/-- What was last commanded at an index, whether it is a number or not. -/
def entryOf (last : Option (Command α)) (index : Nat) : Option α :=
  last.bind fun m => m.controls[index]?

/-- A command without entries is as if it had not come, any other is the last one. -/
theorem lastAccepted_concat (commands : List (Command α)) (m : Command α) :
    lastAccepted (commands ++ [m]) = if m.controls.isEmpty then lastAccepted commands else some m := by
  unfold lastAccepted
  by_cases hempty : m.controls.isEmpty = true
  · have hdropped : [m].filter (fun m => !m.controls.isEmpty) = [] := by simp [hempty]
    rw [if_pos hempty, List.filter_append, hdropped, List.append_nil]
  · have hkept : [m].filter (fun m => !m.controls.isEmpty) = [m] := by simp [hempty]
    rw [if_neg hempty, List.filter_append, hkept, List.getLast?_concat]

/-- One more command with entries takes the place of all earlier ones, however often it is repeated. -/
theorem lastAccepted_append_replicate (earlier : List (Command α)) {m : Command α} (h : m.controls ≠ [])
    (times : Nat) : lastAccepted (earlier ++ List.replicate (times + 1) m) = some m := by
  have hnonempty : ¬ m.controls.isEmpty = true := by simpa using h
  rw [List.replicate_succ', ← List.append_assoc, lastAccepted_concat, if_neg hnonempty]

variable [Scalar α]

/-! ## Values -/

/-- A function of an entry where it counts and all numbers are finite, else the value at rest. -/
def usable (armed : Bool) (entry : Option α) (f : α → α) (rest : α) : α :=
  match entry with
  | some u => if armed && Scalar.isFinite u && Scalar.isFinite (f u) then f u else rest
  | none => rest

theorem usable_disarmed (entry : Option α) (f : α → α) (rest : α) : usable false entry f rest = rest := by
  cases entry <;> rfl

namespace Channel

/-- What a channel makes of its entry. Controllers outside get a normalized command, without any scaling. -/
def response (ch : Channel α) : Path → α → α
  | .external, u => Scalar.clamp (-1.0) 1.0 (u + ch.inputOffset)
  | _, u => (u + ch.inputOffset) * ch.inputScaling + ch.zeroArmed

/-- The default of a channel, which it also has while the vehicle is disarmed. -/
def atRest (ch : Channel α) : Path → α
  | .external => Scalar.clamp (-1.0) 1.0 ch.zeroDisarmed
  | _ => ch.zeroDisarmed

/-- The value of a channel on a path. -/
def output (armed : Bool) (entry : Option α) (path : Path) (ch : Channel α) : α :=
  usable armed entry (ch.response path) (ch.atRest path)

/-- The value of a channel after the last command. -/
def commanded (last : Option (Command α)) (path : Path) (ch : Channel α) : α :=
  ch.output (armedBy last) (entryOf last ch.inputIndex) path

end Channel

/-- Thrust and torque: each is its entry times its scaling. -/
def ThrustTorque.output (armed : Bool) (entry : Nat → Option α) (t : ThrustTorque α) : Wrench α :=
  ⟨usable armed (entry t.thrustIndex) (· * t.thrustScaling) 0.0,
   usable armed (entry t.torqueIndex) (· * t.torqueScaling) 0.0⟩

namespace Config

/-- What is published after a command, or without one. -/
def reference (c : Config α) (last : Option (Command α)) : Outputs α :=
  c.arrange (fun t => t.output (armedBy last) (entryOf last)) (Channel.commanded last)

/-- What is published while the vehicle is disarmed. -/
def disarmedOutputs (c : Config α) : Outputs α :=
  c.arrange (fun _ => ⟨0.0, 0.0⟩) (fun path ch => ch.atRest path)

theorem reference_of_disarmed (c : Config α) {last : Option (Command α)} (h : armedBy last = false) :
    c.reference last = c.disarmedOutputs := by
  have hchannel : Channel.commanded last = fun path ch => ch.atRest path := by
    funext path ch
    rw [Channel.commanded, h]
    exact usable_disarmed ..
  have hwhole : (fun t : ThrustTorque α => t.output (armedBy last) (entryOf last)) = fun _ => ⟨0.0, 0.0⟩ := by
    funext t
    rw [ThrustTorque.output, h, usable_disarmed, usable_disarmed]
  rw [reference, hchannel, hwhole]
  rfl

omit [Scalar α] in
/-- Positions go up along a path. -/
theorem positions_assigned (c : Config α) (path : Path) :
    ((c.assigned path).map Prod.snd).Pairwise (· < ·) := by
  have hall : (c.channels.zipIdx.map Prod.snd).Pairwise (· < ·) := by
    rw [List.zipIdx_map_snd]
    exact List.pairwise_lt_range'
  have hpath : (c.assigned path).Sublist c.channels.zipIdx := List.filter_sublist
  exact hall.sublist (hpath.map Prod.snd)

end Config

/-! ## The dispatcher -/

namespace Dispatcher

/-- The dispatcher after some commands. -/
def applyAll (d : Dispatcher α) (commands : List (Command α)) : Dispatcher α :=
  commands.foldl (fun d m => (d.apply m).2) d

/-- What a dispatcher publishes after some commands. -/
def outputsAfter (d : Dispatcher α) (commands : List (Command α)) : Outputs α :=
  (d.applyAll commands).outputs

/-- All that a dispatcher remembers is its configuration and the last command. -/
structure Follows (c : Config α) (last : Option (Command α)) (d : Dispatcher α) : Prop where
  channels : d.channels = c.channels
  thrustTorque : d.thrustTorque = c.thrustTorque
  externalControllers : d.externalControllers = c.externalControllers
  isActive : d.isActive = armedBy last
  controls : ∀ index : Nat, d.controls[index]? = entryOf last index

variable {c : Config α} {last : Option (Command α)} {d : Dispatcher α}

theorem exists_new (h : c.validate = .ok ()) : ∃ d, Dispatcher.new c = .ok d ∧ d.Follows c none := by
  refine ⟨_, bind_eq_ok_iff.mpr ⟨h, rfl⟩, ?_⟩
  exact ⟨rfl, rfl, rfl, rfl, fun _ => rfl⟩

theorem Follows.apply (h : d.Follows c last) (m : Command α) :
    (d.apply m).2.Follows c (if m.controls.isEmpty then last else some m) := by
  unfold Dispatcher.apply
  split
  · -- only the statistics change
    exact ⟨h.channels, h.thrustTorque, h.externalControllers, h.isActive, h.controls⟩
  · exact ⟨h.channels, h.thrustTorque, h.externalControllers, rfl, fun _ => rfl⟩

theorem Follows.applyAll (h : d.Follows c none) (commands : List (Command α)) :
    (d.applyAll commands).Follows c (lastAccepted commands) := by
  induction commands using List.reverseRecOn with
  | nil => exact h
  | append_singleton front m ih =>
    have hstep : d.applyAll (front ++ [m]) = ((d.applyAll front).apply m).2 := by
      rw [Dispatcher.applyAll, List.foldl_append]
      rfl
    rw [hstep, lastAccepted_concat]
    exact ih.apply m

/-! ### Targets -/

/-- The two filters of a target are the conditions of a usable value. -/
theorem getD_finite? (entry : Option α) (f : α → α) (rest : α) :
    ((entry.bind finite?).bind fun u => finite? (f u)).getD rest = usable true entry f rest := by
  cases entry with
  | none => rfl
  | some u =>
    cases hu : Scalar.isFinite u
    · simp [usable, finite?, hu]
    · cases hf : Scalar.isFinite (f u) <;> simp [usable, finite?, hu, hf]

/-- A value that is at rest without an armed vehicle. -/
theorem Follows.usable_eq (h : d.Follows c last) (index : Nat) (f : α → α) (rest : α) :
    usable (armedBy last) (entryOf last index) f rest
      = if d.isActive then ((d.entry? index).bind fun u => finite? (f u)).getD rest else rest := by
  rw [h.isActive]
  cases armedBy last with
  | false => exact usable_disarmed _ _ _
  | true =>
    rw [if_pos rfl, entry?, getD_finite?, h.controls]

theorem Follows.target_eq (h : d.Follows c last) (ch : Channel α) (path : Path) (hpath : path ≠ .external) :
    d.target ch = Channel.commanded last path ch := by
  unfold Channel.commanded Channel.output
  rw [h.usable_eq]
  cases path with
  | motor => rfl
  | servo => rfl
  | external => exact absurd rfl hpath

theorem Follows.normalizedTarget_eq (h : d.Follows c last) (ch : Channel α) :
    d.normalizedTarget ch = Channel.commanded last .external ch := by
  unfold Channel.commanded Channel.output
  rw [h.usable_eq]
  rfl

theorem Follows.wrench_eq (h : d.Follows c last) (t : ThrustTorque α) :
    d.wrench t = t.output (armedBy last) (entryOf last) := by
  unfold ThrustTorque.output wrench scaledEntry
  rw [h.usable_eq, h.usable_eq]
  split <;> rfl

/-! ### Routing -/

omit [Scalar α] in
theorem Follows.isExternal_iff (h : d.Follows c last) (ch : Channel α) :
    d.isExternal ch = true ↔ ch.path c.externalControllers = .external := by
  rw [Channel.path_eq_external_iff, isExternal, h.externalControllers, Bool.or_eq_true, beq_iff_eq]

/-- One more channel is put at the end of its path. -/
theorem Follows.route_eq (h : d.Follows c last) (placed : List (Channel α × Nat)) (ch : Channel α)
    (position : Nat) :
    d.route (.arranged c.externalControllers (Channel.commanded last) placed) ch position
      = .arranged c.externalControllers (Channel.commanded last) (placed ++ [(ch, position)]) := by
  unfold route
  by_cases hexternal : ch.path c.externalControllers = .external
  · rw [if_pos ((h.isExternal_iff ch).mpr hexternal), h.normalizedTarget_eq]
    simp [Outputs.arranged, onPath_concat, hexternal]
  · rw [if_neg fun houtside => hexternal ((h.isExternal_iff ch).mp houtside)]
    rcases Channel.path_of_inside hexternal with ⟨hpath, hcontrol⟩ | ⟨hpath, hcontrol⟩
    · rw [h.target_eq ch .motor nofun]
      simp [Outputs.arranged, onPath_concat, hpath, hcontrol]
    · rw [h.target_eq ch .servo nofun]
      simp [Outputs.arranged, onPath_concat, hpath, hcontrol]

/-- So the walk over the channels lists those of every path in their order. -/
theorem Follows.foldl_route (h : d.Follows c last) (placed : List (Channel α × Nat)) :
    placed.foldl (fun o (ch, position) => d.route o ch position) .empty
      = .arranged c.externalControllers (Channel.commanded last) placed := by
  induction placed using List.reverseRecOn with
  | nil => rfl
  | append_singleton front x ih =>
    rw [List.foldl_append, ih]
    exact h.route_eq front x.1 x.2

theorem Follows.outputs_eq (h : d.Follows c last) : d.outputs = c.reference last := by
  unfold outputs Config.reference Config.arrange
  rw [h.thrustTorque, h.channels]
  cases c.thrustTorque with
  | some t => simp only [h.wrench_eq t]
  | none => exact h.foldl_route c.channels.zipIdx

/-! ### The statement -/

/-- A valid configuration has a dispatcher, and it publishes the reference after every sequence of commands. -/
theorem exists_new_reference (h : c.validate = .ok ()) :
    ∃ d, Dispatcher.new c = .ok d
      ∧ ∀ commands : List (Command α), d.outputsAfter commands = c.reference (lastAccepted commands) := by
  obtain ⟨d, hnew, hfollows⟩ := exists_new h
  exact ⟨d, hnew, fun commands => (hfollows.applyAll commands).outputs_eq⟩

/--
**A dispatcher has no memory but the last command.** What it publishes is the reference of the last command that had
any entries. Thrust and torque of the whole vehicle stand alone; else every channel has one place, in the order of
the channels, and which path it is on is told by its type and its role. The value there follows from the armed flag
and the entry of the channel. So no refused, earlier or repeated command shows, and while the vehicle is disarmed
every output is its default.
-/
theorem applyAll_refines_reference (hvalid : c.validate = .ok ()) :
    ∃ d, Dispatcher.new c = .ok d ∧
      (∀ commands, d.outputsAfter commands = c.reference (lastAccepted commands))
      ∧ (c.thrustTorque.isSome = true → ∀ commands, ∃ wrench, d.outputsAfter commands = ⟨[], [], [], some wrench⟩)
      ∧ (c.thrustTorque = none →
          (c.assigned .motor ++ c.assigned .servo ++ c.assigned .external).Perm c.channels.zipIdx
          ∧ (∀ path, ((c.assigned path).map Prod.snd).Pairwise (· < ·))
          ∧ (∀ ch position, (ch, position) ∈ c.assigned .external ↔ (ch, position) ∈ c.channels.zipIdx
              ∧ (ch.control = .passThrough ∨ c.externalControllers.handles ch.role = true))
          ∧ (∀ commands, (d.outputsAfter commands).wrench = none))
      ∧ (∀ commands commands', armedBy (lastAccepted commands) = armedBy (lastAccepted commands') →
          ∀ (path : Path) (place : Nat) (ch : Channel α) (position : Nat),
            (c.assigned path)[place]? = some (ch, position) →
            entryOf (lastAccepted commands) ch.inputIndex = entryOf (lastAccepted commands') ch.inputIndex →
            ((d.outputsAfter commands).valuesOn path)[place]? = ((d.outputsAfter commands').valuesOn path)[place]?)
      ∧ (∀ commands m, m.controls = [] → d.outputsAfter (commands ++ [m]) = d.outputsAfter commands)
      ∧ (∀ earlier m times, m.controls ≠ [] →
          d.outputsAfter (earlier ++ List.replicate (times + 1) m) = d.outputsAfter [m])
      ∧ (∀ commands, armedBy (lastAccepted commands) = false → d.outputsAfter commands = c.disarmedOutputs) := by
  obtain ⟨d, hnew, hreference⟩ := exists_new_reference hvalid
  refine ⟨d, hnew, hreference, ?whole, ?layout, ?independent, ?refused, ?repeated, ?disarmed⟩
  case whole =>
    intro hsome commands
    obtain ⟨t, ht⟩ := Option.isSome_iff_exists.mp hsome
    refine ⟨t.output (armedBy (lastAccepted commands)) (entryOf (lastAccepted commands)), ?_⟩
    rw [hreference, Config.reference, Config.arrange, ht]
    rfl
  case layout =>
    intro hnone
    refine ⟨onPath_perm _ _, c.positions_assigned, fun ch position => ?_, fun commands => ?_⟩
    · unfold Config.assigned onPath
      rw [List.mem_filter, decide_eq_true_eq, Channel.path_eq_external_iff]
    · rw [hreference, Config.reference, Config.arrange, hnone]
      rfl
  case independent =>
    intro commands commands' harmed path place ch position hplace hentry
    rw [hreference, hreference]
    cases hmode : c.thrustTorque with
    | some t =>
      -- nothing is published on any path
      have hnothing (last : Option (Command α)) : (c.reference last).valuesOn path = [] := by
        rw [Config.reference, Config.arrange, hmode]
        cases path <;> rfl
      rw [hnothing, hnothing]
    | none =>
      have hvalue : Channel.commanded (lastAccepted commands) path ch
          = Channel.commanded (lastAccepted commands') path ch := by
        rw [Channel.commanded, Channel.commanded, harmed, hentry]
      rw [Config.reference, Config.reference, Config.valuesOn_arrange hmode, Config.valuesOn_arrange hmode,
        List.getElem?_map, List.getElem?_map, hplace, Option.map_some, Option.map_some]
      exact congrArg some hvalue
  case refused =>
    intro commands m hempty
    rw [hreference, hreference, lastAccepted_concat, if_pos (List.isEmpty_iff.mpr hempty)]
  case repeated =>
    intro earlier m times hentries
    have honce : lastAccepted [m] = some m := lastAccepted_append_replicate [] hentries 0
    rw [hreference, hreference, lastAccepted_append_replicate earlier hentries, honce]
  case disarmed =>
    intro commands hdisarmed
    rw [hreference, c.reference_of_disarmed hdisarmed]

/-- A rotor and a joint that is driven outside: a refused command does not change what the one before it asked for. -/
theorem refused_command_leaves_outputs :
    let c : Config Float :=
      { Config.default with
        channels := [.motor 0 100.0, { Channel.servo 1 1.0 with role := .elevator }]
        externalControllers := { ExternalControllers.none with elevator := true } }
    c.validate = .ok () ∧ ∃ d, Dispatcher.new c = .ok d
      ∧ d.outputsAfter [⟨0, [0.5, 3.0], true⟩, ⟨4000, [], false⟩]
          = ⟨[50.0], [], [⟨1, .elevator, 1.0⟩], none⟩ := by
  intro c
  have hvalid : c.validate = .ok () := eq_ok_of_toOption (by decide +kernel)
  obtain ⟨d, hnew, hreference, -⟩ := applyAll_refines_reference hvalid
  refine ⟨hvalid, d, hnew, (hreference _).trans ?_⟩
  decide +kernel

end Dispatcher

end HilBridge
