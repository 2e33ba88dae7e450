import AccountSidecar.Proofs.Running

/-!
# Histories

The operations of a run with the worlds between which each of them went, so that a statement about a
run can speak of what came earlier. What a run keeps is shown by `run_induction`: it holds at the
start, every operation keeps it, and it does not depend on the files, the clock and the failing
collaborators, which is all that may change between operations.
-/

namespace AccountSidecar

open Storage

/-- An operation of a run: the world that it started in, and what it came to. -/
structure Step where
  before : World
  operation : Operation
  result : Except Failure Reply
  after : World

/-- Carrying out an operation in a world. -/
def Operation.step (d : Deployment) (w : World) (op : Operation) : Step where
  before := w
  operation := op
  result := ((op.perform d).runIn w).1
  after := ((op.perform d).runIn w).2

/-- An operation without a value of its own comes to what its action comes to. -/
theorem Operation.step_of_reply {d : Deployment} {op : Operation} {a : Action Unit}
    {result : Except Failure Unit} {w w' : World} (performs : op.perform d = do a; pure Reply.done)
    (run : a.runIn w = (result, w')) :
    op.step d w = ⟨w, op, result.map fun _ => .done, w'⟩ := by
  unfold step
  rw [performs, runIn_reply, run]

/-- An operation without a value of its own that comes to its end has carried out its action. -/
theorem Operation.eq_ok_of_reply {d : Deployment} {w : World} {op : Operation} {a : Action Unit}
    {reply : Reply} (performs : op.perform d = do a; pure Reply.done)
    (ended : (op.step d w).result = .ok reply) : a.runIn w = (.ok (), (op.step d w).after) := by
  rcases run : a.runIn w with ⟨result, w'⟩
  rw [step_of_reply performs run] at ended ⊢
  obtain ⟨⟨⟩, rfl, -⟩ := exists_of_map_eq_ok ended
  rfl

/-- An operation with a value comes to what its action comes to. -/
theorem Operation.step_of_map {α : Type} {d : Deployment} {op : Operation} {a : Action α}
    {g : α → Reply} {result : Except Failure α} {w w' : World} (performs : op.perform d = g <$> a)
    (run : a.runIn w = (result, w')) : op.step d w = ⟨w, op, result.map g, w'⟩ := by
  unfold step
  rw [performs, Action.runIn_map, run]

/-- The operation of an event, if the event is one. -/
def Event.step? (d : Deployment) (w : World) : Event → Option Step
  | .operation op => some (op.step d w)
  | _ => none

/-- What an earlier operation did is still done after another one. -/
theorem Step.exists_later {earlier : List Step} {p : Step → Prop} (s : Step)
    (done : ∃ s ∈ earlier, p s) : ∃ s' ∈ earlier ++ [s], p s' := by
  obtain ⟨s', among, holds⟩ := done
  exact ⟨s', List.mem_append_left _ among, holds⟩

namespace World

/-- The operations of a run, oldest first. -/
def steps (d : Deployment) (w : World) : List Event → List Step
  | [] => []
  | e :: rest => (e.step? d w).toList ++ steps d (e.run d w).2 rest

/-- Each operation of a run was carried out in the world that it started in. -/
theorem eq_step_of_mem {d : Deployment} {w : World} {events : List Event} {s : Step}
    (among : s ∈ w.steps d events) : s = s.operation.step d s.before := by
  induction events generalizing w with
  | nil => cases among
  | cons e rest ih =>
    rcases List.mem_append.mp among with first | later
    · cases e with
      | operation op =>
        rw [List.mem_singleton.mp first]
        rfl
      | _ => cases first
    · exact ih later

/-- An operation of a run was carried out after the events of the operations before it. -/
theorem exists_events_before {d : Deployment} {w : World} {events : List Event}
    {earlier later : List Step} {s : Step} (split : w.steps d events = earlier ++ s :: later) :
    ∃ before, w.steps d before = earlier ∧ s = s.operation.step d (w.after d before) := by
  induction events generalizing w earlier with
  | nil => cases earlier <;> cases split
  | cons e rest ih =>
    cases e with
    | operation op =>
      cases earlier with
      | nil =>
        have first : op.step d w = s := (List.cons.inj split).1
        exact ⟨[], rfl, first ▸ rfl⟩
      | cons first earlier =>
        obtain ⟨own, others⟩ := List.cons.inj split
        obtain ⟨before, steps, reached⟩ := ih others
        refine ⟨.operation op :: before, ?_, reached⟩
        rw [← own, ← steps]
        rfl
    | clock seconds =>
      obtain ⟨before, steps, reached⟩ := ih split
      exact ⟨.clock seconds :: before, steps, reached⟩
    | failing c on =>
      obtain ⟨before, steps, reached⟩ := ih split
      exact ⟨.failing c on :: before, steps, reached⟩
    | files f =>
      obtain ⟨before, steps, reached⟩ := ih split
      exact ⟨.files f :: before, steps, reached⟩

/-- A run that starts with an operation goes on where the operation ended. -/
theorem after_operation (d : Deployment) (w : World) (op : Operation) (events : List Event) :
    w.after d (.operation op :: events) = (op.step d w).after.after d events := rfl

variable {d : Deployment} {motive : List Step → World → Prop}

/-- A run behind other operations keeps what operations keep and what does not depend on the
surroundings. -/
theorem run_induction_from
    (operation : ∀ earlier w (op : Operation), motive earlier w →
      motive (earlier ++ [op.step d w]) (op.step d w).after)
    (surroundings : ∀ earlier w files clock failing, motive earlier w →
      motive earlier { w with files, clock, failing })
    (events : List Event) {earlier : List Step} {w : World} (holds : motive earlier w) :
    motive (earlier ++ w.steps d events) (w.after d events) := by
  induction events generalizing earlier w with
  | nil => simpa [steps, after] using holds
  | cons e rest ih =>
    have next : motive (earlier ++ (e.step? d w).toList) (e.run d w).2 := by
      cases e with
      | operation op => exact operation earlier w op holds
      | clock seconds =>
        change motive (earlier ++ []) _
        rw [List.append_nil]
        exact surroundings earlier w w.files seconds w.failing holds
      | failing c on =>
        change motive (earlier ++ []) _
        rw [List.append_nil]
        exact surroundings earlier w w.files w.clock (w.setFailing c on).failing holds
      | files f =>
        change motive (earlier ++ []) _
        rw [List.append_nil]
        exact surroundings earlier w (f w.files) w.clock w.failing holds
    have whole := ih next
    rw [List.append_assoc] at whole
    exact whole

/-- A run from the start keeps what operations keep and what does not depend on the surroundings. -/
theorem run_induction {start : World} (initial : motive [] start)
    (operation : ∀ earlier w (op : Operation), motive earlier w →
      motive (earlier ++ [op.step d w]) (op.step d w).after)
    (surroundings : ∀ earlier w files clock failing, motive earlier w →
      motive earlier { w with files, clock, failing })
    (events : List Event) : motive (start.steps d events) (start.after d events) :=
  run_induction_from operation surroundings events initial

/-- What stays true through every operation and does not depend on the surroundings stays true
through every run. -/
theorem invariant_after (kept : World → Prop)
    (operation : ∀ w (op : Operation), kept w → kept (op.step d w).after)
    (surroundings : ∀ w files clock failing, kept w → kept { w with files, clock, failing })
    (events : List Event) {w : World} (holds : kept w) : kept (w.after d events) :=
  run_induction (motive := fun _ => kept) holds (fun _ => operation) (fun _ => surroundings) events

end World

end AccountSidecar
