import WorkflowRepair.Generation.Run

/-!
What is true of all events of a part of a run and of what the part gives. Parts that follow each
other are taken apart here once, so that a generation is looked at one part at a time.
-/

namespace WorkflowRepair

theorem Run.mem_events {α : Type} {run : Run α} {event : Event} :
    event ∈ run.events ↔ .event event ∈ run.steps := by
  rw [Run.events, List.mem_filterMap]
  constructor
  · rintro ⟨step, mem, told⟩
    cases step with
    | call made => cases told
    | event other =>
      cases told
      exact mem
  · intro mem
    exact ⟨.event event, mem, rfl⟩

/-! ### What has gone before -/

namespace Run

variable {α : Type}

/-- A run after some steps. -/
def after (steps : List RunStep) (run : Run α) : Run α := ⟨steps ++ run.steps, run.result⟩

@[simp] theorem steps_after (steps : List RunStep) (run : Run α) :
    (run.after steps).steps = steps ++ run.steps := rfl

@[simp] theorem result_after (steps : List RunStep) (run : Run α) :
    (run.after steps).result = run.result := rfl

@[simp] theorem calls_after (steps : List RunStep) (run : Run α) :
    (run.after steps).calls = steps.filterMap RunStep.call? ++ run.calls :=
  List.filterMap_append

theorem calls_after_steps {β : Type} (first : Run β) (run : Run α) :
    (run.after first.steps).calls = first.calls ++ run.calls := calls_after first.steps run

@[simp] theorem events_after (steps : List RunStep) (run : Run α) :
    (run.after steps).events = steps.filterMap RunStep.event? ++ run.events :=
  List.filterMap_append

theorem events_after_steps {β : Type} (first : Run β) (run : Run α) :
    (run.after first.steps).events = first.events ++ run.events := events_after first.steps run

theorem after_after (front steps : List RunStep) (run : Run α) :
    (run.after steps).after front = run.after (front ++ steps) := by
  simp [after]

end Run

@[simp] theorem RunStep.call?_call (made : Call) : (RunStep.call made).call? = some made := rfl

@[simp] theorem RunStep.call?_event (told : Event) : (RunStep.event told).call? = none := rfl

@[simp] theorem RunStep.event?_call (made : Call) : (RunStep.call made).event? = none := rfl

@[simp] theorem RunStep.event?_event (told : Event) : (RunStep.event told).event? = some told := rfl

@[simp] theorem filterMap_call?_map_event (events : List Event) :
    (events.map RunStep.event).filterMap RunStep.call? = [] := by
  simp [List.filterMap_map, Function.comp_def]

@[simp] theorem filterMap_event?_map_event (events : List Event) :
    (events.map RunStep.event).filterMap RunStep.event? = events := by
  simp [List.filterMap_map, Function.comp_def]

namespace Talk

variable {α β : Type} {told : Event → Prop} {given : α → Prop} {given' : β → Prop}

theorem bind_of_ok {first : Talk α} {next : α → Talk β} {earlier : Nat} {a : α}
    (gives : (first earlier).result = .ok a) :
    (first >>= next) earlier =
      (next a (earlier + (first earlier).calls.length)).after (first earlier).steps := by
  show andThen first next earlier = _
  simp only [andThen, gives]
  rfl

/-- Nothing follows a part that is stopped. -/
theorem bind_of_error {first : Talk α} {next : α → Talk β} {earlier : Nat} {fault : Fault}
    (stops : (first earlier).result = .error fault) :
    (first >>= next) earlier = ⟨(first earlier).steps, .error fault⟩ := by
  show andThen first next earlier = _
  simp only [andThen, stops]

theorem tell_bind (events : List Event) (next : Unit → Talk β) (earlier : Nat) :
    (tell events >>= next) earlier = (next () earlier).after (events.map .event) := by
  have calls : (tell events earlier).calls = [] := filterMap_call?_map_event events
  rw [bind_of_ok rfl, calls]
  rfl

/-- A part tells only such events and gives only such values, whatever was called before. -/
structure Keeps (told : Event → Prop) (given : α → Prop) (part : Talk α) : Prop where
  events : ∀ earlier, ∀ event ∈ (part earlier).events, told event
  result : ∀ earlier a, (part earlier).result = .ok a → given a

theorem Keeps.mono {told' : Event → Prop} {given'' : α → Prop} {part : Talk α}
    (h : Keeps told given part) (events : ∀ event, told event → told' event)
    (result : ∀ a, given a → given'' a) : Keeps told' given'' part :=
  ⟨fun earlier event mem => events event (h.events earlier event mem),
    fun earlier a same => result a (h.result earlier a same)⟩

theorem Keeps.pure {a : α} (h : given a) : Keeps told given (pure a) := by
  refine ⟨fun _ _ => nofun, fun _ b same => ?_⟩
  cases same
  exact h

theorem Keeps.tell {events : List Event} (h : ∀ event ∈ events, told event) :
    Keeps told (fun _ => True) (tell events) := by
  refine ⟨fun _ event mem => ?_, fun _ _ _ => trivial⟩
  rw [Run.mem_events] at mem
  obtain ⟨other, hother, same⟩ := List.mem_map.1 mem
  cases same
  exact h event hother

/-- Parts that follow each other keep what each of them keeps. -/
theorem Keeps.bind {first : Talk α} {next : α → Talk β} (h : Keeps told given first)
    (h' : ∀ a, given a → Keeps told given' (next a)) : Keeps told given' (first >>= next) := by
  constructor
  · intro earlier event mem
    cases result : (first earlier).result with
    | error fault =>
      rw [bind_of_error result] at mem
      exact h.events earlier event mem
    | ok a =>
      rw [bind_of_ok result, Run.events_after_steps, List.mem_append] at mem
      rcases mem with mem | mem
      · exact h.events earlier event mem
      · exact (h' a (h.result earlier a result)).events _ event mem
  · intro earlier b same
    cases result : (first earlier).result with
    | error fault =>
      rw [bind_of_error result] at same
      cases same
    | ok a =>
      rw [bind_of_ok result, Run.result_after] at same
      exact (h' a (h.result earlier a result)).result _ b same

theorem mem_events_bind {first : Talk α} {next : α → Talk β} {earlier : Nat} {a : α}
    {event : Event} (gives : (first earlier).result = .ok a)
    (later : event ∈ (next a (earlier + (first earlier).calls.length)).events) :
    event ∈ ((first >>= next) earlier).events := by
  rw [bind_of_ok gives, Run.events_after_steps]
  exact List.mem_append_right _ later

end Talk

end WorkflowRepair
