import WorkflowRepair.Http.Reply
import WorkflowRepair.Proofs.Generation.Telling

/-!
How a stream ends. A generation tells the last event when it ends, and at no time when a fault stops
it; so the stream has to add the last block after a fault only, and never has it twice.
-/

namespace WorkflowRepair

/-- The last event is told at the end of a run and nowhere before; a run that a fault stops does not
tell it. -/
def Run.Closes (run : Run Unit) : Prop :=
  match run.result with
  | .ok _ => ∃ front, run.events = front ++ [.done] ∧ ∀ event ∈ front, event.isTerminal = false
  | .error _ => ∀ event ∈ run.events, event.isTerminal = false

theorem Event.Preliminary.isTerminal {event : Event} (h : event.Preliminary) :
    event.isTerminal = false := by
  simpa [Event.isTerminal] using h.kind_ne .done (by decide)

/-- What closes a run closes it after preliminaries as well. -/
theorem Talk.closes_bind {α : Type} {given : α → Prop} {first : Talk α} {next : α → Talk Unit}
    (h : Keeps Event.Preliminary given first) (closes : ∀ a earlier, (next a earlier).Closes)
    (earlier : Nat) : ((first >>= next) earlier).Closes := by
  have quiet : ∀ event ∈ (first earlier).events, event.isTerminal = false :=
    fun event mem => (h.events earlier event mem).isTerminal
  cases result : (first earlier).result with
  | error fault =>
    rw [bind_of_error result]
    exact quiet
  | ok a =>
    rw [bind_of_ok result]
    have rest := closes a (earlier + (first earlier).calls.length)
    simp only [Run.Closes, Run.result_after, Run.events_after_steps] at rest ⊢
    split at rest
    · next ended =>
      obtain ⟨front, events, silent⟩ := rest
      refine ⟨(first earlier).events ++ front, by rw [events, List.append_assoc], ?_⟩
      exact List.forall_mem_append.2 ⟨quiet, silent⟩
    · next stopped => exact List.forall_mem_append.2 ⟨quiet, rest⟩

namespace Generator

variable (g : Generator)

theorem closes_end {event : Event} (h : event.isTerminal = false) (earlier : Nat) :
    (Talk.tell [event, .done] earlier).Closes :=
  ⟨[event], rfl, List.forall_mem_singleton.2 h⟩

theorem isTerminal_conclusion (outcome : AcceptanceOutcome) :
    (conclusion outcome).isTerminal = false := by
  unfold conclusion
  cases outcome.verdict <;> rfl

theorem preliminary_ask (call : Call) :
    Talk.Keeps Event.Preliminary (fun _ => True) (g.ask call) :=
  (g.tells_ask call).mono (fun _ => Event.OfAttempt.preliminary) fun _ => id

theorem preliminary_judge (text : String) :
    Talk.Keeps Event.Preliminary (fun _ => True) (g.judge text) :=
  (g.tells_judge fun _ _ => trivial).mono (fun _ => Event.OfAttempt.preliminary) fun _ => id

theorem preliminary_guided (request : String) (plan : Option String) (left : Nat)
    (errors : List String) :
    Talk.Keeps Event.Preliminary (fun _ => True) (g.guided request plan left errors) :=
  (g.tells_guided (fun _ _ _ => trivial) (fun _ _ _ => trivial) (fun _ => trivial) ..).mono
    (fun _ => Event.OfAttempt.preliminary) fun _ => id

theorem closes_constrained (request : String) (errors : List String) (earlier : Nat) :
    (g.constrained request errors earlier).Closes := by
  refine Talk.closes_bind (preliminary_one (.fallback "generation" _) nofun) (fun _ => ?_) earlier
  refine Talk.closes_bind (g.preliminary_ask _) fun heard => ?_
  by_cases failed : heard.failed = true
  · rw [if_pos failed]
    exact closes_end rfl
  · rw [if_neg failed]
    refine Talk.closes_bind (g.preliminary_judge heard.text) fun outcome => ?_
    exact closes_end (isTerminal_conclusion outcome)

/-- A generation tells the last event last or, when it is stopped, not at all. -/
theorem closes_generate (request : String) (earlier : Nat) :
    (g.generate request earlier).Closes := by
  refine Talk.closes_bind (g.preliminary_plan request) (fun plan => ?_) earlier
  refine Talk.closes_bind (g.preliminary_guided request plan _ []) fun guided => ?_
  cases guided with
  | accepted outcome => exact closes_end rfl
  | exhausted errors => exact g.closes_constrained request errors

end Generator

namespace Http

/-- Only the last event has the last block. -/
theorem block_ne_doneBlock {event : Event} (h : event.isTerminal = false) :
    event.block ≠ Event.doneBlock := by
  have first : event.block.toList.head? = some 'e' := by
    simp [Event.block, h, String.toList_append]
  intro same
  rw [same] at first
  exact absurd first (by decide)

theorem doneBlock_notMem_map {events : List Event}
    (quiet : ∀ event ∈ events, event.isTerminal = false) :
    Event.doneBlock ∉ events.map Event.block := by
  intro mem
  obtain ⟨event, here, same⟩ := List.mem_map.1 mem
  exact block_ne_doneBlock (quiet event here) same

theorem any_isTerminal_eq_false {events : List Event}
    (quiet : ∀ event ∈ events, event.isTerminal = false) :
    events.any Event.isTerminal = false :=
  List.any_eq_false.2 fun event mem => by simp [quiet event mem]

/-- A run that ends by itself makes up the whole stream. -/
theorem streamBlocks_of_ok {run : Run Unit} (closes : run.Closes) (ended : run.result = .ok ())
    (wording : Fault → String) :
    ∃ front, streamBlocks wording run = front ++ [Event.doneBlock] ∧ Event.doneBlock ∉ front := by
  rw [Run.Closes, ended] at closes
  obtain ⟨front, events, quiet⟩ := closes
  refine ⟨front.map Event.block, ?_, doneBlock_notMem_map quiet⟩
  have last : Event.done.block = Event.doneBlock := rfl
  have told : (front ++ [Event.done]).any Event.isTerminal = true :=
    List.any_eq_true.2 ⟨.done, by simp, rfl⟩
  simp [streamBlocks, ended, events, told, last]

/-- After a run that is stopped the stream tells the fault, and then the last block. -/
theorem streamBlocks_of_error {run : Run Unit} {fault : Fault} (closes : run.Closes)
    (stopped : run.result = .error fault) (wording : Fault → String) :
    streamBlocks wording run = run.events.map Event.block
      ++ [(Event.error (wording fault) []).block, Event.doneBlock] ∧
        Event.doneBlock ∉ run.events.map Event.block := by
  rw [Run.Closes, stopped] at closes
  refine ⟨?_, doneBlock_notMem_map closes⟩
  simp [streamBlocks, stopped, any_isTerminal_eq_false closes]

/-- The last block of a stream is its only last block, whatever the completion does and however a
fault is worded; when a fault stops the generation, an error is told just before. -/
theorem streamBlocks_generate (g : Generator) (request : String) (earlier : Nat)
    (wording : Fault → String) :
    ∃ front, streamBlocks wording (g.generate request earlier) = front ++ [Event.doneBlock] ∧
      Event.doneBlock ∉ front ∧
      ∀ fault, (g.generate request earlier).result = .error fault →
        ∃ told, front = told ++ [(Event.error (wording fault) []).block] := by
  have closes := g.closes_generate request earlier
  cases result : (g.generate request earlier).result with
  | ok value =>
    obtain ⟨front, blocks, once⟩ := streamBlocks_of_ok closes result wording
    exact ⟨front, blocks, once, nofun⟩
  | error fault =>
    obtain ⟨blocks, once⟩ := streamBlocks_of_error closes result wording
    refine ⟨(g.generate request earlier).events.map Event.block
      ++ [(Event.error (wording fault) []).block], ?_, ?_, ?_⟩
    · rw [blocks, List.append_assoc]
      rfl
    · have other : (Event.error (wording fault) []).block ≠ Event.doneBlock :=
        block_ne_doneBlock rfl
      simp [once, other.symm]
    · intro same stopped
      cases stopped
      exact ⟨_, rfl⟩

/-- A generation whose completion breaks off in the middle of a plan. -/
def brokenOff : Generator where
  acceptance := { fixer := { validator := {} } }
  policy := {}
  completion := fun _ => { pieces := ["<plan>first", " this"], ending := .broke "reset" }

theorem streamBlocks_generate_brokenOff :
    (brokenOff.generate "r" 0).result = .error (.completionBroke "reset") ∧
      ∃ told, streamBlocks serverError (brokenOff.generate "r" 0) =
        told ++ [(Event.error "Server error: reset" []).block] ++ [Event.doneBlock] ∧
          Event.doneBlock ∉ told := by
  have stopped : (brokenOff.generate "r" 0).result = .error (.completionBroke "reset") := by rfl
  obtain ⟨front, blocks, once, failure⟩ := streamBlocks_generate brokenOff "r" 0 serverError
  obtain ⟨told, rfl⟩ := failure _ stopped
  exact ⟨stopped, told, blocks, fun mem => once (List.mem_append_left _ mem)⟩

end Http

end WorkflowRepair
