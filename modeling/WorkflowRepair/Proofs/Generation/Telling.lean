import WorkflowRepair.Generation
import WorkflowRepair.Proofs.Generation.Talk

/-!
What is told while attempts are made: steps and thoughts of the answers, and reports and repairs of
the workflows in them. No other event comes from an attempt.
-/

namespace WorkflowRepair

theorem Event.kind_of_mem_one {event told : Event} (h : event ∈ [told]) :
    event.kind = told.kind := congrArg Event.kind (List.mem_singleton.1 h)

/-- What is told of the tags of an answer are steps and thoughts. -/
theorem Narration.kind_of_mem_tell {n : Narration} {tag : TagEvent} {event : Event}
    (h : event ∈ (n.tell tag).1) : event.kind = .step ∨ event.kind = .thinking := by
  cases tag with
  | opened name attributes =>
    simp only [tell] at h
    split at h
    · cases h
    · exact .inl (Event.kind_of_mem_one h)
  | content text =>
    simp only [tell] at h
    split at h
    · exact .inr (Event.kind_of_mem_one h)
    · split at h
      · exact .inl (Event.kind_of_mem_one h)
      · cases h
  | closed name =>
    simp only [tell] at h
    split at h
    · cases h
    · split at h
      · exact .inl (Event.kind_of_mem_one h)
      · cases h
  | endOfStream =>
    simp only [tell] at h
    split at h
    · exact .inl (Event.kind_of_mem_one h)
    · cases h

theorem Narration.kind_of_mem_tellAll {n : Narration} {tags : List TagEvent} {event : Event}
    (h : event ∈ (n.tellAll tags).1) : event.kind = .step ∨ event.kind = .thinking := by
  induction tags generalizing n with
  | nil => cases h
  | cons tag rest ih =>
    rcases List.mem_append.1 h with first | later
    · exact kind_of_mem_tell first
    · exact ih later

theorem Heard.kind_of_mem_interruption {phase : String} {ending : Completion.Ending}
    {event : Event} (h : event ∈ interruption phase ending) : event.kind = .step := by
  cases ending with
  | finished => cases h
  | timedOut => exact Event.kind_of_mem_one h
  | failed cause => exact Event.kind_of_mem_one h
  | broke cause => cases h

/-- What is told of an answer are steps and thoughts, however it ends. -/
theorem Heard.kind_of_mem_listen {phase : String} {answer : Completion.Answer} {event : Event}
    (h : event ∈ (listen phase answer).1) : event.kind = .step ∨ event.kind = .thinking := by
  simp only [listen] at h
  split at h
  · exact Narration.kind_of_mem_tellAll h
  · rcases List.mem_append.1 h with early | last
    · rcases List.mem_append.1 early with told | cut
      · exact Narration.kind_of_mem_tellAll told
      · exact .inl (kind_of_mem_interruption cut)
    · exact Narration.kind_of_mem_tellAll last

namespace Generator

theorem kind_of_mem_reportEvents {wanted : Bool} {report : Report} {event : Event}
    (h : event ∈ reportEvents wanted report) : event.kind = .validation := by
  unfold reportEvents at h
  split at h
  · exact Event.kind_of_mem_one h
  · cases h

theorem kind_of_mem_fixEvents {o : AcceptanceOutcome} {event : Event} (h : event ∈ fixEvents o) :
    event.kind = .validationFix := by
  simp only [fixEvents] at h
  split at h
  · exact Event.kind_of_mem_one h
  · split at h
    · cases h
    · exact Event.kind_of_mem_one h

/-- A verdict is told by a failed step, or by a report and a repair. -/
theorem kind_of_mem_verdictEvents {reports : Bool} {o : AcceptanceOutcome} {event : Event}
    (h : event ∈ verdictEvents reports o) :
    event.kind = .step ∨ event.kind = .validation ∨ event.kind = .validationFix := by
  have judged : event ∈ reportEvents reports o.report ++ fixEvents o →
      event.kind = .validation ∨ event.kind = .validationFix := by
    intro h
    rcases List.mem_append.1 h with h | h
    · exact .inl (kind_of_mem_reportEvents h)
    · exact .inr (kind_of_mem_fixEvents h)
  unfold verdictEvents at h
  split at h
  · exact .inl (Event.kind_of_mem_one h)
  · exact .inr (judged h)
  · exact .inr (judged h)

theorem kind_of_mem_retryEvents {left attempt : Nat} {what : String} {event : Event}
    (h : event ∈ retryEvents left attempt what) : event.kind = .step := by
  unfold retryEvents at h
  split at h
  · cases h
  · exact Event.kind_of_mem_one h

end Generator

/-- Events that are told of attempts. -/
def Event.OfAttempt (event : Event) : Prop :=
  event.kind ∈ [.step, .thinking, .validation, .validationFix]

theorem Event.OfAttempt.kind_ne {event : Event} (h : event.OfAttempt) (kind : EventKind)
    (other : kind ∉ [.step, .thinking, .validation, .validationFix]) : event.kind ≠ kind :=
  fun same => other (same ▸ h)

/-- Events that are told before an outcome. -/
def Event.Preliminary (event : Event) : Prop := event.kind ∉ [.result, .error, .done]

theorem Event.Preliminary.kind_ne {event : Event} (h : event.Preliminary) (kind : EventKind)
    (last : kind ∈ [.result, .error, .done]) : event.kind ≠ kind :=
  fun same => h (same ▸ last)

theorem Event.OfAttempt.preliminary {event : Event} (h : event.OfAttempt) : event.Preliminary := by
  intro last
  simp only [List.mem_cons, List.not_mem_nil, or_false] at last
  rcases last with same | same | same
  all_goals exact h.kind_ne _ (by decide) same

namespace Generator

theorem ofAttempt_of_mem_verdictEvents {reports : Bool} {outcome : AcceptanceOutcome}
    {event : Event} (h : event ∈ verdictEvents reports outcome) : event.OfAttempt := by
  rcases kind_of_mem_verdictEvents h with kind | kind | kind <;> simp [Event.OfAttempt, kind]

variable (g : Generator)

theorem tells_ask (call : Call) : Talk.Keeps Event.OfAttempt (fun _ => True) (g.ask call) := by
  refine ⟨fun earlier event mem => ?_, fun _ _ _ => trivial⟩
  rw [Run.mem_events] at mem
  simp only [ask, List.mem_cons, reduceCtorEq, false_or] at mem
  obtain ⟨other, told, same⟩ := List.mem_map.1 mem
  cases same
  rcases Heard.kind_of_mem_listen told with kind | kind <;> simp [Event.OfAttempt, kind]

theorem tells_judge {text : String} {given : AcceptanceOutcome → Prop}
    (h : ∀ outcome, g.acceptance.judgeText text = .ok outcome → given outcome) :
    Talk.Keeps Event.OfAttempt given (g.judge text) := by
  constructor
  · intro earlier event mem
    rw [Run.mem_events] at mem
    unfold judge at mem
    split at mem
    · cases mem
    · obtain ⟨other, told, same⟩ := List.mem_map.1 mem
      cases same
      exact ofAttempt_of_mem_verdictEvents told
  · intro earlier outcome result
    unfold judge at result
    split at result
    · cases result
    · next judged =>
      cases result
      exact h _ judged

theorem tells_retry (left attempt : Nat) (what : String) :
    Talk.Keeps Event.OfAttempt (fun _ => True) (Talk.tell (retryEvents left attempt what)) := by
  refine Talk.Keeps.tell fun event mem => ?_
  simp [Event.OfAttempt, kind_of_mem_retryEvents mem]

theorem tells_askPlan (request : String) (left : Nat) :
    Talk.Keeps Event.OfAttempt (fun _ => True) (g.askPlan request left) := by
  induction left with
  | zero => exact Talk.Keeps.pure trivial
  | succ left ih =>
    refine (g.tells_ask _).bind fun heard _ => ?_
    by_cases empty : heard.plan = ""
    · rw [if_pos empty]
      exact ih
    · rw [if_neg empty]
      exact Talk.Keeps.pure trivial

theorem preliminary_one (event : Event) (h : event.Preliminary) :
    Talk.Keeps Event.Preliminary (fun _ => True) (Talk.tell [event]) := by
  refine Talk.Keeps.tell fun other mem => ?_
  rw [List.mem_singleton.1 mem]
  exact h

/-- The planning comes to no outcome. -/
theorem preliminary_plan (request : String) :
    Talk.Keeps Event.Preliminary (fun _ => True) (g.plan request) := by
  unfold plan
  split
  · refine (preliminary_one .thinkingStart nofun).bind fun _ _ => ?_
    have attempts := (g.tells_askPlan request g.policy.attempts).mono
      (fun _ => Event.OfAttempt.preliminary) fun _ => id
    refine attempts.bind fun found _ => ?_
    refine (preliminary_one .thinkingEnd nofun).bind fun _ _ => ?_
    cases found with
    | none =>
      refine (preliminary_one (.fallback "plan" noPlan) nofun).bind fun _ _ => ?_
      exact Talk.Keeps.pure trivial
    | some text =>
      exact (preliminary_one (.plan text) nofun).bind fun _ _ => Talk.Keeps.pure trivial
  · exact Talk.Keeps.pure trivial

/-- Each guided attempt tells only of itself, and what an accepted one gives holds of the end. -/
theorem tells_guided {good : AcceptanceOutcome → Prop} {given : GuidedEnd → Prop}
    (judged : ∀ text outcome, g.acceptance.judgeText text = .ok outcome → good outcome)
    (accepted : ∀ outcome, outcome.isAccepted = true → good outcome → given (.accepted outcome))
    (exhausted : ∀ errors, given (.exhausted errors))
    (request : String) (plan : Option String) (left : Nat) (errors : List String) :
    Talk.Keeps Event.OfAttempt given (g.guided request plan left errors) := by
  induction left generalizing errors with
  | zero => exact Talk.Keeps.pure (exhausted errors)
  | succ left ih =>
    refine (g.tells_ask _).bind fun heard _ => ?_
    by_cases failed : heard.failed = true
    · rw [if_pos failed]
      exact (tells_retry _ _ _).bind fun _ _ => ih errors
    · rw [if_neg failed]
      refine (g.tells_judge (judged heard.text)).bind fun o is => ?_
      by_cases taken : o.isAccepted = true
      · rw [if_pos taken]
        exact Talk.Keeps.pure (accepted o taken is)
      · rw [if_neg taken]
        exact (tells_retry _ _ _).bind fun _ _ => ih o.summary

end Generator

end WorkflowRepair
