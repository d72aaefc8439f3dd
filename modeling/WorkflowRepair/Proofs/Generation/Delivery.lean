import Mathlib.Data.List.Permutation
import WorkflowRepair.Generation
import WorkflowRepair.Proofs.Generation.Telling
import WorkflowRepair.Proofs.Repair.Writable

/-!
What a generation delivers. A verdict accepts only a workflow in which nothing is found and which
its own document gives back; of all events that a run tells only a result delivers a workflow, and
a result is told only of an accepted outcome, on whichever attempt it came.
-/

namespace WorkflowRepair

/-- Nothing is found in what a result delivers. -/
def Event.Valid (v : Validator) (event : Event) : Prop :=
  event.kind = .result →
    v.reportRaw (Members.getD event.payload "nodes") (Members.getD event.payload "edges") = .ok ⟨[]⟩

/-- What is accepted holds a workflow that can be written and in which nothing is found. -/
def AcceptanceOutcome.Valid (v : Validator) (o : AcceptanceOutcome) : Prop :=
  o.isAccepted = true →
    ∃ w, o.workflow = some w ∧ w.Writable ∧ v.reportOn w = .ok ⟨[]⟩

namespace Acceptance

variable {a : Acceptance} {o : AcceptanceOutcome}

theorem valid_of_judge {payload : Members} (h : a.judge payload = .ok o) :
    o.Valid a.fixer.validator := by
  intro accepted
  unfold judge at h
  cases read : Workflow.ofRaw (Members.getD payload "nodes") (Members.getD payload "edges") with
  | error e =>
    simp only [read] at h
    split at h
    · cases h
    · cases h
      cases accepted
  | ok w =>
    simp only [read] at h
    split at h
    · cases h
    · split at h
      · cases h
      · next fixed hfix =>
        cases h
        have valid : fixed.isValid = true := by
          by_cases valid : fixed.isValid = true
          · exact valid
          · simp [AcceptanceOutcome.isAccepted, valid] at accepted
        refine ⟨fixed.workflow, rfl, ?_, ?_⟩
        · exact Fixer.writable_of_fix hfix (Workflow.writable_of_ofRaw read)
        · rw [Fixer.reportOn_fix hfix, List.isEmpty_iff.1 valid]

theorem valid_of_judgeText {text : String} (h : a.judgeText text = .ok o) :
    o.Valid a.fixer.validator := by
  unfold judgeText at h
  split at h
  · cases h
    exact nofun
  · exact valid_of_judge h

end Acceptance

/-- The result that tells of an accepted outcome delivers a valid workflow. -/
theorem Event.valid_result {v : Validator} {o : AcceptanceOutcome} (h : o.Valid v)
    (accepted : o.isAccepted = true) : (Event.result o).Valid v := by
  intro _
  obtain ⟨w, given, writable, clean⟩ := h accepted
  have payload : (Event.result o).payload = ("title", .str o.title) :: w.toMembers := by
    rw [Event.result, AcceptanceOutcome.toMembers, given, Option.getD_some]
  have member (key : String) (other : "title" ≠ key) :
      Members.getD (Event.result o).payload key = Members.getD w.toMembers key := by
    rw [payload, Members.getD_cons, if_neg other]
  rw [member "nodes" (by decide), member "edges" (by decide), Validator.reportRaw,
    Workflow.ofRaw_toMembers writable]
  exact clean

theorem Event.valid_of_ne {v : Validator} {event : Event} (h : event.kind ≠ .result) :
    event.Valid v := fun result => absurd result h

namespace Generator

variable (g : Generator)

/-- A part of a run that tells nothing invalid and gives only such values. -/
abbrev Delivers {α : Type} (given : α → Prop) (part : Talk α) : Prop :=
  Talk.Keeps (Event.Valid g.acceptance.fixer.validator) given part

theorem delivers_one (event : Event) (h : event.kind ≠ .result) :
    g.Delivers (fun _ => True) (Talk.tell [event]) := by
  refine Talk.Keeps.tell fun other mem => Event.valid_of_ne ?_
  rw [Event.kind_of_mem_one mem]
  exact h

/-- What is told of attempts delivers nothing. -/
theorem delivers_of_tells {α : Type} {given : α → Prop} {part : Talk α}
    (h : Talk.Keeps Event.OfAttempt given part) : g.Delivers given part :=
  h.mono (fun _ told => Event.valid_of_ne (told.kind_ne _ nofun)) fun _ => id

theorem delivers_ask (call : Call) : g.Delivers (fun _ => True) (g.ask call) :=
  g.delivers_of_tells (g.tells_ask call)

/-- A verdict tells nothing invalid, and accepts only valid workflows. -/
theorem delivers_judge (text : String) :
    g.Delivers (AcceptanceOutcome.Valid g.acceptance.fixer.validator) (g.judge text) :=
  g.delivers_of_tells (g.tells_judge fun _ => Acceptance.valid_of_judgeText)

theorem delivers_plan (request : String) : g.Delivers (fun _ => True) (g.plan request) :=
  (g.preliminary_plan request).mono (fun _ told => Event.valid_of_ne (told.kind_ne _ (by decide)))
    fun _ => id

/-- What is accepted of the guided attempts is valid. -/
def GuidedEnd.Valid (v : Validator) : GuidedEnd → Prop
  | .accepted o => o.isAccepted = true ∧ o.Valid v
  | .exhausted _ => True

/-- Each guided attempt tells nothing invalid, and only a valid workflow ends them. -/
theorem delivers_guided (request : String) (plan : Option String) (left : Nat)
    (errors : List String) :
    g.Delivers (GuidedEnd.Valid g.acceptance.fixer.validator)
      (g.guided request plan left errors) :=
  g.delivers_of_tells (g.tells_guided (fun _ _ => Acceptance.valid_of_judgeText)
    (fun _ accepted valid => ⟨accepted, valid⟩) (fun _ => trivial) request plan left errors)

/-- The events that end a run, after what a verdict comes to. -/
theorem delivers_end {event : Event} (h : event.Valid g.acceptance.fixer.validator) :
    g.Delivers (fun _ => True) (Talk.tell [event, .done]) := by
  refine Talk.Keeps.tell fun other mem => ?_
  rcases List.mem_cons.1 mem with rfl | mem
  · exact h
  · rw [List.mem_singleton.1 mem]
    exact Event.valid_of_ne nofun

theorem valid_conclusion {v : Validator} {o : AcceptanceOutcome} (h : o.Valid v) :
    (conclusion o).Valid v := by
  unfold conclusion
  cases verdict : o.verdict with
  | accepted => exact Event.valid_result h (by rw [AcceptanceOutcome.isAccepted, verdict]; rfl)
  | missingJson => exact Event.valid_of_ne nofun
  | rejected => exact Event.valid_of_ne nofun

theorem delivers_constrained (request : String) (errors : List String) :
    g.Delivers (fun _ => True) (g.constrained request errors) := by
  refine (g.delivers_one (.fallback "generation" _) nofun).bind fun _ _ => ?_
  refine (g.delivers_ask _).bind fun heard _ => ?_
  by_cases failed : heard.failed = true
  · rw [if_pos failed]
    exact g.delivers_end (Event.valid_of_ne nofun)
  · rw [if_neg failed]
    exact (g.delivers_judge heard.text).bind fun o valid => g.delivers_end (valid_conclusion valid)

theorem delivers_generate (request : String) :
    g.Delivers (fun _ => True) (g.generate request) := by
  refine (g.delivers_plan request).bind fun plan _ => ?_
  refine (g.delivers_guided request plan _ []).bind fun outcome valid => ?_
  cases outcome with
  | accepted o => exact g.delivers_end (Event.valid_result valid.2 valid.1)
  | exhausted errors => exact g.delivers_constrained request errors

/-- A first answer that is accepted is delivered, when no plan is asked for. -/
theorem result_mem_events (request : String) {o : AcceptanceOutcome}
    (unplanned : g.policy.plans = false) (finished : (g.completion 0).ending = .finished)
    (judged : g.acceptance.judgeText (g.completion 0).text = .ok o)
    (accepted : o.isAccepted = true) : Event.result o ∈ (g.run request).events := by
  have planned : g.plan request = pure none := by simp [plan, unplanned]
  have guided : ∃ left, g.policy.attempts = left + 1 := by
    refine ⟨g.policy.attempts - 1, ?_⟩
    have least : 1 ≤ g.policy.attempts := Nat.le_max_left 1 _
    omega
  obtain ⟨left, attempts⟩ := guided
  have heard (call : Call) : ∃ rest, (g.ask call 0).result =
      .ok { text := (g.completion 0).text, plan := rest, failed := false } := by
    simp [ask, Heard.listen, finished, Heard.isFailure]
  have ended : (g.guided request none (left + 1) [] 0).result = .ok (.accepted o) := by
    obtain ⟨rest, heard⟩ := heard
      ⟨.guided, Prompt.generationMessage request none [], g.policy.guidedTemperature⟩
    have verdict (earlier : Nat) :
        (g.judge (g.completion 0).text earlier).result = .ok o := by
      simp [judge, judged]
    rw [Generator.guided, Talk.bind_of_ok heard]
    simp only [Bool.false_eq_true, if_false]
    rw [Talk.bind_of_ok (verdict _), if_pos accepted]
    rfl
  show Event.result o ∈ (g.generate request 0).events
  rw [generate, planned]
  refine Talk.mem_events_bind (a := none) rfl ?_
  refine Talk.mem_events_bind (a := .accepted o) (attempts ▸ ended) ?_
  rw [Run.mem_events]
  exact List.mem_cons_self

/-- No invalid workflow is delivered: nothing is found in what any result of a run tells of. -/
theorem reportRaw_of_result (request : String) (event : Event)
    (told : event ∈ (g.run request).events) (result : event.kind = .result) :
    g.acceptance.fixer.validator.reportRaw (Members.getD event.payload "nodes")
      (Members.getD event.payload "edges") = .ok ⟨[]⟩ :=
  (g.delivers_generate request).events 0 event told result

/-- A document with one input node. -/
def inputDocument : String := "\x7b\"nodes\": [\x7b\"id\": \"a\", \"type\": \"input\"\x7d]\x7d"

theorem payload?_inputDocument : Extraction.payload? Extraction.standardKey inputDocument =
    some [("nodes", .arr [.obj [("id", .str "a"), ("type", .str "input")]])] := by cbv

/-- A generation without a plan that is answered by the document. -/
def answeredByInput : Generator where
  acceptance := { fixer := { validator := {} } }
  policy := { plans := false }
  completion := fun _ => { pieces := [inputDocument] }

theorem reportRaw_of_result_answeredByInput :
    ∃ event ∈ (answeredByInput.run "").events, event.kind = .result ∧
      answeredByInput.acceptance.fixer.validator.reportRaw (Members.getD event.payload "nodes")
        (Members.getD event.payload "edges") = .ok ⟨[]⟩ := by
  have judged : ∃ o, answeredByInput.acceptance.judgeText inputDocument = .ok o ∧
      o.isAccepted = true := by
    have accepted : (answeredByInput.acceptance.judge
        [("nodes", .arr [.obj [("id", .str "a"), ("type", .str "input")]])]).toOption.map
          AcceptanceOutcome.isAccepted = some true := by decide +kernel
    rw [Acceptance.judgeText, show answeredByInput.acceptance.key = Extraction.standardKey from rfl,
      payload?_inputDocument]
    exact ok_of_toOption accepted
  obtain ⟨o, judged, accepted⟩ := judged
  have text : (answeredByInput.completion 0).text = inputDocument := String.empty_append
  have told := answeredByInput.result_mem_events "" rfl rfl (text ▸ judged) accepted
  exact ⟨.result o, told, rfl, answeredByInput.reportRaw_of_result "" _ told rfl⟩

end Generator

end WorkflowRepair
