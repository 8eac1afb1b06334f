import Formulary.Engine
import Formulary.Proofs.Evaluation.Agreement

/-!
# Records of evaluations replay

An engine with a trail takes a record of every evaluation. A record holds only those inputs that the
expression mentions, and an expression reads no others (`Context.evaluate_congr`), so a record has all that
is needed to repeat the evaluation: `Engine.auditRecord_replays`. What an evaluation returns and what it leaves
in the trail is `Engine.evaluate_recorded`; after many of them the trail holds their records, the latest
first (`Engine.trail_evaluateEach`).
-/

namespace Formulary

theorem Expression.contains_variableNames {e : Expression} {name : String} :
    e.variableNames.contains name = true ↔ name ∈ e.mentions :=
  List.contains_iff_mem.trans mem_variableNames

namespace Engine

variable {e : Engine} {data : FormData} {text : String}

/-- The recorded inputs are what the text mentions, and all of it that there is. -/
theorem get?_mentionedInputs (name : String) (value : Value) :
    (mentionedInputs (Expression.ofText e.limits text) data).get? name = some value ↔
      TextMentions e.limits text name ∧ data.get? name = some value := by
  cases hread : Expression.ofText e.limits text with
  | error fault => simp [mentionedInputs, TextMentions, hread]
  | ok expression =>
    have hmentions : TextMentions e.limits text name ↔ name ∈ expression.mentions := by
      simp [TextMentions, hread]
    rw [mentionedInputs, NameMap.get?_restrict, hmentions]
    split
    · next hname => simp [Expression.contains_variableNames.mp hname]
    · next hname => simp [mt Expression.contains_variableNames.mpr hname]

/-- Restricting the data once more to what the text mentions drops nothing. -/
theorem mentionedInputs_self (parsed : Except Fault Expression) :
    mentionedInputs parsed (mentionedInputs parsed data) = mentionedInputs parsed data := by
  cases parsed with
  | error fault => rfl
  | ok expression =>
    refine NameMap.ext_get? fun name => ?_
    rw [mentionedInputs, mentionedInputs, NameMap.get?_restrict, NameMap.get?_restrict]
    split <;> rfl

/-- An expression has the same value by the recorded inputs as by all data. -/
theorem evaluate_mentionedInputs (expression : Expression) :
    (e.context (mentionedInputs (.ok expression) data)).evaluate expression =
      (e.context data).evaluate expression := by
  have hsettings : Context.SameSettings (e.context (mentionedInputs (.ok expression) data))
      (e.context data) := ⟨⟨rfl, rfl⟩, rfl⟩
  refine Context.evaluate_congr hsettings expression fun name hname => ?_
  -- the engine's contexts have no local names, so a name stands for what the data give for it
  change (mentionedInputs (.ok expression) data).get? name = data.get? name
  rw [mentionedInputs, NameMap.get?_restrict, if_pos (Expression.contains_variableNames.mpr hname)]

/-- **A record replays**: the record of its own expression and inputs is that record again. -/
theorem auditRecord_replays (e : Engine) (data : FormData) (text : String) :
    e.auditRecord (e.auditRecord data text).inputs (e.auditRecord data text).expression =
      e.auditRecord data text := by
  simp only [auditRecord, AuditRecord.mk.injEq, true_and]
  refine ⟨mentionedInputs_self _, ?_⟩
  cases Expression.ofText e.limits text with
  | error fault => rfl
  | ok expression => exact evaluate_mentionedInputs expression

/-- A record does not depend on the trail that it goes to. -/
theorem auditRecord_trail (e : Engine) (trail? : Option AuditTrail) (data : FormData) (text : String) :
    { e with trail := trail? }.auditRecord data text = e.auditRecord data text := rfl

/-- **An evaluation leaves one record, which replays.** An engine that evaluates a text, readable or not,
by any data, with a trail that accepts records or reports a failure, takes down exactly one record. It has the
text, what the data give for the names that the text mentions and nothing else, and the outcome that is
returned. The outcome is the same with any other trail and without one, and evaluating the text of the
record by its inputs alone has that outcome again. -/
theorem evaluate_recorded (e : Engine) (trail : AuditTrail) (data : FormData) (text : String) :
    ∃ r : AuditRecord,
      { e with trail := some trail }.evaluate data text =
          (r.result, { e with trail := some { trail with records := r :: trail.records } }) ∧
        r.expression = text ∧
        (∀ name value, r.inputs.get? name = some value ↔
          TextMentions e.limits text name ∧ data.get? name = some value) ∧
        (∀ trail? : Option AuditTrail,
          ({ e with trail := trail? }.evaluate data text).1 = r.result) ∧
        ∀ trail? : Option AuditTrail,
          ({ e with trail := trail? }.evaluate r.inputs r.expression).1 = r.result := by
  -- the outcome is there before any trail is asked to take it down
  refine ⟨e.auditRecord data text, rfl, rfl, get?_mentionedInputs, ?_, ?_⟩
  · intro trail?
    exact congrArg AuditRecord.result (e.auditRecord_trail trail? data text)
  · intro trail?
    exact congrArg AuditRecord.result (e.auditRecord_replays data text)

/-! ### Many evaluations -/

/-- Evaluates texts by data, one after the other. -/
def evaluateEach (e : Engine) : List (FormData × String) → List (Except Fault Value) × Engine
  | [] => ([], e)
  | (data, text) :: rest =>
    let (outcome, e) := e.evaluate data text
    let (outcomes, e) := e.evaluateEach rest
    (outcome :: outcomes, e)

/-- **A trail is the history of the evaluations**: after any of them it holds their records, the latest first,
before what it held already; each has the outcome that was returned, and replays in the engine that is left. -/
theorem trail_evaluateEach (e : Engine) (trail : AuditTrail) (requests : List (FormData × String)) :
    ∃ records : List AuditRecord,
      { e with trail := some trail }.evaluateEach requests =
          (records.map AuditRecord.result,
            { e with trail := some { trail with records := records.reverse ++ trail.records } }) ∧
        records.map AuditRecord.expression = requests.map Prod.snd ∧
        ∀ r ∈ records, e.auditRecord r.inputs r.expression = r := by
  induction requests generalizing trail with
  | nil => exact ⟨[], rfl, rfl, by simp⟩
  | cons request rest ih =>
    obtain ⟨data, text⟩ := request
    -- the rest goes on with the trail to which the first record has been added
    let first := e.auditRecord data text
    obtain ⟨records, hrun, htexts, hreplay⟩ := ih { trail with records := first :: trail.records }
    refine ⟨first :: records, ?_, ?_, ?_⟩
    · have hfirst : { e with trail := some trail }.evaluate data text =
          (first.result, { e with trail := some { trail with records := first :: trail.records } }) := rfl
      rw [evaluateEach, hfirst]
      dsimp only
      rw [hrun, List.reverse_cons, List.append_assoc]
      rfl
    · rw [List.map_cons, List.map_cons, htexts]
      rfl
    · exact List.forall_mem_cons.mpr ⟨e.auditRecord_replays data text, hreplay⟩

end Engine

end Formulary
