import Formulary.Options.Resolver
import Formulary.Proofs.Evaluation.Agreement

/-!
# Options depend only on the names of the expression

What `Context.evaluate_congr` says of evaluation, said of the walk that may call providers: on data that
agree on the names that an expression mentions the walk makes the same calls and comes to the same
outcome (`OptionsRules.walk_congr`), and so the options are the same (`OptionsRules.options_congr`).
-/

namespace Formulary

namespace OptionsRules

variable {c d : Context}

mutual

/-- **The walk reads only what the expression mentions.** -/
theorem walk_congr (rules : OptionsRules) (h : Context.SameSettings c d) :
    ∀ e : Expression, (∀ name ∈ e.mentions, c.get? name = d.get? name) →
      rules.walk c e = rules.walk d e
  | .literal v, hagree => by
    rw [walk, walk, Context.evaluate_congr h (.literal v) hagree]
  | .var name, hagree => by
    rw [walk, walk, Context.evaluate_congr h (.var name) hagree]
  | .call function arguments, hagree => by
    rw [walk, walk, Context.evaluate_congr h (.call function arguments) hagree, h.resolve,
      walkAll_congr rules h arguments hagree, walkSelection_congr rules h arguments hagree]
    simp only [walkUntil_congr rules h _ _ _ arguments hagree, h.apply]

theorem walkAll_congr (rules : OptionsRules) (h : Context.SameSettings c d) :
    ∀ es : List Expression, (∀ name ∈ Expression.mentionsOfAll es, c.get? name = d.get? name) →
      rules.walkAll c es = rules.walkAll d es
  | [], _ => by rw [walkAll, walkAll]
  | e :: rest, hagree => by
    rw [Expression.mentionsOfAll, List.forall_mem_append] at hagree
    rw [walkAll, walkAll, walk_congr rules h e hagree.1, walkAll_congr rules h rest hagree.2]

theorem walkUntil_congr (rules : OptionsRules) (h : Context.SameSettings c d) (function : String)
    (stop : Bool) (position : Nat) :
    ∀ es : List Expression, (∀ name ∈ Expression.mentionsOfAll es, c.get? name = d.get? name) →
      rules.walkUntil c function stop position es = rules.walkUntil d function stop position es
  | [], _ => by rw [walkUntil, walkUntil]
  | e :: rest, hagree => by
    rw [Expression.mentionsOfAll, List.forall_mem_append] at hagree
    rw [walkUntil, walkUntil, walk_congr rules h e hagree.1,
      walkUntil_congr rules h function stop (position + 1) rest hagree.2]

theorem walkSelection_congr (rules : OptionsRules) (h : Context.SameSettings c d) :
    ∀ es : List Expression, (∀ name ∈ Expression.mentionsOfAll es, c.get? name = d.get? name) →
      rules.walkSelection c es = rules.walkSelection d es
  | [], _ => by rw [walkSelection, walkSelection]
  | [condition], hagree => by
    rw [Expression.mentionsOfAll, List.forall_mem_append] at hagree
    rw [walkSelection, walkSelection, walk_congr rules h condition hagree.1]
  | condition :: chosen :: others, hagree => by
    rw [Expression.mentionsOfAll, Expression.mentionsOfAll, List.forall_mem_append,
      List.forall_mem_append] at hagree
    obtain ⟨hcondition, hchosen, hothers⟩ := hagree
    rw [walkSelection, walkSelection, walk_congr rules h condition hcondition, walk_congr rules h chosen hchosen,
      walkFirst_congr rules h others hothers]

theorem walkFirst_congr (rules : OptionsRules) (h : Context.SameSettings c d) :
    ∀ es : List Expression, (∀ name ∈ Expression.mentionsOfAll es, c.get? name = d.get? name) →
      rules.walkFirst c es = rules.walkFirst d es
  | [], _ => by rw [walkFirst, walkFirst]
  | e :: _, hagree => by
    rw [Expression.mentionsOfAll, List.forall_mem_append] at hagree
    rw [walkFirst, walkFirst, walk_congr rules h e hagree.1]

end

/-- An expression yields the same options for data that agree on what it mentions. -/
theorem options_congr (rules : OptionsRules) {e : Expression} {data other : FormData}
    (hagree : ∀ name ∈ e.mentions, data.get? name = other.get? name) :
    rules.options e data = rules.options e other := by
  have hsettings : Context.SameSettings (rules.context data) (rules.context other) :=
    ⟨⟨rfl, rfl⟩, rfl⟩
  have hwalk : rules.walk (rules.context data) e = rules.walk (rules.context other) e := by
    refine walk_congr rules hsettings e fun name hname => ?_
    rw [Context.get?, Context.get?, context, context, hagree name hname]
  rw [options, options, hwalk]

end OptionsRules

end Formulary
