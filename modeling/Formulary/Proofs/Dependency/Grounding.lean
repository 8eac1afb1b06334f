import Formulary.Dependency.Search
import Formulary.Proofs.Outcome

/-!
# Graphs without cycles

A list of fields is **grounded** if each field in it depends only on fields further down. The search for
a cycle keeps such a list of the fields that it is done with, so when it finds no cycle it ends with a
grounded list of all fields (`exists_grounded`).

What groundedness is good for: among fields of a grounded list there is always one that depends on none
of the others (`Grounded.exists_free`).
-/

namespace Formulary.DependencyGraph

variable {g : DependencyGraph}

/-- Every field in the list depends only on fields further down in it, and none is listed twice. -/
def Grounded (g : DependencyGraph) : List String → Prop
  | [] => True
  | name :: earlier =>
    name ∉ earlier ∧ (∀ p ∈ g.precedents name, p ∈ earlier) ∧ g.Grounded earlier

/-- Among fields that are not all outside of a grounded list there is one that depends on none of them:
the one furthest down. -/
theorem Grounded.exists_free {done waiting : List String} (hgrounded : g.Grounded done)
    (hsome : ∃ name ∈ waiting, name ∈ done) :
    ∃ name ∈ waiting, ∀ p ∈ g.precedents name, p ∉ waiting := by
  induction done with
  | nil => simp at hsome
  | cons top earlier ih =>
    obtain ⟨-, hbelow, hearlier⟩ := hgrounded
    by_cases hlower : ∃ name ∈ waiting, name ∈ earlier
    · exact ih hearlier hlower
    · -- nothing further down is waiting, so it is `top`, whose precedents are all further down
      obtain ⟨name, hwaiting, hmem⟩ := hsome
      rcases List.mem_cons.mp hmem with rfl | hmem
      · exact ⟨name, hwaiting, fun p hp hpending => hlower ⟨p, hpending, hbelow p hp⟩⟩
      · exact absurd ⟨name, hwaiting, hmem⟩ hlower

/-- What holds of the fields that are done after some have been followed to the end. -/
structure Followed (g : DependencyGraph) (path done list done' : List String) : Prop where
  /-- They are grounded. -/
  grounded : g.Grounded done'
  /-- None that was done before is lost. -/
  kept : ∀ name ∈ done, name ∈ done'
  /-- None of the path is among them. -/
  clear : ∀ name ∈ path, name ∉ done'
  /-- All that were followed are among them. -/
  reached : ∀ name ∈ list, name ∈ g.names → name ∈ done'

/-- A search that comes upon no cycle leaves grounded fields behind. -/
theorem follow_followed (hclosed : ∀ a, ∀ b ∈ g.precedents a, b ∈ g.names)
    {path done list done' : List String} (h : g.follow path done list = .ok done')
    (hgrounded : g.Grounded done) (hclear : ∀ name ∈ path, name ∉ done) :
    g.Followed path done list done' := by
  induction path, done, list using follow.induct g generalizing done' with
  | case1 path done =>
    rw [follow] at h
    obtain rfl := Except.ok.inj h
    exact ⟨hgrounded, fun _ hmem => hmem, hclear, by simp⟩
  | case2 path done name rest hpath =>
    -- a cycle
    rw [follow, if_pos hpath] at h
    contradiction
  | case3 path done name rest hpath hdone ih =>
    -- `name` is done already
    rw [follow, if_neg hpath, if_pos hdone] at h
    have hrest := ih h hgrounded hclear
    exact ⟨hrest.grounded, hrest.kept, hrest.clear,
      List.forall_mem_cons.mpr ⟨fun _ => hrest.kept name hdone, hrest.reached⟩⟩
  | case4 path done name rest hpath hdone hknown cycle hcycle _ =>
    rw [follow, if_neg hpath, if_neg hdone, dif_pos hknown, hcycle] at h
    contradiction
  | case5 path done name rest hpath hdone hknown done₁ hdone₁ ihBelow ihRest =>
    rw [follow, if_neg hpath, if_neg hdone, dif_pos hknown, hdone₁] at h
    have hbelow := ihBelow hdone₁ hgrounded (List.forall_mem_cons.mpr ⟨hdone, hclear⟩)
    -- all that `name` depends on is done by now, and `name` itself is not: it goes on top
    have htop : g.Grounded (name :: done₁) :=
      ⟨hbelow.clear name List.mem_cons_self,
        fun p hp => hbelow.reached p hp (hclosed name p hp), hbelow.grounded⟩
    have hclear₁ : ∀ other ∈ path, other ∉ name :: done₁ := by
      intro other hother hmem
      rcases List.mem_cons.mp hmem with rfl | hmem
      · exact hpath hother
      · exact hbelow.clear other (List.mem_cons_of_mem _ hother) hmem
    have hrest := ihRest h htop hclear₁
    have hkept : ∀ other ∈ done, other ∈ done' := fun other hother =>
      hrest.kept other (List.mem_cons_of_mem _ (hbelow.kept other hother))
    exact ⟨hrest.grounded, hkept, hrest.clear,
      List.forall_mem_cons.mpr ⟨fun _ => hrest.kept name List.mem_cons_self, hrest.reached⟩⟩
  | case6 path done name rest hpath hdone hunknown ih =>
    -- `name` is no field
    rw [follow, if_neg hpath, if_neg hdone, dif_neg hunknown] at h
    have hrest := ih h hgrounded hclear
    exact ⟨hrest.grounded, hrest.kept, hrest.clear,
      List.forall_mem_cons.mpr ⟨fun hname => absurd ⟨hname, hpath⟩ hunknown, hrest.reached⟩⟩

/-- **A graph that passes the check has all its fields in a grounded list.** -/
theorem exists_grounded (hclosed : ∀ a, ∀ b ∈ g.precedents a, b ∈ g.names)
    (h : g.checkAcyclic = .ok ()) : ∃ done, g.Grounded done ∧ ∀ name ∈ g.names, name ∈ done := by
  rw [checkAcyclic] at h
  split at h
  · next done hfollow =>
    have hfollowed := follow_followed hclosed hfollow trivial (by simp)
    exact ⟨done, hfollowed.grounded, fun name hname => hfollowed.reached name hname hname⟩
  · contradiction

end Formulary.DependencyGraph
