import ProfileOperator.Proofs.Reconcile.Inventory
import ProfileOperator.Proofs.Reconcile.World

/-!
# The books of a history

All that is measured is in the history of the calls, in the order in which it was measured.  The counters
say how often each measure was taken.  The measure of a profile says which one was taken last of the two
that there are: that a call has brought its PodDefaults into place, or that one has tidied up after it.
-/

namespace ProfileOperator

open Pass

variable {ι σ : Type}

/-! ### Counters -/

namespace Metrics.Registry

/-- The counters and the observations are as many as the measures of their kinds. -/
structure Counts (r : Registry Nat) (taken : Measure -> Nat) : Prop where
  reconciliations : (r.reconciliations.get? runKind).getD 0 = taken .started
  durations : ((r.durations.get? runKind).getD []).length = taken .ended
  errors : (r.errors.get? runKind).getD 0 = taken .failed

theorem Counts.take {r : Registry Nat} {taken : Measure -> Nat} (h : r.Counts taken)
    (what : Measure) : (r.take what).Counts fun other => taken other + [what].count other := by
  cases what with
  | started =>
      exact ⟨by simp [Registry.take, get?_increase, h.reconciliations], h.durations, h.errors⟩
  | ended =>
      exact ⟨h.reconciliations, by simp [Registry.take, get?_observe, h.durations], h.errors⟩
  | failed =>
      exact ⟨h.reconciliations, h.durations, by simp [Registry.take, get?_increase, h.errors]⟩
  | applied profile count => exact ⟨h.reconciliations, h.durations, h.errors⟩
  | unapplied profile => exact ⟨h.reconciliations, h.durations, h.errors⟩

theorem takeSteps_move (r : Registry Nat) (move : Move σ) :
    r.takeSteps move.step?.toList = move.measure?.elim r r.take := by
  rcases move with _ | (_ | _) | _ | _ <;> rfl

theorem get?_applied_elim (r : Registry Nat) {measure? : Option Measure} {name : String}
    (happlied : ∀ count, measure? ≠ some (.applied name count))
    (hunapplied : measure? ≠ some (.unapplied name)) :
    (measure?.elim r r.take).applied.get? name = r.applied.get? name := by
  cases measure? with
  | none => rfl
  | some what =>
      cases what with
      | applied profile count =>
          have hname : name ≠ profile := by
            rintro rfl
            exact happlied count rfl
          exact (Dict.get?_insert ..).trans (if_neg hname)
      | unapplied profile =>
          have hname : name ≠ profile := by
            rintro rfl
            exact hunapplied rfl
          exact (Dict.get?_erase ..).trans (if_neg hname)
      | _ => rfl

end Metrics.Registry

namespace Move

def isStart : Move σ -> Bool
  | .started => true
  | _ => false

def fails : Move σ -> Bool
  | .ended (.error _) => true
  | _ => false

end Move

namespace Record

/-- The registry once everything that has happened is measured. -/
def registry : List (Record ι σ) -> Metrics.Registry Nat
  | [] => .fresh 1
  | record :: older => (registry older).takeSteps record.move.step?.toList

def made (history : List (Record ι σ)) : Nat :=
  history.countP fun record => record.move.isStart

def ended (history : List (Record ι σ)) : Nat :=
  history.countP fun record => record.move.result?.isSome

def failed (history : List (Record ι σ)) : Nat :=
  history.countP fun record => record.move.fails

/-- How often a measure was taken. -/
def tally (history : List (Record ι σ)) (what : Measure) : Nat :=
  history.countP fun record => record.move.measure? == some what

theorem counts_registry (history : List (Record ι σ)) :
    (registry history).Counts (tally history) := by
  induction history with
  | nil => exact ⟨rfl, rfl, rfl⟩
  | cons record older ih =>
      rw [registry, Metrics.Registry.takeSteps_move]
      cases hmeasure : record.move.measure? with
      | none =>
          have htally : tally (record :: older) = tally older := by
            funext what
            simp [tally, hmeasure]
          rw [htally]
          exact ih
      | some measure =>
          have htally : tally (record :: older) =
              fun what => tally older what + [measure].count what := by
            funext what
            simp only [tally, List.countP_cons, hmeasure, List.count_singleton]
            rfl
          rw [htally]
          exact ih.take measure

variable [DecidableEq ι]

theorem countP_moves (i : ι) (q : Move σ -> Bool) (history : List (Record ι σ)) :
    (moves i history).countP q =
      ((history.filter fun record => q record.move).map Record.id).count i := by
  rw [moves, List.countP_reverse, List.countP_map, List.countP_filter, List.count_eq_countP,
    List.countP_map, List.countP_filter]
  exact List.countP_congr fun record _ => by simp [and_comm]

/-- What every call does as often as something else is done as often by all of them. -/
theorem countP_eq_of_moves {q q' : Move σ -> Bool} {history : List (Record ι σ)}
    (h : ∀ i, (moves i history).countP q = (moves i history).countP q') :
    (history.countP fun record => q record.move) = history.countP fun record => q' record.move := by
  have hperm : ((history.filter fun record => q record.move).map Record.id).Perm
      ((history.filter fun record => q' record.move).map Record.id) := by
    rw [List.perm_iff_count]
    intro i
    rw [← countP_moves, ← countP_moves, h]
  have hlength := hperm.length_eq
  rwa [List.length_map, List.length_map, ← List.countP_eq_length_filter,
    ← List.countP_eq_length_filter] at hlength

/-! ### What was measured last of a profile -/

/--
A call notes that the PodDefaults of the profile of the name are in place, and with the exchanges that it
has had by then they are.
-/
structure Completes (templates : List Template) (name : String) (record : Record ι σ)
    (older : List (Record ι σ)) : Prop where
  named : record.given.name = name
  noted : ∃ count, record.move = .noted (.measure (.applied name count))
  completes : record.given.Completes templates (asked record.id older)

/-- A call that tidies up after the profile of the name notes that. -/
structure CleansUp (name : String) (record : Record ι σ) : Prop where
  named : record.given.name = name
  noted : record.move = .noted (.measure (.unapplied name))
  tidied : record.given.IsTidied

/-- Of the calls that have done one or the other for the profile of the name, the last has completed. -/
def LastCompletes (templates : List Template) (name : String) (history : List (Record ι σ)) : Prop :=
  ∃ later record older, history = later ++ record :: older ∧ record.Completes templates name older ∧
    ∀ u ∈ later, ¬u.CleansUp name

variable {templates : List Template} {name : String} {record : Record ι σ}
variable {older history : List (Record ι σ)}

theorem lastCompletes_cons :
    LastCompletes templates name (record :: older) ↔ record.Completes templates name older ∨
      ¬record.CleansUp name ∧ LastCompletes templates name older := by
  constructor
  · rintro ⟨later, last, earlier, hsplit, hlast, hlater⟩
    cases later with
    | nil =>
        cases hsplit
        exact Or.inl hlast
    | cons first later =>
        cases hsplit
        obtain ⟨hfirst, hlater⟩ := List.forall_mem_cons.1 hlater
        exact Or.inr ⟨hfirst, later, last, earlier, rfl, hlast, hlater⟩
  · rintro (hrecord | ⟨hrecord, later, last, earlier, rfl, hlast, hlater⟩)
    · exact ⟨[], record, older, rfl, hrecord, fun u hu => absurd hu List.not_mem_nil⟩
    · exact ⟨record :: later, last, earlier, rfl, hlast, List.forall_mem_cons.2 ⟨hrecord, hlater⟩⟩

theorem not_completes (h : ∀ count, record.move.measure? ≠ some (.applied name count)) :
    ¬record.Completes templates name older := by
  rintro ⟨_, ⟨count, hnoted⟩, _⟩
  rw [hnoted] at h
  exact h count rfl

omit [DecidableEq ι] in
theorem not_cleansUp (h : record.move.measure? ≠ some (.unapplied name)) : ¬record.CleansUp name := by
  rintro ⟨_, hnoted, _⟩
  rw [hnoted] at h
  exact h rfl

theorem lastCompletes_cons_of_not (hcompletes : ∀ count,
    record.move.measure? ≠ some (.applied name count))
    (hcleans : record.move.measure? ≠ some (.unapplied name)) :
    LastCompletes templates name (record :: older) ↔ LastCompletes templates name older := by
  rw [lastCompletes_cons, or_iff_right (not_completes hcompletes), and_iff_right (not_cleansUp hcleans)]

theorem exists_of_mem_taken {i : ι} {what : Measure} (h : what ∈ taken i history) :
    ∃ later record older, history = later ++ record :: older ∧ record.id = i ∧
      record.move.measure? = some what := by
  obtain ⟨move, hmove, hmeasure⟩ := List.mem_filterMap.1 h
  obtain ⟨given, hrecord⟩ := mem_moves.1 hmove
  obtain ⟨later, older, hsplit⟩ := List.append_of_mem hrecord
  exact ⟨later, _, older, hsplit, rfl, hmeasure⟩

/-- Whatever a call has noted of the measure of its profile, it was so by then. -/
def Honest (templates : List Template) : List (Record ι σ) -> Prop
  | [] => True
  | record :: older =>
      (∀ event, record.move = .noted event ->
        record.given.MayNote templates (asked record.id older) event) ∧ Honest templates older

theorem Honest.of_append {newer : List (Record ι σ)} (h : Honest templates (newer ++ older)) :
    Honest templates older := by
  induction newer with
  | nil => exact h
  | cons first rest ih => exact ih h.2

theorem eq_noted_of_measure? {move : Move σ} {what : Measure} (h : move.measure? = some what) :
    move = .noted (.measure what) := by
  rcases move with _ | (_ | _) | _ | _ <;> cases h
  rfl

theorem Honest.completes {count : Nat} (h : Honest templates (record :: older))
    (hmeasure : record.move.measure? = some (.applied name count)) :
    count = templates.length ∧ record.Completes templates name older := by
  have hnoted := eq_noted_of_measure? hmeasure
  obtain ⟨hname, hcount, hcompletes⟩ := h.1 _ hnoted
  exact ⟨hcount, hname.symm, ⟨count, hnoted⟩, hcompletes⟩

theorem Honest.cleansUp (h : Honest templates (record :: older))
    (hmeasure : record.move.measure? = some (.unapplied name)) : record.CleansUp name := by
  have hnoted := eq_noted_of_measure? hmeasure
  obtain ⟨hname, htidied⟩ := h.1 _ hnoted
  exact ⟨hname.symm, hnoted, htidied⟩

open Classical in
/-- What is measured of a profile is what its calls have come to last. -/
theorem get?_applied_registry (h : Honest templates history) (name : String) :
    (registry history).applied.get? name =
      if LastCompletes templates name history then some templates.length else none := by
  induction history with
  | nil =>
      rw [if_neg]
      · rfl
      · rintro ⟨later, record, older, hsplit, _⟩
        simp at hsplit
  | cons record older ih =>
      rw [registry, Metrics.Registry.takeSteps_move]
      by_cases happlied : ∃ count, record.move.measure? = some (.applied name count)
      · obtain ⟨count, hmeasure⟩ := happlied
        obtain ⟨rfl, hcompletes⟩ := h.completes hmeasure
        rw [hmeasure, if_pos (lastCompletes_cons.2 (Or.inl hcompletes))]
        exact (Dict.get?_insert ..).trans (if_pos rfl)
      · rw [not_exists] at happlied
        by_cases hunapplied : record.move.measure? = some (.unapplied name)
        · rw [hunapplied, if_neg]
          · exact (Dict.get?_erase ..).trans (if_pos rfl)
          · rw [lastCompletes_cons]
            rintro (hcompletes | ⟨hcleans, _⟩)
            · exact not_completes happlied hcompletes
            · exact hcleans (h.cleansUp hunapplied)
        · rw [lastCompletes_cons_of_not happlied hunapplied, ← ih h.2]
          exact Metrics.Registry.get?_applied_elim _ happlied hunapplied

end Record

end ProfileOperator
