/-!
# The agenda of pending runs

What is to be run, and when.  A profile can be on the agenda in its own right and on behalf of PodDefaults
of a namespace; each such key is there at most once, at the earliest time that was asked for.
-/

namespace ProfileOperator

namespace Controller

structure Key where
  profile : String
  /-- The namespace of the PodDefault on whose behalf it is run, if there is one. -/
  onBehalfOf : Option String := none
deriving DecidableEq, Repr

structure Pending where
  due : Nat
  key : Key
deriving DecidableEq, Repr

abbrev Agenda := List Pending

namespace Agenda

def drop (agenda : Agenda) (key : Key) : Agenda :=
  agenda.filter fun p => p.key ≠ key

/-- Ask for a run at a time; an earlier one of the same key stays in place of it. -/
def schedule (agenda : Agenda) (due : Nat) (key : Key) : Agenda :=
  if agenda.any fun p => p.key = key && p.due ≤ due then agenda
  else agenda.drop key ++ [{ due := due, key := key }]

/-- The run that is next: the earliest, and of those at the same time the one asked for first. -/
def next? : Agenda -> Option Pending
  | [] => none
  | p :: rest =>
      match next? rest with
      | some q => if q.due < p.due then some q else some p
      | none => some p

theorem mem_of_next? {agenda : Agenda} {p : Pending} (h : agenda.next? = some p) : p ∈ agenda := by
  induction agenda generalizing p with
  | nil => simp [next?] at h
  | cons first rest ih =>
      rw [next?] at h
      split at h
      · next q hq =>
          split at h
          · cases h
            exact List.mem_cons_of_mem _ (ih hq)
          · cases h
            exact List.mem_cons_self
      · cases h
        exact List.mem_cons_self

theorem next?_eq_none_iff {agenda : Agenda} : agenda.next? = none ↔ agenda = [] := by
  cases agenda with
  | nil => simp [next?]
  | cons first rest =>
      simp only [next?, reduceCtorEq, iff_false]
      split
      · split <;> simp
      · simp

/-- Nothing on the agenda is due before what is next. -/
theorem due_le_of_next? {agenda : Agenda} {p : Pending} (h : agenda.next? = some p) :
    ∀ q ∈ agenda, p.due ≤ q.due := by
  induction agenda generalizing p with
  | nil => simp [next?] at h
  | cons first rest ih =>
      intro q hq
      rw [next?] at h
      split at h
      · next found hfound =>
          have hrest := ih hfound
          split at h
          · next hlt =>
              cases h
              rcases List.mem_cons.1 hq with rfl | hin
              · omega
              · exact hrest q hin
          · next hge =>
              cases h
              rcases List.mem_cons.1 hq with rfl | hin
              · omega
              · have := hrest q hin
                omega
      · next hnone =>
          cases h
          rw [next?_eq_none_iff.1 hnone] at hq
          rcases List.mem_cons.1 hq with rfl | hin
          · omega
          · simp at hin

end Agenda

end Controller

end ProfileOperator
