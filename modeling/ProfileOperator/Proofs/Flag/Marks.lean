import Mathlib.Tactic.ByContra
import ProfileOperator.Flag.Quote

/-!
# Spans between live marks

Which quote marks of a text are live depends on who reads it.  Once that is settled the spans are
fixed: a live mark that stands in no earlier span opens one, and the next live mark of its kind ends
it.  A reader that turns at the live marks, and nowhere else, has at every position the mark of the
span that is open there.
-/

namespace ProfileOperator

namespace Flag

theorem turn_eq_some_iff {before : Option Char} {c q : Char} :
    turn before c = some q ↔ (before = none ∧ c = q) ∨ (before = some q ∧ c ≠ q) := by
  cases before with
  | none => simp
  | some mark =>
      by_cases hmark : mark = c
      · subst hmark
        simp
      · have hother : mark = q -> c ≠ q := by
          intro hq hc
          exact hmark (hq.trans hc.symm)
        simpa [turn_other hmark] using hother

section

variable {live : Nat -> Char -> Prop} {i : Nat} {q : Char}

/-- A live mark opens a span if every span that opens before it has also ended before it. -/
def Opens (live : Nat -> Char -> Prop) (i : Nat) (q : Char) : Prop :=
  live i q ∧
    ∀ k mark, k < i -> Opens live k mark -> ∃ j, k < j ∧ j < i ∧ live j mark
termination_by i

/-- A span with this mark opens before the position and has not ended before it. -/
def IsOpen (live : Nat -> Char -> Prop) (i : Nat) (q : Char) : Prop :=
  ∃ k, k < i ∧ Opens live k q ∧ ∀ j, k < j -> j < i -> ¬live j q

theorem opens_iff : Opens live i q ↔ live i q ∧ ∀ mark, ¬IsOpen live i mark := by
  rw [Opens]
  refine and_congr_right fun _ => ?_
  constructor
  · intro h mark hopen
    obtain ⟨k, hk, hopens, hlive⟩ := hopen
    obtain ⟨j, hkj, hji, hj⟩ := h k mark hk hopens
    exact hlive j hkj hji hj
  · intro h k mark hk hopens
    by_contra hnone
    exact h mark ⟨k, hk, hopens, fun j hkj hji hj => hnone ⟨j, hkj, hji, hj⟩⟩

@[simp] theorem not_isOpen_zero : ¬IsOpen live 0 q := by
  simp [IsOpen]

theorem isOpen_succ :
    IsOpen live (i + 1) q ↔ Opens live i q ∨ (IsOpen live i q ∧ ¬live i q) := by
  constructor
  · intro h
    obtain ⟨k, hk, hopens, hlive⟩ := h
    rcases Nat.lt_succ_iff_lt_or_eq.1 hk with hlt | heq
    · have hbefore : ∀ j, k < j -> j < i -> ¬live j q := by
        intro j hkj hji
        exact hlive j hkj (by omega)
      exact .inr ⟨⟨k, hlt, hopens, hbefore⟩, hlive i hlt (by omega)⟩
    · exact .inl (heq ▸ hopens)
  · intro h
    rcases h with hopens | ⟨⟨k, hk, hopens, hlive⟩, hend⟩
    · exact ⟨i, by omega, hopens, fun j hij hji => by omega⟩
    · refine ⟨k, by omega, hopens, ?_⟩
      intro j hkj hji
      rcases Nat.lt_succ_iff_lt_or_eq.1 hji with hlt | heq
      · exact hlive j hkj hlt
      · exact heq ▸ hend

/-- A reader that keeps one mark: it turns at the live marks and keeps what it has elsewhere. -/
structure Tracks (live : Nat -> Char -> Prop) (quote : Nat -> Option Char) : Prop where
  start : quote 0 = none
  /-- A position holds one mark at most. -/
  single : ∀ i q mark, live i q -> live i mark -> q = mark
  turn : ∀ i q, live i q -> quote (i + 1) = turn (quote i) q
  stay : ∀ i, (∀ q, ¬live i q) -> quote (i + 1) = quote i

/-- The mark that such a reader keeps is the mark of the span that is open. -/
theorem Tracks.quote_eq_some_iff {quote : Nat -> Option Char} (h : Tracks live quote) :
    quote i = some q ↔ IsOpen live i q := by
  induction i generalizing q with
  | zero => simp [h.start]
  | succ i ih =>
      have hnone : quote i = none ↔ ∀ mark, ¬IsOpen live i mark := by
        rw [Option.eq_none_iff_forall_ne_some]
        simp [ih]
      rw [isOpen_succ, opens_iff, ← ih, ← hnone]
      by_cases hlive : ∃ c, live i c
      · obtain ⟨c, hc⟩ := hlive
        have hq : live i q ↔ c = q := by
          constructor
          · intro hq
            exact h.single i c q hc hq
          · intro heq
            exact heq ▸ hc
        rw [h.turn i c hc, turn_eq_some_iff, hq, and_comm (a := c = q)]
      · have hdead : ∀ c, ¬live i c := by
          intro c hc
          exact hlive ⟨c, hc⟩
        simp [h.stay i hdead, hdead q]

theorem Tracks.quote_eq_none_iff {quote : Nat -> Option Char} (h : Tracks live quote) :
    quote i = none ↔ ∀ q, ¬IsOpen live i q := by
  rw [Option.eq_none_iff_forall_ne_some]
  simp [h.quote_eq_some_iff]

end

end Flag

end ProfileOperator
