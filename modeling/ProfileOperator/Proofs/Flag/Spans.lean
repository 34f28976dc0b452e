import Mathlib.Algebra.Group.Nat.Even
import Mathlib.Data.List.Induction
import ProfileOperator.Flag.Strip
import ProfileOperator.Proofs.Flag.Marks

/-!
# Quoted spans of a text

Which stretches of a text are quoted can be said without a state.  A quote mark is live if the run
of backslashes right before it is even.  A live mark that stands in no earlier span opens one, and
the next live mark of its kind ends it.  The state that blanks are dropped with says just that:
whether the run is odd, and which mark has opened a span that has not ended yet.
-/

namespace ProfileOperator

namespace Flag

theorem StripState.run_append_singleton (s : StripState) (cs : List Char) (c : Char) :
    s.run (cs ++ [c]) = (s.run cs).step c :=
  s.run_append cs [c]

/-! ### Runs of backslashes -/

/-- The number of backslashes in a row at the end of a text. -/
def backslashRun (cs : List Char) : Nat :=
  (cs.reverse.takeWhile (· = '\\')).length

@[simp] theorem backslashRun_nil : backslashRun [] = 0 := rfl

theorem backslashRun_append_singleton (cs : List Char) (c : Char) :
    backslashRun (cs ++ [c]) = if c = '\\' then backslashRun cs + 1 else 0 := by
  by_cases h : c = '\\'
  · simp [backslashRun, h]
  · simp [backslashRun, h]

theorem escaped_run_iff (cs : List Char) :
    (StripState.start.run cs).escaped = true ↔ ¬Even (backslashRun cs) := by
  induction cs using List.reverseRecOn with
  | nil => simp [StripState.start]
  | append_singleton front c ih =>
      rw [StripState.run_append_singleton, backslashRun_append_singleton]
      by_cases hc : c = '\\'
      · simp [StripState.step, hc, Nat.even_add_one, ← ih]
      · simp [StripState.step, hc]

/-! ### Spans -/

/-- A quote mark that counts: an even run of backslashes stands right before it. -/
structure LiveAt (text : List Char) (i : Nat) (q : Char) : Prop where
  mark : text[i]? = some q
  isQuote : isQuote q = true
  unescaped : Even (backslashRun (text.take i))

/-- A live mark opens a span if every span that opens before it has also ended before it. -/
def OpensAt (text : List Char) (i : Nat) (q : Char) : Prop :=
  LiveAt text i q ∧
    ∀ k mark, k < i -> OpensAt text k mark -> ∃ j, k < j ∧ j < i ∧ LiveAt text j mark
termination_by i

/-- A span with this mark opens before the position and has not ended before it. -/
def OpenAt (text : List Char) (i : Nat) (q : Char) : Prop :=
  ∃ k, k < i ∧ OpensAt text k q ∧ ∀ j, k < j -> j < i -> ¬LiveAt text j q

/-- A span with this mark opens and never ends. -/
def Unclosed (text : List Char) (q : Char) : Prop :=
  ∃ k, OpensAt text k q ∧ ∀ j, k < j -> ¬LiveAt text j q

theorem LiveAt.lt_length {text : List Char} {i : Nat} {q : Char} (h : LiveAt text i q) :
    i < text.length :=
  (List.getElem?_eq_some_iff.1 h.mark).1

theorem opensAt_iff_opens {text : List Char} {i : Nat} {q : Char} :
    OpensAt text i q ↔ Opens (LiveAt text) i q := by
  induction i using Nat.strongRecOn generalizing q with
  | ind i ih =>
      rw [OpensAt, Opens]
      exact and_congr_right fun _ => forall₃_congr fun k mark hk => imp_congr_left (ih k hk)

theorem openAt_iff_isOpen {text : List Char} {i : Nat} {q : Char} :
    OpenAt text i q ↔ IsOpen (LiveAt text) i q := by
  simp [OpenAt, IsOpen, opensAt_iff_opens]

theorem liveAt_iff {text : List Char} {i : Nat} {c q : Char} (hc : text[i]? = some c) :
    LiveAt text i q ↔ c = q ∧ isQuote c = true ∧
      (StripState.start.run (text.take i)).escaped = false := by
  have hescaped := escaped_run_iff (text.take i)
  constructor
  · intro h
    have hcq : c = q := Option.some.inj (hc.symm.trans h.mark)
    subst hcq
    exact ⟨rfl, h.isQuote, by simpa [h.unescaped] using hescaped⟩
  · rintro ⟨rfl, hquote, hfalse⟩
    exact ⟨hc, hquote, by simpa [hfalse] using hescaped⟩

theorem tracks_liveAt (text : List Char) :
    Tracks (LiveAt text) fun i => (StripState.start.run (text.take i)).quote where
  start := rfl
  single := by
    intro i q mark hq hmark
    exact Option.some.inj (hq.mark.symm.trans hmark.mark)
  turn := by
    intro i q hq
    obtain ⟨_, hquote, hescaped⟩ := (liveAt_iff hq.mark).1 hq
    rw [List.take_add_one, hq.mark, Option.toList_some, StripState.run_append_singleton]
    simp [StripState.step, hquote, hescaped]
  stay := by
    intro i hdead
    rw [List.take_add_one]
    cases hc : text[i]? with
    | none => simp
    | some c =>
        have hc := mt (liveAt_iff hc).2 (hdead c)
        rw [Option.toList_some, StripState.run_append_singleton, StripState.step, if_neg]
        simpa [and_comm] using hc

theorem quote_run_take_iff {text : List Char} {i : Nat} {q : Char} :
    (StripState.start.run (text.take i)).quote = some q ↔ OpenAt text i q := by
  rw [openAt_iff_isOpen]
  exact (tracks_liveAt text).quote_eq_some_iff

theorem unclosed_iff {text : List Char} {q : Char} :
    Unclosed text q ↔ OpenAt text text.length q := by
  constructor
  · rintro ⟨k, hopens, hlive⟩
    have hk : k < text.length := (opens_iff.1 (opensAt_iff_opens.1 hopens)).1.lt_length
    exact ⟨k, hk, hopens, fun j hkj _ => hlive j hkj⟩
  · rintro ⟨k, _, hopens, hlive⟩
    exact ⟨k, hopens, fun j hkj hj => hlive j hkj hj.lt_length hj⟩

/-- Dropping blanks fails exactly on a span that never ends, and names its mark. -/
theorem strip_eq_error_iff {text : List Char} {q : Char} :
    strip text = .error q ↔ Unclosed text q := by
  rw [unclosed_iff, ← quote_run_take_iff, List.take_length, strip]
  cases (StripState.start.run text).quote with
  | none => simp
  | some mark => simp

theorem strip_eq_ok_iff {text left : List Char} :
    strip text = .ok left ↔
      (StripState.start.run text).quote = none ∧ kept .start text = left := by
  rw [strip]
  cases (StripState.start.run text).quote with
  | none => simp
  | some mark => simp

end Flag

end ProfileOperator
