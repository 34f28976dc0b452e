import Mathlib.Data.List.Basic
import ProfileOperator.Flag.Strip

/-!
# Texts that are stripped piece by piece

A text made of pieces that each leave the reading where it started is stripped piece by piece: of
formatting blanks nothing is left, plain text and quoted spans stay as they are.
-/

namespace ProfileOperator

namespace Flag

theorem not_isBlank_of_isQuote {c : Char} (h : isQuote c = true) : Text.isBlank c = false := by
  have hmem : c = '\x60' ∨ c = '\x22' ∨ c = '\x27' := by
    simpa [isQuote, quoteMarks] using h
  rcases hmem with rfl | rfl | rfl
  · decide
  · decide
  · decide

theorem not_backslash_of_isQuote {c : Char} (h : isQuote c = true) : c ≠ '\\' := by
  rintro rfl
  exact absurd h (by decide)

theorem not_isQuote_of_isBlank {c : Char} (h : Text.isBlank c = true) : isQuote c = false := by
  by_contra hquote
  rw [not_isBlank_of_isQuote (by simpa using hquote)] at h
  cases h

theorem not_backslash_of_isBlank {c : Char} (h : Text.isBlank c = true) : c ≠ '\\' := by
  rintro rfl
  exact absurd h (by decide)

/-- Only at quote marks do spans open and end. -/
theorem quote_step_of_not_isQuote {c : Char} (h : isQuote c = false) (s : StripState) :
    (s.step c).quote = s.quote := by
  simp [StripState.step, h]

theorem quote_step_backslash (s : StripState) : (s.step '\\').quote = s.quote :=
  quote_step_of_not_isQuote (by decide) s

/-- Only a backslash makes the next character literal. -/
theorem eq_backslash_of_escaped {s : StripState} {c : Char} (h : (s.step c).escaped = true) :
    c = '\\' := by
  simp only [StripState.step, Bool.and_eq_true, beq_iff_eq] at h
  exact h.2

def withoutBlanks (cs : List Char) : List Char :=
  cs.filter fun c => !Text.isBlank c

/-- Read from the start, the text keeps these characters, and the reading is then where it started. -/
structure Settles (cs left : List Char) : Prop where
  kept : kept .start cs = left
  run : StripState.start.run cs = .start

theorem Settles.nil : Settles [] [] where
  kept := rfl
  run := rfl

theorem Settles.append {cs ds left more : List Char} (hcs : Settles cs left)
    (hds : Settles ds more) : Settles (cs ++ ds) (left ++ more) where
  kept := by rw [kept_append, hcs.run, hcs.kept, hds.kept]
  run := by rw [StripState.run_append, hcs.run, hds.run]

theorem Settles.strip_eq {cs left : List Char} (h : Settles cs left) : strip cs = .ok left := by
  rw [strip, h.run, h.kept]
  rfl

theorem Settles.cons {c : Char} {cs left : List Char} (hstep : StripState.start.step c = .start)
    (h : Settles cs left) :
    Settles (c :: cs) (if Text.isBlank c = true then left else c :: left) where
  kept := by
    rw [Flag.kept, hstep, h.kept]
    cases hblank : Text.isBlank c with
    | true => simp [keeps, hblank, StripState.start]
    | false => simp [keeps, hblank]
  run := by rw [StripState.run_cons, hstep, h.run]

/-- Outside of spans a plain character leaves the reading where it started, whatever was escaped. -/
theorem step_of_closed {s : StripState} {c : Char} (hs : s.quote = none)
    (hquote : isQuote c = false) (hback : c ≠ '\\') : s.step c = .start := by
  simp [StripState.step, StripState.start, hs, hquote, hback]

theorem step_start {c : Char} (hquote : isQuote c = false) (hback : c ≠ '\\') :
    StripState.start.step c = .start :=
  step_of_closed rfl hquote hback

/-- Where nothing is quoted or escaped, the blanks are dropped and everything else stays. -/
theorem settles_unquoted {cs : List Char} (h : ∀ c ∈ cs, isQuote c = false ∧ c ≠ '\\') :
    Settles cs (withoutBlanks cs) := by
  induction cs with
  | nil => exact Settles.nil
  | cons c rest ih =>
      obtain ⟨⟨hquote, hback⟩, hrest⟩ := List.forall_mem_cons.1 h
      have hsettles := (ih hrest).cons (step_start hquote hback)
      cases hblank : Text.isBlank c with
      | true => simpa [withoutBlanks, hblank] using hsettles
      | false => simpa [withoutBlanks, hblank] using hsettles

theorem settles_blank {cs : List Char} (h : ∀ c ∈ cs, Text.isBlank c = true) : Settles cs [] := by
  have hsettles := settles_unquoted fun c hc =>
    ⟨not_isQuote_of_isBlank (h c hc), not_backslash_of_isBlank (h c hc)⟩
  rwa [withoutBlanks, List.filter_eq_nil_iff.2 fun c hc => by simp [h c hc]] at hsettles

theorem settles_plain {cs : List Char}
    (h : ∀ c ∈ cs, isQuote c = false ∧ c ≠ '\\' ∧ Text.isBlank c = false) : Settles cs cs := by
  have hsettles := settles_unquoted fun c hc => ⟨(h c hc).1, (h c hc).2.1⟩
  rwa [withoutBlanks, List.filter_eq_self.2 fun c hc => by simp [(h c hc).2.2]] at hsettles

/-! ### Quoted spans -/

/-- In an open span everything is kept, and the span stays open, up to its own quote mark. -/
theorem kept_inside {q : Char} {s : StripState} {cs : List Char} (hs : s.quote = some q)
    (h : q ∉ cs) : kept s cs = cs ∧ (s.run cs).quote = some q := by
  induction cs generalizing s with
  | nil => exact ⟨rfl, hs⟩
  | cons c rest ih =>
      have hc : q ≠ c := fun e => h (e ▸ List.mem_cons_self)
      have hstep : (s.step c).quote = some q := by
        simp [StripState.step, hs, turn_other hc]
      obtain ⟨hkept, hopen⟩ := ih hstep fun hx => h (List.mem_cons_of_mem c hx)
      refine ⟨?_, hopen⟩
      rw [kept, hkept]
      simp [keeps, hstep]

theorem getLast_of_escaped {s : StripState} {cs : List Char} (hs : s.escaped = false)
    (h : (s.run cs).escaped = true) : cs.getLast? = some '\\' := by
  rcases List.eq_nil_or_concat cs with rfl | ⟨front, last, hcs⟩
  · rw [StripState.run_nil, hs] at h
    cases h
  · rw [List.concat_eq_append] at hcs
    subst hcs
    have hstep : ((s.run front).step last).escaped = true := by
      rwa [StripState.run_append] at h
    simp [eq_backslash_of_escaped hstep]

theorem settles_quoted {q : Char} {cs : List Char} (hq : isQuote q = true) (h : q ∉ cs)
    (hlast : cs.getLast? ≠ some '\\') : Settles (q :: (cs ++ [q])) (q :: (cs ++ [q])) := by
  have hback := not_backslash_of_isQuote hq
  have hopen : StripState.start.step q = { quote := some q, escaped := false } := by
    simp [StripState.step, StripState.start, hq, hback]
  obtain ⟨hkept, hinside⟩ := kept_inside (s := StripState.start.step q) (by rw [hopen]) h
  have hescaped : ((StripState.start.step q).run cs).escaped = false := by
    cases hrun : ((StripState.start.step q).run cs).escaped with
    | false => rfl
    | true => exact absurd (getLast_of_escaped (by rw [hopen]) hrun) hlast
  have hclose : ((StripState.start.step q).run cs).step q = .start := by
    generalize (StripState.start.step q).run cs = s at hinside hescaped
    simp [StripState.step, StripState.start, hq, hback, hinside, hescaped]
  constructor
  · rw [kept, kept_append, hkept, kept, hclose, if_pos (by simp [keeps, hopen]),
      if_pos (by simp [keeps, not_isBlank_of_isQuote hq]), kept]
  · rw [StripState.run_cons, StripState.run_append, StripState.run_cons, hclose,
      StripState.run_nil]

end Flag

end ProfileOperator
