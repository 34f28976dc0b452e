import ProfileOperator.Proofs.Flag.Grouping
import ProfileOperator.Proofs.Flag.Spans
import ProfileOperator.Proofs.Flag.Stripping

/-!
# What a flag may look like

A text is refused for a quoted span that never ends, or else for the first of its entries that names
no selector or no field; every other text is read.  What is wrong is described by the text alone and
not by the way in which it is read.
-/

namespace ProfileOperator

namespace Flag

/--
The text is no entry: no dot stands outside of its spans, or nothing stands in front of the first of
these dots or behind it up to the next.
-/
def IsFaulty (entry : List Char) : Prop :=
  (∀ i, entry[i]? = some '.' -> (SplitState.start.run '.' (entry.take i)).quote ≠ none) ∨
    partOf 0 entry = [] ∨ partOf 1 entry = []

/-- The part is no entry, and every part in front of it is one. -/
def FirstFaulty (parts : List (List Char)) (part : List Char) : Prop :=
  ∃ front back, parts = front ++ part :: back ∧
    (∀ sound ∈ front, ¬IsFaulty sound) ∧ IsFaulty part

/-! ### Entries -/

theorem partOf_one_of_uncut {entry : List Char}
    (h : ∀ i, entry[i]? = some '.' -> (SplitState.start.run '.' (entry.take i)).quote ≠ none) :
    partOf 1 entry = [] := by
  rw [partOf, split_eq_singleton_iff.2 h]
  rfl

theorem isFaulty_iff {entry : List Char} :
    IsFaulty entry ↔ partOf 0 entry = [] ∨ partOf 1 entry = [] := by
  constructor
  · rintro (huncut | hempty)
    · exact .inr (partOf_one_of_uncut huncut)
    · exact hempty
  · exact .inr

theorem exists_read_eq_ok_iff {text : List Char} :
    (∃ entry, Entry.read text = .ok entry) ↔ ¬IsFaulty text := by
  rw [isFaulty_iff, not_or]
  constructor
  · rintro ⟨entry, h⟩
    obtain ⟨hzero, hone, _⟩ := read_eq_ok_iff.1 h
    exact ⟨hzero, hone⟩
  · rintro ⟨hzero, hone⟩
    exact ⟨_, read_eq_ok_iff.2 ⟨hzero, hone, rfl⟩⟩

/-- Whatever is wrong with an entry, the report quotes it as a whole. -/
theorem eq_of_read_eq_error {text : List Char} {e : FlagError} (h : Entry.read text = .error e) :
    e = .malformedEntry (String.ofList text) := by
  unfold Entry.read at h
  split at h
  · split at h
    · exact (Except.error.inj h).symm
    · cases h
  · exact (Except.error.inj h).symm

theorem read_eq_error_iff {text : List Char} {e : FlagError} :
    Entry.read text = .error e ↔ IsFaulty text ∧ e = .malformedEntry (String.ofList text) := by
  constructor
  · intro h
    refine ⟨?_, eq_of_read_eq_error h⟩
    by_contra hsound
    obtain ⟨entry, hentry⟩ := exists_read_eq_ok_iff.2 hsound
    cases h.symm.trans hentry
  · rintro ⟨hfaulty, rfl⟩
    cases hread : Entry.read text with
    | error e => rw [eq_of_read_eq_error hread]
    | ok entry => exact absurd hfaulty (exists_read_eq_ok_iff.1 ⟨entry, hread⟩)

/-! ### Lists of entries -/

theorem mapM_read_eq_error_iff {parts : List (List Char)} {e : FlagError} :
    parts.mapM Entry.read = .error e ↔
      ∃ part, FirstFaulty parts part ∧ e = .malformedEntry (String.ofList part) := by
  rw [Checked.mapM_eq_error_iff]
  simp only [exists_read_eq_ok_iff, read_eq_error_iff]
  constructor
  · rintro ⟨front, part, back, hparts, hfront, hfaulty, he⟩
    exact ⟨part, ⟨front, back, hparts, hfront, hfaulty⟩, he⟩
  · rintro ⟨part, ⟨front, back, hparts, hfront, hfaulty⟩, he⟩
    exact ⟨front, part, back, hparts, hfront, hfaulty, he⟩

theorem exists_mapM_read_eq_ok_iff {parts : List (List Char)} :
    (∃ entries, parts.mapM Entry.read = .ok entries) ↔ ∀ part ∈ parts, ¬IsFaulty part := by
  rw [Checked.exists_mapM_eq_ok_iff]
  simp only [exists_read_eq_ok_iff]

/-! ### Texts without entries -/

theorem splitFrom_delimiters {d : Char} {s : SplitState} {cs : List Char} (hs : s.quote = none)
    (h : ∀ c ∈ cs, c = d) : ∀ part ∈ splitFrom d s cs, part = [] := by
  induction cs generalizing s with
  | nil => simp [splitFrom]
  | cons c rest ih =>
      obtain ⟨rfl, hrest⟩ := List.forall_mem_cons.1 h
      have hcut : s.cuts c c = true := by
        simp [SplitState.cuts, hs]
      have hstep : (s.step c c).quote = none := by
        simp [SplitState.step, hcut, hs]
      rw [splitFrom, if_pos hcut]
      exact List.forall_mem_cons.2 ⟨rfl, ih hstep hrest⟩

theorem parse_blanks_and_commas {raw : String}
    (h : ∀ c ∈ raw.toList, Text.isBlank c = true ∨ c = ',') : parse raw = .ok .empty := by
  have htext : ∀ c ∈ raw.toList.filter (· ≠ '\n'), Text.isBlank c = true ∨ c = ',' :=
    fun c hc => h c (List.mem_filter.1 hc).1
  have hsettles : Settles (raw.toList.filter (· ≠ '\n'))
      (withoutBlanks (raw.toList.filter (· ≠ '\n'))) := by
    apply settles_unquoted
    intro c hc
    rcases htext c hc with hblank | rfl
    · exact ⟨not_isQuote_of_isBlank hblank, not_backslash_of_isBlank hblank⟩
    · exact ⟨by decide, by decide⟩
  have hcommas : ∀ c ∈ withoutBlanks (raw.toList.filter (· ≠ '\n')), c = ',' := by
    intro c hc
    obtain ⟨hmem, hkept⟩ := List.mem_filter.1 hc
    rcases htext c hmem with hblank | rfl
    · simp [hblank] at hkept
    · rfl
  have hnone : entryTexts (withoutBlanks (raw.toList.filter (· ≠ '\n'))) = [] := by
    rw [entryTexts, List.filter_eq_nil_iff]
    intro part hpart
    simp [splitFrom_delimiters rfl hcommas part hpart]
  rw [parse_of_strip hsettles.strip_eq, hnone]
  rfl

/-! ### Texts as a whole -/

theorem parse_eq_unclosed_iff {raw : String} {q : Char} :
    parse raw = .error (.unclosedQuote q) ↔ Unclosed (raw.toList.filter (· ≠ '\n')) q := by
  rw [← strip_eq_error_iff]
  cases hstrip : strip (raw.toList.filter (· ≠ '\n')) with
  | error mark =>
      rw [parse_of_strip_error hstrip]
      simp
  | ok stripped =>
      rw [parse_of_strip hstrip, Checked.bind_eq_error_iff, mapM_read_eq_error_iff]
      simp

/--
A text is refused for a quote mark exactly if that mark opens a span that never ends.  Any other
text is refused exactly if one of its entries is faulty, and the first of these is quoted; it is
read exactly if none is.  Blanks and commas alone are read as no entry at all.
-/
theorem parse_reports_first_fault (raw : String) :
    let text := raw.toList.filter (· ≠ '\n')
    (∀ q, parse raw = .error (.unclosedQuote q) ↔ Unclosed text q) ∧
      ((∃ q, Unclosed text q) ∨ ∃ stripped, strip text = .ok stripped ∧
        let parts := (split ',' stripped).filter (· ≠ [])
        (∀ entry, parse raw = .error (.malformedEntry entry) ↔
          ∃ part, FirstFaulty parts part ∧ entry = String.ofList part) ∧
        ((∃ tree, parse raw = .ok tree) ↔ ∀ part ∈ parts, ¬IsFaulty part)) ∧
      ((∀ c ∈ raw.toList, Text.isBlank c = true ∨ c = ',') -> parse raw = .ok .empty) := by
  intro text
  refine ⟨fun q => parse_eq_unclosed_iff, ?_, parse_blanks_and_commas⟩
  cases hstrip : strip text with
  | error q => exact .inl ⟨q, strip_eq_error_iff.1 hstrip⟩
  | ok stripped =>
      refine .inr ⟨stripped, rfl, ?_⟩
      intro parts
      have hparse := parse_of_strip hstrip
      have hread : (entryTexts stripped).mapM Entry.read = parts.mapM Entry.read := rfl
      rw [hparse, hread]
      constructor
      · intro entry
        rw [Checked.bind_eq_error_iff, mapM_read_eq_error_iff]
        simp
      · rw [← exists_mapM_read_eq_ok_iff]
        simp only [Checked.bind_eq_ok_iff]
        constructor
        · rintro ⟨_, entries, hentries, _⟩
          exact ⟨entries, hentries⟩
        · rintro ⟨entries, hentries⟩
          exact ⟨_, entries, hentries, rfl⟩

theorem parse_reports_first_fault_blanks : parse " ,\t,\n, " = .ok .empty := by
  have hall : " ,\t,\n, ".toList.all (fun c => Text.isBlank c = true ∨ c = ',') = true := by
    decide
  refine (parse_reports_first_fault " ,\t,\n, ").2.2 ?_
  intro c hc
  exact of_decide_eq_true (List.all_eq_true.1 hall c hc)

end Flag

end ProfileOperator
