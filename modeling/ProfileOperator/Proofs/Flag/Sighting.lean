import Mathlib.Data.List.Induction
import ProfileOperator.Proofs.Flag.Parts
import ProfileOperator.Proofs.Flag.Spans
import ProfileOperator.Proofs.Flag.Stripping

/-!
# What a reader sees

A reader that goes through a text with a state sees every character with the span that is open in
front of it and the one that is open behind it.  Two readers can be compared by what they see, also
where one of them reads only what the other has kept.  Splitting sees the kept text as dropping blanks
saw it, wherever the two rules for backslashes come to the same.
-/

namespace ProfileOperator

namespace Flag

/-- A character, and the marks of the spans that are open in front of it and behind it. -/
structure Sighting where
  char : Char
  before : Option Char
  behind : Option Char
deriving DecidableEq, Repr

section

variable {σ : Type} (step : σ -> Char -> σ) (quote : σ -> Option Char)

def sightings (s : σ) : List Char -> List Sighting
  | [] => []
  | c :: cs => ⟨c, quote s, quote (step s c)⟩ :: sightings (step s c) cs

theorem sightings_append (s : σ) (cs ds : List Char) :
    sightings step quote s (cs ++ ds) =
      sightings step quote s cs ++ sightings step quote (cs.foldl step s) ds := by
  induction cs generalizing s with
  | nil => rfl
  | cons c cs ih => simp [sightings, ih]

theorem map_char_sightings (s : σ) (cs : List Char) :
    (sightings step quote s cs).map Sighting.char = cs := by
  induction cs generalizing s with
  | nil => rfl
  | cons c cs ih => simp [sightings, ih]

theorem length_sightings (s : σ) (cs : List Char) :
    (sightings step quote s cs).length = cs.length := by
  have hlength := congrArg List.length (map_char_sightings step quote s cs)
  rwa [List.length_map] at hlength

theorem getElem?_sightings (s : σ) (cs : List Char) (i : Nat) :
    (sightings step quote s cs)[i]? = cs[i]?.map fun c =>
      ⟨c, quote ((cs.take i).foldl step s), quote (step ((cs.take i).foldl step s) c)⟩ := by
  induction cs generalizing s i with
  | nil => simp [sightings]
  | cons c cs ih =>
      cases i with
      | zero => simp [sightings]
      | succ i => simp [sightings, ih]

theorem sightings_append_singleton (s : σ) (cs : List Char) (c : Char) :
    sightings step quote s (cs ++ [c]) = sightings step quote s cs ++
      [⟨c, quote (cs.foldl step s), quote (step (cs.foldl step s) c)⟩] :=
  sightings_append step quote s cs [c]

end

/-- What is seen of a text while its blanks are dropped. -/
def StripState.sightings (s : StripState) (cs : List Char) : List Sighting :=
  Flag.sightings StripState.step StripState.quote s cs

/-- What is seen of a text while it is split. -/
def SplitState.sightings (d : Char) (s : SplitState) (cs : List Char) : List Sighting :=
  Flag.sightings (SplitState.step d) SplitState.quote s cs

theorem StripState.sightings_append (s : StripState) (cs ds : List Char) :
    s.sightings (cs ++ ds) = s.sightings cs ++ (s.run cs).sightings ds :=
  Flag.sightings_append _ _ s cs ds

theorem StripState.sightings_singleton (s : StripState) (c : Char) :
    s.sightings [c] = [⟨c, s.quote, (s.step c).quote⟩] := rfl

theorem cutsAt_iff_sighting {d : Char} (hd : isQuote d = false) {cs : List Char} {i : Nat} :
    CutsAt d cs i ↔ (SplitState.start.sightings d cs)[i]? = some ⟨d, none, none⟩ := by
  have hstep : ∀ s : SplitState, (s.step d d).quote = s.quote := by
    intro s
    simp [SplitState.step, hd]
  rw [cutsAt_iff, SplitState.sightings, getElem?_sightings]
  constructor
  · rintro ⟨hchar, hquote⟩
    rw [SplitState.run] at hquote
    rw [hchar, Option.map_some, hstep, hquote]
  · intro h
    obtain ⟨c, hchar, hsighting⟩ := Option.map_eq_some_iff.1 h
    rw [Sighting.mk.injEq] at hsighting
    rw [hchar, hsighting.1]
    exact ⟨rfl, hsighting.2.1⟩

/-! ### What is kept -/

def Sighting.isKept (x : Sighting) : Bool :=
  x.behind.isSome || !Text.isBlank x.char

def keptSightings (cs : List Char) : List Sighting :=
  (StripState.start.sightings cs).filter Sighting.isKept

theorem kept_eq_map_char (s : StripState) (cs : List Char) :
    kept s cs = ((s.sightings cs).filter Sighting.isKept).map Sighting.char := by
  induction cs generalizing s with
  | nil => rfl
  | cons c cs ih =>
      have hkept : Sighting.isKept ⟨c, s.quote, (s.step c).quote⟩ = keeps (s.step c) c := rfl
      rw [kept, StripState.sightings, Flag.sightings, List.filter_cons, ih, hkept]
      by_cases hkeep : keeps (s.step c) c = true
      · rw [if_pos hkeep, if_pos hkeep]
        rfl
      · rw [if_neg hkeep, if_neg hkeep]
        rfl

theorem kept_append_singleton (s : StripState) (cs : List Char) (c : Char) :
    kept s (cs ++ [c]) = kept s cs ++ if keeps ((s.run cs).step c) c then [c] else [] := by
  rw [kept_append]
  rfl

theorem keptSightings_append (cs ds : List Char) :
    keptSightings (cs ++ ds) = keptSightings cs ++
      ((StripState.start.run cs).sightings ds).filter Sighting.isKept := by
  rw [keptSightings, StripState.sightings_append, List.filter_append]
  rfl

theorem keptSightings_append_singleton (cs : List Char) (c : Char) :
    keptSightings (cs ++ [c]) = keptSightings cs ++
      if keeps ((StripState.start.run cs).step c) c then
        [⟨c, (StripState.start.run cs).quote, ((StripState.start.run cs).step c).quote⟩]
      else [] := by
  rw [keptSightings_append, StripState.sightings_singleton, List.filter_cons]
  rfl

theorem length_keptSightings (cs : List Char) :
    (keptSightings cs).length = (kept .start cs).length := by
  rw [kept_eq_map_char, List.length_map, keptSightings]

theorem quote_of_dropped {s : StripState} {c : Char} (h : keeps (s.step c) c = false) :
    Text.isBlank c = true ∧ s.quote = none ∧ (s.step c).quote = none := by
  simp only [keeps, Bool.or_eq_false_iff, Option.isSome_eq_false_iff, Option.isNone_iff_eq_none,
    Bool.not_eq_false'] at h
  obtain ⟨hnone, hblank⟩ := h
  have hsame := quote_step_of_not_isQuote (not_isQuote_of_isBlank hblank) s
  exact ⟨hblank, hsame.symm.trans hnone, hnone⟩

/-! ### Two readers of one text -/

section

variable {σ : Type} {step : σ -> Char -> σ} {quote : σ -> Option Char} {start : σ}

/--
A second reader goes through the kept text beside the first one.  If the two stay related at every
character, kept or dropped, and related readers are in the same span, they see the same.
-/
theorem sightings_kept_of_related (related : σ -> StripState -> Prop) {cs : List Char}
    (hquote : ∀ p s, related p s -> quote p = s.quote) (hstart : related start .start)
    (hkept : ∀ i (h : i < cs.length), ∀ p s, p = (kept .start (cs.take i)).foldl step start ->
      s = StripState.start.run (cs.take i) -> related p s -> keeps (s.step cs[i]) cs[i] = true ->
        related (step p cs[i]) (s.step cs[i]))
    (hdropped : ∀ i (h : i < cs.length), ∀ p s, s = StripState.start.run (cs.take i) ->
      related p s -> keeps (s.step cs[i]) cs[i] = false -> related p (s.step cs[i])) :
    related ((kept .start cs).foldl step start) (StripState.start.run cs) ∧
      sightings step quote start (kept .start cs) = keptSightings cs := by
  have hall : ∀ i, i ≤ cs.length ->
      related ((kept .start (cs.take i)).foldl step start) (StripState.start.run (cs.take i)) ∧
        sightings step quote start (kept .start (cs.take i)) = keptSightings (cs.take i) := by
    intro i hi
    induction i with
    | zero => exact ⟨hstart, rfl⟩
    | succ i ih =>
        obtain ⟨hrelated, hseen⟩ := ih (by omega)
        rw [List.take_succ_eq_append_getElem (by omega), kept_append_singleton,
          keptSightings_append_singleton, StripState.run_append_singleton]
        cases hkeep : keeps ((StripState.start.run (cs.take i)).step cs[i]) cs[i] with
        | true =>
            have hnext := hkept i (by omega) _ _ rfl rfl hrelated hkeep
            rw [if_pos rfl, if_pos rfl, List.foldl_concat, sightings_append_singleton, hseen,
              hquote _ _ hrelated, hquote _ _ hnext]
            exact ⟨hnext, rfl⟩
        | false =>
            have hnext := hdropped i (by omega) _ _ rfl hrelated hkeep
            simpa using ⟨hnext, hseen⟩
  have hwhole := hall cs.length (Nat.le_refl _)
  rwa [List.take_length] at hwhole

end

/-- Both are in the same span, and the next character is literal to both or to neither. -/
structure SplitState.Follows (p : SplitState) (s : StripState) : Prop where
  quote : p.quote = s.quote
  escaped : p.prev = some '\\' ↔ s.escaped = true

theorem SplitState.Follows.step_kept {p : SplitState} {s : StripState} {c d : Char}
    (h : p.Follows s) (hd : isQuote d = false) (hc : s.escaped = true -> c ≠ '\\') :
    (p.step d c).Follows (s.step c) where
  quote := by
    by_cases hcut : p.cuts d c = true
    · -- A delimiter is no quote mark, so neither reader turns at it.
      have hcd : c = d := (SplitState.cuts_iff.1 hcut).1
      simp [SplitState.step, StripState.step, hcd, hd, h.quote]
    · have hprev : (p.prev != some '\\') = !s.escaped := by
        rw [Bool.eq_iff_iff, bne_iff_ne, Ne, h.escaped, Bool.not_eq_true, Bool.not_eq_true']
      simp [SplitState.step, StripState.step, hcut, hprev, h.quote, Bool.and_comm]
  escaped := by
    cases hescaped : s.escaped with
    | false => simp [SplitState.step, StripState.step, hescaped]
    | true => simp [SplitState.step, StripState.step, hescaped, hc hescaped]

theorem SplitState.Follows.step_dropped {p : SplitState} {s : StripState} {c : Char}
    (h : p.Follows s) (hdropped : keeps (s.step c) c = false) (hs : s.escaped = false) :
    p.Follows (s.step c) where
  quote := by
    obtain ⟨_, hbefore, hbehind⟩ := quote_of_dropped hdropped
    rw [h.quote, hbefore, hbehind]
  escaped := by
    have hback := not_backslash_of_isBlank (quote_of_dropped hdropped).1
    simp [h.escaped, StripState.step, hs, hback]

/--
Both rules for backslashes come to the same: no backslash stands behind another one, and outside of
spans no backslash stands in front of a blank.
-/
structure PlainEscapes (cs : List Char) : Prop where
  single : ∀ i (h : i < cs.length), cs[i] = '\\' -> cs[i + 1]? ≠ some '\\'
  unblank : ∀ i (h : i < cs.length), cs[i] = '\\' ->
    (StripState.start.run (cs.take i)).quote = none -> cs[i + 1]?.any Text.isBlank = false

instance (cs : List Char) : Decidable (PlainEscapes cs) :=
  decidable_of_iff
    ((∀ i (h : i < cs.length), cs[i] = '\\' -> cs[i + 1]? ≠ some '\\') ∧
      ∀ i (h : i < cs.length), cs[i] = '\\' ->
        (StripState.start.run (cs.take i)).quote = none -> cs[i + 1]?.any Text.isBlank = false)
    ⟨fun h => ⟨h.1, h.2⟩, fun h => ⟨h.single, h.unblank⟩⟩

theorem PlainEscapes.literal {cs : List Char} (h : PlainEscapes cs) {i : Nat} (hi : i < cs.length)
    (hescaped : (StripState.start.run (cs.take i)).escaped = true) :
    cs[i] ≠ '\\' ∧
      ((StripState.start.run (cs.take i)).quote = none -> Text.isBlank cs[i] = false) := by
  have hnext : cs[i]? = some cs[i] := List.getElem?_eq_getElem hi
  cases i with
  | zero => simp [StripState.start] at hescaped
  | succ k =>
      have hk : k < cs.length := by omega
      rw [List.take_succ_eq_append_getElem hk, StripState.run_append_singleton] at hescaped ⊢
      have hback : cs[k] = '\\' := eq_backslash_of_escaped hescaped
      constructor
      · intro hsecond
        exact h.single k hk hback (by rw [hnext, hsecond])
      · intro hnone
        rw [hback, quote_step_backslash] at hnone
        have hunblank := h.unblank k hk hback hnone
        rwa [hnext, Option.any_some] at hunblank

theorem PlainEscapes.follows {cs : List Char} (h : PlainEscapes cs) {d : Char}
    (hd : isQuote d = false) :
    (SplitState.start.run d (kept .start cs)).Follows (StripState.start.run cs) ∧
      SplitState.start.sightings d (kept .start cs) = keptSightings cs := by
  apply sightings_kept_of_related SplitState.Follows
  · exact fun _ _ hfollows => hfollows.quote
  · exact ⟨rfl, by simp [StripState.start, SplitState.start]⟩
  · rintro i hi p s - rfl hfollows -
    exact hfollows.step_kept hd fun hescaped => (h.literal hi hescaped).1
  · rintro i hi p s rfl hfollows hdropped
    obtain ⟨hblank, hbefore, _⟩ := quote_of_dropped hdropped
    refine hfollows.step_dropped hdropped ?_
    cases hescaped : (StripState.start.run (cs.take i)).escaped with
    | false => rfl
    | true => simp [(h.literal hi hescaped).2 hbefore] at hblank

/--
Where both rules for backslashes come to the same, splitting the text that is left sees every
character in the span in which dropping blanks saw it.  So it ends outside of every span, and it
cuts exactly the delimiters that dropping blanks saw outside of every span.
-/
theorem split_sees_kept_text {cs left : List Char} {d : Char} (hstrip : strip cs = .ok left)
    (hplain : PlainEscapes cs) (hd : isQuote d = false) :
    SplitState.start.sightings d left = keptSightings cs ∧
      (SplitState.start.run d left).quote = none ∧
      ∀ i, CutsAt d left i ↔ (keptSightings cs)[i]? = some ⟨d, none, none⟩ := by
  obtain ⟨hclosed, rfl⟩ := strip_eq_ok_iff.1 hstrip
  obtain ⟨hfollows, hseen⟩ := hplain.follows hd
  refine ⟨hseen, by rw [hfollows.quote, hclosed], ?_⟩
  intro i
  rw [cutsAt_iff_sighting hd, hseen]

/-- An escaped mark outside of spans, one inside, a literal blank and a comma inside of quotes. -/
theorem split_sees_kept_text_escapes :
    strip "a\\'b , 'x,\\ \\'y' ,c".toList = .ok "a\\'b,'x,\\ \\'y',c".toList ∧
      PlainEscapes "a\\'b , 'x,\\ \\'y' ,c".toList ∧
      CutsAt ',' "a\\'b,'x,\\ \\'y',c".toList 4 ∧
      ¬CutsAt ',' "a\\'b,'x,\\ \\'y',c".toList 7 := by
  have hstrip : strip "a\\'b , 'x,\\ \\'y' ,c".toList = .ok "a\\'b,'x,\\ \\'y',c".toList := by
    decide
  have hplain : PlainEscapes "a\\'b , 'x,\\ \\'y' ,c".toList := by
    decide
  obtain ⟨_, _, hcuts⟩ := split_sees_kept_text hstrip hplain (d := ',') (by decide)
  rw [hcuts, hcuts]
  exact ⟨hstrip, hplain, by decide, by decide⟩

end Flag

end ProfileOperator
