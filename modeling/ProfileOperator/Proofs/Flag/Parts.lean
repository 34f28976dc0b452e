import Mathlib.Data.List.Basic
import ProfileOperator.Flag.Split

/-!
# Parts of a text

Splitting loses nothing: the parts, joined by the delimiter, are the text.  A stretch of text in which
nothing cuts ends up in one part, so a part ends exactly at the first delimiter behind such a stretch
that leaves no span open.
-/

namespace ProfileOperator

namespace Flag

theorem intercalate_consFirst (d c : Char) {ps : List (List Char)} (h : ps ≠ []) :
    List.intercalate [d] (consFirst c ps) = c :: List.intercalate [d] ps := by
  cases ps with
  | nil => exact absurd rfl h
  | cons p rest =>
      cases rest with
      | nil => simp [consFirst]
      | cons q more => simp [consFirst]

theorem intercalate_splitFrom (d : Char) (s : SplitState) (cs : List Char) :
    List.intercalate [d] (splitFrom d s cs) = cs := by
  induction cs generalizing s with
  | nil => simp [splitFrom]
  | cons c cs ih =>
      have hne := splitFrom_ne_nil d (s.step d c) cs
      rw [splitFrom]
      by_cases hcut : s.cuts d c = true
      · rw [if_pos hcut, List.intercalate_cons_of_ne_nil hne, ih, (SplitState.cuts_iff.1 hcut).1]
        rfl
      · rw [if_neg hcut, intercalate_consFirst d c hne, ih]

theorem intercalate_split (d : Char) (cs : List Char) :
    List.intercalate [d] (split d cs) = cs :=
  intercalate_splitFrom d .start cs

/-! ### Texts with a delimiter between them -/

theorem consFirst_append (c : Char) {ps : List (List Char)} (h : ps ≠ [])
    (qs : List (List Char)) : consFirst c (ps ++ qs) = consFirst c ps ++ qs := by
  cases ps with
  | nil => exact absurd rfl h
  | cons p rest => rfl

theorem consFirst_eq_append {c : Char} {parts ps qs : List (List Char)} (hparts : parts ≠ [])
    (hps : ps ≠ []) (h : consFirst c parts = ps ++ qs) :
    ∃ front, front ≠ [] ∧ parts = front ++ qs ∧ ps = consFirst c front := by
  cases parts with
  | nil => exact absurd rfl hparts
  | cons part rest =>
      cases ps with
      | nil => exact absurd rfl hps
      | cons first others =>
          rw [consFirst, List.cons_append, List.cons.injEq] at h
          exact ⟨part :: others, List.cons_ne_nil _ _, by rw [h.2, List.cons_append],
            by rw [consFirst, h.1]⟩

theorem splitFrom_append {d : Char} {s : SplitState} {cs : List Char} (ds : List Char)
    (hclosed : (s.run d cs).quote = none) :
    splitFrom d s (cs ++ d :: ds) =
      splitFrom d s cs ++ splitFrom d ((s.run d cs).step d d) ds := by
  induction cs generalizing s with
  | nil =>
      have hcut : s.cuts d d = true := by
        rw [SplitState.run_nil] at hclosed
        simp [SplitState.cuts, hclosed]
      rw [List.nil_append, splitFrom.eq_2, if_pos hcut]
      rfl
  | cons c cs ih =>
      rw [List.cons_append, splitFrom, splitFrom, ih hclosed, SplitState.run_cons]
      by_cases hcut : s.cuts d c = true
      · rw [if_pos hcut, if_pos hcut, List.cons_append]
      · rw [if_neg hcut, if_neg hcut, consFirst_append c (splitFrom_ne_nil d _ cs)]

/-! ### Where one part ends and the next begins -/

/-- How much of a text the parts take up, each of them with a delimiter behind it. -/
def extent : List (List Char) -> Nat
  | [] => 0
  | part :: rest => part.length + 1 + extent rest

@[simp] theorem extent_nil : extent [] = 0 := rfl

@[simp] theorem extent_cons (part : List Char) (rest : List (List Char)) :
    extent (part :: rest) = part.length + 1 + extent rest := rfl

theorem extent_pos {parts : List (List Char)} (h : parts ≠ []) : 0 < extent parts := by
  cases parts with
  | nil => exact absurd rfl h
  | cons part rest =>
      rw [extent_cons]
      omega

theorem extent_consFirst (c : Char) {parts : List (List Char)} (h : parts ≠ []) :
    extent (consFirst c parts) = extent parts + 1 := by
  cases parts with
  | nil => exact absurd rfl h
  | cons part rest =>
      simp only [consFirst, extent_cons, List.length_cons]
      omega

theorem length_intercalate (d : Char) {parts : List (List Char)} (h : parts ≠ []) :
    (List.intercalate [d] parts).length + 1 = extent parts := by
  induction parts with
  | nil => exact absurd rfl h
  | cons part rest ih =>
      cases rest with
      | nil => simp
      | cons next more =>
          have hrest := ih (List.cons_ne_nil next more)
          rw [List.intercalate_cons_cons, extent_cons, ← hrest]
          simp only [List.length_append, List.length_singleton]
          omega

/-- At the position a delimiter stands between two of the parts. -/
def BreaksAt (parts : List (List Char)) (i : Nat) : Prop :=
  ∃ ps qs, ps ≠ [] ∧ qs ≠ [] ∧ parts = ps ++ qs ∧ extent ps = i + 1

theorem not_breaksAt_singleton {part : List Char} {i : Nat} : ¬BreaksAt [part] i := by
  intro h
  obtain ⟨ps, qs, hps, hqs, hparts, _⟩ := h
  have hlength := congrArg List.length hparts
  have hps := List.length_pos_iff.2 hps
  have hqs := List.length_pos_iff.2 hqs
  simp only [List.length_singleton, List.length_append] at hlength
  omega

theorem breaksAt_nil_cons_zero {parts : List (List Char)} (h : parts ≠ []) :
    BreaksAt ([] :: parts) 0 :=
  ⟨[[]], parts, List.cons_ne_nil _ _, h, rfl, rfl⟩

theorem breaksAt_nil_cons_succ {parts : List (List Char)} {i : Nat} :
    BreaksAt ([] :: parts) (i + 1) ↔ BreaksAt parts i := by
  constructor
  · intro h
    obtain ⟨ps, qs, hps, hqs, hparts, hextent⟩ := h
    obtain ⟨rfl, _⟩ | ⟨front, rfl, hrest⟩ := List.cons_eq_append_iff.1 hparts
    · exact absurd rfl hps
    · rw [extent_cons, List.length_nil] at hextent
      have hfront : front ≠ [] := by
        intro hnil
        rw [hnil, extent_nil] at hextent
        omega
      exact ⟨front, qs, hfront, hqs, hrest, by omega⟩
  · intro h
    obtain ⟨ps, qs, hps, hqs, hparts, hextent⟩ := h
    refine ⟨[] :: ps, qs, List.cons_ne_nil _ _, hqs, by rw [hparts, List.cons_append], ?_⟩
    rw [extent_cons, hextent, List.length_nil]
    omega

theorem not_breaksAt_consFirst_zero {c : Char} {parts : List (List Char)} (h : parts ≠ []) :
    ¬BreaksAt (consFirst c parts) 0 := by
  intro hbreaks
  obtain ⟨ps, qs, hps, _, hparts, hextent⟩ := hbreaks
  obtain ⟨front, hfront, _, rfl⟩ := consFirst_eq_append h hps hparts
  have hpos := extent_pos hfront
  rw [extent_consFirst c hfront] at hextent
  omega

theorem breaksAt_consFirst_succ {c : Char} {parts : List (List Char)} (h : parts ≠ []) {i : Nat} :
    BreaksAt (consFirst c parts) (i + 1) ↔ BreaksAt parts i := by
  constructor
  · intro hbreaks
    obtain ⟨ps, qs, hps, hqs, hparts, hextent⟩ := hbreaks
    obtain ⟨front, hfront, hrest, rfl⟩ := consFirst_eq_append h hps hparts
    rw [extent_consFirst c hfront] at hextent
    exact ⟨front, qs, hfront, hqs, hrest, by omega⟩
  · intro hbreaks
    obtain ⟨ps, qs, hps, hqs, hparts, hextent⟩ := hbreaks
    refine ⟨consFirst c ps, qs, consFirst_ne_nil c ps, hqs, ?_, ?_⟩
    · rw [hparts, consFirst_append c hps]
    · rw [extent_consFirst c hps, hextent]

/-! ### Where a text is cut -/

/-- Read from the given state, the text is cut there: one part ends and the next one begins. -/
def CutsFrom (d : Char) (s : SplitState) (cs : List Char) (i : Nat) : Prop :=
  ∃ ps qs, ps ≠ [] ∧ qs ≠ [] ∧ splitFrom d s cs = ps ++ qs ∧
    (List.intercalate [d] ps).length = i

/-- The text is cut at the position. -/
def CutsAt (d : Char) (cs : List Char) (i : Nat) : Prop :=
  CutsFrom d .start cs i

theorem cutsFrom_iff_breaksAt {d : Char} {s : SplitState} {cs : List Char} {i : Nat} :
    CutsFrom d s cs i ↔ BreaksAt (splitFrom d s cs) i := by
  refine exists_congr fun ps => exists_congr fun qs => and_congr_right fun hps => ?_
  rw [← length_intercalate d hps, Nat.add_right_cancel_iff]

theorem cutsFrom_iff {d : Char} {s : SplitState} {cs : List Char} {i : Nat} :
    CutsFrom d s cs i ↔ cs[i]? = some d ∧ (s.run d (cs.take i)).quote = none := by
  rw [cutsFrom_iff_breaksAt]
  induction cs generalizing s i with
  | nil => exact iff_of_false not_breaksAt_singleton (by simp)
  | cons c cs ih =>
      have hne := splitFrom_ne_nil d (s.step d c) cs
      rw [splitFrom]
      by_cases hcut : s.cuts d c = true
      · rw [if_pos hcut]
        cases i with
        | zero => simpa [breaksAt_nil_cons_zero hne, SplitState.cuts] using hcut
        | succ i => simp [breaksAt_nil_cons_succ, ih]
      · rw [if_neg hcut]
        cases i with
        | zero => simpa [not_breaksAt_consFirst_zero hne, SplitState.cuts] using hcut
        | succ i => simp [breaksAt_consFirst_succ hne, ih]

/-- A text is cut exactly at the delimiters in front of which no span is open. -/
theorem cutsAt_iff {d : Char} {cs : List Char} {i : Nat} :
    CutsAt d cs i ↔ cs[i]? = some d ∧ (SplitState.start.run d (cs.take i)).quote = none :=
  cutsFrom_iff

theorem split_eq_singleton_iff {d : Char} {cs : List Char} :
    split d cs = [cs] ↔
      ∀ i, cs[i]? = some d -> (SplitState.start.run d (cs.take i)).quote ≠ none := by
  constructor
  · intro hone i hdelimiter hnone
    have hcut := cutsFrom_iff_breaksAt.1 (cutsFrom_iff.2 ⟨hdelimiter, hnone⟩)
    rw [show splitFrom d .start cs = [cs] from hone] at hcut
    exact not_breaksAt_singleton hcut
  · intro h
    have hjoin := intercalate_split d cs
    cases hparts : split d cs with
    | nil => exact absurd hparts (split_ne_nil d cs)
    | cons first rest =>
        rw [hparts] at hjoin
        cases rest with
        | nil => rw [← hjoin, List.intercalate_singleton]
        | cons second more =>
            have hcut : CutsAt d cs (List.intercalate [d] [first]).length :=
              ⟨[first], second :: more, List.cons_ne_nil _ _, List.cons_ne_nil _ _, hparts, rfl⟩
            obtain ⟨hdelimiter, hnone⟩ := cutsAt_iff.1 hcut
            exact absurd hnone (h _ hdelimiter)

/-! ### Stretches without a cut -/

/-- No delimiter cuts the text when it is read from the given state. -/
def Uncut (d : Char) (s : SplitState) : List Char -> Prop
  | [] => True
  | c :: cs => s.cuts d c = false ∧ Uncut d (s.step d c) cs

theorem uncut_append (d : Char) (s : SplitState) (cs ds : List Char) :
    Uncut d s (cs ++ ds) ↔ Uncut d s cs ∧ Uncut d (s.run d cs) ds := by
  induction cs generalizing s with
  | nil => simp [Uncut]
  | cons c cs ih => simp only [List.cons_append, Uncut, SplitState.run_cons, ih, and_assoc]

theorem splitFrom_of_uncut {d : Char} {s : SplitState} {cs : List Char} (h : Uncut d s cs) :
    splitFrom d s cs = [cs] := by
  induction cs generalizing s with
  | nil => rfl
  | cons c cs ih =>
      rw [splitFrom, h.1, ih h.2]
      rfl

theorem splitFrom_delimiter {d : Char} {s : SplitState} {cs : List Char} (rest : List Char)
    (h : Uncut d s cs) (hclosed : (s.run d cs).quote = none) :
    splitFrom d s (cs ++ d :: rest) = cs :: splitFrom d ((s.run d cs).step d d) rest := by
  rw [splitFrom_append rest hclosed, splitFrom_of_uncut h]
  rfl

/-! ### Text outside and inside of spans -/

/-- Outside of every span, with nothing before that would make a quote mark literal. -/
structure SplitState.Fresh (s : SplitState) : Prop where
  outside : s.quote = none
  unescaped : s.prev ≠ some '\\'

theorem SplitState.fresh_start : SplitState.start.Fresh where
  outside := rfl
  unescaped := by simp [SplitState.start]

theorem SplitState.fresh_step_delimiter {d : Char} {s : SplitState} (hd : d ≠ '\\')
    (h : s.quote = none) : (s.step d d).Fresh where
  outside := by simp [SplitState.step, SplitState.cuts, h]
  unescaped := by simpa [SplitState.step] using hd

/-- Outside of every span, and with no backslash right before, splitting goes as from the start. -/
theorem splitFrom_of_fresh {d : Char} {s : SplitState} (h : s.Fresh) (cs : List Char) :
    splitFrom d s cs = split d cs := by
  cases cs with
  | nil => rfl
  | cons c cs =>
      have hcuts : s.cuts d c = SplitState.start.cuts d c := by
        simp [SplitState.cuts, SplitState.start, h.outside]
      have hstep : s.step d c = SplitState.start.step d c := by
        simp [SplitState.step, hcuts, SplitState.start, h.outside, h.unescaped]
      rw [split, splitFrom, splitFrom, hcuts, hstep]

theorem split_append {d : Char} (hd : d ≠ '\\') {cs : List Char} (ds : List Char)
    (hclosed : (SplitState.start.run d cs).quote = none) :
    split d (cs ++ d :: ds) = split d cs ++ split d ds := by
  rw [split, splitFrom_append ds hclosed,
    splitFrom_of_fresh (SplitState.fresh_step_delimiter hd hclosed)]
  rfl

/-- The text holds neither the delimiter nor a quote mark nor a backslash. -/
def IsPlain (d : Char) (cs : List Char) : Prop :=
  ∀ c ∈ cs, c ≠ d ∧ isQuote c = false ∧ c ≠ '\\'

theorem uncut_of_isPlain {d : Char} {s : SplitState} {cs : List Char} (hs : s.Fresh)
    (h : IsPlain d cs) : Uncut d s cs ∧ (s.run d cs).Fresh := by
  induction cs generalizing s with
  | nil => exact ⟨trivial, hs⟩
  | cons c cs ih =>
      obtain ⟨hd, hq, hb⟩ := h c List.mem_cons_self
      have hstep : (s.step d c).Fresh :=
        { outside := by simp [SplitState.step, SplitState.cuts, hd, hq, hs.outside]
          unescaped := by simpa [SplitState.step] using hb }
      have hrest := ih hstep fun x hx => h x (List.mem_cons_of_mem c hx)
      refine ⟨⟨?_, hrest.1⟩, hrest.2⟩
      simp [SplitState.cuts, hd]

theorem uncut_inside {d q : Char} {s : SplitState} {cs : List Char} (hs : s.quote = some q)
    (h : q ∉ cs) : Uncut d s cs ∧ (s.run d cs).quote = some q := by
  induction cs generalizing s with
  | nil => exact ⟨trivial, hs⟩
  | cons c cs ih =>
      have hc : q ≠ c := fun e => h (e ▸ List.mem_cons_self)
      have hstep : (s.step d c).quote = some q := by
        simp [SplitState.step, SplitState.cuts, hs, turn_other hc]
      have hrest := ih hstep fun hx => h (List.mem_cons_of_mem c hx)
      refine ⟨⟨?_, hrest.1⟩, hrest.2⟩
      simp [SplitState.cuts, hs]

theorem prev_run (d : Char) (s : SplitState) (cs : List Char) :
    (s.run d cs).prev = cs.getLast?.or s.prev := by
  induction cs generalizing s with
  | nil => simp
  | cons c cs ih =>
      rw [SplitState.run_cons, ih]
      cases cs with
      | nil => rfl
      | cons b rest => simp [List.getLast?_cons]

theorem SplitState.quote_step_opening {d q : Char} {s : SplitState} (hs : s.Fresh)
    (hq : isQuote q = true) (hd : q ≠ d) : (s.step d q).quote = some q := by
  simp [SplitState.step, SplitState.cuts, hd, hq, hs.outside, hs.unescaped]

theorem SplitState.quote_step_closing {d q : Char} {s : SplitState} (hs : s.quote = some q)
    (hq : isQuote q = true) (hprev : s.prev ≠ some '\\') : (s.step d q).quote = none := by
  simp [SplitState.step, SplitState.cuts, hs, hq, hprev]

/-- A quoted text without its quote mark and without a backslash at its end is one stretch. -/
theorem uncut_quoted {d q : Char} {s : SplitState} {cs : List Char} (hs : s.Fresh)
    (hq : isQuote q = true) (hd : q ≠ d) (h : q ∉ cs) (hlast : cs.getLast? ≠ some '\\') :
    Uncut d s (q :: (cs ++ [q])) ∧ (s.run d (q :: (cs ++ [q]))).Fresh := by
  have hqb : q ≠ '\\' := by
    rintro rfl
    exact absurd hq (by decide)
  obtain ⟨huncut, hinside⟩ := uncut_inside (d := d) (SplitState.quote_step_opening hs hq hd) h
  have hprev : ((s.step d q).run d cs).prev ≠ some '\\' := by
    -- The character in front of the closing mark is the last one inside, or else the opening mark.
    rw [prev_run]
    cases hcs : cs.getLast? with
    | none => simpa [SplitState.step] using hqb
    | some c => simpa [hcs] using hlast
  have hlastcut : ((s.step d q).run d cs).cuts d q = false := by
    simp [SplitState.cuts, hd]
  rw [SplitState.run_cons, SplitState.run_append]
  refine ⟨⟨?_, (uncut_append d _ cs [q]).2 ⟨huncut, hlastcut, trivial⟩⟩, ?_, ?_⟩
  · simp [SplitState.cuts, hd]
  · exact SplitState.quote_step_closing hinside hq hprev
  · simpa [SplitState.step] using hqb

/-! ### Lists of closed parts -/

/-- Wherever the text is read outside of every span, nothing cuts it and it leaves no span open. -/
def IsClosed (d : Char) (cs : List Char) : Prop :=
  ∀ s : SplitState, s.Fresh -> Uncut d s cs ∧ (s.run d cs).Fresh

theorem isClosed_of_isPlain {d : Char} {cs : List Char} (h : IsPlain d cs) : IsClosed d cs :=
  fun _ hs => uncut_of_isPlain hs h

theorem IsClosed.append {d : Char} {cs ds : List Char} (hcs : IsClosed d cs)
    (hds : IsClosed d ds) : IsClosed d (cs ++ ds) := by
  intro s hs
  obtain ⟨hfirst, hmiddle⟩ := hcs s hs
  obtain ⟨hsecond, hend⟩ := hds _ hmiddle
  rw [uncut_append, SplitState.run_append]
  exact ⟨⟨hfirst, hsecond⟩, hend⟩

theorem splitFrom_intercalate {d : Char} (hd : d ≠ '\\') {ps : List (List Char)} (hne : ps ≠ [])
    (hps : ∀ p ∈ ps, IsClosed d p) {s : SplitState} (hs : s.Fresh) :
    splitFrom d s (List.intercalate [d] ps) = ps := by
  induction ps generalizing s with
  | nil => exact absurd rfl hne
  | cons p rest ih =>
      obtain ⟨huncut, hclosed⟩ := hps p List.mem_cons_self s hs
      cases rest with
      | nil =>
          rw [List.intercalate_singleton]
          exact splitFrom_of_uncut huncut
      | cons q more =>
          have hnext := SplitState.fresh_step_delimiter (d := d) hd hclosed.outside
          rw [List.intercalate_cons_cons, List.append_assoc, List.singleton_append,
            splitFrom_delimiter _ huncut hclosed.outside,
            ih (List.cons_ne_nil q more) (fun x hx => hps x (List.mem_cons_of_mem p hx)) hnext]

/-- Closed parts that are joined by the delimiter are found again. -/
theorem split_intercalate {d : Char} (hd : d ≠ '\\') {ps : List (List Char)} (hne : ps ≠ [])
    (hps : ∀ p ∈ ps, IsClosed d p) : split d (List.intercalate [d] ps) = ps :=
  splitFrom_intercalate hd hne hps SplitState.fresh_start

end Flag

end ProfileOperator
