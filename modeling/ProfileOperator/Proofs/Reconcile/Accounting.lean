import ProfileOperator.Proofs.Reconcile.Ledger

/-!
# The accounts of the metrics

Calls are made for any profiles, and others change the server at any moment.  The calls go on at the same
time, move by move in any order, also where they are for one profile.  At every moment the metrics agree
with the history, and once the calls have ended they tell how many there were, how many of them failed, and
for which profiles PodDefaults are in place.
-/

namespace ProfileOperator

open Pass

variable {ι σ : Type}

inductive Turn (ι σ : Type) where
  /-- Others change the server. -/
  | outside (server : σ)
  /-- A call starts, under an identifier of its own. -/
  | start (i : ι) (p : Profile) (now : Time.Instant)
  | advance (i : ι)

namespace World

variable [DecidableEq ι]

/-- What happens in a turn.  A call whose identifier was given before is not a new one. -/
def turn (serve : Handler σ) (templates : List Template) (w : World ι σ) : Turn ι σ -> World ι σ
  | .outside server => { w with server := server }
  | .start i p now =>
      if w.history.any fun record => record.id = i then w
      else w.start i p (p.reconcile now templates)
  | .advance i => w.advance serve i

def takeTurns (serve : Handler σ) (templates : List Template) (w : World ι σ)
    (turns : List (Turn ι σ)) : World ι σ :=
  turns.foldl (turn serve templates) w

theorem takeTurns_append (serve : Handler σ) (templates : List Template) (w : World ι σ)
    (turns more : List (Turn ι σ)) :
    w.takeTurns serve templates (turns ++ more) =
      (w.takeTurns serve templates turns).takeTurns serve templates more :=
  List.foldl_append

theorem takeTurns_advance (serve : Handler σ) (templates : List Template) (w : World ι σ)
    (n : Nat) (i : ι) :
    w.takeTurns serve templates (List.replicate n (.advance i)) =
      w.run (fun _ => serve) (List.replicate n i) := by
  rw [← List.map_replicate, takeTurns, List.foldl_map]
  rfl

variable {w : World ι σ} {i : ι}

theorem takeTurns_start {serve : Handler σ} {templates : List Template}
    (hnew : ∀ record ∈ w.history, record.id ≠ i) (p : Profile) (now : Time.Instant)
    (turns : List (Turn ι σ)) :
    w.takeTurns serve templates (.start i p now :: turns) =
      (w.start i p (p.reconcile now templates)).takeTurns serve templates turns := by
  have hturn : w.turn serve templates (.start i p now) =
      w.start i p (p.reconcile now templates) := by
    rw [turn, if_neg]
    simpa using hnew
  rw [takeTurns, List.foldl_cons, hturn, takeTurns]

/-! ### Calls that nothing comes between -/

section

variable (hnew : ∀ record ∈ w.history, record.id ≠ i) (serve : Handler σ) (p : Profile)
variable {pass : Pass Failure Requeue} {n : Nat} (hn : (pass.moves serve w.server).length ≤ n)

include hn

theorem started_mem_run :
    ⟨i, p, .started⟩ ∈ ((w.start i p pass).run (fun _ => serve) (List.replicate n i)).history := by
  have hfinal : (w.start i p pass).run (fun _ => serve) (List.replicate n i) =
      (w.start i p pass).atEnd serve i ⟨p, pass⟩ :=
    w.run_start i p pass hn
  rw [hfinal]
  exact List.mem_append_right _ List.mem_cons_self

include hnew

theorem quiet_start (stock : σ -> Stock) (ns : String) :
    let final := (w.start i p pass).run (fun _ => serve) (List.replicate n i)
    Quiet stock ns w.server (Record.asked i final.history) final.server := by
  intro final
  have hfinal : final = (w.start i p pass).atEnd serve i ⟨p, pass⟩ := w.run_start i p pass hn
  have hasked : Record.asked i final.history = pass.exchanges serve w.server := by
    have hmoves : Record.moves i (w.start i p pass).history = [.started] := by
      rw [start, moves_after, Record.moves_eq_nil_iff.2 hnew]
      rfl
    rw [hfinal, Record.asked, moves_atEnd, hmoves, ← exchanges_moves]
    rfl
  rw [hasked, hfinal]
  exact quiet_exchanges serve stock ns pass w.server

end

end World

/-! ### Calls in order -/

/--
A call for the profile has made these moves: it has started, then worked, and measured what it should.  The
last argument is what is left of it, if it has not ended.
-/
def InOrder (p : Profile) (templates : List Template) (moves : List (Move σ)) :
    Option (Pass Failure Requeue) -> Prop
  | some rest => ∃ work, moves = .started :: work ∧ (∀ move ∈ work, move.step?.isSome = true) ∧
      rest.Walks (p.MayNote templates)
        (fun asked taken result => p.Accounted templates asked taken result)
        (moves.filterMap Move.exchange?) (moves.filterMap Move.measure?)
  | none => ∃ work result, moves = .started :: (work ++ [.ended result]) ∧
      (∀ move ∈ work, move.step?.isSome = true) ∧
      p.Accounted templates (moves.filterMap Move.exchange?) (moves.filterMap Move.measure?) result

variable {serve : Handler σ} {p : Profile} {templates : List Template} {moves : List (Move σ)}

theorem filterMap_concat {β : Type} (f : Move σ -> Option β) (moves : List (Move σ)) (move : Move σ) :
    (moves ++ [move]).filterMap f = moves.filterMap f ++ (f move).toList := by
  rw [List.filterMap_append]
  cases hmove : f move <;> simp [hmove]

theorem measure?_noted (event : Event) :
    (Move.measure? (.noted event : Move σ)).toList = Event.measures [event] := by
  cases event <;> rfl

/-- The next move of a call in order: it may say what it notes, and has had its answers from the server. -/
theorem InOrder.stride {rest : Pass Failure Requeue} (h : InOrder p templates moves (some rest))
    (serve : Handler σ) (s : σ) :
    InOrder p templates (moves ++ [(rest.stride serve s).move]) (rest.stride serve s).rest ∧
      (∀ event, (rest.stride serve s).move = .noted event ->
        p.MayNote templates (moves.filterMap Move.exchange?) event) ∧
      ∀ x, (rest.stride serve s).move = .asked x -> x.IsServed serve := by
  obtain ⟨work, hmoves, hwork, hwalks⟩ := h
  have hmore : ∀ move : Move σ, move.step?.isSome = true ->
      ∀ other ∈ work ++ [move], other.step?.isSome = true := by
    intro move hmove
    exact List.forall_mem_append.2 ⟨hwork, List.forall_mem_singleton.2 hmove⟩
  have hconcat : ∀ move : Move σ, moves ++ [move] = .started :: (work ++ [move]) := by
    intro move
    rw [hmoves, List.cons_append]
  have hends : ∀ result, (p.Accounted templates (moves.filterMap Move.exchange?)
      (moves.filterMap Move.measure?) result) -> InOrder p templates (moves ++ [.ended result]) none := by
    intro result haccounted
    refine ⟨work, result, hconcat _, hwork, ?_⟩
    simpa only [filterMap_concat, Move.exchange?, Move.measure?, Option.toList_none, List.append_nil]
      using haccounted
  cases rest with
  | done requeue => exact ⟨hends _ hwalks, (fun _ h => nomatch h), fun _ h => nomatch h⟩
  | fail cause => exact ⟨hends _ hwalks, (fun _ h => nomatch h), fun _ h => nomatch h⟩
  | note event rest =>
      refine ⟨⟨_, hconcat _, hmore _ rfl, ?_⟩, fun _ h => ?_, fun _ h => ?_⟩
      · rw [filterMap_concat, filterMap_concat, Pass.stride, measure?_noted]
        simpa only [Move.exchange?, Option.toList_none, List.append_nil] using hwalks.2
      · cases h
        exact hwalks.1
      · cases h
  | send r next =>
      refine ⟨⟨_, hconcat _, hmore _ rfl, ?_⟩, fun _ h => ?_, fun _ h => ?_⟩
      · rw [filterMap_concat, filterMap_concat, Pass.stride]
        simpa only [Move.exchange?, Move.measure?, Option.toList_none, Option.toList_some,
          List.append_nil] using hwalks _ _ _
      · cases h
      · cases h
        exact ⟨rfl, rfl⟩

/-- A call in order that has ended has been counted as it should. -/
theorem InOrder.count (h : InOrder p templates moves none) :
    moves.countP Move.isStart = 1 ∧ (moves.countP fun move => move.result?.isSome) = 1 ∧
      (moves.countP fun move => move.measure? == some .started) = 1 ∧
      (moves.countP fun move => move.measure? == some .ended) = 1 ∧
      (moves.countP fun move => move.measure? == some .failed) = moves.countP Move.fails := by
  obtain ⟨work, result, hmoves, hwork, haccounted⟩ := h
  obtain ⟨hstarted, hended, hfailed⟩ := haccounted.count
  simp only [List.count_filterMap] at hstarted hended hfailed
  -- What is no step of the work is done at the start or at the end.
  have hcount : ∀ q : Move σ -> Bool, (∀ move, move.step?.isSome = true -> q move = false) ->
      moves.countP q = [Move.started, .ended result].countP q := by
    intro q hq
    have hnone : work.countP q = 0 := by
      rw [List.countP_eq_zero]
      intro move hmove
      rw [hq move (hwork move hmove)]
      exact Bool.false_ne_true
    rw [hmoves, List.countP_cons, List.countP_append, hnone, Nat.zero_add, ← List.countP_cons]
  have hsteps : ∀ move : Move σ, move.step?.isSome = true ->
      move.isStart = false ∧ move.result?.isSome = false ∧ move.fails = false := by
    intro move hmove
    cases move with
    | noted event => exact ⟨rfl, rfl, rfl⟩
    | asked x => exact ⟨rfl, rfl, rfl⟩
    | _ => cases hmove
  rw [hstarted, hended, hfailed, hcount _ fun move h => (hsteps move h).1,
    hcount _ fun move h => (hsteps move h).2.1, hcount _ fun move h => (hsteps move h).2.2]
  refine ⟨rfl, rfl, rfl, rfl, ?_⟩
  cases result <;> rfl

/-! ### Worlds in order -/

namespace World

variable [DecidableEq ι] {w : World ι σ} {i : ι}

/-- The calls are in order, and what is measured is what is in their history. -/
structure Booked (serve : Handler σ) (templates : List Template) (w : World ι σ) : Prop where
  registry : w.registry = Record.registry w.history
  honest : Record.Honest templates w.history
  served : ∀ record ∈ w.history, ∀ x, record.move = .asked x -> x.IsServed serve
  calls : ∀ i, (Record.moves i w.history = [] ∧ w.calls i = none) ∨
    ∃ p, (∀ record ∈ w.history, record.id = i -> record.given = p) ∧
      InOrder p templates (Record.moves i w.history) ((w.calls i).map Call.rest) ∧
      ∀ call, w.calls i = some call -> call.given = p

theorem booked_start (serve : Handler σ) (templates : List Template) (s : σ) :
    ({ server := s } : World ι σ).Booked serve templates where
  registry := rfl
  honest := trivial
  served _ h := absurd h List.not_mem_nil
  calls _ := Or.inl ⟨rfl, rfl⟩

theorem Booked.after (h : w.Booked serve templates) {next : Stride σ}
    (hgiven : ∀ record ∈ w.history, record.id = i -> record.given = p)
    (horder : InOrder p templates (Record.moves i w.history ++ [next.move]) next.rest)
    (hnoted : ∀ event, next.move = .noted event ->
      p.MayNote templates (Record.asked i w.history) event)
    (hserved : ∀ x, next.move = .asked x -> x.IsServed serve) :
    (w.after i p next).Booked serve templates where
  registry := congrArg (Metrics.Registry.takeSteps · next.move.step?.toList) h.registry
  honest := ⟨hnoted, h.honest⟩
  served := List.forall_mem_cons.2 ⟨hserved, h.served⟩
  calls := by
    intro j
    by_cases hj : j = i
    · subst hj
      refine Or.inr ⟨p, List.forall_mem_cons.2 ⟨fun _ => rfl, hgiven⟩, ?_, ?_⟩
      · rw [moves_after, calls_after_self, Option.map_map]
        exact (Option.map_id' (x := next.rest)).symm ▸ horder
      · rw [calls_after_self]
        intro call hcall
        obtain ⟨rest, _, rfl⟩ := Option.map_eq_some_iff.1 hcall
        rfl
    · rw [moves_after_of_ne hj, calls_after_of_ne hj]
      refine (h.calls j).imp id ?_
      rintro ⟨q, hq, hrest⟩
      exact ⟨q, List.forall_mem_cons.2 ⟨fun hi => absurd hi.symm hj, hq⟩, hrest⟩

theorem Booked.turn (h : w.Booked serve templates) (t : Turn ι σ) :
    (w.turn serve templates t).Booked serve templates := by
  cases t with
  | outside server => exact ⟨h.registry, h.honest, h.served, h.calls⟩
  | start i p now =>
      unfold World.turn
      dsimp only
      split
      · exact h
      · next hnew =>
          have hgiven : ∀ record ∈ w.history, record.id ≠ i := by
            intro record hrecord hi
            exact hnew (List.any_eq_true.2 ⟨record, hrecord, decide_eq_true hi⟩)
          have hmoves : Record.moves i w.history = [] := by
            rw [Record.moves_eq_nil_iff]
            exact hgiven
          refine h.after (fun record hrecord hi => absurd hi (hgiven record hrecord)) ?_
            (fun _ h => nomatch h) fun _ h => nomatch h
          rw [hmoves]
          exact ⟨[], rfl, fun _ h => absurd h List.not_mem_nil, p.reconcile_walks now templates⟩
  | advance i =>
      unfold World.turn
      dsimp only
      cases hcall : w.calls i with
      | none =>
          rw [advance_of_none hcall]
          exact h
      | some call =>
          rw [advance_of_some hcall]
          rcases h.calls i with ⟨_, hnone⟩ | ⟨p, hgiven, horder, hcallee⟩
          · rw [hnone] at hcall
            cases hcall
          · rw [hcall] at horder
            obtain ⟨horder', hnoted, hserved⟩ := horder.stride serve w.server
            obtain rfl := hcallee call hcall
            exact h.after hgiven horder' hnoted hserved

theorem Booked.takeTurns (h : w.Booked serve templates) (turns : List (Turn ι σ)) :
    (w.takeTurns serve templates turns).Booked serve templates := by
  induction turns generalizing w with
  | nil => exact h
  | cons t rest ih => exact ih (h.turn t)

/-! ### Calls that have ended -/

theorem Booked.accounted (h : w.Booked serve templates) (hstarted : ⟨i, p, .started⟩ ∈ w.history)
    (hended : w.calls i = none) :
    (∀ record ∈ w.history, record.id = i -> record.given = p) ∧ ∃ result,
      p.Accounted templates (Record.asked i w.history) (Record.taken i w.history) result := by
  rcases h.calls i with ⟨hnone, _⟩ | ⟨q, hgiven, horder, _⟩
  · exact absurd rfl (Record.moves_eq_nil_iff.1 hnone _ hstarted)
  · obtain rfl : p = q := hgiven _ hstarted rfl
    rw [hended] at horder
    obtain ⟨_, result, _, _, haccounted⟩ := horder
    exact ⟨hgiven, result, haccounted⟩

theorem Booked.counts (h : w.Booked serve templates) (hended : ∀ i, w.calls i = none) :
    Record.ended w.history = Record.made w.history ∧
      Record.tally w.history .started = Record.made w.history ∧
      Record.tally w.history .ended = Record.made w.history ∧
      Record.tally w.history .failed = Record.failed w.history := by
  have hsame : ∀ q q' : Move σ -> Bool,
      (∀ p moves, InOrder p templates moves none -> moves.countP q = moves.countP q') ->
      (w.history.countP fun record => q record.move) =
        w.history.countP fun record => q' record.move := by
    intro q q' horders
    refine Record.countP_eq_of_moves fun i => ?_
    rcases h.calls i with ⟨hnone, _⟩ | ⟨p, _, horder, _⟩
    · rw [hnone]
      rfl
    · rw [hended i] at horder
      exact horders p _ horder
  refine ⟨hsame (fun move => move.result?.isSome) Move.isStart fun _ _ horder => ?_,
    hsame (fun move => move.measure? == some .started) Move.isStart fun _ _ horder => ?_,
    hsame (fun move => move.measure? == some .ended) Move.isStart fun _ _ horder => ?_,
    hsame (fun move => move.measure? == some .failed) Move.fails fun _ _ horder => ?_⟩
  all_goals
    obtain ⟨hstart, hend, hstarted, hended, hfailed⟩ := horder.count
    simp only [hstart, hend, hstarted, hended, hfailed]

theorem Booked.isServed (h : w.Booked serve templates) :
    ∀ x ∈ Record.asked i w.history, x.IsServed serve := by
  intro x hx
  obtain ⟨move, hmove, hasked⟩ := List.mem_filterMap.1 hx
  obtain ⟨given, hrecord⟩ := Record.mem_moves.1 hmove
  cases move with
  | asked y => exact h.served _ hrecord x (congrArg Move.asked (Option.some.inj hasked))
  | _ => cases hasked

/-- A call has brought everything into place if it has noted that, and then it was so. -/
theorem Booked.hasCompleted_iff (h : w.Booked serve templates)
    (hstarted : ⟨i, p, .started⟩ ∈ w.history) (hended : w.calls i = none) :
    p.HasCompleted templates (Record.asked i w.history) ↔
      ∃ later record older, w.history = later ++ record :: older ∧ record.id = i ∧
        record.Completes templates p.name older := by
  obtain ⟨hgiven, result, haccounted⟩ := h.accounted hstarted hended
  constructor
  · intro hcompleted
    obtain ⟨count, htaken⟩ := haccounted.mem_applied_iff.2 hcompleted
    obtain ⟨later, record, older, hsplit, hi, hmeasure⟩ := Record.exists_of_mem_taken htaken
    have hhonest := (hsplit ▸ h.honest).of_append
    exact ⟨later, record, older, hsplit, hi, (hhonest.completes hmeasure).2⟩
  · rintro ⟨later, record, older, hsplit, rfl, hcompletes⟩
    have hrecord := hgiven record (hsplit ▸ List.mem_append_right later List.mem_cons_self) rfl
    refine ⟨Record.asked record.id older, Record.asked record.id (later ++ [record]), ?_,
      hrecord ▸ hcompletes.completes⟩
    rw [hsplit, List.append_cons, Record.asked_append]

theorem Booked.isTidied_iff (h : w.Booked serve templates)
    (hstarted : ⟨i, p, .started⟩ ∈ w.history) (hended : w.calls i = none) :
    p.IsTidied ↔ ∃ record ∈ w.history, record.id = i ∧ record.CleansUp p.name := by
  obtain ⟨hgiven, result, haccounted⟩ := h.accounted hstarted hended
  constructor
  · intro htidied
    have htaken := haccounted.mem_unapplied_iff.2 htidied
    obtain ⟨later, record, older, hsplit, hi, hmeasure⟩ := Record.exists_of_mem_taken htaken
    have hhonest := (hsplit ▸ h.honest).of_append
    exact ⟨record, hsplit ▸ List.mem_append_right later List.mem_cons_self, hi,
      hhonest.cleansUp hmeasure⟩
  · rintro ⟨record, hrecord, rfl, hcleans⟩
    exact hgiven record hrecord rfl ▸ hcleans.tidied

end World

/-! ### The metrics -/

/--
However the calls overlap, once none is in progress as many calls and durations are counted as calls have
been made, and as many errors as of them have failed.  At every moment PodDefaults are measured for the
profile of a name exactly if, of the calls that brought everything into place or tidied up for it, the last
has done the former, and then as many as there are templates.  Of the calls that have ended, these are the
ones that have gone through all PodDefaults, and those for profiles to tidy up after; and where nobody else
writes to its namespace, one of the former leaves as many managed PodDefaults there.
-/
theorem metrics_account_for_calls [DecidableEq ι] (serve : Handler σ) (templates : List Template)
    (s : σ) (turns : List (Turn ι σ)) :
    let w := ({ server := s } : World ι σ).takeTurns serve templates turns
    ((∀ i, w.calls i = none) ->
      (w.registry.reconciliations.get? Metrics.Registry.runKind).getD 0 = Record.made w.history ∧
      ((w.registry.durations.get? Metrics.Registry.runKind).getD []).length = Record.made w.history ∧
      Record.ended w.history = Record.made w.history ∧
      (w.registry.errors.get? Metrics.Registry.runKind).getD 0 = Record.failed w.history) ∧
    (∀ name,
      ((w.registry.applied.get? name).isSome = true ↔
        Record.LastCompletes templates name w.history) ∧
      ∀ count, w.registry.applied.get? name = some count -> count = templates.length) ∧
    ∀ i p, ⟨i, p, .started⟩ ∈ w.history -> w.calls i = none ->
      (p.HasCompleted templates (Record.asked i w.history) ↔
        ∃ later record older, w.history = later ++ record :: older ∧ record.id = i ∧
          record.Completes templates p.name older) ∧
      (p.IsTidied ↔ ∃ record ∈ w.history, record.id = i ∧ record.CleansUp p.name) ∧
      ∀ (accepts : String -> Prop) (stock : σ -> Stock), Stores accepts serve stock ->
        Spares serve stock -> (∀ t ∈ templates, accepts t.name) ->
        (templates.map Template.name).Nodup -> accepts p.name ->
        p.HasCompleted templates (Record.asked i w.history) ->
          ∀ s, (stock s).Named accepts p.name ->
            Quiet stock p.name s (Record.asked i w.history) w.server ->
              ((stock w.server).managed p.name).length = templates.length := by
  classical
  intro w
  have hbooked : w.Booked serve templates := (World.booked_start serve templates s).takeTurns turns
  refine ⟨fun hended => ?_, fun name => ?_, fun i p hstarted hended => ⟨?_, ?_, ?_⟩⟩
  · obtain ⟨hends, hstarts, hdurations, herrors⟩ := hbooked.counts hended
    have hcounts := Record.counts_registry w.history
    rw [hbooked.registry]
    exact ⟨hcounts.reconciliations.trans hstarts, hcounts.durations.trans hdurations, hends,
      hcounts.errors.trans herrors⟩
  · rw [hbooked.registry, Record.get?_applied_registry hbooked.honest name]
    split
    · next hlast => exact ⟨⟨fun _ => hlast, fun _ => rfl⟩, fun _ h => (Option.some.inj h).symm⟩
    · next hlast => exact ⟨⟨(fun h => nomatch h), fun h => absurd h hlast⟩, fun _ h => nomatch h⟩
  · exact hbooked.hasCompleted_iff hstarted hended
  · exact hbooked.isTidied_iff hstarted hended
  · intro accepts stock hstores hspares htemplates hnodup hspace hcompleted s hnamed hquiet
    obtain ⟨_, _, haccounted⟩ := hbooked.accounted hstarted hended
    exact hcompleted.length_managed haccounted.records hstores hspares hspace htemplates hnodup
      hnamed hbooked.isServed hquiet

/--
A profile is applied; when its PodDefaults are in place it is tidied up after, and it is gone before its
status can be recorded.  Then another one is applied, where a PodDefault is stale.
-/
theorem metrics_account_for_calls_overlapping :
    ∃ (c : Api.Cluster) (templates : List Template) (turns : List (Turn (Fin 3) Api.Cluster)),
      let w := ({ server := c } : World (Fin 3) _).takeTurns Api.Cluster.serve templates turns
      (∀ i, w.calls i = none) ∧
      (w.registry.reconciliations.get? Metrics.Registry.runKind).getD 0 = 3 ∧
      ((w.registry.durations.get? Metrics.Registry.runKind).getD []).length = 3 ∧
      (w.registry.errors.get? Metrics.Registry.runKind).getD 0 = 1 ∧
      w.registry.applied.get? "old" = none ∧ w.registry.applied.get? "team" = some 2 ∧
      (Stock.managed w.server.podDefaultsIn "team").length = 2 := by
  -- Only what is said here of the calls counts, not how they came about.
  obtain ⟨c, templates, turns, team, now, hmiddle, hn, hnamed, htemplates, hteam, hended, hcounts,
      hgauges, hids⟩ :
      ∃ (c : Api.Cluster) (templates : List Template) (turns : List (Turn (Fin 3) Api.Cluster))
        (team : Profile) (now : Time.Instant),
        let middle := ({ server := c } : World (Fin 3) _).takeTurns Api.Cluster.serve templates turns
        let pass := team.reconcile now templates
        let w := ({ server := c } : World (Fin 3) _).takeTurns Api.Cluster.serve templates
          (turns ++ .start 2 team now :: List.replicate 20 (.advance 2))
        (∀ record ∈ middle.history, record.id ≠ 2) ∧
        (pass.moves Api.Cluster.serve middle.server).length ≤ 20 ∧
        (∀ a ∈ (middle.server.podDefaultsIn "team").toList, Api.IsPlainName a.1 ∧ a.2.name = a.1) ∧
        ((∀ t ∈ templates, Api.IsPlainName t.name) ∧ (templates.map Template.name).Nodup ∧
          templates.length = 2) ∧
        team.name = "team" ∧ (∀ i, (w.calls i).isNone = true) ∧
        (Record.made w.history = 3 ∧ Record.failed w.history = 1) ∧
        (w.registry.applied.get? "old" = none ∧ w.registry.applied.get? "team" = some 2) ∧
        ∀ record ∈ w.history, record.given.name = "team" -> record.id = 2 := by
    let now : Time.Instant := {
      date := { year := 2024, month := 1, day := 1 }
      time := { hour := 0, minute := 0, second := 0, nanosecond := 0 } }
    let profile (name : String) (deletion : Option Time.Instant) : Profile := {
      metadata := {
        name := some name, finalizers := some [finalizer], deletionTimestamp := deletion }
      spec := { owner := some { kind := "User", name := "alice" } } }
    let stale : PodDefault := {
      metadata := { name := some "stale", labels := some managedLabels }, spec := { selector := {} } }
    exact ⟨{
        profiles := {
          toList := [("old", profile "old" (some now)), ("team", profile "team" none)]
          sorted := by decide +kernel }
        podDefaults := .single "team" (.single "stale" stale) },
      [⟨"a", {}⟩, ⟨"b", {}⟩],
      .start 0 (profile "old" none) now :: List.replicate 11 (.advance 0) ++
        .start 1 (profile "old" (some now)) now :: List.replicate 12 (.advance 1) ++
        List.replicate 12 (.advance 0),
      profile "team" none, now, by decide +kernel⟩
  let middle := ({ server := c } : World (Fin 3) _).takeTurns Api.Cluster.serve templates turns
  let pass := team.reconcile now templates
  let final := (middle.start 2 team pass).run (fun _ => Api.Cluster.serve) (List.replicate 20 2)
  have hmain := metrics_account_for_calls Api.Cluster.serve templates c
    (turns ++ .start 2 team now :: List.replicate 20 (.advance 2))
  have hfinal : ({ server := c } : World (Fin 3) _).takeTurns Api.Cluster.serve templates
      (turns ++ .start 2 team now :: List.replicate 20 (.advance 2)) = final := by
    rw [World.takeTurns_append, World.takeTurns_start hmiddle, World.takeTurns_advance]
  have hstarted : ⟨2, team, .started⟩ ∈ final.history := World.started_mem_run Api.Cluster.serve team hn
  have hquiet := World.quiet_start hmiddle Api.Cluster.serve team hn Api.Cluster.podDefaultsIn "team"
  rw [hfinal] at hmain hended hcounts hgauges hids
  obtain ⟨hmetrics, hgauge, hcalls⟩ := hmain
  have hended' : ∀ i, final.calls i = none := fun i => Option.isNone_iff_eq_none.1 (hended i)
  obtain ⟨hreconciliations, hdurations, _, herrors⟩ := hmetrics hended'
  obtain ⟨hiff, _, hmanaged⟩ := hcalls 2 team hstarted (hended' 2)
  obtain ⟨later, record, older, hsplit, hcompletes, _⟩ :=
    (hgauge "team").1.1 (by rw [hgauges.2]; rfl)
  have hid := hids record (hsplit ▸ List.mem_append_right later List.mem_cons_self) hcompletes.named
  rw [hteam] at hiff hmanaged
  have hlength := hmanaged Api.IsPlainName Api.Cluster.podDefaultsIn
    Api.Cluster.storesOrFails.toStores Api.Cluster.spares htemplates.1 htemplates.2.1 (by decide)
    (hiff.2 ⟨later, record, older, hsplit, hid, hcompletes⟩) middle.server
    (Stock.named_of_forall hnamed) hquiet
  refine ⟨c, templates, turns ++ .start 2 team now :: List.replicate 20 (.advance 2), ?_⟩
  rw [hfinal]
  exact ⟨hended', hreconciliations.trans hcounts.1, hdurations.trans hcounts.1,
    herrors.trans hcounts.2, hgauges.1, hgauges.2, hlength.trans htemplates.2.2⟩

end ProfileOperator
