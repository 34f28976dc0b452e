import Mathlib.Data.List.Forall2

/-!
# Checked computations

What the result of a computation that may fail says about its steps.
-/

namespace ProfileOperator

namespace Checked

variable {ε α β : Type}

theorem bind_eq_ok_iff {x : Except ε α} {f : α -> Except ε β} {b : β} :
    (x >>= f) = .ok b ↔ ∃ a, x = .ok a ∧ f a = .ok b := by
  cases x with
  | error e =>
      constructor
      · intro h
        cases h
      · rintro ⟨a, h, _⟩
        cases h
  | ok a =>
      constructor
      · intro h
        exact ⟨a, rfl, h⟩
      · rintro ⟨a', h, hf⟩
        cases h
        exact hf

theorem mapError_eq_ok_iff {ε' : Type} {f : ε -> ε'} {x : Except ε α} {a : α} :
    x.mapError f = .ok a ↔ x = .ok a := by
  cases x with
  | error e => exact iff_of_false (fun h => nomatch h) fun h => nomatch h
  | ok b => exact ⟨fun h => by cases h; rfl, fun h => by cases h; rfl⟩

theorem map_eq_ok_iff {f : α -> β} {x : Except ε α} {b : β} :
    x.map f = .ok b ↔ ∃ a, x = .ok a ∧ b = f a := by
  cases x with
  | error e => simp [Except.map]
  | ok a => simp [Except.map, eq_comm]

theorem map_eq_error_iff {f : α -> β} {x : Except ε α} {e : ε} :
    x.map f = .error e ↔ x = .error e := by
  cases x with
  | error first => simp [Except.map]
  | ok a => simp [Except.map]

/-- A list is read item by item, and every item must be read. -/
theorem mapM_eq_ok_iff {f : α -> Except ε β} {xs : List α} {ys : List β} :
    xs.mapM f = .ok ys ↔ List.Forall₂ (fun x y => f x = .ok y) xs ys := by
  induction xs generalizing ys with
  | nil =>
      rw [List.mapM_nil, List.forall₂_nil_left_iff]
      constructor
      · intro h
        cases h
        rfl
      · rintro rfl
        rfl
  | cons x xs ih =>
      rw [List.mapM_cons, bind_eq_ok_iff, List.forall₂_cons_left_iff]
      constructor
      · rintro ⟨y, hy, h⟩
        obtain ⟨rest, hrest, hys⟩ := bind_eq_ok_iff.1 h
        cases hys
        exact ⟨y, rest, hy, ih.1 hrest, rfl⟩
      · rintro ⟨y, rest, hy, hrest, rfl⟩
        exact ⟨y, hy, bind_eq_ok_iff.2 ⟨rest, ih.2 hrest, rfl⟩⟩

theorem mapM_congr {f g : α -> Except ε β} {xs : List α} (h : ∀ x ∈ xs, f x = g x) :
    xs.mapM f = xs.mapM g := by
  induction xs with
  | nil => rfl
  | cons x xs ih =>
      rw [List.mapM_cons, List.mapM_cons, h x List.mem_cons_self,
        ih fun y hy => h y (List.mem_cons_of_mem x hy)]

/-- Where a success determines the item read, it determines the list read. -/
theorem mapM_eq_map {f : α -> Except ε β} {g : α -> β} (hg : ∀ x y, f x = .ok y -> y = g x)
    {xs : List α} {ys : List β} (h : xs.mapM f = .ok ys) : ys = xs.map g := by
  have hall := mapM_eq_ok_iff.1 h
  induction hall with
  | nil => rfl
  | cons hxy _ ih =>
      rw [List.map_cons, hg _ _ hxy, ← ih (mapM_eq_ok_iff.2 ‹_›)]

theorem bind_eq_error_iff {x : Except ε α} {f : α -> Except ε β} {e : ε} :
    (x >>= f) = .error e ↔ x = .error e ∨ ∃ a, x = .ok a ∧ f a = .error e := by
  cases x with
  | error first =>
      constructor
      · intro h
        cases h
        exact .inl rfl
      · rintro (h | ⟨a, h, _⟩)
        · cases h
          rfl
        · cases h
  | ok a =>
      constructor
      · intro h
        exact .inr ⟨a, rfl, h⟩
      · rintro (h | ⟨a', h, hf⟩)
        · cases h
        · cases h
          exact hf

/-- A list is read up to the first item that cannot be read, and this item says what is wrong. -/
theorem mapM_eq_error_iff {f : α -> Except ε β} {xs : List α} {e : ε} :
    xs.mapM f = .error e ↔ ∃ front x back, xs = front ++ x :: back ∧
      (∀ y ∈ front, ∃ b, f y = .ok b) ∧ f x = .error e := by
  induction xs with
  | nil =>
      rw [List.mapM_nil]
      constructor
      · intro h
        cases h
      · rintro ⟨front, x, back, h, _⟩
        simp at h
  | cons x xs ih =>
      rw [List.mapM_cons, bind_eq_error_iff]
      constructor
      · rintro (hx | ⟨b, hx, hrest⟩)
        · exact ⟨[], x, xs, rfl, by simp, hx⟩
        · rcases bind_eq_error_iff.1 hrest with hrest | ⟨ys, _, hpure⟩
          · obtain ⟨front, y, back, rfl, hfront, hy⟩ := ih.1 hrest
            have hread := List.forall_mem_cons.2 ⟨⟨b, hx⟩, hfront⟩
            exact ⟨x :: front, y, back, rfl, hread, hy⟩
          · cases hpure
      · rintro ⟨front, y, back, hsplit, hfront, hy⟩
        cases front with
        | nil =>
            obtain ⟨rfl, _⟩ := List.cons.inj hsplit
            exact .inl hy
        | cons z others =>
            obtain ⟨rfl, rfl⟩ := List.cons.inj hsplit
            obtain ⟨⟨b, hx⟩, hothers⟩ := List.forall_mem_cons.1 hfront
            have hrest := ih.2 ⟨others, y, back, rfl, hothers, hy⟩
            exact .inr ⟨b, hx, bind_eq_error_iff.2 (.inl hrest)⟩

theorem exists_mapM_eq_ok_iff {f : α -> Except ε β} {xs : List α} :
    (∃ ys, xs.mapM f = .ok ys) ↔ ∀ x ∈ xs, ∃ y, f x = .ok y := by
  constructor
  · rintro ⟨ys, hys⟩
    have hall := mapM_eq_ok_iff.1 hys
    clear hys
    induction hall with
    | nil => simp
    | cons hxy _ ih =>
        intro z hz
        rcases List.mem_cons.1 hz with rfl | hz
        · exact ⟨_, hxy⟩
        · exact ih z hz
  · intro hall
    cases hread : xs.mapM f with
    | ok ys => exact ⟨ys, rfl⟩
    | error e =>
        obtain ⟨front, x, back, rfl, _, hx⟩ := mapM_eq_error_iff.1 hread
        obtain ⟨y, hy⟩ := hall x (by simp)
        cases hx.symm.trans hy

/-- A list that is read is read as its items are, and each of them is read. -/
theorem mapM_eq_ok_iff_filterMap {f : α -> Except ε β} {xs : List α} {ys : List β} :
    xs.mapM f = .ok ys ↔
      (∀ x ∈ xs, ∃ y, f x = .ok y) ∧ ys = xs.filterMap fun x => (f x).toOption := by
  rw [← exists_mapM_eq_ok_iff]
  have hread : ∀ zs, xs.mapM f = .ok zs -> zs = xs.filterMap fun x => (f x).toOption := by
    intro zs hzs
    have hall := mapM_eq_ok_iff.1 hzs
    clear hzs
    induction hall with
    | nil => rfl
    | cons hxy _ ih =>
        rw [List.filterMap_cons, hxy, ← ih]
        rfl
  constructor
  · intro h
    exact ⟨⟨ys, h⟩, hread ys h⟩
  · rintro ⟨⟨zs, hzs⟩, rfl⟩
    rw [hzs, hread zs hzs]

theorem exists_of_mem_mapM {f : α -> Except ε β} {xs : List α} {ys : List β}
    (h : xs.mapM f = .ok ys) {y : β} (hy : y ∈ ys) : ∃ x ∈ xs, f x = .ok y := by
  obtain ⟨hread, rfl⟩ := mapM_eq_ok_iff_filterMap.1 h
  obtain ⟨x, hx, hfx⟩ := List.mem_filterMap.1 hy
  obtain ⟨b, hb⟩ := hread x hx
  rw [hb] at hfx
  cases hfx
  exact ⟨x, hx, hb⟩

end Checked

end ProfileOperator
