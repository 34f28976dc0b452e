/-!
# Sorted dictionaries

A dictionary from names to values, kept as the list of its entries in ascending order of name.  Names
are ordered by code point.  The order is part of the type, so two dictionaries with the same look-ups
are equal (`Dict.ext_get?`), and every listing of a dictionary comes out in the one order.
-/

namespace ProfileOperator

/-- A finite map from names to values whose entries are listed in ascending order of name. -/
structure Dict (β : Type) where
  toList : List (String × β)
  /-- Every name is smaller than those after it. -/
  sorted : toList.Pairwise fun a b => a.1 < b.1 := by simp

namespace Dict

variable {β γ : Type}

instance [DecidableEq β] : DecidableEq (Dict β) := fun a b =>
  if h : a.toList = b.toList then
    isTrue (by cases a; cases b; simp_all)
  else
    isFalse fun e => h (by rw [e])

def empty : Dict β := { toList := [] }

instance : EmptyCollection (Dict β) := ⟨empty⟩

instance : Inhabited (Dict β) := ⟨empty⟩

def lookup (k : String) : List (String × β) -> Option β
  | [] => none
  | (k', v) :: rest => if k = k' then some v else lookup k rest

def get? (d : Dict β) (k : String) : Option β :=
  lookup k d.toList

def keys (d : Dict β) : List String :=
  d.toList.map (·.1)

def values (d : Dict β) : List β :=
  d.toList.map (·.2)

def size (d : Dict β) : Nat :=
  d.toList.length

def isEmpty (d : Dict β) : Bool :=
  d.toList.isEmpty

def contains (d : Dict β) (k : String) : Bool :=
  (d.get? k).isSome

/-- Put an entry where it belongs in a sorted list, in place of one of the same name. -/
def put (k : String) (v : β) : List (String × β) -> List (String × β)
  | [] => [(k, v)]
  | (k', v') :: rest =>
      if k < k' then (k, v) :: (k', v') :: rest
      else if k = k' then (k, v) :: rest
      else (k', v') :: put k v rest

theorem mem_put {k : String} {v : β} {l : List (String × β)} {a : String × β}
    (h : a ∈ put k v l) : a = (k, v) ∨ a ∈ l := by
  induction l with
  | nil => simpa [put] using h
  | cons b rest ih =>
      obtain ⟨k', v'⟩ := b
      rw [put] at h
      split at h
      · simpa using h
      · split at h
        · rcases List.mem_cons.1 h with h | h
          · exact Or.inl h
          · exact Or.inr (List.mem_cons_of_mem _ h)
        · rcases List.mem_cons.1 h with h | h
          · exact Or.inr (h ▸ List.mem_cons_self ..)
          · exact (ih h).imp id (List.mem_cons_of_mem _)

theorem lt_of_not_lt_of_ne {a b : String} (hlt : ¬a < b) (hne : a ≠ b) : b < a := by
  rcases Decidable.em (b < a) with h | h
  · exact h
  · exact absurd (String.le_antisymm (String.not_lt.1 h) (String.not_lt.1 hlt)) hne

theorem pairwise_put (k : String) (v : β) {l : List (String × β)}
    (h : l.Pairwise fun a b => a.1 < b.1) : (put k v l).Pairwise fun a b => a.1 < b.1 := by
  induction l with
  | nil => simp [put]
  | cons b rest ih =>
      obtain ⟨k', v'⟩ := b
      obtain ⟨hhead, htail⟩ := List.pairwise_cons.1 h
      rw [put]
      split
      · next hlt =>
          refine List.pairwise_cons.2 ⟨fun a ha => ?_, h⟩
          rcases List.mem_cons.1 ha with rfl | ha
          · exact hlt
          · exact String.lt_trans hlt (hhead a ha)
      · next hnlt =>
          split
          · next heq =>
              subst heq
              exact List.pairwise_cons.2 ⟨hhead, htail⟩
          · next hne =>
              refine List.pairwise_cons.2 ⟨fun a ha => ?_, ih htail⟩
              rcases mem_put ha with rfl | ha
              · exact lt_of_not_lt_of_ne hnlt hne
              · exact hhead a ha

/-- The dictionary with `v` stored under `k`, in place of what was there. -/
def insert (d : Dict β) (k : String) (v : β) : Dict β :=
  { toList := put k v d.toList, sorted := pairwise_put k v d.sorted }

def erase (d : Dict β) (k : String) : Dict β :=
  { toList := d.toList.filter fun a => a.1 ≠ k, sorted := d.sorted.filter _ }

def alter (d : Dict β) (k : String) (f : Option β -> β) : Dict β :=
  d.insert k (f (d.get? k))

/-- The dictionary of a list of entries; of two entries of one name the later one stays. -/
def ofList (entries : List (String × β)) : Dict β :=
  entries.foldl (fun d a => d.insert a.1 a.2) empty

def single (k : String) (v : β) : Dict β :=
  { toList := [(k, v)] }

def filter (d : Dict β) (p : String -> β -> Bool) : Dict β :=
  { toList := d.toList.filter fun a => p a.1 a.2, sorted := d.sorted.filter _ }

def map (f : β -> γ) (d : Dict β) : Dict γ :=
  { toList := d.toList.map fun a => (a.1, f a.2)
    sorted := List.pairwise_map.2 (d.sorted.imp fun h => h) }

/-! ### Look-ups -/

@[simp] theorem get?_empty (k : String) : (empty : Dict β).get? k = none := rfl

theorem lookup_put (k k' : String) (v : β) (l : List (String × β)) :
    lookup k' (put k v l) = if k' = k then some v else lookup k' l := by
  induction l with
  | nil => simp [put, lookup]
  | cons b rest ih =>
      obtain ⟨k₁, v₁⟩ := b
      rw [put]
      split
      · simp [lookup]
      · split
        · next heq =>
            subst heq
            simp only [lookup]
            split <;> rfl
        · next hne =>
            simp only [lookup, ih]
            by_cases h₁ : k' = k₁
            · subst h₁
              simp [Ne.symm hne]
            · simp [h₁]

@[simp] theorem get?_insert (d : Dict β) (k k' : String) (v : β) :
    (d.insert k v).get? k' = if k' = k then some v else d.get? k' :=
  lookup_put k k' v d.toList

theorem get?_alter (d : Dict β) (k k' : String) (f : Option β -> β) :
    (d.alter k f).get? k' = if k' = k then some (f (d.get? k)) else d.get? k' := by
  rw [alter, get?_insert]

theorem lookup_filter_ne (k k' : String) (l : List (String × β)) :
    lookup k' (l.filter fun a => a.1 ≠ k) = if k' = k then none else lookup k' l := by
  induction l with
  | nil => simp [lookup]
  | cons a rest ih =>
      obtain ⟨k₁, v₁⟩ := a
      by_cases h₁ : k₁ = k
      · subst h₁
        by_cases h₂ : k' = k₁ <;> simp_all [lookup]
      · by_cases h₂ : k' = k₁
        · subst h₂
          simp_all [lookup]
        · simp_all [lookup]

@[simp] theorem get?_erase (d : Dict β) (k k' : String) :
    (d.erase k).get? k' = if k' = k then none else d.get? k' :=
  lookup_filter_ne k k' d.toList

theorem lookup_filter_eq (k : String) (l : List (String × β)) :
    lookup k (l.filter fun a => a.1 = k) = lookup k l := by
  induction l with
  | nil => rfl
  | cons a rest ih =>
      by_cases hk : a.1 = k
      · simp [lookup, hk]
      · have hne : k ≠ a.1 := fun e => hk e.symm
        rw [List.filter_cons_of_neg (by simpa using hk), ih, lookup, if_neg hne]

theorem lookup_eq_some_iff {k : String} {v : β} {l : List (String × β)}
    (h : l.Pairwise fun a b => a.1 < b.1) : lookup k l = some v ↔ (k, v) ∈ l := by
  induction l with
  | nil => simp [lookup]
  | cons a rest ih =>
      obtain ⟨k', v'⟩ := a
      obtain ⟨hhead, htail⟩ := List.pairwise_cons.1 h
      by_cases hk : k = k'
      · subst hk
        simp only [lookup, if_true, Option.some.injEq, List.mem_cons, Prod.mk.injEq, true_and]
        constructor
        · exact fun e => Or.inl e.symm
        · rintro (e | hmem)
          · exact e.symm
          · exact absurd (hhead _ hmem) (String.lt_irrefl _)
      · simp [lookup, hk, ih htail]

/-- Looking up finds exactly the entries. -/
theorem get?_eq_some_iff {d : Dict β} {k : String} {v : β} :
    d.get? k = some v ↔ (k, v) ∈ d.toList :=
  lookup_eq_some_iff d.sorted

theorem mem_keys_iff {d : Dict β} {k : String} : k ∈ d.keys ↔ (d.get? k).isSome = true := by
  rw [keys, List.mem_map, Option.isSome_iff_exists]
  constructor
  · rintro ⟨⟨k', v⟩, hmem, rfl⟩
    exact ⟨v, get?_eq_some_iff.2 hmem⟩
  · rintro ⟨v, hv⟩
    exact ⟨(k, v), get?_eq_some_iff.1 hv, rfl⟩

theorem sorted_keys (d : Dict β) : d.keys.Pairwise (· < ·) :=
  List.pairwise_map.2 d.sorted

theorem nodup_keys (d : Dict β) : d.keys.Nodup := by
  apply d.sorted_keys.imp
  intro a b hlt heq
  subst heq
  exact String.lt_irrefl a hlt

theorem toList_ext {l₁ l₂ : List (String × β)} (h₁ : l₁.Pairwise fun a b => a.1 < b.1)
    (h₂ : l₂.Pairwise fun a b => a.1 < b.1) (h : ∀ a, a ∈ l₁ ↔ a ∈ l₂) : l₁ = l₂ := by
  induction l₁ generalizing l₂ with
  | nil =>
      cases l₂ with
      | nil => rfl
      | cons b _ => exact absurd ((h b).2 (List.mem_cons_self ..)) (by simp)
  | cons a rest ih =>
      cases l₂ with
      | nil => exact absurd ((h a).1 (List.mem_cons_self ..)) (by simp)
      | cons b rest₂ =>
          obtain ⟨ha, hrest⟩ := List.pairwise_cons.1 h₁
          obtain ⟨hb, hrest₂⟩ := List.pairwise_cons.1 h₂
          have hab : a = b := by
            rcases List.mem_cons.1 ((h a).1 (List.mem_cons_self ..)) with e | hin
            · exact e
            · rcases List.mem_cons.1 ((h b).2 (List.mem_cons_self ..)) with e | hin₂
              · exact e.symm
              · exact absurd (ha b hin₂) (String.lt_asymm (hb a hin))
          subst hab
          refine congrArg (a :: ·) (ih hrest hrest₂ fun x => ⟨fun hx => ?_, fun hx => ?_⟩)
          · rcases List.mem_cons.1 ((h x).1 (List.mem_cons_of_mem _ hx)) with e | hx₂
            · exact absurd (e ▸ ha x hx) (String.lt_irrefl _)
            · exact hx₂
          · rcases List.mem_cons.1 ((h x).2 (List.mem_cons_of_mem _ hx)) with e | hx₂
            · exact absurd (e ▸ hb x hx) (String.lt_irrefl _)
            · exact hx₂

/-- Names in ascending order are fixed by what they are. -/
theorem keys_ext {d₁ : Dict β} {d₂ : Dict γ} (h : ∀ k, k ∈ d₁.keys ↔ k ∈ d₂.keys) :
    d₁.keys = d₂.keys := by
  apply List.Perm.eq_of_pairwise (fun a b _ _ hab hba => absurd hba (String.lt_asymm hab))
    d₁.sorted_keys d₂.sorted_keys
  rw [List.perm_ext_iff_of_nodup d₁.nodup_keys d₂.nodup_keys]
  exact h

/-- Dictionaries with the same look-ups are equal. -/
theorem ext_get? {d₁ d₂ : Dict β} (h : ∀ k, d₁.get? k = d₂.get? k) : d₁ = d₂ := by
  have hlist : d₁.toList = d₂.toList := by
    refine toList_ext d₁.sorted d₂.sorted fun a => ?_
    obtain ⟨k, v⟩ := a
    rw [← get?_eq_some_iff, ← get?_eq_some_iff, h k]
  cases d₁
  cases d₂
  simp_all

/-! ### Dictionaries of lists -/

theorem lookup_append (k : String) (l₁ l₂ : List (String × β)) :
    lookup k (l₁ ++ l₂) = (lookup k l₁).or (lookup k l₂) := by
  induction l₁ with
  | nil => rfl
  | cons a rest ih =>
      rw [List.cons_append, lookup, lookup, ih]
      by_cases hk : k = a.1
      · rw [if_pos hk, if_pos hk]
        rfl
      · rw [if_neg hk, if_neg hk]

theorem get?_foldl_insert (d : Dict β) (entries : List (String × β)) (k : String) :
    (entries.foldl (fun d a => d.insert a.1 a.2) d).get? k =
      (lookup k entries.reverse).or (d.get? k) := by
  induction entries generalizing d with
  | nil => rfl
  | cons a rest ih =>
      rw [List.foldl_cons, ih, get?_insert, List.reverse_cons, lookup_append, Option.or_assoc]
      by_cases hk : k = a.1
      · rw [if_pos hk, lookup, if_pos hk]
        rfl
      · rw [if_neg hk, lookup, if_neg hk]
        rfl

theorem mem_of_lookup {k : String} {v : β} {l : List (String × β)} (h : lookup k l = some v) :
    (k, v) ∈ l := by
  induction l with
  | nil => cases h
  | cons a rest ih =>
      rw [lookup] at h
      by_cases hk : k = a.1
      · rw [if_pos hk] at h
        cases h
        subst hk
        exact List.mem_cons_self
      · rw [if_neg hk] at h
        exact List.mem_cons_of_mem a (ih h)

theorem lookup_ne_none {k : String} {v : β} {l : List (String × β)} (h : (k, v) ∈ l) :
    lookup k l ≠ none := by
  induction l with
  | nil => exact absurd h List.not_mem_nil
  | cons a rest ih =>
      rw [lookup]
      by_cases hk : k = a.1
      · rw [if_pos hk]
        exact Option.some_ne_none _
      · rw [if_neg hk]
        rcases List.mem_cons.1 h with rfl | hrest
        · exact absurd rfl hk
        · exact ih hrest

/-- The dictionary of a list of entries says of a name what the last entry of the name says. -/
theorem get?_ofList (entries : List (String × β)) (k : String) :
    (ofList entries).get? k = lookup k entries.reverse := by
  rw [ofList, get?_foldl_insert, get?_empty, Option.or_none]

theorem mem_keys_ofList_iff {entries : List (String × β)} {k : String} :
    k ∈ (ofList entries).keys ↔ ∃ v, (k, v) ∈ entries := by
  rw [mem_keys_iff, get?_ofList, Option.isSome_iff_exists]
  constructor
  · rintro ⟨v, hv⟩
    exact ⟨v, List.mem_reverse.1 (mem_of_lookup hv)⟩
  · rintro ⟨v, hmem⟩
    exact Option.ne_none_iff_exists'.1 (lookup_ne_none (List.mem_reverse.2 hmem))

/-- The entries of a dictionary, in whatever order they are listed, give the dictionary. -/
theorem ofList_eq_of_mem {d : Dict β} {entries : List (String × β)}
    (h : ∀ a, a ∈ entries ↔ a ∈ d.toList) : ofList entries = d := by
  apply ext_get?
  intro k
  rw [get?_ofList]
  cases hget : lookup k entries.reverse with
  | some v =>
      have hmem := List.mem_reverse.1 (mem_of_lookup hget)
      exact (get?_eq_some_iff.2 ((h _).1 hmem)).symm
  | none =>
      cases hd : d.get? k with
      | none => rfl
      | some v =>
          have hmem := (h _).2 (get?_eq_some_iff.1 hd)
          exact absurd hget (lookup_ne_none (List.mem_reverse.2 hmem))

end Dict

end ProfileOperator
