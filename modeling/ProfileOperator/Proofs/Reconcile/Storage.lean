import Mathlib.Logic.Function.Basic
import ProfileOperator.Api.Server
import ProfileOperator.Reconcile.Pass

/-!
# What the server does to PodDefaults

The laws that reconciling relies on, for any server whose PodDefaults can be looked at by namespace and
name: what an answered request does, and that a failed one did the same or nothing.  They are no more
than the laws of applying, listing and deleting, for names that the server accepts.  The server that reads
names in paths obeys them for those that stand for themselves there, also where requests or answers get
lost on the way.
-/

namespace ProfileOperator

/-! ### Selectors -/

def Metadata.satisfies (m : Metadata) (selector : String) : Bool :=
  m.hasLabel (String.ofList (selector.toList.takeWhile (· ≠ '=')))
    (String.ofList ((selector.toList.dropWhile (· ≠ '=')).drop 1))

theorem Metadata.satisfies_managedSelector (m : Metadata) :
    m.satisfies managedSelector = m.isManaged := by
  have hkey : String.ofList (managedSelector.toList.takeWhile (· ≠ '=')) = managedByLabel := by
    decide +kernel
  have hvalue : String.ofList ((managedSelector.toList.dropWhile (· ≠ '=')).drop 1) =
      managerName := by
    decide +kernel
  rw [satisfies, hkey, hvalue, isManaged]

theorem Metadata.isManaged_of_labels {m : Metadata} (h : m.labels = some managedLabels) :
    m.isManaged = true := by
  rw [isManaged, hasLabel, h]
  decide

/-! ### Laws -/

abbrev Stock := String -> Dict PodDefault

namespace Stock

/-- The PodDefaults of a namespace stand under their own names, and the server accepts these. -/
def Named (accepts : String -> Prop) (namespaceName : String) (stock : Stock) : Prop :=
  ∀ name o, (stock namespaceName).get? name = some o -> accepts name ∧ o.name = name

theorem named_of_forall {accepts : String -> Prop} {namespaceName : String} {stock : Stock}
    (h : ∀ a ∈ (stock namespaceName).toList, accepts a.1 ∧ a.2.name = a.1) :
    stock.Named accepts namespaceName := fun name o ho => h (name, o) (Dict.get?_eq_some_iff.1 ho)

/--
A PodDefault of the name, with at least the labels of the body, now stands under it; nothing else changed.
-/
def Applied (namespaceName name : String) (body : PodDefault) (stock after : Stock) : Prop :=
  ∃ o : PodDefault, o.name = name ∧
    (∀ key value, body.metadata.hasLabel key value = true -> o.metadata.hasLabel key value = true) ∧
    after = Function.update stock namespaceName ((stock namespaceName).insert name o)

def Deleted (namespaceName name : String) (stock after : Stock) : Prop :=
  after = Function.update stock namespaceName ((stock namespaceName).erase name)

/-- The PodDefaults of a namespace that the selector of managed resources matches. -/
def managed (stock : Stock) (namespaceName : String) : List PodDefault :=
  (stock namespaceName).values.filter fun o => o.metadata.satisfies managedSelector

end Stock

variable {σ : Type}

/-- What an answer means for the PodDefaults that can be seen at a server, where it accepts the names. -/
structure Stores (accepts : String -> Prop) (serve : Handler σ) (stock : σ -> Stock) : Prop where
  applied : ∀ s namespaceName name body, accepts namespaceName -> accepts name -> body.name = name ->
    (serve s (.applyPodDefault namespaceName name body)).1 = .ok () ->
      Stock.Applied namespaceName name body (stock s)
        (stock (serve s (.applyPodDefault namespaceName name body)).2)
  listed : ∀ s namespaceName found, accepts namespaceName ->
    (serve s (.listPodDefaults namespaceName)).1 = .ok found ->
      found.Perm ((stock s).managed namespaceName) ∧
        stock (serve s (.listPodDefaults namespaceName)).2 = stock s
  deleted : ∀ s namespaceName name, accepts namespaceName -> accepts name ->
    (serve s (.deletePodDefault namespaceName name)).1 = .ok () ->
      Stock.Deleted namespaceName name (stock s)
        (stock (serve s (.deletePodDefault namespaceName name)).2)

/-- A failed request may have been carried out all the same, but then nothing else was done. -/
structure StoresOrFails (accepts : String -> Prop) (serve : Handler σ) (stock : σ -> Stock) : Prop
    extends Stores accepts serve stock where
  appliedOrNot : ∀ s namespaceName name body e,
    accepts namespaceName -> accepts name -> body.name = name ->
    (serve s (.applyPodDefault namespaceName name body)).1 = .error e ->
      stock (serve s (.applyPodDefault namespaceName name body)).2 = stock s ∨
        Stock.Applied namespaceName name body (stock s)
          (stock (serve s (.applyPodDefault namespaceName name body)).2)
  notListed : ∀ s namespaceName e, accepts namespaceName ->
    (serve s (.listPodDefaults namespaceName)).1 = .error e ->
      stock (serve s (.listPodDefaults namespaceName)).2 = stock s
  deletedOrNot : ∀ s namespaceName name e, accepts namespaceName -> accepts name ->
    (serve s (.deletePodDefault namespaceName name)).1 = .error e ->
      stock (serve s (.deletePodDefault namespaceName name)).2 = stock s ∨
        Stock.Deleted namespaceName name (stock s)
          (stock (serve s (.deletePodDefault namespaceName name)).2)

def Api.Request.isForPodDefaults : Request -> Bool
  | .applyPodDefault .. | .listPodDefaults _ | .deletePodDefault .. => true
  | _ => false

/-- Requests for anything else leave the PodDefaults alone. -/
def Spares (serve : Handler σ) (stock : σ -> Stock) : Prop :=
  ∀ s r, r.isForPodDefaults = false -> stock (serve s r).2 = stock s

namespace StoresOrFails

variable {accepts : String -> Prop} {serve : Handler σ} {stock : σ -> Stock}
variable {namespaceName name : String}

theorem stock_apply (h : StoresOrFails accepts serve stock) (s : σ) (hspace : accepts namespaceName)
    (hname : accepts name) {body : PodDefault} (hbody : body.name = name) :
    stock (serve s (.applyPodDefault namespaceName name body)).2 = stock s ∨
      Stock.Applied namespaceName name body (stock s)
        (stock (serve s (.applyPodDefault namespaceName name body)).2) := by
  cases hreply : (serve s (.applyPodDefault namespaceName name body)).1 with
  | ok v => exact Or.inr (h.applied s namespaceName name body hspace hname hbody hreply)
  | error e => exact h.appliedOrNot s namespaceName name body e hspace hname hbody hreply

theorem stock_list (h : StoresOrFails accepts serve stock) (s : σ) (hspace : accepts namespaceName) :
    stock (serve s (.listPodDefaults namespaceName)).2 = stock s := by
  cases hreply : (serve s (.listPodDefaults namespaceName)).1 with
  | ok found => exact (h.listed s namespaceName found hspace hreply).2
  | error e => exact h.notListed s namespaceName e hspace hreply

theorem stock_delete (h : StoresOrFails accepts serve stock) (s : σ) (hspace : accepts namespaceName)
    (hname : accepts name) :
    stock (serve s (.deletePodDefault namespaceName name)).2 = stock s ∨
      Stock.Deleted namespaceName name (stock s)
        (stock (serve s (.deletePodDefault namespaceName name)).2) := by
  cases hreply : (serve s (.deletePodDefault namespaceName name)).1 with
  | ok v => exact Or.inr (h.deleted s namespaceName name hspace hname hreply)
  | error e => exact h.deletedOrNot s namespaceName name e hspace hname hreply

end StoresOrFails

/-! ### Requests and answers that get lost -/

/-- What becomes of a request on its way. -/
inductive Fate where
  | arrives
  /-- It never arrives. -/
  | requestLost
  /-- It is carried out, but nobody hears of it. -/
  | answerLost
deriving DecidableEq, Repr

/-- A server behind a connection that loses requests and answers. -/
def Handler.behind (serve : Handler σ) : Handler (σ × List Fate) := fun (s, fates) r =>
  match fates with
  | .requestLost :: rest => (.error (.lost "connection refused"), (s, rest))
  | .answerLost :: rest => (.error (.lost "connection reset"), ((serve s r).2, rest))
  | .arrives :: rest => ((serve s r).1, ((serve s r).2, rest))
  | [] => ((serve s r).1, ((serve s r).2, []))

theorem behind_state (serve : Handler σ) (x : σ × List Fate) (r : Api.Request) :
    (Handler.behind serve x r).2.1 = x.1 ∨ (Handler.behind serve x r).2.1 = (serve x.1 r).2 := by
  obtain ⟨s, _ | ⟨_ | _ | _, rest⟩⟩ := x
  · exact Or.inr rfl
  · exact Or.inr rfl
  · exact Or.inl rfl
  · exact Or.inr rfl

theorem behind_ok {serve : Handler σ} {x : σ × List Fate} {r : Api.Request} {v : r.Reply}
    (h : (Handler.behind serve x r).1 = .ok v) :
    (serve x.1 r).1 = .ok v ∧ (Handler.behind serve x r).2.1 = (serve x.1 r).2 := by
  obtain ⟨s, _ | ⟨_ | _ | _, rest⟩⟩ := x
  · exact ⟨h, rfl⟩
  · exact ⟨h, rfl⟩
  · cases h
  · cases h

theorem StoresOrFails.behind {accepts : String -> Prop} {serve : Handler σ} {stock : σ -> Stock}
    (h : StoresOrFails accepts serve stock) :
    StoresOrFails accepts (Handler.behind serve) fun x => stock x.1 where
  applied x namespaceName name body hspace hname hbody hreply := by
    obtain ⟨hserved, hstate⟩ := behind_ok hreply
    rw [hstate]
    exact h.applied x.1 namespaceName name body hspace hname hbody hserved
  listed x namespaceName found hspace hreply := by
    obtain ⟨hserved, hstate⟩ := behind_ok hreply
    rw [hstate]
    exact h.listed x.1 namespaceName found hspace hserved
  deleted x namespaceName name hspace hname hreply := by
    obtain ⟨hserved, hstate⟩ := behind_ok hreply
    rw [hstate]
    exact h.deleted x.1 namespaceName name hspace hname hserved
  appliedOrNot x namespaceName name body e hspace hname hbody _ := by
    rcases behind_state serve x (.applyPodDefault namespaceName name body) with hstate | hstate
    · exact Or.inl (by rw [hstate])
    · rw [hstate]
      exact h.stock_apply x.1 hspace hname hbody
  notListed x namespaceName e hspace _ := by
    rcases behind_state serve x (.listPodDefaults namespaceName) with hstate | hstate
    · rw [hstate]
    · rw [hstate]
      exact h.stock_list x.1 hspace
  deletedOrNot x namespaceName name e hspace hname _ := by
    rcases behind_state serve x (.deletePodDefault namespaceName name) with hstate | hstate
    · exact Or.inl (by rw [hstate])
    · rw [hstate]
      exact h.stock_delete x.1 hspace hname

/-! ### A server that obeys the laws -/

namespace Api.Cluster

theorem podDefaultsIn_put (c : Cluster) (namespaceName name : String) (o : PodDefault) :
    (c.putPodDefault namespaceName name o).podDefaultsIn =
      Function.update c.podDefaultsIn namespaceName
        ((c.podDefaultsIn namespaceName).insert name o) := by
  funext other
  rw [podDefaultsIn_putPodDefault, Function.update_apply]

theorem podDefaultsIn_drop (c : Cluster) (namespaceName name : String) :
    (c.dropPodDefault namespaceName name).podDefaultsIn =
      Function.update c.podDefaultsIn namespaceName
        ((c.podDefaultsIn namespaceName).erase name) := by
  funext other
  rw [podDefaultsIn_dropPodDefault, Function.update_apply]

theorem serve_delete (c : Cluster) {namespaceName name : String} (hspace : IsPlainName namespaceName)
    (hname : IsPlainName name) :
    let reply := c.serve (.deletePodDefault namespaceName name)
    (reply.1 = .ok () ∧ reply.2 = c.dropPodDefault namespaceName name) ∨
      ∃ e, reply = (.error e, c) := by
  unfold serve
  dsimp only
  rw [nameRead_eq hspace, nameReadBehind_eq hspace hname]
  cases c.podDefault? namespaceName name with
  | some o => exact Or.inl ⟨rfl, rfl⟩
  | none => exact Or.inr ⟨_, rfl⟩

/-- The server obeys the laws for the names that it reads in a path as they were put there. -/
theorem storesOrFails : StoresOrFails IsPlainName serve podDefaultsIn where
  applied c namespaceName name body hspace hname hbody _ := by
    refine ⟨body, hbody, fun _ _ h => h, ?_⟩
    rw [serve, nameRead_eq hspace, nameReadBehind_eq hspace hname]
    exact c.podDefaultsIn_put namespaceName name body
  listed c namespaceName found hspace hreply := by
    rw [serve, nameRead_eq hspace] at hreply
    rw [← Except.ok.inj hreply, Stock.managed]
    simp only [Metadata.satisfies_managedSelector]
    exact ⟨List.Perm.refl _, rfl⟩
  deleted c namespaceName name hspace hname hreply := by
    rcases c.serve_delete hspace hname with ⟨_, hdrop⟩ | ⟨e, herror⟩
    · rw [Stock.Deleted, hdrop]
      exact c.podDefaultsIn_drop namespaceName name
    · rw [herror] at hreply
      cases hreply
  appliedOrNot _ _ _ _ _ _ _ _ hreply := nomatch hreply
  notListed _ _ _ _ hreply := nomatch hreply
  deletedOrNot c namespaceName name e hspace hname hreply := by
    rcases c.serve_delete hspace hname with ⟨hserved, _⟩ | ⟨_, herror⟩
    · rw [hserved] at hreply
      cases hreply
    · exact Or.inl (by rw [herror])

theorem spares : Spares serve podDefaultsIn := by
  intro c r h
  cases r with
  | applyNamespace name body => rfl
  | patchStatus name status =>
      unfold serve
      dsimp only
      cases c.profiles.get? (nameRead name) with
      | none => rfl
      | some p =>
          dsimp only
          split <;> rfl
  | patchFinalizers name change =>
      unfold serve
      dsimp only
      cases c.profiles.get? (nameRead name) with
      | none => rfl
      | some p =>
          dsimp only
          unfold settleProfile
          split <;> rfl
  | _ => cases h

end Api.Cluster

end ProfileOperator
