import ProfileOperator.Api.Fault

/-!
# The API server

What the server stores, and what each request does to it.  The server goes by the names that it reads in
the path of a request.  A request that a fault meets does nothing.
-/

namespace ProfileOperator

namespace Api

structure Cluster where
  profiles : Dict Profile := {}
  namespaces : Dict Namespace := {}
  /-- PodDefaults by namespace and name. -/
  podDefaults : Dict (Dict PodDefault) := {}

def notFound (plural name : String) : ClientError :=
  .rejected {
    status := "Failure"
    message := plural ++ ".kubeflow.org " ++ "\"" ++ name ++ "\"" ++ " not found"
    reason := "NotFound"
    code := 404 }

def FinalizerChange.carriedOut (present : List String) : FinalizerChange -> List String
  | .first finalizer => [finalizer]
  | .append _ finalizer => present ++ [finalizer]
  | .removeAt index _ => present.eraseIdx index

namespace Cluster

def podDefaultsIn (c : Cluster) (namespaceName : String) : Dict PodDefault :=
  (c.podDefaults.get? namespaceName).getD {}

def podDefault? (c : Cluster) (namespaceName name : String) : Option PodDefault :=
  (c.podDefaultsIn namespaceName).get? name

def putPodDefault (c : Cluster) (namespaceName name : String) (body : PodDefault) : Cluster :=
  { c with
    podDefaults := c.podDefaults.insert namespaceName ((c.podDefaultsIn namespaceName).insert name body) }

def dropPodDefault (c : Cluster) (namespaceName name : String) : Cluster :=
  { c with
    podDefaults := c.podDefaults.insert namespaceName ((c.podDefaultsIn namespaceName).erase name) }

theorem podDefaultsIn_putPodDefault (c : Cluster) (namespaceName name other : String)
    (body : PodDefault) :
    (c.putPodDefault namespaceName name body).podDefaultsIn other =
      if other = namespaceName then (c.podDefaultsIn namespaceName).insert name body
      else c.podDefaultsIn other := by
  simp only [podDefaultsIn, putPodDefault, Dict.get?_insert]
  split <;> rfl

theorem podDefaultsIn_dropPodDefault (c : Cluster) (namespaceName name other : String) :
    (c.dropPodDefault namespaceName name).podDefaultsIn other =
      if other = namespaceName then (c.podDefaultsIn namespaceName).erase name
      else c.podDefaultsIn other := by
  simp only [podDefaultsIn, dropPodDefault, Dict.get?_insert]
  split <;> rfl

/-- Store a PodDefault under the namespace and name that it says itself. -/
def seed (c : Cluster) (body : PodDefault) : Cluster :=
  c.putPodDefault (body.metadata.namespaceName.getD "") (body.metadata.name.getD "") body

def putProfile (c : Cluster) (p : Profile) : Cluster :=
  { c with profiles := c.profiles.insert (p.metadata.name.getD "") p }

/-- Store a profile under a name, unless it is being deleted and no finalizer holds it any more. -/
def settleProfile (c : Cluster) (name : String) (p : Profile) : Cluster :=
  if p.metadata.isDeleting ∧ p.metadata.finalizerList = [] then
    { c with profiles := c.profiles.erase name }
  else
    { c with profiles := c.profiles.insert name p }

def serve (c : Cluster) : (r : Request) -> Except ClientError r.Reply × Cluster
  | .applyNamespace name body =>
      (.ok (), { c with namespaces := c.namespaces.insert (nameRead name) body })
  | .applyPodDefault namespaceName name body =>
      (.ok (), c.putPodDefault (nameRead namespaceName) (nameReadBehind namespaceName name) body)
  | .listPodDefaults namespaceName =>
      (.ok ((c.podDefaultsIn (nameRead namespaceName)).values.filter fun p => p.metadata.isManaged), c)
  | .deletePodDefault namespaceName name =>
      let namespaceRead := nameRead namespaceName
      let name := nameReadBehind namespaceName name
      match c.podDefault? namespaceRead name with
      | some _ => (.ok (), c.dropPodDefault namespaceRead name)
      | none => (.error (notFound "poddefaults" name), c)
  | .patchStatus profile status =>
      let name := nameRead profile
      match c.profiles.get? name with
      | some p =>
          if leadsOn profile then
            (.ok (), { c with profiles := c.profiles.insert name { p with status := some status } })
          else (.ok (), c)
      | none => (.error (notFound "profiles" name), c)
  | .patchFinalizers profile change =>
      let name := nameRead profile
      match c.profiles.get? name with
      | some p =>
          let left := change.carriedOut p.metadata.finalizerList
          (.ok (), c.settleProfile name { p with metadata := { p.metadata with finalizers := some left } })
      | none => (.error (notFound "profiles" name), c)

end Cluster

/-- A server with faults that lie in wait. -/
structure Server where
  cluster : Cluster := {}
  faults : List Fault := []

def Server.serve (s : Server) (r : Request) : Except ClientError r.Reply × Server :=
  match Fault.strike r s.faults with
  | some (effect, faults) => (.error effect.error, { s with faults := faults })
  | none =>
      let (reply, cluster) := s.cluster.serve r
      (reply, { s with cluster := cluster })

def Server.arm (s : Server) (f : Fault) : Server :=
  { s with faults := s.faults ++ [f] }

end Api

end ProfileOperator
