import ProfileOperator.Json.Printer
import ProfileOperator.Resource.Namespace
import ProfileOperator.Resource.PodDefault
import ProfileOperator.Resource.Profile
import ProfileOperator.Sha256
import ProfileOperator.Template

/-!
# Desired resources

What a profile calls for: its namespace, and one PodDefault for each template.  All of it is marked as
managed by this operator and belongs to the profile, so that it goes away with it.
-/

namespace ProfileOperator

def managedByLabel : String := "app.kubernetes.io/managed-by"

def managerName : String := "profile-controller"

/-- The selector of everything that this operator manages. -/
def managedSelector : String :=
  managedByLabel ++ "=" ++ managerName

def managedLabels : Dict String :=
  Dict.single managedByLabel managerName

/-- The metadata says that the object is managed by this operator. -/
def Metadata.isManaged (m : Metadata) : Bool :=
  m.hasLabel managedByLabel managerName

def Profile.ownerReference (p : Profile) : OwnerReference where
  apiVersion := Profile.apiVersion
  kind := Profile.kind
  name := p.name
  uid := p.metadata.uid.getD ""
  controller := some true
  blockOwnerDeletion := some true

/-! ### The namespace -/

def ownerAnnotation : String := "owner"

def Profile.desiredNamespace (p : Profile) : Namespace where
  metadata := {
    name := some p.name
    labels := some managedLabels
    annotations := some (match p.spec.owner with
      | some owner => Dict.single ownerAnnotation owner.name
      | none => {})
    ownerReferences := some [p.ownerReference] }

/-! ### PodDefaults -/

def checksumAnnotation : String := "checksum/pod-defaults"

def checksumLength : Nat := 16

/-- The text whose hash is the checksum: the specification as compact JSON. -/
def PodDefaultSpec.checksumText (s : PodDefaultSpec) : String :=
  s.encode.compact

/-- The checksum of a specification, by which a change of it shows on the object. -/
def PodDefaultSpec.checksum (s : PodDefaultSpec) : String :=
  String.ofList ((Sha256.hexDigest s.checksumText).take checksumLength)

def Template.spec (t : Template) : PodDefaultSpec where
  selector := { matchLabels := Dict.single t.name "true" }
  desc := "Add " ++ t.name ++ " labels"
  labels := t.labels

def Template.desired (t : Template) (p : Profile) : PodDefault where
  metadata := {
    name := some t.name
    namespaceName := some p.name
    labels := some managedLabels
    annotations := some (Dict.single checksumAnnotation t.spec.checksum)
    ownerReferences := some [p.ownerReference] }
  spec := t.spec

end ProfileOperator
