import ProfileOperator.Proofs.Json.Compact
import ProfileOperator.Proofs.Rereading

/-!
# What the checksum sees

The text that is hashed for a PodDefault tells its template: it is read back as the specification, and
the specification as the name and the labels.  Whose profile the PodDefault is for does not enter.  So
the checksums of two templates agree only if the templates do or their texts collide.
-/

namespace ProfileOperator

/-! ### Specifications as text -/

theorem Json.inRange_ofDict (d : Dict String) : InRange (ofDict d) := by
  refine .object _ ?_
  intro field hfield
  obtain ⟨entry, _, rfl⟩ := List.mem_map.1 hfield
  exact .string entry.2

theorem Json.inRange_of_mem_skipIf {isEmpty : Bool} {name : String} {d : Dict String} :
    ∀ field ∈ skipIf isEmpty name ofDict d, InRange field.2 := by
  intro field hfield
  cases isEmpty with
  | true => exact absurd hfield List.not_mem_nil
  | false =>
      rw [List.mem_singleton.1 hfield]
      exact inRange_ofDict d

theorem PodDefaultSpec.inRange_encode (s : PodDefaultSpec) : Json.InRange s.encode := by
  refine .object _ ?_
  intro field hfield
  rcases List.mem_append.1 hfield with hfield | hfield
  · simp only [List.mem_cons, List.not_mem_nil, or_false] at hfield
    rcases hfield with rfl | rfl
    · exact .object _ Json.inRange_of_mem_skipIf
    · exact .string s.desc
  · exact Json.inRange_of_mem_skipIf field hfield

theorem PodDefaultSpec.checksumText_injective {s t : PodDefaultSpec}
    (h : s.checksumText = t.checksumText) : s = t := by
  have hencode : s.encode = t.encode :=
    Json.compact_injective s.inRange_encode t.inRange_encode h
  have hread := s.decode_encode
  rw [hencode, t.decode_encode] at hread
  exact (Option.some.inj hread).symm

/-! ### Templates as text -/

theorem Template.spec_eq_iff {s t : Template} :
    s.spec = t.spec ↔ s.name = t.name ∧ s.labels = t.labels := by
  constructor
  · intro h
    have hselector : [(s.name, "true")] = [(t.name, "true")] :=
      congrArg (fun spec => spec.selector.matchLabels.toList) h
    have hlabels : s.labels = t.labels := congrArg PodDefaultSpec.labels h
    exact ⟨(Prod.mk.inj (List.cons.inj hselector).1).1, hlabels⟩
  · rintro ⟨hname, hlabels⟩
    rw [spec, spec, hname, hlabels]

def PodDefault.shownChecksum (p : PodDefault) : Option String :=
  p.metadata.annotations.bind fun annotations => annotations.get? checksumAnnotation

/-- Texts that differ, while the parts of their hashes that a checksum shows are the same. -/
structure Collide (first second : String) : Prop where
  differ : first ≠ second
  agree : (Sha256.hexDigest first).take checksumLength =
    (Sha256.hexDigest second).take checksumLength

theorem Template.shownChecksum_desired (t : Template) (p : Profile) :
    (t.desired p).shownChecksum = some (String.ofList
      ((Sha256.hexDigest (t.desired p).spec.checksumText).take checksumLength)) := by
  have hfound : (Dict.single checksumAnnotation t.spec.checksum).get? checksumAnnotation =
      some t.spec.checksum := by
    rw [Dict.get?, Dict.single, Dict.lookup, if_pos rfl]
  exact hfound

/--
The texts that are hashed for two PodDefaults agree exactly if their templates have the same name and
the same labels, whatever the profiles are.  So the checksums agree for equal templates, and for others
only where the hash function has a collision.
-/
theorem checksum_tells_templates_apart (s t : Template) (p q : Profile) :
    ((s.desired p).spec.checksumText = (t.desired q).spec.checksumText ↔
      s.name = t.name ∧ s.labels = t.labels) ∧
    ((s.desired p).shownChecksum = (t.desired q).shownChecksum ↔
      (s.name = t.name ∧ s.labels = t.labels) ∨
        Collide (s.desired p).spec.checksumText (t.desired q).spec.checksumText) := by
  have htext : (s.desired p).spec.checksumText = (t.desired q).spec.checksumText ↔
      s.name = t.name ∧ s.labels = t.labels := by
    rw [← Template.spec_eq_iff]
    exact ⟨PodDefaultSpec.checksumText_injective, congrArg PodDefaultSpec.checksumText⟩
  refine ⟨htext, ?_⟩
  rw [Template.shownChecksum_desired, Template.shownChecksum_desired, Option.some.injEq,
    String.ofList_inj, ← htext]
  constructor
  · intro hagree
    by_cases hsame : (s.desired p).spec.checksumText = (t.desired q).spec.checksumText
    · exact .inl hsame
    · exact .inr ⟨hsame, hagree⟩
  · rintro (hsame | hcollide)
    · rw [hsame]
    · exact hcollide.agree

/-- A label whose value imitates the end of its text and a second label. -/
theorem checksum_tells_templates_apart_imitated :
    ∃ (s t : Template) (p q : Profile),
      s.name = t.name ∧ s.labels.keys = ["x"] ∧ t.labels.keys = ["x", "y"] ∧
      (s.desired p).spec.checksumText ≠ (t.desired q).spec.checksumText ∧
      (s.desired p).shownChecksum = some "b843a0b37ef5b418" ∧
      (t.desired q).shownChecksum = some "1bdc5a9a9e1b5363" ∧
      ¬Collide (s.desired p).spec.checksumText (t.desired q).spec.checksumText := by
  -- Only what is said here of the templates counts: to compare them takes no more hashing.
  obtain ⟨s, t, p, q, hname, hs, ht, hfirst, hsecond⟩ : ∃ (s t : Template) (p q : Profile),
      s.name = t.name ∧ s.labels.keys = ["x"] ∧ t.labels.keys = ["x", "y"] ∧
        (s.desired p).shownChecksum = some "b843a0b37ef5b418" ∧
        (t.desired q).shownChecksum = some "1bdc5a9a9e1b5363" :=
    ⟨⟨"a", .single "x" "1\",\"y\":\"2"⟩,
      ⟨"a", { toList := [("x", "1"), ("y", "2")], sorted := by decide +kernel }⟩,
      { metadata := { name := some "ann" }, spec := {} },
      { metadata := { name := some "bob" }, spec := {} }, by decide +kernel⟩
  obtain ⟨htexts, hshown⟩ := checksum_tells_templates_apart s t p q
  refine ⟨s, t, p, q, hname, hs, ht, fun hsame => ?_, hfirst, hsecond, fun hcollide => ?_⟩
  · have hlabels := (htexts.1 hsame).2
    rw [hlabels, ht] at hs
    cases hs
  · have hequal := hshown.2 (Or.inr hcollide)
    rw [hfirst, hsecond] at hequal
    exact absurd hequal (by decide)

end ProfileOperator
