import ReplicaPlacement.Constraint.Exclusion
import ReplicaPlacement.Proofs.Cluster.Document
import ReplicaPlacement.Proofs.Constraint.FilterText
import ReplicaPlacement.Proofs.Selection.Spelling

/-!
# Constraints as documents

A filter is written as its text, so constraints are read back exactly if each of their filters is one
that its text gives back. These are the filters that pass the check before a placement.
-/

namespace ReplicaPlacement

open FromDocument (read?)

/-! ## Members -/

theorem read?_toValue_filter_eq_some_iff {f : PropertyFilter} :
    read? (toValue f) = some f ↔ f.isValid = true := by
  change (PropertyFilter.parse f.text).toOption = some f ↔ _
  rw [← PropertyFilter.parse_text_eq_ok_iff]
  cases PropertyFilter.parse f.text <;> simp [Except.toOption]

theorem read?_toValue_filters_eq_some_iff {fs : List PropertyFilter} :
    read? (toValue fs) = some fs ↔ ∀ f ∈ fs, f.isValid = true := by
  constructor
  · intro h
    have hmembers := Outcome.forall_of_mapM_map_eq_some (f := read?) (g := toValue) h
    exact fun f hf => read?_toValue_filter_eq_some_iff.1 (hmembers f hf)
  · intro h
    exact read?_toValue_list fun f hf => read?_toValue_filter_eq_some_iff.2 (h f hf)

/-! ## The whole set -/

theorem read?_toValue_constraints (c : ConstraintSet) : read? (toValue c) =
    (read? (toValue c.replicasOnSame)).bind fun same =>
      (read? (toValue c.replicasOnDifferent)).bind fun different =>
        some { c with replicasOnSame := same, replicasOnDifferent := different } := by
  have hnodup : ConstraintSet.fieldNames.Nodup := by decide
  have hforced : read? (toValue c.forcedPool) = some c.forcedPool := by
    cases c.forcedPool with
    | none => rfl
    | some name => exact congrArg (Option.map some) (read?_toValue_name name)
  have hnamed : read? (toValue c.notPlaceWith) = some c.notPlaceWith :=
    read?_toValue_list fun n _ => read?_toValue_name n
  have hpattern : read? (toValue c.notPlaceWithPattern) = some c.notPlaceWithPattern := by
    cases c.notPlaceWithPattern <;> rfl
  refine (read_fields hnodup rfl).trans ?_
  simp [Fields.defaulted, Fields.find?, List.lookup_cons, hforced, hnamed, hpattern]

theorem read?_toValue_constraints_eq_some {c c' : ConstraintSet} (h : read? (toValue c) = some c') :
    read? (toValue c.replicasOnSame) = some c'.replicasOnSame ∧
      read? (toValue c.replicasOnDifferent) = some c'.replicasOnDifferent := by
  rw [read?_toValue_constraints] at h
  obtain ⟨same, hsame, h⟩ := Option.bind_eq_some_iff.1 h
  obtain ⟨different, hdifferent, h⟩ := Option.bind_eq_some_iff.1 h
  cases h
  exact ⟨hsame, hdifferent⟩

theorem read?_toValue_of_isValid {c : ConstraintSet} (h : ∀ f ∈ c.filters, f.isValid = true) :
    read? (toValue c) = some c := by
  obtain ⟨hsame, hdifferent⟩ := List.forall_mem_append.1 h
  rw [read?_toValue_constraints, read?_toValue_filters_eq_some_iff.2 hsame, Option.bind_some,
    read?_toValue_filters_eq_some_iff.2 hdifferent, Option.bind_some]

theorem isValid_of_read? {c c' : ConstraintSet} (h : read? (toValue c) = some c')
    (hsame : c'.canonical = c.canonical) : ∀ f ∈ c.filters, f.isValid = true := by
  have hlists := read?_toValue_constraints_eq_some h
  have hfirst : c'.canonical.replicasOnSame = c.canonical.replicasOnSame := by rw [hsame]
  have hsecond : c'.canonical.replicasOnDifferent = c.canonical.replicasOnDifferent := by rw [hsame]
  simp only [ConstraintSet.canonical] at hfirst hsecond
  rw [hfirst, hsecond, read?_toValue_filters_eq_some_iff, read?_toValue_filters_eq_some_iff] at hlists
  exact List.forall_mem_append.2 hlists

theorem plain_toValue_filters (fs : List PropertyFilter) : Json.Plain (toValue fs) :=
  plain_toValue_list fun f _ => .text f.text

theorem plain_toValue_constraints (c : ConstraintSet) : Json.Plain (toValue c) := by
  have hforced : Json.Plain (toValue c.forcedPool) := by
    cases c.forcedPool with
    | none => exact .null
    | some name => exact .text name.text
  have hpattern : Json.Plain (toValue c.notPlaceWithPattern) := by
    cases c.notPlaceWithPattern with
    | none => exact .null
    | some text => exact .text text
  refine .record ?_
  simp only [List.forall_mem_cons]
  exact ⟨.nat c.replicaCount.toNat_lt, hforced, plain_toValue_list fun n _ => .text n.text, hpattern,
    plain_toValue_filters _, plain_toValue_filters _, .bool _, .nat c.size.toNat_lt, by simp⟩

/-! ## The check before a placement -/

namespace ConstraintSet

variable (c : ConstraintSet) (language : PatternLanguage)

theorem check_cases : (∃ f ∈ c.filters, f.isValid = false ∧
      c.check language = .error (.invalidPropertyFilter f.text)) ∨
    (∀ f ∈ c.filters, f.isValid = true) ∧
      c.check language = match c.notPlaceWithPattern with
        | none => .ok ⟨c, none⟩
        | some text =>
          match language text with
          | some test => .ok ⟨c, some test⟩
          | none => .error (.invalidPattern text) := by
  unfold check
  rw [PropertyFilter.forM_validate]
  cases hfind : c.filters.find? fun f => !f.isValid with
  | some f =>
    left
    refine ⟨f, List.mem_of_find?_eq_some hfind, ?_, rfl⟩
    simpa using List.find?_some hfind
  | none =>
    right
    refine ⟨by simpa using List.find?_eq_none.1 hfind, ?_⟩
    cases c.notPlaceWithPattern with
    | none => rfl
    | some text => cases language text <;> rfl

theorem accepts_filters_iff : (∀ text, c.check language ≠ .error (.invalidPropertyFilter text)) ↔
    ∀ f ∈ c.filters, f.isValid = true := by
  rcases c.check_cases language with ⟨f, hf, hinvalid, hcheck⟩ | ⟨hvalid, hcheck⟩
  · refine iff_of_false (fun haccepts => haccepts f.text hcheck) fun hvalid => ?_
    rw [hvalid f hf] at hinvalid
    cases hinvalid
  · refine iff_of_true (fun text htext => ?_) hvalid
    rw [hcheck] at htext
    cases hpattern : c.notPlaceWithPattern with
    | none => simp [hpattern] at htext
    | some text => cases htest : language text <;> simp [hpattern, htest] at htext

theorem exists_check_eq_ok_iff : (∃ checked, c.check language = .ok checked) ↔
    (∀ f ∈ c.filters, f.isValid = true) ∧ ∀ text ∈ c.notPlaceWithPattern, (language text).isSome := by
  rcases c.check_cases language with ⟨f, hf, hinvalid, hcheck⟩ | ⟨hvalid, hcheck⟩
  · refine iff_of_false ?_ ?_
    · rintro ⟨checked, hchecked⟩
      rw [hcheck] at hchecked
      cases hchecked
    · rintro ⟨hvalid, -⟩
      rw [hvalid f hf] at hinvalid
      cases hinvalid
  · rw [and_iff_right hvalid, hcheck]
    cases c.notPlaceWithPattern with
    | none => simp
    | some text => cases htest : language text <;> simp [htest]

/-! ## What is read back -/

def readBack (print : Value → String) (parse? : String → Option Value) (c : ConstraintSet) :
    Option ConstraintSet :=
  (parse? (print (toValue c))).bind read?

variable {c} {print : Value → String} {parse? : String → Option Value}
  (hparse : ∀ v, Json.Plain v → parse? (print v) = some v)

include hparse

theorem readBack_eq (c : ConstraintSet) : c.readBack print parse? = read? (toValue c) := by
  rw [readBack, hparse _ (plain_toValue_constraints c), Option.bind_some]

theorem readBack_eq_some_iff :
    c.readBack print parse? = some c ↔ ∀ f ∈ c.filters, f.isValid = true := by
  rw [readBack_eq hparse]
  exact ⟨fun h => isValid_of_read? h rfl, read?_toValue_of_isValid⟩

theorem readBack_respelled_iff :
    (∃ c', c.readBack print parse? = some c' ∧ c'.canonical = c.canonical) ↔
      c.readBack print parse? = some c := by
  constructor
  · rintro ⟨c', hread, hsame⟩
    rw [readBack_eq hparse] at hread
    exact (readBack_eq_some_iff hparse).2 (isValid_of_read? hread hsame)
  · exact fun h => ⟨c, h, rfl⟩

/-- A filter is valid exactly if its text gives it back, and constraints are read back exactly if all
their filters are valid, which are those that the check before a placement accepts. -/
theorem readBack_exact :
    (∀ s,
      (∀ error, PropertyFilter.parse s = .error error ↔
        s.toList.takeWhile (· ≠ '=') = [] ∧ error = .invalidPropertyFilter s) ∧
      ∀ f, PropertyFilter.parse s = .ok f → f.text = s ∧ f.validate = .ok ()) ∧
    (∀ f : PropertyFilter, f.validate = .ok () ↔ PropertyFilter.parse f.text = .ok f) ∧
    ∀ c : ConstraintSet,
      (c.readBack print parse? = some c ↔
        ∀ f ∈ c.replicasOnSame ++ c.replicasOnDifferent, f.validate = .ok ()) ∧
      ((∃ c', c.readBack print parse? = some c' ∧ c'.canonical = c.canonical) ↔
        c.readBack print parse? = some c) ∧
      ∀ language : PatternLanguage,
        (c.readBack print parse? = some c ↔
          ∀ text, c.check language ≠ .error (.invalidPropertyFilter text)) ∧
        ((∃ checked, c.check language = .ok checked) ↔ c.readBack print parse? = some c ∧
          ∀ text ∈ c.notPlaceWithPattern, (language text).isSome) := by
  refine ⟨fun s => ⟨fun _ => PropertyFilter.parse_eq_error_iff, fun f hf => ?parsed⟩,
    fun f => ?valid,
    fun c => ⟨?validates, readBack_respelled_iff hparse, fun language => ⟨?accepts, ?checks⟩⟩⟩
  case parsed =>
    rw [PropertyFilter.validate_eq_ok_iff]
    exact PropertyFilter.parse_eq_ok_iff.1 hf
  case valid => rw [PropertyFilter.validate_eq_ok_iff, PropertyFilter.parse_text_eq_ok_iff]
  case validates =>
    simp only [PropertyFilter.validate_eq_ok_iff]
    exact readBack_eq_some_iff hparse
  case accepts =>
    rw [readBack_eq_some_iff hparse, c.accepts_filters_iff language]
  case checks => rw [readBack_eq_some_iff hparse, c.exists_check_eq_ok_iff language]

omit hparse

/-! ## Signs in keys and in values -/

def signInValue : ConstraintSet where
  forcedPool := some Snapshot.ssd
  replicasOnSame := [⟨"zone", some "a=b"⟩, ⟨"row", some ""⟩]
  replicasOnDifferent := [⟨"rack", none⟩]

def signInKey : ConstraintSet where
  replicasOnDifferent := [⟨"rack=r1", none⟩]

theorem readBack_signs : signInValue.readBack Json.compact Json.parse? = some signInValue ∧
    signInKey.readBack Json.compact Json.parse? ≠ some signInKey := by
  obtain ⟨-, -, hsets⟩ := readBack_exact fun _ hv => Json.parse?_compact hv
  refine ⟨(hsets signInValue).1.2 (by decide), fun hback => ?_⟩
  have hvalid := (hsets signInKey).1.1 hback
  revert hvalid
  decide

end ConstraintSet

end ReplicaPlacement
