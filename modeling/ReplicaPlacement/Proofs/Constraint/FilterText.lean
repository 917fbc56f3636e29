import Mathlib.Data.List.TakeWhile
import ReplicaPlacement.Constraint.PropertyFilter
import ReplicaPlacement.Proofs.Outcome

/-!
# Filters and their texts

Every text is the text of the filter it stands for. A filter is valid exactly if its own text stands
for it, and a text gives no filter exactly if nothing stands before its first `=`.
-/

namespace ReplicaPlacement.PropertyFilter

variable {f : PropertyFilter} {s : String}

/-! ## Valid filters -/

theorem isValid_iff : f.isValid = true ↔ ¬ (f.key = "" ∨ '=' ∈ f.key.toList) := by
  simp [isValid, String.toList_eq_nil_iff]

theorem validate_eq_ok_iff : f.validate = .ok () ↔ f.isValid = true := by
  unfold validate
  split <;> simp_all

theorem forM_validate (fs : List PropertyFilter) : fs.forM validate =
    match fs.find? fun f => !f.isValid with
    | none => .ok ()
    | some f => .error (.invalidPropertyFilter f.text) := by
  induction fs with
  | nil => rfl
  | cons f fs ih =>
    have hcons : (f :: fs).forM validate = f.validate.bind fun _ => fs.forM validate := rfl
    rw [hcons, ih, validate, List.find?_cons]
    cases f.isValid <;> rfl

/-! ## What a text stands for -/

theorem toList_key_ofText (s : String) : (ofText s).key.toList = s.toList.takeWhile (· ≠ '=') := by
  unfold ofText
  simp only
  split <;> exact String.toList_ofList

theorem separator_not_mem_ofText (s : String) : '=' ∉ (ofText s).key.toList := by
  rw [toList_key_ofText]
  intro h
  simpa using List.mem_takeWhile_imp h

theorem text_ofText (s : String) : (ofText s).text = s := by
  have hsplit := List.takeWhile_append_dropWhile (p := fun c => decide (c ≠ '=')) (l := s.toList)
  rw [← String.toList_inj]
  unfold ofText
  simp only
  split
  next hrest =>
    rw [hrest, List.append_nil] at hsplit
    simpa [text] using hsplit
  next c value hrest =>
    have hc : c = '=' := by
      have hhead := List.head?_dropWhile_not (fun c => decide (c ≠ '=')) s.toList
      rw [hrest] at hhead
      simpa using hhead
    rw [hrest, hc] at hsplit
    simpa [text] using hsplit

theorem ofText_text (hkey : '=' ∉ f.key.toList) : ofText f.text = f := by
  have hpos : ∀ c ∈ f.key.toList, decide (c ≠ '=') = true := by
    intro c hc
    exact decide_eq_true fun h => hkey (h ▸ hc)
  obtain ⟨key, pinned⟩ := f
  cases pinned with
  | none =>
    have htake : key.toList.takeWhile (· ≠ '=') = key.toList := List.takeWhile_eq_self_iff.2 hpos
    have hdrop : key.toList.dropWhile (· ≠ '=') = [] := List.dropWhile_eq_nil_iff.2 hpos
    simp only [ofText, text, htake, hdrop, String.ofList_toList]
  | some value =>
    have htext : (key ++ "=" ++ value).toList = key.toList ++ '=' :: value.toList := by simp
    have htake : (key.toList ++ '=' :: value.toList).takeWhile (· ≠ '=') = key.toList := by
      rw [List.takeWhile_append_of_pos hpos]
      simp
    have hdrop : (key.toList ++ '=' :: value.toList).dropWhile (· ≠ '=') = '=' :: value.toList := by
      rw [List.dropWhile_append_of_pos hpos]
      simp
    simp only [ofText, text, htext, htake, hdrop, String.ofList_toList]

/-! ## Reading -/

theorem parse_eq_ok_iff : parse s = .ok f ↔ f.text = s ∧ f.isValid = true := by
  have hparse : parse s = (ofText s).validate.bind fun _ => .ok (ofText s) := rfl
  rw [hparse, Outcome.bind_const_eq_ok, validate_eq_ok_iff]
  constructor
  · rintro ⟨hvalid, h⟩
    cases h
    exact ⟨text_ofText s, hvalid⟩
  · rintro ⟨rfl, hvalid⟩
    have hread : ofText f.text = f := ofText_text fun h => isValid_iff.1 hvalid (.inr h)
    rw [hread]
    exact ⟨hvalid, rfl⟩

theorem parse_text_eq_ok_iff : parse f.text = .ok f ↔ f.isValid = true := by
  rw [parse_eq_ok_iff]
  exact and_iff_right rfl

theorem parse_eq_error_iff {error : PlacementError} : parse s = .error error ↔
    s.toList.takeWhile (· ≠ '=') = [] ∧ error = .invalidPropertyFilter s := by
  have hparse : parse s = (ofText s).validate.bind fun _ => .ok (ofText s) := rfl
  have hempty : (ofText s).isValid = false ↔ s.toList.takeWhile (· ≠ '=') = [] := by
    rw [← toList_key_ofText, ← Bool.not_eq_true, isValid_iff, not_not, String.toList_eq_nil_iff,
      or_iff_left (separator_not_mem_ofText s)]
  rw [hparse, ← hempty, validate]
  cases (ofText s).isValid with
  | true => simp [Except.bind]
  | false => simp [Except.bind, text_ofText, eq_comm]

end ReplicaPlacement.PropertyFilter
