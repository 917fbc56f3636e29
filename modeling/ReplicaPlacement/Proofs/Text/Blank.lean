import Mathlib.Data.List.DropRight
import ReplicaPlacement.Text.Blank

/-!
# What trimming leaves

Trimming takes the blanks at either end away, all of them and nothing else.
-/

namespace ReplicaPlacement.Text

structure Trims (cs t : List Char) : Prop where
  exists_blanks : ∃ before after, cs = before ++ t ++ after ∧
    (∀ c ∈ before, isBlank c = true) ∧ ∀ c ∈ after, isBlank c = true
  first_shows : ∀ c ∈ t.head?, isBlank c = false
  last_shows : ∀ c ∈ t.getLast?, isBlank c = false

variable {cs t : List Char}

theorem trims_trim (cs : List Char) : Trims cs (trim cs) where
  exists_blanks := by
    have hstart : cs.takeWhile isBlank ++ cs.dropWhile isBlank = cs := List.takeWhile_append_dropWhile
    have hend : trim cs ++ (cs.dropWhile isBlank).rtakeWhile isBlank = cs.dropWhile isBlank := by
      rw [trim, List.rtakeWhile, ← List.reverse_append, List.takeWhile_append_dropWhile,
        List.reverse_reverse]
    refine ⟨cs.takeWhile isBlank, (cs.dropWhile isBlank).rtakeWhile isBlank, ?_,
      fun _ hc => List.mem_takeWhile_imp hc, fun _ hc => List.mem_rtakeWhile_imp hc⟩
    rw [List.append_assoc, hend, hstart]
  first_shows := by
    intro c hc
    have hhead := List.head?_dropWhile_not isBlank cs
    obtain ⟨after, hafter⟩ : trim cs <+: cs.dropWhile isBlank := List.rdropWhile_prefix isBlank _
    rw [← hafter, List.head?_append, Option.mem_def.1 hc] at hhead
    exact hhead
  last_shows := by
    have hlast := List.head?_dropWhile_not isBlank (cs.dropWhile isBlank).reverse
    intro c hc
    rw [trim, List.getLast?_reverse, Option.mem_def] at hc
    rw [hc] at hlast
    exact hlast

theorem dropWhile_isBlank_append {before cs : List Char} (hbefore : ∀ c ∈ before, isBlank c = true)
    (hcs : ∀ c ∈ cs.head?, isBlank c = false) : (before ++ cs).dropWhile isBlank = cs := by
  rw [List.dropWhile_append_of_pos hbefore]
  cases cs with
  | nil => rfl
  | cons c cs => exact List.dropWhile_cons_of_neg (by simp [hcs c rfl])

theorem Trims.eq_trim (h : Trims cs t) : t = trim cs := by
  obtain ⟨before, after, rfl, hbefore, hafter⟩ := h.exists_blanks
  have hend : (after.reverse ++ t.reverse).dropWhile isBlank = t.reverse := by
    refine dropWhile_isBlank_append (fun c hc => hafter c (List.mem_reverse.1 hc)) ?_
    rw [List.head?_reverse]
    exact h.last_shows
  cases t with
  | nil =>
    have hall : ∀ c ∈ before ++ [] ++ after, isBlank c = true := by
      simpa [or_imp, forall_and] using ⟨hbefore, hafter⟩
    rw [trim, List.dropWhile_eq_nil_iff.2 hall]
    rfl
  | cons c t =>
    have hstart : (before ++ (c :: t ++ after)).dropWhile isBlank = c :: t ++ after :=
      dropWhile_isBlank_append hbefore (by simpa using h.first_shows)
    rw [trim, List.append_assoc, hstart, List.reverse_append, hend, List.reverse_reverse]

theorem trims_iff : Trims cs t ↔ t = trim cs :=
  ⟨Trims.eq_trim, fun h => h ▸ trims_trim cs⟩

theorem trim_trim (cs : List Char) : trim (trim cs) = trim cs := by
  have h := trims_trim cs
  have hself : Trims (trim cs) (trim cs) :=
    ⟨⟨[], [], by simp, nofun, nofun⟩, h.first_shows, h.last_shows⟩
  exact hself.eq_trim.symm

end ReplicaPlacement.Text
