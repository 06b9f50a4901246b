/-!
Looking entries up by their key where some of the entries have been taken out.
-/

set_option autoImplicit false

namespace Passcode

variable {κ α : Type} [DecidableEq κ] {key : κ} {entries : List (κ × α)}

theorem mem_of_lookup {value : α} (found : entries.lookup key = some value) :
    (key, value) ∈ entries := by
  obtain ⟨before, after, split, -⟩ := List.lookup_eq_some_iff.mp found
  rw [split]
  exact List.mem_append_right before List.mem_cons_self

theorem lookup_filter_ne {other : κ} :
    (entries.filter (·.1 != other)).lookup key =
      if key = other then none else entries.lookup key := by
  induction entries with
  | nil => simp only [List.filter_nil, List.lookup_nil, ite_self]
  | cons entry entries ih =>
    obtain ⟨first, value⟩ := entry
    by_cases removed : first = other
    · subst removed
      simp only [List.filter_cons, bne_self_eq_false, Bool.false_eq_true, ↓reduceIte, ih,
        List.lookup_cons]
      by_cases same : key = first
      · simp only [same, ↓reduceIte]
      · simp only [same, beq_eq_false_iff_ne.mpr same, ↓reduceIte]
    · simp only [List.filter_cons, bne_iff_ne.mpr removed, ↓reduceIte, List.lookup_cons, ih]
      by_cases same : key = first
      · subst same
        simp only [removed, beq_self_eq_true, ↓reduceIte]
      · simp only [beq_eq_false_iff_ne.mpr same]

theorem lookup_filter_of_kept {keep : κ × α → Bool} {value : α}
    (found : entries.lookup key = some value) (kept : keep (key, value) = true) :
    (entries.filter keep).lookup key = some value := by
  induction entries with
  | nil => cases found
  | cons entry entries ih =>
    obtain ⟨first, v⟩ := entry
    by_cases same : key = first
    · subst same
      rw [List.lookup_cons_self] at found
      obtain rfl := Option.some.inj found
      rw [List.filter_cons_of_pos kept, List.lookup_cons_self]
    · rw [List.lookup_cons, beq_eq_false_iff_ne.mpr same] at found
      have rest := ih found
      rw [List.filter_cons]
      split
      · rw [List.lookup_cons, beq_eq_false_iff_ne.mpr same]
        exact rest
      · exact rest

theorem lookup_filter {keep : κ × α → Bool} (distinct : (entries.map Prod.fst).Nodup) :
    (entries.filter keep).lookup key =
      (entries.lookup key).filter fun value => keep (key, value) := by
  induction entries with
  | nil => rfl
  | cons entry entries ih =>
    obtain ⟨first, value⟩ := entry
    rw [List.map_cons, List.nodup_cons] at distinct
    obtain ⟨once, rest⟩ := distinct
    have later := ih rest
    by_cases same : key = first
    · subst same
      have missing : entries.lookup key = none := by
        rw [List.lookup_eq_none_iff]
        intro other member
        have different : key ≠ other.1 := by
          intro again
          exact once (List.mem_map.mpr ⟨other, member, again.symm⟩)
        simp [different]
      rw [missing] at later
      cases kept : keep (key, value) with
      | true => simp [kept, Option.filter]
      | false => simp [kept, later, Option.filter]
    · have apart : (key == first) = false := by simp [same]
      cases kept : keep (first, value) with
      | true => simp [kept, List.lookup_cons, apart, later]
      | false => simp [kept, List.lookup_cons, apart, later]

theorem lookup_filter_of_none {keep : κ × α → Bool} (missing : entries.lookup key = none) :
    (entries.filter keep).lookup key = none := by
  rw [List.lookup_eq_none_iff] at missing ⊢
  intro entry member
  exact missing entry (List.mem_filter.mp member).1

end Passcode
