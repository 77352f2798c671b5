import Mathlib.Data.List.Nodup

/-!
# Look-up in lists of pairs

The value of a key in a list of pairs is that of the first pair with the key.

**Results.**
* `mem_of_lookup`, `lookup_of_mem`: a value that is found stands in the list, and when no key comes
  twice, whatever stands in the list is found.
* `lookup_filter_fst`: a selection by keys keeps or loses the values of a key together.
-/

namespace EntityTrust

variable {κ β : Type} [BEq κ] [LawfulBEq κ] {l : List (κ × β)} {k : κ} {b : β}

theorem lookup_cons [DecidableEq κ] (p : κ × β) :
    (p :: l).lookup k = if p.1 = k then some p.2 else l.lookup k := by
  rw [List.lookup_cons]
  by_cases hk : p.1 = k
  · simp [hk]
  · rw [beq_false_of_ne (Ne.symm hk), if_neg hk]

theorem mem_of_lookup (h : l.lookup k = some b) : (k, b) ∈ l := by
  obtain ⟨before, after, rfl, -⟩ := List.lookup_eq_some_iff.mp h
  simp

/-- When no key comes twice, what stands in the list is found. -/
theorem lookup_of_mem (hnodup : (l.map Prod.fst).Nodup) (h : (k, b) ∈ l) :
    l.lookup k = some b := by
  obtain ⟨before, after, rfl⟩ := List.append_of_mem h
  refine List.lookup_eq_some_iff.mpr ⟨before, after, rfl, fun p hp => bne_iff_ne.mpr ?_⟩
  rw [List.map_append, List.nodup_append] at hnodup
  exact (hnodup.2.2 p.1 (List.mem_map_of_mem hp) k List.mem_cons_self).symm

theorem lookup_filter_fst (keep : κ → Bool) (l : List (κ × β)) (k : κ) :
    (l.filter fun p => keep p.1).lookup k = if keep k then l.lookup k else none := by
  induction l with
  | nil => simp
  | cons p l ih =>
      obtain ⟨j, b⟩ := p
      by_cases hjk : k = j
      · subst hjk
        cases hk : keep k with
        | false => simp [hk, ih]
        | true => simp [hk]
      · have hne : (k == j) = false := by simpa using hjk
        cases hj : keep j <;> simp [hj, List.lookup_cons, hne, ih]

end EntityTrust
