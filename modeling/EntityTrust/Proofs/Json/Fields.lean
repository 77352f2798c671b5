import EntityTrust.Proofs.Json.Lossless

/-!
# Written fields

Named values that are written in the normal form of an object, some of them left out.

**Tables.**  A record is written as fields, each with a value or without one, and perhaps other
members behind them.  `Table` says what the normal form of these members holds: the values of the
fields, and nothing but the other members beside them.

**Results.**
* `table_ofMembers`: the normal form of the written members is a table.
* `Table.filter_eq`: the members beside the fields are the others.
* `normal_ofMembers`: the written object is in normal form when its values are.
-/

namespace EntityTrust
namespace Json

/-- Named values that a record is written as, where they are not left out. -/
abbrev Fields := List (String × Option Json)

/-- The members of fields. -/
def fieldMembers (fs : Fields) : List Member :=
  fs.flatMap fun f => present f.1 f.2

theorem presentList_eq {α : Type} (name : String) (write : List α → Json) (xs : List α) :
    presentList name write xs = present name (if xs = [] then none else some (write xs)) := by
  cases xs with
  | nil => rfl
  | cons x xs => rfl

section Tables

variable {fs : Fields} {others ms : List Member} {name : String}

theorem namesOf_fieldMembers (fs : Fields) :
    (namesOf (fieldMembers fs)).Sublist (fs.map Prod.fst) := by
  induction fs with
  | nil => exact .slnil
  | cons f fs ih =>
      obtain ⟨k, _ | v⟩ := f
      · exact .cons _ ih
      · exact .cons_cons _ ih

theorem lookup_fieldMembers_of_not_mem (h : name ∉ fs.map Prod.fst) :
    lookup name (fieldMembers fs) = none :=
  lookup_eq_none_iff.mpr fun hmem => h ((namesOf_fieldMembers fs).subset hmem)

theorem lookup_fieldMembers (hnames : (fs.map Prod.fst).Nodup) {f : String × Option Json}
    (hf : f ∈ fs) : lookup f.1 (fieldMembers fs) = f.2 := by
  induction fs with
  | nil => cases hf
  | cons d fs ih =>
      obtain ⟨hfresh, hrest⟩ := List.nodup_cons.mp hnames
      have hcons : fieldMembers (d :: fs) = present d.1 d.2 ++ fieldMembers fs := rfl
      rw [hcons, List.lookup_append]
      obtain rfl | hmem := List.mem_cons.mp hf
      · rw [lookup_fieldMembers_of_not_mem hfresh]
        cases hv : f.2 with
        | none => rfl
        | some v => simp [present]
      · have hne : d.1 ≠ f.1 := fun h => hfresh (h ▸ List.mem_map_of_mem (f := Prod.fst) hmem)
        have hnone : lookup f.1 (present d.1 d.2) = none := by
          cases d.2 with
          | none => rfl
          | some v => rw [present, lookup_cons, if_neg hne, List.lookup_nil]
        rw [hnone, Option.none_or]
        exact ih hrest hmem

/-- What sorted members hold: the values of fields, and nothing but others beside them. -/
structure Table (fs : Fields) (others ms : List Member) : Prop where
  sorted : Sorted ms
  named : ∀ f ∈ fs, lookup f.1 ms = f.2
  unnamed : ∀ name ∉ fs.map Prod.fst, lookup name ms = lookup name others

theorem table_ofMembers (hnames : (fs.map Prod.fst).Nodup) (hothers : Sorted others)
    (hfresh : ∀ m ∈ others, m.1 ∉ fs.map Prod.fst) :
    Table fs others (ofMembers (fieldMembers fs ++ others)) := by
  have hnodup : (namesOf (fieldMembers fs ++ others)).Nodup := by
    rw [namesOf, List.map_append, List.nodup_append]
    refine ⟨hnames.sublist (namesOf_fieldMembers fs), hothers.nodup, fun a ha b hb heq => ?_⟩
    obtain ⟨m, hm, rfl⟩ := List.mem_map.mp hb
    exact hfresh m hm (heq ▸ (namesOf_fieldMembers fs).subset ha)
  refine ⟨sorted_ofMembers _, fun f hf => ?_, fun name hname => ?_⟩
  · have hnone : lookup f.1 others = none := by
      refine lookup_eq_none_iff.mpr fun hmem => ?_
      obtain ⟨m, hm, heq⟩ := List.mem_map.mp hmem
      exact hfresh m hm (heq ▸ List.mem_map_of_mem (f := Prod.fst) hf)
    rw [lookup_ofMembers hnodup, List.lookup_append, lookup_fieldMembers hnames hf, hnone,
      Option.or_none]
  · rw [lookup_ofMembers hnodup, List.lookup_append, lookup_fieldMembers_of_not_mem hname,
      Option.none_or]

/-- A table without others has no member of a name that no field has. -/
theorem Table.free {names : List String} (h : Table fs [] ms)
    (hnames : ∀ name ∈ names, name ∉ fs.map Prod.fst) : ∀ m ∈ ms, m.1 ∉ names := by
  intro m hm hname
  have hnone : lookup m.1 ms = none := h.unnamed m.1 (hnames m.1 hname)
  exact lookup_eq_none_iff.mp hnone (List.mem_map_of_mem (f := Prod.fst) hm)

/-- The members beside the fields are the others. -/
theorem Table.filter_eq {known : List String} (h : Table fs others ms)
    (hknown : fs.map Prod.fst = known) (hothers : Sorted others)
    (hfresh : ∀ m ∈ others, m.1 ∉ known) :
    (ms.filter fun m => !known.contains m.1) = others := by
  refine (h.sorted.filter _).ext hothers fun name => ?_
  rw [lookup_filter_fst fun name => !known.contains name]
  by_cases hname : name ∈ known
  · have hnone : lookup name others = none := by
      refine lookup_eq_none_iff.mpr fun hmem => ?_
      obtain ⟨m, hm, rfl⟩ := List.mem_map.mp hmem
      exact hfresh m hm hname
    simp [hname, hnone]
  · have hsame : lookup name ms = lookup name others := h.unnamed name (hknown ▸ hname)
    simp [hname, hsame]

/-- Written members are in normal form when their values are. -/
theorem normal_ofMembers (hfields : ∀ f ∈ fs, ∀ v, f.2 = some v → v.Normal)
    (hothers : ∀ m ∈ others, m.2.Normal) :
    (object (ofMembers (fieldMembers fs ++ others))).Normal := by
  refine .object (sorted_ofMembers _) fun m hm => ?_
  obtain hm | hm := List.mem_append.mp (mem_of_mem_ofMembers hm)
  · obtain ⟨f, hf, hmem⟩ := List.mem_flatMap.mp hm
    cases hv : f.2 with
    | none => rw [hv] at hmem; cases hmem
    | some v =>
        rw [hv] at hmem
        obtain rfl := List.mem_singleton.mp hmem
        exact hfields f hf v hv
  · exact hothers m hm

end Tables
end Json
end EntityTrust
