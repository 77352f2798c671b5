import EntityTrust.Json.Record
import EntityTrust.Proofs.Lookup
import Mathlib.Data.List.Induction
import Mathlib.Data.List.Nodup
import Mathlib.Data.List.Sort

/-!
# Objects in normal form

Members sorted strictly by their names, and the values all of whose objects are of this form.

**Members.**  `ofMembers` sorts any list of members and keeps the last member of a name.  A sorted
list is determined by the values of its names, so it is the normal form of itself.

**Values.**  `Normal` holds of a value when all objects in it are sorted, which is so of every value
that has been read as a document.

**Results.**
* `lookup_insertMember`, `sorted_insertMember`: what a member that is put into its place changes.
* `lookup_ofMembers`: a name that comes once has the same value in the normal form.
* `Sorted.ext`: sorted members with the same values of all names are the same.
-/

namespace EntityTrust
namespace Json

variable {name : String} {value : Json} {m : Member} {ms ms' : List Member}

/-- Members are in the strict order of their names. -/
def Sorted (ms : List Member) : Prop :=
  ms.Pairwise fun a b => a.1 < b.1

/-- The names of members. -/
def namesOf (ms : List Member) : List String :=
  ms.map Prod.fst

theorem sorted_iff_namesOf : Sorted ms ↔ (namesOf ms).Pairwise (· < ·) :=
  List.pairwise_map.symm

section Lookup

theorem lookup_eq_none_iff : lookup name ms = none ↔ name ∉ namesOf ms := by
  simp only [List.lookup_eq_none_iff, bne_iff_ne, namesOf, List.mem_map, not_exists, not_and]
  exact forall₂_congr fun _ _ => ne_comm

end Lookup

section Insertion

theorem mem_insertMember (h : m ∈ insertMember name value ms) : m = (name, value) ∨ m ∈ ms := by
  induction ms with
  | nil => exact .inl (List.mem_singleton.mp h)
  | cons d ms ih =>
      unfold insertMember at h
      split at h
      · exact (List.mem_cons.mp h).imp_right (List.mem_cons_of_mem _)
      · split at h
        · exact List.mem_cons.mp h
        · obtain rfl | hmem := List.mem_cons.mp h
          · exact .inr List.mem_cons_self
          · exact (ih hmem).imp_right (List.mem_cons_of_mem _)

/-- A member that is put into its place gives its name a value and changes no other. -/
theorem lookup_insertMember (k : String) :
    lookup k (insertMember name value ms) = if name = k then some value else lookup k ms := by
  induction ms with
  | nil => simp [insertMember, lookup_cons]
  | cons d ms ih =>
      unfold insertMember
      split
      · rename_i hname
        by_cases hk : name = k
        · simp [lookup_cons, hk]
        · simp [lookup_cons, hk, hname ▸ hk]
      · split
        · by_cases hk : name = k <;> simp [lookup_cons, hk]
        · rename_i hname _
          by_cases hd : d.1 = k
          · have hk : ¬ name = k := fun h => hname (h.trans hd.symm)
            simp [lookup_cons, hd, hk]
          · simp [lookup_cons, hd, ih]

theorem sorted_insertMember (h : Sorted ms) : Sorted (insertMember name value ms) := by
  induction ms with
  | nil => exact List.pairwise_singleton _ _
  | cons d ms ih =>
      obtain ⟨hhead, htail⟩ := List.pairwise_cons.mp h
      unfold insertMember
      split
      · rename_i hname
        exact List.pairwise_cons.mpr ⟨fun m hm => hname ▸ hhead m hm, htail⟩
      · rename_i hname
        split
        · rename_i hlt
          refine List.pairwise_cons.mpr ⟨fun m hm => ?_, h⟩
          obtain rfl | hmem := List.mem_cons.mp hm
          · exact hlt
          · exact String.lt_trans hlt (hhead m hmem)
        · rename_i hge
          refine List.pairwise_cons.mpr ⟨fun m hm => ?_, ih htail⟩
          obtain rfl | hmem := mem_insertMember hm
          · exact Std.lt_of_le_of_ne hge (Ne.symm hname)
          · exact hhead m hmem

end Insertion

section NormalForm

theorem ofMembers_concat : ofMembers (ms ++ [m]) = insertMember m.1 m.2 (ofMembers ms) := by
  rw [ofMembers, List.foldl_append]
  rfl

theorem sorted_ofMembers (ms : List Member) : Sorted (ofMembers ms) := by
  induction ms using List.reverseRecOn with
  | nil => exact .nil
  | append_singleton ms m ih =>
      rw [ofMembers_concat]
      exact sorted_insertMember ih

theorem mem_of_mem_ofMembers (h : m ∈ ofMembers ms) : m ∈ ms := by
  induction ms using List.reverseRecOn with
  | nil => cases h
  | append_singleton ms d ih =>
      rw [ofMembers_concat] at h
      obtain rfl | hmem := mem_insertMember h
      · simp
      · exact List.mem_append_left _ (ih hmem)

/-- Of several members of a name the last one counts. -/
theorem lookup_ofMembers_reverse (ms : List Member) :
    lookup name (ofMembers ms) = lookup name ms.reverse := by
  induction ms using List.reverseRecOn with
  | nil => rfl
  | append_singleton ms m ih =>
      rw [ofMembers_concat, lookup_insertMember, ih, List.reverse_append, List.reverse_singleton,
        List.singleton_append, lookup_cons]

/-- A name that comes once has the same value in the normal form. -/
theorem lookup_ofMembers (h : (namesOf ms).Nodup) :
    lookup name (ofMembers ms) = lookup name ms := by
  have hreverse : (namesOf ms.reverse).Nodup := by
    rw [namesOf, List.map_reverse]
    exact List.nodup_reverse.mpr h
  rw [lookup_ofMembers_reverse]
  refine Option.ext fun v => ⟨fun hv => ?_, fun hv => ?_⟩
  · exact lookup_of_mem h (List.mem_reverse.mp (mem_of_lookup hv))
  · exact lookup_of_mem hreverse (List.mem_reverse.mpr (mem_of_lookup hv))

theorem Sorted.nodup (h : Sorted ms) : (namesOf ms).Nodup := by
  refine List.pairwise_map.mpr (h.imp fun {a b} hlt heq => ?_)
  exact String.lt_irrefl b.1 (heq ▸ hlt)

theorem Sorted.filter (h : Sorted ms) (p : Member → Bool) : Sorted (ms.filter p) :=
  List.Pairwise.filter p h

theorem Sorted.mem_iff (h : Sorted ms) : m ∈ ms ↔ lookup m.1 ms = some m.2 :=
  ⟨lookup_of_mem h.nodup, mem_of_lookup⟩

/-- Sorted members with the same values of all names are the same. -/
theorem Sorted.ext (h : Sorted ms) (h' : Sorted ms')
    (hlookup : ∀ name, lookup name ms = lookup name ms') : ms = ms' := by
  have hirrefl : Std.Irrefl fun a b : Member => a.1 < b.1 := ⟨fun m => String.lt_irrefl m.1⟩
  have hasymm : Std.Antisymm fun a b : Member => a.1 < b.1 :=
    ⟨fun a b hab hba => absurd hba (String.lt_asymm hab)⟩
  exact List.Pairwise.eq_of_mem_iff h h' fun m => by rw [h.mem_iff, h'.mem_iff, hlookup]

/-- Sorted members are in normal form. -/
theorem Sorted.ofMembers_eq (h : Sorted ms) : ofMembers ms = ms :=
  (sorted_ofMembers ms).ext h fun _ => lookup_ofMembers h.nodup

end NormalForm

/-- All objects in a value are sorted. -/
inductive Normal : Json → Prop
  | null : Normal .null
  | bool (b : Bool) : Normal (.bool b)
  | integer (n : Int) : Normal (.integer n)
  | float (x : Float) : Normal (.float x)
  | string (s : String) : Normal (.string s)
  | array {items : List Json} (normal : ∀ v ∈ items, Normal v) : Normal (.array items)
  | object {ms : List Member} (sorted : Sorted ms) (normal : ∀ m ∈ ms, Normal m.2) :
      Normal (.object ms)

attribute [simp] Normal.null Normal.bool Normal.integer Normal.float Normal.string

@[simp]
theorem normal_array {items : List Json} : (array items).Normal ↔ ∀ v ∈ items, v.Normal := by
  constructor
  · intro h
    cases h with
    | array normal => exact normal
  · exact .array

@[simp]
theorem normal_object :
    (object ms).Normal ↔ (namesOf ms).Pairwise (· < ·) ∧ ∀ m ∈ ms, m.2.Normal := by
  constructor
  · intro h
    cases h with
    | object sorted normal => exact ⟨sorted_iff_namesOf.mp sorted, normal⟩
  · exact fun ⟨sorted, normal⟩ => .object (sorted_iff_namesOf.mpr sorted) normal

end Json
end EntityTrust
