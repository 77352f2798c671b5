import EntityTrust.Proofs.Json.Object
import EntityTrust.Proofs.Statement.Claims
import EntityTrust.Statement.Core

/-!
# Lossless readings

Readings of values of which nothing is lost when what was read is written.

**Law.**  What is read from a value in normal form is written as a value in normal form, which is
read as the same again.  So writing what is read is idempotent, though it may drop members that mean
nothing and turn one form of a record into another.

**Results.**
* `Lossless.settles`: what was read and written does not change when this is done again.
* `Lossless.list`, `Lossless.map`, `Lossless.optional`: the law for lists, maps and options follows
  from that for their parts.
* `returns_case`: named cases are read again when their names are different.
-/

namespace EntityTrust
namespace Json

variable {α : Type}

/-- A value is written in normal form and is read again. -/
structure Returns (read : As α) (write : α → Json) (x : α) : Prop where
  normal : (write x).Normal
  again : read (write x) = .ok x

/-- Nothing that is read is lost when it is written. -/
def Lossless (read : As α) (write : α → Json) : Prop :=
  ∀ ⦃v : Json⦄ ⦃x : α⦄, v.Normal → read v = .ok x → Returns read write x

variable {read : As α} {write : α → Json}

/-- What is read from a value is read again once it is written, so to read and write once more
changes nothing. -/
structure Settles (read : As α) (write : α → Json) (v : Json) : Prop where
  returns : ∀ x, read v = .ok x → Returns read write x
  idempotent : ∀ w, (read v).map write = .ok w → (read w).map write = .ok w

theorem Lossless.settles (h : Lossless read write) {v : Json} (hv : v.Normal) :
    Settles read write v where
  returns _ hx := h hv hx
  idempotent w hw := by
    obtain ⟨x, hx, rfl⟩ := Outcome.map_eq_ok.mp hw
    rw [(h hv hx).again]
    rfl

section Scalars

theorem returns_text (s : String) : Returns asText .string s :=
  ⟨.string s, rfl⟩

theorem lossless_text : Lossless asText .string :=
  fun _ s _ _ => returns_text s

theorem lossless_json : Lossless asJson id := by
  intro v x hv hx
  cases hx
  exact ⟨hv, rfl⟩

theorem lossless_signed64 : Lossless asSigned64 .integer := by
  intro v n _ hn
  exact ⟨.integer n, asSigned64_eq_ok.mpr ⟨rfl, (asSigned64_eq_ok.mp hn).2⟩⟩

theorem asNatural_eq_ok {bound n : Nat} {type : String} {v : Json} :
    asNatural bound type v = .ok n ↔ v = .integer n ∧ n ≤ bound := by
  rw [asNatural, Outcome.map_eq_ok]
  cases v with
  | integer k =>
      simp only [asInteger, integer.injEq]
      split
      · rename_i hk
        simp only [Except.ok.injEq, exists_eq_left']
        omega
      · simp only [reduceCtorEq, false_and, exists_false, false_iff, not_and]
        omega
  | _ => simp [asInteger, mismatch]

theorem lossless_natural (bound : Nat) (type : String) :
    Lossless (asNatural bound type) fun n => .integer n := by
  intro v n _ hn
  exact ⟨.integer n, asNatural_eq_ok.mpr ⟨rfl, (asNatural_eq_ok.mp hn).2⟩⟩

/-- Named cases are written as their names. -/
theorem returns_case {isUnit : Json → Bool} {cases : List (String × α)} {name : α → String}
    (hname : ∀ a, cases.lookup (name a) = some a) (a : α) :
    Returns (asCaseWith isUnit cases) (fun a => .string (name a)) a :=
  ⟨.string _, by simp [asCaseWith, hname]⟩

end Scalars

section Parts

theorem readAll_cons_eq_ok {v : Json} {vs : List Json} {xs : List α} :
    readAll read (v :: vs) = .ok xs ↔
      ∃ a as, read v = .ok a ∧ readAll read vs = .ok as ∧ xs = a :: as := by
  cases hv : read v with
  | error e => simp [readAll, hv]
  | ok a =>
      cases hvs : readAll read vs with
      | error e => simp [readAll, hv, hvs]
      | ok as => simp [readAll, hv, hvs, eq_comm]

theorem readEach_cons_eq_ok {m : Member} {ms : List Member} {xs : List (String × α)} :
    readEach read (m :: ms) = .ok xs ↔
      ∃ a as, read m.2 = .ok a ∧ readEach read ms = .ok as ∧ xs = (m.1, a) :: as := by
  cases hm : read m.2 with
  | error e => simp [readEach, hm]
  | ok a =>
      cases hms : readEach read ms with
      | error e => simp [readEach, hm, hms]
      | ok as => simp [readEach, hm, hms, eq_comm]

theorem readAll_map {xs : List α} (h : ∀ x ∈ xs, read (write x) = .ok x) :
    readAll read (xs.map write) = .ok xs := by
  induction xs with
  | nil => rfl
  | cons x xs ih =>
      obtain ⟨hx, hxs⟩ := List.forall_mem_cons.mp h
      exact readAll_cons_eq_ok.mpr ⟨x, xs, hx, ih hxs, rfl⟩

theorem readEach_map {xs : List (String × α)} (h : ∀ x ∈ xs, read (write x.2) = .ok x.2) :
    readEach read (xs.map fun x => (x.1, write x.2)) = .ok xs := by
  induction xs with
  | nil => rfl
  | cons x xs ih =>
      obtain ⟨hx, hxs⟩ := List.forall_mem_cons.mp h
      exact readEach_cons_eq_ok.mpr ⟨x.2, xs, hx, ih hxs, rfl⟩

/-- A list is read again when each of its items is. -/
theorem returns_items {xs : List α} (h : ∀ x ∈ xs, Returns read write x) :
    Returns (asList read) (fun xs => .array (xs.map write)) xs := by
  refine ⟨.array fun v hv => ?_, readAll_map fun x hx => (h x hx).again⟩
  obtain ⟨x, hx, rfl⟩ := List.mem_map.mp hv
  exact (h x hx).normal

theorem Returns.list (h : ∀ x, Returns read write x) (xs : List α) :
    Returns (asList read) (fun xs => .array (xs.map write)) xs :=
  returns_items fun x _ => h x

/-- Lists are read again when their items are. -/
theorem Lossless.list (h : Lossless read write) :
    Lossless (asList read) fun xs => .array (xs.map write) := by
  have hitems {vs : List Json} {xs : List α} (hvs : ∀ v ∈ vs, v.Normal)
      (hxs : readAll read vs = .ok xs) : ∀ x ∈ xs, Returns read write x := by
    induction vs generalizing xs with
    | nil =>
        cases hxs
        simp
    | cons v vs ih =>
        obtain ⟨hv, hvs⟩ := List.forall_mem_cons.mp hvs
        obtain ⟨a, as, ha, has, rfl⟩ := readAll_cons_eq_ok.mp hxs
        exact List.forall_mem_cons.mpr ⟨h hv ha, ih hvs has⟩
  intro v xs hv hxs
  cases hv with
  | array hvs => exact returns_items (hitems hvs hxs)
  | _ => cases hxs

/-- Maps are read again when their values are. -/
theorem Lossless.map (h : Lossless read write) : Lossless (asMap read) (mapOf write) := by
  have hmembers {ms : List Member} {xs : List (String × α)} (hms : ∀ m ∈ ms, m.2.Normal)
      (hxs : readEach read ms = .ok xs) :
      xs.map Prod.fst = namesOf ms ∧ ∀ x ∈ xs, Returns read write x.2 := by
    induction ms generalizing xs with
    | nil =>
        cases hxs
        exact ⟨rfl, by simp⟩
    | cons m ms ih =>
        obtain ⟨hm, hms⟩ := List.forall_mem_cons.mp hms
        obtain ⟨a, as, ha, has, rfl⟩ := readEach_cons_eq_ok.mp hxs
        obtain ⟨hnames, hreturns⟩ := ih hms has
        exact ⟨congrArg (m.1 :: ·) hnames, List.forall_mem_cons.mpr ⟨h hm ha, hreturns⟩⟩
  intro v xs hv hxs
  cases hv with
  | @object ms sorted hms =>
      obtain ⟨hnames, hreturns⟩ := hmembers hms hxs
      have hsorted : Sorted (xs.map fun x => (x.1, write x.2)) := by
        refine sorted_iff_namesOf.mpr ?_
        have hkept : namesOf (xs.map fun x => (x.1, write x.2)) = namesOf ms := by
          rw [← hnames, namesOf, List.map_map]
          rfl
        exact hkept ▸ sorted_iff_namesOf.mp sorted
      have hwritten : mapOf write xs = .object (xs.map fun x => (x.1, write x.2)) :=
        congrArg Json.object hsorted.ofMembers_eq
      constructor
      · refine hwritten ▸ .object hsorted fun m hm => ?_
        obtain ⟨x, hx, rfl⟩ := List.mem_map.mp hm
        exact (hreturns x hx).normal
      · rw [hwritten]
        exact readEach_map fun x hx => (hreturns x hx).again
  | _ => cases hxs

theorem optional_of_ne_null {v : Json} (hv : v ≠ .null) :
    Json.optional read v = (read v).map some := by
  cases v <;> first | rfl | exact absurd rfl hv

theorem Returns.optional_eq {x : α} (h : Returns read write x) (hnull : write x ≠ .null) :
    Json.optional read (write x) = .ok (some x) := by
  rw [optional_of_ne_null hnull, h.again]
  rfl

theorem Returns.optional (h : ∀ x, Returns read write x) (hnull : ∀ x, write x ≠ .null)
    (o : Option α) : Returns (Json.optional read) (fun o => o.elim .null write) o := by
  cases o with
  | none => exact ⟨.null, rfl⟩
  | some x => exact ⟨(h x).normal, (h x).optional_eq (hnull x)⟩

/-- Options are read again when their values are and none is written as `null`. -/
theorem Lossless.optional (h : Lossless read write)
    (hnull : ∀ {v x}, v ≠ .null → read v = .ok x → write x ≠ .null) :
    Lossless (Json.optional read) fun o => (o.map write).getD .null := by
  intro v o hv ho
  by_cases hnone : v = .null
  · subst hnone
    cases ho
    exact ⟨.null, rfl⟩
  · rw [optional_of_ne_null hnone, Outcome.map_eq_ok] at ho
    obtain ⟨x, hx, rfl⟩ := ho
    have hreturns := h hv hx
    exact ⟨hreturns.normal, hreturns.optional_eq (hnull hnone hx)⟩

end Parts
end Json
end EntityTrust
