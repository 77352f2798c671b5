import EntityTrust.Proofs.Chain.Window

/-!
# The shape of accepted chains

A chain is documented to climb from the subject's configuration over statements about subordinates
to the anchor's configuration.  The rules of verification link each statement to the next one and
say of the last one only who issued it.

**What the rules leave open.**
* Between the first and the last may stand a configuration: it is linked to itself, so any
  statement of its entity may be followed by it (`isValid_repeat`).
* The last may be about another entity than its issuer.  It verifies under keys that it lists
  itself, and these are the keys of its subject.  So an entity that names an anchor as issuer of a
  statement about itself passes as accepted by that anchor (`isValid_of_crowned`).

**Results.**
* `shaped_iff_subjects`: an accepted chain has the documented shape exactly when no two neighbours
  above the first are about the same entity and the last one is about the anchor.
* `crowned_by_itself`: an accepted chain without the documented shape.
-/

namespace EntityTrust
namespace TrustChain

/-- The documented shape of a chain that ends at an anchor. -/
structure Shaped (anchor : String) (statements : List String) : Prop where
  first : ∀ t s, Holds statements 0 t s → s.core.issuer = s.core.subject
  between : ∀ j t s, 0 < j → j < statements.length - 1 → Holds statements j t s →
    s.core.issuer ≠ s.core.subject
  last : ∀ t s, Holds statements (statements.length - 1) t s →
    s.core.issuer = anchor ∧ s.core.subject = anchor

/-- No two neighbours above the first statement are about the same entity. -/
def Climbing (statements : List String) : Prop :=
  ∀ j t s t' s', 0 < j → Holds statements j t s → Holds statements (j + 1) t' s' →
    s.core.subject ≠ s'.core.subject

variable {accepts : String → Jwk → Bool} {anchor : Option String} {now : Int} {raw top : String}
  {statements rest : List String}

theorem lt_length_of_holds {j : Nat} {t : Token} {s : Statement} (h : Holds statements j t s) :
    j < statements.length := by
  obtain ⟨raw, hraw, -⟩ := h.decoded
  exact (List.getElem?_eq_some_iff.mp hraw).1

theorem climbing_iff (h : Documented accepts anchor now statements) :
    Climbing statements ↔
      ∀ j t s, 0 < j → j < statements.length - 1 → Holds statements j t s →
        s.core.issuer ≠ s.core.subject := by
  constructor
  · intro hclimbing j t s hpos hj hholds hself
    obtain ⟨t', s', habove⟩ := h.readable (j + 1) (by omega)
    have hlinked := (h.link j t s t' s' hholds habove).1
    exact hclimbing j t s t' s' hpos hholds habove (hself.symm.trans hlinked)
  · intro hbetween j t s t' s' hpos hholds habove hsame
    have hj := lt_length_of_holds habove
    have hlinked := (h.link j t s t' s' hholds habove).1
    exact hbetween j t s hpos (by omega) hholds (hlinked.trans hsame.symm)

/-- An accepted chain starts with a configuration and ends with a statement of the anchor.  It has
the documented shape exactly when no two neighbours above the first are about the same entity and
the last one is about the anchor. -/
theorem shaped_iff_subjects {a : String}
    (accepted : (verify (m := Id) accepts (some a) now statements).isValid = true) :
    (∀ t s, Holds statements 0 t s → s.core.issuer = s.core.subject) ∧
      (∀ t s, Holds statements (statements.length - 1) t s → s.core.issuer = a) ∧
      (Shaped a statements ↔
        Climbing statements ∧
          ∀ t s, Holds statements (statements.length - 1) t s → s.core.subject = a) := by
  have h := isValid_iff_documented.mp accepted
  have hfirst : ∀ t s, Holds statements 0 t s → s.core.issuer = s.core.subject :=
    fun t s hs => (h.first t s hs).1
  have hlast : ∀ t s, Holds statements (statements.length - 1) t s → s.core.issuer = a :=
    fun t s hs => (h.last t s hs).2 a rfl
  refine ⟨hfirst, hlast, ?_⟩
  rw [climbing_iff h]
  constructor
  · intro hshaped
    exact ⟨hshaped.between, fun t s hs => (hshaped.last t s hs).2⟩
  · rintro ⟨hbetween, hsubject⟩
    exact ⟨hfirst, hbetween, fun t s hs => ⟨hlast t s hs, hsubject t s hs⟩⟩

section Repetition

/-- A configuration that passes as the first statement is linked to itself. -/
theorem linkRule_self {e : Entry} (h : SubjectRule accepts e) : LinkRule accepts e e :=
  h

/-- An accepted chain is accepted with its first statement repeated. -/
theorem isValid_repeat
    (accepted : (verify (m := Id) accepts anchor now (raw :: rest)).isValid = true) :
    (verify (m := Id) accepts anchor now (raw :: raw :: rest)).isValid = true := by
  obtain ⟨hlength, es, hreads, hpasses⟩ := verify_isValid_iff.mp accepted
  cases hreads with
  | @cons _ e _ es hread hrest =>
      have hsubject := hpasses.subject e rfl
      refine verify_isValid_iff.mpr
        ⟨Nat.le_succ_of_le hlength, e :: e :: es, .cons hread (.cons hread hrest), ?_, ?_, ?_, ?_⟩
      · intro d hd
        rcases List.mem_cons.mp hd with rfl | hd
        · exact hpasses.windows _ List.mem_cons_self
        · exact hpasses.windows d hd
      · intro d hd
        cases hd
        exact hsubject
      · exact .cons_cons (linkRule_self hsubject) hpasses.links
      · intro d hd
        rw [List.getLast?_cons_cons] at hd
        exact hpasses.anchored d hd

theorem not_shaped_repeat {a : String} (hne : rest ≠ [])
    (accepted : (verify (m := Id) accepts (some a) now (raw :: rest)).isValid = true) :
    ¬ Shaped a (raw :: raw :: rest) := by
  intro hshaped
  have hpos := List.length_pos_iff.mpr hne
  have h := isValid_iff_documented.mp (isValid_repeat accepted)
  obtain ⟨t, s, hholds⟩ := h.readable 0 (by simp)
  have hrepeated : Holds (raw :: raw :: rest) 1 t s := ⟨hholds.decoded, hholds.complete, hholds.stated⟩
  refine hshaped.between 1 t s Nat.one_pos ?_ hrepeated (h.first t s hholds).1
  simp only [List.length_cons]
  omega

end Repetition

section Crown

variable {e f : Entry}

/-- An entity is accepted as the subject of any anchor that a statement about the entity names as
its issuer, when the statement lists the key of the entity and is signed with it. -/
theorem isValid_of_crowned (he : Reads raw e) (hf : Reads top f) (hself : SubjectRule accepts e)
    (hlink : LinkRule accepts e f) (hown : verifies accepts f.token f.statement.core.keys = true)
    (hnow : ∀ d ∈ [e, f], d.statement.core.issuedAt ≤ now ∧ now < d.statement.core.expiresAt) :
    (verify (m := Id) accepts (some f.statement.core.issuer) now [raw, raw, top]).isValid =
      true := by
  refine verify_isValid_iff.mpr
    ⟨Nat.le_refl 3, [e, e, f], .cons he (.cons he (.cons hf .nil)), ?_, ?_, ?_, ?_⟩
  · intro d hd
    exact hnow d (by simpa using hd)
  · intro d hd
    cases hd
    exact hself
  · exact .cons_cons (linkRule_self hself) (.cons_cons hlink (.singleton f))
  · intro d hd
    cases hd
    refine ⟨?_, hown⟩
    intro a ha
    exact Option.some.inj ha

end Crown

namespace Sample

open Discovery.Sample

theorem subjects {j : Nat} {t : Token} {s : Statement} (h : Holds texts j t s) :
    j = 0 ∧ s.core.subject = "s:" ∨ j = 1 ∧ s.core.subject = "s:" ∨
      j = 2 ∧ s.core.subject = "t:" := by
  rw [holds_iff_getElem? texts_read] at h
  match j, h with
  | 0, h =>
      cases h
      exact .inl ⟨rfl, rfl⟩
  | 1, h =>
      cases h
      exact .inr (.inl ⟨rfl, rfl⟩)
  | 2, h =>
      cases h
      exact .inr (.inr ⟨rfl, rfl⟩)

/-- The entity `s:` twice, and what it says in the name of `t:` about itself. -/
def crowned : List String :=
  [leaf.token.raw, leaf.token.raw, vouching.token.raw]

theorem crowned_accepted : (verify (m := Id) signs (some "t:") 5 crowned).isValid = true := by
  have hself : SubjectRule signs leaf := ⟨rfl, rfl⟩
  have hlink : LinkRule signs leaf vouching := ⟨rfl, rfl⟩
  have hown : verifies signs vouching.token vouching.statement.core.keys = true := rfl
  have hnow : ∀ d ∈ [leaf, vouching],
      d.statement.core.issuedAt ≤ 5 ∧ 5 < d.statement.core.expiresAt := by decide
  have h := isValid_of_crowned leaf_reads vouching_reads hself hlink hown hnow
  exact h

theorem crowned_holds : Holds crowned 2 vouching.token vouching.statement :=
  (reads_iff_holds rfl).mp vouching_reads

end Sample

/-- The chain over a statement of `t:` about `s:` has the documented shape. -/
theorem shaped_iff_subjects_sample :
    (verify (m := Id) Discovery.Sample.signs (some "t:") 5 Sample.texts).isValid = true ∧
      Shaped "t:" Sample.texts := by
  refine ⟨Sample.accepted, (shaped_iff_subjects Sample.accepted).2.2.mpr ⟨?_, ?_⟩⟩
  · intro j t s t' s' hpos hholds habove
    have hlower := Sample.subjects hholds
    have hupper := Sample.subjects habove
    rcases hlower with ⟨rfl, -⟩ | ⟨rfl, hlower⟩ | ⟨rfl, hlower⟩
    · exact absurd hpos (Nat.lt_irrefl 0)
    · rcases hupper with ⟨h, -⟩ | ⟨h, -⟩ | ⟨-, hupper⟩
      · cases h
      · cases h
      · rw [hlower, hupper]
        decide
    · omega
  · intro t s hholds
    rcases Sample.subjects hholds with ⟨h, -⟩ | ⟨h, -⟩ | ⟨-, hsubject⟩
    · cases h
    · cases h
    · exact hsubject

/-- `s:` is accepted as a subject of the anchor `t:` by statements that `s:` made alone. -/
theorem crowned_by_itself :
    (verify (m := Id) Discovery.Sample.signs (some "t:") 5 Sample.crowned).isValid = true ∧
      Holds Sample.crowned 2 Sample.vouching.token Sample.vouching.statement ∧
      Sample.vouching.statement.core.subject ≠ "t:" ∧ ¬ Shaped "t:" Sample.crowned := by
  have hsubject : Sample.vouching.statement.core.subject ≠ "t:" := by decide
  refine ⟨Sample.crowned_accepted, Sample.crowned_holds, hsubject, fun hshaped => ?_⟩
  exact hsubject (hshaped.last _ _ Sample.crowned_holds).2

end TrustChain
end EntityTrust
