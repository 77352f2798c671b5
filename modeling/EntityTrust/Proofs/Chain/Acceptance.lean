import EntityTrust.Proofs.Chain.Rules
import EntityTrust.Proofs.Statement.Claims

/-!
# What a valid verdict means

The documented rules for chains, stated for each position by itself and without the order in which
the verifier examines them.

**Shapes.**  `Token.States` reads the claims of a token as a configuration when its issuer is its
subject, and as a subordinate statement otherwise.

**Positions.**  `TrustChain.Holds` says which token stands at a position and what it says.
`TrustChain.Documented` lists the rules.  Two of its fields speak about the first and the last
position only, one about neighbours; the verifier finds all of them in one pass that looks one
statement ahead.

**Results.**
* `Token.states_iff`: the shape that a token is read as is the one that its claims ask for.
* `TrustChain.verify_valid_iff_documented`: a verdict is valid exactly when the documented rules
  hold, and exactly when it carries no error.
-/

namespace EntityTrust

/-- What the claims of a token say, in the shape that issuer and subject ask for. -/
inductive Token.States (t : Token) : Statement → Prop
  | configuration {c : EntityConfiguration} (self : t.claim "iss" = t.claim "sub")
      (read : t.read EntityConfiguration.ofJson = .ok c) : States t (.configuration c)
  | subordinate {s : SubordinateStatement} (other : t.claim "iss" ≠ t.claim "sub")
      (read : t.read SubordinateStatement.ofJson = .ok s) : States t (.subordinate s)

theorem Token.Carries.self_iff {t : Token} {c : StatementCore} (h : t.Carries c) :
    t.claim "iss" = t.claim "sub" ↔ c.issuer = c.subject := by
  rw [h.issuer, h.subject, Option.some.injEq, Json.string.injEq]

theorem Token.states_iff {t : Token} {s : Statement} :
    t.States s ↔ Statement.ofToken t = .ok s := by
  constructor
  · rintro (⟨hself, hread⟩ | ⟨hother, hread⟩)
    · have hcarries := EntityConfiguration.carries_of_read hread
      have hissuer := hcarries.self_iff.mp hself
      rw [hcarries.ofToken_eq, if_pos hissuer,
        EntityConfiguration.ofToken_eq_ok.mpr ⟨hread, hissuer⟩]
      rfl
    · have hcarries := SubordinateStatement.carries_of_ofToken hread
      rw [hcarries.ofToken_eq, if_neg (mt hcarries.self_iff.mpr hother),
        SubordinateStatement.ofToken, hread]
      rfl
  · intro h
    have hcarries := Statement.carries_of_ofToken h
    rw [hcarries.ofToken_eq] at h
    split at h
    · rename_i hself
      obtain ⟨c, hc, rfl⟩ := Outcome.map_eq_ok.mp h
      exact .configuration (hcarries.self_iff.mpr hself)
        (EntityConfiguration.ofToken_eq_ok.mp hc).1
    · rename_i hother
      obtain ⟨c, hc, rfl⟩ := Outcome.map_eq_ok.mp h
      exact .subordinate (mt hcarries.self_iff.mp hother) hc

theorem Token.hasClaim_iff {t : Token} {name : String} :
    t.hasClaim name = true ↔ ∃ v, t.claim name = some v ∧ v ≠ .null := by
  unfold Token.hasClaim
  cases t.claim name with
  | none => simp
  | some v => cases v <;> simp

theorem Token.missing_eq_nil {t : Token} {names : List String} :
    t.missing names = [] ↔ ∀ name ∈ names, ∃ v, t.claim name = some v ∧ v ≠ .null := by
  simp only [Token.missing, List.filter_eq_nil_iff, Bool.not_eq_true', Bool.not_eq_false,
    Token.hasClaim_iff]

namespace TrustChain

/-- At a position stands a token that lacks no required claim and says `s`. -/
structure Holds (statements : List String) (position : Nat) (t : Token) (s : Statement) : Prop where
  decoded : ∃ raw, statements[position]? = some raw ∧ Token.decode raw = .ok t
  complete : ∀ name ∈ ["sub", "iss", "exp", "iat", "jwks"], ∃ v, t.claim name = some v ∧ v ≠ .null
  stated : t.States s

/-- A key of the set has the name that the token's header gives, and is accepted for the token. -/
def Signed (accepts : String → Jwk → Bool) (t : Token) (keys : KeySet) : Prop :=
  ∃ id k, t.keyId = some id ∧ keys.find? id = some k ∧ accepts t.raw k = true

/-- The documented rules for a chain at an instant. -/
structure Documented (accepts : String → Jwk → Bool) (anchor : Option String) (now : Int)
    (statements : List String) : Prop where
  length : 3 ≤ statements.length
  readable : ∀ j < statements.length, ∃ t s, Holds statements j t s
  window : ∀ j t s, Holds statements j t s → s.core.issuedAt ≤ now ∧ now < s.core.expiresAt
  first : ∀ t s, Holds statements 0 t s →
    s.core.issuer = s.core.subject ∧ Signed accepts t s.core.keys
  link : ∀ j t s t' s', Holds statements j t s → Holds statements (j + 1) t' s' →
    s.core.issuer = s'.core.subject ∧ Signed accepts t s'.core.keys
  last : ∀ t s, Holds statements (statements.length - 1) t s →
    Signed accepts t s.core.keys ∧ ∀ a, anchor = some a → s.core.issuer = a

variable {accepts : String → Jwk → Bool} {anchor : Option String} {now : Int}
  {statements : List String}

theorem reads_iff_holds {j : Nat} {raw : String} {t : Token} {s : Statement}
    (hraw : statements[j]? = some raw) : Reads raw ⟨t, s⟩ ↔ Holds statements j t s := by
  constructor
  · intro h
    exact ⟨⟨raw, hraw, h.decoded⟩, Token.missing_eq_nil.mp h.complete,
      Token.states_iff.mpr h.shaped⟩
  · intro h
    obtain ⟨raw', hraw', hdecoded⟩ := h.decoded
    obtain rfl : raw = raw' := Option.some.inj (hraw.symm.trans hraw')
    exact ⟨hdecoded, Token.missing_eq_nil.mpr h.complete, Token.states_iff.mp h.stated⟩

/-- A rule for the statement at one position, by what that position holds. -/
theorem forall_reads_iff_holds {j : Nat} {P : Entry → Prop} :
    (∀ raw e, statements[j]? = some raw → Reads raw e → P e) ↔
      ∀ t s, Holds statements j t s → P ⟨t, s⟩ := by
  constructor
  · intro h t s hholds
    obtain ⟨raw, hraw, -⟩ := hholds.decoded
    exact h raw ⟨t, s⟩ hraw ((reads_iff_holds hraw).mpr hholds)
  · intro h raw e hraw hread
    exact h e.token e.statement ((reads_iff_holds hraw).mp hread)

theorem links_iff_holds :
    (statements.IsChain fun raw above =>
        ∀ e next, Reads raw e → Reads above next → LinkRule accepts e next) ↔
      ∀ j t s t' s', Holds statements j t s → Holds statements (j + 1) t' s' →
        LinkRule accepts ⟨t, s⟩ ⟨t', s'⟩ := by
  rw [List.isChain_iff_getElem]
  constructor
  · intro h j t s t' s' hlower hupper
    obtain ⟨raw, hraw, -⟩ := hlower.decoded
    obtain ⟨above, habove, -⟩ := hupper.decoded
    obtain ⟨hj, rfl⟩ := List.getElem?_eq_some_iff.mp habove
    have hraw' : statements[j] = raw := (List.getElem?_eq_some_iff.mp hraw).2
    exact h j hj ⟨t, s⟩ ⟨t', s'⟩ (hraw' ▸ (reads_iff_holds hraw).mpr hlower)
      ((reads_iff_holds habove).mpr hupper)
  · intro h j hj e next hread hnext
    exact h j e.token e.statement next.token next.statement
      ((reads_iff_holds (List.getElem?_eq_getElem (Nat.lt_of_succ_lt hj))).mp hread)
      ((reads_iff_holds (List.getElem?_eq_getElem hj)).mp hnext)

theorem windows_iff_holds :
    (∀ raw ∈ statements, ∃ e, Reads raw e ∧
        e.statement.core.issuedAt ≤ now ∧ now < e.statement.core.expiresAt) ↔
      (∀ j < statements.length, ∃ t s, Holds statements j t s) ∧
        ∀ j t s, Holds statements j t s → s.core.issuedAt ≤ now ∧ now < s.core.expiresAt := by
  constructor
  · intro h
    refine ⟨fun j hj => ?_, fun j t s hholds => ?_⟩
    · obtain ⟨e, hread, -⟩ := h _ (List.getElem_mem hj)
      exact ⟨e.token, e.statement, (reads_iff_holds (List.getElem?_eq_getElem hj)).mp hread⟩
    · obtain ⟨raw, hraw, -⟩ := hholds.decoded
      obtain ⟨e, hread, hwindow⟩ := h raw (List.mem_of_getElem? hraw)
      obtain rfl := hread.unique ((reads_iff_holds hraw).mpr hholds)
      exact hwindow
  · rintro ⟨hreadable, hwindow⟩ raw hraw
    obtain ⟨j, hj, rfl⟩ := List.getElem_of_mem hraw
    obtain ⟨t, s, hholds⟩ := hreadable j hj
    exact ⟨⟨t, s⟩, (reads_iff_holds (List.getElem?_eq_getElem hj)).mpr hholds,
      hwindow j t s hholds⟩

/-- The rules of the verifier are the documented ones. -/
theorem isValid_iff_documented :
    (verify (m := Id) accepts anchor now statements).isValid = true ↔
      Documented accepts anchor now statements := by
  rw [verify_isValid_iff_forall, windows_iff_holds, links_iff_holds, List.head?_eq_getElem?,
    List.getLast?_eq_getElem?, forall_reads_iff_holds, forall_reads_iff_holds]
  constructor
  · rintro ⟨hlength, ⟨hreadable, hwindow⟩, hfirst, hlink, hlast⟩
    refine ⟨hlength, hreadable, hwindow, fun t s h => ?_, fun j t s t' s' h h' => ?_,
      fun t s h => ?_⟩
    · exact ⟨(hfirst t s h).1, verifies_eq_true.mp (hfirst t s h).2⟩
    · exact ⟨(hlink j t s t' s' h h').1, verifies_eq_true.mp (hlink j t s t' s' h h').2⟩
    · exact ⟨verifies_eq_true.mp (hlast t s h).2, (hlast t s h).1⟩
  · intro h
    refine ⟨h.length, ⟨h.readable, h.window⟩, fun t s hs => ?_, fun j t s t' s' hs hs' => ?_,
      fun t s hs => ?_⟩
    · exact ⟨(h.first t s hs).1, verifies_eq_true.mpr (h.first t s hs).2⟩
    · exact ⟨(h.link j t s t' s' hs hs').1, verifies_eq_true.mpr (h.link j t s t' s' hs hs').2⟩
    · exact ⟨(h.last t s hs).2, verifies_eq_true.mpr (h.last t s hs).1⟩

theorem isValid_iff_error_eq_none :
    (verify (m := Id) accepts anchor now statements).isValid = true ↔
      (verify (m := Id) accepts anchor now statements).error = none := by
  generalize hrun : Outcome.of (checkAll (m := Id) accepts anchor now statements) = outcome
  unfold Outcome.of at hrun
  unfold verify
  rw [hrun]
  cases outcome with
  | error r => exact iff_of_false Bool.false_ne_true (Option.some_ne_none r.message)
  | ok u => exact iff_of_true rfl rfl

/-- A verdict is valid exactly when the documented rules hold, and never carries an error then; any
other verdict carries one. -/
theorem verify_valid_iff_documented :
    ((verify (m := Id) accepts anchor now statements).isValid = true ↔
        Documented accepts anchor now statements) ∧
      ((verify (m := Id) accepts anchor now statements).isValid = true ↔
        (verify (m := Id) accepts anchor now statements).error = none) :=
  ⟨isValid_iff_documented, isValid_iff_error_eq_none⟩

end TrustChain
end EntityTrust
