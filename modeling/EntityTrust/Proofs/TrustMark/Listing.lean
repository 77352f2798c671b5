import EntityTrust.Proofs.TrustMark.Policy

/-!
# Marks that an entity lists

An entity lists trust marks under identifiers, and each of them has to carry the identifier and to
name the entity as its subject.  Both are compared with the bare claims of the mark, before it is
read, and the identifier may stand there under either of two names.

**Fitting marks.**  `Fits` says that a listed mark is a trust mark with the listed identifier and the
holder as its subject.  Here the claims are those that the mark is read with, on which the anchor
decides, so that the comparison of bare claims is no way around the decision.

**Turns.**  The marks of a list are judged in turn, and `pastAt` is the past at the turn of each: what
one mark asks for, the next one finds answered.

**Results.**
* `checkListing_eq_ok_iff`: of a text that is a trust mark the comparison says whether it fits.
* `validateEntry_isValid_iff`, `validateEntry_past_of_not_fits`: a listed mark is valid when it fits and is
  accepted, and nothing is requested for one that does not fit.
* `listed_marks_bound`: so it is for every mark of a list.
-/

namespace EntityTrust
namespace TrustMark

open Discovery Outcome

/-- A listed mark is a trust mark of the listed identifier, issued to the holder. -/
structure Fits (entry : TrustMarkEntry) (holder : String) (t : Token) (c : TrustMarkClaims) :
    Prop where
  reads : ReadsAs entry.mark t c
  named : c.id = entry.id
  held : c.subject = some holder

theorem checkListing_eq_ok {entry : TrustMarkEntry} {holder : String} :
    checkListing entry holder = .ok () ↔
      ∃ t, Token.decode entry.mark = .ok t ∧ embeddedId t = some entry.id ∧
        t.claimText "sub" = some holder := by
  unfold checkListing
  cases Token.decode entry.mark with
  | error e => simp
  | ok t =>
      change (if embeddedId t = some entry.id then _ else _) = _ ↔ _
      by_cases hid : embeddedId t = some entry.id
      · by_cases hsub : t.claimText "sub" = some holder <;> simp [hid, hsub]
      · simp [hid]

/-- Of a text that is a trust mark the comparison of bare claims says whether it fits. -/
theorem checkListing_eq_ok_iff {entry : TrustMarkEntry} {holder : String} {t : Token}
    {c : TrustMarkClaims} (hreads : ReadsAs entry.mark t c) :
    checkListing entry holder = .ok () ↔ Fits entry holder t c := by
  rw [checkListing_eq_ok]
  constructor
  · rintro ⟨t', hdecoded, hid, hsub⟩
    obtain rfl : t' = t := Except.ok.inj (hdecoded.symm.trans hreads.decoded)
    rw [embeddedId_of_read hreads.read, Option.some.injEq] at hid
    rw [subject_of_read hreads.read] at hsub
    exact ⟨hreads, hid, hsub⟩
  · rintro ⟨-, hid, hsub⟩
    refine ⟨t, hreads.decoded, ?_, ?_⟩
    · rw [embeddedId_of_read hreads.read, hid]
    · rw [subject_of_read hreads.read, hsub]

section Entries

variable {w : World} {past : Past} {anchor : EntityConfiguration} {now : Int} {holder : String}
  {entry : TrustMarkEntry}

/-- Nothing is requested for a text that is no trust mark. -/
theorem validate_past_of_not_reads {raw : String} (h : ¬ ∃ t c, ReadsAs raw t c) :
    ((validate w.federation anchor now raw).run past).2 = past := by
  rw [run_validate, Prod.map_snd, id_eq, checkMark, runFrom_bind, runFrom_step]
  cases hdecoded : Token.decode raw with
  | error e => rfl
  | ok t =>
      simp only [Except.mapError, runFrom_bind, runFrom_step]
      cases hmark : readMark t now with
      | error r => rfl
      | ok c => exact absurd ⟨t, c, hdecoded, (readMark_eq_ok.mp hmark).1⟩ h

/-- A listed mark is valid when it fits and is accepted. -/
theorem validateEntry_isValid_iff :
    ((validateEntry w.federation holder anchor now entry).run past).1.isValid = true ↔
      (∃ t c, Fits entry holder t c) ∧
        (verdictIn w past anchor now entry.mark).isValid = true := by
  rw [validateEntry]
  cases hlisting : checkListing entry holder with
  | error r =>
      refine iff_of_false Bool.false_ne_true ?_
      rintro ⟨⟨t, c, hfits⟩, -⟩
      rw [(checkListing_eq_ok_iff hfits.reads).mpr hfits] at hlisting
      cases hlisting
  | ok u =>
      dsimp only
      rw [← verdictIn]
      refine ⟨fun h => ⟨?_, h⟩, And.right⟩
      obtain ⟨t, c, hreads, -⟩ := verdictIn_isValid_iff.mp h
      exact ⟨t, c, (checkListing_eq_ok_iff hreads).mp hlisting⟩

/-- Nothing is requested for a listed mark that does not fit. -/
theorem validateEntry_past_of_not_fits (h : ¬ ∃ t c, Fits entry holder t c) :
    ((validateEntry w.federation holder anchor now entry).run past).2 = past := by
  rw [validateEntry]
  cases hlisting : checkListing entry holder with
  | error r => rfl
  | ok u =>
      dsimp only
      refine validate_past_of_not_reads ?_
      rintro ⟨t, c, hreads⟩
      exact h ⟨t, c, (checkListing_eq_ok_iff hreads).mp hlisting⟩

end Entries

section Lists

variable (w : World) (holder : String) (anchor : EntityConfiguration) (now : Int)

/-- The past when all marks before a position have been judged. -/
def pastAt (entries : List TrustMarkEntry) (past : Past) (i : Nat) : Past :=
  ((validateEntries w.federation holder anchor now (entries.take i)).run past).2

variable (entry : TrustMarkEntry) (rest entries : List TrustMarkEntry) (past : Past)

/-- The first mark is judged before the others. -/
theorem run_validateEntries_cons :
    (validateEntries w.federation holder anchor now (entry :: rest)).run past =
      let judged := (validateEntry w.federation holder anchor now entry).run past
      let more := (validateEntries w.federation holder anchor now rest).run judged.2
      ((entry.id, judged.1) :: more.1, more.2) := by
  rw [validateEntries]
  generalize validateEntry w.federation holder anchor now entry = x
  generalize validateEntries w.federation holder anchor now rest = y
  rfl

theorem pastAt_zero : pastAt w holder anchor now entries past 0 = past := by
  rw [pastAt, List.take_zero, validateEntries]
  rfl

theorem pastAt_cons_succ (i : Nat) :
    pastAt w holder anchor now (entry :: rest) past (i + 1) =
      pastAt w holder anchor now rest
        ((validateEntry w.federation holder anchor now entry).run past).2 i := by
  rw [pastAt, List.take_succ_cons, run_validateEntries_cons, pastAt]

/-- There is one verdict for each mark, in order, under the listed identifier. -/
theorem map_fst_validateEntries :
    ((validateEntries w.federation holder anchor now entries).run past).1.map Prod.fst =
      entries.map TrustMarkEntry.id := by
  induction entries generalizing past with
  | nil => rfl
  | cons entry rest ih =>
      rw [run_validateEntries_cons, List.map_cons, List.map_cons, ih]

/-- The mark at a position is judged when its turn comes. -/
theorem judged_at {i : Nat} (hentry : entries[i]? = some entry) :
    ((validateEntries w.federation holder anchor now entries).run past).1[i]? =
        some (entry.id, ((validateEntry w.federation holder anchor now entry).run
          (pastAt w holder anchor now entries past i)).1) ∧
      pastAt w holder anchor now entries past (i + 1) =
        ((validateEntry w.federation holder anchor now entry).run
          (pastAt w holder anchor now entries past i)).2 := by
  induction entries generalizing past i with
  | nil => cases hentry
  | cons first rest ih =>
      cases i with
      | zero =>
          obtain rfl : first = entry := Option.some.inj hentry
          rw [run_validateEntries_cons, pastAt_cons_succ, pastAt_zero, pastAt_zero]
          exact ⟨List.getElem?_cons_zero, rfl⟩
      | succ i =>
          rw [List.getElem?_cons_succ] at hentry
          rw [run_validateEntries_cons, pastAt_cons_succ, pastAt_cons_succ,
            List.getElem?_cons_succ]
          exact ih _ hentry

end Lists

section Bound

variable (w : World) (past : Past) (entity anchor : EntityConfiguration) (now : Int)

/-- The marks that an entity lists get one verdict each, in order and under their listed
identifiers.  A listed mark is valid when it fits the list and its holder and is accepted when its
turn comes; nothing is requested for one that does not fit.  The comparison of bare claims takes
no mark that is read with another identifier or another subject. -/
theorem listed_marks_bound :
    ((validateAll w.federation entity anchor now).run past).1.map Prod.fst =
        entity.trustMarks.map TrustMarkEntry.id ∧
      ((validateAll w.federation entity anchor now).run past).2 =
        pastAt w entity.subject anchor now entity.trustMarks past entity.trustMarks.length ∧
      (∀ i entry, entity.trustMarks[i]? = some entry →
        (∃ verdict,
          ((validateAll w.federation entity anchor now).run past).1[i]? =
              some (entry.id, verdict) ∧
            (verdict.isValid = true ↔
              (∃ t c, Fits entry entity.subject t c) ∧
                (verdictIn w (pastAt w entity.subject anchor now entity.trustMarks past i) anchor
                  now entry.mark).isValid = true)) ∧
          ((¬ ∃ t c, Fits entry entity.subject t c) →
            pastAt w entity.subject anchor now entity.trustMarks past (i + 1) =
              pastAt w entity.subject anchor now entity.trustMarks past i)) ∧
      ∀ (entry : TrustMarkEntry) (holder : String) (t : Token) (c : TrustMarkClaims),
        ReadsAs entry.mark t c → checkListing entry holder = .ok () →
          c.id = entry.id ∧ c.subject = some holder := by
  refine ⟨map_fst_validateEntries .., ?_, fun i entry hentry => ?_,
    fun entry holder t c hreads hlisting => ?_⟩
  · rw [pastAt, List.take_length, validateAll]
  · obtain ⟨hverdict, hpast⟩ := judged_at w entity.subject anchor now entry _ past hentry
    refine ⟨⟨_, hverdict, validateEntry_isValid_iff⟩, fun hfits => ?_⟩
    rw [hpast, validateEntry_past_of_not_fits hfits]
  · have hfits : Fits entry holder t c := (checkListing_eq_ok_iff hreads).mp hlisting
    exact ⟨hfits.named, hfits.held⟩

end Bound

namespace Sample

open Discovery.Sample

def plainText : String :=
  token "eyJpZCI6InAiLCJpc3MiOiJzOiIsInN1YiI6InM6In0"

/-- A mark called `p`, issued by `s:` to itself. -/
def plain : Token :=
  ⟨plainText, header, [("id", .string "p"), ("iss", .string "s:"), ("sub", .string "s:")]⟩

def plainClaims : TrustMarkClaims :=
  ⟨"s:", "p", some "s:", none, none, none⟩

def doubleText : String :=
  token "eyJpZCI6InEiLCJpc3MiOiJzOiIsInN1YiI6InM6IiwidHJ1c3RfbWFya19pZCI6InAifQ"

/-- The same claims, with the identifier `q` under one name and `p` under the other. -/
def double : Token :=
  ⟨doubleText, header, [("id", .string "q"), ("iss", .string "s:"), ("sub", .string "s:"),
    ("trust_mark_id", .string "p")]⟩

/-- The anchor `t:`, which lets `s:` issue marks called `p`. -/
def listingAnchor : EntityConfiguration :=
  { configuration "t:" [] .empty with trustMarkIssuers := [("p", ["s:"])] }

/-- The entity `s:`, which lists the mark `p` also as `q`. -/
def lister : EntityConfiguration :=
  { configuration "s:" [] .empty with
    trustMarks := [⟨"q", doubleText⟩, ⟨"p", plainText⟩, ⟨"q", plainText⟩] }

theorem plain_reads : ReadsAs plainText plain plainClaims :=
  ⟨decode_token (by decide +kernel) (by decide +kernel), rfl⟩

theorem double_decoded : Token.decode doubleText = .ok double :=
  decode_token (by decide +kernel) (by decide +kernel)

theorem plain_fits : Fits ⟨"p", plainText⟩ "s:" plain plainClaims :=
  ⟨plain_reads, rfl, rfl⟩

theorem plain_not_fits : ¬ ∃ t c, Fits ⟨"q", plainText⟩ "s:" t c := by
  rintro ⟨t, c, hreads, hnamed, -⟩
  obtain ⟨-, rfl⟩ := hreads.unique plain_reads
  exact absurd hnamed (by decide)

/-- The comparison of bare claims takes the mark with two names, but it is not read as a mark. -/
theorem double_not_fits : checkListing ⟨"q", doubleText⟩ "s:" = .ok () ∧
    ¬ ∃ t c, Fits ⟨"q", doubleText⟩ "s:" t c := by
  refine ⟨checkListing_eq_ok.mpr ⟨double, double_decoded, rfl, rfl⟩, ?_⟩
  rintro ⟨t, c, ⟨hdecoded, hread⟩, -, -⟩
  obtain rfl : t = double := Except.ok.inj (hdecoded.symm.trans double_decoded)
  cases hread

theorem plain_accepted : (verdictIn world [] listingAnchor 5 plainText).isValid = true :=
  verdictIn_isValid_iff.mpr ⟨plain, plainClaims, plain_reads,
    ⟨by simp [plainClaims], "s:/.well-known/openid-federation", token leafPayload, leaf, rfl, rfl,
      leaf_verified, rfl, rfl⟩,
    .listed rfl rfl (by simp [plainClaims])⟩

end Sample

/-- Of three listed marks only the one that carries its listed identifier is valid.  Nothing is
requested for the first, whose bare claims name that identifier beside another. -/
theorem listed_marks_bound_sample :
    pastAt Discovery.Sample.world "s:" Sample.listingAnchor 5 Sample.lister.trustMarks [] 1 = [] ∧
      (∃ verdict,
        ((validateAll Discovery.Sample.world.federation Sample.lister Sample.listingAnchor 5).run
          []).1[1]? = some ("p", verdict) ∧ verdict.isValid = true) ∧
      (∃ verdict,
        ((validateAll Discovery.Sample.world.federation Sample.lister Sample.listingAnchor 5).run
          []).1[2]? = some ("q", verdict) ∧ verdict.isValid ≠ true) ∧
      Sample.plainClaims.id = "p" := by
  obtain ⟨-, -, hmarks, hnames⟩ :=
    listed_marks_bound Discovery.Sample.world [] Sample.lister Sample.listingAnchor 5
  have hpast : pastAt Discovery.Sample.world "s:" Sample.listingAnchor 5
      Sample.lister.trustMarks [] 1 = [] :=
    ((hmarks 0 _ rfl).2 Sample.double_not_fits.2).trans (pastAt_zero ..)
  refine ⟨hpast, ?_, ?_, ?_⟩
  · obtain ⟨⟨verdict, hverdict, hvalid⟩, -⟩ := hmarks 1 _ rfl
    refine ⟨verdict, hverdict, hvalid.mpr ⟨⟨_, _, Sample.plain_fits⟩, ?_⟩⟩
    rw [show Sample.lister.subject = "s:" from rfl, hpast]
    exact Sample.plain_accepted
  · obtain ⟨⟨verdict, hverdict, hvalid⟩, -⟩ := hmarks 2 _ rfl
    exact ⟨verdict, hverdict, fun h => Sample.plain_not_fits (hvalid.mp h).1⟩
  · exact (hnames ⟨"p", Sample.plainText⟩ "s:" Sample.plain _ Sample.plain_reads
      ((checkListing_eq_ok_iff Sample.plain_reads).mpr Sample.plain_fits)).1

end TrustMark
end EntityTrust
