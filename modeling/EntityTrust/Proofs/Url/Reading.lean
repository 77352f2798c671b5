import EntityTrust.Proofs.Outcome
import EntityTrust.Url.Parser
import Mathlib.Data.List.TakeWhile

/-!
# How a text reads as a URL

**Cuts.**  Of the characters that count, the scheme stands before the first colon, the fragment
behind the first `#`, and the query behind the first `?` before it.  What remains is the body: it is
read as an authority with a path, a path, or an opaque path.

**Results.**
* `splitAt_eq_iff`: a cut is the inverse of writing the mark between two parts.
* `parse_eq_ok`: a text reads as a URL exactly when it is cut into parts that do.
-/

namespace EntityTrust
namespace Url

section Cuts

variable {mark : Char} {cs l : List Char} {r : Option (List Char)}

theorem splitAt_append (hl : ∀ c ∈ l, c ≠ mark) :
    splitAt mark (l ++ renderPart mark r) = (l, r) := by
  have hfree : ∀ c ∈ l, (c != mark) = true := fun c hc => by simpa using hl c hc
  unfold splitAt
  rw [List.dropWhile_append_of_pos hfree, List.takeWhile_append_of_pos hfree]
  cases r <;> simp [renderPart]

/-- A cut is the inverse of writing the mark between the parts. -/
theorem splitAt_eq_iff :
    splitAt mark cs = (l, r) ↔ cs = l ++ renderPart mark r ∧ ∀ c ∈ l, c ≠ mark := by
  constructor
  · intro h
    unfold splitAt at h
    split at h
    · rename_i hdrop
      cases h
      refine ⟨by simp [renderPart], fun c hc => ?_⟩
      simpa using List.dropWhile_eq_nil_iff.mp hdrop c hc
    · rename_i c rest hdrop
      cases h
      have hmark : c = mark := by
        have := List.head?_dropWhile_not (· != mark) cs
        rw [hdrop] at this
        simpa using this
      subst hmark
      refine ⟨?_, fun d hd => ?_⟩
      · rw [renderPart, ← hdrop, List.takeWhile_append_dropWhile]
      · simpa using List.mem_takeWhile_imp hd
  · rintro ⟨rfl, hl⟩
    exact splitAt_append hl

end Cuts

section Schemes

/-- A scheme as it may be written: a letter, then letters, digits and `+-.`. -/
structure SchemeName (name : List Char) : Prop where
  starts : ∃ c rest, name = c :: rest ∧ c.isAlpha = true
  chars : ∀ c ∈ name, isSchemeChar c = true

variable {cs scheme r : List Char}

/-- A text has a scheme exactly when it starts with a scheme's name and a colon. -/
theorem splitScheme_eq_some :
    splitScheme cs = some (scheme, r) ↔
      ∃ name, SchemeName name ∧ cs = name ++ ':' :: r ∧ scheme = name.map Char.toLower := by
  constructor
  · intro h
    unfold splitScheme at h
    split at h
    · cases h
    · rename_i c rest
      split at h
      · rename_i halpha
        split at h
        · rename_i behind hdrop
          cases h
          have hfirst : isSchemeChar c = true := by
            simp [isSchemeChar, Char.isAlphanum, halpha]
          refine ⟨(c :: rest).takeWhile isSchemeChar,
            ⟨⟨c, rest.takeWhile isSchemeChar, List.takeWhile_cons_of_pos hfirst, halpha⟩,
              fun d hd => List.mem_takeWhile_imp hd⟩, ?_, rfl⟩
          rw [← hdrop, List.takeWhile_append_dropWhile]
        · cases h
      · cases h
  · rintro ⟨name, ⟨⟨c, rest, rfl, halpha⟩, hchars⟩, rfl, rfl⟩
    have hcolon : isSchemeChar ':' = false := by decide
    rw [List.cons_append, splitScheme, if_pos halpha, ← List.cons_append,
      List.dropWhile_append_of_pos hchars, List.takeWhile_append_of_pos hchars,
      List.dropWhile_cons_of_neg (by simp [hcolon]), List.takeWhile_cons_of_neg (by simp [hcolon]),
      List.append_nil]
    rfl

end Schemes

section Authorities

/-- What stands behind the port of an authority. -/
def behindPort (k : SchemeKind) (cs : List Char) : List Char :=
  ((splitHost false (splitUser (cs.takeWhile (!k.isSlash ·))).2).2.getD []).dropWhile (· != '\\')

/-- What the parts of an authority are read from. -/
structure AuthorityReads (k : SchemeKind) (cs : List Char) (a : Authority) (path : List Char) :
    Prop where
  user : ∃ x, a.user = Percent.encode Percent.userInfo x
  password : ∃ x, a.password = Percent.encode Percent.userInfo x
  host : ∃ x, (if k.isSpecial then parseSpecialHost x else parseOtherHost x) = .ok a.host
  path : path = authorityPath k (behindPort k cs ++ cs.dropWhile (!k.isSlash ·))

variable {k : SchemeKind} {followed : Bool} {cs : List Char} {a : Authority} {path : List Char}

theorem splitUser_encoded (cs : List Char) :
    ∃ x y, ((splitUser cs).1.getD ([], [])) =
      (Percent.encode Percent.userInfo x, Percent.encode Percent.userInfo y) := by
  unfold splitUser
  dsimp only
  split
  · exact ⟨[], [], rfl⟩
  · exact ⟨_, _, rfl⟩

/-- An authority that is read has its parts. -/
theorem authorityReads (h : parseAuthority k followed cs = .ok (a, path)) :
    AuthorityReads k cs a path := by
  unfold parseAuthority at h
  obtain ⟨x, y, hinfo⟩ := splitUser_encoded (cs.takeWhile (!k.isSlash ·))
  rcases hu : splitUser (cs.takeWhile (!k.isSlash ·)) with ⟨info, hostPort⟩
  rw [hu] at hinfo
  rcases hh : splitHost false hostPort with ⟨hostText, portText⟩
  simp only [hu, hinfo, hh] at h
  split at h
  · cases h
  split at h
  · cases h
  rw [Outcome.ite_bind] at h
  obtain ⟨host, hhost, h⟩ := Outcome.bind_eq_ok.mp h
  split at h
  · cases h
  obtain ⟨port, -, h⟩ := Outcome.bind_eq_ok.mp h
  split at h
  · cases h
  obtain ⟨rfl, rfl⟩ := Prod.mk.inj (Except.ok.inj h)
  refine ⟨⟨x, rfl⟩, ⟨y, rfl⟩, ⟨hostText, hhost⟩, ?_⟩
  rw [behindPort, hu, hh]

/-- What stands behind an authority matters only to one that is an at sign alone. -/
theorem parseAuthority_followed (h : cs.takeWhile (!k.isSlash ·) ≠ ['@']) (followed' : Bool) :
    parseAuthority k followed cs = parseAuthority k followed' cs := by
  unfold parseAuthority
  simp only [beq_false_of_ne h, Bool.false_and]

/-- An authority of a special scheme has a host, whatever stands behind it. -/
theorem parseAuthority_special (port : Nat) (followed' : Bool) :
    parseAuthority (.special port) followed cs = parseAuthority (.special port) followed' cs := by
  by_cases h : cs.takeWhile (!(SchemeKind.special port).isSlash ·) = ['@']
  · have hempty (followed : Bool) : parseAuthority (.special port) followed cs =
        .error .emptyHost := by
      unfold parseAuthority
      rw [h]
      dsimp only
      split <;> rfl
    rw [hempty, hempty]
  · exact parseAuthority_followed h followed'

/-- The path behind the host of a file, before it is put into normal form. -/
def filePath : List Char → List Char
  | a :: b :: rest =>
      if SchemeKind.file.isSlash a && SchemeKind.file.isSlash b then
        if isDriveLetter (rest.takeWhile (!SchemeKind.file.isSlash ·)) then rest
        else rest.dropWhile (!SchemeKind.file.isSlash ·)
      else a :: b :: rest
  | cs => cs

/-- What the parts of a file are read from. -/
structure FileReads (cs : List Char) (a : Authority) (path : List Char) : Prop where
  user : a.user = []
  password : a.password = []
  port : a.port = none
  host : a.host = .name [] ∨ ∃ x, parseSpecialHost x = .ok a.host
  path : path = authorityPath .file (filePath cs)

/-- A file that is read has its parts. -/
theorem fileReads (h : parseFile cs = .ok (a, path)) : FileReads cs a path := by
  unfold parseFile at h
  dsimp only at h
  split at h
  · rename_i c d rest
    split at h
    · rename_i hslashes
      split at h
      · rename_i hdrive
        cases h
        exact ⟨rfl, rfl, rfl, .inl rfl, by rw [filePath, if_pos hslashes, if_pos hdrive]⟩
      · rename_i hdrive
        have hpath : filePath (c :: d :: rest) = rest.dropWhile (!SchemeKind.file.isSlash ·) := by
          rw [filePath, if_pos hslashes, if_neg hdrive]
        split at h
        · cases h
          exact ⟨rfl, rfl, rfl, .inl rfl, by rw [hpath]⟩
        · obtain ⟨host, hhost, h⟩ := Outcome.bind_eq_ok.mp h
          cases h
          refine ⟨rfl, rfl, rfl, ?_, by rw [hpath]⟩
          split
          · exact .inl rfl
          · exact .inr ⟨_, hhost⟩
    · rename_i hslashes
      cases h
      exact ⟨rfl, rfl, rfl, .inl rfl, by rw [filePath, if_neg hslashes]⟩
  · rename_i hshort
    cases h
    refine ⟨rfl, rfl, rfl, .inl rfl, ?_⟩
    rw [filePath]
    exact hshort

end Authorities

/-- The characters that are encoded in a query. -/
def querySet (k : SchemeKind) : Percent.EncodeSet :=
  if k.isSpecial then Percent.specialQuery else Percent.query

/-- The authority, if there is one, and the path of what stands between scheme and query. -/
def readBody (k : SchemeKind) (followed : Bool) (main : List Char) :
    Except UrlError (Option Authority × List Char) :=
  match k with
  | .file => (parseFile main).map fun r => (some r.1, r.2)
  | .special _ =>
      (parseAuthority k followed (main.dropWhile k.isSlash)).map fun r => (some r.1, r.2)
  | .other =>
      match main with
      | '/' :: '/' :: more => (parseAuthority k followed more).map fun r => (some r.1, r.2)
      | '/' :: more => .ok (none, normalPath k more)
      | _ => .ok (none, Percent.encode Percent.controls main)

section Bodies

variable {followed : Bool} {more main : List Char}

theorem readBody_other_authority :
    readBody .other followed ('/' :: '/' :: more) =
      (parseAuthority .other followed more).map fun r => (some r.1, r.2) := rfl

theorem readBody_other_path (h : ∀ r, more ≠ '/' :: r) :
    readBody .other followed ('/' :: more) = .ok (none, normalPath .other more) := by
  simp only [readBody]

theorem readBody_other_rootless (h : ∀ r, main ≠ '/' :: r) :
    readBody .other followed main = .ok (none, Percent.encode Percent.controls main) := by
  simp only [readBody]
  split
  · exact absurd rfl (h _)
  · exact absurd rfl (h _)
  · rfl

end Bodies

/-- The parts that a text is cut into, and the URL that they read as. -/
structure Reads (text : String) (u : Url) (main : List Char) (query fragment : Option (List Char)) :
    Prop where
  cut : splitScheme (significant text) =
    some (u.scheme, main ++ renderPart '?' query ++ renderPart '#' fragment)
  main_free : ∀ c ∈ main, c ≠ '?' ∧ c ≠ '#'
  query_free : ∀ q, query = some q → ∀ c ∈ q, c ≠ '#'
  body : readBody (schemeKind u.scheme) (query.isSome || fragment.isSome) main =
    .ok (u.authority, u.path)
  query : u.query = query.map (Percent.encode (querySet (schemeKind u.scheme)))
  fragment : u.fragment = fragment.map (Percent.encode Percent.fragment)

variable {text : String} {u : Url} {main : List Char} {query fragment : Option (List Char)}

/-- A text with given parts reads as its body does. -/
theorem parse_of_parts {scheme : List Char}
    (cut : splitScheme (significant text) =
      some (scheme, main ++ renderPart '?' query ++ renderPart '#' fragment))
    (main_free : ∀ c ∈ main, c ≠ '?' ∧ c ≠ '#')
    (query_free : ∀ q, query = some q → ∀ c ∈ q, c ≠ '#') :
    parse text = (readBody (schemeKind scheme) (query.isSome || fragment.isSome) main).map fun r =>
      ⟨scheme, r.1, r.2, query.map (Percent.encode (querySet (schemeKind scheme))),
        fragment.map (Percent.encode Percent.fragment)⟩ := by
  have hfragment : splitAt '#' (main ++ renderPart '?' query ++ renderPart '#' fragment) =
      (main ++ renderPart '?' query, fragment) := by
    refine splitAt_append fun c hc => ?_
    rcases List.mem_append.mp hc with hc | hc
    · exact (main_free c hc).2
    · cases query with
      | none => cases hc
      | some q =>
          rcases List.mem_cons.mp hc with rfl | hc
          · decide
          · exact query_free q rfl c hc
  have hquery : splitAt '?' (main ++ renderPart '?' query) = (main, query) :=
    splitAt_append fun c hc => (main_free c hc).1
  unfold parse
  simp only [cut, hfragment, hquery]
  cases schemeKind scheme with
  | file =>
      rw [readBody]
      cases parseFile main <;> rfl
  | special port =>
      rw [readBody]
      dsimp only
      cases parseAuthority (.special port) (query.isSome || fragment.isSome)
        (main.dropWhile (SchemeKind.special port).isSlash) <;> rfl
  | other =>
      dsimp only
      split
      · rename_i more
        rw [readBody_other_authority]
        cases parseAuthority .other (query.isSome || fragment.isSome) more <;> rfl
      · rename_i more hmore
        rw [readBody_other_path hmore]
        rfl
      · rename_i hmain
        rw [readBody_other_rootless hmain]
        rfl

/-- A text reads as a URL exactly when it is cut into parts that do. -/
theorem parse_eq_ok :
    parse text = .ok u ↔ ∃ main query fragment, Reads text u main query fragment := by
  constructor
  · intro h
    cases hscheme : splitScheme (significant text) with
    | none =>
        unfold parse at h
        simp only [hscheme] at h
        cases h
    | some parts =>
        obtain ⟨scheme, rest⟩ := parts
        obtain ⟨hrest, hbody⟩ := splitAt_eq_iff.mp (Prod.eta (splitAt '#' rest)).symm
        obtain ⟨hmain, hfree⟩ :=
          splitAt_eq_iff.mp (Prod.eta (splitAt '?' (splitAt '#' rest).1)).symm
        generalize (splitAt '#' rest).2 = fragment at *
        generalize (splitAt '?' (splitAt '#' rest).1).1 = main at *
        generalize (splitAt '?' (splitAt '#' rest).1).2 = query at *
        rw [hmain] at hrest hbody
        have hmark : ∀ c ∈ main, c ≠ '?' ∧ c ≠ '#' := fun c hc =>
          ⟨hfree c hc, hbody c (List.mem_append_left _ hc)⟩
        have hquery : ∀ q, query = some q → ∀ c ∈ q, c ≠ '#' := by
          rintro q rfl c hc
          exact hbody c (List.mem_append_right _ (List.mem_cons_of_mem _ hc))
        rw [hrest] at hscheme
        rw [parse_of_parts hscheme hmark hquery] at h
        obtain ⟨⟨authority, path⟩, hread, rfl⟩ := Outcome.map_eq_ok.mp h
        exact ⟨main, query, fragment, hscheme, hmark, hquery, hread, rfl, rfl⟩
  · rintro ⟨main, query, fragment, h⟩
    rw [parse_of_parts h.cut h.main_free h.query_free, h.body, ← h.query, ← h.fragment]
    rfl

end Url
end EntityTrust
