import EntityTrust.Proofs.Url.Form
import EntityTrust.Proofs.Url.Reading
import EntityTrust.Statement.Location
import Mathlib.Data.Bool.AllAny
import Mathlib.Data.List.DropRight

/-!
# Where configurations are asked for

The fixed path is written behind the identifier before anything is read as a URL.  A mark of a query
or a fragment in the identifier takes the path with it, and an identifier with nothing but slashes
behind its scheme leaves the first segment of the path to be read as a host.

**Results.**
* `normalPath_wellKnown`: no dots before it, in whatever spelling, take anything off the fixed path.
* `wellKnown_readBody`: the path of a body ends with the fixed path unless its first segment is read
  as a host.
* `wellKnown_iff`: a configuration is asked for at the fixed path exactly when the identifier has no
  mark of a query or a fragment and leaves a place for the path.
-/

namespace EntityTrust
namespace Location

open Url

theorem configuration_eq_ok {id url : String} :
    configuration id = .ok url ↔
      url = canonical id ++ wellKnownPath ∧ ∃ u, Url.parse url = .ok u := by
  unfold configuration parseFor
  cases hparse : Url.parse (canonical id ++ wellKnownPath) with
  | error e =>
      simp only [hparse, Except.map, reduceCtorEq, false_iff, not_and]
      rintro rfl ⟨u, hu⟩
      rw [hparse] at hu
      cases hu
  | ok u =>
      simp only [hparse, Except.map, Except.ok.injEq]
      constructor
      · rintro rfl
        exact ⟨rfl, u, hparse⟩
      · rintro ⟨rfl, -⟩
        rfl

/-- Identifiers that differ in slashes at their end only have one configuration URL. -/
theorem configuration_of_canonical_eq {id id' url : String} (h : canonical id = canonical id')
    (hurl : configuration id = .ok url) : configuration id' = .ok url := by
  rw [configuration_eq_ok] at hurl ⊢
  rw [← h]
  exact hurl

/-- The characters of the fixed path. -/
def wellKnown : List Char := wellKnownPath.toList

/-- The fixed path behind its first slash. -/
def wellKnownRest : List Char := wellKnown.tail

theorem wellKnown_eq : wellKnown = '/' :: wellKnownRest := rfl

section Paths

variable {k : SchemeKind}

theorem isSlash_slash (k : SchemeKind) : k.isSlash '/' = true := by
  simp [SchemeKind.isSlash]

/-- A list of segments ends with a slash when it is written. -/
theorem exists_concat_slash (parts : List (List Char)) :
    ∃ p, '/' :: parts.flatMap (· ++ ['/']) = p ++ ['/'] := by
  rcases List.eq_nil_or_concat parts with rfl | ⟨front, last, rfl⟩
  · exact ⟨[], rfl⟩
  · exact ⟨'/' :: front.flatMap (· ++ ['/']) ++ last, by simp⟩

/-- A path ends with its last two segments. -/
theorem joinSegments_concat {a : List Char} (ha : a ≠ []) (b : List Char)
    (above : List (List Char)) : '/' :: (a ++ '/' :: b) <:+ joinSegments k (b :: a :: above) := by
  have hdrop (parts : List (List Char)) :
      ∃ front, (if k = .file then (parts ++ [a]).dropWhile (·.isEmpty) else parts ++ [a]) =
        front ++ [a] := by
    split
    · refine ⟨parts.dropWhile (·.isEmpty), ?_⟩
      rw [List.dropWhile_append]
      split
      · rename_i hempty
        rw [List.isEmpty_iff.mp hempty]
        simp [ha]
      · rfl
    · exact ⟨parts, rfl⟩
  obtain ⟨front, hfront⟩ := hdrop above.reverse
  obtain ⟨p, hp⟩ := exists_concat_slash front
  refine ⟨p, ?_⟩
  have hlast : '/' :: ((front ++ [a]).flatMap (· ++ ['/']) ++ b) =
      '/' :: front.flatMap (· ++ ['/']) ++ (a ++ '/' :: b) := by simp
  rw [joinSegments, List.reverse_cons, hfront, hlast, hp]
  simp

/-- A segment that is neither dots nor a drive stays. -/
structure Stays (segment : List Char) : Prop where
  notDouble : isDoubleDot segment = false
  notSingle : isSingleDot segment = false
  notDrive : isDriveLetter segment = false

theorem Stays.pushSegment_eq {segment : List Char} (h : Stays segment)
    (above : List (List Char)) : pushSegment k segment above = segment :: above := by
  simp [pushSegment, h.notDrive]

/-- Two segments that stay are the last ones, whatever stands before them. -/
theorem followDots_concat {a b : List Char} (ha : Stays a) (hb : Stays b)
    (segments above : List (List Char)) :
    ∃ front, followDots k above (segments ++ [a, b]) = b :: a :: front := by
  induction segments generalizing above with
  | nil =>
      refine ⟨above, ?_⟩
      simp only [List.nil_append, followDots, ha.notDouble, ha.notSingle, hb.notDouble,
        hb.notSingle, ha.pushSegment_eq, hb.pushSegment_eq, Bool.false_eq_true, if_false]
  | cons segment segments ih =>
      have hmore : segments ++ [a, b] ≠ [] := by simp
      rw [List.cons_append, followDots.eq_3 _ _ _ _ hmore]
      split
      · exact ih _
      · split
        · exact ih _
        · exact ih _

/-- Segments of characters that are no slashes of any kind are those between slashes. -/
theorem segments_of_free (k : SchemeKind) {cs : List Char} (h : ∀ c ∈ cs, c ≠ '\\') :
    segments k cs = Text.cut '/' cs := by
  have hmap : cs.map (fun c => if k.isSlash c then '/' else c) = cs := by
    refine (List.map_congr_left fun c hc => ?_).trans (List.map_id cs)
    have hslash : k.isSlash c = (c == '/') := by simp [SchemeKind.isSlash, h c hc]
    rw [hslash]
    by_cases hc : c = '/' <;> simp [hc]
  rw [segments, hmap]

/-- The fixed path has two segments, and none of their characters is encoded. -/
theorem segments_wellKnownRest (k : SchemeKind) :
    (segments k wellKnownRest).map (Percent.encode Percent.path) =
      [".well-known".toList, "openid-federation".toList] := by
  rw [segments_of_free k (List.all_iff_forall_prop.mp (by decide))]
  decide

theorem segments_wellKnown (k : SchemeKind) (x : List Char) :
    segments k (x ++ wellKnown) = segments k x ++ segments k wellKnownRest := by
  rw [segments, wellKnown_eq, List.map_append, List.map_cons, isSlash_slash]
  exact Text.cut_append_sep '/' _ _

/-- The normal form of a path keeps the fixed path at its end. -/
theorem normalPath_wellKnown (k : SchemeKind) (x : List Char) :
    wellKnown <:+ normalPath k (x ++ wellKnown) ∧ wellKnown <:+ normalPath k wellKnownRest := by
  have hjoin (parts : List (List Char)) : wellKnown <:+ joinSegments k
      (followDots k [] (parts ++ [".well-known".toList, "openid-federation".toList])) := by
    obtain ⟨front, hfront⟩ := followDots_concat (k := k) (a := ".well-known".toList)
      (b := "openid-federation".toList) ⟨by decide, by decide, by decide⟩
      ⟨by decide, by decide, by decide⟩ parts []
    rw [hfront]
    exact joinSegments_concat (a := ".well-known".toList) (by decide) _ front
  constructor
  · rw [normalPath, pathSegments, segments_wellKnown, List.map_append, segments_wellKnownRest]
    exact hjoin _
  · rw [normalPath, pathSegments, segments_wellKnownRest]
    exact hjoin []

theorem authorityPath_wellKnown (k : SchemeKind) (x : List Char) :
    wellKnown <:+ authorityPath k (x ++ wellKnown) := by
  cases x with
  | nil =>
      rw [List.nil_append, wellKnown_eq, authorityPath, if_pos (isSlash_slash k)]
      exact (normalPath_wellKnown k []).2
  | cons c x =>
      rw [List.cons_append, authorityPath]
      split
      · exact (normalPath_wellKnown k x).1
      · exact (normalPath_wellKnown k (c :: x)).1

/-- A single segment that stays is a path. -/
theorem normalPath_of_stays (k : SchemeKind) {cs : List Char} (hfree : ∀ c ∈ cs, c ≠ '/' ∧ c ≠ '\\')
    (hplain : Percent.encode Percent.path cs = cs) (hstays : Stays cs) :
    normalPath k cs = '/' :: cs := by
  have hsegments : segments k cs = [cs] := by
    rw [segments_of_free k fun c hc => (hfree c hc).2]
    exact Text.cut_of_free cs fun c hc => (hfree c hc).1
  rw [normalPath, pathSegments, hsegments, List.map_singleton, hplain, followDots,
    hstays.notDouble, hstays.notSingle, hstays.pushSegment_eq]
  simp [joinSegments]

/-- Dropping what stands before the first slash leaves the fixed path. -/
theorem exists_dropWhile_wellKnown (k : SchemeKind) (x : List Char) :
    ∃ y, (x ++ wellKnown).dropWhile (!k.isSlash ·) = y ++ wellKnown := by
  rw [List.dropWhile_append]
  split
  · refine ⟨[], ?_⟩
    rw [wellKnown_eq, List.dropWhile_cons_of_neg (by simp [isSlash_slash]), List.nil_append]
  · exact ⟨_, rfl⟩

end Paths

section Bodies

variable {k : SchemeKind} {followed : Bool} {r path : List Char} {a : Authority}
  {authority : Option Authority}

/-- The path behind an authority that is read before the fixed path. -/
theorem parseAuthority_wellKnown (h : parseAuthority k followed (r ++ wellKnown) = .ok (a, path)) :
    wellKnown <:+ path := by
  obtain ⟨y, hy⟩ := exists_dropWhile_wellKnown k r
  rw [(authorityReads h).path, hy, ← List.append_assoc]
  exact authorityPath_wellKnown k _

/-- The path when the first segment of the fixed path is read as an authority. -/
theorem authorityPath_wellKnownRest (k : SchemeKind) :
    authorityPath k (behindPort k wellKnownRest ++ wellKnownRest.dropWhile (!k.isSlash ·)) =
      "/openid-federation".toList := by
  have hsplit : wellKnownRest = ".well-known".toList ++ "/openid-federation".toList := rfl
  have hfree : ∀ c ∈ ".well-known".toList, (!k.isSlash c) = true := by
    have hmarks : ∀ c ∈ ".well-known".toList, c ≠ '/' ∧ c ≠ '\\' :=
      List.all_iff_forall_prop.mp (by decide)
    intro c hc
    simp [SchemeKind.isSlash, hmarks c hc]
  have hport : behindPort k wellKnownRest = [] := by
    have htake : wellKnownRest.takeWhile (!k.isSlash ·) = ".well-known".toList := by
      rw [hsplit, List.takeWhile_append_of_pos hfree]
      simp [isSlash_slash]
    rw [behindPort, htake]
    decide
  have hdrop : wellKnownRest.dropWhile (!k.isSlash ·) = '/' :: "openid-federation".toList := by
    rw [hsplit, List.dropWhile_append_of_pos hfree]
    simp [isSlash_slash]
  rw [hport, hdrop, List.nil_append, authorityPath, if_pos (isSlash_slash k)]
  exact normalPath_of_stays k (List.all_iff_forall_prop.mp (by decide)) (by decide)
    ⟨by decide, by decide, by decide⟩

theorem not_wellKnown_suffix : ¬ wellKnown <:+ "/openid-federation".toList := by
  decide

/-- What stands behind a scheme leaves no place for a path: for a special scheme nothing but
slashes, for other ones and for files a single slash, which makes an authority of the rest. -/
def LacksPlace : SchemeKind → List Char → Prop
  | .special port, r => ∀ c ∈ r, (SchemeKind.special port).isSlash c = true
  | .file, r => ∃ c, r = [c] ∧ SchemeKind.file.isSlash c = true
  | .other, r => r = ['/']

theorem parseAuthority_wellKnownRest
    (h : parseAuthority k followed wellKnownRest = .ok (a, path)) :
    ¬ wellKnown <:+ path := by
  rw [(authorityReads h).path, authorityPath_wellKnownRest]
  exact not_wellKnown_suffix

theorem wellKnown_special {port : Nat}
    (h : readBody (.special port) followed (r ++ wellKnown) = .ok (authority, path)) :
    wellKnown <:+ path ↔ ¬ LacksPlace (.special port) r := by
  rw [readBody, List.dropWhile_append] at h
  obtain ⟨⟨a, path⟩, hread, heq⟩ := Outcome.map_eq_ok.mp h
  obtain ⟨-, rfl⟩ := Prod.mk.inj heq
  split at hread
  · rename_i hempty
    have hlacks : LacksPlace (.special port) r :=
      List.dropWhile_eq_nil_iff.mp (List.isEmpty_iff.mp hempty)
    have hrest : wellKnown.dropWhile (SchemeKind.special port).isSlash = wellKnownRest := rfl
    rw [hrest] at hread
    exact iff_of_false (parseAuthority_wellKnownRest hread) (not_not_intro hlacks)
  · rename_i hne
    have hplace : ¬ LacksPlace (.special port) r := fun hlacks =>
      hne (List.isEmpty_iff.mpr (List.dropWhile_eq_nil_iff.mpr hlacks))
    exact iff_of_true (parseAuthority_wellKnown hread) hplace

/-- The path of a file keeps the fixed path, or loses the first segment to a host. -/
theorem filePath_wellKnown (r : List Char) :
    (∃ y, filePath (r ++ wellKnown) = y ++ wellKnown) ∧ ¬ LacksPlace .file r ∨
      filePath (r ++ wellKnown) = "/openid-federation".toList ∧ LacksPlace .file r := by
  match r with
  | [] => exact .inl ⟨⟨[], rfl⟩, by rintro ⟨c, hc, -⟩; cases hc⟩
  | [c] =>
      rw [List.cons_append, List.nil_append, wellKnown_eq, filePath, isSlash_slash, Bool.and_true]
      split
      · rename_i hc
        exact .inr ⟨rfl, c, rfl, hc⟩
      · rename_i hc
        refine .inl ⟨⟨[c], rfl⟩, ?_⟩
        rintro ⟨d, ⟨⟩, hd⟩
        exact hc hd
  | c :: d :: r =>
      refine .inl ⟨?_, by rintro ⟨e, he, -⟩; cases he⟩
      rw [List.cons_append, List.cons_append, filePath]
      split
      · split
        · exact ⟨r, rfl⟩
        · exact exists_dropWhile_wellKnown .file r
      · exact ⟨c :: d :: r, rfl⟩

theorem wellKnown_file (h : readBody .file followed (r ++ wellKnown) = .ok (authority, path)) :
    wellKnown <:+ path ↔ ¬ LacksPlace .file r := by
  rw [readBody] at h
  obtain ⟨⟨a, path⟩, hread, heq⟩ := Outcome.map_eq_ok.mp h
  obtain ⟨-, rfl⟩ := Prod.mk.inj heq
  have hpath := (fileReads hread).path
  rcases filePath_wellKnown r with ⟨⟨y, hy⟩, hplace⟩ | ⟨hrest, hlacks⟩
  · rw [hy] at hpath
    rw [hpath]
    exact iff_of_true (authorityPath_wellKnown .file y) hplace
  · rw [hrest] at hpath
    have hopen : path = "/openid-federation".toList := hpath.trans rfl
    rw [hopen]
    exact iff_of_false not_wellKnown_suffix (not_not_intro hlacks)

/-- An opaque path ends with the fixed path. -/
theorem encode_wellKnown (x : List Char) :
    wellKnown <:+ Percent.encode Percent.controls (x ++ wellKnown) := by
  have hplain : Percent.encode Percent.controls wellKnown = wellKnown := by decide
  rw [Percent.encode_append, hplain]
  exact ⟨_, rfl⟩

theorem wellKnown_other (h : readBody .other followed (r ++ wellKnown) = .ok (authority, path)) :
    wellKnown <:+ path ↔ ¬ LacksPlace .other r := by
  have hroot {cs : List Char} (hcs : cs.head? ≠ some '/') : ∀ more, cs ≠ '/' :: more := by
    rintro more rfl
    exact hcs rfl
  match r with
  | [] =>
      rw [List.nil_append, wellKnown_eq, readBody_other_path (hroot (by decide))] at h
      cases h
      exact iff_of_true (normalPath_wellKnown .other []).2 (by simp [LacksPlace])
  | c :: r =>
      by_cases hc : c = '/'
      · subst hc
        match r with
        | [] =>
            rw [List.cons_append, List.nil_append, wellKnown_eq, readBody_other_authority] at h
            obtain ⟨⟨a, path⟩, hread, heq⟩ := Outcome.map_eq_ok.mp h
            obtain ⟨-, rfl⟩ := Prod.mk.inj heq
            exact iff_of_false (parseAuthority_wellKnownRest hread) (not_not_intro rfl)
        | d :: r =>
            refine iff_of_true ?_ (by simp [LacksPlace])
            by_cases hd : d = '/'
            · subst hd
              rw [List.cons_append, List.cons_append, readBody_other_authority] at h
              obtain ⟨⟨a, path⟩, hread, heq⟩ := Outcome.map_eq_ok.mp h
              obtain ⟨-, rfl⟩ := Prod.mk.inj heq
              exact parseAuthority_wellKnown hread
            · rw [List.cons_append, List.cons_append,
                readBody_other_path (hroot (by simpa using hd))] at h
              cases h
              exact (normalPath_wellKnown .other (d :: r)).1
      · rw [List.cons_append, readBody_other_rootless (hroot (by simpa using hc))] at h
        cases h
        exact iff_of_true (encode_wellKnown (c :: r)) fun hlacks => hc (List.cons.inj hlacks).1

/-- The path of a body ends with the fixed path unless there is no place for it. -/
theorem wellKnown_readBody (h : readBody k followed (r ++ wellKnown) = .ok (authority, path)) :
    wellKnown <:+ path ↔ ¬ LacksPlace k r := by
  cases k with
  | special port => exact wellKnown_special h
  | file => exact wellKnown_file h
  | other => exact wellKnown_other h

end Bodies

section Identifiers

/-- A list of characters without the marks of a query and of a fragment. -/
def Unmarked (cs : List Char) : Prop := ∀ c ∈ cs, c ≠ '?' ∧ c ≠ '#'

variable {xs ys cs scheme r : List Char} {id text : String}

theorem unmarked_append : Unmarked (xs ++ ys) ↔ Unmarked xs ∧ Unmarked ys :=
  List.forall_mem_append

theorem unmarked_reverse : Unmarked xs.reverse ↔ Unmarked xs := by
  simp [Unmarked]

theorem unmarked_wellKnown : Unmarked wellKnown :=
  List.all_iff_forall_prop.mp (by decide)

/-- Dropping characters that are no marks. -/
theorem unmarked_dropWhile {p : Char → Bool} (h : ∀ c, p c = true → c ≠ '?' ∧ c ≠ '#') :
    Unmarked (cs.dropWhile p) ↔ Unmarked cs := by
  have htake : Unmarked (cs.takeWhile p) := fun c hc => h c (List.mem_takeWhile_imp hc)
  conv_rhs => rw [← List.takeWhile_append_dropWhile (p := p) (l := cs), unmarked_append]
  exact (and_iff_right htake).symm

/-- Leaving characters out that are no marks. -/
theorem unmarked_filter {p : Char → Bool} (h : ∀ c, p c = false → c ≠ '?' ∧ c ≠ '#') :
    Unmarked (cs.filter p) ↔ Unmarked cs := by
  constructor
  · intro hfilter c hc
    cases hp : p c with
    | false => exact h c hp
    | true => exact hfilter c (List.mem_filter.mpr ⟨hc, hp⟩)
  · exact fun hcs c hc => hcs c (List.mem_of_mem_filter hc)

/-- The characters of an identifier that count before the fixed path. -/
def leading (id : String) : List Char :=
  ((canonical id).toList.dropWhile fun c => c.toNat ≤ 0x20).filter fun c =>
    c != '\t' && c != '\n' && c != '\r'

theorem unmarked_leading (id : String) : Unmarked (leading id) ↔ Unmarked id.toList := by
  have hkept : ∀ c : Char, (c != '\t' && c != '\n' && c != '\r') = false → c ≠ '?' ∧ c ≠ '#' := by
    rintro c hc
    constructor <;> (rintro rfl; revert hc; decide)
  have hspace : ∀ c : Char, decide (c.toNat ≤ 0x20) = true → c ≠ '?' ∧ c ≠ '#' := by
    rintro c hc
    constructor <;> (rintro rfl; revert hc; decide)
  have hslash : ∀ c : Char, (c == '/') = true → c ≠ '?' ∧ c ≠ '#' := by
    rintro c hc
    obtain rfl := beq_iff_eq.mp hc
    decide
  rw [leading, unmarked_filter hkept, unmarked_dropWhile hspace, canonical, Text.dropTrailing,
    String.toList_ofList, Text.dropEnd, unmarked_reverse, unmarked_dropWhile hslash,
    unmarked_reverse]

/-- All characters of the fixed path count. -/
theorem significant_wellKnown (id : String) :
    significant (canonical id ++ wellKnownPath) = leading id ++ wellKnown := by
  have hends : ∃ front last, wellKnown = front ++ [last] ∧ ¬ last.toNat ≤ 0x20 :=
    ⟨"/.well-known/openid-federatio".toList, 'n', rfl, by decide⟩
  obtain ⟨front, last, hconcat, hlast⟩ := hends
  have hstart : wellKnown.dropWhile (fun c => decide (c.toNat ≤ 0x20)) = wellKnown := rfl
  have hdrop : ((canonical id).toList ++ wellKnown).dropWhile (fun c => decide (c.toNat ≤ 0x20)) =
      (canonical id).toList.dropWhile (fun c => decide (c.toNat ≤ 0x20)) ++ wellKnown := by
    rw [List.dropWhile_append]
    split
    · rename_i hempty
      rw [List.isEmpty_iff.mp hempty, hstart, List.nil_append]
    · rfl
  have hend (x : List Char) :
      Text.dropEnd (fun c => decide (c.toNat ≤ 0x20)) (x ++ wellKnown) = x ++ wellKnown := by
    rw [Text.dropEnd, hconcat, ← List.append_assoc, List.reverse_append, List.reverse_singleton,
      List.singleton_append, List.dropWhile_cons_of_neg (by simpa using hlast)]
    simp
  have hkept : wellKnown.filter (fun c => c != '\t' && c != '\n' && c != '\r') = wellKnown := rfl
  have htext : (canonical id ++ wellKnownPath).toList = (canonical id).toList ++ wellKnown :=
    String.toList_append
  unfold significant leading
  dsimp only
  rw [htext, hdrop, hend, List.filter_append, hkept]

/-- The scheme is read before the fixed path. -/
theorem splitScheme_wellKnown {rest : List Char}
    (h : splitScheme (cs ++ wellKnown) = some (scheme, rest)) :
    ∃ r, splitScheme cs = some (scheme, r) ∧ rest = r ++ wellKnown := by
  obtain ⟨name, hname, hcut, hscheme⟩ := splitScheme_eq_some.mp h
  rcases List.append_eq_append_iff.mp hcut with ⟨a, -, hwellKnown⟩ | ⟨a, hcs, hrest⟩
  · have hcolon : ':' ∈ wellKnown := by simp [hwellKnown]
    exact absurd hcolon (by decide)
  · match a with
    | [] => exact absurd (List.cons.inj hrest).1 (by decide)
    | c :: r =>
        obtain ⟨rfl, hr⟩ := List.cons.inj hrest
        exact ⟨r, splitScheme_eq_some.mpr ⟨name, hname, hcs, hscheme⟩, hr⟩

/-- There is no mark in a scheme. -/
theorem unmarked_splitScheme (h : splitScheme cs = some (scheme, r)) :
    Unmarked cs ↔ Unmarked r := by
  obtain ⟨name, hname, rfl, -⟩ := splitScheme_eq_some.mp h
  have hfree : Unmarked name := by
    intro c hc
    have hchar := hname.chars c hc
    constructor <;> (rintro rfl; revert hchar; decide)
  have hcolon : Unmarked [':'] := by simp [Unmarked]
  rw [← List.singleton_append, unmarked_append, unmarked_append]
  exact (and_iff_right hfree).trans (and_iff_right hcolon)

/-- What is read before the fixed path has neither query nor fragment when it has no marks, and then
its body ends with the fixed path. -/
theorem body_of_wellKnown {main : List Char} {query fragment : Option (List Char)}
    (h : r ++ wellKnown = main ++ renderPart '?' query ++ renderPart '#' fragment)
    (hmain : Unmarked main) :
    (query = none ∧ fragment = none) ↔ Unmarked r := by
  constructor
  · rintro ⟨rfl, rfl⟩
    have hall : Unmarked (r ++ wellKnown) := by
      rw [h]
      simpa only [renderPart, List.append_nil] using hmain
    exact (unmarked_append.mp hall).1
  · intro hr
    have hall : Unmarked (main ++ renderPart '?' query ++ renderPart '#' fragment) :=
      h ▸ unmarked_append.mpr ⟨hr, unmarked_wellKnown⟩
    constructor
    · cases query with
      | none => rfl
      | some q => exact absurd rfl (hall '?' (by simp [renderPart])).1
    · cases fragment with
      | none => rfl
      | some f => exact absurd rfl (hall '#' (by simp [renderPart])).2

/-- A configuration is asked for at the fixed path, without a query and a fragment, exactly when the
identifier has no mark of either and leaves a place for the path. -/
theorem wellKnown_iff (h : configuration id = .ok text) :
    text = canonical id ++ wellKnownPath ∧
      ∃ u r, Url.parse text = .ok u ∧ splitScheme (leading id) = some (u.scheme, r) ∧
        (wellKnown <:+ u.path ∧ u.query = none ∧ u.fragment = none ↔
          Unmarked id.toList ∧ ¬ LacksPlace (schemeKind u.scheme) r) := by
  obtain ⟨rfl, u, hparse⟩ := configuration_eq_ok.mp h
  obtain ⟨main, query, fragment, hreads⟩ := parse_eq_ok.mp hparse
  have hcut := hreads.cut
  rw [significant_wellKnown] at hcut
  obtain ⟨r, hscheme, hrest⟩ := splitScheme_wellKnown hcut
  have hmarks : Unmarked id.toList ↔ Unmarked r := by
    rw [← unmarked_leading, unmarked_splitScheme hscheme]
  have hparts : (u.query = none ∧ u.fragment = none) ↔ query = none ∧ fragment = none := by
    rw [hreads.query, hreads.fragment, Option.map_eq_none_iff, Option.map_eq_none_iff]
  refine ⟨rfl, u, r, hparse, hscheme, ?_⟩
  rw [hparts, body_of_wellKnown hrest.symm hreads.main_free, ← hmarks, and_comm]
  refine and_congr_right fun hfree => ?_
  obtain ⟨rfl, rfl⟩ := (body_of_wellKnown hrest.symm hreads.main_free).mpr (hmarks.mp hfree)
  have hmain : main = r ++ wellKnown := by simpa [renderPart] using hrest
  exact wellKnown_readBody (hmain ▸ hreads.body)

/-- Neither dots nor slashes at the end of an identifier take anything off the fixed path. -/
theorem wellKnown_iff_sample :
    configuration "s://host/a/%2E.//" = .ok "s://host/a/%2E./.well-known/openid-federation" ∧
      ∃ u, Url.parse "s://host/a/%2E./.well-known/openid-federation" = .ok u ∧
        wellKnown <:+ u.path ∧ u.query = none ∧ u.fragment = none := by
  have hasked : configuration "s://host/a/%2E.//" =
      .ok "s://host/a/%2E./.well-known/openid-federation" := by decide +kernel
  obtain ⟨-, u, r, hparse, hscheme, hiff⟩ := wellKnown_iff hasked
  have hcut : splitScheme (leading "s://host/a/%2E.//") =
      some ("s".toList, "//host/a/%2E.".toList) := by decide +kernel
  obtain ⟨hs, hr⟩ := Prod.mk.inj (Option.some.inj (hcut.symm.trans hscheme))
  have hplace : ¬ LacksPlace (schemeKind u.scheme) r := by
    rw [← hs, ← hr]
    show ¬ LacksPlace .other _
    simp [LacksPlace]
  exact ⟨hasked, u, hparse, hiff.mpr ⟨by simp [Unmarked], hplace⟩⟩

/-- A configuration can be asked for elsewhere: the mark of a query takes the fixed path with it. -/
theorem asked_elsewhere :
    configuration "web://leaf.example?x=" =
        .ok "web://leaf.example?x=/.well-known/openid-federation" ∧
      ¬ ∃ u, Url.parse "web://leaf.example?x=/.well-known/openid-federation" = .ok u ∧
        wellKnown <:+ u.path ∧ u.query = none ∧ u.fragment = none := by
  refine ⟨by decide +kernel, ?_⟩
  rintro ⟨u, hparse, hpath, -⟩
  have hread : (Url.parse "web://leaf.example?x=/.well-known/openid-federation").map (·.path) =
      .ok [] := by decide +kernel
  have hnone : u.path = [] := Except.ok.inj (hparse ▸ hread)
  exact absurd (hnone ▸ hpath) (by decide)

end Identifiers

end Location
end EntityTrust
