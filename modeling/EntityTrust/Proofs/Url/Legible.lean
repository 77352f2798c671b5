import EntityTrust.Proofs.Url.Form
import EntityTrust.Proofs.Url.Reading
import Mathlib.Data.Bool.AllAny

/-!
# Characters of URLs in normal form

A written URL can be cut into its parts again because no part holds the mark that ends it.  A URL
that was read is of this kind, whatever it was read from: user names, paths, queries and fragments
are percent-encoded, and every form of a host keeps to the characters of names and addresses.

**Results.**
* `Percent.encode_of_encoded`: what is encoded is not encoded again.
* `Domain.inAuthority_ofOctets`: the characters of a domain name, with those of labels in Punycode.
* `legible_of_parse`: every URL that is read can be cut into its parts when it is written.
-/

namespace EntityTrust

/-- A condition on characters of ASCII is one on their code points. -/
theorem Char.forall_ascii {p : Char → Prop} (h : ∀ n < 0x80, p (Char.ofNat n)) {c : Char}
    (hc : c.toNat < 0x80) : p c :=
  Char.ofNat_toNat c ▸ h c.toNat hc

namespace Percent

variable {s : EncodeSet} {cs : List Char} {c : Char}

/-- Characters that are left as they are. -/
def Encoded (s : EncodeSet) (cs : List Char) : Prop :=
  ∀ c ∈ cs, c.toNat < 0x80 ∧ s c = false

/-- A set without the characters that encoded octets are written with. -/
structure Spares (s : EncodeSet) : Prop where
  mark : s '%' = false
  digit : ∀ n < 16, s (hexDigit n) = false

theorem mem_encode (h : c ∈ encode s cs) :
    (c ∈ cs ∧ c.toNat < 0x80 ∧ s c = false) ∨ c = '%' ∨ ∃ n < 16, c = hexDigit n := by
  obtain ⟨d, hd, hc⟩ := List.mem_flatMap.mp h
  split at hc
  · rename_i hkept
    obtain rfl := List.mem_singleton.mp hc
    simp only [Bool.and_eq_true, decide_eq_true_eq, Bool.not_eq_true'] at hkept
    exact .inl ⟨hd, hkept⟩
  · obtain ⟨b, -, hb⟩ := List.mem_flatMap.mp hc
    exact .inr (Form.mem_encodeOctet hb)

theorem encoded_encode (hs : Spares s) (cs : List Char) : Encoded s (encode s cs) := by
  have hdigit : ∀ n < 16, (hexDigit n).toNat < 0x80 := by decide
  intro c hc
  rcases mem_encode hc with ⟨-, h⟩ | rfl | ⟨n, hn, rfl⟩
  · exact h
  · exact ⟨by decide, hs.mark⟩
  · exact ⟨hdigit n hn, hs.digit n hn⟩

/-- What is encoded is not encoded again. -/
theorem encode_of_encoded (h : Encoded s cs) : encode s cs = cs := by
  induction cs with
  | nil => rfl
  | cons c cs ih =>
      obtain ⟨⟨hascii, hkept⟩, hcs⟩ := List.forall_mem_cons.mp h
      rw [← List.singleton_append, encode_append, ih hcs]
      simp [encode, hascii, hkept]

theorem spares_fragment : Spares fragment := ⟨by decide, by decide⟩

theorem spares_path : Spares path := ⟨by decide, by decide⟩

theorem spares_userInfo : Spares userInfo := ⟨by decide, by decide⟩

theorem encodeOctets_ne_nil (c : Char) : encodeOctets c ≠ [] := by
  have hoctets : String.utf8EncodeChar c ≠ [] := by
    rw [← List.length_pos_iff, String.length_utf8EncodeChar]
    exact Char.utf8Size_pos c
  obtain ⟨b, bs, hb⟩ := List.exists_cons_of_ne_nil hoctets
  simp [encodeOctets, Utf8.encode_singleton, hb, encodeOctet]

end Percent

/-- A visible character that ends no authority. -/
def InAuthority (c : Char) : Prop :=
  0x20 < c.toNat ∧ c ≠ '/' ∧ c ≠ '?' ∧ c ≠ '#'

instance : DecidablePred InAuthority := fun _ => inferInstanceAs (Decidable (_ ∧ _))

theorem inAuthority_hexDigit : ∀ n < 16, InAuthority (Percent.hexDigit n) := by
  decide

namespace Address

theorem inAuthority_toDigits {b : Nat} (hb : 1 < b) (hb' : b ≤ 16) (n : Nat) :
    ∀ c ∈ Nat.toDigits b n, InAuthority c := by
  have hdigit : ∀ d < 16, InAuthority (Nat.digitChar d) := by decide
  induction n using Nat.strong_induction_on with
  | _ n ih =>
    by_cases hn : n < b
    · rw [Nat.toDigits_of_lt_base hn]
      simpa using hdigit n (by omega)
    · have hlast := hdigit (n % b) (Nat.mod_lt n (by omega) |>.trans_le hb')
      have hfront := ih (n / b) (Nat.div_lt_self (by omega) hb)
      rw [Nat.toDigits_of_base_le hb (by omega)]
      exact List.forall_mem_append.mpr ⟨hfront, by simpa using hlast⟩

theorem inAuthority_write4 (n : Nat) : ∀ c ∈ write4 n, InAuthority c := by
  have hoctet (k : Nat) := inAuthority_toDigits (b := 10) (by omega) (by omega) k
  have hdot : InAuthority '.' := by decide
  simp only [write4, List.forall_mem_append, List.forall_mem_cons]
  exact ⟨⟨⟨hoctet _, hdot, hoctet _⟩, hdot, hoctet _⟩, hdot, hoctet _⟩

theorem inAuthority_writePieces (ns : List Nat) : ∀ c ∈ writePieces ns, InAuthority c := by
  have hpiece (n : Nat) := inAuthority_toDigits (b := 16) (by omega) (by omega) n
  fun_induction writePieces ns with
  | case1 => simp
  | case2 n => exact hpiece n
  | case3 n rest hrest ih =>
      exact List.forall_mem_append.mpr ⟨hpiece n, List.forall_mem_cons.mpr ⟨by decide, ih⟩⟩

theorem inAuthority_write6 (ns : List Nat) : ∀ c ∈ write6 ns, InAuthority c := by
  have hcolon : InAuthority ':' := by decide
  unfold write6
  dsimp only
  split
  · exact inAuthority_writePieces ns
  · simp only [List.forall_mem_append, List.forall_mem_cons]
    exact ⟨inAuthority_writePieces _, hcolon, hcolon, inAuthority_writePieces _⟩

end Address

namespace Punycode

/-- A digit of a written difference. -/
def IsDigit (c : Char) : Prop := ∃ v < 36, c = digit v

theorem isDigit_encodeNumber (bias k q : Nat) : ∀ c ∈ encodeNumber bias k q, IsDigit c := by
  have hbound := threshold_le bias
  fun_induction encodeNumber bias k q with
  | case1 k q t hq =>
      intro c hc
      exact ⟨q, by have := hbound k; omega, List.mem_singleton.mp hc⟩
  | case2 k q t hq ih =>
      refine List.forall_mem_cons.mpr ⟨⟨_, ?_, rfl⟩, ih⟩
      have ht : t ≤ 26 := hbound k
      have := Nat.mod_lt (q - t) (show 0 < 36 - t by omega)
      omega

variable {cs : List Char} {basic : Nat} {p : Progress} {P : Char → Prop}

theorem forall_pass (hdigit : ∀ c, IsDigit c → P c) (basic m : Nat) (c : Char)
    (h : ∀ d ∈ p.output, P d) : ∀ d ∈ (pass basic m p c).output, P d := by
  rw [pass]
  by_cases hless : c.toNat < m
  · rw [if_pos hless]
    exact h
  · rw [if_neg hless]
    by_cases heq : c.toNat = m
    · rw [if_pos heq]
      exact List.forall_mem_append.mpr ⟨h, fun d hd => hdigit d (isDigit_encodeNumber _ _ _ d hd)⟩
    · rw [if_neg heq]
      exact h

theorem forall_foldl_pass (hdigit : ∀ c, IsDigit c → P c) (m : Nat) (h : ∀ c ∈ p.output, P c) :
    ∀ c ∈ (cs.foldl (pass basic m) p).output, P c := by
  induction cs generalizing p with
  | nil => exact h
  | cons c cs ih => exact ih (forall_pass hdigit basic m c h)

theorem forall_encodePoints (hdigit : ∀ c, IsDigit c → P c) {points : List Nat} {n : Nat}
    (h : ∀ c ∈ p.output, P c) : ∀ c ∈ (encodePoints cs basic points n p).output, P c := by
  induction points generalizing n p with
  | nil => exact h
  | cons m points ih => exact ih (forall_foldl_pass hdigit m h)

/-- A label is written with its own characters of ASCII, a hyphen and digits. -/
theorem mem_encode {c : Char} (h : c ∈ encode cs) :
    (c ∈ cs ∧ c.toNat < 0x80) ∨ c = '-' ∨ IsDigit c := by
  refine forall_encodePoints (P := fun c => (c ∈ cs ∧ c.toNat < 0x80) ∨ c = '-' ∨ IsDigit c)
    (fun c hc => .inr (.inr hc)) (fun c hc => ?_) c h
  dsimp only at hc
  split at hc
  · cases hc
  · rcases List.mem_append.mp hc with hc | hc
    · exact .inl (by simpa using hc)
    · exact .inr (.inl (List.mem_singleton.mp hc))

end Punycode

namespace Domain

theorem inAuthority_of_kept {c : Char} (hascii : c.toNat < 0x80) (h : isForbidden c = false) :
    InAuthority c :=
  Char.forall_ascii (p := fun c => isForbidden c = false → InAuthority c) (by decide +kernel)
    hascii h

theorem inAuthority_writeLabel {label : List Char}
    (h : ∀ c ∈ label, c.toNat < 0x80 → isForbidden c = false) :
    ∀ c ∈ writeLabel label, InAuthority c := by
  have hmark : ∀ c ∈ ['x', 'n', '-', '-'], InAuthority c :=
    List.all_iff_forall_prop.mp (by decide)
  have hdigit : ∀ v < 36, InAuthority (Punycode.digit v) := by decide
  intro c hc
  unfold writeLabel at hc
  split at hc
  · rename_i hall
    have hascii : c.toNat < 0x80 := of_decide_eq_true (List.all_eq_true.mp hall c hc)
    exact inAuthority_of_kept hascii (h c hc hascii)
  · rcases List.mem_append.mp hc with hc | hc
    · exact hmark c hc
    · rcases Punycode.mem_encode hc with ⟨hmem, hascii⟩ | rfl | ⟨v, hv, rfl⟩
      · exact inAuthority_of_kept hascii (h c hmem hascii)
      · decide
      · exact hdigit v hv

theorem mem_intercalate {sep c : Char} {parts : List (List Char)}
    (h : c ∈ [sep].intercalate parts) : c = sep ∨ ∃ part ∈ parts, c ∈ part := by
  induction parts with
  | nil => cases h
  | cons part parts ih =>
      cases parts with
      | nil => exact .inr ⟨part, List.mem_singleton_self _, by simpa using h⟩
      | cons next parts =>
          rw [List.intercalate_cons_cons, List.mem_append, List.mem_append] at h
          rcases h with (h | h) | h
          · exact .inr ⟨part, List.mem_cons_self, h⟩
          · exact .inl (List.mem_singleton.mp h)
          · rcases ih h with h | ⟨l, hl, h⟩
            · exact .inl h
            · exact .inr ⟨l, List.mem_cons_of_mem _ hl, h⟩

theorem inAuthority_ofOctets {host : List UInt8} {name : List Char}
    (h : ofOctets host = some name) : ∀ c ∈ name, InAuthority c := by
  unfold ofOctets toAscii at h
  obtain ⟨mapped, -, h⟩ := Option.bind_eq_some_iff.mp h
  obtain ⟨labels, -, h⟩ := Option.bind_eq_some_iff.mp h
  split at h
  · cases h
  rename_i hforbidden
  split at h
  · cases h
  cases h
  intro c hc
  rcases mem_intercalate hc with rfl | ⟨part, hpart, hc⟩
  · decide
  · obtain ⟨label, hlabel, rfl⟩ := List.mem_map.mp hpart
    refine inAuthority_writeLabel (fun d hd hascii => ?_) c hc
    simp only [List.any_eq_true, Bool.and_eq_true, not_exists, not_and,
      Bool.not_eq_true] at hforbidden
    exact hforbidden label hlabel d hd (decide_eq_true hascii)

end Domain

namespace Url

open Percent

section Authorities

variable {x cs : List Char} {host : Host} {k : SchemeKind}

/-- Nothing between brackets is a name. -/
theorem bracketed?_ne_name : bracketed? x ≠ some (.ok (.name cs)) := by
  unfold bracketed?
  split
  · split
    · split <;> simp
    · simp
  · simp

theorem inAuthority_special (h : parseSpecialHost x = .ok (.name cs)) :
    ∀ c ∈ cs, InAuthority c := by
  unfold parseSpecialHost at h
  split at h
  · rename_i hbracketed
    exact absurd (h ▸ hbracketed) bracketed?_ne_name
  · split at h
    · cases h
    · cases h
    · rename_i name _ hname
      split at h
      · split at h <;> cases h
      · cases h
        exact Domain.inAuthority_ofOctets hname

theorem inAuthority_other (h : parseOtherHost x = .ok (.name cs)) : ∀ c ∈ cs, InAuthority c := by
  have hkept : ∀ {c : Char}, c.toNat < 0x80 → controls c = false ∧ isRefusedHostChar c = false →
      InAuthority c := fun {c} hascii =>
    Char.forall_ascii (p := fun c => controls c = false ∧ isRefusedHostChar c = false →
      InAuthority c) (by decide +kernel) hascii
  unfold parseOtherHost at h
  split at h
  · rename_i hbracketed
    exact absurd (h ▸ hbracketed) bracketed?_ne_name
  · split at h
    · cases h
    · rename_i hrefused
      cases h
      intro c hc
      rcases mem_encode hc with ⟨hmem, hascii, hcontrol⟩ | rfl | ⟨n, hn, rfl⟩
      · refine hkept hascii ⟨hcontrol, ?_⟩
        by_contra hc
        exact hrefused (List.any_eq_true.mpr ⟨c, hmem, by simpa using hc⟩)
      · decide
      · exact inAuthority_hexDigit n hn

/-- An at sign is no host. -/
theorem parseOtherHost_ne_at : parseOtherHost x ≠ .ok (.name ['@']) := by
  intro h
  unfold parseOtherHost at h
  split at h
  · rename_i hbracketed
    exact bracketed?_ne_name (h ▸ hbracketed)
  · split at h
    · cases h
    · rename_i hrefused
      have hat : '@' ∈ encode controls x := by
        rw [Host.name.inj (Except.ok.inj h)]
        exact List.mem_singleton_self _
      have hdigit : ∀ n < 16, '@' ≠ hexDigit n := by decide
      rcases mem_encode hat with ⟨hmem, -⟩ | hmark | ⟨n, hn, hhex⟩
      · exact hrefused (List.any_eq_true.mpr ⟨'@', hmem, by decide⟩)
      · cases hmark
      · exact hdigit n hn hhex

/-- The characters of a host are those of names and addresses. -/
theorem inAuthority_host (h : ∀ cs, host = .name cs → ∀ c ∈ cs, InAuthority c) :
    ∀ c ∈ host.render, InAuthority c := by
  cases host with
  | name cs => exact h cs rfl
  | version4 n => exact Address.inAuthority_write4 n
  | version6 ps =>
      refine List.forall_mem_cons.mpr ⟨by decide, List.forall_mem_append.mpr
        ⟨?_, List.forall_mem_singleton.mpr (by decide)⟩⟩
      exact Address.inAuthority_write6 ps

theorem inAuthority_encoded (h : Encoded userInfo cs) : ∀ c ∈ cs, InAuthority c := fun c hc =>
  Char.forall_ascii (p := fun c => userInfo c = false → InAuthority c) (by decide +kernel)
    (h c hc).1 (h c hc).2

theorem inAuthority_render {a : Authority} (huser : Encoded userInfo a.user)
    (hpassword : Encoded userInfo a.password)
    (hhost : ∀ cs, a.host = .name cs → ∀ c ∈ cs, InAuthority c) :
    ∀ c ∈ a.render, InAuthority c := by
  have hat : ∀ c ∈ ['@'], InAuthority c := List.forall_mem_singleton.mpr (by decide)
  have hinfo : ∀ c ∈ a.renderUser, InAuthority c := by
    unfold Authority.renderUser
    split
    · simp
    · refine List.forall_mem_append.mpr ⟨List.forall_mem_append.mpr ⟨?_, ?_⟩, hat⟩
      · exact inAuthority_encoded huser
      · split
        · simp
        · exact List.forall_mem_cons.mpr ⟨by decide, inAuthority_encoded hpassword⟩
  unfold Authority.render
  refine List.forall_mem_append.mpr
    ⟨List.forall_mem_append.mpr ⟨hinfo, inAuthority_host hhost⟩, ?_⟩
  split
  · rename_i port _
    exact List.forall_mem_cons.mpr
      ⟨by decide, Address.inAuthority_toDigits (by omega) (by omega) port⟩
  · simp

/-- Something stands before the at sign behind a user name and a password. -/
theorem renderUser_ne_at (a : Authority) : a.renderUser ≠ ['@'] := by
  intro h
  unfold Authority.renderUser at h
  split at h
  · cases h
  · rename_i hnamed
    rcases List.append_eq_singleton_iff.mp h with ⟨hfront, -⟩ | ⟨-, hnone⟩
    · obtain ⟨huser, hpassword⟩ := List.append_eq_nil_iff.mp hfront
      split at hpassword
      · rename_i hempty
        exact hnamed (by simp [huser, hempty])
      · cases hpassword
    · cases hnone

/-- An authority is no at sign alone unless its host is one. -/
theorem render_ne_at {a : Authority} (hhost : a.host ≠ .name ['@']) : a.render ≠ ['@'] := by
  have hwritten : a.host.render ≠ ['@'] := by
    intro h
    generalize a.host = host at h hhost
    cases host with
    | name cs => exact hhost (congrArg Host.name h)
    | version4 n =>
        have hdot : '.' ∈ Address.write4 n := by simp [Address.write4]
        rw [show Address.write4 n = ['@'] from h] at hdot
        exact absurd hdot (by decide)
    | version6 ps => exact absurd (List.cons.inj h).1 (by decide)
  intro h
  unfold Authority.render at h
  rcases List.append_eq_singleton_iff.mp h with ⟨-, hport⟩ | ⟨hfront, -⟩
  · split at hport
    · exact absurd (List.cons.inj hport).1 (by decide)
    · cases hport
  · rcases List.append_eq_singleton_iff.mp hfront with ⟨-, hname⟩ | ⟨huser, -⟩
    · exact hwritten hname
    · exact renderUser_ne_at a huser

end Authorities

section Paths

variable {k : SchemeKind} {p : Char → Prop} {parts above : List (List Char)}

theorem forall_joinSegments (hslash : p '/') (hparts : ∀ s ∈ parts, ∀ c ∈ s, p c) :
    ∀ c ∈ joinSegments k parts, p c := by
  cases parts with
  | nil => exact List.forall_mem_singleton.mpr hslash
  | cons last above =>
      obtain ⟨hlast, habove⟩ := List.forall_mem_cons.mp hparts
      have hkept : ∀ s ∈ (if k = .file then above.reverse.dropWhile (·.isEmpty)
          else above.reverse), ∀ c ∈ s, p c := by
        intro s hs
        refine habove s (List.mem_reverse.mp ?_)
        split at hs
        · exact List.dropWhile_subset _ hs
        · exact hs
      refine List.forall_mem_cons.mpr ⟨hslash, List.forall_mem_append.mpr ⟨fun c hc => ?_, hlast⟩⟩
      obtain ⟨s, hs, hc⟩ := List.mem_flatMap.mp hc
      rcases List.mem_append.mp hc with hc | hc
      · exact hkept s hs c hc
      · exact List.mem_singleton.mp hc ▸ hslash

theorem popSegment_subset (above : List (List Char)) : popSegment above ⊆ above := by
  cases above with
  | nil => exact List.Subset.refl []
  | cons d above =>
      rw [popSegment]
      split
      · exact List.Subset.refl _
      · exact List.subset_cons_self d above

theorem forall_pushSegment {segment : List Char} (hcolon : p ':') (hsegment : ∀ c ∈ segment, p c)
    (h : ∀ s ∈ above, ∀ c ∈ s, p c) : ∀ s ∈ pushSegment k segment above, ∀ c ∈ s, p c := by
  unfold pushSegment
  split
  · refine List.forall_mem_singleton.mpr (List.forall_mem_append.mpr ⟨?_, by simpa⟩)
    exact fun c hc => hsegment c (List.mem_of_mem_take hc)
  · exact List.forall_mem_cons.mpr ⟨hsegment, h⟩

/-- Segments with dots followed have their own characters and the colons of drives. -/
theorem forall_followDots (hcolon : p ':') (h : ∀ s ∈ parts, ∀ c ∈ s, p c)
    (habove : ∀ s ∈ above, ∀ c ∈ s, p c) :
    ∀ s ∈ followDots k above parts, ∀ c ∈ s, p c := by
  have hempty {above : List (List Char)} (habove : ∀ s ∈ above, ∀ c ∈ s, p c) :
      ∀ s ∈ [] :: above, ∀ c ∈ s, p c := List.forall_mem_cons.mpr ⟨by simp, habove⟩
  have hpop {above : List (List Char)} (habove : ∀ s ∈ above, ∀ c ∈ s, p c) :
      ∀ s ∈ popSegment above, ∀ c ∈ s, p c := fun s hs => habove s (popSegment_subset above hs)
  fun_induction followDots k above parts with
  | case1 above => exact hempty habove
  | case2 above last hdouble => exact hempty (hpop habove)
  | case3 above last hdouble hsingle => exact hempty habove
  | case4 above last hdouble hsingle =>
      exact forall_pushSegment hcolon (h last (List.mem_singleton_self _)) habove
  | case5 above segment more hmore hdouble ih =>
      exact ih (List.forall_mem_cons.mp h).2 (hpop habove)
  | case6 above segment more hmore hdouble hsingle ih =>
      exact ih (List.forall_mem_cons.mp h).2 habove
  | case7 above segment more hmore hdouble hsingle ih =>
      obtain ⟨hsegment, hmore⟩ := List.forall_mem_cons.mp h
      exact ih hmore (forall_pushSegment hcolon hsegment habove)

theorem joinSegments_starts (k : SchemeKind) (parts : List (List Char)) :
    ∃ r, joinSegments k parts = '/' :: r := by
  cases parts with
  | nil => exact ⟨[], rfl⟩
  | cons last above => exact ⟨_, rfl⟩

/-- A path in normal form is encoded. -/
theorem encoded_normalPath (k : SchemeKind) (cs : List Char) :
    Encoded Percent.path (normalPath k cs) := by
  refine forall_joinSegments (by decide) ?_
  refine forall_followDots (by decide) (fun s hs => ?_) (by simp)
  obtain ⟨segment, -, rfl⟩ := List.mem_map.mp hs
  exact encoded_encode spares_path segment

theorem authorityPath_cases (k : SchemeKind) (cs : List Char) :
    authorityPath k cs = [] ∨ ∃ more, authorityPath k cs = normalPath k more := by
  unfold authorityPath
  split
  · split
    · exact .inr ⟨_, rfl⟩
    · exact .inl rfl
  · split
    · exact .inr ⟨_, rfl⟩
    · exact .inr ⟨_, rfl⟩

end Paths

section Reading

/-- A list whose last character, if there is one, is visible. -/
def EndsVisibly (cs : List Char) : Prop := ∀ c, cs.getLast? = some c → 0x20 < c.toNat

variable {xs ys cs main : List Char} {text : String} {u : Url} {query fragment : Option (List Char)}

theorem EndsVisibly.append (hy : EndsVisibly ys) (hx : ys = [] → EndsVisibly xs) :
    EndsVisibly (xs ++ ys) := by
  intro c hc
  rw [List.getLast?_append] at hc
  cases hlast : ys.getLast? with
  | none => 
      rw [hlast] at hc
      exact hx (List.getLast?_eq_none_iff.mp hlast) c hc
  | some d =>
      rw [hlast] at hc
      exact hy c (hlast.trans hc)

theorem EndsVisibly.of_forall (h : ∀ c ∈ cs, 0x20 < c.toNat) : EndsVisibly cs :=
  fun c hc => h c (List.mem_of_getLast? hc)

/-- The characters of a text that count end with a visible one. -/
theorem endsVisibly_significant (text : String) : EndsVisibly (significant text) := by
  intro c hc
  unfold significant at hc
  dsimp only at hc
  rw [List.getLast?_filter, Text.dropEnd, List.reverse_reverse] at hc
  generalize (text.toList.dropWhile fun c => decide (c.toNat ≤ 0x20)).reverse = cs at hc
  have hfirst := List.head?_dropWhile_not (fun c => decide (c.toNat ≤ 0x20)) cs
  cases hdrop : cs.dropWhile fun c => decide (c.toNat ≤ 0x20) with
  | nil =>
      rw [hdrop] at hc
      cases hc
  | cons d rest =>
      rw [hdrop] at hc hfirst
      have hvisible : 0x20 < d.toNat := by simpa using hfirst
      have hkept : (d != '\t' && d != '\n' && d != '\r') = true := by
        simp only [Bool.and_eq_true, bne_iff_ne, ne_eq]
        refine ⟨⟨?_, ?_⟩, ?_⟩ <;> (rintro rfl; revert hvisible; decide)
      rw [List.find?_cons, hkept] at hc
      cases hc
      exact hvisible

/-- Encoding leaves a visible end or makes one. -/
theorem EndsVisibly.encode (h : EndsVisibly cs) : EndsVisibly (Percent.encode controls cs) := by
  have hdigit : ∀ n < 16, 0x20 < (hexDigit n).toNat := by decide
  intro c hc
  rw [Percent.encode, List.getLast?_flatMap] at hc
  cases hcs : cs.reverse with
  | nil =>
      rw [hcs] at hc
      cases hc
  | cons d rest =>
      have hlast : cs.getLast? = some d := by rw [← List.head?_reverse, hcs, List.head?_cons]
      rw [hcs, List.findSome?_cons] at hc
      split at hc
      · rename_i e he
        cases hc
        split at he
        · cases he
          exact h d hlast
        · obtain ⟨b, -, hb⟩ := List.mem_flatMap.mp (List.mem_of_getLast? he)
          rcases Form.mem_encodeOctet hb with rfl | ⟨n, hn, rfl⟩
          · decide
          · exact hdigit n hn
      · rename_i hnone
        split at hnone
        · cases hnone
        · exact absurd (List.getLast?_eq_none_iff.mp hnone) (encodeOctets_ne_nil d)

/-- What keeps the parts of a URL apart when it is written. -/
structure Legible (u : Url) : Prop where
  scheme : SchemeName u.scheme
  lower : u.scheme.map Char.toLower = u.scheme
  authority : ∀ a, u.authority = some a → ∀ c ∈ a.render, InAuthority c
  path : ∀ c ∈ u.path, 0x20 ≤ c.toNat ∧ c ≠ '?' ∧ c ≠ '#'
  named : schemeKind u.scheme = .other → ∀ a, u.authority = some a → a.render ≠ ['@']
  rooted : u.authority ≠ none → u.path = [] ∨ ∃ r, u.path = '/' :: r
  ends : u.query = none → u.fragment = none → EndsVisibly u.path
  query : ∀ q, u.query = some q → Encoded (querySet (schemeKind u.scheme)) q
  fragment : ∀ f, u.fragment = some f → Encoded Percent.fragment f

theorem ascii_of_isPlain {c : Char} (h : Form.isPlain c = true) : c.toNat < 0x80 := by
  obtain ⟨b, hb, -⟩ := (Form.plain_of_isPlain h).octet
  have hsize : c.utf8Size = 1 := by
    rw [← String.length_utf8EncodeChar, hb, List.length_singleton]
  exact Nat.lt_succ_of_le (Char.utf8Size_eq_one_iff.mp hsize)

theorem ascii_of_isSchemeChar {c : Char} (h : isSchemeChar c = true) : c.toNat < 0x80 := by
  by_cases hplus : c = '+'
  · subst hplus
    decide
  · refine ascii_of_isPlain ?_
    simp only [isSchemeChar, Bool.or_eq_true, beq_iff_eq, hplus, or_false] at h
    rcases h with (h | rfl) | rfl
    · simp [Form.isPlain, h]
    · decide
    · decide

/-- A scheme in lower case is a scheme in lower case. -/
theorem SchemeName.lower {name : List Char} (h : SchemeName name) :
    SchemeName (name.map Char.toLower) ∧
      (name.map Char.toLower).map Char.toLower = name.map Char.toLower := by
  have hlower {c : Char} (hc : isSchemeChar c = true) :
      isSchemeChar c.toLower = true ∧ c.toLower.toLower = c.toLower ∧
        (c.isAlpha = true → c.toLower.isAlpha = true) :=
    Char.forall_ascii (p := fun c => isSchemeChar c = true → isSchemeChar c.toLower = true ∧
      c.toLower.toLower = c.toLower ∧ (c.isAlpha = true → c.toLower.isAlpha = true))
      (by decide +kernel) (ascii_of_isSchemeChar hc) hc
  obtain ⟨⟨c, rest, rfl, halpha⟩, hchars⟩ := h
  refine ⟨⟨⟨c.toLower, rest.map Char.toLower, rfl, ?_⟩, ?_⟩, ?_⟩
  · exact (hlower (hchars c List.mem_cons_self)).2.2 halpha
  · exact List.forall_mem_map.mpr fun d hd => (hlower (hchars d hd)).1
  · rw [List.map_map]
    exact List.map_congr_left fun d hd => (hlower (hchars d hd)).2.1

theorem inAuthority_parseAuthority {k : SchemeKind} {followed : Bool} {a : Authority}
    {path : List Char} (h : parseAuthority k followed cs = .ok (a, path)) :
    (∀ c ∈ a.render, InAuthority c) ∧ (path = [] ∨ ∃ more, path = normalPath k more) := by
  obtain ⟨⟨x, hx⟩, ⟨y, hy⟩, ⟨z, hz⟩, hpath⟩ := authorityReads h
  refine ⟨inAuthority_render ?_ ?_ fun name hname => ?_, ?_⟩
  · rw [hx]
    exact encoded_encode spares_userInfo x
  · rw [hy]
    exact encoded_encode spares_userInfo y
  · rw [hname] at hz
    split at hz
    · exact inAuthority_special hz
    · exact inAuthority_other hz
  · rw [hpath]
    exact authorityPath_cases k _

theorem inAuthority_parseFile {a : Authority} {path : List Char}
    (h : parseFile cs = .ok (a, path)) :
    (∀ c ∈ a.render, InAuthority c) ∧ (path = [] ∨ ∃ more, path = normalPath .file more) := by
  obtain ⟨huser, hpassword, -, hhost, hpath⟩ := fileReads h
  refine ⟨inAuthority_render ?_ ?_ fun name hname => ?_, ?_⟩
  · rw [huser]
    simp [Encoded]
  · rw [hpassword]
    simp [Encoded]
  · rw [hname] at hhost
    rcases hhost with hempty | ⟨x, hx⟩
    · cases hempty
      simp
    · exact inAuthority_special hx
  · rw [hpath]
    exact authorityPath_cases .file _

/-- The authority that a text gives is no at sign alone. -/
theorem render_ne_at_of_readBody {followed : Bool} {a : Authority} {path : List Char}
    (h : readBody .other followed main = .ok (some a, path)) : a.render ≠ ['@'] := by
  unfold readBody at h
  dsimp only at h
  split at h
  · obtain ⟨⟨b, rest⟩, hread, heq⟩ := Outcome.map_eq_ok.mp h
    cases heq
    obtain ⟨x, hx⟩ := (authorityReads hread).host
    exact render_ne_at fun hat => parseOtherHost_ne_at (hat ▸ hx)
  · cases h
  · cases h

/-- The forms of a body: an authority with a path, a path, and an opaque path. -/
inductive BodyForm (main : List Char) : Option Authority → List Char → Prop
  | hosted (a : Authority) (path : List Char) (chars : ∀ c ∈ a.render, InAuthority c)
      (place : path = [] ∨ ∃ k more, path = normalPath k more) : BodyForm main (some a) path
  | rooted (k : SchemeKind) (more : List Char) : BodyForm main none (normalPath k more)
  | rootless : BodyForm main none (Percent.encode controls main)

theorem bodyForm {k : SchemeKind} {followed : Bool} {authority : Option Authority}
    {path : List Char} (h : readBody k followed main = .ok (authority, path)) :
    BodyForm main authority path := by
  have hhosted {k : SchemeKind} {cs : List Char}
      (h : (parseAuthority k followed cs).map (fun r => (some r.1, r.2)) = .ok (authority, path)) :
      BodyForm main authority path := by
    obtain ⟨⟨a, path⟩, hread, heq⟩ := Outcome.map_eq_ok.mp h
    obtain ⟨rfl, rfl⟩ := Prod.mk.inj heq
    obtain ⟨hchars, hpath⟩ := inAuthority_parseAuthority hread
    exact .hosted a path hchars (hpath.imp_right fun ⟨more, h⟩ => ⟨k, more, h⟩)
  cases k with
  | special port => exact hhosted h
  | file =>
      obtain ⟨⟨a, path⟩, hread, heq⟩ := Outcome.map_eq_ok.mp h
      obtain ⟨rfl, rfl⟩ := Prod.mk.inj heq
      obtain ⟨hchars, hpath⟩ := inAuthority_parseFile hread
      exact .hosted a path hchars (hpath.imp_right fun ⟨more, h⟩ => ⟨.file, more, h⟩)
  | other =>
      unfold readBody at h
      dsimp only at h
      split at h
      · exact hhosted h
      · cases h
        exact .rooted _ _
      · cases h
        exact .rootless

/-- A character of a path in normal form is visible and no mark. -/
theorem visible_of_encoded (h : Encoded Percent.path cs) :
    ∀ c ∈ cs, 0x20 < c.toNat ∧ c ≠ '?' ∧ c ≠ '#' := fun c hc =>
  Char.forall_ascii (p := fun c => Percent.path c = false → 0x20 < c.toNat ∧ c ≠ '?' ∧ c ≠ '#')
    (by decide +kernel) (h c hc).1 (h c hc).2

theorem BodyForm.chars {authority : Option Authority} {path : List Char}
    (h : BodyForm main authority path) (hmain : ∀ c ∈ main, c ≠ '?' ∧ c ≠ '#') :
    ∀ c ∈ path, 0x20 ≤ c.toNat ∧ c ≠ '?' ∧ c ≠ '#' := by
  have hnormal (k : SchemeKind) (more : List Char) :
      ∀ c ∈ normalPath k more, 0x20 ≤ c.toNat ∧ c ≠ '?' ∧ c ≠ '#' := fun c hc =>
    (visible_of_encoded (encoded_normalPath k more) c hc).imp_left Nat.le_of_lt
  cases h with
  | hosted a path hchars hplace =>
      rcases hplace with rfl | ⟨k, more, rfl⟩
      · simp
      · exact hnormal k more
  | rooted k more => exact hnormal k more
  | rootless =>
      have hdigit : ∀ n < 16, 0x20 ≤ (hexDigit n).toNat ∧ hexDigit n ≠ '?' ∧ hexDigit n ≠ '#' := by
        decide
      intro c hc
      rcases mem_encode hc with ⟨hmem, hascii, hcontrol⟩ | rfl | ⟨n, hn, rfl⟩
      · refine ⟨?_, hmain c hmem⟩
        simpa [controls] using (Bool.or_eq_false_iff.mp hcontrol).1
      · decide
      · exact hdigit n hn

theorem BodyForm.ends {authority : Option Authority} {path : List Char}
    (h : BodyForm main authority path) (hmain : EndsVisibly main) : EndsVisibly path := by
  have hnormal (k : SchemeKind) (more : List Char) : EndsVisibly (normalPath k more) :=
    .of_forall fun c hc => (visible_of_encoded (encoded_normalPath k more) c hc).1
  cases h with
  | hosted a path hchars hplace =>
      rcases hplace with rfl | ⟨k, more, rfl⟩
      · exact .of_forall (by simp)
      · exact hnormal k more
  | rooted k more => exact hnormal k more
  | rootless => exact hmain.encode

theorem spares_querySet (k : SchemeKind) : Spares (querySet k) := by
  unfold querySet
  split
  · exact ⟨by decide, by decide⟩
  · exact ⟨by decide, by decide⟩

/-- Every URL that is read keeps its parts apart when it is written. -/
theorem legible_of_parse (h : parse text = .ok u) : Legible u := by
  obtain ⟨main, query, fragment, hreads⟩ := parse_eq_ok.mp h
  have hform := bodyForm hreads.body
  obtain ⟨name, hname, hcut, hscheme⟩ := splitScheme_eq_some.mp hreads.cut
  refine
    { scheme := hscheme ▸ hname.lower.1
      lower := by rw [hscheme, hname.lower.2]
      authority := ?_
      path := hform.chars hreads.main_free
      named := fun hk a ha => render_ne_at_of_readBody (hk ▸ ha ▸ hreads.body)
      rooted := ?_
      ends := ?_
      query := ?_
      fragment := ?_ }
  · intro a ha
    rw [ha] at hform
    cases hform with
    | hosted _ _ hchars _ => exact hchars
  · intro hne
    generalize u.authority = authority, u.path = path at hform hne
    cases hform with
    | hosted _ _ _ hplace =>
        refine hplace.imp_right ?_
        rintro ⟨k, more, rfl⟩
        exact joinSegments_starts k _
    | rooted | rootless => exact absurd rfl hne
  · intro hquery hfragment
    rw [hreads.query, Option.map_eq_none_iff] at hquery
    rw [hreads.fragment, Option.map_eq_none_iff] at hfragment
    subst hquery hfragment
    refine hform.ends fun c hc => endsVisibly_significant text c ?_
    rw [hcut]
    simp [renderPart, List.getLast?_append, List.getLast?_cons, hc]
  · rw [hreads.query]
    rintro q hq
    obtain ⟨x, -, rfl⟩ := Option.map_eq_some_iff.mp hq
    exact encoded_encode (spares_querySet _) x
  · rw [hreads.fragment]
    rintro f hf
    obtain ⟨x, -, rfl⟩ := Option.map_eq_some_iff.mp hf
    exact encoded_encode spares_fragment x

end Reading

end Url
end EntityTrust
