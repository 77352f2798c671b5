import EntityTrust.Text.CanonicalTable

/-!
# Tables of domain names

**Mapping.**  Ranges of characters that domain names do not keep: refused ones (`x`), dropped ones
(`i`), ones replaced by the character at a fixed distance (a sign and a number), by the next
character for every other one of the range (`a`), or by given characters (`m`).

**Classes.**  Marks, which may not stand first; joining types; and classes of writing direction.
-/

namespace EntityTrust
namespace Domain

/-- What becomes of a character. -/
inductive Fate
  | refused
  | dropped
  | shifted (distance : Int)
  | alternating
  | replaced (codes : List Nat)

/-- A range of characters with one fate. -/
structure FateRange where
  low : Nat
  high : Nat
  fate : Fate

/-- The fate that a word of the table gives. -/
def fateOf (word : String) : Fate :=
  match word.toList with
  | ['i'] => .dropped
  | ['a'] => .alternating
  | '+' :: cs => .shifted (Text.natOf (String.ofList cs))
  | '-' :: cs => .shifted (-(Text.natOf (String.ofList cs) : Int))
  | 'm' :: cs => .replaced ((Text.fields ',' (String.ofList cs)).map Text.natOf)
  | _ => .refused

/-- Ranges from a list of distances, lengths and fates. -/
def fatesFrom (start : Nat) : List String → List FateRange
  | gap :: size :: word :: rest =>
      let low := start + Text.natOf gap
      let next := low + Text.natOf size
      ⟨low, next - 1, fateOf word⟩ :: fatesFrom next rest
  | _ => []

/-- Characters that domain names do not keep. -/
def fates : Array FateRange :=
  (fatesFrom 0 ([
    "65 26 +32 37 32 x 0 1 m32 7 1 m32,776 1 1 m97 2 1 i 1 1 m32,772 2 2 -128 0 1 m32,769 0 1 m956 2",
    "1 m32,807 0 1 m49 0 1 m111 1 1 m49,8260,52 0 1 m49,8260,50 0 1 m51,8260,52 1 23 +32 1 7 +32 33",
    "47 a 1 1 m105,775 1 2 m105,106 0 1 m309 1 1 m311 2 5 a 1 2 m108,183 0 7 a 1 1 m700,110 0 45 a 1",
    "1 m255 0 5 a 1 1 m115 1 1 m595 0 1 m387 1 1 m389 1 1 m596 0 1 m392 1 2 +205 0 1 m396 2 1 m477 0",
    "1 m601 0 1 m603 0 1 m402 1 1 m608 0 1 m611 1 1 m617 0 1 m616 0 1 m409 3 1 m623 0 1 m626 1 1 m629",
    "0 5 a 1 1 m640 0 1 m424 1 1 m643 2 1 m429 1 1 m648 0 1 m432 1 2 +217 0 1 m436 1 1 m438 1 1 m658",
    "0 1 m441 3 1 m445 7 3 m100,382 0 3 m108,106 0 3 m110,106 0 15 a 2 17 a 2 3 m100,122 0 1 m501 1 1",
    "m405 0 1 m447 0 39 a 1 1 m414 1 17 a 7 1 m11365 0 1 m572 1 1 m410 0 1 m11366 2 1 m578 1 1 m384 0",
    "1 m649 0 1 m652 0 9 a 97 1 m104 0 1 m614 0 1 m106 0 1 m114 0 1 m633 0 1 m635 0 1 m641 0 1 m119 0",
    "1 m121 31 1 m32,774 0 1 m32,775 0 1 m32,778 0 1 m32,808 0 1 m32,771 0 1 m32,779 2 1 m611 0 1",
    "m108 0 1 m115 0 1 m120 0 1 m661 91 2 -64 1 1 m787 0 1 m776,769 0 1 m953 9 1 i 32 1 m881 1 1 m883",
    "1 1 m697 1 1 m887 1 2 x 0 1 m32,953 3 1 m59 0 1 m1011 0 4 x 0 1 m32,769 0 1 m32,776,769 0 1 m940",
    "0 1 m183 0 3 +37 0 1 x 0 1 m972 0 1 x 0 2 +63 1 17 +32 0 1 x 0 9 +32 35 1 m983 0 1 m946 0 1 m952",
    "0 1 m965 0 1 m973 0 1 m971 0 1 m966 0 1 m960 1 23 a 1 1 m954 0 1 m961 0 1 m963 1 1 m952 0 1 m949",
    "1 1 m1016 1 1 m963 0 1 m1019 2 3 -130 0 16 +80 0 32 +32 48 33 a 9 53 a 1 1 m1231 0 13 a 2 95 a 1",
    "1 x 0 38 +48 0 2 x 46 1 m1381,1410 3 2 x 3 1 x 55 8 x 27 4 x 6 17 x 22 1 x 88 1 m1575,1652 0 1",
    "m1608,1652 0 1 m1735,1652 0 1 m1610,1652 100 1 x 48 2 x 59 2 x 101 14 x 59 2 x 49 2 x 15 1 x 28",
    "2 x 1 1 x 11 5 x 32 7 x 75 1 x 117 1 m2325,2364 0 1 m2326,2364 0 1 m2327,2364 0 1 m2332,2364 0 1",
    "m2337,2364 0 1 m2338,2364 0 1 m2347,2364 0 1 m2351,2364 36 1 x 8 2 x 2 2 x 22 1 x 7 1 x 1 3 x 4",
    "2 x 9 2 x 2 2 x 4 8 x 1 4 x 0 1 m2465,2492 0 1 m2466,2492 0 1 x 0 1 m2479,2492 4 2 x 25 2 x 3 1",
    "x 6 4 x 2 2 x 22 1 x 7 1 x 1 1 m2610,2620 0 1 x 1 1 m2616,2620 0 1 x 2 2 x 1 1 x 5 4 x 2 2 x 3 3",
    "x 1 7 x 0 1 m2582,2620 0 1 m2583,2620 0 1 m2588,2620 1 1 x 0 1 m2603,2620 0 7 x 17 10 x 3 1 x 9",
    "1 x 3 1 x 22 1 x 7 1 x 2 1 x 5 2 x 10 1 x 3 1 x 3 2 x 1 15 x 4 2 x 12 7 x 7 1 x 3 1 x 8 2 x 2 2",
    "x 22 1 x 7 1 x 2 1 x 5 2 x 9 2 x 2 2 x 3 7 x 3 4 x 0 1 m2849,2876 0 1 m2850,2876 0 1 x 5 2 x 18",
    "10 x 2 1 x 6 3 x 3 1 x 4 3 x 2 1 x 1 1 x 2 3 x 2 3 x 3 3 x 12 4 x 5 3 x 3 1 x 4 2 x 1 6 x 1 14 x",
    "21 5 x 13 1 x 3 1 x 23 1 x 16 2 x 9 1 x 3 1 x 4 7 x 2 1 x 3 1 x 2 2 x 4 2 x 10 7 x 22 1 x 3 1 x",
    "23 1 x 10 1 x 5 2 x 9 1 x 3 1 x 4 7 x 2 5 x 3 1 x 4 2 x 10 1 x 3 12 x 13 1 x 3 1 x 51 1 x 3 1 x",
    "6 4 x 16 2 x 26 1 x 3 1 x 18 3 x 24 1 x 9 1 x 1 2 x 7 3 x 1 4 x 6 1 x 1 1 x 8 6 x 10 2 x 3 12 x",
    "50 1 m3661,3634 7 4 x 29 37 x 2 1 x 1 1 x 5 1 x 24 1 x 1 1 x 12 1 m3789,3762 10 2 x 5 1 x 1 1 x",
    "7 1 x 10 2 x 0 1 m3755,3737 0 1 m3755,3745 2 32 x 12 1 m3851 54 1 m3906,4023 4 1 x 4 1",
    "m3916,4023 4 1 m3921,4023 4 1 m3926,4023 4 1 m3931,4023 12 1 m3904,4021 3 4 x 2 1 m3953,3954 1 1",
    "m3953,3956 0 1 m4018,3968 0 1 m4018,3953,3968 0 1 m4019,3968 0 1 m4019,3953,3968 7 1 m3953,3968",
    "17 1 m3986,4023 4 1 x 4 1 m3996,4023 4 1 m4001,4023 4 1 m4006,4023 4 1 m4011,4023 12 1",
    "m3984,4021 3 1 x 15 1 x 13 37 x 160 38 +7264 0 1 x 0 1 m11559 0 5 x 0 1 m11565 0 2 x 44 1 m4316",
    "98 2 i 232 1 x 4 2 x 7 1 x 1 1 x 4 2 x 41 1 x 4 2 x 33 1 x 4 2 x 7 1 x 1 1 x 4 2 x 15 1 x 57 1 x",
    "4 2 x 67 2 x 32 3 x 26 6 x 86 2 x 0 6 -8 0 2 x 640 1 x 28 3 x 89 7 x 22 9 x 24 9 x 20 12 x 13 1",
    "x 3 1 x 2 12 x 52 2 i 40 2 x 10 6 x 10 6 x 11 5 i 10 6 x 89 7 x 43 5 x 70 10 x 31 1 x 12 4 x 12",
    "4 x 1 3 x 42 2 x 5 11 x 44 4 x 26 6 x 11 3 x 62 2 x 65 1 x 29 2 x 11 6 x 10 6 x 14 2 x 46 2 x 12",
    "20 x 77 1 x 166 8 x 60 3 x 15 3 x 51 1 m1074 0 1 m1076 0 1 m1086 0 2 -6210 0 1 m1090 0 1 m1098 0",
    "1 m1123 0 1 m42571 0 1 m7306 1 5 x 0 43 -3008 0 2 x 0 3 -3008 8 8 x 43 5 x 44 1 m97 0 1 m230 0 1",
    "m98 1 2 -7372 0 1 m477 0 8 -7372 1 1 m111 0 1 m547 0 1 m112 0 1 m114 0 2 -7372 0 1 m119 0 1 m97",
    "0 2 -6900 0 1 m7426 0 1 m98 0 2 -7396 0 1 m601 0 2 -6896 0 1 m103 1 1 m107 0 1 m109 0 1 m331 0 1",
    "m111 0 1 m596 0 2 -62 0 1 m112 0 2 -7395 0 1 m7453 0 1 m623 0 1 m118 0 1 m7461 0 3 -6571 0 2",
    "-6554 0 1 m105 0 1 m114 0 2 -7407 0 2 -6580 0 1 m961 0 2 -6563 13 1 m1085 34 1 m594 0 1 m99 0 1",
    "m597 0 1 m240 0 1 m604 0 1 m102 0 1 m607 0 1 m609 0 1 m613 0 3 -6972 0 1 m7547 0 1 m669 0 1 m621",
    "0 1 m7557 0 1 m671 0 1 m625 0 1 m624 0 4 -6972 0 1 m632 0 2 -6961 0 1 m427 0 2 -6957 0 1 m7452 0",
    "2 -6958 0 1 m122 0 3 -6956 0 1 m952 64 149 a 5 1 m97,702 0 1 m7777 2 1 m223 1 95 a 9 8 -8 6 2 x",
    "0 6 -8 0 2 x 8 8 -8 8 8 -8 6 2 x 0 6 -8 0 2 x 8 1 x 0 1 m8017 0 1 x 0 1 m8019 0 1 x 0 1 m8021 0",
    "1 x 0 1 m8023 8 8 -8 1 1 m940 1 1 m941 1 1 m942 1 1 m943 1 1 m972 1 1 m973 1 1 m974 0 2 x 0 1",
    "m7936,953 0 1 m7937,953 0 1 m7938,953 0 1 m7939,953 0 1 m7940,953 0 1 m7941,953 0 1 m7942,953 0",
    "1 m7943,953 0 1 m7936,953 0 1 m7937,953 0 1 m7938,953 0 1 m7939,953 0 1 m7940,953 0 1 m7941,953",
    "0 1 m7942,953 0 1 m7943,953 0 1 m7968,953 0 1 m7969,953 0 1 m7970,953 0 1 m7971,953 0 1",
    "m7972,953 0 1 m7973,953 0 1 m7974,953 0 1 m7975,953 0 1 m7968,953 0 1 m7969,953 0 1 m7970,953 0",
    "1 m7971,953 0 1 m7972,953 0 1 m7973,953 0 1 m7974,953 0 1 m7975,953 0 1 m8032,953 0 1 m8033,953",
    "0 1 m8034,953 0 1 m8035,953 0 1 m8036,953 0 1 m8037,953 0 1 m8038,953 0 1 m8039,953 0 1",
    "m8032,953 0 1 m8033,953 0 1 m8034,953 0 1 m8035,953 0 1 m8036,953 0 1 m8037,953 0 1 m8038,953 0",
    "1 m8039,953 2 1 m8048,953 0 1 m945,953 0 1 m940,953 0 1 x 1 1 m8118,953 0 2 -8 0 1 m8048 0 1",
    "m940 0 1 m945,953 0 1 m32,787 0 1 m953 0 1 m32,787 0 1 m32,834 0 1 m32,776,834 0 1 m8052,953 0 1",
    "m951,953 0 1 m942,953 0 1 x 1 1 m8134,953 0 1 m8050 0 1 m941 0 1 m8052 0 1 m942 0 1 m951,953 0 1",
    "m32,787,768 0 1 m32,787,769 0 1 m32,787,834 3 1 m912 0 2 x 2 2 -8 0 1 m8054 0 1 m943 0 1 x 0 1",
    "m32,788,768 0 1 m32,788,769 0 1 m32,788,834 3 1 m944 4 2 -8 0 1 m8058 0 1 m973 0 1 m8165 0 1",
    "m32,776,768 0 1 m32,776,769 0 1 m96 0 2 x 0 1 m8060,953 0 1 m969,953 0 1 m974,953 0 1 x 1 1",
    "m8182,953 0 1 m8056 0 1 m972 0 1 m8060 0 1 m974 0 1 m969,953 0 1 m32,769 0 1 m32,788 0 1 x 0 11",
    "m32 0 1 i 2 2 x 1 1 m8208 5 1 m32,819 12 3 x 1 7 x 0 1 m32 3 1 m8242,8242 0 1 m8242,8242,8242 1",
    "1 m8245,8245 0 1 m8245,8245,8245 4 1 m33,33 1 1 m32,773 8 1 m63,63 0 1 m63,33 0 1 m33,63 13 1",
    "m8242,8242,8242,8242 7 1 m32 0 5 i 0 5 x 0 6 i 0 1 m48 0 1 m105 0 2 x 0 6 -8256 0 1 m43 0 1",
    "m8722 0 1 m61 0 2 -8277 0 1 m110 0 10 -8272 0 1 m43 0 1 m8722 0 1 m61 0 2 -8293 0 1 x 0 1 m97 0",
    "1 m101 0 1 m111 0 1 m120 0 1 m601 0 1 m104 0 4 -8235 0 1 m112 0 2 -8232 0 3 x 8 1 m114,115 25 14",
    "x 33 15 x 0 1 m97,47,99 0 1 m97,47,115 0 1 m99 0 1 m176,99 1 1 m99,47,111 0 1 m99,47,117 0 1",
    "m603 1 1 m176,102 0 2 -8355 0 3 m104 0 1 m295 0 2 m105 0 2 m108 1 1 m110 0 1 m110,111 2 3 -8361",
    "0 2 m114 2 1 m115,109 0 1 m116,101,108 0 1 m116,109 1 1 m122 1 1 m969 1 1 m122 1 1 m107 0 1 m229",
    "0 2 -8394 1 2 m101 0 1 m102 0 1 m8526 0 1 m109 0 1 m111 0 4 -7013 0 1 m105 1 1 m102,97,120 0 1",
    "m960 0 2 m947 0 1 m960 0 1 m8721 4 2 m100 0 1 m101 0 2 -8415 6 1 m49,8260,55 0 1 m49,8260,57 0 1",
    "m49,8260,49,48 0 1 m49,8260,51 0 1 m50,8260,51 0 1 m49,8260,53 0 1 m50,8260,53 0 1 m51,8260,53 0",
    "1 m52,8260,53 0 1 m49,8260,54 0 1 m53,8260,54 0 1 m49,8260,56 0 1 m51,8260,56 0 1 m53,8260,56 0",
    "1 m55,8260,56 0 1 m49,8260 0 1 m105 0 1 m105,105 0 1 m105,105,105 0 1 m105,118 0 1 m118 0 1",
    "m118,105 0 1 m118,105,105 0 1 m118,105,105,105 0 1 m105,120 0 1 m120 0 1 m120,105 0 1",
    "m120,105,105 0 1 m108 0 2 -8458 0 1 m109 0 1 m105 0 1 m105,105 0 1 m105,105,105 0 1 m105,118 0 1",
    "m118 0 1 m118,105 0 1 m118,105,105 0 1 m118,105,105,105 0 1 m105,120 0 1 m120 0 1 m120,105 0 1",
    "m120,105,105 0 1 m108 0 2 -8474 0 1 m109 3 1 m8580 5 1 m48,8260,51 2 4 x 156 1 m8747,8747 0 1",
    "m8747,8747,8747 1 1 m8750,8750 0 1 m8750,8750,8750 248 2 +3295 255 22 x 11 21 x 0 9 -9263 0 1",
    "m49,48 0 1 m49,49 0 1 m49,50 0 1 m49,51 0 1 m49,52 0 1 m49,53 0 1 m49,54 0 1 m49,55 0 1 m49,56 0",
    "1 m49,57 0 1 m50,48 0 1 m40,49,41 0 1 m40,50,41 0 1 m40,51,41 0 1 m40,52,41 0 1 m40,53,41 0 1",
    "m40,54,41 0 1 m40,55,41 0 1 m40,56,41 0 1 m40,57,41 0 1 m40,49,48,41 0 1 m40,49,49,41 0 1",
    "m40,49,50,41 0 1 m40,49,51,41 0 1 m40,49,52,41 0 1 m40,49,53,41 0 1 m40,49,54,41 0 1",
    "m40,49,55,41 0 1 m40,49,56,41 0 1 m40,49,57,41 0 1 m40,50,48,41 0 20 x 0 1 m40,97,41 0 1",
    "m40,98,41 0 1 m40,99,41 0 1 m40,100,41 0 1 m40,101,41 0 1 m40,102,41 0 1 m40,103,41 0 1",
    "m40,104,41 0 1 m40,105,41 0 1 m40,106,41 0 1 m40,107,41 0 1 m40,108,41 0 1 m40,109,41 0 1",
    "m40,110,41 0 1 m40,111,41 0 1 m40,112,41 0 1 m40,113,41 0 1 m40,114,41 0 1 m40,115,41 0 1",
    "m40,116,41 0 1 m40,117,41 0 1 m40,118,41 0 1 m40,119,41 0 1 m40,120,41 0 1 m40,121,41 0 1",
    "m40,122,41 0 26 -9301 0 26 -9327 0 1 m48 1313 1 m8747,8747,8747,8747 103 1 m58,58,61 0 1 m61,61",
    "0 1 m61,61,61 101 1 m10973,824 151 2 x 138 48 +48 48 1 m11361 1 1 m619 0 1 m7549 0 1 m637 2 5 a",
    "1 1 m593 0 1 m625 0 1 m592 0 1 m594 1 1 m11379 2 1 m11382 6 1 m106 0 1 m118 0 2 -10815 0 99 a 8",
    "1 m11500 1 1 m11502 4 1 m11507 1 5 x 45 1 x 1 5 x 1 2 x 56 7 x 0 1 m11617 1 14 x 24 9 x 7 1 x 7",
    "1 x 7 1 x 7 1 x 7 1 x 7 1 x 7 1 x 7 1 x 126 34 x 26 1 x 4 1 m27597 83 1 m40863 0 12 x 0 1 m19968",
    "0 1 m20008 0 1 m20022 0 1 m20031 0 1 m20057 0 1 m20101 0 1 m20108 0 1 m20128 0 1 m20154 0 1",
    "m20799 0 1 m20837 0 1 m20843 0 1 m20866 0 1 m20886 0 1 m20907 0 1 m20960 0 1 m20981 0 1 m20992 0",
    "1 m21147 0 1 m21241 0 1 m21269 0 1 m21274 0 1 m21304 0 1 m21313 0 1 m21340 0 1 m21353 0 1 m21378",
    "0 1 m21430 0 1 m21448 0 1 m21475 0 1 m22231 0 1 m22303 0 1 m22763 0 1 m22786 0 1 m22794 0 1",
    "m22805 0 1 m22823 0 1 m22899 0 1 m23376 0 1 m23424 0 1 m23544 0 1 m23567 0 1 m23586 0 1 m23608 0",
    "1 m23662 0 1 m23665 0 1 m24027 0 1 m24037 0 1 m24049 0 1 m24062 0 1 m24178 0 1 m24186 0 1 m24191",
    "0 1 m24308 0 1 m24318 0 1 m24331 0 1 m24339 0 1 m24400 0 1 m24417 0 1 m24435 0 1 m24515 0 1",
    "m25096 0 1 m25142 0 1 m25163 0 1 m25903 0 1 m25908 0 1 m25991 0 1 m26007 0 1 m26020 0 1 m26041 0",
    "1 m26080 0 1 m26085 0 1 m26352 0 1 m26376 0 1 m26408 0 1 m27424 0 1 m27490 0 1 m27513 0 1 m27571",
    "0 1 m27595 0 1 m27604 0 1 m27611 0 1 m27663 0 1 m27668 0 1 m27700 0 1 m28779 0 1 m29226 0 1",
    "m29238 0 1 m29243 0 1 m29247 0 1 m29255 0 1 m29273 0 1 m29275 0 1 m29356 0 1 m29572 0 1 m29577 0",
    "1 m29916 0 1 m29926 0 1 m29976 0 1 m29983 0 1 m29992 0 1 m30000 0 1 m30091 0 1 m30098 0 1 m30326",
    "0 1 m30333 0 1 m30382 0 1 m30399 0 1 m30446 0 1 m30683 0 1 m30690 0 1 m30707 0 1 m31034 0 1",
    "m31160 0 1 m31166 0 1 m31348 0 1 m31435 0 1 m31481 0 1 m31859 0 1 m31992 0 1 m32566 0 1 m32593 0",
    "1 m32650 0 1 m32701 0 1 m32769 0 1 m32780 0 1 m32786 0 1 m32819 0 1 m32895 0 1 m32905 0 1 m33251",
    "0 1 m33258 0 1 m33267 0 1 m33276 0 1 m33292 0 1 m33307 0 1 m33311 0 1 m33390 0 1 m33394 0 1",
    "m33400 0 1 m34381 0 1 m34411 0 1 m34880 0 1 m34892 0 1 m34915 0 1 m35198 0 1 m35211 0 1 m35282 0",
    "1 m35328 0 1 m35895 0 1 m35910 0 1 m35925 0 1 m35960 0 1 m35997 0 1 m36196 0 1 m36208 0 1 m36275",
    "0 1 m36523 0 1 m36554 0 1 m36763 0 1 m36784 0 1 m36789 0 1 m37009 0 1 m37193 0 1 m37318 0 1",
    "m37324 0 1 m37329 0 1 m38263 0 1 m38272 0 1 m38428 0 1 m38582 0 1 m38585 0 1 m38632 0 1 m38737 0",
    "1 m38750 0 1 m38754 0 1 m38761 0 1 m38859 0 1 m38893 0 1 m38899 0 1 m38913 0 1 m39080 0 1 m39131",
    "0 1 m39135 0 1 m39318 0 1 m39321 0 1 m39340 0 1 m39592 0 1 m39640 0 1 m39647 0 1 m39717 0 1",
    "m39727 0 1 m39730 0 1 m39740 0 1 m39770 0 1 m40165 0 1 m40565 0 1 m40575 0 1 m40613 0 1 m40635 0",
    "1 m40643 0 1 m40653 0 1 m40657 0 1 m40697 0 1 m40701 0 1 m40718 0 1 m40723 0 1 m40736 0 1 m40763",
    "0 1 m40778 0 1 m40786 0 1 m40845 0 1 m40860 0 1 m40864 0 42 x 0 1 m32 1 1 m46 51 1 m12306 1 1",
    "m21313 0 2 +8971 5 1 x 86 2 x 2 1 m32,12441 0 1 m32,12442 2 1 m12424,12426 95 1 m12467,12488 0 5",
    "x 43 1 x 0 2 -8241 0 1 m4522 0 1 m4354 0 2 -8073 0 3 -8244 0 6 -8074 0 1 m4378 0 3 -8251 0 1",
    "m4385 0 10 -8252 0 21 -8174 0 1 i 0 2 -8273 0 2 -8096 0 1 m4556 0 1 m4558 0 1 m4563 0 1 m4567 0",
    "1 m4569 0 1 m4380 0 1 m4573 0 1 m4575 0 2 -8276 0 1 m4384 0 2 -8274 0 1 m4391 0 1 m4393 0 5",
    "-8269 0 1 m4402 0 1 m4406 0 1 m4416 0 1 m4423 0 1 m4428 0 2 -8081 0 3 -8237 0 2 -8195 0 1 m4488",
    "0 2 -8185 0 1 m4500 0 1 m4510 0 1 m4513 0 1 x 2 1 m19968 0 1 m20108 0 1 m19977 0 1 m22235 0 1",
    "m19978 0 1 m20013 0 1 m19979 0 1 m30002 0 1 m20057 0 1 m19993 0 1 m19969 0 1 m22825 0 1 m22320 0",
    "1 m20154 70 10 x 16 1 m40,4352,41 0 1 m40,4354,41 0 1 m40,4355,41 0 1 m40,4357,41 0 1",
    "m40,4358,41 0 1 m40,4359,41 0 1 m40,4361,41 0 1 m40,4363,41 0 1 m40,4364,41 0 1 m40,4366,41 0 1",
    "m40,4367,41 0 1 m40,4368,41 0 1 m40,4369,41 0 1 m40,4370,41 0 1 m40,44032,41 0 1 m40,45208,41 0",
    "1 m40,45796,41 0 1 m40,46972,41 0 1 m40,47560,41 0 1 m40,48148,41 0 1 m40,49324,41 0 1",
    "m40,50500,41 0 1 m40,51088,41 0 1 m40,52264,41 0 1 m40,52852,41 0 1 m40,53440,41 0 1",
    "m40,54028,41 0 1 m40,54616,41 0 1 m40,51452,41 0 1 m40,50724,51204,41 0 1 m40,50724,54980,41 0 1",
    "x 0 1 m40,19968,41 0 1 m40,20108,41 0 1 m40,19977,41 0 1 m40,22235,41 0 1 m40,20116,41 0 1",
    "m40,20845,41 0 1 m40,19971,41 0 1 m40,20843,41 0 1 m40,20061,41 0 1 m40,21313,41 0 1",
    "m40,26376,41 0 1 m40,28779,41 0 1 m40,27700,41 0 1 m40,26408,41 0 1 m40,37329,41 0 1",
    "m40,22303,41 0 1 m40,26085,41 0 1 m40,26666,41 0 1 m40,26377,41 0 1 m40,31038,41 0 1",
    "m40,21517,41 0 1 m40,29305,41 0 1 m40,36001,41 0 1 m40,31069,41 0 1 m40,21172,41 0 1",
    "m40,20195,41 0 1 m40,21628,41 0 1 m40,23398,41 0 1 m40,30435,41 0 1 m40,20225,41 0 1",
    "m40,36039,41 0 1 m40,21332,41 0 1 m40,31085,41 0 1 m40,20241,41 0 1 m40,33258,41 0 1",
    "m40,33267,41 0 1 m21839 0 1 m24188 0 1 m25991 0 1 m31631 8 1 m112,116,101 0 1 m50,49 0 1 m50,50",
    "0 1 m50,51 0 1 m50,52 0 1 m50,53 0 1 m50,54 0 1 m50,55 0 1 m50,56 0 1 m50,57 0 1 m51,48 0 1",
    "m51,49 0 1 m51,50 0 1 m51,51 0 1 m51,52 0 1 m51,53 0 1 m4352 0 2 -8543 0 3 -8542 0 1 m4361 0 2",
    "-8540 0 5 -8539 0 1 m44032 0 1 m45208 0 1 m45796 0 1 m46972 0 1 m47560 0 1 m48148 0 1 m49324 0 1",
    "m50500 0 1 m51088 0 1 m52264 0 1 m52852 0 1 m53440 0 1 m54028 0 1 m54616 0 1 m52280,44256 0 1",
    "m51452,51032 0 1 m50864 1 1 m19968 0 1 m20108 0 1 m19977 0 1 m22235 0 1 m20116 0 1 m20845 0 1",
    "m19971 0 1 m20843 0 1 m20061 0 1 m21313 0 1 m26376 0 1 m28779 0 1 m27700 0 1 m26408 0 1 m37329 0",
    "1 m22303 0 1 m26085 0 1 m26666 0 1 m26377 0 1 m31038 0 1 m21517 0 1 m29305 0 1 m36001 0 1 m31069",
    "0 1 m21172 0 1 m31192 0 1 m30007 0 1 m22899 0 1 m36969 0 1 m20778 0 1 m21360 0 1 m27880 0 1",
    "m38917 0 1 m20241 0 1 m20889 0 1 m27491 0 1 m19978 0 1 m20013 0 1 m19979 0 1 m24038 0 1 m21491 0",
    "1 m21307 0 1 m23447 0 1 m23398 0 1 m30435 0 1 m20225 0 1 m36039 0 1 m21332 0 1 m22812 0 1 m51,54",
    "0 1 m51,55 0 1 m51,56 0 1 m51,57 0 1 m52,48 0 1 m52,49 0 1 m52,50 0 1 m52,51 0 1 m52,52 0 1",
    "m52,53 0 1 m52,54 0 1 m52,55 0 1 m52,56 0 1 m52,57 0 1 m53,48 0 1 m49,26376 0 1 m50,26376 0 1",
    "m51,26376 0 1 m52,26376 0 1 m53,26376 0 1 m54,26376 0 1 m55,26376 0 1 m56,26376 0 1 m57,26376 0",
    "1 m49,48,26376 0 1 m49,49,26376 0 1 m49,50,26376 0 1 m104,103 0 1 m101,114,103 0 1 m101,118 0 1",
    "m108,116,100 0 1 m12450 0 1 m12452 0 1 m12454 0 1 m12456 0 2 -554 0 1 m12461 0 1 m12463 0 1",
    "m12465 0 1 m12467 0 1 m12469 0 1 m12471 0 1 m12473 0 1 m12475 0 1 m12477 0 1 m12479 0 1 m12481 0",
    "1 m12484 0 1 m12486 0 1 m12488 0 6 -538 0 1 m12498 0 1 m12501 0 1 m12504 0 1 m12507 0 5 -528 0 1",
    "m12516 0 1 m12518 0 6 -525 0 4 -524 0 1 m20196,21644 0 1 m12450,12497,12540,12488 0 1",
    "m12450,12523,12501,12449 0 1 m12450,12531,12506,12450 0 1 m12450,12540,12523 0 1",
    "m12452,12491,12531,12464 0 1 m12452,12531,12481 0 1 m12454,12457,12531 0 1",
    "m12456,12473,12463,12540,12489 0 1 m12456,12540,12459,12540 0 1 m12458,12531,12473 0 1",
    "m12458,12540,12512 0 1 m12459,12452,12522 0 1 m12459,12521,12483,12488 0 1",
    "m12459,12525,12522,12540 0 1 m12460,12525,12531 0 1 m12460,12531,12510 0 1 m12462,12460 0 1",
    "m12462,12491,12540 0 1 m12461,12517,12522,12540 0 1 m12462,12523,12480,12540 0 1 m12461,12525 0",
    "1 m12461,12525,12464,12521,12512 0 1 m12461,12525,12513,12540,12488,12523 0 1",
    "m12461,12525,12527,12483,12488 0 1 m12464,12521,12512 0 1 m12464,12521,12512,12488,12531 0 1",
    "m12463,12523,12476,12452,12525 0 1 m12463,12525,12540,12493 0 1 m12465,12540,12473 0 1",
    "m12467,12523,12490 0 1 m12467,12540,12509 0 1 m12469,12452,12463,12523 0 1",
    "m12469,12531,12481,12540,12512 0 1 m12471,12522,12531,12464 0 1 m12475,12531,12481 0 1",
    "m12475,12531,12488 0 1 m12480,12540,12473 0 1 m12487,12471 0 1 m12489,12523 0 1 m12488,12531 0 1",
    "m12490,12494 0 1 m12494,12483,12488 0 1 m12495,12452,12484 0 1 m12497,12540,12475,12531,12488 0",
    "1 m12497,12540,12484 0 1 m12496,12540,12524,12523 0 1 m12500,12450,12473,12488,12523 0 1",
    "m12500,12463,12523 0 1 m12500,12467 0 1 m12499,12523 0 1 m12501,12449,12521,12483,12489 0 1",
    "m12501,12451,12540,12488 0 1 m12502,12483,12471,12455,12523 0 1 m12501,12521,12531 0 1",
    "m12504,12463,12479,12540,12523 0 1 m12506,12477 0 1 m12506,12491,12498 0 1 m12504,12523,12484 0",
    "1 m12506,12531,12473 0 1 m12506,12540,12472 0 1 m12505,12540,12479 0 1 m12509,12452,12531,12488",
    "0 1 m12508,12523,12488 0 1 m12507,12531 0 1 m12509,12531,12489 0 1 m12507,12540,12523 0 1",
    "m12507,12540,12531 0 1 m12510,12452,12463,12525 0 1 m12510,12452,12523 0 1 m12510,12483,12495 0",
    "1 m12510,12523,12463 0 1 m12510,12531,12471,12519,12531 0 1 m12511,12463,12525,12531 0 1",
    "m12511,12522 0 1 m12511,12522,12496,12540,12523 0 1 m12513,12460 0 1 m12513,12460,12488,12531 0",
    "1 m12513,12540,12488,12523 0 1 m12516,12540,12489 0 1 m12516,12540,12523 0 1 m12518,12450,12531",
    "0 1 m12522,12483,12488,12523 0 1 m12522,12521 0 1 m12523,12500,12540 0 1",
    "m12523,12540,12502,12523 0 1 m12524,12512 0 1 m12524,12531,12488,12466,12531 0 1",
    "m12527,12483,12488 0 1 m48,28857 0 1 m49,28857 0 1 m50,28857 0 1 m51,28857 0 1 m52,28857 0 1",
    "m53,28857 0 1 m54,28857 0 1 m55,28857 0 1 m56,28857 0 1 m57,28857 0 1 m49,48,28857 0 1",
    "m49,49,28857 0 1 m49,50,28857 0 1 m49,51,28857 0 1 m49,52,28857 0 1 m49,53,28857 0 1",
    "m49,54,28857 0 1 m49,55,28857 0 1 m49,56,28857 0 1 m49,57,28857 0 1 m50,48,28857 0 1",
    "m50,49,28857 0 1 m50,50,28857 0 1 m50,51,28857 0 1 m50,52,28857 0 1 m104,112,97 0 1 m100,97 0 1",
    "m97,117 0 1 m98,97,114 0 1 m111,118 0 1 m112,99 0 1 m100,109 0 1 m100,109,50 0 1 m100,109,51 0 1",
    "m105,117 0 1 m24179,25104 0 1 m26157,21644 0 1 m22823,27491 0 1 m26126,27835 0 1",
    "m26666,24335,20250,31038 0 1 m112,97 0 1 m110,97 0 1 m956,97 0 1 m109,97 0 1 m107,97 0 1 m107,98",
    "0 1 m109,98 0 1 m103,98 0 1 m99,97,108 0 1 m107,99,97,108 0 1 m112,102 0 1 m110,102 0 1 m956,102",
    "0 1 m956,103 0 1 m109,103 0 1 m107,103 0 1 m104,122 0 1 m107,104,122 0 1 m109,104,122 0 1",
    "m103,104,122 0 1 m116,104,122 0 1 m956,108 0 1 m109,108 0 1 m100,108 0 1 m107,108 0 1 m102,109 0",
    "1 m110,109 0 1 m956,109 0 1 m109,109 0 1 m99,109 0 1 m107,109 0 1 m109,109,50 0 1 m99,109,50 0 1",
    "m109,50 0 1 m107,109,50 0 1 m109,109,51 0 1 m99,109,51 0 1 m109,51 0 1 m107,109,51 0 1",
    "m109,8725,115 0 1 m109,8725,115,50 0 1 m112,97 0 1 m107,112,97 0 1 m109,112,97 0 1 m103,112,97 0",
    "1 m114,97,100 0 1 m114,97,100,8725,115 0 1 m114,97,100,8725,115,50 0 1 m112,115 0 1 m110,115 0 1",
    "m956,115 0 1 m109,115 0 1 m112,118 0 1 m110,118 0 1 m956,118 0 1 m109,118 0 1 m107,118 0 1",
    "m109,118 0 1 m112,119 0 1 m110,119 0 1 m956,119 0 1 m109,119 0 1 m107,119 0 1 m109,119 0 1",
    "m107,969 0 1 m109,969 0 1 x 0 1 m98,113 0 1 m99,99 0 1 m99,100 0 1 m99,8725,107,103 0 1 x 0 1",
    "m100,98 0 1 m103,121 0 1 m104,97 0 1 m104,112 0 1 m105,110 0 1 m107,107 0 1 m107,109 0 1",
    "m107,116 0 1 m108,109 0 1 m108,110 0 1 m108,111,103 0 1 m108,120 0 1 m109,98 0 1 m109,105,108 0",
    "1 m109,111,108 0 1 m112,104 0 1 x 0 1 m112,112,109 0 1 m112,114 0 1 m115,114 0 1 m115,118 0 1",
    "m119,98 0 1 m118,8725,109 0 1 m97,8725,109 0 1 m49,26085 0 1 m50,26085 0 1 m51,26085 0 1",
    "m52,26085 0 1 m53,26085 0 1 m54,26085 0 1 m55,26085 0 1 m56,26085 0 1 m57,26085 0 1 m49,48,26085",
    "0 1 m49,49,26085 0 1 m49,50,26085 0 1 m49,51,26085 0 1 m49,52,26085 0 1 m49,53,26085 0 1",
    "m49,54,26085 0 1 m49,55,26085 0 1 m49,56,26085 0 1 m49,57,26085 0 1 m50,48,26085 0 1",
    "m50,49,26085 0 1 m50,50,26085 0 1 m50,51,26085 0 1 m50,52,26085 0 1 m50,53,26085 0 1",
    "m50,54,26085 0 1 m50,55,26085 0 1 m50,56,26085 0 1 m50,57,26085 0 1 m51,48,26085 0 1",
    "m51,49,26085 0 1 m103,97,108 28813 3 x 55 9 x 348 20 x 0 45 a 19 27 a 1 1 m1098 0 1 m1100 90 8 x",
    "34 13 a 3 61 a 1 1 m42863 8 1 m42874 1 1 m42876 1 1 m7545 0 9 a 4 1 m42892 1 1 m613 2 1 m42897 1",
    "1 m42899 3 19 a 1 1 m614 0 1 m604 0 1 m609 0 1 m620 0 1 m618 1 1 m670 0 1 m647 0 1 m669 0 1",
    "m43859 0 15 a 1 1 m42900 0 1 m642 0 1 m7566 0 1 m42952 1 1 m42954 1 1 m612 0 15 a 1 1 m411 0 20",
    "x 0 1 m115 0 1 m99 0 1 m102 0 1 m113 0 1 m42998 2 1 m295 0 1 m339 51 3 x 10 6 x 56 8 x 70 8 x 12",
    "6 x 116 11 x 30 3 x 78 1 x 11 4 x 33 1 x 55 9 x 14 2 x 10 2 x 103 24 x 28 10 x 6 2 x 6 2 x 6 9 x",
    "7 1 x 7 1 x 44 1 m42791 0 1 m43831 0 1 m619 0 1 m43858 9 1 m653 2 4 x 0 80 -38864 46 2 x 10 6 x",
    "11172 12 x 23 4 x 49 8452 x 0 1 m35912 0 1 m26356 0 1 m36554 0 1 m36040 0 1 m28369 0 1 m20018 0",
    "1 m21477 0 2 m40860 0 1 m22865 0 1 m37329 0 1 m21895 0 1 m22856 0 1 m25078 0 1 m30313 0 1 m32645",
    "0 1 m34367 0 1 m34746 0 1 m35064 0 1 m37007 0 1 m27138 0 1 m27931 0 1 m28889 0 1 m29662 0 1",
    "m33853 0 1 m37226 0 1 m39409 0 1 m20098 0 1 m21365 0 1 m27396 0 1 m29211 0 1 m34349 0 1 m40478 0",
    "1 m23888 0 1 m28651 0 1 m34253 0 1 m35172 0 1 m25289 0 1 m33240 0 1 m34847 0 1 m24266 0 1 m26391",
    "0 1 m28010 0 1 m29436 0 1 m37070 0 1 m20358 0 1 m20919 0 1 m21214 0 1 m25796 0 1 m27347 0 1",
    "m29200 0 1 m30439 0 1 m32769 0 1 m34310 0 1 m34396 0 1 m36335 0 1 m38706 0 1 m39791 0 1 m40442 0",
    "1 m30860 0 1 m31103 0 1 m32160 0 1 m33737 0 1 m37636 0 1 m40575 0 1 m35542 0 1 m22751 0 1 m24324",
    "0 1 m31840 0 1 m32894 0 1 m29282 0 1 m30922 0 1 m36034 0 1 m38647 0 1 m22744 0 1 m23650 0 1",
    "m27155 0 1 m28122 0 1 m28431 0 1 m32047 0 1 m32311 0 1 m38475 0 1 m21202 0 1 m32907 0 1 m20956 0",
    "1 m20940 0 1 m31260 0 1 m32190 0 1 m33777 0 1 m38517 0 1 m35712 0 1 m25295 0 1 m27138 0 1 m35582",
    "0 1 m20025 0 1 m23527 0 1 m24594 0 1 m29575 0 1 m30064 0 1 m21271 0 1 m30971 0 1 m20415 0 1",
    "m24489 0 1 m19981 0 1 m27852 0 1 m25976 0 1 m32034 0 1 m21443 0 1 m22622 0 1 m30465 0 1 m33865 0",
    "1 m35498 0 1 m27578 0 1 m36784 0 1 m27784 0 1 m25342 0 1 m33509 0 1 m25504 0 1 m30053 0 1 m20142",
    "0 1 m20841 0 1 m20937 0 1 m26753 0 1 m31975 0 1 m33391 0 1 m35538 0 1 m37327 0 1 m21237 0 1",
    "m21570 0 1 m22899 0 1 m24300 0 1 m26053 0 1 m28670 0 1 m31018 0 1 m38317 0 1 m39530 0 1 m40599 0",
    "1 m40654 0 1 m21147 0 1 m26310 0 1 m27511 0 1 m36706 0 1 m24180 0 1 m24976 0 1 m25088 0 1 m25754",
    "0 1 m28451 0 1 m29001 0 1 m29833 0 1 m31178 0 1 m32244 0 1 m32879 0 1 m36646 0 1 m34030 0 1",
    "m36899 0 1 m37706 0 1 m21015 0 1 m21155 0 1 m21693 0 1 m28872 0 1 m35010 0 1 m35498 0 1 m24265 0",
    "1 m24565 0 1 m25467 0 1 m27566 0 1 m31806 0 1 m29557 0 1 m20196 0 1 m22265 0 1 m23527 0 1 m23994",
    "0 1 m24604 0 1 m29618 0 1 m29801 0 1 m32666 0 1 m32838 0 1 m37428 0 1 m38646 0 1 m38728 0 1",
    "m38936 0 1 m20363 0 1 m31150 0 1 m37300 0 1 m38584 0 1 m24801 0 1 m20102 0 1 m20698 0 1 m23534 0",
    "1 m23615 0 1 m26009 0 1 m27138 0 1 m29134 0 1 m30274 0 1 m34044 0 1 m36988 0 1 m40845 0 1 m26248",
    "0 1 m38446 0 1 m21129 0 1 m26491 0 1 m26611 0 1 m27969 0 1 m28316 0 1 m29705 0 1 m30041 0 1",
    "m30827 0 1 m32016 0 1 m39006 0 1 m20845 0 1 m25134 0 1 m38520 0 1 m20523 0 1 m23833 0 1 m28138 0",
    "1 m36650 0 1 m24459 0 1 m24900 0 1 m26647 0 1 m29575 0 1 m38534 0 1 m21033 0 1 m21519 0 1 m23653",
    "0 1 m26131 0 1 m26446 0 1 m26792 0 1 m27877 0 1 m29702 0 1 m30178 0 1 m32633 0 1 m35023 0 1",
    "m35041 0 1 m37324 0 1 m38626 0 1 m21311 0 1 m28346 0 1 m21533 0 1 m29136 0 1 m29848 0 1 m34298 0",
    "1 m38563 0 1 m40023 0 1 m40607 0 1 m26519 0 1 m28107 0 1 m33256 0 1 m31435 0 1 m31520 0 1 m31890",
    "0 1 m29376 0 1 m28825 0 1 m35672 0 1 m20160 0 1 m33590 0 1 m21050 0 1 m20999 0 1 m24230 0 1",
    "m25299 0 1 m31958 0 1 m23429 0 1 m27934 0 1 m26292 0 1 m36667 0 1 m34892 0 1 m38477 0 1 m35211 0",
    "1 m24275 0 1 m20800 0 1 m21952 2 1 m22618 1 1 m26228 2 1 m20958 0 1 m29482 0 1 m30410 0 1 m31036",
    "0 1 m31070 0 1 m31077 0 1 m31119 0 1 m38742 0 1 m31934 0 1 m32701 1 1 m34322 1 1 m35576 2 1",
    "m36920 0 1 m37117 3 1 m39151 0 1 m39164 0 1 m39208 0 1 m40372 0 1 m37086 0 1 m38583 0 1 m20398 0",
    "1 m20711 0 1 m20813 0 1 m21193 0 1 m21220 0 1 m21329 0 1 m21917 0 1 m22022 0 1 m22120 0 1 m22592",
    "0 1 m22696 0 1 m23652 0 1 m23662 0 1 m24724 0 1 m24936 0 1 m24974 0 1 m25074 0 1 m25935 0 1",
    "m26082 0 1 m26257 0 1 m26757 0 1 m28023 0 1 m28186 0 1 m28450 0 1 m29038 0 1 m29227 0 1 m29730 0",
    "1 m30865 0 1 m31038 0 1 m31049 0 1 m31048 0 1 m31056 0 1 m31062 0 1 m31069 0 2 -32965 0 1 m31296",
    "0 1 m31361 0 1 m31680 0 1 m32244 0 1 m32265 0 1 m32321 0 1 m32626 0 1 m32773 0 1 m33261 0 2",
    "m33401 0 1 m33879 0 1 m35088 0 1 m35222 0 1 m35585 0 1 m35641 0 1 m36051 0 1 m36104 0 1 m36790 0",
    "1 m36920 0 1 m38627 0 1 m38911 0 1 m38971 0 1 m24693 0 1 m148206 0 1 m33304 0 2 x 0 1 m20006 0 1",
    "m20917 0 1 m20840 0 1 m20352 0 1 m20805 0 1 m20864 0 1 m21191 0 1 m21242 0 1 m21917 0 1 m21845 0",
    "1 m21913 0 1 m21986 0 1 m22618 0 1 m22707 0 1 m22852 0 1 m22868 0 1 m23138 0 1 m23336 0 1 m24274",
    "0 1 m24281 0 1 m24425 0 1 m24493 0 1 m24792 0 1 m24910 0 1 m24840 0 1 m24974 0 1 m24928 0 1",
    "m25074 0 1 m25140 0 1 m25540 0 1 m25628 0 1 m25682 0 1 m25942 0 1 m26228 0 1 m26391 0 1 m26395 0",
    "1 m26454 0 1 m27513 0 1 m27578 0 1 m27969 0 1 m28379 0 1 m28363 0 1 m28450 0 1 m28702 0 1 m29038",
    "0 1 m30631 0 1 m29237 0 1 m29359 0 1 m29482 0 1 m29809 0 1 m29958 0 1 m30011 0 1 m30237 0 1",
    "m30239 0 1 m30410 0 1 m30427 0 1 m30452 0 1 m30538 0 1 m30528 0 1 m30924 0 1 m31409 0 1 m31680 0",
    "1 m31867 0 1 m32091 0 1 m32244 0 1 m32574 0 1 m32773 0 1 m33618 0 1 m33775 0 1 m34681 0 1 m35137",
    "0 1 m35206 0 1 m35222 0 1 m35519 0 1 m35576 0 1 m35531 0 1 m35585 0 1 m35582 0 1 m35565 0 1",
    "m35641 0 1 m35722 0 1 m36104 0 1 m36664 0 1 m36978 0 1 m37273 0 1 m37494 0 1 m38524 0 1 m38627 0",
    "1 m38742 0 1 m38875 0 1 m38911 0 1 m38923 0 1 m38971 0 1 m39698 0 1 m40860 0 1 m141386 0 1",
    "m141380 0 1 m144341 0 1 m15261 0 1 m16408 0 1 m16441 0 1 m152137 0 1 m154832 0 1 m163539 0 1",
    "m40771 0 1 m40846 0 38 x 0 1 m102,102 0 1 m102,105 0 1 m102,108 0 1 m102,102,105 0 1",
    "m102,102,108 0 2 m115,116 0 12 x 0 1 m1396,1398 0 1 m1396,1381 0 1 m1396,1387 0 1 m1406,1398 0 1",
    "m1396,1389 0 5 x 0 1 m1497,1460 1 1 m1522,1463 0 1 m1506 0 1 m1488 0 2 -62799 0 3 -62793 0 1",
    "m1512 0 1 m1514 0 1 m43 0 1 m1513,1473 0 1 m1513,1474 0 1 m1513,1468,1473 0 1 m1513,1468,1474 0",
    "1 m1488,1463 0 1 m1488,1464 0 1 m1488,1468 0 1 m1489,1468 0 1 m1490,1468 0 1 m1491,1468 0 1",
    "m1492,1468 0 1 m1493,1468 0 1 m1494,1468 0 1 x 0 1 m1496,1468 0 1 m1497,1468 0 1 m1498,1468 0 1",
    "m1499,1468 0 1 m1500,1468 0 1 x 0 1 m1502,1468 0 1 x 0 1 m1504,1468 0 1 m1505,1468 0 1 x 0 1",
    "m1507,1468 0 1 m1508,1468 0 1 x 0 1 m1510,1468 0 1 m1511,1468 0 1 m1512,1468 0 1 m1513,1468 0 1",
    "m1514,1468 0 1 m1493,1465 0 1 m1489,1471 0 1 m1499,1471 0 1 m1508,1471 0 1 m1488,1500 0 2 m1649",
    "0 4 m1659 0 4 m1662 0 4 m1664 0 4 m1658 0 4 m1663 0 4 m1657 0 4 m1700 0 4 m1702 0 4 m1668 0 4",
    "m1667 0 4 m1670 0 4 m1671 0 2 m1677 0 2 m1676 0 2 m1678 0 2 m1672 0 2 m1688 0 2 m1681 0 4 m1705",
    "0 4 m1711 0 4 m1715 0 4 m1713 0 2 m1722 0 4 m1723 0 2 m1728 0 4 m1729 0 4 m1726 0 2 m1746 0 2",
    "m1747 33 4 m1709 0 2 m1735 0 2 m1734 0 2 m1736 0 1 m1735,1652 0 2 m1739 0 2 m1733 0 2 m1737 0 4",
    "m1744 0 2 m1609 0 2 m1574,1575 0 2 m1574,1749 0 2 m1574,1608 0 2 m1574,1735 0 2 m1574,1734 0 2",
    "m1574,1736 0 3 m1574,1744 0 3 m1574,1609 0 4 m1740 0 1 m1574,1580 0 1 m1574,1581 0 1 m1574,1605",
    "0 1 m1574,1609 0 1 m1574,1610 0 1 m1576,1580 0 1 m1576,1581 0 1 m1576,1582 0 1 m1576,1605 0 1",
    "m1576,1609 0 1 m1576,1610 0 1 m1578,1580 0 1 m1578,1581 0 1 m1578,1582 0 1 m1578,1605 0 1",
    "m1578,1609 0 1 m1578,1610 0 1 m1579,1580 0 1 m1579,1605 0 1 m1579,1609 0 1 m1579,1610 0 1",
    "m1580,1581 0 1 m1580,1605 0 1 m1581,1580 0 1 m1581,1605 0 1 m1582,1580 0 1 m1582,1581 0 1",
    "m1582,1605 0 1 m1587,1580 0 1 m1587,1581 0 1 m1587,1582 0 1 m1587,1605 0 1 m1589,1581 0 1",
    "m1589,1605 0 1 m1590,1580 0 1 m1590,1581 0 1 m1590,1582 0 1 m1590,1605 0 1 m1591,1581 0 1",
    "m1591,1605 0 1 m1592,1605 0 1 m1593,1580 0 1 m1593,1605 0 1 m1594,1580 0 1 m1594,1605 0 1",
    "m1601,1580 0 1 m1601,1581 0 1 m1601,1582 0 1 m1601,1605 0 1 m1601,1609 0 1 m1601,1610 0 1",
    "m1602,1581 0 1 m1602,1605 0 1 m1602,1609 0 1 m1602,1610 0 1 m1603,1575 0 1 m1603,1580 0 1",
    "m1603,1581 0 1 m1603,1582 0 1 m1603,1604 0 1 m1603,1605 0 1 m1603,1609 0 1 m1603,1610 0 1",
    "m1604,1580 0 1 m1604,1581 0 1 m1604,1582 0 1 m1604,1605 0 1 m1604,1609 0 1 m1604,1610 0 1",
    "m1605,1580 0 1 m1605,1581 0 1 m1605,1582 0 1 m1605,1605 0 1 m1605,1609 0 1 m1605,1610 0 1",
    "m1606,1580 0 1 m1606,1581 0 1 m1606,1582 0 1 m1606,1605 0 1 m1606,1609 0 1 m1606,1610 0 1",
    "m1607,1580 0 1 m1607,1605 0 1 m1607,1609 0 1 m1607,1610 0 1 m1610,1580 0 1 m1610,1581 0 1",
    "m1610,1582 0 1 m1610,1605 0 1 m1610,1609 0 1 m1610,1610 0 1 m1584,1648 0 1 m1585,1648 0 1",
    "m1609,1648 0 1 m32,1612,1617 0 1 m32,1613,1617 0 1 m32,1614,1617 0 1 m32,1615,1617 0 1",
    "m32,1616,1617 0 1 m32,1617,1648 0 1 m1574,1585 0 1 m1574,1586 0 1 m1574,1605 0 1 m1574,1606 0 1",
    "m1574,1609 0 1 m1574,1610 0 1 m1576,1585 0 1 m1576,1586 0 1 m1576,1605 0 1 m1576,1606 0 1",
    "m1576,1609 0 1 m1576,1610 0 1 m1578,1585 0 1 m1578,1586 0 1 m1578,1605 0 1 m1578,1606 0 1",
    "m1578,1609 0 1 m1578,1610 0 1 m1579,1585 0 1 m1579,1586 0 1 m1579,1605 0 1 m1579,1606 0 1",
    "m1579,1609 0 1 m1579,1610 0 1 m1601,1609 0 1 m1601,1610 0 1 m1602,1609 0 1 m1602,1610 0 1",
    "m1603,1575 0 1 m1603,1604 0 1 m1603,1605 0 1 m1603,1609 0 1 m1603,1610 0 1 m1604,1605 0 1",
    "m1604,1609 0 1 m1604,1610 0 1 m1605,1575 0 1 m1605,1605 0 1 m1606,1585 0 1 m1606,1586 0 1",
    "m1606,1605 0 1 m1606,1606 0 1 m1606,1609 0 1 m1606,1610 0 1 m1609,1648 0 1 m1610,1585 0 1",
    "m1610,1586 0 1 m1610,1605 0 1 m1610,1606 0 1 m1610,1609 0 1 m1610,1610 0 1 m1574,1580 0 1",
    "m1574,1581 0 1 m1574,1582 0 1 m1574,1605 0 1 m1574,1607 0 1 m1576,1580 0 1 m1576,1581 0 1",
    "m1576,1582 0 1 m1576,1605 0 1 m1576,1607 0 1 m1578,1580 0 1 m1578,1581 0 1 m1578,1582 0 1",
    "m1578,1605 0 1 m1578,1607 0 1 m1579,1605 0 1 m1580,1581 0 1 m1580,1605 0 1 m1581,1580 0 1",
    "m1581,1605 0 1 m1582,1580 0 1 m1582,1605 0 1 m1587,1580 0 1 m1587,1581 0 1 m1587,1582 0 1",
    "m1587,1605 0 1 m1589,1581 0 1 m1589,1582 0 1 m1589,1605 0 1 m1590,1580 0 1 m1590,1581 0 1",
    "m1590,1582 0 1 m1590,1605 0 1 m1591,1581 0 1 m1592,1605 0 1 m1593,1580 0 1 m1593,1605 0 1",
    "m1594,1580 0 1 m1594,1605 0 1 m1601,1580 0 1 m1601,1581 0 1 m1601,1582 0 1 m1601,1605 0 1",
    "m1602,1581 0 1 m1602,1605 0 1 m1603,1580 0 1 m1603,1581 0 1 m1603,1582 0 1 m1603,1604 0 1",
    "m1603,1605 0 1 m1604,1580 0 1 m1604,1581 0 1 m1604,1582 0 1 m1604,1605 0 1 m1604,1607 0 1",
    "m1605,1580 0 1 m1605,1581 0 1 m1605,1582 0 1 m1605,1605 0 1 m1606,1580 0 1 m1606,1581 0 1",
    "m1606,1582 0 1 m1606,1605 0 1 m1606,1607 0 1 m1607,1580 0 1 m1607,1605 0 1 m1607,1648 0 1",
    "m1610,1580 0 1 m1610,1581 0 1 m1610,1582 0 1 m1610,1605 0 1 m1610,1607 0 1 m1574,1605 0 1",
    "m1574,1607 0 1 m1576,1605 0 1 m1576,1607 0 1 m1578,1605 0 1 m1578,1607 0 1 m1579,1605 0 1",
    "m1579,1607 0 1 m1587,1605 0 1 m1587,1607 0 1 m1588,1605 0 1 m1588,1607 0 1 m1603,1604 0 1",
    "m1603,1605 0 1 m1604,1605 0 1 m1606,1605 0 1 m1606,1607 0 1 m1610,1605 0 1 m1610,1607 0 1",
    "m1600,1614,1617 0 1 m1600,1615,1617 0 1 m1600,1616,1617 0 1 m1591,1609 0 1 m1591,1610 0 1",
    "m1593,1609 0 1 m1593,1610 0 1 m1594,1609 0 1 m1594,1610 0 1 m1587,1609 0 1 m1587,1610 0 1",
    "m1588,1609 0 1 m1588,1610 0 1 m1581,1609 0 1 m1581,1610 0 1 m1580,1609 0 1 m1580,1610 0 1",
    "m1582,1609 0 1 m1582,1610 0 1 m1589,1609 0 1 m1589,1610 0 1 m1590,1609 0 1 m1590,1610 0 1",
    "m1588,1580 0 1 m1588,1581 0 1 m1588,1582 0 1 m1588,1605 0 1 m1588,1585 0 1 m1587,1585 0 1",
    "m1589,1585 0 1 m1590,1585 0 1 m1591,1609 0 1 m1591,1610 0 1 m1593,1609 0 1 m1593,1610 0 1",
    "m1594,1609 0 1 m1594,1610 0 1 m1587,1609 0 1 m1587,1610 0 1 m1588,1609 0 1 m1588,1610 0 1",
    "m1581,1609 0 1 m1581,1610 0 1 m1580,1609 0 1 m1580,1610 0 1 m1582,1609 0 1 m1582,1610 0 1",
    "m1589,1609 0 1 m1589,1610 0 1 m1590,1609 0 1 m1590,1610 0 1 m1588,1580 0 1 m1588,1581 0 1",
    "m1588,1582 0 1 m1588,1605 0 1 m1588,1585 0 1 m1587,1585 0 1 m1589,1585 0 1 m1590,1585 0 1",
    "m1588,1580 0 1 m1588,1581 0 1 m1588,1582 0 1 m1588,1605 0 1 m1587,1607 0 1 m1588,1607 0 1",
    "m1591,1605 0 1 m1587,1580 0 1 m1587,1581 0 1 m1587,1582 0 1 m1588,1580 0 1 m1588,1581 0 1",
    "m1588,1582 0 1 m1591,1605 0 1 m1592,1605 0 2 m1575,1611 18 1 m1578,1580,1605 0 2 m1578,1581,1580",
    "0 1 m1578,1581,1605 0 1 m1578,1582,1605 0 1 m1578,1605,1580 0 1 m1578,1605,1581 0 1",
    "m1578,1605,1582 0 2 m1580,1605,1581 0 1 m1581,1605,1610 0 1 m1581,1605,1609 0 1 m1587,1581,1580",
    "0 1 m1587,1580,1581 0 1 m1587,1580,1609 0 2 m1587,1605,1581 0 1 m1587,1605,1580 0 2",
    "m1587,1605,1605 0 2 m1589,1581,1581 0 1 m1589,1605,1605 0 2 m1588,1581,1605 0 1 m1588,1580,1610",
    "0 2 m1588,1605,1582 0 2 m1588,1605,1605 0 1 m1590,1581,1609 0 2 m1590,1582,1605 0 2",
    "m1591,1605,1581 0 1 m1591,1605,1605 0 1 m1591,1605,1610 0 1 m1593,1580,1605 0 2 m1593,1605,1605",
    "0 1 m1593,1605,1609 0 1 m1594,1605,1605 0 1 m1594,1605,1610 0 1 m1594,1605,1609 0 2",
    "m1601,1582,1605 0 1 m1602,1605,1581 0 1 m1602,1605,1605 0 1 m1604,1581,1605 0 1 m1604,1581,1610",
    "0 1 m1604,1581,1609 0 2 m1604,1580,1580 0 2 m1604,1582,1605 0 2 m1604,1605,1581 0 1",
    "m1605,1581,1580 0 1 m1605,1581,1605 0 1 m1605,1581,1610 0 1 m1605,1580,1581 0 1 m1605,1580,1605",
    "0 1 m1605,1582,1580 0 1 m1605,1582,1605 2 1 m1605,1580,1582 0 1 m1607,1605,1580 0 1",
    "m1607,1605,1605 0 1 m1606,1581,1605 0 1 m1606,1581,1609 0 2 m1606,1580,1605 0 1 m1606,1580,1609",
    "0 1 m1606,1605,1610 0 1 m1606,1605,1609 0 2 m1610,1605,1605 0 1 m1576,1582,1610 0 1",
    "m1578,1580,1610 0 1 m1578,1580,1609 0 1 m1578,1582,1610 0 1 m1578,1582,1609 0 1 m1578,1605,1610",
    "0 1 m1578,1605,1609 0 1 m1580,1605,1610 0 1 m1580,1581,1609 0 1 m1580,1605,1609 0 1",
    "m1587,1582,1609 0 1 m1589,1581,1610 0 1 m1588,1581,1610 0 1 m1590,1581,1610 0 1 m1604,1580,1610",
    "0 1 m1604,1605,1610 0 1 m1610,1581,1610 0 1 m1610,1580,1610 0 1 m1610,1605,1610 0 1",
    "m1605,1605,1610 0 1 m1602,1605,1610 0 1 m1606,1581,1610 0 1 m1602,1605,1581 0 1 m1604,1581,1605",
    "0 1 m1593,1605,1610 0 1 m1603,1605,1610 0 1 m1606,1580,1581 0 1 m1605,1582,1610 0 1",
    "m1604,1580,1605 0 1 m1603,1605,1605 0 1 m1604,1580,1605 0 1 m1606,1580,1581 0 1 m1580,1581,1610",
    "0 1 m1581,1580,1610 0 1 m1605,1580,1610 0 1 m1601,1605,1610 0 1 m1576,1581,1610 0 1",
    "m1603,1605,1605 0 1 m1593,1580,1605 0 1 m1589,1605,1605 0 1 m1587,1582,1610 0 1 m1606,1580,1610",
    "8 32 x 0 1 m1589,1604,1746 0 1 m1602,1604,1746 0 1 m1575,1604,1604,1607 0 1 m1575,1603,1576,1585",
    "0 1 m1605,1581,1605,1583 0 1 m1589,1604,1593,1605 0 1 m1585,1587,1608,1604 0 1",
    "m1593,1604,1610,1607 0 1 m1608,1587,1604,1605 0 1 m1589,1604,1609 0 1",
    "m1589,1604,1609,32,1575,1604,1604,1607,32,1593,1604,1610,1607,32,1608,1587,1604,1605 0 1",
    "m1580,1604,32,1580,1604,1575,1604,1607 0 1 m1585,1740,1575,1604 3 16 i 0 1 m44 0 1 m12289 0 1 x",
    "0 2 -64985 0 1 m33 0 1 m63 0 2 -52737 0 7 x 16 1 x 0 1 m8212 0 1 m8211 0 2 m95 0 2 -65037 0 1",
    "m123 0 1 m125 0 2 -52773 0 2 -52779 0 2 -52787 0 2 -52791 0 4 -52789 2 1 m91 0 1 m93 0 4 m32,773",
    "0 3 m95 0 1 m44 0 1 m12289 0 2 x 0 1 m59 0 1 m58 0 1 m63 0 1 m33 0 1 m8212 0 2 -65073 0 1 m123 0",
    "1 m125 0 2 -52809 0 1 m35 0 1 m38 0 2 -65079 0 1 m45 0 1 m60 0 1 m62 0 1 m61 0 1 x 0 1 m92 0 2",
    "-65093 0 1 m64 0 4 x 0 1 m32,1611 0 1 m1600,1611 0 1 m32,1612 1 1 m32,1613 0 1 x 0 1 m32,1614 0",
    "1 m1600,1614 0 1 m32,1615 0 1 m1600,1615 0 1 m32,1616 0 1 m1600,1616 0 1 m32,1617 0 1 m1600,1617",
    "0 1 m32,1618 0 1 m1600,1618 0 2 -63583 0 2 -63584 0 2 -63585 0 2 -63586 0 2 -63587 0 3 m1574 0 2",
    "m1575 0 4 m1576 0 2 m1577 0 4 m1578 0 4 m1579 0 4 m1580 0 4 m1581 0 4 m1582 0 2 m1583 0 2 m1584",
    "0 2 m1585 0 2 m1586 0 4 m1587 0 4 m1588 0 4 m1589 0 4 m1590 0 4 m1591 0 4 m1592 0 4 m1593 0 4",
    "m1594 0 4 m1601 0 4 m1602 0 4 m1603 0 4 m1604 0 4 m1605 0 4 m1606 0 4 m1607 0 2 m1608 0 2 m1609",
    "0 4 m1610 0 2 m1604,1570 0 2 m1604,1571 0 2 m1604,1573 0 2 m1604,1575 0 2 x 0 1 i 0 1 x 0 32",
    "-65248 0 26 -65216 0 36 -65248 0 2 -54746 0 1 m46 0 2 -53078 0 1 m12289 0 1 m12539 0 1 m12530 0",
    "1 m12449 0 1 m12451 0 1 m12453 0 1 m12455 0 1 m12457 0 1 m12515 0 1 m12517 0 1 m12519 0 1 m12483",
    "0 1 m12540 0 1 m12450 0 1 m12452 0 1 m12454 0 1 m12456 0 2 -52939 0 1 m12461 0 1 m12463 0 1",
    "m12465 0 1 m12467 0 1 m12469 0 1 m12471 0 1 m12473 0 1 m12475 0 1 m12477 0 1 m12479 0 1 m12481 0",
    "1 m12484 0 1 m12486 0 1 m12488 0 6 -52923 0 1 m12498 0 1 m12501 0 1 m12504 0 1 m12507 0 5 -52913",
    "0 1 m12516 0 1 m12518 0 6 -52910 0 1 m12527 0 1 m12531 0 2 -52997 0 1 i 0 2 -61089 0 1 m4522 0 1",
    "m4354 0 2 -60921 0 3 -61092 0 6 -60922 0 1 m4378 0 3 -61099 0 1 m4385 0 10 -61100 0 3 x 0 6",
    "-61025 0 2 x 0 6 -61027 0 2 x 0 6 -61029 0 2 x 0 3 -61031 0 3 x 0 2 -65342 0 1 m172 0 1 m32,772",
    "0 1 m166 0 1 m165 0 1 m8361 0 1 x 0 1 m9474 0 4 -56921 0 1 m9632 0 1 m9675 0 17 x 12 1 x 26 1 x",
    "19 1 x 2 1 x 15 2 x 14 34 x 123 5 x 3 4 x 45 3 x 88 1 x 13 3 x 1 47 x 46 130 x 29 3 x 49 15 x 28",
    "4 x 36 9 x 30 5 x 43 5 x 30 1 x 37 4 x 14 42 x 0 40 +40 118 2 x 10 6 x 0 36 +40 0 4 x 36 4 x 40",
    "8 x 52 11 x 1 11 +39 0 1 x 0 15 +39 0 1 x 0 7 +39 0 1 x 0 2 +39 0 1 x 11 1 x 15 1 x 7 1 x 2 3 x",
    "52 12 x 311 9 x 22 10 x 8 24 x 1 2 -66737 0 1 m230 0 1 m665 0 1 m595 0 1 x 0 1 m675 0 1 m43878 0",
    "1 m677 0 1 m676 0 2 -66869 0 1 m7569 0 1 m600 0 1 m606 0 1 m681 0 1 m612 0 1 m610 0 1 m608 0 1",
    "m667 0 1 m295 0 1 m668 0 1 m615 0 1 m644 0 2 -66799 0 1 m620 0 1 m122628 0 1 m42894 0 1 m622 0 1",
    "m122629 0 1 m654 0 1 m122630 0 1 m248 0 2 -66861 0 1 m113 0 1 m634 0 1 m122632 0 2 -66859 0 1",
    "m640 0 1 m680 0 1 m678 0 1 m43879 0 1 m679 0 1 m648 0 1 m11377 0 1 x 0 1 m655 0 2 -66834 0 1",
    "m664 0 3 -67062 0 1 m122634 0 1 m122654 0 69 x 6 2 x 1 1 x 44 1 x 2 3 x 1 2 x 23 1 x 72 8 x 9 48",
    "x 19 1 x 2 5 x 33 3 x 27 5 x 27 38 x 56 4 x 20 2 x 50 1 x 2 5 x 8 1 x 3 1 x 29 2 x 3 4 x 10 7 x",
    "9 7 x 64 32 x 39 4 x 12 9 x 54 3 x 29 2 x 27 5 x 26 7 x 4 12 x 7 80 x 73 55 x 0 51 +64 0 13 x 51",
    "7 x 46 8 x 10 6 x 16 22 +32 0 3 x 29 8 x 2 208 x 31 1 x 42 1 x 3 2 x 2 16 x 6 8 x 9 33 x 46 8 x",
    "42 22 x 26 38 x 28 20 x 23 9 x 78 4 x 36 9 x 62 1 x 5 13 x 25 7 x 10 6 x 53 1 x 18 8 x 39 9 x 96",
    "1 x 20 11 x 18 1 x 47 62 x 7 1 x 1 1 x 4 1 x 15 1 x 11 6 x 59 5 x 10 6 x 4 1 x 8 2 x 2 2 x 22 1",
    "x 7 1 x 2 1 x 5 1 x 10 2 x 2 2 x 3 2 x 1 6 x 1 5 x 7 2 x 7 3 x 5 11 x 10 1 x 1 2 x 1 1 x 38 1 x",
    "10 1 x 1 2 x 1 1 x 4 1 x 10 1 x 2 8 x 2 29 x 92 1 x 5 30 x 72 8 x 10 166 x 54 2 x 38 34 x 69 11",
    "x 10 6 x 13 19 x 58 6 x 10 6 x 20 28 x 27 2 x 15 4 x 23 185 x 60 100 x 0 32 +32 51 12 x 8 2 x 1",
    "2 x 8 1 x 2 1 x 30 1 x 2 2 x 12 9 x 10 70 x 8 2 x 46 2 x 11 27 x 72 8 x 83 13 x 73 7 x 10 86 x 8",
    "88 x 34 14 x 10 6 x 9 1 x 45 1 x 14 10 x 29 3 x 32 2 x 22 1 x 14 73 x 7 1 x 2 1 x 44 3 x 1 1 x 2",
    "1 x 9 8 x 10 6 x 6 1 x 2 1 x 37 1 x 2 1 x 6 7 x 10 6 x 44 4 x 10 246 x 25 7 x 17 1 x 41 3 x 29",
    "85 x 1 15 x 50 13 x 923 102 x 111 1 x 5 11 x 196 2636 x 99 13 x 1072 16 x 22 10 x 3995 5 x 583",
    "6841 x 58 1734 x 569 7 x 31 1 x 10 4 x 81 1 x 10 6 x 30 2 x 6 10 x 70 10 x 10 1 x 7 1 x 21 5 x",
    "19 432 x 58 198 x 0 32 +32 59 5 x 0 25 +27 0 2 x 25 44 x 75 4 x 57 7 x 17 64 x 5 11 x 7 9 x 7382",
    "41 x 32 97 x 115 8701 x 4 1 x 7 1 x 2 1 x 291 15 x 1 29 x 3 2 x 1 14 x 4 8 x 396 2308 x 107 5 x",
    "13 3 x 9 7 x 10 2 x 4 4 i 0 3932 x 214 26 -117877 0 10 -117952 3 3 x 436 6 x 23 15 x 17 15 x 46",
    "2 x 23 9 x 116 60 x 246 10 x 39 2 x 53 1 m119127,119141 0 1 m119128,119141 0 1",
    "m119128,119141,119150 0 1 m119128,119141,119151 0 1 m119128,119141,119152 0 1",
    "m119128,119141,119153 0 1 m119128,119141,119154 14 8 i 64 1 m119225,119141 0 1 m119226,119141 0",
    "1 m119225,119141,119150 0 1 m119226,119141,119150 0 1 m119225,119141,119151 0 1",
    "m119226,119141,119151 42 21 x 70 122 x 20 12 x 20 12 x 87 9 x 25 135 x 0 26 -119711 0 26 -119737",
    "0 26 -119763 0 7 -119789 0 1 x 0 18 -119789 0 26 -119815 0 26 -119841 0 1 m97 0 1 x 0 2 -119867",
    "0 2 x 0 1 m103 0 2 x 0 2 -119867 0 2 x 0 4 -119867 0 1 x 0 8 -119867 0 4 -119893 0 1 x 0 1 m102",
    "0 1 x 0 7 -119893 0 1 x 0 11 -119893 0 26 -119919 0 26 -119945 0 2 -119971 0 1 x 0 4 -119971 0 2",
    "x 0 8 -119971 0 1 x 0 7 -119971 0 1 x 0 26 -119997 0 2 -120023 0 1 x 0 4 -120023 0 1 x 0 5",
    "-120023 0 1 x 0 1 m111 0 3 x 0 7 -120023 0 1 x 0 26 -120049 0 26 -120075 0 26 -120101 0 26",
    "-120127 0 26 -120153 0 26 -120179 0 26 -120205 0 26 -120231 0 26 -120257 0 26 -120283 0 26",
    "-120309 0 26 -120335 0 26 -120361 0 1 m305 0 1 m567 0 2 x 0 17 -119543 0 1 m952 0 7 -119543 0 1",
    "m8711 0 17 -119569 0 2 m963 0 6 -119569 0 1 m8706 0 1 m949 0 1 m952 0 1 m954 0 1 m966 0 1 m961 0",
    "1 m960 0 17 -119601 0 1 m952 0 7 -119601 0 1 m8711 0 17 -119627 0 2 m963 0 6 -119627 0 1 m8706 0",
    "1 m949 0 1 m952 0 1 m954 0 1 m966 0 1 m961 0 1 m960 0 17 -119659 0 1 m952 0 7 -119659 0 1 m8711",
    "0 17 -119685 0 2 m963 0 6 -119685 0 1 m8706 0 1 m949 0 1 m952 0 1 m954 0 1 m966 0 1 m961 0 1",
    "m960 0 17 -119717 0 1 m952 0 7 -119717 0 1 m8711 0 17 -119743 0 2 m963 0 6 -119743 0 1 m8706 0 1",
    "m949 0 1 m952 0 1 m954 0 1 m966 0 1 m961 0 1 m960 0 17 -119775 0 1 m952 0 7 -119775 0 1 m8711 0",
    "17 -119801 0 2 m963 0 6 -119801 0 1 m8706 0 1 m949 0 1 m952 0 1 m954 0 1 m966 0 1 m961 0 1 m960",
    "0 2 m989 0 2 x 0 10 -120734 0 10 -120744 0 10 -120754 0 10 -120764 0 10 -120774 652 15 x 5 1 x",
    "15 1104 x 31 6 x 6 213 x 7 1 x 17 2 x 7 1 x 2 1 x 5 5 x 0 9 -121856 0 3 -121855 0 11 -121854 0 1",
    "m1099 0 2 -121851 0 1 m42633 0 1 m1241 0 1 m1110 0 1 m1112 0 1 m1257 0 1 m1199 0 1 m1231 0 9",
    "-121889 0 2 -121888 0 2 -121886 0 1 m1089 0 6 -121884 0 2 -121883 0 1 m1169 0 1 m1110 0 1 m1109",
    "0 1 m1119 0 1 m1195 0 1 m42577 0 1 m1201 0 33 x 1 112 x 45 3 x 14 2 x 10 4 x 2 320 x 31 17 x 58",
    "5 x 1 464 x 42 214 x 43 4 x 1 192 x 31 1 x 22 8 x 2 224 x 7 1 x 4 1 x 2 1 x 15 1 x 197 2 x 16 41",
    "x 0 34 +34 42 4 x 10 4 x 2 785 x 68 76 x 61 194 x 0 2 -124889 0 1 m1580 0 1 m1583 0 1 x 0 1",
    "m1608 0 1 m1586 0 1 m1581 0 1 m1591 0 1 m1610 0 4 -124871 0 1 m1587 0 1 m1593 0 1 m1601 0 1",
    "m1589 0 1 m1602 0 1 m1585 0 1 m1588 0 2 -124907 0 1 m1582 0 1 m1584 0 1 m1590 0 1 m1592 0 1",
    "m1594 0 1 m1646 0 1 m1722 0 1 m1697 0 1 m1647 0 1 x 0 1 m1576 0 1 m1580 0 1 x 0 1 m1607 0 2 x 0",
    "1 m1581 0 1 x 0 1 m1610 0 4 -124903 0 1 m1587 0 1 m1593 0 1 m1601 0 1 m1589 0 1 m1602 0 1 x 0 1",
    "m1588 0 2 -124939 0 1 m1582 0 1 x 0 1 m1590 0 1 x 0 1 m1594 0 6 x 0 1 m1580 0 4 x 0 1 m1581 0 1",
    "x 0 1 m1610 0 1 x 0 1 m1604 0 1 x 0 1 m1606 0 1 m1587 0 1 m1593 0 1 x 0 1 m1589 0 1 m1602 0 1 x",
    "0 1 m1588 0 2 x 0 1 m1582 0 1 x 0 1 m1590 0 1 x 0 1 m1594 0 1 x 0 1 m1722 0 1 x 0 1 m1647 0 1 x",
    "0 1 m1576 0 1 m1580 0 1 x 0 1 m1607 0 2 x 0 1 m1581 0 1 m1591 0 1 m1610 0 1 m1603 0 1 x 0 2",
    "-124967 0 1 m1587 0 1 m1593 0 1 m1601 0 1 m1589 0 1 m1602 0 1 x 0 1 m1588 0 2 -125003 0 1 m1582",
    "0 1 x 0 1 m1590 0 1 m1592 0 1 m1594 0 1 m1646 0 1 x 0 1 m1697 0 1 x 0 2 -125017 0 1 m1580 0 1",
    "m1583 0 2 -124989 0 1 m1586 0 1 m1581 0 1 m1591 0 1 m1610 0 1 x 0 3 -124999 0 1 m1587 0 1 m1593",
    "0 1 m1601 0 1 m1589 0 1 m1602 0 1 m1585 0 1 m1588 0 2 -125035 0 1 m1582 0 1 m1584 0 1 m1590 0 1",
    "m1592 0 1 m1594 0 5 x 0 1 m1576 0 1 m1580 0 1 m1583 0 1 x 0 1 m1608 0 1 m1586 0 1 m1581 0 1",
    "m1591 0 1 m1610 0 1 x 0 3 -125031 0 1 m1587 0 1 m1593 0 1 m1601 0 1 m1589 0 1 m1602 0 1 m1585 0",
    "1 m1588 0 2 -125067 0 1 m1582 0 1 m1584 0 1 m1590 0 1 m1592 0 1 m1594 0 52 x 2 270 x 44 4 x 100",
    "12 x 15 2 x 15 1 x 15 1 x 37 11 x 0 1 m48,44 0 1 m49,44 0 1 m50,44 0 1 m51,44 0 1 m52,44 0 1",
    "m53,44 0 1 m54,44 0 1 m55,44 0 1 m56,44 0 1 m57,44 5 1 m40,97,41 0 1 m40,98,41 0 1 m40,99,41 0 1",
    "m40,100,41 0 1 m40,101,41 0 1 m40,102,41 0 1 m40,103,41 0 1 m40,104,41 0 1 m40,105,41 0 1",
    "m40,106,41 0 1 m40,107,41 0 1 m40,108,41 0 1 m40,109,41 0 1 m40,110,41 0 1 m40,111,41 0 1",
    "m40,112,41 0 1 m40,113,41 0 1 m40,114,41 0 1 m40,115,41 0 1 m40,116,41 0 1 m40,117,41 0 1",
    "m40,118,41 0 1 m40,119,41 0 1 m40,120,41 0 1 m40,121,41 0 1 m40,122,41 0 1 m12308,115,12309 0 1",
    "m99 0 1 m114 0 1 m99,100 0 1 m119,122 1 26 -127183 0 1 m104,118 0 1 m109,118 0 1 m115,100 0 1",
    "m115,115 0 1 m112,112,118 0 1 m119,99 26 1 m109,99 0 1 m109,100 0 1 m109,114 35 1 m100,106 29 56",
    "x 26 1 m12411,12363 0 1 m12467,12467 0 1 m12469 0 13 x 0 1 m25163 0 1 m23383 0 1 m21452 0 1",
    "m12487 0 1 m20108 0 1 m22810 0 1 m35299 0 1 m22825 0 1 m20132 0 1 m26144 0 1 m28961 0 1 m26009 0",
    "1 m21069 0 1 m24460 0 1 m20877 0 1 m26032 0 1 m21021 0 1 m32066 0 1 m29983 0 1 m36009 0 1 m22768",
    "0 1 m21561 0 1 m28436 0 1 m25237 0 1 m25429 0 1 m19968 0 1 m19977 0 1 m36938 0 1 m24038 0 1",
    "m20013 0 1 m21491 0 1 m25351 0 1 m36208 0 1 m25171 0 1 m31105 0 1 m31354 0 1 m21512 0 1 m28288 0",
    "1 m26377 0 1 m26376 0 1 m30003 0 1 m21106 0 1 m21942 0 1 m37197 0 4 x 0 1 m12308,26412,12309 0 1",
    "m12308,19977,12309 0 1 m12308,20108,12309 0 1 m12308,23433,12309 0 1 m12308,28857,12309 0 1",
    "m12308,25171,12309 0 1 m12308,30423,12309 0 1 m12308,21213,12309 0 1 m12308,25943,12309 0 7 x 0",
    "1 m24471 0 1 m21487 0 14 x 6 154 x 985 3 x 17 3 x 13 3 x 218 6 x 12 4 x 1 15 x 12 4 x 56 8 x 10",
    "6 x 40 8 x 30 2 x 12 4 x 2 14 x 9 39 x 344 8 x 14 2 x 13 3 x 11 3 x 57 1 x 1 4 x 16 2 x 12 4 x",
    "10 7 x 147 1 x 92 10 -129984 1 1029 x 42720 32 x 4382 2 x 5774 2 x 7473 15 x 622 2466 x 0 1",
    "m20029 0 1 m20024 0 1 m20033 0 1 m131362 0 1 m20320 0 1 m20398 0 1 m20411 0 1 m20482 0 1 m20602",
    "0 1 m20633 0 1 m20711 0 1 m20687 0 1 m13470 0 1 m132666 0 1 m20813 0 1 m20820 0 1 m20836 0 1",
    "m20855 0 1 m132380 0 1 m13497 0 1 m20839 0 1 m20877 0 1 m132427 0 1 m20887 0 1 m20900 0 1 m20172",
    "0 1 m20908 0 1 m20917 0 1 m168415 0 1 m20981 0 1 m20995 0 1 m13535 0 1 m21051 0 1 m21062 0 1",
    "m21106 0 1 m21111 0 1 m13589 0 1 m21191 0 1 m21193 0 1 m21220 0 1 m21242 0 2 -173348 0 1 m21271",
    "0 1 m21321 0 1 m21329 0 1 m21338 0 1 m21363 0 1 m21373 0 3 m21375 0 1 m133676 0 1 m28784 0 1",
    "m21450 0 1 m21471 0 1 m133987 0 1 m21483 0 1 m21489 0 1 m21510 0 1 m21662 0 1 m21560 0 1 m21576",
    "0 1 m21608 0 1 m21666 0 1 m21750 0 1 m21776 0 1 m21843 0 1 m21859 0 2 m21892 0 1 m21913 0 1",
    "m21931 0 1 m21939 0 1 m21954 0 1 m22294 0 1 m22022 0 1 m22295 0 1 m22097 0 1 m22132 0 1 m20999 0",
    "1 m22766 0 1 m22478 0 1 m22516 0 1 m22541 0 1 m22411 0 1 m22578 0 1 m22577 0 1 m22700 0 1",
    "m136420 0 1 m22770 0 1 m22775 0 1 m22790 0 1 m22810 0 1 m22818 0 1 m22882 0 1 m136872 0 1",
    "m136938 0 1 m23020 0 1 m23067 0 1 m23079 0 1 m23000 0 1 m23142 0 1 m14062 0 1 m14076 0 1 m23304",
    "0 2 m23358 0 1 m137672 0 1 m23491 0 1 m23512 0 1 m23527 0 1 m23539 0 1 m138008 0 1 m23551 0 1",
    "m23558 0 1 m24403 0 1 m23586 0 1 m14209 0 1 m23648 0 1 m23662 0 1 m23744 0 1 m23693 0 1 m138724",
    "0 1 m23875 0 1 m138726 0 1 m23918 0 1 m23915 0 1 m23932 0 2 -170656 0 1 m14383 0 1 m24061 0 1",
    "m24104 0 1 m24125 0 1 m24169 0 1 m14434 0 1 m139651 0 1 m14460 0 1 m24240 0 1 m24243 0 1 m24246",
    "0 1 m24266 0 1 m172946 0 1 m24318 0 2 m140081 0 1 m33281 0 2 m24354 0 1 m14535 0 1 m144056 0 1",
    "m156122 0 1 m24418 0 1 m24427 0 1 m14563 0 1 m24474 0 1 m24525 0 1 m24535 0 1 m24569 0 1 m24705",
    "0 1 m14650 0 1 m14620 0 1 m24724 0 1 m141012 0 1 m24775 0 1 m24904 0 1 m24908 0 1 m24910 0 1",
    "m24908 0 1 m24954 0 1 m24974 0 1 m25010 0 1 m24996 0 1 m25007 0 1 m25054 0 1 m25074 0 1 m25078 0",
    "1 m25104 0 1 m25115 0 1 m25181 0 1 m25265 0 1 m25300 0 1 m25424 0 1 m142092 0 1 m25405 0 1",
    "m25340 0 1 m25448 0 1 m25475 0 1 m25572 0 1 m142321 0 1 m25634 0 1 m25541 0 1 m25513 0 1 m14894",
    "0 1 m25705 0 1 m25726 0 1 m25757 0 1 m25719 0 1 m14956 0 1 m25935 0 1 m25964 0 1 m143370 0 1",
    "m26083 0 1 m26360 0 1 m26185 0 1 m15129 0 1 m26257 0 1 m15112 0 1 m15076 0 1 m20882 0 1 m20885 0",
    "1 m26368 0 1 m26268 0 1 m32941 0 1 m17369 0 1 m26391 0 1 m26395 0 1 m26401 0 1 m26462 0 1 m26451",
    "0 1 m144323 0 1 m15177 0 1 m26618 0 1 m26501 0 1 m26706 0 1 m26757 0 1 m144493 0 1 m26766 0 1",
    "m26655 0 1 m26900 0 1 m15261 0 1 m26946 0 1 m27043 0 1 m27114 0 1 m27304 0 1 m145059 0 1 m27355",
    "0 1 m15384 0 1 m27425 0 1 m145575 0 1 m27476 0 1 m15438 0 1 m27506 0 1 m27551 0 2 -167227 0 1",
    "m146061 0 1 m138507 0 1 m146170 0 1 m27726 0 1 m146620 0 1 m27839 0 1 m27853 0 1 m27751 0 1",
    "m27926 0 1 m27966 0 1 m28023 0 1 m27969 0 1 m28009 0 1 m28024 0 1 m28037 0 1 m146718 0 1 m27956",
    "0 1 m28207 0 1 m28270 0 1 m15667 0 1 m28363 0 1 m28359 0 1 m147153 0 1 m28153 0 1 m28526 0 1",
    "m147294 0 1 m147342 0 1 m28614 0 1 m28729 0 1 m28702 0 1 m28699 0 1 m15766 0 1 m28746 0 1 m28797",
    "0 1 m28791 0 1 m28845 0 1 m132389 0 1 m28997 0 1 m148067 0 1 m29084 0 1 m148395 0 1 m29224 0 1",
    "m29237 0 1 m29264 0 1 m149000 0 1 m29312 0 1 m29333 0 1 m149301 0 1 m149524 0 1 m29562 0 1",
    "m29579 0 1 m16044 0 1 m29605 0 2 m16056 0 1 m29767 0 1 m29788 0 1 m29809 0 1 m29829 0 1 m29898 0",
    "1 m16155 0 1 m29988 0 1 m150582 0 1 m30014 0 1 m150674 0 1 m30064 0 1 m139679 0 1 m30224 0 1",
    "m151457 0 1 m151480 0 1 m151620 0 1 m16380 0 1 m16392 0 1 m30452 0 1 m151795 0 1 m151794 0 1",
    "m151833 0 1 m151859 0 2 -164391 0 1 m30495 0 1 m30538 0 1 m16441 0 1 m30603 0 1 m16454 0 1",
    "m16534 0 1 m152605 0 1 m30798 0 1 m30860 0 1 m30924 0 1 m16611 0 1 m153126 0 1 m31062 0 1",
    "m153242 0 1 m153285 0 1 m31119 0 1 m31211 0 1 m16687 0 1 m31296 0 1 m31306 0 1 m31311 0 1",
    "m153980 0 2 m154279 0 1 m31470 0 1 m16898 0 1 m154539 0 1 m31686 0 1 m31689 0 1 m16935 0 1",
    "m154752 0 1 m31954 0 1 m17056 0 1 m31976 0 1 m31971 0 1 m32000 0 1 m155526 0 1 m32099 0 1 m17153",
    "0 1 m32199 0 1 m32258 0 1 m32325 0 1 m17204 0 1 m156200 0 1 m156231 0 1 m17241 0 1 m156377 0 1",
    "m32634 0 1 m156478 0 1 m32661 0 1 m32762 0 1 m32773 0 1 m156890 0 1 m156963 0 1 m32864 0 1",
    "m157096 0 1 m32880 0 1 m144223 0 1 m17365 0 1 m32946 0 1 m33027 0 1 m17419 0 1 m33086 0 1 m23221",
    "0 1 m157607 0 1 m157621 0 1 m144275 0 1 m144284 0 1 m33281 0 1 m33284 0 1 m36766 0 1 m17515 0 1",
    "m33425 0 1 m33419 0 1 m33437 0 1 m21171 0 1 m33457 0 1 m33459 0 1 m33469 0 1 m33510 0 1 m158524",
    "0 1 m33509 0 1 m33565 0 1 m33635 0 1 m33709 0 1 m33571 0 1 m33725 0 1 m33767 0 1 m33879 0 1",
    "m33619 0 1 m33738 0 1 m33740 0 1 m33756 0 1 m158774 0 1 m159083 0 1 m158933 0 1 m17707 0 1",
    "m34033 0 1 m34035 0 1 m34070 0 1 m160714 0 1 m34148 0 1 m159532 0 1 m17757 0 1 m17761 0 1",
    "m159665 0 1 m159954 0 1 m17771 0 1 m34384 0 1 m34396 0 1 m34407 0 1 m34409 0 1 m34473 0 1 m34440",
    "0 1 m34574 0 1 m34530 0 1 m34681 0 1 m34600 0 1 m34667 0 1 m34694 0 1 m17879 0 1 m34785 0 1",
    "m34817 0 1 m17913 0 1 m34912 0 1 m34915 0 1 m161383 0 1 m35031 0 1 m35038 0 1 m17973 0 1 m35066",
    "0 1 m13499 0 1 m161966 0 1 m162150 0 1 m18110 0 1 m18119 0 1 m35488 0 1 m35565 0 1 m35722 0 1",
    "m35925 0 1 m162984 0 1 m36011 0 1 m36033 0 1 m36123 0 1 m36215 0 1 m163631 0 1 m133124 0 1",
    "m36299 0 1 m36284 0 1 m36336 0 1 m133342 0 1 m36564 0 1 m36664 0 1 m165330 0 1 m165357 0 1",
    "m37012 0 1 m37105 0 1 m37137 0 1 m165678 0 1 m37147 0 1 m37432 0 2 -157457 0 1 m37500 0 1 m37881",
    "0 1 m37909 0 1 m166906 0 1 m38283 0 1 m18837 0 1 m38327 0 1 m167287 0 1 m18918 0 1 m38595 0 1",
    "m23986 0 1 m38691 0 1 m168261 0 1 m168474 0 1 m19054 0 1 m19062 0 1 m38880 0 1 m168970 0 1",
    "m19122 0 1 m169110 0 2 m38923 0 1 m38953 0 1 m169398 0 1 m39138 0 1 m19251 0 1 m39209 0 1 m39335",
    "0 1 m39362 0 1 m39422 0 1 m19406 0 1 m170800 0 1 m39698 0 1 m40000 0 1 m40189 0 1 m19662 0 1",
    "m19693 0 1 m40295 0 1 m172238 0 1 m19704 0 1 m172293 0 1 m172558 0 1 m172689 0 1 m40635 0 1",
    "m19798 0 1 m40697 0 1 m40702 0 1 m40709 0 1 m40719 0 1 m40726 0 1 m40763 0 1 m173568 0 1506 x",
    "4939 5 x 8490 707718 x 0 240 i 0 196112 x"].flatMap (Text.fields ' '))).toArray

/-- Characters that may not stand first in a label. -/
def marks : Array (Nat × Nat) :=
  Text.ranges [
    "768 112 275 7 263 45 1 1 1 2 1 2 1 1 72 11 48 21 16 1 101 7 2 6 2 2 1 4 35 1 30 27 91 11 58 9 9",
    "1 24 4 1 9 1 3 1 5 43 3 59 9 42 24 1 33 54 3 1 18 1 7 10 2 29 3 56 1 1 7 2 2 2 3 9 1 10 2 26 1 2",
    "3 56 1 1 5 4 2 2 3 3 1 30 2 3 1 11 3 56 1 1 8 1 3 1 3 20 2 22 6 1 3 56 1 1 7 2 2 2 3 7 3 10 2 30",
    "1 59 5 3 3 1 4 9 1 40 5 55 1 1 7 1 3 1 4 7 2 11 2 29 3 56 1 1 7 1 3 1 4 7 2 11 2 15 1 12 4 55 2",
    "1 7 1 3 1 4 9 1 10 2 29 3 70 1 4 6 1 1 1 8 18 2 61 1 2 7 12 8 98 1 2 9 11 7 73 2 27 1 1 1 1 1 4",
    "2 49 20 1 2 5 11 1 36 9 1 100 20 23 4 4 3 1 3 2 7 3 4 13 12 1 1 10 4 703 3 946 4 28 3 29 2 30 2",
    "64 32 9 1 45 3 1 1 117 2 34 1 118 12 4 12 219 5 57 10 1 29 2 1 48 46 2 12 20 5 47 17 38 9 12 3",
    "30 13 56 14 48 20 152 3 1 21 4 1 6 1 2 3 198 64 720 33 3070 3 141 1 96 32 554 6 105 2 30164 4 1",
    "10 32 2 80 2 272 1 3 1 4 1 23 5 4 1 83 2 50 18 26 18 13 1 38 8 25 13 44 4 47 14 36 1 67 14 12 1",
    "8 2 45 3 50 1 1 3 2 2 5 2 1 1 41 5 5 2 236 8 1 2 20272 1 737 16 16 16 973 1 226 1 149 5 1670 3 1",
    "2 5 4 40 3 4 1 165 2 573 4 65 5 317 2 77 6 70 11 49 4 122 3 53 15 41 1 2 2 10 4 45 11 7 1 61 3",
    "36 14 16 2 44 1 12 3 48 14 8 4 1 2 92 12 6 1 160 12 21 4 55 2 1 7 2 2 2 3 9 1 10 2 2 7 3 5 70 6",
    "13 1 1 1 1 1 14 2 82 18 23 1 81 20 235 7 2 9 27 2 82 17 106 13 101 15 256 15 245 6 1 2 2 4 1 1 1",
    "2 141 7 2 7 3 1 28 10 40 7 1 4 8 1 9 11 46 16 198 1 1 3 1 1 200 8 1 8 82 22 1 14 122 6 3 1 1 2 1",
    "7 1 1 66 5 1 2 1 5 347 4 9 2 1 1 48 7 3 5 23 1 5349 1 6 15 11464 12 3 3 2496 5 59 7 1048 1 1 55",
    "7 4 81 1 11 2 19627 2 4705 46 2 23 542 5 3 6 8 8 2 7 30 4 148 3 1979 55 4 50 8 1 14 1 22 5 1 15",
    "1360 7 1 17 2 7 1 2 1 5 100 1 160 7 375 1 61 4 766 2 243 1 2 1 7 2 5 1 474 7 109 7 792501 240"]

/-- Joining types: 1 left, 2 dual, 3 right, 4 transparent. -/
def joiningTypes : Array Text.ClassRange :=
  Text.classTable [
    "173 1 4 594 112 4 275 7 4 263 45 4 1 1 4 1 2 4 1 2 4 1 1 4 72 11 4 1 1 4 3 1 2 1 4 3 0 1 2 0 1 3",
    "0 1 2 0 1 3 0 5 2 0 4 3 0 13 2 1 7 2 0 1 3 0 2 2 0 21 4 14 2 2 0 1 4 0 3 3 1 3 3 0 16 2 0 18 3 0",
    "38 2 0 1 3 0 2 2 0 9 3 0 1 2 0 1 3 0 1 2 0 1 3 0 2 2 0 2 3 1 1 3 0 7 4 2 6 4 2 2 4 1 4 4 0 2 3",
    "10 3 2 2 1 2 15 1 4 0 1 3 0 1 4 0 3 2 0 5 3 0 4 2 0 1 3 0 9 2 0 1 3 0 1 2 0 1 3 0 1 2 0 1 3 0 2",
    "2 0 1 3 0 27 4 2 1 3 0 11 2 0 3 3 0 15 2 0 2 3 0 4 2 0 1 3 0 1 2 0 2 3 0 3 2 0 2 3 0 6 2 38 11 4",
    "25 33 2 0 9 4 9 1 4 24 4 4 1 9 4 1 3 4 1 5 4 18 1 3 0 5 2 0 2 3 0 1 2 0 1 3 0 10 2 0 1 3 0 1 2 0",
    "3 3 0 3 4 4 1 2 1 4 2 1 1 3 0 1 2 0 2 3 5 19 3 3 1 2 2 5 2 0 1 3 0 1 2 7 9 4 0 10 2 0 3 3 1 1 3",
    "0 2 2 0 2 3 0 6 2 0 1 3 0 15 2 1 24 4 1 32 4 55 1 4 1 1 4 4 8 4 4 1 4 3 7 4 10 2 4 29 1 4 58 1 4",
    "4 4 4 8 1 4 20 2 4 26 1 4 2 2 4 57 1 4 4 2 4 4 2 4 2 3 4 3 1 4 30 2 4 3 1 4 11 2 4 57 1 4 4 5 4",
    "1 2 4 4 1 4 20 2 4 22 6 4 1 1 4 58 1 4 2 1 4 1 4 4 8 1 4 7 2 4 11 2 4 30 1 4 61 1 4 12 1 4 50 1",
    "4 3 1 4 55 1 4 1 3 4 5 3 4 1 4 4 7 2 4 11 2 4 29 1 4 58 1 4 2 1 4 6 1 4 5 2 4 20 2 4 28 2 4 57 2",
    "4 4 4 4 8 1 4 20 2 4 29 1 4 72 1 4 7 3 4 1 1 4 90 1 4 2 7 4 12 8 4 98 1 4 2 9 4 11 7 4 73 2 4 27",
    "1 4 1 1 4 1 1 4 55 14 4 1 5 4 1 2 4 5 11 4 1 36 4 9 1 4 102 4 4 1 6 4 1 2 4 2 2 4 25 2 4 4 3 4",
    "16 4 4 13 1 4 2 2 4 6 1 4 15 1 4 703 3 4 946 3 4 29 2 4 30 2 4 30 2 4 64 2 4 1 7 4 8 1 4 2 11 4",
    "9 1 4 41 1 2 3 3 4 1 1 4 16 89 2 12 2 4 0 34 2 0 1 4 0 1 2 117 3 4 4 2 4 9 1 4 6 3 4 219 2 4 2 1",
    "4 58 1 4 1 7 4 1 1 4 1 1 4 2 8 4 6 10 4 2 1 4 48 46 4 2 12 4 20 4 4 48 1 4 1 5 4 1 1 4 5 1 4 40",
    "9 4 12 2 4 32 4 4 2 2 4 1 3 4 56 1 4 1 2 4 3 1 4 1 3 4 58 8 4 2 2 4 152 3 4 1 13 4 1 7 4 4 1 4 6",
    "1 4 3 2 4 198 64 4 523 1 4 2 2 4 26 5 4 49 5 4 5 6 4 96 33 4 3070 3 4 141 1 4 96 32 4 554 4 4",
    "107 2 4 30164 4 4 1 10 4 32 2 4 80 2 4 272 1 4 3 1 4 4 1 4 25 2 4 5 1 4 19 50 2 0 1 1 81 2 4 26",
    "18 4 13 1 4 38 8 4 25 11 4 46 3 4 48 1 4 2 4 4 2 2 4 39 1 4 67 6 4 2 2 4 2 2 4 12 1 4 8 1 4 47 1",
    "4 51 1 4 1 3 4 2 2 4 5 2 4 1 1 4 42 2 4 8 1 4 238 1 4 2 1 4 4 1 4 20272 1 4 737 16 4 16 16 4 207",
    "1 4 249 3 4 513 1 4 226 1 4 149 5 4 1670 3 4 1 2 4 5 4 4 40 3 4 4 1 4 128 5 2 0 1 3 1 1 3 1 2 3",
    "2 1 1 0 5 3 0 4 2 0 1 1 0 5 2 0 1 3 0 3 2 0 1 3 2 1 3 0 2 4 4 4 2 0 1 3 144 1 2 0 1 3 0 1 2 0 3",
    "3 0 3 2 0 1 3 0 2 2 0 1 3 0 1 2 0 2 3 0 1 2 0 1 3 23 4 3 0 2 2 337 1 1 0 33 2 0 1 3 0 1 2 0 4 4",
    "65 5 4 317 2 4 21 1 3 0 2 2 1 2 2 50 6 4 48 3 2 0 1 3 0 17 2 1 11 4 0 3 2 0 1 3 27 4 2 0 2 3 0",
    "12 2 0 4 4 42 1 2 1 2 2 0 3 3 1 1 2 0 2 3 0 2 2 0 1 3 0 2 2 1 1 2 0 2 3 0 1 2 4 1 3 0 1 2 0 1 1",
    "53 1 4 54 15 4 41 1 4 2 2 4 10 3 4 49 4 4 2 2 4 7 1 4 61 3 4 36 5 4 1 8 4 62 1 4 12 2 4 52 9 4",
    "10 4 4 2 1 4 95 3 4 2 1 4 1 2 4 6 1 4 2 1 4 157 1 4 3 8 4 21 2 4 57 2 4 3 1 4 37 7 4 3 5 4 70 6",
    "4 13 1 4 1 1 4 1 1 4 14 2 4 85 8 4 2 3 4 1 1 4 23 1 4 84 6 4 1 1 4 4 2 4 1 2 4 238 4 4 6 2 4 1 2",
    "4 27 2 4 85 8 4 2 1 4 1 2 4 106 1 4 1 1 4 2 6 4 1 1 4 101 1 4 1 1 4 2 4 4 1 5 4 259 9 4 1 2 4",
    "256 2 4 1 1 4 4 1 4 144 4 4 2 2 4 4 1 4 32 10 4 40 6 4 2 4 4 8 1 4 9 6 4 2 3 4 46 13 4 1 2 4 198",
    "1 4 1 3 4 1 1 4 201 7 4 1 6 4 1 1 4 82 22 4 2 7 4 1 2 4 1 2 4 122 6 4 3 1 4 1 2 4 1 7 4 1 1 4 72",
    "2 4 3 1 4 1 1 4 347 2 4 11 2 4 52 5 4 5 1 4 1 1 4 23 1 4 5333 17 4 6 15 4 11464 12 4 3 3 4 2496",
    "5 4 59 7 4 1048 1 4 63 4 4 81 1 4 19640 2 4 1 4 4 4700 46 4 2 23 4 544 3 4 9 16 4 2 7 4 30 4 4",
    "148 3 4 1979 55 4 4 50 4 8 1 4 14 1 4 22 5 4 1 15 4 1360 7 4 1 17 4 2 7 4 1 2 4 1 5 4 100 1 4",
    "160 7 4 375 1 4 61 4 4 508 4 4 254 2 4 243 1 4 2 1 4 7 2 4 5 1 4 474 7 4 41 68 2 0 8 4 792245 1",
    "4 30 96 4 128 240 4"]

/-- Classes of direction other than left to right: 1 right to left, 2 Arabic letter, 3 Arabic
number, 4 European number, 5 and 6 separators, 7 terminator, 8 neutral, 9 boundary, 10 mark,
11 other. -/
def directions : Array Text.ClassRange :=
  Text.classTable [
    "0 9 9 0 5 11 0 14 9 0 5 11 0 2 8 0 3 7 0 5 8 0 1 5 0 1 6 0 1 5 0 2 6 0 10 4 0 1 6 0 6 8 26 6 8",
    "26 4 8 0 6 9 0 1 11 0 26 9 0 1 6 0 1 8 0 4 7 0 4 8 1 2 8 0 1 9 0 2 8 0 2 7 0 2 4 0 1 8 1 3 8 0 1",
    "4 1 5 8 23 1 8 31 1 8 449 2 8 7 14 8 2 14 8 5 9 8 1 17 8 0 112 10 4 2 8 8 1 8 5 2 8 1 1 8 110 1",
    "8 140 7 10 256 1 8 2 2 8 0 1 7 1 45 10 0 1 1 0 1 10 0 1 1 0 2 10 0 1 1 0 2 10 0 1 1 0 1 10 8 27",
    "1 4 6 1 11 6 3 0 2 8 0 1 2 0 2 7 0 1 2 0 1 6 0 1 2 0 2 8 0 11 10 0 48 2 0 21 10 0 10 3 0 1 7 0 2",
    "3 0 3 2 0 1 10 0 101 2 0 7 10 0 1 3 0 1 8 0 6 10 0 2 2 0 2 10 0 1 8 0 4 10 0 2 2 0 10 4 0 20 2 1",
    "2 2 0 1 10 0 30 2 0 27 10 2 89 2 0 11 10 0 1 2 14 43 1 0 9 10 0 2 1 0 4 8 0 1 1 2 1 10 0 24 1 0",
    "4 10 0 1 1 0 9 10 0 1 1 0 3 10 0 1 1 0 5 10 2 15 1 1 25 1 0 3 10 2 1 1 1 11 2 5 31 2 1 2 3 5 9",
    "10 0 42 2 0 24 10 0 1 3 0 32 10 55 1 10 1 1 10 4 8 10 4 1 10 3 7 10 10 2 10 29 1 10 58 1 10 4 4",
    "10 8 1 10 20 2 10 14 2 7 7 1 7 2 1 10 2 2 10 57 1 10 4 2 10 4 2 10 2 3 10 3 1 10 30 2 10 3 1 10",
    "11 2 10 57 1 10 4 5 10 1 2 10 4 1 10 20 2 10 13 1 7 8 6 10 1 1 10 58 1 10 2 1 10 1 4 10 8 1 10 7",
    "2 10 11 2 10 30 1 10 61 1 10 12 1 10 37 6 8 0 1 7 0 1 8 5 1 10 3 1 10 55 1 10 1 3 10 5 3 10 1 4",
    "10 7 2 10 11 2 10 20 7 8 2 1 10 58 1 10 15 2 10 20 2 10 15 1 10 12 2 10 57 2 10 4 4 10 8 1 10 20",
    "2 10 29 1 10 72 1 10 7 3 10 1 1 10 90 1 10 2 7 10 4 1 7 7 8 10 98 1 10 2 9 10 11 7 10 73 2 10 27",
    "1 10 1 1 10 1 1 10 0 4 8 51 14 10 1 5 10 1 2 10 5 11 10 1 36 10 9 1 10 102 4 10 1 6 10 1 2 10 2",
    "2 10 25 2 10 4 3 10 16 4 10 13 1 10 2 2 10 6 1 10 15 1 10 703 3 10 48 10 8 102 1 8 639 1 11 26 2",
    "8 117 3 10 29 2 10 30 2 10 30 2 10 64 2 10 1 7 10 8 1 10 2 11 10 7 1 7 1 1 10 18 10 8 6 11 8 0 3",
    "10 0 1 9 0 1 10 117 2 10 34 1 10 118 3 10 4 2 10 9 1 10 6 3 10 4 1 8 3 2 8 152 34 8 23 2 10 2 1",
    "10 58 1 10 1 7 10 1 1 10 1 1 10 2 8 10 6 10 10 2 1 10 48 46 10 2 12 10 20 4 10 48 1 10 1 5 10 1",
    "1 10 5 1 10 40 9 10 12 2 10 32 4 10 2 2 10 1 3 10 56 1 10 1 2 10 3 1 10 1 3 10 58 8 10 2 2 10",
    "152 3 10 1 13 10 1 7 10 4 1 10 6 1 10 3 2 10 198 64 10 445 1 8 1 3 8 11 3 8 13 3 8 13 3 8 13 2 8",
    "1 11 11 0 3 9 1 1 1 0 24 8 0 7 11 0 1 6 0 5 7 0 15 8 0 1 6 0 26 8 0 1 11 0 5 9 1 4 11 0 6 9 0 1",
    "4 3 6 4 0 2 5 0 3 8 1 10 4 0 2 5 0 3 8 17 33 7 15 33 10 15 2 8 1 4 8 1 2 8 10 1 8 1 3 8 5 6 8 1",
    "1 8 1 1 8 1 1 8 4 1 7 11 2 8 4 5 8 5 4 8 2 16 8 41 3 8 4 130 8 0 1 5 0 1 7 0 290 8 69 26 8 1 145",
    "8 25 11 8 21 40 8 0 20 4 78 450 8 1 339 8 256 628 8 2 32 8 1 105 8 229 6 8 4 3 10 7 7 8 127 1 10",
    "96 32 10 0 94 8 34 26 8 1 89 8 12 214 8 26 12 8 4 1 11 0 4 8 3 25 8 9 4 10 2 1 8 5 2 8 5 3 8 89",
    "2 10 0 2 8 3 1 8 90 1 8 196 36 8 57 2 8 49 16 8 28 3 8 50 15 8 12 4 8 167 4 8 99 2 8 31 1 8 6592",
    "64 8 22160 55 8 326 3 8 95 4 10 0 1 8 0 10 10 0 2 8 30 2 10 80 2 10 14 34 8 102 1 8 121 1 10 3 1",
    "10 4 1 10 25 2 10 1 4 8 0 1 10 11 2 7 58 4 8 76 2 10 26 18 10 13 1 10 38 8 10 25 11 10 46 3 10",
    "48 1 10 2 4 10 2 2 10 39 1 10 67 6 10 2 2 10 2 2 10 12 1 10 8 1 10 47 1 10 51 1 10 1 3 10 2 2 10",
    "5 2 10 1 1 10 42 2 10 8 1 10 115 2 8 121 1 10 2 1 10 4 1 10 20271 1 1 0 1 10 0 10 1 0 1 5 0 13 1",
    "1 5 1 1 1 1 1 2 1 1 2 1 1 10 1 0 115 2 16 363 2 0 18 8 0 64 2 2 54 2 7 1 8 32 13 2 0 3 8 0 16 10",
    "0 10 8 6 16 10 0 32 8 0 1 6 0 1 8 0 1 6 1 1 8 0 1 6 0 9 8 0 1 7 0 2 8 0 2 5 0 3 8 1 1 8 0 2 7 0",
    "1 8 4 5 2 1 135 2 2 1 9 1 2 8 0 3 7 0 5 8 0 1 5 0 1 6 0 1 5 0 2 6 0 10 4 0 1 6 0 6 8 26 6 8 26",
    "11 8 122 2 7 0 3 8 0 2 7 1 7 8 10 5 8 259 1 8 62 77 8 3 13 8 3 1 8 92 1 10 226 1 10 0 27 4 122 5",
    "10 1157 6 1 2 1 1 1 44 1 1 2 1 3 1 1 2 23 1 1 72 1 8 9 1 48 19 1 1 2 1 5 33 1 3 1 8 0 26 1 5 1 1",
    "64 56 1 4 20 1 2 47 1 0 3 10 1 2 10 5 4 10 0 4 1 1 3 1 1 29 1 2 3 10 4 1 10 0 9 1 7 9 1 7 64 1",
    "32 37 1 0 2 10 4 12 1 9 54 1 3 7 8 0 22 1 2 27 1 5 26 1 7 4 1 12 7 1 80 73 1 55 51 1 13 51 1 7 6",
    "1 0 36 2 0 4 10 8 10 3 47 5 10 242 31 3 1 42 1 1 2 10 0 1 1 2 2 1 72 6 10 0 40 1 8 22 2 0 11 10",
    "0 9 2 22 18 1 0 4 10 0 4 1 38 28 1 20 23 1 10 1 10 54 15 10 11 20 8 10 1 10 2 2 10 10 3 10 49 4",
    "10 2 2 10 7 1 10 61 3 10 36 5 10 1 8 10 62 1 10 12 2 10 52 9 10 10 4 10 2 1 10 95 3 10 2 1 10 1",
    "2 10 6 1 10 160 1 10 3 8 10 21 2 10 57 2 10 3 1 10 37 7 10 3 5 10 70 6 10 13 1 10 1 1 10 1 1 10",
    "14 2 10 85 8 10 2 3 10 1 1 10 23 1 10 84 6 10 1 1 10 4 2 10 1 2 10 238 4 10 6 2 10 1 2 10 27 2",
    "10 85 8 10 2 1 10 1 2 10 31 13 8 62 1 10 1 1 10 2 6 10 1 1 10 101 3 10 2 4 10 1 5 10 259 9 10 1",
    "2 10 256 2 10 1 1 10 4 1 10 144 4 10 2 2 10 4 1 10 32 6 10 2 2 10 40 6 10 2 4 10 8 1 10 9 6 10 2",
    "3 10 46 13 10 1 2 10 198 1 10 1 3 10 1 1 10 201 7 10 1 6 10 84 22 10 2 7 10 1 2 10 1 2 10 122 6",
    "10 3 1 10 1 2 10 1 7 10 1 1 10 72 2 10 3 1 10 1 1 10 347 2 10 11 2 10 1 1 10 48 7 10 3 5 10 23 1",
    "10 122 8 8 0 4 7 0 17 8 5198 1 10 6 15 10 11464 12 10 3 3 10 2496 5 10 59 7 10 1048 1 10 63 4 10",
    "79 1 8 1 1 10 19640 2 10 1 4 9 4700 46 10 2 23 10 544 3 10 9 8 9 0 8 10 2 7 10 30 4 10 59 2 8 21",
    "66 8 0 3 10 0 1 8 186 87 8 900 1 8 57 1 8 57 1 8 57 1 8 57 1 8 10 50 4 512 55 10 4 50 10 8 1 10",
    "14 1 10 22 5 10 1 15 10 1360 7 10 1 17 10 2 7 10 1 2 10 1 5 10 100 1 10 160 7 10 375 1 10 61 4",
    "10 15 1 7 750 2 10 243 1 10 2 1 10 7 2 10 5 1 10 266 197 1 2 9 1 0 7 10 41 68 1 0 7 10 0 1 1 4",
    "10 1 4 2 1 785 68 2 76 61 2 194 4 2 1 27 2 1 2 2 1 1 2 2 1 2 1 10 2 1 4 2 1 1 2 1 1 2 6 1 2 4 1",
    "2 1 1 2 1 1 2 1 3 2 1 2 2 1 1 2 2 1 2 1 1 2 1 1 2 1 1 2 1 1 2 1 2 2 1 1 2 2 4 2 1 7 2 1 4 2 1 4",
    "2 1 1 2 1 10 2 1 17 2 5 3 2 1 5 2 1 17 2 52 2 8 270 44 8 4 100 8 12 15 8 2 15 8 1 15 8 1 37 8 10",
    "11 4 0 5 8 31 1 8 58 6 8 61 1 8 178 6 8 154 984 8 5 16 8 3 13 8 3 116 8 12 89 8 7 12 8 4 1 8 15",
    "12 8 4 56 8 8 10 8 6 40 8 8 30 8 2 2 8 78 340 8 12 14 8 2 5 8 3 5 8 3 7 8 9 29 8 3 11 8 5 6 8 10",
    "10 8 6 8 8 8 7 8 9 147 8 1 55 8 37 10 4 787463 1 9 30 96 9 128 240 10"]

end Domain
end EntityTrust
