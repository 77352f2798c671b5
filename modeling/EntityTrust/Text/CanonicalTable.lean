import EntityTrust.Text.Ranges

/-!
# Tables of canonical equivalence

**Decompositions.**  For each character the distance from the one before and the one or two
characters it stands for; a zero in the second place means that there is one.

**Exclusions.**  Characters that stand for two others and are not put together from them.

**Classes.**  Ranges of combining characters with their class.
-/

namespace EntityTrust
namespace Text

/-- A character with what it stands for. -/
structure Decomposition where
  code : Nat
  first : Nat
  second : Nat

/-- Decompositions from a list of distances and code points. -/
def decompositionsFrom (start : Nat) : List Nat → List Decomposition
  | gap :: first :: second :: rest =>
      ⟨start + gap, first, second⟩ :: decompositionsFrom (start + gap + 1) rest
  | _ => []

/-- A range of characters with a class. -/
structure ClassRange where
  low : Nat
  high : Nat
  value : Nat

/-- Ranges from a list of distances, lengths and classes. -/
def classesFrom (start : Nat) : List Nat → List ClassRange
  | gap :: size :: value :: rest =>
      ⟨start + gap, start + gap + size - 1, value⟩ :: classesFrom (start + gap + size) rest
  | _ => []

/-- The numbers of a table written in lines. -/
def numbers (lines : List String) : List Nat :=
  lines.flatMap fun l => (fields ' ' l).map natOf

/-- Reads a table of classes written in lines. -/
def classTable (lines : List String) : Array ClassRange :=
  (classesFrom 0 (numbers lines)).toArray

/-- The class of a code point, zero when no range holds it. -/
def classOf (table : Array ClassRange) (n : Nat) : Nat :=
  match lastUpTo ClassRange.low table n with
  | some r => if n ≤ r.high then r.value else 0
  | none => 0

/-- Canonical decompositions. -/
def decompositions : Array Decomposition :=
  (decompositionsFrom 0 (numbers [
    "192 65 768 0 65 769 0 65 770 0 65 771 0 65 776 0 65 778 1 67 807 0 69 768 0 69 769 0 69 770 0 69",
    "776 0 73 768 0 73 769 0 73 770 0 73 776 1 78 771 0 79 768 0 79 769 0 79 770 0 79 771 0 79 776 2",
    "85 768 0 85 769 0 85 770 0 85 776 0 89 769 2 97 768 0 97 769 0 97 770 0 97 771 0 97 776 0 97 778",
    "1 99 807 0 101 768 0 101 769 0 101 770 0 101 776 0 105 768 0 105 769 0 105 770 0 105 776 1 110",
    "771 0 111 768 0 111 769 0 111 770 0 111 771 0 111 776 2 117 768 0 117 769 0 117 770 0 117 776 0",
    "121 769 1 121 776 0 65 772 0 97 772 0 65 774 0 97 774 0 65 808 0 97 808 0 67 769 0 99 769 0 67",
    "770 0 99 770 0 67 775 0 99 775 0 67 780 0 99 780 0 68 780 0 100 780 2 69 772 0 101 772 0 69 774",
    "0 101 774 0 69 775 0 101 775 0 69 808 0 101 808 0 69 780 0 101 780 0 71 770 0 103 770 0 71 774 0",
    "103 774 0 71 775 0 103 775 0 71 807 0 103 807 0 72 770 0 104 770 2 73 771 0 105 771 0 73 772 0",
    "105 772 0 73 774 0 105 774 0 73 808 0 105 808 0 73 775 3 74 770 0 106 770 0 75 807 0 107 807 1",
    "76 769 0 108 769 0 76 807 0 108 807 0 76 780 0 108 780 4 78 769 0 110 769 0 78 807 0 110 807 0",
    "78 780 0 110 780 3 79 772 0 111 772 0 79 774 0 111 774 0 79 779 0 111 779 2 82 769 0 114 769 0",
    "82 807 0 114 807 0 82 780 0 114 780 0 83 769 0 115 769 0 83 770 0 115 770 0 83 807 0 115 807 0",
    "83 780 0 115 780 0 84 807 0 116 807 0 84 780 0 116 780 2 85 771 0 117 771 0 85 772 0 117 772 0",
    "85 774 0 117 774 0 85 778 0 117 778 0 85 779 0 117 779 0 85 808 0 117 808 0 87 770 0 119 770 0",
    "89 770 0 121 770 0 89 776 0 90 769 0 122 769 0 90 775 0 122 775 0 90 780 0 122 780 33 79 795 0",
    "111 795 13 85 795 0 117 795 28 65 780 0 97 780 0 73 780 0 105 780 0 79 780 0 111 780 0 85 780 0",
    "117 780 0 220 772 0 252 772 0 220 769 0 252 769 0 220 780 0 252 780 0 220 768 0 252 768 1 196",
    "772 0 228 772 0 550 772 0 551 772 0 198 772 0 230 772 2 71 780 0 103 780 0 75 780 0 107 780 0 79",
    "808 0 111 808 0 490 772 0 491 772 0 439 780 0 658 780 0 106 780 3 71 769 0 103 769 2 78 768 0",
    "110 768 0 197 769 0 229 769 0 198 769 0 230 769 0 216 769 0 248 769 0 65 783 0 97 783 0 65 785 0",
    "97 785 0 69 783 0 101 783 0 69 785 0 101 785 0 73 783 0 105 783 0 73 785 0 105 785 0 79 783 0",
    "111 783 0 79 785 0 111 785 0 82 783 0 114 783 0 82 785 0 114 785 0 85 783 0 117 783 0 85 785 0",
    "117 785 0 83 806 0 115 806 0 84 806 0 116 806 2 72 780 0 104 780 6 65 775 0 97 775 0 69 807 0",
    "101 807 0 214 772 0 246 772 0 213 772 0 245 772 0 79 775 0 111 775 0 558 772 0 559 772 0 89 772",
    "0 121 772 268 768 0 0 769 0 1 787 0 0 776 769 47 697 0 9 59 0 6 168 769 0 913 769 0 183 0 0 917",
    "769 0 919 769 0 921 769 1 927 769 1 933 769 0 937 769 0 970 769 25 921 776 0 933 776 0 945 769 0",
    "949 769 0 951 769 0 953 769 0 971 769 25 953 776 0 965 776 0 959 769 0 965 769 0 969 769 4 978",
    "769 0 978 776 43 1045 768 0 1045 776 1 1043 769 3 1030 776 4 1050 769 0 1048 768 0 1059 774 10",
    "1048 774 31 1080 774 22 1077 768 0 1077 776 1 1075 769 3 1110 776 4 1082 769 0 1080 768 0 1091",
    "774 23 1140 783 0 1141 783 73 1046 774 0 1078 774 13 1040 774 0 1072 774 0 1040 776 0 1072 776 2",
    "1045 774 0 1077 774 2 1240 776 0 1241 776 0 1046 776 0 1078 776 0 1047 776 0 1079 776 2 1048 772",
    "0 1080 772 0 1048 776 0 1080 776 0 1054 776 0 1086 776 2 1256 776 0 1257 776 0 1069 776 0 1101",
    "776 0 1059 772 0 1091 772 0 1059 776 0 1091 776 0 1059 779 0 1091 779 0 1063 776 0 1095 776 2",
    "1067 776 0 1099 776 296 1575 1619 0 1575 1620 0 1608 1620 0 1575 1621 0 1610 1620 153 1749 1620",
    "1 1729 1620 16 1746 1620 597 2344 2364 7 2352 2364 2 2355 2364 35 2325 2364 0 2326 2364 0 2327",
    "2364 0 2332 2364 0 2337 2364 0 2338 2364 0 2347 2364 0 2351 2364 107 2503 2494 0 2503 2519 15",
    "2465 2492 0 2466 2492 1 2479 2492 83 2610 2620 2 2616 2620 34 2582 2620 0 2583 2620 0 2588 2620",
    "2 2603 2620 233 2887 2902 2 2887 2878 0 2887 2903 15 2849 2876 0 2850 2876 54 2962 3031 53 3014",
    "3006 0 3015 3006 0 3014 3031 123 3142 3158 119 3263 3285 6 3270 3285 0 3270 3286 1 3270 3266 0",
    "3274 3285 126 3398 3390 0 3399 3390 0 3398 3415 141 3545 3530 1 3545 3535 0 3548 3530 0 3545",
    "3551 356 3906 4023 9 3916 4023 4 3921 4023 4 3926 4023 4 3931 4023 12 3904 4021 9 3953 3954 1",
    "3953 3956 0 4018 3968 1 4019 3968 8 3953 3968 17 3986 4023 9 3996 4023 4 4001 4023 4 4006 4023 4",
    "4011 4023 12 3984 4021 108 4133 4142 2783 6917 6965 1 6919 6965 1 6921 6965 1 6923 6965 1 6925",
    "6965 3 6929 6965 40 6970 6965 1 6972 6965 2 6974 6965 0 6975 6965 1 6978 6965 700 65 805 0 97",
    "805 0 66 775 0 98 775 0 66 803 0 98 803 0 66 817 0 98 817 0 199 769 0 231 769 0 68 775 0 100 775",
    "0 68 803 0 100 803 0 68 817 0 100 817 0 68 807 0 100 807 0 68 813 0 100 813 0 274 768 0 275 768",
    "0 274 769 0 275 769 0 69 813 0 101 813 0 69 816 0 101 816 0 552 774 0 553 774 0 70 775 0 102 775",
    "0 71 772 0 103 772 0 72 775 0 104 775 0 72 803 0 104 803 0 72 776 0 104 776 0 72 807 0 104 807 0",
    "72 814 0 104 814 0 73 816 0 105 816 0 207 769 0 239 769 0 75 769 0 107 769 0 75 803 0 107 803 0",
    "75 817 0 107 817 0 76 803 0 108 803 0 7734 772 0 7735 772 0 76 817 0 108 817 0 76 813 0 108 813",
    "0 77 769 0 109 769 0 77 775 0 109 775 0 77 803 0 109 803 0 78 775 0 110 775 0 78 803 0 110 803 0",
    "78 817 0 110 817 0 78 813 0 110 813 0 213 769 0 245 769 0 213 776 0 245 776 0 332 768 0 333 768",
    "0 332 769 0 333 769 0 80 769 0 112 769 0 80 775 0 112 775 0 82 775 0 114 775 0 82 803 0 114 803",
    "0 7770 772 0 7771 772 0 82 817 0 114 817 0 83 775 0 115 775 0 83 803 0 115 803 0 346 775 0 347",
    "775 0 352 775 0 353 775 0 7778 775 0 7779 775 0 84 775 0 116 775 0 84 803 0 116 803 0 84 817 0",
    "116 817 0 84 813 0 116 813 0 85 804 0 117 804 0 85 816 0 117 816 0 85 813 0 117 813 0 360 769 0",
    "361 769 0 362 776 0 363 776 0 86 771 0 118 771 0 86 803 0 118 803 0 87 768 0 119 768 0 87 769 0",
    "119 769 0 87 776 0 119 776 0 87 775 0 119 775 0 87 803 0 119 803 0 88 775 0 120 775 0 88 776 0",
    "120 776 0 89 775 0 121 775 0 90 770 0 122 770 0 90 803 0 122 803 0 90 817 0 122 817 0 104 817 0",
    "116 776 0 119 778 0 121 778 1 383 775 4 65 803 0 97 803 0 65 777 0 97 777 0 194 769 0 226 769 0",
    "194 768 0 226 768 0 194 777 0 226 777 0 194 771 0 226 771 0 7840 770 0 7841 770 0 258 769 0 259",
    "769 0 258 768 0 259 768 0 258 777 0 259 777 0 258 771 0 259 771 0 7840 774 0 7841 774 0 69 803 0",
    "101 803 0 69 777 0 101 777 0 69 771 0 101 771 0 202 769 0 234 769 0 202 768 0 234 768 0 202 777",
    "0 234 777 0 202 771 0 234 771 0 7864 770 0 7865 770 0 73 777 0 105 777 0 73 803 0 105 803 0 79",
    "803 0 111 803 0 79 777 0 111 777 0 212 769 0 244 769 0 212 768 0 244 768 0 212 777 0 244 777 0",
    "212 771 0 244 771 0 7884 770 0 7885 770 0 416 769 0 417 769 0 416 768 0 417 768 0 416 777 0 417",
    "777 0 416 771 0 417 771 0 416 803 0 417 803 0 85 803 0 117 803 0 85 777 0 117 777 0 431 769 0",
    "432 769 0 431 768 0 432 768 0 431 777 0 432 777 0 431 771 0 432 771 0 431 803 0 432 803 0 89 768",
    "0 121 768 0 89 803 0 121 803 0 89 777 0 121 777 0 89 771 0 121 771 6 945 787 0 945 788 0 7936",
    "768 0 7937 768 0 7936 769 0 7937 769 0 7936 834 0 7937 834 0 913 787 0 913 788 0 7944 768 0 7945",
    "768 0 7944 769 0 7945 769 0 7944 834 0 7945 834 0 949 787 0 949 788 0 7952 768 0 7953 768 0 7952",
    "769 0 7953 769 2 917 787 0 917 788 0 7960 768 0 7961 768 0 7960 769 0 7961 769 2 951 787 0 951",
    "788 0 7968 768 0 7969 768 0 7968 769 0 7969 769 0 7968 834 0 7969 834 0 919 787 0 919 788 0 7976",
    "768 0 7977 768 0 7976 769 0 7977 769 0 7976 834 0 7977 834 0 953 787 0 953 788 0 7984 768 0 7985",
    "768 0 7984 769 0 7985 769 0 7984 834 0 7985 834 0 921 787 0 921 788 0 7992 768 0 7993 768 0 7992",
    "769 0 7993 769 0 7992 834 0 7993 834 0 959 787 0 959 788 0 8000 768 0 8001 768 0 8000 769 0 8001",
    "769 2 927 787 0 927 788 0 8008 768 0 8009 768 0 8008 769 0 8009 769 2 965 787 0 965 788 0 8016",
    "768 0 8017 768 0 8016 769 0 8017 769 0 8016 834 0 8017 834 1 933 788 1 8025 768 1 8025 769 1",
    "8025 834 0 969 787 0 969 788 0 8032 768 0 8033 768 0 8032 769 0 8033 769 0 8032 834 0 8033 834 0",
    "937 787 0 937 788 0 8040 768 0 8041 768 0 8040 769 0 8041 769 0 8040 834 0 8041 834 0 945 768 0",
    "940 0 0 949 768 0 941 0 0 951 768 0 942 0 0 953 768 0 943 0 0 959 768 0 972 0 0 965 768 0 973 0",
    "0 969 768 0 974 0 2 7936 837 0 7937 837 0 7938 837 0 7939 837 0 7940 837 0 7941 837 0 7942 837 0",
    "7943 837 0 7944 837 0 7945 837 0 7946 837 0 7947 837 0 7948 837 0 7949 837 0 7950 837 0 7951 837",
    "0 7968 837 0 7969 837 0 7970 837 0 7971 837 0 7972 837 0 7973 837 0 7974 837 0 7975 837 0 7976",
    "837 0 7977 837 0 7978 837 0 7979 837 0 7980 837 0 7981 837 0 7982 837 0 7983 837 0 8032 837 0",
    "8033 837 0 8034 837 0 8035 837 0 8036 837 0 8037 837 0 8038 837 0 8039 837 0 8040 837 0 8041 837",
    "0 8042 837 0 8043 837 0 8044 837 0 8045 837 0 8046 837 0 8047 837 0 945 774 0 945 772 0 8048 837",
    "0 945 837 0 940 837 1 945 834 0 8118 837 0 913 774 0 913 772 0 913 768 0 902 0 0 913 837 1 953 0",
    "2 168 834 0 8052 837 0 951 837 0 942 837 1 951 834 0 8134 837 0 917 768 0 904 0 0 919 768 0 905",
    "0 0 919 837 0 8127 768 0 8127 769 0 8127 834 0 953 774 0 953 772 0 970 768 0 912 0 2 953 834 0",
    "970 834 0 921 774 0 921 772 0 921 768 0 906 0 1 8190 768 0 8190 769 0 8190 834 0 965 774 0 965",
    "772 0 971 768 0 944 0 0 961 787 0 961 788 0 965 834 0 971 834 0 933 774 0 933 772 0 933 768 0",
    "910 0 0 929 788 0 168 768 0 901 0 0 96 0 2 8060 837 0 969 837 0 974 837 1 969 834 0 8182 837 0",
    "927 768 0 908 0 0 937 768 0 911 0 0 937 837 0 180 0 2 8194 0 0 8195 0 292 937 0 3 75 0 0 197 0",
    "110 8592 824 0 8594 824 18 8596 824 30 8656 824 0 8660 824 0 8658 824 52 8707 824 4 8712 824 2",
    "8715 824 23 8739 824 1 8741 824 26 8764 824 2 8771 824 2 8773 824 1 8776 824 22 61 824 1 8801",
    "824 10 8781 824 0 60 824 0 62 824 0 8804 824 0 8805 824 2 8818 824 0 8819 824 2 8822 824 0 8823",
    "824 6 8826 824 0 8827 824 2 8834 824 0 8835 824 2 8838 824 0 8839 824 34 8866 824 0 8872 824 0",
    "8873 824 0 8875 824 48 8828 824 0 8829 824 0 8849 824 0 8850 824 6 8882 824 0 8883 824 0 8884",
    "824 0 8885 824 59 12296 0 0 12297 0 1969 10973 824 1391 12363 12441 1 12365 12441 1 12367 12441",
    "1 12369 12441 1 12371 12441 1 12373 12441 1 12375 12441 1 12377 12441 1 12379 12441 1 12381",
    "12441 1 12383 12441 1 12385 12441 2 12388 12441 1 12390 12441 1 12392 12441 6 12399 12441 0",
    "12399 12442 1 12402 12441 0 12402 12442 1 12405 12441 0 12405 12442 1 12408 12441 0 12408 12442",
    "1 12411 12441 0 12411 12442 22 12358 12441 9 12445 12441 13 12459 12441 1 12461 12441 1 12463",
    "12441 1 12465 12441 1 12467 12441 1 12469 12441 1 12471 12441 1 12473 12441 1 12475 12441 1",
    "12477 12441 1 12479 12441 1 12481 12441 2 12484 12441 1 12486 12441 1 12488 12441 6 12495 12441",
    "0 12495 12442 1 12498 12441 0 12498 12442 1 12501 12441 0 12501 12442 1 12504 12441 0 12504",
    "12442 1 12507 12441 0 12507 12442 22 12454 12441 2 12527 12441 0 12528 12441 0 12529 12441 0",
    "12530 12441 3 12541 12441 51201 35912 0 0 26356 0 0 36554 0 0 36040 0 0 28369 0 0 20018 0 0",
    "21477 0 0 40860 0 0 40860 0 0 22865 0 0 37329 0 0 21895 0 0 22856 0 0 25078 0 0 30313 0 0 32645",
    "0 0 34367 0 0 34746 0 0 35064 0 0 37007 0 0 27138 0 0 27931 0 0 28889 0 0 29662 0 0 33853 0 0",
    "37226 0 0 39409 0 0 20098 0 0 21365 0 0 27396 0 0 29211 0 0 34349 0 0 40478 0 0 23888 0 0 28651",
    "0 0 34253 0 0 35172 0 0 25289 0 0 33240 0 0 34847 0 0 24266 0 0 26391 0 0 28010 0 0 29436 0 0",
    "37070 0 0 20358 0 0 20919 0 0 21214 0 0 25796 0 0 27347 0 0 29200 0 0 30439 0 0 32769 0 0 34310",
    "0 0 34396 0 0 36335 0 0 38706 0 0 39791 0 0 40442 0 0 30860 0 0 31103 0 0 32160 0 0 33737 0 0",
    "37636 0 0 40575 0 0 35542 0 0 22751 0 0 24324 0 0 31840 0 0 32894 0 0 29282 0 0 30922 0 0 36034",
    "0 0 38647 0 0 22744 0 0 23650 0 0 27155 0 0 28122 0 0 28431 0 0 32047 0 0 32311 0 0 38475 0 0",
    "21202 0 0 32907 0 0 20956 0 0 20940 0 0 31260 0 0 32190 0 0 33777 0 0 38517 0 0 35712 0 0 25295",
    "0 0 27138 0 0 35582 0 0 20025 0 0 23527 0 0 24594 0 0 29575 0 0 30064 0 0 21271 0 0 30971 0 0",
    "20415 0 0 24489 0 0 19981 0 0 27852 0 0 25976 0 0 32034 0 0 21443 0 0 22622 0 0 30465 0 0 33865",
    "0 0 35498 0 0 27578 0 0 36784 0 0 27784 0 0 25342 0 0 33509 0 0 25504 0 0 30053 0 0 20142 0 0",
    "20841 0 0 20937 0 0 26753 0 0 31975 0 0 33391 0 0 35538 0 0 37327 0 0 21237 0 0 21570 0 0 22899",
    "0 0 24300 0 0 26053 0 0 28670 0 0 31018 0 0 38317 0 0 39530 0 0 40599 0 0 40654 0 0 21147 0 0",
    "26310 0 0 27511 0 0 36706 0 0 24180 0 0 24976 0 0 25088 0 0 25754 0 0 28451 0 0 29001 0 0 29833",
    "0 0 31178 0 0 32244 0 0 32879 0 0 36646 0 0 34030 0 0 36899 0 0 37706 0 0 21015 0 0 21155 0 0",
    "21693 0 0 28872 0 0 35010 0 0 35498 0 0 24265 0 0 24565 0 0 25467 0 0 27566 0 0 31806 0 0 29557",
    "0 0 20196 0 0 22265 0 0 23527 0 0 23994 0 0 24604 0 0 29618 0 0 29801 0 0 32666 0 0 32838 0 0",
    "37428 0 0 38646 0 0 38728 0 0 38936 0 0 20363 0 0 31150 0 0 37300 0 0 38584 0 0 24801 0 0 20102",
    "0 0 20698 0 0 23534 0 0 23615 0 0 26009 0 0 27138 0 0 29134 0 0 30274 0 0 34044 0 0 36988 0 0",
    "40845 0 0 26248 0 0 38446 0 0 21129 0 0 26491 0 0 26611 0 0 27969 0 0 28316 0 0 29705 0 0 30041",
    "0 0 30827 0 0 32016 0 0 39006 0 0 20845 0 0 25134 0 0 38520 0 0 20523 0 0 23833 0 0 28138 0 0",
    "36650 0 0 24459 0 0 24900 0 0 26647 0 0 29575 0 0 38534 0 0 21033 0 0 21519 0 0 23653 0 0 26131",
    "0 0 26446 0 0 26792 0 0 27877 0 0 29702 0 0 30178 0 0 32633 0 0 35023 0 0 35041 0 0 37324 0 0",
    "38626 0 0 21311 0 0 28346 0 0 21533 0 0 29136 0 0 29848 0 0 34298 0 0 38563 0 0 40023 0 0 40607",
    "0 0 26519 0 0 28107 0 0 33256 0 0 31435 0 0 31520 0 0 31890 0 0 29376 0 0 28825 0 0 35672 0 0",
    "20160 0 0 33590 0 0 21050 0 0 20999 0 0 24230 0 0 25299 0 0 31958 0 0 23429 0 0 27934 0 0 26292",
    "0 0 36667 0 0 34892 0 0 38477 0 0 35211 0 0 24275 0 0 20800 0 0 21952 0 2 22618 0 1 26228 0 2",
    "20958 0 0 29482 0 0 30410 0 0 31036 0 0 31070 0 0 31077 0 0 31119 0 0 38742 0 0 31934 0 0 32701",
    "0 1 34322 0 1 35576 0 2 36920 0 0 37117 0 3 39151 0 0 39164 0 0 39208 0 0 40372 0 0 37086 0 0",
    "38583 0 0 20398 0 0 20711 0 0 20813 0 0 21193 0 0 21220 0 0 21329 0 0 21917 0 0 22022 0 0 22120",
    "0 0 22592 0 0 22696 0 0 23652 0 0 23662 0 0 24724 0 0 24936 0 0 24974 0 0 25074 0 0 25935 0 0",
    "26082 0 0 26257 0 0 26757 0 0 28023 0 0 28186 0 0 28450 0 0 29038 0 0 29227 0 0 29730 0 0 30865",
    "0 0 31038 0 0 31049 0 0 31048 0 0 31056 0 0 31062 0 0 31069 0 0 31117 0 0 31118 0 0 31296 0 0",
    "31361 0 0 31680 0 0 32244 0 0 32265 0 0 32321 0 0 32626 0 0 32773 0 0 33261 0 0 33401 0 0 33401",
    "0 0 33879 0 0 35088 0 0 35222 0 0 35585 0 0 35641 0 0 36051 0 0 36104 0 0 36790 0 0 36920 0 0",
    "38627 0 0 38911 0 0 38971 0 0 24693 0 0 148206 0 0 33304 0 2 20006 0 0 20917 0 0 20840 0 0 20352",
    "0 0 20805 0 0 20864 0 0 21191 0 0 21242 0 0 21917 0 0 21845 0 0 21913 0 0 21986 0 0 22618 0 0",
    "22707 0 0 22852 0 0 22868 0 0 23138 0 0 23336 0 0 24274 0 0 24281 0 0 24425 0 0 24493 0 0 24792",
    "0 0 24910 0 0 24840 0 0 24974 0 0 24928 0 0 25074 0 0 25140 0 0 25540 0 0 25628 0 0 25682 0 0",
    "25942 0 0 26228 0 0 26391 0 0 26395 0 0 26454 0 0 27513 0 0 27578 0 0 27969 0 0 28379 0 0 28363",
    "0 0 28450 0 0 28702 0 0 29038 0 0 30631 0 0 29237 0 0 29359 0 0 29482 0 0 29809 0 0 29958 0 0",
    "30011 0 0 30237 0 0 30239 0 0 30410 0 0 30427 0 0 30452 0 0 30538 0 0 30528 0 0 30924 0 0 31409",
    "0 0 31680 0 0 31867 0 0 32091 0 0 32244 0 0 32574 0 0 32773 0 0 33618 0 0 33775 0 0 34681 0 0",
    "35137 0 0 35206 0 0 35222 0 0 35519 0 0 35576 0 0 35531 0 0 35585 0 0 35582 0 0 35565 0 0 35641",
    "0 0 35722 0 0 36104 0 0 36664 0 0 36978 0 0 37273 0 0 37494 0 0 38524 0 0 38627 0 0 38742 0 0",
    "38875 0 0 38911 0 0 38923 0 0 38971 0 0 39698 0 0 40860 0 0 141386 0 0 141380 0 0 144341 0 0",
    "15261 0 0 16408 0 0 16441 0 0 152137 0 0 154832 0 0 163539 0 0 40771 0 0 40846 0 67 1497 1460 1",
    "1522 1463 10 1513 1473 0 1513 1474 0 64329 1473 0 64329 1474 0 1488 1463 0 1488 1464 0 1488 1468",
    "0 1489 1468 0 1490 1468 0 1491 1468 0 1492 1468 0 1493 1468 0 1494 1468 1 1496 1468 0 1497 1468",
    "0 1498 1468 0 1499 1468 0 1500 1468 1 1502 1468 1 1504 1468 0 1505 1468 1 1507 1468 0 1508 1468",
    "1 1510 1468 0 1511 1468 0 1512 1468 0 1513 1468 0 1514 1468 0 1493 1465 0 1489 1471 0 1499 1471",
    "0 1508 1471 5451 69785 69818 1 69787 69818 14 69797 69818 130 69937 69927 0 69938 69927 539",
    "70471 70462 0 70471 70487 366 70841 70842 0 70841 70832 1 70841 70845 251 71096 71087 0 71097",
    "71087 892 71989 71984 47141 119127 119141 0 119128 119141 0 119135 119150 0 119135 119151 0",
    "119135 119152 0 119135 119153 0 119135 119154 86 119225 119141 0 119226 119141 0 119227 119150 0",
    "119228 119150 0 119227 119151 0 119228 119151 75327 20029 0 0 20024 0 0 20033 0 0 131362 0 0",
    "20320 0 0 20398 0 0 20411 0 0 20482 0 0 20602 0 0 20633 0 0 20711 0 0 20687 0 0 13470 0 0 132666",
    "0 0 20813 0 0 20820 0 0 20836 0 0 20855 0 0 132380 0 0 13497 0 0 20839 0 0 20877 0 0 132427 0 0",
    "20887 0 0 20900 0 0 20172 0 0 20908 0 0 20917 0 0 168415 0 0 20981 0 0 20995 0 0 13535 0 0 21051",
    "0 0 21062 0 0 21106 0 0 21111 0 0 13589 0 0 21191 0 0 21193 0 0 21220 0 0 21242 0 0 21253 0 0",
    "21254 0 0 21271 0 0 21321 0 0 21329 0 0 21338 0 0 21363 0 0 21373 0 0 21375 0 0 21375 0 0 21375",
    "0 0 133676 0 0 28784 0 0 21450 0 0 21471 0 0 133987 0 0 21483 0 0 21489 0 0 21510 0 0 21662 0 0",
    "21560 0 0 21576 0 0 21608 0 0 21666 0 0 21750 0 0 21776 0 0 21843 0 0 21859 0 0 21892 0 0 21892",
    "0 0 21913 0 0 21931 0 0 21939 0 0 21954 0 0 22294 0 0 22022 0 0 22295 0 0 22097 0 0 22132 0 0",
    "20999 0 0 22766 0 0 22478 0 0 22516 0 0 22541 0 0 22411 0 0 22578 0 0 22577 0 0 22700 0 0 136420",
    "0 0 22770 0 0 22775 0 0 22790 0 0 22810 0 0 22818 0 0 22882 0 0 136872 0 0 136938 0 0 23020 0 0",
    "23067 0 0 23079 0 0 23000 0 0 23142 0 0 14062 0 0 14076 0 0 23304 0 0 23358 0 0 23358 0 0 137672",
    "0 0 23491 0 0 23512 0 0 23527 0 0 23539 0 0 138008 0 0 23551 0 0 23558 0 0 24403 0 0 23586 0 0",
    "14209 0 0 23648 0 0 23662 0 0 23744 0 0 23693 0 0 138724 0 0 23875 0 0 138726 0 0 23918 0 0",
    "23915 0 0 23932 0 0 24033 0 0 24034 0 0 14383 0 0 24061 0 0 24104 0 0 24125 0 0 24169 0 0 14434",
    "0 0 139651 0 0 14460 0 0 24240 0 0 24243 0 0 24246 0 0 24266 0 0 172946 0 0 24318 0 0 140081 0 0",
    "140081 0 0 33281 0 0 24354 0 0 24354 0 0 14535 0 0 144056 0 0 156122 0 0 24418 0 0 24427 0 0",
    "14563 0 0 24474 0 0 24525 0 0 24535 0 0 24569 0 0 24705 0 0 14650 0 0 14620 0 0 24724 0 0 141012",
    "0 0 24775 0 0 24904 0 0 24908 0 0 24910 0 0 24908 0 0 24954 0 0 24974 0 0 25010 0 0 24996 0 0",
    "25007 0 0 25054 0 0 25074 0 0 25078 0 0 25104 0 0 25115 0 0 25181 0 0 25265 0 0 25300 0 0 25424",
    "0 0 142092 0 0 25405 0 0 25340 0 0 25448 0 0 25475 0 0 25572 0 0 142321 0 0 25634 0 0 25541 0 0",
    "25513 0 0 14894 0 0 25705 0 0 25726 0 0 25757 0 0 25719 0 0 14956 0 0 25935 0 0 25964 0 0 143370",
    "0 0 26083 0 0 26360 0 0 26185 0 0 15129 0 0 26257 0 0 15112 0 0 15076 0 0 20882 0 0 20885 0 0",
    "26368 0 0 26268 0 0 32941 0 0 17369 0 0 26391 0 0 26395 0 0 26401 0 0 26462 0 0 26451 0 0 144323",
    "0 0 15177 0 0 26618 0 0 26501 0 0 26706 0 0 26757 0 0 144493 0 0 26766 0 0 26655 0 0 26900 0 0",
    "15261 0 0 26946 0 0 27043 0 0 27114 0 0 27304 0 0 145059 0 0 27355 0 0 15384 0 0 27425 0 0",
    "145575 0 0 27476 0 0 15438 0 0 27506 0 0 27551 0 0 27578 0 0 27579 0 0 146061 0 0 138507 0 0",
    "146170 0 0 27726 0 0 146620 0 0 27839 0 0 27853 0 0 27751 0 0 27926 0 0 27966 0 0 28023 0 0",
    "27969 0 0 28009 0 0 28024 0 0 28037 0 0 146718 0 0 27956 0 0 28207 0 0 28270 0 0 15667 0 0 28363",
    "0 0 28359 0 0 147153 0 0 28153 0 0 28526 0 0 147294 0 0 147342 0 0 28614 0 0 28729 0 0 28702 0 0",
    "28699 0 0 15766 0 0 28746 0 0 28797 0 0 28791 0 0 28845 0 0 132389 0 0 28997 0 0 148067 0 0",
    "29084 0 0 148395 0 0 29224 0 0 29237 0 0 29264 0 0 149000 0 0 29312 0 0 29333 0 0 149301 0 0",
    "149524 0 0 29562 0 0 29579 0 0 16044 0 0 29605 0 0 16056 0 0 16056 0 0 29767 0 0 29788 0 0 29809",
    "0 0 29829 0 0 29898 0 0 16155 0 0 29988 0 0 150582 0 0 30014 0 0 150674 0 0 30064 0 0 139679 0 0",
    "30224 0 0 151457 0 0 151480 0 0 151620 0 0 16380 0 0 16392 0 0 30452 0 0 151795 0 0 151794 0 0",
    "151833 0 0 151859 0 0 30494 0 0 30495 0 0 30495 0 0 30538 0 0 16441 0 0 30603 0 0 16454 0 0",
    "16534 0 0 152605 0 0 30798 0 0 30860 0 0 30924 0 0 16611 0 0 153126 0 0 31062 0 0 153242 0 0",
    "153285 0 0 31119 0 0 31211 0 0 16687 0 0 31296 0 0 31306 0 0 31311 0 0 153980 0 0 154279 0 0",
    "154279 0 0 31470 0 0 16898 0 0 154539 0 0 31686 0 0 31689 0 0 16935 0 0 154752 0 0 31954 0 0",
    "17056 0 0 31976 0 0 31971 0 0 32000 0 0 155526 0 0 32099 0 0 17153 0 0 32199 0 0 32258 0 0 32325",
    "0 0 17204 0 0 156200 0 0 156231 0 0 17241 0 0 156377 0 0 32634 0 0 156478 0 0 32661 0 0 32762 0",
    "0 32773 0 0 156890 0 0 156963 0 0 32864 0 0 157096 0 0 32880 0 0 144223 0 0 17365 0 0 32946 0 0",
    "33027 0 0 17419 0 0 33086 0 0 23221 0 0 157607 0 0 157621 0 0 144275 0 0 144284 0 0 33281 0 0",
    "33284 0 0 36766 0 0 17515 0 0 33425 0 0 33419 0 0 33437 0 0 21171 0 0 33457 0 0 33459 0 0 33469",
    "0 0 33510 0 0 158524 0 0 33509 0 0 33565 0 0 33635 0 0 33709 0 0 33571 0 0 33725 0 0 33767 0 0",
    "33879 0 0 33619 0 0 33738 0 0 33740 0 0 33756 0 0 158774 0 0 159083 0 0 158933 0 0 17707 0 0",
    "34033 0 0 34035 0 0 34070 0 0 160714 0 0 34148 0 0 159532 0 0 17757 0 0 17761 0 0 159665 0 0",
    "159954 0 0 17771 0 0 34384 0 0 34396 0 0 34407 0 0 34409 0 0 34473 0 0 34440 0 0 34574 0 0 34530",
    "0 0 34681 0 0 34600 0 0 34667 0 0 34694 0 0 17879 0 0 34785 0 0 34817 0 0 17913 0 0 34912 0 0",
    "34915 0 0 161383 0 0 35031 0 0 35038 0 0 17973 0 0 35066 0 0 13499 0 0 161966 0 0 162150 0 0",
    "18110 0 0 18119 0 0 35488 0 0 35565 0 0 35722 0 0 35925 0 0 162984 0 0 36011 0 0 36033 0 0 36123",
    "0 0 36215 0 0 163631 0 0 133124 0 0 36299 0 0 36284 0 0 36336 0 0 133342 0 0 36564 0 0 36664 0 0",
    "165330 0 0 165357 0 0 37012 0 0 37105 0 0 37137 0 0 165678 0 0 37147 0 0 37432 0 0 37591 0 0",
    "37592 0 0 37500 0 0 37881 0 0 37909 0 0 166906 0 0 38283 0 0 18837 0 0 38327 0 0 167287 0 0",
    "18918 0 0 38595 0 0 23986 0 0 38691 0 0 168261 0 0 168474 0 0 19054 0 0 19062 0 0 38880 0 0",
    "168970 0 0 19122 0 0 169110 0 0 38923 0 0 38923 0 0 38953 0 0 169398 0 0 39138 0 0 19251 0 0",
    "39209 0 0 39335 0 0 39362 0 0 39422 0 0 19406 0 0 170800 0 0 39698 0 0 40000 0 0 40189 0 0 19662",
    "0 0 19693 0 0 40295 0 0 172238 0 0 19704 0 0 172293 0 0 172558 0 0 172689 0 0 40635 0 0 19798 0",
    "0 40697 0 0 40702 0 0 40709 0 0 40719 0 0 40726 0 0 40763 0 0 173568 0"])).toArray

/-- Characters that are not put together. -/
def compositionExclusions : Array (Nat × Nat) :=
  ranges [
    "836 1 1555 8 124 2 1 1 83 1 2 1 34 3 2 1 253 2 997 1 9 1 4 1 4 1 4 1 12 1 9 1 1 2 1 1 8 1 17 1 9",
    "1 4 1 4 1 4 1 12 1 6946 1 53312 1 1 1 10 13 1 5 1 1 1 2 1 2 1 9 54799 7 86 6"]

/-- Canonical combining classes. -/
def combiningClasses : Array ClassRange :=
  classTable [
    "768 21 230 0 1 232 0 4 220 0 1 232 0 1 216 0 5 220 0 2 202 0 4 220 0 2 202 0 11 220 0 5 1 0 4",
    "220 0 8 230 0 1 240 0 1 230 0 3 220 0 3 230 0 2 220 1 3 230 0 4 220 0 1 230 0 1 232 0 2 220 0 1",
    "230 0 1 233 0 2 234 0 1 233 0 2 234 0 1 233 0 13 230 275 5 230 265 1 220 0 4 230 0 1 220 0 3 230",
    "0 1 222 0 1 220 0 6 230 0 6 220 0 2 230 0 1 220 0 2 230 0 1 222 0 1 228 0 1 230 0 1 10 0 1 11 0",
    "1 12 0 1 13 0 1 14 0 1 15 0 1 16 0 1 17 0 1 18 0 2 19 0 1 20 0 1 21 0 1 22 1 1 23 1 1 24 0 1 25",
    "1 1 230 0 1 220 1 1 18 72 8 230 0 1 30 0 1 31 0 1 32 48 1 27 0 1 28 0 1 29 0 1 30 0 1 31 0 1 32",
    "0 1 33 0 1 34 0 2 230 0 2 220 0 5 230 0 1 220 0 2 230 0 1 220 16 1 35 101 7 230 2 4 230 0 1 220",
    "0 1 230 2 2 230 1 1 220 0 2 230 0 1 220 35 1 36 30 1 230 0 1 220 0 2 230 0 1 220 0 2 230 0 3 220",
    "0 1 230 0 2 220 0 1 230 0 1 220 0 3 230 0 1 220 0 1 230 0 1 220 0 1 230 0 1 220 0 1 230 0 1 220",
    "0 2 230 160 7 230 0 1 220 0 1 230 9 1 220 24 4 230 1 9 230 1 3 230 1 5 230 43 3 220 60 1 230 0 3",
    "220 0 4 230 42 5 230 0 5 220 0 14 230 1 1 220 0 2 230 0 1 220 0 2 230 0 1 220 0 3 230 0 3 220 0",
    "1 27 0 1 28 0 1 29 0 3 230 0 1 220 0 2 230 0 2 220 0 5 230 60 1 7 16 1 9 3 1 230 0 1 220 0 2 230",
    "103 1 7 16 1 9 48 1 230 61 1 7 16 1 9 110 1 7 16 1 9 110 1 7 16 1 9 127 1 9 110 1 7 16 1 9 7 1",
    "84 0 1 91 101 1 7 16 1 9 109 2 9 16 1 9 124 1 9 109 2 103 0 1 9 13 4 107 108 2 118 0 1 9 13 4",
    "122 76 2 220 27 1 220 1 1 220 1 1 216 55 1 129 0 1 130 1 1 132 5 4 130 2 1 130 1 2 230 0 1 9 1 2",
    "230 62 1 220 112 1 7 1 2 9 82 1 220 719 3 230 948 2 9 30 1 9 157 1 9 10 1 230 203 1 228 143 1",
    "222 0 1 230 0 1 220 219 1 230 0 1 220 71 1 9 20 8 230 2 1 220 48 5 230 0 6 220 0 2 230 0 1 220 1",
    "2 220 0 2 230 0 2 220 0 5 230 0 1 220 0 4 230 101 1 7 15 1 9 38 1 230 0 1 220 0 7 230 54 2 9 58",
    "1 7 11 2 9 67 1 7 152 3 230 1 1 1 0 5 220 0 2 230 0 4 220 0 1 230 1 7 1 4 1 220 6 1 230 3 2 230",
    "198 2 230 0 1 220 0 7 230 0 1 220 0 2 230 0 1 234 0 1 214 0 1 220 0 1 202 0 37 230 0 1 232 0 2",
    "228 0 1 220 0 1 218 0 1 230 0 1 233 0 1 220 0 1 230 0 1 220 720 2 230 0 2 1 0 4 230 0 3 1 0 2",
    "230 4 1 230 3 2 1 0 1 230 0 1 220 0 1 230 0 2 1 0 4 220 0 1 230 3070 3 230 141 1 9 96 32 230 554",
    "1 218 0 1 228 0 1 232 0 1 222 0 2 224 105 2 8 30164 1 230 4 10 230 32 2 230 80 2 230 276 1 9 37",
    "1 9 151 1 9 27 18 230 57 3 220 37 1 9 95 1 7 12 1 9 239 1 230 1 2 230 0 1 220 2 2 230 5 2 230 1",
    "1 230 52 1 9 246 1 9 20272 1 26 769 7 230 0 7 220 0 2 230 973 1 220 226 1 220 149 5 230 1682 1",
    "220 1 1 230 40 1 230 0 1 1 0 1 220 4 1 9 165 1 230 0 1 220 573 4 230 387 2 230 153 2 220 0 3 230",
    "0 1 220 0 1 230 0 4 220 49 1 230 0 1 220 0 1 230 0 1 220 192 1 9 41 1 9 14 1 9 57 1 9 0 1 7 69 3",
    "230 48 2 9 62 1 7 76 1 9 9 1 7 106 1 9 0 1 7 178 1 7 0 1 9 80 2 7 16 1 9 24 7 230 3 5 230 205 1",
    "9 3 1 7 23 1 230 99 1 9 0 1 7 251 1 9 0 1 7 126 1 9 118 1 9 0 1 7 115 1 9 269 1 9 0 1 7 258 2 9",
    "4 1 7 156 1 9 83 1 9 18 1 9 81 1 9 421 1 9 258 1 7 1 2 9 81 1 9 19800 5 1 59 7 230 1209 2 6",
    "19628 1 1 5318 2 216 0 3 1 3 1 226 0 5 216 8 8 220 2 5 230 0 2 220 30 4 230 148 3 230 3515 7 230",
    "1 17 230 2 7 230 1 2 230 1 5 230 261 7 230 375 1 230 61 4 230 1504 7 220 109 6 230 0 1 7"]

end Text
end EntityTrust
