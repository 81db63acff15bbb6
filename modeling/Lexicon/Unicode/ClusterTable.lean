import Lexicon.Unicode.Table

namespace Lexicon.Unicode

/-!
# Which characters hold together

The grapheme cluster classes of Unicode 17.0 above ASCII, with the two properties that its cluster
rules consult besides: pictographs, and the consonants and linkers of the Indic scripts.  Hangul
syllables are left out, since arithmetic settles them.

* `ClusterClass` — the classes that the rules tell apart;
* `clusterTable` — the class of each code point above ASCII that is not `other`.
-/

/-- What the cluster rules need to know of a character. -/
inductive ClusterClass where
  | other
  | cr
  | lf
  | control
  /-- Extends the cluster before it. -/
  | extend
  /-- Extends, and ties two consonants into a conjunct. -/
  | linker
  /-- Extends, and keeps consonants apart. -/
  | nonJoiner
  | joiner
  | regional
  | prepend
  | spacingMark
  | hangulL
  | hangulV
  | hangulT
  | hangulLV
  | hangulLVT
  | pictograph
  /-- A consonant that takes part in conjuncts. -/
  | consonant
deriving DecidableEq, Repr, Inhabited

/-- The letter that stands for a class in the rows below. -/
def ClusterClass.ofLetter? : List Char → Option ClusterClass
  | ['C'] => some .control
  | ['E'] => some .extend
  | ['N'] => some .linker
  | ['J'] => some .nonJoiner
  | ['Z'] => some .joiner
  | ['R'] => some .regional
  | ['P'] => some .prepend
  | ['S'] => some .spacingMark
  | ['L'] => some .hangulL
  | ['V'] => some .hangulV
  | ['T'] => some .hangulT
  | ['X'] => some .pictograph
  | ['K'] => some .consonant
  | _ => none

/-- The classes of the code points above ASCII. -/
def clusterTable : Table ClusterClass :=
  Table.ofText ClusterClass.ofLetter?
    "
80-9F:C A9:X AD:C AE:X 300-36F:E 483-489:E 591-5BD:E 5BF:E 5C1-5C2:E 5C4-5C5:E 5C7:E 600-605:P
610-61A:E 61C:C 64B-65F:E 670:E 6D6-6DC:E 6DD:P 6DF-6E4:E 6E7-6E8:E 6EA-6ED:E 70F:P 711:E
730-74A:E 7A6-7B0:E 7EB-7F3:E 7FD:E 816-819:E 81B-823:E 825-827:E 829-82D:E 859-85B:E 890-891:P
897-89F:E 8CA-8E1:E 8E2:P 8E3-902:E 903:S 915-939:K 93A:E 93B:S 93C:E 93E-940:S 941-948:E
949-94C:S 94D:N 94E-94F:S 951-957:E 958-95F:K 962-963:E 978-97F:K 981:E 982-983:S 995-9A8:K
9AA-9B0:K 9B2:K 9B6-9B9:K 9BC:E 9BE:E 9BF-9C0:S 9C1-9C4:E 9C7-9C8:S 9CB-9CC:S 9CD:N 9D7:E
9DC-9DD:K 9DF:K 9E2-9E3:E 9F0-9F1:K 9FE:E A01-A02:E A03:S A3C:E A3E-A40:S A41-A42:E A47-A48:E
A4B-A4D:E A51:E A70-A71:E A75:E A81-A82:E A83:S A95-AA8:K AAA-AB0:K AB2-AB3:K AB5-AB9:K ABC:E
ABE-AC0:S AC1-AC5:E AC7-AC8:E AC9:S ACB-ACC:S ACD:N AE2-AE3:E AF9:K AFA-AFF:E B01:E B02-B03:S
B15-B28:K B2A-B30:K B32-B33:K B35-B39:K B3C:E B3E-B3F:E B40:S B41-B44:E B47-B48:S B4B-B4C:S B4D:N
B55-B57:E B5C-B5D:K B5F:K B62-B63:E B71:K B82:E BBE:E BBF:S BC0:E BC1-BC2:S BC6-BC8:S BCA-BCC:S
BCD:E BD7:E C00:E C01-C03:S C04:E C15-C28:K C2A-C39:K C3C:E C3E-C40:E C41-C44:S C46-C48:E
C4A-C4C:E C4D:N C55-C56:E C58-C5A:K C62-C63:E C81:E C82-C83:S CBC:E CBE:S CBF-CC0:E CC1:S CC2:E
CC3-CC4:S CC6-CC8:E CCA-CCD:E CD5-CD6:E CE2-CE3:E CF3:S D00-D01:E D02-D03:S D15-D3A:K D3B-D3C:E
D3E:E D3F-D40:S D41-D44:E D46-D48:S D4A-D4C:S D4D:N D4E:P D57:E D62-D63:E D81:E D82-D83:S DCA:E
DCF:E DD0-DD1:S DD2-DD4:E DD6:E DD8-DDE:S DDF:E DF2-DF3:S E31:E E33:S E34-E3A:E E47-E4E:E EB1:E
EB3:S EB4-EBC:E EC8-ECE:E F18-F19:E F35:E F37:E F39:E F3E-F3F:S F71-F7E:E F7F:S F80-F84:E
F86-F87:E F8D-F97:E F99-FBC:E FC6:E 1000-102A:K 102D-1030:E 1031:S 1032-1037:E 1039:N 103A:E
103B-103C:S 103D-103E:E 103F:K 1050-1055:K 1056-1057:S 1058-1059:E 105A-105D:K 105E-1060:E 1061:K
1065-1066:K 106E-1070:K 1071-1074:E 1075-1081:K 1082:E 1084:S 1085-1086:E 108D:E 108E:K 109D:E
1100-115F:L 1160-11A7:V 11A8-11FF:T 135D-135F:E 1712-1715:E 1732-1734:E 1752-1753:E 1772-1773:E
1780-17B3:K 17B4-17B5:E 17B6:S 17B7-17BD:E 17BE-17C5:S 17C6:E 17C7-17C8:S 17C9-17D1:E 17D2:N
17D3:E 17DD:E 180B-180D:E 180E:C 180F:E 1885-1886:E 18A9:E 1920-1922:E 1923-1926:S 1927-1928:E
1929-192B:S 1930-1931:S 1932:E 1933-1938:S 1939-193B:E 1A17-1A18:E 1A19-1A1A:S 1A1B:E 1A20-1A54:K
1A55:S 1A56:E 1A57:S 1A58-1A5E:E 1A60:N 1A62:E 1A65-1A6C:E 1A6D-1A72:S 1A73-1A7C:E 1A7F:E
1AB0-1ADD:E 1AE0-1AEB:E 1B00-1B03:E 1B04:S 1B0B-1B0C:K 1B13-1B33:K 1B34-1B3D:E 1B3E-1B41:S
1B42-1B43:E 1B44:N 1B45-1B4C:K 1B6B-1B73:E 1B80-1B81:E 1B82:S 1B83-1BA0:K 1BA1:S 1BA2-1BA5:E
1BA6-1BA7:S 1BA8-1BAA:E 1BAB:N 1BAC-1BAD:E 1BAE-1BAF:K 1BBB-1BBD:K 1BE6:E 1BE7:S 1BE8-1BE9:E
1BEA-1BEC:S 1BED:E 1BEE:S 1BEF-1BF3:E 1C24-1C2B:S 1C2C-1C33:E 1C34-1C35:S 1C36-1C37:E 1CD0-1CD2:E
1CD4-1CE0:E 1CE1:S 1CE2-1CE8:E 1CED:E 1CF4:E 1CF7:S 1CF8-1CF9:E 1DC0-1DFF:E 200B:C 200C:J 200D:Z
200E-200F:C 2028-202E:C 203C:X 2049:X 2060-206F:C 20D0-20F0:E 2122:X 2139:X 2194-2199:X
21A9-21AA:X 231A-231B:X 2328:X 23CF:X 23E9-23F3:X 23F8-23FA:X 24C2:X 25AA-25AB:X 25B6:X 25C0:X
25FB-25FE:X 2600-2604:X 260E:X 2611:X 2614-2615:X 2618:X 261D:X 2620:X 2622-2623:X 2626:X 262A:X
262E-262F:X 2638-263A:X 2640:X 2642:X 2648-2653:X 265F-2660:X 2663:X 2665-2666:X 2668:X 267B:X
267E-267F:X 2692-2697:X 2699:X 269B-269C:X 26A0-26A1:X 26A7:X 26AA-26AB:X 26B0-26B1:X 26BD-26BE:X
26C4-26C5:X 26C8:X 26CE-26CF:X 26D1:X 26D3-26D4:X 26E9-26EA:X 26F0-26F5:X 26F7-26FA:X 26FD:X
2702:X 2705:X 2708-270D:X 270F:X 2712:X 2714:X 2716:X 271D:X 2721:X 2728:X 2733-2734:X 2744:X
2747:X 274C:X 274E:X 2753-2755:X 2757:X 2763-2764:X 2795-2797:X 27A1:X 27B0:X 27BF:X 2934-2935:X
2B05-2B07:X 2B1B-2B1C:X 2B50:X 2B55:X 2CEF-2CF1:E 2D7F:E 2DE0-2DFF:E 302A-302F:E 3030:X 303D:X
3099-309A:E 3297:X 3299:X A66F-A672:E A674-A67D:E A69E-A69F:E A6F0-A6F1:E A802:E A806:E A80B:E
A823-A824:S A825-A826:E A827:S A82C:E A880-A881:S A8B4-A8C3:S A8C4-A8C5:E A8E0-A8F1:E A8FF:E
A926-A92D:E A947-A951:E A952:S A953:E A960-A97C:L A980-A982:E A983:S A989-A98B:K A98F-A9B2:K
A9B3:E A9B4-A9B5:S A9B6-A9B9:E A9BA-A9BB:S A9BC-A9BD:E A9BE-A9BF:S A9C0:N A9E0-A9E4:K A9E5:E
A9E7-A9EF:K A9FA-A9FE:K AA29-AA2E:E AA2F-AA30:S AA31-AA32:E AA33-AA34:S AA35-AA36:E AA43:E AA4C:E
AA4D:S AA60-AA6F:K AA71-AA73:K AA7A:K AA7C:E AA7E-AA7F:K AAB0:E AAB2-AAB4:E AAB7-AAB8:E
AABE-AABF:E AAC1:E AAE0-AAEA:K AAEB:S AAEC-AAED:E AAEE-AAEF:S AAF5:S AAF6:N ABC0-ABDA:K
ABE3-ABE4:S ABE5:E ABE6-ABE7:S ABE8:E ABE9-ABEA:S ABEC:S ABED:E D7B0-D7C6:V D7CB-D7FB:T FB1E:E
FE00-FE0F:E FE20-FE2F:E FEFF:C FF9E-FF9F:E FFF0-FFFB:C 101FD:E 102E0:E 10376-1037A:E 10A00:K
10A01-10A03:E 10A05-10A06:E 10A0C-10A0F:E 10A10-10A13:K 10A15-10A17:K 10A19-10A35:K 10A38-10A3A:E
10A3F:N 10AE5-10AE6:E 10D24-10D27:E 10D69-10D6D:E 10EAB-10EAC:E 10EFA-10EFF:E 10F46-10F50:E
10F82-10F85:E 11000:S 11001:E 11002:S 11038-11046:E 11070:E 11073-11074:E 1107F-11081:E 11082:S
110B0-110B2:S 110B3-110B6:E 110B7-110B8:S 110B9-110BA:E 110BD:P 110C2:E 110CD:P 11100-11102:E
11103-11126:K 11127-1112B:E 1112C:S 1112D-11132:E 11133:N 11134:E 11144:K 11145-11146:S 11147:K
11173:E 11180-11181:E 11182:S 111B3-111B5:S 111B6-111BE:E 111BF:S 111C0:E 111C2-111C3:P
111C9-111CC:E 111CE:S 111CF:E 1122C-1122E:S 1122F-11231:E 11232-11233:S 11234-11237:E 1123E:E
11241:E 112DF:E 112E0-112E2:S 112E3-112EA:E 11300-11301:E 11302-11303:S 1133B-1133C:E 1133E:E
1133F:S 11340:E 11341-11344:S 11347-11348:S 1134B-1134C:S 1134D:E 11357:E 11362-11363:S
11366-1136C:E 11370-11374:E 11380-11389:K 1138B:K 1138E:K 11390-113B5:K 113B8:E 113B9-113BA:S
113BB-113C0:E 113C2:E 113C5:E 113C7-113C9:E 113CA:S 113CC-113CD:S 113CE-113CF:E 113D0:N 113D1:P
113D2:E 113E1-113E2:E 11435-11437:S 11438-1143F:E 11440-11441:S 11442-11444:E 11445:S 11446:E
1145E:E 114B0:E 114B1-114B2:S 114B3-114B8:E 114B9:S 114BA:E 114BB-114BC:S 114BD:E 114BE:S
114BF-114C0:E 114C1:S 114C2-114C3:E 115AF:E 115B0-115B1:S 115B2-115B5:E 115B8-115BB:S
115BC-115BD:E 115BE:S 115BF-115C0:E 115DC-115DD:E 11630-11632:S 11633-1163A:E 1163B-1163C:S
1163D:E 1163E:S 1163F-11640:E 116AB:E 116AC:S 116AD:E 116AE-116AF:S 116B0-116B7:E 1171D:E 1171E:S
1171F:E 11722-11725:E 11726:S 11727-1172B:E 1182C-1182E:S 1182F-11837:E 11838:S 11839-1183A:E
11900-11906:K 11909:K 1190C-11913:K 11915-11916:K 11918-1192F:K 11930:E 11931-11935:S
11937-11938:S 1193B-1193D:E 1193E:N 1193F:P 11940:S 11941:P 11942:S 11943:E 119D1-119D3:S
119D4-119D7:E 119DA-119DB:E 119DC-119DF:S 119E0:E 119E4:S 11A00:K 11A01-11A0A:E 11A0B-11A32:K
11A33-11A38:E 11A39:S 11A3B-11A3E:E 11A47:N 11A50:K 11A51-11A56:E 11A57-11A58:S 11A59-11A5B:E
11A5C-11A83:K 11A84-11A89:P 11A8A-11A96:E 11A97:S 11A98:E 11A99:N 11B60:E 11B61:S 11B62-11B64:E
11B65:S 11B66:E 11B67:S 11C2F:S 11C30-11C36:E 11C38-11C3D:E 11C3E:S 11C3F:E 11C92-11CA7:E 11CA9:S
11CAA-11CB0:E 11CB1:S 11CB2-11CB3:E 11CB4:S 11CB5-11CB6:E 11D31-11D36:E 11D3A:E 11D3C-11D3D:E
11D3F-11D45:E 11D46:P 11D47:E 11D8A-11D8E:S 11D90-11D91:E 11D93-11D94:S 11D95:E 11D96:S 11D97:E
11EF3-11EF4:E 11EF5-11EF6:S 11F00-11F01:E 11F02:P 11F03:S 11F04-11F10:K 11F12-11F33:K
11F34-11F35:S 11F36-11F3A:E 11F3E-11F3F:S 11F40-11F41:E 11F42:N 11F5A:E 13430-1343F:C 13440:E
13447-13455:E 1611E-16129:E 1612A-1612C:S 1612D-1612F:E 16AF0-16AF4:E 16B30-16B36:E 16D63:V
16D67-16D6A:V 16F4F:E 16F51-16F87:S 16F8F-16F92:E 16FE4:E 16FF0-16FF1:E 1BC9D-1BC9E:E
1BCA0-1BCA3:C 1CF00-1CF2D:E 1CF30-1CF46:E 1D165-1D169:E 1D16D-1D172:E 1D173-1D17A:C 1D17B-1D182:E
1D185-1D18B:E 1D1AA-1D1AD:E 1D242-1D244:E 1DA00-1DA36:E 1DA3B-1DA6C:E 1DA75:E 1DA84:E
1DA9B-1DA9F:E 1DAA1-1DAAF:E 1E000-1E006:E 1E008-1E018:E 1E01B-1E021:E 1E023-1E024:E 1E026-1E02A:E
1E08F:E 1E130-1E136:E 1E2AE:E 1E2EC-1E2EF:E 1E4EC-1E4EF:E 1E5EE-1E5EF:E 1E6E3:E 1E6E6:E
1E6EE-1E6EF:E 1E6F5:E 1E8D0-1E8D6:E 1E944-1E94A:E 1F004:X 1F02C-1F02F:X 1F094-1F09F:X
1F0AF-1F0B0:X 1F0C0:X 1F0CF-1F0D0:X 1F0F6-1F0FF:X 1F170-1F171:X 1F17E-1F17F:X 1F18E:X
1F191-1F19A:X 1F1AE-1F1E5:X 1F1E6-1F1FF:R 1F201-1F20F:X 1F21A:X 1F22F:X 1F232-1F23A:X
1F23C-1F23F:X 1F249-1F25F:X 1F266-1F321:X 1F324-1F393:X 1F396-1F397:X 1F399-1F39B:X 1F39E-1F3F0:X
1F3F3-1F3F5:X 1F3F7-1F3FA:X 1F3FB-1F3FF:E 1F400-1F4FD:X 1F4FF-1F53D:X 1F549-1F54E:X 1F550-1F567:X
1F56F-1F570:X 1F573-1F57A:X 1F587:X 1F58A-1F58D:X 1F590:X 1F595-1F596:X 1F5A4-1F5A5:X 1F5A8:X
1F5B1-1F5B2:X 1F5BC:X 1F5C2-1F5C4:X 1F5D1-1F5D3:X 1F5DC-1F5DE:X 1F5E1:X 1F5E3:X 1F5E8:X 1F5EF:X
1F5F3:X 1F5FA-1F64F:X 1F680-1F6C5:X 1F6CB-1F6D2:X 1F6D5-1F6E5:X 1F6E9:X 1F6EB-1F6F0:X
1F6F3-1F6FF:X 1F7DA-1F7FF:X 1F80C-1F80F:X 1F848-1F84F:X 1F85A-1F85F:X 1F888-1F88F:X 1F8AE-1F8AF:X
1F8BC-1F8BF:X 1F8C2-1F8CF:X 1F8D9-1F8FF:X 1F90C-1F93A:X 1F93C-1F945:X 1F947-1F9FF:X 1FA58-1FA5F:X
1FA6E-1FAFF:X 1FC00-1FFFD:X E0000-E001F:C E0020-E007F:E E0080-E00FF:C E0100-E01EF:E E01F0-E0FFF:C
"

end Lexicon.Unicode
