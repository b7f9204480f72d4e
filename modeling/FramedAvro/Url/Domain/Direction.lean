import FramedAvro.Text.Codes

/-!
# Directions of writing

In a domain with letters that are written from right to left, no label may be one whose characters
change places when it is shown next to others. A label has one direction, which its first character
gives, ends with a letter or a digit of it, and has nothing in it of the other direction.

## Main definitions

* `Direction.ofChar`: how a character behaves in its line.
* `Direction.isFromRight`: what makes a domain one of those that are looked at.
* `Direction.isSteady`: whether a label has one direction.
-/

namespace FramedAvro.Url.Domain

/-- How a character behaves in its line. -/
inductive Direction where
  | left
  | right
  | arabic
  | digit
  /-- A sign between digits, such as a hyphen. -/
  | sign
  /-- A sign before or after digits, such as that of a currency. -/
  | unit
  | arabicDigit
  /-- A point or comma in a number. -/
  | separator
  | mark
  | unseen
  | neutral
  | other
deriving DecidableEq, Repr

namespace Direction

/-- The directions other than `left`, as ranges of codes with a number for each direction. -/
def table : String := "
0 8 9;9 9 B;A A B;B B B;C C B;D D B;E 1B 9;1C 1E B;1F 1F B;20 20 B;21 22 A;23 25 5;26 2A A;
2B 2B 4;2C 2C 7;2D 2D 4;2E 2F 7;30 39 3;3A 3A 7;3B 40 A;5B 60 A;7B 7E A;7F 84 9;85 85 B;86 9F 9;
A0 A0 7;A1 A1 A;A2 A5 5;A6 A9 A;AB AC A;AD AD 9;AE AF A;B0 B1 5;B2 B3 3;B4 B4 A;B6 B8 A;B9 B9 3;
BB BF A;D7 D7 A;F7 F7 A;2B9 2BA A;2C2 2CF A;2D2 2DF A;2E5 2ED A;2EF 2FF A;300 36F 8;374 375 A;
37E 37E A;384 385 A;387 387 A;3F6 3F6 A;483 489 8;58A 58A A;58D 58E A;58F 58F 5;591 5BD 8;
5BE 5BE 1;5BF 5BF 8;5C0 5C0 1;5C1 5C2 8;5C3 5C3 1;5C4 5C5 8;5C6 5C6 1;5C7 5C7 8;5D0 5EA 1;
5EF 5F4 1;600 605 6;606 607 A;608 608 2;609 60A 5;60B 60B 2;60C 60C 7;60D 60D 2;60E 60F A;
610 61A 8;61B 64A 2;64B 65F 8;660 669 6;66A 66A 5;66B 66C 6;66D 66F 2;670 670 8;671 6D5 2;
6D6 6DC 8;6DD 6DD 6;6DE 6DE A;6DF 6E4 8;6E5 6E6 2;6E7 6E8 8;6E9 6E9 A;6EA 6ED 8;6EE 6EF 2;
6F0 6F9 3;6FA 70D 2;70F 710 2;711 711 8;712 72F 2;730 74A 8;74D 7A5 2;7A6 7B0 8;7B1 7B1 2;
7C0 7EA 1;7EB 7F3 8;7F4 7F5 1;7F6 7F9 A;7FA 7FA 1;7FD 7FD 8;7FE 815 1;816 819 8;81A 81A 1;
81B 823 8;824 824 1;825 827 8;828 828 1;829 82D 8;830 83E 1;840 858 1;859 85B 8;85E 85E 1;
860 86A 2;870 88F 2;890 891 6;897 89F 8;8A0 8C9 2;8CA 8E1 8;8E2 8E2 6;8E3 902 8;93A 93A 8;
93C 93C 8;941 948 8;94D 94D 8;951 957 8;962 963 8;981 981 8;9BC 9BC 8;9C1 9C4 8;9CD 9CD 8;
9E2 9E3 8;9F2 9F3 5;9FB 9FB 5;9FE 9FE 8;A01 A02 8;A3C A3C 8;A41 A42 8;A47 A48 8;A4B A4D 8;
A51 A51 8;A70 A71 8;A75 A75 8;A81 A82 8;ABC ABC 8;AC1 AC5 8;AC7 AC8 8;ACD ACD 8;AE2 AE3 8;
AF1 AF1 5;AFA AFF 8;B01 B01 8;B3C B3C 8;B3F B3F 8;B41 B44 8;B4D B4D 8;B55 B56 8;B62 B63 8;
B82 B82 8;BC0 BC0 8;BCD BCD 8;BF3 BF8 A;BF9 BF9 5;BFA BFA A;C00 C00 8;C04 C04 8;C3C C3C 8;
C3E C40 8;C46 C48 8;C4A C4D 8;C55 C56 8;C62 C63 8;C78 C7E A;C81 C81 8;CBC CBC 8;CCC CCD 8;
CE2 CE3 8;D00 D01 8;D3B D3C 8;D41 D44 8;D4D D4D 8;D62 D63 8;D81 D81 8;DCA DCA 8;DD2 DD4 8;
DD6 DD6 8;E31 E31 8;E34 E3A 8;E3F E3F 5;E47 E4E 8;EB1 EB1 8;EB4 EBC 8;EC8 ECE 8;F18 F19 8;
F35 F35 8;F37 F37 8;F39 F39 8;F3A F3D A;F71 F7E 8;F80 F84 8;F86 F87 8;F8D F97 8;F99 FBC 8;
FC6 FC6 8;102D 1030 8;1032 1037 8;1039 103A 8;103D 103E 8;1058 1059 8;105E 1060 8;1071 1074 8;
1082 1082 8;1085 1086 8;108D 108D 8;109D 109D 8;135D 135F 8;1390 1399 A;1400 1400 A;1680 1680 B;
169B 169C A;1712 1714 8;1732 1733 8;1752 1753 8;1772 1773 8;17B4 17B5 8;17B7 17BD 8;17C6 17C6 8;
17C9 17D3 8;17DB 17DB 5;17DD 17DD 8;17F0 17F9 A;1800 180A A;180B 180D 8;180E 180E 9;180F 180F 8;
1885 1886 8;18A9 18A9 8;1920 1922 8;1927 1928 8;1932 1932 8;1939 193B 8;1940 1940 A;1944 1945 A;
19DE 19FF A;1A17 1A18 8;1A1B 1A1B 8;1A56 1A56 8;1A58 1A5E 8;1A60 1A60 8;1A62 1A62 8;1A65 1A6C 8;
1A73 1A7C 8;1A7F 1A7F 8;1AB0 1ADD 8;1AE0 1AEB 8;1B00 1B03 8;1B34 1B34 8;1B36 1B3A 8;1B3C 1B3C 8;
1B42 1B42 8;1B6B 1B73 8;1B80 1B81 8;1BA2 1BA5 8;1BA8 1BA9 8;1BAB 1BAD 8;1BE6 1BE6 8;1BE8 1BE9 8;
1BED 1BED 8;1BEF 1BF1 8;1C2C 1C33 8;1C36 1C37 8;1CD0 1CD2 8;1CD4 1CE0 8;1CE2 1CE8 8;1CED 1CED 8;
1CF4 1CF4 8;1CF8 1CF9 8;1DC0 1DFF 8;1FBD 1FBD A;1FBF 1FC1 A;1FCD 1FCF A;1FDD 1FDF A;1FED 1FEF A;
1FFD 1FFE A;2000 200A B;200B 200D 9;200F 200F 1;2010 2027 A;2028 2028 B;2029 2029 B;202A 202A B;
202B 202B B;202C 202C B;202D 202D B;202E 202E B;202F 202F 7;2030 2034 5;2035 2043 A;2044 2044 7;
2045 205E A;205F 205F B;2060 2064 9;2066 2066 B;2067 2067 B;2068 2068 B;2069 2069 B;206A 206F 9;
2070 2070 3;2074 2079 3;207A 207B 4;207C 207E A;2080 2089 3;208A 208B 4;208C 208E A;20A0 20C1 5;
20D0 20F0 8;2100 2101 A;2103 2106 A;2108 2109 A;2114 2114 A;2116 2118 A;211E 2123 A;2125 2125 A;
2127 2127 A;2129 2129 A;212E 212E 5;213A 213B A;2140 2144 A;214A 214D A;2150 215F A;2189 218B A;
2190 2211 A;2212 2212 4;2213 2213 5;2214 2335 A;237B 2394 A;2396 2429 A;2440 244A A;2460 2487 A;
2488 249B 3;24EA 26AB A;26AD 27FF A;2900 2B73 A;2B76 2BFF A;2CE5 2CEA A;2CEF 2CF1 8;2CF9 2CFF A;
2D7F 2D7F 8;2DE0 2DFF 8;2E00 2E5D A;2E80 2E99 A;2E9B 2EF3 A;2F00 2FD5 A;2FF0 2FFF A;3000 3000 B;
3001 3004 A;3008 3020 A;302A 302D 8;3030 3030 A;3036 3037 A;303D 303F A;3099 309A 8;309B 309C A;
30A0 30A0 A;30FB 30FB A;31C0 31E5 A;31EF 31EF A;321D 321E A;3250 325F A;327C 327E A;32B1 32BF A;
32CC 32CF A;3377 337A A;33DE 33DF A;33FF 33FF A;4DC0 4DFF A;A490 A4C6 A;A60D A60F A;A66F A672 8;
A673 A673 A;A674 A67D 8;A67E A67F A;A69E A69F 8;A6F0 A6F1 8;A700 A721 A;A788 A788 A;A802 A802 8;
A806 A806 8;A80B A80B 8;A825 A826 8;A828 A82B A;A82C A82C 8;A838 A839 5;A874 A877 A;A8C4 A8C5 8;
A8E0 A8F1 8;A8FF A8FF 8;A926 A92D 8;A947 A951 8;A980 A982 8;A9B3 A9B3 8;A9B6 A9B9 8;A9BC A9BD 8;
A9E5 A9E5 8;AA29 AA2E 8;AA31 AA32 8;AA35 AA36 8;AA43 AA43 8;AA4C AA4C 8;AA7C AA7C 8;AAB0 AAB0 8;
AAB2 AAB4 8;AAB7 AAB8 8;AABE AABF 8;AAC1 AAC1 8;AAEC AAED 8;AAF6 AAF6 8;AB6A AB6B A;ABE5 ABE5 8;
ABE8 ABE8 8;ABED ABED 8;FB1D FB1D 1;FB1E FB1E 8;FB1F FB28 1;FB29 FB29 4;FB2A FB36 1;FB38 FB3C 1;
FB3E FB3E 1;FB40 FB41 1;FB43 FB44 1;FB46 FB4F 1;FB50 FBC2 2;FBC3 FBD2 A;FBD3 FD3D 2;FD3E FD4F A;
FD50 FD8F 2;FD90 FD91 A;FD92 FDC7 2;FDC8 FDCF A;FDF0 FDFC 2;FDFD FDFF A;FE00 FE0F 8;FE10 FE19 A;
FE20 FE2F 8;FE30 FE4F A;FE50 FE50 7;FE51 FE51 A;FE52 FE52 7;FE54 FE54 A;FE55 FE55 7;FE56 FE5E A;
FE5F FE5F 5;FE60 FE61 A;FE62 FE63 4;FE64 FE66 A;FE68 FE68 A;FE69 FE6A 5;FE6B FE6B A;FE70 FE74 2;
FE76 FEFC 2;FEFF FEFF 9;FF01 FF02 A;FF03 FF05 5;FF06 FF0A A;FF0B FF0B 4;FF0C FF0C 7;FF0D FF0D 4;
FF0E FF0F 7;FF10 FF19 3;FF1A FF1A 7;FF1B FF20 A;FF3B FF40 A;FF5B FF65 A;FFE0 FFE1 5;FFE2 FFE4 A;
FFE5 FFE6 5;FFE8 FFEE A;FFF9 FFFD A;10101 10101 A;10140 1018C A;10190 1019C A;101A0 101A0 A;
101FD 101FD 8;102E0 102E0 8;102E1 102FB 3;10376 1037A 8;10800 10805 1;10808 10808 1;1080A 10835 1;
10837 10838 1;1083C 1083C 1;1083F 10855 1;10857 1089E 1;108A7 108AF 1;108E0 108F2 1;108F4 108F5 1;
108FB 1091B 1;1091F 1091F A;10920 10939 1;1093F 10959 1;10980 109B7 1;109BC 109CF 1;109D2 10A00 1;
10A01 10A03 8;10A05 10A06 8;10A0C 10A0F 8;10A10 10A13 1;10A15 10A17 1;10A19 10A35 1;10A38 10A3A 8;
10A3F 10A3F 8;10A40 10A48 1;10A50 10A58 1;10A60 10A9F 1;10AC0 10AE4 1;10AE5 10AE6 8;10AEB 10AF6 1;
10B00 10B35 1;10B39 10B3F A;10B40 10B55 1;10B58 10B72 1;10B78 10B91 1;10B99 10B9C 1;10BA9 10BAF 1;
10C00 10C48 1;10C80 10CB2 1;10CC0 10CF2 1;10CFA 10CFF 1;10D00 10D23 2;10D24 10D27 8;10D30 10D39 6;
10D40 10D49 6;10D4A 10D65 1;10D69 10D6D 8;10D6E 10D6E A;10D6F 10D85 1;10D8E 10D8F 1;10E60 10E7E 6;
10E80 10EA9 1;10EAB 10EAC 8;10EAD 10EAD 1;10EB0 10EB1 1;10EC2 10EC7 2;10ED0 10ED8 A;10EFA 10EFF 8;
10F00 10F27 1;10F30 10F45 2;10F46 10F50 8;10F51 10F59 2;10F70 10F81 1;10F82 10F85 8;10F86 10F89 1;
10FB0 10FCB 1;10FE0 10FF6 1;11001 11001 8;11038 11046 8;11052 11065 A;11070 11070 8;11073 11074 8;
1107F 11081 8;110B3 110B6 8;110B9 110BA 8;110C2 110C2 8;11100 11102 8;11127 1112B 8;1112D 11134 8;
11173 11173 8;11180 11181 8;111B6 111BE 8;111C9 111CC 8;111CF 111CF 8;1122F 11231 8;11234 11234 8;
11236 11237 8;1123E 1123E 8;11241 11241 8;112DF 112DF 8;112E3 112EA 8;11300 11301 8;1133B 1133C 8;
11340 11340 8;11366 1136C 8;11370 11374 8;113BB 113C0 8;113CE 113CE 8;113D0 113D0 8;113D2 113D2 8;
113E1 113E2 8;11438 1143F 8;11442 11444 8;11446 11446 8;1145E 1145E 8;114B3 114B8 8;114BA 114BA 8;
114BF 114C0 8;114C2 114C3 8;115B2 115B5 8;115BC 115BD 8;115BF 115C0 8;115DC 115DD 8;11633 1163A 8;
1163D 1163D 8;1163F 11640 8;11660 1166C A;116AB 116AB 8;116AD 116AD 8;116B0 116B5 8;116B7 116B7 8;
1171D 1171D 8;1171F 1171F 8;11722 11725 8;11727 1172B 8;1182F 11837 8;11839 1183A 8;1193B 1193C 8;
1193E 1193E 8;11943 11943 8;119D4 119D7 8;119DA 119DB 8;119E0 119E0 8;11A01 11A06 8;11A09 11A0A 8;
11A33 11A38 8;11A3B 11A3E 8;11A47 11A47 8;11A51 11A56 8;11A59 11A5B 8;11A8A 11A96 8;11A98 11A99 8;
11B60 11B60 8;11B62 11B64 8;11B66 11B66 8;11C30 11C36 8;11C38 11C3D 8;11C92 11CA7 8;11CAA 11CB0 8;
11CB2 11CB3 8;11CB5 11CB6 8;11D31 11D36 8;11D3A 11D3A 8;11D3C 11D3D 8;11D3F 11D45 8;11D47 11D47 8;
11D90 11D91 8;11D95 11D95 8;11D97 11D97 8;11EF3 11EF4 8;11F00 11F01 8;11F36 11F3A 8;11F40 11F40 8;
11F42 11F42 8;11F5A 11F5A 8;11FD5 11FDC A;11FDD 11FE0 5;11FE1 11FF1 A;13440 13440 8;13447 13455 8;
1611E 16129 8;1612D 1612F 8;16AF0 16AF4 8;16B30 16B36 8;16F4F 16F4F 8;16F8F 16F92 8;16FE2 16FE2 A;
16FE4 16FE4 8;1BC9D 1BC9E 8;1BCA0 1BCA3 9;1CC00 1CCD5 A;1CCF0 1CCF9 3;1CCFA 1CCFC A;1CD00 1CEB3 A;
1CEBA 1CED0 A;1CEE0 1CEF0 A;1CF00 1CF2D 8;1CF30 1CF46 8;1D167 1D169 8;1D173 1D17A 9;1D17B 1D182 8;
1D185 1D18B 8;1D1AA 1D1AD 8;1D1E9 1D1EA A;1D200 1D241 A;1D242 1D244 8;1D245 1D245 A;1D300 1D356 A;
1D6C1 1D6C1 A;1D6DB 1D6DB A;1D6FB 1D6FB A;1D715 1D715 A;1D735 1D735 A;1D74F 1D74F A;1D76F 1D76F A;
1D789 1D789 A;1D7A9 1D7A9 A;1D7C3 1D7C3 A;1D7CE 1D7FF 3;1DA00 1DA36 8;1DA3B 1DA6C 8;1DA75 1DA75 8;
1DA84 1DA84 8;1DA9B 1DA9F 8;1DAA1 1DAAF 8;1E000 1E006 8;1E008 1E018 8;1E01B 1E021 8;1E023 1E024 8;
1E026 1E02A 8;1E08F 1E08F 8;1E130 1E136 8;1E2AE 1E2AE 8;1E2EC 1E2EF 8;1E2FF 1E2FF 5;1E4EC 1E4EF 8;
1E5EE 1E5EF 8;1E6E3 1E6E3 8;1E6E6 1E6E6 8;1E6EE 1E6EF 8;1E6F5 1E6F5 8;1E800 1E8C4 1;1E8C7 1E8CF 1;
1E8D0 1E8D6 8;1E900 1E943 1;1E944 1E94A 8;1E94B 1E94B 1;1E950 1E959 1;1E95E 1E95F 1;1EC71 1ECB4 2;
1ED01 1ED3D 2;1EE00 1EE03 2;1EE05 1EE1F 2;1EE21 1EE22 2;1EE24 1EE24 2;1EE27 1EE27 2;1EE29 1EE32 2;
1EE34 1EE37 2;1EE39 1EE39 2;1EE3B 1EE3B 2;1EE42 1EE42 2;1EE47 1EE47 2;1EE49 1EE49 2;1EE4B 1EE4B 2;
1EE4D 1EE4F 2;1EE51 1EE52 2;1EE54 1EE54 2;1EE57 1EE57 2;1EE59 1EE59 2;1EE5B 1EE5B 2;1EE5D 1EE5D 2;
1EE5F 1EE5F 2;1EE61 1EE62 2;1EE64 1EE64 2;1EE67 1EE6A 2;1EE6C 1EE72 2;1EE74 1EE77 2;1EE79 1EE7C 2;
1EE7E 1EE7E 2;1EE80 1EE89 2;1EE8B 1EE9B 2;1EEA1 1EEA3 2;1EEA5 1EEA9 2;1EEAB 1EEBB 2;1EEF0 1EEF1 A;
1F000 1F02B A;1F030 1F093 A;1F0A0 1F0AE A;1F0B1 1F0BF A;1F0C1 1F0CF A;1F0D1 1F0F5 A;1F100 1F10A 3;
1F10B 1F10F A;1F12F 1F12F A;1F16A 1F16F A;1F1AD 1F1AD A;1F260 1F265 A;1F300 1F6D8 A;1F6DC 1F6EC A;
1F6F0 1F6FC A;1F700 1F7D9 A;1F7E0 1F7EB A;1F7F0 1F7F0 A;1F800 1F80B A;1F810 1F847 A;1F850 1F859 A;
1F860 1F887 A;1F890 1F8AD A;1F8B0 1F8BB A;1F8C0 1F8C1 A;1F8D0 1F8D8 A;1F900 1FA57 A;1FA60 1FA6D A;
1FA70 1FA7C A;1FA80 1FA8A A;1FA8E 1FAC6 A;1FAC8 1FAC8 A;1FACD 1FADC A;1FADF 1FAEA A;1FAEF 1FAF8 A;
1FB00 1FB92 A;1FB94 1FBEF A;1FBF0 1FBF9 3;1FBFA 1FBFA A;E0001 E0001 9;E0020 E007F 9;E0100 E01EF 8;"

/-- The directions in the order of their numbers. -/
def numbered : List Direction :=
  [left, right, arabic, digit, sign, unit, arabicDigit, separator, mark, unseen, neutral, other]

/-- The directions other than `left`. -/
def ranges : List (Nat × Nat × Nat) :=
  Codes.triples table

/-- How a character behaves in its line. -/
def ofChar (c : Char) : Direction :=
  ((Codes.valueOf? ranges c.toNat).bind fun number => numbered[number]?).getD left

/-- Whether a direction makes a domain one of those that are looked at. -/
def isFromRight (direction : Direction) : Bool :=
  [right, arabic, arabicDigit].contains direction

/-- The first code of a character that is written from right to left. -/
def firstFromRight : Nat := 0x590

/-- Whether a text has characters that make its domain one of those that are looked at. -/
def hasFromRight (s : List Char) : Bool :=
  s.any fun c => firstFromRight ≤ c.toNat && isFromRight (ofChar c)

/-- What may stand in labels of either direction. -/
def anywhere : List Direction :=
  [digit, sign, unit, separator, mark, unseen, neutral]

/-- The last direction that is not that of a mark. -/
def ending? (directions : List Direction) : Option Direction :=
  (directions.reverse.dropWhile (· = mark)).head?

/-- Whether a label has one direction. Digits of the two kinds do not stand together in a label from
right to left. -/
def isSteady (label : List Char) : Bool :=
  match label.map ofChar with
  | [] => true
  | first :: rest =>
    let directions := first :: rest
    if first = left then
      directions.all (left :: anywhere).contains &&
        (ending? directions).any [left, digit].contains
    else if first = right ∨ first = arabic then
      directions.all (right :: arabic :: arabicDigit :: anywhere).contains &&
        (ending? directions).any [right, arabic, digit, arabicDigit].contains &&
        !(directions.contains digit && directions.contains arabicDigit)
    else false

end Direction

end FramedAvro.Url.Domain
