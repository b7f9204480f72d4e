import FramedAvro.Text.Composition

/-!
# Joiners

Two characters that nobody sees join the letters around them or keep them apart. They may only stand
where that makes a difference: after a sign that ends a consonant of an Indic script, and the one
that keeps apart also between letters that would join.

## Main definitions

* `Joining.ofChar`: how the form of a letter depends on its neighbours.
* `Joiner.allFit`: whether the joiners in a label stand where they may.
-/

namespace FramedAvro.Url.Domain

/-- How the form of a letter depends on its neighbours in the line. -/
inductive Joining where
  | none
  | left
  | right
  | both
  | causing
  | passed
deriving DecidableEq, Repr

namespace Joining

/-- The letters that join, as ranges of codes with a number for the way in which they do. -/
def table : String := "
AD AD 5;300 36F 5;483 489 5;591 5BD 5;5BF 5BF 5;5C1 5C2 5;5C4 5C5 5;5C7 5C7 5;610 61A 5;61C 61C 5;
620 620 3;622 625 2;626 626 3;627 627 2;628 628 3;629 629 2;62A 62E 3;62F 632 2;633 63F 3;
640 640 4;641 647 3;648 648 2;649 64A 3;64B 65F 5;66E 66F 3;670 670 5;671 673 2;675 677 2;
678 687 3;688 699 2;69A 6BF 3;6C0 6C0 2;6C1 6C2 3;6C3 6CB 2;6CC 6CC 3;6CD 6CD 2;6CE 6CE 3;
6CF 6CF 2;6D0 6D1 3;6D2 6D3 2;6D5 6D5 2;6D6 6DC 5;6DF 6E4 5;6E7 6E8 5;6EA 6ED 5;6EE 6EF 2;
6FA 6FC 3;6FF 6FF 3;70F 70F 5;710 710 2;711 711 5;712 714 3;715 719 2;71A 71D 3;71E 71E 2;
71F 727 3;728 728 2;729 729 3;72A 72A 2;72B 72B 3;72C 72C 2;72D 72E 3;72F 72F 2;730 74A 5;
74D 74D 2;74E 758 3;759 75B 2;75C 76A 3;76B 76C 2;76D 770 3;771 771 2;772 772 3;773 774 2;
775 777 3;778 779 2;77A 77F 3;7A6 7B0 5;7CA 7EA 3;7EB 7F3 5;7FA 7FA 4;7FD 7FD 5;816 819 5;
81B 823 5;825 827 5;829 82D 5;840 840 2;841 845 3;846 847 2;848 848 3;849 849 2;84A 853 3;
854 854 2;855 855 3;856 858 2;859 85B 5;860 860 3;862 865 3;867 867 2;868 868 3;869 86A 2;
870 882 2;883 885 4;886 886 3;889 88D 3;88E 88E 2;88F 88F 3;897 89F 5;8A0 8A9 3;8AA 8AC 2;
8AE 8AE 2;8AF 8B0 3;8B1 8B2 2;8B3 8B8 3;8B9 8B9 2;8BA 8C8 3;8CA 8E1 5;8E3 902 5;93A 93A 5;
93C 93C 5;941 948 5;94D 94D 5;951 957 5;962 963 5;981 981 5;9BC 9BC 5;9C1 9C4 5;9CD 9CD 5;
9E2 9E3 5;9FE 9FE 5;A01 A02 5;A3C A3C 5;A41 A42 5;A47 A48 5;A4B A4D 5;A51 A51 5;A70 A71 5;
A75 A75 5;A81 A82 5;ABC ABC 5;AC1 AC5 5;AC7 AC8 5;ACD ACD 5;AE2 AE3 5;AFA AFF 5;B01 B01 5;
B3C B3C 5;B3F B3F 5;B41 B44 5;B4D B4D 5;B55 B56 5;B62 B63 5;B82 B82 5;BC0 BC0 5;BCD BCD 5;
C00 C00 5;C04 C04 5;C3C C3C 5;C3E C40 5;C46 C48 5;C4A C4D 5;C55 C56 5;C62 C63 5;C81 C81 5;
CBC CBC 5;CBF CBF 5;CC6 CC6 5;CCC CCD 5;CE2 CE3 5;D00 D01 5;D3B D3C 5;D41 D44 5;D4D D4D 5;
D62 D63 5;D81 D81 5;DCA DCA 5;DD2 DD4 5;DD6 DD6 5;E31 E31 5;E34 E3A 5;E47 E4E 5;EB1 EB1 5;
EB4 EBC 5;EC8 ECE 5;F18 F19 5;F35 F35 5;F37 F37 5;F39 F39 5;F71 F7E 5;F80 F84 5;F86 F87 5;
F8D F97 5;F99 FBC 5;FC6 FC6 5;102D 1030 5;1032 1037 5;1039 103A 5;103D 103E 5;1058 1059 5;
105E 1060 5;1071 1074 5;1082 1082 5;1085 1086 5;108D 108D 5;109D 109D 5;135D 135F 5;1712 1714 5;
1732 1733 5;1752 1753 5;1772 1773 5;17B4 17B5 5;17B7 17BD 5;17C6 17C6 5;17C9 17D3 5;17DD 17DD 5;
1807 1807 3;180A 180A 4;180B 180D 5;180F 180F 5;1820 1878 3;1885 1886 5;1887 18A8 3;18A9 18A9 5;
18AA 18AA 3;1920 1922 5;1927 1928 5;1932 1932 5;1939 193B 5;1A17 1A18 5;1A1B 1A1B 5;1A56 1A56 5;
1A58 1A5E 5;1A60 1A60 5;1A62 1A62 5;1A65 1A6C 5;1A73 1A7C 5;1A7F 1A7F 5;1AB0 1ADD 5;1AE0 1AEB 5;
1B00 1B03 5;1B34 1B34 5;1B36 1B3A 5;1B3C 1B3C 5;1B42 1B42 5;1B6B 1B73 5;1B80 1B81 5;1BA2 1BA5 5;
1BA8 1BA9 5;1BAB 1BAD 5;1BE6 1BE6 5;1BE8 1BE9 5;1BED 1BED 5;1BEF 1BF1 5;1C2C 1C33 5;1C36 1C37 5;
1CD0 1CD2 5;1CD4 1CE0 5;1CE2 1CE8 5;1CED 1CED 5;1CF4 1CF4 5;1CF8 1CF9 5;1DC0 1DFF 5;200B 200B 5;
200D 200D 4;200E 200F 5;202A 202E 5;2060 2064 5;206A 206F 5;20D0 20F0 5;2CEF 2CF1 5;2D7F 2D7F 5;
2DE0 2DFF 5;302A 302D 5;3099 309A 5;A66F A672 5;A674 A67D 5;A69E A69F 5;A6F0 A6F1 5;A802 A802 5;
A806 A806 5;A80B A80B 5;A825 A826 5;A82C A82C 5;A840 A871 3;A872 A872 1;A8C4 A8C5 5;A8E0 A8F1 5;
A8FF A8FF 5;A926 A92D 5;A947 A951 5;A980 A982 5;A9B3 A9B3 5;A9B6 A9B9 5;A9BC A9BD 5;A9E5 A9E5 5;
AA29 AA2E 5;AA31 AA32 5;AA35 AA36 5;AA43 AA43 5;AA4C AA4C 5;AA7C AA7C 5;AAB0 AAB0 5;AAB2 AAB4 5;
AAB7 AAB8 5;AABE AABF 5;AAC1 AAC1 5;AAEC AAED 5;AAF6 AAF6 5;ABE5 ABE5 5;ABE8 ABE8 5;ABED ABED 5;
FB1E FB1E 5;FE00 FE0F 5;FE20 FE2F 5;FEFF FEFF 5;FFF9 FFFB 5;101FD 101FD 5;102E0 102E0 5;
10376 1037A 5;10A01 10A03 5;10A05 10A06 5;10A0C 10A0F 5;10A38 10A3A 5;10A3F 10A3F 5;10AC0 10AC4 3;
10AC5 10AC5 2;10AC7 10AC7 2;10AC9 10ACA 2;10ACD 10ACD 1;10ACE 10AD2 2;10AD3 10AD6 3;10AD7 10AD7 1;
10AD8 10ADC 3;10ADD 10ADD 2;10ADE 10AE0 3;10AE1 10AE1 2;10AE4 10AE4 2;10AE5 10AE6 5;10AEB 10AEE 3;
10AEF 10AEF 2;10B80 10B80 3;10B81 10B81 2;10B82 10B82 3;10B83 10B85 2;10B86 10B88 3;10B89 10B89 2;
10B8A 10B8B 3;10B8C 10B8C 2;10B8D 10B8D 3;10B8E 10B8F 2;10B90 10B90 3;10B91 10B91 2;10BA9 10BAC 2;
10BAD 10BAE 3;10D00 10D00 1;10D01 10D21 3;10D22 10D22 2;10D23 10D23 3;10D24 10D27 5;10D69 10D6D 5;
10EAB 10EAC 5;10EC2 10EC2 2;10EC3 10EC4 3;10EC6 10EC7 3;10EFA 10EFF 5;10F30 10F32 3;10F33 10F33 2;
10F34 10F44 3;10F46 10F50 5;10F51 10F53 3;10F54 10F54 2;10F70 10F73 3;10F74 10F75 2;10F76 10F81 3;
10F82 10F85 5;10FB0 10FB0 3;10FB2 10FB3 3;10FB4 10FB6 2;10FB8 10FB8 3;10FB9 10FBA 2;10FBB 10FBC 3;
10FBD 10FBD 2;10FBE 10FBF 3;10FC1 10FC1 3;10FC2 10FC3 2;10FC4 10FC4 3;10FC9 10FC9 2;10FCA 10FCA 3;
10FCB 10FCB 1;11001 11001 5;11038 11046 5;11070 11070 5;11073 11074 5;1107F 11081 5;110B3 110B6 5;
110B9 110BA 5;110C2 110C2 5;11100 11102 5;11127 1112B 5;1112D 11134 5;11173 11173 5;11180 11181 5;
111B6 111BE 5;111C9 111CC 5;111CF 111CF 5;1122F 11231 5;11234 11234 5;11236 11237 5;1123E 1123E 5;
11241 11241 5;112DF 112DF 5;112E3 112EA 5;11300 11301 5;1133B 1133C 5;11340 11340 5;11366 1136C 5;
11370 11374 5;113BB 113C0 5;113CE 113CE 5;113D0 113D0 5;113D2 113D2 5;113E1 113E2 5;11438 1143F 5;
11442 11444 5;11446 11446 5;1145E 1145E 5;114B3 114B8 5;114BA 114BA 5;114BF 114C0 5;114C2 114C3 5;
115B2 115B5 5;115BC 115BD 5;115BF 115C0 5;115DC 115DD 5;11633 1163A 5;1163D 1163D 5;1163F 11640 5;
116AB 116AB 5;116AD 116AD 5;116B0 116B5 5;116B7 116B7 5;1171D 1171D 5;1171F 1171F 5;11722 11725 5;
11727 1172B 5;1182F 11837 5;11839 1183A 5;1193B 1193C 5;1193E 1193E 5;11943 11943 5;119D4 119D7 5;
119DA 119DB 5;119E0 119E0 5;11A01 11A0A 5;11A33 11A38 5;11A3B 11A3E 5;11A47 11A47 5;11A51 11A56 5;
11A59 11A5B 5;11A8A 11A96 5;11A98 11A99 5;11B60 11B60 5;11B62 11B64 5;11B66 11B66 5;11C30 11C36 5;
11C38 11C3D 5;11C3F 11C3F 5;11C92 11CA7 5;11CAA 11CB0 5;11CB2 11CB3 5;11CB5 11CB6 5;11D31 11D36 5;
11D3A 11D3A 5;11D3C 11D3D 5;11D3F 11D45 5;11D47 11D47 5;11D90 11D91 5;11D95 11D95 5;11D97 11D97 5;
11EF3 11EF4 5;11F00 11F01 5;11F36 11F3A 5;11F40 11F40 5;11F42 11F42 5;11F5A 11F5A 5;13430 13440 5;
13447 13455 5;1611E 16129 5;1612D 1612F 5;16AF0 16AF4 5;16B30 16B36 5;16F4F 16F4F 5;16F8F 16F92 5;
16FE4 16FE4 5;1BC9D 1BC9E 5;1BCA0 1BCA3 5;1CF00 1CF2D 5;1CF30 1CF46 5;1D167 1D169 5;1D173 1D182 5;
1D185 1D18B 5;1D1AA 1D1AD 5;1D242 1D244 5;1DA00 1DA36 5;1DA3B 1DA6C 5;1DA75 1DA75 5;1DA84 1DA84 5;
1DA9B 1DA9F 5;1DAA1 1DAAF 5;1E000 1E006 5;1E008 1E018 5;1E01B 1E021 5;1E023 1E024 5;1E026 1E02A 5;
1E08F 1E08F 5;1E130 1E136 5;1E2AE 1E2AE 5;1E2EC 1E2EF 5;1E4EC 1E4EF 5;1E5EE 1E5EF 5;1E6E3 1E6E3 5;
1E6E6 1E6E6 5;1E6EE 1E6EF 5;1E6F5 1E6F5 5;1E8D0 1E8D6 5;1E900 1E943 3;1E944 1E94B 5;E0001 E0001 5;
E0020 E007F 5;E0100 E01EF 5;"

/-- The ways to join in the order of their numbers. -/
def numbered : List Joining :=
  [none, left, right, both, causing, passed]

/-- The letters that join. -/
def ranges : List (Nat × Nat × Nat) :=
  Codes.triples table

/-- How the form of a letter depends on its neighbours. -/
def ofChar (c : Char) : Joining :=
  ((Codes.valueOf? ranges c.toNat).bind fun number => numbered[number]?).getD none

/-- The joining of the first letter that is not passed over. -/
def first? (s : List Char) : Option Joining :=
  ((s.map ofChar).dropWhile (· = passed)).head?

end Joining

namespace Joiner

/-- The character that keeps letters apart. -/
def apart : Char := Char.ofNat 0x200C

/-- The character that joins letters. -/
def together : Char := Char.ofNat 0x200D

/-- The class of the signs that end a consonant. -/
def endingClass : Nat := 9

/-- Whether characters, the last first, end with a sign that ends a consonant. -/
def endsConsonant : List Char → Bool
  | [] => false
  | c :: _ => Composition.classOf c.toNat = endingClass

/-- Whether the letters before a place, the last first, and those after it would join. -/
def wouldJoin (before after : List Char) : Bool :=
  (Joining.first? before).any [Joining.left, Joining.both].contains &&
    (Joining.first? after).any [Joining.right, Joining.both].contains

/-- Whether the joiners among characters stand where they may, those before them given with the last
first. -/
def fitAfter (before : List Char) : List Char → Bool
  | [] => true
  | c :: rest =>
    (if c = apart then endsConsonant before || wouldJoin before rest
      else if c = together then endsConsonant before
      else true) && fitAfter (c :: before) rest

/-- Whether the joiners in a label stand where they may. -/
def allFit (label : List Char) : Bool :=
  fitAfter [] label

end Joiner

end FramedAvro.Url.Domain
