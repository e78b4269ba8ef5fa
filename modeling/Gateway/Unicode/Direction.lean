import Gateway.Unicode.Table

/-!
# Writing direction, joining and marks

What the rules for domain names in scripts written from right to left, in scripts whose letters join
and with combining marks ask of a character.
-/

namespace Gateway.Unicode

/-- The part a character plays for the direction of a label. -/
inductive Direction where
  /-- A letter of a script written from left to right. -/
  | left
  /-- A letter of a script written from right to left. -/
  | right
  /-- A digit of the Arabic scripts. -/
  | arabicNumber
  /-- An ASCII digit or the like. -/
  | europeanNumber
  /-- Punctuation and other characters without a direction. -/
  | neutral
  /-- A mark on another character. -/
  | mark
  /-- A character that no label with a direction may hold. -/
  | separator
deriving DecidableEq, Repr

/-- Read a direction off its letter. -/
def Direction.ofText : Text → Direction
  | ['l'] => .left
  | ['r'] => .right
  | ['a'] => .arabicNumber
  | ['e'] => .europeanNumber
  | ['n'] => .neutral
  | ['m'] => .mark
  | _ => .separator

/-- The directions of all characters. -/
def directions : Table Direction := .ofString Direction.ofText "
0=n 9=o E=n 1C=o 21=n 30=e 3A=n 41=l 5B=n 61=l 7B=n 85=o 86=n AA=l AB=n B2=e B4=n B5=l B6=n B9=e
BA=l BB=n C0=l D7=n D8=l F7=n F8=l 2B9=n 2BB=l 2C2=n 2D0=l 2D2=n 2E0=l 2E5=n 2EE=l 2EF=n 300=m
370=l 374=n 376=l 37E=n 37F=l 384=n 386=l 387=n 388=l 3F6=n 3F7=l 483=m 48A=l 58A=n 58B=l 58D=n
590=r 591=m 5BE=r 5BF=m 5C0=r 5C1=m 5C3=r 5C4=m 5C6=r 5C7=m 5C8=r 600=a 606=n 608=r 609=n 60B=r
60C=n 60D=r 60E=n 610=m 61B=r 64B=m 660=a 66A=n 66B=a 66D=r 670=m 671=r 6D6=m 6DD=a 6DE=n 6DF=m
6E5=r 6E7=m 6E9=n 6EA=m 6EE=r 6F0=e 6FA=r 711=m 712=r 730=m 74B=r 7A6=m 7B1=r 7EB=m 7F4=r 7F6=n
7FA=r 7FD=m 7FE=r 816=m 81A=r 81B=m 824=r 825=m 828=r 829=m 82E=r 859=m 85C=r 890=a 892=r 898=m
8A0=r 8CA=m 8E2=a 8E3=m 903=l 93A=m 93B=l 93C=m 93D=l 941=m 949=l 94D=m 94E=l 951=m 958=l 962=m
964=l 981=m 982=l 9BC=m 9BD=l 9C1=m 9C5=l 9CD=m 9CE=l 9E2=m 9E4=l 9F2=n 9F4=l 9FB=n 9FC=l 9FE=m
9FF=l A01=m A03=l A3C=m A3D=l A41=m A43=l A47=m A49=l A4B=m A4E=l A51=m A52=l A70=m A72=l A75=m
A76=l A81=m A83=l ABC=m ABD=l AC1=m AC6=l AC7=m AC9=l ACD=m ACE=l AE2=m AE4=l AF1=n AF2=l AFA=m
B00=l B01=m B02=l B3C=m B3D=l B3F=m B40=l B41=m B45=l B4D=m B4E=l B55=m B57=l B62=m B64=l B82=m
B83=l BC0=m BC1=l BCD=m BCE=l BF3=n BFB=l C00=m C01=l C04=m C05=l C3C=m C3D=l C3E=m C41=l C46=m
C49=l C4A=m C4E=l C55=m C57=l C62=m C64=l C78=n C7F=l C81=m C82=l CBC=m CBD=l CCC=m CCE=l CE2=m
CE4=l D00=m D02=l D3B=m D3D=l D41=m D45=l D4D=m D4E=l D62=m D64=l D81=m D82=l DCA=m DCB=l DD2=m
DD5=l DD6=m DD7=l E31=m E32=l E34=m E3B=l E3F=n E40=l E47=m E4F=l EB1=m EB2=l EB4=m EBD=l EC8=m
ECF=l F18=m F1A=l F35=m F36=l F37=m F38=l F39=m F3A=n F3E=l F71=m F7F=l F80=m F85=l F86=m F88=l
F8D=m F98=l F99=m FBD=l FC6=m FC7=l 102D=m 1031=l 1032=m 1038=l 1039=m 103B=l 103D=m 103F=l
1058=m 105A=l 105E=m 1061=l 1071=m 1075=l 1082=m 1083=l 1085=m 1087=l 108D=m 108E=l 109D=m
109E=l 135D=m 1360=l 1390=n 139A=l 1400=n 1401=l 1680=o 1681=l 169B=n 169D=l 1712=m 1715=l
1732=m 1734=l 1752=m 1754=l 1772=m 1774=l 17B4=m 17B6=l 17B7=m 17BE=l 17C6=m 17C7=l 17C9=m
17D4=l 17DB=n 17DC=l 17DD=m 17DE=l 17F0=n 17FA=l 1800=n 180B=m 180E=n 180F=m 1810=l 1885=m
1887=l 18A9=m 18AA=l 1920=m 1923=l 1927=m 1929=l 1932=m 1933=l 1939=m 193C=l 1940=n 1941=l
1944=n 1946=l 19DE=n 1A00=l 1A17=m 1A19=l 1A1B=m 1A1C=l 1A56=m 1A57=l 1A58=m 1A5F=l 1A60=m
1A61=l 1A62=m 1A63=l 1A65=m 1A6D=l 1A73=m 1A7D=l 1A7F=m 1A80=l 1AB0=m 1ACF=l 1B00=m 1B04=l
1B34=m 1B35=l 1B36=m 1B3B=l 1B3C=m 1B3D=l 1B42=m 1B43=l 1B6B=m 1B74=l 1B80=m 1B82=l 1BA2=m
1BA6=l 1BA8=m 1BAA=l 1BAB=m 1BAE=l 1BE6=m 1BE7=l 1BE8=m 1BEA=l 1BED=m 1BEE=l 1BEF=m 1BF2=l
1C2C=m 1C34=l 1C36=m 1C38=l 1CD0=m 1CD3=l 1CD4=m 1CE1=l 1CE2=m 1CE9=l 1CED=m 1CEE=l 1CF4=m
1CF5=l 1CF8=m 1CFA=l 1DC0=m 1E00=l 1FBD=n 1FBE=l 1FBF=n 1FC2=l 1FCD=n 1FD0=l 1FDD=n 1FE0=l
1FED=n 1FF0=l 1FFD=n 1FFF=l 2000=o 200B=n 200E=l 200F=r 2010=n 2028=o 202F=n 205F=o 2060=n
2066=o 206A=n 2070=e 2071=l 2074=e 207A=n 207F=l 2080=e 208A=n 208F=l 20A0=n 20D0=m 20F1=l
2100=n 2102=l 2103=n 2107=l 2108=n 210A=l 2114=n 2115=l 2116=n 2119=l 211E=n 2124=l 2125=n
2126=l 2127=n 2128=l 2129=n 212A=l 212E=n 212F=l 213A=n 213C=l 2140=n 2145=l 214A=n 214E=l
2150=n 2160=l 2189=n 218C=l 2190=n 2336=l 237B=n 2395=l 2396=n 2427=l 2440=n 244B=l 2460=n
2488=e 249C=l 24EA=n 26AC=l 26AD=n 2800=l 2900=n 2B74=l 2B76=n 2B96=l 2B97=n 2C00=l 2CE5=n
2CEB=l 2CEF=m 2CF2=l 2CF9=n 2D00=l 2D7F=m 2D80=l 2DE0=m 2E00=n 2E5E=l 2E80=n 2E9A=l 2E9B=n
2EF4=l 2F00=n 2FD6=l 2FF0=n 2FFC=l 3000=o 3001=n 3005=l 3008=n 3021=l 302A=m 302E=l 3030=n
3031=l 3036=n 3038=l 303D=n 3040=l 3099=m 309B=n 309D=l 30A0=n 30A1=l 30FB=n 30FC=l 31C0=n
31E4=l 321D=n 321F=l 3250=n 3260=l 327C=n 327F=l 32B1=n 32C0=l 32CC=n 32D0=l 3377=n 337B=l
33DE=n 33E0=l 33FF=n 3400=l 4DC0=n 4E00=l A490=n A4C7=l A60D=n A610=l A66F=m A673=n A674=m
A67E=n A680=l A69E=m A6A0=l A6F0=m A6F2=l A700=n A722=l A788=n A789=l A802=m A803=l A806=m
A807=l A80B=m A80C=l A825=m A827=l A828=n A82C=m A82D=l A838=n A83A=l A874=n A878=l A8C4=m
A8C6=l A8E0=m A8F2=l A8FF=m A900=l A926=m A92E=l A947=m A952=l A980=m A983=l A9B3=m A9B4=l
A9B6=m A9BA=l A9BC=m A9BE=l A9E5=m A9E6=l AA29=m AA2F=l AA31=m AA33=l AA35=m AA37=l AA43=m
AA44=l AA4C=m AA4D=l AA7C=m AA7D=l AAB0=m AAB1=l AAB2=m AAB5=l AAB7=m AAB9=l AABE=m AAC0=l
AAC1=m AAC2=l AAEC=m AAEE=l AAF6=m AAF7=l AB6A=n AB6C=l ABE5=m ABE6=l ABE8=m ABE9=l ABED=m
ABEE=l FB1D=r FB1E=m FB1F=r FB29=n FB2A=r FD3E=n FD50=r FDCF=n FDF0=r FDFD=n FE00=m FE10=n
FE1A=l FE20=m FE30=n FE53=l FE54=n FE67=l FE68=n FE6C=l FE70=r FEFF=n FF00=l FF01=n FF10=e
FF1A=n FF21=l FF3B=n FF41=l FF5B=n FF66=l FFE0=n FFE7=l FFE8=n FFEF=l FFF0=n 10000=l 10101=n
10102=l 10140=n 1018D=l 10190=n 1019D=l 101A0=n 101A1=l 101FD=m 101FE=l 102E0=m 102E1=e 102FC=l
10376=m 1037B=l 10800=r 1091F=n 10920=r 10A01=m 10A04=r 10A05=m 10A07=r 10A0C=m 10A10=r 10A38=m
10A3B=r 10A3F=m 10A40=r 10AE5=m 10AE7=r 10B39=n 10B40=r 10D24=m 10D28=r 10D30=a 10D3A=r 10E60=a
10E7F=r 10EAB=m 10EAD=r 10EFD=m 10F00=r 10F46=m 10F51=r 10F82=m 10F86=r 11000=l 11001=m 11002=l
11038=m 11047=l 11052=n 11066=l 11070=m 11071=l 11073=m 11075=l 1107F=m 11082=l 110B3=m 110B7=l
110B9=m 110BB=l 110C2=m 110C3=l 11100=m 11103=l 11127=m 1112C=l 1112D=m 11135=l 11173=m 11174=l
11180=m 11182=l 111B6=m 111BF=l 111C9=m 111CD=l 111CF=m 111D0=l 1122F=m 11232=l 11234=m 11235=l
11236=m 11238=l 1123E=m 1123F=l 11241=m 11242=l 112DF=m 112E0=l 112E3=m 112EB=l 11300=m 11302=l
1133B=m 1133D=l 11340=m 11341=l 11366=m 1136D=l 11370=m 11375=l 11438=m 11440=l 11442=m 11445=l
11446=m 11447=l 1145E=m 1145F=l 114B3=m 114B9=l 114BA=m 114BB=l 114BF=m 114C1=l 114C2=m 114C4=l
115B2=m 115B6=l 115BC=m 115BE=l 115BF=m 115C1=l 115DC=m 115DE=l 11633=m 1163B=l 1163D=m 1163E=l
1163F=m 11641=l 11660=n 1166D=l 116AB=m 116AC=l 116AD=m 116AE=l 116B0=m 116B6=l 116B7=m 116B8=l
1171D=m 11720=l 11722=m 11726=l 11727=m 1172C=l 1182F=m 11838=l 11839=m 1183B=l 1193B=m 1193D=l
1193E=m 1193F=l 11943=m 11944=l 119D4=m 119D8=l 119DA=m 119DC=l 119E0=m 119E1=l 11A01=m 11A07=l
11A09=m 11A0B=l 11A33=m 11A39=l 11A3B=m 11A3F=l 11A47=m 11A48=l 11A51=m 11A57=l 11A59=m 11A5C=l
11A8A=m 11A97=l 11A98=m 11A9A=l 11C30=m 11C37=l 11C38=m 11C3E=l 11C92=m 11CA8=l 11CAA=m 11CB1=l
11CB2=m 11CB4=l 11CB5=m 11CB7=l 11D31=m 11D37=l 11D3A=m 11D3B=l 11D3C=m 11D3E=l 11D3F=m 11D46=l
11D47=m 11D48=l 11D90=m 11D92=l 11D95=m 11D96=l 11D97=m 11D98=l 11EF3=m 11EF5=l 11F00=m 11F02=l
11F36=m 11F3B=l 11F40=m 11F41=l 11F42=m 11F43=l 11FD5=n 11FF2=l 13440=m 13441=l 13447=m 13456=l
16AF0=m 16AF5=l 16B30=m 16B37=l 16F4F=m 16F50=l 16F8F=m 16F93=l 16FE2=n 16FE3=l 16FE4=m 16FE5=l
1BC9D=m 1BC9F=l 1BCA0=n 1BCA4=l 1CF00=m 1CF2E=l 1CF30=m 1CF47=l 1D167=m 1D16A=l 1D173=n 1D17B=m
1D183=l 1D185=m 1D18C=l 1D1AA=m 1D1AE=l 1D1E9=n 1D1EB=l 1D200=n 1D242=m 1D245=n 1D246=l 1D300=n
1D357=l 1D6DB=n 1D6DC=l 1D715=n 1D716=l 1D74F=n 1D750=l 1D789=n 1D78A=l 1D7C3=n 1D7C4=l 1D7CE=e
1D800=l 1DA00=m 1DA37=l 1DA3B=m 1DA6D=l 1DA75=m 1DA76=l 1DA84=m 1DA85=l 1DA9B=m 1DAA0=l 1DAA1=m
1DAB0=l 1E000=m 1E007=l 1E008=m 1E019=l 1E01B=m 1E022=l 1E023=m 1E025=l 1E026=m 1E02B=l 1E08F=m
1E090=l 1E130=m 1E137=l 1E2AE=m 1E2AF=l 1E2EC=m 1E2F0=l 1E2FF=n 1E300=l 1E4EC=m 1E4F0=l 1E800=r
1E8D0=m 1E8D7=r 1E944=m 1E94B=r 1EEF0=n 1EEF2=r 1F000=n 1F02C=l 1F030=n 1F094=l 1F0A0=n 1F0AF=l
1F0B1=n 1F0C0=l 1F0C1=n 1F0D0=l 1F0D1=n 1F0F6=l 1F100=e 1F10B=n 1F110=l 1F12F=n 1F130=l 1F16A=n
1F170=l 1F1AD=n 1F1AE=l 1F260=n 1F266=l 1F300=n 1F6D8=l 1F6DC=n 1F6ED=l 1F6F0=n 1F6FD=l 1F700=n
1F777=l 1F77B=n 1F7DA=l 1F7E0=n 1F7EC=l 1F7F0=n 1F7F1=l 1F800=n 1F80C=l 1F810=n 1F848=l 1F850=n
1F85A=l 1F860=n 1F888=l 1F890=n 1F8AE=l 1F8B0=n 1F8B2=l 1F900=n 1FA54=l 1FA60=n 1FA6E=l 1FA70=n
1FA7D=l 1FA80=n 1FA89=l 1FA90=n 1FABE=l 1FABF=n 1FAC6=l 1FACE=n 1FADC=l 1FAE0=n 1FAE9=l 1FAF0=n
1FAF9=l 1FB00=n 1FB93=l 1FB94=n 1FBCB=l 1FBF0=e 1FBFA=l 1FFFE=n 20000=l 2FFFE=n 30000=l 3FFFE=n
40000=l 4FFFE=n 50000=l 5FFFE=n 60000=l 6FFFE=n 70000=l 7FFFE=n 80000=l 8FFFE=n 90000=l 9FFFE=n
A0000=l AFFFE=n B0000=l BFFFE=n C0000=l CFFFE=n D0000=l DFFFE=n E0100=m E01F0=n E1000=l EFFFE=n
F0000=l FFFFE=n 100000=l 10FFFE=n 110000=l"

def direction (c : Char) : Direction := (directions.at? c.toNat).getD .separator

/-- How a letter joins its neighbours. -/
inductive Joining where
  /-- It joins on both sides. -/
  | dual
  /-- It joins the letter before it. -/
  | right
  /-- It joins the letter after it. -/
  | left
  /-- It does not count. -/
  | transparent
  /-- It joins nothing, or joins without being a letter. -/
  | none
deriving DecidableEq, Repr

/-- Read a way of joining off its letter. -/
def Joining.ofText : Text → Joining
  | ['d'] => .dual
  | ['r'] => .right
  | ['l'] => .left
  | ['t'] => .transparent
  | _ => .none

/-- The ways of joining of all characters. -/
def joinings : Table Joining := .ofString Joining.ofText "
AD=t AE=u 300=t 370=u 483=t 48A=u 591=t 5BE=u 5BF=t 5C0=u 5C1=t 5C3=u 5C4=t 5C6=u 5C7=t 5C8=u
610=t 61B=u 61C=t 61D=u 620=d 621=u 622=r 626=d 627=r 628=d 629=r 62A=d 62F=r 633=d 640=c 641=d
648=r 649=d 64B=t 660=u 66E=d 670=t 671=r 674=u 675=r 678=d 688=r 69A=d 6C0=r 6C1=d 6C3=r 6CC=d
6CD=r 6CE=d 6CF=r 6D0=d 6D2=r 6D4=u 6D5=r 6D6=t 6DD=u 6DF=t 6E5=u 6E7=t 6E9=u 6EA=t 6EE=r 6F0=u
6FA=d 6FD=u 6FF=d 700=u 70F=t 710=r 711=t 712=d 715=r 71A=d 71E=r 71F=d 728=r 729=d 72A=r 72B=d
72C=r 72D=d 72F=r 730=t 74B=u 74D=r 74E=d 759=r 75C=d 76B=r 76D=d 771=r 772=d 773=r 775=d 778=r
77A=d 780=u 7A6=t 7B1=u 7CA=d 7EB=t 7F4=u 7FA=c 7FB=u 7FD=t 7FE=u 816=t 81A=u 81B=t 824=u 825=t
828=u 829=t 82E=u 840=r 841=d 846=r 848=d 849=r 84A=d 854=r 855=d 856=r 859=t 85C=u 860=d 861=u
862=d 866=u 867=r 868=d 869=r 86B=u 870=r 883=c 886=d 887=u 889=d 88E=r 88F=d 890=u 897=t 8A0=d
8AA=r 8AD=u 8AE=r 8AF=d 8B1=r 8B3=d 8B9=r 8BA=d 8C9=u 8CA=t 8E2=u 8E3=t 903=u 93A=t 93B=u 93C=t
93D=u 941=t 949=u 94D=t 94E=u 951=t 958=u 962=t 964=u 981=t 982=u 9BC=t 9BD=u 9C1=t 9C5=u 9CD=t
9CE=u 9E2=t 9E4=u 9FE=t 9FF=u A01=t A03=u A3C=t A3D=u A41=t A43=u A47=t A49=u A4B=t A4E=u A51=t
A52=u A70=t A72=u A75=t A76=u A81=t A83=u ABC=t ABD=u AC1=t AC6=u AC7=t AC9=u ACD=t ACE=u AE2=t
AE4=u AFA=t B00=u B01=t B02=u B3C=t B3D=u B3F=t B40=u B41=t B45=u B4D=t B4E=u B55=t B57=u B62=t
B64=u B82=t B83=u BC0=t BC1=u BCD=t BCE=u C00=t C01=u C04=t C05=u C3C=t C3D=u C3E=t C41=u C46=t
C49=u C4A=t C4E=u C55=t C57=u C62=t C64=u C81=t C82=u CBC=t CBD=u CBF=t CC0=u CC6=t CC7=u CCC=t
CCE=u CE2=t CE4=u D00=t D02=u D3B=t D3D=u D41=t D45=u D4D=t D4E=u D62=t D64=u D81=t D82=u DCA=t
DCB=u DD2=t DD5=u DD6=t DD7=u E31=t E32=u E34=t E3B=u E47=t E4F=u EB1=t EB2=u EB4=t EBD=u EC8=t
ECF=u F18=t F1A=u F35=t F36=u F37=t F38=u F39=t F3A=u F71=t F7F=u F80=t F85=u F86=t F88=u F8D=t
F98=u F99=t FBD=u FC6=t FC7=u 102D=t 1031=u 1032=t 1038=u 1039=t 103B=u 103D=t 103F=u 1058=t
105A=u 105E=t 1061=u 1071=t 1075=u 1082=t 1083=u 1085=t 1087=u 108D=t 108E=u 109D=t 109E=u
135D=t 1360=u 1712=t 1715=u 1732=t 1734=u 1752=t 1754=u 1772=t 1774=u 17B4=t 17B6=u 17B7=t
17BE=u 17C6=t 17C7=u 17C9=t 17D4=u 17DD=t 17DE=u 1807=d 1808=u 180A=c 180B=t 180E=u 180F=t
1810=u 1820=d 1879=u 1885=t 1887=d 18A9=t 18AA=d 18AB=u 1920=t 1923=u 1927=t 1929=u 1932=t
1933=u 1939=t 193C=u 1A17=t 1A19=u 1A1B=t 1A1C=u 1A56=t 1A57=u 1A58=t 1A5F=u 1A60=t 1A61=u
1A62=t 1A63=u 1A65=t 1A6D=u 1A73=t 1A7D=u 1A7F=t 1A80=u 1AB0=t 1ADE=u 1AE0=t 1AEC=u 1B00=t
1B04=u 1B34=t 1B35=u 1B36=t 1B3B=u 1B3C=t 1B3D=u 1B42=t 1B43=u 1B6B=t 1B74=u 1B80=t 1B82=u
1BA2=t 1BA6=u 1BA8=t 1BAA=u 1BAB=t 1BAE=u 1BE6=t 1BE7=u 1BE8=t 1BEA=u 1BED=t 1BEE=u 1BEF=t
1BF2=u 1C2C=t 1C34=u 1C36=t 1C38=u 1CD0=t 1CD3=u 1CD4=t 1CE1=u 1CE2=t 1CE9=u 1CED=t 1CEE=u
1CF4=t 1CF5=u 1CF8=t 1CFA=u 1DC0=t 1E00=u 200B=t 200C=u 200D=c 200E=t 2010=u 202A=t 202F=u
2060=t 2065=u 206A=t 2070=u 20D0=t 20F1=u 2CEF=t 2CF2=u 2D7F=t 2D80=u 2DE0=t 2E00=u 302A=t
302E=u 3099=t 309B=u A66F=t A673=u A674=t A67E=u A69E=t A6A0=u A6F0=t A6F2=u A802=t A803=u
A806=t A807=u A80B=t A80C=u A825=t A827=u A82C=t A82D=u A840=d A872=l A873=u A8C4=t A8C6=u
A8E0=t A8F2=u A8FF=t A900=u A926=t A92E=u A947=t A952=u A980=t A983=u A9B3=t A9B4=u A9B6=t
A9BA=u A9BC=t A9BE=u A9E5=t A9E6=u AA29=t AA2F=u AA31=t AA33=u AA35=t AA37=u AA43=t AA44=u
AA4C=t AA4D=u AA7C=t AA7D=u AAB0=t AAB1=u AAB2=t AAB5=u AAB7=t AAB9=u AABE=t AAC0=u AAC1=t
AAC2=u AAEC=t AAEE=u AAF6=t AAF7=u ABE5=t ABE6=u ABE8=t ABE9=u ABED=t ABEE=u FB1E=t FB1F=u
FE00=t FE10=u FE20=t FE30=u FEFF=t FF00=u FFF9=t FFFC=u 101FD=t 101FE=u 102E0=t 102E1=u 10376=t
1037B=u 10A01=t 10A04=u 10A05=t 10A07=u 10A0C=t 10A10=u 10A38=t 10A3B=u 10A3F=t 10A40=u 10AC0=d
10AC5=r 10AC6=u 10AC7=r 10AC8=u 10AC9=r 10ACB=u 10ACD=l 10ACE=r 10AD3=d 10AD7=l 10AD8=d 10ADD=r
10ADE=d 10AE1=r 10AE2=u 10AE4=r 10AE5=t 10AE7=u 10AEB=d 10AEF=r 10AF0=u 10B80=d 10B81=r 10B82=d
10B83=r 10B86=d 10B89=r 10B8A=d 10B8C=r 10B8D=d 10B8E=r 10B90=d 10B91=r 10B92=u 10BA9=r 10BAD=d
10BAF=u 10D00=l 10D01=d 10D22=r 10D23=d 10D24=t 10D28=u 10D69=t 10D6E=u 10EAB=t 10EAD=u 10EC2=r
10EC3=d 10EC5=u 10EC6=d 10EC8=u 10EFA=t 10F00=u 10F30=d 10F33=r 10F34=d 10F45=u 10F46=t 10F51=d
10F54=r 10F55=u 10F70=d 10F74=r 10F76=d 10F82=t 10F86=u 10FB0=d 10FB1=u 10FB2=d 10FB4=r 10FB7=u
10FB8=d 10FB9=r 10FBB=d 10FBD=r 10FBE=d 10FC0=u 10FC1=d 10FC2=r 10FC4=d 10FC5=u 10FC9=r 10FCA=d
10FCB=l 10FCC=u 11001=t 11002=u 11038=t 11047=u 11070=t 11071=u 11073=t 11075=u 1107F=t 11082=u
110B3=t 110B7=u 110B9=t 110BB=u 110C2=t 110C3=u 11100=t 11103=u 11127=t 1112C=u 1112D=t 11135=u
11173=t 11174=u 11180=t 11182=u 111B6=t 111BF=u 111C9=t 111CD=u 111CF=t 111D0=u 1122F=t 11232=u
11234=t 11235=u 11236=t 11238=u 1123E=t 1123F=u 11241=t 11242=u 112DF=t 112E0=u 112E3=t 112EB=u
11300=t 11302=u 1133B=t 1133D=u 11340=t 11341=u 11366=t 1136D=u 11370=t 11375=u 113BB=t 113C1=u
113CE=t 113CF=u 113D0=t 113D1=u 113D2=t 113D3=u 113E1=t 113E3=u 11438=t 11440=u 11442=t 11445=u
11446=t 11447=u 1145E=t 1145F=u 114B3=t 114B9=u 114BA=t 114BB=u 114BF=t 114C1=u 114C2=t 114C4=u
115B2=t 115B6=u 115BC=t 115BE=u 115BF=t 115C1=u 115DC=t 115DE=u 11633=t 1163B=u 1163D=t 1163E=u
1163F=t 11641=u 116AB=t 116AC=u 116AD=t 116AE=u 116B0=t 116B6=u 116B7=t 116B8=u 1171D=t 1171E=u
1171F=t 11720=u 11722=t 11726=u 11727=t 1172C=u 1182F=t 11838=u 11839=t 1183B=u 1193B=t 1193D=u
1193E=t 1193F=u 11943=t 11944=u 119D4=t 119D8=u 119DA=t 119DC=u 119E0=t 119E1=u 11A01=t 11A0B=u
11A33=t 11A39=u 11A3B=t 11A3F=u 11A47=t 11A48=u 11A51=t 11A57=u 11A59=t 11A5C=u 11A8A=t 11A97=u
11A98=t 11A9A=u 11B60=t 11B61=u 11B62=t 11B65=u 11B66=t 11B67=u 11C30=t 11C37=u 11C38=t 11C3E=u
11C3F=t 11C40=u 11C92=t 11CA8=u 11CAA=t 11CB1=u 11CB2=t 11CB4=u 11CB5=t 11CB7=u 11D31=t 11D37=u
11D3A=t 11D3B=u 11D3C=t 11D3E=u 11D3F=t 11D46=u 11D47=t 11D48=u 11D90=t 11D92=u 11D95=t 11D96=u
11D97=t 11D98=u 11EF3=t 11EF5=u 11F00=t 11F02=u 11F36=t 11F3B=u 11F40=t 11F41=u 11F42=t 11F43=u
11F5A=t 11F5B=u 13430=t 13441=u 13447=t 13456=u 1611E=t 1612A=u 1612D=t 16130=u 16AF0=t 16AF5=u
16B30=t 16B37=u 16F4F=t 16F50=u 16F8F=t 16F93=u 16FE4=t 16FE5=u 1BC9D=t 1BC9F=u 1BCA0=t 1BCA4=u
1CF00=t 1CF2E=u 1CF30=t 1CF47=u 1D167=t 1D16A=u 1D173=t 1D183=u 1D185=t 1D18C=u 1D1AA=t 1D1AE=u
1D242=t 1D245=u 1DA00=t 1DA37=u 1DA3B=t 1DA6D=u 1DA75=t 1DA76=u 1DA84=t 1DA85=u 1DA9B=t 1DAA0=u
1DAA1=t 1DAB0=u 1E000=t 1E007=u 1E008=t 1E019=u 1E01B=t 1E022=u 1E023=t 1E025=u 1E026=t 1E02B=u
1E08F=t 1E090=u 1E130=t 1E137=u 1E2AE=t 1E2AF=u 1E2EC=t 1E2F0=u 1E4EC=t 1E4F0=u 1E5EE=t 1E5F0=u
1E6E3=t 1E6E4=u 1E6E6=t 1E6E7=u 1E6EE=t 1E6F0=u 1E6F5=t 1E6F6=u 1E8D0=t 1E8D7=u 1E900=d 1E944=t
1E94C=u E0001=t E0002=u E0020=t E0080=u E0100=t E01F0=u"

def joining (c : Char) : Joining := (joinings.at? c.toNat).getD .none

def marks : Table Bool := rangesOf "
300-36F 483-489 591-5BD 5BF 5C1-5C2 5C4-5C5 5C7 610-61A 64B-65F 670 6D6-6DC 6DF-6E4 6E7-6E8
6EA-6ED 711 730-74A 7A6-7B0 7EB-7F3 7FD 816-819 81B-823 825-827 829-82D 859-85B 897-89F 8CA-8E1
8E3-903 93A-93C 93E-94F 951-957 962-963 981-983 9BC 9BE-9C4 9C7-9C8 9CB-9CD 9D7 9E2-9E3 9FE
A01-A03 A3C A3E-A42 A47-A48 A4B-A4D A51 A70-A71 A75 A81-A83 ABC ABE-AC5 AC7-AC9 ACB-ACD AE2-AE3
AFA-AFF B01-B03 B3C B3E-B44 B47-B48 B4B-B4D B55-B57 B62-B63 B82 BBE-BC2 BC6-BC8 BCA-BCD BD7
C00-C04 C3C C3E-C44 C46-C48 C4A-C4D C55-C56 C62-C63 C81-C83 CBC CBE-CC4 CC6-CC8 CCA-CCD CD5-CD6
CE2-CE3 CF3 D00-D03 D3B-D3C D3E-D44 D46-D48 D4A-D4D D57 D62-D63 D81-D83 DCA DCF-DD4 DD6 DD8-DDF
DF2-DF3 E31 E34-E3A E47-E4E EB1 EB4-EBC EC8-ECE F18-F19 F35 F37 F39 F3E-F3F F71-F84 F86-F87
F8D-F97 F99-FBC FC6 102B-103E 1056-1059 105E-1060 1062-1064 1067-106D 1071-1074 1082-108D 108F
109A-109D 135D-135F 1712-1715 1732-1734 1752-1753 1772-1773 17B4-17D3 17DD 180B-180D 180F
1885-1886 18A9 1920-192B 1930-193B 1A17-1A1B 1A55-1A5E 1A60-1A7C 1A7F 1AB0-1ADD 1AE0-1AEB
1B00-1B04 1B34-1B44 1B6B-1B73 1B80-1B82 1BA1-1BAD 1BE6-1BF3 1C24-1C37 1CD0-1CD2 1CD4-1CE8 1CED
1CF4 1CF7-1CF9 1DC0-1DFF 20D0-20F0 2CEF-2CF1 2D7F 2DE0-2DFF 302A-302F 3099-309A A66F-A672
A674-A67D A69E-A69F A6F0-A6F1 A802 A806 A80B A823-A827 A82C A880-A881 A8B4-A8C5 A8E0-A8F1 A8FF
A926-A92D A947-A953 A980-A983 A9B3-A9C0 A9E5 AA29-AA36 AA43 AA4C-AA4D AA7B-AA7D AAB0 AAB2-AAB4
AAB7-AAB8 AABE-AABF AAC1 AAEB-AAEF AAF5-AAF6 ABE3-ABEA ABEC-ABED FB1E FE00-FE0F FE20-FE2F 101FD
102E0 10376-1037A 10A01-10A03 10A05-10A06 10A0C-10A0F 10A38-10A3A 10A3F 10AE5-10AE6 10D24-10D27
10D69-10D6D 10EAB-10EAC 10EFA-10EFF 10F46-10F50 10F82-10F85 11000-11002 11038-11046 11070
11073-11074 1107F-11082 110B0-110BA 110C2 11100-11102 11127-11134 11145-11146 11173 11180-11182
111B3-111C0 111C9-111CC 111CE-111CF 1122C-11237 1123E 11241 112DF-112EA 11300-11303 1133B-1133C
1133E-11344 11347-11348 1134B-1134D 11357 11362-11363 11366-1136C 11370-11374 113B8-113C0 113C2
113C5 113C7-113CA 113CC-113D0 113D2 113E1-113E2 11435-11446 1145E 114B0-114C3 115AF-115B5
115B8-115C0 115DC-115DD 11630-11640 116AB-116B7 1171D-1172B 1182C-1183A 11930-11935 11937-11938
1193B-1193E 11940 11942-11943 119D1-119D7 119DA-119E0 119E4 11A01-11A0A 11A33-11A39 11A3B-11A3E
11A47 11A51-11A5B 11A8A-11A99 11B60-11B67 11C2F-11C36 11C38-11C3F 11C92-11CA7 11CA9-11CB6
11D31-11D36 11D3A 11D3C-11D3D 11D3F-11D45 11D47 11D8A-11D8E 11D90-11D91 11D93-11D97 11EF3-11EF6
11F00-11F01 11F03 11F34-11F3A 11F3E-11F42 11F5A 13440 13447-13455 1611E-1612F 16AF0-16AF4
16B30-16B36 16F4F 16F51-16F87 16F8F-16F92 16FE4 16FF0-16FF1 1BC9D-1BC9E 1CF00-1CF2D 1CF30-1CF46
1D165-1D169 1D16D-1D172 1D17B-1D182 1D185-1D18B 1D1AA-1D1AD 1D242-1D244 1DA00-1DA36 1DA3B-1DA6C
1DA75 1DA84 1DA9B-1DA9F 1DAA1-1DAAF 1E000-1E006 1E008-1E018 1E01B-1E021 1E023-1E024 1E026-1E02A
1E08F 1E130-1E136 1E2AE 1E2EC-1E2EF 1E4EC-1E4EF 1E5EE-1E5EF 1E6E3 1E6E6 1E6EE-1E6EF 1E6F5
1E8D0-1E8D6 1E944-1E94A E0100-E01EF"

def isMark (c : Char) : Bool := marks.has c

end Gateway.Unicode
