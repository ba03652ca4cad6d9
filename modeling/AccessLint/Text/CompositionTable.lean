import AccessLint.Text.Basic

namespace AccessLint.Text

/-!
# Characters composed of two

* `Composite` — a character and the two that it is composed of;
* `composites` — all of them, apart from Korean syllables.
-/

/-- A character that stands for two characters, one after the other. -/
structure Composite where
  first : Nat
  second : Nat
  whole : Nat

/-- The characters that are composed with a second one: the first one and the whole. -/
def compositesOf (second : Nat) (rows : Text) : List Composite :=
  (List.splitOnP (· == ',') rows).map fun pair =>
    let (first, whole) := cut (· == '+') pair
    ⟨natOfHex first, second, natOfHex (whole.getD [])⟩

/-- The characters that are composed of two. -/
def composites : List Composite :=
  (tableWords compositeRows).flatMap fun row =>
    let (second, rows) := cut (· == ':') row
    compositesOf (natOfHex second) (rows.getD [])
where
  compositeRows : String :=
    "300:41+C0,45+C8,49+CC,4F+D2,55+D9,61+E0,65+E8,69+EC,6F+F2,75+F9,DC+1DB,FC+1DC,4E+1F8
    300:6E+1F9,415+400,418+40D,435+450,438+45D,112+1E14,113+1E15,14C+1E50,14D+1E51,57+1E80
    300:77+1E81,C2+1EA6,E2+1EA7,102+1EB0,103+1EB1,CA+1EC0,EA+1EC1,D4+1ED2,F4+1ED3,1A0+1EDC
    300:1A1+1EDD,1AF+1EEA,1B0+1EEB,59+1EF2,79+1EF3,1F00+1F02,1F01+1F03,1F08+1F0A,1F09+1F0B
    300:1F10+1F12,1F11+1F13,1F18+1F1A,1F19+1F1B,1F20+1F22,1F21+1F23,1F28+1F2A,1F29+1F2B
    300:1F30+1F32,1F31+1F33,1F38+1F3A,1F39+1F3B,1F40+1F42,1F41+1F43,1F48+1F4A,1F49+1F4B
    300:1F50+1F52,1F51+1F53,1F59+1F5B,1F60+1F62,1F61+1F63,1F68+1F6A,1F69+1F6B,3B1+1F70
    300:3B5+1F72,3B7+1F74,3B9+1F76,3BF+1F78,3C5+1F7A,3C9+1F7C,391+1FBA,395+1FC8,397+1FCA
    300:1FBF+1FCD,3CA+1FD2,399+1FDA,1FFE+1FDD,3CB+1FE2,3A5+1FEA,A8+1FED,39F+1FF8,3A9+1FFA
    301:41+C1,45+C9,49+CD,4F+D3,55+DA,59+DD,61+E1,65+E9,69+ED,6F+F3,75+FA,79+FD,43+106,63+107
    301:4C+139,6C+13A,4E+143,6E+144,52+154,72+155,53+15A,73+15B,5A+179,7A+17A,DC+1D7,FC+1D8
    301:47+1F4,67+1F5,C5+1FA,E5+1FB,C6+1FC,E6+1FD,D8+1FE,F8+1FF,A8+385,391+386,395+388,397+389
    301:399+38A,39F+38C,3A5+38E,3A9+38F,3CA+390,3B1+3AC,3B5+3AD,3B7+3AE,3B9+3AF,3CB+3B0
    301:3BF+3CC,3C5+3CD,3C9+3CE,3D2+3D3,413+403,41A+40C,433+453,43A+45C,C7+1E08,E7+1E09
    301:112+1E16,113+1E17,CF+1E2E,EF+1E2F,4B+1E30,6B+1E31,4D+1E3E,6D+1E3F,D5+1E4C,F5+1E4D
    301:14C+1E52,14D+1E53,50+1E54,70+1E55,168+1E78,169+1E79,57+1E82,77+1E83,C2+1EA4,E2+1EA5
    301:102+1EAE,103+1EAF,CA+1EBE,EA+1EBF,D4+1ED0,F4+1ED1,1A0+1EDA,1A1+1EDB,1AF+1EE8,1B0+1EE9
    301:1F00+1F04,1F01+1F05,1F08+1F0C,1F09+1F0D,1F10+1F14,1F11+1F15,1F18+1F1C,1F19+1F1D
    301:1F20+1F24,1F21+1F25,1F28+1F2C,1F29+1F2D,1F30+1F34,1F31+1F35,1F38+1F3C,1F39+1F3D
    301:1F40+1F44,1F41+1F45,1F48+1F4C,1F49+1F4D,1F50+1F54,1F51+1F55,1F59+1F5D,1F60+1F64
    301:1F61+1F65,1F68+1F6C,1F69+1F6D,1FBF+1FCE,1FFE+1FDE
    302:41+C2,45+CA,49+CE,4F+D4,55+DB,61+E2,65+EA,69+EE,6F+F4,75+FB,43+108,63+109,47+11C
    302:67+11D,48+124,68+125,4A+134,6A+135,53+15C,73+15D,57+174,77+175,59+176,79+177,5A+1E90
    302:7A+1E91,1EA0+1EAC,1EA1+1EAD,1EB8+1EC6,1EB9+1EC7,1ECC+1ED8,1ECD+1ED9
    303:41+C3,4E+D1,4F+D5,61+E3,6E+F1,6F+F5,49+128,69+129,55+168,75+169,56+1E7C,76+1E7D
    303:C2+1EAA,E2+1EAB,102+1EB4,103+1EB5,45+1EBC,65+1EBD,CA+1EC4,EA+1EC5,D4+1ED6,F4+1ED7
    303:1A0+1EE0,1A1+1EE1,1AF+1EEE,1B0+1EEF,59+1EF8,79+1EF9
    304:41+100,61+101,45+112,65+113,49+12A,69+12B,4F+14C,6F+14D,55+16A,75+16B,DC+1D5,FC+1D6
    304:C4+1DE,E4+1DF,226+1E0,227+1E1,C6+1E2,E6+1E3,1EA+1EC,1EB+1ED,D6+22A,F6+22B,D5+22C
    304:F5+22D,22E+230,22F+231,59+232,79+233,418+4E2,438+4E3,423+4EE,443+4EF,47+1E20,67+1E21
    304:1E36+1E38,1E37+1E39,1E5A+1E5C,1E5B+1E5D,3B1+1FB1,391+1FB9,3B9+1FD1,399+1FD9,3C5+1FE1
    304:3A5+1FE9
    306:41+102,61+103,45+114,65+115,47+11E,67+11F,49+12C,69+12D,4F+14E,6F+14F,55+16C,75+16D
    306:423+40E,418+419,438+439,443+45E,416+4C1,436+4C2,410+4D0,430+4D1,415+4D6,435+4D7
    306:228+1E1C,229+1E1D,1EA0+1EB6,1EA1+1EB7,3B1+1FB0,391+1FB8,3B9+1FD0,399+1FD8,3C5+1FE0
    306:3A5+1FE8
    307:43+10A,63+10B,45+116,65+117,47+120,67+121,49+130,5A+17B,7A+17C,41+226,61+227,4F+22E
    307:6F+22F,42+1E02,62+1E03,44+1E0A,64+1E0B,46+1E1E,66+1E1F,48+1E22,68+1E23,4D+1E40,6D+1E41
    307:4E+1E44,6E+1E45,50+1E56,70+1E57,52+1E58,72+1E59,53+1E60,73+1E61,15A+1E64,15B+1E65
    307:160+1E66,161+1E67,1E62+1E68,1E63+1E69,54+1E6A,74+1E6B,57+1E86,77+1E87,58+1E8A,78+1E8B
    307:59+1E8E,79+1E8F,17F+1E9B,105D2+105C9,105DA+105E4
    308:41+C4,45+CB,49+CF,4F+D6,55+DC,61+E4,65+EB,69+EF,6F+F6,75+FC,79+FF,59+178,399+3AA
    308:3A5+3AB,3B9+3CA,3C5+3CB,3D2+3D4,415+401,406+407,435+451,456+457,410+4D2,430+4D3
    308:4D8+4DA,4D9+4DB,416+4DC,436+4DD,417+4DE,437+4DF,418+4E4,438+4E5,41E+4E6,43E+4E7
    308:4E8+4EA,4E9+4EB,42D+4EC,44D+4ED,423+4F0,443+4F1,427+4F4,447+4F5,42B+4F8,44B+4F9
    308:48+1E26,68+1E27,D5+1E4E,F5+1E4F,16A+1E7A,16B+1E7B,57+1E84,77+1E85,58+1E8C,78+1E8D
    308:74+1E97
    309:41+1EA2,61+1EA3,C2+1EA8,E2+1EA9,102+1EB2,103+1EB3,45+1EBA,65+1EBB,CA+1EC2,EA+1EC3
    309:49+1EC8,69+1EC9,4F+1ECE,6F+1ECF,D4+1ED4,F4+1ED5,1A0+1EDE,1A1+1EDF,55+1EE6,75+1EE7
    309:1AF+1EEC,1B0+1EED,59+1EF6,79+1EF7 30A:41+C5,61+E5,55+16E,75+16F,77+1E98,79+1E99
    30B:4F+150,6F+151,55+170,75+171,423+4F2,443+4F3
    30C:43+10C,63+10D,44+10E,64+10F,45+11A,65+11B,4C+13D,6C+13E,4E+147,6E+148,52+158,72+159
    30C:53+160,73+161,54+164,74+165,5A+17D,7A+17E,41+1CD,61+1CE,49+1CF,69+1D0,4F+1D1,6F+1D2
    30C:55+1D3,75+1D4,DC+1D9,FC+1DA,47+1E6,67+1E7,4B+1E8,6B+1E9,1B7+1EE,292+1EF,6A+1F0,48+21E
    30C:68+21F
    30F:41+200,61+201,45+204,65+205,49+208,69+209,4F+20C,6F+20D,52+210,72+211,55+214,75+215
    30F:474+476,475+477
    311:41+202,61+203,45+206,65+207,49+20A,69+20B,4F+20E,6F+20F,52+212,72+213,55+216,75+217
    313:3B1+1F00,391+1F08,3B5+1F10,395+1F18,3B7+1F20,397+1F28,3B9+1F30,399+1F38,3BF+1F40
    313:39F+1F48,3C5+1F50,3C9+1F60,3A9+1F68,3C1+1FE4
    314:3B1+1F01,391+1F09,3B5+1F11,395+1F19,3B7+1F21,397+1F29,3B9+1F31,399+1F39,3BF+1F41
    314:39F+1F49,3C5+1F51,3A5+1F59,3C9+1F61,3A9+1F69,3C1+1FE5,3A1+1FEC
    31B:4F+1A0,6F+1A1,55+1AF,75+1B0
    323:42+1E04,62+1E05,44+1E0C,64+1E0D,48+1E24,68+1E25,4B+1E32,6B+1E33,4C+1E36,6C+1E37
    323:4D+1E42,6D+1E43,4E+1E46,6E+1E47,52+1E5A,72+1E5B,53+1E62,73+1E63,54+1E6C,74+1E6D
    323:56+1E7E,76+1E7F,57+1E88,77+1E89,5A+1E92,7A+1E93,41+1EA0,61+1EA1,45+1EB8,65+1EB9
    323:49+1ECA,69+1ECB,4F+1ECC,6F+1ECD,1A0+1EE2,1A1+1EE3,55+1EE4,75+1EE5,1AF+1EF0,1B0+1EF1
    323:59+1EF4,79+1EF5 324:55+1E72,75+1E73 325:41+1E00,61+1E01 326:53+218,73+219,54+21A,74+21B
    327:43+C7,63+E7,47+122,67+123,4B+136,6B+137,4C+13B,6C+13C,4E+145,6E+146,52+156,72+157
    327:53+15E,73+15F,54+162,74+163,45+228,65+229,44+1E10,64+1E11,48+1E28,68+1E29
    328:41+104,61+105,45+118,65+119,49+12E,69+12F,55+172,75+173,4F+1EA,6F+1EB
    32D:44+1E12,64+1E13,45+1E18,65+1E19,4C+1E3C,6C+1E3D,4E+1E4A,6E+1E4B,54+1E70,74+1E71
    32D:55+1E76,75+1E77 32E:48+1E2A,68+1E2B 330:45+1E1A,65+1E1B,49+1E2C,69+1E2D,55+1E74,75+1E75
    331:42+1E06,62+1E07,44+1E0E,64+1E0F,4B+1E34,6B+1E35,4C+1E3A,6C+1E3B,4E+1E48,6E+1E49
    331:52+1E5E,72+1E5F,54+1E6E,74+1E6F,5A+1E94,7A+1E95,68+1E96
    338:2190+219A,2192+219B,2194+21AE,21D0+21CD,21D4+21CE,21D2+21CF,2203+2204,2208+2209
    338:220B+220C,2223+2224,2225+2226,223C+2241,2243+2244,2245+2247,2248+2249,3D+2260
    338:2261+2262,224D+226D,3C+226E,3E+226F,2264+2270,2265+2271,2272+2274,2273+2275,2276+2278
    338:2277+2279,227A+2280,227B+2281,2282+2284,2283+2285,2286+2288,2287+2289,22A2+22AC
    338:22A8+22AD,22A9+22AE,22AB+22AF,227C+22E0,227D+22E1,2291+22E2,2292+22E3,22B2+22EA
    338:22B3+22EB,22B4+22EC,22B5+22ED
    342:1F00+1F06,1F01+1F07,1F08+1F0E,1F09+1F0F,1F20+1F26,1F21+1F27,1F28+1F2E,1F29+1F2F
    342:1F30+1F36,1F31+1F37,1F38+1F3E,1F39+1F3F,1F50+1F56,1F51+1F57,1F59+1F5F,1F60+1F66
    342:1F61+1F67,1F68+1F6E,1F69+1F6F,3B1+1FB6,A8+1FC1,3B7+1FC6,1FBF+1FCF,3B9+1FD6,3CA+1FD7
    342:1FFE+1FDF,3C5+1FE6,3CB+1FE7,3C9+1FF6
    345:1F00+1F80,1F01+1F81,1F02+1F82,1F03+1F83,1F04+1F84,1F05+1F85,1F06+1F86,1F07+1F87
    345:1F08+1F88,1F09+1F89,1F0A+1F8A,1F0B+1F8B,1F0C+1F8C,1F0D+1F8D,1F0E+1F8E,1F0F+1F8F
    345:1F20+1F90,1F21+1F91,1F22+1F92,1F23+1F93,1F24+1F94,1F25+1F95,1F26+1F96,1F27+1F97
    345:1F28+1F98,1F29+1F99,1F2A+1F9A,1F2B+1F9B,1F2C+1F9C,1F2D+1F9D,1F2E+1F9E,1F2F+1F9F
    345:1F60+1FA0,1F61+1FA1,1F62+1FA2,1F63+1FA3,1F64+1FA4,1F65+1FA5,1F66+1FA6,1F67+1FA7
    345:1F68+1FA8,1F69+1FA9,1F6A+1FAA,1F6B+1FAB,1F6C+1FAC,1F6D+1FAD,1F6E+1FAE,1F6F+1FAF
    345:1F70+1FB2,3B1+1FB3,3AC+1FB4,1FB6+1FB7,391+1FBC,1F74+1FC2,3B7+1FC3,3AE+1FC4,1FC6+1FC7
    345:397+1FCC,1F7C+1FF2,3C9+1FF3,3CE+1FF4,1FF6+1FF7,3A9+1FFC 653:627+622
    654:627+623,648+624,64A+626,6D5+6C0,6C1+6C2,6D2+6D3 655:627+625 93C:928+929,930+931,933+934
    9BE:9C7+9CB 9D7:9C7+9CC B3E:B47+B4B B56:B47+B48 B57:B47+B4C BBE:BC6+BCA,BC7+BCB
    BD7:B92+B94,BC6+BCC C56:C46+C48 CC2:CC6+CCA CD5:CBF+CC0,CC6+CC7,CCA+CCB CD6:CC6+CC8
    D3E:D46+D4A,D47+D4B D57:D46+D4C DCA:DD9+DDA,DDC+DDD DCF:DD9+DDC DDF:DD9+DDE 102E:1025+1026
    1B35:1B05+1B06,1B07+1B08,1B09+1B0A,1B0B+1B0C,1B0D+1B0E,1B11+1B12,1B3A+1B3B,1B3C+1B3D
    1B35:1B3E+1B40,1B3F+1B41,1B42+1B43
    3099:304B+304C,304D+304E,304F+3050,3051+3052,3053+3054,3055+3056,3057+3058,3059+305A
    3099:305B+305C,305D+305E,305F+3060,3061+3062,3064+3065,3066+3067,3068+3069,306F+3070
    3099:3072+3073,3075+3076,3078+3079,307B+307C,3046+3094,309D+309E,30AB+30AC,30AD+30AE
    3099:30AF+30B0,30B1+30B2,30B3+30B4,30B5+30B6,30B7+30B8,30B9+30BA,30BB+30BC,30BD+30BE
    3099:30BF+30C0,30C1+30C2,30C4+30C5,30C6+30C7,30C8+30C9,30CF+30D0,30D2+30D3,30D5+30D6
    3099:30D8+30D9,30DB+30DC,30A6+30F4,30EF+30F7,30F0+30F8,30F1+30F9,30F2+30FA,30FD+30FE
    309A:306F+3071,3072+3074,3075+3077,3078+307A,307B+307D,30CF+30D1,30D2+30D4,30D5+30D7
    309A:30D8+30DA,30DB+30DD 110BA:11099+1109A,1109B+1109C,110A5+110AB
    11127:11131+1112E,11132+1112F 1133E:11347+1134B 11357:11347+1134C 113B8:113C2+113C7
    113BB:11384+11385 113C2:1138B+1138E,113C2+113C5 113C9:11382+11383,11390+11391,113C2+113C8
    114B0:114B9+114BC 114BA:114B9+114BB 114BD:114B9+114BE 115AF:115B8+115BA,115B9+115BB
    11930:11935+11938 1611E:1611E+16121 1611F:1611E+16123,16129+16124,16121+16126,16122+16127
    16120:1611E+16125,16121+16128 16129:1611E+16122 16D67:16D67+16D68,16D63+16D69,16D69+16D6A"

end AccessLint.Text
