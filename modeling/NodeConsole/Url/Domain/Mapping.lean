import NodeConsole.Text.Table

/-! What becomes of characters in a domain, after version 17 of Unicode. -/
namespace NodeConsole.Url.Domain
open Text (Run Table)

inductive Mapping
  | forbidden
  | dropped
  | replaced (s : List Char)
  /-- The code point becomes greater or less by a number. -/
  | raised (k : Nat)
  | lowered (k : Nat)
  /-- Capital and small letters alternate, and a capital becomes the small one after it. -/
  | alternating
  deriving DecidableEq, Repr

namespace Mapping

/-- The words of the table: `x` forbids, `i` drops, `~` starts with a capital, a sign has a
difference, other text replaces. -/
def ofWord? : List Char → Option Mapping
  | ['x'] => some .forbidden
  | ['i'] => some .dropped
  | ['~'] => some .alternating
  | '+' :: w => (Text.Table.number? w).map .raised
  | '-' :: w => (Text.Table.number? w).map .lowered
  | w => (Text.Table.characters? w).map .replaced

def table : Table Mapping := Text.Table.read ofWord? "
41-5A +20; 80-9F x; A0 20
A8 20_308 . 61 . . i . 20_304 . . 32 33 20_301 3BC . . 20_327 31 6F . 31_2044_34 31_2044_32
BE 33_2044_34; C0-D6 +20; D8-DE +20; 100-12E ~; 130 69_307 . 69_6A 69_6A 135 . 137; 139-13D ~
13F 6C_B7 6C_B7; 141-147 ~; 149 2BC_6E; 14A-176 ~; 178 FF; 179-17D ~
17F 73 . 253 183 . 185 . 254 188 . 256 257 18C . . 1DD 259 25B 192 . 260 263 . 269 268 199
19C 26F 272 . 275; 1A0-1A4 ~; 1A6 280 1A8 . 283 . . 1AD . 288 1B0 . 28A 28B 1B4 . 1B6 . 292 1B9
1BC 1BD; 1C4-1C6 64_17E; 1C7-1C9 6C_6A; 1CA-1CC 6E_6A; 1CD-1DB ~; 1DE-1EE ~; 1F1-1F3 64_7A
1F4 1F5 . 195 1BF; 1F8-21E ~; 220 19E; 222-232 ~; 23A 2C65 23C . 19A 2C66 . . 242 . 180 289 28C
246-24E ~; 2B0 68 266 6A 72 279 27B 281 77 79
2D8 20_306 20_307 20_30A 20_328 20_303 20_30B . . 263 6C 73 78 295; 345 3B9; 34F i; 370-372 ~
376 377; 378-379 x; 37A 20_3B9; 37F 3F3; 380-383 x; 384 20_301 20_308_301 3AC; 388-38A +25
38B x 3CC x 3CD 3CE; 391-3A1 +20; 3A2 x; 3A3-3AB +20; 3CF 3D7 3B2 3B8 3C5 3CD 3CB 3C6 3C0
3D8-3EE ~; 3F0 3BA 3C1 3C3 . 3B8 3B5 . 3F8 . 3C3 3FB; 3FD-3FF -82; 400-40F +50; 410-42F +20
460-480 ~; 48A-4BE ~; 4C0 4CF; 4C1-4CD ~; 4D0-52E ~; 530 x; 531-556 +30; 557-558 x; 587 565_582
58B-58C x; 590 x; 5C8-5CF x; 5EB-5EE x; 5F5-605 x; 61C x; 675 627_674 648_674 6C7_674 64A_674
6DD x; 70E-70F x; 74B-74C x; 7B2-7BF x; 7FB-7FC x; 82E-82F x; 83F x; 85C-85D x; 85F x; 86B-86F x
890-896 x; 8E2 x; 984 x; 98D-98E x; 991-992 x; 9A9 x; 9B1 x; 9B3-9B5 x; 9BA-9BB x; 9C5-9C6 x
9C9-9CA x; 9CF-9D6 x; 9D8-9DB x; 9DE x; 9E4-9E5 x; 9FF-A00 x; A04 x; A0B-A0E x; A11-A12 x; A29 x
A31 x . . x . . x; A3A-A3B x; A3D x; A43-A46 x; A49-A4A x; A4E-A50 x; A52-A58 x; A5D x; A5F-A65 x
A77-A80 x; A84 x; A8E x; A92 x; AA9 x; AB1 x . . x; ABA-ABB x; AC6 x; ACA x; ACE-ACF x; AD1-ADF x
AE4-AE5 x; AF2-AF8 x; B00 x; B04 x; B0D-B0E x; B11-B12 x; B29 x; B31 x . . x; B3A-B3B x
B45-B46 x; B49-B4A x; B4E-B54 x; B58-B5B x; B5E x; B64-B65 x; B78-B81 x; B84 x; B8B-B8D x; B91 x
B96-B98 x; B9B x . x; BA0-BA2 x; BA5-BA7 x; BAB-BAD x; BBA-BBD x; BC3-BC5 x; BC9 x; BCE-BCF x
BD1-BD6 x; BD8-BE5 x; BFB-BFF x; C0D x; C11 x; C29 x; C3A-C3B x; C45 x; C49 x; C4E-C54 x; C57 x
C5B x; C5E-C5F x; C64-C65 x; C70-C76 x; C8D x; C91 x; CA9 x; CB4 x; CBA-CBB x; CC5 x; CC9 x
CCE-CD4 x; CD7-CDB x; CDF x; CE4-CE5 x; CF0 x; CF4-CFF x; D0D x; D11 x; D45 x; D49 x; D50-D53 x
D64-D65 x; D80 x; D84 x; D97-D99 x; DB2 x; DBC x; DBE-DBF x; DC7-DC9 x; DCB-DCE x; DD5 x . x
DE0-DE5 x; DF0-DF1 x; DF5-E00 x; E33 E4D_E32; E3B-E3E x; E5C-E80 x; E83 x . x; E8B x; EA4 x . x
EB3 ECD_EB2; EBE-EBF x; EC5 x . x; ECF x; EDA-EDB x; EDC EAB_E99 EAB_EA1; EE0-EFF x; F0C F0B
F48 x; F6D-F70 x; F77 FB2_F71_F80 . FB3_F71_F80; F98 x; FBD x; FCD x; FDB-FFF x; 10A0-10C5 +1C60
10C6 x 2D27; 10C8-10CC x; 10CD 2D2D; 10CE-10CF x; 10FC 10DC; 115F-1160 i; 1249 x; 124E-124F x
1257 x . x; 125E-125F x; 1289 x; 128E-128F x; 12B1 x; 12B6-12B7 x; 12BF x . x; 12C6-12C7 x
12D7 x; 1311 x; 1316-1317 x; 135B-135C x; 137D-137F x; 139A-139F x; 13F6-13F7 x; 13F8-13FD -8
13FE-13FF x; 1680 x; 169D-169F x; 16F9-16FF x; 1716-171E x; 1737-173F x; 1754-175F x; 176D x
1771 x; 1774-177F x; 17B4-17B5 i; 17DE-17DF x; 17EA-17EF x; 17FA-17FF x; 180B-180F i; 181A-181F x
1879-187F x; 18AB-18AF x; 18F6-18FF x; 191F x; 192C-192F x; 193C-193F x; 1941-1943 x; 196E-196F x
1975-197F x; 19AC-19AF x; 19CA-19CF x; 19DB-19DD x; 1A1C-1A1D x; 1A5F x; 1A7D-1A7E x; 1A8A-1A8F x
1A9A-1A9F x; 1AAE-1AAF x; 1ADE-1ADF x; 1AEC-1AFF x; 1B4D x; 1BF4-1BFB x; 1C38-1C3A x; 1C4A-1C4C x
1C80 432 434 43E 441 442 442 44A 463 A64B 1C8A; 1C8B-1C8F x; 1C90-1CBA -BC0; 1CBB-1CBC x
1CBD-1CBF -BC0; 1CC8-1CCF x; 1CFB-1CFF x; 1D2C 61 E6 62 . 64 65 1DD; 1D33-1D3A -1CCC
1D3C 6F 223 70 72 74 75 77 61 250 251 1D02 62 64 65 259 25B 25C 67 . 6B 6D 14B 6F 254 1D16 1D17 70
1D57 74 75 1D1D 26F 76 1D25; 1D5D-1D5F -19AB; 1D60-1D61 -199A
1D62 69 72 75 76 3B2 3B3 3C1 3C6 3C7; 1D78 43D; 1D9B 252 63 255 F0 25C 66 25F 261 265
1DA4-1DA6 -1B3C; 1DA7 1D7B 29D 26D 1D85 29F 271 270; 1DAE-1DB1 -1B3C
1DB2 278 282 283 1AB 289 28A 1D1C 28B 28C 7A; 1DBC-1DBE -1B2C; 1DBF 3B8; 1E00-1E94 ~
1E9A 61_2BE 1E61 . . DF; 1EA0-1EFE ~; 1F08-1F0F -8; 1F16-1F17 x; 1F18-1F1D -8; 1F1E-1F1F x
1F28-1F2F -8; 1F38-1F3F -8; 1F46-1F47 x; 1F48-1F4D -8; 1F4E-1F4F x
1F58 x 1F51 x 1F53 x 1F55 x 1F57; 1F68-1F6F -8; 1F7E-1F7F x
1F80 1F00_3B9 1F01_3B9 1F02_3B9 1F03_3B9 1F04_3B9 1F05_3B9 1F06_3B9 1F07_3B9 1F00_3B9 1F01_3B9
1F8A 1F02_3B9 1F03_3B9 1F04_3B9 1F05_3B9 1F06_3B9 1F07_3B9 1F20_3B9 1F21_3B9 1F22_3B9 1F23_3B9
1F94 1F24_3B9 1F25_3B9 1F26_3B9 1F27_3B9 1F20_3B9 1F21_3B9 1F22_3B9 1F23_3B9 1F24_3B9 1F25_3B9
1F9E 1F26_3B9 1F27_3B9 1F60_3B9 1F61_3B9 1F62_3B9 1F63_3B9 1F64_3B9 1F65_3B9 1F66_3B9 1F67_3B9
1FA8 1F60_3B9 1F61_3B9 1F62_3B9 1F63_3B9 1F64_3B9 1F65_3B9 1F66_3B9 1F67_3B9 . . 1F70_3B9 3B1_3B9
1FB4 3AC_3B9 x . 1FB6_3B9 1FB0 1FB1 1F70 3AC 3B1_3B9 20_313 . 20_313 20_342 20_308_342 1F74_3B9
1FC3 3B7_3B9 3AE_3B9 x . 1FC6_3B9 1F72 3AD 1F74 3AE 3B7_3B9 20_313_300 20_313_301 20_313_342
1FD4-1FD5 x; 1FD8-1FD9 -8; 1FDA 1F76 3AF x 20_314_300 20_314_301 20_314_342; 1FE8-1FE9 -8
1FEA 1F7A 3CD 1FE5 20_308_300 20_308_301; 1FF0-1FF1 x
1FF2 1F7C_3B9 3C9_3B9 3CE_3B9 x . 1FF6_3B9 1F78 3CC 1F7C 3CE 3C9_3B9 20_301 20_314 x
2000-200A 20; 200B i; 200E-200F x; 2011 2010; 2017 20_333; 2024-2026 x; 2028-202E x; 202F 20
2033 2032_2032 2032_2032_2032 . 2035_2035 2035_2035_2035; 203C 21_21 . 20_305
2047 3F_3F 3F_21 21_3F; 2057 2032_2032_2032_2032; 205F 20; 2060-2064 i; 2065-2069 x; 206A-206F i
2070 30 69; 2072-2073 x; 2074-2079 -2040; 207A 2B 2212 3D 28 29 6E; 2080-2089 -2050
208A 2B 2212 3D 28 29 x 61 65 6F 78 259 68; 2096-2099 -202B; 209A 70 73 74; 209D-209F x
20A8 72_73; 20C2-20CF x; 20F1-20FF x
2100 61_2F_63 61_2F_73 63 B0_63 . 63_2F_6F 63_2F_75 25B . B0_66 67; 210B-210E 68
210F 127 69 69 6C 6C . 6E 6E_6F; 2119-211B -20A9
211C 72 72 . . 73_6D 74_65_6C 74_6D . 7A . 3C9 . 7A . 6B E5 62 63 . 65 65 66 214E 6D 6F
2135-2138 -1B65; 2139 69 . 66_61_78 3C0 3B3 3B3 3C0 2211; 2145 64 64 65 69 6A
2150 31_2044_37 31_2044_39 31_2044_31_30 31_2044_33 32_2044_33 31_2044_35 32_2044_35 33_2044_35
2158 34_2044_35 31_2044_36 35_2044_36 31_2044_38 33_2044_38 35_2044_38 37_2044_38 31_2044 69 69_69
2162 69_69_69 69_76 76 76_69 76_69_69 76_69_69_69 69_78 78 78_69 78_69_69 6C 63 64 6D 69 69_69
2172 69_69_69 69_76 76 76_69 76_69_69 76_69_69_69 69_78 78 78_69 78_69_69 6C 63 64 6D; 2183 2184
2189 30_2044_33; 218C-218F x; 222C 222B_222B 222B_222B_222B . 222E_222E 222E_222E_222E
242A-243F x; 244B-245F x; 2460-2468 -242F
2469 31_30 31_31 31_32 31_33 31_34 31_35 31_36 31_37 31_38 31_39 32_30 28_31_29 28_32_29 28_33_29
2477 28_34_29 28_35_29 28_36_29 28_37_29 28_38_29 28_39_29 28_31_30_29 28_31_31_29 28_31_32_29
2480 28_31_33_29 28_31_34_29 28_31_35_29 28_31_36_29 28_31_37_29 28_31_38_29 28_31_39_29
2487 28_32_30_29; 2488-249B x
249C 28_61_29 28_62_29 28_63_29 28_64_29 28_65_29 28_66_29 28_67_29 28_68_29 28_69_29 28_6A_29
24A6 28_6B_29 28_6C_29 28_6D_29 28_6E_29 28_6F_29 28_70_29 28_71_29 28_72_29 28_73_29 28_74_29
24B0 28_75_29 28_76_29 28_77_29 28_78_29 28_79_29 28_7A_29; 24B6-24CF -2455; 24D0-24E9 -246F
24EA 30; 2A0C 222B_222B_222B_222B; 2A74 3A_3A_3D 3D_3D 3D_3D_3D; 2B74-2B75 x; 2C00-2C2F +30
2C60 2C61 . 26B 1D7D 27D; 2C67-2C6B ~; 2C6D 251 271 250 252 . 2C73 . . 2C76; 2C7C 6A 76 23F 240
2C80-2CE2 ~; 2CEB-2CED ~; 2CF2 2CF3; 2CF4-2CF8 x; 2D26 x; 2D28-2D2C x; 2D2E-2D2F x; 2D68-2D6E x
2D6F 2D61; 2D71-2D7E x; 2D97-2D9F x; 2DA7 x; 2DAF x; 2DB7 x; 2DBF x; 2DC7 x; 2DCF x; 2DD7 x
2DDF x; 2E5E-2E7F x; 2E9A x; 2E9F 6BCD; 2EF3 9F9F; 2EF4-2EFF x
2F00 4E00 4E28 4E36 4E3F 4E59 4E85 4E8C 4EA0 4EBA 513F 5165 516B 5182 5196 51AB 51E0 51F5 5200
2F12 529B 52F9 5315 531A 5338 5341 535C 5369 5382 53B6 53C8 53E3 56D7 571F 58EB 5902 590A 5915
2F24 5927 5973 5B50 5B80 5BF8 5C0F 5C22 5C38 5C6E 5C71 5DDB 5DE5 5DF1 5DFE 5E72 5E7A 5E7F 5EF4
2F36 5EFE 5F0B 5F13 5F50 5F61 5F73 5FC3 6208 6236 624B 652F 6534 6587 6597 65A4 65B9 65E0 65E5
2F48 66F0 6708 6728 6B20 6B62 6B79 6BB3 6BCB 6BD4 6BDB 6C0F 6C14 6C34 706B 722A 7236 723B 723F
2F5A 7247 7259 725B 72AC 7384 7389 74DC 74E6 7518 751F 7528 7530 758B 7592 7676 767D 76AE 76BF
2F6C 76EE 77DB 77E2 77F3 793A 79B8 79BE 7A74 7ACB 7AF9 7C73 7CF8 7F36 7F51 7F8A 7FBD 8001 800C
2F7E 8012 8033 807F 8089 81E3 81EA 81F3 81FC 820C 821B 821F 826E 8272 8278 864D 866B 8840 884C
2F90 8863 897E 898B 89D2 8A00 8C37 8C46 8C55 8C78 8C9D 8D64 8D70 8DB3 8EAB 8ECA 8F9B 8FB0 8FB5
2FA2 9091 9149 91C6 91CC 91D1 9577 9580 961C 96B6 96B9 96E8 9751 975E 9762 9769 97CB 97ED 97F3
2FB4 9801 98A8 98DB 98DF 9996 9999 99AC 9AA8 9AD8 9ADF 9B25 9B2F 9B32 9B3C 9B5A 9CE5 9E75 9E7F
2FC6 9EA5 9EBB 9EC3 9ECD 9ED1 9EF9 9EFD 9F0E 9F13 9F20 9F3B 9F4A 9F52 9F8D 9F9C 9FA0; 2FD6-2FFF x
3000 20 . 2E; 3036 3012 . 5341 5344 5345; 3040 x; 3097-3098 x; 309B 20_3099 20_309A . . 3088_308A
30FF 30B3_30C8; 3100-3104 x; 3130 x 1100 1101 11AA 1102 11AC 11AD; 3137-3139 -2034
313A-313F -1F8A; 3140 111A; 3141-3143 -203B; 3144 1121; 3145-314E -203C; 314F-3163 -1FEE
3164 i 1114 1115 11C7 11C8 11CC 11CE 11D3 11D7 11D9 111C 11DD 11DF 111D 111E 1120 1122 1123 1127
3177 1129; 3178-317C -204D; 317D 1132 1136 1140 1147 114C 11F1 11F2; 3184-3186 -202D
3187-3188 -2003
3189 1188 1191 1192 1194 119E 11A1 x . . 4E00 4E8C 4E09 56DB 4E0A 4E2D 4E0B 7532 4E59 4E19 4E01
319D 5929 5730 4EBA; 31E6-31EF x
3200 28_1100_29 28_1102_29 28_1103_29 28_1105_29 28_1106_29 28_1107_29 28_1109_29 28_110B_29
3208 28_110C_29 28_110E_29 28_110F_29 28_1110_29 28_1111_29 28_1112_29 28_AC00_29 28_B098_29
3210 28_B2E4_29 28_B77C_29 28_B9C8_29 28_BC14_29 28_C0AC_29 28_C544_29 28_C790_29 28_CC28_29
3218 28_CE74_29 28_D0C0_29 28_D30C_29 28_D558_29 28_C8FC_29 28_C624_C804_29 28_C624_D6C4_29 x
3220 28_4E00_29 28_4E8C_29 28_4E09_29 28_56DB_29 28_4E94_29 28_516D_29 28_4E03_29 28_516B_29
3228 28_4E5D_29 28_5341_29 28_6708_29 28_706B_29 28_6C34_29 28_6728_29 28_91D1_29 28_571F_29
3230 28_65E5_29 28_682A_29 28_6709_29 28_793E_29 28_540D_29 28_7279_29 28_8CA1_29 28_795D_29
3238 28_52B4_29 28_4EE3_29 28_547C_29 28_5B66_29 28_76E3_29 28_4F01_29 28_8CC7_29 28_5354_29
3240 28_796D_29 28_4F11_29 28_81EA_29 28_81F3_29 554F 5E7C 6587 7B8F
3250 70_74_65 32_31 32_32 32_33 32_34 32_35 32_36 32_37 32_38 32_39 33_30 33_31 33_32 33_33 33_34
325F 33_35 1100 1102 1103; 3263-3265 -215E; 3266 1109 110B 110C; 3269-326D -215B
326E AC00 B098 B2E4 B77C B9C8 BC14 C0AC C544 C790 CC28 CE74 D0C0 D30C D558 CC38_ACE0 C8FC_C758
327E C6B0 . 4E00 4E8C 4E09 56DB 4E94 516D 4E03 516B 4E5D 5341 6708 706B 6C34 6728 91D1 571F 65E5
3291 682A 6709 793E 540D 7279 8CA1 795D 52B4 79D8 7537 5973 9069 512A 5370 6CE8 9805 4F11 5199
32A3 6B63 4E0A 4E2D 4E0B 5DE6 53F3 533B 5B97 5B66 76E3 4F01 8CC7 5354 591C 33_36 33_37 33_38 33_39
32B5 34_30 34_31 34_32 34_33 34_34 34_35 34_36 34_37 34_38 34_39 35_30 31_6708 32_6708 33_6708
32C3 34_6708 35_6708 36_6708 37_6708 38_6708 39_6708 31_30_6708 31_31_6708 31_32_6708 68_67
32CD 65_72_67 65_76 6C_74_64 30A2 30A4 30A6 30A8 30AA 30AB 30AD 30AF 30B1 30B3 30B5 30B7 30B9 30BB
32DE 30BD 30BF 30C1 30C4 30C6 30C8; 32E4-32E9 -21A; 32EA 30D2 30D5 30D8 30DB; 32EE-32F2 -210
32F3 30E4 30E6; 32F5-32FA -20D; 32FB-32FE -20C
32FF 4EE4_548C 30A2_30D1_30FC_30C8 30A2_30EB_30D5_30A1 30A2_30F3_30DA_30A2 30A2_30FC_30EB
3304 30A4_30CB_30F3_30B0 30A4_30F3_30C1 30A6_30A9_30F3 30A8_30B9_30AF_30FC_30C9
3308 30A8_30FC_30AB_30FC 30AA_30F3_30B9 30AA_30FC_30E0 30AB_30A4_30EA 30AB_30E9_30C3_30C8
330D 30AB_30ED_30EA_30FC 30AC_30ED_30F3 30AC_30F3_30DE 30AE_30AC 30AE_30CB_30FC
3312 30AD_30E5_30EA_30FC 30AE_30EB_30C0_30FC 30AD_30ED 30AD_30ED_30B0_30E9_30E0
3316 30AD_30ED_30E1_30FC_30C8_30EB 30AD_30ED_30EF_30C3_30C8 30B0_30E9_30E0
3319 30B0_30E9_30E0_30C8_30F3 30AF_30EB_30BC_30A4_30ED 30AF_30ED_30FC_30CD 30B1_30FC_30B9
331D 30B3_30EB_30CA 30B3_30FC_30DD 30B5_30A4_30AF_30EB 30B5_30F3_30C1_30FC_30E0
3321 30B7_30EA_30F3_30B0 30BB_30F3_30C1 30BB_30F3_30C8 30C0_30FC_30B9 30C7_30B7 30C9_30EB
3327 30C8_30F3 30CA_30CE 30CE_30C3_30C8 30CF_30A4_30C4 30D1_30FC_30BB_30F3_30C8 30D1_30FC_30C4
332D 30D0_30FC_30EC_30EB 30D4_30A2_30B9_30C8_30EB 30D4_30AF_30EB 30D4_30B3 30D3_30EB
3332 30D5_30A1_30E9_30C3_30C9 30D5_30A3_30FC_30C8 30D6_30C3_30B7_30A7_30EB 30D5_30E9_30F3
3336 30D8_30AF_30BF_30FC_30EB 30DA_30BD 30DA_30CB_30D2 30D8_30EB_30C4 30DA_30F3_30B9
333B 30DA_30FC_30B8 30D9_30FC_30BF 30DD_30A4_30F3_30C8 30DC_30EB_30C8 30DB_30F3 30DD_30F3_30C9
3341 30DB_30FC_30EB 30DB_30FC_30F3 30DE_30A4_30AF_30ED 30DE_30A4_30EB 30DE_30C3_30CF
3346 30DE_30EB_30AF 30DE_30F3_30B7_30E7_30F3 30DF_30AF_30ED_30F3 30DF_30EA
334A 30DF_30EA_30D0_30FC_30EB 30E1_30AC 30E1_30AC_30C8_30F3 30E1_30FC_30C8_30EB 30E4_30FC_30C9
334F 30E4_30FC_30EB 30E6_30A2_30F3 30EA_30C3_30C8_30EB 30EA_30E9 30EB_30D4_30FC
3354 30EB_30FC_30D6_30EB 30EC_30E0 30EC_30F3_30C8_30B2_30F3 30EF_30C3_30C8 30_70B9 31_70B9 32_70B9
335B 33_70B9 34_70B9 35_70B9 36_70B9 37_70B9 38_70B9 39_70B9 31_30_70B9 31_31_70B9 31_32_70B9
3365 31_33_70B9 31_34_70B9 31_35_70B9 31_36_70B9 31_37_70B9 31_38_70B9 31_39_70B9 32_30_70B9
336D 32_31_70B9 32_32_70B9 32_33_70B9 32_34_70B9 68_70_61 64_61 61_75 62_61_72 6F_76 70_63 64_6D
3378 64_6D_32 64_6D_33 69_75 5E73_6210 662D_548C 5927_6B63 660E_6CBB 682A_5F0F_4F1A_793E 70_61
3381 6E_61 3BC_61 6D_61 6B_61 6B_62 6D_62 67_62 63_61_6C 6B_63_61_6C 70_66 6E_66 3BC_66 3BC_67
338E 6D_67 6B_67 68_7A 6B_68_7A 6D_68_7A 67_68_7A 74_68_7A 3BC_6C 6D_6C 64_6C 6B_6C 66_6D 6E_6D
339B 3BC_6D 6D_6D 63_6D 6B_6D 6D_6D_32 63_6D_32 6D_32 6B_6D_32 6D_6D_33 63_6D_33 6D_33 6B_6D_33
33A7 6D_2215_73 6D_2215_73_32 70_61 6B_70_61 6D_70_61 67_70_61 72_61_64 72_61_64_2215_73
33AF 72_61_64_2215_73_32 70_73 6E_73 3BC_73 6D_73 70_76 6E_76 3BC_76 6D_76 6B_76 6D_76 70_77 6E_77
33BC 3BC_77 6D_77 6B_77 6D_77 6B_3C9 6D_3C9 x 62_71 63_63 63_64 63_2215_6B_67 x 64_62 67_79 68_61
33CB 68_70 69_6E 6B_6B 6B_6D 6B_74 6C_6D 6C_6E 6C_6F_67 6C_78 6D_62 6D_69_6C 6D_6F_6C 70_68 x
33D9 70_70_6D 70_72 73_72 73_76 77_62 76_2215_6D 61_2215_6D 31_65E5 32_65E5 33_65E5 34_65E5
33E4 35_65E5 36_65E5 37_65E5 38_65E5 39_65E5 31_30_65E5 31_31_65E5 31_32_65E5 31_33_65E5
33ED 31_34_65E5 31_35_65E5 31_36_65E5 31_37_65E5 31_38_65E5 31_39_65E5 32_30_65E5 32_31_65E5
33F5 32_32_65E5 32_33_65E5 32_34_65E5 32_35_65E5 32_36_65E5 32_37_65E5 32_38_65E5 32_39_65E5
33FD 33_30_65E5 33_31_65E5 67_61_6C; A48D-A48F x; A4C7-A4CF x; A62C-A63F x; A640-A66C ~
A680-A69A ~; A69C 44A 44C; A6F8-A6FF x; A722-A72E ~; A732-A76E ~; A770 A76F; A779-A77B ~
A77D 1D79; A77E-A786 ~; A78B A78C . 265 . . A791 . A793; A796-A7A8 ~
A7AA 266 25C 261 26C 26A . 29E 287 29D AB53; A7B4-A7C2 ~; A7C4 A794 282 1D8E A7C8 . A7CA . 264
A7CC-A7DA ~; A7DC 19B; A7DD-A7F0 x; A7F1 73 63 66 71 A7F6 . . 127 153; A82D-A82F x; A83A-A83F x
A878-A87F x; A8C6-A8CD x; A8DA-A8DF x; A954-A95E x; A97D-A97F x; A9CE x; A9DA-A9DD x; A9FF x
AA37-AA3F x; AA4E-AA4F x; AA5A-AA5B x; AAC3-AADA x; AAF7-AB00 x; AB07-AB08 x; AB0F-AB10 x
AB17-AB1F x; AB27 x; AB2F x; AB5C A727 AB37 26B AB52; AB69 28D; AB6C-AB6F x; AB70-ABBF -97D0
ABEE-ABEF x; ABFA-ABFF x; D7A4-D7AF x; D7C7-D7CA x; D7FC-F8FF x; FA6E-FA6F x; FADA-FAFF x
FB00 66_66 66_69 66_6C 66_66_69 66_66_6C 73_74 73_74; FB07-FB12 x
FB13 574_576 574_565 574_56B 57E_576 574_56D; FB18-FB1C x; FB20 5E2 5D0 5D3 5D4; FB24-FB26 -F549
FB27 5E8 5EA 2B; FB37 x; FB3D x . x . . x . . x; FB4F 5D0_5DC 671 671; FB52-FB55 67B
FB56-FB59 67E; FB5A-FB5D 680; FB5E-FB61 67A; FB62-FB65 67F; FB66-FB69 679; FB6A-FB6D 6A4
FB6E-FB71 6A6; FB72-FB75 684; FB76-FB79 683; FB7A-FB7D 686; FB7E-FB81 687
FB82 68D 68D 68C 68C 68E 68E 688 688 698 698 691 691; FB8E-FB91 6A9; FB92-FB95 6AF; FB96-FB99 6B3
FB9A-FB9D 6B1; FB9E 6BA 6BA; FBA0-FBA3 6BB; FBA4 6C0 6C0; FBA6-FBA9 6C1; FBAA-FBAD 6BE
FBAE 6D2 6D2 6D3 6D3; FBD3-FBD6 6AD; FBD7 6C7 6C7 6C6 6C6 6C8 6C8 6C7_674 6CB 6CB 6C5 6C5 6C9 6C9
FBE4-FBE7 6D0
FBE8 649 649 626_627 626_627 626_6D5 626_6D5 626_648 626_648 626_6C7 626_6C7 626_6C6 626_6C6
FBF4 626_6C8 626_6C8; FBF6-FBF8 626_6D0; FBF9-FBFB 626_649; FBFC-FBFF 6CC
FC00 626_62C 626_62D 626_645 626_649 626_64A 628_62C 628_62D 628_62E 628_645 628_649 628_64A
FC0B 62A_62C 62A_62D 62A_62E 62A_645 62A_649 62A_64A 62B_62C 62B_645 62B_649 62B_64A 62C_62D
FC16 62C_645 62D_62C 62D_645 62E_62C 62E_62D 62E_645 633_62C 633_62D 633_62E 633_645 635_62D
FC21 635_645 636_62C 636_62D 636_62E 636_645 637_62D 637_645 638_645 639_62C 639_645 63A_62C
FC2C 63A_645 641_62C 641_62D 641_62E 641_645 641_649 641_64A 642_62D 642_645 642_649 642_64A
FC37 643_627 643_62C 643_62D 643_62E 643_644 643_645 643_649 643_64A 644_62C 644_62D 644_62E
FC42 644_645 644_649 644_64A 645_62C 645_62D 645_62E 645_645 645_649 645_64A 646_62C 646_62D
FC4D 646_62E 646_645 646_649 646_64A 647_62C 647_645 647_649 647_64A 64A_62C 64A_62D 64A_62E
FC58 64A_645 64A_649 64A_64A 630_670 631_670 649_670 20_64C_651 20_64D_651 20_64E_651 20_64F_651
FC62 20_650_651 20_651_670 626_631 626_632 626_645 626_646 626_649 626_64A 628_631 628_632 628_645
FC6D 628_646 628_649 628_64A 62A_631 62A_632 62A_645 62A_646 62A_649 62A_64A 62B_631 62B_632
FC78 62B_645 62B_646 62B_649 62B_64A 641_649 641_64A 642_649 642_64A 643_627 643_644 643_645
FC83 643_649 643_64A 644_645 644_649 644_64A 645_627 645_645 646_631 646_632 646_645 646_646
FC8E 646_649 646_64A 649_670 64A_631 64A_632 64A_645 64A_646 64A_649 64A_64A 626_62C 626_62D
FC99 626_62E 626_645 626_647 628_62C 628_62D 628_62E 628_645 628_647 62A_62C 62A_62D 62A_62E
FCA4 62A_645 62A_647 62B_645 62C_62D 62C_645 62D_62C 62D_645 62E_62C 62E_645 633_62C 633_62D
FCAF 633_62E 633_645 635_62D 635_62E 635_645 636_62C 636_62D 636_62E 636_645 637_62D 638_645
FCBA 639_62C 639_645 63A_62C 63A_645 641_62C 641_62D 641_62E 641_645 642_62D 642_645 643_62C
FCC5 643_62D 643_62E 643_644 643_645 644_62C 644_62D 644_62E 644_645 644_647 645_62C 645_62D
FCD0 645_62E 645_645 646_62C 646_62D 646_62E 646_645 646_647 647_62C 647_645 647_670 64A_62C
FCDB 64A_62D 64A_62E 64A_645 64A_647 626_645 626_647 628_645 628_647 62A_645 62A_647 62B_645
FCE6 62B_647 633_645 633_647 634_645 634_647 643_644 643_645 644_645 646_645 646_647 64A_645
FCF1 64A_647 640_64E_651 640_64F_651 640_650_651 637_649 637_64A 639_649 639_64A 63A_649 63A_64A
FCFB 633_649 633_64A 634_649 634_64A 62D_649 62D_64A 62C_649 62C_64A 62E_649 62E_64A 635_649
FD06 635_64A 636_649 636_64A 634_62C 634_62D 634_62E 634_645 634_631 633_631 635_631 636_631
FD11 637_649 637_64A 639_649 639_64A 63A_649 63A_64A 633_649 633_64A 634_649 634_64A 62D_649
FD1C 62D_64A 62C_649 62C_64A 62E_649 62E_64A 635_649 635_64A 636_649 636_64A 634_62C 634_62D
FD27 634_62E 634_645 634_631 633_631 635_631 636_631 634_62C 634_62D 634_62E 634_645 633_647
FD32 634_647 637_645 633_62C 633_62D 633_62E 634_62C 634_62D 634_62E 637_645 638_645 627_64B
FD3D 627_64B
FD50 62A_62C_645 62A_62D_62C 62A_62D_62C 62A_62D_645 62A_62E_645 62A_645_62C 62A_645_62D
FD57 62A_645_62E 62C_645_62D 62C_645_62D 62D_645_64A 62D_645_649 633_62D_62C 633_62C_62D
FD5E 633_62C_649 633_645_62D 633_645_62D 633_645_62C 633_645_645 633_645_645 635_62D_62D
FD65 635_62D_62D 635_645_645 634_62D_645 634_62D_645 634_62C_64A 634_645_62E 634_645_62E
FD6C 634_645_645 634_645_645 636_62D_649 636_62E_645 636_62E_645 637_645_62D 637_645_62D
FD73 637_645_645 637_645_64A 639_62C_645 639_645_645 639_645_645 639_645_649 63A_645_645
FD7A 63A_645_64A 63A_645_649 641_62E_645 641_62E_645 642_645_62D 642_645_645 644_62D_645
FD81 644_62D_64A 644_62D_649 644_62C_62C 644_62C_62C 644_62E_645 644_62E_645 644_645_62D
FD88 644_645_62D 645_62D_62C 645_62D_645 645_62D_64A 645_62C_62D 645_62C_645 645_62E_62C
FD8F 645_62E_645 . . 645_62C_62E 647_645_62C 647_645_645 646_62D_645 646_62D_649 646_62C_645
FD98 646_62C_645 646_62C_649 646_645_64A 646_645_649 64A_645_645 64A_645_645 628_62E_64A
FD9F 62A_62C_64A 62A_62C_649 62A_62E_64A 62A_62E_649 62A_645_64A 62A_645_649 62C_645_64A
FDA6 62C_62D_649 62C_645_649 633_62E_649 635_62D_64A 634_62D_64A 636_62D_64A 644_62C_64A
FDAD 644_645_64A 64A_62D_64A 64A_62C_64A 64A_645_64A 645_645_64A 642_645_64A 646_62D_64A
FDB4 642_645_62D 644_62D_645 639_645_64A 643_645_64A 646_62C_62D 645_62E_64A 644_62C_645
FDBB 643_645_645 644_62C_645 646_62C_62D 62C_62D_64A 62D_62C_64A 645_62C_64A 641_645_64A
FDC2 628_62D_64A 643_645_645 639_62C_645 635_645_645 633_62E_64A 646_62C_64A; FDD0-FDEF x
FDF0 635_644_6D2 642_644_6D2 627_644_644_647 627_643_628_631 645_62D_645_62F 635_644_639_645
FDF6 631_633_648_644 639_644_64A_647 648_633_644_645 635_644_649
FDFA 635_644_649_20_627_644_644_647_20_639_644_64A_647_20_648_633_644_645
FDFB 62C_644_20_62C_644_627_644_647 631_6CC_627_644; FE00-FE0F i
FE10 2C 3001 x 3A 3B 21 3F 3016 3017; FE19-FE1F x
FE30 x 2014 2013 5F 5F 28 29 7B 7D 3014 3015 3010 3011 300A 300B 3008 3009; FE41-FE44 -CE35
FE47 5B 5D; FE49-FE4C 20_305; FE4D-FE4F 5F; FE50 2C 3001; FE52-FE53 x
FE54 3B 3A 3F 21 2014 28 29 7B 7D 3014 3015 23 26 2A 2B 2D 3C 3E 3D x 5C 24 25 40; FE6C-FE6F x
FE70 20_64B 640_64B 20_64C . 20_64D x 20_64E 640_64E 20_64F 640_64F 20_650 640_650 20_651 640_651
FE7E 20_652 640_652 621 622 622 623 623 624 624 625 625; FE89-FE8C 626; FE8D 627 627
FE8F-FE92 628; FE93 629 629; FE95-FE98 62A; FE99-FE9C 62B; FE9D-FEA0 62C; FEA1-FEA4 62D
FEA5-FEA8 62E; FEA9 62F 62F 630 630 631 631 632 632; FEB1-FEB4 633; FEB5-FEB8 634; FEB9-FEBC 635
FEBD-FEC0 636; FEC1-FEC4 637; FEC5-FEC8 638; FEC9-FECC 639; FECD-FED0 63A; FED1-FED4 641
FED5-FED8 642; FED9-FEDC 643; FEDD-FEE0 644; FEE1-FEE4 645; FEE5-FEE8 646; FEE9-FEEC 647
FEED 648 648 649 649; FEF1-FEF4 64A
FEF5 644_622 644_622 644_623 644_623 644_625 644_625 644_627 644_627; FEFD-FEFE x; FEFF i x
FF01-FF20 -FEE0; FF21-FF3A -FEC0; FF3B-FF5E -FEE0; FF5F-FF60 -D5DA
FF61 2E 300C 300D 3001 30FB 30F2 30A1 30A3 30A5 30A7 30A9 30E3 30E5 30E7 30C3 30FC 30A2 30A4 30A6
FF74 30A8 30AA 30AB 30AD 30AF 30B1 30B3 30B5 30B7 30B9 30BB 30BD 30BF 30C1 30C4 30C6 30C8
FF85-FF8A -CEBB; FF8B 30D2 30D5 30D8 30DB; FF8F-FF93 -CEB1; FF94 30E4 30E6; FF96-FF9B -CEAE
FF9C 30EF 30F3 3099 309A i 1100 1101 11AA 1102 11AC 11AD; FFA7-FFA9 -EEA4; FFAA-FFAF -EDFA
FFB0 111A; FFB1-FFB3 -EEAB; FFB4 1121; FFB5-FFBE -EEAC; FFBF-FFC1 x; FFC2-FFC7 -EE61; FFC8-FFC9 x
FFCA-FFCF -EE63; FFD0-FFD1 x; FFD2-FFD7 -EE65; FFD8-FFD9 x; FFDA-FFDC -EE67; FFDD-FFDF x
FFE0-FFE1 -FF3E; FFE2 AC 20_304 A6 A5 20A9 x 2502; FFE9-FFEC -DE59; FFED 25A0 25CB; FFEF-FFFF x
1000C x; 10027 x; 1003B x . . x; 1004E-1004F x; 1005E-1007F x; 100FB-100FF x; 10103-10106 x
10134-10136 x; 1018F x; 1019D-1019F x; 101A1-101CF x; 101FE-1027F x; 1029D-1029F x; 102D1-102DF x
102FC-102FF x; 10324-1032C x; 1034B-1034F x; 1037B-1037F x; 1039E x; 103C4-103C7 x; 103D6-103FF x
10400-10427 +28; 1049E-1049F x; 104AA-104AF x; 104B0-104D3 +28; 104D4-104D7 x; 104FC-104FF x
10528-1052F x; 10564-1056E x; 10570-1057A +27; 1057B x; 1057C-1058A +27; 1058B x; 1058C-10592 +27
10593 x 105BB 105BC x; 105A2 x; 105B2 x; 105BA x; 105BD-105BF x; 105F4-105FF x; 10737-1073F x
10756-1075F x; 10768-1077F x; 10781-10782 -104B1
10783 E6 299 253 x 2A3 AB66 2A5 2A4 256 257 1D91 258 25E 2A9 264 262 260 29B 127 29C 267 284 2AA
1079A 2AB 26C 1DF04 A78E 26E 1DF05 28E 1DF06 F8 276 277 71 27A 1DF08 27D 27E 280 2A8 2A6 AB67 2A7
107AF 288 2C71 x 28F 2A1 2A2 298; 107B6-107B8 -105F6; 107B9 1DF0A 1DF1E; 107BB-107FF x
10806-10807 x; 10809 x; 10836 x; 10839-1083B x; 1083D-1083E x; 10856 x; 1089F-108A6 x
108B0-108DF x; 108F3 x; 108F6-108FA x; 1091C-1091E x; 1093A-1093E x; 1095A-1097F x; 109B8-109BB x
109D0-109D1 x; 10A04 x; 10A07-10A0B x; 10A14 x; 10A18 x; 10A36-10A37 x; 10A3B-10A3E x
10A49-10A4F x; 10A59-10A5F x; 10AA0-10ABF x; 10AE7-10AEA x; 10AF7-10AFF x; 10B36-10B38 x
10B56-10B57 x; 10B73-10B77 x; 10B92-10B98 x; 10B9D-10BA8 x; 10BB0-10BFF x; 10C49-10C7F x
10C80-10CB2 +40; 10CB3-10CBF x; 10CF3-10CF9 x; 10D28-10D2F x; 10D3A-10D3F x; 10D50-10D65 +20
10D66-10D68 x; 10D86-10D8D x; 10D90-10E5F x; 10E7F x; 10EAA x; 10EAE-10EAF x; 10EB2-10EC1 x
10EC8-10ECF x; 10ED9-10EF9 x; 10F28-10F2F x; 10F5A-10F6F x; 10F8A-10FAF x; 10FCC-10FDF x
10FF7-10FFF x; 1104E-11051 x; 11076-1107E x; 110BD x; 110C3-110CF x; 110E9-110EF x; 110FA-110FF x
11135 x; 11148-1114F x; 11177-1117F x; 111E0 x; 111F5-111FF x; 11212 x; 11242-1127F x
11287 x . x; 1128E x; 1129E x; 112AA-112AF x; 112EB-112EF x; 112FA-112FF x; 11304 x
1130D-1130E x; 11311-11312 x; 11329 x; 11331 x . . x; 1133A x; 11345-11346 x; 11349-1134A x
1134E-1134F x; 11351-11356 x; 11358-1135C x; 11364-11365 x; 1136D-1136F x; 11375-1137F x; 1138A x
1138C-1138D x; 1138F x; 113B6 x; 113C1 x; 113C3-113C4 x; 113C6 x; 113CB x; 113D6 x; 113D9-113E0 x
113E3-113FF x; 1145C x; 11462-1147F x; 114C8-114CF x; 114DA-1157F x; 115B6-115B7 x; 115DE-115FF x
11645-1164F x; 1165A-1165F x; 1166D-1167F x; 116BA-116BF x; 116CA-116CF x; 116E4-116FF x
1171B-1171C x; 1172C-1172F x; 11747-117FF x; 1183C-1189F x; 118A0-118BF +20; 118F3-118FE x
11907-11908 x; 1190A-1190B x; 11914 x . . x; 11936 x; 11939-1193A x; 11947-1194F x; 1195A-1199F x
119A8-119A9 x; 119D8-119D9 x; 119E5-119FF x; 11A48-11A4F x; 11AA3-11AAF x; 11AF9-11AFF x
11B0A-11B5F x; 11B68-11BBF x; 11BE2-11BEF x; 11BFA-11BFF x; 11C09 x; 11C37 x; 11C46-11C4F x
11C6D-11C6F x; 11C90-11C91 x; 11CA8 x; 11CB7-11CFF x; 11D07 x . . x; 11D37-11D39 x; 11D3B x . . x
11D48-11D4F x; 11D5A-11D5F x; 11D66 x . . x; 11D8F x . . x; 11D99-11D9F x; 11DAA-11DAF x
11DDC-11DDF x; 11DEA-11EDF x; 11EF9-11EFF x; 11F11 x; 11F3B-11F3D x; 11F5B-11FAF x; 11FB1-11FBF x
11FF2-11FFE x; 1239A-123FF x; 1246F x; 12475-1247F x; 12544-12F8F x; 12FF3-12FFF x; 13430-1343F x
13456-1345F x; 143FB-143FF x; 14647-160FF x; 1613A-167FF x; 16A39-16A3F x; 16A5F x; 16A6A-16A6D x
16ABF x; 16ACA-16ACF x; 16AEE-16AEF x; 16AF6-16AFF x; 16B46-16B4F x; 16B5A x; 16B62 x
16B78-16B7C x; 16B90-16D3F x; 16D7A-16E3F x; 16E40-16E5F +20; 16E9B-16E9F x; 16EA0-16EB8 +1B
16EB9-16EBA x; 16ED4-16EFF x; 16F4B-16F4E x; 16F88-16F8E x; 16FA0-16FDF x; 16FE5-16FEF x
16FF7-16FFF x; 18CD6-18CFE x; 18D1F-18D7F x; 18DF3-1AFEF x; 1AFF4 x; 1AFFC x . . x; 1B123-1B131 x
1B133-1B14F x; 1B153-1B154 x; 1B156-1B163 x; 1B168-1B16F x; 1B2FC-1BBFF x; 1BC6B-1BC6F x
1BC7D-1BC7F x; 1BC89-1BC8F x; 1BC9A-1BC9B x; 1BCA0-1BCA3 i; 1BCA4-1CBFF x; 1CCD6-1CCEF -1CC75
1CCF0-1CCF9 -1CCC0; 1CCFD-1CCFF x; 1CEB4-1CEB9 x; 1CED1-1CEDF x; 1CEF1-1CEFF x; 1CF2E-1CF2F x
1CF47-1CF4F x; 1CFC4-1CFFF x; 1D0F6-1D0FF x; 1D127-1D128 x; 1D173-1D17A i; 1D1EB-1D1FF x
1D246-1D2BF x; 1D2D4-1D2DF x; 1D2F4-1D2FF x; 1D357-1D35F x; 1D379-1D3FF x; 1D400-1D419 -1D39F
1D41A-1D433 -1D3B9; 1D434-1D44D -1D3D3; 1D44E-1D454 -1D3ED; 1D455 x; 1D456-1D467 -1D3ED
1D468-1D481 -1D407; 1D482-1D49B -1D421; 1D49C 61 x 63 64; 1D4A0-1D4A1 x; 1D4A2 67; 1D4A3-1D4A4 x
1D4A5-1D4A6 -1D43B; 1D4A7-1D4A8 x; 1D4A9-1D4AC -1D43B; 1D4AD x; 1D4AE-1D4B5 -1D43B
1D4B6-1D4B9 -1D455; 1D4BA x 66 x; 1D4BD-1D4C3 -1D455; 1D4C4 x; 1D4C5-1D4CF -1D455
1D4D0-1D4E9 -1D46F; 1D4EA-1D503 -1D489; 1D504-1D505 -1D4A3; 1D506 x; 1D507-1D50A -1D4A3
1D50B-1D50C x; 1D50D-1D514 -1D4A3; 1D515 x; 1D516-1D51C -1D4A3; 1D51D x; 1D51E-1D537 -1D4BD
1D538-1D539 -1D4D7; 1D53A x; 1D53B-1D53E -1D4D7; 1D53F x; 1D540-1D544 -1D4D7; 1D545 x 6F
1D547-1D549 x; 1D54A-1D550 -1D4D7; 1D551 x; 1D552-1D56B -1D4F1; 1D56C-1D585 -1D50B
1D586-1D59F -1D525; 1D5A0-1D5B9 -1D53F; 1D5BA-1D5D3 -1D559; 1D5D4-1D5ED -1D573
1D5EE-1D607 -1D58D; 1D608-1D621 -1D5A7; 1D622-1D63B -1D5C1; 1D63C-1D655 -1D5DB
1D656-1D66F -1D5F5; 1D670-1D689 -1D60F; 1D68A-1D6A3 -1D629; 1D6A4 131 237; 1D6A6-1D6A7 x
1D6A8-1D6B8 -1D2F7; 1D6B9 3B8; 1D6BA-1D6C0 -1D2F7; 1D6C1 2207; 1D6C2-1D6D2 -1D311; 1D6D3 3C3
1D6D4-1D6DA -1D311; 1D6DB 2202 3B5 3B8 3BA 3C6 3C1 3C0; 1D6E2-1D6F2 -1D331; 1D6F3 3B8
1D6F4-1D6FA -1D331; 1D6FB 2207; 1D6FC-1D70C -1D34B; 1D70D 3C3; 1D70E-1D714 -1D34B
1D715 2202 3B5 3B8 3BA 3C6 3C1 3C0; 1D71C-1D72C -1D36B; 1D72D 3B8; 1D72E-1D734 -1D36B; 1D735 2207
1D736-1D746 -1D385; 1D747 3C3; 1D748-1D74E -1D385; 1D74F 2202 3B5 3B8 3BA 3C6 3C1 3C0
1D756-1D766 -1D3A5; 1D767 3B8; 1D768-1D76E -1D3A5; 1D76F 2207; 1D770-1D780 -1D3BF; 1D781 3C3
1D782-1D788 -1D3BF; 1D789 2202 3B5 3B8 3BA 3C6 3C1 3C0; 1D790-1D7A0 -1D3DF; 1D7A1 3B8
1D7A2-1D7A8 -1D3DF; 1D7A9 2207; 1D7AA-1D7BA -1D3F9; 1D7BB 3C3; 1D7BC-1D7C2 -1D3F9
1D7C3 2202 3B5 3B8 3BA 3C6 3C1 3C0 3DD 3DD; 1D7CC-1D7CD x; 1D7CE-1D7D7 -1D79E; 1D7D8-1D7E1 -1D7A8
1D7E2-1D7EB -1D7B2; 1D7EC-1D7F5 -1D7BC; 1D7F6-1D7FF -1D7C6; 1DA8C-1DA9A x; 1DAA0 x; 1DAB0-1DEFF x
1DF1F-1DF24 x; 1DF2B-1DFFF x; 1E007 x; 1E019-1E01A x; 1E022 x . . x; 1E02B-1E02F x
1E030-1E038 -1DC00; 1E039-1E03B -1DBFF; 1E03C-1E046 -1DBFE
1E047 44B 44D 44E A689 4D9 456 458 4E9 4AF 4CF; 1E051-1E059 -1DC21; 1E05A-1E05B -1DC20
1E05C-1E05D -1DC1E; 1E05E 441; 1E05F-1E064 -1DC1C; 1E065-1E066 -1DC1B
1E067 491 456 455 45F 4AB A651 4B1; 1E06E-1E08E x; 1E090-1E0FF x; 1E12D-1E12F x; 1E13E-1E13F x
1E14A-1E14D x; 1E150-1E28F x; 1E2AF-1E2BF x; 1E2FA-1E2FE x; 1E300-1E4CF x; 1E4FA-1E5CF x
1E5FB-1E5FE x; 1E600-1E6BF x; 1E6DF x; 1E6F6-1E6FD x; 1E700-1E7DF x; 1E7E7 x; 1E7EC x . . x
1E7FF x; 1E8C5-1E8C6 x; 1E8D7-1E8FF x; 1E900-1E921 +22; 1E94C-1E94F x; 1E95A-1E95D x
1E960-1EC70 x; 1ECB5-1ED00 x; 1ED3E-1EDFF x; 1EE00-1EE01 -1E7D9
1EE02 62C 62F x 648 632 62D 637 64A; 1EE0A-1EE0D -1E7C7
1EE0E 633 639 641 635 642 631 634 62A 62B 62E 630 636 638 63A 66E 6BA 6A1 66F x 628 62C x 647
1EE25-1EE26 x; 1EE27 62D x 64A; 1EE2A-1EE2D -1E7E7
1EE2E 633 639 641 635 642 x 634 62A 62B 62E x 636 x 63A; 1EE3C-1EE41 x; 1EE42 62C; 1EE43-1EE46 x
1EE47 62D x 64A x 644 x 646 633 639 x 635 642 x 634; 1EE55-1EE56 x
1EE57 62E x 636 x 63A x 6BA x 66F x 628 62C x 647; 1EE65-1EE66 x
1EE67 62D 637 64A 643 x 645 646 633 639 641 635 642 x 634 62A 62B 62E x 636 638 63A 66E x 6A1 x
1EE80 627 628 62C 62F 647 648 632 62D 637 64A x; 1EE8B-1EE8D -1E847
1EE8E 633 639 641 635 642 631 634 62A 62B 62E 630 636 638 63A; 1EE9C-1EEA0 x
1EEA1 628 62C 62F x 648 632 62D 637 64A x; 1EEAB-1EEAD -1E867
1EEAE 633 639 641 635 642 631 634 62A 62B 62E 630 636 638 63A; 1EEBC-1EEEF x; 1EEF2-1EFFF x
1F02C-1F02F x; 1F094-1F09F x; 1F0AF-1F0B0 x; 1F0C0 x; 1F0D0 x; 1F0F6-1F100 x
1F101 30_2C 31_2C 32_2C 33_2C 34_2C 35_2C 36_2C 37_2C 38_2C 39_2C
1F110 28_61_29 28_62_29 28_63_29 28_64_29 28_65_29 28_66_29 28_67_29 28_68_29 28_69_29 28_6A_29
1F11A 28_6B_29 28_6C_29 28_6D_29 28_6E_29 28_6F_29 28_70_29 28_71_29 28_72_29 28_73_29 28_74_29
1F124 28_75_29 28_76_29 28_77_29 28_78_29 28_79_29 28_7A_29 3014_73_3015 63 72 63_64 77_7A
1F130-1F149 -1F0CF; 1F14A 68_76 6D_76 73_64 73_73 70_70_76 77_63; 1F16A 6D_63 6D_64 6D_72
1F190 64_6A; 1F1AE-1F1E5 x; 1F200 307B_304B 30B3_30B3 30B5; 1F203-1F20F x
1F210 624B 5B57 53CC 30C7 4E8C 591A 89E3 5929 4EA4 6620 7121 6599 524D 5F8C 518D 65B0 521D 7D42
1F222 751F 8CA9 58F0 5439 6F14 6295 6355 4E00 4E09 904A 5DE6 4E2D 53F3 6307 8D70 6253 7981 7A7A
1F234 5408 6E80 6709 6708 7533 5272 55B6 914D; 1F23C-1F23F x
1F240 3014_672C_3015 3014_4E09_3015 3014_4E8C_3015 3014_5B89_3015 3014_70B9_3015 3014_6253_3015
1F246 3014_76D7_3015 3014_52DD_3015 3014_6557_3015; 1F249-1F24F x; 1F250 5F97 53EF; 1F252-1F25F x
1F266-1F2FF x; 1F6D9-1F6DB x; 1F6ED-1F6EF x; 1F6FD-1F6FF x; 1F7DA-1F7DF x; 1F7EC-1F7EF x
1F7F1-1F7FF x; 1F80C-1F80F x; 1F848-1F84F x; 1F85A-1F85F x; 1F888-1F88F x; 1F8AE-1F8AF x
1F8BC-1F8BF x; 1F8C2-1F8CF x; 1F8D9-1F8FF x; 1FA58-1FA5F x; 1FA6E-1FA6F x; 1FA7D-1FA7F x
1FA8B-1FA8D x; 1FAC7 x; 1FAC9-1FACC x; 1FADD-1FADE x; 1FAEB-1FAEE x; 1FAF9-1FAFF x; 1FB93 x
1FBF0-1FBF9 -1FBC0; 1FBFB-1FFFF x; 2A6E0-2A6FF x; 2B81E-2B81F x; 2CEAE-2CEAF x; 2EBE1-2EBEF x
2EE5E-2F7FF x; 2FA1E-2FFFF x; 3134B-3134F x; 3347A-E00FF x; E0100-E01EF i; E01F0-10FFFF x"

end Mapping

/-- What becomes of `c`, which is in the run. -/
def imageIn? (r : Run Mapping) (c : Char) : Option (List Char) :=
  match r.value with
  | .forbidden => none
  | .dropped => some []
  | .replaced s => some s
  | .raised k => some [Char.ofNat (c.toNat + k)]
  | .lowered k => some [Char.ofNat (c.toNat - k)]
  | .alternating => some [if (c.toNat - r.first) % 2 = 0 then Char.ofNat (c.toNat + 1) else c]

/-- What becomes of a character that domains may have. -/
def image? (c : Char) : Option (List Char) :=
  match Mapping.table.run? c with
  | none => some [c]
  | some r => imageIn? r c

end NodeConsole.Url.Domain
