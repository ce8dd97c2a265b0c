import NodeConsole.Text.Table

/-! What characters are made of, after version 17 of Unicode. -/
namespace NodeConsole.Text.Canonical

/-- Made of two characters, and made again of them. -/
def composites : Table (List Char) := Table.read Table.characters? "
C0 41_300 41_301 41_302 41_303 41_308 41_30A . 43_327 45_300 45_301 45_302 45_308 49_300 49_301
CE 49_302 49_308 . 4E_303 4F_300 4F_301 4F_302 4F_303 4F_308
D9 55_300 55_301 55_302 55_308 59_301
E0 61_300 61_301 61_302 61_303 61_308 61_30A . 63_327 65_300 65_301 65_302 65_308 69_300 69_301
EE 69_302 69_308 . 6E_303 6F_300 6F_301 6F_302 6F_303 6F_308
F9 75_300 75_301 75_302 75_308 79_301 . 79_308 41_304 61_304 41_306 61_306 41_328 61_328 43_301
107 63_301 43_302 63_302 43_307 63_307 43_30C 63_30C 44_30C 64_30C
112 45_304 65_304 45_306 65_306 45_307 65_307 45_328 65_328 45_30C 65_30C 47_302 67_302 47_306
11F 67_306 47_307 67_307 47_327 67_327 48_302 68_302
128 49_303 69_303 49_304 69_304 49_306 69_306 49_328 69_328 49_307
134 4A_302 6A_302 4B_327 6B_327 . 4C_301 6C_301 4C_327 6C_327 4C_30C 6C_30C
143 4E_301 6E_301 4E_327 6E_327 4E_30C 6E_30C; 14C 4F_304 6F_304 4F_306 6F_306 4F_30B 6F_30B
154 52_301 72_301 52_327 72_327 52_30C 72_30C 53_301 73_301 53_302 73_302 53_327 73_327 53_30C
161 73_30C 54_327 74_327 54_30C 74_30C
168 55_303 75_303 55_304 75_304 55_306 75_306 55_30A 75_30A 55_30B 75_30B 55_328 75_328 57_302
175 77_302 59_302 79_302 59_308 5A_301 7A_301 5A_307 7A_307 5A_30C 7A_30C; 1A0 4F_31B 6F_31B
1AF 55_31B 75_31B
1CD 41_30C 61_30C 49_30C 69_30C 4F_30C 6F_30C 55_30C 75_30C DC_304 FC_304 DC_301 FC_301 DC_30C
1DA FC_30C DC_300 FC_300 . C4_304 E4_304 226_304 227_304 C6_304 E6_304
1E6 47_30C 67_30C 4B_30C 6B_30C 4F_328 6F_328 1EA_304 1EB_304 1B7_30C 292_30C 6A_30C
1F4 47_301 67_301
1F8 4E_300 6E_300 C5_301 E5_301 C6_301 E6_301 D8_301 F8_301 41_30F 61_30F 41_311 61_311 45_30F
205 65_30F 45_311 65_311 49_30F 69_30F 49_311 69_311 4F_30F 6F_30F 4F_311 6F_311 52_30F 72_30F
212 52_311 72_311 55_30F 75_30F 55_311 75_311 53_326 73_326 54_326 74_326; 21E 48_30C 68_30C
226 41_307 61_307 45_327 65_327 D6_304 F6_304 D5_304 F5_304 4F_307 6F_307 22E_304 22F_304 59_304
233 79_304; 385 A8_301 391_301 . 395_301 397_301 399_301 . 39F_301 . 3A5_301 3A9_301 3CA_301
3AA 399_308 3A5_308 3B1_301 3B5_301 3B7_301 3B9_301 3CB_301
3CA 3B9_308 3C5_308 3BF_301 3C5_301 3C9_301; 3D3 3D2_301 3D2_308; 400 415_300 415_308 . 413_301
407 406_308; 40C 41A_301 418_300 423_306; 419 418_306; 439 438_306; 450 435_300 435_308 . 433_301
457 456_308; 45C 43A_301 438_300 443_306; 476 474_30F 475_30F; 4C1 416_306 436_306
4D0 410_306 430_306 410_308 430_308; 4D6 415_306 435_306
4DA 4D8_308 4D9_308 416_308 436_308 417_308 437_308
4E2 418_304 438_304 418_308 438_308 41E_308 43E_308
4EA 4E8_308 4E9_308 42D_308 44D_308 423_304 443_304 423_308 443_308 423_30B 443_30B 427_308
4F5 447_308; 4F8 42B_308 44B_308; 622 627_653 627_654 648_654 627_655 64A_654
6C0 6D5_654 . 6C1_654; 6D3 6D2_654; 929 928_93C; 931 930_93C; 934 933_93C; 9CB 9C7_9BE 9C7_9D7
B48 B47_B56; B4B B47_B3E B47_B57; B94 B92_BD7; BCA BC6_BBE BC7_BBE BC6_BD7; C48 C46_C56
CC0 CBF_CD5; CC7 CC6_CD5 CC6_CD6 . CC6_CC2 CCA_CD5; D4A D46_D3E D47_D3E D46_D57
DDA DD9_DCA . DD9_DCF DDC_DCA DD9_DDF; 1026 1025_102E
1B06 1B05_1B35 . 1B07_1B35 . 1B09_1B35 . 1B0B_1B35 . 1B0D_1B35; 1B12 1B11_1B35
1B3B 1B3A_1B35 . 1B3C_1B35; 1B40 1B3E_1B35 1B3F_1B35 . 1B42_1B35
1E00 41_325 61_325 42_307 62_307 42_323 62_323 42_331 62_331 C7_301 E7_301 44_307 64_307 44_323
1E0D 64_323 44_331 64_331 44_327 64_327 44_32D 64_32D 112_300 113_300 112_301 113_301 45_32D
1E19 65_32D 45_330 65_330 228_306 229_306 46_307 66_307 47_304 67_304 48_307 68_307 48_323 68_323
1E26 48_308 68_308 48_327 68_327 48_32E 68_32E 49_330 69_330 CF_301 EF_301 4B_301 6B_301 4B_323
1E33 6B_323 4B_331 6B_331 4C_323 6C_323 1E36_304 1E37_304 4C_331 6C_331 4C_32D 6C_32D 4D_301
1E3F 6D_301 4D_307 6D_307 4D_323 6D_323 4E_307 6E_307 4E_323 6E_323 4E_331 6E_331 4E_32D 6E_32D
1E4C D5_301 F5_301 D5_308 F5_308 14C_300 14D_300 14C_301 14D_301 50_301 70_301 50_307 70_307
1E58 52_307 72_307 52_323 72_323 1E5A_304 1E5B_304 52_331 72_331 53_307 73_307 53_323 73_323
1E64 15A_307 15B_307 160_307 161_307 1E62_307 1E63_307 54_307 74_307 54_323 74_323 54_331 74_331
1E70 54_32D 74_32D 55_324 75_324 55_330 75_330 55_32D 75_32D 168_301 169_301 16A_308 16B_308
1E7C 56_303 76_303 56_323 76_323 57_300 77_300 57_301 77_301 57_308 77_308 57_307 77_307 57_323
1E89 77_323 58_307 78_307 58_308 78_308 59_307 79_307 5A_302 7A_302 5A_323 7A_323 5A_331 7A_331
1E96 68_331 74_308 77_30A 79_30A . 17F_307
1EA0 41_323 61_323 41_309 61_309 C2_301 E2_301 C2_300 E2_300 C2_309 E2_309 C2_303 E2_303 1EA0_302
1EAD 1EA1_302 102_301 103_301 102_300 103_300 102_309 103_309 102_303 103_303 1EA0_306 1EA1_306
1EB8 45_323 65_323 45_309 65_309 45_303 65_303 CA_301 EA_301 CA_300 EA_300 CA_309 EA_309 CA_303
1EC5 EA_303 1EB8_302 1EB9_302 49_309 69_309 49_323 69_323 4F_323 6F_323 4F_309 6F_309 D4_301
1ED1 F4_301 D4_300 F4_300 D4_309 F4_309 D4_303 F4_303 1ECC_302 1ECD_302 1A0_301 1A1_301 1A0_300
1EDD 1A1_300 1A0_309 1A1_309 1A0_303 1A1_303 1A0_323 1A1_323 55_323 75_323 55_309 75_309 1AF_301
1EE9 1B0_301 1AF_300 1B0_300 1AF_309 1B0_309 1AF_303 1B0_303 1AF_323 1B0_323 59_300 79_300 59_323
1EF5 79_323 59_309 79_309 59_303 79_303
1F00 3B1_313 3B1_314 1F00_300 1F01_300 1F00_301 1F01_301 1F00_342 1F01_342 391_313 391_314
1F0A 1F08_300 1F09_300 1F08_301 1F09_301 1F08_342 1F09_342 3B5_313 3B5_314 1F10_300 1F11_300
1F14 1F10_301 1F11_301; 1F18 395_313 395_314 1F18_300 1F19_300 1F18_301 1F19_301
1F20 3B7_313 3B7_314 1F20_300 1F21_300 1F20_301 1F21_301 1F20_342 1F21_342 397_313 397_314
1F2A 1F28_300 1F29_300 1F28_301 1F29_301 1F28_342 1F29_342 3B9_313 3B9_314 1F30_300 1F31_300
1F34 1F30_301 1F31_301 1F30_342 1F31_342 399_313 399_314 1F38_300 1F39_300 1F38_301 1F39_301
1F3E 1F38_342 1F39_342 3BF_313 3BF_314 1F40_300 1F41_300 1F40_301 1F41_301
1F48 39F_313 39F_314 1F48_300 1F49_300 1F48_301 1F49_301
1F50 3C5_313 3C5_314 1F50_300 1F51_300 1F50_301 1F51_301 1F50_342 1F51_342 . 3A5_314 . 1F59_300
1F5D 1F59_301 . 1F59_342 3C9_313 3C9_314 1F60_300 1F61_300 1F60_301 1F61_301 1F60_342 1F61_342
1F68 3A9_313 3A9_314 1F68_300 1F69_300 1F68_301 1F69_301 1F68_342 1F69_342 3B1_300 . 3B5_300
1F74 3B7_300 . 3B9_300 . 3BF_300 . 3C5_300 . 3C9_300
1F80 1F00_345 1F01_345 1F02_345 1F03_345 1F04_345 1F05_345 1F06_345 1F07_345 1F08_345 1F09_345
1F8A 1F0A_345 1F0B_345 1F0C_345 1F0D_345 1F0E_345 1F0F_345 1F20_345 1F21_345 1F22_345 1F23_345
1F94 1F24_345 1F25_345 1F26_345 1F27_345 1F28_345 1F29_345 1F2A_345 1F2B_345 1F2C_345 1F2D_345
1F9E 1F2E_345 1F2F_345 1F60_345 1F61_345 1F62_345 1F63_345 1F64_345 1F65_345 1F66_345 1F67_345
1FA8 1F68_345 1F69_345 1F6A_345 1F6B_345 1F6C_345 1F6D_345 1F6E_345 1F6F_345 3B1_306 3B1_304
1FB2 1F70_345 3B1_345 3AC_345 . 3B1_342 1FB6_345 391_306 391_304 391_300 . 391_345
1FC1 A8_342 1F74_345 3B7_345 3AE_345 . 3B7_342 1FC6_345 395_300 . 397_300 . 397_345 1FBF_300
1FCE 1FBF_301 1FBF_342 3B9_306 3B9_304 3CA_300; 1FD6 3B9_342 3CA_342 399_306 399_304 399_300
1FDD 1FFE_300 1FFE_301 1FFE_342 3C5_306 3C5_304 3CB_300 . 3C1_313 3C1_314 3C5_342 3CB_342 3A5_306
1FE9 3A5_304 3A5_300 . 3A1_314 A8_300
1FF2 1F7C_345 3C9_345 3CE_345 . 3C9_342 1FF6_345 39F_300 . 3A9_300 . 3A9_345
219A 2190_338 2192_338; 21AE 2194_338; 21CD 21D0_338 21D4_338 21D2_338; 2204 2203_338
2209 2208_338; 220C 220B_338; 2224 2223_338 . 2225_338; 2241 223C_338; 2244 2243_338
2247 2245_338 . 2248_338; 2260 3D_338 . 2261_338; 226D 224D_338 3C_338 3E_338 2264_338 2265_338
2274 2272_338 2273_338; 2278 2276_338 2277_338; 2280 227A_338 227B_338; 2284 2282_338 2283_338
2288 2286_338 2287_338; 22AC 22A2_338 22A8_338 22A9_338 22AB_338
22E0 227C_338 227D_338 2291_338 2292_338; 22EA 22B2_338 22B3_338 22B4_338 22B5_338
304C 304B_3099 . 304D_3099 . 304F_3099 . 3051_3099 . 3053_3099 . 3055_3099 . 3057_3099 . 3059_3099
305C 305B_3099 . 305D_3099 . 305F_3099 . 3061_3099; 3065 3064_3099 . 3066_3099 . 3068_3099
3070 306F_3099 306F_309A . 3072_3099 3072_309A . 3075_3099 3075_309A . 3078_3099 3078_309A
307C 307B_3099 307B_309A; 3094 3046_3099; 309E 309D_3099
30AC 30AB_3099 . 30AD_3099 . 30AF_3099 . 30B1_3099 . 30B3_3099 . 30B5_3099 . 30B7_3099 . 30B9_3099
30BC 30BB_3099 . 30BD_3099 . 30BF_3099 . 30C1_3099; 30C5 30C4_3099 . 30C6_3099 . 30C8_3099
30D0 30CF_3099 30CF_309A . 30D2_3099 30D2_309A . 30D5_3099 30D5_309A . 30D8_3099 30D8_309A
30DC 30DB_3099 30DB_309A; 30F4 30A6_3099; 30F7 30EF_3099 30F0_3099 30F1_3099 30F2_3099
30FE 30FD_3099; 105C9 105D2_307; 105E4 105DA_307; 1109A 11099_110BA . 1109B_110BA
110AB 110A5_110BA; 1112E 11131_11127 11132_11127; 1134B 11347_1133E 11347_11357
11383 11382_113C9 . 11384_113BB; 1138E 1138B_113C2; 11391 11390_113C9
113C5 113C2_113C2 . 113C2_113B8 113C2_113C9; 114BB 114B9_114BA 114B9_114B0 . 114B9_114BD
115BA 115B8_115AF 115B9_115AF; 11938 11935_11930
16121 1611E_1611E 1611E_16129 1611E_1611F 16129_1611F 1611E_16120 16121_1611F 16122_1611F
16128 16121_16120; 16D68 16D67_16D67 16D63_16D67 16D69_16D67"

/-- Made of characters, and never made again of them. -/
def others : Table (List Char) := Table.read Table.characters? "
340 300 301 . 313 308_301; 374 2B9; 37E 3B; 387 B7
958 915_93C 916_93C 917_93C 91C_93C 921_93C 922_93C 92B_93C 92F_93C
9DC 9A1_9BC 9A2_9BC . 9AF_9BC; A33 A32_A3C; A36 A38_A3C; A59 A16_A3C A17_A3C A1C_A3C; A5E A2B_A3C
B5C B21_B3C B22_B3C; F43 F42_FB7; F4D F4C_FB7; F52 F51_FB7; F57 F56_FB7; F5C F5B_FB7; F69 F40_FB5
F73 F71_F72 . F71_F74 FB2_F80 . FB3_F80; F81 F71_F80; F93 F92_FB7; F9D F9C_FB7; FA2 FA1_FB7
FA7 FA6_FB7; FAC FAB_FB7; FB9 F90_FB5
1F71 3B1_301 . 3B5_301 . 3B7_301 . 3B9_301 . 3BF_301 . 3C5_301 . 3C9_301; 1FBB 391_301; 1FBE 3B9
1FC9 395_301 . 397_301; 1FD3 3B9_308_301; 1FDB 399_301; 1FE3 3C5_308_301; 1FEB 3A5_301
1FEE A8_301 60; 1FF9 39F_301 . 3A9_301 . B4; 2000 2002 2003; 2126 3A9; 212A 4B 41_30A
2329 3008 3009; 2ADC 2ADD_338
F900 8C48 66F4 8ECA 8CC8 6ED1 4E32 53E5 9F9C 9F9C 5951 91D1 5587 5948 61F6 7669 7F85 863F 87BA
F912 88F8 908F 6A02 6D1B 70D9 73DE 843D 916A 99F1 4E82 5375 6B04 721B 862D 9E1E 5D50 6FEB 85CD
F924 8964 62C9 81D8 881F 5ECA 6717 6D6A 72FC 90CE 4F86 51B7 52DE 64C4 6AD3 7210 76E7 8001 8606
F936 865C 8DEF 9732 9B6F 9DFA 788C 797F 7DA0 83C9 9304 9E7F 8AD6 58DF 5F04 7C60 807E 7262 78CA
F948 8CC2 96F7 58D8 5C62 6A13 6DDA 6F0F 7D2F 7E37 964B 52D2 808B 51DC 51CC 7A1C 7DBE 83F1 9675
F95A 8B80 62CF 6A02 8AFE 4E39 5BE7 6012 7387 7570 5317 78FB 4FBF 5FA9 4E0D 6CCC 6578 7D22 53C3
F96C 585E 7701 8449 8AAA 6BBA 8FB0 6C88 62FE 82E5 63A0 7565 4EAE 5169 51C9 6881 7CE7 826F 8AD2
F97E 91CF 52F5 5442 5973 5EEC 65C5 6FFE 792A 95AD 9A6A 9E97 9ECE 529B 66C6 6B77 8F62 5E74 6190
F990 6200 649A 6F23 7149 7489 79CA 7DF4 806F 8F26 84EE 9023 934A 5217 52A3 54BD 70C8 88C2 8AAA
F9A2 5EC9 5FF5 637B 6BAE 7C3E 7375 4EE4 56F9 5BE7 5DBA 601C 73B2 7469 7F9A 8046 9234 96F6 9748
F9B4 9818 4F8B 79AE 91B4 96B8 60E1 4E86 50DA 5BEE 5C3F 6599 6A02 71CE 7642 84FC 907C 9F8D 6688
F9C6 962E 5289 677B 67F3 6D41 6E9C 7409 7559 786B 7D10 985E 516D 622E 9678 502B 5D19 6DEA 8F2A
F9D8 5F8B 6144 6817 7387 9686 5229 540F 5C65 6613 674E 68A8 6CE5 7406 75E2 7F79 88CF 88E1 91CC
F9EA 96E2 533F 6EBA 541D 71D0 7498 85FA 96A3 9C57 9E9F 6797 6DCB 81E8 7ACB 7B20 7C92 72C0 7099
F9FC 8B58 4EC0 8336 523A 5207 5EA6 62D3 7CD6 5B85 6D1E 66B4 8F3B 884C 964D 898B 5ED3 5140 55C0
FA10 585A . 6674; FA15 51DE 732A 76CA 793C 795E 7965 798F 9756 7CBE 7FBD . 8612 . 8AF8
FA25 9038 90FD
FA2A 98EF 98FC 9928 9DB4 90DE 96B7 4FAE 50E7 514D 52C9 52E4 5351 559D 5606 5668 5840 58A8 5C64
FA3C 5C6E 6094 6168 618E 61F2 654F 65E2 6691 6885 6D77 6E1A 6F22 716E 722B 7422 7891 793E 7949
FA4E 7948 7950 7956 795D 798D 798E 7A40 7A81 7BC0 7DF4 7E09 7E41 7F72 8005 81ED 8279 8279 8457
FA60 8910 8996 8B01 8B39 8CD3 8D08 8FB6 9038 96E3 97FF 983B 6075 242EE 8218
FA70 4E26 51B5 5168 4F80 5145 5180 52C7 52FA 559D 5555 5599 55E2 585A 58B3 5944 5954 5A62 5B28
FA82 5ED2 5ED9 5F69 5FAD 60D8 614E 6108 618E 6160 61F2 6234 63C4 641C 6452 6556 6674 6717 671B
FA94 6756 6B79 6BBA 6D41 6EDB 6ECB 6F22 701E 716E 77A7 7235 72AF 732A 7471 7506 753B 761D 761F
FAA6 76CA 76DB 76F4 774A 7740 78CC 7AB1 7BC0 7C7B 7D5B 7DF4 7F3E 8005 8352 83EF 8779 8941 8986
FAB8 8996 8ABF 8AF8 8ACB 8B01 8AFE 8AED 8B39 8B8A 8D08 8F38 9072 9199 9276 967C 96E3 9756 97DB
FACA 97FF 980B 983B 9B12 9F9C 2284A 22844 233D5 3B9D 4018 4039 25249 25CD0 27ED3 9F43 9F8E
FB1D 5D9_5B4 . 5F2_5B7
FB2A 5E9_5C1 5E9_5C2 5E9_5BC_5C1 5E9_5BC_5C2 5D0_5B7 5D0_5B8 5D0_5BC 5D1_5BC 5D2_5BC 5D3_5BC
FB34 5D4_5BC 5D5_5BC 5D6_5BC . 5D8_5BC 5D9_5BC 5DA_5BC 5DB_5BC 5DC_5BC . 5DE_5BC . 5E0_5BC 5E1_5BC
FB43 5E3_5BC 5E4_5BC . 5E6_5BC 5E7_5BC 5E8_5BC 5E9_5BC 5EA_5BC 5D5_5B9 5D1_5BF 5DB_5BF 5E4_5BF
1D15E 1D157_1D165 1D158_1D165 1D158_1D165_1D16E 1D158_1D165_1D16F 1D158_1D165_1D170
1D163 1D158_1D165_1D171 1D158_1D165_1D172
1D1BB 1D1B9_1D165 1D1BA_1D165 1D1B9_1D165_1D16E 1D1BA_1D165_1D16E 1D1B9_1D165_1D16F
1D1C0 1D1BA_1D165_1D16F
2F800 4E3D 4E38 4E41 20122 4F60 4FAE 4FBB 5002 507A 5099 50E7 50CF 349E 2063A 514D 5154 5164 5177
2F812 2051C 34B9 5167 518D 2054B 5197 51A4 4ECC 51AC 51B5 291DF 51F5 5203 34DF 523B 5246 5272 5277
2F824 3515 52C7 52C9 52E4 52FA 5305 5306 5317 5349 5351 535A 5373 537D; 2F831-2F833 537F
2F834 20A2C 7070 53CA 53DF 20B63 53EB 53F1 5406 549E 5438 5448 5468 54A2 54F6 5510 5553 5563 5584
2F846 5584 5599 55AB 55B3 55C2 5716 5606 5717 5651 5674 5207 58EE 57CE 57F4 580D 578B 5832 5831
2F858 58AC 214E4 58F2 58F7 5906 591A 5922 5962 216A8 216EA 59EC 5A1B 5A27 59D8 5A66 36EE 36FC 5B08
2F86A 5B3E 5B3E 219C8 5BC3 5BD8 5BE7 5BF3 21B18 5BFF 5C06 5F53 5C22 3781 5C60 5C6E 5CC0 5C8D 21DE4
2F87C 5D43 21DE6 5D6E 5D6B 5D7C 5DE1 5DE2 382F 5DFD 5E28 5E3D 5E69 3862 22183 387C 5EB0 5EB3 5EB6
2F88E 5ECA 2A392 5EFE 22331 22331 8201 5F22 5F22 38C7 232B8 261DA 5F62 5F6B 38E3 5F9A 5FCD 5FD7
2F89F 5FF9 6081 393A 391C 6094 226D4 60C7 6148 614C 614E 614C 617A 618E 61B2 61A4 61AF 61DE 61F2
2F8B1 61F6 6210 621B 625D 62B1 62D4 6350 22B0C 633D 62FC 6368 6383 63E4 22BF1 6422 63C5 63A9 3A2E
2F8C3 6469 647E 649D 6477 3A6C 654F 656C 2300A 65E3 66F8 6649 3B19 6691 3B08 3AE4 5192 5195 6700
2F8D5 669C 80AD 43D9 6717 671B 6721 675E 6753 233C3 3B49 67FA 6785 6852 6885 2346D 688E 681F 6914
2F8E7 3B9D 6942 69A3 69EA 6AA8 236A3 6ADB 3C18 6B21 238A7 6B54 3C4E 6B72 6B9F 6BBA 6BBB 23A8D
2F8F8 21D0B 23AFA 6C4E 23CBC 6CBF 6CCD 6C67 6D16 6D3E 6D77 6D41 6D69 6D78 6D85 23D1E 6D34 6E2F
2F909 6E6E 3D33 6ECB 6EC7 23ED1 6DF9 6F6E 23F5E 23F8E 6FC6 7039 701E 701B 3D96 704A 707D 7077 70AD
2F91B 20525 7145 24263 719C 243AB 7228 7235 7250 24608 7280 7295 24735 24814 737A 738B 3EAC 73A5
2F92C 3EB8 3EB8 7447 745C 7471 7485 74CA 3F1B 7524 24C36 753E 24C92 7570 2219F 7610 24FA1 24FB8
2F93D 25044 3FFC 4008 76F4 250F3 250F2 25119 25133 771E 771F 771F 774A 4039 778B 4046 4096 2541D
2F94E 784E 788C 78CC 40E3 25626 7956 2569A 256C5 798F 79EB 412F 7A40 7A4A 7A4F 2597C 25AA7 25AA7
2F95F 7AEE 4202 25BAB 7BC6 7BC9 4227 25C80 7CD2 42A0 7CE8 7CE3 7D00 25F86 7D63 4301 7DC7 7E02 7E45
2F971 4334 26228 26247 4359 262D9 7F7A 2633E 7F95 7FFA 8005 264DA 26523 8060 265A8 8070 2335F 43D5
2F982 80B2 8103 440B 813E 5AB5 267A7 267B5 23393 2339C 8201 8204 8F9E 446B 8291 828B 829D 52B3
2F993 82B1 82B3 82BD 82E6 26B3C 82E5 831D 8363 83AD 8323 83BD 83E7 8457 8353 83CA 83CC 83DC 26C36
2F9A5 26D6B 26CD5 452B 84F1 84F3 8516 273CA 8564 26F2C 455D 4561 26FB1 270D2 456B 8650 865C 8667
2F9B6 8669 86A9 8688 870E 86E2 8779 8728 876B 8786 45D7 87E1 8801 45F9 8860 8863 27667 88D7 88DE
2F9C8 4635 88FA 34BB 278AE 27966 46BE 46C7 8AA0 8AED 8B8A 8C55 27CA8 8CAB 8CC1 8D1B 8D77 27F2F
2F9D9 20804 8DCB 8DBC 8DF0 208DE 8ED4 8F38 285D2 285ED 9094 90F1 9111 2872E 911B 9238 92D7 92D8
2F9EA 927C 93F9 9415 28BFA 958B 4995 95B7 28D77 49E6 96C3 5DB2 9723 29145 2921A 4A6E 4A76 97E0
2F9FB 2940A 4AB2 29496 980B 980B 9829 295B6 98E2 4B33 9929 99A7 99C2 99FE 4BCE 29B30 9B12 9C40
2FA0C 9CFD 4CCE 4CED 9D67 2A0CE 4CF8 2A105 2A20E 2A291 9EBB 4D56 9EF9 9EFE 9F05 9F0F 9F16 9F3B
2FA1D 2A600"

def syllableBase : Nat := 0xAC00
def leadBase : Nat := 0x1100
def vowelBase : Nat := 0x1161
/-- Stands for no final consonant. -/
def tailBase : Nat := 0x11A7

def leads : Nat := 19
def vowels : Nat := 21
def tails : Nat := 28

/-- A syllable as the one without its final consonant, or as two letters. -/
def syllableParts? (c : Char) : Option (List Char) :=
  let n := c.toNat - syllableBase
  if c.toNat < syllableBase || leads * vowels * tails ≤ n then none
  else if n % tails = 0 then
    some [Char.ofNat (leadBase + n / tails / vowels), Char.ofNat (vowelBase + n / tails % vowels)]
  else some [Char.ofNat (c.toNat - n % tails), Char.ofNat (tailBase + n % tails)]

def syllable? (a b : Char) : Option Char :=
  let a := a.toNat
  let b := b.toNat
  if leadBase ≤ a && a < leadBase + leads && vowelBase ≤ b && b < vowelBase + vowels then
    some (Char.ofNat (syllableBase + ((a - leadBase) * vowels + (b - vowelBase)) * tails))
  else if syllableBase ≤ a && a < syllableBase + leads * vowels * tails
      && (a - syllableBase) % tails = 0 && tailBase < b && b < tailBase + tails then
    some (Char.ofNat (a + (b - tailBase)))
  else none

/-- What a character is made of. -/
def parts? (c : Char) : Option (List Char) :=
  ((syllableParts? c).or (composites.find? c)).or (others.find? c)

def key (a b : Char) : Nat := a.toNat * 0x110000 + b.toNat

/-- The composites, each at the key of its parts. -/
def composed : Table Char :=
  let runs := composites.toList.filterMap fun r =>
    match r.value with
    | [a, b] => some ⟨key a b, key a b, Char.ofNat r.first⟩
    | _ => none
  (runs.mergeSort fun r s => r.first ≤ s.first).toArray

/-- The composite of two characters. -/
def join? (a b : Char) : Option Char :=
  (syllable? a b).or ((composed.search (key a b) 0 composed.size).map (·.value))

end NodeConsole.Text.Canonical
