import Std.Data.HashMap
import ContentTransport.Text.CodePoints
/-!
# Repertoire — the character data of host names

Host names are prepared with the characters that version 3.2 of the Unicode standard knew.  The tables are those of the
preparation profile: the characters that are assigned, the case folding, the characters that are dropped, the ones that
are prohibited, and the two classes of the check for right-to-left labels.
-/
namespace Transport
namespace HostName

open Text (Ranges words hexNumber pairs)

/-- The characters that version 3.2 assigns. -/
def assignedRanges : Ranges := Ranges.ofText "
  0-220 222-233 250-2ad 2b0-2ee 300-34f 360-36f 374-375 37a 37e 384-38a 38c 38e-3a1 3a3-3ce 3d0-3f6 400-486 488-4ce
  4d0-4f5 4f8-4f9 500-50f 531-556 559-55f 561-587 589-58a 591-5a1 5a3-5b9 5bb-5c4 5d0-5ea 5f0-5f4 60c 61b 61f
  621-63a 640-655 660-6ed 6f0-6fe 700-70d 70f-72c 730-74a 780-7b1 901-903 905-939 93c-94d 950-954 958-970 981-983
  985-98c 98f-990 993-9a8 9aa-9b0 9b2 9b6-9b9 9bc 9be-9c4 9c7-9c8 9cb-9cd 9d7 9dc-9dd 9df-9e3 9e6-9fa a02 a05-a0a
  a0f-a10 a13-a28 a2a-a30 a32-a33 a35-a36 a38-a39 a3c a3e-a42 a47-a48 a4b-a4d a59-a5c a5e a66-a74 a81-a83 a85-a8b
  a8d a8f-a91 a93-aa8 aaa-ab0 ab2-ab3 ab5-ab9 abc-ac5 ac7-ac9 acb-acd ad0 ae0 ae6-aef b01-b03 b05-b0c b0f-b10
  b13-b28 b2a-b30 b32-b33 b36-b39 b3c-b43 b47-b48 b4b-b4d b56-b57 b5c-b5d b5f-b61 b66-b70 b82-b83 b85-b8a b8e-b90
  b92-b95 b99-b9a b9c b9e-b9f ba3-ba4 ba8-baa bae-bb5 bb7-bb9 bbe-bc2 bc6-bc8 bca-bcd bd7 be7-bf2 c01-c03 c05-c0c
  c0e-c10 c12-c28 c2a-c33 c35-c39 c3e-c44 c46-c48 c4a-c4d c55-c56 c60-c61 c66-c6f c82-c83 c85-c8c c8e-c90 c92-ca8
  caa-cb3 cb5-cb9 cbe-cc4 cc6-cc8 cca-ccd cd5-cd6 cde ce0-ce1 ce6-cef d02-d03 d05-d0c d0e-d10 d12-d28 d2a-d39
  d3e-d43 d46-d48 d4a-d4d d57 d60-d61 d66-d6f d82-d83 d85-d96 d9a-db1 db3-dbb dbd dc0-dc6 dca dcf-dd4 dd6 dd8-ddf
  df2-df4 e01-e3a e3f-e5b e81-e82 e84 e87-e88 e8a e8d e94-e97 e99-e9f ea1-ea3 ea5 ea7 eaa-eab ead-eb9 ebb-ebd
  ec0-ec4 ec6 ec8-ecd ed0-ed9 edc-edd f00-f47 f49-f6a f71-f8b f90-f97 f99-fbc fbe-fcc fcf 1000-1021 1023-1027
  1029-102a 102c-1032 1036-1039 1040-1059 10a0-10c5 10d0-10f8 10fb 1100-1159 115f-11a2 11a8-11f9 1200-1206 1208-1246
  1248 124a-124d 1250-1256 1258 125a-125d 1260-1286 1288 128a-128d 1290-12ae 12b0 12b2-12b5 12b8-12be 12c0 12c2-12c5
  12c8-12ce 12d0-12d6 12d8-12ee 12f0-130e 1310 1312-1315 1318-131e 1320-1346 1348-135a 1361-137c 13a0-13f4 1401-1676
  1680-169c 16a0-16f0 1700-170c 170e-1714 1720-1736 1740-1753 1760-176c 176e-1770 1772-1773 1780-17dc 17e0-17e9
  1800-180e 1810-1819 1820-1877 1880-18a9 1e00-1e9b 1ea0-1ef9 1f00-1f15 1f18-1f1d 1f20-1f45 1f48-1f4d 1f50-1f57 1f59
  1f5b 1f5d 1f5f-1f7d 1f80-1fb4 1fb6-1fc4 1fc6-1fd3 1fd6-1fdb 1fdd-1fef 1ff2-1ff4 1ff6-1ffe 2000-2052 2057 205f-2063
  206a-2071 2074-208e 20a0-20b1 20d0-20ea 2100-213a 213d-214b 2153-2183 2190-23ce 2400-2426 2440-244a 2460-24fe
  2500-2613 2616-2617 2619-267d 2680-2689 2701-2704 2706-2709 270c-2727 2729-274b 274d 274f-2752 2756 2758-275e
  2761-2794 2798-27af 27b1-27be 27d0-27eb 27f0-2aff 2e80-2e99 2e9b-2ef3 2f00-2fd5 2ff0-2ffb 3000-303f 3041-3096
  3099-30ff 3105-312c 3131-318e 3190-31b7 31f0-321c 3220-3243 3251-327b 327f-32cb 32d0-32fe 3300-3376 337b-33dd
  33e0-33fe 3400-4db5 4e00-9fa5 a000-a48c a490-a4c6 ac00-d7a3 e000-fa2d fa30-fa6a fb00-fb06 fb13-fb17 fb1d-fb36
  fb38-fb3c fb3e fb40-fb41 fb43-fb44 fb46-fbb1 fbd3-fd3f fd50-fd8f fd92-fdc7 fdf0-fdfc fe00-fe0f fe20-fe23 fe30-fe46
  fe49-fe52 fe54-fe66 fe68-fe6b fe70-fe74 fe76-fefc feff ff01-ffbe ffc2-ffc7 ffca-ffcf ffd2-ffd7 ffda-ffdc ffe0-ffe6
  ffe8-ffee fff9-fffd 10300-1031e 10320-10323 10330-1034a 10400-10425 10428-1044d 1d000-1d0f5 1d100-1d126
  1d12a-1d1dd 1d400-1d454 1d456-1d49c 1d49e-1d49f 1d4a2 1d4a5-1d4a6 1d4a9-1d4ac 1d4ae-1d4b9 1d4bb 1d4bd-1d4c0
  1d4c2-1d4c3 1d4c5-1d505 1d507-1d50a 1d50d-1d514 1d516-1d51c 1d51e-1d539 1d53b-1d53e 1d540-1d544 1d546 1d54a-1d550
  1d552-1d6a3 1d6a8-1d7c9 1d7ce-1d7ff 20000-2a6d6 2f800-2fa1d e0001 e0020-e007f f0000-ffffd 100000-10fffd"

/-- The characters that the folding maps to something else than their lower-case form. -/
def foldings : Std.HashMap Nat (List Nat) := Std.HashMap.ofList (pairs "
  b5= 3bc df= 73.73 149= 2bc.6e 17f= 73 1f0= 6a.30c 345= 3b9 37a= 20.3b9 390= 3b9.308.301 3b0= 3c5.308.301 3c2= 3c3
  3d0= 3b2 3b8 3c5 3cd 3cb 3c6 3c0 3f0= 3ba 3c1 3c3 3f5= 3b5 587= 565.582 1e96= 68.331 74.308 77.30a 79.30a 61.2be
  1e61 1f50= 3c5.313 1f52= 3c5.313.300 1f54= 3c5.313.301 1f56= 3c5.313.342 1f80= 1f00.3b9 1f01.3b9 1f02.3b9 1f03.3b9
  1f04.3b9 1f05.3b9 1f06.3b9 1f07.3b9 1f00.3b9 1f01.3b9 1f02.3b9 1f03.3b9 1f04.3b9 1f05.3b9 1f06.3b9 1f07.3b9
  1f20.3b9 1f21.3b9 1f22.3b9 1f23.3b9 1f24.3b9 1f25.3b9 1f26.3b9 1f27.3b9 1f20.3b9 1f21.3b9 1f22.3b9 1f23.3b9
  1f24.3b9 1f25.3b9 1f26.3b9 1f27.3b9 1f60.3b9 1f61.3b9 1f62.3b9 1f63.3b9 1f64.3b9 1f65.3b9 1f66.3b9 1f67.3b9
  1f60.3b9 1f61.3b9 1f62.3b9 1f63.3b9 1f64.3b9 1f65.3b9 1f66.3b9 1f67.3b9 1fb2= 1f70.3b9 3b1.3b9 3ac.3b9 1fb6=
  3b1.342 3b1.342.3b9 1fbc= 3b1.3b9 1fbe= 3b9 1fc2= 1f74.3b9 3b7.3b9 3ae.3b9 1fc6= 3b7.342 3b7.342.3b9 1fcc= 3b7.3b9
  1fd2= 3b9.308.300 3b9.308.301 1fd6= 3b9.342 3b9.308.342 1fe2= 3c5.308.300 3c5.308.301 3c1.313 1fe6= 3c5.342
  3c5.308.342 1ff2= 1f7c.3b9 3c9.3b9 3ce.3b9 1ff6= 3c9.342 3c9.342.3b9 1ffc= 3c9.3b9 20a8= 72.73 2102= 63 b0.63
  2107= 25b 2109= b0.66 210b= 68 68 68 2110= 69 69 6c 2115= 6e 6e.6f 2119= 70 71 72 72 72 2120= 73.6d 74.65.6c 74.6d
  2124= 7a 2128= 7a 212c= 62 63 2130= 65 66 2133= 6d 213e= 3b3 3c0 2145= 64 3371= 68.70.61 3373= 61.75 3375= 6f.76
  3380= 70.61 6e.61 3bc.61 6d.61 6b.61 6b.62 6d.62 67.62 338a= 70.66 6e.66 3bc.66 3390= 68.7a 6b.68.7a 6d.68.7a
  67.68.7a 74.68.7a 33a9= 70.61 6b.70.61 6d.70.61 67.70.61 33b4= 70.76 6e.76 3bc.76 6d.76 6b.76 6d.76 70.77 6e.77
  3bc.77 6d.77 6b.77 6d.77 6b.3c9 6d.3c9 33c3= 62.71 33c6= 63.2215.6b.67 63.6f.2e 64.62 67.79 33cb= 68.70 33cd=
  6b.6b 6b.6d 33d7= 70.68 33d9= 70.70.6d 70.72 33dc= 73.76 77.62 fb00= 66.66 66.69 66.6c 66.66.69 66.66.6c 73.74
  73.74 fb13= 574.576 574.565 574.56b 57e.576 574.56d 1d400= 61 62 63 64 65 66 67 68 69 6a 6b 6c 6d 6e 6f 70 71 72
  73 74 75 76 77 78 79 7a 1d434= 61 62 63 64 65 66 67 68 69 6a 6b 6c 6d 6e 6f 70 71 72 73 74 75 76 77 78 79 7a
  1d468= 61 62 63 64 65 66 67 68 69 6a 6b 6c 6d 6e 6f 70 71 72 73 74 75 76 77 78 79 7a 1d49c= 61 1d49e= 63 64 1d4a2=
  67 1d4a5= 6a 6b 1d4a9= 6e 6f 70 71 1d4ae= 73 74 75 76 77 78 79 7a 1d4d0= 61 62 63 64 65 66 67 68 69 6a 6b 6c 6d 6e
  6f 70 71 72 73 74 75 76 77 78 79 7a 1d504= 61 62 1d507= 64 65 66 67 1d50d= 6a 6b 6c 6d 6e 6f 70 71 1d516= 73 74 75
  76 77 78 79 1d538= 61 62 1d53b= 64 65 66 67 1d540= 69 6a 6b 6c 6d 1d546= 6f 1d54a= 73 74 75 76 77 78 79 1d56c= 61
  62 63 64 65 66 67 68 69 6a 6b 6c 6d 6e 6f 70 71 72 73 74 75 76 77 78 79 7a 1d5a0= 61 62 63 64 65 66 67 68 69 6a 6b
  6c 6d 6e 6f 70 71 72 73 74 75 76 77 78 79 7a 1d5d4= 61 62 63 64 65 66 67 68 69 6a 6b 6c 6d 6e 6f 70 71 72 73 74 75
  76 77 78 79 7a 1d608= 61 62 63 64 65 66 67 68 69 6a 6b 6c 6d 6e 6f 70 71 72 73 74 75 76 77 78 79 7a 1d63c= 61 62
  63 64 65 66 67 68 69 6a 6b 6c 6d 6e 6f 70 71 72 73 74 75 76 77 78 79 7a 1d670= 61 62 63 64 65 66 67 68 69 6a 6b 6c
  6d 6e 6f 70 71 72 73 74 75 76 77 78 79 7a 1d6a8= 3b1 3b2 3b3 3b4 3b5 3b6 3b7 3b8 3b9 3ba 3bb 3bc 3bd 3be 3bf 3c0
  3c1 3b8 3c3 3c4 3c5 3c6 3c7 3c8 3c9 1d6d3= 3c3 1d6e2= 3b1 3b2 3b3 3b4 3b5 3b6 3b7 3b8 3b9 3ba 3bb 3bc 3bd 3be 3bf
  3c0 3c1 3b8 3c3 3c4 3c5 3c6 3c7 3c8 3c9 1d70d= 3c3 1d71c= 3b1 3b2 3b3 3b4 3b5 3b6 3b7 3b8 3b9 3ba 3bb 3bc 3bd 3be
  3bf 3c0 3c1 3b8 3c3 3c4 3c5 3c6 3c7 3c8 3c9 1d747= 3c3 1d756= 3b1 3b2 3b3 3b4 3b5 3b6 3b7 3b8 3b9 3ba 3bb 3bc 3bd
  3be 3bf 3c0 3c1 3b8 3c3 3c4 3c5 3c6 3c7 3c8 3c9 1d781= 3c3 1d790= 3b1 3b2 3b3 3b4 3b5 3b6 3b7 3b8 3b9 3ba 3bb 3bc
  3bd 3be 3bf 3c0 3c1 3b8 3c3 3c4 3c5 3c6 3c7 3c8 3c9 1d7bb= 3c3")

/-- Characters without a width, which the preparation drops. -/
def droppedRanges : Ranges :=
  [(0xad, 0xad), (0x34f, 0x34f), (0x1806, 0x1806), (0x180b, 0x180d), (0x200b, 0x200d), (0x2060, 0x2060),
    (0xfe00, 0xfe0f), (0xfeff, 0xfeff)]

/-- Spaces, controls, and characters for private use, without a meaning, or unfit for a name. -/
def prohibitedRanges : Ranges := Ranges.ofText "
  80-a0 340-341 6dd 70f 1680 180e 2000-200f 2028-202f 205f-2063 206a-206f 2ff0-2ffb 3000 e000-f8ff fdd0-fdef feff
  fff9-ffff 1d173-1d17a 1fffe-1ffff 2fffe-2ffff 3fffe-3ffff 4fffe-4ffff 5fffe-5ffff 6fffe-6ffff 7fffe-7ffff
  8fffe-8ffff 9fffe-9ffff afffe-affff bfffe-bffff cfffe-cffff dfffe-dffff e0001 e0020-e007f efffe-10ffff"

/-- Letters that are written from right to left. -/
def rightToLeftRanges : Ranges := Ranges.ofText "
  5be 5c0 5c3 5d0-5ea 5f0-5f4 61b 61f 621-63a 640-64a 66d-66f 671-6d5 6dd 6e5-6e6 6fa-6fe 700-70d 710 712-72c
  780-7a5 7b1 200f fb1d fb1f-fb28 fb2a-fb36 fb38-fb3c fb3e fb40-fb41 fb43-fb44 fb46-fbb1 fbd3-fd3d fd50-fd8f
  fd92-fdc7 fdf0-fdfc fe70-fe74 fe76-fefc"

/-- Letters that are written from left to right. -/
def leftToRightRanges : Ranges := Ranges.ofText "
  41-5a 61-7a aa b5 ba c0-d6 d8-f6 f8-220 222-233 250-2ad 2b0-2b8 2bb-2c1 2d0-2d1 2e0-2e4 2ee 37a 386 388-38a 38c
  38e-3a1 3a3-3ce 3d0-3f5 400-482 48a-4ce 4d0-4f5 4f8-4f9 500-50f 531-556 559-55f 561-587 589 903 905-939 93d-940
  949-94c 950 958-961 964-970 982-983 985-98c 98f-990 993-9a8 9aa-9b0 9b2 9b6-9b9 9be-9c0 9c7-9c8 9cb-9cc 9d7
  9dc-9dd 9df-9e1 9e6-9f1 9f4-9fa a05-a0a a0f-a10 a13-a28 a2a-a30 a32-a33 a35-a36 a38-a39 a3e-a40 a59-a5c a5e
  a66-a6f a72-a74 a83 a85-a8b a8d a8f-a91 a93-aa8 aaa-ab0 ab2-ab3 ab5-ab9 abd-ac0 ac9 acb-acc ad0 ae0 ae6-aef
  b02-b03 b05-b0c b0f-b10 b13-b28 b2a-b30 b32-b33 b36-b39 b3d-b3e b40 b47-b48 b4b-b4c b57 b5c-b5d b5f-b61 b66-b70
  b83 b85-b8a b8e-b90 b92-b95 b99-b9a b9c b9e-b9f ba3-ba4 ba8-baa bae-bb5 bb7-bb9 bbe-bbf bc1-bc2 bc6-bc8 bca-bcc
  bd7 be7-bf2 c01-c03 c05-c0c c0e-c10 c12-c28 c2a-c33 c35-c39 c41-c44 c60-c61 c66-c6f c82-c83 c85-c8c c8e-c90
  c92-ca8 caa-cb3 cb5-cb9 cbe cc0-cc4 cc7-cc8 cca-ccb cd5-cd6 cde ce0-ce1 ce6-cef d02-d03 d05-d0c d0e-d10 d12-d28
  d2a-d39 d3e-d40 d46-d48 d4a-d4c d57 d60-d61 d66-d6f d82-d83 d85-d96 d9a-db1 db3-dbb dbd dc0-dc6 dcf-dd1 dd8-ddf
  df2-df4 e01-e30 e32-e33 e40-e46 e4f-e5b e81-e82 e84 e87-e88 e8a e8d e94-e97 e99-e9f ea1-ea3 ea5 ea7 eaa-eab
  ead-eb0 eb2-eb3 ebd ec0-ec4 ec6 ed0-ed9 edc-edd f00-f17 f1a-f34 f36 f38 f3e-f47 f49-f6a f7f f85 f88-f8b fbe-fc5
  fc7-fcc fcf 1000-1021 1023-1027 1029-102a 102c 1031 1038 1040-1057 10a0-10c5 10d0-10f8 10fb 1100-1159 115f-11a2
  11a8-11f9 1200-1206 1208-1246 1248 124a-124d 1250-1256 1258 125a-125d 1260-1286 1288 128a-128d 1290-12ae 12b0
  12b2-12b5 12b8-12be 12c0 12c2-12c5 12c8-12ce 12d0-12d6 12d8-12ee 12f0-130e 1310 1312-1315 1318-131e 1320-1346
  1348-135a 1361-137c 13a0-13f4 1401-1676 1681-169a 16a0-16f0 1700-170c 170e-1711 1720-1731 1735-1736 1740-1751
  1760-176c 176e-1770 1780-17b6 17be-17c5 17c7-17c8 17d4-17da 17dc 17e0-17e9 1810-1819 1820-1877 1880-18a8 1e00-1e9b
  1ea0-1ef9 1f00-1f15 1f18-1f1d 1f20-1f45 1f48-1f4d 1f50-1f57 1f59 1f5b 1f5d 1f5f-1f7d 1f80-1fb4 1fb6-1fbc 1fbe
  1fc2-1fc4 1fc6-1fcc 1fd0-1fd3 1fd6-1fdb 1fe0-1fec 1ff2-1ff4 1ff6-1ffc 200e 2071 207f 2102 2107 210a-2113 2115
  2119-211d 2124 2126 2128 212a-212d 212f-2131 2133-2139 213d-213f 2145-2149 2160-2183 2336-237a 2395 249c-24e9
  3005-3007 3021-3029 3031-3035 3038-303c 3041-3096 309d-309f 30a1-30fa 30fc-30ff 3105-312c 3131-318e 3190-31b7
  31f0-321c 3220-3243 3260-327b 327f-32b0 32c0-32cb 32d0-32fe 3300-3376 337b-33dd 33e0-33fe 3400-4db5 4e00-9fa5
  a000-a48c ac00-d7a3 e000-fa2d fa30-fa6a fb00-fb06 fb13-fb17 ff21-ff3a ff41-ff5a ff66-ffbe ffc2-ffc7 ffca-ffcf
  ffd2-ffd7 ffda-ffdc 10300-1031e 10320-10323 10330-1034a 10400-10425 10428-1044d 1d000-1d0f5 1d100-1d126
  1d12a-1d166 1d16a-1d172 1d183-1d184 1d18c-1d1a9 1d1ae-1d1dd 1d400-1d454 1d456-1d49c 1d49e-1d49f 1d4a2 1d4a5-1d4a6
  1d4a9-1d4ac 1d4ae-1d4b9 1d4bb 1d4bd-1d4c0 1d4c2-1d4c3 1d4c5-1d505 1d507-1d50a 1d50d-1d514 1d516-1d51c 1d51e-1d539
  1d53b-1d53e 1d540-1d544 1d546 1d54a-1d550 1d552-1d6a3 1d6a8-1d7c9 20000-2a6d6 2f800-2fa1d f0000-ffffd
  100000-10fffd"

/-- Five ideographs whose decomposition was corrected after version 3.2. -/
def corrected? (n : Nat) : Option Nat :=
  match n with
  | 0x2f868 => some 0x2136a
  | 0x2f874 => some 0x5f33
  | 0x2f91f => some 0x43ab
  | 0x2f95f => some 0x7aae
  | 0x2f9bf => some 0x4d57
  | _ => none

end HostName
end Transport
