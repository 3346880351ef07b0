/-! Properties of the characters beyond ASCII that a name may hold after mapping, from version 17 of
the Unicode character database. Ranges and runs may cover characters that no name holds. -/
namespace AccessCatalog.Web.Name

/-- Ranges of the combining marks. -/
def marksText : String := "
300 36f,483 489,591 5bd,5bf 5bf,5c1 5c2,5c4 5c5,5c7 5c7,610 61a,64b 65f,670 670,6d6 6dc,6df 6e4
6e7 6e8,6ea 6ed,711 711,730 74a,7a6 7b0,7eb 7f3,7fd 7fd,816 819,81b 823,825 827,829 82d,859 85b
897 89f,8ca 903,93a 93c,93e 94f,951 957,962 963,981 983,9bc 9bc,9be 9cd,9d7 9d7,9e2 9e3,9fe a03
a3c a51,a70 a71,a75 a75,a81 a83,abc abc,abe acd,ae2 ae3,afa b03,b3c b3c,b3e b57,b62 b63,b82 b82
bbe bcd,bd7 bd7,c00 c04,c3c c3c,c3e c56,c62 c63,c81 c83,cbc cbc,cbe cd6,ce2 ce3,cf3 d03,d3b d3c
d3e d4d,d57 d57,d62 d63,d81 d83,dca ddf,df2 df3,e31 e31,e34 e3a,e47 e4e,eb1 eb1,eb4 ebc,ec8 ece
f18 f19,f35 f35,f37 f37,f39 f39,f3e f3f,f71 f84,f86 f87,f8d fbc,fc6 fc6,102b 103e,1056 1059
105e 1060,1062 1064,1067 106d,1071 1074,1082 108d,108f 108f,109a 109d,135d 135f,1712 1715
1732 1734,1752 1753,1772 1773,17b6 17d3,17dd 17dd,1885 1886,18a9 18a9,1920 193b,1a17 1a1b
1a55 1a7f,1ab0 1b04,1b34 1b44,1b6b 1b73,1b80 1b82,1ba1 1bad,1be6 1bf3,1c24 1c37,1cd0 1cd2
1cd4 1ce8,1ced 1ced,1cf4 1cf4,1cf7 1cf9,1dc0 1dff,20d0 20f0,2cef 2cf1,2d7f 2d7f,2de0 2dff
302a 302f,3099 309a,a66f a672,a674 a67d,a69e a69f,a6f0 a6f1,a802 a802,a806 a806,a80b a80b
a823 a827,a82c a82c,a880 a881,a8b4 a8c5,a8e0 a8f1,a8ff a8ff,a926 a92d,a947 a953,a980 a983
a9b3 a9c0,a9e5 a9e5,aa29 aa36,aa43 aa43,aa4c aa4d,aa7b aa7d,aab0 aab0,aab2 aab4,aab7 aab8
aabe aabf,aac1 aac1,aaeb aaef,aaf5 aaf6,abe3 abea,abec abed,fb1e fb1e,fe20 fe2f,101fd 101fd
102e0 102e0,10376 1037a,10a01 10a0f,10a38 10a3f,10ae5 10ae6,10d24 10d27,10d69 10d6d,10eab 10eac
10efa 10eff,10f46 10f50,10f82 10f85,11000 11002,11038 11046,11070 11070,11073 11074,1107f 11082
110b0 110ba,110c2 110c2,11100 11102,11127 11134,11145 11146,11173 11173,11180 11182,111b3 111c0
111c9 111cc,111ce 111cf,1122c 11237,1123e 1123e,11241 11241,112df 112ea,11300 11303,1133b 1133c
1133e 1134d,11357 11357,11362 11374,113b8 113d0,113d2 113d2,113e1 113e2,11435 11446,1145e 1145e
114b0 114c3,115af 115c0,115dc 115dd,11630 11640,116ab 116b7,1171d 1172b,1182c 1183a,11930 1193e
11940 11940,11942 11943,119d1 119e0,119e4 119e4,11a01 11a0a,11a33 11a39,11a3b 11a3e,11a47 11a47
11a51 11a5b,11a8a 11a99,11b60 11b67,11c2f 11c3f,11c92 11cb6,11d31 11d45,11d47 11d47,11d8a 11d97
11ef3 11ef6,11f00 11f01,11f03 11f03,11f34 11f42,11f5a 11f5a,13440 13440,13447 13455,1611e 1612f
16af0 16af4,16b30 16b36,16f4f 16f4f,16f51 16f92,16fe4 16ff1,1bc9d 1bc9e,1cf00 1cf46,1d165 1d169
1d16d 1d182,1d185 1d18b,1d1aa 1d1ad,1d242 1d244,1da00 1da36,1da3b 1da6c,1da75 1da75,1da84 1da84
1da9b 1daaf,1e000 1e08f,1e130 1e136,1e2ae 1e2ae,1e2ec 1e2ef,1e4ec 1e4ef,1e5ee 1e5ef,1e6e3 1e6e3
1e6e6 1e6e6,1e6ee 1e6ef,1e6f5 1e6f5,1e8d0 1e8d6,1e944 1e94a
"

/-- Rows of a character and the canonical combining class from it to the next row. -/
def combiningText : String := "
a1 0,300 e6,315 e8,316 dc,31a e8,31b d8,31c dc,321 ca,323 dc,327 ca,329 dc,334 1,339 dc,33d e6
347 dc,34a e6,34d dc,350 e6,353 dc,357 e6,358 e8,359 dc,35b e6,35c e9,35d ea,35f e9,360 ea,362 e9
363 e6,371 0,483 e6,488 0,591 dc,592 e6,596 dc,597 e6,59a de,59b dc,59c e6,5a2 dc,5a8 e6,5aa dc
5ab e6,5ad de,5ae e4,5af e6,5b0 a,5b1 b,5b2 c,5b3 d,5b4 e,5b5 f,5b6 10,5b7 11,5b8 12,5b9 13,5bb 14
5bc 15,5bd 16,5be 0,5bf 17,5c0 0,5c1 18,5c2 19,5c3 0,5c4 e6,5c5 dc,5c6 0,5c7 12,5d0 0,610 e6
618 1e,619 1f,61a 20,61b 0,64b 1b,64c 1c,64d 1d,64e 1e,64f 1f,650 20,651 21,652 22,653 e6,655 dc
657 e6,65c dc,65d e6,65f dc,660 0,670 23,671 0,6d6 e6,6de 0,6df e6,6e3 dc,6e4 e6,6e5 0,6e7 e6
6e9 0,6ea dc,6eb e6,6ed dc,6ee 0,711 24,712 0,730 e6,731 dc,732 e6,734 dc,735 e6,737 dc,73a e6
73b dc,73d e6,73e dc,73f e6,742 dc,743 e6,744 dc,745 e6,746 dc,747 e6,748 dc,749 e6,74d 0,7eb e6
7f2 dc,7f3 e6,7f4 0,7fd dc,7fe 0,816 e6,81a 0,81b e6,824 0,825 e6,828 0,829 e6,830 0,859 dc,85e 0
897 e6,899 dc,89c e6,8a0 0,8ca e6,8cf dc,8d4 e6,8e3 dc,8e4 e6,8e6 dc,8e7 e6,8e9 dc,8ea e6,8ed dc
8f0 1b,8f1 1c,8f2 1d,8f3 e6,8f6 dc,8f7 e6,8f9 dc,8fb e6,900 0,93c 7,93d 0,94d 9,94e 0,951 e6
952 dc,953 e6,955 0,9bc 7,9bd 0,9cd 9,9ce 0,9fe e6,a01 0,a3c 7,a3e 0,a4d 9,a51 0,abc 7,abd 0,acd 9
ad0 0,b3c 7,b3d 0,b4d 9,b55 0,bcd 9,bd0 0,c3c 7,c3d 0,c4d 9,c55 54,c56 5b,c58 0,cbc 7,cbd 0,ccd 9
cd5 0,d3b 9,d3d 0,d4d 9,d4e 0,dca 9,dcf 0,e38 67,e3a 9,e3f 0,e48 6b,e4c 0,eb8 76,eba 9,ebb 0
ec8 7a,ecc 0,f18 dc,f1a 0,f35 dc,f36 0,f37 dc,f38 0,f39 d8,f3a 0,f71 81,f72 82,f74 84,f7a 82,f7e 0
f80 82,f82 e6,f84 9,f85 0,f86 e6,f88 0,fc6 dc,fc7 0,1037 7,1038 0,1039 9,103b 0,108d dc,108e 0
135d e6,1360 0,1714 9,171f 0,1734 9,1735 0,17d2 9,17d3 0,17dd e6,17e0 0,18a9 e4,18aa 0,1939 de
193a e6,193b dc,1940 0,1a17 e6,1a18 dc,1a19 0,1a60 9,1a61 0,1a75 e6,1a7f dc,1a80 0,1ab0 e6,1ab5 dc
1abb e6,1abd dc,1abe 0,1abf dc,1ac1 e6,1ac3 dc,1ac5 e6,1aca dc,1acb e6,1add dc,1ae0 e6,1ae6 dc
1ae7 e6,1aeb ea,1b00 0,1b34 7,1b35 0,1b44 9,1b45 0,1b6b e6,1b6c dc,1b6d e6,1b74 0,1baa 9,1bac 0
1be6 7,1be7 0,1bf2 9,1bfc 0,1c37 7,1c3b 0,1cd0 e6,1cd3 0,1cd4 1,1cd5 dc,1cda e6,1cdc dc,1ce0 e6
1ce1 0,1ce2 1,1ce9 0,1ced dc,1cee 0,1cf4 e6,1cf5 0,1cf8 e6,1cfa 0,1dc0 e6,1dc2 dc,1dc3 e6,1dca dc
1dcb e6,1dcd ea,1dce d6,1dcf dc,1dd0 ca,1dd1 e6,1df6 e8,1df7 e4,1df9 dc,1dfa da,1dfb e6,1dfc e9
1dfd dc,1dfe e6,1dff dc,1e01 0,20d0 e6,20d2 1,20d4 e6,20d8 1,20db e6,20dd 0,20e1 e6,20e2 0,20e5 1
20e7 e6,20e8 dc,20e9 e6,20ea 1,20ec dc,20f0 e6,2104 0,2cef e6,2cf3 0,2d7f 9,2d80 0,2de0 e6,2e00 0
302a da,302b e4,302c e8,302d de,302e e0,3030 0,3099 8,309d 0,a66f e6,a670 0,a674 e6,a67e 0,a69e e6
a6a0 0,a6f0 e6,a6f2 0,a806 9,a807 0,a82c 9,a830 0,a8c4 9,a8c5 0,a8e0 e6,a8f2 0,a92b dc,a92e 0
a953 9,a95f 0,a9b3 7,a9b4 0,a9c0 9,a9c1 0,aab0 e6,aab1 0,aab2 e6,aab4 dc,aab5 0,aab7 e6,aab9 0
aabe e6,aac0 0,aac1 e6,aac2 0,aaf6 9,ab01 0,abed 9,abf0 0,fb1e 1a,fbb2 0,fe20 e6,fe27 dc,fe2e e6
fe45 0,101fd dc,10280 0,102e0 dc,102e1 0,10376 e6,10380 0,10a0d dc,10a0e 0,10a0f e6,10a10 0
10a38 e6,10a39 1,10a3a dc,10a3f 9,10a40 0,10ae5 e6,10ae6 dc,10aeb 0,10d24 e6,10d30 0,10d69 e6
10d6e 0,10eab e6,10ead 0,10efa dc,10efc 0,10efd dc,10f00 0,10f46 dc,10f48 e6,10f4b dc,10f4c e6
10f4d dc,10f51 0,10f82 e6,10f83 dc,10f84 e6,10f85 dc,10f86 0,11046 9,11047 0,11070 9,11071 0
1107f 9,11080 0,110b9 9,110ba 7,110bb 0,11100 e6,11103 0,11133 9,11136 0,11173 7,11174 0,111c0 9
111c1 0,111ca 7,111cb 0,11235 9,11236 7,11237 0,112e9 7,112ea 9,112f0 0,1133b 7,1133d 0,1134d 9
11350 0,11366 e6,11380 0,113ce 9,113d1 0,11442 9,11443 0,11446 7,11447 0,1145e e6,1145f 0,114c2 9
114c3 7,114c4 0,115bf 9,115c0 7,115c1 0,1163f 9,11640 0,116b6 9,116b7 7,116b8 0,1172b 9,11730 0
11839 9,1183a 7,1183b 0,1193d 9,1193f 0,11943 7,11944 0,119e0 9,119e1 0,11a34 9,11a35 0,11a47 9
11a50 0,11a99 9,11a9a 0,11c3f 9,11c40 0,11d42 7,11d43 0,11d44 9,11d46 0,11d97 9,11d98 0,11f41 9
11f43 0,1612f 9,16130 0,16af0 1,16af5 0,16b30 e6,16b37 0,16ff0 6,16ff2 0,1bc9e 1,1bc9f 0,1d165 d8
1d167 1,1d16a 0,1d16d e2,1d16e d8,1d17b dc,1d183 0,1d185 e6,1d18a dc,1d18c 0,1d1aa e6,1d1ae 0
1d242 e6,1d245 0,1e000 e6,1e100 0,1e130 e6,1e137 0,1e2ae e6,1e2c0 0,1e2ec e6,1e2f0 0,1e4ec e8
1e4ee dc,1e4ef e6,1e4f0 0,1e5ee e6,1e5ef dc,1e5f0 0,1e6e3 e6,1e6e4 0,1e6e6 e6,1e6e7 0,1e6ee e6
1e6f0 0,1e6f5 e6,1e6fe 0,1e8d0 dc,1e922 0,1e944 e6,1e94a 7,1e94b 0
"

/-- Rows of a composed character and its two parts. Where the first part is composed too, its own
row comes later. -/
def pairsText : String := "
1d6 fc 304,1d8 fc 301,1da fc 30c,1dc fc 300,1df e4 304,1e1 227 304,1ed 1eb 304,1fb e5 301
22b f6 304,22d f5 304,231 22f 304,390 3ca 301,3b0 3cb 301,ccb cca cd5,ddd ddc dca,1e09 e7 301
1e15 113 300,1e17 113 301,1e1d 229 306,1e2f ef 301,1e39 1e37 304,1e4d f5 301,1e4f f5 308
1e51 14d 300,1e53 14d 301,1e5d 1e5b 304,1e65 15b 307,1e67 161 307,1e69 1e63 307,1e79 169 301
1e7b 16b 308,1ea5 e2 301,1ea7 e2 300,1ea9 e2 309,1eab e2 303,1ead 1ea1 302,1eaf 103 301
1eb1 103 300,1eb3 103 309,1eb5 103 303,1eb7 1ea1 306,1ebf ea 301,1ec1 ea 300,1ec3 ea 309
1ec5 ea 303,1ec7 1eb9 302,1ed1 f4 301,1ed3 f4 300,1ed5 f4 309,1ed7 f4 303,1ed9 1ecd 302
1edb 1a1 301,1edd 1a1 300,1edf 1a1 309,1ee1 1a1 303,1ee3 1a1 323,1ee9 1b0 301,1eeb 1b0 300
1eed 1b0 309,1eef 1b0 303,1ef1 1b0 323,1f02 1f00 300,1f03 1f01 300,1f04 1f00 301,1f05 1f01 301
1f06 1f00 342,1f07 1f01 342,1f12 1f10 300,1f13 1f11 300,1f14 1f10 301,1f15 1f11 301,1f22 1f20 300
1f23 1f21 300,1f24 1f20 301,1f25 1f21 301,1f26 1f20 342,1f27 1f21 342,1f32 1f30 300,1f33 1f31 300
1f34 1f30 301,1f35 1f31 301,1f36 1f30 342,1f37 1f31 342,1f42 1f40 300,1f43 1f41 300,1f44 1f40 301
1f45 1f41 301,1f52 1f50 300,1f53 1f51 300,1f54 1f50 301,1f55 1f51 301,1f56 1f50 342,1f57 1f51 342
1f62 1f60 300,1f63 1f61 300,1f64 1f60 301,1f65 1f61 301,1f66 1f60 342,1f67 1f61 342,1fd2 3ca 300
1fd7 3ca 342,1fe2 3cb 300,1fe7 3cb 342,16126 16121 1611f,16127 16122 1611f,16128 16121 16120
16d6a 16d69 16d67,e0 61 300,e1 61 301,e2 61 302,e3 61 303,e4 61 308,e5 61 30a,e7 63 327,e8 65 300
e9 65 301,ea 65 302,eb 65 308,ec 69 300,ed 69 301,ee 69 302,ef 69 308,f1 6e 303,f2 6f 300
f3 6f 301,f4 6f 302,f5 6f 303,f6 6f 308,f9 75 300,fa 75 301,fb 75 302,fc 75 308,fd 79 301
ff 79 308,101 61 304,103 61 306,105 61 328,107 63 301,109 63 302,10b 63 307,10d 63 30c,10f 64 30c
113 65 304,115 65 306,117 65 307,119 65 328,11b 65 30c,11d 67 302,11f 67 306,121 67 307,123 67 327
125 68 302,129 69 303,12b 69 304,12d 69 306,12f 69 328,135 6a 302,137 6b 327,13a 6c 301,13c 6c 327
13e 6c 30c,144 6e 301,146 6e 327,148 6e 30c,14d 6f 304,14f 6f 306,151 6f 30b,155 72 301,157 72 327
159 72 30c,15b 73 301,15d 73 302,15f 73 327,161 73 30c,163 74 327,165 74 30c,169 75 303,16b 75 304
16d 75 306,16f 75 30a,171 75 30b,173 75 328,175 77 302,177 79 302,17a 7a 301,17c 7a 307,17e 7a 30c
1a1 6f 31b,1b0 75 31b,1ce 61 30c,1d0 69 30c,1d2 6f 30c,1d4 75 30c,1e3 e6 304,1e7 67 30c,1e9 6b 30c
1eb 6f 328,1ef 292 30c,1f0 6a 30c,1f5 67 301,1f9 6e 300,1fd e6 301,1ff f8 301,201 61 30f
203 61 311,205 65 30f,207 65 311,209 69 30f,20b 69 311,20d 6f 30f,20f 6f 311,211 72 30f,213 72 311
215 75 30f,217 75 311,219 73 326,21b 74 326,21f 68 30c,227 61 307,229 65 327,22f 6f 307,233 79 304
3ac 3b1 301,3ad 3b5 301,3ae 3b7 301,3af 3b9 301,3ca 3b9 308,3cb 3c5 308,3cc 3bf 301,3cd 3c5 301
3ce 3c9 301,439 438 306,450 435 300,451 435 308,453 433 301,457 456 308,45c 43a 301,45d 438 300
45e 443 306,477 475 30f,4c2 436 306,4d1 430 306,4d3 430 308,4d7 435 306,4db 4d9 308,4dd 436 308
4df 437 308,4e3 438 304,4e5 438 308,4e7 43e 308,4eb 4e9 308,4ed 44d 308,4ef 443 304,4f1 443 308
4f3 443 30b,4f5 447 308,4f9 44b 308,622 627 653,623 627 654,624 648 654,625 627 655,626 64a 654
6c0 6d5 654,6c2 6c1 654,6d3 6d2 654,929 928 93c,931 930 93c,934 933 93c,9cb 9c7 9be,9cc 9c7 9d7
b48 b47 b56,b4b b47 b3e,b4c b47 b57,b94 b92 bd7,bca bc6 bbe,bcb bc7 bbe,bcc bc6 bd7,c48 c46 c56
cc0 cbf cd5,cc7 cc6 cd5,cc8 cc6 cd6,cca cc6 cc2,d4a d46 d3e,d4b d47 d3e,d4c d46 d57,dda dd9 dca
ddc dd9 dcf,dde dd9 ddf,1026 1025 102e,1b06 1b05 1b35,1b08 1b07 1b35,1b0a 1b09 1b35,1b0c 1b0b 1b35
1b0e 1b0d 1b35,1b12 1b11 1b35,1b3b 1b3a 1b35,1b3d 1b3c 1b35,1b40 1b3e 1b35,1b41 1b3f 1b35
1b43 1b42 1b35,1e01 61 325,1e03 62 307,1e05 62 323,1e07 62 331,1e0b 64 307,1e0d 64 323,1e0f 64 331
1e11 64 327,1e13 64 32d,1e19 65 32d,1e1b 65 330,1e1f 66 307,1e21 67 304,1e23 68 307,1e25 68 323
1e27 68 308,1e29 68 327,1e2b 68 32e,1e2d 69 330,1e31 6b 301,1e33 6b 323,1e35 6b 331,1e37 6c 323
1e3b 6c 331,1e3d 6c 32d,1e3f 6d 301,1e41 6d 307,1e43 6d 323,1e45 6e 307,1e47 6e 323,1e49 6e 331
1e4b 6e 32d,1e55 70 301,1e57 70 307,1e59 72 307,1e5b 72 323,1e5f 72 331,1e61 73 307,1e63 73 323
1e6b 74 307,1e6d 74 323,1e6f 74 331,1e71 74 32d,1e73 75 324,1e75 75 330,1e77 75 32d,1e7d 76 303
1e7f 76 323,1e81 77 300,1e83 77 301,1e85 77 308,1e87 77 307,1e89 77 323,1e8b 78 307,1e8d 78 308
1e8f 79 307,1e91 7a 302,1e93 7a 323,1e95 7a 331,1e96 68 331,1e97 74 308,1e98 77 30a,1e99 79 30a
1ea1 61 323,1ea3 61 309,1eb9 65 323,1ebb 65 309,1ebd 65 303,1ec9 69 309,1ecb 69 323,1ecd 6f 323
1ecf 6f 309,1ee5 75 323,1ee7 75 309,1ef3 79 300,1ef5 79 323,1ef7 79 309,1ef9 79 303,1f00 3b1 313
1f01 3b1 314,1f10 3b5 313,1f11 3b5 314,1f20 3b7 313,1f21 3b7 314,1f30 3b9 313,1f31 3b9 314
1f40 3bf 313,1f41 3bf 314,1f50 3c5 313,1f51 3c5 314,1f60 3c9 313,1f61 3c9 314,1f70 3b1 300
1f72 3b5 300,1f74 3b7 300,1f76 3b9 300,1f78 3bf 300,1f7a 3c5 300,1f7c 3c9 300,1fb0 3b1 306
1fb1 3b1 304,1fb6 3b1 342,1fc6 3b7 342,1fd0 3b9 306,1fd1 3b9 304,1fd6 3b9 342,1fe0 3c5 306
1fe1 3c5 304,1fe4 3c1 313,1fe5 3c1 314,1fe6 3c5 342,1ff6 3c9 342,219a 2190 338,219b 2192 338
21ae 2194 338,21cd 21d0 338,21ce 21d4 338,21cf 21d2 338,2204 2203 338,2209 2208 338,220c 220b 338
2224 2223 338,2226 2225 338,2241 223c 338,2244 2243 338,2247 2245 338,2249 2248 338,2260 3d 338
2262 2261 338,226d 224d 338,226e 3c 338,226f 3e 338,2270 2264 338,2271 2265 338,2274 2272 338
2275 2273 338,2278 2276 338,2279 2277 338,2280 227a 338,2281 227b 338,2284 2282 338,2285 2283 338
2288 2286 338,2289 2287 338,22ac 22a2 338,22ad 22a8 338,22ae 22a9 338,22af 22ab 338,22e0 227c 338
22e1 227d 338,22e2 2291 338,22e3 2292 338,22ea 22b2 338,22eb 22b3 338,22ec 22b4 338,22ed 22b5 338
304c 304b 3099,304e 304d 3099,3050 304f 3099,3052 3051 3099,3054 3053 3099,3056 3055 3099
3058 3057 3099,305a 3059 3099,305c 305b 3099,305e 305d 3099,3060 305f 3099,3062 3061 3099
3065 3064 3099,3067 3066 3099,3069 3068 3099,3070 306f 3099,3071 306f 309a,3073 3072 3099
3074 3072 309a,3076 3075 3099,3077 3075 309a,3079 3078 3099,307a 3078 309a,307c 307b 3099
307d 307b 309a,3094 3046 3099,309e 309d 3099,30ac 30ab 3099,30ae 30ad 3099,30b0 30af 3099
30b2 30b1 3099,30b4 30b3 3099,30b6 30b5 3099,30b8 30b7 3099,30ba 30b9 3099,30bc 30bb 3099
30be 30bd 3099,30c0 30bf 3099,30c2 30c1 3099,30c5 30c4 3099,30c7 30c6 3099,30c9 30c8 3099
30d0 30cf 3099,30d1 30cf 309a,30d3 30d2 3099,30d4 30d2 309a,30d6 30d5 3099,30d7 30d5 309a
30d9 30d8 3099,30da 30d8 309a,30dc 30db 3099,30dd 30db 309a,30f4 30a6 3099,30f7 30ef 3099
30f8 30f0 3099,30f9 30f1 3099,30fa 30f2 3099,30fe 30fd 3099,105c9 105d2 307,105e4 105da 307
1109a 11099 110ba,1109c 1109b 110ba,110ab 110a5 110ba,1112e 11131 11127,1112f 11132 11127
1134b 11347 1133e,1134c 11347 11357,11383 11382 113c9,11385 11384 113bb,1138e 1138b 113c2
11391 11390 113c9,113c5 113c2 113c2,113c7 113c2 113b8,113c8 113c2 113c9,114bb 114b9 114ba
114bc 114b9 114b0,114be 114b9 114bd,115ba 115b8 115af,115bb 115b9 115af,11938 11935 11930
16121 1611e 1611e,16122 1611e 16129,16123 1611e 1611f,16124 16129 1611f,16125 1611e 16120
16d68 16d67 16d67,16d69 16d63 16d67
"

/-- Rows of a character and the joining type from it to the next row: 0 for none, 1 for both sides,
2 for the left side, 3 for the right side, 4 for transparent. -/
def joiningText : String := "
a1 0,300 4,371 0,483 4,48b 0,591 4,5be 0,5bf 4,5c0 0,5c1 4,5c3 0,5c4 4,5c6 0,5c7 4,5d0 0,610 4
61b 0,620 1,621 0,622 3,626 1,627 3,628 1,629 3,62a 1,62f 3,633 1,640 0,641 1,648 3,649 1,64b 4
660 0,66e 1,670 4,671 3,674 0,679 1,688 3,69a 1,6c0 3,6c1 1,6c3 3,6cc 1,6cd 3,6ce 1,6cf 3,6d0 1
6d2 3,6d4 0,6d5 3,6d6 4,6de 0,6df 4,6e5 0,6e7 4,6e9 0,6ea 4,6ee 3,6f0 0,6fa 1,6fd 0,6ff 1,700 0
710 3,711 4,712 1,715 3,71a 1,71e 3,71f 1,728 3,729 1,72a 3,72b 1,72c 3,72d 1,72f 3,730 4,74d 3
74e 1,759 3,75c 1,76b 3,76d 1,771 3,772 1,773 3,775 1,778 3,77a 1,780 0,7a6 4,7b1 0,7ca 1,7eb 4
7f4 0,7fd 4,7fe 0,816 4,81a 0,81b 4,824 0,825 4,828 0,829 4,830 0,840 3,841 1,846 3,848 1,849 3
84a 1,854 3,855 1,856 3,859 4,85e 0,860 1,861 0,862 1,866 0,867 3,868 1,869 3,883 0,886 1,887 0
889 1,88e 3,88f 1,897 4,8a0 1,8aa 3,8ad 0,8ae 3,8af 1,8b1 3,8b3 1,8b9 3,8ba 1,8c9 0,8ca 4,903 0
93a 4,93b 0,93c 4,93d 0,941 4,949 0,94d 4,94e 0,951 4,960 0,962 4,964 0,981 4,982 0,9bc 4,9bd 0
9c1 4,9c7 0,9cd 4,9ce 0,9e2 4,9e6 0,9fe 4,a03 0,a3c 4,a3e 0,a41 4,a5c 0,a70 4,a72 0,a75 4,a76 0
a81 4,a83 0,abc 4,abd 0,ac1 4,ac9 0,acd 4,ad0 0,ae2 4,ae6 0,afa 4,b02 0,b3c 4,b3d 0,b3f 4,b40 0
b41 4,b47 0,b4d 4,b57 0,b62 4,b66 0,b82 4,b83 0,bc0 4,bc1 0,bcd 4,bd0 0,c00 4,c01 0,c04 4,c05 0
c3c 4,c3d 0,c3e 4,c41 0,c46 4,c58 0,c62 4,c66 0,c81 4,c82 0,cbc 4,cbd 0,cbf 4,cc0 0,cc6 4,cc7 0
ccc 4,cd5 0,ce2 4,ce6 0,d00 4,d02 0,d3b 4,d3d 0,d41 4,d46 0,d4d 4,d4e 0,d62 4,d66 0,d81 4,d82 0
dca 4,dcf 0,dd2 4,dd8 0,e31 4,e32 0,e34 4,e3f 0,e47 4,e4f 0,eb1 4,eb2 0,eb4 4,ebd 0,ec8 4,ed0 0
f18 4,f1a 0,f35 4,f36 0,f37 4,f38 0,f39 4,f3a 0,f71 4,f7f 0,f80 4,f85 0,f86 4,f88 0,f8d 4,fbe 0
fc6 4,fc7 0,102d 4,1031 0,1032 4,1038 0,1039 4,103b 0,103d 4,103f 0,1058 4,105a 0,105e 4,1061 0
1071 4,1075 0,1082 4,1083 0,1085 4,1087 0,108d 4,108e 0,109d 4,109e 0,135d 4,1360 0,1712 4,1715 0
1732 4,1734 0,1752 4,1760 0,1772 4,1780 0,17b7 4,17be 0,17c6 4,17c7 0,17c9 4,17d4 0,17dd 4,17e0 0
1807 1,1808 0,1820 1,1880 0,1885 4,1887 1,18a9 4,18aa 1,18b0 0,1920 4,1923 0,1927 4,1929 0,1932 4
1933 0,1939 4,1940 0,1a17 4,1a19 0,1a1b 4,1a1e 0,1a56 4,1a57 0,1a58 4,1a61 0,1a62 4,1a63 0,1a65 4
1a6d 0,1a73 4,1a80 0,1ab0 4,1b04 0,1b34 4,1b35 0,1b36 4,1b3b 0,1b3c 4,1b3d 0,1b42 4,1b43 0,1b6b 4
1b74 0,1b80 4,1b82 0,1ba2 4,1ba6 0,1ba8 4,1baa 0,1bab 4,1bae 0,1be6 4,1be7 0,1be8 4,1bea 0,1bed 4
1bee 0,1bef 4,1bf2 0,1c2c 4,1c34 0,1c36 4,1c3b 0,1cd0 4,1cd3 0,1cd4 4,1ce1 0,1ce2 4,1ce9 0,1ced 4
1cee 0,1cf4 4,1cf5 0,1cf8 4,1cfa 0,1dc0 4,1e01 0,20d0 4,2104 0,2cef 4,2cf3 0,2d7f 4,2d80 0,2de0 4
2e00 0,302a 4,302e 0,3099 4,309d 0,a66f 4,a673 0,a674 4,a67e 0,a69e 4,a6a0 0,a6f0 4,a6f2 0,a802 4
a803 0,a806 4,a807 0,a80b 4,a80c 0,a825 4,a827 0,a82c 4,a830 0,a840 1,a872 2,a873 0,a8c4 4,a8ce 0
a8e0 4,a8f2 0,a8ff 4,a900 0,a926 4,a92e 0,a947 4,a952 0,a980 4,a983 0,a9b3 4,a9b4 0,a9b6 4,a9ba 0
a9bc 4,a9be 0,a9e5 4,a9e6 0,aa29 4,aa2f 0,aa31 4,aa33 0,aa35 4,aa40 0,aa43 4,aa44 0,aa4c 4,aa4d 0
aa7c 4,aa7d 0,aab0 4,aab1 0,aab2 4,aab5 0,aab7 4,aab9 0,aabe 4,aac0 0,aac1 4,aac2 0,aaec 4,aaee 0
aaf6 4,ab01 0,abe5 4,abe6 0,abe8 4,abe9 0,abed 4,abf0 0,fb1e 4,fbb2 0,fe20 4,fe45 0,101fd 4
10280 0,102e0 4,102e1 0,10376 4,10380 0,10a01 4,10a10 0,10a38 4,10a40 0,10ac0 1,10ac5 3,10ac6 0
10ac7 3,10ac8 0,10ac9 3,10acb 0,10acd 2,10ace 3,10ad3 1,10ad7 2,10ad8 1,10add 3,10ade 1,10ae1 3
10ae2 0,10ae4 3,10ae5 4,10aeb 1,10aef 3,10af0 0,10b80 1,10b81 3,10b82 1,10b83 3,10b86 1,10b89 3
10b8a 1,10b8c 3,10b8d 1,10b8e 3,10b90 1,10b91 3,10b99 0,10ba9 3,10bad 1,10baf 0,10d00 2,10d01 1
10d22 3,10d23 1,10d24 4,10d30 0,10d69 4,10d6e 0,10eab 4,10ead 0,10ec2 3,10ec3 1,10ec5 0,10ec6 1
10ed0 0,10efa 4,10f00 0,10f30 1,10f33 3,10f34 1,10f45 0,10f46 4,10f51 1,10f54 3,10f55 0,10f70 1
10f74 3,10f76 1,10f82 4,10f86 0,10fb0 1,10fb1 0,10fb2 1,10fb4 3,10fb7 0,10fb8 1,10fb9 3,10fbb 1
10fbd 3,10fbe 1,10fc0 0,10fc1 1,10fc2 3,10fc4 1,10fc5 0,10fc9 3,10fca 1,10fcb 2,10fe0 0,11001 4
11002 0,11038 4,11047 0,11070 4,11071 0,11073 4,11075 0,1107f 4,11082 0,110b3 4,110b7 0,110b9 4
110bb 0,110c2 4,110d0 0,11100 4,11103 0,11127 4,1112c 0,1112d 4,11136 0,11173 4,11174 0,11180 4
11182 0,111b6 4,111bf 0,111c9 4,111cd 0,111cf 4,111d0 0,1122f 4,11232 0,11234 4,11235 0,11236 4
11238 0,1123e 4,1123f 0,11241 4,11280 0,112df 4,112e0 0,112e3 4,112f0 0,11300 4,11302 0,1133b 4
1133d 0,11340 4,11341 0,11366 4,11380 0,113bb 4,113c2 0,113ce 4,113cf 0,113d0 4,113d1 0,113d2 4
113d3 0,113e1 4,11400 0,11438 4,11440 0,11442 4,11445 0,11446 4,11447 0,1145e 4,1145f 0,114b3 4
114b9 0,114ba 4,114bb 0,114bf 4,114c1 0,114c2 4,114c4 0,115b2 4,115b8 0,115bc 4,115be 0,115bf 4
115c1 0,115dc 4,11600 0,11633 4,1163b 0,1163d 4,1163e 0,1163f 4,11641 0,116ab 4,116ac 0,116ad 4
116ae 0,116b0 4,116b6 0,116b7 4,116b8 0,1171d 4,1171e 0,1171f 4,11720 0,11722 4,11726 0,11727 4
11730 0,1182f 4,11838 0,11839 4,1183b 0,1193b 4,1193d 0,1193e 4,1193f 0,11943 4,11944 0,119d4 4
119dc 0,119e0 4,119e1 0,11a01 4,11a0b 0,11a33 4,11a39 0,11a3b 4,11a3f 0,11a47 4,11a50 0,11a51 4
11a57 0,11a59 4,11a5c 0,11a8a 4,11a97 0,11a98 4,11a9a 0,11b60 4,11b61 0,11b62 4,11b65 0,11b66 4
11b67 0,11c30 4,11c3e 0,11c3f 4,11c40 0,11c92 4,11ca9 0,11caa 4,11cb1 0,11cb2 4,11cb4 0,11cb5 4
11d00 0,11d31 4,11d46 0,11d47 4,11d50 0,11d90 4,11d93 0,11d95 4,11d96 0,11d97 4,11d98 0,11ef3 4
11ef5 0,11f00 4,11f02 0,11f36 4,11f3e 0,11f40 4,11f41 0,11f42 4,11f43 0,11f5a 4,11fb0 0,13440 4
13441 0,13447 4,13460 0,1611e 4,1612a 0,1612d 4,16130 0,16af0 4,16af5 0,16b30 4,16b37 0,16f4f 4
16f50 0,16f8f 4,16f93 0,16fe4 4,16ff0 0,1bc9d 4,1bc9f 0,1cf00 4,1cf50 0,1d167 4,1d16a 0,1d17b 4
1d183 0,1d185 4,1d18c 0,1d1aa 4,1d1ae 0,1d242 4,1d245 0,1da00 4,1da37 0,1da3b 4,1da6d 0,1da75 4
1da76 0,1da84 4,1da85 0,1da9b 4,1df00 0,1e000 4,1e100 0,1e130 4,1e137 0,1e2ae 4,1e2c0 0,1e2ec 4
1e2f0 0,1e4ec 4,1e4f0 0,1e5ee 4,1e5f0 0,1e6e3 4,1e6e4 0,1e6e6 4,1e6e7 0,1e6ee 4,1e6f0 0,1e6f5 4
1e6fe 0,1e8d0 4,1e922 1,1e944 4,1e950 0
"

/-- Rows of a character and the direction from it to the next row: 0 for left to right, 1 for right
to left, 2 for European and 3 for Arabic numbers, 4 for neutral, 5 for marks. -/
def directionText : String := "
a1 4,df 0,f7 4,f8 0,2b9 4,2bb 0,2c2 4,2d0 0,2d2 4,2ee 0,2ef 4,300 5,371 0,375 4,377 0,3f6 4,3f8 0
483 5,48b 0,58a 4,591 5,5be 1,5bf 5,5c0 1,5c1 5,5c3 1,5c4 5,5c6 1,5c7 5,5d0 1,606 4,608 1,609 4
60b 1,60c 4,60d 1,60e 4,610 5,61b 1,64b 5,660 3,66a 4,66b 3,66d 1,670 5,671 1,6d6 5,6de 4,6df 5
6e5 1,6e7 5,6e9 4,6ea 5,6ee 1,6f0 2,6fa 1,711 5,712 1,730 5,74d 1,7a6 5,7b1 1,7eb 5,7f4 1,7f6 4
7fa 1,7fd 5,7fe 1,816 5,81a 1,81b 5,824 1,825 5,828 1,829 5,830 1,859 5,85e 1,897 5,8a0 1,8ca 5
903 0,93a 5,93b 0,93c 5,93d 0,941 5,949 0,94d 5,94e 0,951 5,960 0,962 5,964 0,981 5,982 0,9bc 5
9bd 0,9c1 5,9c7 0,9cd 5,9ce 0,9e2 5,9e6 0,9f2 4,9f4 0,9fb 4,9fc 0,9fe 5,a03 0,a3c 5,a3e 0,a41 5
a5c 0,a70 5,a72 0,a75 5,a76 0,a81 5,a83 0,abc 5,abd 0,ac1 5,ac9 0,acd 5,ad0 0,ae2 5,ae6 0,af1 4
af9 0,afa 5,b02 0,b3c 5,b3d 0,b3f 5,b40 0,b41 5,b47 0,b4d 5,b57 0,b62 5,b66 0,b82 5,b83 0,bc0 5
bc1 0,bcd 5,bd0 0,bf3 4,c00 5,c01 0,c04 5,c05 0,c3c 5,c3d 0,c3e 5,c41 0,c46 5,c58 0,c62 5,c66 0
c78 4,c7f 0,c81 5,c82 0,cbc 5,cbd 0,ccc 5,cd5 0,ce2 5,ce6 0,d00 5,d02 0,d3b 5,d3d 0,d41 5,d46 0
d4d 5,d4e 0,d62 5,d66 0,d81 5,d82 0,dca 5,dcf 0,dd2 5,dd8 0,e31 5,e32 0,e34 5,e3f 4,e40 0,e47 5
e4f 0,eb1 5,eb2 0,eb4 5,ebd 0,ec8 5,ed0 0,f18 5,f1a 0,f35 5,f36 0,f37 5,f38 0,f39 5,f3a 4,f3e 0
f71 5,f7f 0,f80 5,f85 0,f86 5,f88 0,f8d 5,fbe 0,fc6 5,fc7 0,102d 5,1031 0,1032 5,1038 0,1039 5
103b 0,103d 5,103f 0,1058 5,105a 0,105e 5,1061 0,1071 5,1075 0,1082 5,1083 0,1085 5,1087 0,108d 5
108e 0,109d 5,109e 0,135d 5,1360 0,1390 4,13a0 0,1400 4,1401 0,169b 4,16a0 0,1712 5,1715 0,1732 5
1734 0,1752 5,1760 0,1772 5,1780 0,17b7 5,17be 0,17c6 5,17c7 0,17c9 5,17d4 0,17db 4,17dc 0,17dd 5
17e0 0,17f0 4,1810 0,1885 5,1887 0,18a9 5,18aa 0,1920 5,1923 0,1927 5,1929 0,1932 5,1933 0,1939 5
1940 4,1946 0,19de 4,1a00 0,1a17 5,1a19 0,1a1b 5,1a1e 0,1a56 5,1a57 0,1a58 5,1a61 0,1a62 5,1a63 0
1a65 5,1a6d 0,1a73 5,1a80 0,1ab0 5,1b04 0,1b34 5,1b35 0,1b36 5,1b3b 0,1b3c 5,1b3d 0,1b42 5,1b43 0
1b6b 5,1b74 0,1b80 5,1b82 0,1ba2 5,1ba6 0,1ba8 5,1baa 0,1bab 5,1bae 0,1be6 5,1be7 0,1be8 5,1bea 0
1bed 5,1bee 0,1bef 5,1bf2 0,1c2c 5,1c34 0,1c36 5,1c3b 0,1cd0 5,1cd3 0,1cd4 5,1ce1 0,1ce2 5,1ce9 0
1ced 5,1cee 0,1cf4 5,1cf5 0,1cf8 5,1cfa 0,1dc0 5,1e01 0,200c 4,20d0 5,2104 4,214e 0,218a 4,2336 0
237b 4,2395 0,2396 4,26ac 0,26ad 4,2800 0,2900 4,2c30 0,2ce5 4,2cec 0,2cef 5,2cf3 0,2cf9 4,2d00 0
2d7f 5,2d80 0,2de0 5,2e00 4,3005 0,3008 4,3021 0,302a 5,302e 0,3030 4,3031 0,3037 4,303b 0,303d 4
3041 0,3099 5,309d 0,30a0 4,30a1 0,30fb 4,30fc 0,31c0 4,31f0 0,4dc0 4,4e00 0,a490 4,a4d0 0,a60d 4
a610 0,a66f 5,a673 4,a674 5,a67e 4,a681 0,a69e 5,a6a0 0,a6f0 5,a6f2 0,a700 4,a723 0,a788 4,a789 0
a802 5,a803 0,a806 5,a807 0,a80b 5,a80c 0,a825 5,a827 0,a828 4,a82c 5,a830 0,a838 4,a840 0,a874 4
a880 0,a8c4 5,a8ce 0,a8e0 5,a8f2 0,a8ff 5,a900 0,a926 5,a92e 0,a947 5,a952 0,a980 5,a983 0,a9b3 5
a9b4 0,a9b6 5,a9ba 0,a9bc 5,a9be 0,a9e5 5,a9e6 0,aa29 5,aa2f 0,aa31 5,aa33 0,aa35 5,aa40 0,aa43 5
aa44 0,aa4c 5,aa4d 0,aa7c 5,aa7d 0,aab0 5,aab1 0,aab2 5,aab5 0,aab7 5,aab9 0,aabe 5,aac0 0,aac1 5
aac2 0,aaec 5,aaee 0,aaf6 5,ab01 0,ab6a 4,abc0 0,abe5 5,abe6 0,abe8 5,abe9 0,abed 5,abf0 0,fb1e 5
fbb2 1,fbc3 4,fe20 5,fe45 4,fe73 1,10000 0,10101 4,10102 0,10140 4,1018d 0,10190 4,101d0 0,101fd 5
10280 0,102e0 5,102e1 2,10300 0,10376 5,10380 0,10800 1,1091f 4,10920 1,10a01 5,10a10 1,10a38 5
10a40 1,10ae5 5,10aeb 1,10b39 4,10b40 1,10d24 5,10d30 3,10d4a 1,10d69 5,10d6e 4,10d6f 1,10e60 3
10e80 1,10eab 5,10ead 1,10ed0 4,10efa 5,10f00 1,10f46 5,10f51 1,10f82 5,10f86 1,11000 0,11001 5
11002 0,11038 5,11047 0,11052 4,11066 0,11070 5,11071 0,11073 5,11075 0,1107f 5,11082 0,110b3 5
110b7 0,110b9 5,110bb 0,110c2 5,110d0 0,11100 5,11103 0,11127 5,1112c 0,1112d 5,11136 0,11173 5
11174 0,11180 5,11182 0,111b6 5,111bf 0,111c9 5,111cd 0,111cf 5,111d0 0,1122f 5,11232 0,11234 5
11235 0,11236 5,11238 0,1123e 5,1123f 0,11241 5,11280 0,112df 5,112e0 0,112e3 5,112f0 0,11300 5
11302 0,1133b 5,1133d 0,11340 5,11341 0,11366 5,11380 0,113bb 5,113c2 0,113ce 5,113cf 0,113d0 5
113d1 0,113d2 5,113d3 0,113e1 5,11400 0,11438 5,11440 0,11442 5,11445 0,11446 5,11447 0,1145e 5
1145f 0,114b3 5,114b9 0,114ba 5,114bb 0,114bf 5,114c1 0,114c2 5,114c4 0,115b2 5,115b8 0,115bc 5
115be 0,115bf 5,115c1 0,115dc 5,11600 0,11633 5,1163b 0,1163d 5,1163e 0,1163f 5,11641 0,11660 4
11680 0,116ab 5,116ac 0,116ad 5,116ae 0,116b0 5,116b6 0,116b7 5,116b8 0,1171d 5,1171e 0,1171f 5
11720 0,11722 5,11726 0,11727 5,11730 0,1182f 5,11838 0,11839 5,1183b 0,1193b 5,1193d 0,1193e 5
1193f 0,11943 5,11944 0,119d4 5,119dc 0,119e0 5,119e1 0,11a01 5,11a07 0,11a09 5,11a0b 0,11a33 5
11a39 0,11a3b 5,11a3f 0,11a47 5,11a50 0,11a51 5,11a57 0,11a59 5,11a5c 0,11a8a 5,11a97 0,11a98 5
11a9a 0,11b60 5,11b61 0,11b62 5,11b65 0,11b66 5,11b67 0,11c30 5,11c3e 0,11c92 5,11ca9 0,11caa 5
11cb1 0,11cb2 5,11cb4 0,11cb5 5,11d00 0,11d31 5,11d46 0,11d47 5,11d50 0,11d90 5,11d93 0,11d95 5
11d96 0,11d97 5,11d98 0,11ef3 5,11ef5 0,11f00 5,11f02 0,11f36 5,11f3e 0,11f40 5,11f41 0,11f42 5
11f43 0,11f5a 5,11fb0 0,11fd5 4,11fff 0,13440 5,13441 0,13447 5,13460 0,1611e 5,1612a 0,1612d 5
16130 0,16af0 5,16af5 0,16b30 5,16b37 0,16f4f 5,16f50 0,16f8f 5,16f93 0,16fe2 4,16fe3 0,16fe4 5
16ff0 0,1bc9d 5,1bc9f 0,1cc00 4,1cf00 5,1cf50 0,1d167 5,1d16a 0,1d17b 5,1d183 0,1d185 5,1d18c 0
1d1aa 5,1d1ae 0,1d1e9 4,1d242 5,1d245 4,1d2c0 0,1d300 4,1d360 0,1da00 5,1da37 0,1da3b 5,1da6d 0
1da75 5,1da76 0,1da84 5,1da85 0,1da9b 5,1df00 0,1e000 5,1e100 0,1e130 5,1e137 0,1e2ae 5,1e2c0 0
1e2ec 5,1e2f0 0,1e2ff 4,1e4d0 0,1e4ec 5,1e4f0 0,1e5ee 5,1e5f0 0,1e6e3 5,1e6e4 0,1e6e6 5,1e6e7 0
1e6ee 5,1e6f0 0,1e6f5 5,1e6fe 0,1e800 1,1e8d0 5,1e922 1,1e944 5,1e94b 1,1eef0 4,1f150 0,1f16d 4
1f170 0,1f1ad 4,1f1e6 0,1f260 4,20000 0
"

end AccessCatalog.Web.Name
