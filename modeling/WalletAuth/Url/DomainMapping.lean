import WalletAuth.Text.CodeRanges

/-!
# WalletAuth.Url.DomainMapping — the IDNA mapping table of Unicode Technical Standard #46

Before a domain name is checked and converted to ASCII, each of its characters is looked up
in this table and kept (valid), dropped (ignored), replaced by a sequence of characters
(mapped: case folding and compatibility forms), kept as a deviation (a character that
transitional processing maps away and this processing keeps), or refused (disallowed).

The table has 8242 rows, one per line of `mappingRows`: the first code point of a run in
hex, a status letter (`V` valid, `M` mapped, `D` deviation, `I` ignored, `X` disallowed) and,
for a mapped row, the hex code points it maps to. A row covers every code point up to the
next row's.
-/

namespace WalletAuth
namespace Url

/-- What the mapping does with a character. -/
inductive Mapping where
  | valid
  | ignored
  | deviation
  | disallowed
  | mapped (image : List Char)
  deriving DecidableEq, Repr, Inhabited

/-- The rows of the table, one per line. -/
def mappingRows : String := "0 V
41 M 61
42 M 62
43 M 63
44 M 64
45 M 65
46 M 66
47 M 67
48 M 68
49 M 69
4A M 6A
4B M 6B
4C M 6C
4D M 6D
4E M 6E
4F M 6F
50 M 70
51 M 71
52 M 72
53 M 73
54 M 74
55 M 75
56 M 76
57 M 77
58 M 78
59 M 79
5A M 7A
5B V
80 X
A0 M 20
A1 V
A8 M 20 308
A9 V
AA M 61
AB V
AD I
AE V
AF M 20 304
B0 V
B2 M 32
B3 M 33
B4 M 20 301
B5 M 3BC
B6 V
B8 M 20 327
B9 M 31
BA M 6F
BB V
BC M 31 2044 34
BD M 31 2044 32
BE M 33 2044 34
BF V
C0 M E0
C1 M E1
C2 M E2
C3 M E3
C4 M E4
C5 M E5
C6 M E6
C7 M E7
C8 M E8
C9 M E9
CA M EA
CB M EB
CC M EC
CD M ED
CE M EE
CF M EF
D0 M F0
D1 M F1
D2 M F2
D3 M F3
D4 M F4
D5 M F5
D6 M F6
D7 V
D8 M F8
D9 M F9
DA M FA
DB M FB
DC M FC
DD M FD
DE M FE
DF D
E0 V
100 M 101
101 V
102 M 103
103 V
104 M 105
105 V
106 M 107
107 V
108 M 109
109 V
10A M 10B
10B V
10C M 10D
10D V
10E M 10F
10F V
110 M 111
111 V
112 M 113
113 V
114 M 115
115 V
116 M 117
117 V
118 M 119
119 V
11A M 11B
11B V
11C M 11D
11D V
11E M 11F
11F V
120 M 121
121 V
122 M 123
123 V
124 M 125
125 V
126 M 127
127 V
128 M 129
129 V
12A M 12B
12B V
12C M 12D
12D V
12E M 12F
12F V
130 M 69 307
131 V
132 M 69 6A
134 M 135
135 V
136 M 137
137 V
139 M 13A
13A V
13B M 13C
13C V
13D M 13E
13E V
13F M 6C B7
141 M 142
142 V
143 M 144
144 V
145 M 146
146 V
147 M 148
148 V
149 M 2BC 6E
14A M 14B
14B V
14C M 14D
14D V
14E M 14F
14F V
150 M 151
151 V
152 M 153
153 V
154 M 155
155 V
156 M 157
157 V
158 M 159
159 V
15A M 15B
15B V
15C M 15D
15D V
15E M 15F
15F V
160 M 161
161 V
162 M 163
163 V
164 M 165
165 V
166 M 167
167 V
168 M 169
169 V
16A M 16B
16B V
16C M 16D
16D V
16E M 16F
16F V
170 M 171
171 V
172 M 173
173 V
174 M 175
175 V
176 M 177
177 V
178 M FF
179 M 17A
17A V
17B M 17C
17C V
17D M 17E
17E V
17F M 73
180 V
181 M 253
182 M 183
183 V
184 M 185
185 V
186 M 254
187 M 188
188 V
189 M 256
18A M 257
18B M 18C
18C V
18E M 1DD
18F M 259
190 M 25B
191 M 192
192 V
193 M 260
194 M 263
195 V
196 M 269
197 M 268
198 M 199
199 V
19C M 26F
19D M 272
19E V
19F M 275
1A0 M 1A1
1A1 V
1A2 M 1A3
1A3 V
1A4 M 1A5
1A5 V
1A6 M 280
1A7 M 1A8
1A8 V
1A9 M 283
1AA V
1AC M 1AD
1AD V
1AE M 288
1AF M 1B0
1B0 V
1B1 M 28A
1B2 M 28B
1B3 M 1B4
1B4 V
1B5 M 1B6
1B6 V
1B7 M 292
1B8 M 1B9
1B9 V
1BC M 1BD
1BD V
1C4 M 64 17E
1C7 M 6C 6A
1CA M 6E 6A
1CD M 1CE
1CE V
1CF M 1D0
1D0 V
1D1 M 1D2
1D2 V
1D3 M 1D4
1D4 V
1D5 M 1D6
1D6 V
1D7 M 1D8
1D8 V
1D9 M 1DA
1DA V
1DB M 1DC
1DC V
1DE M 1DF
1DF V
1E0 M 1E1
1E1 V
1E2 M 1E3
1E3 V
1E4 M 1E5
1E5 V
1E6 M 1E7
1E7 V
1E8 M 1E9
1E9 V
1EA M 1EB
1EB V
1EC M 1ED
1ED V
1EE M 1EF
1EF V
1F1 M 64 7A
1F4 M 1F5
1F5 V
1F6 M 195
1F7 M 1BF
1F8 M 1F9
1F9 V
1FA M 1FB
1FB V
1FC M 1FD
1FD V
1FE M 1FF
1FF V
200 M 201
201 V
202 M 203
203 V
204 M 205
205 V
206 M 207
207 V
208 M 209
209 V
20A M 20B
20B V
20C M 20D
20D V
20E M 20F
20F V
210 M 211
211 V
212 M 213
213 V
214 M 215
215 V
216 M 217
217 V
218 M 219
219 V
21A M 21B
21B V
21C M 21D
21D V
21E M 21F
21F V
220 M 19E
221 V
222 M 223
223 V
224 M 225
225 V
226 M 227
227 V
228 M 229
229 V
22A M 22B
22B V
22C M 22D
22D V
22E M 22F
22F V
230 M 231
231 V
232 M 233
233 V
23A M 2C65
23B M 23C
23C V
23D M 19A
23E M 2C66
23F V
241 M 242
242 V
243 M 180
244 M 289
245 M 28C
246 M 247
247 V
248 M 249
249 V
24A M 24B
24B V
24C M 24D
24D V
24E M 24F
24F V
2B0 M 68
2B1 M 266
2B2 M 6A
2B3 M 72
2B4 M 279
2B5 M 27B
2B6 M 281
2B7 M 77
2B8 M 79
2B9 V
2D8 M 20 306
2D9 M 20 307
2DA M 20 30A
2DB M 20 328
2DC M 20 303
2DD M 20 30B
2DE V
2E0 M 263
2E1 M 6C
2E2 M 73
2E3 M 78
2E4 M 295
2E5 V
340 M 300
341 M 301
342 V
343 M 313
344 M 308 301
345 M 3B9
346 V
34F I
350 V
370 M 371
371 V
372 M 373
373 V
374 M 2B9
375 V
376 M 377
377 V
378 X
37A M 20 3B9
37B V
37E M 3B
37F M 3F3
380 X
384 M 20 301
385 M 20 308 301
386 M 3AC
387 M B7
388 M 3AD
389 M 3AE
38A M 3AF
38B X
38C M 3CC
38D X
38E M 3CD
38F M 3CE
390 V
391 M 3B1
392 M 3B2
393 M 3B3
394 M 3B4
395 M 3B5
396 M 3B6
397 M 3B7
398 M 3B8
399 M 3B9
39A M 3BA
39B M 3BB
39C M 3BC
39D M 3BD
39E M 3BE
39F M 3BF
3A0 M 3C0
3A1 M 3C1
3A2 X
3A3 M 3C3
3A4 M 3C4
3A5 M 3C5
3A6 M 3C6
3A7 M 3C7
3A8 M 3C8
3A9 M 3C9
3AA M 3CA
3AB M 3CB
3AC V
3C2 D
3C3 V
3CF M 3D7
3D0 M 3B2
3D1 M 3B8
3D2 M 3C5
3D3 M 3CD
3D4 M 3CB
3D5 M 3C6
3D6 M 3C0
3D7 V
3D8 M 3D9
3D9 V
3DA M 3DB
3DB V
3DC M 3DD
3DD V
3DE M 3DF
3DF V
3E0 M 3E1
3E1 V
3E2 M 3E3
3E3 V
3E4 M 3E5
3E5 V
3E6 M 3E7
3E7 V
3E8 M 3E9
3E9 V
3EA M 3EB
3EB V
3EC M 3ED
3ED V
3EE M 3EF
3EF V
3F0 M 3BA
3F1 M 3C1
3F2 M 3C3
3F3 V
3F4 M 3B8
3F5 M 3B5
3F6 V
3F7 M 3F8
3F8 V
3F9 M 3C3
3FA M 3FB
3FB V
3FD M 37B
3FE M 37C
3FF M 37D
400 M 450
401 M 451
402 M 452
403 M 453
404 M 454
405 M 455
406 M 456
407 M 457
408 M 458
409 M 459
40A M 45A
40B M 45B
40C M 45C
40D M 45D
40E M 45E
40F M 45F
410 M 430
411 M 431
412 M 432
413 M 433
414 M 434
415 M 435
416 M 436
417 M 437
418 M 438
419 M 439
41A M 43A
41B M 43B
41C M 43C
41D M 43D
41E M 43E
41F M 43F
420 M 440
421 M 441
422 M 442
423 M 443
424 M 444
425 M 445
426 M 446
427 M 447
428 M 448
429 M 449
42A M 44A
42B M 44B
42C M 44C
42D M 44D
42E M 44E
42F M 44F
430 V
460 M 461
461 V
462 M 463
463 V
464 M 465
465 V
466 M 467
467 V
468 M 469
469 V
46A M 46B
46B V
46C M 46D
46D V
46E M 46F
46F V
470 M 471
471 V
472 M 473
473 V
474 M 475
475 V
476 M 477
477 V
478 M 479
479 V
47A M 47B
47B V
47C M 47D
47D V
47E M 47F
47F V
480 M 481
481 V
48A M 48B
48B V
48C M 48D
48D V
48E M 48F
48F V
490 M 491
491 V
492 M 493
493 V
494 M 495
495 V
496 M 497
497 V
498 M 499
499 V
49A M 49B
49B V
49C M 49D
49D V
49E M 49F
49F V
4A0 M 4A1
4A1 V
4A2 M 4A3
4A3 V
4A4 M 4A5
4A5 V
4A6 M 4A7
4A7 V
4A8 M 4A9
4A9 V
4AA M 4AB
4AB V
4AC M 4AD
4AD V
4AE M 4AF
4AF V
4B0 M 4B1
4B1 V
4B2 M 4B3
4B3 V
4B4 M 4B5
4B5 V
4B6 M 4B7
4B7 V
4B8 M 4B9
4B9 V
4BA M 4BB
4BB V
4BC M 4BD
4BD V
4BE M 4BF
4BF V
4C0 M 4CF
4C1 M 4C2
4C2 V
4C3 M 4C4
4C4 V
4C5 M 4C6
4C6 V
4C7 M 4C8
4C8 V
4C9 M 4CA
4CA V
4CB M 4CC
4CC V
4CD M 4CE
4CE V
4D0 M 4D1
4D1 V
4D2 M 4D3
4D3 V
4D4 M 4D5
4D5 V
4D6 M 4D7
4D7 V
4D8 M 4D9
4D9 V
4DA M 4DB
4DB V
4DC M 4DD
4DD V
4DE M 4DF
4DF V
4E0 M 4E1
4E1 V
4E2 M 4E3
4E3 V
4E4 M 4E5
4E5 V
4E6 M 4E7
4E7 V
4E8 M 4E9
4E9 V
4EA M 4EB
4EB V
4EC M 4ED
4ED V
4EE M 4EF
4EF V
4F0 M 4F1
4F1 V
4F2 M 4F3
4F3 V
4F4 M 4F5
4F5 V
4F6 M 4F7
4F7 V
4F8 M 4F9
4F9 V
4FA M 4FB
4FB V
4FC M 4FD
4FD V
4FE M 4FF
4FF V
500 M 501
501 V
502 M 503
503 V
504 M 505
505 V
506 M 507
507 V
508 M 509
509 V
50A M 50B
50B V
50C M 50D
50D V
50E M 50F
50F V
510 M 511
511 V
512 M 513
513 V
514 M 515
515 V
516 M 517
517 V
518 M 519
519 V
51A M 51B
51B V
51C M 51D
51D V
51E M 51F
51F V
520 M 521
521 V
522 M 523
523 V
524 M 525
525 V
526 M 527
527 V
528 M 529
529 V
52A M 52B
52B V
52C M 52D
52D V
52E M 52F
52F V
530 X
531 M 561
532 M 562
533 M 563
534 M 564
535 M 565
536 M 566
537 M 567
538 M 568
539 M 569
53A M 56A
53B M 56B
53C M 56C
53D M 56D
53E M 56E
53F M 56F
540 M 570
541 M 571
542 M 572
543 M 573
544 M 574
545 M 575
546 M 576
547 M 577
548 M 578
549 M 579
54A M 57A
54B M 57B
54C M 57C
54D M 57D
54E M 57E
54F M 57F
550 M 580
551 M 581
552 M 582
553 M 583
554 M 584
555 M 585
556 M 586
557 X
558 M 567
559 V
587 M 565 582
588 V
58B M 56B
58C M 575
58D V
590 X
591 V
5CA X
5D0 V
5EB X
5EF V
5F5 X
606 V
61C X
61D V
675 M 627 674
676 M 648 674
677 M 6C7 674
678 M 64A 674
679 V
6DD X
6DE V
70E X
710 V
74B X
74D V
7B2 X
7C0 V
7FB X
7FD V
82E X
830 V
83F X
840 V
85C X
85E V
85F X
860 V
86B X
870 V
890 X
897 V
8E2 X
8E3 V
958 M 915 93C
959 M 916 93C
95A M 917 93C
95B M 91C 93C
95C M 921 93C
95D M 922 93C
95E M 92B 93C
95F M 92F 93C
960 V
984 X
985 V
98D X
98F V
991 X
993 V
9A9 X
9AA V
9B1 X
9B2 V
9B3 X
9B6 V
9BA X
9BC V
9C5 X
9C7 V
9C9 X
9CB V
9CF X
9D7 V
9D8 X
9DC M 9A1 9BC
9DD M 9A2 9BC
9DE X
9DF M 9AF 9BC
9E0 V
9E4 X
9E6 V
9FF X
A01 V
A04 X
A05 V
A0B X
A0F V
A11 X
A13 V
A29 X
A2A V
A31 X
A32 V
A33 M A32 A3C
A34 X
A35 V
A36 M A38 A3C
A37 X
A38 V
A3A X
A3C V
A3D X
A3E V
A43 X
A47 V
A49 X
A4B V
A4E X
A51 V
A52 X
A59 M A16 A3C
A5A M A17 A3C
A5B M A1C A3C
A5C V
A5D X
A5E M A2B A3C
A5F X
A66 V
A77 X
A81 V
A84 X
A85 V
A8E X
A8F V
A92 X
A93 V
AA9 X
AAA V
AB1 X
AB2 V
AB4 X
AB5 V
ABA X
ABC V
AC6 X
AC7 V
ACA X
ACB V
ACE X
AD0 V
AD1 X
AE0 V
AE4 X
AE6 V
AF2 X
AF9 V
B00 X
B01 V
B04 X
B05 V
B0D X
B0F V
B11 X
B13 V
B29 X
B2A V
B31 X
B32 V
B34 X
B35 V
B3A X
B3C V
B45 X
B47 V
B49 X
B4B V
B4E X
B53 V
B58 X
B5C M B21 B3C
B5D M B22 B3C
B5E X
B5F V
B64 X
B66 V
B78 X
B82 V
B84 X
B85 V
B8B X
B8E V
B91 X
B92 V
B96 X
B99 V
B9B X
B9C V
B9D X
B9E V
BA0 X
BA3 V
BA5 X
BA8 V
BAB X
BAE V
BBA X
BBE V
BC3 X
BC6 V
BC9 X
BCA V
BCE X
BD0 V
BD1 X
BD7 V
BD8 X
BE6 V
BFB X
C00 V
C0D X
C0E V
C11 X
C12 V
C29 X
C2A V
C3A X
C3C V
C45 X
C46 V
C49 X
C4A V
C4E X
C55 V
C57 X
C58 V
C5B X
C5C V
C5E X
C60 V
C64 X
C66 V
C70 X
C77 V
C8D X
C8E V
C91 X
C92 V
CA9 X
CAA V
CB4 X
CB5 V
CBA X
CBC V
CC5 X
CC6 V
CC9 X
CCA V
CCE X
CD5 V
CD7 X
CDC V
CDF X
CE0 V
CE4 X
CE6 V
CF0 X
CF1 V
CF4 X
D00 V
D0D X
D0E V
D11 X
D12 V
D45 X
D46 V
D49 X
D4A V
D50 X
D54 V
D64 X
D66 V
D80 X
D81 V
D84 X
D85 V
D97 X
D9A V
DB2 X
DB3 V
DBC X
DBD V
DBE X
DC0 V
DC7 X
DCA V
DCB X
DCF V
DD5 X
DD6 V
DD7 X
DD8 V
DE0 X
DE6 V
DF0 X
DF2 V
DF5 X
E01 V
E33 M E4D E32
E34 V
E3B X
E3F V
E5C X
E81 V
E83 X
E84 V
E85 X
E86 V
E8B X
E8C V
EA4 X
EA5 V
EA6 X
EA7 V
EB3 M ECD EB2
EB4 V
EBE X
EC0 V
EC5 X
EC6 V
EC7 X
EC8 V
ECF X
ED0 V
EDA X
EDC M EAB E99
EDD M EAB EA1
EDE V
EE0 X
F00 V
F0C M F0B
F0D V
F43 M F42 FB7
F44 V
F48 X
F49 V
F4D M F4C FB7
F4E V
F52 M F51 FB7
F53 V
F57 M F56 FB7
F58 V
F5C M F5B FB7
F5D V
F69 M F40 FB5
F6A V
F6D X
F71 V
F73 M F71 F72
F74 V
F75 M F71 F74
F76 M FB2 F80
F77 M FB2 F71 F80
F78 M FB3 F80
F79 M FB3 F71 F80
F7A V
F81 M F71 F80
F82 V
F93 M F92 FB7
F94 V
F98 X
F99 V
F9D M F9C FB7
F9E V
FA2 M FA1 FB7
FA3 V
FA7 M FA6 FB7
FA8 V
FAC M FAB FB7
FAD V
FB9 M F90 FB5
FBA V
FBD X
FBE V
FCD X
FCE V
FDB X
1000 V
10A0 M 2D00
10A1 M 2D01
10A2 M 2D02
10A3 M 2D03
10A4 M 2D04
10A5 M 2D05
10A6 M 2D06
10A7 M 2D07
10A8 M 2D08
10A9 M 2D09
10AA M 2D0A
10AB M 2D0B
10AC M 2D0C
10AD M 2D0D
10AE M 2D0E
10AF M 2D0F
10B0 M 2D10
10B1 M 2D11
10B2 M 2D12
10B3 M 2D13
10B4 M 2D14
10B5 M 2D15
10B6 M 2D16
10B7 M 2D17
10B8 M 2D18
10B9 M 2D19
10BA M 2D1A
10BB M 2D1B
10BC M 2D1C
10BD M 2D1D
10BE M 2D1E
10BF M 2D1F
10C0 M 2D20
10C1 M 2D21
10C2 M 2D22
10C3 M 2D23
10C4 M 2D24
10C5 M 2D25
10C6 X
10C7 M 2D27
10C8 X
10CD M 2D2D
10CE X
10D0 V
10FC M 10DC
10FD V
115F I
1161 V
1249 X
124A V
124E X
1250 V
1257 X
1258 V
1259 X
125A V
125E X
1260 V
1289 X
128A V
128E X
1290 V
12B1 X
12B2 V
12B6 X
12B8 V
12BF X
12C0 V
12C1 X
12C2 V
12C6 X
12C8 V
12D7 X
12D8 V
1311 X
1312 V
1316 X
1318 V
135B X
135D V
137D X
1380 V
139A X
13A0 V
13F6 X
13F8 M 13F0
13F9 M 13F1
13FA M 13F2
13FB M 13F3
13FC M 13F4
13FD M 13F5
13FE X
1400 V
1680 X
1681 V
169D X
16A0 V
16F9 X
1700 V
1716 X
171F V
1737 X
1740 V
1754 X
1760 V
176D X
176E V
1771 X
1772 V
1774 X
1780 V
17B4 I
17B6 V
17DE X
17E0 V
17EA X
17F0 V
17FA X
1800 V
180B I
1810 V
181A X
1820 V
1879 X
1880 V
18AB X
18B0 V
18F6 X
1900 V
191F X
1920 V
192C X
1930 V
193C X
1940 V
1941 X
1944 V
196E X
1970 V
1975 X
1980 V
19AC X
19B0 V
19CA X
19D0 V
19DB X
19DE V
1A1C X
1A1E V
1A5F X
1A60 V
1A7D X
1A7F V
1A8A X
1A90 V
1A9A X
1AA0 V
1AAE X
1AB0 V
1AF1 X
1B00 V
1B4D X
1B4E V
1BF4 X
1BFC V
1C38 X
1C3B V
1C4A X
1C4D V
1C80 M 432
1C81 M 434
1C82 M 43E
1C83 M 441
1C84 M 442
1C86 M 44A
1C87 M 463
1C88 M A64B
1C89 M 1C8A
1C8A V
1C8B X
1C90 M 10D0
1C91 M 10D1
1C92 M 10D2
1C93 M 10D3
1C94 M 10D4
1C95 M 10D5
1C96 M 10D6
1C97 M 10D7
1C98 M 10D8
1C99 M 10D9
1C9A M 10DA
1C9B M 10DB
1C9C M 10DC
1C9D M 10DD
1C9E M 10DE
1C9F M 10DF
1CA0 M 10E0
1CA1 M 10E1
1CA2 M 10E2
1CA3 M 10E3
1CA4 M 10E4
1CA5 M 10E5
1CA6 M 10E6
1CA7 M 10E7
1CA8 M 10E8
1CA9 M 10E9
1CAA M 10EA
1CAB M 10EB
1CAC M 10EC
1CAD M 10ED
1CAE M 10EE
1CAF M 10EF
1CB0 M 10F0
1CB1 M 10F1
1CB2 M 10F2
1CB3 M 10F3
1CB4 M 10F4
1CB5 M 10F5
1CB6 M 10F6
1CB7 M 10F7
1CB8 M 10F8
1CB9 M 10F9
1CBA M 10FA
1CBB X
1CBD M 10FD
1CBE M 10FE
1CBF M 10FF
1CC0 V
1CC8 X
1CD0 V
1CFB X
1D00 V
1D2C M 61
1D2D M E6
1D2E M 62
1D2F V
1D30 M 64
1D31 M 65
1D32 M 1DD
1D33 M 67
1D34 M 68
1D35 M 69
1D36 M 6A
1D37 M 6B
1D38 M 6C
1D39 M 6D
1D3A M 6E
1D3B V
1D3C M 6F
1D3D M 223
1D3E M 70
1D3F M 72
1D40 M 74
1D41 M 75
1D42 M 77
1D43 M 61
1D44 M 250
1D45 M 251
1D46 M 1D02
1D47 M 62
1D48 M 64
1D49 M 65
1D4A M 259
1D4B M 25B
1D4C M 25C
1D4D M 67
1D4E V
1D4F M 6B
1D50 M 6D
1D51 M 14B
1D52 M 6F
1D53 M 254
1D54 M 1D16
1D55 M 1D17
1D56 M 70
1D57 M 74
1D58 M 75
1D59 M 1D1D
1D5A M 26F
1D5B M 76
1D5C M 1D25
1D5D M 3B2
1D5E M 3B3
1D5F M 3B4
1D60 M 3C6
1D61 M 3C7
1D62 M 69
1D63 M 72
1D64 M 75
1D65 M 76
1D66 M 3B2
1D67 M 3B3
1D68 M 3C1
1D69 M 3C6
1D6A M 3C7
1D6B V
1D78 M 43D
1D79 V
1D9B M 252
1D9C M 63
1D9D M 255
1D9E M F0
1D9F M 25C
1DA0 M 66
1DA1 M 25F
1DA2 M 261
1DA3 M 265
1DA4 M 268
1DA5 M 269
1DA6 M 26A
1DA7 M 1D7B
1DA8 M 29D
1DA9 M 26D
1DAA M 1D85
1DAB M 29F
1DAC M 271
1DAD M 270
1DAE M 272
1DAF M 273
1DB0 M 274
1DB1 M 275
1DB2 M 278
1DB3 M 282
1DB4 M 283
1DB5 M 1AB
1DB6 M 289
1DB7 M 28A
1DB8 M 1D1C
1DB9 M 28B
1DBA M 28C
1DBB M 7A
1DBC M 290
1DBD M 291
1DBE M 292
1DBF M 3B8
1DC0 V
1E00 M 1E01
1E01 V
1E02 M 1E03
1E03 V
1E04 M 1E05
1E05 V
1E06 M 1E07
1E07 V
1E08 M 1E09
1E09 V
1E0A M 1E0B
1E0B V
1E0C M 1E0D
1E0D V
1E0E M 1E0F
1E0F V
1E10 M 1E11
1E11 V
1E12 M 1E13
1E13 V
1E14 M 1E15
1E15 V
1E16 M 1E17
1E17 V
1E18 M 1E19
1E19 V
1E1A M 1E1B
1E1B V
1E1C M 1E1D
1E1D V
1E1E M 1E1F
1E1F V
1E20 M 1E21
1E21 V
1E22 M 1E23
1E23 V
1E24 M 1E25
1E25 V
1E26 M 1E27
1E27 V
1E28 M 1E29
1E29 V
1E2A M 1E2B
1E2B V
1E2C M 1E2D
1E2D V
1E2E M 1E2F
1E2F V
1E30 M 1E31
1E31 V
1E32 M 1E33
1E33 V
1E34 M 1E35
1E35 V
1E36 M 1E37
1E37 V
1E38 M 1E39
1E39 V
1E3A M 1E3B
1E3B V
1E3C M 1E3D
1E3D V
1E3E M 1E3F
1E3F V
1E40 M 1E41
1E41 V
1E42 M 1E43
1E43 V
1E44 M 1E45
1E45 V
1E46 M 1E47
1E47 V
1E48 M 1E49
1E49 V
1E4A M 1E4B
1E4B V
1E4C M 1E4D
1E4D V
1E4E M 1E4F
1E4F V
1E50 M 1E51
1E51 V
1E52 M 1E53
1E53 V
1E54 M 1E55
1E55 V
1E56 M 1E57
1E57 V
1E58 M 1E59
1E59 V
1E5A M 1E5B
1E5B V
1E5C M 1E5D
1E5D V
1E5E M 1E5F
1E5F V
1E60 M 1E61
1E61 V
1E62 M 1E63
1E63 V
1E64 M 1E65
1E65 V
1E66 M 1E67
1E67 V
1E68 M 1E69
1E69 V
1E6A M 1E6B
1E6B V
1E6C M 1E6D
1E6D V
1E6E M 1E6F
1E6F V
1E70 M 1E71
1E71 V
1E72 M 1E73
1E73 V
1E74 M 1E75
1E75 V
1E76 M 1E77
1E77 V
1E78 M 1E79
1E79 V
1E7A M 1E7B
1E7B V
1E7C M 1E7D
1E7D V
1E7E M 1E7F
1E7F V
1E80 M 1E81
1E81 V
1E82 M 1E83
1E83 V
1E84 M 1E85
1E85 V
1E86 M 1E87
1E87 V
1E88 M 1E89
1E89 V
1E8A M 1E8B
1E8B V
1E8C M 1E8D
1E8D V
1E8E M 1E8F
1E8F V
1E90 M 1E91
1E91 V
1E92 M 1E93
1E93 V
1E94 M 1E95
1E95 V
1E9A M 61 2BE
1E9B M 1E61
1E9C V
1E9E M DF
1E9F V
1EA0 M 1EA1
1EA1 V
1EA2 M 1EA3
1EA3 V
1EA4 M 1EA5
1EA5 V
1EA6 M 1EA7
1EA7 V
1EA8 M 1EA9
1EA9 V
1EAA M 1EAB
1EAB V
1EAC M 1EAD
1EAD V
1EAE M 1EAF
1EAF V
1EB0 M 1EB1
1EB1 V
1EB2 M 1EB3
1EB3 V
1EB4 M 1EB5
1EB5 V
1EB6 M 1EB7
1EB7 V
1EB8 M 1EB9
1EB9 V
1EBA M 1EBB
1EBB V
1EBC M 1EBD
1EBD V
1EBE M 1EBF
1EBF V
1EC0 M 1EC1
1EC1 V
1EC2 M 1EC3
1EC3 V
1EC4 M 1EC5
1EC5 V
1EC6 M 1EC7
1EC7 V
1EC8 M 1EC9
1EC9 V
1ECA M 1ECB
1ECB V
1ECC M 1ECD
1ECD V
1ECE M 1ECF
1ECF V
1ED0 M 1ED1
1ED1 V
1ED2 M 1ED3
1ED3 V
1ED4 M 1ED5
1ED5 V
1ED6 M 1ED7
1ED7 V
1ED8 M 1ED9
1ED9 V
1EDA M 1EDB
1EDB V
1EDC M 1EDD
1EDD V
1EDE M 1EDF
1EDF V
1EE0 M 1EE1
1EE1 V
1EE2 M 1EE3
1EE3 V
1EE4 M 1EE5
1EE5 V
1EE6 M 1EE7
1EE7 V
1EE8 M 1EE9
1EE9 V
1EEA M 1EEB
1EEB V
1EEC M 1EED
1EED V
1EEE M 1EEF
1EEF V
1EF0 M 1EF1
1EF1 V
1EF2 M 1EF3
1EF3 V
1EF4 M 1EF5
1EF5 V
1EF6 M 1EF7
1EF7 V
1EF8 M 1EF9
1EF9 V
1EFA M 1EFB
1EFB V
1EFC M 1EFD
1EFD V
1EFE M 1EFF
1EFF V
1F08 M 1F00
1F09 M 1F01
1F0A M 1F02
1F0B M 1F03
1F0C M 1F04
1F0D M 1F05
1F0E M 1F06
1F0F M 1F07
1F10 V
1F16 X
1F18 M 1F10
1F19 M 1F11
1F1A M 1F12
1F1B M 1F13
1F1C M 1F14
1F1D M 1F15
1F1E X
1F20 V
1F28 M 1F20
1F29 M 1F21
1F2A M 1F22
1F2B M 1F23
1F2C M 1F24
1F2D M 1F25
1F2E M 1F26
1F2F M 1F27
1F30 V
1F38 M 1F30
1F39 M 1F31
1F3A M 1F32
1F3B M 1F33
1F3C M 1F34
1F3D M 1F35
1F3E M 1F36
1F3F M 1F37
1F40 V
1F46 X
1F48 M 1F40
1F49 M 1F41
1F4A M 1F42
1F4B M 1F43
1F4C M 1F44
1F4D M 1F45
1F4E X
1F50 V
1F58 X
1F59 M 1F51
1F5A X
1F5B M 1F53
1F5C X
1F5D M 1F55
1F5E X
1F5F M 1F57
1F60 V
1F68 M 1F60
1F69 M 1F61
1F6A M 1F62
1F6B M 1F63
1F6C M 1F64
1F6D M 1F65
1F6E M 1F66
1F6F M 1F67
1F70 V
1F71 M 3AC
1F72 V
1F73 M 3AD
1F74 V
1F75 M 3AE
1F76 V
1F77 M 3AF
1F78 V
1F79 M 3CC
1F7A V
1F7B M 3CD
1F7C V
1F7D M 3CE
1F7E X
1F80 M 1F00 3B9
1F81 M 1F01 3B9
1F82 M 1F02 3B9
1F83 M 1F03 3B9
1F84 M 1F04 3B9
1F85 M 1F05 3B9
1F86 M 1F06 3B9
1F87 M 1F07 3B9
1F88 M 1F00 3B9
1F89 M 1F01 3B9
1F8A M 1F02 3B9
1F8B M 1F03 3B9
1F8C M 1F04 3B9
1F8D M 1F05 3B9
1F8E M 1F06 3B9
1F8F M 1F07 3B9
1F90 M 1F20 3B9
1F91 M 1F21 3B9
1F92 M 1F22 3B9
1F93 M 1F23 3B9
1F94 M 1F24 3B9
1F95 M 1F25 3B9
1F96 M 1F26 3B9
1F97 M 1F27 3B9
1F98 M 1F20 3B9
1F99 M 1F21 3B9
1F9A M 1F22 3B9
1F9B M 1F23 3B9
1F9C M 1F24 3B9
1F9D M 1F25 3B9
1F9E M 1F26 3B9
1F9F M 1F27 3B9
1FA0 M 1F60 3B9
1FA1 M 1F61 3B9
1FA2 M 1F62 3B9
1FA3 M 1F63 3B9
1FA4 M 1F64 3B9
1FA5 M 1F65 3B9
1FA6 M 1F66 3B9
1FA7 M 1F67 3B9
1FA8 M 1F60 3B9
1FA9 M 1F61 3B9
1FAA M 1F62 3B9
1FAB M 1F63 3B9
1FAC M 1F64 3B9
1FAD M 1F65 3B9
1FAE M 1F66 3B9
1FAF M 1F67 3B9
1FB0 V
1FB2 M 1F70 3B9
1FB3 M 3B1 3B9
1FB4 M 3AC 3B9
1FB5 X
1FB6 V
1FB7 M 1FB6 3B9
1FB8 M 1FB0
1FB9 M 1FB1
1FBA M 1F70
1FBB M 3AC
1FBC M 3B1 3B9
1FBD M 20 313
1FBE M 3B9
1FBF M 20 313
1FC0 M 20 342
1FC1 M 20 308 342
1FC2 M 1F74 3B9
1FC3 M 3B7 3B9
1FC4 M 3AE 3B9
1FC5 X
1FC6 V
1FC7 M 1FC6 3B9
1FC8 M 1F72
1FC9 M 3AD
1FCA M 1F74
1FCB M 3AE
1FCC M 3B7 3B9
1FCD M 20 313 300
1FCE M 20 313 301
1FCF M 20 313 342
1FD0 V
1FD3 M 390
1FD4 X
1FD6 V
1FD8 M 1FD0
1FD9 M 1FD1
1FDA M 1F76
1FDB M 3AF
1FDC X
1FDD M 20 314 300
1FDE M 20 314 301
1FDF M 20 314 342
1FE0 V
1FE3 M 3B0
1FE4 V
1FE8 M 1FE0
1FE9 M 1FE1
1FEA M 1F7A
1FEB M 3CD
1FEC M 1FE5
1FED M 20 308 300
1FEE M 20 308 301
1FEF M 60
1FF0 X
1FF2 M 1F7C 3B9
1FF3 M 3C9 3B9
1FF4 M 3CE 3B9
1FF5 X
1FF6 V
1FF7 M 1FF6 3B9
1FF8 M 1F78
1FF9 M 3CC
1FFA M 1F7C
1FFB M 3CE
1FFC M 3C9 3B9
1FFD M 20 301
1FFE M 20 314
1FFF X
2000 M 20
200B I
200C D
200E X
2010 V
2011 M 2010
2012 V
2017 M 20 333
2018 V
2024 X
2027 V
2028 X
202F M 20
2030 V
2033 M 2032 2032
2034 M 2032 2032 2032
2035 V
2036 M 2035 2035
2037 M 2035 2035 2035
2038 V
203C M 21 21
203D V
203E M 20 305
203F V
2047 M 3F 3F
2048 M 3F 21
2049 M 21 3F
204A V
2057 M 2032 2032 2032 2032
2058 V
205F M 20
2060 I
2065 X
206A I
2070 M 30
2071 M 69
2072 X
2074 M 34
2075 M 35
2076 M 36
2077 M 37
2078 M 38
2079 M 39
207A M 2B
207B M 2212
207C M 3D
207D M 28
207E M 29
207F M 6E
2080 M 30
2081 M 31
2082 M 32
2083 M 33
2084 M 34
2085 M 35
2086 M 36
2087 M 37
2088 M 38
2089 M 39
208A M 2B
208B M 2212
208C M 3D
208D M 28
208E M 29
208F V
2090 M 61
2091 M 65
2092 M 6F
2093 M 78
2094 M 259
2095 M 68
2096 M 6B
2097 M 6C
2098 M 6D
2099 M 6E
209A M 70
209B M 73
209C M 74
209D M 77
209E M 79
209F M 7A
20A0 V
20A8 M 72 73
20A9 V
20C5 X
20D0 V
20F1 X
2100 M 61 2F 63
2101 M 61 2F 73
2102 M 63
2103 M B0 63
2104 V
2105 M 63 2F 6F
2106 M 63 2F 75
2107 M 25B
2108 V
2109 M B0 66
210A M 67
210B M 68
210F M 127
2110 M 69
2112 M 6C
2114 V
2115 M 6E
2116 M 6E 6F
2117 V
2119 M 70
211A M 71
211B M 72
211E V
2120 M 73 6D
2121 M 74 65 6C
2122 M 74 6D
2123 V
2124 M 7A
2125 V
2126 M 3C9
2127 V
2128 M 7A
2129 V
212A M 6B
212B M E5
212C M 62
212D M 63
212E V
212F M 65
2131 M 66
2132 M 214E
2133 M 6D
2134 M 6F
2135 M 5D0
2136 M 5D1
2137 M 5D2
2138 M 5D3
2139 M 69
213A V
213B M 66 61 78
213C M 3C0
213D M 3B3
213F M 3C0
2140 M 2211
2141 V
2145 M 64
2147 M 65
2148 M 69
2149 M 6A
214A V
2150 M 31 2044 37
2151 M 31 2044 39
2152 M 31 2044 31 30
2153 M 31 2044 33
2154 M 32 2044 33
2155 M 31 2044 35
2156 M 32 2044 35
2157 M 33 2044 35
2158 M 34 2044 35
2159 M 31 2044 36
215A M 35 2044 36
215B M 31 2044 38
215C M 33 2044 38
215D M 35 2044 38
215E M 37 2044 38
215F M 31 2044
2160 M 69
2161 M 69 69
2162 M 69 69 69
2163 M 69 76
2164 M 76
2165 M 76 69
2166 M 76 69 69
2167 M 76 69 69 69
2168 M 69 78
2169 M 78
216A M 78 69
216B M 78 69 69
216C M 6C
216D M 63
216E M 64
216F M 6D
2170 M 69
2171 M 69 69
2172 M 69 69 69
2173 M 69 76
2174 M 76
2175 M 76 69
2176 M 76 69 69
2177 M 76 69 69 69
2178 M 69 78
2179 M 78
217A M 78 69
217B M 78 69 69
217C M 6C
217D M 63
217E M 64
217F M 6D
2180 V
2183 M 2184
2184 V
2189 M 30 2044 33
218A V
218C X
2190 V
222C M 222B 222B
222D M 222B 222B 222B
222E V
222F M 222E 222E
2230 M 222E 222E 222E
2231 V
2329 M 3008
232A M 3009
232B V
242A X
2440 V
244B X
2460 M 31
2461 M 32
2462 M 33
2463 M 34
2464 M 35
2465 M 36
2466 M 37
2467 M 38
2468 M 39
2469 M 31 30
246A M 31 31
246B M 31 32
246C M 31 33
246D M 31 34
246E M 31 35
246F M 31 36
2470 M 31 37
2471 M 31 38
2472 M 31 39
2473 M 32 30
2474 M 28 31 29
2475 M 28 32 29
2476 M 28 33 29
2477 M 28 34 29
2478 M 28 35 29
2479 M 28 36 29
247A M 28 37 29
247B M 28 38 29
247C M 28 39 29
247D M 28 31 30 29
247E M 28 31 31 29
247F M 28 31 32 29
2480 M 28 31 33 29
2481 M 28 31 34 29
2482 M 28 31 35 29
2483 M 28 31 36 29
2484 M 28 31 37 29
2485 M 28 31 38 29
2486 M 28 31 39 29
2487 M 28 32 30 29
2488 X
249C M 28 61 29
249D M 28 62 29
249E M 28 63 29
249F M 28 64 29
24A0 M 28 65 29
24A1 M 28 66 29
24A2 M 28 67 29
24A3 M 28 68 29
24A4 M 28 69 29
24A5 M 28 6A 29
24A6 M 28 6B 29
24A7 M 28 6C 29
24A8 M 28 6D 29
24A9 M 28 6E 29
24AA M 28 6F 29
24AB M 28 70 29
24AC M 28 71 29
24AD M 28 72 29
24AE M 28 73 29
24AF M 28 74 29
24B0 M 28 75 29
24B1 M 28 76 29
24B2 M 28 77 29
24B3 M 28 78 29
24B4 M 28 79 29
24B5 M 28 7A 29
24B6 M 61
24B7 M 62
24B8 M 63
24B9 M 64
24BA M 65
24BB M 66
24BC M 67
24BD M 68
24BE M 69
24BF M 6A
24C0 M 6B
24C1 M 6C
24C2 M 6D
24C3 M 6E
24C4 M 6F
24C5 M 70
24C6 M 71
24C7 M 72
24C8 M 73
24C9 M 74
24CA M 75
24CB M 76
24CC M 77
24CD M 78
24CE M 79
24CF M 7A
24D0 M 61
24D1 M 62
24D2 M 63
24D3 M 64
24D4 M 65
24D5 M 66
24D6 M 67
24D7 M 68
24D8 M 69
24D9 M 6A
24DA M 6B
24DB M 6C
24DC M 6D
24DD M 6E
24DE M 6F
24DF M 70
24E0 M 71
24E1 M 72
24E2 M 73
24E3 M 74
24E4 M 75
24E5 M 76
24E6 M 77
24E7 M 78
24E8 M 79
24E9 M 7A
24EA M 30
24EB V
2A0C M 222B 222B 222B 222B
2A0D V
2A74 M 3A 3A 3D
2A75 M 3D 3D
2A76 M 3D 3D 3D
2A77 V
2ADC M 2ADD 338
2ADD V
2B74 X
2B76 V
2C00 M 2C30
2C01 M 2C31
2C02 M 2C32
2C03 M 2C33
2C04 M 2C34
2C05 M 2C35
2C06 M 2C36
2C07 M 2C37
2C08 M 2C38
2C09 M 2C39
2C0A M 2C3A
2C0B M 2C3B
2C0C M 2C3C
2C0D M 2C3D
2C0E M 2C3E
2C0F M 2C3F
2C10 M 2C40
2C11 M 2C41
2C12 M 2C42
2C13 M 2C43
2C14 M 2C44
2C15 M 2C45
2C16 M 2C46
2C17 M 2C47
2C18 M 2C48
2C19 M 2C49
2C1A M 2C4A
2C1B M 2C4B
2C1C M 2C4C
2C1D M 2C4D
2C1E M 2C4E
2C1F M 2C4F
2C20 M 2C50
2C21 M 2C51
2C22 M 2C52
2C23 M 2C53
2C24 M 2C54
2C25 M 2C55
2C26 M 2C56
2C27 M 2C57
2C28 M 2C58
2C29 M 2C59
2C2A M 2C5A
2C2B M 2C5B
2C2C M 2C5C
2C2D M 2C5D
2C2E M 2C5E
2C2F M 2C5F
2C30 V
2C60 M 2C61
2C61 V
2C62 M 26B
2C63 M 1D7D
2C64 M 27D
2C65 V
2C67 M 2C68
2C68 V
2C69 M 2C6A
2C6A V
2C6B M 2C6C
2C6C V
2C6D M 251
2C6E M 271
2C6F M 250
2C70 M 252
2C71 V
2C72 M 2C73
2C73 V
2C75 M 2C76
2C76 V
2C7C M 6A
2C7D M 76
2C7E M 23F
2C7F M 240
2C80 M 2C81
2C81 V
2C82 M 2C83
2C83 V
2C84 M 2C85
2C85 V
2C86 M 2C87
2C87 V
2C88 M 2C89
2C89 V
2C8A M 2C8B
2C8B V
2C8C M 2C8D
2C8D V
2C8E M 2C8F
2C8F V
2C90 M 2C91
2C91 V
2C92 M 2C93
2C93 V
2C94 M 2C95
2C95 V
2C96 M 2C97
2C97 V
2C98 M 2C99
2C99 V
2C9A M 2C9B
2C9B V
2C9C M 2C9D
2C9D V
2C9E M 2C9F
2C9F V
2CA0 M 2CA1
2CA1 V
2CA2 M 2CA3
2CA3 V
2CA4 M 2CA5
2CA5 V
2CA6 M 2CA7
2CA7 V
2CA8 M 2CA9
2CA9 V
2CAA M 2CAB
2CAB V
2CAC M 2CAD
2CAD V
2CAE M 2CAF
2CAF V
2CB0 M 2CB1
2CB1 V
2CB2 M 2CB3
2CB3 V
2CB4 M 2CB5
2CB5 V
2CB6 M 2CB7
2CB7 V
2CB8 M 2CB9
2CB9 V
2CBA M 2CBB
2CBB V
2CBC M 2CBD
2CBD V
2CBE M 2CBF
2CBF V
2CC0 M 2CC1
2CC1 V
2CC2 M 2CC3
2CC3 V
2CC4 M 2CC5
2CC5 V
2CC6 M 2CC7
2CC7 V
2CC8 M 2CC9
2CC9 V
2CCA M 2CCB
2CCB V
2CCC M 2CCD
2CCD V
2CCE M 2CCF
2CCF V
2CD0 M 2CD1
2CD1 V
2CD2 M 2CD3
2CD3 V
2CD4 M 2CD5
2CD5 V
2CD6 M 2CD7
2CD7 V
2CD8 M 2CD9
2CD9 V
2CDA M 2CDB
2CDB V
2CDC M 2CDD
2CDD V
2CDE M 2CDF
2CDF V
2CE0 M 2CE1
2CE1 V
2CE2 M 2CE3
2CE3 V
2CEB M 2CEC
2CEC V
2CED M 2CEE
2CEE V
2CF2 M 2CF3
2CF3 V
2CF4 X
2CF9 V
2D26 X
2D27 V
2D28 X
2D2D V
2D2E X
2D30 V
2D68 X
2D6F M 2D61
2D70 V
2D71 X
2D7F V
2D97 X
2DA0 V
2DA7 X
2DA8 V
2DAF X
2DB0 V
2DB7 X
2DB8 V
2DBF X
2DC0 V
2DC7 X
2DC8 V
2DCF X
2DD0 V
2DD7 X
2DD8 V
2DDF X
2DE0 V
2E5E X
2E60 V
2E64 X
2E80 V
2E9A X
2E9B V
2E9F M 6BCD
2EA0 V
2EF3 M 9F9F
2EF4 X
2F00 M 4E00
2F01 M 4E28
2F02 M 4E36
2F03 M 4E3F
2F04 M 4E59
2F05 M 4E85
2F06 M 4E8C
2F07 M 4EA0
2F08 M 4EBA
2F09 M 513F
2F0A M 5165
2F0B M 516B
2F0C M 5182
2F0D M 5196
2F0E M 51AB
2F0F M 51E0
2F10 M 51F5
2F11 M 5200
2F12 M 529B
2F13 M 52F9
2F14 M 5315
2F15 M 531A
2F16 M 5338
2F17 M 5341
2F18 M 535C
2F19 M 5369
2F1A M 5382
2F1B M 53B6
2F1C M 53C8
2F1D M 53E3
2F1E M 56D7
2F1F M 571F
2F20 M 58EB
2F21 M 5902
2F22 M 590A
2F23 M 5915
2F24 M 5927
2F25 M 5973
2F26 M 5B50
2F27 M 5B80
2F28 M 5BF8
2F29 M 5C0F
2F2A M 5C22
2F2B M 5C38
2F2C M 5C6E
2F2D M 5C71
2F2E M 5DDB
2F2F M 5DE5
2F30 M 5DF1
2F31 M 5DFE
2F32 M 5E72
2F33 M 5E7A
2F34 M 5E7F
2F35 M 5EF4
2F36 M 5EFE
2F37 M 5F0B
2F38 M 5F13
2F39 M 5F50
2F3A M 5F61
2F3B M 5F73
2F3C M 5FC3
2F3D M 6208
2F3E M 6236
2F3F M 624B
2F40 M 652F
2F41 M 6534
2F42 M 6587
2F43 M 6597
2F44 M 65A4
2F45 M 65B9
2F46 M 65E0
2F47 M 65E5
2F48 M 66F0
2F49 M 6708
2F4A M 6728
2F4B M 6B20
2F4C M 6B62
2F4D M 6B79
2F4E M 6BB3
2F4F M 6BCB
2F50 M 6BD4
2F51 M 6BDB
2F52 M 6C0F
2F53 M 6C14
2F54 M 6C34
2F55 M 706B
2F56 M 722A
2F57 M 7236
2F58 M 723B
2F59 M 723F
2F5A M 7247
2F5B M 7259
2F5C M 725B
2F5D M 72AC
2F5E M 7384
2F5F M 7389
2F60 M 74DC
2F61 M 74E6
2F62 M 7518
2F63 M 751F
2F64 M 7528
2F65 M 7530
2F66 M 758B
2F67 M 7592
2F68 M 7676
2F69 M 767D
2F6A M 76AE
2F6B M 76BF
2F6C M 76EE
2F6D M 77DB
2F6E M 77E2
2F6F M 77F3
2F70 M 793A
2F71 M 79B8
2F72 M 79BE
2F73 M 7A74
2F74 M 7ACB
2F75 M 7AF9
2F76 M 7C73
2F77 M 7CF8
2F78 M 7F36
2F79 M 7F51
2F7A M 7F8A
2F7B M 7FBD
2F7C M 8001
2F7D M 800C
2F7E M 8012
2F7F M 8033
2F80 M 807F
2F81 M 8089
2F82 M 81E3
2F83 M 81EA
2F84 M 81F3
2F85 M 81FC
2F86 M 820C
2F87 M 821B
2F88 M 821F
2F89 M 826E
2F8A M 8272
2F8B M 8278
2F8C M 864D
2F8D M 866B
2F8E M 8840
2F8F M 884C
2F90 M 8863
2F91 M 897E
2F92 M 898B
2F93 M 89D2
2F94 M 8A00
2F95 M 8C37
2F96 M 8C46
2F97 M 8C55
2F98 M 8C78
2F99 M 8C9D
2F9A M 8D64
2F9B M 8D70
2F9C M 8DB3
2F9D M 8EAB
2F9E M 8ECA
2F9F M 8F9B
2FA0 M 8FB0
2FA1 M 8FB5
2FA2 M 9091
2FA3 M 9149
2FA4 M 91C6
2FA5 M 91CC
2FA6 M 91D1
2FA7 M 9577
2FA8 M 9580
2FA9 M 961C
2FAA M 96B6
2FAB M 96B9
2FAC M 96E8
2FAD M 9751
2FAE M 975E
2FAF M 9762
2FB0 M 9769
2FB1 M 97CB
2FB2 M 97ED
2FB3 M 97F3
2FB4 M 9801
2FB5 M 98A8
2FB6 M 98DB
2FB7 M 98DF
2FB8 M 9996
2FB9 M 9999
2FBA M 99AC
2FBB M 9AA8
2FBC M 9AD8
2FBD M 9ADF
2FBE M 9B25
2FBF M 9B2F
2FC0 M 9B32
2FC1 M 9B3C
2FC2 M 9B5A
2FC3 M 9CE5
2FC4 M 9E75
2FC5 M 9E7F
2FC6 M 9EA5
2FC7 M 9EBB
2FC8 M 9EC3
2FC9 M 9ECD
2FCA M 9ED1
2FCB M 9EF9
2FCC M 9EFD
2FCD M 9F0E
2FCE M 9F13
2FCF M 9F20
2FD0 M 9F3B
2FD1 M 9F4A
2FD2 M 9F52
2FD3 M 9F8D
2FD4 M 9F9C
2FD5 M 9FA0
2FD6 X
3000 M 20
3001 V
3002 M 2E
3003 V
3036 M 3012
3037 V
3038 M 5341
3039 M 5344
303A M 5345
303B V
3040 X
3041 V
3097 X
3099 V
309B M 20 3099
309C M 20 309A
309D V
309F M 3088 308A
30A0 V
30FF M 30B3 30C8
3100 X
3105 V
3130 X
3131 M 1100
3132 M 1101
3133 M 11AA
3134 M 1102
3135 M 11AC
3136 M 11AD
3137 M 1103
3138 M 1104
3139 M 1105
313A M 11B0
313B M 11B1
313C M 11B2
313D M 11B3
313E M 11B4
313F M 11B5
3140 M 111A
3141 M 1106
3142 M 1107
3143 M 1108
3144 M 1121
3145 M 1109
3146 M 110A
3147 M 110B
3148 M 110C
3149 M 110D
314A M 110E
314B M 110F
314C M 1110
314D M 1111
314E M 1112
314F M 1161
3150 M 1162
3151 M 1163
3152 M 1164
3153 M 1165
3154 M 1166
3155 M 1167
3156 M 1168
3157 M 1169
3158 M 116A
3159 M 116B
315A M 116C
315B M 116D
315C M 116E
315D M 116F
315E M 1170
315F M 1171
3160 M 1172
3161 M 1173
3162 M 1174
3163 M 1175
3164 I
3165 M 1114
3166 M 1115
3167 M 11C7
3168 M 11C8
3169 M 11CC
316A M 11CE
316B M 11D3
316C M 11D7
316D M 11D9
316E M 111C
316F M 11DD
3170 M 11DF
3171 M 111D
3172 M 111E
3173 M 1120
3174 M 1122
3175 M 1123
3176 M 1127
3177 M 1129
3178 M 112B
3179 M 112C
317A M 112D
317B M 112E
317C M 112F
317D M 1132
317E M 1136
317F M 1140
3180 M 1147
3181 M 114C
3182 M 11F1
3183 M 11F2
3184 M 1157
3185 M 1158
3186 M 1159
3187 M 1184
3188 M 1185
3189 M 1188
318A M 1191
318B M 1192
318C M 1194
318D M 119E
318E M 11A1
318F X
3190 V
3192 M 4E00
3193 M 4E8C
3194 M 4E09
3195 M 56DB
3196 M 4E0A
3197 M 4E2D
3198 M 4E0B
3199 M 7532
319A M 4E59
319B M 4E19
319C M 4E01
319D M 5929
319E M 5730
319F M 4EBA
31A0 V
31E6 X
31F0 V
3200 M 28 1100 29
3201 M 28 1102 29
3202 M 28 1103 29
3203 M 28 1105 29
3204 M 28 1106 29
3205 M 28 1107 29
3206 M 28 1109 29
3207 M 28 110B 29
3208 M 28 110C 29
3209 M 28 110E 29
320A M 28 110F 29
320B M 28 1110 29
320C M 28 1111 29
320D M 28 1112 29
320E M 28 AC00 29
320F M 28 B098 29
3210 M 28 B2E4 29
3211 M 28 B77C 29
3212 M 28 B9C8 29
3213 M 28 BC14 29
3214 M 28 C0AC 29
3215 M 28 C544 29
3216 M 28 C790 29
3217 M 28 CC28 29
3218 M 28 CE74 29
3219 M 28 D0C0 29
321A M 28 D30C 29
321B M 28 D558 29
321C M 28 C8FC 29
321D M 28 C624 C804 29
321E M 28 C624 D6C4 29
321F X
3220 M 28 4E00 29
3221 M 28 4E8C 29
3222 M 28 4E09 29
3223 M 28 56DB 29
3224 M 28 4E94 29
3225 M 28 516D 29
3226 M 28 4E03 29
3227 M 28 516B 29
3228 M 28 4E5D 29
3229 M 28 5341 29
322A M 28 6708 29
322B M 28 706B 29
322C M 28 6C34 29
322D M 28 6728 29
322E M 28 91D1 29
322F M 28 571F 29
3230 M 28 65E5 29
3231 M 28 682A 29
3232 M 28 6709 29
3233 M 28 793E 29
3234 M 28 540D 29
3235 M 28 7279 29
3236 M 28 8CA1 29
3237 M 28 795D 29
3238 M 28 52B4 29
3239 M 28 4EE3 29
323A M 28 547C 29
323B M 28 5B66 29
323C M 28 76E3 29
323D M 28 4F01 29
323E M 28 8CC7 29
323F M 28 5354 29
3240 M 28 796D 29
3241 M 28 4F11 29
3242 M 28 81EA 29
3243 M 28 81F3 29
3244 M 554F
3245 M 5E7C
3246 M 6587
3247 M 7B8F
3248 V
3250 M 70 74 65
3251 M 32 31
3252 M 32 32
3253 M 32 33
3254 M 32 34
3255 M 32 35
3256 M 32 36
3257 M 32 37
3258 M 32 38
3259 M 32 39
325A M 33 30
325B M 33 31
325C M 33 32
325D M 33 33
325E M 33 34
325F M 33 35
3260 M 1100
3261 M 1102
3262 M 1103
3263 M 1105
3264 M 1106
3265 M 1107
3266 M 1109
3267 M 110B
3268 M 110C
3269 M 110E
326A M 110F
326B M 1110
326C M 1111
326D M 1112
326E M AC00
326F M B098
3270 M B2E4
3271 M B77C
3272 M B9C8
3273 M BC14
3274 M C0AC
3275 M C544
3276 M C790
3277 M CC28
3278 M CE74
3279 M D0C0
327A M D30C
327B M D558
327C M CC38 ACE0
327D M C8FC C758
327E M C6B0
327F V
3280 M 4E00
3281 M 4E8C
3282 M 4E09
3283 M 56DB
3284 M 4E94
3285 M 516D
3286 M 4E03
3287 M 516B
3288 M 4E5D
3289 M 5341
328A M 6708
328B M 706B
328C M 6C34
328D M 6728
328E M 91D1
328F M 571F
3290 M 65E5
3291 M 682A
3292 M 6709
3293 M 793E
3294 M 540D
3295 M 7279
3296 M 8CA1
3297 M 795D
3298 M 52B4
3299 M 79D8
329A M 7537
329B M 5973
329C M 9069
329D M 512A
329E M 5370
329F M 6CE8
32A0 M 9805
32A1 M 4F11
32A2 M 5199
32A3 M 6B63
32A4 M 4E0A
32A5 M 4E2D
32A6 M 4E0B
32A7 M 5DE6
32A8 M 53F3
32A9 M 533B
32AA M 5B97
32AB M 5B66
32AC M 76E3
32AD M 4F01
32AE M 8CC7
32AF M 5354
32B0 M 591C
32B1 M 33 36
32B2 M 33 37
32B3 M 33 38
32B4 M 33 39
32B5 M 34 30
32B6 M 34 31
32B7 M 34 32
32B8 M 34 33
32B9 M 34 34
32BA M 34 35
32BB M 34 36
32BC M 34 37
32BD M 34 38
32BE M 34 39
32BF M 35 30
32C0 M 31 6708
32C1 M 32 6708
32C2 M 33 6708
32C3 M 34 6708
32C4 M 35 6708
32C5 M 36 6708
32C6 M 37 6708
32C7 M 38 6708
32C8 M 39 6708
32C9 M 31 30 6708
32CA M 31 31 6708
32CB M 31 32 6708
32CC M 68 67
32CD M 65 72 67
32CE M 65 76
32CF M 6C 74 64
32D0 M 30A2
32D1 M 30A4
32D2 M 30A6
32D3 M 30A8
32D4 M 30AA
32D5 M 30AB
32D6 M 30AD
32D7 M 30AF
32D8 M 30B1
32D9 M 30B3
32DA M 30B5
32DB M 30B7
32DC M 30B9
32DD M 30BB
32DE M 30BD
32DF M 30BF
32E0 M 30C1
32E1 M 30C4
32E2 M 30C6
32E3 M 30C8
32E4 M 30CA
32E5 M 30CB
32E6 M 30CC
32E7 M 30CD
32E8 M 30CE
32E9 M 30CF
32EA M 30D2
32EB M 30D5
32EC M 30D8
32ED M 30DB
32EE M 30DE
32EF M 30DF
32F0 M 30E0
32F1 M 30E1
32F2 M 30E2
32F3 M 30E4
32F4 M 30E6
32F5 M 30E8
32F6 M 30E9
32F7 M 30EA
32F8 M 30EB
32F9 M 30EC
32FA M 30ED
32FB M 30EF
32FC M 30F0
32FD M 30F1
32FE M 30F2
32FF M 4EE4 548C
3300 M 30A2 30D1 30FC 30C8
3301 M 30A2 30EB 30D5 30A1
3302 M 30A2 30F3 30DA 30A2
3303 M 30A2 30FC 30EB
3304 M 30A4 30CB 30F3 30B0
3305 M 30A4 30F3 30C1
3306 M 30A6 30A9 30F3
3307 M 30A8 30B9 30AF 30FC 30C9
3308 M 30A8 30FC 30AB 30FC
3309 M 30AA 30F3 30B9
330A M 30AA 30FC 30E0
330B M 30AB 30A4 30EA
330C M 30AB 30E9 30C3 30C8
330D M 30AB 30ED 30EA 30FC
330E M 30AC 30ED 30F3
330F M 30AC 30F3 30DE
3310 M 30AE 30AC
3311 M 30AE 30CB 30FC
3312 M 30AD 30E5 30EA 30FC
3313 M 30AE 30EB 30C0 30FC
3314 M 30AD 30ED
3315 M 30AD 30ED 30B0 30E9 30E0
3316 M 30AD 30ED 30E1 30FC 30C8 30EB
3317 M 30AD 30ED 30EF 30C3 30C8
3318 M 30B0 30E9 30E0
3319 M 30B0 30E9 30E0 30C8 30F3
331A M 30AF 30EB 30BC 30A4 30ED
331B M 30AF 30ED 30FC 30CD
331C M 30B1 30FC 30B9
331D M 30B3 30EB 30CA
331E M 30B3 30FC 30DD
331F M 30B5 30A4 30AF 30EB
3320 M 30B5 30F3 30C1 30FC 30E0
3321 M 30B7 30EA 30F3 30B0
3322 M 30BB 30F3 30C1
3323 M 30BB 30F3 30C8
3324 M 30C0 30FC 30B9
3325 M 30C7 30B7
3326 M 30C9 30EB
3327 M 30C8 30F3
3328 M 30CA 30CE
3329 M 30CE 30C3 30C8
332A M 30CF 30A4 30C4
332B M 30D1 30FC 30BB 30F3 30C8
332C M 30D1 30FC 30C4
332D M 30D0 30FC 30EC 30EB
332E M 30D4 30A2 30B9 30C8 30EB
332F M 30D4 30AF 30EB
3330 M 30D4 30B3
3331 M 30D3 30EB
3332 M 30D5 30A1 30E9 30C3 30C9
3333 M 30D5 30A3 30FC 30C8
3334 M 30D6 30C3 30B7 30A7 30EB
3335 M 30D5 30E9 30F3
3336 M 30D8 30AF 30BF 30FC 30EB
3337 M 30DA 30BD
3338 M 30DA 30CB 30D2
3339 M 30D8 30EB 30C4
333A M 30DA 30F3 30B9
333B M 30DA 30FC 30B8
333C M 30D9 30FC 30BF
333D M 30DD 30A4 30F3 30C8
333E M 30DC 30EB 30C8
333F M 30DB 30F3
3340 M 30DD 30F3 30C9
3341 M 30DB 30FC 30EB
3342 M 30DB 30FC 30F3
3343 M 30DE 30A4 30AF 30ED
3344 M 30DE 30A4 30EB
3345 M 30DE 30C3 30CF
3346 M 30DE 30EB 30AF
3347 M 30DE 30F3 30B7 30E7 30F3
3348 M 30DF 30AF 30ED 30F3
3349 M 30DF 30EA
334A M 30DF 30EA 30D0 30FC 30EB
334B M 30E1 30AC
334C M 30E1 30AC 30C8 30F3
334D M 30E1 30FC 30C8 30EB
334E M 30E4 30FC 30C9
334F M 30E4 30FC 30EB
3350 M 30E6 30A2 30F3
3351 M 30EA 30C3 30C8 30EB
3352 M 30EA 30E9
3353 M 30EB 30D4 30FC
3354 M 30EB 30FC 30D6 30EB
3355 M 30EC 30E0
3356 M 30EC 30F3 30C8 30B2 30F3
3357 M 30EF 30C3 30C8
3358 M 30 70B9
3359 M 31 70B9
335A M 32 70B9
335B M 33 70B9
335C M 34 70B9
335D M 35 70B9
335E M 36 70B9
335F M 37 70B9
3360 M 38 70B9
3361 M 39 70B9
3362 M 31 30 70B9
3363 M 31 31 70B9
3364 M 31 32 70B9
3365 M 31 33 70B9
3366 M 31 34 70B9
3367 M 31 35 70B9
3368 M 31 36 70B9
3369 M 31 37 70B9
336A M 31 38 70B9
336B M 31 39 70B9
336C M 32 30 70B9
336D M 32 31 70B9
336E M 32 32 70B9
336F M 32 33 70B9
3370 M 32 34 70B9
3371 M 68 70 61
3372 M 64 61
3373 M 61 75
3374 M 62 61 72
3375 M 6F 76
3376 M 70 63
3377 M 64 6D
3378 M 64 6D 32
3379 M 64 6D 33
337A M 69 75
337B M 5E73 6210
337C M 662D 548C
337D M 5927 6B63
337E M 660E 6CBB
337F M 682A 5F0F 4F1A 793E
3380 M 70 61
3381 M 6E 61
3382 M 3BC 61
3383 M 6D 61
3384 M 6B 61
3385 M 6B 62
3386 M 6D 62
3387 M 67 62
3388 M 63 61 6C
3389 M 6B 63 61 6C
338A M 70 66
338B M 6E 66
338C M 3BC 66
338D M 3BC 67
338E M 6D 67
338F M 6B 67
3390 M 68 7A
3391 M 6B 68 7A
3392 M 6D 68 7A
3393 M 67 68 7A
3394 M 74 68 7A
3395 M 3BC 6C
3396 M 6D 6C
3397 M 64 6C
3398 M 6B 6C
3399 M 66 6D
339A M 6E 6D
339B M 3BC 6D
339C M 6D 6D
339D M 63 6D
339E M 6B 6D
339F M 6D 6D 32
33A0 M 63 6D 32
33A1 M 6D 32
33A2 M 6B 6D 32
33A3 M 6D 6D 33
33A4 M 63 6D 33
33A5 M 6D 33
33A6 M 6B 6D 33
33A7 M 6D 2215 73
33A8 M 6D 2215 73 32
33A9 M 70 61
33AA M 6B 70 61
33AB M 6D 70 61
33AC M 67 70 61
33AD M 72 61 64
33AE M 72 61 64 2215 73
33AF M 72 61 64 2215 73 32
33B0 M 70 73
33B1 M 6E 73
33B2 M 3BC 73
33B3 M 6D 73
33B4 M 70 76
33B5 M 6E 76
33B6 M 3BC 76
33B7 M 6D 76
33B8 M 6B 76
33B9 M 6D 76
33BA M 70 77
33BB M 6E 77
33BC M 3BC 77
33BD M 6D 77
33BE M 6B 77
33BF M 6D 77
33C0 M 6B 3C9
33C1 M 6D 3C9
33C2 X
33C3 M 62 71
33C4 M 63 63
33C5 M 63 64
33C6 M 63 2215 6B 67
33C7 X
33C8 M 64 62
33C9 M 67 79
33CA M 68 61
33CB M 68 70
33CC M 69 6E
33CD M 6B 6B
33CE M 6B 6D
33CF M 6B 74
33D0 M 6C 6D
33D1 M 6C 6E
33D2 M 6C 6F 67
33D3 M 6C 78
33D4 M 6D 62
33D5 M 6D 69 6C
33D6 M 6D 6F 6C
33D7 M 70 68
33D8 X
33D9 M 70 70 6D
33DA M 70 72
33DB M 73 72
33DC M 73 76
33DD M 77 62
33DE M 76 2215 6D
33DF M 61 2215 6D
33E0 M 31 65E5
33E1 M 32 65E5
33E2 M 33 65E5
33E3 M 34 65E5
33E4 M 35 65E5
33E5 M 36 65E5
33E6 M 37 65E5
33E7 M 38 65E5
33E8 M 39 65E5
33E9 M 31 30 65E5
33EA M 31 31 65E5
33EB M 31 32 65E5
33EC M 31 33 65E5
33ED M 31 34 65E5
33EE M 31 35 65E5
33EF M 31 36 65E5
33F0 M 31 37 65E5
33F1 M 31 38 65E5
33F2 M 31 39 65E5
33F3 M 32 30 65E5
33F4 M 32 31 65E5
33F5 M 32 32 65E5
33F6 M 32 33 65E5
33F7 M 32 34 65E5
33F8 M 32 35 65E5
33F9 M 32 36 65E5
33FA M 32 37 65E5
33FB M 32 38 65E5
33FC M 32 39 65E5
33FD M 33 30 65E5
33FE M 33 31 65E5
33FF M 67 61 6C
3400 V
A48D X
A490 V
A4C7 X
A4D0 V
A62C X
A640 M A641
A641 V
A642 M A643
A643 V
A644 M A645
A645 V
A646 M A647
A647 V
A648 M A649
A649 V
A64A M A64B
A64B V
A64C M A64D
A64D V
A64E M A64F
A64F V
A650 M A651
A651 V
A652 M A653
A653 V
A654 M A655
A655 V
A656 M A657
A657 V
A658 M A659
A659 V
A65A M A65B
A65B V
A65C M A65D
A65D V
A65E M A65F
A65F V
A660 M A661
A661 V
A662 M A663
A663 V
A664 M A665
A665 V
A666 M A667
A667 V
A668 M A669
A669 V
A66A M A66B
A66B V
A66C M A66D
A66D V
A680 M A681
A681 V
A682 M A683
A683 V
A684 M A685
A685 V
A686 M A687
A687 V
A688 M A689
A689 V
A68A M A68B
A68B V
A68C M A68D
A68D V
A68E M A68F
A68F V
A690 M A691
A691 V
A692 M A693
A693 V
A694 M A695
A695 V
A696 M A697
A697 V
A698 M A699
A699 V
A69A M A69B
A69B V
A69C M 44A
A69D M 44C
A69E V
A6F8 X
A700 V
A722 M A723
A723 V
A724 M A725
A725 V
A726 M A727
A727 V
A728 M A729
A729 V
A72A M A72B
A72B V
A72C M A72D
A72D V
A72E M A72F
A72F V
A732 M A733
A733 V
A734 M A735
A735 V
A736 M A737
A737 V
A738 M A739
A739 V
A73A M A73B
A73B V
A73C M A73D
A73D V
A73E M A73F
A73F V
A740 M A741
A741 V
A742 M A743
A743 V
A744 M A745
A745 V
A746 M A747
A747 V
A748 M A749
A749 V
A74A M A74B
A74B V
A74C M A74D
A74D V
A74E M A74F
A74F V
A750 M A751
A751 V
A752 M A753
A753 V
A754 M A755
A755 V
A756 M A757
A757 V
A758 M A759
A759 V
A75A M A75B
A75B V
A75C M A75D
A75D V
A75E M A75F
A75F V
A760 M A761
A761 V
A762 M A763
A763 V
A764 M A765
A765 V
A766 M A767
A767 V
A768 M A769
A769 V
A76A M A76B
A76B V
A76C M A76D
A76D V
A76E M A76F
A76F V
A770 M A76F
A771 V
A779 M A77A
A77A V
A77B M A77C
A77C V
A77D M 1D79
A77E M A77F
A77F V
A780 M A781
A781 V
A782 M A783
A783 V
A784 M A785
A785 V
A786 M A787
A787 V
A78B M A78C
A78C V
A78D M 265
A78E V
A790 M A791
A791 V
A792 M A793
A793 V
A796 M A797
A797 V
A798 M A799
A799 V
A79A M A79B
A79B V
A79C M A79D
A79D V
A79E M A79F
A79F V
A7A0 M A7A1
A7A1 V
A7A2 M A7A3
A7A3 V
A7A4 M A7A5
A7A5 V
A7A6 M A7A7
A7A7 V
A7A8 M A7A9
A7A9 V
A7AA M 266
A7AB M 25C
A7AC M 261
A7AD M 26C
A7AE M 26A
A7AF V
A7B0 M 29E
A7B1 M 287
A7B2 M 29D
A7B3 M AB53
A7B4 M A7B5
A7B5 V
A7B6 M A7B7
A7B7 V
A7B8 M A7B9
A7B9 V
A7BA M A7BB
A7BB V
A7BC M A7BD
A7BD V
A7BE M A7BF
A7BF V
A7C0 M A7C1
A7C1 V
A7C2 M A7C3
A7C3 V
A7C4 M A794
A7C5 M 282
A7C6 M 1D8E
A7C7 M A7C8
A7C8 V
A7C9 M A7CA
A7CA V
A7CB M 264
A7CC M A7CD
A7CD V
A7CE M A7CF
A7CF V
A7D0 M A7D1
A7D1 V
A7D2 M A7D3
A7D3 V
A7D4 M A7D5
A7D5 V
A7D6 M A7D7
A7D7 V
A7D8 M A7D9
A7D9 V
A7DA M A7DB
A7DB V
A7DC M 19B
A7DD M 277
A7DE X
A7E2 M 27C
A7E3 X
A7F1 M 73
A7F2 M 63
A7F3 M 66
A7F4 M 71
A7F5 M A7F6
A7F6 V
A7F8 M 127
A7F9 M 153
A7FA V
A82D X
A830 V
A83A X
A840 V
A878 X
A880 V
A8C6 X
A8CE V
A8DA X
A8E0 V
A954 X
A95F V
A97D X
A980 V
A9CE X
A9CF V
A9DA X
A9DE V
A9FF X
AA00 V
AA37 X
AA40 V
AA4E X
AA50 V
AA5A X
AA5C V
AAC3 X
AADB V
AAF7 X
AB01 V
AB07 X
AB09 V
AB0F X
AB11 V
AB17 X
AB20 V
AB27 X
AB28 V
AB2F X
AB30 V
AB5C M A727
AB5D M AB37
AB5E M 26B
AB5F M AB52
AB60 V
AB69 M 28D
AB6A V
AB6C M AB4B
AB6D M AB4C
AB6E X
AB70 M 13A0
AB71 M 13A1
AB72 M 13A2
AB73 M 13A3
AB74 M 13A4
AB75 M 13A5
AB76 M 13A6
AB77 M 13A7
AB78 M 13A8
AB79 M 13A9
AB7A M 13AA
AB7B M 13AB
AB7C M 13AC
AB7D M 13AD
AB7E M 13AE
AB7F M 13AF
AB80 M 13B0
AB81 M 13B1
AB82 M 13B2
AB83 M 13B3
AB84 M 13B4
AB85 M 13B5
AB86 M 13B6
AB87 M 13B7
AB88 M 13B8
AB89 M 13B9
AB8A M 13BA
AB8B M 13BB
AB8C M 13BC
AB8D M 13BD
AB8E M 13BE
AB8F M 13BF
AB90 M 13C0
AB91 M 13C1
AB92 M 13C2
AB93 M 13C3
AB94 M 13C4
AB95 M 13C5
AB96 M 13C6
AB97 M 13C7
AB98 M 13C8
AB99 M 13C9
AB9A M 13CA
AB9B M 13CB
AB9C M 13CC
AB9D M 13CD
AB9E M 13CE
AB9F M 13CF
ABA0 M 13D0
ABA1 M 13D1
ABA2 M 13D2
ABA3 M 13D3
ABA4 M 13D4
ABA5 M 13D5
ABA6 M 13D6
ABA7 M 13D7
ABA8 M 13D8
ABA9 M 13D9
ABAA M 13DA
ABAB M 13DB
ABAC M 13DC
ABAD M 13DD
ABAE M 13DE
ABAF M 13DF
ABB0 M 13E0
ABB1 M 13E1
ABB2 M 13E2
ABB3 M 13E3
ABB4 M 13E4
ABB5 M 13E5
ABB6 M 13E6
ABB7 M 13E7
ABB8 M 13E8
ABB9 M 13E9
ABBA M 13EA
ABBB M 13EB
ABBC M 13EC
ABBD M 13ED
ABBE M 13EE
ABBF M 13EF
ABC0 V
ABEE X
ABF0 V
ABFA X
AC00 V
D7A4 X
D7B0 V
D7C7 X
D7CB V
D7FC X
F900 M 8C48
F901 M 66F4
F902 M 8ECA
F903 M 8CC8
F904 M 6ED1
F905 M 4E32
F906 M 53E5
F907 M 9F9C
F909 M 5951
F90A M 91D1
F90B M 5587
F90C M 5948
F90D M 61F6
F90E M 7669
F90F M 7F85
F910 M 863F
F911 M 87BA
F912 M 88F8
F913 M 908F
F914 M 6A02
F915 M 6D1B
F916 M 70D9
F917 M 73DE
F918 M 843D
F919 M 916A
F91A M 99F1
F91B M 4E82
F91C M 5375
F91D M 6B04
F91E M 721B
F91F M 862D
F920 M 9E1E
F921 M 5D50
F922 M 6FEB
F923 M 85CD
F924 M 8964
F925 M 62C9
F926 M 81D8
F927 M 881F
F928 M 5ECA
F929 M 6717
F92A M 6D6A
F92B M 72FC
F92C M 90CE
F92D M 4F86
F92E M 51B7
F92F M 52DE
F930 M 64C4
F931 M 6AD3
F932 M 7210
F933 M 76E7
F934 M 8001
F935 M 8606
F936 M 865C
F937 M 8DEF
F938 M 9732
F939 M 9B6F
F93A M 9DFA
F93B M 788C
F93C M 797F
F93D M 7DA0
F93E M 83C9
F93F M 9304
F940 M 9E7F
F941 M 8AD6
F942 M 58DF
F943 M 5F04
F944 M 7C60
F945 M 807E
F946 M 7262
F947 M 78CA
F948 M 8CC2
F949 M 96F7
F94A M 58D8
F94B M 5C62
F94C M 6A13
F94D M 6DDA
F94E M 6F0F
F94F M 7D2F
F950 M 7E37
F951 M 964B
F952 M 52D2
F953 M 808B
F954 M 51DC
F955 M 51CC
F956 M 7A1C
F957 M 7DBE
F958 M 83F1
F959 M 9675
F95A M 8B80
F95B M 62CF
F95C M 6A02
F95D M 8AFE
F95E M 4E39
F95F M 5BE7
F960 M 6012
F961 M 7387
F962 M 7570
F963 M 5317
F964 M 78FB
F965 M 4FBF
F966 M 5FA9
F967 M 4E0D
F968 M 6CCC
F969 M 6578
F96A M 7D22
F96B M 53C3
F96C M 585E
F96D M 7701
F96E M 8449
F96F M 8AAA
F970 M 6BBA
F971 M 8FB0
F972 M 6C88
F973 M 62FE
F974 M 82E5
F975 M 63A0
F976 M 7565
F977 M 4EAE
F978 M 5169
F979 M 51C9
F97A M 6881
F97B M 7CE7
F97C M 826F
F97D M 8AD2
F97E M 91CF
F97F M 52F5
F980 M 5442
F981 M 5973
F982 M 5EEC
F983 M 65C5
F984 M 6FFE
F985 M 792A
F986 M 95AD
F987 M 9A6A
F988 M 9E97
F989 M 9ECE
F98A M 529B
F98B M 66C6
F98C M 6B77
F98D M 8F62
F98E M 5E74
F98F M 6190
F990 M 6200
F991 M 649A
F992 M 6F23
F993 M 7149
F994 M 7489
F995 M 79CA
F996 M 7DF4
F997 M 806F
F998 M 8F26
F999 M 84EE
F99A M 9023
F99B M 934A
F99C M 5217
F99D M 52A3
F99E M 54BD
F99F M 70C8
F9A0 M 88C2
F9A1 M 8AAA
F9A2 M 5EC9
F9A3 M 5FF5
F9A4 M 637B
F9A5 M 6BAE
F9A6 M 7C3E
F9A7 M 7375
F9A8 M 4EE4
F9A9 M 56F9
F9AA M 5BE7
F9AB M 5DBA
F9AC M 601C
F9AD M 73B2
F9AE M 7469
F9AF M 7F9A
F9B0 M 8046
F9B1 M 9234
F9B2 M 96F6
F9B3 M 9748
F9B4 M 9818
F9B5 M 4F8B
F9B6 M 79AE
F9B7 M 91B4
F9B8 M 96B8
F9B9 M 60E1
F9BA M 4E86
F9BB M 50DA
F9BC M 5BEE
F9BD M 5C3F
F9BE M 6599
F9BF M 6A02
F9C0 M 71CE
F9C1 M 7642
F9C2 M 84FC
F9C3 M 907C
F9C4 M 9F8D
F9C5 M 6688
F9C6 M 962E
F9C7 M 5289
F9C8 M 677B
F9C9 M 67F3
F9CA M 6D41
F9CB M 6E9C
F9CC M 7409
F9CD M 7559
F9CE M 786B
F9CF M 7D10
F9D0 M 985E
F9D1 M 516D
F9D2 M 622E
F9D3 M 9678
F9D4 M 502B
F9D5 M 5D19
F9D6 M 6DEA
F9D7 M 8F2A
F9D8 M 5F8B
F9D9 M 6144
F9DA M 6817
F9DB M 7387
F9DC M 9686
F9DD M 5229
F9DE M 540F
F9DF M 5C65
F9E0 M 6613
F9E1 M 674E
F9E2 M 68A8
F9E3 M 6CE5
F9E4 M 7406
F9E5 M 75E2
F9E6 M 7F79
F9E7 M 88CF
F9E8 M 88E1
F9E9 M 91CC
F9EA M 96E2
F9EB M 533F
F9EC M 6EBA
F9ED M 541D
F9EE M 71D0
F9EF M 7498
F9F0 M 85FA
F9F1 M 96A3
F9F2 M 9C57
F9F3 M 9E9F
F9F4 M 6797
F9F5 M 6DCB
F9F6 M 81E8
F9F7 M 7ACB
F9F8 M 7B20
F9F9 M 7C92
F9FA M 72C0
F9FB M 7099
F9FC M 8B58
F9FD M 4EC0
F9FE M 8336
F9FF M 523A
FA00 M 5207
FA01 M 5EA6
FA02 M 62D3
FA03 M 7CD6
FA04 M 5B85
FA05 M 6D1E
FA06 M 66B4
FA07 M 8F3B
FA08 M 884C
FA09 M 964D
FA0A M 898B
FA0B M 5ED3
FA0C M 5140
FA0D M 55C0
FA0E V
FA10 M 585A
FA11 V
FA12 M 6674
FA13 V
FA15 M 51DE
FA16 M 732A
FA17 M 76CA
FA18 M 793C
FA19 M 795E
FA1A M 7965
FA1B M 798F
FA1C M 9756
FA1D M 7CBE
FA1E M 7FBD
FA1F V
FA20 M 8612
FA21 V
FA22 M 8AF8
FA23 V
FA25 M 9038
FA26 M 90FD
FA27 V
FA2A M 98EF
FA2B M 98FC
FA2C M 9928
FA2D M 9DB4
FA2E M 90DE
FA2F M 96B7
FA30 M 4FAE
FA31 M 50E7
FA32 M 514D
FA33 M 52C9
FA34 M 52E4
FA35 M 5351
FA36 M 559D
FA37 M 5606
FA38 M 5668
FA39 M 5840
FA3A M 58A8
FA3B M 5C64
FA3C M 5C6E
FA3D M 6094
FA3E M 6168
FA3F M 618E
FA40 M 61F2
FA41 M 654F
FA42 M 65E2
FA43 M 6691
FA44 M 6885
FA45 M 6D77
FA46 M 6E1A
FA47 M 6F22
FA48 M 716E
FA49 M 722B
FA4A M 7422
FA4B M 7891
FA4C M 793E
FA4D M 7949
FA4E M 7948
FA4F M 7950
FA50 M 7956
FA51 M 795D
FA52 M 798D
FA53 M 798E
FA54 M 7A40
FA55 M 7A81
FA56 M 7BC0
FA57 M 7DF4
FA58 M 7E09
FA59 M 7E41
FA5A M 7F72
FA5B M 8005
FA5C M 81ED
FA5D M 8279
FA5F M 8457
FA60 M 8910
FA61 M 8996
FA62 M 8B01
FA63 M 8B39
FA64 M 8CD3
FA65 M 8D08
FA66 M 8FB6
FA67 M 9038
FA68 M 96E3
FA69 M 97FF
FA6A M 983B
FA6B M 6075
FA6C M 242EE
FA6D M 8218
FA6E X
FA70 M 4E26
FA71 M 51B5
FA72 M 5168
FA73 M 4F80
FA74 M 5145
FA75 M 5180
FA76 M 52C7
FA77 M 52FA
FA78 M 559D
FA79 M 5555
FA7A M 5599
FA7B M 55E2
FA7C M 585A
FA7D M 58B3
FA7E M 5944
FA7F M 5954
FA80 M 5A62
FA81 M 5B28
FA82 M 5ED2
FA83 M 5ED9
FA84 M 5F69
FA85 M 5FAD
FA86 M 60D8
FA87 M 614E
FA88 M 6108
FA89 M 618E
FA8A M 6160
FA8B M 61F2
FA8C M 6234
FA8D M 63C4
FA8E M 641C
FA8F M 6452
FA90 M 6556
FA91 M 6674
FA92 M 6717
FA93 M 671B
FA94 M 6756
FA95 M 6B79
FA96 M 6BBA
FA97 M 6D41
FA98 M 6EDB
FA99 M 6ECB
FA9A M 6F22
FA9B M 701E
FA9C M 716E
FA9D M 77A7
FA9E M 7235
FA9F M 72AF
FAA0 M 732A
FAA1 M 7471
FAA2 M 7506
FAA3 M 753B
FAA4 M 761D
FAA5 M 761F
FAA6 M 76CA
FAA7 M 76DB
FAA8 M 76F4
FAA9 M 774A
FAAA M 7740
FAAB M 78CC
FAAC M 7AB1
FAAD M 7BC0
FAAE M 7C7B
FAAF M 7D5B
FAB0 M 7DF4
FAB1 M 7F3E
FAB2 M 8005
FAB3 M 8352
FAB4 M 83EF
FAB5 M 8779
FAB6 M 8941
FAB7 M 8986
FAB8 M 8996
FAB9 M 8ABF
FABA M 8AF8
FABB M 8ACB
FABC M 8B01
FABD M 8AFE
FABE M 8AED
FABF M 8B39
FAC0 M 8B8A
FAC1 M 8D08
FAC2 M 8F38
FAC3 M 9072
FAC4 M 9199
FAC5 M 9276
FAC6 M 967C
FAC7 M 96E3
FAC8 M 9756
FAC9 M 97DB
FACA M 97FF
FACB M 980B
FACC M 983B
FACD M 9B12
FACE M 9F9C
FACF M 2284A
FAD0 M 22844
FAD1 M 233D5
FAD2 M 3B9D
FAD3 M 4018
FAD4 M 4039
FAD5 M 25249
FAD6 M 25CD0
FAD7 M 27ED3
FAD8 M 9F43
FAD9 M 9F8E
FADA X
FB00 M 66 66
FB01 M 66 69
FB02 M 66 6C
FB03 M 66 66 69
FB04 M 66 66 6C
FB05 M 73 74
FB07 X
FB13 M 574 576
FB14 M 574 565
FB15 M 574 56B
FB16 M 57E 576
FB17 M 574 56D
FB18 X
FB1D M 5D9 5B4
FB1E V
FB1F M 5F2 5B7
FB20 M 5E2
FB21 M 5D0
FB22 M 5D3
FB23 M 5D4
FB24 M 5DB
FB25 M 5DC
FB26 M 5DD
FB27 M 5E8
FB28 M 5EA
FB29 M 2B
FB2A M 5E9 5C1
FB2B M 5E9 5C2
FB2C M 5E9 5BC 5C1
FB2D M 5E9 5BC 5C2
FB2E M 5D0 5B7
FB2F M 5D0 5B8
FB30 M 5D0 5BC
FB31 M 5D1 5BC
FB32 M 5D2 5BC
FB33 M 5D3 5BC
FB34 M 5D4 5BC
FB35 M 5D5 5BC
FB36 M 5D6 5BC
FB37 X
FB38 M 5D8 5BC
FB39 M 5D9 5BC
FB3A M 5DA 5BC
FB3B M 5DB 5BC
FB3C M 5DC 5BC
FB3D X
FB3E M 5DE 5BC
FB3F X
FB40 M 5E0 5BC
FB41 M 5E1 5BC
FB42 X
FB43 M 5E3 5BC
FB44 M 5E4 5BC
FB45 X
FB46 M 5E6 5BC
FB47 M 5E7 5BC
FB48 M 5E8 5BC
FB49 M 5E9 5BC
FB4A M 5EA 5BC
FB4B M 5D5 5B9
FB4C M 5D1 5BF
FB4D M 5DB 5BF
FB4E M 5E4 5BF
FB4F M 5D0 5DC
FB50 M 671
FB52 M 67B
FB56 M 67E
FB5A M 680
FB5E M 67A
FB62 M 67F
FB66 M 679
FB6A M 6A4
FB6E M 6A6
FB72 M 684
FB76 M 683
FB7A M 686
FB7E M 687
FB82 M 68D
FB84 M 68C
FB86 M 68E
FB88 M 688
FB8A M 698
FB8C M 691
FB8E M 6A9
FB92 M 6AF
FB96 M 6B3
FB9A M 6B1
FB9E M 6BA
FBA0 M 6BB
FBA4 M 6C0
FBA6 M 6C1
FBAA M 6BE
FBAE M 6D2
FBB0 M 6D3
FBB2 V
FBD3 M 6AD
FBD7 M 6C7
FBD9 M 6C6
FBDB M 6C8
FBDD M 6C7 674
FBDE M 6CB
FBE0 M 6C5
FBE2 M 6C9
FBE4 M 6D0
FBE8 M 649
FBEA M 626 627
FBEC M 626 6D5
FBEE M 626 648
FBF0 M 626 6C7
FBF2 M 626 6C6
FBF4 M 626 6C8
FBF6 M 626 6D0
FBF9 M 626 649
FBFC M 6CC
FC00 M 626 62C
FC01 M 626 62D
FC02 M 626 645
FC03 M 626 649
FC04 M 626 64A
FC05 M 628 62C
FC06 M 628 62D
FC07 M 628 62E
FC08 M 628 645
FC09 M 628 649
FC0A M 628 64A
FC0B M 62A 62C
FC0C M 62A 62D
FC0D M 62A 62E
FC0E M 62A 645
FC0F M 62A 649
FC10 M 62A 64A
FC11 M 62B 62C
FC12 M 62B 645
FC13 M 62B 649
FC14 M 62B 64A
FC15 M 62C 62D
FC16 M 62C 645
FC17 M 62D 62C
FC18 M 62D 645
FC19 M 62E 62C
FC1A M 62E 62D
FC1B M 62E 645
FC1C M 633 62C
FC1D M 633 62D
FC1E M 633 62E
FC1F M 633 645
FC20 M 635 62D
FC21 M 635 645
FC22 M 636 62C
FC23 M 636 62D
FC24 M 636 62E
FC25 M 636 645
FC26 M 637 62D
FC27 M 637 645
FC28 M 638 645
FC29 M 639 62C
FC2A M 639 645
FC2B M 63A 62C
FC2C M 63A 645
FC2D M 641 62C
FC2E M 641 62D
FC2F M 641 62E
FC30 M 641 645
FC31 M 641 649
FC32 M 641 64A
FC33 M 642 62D
FC34 M 642 645
FC35 M 642 649
FC36 M 642 64A
FC37 M 643 627
FC38 M 643 62C
FC39 M 643 62D
FC3A M 643 62E
FC3B M 643 644
FC3C M 643 645
FC3D M 643 649
FC3E M 643 64A
FC3F M 644 62C
FC40 M 644 62D
FC41 M 644 62E
FC42 M 644 645
FC43 M 644 649
FC44 M 644 64A
FC45 M 645 62C
FC46 M 645 62D
FC47 M 645 62E
FC48 M 645 645
FC49 M 645 649
FC4A M 645 64A
FC4B M 646 62C
FC4C M 646 62D
FC4D M 646 62E
FC4E M 646 645
FC4F M 646 649
FC50 M 646 64A
FC51 M 647 62C
FC52 M 647 645
FC53 M 647 649
FC54 M 647 64A
FC55 M 64A 62C
FC56 M 64A 62D
FC57 M 64A 62E
FC58 M 64A 645
FC59 M 64A 649
FC5A M 64A 64A
FC5B M 630 670
FC5C M 631 670
FC5D M 649 670
FC5E M 20 64C 651
FC5F M 20 64D 651
FC60 M 20 64E 651
FC61 M 20 64F 651
FC62 M 20 650 651
FC63 M 20 651 670
FC64 M 626 631
FC65 M 626 632
FC66 M 626 645
FC67 M 626 646
FC68 M 626 649
FC69 M 626 64A
FC6A M 628 631
FC6B M 628 632
FC6C M 628 645
FC6D M 628 646
FC6E M 628 649
FC6F M 628 64A
FC70 M 62A 631
FC71 M 62A 632
FC72 M 62A 645
FC73 M 62A 646
FC74 M 62A 649
FC75 M 62A 64A
FC76 M 62B 631
FC77 M 62B 632
FC78 M 62B 645
FC79 M 62B 646
FC7A M 62B 649
FC7B M 62B 64A
FC7C M 641 649
FC7D M 641 64A
FC7E M 642 649
FC7F M 642 64A
FC80 M 643 627
FC81 M 643 644
FC82 M 643 645
FC83 M 643 649
FC84 M 643 64A
FC85 M 644 645
FC86 M 644 649
FC87 M 644 64A
FC88 M 645 627
FC89 M 645 645
FC8A M 646 631
FC8B M 646 632
FC8C M 646 645
FC8D M 646 646
FC8E M 646 649
FC8F M 646 64A
FC90 M 649 670
FC91 M 64A 631
FC92 M 64A 632
FC93 M 64A 645
FC94 M 64A 646
FC95 M 64A 649
FC96 M 64A 64A
FC97 M 626 62C
FC98 M 626 62D
FC99 M 626 62E
FC9A M 626 645
FC9B M 626 647
FC9C M 628 62C
FC9D M 628 62D
FC9E M 628 62E
FC9F M 628 645
FCA0 M 628 647
FCA1 M 62A 62C
FCA2 M 62A 62D
FCA3 M 62A 62E
FCA4 M 62A 645
FCA5 M 62A 647
FCA6 M 62B 645
FCA7 M 62C 62D
FCA8 M 62C 645
FCA9 M 62D 62C
FCAA M 62D 645
FCAB M 62E 62C
FCAC M 62E 645
FCAD M 633 62C
FCAE M 633 62D
FCAF M 633 62E
FCB0 M 633 645
FCB1 M 635 62D
FCB2 M 635 62E
FCB3 M 635 645
FCB4 M 636 62C
FCB5 M 636 62D
FCB6 M 636 62E
FCB7 M 636 645
FCB8 M 637 62D
FCB9 M 638 645
FCBA M 639 62C
FCBB M 639 645
FCBC M 63A 62C
FCBD M 63A 645
FCBE M 641 62C
FCBF M 641 62D
FCC0 M 641 62E
FCC1 M 641 645
FCC2 M 642 62D
FCC3 M 642 645
FCC4 M 643 62C
FCC5 M 643 62D
FCC6 M 643 62E
FCC7 M 643 644
FCC8 M 643 645
FCC9 M 644 62C
FCCA M 644 62D
FCCB M 644 62E
FCCC M 644 645
FCCD M 644 647
FCCE M 645 62C
FCCF M 645 62D
FCD0 M 645 62E
FCD1 M 645 645
FCD2 M 646 62C
FCD3 M 646 62D
FCD4 M 646 62E
FCD5 M 646 645
FCD6 M 646 647
FCD7 M 647 62C
FCD8 M 647 645
FCD9 M 647 670
FCDA M 64A 62C
FCDB M 64A 62D
FCDC M 64A 62E
FCDD M 64A 645
FCDE M 64A 647
FCDF M 626 645
FCE0 M 626 647
FCE1 M 628 645
FCE2 M 628 647
FCE3 M 62A 645
FCE4 M 62A 647
FCE5 M 62B 645
FCE6 M 62B 647
FCE7 M 633 645
FCE8 M 633 647
FCE9 M 634 645
FCEA M 634 647
FCEB M 643 644
FCEC M 643 645
FCED M 644 645
FCEE M 646 645
FCEF M 646 647
FCF0 M 64A 645
FCF1 M 64A 647
FCF2 M 640 64E 651
FCF3 M 640 64F 651
FCF4 M 640 650 651
FCF5 M 637 649
FCF6 M 637 64A
FCF7 M 639 649
FCF8 M 639 64A
FCF9 M 63A 649
FCFA M 63A 64A
FCFB M 633 649
FCFC M 633 64A
FCFD M 634 649
FCFE M 634 64A
FCFF M 62D 649
FD00 M 62D 64A
FD01 M 62C 649
FD02 M 62C 64A
FD03 M 62E 649
FD04 M 62E 64A
FD05 M 635 649
FD06 M 635 64A
FD07 M 636 649
FD08 M 636 64A
FD09 M 634 62C
FD0A M 634 62D
FD0B M 634 62E
FD0C M 634 645
FD0D M 634 631
FD0E M 633 631
FD0F M 635 631
FD10 M 636 631
FD11 M 637 649
FD12 M 637 64A
FD13 M 639 649
FD14 M 639 64A
FD15 M 63A 649
FD16 M 63A 64A
FD17 M 633 649
FD18 M 633 64A
FD19 M 634 649
FD1A M 634 64A
FD1B M 62D 649
FD1C M 62D 64A
FD1D M 62C 649
FD1E M 62C 64A
FD1F M 62E 649
FD20 M 62E 64A
FD21 M 635 649
FD22 M 635 64A
FD23 M 636 649
FD24 M 636 64A
FD25 M 634 62C
FD26 M 634 62D
FD27 M 634 62E
FD28 M 634 645
FD29 M 634 631
FD2A M 633 631
FD2B M 635 631
FD2C M 636 631
FD2D M 634 62C
FD2E M 634 62D
FD2F M 634 62E
FD30 M 634 645
FD31 M 633 647
FD32 M 634 647
FD33 M 637 645
FD34 M 633 62C
FD35 M 633 62D
FD36 M 633 62E
FD37 M 634 62C
FD38 M 634 62D
FD39 M 634 62E
FD3A M 637 645
FD3B M 638 645
FD3C M 627 64B
FD3E V
FD50 M 62A 62C 645
FD51 M 62A 62D 62C
FD53 M 62A 62D 645
FD54 M 62A 62E 645
FD55 M 62A 645 62C
FD56 M 62A 645 62D
FD57 M 62A 645 62E
FD58 M 62C 645 62D
FD5A M 62D 645 64A
FD5B M 62D 645 649
FD5C M 633 62D 62C
FD5D M 633 62C 62D
FD5E M 633 62C 649
FD5F M 633 645 62D
FD61 M 633 645 62C
FD62 M 633 645 645
FD64 M 635 62D 62D
FD66 M 635 645 645
FD67 M 634 62D 645
FD69 M 634 62C 64A
FD6A M 634 645 62E
FD6C M 634 645 645
FD6E M 636 62D 649
FD6F M 636 62E 645
FD71 M 637 645 62D
FD73 M 637 645 645
FD74 M 637 645 64A
FD75 M 639 62C 645
FD76 M 639 645 645
FD78 M 639 645 649
FD79 M 63A 645 645
FD7A M 63A 645 64A
FD7B M 63A 645 649
FD7C M 641 62E 645
FD7E M 642 645 62D
FD7F M 642 645 645
FD80 M 644 62D 645
FD81 M 644 62D 64A
FD82 M 644 62D 649
FD83 M 644 62C 62C
FD85 M 644 62E 645
FD87 M 644 645 62D
FD89 M 645 62D 62C
FD8A M 645 62D 645
FD8B M 645 62D 64A
FD8C M 645 62C 62D
FD8D M 645 62C 645
FD8E M 645 62E 62C
FD8F M 645 62E 645
FD90 V
FD92 M 645 62C 62E
FD93 M 647 645 62C
FD94 M 647 645 645
FD95 M 646 62D 645
FD96 M 646 62D 649
FD97 M 646 62C 645
FD99 M 646 62C 649
FD9A M 646 645 64A
FD9B M 646 645 649
FD9C M 64A 645 645
FD9E M 628 62E 64A
FD9F M 62A 62C 64A
FDA0 M 62A 62C 649
FDA1 M 62A 62E 64A
FDA2 M 62A 62E 649
FDA3 M 62A 645 64A
FDA4 M 62A 645 649
FDA5 M 62C 645 64A
FDA6 M 62C 62D 649
FDA7 M 62C 645 649
FDA8 M 633 62E 649
FDA9 M 635 62D 64A
FDAA M 634 62D 64A
FDAB M 636 62D 64A
FDAC M 644 62C 64A
FDAD M 644 645 64A
FDAE M 64A 62D 64A
FDAF M 64A 62C 64A
FDB0 M 64A 645 64A
FDB1 M 645 645 64A
FDB2 M 642 645 64A
FDB3 M 646 62D 64A
FDB4 M 642 645 62D
FDB5 M 644 62D 645
FDB6 M 639 645 64A
FDB7 M 643 645 64A
FDB8 M 646 62C 62D
FDB9 M 645 62E 64A
FDBA M 644 62C 645
FDBB M 643 645 645
FDBC M 644 62C 645
FDBD M 646 62C 62D
FDBE M 62C 62D 64A
FDBF M 62D 62C 64A
FDC0 M 645 62C 64A
FDC1 M 641 645 64A
FDC2 M 628 62D 64A
FDC3 M 643 645 645
FDC4 M 639 62C 645
FDC5 M 635 645 645
FDC6 M 633 62E 64A
FDC7 M 646 62C 64A
FDC8 V
FDD0 X
FDF0 M 635 644 6D2
FDF1 M 642 644 6D2
FDF2 M 627 644 644 647
FDF3 M 627 643 628 631
FDF4 M 645 62D 645 62F
FDF5 M 635 644 639 645
FDF6 M 631 633 648 644
FDF7 M 639 644 64A 647
FDF8 M 648 633 644 645
FDF9 M 635 644 649
FDFA M 635 644 649 20 627 644 644 647 20 639 644 64A 647 20 648 633 644 645
FDFB M 62C 644 20 62C 644 627 644 647
FDFC M 631 6CC 627 644
FDFD V
FE00 I
FE10 M 2C
FE11 M 3001
FE12 X
FE13 M 3A
FE14 M 3B
FE15 M 21
FE16 M 3F
FE17 M 3016
FE18 M 3017
FE19 X
FE20 V
FE30 X
FE31 M 2014
FE32 M 2013
FE33 M 5F
FE35 M 28
FE36 M 29
FE37 M 7B
FE38 M 7D
FE39 M 3014
FE3A M 3015
FE3B M 3010
FE3C M 3011
FE3D M 300A
FE3E M 300B
FE3F M 3008
FE40 M 3009
FE41 M 300C
FE42 M 300D
FE43 M 300E
FE44 M 300F
FE45 V
FE47 M 5B
FE48 M 5D
FE49 M 20 305
FE4D M 5F
FE50 M 2C
FE51 M 3001
FE52 X
FE54 M 3B
FE55 M 3A
FE56 M 3F
FE57 M 21
FE58 M 2014
FE59 M 28
FE5A M 29
FE5B M 7B
FE5C M 7D
FE5D M 3014
FE5E M 3015
FE5F M 23
FE60 M 26
FE61 M 2A
FE62 M 2B
FE63 M 2D
FE64 M 3C
FE65 M 3E
FE66 M 3D
FE67 X
FE68 M 5C
FE69 M 24
FE6A M 25
FE6B M 40
FE6C X
FE70 M 20 64B
FE71 M 640 64B
FE72 M 20 64C
FE73 V
FE74 M 20 64D
FE75 X
FE76 M 20 64E
FE77 M 640 64E
FE78 M 20 64F
FE79 M 640 64F
FE7A M 20 650
FE7B M 640 650
FE7C M 20 651
FE7D M 640 651
FE7E M 20 652
FE7F M 640 652
FE80 M 621
FE81 M 622
FE83 M 623
FE85 M 624
FE87 M 625
FE89 M 626
FE8D M 627
FE8F M 628
FE93 M 629
FE95 M 62A
FE99 M 62B
FE9D M 62C
FEA1 M 62D
FEA5 M 62E
FEA9 M 62F
FEAB M 630
FEAD M 631
FEAF M 632
FEB1 M 633
FEB5 M 634
FEB9 M 635
FEBD M 636
FEC1 M 637
FEC5 M 638
FEC9 M 639
FECD M 63A
FED1 M 641
FED5 M 642
FED9 M 643
FEDD M 644
FEE1 M 645
FEE5 M 646
FEE9 M 647
FEED M 648
FEEF M 649
FEF1 M 64A
FEF5 M 644 622
FEF7 M 644 623
FEF9 M 644 625
FEFB M 644 627
FEFD X
FEFF I
FF00 X
FF01 M 21
FF02 M 22
FF03 M 23
FF04 M 24
FF05 M 25
FF06 M 26
FF07 M 27
FF08 M 28
FF09 M 29
FF0A M 2A
FF0B M 2B
FF0C M 2C
FF0D M 2D
FF0E M 2E
FF0F M 2F
FF10 M 30
FF11 M 31
FF12 M 32
FF13 M 33
FF14 M 34
FF15 M 35
FF16 M 36
FF17 M 37
FF18 M 38
FF19 M 39
FF1A M 3A
FF1B M 3B
FF1C M 3C
FF1D M 3D
FF1E M 3E
FF1F M 3F
FF20 M 40
FF21 M 61
FF22 M 62
FF23 M 63
FF24 M 64
FF25 M 65
FF26 M 66
FF27 M 67
FF28 M 68
FF29 M 69
FF2A M 6A
FF2B M 6B
FF2C M 6C
FF2D M 6D
FF2E M 6E
FF2F M 6F
FF30 M 70
FF31 M 71
FF32 M 72
FF33 M 73
FF34 M 74
FF35 M 75
FF36 M 76
FF37 M 77
FF38 M 78
FF39 M 79
FF3A M 7A
FF3B M 5B
FF3C M 5C
FF3D M 5D
FF3E M 5E
FF3F M 5F
FF40 M 60
FF41 M 61
FF42 M 62
FF43 M 63
FF44 M 64
FF45 M 65
FF46 M 66
FF47 M 67
FF48 M 68
FF49 M 69
FF4A M 6A
FF4B M 6B
FF4C M 6C
FF4D M 6D
FF4E M 6E
FF4F M 6F
FF50 M 70
FF51 M 71
FF52 M 72
FF53 M 73
FF54 M 74
FF55 M 75
FF56 M 76
FF57 M 77
FF58 M 78
FF59 M 79
FF5A M 7A
FF5B M 7B
FF5C M 7C
FF5D M 7D
FF5E M 7E
FF5F M 2985
FF60 M 2986
FF61 M 2E
FF62 M 300C
FF63 M 300D
FF64 M 3001
FF65 M 30FB
FF66 M 30F2
FF67 M 30A1
FF68 M 30A3
FF69 M 30A5
FF6A M 30A7
FF6B M 30A9
FF6C M 30E3
FF6D M 30E5
FF6E M 30E7
FF6F M 30C3
FF70 M 30FC
FF71 M 30A2
FF72 M 30A4
FF73 M 30A6
FF74 M 30A8
FF75 M 30AA
FF76 M 30AB
FF77 M 30AD
FF78 M 30AF
FF79 M 30B1
FF7A M 30B3
FF7B M 30B5
FF7C M 30B7
FF7D M 30B9
FF7E M 30BB
FF7F M 30BD
FF80 M 30BF
FF81 M 30C1
FF82 M 30C4
FF83 M 30C6
FF84 M 30C8
FF85 M 30CA
FF86 M 30CB
FF87 M 30CC
FF88 M 30CD
FF89 M 30CE
FF8A M 30CF
FF8B M 30D2
FF8C M 30D5
FF8D M 30D8
FF8E M 30DB
FF8F M 30DE
FF90 M 30DF
FF91 M 30E0
FF92 M 30E1
FF93 M 30E2
FF94 M 30E4
FF95 M 30E6
FF96 M 30E8
FF97 M 30E9
FF98 M 30EA
FF99 M 30EB
FF9A M 30EC
FF9B M 30ED
FF9C M 30EF
FF9D M 30F3
FF9E M 3099
FF9F M 309A
FFA0 I
FFA1 M 1100
FFA2 M 1101
FFA3 M 11AA
FFA4 M 1102
FFA5 M 11AC
FFA6 M 11AD
FFA7 M 1103
FFA8 M 1104
FFA9 M 1105
FFAA M 11B0
FFAB M 11B1
FFAC M 11B2
FFAD M 11B3
FFAE M 11B4
FFAF M 11B5
FFB0 M 111A
FFB1 M 1106
FFB2 M 1107
FFB3 M 1108
FFB4 M 1121
FFB5 M 1109
FFB6 M 110A
FFB7 M 110B
FFB8 M 110C
FFB9 M 110D
FFBA M 110E
FFBB M 110F
FFBC M 1110
FFBD M 1111
FFBE M 1112
FFBF X
FFC2 M 1161
FFC3 M 1162
FFC4 M 1163
FFC5 M 1164
FFC6 M 1165
FFC7 M 1166
FFC8 X
FFCA M 1167
FFCB M 1168
FFCC M 1169
FFCD M 116A
FFCE M 116B
FFCF M 116C
FFD0 X
FFD2 M 116D
FFD3 M 116E
FFD4 M 116F
FFD5 M 1170
FFD6 M 1171
FFD7 M 1172
FFD8 X
FFDA M 1173
FFDB M 1174
FFDC M 1175
FFDD X
FFE0 M A2
FFE1 M A3
FFE2 M AC
FFE3 M 20 304
FFE4 M A6
FFE5 M A5
FFE6 M 20A9
FFE7 X
FFE8 M 2502
FFE9 M 2190
FFEA M 2191
FFEB M 2192
FFEC M 2193
FFED M 25A0
FFEE M 25CB
FFEF X
10000 V
1000C X
1000D V
10027 X
10028 V
1003B X
1003C V
1003E X
1003F V
1004E X
10050 V
1005E X
10080 V
100FB X
10100 V
10103 X
10107 V
10134 X
10137 V
1018F X
10190 V
1019D X
101A0 V
101A1 X
101D0 V
101FE X
10280 V
1029D X
102A0 V
102D1 X
102E0 V
102FC X
10300 V
10324 X
1032D V
1034B X
10350 V
1037B X
10380 V
1039E X
1039F V
103C4 X
103C8 V
103D6 X
10400 M 10428
10401 M 10429
10402 M 1042A
10403 M 1042B
10404 M 1042C
10405 M 1042D
10406 M 1042E
10407 M 1042F
10408 M 10430
10409 M 10431
1040A M 10432
1040B M 10433
1040C M 10434
1040D M 10435
1040E M 10436
1040F M 10437
10410 M 10438
10411 M 10439
10412 M 1043A
10413 M 1043B
10414 M 1043C
10415 M 1043D
10416 M 1043E
10417 M 1043F
10418 M 10440
10419 M 10441
1041A M 10442
1041B M 10443
1041C M 10444
1041D M 10445
1041E M 10446
1041F M 10447
10420 M 10448
10421 M 10449
10422 M 1044A
10423 M 1044B
10424 M 1044C
10425 M 1044D
10426 M 1044E
10427 M 1044F
10428 V
1049E X
104A0 V
104AA X
104B0 M 104D8
104B1 M 104D9
104B2 M 104DA
104B3 M 104DB
104B4 M 104DC
104B5 M 104DD
104B6 M 104DE
104B7 M 104DF
104B8 M 104E0
104B9 M 104E1
104BA M 104E2
104BB M 104E3
104BC M 104E4
104BD M 104E5
104BE M 104E6
104BF M 104E7
104C0 M 104E8
104C1 M 104E9
104C2 M 104EA
104C3 M 104EB
104C4 M 104EC
104C5 M 104ED
104C6 M 104EE
104C7 M 104EF
104C8 M 104F0
104C9 M 104F1
104CA M 104F2
104CB M 104F3
104CC M 104F4
104CD M 104F5
104CE M 104F6
104CF M 104F7
104D0 M 104F8
104D1 M 104F9
104D2 M 104FA
104D3 M 104FB
104D4 X
104D8 V
104FC X
10500 V
10528 X
10530 V
10564 X
1056F V
10570 M 10597
10571 M 10598
10572 M 10599
10573 M 1059A
10574 M 1059B
10575 M 1059C
10576 M 1059D
10577 M 1059E
10578 M 1059F
10579 M 105A0
1057A M 105A1
1057B X
1057C M 105A3
1057D M 105A4
1057E M 105A5
1057F M 105A6
10580 M 105A7
10581 M 105A8
10582 M 105A9
10583 M 105AA
10584 M 105AB
10585 M 105AC
10586 M 105AD
10587 M 105AE
10588 M 105AF
10589 M 105B0
1058A M 105B1
1058B X
1058C M 105B3
1058D M 105B4
1058E M 105B5
1058F M 105B6
10590 M 105B7
10591 M 105B8
10592 M 105B9
10593 X
10594 M 105BB
10595 M 105BC
10596 X
10597 V
105A2 X
105A3 V
105B2 X
105B3 V
105BA X
105BB V
105BD X
105C0 V
105F4 X
10600 V
10737 X
10740 V
10756 X
10760 V
10768 X
10780 V
10781 M 2D0
10782 M 2D1
10783 M E6
10784 M 299
10785 M 253
10786 X
10787 M 2A3
10788 M AB66
10789 M 2A5
1078A M 2A4
1078B M 256
1078C M 257
1078D M 1D91
1078E M 258
1078F M 25E
10790 M 2A9
10791 M 264
10792 M 262
10793 M 260
10794 M 29B
10795 M 127
10796 M 29C
10797 M 267
10798 M 284
10799 M 2AA
1079A M 2AB
1079B M 26C
1079C M 1DF04
1079D M A78E
1079E M 26E
1079F M 1DF05
107A0 M 28E
107A1 M 1DF06
107A2 M F8
107A3 M 276
107A4 M 277
107A5 M 71
107A6 M 27A
107A7 M 1DF08
107A8 M 27D
107A9 M 27E
107AA M 280
107AB M 2A8
107AC M 2A6
107AD M AB67
107AE M 2A7
107AF M 288
107B0 M 2C71
107B1 X
107B2 M 28F
107B3 M 2A1
107B4 M 2A2
107B5 M 298
107B6 M 1C0
107B7 M 1C1
107B8 M 1C2
107B9 M 1DF0A
107BA M 1DF1E
107BB M 287
107BC M 296
107BD M 297
107BE M 29E
107BF M 1DF0B
107C0 X
10800 V
10806 X
10808 V
10809 X
1080A V
10836 X
10837 V
10839 X
1083C V
1083D X
1083F V
10856 X
10857 V
1089F X
108A7 V
108B0 X
108E0 V
108F3 X
108F4 V
108F6 X
108FB V
1091C X
1091F V
1093A X
1093F V
1095A X
10980 V
109B8 X
109BC V
109D0 X
109D2 V
10A04 X
10A05 V
10A07 X
10A0C V
10A14 X
10A15 V
10A18 X
10A19 V
10A36 X
10A38 V
10A3B X
10A3F V
10A49 X
10A50 V
10A59 X
10A60 V
10AA0 X
10AC0 V
10AE7 X
10AEB V
10AF7 X
10B00 V
10B36 X
10B39 V
10B56 X
10B58 V
10B73 X
10B78 V
10B92 X
10B99 V
10B9D X
10BA9 V
10BB0 X
10C00 V
10C49 X
10C80 M 10CC0
10C81 M 10CC1
10C82 M 10CC2
10C83 M 10CC3
10C84 M 10CC4
10C85 M 10CC5
10C86 M 10CC6
10C87 M 10CC7
10C88 M 10CC8
10C89 M 10CC9
10C8A M 10CCA
10C8B M 10CCB
10C8C M 10CCC
10C8D M 10CCD
10C8E M 10CCE
10C8F M 10CCF
10C90 M 10CD0
10C91 M 10CD1
10C92 M 10CD2
10C93 M 10CD3
10C94 M 10CD4
10C95 M 10CD5
10C96 M 10CD6
10C97 M 10CD7
10C98 M 10CD8
10C99 M 10CD9
10C9A M 10CDA
10C9B M 10CDB
10C9C M 10CDC
10C9D M 10CDD
10C9E M 10CDE
10C9F M 10CDF
10CA0 M 10CE0
10CA1 M 10CE1
10CA2 M 10CE2
10CA3 M 10CE3
10CA4 M 10CE4
10CA5 M 10CE5
10CA6 M 10CE6
10CA7 M 10CE7
10CA8 M 10CE8
10CA9 M 10CE9
10CAA M 10CEA
10CAB M 10CEB
10CAC M 10CEC
10CAD M 10CED
10CAE M 10CEE
10CAF M 10CEF
10CB0 M 10CF0
10CB1 M 10CF1
10CB2 M 10CF2
10CB3 X
10CC0 V
10CF3 X
10CFA V
10D28 X
10D30 V
10D3A X
10D40 V
10D50 M 10D70
10D51 M 10D71
10D52 M 10D72
10D53 M 10D73
10D54 M 10D74
10D55 M 10D75
10D56 M 10D76
10D57 M 10D77
10D58 M 10D78
10D59 M 10D79
10D5A M 10D7A
10D5B M 10D7B
10D5C M 10D7C
10D5D M 10D7D
10D5E M 10D7E
10D5F M 10D7F
10D60 M 10D80
10D61 M 10D81
10D62 M 10D82
10D63 M 10D83
10D64 M 10D84
10D65 M 10D85
10D66 X
10D69 V
10D86 X
10D8E V
10D90 X
10E60 V
10E7F X
10E80 V
10EAA X
10EAB V
10EAE X
10EB0 V
10EB2 X
10EC2 V
10EC8 X
10EC9 V
10EEF X
10EF0 V
10F28 X
10F30 V
10F5A X
10F70 V
10F8A X
10FB0 V
10FCC X
10FE0 V
10FF7 X
11000 V
1104E X
11052 V
11076 X
1107F V
110BD X
110BE V
110C3 X
110D0 V
110E9 X
110F0 V
110FA X
11100 V
11135 X
11136 V
11148 X
11150 V
11177 X
11180 V
111E0 X
111E1 V
111F5 X
11200 V
11212 X
11213 V
11242 X
11280 V
11287 X
11288 V
11289 X
1128A V
1128E X
1128F V
1129E X
1129F V
112AA X
112B0 V
112EB X
112F0 V
112FA X
11300 V
11304 X
11305 V
1130D X
1130F V
11311 X
11313 V
11329 X
1132A V
11331 X
11332 V
11334 X
11335 V
1133A X
1133B V
11345 X
11347 V
11349 X
1134B V
1134E X
11350 V
11351 X
11357 V
11358 X
1135D V
11364 X
11366 V
1136D X
11370 V
11375 X
11380 V
1138A X
1138B V
1138C X
1138E V
1138F X
11390 V
113B6 X
113B7 V
113C1 X
113C2 V
113C3 X
113C5 V
113C6 X
113C7 V
113CB X
113CC V
113D6 X
113D7 V
113D9 X
113E1 V
113E3 X
11400 V
1145C X
1145D V
11462 X
11480 V
114C8 X
114D0 V
114DA X
11580 V
115B6 X
115B8 V
115DE X
11600 V
11645 X
11650 V
1165A X
11660 V
1166D X
11680 V
116BA X
116C0 V
116CA X
116D0 V
116E4 X
11700 V
1171B X
1171D V
1172C X
11730 V
11747 X
11800 V
1183C X
118A0 M 118C0
118A1 M 118C1
118A2 M 118C2
118A3 M 118C3
118A4 M 118C4
118A5 M 118C5
118A6 M 118C6
118A7 M 118C7
118A8 M 118C8
118A9 M 118C9
118AA M 118CA
118AB M 118CB
118AC M 118CC
118AD M 118CD
118AE M 118CE
118AF M 118CF
118B0 M 118D0
118B1 M 118D1
118B2 M 118D2
118B3 M 118D3
118B4 M 118D4
118B5 M 118D5
118B6 M 118D6
118B7 M 118D7
118B8 M 118D8
118B9 M 118D9
118BA M 118DA
118BB M 118DB
118BC M 118DC
118BD M 118DD
118BE M 118DE
118BF M 118DF
118C0 V
118F3 X
118FF V
11907 X
11909 V
1190A X
1190C V
11914 X
11915 V
11917 X
11918 V
11936 X
11937 V
11939 X
1193B V
11947 X
11950 V
1195A X
119A0 V
119A8 X
119AA V
119D8 X
119DA V
119E5 X
11A00 V
11A48 X
11A50 V
11AA3 X
11AB0 V
11AF9 X
11B00 V
11B0B X
11B60 V
11B68 X
11BC0 V
11BE2 X
11BF0 V
11BFA X
11C00 V
11C09 X
11C0A V
11C37 X
11C38 V
11C46 X
11C50 V
11C6D X
11C70 V
11C90 X
11C92 V
11CA8 X
11CA9 V
11CB7 X
11D00 V
11D07 X
11D08 V
11D0A X
11D0B V
11D37 X
11D3A V
11D3B X
11D3C V
11D3E X
11D3F V
11D48 X
11D50 V
11D5A X
11D60 V
11D66 X
11D67 V
11D69 X
11D6A V
11D8F X
11D90 V
11D92 X
11D93 V
11D99 X
11DA0 V
11DAA X
11DB0 V
11DDC X
11DE0 V
11DEA X
11DF0 V
11DF2 X
11EE0 V
11EF9 X
11F00 V
11F11 X
11F12 V
11F3B X
11F3E V
11F5B X
11FB0 V
11FB1 X
11FC0 V
11FF2 X
11FFF V
1239A X
12400 V
12544 X
12550 V
12687 X
12F90 V
12FF3 X
13000 V
13430 X
13440 V
13456 X
13460 V
143FB X
14400 V
14647 X
16100 V
1613A X
16800 V
16A39 X
16A40 V
16A5F X
16A60 V
16A6A X
16A6E V
16ABF X
16AC0 V
16ACA X
16AD0 V
16AEE X
16AF0 V
16AF6 X
16B00 V
16B46 X
16B50 V
16B5A X
16B5B V
16B62 X
16B63 V
16B78 X
16B7D V
16B90 X
16D40 V
16D7A X
16E40 M 16E60
16E41 M 16E61
16E42 M 16E62
16E43 M 16E63
16E44 M 16E64
16E45 M 16E65
16E46 M 16E66
16E47 M 16E67
16E48 M 16E68
16E49 M 16E69
16E4A M 16E6A
16E4B M 16E6B
16E4C M 16E6C
16E4D M 16E6D
16E4E M 16E6E
16E4F M 16E6F
16E50 M 16E70
16E51 M 16E71
16E52 M 16E72
16E53 M 16E73
16E54 M 16E74
16E55 M 16E75
16E56 M 16E76
16E57 M 16E77
16E58 M 16E78
16E59 M 16E79
16E5A M 16E7A
16E5B M 16E7B
16E5C M 16E7C
16E5D M 16E7D
16E5E M 16E7E
16E5F M 16E7F
16E60 V
16E9B X
16EA0 M 16EBB
16EA1 M 16EBC
16EA2 M 16EBD
16EA3 M 16EBE
16EA4 M 16EBF
16EA5 M 16EC0
16EA6 M 16EC1
16EA7 M 16EC2
16EA8 M 16EC3
16EA9 M 16EC4
16EAA M 16EC5
16EAB M 16EC6
16EAC M 16EC7
16EAD M 16EC8
16EAE M 16EC9
16EAF M 16ECA
16EB0 M 16ECB
16EB1 M 16ECC
16EB2 M 16ECD
16EB3 M 16ECE
16EB4 M 16ECF
16EB5 M 16ED0
16EB6 M 16ED1
16EB7 M 16ED2
16EB8 M 16ED3
16EB9 X
16EBB V
16ED4 X
16F00 V
16F4B X
16F4F V
16F88 X
16F8F V
16FA0 X
16FE0 V
16FE5 X
16FF0 V
16FF7 X
17000 V
18CDB X
18CFF V
18D21 X
18D80 V
18DF3 X
18E00 V
19192 X
191A0 V
191D3 X
1AFF0 V
1AFF4 X
1AFF5 V
1AFFC X
1AFFD V
1AFFF X
1B000 V
1B123 M 3053 3068
1B124 M 30C8 30AD
1B125 V
1B126 M 30E8 30EA
1B127 V
1B129 X
1B132 V
1B133 X
1B150 V
1B153 X
1B155 V
1B156 X
1B164 V
1B169 X
1B170 V
1B2FC X
1BC00 V
1BC6B X
1BC70 V
1BC7D X
1BC80 V
1BC89 X
1BC90 V
1BC9A X
1BC9C V
1BCA0 I
1BCA4 X
1CC00 V
1CCD6 M 61
1CCD7 M 62
1CCD8 M 63
1CCD9 M 64
1CCDA M 65
1CCDB M 66
1CCDC M 67
1CCDD M 68
1CCDE M 69
1CCDF M 6A
1CCE0 M 6B
1CCE1 M 6C
1CCE2 M 6D
1CCE3 M 6E
1CCE4 M 6F
1CCE5 M 70
1CCE6 M 71
1CCE7 M 72
1CCE8 M 73
1CCE9 M 74
1CCEA M 75
1CCEB M 76
1CCEC M 77
1CCED M 78
1CCEE M 79
1CCEF M 7A
1CCF0 M 30
1CCF1 M 31
1CCF2 M 32
1CCF3 M 33
1CCF4 M 34
1CCF5 M 35
1CCF6 M 36
1CCF7 M 37
1CCF8 M 38
1CCF9 M 39
1CCFA V
1CCFD X
1CD00 V
1CEB4 X
1CEBA V
1CED1 X
1CED2 V
1CED5 X
1CEDD V
1CEFE X
1CF00 V
1CF2E X
1CF30 V
1CF47 X
1CF50 V
1CFC4 X
1D000 V
1D0F6 X
1D100 V
1D15E M 1D157 1D165
1D15F M 1D158 1D165
1D160 M 1D158 1D165 1D16E
1D161 M 1D158 1D165 1D16F
1D162 M 1D158 1D165 1D170
1D163 M 1D158 1D165 1D171
1D164 M 1D158 1D165 1D172
1D165 V
1D173 I
1D17B V
1D1BB M 1D1B9 1D165
1D1BC M 1D1BA 1D165
1D1BD M 1D1B9 1D165 1D16E
1D1BE M 1D1BA 1D165 1D16E
1D1BF M 1D1B9 1D165 1D16F
1D1C0 M 1D1BA 1D165 1D16F
1D1C1 V
1D246 X
1D250 V
1D282 X
1D2C0 V
1D2D4 X
1D2E0 V
1D2F4 X
1D300 V
1D357 X
1D360 V
1D379 X
1D400 M 61
1D401 M 62
1D402 M 63
1D403 M 64
1D404 M 65
1D405 M 66
1D406 M 67
1D407 M 68
1D408 M 69
1D409 M 6A
1D40A M 6B
1D40B M 6C
1D40C M 6D
1D40D M 6E
1D40E M 6F
1D40F M 70
1D410 M 71
1D411 M 72
1D412 M 73
1D413 M 74
1D414 M 75
1D415 M 76
1D416 M 77
1D417 M 78
1D418 M 79
1D419 M 7A
1D41A M 61
1D41B M 62
1D41C M 63
1D41D M 64
1D41E M 65
1D41F M 66
1D420 M 67
1D421 M 68
1D422 M 69
1D423 M 6A
1D424 M 6B
1D425 M 6C
1D426 M 6D
1D427 M 6E
1D428 M 6F
1D429 M 70
1D42A M 71
1D42B M 72
1D42C M 73
1D42D M 74
1D42E M 75
1D42F M 76
1D430 M 77
1D431 M 78
1D432 M 79
1D433 M 7A
1D434 M 61
1D435 M 62
1D436 M 63
1D437 M 64
1D438 M 65
1D439 M 66
1D43A M 67
1D43B M 68
1D43C M 69
1D43D M 6A
1D43E M 6B
1D43F M 6C
1D440 M 6D
1D441 M 6E
1D442 M 6F
1D443 M 70
1D444 M 71
1D445 M 72
1D446 M 73
1D447 M 74
1D448 M 75
1D449 M 76
1D44A M 77
1D44B M 78
1D44C M 79
1D44D M 7A
1D44E M 61
1D44F M 62
1D450 M 63
1D451 M 64
1D452 M 65
1D453 M 66
1D454 M 67
1D455 X
1D456 M 69
1D457 M 6A
1D458 M 6B
1D459 M 6C
1D45A M 6D
1D45B M 6E
1D45C M 6F
1D45D M 70
1D45E M 71
1D45F M 72
1D460 M 73
1D461 M 74
1D462 M 75
1D463 M 76
1D464 M 77
1D465 M 78
1D466 M 79
1D467 M 7A
1D468 M 61
1D469 M 62
1D46A M 63
1D46B M 64
1D46C M 65
1D46D M 66
1D46E M 67
1D46F M 68
1D470 M 69
1D471 M 6A
1D472 M 6B
1D473 M 6C
1D474 M 6D
1D475 M 6E
1D476 M 6F
1D477 M 70
1D478 M 71
1D479 M 72
1D47A M 73
1D47B M 74
1D47C M 75
1D47D M 76
1D47E M 77
1D47F M 78
1D480 M 79
1D481 M 7A
1D482 M 61
1D483 M 62
1D484 M 63
1D485 M 64
1D486 M 65
1D487 M 66
1D488 M 67
1D489 M 68
1D48A M 69
1D48B M 6A
1D48C M 6B
1D48D M 6C
1D48E M 6D
1D48F M 6E
1D490 M 6F
1D491 M 70
1D492 M 71
1D493 M 72
1D494 M 73
1D495 M 74
1D496 M 75
1D497 M 76
1D498 M 77
1D499 M 78
1D49A M 79
1D49B M 7A
1D49C M 61
1D49D X
1D49E M 63
1D49F M 64
1D4A0 X
1D4A2 M 67
1D4A3 X
1D4A5 M 6A
1D4A6 M 6B
1D4A7 X
1D4A9 M 6E
1D4AA M 6F
1D4AB M 70
1D4AC M 71
1D4AD X
1D4AE M 73
1D4AF M 74
1D4B0 M 75
1D4B1 M 76
1D4B2 M 77
1D4B3 M 78
1D4B4 M 79
1D4B5 M 7A
1D4B6 M 61
1D4B7 M 62
1D4B8 M 63
1D4B9 M 64
1D4BA X
1D4BB M 66
1D4BC X
1D4BD M 68
1D4BE M 69
1D4BF M 6A
1D4C0 M 6B
1D4C1 M 6C
1D4C2 M 6D
1D4C3 M 6E
1D4C4 X
1D4C5 M 70
1D4C6 M 71
1D4C7 M 72
1D4C8 M 73
1D4C9 M 74
1D4CA M 75
1D4CB M 76
1D4CC M 77
1D4CD M 78
1D4CE M 79
1D4CF M 7A
1D4D0 M 61
1D4D1 M 62
1D4D2 M 63
1D4D3 M 64
1D4D4 M 65
1D4D5 M 66
1D4D6 M 67
1D4D7 M 68
1D4D8 M 69
1D4D9 M 6A
1D4DA M 6B
1D4DB M 6C
1D4DC M 6D
1D4DD M 6E
1D4DE M 6F
1D4DF M 70
1D4E0 M 71
1D4E1 M 72
1D4E2 M 73
1D4E3 M 74
1D4E4 M 75
1D4E5 M 76
1D4E6 M 77
1D4E7 M 78
1D4E8 M 79
1D4E9 M 7A
1D4EA M 61
1D4EB M 62
1D4EC M 63
1D4ED M 64
1D4EE M 65
1D4EF M 66
1D4F0 M 67
1D4F1 M 68
1D4F2 M 69
1D4F3 M 6A
1D4F4 M 6B
1D4F5 M 6C
1D4F6 M 6D
1D4F7 M 6E
1D4F8 M 6F
1D4F9 M 70
1D4FA M 71
1D4FB M 72
1D4FC M 73
1D4FD M 74
1D4FE M 75
1D4FF M 76
1D500 M 77
1D501 M 78
1D502 M 79
1D503 M 7A
1D504 M 61
1D505 M 62
1D506 X
1D507 M 64
1D508 M 65
1D509 M 66
1D50A M 67
1D50B X
1D50D M 6A
1D50E M 6B
1D50F M 6C
1D510 M 6D
1D511 M 6E
1D512 M 6F
1D513 M 70
1D514 M 71
1D515 X
1D516 M 73
1D517 M 74
1D518 M 75
1D519 M 76
1D51A M 77
1D51B M 78
1D51C M 79
1D51D X
1D51E M 61
1D51F M 62
1D520 M 63
1D521 M 64
1D522 M 65
1D523 M 66
1D524 M 67
1D525 M 68
1D526 M 69
1D527 M 6A
1D528 M 6B
1D529 M 6C
1D52A M 6D
1D52B M 6E
1D52C M 6F
1D52D M 70
1D52E M 71
1D52F M 72
1D530 M 73
1D531 M 74
1D532 M 75
1D533 M 76
1D534 M 77
1D535 M 78
1D536 M 79
1D537 M 7A
1D538 M 61
1D539 M 62
1D53A X
1D53B M 64
1D53C M 65
1D53D M 66
1D53E M 67
1D53F X
1D540 M 69
1D541 M 6A
1D542 M 6B
1D543 M 6C
1D544 M 6D
1D545 X
1D546 M 6F
1D547 X
1D54A M 73
1D54B M 74
1D54C M 75
1D54D M 76
1D54E M 77
1D54F M 78
1D550 M 79
1D551 X
1D552 M 61
1D553 M 62
1D554 M 63
1D555 M 64
1D556 M 65
1D557 M 66
1D558 M 67
1D559 M 68
1D55A M 69
1D55B M 6A
1D55C M 6B
1D55D M 6C
1D55E M 6D
1D55F M 6E
1D560 M 6F
1D561 M 70
1D562 M 71
1D563 M 72
1D564 M 73
1D565 M 74
1D566 M 75
1D567 M 76
1D568 M 77
1D569 M 78
1D56A M 79
1D56B M 7A
1D56C M 61
1D56D M 62
1D56E M 63
1D56F M 64
1D570 M 65
1D571 M 66
1D572 M 67
1D573 M 68
1D574 M 69
1D575 M 6A
1D576 M 6B
1D577 M 6C
1D578 M 6D
1D579 M 6E
1D57A M 6F
1D57B M 70
1D57C M 71
1D57D M 72
1D57E M 73
1D57F M 74
1D580 M 75
1D581 M 76
1D582 M 77
1D583 M 78
1D584 M 79
1D585 M 7A
1D586 M 61
1D587 M 62
1D588 M 63
1D589 M 64
1D58A M 65
1D58B M 66
1D58C M 67
1D58D M 68
1D58E M 69
1D58F M 6A
1D590 M 6B
1D591 M 6C
1D592 M 6D
1D593 M 6E
1D594 M 6F
1D595 M 70
1D596 M 71
1D597 M 72
1D598 M 73
1D599 M 74
1D59A M 75
1D59B M 76
1D59C M 77
1D59D M 78
1D59E M 79
1D59F M 7A
1D5A0 M 61
1D5A1 M 62
1D5A2 M 63
1D5A3 M 64
1D5A4 M 65
1D5A5 M 66
1D5A6 M 67
1D5A7 M 68
1D5A8 M 69
1D5A9 M 6A
1D5AA M 6B
1D5AB M 6C
1D5AC M 6D
1D5AD M 6E
1D5AE M 6F
1D5AF M 70
1D5B0 M 71
1D5B1 M 72
1D5B2 M 73
1D5B3 M 74
1D5B4 M 75
1D5B5 M 76
1D5B6 M 77
1D5B7 M 78
1D5B8 M 79
1D5B9 M 7A
1D5BA M 61
1D5BB M 62
1D5BC M 63
1D5BD M 64
1D5BE M 65
1D5BF M 66
1D5C0 M 67
1D5C1 M 68
1D5C2 M 69
1D5C3 M 6A
1D5C4 M 6B
1D5C5 M 6C
1D5C6 M 6D
1D5C7 M 6E
1D5C8 M 6F
1D5C9 M 70
1D5CA M 71
1D5CB M 72
1D5CC M 73
1D5CD M 74
1D5CE M 75
1D5CF M 76
1D5D0 M 77
1D5D1 M 78
1D5D2 M 79
1D5D3 M 7A
1D5D4 M 61
1D5D5 M 62
1D5D6 M 63
1D5D7 M 64
1D5D8 M 65
1D5D9 M 66
1D5DA M 67
1D5DB M 68
1D5DC M 69
1D5DD M 6A
1D5DE M 6B
1D5DF M 6C
1D5E0 M 6D
1D5E1 M 6E
1D5E2 M 6F
1D5E3 M 70
1D5E4 M 71
1D5E5 M 72
1D5E6 M 73
1D5E7 M 74
1D5E8 M 75
1D5E9 M 76
1D5EA M 77
1D5EB M 78
1D5EC M 79
1D5ED M 7A
1D5EE M 61
1D5EF M 62
1D5F0 M 63
1D5F1 M 64
1D5F2 M 65
1D5F3 M 66
1D5F4 M 67
1D5F5 M 68
1D5F6 M 69
1D5F7 M 6A
1D5F8 M 6B
1D5F9 M 6C
1D5FA M 6D
1D5FB M 6E
1D5FC M 6F
1D5FD M 70
1D5FE M 71
1D5FF M 72
1D600 M 73
1D601 M 74
1D602 M 75
1D603 M 76
1D604 M 77
1D605 M 78
1D606 M 79
1D607 M 7A
1D608 M 61
1D609 M 62
1D60A M 63
1D60B M 64
1D60C M 65
1D60D M 66
1D60E M 67
1D60F M 68
1D610 M 69
1D611 M 6A
1D612 M 6B
1D613 M 6C
1D614 M 6D
1D615 M 6E
1D616 M 6F
1D617 M 70
1D618 M 71
1D619 M 72
1D61A M 73
1D61B M 74
1D61C M 75
1D61D M 76
1D61E M 77
1D61F M 78
1D620 M 79
1D621 M 7A
1D622 M 61
1D623 M 62
1D624 M 63
1D625 M 64
1D626 M 65
1D627 M 66
1D628 M 67
1D629 M 68
1D62A M 69
1D62B M 6A
1D62C M 6B
1D62D M 6C
1D62E M 6D
1D62F M 6E
1D630 M 6F
1D631 M 70
1D632 M 71
1D633 M 72
1D634 M 73
1D635 M 74
1D636 M 75
1D637 M 76
1D638 M 77
1D639 M 78
1D63A M 79
1D63B M 7A
1D63C M 61
1D63D M 62
1D63E M 63
1D63F M 64
1D640 M 65
1D641 M 66
1D642 M 67
1D643 M 68
1D644 M 69
1D645 M 6A
1D646 M 6B
1D647 M 6C
1D648 M 6D
1D649 M 6E
1D64A M 6F
1D64B M 70
1D64C M 71
1D64D M 72
1D64E M 73
1D64F M 74
1D650 M 75
1D651 M 76
1D652 M 77
1D653 M 78
1D654 M 79
1D655 M 7A
1D656 M 61
1D657 M 62
1D658 M 63
1D659 M 64
1D65A M 65
1D65B M 66
1D65C M 67
1D65D M 68
1D65E M 69
1D65F M 6A
1D660 M 6B
1D661 M 6C
1D662 M 6D
1D663 M 6E
1D664 M 6F
1D665 M 70
1D666 M 71
1D667 M 72
1D668 M 73
1D669 M 74
1D66A M 75
1D66B M 76
1D66C M 77
1D66D M 78
1D66E M 79
1D66F M 7A
1D670 M 61
1D671 M 62
1D672 M 63
1D673 M 64
1D674 M 65
1D675 M 66
1D676 M 67
1D677 M 68
1D678 M 69
1D679 M 6A
1D67A M 6B
1D67B M 6C
1D67C M 6D
1D67D M 6E
1D67E M 6F
1D67F M 70
1D680 M 71
1D681 M 72
1D682 M 73
1D683 M 74
1D684 M 75
1D685 M 76
1D686 M 77
1D687 M 78
1D688 M 79
1D689 M 7A
1D68A M 61
1D68B M 62
1D68C M 63
1D68D M 64
1D68E M 65
1D68F M 66
1D690 M 67
1D691 M 68
1D692 M 69
1D693 M 6A
1D694 M 6B
1D695 M 6C
1D696 M 6D
1D697 M 6E
1D698 M 6F
1D699 M 70
1D69A M 71
1D69B M 72
1D69C M 73
1D69D M 74
1D69E M 75
1D69F M 76
1D6A0 M 77
1D6A1 M 78
1D6A2 M 79
1D6A3 M 7A
1D6A4 M 131
1D6A5 M 237
1D6A6 M 73 73
1D6A7 X
1D6A8 M 3B1
1D6A9 M 3B2
1D6AA M 3B3
1D6AB M 3B4
1D6AC M 3B5
1D6AD M 3B6
1D6AE M 3B7
1D6AF M 3B8
1D6B0 M 3B9
1D6B1 M 3BA
1D6B2 M 3BB
1D6B3 M 3BC
1D6B4 M 3BD
1D6B5 M 3BE
1D6B6 M 3BF
1D6B7 M 3C0
1D6B8 M 3C1
1D6B9 M 3B8
1D6BA M 3C3
1D6BB M 3C4
1D6BC M 3C5
1D6BD M 3C6
1D6BE M 3C7
1D6BF M 3C8
1D6C0 M 3C9
1D6C1 M 2207
1D6C2 M 3B1
1D6C3 M 3B2
1D6C4 M 3B3
1D6C5 M 3B4
1D6C6 M 3B5
1D6C7 M 3B6
1D6C8 M 3B7
1D6C9 M 3B8
1D6CA M 3B9
1D6CB M 3BA
1D6CC M 3BB
1D6CD M 3BC
1D6CE M 3BD
1D6CF M 3BE
1D6D0 M 3BF
1D6D1 M 3C0
1D6D2 M 3C1
1D6D3 M 3C3
1D6D5 M 3C4
1D6D6 M 3C5
1D6D7 M 3C6
1D6D8 M 3C7
1D6D9 M 3C8
1D6DA M 3C9
1D6DB M 2202
1D6DC M 3B5
1D6DD M 3B8
1D6DE M 3BA
1D6DF M 3C6
1D6E0 M 3C1
1D6E1 M 3C0
1D6E2 M 3B1
1D6E3 M 3B2
1D6E4 M 3B3
1D6E5 M 3B4
1D6E6 M 3B5
1D6E7 M 3B6
1D6E8 M 3B7
1D6E9 M 3B8
1D6EA M 3B9
1D6EB M 3BA
1D6EC M 3BB
1D6ED M 3BC
1D6EE M 3BD
1D6EF M 3BE
1D6F0 M 3BF
1D6F1 M 3C0
1D6F2 M 3C1
1D6F3 M 3B8
1D6F4 M 3C3
1D6F5 M 3C4
1D6F6 M 3C5
1D6F7 M 3C6
1D6F8 M 3C7
1D6F9 M 3C8
1D6FA M 3C9
1D6FB M 2207
1D6FC M 3B1
1D6FD M 3B2
1D6FE M 3B3
1D6FF M 3B4
1D700 M 3B5
1D701 M 3B6
1D702 M 3B7
1D703 M 3B8
1D704 M 3B9
1D705 M 3BA
1D706 M 3BB
1D707 M 3BC
1D708 M 3BD
1D709 M 3BE
1D70A M 3BF
1D70B M 3C0
1D70C M 3C1
1D70D M 3C3
1D70F M 3C4
1D710 M 3C5
1D711 M 3C6
1D712 M 3C7
1D713 M 3C8
1D714 M 3C9
1D715 M 2202
1D716 M 3B5
1D717 M 3B8
1D718 M 3BA
1D719 M 3C6
1D71A M 3C1
1D71B M 3C0
1D71C M 3B1
1D71D M 3B2
1D71E M 3B3
1D71F M 3B4
1D720 M 3B5
1D721 M 3B6
1D722 M 3B7
1D723 M 3B8
1D724 M 3B9
1D725 M 3BA
1D726 M 3BB
1D727 M 3BC
1D728 M 3BD
1D729 M 3BE
1D72A M 3BF
1D72B M 3C0
1D72C M 3C1
1D72D M 3B8
1D72E M 3C3
1D72F M 3C4
1D730 M 3C5
1D731 M 3C6
1D732 M 3C7
1D733 M 3C8
1D734 M 3C9
1D735 M 2207
1D736 M 3B1
1D737 M 3B2
1D738 M 3B3
1D739 M 3B4
1D73A M 3B5
1D73B M 3B6
1D73C M 3B7
1D73D M 3B8
1D73E M 3B9
1D73F M 3BA
1D740 M 3BB
1D741 M 3BC
1D742 M 3BD
1D743 M 3BE
1D744 M 3BF
1D745 M 3C0
1D746 M 3C1
1D747 M 3C3
1D749 M 3C4
1D74A M 3C5
1D74B M 3C6
1D74C M 3C7
1D74D M 3C8
1D74E M 3C9
1D74F M 2202
1D750 M 3B5
1D751 M 3B8
1D752 M 3BA
1D753 M 3C6
1D754 M 3C1
1D755 M 3C0
1D756 M 3B1
1D757 M 3B2
1D758 M 3B3
1D759 M 3B4
1D75A M 3B5
1D75B M 3B6
1D75C M 3B7
1D75D M 3B8
1D75E M 3B9
1D75F M 3BA
1D760 M 3BB
1D761 M 3BC
1D762 M 3BD
1D763 M 3BE
1D764 M 3BF
1D765 M 3C0
1D766 M 3C1
1D767 M 3B8
1D768 M 3C3
1D769 M 3C4
1D76A M 3C5
1D76B M 3C6
1D76C M 3C7
1D76D M 3C8
1D76E M 3C9
1D76F M 2207
1D770 M 3B1
1D771 M 3B2
1D772 M 3B3
1D773 M 3B4
1D774 M 3B5
1D775 M 3B6
1D776 M 3B7
1D777 M 3B8
1D778 M 3B9
1D779 M 3BA
1D77A M 3BB
1D77B M 3BC
1D77C M 3BD
1D77D M 3BE
1D77E M 3BF
1D77F M 3C0
1D780 M 3C1
1D781 M 3C3
1D783 M 3C4
1D784 M 3C5
1D785 M 3C6
1D786 M 3C7
1D787 M 3C8
1D788 M 3C9
1D789 M 2202
1D78A M 3B5
1D78B M 3B8
1D78C M 3BA
1D78D M 3C6
1D78E M 3C1
1D78F M 3C0
1D790 M 3B1
1D791 M 3B2
1D792 M 3B3
1D793 M 3B4
1D794 M 3B5
1D795 M 3B6
1D796 M 3B7
1D797 M 3B8
1D798 M 3B9
1D799 M 3BA
1D79A M 3BB
1D79B M 3BC
1D79C M 3BD
1D79D M 3BE
1D79E M 3BF
1D79F M 3C0
1D7A0 M 3C1
1D7A1 M 3B8
1D7A2 M 3C3
1D7A3 M 3C4
1D7A4 M 3C5
1D7A5 M 3C6
1D7A6 M 3C7
1D7A7 M 3C8
1D7A8 M 3C9
1D7A9 M 2207
1D7AA M 3B1
1D7AB M 3B2
1D7AC M 3B3
1D7AD M 3B4
1D7AE M 3B5
1D7AF M 3B6
1D7B0 M 3B7
1D7B1 M 3B8
1D7B2 M 3B9
1D7B3 M 3BA
1D7B4 M 3BB
1D7B5 M 3BC
1D7B6 M 3BD
1D7B7 M 3BE
1D7B8 M 3BF
1D7B9 M 3C0
1D7BA M 3C1
1D7BB M 3C3
1D7BD M 3C4
1D7BE M 3C5
1D7BF M 3C6
1D7C0 M 3C7
1D7C1 M 3C8
1D7C2 M 3C9
1D7C3 M 2202
1D7C4 M 3B5
1D7C5 M 3B8
1D7C6 M 3BA
1D7C7 M 3C6
1D7C8 M 3C1
1D7C9 M 3C0
1D7CA M 3DD
1D7CC X
1D7CE M 30
1D7CF M 31
1D7D0 M 32
1D7D1 M 33
1D7D2 M 34
1D7D3 M 35
1D7D4 M 36
1D7D5 M 37
1D7D6 M 38
1D7D7 M 39
1D7D8 M 30
1D7D9 M 31
1D7DA M 32
1D7DB M 33
1D7DC M 34
1D7DD M 35
1D7DE M 36
1D7DF M 37
1D7E0 M 38
1D7E1 M 39
1D7E2 M 30
1D7E3 M 31
1D7E4 M 32
1D7E5 M 33
1D7E6 M 34
1D7E7 M 35
1D7E8 M 36
1D7E9 M 37
1D7EA M 38
1D7EB M 39
1D7EC M 30
1D7ED M 31
1D7EE M 32
1D7EF M 33
1D7F0 M 34
1D7F1 M 35
1D7F2 M 36
1D7F3 M 37
1D7F4 M 38
1D7F5 M 39
1D7F6 M 30
1D7F7 M 31
1D7F8 M 32
1D7F9 M 33
1D7FA M 34
1D7FB M 35
1D7FC M 36
1D7FD M 37
1D7FE M 38
1D7FF M 39
1D800 V
1DA8C X
1DA9B V
1DAA0 X
1DAA1 V
1DAB0 X
1DB00 V
1DB1D X
1DF00 V
1DF4D M 1DF4E
1DF4E V
1DF7E M 1DF7F
1DF7F V
1DF80 X
1DF90 V
1DF95 M 73 73
1DF96 V
1DF97 X
1DFCD M 1DF57
1DFCE M 1DF58
1DFCF V
1DFE9 M 1D00
1DFEA V
1DFF3 M 3C8
1DFF4 V
1DFF6 M A795
1DFF7 X
1E000 V
1E007 X
1E008 V
1E019 X
1E01B V
1E022 X
1E023 V
1E025 X
1E026 V
1E02B X
1E030 M 430
1E031 M 431
1E032 M 432
1E033 M 433
1E034 M 434
1E035 M 435
1E036 M 436
1E037 M 437
1E038 M 438
1E039 M 43A
1E03A M 43B
1E03B M 43C
1E03C M 43E
1E03D M 43F
1E03E M 440
1E03F M 441
1E040 M 442
1E041 M 443
1E042 M 444
1E043 M 445
1E044 M 446
1E045 M 447
1E046 M 448
1E047 M 44B
1E048 M 44D
1E049 M 44E
1E04A M A689
1E04B M 4D9
1E04C M 456
1E04D M 458
1E04E M 4E9
1E04F M 4AF
1E050 M 4CF
1E051 M 430
1E052 M 431
1E053 M 432
1E054 M 433
1E055 M 434
1E056 M 435
1E057 M 436
1E058 M 437
1E059 M 438
1E05A M 43A
1E05B M 43B
1E05C M 43E
1E05D M 43F
1E05E M 441
1E05F M 443
1E060 M 444
1E061 M 445
1E062 M 446
1E063 M 447
1E064 M 448
1E065 M 44A
1E066 M 44B
1E067 M 491
1E068 M 456
1E069 M 455
1E06A M 45F
1E06B M 4AB
1E06C M A651
1E06D M 4B1
1E06E X
1E08F V
1E090 X
1E100 V
1E12D X
1E130 V
1E13E X
1E140 V
1E14A X
1E14E V
1E150 X
1E290 V
1E2AF X
1E2C0 V
1E2FA X
1E2FF V
1E300 X
1E4D0 V
1E4FA X
1E5D0 V
1E5FB X
1E5FF V
1E600 X
1E6C0 V
1E6DF X
1E6E0 V
1E6F6 X
1E6FE V
1E700 X
1E7E0 V
1E7E7 X
1E7E8 V
1E7EC X
1E7ED V
1E7EF X
1E7F0 V
1E7FF X
1E800 V
1E8C5 X
1E8C7 V
1E8D7 X
1E900 M 1E922
1E901 M 1E923
1E902 M 1E924
1E903 M 1E925
1E904 M 1E926
1E905 M 1E927
1E906 M 1E928
1E907 M 1E929
1E908 M 1E92A
1E909 M 1E92B
1E90A M 1E92C
1E90B M 1E92D
1E90C M 1E92E
1E90D M 1E92F
1E90E M 1E930
1E90F M 1E931
1E910 M 1E932
1E911 M 1E933
1E912 M 1E934
1E913 M 1E935
1E914 M 1E936
1E915 M 1E937
1E916 M 1E938
1E917 M 1E939
1E918 M 1E93A
1E919 M 1E93B
1E91A M 1E93C
1E91B M 1E93D
1E91C M 1E93E
1E91D M 1E93F
1E91E M 1E940
1E91F M 1E941
1E920 M 1E942
1E921 M 1E943
1E922 V
1E94C X
1E950 V
1E95A X
1E95E V
1E960 X
1EC71 V
1ECB5 X
1ED01 V
1ED3E X
1EE00 M 627
1EE01 M 628
1EE02 M 62C
1EE03 M 62F
1EE04 X
1EE05 M 648
1EE06 M 632
1EE07 M 62D
1EE08 M 637
1EE09 M 64A
1EE0A M 643
1EE0B M 644
1EE0C M 645
1EE0D M 646
1EE0E M 633
1EE0F M 639
1EE10 M 641
1EE11 M 635
1EE12 M 642
1EE13 M 631
1EE14 M 634
1EE15 M 62A
1EE16 M 62B
1EE17 M 62E
1EE18 M 630
1EE19 M 636
1EE1A M 638
1EE1B M 63A
1EE1C M 66E
1EE1D M 6BA
1EE1E M 6A1
1EE1F M 66F
1EE20 X
1EE21 M 628
1EE22 M 62C
1EE23 X
1EE24 M 647
1EE25 X
1EE27 M 62D
1EE28 X
1EE29 M 64A
1EE2A M 643
1EE2B M 644
1EE2C M 645
1EE2D M 646
1EE2E M 633
1EE2F M 639
1EE30 M 641
1EE31 M 635
1EE32 M 642
1EE33 X
1EE34 M 634
1EE35 M 62A
1EE36 M 62B
1EE37 M 62E
1EE38 X
1EE39 M 636
1EE3A X
1EE3B M 63A
1EE3C X
1EE42 M 62C
1EE43 X
1EE47 M 62D
1EE48 X
1EE49 M 64A
1EE4A X
1EE4B M 644
1EE4C X
1EE4D M 646
1EE4E M 633
1EE4F M 639
1EE50 X
1EE51 M 635
1EE52 M 642
1EE53 X
1EE54 M 634
1EE55 X
1EE57 M 62E
1EE58 X
1EE59 M 636
1EE5A X
1EE5B M 63A
1EE5C X
1EE5D M 6BA
1EE5E X
1EE5F M 66F
1EE60 X
1EE61 M 628
1EE62 M 62C
1EE63 X
1EE64 M 647
1EE65 X
1EE67 M 62D
1EE68 M 637
1EE69 M 64A
1EE6A M 643
1EE6B X
1EE6C M 645
1EE6D M 646
1EE6E M 633
1EE6F M 639
1EE70 M 641
1EE71 M 635
1EE72 M 642
1EE73 X
1EE74 M 634
1EE75 M 62A
1EE76 M 62B
1EE77 M 62E
1EE78 X
1EE79 M 636
1EE7A M 638
1EE7B M 63A
1EE7C M 66E
1EE7D X
1EE7E M 6A1
1EE7F X
1EE80 M 627
1EE81 M 628
1EE82 M 62C
1EE83 M 62F
1EE84 M 647
1EE85 M 648
1EE86 M 632
1EE87 M 62D
1EE88 M 637
1EE89 M 64A
1EE8A X
1EE8B M 644
1EE8C M 645
1EE8D M 646
1EE8E M 633
1EE8F M 639
1EE90 M 641
1EE91 M 635
1EE92 M 642
1EE93 M 631
1EE94 M 634
1EE95 M 62A
1EE96 M 62B
1EE97 M 62E
1EE98 M 630
1EE99 M 636
1EE9A M 638
1EE9B M 63A
1EE9C X
1EEA1 M 628
1EEA2 M 62C
1EEA3 M 62F
1EEA4 X
1EEA5 M 648
1EEA6 M 632
1EEA7 M 62D
1EEA8 M 637
1EEA9 M 64A
1EEAA X
1EEAB M 644
1EEAC M 645
1EEAD M 646
1EEAE M 633
1EEAF M 639
1EEB0 M 641
1EEB1 M 635
1EEB2 M 642
1EEB3 M 631
1EEB4 M 634
1EEB5 M 62A
1EEB6 M 62B
1EEB7 M 62E
1EEB8 M 630
1EEB9 M 636
1EEBA M 638
1EEBB M 63A
1EEBC X
1EEF0 V
1EEF2 X
1F000 V
1F02C X
1F030 V
1F094 X
1F0A0 V
1F0AF X
1F0B1 V
1F0C0 X
1F0C1 V
1F0D0 X
1F0D1 V
1F0F6 X
1F101 M 30 2C
1F102 M 31 2C
1F103 M 32 2C
1F104 M 33 2C
1F105 M 34 2C
1F106 M 35 2C
1F107 M 36 2C
1F108 M 37 2C
1F109 M 38 2C
1F10A M 39 2C
1F10B V
1F110 M 28 61 29
1F111 M 28 62 29
1F112 M 28 63 29
1F113 M 28 64 29
1F114 M 28 65 29
1F115 M 28 66 29
1F116 M 28 67 29
1F117 M 28 68 29
1F118 M 28 69 29
1F119 M 28 6A 29
1F11A M 28 6B 29
1F11B M 28 6C 29
1F11C M 28 6D 29
1F11D M 28 6E 29
1F11E M 28 6F 29
1F11F M 28 70 29
1F120 M 28 71 29
1F121 M 28 72 29
1F122 M 28 73 29
1F123 M 28 74 29
1F124 M 28 75 29
1F125 M 28 76 29
1F126 M 28 77 29
1F127 M 28 78 29
1F128 M 28 79 29
1F129 M 28 7A 29
1F12A M 3014 73 3015
1F12B M 63
1F12C M 72
1F12D M 63 64
1F12E M 77 7A
1F12F V
1F130 M 61
1F131 M 62
1F132 M 63
1F133 M 64
1F134 M 65
1F135 M 66
1F136 M 67
1F137 M 68
1F138 M 69
1F139 M 6A
1F13A M 6B
1F13B M 6C
1F13C M 6D
1F13D M 6E
1F13E M 6F
1F13F M 70
1F140 M 71
1F141 M 72
1F142 M 73
1F143 M 74
1F144 M 75
1F145 M 76
1F146 M 77
1F147 M 78
1F148 M 79
1F149 M 7A
1F14A M 68 76
1F14B M 6D 76
1F14C M 73 64
1F14D M 73 73
1F14E M 70 70 76
1F14F M 77 63
1F150 V
1F16A M 6D 63
1F16B M 6D 64
1F16C M 6D 72
1F16D V
1F190 M 64 6A
1F191 V
1F1AF X
1F1E6 V
1F200 M 307B 304B
1F201 M 30B3 30B3
1F202 M 30B5
1F203 X
1F210 M 624B
1F211 M 5B57
1F212 M 53CC
1F213 M 30C7
1F214 M 4E8C
1F215 M 591A
1F216 M 89E3
1F217 M 5929
1F218 M 4EA4
1F219 M 6620
1F21A M 7121
1F21B M 6599
1F21C M 524D
1F21D M 5F8C
1F21E M 518D
1F21F M 65B0
1F220 M 521D
1F221 M 7D42
1F222 M 751F
1F223 M 8CA9
1F224 M 58F0
1F225 M 5439
1F226 M 6F14
1F227 M 6295
1F228 M 6355
1F229 M 4E00
1F22A M 4E09
1F22B M 904A
1F22C M 5DE6
1F22D M 4E2D
1F22E M 53F3
1F22F M 6307
1F230 M 8D70
1F231 M 6253
1F232 M 7981
1F233 M 7A7A
1F234 M 5408
1F235 M 6E80
1F236 M 6709
1F237 M 6708
1F238 M 7533
1F239 M 5272
1F23A M 55B6
1F23B M 914D
1F23C X
1F240 M 3014 672C 3015
1F241 M 3014 4E09 3015
1F242 M 3014 4E8C 3015
1F243 M 3014 5B89 3015
1F244 M 3014 70B9 3015
1F245 M 3014 6253 3015
1F246 M 3014 76D7 3015
1F247 M 3014 52DD 3015
1F248 M 3014 6557 3015
1F249 X
1F250 M 5F97
1F251 M 53EF
1F252 X
1F260 V
1F266 X
1F300 V
1F6DA X
1F6DC V
1F6ED X
1F6F0 V
1F6FD X
1F700 V
1F7DC X
1F7E0 V
1F7EC X
1F7F0 V
1F80C X
1F810 V
1F848 X
1F850 V
1F85A X
1F860 V
1F888 X
1F890 V
1F8AE X
1F8B0 V
1F8BC X
1F8C0 V
1F8C2 X
1F8D0 V
1F8D9 X
1F900 V
1FA58 X
1FA60 V
1FA6E X
1FA70 V
1FA7D X
1FA80 V
1FA8C X
1FA8E V
1FAC7 X
1FAC8 V
1FAC9 X
1FACC V
1FADE X
1FADF V
1FAEC X
1FAEF V
1FAFB X
1FB00 V
1FB93 X
1FB94 V
1FBF0 M 30
1FBF1 M 31
1FBF2 M 32
1FBF3 M 33
1FBF4 M 34
1FBF5 M 35
1FBF6 M 36
1FBF7 M 37
1FBF8 M 38
1FBF9 M 39
1FBFA V
1FBFB X
20000 V
2A6E0 X
2A700 V
2B81F X
2B820 V
2CEAE X
2CEB0 V
2EBE1 X
2EBF0 V
2EE5E X
2F800 M 4E3D
2F801 M 4E38
2F802 M 4E41
2F803 M 20122
2F804 M 4F60
2F805 M 4FAE
2F806 M 4FBB
2F807 M 5002
2F808 M 507A
2F809 M 5099
2F80A M 50E7
2F80B M 50CF
2F80C M 349E
2F80D M 2063A
2F80E M 514D
2F80F M 5154
2F810 M 5164
2F811 M 5177
2F812 M 2051C
2F813 M 34B9
2F814 M 5167
2F815 M 518D
2F816 M 2054B
2F817 M 5197
2F818 M 51A4
2F819 M 4ECC
2F81A M 51AC
2F81B M 51B5
2F81C M 291DF
2F81D M 51F5
2F81E M 5203
2F81F M 34DF
2F820 M 523B
2F821 M 5246
2F822 M 5272
2F823 M 5277
2F824 M 3515
2F825 M 52C7
2F826 M 52C9
2F827 M 52E4
2F828 M 52FA
2F829 M 5305
2F82A M 5306
2F82B M 5317
2F82C M 5349
2F82D M 5351
2F82E M 535A
2F82F M 5373
2F830 M 537D
2F831 M 537F
2F834 M 20A2C
2F835 M 7070
2F836 M 53CA
2F837 M 53DF
2F838 M 20B63
2F839 M 53EB
2F83A M 53F1
2F83B M 5406
2F83C M 549E
2F83D M 5438
2F83E M 5448
2F83F M 5468
2F840 M 54A2
2F841 M 54F6
2F842 M 5510
2F843 M 5553
2F844 M 5563
2F845 M 5584
2F847 M 5599
2F848 M 55AB
2F849 M 55B3
2F84A M 55C2
2F84B M 5716
2F84C M 5606
2F84D M 5717
2F84E M 5651
2F84F M 5674
2F850 M 5207
2F851 M 58EE
2F852 M 57CE
2F853 M 57F4
2F854 M 580D
2F855 M 578B
2F856 M 5832
2F857 M 5831
2F858 M 58AC
2F859 M 214E4
2F85A M 58F2
2F85B M 58F7
2F85C M 5906
2F85D M 591A
2F85E M 5922
2F85F M 5962
2F860 M 216A8
2F861 M 216EA
2F862 M 59EC
2F863 M 5A1B
2F864 M 5A27
2F865 M 59D8
2F866 M 5A66
2F867 M 36EE
2F868 M 36FC
2F869 M 5B08
2F86A M 5B3E
2F86C M 219C8
2F86D M 5BC3
2F86E M 5BD8
2F86F M 5BE7
2F870 M 5BF3
2F871 M 21B18
2F872 M 5BFF
2F873 M 5C06
2F874 M 5F53
2F875 M 5C22
2F876 M 3781
2F877 M 5C60
2F878 M 5C6E
2F879 M 5CC0
2F87A M 5C8D
2F87B M 21DE4
2F87C M 5D43
2F87D M 21DE6
2F87E M 5D6E
2F87F M 5D6B
2F880 M 5D7C
2F881 M 5DE1
2F882 M 5DE2
2F883 M 382F
2F884 M 5DFD
2F885 M 5E28
2F886 M 5E3D
2F887 M 5E69
2F888 M 3862
2F889 M 22183
2F88A M 387C
2F88B M 5EB0
2F88C M 5EB3
2F88D M 5EB6
2F88E M 5ECA
2F88F M 2A392
2F890 M 5EFE
2F891 M 22331
2F893 M 8201
2F894 M 5F22
2F896 M 38C7
2F897 M 232B8
2F898 M 261DA
2F899 M 5F62
2F89A M 5F6B
2F89B M 38E3
2F89C M 5F9A
2F89D M 5FCD
2F89E M 5FD7
2F89F M 5FF9
2F8A0 M 6081
2F8A1 M 393A
2F8A2 M 391C
2F8A3 M 6094
2F8A4 M 226D4
2F8A5 M 60C7
2F8A6 M 6148
2F8A7 M 614C
2F8A8 M 614E
2F8A9 M 614C
2F8AA M 617A
2F8AB M 618E
2F8AC M 61B2
2F8AD M 61A4
2F8AE M 61AF
2F8AF M 61DE
2F8B0 M 61F2
2F8B1 M 61F6
2F8B2 M 6210
2F8B3 M 621B
2F8B4 M 625D
2F8B5 M 62B1
2F8B6 M 62D4
2F8B7 M 6350
2F8B8 M 22B0C
2F8B9 M 633D
2F8BA M 62FC
2F8BB M 6368
2F8BC M 6383
2F8BD M 63E4
2F8BE M 22BF1
2F8BF M 6422
2F8C0 M 63C5
2F8C1 M 63A9
2F8C2 M 3A2E
2F8C3 M 6469
2F8C4 M 647E
2F8C5 M 649D
2F8C6 M 6477
2F8C7 M 3A6C
2F8C8 M 654F
2F8C9 M 656C
2F8CA M 2300A
2F8CB M 65E3
2F8CC M 66F8
2F8CD M 6649
2F8CE M 3B19
2F8CF M 6691
2F8D0 M 3B08
2F8D1 M 3AE4
2F8D2 M 5192
2F8D3 M 5195
2F8D4 M 6700
2F8D5 M 669C
2F8D6 M 80AD
2F8D7 M 43D9
2F8D8 M 6717
2F8D9 M 671B
2F8DA M 6721
2F8DB M 675E
2F8DC M 6753
2F8DD M 233C3
2F8DE M 3B49
2F8DF M 67FA
2F8E0 M 6785
2F8E1 M 6852
2F8E2 M 6885
2F8E3 M 2346D
2F8E4 M 688E
2F8E5 M 681F
2F8E6 M 6914
2F8E7 M 3B9D
2F8E8 M 6942
2F8E9 M 69A3
2F8EA M 69EA
2F8EB M 6AA8
2F8EC M 236A3
2F8ED M 6ADB
2F8EE M 3C18
2F8EF M 6B21
2F8F0 M 238A7
2F8F1 M 6B54
2F8F2 M 3C4E
2F8F3 M 6B72
2F8F4 M 6B9F
2F8F5 M 6BBA
2F8F6 M 6BBB
2F8F7 M 23A8D
2F8F8 M 21D0B
2F8F9 M 23AFA
2F8FA M 6C4E
2F8FB M 23CBC
2F8FC M 6CBF
2F8FD M 6CCD
2F8FE M 6C67
2F8FF M 6D16
2F900 M 6D3E
2F901 M 6D77
2F902 M 6D41
2F903 M 6D69
2F904 M 6D78
2F905 M 6D85
2F906 M 23D1E
2F907 M 6D34
2F908 M 6E2F
2F909 M 6E6E
2F90A M 3D33
2F90B M 6ECB
2F90C M 6EC7
2F90D M 23ED1
2F90E M 6DF9
2F90F M 6F6E
2F910 M 23F5E
2F911 M 23F8E
2F912 M 6FC6
2F913 M 7039
2F914 M 701E
2F915 M 701B
2F916 M 3D96
2F917 M 704A
2F918 M 707D
2F919 M 7077
2F91A M 70AD
2F91B M 20525
2F91C M 7145
2F91D M 24263
2F91E M 719C
2F91F M 243AB
2F920 M 7228
2F921 M 7235
2F922 M 7250
2F923 M 24608
2F924 M 7280
2F925 M 7295
2F926 M 24735
2F927 M 24814
2F928 M 737A
2F929 M 738B
2F92A M 3EAC
2F92B M 73A5
2F92C M 3EB8
2F92E M 7447
2F92F M 745C
2F930 M 7471
2F931 M 7485
2F932 M 74CA
2F933 M 3F1B
2F934 M 7524
2F935 M 24C36
2F936 M 753E
2F937 M 24C92
2F938 M 7570
2F939 M 2219F
2F93A M 7610
2F93B M 24FA1
2F93C M 24FB8
2F93D M 25044
2F93E M 3FFC
2F93F M 4008
2F940 M 76F4
2F941 M 250F3
2F942 M 250F2
2F943 M 25119
2F944 M 25133
2F945 M 771E
2F946 M 771F
2F948 M 774A
2F949 M 4039
2F94A M 778B
2F94B M 4046
2F94C M 4096
2F94D M 2541D
2F94E M 784E
2F94F M 788C
2F950 M 78CC
2F951 M 40E3
2F952 M 25626
2F953 M 7956
2F954 M 2569A
2F955 M 256C5
2F956 M 798F
2F957 M 79EB
2F958 M 412F
2F959 M 7A40
2F95A M 7A4A
2F95B M 7A4F
2F95C M 2597C
2F95D M 25AA7
2F95F M 7AEE
2F960 M 4202
2F961 M 25BAB
2F962 M 7BC6
2F963 M 7BC9
2F964 M 4227
2F965 M 25C80
2F966 M 7CD2
2F967 M 42A0
2F968 M 7CE8
2F969 M 7CE3
2F96A M 7D00
2F96B M 25F86
2F96C M 7D63
2F96D M 4301
2F96E M 7DC7
2F96F M 7E02
2F970 M 7E45
2F971 M 4334
2F972 M 26228
2F973 M 26247
2F974 M 4359
2F975 M 262D9
2F976 M 7F7A
2F977 M 2633E
2F978 M 7F95
2F979 M 7FFA
2F97A M 8005
2F97B M 264DA
2F97C M 26523
2F97D M 8060
2F97E M 265A8
2F97F M 8070
2F980 M 2335F
2F981 M 43D5
2F982 M 80B2
2F983 M 8103
2F984 M 440B
2F985 M 813E
2F986 M 5AB5
2F987 M 267A7
2F988 M 267B5
2F989 M 23393
2F98A M 2339C
2F98B M 8201
2F98C M 8204
2F98D M 8F9E
2F98E M 446B
2F98F M 8291
2F990 M 828B
2F991 M 829D
2F992 M 52B3
2F993 M 82B1
2F994 M 82B3
2F995 M 82BD
2F996 M 82E6
2F997 M 26B3C
2F998 M 82E5
2F999 M 831D
2F99A M 8363
2F99B M 83AD
2F99C M 8323
2F99D M 83BD
2F99E M 83E7
2F99F M 8457
2F9A0 M 8353
2F9A1 M 83CA
2F9A2 M 83CC
2F9A3 M 83DC
2F9A4 M 26C36
2F9A5 M 26D6B
2F9A6 M 26CD5
2F9A7 M 452B
2F9A8 M 84F1
2F9A9 M 84F3
2F9AA M 8516
2F9AB M 273CA
2F9AC M 8564
2F9AD M 26F2C
2F9AE M 455D
2F9AF M 4561
2F9B0 M 26FB1
2F9B1 M 270D2
2F9B2 M 456B
2F9B3 M 8650
2F9B4 M 865C
2F9B5 M 8667
2F9B6 M 8669
2F9B7 M 86A9
2F9B8 M 8688
2F9B9 M 870E
2F9BA M 86E2
2F9BB M 8779
2F9BC M 8728
2F9BD M 876B
2F9BE M 8786
2F9BF M 45D7
2F9C0 M 87E1
2F9C1 M 8801
2F9C2 M 45F9
2F9C3 M 8860
2F9C4 M 8863
2F9C5 M 27667
2F9C6 M 88D7
2F9C7 M 88DE
2F9C8 M 4635
2F9C9 M 88FA
2F9CA M 34BB
2F9CB M 278AE
2F9CC M 27966
2F9CD M 46BE
2F9CE M 46C7
2F9CF M 8AA0
2F9D0 M 8AED
2F9D1 M 8B8A
2F9D2 M 8C55
2F9D3 M 27CA8
2F9D4 M 8CAB
2F9D5 M 8CC1
2F9D6 M 8D1B
2F9D7 M 8D77
2F9D8 M 27F2F
2F9D9 M 20804
2F9DA M 8DCB
2F9DB M 8DBC
2F9DC M 8DF0
2F9DD M 208DE
2F9DE M 8ED4
2F9DF M 8F38
2F9E0 M 285D2
2F9E1 M 285ED
2F9E2 M 9094
2F9E3 M 90F1
2F9E4 M 9111
2F9E5 M 2872E
2F9E6 M 911B
2F9E7 M 9238
2F9E8 M 92D7
2F9E9 M 92D8
2F9EA M 927C
2F9EB M 93F9
2F9EC M 9415
2F9ED M 28BFA
2F9EE M 958B
2F9EF M 4995
2F9F0 M 95B7
2F9F1 M 28D77
2F9F2 M 49E6
2F9F3 M 96C3
2F9F4 M 5DB2
2F9F5 M 9723
2F9F6 M 29145
2F9F7 M 2921A
2F9F8 M 4A6E
2F9F9 M 4A76
2F9FA M 97E0
2F9FB M 2940A
2F9FC M 4AB2
2F9FD M 29496
2F9FE M 980B
2FA00 M 9829
2FA01 M 295B6
2FA02 M 98E2
2FA03 M 4B33
2FA04 M 9929
2FA05 M 99A7
2FA06 M 99C2
2FA07 M 99FE
2FA08 M 4BCE
2FA09 M 29B30
2FA0A M 9B12
2FA0B M 9C40
2FA0C M 9CFD
2FA0D M 4CCE
2FA0E M 4CED
2FA0F M 9D67
2FA10 M 2A0CE
2FA11 M 4CF8
2FA12 M 2A105
2FA13 M 2A20E
2FA14 M 2A291
2FA15 M 9EBB
2FA16 M 4D56
2FA17 M 9EF9
2FA18 M 9EFE
2FA19 M 9F05
2FA1A M 9F0F
2FA1B M 9F16
2FA1C M 9F3B
2FA1D M 2A600
2FA1E X
30000 V
3134B X
31350 V
3347A X
3D000 V
3FC40 X
E0100 I
E01F0 X"

/-- The value of a hex digit. -/
def hexDigitValue (c : Char) : Option Nat :=
  if '0' ≤ c ∧ c ≤ '9' then some (c.toNat - 48)
  else if 'A' ≤ c ∧ c ≤ 'F' then some (c.toNat - 55)
  else none

/-- A hex number, or `none` for an empty or malformed word. -/
def readHex (w : String) : Option Nat :=
  if w.isEmpty then none
  else w.toList.foldl (fun acc c => do let n ← acc; let d ← hexDigitValue c; pure (16 * n + d)) (some 0)

/-- One row: its first code point and what the mapping does from there. -/
def readRow (line : String) : Option (Nat × Mapping) :=
  match line.splitOn " " with
  | [start, "V"] => (readHex start).map (·, .valid)
  | [start, "I"] => (readHex start).map (·, .ignored)
  | [start, "D"] => (readHex start).map (·, .deviation)
  | [start, "X"] => (readHex start).map (·, .disallowed)
  | start :: "M" :: image => do
    let first ← readHex start
    let cps ← image.mapM readHex
    pure (first, .mapped (cps.map Char.ofNat))
  | _ => none

/-- The table, read from its rows. -/
def mappingTable : Text.StartTable Mapping :=
  ⟨((mappingRows.splitOn "\n").filterMap readRow).toArray⟩

/-- What the mapping does with a character. -/
def mapping (c : Char) : Mapping := (mappingTable.find? c.toNat).getD .disallowed

end Url
end WalletAuth
