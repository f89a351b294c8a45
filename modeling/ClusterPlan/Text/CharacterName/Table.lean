/-!
# Codes of the names of characters

The codes of all names of characters that follow no rule, in increasing order. Each code is written as its
distance to the one before it, in two digits of the base sixty-two.
-/

namespace ClusterPlan.Text

/-- The distances between the codes; line breaks do not count. -/
def nameCodeTable : String := "
2b1w301HF32KLg1t0c0W5lCm5W6z0h3I0g1E1hCbAh17422h283k3R419CEiAb0J0t8vAJ0M1P0n0c4Q4U5KAx265bEX3S8H3pFG
4u441v6U7M2nH41A572ZCu0A0tA6B81V025c4TAY1O2i1E0t2e1C495M3g3N0OLC3PId27DL5g3B58H92j171d6D2b5G0Y1ZDL4F
1K2G732Y1u2F0e0T8MBX320u4A279GBoRC9Q6K6A3m5b2i0d3nEa7dDY5Y29CR6H1X0430710xDUAb281J7K0l3q6uB06I19OM4s
6x4WNc2iM60k4a0d7EEh0n0366FE21CIAn32186g691W4J4e0R7n4QPw331C0Q4B6u6514HQ8O571F2m4I6n1S273LBR1l49AL2w
9Q2i9D0M276F278Q3Y1S6y1V9i1R0B0k3A4aEy0s6T270I7t4m4h1U2k0v4t5f0c7h0p5E3ZCk0Q1h9O1x2M1m551E6N5oBDDD1T
4A271S2Z085A0z5i6c932IG20m8k0M3P020i270t5YAe7N7D2I8m2s4j6n6t761S0U5w4O5Y6g3s0c5r8r2v5S2G4i0Q720K7C1H
1L1U3A0cAw2G02AA7T5k1A5W29E605Ca7A2iRLGF4N3T6x7m5F0Y0P2m5v5k0Y072M3b041c3X4K6m0y7h8A0S3qOG4VGF6x5d7E
De1J1u060h4n0x6g0a4IBN270C1X3g3J330T1g0X2wGW1LCX0Q4L1q9e130I3I1u029S1C0K4X0Z7u950o435P2w0t604T1x1QPW
722E5A302m0AFX1N1v1DGJ4A0bEZ0c0z4X0E6F1HFP682XDQDXAe4v0x3f0V9C6Y0c8l3r9z6iF77z3z2p5F3l905Q0C9JCX110B
4gGVAnDP1B0n3q301G2q32812996EO8CAY4MEd0s38Bn56CY7S920cUYD5L97CBh2B8PIJ1BCR1P6d1C2s0E127iHL1S1BAJ1j0c
DqNyDy1h6wGf2t7J5P0y8s5IBL0S4i384IBK433nET316z04AIAeH76lVb7r9hHrL60q6R121J8b0d3u0W3T3d2R4J01543H2b96
5G5V7N1v3q5oCKEy7w4t0i4MMTG56g1n4c4S1dEH2p1g2u5x0Z1z5b1gJa5z4sCW397K0V5v7QT29n4jKW9J3o3U9r031L1W90Cf
77310VDm048S2I5C0v1rBRAP0KAMF39i0m3U4q0D9Q0g7Z2k7L41KQJq9J3r057z0KGW6Z9M0c34292Z4k5W4V4h8y4a0A8R2e1l
9K8AJG0O2XHL0e0k0g5I1D8Q378PQhIH5H7k070h480P3eDt05H54R0V3T0m3t2R7E3TJz5l3iGL7C0T3G118O3H0d2D899P1T5u
A65T2A0Q5t141i602H640b4j049s0aHa3EAk151EAG06652f4L2W8w0q1b5z6X0R4i8p783U0h1M0S111W20161ZIY4q2S606QCi
7V651k291A7L1J6A3I1m672N9C5F0z0y0U9l0E491g01010F8E4t545i5849FmAr6401341zAg0X0O2C08ER0R3p1B1v2a3T4b0V
3X4b64011Z3U7N1e1s3hBk22D70F5O209f2I01XP3GBzHS01420X310t6N4W0P675b1m0A0m7d2vBDAA012q2D6G14Ca9iKm1I1Y
3i0f0o0B2T011Z4V2U0UA5HJ0dCk1N3zAx1eIY1c6n3n1T814pI4040Z0j543Q5H6e134zC63LHY207S2JH60C8G3l011K0G5u6U
600S0e0U819r3s4y6b1x0n0T5e33254B0a2W3q2jGZKc4KBM043T0e0z56Fd473UBp1L285z1M2p0LB13k2LA97w590VGn1m9j0f
0o161q1i1G0e1e4R2q2E7s591o0t2S2DH70hG20l2a3V22G31N3mBv4d4vFL0k174E7V307a3d109v508v42415R0Z0E2x2L5W3y
2u5h0j050Z3mAX8J9f1fA92a0a8l0v7p1f3U4R1U060E9B1a1q1B7s1E20A21kI51d3W4R1a4b4o3J072l5O5k4p5L3j6C810959
4R2a8P291H21774l4s2x2L1v5I7b093e3I1L1A3H2a171h5b3Q652s2N2Z0E132S1R2E5E53Fj4R111Z2r0e36302E1P4g2R0w4R
1H0b2SMU680S1k2G0R658K5V0a1J2U410J4W4R4d4N3W1c910Z0Q4R652a5k0g0V3d0j0Y7o0i3N0n2FBq0t6V3p1t5m2a3V0G2K
411F0U050b5P1J073p0B0f0O1L456E0r3Q3dDy2v0c27481x2a1f450g0T4w0r5E1j32130F3V070n206Z6IDG0z2a330S02032V
3G110C1x5P651L0O4563UH231S1x0d4P211v3U2R1y1g1j456302383P2G0F4O2H750K1Y5b231S6z215P655o0H3E1O1A028210
1I5P0SCV3c1S6z210V1s322t2M0q63020W4W0Q0K02921N0q171I2y5HAP1S6c020L21Ae0q3e2R4m10020J8j070QLs1D852144
3m0J2v0Q15183s3T0d1g021c161z1C391B1eAx1q7e0z651N210b142P7Q655m028Y0U0X2I0CCDGT654D3D1C4tAT4N2p0i430i
394P572J8R0B2S1s1a1FA9274w0q4f024N2p6vDW4F0B410H0Q5ODV0W1Z241d4A0X4N2p650F3i2O1r2h3T8R656a6v585L1U2t
2p654j9dEWNy48344l1K6l4m2p4k3I043n2d5k0q0E6D1M2m6T0M0R6l657o3D0W2pEW2wL20K6D0f656y4Z2p6t2D1M442O024A
HO1T263d2P3gAk0n8T2y1q2l238W7Q7I3Z2l6x3H7R0p2pA50N4O4i0i0j03433K1W8Z8z4IAh0M0U2p981K581r2r449v4D2r1H
5f19020z1K421n5i2p395I212P073y10AF3v6O6A1Z4U140y0E3s112X0B0I2S2p0C7d0c0B1q1a0n0e5t71Bf070L0D0S4bAX1n
7E2p8R3n82Fn2R5H17AT0c7L2p1T4K2e9c6X0kDA3V0G0N472a0B0H0X5J0A6u0d2p0I2X5c4m1JA423Br5626AM3J3x2p21600Q
1d4S4q3e1a5h7D1003790J4S6O6T2p0w0w2ZA5A40U594C45015G1vCF5N2U0L2j2n0q1z0H5u6P2F1Q1H1c0PAc591Q0D0QCq4m
2Q0P20Ai1o3Q0R6DDS0S7C0a2K3BAA1B0C4t1o3J7L085W4Q4Q920S7C4g1P8V32013b2Z154f2GDE106f4V1k011f3b80650I0V
0x3i2u0M8h0hBz2m21Bt7a5h0cAv0A1R383qIq5h8DDH6B0M502u3o4j0D5w4b0QFX2j0SCF129x1a7G4S0D613z3l4O6s0T3u01
6RIM650u0O6Y0M3n734D5Y0i7u3L0d1R111sEL7N076c35Cj5g3w6i0M6K8D2m0D210k2W3IB2DD7L3j254D8c2o6Y3r0H0t2t22
5aPLFu2o1r3a17RA3o1447Al1p0A342u1V0P2Q0i0F2L2t1gGi5b2v1G16FCD42o1Y9I8Z4j9p3F8N612a76233X0f4g3k4v5f8r
4G0SDS2C1z8G0z2U1w0s2X4J7E6LDYCg0m0a3b0MBN7D0g46Im601mAC0U911y5v4M2sMw2q3h046j6j821H6b3h6S48SH5i9Y0Q
1y1F4f2P0Q1I3I4z2b4E0i1Q5c0t2GBVMo551D368F3IJM7E5SKj984E8E7E1H4f8l5A4K172G5v2R9l470t073U3202575L833p
H25G1t8j4E50BS6O0CCH3T2r8E7B2q6F8k0a1oGo2d4J9m5G4P3d8B5p1v8P2eJRDv0L2J57061q1a2d047y9V314Z3w3C6F2a2C
7jAy4EUiOYP82q6DRx0i601x4w1D2Q76350L5t5a1MMg2sA1Ej0v9f8V617D0J3H5Q4GCm323j4g3v0jQw1Y6r0Z0n7N6C2a0n4f
0vAY6F0P062sBn5H0a5D2N3F2q3OD1352eLx9b0d0jVX033K3ID92FYt2B0QAr6v0M0K0B6x523n972m2m9v6i7Z6s232O6f428V
0y8w1r9A2T1qHu7o1k1hCiHQ0WG801Ax3Q9W24652c0s05C11CHy112d2C3d3T5X4F0U262D3s3J5C2DFk0d2A5q2N5a9w4w2U5j
3J348C4O6d6Z20IR1bBw1L1I157t5X3K6G1q4KD51T5P2g3H7L119m1S5C5X0y7Z2l7f3g0n6S7X5k3mBb403P0C12351l3U438h
0r56355w65Jc0n6a0G6M0r0j0a3E7g4MF61389Dj583N3r2B4A2v6U0eB03S2j0cVw2a203K1V5c0j1G01Dp1X2r953m3dDZ0v2G
AT2w8P0i5z1Q9N8V1f7u6oBw2T0x7z772u2yIw2HCl0U3U7D9M3K2Q8b8J0U2v1kDv3t1I4v3Z1O3Q0Z9j1O533f397G4JAy0W1G
2bCG8r6F2P3k9L840V047k48AG4S0K912a3V2uAc9GEp4T4Y2WGzBcCv054W325M2LBdEdAiGN2m17Z92MBaHv1Q6d7uBl6Y1k1A
0bBs0c3uFo2L3a3u1u0LGX0M1T5V0U3cMJ3n241t5s1s0f0i1G1T360c9h1E0O4q7JB40I3L0b7s9p3r8J8RLM0B4q5U0f2Q0l4A
5fJY139W1q7Z1xAc4D2h78OyJM6S2v2b5j7r3Z3c9r2i2z7F2FDv4r0M1C054Y4L6w1o5F2TDi3INhFuFs3zUM0NFXJM8FAI8U16
2E0W2921AgKQCM6y3i1j4u1CGm423T5J3A2f5u7M300h1N3M1u78737B20BJ9t3mAKDg0vLz0T821zH6789Q2j3bHb2s2g2763CY
Fw0K69541MGx0o4s4L4b7G0p5t2202362XKnDB3n6B5C216V7H1C2LBI7A8P2d2OFv0rCx2B0O1f9c6S0p1r2h0j4K5Z931E3471
4F4e1S1K2LAx1N682K5Q4K2y9zBA0n8M3k2IElE65P6681042j4R0B0C0m3L342kEzeN2M2b0w5B0D04Dt0R05DJ3GDp1R2w9N1C
6a0HBR2VDn1F7702C99k1GKn2NCQ1vF87W5y1D3Q3O2r4F5g4w3zBA7Q3S2c3Q8L2LBs530S151n2c4W8T7LAF2w011Z7k0R9531
393D8v4s1F231T701e6Y6d0K2sFD7L6k1c080R1W4r5f307T3lCU8L4V0Z534l3j0R5y075c1e2Y5CG26l602H1o3F2w4h0r0R1h
4O1Z3Z094X3gF1BT663g1N6o1g0N042L2X1DZw5l4g4k4s073V0R656f1M8P499GBQ3d6F8U0R651q0O3H0a3D6y4J2f1G0t1tBv
Bw2L191u1D0f1f651Z4W8a0S5S6s2j9n1S9i0x05BI2g2c3T67081n4M260m311a712V0E2A8b4S0EDn011C0E3r2005EPAu1H1R
D92X1G0f1X3i7t1D659o4g0y3q4f0w1vCG1B1H3WF01Z4W663O0r160G2n2603302h2Z2w9s7L42H3Dw1T2s3j6A4k322q6G142f
BS0V5P1H3I1Y1YOB921T2h971n3Y2f3y68085X022o5a284tHo5T0k1Z716I66Uo3xHy2k4a1vGK4EF84E0WG31n1O0o7H6m1i8L
6G6I7d1I3C975U7X161O6bGg8s6A2q2KAT561M8HSv6q7p3yBq0G1WDU14HD271V3d0B1X4t4U8z0W2w2M1N1d226y2V0qJm5Y1I
0B0R2r1SA59A2M847U1857Ay4E2c0W0k2a4W4V6A0j0t1i1p6J138E2K2KEt650l872lDIGB1j0v5Z0u4T1T3t1V174E1Z6sAd32
0k0q0UHu0cFu0h3q1i1I6H4FDe2q280Q4r094i2o0N1z0e355K5oPC164i0F9L081w0D2j3K2f2R0zAPDt0GEF1A2B9a8K653o5Z
2E125yG07X237X662E0Q5f2b4A0C3U4O8O5ACf163a608K651A282nB81q3L1hB6012EAu3O080t542F095w2f3Q9M1F4D7b201C
Eu1K172h2a3V4c3i2f3Q2w3m6P4FBa1JFO2a0D3I3u242M0g1z1k1gBt2OA14z2Z9w093i2a3V2j5b0g1z3Q650O5Q3DBl361O0d
Df082S3P067L0z0g1z170Q1t4M1j5oH4AY2B3x5W0Z2h1s2D2E1z3Q3h2O180S4E0b5S8CM53V3X0Y2u211z1l1f0W5Z0J014C0l
0X3g2N9442241V6w4l1v3V2j4G1h0K1O0U073Q0D5s5o3V2Y0n0i126X7K1r3iBp6z212C1Y0a15656S1g5J7U5iGM1g0y0x6221
0lAjBr8d0R074EAT2y0z8w401d0O9l1j2J9Y1S0R0R6k0Q2P0KCTBp4G216e4q3R8Q6S2c2p8vBN7Z115l7k8z2s7n1H2p1X3QF4
662l5k6R0GAQ2V5p3F1k158H5n2ECa0B0W0q0u3K49FS2K6k2pAM5C4r8T3lFQ2b5A7U2pEB1l4r1n6e66D8Aw6j3t3r3a3C0I76
2i2O4f2x4X5IBg267u3t0oFE514G0N6a3QDI5T7n2Z1KNR3Z3L0P2j1M046F6A4d9F143t0O322E4Q0sCa3U451c0m1D0DNi3Z0R
044E282k23JJ3j1y2C1j0E4n0w4gPaGc1z0N1E063o1t1M08AS5c1q0X6t9uAX0h4E1z1o2S215h6N7A0T461p6B2yKH2h6N180t
5C0V49Fm6YAa220q1kDV3F6k0y2CDI0n3e6f994H4F740A6w0K324M8R6v4Z7s1j2M9s496u5c0y1w4o8RBU3K026GCi5u0V4Q3F
262K2V2t1K1t3o1Q284L514C5QLL13HC0m4f0y5uBz19161f7u4h0CKy0k0C7C1TAeAS2GBy5MF06t3Y4V4U2g0Q6i2J6X8Y1A07
0wBu092dAA2tKh0P2b9W230Q0V7C0p45Bx5t7q7k4E3YG47l0r2dFSDkAQ1N420c3n1t314Z0M3V2K0TA85u2U3G0k3H2e37314d
2J59029d6W2i6I2O53B23d5Q9K7t4fAI273p1MARAVBk503S7TBA9c126b0L9e740x2a1S5A4w5G0FSCIv574CIFEQEG3A07Fv5X
Qt6D720q012M2N072X5v3v151J7O1dYD1L8E2l4T665jK19021Ce2s2j2k8N588RC49L1n7l6sAg439A8N7w1D2k6t0S3F4NDa1S
6e8x0l1WM93S0G5I1cAO40041W2h1EIf2nHc4K3V0U3m550OJ21X8VCX1h5HHAC3280K1O6Q473H023jD0231QAB4A880w1z8I26
2x8r1F05F01VC01r330J6d1fMD1gFfCF4A1ZC20L6O3I9v1B2v1HCe5k66Gc2B2oCQAv3o21254r3C1X7z2y5B5TEB1GD8721H3z
0z2d822Q8XLx2LFe2W146b2r2C892K4nJX9u9m9D2RDg0p1r147r7m1Y1i2XA1312bBeHuB92E0QBABcBe0n4a3O1c3j6o8p8AAc
170A4h9C1V0x1U0O1V4m3RA93x320NFc5q3w2e900X3v0l3v3xFjAh0G0r7B452b2k5B2J7m4i1AGp0P9sDG0p0G0o6b1R3cA47M
0l1D9KIF5k1m5u5k892yIgEf5Y0X1b1H14066V0q4DDg3TCa6xEI0u1X141g346u7d9KCm4L0I3OGj4j1s3U1ZFe7B1K4Z3E76BA
4H01BdIcAR1y2uD63W380o974P5E4A2zET0k5I6T371g3b044o5w5i8F5RDj1xCY2e7J2c5L0M1n2b1Z6A2J2o620f0eA60k3g4O
7Z3v2s2b2F188yRX4XK50G0Z0o1TABDM8F0YAjHO39145XHU5XC9028x010pBf0P0Y1C0M1R1I2G0D9R8f5T0L9e2O08B99q5J3Y
NZ6Y154p8KDk4U0G2F0Y0VCv2K2r033d3D0G2t3r9G230jEx100T283YC62J4f110d4y1b4CAo0C1SD22o2c0C3YDV3A9l0T6s0G
1DDWDp3Y174N3vEG1ZBs0B8K0QCc6R13Cd10Lw1v1tIK0ODA9v7E9i2v4k0G0e2c0h0i2C4h3y5w11De1a1L7c2GB43rCx0t133I
9H4q1L0L5m0uCu3lFG6V3o4y5j218mDx0L0Z4nDs3e3f0u5j011u2q376B4i84793Q042s1U0VHB091I2g3u3N0Q2h6f2C501WLv
1F22207U1ZBO37JV1M0u4L2E6x1W05856f6x4J08371I3y5Y0q3u0O7g1w517P4e0C8o2H1f352J24376BJ74e5z05Fc5u177U1I
1D6B2X2R1j9nJz6T2uBb2y7M6u6A2i0Y7IB1209W4p284G1P1jDw0Q7FI9F75W132y1j3W4m7D1v8w4g0C3C5N3n8C1Z0l1A023P
0E1D1I4h0i0Q2r1c1U2P1CC50Z9G0rH84D353Z4h023p0h353z3l2S2m4Z522n0GIL3C1l4t202a07Iq37Ch51358B3f6b0F4h4M
CFEd6j0t1Q1z1T716J1h681G1m170h0P6X5d3EBD9s0L2t2X5J0T0c8p4hBN3VKJ09051N4p0H362TIp3V123D2nJi4n034uBQ1j
QUSF4g3zCKEl3M1HGI54940Y1r4oGpCr2r3G4o2i0G3x553Q2r4C68MX8D2g8g2L7Z0w2X0MD35T0M0E854Z1SAB6b8Q4q9H950R
4g4U061m2b0h5TBn934i3eAEAX0L7PAyGU0N7Z1C2A4R0gAR6GBz1J112EBM4d906PE51OCe1Z3t1A359q1vNr2P266t8L0a0V2Q
0P2d1A4a203YBd3EJFFH4x0V1A8o1K1X9d4y9aIg0S2R26500S100Abn3l170j294U9U461M0d0X2N6zES7T2j8f2s772r1J2h5S
0d0X4z9v1x1M0p5W0R1j1A1u1REK5G6r1r1Z4W0X1VCVA3PZ3q3Z1z0V2E3r0X7F690P4o81FI8Z6H0Y2D655y07Dc5p1dD60w9R
9Q065z061w432z243fCMB3DxDy654n1K13Du8dBV9w8u65254aAp3a0S4O5c2E5H1FAg0o3m0q3g2h3O0D154n2c660s3D0Z1d3H
4n4c6F4g1w1k4c753X1H1H651ZQ63qCyFZ1H0W4I15MX3q0D5U1DIq4M2U5S0A0T1a0KA437Ap1l0z3I900i411i408f653453JY
DH1h1YBe4D3A2v1Z0j0U291K0cDT7L1I3C1M2v4W084dJH19153p3k4mACHK7oAk6d6S3cAy055lD212842o2L1n1h8U032O0z7Y
0V220T9m1G6Z7R1w1M187z4q9s1ZBw3w230V8y7G2g234j972oB67V3R1L1JEI0X5h2E1h0G06JGGl1L1K1h4k6UBB1I232P4mDI
0e593L7J1m4L5m9K2l3C236O0v2I57GA1z3s0B1m2WE21B3a0x380x7XEh4dB91m6K9G1M5K02360l3C9q7W5p1f6Y3c1m0F1y1r
1g1s1Y6I6o385B1b4I6F9p1B3L1O5v1m0f0l2tHx380yA68h7N3b2V1I4R1m440F4eAl2Y2g0S2E0S5u80011U5b3E0E6U5L655o
5i175K381f2I778U7a3c2w114G653h272Y9b384g076H8m4t2P1B1Q011u7J0f5Q2P3g31620K2V38AFFF1e0P1G7v2F4012130d
5S0j8c0C2L38B4G40r160w6h8K656F3w1h383x0s7P3P6m4j1x3b422a5k4P1gBs384B6t4b0s842X1x7d2a5k65653Y2F3843Co
4S4M3Q072W2H2j2a4g0B0t65652y0F2a383D6t0y5S7z095K1M0K2N2h2aBp2t3C5n1p1J4C6s0A3p67106T43422a5n620g0c4F
0Y0i5538B422IF5N2a6E5b0g2p2a5n0I2q3x77BE2L098o38111Z8c3D0g5P5n0I1C1e3D7r5S060T7oBK0V2aCV4E1B5n0I2qB4
0VHR5W2v1r0ICD2d2m5n0I2q5G5Y0GAj025t3w7e17572C455P2y2p0I250l7N3hAbB1Eu4D5P5n0I0S2O1p1O7r5SK37k582M7l
0f2m0I2q3x6A0xIB4h74AnBC0I057h681v987R49Be0B333EAJ0t0I8h543XT17j2C0t1S2Y2l1B0m0I1E3g2l0o4O5WCh0A7E2s
0t2i7M3w6q111lCU0E1U4TH90B031b25343LAa014y2D0Tcj8N4u2CBvZxJz9A112w5C1u0UCb1i25JP43032v0w044Z6D111XIX
AY2P5y6u1JAC8j3C2N0W77E00z8zEV0L4g3L66588YPS844k4k1b631n881P0z684J1D0RDZ1g8nA31b7G0a4U0b4D1a1O2u1Q36
DD083wGR2W0m3L665m9O428pAaBo1b920f1T1w13345q0Y5g422iPI1H6w4I2j2c1tBJ3342EF2k6D50FiB5363c0O42Dp38B31P
0w0U4d3d1b3E7b07020i0m4J2115081Q42Cc5KB01y1Z5A9N4c0H4B61053x3Q3d5m9g1x13493jAX1M181L3t4Q2W1y5b9GIWI8
5i0y7y5Z0n8G9nHG4m320e1p1u0z1x0P0z3L1c8Z6FHdN54b04EV4tHx842k3uAB3t0C1JIV3R9Y2hGN8n5H897RD62f1t0W4DDF
3f3Y7i6a2SYP6B2R8t0i4T0S2F0gBZ6w378NFYFL0o7OEn0F9q7D0wAB87HS1M1Y56815eTc1zJy3LCo5QZL5F0319KP7Q0P3f5G
0DAK5i7r0N5wFk3v1M7i5g0z1v4m7C5U711G1WIz3b8MGB2qF05K24055P6Z4J2F5K5KGk0j46538s9o2A0M1p3b7Z83Ar3tAU8w
1dJj0V0r1C1F804y8aJWBm0s3b3F0c3i1OFa5pEB8q8P2m2w6C4E7K6A55164I5s1dMY0J015N3W2x2v0m9b0y0f3bAk137NDt0Q
9G1v4B726D4j2i8R7L3q372u393b8tFe0h4v9W5M0y2AHm951U4b5U220X50Dh7Q0O0A0y1GDF1L2B3T2s1EJW3A8v3Q4O464BFt
1K65Ah4F4v3Q3T5pLF3w2I650A139EBBAC6047623Z3C0d4h6164DS0v2B9G9n3g5G0v5K0x2JFAGnB63K4z0KBP2DAM534E2S07
31EWCS9kBk5J1y0a7w4dKX012u0l9g0E10Hl0g6R60OL0m644P1F3s3N7P2D563fLA44091d115n0u7F7z7Q5N0H4ADy2i3a262x
1f4iMR2C6o5kFK1A2j51Dy210x8u3V4rHTES2P711J1lBK0y4Z2O3jA1Iv8f705DAC6R3N8f5z1jAx0D5cGw3C323f1ZB01dBOAD
5R7s3G6N0w0n1R0Z703d3xGC8s5s1t1r9d7E2Z0H1SG98M3w8u0A8P7r07275q6RTIMe7k4N0W5r0c4d2b4z402WF04F0a0V2M0X
CG0Z5D4b5PTP9hBo2Z1eOg7o2IB92d2J7V3Y2EDJB10q4z3F354K2M3t2g32020470435o1zHP2W2a02B51k9l1e0W7H3D0Z4g1V
9l476r7n7u0e6l0v130j2N2E130X4e0M2F2Z2VEE2uGK0l2kAk1Y7O1h2j202e291W1V0vLe313T2x2u9t4J1A0u2633Af1Y0hP7
4c0RN31B21ANEY1P05F14eEc782Y1zAJ0d4S9SF05P5I5b0ZL43k7Z2e2vA53z0a6u125E0N2Z5z3f0L1p7D0f2Z7X5gEkRt505H
6hGPEL1d9254864r0O2v4Q6t4v076j4E5q0y551jAH0c6d4O6T1S12NM563c4o4P0V0F0j1p5e6xBK612B163lB51x201L8L0r3A
2y0I2f18DXFJ2G9a2h1r4c2J2Q4V2i3m2p711IF350HA1l881P2I2w4U4g4bCG183g6i9K0P6G1S0S23882c1C1r26Yk0b0S2J12
044q8UGG1C263S4V2o111pDo921Y062u780c3r602gCL1AAyQg285M0k8L2x1U3WGUKO1Z0p0I0F101I1JD1E74FJn4IHdCeAC7a
3W505nCkWK0z2c0g5l0V6G7t5uEq1N4c6uHO5s5q3wAH01A928KE302x1k3u9U0k1VD50O9p4S2205AC68597b3D2y281O3j0RFg
1WCY3I6vCJHo9J0NEJCU15ILHV0y562E1G6p9EAmCt8v1I1Y688Y2JKh0j6l4yFS4OHf15Ii509ANa3u5e4m455gAv3n1k84FS7h
6y4m3J79AY0d2M2NIs1S0w08535N1D5Q0AGv2Q11HOA62V9o0O1X4D4J4x1L8p1e1D1VNu5d0S6c2g79362538B60M1q8QDa656c
6k3J0tfp0f0k5L0t0G0t4a102h6Q3W3i4w0E5749833cA0013i2F076c1c0GEv5F6NFU263H4A480J1e650X8B0KIWB5FK650F1I
4Y0X0t9ABzGB7KB32V0Q650X5aBc0Y0Q0R2F1f4w1o4J037r3K023u3n70113c1S0X5g5p247Q2iEW2F1F8I6b2I0d02144z1M3B
0H1A07Ah3K2G1K5e7n2R6SE23h2O65Gu6G3J0VKN3h0d8N4h1O0w1l9VFl7z7j6O0z20703V2a1aCf2W4ZMsFO0S652m3JAz147Z
544w4E2i0B4X5p151J4U651s4D4s0N8H1s4j0SOO7O5H2Q1e0u3C0L5l0M1o040U3D3D4y5a6xP42a080c1Q3v2l5i3R0D7mABEt
0F2D0uBj0560344MK86I0J6n31101G1C463b0H3Z16657Q136P0P7N6iA11K0F1O2dBe8v0b1D0M5r1B2r0e1F8f2M170h2pCH0i
2z4l0K100G5u0G1p2o42057J02PO0S8y2j9C1B0c050q030O4n3k0I5e1m658qBg8Z2N6d9x0Y425e1m3P2g2dEH5v4N0F416z4S
5L0M0w0G5E3G1m659H5c203S0g4r1Z2H081c463c2lCP3w1m0F0o522H545aEW0V3W1o2I0I7x0uDZ120k0f3e1m3i1s3420BY05
131u2D410Z3XBB2W3K5h1m480B1m1aJw0c5U3O4Y8h5H0C2r500G0R651m1Q9RBa693r376D2l80034q0r651m3B6e9D0OAP5j1r
6O8j030a574V1a1m4JCa3S9T2r032qGy032e330G5p170f4JNI1V2M46Dy0L2f031e0P2D7W650l1s8HDt0B5B16Gn0B033K1h6l
0Z3o1i7V7x7R0JK44x03Bm652T3c970l1L2w4Z6S156u8z03871Q1a0f651w1b2YGB8z0W7j010W8C4m2s1w5R2d0G1L0b49Ii2k
3i6LAd9a6c1i1L0b49211P5c066x3S055Y4f3n8W412u2f3q0n0j2y1L0b0j3Q2c083L1LBd1S4f27Jf3J1T1146060w2B1L0b49
3J2m4a0G1J044W8MMh1A2h9f0b490C2i2y0D1S1B9j060BLx4b6S6c0B181Z0B0b2o1L0g5P861D0L8x0U8F2U0q4oAB8o0r0b2o
1L0g5P5h1DAX1eC2Bn2j5T4C0b2o1L0g3X1sCQ6f5H1Y8T4x056E3L6K3P215P1I4d096r6A9C6a0b4b5uCE0W210i4h2X1D2cCj
8aII7u0a2N1t215PC56C0o8S2A2N5k893t8r031y5P2t5y7P2pCT8q302L0E4n0K7d211N0jDq4X6e0g4j041XGz0GCk210M6iG9
1H140V434q0c3LAc1r8U064A1g0LCB8g65A5R5Ej0z74232B2k224b9U0A2U4R373a6U3s7aI11Q0IIH1uEl4k6i26BJEA1W2C3j
0ZJ66A2r2R6E9W8VJt5V2J1m0x0k7q2F0d3N4l0H8E0e4W8e9C5n4z4G5x5V0N2t1v1L822E1d7m2n1V63Af7U6J59KO2o350u2o
2XHa311C0M1b0Q3L66DT760J9COb21383v2O3D134H7b623Z2g7l2e1DEe219R0N95Ep3E0RPq0t214Y3h040U0X076P3f4d094M
BI4Y120vD70J2a1g212x4s9c0XAf0y0PAgFh2u4p21480pC82Y900pGK1H1r1Q7F2i3p0y4h6A8VAK3X9G8a2Z1y9Y016R1H800G
29CX7cGK2w2z131e2v1275LL2Z7jDP1R423V2X4k7e1m2136193a0L7C0a267b1PCq7X1a4G1RBOFB0E0a26J82i0i831a1e2R0O
0h6D3H4W4U8C4B321F7b7t560L2r2Y2L1dOE2ZAx0pBe163M9P23BpMX352n7k0a2l6y0Z0978AS4Y4R420I320E1j012i6u0A3Z
18E38qE59g0f541i3k0q9c7C275s032u1g0v3m7c7Z4oMp0a1uH3334b041Q5P0S8m7R1i9v4XB90LV232AE8U0Z9IBj7Y674C11
3v5CTm7E1NBQ2p1k521X1E221j610Y6v4M0aDJ8h6qDs4bBH7w8p1t0MBN5O3E1q7W1u1L2GFvBvBtCEAZ0a0J0C62Jp70LcA20X
211kJ40a4j115N3B3H381J3u6FAZG09I2M0E4U7IF80m275F2476272o0p8i0B7XAs4L5M4F2Z04Wt4c2U4L3c9t3m4W080z221b
034P5x2a2e2t9S0g6E4i4i2t4T9jA13SBA3l4L1w9f5gFL0mLR1e023Z2i2f1L9i1E304I4M1U6N9qBK2d2h7T5q351z1lEd6B0O
0b4P292uVM3B3h4WDv0SNRHs1n0mAY2R820mB20c3C4A2R3Y0N1H1C540V2L0s1K6P9sBr040jBd2V0W1YCe0H0Z3e5B3k1MB11t
5aB8D24P2t1Q9l507g3yA9DlBV4J7w6F5eGJ0Q2b8G4j9g4J7J1c0G11BG0z1K4r7wBJ9R4W4J1g1g2e1J2IIH7u0m9V6C5k3p4J
3p090l2a5BBTCb6L2QAW5z4J0X3I3U2zAR05758f2b3T0m6H0f39062867131b1f4j2a7OG2421C0C0P0j3I9CC34J6f0e0d7r0Q
3E3j39AF7Q2J0x2H5l6Y4J3T3q3Y1d4a8G6J064pPGBc0C0Q2s043S7g5u7t0F0X2W053D7y151N1O7Y7M6L1L0E0H7W9V286HQ0
6r1e5v5M4z7a6z0n0j1G2Y4Q2F1b2U2r5J1C4R2z1H761d5T1t5U4g3JWt0M5i4iAu680l7701E00Y2wH36fBSEg5E2Z1k140L26
2E0f3s1vKA7P2E4B2E4a0k1L3i0f3W0L5H9NCd1L3J047O563JCuDu0NAqA83uGr3U1O472sAY35P08H4Z1L0QAC1VD1546D1K4H
08050nAf5J2r1S0s457Z528x2D3r177D0Y4U5A5QO7MkBS4Z3FCnBd0W3lAcA01DCu2h7N1W3h3s2Z8K3E1Z1G1Z0T8W5H716G3d
1Taw0p0p544n0p33Ac8p9Q4n5e0f2L5SLe5p4MBX120tA32B1I820V2v2H355J2C8j732p3v0k8R3t5U53fx1S2SCC4N0SAu7hGC
7z1Z4K8p6p011LFY3I1F5r131qC16q1E3X4F1W3V2M080l1B8X161R5O4s1C1BAP4l4X1m5bE0JB3V4HBF4R7N3L3KAeBWSW8m0K
7c332Z5w4a3q222a4dWW45841m7v0Y1Z6UAL3Y0Y1TE0Jh1s63262v2s11Eu2a0h6R6cBW0JHZ0LHR5I5U1P84Ai0H1j2i3E0N85
247TDl5U2B43DD3V1x1g1t495mAg371E1tPh1Y0W893p89574f6XAf7LIB5E6JQo59274w1CF65H9r0l4SCo4c2h2t490D0T0V20
3XS26gEC0y2zG08Z2ABN4gHA0UE3711M6R1PEsCx164f4f1yAV6HFW7E0c7LFY2n3U072q3LB31qEz1l7lDi1H7S1PDb4HU22K9L
4130A0GZ3F5v061O6L260I1PBl4j0c7ZBR3s0H8VDz0SDq0jAq6o5UHH392jF41t3L9g0iEx0vG10p4TBD4G0OD57vFW3o1K0g21
1S5P1p130D2b1cF95ZUJ2P3h3r59A003Dd5I17Ej8c5P0H0P6c2h0s9B0r082p5G8B6b8E3p4n2e2l0g0S0O5m4J6G2MMR211U4P
1Y1F10066H5P0g0c3a2Q2v3H481L3Y3IJi2A6g6N1W4Z1T0t0c3eGN2P0p1t6G8t1c0h4x4k4n3A121Q0T650X4OJD8K4f5yAs65
650X4Q0ADZ0t5W8r0Z8U4q8X2S1E650X7C4TMS3i0Z0697Bu650X13286n1X1k9P1JA43G1VC58e655y072A4N57A94aAB07HI1T
4c1h1V2t0E3w3a9rHH3o0n4i8h0P0h0O5g652p0N2v14FL2q0t0r3w4u0D5u9S0f5b2H2W8V0k0K0f0b0lCh0o7l5G5pJg0C5t6x
6r5j2W4C08EfCQ1v0t3m2R3e36898y5zRG0Q6v5K0rAO7E481l692AHJ041MEj541D0D341h1I1d2CIB493I3D2W0hHj99262G2r
BZKhHV5e2F3M1X0j2n6P955i51T7090Y532G2F0Y045R2ZZ04K021t3535210P1I1I0b0s1O2rCV830p5h4H4M0W423d1n4n4x0g
5P1m2r3E4Z6T0WNE94282S3l5M0j1m0f2C3E7o7d5f4g0W1SOR651m2r3E4mA62wBLN2020U4e0v1m1z0s3E0N0I5C2zA4Ey1E6C
At0O5h1m2Y0J1S100m8g5r7s39GH981E0E0A2o2t1m2r1S1mEN8e56Jq1R2Z0c5h4d1S1m1QBq2K7R5o5c7d3H2c0l3r1K3z0O2R
2C1S1m0F0Q0sDN40526N489n0e7c055h4d1S0R1L1X2m3N2s8E0f2A1Q5o1Z439f6N0u1C5N0K1r0j0k1J1S1m1X1q0w1W40Ci9H
2d1E2WEOAK1S65EB1W311W4I5c171CFp83053e652UDQ6O0h0p6K0BFz1y5O4w1S651w494n8F33611x8U5D3m0f8Z0X0R0n1S3x
281L0b1F082m0z7j08721A2E4n3y4K6FBf0b0s0n7X0I130b4405Cd4P2A0u3x84Jb0n077Q1L321i86FxBjBe111r1Q0n0o2R4I
1L4k0RgQ8L0W0P0O0q0a670c0j1q0q0W1Y8WG98k3i1w7s4n0n8s4k8i0AIkFN246f9f321i4o1q59F25m5O2l583O0b1r6L2T0r
4k2T0O0y4T3s0L03Bb2XHK66081U5O4H4k8uAB5C7J5i5L7M1j5A0s1K2JSU0K3I4G3z1p4s6cFU010u9K4TB4Lg3a3m5s081R59
2v1M115iAv2a4c56969s0q0V86J17J1g870b5a6k6j0P4QBU767h5j1X99750M1fFN4mCC6R0i7H1007A328090K1Q0w1h2o59Bp
085k0U1i0J13101n1s8r0D1o4h3E4E6cBF0C1e9SJW2N5P4P4n5R4Y36ET7r46351c0GBq4G552f9d32BB8RMP1xDvPe4HKK3q66
AR0C0K1V1H483k8l1P1Q3y7H1u1T1Y380C0F2s096AG60I0p3W871G2l841M0a3W1BDuBC3a0I5RCx1MOhD3AYI02E131h0H3A3k
108j8I3J2ECcLm2J0cFJ0AI327247J2W4F3dGN7i5D7jEXOE1f4I3yBn3x75Fr2M9n190d0J841M5H8z964O8hBY4L1j705B8u4v
2tAE0M0N4YGr662x5VDb7c2x1v1V2Y7t5V4xAJ0Z3R1D245j8U3S150Y3l5hFz306m3I0G0n37PR6Q6X9v6I1R6W0j8849111E0h
0k365g6H050G1IEL7R2L32Bk6g2e0X3L2o5B1C0V2T5C2m081a9k1Q5b2b486b3d3x0lBI0C3s7J2c4H4K5W7f1m0O1w3p4K0P0e
516u4E6SJ71e7T0m1E7g6R4C112yHpA08G7k150I1j2y3H3N4I1J6c81130d7980At5I2A0B9A4E1R1K0l1x0k8K4y101INJ504Z
8c322ZB80G3bC94V1B3u2PD24j1f1c4c0Q0w3z4l0L031G411k4i2F7hJS7j171R5b7o0b14BH2c9D4x3i1Z530L5h4P0U7M6Z3a
143IA32j0c1j0j9s3G1J792W1F5AAK2w2M0n3C4s343o1D3560BQ8I3Y59Bk2J6V8mFvGd9gCc2V4xCN2G3k4t7l4u6j3W2tC70k
KHAQD49J2A1p4n3X2cJE191o0d4z4Z6g3v0l9L1e5Z0C2Q0dS7374w0O5nCb0F2s3Y4W4e0J4x7v9Q12382IKAAt1N2I1D4IDE0r
0i2T7t0z5p5EDy7B9xAD5h84Fr0OGhHL0n241O4k961UHI010A2C0WDC030S57DlLI1l5l9G2j3eDN3c4P2G7g8S1f7B45E15X2H
9u354W5Q1b9CMnEz3H1I055Z472j0V2FIY0E18BwLv2m0j223r0j7uEA0a2o1c6GBl557L1H7L2d3S762RIg2r3P3q2O0HBD0W7L
3h5s251m9y075s0s6m6r3B655o440u3qIX1D24644zAQ29En3x3Z3d1s8q5o2Z0uAX121R3z3D1C4y5Z2i6s0j1u5d4o035f3C09
Mh3x7m4Q4W3H1v7R3i347M9g0W8V695aCDIa0O2b987I0G3w2e5J2b7U5u2R755s18247zDc201r971c497D3a04Bj3D590Y2qDg
170HDU2J6w1D434T3a6U0H1iLc1FDM274b3714Eb2RA01Z0Y6X2y9N11CuFJ2e9w1J4Q172CF2MB3r7T050523VR6lJe8Y6YH11S
LUJc7v3a628B4HC92H0E4d0571059g5T1u3L9i2bLX2x4Y5Z8K3s4e3ZGc0rIv036mRnEh27DJ8cBD6Y0qFoEn4t0AB22m4HGQ01
3f5cVZ5v26751P3j1h2G0Y2i4f40282D6o2Z0vLx0l1S3i87EA8G1j1v1C72490qJH1K6uBI6D341m0v3L0H2u4t1jBh0B1XB14F
BG4p1K4H3O2b3wGb3l6X1KIL0U671t79692z290wCwC60y251y1uA12uWd440q1Y6Q6W0V1M7S4nCw6o121A3V5P2G054o5G4e1W
3uCo2v0xEo1VEn7Y8QDh0d0r1G9n3K3gEx5B2EPi5TBjA5M8F51d0M0V3D0dCV0d9C1B131u451m6F1dEq0A3X2ik8JzCr0Z8eDo
FKEv3z4AG60K241zKM3Y0a36LD5W4u7UIO1H9e6UCv2HAuLb413f215e7G0w1Q1V4nBMJa0P0D3z9H8hFo3W4S2HTU26QD1bOc5q
0U2m470wOT2t4qPB46AJAC4E4R0V2d11PE1r6A1J2h4k4Q1N323V3q5e650P2E2W4f0IL58t2a6SCN1l4M1p7Y375p3Z2XD13l3V
7KDK7Z9G1T3c3v0c0P2wCC1p35190r2F5L1S6z2Z6T1qD01n6jAo5K0j1nUq5C8eDb4T1a2H2tH65817201t0iAC2hK89N332AYN
2e1R1x150U9ZCA9F6r5dFKFR1TBg8D2S0S14863Q3rAh0f0y3F1A0L0CAU5V1s1S2H3E7518HM4Z5H6n8k8K629213395X04529e
2j6v172P2G1V1L9K7Y6W5r4u2u6F6x0L0ACX2J0X7D270X1W6f4X4A1pIn3F2b0c2s2U48144c7F0Z6x4f1k8X2H0Z817C5a0V2P
4D7kE9240wCy4I8C350k5L0f500x0j2y0v7T2i4v0eAd1K4D740N0a0c2o5T1Y4X6c1n080q2xGK5p2R6y1Y559X5s0D070j1q0r
0D2L0X04Ci6w166YEO2U1u4q2S4025650XB33r481h7p1G8P1k2s1j1a1n4W2F2l1Z0V3V2a0X5WBD3q1X306R6gIw0I0v19650X
5TC11L627D69CG274r24075y5y4WDr9y3l0f670U0g1j2X5B2X245g0P9JJL4y8C3yCC89854c7Y472UAn755K7w1q343F7j12Ge
0K0u3W3n1i360M603I4Z123z3J2G2a2l791v14943g2HI60xB11Z6a1H046O1k9F1pBk3r5OAL1s0m3TBoGT5L4E1xLIBg0c8Y5V
7T6K2kgE0q557r3J6V0JBQ2g2D5Y1Y5F3DAl5X6z0s132E3e3C1WHNCFH17r4D0Z1F741VOj0eEu1P20222y260l0f0OGyRNCs04
611mrI0U4U3z061p0B0u0sB381050J3Z7Y9O0QHt651m9L0H0E5k5b0B542P5c4P176kBB0O651m136X4e6mFRLE2b0O5h1m4J23
4a0g86Ej6OHR0O0a571m0G3R0cDr050L2w4Q8V0T1Z5t5S3N7T1W4B654Y48Ah1o1E7j0T5cHW0c5h0u5B3i5gIS2I0T1u3i5N83
0f435h650m2Q2tFa3H0Q2U2I5C0t4i080t6Q2p0U2g2r2q3K2l2V0o1A1cBOAN2I0T1H3u0R0v3AE3084W783L0f256703AJ5I1M
0w0T0H5LBc6WBQ0M65C07g252I0T5c3KCM2S5U4i1a65DF1j3d3A2l0H5L5N587d6b5B651L6W6t710H2U2f2x2a0hKNA22J1L4b
1RAe0Y3C322p2Q06Cx3o9L105J3a0t0S3TFQ1X3N4j0H2P4D4yOP0x0O3T3t5X4f2sAw8KAX063Q2N1N1C670Y0n2b1i3K3A9Q2e
4x08422k4jDV805B6c1A4b7q3F0U8VCD7jD20i7u2N9w2VCB0B8yArAN0r0MJr2V3V7o1m0B1ID02o1p843A1i23013Y8X132D16
2V026S0L5p2M3dMp1x2S7IAT2VFj3L0p4d2TE30X8Y1U4w0f323G2d1f4Q9X2fNH107ZFi0I651W1j4Q2F1dC203Jr0N0C1C4S0u
0SBv102A5B6q1gA5Gc3e782fCIAP1K06CU1n0G6VDxDL0m5C0P1t5D4g1tEq126XALJJ8q0G8TCy7r4w3U1S5pHp0UB3Bc1b643n
6Q4M4z6L5a5h921k8z382e2x31490J1d1a2D3p16B49A2I2C3i0z0iCb7X3l1P3Q0ABh2N4BJ0493I5A7T3r060l1l2L2c074J12
0z4SNk2G5p4W5w0w2z6Q0G46Ef0Q5j3x884K8H5H6V4V3w2A0i8T6O2fCv1j4o2m2r4q2v0D173d40452j88Fo6VFE9n0G3f2O0I
444o1t390p2C4a1I209i4I3s0i0J6y9s9f6VF14Z0q3W9m2wFu4T0V0p1H0B6K0bG87DCB0f530e1b4E0U1p6Z2S5e0jNM0e044A
3F5m0E4G4B6s6y0cB5DbBD1y0q6TL05t3l8S9p0v57AF2i1T8F0REu1jHIJL0n0b1N2S5v3K1j8V358x9xEr4bBQ324qhl345E9E
1b2l4r5fCR5M488u5yA92Y1I0T1b5h6D1A0D1r5sNW441U197K5z1b3BDa0z4R6g6n7P2N0O4G3o4x3624060H0A1b2P5c3eLc2N
8s1j1W0Y0a4z176Q4i2f9H1Z2h3G4bBb2o644f0T17F30J4k5N1b0OCeAu4t7x3QCP0Z1F8j146zBS7Q3T3e1l0C0C1a4oCy0V1L
013fN88r8sIb301f4O3OZbC65Y3RDY5e5J033A6d6l0p6lFJ1ZBs7t1n6F0O8UCq4l6F4pBI4L3O1X6v2QJj8C6f3e9m8m0uCUDf
0HHL4XBE5hJx0z2W1k9U0aATKOApCk0I9A5K0R2M1V2X0P3KCO4d0D3dG72N24B91V1e580K2a3c4p04B73v432a6s39072XCz22
5G6m1j3P0GAT1O072Q6u0ZAC0o3l7mBJ111XGH243JUc1d2g299n06QCAt160W1r7k0oEh2i2H902J3U1E2m2N1A3a5C264B1MB6
4a4M3P6g1A0KE65i1m0Z5r3J5U9H2v3v8hCY1M6x2TGl6f0g295U3RA40M14OuIf303R0D9o4Z03133p9X1w1N1O4n3mA30w5T0w
1D181w750i524d3r5iAT1G0I5l5D1U4a4I6v1P0R2k63125u1S801IBKHs0R1S1I2H6Q2x4hJU3UHw4P3e2q7z443D460v26FrIX
711Y4k640n590d3u561n4d3NIG1L0j142c3u6u0k0S0U120m19AJFdE286632t2BLm2VFK639M6W650C8c1u8Q1TAD0w1P3T354k
3nHPBr2J2S6t9DIR26DH1b0V619yIB7I5E2A3w4m3b1MAW2n2H240g3Z0v6GIh5J216Y60236L2D2A1h041K0F2KAZ6Z1IAM3g1R
0M0XCwtT0e2nG97T5vBR2QKd3H259K0Z187u1T3w234A4K5V2k3C4sTt1Q3Q01D53P2j0X5O7w8D0C2L1K6y3XFP1EAq09PwBv0q
2c0H1p0s4q7UCj6s7x57191e3z212K15149u2c5W9E5E2M133S3IAE7P0MKU212EBo3o2G570R0TA5052N2R4z0G09Jl735f511M
997W0L7w180I4sFF0x9T621qGs19022l0k0iEEAk3l5Q9i4a5d7o2c7O0lIGDE3w1a0L6h8Z4c0w1w2S0J2W4z8j0O7WAV17212r
2gDT0W1MA07k0y3O15AQ2D7B571Z1q2z2J6B5w1f5ZInJI0v2J3AA3AK2X6x6e6h7p1f2C2W2V6EC70h08740m4f3YEE0266240a
8n5L2U7Y1L1R5D2oF90GD7176r0V5H328w3sHbB5EQ5O4pCo1cRx0p069P4W0p0u3M1t1wAj251YCT296l156RAyBu8k110q2DVh
6R7q0L6o0C2Q0o3c2b2A1DG9K30t1J2O7C01440n0T5A7e2O3r062b83DP7j6I0v7w2T5g4i1w8L5c0G24A4041dBF6QA80lBD3q
8aFf4HBWCjEP7e0M04DW0MG21V7l0F030c2Z0h1355AgAe2b1K2x2w0k8W1W1m512C4PC7DU1U018y5G0d7D1z1a4h4E2e43GUFo
0E1K5t0R0E1c1678GT2DANBg266D0o37Hs3E3o022QCa2H2C2O6Z9z3ZLZ2Y022QEi09C76x6uBN8C1j1a173n3E1F1U6Q0G3Q41
2xGy1A6H8G5V022Q2Z1v2F2n0p4W6t0H7W1zCs8VAm02NT1B1G0bIT1q1v1R8v70021U8A7i273t2E0Y0X5nDo0Y1V0AF82UA43e
0a2q6G0G1UA81U1R8f1H5X0WBx2S0I667K7EBd6R5O1J3N1U277J152c2S4W240p0P3F1J3A7UC22d1r1r1q1B0P9Q3r3I202l4U
9k1I4j3TJZ0r0G9pA44kAz1d1t0a0M8oAF704M5T7K4s0V87175V2H080J5U1l1YCB0b4K0H3U6L1a1f9S125P3c4g1E125wGF48
0J1I8X1e113Q3E3OCv1o0w7G71NU5a0V0m0a4T0n1T3J0F7h219z1yCFB60x2S0k1E471g4N040V1T0p1P3160212H1H4e26DC0J
4NAX5a0V6c1T4v6K0g1L8CKy9X656c1T2hAZ1B252n2920Hd327q651M0D391u1TEn9L361Y333b6g21DQ0V294T4L3U5o3N0k02
7YB53I9A3o6q6c4z2D8t2i3s2G2Y0S2p214U6MBU3v0V0q0u3G2w0A3x1l0k7x7fBP552g0t1s2M0c5H0W4i0Z1MAH3w394Y4A27
153PGC1j2EIn8j0B8c17L83c403y2qBt0s1nK57p6A2b469lA0HU2H7t515q1E2j3uFP7gB80P161X6P1n0J246S2K0r1Y100p1T
1g3OTN0q0T5L310R2F2V16636T1gDh7b2iId4x6k4K0m3H8M1D1t3G4UFe4T3D3X4K3Q0S0x028uQGAq0d0i640u161X4K8l3I4t
0VC4723QIJ1A4e232F1G1N4d163z1A0lGq6c3w0v2P4a6T0X5H23BwCZ2G1GAY8A1E1T4o420A5v1m3V2L1o0k2THy9A3pAH6B07
1t261z1a0C0PEaD37M4Z5KCR0Y111z35180S0C5D6j2Y11A90m2P5c5W8c9h0u5B1mD06Y79285c236g584J5N0I0W5Z1m0f3e13
1O2M4T0Z0b640F3i3J0E0Y371b0u08BU791V0M3D650a1C2A0g1I0B8H2oHT1a0z2rGq3C4J1j653C0cAJ4k5w5L65AJ9R3E0r65
9O1V0ODF1A11080u070f1S0B65401cCt0t0Q413z260m153MC74n2P0H332I653gEy5B0H5oB5Gl1H1165Tu1tBy2s1Z6V332I65
6sAF054X3457Eb5X2Y5A2I0h5O0b8C3qDY3j1X51297X4z1L5I3p4Y5k1g1g7K3K6R0y260f5i1i2m0t4C1D4T6t8N1o4T0L7vBe
321R6gAs2u3b338NLj1N351B4h5H0J932G1A0e1E0R5L0M3n4E1L02JD5bB97KD6Cm31393TC92V2t4y0nD35G2O3W8W2t8MB03n
7MAs1t0hNx1m0XAoFb2E1RJ30y0j612T3l6O074z3C2E1Q01AH0r1c1n0W1D0OCn470IAEAD432W3q0B1F1J2d2G1a3N040W0R1j
DC5W1GF62C392i972990Cz4H5S063r5M4C0q481yBpEY6b418h655W098h5s2B0z0w1rAI4G3C4H1WAK3V2a310EB76Z0o7Y2H2w
630C0GL60n3FEMBpEY0G8KG80g993D203x1cDN7R3s1L0s5P0TDR5E2H3Q0N0Z0K1t0IBp2q7S4G2x389h9c1r5Z0T3y2V873i3H
7h3a3F2q8t0GIs39024p6a1h1C3c1b9L651t9DA46M0B3T0R7o1d1eCV4r0K0d580d22305XEg5I0Q1v1B2Z4U0f360eDR0T2x38
3E9h5r4f7j1U4b4y3B0KBb8o5kHM845Y0X6q0z2h813k402b2V0U2l3L0C670A7n3c0V2U1E657p3W4o6y3t1s0HAqAu99650d68
1U1Q8J0G31600u0j5k0jOT0E0U1M071s2GHyGy1j5W4b3N1c4e053VAQ3E7H3B4V0Y170c101D1b5W0Y1o5l4w09Iv6H3J2h0N3H
1z591J08DP2Z9l1wD06u9M3B4GEF1S0KBy2X22Cw5v2CB60C1E7HBQ4I1TAB0e4GLH5J1h1h8R330a2G5U0n0T8j3mMT026f0K6y
0Q8R2N1T420R291J3M6b3TJB134Z2x1D1v9q0E2NIjAM0f1x2w4b8N1V4a1C2E0Z0r0k282M6vEB329v156T7l185Z3l1O1A3l01
0x5s0U0W3A0J0r8wKV3R9V1W950zL60K0P1FAm7lES46095p0MKk4U9Q2L4G3f524F1W1C092K211g2i6PCK2N7kEd1w4g771K2D
0z2K250Z0i6Z7q5B0x0219Va8o2k6G2PEJ1d3V5k2s0w5nMg6P1b9o3M0OJr9k4e0V4b0k011s05103R3xOxIAIv5M1U6I1g592G
9A2N1JDS0Q6X4O6W0q493i5M8T9I7c025N8U1j23Hj110gLI2z2C4w2e5M4T6K638B5L1i6X9c2B4l9E0h7W6iBq1O1THy0q1m3h
6n7L8J11FX0k401i1z9e1NDu40Fj2J1t4j47880H1UD60NMD0x3R5R0P1W3o0U4W1X6O3B0w0G470M2t3T3z1B0h7C17Hf0S119i
2GIJ1nJE5D2m5p1n8w2G2U6501K1342D1XHj273K3Y0f0M0j2GDh722s4Y0S340zGE420E1H2Z4Z4a21BlCP1n0d342F32Be462N
7s36060AAI2v4xAHCp1t2w14Cm3q2C1p0f65CI7kDYJP3X1274BN5t103H340I0D0R0f1w5H530v0a1N4lCy4P7v32652t4H342F
3C840F1b5f2O7E3qKj0r2c083A17340k1Z9D130S45125M0G951d8Z6J1E15201g2I0318371ABC4CJu0c1cAc3H9q0b3Z0i9V5D
640a1B2R6i3c1D11Sb230hDL8M31A44J48Ga3a2k618O1r2RFD0sJ61g7p481902FK3S1MBd0S560Y063d82350F0N5P0d1T4fCZ
5J3T2c7q142V648p3L4W3M682H3A2J4NJH17D2162CBADM2O444W08D48p642Y8832GA4H5E9c1817HU5M530i5N1M3R2u0o2I3s
1S131o4H3f4h0Y7d1J3QCR3o184B471kCv1f2l1B2b3E2117RU4f0e1W1l9z5Z5g0K7O0T866K1dC5GV1kBh2L1t370FAxHeB40j
1K46285L3w3d023O1r7F994i7V3i49GE162N3c6M17Jz7V6pFi2O1N0J4L1L0v173DE7060g7r030j556pKd4p4G0z3a1l3U3e43
5D3c052Z0c3T3M0e1tGs0X4S6S6N2J7h3L3M2h4v4b0N0LEDCF0f1z0K5h3c055L3c0p1D9F6N2ZE8561D3FDHDw7x3G1S4p2EB4
9r330n6n0vDo340V1hCW611T6TCK3t4N64Dc3U6b3t5Q7F0P1E6U231Q1g1o4k2W4B0d8kAs9B2e0JAZ2W4F8k0z8C3E487D8Y24
1E4TB82z7N5Z6O3SSZ0fI21u770a5o4U8KFp431PA4331e2j0SE6Co7y2u1l7F1u8f2QCQ7i0KCo9n7C2t5k2Q7C9C030e8C0eC6
04Js0F6E83IV0Q4H1k6n5F870V61B62q0R650l2b1j2g3i1WCoBb4q0i4e3n0E2T2AHT0V4u3Z213R0D3a9YB81F3B0W211V7Q3V
2U3i744u6d1HLo3K2aAg3k7L0T1w0c0pCo1o7s7d5c2f7P1K0v9F223ZAu1E3v0i5oGGAxTq191P0Y083i7mDS1W6G400O800d3p
6PBQ7KEG240l0P3h6K2zBl1ZBC7TBE323eL55n4j994GEa2t3e5s241w1wD50L0P3eBT2GDh5m3eDa5D7i6N3i4A2G506L4G3s3e
2p1aBp1k0wAr029D1k7J2f9U2H1v1j2m1d0a9o0i1g0V0e0r4o2p2zAx2G44Bh3i0h2x1a2p2WH45m027t1m1H016KBA542p1L0h
2N08079c0a7g1T2R3L025c5L2G44Bc340U3t2q0T16655k3c1C2x3v1l0602260C4M400J0u2DAaBg4P262b1O0F2W4R6J3I2U02
9e1J0u0U4d28DH8M0V4k0q2p3n6t3N2P9K1f0S0S453HJR1z062T3c4M5W023b2R241H0X5g4m0u1M346c0T0fBZ131J0B2c0h0b
4n1J3C0p8B0X4u0L2K038c0H0d1E2N1A1K2V2SDk46220t3A4g2W290U3g923b480u3D1z0t3n1A1h1r6y3E5c4Z1d0a3X1T2c3g
Gl0u0q5F4xDk1C8z4M5T63043IB20u4K1l1A3n2n2uAa2G2B102D7d2C1bAB0m1I6P0C0u1P4g2n2ABi725B36046f449K730u3Z
0i0c1C4xAR5q3Y112V5U4v28140r6z2K4M1k0z6z4xGH4JDAJM0w093a0L341P3Y1y6ZA01g9S0t2F0x1b281D2j1j5v3a1M0C1U
3U1V0W4cGc1Z6N445T9yAT6z2QAp5T0V2B1P0R4b5J2a0l2E6C5a8W09BI1e2Z1JBc1M1H0T5y8e9x9U0Y2o17090o3Y2t1d295F
7t1Z1H5A2k2A4o1M643z7c0d0M0CCw2G189l281Z1H100G3Y4V5Z5iEU0u3m4e0V023526AJ3d0o0I0z4o363z2z1P74Cd304H16
3f0xGn010M4o4M230p0U1R0v4DAY0X3v0R1S315y330W060m5d4m6K4o2k5H233I3626337U254B7r4R9z1j1y4o1n8HHG3q2144
5x0k3T0C6VAY0P14A41MGU1o0M161S4d0J2m0ODY731MCT13CI3I2m8p9I5m078J8J4w2D3s8d2e1h2B030w29074vIF5p3H136b
3x773H47993X1L2z3Q19432F8t3d4O332u2G7I3G0x2B0z7d1a1x1N0G1H1QJkAR01LK3u2q180S1z0F081P2W220l4g3O8t2h5Z
312F2i3IA35J3D0R7rHm1L0dGEAl1n9k651m6p2CGx2rCq5K1z2u1l4d0N5i1m0VAF8y021t7CNF6C651m1u0b1X1D0E5O2l0B2w
313H2F3Z2Q3C6VDg0Z351f1D3D1m6K9C4E8o5t0BFZ2t3s1K3z261mEg543H5o5W060BCC0c4d4j130R651m6X1V8V3DBL3M0B31
66Du2u0u2r03041V432536Aj3H43334K0B098u9y7B3X2cBz8s5c1W3K0X1l0B1u9p580Y0HC36r1q1SKS3K2I0BDl2PDZ0D0i23
030J4n3Q8U1V3m0F1w1j0E1B063E2IAU011H2lPv0hDY1h243n1a2I2YL30JGm322m1K2k170yBC2I4M4eIL9MHd2q2R4E1mB0DI
4jVW3o0h3qSN1n6mEj5h212D100i16KPDu1P6B42HOUzIF2E533H6L1q5l4y942QEI1L5EEK9G0A5E2j8t2O2L4H0EE9430A3P8n
6VJnAJ4H1a9z112F3xBw3n6G703J3l07M7Er3I3m031K0H3m0UGB0aIpAx3d4G7R0D718h4W3G3p23Bt3b4XGX061lIA0Q1A164O
1g0tGn0N3LBS0j3n33HO1W53FY4G3k956D0H073O0l54147T2aHG680B2o6v2n7F0s1Q0J0pJNB71PBZ2I7O9G6Z1O366q5D180R
1A0pFN2q4c5Q0f8i0j160V856u030I0V133G0K2BA90QBY4G372yCx4X3N9E152VFw3P720g540LJLBpJR9R3s0q120L2qQc1iGp
3d0g5s1s653R1c251a3TGE2l0h08691rEq2Y2f0M352J0L2lBUBu51Ej2E0k8S8o4403715a9R2031EVA71b8P0L546u2b2v0E2q
2L6a1hCQK12W1O3Z8M330j60854P5B1NDM0j1B0q0H6u0j8M4w5l982z2Q3D8f7M3y0X7M9O0m2xCZ3J0c3i9gDg7b2K0eDe230a
0p1y3A0dFD9m0c76Je4ZKMES7M0J1b0m1t2VaYBV3e6h4V0j4C1e4JAx6K6l4M6E5g5g4m5EA47A3i1u0a1OCkGb6k0f3W13034S
028K1w1M1OFF1S1V9U2W7e1E3u0J050f4Z4F1q5A0r433F9p0U7Y9Z3v2Q0S090S6T0E5E3i2N1e3C1K2a1K48222M3L363G2t5d
1N0W9R2P0C4105187o2N0b3I3c1d0w0y285ZCR1M2l1G400F6X4M27128w2N3e6QL60gHJ2W1h1S0L3J3B3S12A43F0R3N3k4g1J
252F7q1B9S223402031l0Q3N5l762y1x3nCL0m2F0V1T3r6U1b0T4x054F0fD4552ZAY0L6p1g7L4a7H0q4b0j072RD12D3bDr6d
IO1a4IJU1t8f9v1J59473h0i0k2Q2s55055l5nMT5L0M3E3Z0qGu1n050H5c8H3h0xBC5i6p9DEI055V033v3F1K3Y36BQ332J3L
2M8QAy2p0g050v5u1B9B4t2I7kBwBd0J0274332r1v6m86CS380H9u9v365M2B0A0f5E2A7fEK240P1kVs0u1I7H1S8r5z6L4k5z
3c8w47482Q052r0s8a3Q350B2O1R383T2hA0AV2E0q416M05685Q9p8a293v2H6g0Q171N8V6F3V298Z7j1j0l0S2e85DI3a7o9L
2O750n2d8UJf4M1D3y3Q1s0m3d5rI43JCJ1K1W0r4gDN2X7d0XK61H2j7h6lAh3nCX0Y29Im0OJyDo9C922B2B5j0Z8w7I1w0u6F
661x0H0Y11EzBk5h0d1y1DAB3j8eAM4p8o9jBhDs42A9FE1f251R1u6Y590O9f9j3rJbUIO74n7CCU1P863w46Ge1i9eHN3yEl21
3bEq2B1D2t4k3m1S0o3AGL4S363a3M0xE30v5A7e9P5uE81j2s8yPL5d27Cb440O6M0f0A3QNB042H2p2x3S0y242Q6u0P0mEG8f
0E3e2Q4Q5N1z9F5nAX217J2G0V1k4L7M8V153W3s3b0ICDEK3d3P3M3D2WBX8z0lNr8p1H1o6BAx1EFo3t4j2c3H608z6R5B6529
0r6CFWB00e780O9b6XBZ5L7R6UB94q863t3Q5IBT1w28FC2q7kBE827k7d9p2P01321J251B6dCdE0D72x4v1Q5e0F412s314e0x
511D3S7gEJ011IDTE55q12D1AS0m0O4l0LCa0O7j5K3VHXG01w8M6h471a1V4Q2T1U022k9VBT3g0p4p2R582SE68y17Gj2V5g15
5r2W5p9X213N4I2d2z0d8rBz0t8l0r1BBT6v747W184z1c1y1c221i0T2qCGDLAH0Y2w791GB6993k121JAnDL8e3g3L3K0zBl1T
Bx089m2m1s2b0NAk8N0n4g716V3ECP1W08CD2v0TML31Bo2LEo1o2x3X4U4tBi2Z2D3iB33U440j2m1g1H152a1M1N5b5q1Y4C2e
PW5M7u4i1F0C9Z38077y0E0x0Z0G2f9X8H8K087A7GC90J0M3L7z4s330I3d5pEm4v1u2j1f3o2J52B90B8p7R1P45Fl4U481e72
8T3h2ERf1e9c2i0z8f020Q21123K3e254L1ACqC80a9L040l4P6Q1z5OBX1S0Y0c3Y5T1A0wBfB03m924WCv231s6E4I6W138a5I
5y6q0cEN2SG16G503b870V1f0Z541u5V8U3S3dGi4Y5H077dFi7E5H2D1e180p1q555T7p4H2r1i9u2Q024WOX2r4p0SCc7fRZ59
0k7T2e2K5f0O740y7f1e0t3o8J7l3e2J1K2N630v0E16960b0c1OIb4B2X5B5K2m5T5e4h9j0e9T1k41D29CA74P6g6p5Q6R0228
3tE57Q4J4c1g2cDV0t2u2E043E2a3j270B4n2H4P227F6017242z1T0L1d0t6B130Z3C0N4T0I0x5o610dA0GZ374PAR34655m02
61BG1Z5n7K4N4P5K0l3W3u4J1m5o3R2a5q763MBs214X1p351B2k4g4P1g5m02613d1K0t5u3EAi193A331g657Q1C4t5m7e2x1I
79Lj651e2i993u7k3o2D0A286T77695b0v0L0y4M0l3h314m215m6h2z2D0a2X2yMn1N4i6P2P4h0J3sAE3G0S085VCh3P1p0m7Y
2R0C9C4JCB3H2D010Z5V1G4D5L0x5r0M050eAB4M9S4v9N340a3h1o0J0x2s6O03Bm070P618JJ82d160a0p4gAV6A1v5V4nCN18
B30b610a3d041o8g4b2f2W3M3u2j022yRP0w6LAA630O7i1E0K2N6lLz993x0B381Q4y3F3S134o3U3U0c6V2PB55B7B8gE76N44
5i3RBe3C8u5z4f9N2m0b4R4I4r3sAg3R0mEh2D2W1q9A0D2Y5W5Y1F4o064t0w2D632tCs0P0Z6i0n199SG94Y3RC11tI10T2p6m
570y1N335e3R1BGU0J0b5n453nEJ654q2P2pL66N5T926L7k4M5iAU3Q6h0VCG42If81234f0M6X1i0f23586j5IA58q417X2X25
4oED1C1C1B0b1v487s3t20Az180f7y0J7n746F29211r048V6y1YG1272t0u3RC9Bb210T5b0b1l7S8s9M2p3J9J7q1Q1P3u7n0U
0P1b1Q3P0m09Fl1r5J7IGM3X1G1s1G2s1Q4WKE63054M3JFN3X6l7zF91u4885IO0C2e518C5w2OEU6K0n5D0n6m7Z7f0R1k2707
MJ04BT0y7i992O1y3y486o75831k1u12TR9JAG3D2E3e4lHs57021z1U4A241i95Gp0EC15vAi9d0M63BO0j0F0T7D0O1A4r424z
0c3u3t1V5v7T0yA42f6K2x4F6d8r0kCc4y0361870R3R0S5N293I4vDr0S843k7i0W3T3n407i311h8M0I5V8G3q3H8yBc5Z6iAk
5m4m1a0o2TB15GHR0c2G1F4A5z0oAE1t2l1d060k3J7RGsJH6dA8210Y3tKK364R1T4Q5I8j575q0x0C2N355g3WQEFE2f1J0k57
2Z4K6qF70S0LQJ55562ZEj5o2R4V2E122S3z9d4CCZ0p1C0Y0G5VEa4s800P0r5A6X7EAA1j0q3D1Q187A4U9o6U4L501j3D347x
2C2N2ZZ1OM4B0T261bCi0KCj5b455J30Km1s0xOU5u0vBi4L6P1M5M2p0x3R2F9MAx2a2TEo1l2UB12d0t0Y1175C28E5G8f1N1o
2I010n1s7C6P1G0q1tAp4fA33K2sCi2E7O5o1P2y2p4d2K3Z331p072W4r7T6P8J0gEQ39SU1c7y8T212U5M5f444YBpFE1c7a1U
4G2148593p1K132693EB416uC30L0G1l1c0s3P2T0w7j0Y2a0FAl586A3G2l5e3m5k090B0A0G1l390fBF1I130BAm0r6a8Z0VBJ
7x213N1k2P0K0U1h3U1k2K06575l1E5TA2Ea3v0L091s0h3i0MCoHf7YIz2LAO32144Y0Y0z0fG15T3m2s971T144m0B0AHU020e
1Q9I2L3D2p2R643p4r7n0N0N3AC2710X2p7e0V6h2y303fES4nD96R0TCz4DTE9G5u44222m8X4K7TAT6g3vAr192T5S225R8r1L
8V370v4z1ZDW362C1Y1TG82D0B1T114D6FKO0h3A0P3L1UHCBw1HAL8bBa0NAM14400z2f0X0n3k0s5u072w1E0G440p2P0e2E3E
817U0w0r6D5D5x8R2v5E2B334YAg7F450O3o2F1U3G2i6z289C29Bb662H2H3e1H2z216U5l3P6yBL1i9TAE8k100p0C5w452A0y
3w7e1o202N337y0V9l9o1d0K0A706A0f7n3C602R2j0x6UMi2r1eAf0zJp111F7iCM2D5c0RFi3F1x9k410s0k0X6u1b0i6hCy1P
274D0F0W2R1X3h861C1aAEJ724II2W0j2J5T455y5a9N1j0S31J97C0w0A310N4Z5t2r0j6hBjH1GH6Z2V1l0W9l5p6F7Y0t8M0q
3k7c3yBg4U3I1eDk5a733p526Q3NA3JY6N6A0P7p7r334r0c2d040Q4w4i1P6uFA1UIA1z097V0yNaBrJv4Z0Q6j1K1J7a5k2r0N
J79r0B1q1EBb5X4JiqBL1J5x6B3x5c3K3OBRLn2r81Kb6j8sES4X3U2z28HP20875fAf0q6K0N0W0z1NGU0HDr185b4S167I9dCX
3W9Y3eAH6j7GAW5v7g2d1UE7A90B205nBA5E244T4F0h161b1r1vIM4Y3TBB57Eb6U0S1yAABn1y0u0q3f143y6GDN4P1r3u0G2J
0B3U6C1t5c463j9D6o362WGk0fBzJv196U4Z0N0L0SFe2h1r5b66Ej692GABIo5q180x3s2D5f6Z195pKM0h4J0q9I1f520l3z43
0YBN0tCU1m7g1kBG1r5f6o4s24Fk4j5h7z3B8J1s0M0yAM3RFl0Q5B1b0i3L8xEa0a7z3a2DBO8Q8h1d6G0F6l4H3m127U0dHt1V
627F7X1M1NAo0H7B4aCo2m0K3iBT0t8g1J4e598H3y2a1I0P2M0tAp3PD56S0OZdHr6G1h5Z5LAU3w0p5p4k2SEUAJ0KBfBv13Nf
AV5F0D2m2r1S1MIV7OA73t3E2x6A6T6E19762YIv1J2H3u2c162j0j3a2f2F3T2VGd4C3g2RVu103j9j3DBZ2R602Q6u9X7g386k
6z1Y7V4D1b2e1B204S4h23140z225J540aCX7T1t4g0UB4R411BF2z4W6714500o1A5y950b4cB1948X2N0j319N7T2Z2S0P6N87
3I2f1fA11S1Q2g3BUgCX1s7uD8656s1i4d3C2h8JBkDO7VA02fKI3TAQJH1B4M7u4FJX4h5p6j6G3p1a1HP3HE9e2kAB2z1V0aFz
1UCX1m9o3r0I1e5q0L441S1z8ACw9UGX1L4LOjCo2wIY5P36I80H102y5C172L0j331k1i0k5C7j6k5u0BFL0x9R9j1T0YBX4j0c
133Y2cA72i2vLm6z0wDg9k8hQ5Ds2g8f354q5q601N1P7r0G0IMK0P0X2e1P5w512M3b0A0aAX3wJM2WN53D9j3B4f3r0o0C5T3X
3F0w2b2U8E3S1y8a0h6SIF7L1E2Z1u7C1P4b6w0U5x189Sj11UAA3m0l4mFBJU7T2c8H3n1h1c7N4c5B4r2T1S1r0GBG1t3mCe4R
0l793A4N0g5o9m4m1Y6OCJ9P0l4q2D5Z5e3V8UBV161F0V5I1K1H1M28AA815e7i8sCF5f2c5C23376n2p5G1V41448L2S0r2e1k
A72Y0j1Q4K1LM37Y0aDc07420e9G0T2R4v0S4D09742z2ADs9y0h0Q1l0d4o4C1I0T3e0Q0R6x2J290WCL0T533M1A3z2S4L1u0O
172O2a28242E0W0q434N1i0O1L03AQC9Ex0O2S172O1e0w6Q0T0t0q3D650J051L2A1J4a5IC54o1N026l21172O270T1V4v0X0p
432R3e1jA82G0p1x400L3s492d1D0e0v225S0r0G2K042a053Z0l211I0443650p0I0c3F6t02503d0P2G2N1D3h4n5G1d2C1F04
260U4P211M4365653E2Y023Z1R423N0o1hAy5U2K042a4P211M0q3D1y0u3D0O3u1n352h021r0930291t1uIG2A0g0H1N042a4P
211M5E1C040a344V1a1l41024q0A0r3B0G3v727Y38121j2e0f3k211I042i0b6A0f0j2Z2n5o502S1a0u02081l314REN2e4P11
101M2i0m3M3I2T3c5m02501E250j2p4oER2a1X5W3N0q1E0e4D3D655m331u0s3F2p8qAP2a2B4s3N1w0g064M3N2K0O2p0F1L4R
2k2y3M2p1M2n4F6Z1a411H733N2iDA0L1R391C1h7N2p0g2L1h0J14172r6v4r733N2i4M310N5lBU0w2Q2p3P2g5E0y0G2B1E12
4r088g0k0o04050x1g4D053S5l2411096J6F1t65024g52192p22573g1d1T1F3j0d320MEH0o6S1t652J3f3C1j4r1K7E1s0q0d
0y0H2v0V1u2P01Ci0Y4e3d1t1P0P1b1T0N0o022Y2y5N2v1w8H0n1M180L0O0r7k76D33H4H1o8o25490i7x17041I0q0d0q4JFl
1x5v6e341J9a1g3B7x171M0V0y654c170W4b6L0b0GEN2M3F5I4r1v620I0p1I041T5S3vF7263w7y159o3c1F21054x0u171M0k
0A0Z1X281w3j1o5o28BS2V1y3V1y0L1s6i4r134m0T0l0u171M0q0d301h5o3h077BHB2q592i0S4Q23084s0u1A0r0S1T7J1J0s
BA0q2d4w6Z431qCj1N1a460u2T3v8rB84f8K4B47AW1R5c3N2i39472o3l8C7G1a0J3e5S0M2h0w2R6J4Z2U0u092K1T1F0u3J1y
3t5m5V0v761o4H15087b7d177x5B4M1P4JCa0E8I8O0i2p4k3h1T7x0k0M1y271D2j3j101P1T2G8u0Y1h6E31221g6D8i0B760r
5BA42f759x1P0n164CAADX5B8N1h5g8L1Y5X1J1V1Y1j172M520C5t2R0X1P8R6Y508a6CCM03311z1s800J8W422M701r1D9bEr
1W0W1t531W2j3T160vLl2f9l5f4B4v1d2x4J2u3O8W5Q8j5b1J476W4v5p1pDH8b2D3mKR1s2VK66i3j4nRN3x3L4Y1U7U461w05
HHBh0l3W5w644S0sClBL3H4m0e0yEDRsA6A1Ey1P9D8P1KDM3u2Z1b012J1XJf5m3z3N2cKj2V2iB77a0p3ZACGd4n3H5O0QAB5J
079pUX564Z387h8h581H2f10C99f5p2N253G1L0l2M2S3a7m2F0f5x1p4TDu2q1d0x18284M3U0y096XJI2T3JBF8V1k070i0d63
4IDY2U1h8v0Q052O5WAm7Q0S1S410c2o6i2v0e050g1X561WBQLW6ZJ31x0T3F5y3s3U1M1VAb5q8a9H394A800e1R8f2v2S3g23
7y3S4A7k7N4Q9O3w2T72570z8U5g8SNQ051L4C5N1M1eDF091C6K6v0M1N300W2D1sGD9H3U2XCC2Z68M5060C7tBK170y0u5G0P
Bn9E024w6s4N3t9c0V5y1O9r5N3e5kCR1C233q0m2W0e0l1z5s2Q2b2C4b311x842KAm0L0S8P2v2v5P4Q0I5L0A0L7i5r1s8w7E
874M2j4p2e3E0G2p066k4S1f0J1RDZ9vIq2N320H0b1Z4U114S1S1R1g7W2XMBCU5K6K9l4J92GH5a0f9A511F2L2S3E3w2t1J18
Ck2vBs415E9r0y4F5H6Z4e1e7LEaFY6H4o5S0s1q376IF2061f4p7F2s8Q3V062e208e300m0P1T1SIm333RAA733G813V3W5g1f
2rDw3s2HIs1w1u7d0U7Z4L0SBv231h182r4DBl1r1Q4rH15M2Y0EE1BgTk3Y3v0R5h0zA72a5n1Q4c3G656wPR7Q2a0vLV1N2U1a
3M5lAN1z0SAhEy06EP6r3Y747k0I6G1bBf0Zad5H2A041u6j2y6v3l4rCF1X5x2W0Q8p6z0r1Z0V2eMi2H2v0ZGI5r6W1Z4HBa1T
BZ4l0R7M1J0R1H67DzFd1n3g1y4m3j7Y8TIO401zBa0C14921M8M1h9s4K6L3M3x5Q6v4FLKEe3BM5084f066c1n9O493e0J07QR
6S7E4CB63W4R10Hw4j1K115IBa6kHu6v0j0CAVBY0Q475G1n1N1F0LPx3L5X2Z9C4w042t4D4U637j0i172C5X0I0v131j7P8cBD
2T5Z3Y1P1REL0S9BB4BZ1S3e9L1b3y2RFgEx3V6t1m5z0Q95182K1y4TI40nFW1L9m1FFo0q2I5T72KU1g7W9P0o3CDr1S2d3b3D
EV2i3PDTCf307K1D3C0s2I0W1s2b0W6u912e1I6R8V776RUwAnAc7p39ABAUEK100D1C3v2Q3836286a9J7G8d1B9g2s3o0SGJCK
DE18LSFQ0S0x0v7E0j1R0W1n3B2G0Q3q3XAU0MCJ7a6E0H53133S0w1A2E2F6C1v0K0w1X02429y3x64DH48AU120n0oBiB86c4q
Ar3n7U1L1n1u343bOU3X6HGU0d9I2yFU5f9K5a2h09FI1r0S2wFS0h1Y0X0V4vDW6V2V0C2HF58H0I2A3J19650J6D1g3V0T691W
2l3rK40U651s3x8W1F5a4Q3R0V1q0I5I7IDK02945X0j110Q2P2e1f39716G8H8l7s0p3p5pCJ396f3R5C51430a830Q3qGI9Z2c
9Y3c2XMy5EHZ4M0t6qAn030r3ECN3u0a4x7z161y2E2d233P0b0kCD2k4I3M0e6tD59a0M3B1a2p7uLJHCAfAc1x20374V0X0Y2V
HY0D8r5E3y1T29451G1K3K1j0C1L3A9c3B2i4U7b4MTo0T6x377h1rOH3i6A0y2f2l7i3a881G8D8U330WKZ1P0J4uBNEiHV1C1o
05021j1GC85l7F0UHF152C5l3h3N423i1U5i3lKD0M7O0WBwD00T1h1A4nCs6P0f1u4VIc033o8YC01M8P045n6g240W0x093d3r
573C11677uJ56aDY6lHU05230k9Q0n3B1y5a3x0Z9e0A5R8A2L8xIU3E5y2N1N1f1g3Q333h1wFt4WEF130g9u4P6f39BW0F4sAZ
020F3Z572WHe491w1B0J2F0K2o5R17HW2v7e3V152d15446C53121H2S5H2bIS0S1B5g1R5D24137a5L48081p0g333G4a0p2K5s
5s4a1D1OEO3c8P5A0U0R3j2PAH1C2H8k9xJO0U1b4N1i340fFZEY0GCz3L3V672q36093jGW1x29C51A3j0T5J8K0b3m6L4j2V6B
8b0v4TGc358a9Q120I4H9m8a4MFq3y6Z2I9X0e2A5W4Y3z6i4s0D7I0C8W050E111Z0C0v1C4j5z6D0H3PBA850E2K1s3d0dBH3E
0z0I3l315o4S3R8gCW1e4O0l480B1B5G1P064O0kBL6282BR24333PFX29355K4h3o056J2uCX4b0w0C0a1eE03I291Y0x0a0e0W
3b3n1h7s7x4W4L722901Gm2935Ag94145v6T6S2J0T1l8K5g012h29357S7U40321u0V7n6OML5E02BN7XDJ2H1BDG1n1f0T0V1M
5G0u4p0P5v2W4R642h4z4l2X9v0H2WEH3B0k1J5zFG5T0L1A1D3m6Y9J4y6s2E0r0q1J1zD70z2r6n3mDE1bGZ2935Aq721485D4
2q9N7i5X0a353s5X4p1d7O2C1a6g0g230p0G2L0z0C6T1j5N0e2a3G1y02Az3f4G0o6i24480Y1z2Y1A0c0h2j2R0N192B7l3k5V
041lCf0g2A1g8j0r2a8u0Y2N4P0m3x1H1r1d3d4R1F51230CBg8V152a1d5854650I7W330B44214zL42T111Z1d1s0Q5W2O2f3Q
1u2y2w021u4A3D1a4u89831k3G0q1W141d1s2u362K0u1X0E3Q7o0J902r0E3j1d6C994k1g0u3V09353f1R0g0V1U1k0w0k126m
360z5EAd403BAi2a2V0P0b8K0g1z3Q1Q1e310O1L452P0u1v0n6g2D4x6k31482a3V0r7T0g1T0W3Q0Y0M5B1K4U2n2R1X9d063N
3I014B3g2j2a3V900K1R0E3Q655o630w0Q4t0i1D5e4E689c1d5M211z3Q655o630P8f4kGT1c1t1P3e1w211B0o3Q03625o3V19
1P6F2p5D4n7q6s23460q1e0N0V0G1E3Q1v0y3C4N7U04454v7v1w1F930a3z0o3U2h213J57348W3L1r5x1G074o8l4c282V8m21
380w7QBr2H6n2p0K0G834A0I591A4c4A0i211z25601QBr5I3m2p9i3NFn1S0F430L7Q0f0c6o320k0C4k481I160RD52uCt653R
010X0N034O0S6h300L941l142O1L6E4P6l7l0h4d0l57C7238x072p2O3hMn1h2b0i151ZATCN3w1p104Z1W4M9sEe439S2N077W
7f65702D2X2U251Z0B2o6H1k1U2S0Q1m0z8p3Y0j4U2e3p2O2I0O1170LX0L0i1bSr1P1x0V2E120I2q8L3F2U2d0O0O3B44VA1Y
2j1oAR125E878Q1V9eBM2D5734Np0zEz5K6fBH34Ds0j8t1K1H2S053B230I3c2xAi1T8Z4g4P1q9C2n0G4J214M449v5oCc1U34
Lq0x21316r2Y084B1w1K1N18Bx4uBn1C4N7P1e5s7F7v7q0O5O3y5D5y737d07352A5g2W2b6C9c7iDw0A3S3I0C0r4Z651U3m4o
234t6j7RCQA26Q0y3I1p1w230r0y0N1I2b4JDA3d7Q7g3l158o0U5j0c1H2T293Z2I0G4y9d3x314r262QGf1T4R5Z2n1i8o2u7s
1K0CGM2v778ZA40hAw9T0G1Z4GJa5A485o4GL6053z216YBg5vBR3M7c3OGBNUA5132c1i0i8aCJ4G1K3h6a0t0X2c1x7Y14E4KS
650e960z8A4H0QCg7h48Ae2O5eTB3I3b3UH61H2H0SD03oHV302q2M0C6H591n5k2B3r453I165L0Y1uCCGi2L1Z5P0U114K0454
350s2p1a1B1b3d3KCsK280439r2k11QJ2t5vA8H70v6J1p44HyD95nCb1I1s0H042OXx0Q5s7W2p3l313Y2p3A1C3C42J368FS2B
0z7T1S1p2PDZ1Z192m9i590S0u2G8T60902j1wBkAz0U2b91Cx0o3A0X1F9s0m012O256rGI4w0l0y0X1xHSBu0y3O2s6R1VGN1L
3t0eA60N4L1g725C3h4L74042N1fH7Ab7J5z36291PBy2T0H3l213N6V8r604S120D2a0K2K6I8w9C42AV7iFCHm3o5I1o424D06
Ch4U3O1b3h4r3EB4Cm2N1f2A0N0D1d4X4G0o1K1p910I3I8oAA2b2c8C1k1D0h0O3TA00G9e9e7p0o670v0V0Q0f592W5uAr5F3I
EM3Z953F1L3t0w2jAb967cD10y3c0V6d6X8y2M1t1wJvDh1V2lCm0KC70i0K2L366z278N6fNP0d6c7u0d3xD90O1I0R05HSDb2b
8fH22S2LBy3N225I4o5Z2b0QI4Bw235W0k760Y1v1x4h8a5d5WCN8P3j30Ay7y9O111y1o168P4Q7m4GEk5u9K6Q4j2D2S4aE30c
0YG83w9m0K1f1X984d3j1s0y0J6t5G3H0D0M0A0MNI0818239M9v0b6UCL1K522e37Qu8c1u4F4y5V2O4b9M1K6v3E1o264z0I5o
1r3v1AF44GDU1J4NCAFT1f6k142O1S1l0O2A1M5FDeHE7x1v0FK24D7I4QSEek0I6m8QAj6TD525BoOTIm0vTa182C5Y0cC60P0K
3b256h4N1m2P0E2D3x300S6C6696D6Au8U0aHv2t3Z069P062E0D6b310N8X1O9E3C0kH30PI68pB06o0I3O1uAq4y0S2k3J59Dq
7Q764jLO3C1S6U0lK00u21362X4IBy9QFH6c3h0J9c2G0n0n5NDGEI2fE6B2GM5q2EJVCu0q2I4i4f3YEsUh193X1c3A3s1n2B2p
2FI412T313KQ3w4b1W0k0E6w3j116A8R07EM4g1Y2Z4s0O6X2J8k5N5HD66sBw5b1x2I321xO0C51x7R3Y411D645oD75w0dA87G
68367Y7Z3n0v028LG1R010DS0H1a4n7PB11c5m4z1GBr2U1r4F1X2y3V2y2N3F3FFx345wBV2s9W585f4843Fw0JfhDL145ZBH7V
6C2u2e0e3uB523FFWc4h5p0M5m0i9E6v3pBq6w2Y4960099eE53k2i0V064W1V0iEC4G887Z235a6J1S3b276j8M0w2r1A0y7k5r
4o2C2D0gETAZ5f0H2tAm7jEH5I314vMF3e0H4l1s3D6a6u5r2Z445h087y8w0209Bc053e345M6C231N3S1e4DHE24C39q070OOa
2n6M2j0V4i7o8T0u1rEP0BA25073AQ6Z5l772YSw1aDc640P8AGd76141J0s2V2k2QCz2t0z1EUG0t0QGY1Y9k5U1I4v4p5gGj0r
3p7L6f106c6OMh0O2f1t5R9qAp8T3v562ECB3a2BAAAQ2oBTF88n1N1W2H3l745RW50lAe3L321P2l4A0U0H1H5u2Y1l1X5z5aHE
FE4VBl0H1O0t1lD24S0OAo3a1lBXGG1O1A1l0M43178K3UAa0h1j5q3E6A8i6S3e6A4wAx4A2l3D8l320sIj2Y520J0p0b29HJ1L
Di0O2K0J1V1dGA032V4a1a0b1A5q1R8u27455P028F2hB01U353t1l0m43Jd0C2r5O132Y5j5m4GBn0K4W3h2u0L628j2p3GBg1N
1b4UBJ1Y1q3V0F2M4e1V2m0Q4i050J5Y081x48BgM98U2e0314DyEQ0J326E2g3X0S9G284SDL6E045e0R1U5p0i3f9e5Z293b1C
FO0h7S2g65655b578a8S1P3y0jK7650j5M5b6R857d0E3Y5S1Z5W5g3m6X20455b44092aEC1A3m2o7D1E2q8s5Z481x3N2E2G7s
4A201b4GAp6pEe1u1j2S0t1g0V2X250q2x3P4Q8S0W3G2K4O4x0PBJ59655bHT1p2W0L0E1I2G2s22Fk3I6H0J452Z32GP9WC1AI
4t7P3H1I12Ee0s6d3m033bIz2i019F4g0v571L3j032N495P5E4h3gOm5b081o5r1Z0Q0PBy0E0K0e2h214P5u9p0l7V3F6R2N7o
1E3g331g2L1C2a2K7E2p5Q0NLp0D7z2C23CM1L2O6X3L6uDQ2u4i3o6N480n1S0U8t1M062jBg0s8M0L674Y47080P5Q7A0p532H
4f1L0gBJ6I5SAo3A1A2vN0142q5L5z0q12HP5h620l7u0p1V8u34Ls9Z5h3A930J4E9B2J010V6h6r209B5L1c2h0w24083x6523
3e0n3M1i4D53EF6O2x5s4n893r172R6xCz065R1PIuHu3A2T0c6J1ACy0kB70y8i8x1r3X3Z657d2kBhGG1Y2G3d5x1a6k0c1C0r
3Q7dBf0PH60D3I1q9a8K2R3e7d1SAS1D3N374y9w5p3l2a5F0V657d1V34923V7R0S9W9a2a5k0c4p0e53121YI4167V120v2a6w
5x111J0G0z2W0b1e5V0a651Y3GAg7o7c358x2h2a1S230b1N2i2Z1565870H10155HTt2a3V8K0D0T5PFh5z3U6T6F2a5B2a1v0N
1D0t1q5b0g1X3s650O3a2t6n1yIr1K1S2J2a3V11232g2a0g0U4v65207v0l972Q0SBh26362a3V1w2A4u194G65Xb8X3V2r4821
5P293w6m1S9C3V5V4iAn0D1e4a4G210Q4z653u5P1j1o0I6w0r60EM8N2y1Y0T5P2t3C2x7I7g131x1I9a2Z3G4SAY214u3W34Kv
073Z4RI94g0F0W0A1r6X11140w1w4g4U716j0qBQDC4G215B6J21612ODK5r40533z8N1cCC1J1wKr0xNU5O2z1S60O61J1P7s6D
Dk137O2B1t0N41Iv0x190O4l5r58CO0k0h0R0k2d3d3K3lF61w4j0HFuLr2Z0U2v0a498V662n0H8wCD3T1E1s1W0L2K7J07112F
9gAo2n0H5o24EL9a2F6I1S2wGj3M130H4P5J524m2b8m0K976h3cCQ2n0H040y162960615M9F5h0m151t3z1xAD1j4I261G1c15
7x0F2n2s1UD83k5hCJ3v6V2n2l794SE22m1t0D1i5d2W8h9K1M3A0T7g4y2H9y4G214F2F1w95B86K3kEh8F2T0C1p4A0PO42G44
5S56HR1A6u7u3BCf3T04240j1cCa1F1Z1M240d860h0y5L4Z4a6d6s101t3O135J6eHC0h0D7887CJ2C2G440HAj851s8CAv5EBS
1k0w0N6K0H2J841FCh8N1n4q5i0y285Z481i1v2r1Y0H2l9A20511Q0QC49P151h5Z7I1e141G400HNG4S1r563i6e3S810q2C6K
0H3ED1958A0N5j5R098aB3130H0B3LS3DSFa5F26CG5LDx500Z1Q1t2mBH2Y442w0520FyAk4GCFCJ1a6w25058B3r204T0TDq0V
2y1dEb9S200b2XBSDP1s8HHx0q2e2s3gAHAm5NCn3JEP4S0Y1h2V4b1w1d4U4d4ROYAP0G0I273C3b4H3t3X393y7y0N8KGQ2i2K
7O0z0pAe8g0YOF2V9p0U0U0C3iJ01jBn2MET9H37201n605a4T5U0s5D4A0B5DDXBd0C7OLO0UDL1l073k3J2m7l3s60Dq05Dr1U
012zBf4Z224L5G603r0Q9OBF3k1Y7R7x2u147j2q60BF6q7a5x2L101f440Z7F4f0h6H080YBu5O492qBX2p4I1v1M2O5E0dB011
JW3C7B0u0l230e1n1e4YAn4k0v6QAY1GEn3A196u6r3k3JB03P8l3oAH2C5s4N8k4w02Gs0G1V731y23025QApCO5f0iIW1p5D5N
01HK1Q0145233eOY0c8o5m1k3AVF1S1r0W640S534Q4OCQ921P9R1X4nCe630UBU1hR43wDV5h2G5o5oCX6f2484D4070HAH071L
5o1VGN4s1p0X1n9w2Q0J4D5y189SHrHP2n131r6T1X0k6C5608503dCF1v2D565e0A3i7o794T9x282c4C4K858Q7RLs9B1xEeFS
Kb1lBi0U1LJbA42l1G8B4kAJ6p7T54614c894aEf1l2I1D0D8B111N0a621W5K3b3VEo5g6ULZ9H4q371IDs5Y5g0O372kQ3042x
0D4EE82xZa3f0l0iIxCTAp6Z3t1D5p177s064L0L323Z0w331D224p5W3zDs5DKG3j7971QO2kTy2q904BDw1MPT7s2E3b7SHy1x
195k2XBd5nAV105fIg19233W4C909z0n6U8R4p2B2b3QCI0H039K0V1J6l166h0W0K294B7M3p3j563M445UC81D0JF5550M3R4R
2r0N3QEAKE2xG1AL0pLE4Z6F0O4n0N0N714Z1L3e8pHBAT3hED1oAn270I1HCW0q7b8S0I4i2L4WGK0w4w3d4C1H512l4q5L4d9C
843N1N446e1r3gAw0P1j1Y0z0i0R1M6d9R0BCkAe1eAj4X151r5z2t1XIp0p1w0F114B1HAD0W0QDL0m471iMkD20B5N0t3J5T06
197I5o770W300W0k7I3Z193a2i4A0R2Q130K0k9o2S1n2K3I1L0R1V4p3y1BN50z2ZAX6O1e916s4K0C0Q501x5OWy5V2y0X0z2G
891D2xAR3M2e0XAzAa4Y2J370a1UA11N3N2A55036V2I3l336S4m9d3u2N1J2L2E6r1a0X2I1QEg5a66OK637P1a2i34CW4OKA0Q
0o6h0KKF151j0e3s2G5A4pP81BA23d22JO6d9N0hAU0kIo2o0F0k5EOp1p8X3zCFGm934D1GIl3aCtAv5t2y2A7T4L5Q5QHD0327
7I1VAB4j395A671CE41q4VE70Y208i3a2Q5e6n0zD20BBY2S2J0jCx3VBC7lNF0p3e5104EN4n7oP3F6Cw0J081g6CL31Q56968Y
3n0X7r0r2h7e1k7VEW6R6c4vE2012z363HDAJb7C145HAT9g3g0gX53fFL9u0A6L3j3B915E2i0s1x7h0R7i0p6N5d6S0W626L3B
850C4p9X1n5M5X2f600h1B2aFe0Q2tB81f523Y6d8i0h2J5u1Z6s9nLJ3n1FCe8u6b3S6445BC3VB41V3Q4i1d0D250X2a0B3KCv
191Z9u22A65n8j2o2E2I6c2q0F9lKf2L8B6n0W012p0w272I0L280t3G3h09Ok2a73Gl2F2I0C6QAl310g3kF6Ab4c8W0C2I650X
5p9s5iN1170CBU2I0P5g0X2jGJ0U4I7A672d0h581l5n0D1y1x2A084K1l0X1V0X190rDb6D787vIK0h1b2T3c0X1uIeAQ40Bp2a
7q2I172d2L5y07RO0s843b7n2L140Y1e0e062T3W650s9rDt0v220MFK6q1a2L621Y0S452eH81QDu071f1X2486368N6203814Q
4z093l3G9xPV651T4c2S0pIgAC1h5E1hAV2h3B0o1T0V081O4h2S228ZAiAcD00W841R0E2Q655d272K2K4w2X6j5BCa5dA4655e
7K1C2O1sIK4C2t1UEj1r3k0U3wAE7e2N029d1R0V5A590S8R5465KO1qEC3D1JEn09057d2X202U1WF05H481h3p513xFp5P2M07
0B180D0aGI0d1P01317B7A0g349K1T0Q9R1T2e4s0T5WFX8g3E234OIkDV897I3F5T0P2t472h5n0c271z9sBV7sCT5J1n34EQEv
5m0V3x1y75EQ012c83Hn0G1O4B2d1m8eDY5F7J8YKs05061m2u0Q2D1F1D4L0R404b0A8X7R4O5N3B4C514i1m0f1N1Z9QLW0a1p
5DANBp1mBO212j3B0C9M6M422408B5Bp1m4JBI0X4D2r692k725S1Q1O3p1K0B0KBK1m4J3b6d1b8sEmAO2M1j9O0i2R3e3T3156
0F2E534M2u8X795Q0l3e8B653A3G5P3X091ABp6p6I6c1h323l3L283x341D1o12FY3X0I0J0z1b0Z8E4q5D1J771A1a0f0Q0m05
380Y18659v3gIAAN1h4P3U4g1y1g659N0Z7s6TGi0O0l570w1t0b136e1g656l7X2X0E5N4p31308s9a2a441g654A1v6T99U10C
1K140d0g2b0A1g651u4B5W0xBJDQER6e6C1Z0u2e2X2R0C1y1N1s0vJg6r109L2a0R0t2k7l0g5P6T2v3jT23U150l0k7R1G021Y
1Y0O0I2V2u0Z5W0ONZ6q62101j151V2u3u1P1W0f061L0g123e0T0G650O1c0rAv9L0xFU159L0a24215P0y1T3e7W2k7q7A1LE2
1V3e0O283h0d215P3k2L8o5T0wDsBYBz0U1X5P174y077h1V5n308B0i8Z1F350lE05P2s3C01080G2z3f0NGQ233t6L4X4r0V8e
1W5z0L0C3S3n3F5q8A2W3Z5f7r8n2U2j219T72451P6H5HKf1T335OAM184b9D6dG464Hf2g013C1K4C95BX9O5f5478264i3t9W
3B0Y1m1d15202V2bE3CdEc4f3A1D039j5RDH2s012D8g395y0K0b4n1n7I7ZDWCm1I3x6r0E9h1A6HEe6K0W5n2RDj0XFs0O1a7I
1F693J2BDJ3d1DEi23953H61L32P9k8T0L0K1V3Z0X8u5G9N63125d3v243OI31v9R2i3ZFt2Q1b702z2k7k4z2Z2U821P092m2H
BS081C5Z5H7w8BA41h8H1A40Bo3O1b14FE1G9p563Q6RMC0P4o143LDJ2V21A37C3E5I8k4B32Ii0l9U301ZC59A8K3L2g3b2pAi
1n4u8gBp2w8s3A0H0XHH3F089D8s5S6GF10f0V29Gr3cMe297y3t6M326I0s3p281w1b0E6AAK5VAh0GDH4q4m1T1Q0u08Gu6GDD
231F3h185d2T1f2B0N7oJsFL6x182v280F4p0h31DW412I0UKgG68T0a4m8h3f111l2qCBFz1M4JHV181uGj331p7jZv15A94ZI3
KK0rBvBy562C8Z341x0B016CUd9h4S7G1x1BF23J0y660l0BK05S7s2fBS1z57II045d2N5DIP0LEA5p0G2I4Q232r0B5h6P0bAG
0T2Z8h883l5m3FT00X393Z7jBb1F0d0FIj186UHC7g3H5A4Z2M140E1d3r2q3Y2nII15BuJq310OCW9V1C33Ma151x9t052Z7qcr
CM0sVk7iQuE30T1mCn1VEHB38POjB02s304g0OHs8t6Z0J1hC84f64C4Gt2FCJ9S6j0a5t1d0x5K621G4M3oKN5dAf0D5KPU3t36
49BpMk7z8g142232DRP88ADI334gBo63DW0C1s0j2T5F2N0r091a2x040t2l8836BSKI4J8I2v0r6BFcIE211Q6F036rCr6h0I7X
0q7a0U1sGo4J4h4M3VNa0A1D1e135w050eDv124J8v7VAN3X1Q9D9B4H7P4JGN3U8Q7V0W8M273sBB4J3p5F2m0e4u9J7X2u5n0E
If3I110x2s6TC8Ds0q211b8m09430y45334J3m35Oq4S9zBS1u2K4J6f5B4X9g2Q5d0C5o6v2t3v60071s0k3ZCUCq1N0R4b2VRa
6J3t5FOe0W0q2168265KDLEy0J210M298aAcDv2k6O07FA0j337J6a3v330b0b1s9p2055IE2o1r0j1g0E2l053g9A7Q2w5yJuDz
4fCP5k173y6k5T6K4j5P1U85Bo2D2h2d73BdJ501273q2U0ZBj0f0Z0wAN0xMh5JCM0Y1CAV4SBzIW0dFd2H0wE87H1S3b0U1y1U
Ea6B1L5Y1j3x1T2SO93b08En3H31EiAK3D1I7M7eRo5c2s1L6o1i2t4L124o1x451w08690L66Bk3Q2L4V0W0G60BV6v0W0h0GAf
1Q55760N1N36AsFn4k3J3l3u3c5c3o5K9P4q21BjBo1v6x2l5FBG0Q1V2y2Q5g1T6o0Y9h022F0a3b4T4M0l1T1H8N8h9B241z3Y
2m8V23Gv9b1o4vDI2R0H3a1Y0L4K7n6M3f324JB30k5K4G9o6G3I0l32103A4g7RT80U6Y0L673C2G4r0L4E1LJBA10eBo1M0n28
8O6H5O2V5K5xN179012Y8v274h8O0v0F9Y3YHb1S3s2G1g0I7u1c3L5D9J5qMy7y2m8P0J4Y7o3L7C1B5s59529i4o2x9G5T9V5u
2H2u214a0cDt6lKz5l495D4J1w1o09Em732j4X247v4w980q1r3Q3C4a7V9w2z0V1AEs1X0C364B0h1s5A0R064j3P2z2A5NAm3P
7H1L3bAiHw390M5v09077h7N0W21219ZAF0Y1Q050K1M0g0F3YKu0aBE1NihLQ1m1TAM5U20AU6t28075s173q4n280l690m0V1D
2f2i5Q2q9L4VMG0m7K6aAf0S0V1V9f4p6m730i6JA20N3s3sBk0u3O9j4B2s0c2h9YBg3z0v7mEZCN066r1P4E6O2U9x0J2KAu2z
2fFXCL5l0w4v9CDZ437C26089zBD5s0ADmCr3O3j1j041X196lBy37Bx971ULdB1212N1QIY2k2MDG4r7Y8l7c8N0I0h6i5f7m05
2W591U2d6v5yBS0Q1O0pBF4F1kA98f3O5L1H35DL1S221Q392Y0r2h2XBk2c0V3I7i0M7L255AA61T1H8f1I1g8v2A485Q951y9a
2l5X2C653H3L4d4P7r2nNPAL0X143z0V6cBf5E0J1HH58L3A5J140k4q0V4S2A7e2X4W0I1uUD6K1E0K0d3u6c7E231y2O3G7Y4V
Ch2T1b2C5X080H5g3Y1r0g0X33B62k0JCs312x2o3pAl6543220X7Z8o0W293S2AAu3Y8C4K0H7c201H2o0X0m4D5R6T4i0K1TMZ
0n0M4U7Q0V0S212t0D0W0X350v2O3f1c5E0W4Z7C0L05Cq3H2H6v4c2I3n1e4RBL1i0pQ3E265658R0A2k0l9L0k1D0U091N0e57
LK3U0e3R65BL463M3e4I9D5c1kAA492R650P5i0Y1M3K2p1a5a583Y8LF73m2o5D0s1e4R2o2S4i44GV1S1rDX6a651e301R1V1I
2T5a0l5p2hC4051o1FBh2G0c2i0I1k302Q20455G0q0j5Z215z0q894x0I1F1vJW2k0j2r2V5G1T6R6j0U7f5o6d674F9D2f1l1f
3d1d2A06QK1d56265715151T3Z54655G1I0s6P4E5s1J1k3f5n0s0URH140r4P2A0o110j566a0MRcGV0U050i3I0h2A0h1U7I2t
0bDh5c3S1e0J2I6j031n0N8U5b0z0O1m653719CA0R8e654K209OAW040O1m651p7z4f4VEu0VEA1y7l1m0f5QC48H2f552J092y
0N1a9T7m5Z1m650F4AHx3B8w560t9W2b1n0y1l1B1m0x0X200p1m8eBM2k2i0S1J7X3A22Cd5h1m480B1m5n154n4C5f2LKb871R
1C342R1w1i1m0V0v4u9O6OAvAC6s2R03250V2G0r1d4S1m0F1k2J4H0o5L689VBQ1g0r127C035h2m3J1m4J8b5Y0W1N1h0A0v6N
2Z2Q0EG41o5h4t1C1m4J9A9v4u0863Er3F2q5I0d3165CD73Cn1YDr0o2d040t8C21442Z2FGy3U8t2TBe8T162D0q5F1w1N2m5X
2hAnGS2S3r0P9X1a0f3K2l1L0b1N2m0CD5A92H5K5FFD0F8K1L0b491q0b2z0iCD500k4g086D3X151fAL8K1L0b493J3S5k2T97
E86J1l0B3n0P146t1R0M0z0b2v1E65HX3uJN26121h060v3F2O1g1L0b0e3V4f1QLx8F7q1r5k9f0b492R3e032a1s5w6K59DO44
6H1l0O1z5X0b490g4a0p4EFJ1HEkA5095K3L0r0b0W251Y0g2U1W1P2m3h9g4F0FBw11111Y9U6t111l0b490g1M438d2C7B6V3N
4hC00g0O0k7H1e5Q1l3eNP708PB50l7i1f0h1a3p225BHZ6rEk3I4m6H5P03AE3T0F0P102c0d0I22Af0d338q2FD91C0Y0o1W2X
2t9n1v3P5b031nAIA0Ai4H2r3R2d7f3Q1N5n5M6u1F2z88351T3e69COCYAc4u6O1B1x3Q4t1Z3p2SK00h6O6V2NVO8X1h1y6X0N
0N9T9BPG3w0S6ZAZ0h0k7j8N2U0gAl7qBY4i1o9S0O1Z1l177o0UCz03381o0cNA2j8f0B051V1W0w1SOE7o5w4Z6A0N73153W3r
AJ1rMkFi634W152q0d7c2MBw5wAnCN2d3P5c4y85Ci95060d1Q1T6a3L66473H4G169z3W1xE92Z0a6S4H0T1wBU087XCW1M5A0f
B01Z4C0E8M2Y4ECy1L7D3s2pDv062y8l5O3o0p2M0h3L564y1lBIF82W1Z0c5a0J6H6UBk1n141V2vJtCI8R0T2Y571s1M1S4q3S
44310S383l5y0ZBu41KfH0131b8CDL0x4t64Ev1G3y9t4cNC2DHW3r6l8rHx3Q8p9mBn1W5eEHEh1I0cDP3O6y481WAz5M4R7Q19
2l40CH4J3V366F3W2k7vFt6H0M1d1G0y0LAK824t0C2g2d1P0n0mCc2n4O03820a1lMEAi0g6M660iBT483k154T0W5e0DL1415P
F38i1K9n5T5Y8R2N554z3a2X3K2O2p800T3r0F0v012m3QBy9k250D094U6l3Q0S2Q0p1y9b0p658UCh5g2G4HFX0B0b256W1k8G
5b0i0G3F6v7x446k3V2Y7D1j0p460H2C1H0z137e3c218w0T6x7K210a2j0c058W3I8e3IAf1n15059u5W5xFz0p1x2qDt2b3i81
4D0h0d291o0s555s02B53C0Y1I2h4T4P5Y3XA58ILH1U32553N994M4j7y4y0i281P7z0s6LCg2qNL2K3l2S2R784h0i1B4O715s
0C0d0kEmGMIy3e6f4y9y4N268p3H3L0POj1n0O6w489U1Z24A64X1j0O4T7R2D063h1K0FCf4FEF0h3L6o2Y4J6y0V20Dm2s3p3c
0dAC4L0PCh6Y732qAS5v2uHi022e1o1b4U1s0G490s2b9fCLDU0I2O3z3f021lAu9NEu410a9c9S5U02140cAzArEw4K0P0e7T6J
3e3I1YChTA1T3d8v1A95650W664CNMAw6A8mCh7v2T0q7f4k061i4X018V5j9D20Ah0aIq4J418N2N0Y896F0V1V3aI21f4k1b0V
3J105t2S0i3V0y1W2g4I1U6D205i0d9d518d0V3V4SN92e050B0Q1a5a0gDm1Q3K391h0VNs3H363l202t0t0JIh5M1U0V888f3s
Ai2d0m1E8c2mIE0V0N3x3o026RJP206LIC3u1B0V171XCP6T3D2w6L205B0tBVC30V2J1O0W6F0W0QMc20HR1p2i7e0V634V1A0n
4I4a6R0z5D202E6O5449Bn0VY0202E1r68080wGJ22Bo277r6i6120200EMy4Q5g3C0E2VI34r202E2Q0R1G2H3w5C4d7FB31w2R
011r1H6L4r4k20022C0z1T3w0Q5fEv0J6S8F2W6qA9200D210C1fDI1GAzBB2pIx1Y200j1H0EPC2C3X4w2a6i4q079o1e0L202E
5iLg8ICL6J2K0V4k202E8aAy0b3q291G4r3Z2h38DL2Y6N012D4715B79u1B5i5L6F8j3K4a1z0b0f0A1B0E5i0g4t1y34B54i1I
4yPX0D21GJ7j3M0w2u1o3Z6bB61C1f0O6M2E2E2p1p4a4p029U0s0j6w3N12Ey1M7k162E0m2y0y63012h2q1f0I987t6403245j
Ei072735167652B54v2p2KFe0CAb1R0n2tDQ793k0C0A3Y4a0M2l5F0e1sHL200E0c1m2H3K8K1Y9X2SFW4x4S6a4m9W0c6B0Y03
AUG35j0N6PAB3ID1EQ1o6PAF043k6m6M0MDD2k890i7N5d4F2GBf0G8s0fDL2a0O2e1ZC1Ar4J8y3k112C2V0W2a4d7Q1AC73E0t
3m7bFq690A4EC94L6G5dGq954t2m5XAm8f7ZCZ2G7P191j3Y57G80R3m1fAM9A01EQ7y219Z6k0b2O4U1j0R3I1L1y6r534l2503
1hEz2f2Y2e6Z771o0i363V7M1T8G1O4d6f2E3E3p2B4y3i3C193Y0y7N0jRx1e6F4L0J682Y4D0ABr0jA219CA4c5r0k271b3J7b
FH0x0k0x5bDM1n0W2gFY028g1cEc0j3M4kBp9qBB7q0H074dBb051MB7CkA99P1A3t8R1y113s0w0j4O2C8p4W0b69L01V2U3n7n
1D0x0g760C6V3H6zPA4D0Q3w7f8p0lB4241M1ZV13B036F0e7m4s2S1Y3V4b0F4I061v3e2b430M3sB52L1Y4h0jLt314OEC0X0S
1G0r3B1H3D3F1f6F6SE3584O33Aw2S7n338pKe4z1p2Z4Z0q4v0o5J2g5IAk0x621F7D9a1Z4O1u4N36742GGP1032DZ924O332y
530h4g3f4U1u9c1L5sIQ1n250WDU2x4x3C4v6b1L0PGdCJ1L7k6h6S0F1S4K7C1B0A7qNbBj0K6X1h1Y9R3G2d2X3L1Y0n550d2V
CL0u0R288n464p0G0b654U1D0v45830n6i21D96n0p1F3N0c5n4M1E0V3O3E0r025E5kEH6BBL3F6X5a0V6cJ20bCg312K0Z5R4K
5S2d3S6cIb5A5X5Z5k1x0T0d0F3L6C650e5R0XJd5P6a7Y2y1W257h3Q2V0A5a0V0X8V4y5ZHL5Z1i3c020I184Q2k3d650H0GEh
342I0c1q8fJK5H1M1t0V650X3Z3I4e15GILz2B04412O65293w0f0z1S3L4G5H0nFO8O217T1Y1p0Z4o1H2P3gAN7AAIFT5y0p0X
0x484L2045HP3F1OBR1rGF8T0q7h2w0M2H5R7oBZIk1t0g5u65Qf3n2E6Z2T9r1t6a652Q4895230e1o64B48G63364c2l042f1M
FI3BEC5D2I541j4c3bAxBT51110H36FHAsJ64N1H073M024M4y5n61F0Kq1e406R1QCV3Y4S1H3qJU0d2o9j7r7b6zE91f5e3v4Q
746p502r0F6OB41gJeJF0Y5X1m4g1P7E2f0944E6911HB32e651m1p0z3H4gA73WFN0C4L2R1n059f29102w1m65EQ1S5GCk6g3S
8B1i4N1m0F0p3h1K1I8B0A1R7B4L4p36Ae8E1c1C0O5h1m3w0N1m8eAI0E32BlIE0O5h1m480B1m255q3DFzPS1z1R2H651m1Q4K
H5942Y2w7g7W5h0V1W44193q1m2M0H2m0Q27H64QCL035k1T2w1I650m2X2m0h0W4s462j0Y2B0P0J5o3R4Y6p2I8U0X5h1Q1u2l
3J2m65Ft2Y2t1W1D6c447N053g86652R3e0XB81v2B2g3b21288q5426293r5m65650A33Kq1k1Z2ECb3i1r5c0b0e5R4z163Q1J
B32f1P4D6l8c2l0m6w1p1a0f651L242g8v4K5C0t4j345P8h1j8m8K1L163e0gIS331s1D82A52P3z061r5F04311L4k383dHI0l
2W2w5SG08K1L4k1i15Ay2O2u3o0U3h2i2a0q7zAZ114E350Y0n0b3X0c4PFj0qJG8n2h1w7j1204261Y1HEF3g3RAs0N0T2g0U2e
1u0F4x2e1p9f4Z0B2X6JEE4tFq7i0D6g2z2U2G2N0n9O1RDy189NDG198W0J0I4938IT6M3m25CR4b0s0G9P48PZ5J0lB23R3y3H
4b4k0rMu2M1z7Y3c6k31HW0V3141181c0dEC2a5D100l674Y09B00H374N1O2z1P8RFN469I907H4K560B1jP838614E4d259C2U
1oDF0N1W0oAu5i83Gl5s9A6yES4r1p0H9Y2b5D7c6Q375I252qCwCl70720DFb7k2qDi3q3j0k353M0p1uFg5P4x0F8f5K48AH2s
8d2n3EBU09Cg480R3P8S1o7l0b8i3p2h471b6tBA57194A4O3o8y1Y6c6c7O5H273W377TM1B43C0u043L80770Y0B1V3S4J0R0j
3I1v20T80B1c6NAF1j1I072F0Z4i424KGwA91R0N6a1r3L2i1Q2h1r6UFR3i4O113o8A2f4I9W2g1o3f84KsA25CBjEkF03O1cBf
2n0V0p3s363V1K8V0M1S2R1a41Ae3N0m7t110d6k3H401W7B6pDN680P7V04By2v1sDR065E7MFv4T7N1X6C4s3x9e3v3M4t5X8S
1v9m4WAV0r7l2U7U5n1304Aa7BM68VJX3d5B4q0g6J1C5r8q1bao1b732O0b3F6eC84w7w998I2A1b6l2C0e3C0UEm1G0LHe4e20
Aa1G0LAe0x1g5ZA70t2G2n0l0J3N490v1u8F514y1b8F15190F3aAO6O024Y0J47452e264j0G045P3S3K3CCv3F4h0Y96140tFF
33CB5R1K202GEj0N1w651W3I3P2M2eImBI2j2G2HH60S8h9kBa3Q1jOA6LMH8C7e7W2l0A323I7D25T13P2s3t8H08425M2a0vNo
03CEH9420q1TCKIA453sBl395Y0t426m1P91Cj5bC3EW421s0526HM657g0BDZDB424o5JMF4h94FC0m42E7310S6H7f5z3g5E4G
FS2t6ZQiAV1f2n1R135n6j2R1W4H6k5J0I173k2Z7C0T09643Y2K0u4H4n1k0c647GG56p3l1s1b3X6p315M9j0H3C4E6o2W0U8d
1o0y5I1Q0SEj1FEh6F4cLW2b0rAV0u3P0p203y7w5n0U0B6g0X146Y1SBc7I8I9OG59xBy39B9f5Dt6302G2AZChBu0o822F3616
0D0w1vAu0l0X29392UCROD5FKj0i0v4Y7v916q2U0N7LDF1FFY0j3c1HBPBj026Q0t2SAe1E7AEu3N0s1z5q2k7a58DSCb0Y5eCV
C7242471Dm1jMD0l1622CT521T7RBG4e6ZOa3r0JDw8Y0u773r04JL2x1o7H650F2s2T5RAD3V07782g739C541K3w1r6f1U3B3t
8g5E2u2S1y4b9Y2Q361P3P1v372GOU0T2w4V575H3r6O3N1K1P4SDP1MDJ0u1Q1j9Z23798wEQ1M6l9w6U2q2r3b4Bd4FW2S1oMy
8u9uAc060P744a0LETAU0p9i5Q2jH07LF1AB0y0fFj3i2S014B2j5y709y582E9S3n2z5eHjGV14BL301r4bBw1JHG1h0r2O5h0l
4f4EDs7l673n2WDU0T1b1V5N6m4qB20e42031j2S0x43BK3E3f3G3v0q980W7C0x46J04W5q1c0k5C6k8t0F5A1u9qHE4aDGJc4A
1h2n34163r0M7iAQ3TES1U0tHJ2r8d379I1E7cFr0f1yCB0N1pFn4G1V7e6V0eCBHH876B21423P4UCV1f2J0n1X612Q8r010YHY
9w2133GwG43z5o8K2V9a0H3F8S2F2y1o3L0DDO5R4M391D4e1zUv3R8k2F6v2s1pSgI22M5R4l526iBO2D26AI7Z0XAk4n0R094w
1F1c1Q28EF3w1L1c7j1i4o9y2V2D0R3i1n800dCnEm4V1rBl3N5p0p0a04994B1QB7063V193m4T30094d3D7r3p1F0A101Z1s4R
3x9n2F6W4C1u7a4j2q196Q6w140V7r3X1B0W1g0r0b3P466OAC2CA20p7V3i1N890w7K54O15I6A7o2H9b3v1z5V1Y1i5l2b0I0j
1z905w3i1I0U091R6E1L789JOA1M9A5M0a6U1F0Z6e0TA6BN2W6PI71D305j3q6I7e2dFI4K0v3q3k1j0J0H0n6J8C4bDB0f0L6V
652j1uE63G577f6K15140E4I4n1Q1j9D0GLl568s0X040y1T3c0R3yDz0V1X5Q1cPn1D211z111Z0xPo0P0BCc5R5e1D8u3P1Z2c
7BIy0JM62y2l4X1X1X041Z0B5s0rIE6p4G4Q6B0P3NDy1ZE09M1I471m5y2w143g2d5i0XBV1Z194u5z8P050P230O2eAv8E1f9M
7k0eBDBA2YI5530K0b3l7A450522020f6x080J7V5o3Z4iEG3s0c271jDu3r2O0B7g5P454D2d3O7T3a132T2M7T0G1R1P4p1p3D
3RB24TFR7g1I7r1y3g4F0F1e5e3d7v0Q1m0h8M0gC65H4M1O2d1S7v02271x0g1m5m413A5A5x0O1CFu0H2B0M1z5J0C0N0n2T46
1T2G131T450m3j4g1R2z0CC3CD9p0q5F1q0t3t1l5C0H7VEv2X052b3U1CBW2N651S0O4m5B1G1O6u1W2n4h0JFm9X03420G0U5L
1q4m3h4v674RAy8B1I8R0p0f0A3k1W4Z1j074m1T657B3V7c4v2X6y3d445T560z1T4c0XEjC1956jAs65650X5BDr6K2f4L2E8k
612T0f7265040T4N3KB63t5RBx1w1o29BU24650X80218mCV18BB8B7j656b1ZC84x9I9b4q8R2d3l1r0T204Y6n4p8J4bD0044M
3i9p1T0X260a0v3B336B2m2T5K0M1Z9M3P3E0v0q1i0e8N6y4I5Z092E2q2Z0l3q3f9EDJ9KCfAO4s5r2x0H9Z2Y3o3s2S2M7E9x
2A4e6v1X22LI1Y5R7yGF1m9pP21A054x33Ek3q2E5W5W5v510l7v3GFE1P4d6fBn013W4K3l8S8T353g3t0q1oF03H61201X4K6N
3D3Q7Y404S4D8f5o2d2v1O3e3m0p2f0b2L9w2JL68TAr3G1i3I2G0b4rDxGN1E3v390E320F1Y2A7a0J4Q1M1m1Y1kBh3x1k3r0B
9F5T4D5L4P4t20451mB51v7Y4A0rED0B3O3X5T1i0V3i651S0K2wPt5c6I6c6X4O0D291Q1l0Y1B0bIsFZ020i4m2p3s0B1j9i0O
5h1B090S4JCqB86A7w0N6E9I0O05203c1m480BBOBI7SBT1LBZ5X3K2l1r0a3Q8P3k581O2g2P0M0B654x1x24446i2j0M090r3i
090s1C0A1l3X3P5s3C2O106h2I5X0Y308kC51x480m5J6i9f0K542I651L6j7P3z3G15023K2l0A0m2o2L8Y152k2e3G3U2I0k5L
2wGu6M3i2R3e0dA1B71C16658I0A7C092b8x1o0l658U4a830e1Z0j1154MZ0U6r656c3g0u2K1i0v5c5f2i9b7S290YAA65110K
1H6a9i2r6g1h6kCJ4T4E4b211d1L4P3s0y8D2y1N294r4s8YMZ1LIC2E320y4N3HUo1u1LEW341j170z2OB12RJb0d1C670Y0nDG
BT3YAU1yKj4f5e2e4y0C5OFa5D7A4b2A900P0f2V5e2D8M6V060E0P013D3wBk0KBd337v0r8y4I425Q3Q6o0s9L2o2RHj8P6U0l
1v59Dc6p1o1cFE4KBU1m1N856u1y0e6T4S3eAP5e6g8M8Y2P3G0P2Q290sBL381D6S8l2Z4G0j5r7N5M2m1E25312y4Q3O0F0KDx
6t2r2g0Y0xFH1c705G8M0k0v8Q1DEc1D1e6J1u0X03Ba3N2JC33e97Dc5G040l4P4r0v1i7Q10Ar0R24CB4M2w2e3E126521020S
1o0mAA0h0i2f6H2n260h2V0AAN0KDp1h3F2q4EBuAh4LA91V26A3282x4V1a1V2r3W841p4x5v0S251R3a5w392F1u1z2x5V0C65
2J924w8F0k5u65As5I6d0j1Z3n1t8O9uAz1p4G042G2P7s138o6Q0b7D34E73L1d1D4c1T4N44A6AL4MBa3v1V9o1j092f1Y3b4Q
2F7i0L0O322s4H732W6H4u123l1Q4D653Z3R3R0F4b042d0G316W0O0j5K4A3e864c5A0A0w2u2F3v548zAyLO0T5c1E2x5X9Y8Q
Al0eGO147tBP04AC0n422t8A2U8lG10e0X181i711hB63z390J4G2g1o5x7C1R6t3aDn010H7jEa0CPj7x4F0DMA3h28720V6M0z
2w3F39384YAB8BFt4D1m4B4i1v4r1d5e0j480v2Z6Z8h15492l133p0k1j2v1R365h5o6r0W4V0Q1B0J2n0S1m3A0g0W2aBL2M61
2I3n8n6h1e4n2b353Z6V3s6B1h2F018D3M1I1b3M104R2FAQ0X9B5A0p87492G1XAj2C8nEm1t0Q0Q3M1W4t3j4E3W1t2G1q12Ba
7V1I6FG81f1D25186d3X201j0X5N958n3P3W4a7F04112Y4u1B8V3f4f1P2N5i583638KG8CAH0A4G6h3n6r1g1I7BAG0x0r1n2U
0T6S040c0d9e1Q1N3C673c8J1s8B1Z4X4h283E5d171M104SCT3c4c0VLMFe3T4n3I134z0ZCjP21U2ZGo5b683y0Y0h0D7G06DF
1H2F3w2W0AE07Z3b4vKN6o621c878MCl1u6n7w9H3L7TIY6hEr2P1P1FAf2q6U1K31514Q1r5G69AWK50b1P0kG2Gj0W0N516vII
1V88Db2OA32L945MC7352v2h2D125H0E72352r6q9F9S3L3z1P4X3D5D8a3L0E7i5t8L1XM5B2CS2M6s100D06091Z0BUD4lDG65
010d0p0I1F747F7G8l9O7z0D9vFMIX2Z0ODf6c2u1bCR183O2f0F3L3i2x1PFn4D9P8hGN0FKdA02y3h2hIY4f2p065M0U420x5L
LvGxAq0F2q2W0qEa0GAQ4QA7A52T0W1h580FG7KIAw1m7l0U1B7L0F5M7d388843MX2T9t020g1z0F8r2Y4i18AGDE1UAB1w1q2N
1b01160A1p0R2S5M119k163v5J48CQBh378K5M4W177tAvMK6Q1L6F0J2R2c1M3s5X4f8PG30GAa0E1x0I7a1MvB7a5M2O1OE2BV
0fFf5c0X8z5M0m4A7Z0x2LAuPj8L3S1u285T3ARJ1P3A7x591G3m241T1pBNGz4WBi0X921a524r0V0S6l8D314T744iCr423F0v
523W3A2U6x7b567K298U4c633I0e2n1y1G468Q5z1a1W805g1oDO5w454N3Q0Q1W5W2A2G0p3nEi4386057z0A9V1d4z0NE00z0R
6S2H5pa9I88ZB07l233RFB6V7u0w0w1N14B57t1a3NDK0tCWBG2MF63r1s050yC9985i0P31FS0tAg7eCf1i8X1O1k2P0eHD0r66
2v3J6e1B1m0A0Y5q1Y2I0l2JHN941s1jBQ0Y7iGs2Y4l4G1D0B3I0F2v3T6VAj4L2w1s5VBj861X1aHs0PDO61066g6P4HEVHg1X
3a9T1u0GHp3O6X0k4s7b251Q6iEh6O8m2v0J1KTQ0D0W3344993E05355n2z2v177M8i1b3i3c2j6o4h0V2B7u3W2p5x0Q2V1708
106qEo0P3b3f5n483E1T0X3R4I8m2v179NQS5Y3j2s2U0O2T1g762v178IMz6V68584H1m700U0s0y0b17Af2hAg20RH0J058O09
0Y2E173H4P0N8O0UBD2J11Lr9K2N17669j1q3o5P8gCQ5C096W5B17NJ4q9D124h1y120Q1T293CBh175T2e1c2q3mBj5d611l2D
680V0z1Y9w2E1718BAF9233Z4j8x2B0O9L6N390O4L2B3E339j050V1e281P0P0w25861F4WH2AT012yBB6vY70S1xMg4C9D5n85
2Y0y6D111F2ECl9Q2S5H1cGEEu2h0mAz3n2t3t353d3Y4m1A0vAm1h3G4H1P632F6z0qEZ4P7I052UBe1S2P022q8r1V453b1oCq
5D3WEe1Q5m02Bh1h2A1jJ3351K1f0r631k9H3I2U02Bh0u1Z37481HAZ7U2mGo5o9T2E2s2iGM2h4P0s1T1R2J3D5I2030211r1u
021R1c0W0M2e0H3j180A339S0I2J9N2j1g3134DV3I2W1Y03A60ALe7E5B0uDV0R5L1F152E7B0A0D6U0e3U0g1S8R7U023N2L0L
3n089a4V4O102c500A4O4l2M5w1f9m0h293F109J3C5m3b2H2n1925655E3a4f422d2f659p3g5Y1o21540q2O3W2Z57D50D1f4G
4Y9p0J033KHf65FN3C1F5x2m0L1B7C1SEG5Y1L0C653XBD2p1E9o0H335D1C0NBV0D2S2Z4c3U0M17181p6z0K6B0J9A461U5o0J
2E651Y3P0T663k3r0Q1oOm860T5M1R4e0C4Z0f3G2x9iGr6A0G1V3l5M3e1A0k203L5QAq0i2M0j1IEx0X3o2O1o8G6x081O3u0f
174J21Bt0n1ECH7r1F1Q0d0QEr654y0SF20tE13b015A3b1R5o542Q0U1w1F0S4y2a2iC42s2W1L910S5A3b4T7T0m2f315Q5IAt
7RF6Lz2M343GAp4k5T4EAC0E4V1MFu5Q9W0KEb1qAg1G0V5i090E1s2y71435Q3E292r1cOsA51P6C5V8E1O0B167BBV8c7H2i0Q
4R9a0I2F3W5h8K1W2e1w0L3N4O7w3h3l1r1j13250B7Q0NC1130T6u2f0H1l2M1y2D6b1MIi1s3oBC0o1G2O5I0N2j1S650J1u6I
7s2Q3L19072R335RFt1M1J1fBb2D9o2J3d4B1MC26j067r602K6E1N2D4f1O802d3F2s0H2C4vH90f8B4D2N0s0I2D1G0rD54j6z
1d2y0Q013K8K4P1Q3D0A1k055m3X1E0D0m27242Q9z3L1h045H2RIb2f1y6d184y0m27Ea2m1t1i7a6m4L6E4d3h442f5CHp380M
7X6I5N4i0f0r1n040M1Z3X4E651m1k1AKh0e0Y425S210b8z2N2G0R1Y5m650r0v7lDC5X121JFO1f0r3m1z5m4P1g0a1C0f5B8X
254V1D4G3J4i8F3C1d3f76651m76Gz2G6m0m0Y0u187x0n0f4x7R3R052Z1m2e1W09G04U425B0R0sIo05443l2K1m480B5G2w8S
7s5cE15mA72R3e3CDS2Z0O4v5c652v6e4H1o0Q0B3g2c1I1Q4f84630AAF380C2I5w09Np0V5R09AV071i3p5y2P0Z1v0q2I65Bf
44251l39171w4950427c7s3K2I65410b059134121l6h1F0x1S13JR3s1B2J2I652u6s3u1y3v3K712f088H0d4xBC2I65181m9i
1i5E016V3q2BLC371M8N2uAI0k1h201w0y5E495J277B1P7P4R8N0A6G7I5r1MLK2G6U6d084W3rFe3v2a9f550LAMAA2h431d4h
1WDCP61Y4L7MEiBB7Q0p2v9F0VDU3v4I4QDU3HF22hBb0k1KKlAm3G3LHY0V5V5S1Y9g1EJn0e0v480MBM2T2t2D0G53Ce3P9Z0L
4G6H1I2dCP5r8F2V3B6y2c11054n4D3W6p6hNS9d340z1r0o4s6c891IOK0l022W4J1F9s1L1A4v28CE535t2D8y0T3nEf4e2045
3F2y5U2f087l7U8C2oAJ0W5s4q1j8w6u0e2S6S2Q9C4u0x9O010e922Q0QGz0q1IG095655x504W684F5K0K2BAwBB2Z1h650kBT
5K2A0VAy2VOg1h650m1F4v604z2H3v3n3G1o3f1m8u91210j0y651pBx6Q0u3a0Q1c4S8M9H9Y1h655x1F3Q6s2i1P613Y1p8W6c
0M4M5W0M1L5h0O042E7R6N463G062c3f1L4JMs7mCz0W6h940N1X4f8e9G1d0Q2Z2C3V25Jm0Q395f2A3UNq3v3i0j035B6W7j1P
0M7y1F2p8uCT072s730j1k5D0S1b8p2N1P2x0z5d2E2V1C6V803d1K1o3Q0H2m6M5Z601D2NJX1o5N8J387yIX1TBM3A646P8209
2z9X0k1y0n1v2J0U4U5k0745HG4J9P070J2Z1hCB4g9Q4m9N0P2i7aDJ1h160YAOEF1P3K0w2o573PAF0h2L3J4a1h4C0HCc7j1T
5XBY4t3n7J261n1C1h0K3f2p9LA8D2D86u26072s1h4Z1W970s050t0B051V7U2W8SDL2Z8I2z1S0F60058L1jA81e4s1E3E3t5f
045B5i1b1m0K2z5N2PA40y7h0Q13Ay2AAd114T2E6g7m3g0n1U477G1T1P1P1E0j106cKV031Y261n1C1M244M6Z1J2C2B265r9x
118K5Y6d3h2z7mA40U1L180j3H2l0Q7k3EHD274s072sAF7bA81p0h4v9U3V3n238u2z5c2G9y9r0HHI5h376y0F1r2z198u5u1t
8f1T2NGv1C022Z1l1GAr0P0n7WHG1n1P7k9Q3MGhRP2FIn1U0C1REB3L852RDa2S3EBhC65t0R50491P3xCz5I7a7j3O4I2O2l0K
8Q6h1Q5i4DBD4l1z2R5mF53b0wRL2924D22A7nJJ9FEaD41S2B3E1VA36v0K1O20DIAj3A2a3p0RCz8JO62M5j2e1B4l9NA50A0A
5F2vJu0Y0c0S4e656Y9Q2j1s3F0R6N9q2hCF4t221D2b3f2Y5Q3K1LCn3r2D80C00FAb080p9c4k6G1Y8R4I1K0Q1U4D0v1T9rB5
160e5l6j2t4r7nD2BnD94f2n3I6f3R0N16500Q1JAD1w1Q0D2Z1AMN1K0h09Ab1r1mFL1U2833EE9y2d650h841R1h4nAy0v4e4d
BW2a5K0F1NAm9LW85Z2y3k6wH036Aw4UJg76DC6s5M6n9R308m4iGe2RXp1F8v0z0n1H0g9AEQDM0CFe2G0U9v2a7V1Q952kAD8N
7lC54N0k7J0v9OEP0N7444ES7P3G91AS6k2K651Q249a0k1Z9p330eMp960f4N3O1Y1490Cw0a8n2i0B4r2X2D1A2E6T6I1F7HKB
2s0y5D5cB93nFN4M049w115m1MCU1r0W2R3b7E6U111J1j9a1p8C1I0c0X6H257O4N0yG8A81p5r7mBT7R0n1DFe5k2H0J158N0g
2Z1l7G6f5D1fGH4G0OG07h0b5m1hCW0Z3j0v1ZAb6Q465Q1UHNG81y1LGo3V278u8T7lGKBb532d2f3vAj0w480O2m17Ba9QGrDc
5J1p3d3t3d5JHC0t609h20AY150R0W3Z1N6p6OGo187x0k2F2K0w2d0o0JB90R313dIq3Y3U2x4JAJ887T0R2t6H3KMz7VAx912k
0R143Q0M6eEf5J1w2514C53jDm8Q2aMg0W1H3gLa1f3j8Q4O0l0q10ED5r6h7UGT0b103s1v124F0M0Z2Q1I8h1X7x2R2s32Fb0a
2U1l020b9g465A0b7f1a2v526O8E5e0N2UFx28GC6w1g07252s0J0T0K0L7Z5FCR4L366tLe4V0PCo08CV4A2k0L6K982zF0Co5g
Al3RM1BQCo672kB1380U7n09102m3c1N6A0b6N525P1D1A6e6i6W7q28FD8G2G1g890j5V0l5c8pFnCV0o3U027U134H0b5T6p2m
5Y4A1TCF1p0E0lBQCh073XBs3KDh0R5m6g2a5Q303c64084c5O7R3m1x7VFuFy3a4N0H2t9uHS0G3A558O1V2R1L0o1s8A2M630q
191W3l4y82Bw151K699IEV8q0i2e2S0H7h3a288D5n2H1f5Y7e2qCf2R1G2O231ZEI0O9739Hj1P9M102R3e1P5U0EAn9V2MFZ1Y
0y3G6F45133e3KAE4M9V2M6w1m0eBS4h1N3P2R3e4PAv2a210Q742O8c8r5m0u55112R1G6n2fAq653E0C2OJO2t3kAJ4P2N0f1T
385s3R1P1F3Q2M020B3w0RCjEX4W3X0W010LCx0Y2K0D3Y2C1E0O1y026u8P011x6o6y4e0d4P654T181N0S65061k1a2M021o6A
300t0KCT2e6e2O0B3d0b4w0d0P075i1i164z3Q2M022Y1e1Q104M0t8uJy654J37652L152B0B2a9JSX0L65CN183Q2M9Q2T5mHB
5v0h3C0c1a7g3t1w3Q2M9g2D65A18g461p2g1a7t1w0k0j2D3Q4w2S1u3h1G65Dt3F1TAH391A0Y4y3g0J373d1C1q1g5u657s88
2h390c4Z1r5k2d031P0G6qDu0L65BC0y8Q2r031r1x1J0H1l2835131o2H4pAi2R162O3h2c7a2G5m6E0t3X0b3l1j3k76737C1o
180T0s1oIG0k4z1M2DB91w4c0Y6w3g7u1o7jAD6q0Z3p381c301Q0N0k4j0J1KKG04Br6U591r8n4Z5u1CKKBA4q6n2Y0nCZ763p
449H3AIn3C0o1C1M5f7h6j0N39LU4m1N9c0I2R2Y9H436V0d0a0PB50ALR8Z0t1E1KDb6r6S0C4A2L8RFH1h133W2Y3U031K8kL6
4P4s1T3uEE13091M3X4q5E4DGt0kGn7Q6T033U1I0y7o7q4w0f7f0K8g400bDu3v3X2i4G0K2m0U1f1T9k093m3p4v5NL83A0N0B
8e1F1y0Y096C5N6s1W4Z0B5l4E842t3F0z0h2o021q38565v0g954K161Z4WF5061q462Q1o2dAy7q1p5vBb8M1Z3Q03334a062N
0V1MDb5B6h1dDg5j2w1y144Z3t0y044A6Z722f5p2NBy0p3X4K7V5q2k0i0Q3o3mLcBr3X1z2L2o2k4S6n202E6QCW1xGM7r2x1C
0z9S2D4E3i2tAb8C7d0a3e502r5E0W2t4a0H222m2j3BD51U0cIt181p2K0o1m0r2e1G7a102l0w2d1M3B0S0942JI04A5651mAS
6Z4028134dA0180j0Z392F06164q5b651mKH0k6w0s5c1U0f8M1T1a0U070C0N5T0L3J651m786m2B4e0I5f15140V0R4g0B1yLg
3X081J17031j6e6h125u4W425c0BGv0i2Y3T2v2J0r1mEo0aDR5J020H0B2f770a0yIP1Z7iDd3e2M225H0B1y1IAF3X4w6u030o
17BE7e3y210B7m2I0B4pE74Y6F6r274S0Z3t526Y3f0o2I0BOw3P1O3K0oAT0W23Bk190Y3K1o0D0H2b2JM47A545J0W021X6s0U
2X0a0a3L1h1A250D0iCX3tDC4J1g503F7F113r0C6y1y0K2afvJK3TMDLq1q3m2Q2q7j0Y1T88El4M5wBY030R7sB1AD1oDF1N3D
8c09442w1K3J0q802f210D2A9O4a0c3F3hGb0q800M7a3s7MCb5s8C8R1x7r8e1Y3r1T1J343h310pJk9O6B5H9n2Z9b315U7f3p
3l4SBR761lH10HEf5m3J3E6q6C7m13Bs461KDO733w2M3M2s9M6W5s1k8q0q2d0D3F7X4O2REDC30f1T2a1f528106CC1R1mAo2S
6N0w0H0O4k3l0U16213z3r336P8EKa7VAV21HI9f2d2A500s2023DM950G0l102E4A1u8j378o5D6c3VGC1y1g0G1l3W0T0i74Bs
1b8s1g4X4c3uFH21FG1oE9416k71EM0l210j1a0e0i2F9v5j3v230k6y7P012L531e5J77112EFn37F66gEx7F5X3P8G8B7o442O
2J1kMR0j65Fb2H1v2V6T1gII9U162IAzMf1J2R0QPg1M1C338Z5l0x038C8T5c0Q41622I2D2Z922E8c5x227W7a012z26Jt7F2u
3F7n0D4fAt1T2k9VBv2t6a1f0pG86o9o20EYEL7HG12E0Z0C1D0JHoBq5g30Jo111y6L78N15q101N8e2w2J1uHSH8322S2J4Z21
3W2y9Z0K26062n1EEc3d2uBD9A2163227R0f0H3g2m3Y7sAa4O3S6L3D0p0z702C0O0a5M5X033i1y5S1F9yCY1V443W137M8n2Z
0f6f6C79HX4e2l1o2j6e2s3uBJ053B1E0I51282D4n6m1p0y3M6p7j3C5EB74y510t1F1LEf335T1F6a8j1p0y2806194K022h2p
1s51282R3T1637Gj0v5k1d4R1c1i5RAe0p0J3t1D4a506i300LDf1p8H0QCH0D2z0c4O0d1n2C1oAS4G5BAf7K1M8w791b201Q7i
0s0yEl1CF72n1cAt5C3c4y0cHHFv0c2w2O1i187zCZ2Z3E3v0j535T6M235U2Z723X588F7Y9U1n1P5I9z2M120V2nQO2b0nJg0t
0e1k22391G6Y0PSf7GDX1X3O625i5KHnQL2K4Z1Z210N5p1SBf1e5K0v6V58828n1W0W395J1a1o2n2w2fLO3n4gC00U1W4F2K1s
7O031A4F0o5b4g3p3p2Q1F1f9M1B1S8oAT2bM6AD0Z3g2v4k0jARGy2a1p0c91141k2i1I1R2r0C1p1Y153V3lDi9x9p660q0K5Y
0D7Q7zB14sEj75C87p440S1H394c0k3m6f0EBj07126p1B0L7T5U6S1G3M525n4Q2j1g154N1cFO5PJgAq0f16MV094n10QQAh2a
5WHv0rG33n041C4T0P149h0dAb674M6GMD1k5Z9nQiNc1X091ggp6zBG5A0C8M6N0J9R308q4a1t8U1C5V471v2J1b5y2K8gB16k
2vA2CO2L090MC28g6O3z2D9o7n29EV1lNb5pBS6q1A2W5e1EBuAB0b2GK13Z73BV3B843L4k1NDA2DDn4l26A30y2p43AnDB1aBV
1g5P0WB62X1Z2pAQ3W7k1V1Z3RHR47GSEBD21c3j7T3u4d874M562J1L125E1e1fE02U3j4K5T5J0B0fFd18Sw1T5lDV2y1h5R0m
Sz0BAe1q4a1YB4Cr0A5EHR7kBv0K09Di2f1h169b7K9K0a4U580p2f71526yA96e2n0gCy0m672h4D0D094u1a982G2f5z3X3V4n
8Y5rJT0QLY1r1n108S4a3J3T0E340k2H2R51K60D1wBb847C1z1V1q4F6Y0zDg2T3N2E14AXDU5g140i2i1b9sDE4G222j1i3JBF
034m1R5P4Z1W0qFO3a6pAa1F013o0w6e6O3n4520GGCi0A2tHL5c0X0k3n4U0T1825MN2Y2D1B0d5319MB5b18CCCA3P9aA64uBZ
0r1M4k1PAm1D138Q7l9R4V562827364OAR5dDY2VA32G0L0G321J3O834G143v2E3Y037Y1hN9GL3L9M3s3t0YB03L306W2J2LBc
3YH56uFu6Q3b131nB1AcH6BV1N2O5h4e0X0D2U0X1d2J5708UJ3711E61U3A093k454q3M2hAm0m0sB56G0hCA4e4y5z1rCFCE1n
9n0z1M2I451X0Z2k3i4U8K7k5c4u0D4I3f9I6R8O2Y0E2Z0E1C3o187R5M0w3P3C1ACq8C0S5T8l3BBY3b7G6x095V4y0Z8J05DW
0V1r4OG53m0K0f22188u2fAb3Y3f6V1AFf9H3G0t0B199m0c6C1m2b0j2i5ABo3h0eDe8x3c125b4A3I0j3n5G4k0T211b7HBE2Y
2T2o3V2r552n3g7o0J0U0mEZ0w7k3c7g4E052Q150X231P510V4u21124l1G5lXO3V1l2F0b450K5P651Z0A8p1sBJ2a8O281t3Q
3V2a1R0J4g5P35301j5GK06R4U4E0K0e2X2P0B5H195P651jA83R8qAn4u2J3V2a054K215P651j3L6n028B7JEl0I3D2a4P210g
4j1A4v655m0262303D1lCG7U2a4P210V4u095w3H0A082W0m08052J2M080292Ez252H2i1b0A0u3L3e212O5f0N340p2J1N0y0Z
033I2U021r2X4e4zC55r2H13134P21444e2m0O0h232x5m023Z5T2p0KBe0p5S5s0M4P21447Q651j43023Z5T2pQg2C657Q650P
9J3m0E182p2HGF5J1F3o5i020L4M994u0s1t5p0R0v2pA08A7k2y0h5O09016I3U3Z0u4k08423W0A0M102p183I1fJ7111Q1F65
3l3R3P2u2I3R341A2l0m0X0p2p2Y3X8K2Z5d1e1u8o1K0z9S031hDi3x1V193R0P0g9o7o5u4H4M6C6b2qAg0V65AtAI1e0i5LG3
Cw2B1P4g0c5h3G160E7L1u2O2I0u3ADR7I3Q710C0C5h221b4T2n76620n385c782b4k1T5Z4A6S0SAt1a6h0t4l221h6a430H5r
9n5s0R4j5O5V30291Y5u1K2Y3nDh5g4TA0185a5J7L1u0r140k211U2s281L0b4O2S1G0H9F2l4O0o16370E2tAt0m4Y4U190x1E
0n5G8V270vDf6x8D0B6O5L6L0F8H2j1V0b1m0eB5U22I0c0v2Y374U2o194E3UBW3I1FPz2t0U2L2E1F2b2F059z2H0C0n278q6t
3L1N4t1VHm1E0l0v3B1C3e5E9A5J6d0JFo1FBO6D4I042S3G1h6F3T9hIoG91Q0w1w302m3Z8o8j1E3vAc2H4t0M1k2T7T3M4B0R
0r1FL6659H84256H3B1C0E4U4ADH1C1a531z46385N0a1X2Z53660Y3q4C233z2j105G0X4R1d012N227BAk0N2E0T6h3W0v1L4x
4w2m3V6p1M1r7j4t12Cq2r327K6a6J1lA2Bc0F1p1i0s2G2R0YHM5t460M04FD6v0Y5d0P3X267x992C3D1V4p1Z0Y0kCf0e1F0l
455m3eLj0i3P7l3h2P1l4K6q4K0n0n020K2H3u14HM9yBCDQ0g0O0JCT0L701j9O3y1I0aQJ2M3h3Q3x2RDs0B0C8Z5bDRAm2F4S
3A1D2R2Y3n0K5d0P058f6PD2BO2kB7FEFq2L240X1r0N4F0EHr0A5P0xHA0A0sES1w4A1l11ET3A61284K2Z401a3e02Gv6p0S0n
174OSs350l1W3J4Y4IDS6I3y7l501O4T1l6m932UEi1H1C4g3xBX3N4I6l3f3W1P3I8P8n2TP77w5g1N6lGn215M5W0Q7oCe0L6c
2ZA08N4A0J4x016oQZ1B7ZBR1Z624UNR987J4x4u6k0B4z1O8AAg1EHO2J478I7j4q212Y5p0i2wQg3W2g5y5s4t2U1H2FJ8ToBR
2ERm4i2KBU0t4K1z6x5g4j6G2K2n8mC10A461X2f0xLi291MKp1n597r476E1X6H6J1wCm5y4C4A2l2F6M5B6D7q
"

end ClusterPlan.Text
