import Obligations.Text.Name.Run

/-! # Ancient scripts

The names of characters in ancient alphabets and syllabaries, scripts of India beyond the common ones, cuneiform,
hieroglyphs and old notations of song.
-/

namespace Obligations.Text.NameRun

/-! ## Alphabets and syllabaries -/

set_option maxRecDepth 8000 in
/-- Names in ancient alphabets and syllabaries, and scripts of India beyond the common ones. -/
def ancient : List NameRun :=
  [
    ⟨0x10000, "LINEAR B SYLLABLE ", ["B008 A,B038 E,B028 I,B061 O,B010 U,B001 DA,B045 DE",
      "B007 DI,B014 DO,B051 DU,B057 JA,B046 JE"]⟩,
    ⟨0x1000d, "LINEAR B SYLLABLE ", ["B036 JO,B065 JU,B077 KA,B044 KE,B067 KI,B070 KO,B081 KU",
      "B080 MA,B013 ME,B073 MI,B015 MO,B023 MU,B006 NA,B024 NE,B030 NI,B052 NO,B055 NU",
      "B003 PA,B072 PE,B039 PI,B011 PO,B050 PU,B016 QA,B078 QE,B021 QI,B032 QO"]⟩,
    ⟨0x10028, "LINEAR B SYLLABLE ", ["B060 RA,B027 RE,B053 RI,B002 RO,B026 RU,B031 SA,B009 SE",
      "B041 SI,B012 SO,B058 SU,B059 TA,B004 TE,B037 TI,B005 TO,B069 TU,B054 WA,B075 WE",
      "B040 WI,B042 WO"]⟩,
    ⟨0x1003c, "LINEAR B SYLLABLE ", ["B017 ZA,B074 ZE"]⟩,
    ⟨0x1003f, "LINEAR B SYLLABLE ", ["B020 ZO,B025 A2,B043 A3,B085 AU,B071 DWE,B090 DWO",
      "B048 NWA,B029 PU2,B062 PTE,B076 RA2,B033 RA3,B068 RO2,B066 TA2,B087 TWE,B091 TWO"]⟩,
    ⟨0x10050, "LINEAR B SYMBOL ", ["B018,B019,B022,B034,B047,B049,B056,B063,B064,B079,B082,B083",
      "B086,B089"]⟩,
    ⟨0x10080, "LINEAR B IDEOGRAM ", ["B100 MAN,B102 WOMAN,B104 DEER,B105 EQUID,B105F MARE",
      "B105M STALLION,B106F EWE,B106M RAM,B107F SHE-GOAT,B107M HE-GOAT,B108F SOW,B108M BOAR",
      "B109F COW,B109M BULL,B120 WHEAT,B121 BARLEY,B122 OLIVE,B123 SPICE,B125 CYPERUS"]⟩,
    ⟨0x10093, "LINEAR B ", ["MONOGRAM B127 KAPO,MONOGRAM B128 KANAKO,IDEOGRAM B130 OIL",
      "IDEOGRAM B131 WINE,IDEOGRAM B132,MONOGRAM B133 AREPA,MONOGRAM B135 MERI"]⟩,
    ⟨0x1009a, "LINEAR B IDEOGRAM ", ["B140 BRONZE,B141 GOLD,B142,B145 WOOL,B146,B150,B151 HORN",
      "B152,B153,B154"]⟩,
    ⟨0x100a4, "LINEAR B MONOGRAM B156 ", ["TURO2"]⟩,
    ⟨0x100a5, "LINEAR B IDEOGRAM ", ["B157,B158,B159 CLOTH,B160,B161,B162 GARMENT,B163 ARMOUR",
      "B164,B165,B166,B167,B168,B169,B170,B171,B172,B173 MONTH,B174,B176 TREE,B177,B178,B179",
      "B180,B181,B182,B183,B184,B185,B189,B190,B191 HELMET,B220 FOOTSTOOL,B225 BATHTUB",
      "B230 SPEAR,B231 ARROW,B232,B233 SWORD,B234,B236,B240 WHEELED CHARIOT,B241 CHARIOT",
      "B242 CHARIOT FRAME,B243 WHEEL,B245,B246"]⟩,
    ⟨0x100d2, "LINEAR B MONOGRAM B247 ", ["DIPTE"]⟩,
    ⟨0x100d3, "LINEAR B IDEOGRAM ", ["B248,B249,B251,B252,B253,B254 DART,B255,B256,B257,B258",
      "B259"]⟩,
    ⟨0x100de, "LINEAR B IDEOGRAM VESSEL ", ["B155,B200,B201,B202,B203,B204,B205,B206,B207,B208",
      "B209,B210,B211,B212,B213,B214,B215,B216,B217,B218,B219,B221,B222,B226,B227,B228,B229",
      "B250,B305"]⟩,
    ⟨0x10100, "AEGEAN ", ["WORD SEPARATOR LINE,WORD SEPARATOR DOT,CHECK MARK"]⟩,
    ⟨0x10107, "AEGEAN NUMBER ", ["ONE,TWO,THREE,FOUR,FIVE,SIX,SEVEN,EIGHT,NINE,TEN,TWENTY",
      "THIRTY,FORTY,FIFTY,SIXTY,SEVENTY,EIGHTY,NINETY,ONE HUNDRED,TWO HUNDRED,THREE HUNDRED",
      "FOUR HUNDRED,FIVE HUNDRED,SIX HUNDRED,SEVEN HUNDRED,EIGHT HUNDRED,NINE HUNDRED",
      "ONE THOUSAND,TWO THOUSAND,THREE THOUSAND,FOUR THOUSAND,FIVE THOUSAND,SIX THOUSAND",
      "SEVEN THOUSAND,EIGHT THOUSAND,NINE THOUSAND,TEN THOUSAND,TWENTY THOUSAND",
      "THIRTY THOUSAND,FORTY THOUSAND,FIFTY THOUSAND,SIXTY THOUSAND,SEVENTY THOUSAND",
      "EIGHTY THOUSAND,NINETY THOUSAND"]⟩,
    ⟨0x10137, "AEGEAN WEIGHT ", ["BASE UNIT,FIRST SUBUNIT,SECOND SUBUNIT,THIRD SUBUNIT",
      "FOURTH SUBUNIT"]⟩,
    ⟨0x1013c, "AEGEAN ", ["DRY MEASURE FIRST SUBUNIT,LIQUID MEASURE FIRST SUBUNIT",
      "MEASURE SECOND SUBUNIT,MEASURE THIRD SUBUNIT"]⟩,
    ⟨0x10140, "GREEK ACROPHONIC ATTIC ", ["ONE QUARTER,ONE HALF,ONE DRACHMA,FIVE,FIFTY",
      "FIVE HUNDRED,FIVE THOUSAND,FIFTY THOUSAND,FIVE TALENTS,TEN TALENTS,FIFTY TALENTS",
      "ONE HUNDRED TALENTS,FIVE HUNDRED TALENTS,ONE THOUSAND TALENTS,FIVE THOUSAND TALENTS",
      "FIVE STATERS,TEN STATERS,FIFTY STATERS,ONE HUNDRED STATERS,FIVE HUNDRED STATERS",
      "ONE THOUSAND STATERS,TEN THOUSAND STATERS,FIFTY THOUSAND STATERS,TEN MNAS"]⟩,
    ⟨0x10158, "GREEK ACROPHONIC ", ["HERAEUM ONE PLETHRON,THESPIAN ONE,HERMIONIAN ONE",
      "EPIDAUREAN TWO,THESPIAN TWO,CYRENAIC TWO DRACHMAS,EPIDAUREAN TWO DRACHMAS",
      "TROEZENIAN FIVE,TROEZENIAN TEN,TROEZENIAN TEN ALTERNATE FORM,HERMIONIAN TEN",
      "MESSENIAN TEN,THESPIAN TEN,THESPIAN THIRTY,TROEZENIAN FIFTY",
      "TROEZENIAN FIFTY ALTERNATE FORM,HERMIONIAN FIFTY,THESPIAN FIFTY,THESPIAN ONE HUNDRED",
      "THESPIAN THREE HUNDRED,EPIDAUREAN FIVE HUNDRED,TROEZENIAN FIVE HUNDRED",
      "THESPIAN FIVE HUNDRED,CARYSTIAN FIVE HUNDRED,NAXIAN FIVE HUNDRED,THESPIAN ONE THOUSAND",
      "THESPIAN FIVE THOUSAND,DELPHIC FIVE MNAS,STRATIAN FIFTY MNAS"]⟩,
    ⟨0x10175, "GREEK ", ["ONE HALF SIGN,ONE HALF SIGN ALTERNATE FORM,TWO THIRDS SIGN",
      "THREE QUARTERS SIGN,YEAR SIGN,TALENT SIGN,DRACHMA SIGN,OBOL SIGN,TWO OBOLS SIGN",
      "THREE OBOLS SIGN,FOUR OBOLS SIGN,FIVE OBOLS SIGN,METRETES SIGN,KYATHOS BASE SIGN",
      "LITRA SIGN,OUNKIA SIGN,XESTES SIGN,ARTABE SIGN,AROURA SIGN,GRAMMA SIGN",
      "TRYBLION BASE SIGN,ZERO SIGN,ONE QUARTER SIGN,SINUSOID SIGN,INDICTION SIGN"]⟩,
    ⟨0x1018e, "NOMISMA ", ["SIGN"]⟩,
    ⟨0x10190, "ROMAN ", ["SEXTANS SIGN,UNCIA SIGN,SEMUNCIA SIGN,SEXTULA SIGN",
      "DIMIDIA SEXTULA SIGN,SILIQUA SIGN,DENARIUS SIGN,QUINARIUS SIGN,SESTERTIUS SIGN",
      "DUPONDIUS SIGN,AS SIGN,CENTURIAL SIGN"]⟩,
    ⟨0x1019c, "ASCIA ", ["SYMBOL"]⟩,
    ⟨0x101a0, "GREEK SYMBOL TAU ", ["RHO"]⟩,
    ⟨0x101d0, "PHAISTOS DISC SIGN ", ["PEDESTRIAN,PLUMED HEAD,TATTOOED HEAD,CAPTIVE,CHILD,WOMAN",
      "HELMET,GAUNTLET,TIARA,ARROW,BOW,SHIELD,CLUB,MANACLES,MATTOCK,SAW,LID,BOOMERANG",
      "CARPENTRY PLANE,DOLIUM,COMB,SLING,COLUMN,BEEHIVE,SHIP,HORN,HIDE,BULLS LEG,CAT,RAM",
      "EAGLE,DOVE,TUNNY,BEE,PLANE TREE,VINE,PAPYRUS,ROSETTE,LILY,OX BACK,FLUTE,GRATER",
      "STRAINER,SMALL AXE,WAVY BAND,COMBINING OBLIQUE STROKE"]⟩,
    ⟨0x10280, "LYCIAN LETTER ", ["A,E,B,BH,G,D,I,W,Z,TH,J,K,Q,L,M,N,MM,NN,U,P,KK,R,S,T,TT,AN,EN",
      "H,X"]⟩,
    ⟨0x102a0, "CARIAN LETTER ", ["A,P2,D,L,UUU,R,LD,A2,Q,B,M,O,D2,T,SH,SH2,S,C-18,U,NN,X,N,TT2",
      "P,SS,I,E,UUUU,K,K2,ND,UU,G,G2,ST,ST2,NG,II,C-39,TT,UUU2,RR,MB,MB2,MB3,MB4,LD2,E2,UUU3"]⟩,
    ⟨0x102e0, "COPTIC EPACT THOUSANDS ", ["MARK"]⟩,
    ⟨0x102e1, "COPTIC EPACT DIGIT ", ["ONE,TWO,THREE,FOUR,FIVE,SIX,SEVEN,EIGHT,NINE"]⟩,
    ⟨0x102ea, "COPTIC EPACT NUMBER ", ["TEN,TWENTY,THIRTY,FORTY,FIFTY,SIXTY,SEVENTY,EIGHTY",
      "NINETY,ONE HUNDRED,TWO HUNDRED,THREE HUNDRED,FOUR HUNDRED,FIVE HUNDRED,SIX HUNDRED",
      "SEVEN HUNDRED,EIGHT HUNDRED,NINE HUNDRED"]⟩,
    ⟨0x10300, "OLD ITALIC LETTER ", ["A,BE,KE,DE,E,VE,ZE,HE,THE,I,KA,EL,EM,EN,ESH,O,PE,SHE,KU",
      "ER,ES,TE,U,EKS,PHE,KHE,EF,ERS,CHE,II,UU,ESS"]⟩,
    ⟨0x10320, "OLD ITALIC NUMERAL ", ["ONE,FIVE,TEN,FIFTY"]⟩,
    ⟨0x1032d, "OLD ITALIC LETTER ", ["YE,NORTHERN TSE,SOUTHERN TSE"]⟩,
    ⟨0x10330, "GOTHIC LETTER ", ["AHSA,BAIRKAN,GIBA,DAGS,AIHVUS,QAIRTHRA,IUJA,HAGL,THIUTH,EIS",
      "KUSMA,LAGUS,MANNA,NAUTHS,JER,URUS,PAIRTHRA,NINETY,RAIDA,SAUIL,TEIWS,WINJA,FAIHU,IGGWS",
      "HWAIR,OTHAL,NINE HUNDRED"]⟩,
    ⟨0x10350, "OLD PERMIC LETTER ", ["AN,BUR,GAI,DOI,E,ZHOI,DZHOI,ZATA,DZITA,I,KOKE,LEI,MENOE",
      "NENOE,VOOI,PEEI,REI,SII,TAI,U,CHERY,SHOOI,SHCHOOI,YRY,YERU,O,OO,EF,HA,TSIU,VER,YER",
      "YERI,YAT,IE,YU,YA,IA"]⟩,
    ⟨0x10376, "COMBINING OLD PERMIC LETTER ", ["AN,DOI,ZATA,NENOE,SII"]⟩,
    ⟨0x10380, "UGARITIC LETTER ", ["ALPA,BETA,GAMLA,KHA,DELTA,HO,WO,ZETA,HOTA,TET,YOD,KAF,SHIN",
      "LAMDA,MEM,DHAL,NUN,ZU,SAMKA,AIN,PU,SADE,QOPA,RASHA,THANNA,GHAIN,TO,I,U,SSU"]⟩,
    ⟨0x1039f, "UGARITIC WORD ", ["DIVIDER"]⟩,
    ⟨0x103a0, "OLD PERSIAN SIGN ", ["A,I,U,KA,KU,GA,GU,XA,CA,JA,JI,TA,TU,DA,DI,DU,THA,PA,BA,FA",
      "NA,NU,MA,MI,MU,YA,VA,VI,RA,RU,LA,SA,ZA,SHA,SSA,HA"]⟩,
    ⟨0x103c8, "OLD PERSIAN SIGN ", ["AURAMAZDAA,AURAMAZDAA-2,AURAMAZDAAHA,XSHAAYATHIYA",
      "DAHYAAUSH,DAHYAAUSH-2,BAGA,BUUMISH"]⟩,
    ⟨0x103d0, "OLD PERSIAN ", ["WORD DIVIDER,NUMBER ONE,NUMBER TWO,NUMBER TEN,NUMBER TWENTY",
      "NUMBER HUNDRED"]⟩,
    ⟨0x10400, "DESERET CAPITAL LETTER ", ["LONG I,LONG E,LONG A,LONG AH,LONG O,LONG OO,SHORT I",
      "SHORT E,SHORT A,SHORT AH,SHORT O,SHORT OO,AY,OW,WU,YEE,H,PEE,BEE,TEE,DEE,CHEE,JEE,KAY",
      "GAY,EF,VEE,ETH,THEE,ES,ZEE,ESH,ZHEE,ER,EL,EM,EN,ENG,OI,EW"]⟩,
    ⟨0x10428, "DESERET SMALL LETTER ", ["LONG I,LONG E,LONG A,LONG AH,LONG O,LONG OO,SHORT I",
      "SHORT E,SHORT A,SHORT AH,SHORT O,SHORT OO,AY,OW,WU,YEE,H,PEE,BEE,TEE,DEE,CHEE,JEE,KAY",
      "GAY,EF,VEE,ETH,THEE,ES,ZEE,ESH,ZHEE,ER,EL,EM,EN,ENG,OI,EW"]⟩,
    ⟨0x10450, "SHAVIAN LETTER ", ["PEEP,TOT,KICK,FEE,THIGH,SO,SURE,CHURCH,YEA,HUNG,BIB,DEAD,GAG",
      "VOW,THEY,ZOO,MEASURE,JUDGE,WOE,HA-HA,LOLL,MIME,IF,EGG,ASH,ADO,ON,WOOL,OUT,AH,ROAR,NUN",
      "EAT,AGE,ICE,UP,OAK,OOZE,OIL,AWE,ARE,OR,AIR,ERR,ARRAY,EAR,IAN,YEW"]⟩,
    ⟨0x10480, "OSMANYA LETTER ", ["ALEF,BA,TA,JA,XA,KHA,DEEL,RA,SA,SHIIN,DHA,CAYN,GA,FA,QAAF",
      "KAAF,LAAN,MIIN,NUUN,WAW,HA,YA,A,E,I,O,U,AA,EE,OO"]⟩,
    ⟨0x104a0, "OSMANYA DIGIT ", ["ZERO,ONE,TWO,THREE,FOUR,FIVE,SIX,SEVEN,EIGHT,NINE"]⟩,
    ⟨0x104b0, "OSAGE CAPITAL LETTER ", ["A,AI,AIN,AH,BRA,CHA,EHCHA,E,EIN,HA,HYA,I,KA,EHKA,KYA",
      "LA,MA,NA,O,OIN,PA,EHPA,SA,SHA,TA,EHTA,TSA,EHTSA,TSHA,DHA,U,WA,KHA,GHA,ZA,ZHA"]⟩,
    ⟨0x104d8, "OSAGE SMALL LETTER ", ["A,AI,AIN,AH,BRA,CHA,EHCHA,E,EIN,HA,HYA,I,KA,EHKA,KYA,LA",
      "MA,NA,O,OIN,PA,EHPA,SA,SHA,TA,EHTA,TSA,EHTSA,TSHA,DHA,U,WA,KHA,GHA,ZA,ZHA"]⟩,
    ⟨0x10500, "ELBASAN LETTER ", ["A,BE,CE,CHE,DE,NDE,DHE,EI,E,FE,GE,GJE,HE,I,JE,KE,LE,LLE,ME",
      "NE,NA,NJE,O,PE,QE,RE,RRE,SE,SHE,TE,THE,U,VE,XE,Y,ZE,ZHE,GHE,GHAMMA,KHE"]⟩,
    ⟨0x10530, "CAUCASIAN ALBANIAN LETTER ", ["ALT,BET,GIM,DAT,EB,ZARL,EYN,ZHIL,TAS,CHA,YOWD,ZHA",
      "IRB,SHA,LAN,INYA,XEYN,DYAN,CAR,JHOX,KAR,LYIT,HEYT,QAY,AOR,CHOY,CHI,CYAY,MAQ,QAR,NOWC",
      "DZYAY,SHAK,JAYN,ON,TYAY,FAM,DZAY,CHAT,PEN,GHEYS,RAT,SEYK,VEYZ,TIWR,SHOY,IWN,CYAW,CAYN",
      "YAYD,PIWR,KIW"]⟩,
    ⟨0x1056f, "CAUCASIAN ALBANIAN CITATION ", ["MARK"]⟩,
    ⟨0x10570, "VITHKUQI CAPITAL LETTER ", ["A,BBE,BE,CE,CHE,DE,DHE,EI,E,FE,GA"]⟩,
    ⟨0x1057c, "VITHKUQI CAPITAL LETTER ", ["HA,HHA,I,IJE,JE,KA,LA,LLA,ME,NE,NJE,O,PE,QA,RE"]⟩,
    ⟨0x1058c, "VITHKUQI CAPITAL LETTER ", ["SE,SHE,TE,THE,U,VE,XE"]⟩,
    ⟨0x10594, "VITHKUQI CAPITAL LETTER ", ["Y,ZE"]⟩,
    ⟨0x10597, "VITHKUQI SMALL LETTER ", ["A,BBE,BE,CE,CHE,DE,DHE,EI,E,FE,GA"]⟩,
    ⟨0x105a3, "VITHKUQI SMALL LETTER ", ["HA,HHA,I,IJE,JE,KA,LA,LLA,ME,NE,NJE,O,PE,QA,RE"]⟩,
    ⟨0x105b3, "VITHKUQI SMALL LETTER ", ["SE,SHE,TE,THE,U,VE,XE"]⟩,
    ⟨0x105bb, "VITHKUQI SMALL LETTER ", ["Y,ZE"]⟩,
    ⟨0x10600, "LINEAR A SIGN ", ["AB001,AB002,AB003,AB004,AB005,AB006,AB007,AB008,AB009,AB010",
      "AB011,AB013,AB016,AB017,AB020,AB021,AB021F,AB021M,AB022,AB022F,AB022M,AB023,AB023M",
      "AB024,AB026,AB027,AB028,A028B,AB029,AB030,AB031,AB034,AB037,AB038,AB039,AB040,AB041",
      "AB044,AB045,AB046,AB047,AB048,AB049,AB050,AB051,AB053,AB054,AB055,AB056,AB057,AB058",
      "AB059,AB060,AB061,AB065,AB066,AB067,AB069,AB070,AB073,AB074,AB076,AB077,AB078,AB079",
      "AB080,AB081,AB082,AB085,AB086,AB087,A100-102,AB118,AB120,A120B,AB122,AB123,AB131A",
      "AB131B,A131C,AB164,AB171,AB180,AB188,AB191,A301,A302,A303,A304,A305,A306,A307,A308",
      "A309A,A309B,A309C,A310,A311,A312,A313A,A313B,A313C,A314,A315,A316,A317,A318,A319,A320",
      "A321,A322,A323,A324,A325,A326,A327,A328,A329,A330,A331,A332,A333,A334,A335,A336,A337",
      "A338,A339,A340,A341,A342,A343,A344,A345,A346,A347,A348,A349,A350,A351,A352,A353,A354",
      "A355,A356,A357,A358,A359,A360,A361,A362,A363,A364,A365,A366,A367,A368,A369,A370,A371",
      "A400-VAS,A401-VAS,A402-VAS,A403-VAS,A404-VAS,A405-VAS,A406-VAS,A407-VAS,A408-VAS",
      "A409-VAS,A410-VAS,A411-VAS,A412-VAS,A413-VAS,A414-VAS,A415-VAS,A416-VAS,A417-VAS",
      "A418-VAS,A501,A502,A503,A504,A505,A506,A508,A509,A510,A511,A512,A513,A515,A516,A520",
      "A521,A523,A524,A525,A526,A527,A528,A529,A530,A531,A532,A534,A535,A536,A537,A538,A539",
      "A540,A541,A542,A545,A547,A548,A549,A550,A551,A552,A553,A554,A555,A556,A557,A559,A563",
      "A564,A565,A566,A568,A569,A570,A571,A572,A573,A574,A575,A576,A577,A578,A579,A580,A581",
      "A582,A583,A584,A585,A586,A587,A588,A589,A591,A592,A594,A595,A596,A598,A600,A601,A602",
      "A603,A604,A606,A608,A609,A610,A611,A612,A613,A614,A615,A616,A617,A618,A619,A620,A621",
      "A622,A623,A624,A626,A627,A628,A629,A634,A637,A638,A640,A642,A643,A644,A645,A646,A648",
      "A649,A651,A652,A653,A654,A655,A656,A657,A658,A659,A660,A661,A662,A663,A664"]⟩,
    ⟨0x10740, "LINEAR A SIGN ", ["A701 A,A702 B,A703 D,A704 E,A705 F,A706 H,A707 J,A708 K",
      "A709 L,A709-2 L2,A709-3 L3,A709-4 L4,A709-6 L6,A710 W,A711 X,A712 Y,A713 OMEGA",
      "A714 ABB,A715 BB,A717 DD,A726 EYYY,A732 JE"]⟩,
    ⟨0x10760, "LINEAR A SIGN ", ["A800,A801,A802,A803,A804,A805,A806,A807"]⟩,
    ⟨0x10780, "MODIFIER LETTER ", ["SMALL CAPITAL AA,SUPERSCRIPT TRIANGULAR COLON",
      "SUPERSCRIPT HALF TRIANGULAR COLON,SMALL AE,SMALL CAPITAL B,SMALL B WITH HOOK"]⟩,
    ⟨0x10787, "MODIFIER LETTER SMALL ", ["DZ DIGRAPH,DZ DIGRAPH WITH RETROFLEX HOOK",
      "DZ DIGRAPH WITH CURL,DEZH DIGRAPH,D WITH TAIL,D WITH HOOK,D WITH HOOK AND TAIL",
      "REVERSED E,CLOSED REVERSED OPEN E,FENG DIGRAPH,RAMS HORN,CAPITAL G,G WITH HOOK",
      "CAPITAL G WITH HOOK,H WITH STROKE,CAPITAL H,HENG WITH HOOK",
      "DOTLESS J WITH STROKE AND HOOK,LS DIGRAPH,LZ DIGRAPH,L WITH BELT,CAPITAL L WITH BELT",
      "L WITH RETROFLEX HOOK AND BELT,LEZH,LEZH WITH RETROFLEX HOOK,TURNED Y",
      "TURNED Y WITH BELT,O WITH STROKE,CAPITAL OE,CLOSED OMEGA,Q,TURNED R WITH LONG LEG",
      "TURNED R WITH LONG LEG AND RETROFLEX HOOK,R WITH TAIL,R WITH FISHHOOK,CAPITAL R",
      "TC DIGRAPH WITH CURL,TS DIGRAPH,TS DIGRAPH WITH RETROFLEX HOOK,TESH DIGRAPH",
      "T WITH RETROFLEX HOOK,V WITH RIGHT HOOK"]⟩,
    ⟨0x107b2, "MODIFIER LETTER ", ["SMALL CAPITAL Y,GLOTTAL STOP WITH STROKE",
      "REVERSED GLOTTAL STOP WITH STROKE,BILABIAL CLICK,DENTAL CLICK,LATERAL CLICK",
      "ALVEOLAR CLICK,RETROFLEX CLICK WITH RETROFLEX HOOK,SMALL S WITH CURL"]⟩,
    ⟨0x10800, "CYPRIOT SYLLABLE ", ["A,E,I,O,U,JA"]⟩,
    ⟨0x10808, "CYPRIOT SYLLABLE ", ["JO"]⟩,
    ⟨0x1080a, "CYPRIOT SYLLABLE ", ["KA,KE,KI,KO,KU,LA,LE,LI,LO,LU,MA,ME,MI,MO,MU,NA,NE,NI,NO",
      "NU,PA,PE,PI,PO,PU,RA,RE,RI,RO,RU,SA,SE,SI,SO,SU,TA,TE,TI,TO,TU,WA,WE,WI,WO"]⟩,
    ⟨0x10837, "CYPRIOT SYLLABLE ", ["XA,XE"]⟩,
    ⟨0x1083c, "CYPRIOT SYLLABLE ", ["ZA"]⟩,
    ⟨0x1083f, "CYPRIOT SYLLABLE ", ["ZO"]⟩,
    ⟨0x10840, "IMPERIAL ARAMAIC LETTER ", ["ALEPH,BETH,GIMEL,DALETH,HE,WAW,ZAYIN,HETH,TETH,YODH",
      "KAPH,LAMEDH,MEM,NUN,SAMEKH,AYIN,PE,SADHE,QOPH,RESH,SHIN,TAW"]⟩,
    ⟨0x10857, "IMPERIAL ARAMAIC SECTION ", ["SIGN"]⟩,
    ⟨0x10858, "IMPERIAL ARAMAIC NUMBER ", ["ONE,TWO,THREE,TEN,TWENTY,ONE HUNDRED,ONE THOUSAND",
      "TEN THOUSAND"]⟩,
    ⟨0x10860, "PALMYRENE LETTER ", ["ALEPH,BETH,GIMEL,DALETH,HE,WAW,ZAYIN,HETH,TETH,YODH,KAPH",
      "LAMEDH,MEM,FINAL NUN,NUN,SAMEKH,AYIN,PE,SADHE,QOPH,RESH,SHIN,TAW"]⟩,
    ⟨0x10877, "PALMYRENE ", ["LEFT-POINTING FLEURON,RIGHT-POINTING FLEURON"]⟩,
    ⟨0x10879, "PALMYRENE NUMBER ", ["ONE,TWO,THREE,FOUR,FIVE,TEN,TWENTY"]⟩,
    ⟨0x10880, "NABATAEAN LETTER ", ["FINAL ALEPH,ALEPH,FINAL BETH,BETH,GIMEL,DALETH,FINAL HE,HE",
      "WAW,ZAYIN,HETH,TETH,FINAL YODH,YODH,FINAL KAPH,KAPH,FINAL LAMEDH,LAMEDH,FINAL MEM,MEM",
      "FINAL NUN,NUN,SAMEKH,AYIN,PE,SADHE,QOPH,RESH,FINAL SHIN,SHIN,TAW"]⟩,
    ⟨0x108a7, "NABATAEAN ", ["NUMBER ONE,NUMBER TWO,NUMBER THREE,NUMBER FOUR",
      "CRUCIFORM NUMBER FOUR,NUMBER FIVE,NUMBER TEN,NUMBER TWENTY,NUMBER ONE HUNDRED"]⟩,
    ⟨0x108e0, "HATRAN LETTER ", ["ALEPH,BETH,GIMEL,DALETH-RESH,HE,WAW,ZAYN,HETH,TETH,YODH,KAPH",
      "LAMEDH,MEM,NUN,SAMEKH,AYN,PE,SADHE,QOPH"]⟩,
    ⟨0x108f4, "HATRAN LETTER ", ["SHIN,TAW"]⟩,
    ⟨0x108fb, "HATRAN NUMBER ", ["ONE,FIVE,TEN,TWENTY,ONE HUNDRED"]⟩,
    ⟨0x10900, "PHOENICIAN LETTER ", ["ALF,BET,GAML,DELT,HE,WAU,ZAI,HET,TET,YOD,KAF,LAMD,MEM,NUN",
      "SEMK,AIN,PE,SADE,QOF,ROSH,SHIN,TAU"]⟩,
    ⟨0x10916, "PHOENICIAN NUMBER ", ["ONE,TEN,TWENTY,ONE HUNDRED,TWO,THREE"]⟩,
    ⟨0x1091f, "PHOENICIAN WORD ", ["SEPARATOR"]⟩,
    ⟨0x10920, "LYDIAN LETTER ", ["A,B,G,D,E,V,I,Y,K,L,M,N,O,R,SS,T,U,F,Q,S,TT,AN,EN,LY,NN,C"]⟩,
    ⟨0x1093f, "LYDIAN TRIANGULAR ", ["MARK"]⟩,
    ⟨0x10980, "MEROITIC HIEROGLYPHIC LETTER ", ["A,E,I,O,YA,WA,BA,BA-2,PA,MA,NA,NA-2,NE,NE-2,RA",
      "RA-2,LA,KHA,HHA,SA,SA-2,SE,KA,QA,TA,TA-2,TE,TE-2,TO,DA"]⟩,
    ⟨0x1099e, "MEROITIC HIEROGLYPHIC SYMBOL ", ["VIDJ,VIDJ-2"]⟩,
    ⟨0x109a0, "MEROITIC CURSIVE LETTER ", ["A,E,I,O,YA,WA,BA,PA,MA,NA,NE,RA,LA,KHA,HHA,SA",
      "ARCHAIC SA,SE,KA,QA,TA,TE,TO,DA"]⟩,
    ⟨0x109bc, "MEROITIC CURSIVE ", ["FRACTION ELEVEN TWELFTHS,FRACTION ONE HALF,LOGOGRAM RMT",
      "LOGOGRAM IMN"]⟩,
    ⟨0x109c0, "MEROITIC CURSIVE NUMBER ", ["ONE,TWO,THREE,FOUR,FIVE,SIX,SEVEN,EIGHT,NINE,TEN",
      "TWENTY,THIRTY,FORTY,FIFTY,SIXTY,SEVENTY"]⟩,
    ⟨0x109d2, "MEROITIC CURSIVE NUMBER ", ["ONE HUNDRED,TWO HUNDRED,THREE HUNDRED,FOUR HUNDRED",
      "FIVE HUNDRED,SIX HUNDRED,SEVEN HUNDRED,EIGHT HUNDRED,NINE HUNDRED,ONE THOUSAND",
      "TWO THOUSAND,THREE THOUSAND,FOUR THOUSAND,FIVE THOUSAND,SIX THOUSAND,SEVEN THOUSAND",
      "EIGHT THOUSAND,NINE THOUSAND,TEN THOUSAND,TWENTY THOUSAND,THIRTY THOUSAND",
      "FORTY THOUSAND,FIFTY THOUSAND,SIXTY THOUSAND,SEVENTY THOUSAND,EIGHTY THOUSAND",
      "NINETY THOUSAND,ONE HUNDRED THOUSAND,TWO HUNDRED THOUSAND,THREE HUNDRED THOUSAND",
      "FOUR HUNDRED THOUSAND,FIVE HUNDRED THOUSAND,SIX HUNDRED THOUSAND",
      "SEVEN HUNDRED THOUSAND,EIGHT HUNDRED THOUSAND,NINE HUNDRED THOUSAND"]⟩,
    ⟨0x109f6, "MEROITIC CURSIVE FRACTION ", ["ONE TWELFTH,TWO TWELFTHS,THREE TWELFTHS",
      "FOUR TWELFTHS,FIVE TWELFTHS,SIX TWELFTHS,SEVEN TWELFTHS,EIGHT TWELFTHS,NINE TWELFTHS",
      "TEN TWELFTHS"]⟩,
    ⟨0x10a00, "KHAROSHTHI ", ["LETTER A,VOWEL SIGN I,VOWEL SIGN U,VOWEL SIGN VOCALIC R"]⟩,
    ⟨0x10a05, "KHAROSHTHI VOWEL SIGN ", ["E,O"]⟩,
    ⟨0x10a0c, "KHAROSHTHI ", ["VOWEL LENGTH MARK,SIGN DOUBLE RING BELOW,SIGN ANUSVARA",
      "SIGN VISARGA,LETTER KA,LETTER KHA,LETTER GA,LETTER GHA"]⟩,
    ⟨0x10a15, "KHAROSHTHI LETTER ", ["CA,CHA,JA"]⟩,
    ⟨0x10a19, "KHAROSHTHI LETTER ", ["NYA,TTA,TTHA,DDA,DDHA,NNA,TA,THA,DA,DHA,NA,PA,PHA,BA,BHA",
      "MA,YA,RA,LA,VA,SHA,SSA,SA,ZA,HA,KKA,TTTHA,TTTA,VHA"]⟩,
    ⟨0x10a38, "KHAROSHTHI SIGN ", ["BAR ABOVE,CAUDA,DOT BELOW"]⟩,
    ⟨0x10a3f, "KHAROSHTHI ", ["VIRAMA,DIGIT ONE,DIGIT TWO,DIGIT THREE,DIGIT FOUR,NUMBER TEN",
      "NUMBER TWENTY,NUMBER ONE HUNDRED,NUMBER ONE THOUSAND,FRACTION ONE HALF"]⟩,
    ⟨0x10a50, "KHAROSHTHI PUNCTUATION ", ["DOT,SMALL CIRCLE,CIRCLE,CRESCENT BAR,MANGALAM,LOTUS",
      "DANDA,DOUBLE DANDA,LINES"]⟩,
    ⟨0x10a60, "OLD SOUTH ARABIAN LETTER ", ["HE,LAMEDH,HETH,MEM,QOPH,WAW,SHIN,RESH,BETH,TAW,SAT",
      "KAPH,NUN,KHETH,SADHE,SAMEKH,FE,ALEF,AYN,DHADHE,GIMEL,DALETH,GHAYN,TETH,ZAYN,DHALETH",
      "YODH,THAW,THETH"]⟩,
    ⟨0x10a7d, "OLD SOUTH ARABIAN ", ["NUMBER ONE,NUMBER FIFTY,NUMERIC INDICATOR"]⟩,
    ⟨0x10a80, "OLD NORTH ARABIAN LETTER ", ["HEH,LAM,HAH,MEEM,QAF,WAW,ES-2,REH,BEH,TEH,ES-1,KAF",
      "NOON,KHAH,SAD,ES-3,FEH,ALEF,AIN,DAD,GEEM,DAL,GHAIN,TAH,ZAIN,THAL,YEH,THEH,ZAH"]⟩,
    ⟨0x10a9d, "OLD NORTH ARABIAN NUMBER ", ["ONE,TEN,TWENTY"]⟩,
    ⟨0x10ac0, "MANICHAEAN LETTER ", ["ALEPH,BETH,BHETH,GIMEL,GHIMEL,DALETH,HE,WAW"]⟩,
    ⟨0x10ac8, "MANICHAEAN SIGN ", ["UD"]⟩,
    ⟨0x10ac9, "MANICHAEAN LETTER ", ["ZAYIN,ZHAYIN,JAYIN,JHAYIN,HETH,TETH,YODH,KAPH,XAPH,KHAPH",
      "LAMEDH,DHAMEDH,THAMEDH,MEM,NUN,SAMEKH,AYIN,AAYIN,PE,FE,SADHE,QOPH,XOPH,QHOPH,RESH,SHIN",
      "SSHIN,TAW"]⟩,
    ⟨0x10ae5, "MANICHAEAN ABBREVIATION MARK ", ["ABOVE,BELOW"]⟩,
    ⟨0x10aeb, "MANICHAEAN NUMBER ", ["ONE,FIVE,TEN,TWENTY,ONE HUNDRED"]⟩,
    ⟨0x10af0, "MANICHAEAN PUNCTUATION ", ["STAR,FLEURON,DOUBLE DOT WITHIN DOT,DOT WITHIN DOT",
      "DOT,TWO DOTS,LINE FILLER"]⟩,
    ⟨0x10b00, "AVESTAN LETTER ", ["A,AA,AO,AAO,AN,AAN,AE,AEE,E,EE,O,OO,I,II,U,UU,KE,XE,XYE,XVE",
      "GE,GGE,GHE,CE,JE,TE,THE,DE,DHE,TTE,PE,FE,BE,BHE,NGE,NGYE,NGVE,NE,NYE,NNE,ME,HME,YYE,YE",
      "VE,RE,LE,SE,ZE,SHE,ZHE,SHYE,SSHE,HE"]⟩,
    ⟨0x10b39, "", ["AVESTAN ABBREVIATION MARK,TINY TWO DOTS OVER ONE DOT PUNCTUATION",
      "SMALL TWO DOTS OVER ONE DOT PUNCTUATION"]⟩,
    ⟨0x10b3c, "LARGE ", ["TWO DOTS OVER ONE DOT PUNCTUATION,ONE DOT OVER TWO DOTS PUNCTUATION",
      "TWO RINGS OVER ONE RING PUNCTUATION,ONE RING OVER TWO RINGS PUNCTUATION"]⟩,
    ⟨0x10b40, "INSCRIPTIONAL PARTHIAN LETTER ", ["ALEPH,BETH,GIMEL,DALETH,HE,WAW,ZAYIN,HETH",
      "TETH,YODH,KAPH,LAMEDH,MEM,NUN,SAMEKH,AYIN,PE,SADHE,QOPH,RESH,SHIN,TAW"]⟩,
    ⟨0x10b58, "INSCRIPTIONAL PARTHIAN NUMBER ", ["ONE,TWO,THREE,FOUR,TEN,TWENTY,ONE HUNDRED",
      "ONE THOUSAND"]⟩,
    ⟨0x10b60, "INSCRIPTIONAL PAHLAVI LETTER ", ["ALEPH,BETH,GIMEL,DALETH,HE,WAW-AYIN-RESH,ZAYIN",
      "HETH,TETH,YODH,KAPH,LAMEDH,MEM-QOPH,NUN,SAMEKH,PE,SADHE,SHIN,TAW"]⟩,
    ⟨0x10b78, "INSCRIPTIONAL PAHLAVI NUMBER ", ["ONE,TWO,THREE,FOUR,TEN,TWENTY,ONE HUNDRED",
      "ONE THOUSAND"]⟩,
    ⟨0x10b80, "PSALTER PAHLAVI LETTER ", ["ALEPH,BETH,GIMEL,DALETH,HE,WAW-AYIN-RESH,ZAYIN,HETH",
      "YODH,KAPH,LAMEDH,MEM-QOPH,NUN,SAMEKH,PE,SADHE,SHIN,TAW"]⟩,
    ⟨0x10b99, "PSALTER PAHLAVI ", ["SECTION MARK,TURNED SECTION MARK,FOUR DOTS WITH CROSS",
      "FOUR DOTS WITH DOT"]⟩,
    ⟨0x10ba9, "PSALTER PAHLAVI NUMBER ", ["ONE,TWO,THREE,FOUR,TEN,TWENTY,ONE HUNDRED"]⟩,
    ⟨0x10c00, "OLD TURKIC LETTER ", ["ORKHON A,YENISEI A,YENISEI AE,ORKHON I,YENISEI I",
      "YENISEI E,ORKHON O,ORKHON OE,YENISEI OE,ORKHON AB,YENISEI AB,ORKHON AEB,YENISEI AEB",
      "ORKHON AG,YENISEI AG,ORKHON AEG,YENISEI AEG,ORKHON AD,YENISEI AD,ORKHON AED,ORKHON EZ",
      "YENISEI EZ,ORKHON AY,YENISEI AY,ORKHON AEY,YENISEI AEY,ORKHON AEK,YENISEI AEK",
      "ORKHON OEK,YENISEI OEK,ORKHON AL,YENISEI AL,ORKHON AEL,ORKHON ELT,ORKHON EM,ORKHON AN",
      "ORKHON AEN,YENISEI AEN,ORKHON ENT,YENISEI ENT,ORKHON ENC,YENISEI ENC,ORKHON ENY",
      "YENISEI ENY,YENISEI ANG,ORKHON ENG,YENISEI AENG,ORKHON EP,ORKHON OP,ORKHON IC",
      "ORKHON EC,YENISEI EC,ORKHON AQ,YENISEI AQ,ORKHON IQ,YENISEI IQ,ORKHON OQ,YENISEI OQ",
      "ORKHON AR,YENISEI AR,ORKHON AER,ORKHON AS,ORKHON AES,ORKHON ASH,YENISEI ASH,ORKHON ESH",
      "YENISEI ESH,ORKHON AT,YENISEI AT,ORKHON AET,YENISEI AET,ORKHON OT,ORKHON BASH"]⟩,
    ⟨0x10c80, "OLD HUNGARIAN CAPITAL LETTER ", ["A,AA,EB,AMB,EC,ENC,ECS,ED,AND,E,CLOSE E,EE,EF",
      "EG,EGY,EH,I,II,EJ,EK,AK,UNK,EL,ELY,EM,EN,ENY,O,OO,NIKOLSBURG OE,RUDIMENTA OE,OEE,EP",
      "EMP,ER,SHORT ER,ES,ESZ,ET,ENT,ETY,ECH,U,UU,NIKOLSBURG UE,RUDIMENTA UE,EV,EZ,EZS",
      "ENT-SHAPED SIGN,US"]⟩,
    ⟨0x10cc0, "OLD HUNGARIAN SMALL LETTER ", ["A,AA,EB,AMB,EC,ENC,ECS,ED,AND,E,CLOSE E,EE,EF,EG",
      "EGY,EH,I,II,EJ,EK,AK,UNK,EL,ELY,EM,EN,ENY,O,OO,NIKOLSBURG OE,RUDIMENTA OE,OEE,EP,EMP",
      "ER,SHORT ER,ES,ESZ,ET,ENT,ETY,ECH,U,UU,NIKOLSBURG UE,RUDIMENTA UE,EV,EZ,EZS",
      "ENT-SHAPED SIGN,US"]⟩,
    ⟨0x10cfa, "OLD HUNGARIAN NUMBER ", ["ONE,FIVE,TEN,FIFTY,ONE HUNDRED,ONE THOUSAND"]⟩,
    ⟨0x10d00, "HANIFI ROHINGYA LETTER ", ["A,BA,PA,TA,TTA,JA,CA,HA,KHA,FA,DA,DDA,RA,RRA,ZA,SA",
      "SHA,KA,GA,LA,MA,NA,WA,KINNA WA,YA,KINNA YA,NGA,NYA,VA"]⟩,
    ⟨0x10d1d, "HANIFI ROHINGYA ", ["VOWEL A,VOWEL I,VOWEL U,VOWEL E,VOWEL O,MARK SAKIN",
      "MARK NA KHONNA,SIGN HARBAHAY,SIGN TAHALA,SIGN TANA,SIGN TASSI"]⟩,
    ⟨0x10d30, "HANIFI ROHINGYA DIGIT ", ["ZERO,ONE,TWO,THREE,FOUR,FIVE,SIX,SEVEN,EIGHT,NINE"]⟩,
    ⟨0x10e60, "RUMI DIGIT ", ["ONE,TWO,THREE,FOUR,FIVE,SIX,SEVEN,EIGHT,NINE"]⟩,
    ⟨0x10e69, "RUMI NUMBER ", ["TEN,TWENTY,THIRTY,FORTY,FIFTY,SIXTY,SEVENTY,EIGHTY,NINETY",
      "ONE HUNDRED,TWO HUNDRED,THREE HUNDRED,FOUR HUNDRED,FIVE HUNDRED,SIX HUNDRED",
      "SEVEN HUNDRED,EIGHT HUNDRED,NINE HUNDRED"]⟩,
    ⟨0x10e7b, "RUMI FRACTION ", ["ONE HALF,ONE QUARTER,ONE THIRD,TWO THIRDS"]⟩,
    ⟨0x10e80, "YEZIDI LETTER ", ["ELIF,BE,PE,PHE,THE,SE,CIM,CHIM,CHHIM,HHA,XA,DAL,ZAL,RA,RHA,ZA",
      "JA,SIN,SHIN,SAD,DAD,TA,ZE,EYN,XHEYN,FA,VA,VA ALTERNATE FORM,QAF,KAF,KHAF,GAF,LAM,MIM",
      "NUN,UM,WAW,OW,EW,HAY,YOT,ET"]⟩,
    ⟨0x10eab, "YEZIDI ", ["COMBINING HAMZA MARK,COMBINING MADDA MARK,HYPHENATION MARK"]⟩,
    ⟨0x10eb0, "YEZIDI LETTER ", ["LAM WITH DOT ABOVE,YOT WITH CIRCUMFLEX ABOVE"]⟩,
    ⟨0x10f00, "OLD SOGDIAN LETTER ", ["ALEPH,FINAL ALEPH,BETH,FINAL BETH,GIMEL,HE,FINAL HE,WAW",
      "ZAYIN,HETH,YODH,KAPH,LAMEDH,MEM,NUN,FINAL NUN,FINAL NUN WITH VERTICAL TAIL,SAMEKH,AYIN",
      "ALTERNATE AYIN,PE,SADHE,FINAL SADHE,FINAL SADHE WITH VERTICAL TAIL,RESH-AYIN-DALETH",
      "SHIN,TAW,FINAL TAW,FINAL TAW WITH VERTICAL TAIL"]⟩,
    ⟨0x10f1d, "OLD SOGDIAN NUMBER ", ["ONE,TWO,THREE,FOUR,FIVE,TEN,TWENTY,THIRTY,ONE HUNDRED"]⟩,
    ⟨0x10f26, "OLD SOGDIAN ", ["FRACTION ONE HALF,LIGATURE AYIN-DALETH"]⟩,
    ⟨0x10f30, "SOGDIAN LETTER ", ["ALEPH,BETH,GIMEL,HE,WAW,ZAYIN,HETH,YODH,KAPH,LAMEDH,MEM,NUN",
      "SAMEKH,AYIN,PE,SADHE,RESH-AYIN,SHIN,TAW,FETH,LESH"]⟩,
    ⟨0x10f45, "SOGDIAN INDEPENDENT ", ["SHIN"]⟩,
    ⟨0x10f46, "SOGDIAN COMBINING ", ["DOT BELOW,TWO DOTS BELOW,DOT ABOVE,TWO DOTS ABOVE",
      "CURVE ABOVE,CURVE BELOW,HOOK ABOVE,HOOK BELOW,LONG HOOK BELOW,RESH BELOW,STROKE BELOW"]⟩,
    ⟨0x10f51, "SOGDIAN NUMBER ", ["ONE,TEN,TWENTY,ONE HUNDRED"]⟩,
    ⟨0x10f55, "SOGDIAN PUNCTUATION ", ["TWO VERTICAL BARS,TWO VERTICAL BARS WITH DOTS",
      "CIRCLE WITH DOT,TWO CIRCLES WITH DOTS,HALF CIRCLE WITH DOT"]⟩,
    ⟨0x10f70, "OLD UYGHUR LETTER ", ["ALEPH,BETH,GIMEL-HETH,WAW,ZAYIN,FINAL HETH,YODH,KAPH",
      "LAMEDH,MEM,NUN,SAMEKH,PE,SADHE,RESH,SHIN,TAW,LESH"]⟩,
    ⟨0x10f82, "OLD UYGHUR COMBINING ", ["DOT ABOVE,DOT BELOW,TWO DOTS ABOVE,TWO DOTS BELOW"]⟩,
    ⟨0x10f86, "OLD UYGHUR PUNCTUATION ", ["BAR,TWO BARS,TWO DOTS,FOUR DOTS"]⟩,
    ⟨0x10fb0, "CHORASMIAN LETTER ", ["ALEPH,SMALL ALEPH,BETH,GIMEL,DALETH,HE,WAW,CURLED WAW",
      "ZAYIN,HETH,YODH,KAPH,LAMEDH,MEM,NUN,SAMEKH,AYIN,PE,RESH,SHIN,TAW"]⟩,
    ⟨0x10fc5, "CHORASMIAN NUMBER ", ["ONE,TWO,THREE,FOUR,TEN,TWENTY,ONE HUNDRED"]⟩,
    ⟨0x10fe0, "ELYMAIC LETTER ", ["ALEPH,BETH,GIMEL,DALETH,HE,WAW,ZAYIN,HETH,TETH,YODH,KAPH",
      "LAMEDH,MEM,NUN,SAMEKH,AYIN,PE,SADHE,QOPH,RESH,SHIN,TAW"]⟩,
    ⟨0x10ff6, "ELYMAIC LIGATURE ", ["ZAYIN-YODH"]⟩,
    ⟨0x11000, "BRAHMI SIGN ", ["CANDRABINDU,ANUSVARA,VISARGA,JIHVAMULIYA,UPADHMANIYA"]⟩,
    ⟨0x11005, "BRAHMI LETTER ", ["A,AA,I,II,U,UU,VOCALIC R,VOCALIC RR,VOCALIC L,VOCALIC LL,E,AI",
      "O,AU,KA,KHA,GA,GHA,NGA,CA,CHA,JA,JHA,NYA,TTA,TTHA,DDA,DDHA,NNA,TA,THA,DA,DHA,NA,PA,PHA",
      "BA,BHA,MA,YA,RA,LA,VA,SHA,SSA,SA,HA,LLA,OLD TAMIL LLLA,OLD TAMIL RRA,OLD TAMIL NNNA"]⟩,
    ⟨0x11038, "BRAHMI VOWEL SIGN ", ["AA,BHATTIPROLU AA,I,II,U,UU,VOCALIC R,VOCALIC RR",
      "VOCALIC L,VOCALIC LL,E,AI,O,AU"]⟩,
    ⟨0x11046, "BRAHMI ", ["VIRAMA,DANDA,DOUBLE DANDA"]⟩,
    ⟨0x11049, "BRAHMI PUNCTUATION ", ["DOT,DOUBLE DOT,LINE,CRESCENT BAR,LOTUS"]⟩,
    ⟨0x11052, "BRAHMI NUMBER ", ["ONE,TWO,THREE,FOUR,FIVE,SIX,SEVEN,EIGHT,NINE,TEN,TWENTY",
      "THIRTY,FORTY,FIFTY,SIXTY,SEVENTY,EIGHTY,NINETY,ONE HUNDRED,ONE THOUSAND"]⟩,
    ⟨0x11066, "BRAHMI DIGIT ", ["ZERO,ONE,TWO,THREE,FOUR,FIVE,SIX,SEVEN,EIGHT,NINE"]⟩,
    ⟨0x11070, "BRAHMI ", ["SIGN OLD TAMIL VIRAMA,LETTER OLD TAMIL SHORT E",
      "LETTER OLD TAMIL SHORT O,VOWEL SIGN OLD TAMIL SHORT E,VOWEL SIGN OLD TAMIL SHORT O",
      "LETTER OLD TAMIL LLA"]⟩,
    ⟨0x1107f, "BRAHMI NUMBER ", ["JOINER"]⟩,
    ⟨0x11080, "KAITHI SIGN ", ["CANDRABINDU,ANUSVARA,VISARGA"]⟩,
    ⟨0x11083, "KAITHI LETTER ", ["A,AA,I,II,U,UU,E,AI,O,AU,KA,KHA,GA,GHA,NGA,CA,CHA,JA,JHA,NYA",
      "TTA,TTHA,DDA,DDDHA,DDHA,RHA,NNA,TA,THA,DA,DHA,NA,PA,PHA,BA,BHA,MA,YA,RA,LA,VA,SHA,SSA",
      "SA,HA"]⟩,
    ⟨0x110b0, "KAITHI VOWEL SIGN ", ["AA,I,II,U,UU,E,AI,O,AU"]⟩,
    ⟨0x110b9, "KAITHI ", ["SIGN VIRAMA,SIGN NUKTA,ABBREVIATION SIGN,ENUMERATION SIGN",
      "NUMBER SIGN,SECTION MARK,DOUBLE SECTION MARK,DANDA,DOUBLE DANDA,VOWEL SIGN VOCALIC R"]⟩,
    ⟨0x110cd, "KAITHI NUMBER SIGN ", ["ABOVE"]⟩,
    ⟨0x110d0, "SORA SOMPENG LETTER ", ["SAH,TAH,BAH,CAH,DAH,GAH,MAH,NGAH,LAH,NAH,VAH,PAH,YAH",
      "RAH,HAH,KAH,JAH,NYAH,AH,EEH,IH,UH,OH,EH,MAE"]⟩,
    ⟨0x110f0, "SORA SOMPENG DIGIT ", ["ZERO,ONE,TWO,THREE,FOUR,FIVE,SIX,SEVEN,EIGHT,NINE"]⟩,
    ⟨0x11100, "CHAKMA SIGN ", ["CANDRABINDU,ANUSVARA,VISARGA"]⟩,
    ⟨0x11103, "CHAKMA LETTER ", ["AA,I,U,E,KAA,KHAA,GAA,GHAA,NGAA,CAA,CHAA,JAA,JHAA,NYAA,TTAA",
      "TTHAA,DDAA,DDHAA,NNAA,TAA,THAA,DAA,DHAA,NAA,PAA,PHAA,BAA,BHAA,MAA,YYAA,YAA,RAA,LAA,WAA",
      "SAA,HAA"]⟩,
    ⟨0x11127, "CHAKMA VOWEL SIGN ", ["A,I,II,U,UU,E,AI,O,AU,OI"]⟩,
    ⟨0x11131, "CHAKMA ", ["O MARK,AU MARK,VIRAMA,MAAYYAA"]⟩,
    ⟨0x11136, "CHAKMA DIGIT ", ["ZERO,ONE,TWO,THREE,FOUR,FIVE,SIX,SEVEN,EIGHT,NINE"]⟩,
    ⟨0x11140, "CHAKMA ", ["SECTION MARK,DANDA,DOUBLE DANDA,QUESTION MARK,LETTER LHAA",
      "VOWEL SIGN AA,VOWEL SIGN EI,LETTER VAA"]⟩,
    ⟨0x11150, "MAHAJANI LETTER ", ["A,I,U,E,O,KA,KHA,GA,GHA,CA,CHA,JA,JHA,NYA,TTA,TTHA,DDA,DDHA",
      "NNA,TA,THA,DA,DHA,NA,PA,PHA,BA,BHA,MA,RA,LA,VA,SA,HA,RRA"]⟩,
    ⟨0x11173, "MAHAJANI ", ["SIGN NUKTA,ABBREVIATION SIGN,SECTION MARK,LIGATURE SHRI"]⟩,
    ⟨0x11180, "SHARADA SIGN ", ["CANDRABINDU,ANUSVARA,VISARGA"]⟩,
    ⟨0x11183, "SHARADA LETTER ", ["A,AA,I,II,U,UU,VOCALIC R,VOCALIC RR,VOCALIC L,VOCALIC LL,E",
      "AI,O,AU,KA,KHA,GA,GHA,NGA,CA,CHA,JA,JHA,NYA,TTA,TTHA,DDA,DDHA,NNA,TA,THA,DA,DHA,NA,PA",
      "PHA,BA,BHA,MA,YA,RA,LA,LLA,VA,SHA,SSA,SA,HA"]⟩,
    ⟨0x111b3, "SHARADA VOWEL SIGN ", ["AA,I,II,U,UU,VOCALIC R,VOCALIC RR,VOCALIC L,VOCALIC LL,E",
      "AI,O,AU"]⟩,
    ⟨0x111c0, "SHARADA ", ["SIGN VIRAMA,SIGN AVAGRAHA,SIGN JIHVAMULIYA,SIGN UPADHMANIYA,OM",
      "DANDA,DOUBLE DANDA,ABBREVIATION SIGN,SEPARATOR,SANDHI MARK,SIGN NUKTA",
      "VOWEL MODIFIER MARK,EXTRA SHORT VOWEL MARK,SUTRA MARK,VOWEL SIGN PRISHTHAMATRA E",
      "SIGN INVERTED CANDRABINDU"]⟩,
    ⟨0x111d0, "SHARADA DIGIT ", ["ZERO,ONE,TWO,THREE,FOUR,FIVE,SIX,SEVEN,EIGHT,NINE"]⟩,
    ⟨0x111da, "SHARADA ", ["EKAM,SIGN SIDDHAM,HEADSTROKE,CONTINUATION SIGN,SECTION MARK-1",
      "SECTION MARK-2"]⟩,
    ⟨0x111e1, "SINHALA ARCHAIC DIGIT ", ["ONE,TWO,THREE,FOUR,FIVE,SIX,SEVEN,EIGHT,NINE"]⟩,
    ⟨0x111ea, "SINHALA ARCHAIC NUMBER ", ["TEN,TWENTY,THIRTY,FORTY,FIFTY,SIXTY,SEVENTY,EIGHTY",
      "NINETY,ONE HUNDRED,ONE THOUSAND"]⟩,
    ⟨0x11200, "KHOJKI LETTER ", ["A,AA,I,U,E,AI,O,AU,KA,KHA,GA,GGA,GHA,NGA,CA,CHA,JA,JJA"]⟩,
    ⟨0x11213, "KHOJKI LETTER ", ["NYA,TTA,TTHA,DDA,DDHA,NNA,TA,THA,DA,DDDA,DHA,NA,PA,PHA,BA,BBA",
      "BHA,MA,YA,RA,LA,VA,SA,HA,LLA"]⟩,
    ⟨0x1122c, "KHOJKI VOWEL SIGN ", ["AA,I,II,U,E,AI,O,AU"]⟩,
    ⟨0x11234, "KHOJKI ", ["SIGN ANUSVARA,SIGN VIRAMA,SIGN NUKTA,SIGN SHADDA,DANDA,DOUBLE DANDA",
      "WORD SEPARATOR,SECTION MARK,DOUBLE SECTION MARK,ABBREVIATION SIGN,SIGN SUKUN"]⟩,
    ⟨0x11280, "MULTANI LETTER ", ["A,I,U,E,KA,KHA,GA"]⟩,
    ⟨0x11288, "MULTANI LETTER ", ["GHA"]⟩,
    ⟨0x1128a, "MULTANI LETTER ", ["CA,CHA,JA,JJA"]⟩,
    ⟨0x1128f, "MULTANI LETTER ", ["NYA,TTA,TTHA,DDA,DDDA,DDHA,NNA,TA,THA,DA,DHA,NA,PA,PHA,BA"]⟩,
    ⟨0x1129f, "MULTANI LETTER ", ["BHA,MA,YA,RA,LA,VA,SA,HA,RRA,RHA"]⟩,
    ⟨0x112a9, "MULTANI SECTION ", ["MARK"]⟩,
    ⟨0x112b0, "KHUDAWADI LETTER ", ["A,AA,I,II,U,UU,E,AI,O,AU,KA,KHA,GA,GGA,GHA,NGA,CA,CHA,JA",
      "JJA,JHA,NYA,TTA,TTHA,DDA,DDDA,RRA,DDHA,NNA,TA,THA,DA,DHA,NA,PA,PHA,BA,BBA,BHA,MA,YA,RA",
      "LA,VA,SHA,SA,HA"]⟩,
    ⟨0x112df, "KHUDAWADI SIGN ", ["ANUSVARA"]⟩,
    ⟨0x112e0, "KHUDAWADI VOWEL SIGN ", ["AA,I,II,U,UU,E,AI,O,AU"]⟩,
    ⟨0x112e9, "KHUDAWADI SIGN ", ["NUKTA,VIRAMA"]⟩,
    ⟨0x112f0, "KHUDAWADI DIGIT ", ["ZERO,ONE,TWO,THREE,FOUR,FIVE,SIX,SEVEN,EIGHT,NINE"]⟩,
    ⟨0x11300, "GRANTHA SIGN ", ["COMBINING ANUSVARA ABOVE,CANDRABINDU,ANUSVARA,VISARGA"]⟩,
    ⟨0x11305, "GRANTHA LETTER ", ["A,AA,I,II,U,UU,VOCALIC R,VOCALIC L"]⟩,
    ⟨0x1130f, "GRANTHA LETTER ", ["EE,AI"]⟩,
    ⟨0x11313, "GRANTHA LETTER ", ["OO,AU,KA,KHA,GA,GHA,NGA,CA,CHA,JA,JHA,NYA,TTA,TTHA,DDA,DDHA",
      "NNA,TA,THA,DA,DHA,NA"]⟩,
    ⟨0x1132a, "GRANTHA LETTER ", ["PA,PHA,BA,BHA,MA,YA,RA"]⟩,
    ⟨0x11332, "GRANTHA LETTER ", ["LA,LLA"]⟩,
    ⟨0x11335, "GRANTHA LETTER ", ["VA,SHA,SSA,SA,HA"]⟩,
    ⟨0x1133b, "", ["COMBINING BINDU BELOW,GRANTHA SIGN NUKTA,GRANTHA SIGN AVAGRAHA"]⟩,
    ⟨0x1133e, "GRANTHA VOWEL SIGN ", ["AA,I,II,U,UU,VOCALIC R,VOCALIC RR"]⟩,
    ⟨0x11347, "GRANTHA VOWEL SIGN ", ["EE,AI"]⟩,
    ⟨0x1134b, "GRANTHA ", ["VOWEL SIGN OO,VOWEL SIGN AU,SIGN VIRAMA"]⟩,
    ⟨0x11350, "GRANTHA ", ["OM"]⟩,
    ⟨0x11357, "GRANTHA AU LENGTH ", ["MARK"]⟩,
    ⟨0x1135d, "GRANTHA ", ["SIGN PLUTA,LETTER VEDIC ANUSVARA,LETTER VEDIC DOUBLE ANUSVARA",
      "LETTER VOCALIC RR,LETTER VOCALIC LL,VOWEL SIGN VOCALIC L,VOWEL SIGN VOCALIC LL"]⟩,
    ⟨0x11366, "COMBINING GRANTHA DIGIT ", ["ZERO,ONE,TWO,THREE,FOUR,FIVE,SIX"]⟩,
    ⟨0x11370, "COMBINING GRANTHA LETTER ", ["A,KA,NA,VI,PA"]⟩,
    ⟨0x11400, "NEWA LETTER ", ["A,AA,I,II,U,UU,VOCALIC R,VOCALIC RR,VOCALIC L,VOCALIC LL,E,AI,O",
      "AU,KA,KHA,GA,GHA,NGA,NGHA,CA,CHA,JA,JHA,NYA,NYHA,TTA,TTHA,DDA,DDHA,NNA,TA,THA,DA,DHA",
      "NA,NHA,PA,PHA,BA,BHA,MA,MHA,YA,RA,RHA,LA,LHA,WA,SHA,SSA,SA,HA"]⟩,
    ⟨0x11435, "NEWA VOWEL SIGN ", ["AA,I,II,U,UU,VOCALIC R,VOCALIC RR,VOCALIC L,VOCALIC LL,E,AI",
      "O,AU"]⟩,
    ⟨0x11442, "NEWA SIGN ", ["VIRAMA,CANDRABINDU,ANUSVARA,VISARGA,NUKTA,AVAGRAHA,FINAL ANUSVARA"]⟩,
    ⟨0x11449, "NEWA ", ["OM,SIDDHI,DANDA,DOUBLE DANDA,COMMA,GAP FILLER,ABBREVIATION SIGN"]⟩,
    ⟨0x11450, "NEWA DIGIT ", ["ZERO,ONE,TWO,THREE,FOUR,FIVE,SIX,SEVEN,EIGHT,NINE"]⟩,
    ⟨0x1145a, "NEWA ", ["DOUBLE COMMA,PLACEHOLDER MARK"]⟩,
    ⟨0x1145d, "NEWA ", ["INSERTION SIGN,SANDHI MARK,LETTER VEDIC ANUSVARA,SIGN JIHVAMULIYA",
      "SIGN UPADHMANIYA"]⟩,
    ⟨0x11480, "TIRHUTA ", ["ANJI"]⟩,
    ⟨0x11481, "TIRHUTA LETTER ", ["A,AA,I,II,U,UU,VOCALIC R,VOCALIC RR,VOCALIC L,VOCALIC LL,E",
      "AI,O,AU,KA,KHA,GA,GHA,NGA,CA,CHA,JA,JHA,NYA,TTA,TTHA,DDA,DDHA,NNA,TA,THA,DA,DHA,NA,PA",
      "PHA,BA,BHA,MA,YA,RA,LA,VA,SHA,SSA,SA,HA"]⟩,
    ⟨0x114b0, "TIRHUTA VOWEL SIGN ", ["AA,I,II,U,UU,VOCALIC R,VOCALIC RR,VOCALIC L,VOCALIC LL,E",
      "SHORT E,AI,O,SHORT O,AU"]⟩,
    ⟨0x114bf, "TIRHUTA SIGN ", ["CANDRABINDU,ANUSVARA,VISARGA,VIRAMA,NUKTA,AVAGRAHA"]⟩,
    ⟨0x114c5, "TIRHUTA ", ["GVANG,ABBREVIATION SIGN,OM"]⟩,
    ⟨0x114d0, "TIRHUTA DIGIT ", ["ZERO,ONE,TWO,THREE,FOUR,FIVE,SIX,SEVEN,EIGHT,NINE"]⟩,
    ⟨0x11580, "SIDDHAM LETTER ", ["A,AA,I,II,U,UU,VOCALIC R,VOCALIC RR,VOCALIC L,VOCALIC LL,E",
      "AI,O,AU,KA,KHA,GA,GHA,NGA,CA,CHA,JA,JHA,NYA,TTA,TTHA,DDA,DDHA,NNA,TA,THA,DA,DHA,NA,PA",
      "PHA,BA,BHA,MA,YA,RA,LA,VA,SHA,SSA,SA,HA"]⟩,
    ⟨0x115af, "SIDDHAM VOWEL SIGN ", ["AA,I,II,U,UU,VOCALIC R,VOCALIC RR"]⟩,
    ⟨0x115b8, "SIDDHAM VOWEL SIGN ", ["E,AI,O,AU"]⟩,
    ⟨0x115bc, "SIDDHAM SIGN ", ["CANDRABINDU,ANUSVARA,VISARGA,VIRAMA,NUKTA,SIDDHAM"]⟩,
    ⟨0x115c2, "SIDDHAM ", ["DANDA,DOUBLE DANDA,SEPARATOR DOT,SEPARATOR BAR,REPETITION MARK-1",
      "REPETITION MARK-2,REPETITION MARK-3,END OF TEXT MARK"]⟩,
    ⟨0x115ca, "SIDDHAM SECTION MARK ", ["WITH TRIDENT AND U-SHAPED ORNAMENTS",
      "WITH TRIDENT AND DOTTED CRESCENTS,WITH RAYS AND DOTTED CRESCENTS",
      "WITH RAYS AND DOTTED DOUBLE CRESCENTS,WITH RAYS AND DOTTED TRIPLE CRESCENTS",
      "DOUBLE RING,DOUBLE RING WITH RAYS,WITH DOUBLE CRESCENTS,WITH TRIPLE CRESCENTS",
      "WITH QUADRUPLE CRESCENTS,WITH SEPTUPLE CRESCENTS,WITH CIRCLES AND RAYS",
      "WITH CIRCLES AND TWO ENCLOSURES,WITH CIRCLES AND FOUR ENCLOSURES"]⟩,
    ⟨0x115d8, "SIDDHAM LETTER ", ["THREE-CIRCLE ALTERNATE I,TWO-CIRCLE ALTERNATE I",
      "TWO-CIRCLE ALTERNATE II,ALTERNATE U"]⟩,
    ⟨0x115dc, "SIDDHAM VOWEL SIGN ALTERNATE ", ["U,UU"]⟩,
    ⟨0x11600, "MODI LETTER ", ["A,AA,I,II,U,UU,VOCALIC R,VOCALIC RR,VOCALIC L,VOCALIC LL,E,AI,O",
      "AU,KA,KHA,GA,GHA,NGA,CA,CHA,JA,JHA,NYA,TTA,TTHA,DDA,DDHA,NNA,TA,THA,DA,DHA,NA,PA,PHA",
      "BA,BHA,MA,YA,RA,LA,VA,SHA,SSA,SA,HA,LLA"]⟩,
    ⟨0x11630, "MODI VOWEL SIGN ", ["AA,I,II,U,UU,VOCALIC R,VOCALIC RR,VOCALIC L,VOCALIC LL,E,AI",
      "O,AU"]⟩,
    ⟨0x1163d, "MODI ", ["SIGN ANUSVARA,SIGN VISARGA,SIGN VIRAMA,SIGN ARDHACANDRA,DANDA",
      "DOUBLE DANDA,ABBREVIATION SIGN,SIGN HUVA"]⟩,
    ⟨0x11650, "MODI DIGIT ", ["ZERO,ONE,TWO,THREE,FOUR,FIVE,SIX,SEVEN,EIGHT,NINE"]⟩,
    ⟨0x11660, "MONGOLIAN ", ["BIRGA WITH ORNAMENT,ROTATED BIRGA,DOUBLE BIRGA WITH ORNAMENT",
      "TRIPLE BIRGA WITH ORNAMENT,BIRGA WITH DOUBLE ORNAMENT,ROTATED BIRGA WITH ORNAMENT",
      "ROTATED BIRGA WITH DOUBLE ORNAMENT,INVERTED BIRGA,INVERTED BIRGA WITH DOUBLE ORNAMENT",
      "SWIRL BIRGA,SWIRL BIRGA WITH ORNAMENT,SWIRL BIRGA WITH DOUBLE ORNAMENT",
      "TURNED SWIRL BIRGA WITH DOUBLE ORNAMENT"]⟩,
    ⟨0x11680, "TAKRI LETTER ", ["A,AA,I,II,U,UU,E,AI,O,AU,KA,KHA,GA,GHA,NGA,CA,CHA,JA,JHA,NYA",
      "TTA,TTHA,DDA,DDHA,NNA,TA,THA,DA,DHA,NA,PA,PHA,BA,BHA,MA,YA,RA,LA,VA,SHA,SA,HA,RRA"]⟩,
    ⟨0x116ab, "TAKRI SIGN ", ["ANUSVARA,VISARGA"]⟩,
    ⟨0x116ad, "TAKRI VOWEL SIGN ", ["AA,I,II,U,UU,E,AI,O,AU"]⟩,
    ⟨0x116b6, "TAKRI ", ["SIGN VIRAMA,SIGN NUKTA,LETTER ARCHAIC KHA,ABBREVIATION SIGN"]⟩,
    ⟨0x116c0, "TAKRI DIGIT ", ["ZERO,ONE,TWO,THREE,FOUR,FIVE,SIX,SEVEN,EIGHT,NINE"]⟩,
    ⟨0x11700, "AHOM LETTER ", ["KA,KHA,NGA,NA,TA,ALTERNATE TA,PA,PHA,BA,MA,JA,CHA,THA,RA,LA,SA",
      "NYA,HA,A,DA,DHA,GA,ALTERNATE GA,GHA,BHA,JHA,ALTERNATE BA"]⟩,
    ⟨0x1171d, "AHOM CONSONANT SIGN MEDIAL ", ["LA,RA,LIGATING RA"]⟩,
    ⟨0x11720, "AHOM VOWEL SIGN ", ["A,AA,I,II,U,UU,E,AW,O,AI,AM"]⟩,
    ⟨0x1172b, "AHOM SIGN ", ["KILLER"]⟩,
    ⟨0x11730, "AHOM DIGIT ", ["ZERO,ONE,TWO,THREE,FOUR,FIVE,SIX,SEVEN,EIGHT,NINE"]⟩,
    ⟨0x1173a, "AHOM ", ["NUMBER TEN,NUMBER TWENTY,SIGN SMALL SECTION,SIGN SECTION,SIGN RULAI",
      "SYMBOL VI"]⟩,
    ⟨0x11740, "AHOM LETTER ", ["CA,TTA,TTHA,DDA,DDHA,NNA,LLA"]⟩,
    ⟨0x11800, "DOGRA LETTER ", ["A,AA,I,II,U,UU,E,AI,O,AU,KA,KHA,GA,GHA,NGA,CA,CHA,JA,JHA,NYA",
      "TTA,TTHA,DDA,DDHA,NNA,TA,THA,DA,DHA,NA,PA,PHA,BA,BHA,MA,YA,RA,LA,VA,SHA,SSA,SA,HA,RRA"]⟩,
    ⟨0x1182c, "DOGRA VOWEL SIGN ", ["AA,I,II,U,UU,VOCALIC R,VOCALIC RR,E,AI,O,AU"]⟩,
    ⟨0x11837, "DOGRA ", ["SIGN ANUSVARA,SIGN VISARGA,SIGN VIRAMA,SIGN NUKTA,ABBREVIATION SIGN"]⟩,
    ⟨0x118a0, "WARANG CITI CAPITAL LETTER ", ["NGAA,A,WI,YU,YA,YO,II,UU,E,O,ANG,GA,KO,ENY,YUJ",
      "UC,ENN,ODD,TTE,NUNG,DA,AT,AM,BU,PU,HIYO,HOLO,HORR,HAR,SSUU,SII,VIYO"]⟩,
    ⟨0x118c0, "WARANG CITI SMALL LETTER ", ["NGAA,A,WI,YU,YA,YO,II,UU,E,O,ANG,GA,KO,ENY,YUJ,UC",
      "ENN,ODD,TTE,NUNG,DA,AT,AM,BU,PU,HIYO,HOLO,HORR,HAR,SSUU,SII,VIYO"]⟩,
    ⟨0x118e0, "WARANG CITI DIGIT ", ["ZERO,ONE,TWO,THREE,FOUR,FIVE,SIX,SEVEN,EIGHT,NINE"]⟩,
    ⟨0x118ea, "WARANG CITI NUMBER ", ["TEN,TWENTY,THIRTY,FORTY,FIFTY,SIXTY,SEVENTY,EIGHTY",
      "NINETY"]⟩,
    ⟨0x118ff, "WARANG CITI ", ["OM"]⟩,
    ⟨0x11900, "DIVES AKURU LETTER ", ["A,AA,I,II,U,UU,E"]⟩,
    ⟨0x11909, "DIVES AKURU LETTER ", ["O"]⟩,
    ⟨0x1190c, "DIVES AKURU LETTER ", ["KA,KHA,GA,GHA,NGA,CA,CHA,JA"]⟩,
    ⟨0x11915, "DIVES AKURU LETTER ", ["NYA,TTA"]⟩,
    ⟨0x11918, "DIVES AKURU LETTER ", ["DDA,DDHA,NNA,TA,THA,DA,DHA,NA,PA,PHA,BA,BHA,MA,YA,YYA,RA",
      "LA,VA,SHA,SSA,SA,HA,LLA,ZA"]⟩,
    ⟨0x11930, "DIVES AKURU VOWEL SIGN ", ["AA,I,II,U,UU,E"]⟩,
    ⟨0x11937, "DIVES AKURU VOWEL SIGN ", ["AI,O"]⟩,
    ⟨0x1193b, "DIVES AKURU ", ["SIGN ANUSVARA,SIGN CANDRABINDU,SIGN HALANTA,VIRAMA",
      "PREFIXED NASAL SIGN,MEDIAL YA,INITIAL RA,MEDIAL RA,SIGN NUKTA,DOUBLE DANDA,GAP FILLER",
      "END OF TEXT MARK"]⟩,
    ⟨0x11950, "DIVES AKURU DIGIT ", ["ZERO,ONE,TWO,THREE,FOUR,FIVE,SIX,SEVEN,EIGHT,NINE"]⟩,
    ⟨0x119a0, "NANDINAGARI LETTER ", ["A,AA,I,II,U,UU,VOCALIC R,VOCALIC RR"]⟩,
    ⟨0x119aa, "NANDINAGARI LETTER ", ["E,AI,O,AU,KA,KHA,GA,GHA,NGA,CA,CHA,JA,JHA,NYA,TTA,TTHA",
      "DDA,DDHA,NNA,TA,THA,DA,DHA,NA,PA,PHA,BA,BHA,MA,YA,RA,LA,VA,SHA,SSA,SA,HA,LLA,RRA"]⟩,
    ⟨0x119d1, "NANDINAGARI VOWEL SIGN ", ["AA,I,II,U,UU,VOCALIC R,VOCALIC RR"]⟩,
    ⟨0x119da, "NANDINAGARI VOWEL SIGN ", ["E,AI,O,AU"]⟩,
    ⟨0x119de, "NANDINAGARI ", ["SIGN ANUSVARA,SIGN VISARGA,SIGN VIRAMA,SIGN AVAGRAHA",
      "SIGN SIDDHAM,HEADSTROKE,VOWEL SIGN PRISHTHAMATRA E"]⟩,
    ⟨0x11a00, "ZANABAZAR SQUARE LETTER ", ["A"]⟩,
    ⟨0x11a01, "ZANABAZAR SQUARE VOWEL SIGN ", ["I,UE,U,E,OE,O,AI,AU,REVERSED I"]⟩,
    ⟨0x11a0a, "ZANABAZAR SQUARE VOWEL LENGTH ", ["MARK"]⟩,
    ⟨0x11a0b, "ZANABAZAR SQUARE LETTER ", ["KA,KHA,GA,GHA,NGA,CA,CHA,JA,NYA,TTA,TTHA,DDA,DDHA",
      "NNA,TA,THA,DA,DHA,NA,PA,PHA,BA,BHA,MA,TSA,TSHA,DZA,DZHA,ZHA,ZA,-A,YA,RA,LA,VA,SHA,SSA",
      "SA,HA,KSSA"]⟩,
    ⟨0x11a33, "ZANABAZAR SQUARE ", ["FINAL CONSONANT MARK,SIGN VIRAMA,SIGN CANDRABINDU",
      "SIGN CANDRABINDU WITH ORNAMENT,SIGN CANDRA WITH ORNAMENT,SIGN ANUSVARA,SIGN VISARGA",
      "CLUSTER-INITIAL LETTER RA,CLUSTER-FINAL LETTER YA,CLUSTER-FINAL LETTER RA",
      "CLUSTER-FINAL LETTER LA,CLUSTER-FINAL LETTER VA,INITIAL HEAD MARK,CLOSING HEAD MARK",
      "MARK TSHEG,MARK SHAD,MARK DOUBLE SHAD,MARK LONG TSHEG,INITIAL DOUBLE-LINED HEAD MARK",
      "CLOSING DOUBLE-LINED HEAD MARK,SUBJOINER"]⟩,
    ⟨0x11a50, "SOYOMBO LETTER ", ["A"]⟩,
    ⟨0x11a51, "SOYOMBO VOWEL SIGN ", ["I,UE,U,E,O,OE,AI,AU,VOCALIC R,VOCALIC L"]⟩,
    ⟨0x11a5b, "SOYOMBO VOWEL LENGTH ", ["MARK"]⟩,
    ⟨0x11a5c, "SOYOMBO LETTER ", ["KA,KHA,GA,GHA,NGA,CA,CHA,JA,JHA,NYA,TTA,TTHA,DDA,DDHA,NNA,TA",
      "THA,DA,DHA,NA,PA,PHA,BA,BHA,MA,TSA,TSHA,DZA,ZHA,ZA,-A,YA,RA,LA,VA,SHA,SSA,SA,HA,KSSA"]⟩,
    ⟨0x11a84, "SOYOMBO SIGN ", ["JIHVAMULIYA,UPADHMANIYA"]⟩,
    ⟨0x11a86, "SOYOMBO CLUSTER-INITIAL LETTER ", ["RA,LA,SHA,SA"]⟩,
    ⟨0x11a8a, "SOYOMBO FINAL CONSONANT SIGN ", ["G,K,NG,D,N,B,M,R,L,SH,S,-A"]⟩,
    ⟨0x11a96, "SOYOMBO ", ["SIGN ANUSVARA,SIGN VISARGA,GEMINATION MARK,SUBJOINER,MARK TSHEG",
      "MARK SHAD,MARK DOUBLE SHAD,MARK PLUTA"]⟩,
    ⟨0x11a9e, "SOYOMBO HEAD MARK WITH MOON AND ", ["SUN AND TRIPLE FLAME,SUN AND FLAME,SUN"]⟩,
    ⟨0x11aa1, "SOYOMBO TERMINAL ", ["MARK-1,MARK-2"]⟩,
    ⟨0x11ab0, "CANADIAN SYLLABICS NATTILIK ", ["HI,HII,HO,HOO,HA,HAA,SHRI,SHRII,SHRO,SHROO,SHRA",
      "SHRAA"]⟩,
    ⟨0x11abc, "CANADIAN SYLLABICS ", ["SPE,SPI,SPO,SPA"]⟩,
    ⟨0x11ac0, "PAU CIN HAU LETTER ", ["PA,KA,LA,MA,DA,ZA,VA,NGA,HA,GA,KHA,SA,BA,CA,TA,THA,NA",
      "PHA,RA,FA,CHA,A,E,I,O,U,UA,IA"]⟩,
    ⟨0x11adc, "PAU CIN HAU LETTER FINAL ", ["P,K,T,M,N,L,W,NG,Y"]⟩,
    ⟨0x11ae5, "PAU CIN HAU ", ["RISING TONE LONG,RISING TONE,SANDHI GLOTTAL STOP",
      "RISING TONE LONG FINAL,RISING TONE FINAL,SANDHI GLOTTAL STOP FINAL,SANDHI TONE LONG",
      "SANDHI TONE,SANDHI TONE LONG FINAL,SANDHI TONE FINAL,MID-LEVEL TONE",
      "GLOTTAL STOP VARIANT,MID-LEVEL TONE LONG FINAL,MID-LEVEL TONE FINAL",
      "LOW-FALLING TONE LONG,LOW-FALLING TONE,GLOTTAL STOP,LOW-FALLING TONE LONG FINAL",
      "LOW-FALLING TONE FINAL,GLOTTAL STOP FINAL"]⟩,
    ⟨0x11c00, "BHAIKSUKI LETTER ", ["A,AA,I,II,U,UU,VOCALIC R,VOCALIC RR,VOCALIC L"]⟩,
    ⟨0x11c0a, "BHAIKSUKI LETTER ", ["E,AI,O,AU,KA,KHA,GA,GHA,NGA,CA,CHA,JA,JHA,NYA,TTA,TTHA,DDA",
      "DDHA,NNA,TA,THA,DA,DHA,NA,PA,PHA,BA,BHA,MA,YA,RA,LA,VA,SHA,SSA,SA,HA"]⟩,
    ⟨0x11c2f, "BHAIKSUKI VOWEL SIGN ", ["AA,I,II,U,UU,VOCALIC R,VOCALIC RR,VOCALIC L"]⟩,
    ⟨0x11c38, "BHAIKSUKI VOWEL SIGN ", ["E,AI,O,AU"]⟩,
    ⟨0x11c3c, "BHAIKSUKI ", ["SIGN CANDRABINDU,SIGN ANUSVARA,SIGN VISARGA,SIGN VIRAMA",
      "SIGN AVAGRAHA,DANDA,DOUBLE DANDA,WORD SEPARATOR,GAP FILLER-1,GAP FILLER-2"]⟩,
    ⟨0x11c50, "BHAIKSUKI DIGIT ", ["ZERO,ONE,TWO,THREE,FOUR,FIVE,SIX,SEVEN,EIGHT,NINE"]⟩,
    ⟨0x11c5a, "BHAIKSUKI NUMBER ", ["ONE,TWO,THREE,FOUR,FIVE,SIX,SEVEN,EIGHT,NINE,TEN,TWENTY",
      "THIRTY,FORTY,FIFTY,SIXTY,SEVENTY,EIGHTY,NINETY"]⟩,
    ⟨0x11c6c, "BHAIKSUKI HUNDREDS UNIT ", ["MARK"]⟩,
    ⟨0x11c70, "MARCHEN ", ["HEAD MARK,MARK SHAD"]⟩,
    ⟨0x11c72, "MARCHEN LETTER ", ["KA,KHA,GA,NGA,CA,CHA,JA,NYA,TA,THA,DA,NA,PA,PHA,BA,MA,TSA",
      "TSHA,DZA,WA,ZHA,ZA,-A,YA,RA,LA,SHA,SA,HA,A"]⟩,
    ⟨0x11c92, "MARCHEN SUBJOINED LETTER ", ["KA,KHA,GA,NGA,CA,CHA,JA,NYA,TA,THA,DA,NA,PA,PHA,BA",
      "MA,TSA,TSHA,DZA,WA,ZHA,ZA"]⟩,
    ⟨0x11ca9, "MARCHEN SUBJOINED LETTER ", ["YA,RA,LA,SHA,SA,HA,A"]⟩,
    ⟨0x11cb0, "MARCHEN VOWEL SIGN ", ["AA,I,U,E,O"]⟩,
    ⟨0x11cb5, "MARCHEN SIGN ", ["ANUSVARA,CANDRABINDU"]⟩,
    ⟨0x11d00, "MASARAM GONDI LETTER ", ["A,AA,I,II,U,UU,E"]⟩,
    ⟨0x11d08, "MASARAM GONDI LETTER ", ["AI,O"]⟩,
    ⟨0x11d0b, "MASARAM GONDI LETTER ", ["AU,KA,KHA,GA,GHA,NGA,CA,CHA,JA,JHA,NYA,TTA,TTHA,DDA",
      "DDHA,NNA,TA,THA,DA,DHA,NA,PA,PHA,BA,BHA,MA,YA,RA,LA,VA,SHA,SSA,SA,HA,LLA,KSSA,JNYA,TRA"]⟩,
    ⟨0x11d31, "MASARAM GONDI VOWEL SIGN ", ["AA,I,II,U,UU,VOCALIC R"]⟩,
    ⟨0x11d3a, "MASARAM GONDI VOWEL SIGN ", ["E"]⟩,
    ⟨0x11d3c, "MASARAM GONDI VOWEL SIGN ", ["AI,O"]⟩,
    ⟨0x11d3f, "MASARAM GONDI ", ["VOWEL SIGN AU,SIGN ANUSVARA,SIGN VISARGA,SIGN NUKTA",
      "SIGN CANDRA,SIGN HALANTA,VIRAMA,REPHA,RA-KARA"]⟩,
    ⟨0x11d50, "MASARAM GONDI DIGIT ", ["ZERO,ONE,TWO,THREE,FOUR,FIVE,SIX,SEVEN,EIGHT,NINE"]⟩,
    ⟨0x11d60, "GUNJALA GONDI LETTER ", ["A,AA,I,II,U,UU"]⟩,
    ⟨0x11d67, "GUNJALA GONDI LETTER ", ["EE,AI"]⟩,
    ⟨0x11d6a, "GUNJALA GONDI LETTER ", ["OO,AU,YA,VA,BA,BHA,MA,KA,KHA,TA,THA,LA,GA,GHA,DA,DHA",
      "NA,CA,CHA,TTA,TTHA,LLA,JA,JHA,DDA,DDHA,NGA,PA,PHA,HA,RA,SA"]⟩,
    ⟨0x11d8a, "GUNJALA GONDI VOWEL SIGN ", ["AA,I,II,U,UU"]⟩,
    ⟨0x11d90, "GUNJALA GONDI VOWEL SIGN ", ["EE,AI"]⟩,
    ⟨0x11d93, "GUNJALA GONDI ", ["VOWEL SIGN OO,VOWEL SIGN AU,SIGN ANUSVARA,SIGN VISARGA,VIRAMA",
      "OM"]⟩,
    ⟨0x11da0, "GUNJALA GONDI DIGIT ", ["ZERO,ONE,TWO,THREE,FOUR,FIVE,SIX,SEVEN,EIGHT,NINE"]⟩,
    ⟨0x11ee0, "MAKASAR LETTER ", ["KA,GA,NGA,PA,BA,MA,TA,DA,NA,CA,JA,NYA,YA,RA,LA,VA,SA,A"]⟩,
    ⟨0x11ef2, "MAKASAR ", ["ANGKA,VOWEL SIGN I,VOWEL SIGN U,VOWEL SIGN E,VOWEL SIGN O",
      "PASSIMBANG,END OF SECTION"]⟩,
    ⟨0x11fb0, "LISU LETTER ", ["YHA"]⟩,
    ⟨0x11fc0, "TAMIL FRACTION ", ["ONE THREE-HUNDRED-AND-TWENTIETH,ONE ONE-HUNDRED-AND-SIXTIETH",
      "ONE EIGHTIETH,ONE SIXTY-FOURTH,ONE FORTIETH,ONE THIRTY-SECOND,THREE EIGHTIETHS",
      "THREE SIXTY-FOURTHS,ONE TWENTIETH,ONE SIXTEENTH-1,ONE SIXTEENTH-2,ONE TENTH,ONE EIGHTH",
      "THREE TWENTIETHS,THREE SIXTEENTHS,ONE FIFTH,ONE QUARTER,ONE HALF-1,ONE HALF-2",
      "THREE QUARTERS,DOWNSCALING FACTOR KIIZH"]⟩,
    ⟨0x11fd5, "TAMIL SIGN ", ["NEL,CEVITU,AAZHAAKKU,UZHAKKU,MUUVUZHAKKU,KURUNI,PATHAKKU",
      "MUKKURUNI,KAACU,PANAM,PON,VARAAKAN,PAARAM,KUZHI,VELI"]⟩,
    ⟨0x11fe4, "TAMIL ", ["WET CULTIVATION SIGN,DRY CULTIVATION SIGN,LAND SIGN,SALT PAN SIGN",
      "TRADITIONAL CREDIT SIGN,TRADITIONAL NUMBER SIGN,CURRENT SIGN,AND ODD SIGN,SPENT SIGN",
      "TOTAL SIGN,IN POSSESSION SIGN,STARTING FROM SIGN,SIGN MUTHALIYA,SIGN VAKAIYARAA"]⟩,
    ⟨0x11fff, "", ["TAMIL PUNCTUATION END OF TEXT,CUNEIFORM SIGN A"]⟩]

/-! ## Pictorial scripts -/

set_option maxRecDepth 8000 in
/-- Names in cuneiform, hieroglyphs and old notations of song. -/
def pictorial : List NameRun :=
  [
    ⟨0x12001, "CUNEIFORM SIGN A TIMES ", ["A,BAD,GAN2 TENU,HA,IGI,LAGAR GUNU,MUSH,SAG"]⟩,
    ⟨0x12009, "CUNEIFORM SIGN ", ["A2,AB"]⟩,
    ⟨0x1200b, "CUNEIFORM SIGN AB TIMES ", ["ASH2,DUN3 GUNU,GAL,GAN2 TENU,HA,IGI GUNU,IMIN,LAGAB",
      "SHESH,U PLUS U PLUS U"]⟩,
    ⟨0x12015, "CUNEIFORM SIGN ", ["AB GUNU,AB2,AB2 TIMES BALAG,AB2 TIMES GAN2 TENU",
      "AB2 TIMES ME PLUS EN,AB2 TIMES SHA3,AB2 TIMES TAK4,AD,AK,AK TIMES ERIN2",
      "AK TIMES SHITA PLUS GISH,AL"]⟩,
    ⟨0x12021, "CUNEIFORM SIGN AL TIMES ", ["AL,DIM2,GISH,HA,KAD3,KI,SHE,USH"]⟩,
    ⟨0x12029, "CUNEIFORM SIGN ", ["ALAN,ALEPH,AMAR,AMAR TIMES SHE,AN,AN OVER AN,AN THREE TIMES",
      "AN PLUS NAGA OPPOSING AN PLUS NAGA,AN PLUS NAGA SQUARED,ANSHE,APIN,ARAD,ARAD TIMES KUR",
      "ARKAB,ASAL2,ASH,ASH ZIDA TENU,ASH KABA TENU",
      "ASH OVER ASH TUG2 OVER TUG2 TUG2 OVER TUG2 PAP,ASH OVER ASH OVER ASH",
      "ASH OVER ASH OVER ASH CROSSING ASH OVER ASH OVER ASH,ASH2,ASHGAB,BA,BAD,BAG3,BAHAR2",
      "BAL,BAL OVER BAL,BALAG,BAR,BARA2,BI,BI TIMES A,BI TIMES GAR,BI TIMES IGI GUNU,BU",
      "BU OVER BU AB,BU OVER BU UN,BU CROSSING BU,BULUG,BULUG OVER BULUG,BUR,BUR2,DA,DAG"]⟩,
    ⟨0x12057, "CUNEIFORM SIGN DAG KISIM5 TIMES ", ["A PLUS MASH,AMAR,BALAG,BI,GA,GA PLUS MASH",
      "GI,GIR2,GUD,HA,IR,IR PLUS LU,KAK,LA,LU,LU PLUS MASH2,LUM,NE,PAP PLUS PAP,SI,TAK4",
      "U2 PLUS GIR2,USH"]⟩,
    ⟨0x1206e, "CUNEIFORM SIGN ", ["DAM,DAR,DARA3,DARA4,DI,DIB,DIM,DIM TIMES SHE,DIM2,DIN",
      "DIN KASKAL U GUNU DISH,DISH,DU,DU OVER DU,DU GUNU,DU SHESHIG,DUB,DUB TIMES ESH2,DUB2",
      "DUG,DUGUD,DUH,DUN,DUN3,DUN3 GUNU,DUN3 GUNU GUNU,DUN4,DUR2,E,E TIMES PAP",
      "E OVER E NUN OVER NUN,E2,E2 TIMES A PLUS HA PLUS DA,E2 TIMES GAR,E2 TIMES MI",
      "E2 TIMES SAL,E2 TIMES SHE,E2 TIMES U,EDIN,EGIR,EL,EN,EN TIMES GAN2,EN TIMES GAN2 TENU",
      "EN TIMES ME,EN CROSSING EN,EN OPPOSING EN,EN SQUARED,EREN,ERIN2,ESH2,EZEN"]⟩,
    ⟨0x120a2, "CUNEIFORM SIGN EZEN TIMES ", ["A,A PLUS LAL,A PLUS LAL TIMES LAL,AN,BAD",
      "DUN3 GUNU,DUN3 GUNU GUNU,HA,HA GUNU,IGI GUNU,KASKAL,KASKAL SQUARED,KU3,LA",
      "LAL TIMES LAL,LI,LU,U2,UD"]⟩,
    ⟨0x120b5, "CUNEIFORM SIGN ", ["GA,GA GUNU,GA2"]⟩,
    ⟨0x120b8, "CUNEIFORM SIGN GA2 TIMES ", ["A PLUS DA PLUS HA,A PLUS HA,A PLUS IGI",
      "AB2 TENU PLUS TAB,AN,ASH,ASH2 PLUS GAL,BAD,BAR PLUS RA,BUR,BUR PLUS RA,DA,DI",
      "DIM TIMES SHE,DUB,EL,EL PLUS LA,EN,EN TIMES GAN2 TENU,GAN2 TENU,GAR,GI,GI4,GI4 PLUS A",
      "GIR2 PLUS SU,HA PLUS LU PLUS ESH2,HAL,HAL PLUS LA,HI PLUS LI,HUB2,IGI GUNU",
      "ISH PLUS HU PLUS ASH,KAK,KASKAL,KID,KID PLUS LAL,KU3 PLUS AN,LA,ME PLUS EN,MI,NUN",
      "NUN OVER NUN,PA,SAL,SAR,SHE,SHE PLUS TUR,SHID,SUM,TAK4,U,UD,UD PLUS DU"]⟩,
    ⟨0x120ed, "CUNEIFORM SIGN ", ["GA2 OVER GA2,GABA,GABA CROSSING GABA,GAD",
      "GAD OVER GAD GAR OVER GAR,GAL,GAL GAD OVER GAD GAR OVER GAR,GALAM,GAM,GAN,GAN2",
      "GAN2 TENU,GAN2 OVER GAN2,GAN2 CROSSING GAN2,GAR,GAR3,GASHAN,GESHTIN,GESHTIN TIMES KUR",
      "GI,GI TIMES E,GI TIMES U,GI CROSSING GI,GI4,GI4 OVER GI4,GI4 CROSSING GI4,GIDIM,GIR2",
      "GIR2 GUNU,GIR3,GIR3 TIMES A PLUS IGI,GIR3 TIMES GAN2 TENU,GIR3 TIMES IGI",
      "GIR3 TIMES LU PLUS IGI,GIR3 TIMES PA,GISAL,GISH,GISH CROSSING GISH,GISH TIMES BAD",
      "GISH TIMES TAK4,GISH TENU,GU,GU CROSSING GU,GU2,GU2 TIMES KAK",
      "GU2 TIMES KAK TIMES IGI GUNU,GU2 TIMES NUN,GU2 TIMES SAL PLUS TUG2,GU2 GUNU,GUD",
      "GUD TIMES A PLUS KUR,GUD TIMES KUR,GUD OVER GUD LUGAL,GUL,GUM,GUM TIMES SHE,GUR,GUR7",
      "GURUN,GURUSH,HA,HA TENU,HA GUNU,HAL,HI"]⟩,
    ⟨0x1212e, "CUNEIFORM SIGN HI TIMES ", ["ASH,ASH2,BAD,DISH,GAD,KIN,NUN,SHE,U"]⟩,
    ⟨0x12137, "CUNEIFORM SIGN ", ["HU,HUB2,HUB2 TIMES AN,HUB2 TIMES HAL,HUB2 TIMES KASKAL",
      "HUB2 TIMES LISH,HUB2 TIMES UD,HUL2,I,I A,IB,IDIM,IDIM OVER IDIM BUR",
      "IDIM OVER IDIM SQUARED,IG,IGI,IGI DIB,IGI RI,IGI OVER IGI SHIR OVER SHIR UD OVER UD",
      "IGI GUNU,IL,IL TIMES GAN2 TENU,IL2,IM,IM TIMES TAK4,IM CROSSING IM,IM OPPOSING IM",
      "IM SQUARED,IMIN,IN,IR,ISH,KA"]⟩,
    ⟨0x12158, "CUNEIFORM SIGN KA TIMES ", ["A,AD,AD PLUS KU3,ASH2,BAD,BALAG,BAR,BI,ERIN2,ESH2",
      "GA,GAL,GAN2 TENU,GAR,GAR PLUS SHA3 PLUS A,GI,GIR2,GISH PLUS SAR,GISH CROSSING GISH,GU",
      "GUR7,IGI,IM,KAK,KI,KID,LI,LU,ME,ME PLUS DU,ME PLUS GI,ME PLUS TE,MI,MI PLUS NUNUZ,NE",
      "NUN,PI,RU,SA,SAR,SHA,SHE,SHID,SHU,SIG,SUHUR,TAR,U,U2,UD,UMUM TIMES PA,USH,ZI"]⟩,
    ⟨0x1218d, "CUNEIFORM SIGN ", ["KA2,KA2 CROSSING KA2,KAB,KAD2,KAD3,KAD4,KAD5,KAD5 OVER KAD5",
      "KAK,KAK TIMES IGI GUNU,KAL,KAL TIMES BAD,KAL CROSSING KAL,KAM2,KAM4,KASKAL",
      "KASKAL LAGAB TIMES U OVER LAGAB TIMES U",
      "KASKAL OVER KASKAL LAGAB TIMES U OVER LAGAB TIMES U,KESH2,KI,KI TIMES BAD,KI TIMES U",
      "KI TIMES UD,KID,KIN,KISAL,KISH,KISIM5,KISIM5 OVER KISIM5,KU",
      "KU OVER HI TIMES ASH2 KU OVER HI TIMES ASH2,KU3,KU4,KU4 VARIANT FORM,KU7,KUL,KUL GUNU",
      "KUN,KUR,KUR OPPOSING KUR,KUSHU2,KWU318,LA,LAGAB"]⟩,
    ⟨0x121b9, "CUNEIFORM SIGN LAGAB TIMES ", ["A,A PLUS DA PLUS HA,A PLUS GAR,A PLUS LAL,AL,AN",
      "ASH ZIDA TENU,BAD,BI,DAR,EN,GA,GAR,GUD,GUD PLUS GUD,HA,HAL,HI TIMES NUN,IGI GUNU,IM",
      "IM PLUS HA,IM PLUS LU,KI,KIN,KU3,KUL,KUL PLUS HI PLUS A,LAGAB,LISH,LU,LUL,ME",
      "ME PLUS EN,MUSH,NE,SHE PLUS SUM,SHITA PLUS GISH PLUS ERIN2,SHITA PLUS GISH TENU,SHU2",
      "SHU2 PLUS SHU2,SUM,TAG,TAK4,TE PLUS A PLUS SU PLUS NA,U,U PLUS A,U PLUS U PLUS U",
      "U2 PLUS ASH,UD,USH"]⟩,
    ⟨0x121eb, "CUNEIFORM SIGN ", ["LAGAB SQUARED,LAGAR,LAGAR TIMES SHE,LAGAR TIMES SHE PLUS SUM",
      "LAGAR GUNU,LAGAR GUNU OVER LAGAR GUNU SHE,LAHSHU,LAL,LAL TIMES LAL,LAM,LAM TIMES KUR",
      "LAM TIMES KUR PLUS RU,LI,LIL,LIMMU2,LISH,LU,LU TIMES BAD,LU2"]⟩,
    ⟨0x121fe, "CUNEIFORM SIGN LU2 TIMES ", ["AL,BAD,ESH2,ESH2 TENU,GAN2 TENU,HI TIMES BAD,IM",
      "KAD2,KAD3,KAD3 PLUS ASH,KI,LA PLUS ASH,LAGAB,ME PLUS EN,NE,NU,SI PLUS ASH,SIK2 PLUS BU",
      "TUG2"]⟩,
    ⟨0x12211, "CUNEIFORM SIGN ", ["LU2 TENU,LU2 CROSSING LU2,LU2 OPPOSING LU2,LU2 SQUARED",
      "LU2 SHESHIG,LU3,LUGAL,LUGAL OVER LUGAL,LUGAL OPPOSING LUGAL,LUGAL SHESHIG,LUH,LUL,LUM",
      "LUM OVER LUM,LUM OVER LUM GAR OVER GAR,MA,MA TIMES TAK4,MA GUNU,MA2,MAH,MAR,MASH,MASH2",
      "ME,MES,MI,MIN,MU,MU OVER MU,MUG,MUG GUNU,MUNSUB,MURGU2,MUSH,MUSH TIMES A",
      "MUSH TIMES KUR,MUSH TIMES ZA,MUSH OVER MUSH,MUSH OVER MUSH TIMES A PLUS NA",
      "MUSH CROSSING MUSH,MUSH3,MUSH3 TIMES A,MUSH3 TIMES A PLUS DI,MUSH3 TIMES DI,MUSH3 GUNU",
      "NA,NA2,NAGA,NAGA INVERTED,NAGA TIMES SHU TENU,NAGA OPPOSING NAGA,NAGAR,NAM NUTILLU,NAM",
      "NAM2,NE,NE TIMES A,NE TIMES UD,NE SHESHIG,NI,NI TIMES E,NI2,NIM,NIM TIMES GAN2 TENU",
      "NIM TIMES GAR PLUS GAN2 TENU,NINDA2"]⟩,
    ⟨0x12253, "CUNEIFORM SIGN NINDA2 TIMES ", ["AN,ASH,ASH PLUS ASH,GUD,ME PLUS GAN2 TENU,NE",
      "NUN,SHE,SHE PLUS A AN,SHE PLUS ASH,SHE PLUS ASH PLUS ASH,U2 PLUS ASH,USH"]⟩,
    ⟨0x12260, "CUNEIFORM SIGN ", ["NISAG,NU,NU11,NUN"]⟩,
    ⟨0x12264, "CUNEIFORM SIGN NUN LAGAR TIMES ", ["GAR,MASH,SAL,SAL OVER NUN LAGAR TIMES SAL",
      "USH"]⟩,
    ⟨0x12269, "CUNEIFORM SIGN ", ["NUN TENU,NUN OVER NUN,NUN CROSSING NUN",
      "NUN CROSSING NUN LAGAR OVER LAGAR,NUNUZ"]⟩,
    ⟨0x1226e, "CUNEIFORM SIGN NUNUZ AB2 TIMES ", ["ASHGAB,BI,DUG,GUD,IGI GUNU,KAD3,LA,NE,SILA3",
      "U2"]⟩,
    ⟨0x12278, "CUNEIFORM SIGN ", ["NUNUZ KISIM5 TIMES BI,NUNUZ KISIM5 TIMES BI U,PA,PAD,PAN,PAP",
      "PESH2,PI"]⟩,
    ⟨0x12280, "CUNEIFORM SIGN PI TIMES ", ["A,AB,BI,BU,E,I,IB,U,U2"]⟩,
    ⟨0x12289, "CUNEIFORM SIGN ", ["PI CROSSING PI,PIRIG,PIRIG TIMES KAL,PIRIG TIMES UD",
      "PIRIG TIMES ZA,PIRIG OPPOSING PIRIG,RA,RAB,RI,RU,SA,SAG NUTILLU,SAG"]⟩,
    ⟨0x12296, "CUNEIFORM SIGN SAG TIMES ", ["A,DU,DUB,HA,KAK,KUR,LUM,MI,NUN,SAL,SHID,TAB,U2,UB",
      "UM,UR,USH"]⟩,
    ⟨0x122a7, "CUNEIFORM SIGN ", ["SAG OVER SAG,SAG GUNU,SAL,SAL LAGAB TIMES ASH2,SANGA2,SAR",
      "SHA,SHA3"]⟩,
    ⟨0x122af, "CUNEIFORM SIGN SHA3 TIMES ", ["A,BAD,GISH,NE,SHU2,TUR,U,U PLUS A"]⟩,
    ⟨0x122b7, "CUNEIFORM SIGN ", ["SHA6,SHAB6,SHAR2,SHE,SHE HU",
      "SHE OVER SHE GAD OVER GAD GAR OVER GAR,SHE OVER SHE TAB OVER TAB GAR OVER GAR,SHEG9",
      "SHEN,SHESH,SHESH2,SHESHLAM,SHID,SHID TIMES A,SHID TIMES IM,SHIM"]⟩,
    ⟨0x122c7, "CUNEIFORM SIGN SHIM TIMES ", ["A,BAL,BULUG,DIN,GAR,IGI,IGI GUNU,KUSHU2,LUL,MUG",
      "SAL"]⟩,
    ⟨0x122d2, "CUNEIFORM SIGN ", ["SHINIG,SHIR,SHIR TENU,SHIR OVER SHIR BUR OVER BUR,SHITA,SHU",
      "SHU OVER INVERTED SHU,SHU2,SHUBUR,SI,SI GUNU,SIG,SIG4,SIG4 OVER SIG4 SHU2,SIK2,SILA3",
      "SU,SU OVER SU,SUD,SUD2,SUHUR,SUM,SUMASH,SUR,SUR9,TA,TA ASTERISK,TA TIMES HI",
      "TA TIMES MI,TA GUNU,TAB,TAB OVER TAB NI OVER NI DISH OVER DISH,TAB SQUARED,TAG",
      "TAG TIMES BI,TAG TIMES GUD,TAG TIMES SHE,TAG TIMES SHU,TAG TIMES TUG2,TAG TIMES UD",
      "TAK4,TAR,TE,TE GUNU,TI,TI TENU,TIL,TIR,TIR TIMES TAK4,TIR OVER TIR",
      "TIR OVER TIR GAD OVER GAD GAR OVER GAR,TU,TUG2,TUK,TUM,TUR,TUR OVER TUR ZA OVER ZA,U",
      "U GUD,U U U,U OVER U PA OVER PA GAR OVER GAR,U OVER U SUR OVER SUR",
      "U OVER U U REVERSED OVER U REVERSED,U2,UB,UD,UD KUSHU2,UD TIMES BAD,UD TIMES MI",
      "UD TIMES U PLUS U PLUS U,UD TIMES U PLUS U PLUS U GUNU,UD GUNU,UD SHESHIG",
      "UD SHESHIG TIMES BAD,UDUG,UM,UM TIMES LAGAB,UM TIMES ME PLUS DA,UM TIMES SHA3",
      "UM TIMES U,UMBIN,UMUM,UMUM TIMES KASKAL,UMUM TIMES PA,UN,UN GUNU,UR,UR CROSSING UR",
      "UR SHESHIG,UR2"]⟩,
    ⟨0x1232c, "CUNEIFORM SIGN UR2 TIMES ", ["A PLUS HA,A PLUS NA,AL,HA,NUN,U2,U2 PLUS ASH",
      "U2 PLUS BI"]⟩,
    ⟨0x12334, "CUNEIFORM SIGN ", ["UR4,URI,URI3,URU"]⟩,
    ⟨0x12338, "CUNEIFORM SIGN URU TIMES ", ["A,ASHGAB,BAR,DUN,GA,GAL,GAN2 TENU,GAR,GU,HA,IGI,IM",
      "ISH,KI,LUM,MIN,PA,SHE,SIG4,TU,U PLUS GUD,UD,URUDA"]⟩,
    ⟨0x1234f, "CUNEIFORM SIGN ", ["URUDA,URUDA TIMES U,USH,USH TIMES A,USH TIMES KU",
      "USH TIMES KUR,USH TIMES TAK4,USHX,USH2,USHUMX,UTUKI,UZ3,UZ3 TIMES KASKAL,UZU,ZA",
      "ZA TENU,ZA SQUARED TIMES KUR,ZAG,ZAMX,ZE2,ZI,ZI OVER ZI,ZI3,ZIB,ZIB KABA TENU,ZIG,ZIZ2",
      "ZU,ZU5,ZU5 TIMES A,ZUBUR,ZUM,KAP ELAMITE,AB TIMES NUN,AB2 TIMES A,AMAR TIMES KUG",
      "DAG KISIM5 TIMES U2 PLUS MASH,DAG3,DISH PLUS SHU,DUB TIMES SHE,EZEN TIMES GUD",
      "EZEN TIMES SHE,GA2 TIMES AN PLUS KAK PLUS A,GA2 TIMES ASH2,GE22,GIG,HUSH"]⟩,
    ⟨0x1237e, "CUNEIFORM SIGN KA TIMES ", ["ANSHE,ASH3,GISH,GUD,HI TIMES ASH2,LUM,PA,SHUL,TU",
      "UR2"]⟩,
    ⟨0x12388, "CUNEIFORM SIGN ", ["LAGAB TIMES GI,LU2 SHESHIG TIMES BAD,LU2 TIMES ESH2 PLUS LAL",
      "LU2 TIMES SHU,MESH,MUSH3 TIMES ZA,NA4,NIN,NIN9,NINDA2 TIMES BAL,NINDA2 TIMES GI",
      "NU11 ROTATED NINETY DEGREES,PESH2 ASTERISK,PIR2,SAG TIMES IGI GUNU,TI2,UM TIMES ME,U U"]⟩,
    ⟨0x12400, "CUNEIFORM NUMERIC SIGN ", ["TWO ASH,THREE ASH,FOUR ASH,FIVE ASH,SIX ASH",
      "SEVEN ASH,EIGHT ASH,NINE ASH,THREE DISH,FOUR DISH,FIVE DISH,SIX DISH,SEVEN DISH",
      "EIGHT DISH,NINE DISH,FOUR U,FIVE U,SIX U,SEVEN U,EIGHT U,NINE U,ONE GESH2,TWO GESH2",
      "THREE GESH2,FOUR GESH2,FIVE GESH2,SIX GESH2,SEVEN GESH2,EIGHT GESH2,NINE GESH2",
      "ONE GESHU,TWO GESHU,THREE GESHU,FOUR GESHU,FIVE GESHU,TWO SHAR2,THREE SHAR2",
      "THREE SHAR2 VARIANT FORM,FOUR SHAR2,FIVE SHAR2,SIX SHAR2,SEVEN SHAR2,EIGHT SHAR2",
      "NINE SHAR2,ONE SHARU,TWO SHARU,THREE SHARU,THREE SHARU VARIANT FORM,FOUR SHARU",
      "FIVE SHARU,SHAR2 TIMES GAL PLUS DISH,SHAR2 TIMES GAL PLUS MIN,ONE BURU,TWO BURU",
      "THREE BURU,THREE BURU VARIANT FORM,FOUR BURU,FIVE BURU,THREE VARIANT FORM ESH16",
      "THREE VARIANT FORM ESH21,FOUR VARIANT FORM LIMMU,FOUR VARIANT FORM LIMMU4",
      "FOUR VARIANT FORM LIMMU A,FOUR VARIANT FORM LIMMU B,SIX VARIANT FORM ASH9",
      "SEVEN VARIANT FORM IMIN3,SEVEN VARIANT FORM IMIN A,SEVEN VARIANT FORM IMIN B",
      "EIGHT VARIANT FORM USSU,EIGHT VARIANT FORM USSU3,NINE VARIANT FORM ILIMMU",
      "NINE VARIANT FORM ILIMMU3,NINE VARIANT FORM ILIMMU4,NINE VARIANT FORM ILIMMU A",
      "TWO ASH TENU,THREE ASH TENU,FOUR ASH TENU,FIVE ASH TENU,SIX ASH TENU,ONE BAN2,TWO BAN2",
      "THREE BAN2,FOUR BAN2,FOUR BAN2 VARIANT FORM,FIVE BAN2,FIVE BAN2 VARIANT FORM,NIGIDAMIN",
      "NIGIDAESH,ONE ESHE3,TWO ESHE3,ONE THIRD DISH,TWO THIRDS DISH,FIVE SIXTHS DISH",
      "ONE THIRD VARIANT FORM A,TWO THIRDS VARIANT FORM A,ONE EIGHTH ASH,ONE QUARTER ASH",
      "OLD ASSYRIAN ONE SIXTH,OLD ASSYRIAN ONE QUARTER,ONE QUARTER GUR,ONE HALF GUR",
      "ELAMITE ONE THIRD,ELAMITE TWO THIRDS,ELAMITE FORTY,ELAMITE FIFTY,FOUR U VARIANT FORM",
      "FIVE U VARIANT FORM,SIX U VARIANT FORM,SEVEN U VARIANT FORM,EIGHT U VARIANT FORM",
      "NINE U VARIANT FORM"]⟩,
    ⟨0x12470, "CUNEIFORM PUNCTUATION SIGN ", ["OLD ASSYRIAN WORD DIVIDER,VERTICAL COLON",
      "DIAGONAL COLON,DIAGONAL TRICOLON,DIAGONAL QUADCOLON"]⟩,
    ⟨0x12480, "CUNEIFORM SIGN ", ["AB TIMES NUN TENU,AB TIMES SHU2,AD TIMES ESH2",
      "BAD TIMES DISH TENU,BAHAR2 TIMES AB2,BAHAR2 TIMES NI,BAHAR2 TIMES ZA",
      "BU OVER BU TIMES NA2,DA TIMES TAK4,DAG TIMES KUR,DIM TIMES IGI,DIM TIMES U U U",
      "DIM2 TIMES UD"]⟩,
    ⟨0x1248d, "CUNEIFORM SIGN DUG TIMES ", ["ANSHE,ASH,ASH AT LEFT,DIN,DUN,ERIN2,GA,GI",
      "GIR2 GUNU,GISH,HA,HI,IGI GUNU,KASKAL,KUR,KUSHU2,KUSHU2 PLUS KASKAL,LAK-020,LAM",
      "LAM TIMES KUR,LUH PLUS GISH,MASH,MES,MI,NI,PI,SHE,SI GUNU"]⟩,
    ⟨0x124a9, "CUNEIFORM SIGN ", ["E2 TIMES KUR,E2 TIMES PAP,ERIN2 X,ESH2 CROSSING ESH2"]⟩,
    ⟨0x124ad, "CUNEIFORM SIGN EZEN SHESHIG TIMES ", ["ASH,HI,IGI GUNU,LA,LAL,ME,MES,SU"]⟩,
    ⟨0x124b5, "CUNEIFORM SIGN EZEN TIMES ", ["SU"]⟩,
    ⟨0x124b6, "CUNEIFORM SIGN GA2 TIMES ", ["BAHAR2,DIM GUNU,DUG TIMES IGI GUNU",
      "DUG TIMES KASKAL,EREN,GA,GAR PLUS DI,GAR PLUS NE,HA PLUS A,KUSHU2 PLUS KASKAL,LAM",
      "LAM TIMES KUR,LUH,MUSH,NE,NE PLUS E2,NE PLUS GI,SHIM,ZIZ2"]⟩,
    ⟨0x124c9, "CUNEIFORM SIGN ", ["GABA ROTATED NINETY DEGREES,GESHTIN TIMES U",
      "GISH TIMES GISH CROSSING GISH,GU2 TIMES IGI GUNU,GUD PLUS GISH TIMES TAK4,HA TENU GUNU",
      "HI TIMES ASH OVER HI TIMES ASH,KA TIMES BU,KA TIMES KA,KA TIMES U U U,KA TIMES UR",
      "LAGAB TIMES ZU OVER ZU,LAK-003,LAK-021,LAK-025,LAK-030,LAK-050,LAK-051,LAK-062",
      "LAK-079 OVER LAK-079 GUNU,LAK-080,LAK-081 OVER LAK-081,LAK-092,LAK-130,LAK-142,LAK-210",
      "LAK-219,LAK-220,LAK-225,LAK-228,LAK-238,LAK-265,LAK-266,LAK-343,LAK-347,LAK-348",
      "LAK-383,LAK-384,LAK-390,LAK-441,LAK-449,LAK-449 TIMES GU,LAK-449 TIMES IGI",
      "LAK-449 TIMES PAP PLUS LU3,LAK-449 TIMES PAP PLUS PAP PLUS LU3",
      "LAK-449 TIMES U2 PLUS BA,LAK-450,LAK-457,LAK-470,LAK-483,LAK-490,LAK-492,LAK-493",
      "LAK-495,LAK-550,LAK-608,LAK-617"]⟩,
    ⟨0x12502, "CUNEIFORM SIGN LAK-617 TIMES ", ["ASH,BAD,DUN3 GUNU GUNU,KU3,LA,TAR,TE,U2,UD",
      "URUDA"]⟩,
    ⟨0x1250c, "CUNEIFORM SIGN ", ["LAK-636,LAK-648"]⟩,
    ⟨0x1250e, "CUNEIFORM SIGN LAK-648 TIMES ", ["DUB,GA,IGI,IGI GUNU,NI,PAP PLUS PAP PLUS LU3",
      "SHESH PLUS KI,UD,URUDA"]⟩,
    ⟨0x12517, "CUNEIFORM SIGN ", ["LAK-724,LAK-749,LU2 GUNU TIMES ASH,LU2 TIMES DISH",
      "LU2 TIMES HAL,LU2 TIMES PAP,LU2 TIMES PAP PLUS PAP PLUS LU3,LU2 TIMES TAK4,MI PLUS ZA7",
      "MUSH OVER MUSH TIMES GA,MUSH OVER MUSH TIMES KAK"]⟩,
    ⟨0x12522, "CUNEIFORM SIGN NINDA2 TIMES ", ["DIM GUNU,GISH,GUL,HI,KESH2,LAK-050,MASH",
      "PAP PLUS PAP,U,U PLUS U,URUDA"]⟩,
    ⟨0x1252d, "CUNEIFORM SIGN ", ["SAG GUNU TIMES HA,SAG TIMES EN,SAG TIMES SHE AT LEFT",
      "SAG TIMES TAK4,SHA6 TENU,SHE OVER SHE,SHE PLUS HUB2,SHE PLUS NAM2,SHE PLUS SAR",
      "SHU2 PLUS DUG TIMES NI,SHU2 PLUS E2 TIMES AN,SI TIMES TAK4,TAK4 PLUS SAG",
      "TUM TIMES GAN2 TENU,TUM TIMES THREE DISH,UR2 INVERTED,UR2 TIMES UD,URU TIMES DARA3",
      "URU TIMES LAK-668,URU TIMES LU3,ZA7,ZU OVER ZU PLUS SAR,ZU5 TIMES THREE DISH TENU"]⟩,
    ⟨0x12f90, "CYPRO-MINOAN SIGN ", ["CM001,CM002,CM004,CM005,CM006,CM007,CM008,CM009,CM010",
      "CM011,CM012,CM012B,CM013,CM015,CM017,CM019,CM021,CM023,CM024,CM025,CM026,CM027,CM028",
      "CM029,CM030,CM033,CM034,CM035,CM036,CM037,CM038,CM039,CM040,CM041,CM044,CM046,CM047",
      "CM049,CM050,CM051,CM052,CM053,CM054,CM055,CM056,CM058,CM059,CM060,CM061,CM062,CM063",
      "CM064,CM066,CM067,CM068,CM069,CM070,CM071,CM072,CM073,CM074,CM075,CM075B,CM076,CM078",
      "CM079,CM080,CM081,CM082,CM083,CM084,CM085,CM086,CM087,CM088,CM089,CM090,CM091,CM092",
      "CM094,CM095,CM096,CM097,CM098,CM099,CM100,CM101,CM102,CM103,CM104,CM105,CM107,CM108",
      "CM109,CM110,CM112,CM114,CM301,CM302"]⟩,
    ⟨0x13000, "EGYPTIAN HIEROGLYPH ", ["A001,A002,A003,A004,A005,A005A,A006,A006A,A006B,A007",
      "A008,A009,A010,A011,A012,A013,A014,A014A,A015,A016,A017,A017A,A018,A019,A020,A021,A022",
      "A023,A024,A025,A026,A027,A028,A029,A030,A031,A032,A032A,A033,A034,A035,A036,A037,A038",
      "A039,A040,A040A,A041,A042,A042A,A043,A043A,A044,A045,A045A,A046,A047,A048,A049,A050",
      "A051,A052,A053,A054,A055,A056,A057,A058,A059,A060,A061,A062,A063,A064,A065,A066,A067",
      "A068,A069,A070,B001,B002,B003,B004,B005,B005A,B006,B007,B008,B009,C001,C002,C002A",
      "C002B,C002C,C003,C004,C005,C006,C007,C008,C009,C010,C010A,C011,C012,C013,C014,C015",
      "C016,C017,C018,C019,C020,C021,C022,C023,C024,D001,D002,D003,D004,D005,D006,D007,D008",
      "D008A,D009,D010,D011,D012,D013,D014,D015,D016,D017,D018,D019,D020,D021,D022,D023,D024",
      "D025,D026,D027,D027A,D028,D029,D030,D031,D031A,D032,D033,D034,D034A,D035,D036,D037",
      "D038,D039,D040,D041,D042,D043,D044,D045,D046,D046A,D047,D048,D048A,D049,D050,D050A",
      "D050B,D050C,D050D,D050E,D050F,D050G,D050H,D050I,D051,D052,D052A,D053,D054,D054A,D055",
      "D056,D057,D058,D059,D060,D061,D062,D063,D064,D065,D066,D067,D067A,D067B,D067C,D067D",
      "D067E,D067F,D067G,D067H,E001,E002,E003,E004,E005,E006,E007,E008,E008A,E009,E009A,E010",
      "E011,E012,E013,E014,E015,E016,E016A,E017,E017A,E018,E019,E020,E020A,E021,E022,E023",
      "E024,E025,E026,E027,E028,E028A,E029,E030,E031,E032,E033,E034,E034A,E036,E037,E038,F001",
      "F001A,F002,F003,F004,F005,F006,F007,F008,F009,F010,F011,F012,F013,F013A,F014,F015,F016",
      "F017,F018,F019,F020,F021,F021A,F022,F023,F024,F025,F026,F027,F028,F029,F030,F031,F031A",
      "F032,F033,F034,F035,F036,F037,F037A,F038,F038A,F039,F040,F041,F042,F043,F044,F045",
      "F045A,F046,F046A,F047,F047A,F048,F049,F050,F051,F051A,F051B,F051C,F052,F053,G001,G002",
      "G003,G004,G005,G006,G006A,G007,G007A,G007B,G008,G009,G010,G011,G011A,G012,G013,G014",
      "G015,G016,G017,G018,G019,G020,G020A,G021,G022,G023,G024,G025,G026,G026A,G027,G028,G029",
      "G030,G031,G032,G033,G034,G035,G036,G036A,G037,G037A,G038,G039,G040,G041,G042,G043",
      "G043A,G044,G045,G045A,G046,G047,G048,G049,G050,G051,G052,G053,G054,H001,H002,H003,H004",
      "H005,H006,H006A,H007,H008,I001,I002,I003,I004,I005,I005A,I006,I007,I008,I009,I009A",
      "I010,I010A,I011,I011A,I012,I013,I014,I015,K001,K002,K003,K004,K005,K006,K007,K008,L001",
      "L002,L002A,L003,L004,L005,L006,L006A,L007,L008,M001,M001A,M001B,M002,M003,M003A,M004",
      "M005,M006,M007,M008,M009,M010,M010A,M011,M012,M012A,M012B,M012C,M012D,M012E,M012F",
      "M012G,M012H,M013,M014,M015,M015A,M016,M016A,M017,M017A,M018,M019,M020,M021,M022,M022A",
      "M023,M024,M024A,M025"]⟩,
    ⟨0x131d7, "EGYPTIAN HIEROGLYPH ", ["M026,M027,M028,M028A,M029,M030,M031,M031A,M032,M033",
      "M033A,M033B,M034,M035,M036,M037,M038,M039,M040,M040A,M041,M042,M043,M044,N001,N002",
      "N003,N004,N005,N006,N007,N008,N009,N010,N011,N012,N013,N014,N015,N016,N017,N018,N018A",
      "N018B,N019,N020,N021,N022,N023,N024,N025,N025A,N026,N027,N028,N029,N030,N031,N032,N033",
      "N033A,N034,N034A,N035,N035A,N036,N037,N037A,N038,N039,N040,N041,N042,NL001,NL002,NL003",
      "NL004,NL005,NL005A,NL006,NL007,NL008,NL009,NL010,NL011,NL012,NL013,NL014,NL015,NL016",
      "NL017,NL017A,NL018,NL019,NL020,NU001,NU002,NU003,NU004,NU005,NU006,NU007,NU008,NU009",
      "NU010,NU010A,NU011,NU011A,NU012,NU013,NU014,NU015,NU016,NU017,NU018,NU018A,NU019,NU020",
      "NU021,NU022,NU022A,O001,O001A,O002,O003,O004,O005,O005A,O006,O006A,O006B,O006C,O006D",
      "O006E,O006F,O007,O008,O009,O010,O010A,O010B,O010C,O011,O012,O013,O014,O015,O016,O017",
      "O018,O019,O019A,O020,O020A,O021,O022,O023,O024,O024A,O025,O025A,O026,O027,O028,O029",
      "O029A,O030,O030A,O031,O032,O033,O033A,O034,O035,O036,O036A,O036B,O036C,O036D,O037,O038",
      "O039,O040,O041,O042,O043,O044,O045,O046,O047,O048,O049,O050,O050A,O050B,O051,P001",
      "P001A,P002,P003,P003A,P004,P005,P006,P007,P008,P009,P010,P011,Q001,Q002,Q003,Q004,Q005",
      "Q006,Q007,R001,R002,R002A,R003,R003A,R003B,R004,R005,R006,R007,R008,R009,R010,R010A",
      "R011,R012,R013,R014,R015,R016,R016A,R017,R018,R019,R020,R021,R022,R023,R024,R025,R026",
      "R027,R028,R029,S001,S002,S002A,S003,S004,S005,S006,S006A,S007,S008,S009,S010,S011,S012",
      "S013,S014,S014A,S014B,S015,S016,S017,S017A,S018,S019,S020,S021,S022,S023,S024,S025",
      "S026,S026A,S026B,S027,S028,S029,S030,S031,S032,S033,S034,S035,S035A,S036,S037,S038",
      "S039,S040,S041,S042,S043,S044,S045,S046,T001,T002,T003,T003A,T004,T005,T006,T007,T007A",
      "T008,T008A,T009,T009A,T010,T011,T011A,T012,T013,T014,T015,T016,T016A,T017,T018,T019",
      "T020,T021,T022,T023,T024,T025,T026,T027,T028,T029,T030,T031,T032,T032A,T033,T033A,T034",
      "T035,T036,U001,U002,U003,U004,U005,U006,U006A,U006B,U007,U008,U009,U010,U011,U012,U013",
      "U014,U015,U016,U017,U018,U019,U020,U021,U022,U023,U023A,U024,U025,U026,U027,U028,U029",
      "U029A,U030,U031,U032,U032A,U033,U034,U035,U036,U037,U038,U039,U040,U041,U042,V001",
      "V001A,V001B,V001C,V001D,V001E,V001F,V001G,V001H,V001I,V002,V002A,V003,V004,V005,V006",
      "V007,V007A,V007B,V008,V009,V010,V011,V011A,V011B,V011C,V012,V012A,V012B,V013,V014,V015",
      "V016,V017,V018,V019,V020,V020A,V020B,V020C,V020D,V020E,V020F,V020G,V020H,V020I,V020J",
      "V020K,V020L,V021,V022,V023,V023A,V024,V025,V026,V027,V028,V028A,V029,V029A,V030,V030A",
      "V031,V031A,V032,V033,V033A,V034,V035,V036,V037,V037A,V038,V039,V040,V040A,W001,W002",
      "W003,W003A,W004,W005,W006,W007,W008,W009,W009A,W010,W010A,W011,W012,W013,W014,W014A",
      "W015,W016,W017,W017A,W018,W018A,W019,W020,W021,W022,W023,W024,W024A,W025,X001,X002",
      "X003,X004,X004A,X004B,X005,X006,X006A,X007,X008,X008A,Y001,Y001A,Y002,Y003,Y004,Y005",
      "Y006,Y007,Y008,Z001,Z002,Z002A,Z002B,Z002C,Z002D,Z003,Z003A,Z003B,Z004,Z004A,Z005",
      "Z005A,Z006,Z007,Z008,Z009,Z010,Z011,Z012,Z013,Z014,Z015,Z015A,Z015B,Z015C,Z015D,Z015E",
      "Z015F,Z015G,Z015H,Z015I,Z016,Z016A,Z016B,Z016C,Z016D,Z016E,Z016F,Z016G,Z016H,AA001",
      "AA002,AA003,AA004,AA005,AA006,AA007,AA007A,AA007B,AA008,AA009,AA010,AA011,AA012,AA013",
      "AA014,AA015,AA016,AA017,AA018,AA019,AA020,AA021,AA022,AA023,AA024,AA025,AA026,AA027",
      "AA028,AA029,AA030,AA031,AA032"]⟩,
    ⟨0x13430, "EGYPTIAN HIEROGLYPH ", ["VERTICAL JOINER,HORIZONTAL JOINER,INSERT AT TOP START",
      "INSERT AT BOTTOM START,INSERT AT TOP END,INSERT AT BOTTOM END,OVERLAY MIDDLE",
      "BEGIN SEGMENT,END SEGMENT"]⟩,
    ⟨0x14400, "ANATOLIAN HIEROGLYPH ", ["A001,A002,A003,A004,A005,A006,A007,A008,A009,A010",
      "A010A,A011,A012,A013,A014,A015,A016,A017,A018,A019,A020,A021,A022,A023,A024,A025,A026",
      "A026A,A027,A028,A029,A030,A031,A032,A033,A034,A035,A036,A037,A038,A039,A039A,A040,A041",
      "A041A,A042,A043,A044,A045,A045A,A046,A046A,A046B,A047,A048,A049,A050,A051,A052,A053",
      "A054,A055,A056,A057,A058,A059,A060,A061,A062,A063,A064,A065,A066,A066A,A066B,A066C",
      "A067,A068,A069,A070,A071,A072,A073,A074,A075,A076,A077,A078,A079,A080,A081,A082,A083",
      "A084,A085,A086,A087,A088,A089,A090,A091,A092,A093,A094,A095,A096,A097,A097A,A098,A098A",
      "A099,A100,A100A,A101,A101A,A102,A102A,A103,A104,A104A,A104B,A104C,A105,A105A,A105B",
      "A106,A107,A107A,A107B,A107C,A108,A109,A110,A110A,A110B,A111,A112,A113,A114,A115,A115A",
      "A116,A117,A118,A119,A120,A121,A122,A123,A124,A125,A125A,A126,A127,A128,A129,A130,A131",
      "A132,A133,A134,A135,A135A,A136,A137,A138,A139,A140,A141,A142,A143,A144,A145,A146,A147",
      "A148,A149,A150,A151,A152,A153,A154,A155,A156,A157,A158,A159,A160,A161,A162,A163,A164",
      "A165,A166,A167,A168,A169,A170,A171,A172,A173,A174,A175,A176,A177,A178,A179,A180,A181",
      "A182,A183,A184,A185,A186,A187,A188,A189,A190,A191,A192,A193,A194,A195,A196,A197,A198",
      "A199,A200,A201,A202,A202A,A202B,A203,A204,A205,A206,A207,A207A,A208,A209,A209A,A210",
      "A211,A212,A213,A214,A215,A215A,A216,A216A,A217,A218,A219,A220,A221,A222,A223,A224,A225",
      "A226,A227,A227A,A228,A229,A230,A231,A232,A233,A234,A235,A236,A237,A238,A239,A240,A241",
      "A242,A243,A244,A245,A246,A247,A248,A249,A250,A251,A252,A253,A254,A255,A256,A257,A258",
      "A259,A260,A261,A262,A263,A264,A265,A266,A267,A267A,A268,A269,A270,A271,A272,A273,A274",
      "A275,A276,A277,A278,A279,A280,A281,A282,A283,A284,A285,A286,A287,A288,A289,A289A,A290",
      "A291,A292,A293,A294,A294A,A295,A296,A297,A298,A299,A299A,A300,A301,A302,A303,A304,A305",
      "A306,A307,A308,A309,A309A,A310,A311,A312,A313,A314,A315,A316,A317,A318,A319,A320,A321",
      "A322,A323,A324,A325,A326,A327,A328,A329,A329A,A330,A331,A332A,A332B,A332C,A333,A334",
      "A335,A336,A336A,A336B,A336C,A337,A338,A339,A340,A341,A342,A343,A344,A345,A346,A347",
      "A348,A349,A350,A351,A352,A353,A354,A355,A356,A357,A358,A359,A359A,A360,A361,A362,A363",
      "A364,A364A,A365,A366,A367,A368,A368A,A369,A370,A371,A371A,A372,A373,A374,A375,A376",
      "A377,A378,A379,A380,A381,A381A,A382,A383 RA OR RI,A383A,A384,A385,A386,A386A,A387,A388",
      "A389,A390,A391,A392,A393 EIGHT,A394,A395,A396,A397,A398,A399,A400,A401,A402,A403,A404",
      "A405,A406,A407,A408,A409,A410 BEGIN LOGOGRAM MARK,A410A END LOGOGRAM MARK,A411,A412",
      "A413,A414,A415,A416,A417,A418,A419,A420,A421,A422,A423,A424,A425,A426,A427,A428,A429",
      "A430,A431,A432,A433,A434,A435,A436,A437,A438,A439,A440,A441,A442,A443,A444,A445,A446",
      "A447,A448,A449,A450,A450A,A451,A452,A453,A454,A455,A456,A457,A457A,A458,A459,A460,A461",
      "A462,A463,A464,A465,A466,A467,A468,A469,A470,A471,A472,A473,A474,A475,A476,A477,A478",
      "A479,A480,A481,A482,A483,A484,A485,A486,A487,A488,A489,A490,A491,A492,A493,A494,A495",
      "A496,A497,A501,A502,A503,A504,A505,A506,A507,A508,A509,A510,A511,A512,A513,A514,A515",
      "A516,A517,A518,A519,A520,A521,A522,A523,A524,A525,A526,A527,A528,A529,A530"]⟩,
    ⟨0x16800, "BAMUM LETTER PHASE-A ", ["NGKUE MFON,GBIEE FON,PON MFON PIPAEMGBIEE",
      "PON MFON PIPAEMBA,NAA MFON,SHUENSHUET,TITA MFON,NZA MFON,SHINDA PA NJI",
      "PON PA NJI PIPAEMGBIEE,PON PA NJI PIPAEMBA,MAEMBGBIEE,TU MAEMBA,NGANGU,MAEMVEUX",
      "MANSUAE,MVEUAENGAM,SEUNYAM,NTOQPEN,KEUKEUTNDA,NKINDI,SUU,NGKUENZEUM,LAPAQ,LET KUT",
      "NTAP MFAA,MAEKEUP,PASHAE,GHEUAERAE,PAMSHAE,MON NGGEUAET,NZUN MEUT,U YUQ NAE",
      "GHEUAEGHEUAE,NTAP NTAA,SISA,MGBASA,MEUNJOMNDEUQ,MOOMPUQ,KAFA,PA LEERAEWA,NDA LEERAEWA",
      "PET,MAEMKPEN,NIKA,PUP,TUAEP,LUAEP,SONJAM,TEUTEUWEN,MAENYI,KET,NDAANGGEUAET,KUOQ",
      "MOOMEUT,SHUM,LOMMAE,FIRI,ROM,KPOQ,SOQ,MAP PIEET,SHIRAE,NTAP,SHOQ NSHUT YUM",
      "NYIT MONGKEUAEQ,PAARAE,NKAARAE,UNKNOWN,NGGEN,MAESI,NJAM,MBANYI,NYET,TEUAEN,SOT,PAAM",
      "NSHIEE,MAEM,NYI,KAQ,NSHA,VEE,LU,NEN,NAQ,MBAQ"]⟩,
    ⟨0x16857, "BAMUM LETTER PHASE-B ", ["NSHUET,TU MAEMGBIEE,SIEE,SET TU,LOM NTEUM,MBA MAELEE",
      "KIEEM,YEURAE,MBAARAE,KAM,PEESHI,YAFU LEERAEWA,LAM NSHUT NYAM,NTIEE SHEUOQ,NDU NJAA",
      "GHEUGHEUAEM,PIT,TU NSIEE,SHET NJAQ,SHEUAEQTU,MFON TEUAEQ,MBIT MBAAKET,NYI NTEUM,KEUPUQ",
      "GHEUGHEN,KEUYEUX,LAANAE,PARUM,VEUM,NGKINDI MVOP,NGGEU MBU,WUAET,SAKEUAE,TAAM,MEUQ",
      "NGGUOQ,NGGUOQ LARGE,MFIYAQ,SUE,MBEURI,MONTIEEN,NYAEMAE,PUNGAAM,MEUT NGGEET,FEUX,MBUOQ",
      "FEE,KEUAEM,MA NJEUAENA,MA NJUQA,LET,NGGAAM,NSEN,MA,KIQ,NGOM"]⟩,
    ⟨0x1688f, "BAMUM LETTER PHASE-C ", ["NGKUE MAEMBA,NZA,YUM,WANGKUOQ,NGGEN,NDEUAEREE,NGKAQ",
      "GHARAE,MBEEKEET,GBAYI,NYIR MKPARAQ MEUN,NTU MBIT,MBEUM,PIRIEEN,NDOMBU",
      "MBAA CABBAGE-TREE,KEUSHEUAEP,GHAP,KEUKAQ,YU MUOMAE,NZEUM,MBUE,NSEUAEN,MBIT,YEUQ,KPARAQ",
      "KAA,SEUX,NDIDA,TAASHAE,NJUEQ,TITA YUE,SUAET,NGGUAEN NYAM,VEUX,NANSANAQ,MA KEUAERI,NTAA",
      "NGGUON,LAP,MBIRIEEN,MGBASAQ,NTEUNGBA,TEUTEUX,NGGUM,FUE,NDEUT,NSA,NSHAQ,BUNG,VEUAEPEN",
      "MBERAE,RU,NJAEM,LAM,TITUAEP,NSUOT NGOM,NJEEEE,KET,NGGU,MAESI,MBUAEM,LU,KUT,NJAM,NGOM",
      "WUP,NGGUEET,NSOM,NTEN,KUOP NKAARAE,NSUN,NDAM,MA NSIEE,YAA,NDAP,SHUEQ,SETFON,MBI,MAEMBA",
      "MBANYI,KEUSEUX,MBEUX,KEUM,MBAA PICKET,YUWOQ,NJEUX,MIEE,MUAE,SHIQ,KEN LAW,KEN FATIGUE",
      "NGAQ,NAQ,LIQ,PIN,PEN,TET"]⟩,
    ⟨0x168f1, "BAMUM LETTER PHASE-D ", ["MBUO,WAP,NJI,MFON,NJIEE,LIEE,NJEUT,NSHEE,NGGAAMAE,NYAM",
      "WUAEN,NGKUN,SHEE,NGKAP,KEUAETMEUN,TEUT,SHEUAE,NJAP,SUE,KET,YAEMMAE,KUOM,SAP,MFEUT",
      "NDEUX,MALEERI,MEUT,SEUAEQ,YEN,NJEUAEM,KEUOT MBUAE,NGKEURI,TU,GHAA,NGKYEE,FEUFEUAET",
      "NDEE,MGBOFUM,LEUAEP,NDON,MONI,MGBEUN,PUUT,MGBIEE,MFO,LUM,NSIEEP,MBAA,KWAET,NYET,TEUAEN",
      "SOT,YUWOQ,KEUM,RAEM,TEEEE,NGKEUAEQ,MFEUAE,NSIEET,KEUP,PIP,PEUTAE,NYUE,LET,NGGAAM,MFIEE",
      "NGGWAEN,YUOM,PAP,YUOP,NDAM,NTEUM,SUAE,KUN,NGGEUX,NGKIEE,TUOT,MEUN,KUQ,NSUM,TEUN",
      "MAENJET,NGGAP,LEUM,NGGUOM,NSHUT,NJUEQ,GHEUAE,KU,REN OLD,TAE,TOQ,NYI,RII,LEEEE,MEEEE,M",
      "SUU,MU,SHII,SHEUX,KYEE,NU,SHU,NTEE,PEE,NI,SHOQ,PUQ,MVOP,LOQ,REN MUCH,TI,NTUU",
      "MBAA SEVEN,SAQ,FAA"]⟩,
    ⟨0x16966, "BAMUM LETTER PHASE-E ", ["NDAP,TOON,MBEUM,LAP,VOM,LOON,PAA,SOM,RAQ,NSHUOP,NDUN",
      "PUAE,TAM,NGKA,KPEUX,WUO,SEE,NGGEUAET,PAAM,TOO,KUOP,LOM,NSHIEE,NGOP,MAEM,NGKEUX,NGOQ",
      "NSHUE,RIMGBA,NJEUX,PEEM,SAA,NGGURAE,MGBA,GHEUX,NGKEUAEM,NJAEMLI,MAP,LOOT,NGGEEEE,NDIQ",
      "TAEN NTEUM,SET,PUM,NDAA SOFTNESS,NGGUAESHAE NYAM,YIEE,GHEUN,TUAE,YEUAE,PO,TUMAE,KEUAE",
      "SUAEN,TEUAEQ,VEUAE,WEUX,LAAM,PU,TAAQ,GHAAMAE,NGEUREUT,SHEUAEQ,MGBEN,MBEE,NZAQ,NKOM",
      "GBET,TUM,KUET,YAP,NYI CLEAVER,YIT,MFEUQ,NDIAQ,PIEEQ,YUEQ,LEUAEM,FUE,GBEUX,NGKUP,KET",
      "MAE,NGKAAMI,GHET,FA,NTUM,PEUT,YEUM,NGGEUAE,NYI BETWEEN,NZUQ,POON,MIEE,FUET,NAE,MUAE",
      "GHEUAE,FU I,MVI,PUAQ,NGKUM,KUT,PIET,NTAP,YEUAET,NGGUP,PA PEOPLE,FU CALL,FOM,NJEE,A,TOQ",
      "O,I,LAQ,PA PLURAL,TAA,TAQ,NDAA MY HOUSE,SHIQ,YEUX,NGUAE,YUAEN,YOQ SWIMMING,YOQ COVER",
      "YUQ,YUN,KEUX,PEUX,NJEE EPOCH,PUE,WUE,FEE,VEE,LU,MI,REUX,RAE,NGUAET,NGA,SHO,SHOQ",
      "FU REMEDY,NA,PI,LOQ,KO,MEN,MA,MAQ,TEU,KI,MON,TEN,FAQ,GHOM"]⟩,
    ⟨0x16a03, "BAMUM LETTER PHASE-F ", ["KA,U,KU,EE,REE,TAE,NYI,LA,RII,RIEE,MEEEE,TAA,NDAA",
      "NJAEM,M,SUU,SHII,SI,SEUX,KYEE,KET,NUAE,NU,NJUAE,YOQ,SHU,YA,NSHA,PEUX,NTEE,WUE,PEE,RU",
      "NI,REUX,KEN,NGKWAEN,NGGA,SHO,PUAE,FOM,WA,LI,LOQ,KO,MBEN,REN,MA,MO,MBAA,TET,KPA,SAMBA",
      "VUEQ"]⟩,
    ⟨0x16a40, "MRO LETTER ", ["TA,NGI,YO,MIM,BA,DA,A,PHI,KHAI,HAO,DAI,CHU,KEAAE,OL,MAEM,NIN,PA",
      "OO,O,RO,SHI,THEA,EA,WA,E,KO,LAN,LA,HAI,RI,TEK"]⟩,
    ⟨0x16a60, "MRO DIGIT ", ["ZERO,ONE,TWO,THREE,FOUR,FIVE,SIX,SEVEN,EIGHT,NINE"]⟩,
    ⟨0x16a6e, "MRO ", ["DANDA,DOUBLE DANDA"]⟩,
    ⟨0x16a70, "TANGSA LETTER ", ["OZ,OC,OQ,OX,AZ,AC,AQ,AX,VZ,VC,VQ,VX,EZ,EC,EQ,EX,IZ,IC,IQ,IX",
      "UZ,UC,UQ,UX,AWZ,AWC,AWQ,AWX,UIZ,UIC,UIQ,UIX,FINAL NG,LONG UEX,SHORT UEZ,SHORT AWX,UEC",
      "UEZ,UEQ,UEX,UIUZ,UIUC,UIUQ,UIUX,MZ,MC,MQ,MX,KA,KHA,GA,NGA,SA,YA,WA,PA,NYA,PHA,BA,MA,NA",
      "HA,LA,HTA,TA,DA,RA,NHA,SHA,CA,TSA,GHA,HTTA,THA,XA,FA,DHA,CHA,ZA"]⟩,
    ⟨0x16ac0, "TANGSA DIGIT ", ["ZERO,ONE,TWO,THREE,FOUR,FIVE,SIX,SEVEN,EIGHT,NINE"]⟩,
    ⟨0x16ad0, "BASSA VAH LETTER ", ["ENNI,KA,SE,FA,MBE,YIE,GAH,DHII,KPAH,JO,HWAH,WA,ZO,GBU,DO",
      "CE,UWU,TO,BA,VU,YEIN,PA,WADDA,A,O,OO,U,EE,E,I"]⟩,
    ⟨0x16af0, "BASSA VAH COMBINING ", ["HIGH TONE,LOW TONE,MID TONE,LOW-MID TONE,HIGH-LOW TONE"]⟩,
    ⟨0x16af5, "BASSA VAH FULL ", ["STOP"]⟩,
    ⟨0x16b00, "PAHAWH HMONG VOWEL ", ["KEEB,KEEV,KIB,KIV,KAUB,KAUV,KUB,KUV,KEB,KEV,KAIB,KAIV",
      "KOOB,KOOV,KAWB,KAWV,KUAB,KUAV,KOB,KOV,KIAB,KIAV,KAB,KAV,KWB,KWV,KAAB,KAAV"]⟩,
    ⟨0x16b1c, "PAHAWH HMONG CONSONANT ", ["VAU,NTSAU,LAU,HAU,NLAU,RAU,NKAU,QHAU,YAU,HLAU,MAU",
      "CHAU,NCHAU,HNAU,PLHAU,NTHAU,NAU,AU,XAU,CAU"]⟩,
    ⟨0x16b30, "PAHAWH HMONG MARK CIM ", ["TUB,SO,KES,KHAV,SUAM,HOM,TAUM"]⟩,
    ⟨0x16b37, "PAHAWH HMONG SIGN ", ["VOS THOM,VOS TSHAB CEEB,CIM CHEEM,VOS THIAB,VOS FEEM",
      "XYEEM NTXIV,XYEEM RHO,XYEEM TOV,XYEEM FAIB,VOS SEEV,MEEJ SUAB,VOS NRUA,IB YAM,XAUS",
      "CIM TSOV ROG"]⟩,
    ⟨0x16b50, "PAHAWH HMONG DIGIT ", ["ZERO,ONE,TWO,THREE,FOUR,FIVE,SIX,SEVEN,EIGHT,NINE"]⟩,
    ⟨0x16b5b, "PAHAWH HMONG NUMBER ", ["TENS,HUNDREDS,TEN THOUSANDS,MILLIONS,HUNDRED MILLIONS",
      "TEN BILLIONS,TRILLIONS"]⟩,
    ⟨0x16b63, "PAHAWH HMONG SIGN ", ["VOS LUB,XYOO,HLI,THIRD-STAGE HLI,ZWJ THAJ,HNUB,NQIG,XIAB",
      "NTUJ,AV,TXHEEJ CEEV,MEEJ TSEEB,TAU,LOS,MUS,CIM HAIS LUS NTOG NTOG,CIM CUAM TSHOOJ",
      "CIM TXWV,CIM TXWV CHWV,CIM PUB DAWB,CIM NRES TOS"]⟩,
    ⟨0x16b7d, "PAHAWH HMONG CLAN SIGN ", ["TSHEEJ,YEEG,LIS,LAUJ,XYOOJ,KOO,HAWJ,MUAS,THOJ,TSAB",
      "PHAB,KHAB,HAM,VAJ,FAJ,YAJ,TSWB,KWM,VWJ"]⟩,
    ⟨0x16e40, "MEDEFAIDRIN CAPITAL LETTER ", ["M,S,V,W,ATIU,Z,KP,P,T,G,F,I,K,A,J,E,B,C,U,YU,L,Q",
      "HP,NY,X,D,OE,N,R,O,AI,Y"]⟩,
    ⟨0x16e60, "MEDEFAIDRIN SMALL LETTER ", ["M,S,V,W,ATIU,Z,KP,P,T,G,F,I,K,A,J,E,B,C,U,YU,L,Q",
      "HP,NY,X,D,OE,N,R,O,AI,Y"]⟩,
    ⟨0x16e80, "MEDEFAIDRIN DIGIT ", ["ZERO,ONE,TWO,THREE,FOUR,FIVE,SIX,SEVEN,EIGHT,NINE"]⟩,
    ⟨0x16e8a, "MEDEFAIDRIN NUMBER ", ["TEN,ELEVEN,TWELVE,THIRTEEN,FOURTEEN,FIFTEEN,SIXTEEN",
      "SEVENTEEN,EIGHTEEN,NINETEEN"]⟩,
    ⟨0x16e94, "MEDEFAIDRIN ", ["DIGIT ONE ALTERNATE FORM,DIGIT TWO ALTERNATE FORM",
      "DIGIT THREE ALTERNATE FORM,COMMA,FULL STOP,SYMBOL AIVA,EXCLAMATION OH"]⟩,
    ⟨0x16f00, "MIAO LETTER ", ["PA,BA,YI PA,PLA,MA,MHA,ARCHAIC MA,FA,VA,VFA,TA,DA,YI TTA,YI TA",
      "TTA,DDA,NA,NHA,YI NNA,ARCHAIC NA,NNA,NNHA,LA,LYA,LHA,LHYA,TLHA,DLHA,TLHYA,DLHYA,KA,GA",
      "YI KA,QA,QGA,NGA,NGHA,ARCHAIC NGA,HA,XA,GHA,GHHA,TSSA,DZZA,NYA,NYHA,TSHA,DZHA,YI TSHA",
      "YI DZHA,REFORMED TSHA,SHA,SSA,ZHA,ZSHA,TSA,DZA,YI TSA,SA,ZA,ZSA,ZZA,ZZSA,ARCHAIC ZZA",
      "ZZYA,ZZSYA,WA,AH,HHA,BRI,SYI,DZYI,TE,TSE,RTE"]⟩,
    ⟨0x16f4f, "MIAO ", ["SIGN CONSONANT MODIFIER BAR,LETTER NASALIZATION,SIGN ASPIRATION",
      "SIGN REFORMED VOICING,SIGN REFORMED ASPIRATION"]⟩,
    ⟨0x16f54, "MIAO VOWEL SIGN ", ["A,AA,AHH,AN,ANG,O,OO,WO,W,E,EN,ENG,OEY,I,IA,IAN,IANG,IO,IE",
      "II,IU,ING,U,UA,UAN,UANG,UU,UEI,UNG,Y,YI,AE,AEE,ERR,ROUNDED ERR,ER,ROUNDED ER,AI,EI,AU",
      "OU,N,NG,UOG,YUI,OG,OER,VW,IG,EA,IONG,UI"]⟩,
    ⟨0x16f8f, "MIAO TONE ", ["RIGHT,TOP RIGHT,ABOVE,BELOW"]⟩,
    ⟨0x16f93, "MIAO LETTER ", ["TONE-2,TONE-3,TONE-4,TONE-5,TONE-6,TONE-7,TONE-8"]⟩,
    ⟨0x16f9a, "MIAO LETTER REFORMED ", ["TONE-1,TONE-2,TONE-4,TONE-5,TONE-6,TONE-8"]⟩,
    ⟨0x16fe0, "", ["TANGUT ITERATION MARK,NUSHU ITERATION MARK,OLD CHINESE HOOK MARK",
      "OLD CHINESE ITERATION MARK,KHITAN SMALL SCRIPT FILLER"]⟩,
    ⟨0x16ff0, "VIETNAMESE ALTERNATE READING MARK ", ["CA,NHAY"]⟩,
    ⟨0x18800, "TANGUT ", ["COMPONENT-001,COMPONENT-002,COMPONENT-003,COMPONENT-004",
      "COMPONENT-005,COMPONENT-006,COMPONENT-007,COMPONENT-008,COMPONENT-009,COMPONENT-010",
      "COMPONENT-011,COMPONENT-012,COMPONENT-013,COMPONENT-014,COMPONENT-015,COMPONENT-016",
      "COMPONENT-017,COMPONENT-018,COMPONENT-019,COMPONENT-020,COMPONENT-021,COMPONENT-022",
      "COMPONENT-023,COMPONENT-024,COMPONENT-025,COMPONENT-026,COMPONENT-027,COMPONENT-028",
      "COMPONENT-029,COMPONENT-030,COMPONENT-031,COMPONENT-032,COMPONENT-033,COMPONENT-034",
      "COMPONENT-035,COMPONENT-036,COMPONENT-037,COMPONENT-038,COMPONENT-039,COMPONENT-040",
      "COMPONENT-041,COMPONENT-042,COMPONENT-043,COMPONENT-044,COMPONENT-045,COMPONENT-046",
      "COMPONENT-047,COMPONENT-048,COMPONENT-049,COMPONENT-050,COMPONENT-051,COMPONENT-052",
      "COMPONENT-053,COMPONENT-054,COMPONENT-055,COMPONENT-056,COMPONENT-057,COMPONENT-058",
      "COMPONENT-059,COMPONENT-060,COMPONENT-061,COMPONENT-062,COMPONENT-063,COMPONENT-064",
      "COMPONENT-065,COMPONENT-066,COMPONENT-067,COMPONENT-068,COMPONENT-069,COMPONENT-070",
      "COMPONENT-071,COMPONENT-072,COMPONENT-073,COMPONENT-074,COMPONENT-075,COMPONENT-076",
      "COMPONENT-077,COMPONENT-078,COMPONENT-079,COMPONENT-080,COMPONENT-081,COMPONENT-082",
      "COMPONENT-083,COMPONENT-084,COMPONENT-085,COMPONENT-086,COMPONENT-087,COMPONENT-088",
      "COMPONENT-089,COMPONENT-090,COMPONENT-091,COMPONENT-092,COMPONENT-093,COMPONENT-094",
      "COMPONENT-095,COMPONENT-096,COMPONENT-097,COMPONENT-098,COMPONENT-099,COMPONENT-100",
      "COMPONENT-101,COMPONENT-102,COMPONENT-103,COMPONENT-104,COMPONENT-105,COMPONENT-106",
      "COMPONENT-107,COMPONENT-108,COMPONENT-109,COMPONENT-110,COMPONENT-111,COMPONENT-112",
      "COMPONENT-113,COMPONENT-114,COMPONENT-115,COMPONENT-116,COMPONENT-117,COMPONENT-118",
      "COMPONENT-119,COMPONENT-120,COMPONENT-121,COMPONENT-122,COMPONENT-123,COMPONENT-124",
      "COMPONENT-125,COMPONENT-126,COMPONENT-127,COMPONENT-128,COMPONENT-129,COMPONENT-130",
      "COMPONENT-131,COMPONENT-132,COMPONENT-133,COMPONENT-134,COMPONENT-135,COMPONENT-136",
      "COMPONENT-137,COMPONENT-138,COMPONENT-139,COMPONENT-140,COMPONENT-141,COMPONENT-142",
      "COMPONENT-143,COMPONENT-144,COMPONENT-145,COMPONENT-146,COMPONENT-147,COMPONENT-148",
      "COMPONENT-149,COMPONENT-150,COMPONENT-151,COMPONENT-152,COMPONENT-153,COMPONENT-154",
      "COMPONENT-155,COMPONENT-156,COMPONENT-157,COMPONENT-158,COMPONENT-159,COMPONENT-160",
      "COMPONENT-161,COMPONENT-162,COMPONENT-163,COMPONENT-164,COMPONENT-165,COMPONENT-166",
      "COMPONENT-167,COMPONENT-168"]⟩,
    ⟨0x188a8, "TANGUT ", ["COMPONENT-169,COMPONENT-170,COMPONENT-171,COMPONENT-172",
      "COMPONENT-173,COMPONENT-174,COMPONENT-175,COMPONENT-176,COMPONENT-177,COMPONENT-178",
      "COMPONENT-179,COMPONENT-180,COMPONENT-181,COMPONENT-182,COMPONENT-183,COMPONENT-184",
      "COMPONENT-185,COMPONENT-186,COMPONENT-187,COMPONENT-188,COMPONENT-189,COMPONENT-190",
      "COMPONENT-191,COMPONENT-192,COMPONENT-193,COMPONENT-194,COMPONENT-195,COMPONENT-196",
      "COMPONENT-197,COMPONENT-198,COMPONENT-199,COMPONENT-200,COMPONENT-201,COMPONENT-202",
      "COMPONENT-203,COMPONENT-204,COMPONENT-205,COMPONENT-206,COMPONENT-207,COMPONENT-208",
      "COMPONENT-209,COMPONENT-210,COMPONENT-211,COMPONENT-212,COMPONENT-213,COMPONENT-214",
      "COMPONENT-215,COMPONENT-216,COMPONENT-217,COMPONENT-218,COMPONENT-219,COMPONENT-220",
      "COMPONENT-221,COMPONENT-222,COMPONENT-223,COMPONENT-224,COMPONENT-225,COMPONENT-226",
      "COMPONENT-227,COMPONENT-228,COMPONENT-229,COMPONENT-230,COMPONENT-231,COMPONENT-232",
      "COMPONENT-233,COMPONENT-234,COMPONENT-235,COMPONENT-236,COMPONENT-237,COMPONENT-238",
      "COMPONENT-239,COMPONENT-240,COMPONENT-241,COMPONENT-242,COMPONENT-243,COMPONENT-244",
      "COMPONENT-245,COMPONENT-246,COMPONENT-247,COMPONENT-248,COMPONENT-249,COMPONENT-250",
      "COMPONENT-251,COMPONENT-252,COMPONENT-253,COMPONENT-254,COMPONENT-255,COMPONENT-256",
      "COMPONENT-257,COMPONENT-258,COMPONENT-259,COMPONENT-260,COMPONENT-261,COMPONENT-262",
      "COMPONENT-263,COMPONENT-264,COMPONENT-265,COMPONENT-266,COMPONENT-267,COMPONENT-268",
      "COMPONENT-269,COMPONENT-270,COMPONENT-271,COMPONENT-272,COMPONENT-273,COMPONENT-274",
      "COMPONENT-275,COMPONENT-276,COMPONENT-277,COMPONENT-278,COMPONENT-279,COMPONENT-280",
      "COMPONENT-281,COMPONENT-282,COMPONENT-283,COMPONENT-284,COMPONENT-285,COMPONENT-286",
      "COMPONENT-287,COMPONENT-288,COMPONENT-289,COMPONENT-290,COMPONENT-291,COMPONENT-292",
      "COMPONENT-293,COMPONENT-294,COMPONENT-295,COMPONENT-296,COMPONENT-297,COMPONENT-298",
      "COMPONENT-299,COMPONENT-300,COMPONENT-301,COMPONENT-302,COMPONENT-303,COMPONENT-304",
      "COMPONENT-305,COMPONENT-306,COMPONENT-307,COMPONENT-308,COMPONENT-309,COMPONENT-310",
      "COMPONENT-311,COMPONENT-312,COMPONENT-313,COMPONENT-314,COMPONENT-315,COMPONENT-316",
      "COMPONENT-317,COMPONENT-318,COMPONENT-319,COMPONENT-320,COMPONENT-321,COMPONENT-322",
      "COMPONENT-323,COMPONENT-324,COMPONENT-325,COMPONENT-326,COMPONENT-327,COMPONENT-328",
      "COMPONENT-329,COMPONENT-330,COMPONENT-331,COMPONENT-332,COMPONENT-333,COMPONENT-334",
      "COMPONENT-335,COMPONENT-336,COMPONENT-337,COMPONENT-338,COMPONENT-339,COMPONENT-340",
      "COMPONENT-341,COMPONENT-342,COMPONENT-343,COMPONENT-344,COMPONENT-345,COMPONENT-346",
      "COMPONENT-347,COMPONENT-348,COMPONENT-349,COMPONENT-350,COMPONENT-351,COMPONENT-352",
      "COMPONENT-353,COMPONENT-354,COMPONENT-355,COMPONENT-356,COMPONENT-357,COMPONENT-358",
      "COMPONENT-359,COMPONENT-360,COMPONENT-361,COMPONENT-362,COMPONENT-363,COMPONENT-364",
      "COMPONENT-365,COMPONENT-366,COMPONENT-367,COMPONENT-368,COMPONENT-369,COMPONENT-370",
      "COMPONENT-371,COMPONENT-372,COMPONENT-373,COMPONENT-374,COMPONENT-375,COMPONENT-376",
      "COMPONENT-377,COMPONENT-378,COMPONENT-379,COMPONENT-380,COMPONENT-381,COMPONENT-382",
      "COMPONENT-383,COMPONENT-384,COMPONENT-385,COMPONENT-386,COMPONENT-387,COMPONENT-388",
      "COMPONENT-389,COMPONENT-390,COMPONENT-391,COMPONENT-392,COMPONENT-393,COMPONENT-394",
      "COMPONENT-395,COMPONENT-396,COMPONENT-397,COMPONENT-398,COMPONENT-399,COMPONENT-400",
      "COMPONENT-401,COMPONENT-402,COMPONENT-403,COMPONENT-404,COMPONENT-405,COMPONENT-406",
      "COMPONENT-407,COMPONENT-408,COMPONENT-409,COMPONENT-410,COMPONENT-411,COMPONENT-412",
      "COMPONENT-413,COMPONENT-414,COMPONENT-415,COMPONENT-416,COMPONENT-417,COMPONENT-418",
      "COMPONENT-419,COMPONENT-420,COMPONENT-421,COMPONENT-422,COMPONENT-423,COMPONENT-424",
      "COMPONENT-425,COMPONENT-426,COMPONENT-427,COMPONENT-428,COMPONENT-429,COMPONENT-430",
      "COMPONENT-431,COMPONENT-432,COMPONENT-433,COMPONENT-434,COMPONENT-435,COMPONENT-436",
      "COMPONENT-437,COMPONENT-438,COMPONENT-439,COMPONENT-440,COMPONENT-441,COMPONENT-442",
      "COMPONENT-443,COMPONENT-444,COMPONENT-445,COMPONENT-446,COMPONENT-447,COMPONENT-448",
      "COMPONENT-449,COMPONENT-450,COMPONENT-451,COMPONENT-452,COMPONENT-453,COMPONENT-454",
      "COMPONENT-455,COMPONENT-456,COMPONENT-457,COMPONENT-458,COMPONENT-459,COMPONENT-460",
      "COMPONENT-461,COMPONENT-462,COMPONENT-463,COMPONENT-464,COMPONENT-465,COMPONENT-466",
      "COMPONENT-467,COMPONENT-468,COMPONENT-469,COMPONENT-470,COMPONENT-471,COMPONENT-472",
      "COMPONENT-473,COMPONENT-474,COMPONENT-475,COMPONENT-476,COMPONENT-477,COMPONENT-478",
      "COMPONENT-479,COMPONENT-480,COMPONENT-481,COMPONENT-482,COMPONENT-483,COMPONENT-484",
      "COMPONENT-485,COMPONENT-486,COMPONENT-487,COMPONENT-488,COMPONENT-489,COMPONENT-490",
      "COMPONENT-491,COMPONENT-492,COMPONENT-493,COMPONENT-494,COMPONENT-495,COMPONENT-496",
      "COMPONENT-497,COMPONENT-498,COMPONENT-499,COMPONENT-500,COMPONENT-501,COMPONENT-502",
      "COMPONENT-503,COMPONENT-504,COMPONENT-505,COMPONENT-506,COMPONENT-507,COMPONENT-508",
      "COMPONENT-509,COMPONENT-510,COMPONENT-511,COMPONENT-512,COMPONENT-513,COMPONENT-514",
      "COMPONENT-515,COMPONENT-516,COMPONENT-517,COMPONENT-518,COMPONENT-519,COMPONENT-520",
      "COMPONENT-521,COMPONENT-522,COMPONENT-523,COMPONENT-524,COMPONENT-525,COMPONENT-526",
      "COMPONENT-527,COMPONENT-528,COMPONENT-529,COMPONENT-530,COMPONENT-531,COMPONENT-532",
      "COMPONENT-533,COMPONENT-534,COMPONENT-535,COMPONENT-536,COMPONENT-537,COMPONENT-538",
      "COMPONENT-539,COMPONENT-540,COMPONENT-541,COMPONENT-542,COMPONENT-543,COMPONENT-544",
      "COMPONENT-545,COMPONENT-546,COMPONENT-547,COMPONENT-548,COMPONENT-549,COMPONENT-550",
      "COMPONENT-551,COMPONENT-552,COMPONENT-553,COMPONENT-554,COMPONENT-555,COMPONENT-556",
      "COMPONENT-557,COMPONENT-558,COMPONENT-559,COMPONENT-560,COMPONENT-561,COMPONENT-562",
      "COMPONENT-563,COMPONENT-564,COMPONENT-565,COMPONENT-566,COMPONENT-567,COMPONENT-568",
      "COMPONENT-569,COMPONENT-570,COMPONENT-571,COMPONENT-572,COMPONENT-573,COMPONENT-574",
      "COMPONENT-575,COMPONENT-576,COMPONENT-577,COMPONENT-578,COMPONENT-579,COMPONENT-580",
      "COMPONENT-581,COMPONENT-582,COMPONENT-583,COMPONENT-584,COMPONENT-585,COMPONENT-586",
      "COMPONENT-587,COMPONENT-588,COMPONENT-589,COMPONENT-590,COMPONENT-591,COMPONENT-592",
      "COMPONENT-593,COMPONENT-594,COMPONENT-595,COMPONENT-596,COMPONENT-597,COMPONENT-598",
      "COMPONENT-599,COMPONENT-600,COMPONENT-601,COMPONENT-602,COMPONENT-603,COMPONENT-604",
      "COMPONENT-605,COMPONENT-606,COMPONENT-607,COMPONENT-608,COMPONENT-609,COMPONENT-610",
      "COMPONENT-611,COMPONENT-612,COMPONENT-613,COMPONENT-614,COMPONENT-615,COMPONENT-616",
      "COMPONENT-617,COMPONENT-618,COMPONENT-619,COMPONENT-620,COMPONENT-621,COMPONENT-622",
      "COMPONENT-623,COMPONENT-624,COMPONENT-625,COMPONENT-626,COMPONENT-627,COMPONENT-628",
      "COMPONENT-629,COMPONENT-630,COMPONENT-631,COMPONENT-632,COMPONENT-633,COMPONENT-634",
      "COMPONENT-635,COMPONENT-636,COMPONENT-637,COMPONENT-638,COMPONENT-639,COMPONENT-640",
      "COMPONENT-641,COMPONENT-642,COMPONENT-643,COMPONENT-644,COMPONENT-645,COMPONENT-646",
      "COMPONENT-647,COMPONENT-648,COMPONENT-649,COMPONENT-650,COMPONENT-651,COMPONENT-652",
      "COMPONENT-653,COMPONENT-654,COMPONENT-655,COMPONENT-656,COMPONENT-657,COMPONENT-658",
      "COMPONENT-659,COMPONENT-660,COMPONENT-661,COMPONENT-662,COMPONENT-663,COMPONENT-664",
      "COMPONENT-665,COMPONENT-666,COMPONENT-667,COMPONENT-668,COMPONENT-669,COMPONENT-670",
      "COMPONENT-671,COMPONENT-672,COMPONENT-673,COMPONENT-674,COMPONENT-675,COMPONENT-676",
      "COMPONENT-677,COMPONENT-678,COMPONENT-679,COMPONENT-680,COMPONENT-681,COMPONENT-682",
      "COMPONENT-683,COMPONENT-684,COMPONENT-685,COMPONENT-686,COMPONENT-687,COMPONENT-688",
      "COMPONENT-689,COMPONENT-690,COMPONENT-691,COMPONENT-692,COMPONENT-693,COMPONENT-694",
      "COMPONENT-695,COMPONENT-696,COMPONENT-697,COMPONENT-698,COMPONENT-699,COMPONENT-700",
      "COMPONENT-701,COMPONENT-702,COMPONENT-703,COMPONENT-704,COMPONENT-705,COMPONENT-706",
      "COMPONENT-707,COMPONENT-708,COMPONENT-709,COMPONENT-710,COMPONENT-711,COMPONENT-712",
      "COMPONENT-713,COMPONENT-714,COMPONENT-715,COMPONENT-716,COMPONENT-717,COMPONENT-718",
      "COMPONENT-719,COMPONENT-720,COMPONENT-721,COMPONENT-722,COMPONENT-723,COMPONENT-724",
      "COMPONENT-725,COMPONENT-726,COMPONENT-727,COMPONENT-728,COMPONENT-729,COMPONENT-730",
      "COMPONENT-731,COMPONENT-732,COMPONENT-733,COMPONENT-734,COMPONENT-735,COMPONENT-736",
      "COMPONENT-737,COMPONENT-738,COMPONENT-739,COMPONENT-740,COMPONENT-741,COMPONENT-742",
      "COMPONENT-743,COMPONENT-744,COMPONENT-745,COMPONENT-746,COMPONENT-747,COMPONENT-748",
      "COMPONENT-749,COMPONENT-750,COMPONENT-751,COMPONENT-752,COMPONENT-753,COMPONENT-754",
      "COMPONENT-755,COMPONENT-756,COMPONENT-757,COMPONENT-758,COMPONENT-759,COMPONENT-760",
      "COMPONENT-761,COMPONENT-762,COMPONENT-763,COMPONENT-764,COMPONENT-765,COMPONENT-766",
      "COMPONENT-767,COMPONENT-768"]⟩,
    ⟨0x1aff0, "KATAKANA LETTER MINNAN ", ["TONE-2,TONE-3,TONE-4,TONE-5"]⟩,
    ⟨0x1aff5, "KATAKANA LETTER MINNAN ", ["TONE-7,TONE-8"]⟩,
    ⟨0x1aff7, "KATAKANA LETTER MINNAN NASALIZED ", ["TONE-1,TONE-2,TONE-3,TONE-4,TONE-5"]⟩,
    ⟨0x1affd, "KATAKANA LETTER MINNAN NASALIZED ", ["TONE-7,TONE-8"]⟩,
    ⟨0x1b000, "", ["KATAKANA LETTER ARCHAIC E,HIRAGANA LETTER ARCHAIC YE"]⟩,
    ⟨0x1b002, "HENTAIGANA LETTER ", ["A-1,A-2,A-3,A-WO,I-1,I-2,I-3,I-4,U-1,U-2,U-3,U-4,U-5,E-2",
      "E-3,E-4,E-5,E-6,O-1,O-2,O-3,KA-1,KA-2,KA-3,KA-4,KA-5,KA-6,KA-7,KA-8,KA-9,KA-10,KA-11",
      "KA-KE,KI-1,KI-2,KI-3,KI-4,KI-5,KI-6,KI-7,KI-8,KU-1,KU-2,KU-3,KU-4,KU-5,KU-6,KU-7,KE-1",
      "KE-2,KE-3,KE-4,KE-5,KE-6,KO-1,KO-2,KO-3,KO-KI,SA-1,SA-2,SA-3,SA-4,SA-5,SA-6,SA-7,SA-8",
      "SI-1,SI-2,SI-3,SI-4,SI-5,SI-6,SU-1,SU-2,SU-3,SU-4,SU-5,SU-6,SU-7,SU-8,SE-1,SE-2,SE-3",
      "SE-4,SE-5,SO-1,SO-2,SO-3,SO-4,SO-5,SO-6,SO-7,TA-1,TA-2,TA-3,TA-4,TI-1,TI-2,TI-3,TI-4",
      "TI-5,TI-6,TI-7,TU-1,TU-2,TU-3,TU-4,TU-TO,TE-1,TE-2,TE-3,TE-4,TE-5,TE-6,TE-7,TE-8,TE-9",
      "TO-1,TO-2,TO-3,TO-4,TO-5,TO-6,TO-RA,NA-1,NA-2,NA-3,NA-4,NA-5,NA-6,NA-7,NA-8,NA-9,NI-1",
      "NI-2,NI-3,NI-4,NI-5,NI-6,NI-7,NI-TE,NU-1,NU-2,NU-3,NE-1,NE-2,NE-3,NE-4,NE-5,NE-6,NE-KO",
      "NO-1,NO-2,NO-3,NO-4,NO-5,HA-1,HA-2,HA-3,HA-4,HA-5,HA-6,HA-7,HA-8,HA-9,HA-10,HA-11,HI-1",
      "HI-2,HI-3,HI-4,HI-5,HI-6,HI-7,HU-1,HU-2,HU-3,HE-1,HE-2,HE-3,HE-4,HE-5,HE-6,HE-7,HO-1",
      "HO-2,HO-3,HO-4,HO-5,HO-6,HO-7,HO-8,MA-1,MA-2,MA-3,MA-4,MA-5,MA-6,MA-7,MI-1,MI-2,MI-3",
      "MI-4,MI-5,MI-6,MI-7,MU-1,MU-2,MU-3,MU-4,ME-1,ME-2,ME-MA,MO-1,MO-2,MO-3,MO-4,MO-5,MO-6",
      "YA-1,YA-2,YA-3,YA-4,YA-5,YA-YO,YU-1,YU-2,YU-3,YU-4,YO-1,YO-2,YO-3,YO-4,YO-5,YO-6,RA-1",
      "RA-2,RA-3,RA-4,RI-1,RI-2,RI-3,RI-4,RI-5,RI-6,RI-7,RU-1,RU-2,RU-3,RU-4,RU-5,RU-6,RE-1",
      "RE-2,RE-3,RE-4,RO-1,RO-2,RO-3,RO-4,RO-5,RO-6,WA-1,WA-2,WA-3,WA-4,WA-5,WI-1,WI-2,WI-3",
      "WI-4,WI-5,WE-1,WE-2,WE-3,WE-4,WO-1,WO-2,WO-3,WO-4,WO-5,WO-6,WO-7,N-MU-MO-1,N-MU-MO-2"]⟩,
    ⟨0x1b11f, "HIRAGANA LETTER ARCHAIC ", ["WU"]⟩,
    ⟨0x1b120, "KATAKANA LETTER ARCHAIC ", ["YI,YE,WU"]⟩,
    ⟨0x1b150, "HIRAGANA LETTER SMALL ", ["WI,WE,WO"]⟩,
    ⟨0x1b164, "KATAKANA LETTER SMALL ", ["WI,WE,WO,N"]⟩,
    ⟨0x1bc00, "DUPLOYAN LETTER ", ["H,X,P,T,F,K,L,B,D,V,G,R,P N,D S,F N,K M,R S,TH,SLOAN DH,DH",
      "KK,SLOAN J,HL,LH,RH,M,N,J,S,M N,N M,J M,S J,M WITH DOT,N WITH DOT,J WITH DOT",
      "J WITH DOTS INSIDE AND ABOVE,S WITH DOT,S WITH DOT BELOW,M S,N S,J S,S S,M N S,N M S",
      "J M S,S J S,J S WITH DOT,J N,J N S,S T,S T R,S P,S P R,T S,T R S,W,WH,W R,S N,S M",
      "K R S,G R S,S K,S K R,A,SLOAN OW,OA,O,AOU,I,E,IE,SHORT I,UI,EE,SLOAN EH,ROMANIAN I",
      "SLOAN EE,LONG I,YE,U,EU,XW,U N,LONG U,ROMANIAN U,UH,SLOAN U,OOH,OW,OU,WA,WO,WI,WEI,WOW",
      "NASAL U,NASAL O,NASAL I,NASAL A,PERNIN AN,PERNIN AM,SLOAN EN,SLOAN AN,SLOAN ON",
      "VOCALIC M"]⟩,
    ⟨0x1bc70, "DUPLOYAN AFFIX ", ["LEFT HORIZONTAL SECANT,MID HORIZONTAL SECANT",
      "RIGHT HORIZONTAL SECANT,LOW VERTICAL SECANT,MID VERTICAL SECANT,HIGH VERTICAL SECANT"]⟩,
    ⟨0x1bc76, "DUPLOYAN AFFIX ATTACHED ", ["SECANT,LEFT-TO-RIGHT SECANT,TANGENT,TAIL,E HOOK",
      "I HOOK,TANGENT HOOK"]⟩,
    ⟨0x1bc80, "DUPLOYAN AFFIX HIGH ", ["ACUTE,TIGHT ACUTE,GRAVE,LONG GRAVE,DOT,CIRCLE,LINE,WAVE",
      "VERTICAL"]⟩,
    ⟨0x1bc90, "DUPLOYAN AFFIX LOW ", ["ACUTE,TIGHT ACUTE,GRAVE,LONG GRAVE,DOT,CIRCLE,LINE,WAVE",
      "VERTICAL,ARROW"]⟩,
    ⟨0x1bc9c, "DUPLOYAN ", ["SIGN O WITH CROSS,THICK LETTER SELECTOR,DOUBLE MARK",
      "PUNCTUATION CHINOOK FULL STOP"]⟩,
    ⟨0x1bca0, "SHORTHAND FORMAT ", ["LETTER OVERLAP,CONTINUING OVERLAP,DOWN STEP,UP STEP"]⟩,
    ⟨0x1cf00, "ZNAMENNY COMBINING MARK ", ["GORAZDO NIZKO S KRYZHEM ON LEFT",
      "NIZKO S KRYZHEM ON LEFT,TSATA ON LEFT,GORAZDO NIZKO ON LEFT,NIZKO ON LEFT",
      "SREDNE ON LEFT,MALO POVYSHE ON LEFT,POVYSHE ON LEFT,VYSOKO ON LEFT",
      "MALO POVYSHE S KHOKHLOM ON LEFT,POVYSHE S KHOKHLOM ON LEFT,VYSOKO S KHOKHLOM ON LEFT",
      "GORAZDO NIZKO S KRYZHEM ON RIGHT,NIZKO S KRYZHEM ON RIGHT,TSATA ON RIGHT",
      "GORAZDO NIZKO ON RIGHT,NIZKO ON RIGHT,SREDNE ON RIGHT,MALO POVYSHE ON RIGHT",
      "POVYSHE ON RIGHT,VYSOKO ON RIGHT,MALO POVYSHE S KHOKHLOM ON RIGHT",
      "POVYSHE S KHOKHLOM ON RIGHT,VYSOKO S KHOKHLOM ON RIGHT,TSATA S KRYZHEM",
      "MALO POVYSHE S KRYZHEM,STRANNO MALO POVYSHE,POVYSHE S KRYZHEM,POVYSHE STRANNO",
      "VYSOKO S KRYZHEM,MALO POVYSHE STRANNO,GORAZDO VYSOKO,ZELO,ON,RAVNO,TIKHAYA,BORZAYA",
      "UDARKA,PODVERTKA,LOMKA,KUPNAYA,KACHKA,ZEVOK,SKOBA,RAZSEKA,KRYZH ON LEFT"]⟩,
    ⟨0x1cf30, "ZNAMENNY COMBINING TONAL RANGE MARK ", ["MRACHNO,SVETLO,TRESVETLO"]⟩,
    ⟨0x1cf33, "ZNAMENNY COMBINING MARK ", ["ZADERZHKA,DEMESTVENNY ZADERZHKA,OTSECHKA,PODCHASHIE",
      "PODCHASHIE WITH VERTICAL STROKE,CHASHKA,CHASHKA POLNAYA,OBLACHKO,SOROCHYA NOZHKA",
      "TOCHKA,DVOETOCHIE"]⟩,
    ⟨0x1cf3e, "ZNAMENNY COMBINING ", ["ATTACHING VERTICAL OMET,MARK CURVED OMET,MARK KRYZH",
      "LOWER TONAL RANGE INDICATOR"]⟩,
    ⟨0x1cf42, "ZNAMENNY PRIZNAK MODIFIER ", ["LEVEL-2,LEVEL-3,DIRECTION FLIP,KRYZH,ROG"]⟩,
    ⟨0x1cf50, "ZNAMENNY NEUME ", ["KRYUK,KRYUK TIKHY,PARAKLIT,DVA V CHELNU,KLYUCH,ZANOZHEK",
      "STOPITSA,STOPITSA S OCHKOM,PEREVODKA,PEREVODKA NEPOSTOYANNAYA",
      "STOPITSA WITH SOROCHYA NOZHKA,CHELYUSTKA,PALKA,ZAPYATAYA"]⟩,
    ⟨0x1cf5e, "ZNAMENNY NEUME GOLUBCHIK ", ["BORZY,TIKHY,MRACHNY,SVETLY,TRESVETLY"]⟩,
    ⟨0x1cf63, "ZNAMENNY NEUME VRAKHIYA ", ["PROSTAYA,MRACHNAYA,SVETLAYA,TRESVETLAYA",
      "KLYUCHEVAYA PROSTAYA,KLYUCHEVAYA MRACHNAYA,KLYUCHEVAYA SVETLAYA", "KLYUCHEVAYA TRESVETLAYA"]⟩,
    ⟨0x1cf6b, "ZNAMENNY NEUME ", ["DOUBLE ZAPYATAYA,REVERSED CHELYUSTKA,DERBITSA,KHAMILO",
      "CHASHKA,PODCHASHIE,SKAMEYTSA MRACHNAYA,SKAMEYTSA SVETLAYA,SKAMEYTSA TRESVETLAYA",
      "SKAMEYTSA TIKHAYA,DEMESTVENNY KLYUCH,SKAMEYTSA KLYUCHEVAYA SVETLAYA",
      "SKAMEYTSA KLYUCHENEPOSTOYANNAYA,SKAMEYTSA KLYUCHEVAYA TIKHAYA"]⟩,
    ⟨0x1cf79, "ZNAMENNY NEUME SKAMEYTSA DVOECHELNAYA ", ["PROSTAYA,SVETLAYA,NEPOSTOYANNAYA",
      "KLYUCHEVAYA"]⟩,
    ⟨0x1cf7d, "ZNAMENNY NEUME ", ["SLOZHITIE,SLOZHITIE S ZAPYATOY,SLOZHITIE ZAKRYTOE",
      "SLOZHITIE S KRYZHEM,KRYZH,ROG,FITA,KOBYLA,ZMEYTSA,STATYA,STATYA S ZAPYATOY",
      "STATYA S KRYZHEM,STATYA S ZAPYATOY I KRYZHEM,STATYA S KRYZHEM I ZAPYATOY",
      "STATYA ZAKRYTAYA,STATYA ZAKRYTAYA S ZAPYATOY,STATYA S ROGOM,STATYA S DVUMYA ZAPYATYMI",
      "STATYA S ZAPYATOY I PODCHASHIEM,POLKULIZMY,STATYA NEPOSTOYANNAYA"]⟩,
    ⟨0x1cf92, "ZNAMENNY NEUME STRELA ", ["PROSTAYA,MRACHNOTIKHAYA,KRYZHEVAYA,POLUPOVODNAYA",
      "POVODNAYA,NEPOSTOYANNAYA,KLYUCHEPOVODNAYA,KLYUCHENEPOSTOYANNAYA,TIKHAYA PUTNAYA",
      "DVOECHELNAYA,DVOECHELNOKRYZHEVAYA,DVOECHELNOPOVODNAYA,DVOECHELNAYA KLYUCHEVAYA",
      "DVOECHELNOPOVODNAYA KLYUCHEVAYA,GROMNAYA WITH SINGLE ZAPYATAYA",
      "GROMOPOVODNAYA WITH SINGLE ZAPYATAYA,GROMNAYA,GROMOPOVODNAYA",
      "GROMOPOVODNAYA WITH DOUBLE ZAPYATAYA,GROMOKRYZHEVAYA,GROMOKRYZHEVAYA POVODNAYA"]⟩,
    ⟨0x1cfa7, "ZNAMENNY NEUME ", ["MECHIK,MECHIK POVODNY,MECHIK KLYUCHEVOY",
      "MECHIK KLYUCHEPOVODNY,MECHIK KLYUCHENEPOSTOYANNY,STRELA TRYASOGLASNAYA",
      "STRELA TRYASOPOVODNAYA,STRELA TRYASOSTRELNAYA,OSOKA,OSOKA SVETLAYA,OSOKA TRESVETLAYA",
      "OSOKA KRYUKOVAYA SVETLAYA,OSOKA KLYUCHEVAYA SVETLAYA,OSOKA KLYUCHEVAYA NEPOSTOYANNAYA",
      "STRELA KRYUKOVAYA"]⟩,
    ⟨0x1cfb6, "ZNAMENNY NEUME STRELA KRYUKOVAYA ", ["POVODNAYA,GROMNAYA WITH SINGLE ZAPYATAYA",
      "GROMOPOVODNAYA WITH SINGLE ZAPYATAYA,GROMNAYA,GROMOPOVODNAYA",
      "GROMOPOVODNAYA WITH DOUBLE ZAPYATAYA,GROMOKRYZHEVAYA,GROMOKRYZHEVAYA POVODNAYA,TRYASKA"]⟩,
    ⟨0x1cfbf, "ZNAMENNY NEUME ", ["KUFISMA,OBLAKO,DUDA,NEMKA,PAUK"]⟩]

end Obligations.Text.NameRun
