/-!
# Character names from A to C

The names of Unicode characters that start with the letters from A to C.
-/

namespace Montage.Text.Table

/-- Names of characters, where parentheses hold the ways to go on from one start and line
ends mean nothing. -/
def characterNamesAToB : String :=
"ABACUS,AC CURRENT,ACCORDION,ACCOUNT OF,ACK,ACKNOWLEDGE,ACTIVATE( ARABIC FORM SHAPING, SYMMETRIC
 SWAPPING),ACUTE( ACCENT, ANGLE),ADDRESSED TO THE SUBJECT,ADHESIVE BANDAGE,ADI SHAKTI,ADLAM( ALIF
 LENGTHENER, CAPITAL LETTER( ALIF, BA, BHE, CHI, DAALI, DHA, E, FA, GA, GBE, HA, I, JIIM, KAF,
 KHA, KPO, LAAM, MIIM, NHA, NUN, NYA, O, PE, QAAF, RA, SHA, SINNYIIYHE, TU, U, VA, WAW, YA, YHE,
 ZAL), CONSONANT MODIFIER, DIGIT( EIGHT, FIVE, FOUR, NINE, ONE, SEVEN, SIX, THREE, TWO, ZERO),
 GEMINATE CONSONANT MODIFIER, GEMINATION MARK, HAMZA, INITIAL( EXCLAMATION MARK, QUESTION MARK),
 NASALIZATION MARK, NUKTA, SMALL LETTER( ALIF, BA, BHE, CHI, DAALI, DHA, E, FA, GA, GBE, HA, I,
 JIIM, KAF, KHA, KPO, LAAM, MIIM, NHA, NUN, NYA, O, PE, QAAF, RA, SHA, SINNYIIYHE, TU, U, VA, WAW,
 YA, YHE, ZAL), VOWEL LENGTHENER),ADMETOS,ADMISSION TICKETS,ADULT,AEGEAN( CHECK MARK, DRY MEASURE
 FIRST SUBUNIT, LIQUID MEASURE FIRST SUBUNIT, MEASURE( SECOND SUBUNIT, THIRD SUBUNIT), NUMBER(
 EIGHT(, HUNDRED, THOUSAND), EIGHTY(, THOUSAND), FIFTY(, THOUSAND), FIVE(, HUNDRED, THOUSAND),
 FORTY(, THOUSAND), FOUR(, HUNDRED, THOUSAND), NINE(, HUNDRED, THOUSAND), NINETY(, THOUSAND), ONE(
, HUNDRED, THOUSAND), SEVEN(, HUNDRED, THOUSAND), SEVENTY(, THOUSAND), SIX(, HUNDRED, THOUSAND),
 SIXTY(, THOUSAND), TEN(, THOUSAND), THIRTY(, THOUSAND), THREE(, HUNDRED, THOUSAND), TWENTY(,
 THOUSAND), TWO(, HUNDRED, THOUSAND)), WEIGHT( BASE UNIT, FIRST SUBUNIT, FOURTH SUBUNIT, SECOND
 SUBUNIT, THIRD SUBUNIT), WORD SEPARATOR( DOT, LINE)),AERIAL TRAMWAY,AFGHANI SIGN,AHOM( CONSONANT
 SIGN MEDIAL( LA, LIGATING RA, RA), DIGIT( EIGHT, FIVE, FOUR, NINE, ONE, SEVEN, SIX, THREE, TWO,
 ZERO), LETTER( A, ALTERNATE( BA, GA, TA), BA, BHA, CA, CHA, DA, DDA, DDHA, DHA, GA, GHA, HA, JA,
 JHA, KA, KHA, LA, LLA, MA, NA, NGA, NNA, NYA, PA, PHA, RA, SA, TA, THA, TTA, TTHA), NUMBER( TEN,
 TWENTY), SIGN( KILLER, RULAI, SECTION, SMALL SECTION), SYMBOL VI, VOWEL SIGN( A, AA, AI, AM, AW,
 E, I, II, O, U, UU)),AIRPLANE(, ARRIVING, DEPARTURE),AKTIESELSKAB,ALARM CLOCK,ALCHEMICAL SYMBOL
 FOR( AIR, ALEMBIC, ALKALI(,-2), ALUM, AMALGAM, ANTIMONY ORE, AQUA( REGIA(,-2), VITAE(,-2)),
 AQUAFORTIS, ARSENIC, ASHES, AURIPIGMENT, BATH OF( MARY, VAPOURS), BISMUTH ORE, BLACK SULFUR,
 BORAX(,-2,-3), BRICK, CADUCEUS, CALX, CAPUT MORTUUM, CINNABAR, COPPER( ANTIMONIATE, ORE), CROCUS
 OF( COPPER(,-2), IRON), CRUCIBLE(,-2,-3,-4,-5), DAY-NIGHT, DISSOLVE(,-2), DISTILL, EARTH, FIRE,
 GOLD, GUM, HALF( DRAM, OUNCE), HORSE DUNG, HOUR, IRON( ORE(,-2),-COPPER ORE), LEAD ORE,
 LODESTONE, MARCASITE, MERCURY SUBLIMATE(,-2,-3), MONTH, NIGHT, NITRE, OIL, PHILOSOPHERS SULFUR,
 POT ASHES, POWDER, POWDERED BRICK, PRECIPITATE, PURIFY, PUTREFACTION, QUICK LIME, QUINTESSENCE,
 REALGAR(,-2), REGULUS(, OF( ANTIMONY(,-2), IRON),-2,-3,-4), RETORT, ROCK SALT(,-2), SAL-AMMONIAC,
 SALT(, OF( ANTIMONY, COPPER ANTIMONIATE)), SCEPTER OF JOVE, SILVER, SOAP, SPIRIT, STARRED
 TRIDENT, STRATUM SUPER STRATUM(,-2), SUBLIMATE OF( ANTIMONY, COPPER, SALT OF( ANTIMONY, COPPER)),
 SUBLIMATION, SULFUR, TARTAR(,-2), TIN ORE, TINCTURE, TRIDENT, TUTTY, URINE, VERDIGRIS, VINEGAR(,
 OF ANTIMONY,-2,-3), VITRIOL(,-2), WATER, WAX),ALEF SYMBOL,ALEMBIC,ALERT,ALIEN MONSTER,ALL(
 AROUND-PROFILE, EQUAL TO),ALM,ALMOST EQUAL( OR EQUAL TO, TO(, WITH CIRCUMFLEX ACCENT)),ALTERNATE
 ONE-WAY LEFT WAY TRAFFIC,ALTERNATIVE KEY SYMBOL,AMALGAMATION OR COPRODUCT,AMBULANCE,AMERICAN
 FOOTBALL,AMPERSAND,AMPHORA,ANATOLIAN HIEROGLYPH( A001, A002, A003, A004, A005, A006, A007, A008,
 A009, A010, A010A, A011, A012, A013, A014, A015, A016, A017, A018, A019, A020, A021, A022, A023,
 A024, A025, A026, A026A, A027, A028, A029, A030, A031, A032, A033, A034, A035, A036, A037, A038,
 A039, A039A, A040, A041, A041A, A042, A043, A044, A045, A045A, A046, A046A, A046B, A047, A048,
 A049, A050, A051, A052, A053, A054, A055, A056, A057, A058, A059, A060, A061, A062, A063, A064,
 A065, A066, A066A, A066B, A066C, A067, A068, A069, A070, A071, A072, A073, A074, A075, A076,
 A077, A078, A079, A080, A081, A082, A083, A084, A085, A086, A087, A088, A089, A090, A091, A092,
 A093, A094, A095, A096, A097, A097A, A098, A098A, A099, A100, A100A, A101, A101A, A102, A102A,
 A103, A104, A104A, A104B, A104C, A105, A105A, A105B, A106, A107, A107A, A107B, A107C, A108, A109,
 A110, A110A, A110B, A111, A112, A113, A114, A115, A115A, A116, A117, A118, A119, A120, A121,
 A122, A123, A124, A125, A125A, A126, A127, A128, A129, A130, A131, A132, A133, A134, A135, A135A,
 A136, A137, A138, A139, A140, A141, A142, A143, A144, A145, A146, A147, A148, A149, A150, A151,
 A152, A153, A154, A155, A156, A157, A158, A159, A160, A161, A162, A163, A164, A165, A166, A167,
 A168, A169, A170, A171, A172, A173, A174, A175, A176, A177, A178, A179, A180, A181, A182, A183,
 A184, A185, A186, A187, A188, A189, A190, A191, A192, A193, A194, A195, A196, A197, A198, A199,
 A200, A201, A202, A202A, A202B, A203, A204, A205, A206, A207, A207A, A208, A209, A209A, A210,
 A211, A212, A213, A214, A215, A215A, A216, A216A, A217, A218, A219, A220, A221, A222, A223, A224,
 A225, A226, A227, A227A, A228, A229, A230, A231, A232, A233, A234, A235, A236, A237, A238, A239,
 A240, A241, A242, A243, A244, A245, A246, A247, A248, A249, A250, A251, A252, A253, A254, A255,
 A256, A257, A258, A259, A260, A261, A262, A263, A264, A265, A266, A267, A267A, A268, A269, A270,
 A271, A272, A273, A274, A275, A276, A277, A278, A279, A280, A281, A282, A283, A284, A285, A286,
 A287, A288, A289, A289A, A290, A291, A292, A293, A294, A294A, A295, A296, A297, A298, A299,
 A299A, A300, A301, A302, A303, A304, A305, A306, A307, A308, A309, A309A, A310, A311, A312, A313,
 A314, A315, A316, A317, A318, A319, A320, A321, A322, A323, A324, A325, A326, A327, A328, A329,
 A329A, A330, A331, A332A, A332B, A332C, A333, A334, A335, A336, A336A, A336B, A336C, A337, A338,
 A339, A340, A341, A342, A343, A344, A345, A346, A347, A348, A349, A350, A351, A352, A353, A354,
 A355, A356, A357, A358, A359, A359A, A360, A361, A362, A363, A364, A364A, A365, A366, A367, A368,
 A368A, A369, A370, A371, A371A, A372, A373, A374, A375, A376, A377, A378, A379, A380, A381,
 A381A, A382, A383 RA OR RI, A383A, A384, A385, A386, A386A, A387, A388, A389, A390, A391, A392,
 A393 EIGHT, A394, A395, A396, A397, A398, A399, A400, A401, A402, A403, A404, A405, A406, A407,
 A408, A409, A410 BEGIN LOGOGRAM MARK, A410A END LOGOGRAM MARK, A411, A412, A413, A414, A415,
 A416, A417, A418, A419, A420, A421, A422, A423, A424, A425, A426, A427, A428, A429, A430, A431,
 A432, A433, A434, A435, A436, A437, A438, A439, A440, A441, A442, A443, A444, A445, A446, A447,
 A448, A449, A450, A450A, A451, A452, A453, A454, A455, A456, A457, A457A, A458, A459, A460, A461,
 A462, A463, A464, A465, A466, A467, A468, A469, A470, A471, A472, A473, A474, A475, A476, A477,
 A478, A479, A480, A481, A482, A483, A484, A485, A486, A487, A488, A489, A490, A491, A492, A493,
 A494, A495, A496, A497, A501, A502, A503, A504, A505, A506, A507, A508, A509, A510, A511, A512,
 A513, A514, A515, A516, A517, A518, A519, A520, A521, A522, A523, A524, A525, A526, A527, A528,
 A529, A530),ANATOMICAL HEART,ANCHOR,AND WITH DOT,ANGER SYMBOL,ANGLE(, WITH( S INSIDE, UNDERBAR)),
ANGRY FACE,ANGSTROM SIGN,ANGUISHED FACE,ANKH,ANT,ANTENNA WITH BARS,ANTICLOCKWISE( CLOSED CIRCLE
 ARROW, CONTOUR INTEGRAL, DOWNWARDS AND UPWARDS OPEN CIRCLE ARROWS, GAPPED CIRCLE ARROW,
 INTEGRATION, OPEN CIRCLE ARROW, TOP SEMICIRCLE ARROW, TRIANGLE-HEADED( BOTTOM U-SHAPED ARROW,
 LEFT U-SHAPED ARROW, OPEN CIRCLE ARROW, RIGHT U-SHAPED ARROW, TOP U-SHAPED ARROW)),APC,APL
 FUNCTIONAL SYMBOL( ALPHA(, UNDERBAR), BACKSLASH BAR, CIRCLE( BACKSLASH, DIAERESIS, JOT, STAR,
 STILE, UNDERBAR), COMMA BAR, DEL( DIAERESIS, STILE, TILDE), DELTA( STILE, UNDERBAR), DIAMOND
 UNDERBAR, DOWN( CARET TILDE, SHOE STILE, TACK( JOT, UNDERBAR)), DOWNWARDS VANE, EPSILON UNDERBAR,
 GREATER-THAN DIAERESIS, I-BEAM, IOTA(, UNDERBAR), JOT( DIAERESIS, UNDERBAR), LEFT SHOE STILE,
 LEFTWARDS VANE, OMEGA(, UNDERBAR), QUAD(, BACKSLASH, CIRCLE, COLON, DEL, DELTA, DIAMOND, DIVIDE,
 DOWN CARET, DOWNWARDS ARROW, EQUAL, GREATER-THAN, JOT, LEFTWARDS ARROW, LESS-THAN, NOT EQUAL,
 QUESTION, RIGHTWARDS ARROW, SLASH, UP CARET, UPWARDS ARROW), QUOTE( QUAD, UNDERBAR), RHO,
 RIGHTWARDS VANE, SEMICOLON UNDERBAR, SLASH BAR, SQUISH QUAD, STAR DIAERESIS, STILE TILDE, TILDE
 DIAERESIS, UP( CARET TILDE, SHOE JOT, TACK( DIAERESIS, JOT, OVERBAR)), UPWARDS VANE, ZILDE),
APOLLON,APOSTROPHE,APPLICATION PROGRAM COMMAND,APPROACHES THE LIMIT,APPROXIMATELY( BUT NOT
 ACTUALLY EQUAL TO, EQUAL( OR EQUAL TO, TO(, OR THE IMAGE OF))),AQUARIUS,ARABIC( BASELINE ROUND
 DOT, COMMA, CURLY( DAMMA, DAMMATAN, FATHA, FATHATAN, KASRA, KASRATAN), DAMMA(, ISOLATED FORM,
 MEDIAL FORM, WITH DOT), DAMMATAN(, ISOLATED FORM), DATE SEPARATOR, DECIMAL SEPARATOR, DISPUTED
 END OF AYAH, DOUBLE RIGHT ARROWHEAD ABOVE(, WITH DOT), DOUBLED MADDA, EMPTY CENTRE( HIGH STOP,
 LOW STOP), END OF( AYAH, TEXT MARK), FATHA(, ISOLATED FORM, MEDIAL FORM, WITH( DOT ABOVE, RING,
 TWO DOTS)), FATHATAN(, ISOLATED FORM), FIVE POINTED STAR, FOOTNOTE MARKER, FULL STOP, HALF MADDA
 OVER MADDA, HAMZA( ABOVE, BELOW), INVERTED DAMMA, KASRA(, ISOLATED FORM, MEDIAL FORM, WITH DOT
 BELOW), KASRATAN(, ISOLATED FORM), LARGE( CIRCLE BELOW, ROUND DOT( ABOVE, BELOW, INSIDE CIRCLE
 BELOW)), LEFT ARROWHEAD( ABOVE, BELOW), LETTER( AE, AFRICAN( FEH, NOON, QAF(, WITH THREE DOTS
 ABOVE)), AIN(, FINAL FORM, INITIAL FORM, ISOLATED FORM, MEDIAL FORM, WITH( THREE DOTS( ABOVE,
 BELOW, POINTING DOWNWARDS ABOVE), TWO DOTS( ABOVE, VERTICALLY ABOVE))), ALEF(, FINAL FORM,
 ISOLATED FORM, MAKSURA(, FINAL FORM, ISOLATED FORM), WASLA(, FINAL FORM, ISOLATED FORM), WITH(
 ATTACHED( BOTTOM RIGHT KASRA(, AND( DOT ABOVE, LEFT RING)), FATHA, KASRA, LEFT( HAMZA, ROUND
 DOT), RIGHT( HAMZA, ROUND DOT), ROUND DOT( ABOVE, BELOW), TOP RIGHT FATHA(, AND( DOT ABOVE, LEFT
 RING))), DOT ABOVE, EXTENDED ARABIC-INDIC DIGIT( THREE ABOVE, TWO ABOVE), HAMZA( ABOVE(, FINAL
 FORM, ISOLATED FORM), BELOW(, FINAL FORM, ISOLATED FORM)), LEFT MIDDLE STROKE, MADDA ABOVE(,
 FINAL FORM, ISOLATED FORM), RIGHT MIDDLE STROKE(, AND( DOT ABOVE, LEFT RING)), WAVY HAMZA( ABOVE,
 BELOW))), BEEH(, FINAL FORM, INITIAL FORM, ISOLATED FORM, MEDIAL FORM), BEH(, FINAL FORM,
 INITIAL FORM, ISOLATED FORM, MEDIAL FORM, WITH( DOT BELOW AND THREE DOTS ABOVE, HAMZA ABOVE,
 INVERTED SMALL V BELOW, SMALL( MEEM ABOVE, V, V BELOW), THREE DOTS( HORIZONTALLY BELOW, POINTING
 UPWARDS BELOW(, AND TWO DOTS ABOVE)), TWO DOTS BELOW AND DOT ABOVE)), BEHEH(, FINAL FORM,
 INITIAL FORM, ISOLATED FORM, MEDIAL FORM), DAD(, FINAL FORM, INITIAL FORM, ISOLATED FORM, MEDIAL
 FORM, WITH DOT BELOW), DAHAL(, FINAL FORM, ISOLATED FORM), DAL(, FINAL FORM, ISOLATED FORM, WITH(
 DOT BELOW(, AND SMALL TAH), FOUR DOTS ABOVE, INVERTED( SMALL V BELOW, V), RING, THREE DOTS(
 ABOVE DOWNWARDS, BELOW), TWO DOTS VERTICALLY BELOW AND SMALL TAH)), DDAHAL(, FINAL FORM,
 ISOLATED FORM), DDAL(, FINAL FORM, ISOLATED FORM), DOTLESS( BEH, FEH, QAF), DUL(, FINAL FORM,
 ISOLATED FORM), DYEH(, FINAL FORM, INITIAL FORM, ISOLATED FORM, MEDIAL FORM), E(, FINAL FORM,
 INITIAL FORM, ISOLATED FORM, MEDIAL FORM), FARSI YEH(, FINAL FORM, INITIAL FORM, ISOLATED FORM,
 MEDIAL FORM, WITH( EXTENDED ARABIC-INDIC DIGIT( FOUR BELOW, THREE ABOVE, TWO ABOVE), INVERTED V,
 THREE DOTS ABOVE, TWO DOTS ABOVE)), FEH(, FINAL FORM, INITIAL FORM, ISOLATED FORM, MEDIAL FORM,
 WITH( DOT( BELOW(, AND THREE DOTS ABOVE), MOVED BELOW), THREE DOTS( BELOW, POINTING UPWARDS
 BELOW), TWO DOTS BELOW)), GAF(, FINAL FORM, INITIAL FORM, ISOLATED FORM, MEDIAL FORM, WITH(
 INVERTED STROKE, RING, THREE DOTS ABOVE, TWO DOTS BELOW)), GHAIN(, FINAL FORM, INITIAL FORM,
 ISOLATED FORM, MEDIAL FORM, WITH( DOT BELOW, THREE DOTS ABOVE)), GRAF, GUEH(, FINAL FORM,
 INITIAL FORM, ISOLATED FORM, MEDIAL FORM), HAH(, FINAL FORM, INITIAL FORM, ISOLATED FORM, MEDIAL
 FORM, WITH( EXTENDED ARABIC-INDIC DIGIT FOUR BELOW, HAMZA ABOVE, INVERTED SMALL V BELOW, SMALL
 ARABIC LETTER TAH( ABOVE, AND TWO DOTS, BELOW), THREE DOTS( ABOVE, POINTING UPWARDS BELOW), TWO
 DOTS( ABOVE, VERTICAL ABOVE))), HAMZA(, ISOLATED FORM), HEH(, DOACHASHMEE(, FINAL FORM, INITIAL
 FORM, ISOLATED FORM, MEDIAL FORM), FINAL FORM, GOAL(, FINAL FORM, INITIAL FORM, ISOLATED FORM,
 MEDIAL FORM, WITH HAMZA ABOVE), INITIAL FORM, ISOLATED FORM, MEDIAL FORM, WITH( INVERTED V, YEH
 ABOVE(, FINAL FORM, ISOLATED FORM))), HIGH HAMZA(, ALEF, WAW, YEH), JEEM(, FINAL FORM, INITIAL
 FORM, ISOLATED FORM, MEDIAL FORM, WITH( THREE DOTS( ABOVE, BELOW), TWO DOTS ABOVE)), JEH(, FINAL
 FORM, ISOLATED FORM), KAF(, FINAL FORM, INITIAL FORM, ISOLATED FORM, MEDIAL FORM, WITH( DOT(
 ABOVE, BELOW), RING, THREE DOTS BELOW, TWO DOTS ABOVE)), KASHMIRI YEH, KEHEH(, FINAL FORM,
 INITIAL FORM, ISOLATED FORM, MEDIAL FORM, WITH( DOT ABOVE, SMALL V, THREE DOTS( ABOVE, BELOW,
 POINTING UPWARDS BELOW), TWO DOTS( ABOVE, VERTICALLY BELOW))), KHAH(, FINAL FORM, INITIAL FORM,
 ISOLATED FORM, MEDIAL FORM), KIRGHIZ( OE(, FINAL FORM, ISOLATED FORM), YU(, FINAL FORM, ISOLATED
 FORM)), LAM(, FINAL FORM, INITIAL FORM, ISOLATED FORM, MEDIAL FORM, WITH( BAR, DOT ABOVE, DOUBLE
 BAR, SMALL( ARABIC LETTER TAH ABOVE, V), THREE DOTS( ABOVE, BELOW))), LOW ALEF, MARK, MEEM(,
 FINAL FORM, INITIAL FORM, ISOLATED FORM, MEDIAL FORM, WITH( DOT( ABOVE, BELOW), THREE DOTS
 ABOVE)), NG(, FINAL FORM, INITIAL FORM, ISOLATED FORM, MEDIAL FORM), NGOEH(, FINAL FORM, INITIAL
 FORM, ISOLATED FORM, MEDIAL FORM), NOON(, FINAL FORM, GHUNNA(, FINAL FORM, ISOLATED FORM),
 INITIAL FORM, ISOLATED FORM, MEDIAL FORM, WITH( DOT BELOW, INVERTED SMALL V, RING, SMALL( TAH,
 V), THREE DOTS ABOVE, TWO DOTS BELOW)), NYEH(, FINAL FORM, INITIAL FORM, ISOLATED FORM, MEDIAL
 FORM), OE(, FINAL FORM, ISOLATED FORM), PEH(, FINAL FORM, INITIAL FORM, ISOLATED FORM, MEDIAL
 FORM, WITH SMALL( MEEM ABOVE, V)), PEHEH(, FINAL FORM, INITIAL FORM, ISOLATED FORM, MEDIAL FORM),
 QAF(, FINAL FORM, INITIAL FORM, ISOLATED FORM, MEDIAL FORM, WITH( DOT( ABOVE, BELOW(, AND NO
 DOTS ABOVE)), THREE DOTS ABOVE)), REH(, FINAL FORM, ISOLATED FORM, WITH( DOT BELOW(, AND DOT
 ABOVE), FOUR DOTS ABOVE, HAMZA ABOVE, INVERTED V, LOOP, RING, SMALL( ARABIC LETTER TAH AND TWO
 DOTS, NOON ABOVE, V, V BELOW), STROKE, TWO DOTS( ABOVE, VERTICALLY ABOVE))), RNOON(, FINAL FORM,
 INITIAL FORM, ISOLATED FORM, MEDIAL FORM), ROHINGYA YEH, RREH(, FINAL FORM, ISOLATED FORM), SAD(,
 FINAL FORM, INITIAL FORM, ISOLATED FORM, MEDIAL FORM, WITH( THREE DOTS( ABOVE, BELOW), TWO DOTS
 BELOW)), SEEN(, FINAL FORM, INITIAL FORM, ISOLATED FORM, MEDIAL FORM, WITH( DOT BELOW AND DOT
 ABOVE, EXTENDED ARABIC-INDIC DIGIT FOUR ABOVE, FOUR DOTS ABOVE, INVERTED V, SMALL ARABIC LETTER
 TAH AND TWO DOTS, THREE DOTS BELOW(, AND THREE DOTS ABOVE), TWO DOTS VERTICALLY ABOVE)), SHEEN(,
 FINAL FORM, INITIAL FORM, ISOLATED FORM, MEDIAL FORM, WITH DOT BELOW), STRAIGHT WAW, SUPERSCRIPT
 ALEF, SWASH KAF, TAH(, FINAL FORM, INITIAL FORM, ISOLATED FORM, MEDIAL FORM, WITH( DOT BELOW,
 THREE DOTS( ABOVE, BELOW), TWO DOTS ABOVE)), TCHEH(, FINAL FORM, INITIAL FORM, ISOLATED FORM,
 MEDIAL FORM, WITH( DOT ABOVE, SMALL V)), TCHEHEH(, FINAL FORM, INITIAL FORM, ISOLATED FORM,
 MEDIAL FORM), TEH(, FINAL FORM, INITIAL FORM, ISOLATED FORM, MARBUTA(, FINAL FORM, GOAL,
 ISOLATED FORM), MEDIAL FORM, WITH( RING, SMALL( TEH ABOVE, V), THREE DOTS ABOVE DOWNWARDS)),
 TEHEH(, FINAL FORM, INITIAL FORM, ISOLATED FORM, MEDIAL FORM), THAL(, FINAL FORM, ISOLATED FORM),
 THEH(, FINAL FORM, INITIAL FORM, ISOLATED FORM, MEDIAL FORM), THIN YEH, TTEH(, FINAL FORM,
 INITIAL FORM, ISOLATED FORM, MEDIAL FORM, WITH SMALL V), TTEHEH(, FINAL FORM, INITIAL FORM,
 ISOLATED FORM, MEDIAL FORM), U(, FINAL FORM, ISOLATED FORM, WITH HAMZA ABOVE(, ISOLATED FORM)),
 UIGHUR KAZAKH KIRGHIZ ALEF MAKSURA( INITIAL FORM, MEDIAL FORM), VE(, FINAL FORM, ISOLATED FORM),
 VEH(, FINAL FORM, INITIAL FORM, ISOLATED FORM, MEDIAL FORM), WAW(, FINAL FORM, ISOLATED FORM,
 WITH( DOT( ABOVE, WITHIN), EXTENDED ARABIC-INDIC DIGIT( THREE ABOVE, TWO ABOVE), HAMZA ABOVE(,
 FINAL FORM, ISOLATED FORM), RING, TWO DOTS ABOVE)), YEH(, BARREE(, FINAL FORM, ISOLATED FORM,
 WITH( EXTENDED ARABIC-INDIC DIGIT( THREE ABOVE, TWO ABOVE), HAMZA ABOVE(, FINAL FORM, ISOLATED
 FORM))), FINAL FORM, INITIAL FORM, ISOLATED FORM, MEDIAL FORM, WITH( HAMZA ABOVE(, FINAL FORM,
 INITIAL FORM, ISOLATED FORM, MEDIAL FORM), SMALL V, TAIL, THREE DOTS BELOW, TWO DOTS BELOW AND(
 DOT ABOVE, HAMZA ABOVE, SMALL NOON ABOVE))), YU(, FINAL FORM, ISOLATED FORM), ZAH(, FINAL FORM,
 INITIAL FORM, ISOLATED FORM, MEDIAL FORM), ZAIN(, FINAL FORM, ISOLATED FORM, WITH INVERTED V
 ABOVE)), LIGATURE( AIN WITH( ALEF MAKSURA( FINAL FORM, ISOLATED FORM), JEEM( INITIAL FORM,
 ISOLATED FORM, WITH MEEM( FINAL FORM, INITIAL FORM)), MEEM( INITIAL FORM, ISOLATED FORM, WITH(
 ALEF MAKSURA FINAL FORM, MEEM( FINAL FORM, INITIAL FORM), YEH FINAL FORM)), YEH( FINAL FORM,
 ISOLATED FORM)), AKBAR ISOLATED FORM, ALAYHAA AS-SALAAM, ALAYHE ISOLATED FORM, ALAYHI AS(-SALAAM,
-SALAATU WAS-SALAAM), ALAYHIM AS-SALAAM, ALAYHIMAA AS-SALAAM, ALEF( MAKSURA WITH SUPERSCRIPT ALEF(
 FINAL FORM, ISOLATED FORM), WITH FATHATAN( FINAL FORM, ISOLATED FORM)), ALLAH ISOLATED FORM,
 AZZA WA JALL, BEH WITH( ALEF MAKSURA( FINAL FORM, ISOLATED FORM), HAH( INITIAL FORM, ISOLATED
 FORM, WITH YEH FINAL FORM), HEH( INITIAL FORM, MEDIAL FORM), JEEM( INITIAL FORM, ISOLATED FORM),
 KHAH( INITIAL FORM, ISOLATED FORM, WITH YEH FINAL FORM), MEEM( FINAL FORM, INITIAL FORM,
 ISOLATED FORM, MEDIAL FORM), NOON FINAL FORM, REH FINAL FORM, YEH( FINAL FORM, ISOLATED FORM),
 ZAIN FINAL FORM), BISMILLAH AR-RAHMAN AR-RAHEEM, DAD WITH( ALEF MAKSURA( FINAL FORM, ISOLATED
 FORM), HAH( INITIAL FORM, ISOLATED FORM, WITH( ALEF MAKSURA FINAL FORM, YEH FINAL FORM)), JEEM(
 INITIAL FORM, ISOLATED FORM), KHAH( INITIAL FORM, ISOLATED FORM, WITH MEEM( FINAL FORM, INITIAL
 FORM)), MEEM( INITIAL FORM, ISOLATED FORM), REH( FINAL FORM, ISOLATED FORM), YEH( FINAL FORM,
 ISOLATED FORM)), FEH WITH( ALEF MAKSURA( FINAL FORM, ISOLATED FORM), HAH( INITIAL FORM, ISOLATED
 FORM), JEEM( INITIAL FORM, ISOLATED FORM), KHAH( INITIAL FORM, ISOLATED FORM, WITH MEEM( FINAL
 FORM, INITIAL FORM)), MEEM( INITIAL FORM, ISOLATED FORM, WITH YEH FINAL FORM), YEH( FINAL FORM,
 ISOLATED FORM)), GHAIN WITH( ALEF MAKSURA( FINAL FORM, ISOLATED FORM), JEEM( INITIAL FORM,
 ISOLATED FORM), MEEM( INITIAL FORM, ISOLATED FORM, WITH( ALEF MAKSURA FINAL FORM, MEEM FINAL
 FORM, YEH FINAL FORM)), YEH( FINAL FORM, ISOLATED FORM)), HAH WITH( ALEF MAKSURA( FINAL FORM,
 ISOLATED FORM), JEEM( INITIAL FORM, ISOLATED FORM, WITH YEH FINAL FORM), MEEM( INITIAL FORM,
 ISOLATED FORM, WITH( ALEF MAKSURA FINAL FORM, YEH FINAL FORM)), YEH( FINAL FORM, ISOLATED FORM)),
 HEH WITH( ALEF MAKSURA ISOLATED FORM, JEEM( INITIAL FORM, ISOLATED FORM), MEEM( INITIAL FORM,
 ISOLATED FORM, WITH( JEEM INITIAL FORM, MEEM INITIAL FORM)), SUPERSCRIPT ALEF INITIAL FORM, YEH
 ISOLATED FORM), JALLAJALALOUHOU, JEEM WITH( ALEF MAKSURA( FINAL FORM, ISOLATED FORM), HAH(
 INITIAL FORM, ISOLATED FORM, WITH( ALEF MAKSURA FINAL FORM, YEH FINAL FORM)), MEEM( INITIAL FORM,
 ISOLATED FORM, WITH( ALEF MAKSURA FINAL FORM, HAH( FINAL FORM, INITIAL FORM), YEH FINAL FORM)),
 YEH( FINAL FORM, ISOLATED FORM)), KAF WITH( ALEF( FINAL FORM, ISOLATED FORM, MAKSURA( FINAL FORM,
 ISOLATED FORM)), HAH( INITIAL FORM, ISOLATED FORM), JEEM( INITIAL FORM, ISOLATED FORM), KHAH(
 INITIAL FORM, ISOLATED FORM), LAM( FINAL FORM, INITIAL FORM, ISOLATED FORM, MEDIAL FORM), MEEM(
 FINAL FORM, INITIAL FORM, ISOLATED FORM, MEDIAL FORM, WITH( MEEM( FINAL FORM, INITIAL FORM), YEH
 FINAL FORM)), YEH( FINAL FORM, ISOLATED FORM)), KHAH WITH( ALEF MAKSURA( FINAL FORM, ISOLATED
 FORM), HAH ISOLATED FORM, JEEM( INITIAL FORM, ISOLATED FORM), MEEM( INITIAL FORM, ISOLATED FORM),
 YEH( FINAL FORM, ISOLATED FORM)), LAM WITH( ALEF( FINAL FORM, ISOLATED FORM, MAKSURA( FINAL FORM,
 ISOLATED FORM), WITH( HAMZA( ABOVE( FINAL FORM, ISOLATED FORM), BELOW( FINAL FORM, ISOLATED
 FORM)), MADDA ABOVE( FINAL FORM, ISOLATED FORM))), HAH( INITIAL FORM, ISOLATED FORM, WITH( ALEF
 MAKSURA FINAL FORM, MEEM( FINAL FORM, INITIAL FORM), YEH FINAL FORM)), HEH INITIAL FORM, JEEM(
 INITIAL FORM, ISOLATED FORM, WITH( JEEM( FINAL FORM, INITIAL FORM), MEEM( FINAL FORM, INITIAL
 FORM), YEH FINAL FORM)), KHAH( INITIAL FORM, ISOLATED FORM, WITH MEEM( FINAL FORM, INITIAL
 FORM)), MEEM( FINAL FORM, INITIAL FORM, ISOLATED FORM, MEDIAL FORM, WITH( HAH( FINAL FORM,
 INITIAL FORM), YEH FINAL FORM)), YEH( FINAL FORM, ISOLATED FORM)), MEEM WITH( ALEF( FINAL FORM,
 MAKSURA ISOLATED FORM), HAH( INITIAL FORM, ISOLATED FORM, WITH( JEEM INITIAL FORM, MEEM INITIAL
 FORM, YEH FINAL FORM)), JEEM( INITIAL FORM, ISOLATED FORM, WITH( HAH INITIAL FORM, KHAH INITIAL
 FORM, MEEM INITIAL FORM, YEH FINAL FORM)), KHAH( INITIAL FORM, ISOLATED FORM, WITH( JEEM INITIAL
 FORM, MEEM INITIAL FORM, YEH FINAL FORM)), MEEM( FINAL FORM, INITIAL FORM, ISOLATED FORM, WITH
 YEH FINAL FORM), YEH ISOLATED FORM), MOHAMMAD ISOLATED FORM, NOON WITH( ALEF MAKSURA( FINAL FORM,
 ISOLATED FORM), HAH( INITIAL FORM, ISOLATED FORM, WITH( ALEF MAKSURA FINAL FORM, MEEM INITIAL
 FORM, YEH FINAL FORM)), HEH( INITIAL FORM, MEDIAL FORM), JEEM( INITIAL FORM, ISOLATED FORM, WITH(
 ALEF MAKSURA FINAL FORM, HAH( FINAL FORM, INITIAL FORM), MEEM( FINAL FORM, INITIAL FORM), YEH
 FINAL FORM)), KHAH( INITIAL FORM, ISOLATED FORM), MEEM( FINAL FORM, INITIAL FORM, ISOLATED FORM,
 MEDIAL FORM, WITH( ALEF MAKSURA FINAL FORM, YEH FINAL FORM)), NOON FINAL FORM, REH FINAL FORM,
 YEH( FINAL FORM, ISOLATED FORM), ZAIN FINAL FORM), QAF WITH( ALEF MAKSURA( FINAL FORM, ISOLATED
 FORM), HAH( INITIAL FORM, ISOLATED FORM), MEEM( INITIAL FORM, ISOLATED FORM, WITH( HAH( FINAL
 FORM, INITIAL FORM), MEEM FINAL FORM, YEH FINAL FORM)), YEH( FINAL FORM, ISOLATED FORM)), QALA
 USED AS KORANIC STOP SIGN ISOLATED FORM, QUDDISA SIRRAH, RADI ALLAAHU( ANH, ANHAA, ANHUM,
 ANHUMAA, ANHUNNA), RAHIMAHU ALLAAH, RAHIMAHUM ALLAAH, RASOUL ISOLATED FORM, REH WITH SUPERSCRIPT
 ALEF ISOLATED FORM, SAD WITH( ALEF MAKSURA( FINAL FORM, ISOLATED FORM), HAH( INITIAL FORM,
 ISOLATED FORM, WITH( HAH( FINAL FORM, INITIAL FORM), YEH FINAL FORM)), KHAH INITIAL FORM, MEEM(
 INITIAL FORM, ISOLATED FORM, WITH MEEM( FINAL FORM, INITIAL FORM)), REH( FINAL FORM, ISOLATED
 FORM), YEH( FINAL FORM, ISOLATED FORM)), SALAAMUHU ALAYNAA, SALAM ISOLATED FORM, SALLA( ISOLATED
 FORM, USED AS KORANIC STOP SIGN ISOLATED FORM), SALLALLAAHU ALAYHI WA-AALIH, SALLALLAHOU ALAYHE
 WASALLAM, SALLALLAHU ALAYHI WAAALIHEE WA-SALLAM, SEEN WITH( ALEF MAKSURA( FINAL FORM, ISOLATED
 FORM), HAH( INITIAL FORM, ISOLATED FORM, MEDIAL FORM, WITH JEEM INITIAL FORM), HEH( INITIAL FORM,
 MEDIAL FORM), JEEM( INITIAL FORM, ISOLATED FORM, MEDIAL FORM, WITH( ALEF MAKSURA FINAL FORM, HAH
 INITIAL FORM)), KHAH( INITIAL FORM, ISOLATED FORM, MEDIAL FORM, WITH( ALEF MAKSURA FINAL FORM,
 YEH FINAL FORM)), MEEM( INITIAL FORM, ISOLATED FORM, MEDIAL FORM, WITH( HAH( FINAL FORM, INITIAL
 FORM), JEEM INITIAL FORM, MEEM( FINAL FORM, INITIAL FORM))), REH( FINAL FORM, ISOLATED FORM),
 YEH( FINAL FORM, ISOLATED FORM)), SHADDA WITH( DAMMA( ISOLATED FORM, MEDIAL FORM), DAMMATAN
 ISOLATED FORM, FATHA( ISOLATED FORM, MEDIAL FORM), KASRA( ISOLATED FORM, MEDIAL FORM), KASRATAN
 ISOLATED FORM, SUPERSCRIPT ALEF ISOLATED FORM), SHEEN WITH( ALEF MAKSURA( FINAL FORM, ISOLATED
 FORM), HAH( FINAL FORM, INITIAL FORM, ISOLATED FORM, MEDIAL FORM, WITH( MEEM( FINAL FORM,
 INITIAL FORM), YEH FINAL FORM)), HEH( INITIAL FORM, MEDIAL FORM), JEEM( FINAL FORM, INITIAL FORM,
 ISOLATED FORM, MEDIAL FORM, WITH YEH FINAL FORM), KHAH( FINAL FORM, INITIAL FORM, ISOLATED FORM,
 MEDIAL FORM), MEEM( FINAL FORM, INITIAL FORM, ISOLATED FORM, MEDIAL FORM, WITH( KHAH( FINAL FORM,
 INITIAL FORM), MEEM( FINAL FORM, INITIAL FORM))), REH( FINAL FORM, ISOLATED FORM), YEH( FINAL
 FORM, ISOLATED FORM)), SUBHAANAHU WA TAAALAA, TABAARAKA WA-TAAALAA, TAH WITH( ALEF MAKSURA(
 FINAL FORM, ISOLATED FORM), HAH( INITIAL FORM, ISOLATED FORM), MEEM( INITIAL FORM, ISOLATED FORM,
 MEDIAL FORM, WITH( HAH( FINAL FORM, INITIAL FORM), MEEM INITIAL FORM, YEH FINAL FORM)), YEH(
 FINAL FORM, ISOLATED FORM)), TEH WITH( ALEF MAKSURA( FINAL FORM, ISOLATED FORM), HAH( INITIAL
 FORM, ISOLATED FORM, WITH( JEEM( FINAL FORM, INITIAL FORM), MEEM INITIAL FORM)), HEH( INITIAL
 FORM, MEDIAL FORM), JEEM( INITIAL FORM, ISOLATED FORM, WITH( ALEF MAKSURA FINAL FORM, MEEM
 INITIAL FORM, YEH FINAL FORM)), KHAH( INITIAL FORM, ISOLATED FORM, WITH( ALEF MAKSURA FINAL FORM,
 MEEM INITIAL FORM, YEH FINAL FORM)), MEEM( FINAL FORM, INITIAL FORM, ISOLATED FORM, MEDIAL FORM,
 WITH( ALEF MAKSURA FINAL FORM, HAH INITIAL FORM, JEEM INITIAL FORM, KHAH INITIAL FORM, YEH FINAL
 FORM)), NOON FINAL FORM, REH FINAL FORM, YEH( FINAL FORM, ISOLATED FORM), ZAIN FINAL FORM), THAL
 WITH SUPERSCRIPT ALEF ISOLATED FORM, THEH WITH( ALEF MAKSURA( FINAL FORM, ISOLATED FORM), HEH
 MEDIAL FORM, JEEM ISOLATED FORM, MEEM( FINAL FORM, INITIAL FORM, ISOLATED FORM, MEDIAL FORM),
 NOON FINAL FORM, REH FINAL FORM, YEH( FINAL FORM, ISOLATED FORM), ZAIN FINAL FORM), UIGHUR
 KIRGHIZ YEH WITH HAMZA ABOVE WITH ALEF MAKSURA( FINAL FORM, INITIAL FORM, ISOLATED FORM),
 WASALLAM ISOLATED FORM, YEH WITH( ALEF MAKSURA( FINAL FORM, ISOLATED FORM), HAH( INITIAL FORM,
 ISOLATED FORM, WITH YEH FINAL FORM), HAMZA ABOVE WITH( AE( FINAL FORM, ISOLATED FORM), ALEF(
 FINAL FORM, ISOLATED FORM, MAKSURA( FINAL FORM, ISOLATED FORM)), E( FINAL FORM, INITIAL FORM,
 ISOLATED FORM), HAH( INITIAL FORM, ISOLATED FORM), HEH( INITIAL FORM, MEDIAL FORM), JEEM(
 INITIAL FORM, ISOLATED FORM), KHAH INITIAL FORM, MEEM( FINAL FORM, INITIAL FORM, ISOLATED FORM,
 MEDIAL FORM), NOON FINAL FORM, OE( FINAL FORM, ISOLATED FORM), REH FINAL FORM, U FINAL FORM, U
 ISOLATED FORM, WAW( FINAL FORM, ISOLATED FORM), YEH( FINAL FORM, ISOLATED FORM), YU( FINAL FORM,
 ISOLATED FORM), ZAIN FINAL FORM), HEH( INITIAL FORM, MEDIAL FORM), JEEM( INITIAL FORM, ISOLATED
 FORM, WITH YEH FINAL FORM), KHAH( INITIAL FORM, ISOLATED FORM), MEEM( FINAL FORM, INITIAL FORM,
 ISOLATED FORM, MEDIAL FORM, WITH( MEEM( FINAL FORM, INITIAL FORM), YEH FINAL FORM)), NOON FINAL
 FORM, REH FINAL FORM, YEH( FINAL FORM, ISOLATED FORM), ZAIN FINAL FORM), ZAH WITH MEEM( INITIAL
 FORM, ISOLATED FORM, MEDIAL FORM)), MADDA WAAJIB, MADDAH ABOVE, MARK( NOON GHUNNA, SIDEWAYS NOON
 GHUNNA), MATHEMATICAL( AIN, ALEF, BEH, DAD, DAL, DOTLESS( BEH, FEH, NOON, QAF), DOUBLE-STRUCK(
 AIN, BEH, DAD, DAL, FEH, GHAIN, HAH, JEEM, KHAH, LAM, MEEM, NOON, QAF, REH, SAD, SEEN, SHEEN,
 TAH, TEH, THAL, THEH, WAW, YEH, ZAH, ZAIN), FEH, GHAIN, HAH, INITIAL( AIN, BEH, DAD, FEH, GHAIN,
 HAH, HEH, JEEM, KAF, KHAH, LAM, MEEM, NOON, QAF, SAD, SEEN, SHEEN, TEH, THEH, YEH), JEEM, KAF,
 KHAH, LAM, LOOPED( AIN, ALEF, BEH, DAD, DAL, FEH, GHAIN, HAH, HEH, JEEM, KHAH, LAM, MEEM, NOON,
 QAF, REH, SAD, SEEN, SHEEN, TAH, TEH, THAL, THEH, WAW, YEH, ZAH, ZAIN), MEEM, NOON, OPERATOR(
 HAH WITH DAL, MEEM WITH HAH WITH TATWEEL), QAF, REH, SAD, SEEN, SHEEN, STRETCHED( AIN, BEH, DAD,
 DOTLESS( BEH, FEH), FEH, GHAIN, HAH, HEH, JEEM, KAF, KHAH, MEEM, NOON, QAF, SAD, SEEN, SHEEN,
 TAH, TEH, THEH, YEH, ZAH), TAH, TAILED( AIN, DAD, DOTLESS( NOON, QAF), GHAIN, HAH, JEEM, KHAH,
 LAM, NOON, QAF, SAD, SEEN, SHEEN, YEH), TEH, THAL, THEH, WAW, YEH, ZAH, ZAIN), NUMBER( MARK
 ABOVE, SIGN), OPEN( DAMMATAN, FATHATAN, KASRATAN), PERCENT SIGN, PIASTRE MARK ABOVE, PLACE OF
 SAJDAH, POETIC VERSE SIGN, POUND MARK ABOVE, QUESTION MARK, RAISED ROUND DOT, RAY, REVERSED
 DAMMA, RIGHT ARROWHEAD( ABOVE(, WITH DOT), BELOW), ROUNDED HIGH STOP WITH FILLED CENTRE,
 SEMICOLON, SHADDA(, ISOLATED FORM, MEDIAL FORM), SIGN( ALAYHE ASSALLAM, MISRA, RADI ALLAHOU ANHU,
 RAHMATULLAH ALAYHE, SAFHA, SALLALLAHOU ALAYHE WASSALLAM, SAMVAT, SANAH, SINDHI( AMPERSAND,
 POSTPOSITION MEN), TAKHALLUS), SMALL( DAMMA, FARSI YEH, FATHA, HIGH( AIN, DOTLESS HEAD OF KHAH,
 FARSI YEH, FOOTNOTE MARKER, JEEM, LAM ALEF, LIGATURE( ALEF WITH LAM WITH YEH, QAF WITH LAM WITH
 ALEF MAKSURA, SAD WITH LAM WITH ALEF MAKSURA), MADDA, MEEM( INITIAL FORM, ISOLATED FORM), NOON(,
 WITH KASRA), QAF, ROUNDED ZERO, SAD, SEEN, SIGN SAFHA, TAH, THREE DOTS, UPRIGHT RECTANGULAR ZERO,
 WAW, WORD( AL-JUZ, AN-NISF, AR-RUB, AS-SAJDA, ATH-THALATHA, QIF, SAH, SAKTA, WAQFA), YEH(,
 BARREE WITH TWO DOTS BELOW), ZAH, ZAIN), KASRA, LOW( MEEM, NOON WITH KASRA, SEEN, WAW, WORD(
 IMAALA, ISHMAAM, TASHEEL)), WAW, YEH), START OF RUB EL HIZB, SUBSCRIPT ALEF, SUKUN(, BELOW,
 ISOLATED FORM, MEDIAL FORM), SUPERSCRIPT ALEF MOKHASSAS, SYMBOL( DOT( ABOVE, BELOW), DOUBLE
 VERTICAL BAR BELOW, FOUR DOTS( ABOVE, BELOW), RING, SMALL TAH( ABOVE, BELOW), THREE DOTS( ABOVE,
 BELOW, POINTING DOWNWARDS( ABOVE, BELOW)), TWO DOTS( ABOVE, BELOW, VERTICALLY( ABOVE, BELOW)),
 WASLA ABOVE), TAIL FRAGMENT, TATWEEL(, WITH( FATHATAN ABOVE, OVERSTRUCK( HAMZA, WAW), TWO DOTS
 BELOW)), THOUSANDS SEPARATOR, TONE( LOOP( ABOVE, BELOW), ONE DOT( ABOVE, BELOW), TWO DOTS( ABOVE,
 BELOW)), TRIPLE DOT PUNCTUATION MARK, TURNED DAMMA BELOW, VERTICAL TAIL, VOWEL SIGN( DOT BELOW,
 INVERTED SMALL V ABOVE, SMALL V ABOVE), WAVY HAMZA BELOW, ZWARAKAY,-INDIC( CUBE ROOT, DIGIT(
 EIGHT, FIVE, FOUR, NINE, ONE, SEVEN, SIX, THREE, TWO, ZERO), FOURTH ROOT, PER( MILLE SIGN, TEN
 THOUSAND SIGN))),ARC,ARIES,ARMENIAN( ABBREVIATION MARK, APOSTROPHE, CAPITAL LETTER( AYB, BEN, CA,
 CHA, CHEH, CO, DA, ECH, EH, ET, FEH, GHAD, GIM, HO, INI, JA, JHEH, KEH, KEN, LIWN, MEN, NOW, OH,
 PEH, PIWR, RA, REH, SEH, SHA, TIWN, TO, VEW, VO, XEH, YI, YIWN, ZA, ZHE), COMMA, DRAM SIGN,
 EMPHASIS MARK, EXCLAMATION MARK, FULL STOP, HYPHEN, MODIFIER LETTER LEFT HALF RING, QUESTION
 MARK, SMALL( LETTER( AYB, BEN, CA, CHA, CHEH, CO, DA, ECH, EH, ET, FEH, GHAD, GIM, HO, INI, JA,
 JHEH, KEH, KEN, LIWN, MEN, NOW, OH, PEH, PIWR, RA, REH, SEH, SHA, TIWN, TO, TURNED AYB, VEW, VO,
 XEH, YI(, WITH STROKE), YIWN, ZA, ZHE), LIGATURE( ECH YIWN, MEN( ECH, INI, NOW, XEH), VEW NOW))),
ARROW POINTING( DOWNWARDS THEN CURVING( LEFTWARDS, RIGHTWARDS), RIGHTWARDS THEN CURVING(
 DOWNWARDS, SOUTH WEST, UPWARDS), UPWARDS THEN NORTH WEST),ARROWHEAD-SHAPED POINTER,ARTICULATED
 LORRY,ARTIST PALETTE,ASCENDING NODE,ASCIA SYMBOL,ASSERTION,ASTERISK(, OPERATOR),ASTERISM,
ASTONISHED FACE,ASTRAEA,ASTRONOMICAL SYMBOL FOR URANUS,ASYMPTOTICALLY EQUAL TO,ATHLETIC SHOE,ATOM
 SYMBOL,AUBERGINE,AUSTRAL SIGN,AUTO RICKSHAW,AUTOMATED TELLER MACHINE,AUTOMOBILE,AVESTAN(
 ABBREVIATION MARK, LETTER( A, AA, AAN, AAO, AE, AEE, AN, AO, BE, BHE, CE, DE, DHE, E, EE, FE, GE,
 GGE, GHE, HE, HME, I, II, JE, KE, LE, ME, NE, NGE, NGVE, NGYE, NNE, NYE, O, OO, PE, RE, SE, SHE,
 SHYE, SSHE, TE, THE, TTE, U, UU, VE, XE, XVE, XYE, YE, YYE, ZE, ZHE)),AVOCADO,AXE,BABY(, ANGEL,
 BOTTLE, CHICK, SYMBOL),BACK( OF ENVELOPE, WITH LEFTWARDS ARROW ABOVE,-TILTED SHADOWED WHITE
 RIGHTWARDS ARROW),BACKSLANTED SOUTH ARROW WITH( HOOKED TAIL, HORIZONTAL TAIL),BACKSPACE,BACON,
BACTRIAN CAMEL,BADGER,BADMINTON RACQUET AND SHUTTLECOCK,BAGEL,BAGGAGE CLAIM,BAGUETTE BREAD,
BALINESE( ADEG ADEG, CARIK( PAMUNGKAH, PAREREN, SIKI), DIGIT( EIGHT, FIVE, FOUR, NINE, ONE, SEVEN,
 SIX, THREE, TWO, ZERO), LETTER( AIKARA, AKARA(, TEDUNG), ARCHAIC JNYA, ASYURA SASAK, BA(,
 KEMBANG), CA(, LACA), DA(, MADU, MURDA( ALPAPRANA, MAHAPRANA)), EF SASAK, EKARA, GA(, GORA), HA,
 IKARA(, TEDUNG), JA(, JERA), KA(, MAHAPRANA), KAF SASAK, KHOT SASAK, LA(, LENGA(, TEDUNG)), MA,
 NA(, RAMBAT), NGA, NYA, OKARA(, TEDUNG), PA(, KAPAL), RA(, REPA(, TEDUNG)), SA(, SAGA, SAPA), TA(
, LATIK, MURDA MAHAPRANA, TAWA), TZIR SASAK, UKARA(, TEDUNG), VE SASAK, WA, YA, ZAL SASAK),
 MUSICAL SYMBOL( COMBINING( BENDE, ENDEP, GONG, JEGOGAN, KEMPLI(, WITH JEGOGAN), KEMPUL(, WITH
 JEGOGAN), TEGEH), DAENG, DAING, DANG(, GEDE, SURANG), DENG, DEUNG, DING, DONG, DUNG, LEFT-HAND(
 CLOSED( PLAK, PLUK), OPEN( PANG, PING, PUNG)), RIGHT-HAND( CLOSED( TAK, TUK), OPEN( DAG, DUG))),
 PAMADA(, LANTANG), PAMENENG, PANTI(, LANTANG), SIGN( BISAH, CECEK, REREKAN, SURANG, ULU( CANDRA,
 RICEM)), VOWEL SIGN( LA LENGA(, TEDUNG), PEPET(, TEDUNG), RA REPA(, TEDUNG), SUKU(, ILUT),
 TALING(, REPA(, TEDUNG), TEDUNG), TEDUNG, ULU(, SARI)), WINDU),BALL OF YARN,BALLET SHOES,BALLOON(
,-SPOKED ASTERISK),BALLOT( BOLD SCRIPT X, BOX(, WITH( BALLOT, BOLD( CHECK, SCRIPT X), CHECK,
 LIGHT X, SCRIPT X, X)), SCRIPT X, X),BAMUM( COLON, COMBINING MARK( KOQNDON, TUKWENTIS), COMMA,
 FULL STOP, LETTER( A, EE, FAAMAE, FEE, FOM, FU, I, KA, KEN, KET, KEUX, KI, KO, KOGHOM, KOVUU,
 KPA, KU, KYEE, LA, LEEEE, LI, LOQ, LU, M, MA, MBAA, MBEN, MEEEE, MEN, MI, MO, MU, NA, NDAA, NGA,
 NGGA, NGKWAEN, NI, NJAEM, NJEE, NJUAE, NSHA, NTEE, NTUU, NU, NUAE, NYI, O, PA, PEE, PEUX, PHASE(
-A( FIRI, GBIEE FON, GHEUAEGHEUAE, GHEUAERAE, KAFA, KAQ, KET, KEUKEUTNDA, KPOQ, KUOQ, LAPAQ, LET
 KUT, LOMMAE, LU, LUAEP, MAEKEUP, MAEM, MAEMBGBIEE, MAEMKPEN, MAEMVEUX, MAENYI, MAESI, MANSUAE,
 MAP PIEET, MBANYI, MBAQ, MEUNJOMNDEUQ, MGBASA, MON NGGEUAET, MOOMEUT, MOOMPUQ, MVEUAENGAM, NAA
 MFON, NAQ, NDA LEERAEWA, NDAANGGEUAET, NEN, NGANGU, NGGEN, NGKUE MFON, NGKUENZEUM, NIKA, NJAM,
 NKAARAE, NKINDI, NSHA, NSHIEE, NTAP(, MFAA, NTAA), NTOQPEN, NYET, NYI, NYIT MONGKEUAEQ, NZA MFON,
 NZUN MEUT, PA LEERAEWA, PAAM, PAARAE, PAMSHAE, PASHAE, PET, PON( MFON( PIPAEMBA, PIPAEMGBIEE),
 PA NJI( PIPAEMBA, PIPAEMGBIEE)), PUP, ROM, SEUNYAM, SHINDA PA NJI, SHIRAE, SHOQ NSHUT YUM,
 SHUENSHUET, SHUM, SISA, SONJAM, SOQ, SOT, SUU, TEUAEN, TEUTEUWEN, TITA MFON, TU MAEMBA, TUAEP, U
 YUQ NAE, UNKNOWN, VEE),-B( FEE, FEUX, GHEUGHEN, GHEUGHEUAEM, KAM, KEUAEM, KEUPUQ, KEUYEUX, KIEEM,
 KIQ, LAANAE, LAM NSHUT NYAM, LET, LOM NTEUM, MA(, NJEUAENA, NJUQA), MBA MAELEE, MBAARAE, MBEURI,
 MBIT MBAAKET, MBUOQ, MEUQ, MEUT NGGEET, MFIYAQ, MFON TEUAEQ, MONTIEEN, NDU NJAA, NGGAAM, NGGEU
 MBU, NGGUOQ(, LARGE), NGKINDI MVOP, NGOM, NSEN, NSHUET, NTIEE SHEUOQ, NYAEMAE, NYI NTEUM, PARUM,
 PEESHI, PIT, PUNGAAM, SAKEUAE, SET TU, SHET NJAQ, SHEUAEQTU, SIEE, SUE, TAAM, TU( MAEMGBIEE,
 NSIEE), VEUM, WUAET, YAFU LEERAEWA, YEURAE),-C( BUNG, FUE, GBAYI, GHAP, GHARAE, KAA, KEN(
 FATIGUE, LAW), KET, KEUKAQ, KEUM, KEUSEUX, KEUSHEUAEP, KPARAQ, KUOP NKAARAE, KUT, LAM, LAP, LIQ,
 LU, MA( KEUAERI, NSIEE), MAEMBA, MAESI, MBAA( CABBAGE-TREE, PICKET), MBANYI, MBEEKEET, MBERAE,
 MBEUM, MBEUX, MBI, MBIRIEEN, MBIT, MBUAEM, MBUE, MGBASAQ, MIEE, MUAE, NANSANAQ, NAQ, NDAM, NDAP,
 NDEUAEREE, NDEUT, NDIDA, NDOMBU, NGAQ, NGGEN, NGGU, NGGUAEN NYAM, NGGUEET, NGGUM, NGGUON, NGKAQ,
 NGKUE MAEMBA, NGOM, NJAEM, NJAM, NJEEEE, NJEUX, NJUEQ, NSA, NSEUAEN, NSHAQ, NSOM, NSUN, NSUOT
 NGOM, NTAA, NTEN, NTEUNGBA, NTU MBIT, NYIR MKPARAQ MEUN, NZA, NZEUM, PEN, PIN, PIRIEEN, RU,
 SETFON, SEUX, SHIQ, SHUEQ, SUAET, TAASHAE, TET, TEUTEUX, TITA YUE, TITUAEP, VEUAEPEN, VEUX,
 WANGKUOQ, WUP, YAA, YEUQ, YU MUOMAE, YUM, YUWOQ),-D( FAA, FEUFEUAET, GHAA, GHEUAE, KET,
 KEUAETMEUN, KEUM, KEUOT MBUAE, KEUP, KU, KUN, KUOM, KUQ, KWAET, KYEE, LEEEE, LET, LEUAEP, LEUM,
 LIEE, LOQ, LUM, M, MAENJET, MALEERI, MBAA(, SEVEN), MBUO, MEEEE, MEUN, MEUT, MFEUAE, MFEUT,
 MFIEE, MFO, MFON, MGBEUN, MGBIEE, MGBOFUM, MONI, MU, MVOP, NDAM, NDEE, NDEUX, NDON, NGGAAM,
 NGGAAMAE, NGGAP, NGGEUX, NGGUOM, NGGWAEN, NGKAP, NGKEUAEQ, NGKEURI, NGKIEE, NGKUN, NGKYEE, NI,
 NJAP, NJEUAEM, NJEUT, NJI, NJIEE, NJUEQ, NSHEE, NSHUT, NSIEEP, NSIEET, NSUM, NTEE, NTEUM, NTUU,
 NU, NYAM, NYET, NYI, NYUE, PAP, PEE, PEUTAE, PIP, PUQ, PUUT, RAEM, REN( MUCH, OLD), RII, SAP,
 SAQ, SEUAEQ, SHEE, SHEUAE, SHEUX, SHII, SHOQ, SHU, SOT, SUAE, SUE, SUU, TAE, TEEEE, TEUAEN, TEUN,
 TEUT, TI, TOQ, TU, TUOT, WAP, WUAEN, YAEMMAE, YEN, YUOM, YUOP, YUWOQ),-E( A, FA, FAQ, FEE, FOM,
 FU( CALL, I, REMEDY), FUE, FUET, GBET, GBEUX, GHAAMAE, GHET, GHEUAE, GHEUN, GHEUX, GHOM, I, KET,
 KEUAE, KEUX, KI, KO, KPEUX, KUET, KUOP, KUT, LAAM, LAP, LAQ, LEUAEM, LOM, LOON, LOOT, LOQ, LU,
 MA, MAE, MAEM, MAP, MAQ, MBEE, MBEUM, MEN, MFEUQ, MGBA, MGBEN, MI, MIEE, MON, MUAE, MVI, NA, NAE,
 NDAA( MY HOUSE, SOFTNESS), NDAP, NDIAQ, NDIQ, NDUN, NGA, NGEUREUT, NGGEEEE, NGGEUAE, NGGEUAET,
 NGGUAESHAE NYAM, NGGUP, NGGURAE, NGKA, NGKAAMI, NGKEUAEM, NGKEUX, NGKUM, NGKUP, NGOP, NGOQ,
 NGUAE, NGUAET, NJAEMLI, NJEE(, EPOCH), NJEUX, NKOM, NSHIEE, NSHUE, NSHUOP, NTAP, NTUM, NYI(
 BETWEEN, CLEAVER), NZAQ, NZUQ, O, PA( PEOPLE, PLURAL), PAA, PAAM, PEEM, PEUT, PEUX, PI, PIEEQ,
 PIET, PO, POON, PU, PUAE, PUAQ, PUE, PUM, RAE, RAQ, REUX, RIMGBA, SAA, SEE, SET, SHEUAEQ, SHIQ,
 SHO, SHOQ, SOM, SUAEN, TAA, TAAQ, TAEN NTEUM, TAM, TAQ, TEN, TEU, TEUAEQ, TOO, TOON, TOQ, TUAE,
 TUM, TUMAE, VEE, VEUAE, VOM, WEUX, WUE, WUO, YAP, YEUAE, YEUAET, YEUM, YEUX, YIEE, YIT, YOQ(
 COVER, SWIMMING), YUAEN, YUEQ, YUN, YUQ),-F( EE, FOM, KA, KEN, KET, KO, KPA, KU, KYEE, LA, LI,
 LOQ, M, MA, MBAA, MBEN, MEEEE, MO, NDAA, NGGA, NGKWAEN, NI, NJAEM, NJUAE, NSHA, NTEE, NU, NUAE,
 NYI, PEE, PEUX, PUAE, REE, REN, REUX, RIEE, RII, RU, SAMBA, SEUX, SHII, SHO, SHU, SI, SUU, TAA,
 TAE, TET, U, VUEQ, WA, WUE, YA, YOQ)), PI, PUAE, PUE, RAE, REE, REN, REUX, RIEE, RII, RU, SAMBA,
 SEUX, SHEUX, SHII, SHO, SHU, SI, SUU, TAA, TAE, TEN, TET, TI, U, WA, WUE, YA, YOQ, YUQ), NJAEMLI,
 QUESTION MARK, SEMICOLON),BANANA,BANJO,BANK,BANKNOTE WITH( DOLLAR SIGN, EURO SIGN, POUND SIGN,
 YEN SIGN),BAR( CHART, OF SOAP),BARBER POLE,BASEBALL,BASKET,BASKETBALL AND HOOP,BASSA VAH(
 COMBINING( HIGH( TONE,-LOW TONE), LOW( TONE,-MID TONE), MID TONE), FULL STOP, LETTER( A, BA, CE,
 DHII, DO, E, EE, ENNI, FA, GAH, GBU, HWAH, I, JO, KA, KPAH, MBE, O, OO, PA, SE, TO, U, UWU, VU,
 WA, WADDA, YEIN, YIE, ZO)),BAT,BATAK( CONSONANT SIGN( H, NG), LETTER( A, BA, CA, DA, GA, HA, I,
 JA, KARO BA, LA, MA, MANDAILING( HA, NA, SA), MBA, NA, NDA, NGA, NORTHERN TA, NYA, PA, PAKPAK WA,
 RA, SA, SIMALUNGUN( A, GA, HA, LA, MA, PA, RA, SA, WA, YA), SOUTHERN TA, U, WA, YA), PANGOLAT,
 PANONGONAN, SIGN TOMPI, SYMBOL BINDU( JUDUL, NA METEK, PANGOLAT, PINARBORAS), VOWEL SIGN( E, EE,
 I, KARO( I, O), O, PAKPAK E, U, U FOR SIMALUNGUN SA)),BATH,BATHTUB,BATTERY,BEACH WITH UMBRELLA,
BEAMED( ASCENDING MUSICAL NOTES, DESCENDING MUSICAL NOTES, EIGHTH NOTES, SIXTEENTH NOTES),BEANS,
BEAR FACE,BEARDED PERSON,BEATING HEART,BEAVER,BECAUSE,BED,BEER MUG,BEETLE,BEL,BELL(, PEPPER,
 SYMBOL, WITH CANCELLATION STROKE),BELLHOP BELL,BENGALI( ABBREVIATION SIGN, ANJI, AU LENGTH MARK,
 CURRENCY( DENOMINATOR SIXTEEN, NUMERATOR( FOUR, ONE(, LESS THAN THE DENOMINATOR), THREE, TWO)),
 DIGIT( EIGHT, FIVE, FOUR, NINE, ONE, SEVEN, SIX, THREE, TWO, ZERO), GANDA MARK, ISSHAR, LETTER(
 A, AA, AI, AU, BA, BHA, CA, CHA, DA, DDA, DDHA, DHA, E, GA, GHA, HA, I, II, JA, JHA, KA, KHA,
 KHANDA TA, LA, MA, NA, NGA, NNA, NYA, O, PA, PHA, RA(, WITH( LOWER DIAGONAL, MIDDLE DIAGONAL)),
 RHA, RRA, SA, SHA, SSA, TA, THA, TTA, TTHA, U, UU, VEDIC ANUSVARA, VOCALIC( L, LL, R, RR), YA,
 YYA), RUPEE( MARK, SIGN), SANDHI MARK, SIGN( ANUSVARA, AVAGRAHA, CANDRABINDU, NUKTA, VIRAMA,
 VISARGA), VOWEL SIGN( AA, AI, AU, E, I, II, O, U, UU, VOCALIC( L, LL, R, RR))),BENT ARROW
 POINTING DOWNWARDS THEN NORTH EAST,BENTO BOX,BENZENE RING(, WITH CIRCLE),BET SYMBOL,BETWEEN,
BEVERAGE BOX,BHAIKSUKI( DANDA, DIGIT( EIGHT, FIVE, FOUR, NINE, ONE, SEVEN, SIX, THREE, TWO, ZERO),
 DOUBLE DANDA, GAP FILLER(-1,-2), HUNDREDS UNIT MARK, LETTER( A, AA, AI, AU, BA, BHA, CA, CHA, DA,
 DDA, DDHA, DHA, E, GA, GHA, HA, I, II, JA, JHA, KA, KHA, LA, MA, NA, NGA, NNA, NYA, O, PA, PHA,
 RA, SA, SHA, SSA, TA, THA, TTA, TTHA, U, UU, VA, VOCALIC( L, R, RR), YA), NUMBER( EIGHT, EIGHTY,
 FIFTY, FIVE, FORTY, FOUR, NINE, NINETY, ONE, SEVEN, SEVENTY, SIX, SIXTY, TEN, THIRTY, THREE,
 TWENTY, TWO), SIGN( ANUSVARA, AVAGRAHA, CANDRABINDU, VIRAMA, VISARGA), VOWEL SIGN( AA, AI, AU, E,
 I, II, O, U, UU, VOCALIC( L, R, RR)), WORD SEPARATOR),BICYCLE,BICYCLIST,BIG( REVERSE SOLIDUS,
 SOLIDUS),BIKINI,BILLED CAP,BILLIARDS,BIOHAZARD SIGN,BIRD,BIRTHDAY CAKE,BISON,BITCOIN SIGN,BITING
 LIP,BLACK( BOWTIE, CENTRE WHITE STAR, CHESS( BISHOP(, ROTATED( NINETY DEGREES, TWO HUNDRED
 SEVENTY DEGREES)), EQUIHOPPER(, ROTATED NINETY DEGREES), KING(, ROTATED( NINETY DEGREES, TWO
 HUNDRED SEVENTY DEGREES)), KNIGHT(, ROTATED( FORTY-FIVE DEGREES, NINETY DEGREES, ONE HUNDRED
 THIRTY-FIVE DEGREES, THREE HUNDRED FIFTEEN DEGREES, TWO HUNDRED( SEVENTY DEGREES, TWENTY-FIVE
 DEGREES)),-BISHOP,-QUEEN,-ROOK), PAWN(, ROTATED( NINETY DEGREES, TWO HUNDRED SEVENTY DEGREES)),
 QUEEN(, ROTATED( NINETY DEGREES, TWO HUNDRED SEVENTY DEGREES)), ROOK(, ROTATED( NINETY DEGREES,
 TWO HUNDRED SEVENTY DEGREES)), TURNED( BISHOP, KING, KNIGHT, PAWN, QUEEN, ROOK)), CIRCLE(, FOR
 RECORD, WITH( DOWN ARROW, TWO WHITE DOTS, WHITE DOT RIGHT)), CLUB SUIT, CROSS ON SHIELD, CURVED(
 DOWNWARDS AND( LEFTWARDS ARROW, RIGHTWARDS ARROW), LEFTWARDS AND( DOWNWARDS ARROW, UPWARDS
 ARROW), RIGHTWARDS AND( DOWNWARDS ARROW, UPWARDS ARROW), UPWARDS AND( LEFTWARDS ARROW,
 RIGHTWARDS ARROW)), DIAMOND(, CENTRED, MINUS WHITE X, ON CROSS, SUIT, WITH DOWN ARROW), DOWN(
 POINTING BACKHAND INDEX,-POINTING( DOUBLE TRIANGLE, ISOSCELES RIGHT TRIANGLE, SMALL TRIANGLE,
 TRIANGLE)), DOWNWARDS EQUILATERAL ARROWHEAD, DRAUGHTS( KING, MAN), DROPLET, FLAG, FLORETTE,
 FOLDER, FOUR POINTED STAR, HARD SHELL FLOPPY DISK, HEART(, SUIT), HEXAGON, HORIZONTAL ELLIPSE,
 HOURGLASS, LARGE( CIRCLE, SQUARE), LEFT( LANE MERGE, POINTING( BACKHAND INDEX, INDEX),-POINTING(
 DOUBLE TRIANGLE(, WITH VERTICAL BAR), ISOSCELES RIGHT TRIANGLE, POINTER, SMALL TRIANGLE,
 TRIANGLE)), LEFTWARDS( BULLET, EQUILATERAL ARROWHEAD), LOWER( LEFT TRIANGLE, RIGHT TRIANGLE),
 LOZENGE, MEDIUM( DIAMOND, DOWN-POINTING TRIANGLE(, CENTRED), LEFT-POINTING TRIANGLE(, CENTRED),
 LOZENGE, RIGHT-POINTING TRIANGLE(, CENTRED), SMALL( DIAMOND, LOZENGE, SQUARE), SQUARE,
 UP-POINTING TRIANGLE(, CENTRED)), MOON LILITH, NIB, OCTAGON, PARALLELOGRAM, PENNANT, PENTAGON,
 PUSHPIN, QUESTION MARK ORNAMENT, RECTANGLE, RIGHT( POINTING( BACKHAND INDEX, INDEX),-POINTING(
 DOUBLE TRIANGLE(, WITH VERTICAL BAR), ISOSCELES RIGHT TRIANGLE, PENTAGON, POINTER, SMALL
 TRIANGLE, TRIANGLE(, WITH DOUBLE VERTICAL BAR))), RIGHTWARDS( ARROW, ARROWHEAD, BULLET,
 EQUILATERAL ARROWHEAD), ROSETTE, SAFETY SCISSORS, SCISSORS, SHOGI PIECE, SKULL AND CROSSBONES,
 SLIGHTLY SMALL( CIRCLE, SQUARE), SMALL( DIAMOND, LOZENGE, SQUARE, STAR), SMILING FACE, SNOWMAN,
 SPADE SUIT, SQUARE(, BUTTON, CENTRED, FOR STOP), STAR, SUN WITH RAYS, TELEPHONE, TINY( DIAMOND,
 LOZENGE, SQUARE), TOUCHTONE TELEPHONE, TRUCK, TWO-WAY LEFT WAY TRAFFIC, UNIVERSAL RECYCLING
 SYMBOL, UP( POINTING BACKHAND INDEX,-POINTING( DOUBLE TRIANGLE, ISOSCELES RIGHT TRIANGLE, SMALL
 TRIANGLE, TRIANGLE)), UPPER( LEFT TRIANGLE, RIGHT TRIANGLE), UPWARDS EQUILATERAL ARROWHEAD,
 VERTICAL( ELLIPSE, RECTANGLE), VERY SMALL( DIAMOND, LOZENGE, SQUARE),-FEATHERED( NORTH EAST
 ARROW, RIGHTWARDS ARROW, SOUTH EAST ARROW),-LETTER CAPITAL( C, H, I, R, Z)),BLANK SYMBOL,BLOCK
 SEXTANT(-1,-12,-123,-1234,-12345,-12346,-1235,-12356,-1236,-124,-1245,-12456,-1246,-125,-1256,
-126,-13,-134,-1345,-13456,-1346,-1356,-136,-14,-145,-1456,-146,-15,-156,-16,-2,-23,-234,-2345,
-23456,-2346,-235,-2356,-236,-24,-245,-2456,-25,-256,-26,-3,-34,-345,-3456,-346,-35,-356,-36,-4,
-45,-456,-46,-5,-56,-6),BLOSSOM,BLOWFISH,BLUE( BOOK, HEART),BLUEBERRIES,BOAR,BOLD( EIGHT SPOKED
 ASTERISK, FIVE SPOKED ASTERISK, GREEK CROSS, SALTIRE, SIX SPOKED ASTERISK, WHITE( CIRCLE,
 SQUARE)),BOM,BOMB,BONE,BOOK,BOOKMARK(, TABS),BOOKS,BOOMERANG,BOPOMOFO( FINAL LETTER( G, H, K, P,
 T), LETTER( A, AH, AI, AINN, AM, AN, ANG, ANN, AU, AUNN, B, BU, C, CH, D, E, EE, EH, EI, EN, ENG,
 ENN, ER, F, G, GH, GN, GU, GW, H, I, IH, IM, INN, INNN, IR, IU, J, JI, K, KW, L, LH, M, N, NG,
 NGG, NN, O, O WITH DOT ABOVE, OE, OM, ONG, ONN, OO, OU, P, Q, R, S, SH, T, U, UNN, V, X, Z, ZH,
 ZI, ZY)),BOTTLE WITH POPPING CORK,BOTTOM( ARC ANTICLOCKWISE ARROW, CURLY BRACKET, HALF( BLACK
 CIRCLE, INTEGRAL, LEFT PARENTHESIS, RIGHT PARENTHESIS), LEFT( CORNER, CROP, HALF BRACKET),
 PARENTHESIS, RIGHT( CORNER, CROP, HALF BRACKET), SQUARE BRACKET(, OVER TOP SQUARE BRACKET),
 TORTOISE SHELL BRACKET),BOUQUET(, OF FLOWERS),BOW AND ARROW,BOWL( OF HYGIEIA, WITH SPOON),
BOWLING,BOWTIE(, WITH( LEFT HALF BLACK, RIGHT HALF BLACK)),BOX DRAWINGS( DOUBLE( DOWN AND(
 HORIZONTAL, LEFT, RIGHT), HORIZONTAL, UP AND( HORIZONTAL, LEFT, RIGHT), VERTICAL(, AND(
 HORIZONTAL, LEFT, RIGHT))), DOWN( DOUBLE AND( HORIZONTAL SINGLE, LEFT SINGLE, RIGHT SINGLE),
 HEAVY AND( HORIZONTAL LIGHT, LEFT( LIGHT, UP LIGHT), RIGHT( LIGHT, UP LIGHT), UP HORIZONTAL
 LIGHT), LIGHT AND( HORIZONTAL HEAVY, LEFT( HEAVY, UP HEAVY), RIGHT( HEAVY, UP HEAVY), UP
 HORIZONTAL HEAVY), SINGLE AND( HORIZONTAL DOUBLE, LEFT DOUBLE, RIGHT DOUBLE)), HEAVY( DOUBLE
 DASH( HORIZONTAL, VERTICAL), DOWN(, AND( HORIZONTAL, LEFT, RIGHT)), HORIZONTAL, LEFT(, AND LIGHT
 RIGHT), QUADRUPLE DASH( HORIZONTAL, VERTICAL), RIGHT, TRIPLE DASH( HORIZONTAL, VERTICAL), UP(,
 AND( HORIZONTAL, LEFT, LIGHT DOWN, RIGHT)), VERTICAL(, AND( HORIZONTAL, LEFT, RIGHT))), LEFT(
 DOWN HEAVY AND RIGHT UP LIGHT, HEAVY AND RIGHT( DOWN LIGHT, UP LIGHT, VERTICAL LIGHT), LIGHT AND
 RIGHT( DOWN HEAVY, UP HEAVY, VERTICAL HEAVY), UP HEAVY AND RIGHT DOWN LIGHT), LIGHT( ARC( DOWN
 AND( LEFT, RIGHT), UP AND( LEFT, RIGHT)), DIAGONAL( CROSS, DIAMOND, MIDDLE( LEFT TO( LOWER
 CENTRE(, TO MIDDLE RIGHT), UPPER CENTRE TO MIDDLE RIGHT(, TO LOWER CENTRE)), RIGHT TO( LOWER
 CENTRE, UPPER CENTRE TO MIDDLE LEFT TO LOWER CENTRE)), UPPER( CENTRE TO MIDDLE( LEFT(, AND
 MIDDLE RIGHT TO LOWER CENTRE, TO LOWER CENTRE(, TO MIDDLE RIGHT)), RIGHT(, AND MIDDLE LEFT TO
 LOWER CENTRE, TO LOWER CENTRE(, TO MIDDLE LEFT))), LEFT TO LOWER RIGHT, RIGHT TO LOWER LEFT)),
 DOUBLE DASH( HORIZONTAL, VERTICAL), DOWN(, AND( HORIZONTAL, LEFT, RIGHT)), HORIZONTAL(, WITH
 VERTICAL STROKE), LEFT(, AND HEAVY RIGHT), QUADRUPLE DASH( HORIZONTAL, VERTICAL), RIGHT, TRIPLE
 DASH( HORIZONTAL, VERTICAL), UP(, AND( HEAVY DOWN, HORIZONTAL, LEFT, RIGHT)), VERTICAL(, AND(
 HORIZONTAL, LEFT, RIGHT))), RIGHT( DOWN HEAVY AND LEFT UP LIGHT, HEAVY AND LEFT( DOWN LIGHT, UP
 LIGHT, VERTICAL LIGHT), LIGHT AND LEFT( DOWN HEAVY, UP HEAVY, VERTICAL HEAVY), UP HEAVY AND LEFT
 DOWN LIGHT), UP( DOUBLE AND( HORIZONTAL SINGLE, LEFT SINGLE, RIGHT SINGLE), HEAVY AND( DOWN
 HORIZONTAL LIGHT, HORIZONTAL LIGHT, LEFT( DOWN LIGHT, LIGHT), RIGHT( DOWN LIGHT, LIGHT)), LIGHT
 AND( DOWN HORIZONTAL HEAVY, HORIZONTAL HEAVY, LEFT( DOWN HEAVY, HEAVY), RIGHT( DOWN HEAVY,
 HEAVY)), SINGLE AND( HORIZONTAL DOUBLE, LEFT DOUBLE, RIGHT DOUBLE)), VERTICAL( DOUBLE AND(
 HORIZONTAL SINGLE, LEFT SINGLE, RIGHT SINGLE), HEAVY AND( HORIZONTAL LIGHT, LEFT LIGHT, RIGHT
 LIGHT), LIGHT AND( HORIZONTAL HEAVY, LEFT HEAVY, RIGHT HEAVY), SINGLE AND( HORIZONTAL DOUBLE,
 LEFT DOUBLE, RIGHT DOUBLE))),BOXING GLOVE,BOY,BOYS SYMBOL,BPH,BRAHMI( DANDA, DIGIT( EIGHT, FIVE,
 FOUR, NINE, ONE, SEVEN, SIX, THREE, TWO, ZERO), DOUBLE DANDA, LETTER( A, AA, AI, AU, BA, BHA, CA,
 CHA, DA, DDA, DDHA, DHA, E, GA, GHA, HA, I, II, JA, JHA, KA, KHA, LA, LLA, MA, NA, NGA, NNA, NYA,
 O, OLD TAMIL( LLA, LLLA, NNNA, RRA, SHORT( E, O)), PA, PHA, RA, SA, SHA, SSA, TA, THA, TTA, TTHA,
 U, UU, VA, VOCALIC( L, LL, R, RR), YA), NUMBER( EIGHT, EIGHTY, FIFTY, FIVE, FORTY, FOUR, JOINER,
 NINE, NINETY, ONE(, HUNDRED, THOUSAND), SEVEN, SEVENTY, SIX, SIXTY, TEN, THIRTY, THREE, TWENTY,
 TWO), PUNCTUATION( CRESCENT BAR, DOT, DOUBLE DOT, LINE, LOTUS), SIGN( ANUSVARA, CANDRABINDU,
 JIHVAMULIYA, OLD TAMIL VIRAMA, UPADHMANIYA, VISARGA), VIRAMA, VOWEL SIGN( AA, AI, AU,
 BHATTIPROLU AA, E, I, II, O, OLD TAMIL SHORT( E, O), U, UU, VOCALIC( L, LL, R, RR))),BRAILLE
 PATTERN( BLANK, DOTS(-1,-12,-123,-1234,-12345,-123456,-1234567,-12345678,-1234568,-123457,
-1234578,-123458,-12346,-123467,-1234678,-123468,-12347,-123478,-12348,-1235,-12356,-123567,
-1235678,-123568,-12357,-123578,-12358,-1236,-12367,-123678,-12368,-1237,-12378,-1238,-124,-1245,
-12456,-124567,-1245678,-124568,-12457,-124578,-12458,-1246,-12467,-124678,-12468,-1247,-12478,
-1248,-125,-1256,-12567,-125678,-12568,-1257,-12578,-1258,-126,-1267,-12678,-1268,-127,-1278,-128,
-13,-134,-1345,-13456,-134567,-1345678,-134568,-13457,-134578,-13458,-1346,-13467,-134678,-13468,
-1347,-13478,-1348,-135,-1356,-13567,-135678,-13568,-1357,-13578,-1358,-136,-1367,-13678,-1368,
-137,-1378,-138,-14,-145,-1456,-14567,-145678,-14568,-1457,-14578,-1458,-146,-1467,-14678,-1468,
-147,-1478,-148,-15,-156,-1567,-15678,-1568,-157,-1578,-158,-16,-167,-1678,-168,-17,-178,-18,-2,
-23,-234,-2345,-23456,-234567,-2345678,-234568,-23457,-234578,-23458,-2346,-23467,-234678,-23468,
-2347,-23478,-2348,-235,-2356,-23567,-235678,-23568,-2357,-23578,-2358,-236,-2367,-23678,-2368,
-237,-2378,-238,-24,-245,-2456,-24567,-245678,-24568,-2457,-24578,-2458,-246,-2467,-24678,-2468,
-247,-2478,-248,-25,-256,-2567,-25678,-2568,-257,-2578,-258,-26,-267,-2678,-268,-27,-278,-28,-3,
-34,-345,-3456,-34567,-345678,-34568,-3457,-34578,-3458,-346,-3467,-34678,-3468,-347,-3478,-348,
-35,-356,-3567,-35678,-3568,-357,-3578,-358,-36,-367,-3678,-368,-37,-378,-38,-4,-45,-456,-4567,
-45678,-4568,-457,-4578,-458,-46,-467,-4678,-468,-47,-478,-48,-5,-56,-567,-5678,-568,-57,-578,-58,
-6,-67,-678,-68,-7,-78,-8)),BRAIN,BREAD,BREAK PERMITTED HERE,BREAST-FEEDING,BREVE,BRICK,BRIDE
 WITH VEIL,BRIDGE AT NIGHT,BRIEFCASE,BRIEFS,BROCCOLI,BROKEN( BAR, CIRCLE WITH NORTHWEST ARROW,
 HEART),BROOM,BROWN HEART,BS,BUBBLE TEA,BUBBLES,BUCKET,BUG,BUGINESE( END OF SECTION, LETTER( A,
 BA, CA, DA, GA, HA, JA, KA, LA, MA, MPA, NA, NGA, NGKA, NRA, NYA, NYCA, PA, RA, SA, TA, VA, YA),
 PALLAWA, VOWEL SIGN( AE, E, I, O, U)),BUHID( LETTER( A, BA, DA, GA, HA, I, KA, LA, MA, NA, NGA,
 PA, RA, SA, TA, U, WA, YA), VOWEL SIGN( I, U)),BUILDING CONSTRUCTION,BULLET(, OPERATOR),BULLHORN(
, WITH SOUND WAVES),BULLSEYE,BURRITO,BUS(, STOP),BUST IN SILHOUETTE,BUSTS IN SILHOUETTE,BUTTER,
BUTTERFLY,BYTE ORDER MARK,BYZANTINE MUSICAL SYMBOL( AGOGI( ARGI, ARGOTERI, GORGI, GORGOTERI, MESI,
 METRIA, POLI( ARGI, GORGI)), ANATRICHISMA, ANTIKENOKYLISMA, ANTIKENOMA, APESO( EKFONITIKON, EXO
 NEO), APLI, APODERMA( ARCHAION, NEO), APOSTROFOI( SYNDESMOS NEO, TELOUS ICHIMATOS), APOSTROFOS(,
 DIPLI, NEO), APOTHEMA, ARGON, ARGOSYNTHETON, ARKTIKO( DI, GA, KE, NI, PA, VOU, ZO), CHAMILI,
 CHAMILON, CHOREVMA( ARCHAION, NEO), CHROA( KLITON, SPATHI, ZYGOS), DASEIA, DIARGON, DIASTOLI(
 APLI( MEGALI, MIKRI), DIPLI, THESEOS), DIESIS( APLI DYO DODEKATA, DIGRAMMOS EX DODEKATA,
 MONOGRAMMOS TESSERA DODEKATA, TETARTIMORION, TRIGRAMMOS OKTO DODEKATA, TRITIMORION), DIFTOGGOS
 OU, DIGORGON(, PARESTIGMENON( ARISTERA( ANO, KATO), DEXIA)), DIGRAMMA GG, DIPLI(, ARCHAION), DYO,
 EKSTREPTON, ELAFRON, ENARXIS KAI FTHORA VOU, ENDOFONON, EPEGERMA, ETERON( ARGOSYNTHETON,
 PARAKALESMA), EXO EKFONITIKON, FANEROSIS( DIFONIAS, MONOFONIAS, TETRAFONIAS), FHTORA SKLIRON
 CHROMA VASIS, FTHORA( ARCHAION(, DEYTEROU ICHOU), DIATONIKI( DI, KE, NANA, NI( ANO, KATO), PA,
 ZO), ENARMONIOS ANTIFONIA, I YFESIS TETARTIMORION, MALAKON CHROMA( DIFONIAS, MONOFONIAS), NAOS
 ICHOS, NENANO, SKLIRON( CHROMA( SYNAFI, VASIS), DIATONON DI)), GENIKI( DIESIS, YFESIS), GORGON(
 ARCHAION, NEO( ANO, KATO), PARESTIGMENON( ARISTERA, DEXIA)), GORGOSYNTHETON, GORTHMIKON( N
 APLOUN, N DIPLOUN), GRONTHISMATA, ICHADIN, IMIDIARGON, IMIFONON, IMIFTHORA, IMIFTHORON, ISAKIA
 TELOUS ICHIMATOS, ISON( ARCHAION, NEO), KATAVA TROMIKON, KATAVASMA, KATHISTI, KENTIMA( ARCHAION,
 NEO( ANO, KATO, MESO)), KENTIMATA(, ARCHAION, NEO( ANO, KATO, MESO)), KLASMA(, ANO, KATO),
 KONTEVMA(, ALLO), KORONIS, KOUFISMA, KRATIMA( ALLO, ARCHAION, NEO), KRATIMATA, KRATIMOKOUFISMA,
 KRATIMOYPORROON, KREMASTI, KYLISMA, LEIMMA( DYO CHRONON, ENOS CHRONOU, IMISEOS CHRONOU, TESSARON
 CHRONON, TRION CHRONON), LEMOI, LYGISMA, MARTYRIA( ALLI( DEYTEROS ICHOS, PROTOS ICHOS), DEYTEROS
 ICHOS, LEGETOS ICHOS, PLAGIOS( ICHOS, TETARTOS ICHOS), PROTOS ICHOS, PROTOVARYS ICHOS, TETARTOS(
 ICHOS, LEGETOS ICHOS), TRIFONIAS, TRITOS ICHOS, VARYS ICHOS), MIKRON ISON, NANA, OLIGON(
 ARCHAION, NEO), OMALON, OXEIA( DIPLI, EKFONITIKON, NEO), OXEIAI ARCHAION, OYRANISMA( ARCHAION,
 NEO), PARAKALESMA( ARCHAION, NEO), PARAKLITIKI(, ARCHAION, NEO), PARICHON, PELASTON(, NEO),
 PERISPOMENI, PETASMA, PETASTI, PETASTOKOUFISMA, PIASMA( ARCHAION, NEO), PSIFISTOLYGISMA,
 PSIFISTON(, NEO), PSIFISTOPARAKALESMA, PSIFISTOSYNAGMA, PSILI, PSILON, RAPISMA, REVMA, SAXIMATA,
 SEISMA(, NEO), SIMANSIS( ARSEOS(, DISIMOU, TETRASIMOU, TRISIMOU), THESEOS(, DISIMOU, TETRASIMOU,
 TRISIMOU)), STAVROS(, APODEXIA), STIGMA, STRAGGISMATA, SYNAGMA( ARCHAION, META STAVROU, NEO),
 SYNEVMA, SYRMA, SYRMATIKI, TELEIA, TESSERA, TETRAPLI, THEMA(, APLOUN), THEMATISMOS( ESO, EXO),
 THES KAI APOTHES, THITA, TINAGMA, TRIA, TRIGORGON, TRIPLI, TROMIKOLYGISMA, TROMIKON( ALLO,
 ARCHAION, NEO), TROMIKOPARAKALESMA, TROMIKOPSIFISTON, TROMIKOSYNAGMA, VAREIA( DIPLI, EKFONITIKON,
 NEO), VAREIAI ARCHAION, VATHY, XIRON KLASMA, YFEN( ANO, KATO), YFESIS( APLI DYO DODEKATA,
 DIGRAMMOS EX DODEKATA, MONOGRAMMOS TESSERA DODEKATA, TRIGRAMMOS OKTO DODEKATA, TRITIMORION),
 YPOKRISIS(, DIPLI), YPORROI, YPSILI)"

/-- Names of characters, where parentheses hold the ways to go on from one start and line
ends mean nothing. -/
def characterNamesC : String :=
"CACTUS,CADA UNA,CADUCEUS,CALENDAR,CALL ME HAND,CAMERA(, WITH FLASH),CAMPING,CAN,CANADIAN
 SYLLABICS( A, AA, AAI, AAY, AI, AIVILIK B, AN, ATHAPASCAN( M, S), AY, BEAVER DENE( L, R),
 BIBLE-CREE Y, BLACKFOOT( A, E, I, KA, KE, KI, KO, NA, NE, NI, NO, O, S, W, WA, WE, WI, WO), C,
 CA, CAA, CAAI, CARRIER( CHA, CHE, CHEE, CHI, CHO, CHU, DEE, DENE GEE, DENTAL S, DI, DLA, DLE,
 DLEE, DLI, DLO, DLU, DZA, DZE, DZEE, DZI, DZO, DZU, EE, GA, GAA, GE, GEE, GHA, GHE, GHEE, GHI,
 GHO, GHU, GI, GO, GU, GWA, GWU, H, HEE, HI, HWA, HWE, HWEE, HWI, HWO, HWU, I, INITIAL Z, JA, JE,
 JEE, JI, JJA, JJE, JJEE, JJI, JJO, JJU, JO, JU, JWA, KHA, KHE, KHEE, KHI, KHO, KHU, KK, KKA, KKE,
 KKEE, KKI, KKO, KKU, LA, LE, LEE, LHA, LHE, LHEE, LHI, LHO, LHU, LI, LO, LU, MA, ME, MEE, MI, MO,
 MU, NA, NE, NEE, NG, NI, NO, NU, P, PA, PE, PEE, PI, PO, PU, RA, RE, REE, RI, RO, RU, SA, SE,
 SEE, SH, SHA, SHE, SHEE, SHI, SHO, SHU, SI, SO, SU, THA, THE, THEE, THI, THO, THU, TLA, TLE,
 TLEE, TLHA, TLHE, TLHEE, TLHI, TLHO, TLHU, TLI, TLO, TLU, TSA, TSE, TSEE, TSI, TSO, TSU, TTA,
 TTE, TTEE, TTI, TTO, TTSA, TTSE, TTSEE, TTSI, TTSO, TTSU, TTU, WA, WE, WEE, WI, WO, WU, YA, YE,
 YEE, YI, YO, YU, Z, ZA, ZE, ZEE, ZI, ZO, ZU), CE, CHI SIGN, CI, CII, CO, COO, CWA, CWAA, CWE,
 CWI, CWII, CWO, CWOO, E, EASTERN W, EN, F, FA, FAA, FAAI, FE, FI, FII, FINAL( ACUTE, BOTTOM HALF
 RING, DOUBLE( ACUTE, SHORT VERTICAL STROKES), DOWN TACK, GRAVE, MIDDLE DOT, PLUS, RAISED DOT,
 RIGHT HALF RING, RING, SHORT HORIZONTAL STROKE, SMALL RING, TOP HALF RING), FO, FOO, FULL STOP,
 FWAA, GLOTTAL STOP, HK, HYPHEN, I, II, IN, K, KA, KAA, KAAI, KAY, KE, KI, KII, KO, KOO, KW, KWA,
 KWAA, KWAY, KWE, KWI, KWII, KWO, KWOO, L, LA, LAA, LAAI, LAY, LE, LH, LHA, LHAA, LHI, LHII, LHO,
 LHOO, LI, LII, LO, LOO, LWA, LWAA, LWE, LWI, LWII, LWO, LWOO, M, MA, MAA, MAAI, MAY, ME, MEDIAL(
 L, R), MH, MI, MII, MO, MOO, MOOSE-CREE SK, MWA, MWAA, MWE, MWI, MWII, MWO, MWOO, N, N-CREE( THE,
 THI, THII), NA, NAA, NAAI, NASKAPI( CWAA, KWAA, MWAA, NWAA, S-W, SCWA, SKW, SKWA, SPWA, STWA,
 SWAA, TWAA, WAA, WOO, YWAA), NATTILIK( HA, HAA, HI, HII, HO, HOO, SHRA, SHRAA, SHRI, SHRII, SHRO,
 SHROO), NAY, NE, NG, NGA, NGAA, NGAAI, NGAI, NGI, NGII, NGO, NGOO, NH, NI, NII, NNG, NNGA, NNGAA,
 NNGI, NNGII, NNGO, NNGOO, NO, NOO, NOY, NUNAVIK( H, HA, HAA, HE, HI, HII, HO, HOO), NUNAVUT H,
 NWA, NWAA, NWE, NWI, NWII, NWO, NWOO, O, OJIBWAY( C, K, M, N, NWI, NWII, NWO, NWOO, P, S, SH, T),
 ON, OO, OY, P, PA, PAA, PAAI, PAY, PE, PI, PII, PO, POO, POY, PWA, PWAA, PWE, PWI, PWII, PWO,
 PWOO, PWOY, Q, QA, QAA, QAAI, QAI, QI, QII, QO, QOO, R, R-CREE( RE, RWE), RA, RAA, RAAI, RAY, RE,
 RI, RII, RO, ROO, RWA, RWAA, RWEE, RWI, RWII, RWO, RWOO, S, SA, SAA, SAAI, SAY, SAYISI( HA, HE,
 HI, HO, HOO, JI, JU, JUU, M, SHA, SHE, SHI, SHO, SHOO, SHWE, TH, YI), SE, SH, SHA, SHAA, SHAY,
 SHE, SHI, SHII, SHO, SHOO, SHOY, SHWA, SHWAA, SHWE, SHWI, SHWII, SHWO, SHWOO, SHWOY, SI, SII, SO,
 SOO, SOUTH-SLAVEY( KAH, KEH, KIH, KOH), SOY, SPA, SPE, SPI, SPO, SW, SWA, SWAA, SWE, SWI, SWII,
 SWO, SWOO, T, TA, TAA, TAAI, TAY, TE, TH(,-CREE( TH, THA, THAA, THE, THI, THII, THO, THOO)), THA,
 THAA, THE, THI, THII, THO, THOO, THWA, THWAA, THWE, TI, TII, TLHA, TLHE, TLHI, TLHO, TLHOO,
 TLHWE, TO, TOO, TTA, TTE, TTH, TTHA, TTHAA, TTHE, TTHI, TTHO, TTHOO, TTHWE, TTI, TTO, TWA, TWAA,
 TWE, TWI, TWII, TWO, TWOO, TYA, TYE, TYI, TYO, WA, WAA, WAY, WE, WEST-CREE( CWA, CWAA, CWE, CWI,
 CWII, CWO, CWOO, FWAA, KWA, KWAA, KWE, KWI, KWII, KWO, KWOO, L, LA, LAA, LE, LO, LOO, LWA, LWAA,
 LWE, LWI, LWII, LWO, LWOO, M, MWA, MWAA, MWE, MWI, MWII, MWO, MWOO, NWA, NWAA, NWE, P, PWA, PWAA,
 PWE, PWI, PWII, PWO, PWOO, R, RA, RE, RI, RO, RWAA, SHWA, SHWAA, SHWE, SHWI, SHWII, SHWO, SHWOO,
 SWA, SWAA, SWE, SWI, SWII, SWO, SWOO, THWAA, TWA, TWAA, TWE, TWI, TWII, TWO, TWOO, WA, WAA, WE,
 WI, WII, WO, WOO, Y, YWA, YWAA, YWE, YWI, YWII, YWO, YWOO), WESTERN W, WI, WII, WO, WOO,
 WOODS-CREE( FINAL TH, TH, THA, THE, THI, THO, THWA, THWAA, THWEE, THWI, THWII, THWO, THWOO), Y,
 Y-CREE( COO, KOO, LOO, MOO, NOO, OO, POO, PWAA, SOO, TOO, W, YOO), YA, YAA, YAAI, YAY, YE, YI,
 YII, YO, YOO, YOY, YWA, YWAA, YWE, YWI, YWII, YWO, YWOO),CANCEL(, CHARACTER, TAG),CANCELLATION X,
CANCER,CANDLE,CANDY,CANNED FOOD,CANOE,CAPITULUM,CAPRICORN,CAR SLIDING,CARD( FILE BOX, INDEX(,
 DIVIDERS)),CARE OF,CARET(, INSERTION POINT),CARIAN LETTER( A, A2, B, C-18, C-39, D, D2, E, E2, G,
 G2, I, II, K, K2, L, LD, LD2, M, MB, MB2, MB3, MB4, N, ND, NG, NN, O, P, P2, Q, R, RR, S, SH,
 SH2, SS, ST, ST2, T, TT, TT2, U, UU, UUU, UUU2, UUU3, UUUU, X),CARON,CAROUSEL HORSE,CARP
 STREAMER,CARPENTRY SAW,CARRIAGE RETURN,CARROT,CASTLE,CAT(, FACE(, WITH( TEARS OF JOY, WRY
 SMILE))),CAUCASIAN ALBANIAN( CITATION MARK, LETTER( ALT, AOR, BET, CAR, CAYN, CHA, CHAT, CHI,
 CHOY, CYAW, CYAY, DAT, DYAN, DZAY, DZYAY, EB, EYN, FAM, GHEYS, GIM, HEYT, INYA, IRB, IWN, JAYN,
 JHOX, KAR, KIW, LAN, LYIT, MAQ, NOWC, ON, PEN, PIWR, QAR, QAY, RAT, SEYK, SHA, SHAK, SHOY, TAS,
 TIWR, TYAY, VEYZ, XEYN, YAYD, YOWD, ZARL, ZHA, ZHIL)),CAUTION SIGN,CCH,CEDI SIGN,CEDILLA,CELTIC
 CROSS,CENT SIGN,CENTRE LINE SYMBOL,CENTRELINE( LOW LINE, OVERLINE),CERES,CGJ,CHAINS,CHAIR,CHAKMA(
 AU MARK, DANDA, DIGIT( EIGHT, FIVE, FOUR, NINE, ONE, SEVEN, SIX, THREE, TWO, ZERO), DOUBLE DANDA,
 LETTER( AA, BAA, BHAA, CAA, CHAA, DAA, DDAA, DDHAA, DHAA, E, GAA, GHAA, HAA, I, JAA, JHAA, KAA,
 KHAA, LAA, LHAA, MAA, NAA, NGAA, NNAA, NYAA, PAA, PHAA, RAA, SAA, TAA, THAA, TTAA, TTHAA, U, VAA,
 WAA, YAA, YYAA), MAAYYAA, O MARK, QUESTION MARK, SECTION MARK, SIGN( ANUSVARA, CANDRABINDU,
 VISARGA), VIRAMA, VOWEL SIGN( A, AA, AI, AU, E, EI, I, II, O, OI, U, UU)),CHAM( CONSONANT SIGN(
 FINAL( H, M, NG), LA, RA, WA, YA), DIGIT( EIGHT, FIVE, FOUR, NINE, ONE, SEVEN, SIX, THREE, TWO,
 ZERO), LETTER( A, AI, BA, BBA, BHA, CHA, CHHA, DA, DDA, DHA, E, FINAL( CH, G, K, L, N, NG, P, R,
 SS, T, Y), GA, GHA, HA, I, JA, JHA, KA, KHA, LA, MA, MUE, NA, NGA, NGUE, NHA, NHJA, NHUE, NUE, O,
 PA, PHA, PPA, RA, SA, SSA, TA, THA, U, VA, YA), PUNCTUATION( DANDA, DOUBLE DANDA, SPIRAL, TRIPLE
 DANDA), VOWEL SIGN( AA, AI, AU, EI, I, II, O, OE, U, UE)),CHARACTER( TABULATION(, SET, WITH
 JUSTIFICATION), TIE),CHART WITH( DOWNWARDS TREND, UPWARDS TREND(, AND YEN SIGN)),CHECK MARK,
CHECKER BOARD(, FILL),CHEERING MEGAPHONE,CHEESE WEDGE,CHEQUERED FLAG,CHEROKEE( LETTER( A, DA, DE,
 DI, DLA, DO, DU, DV, E, GA, GE, GI, GO, GU, GV, HA, HE, HI, HNA, HO, HU, HV, I, KA, LA, LE, LI,
 LO, LU, LV, MA, ME, MI, MO, MU, MV, NA, NAH, NE, NI, NO, NU, NV, O, QUA, QUE, QUI, QUO, QUU, QUV,
 S, SA, SE, SI, SO, SU, SV, TA, TE, TI, TLA, TLE, TLI, TLO, TLU, TLV, TSA, TSE, TSI, TSO, TSU,
 TSV, U, V, WA, WE, WI, WO, WU, WV, YA, YE, YI, YO, YU, YV), SMALL LETTER( A, DA, DE, DI, DLA, DO,
 DU, DV, E, GA, GE, GI, GO, GU, GV, HA, HE, HI, HNA, HO, HU, HV, I, KA, LA, LE, LI, LO, LU, LV,
 MA, ME, MI, MO, MU, MV, NA, NAH, NE, NI, NO, NU, NV, O, QUA, QUE, QUI, QUO, QUU, QUV, S, SA, SE,
 SI, SO, SU, SV, TA, TE, TI, TLA, TLE, TLI, TLO, TLU, TLV, TSA, TSE, TSI, TSO, TSU, TSV, U, V, WA,
 WE, WI, WO, WU, WV, YA, YE, YI, YO, YU, YV)),CHERRIES,CHERRY BLOSSOM,CHESTNUT,CHI RHO,CHICKEN,
CHILD,CHILDREN CROSSING,CHIPMUNK,CHIRON,CHOCOLATE BAR,CHOPSTICKS,CHORASMIAN( LETTER( ALEPH, AYIN,
 BETH, CURLED WAW, DALETH, GIMEL, HE, HETH, KAPH, LAMEDH, MEM, NUN, PE, RESH, SAMEKH, SHIN, SMALL
 ALEPH, TAW, WAW, YODH, ZAYIN), NUMBER( FOUR, ONE(, HUNDRED), TEN, THREE, TWENTY, TWO)),CHRISTMAS
 TREE,CHURCH,CINEMA,CIRCLE( DIVIDED BY HORIZONTAL BAR AND TOP HALF DIVIDED BY VERTICAL BAR, WITH(
 ALL BUT UPPER LEFT QUADRANT BLACK, HORIZONTAL BAR, LEFT HALF BLACK, LOWER HALF BLACK, RIGHT HALF
 BLACK, SMALL CIRCLE TO THE RIGHT, SUPERIMPOSED X, TWO HORIZONTAL STROKES TO THE RIGHT, UPPER(
 HALF BLACK, RIGHT QUADRANT BLACK), VERTICAL FILL)),CIRCLED( ANTICLOCKWISE( ARROW,-ROTATED
 DIVISION SIGN), ASTERISK OPERATOR, BOLD X, BULLET, C WITH OVERLAID BACKSLASH, CC, CD, CROSS(
 FORMEE(, WITH( FOUR DOTS, TWO DOTS)), POMMEE), CROSSING LANES, DASH, DIGIT( EIGHT, FIVE, FOUR,
 NINE, ONE, SEVEN, SIX, THREE, TWO, ZERO), DIVISION( SIGN, SLASH), DOLLAR SIGN WITH OVERLAID
 BACKSLASH, DOT OPERATOR, EQUALS, GREATER-THAN, HANGUL( CHIEUCH(, A), CIEUC(, A), HIEUH(, A),
 IEUNG(, A, U), KHIEUKH(, A), KIYEOK(, A), MIEUM(, A), NIEUN(, A), PHIEUPH(, A), PIEUP(, A),
 RIEUL(, A), SIOS(, A), THIEUTH(, A), TIKEUT(, A)), HEAVY WHITE RIGHTWARDS ARROW, HORIZONTAL BAR
 WITH NOTCH, HUMAN FIGURE, IDEOGRAPH( ACCEPT, ADVANTAGE, ALLIANCE, ATTENTION, CENTRE,
 CONGRATULATION, COPY, CORRECT, EARTH, EIGHT, ENTERPRISE, EXCELLENT, FEMALE, FINANCIAL, FIRE,
 FIVE, FOUR, HAVE, HIGH, ITEM, KINDERGARTEN, KOTO, LABOR, LEFT, LOW, MALE, MEDICINE, METAL, MOON,
 NAME, NIGHT, NINE, ONE, PRINT, QUESTION, RELIGION, RESOURCE, REST, RIGHT, SCHOOL, SECRET, SEVEN,
 SIX, SOCIETY, SPECIAL, STOCK, STUDY, SUITABLE, SUN, SUPERVISE, TEN, THREE, TWO, WATER, WOOD),
 INFORMATION SOURCE, ITALIC LATIN CAPITAL LETTER( C, R), KATAKANA( A, E, HA, HE, HI, HO, HU, I,
 KA, KE, KI, KO, KU, MA, ME, MI, MO, MU, NA, NE, NI, NO, NU, O, RA, RE, RI, RO, RU, SA, SE, SI,
 SO, SU, TA, TE, TI, TO, TU, U, WA, WE, WI, WO, YA, YO, YU), KOREAN CHARACTER( CHAMKO, JUEUI),
 LATIN( CAPITAL LETTER( A, B, C, D, E, F, G, H, I, J, K, L, M, N, O, P, Q, R, S, T, U, V, W, X, Y,
 Z), SMALL LETTER( A, B, C, D, E, F, G, H, I, J, K, L, M, N, O, P, Q, R, S, T, U, V, W, X, Y, Z)),
 LESS-THAN, MINUS, MULTIPLICATION SIGN WITH CIRCUMFLEX ACCENT, NUMBER( EIGHTEEN, EIGHTY ON BLACK
 SQUARE, ELEVEN, FIFTEEN, FIFTY(, ON BLACK SQUARE), FORTY(, EIGHT, FIVE, FOUR, NINE, ON BLACK
 SQUARE, ONE, SEVEN, SIX, THREE, TWO), FOURTEEN, NINETEEN, SEVENTEEN, SEVENTY ON BLACK SQUARE,
 SIXTEEN, SIXTY ON BLACK SQUARE, TEN(, ON BLACK SQUARE), THIRTEEN, THIRTY(, EIGHT, FIVE, FOUR,
 NINE, ON BLACK SQUARE, ONE, SEVEN, SIX, THREE, TWO), TWELVE, TWENTY(, EIGHT, FIVE, FOUR, NINE,
 ON BLACK SQUARE, ONE, SEVEN, SIX, THREE, TWO)), OPEN CENTRE EIGHT POINTED STAR, PARALLEL,
 PERPENDICULAR, PLUS, POSTAL MARK, REVERSE SOLIDUS, RING OPERATOR, SQUARE, TIMES, TRIANGLE(,
 DOWN), VERTICAL BAR, WHITE( BULLET, STAR), WZ, X, ZERO WITH SLASH),CIRCULATION FUNCTION,
CIRCUMFLEX ACCENT,CIRCUS TENT,CITYSCAPE(, AT DUSK),CJK( RADICAL( BAMBOO, BLUE, BOLT OF CLOTH,
 BONE, BOX, BRUSH( ONE, TWO), C-SIMPLIFIED( BIRD, CART, DRAGON, EAT, EVEN, FISH, FLY, FROG, GATE,
 GOLD, HORSE, LEAF, LONG, SALT, SEE, SHELL, SILK, SPEECH, TANNED LEATHER, TOOTH, TURTLE, WIND),
 CHOKE, CITY, CIVILIAN, CLIFF, CLOTHES, COW, DEATH, DIVINATION, DOG, EAT( ONE, THREE, TWO), EWE,
 EYE, FIRE, FOOT, GHOST, GRASS( ONE, THREE, TWO), HAND, HEAD, HEART( ONE, TWO), HORN,
 J-SIMPLIFIED( DRAGON, EVEN, TOOTH, TURTLE), JADE, KNIFE( ONE, TWO), LAME( FOUR, ONE, THREE, TWO),
 LONG( ONE, TWO), MEAT, MESH, MOON, MORTAR, MOTHER, MOUND( ONE, TWO), NET( FOUR, ONE, THREE, TWO),
 OLD, PAW( ONE, TWO), PERSON, RAIN, RAM, RAP, REPEAT, SEAL, SECOND( ONE, THREE, TWO), SHEEP, SILK,
 SIMPLIFIED( HALF TREE TRUNK, HORN, WALK, WHEAT, YELLOW), SMALL( ONE, TWO), SNAKE, SNOUT( ONE,
 TWO), SPIRIT( ONE, TWO), SUN, TABLE, THREAD, TIGER, TURTLE, WALK( ONE, TWO), WATER( ONE, TWO),
 WEST( ONE, TWO)), STROKE( BXG, D, H, HG, HP, HPWG, HXWG, HZ, HZG, HZT, HZW, HZWG, HZZ, HZZP,
 HZZZ, HZZZG, N, P, PD, PG, PZ, Q, S, SG, SP, ST, SW, SWG, SWZ, SZ, SZWG, SZZ, T, TN, WG, XG)),
CLAMSHELL MOBILE PHONE,CLAPPER BOARD,CLAPPING HANDS SIGN,CLASSICAL BUILDING,CLEAR SCREEN SYMBOL,
CLINKING( BEER MUGS, GLASSES),CLIPBOARD,CLOCK FACE( EIGHT( OCLOCK,-THIRTY), ELEVEN( OCLOCK,
-THIRTY), FIVE( OCLOCK,-THIRTY), FOUR( OCLOCK,-THIRTY), NINE( OCLOCK,-THIRTY), ONE( OCLOCK,
-THIRTY), SEVEN( OCLOCK,-THIRTY), SIX( OCLOCK,-THIRTY), TEN( OCLOCK,-THIRTY), THREE( OCLOCK,
-THIRTY), TWELVE( OCLOCK,-THIRTY), TWO( OCLOCK,-THIRTY)),CLOCKWISE( CLOSED CIRCLE ARROW, CONTOUR
 INTEGRAL, DOWNWARDS AND UPWARDS OPEN CIRCLE ARROWS, GAPPED CIRCLE ARROW, INTEGRAL, OPEN CIRCLE
 ARROW, RIGHT AND LEFT SEMICIRCLE ARROWS, RIGHTWARDS AND LEFTWARDS OPEN CIRCLE ARROWS(, WITH
 CIRCLED ONE OVERLAY), TOP SEMICIRCLE ARROW, TRIANGLE-HEADED OPEN CIRCLE ARROW),CLOSE UP,CLOSED(
 BOOK, INTERSECTION WITH SERIFS, LOCK WITH KEY, MAILBOX WITH( LOWERED FLAG, RAISED FLAG), SUBSET(,
 OR EQUAL TO), SUPERSET(, OR EQUAL TO), UMBRELLA, UNION WITH SERIFS(, AND SMASH PRODUCT)),CLOUD(,
 WITH( LIGHTNING, RAIN, SNOW, TORNADO)),CLOWN FACE,COAT,COCKROACH,COCKTAIL GLASS,COCONUT,COFFIN,
COIN,COLLISION SYMBOL,COLON(, EQUALS, SIGN),COMBINING( ACUTE( ACCENT(, BELOW), TONE MARK,
-GRAVE-ACUTE,-MACRON), ALMOST EQUAL TO( ABOVE, BELOW), ANNUITY SYMBOL, ANTICLOCKWISE( ARROW ABOVE,
 RING OVERLAY), ASTERISK( ABOVE, BELOW), BINDU BELOW, BREVE(, BELOW,-MACRON), BRIDGE( ABOVE,
 BELOW), CANDRABINDU, CARON(, BELOW), CEDILLA, CIRCUMFLEX ACCENT(, BELOW), CLOCKWISE( ARROW ABOVE,
 RING OVERLAY), COMMA( ABOVE(, RIGHT), BELOW), CONJOINING MACRON(, BELOW), CYRILLIC( DASIA
 PNEUMATA, HUNDRED( MILLIONS SIGN, THOUSANDS SIGN), KAVYKA, LETTER( A, BE, BIG YUS, CHE, DE,
 DJERV, EF, EL, EM, EN, ER, ES(,-TE), FITA, GHE, HA, HARD SIGN, I, IE, IOTIFIED( A, BIG YUS, E),
 KA, LITTLE YUS, MONOGRAPH UK, O, OMEGA, PE, SHA, SHCHA, SOFT SIGN, TE, TSE, U, UKRAINIAN IE, VE,
 YAT, YERU, YI, YU, ZE, ZHE), MILLIONS SIGN, PALATALIZATION, PAYEROK, POKRYTIE, PSILI PNEUMATA,
 TEN MILLIONS SIGN, THOUSAND MILLIONS SIGN, TITLO(, LEFT HALF, RIGHT HALF), VZMET), DELETION MARK,
 DEVANAGARI( DIGIT( EIGHT, FIVE, FOUR, NINE, ONE, SEVEN, SIX, THREE, TWO, ZERO), LETTER( A, KA,
 NA, PA, RA, U, VI), SIGN AVAGRAHA), DIAERESIS(, BELOW,-RING), DOT( ABOVE(, LEFT, RIGHT), BELOW(,
 LEFT)), DOTTED( ACUTE ACCENT, GRAVE ACCENT), DOUBLE( ACUTE ACCENT, BREVE(, BELOW), CIRCUMFLEX
 ABOVE, GRAVE ACCENT, INVERTED BREVE(, BELOW), LOW LINE, MACRON(, BELOW), OPEN MARK BELOW,
 OVERLINE, PARENTHESES ABOVE, PLUS SIGN( ABOVE, BELOW), RIGHTWARDS ARROW BELOW, RING BELOW, TILDE(
, LEFT HALF, RIGHT HALF), VERTICAL( LINE( ABOVE, BELOW), STROKE OVERLAY)), DOUBLED CIRCUMFLEX
 ACCENT, DOWN TACK BELOW, DOWNWARDS ARROW, ENCLOSING( CIRCLE(, BACKSLASH), DIAMOND, KEYCAP,
 SCREEN, SQUARE, UPWARD POINTING TRIANGLE), EQUALS SIGN BELOW, FERMATA, FOUR DOTS ABOVE,
 GLAGOLITIC LETTER( AZU, BIG YUS, BUKY, CHRIVI, DJERVI, DOBRO, FITA, FRITU, GLAGOLI, HERU, I,
 INITIAL IZHE, IOTATED( BIG YUS, SMALL YUS), IZHE, KAKO, LJUDIJE, MYSLITE, NASHI, ONU, POKOJI,
 RITSI, SHA, SHTA, SLOVO, SMALL YUS, TSI, TVRIDO, UKU, VEDE, YATI, YERI, YERU, YESTU, YO, YU,
 ZEMLJA, ZHIVETE), GRANTHA( DIGIT( FIVE, FOUR, ONE, SIX, THREE, TWO, ZERO), LETTER( A, KA, NA, PA,
 VI)), GRAPHEME JOINER, GRAVE( ACCENT(, BELOW), TONE MARK,-ACUTE-GRAVE,-MACRON), GREEK( DIALYTIKA
 TONOS, KORONIS, MUSICAL( PENTASEME, TETRASEME, TRISEME), PERISPOMENI, YPOGEGRAMMENI), HOMOTHETIC
 ABOVE, HOOK ABOVE, HORN, INFINITY, INVERTED( BREVE(, BELOW), BRIDGE BELOW, DOUBLE ARCH( ABOVE,
 BELOW)), IS BELOW, KATAKANA-HIRAGANA( SEMI-VOICED SOUND MARK, VOICED SOUND MARK), KAVYKA ABOVE(
 LEFT, RIGHT), LATIN( LETTER SMALL CAPITAL( G, L, M, N, R), SMALL LETTER( A, A WITH DIAERESIS, AE,
 ALPHA, AO, AV, B, BETA, C, C CEDILLA, D, E, ESH, ETH, F, FLATTENED OPEN A ABOVE, G, H, I,
 INSULAR( D, G, R, T), K, L, L WITH DOUBLE MIDDLE TILDE, LONG S, M, N, O, O WITH( DIAERESIS,
 LIGHT CENTRALIZATION STROKE), P, R(, BELOW, ROTUNDA), S, SCHWA, T, TURNED W BELOW, U, U WITH(
 DIAERESIS, LIGHT CENTRALIZATION STROKE), V, W, W BELOW, X, Z)), LEFT( ANGLE( ABOVE, BELOW),
 ARROW( ABOVE, BELOW), ARROWHEAD( ABOVE, BELOW), HALF RING( ABOVE, BELOW), HARPOON ABOVE,
 PARENTHESIS( ABOVE LEFT, BELOW LEFT), RIGHT ARROW( ABOVE, BELOW), TACK BELOW), LEFTWARDS( ARROW
 OVERLAY, HARPOON WITH BARB DOWNWARDS), LIGATURE( LEFT HALF(, BELOW), RIGHT HALF(, BELOW)), LIGHT
 CENTRALIZATION STROKE BELOW, LONG( DOUBLE SOLIDUS OVERLAY, SOLIDUS OVERLAY, STROKE OVERLAY,
 VERTICAL LINE OVERLAY), LOW LINE, MACRON(, BELOW, LEFT HALF(, BELOW), RIGHT HALF(, BELOW),-ACUTE,
-BREVE,-GRAVE), MINUS SIGN BELOW, NOT TILDE ABOVE, NUMBER SIGN ABOVE, OGONEK(, ABOVE), OLD PERMIC
 LETTER( AN, DOI, NENOE, SII, ZATA), OPEN MARK BELOW, OVERLINE, PALATALIZED HOOK BELOW,
 PARENTHESES( ABOVE, BELOW, OVERLAY), PLUS SIGN( ABOVE, BELOW), RETROFLEX HOOK BELOW, REVERSE
 SOLIDUS OVERLAY, REVERSED COMMA ABOVE, RIGHT( ARROW( ABOVE, BELOW), ARROWHEAD( ABOVE, AND( DOWN
 ARROWHEAD BELOW, UP ARROWHEAD BELOW), BELOW), HALF RING( ABOVE, BELOW), HARPOON ABOVE,
 PARENTHESIS( ABOVE RIGHT, BELOW RIGHT), TACK BELOW), RIGHTWARDS HARPOON WITH BARB DOWNWARDS,
 RING( ABOVE, BELOW, OVERLAY), SEAGULL BELOW, SHORT( SOLIDUS OVERLAY, STROKE OVERLAY, VERTICAL
 LINE OVERLAY), SNAKE BELOW, SQUARE( BELOW, BRACKETS ABOVE), STRONG CENTRALIZATION STROKE BELOW,
 SUSPENSION MARK, THREE DOTS ABOVE, TILDE(, BELOW, LEFT HALF BELOW, OVERLAY, RIGHT HALF BELOW),
 TRIPLE( ACUTE ACCENT, DOT, UNDERDOT), TURNED COMMA ABOVE, UP TACK( ABOVE, BELOW), UPWARDS ARROW
 BELOW, UR ABOVE, US ABOVE, VERTICAL( LINE( ABOVE, BELOW), TILDE), WIDE( BRIDGE ABOVE, INVERTED
 BRIDGE BELOW), WIGGLY LINE BELOW, X( ABOVE, BELOW,-X BELOW), ZIGZAG( ABOVE, BELOW)),COMET,COMMA,
COMMERCIAL( AT, MINUS SIGN),COMPASS,COMPLEMENT,COMPOSITION SYMBOL,COMPRESSION,CONFETTI BALL,
CONFOUNDED FACE,CONFUSED FACE,CONGRUENT WITH DOT ABOVE,CONICAL TAPER,CONJUNCTION,CONSTRUCTION(
 SIGN, WORKER),CONTAINS( AS( MEMBER, NORMAL SUBGROUP(, OR EQUAL TO)), WITH( LONG HORIZONTAL
 STROKE, OVERBAR, VERTICAL BAR AT END OF HORIZONTAL STROKE)),CONTINUOUS UNDERLINE SYMBOL,CONTOUR
 INTEGRAL,CONTROL( KNOBS, SEQUENCE INTRODUCER),CONVENIENCE STORE,COOKED RICE,COOKIE,COOKING,
COPTIC( CAPITAL LETTER( AKHMIMIC KHEI, ALFA, BOHAIRIC KHEI, CROSSED SHEI, CRYPTOGRAMMIC( EIE,
 GANGIA, NI, SHEI), DALDA, DEI, DIALECT-P( ALEF, HORI, KAPA, NI), EIE, FEI, FI, GAMMA, GANGIA,
 HATE, HORI, IAUDA, KAPA, KHEI, KHI, KSI, L-SHAPED HA, LAULA, MI, NI, O, OLD( COPTIC( AIN, DJA,
 ESH, GANGIA, HA, HAT, HEI, HORI, OOU, SHEI, SHIMA), NUBIAN( NGI, NYI, SHIMA, WAU)), OOU, PI, PSI,
 RO, SAMPI, SHEI, SHIMA, SIMA, SOU, TAU, THETHE, UA, VIDA, ZATA), COMBINING( NI ABOVE, SPIRITUS(
 ASPER, LENIS)), EPACT( DIGIT( EIGHT, FIVE, FOUR, NINE, ONE, SEVEN, SIX, THREE, TWO), NUMBER(
 EIGHT HUNDRED, EIGHTY, FIFTY, FIVE HUNDRED, FORTY, FOUR HUNDRED, NINE HUNDRED, NINETY, ONE
 HUNDRED, SEVEN HUNDRED, SEVENTY, SIX HUNDRED, SIXTY, TEN, THIRTY, THREE HUNDRED, TWENTY, TWO
 HUNDRED), THOUSANDS MARK), FRACTION ONE HALF, FULL STOP, MORPHOLOGICAL DIVIDER, OLD NUBIAN(
 DIRECT QUESTION MARK, FULL STOP, INDIRECT QUESTION MARK, VERSE DIVIDER), SMALL LETTER( AKHMIMIC
 KHEI, ALFA, BOHAIRIC KHEI, CROSSED SHEI, CRYPTOGRAMMIC( EIE, GANGIA, NI, SHEI), DALDA, DEI,
 DIALECT-P( ALEF, HORI, KAPA, NI), EIE, FEI, FI, GAMMA, GANGIA, HATE, HORI, IAUDA, KAPA, KHEI,
 KHI, KSI, L-SHAPED HA, LAULA, MI, NI, O, OLD( COPTIC( AIN, DJA, ESH, GANGIA, HA, HAT, HEI, HORI,
 OOU, SHEI, SHIMA), NUBIAN( NGI, NYI, SHIMA, WAU)), OOU, PI, PSI, RO, SAMPI, SHEI, SHIMA, SIMA,
 SOU, TAU, THETHE, UA, VIDA, ZATA), SYMBOL( KAI, KHI RO, MI RO, PI RO, SHIMA SIMA, STAUROS, TAU
 RO)),COPY(LEFT SYMBOL,RIGHT SIGN),CORAL,CORNISH VERSE DIVIDER,CORRESPONDS TO,COUCH AND LAMP,
COUNTERBORE,COUNTERSINK,COUNTING ROD( TENS DIGIT( EIGHT, FIVE, FOUR, NINE, ONE, SEVEN, SIX, THREE,
 TWO), UNIT DIGIT( EIGHT, FIVE, FOUR, NINE, ONE, SEVEN, SIX, THREE, TWO)),COUPLE WITH HEART,COW(,
 FACE),CR,CRAB,CREDIT CARD,CRESCENT MOON,CRICKET(, BAT AND BALL),CROCODILE,CROISSANT,CROSS( MARK,
 OF( JERUSALEM, LORRAINE), PATTY WITH( LEFT CROSSBAR, RIGHT CROSSBAR), POMMEE(, WITH HALF-CIRCLE
 BELOW)),CROSSED( FLAGS, NEGATIVE SQUARED LATIN CAPITAL LETTER P, SWORDS),CROSSING LANES,CROWN,
CRUTCH,CRUZEIRO SIGN,CRYING( CAT FACE, FACE),CRYSTAL BALL,CSI,CUBE ROOT,CUCUMBER,CUNEIFORM(
 NUMERIC SIGN( EIGHT( ASH, DISH, GESH2, SHAR2, U, U VARIANT FORM, VARIANT FORM( USSU, USSU3)),
 ELAMITE( FIFTY, FORTY, ONE THIRD, TWO THIRDS), FIVE( ASH(, TENU), BAN2(, VARIANT FORM), BURU,
 DISH, GESH2, GESHU, SHAR2, SHARU, SIXTHS DISH, U, U VARIANT FORM), FOUR( ASH(, TENU), BAN2(,
 VARIANT FORM), BURU, DISH, GESH2, GESHU, SHAR2, SHARU, U, U VARIANT FORM, VARIANT FORM( LIMMU(,
 A, B), LIMMU4)), NIGIDAESH, NIGIDAMIN, NINE( ASH, DISH, GESH2, SHAR2, U, U VARIANT FORM, VARIANT
 FORM( ILIMMU(, A), ILIMMU3, ILIMMU4)), OLD ASSYRIAN ONE( QUARTER, SIXTH), ONE( BAN2, BURU,
 EIGHTH ASH, ESHE3, GESH2, GESHU, HALF GUR, QUARTER( ASH, GUR), SHARU, THIRD( DISH, VARIANT FORM
 A)), SEVEN( ASH, DISH, GESH2, SHAR2, U, U VARIANT FORM, VARIANT FORM( IMIN( A, B), IMIN3)),
 SHAR2 TIMES GAL PLUS( DISH, MIN), SIX( ASH(, TENU), DISH, GESH2, SHAR2, U, U VARIANT FORM,
 VARIANT FORM ASH9), THREE( ASH(, TENU), BAN2, BURU(, VARIANT FORM), DISH, GESH2, GESHU, SHAR2(,
 VARIANT FORM), SHARU(, VARIANT FORM), VARIANT FORM( ESH16, ESH21)), TWO( ASH(, TENU), BAN2, BURU,
 ESHE3, GESH2, GESHU, SHAR2, SHARU, THIRDS( DISH, VARIANT FORM A))), PUNCTUATION SIGN( DIAGONAL(
 COLON, QUADCOLON, TRICOLON), OLD ASSYRIAN WORD DIVIDER, VERTICAL COLON), SIGN( A, A TIMES( A,
 BAD, GAN2 TENU, HA, IGI, LAGAR GUNU, MUSH, SAG), A2, AB(, GUNU, TIMES( ASH2, DUN3 GUNU, GAL,
 GAN2 TENU, HA, IGI GUNU, IMIN, LAGAB, NUN(, TENU), SHESH, SHU2, U PLUS U PLUS U)), AB2(, TIMES(
 A, BALAG, GAN2 TENU, ME PLUS EN, SHA3, TAK4)), AD(, TIMES ESH2), AK(, TIMES( ERIN2, SHITA PLUS
 GISH)), AL(, TIMES( AL, DIM2, GISH, HA, KAD3, KI, SHE, USH)), ALAN, ALEPH, AMAR(, TIMES( KUG,
 SHE)), AN(, OVER AN, PLUS NAGA( OPPOSING AN PLUS NAGA, SQUARED), THREE TIMES), ANSHE, APIN, ARAD(
, TIMES KUR), ARKAB, ASAL2, ASH(, KABA TENU, OVER ASH( OVER ASH(, CROSSING ASH OVER ASH OVER ASH),
 TUG2 OVER TUG2 TUG2 OVER TUG2 PAP), ZIDA TENU), ASH2, ASHGAB, BA, BAD(, TIMES DISH TENU), BAG3,
 BAHAR2(, TIMES( AB2, NI, ZA)), BAL(, OVER BAL), BALAG, BAR, BARA2, BI(, TIMES( A, GAR, IGI
 GUNU)), BU(, CROSSING BU, OVER BU( AB, TIMES NA2, UN)), BULUG(, OVER BULUG), BUR, BUR2, DA(,
 TIMES TAK4), DAG(, KISIM5 TIMES( A PLUS MASH, AMAR, BALAG, BI, GA(, PLUS MASH), GI, GIR2, GUD,
 HA, IR(, PLUS LU), KAK, LA, LU(, PLUS MASH2), LUM, NE, PAP PLUS PAP, SI, TAK4, U2 PLUS( GIR2,
 MASH), USH), TIMES KUR), DAG3, DAM, DAR, DARA3, DARA4, DI, DIB, DIM(, TIMES( IGI, SHE, U U U)),
 DIM2(, TIMES UD), DIN(, KASKAL U GUNU DISH), DISH(, PLUS SHU), DU(, GUNU, OVER DU, SHESHIG), DUB(
, TIMES( ESH2, SHE)), DUB2, DUG(, TIMES( ANSHE, ASH(, AT LEFT), DIN, DUN, ERIN2, GA, GI, GIR2
 GUNU, GISH, HA, HI, IGI GUNU, KASKAL, KUR, KUSHU2(, PLUS KASKAL), LAK-020, LAM(, TIMES KUR), LUH
 PLUS GISH, MASH, MES, MI, NI, PI, SHE, SI GUNU)), DUGUD, DUH, DUN, DUN3(, GUNU(, GUNU)), DUN4,
 DUR2, E(, OVER E NUN OVER NUN, TIMES PAP), E2(, TIMES( A PLUS HA PLUS DA, GAR, KUR, MI, PAP, SAL,
 SHE, U)), EDIN, EGIR, EL, EN(, CROSSING EN, OPPOSING EN, SQUARED, TIMES( GAN2(, TENU), ME)),
 EREN, ERIN2(, X), ESH2(, CROSSING ESH2), EZEN(, SHESHIG TIMES( ASH, HI, IGI GUNU, LA, LAL, ME,
 MES, SU), TIMES( A, A PLUS LAL(, TIMES LAL), AN, BAD, DUN3 GUNU(, GUNU), GUD, HA(, GUNU), IGI
 GUNU, KASKAL(, SQUARED), KU3, LA, LAL TIMES LAL, LI, LU, SHE, SU, U2, UD)), GA(, GUNU), GA2(,
 OVER GA2, TIMES( A PLUS( DA PLUS HA, HA, IGI), AB2 TENU PLUS TAB, AN(, PLUS KAK PLUS A), ASH,
 ASH2(, PLUS GAL), BAD, BAHAR2, BAR PLUS RA, BUR(, PLUS RA), DA, DI, DIM( GUNU, TIMES SHE), DUB,
 DUG TIMES( IGI GUNU, KASKAL), EL(, PLUS LA), EN(, TIMES GAN2 TENU), EREN, GA, GAN2 TENU, GAR(,
 PLUS( DI, NE)), GI, GI4(, PLUS A), GIR2 PLUS SU, HA PLUS( A, LU PLUS ESH2), HAL(, PLUS LA), HI
 PLUS LI, HUB2, IGI GUNU, ISH PLUS HU PLUS ASH, KAK, KASKAL, KID(, PLUS LAL), KU3 PLUS AN, KUSHU2
 PLUS KASKAL, LA, LAM(, TIMES KUR), LUH, ME PLUS EN, MI, MUSH, NE(, PLUS( E2, GI)), NUN(, OVER
 NUN), PA, SAL, SAR, SHE(, PLUS TUR), SHID, SHIM, SUM, TAK4, U, UD(, PLUS DU), ZIZ2)), GABA(,
 CROSSING GABA, ROTATED NINETY DEGREES), GAD(, OVER GAD GAR OVER GAR), GAL(, GAD OVER GAD GAR
 OVER GAR), GALAM, GAM, GAN, GAN2(, CROSSING GAN2, OVER GAN2, TENU), GAR, GAR3, GASHAN, GE22,
 GESHTIN(, TIMES( KUR, U)), GI(, CROSSING GI, TIMES( E, U)), GI4(, CROSSING GI4, OVER GI4), GIDIM,
 GIG, GIR2(, GUNU), GIR3(, TIMES( A PLUS IGI, GAN2 TENU, IGI, LU PLUS IGI, PA)), GISAL, GISH(,
 CROSSING GISH, TENU, TIMES( BAD, GISH CROSSING GISH, TAK4)), GU(, CROSSING GU), GU2(, GUNU,
 TIMES( IGI GUNU, KAK(, TIMES IGI GUNU), NUN, SAL PLUS TUG2)), GUD(, OVER GUD LUGAL, PLUS GISH
 TIMES TAK4, TIMES( A PLUS KUR, KUR)), GUL, GUM(, TIMES SHE), GUR, GUR7, GURUN, GURUSH, HA(, GUNU,
 TENU(, GUNU)), HAL, HI(, TIMES( ASH(, OVER HI TIMES ASH), ASH2, BAD, DISH, GAD, KIN, NUN, SHE,
 U)), HU, HUB2(, TIMES( AN, HAL, KASKAL, LISH, UD)), HUL2, HUSH, I, I A, IB, IDIM(, OVER IDIM(
 BUR, SQUARED)), IG, IGI(, DIB, GUNU, OVER IGI SHIR OVER SHIR UD OVER UD, RI), IL(, TIMES GAN2
 TENU), IL2, IM(, CROSSING IM, OPPOSING IM, SQUARED, TIMES TAK4), IMIN, IN, IR, ISH, KA(, TIMES(
 A, AD(, PLUS KU3), ANSHE, ASH2, ASH3, BAD, BALAG, BAR, BI, BU, ERIN2, ESH2, GA, GAL, GAN2 TENU,
 GAR(, PLUS SHA3 PLUS A), GI, GIR2, GISH(, CROSSING GISH, PLUS SAR), GU, GUD, GUR7, HI TIMES ASH2,
 IGI, IM, KA, KAK, KI, KID, LI, LU, LUM, ME(, PLUS( DU, GI, TE)), MI(, PLUS NUNUZ), NE, NUN, PA,
 PI, RU, SA, SAR, SHA, SHE, SHID, SHU, SHUL, SIG, SUHUR, TAR, TU, U, U U U, U2, UD, UMUM TIMES PA,
 UR, UR2, USH, ZI)), KA2(, CROSSING KA2), KAB, KAD2, KAD3, KAD4, KAD5(, OVER KAD5), KAK(, TIMES
 IGI GUNU), KAL(, CROSSING KAL, TIMES BAD), KAM2, KAM4, KAP ELAMITE, KASKAL(, LAGAB TIMES U OVER
 LAGAB TIMES U, OVER KASKAL LAGAB TIMES U OVER LAGAB TIMES U), KESH2, KI(, TIMES( BAD, U, UD)),
 KID, KIN, KISAL, KISH, KISIM5(, OVER KISIM5), KU(, OVER HI TIMES ASH2 KU OVER HI TIMES ASH2),
 KU3, KU4(, VARIANT FORM), KU7, KUL(, GUNU), KUN, KUR(, OPPOSING KUR), KUSHU2, KWU318, LA, LAGAB(,
 SQUARED, TIMES( A, A PLUS( DA PLUS HA, GAR, LAL), AL, AN, ASH ZIDA TENU, BAD, BI, DAR, EN, GA,
 GAR, GI, GUD(, PLUS GUD), HA, HAL, HI TIMES NUN, IGI GUNU, IM(, PLUS( HA, LU)), KI, KIN, KU3,
 KUL(, PLUS HI PLUS A), LAGAB, LISH, LU, LUL, ME(, PLUS EN), MUSH, NE, SHE PLUS SUM, SHITA PLUS
 GISH( PLUS ERIN2, TENU), SHU2(, PLUS SHU2), SUM, TAG, TAK4, TE PLUS A PLUS SU PLUS NA, U, U PLUS(
 A, U PLUS U), U2 PLUS ASH, UD, USH, ZU OVER ZU)), LAGAR(, GUNU(, OVER LAGAR GUNU SHE), TIMES SHE(
, PLUS SUM)), LAHSHU, LAK(-003,-021,-025,-030,-050,-051,-062,-079 OVER LAK-079 GUNU,-080,-081
 OVER LAK-081,-092,-130,-142,-210,-219,-220,-225,-228,-238,-265,-266,-343,-347,-348,-383,-384,
-390,-441,-449(, TIMES( GU, IGI, PAP PLUS( LU3, PAP PLUS LU3), U2 PLUS BA)),-450,-457,-470,-483,
-490,-492,-493,-495,-550,-608,-617(, TIMES( ASH, BAD, DUN3 GUNU GUNU, KU3, LA, TAR, TE, U2, UD,
 URUDA)),-636,-648(, TIMES( DUB, GA, IGI(, GUNU), NI, PAP PLUS PAP PLUS LU3, SHESH PLUS KI, UD,
 URUDA)),-724,-749), LAL(, TIMES LAL), LAM(, TIMES KUR(, PLUS RU)), LI, LIL, LIMMU2, LISH, LU(,
 TIMES BAD), LU2(, CROSSING LU2, GUNU TIMES ASH, OPPOSING LU2, SHESHIG(, TIMES BAD), SQUARED,
 TENU, TIMES( AL, BAD, DISH, ESH2(, PLUS LAL, TENU), GAN2 TENU, HAL, HI TIMES BAD, IM, KAD2, KAD3(
, PLUS ASH), KI, LA PLUS ASH, LAGAB, ME PLUS EN, NE, NU, PAP(, PLUS PAP PLUS LU3), SHU, SI PLUS
 ASH, SIK2 PLUS BU, TAK4, TUG2)), LU3, LUGAL(, OPPOSING LUGAL, OVER LUGAL, SHESHIG), LUH, LUL,
 LUM(, OVER LUM(, GAR OVER GAR)), MA(, GUNU, TIMES TAK4), MA2, MAH, MAR, MASH, MASH2, ME, MES,
 MESH, MI(, PLUS ZA7), MIN, MU(, OVER MU), MUG(, GUNU), MUNSUB, MURGU2, MUSH(, CROSSING MUSH,
 OVER MUSH(, TIMES( A PLUS NA, GA, KAK)), TIMES( A, KUR, ZA)), MUSH3(, GUNU, TIMES( A, A PLUS DI,
 DI, ZA)), NA, NA2, NA4, NAGA(, INVERTED, OPPOSING NAGA, TIMES SHU TENU), NAGAR, NAM(, NUTILLU),
 NAM2, NE(, SHESHIG, TIMES( A, UD)), NI(, TIMES E), NI2, NIM(, TIMES( GAN2 TENU, GAR PLUS GAN2
 TENU)), NIN, NIN9, NINDA2(, TIMES( AN, ASH(, PLUS ASH), BAL, DIM GUNU, GI, GISH, GUD, GUL, HI,
 KESH2, LAK-050, MASH, ME PLUS GAN2 TENU, NE, NUN, PAP PLUS PAP, SHE(, PLUS( A AN, ASH(, PLUS
 ASH))), U, U PLUS U, U2 PLUS ASH, URUDA, USH)), NISAG, NU, NU11(, OVER NU11 BUR OVER BUR,
 ROTATED NINETY DEGREES, TENU), NUN(, CROSSING NUN(, LAGAR OVER LAGAR), LAGAR TIMES( GAR, MASH,
 SAL(, OVER NUN LAGAR TIMES SAL), USH), OVER NUN, TENU), NUNUZ(, AB2 TIMES( ASHGAB, BI, DUG, GUD,
 IGI GUNU, KAD3, LA, NE, SILA3, U2), KISIM5 TIMES BI(, U)), PA, PAD, PAN, PAP, PESH2(, ASTERISK),
 PI(, CROSSING PI, TIMES( A, AB, BI, BU, E, I, IB, U, U2)), PIR2, PIRIG(, OPPOSING PIRIG, TIMES(
 KAL, UD, ZA)), RA, RAB, RI, RU, SA, SAG(, GUNU(, TIMES HA), NUTILLU, OVER SAG, TIMES( A, DU, DUB,
 EN, HA, IGI GUNU, KAK, KUR, LUM, MI, NUN, SAL, SHE AT LEFT, SHID, TAB, TAK4, U2, UB, UM, UR,
 USH)), SAL(, LAGAB TIMES ASH2), SANGA2, SAR, SHA, SHA3(, TIMES( A, BAD, GISH, NE, SHU2, TUR, U,
 U PLUS A)), SHA6(, TENU), SHAB6, SHAR2, SHE(, HU, OVER SHE(, GAD OVER GAD GAR OVER GAR, TAB OVER
 TAB GAR OVER GAR), PLUS( HUB2, NAM2, SAR)), SHEG9, SHEN, SHESH, SHESH2, SHESHLAM, SHID(, TIMES(
 A, IM)), SHIM(, TIMES( A, BAL, BULUG, DIN, GAR, IGI(, GUNU), KUSHU2, LUL, MUG, SAL)), SHINIG,
 SHIR(, OVER SHIR BUR OVER BUR, TENU), SHITA, SHU(, OVER INVERTED SHU), SHU2(, PLUS( DUG TIMES NI,
 E2 TIMES AN)), SHUBUR, SI(, GUNU, TIMES TAK4), SIG, SIG4(, OVER SIG4 SHU2), SIK2, SILA3, SU(,
 OVER SU), SUD, SUD2, SUHUR, SUM, SUMASH, SUR, SUR9, TA(, ASTERISK, GUNU, TIMES( HI, MI)), TAB(,
 OVER TAB NI OVER NI DISH OVER DISH, SQUARED), TAG(, TIMES( BI, GUD, SHE, SHU, TUG2, UD)), TAK4(,
 PLUS SAG), TAR, TE(, GUNU), TI(, TENU), TI2, TIL, TIR(, OVER TIR(, GAD OVER GAD GAR OVER GAR),
 TIMES TAK4), TU, TUG2, TUK, TUM(, TIMES( GAN2 TENU, THREE DISH)), TUR(, OVER TUR ZA OVER ZA), U(,
 GUD, OVER U( PA OVER PA GAR OVER GAR, SUR OVER SUR, U REVERSED OVER U REVERSED), U, U U), U2, UB,
 UD(, GUNU, KUSHU2, SHESHIG(, TIMES BAD), TIMES( BAD, MI, U PLUS U PLUS( U, U GUNU))), UDUG, UM(,
 TIMES( LAGAB, ME(, PLUS DA), SHA3, U)), UMBIN, UMUM(, TIMES( KASKAL, PA)), UN(, GUNU), UR(,
 CROSSING UR, SHESHIG), UR2(, INVERTED, TIMES( A PLUS( HA, NA), AL, HA, NUN, U2(, PLUS( ASH, BI)),
 UD)), UR4, URI, URI3, URU(, TIMES( A, ASHGAB, BAR, DARA3, DUN, GA, GAL, GAN2 TENU, GAR, GU, HA,
 IGI, IM, ISH, KI, LAK-668, LU3, LUM, MIN, PA, SHE, SIG4, TU, U PLUS GUD, UD, URUDA)), URUDA(,
 TIMES U), USH(, TIMES( A, KU, KUR, TAK4)), USH2, USHUMX, USHX, UTUKI, UZ3(, TIMES KASKAL), UZU,
 ZA(, SQUARED TIMES KUR, TENU), ZA7, ZAG, ZAMX, ZE2, ZI(, OVER ZI), ZI3, ZIB(, KABA TENU), ZIG,
 ZIZ2, ZU(, OVER ZU PLUS SAR), ZU5(, TIMES( A, THREE DISH TENU)), ZUBUR, ZUM)),CUP( ON BLACK
 SQUARE, WITH STRAW),CUPCAKE,CUPIDO,CURLING STONE,CURLY( BRACKET EXTENSION, LOGICAL( AND, OR),
 LOOP),CURRENCY( EXCHANGE, SIGN),CURRY AND RICE,CURVED STEM PARAGRAPH SIGN ORNAMENT,CUSTARD,
CUSTOMS,CUT OF MEAT,CYCLONE,CYLINDRICITY,CYPRIOT SYLLABLE( A, E, I, JA, JO, KA, KE, KI, KO, KU,
 LA, LE, LI, LO, LU, MA, ME, MI, MO, MU, NA, NE, NI, NO, NU, O, PA, PE, PI, PO, PU, RA, RE, RI,
 RO, RU, SA, SE, SI, SO, SU, TA, TE, TI, TO, TU, U, WA, WE, WI, WO, XA, XE, ZA, ZO),CYPRO-MINOAN
 SIGN( CM001, CM002, CM004, CM005, CM006, CM007, CM008, CM009, CM010, CM011, CM012, CM012B, CM013,
 CM015, CM017, CM019, CM021, CM023, CM024, CM025, CM026, CM027, CM028, CM029, CM030, CM033, CM034,
 CM035, CM036, CM037, CM038, CM039, CM040, CM041, CM044, CM046, CM047, CM049, CM050, CM051, CM052,
 CM053, CM054, CM055, CM056, CM058, CM059, CM060, CM061, CM062, CM063, CM064, CM066, CM067, CM068,
 CM069, CM070, CM071, CM072, CM073, CM074, CM075, CM075B, CM076, CM078, CM079, CM080, CM081,
 CM082, CM083, CM084, CM085, CM086, CM087, CM088, CM089, CM090, CM091, CM092, CM094, CM095, CM096,
 CM097, CM098, CM099, CM100, CM101, CM102, CM103, CM104, CM105, CM107, CM108, CM109, CM110, CM112,
 CM114, CM301, CM302),CYRILLIC( CAPITAL( LETTER( A, A WITH( BREVE, DIAERESIS), ABKHASIAN( CHE(,
 WITH DESCENDER), DZE, HA), ALEUT KA, BARRED( O, O WITH DIAERESIS), BASHKIR KA, BE, BIG YUS,
 BINOCULAR O, BLENDED YUS, BROAD OMEGA, BYELORUSSIAN-UKRAINIAN I, CCHE, CHE(, WITH( DESCENDER,
 DIAERESIS, VERTICAL STROKE)), CLOSED LITTLE YUS, CROSSED O, DCHE, DE, DJE, DJERV, DOUBLE(
 MONOCULAR O, O), DWE, DZE, DZELO, DZHE, DZWE, DZZE, DZZHE, E, E WITH DIAERESIS, EF, EL(, WITH(
 DESCENDER, HOOK, MIDDLE HOOK, TAIL)), EM(, WITH TAIL), EN(, WITH( DESCENDER, HOOK, LEFT HOOK,
 MIDDLE HOOK, TAIL)), ER(, WITH TICK), ES(, WITH DESCENDER), FITA, GHE(, WITH( DESCENDER, MIDDLE
 HOOK, STROKE(, AND HOOK), UPTURN)), GJE, HA(, WITH( DESCENDER, HOOK, STROKE)), HARD SIGN, HWE, I,
 I WITH( DIAERESIS, GRAVE, MACRON), IE(, WITH( BREVE, GRAVE)), IO, IOTA, IOTIFIED( A, BIG YUS,
 CLOSED LITTLE YUS, E, LITTLE YUS, YAT), IZHITSA(, WITH DOUBLE GRAVE ACCENT), JE, KA(, WITH(
 DESCENDER, HOOK, STROKE, VERTICAL STROKE)), KHAKASSIAN CHE, KJE, KOMI( DE, DJE, DZJE, LJE, NJE,
 SJE, TJE, ZJE), KOPPA, KSI, LHA, LITTLE YUS, LJE, MONOCULAR O, MONOGRAPH UK, NEUTRAL YER, NJE, O,
 O WITH DIAERESIS, OMEGA(, WITH TITLO), OT, PE(, WITH( DESCENDER, MIDDLE HOOK)), PSI, QA,
 REVERSED( DZE, TSE, YU, ZE), RHA, ROUND OMEGA, SCHWA(, WITH DIAERESIS), SEMISOFT SIGN, SHA,
 SHCHA, SHHA(, WITH DESCENDER), SHORT( I, I WITH TAIL, U), SHWE, SOFT( DE, EL, EM, SIGN),
 STRAIGHT( U, U WITH STROKE), TCHE, TE(, WITH( DESCENDER, MIDDLE HOOK)), TSE, TSHE, TSSE, TSWE,
 TWE, U, U WITH( DIAERESIS, DOUBLE ACUTE, MACRON), UK, UKRAINIAN IE, VE, WE, YA, YAE, YAT, YERU(,
 WITH( BACK YER, DIAERESIS)), YI, YN, YU, ZE(, WITH( DESCENDER, DIAERESIS)), ZEMLYA, ZHE(, WITH(
 BREVE, DESCENDER, DIAERESIS)), ZHWE), LIGATURE( A IE, EN GHE, TE TSE)), KAVYKA, LETTER(
 MULTIOCULAR O, PALOCHKA, SMALL CAPITAL EL), PAYEROK, SMALL( LETTER( A, A WITH( BREVE, DIAERESIS),
 ABKHASIAN( CHE(, WITH DESCENDER), DZE, HA), ALEUT KA, BARRED( O, O WITH DIAERESIS), BASHKIR KA,
 BE, BIG YUS, BINOCULAR O, BLENDED YUS, BROAD OMEGA, BYELORUSSIAN-UKRAINIAN I, CCHE, CHE(, WITH(
 DESCENDER, DIAERESIS, VERTICAL STROKE)), CLOSED LITTLE YUS, CROSSED O, DCHE, DE, DJE, DJERV,
 DOUBLE( MONOCULAR O, O), DWE, DZE, DZELO, DZHE, DZWE, DZZE, DZZHE, E, E WITH DIAERESIS, EF, EL(,
 WITH( DESCENDER, HOOK, MIDDLE HOOK, TAIL)), EM(, WITH TAIL), EN(, WITH( DESCENDER, HOOK, LEFT
 HOOK, MIDDLE HOOK, TAIL)), ER(, WITH TICK), ES(, WITH DESCENDER), FITA, GHE(, WITH( DESCENDER,
 MIDDLE HOOK, STROKE(, AND HOOK), UPTURN)), GJE, HA(, WITH( DESCENDER, HOOK, STROKE)), HARD SIGN,
 HWE, I, I WITH( DIAERESIS, GRAVE, MACRON), IE(, WITH( BREVE, GRAVE)), IO, IOTA, IOTIFIED( A, BIG
 YUS, CLOSED LITTLE YUS, E, LITTLE YUS, YAT), IZHITSA(, WITH DOUBLE GRAVE ACCENT), JE, KA(, WITH(
 DESCENDER, HOOK, STROKE, VERTICAL STROKE)), KHAKASSIAN CHE, KJE, KOMI( DE, DJE, DZJE, LJE, NJE,
 SJE, TJE, ZJE), KOPPA, KSI, LHA, LITTLE YUS, LJE, LONG-LEGGED DE, MONOCULAR O, MONOGRAPH UK,
 NARROW O, NEUTRAL YER, NJE, O, O WITH DIAERESIS, OMEGA(, WITH TITLO), OT, PALOCHKA, PE(, WITH(
 DESCENDER, MIDDLE HOOK)), PSI, QA, REVERSED( DZE, TSE, YU, ZE), RHA, ROUND OMEGA, ROUNDED VE,
 SCHWA(, WITH DIAERESIS), SEMISOFT SIGN, SHA, SHCHA, SHHA(, WITH DESCENDER), SHORT( I, I WITH
 TAIL, U), SHWE, SOFT( DE, EL, EM, SIGN), STRAIGHT( U, U WITH STROKE), TALL( HARD SIGN, TE, YAT),
 TCHE, TE(, WITH( DESCENDER, MIDDLE HOOK)), THREE-LEGGED TE, TSE, TSHE, TSSE, TSWE, TWE, U, U
 WITH( DIAERESIS, DOUBLE ACUTE, MACRON), UK, UKRAINIAN IE, UNBLENDED UK, VE, WE, WIDE ES, YA, YAE,
 YAT, YERU(, WITH( BACK YER, DIAERESIS)), YI, YN, YU, ZE(, WITH( DESCENDER, DIAERESIS)), ZEMLYA,
 ZHE(, WITH( BREVE, DESCENDER, DIAERESIS)), ZHWE), LIGATURE( A IE, EN GHE, TE TSE)), THOUSANDS
 SIGN)"

end Montage.Text.Table
