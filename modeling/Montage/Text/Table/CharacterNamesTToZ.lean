/-!
# Character names from T to Z

The names of Unicode characters that start with the letters from T to Z.
-/

namespace Montage.Text.Table

/-- Names of characters, where parentheses hold the ways to go on from one start and line
ends mean nothing. -/
def characterNamesTToZ : String :=
"T-REX,T-SHIRT,TAB,TABLE TENNIS PADDLE AND BALL,TACO,TAG( AMPERSAND, APOSTROPHE, ASTERISK,
 CIRCUMFLEX ACCENT, COLON, COMMA, COMMERCIAL AT, DIGIT( EIGHT, FIVE, FOUR, NINE, ONE, SEVEN, SIX,
 THREE, TWO, ZERO), DOLLAR SIGN, EQUALS SIGN, EXCLAMATION MARK, FULL STOP, GRAVE ACCENT,
 GREATER-THAN SIGN, HYPHEN-MINUS, LATIN( CAPITAL LETTER( A, B, C, D, E, F, G, H, I, J, K, L, M, N,
 O, P, Q, R, S, T, U, V, W, X, Y, Z), SMALL LETTER( A, B, C, D, E, F, G, H, I, J, K, L, M, N, O,
 P, Q, R, S, T, U, V, W, X, Y, Z)), LEFT( CURLY BRACKET, PARENTHESIS, SQUARE BRACKET), LESS-THAN
 SIGN, LOW LINE, NUMBER SIGN, PERCENT SIGN, PLUS SIGN, QUESTION MARK, QUOTATION MARK, REVERSE
 SOLIDUS, RIGHT( CURLY BRACKET, PARENTHESIS, SQUARE BRACKET), SEMICOLON, SOLIDUS, SPACE, TILDE,
 VERTICAL LINE),TAGALOG( LETTER( A, ARCHAIC RA, BA, DA, GA, HA, I, KA, LA, MA, NA, NGA, PA, RA,
 SA, TA, U, WA, YA), SIGN( PAMUDPOD, VIRAMA), VOWEL SIGN( I, U)),TAGBANWA( LETTER( A, BA, DA, GA,
 I, KA, LA, MA, NA, NGA, PA, SA, TA, U, WA, YA), VOWEL SIGN( I, U)),TAI( LE LETTER( A, AI, AUE, E,
 EE, EH, FA, HA, I, KA, KHA, LA, MA, NA, NGA, O, OO, PA, PHA, QA, SA, TA, THA, TONE(-2,-3,-4,-5,
-6), TSA, TSHA, U, UE, VA, XA, YA), THAM( COMBINING CRYPTOGRAMMIC DOT, CONSONANT SIGN( BA, FINAL
 NGA, HIGH RATHA OR LOW PA, LA TANG LAI, LOW PA, MA, MEDIAL( LA, RA), SA), HORA DIGIT( EIGHT,
 FIVE, FOUR, NINE, ONE, SEVEN, SIX, THREE, TWO, ZERO), LETTER( A, BA, DA, EE, GREAT SA, HIGH( CA,
 CHA, FA, HA, KA, KHA, KXA, PA, PHA, RATHA, SA, SHA, SSA, TA, THA, YA), I, II, LA, LAE, LLA, LOW(
 CA, CHA, FA, HA, KA, KHA, KXA, PA, PHA, RATHA, SA, TA, THA, YA), LUE, MA, NA, NGA, NYA, OO, RA,
 RANA, RATA, RUE, U, UU, WA), SIGN( CAANG, DOKMAI, HANG, HOY, KAAN, KAANKUU, KEOW, KHUEN( TONE(-3,
-4,-5),-LUE KARAN), MAI( KANG(, LAI), SAM, YAMOK), RA HAAM, REVERSED ROTATED RANA, SAKOT, SATKAAN,
 SATKAANKUU, SAWAN, TONE(-1,-2), WIANG, WIANGWAAK), THAM DIGIT( EIGHT, FIVE, FOUR, NINE, ONE,
 SEVEN, SIX, THREE, TWO, ZERO), VOWEL SIGN( A, AA, AE, AI, E, I, II, MAI SAT, O, OA( ABOVE,
 BELOW), OO, OY, TALL AA, THAM AI, U, UE, UU, UUE)), VIET( LETTER( HIGH( BO, CHO, CO, DO, FO, GO,
 HO, KHHO, KHO, KO, LO, MO, NGO, NO, NYO, O, PHO, PO, RO, SO, THO, TO, VO, YO), LOW( BO, CHO, CO,
 DO, FO, GO, HO, KHHO, KHO, KO, LO, MO, NGO, NO, NYO, O, PHO, PO, RO, SO, THO, TO, VO, YO)), MAI(
 KANG, KHIT), SYMBOL( HO HOI, KOI KOI, KON, NUENG, SAM), TONE MAI( EK, NUENG, SONG, THO), VOWEL(
 AA, AM, AN, AUE, AY, E, I, IA, O, U, UA, UE, UEA))),TAKEOUT BOX,TAKRI( ABBREVIATION SIGN, DIGIT(
 EIGHT, FIVE, FOUR, NINE, ONE, SEVEN, SIX, THREE, TWO, ZERO), LETTER( A, AA, AI, ARCHAIC KHA, AU,
 BA, BHA, CA, CHA, DA, DDA, DDHA, DHA, E, GA, GHA, HA, I, II, JA, JHA, KA, KHA, LA, MA, NA, NGA,
 NNA, NYA, O, PA, PHA, RA, RRA, SA, SHA, TA, THA, TTA, TTHA, U, UU, VA, YA), SIGN( ANUSVARA,
 NUKTA, VIRAMA, VISARGA), VOWEL SIGN( AA, AI, AU, E, I, II, O, U, UU)),TALLY MARK( FIVE, ONE),
TAMALE,TAMIL( AND ODD SIGN, AS ABOVE SIGN, AU LENGTH MARK, CREDIT SIGN, CURRENT SIGN, DAY SIGN,
 DEBIT SIGN, DIGIT( EIGHT, FIVE, FOUR, NINE, ONE, SEVEN, SIX, THREE, TWO, ZERO), DRY CULTIVATION
 SIGN, FRACTION( DOWNSCALING FACTOR KIIZH, ONE( EIGHTH, EIGHTIETH, FIFTH, FORTIETH, HALF(-1,-2),
 ONE-HUNDRED-AND-SIXTIETH, QUARTER, SIXTEENTH(-1,-2), SIXTY-FOURTH, TENTH, THIRTY-SECOND,
 THREE-HUNDRED-AND-TWENTIETH, TWENTIETH), THREE( EIGHTIETHS, QUARTERS, SIXTEENTHS, SIXTY-FOURTHS,
 TWENTIETHS)), IN POSSESSION SIGN, LAND SIGN, LETTER( A, AA, AI, AU, CA, E, EE, HA, I, II, JA, KA,
 LA, LLA, LLLA, MA, NA, NGA, NNA, NNNA, NYA, O, OO, PA, RA, RRA, SA, SHA, SSA, TA, TTA, U, UU, VA,
 YA), MONTH SIGN, NUMBER( ONE( HUNDRED, THOUSAND), SIGN, TEN), OM, PUNCTUATION END OF TEXT, RUPEE
 SIGN, SALT PAN SIGN, SIGN( AAZHAAKKU, ANUSVARA, CEVITU, KAACU, KURUNI, KUZHI, MUKKURUNI,
 MUTHALIYA, MUUVUZHAKKU, NEL, PAARAM, PANAM, PATHAKKU, PON, UZHAKKU, VAKAIYARAA, VARAAKAN, VELI,
 VIRAMA, VISARGA), SPENT SIGN, STARTING FROM SIGN, TOTAL SIGN, TRADITIONAL( CREDIT SIGN, NUMBER
 SIGN), VOWEL SIGN( AA, AI, AU, E, EE, I, II, O, OO, U, UU), WET CULTIVATION SIGN, YEAR SIGN),
TANABATA TREE,TANGERINE,TANGSA( DIGIT( EIGHT, FIVE, FOUR, NINE, ONE, SEVEN, SIX, THREE, TWO,
 ZERO), LETTER( AC, AQ, AWC, AWQ, AWX, AWZ, AX, AZ, BA, CA, CHA, DA, DHA, EC, EQ, EX, EZ, FA,
 FINAL NG, GA, GHA, HA, HTA, HTTA, IC, IQ, IX, IZ, KA, KHA, LA, LONG UEX, MA, MC, MQ, MX, MZ, NA,
 NGA, NHA, NYA, OC, OQ, OX, OZ, PA, PHA, RA, SA, SHA, SHORT( AWX, UEZ), TA, THA, TSA, UC, UEC,
 UEQ, UEX, UEZ, UIC, UIQ, UIUC, UIUQ, UIUX, UIUZ, UIX, UIZ, UQ, UX, UZ, VC, VQ, VX, VZ, WA, XA,
 YA, ZA)),TANGUT( COMPONENT(-001,-002,-003,-004,-005,-006,-007,-008,-009,-010,-011,-012,-013,-014,
-015,-016,-017,-018,-019,-020,-021,-022,-023,-024,-025,-026,-027,-028,-029,-030,-031,-032,-033,
-034,-035,-036,-037,-038,-039,-040,-041,-042,-043,-044,-045,-046,-047,-048,-049,-050,-051,-052,
-053,-054,-055,-056,-057,-058,-059,-060,-061,-062,-063,-064,-065,-066,-067,-068,-069,-070,-071,
-072,-073,-074,-075,-076,-077,-078,-079,-080,-081,-082,-083,-084,-085,-086,-087,-088,-089,-090,
-091,-092,-093,-094,-095,-096,-097,-098,-099,-100,-101,-102,-103,-104,-105,-106,-107,-108,-109,
-110,-111,-112,-113,-114,-115,-116,-117,-118,-119,-120,-121,-122,-123,-124,-125,-126,-127,-128,
-129,-130,-131,-132,-133,-134,-135,-136,-137,-138,-139,-140,-141,-142,-143,-144,-145,-146,-147,
-148,-149,-150,-151,-152,-153,-154,-155,-156,-157,-158,-159,-160,-161,-162,-163,-164,-165,-166,
-167,-168,-169,-170,-171,-172,-173,-174,-175,-176,-177,-178,-179,-180,-181,-182,-183,-184,-185,
-186,-187,-188,-189,-190,-191,-192,-193,-194,-195,-196,-197,-198,-199,-200,-201,-202,-203,-204,
-205,-206,-207,-208,-209,-210,-211,-212,-213,-214,-215,-216,-217,-218,-219,-220,-221,-222,-223,
-224,-225,-226,-227,-228,-229,-230,-231,-232,-233,-234,-235,-236,-237,-238,-239,-240,-241,-242,
-243,-244,-245,-246,-247,-248,-249,-250,-251,-252,-253,-254,-255,-256,-257,-258,-259,-260,-261,
-262,-263,-264,-265,-266,-267,-268,-269,-270,-271,-272,-273,-274,-275,-276,-277,-278,-279,-280,
-281,-282,-283,-284,-285,-286,-287,-288,-289,-290,-291,-292,-293,-294,-295,-296,-297,-298,-299,
-300,-301,-302,-303,-304,-305,-306,-307,-308,-309,-310,-311,-312,-313,-314,-315,-316,-317,-318,
-319,-320,-321,-322,-323,-324,-325,-326,-327,-328,-329,-330,-331,-332,-333,-334,-335,-336,-337,
-338,-339,-340,-341,-342,-343,-344,-345,-346,-347,-348,-349,-350,-351,-352,-353,-354,-355,-356,
-357,-358,-359,-360,-361,-362,-363,-364,-365,-366,-367,-368,-369,-370,-371,-372,-373,-374,-375,
-376,-377,-378,-379,-380,-381,-382,-383,-384,-385,-386,-387,-388,-389,-390,-391,-392,-393,-394,
-395,-396,-397,-398,-399,-400,-401,-402,-403,-404,-405,-406,-407,-408,-409,-410,-411,-412,-413,
-414,-415,-416,-417,-418,-419,-420,-421,-422,-423,-424,-425,-426,-427,-428,-429,-430,-431,-432,
-433,-434,-435,-436,-437,-438,-439,-440,-441,-442,-443,-444,-445,-446,-447,-448,-449,-450,-451,
-452,-453,-454,-455,-456,-457,-458,-459,-460,-461,-462,-463,-464,-465,-466,-467,-468,-469,-470,
-471,-472,-473,-474,-475,-476,-477,-478,-479,-480,-481,-482,-483,-484,-485,-486,-487,-488,-489,
-490,-491,-492,-493,-494,-495,-496,-497,-498,-499,-500,-501,-502,-503,-504,-505,-506,-507,-508,
-509,-510,-511,-512,-513,-514,-515,-516,-517,-518,-519,-520,-521,-522,-523,-524,-525,-526,-527,
-528,-529,-530,-531,-532,-533,-534,-535,-536,-537,-538,-539,-540,-541,-542,-543,-544,-545,-546,
-547,-548,-549,-550,-551,-552,-553,-554,-555,-556,-557,-558,-559,-560,-561,-562,-563,-564,-565,
-566,-567,-568,-569,-570,-571,-572,-573,-574,-575,-576,-577,-578,-579,-580,-581,-582,-583,-584,
-585,-586,-587,-588,-589,-590,-591,-592,-593,-594,-595,-596,-597,-598,-599,-600,-601,-602,-603,
-604,-605,-606,-607,-608,-609,-610,-611,-612,-613,-614,-615,-616,-617,-618,-619,-620,-621,-622,
-623,-624,-625,-626,-627,-628,-629,-630,-631,-632,-633,-634,-635,-636,-637,-638,-639,-640,-641,
-642,-643,-644,-645,-646,-647,-648,-649,-650,-651,-652,-653,-654,-655,-656,-657,-658,-659,-660,
-661,-662,-663,-664,-665,-666,-667,-668,-669,-670,-671,-672,-673,-674,-675,-676,-677,-678,-679,
-680,-681,-682,-683,-684,-685,-686,-687,-688,-689,-690,-691,-692,-693,-694,-695,-696,-697,-698,
-699,-700,-701,-702,-703,-704,-705,-706,-707,-708,-709,-710,-711,-712,-713,-714,-715,-716,-717,
-718,-719,-720,-721,-722,-723,-724,-725,-726,-727,-728,-729,-730,-731,-732,-733,-734,-735,-736,
-737,-738,-739,-740,-741,-742,-743,-744,-745,-746,-747,-748,-749,-750,-751,-752,-753,-754,-755,
-756,-757,-758,-759,-760,-761,-762,-763,-764,-765,-766,-767,-768), ITERATION MARK),TAPE(
 CARTRIDGE, DRIVE),TAURUS,TAXI,TEACUP WITHOUT HANDLE,TEAPOT,TEAR-OFF CALENDAR,TEARDROP(-BARBED
 RIGHTWARDS ARROW,-SPOKED ASTERISK),TEDDY BEAR,TELEPHONE( LOCATION SIGN, ON TOP OF MODEM,
 RECEIVER(, WITH PAGE), RECORDER, SIGN),TELESCOPE,TELEVISION,TELUGU( AI LENGTH MARK, DIGIT( EIGHT,
 FIVE, FOUR, NINE, ONE, SEVEN, SIX, THREE, TWO, ZERO), FRACTION DIGIT( ONE FOR( EVEN POWERS OF
 FOUR, ODD POWERS OF FOUR), THREE FOR( EVEN POWERS OF FOUR, ODD POWERS OF FOUR), TWO FOR( EVEN
 POWERS OF FOUR, ODD POWERS OF FOUR), ZERO FOR ODD POWERS OF FOUR), LENGTH MARK, LETTER( A, AA,
 AI, AU, BA, BHA, CA, CHA, DA, DDA, DDHA, DHA, DZA, E, EE, GA, GHA, HA, I, II, JA, JHA, KA, KHA,
 LA, LLA, LLLA, MA, NA, NAKAARA POLLU, NGA, NNA, NYA, O, OO, PA, PHA, RA, RRA, RRRA, SA, SHA, SSA,
 TA, THA, TSA, TTA, TTHA, U, UU, VA, VOCALIC( L, LL, R, RR), YA), SIGN( ANUSVARA, AVAGRAHA,
 CANDRABINDU, COMBINING( ANUSVARA ABOVE, CANDRABINDU ABOVE), NUKTA, SIDDHAM, TUUMU, VIRAMA,
 VISARGA), VOWEL SIGN( AA, AI, AU, E, EE, I, II, O, OO, U, UU, VOCALIC( L, LL, R, RR))),TENGE
 SIGN,TENNIS RACQUET AND BALL,TENT,TEST TUBE,TETRAGRAM FOR( ACCUMULATION, ADVANCE, AGGRAVATION,
 ASCENT, BARRIER, BOLD RESOLUTION, BRANCHING OUT, CENTRE, CHANGE, CLOSED MOUTH, CLOSENESS,
 CLOSURE, COMPLETION, COMPLIANCE, CONSTANCY, CONTACT, CONTENTION, CONTRARIETY, DARKENING,
 DECISIVENESS, DEFECTIVENESS OR DISTORTION, DEPARTURE, DIFFICULTIES, DIMINISHMENT, DIMMING,
 DIVERGENCE, DOUBT, DUTIES, EASE, EMBELLISHMENT, ENCOUNTERS, ENDEAVOUR, ENLARGEMENT, ETERNITY,
 EXHAUSTION, FAILURE, FLIGHT, FOLLOWING, FOSTERING, FULL CIRCLE, FULLNESS, GATHERING(, IN), GOING
 TO MEET, GREATNESS, GUARDEDNESS, HARDNESS, HOLDING BACK, INCREASE, INNER, JOY, KEEPING SMALL,
 KINSHIP, LABOURING, LAW OR MODEL, LEGION, MASSING, MEASURE, MIRED, ON THE VERGE, OPPOSITION,
 PACKING, PATTERN, PENETRATION, PURITY, REACH, RELEASE, RESIDENCE, RESISTANCE, RESPONSE, RITUAL,
 SEVERANCE, SINKING, STOPPAGE, STOVE, STRENGTH, UNITY, VASTNESS OR WASTING, WAITING, WATCH,
 YOUTHFULNESS),THAANA( AABAAFILI, ABAFILI, EBEFILI, EEBEEFILI, EYBEYFILI, IBIFILI, LETTER( AINU,
 ALIFU, BAA, CHAVIYANI, DAADHU, DAVIYANI, DHAALU, FAAFU, GAAFU, GHAINU, GNAVIYANI, HAA, HHAA,
 JAVIYANI, KAAFU, KHAA, LAAMU, LHAVIYANI, MEEMU, NAA, NOONU, PAVIYANI, QAAFU, RAA, SAADHU, SEENU,
 SHAVIYANI, SHEENU, TAVIYANI, THAA, THAALU, TO, TTAA, VAAVU, WAAVU, YAA, ZAA, ZAVIYANI, ZO),
 OABOAFILI, OBOFILI, OOBOOFILI, SUKUN, UBUFILI),THAI( CHARACTER( ANGKHANKHU, BO BAIMAI, CHO( CHAN,
 CHANG, CHING, CHOE), DO( CHADA, DEK), FO( FA, FAN), FONGMAN, HO( HIP, NOKHUK), KHO( KHAI, KHON,
 KHUAT, KHWAI, RAKHANG), KHOMUT, KO KAI, LAKKHANGYAO, LO( CHULA, LING), LU, MAI( CHATTAWA, EK,
 HAN-AKAT, THO, TRI), MAITAIKHU, MAIYAMOK, MO MA, NGO NGU, NIKHAHIT, NO( NEN, NU), O ANG,
 PAIYANNOI, PHINTHU, PHO( PHAN, PHUNG, SAMPHAO), PO PLA, RO RUA, RU, SARA( A, AA, AE, AI(
 MAIMALAI, MAIMUAN), AM, E, I, II, O, U, UE, UEE, UU), SO( RUSI, SALA, SO, SUA), THANTHAKHAT, THO(
 NANGMONTHO, PHUTHAO, THAHAN, THAN, THONG, THUNG), TO( PATAK, TAO), WO WAEN, YAMAKKAN, YO( YAK,
 YING)), CURRENCY SYMBOL BAHT, DIGIT( EIGHT, FIVE, FOUR, NINE, ONE, SEVEN, SIX, THREE, TWO,
 ZERO)),THERE( DOES NOT EXIST, EXISTS),THEREFORE,THERMODYNAMIC,THERMOMETER,THIN( GREEK CROSS,
 SALTIRE, SPACE),THINKING FACE,THIRD PLACE MEDAL,THONG SANDAL,THOUGHT BALLOON,THREE( BUTTON MOUSE,
 CONSECUTIVE EQUALS SIGNS, DIMENSIONAL ANGLE, DOT PUNCTUATION, LEFTWARDS ARROWS, LINES CONVERGING(
 LEFT, RIGHT), NETWORKED COMPUTERS, POINTED BLACK STAR, RAYS( ABOVE, BELOW, LEFT, RIGHT),
 RIGHTWARDS ARROWS, SPEECH BUBBLES,-D( BOTTOM-LIGHTED RIGHTWARDS ARROWHEAD, LEFT-LIGHTED
 DOWNWARDS EQUILATERAL ARROWHEAD, RIGHT-LIGHTED UPWARDS EQUILATERAL ARROWHEAD, TOP-LIGHTED(
 LEFTWARDS EQUILATERAL ARROWHEAD, RIGHTWARDS( ARROWHEAD, EQUILATERAL ARROWHEAD))),-EM DASH,
-PER-EM SPACE),THUMBS( DOWN SIGN, UP SIGN),THUNDER CLOUD AND RAIN,THUNDERSTORM,TIBETAN(
 ASTROLOGICAL SIGN( -KHYUD PA, SDONG TSHUGS, SGRA GCAN -CHAR RTAGS), CANTILLATION SIGN( CANG TE-U,
 HEAVY BEAT, LIGHT BEAT, SBUB -CHAL), DIGIT( EIGHT, FIVE, FOUR, HALF( EIGHT, FIVE, FOUR, NINE,
 ONE, SEVEN, SIX, THREE, TWO, ZERO), NINE, ONE, SEVEN, SIX, THREE, TWO, ZERO), KU RU KHA(, BZHI
 MIG CAN), LETTER( -A, A, BA, BHA, CA, CHA, DA, DDA, DDHA, DHA, DZA, DZHA, FIXED-FORM RA, GA, GHA,
 HA, JA, KA, KHA, KKA, KSSA, LA, MA, NA, NGA, NNA, NYA, PA, PHA, RA, RRA, SA, SHA, SSA, TA, THA,
 TSA, TSHA, TTA, TTHA, WA, YA, ZA, ZHA), LOGOTYPE SIGN( CHAD RTAGS, LHAG RTAGS), MARK( ANG KHANG(
 GYAS, GYON), BKA- SHOG( GI MGO RGYAN, YIG MGO), BSDUS RTAGS, BSKA- SHOG GI MGO RGYAN, BSKUR YIG
 MGO, CARET( -DZUD RTAGS( BZHI MIG CAN, ME LONG CAN), YIG MGO PHUR SHAD MA), CHE MGO, CLOSING(
 BRDA RNYING YIG MGO SGAB MA, YIG MGO SGAB MA), DELIMITER TSHEG BSTAR, GTER( TSHEG, YIG MGO( -UM(
 GTER TSHEG MA, RNAM BCAD MA), TRUNCATED A)), GUG RTAGS( GYAS, GYON), HALANTA, INITIAL( BRDA
 RNYING YIG MGO MDUN MA, YIG MGO MDUN MA), INTERSYLLABIC TSHEG, LEADING MCHAN RTAGS, MNYAM YIG GI
 MGO RGYAN, NGAS BZUNG( NYI ZLA, SGOR RTAGS), NYIS( SHAD, TSHEG(, SHAD)), PALUTA, RGYA GRAM SHAD,
 RIN CHEN SPUNGS SHAD, SBRUL SHAD, SHAD, TRAILING MCHAN RTAGS, TSA -PHRU, TSHEG SHAD, YIG MGO
 TSHEG SHAD MA), SIGN( GRU( CAN RGYINGS, MED RGYINGS), INVERTED MCHU CAN, LCE TSA CAN, LCI RTAGS,
 MAR TSHES, MCHU CAN, NYI ZLA NAA DA, RDEL( DKAR( GCIG, GNYIS, GSUM, RDEL NAG), NAG( GCIG, GNYIS,
 GSUM, RDEL DKAR)), RJES SU NGA RO, RNAM BCAD, SNA LDAN, YANG RTAGS, YAR TSHES), SUBJOINED(
 LETTER( -A, A, BA, BHA, CA, CHA, DA, DDA, DDHA, DHA, DZA, DZHA, FIXED-FORM( RA, WA, YA), GA, GHA,
 HA, JA, KA, KHA, KSSA, LA, MA, NA, NGA, NNA, NYA, PA, PHA, RA, SA, SHA, SSA, TA, THA, TSA, TSHA,
 TTA, TTHA, WA, YA, ZA, ZHA), SIGN( INVERTED MCHU CAN, LCE TSA CAN, MCHU CAN)), SYLLABLE OM,
 SYMBOL( DRIL BU, NOR BU(, BZHI -KHYIL, GSUM -KHYIL, NYIS -KHYIL), PADMA GDAN, PHUR PA, RDO RJE(,
 RGYA GRAM)), VOWEL SIGN( AA, E, EE, I, II, O, OO, REVERSED( I, II), U, UU, VOCALIC( L, LL, R,
 RR))),TICKET,TIE OVER INFINITY,TIFINAGH( CONSONANT JOINER, LETTER( AHAGGAR YAZH, AYER YAGH,
 BERBER ACADEMY( YAH, YAJ), TAWELLEMET YAZ, TUAREG( YAGH, YAGN, YAH, YAK, YAKH, YANG, YAQ, YAZH),
 YA, YAA, YAB, YABH, YACH, YAD, YADD, YADDH, YADH, YAF, YAG, YAGH, YAGHH, YAH, YAHH, YAJ, YAK,
 YAKH, YAKHH, YAL, YAM, YAN, YAP, YAQ, YAR, YARR, YAS, YASH, YASS, YAT, YATH, YATT, YAV, YAW, YAY,
 YAZ, YAZH, YAZZ, YE, YEY, YI, YO, YU), MODIFIER LETTER LABIALIZATION MARK, SEPARATOR MARK),TIGER(
, FACE),TIGHT TRIFOLIATE SNOWFLAKE,TILDE(, OPERATOR(, ABOVE( LEFTWARDS ARROW, RIGHTWARDS ARROW),
 WITH( DOT ABOVE, RISING DOTS)), WITH( DOT( ABOVE, BELOW), RING ABOVE)),TIMER CLOCK,TIMES WITH(
 LEFT HALF BLACK, RIGHT HALF BLACK),TINY(, TWO DOTS OVER ONE DOT PUNCTUATION),TIRED FACE,TIRHUTA(
 ABBREVIATION SIGN, ANJI, DIGIT( EIGHT, FIVE, FOUR, NINE, ONE, SEVEN, SIX, THREE, TWO, ZERO),
 GVANG, LETTER( A, AA, AI, AU, BA, BHA, CA, CHA, DA, DDA, DDHA, DHA, E, GA, GHA, HA, I, II, JA,
 JHA, KA, KHA, LA, MA, NA, NGA, NNA, NYA, O, PA, PHA, RA, SA, SHA, SSA, TA, THA, TTA, TTHA, U, UU,
 VA, VOCALIC( L, LL, R, RR), YA), OM, SIGN( ANUSVARA, AVAGRAHA, CANDRABINDU, NUKTA, VIRAMA,
 VISARGA), VOWEL SIGN( AA, AI, AU, E, I, II, O, SHORT( E, O), U, UU, VOCALIC( L, LL, R, RR))),
TIRONIAN SIGN( CAPITAL ET, ET),TOILET,TOKYO TOWER,TOMATO,TONGUE,TOOLBOX,TOOTH,TOOTHBRUSH,TOP( ARC(
 ANTICLOCKWISE ARROW(, WITH PLUS), CLOCKWISE ARROW WITH MINUS), CURLY BRACKET, HALF( BLACK CIRCLE,
 INTEGRAL, LEFT PARENTHESIS, RIGHT PARENTHESIS, SECTION SIGN), HAT, LEFT( CORNER, CROP, HALF
 BRACKET), PARENTHESIS, RIGHT( CORNER, CROP, HALF BRACKET), SQUARE BRACKET, TORTOISE SHELL
 BRACKET, WITH UPWARDS ARROW ABOVE),TORTOISE SHELL BRACKETED( CJK UNIFIED IDEOGRAPH(-4E09,-4E8C,
-52DD,-5B89,-6253,-6557,-672C,-70B9,-76D7), LATIN CAPITAL LETTER S),TOTAL RUNOUT,TOTO( LETTER( A,
 AE, BA, BREATHY( AE, E, EO, I, IU), CHA, DA, E, EO, GA, HA, I, IU, JA, KA, LA, MA, NA, NGA, O,
 PA, RA, SA, TA, U, WA, YA), SIGN RISING TONE),TRACKBALL,TRACTOR,TRADE MARK SIGN,TRAIN,TRAM(,
 CAR),TRANSPLUTO,TRANSVERSAL INTERSECTION,TRIANGLE( WITH( DOT ABOVE, ROUNDED CORNERS, SERIFS AT
 BOTTOM, UNDERBAR),-HEADED RIGHTWARDS ARROW),TRIANGULAR( BULLET, FLAG ON POST, RULER),TRICOLON,
TRIDENT EMBLEM,TRIGRAM FOR( EARTH, FIRE, HEAVEN, LAKE, MOUNTAIN, THUNDER, WATER, WIND),TRIPLE(
 COLON OPERATOR, DAGGER, HORIZONTAL BAR WITH( DOUBLE VERTICAL STROKE, TRIPLE VERTICAL STROKE),
 INTEGRAL, NESTED( GREATER-THAN, LESS-THAN), PLUS, PRIME, SOLIDUS BINARY RELATION, TILDE,
 VERTICAL BAR( BINARY RELATION, DELIMITER, RIGHT TURNSTILE, WITH HORIZONTAL STROKE)),TROLL,
TROLLEYBUS,TROPHY,TROPICAL( DRINK, FISH),TRUE(, LIGHT MOON ARTA),TRUMPET,TUGRIK SIGN,TULIP,
TUMBLER GLASS,TURKEY,TURKISH LIRA SIGN,TURNED( AMPERSAND, ANGLE, BLACK( PENTAGON, SHOGI PIECE),
 CAPITAL F, COMMA, DAGGER, DIGIT( THREE, TWO), GREEK SMALL LETTER IOTA, NORTH( EAST POINTING LEAF,
 WEST POINTING LEAF), NOT SIGN, OK HAND SIGN, SANS-SERIF CAPITAL( G, L, Y), SEMICOLON, SMALL F,
 SOUTH( EAST POINTING LEAF, WEST POINTING LEAF), WHITE SHOGI PIECE),TURTLE,TWELVE POINTED BLACK
 STAR,TWISTED RIGHTWARDS ARROWS,TWO( ASTERISKS ALIGNED VERTICALLY, BUTTON MOUSE, CONSECUTIVE
 EQUALS SIGNS, DOT( LEADER, PUNCTUATION), DOTS OVER ONE DOT PUNCTUATION, HEARTS, INTERSECTING
 LOGICAL( AND, OR), JOINED SQUARES, LOGICAL( AND OPERATOR, OR OPERATOR), MEN HOLDING HANDS,
 SPEECH BUBBLES, WOMEN HOLDING HANDS,-EM DASH),UGARITIC( LETTER( AIN, ALPA, BETA, DELTA, DHAL,
 GAMLA, GHAIN, HO, HOTA, I, KAF, KHA, LAMDA, MEM, NUN, PU, QOPA, RASHA, SADE, SAMKA, SHIN, SSU,
 TET, THANNA, TO, U, WO, YOD, ZETA, ZU), WORD DIVIDER),UMBRELLA(, ON GROUND, WITH RAIN DROPS),
UNAMUSED FACE,UNCERTAINTY SIGN,UNDERTIE,UNDO SYMBOL,UNICORN FACE,UNION(, ABOVE( BAR ABOVE
 INTERSECTION, INTERSECTION), BESIDE AND JOINED WITH UNION, WITH( LOGICAL OR, MINUS SIGN,
 OVERBAR)),UNIT SEPARATOR,UNITED SYMBOL,UNIVERSAL RECYCLING SYMBOL,UNMARRIED PARTNERSHIP SYMBOL,
UP( ARROW THROUGH CIRCLE, ARROWHEAD(, BETWEEN TWO HORIZONTAL BARS, IN A RECTANGLE BOX), BARB(
 LEFT DOWN BARB( LEFT HARPOON, RIGHT HARPOON), RIGHT DOWN BARB( LEFT HARPOON, RIGHT HARPOON)),
 DOWN( ARROW(, WITH BASE), BLACK ARROW, DOUBLE ARROW, SANS-SERIF ARROW, TRIANGLE-HEADED ARROW,
 WHITE ARROW), FISH TAIL, RIGHT DIAGONAL ELLIPSIS, TACK(, WITH CIRCLE ABOVE),-POINTING( AIRPLANE,
 MILITARY AIRPLANE, RED TRIANGLE, SMALL( AIRPLANE, RED TRIANGLE), TRIANGLE WITH( LEFT HALF BLACK,
 RIGHT HALF BLACK))),UPPER( AND( LEFT AND LOWER TRIANGULAR THREE QUARTERS BLOCK, LOWER( ONE
 EIGHTH BLOCK, TRIANGULAR HALF BLOCK), RIGHT AND LOWER TRIANGULAR THREE QUARTERS BLOCK), BLADE
 SCISSORS, FIVE EIGHTHS BLOCK, HALF( BLOCK(, AND LOWER HALF INVERSE MEDIUM SHADE), CIRCLE,
 INVERSE( MEDIUM SHADE AND LOWER HALF BLOCK, WHITE CIRCLE), MEDIUM SHADE), LEFT( BLOCK DIAGONAL(
 LOWER( CENTRE TO( LOWER MIDDLE RIGHT, UPPER( MIDDLE RIGHT, RIGHT)), LEFT TO( LOWER MIDDLE RIGHT,
 UPPER( CENTRE, MIDDLE RIGHT)), MIDDLE LEFT TO UPPER( CENTRE, MIDDLE RIGHT, RIGHT)), UPPER MIDDLE
 LEFT TO UPPER( CENTRE, RIGHT)), CORNER WITH DOT, OR LOWER RIGHT CURLY BRACKET SECTION, QUADRANT
 CIRCULAR ARC, TO LOWER RIGHT FILL, TRIANGLE, TRIANGULAR MEDIUM SHADE), ONE( EIGHTH BLOCK,
 QUARTER BLOCK), RIGHT( BLOCK DIAGONAL( LOWER MIDDLE LEFT TO LOWER( CENTRE, RIGHT), UPPER( CENTRE
 TO( LOWER( MIDDLE RIGHT, RIGHT), UPPER MIDDLE RIGHT), LEFT TO( LOWER( CENTRE, MIDDLE RIGHT),
 UPPER MIDDLE RIGHT), MIDDLE LEFT TO LOWER( CENTRE, MIDDLE RIGHT, RIGHT))), DROP-SHADOWED WHITE
 SQUARE, OR LOWER LEFT CURLY BRACKET SECTION, PENCIL, QUADRANT CIRCULAR ARC, SHADOWED WHITE(
 CIRCLE, SQUARE), TO LOWER LEFT FILL, TRIANGLE, TRIANGULAR MEDIUM SHADE), SEVEN EIGHTHS BLOCK,
 THREE( EIGHTHS BLOCK, QUARTERS BLOCK), TRIANGULAR ONE QUARTER BLOCK),UPSIDE-DOWN FACE,UPWARDS(
 ANCORA, ARROW(, AND RIGHT ONE EIGHTH BLOCK, FROM BAR, LEFTWARDS OF DOWNWARDS ARROW, TO BAR, WITH(
 DOUBLE STROKE, EQUILATERAL ARROWHEAD, HORIZONTAL STROKE, LARGE TRIANGLE ARROWHEAD, MEDIUM
 TRIANGLE ARROWHEAD, NOTCHED TAIL, SMALL( EQUILATERAL ARROWHEAD, TRIANGLE ARROWHEAD), TIP(
 LEFTWARDS, RIGHTWARDS))), BLACK( ARROW, CIRCLED WHITE ARROW), COMPRESSED ARROW, DASHED ARROW,
 DOUBLE ARROW, FINGER-POST ARROW, HARPOON WITH BARB( LEFT( BESIDE( DOWNWARDS HARPOON WITH BARB
 RIGHT, UPWARDS HARPOON WITH BARB RIGHT), FROM BAR, TO BAR), LEFTWARDS, RIGHT( FROM BAR, TO BAR),
 RIGHTWARDS), HEAVY( ARROW, COMPRESSED ARROW), PAIRED ARROWS, QUADRUPLE ARROW, ROCKET, SANS-SERIF
 ARROW, SQUARED ARROW, TRIANGLE( ARROWHEAD,-HEADED( ARROW(, LEFTWARDS OF DOWNWARDS
 TRIANGLE-HEADED ARROW, TO BAR, WITH( BOLD SHAFT, DOUBLE HORIZONTAL STROKE, HEAVY SHAFT, LONG TIP(
 LEFTWARDS, RIGHTWARDS), MEDIUM SHAFT, NARROW SHAFT, VERY HEAVY SHAFT)), DASHED ARROW, PAIRED
 ARROWS)), TRIPLE ARROW, TWO( HEADED ARROW,-HEADED ARROW( FROM SMALL CIRCLE, WITH TRIANGLE
 ARROWHEADS)), WHITE( ARROW(, FROM BAR(, WITH HORIZONTAL BAR), ON PEDESTAL(, WITH( HORIZONTAL BAR,
 VERTICAL BAR)), WITHIN TRIANGLE ARROWHEAD), DOUBLE ARROW(, ON PEDESTAL))),URANUS,US,VAI( COMMA,
 DIGIT( EIGHT, FIVE, FOUR, NINE, ONE, SEVEN, SIX, THREE, TWO, ZERO), FULL STOP, QUESTION MARK,
 SYLLABLE( A, AN, BA, BE, BEE, BHA, BHE, BHEE, BHI, BHO, BHOO, BHU, BI, BO, BOO, BU, CA, CE, CEE,
 CI, CO, COO, CU, DA, DE, DEE, DHA, DHE, DHEE, DHHA, DHHE, DHHEE, DHHI, DHHO, DHHOO, DHHU, DHI,
 DHO, DHOO, DHU, DI, DO, DOO, DU, E, EE, EEN, EN, FA, FE, FEE, FI, FO, FOO, FU, GA, GBA, GBE,
 GBEE, GBEN, GBI, GBO, GBON, GBOO, GBU, GE, GEE, GEN, GI, GO, GOO, GU, HA, HAN, HE, HEE, HEN, HI,
 HIN, HO, HON, HOO, HU, HUN, I, IN, JA, JE, JEE, JI, JO, JOO, JU, KA, KAN, KE, KEE, KI, KO, KOO,
 KPA, KPAN, KPE, KPEE, KPEN, KPI, KPO, KPOO, KPU, KU, LA, LE, LEE, LENGTHENER, LI, LO, LOO, LU,
 MA, MBA, MBE, MBEE, MBI, MBO, MBOO, MBU, ME, MEE, MGBA, MGBE, MGBEE, MGBI, MGBO, MGBOO, MGBU, MI,
 MO, MOO, MU, NA, NDA, NDE, NDEE, NDI, NDO, NDOLE( DO, FA, KA, MA, SOO), NDOO, NDU, NE, NEE, NG,
 NGAN, NGEN, NGGA, NGGE, NGGEE, NGGEN, NGGI, NGGO, NGGOO, NGGU, NGON, NI, NJA, NJE, NJEE, NJI,
 NJO, NJOO, NJU, NO, NOO, NU, NYA, NYE, NYEE, NYI, NYO, NYOO, NYU, O, ON, OO, OON, PA, PE, PEE,
 PI, PO, POO, PU, RA, RE, REE, RI, RO, ROO, RU, SA, SE, SEE, SHA, SHE, SHEE, SHI, SHO, SHOO, SHU,
 SI, SO, SOO, SU, TA, TE, TEE, THA, THE, THEE, THI, THO, THOO, THU, TI, TO, TOO, TU, U, UN, VA,
 VE, VEE, VI, VO, VOO, VU, WA, WAN, WE, WEE, WEEN, WEN, WI, WIN, WO, WON, WOO, WOON, WU, WUN, YA,
 YE, YEE, YI, YO, YOO, YU, ZA, ZE, ZEE, ZHA, ZHE, ZHEE, ZHI, ZHO, ZHOO, ZHU, ZI, ZO, ZOO, ZU),
 SYMBOL( BANG, DANG, DO-O, DOONG, FAA, FEENG, JONG, KEENG, KUNG, NII, TAA, TING, TONG)),VAMPIRE,
VARIATION SELECTOR(-1,-10,-100,-101,-102,-103,-104,-105,-106,-107,-108,-109,-11,-110,-111,-112,
-113,-114,-115,-116,-117,-118,-119,-12,-120,-121,-122,-123,-124,-125,-126,-127,-128,-129,-13,-130,
-131,-132,-133,-134,-135,-136,-137,-138,-139,-14,-140,-141,-142,-143,-144,-145,-146,-147,-148,
-149,-15,-150,-151,-152,-153,-154,-155,-156,-157,-158,-159,-16,-160,-161,-162,-163,-164,-165,-166,
-167,-168,-169,-17,-170,-171,-172,-173,-174,-175,-176,-177,-178,-179,-18,-180,-181,-182,-183,-184,
-185,-186,-187,-188,-189,-19,-190,-191,-192,-193,-194,-195,-196,-197,-198,-199,-2,-20,-200,-201,
-202,-203,-204,-205,-206,-207,-208,-209,-21,-210,-211,-212,-213,-214,-215,-216,-217,-218,-219,-22,
-220,-221,-222,-223,-224,-225,-226,-227,-228,-229,-23,-230,-231,-232,-233,-234,-235,-236,-237,
-238,-239,-24,-240,-241,-242,-243,-244,-245,-246,-247,-248,-249,-25,-250,-251,-252,-253,-254,-255,
-256,-26,-27,-28,-29,-3,-30,-31,-32,-33,-34,-35,-36,-37,-38,-39,-4,-40,-41,-42,-43,-44,-45,-46,
-47,-48,-49,-5,-50,-51,-52,-53,-54,-55,-56,-57,-58,-59,-6,-60,-61,-62,-63,-64,-65,-66,-67,-68,-69,
-7,-70,-71,-72,-73,-74,-75,-76,-77,-78,-79,-8,-80,-81,-82,-83,-84,-85,-86,-87,-88,-89,-9,-90,-91,
-92,-93,-94,-95,-96,-97,-98,-99),VECTOR OR CROSS PRODUCT,VEDIC( SIGN( ANUSVARA( ANTARGOMUKHA,
 BAHIRGOMUKHA, UBHAYATO MUKHA, VAMAGOMUKHA(, WITH TAIL)), ARDHAVISARGA, ATIKRAMA, DOUBLE ANUSVARA
 ANTARGOMUKHA, HEXIFORM LONG ANUSVARA, JIHVAMULIYA, LONG ANUSVARA, NIHSHVASA, REVERSED VISARGA(
 ANUDATTA, UDATTA), ROTATED ARDHAVISARGA, RTHANG LONG ANUSVARA, TIRYAK, UPADHMANIYA, VISARGA(
 ANUDATTA(, WITH TAIL), SVARITA, UDATTA(, WITH TAIL)), YAJURVEDIC MIDLINE SVARITA), TONE(
 ATHARVAVEDIC INDEPENDENT SVARITA, CANDRA( ABOVE, BELOW), DOT BELOW, DOUBLE( RING ABOVE, SVARITA),
 KARSHANA, KATHAKA ANUDATTA, PRENKHA, RIGVEDIC KASHMIRI INDEPENDENT SVARITA, RING ABOVE, SHARA,
 THREE DOTS BELOW, TRIPLE SVARITA, TWO DOTS BELOW, YAJURVEDIC( AGGRAVATED INDEPENDENT SVARITA,
 INDEPENDENT SVARITA, KATHAKA INDEPENDENT SVARITA(, SCHROEDER)))),VERSICLE,VERTICAL( BAR( BESIDE
 RIGHT TRIANGLE, DOUBLE LEFT TURNSTILE, TRIPLE RIGHT TURNSTILE, WITH HORIZONTAL STROKE), ELLIPSIS,
 FOUR DOTS, IDEOGRAPHIC ITERATION MARK, KANA REPEAT( MARK(, LOWER HALF, UPPER HALF), WITH VOICED
 SOUND MARK(, UPPER HALF)), LINE(, EXTENSION, WITH( CIRCLE( ABOVE, BELOW), MIDDLE DOT)), MALE
 WITH STROKE SIGN, ONE EIGHTH BLOCK(-2,-3,-4,-5,-6,-7), SIX DOTS, TAB KEY, TABULATION(, SET),
 TILDE, TRAFFIC LIGHT, ZIGZAG LINE),VERY( BOLD GREEK CROSS, HEAVY( EIGHT( POINTED BLACK STAR,
 SPOKED ASTERISK), FIVE SPOKED ASTERISK, GREEK CROSS, REVERSE SOLIDUS, SALTIRE, SIX SPOKED
 ASTERISK, SOLIDUS, WHITE( CIRCLE, SQUARE)), MUCH( GREATER-THAN, LESS-THAN)),VESTA,VIBRATION MODE,
VICTORY HAND,VIDEO( CAMERA, GAME),VIDEOCASSETTE,VIETNAMESE ALTERNATE READING MARK( CA, NHAY),
VIEWDATA SQUARE,VIOLIN,VIRGO,VITHKUQI( CAPITAL LETTER( A, BBE, BE, CE, CHE, DE, DHE, E, EI, FE,
 GA, HA, HHA, I, IJE, JE, KA, LA, LLA, ME, NE, NJE, O, PE, QA, RE, SE, SHE, TE, THE, U, VE, XE, Y,
 ZE), SMALL LETTER( A, BBE, BE, CE, CHE, DE, DHE, E, EI, FE, GA, HA, HHA, I, IJE, JE, KA, LA, LLA,
 ME, NE, NJE, O, PE, QA, RE, SE, SHE, TE, THE, U, VE, XE, Y, ZE)),VOIDED GREEK CROSS,VOLCANO,
VOLLEYBALL,VOLUME INTEGRAL,VS1,VS10,VS100,VS101,VS102,VS103,VS104,VS105,VS106,VS107,VS108,VS109,
VS11,VS110,VS111,VS112,VS113,VS114,VS115,VS116,VS117,VS118,VS119,VS12,VS120,VS121,VS122,VS123,
VS124,VS125,VS126,VS127,VS128,VS129,VS13,VS130,VS131,VS132,VS133,VS134,VS135,VS136,VS137,VS138,
VS139,VS14,VS140,VS141,VS142,VS143,VS144,VS145,VS146,VS147,VS148,VS149,VS15,VS150,VS151,VS152,
VS153,VS154,VS155,VS156,VS157,VS158,VS159,VS16,VS160,VS161,VS162,VS163,VS164,VS165,VS166,VS167,
VS168,VS169,VS17,VS170,VS171,VS172,VS173,VS174,VS175,VS176,VS177,VS178,VS179,VS18,VS180,VS181,
VS182,VS183,VS184,VS185,VS186,VS187,VS188,VS189,VS19,VS190,VS191,VS192,VS193,VS194,VS195,VS196,
VS197,VS198,VS199,VS2,VS20,VS200,VS201,VS202,VS203,VS204,VS205,VS206,VS207,VS208,VS209,VS21,VS210,
VS211,VS212,VS213,VS214,VS215,VS216,VS217,VS218,VS219,VS22,VS220,VS221,VS222,VS223,VS224,VS225,
VS226,VS227,VS228,VS229,VS23,VS230,VS231,VS232,VS233,VS234,VS235,VS236,VS237,VS238,VS239,VS24,
VS240,VS241,VS242,VS243,VS244,VS245,VS246,VS247,VS248,VS249,VS25,VS250,VS251,VS252,VS253,VS254,
VS255,VS256,VS26,VS27,VS28,VS29,VS3,VS30,VS31,VS32,VS33,VS34,VS35,VS36,VS37,VS38,VS39,VS4,VS40,
VS41,VS42,VS43,VS44,VS45,VS46,VS47,VS48,VS49,VS5,VS50,VS51,VS52,VS53,VS54,VS55,VS56,VS57,VS58,
VS59,VS6,VS60,VS61,VS62,VS63,VS64,VS65,VS66,VS67,VS68,VS69,VS7,VS70,VS71,VS72,VS73,VS74,VS75,VS76,
VS77,VS78,VS79,VS8,VS80,VS81,VS82,VS83,VS84,VS85,VS86,VS87,VS88,VS89,VS9,VS90,VS91,VS92,VS93,VS94,
VS95,VS96,VS97,VS98,VS99,VT,VTS,VULCANUS,VULGAR FRACTION( FIVE( EIGHTHS, SIXTHS), FOUR FIFTHS,
 ONE( EIGHTH, FIFTH, HALF, NINTH, QUARTER, SEVENTH, SIXTH, TENTH, THIRD), SEVEN EIGHTHS, THREE(
 EIGHTHS, FIFTHS, QUARTERS), TWO( FIFTHS, THIRDS), ZERO THIRDS),WAFFLE,WANCHO( DIGIT( EIGHT, FIVE,
 FOUR, NINE, ONE, SEVEN, SIX, THREE, TWO, ZERO), LETTER( A, AA, AAN, AANG, ANG, AU, BA, CA, DA, E,
 EN, FA, GA, HA, I, ING, JA, KA, KHA, LA, LLHA, MA, NA, NGA, NYA, O, ON, ONG, PA, PHA, RA, SA,
 SHA, TA, THA, TRA, TSA, U, UEN, VA, WA, YA, YIH, ZA), NGUN SIGN, TONE( KOI, KOINI, TUP, TUPNI)),
WANING( CRESCENT MOON SYMBOL, GIBBOUS MOON SYMBOL),WARANG CITI( CAPITAL LETTER( A, AM, ANG, AT,
 BU, DA, E, ENN, ENY, GA, HAR, HIYO, HOLO, HORR, II, KO, NGAA, NUNG, O, ODD, PU, SII, SSUU, TTE,
 UC, UU, VIYO, WI, YA, YO, YU, YUJ), DIGIT( EIGHT, FIVE, FOUR, NINE, ONE, SEVEN, SIX, THREE, TWO,
 ZERO), NUMBER( EIGHTY, FIFTY, FORTY, NINETY, SEVENTY, SIXTY, TEN, THIRTY, TWENTY), OM, SMALL
 LETTER( A, AM, ANG, AT, BU, DA, E, ENN, ENY, GA, HAR, HIYO, HOLO, HORR, II, KO, NGAA, NUNG, O,
 ODD, PU, SII, SSUU, TTE, UC, UU, VIYO, WI, YA, YO, YU, YUJ)),WARNING SIGN,WASTEBASKET,WATCH,
WATER( BUFFALO, CLOSET, POLO, WAVE),WATERMELON,WAVE( ARROW POINTING DIRECTLY( LEFT, RIGHT), DASH),
WAVING( BLACK FLAG, HAND SIGN, WHITE FLAG),WAVY( DASH, LINE, LOW LINE, OVERLINE),WAXING( CRESCENT
 MOON SYMBOL, GIBBOUS MOON SYMBOL),WEARY( CAT FACE, FACE),WEDDING,WEDGE-TAILED RIGHTWARDS ARROW,
WEIERSTRASS ELLIPTIC FUNCTION,WEIGHT LIFTER,WEST SYRIAC CROSS,WHALE,WHEEL(, OF DHARMA),WHEELCHAIR
 SYMBOL,WHITE( ARROW SHAFT WIDTH( ONE, TWO THIRDS), BULLET, CHESS( BISHOP(, ROTATED( NINETY
 DEGREES, TWO HUNDRED SEVENTY DEGREES)), EQUIHOPPER(, ROTATED NINETY DEGREES), KING(, ROTATED(
 NINETY DEGREES, TWO HUNDRED SEVENTY DEGREES)), KNIGHT(, ROTATED( FORTY-FIVE DEGREES, NINETY
 DEGREES, ONE HUNDRED THIRTY-FIVE DEGREES, THREE HUNDRED FIFTEEN DEGREES, TWO HUNDRED( SEVENTY
 DEGREES, TWENTY-FIVE DEGREES)),-BISHOP,-QUEEN,-ROOK), PAWN(, ROTATED( NINETY DEGREES, TWO
 HUNDRED SEVENTY DEGREES)), QUEEN(, ROTATED( NINETY DEGREES, TWO HUNDRED SEVENTY DEGREES)), ROOK(,
 ROTATED( NINETY DEGREES, TWO HUNDRED SEVENTY DEGREES)), TURNED( BISHOP, KING, KNIGHT, PAWN,
 QUEEN, ROOK)), CIRCLE(, CONTAINING BLACK SMALL CIRCLE, WITH( DOT RIGHT, DOWN ARROW, LOWER( LEFT
 QUADRANT, RIGHT QUADRANT), TWO DOTS, UPPER( LEFT QUADRANT, RIGHT QUADRANT))), CLUB SUIT,
 CONCAVE-SIDED DIAMOND(, WITH( LEFTWARDS TICK, RIGHTWARDS TICK)), DIAMOND(, CONTAINING BLACK(
 MEDIUM DIAMOND, SMALL DIAMOND, VERY SMALL DIAMOND), IN SQUARE, SUIT, WITH CENTRED DOT), DOWN(
 POINTING( BACKHAND INDEX, INDEX, LEFT HAND INDEX),-POINTING( SMALL TRIANGLE, TRIANGLE)),
 DRAUGHTS( KING, MAN), EXCLAMATION MARK ORNAMENT, FLAG(, WITH HORIZONTAL MIDDLE BLACK STRIPE),
 FLORETTE, FLOWER, FOUR POINTED( CUSP, STAR), FROWNING FACE, HARD SHELL FLOPPY DISK, HEART(,
 SUIT), HEAVY( CHECK MARK, SALTIRE WITH ROUNDED CORNERS), HEXAGON, HORIZONTAL ELLIPSE, HOURGLASS,
 LARGE SQUARE, LATIN CROSS, LEFT( LANE MERGE, POINTING( BACKHAND INDEX, INDEX),-POINTING( POINTER,
 SMALL TRIANGLE, TRIANGLE)), LOZENGE CONTAINING BLACK SMALL LOZENGE, MEDIUM( DIAMOND, LOZENGE,
 SMALL SQUARE, SQUARE, STAR), MOON SELENA, NIB, PARALLELOGRAM, PENNANT, PENTAGON, QUESTION MARK
 ORNAMENT, RECTANGLE, RIGHT( POINTING( BACKHAND INDEX, INDEX),-POINTING( PENTAGON, POINTER, SMALL
 TRIANGLE, TRIANGLE)), SCISSORS, SESAME DOT, SHOGI PIECE, SMALL( LOZENGE, SQUARE, STAR), SMILING
 FACE, SPADE SUIT, SQUARE(, BUTTON, CONTAINING BLACK( MEDIUM SQUARE, SMALL SQUARE, VERY SMALL
 SQUARE), WITH( CENTRE VERTICAL LINE, LEFTWARDS TICK, LOWER( LEFT QUADRANT, RIGHT QUADRANT),
 RIGHTWARDS TICK, ROUNDED CORNERS, UPPER( LEFT QUADRANT, RIGHT QUADRANT), VERTICAL BISECTING
 LINE)), STAR, SUN(, BEHIND CLOUD(, WITH RAIN), WITH( RAYS, SMALL CLOUD)), TELEPHONE, TOUCHTONE
 TELEPHONE, TRAPEZIUM, TRIANGLE CONTAINING SMALL WHITE TRIANGLE, TWO-WAY LEFT WAY TRAFFIC, UP(
 POINTING( BACKHAND INDEX, INDEX),-POINTING( CHEVRON, SMALL TRIANGLE, TRIANGLE(, WITH DOT))),
 VERTICAL( BAR, ELLIPSE, RECTANGLE), VERY SMALL SQUARE,-FEATHERED RIGHTWARDS ARROW),WIDE-HEADED(
 DOWNWARDS( BARB ARROW, HEAVY BARB ARROW, LIGHT BARB ARROW, MEDIUM BARB ARROW, VERY HEAVY BARB
 ARROW), LEFTWARDS( BARB ARROW, HEAVY BARB ARROW, LIGHT BARB ARROW, MEDIUM BARB ARROW, VERY HEAVY
 BARB ARROW), NORTH( EAST( BARB ARROW, HEAVY BARB ARROW, LIGHT BARB ARROW, MEDIUM BARB ARROW,
 VERY HEAVY BARB ARROW), WEST( BARB ARROW, HEAVY BARB ARROW, LIGHT BARB ARROW, MEDIUM BARB ARROW,
 VERY HEAVY BARB ARROW)), RIGHTWARDS( BARB ARROW, HEAVY BARB ARROW, LIGHT BARB ARROW, MEDIUM BARB
 ARROW, VERY HEAVY BARB ARROW), SOUTH( EAST( BARB ARROW, HEAVY BARB ARROW, LIGHT BARB ARROW,
 MEDIUM BARB ARROW, VERY HEAVY BARB ARROW), WEST( BARB ARROW, HEAVY BARB ARROW, LIGHT BARB ARROW,
 MEDIUM BARB ARROW, VERY HEAVY BARB ARROW)), UPWARDS( BARB ARROW, HEAVY BARB ARROW, LIGHT BARB
 ARROW, MEDIUM BARB ARROW, VERY HEAVY BARB ARROW)),WIGGLY VERTICAL LINE,WILTED FLOWER,WIND(
 BLOWING FACE, CHIME),WINDOW,WINE GLASS,WINKING FACE,WIRED KEYBOARD,WJ,WOLF FACE,WOMAN(, WITH
 BUNNY EARS),WOMANS( BOOTS, CLOTHES, HAT, SANDAL),WOMENS SYMBOL,WON SIGN,WOOD,WORD( JOINER,
 SEPARATOR MIDDLE DOT),WORLD MAP,WORM,WORRIED FACE,WRAPPED PRESENT,WREATH PRODUCT,WRENCH,
WRESTLERS,WRITING HAND,X IN A RECTANGLE BOX,X-RAY,XIANGQI( BLACK( CANNON, CHARIOT, ELEPHANT,
 GENERAL, HORSE, MANDARIN, SOLDIER), RED( CANNON, CHARIOT, ELEPHANT, GENERAL, HORSE, MANDARIN,
 SOLDIER)),XOR,YAWNING FACE,YELLOW HEART,YEN SIGN,YEZIDI( COMBINING( HAMZA MARK, MADDA MARK),
 HYPHENATION MARK, LETTER( BE, CHHIM, CHIM, CIM, DAD, DAL, ELIF, ET, EW, EYN, FA, GAF, HAY, HHA,
 JA, KAF, KHAF, LAM(, WITH DOT ABOVE), MIM, NUN, OW, PE, PHE, QAF, RA, RHA, SAD, SE, SHIN, SIN,
 TA, THE, UM, VA(, ALTERNATE FORM), WAW, XA, XHEYN, YOT(, WITH CIRCUMFLEX ABOVE), ZA, ZAL, ZE)),
YI RADICAL( BBUT, BUR, CHE, CIP, CUOP, CY, CYP, CYT, DDUR, DU, GA, GEP, GGOP, GGUO, GOT, HMO,
 HXIT, HXOP, HXUO, JJIE, JJUT, JJY, JO, KE, KIT, LI, LIE, LYR, MI, MOP, NBIE, NYIP, NYOP, NZUP,
 OP, PUT, PYT, QOT, SHAT, SHOP, SHUR, SHY, SSI, TAT, TU, VEP, VUR, WO, YIT, YO, ZA, ZOT, ZUP, ZUR,
 ZZIET),YI SYLLABLE( A, AP, AT, AX, BA, BAP, BAT, BAX, BBA, BBAP, BBAT, BBAX, BBE, BBEP, BBEX,
 BBI, BBIE, BBIEP, BBIET, BBIEX, BBIP, BBIT, BBIX, BBO, BBOP, BBOT, BBOX, BBU, BBUO, BBUOP, BBUOX,
 BBUP, BBUR, BBURX, BBUT, BBUX, BBY, BBYP, BBYT, BBYX, BE, BEP, BEX, BI, BIE, BIEP, BIET, BIEX,
 BIP, BIT, BIX, BO, BOP, BOT, BOX, BU, BUO, BUOP, BUOX, BUP, BUR, BURX, BUT, BUX, BY, BYP, BYR,
 BYRX, BYT, BYX, CA, CAP, CAT, CAX, CE, CEP, CEX, CHA, CHAP, CHAT, CHAX, CHE, CHEP, CHET, CHEX,
 CHO, CHOP, CHOT, CHOX, CHU, CHUO, CHUOP, CHUOT, CHUOX, CHUP, CHUR, CHURX, CHUX, CHY, CHYP, CHYR,
 CHYRX, CHYT, CHYX, CI, CIE, CIEP, CIET, CIEX, CIP, CIT, CIX, CO, COP, COT, COX, CU, CUO, CUOP,
 CUOX, CUP, CUR, CURX, CUT, CUX, CY, CYP, CYR, CYRX, CYT, CYX, DA, DAP, DAT, DAX, DDA, DDAP, DDAT,
 DDAX, DDE, DDEP, DDEX, DDI, DDIE, DDIEP, DDIEX, DDIP, DDIT, DDIX, DDO, DDOP, DDOT, DDOX, DDU,
 DDUO, DDUOP, DDUOX, DDUP, DDUR, DDURX, DDUT, DDUX, DE, DEP, DEX, DI, DIE, DIEP, DIEX, DIP, DIT,
 DIX, DO, DOP, DOT, DOX, DU, DUO, DUOX, DUP, DUR, DURX, DUT, DUX, E, EX, FA, FAP, FAT, FAX, FI,
 FIP, FIT, FIX, FO, FOP, FOX, FU, FUP, FUR, FURX, FUT, FUX, FY, FYP, FYT, FYX, GA, GAP, GAT, GAX,
 GE, GEP, GET, GEX, GGA, GGAP, GGAT, GGAX, GGE, GGEP, GGET, GGEX, GGI, GGIE, GGIEP, GGIEX, GGIT,
 GGIX, GGO, GGOP, GGOT, GGOX, GGU, GGUO, GGUOP, GGUOT, GGUOX, GGUP, GGUR, GGURX, GGUT, GGUX, GI,
 GIE, GIEP, GIET, GIEX, GIP, GIT, GIX, GO, GOP, GOT, GOX, GU, GUO, GUOP, GUOT, GUOX, GUP, GUR,
 GURX, GUT, GUX, HA, HAP, HAT, HAX, HE, HEP, HEX, HIE, HIEX, HIT, HLA, HLAP, HLAT, HLAX, HLE,
 HLEP, HLEX, HLI, HLIE, HLIEP, HLIEX, HLIP, HLIT, HLIX, HLO, HLOP, HLOX, HLU, HLUO, HLUOP, HLUOX,
 HLUP, HLUR, HLURX, HLUT, HLUX, HLY, HLYP, HLYR, HLYRX, HLYT, HLYX, HMA, HMAP, HMAT, HMAX, HMI,
 HMIE, HMIEP, HMIEX, HMIP, HMIT, HMIX, HMO, HMOP, HMOT, HMOX, HMU, HMUO, HMUOP, HMUOX, HMUP, HMUR,
 HMURX, HMUT, HMUX, HMY, HMYP, HMYR, HMYRX, HMYX, HNA, HNAP, HNAT, HNAX, HNE, HNEP, HNEX, HNI,
 HNIE, HNIEP, HNIET, HNIEX, HNIP, HNIT, HNIX, HNOP, HNOT, HNOX, HNUO, HNUOX, HNUT, HO, HOP, HOT,
 HOX, HUO, HUOP, HUOT, HUOX, HXA, HXAP, HXAT, HXAX, HXE, HXEP, HXEX, HXI, HXIE, HXIEP, HXIET,
 HXIEX, HXIP, HXIT, HXIX, HXO, HXOP, HXOT, HXOX, HXUO, HXUOP, HXUOT, HXUOX, I, IE, IEP, IET, IEX,
 IP, IT, ITERATION MARK, IX, JI, JIE, JIEP, JIET, JIEX, JIP, JIT, JIX, JJI, JJIE, JJIEP, JJIET,
 JJIEX, JJIP, JJIT, JJIX, JJO, JJOP, JJOT, JJOX, JJU, JJUO, JJUOP, JJUOX, JJUP, JJUR, JJURX, JJUT,
 JJUX, JJY, JJYP, JJYT, JJYX, JO, JOP, JOT, JOX, JU, JUO, JUOP, JUOT, JUOX, JUP, JUR, JURX, JUT,
 JUX, JY, JYP, JYR, JYRX, JYT, JYX, KA, KAP, KAT, KAX, KE, KEP, KET, KEX, KI, KIE, KIEP, KIEX,
 KIP, KIT, KIX, KO, KOP, KOT, KOX, KU, KUO, KUOP, KUOX, KUP, KUR, KURX, KUT, KUX, LA, LAP, LAT,
 LAX, LE, LEP, LEX, LI, LIE, LIEP, LIET, LIEX, LIP, LIT, LIX, LO, LOP, LOT, LOX, LU, LUO, LUOP,
 LUOT, LUOX, LUP, LUR, LURX, LUT, LUX, LY, LYP, LYR, LYRX, LYT, LYX, MA, MAP, MAT, MAX, ME, MEX,
 MGA, MGAP, MGAT, MGAX, MGE, MGEP, MGEX, MGIE, MGIEX, MGO, MGOP, MGOT, MGOX, MGU, MGUO, MGUOP,
 MGUOX, MGUP, MGUR, MGURX, MGUT, MGUX, MI, MIE, MIEP, MIEX, MIP, MIT, MIX, MO, MOP, MOT, MOX, MU,
 MUO, MUOP, MUOT, MUOX, MUP, MUR, MURX, MUT, MUX, MY, MYP, MYT, MYX, NA, NAP, NAX, NBA, NBAP,
 NBAT, NBAX, NBI, NBIE, NBIEP, NBIEX, NBIP, NBIT, NBIX, NBO, NBOP, NBOT, NBOX, NBU, NBUP, NBUR,
 NBURX, NBUT, NBUX, NBY, NBYP, NBYR, NBYRX, NBYT, NBYX, NDA, NDAP, NDAT, NDAX, NDE, NDEP, NDEX,
 NDI, NDIE, NDIEX, NDIP, NDIT, NDIX, NDO, NDOP, NDOT, NDOX, NDU, NDUP, NDUR, NDURX, NDUT, NDUX,
 NE, NEP, NEX, NGA, NGAP, NGAT, NGAX, NGE, NGEP, NGEX, NGIE, NGIEP, NGIEX, NGO, NGOP, NGOT, NGOX,
 NGUO, NGUOT, NGUOX, NI, NIE, NIEP, NIEX, NIP, NIT, NIX, NJI, NJIE, NJIEP, NJIET, NJIEX, NJIP,
 NJIT, NJIX, NJO, NJOP, NJOT, NJOX, NJU, NJUO, NJUOX, NJUP, NJUR, NJURX, NJUX, NJY, NJYP, NJYR,
 NJYRX, NJYT, NJYX, NO, NOP, NOT, NOX, NRA, NRAP, NRAT, NRAX, NRE, NREP, NRET, NREX, NRO, NROP,
 NROX, NRU, NRUP, NRUR, NRURX, NRUT, NRUX, NRY, NRYP, NRYR, NRYRX, NRYT, NRYX, NU, NUO, NUOP,
 NUOX, NUP, NUR, NURX, NUT, NUX, NYI, NYIE, NYIEP, NYIET, NYIEX, NYIP, NYIT, NYIX, NYO, NYOP,
 NYOT, NYOX, NYU, NYUO, NYUOP, NYUOX, NYUP, NYUT, NYUX, NZA, NZAP, NZAT, NZAX, NZE, NZEX, NZI,
 NZIE, NZIEP, NZIEX, NZIP, NZIT, NZIX, NZOP, NZOX, NZU, NZUO, NZUOX, NZUP, NZUR, NZURX, NZUX, NZY,
 NZYP, NZYR, NZYRX, NZYT, NZYX, O, OP, OT, OX, PA, PAP, PAT, PAX, PI, PIE, PIEP, PIEX, PIP, PIT,
 PIX, PO, POP, POT, POX, PU, PUO, PUOP, PUOX, PUP, PUR, PURX, PUT, PUX, PY, PYP, PYR, PYRX, PYT,
 PYX, QI, QIE, QIEP, QIET, QIEX, QIP, QIT, QIX, QO, QOP, QOT, QOX, QU, QUO, QUOP, QUOT, QUOX, QUP,
 QUR, QURX, QUT, QUX, QY, QYP, QYR, QYRX, QYT, QYX, RA, RAP, RAT, RAX, RE, REP, REX, RO, ROP, ROT,
 ROX, RRA, RRAX, RRE, RREP, RRET, RREX, RRO, RROP, RROT, RROX, RRU, RRUO, RRUOX, RRUP, RRUR,
 RRURX, RRUT, RRUX, RRY, RRYP, RRYR, RRYRX, RRYT, RRYX, RU, RUO, RUOP, RUOX, RUP, RUR, RURX, RUT,
 RUX, RY, RYP, RYR, RYRX, RYT, RYX, SA, SAP, SAT, SAX, SE, SEP, SEX, SHA, SHAP, SHAT, SHAX, SHE,
 SHEP, SHET, SHEX, SHO, SHOP, SHOT, SHOX, SHU, SHUO, SHUOP, SHUOX, SHUP, SHUR, SHURX, SHUT, SHUX,
 SHY, SHYP, SHYR, SHYRX, SHYT, SHYX, SI, SIE, SIEP, SIEX, SIP, SIT, SIX, SO, SOP, SOT, SOX, SSA,
 SSAP, SSAT, SSAX, SSE, SSEP, SSEX, SSI, SSIE, SSIEP, SSIEX, SSIP, SSIT, SSIX, SSO, SSOP, SSOT,
 SSOX, SSU, SSUP, SSUT, SSUX, SSY, SSYP, SSYR, SSYRX, SSYT, SSYX, SU, SUO, SUOP, SUOX, SUP, SUR,
 SURX, SUT, SUX, SY, SYP, SYR, SYRX, SYT, SYX, TA, TAP, TAT, TAX, TE, TEP, TEX, TI, TIE, TIEP,
 TIEX, TIP, TIT, TIX, TO, TOP, TOT, TOX, TU, TUO, TUOP, TUOT, TUOX, TUP, TUR, TURX, TUT, TUX, UO,
 UOP, UOX, VA, VAP, VAT, VAX, VEP, VEX, VI, VIE, VIEP, VIET, VIEX, VIP, VIT, VIX, VO, VOP, VOT,
 VOX, VU, VUP, VUR, VURX, VUT, VUX, VY, VYP, VYR, VYRX, VYT, VYX, WA, WAP, WAT, WAX, WE, WEP, WEX,
 WO, WOP, WOX, WU, WUO, WUOP, WUOX, XI, XIE, XIEP, XIET, XIEX, XIP, XIT, XIX, XO, XOP, XOT, XOX,
 XUO, XUOX, XY, XYP, XYR, XYRX, XYT, XYX, YI, YIE, YIEP, YIET, YIEX, YIP, YIT, YIX, YO, YOP, YOT,
 YOX, YU, YUO, YUOP, YUOT, YUOX, YUP, YUR, YURX, YUT, YUX, YY, YYP, YYR, YYRX, YYT, YYX, ZA, ZAP,
 ZAT, ZAX, ZE, ZEP, ZEX, ZHA, ZHAP, ZHAT, ZHAX, ZHE, ZHEP, ZHET, ZHEX, ZHO, ZHOP, ZHOT, ZHOX, ZHU,
 ZHUO, ZHUOP, ZHUOX, ZHUP, ZHUR, ZHURX, ZHUT, ZHUX, ZHY, ZHYP, ZHYR, ZHYRX, ZHYT, ZHYX, ZI, ZIE,
 ZIEP, ZIEX, ZIP, ZIT, ZIX, ZO, ZOP, ZOT, ZOX, ZU, ZUO, ZUOP, ZUOX, ZUP, ZUR, ZURX, ZUT, ZUX, ZY,
 ZYP, ZYR, ZYRX, ZYT, ZYX, ZZA, ZZAP, ZZAT, ZZAX, ZZE, ZZEP, ZZEX, ZZI, ZZIE, ZZIEP, ZZIET, ZZIEX,
 ZZIP, ZZIT, ZZIX, ZZO, ZZOP, ZZOX, ZZU, ZZUP, ZZUR, ZZURX, ZZUX, ZZY, ZZYP, ZZYR, ZZYRX, ZZYT,
 ZZYX),YIN YANG,YO-YO,Z NOTATION( BAG MEMBERSHIP, DOMAIN ANTIRESTRICTION, LEFT( BINDING BRACKET,
 IMAGE BRACKET), RANGE ANTIRESTRICTION, RELATIONAL COMPOSITION, RIGHT( BINDING BRACKET, IMAGE
 BRACKET), SCHEMA( COMPOSITION, PIPING, PROJECTION), SPOT, TYPE COLON),ZANABAZAR SQUARE( CLOSING(
 DOUBLE-LINED HEAD MARK, HEAD MARK), CLUSTER(-FINAL LETTER( LA, RA, VA, YA),-INITIAL LETTER RA),
 FINAL CONSONANT MARK, INITIAL( DOUBLE-LINED HEAD MARK, HEAD MARK), LETTER( -A, A, BA, BHA, CA,
 CHA, DA, DDA, DDHA, DHA, DZA, DZHA, GA, GHA, HA, JA, KA, KHA, KSSA, LA, MA, NA, NGA, NNA, NYA,
 PA, PHA, RA, SA, SHA, SSA, TA, THA, TSA, TSHA, TTA, TTHA, VA, YA, ZA, ZHA), MARK( DOUBLE SHAD,
 LONG TSHEG, SHAD, TSHEG), SIGN( ANUSVARA, CANDRA WITH ORNAMENT, CANDRABINDU(, WITH ORNAMENT),
 VIRAMA, VISARGA), SUBJOINER, VOWEL( LENGTH MARK, SIGN( AI, AU, E, I, O, OE, REVERSED I, U, UE))),
ZEBRA FACE,ZERO WIDTH( JOINER, NO-BREAK SPACE, NON-JOINER, SPACE),ZEUS,ZIPPER-MOUTH FACE,ZNAMENNY(
 COMBINING( ATTACHING VERTICAL OMET, LOWER TONAL RANGE INDICATOR, MARK( BORZAYA, CHASHKA(,
 POLNAYA), CURVED OMET, DEMESTVENNY ZADERZHKA, DVOETOCHIE, GORAZDO( NIZKO( ON( LEFT, RIGHT), S
 KRYZHEM ON( LEFT, RIGHT)), VYSOKO), KACHKA, KRYZH(, ON LEFT), KUPNAYA, LOMKA, MALO POVYSHE( ON(
 LEFT, RIGHT), S KHOKHLOM ON( LEFT, RIGHT), S KRYZHEM, STRANNO), NIZKO( ON( LEFT, RIGHT), S
 KRYZHEM ON( LEFT, RIGHT)), OBLACHKO, ON, OTSECHKA, PODCHASHIE(, WITH VERTICAL STROKE), PODVERTKA,
 POVYSHE( ON( LEFT, RIGHT), S KHOKHLOM ON( LEFT, RIGHT), S KRYZHEM, STRANNO), RAVNO, RAZSEKA,
 SKOBA, SOROCHYA NOZHKA, SREDNE ON( LEFT, RIGHT), STRANNO MALO POVYSHE, TIKHAYA, TOCHKA, TSATA(
 ON( LEFT, RIGHT), S KRYZHEM), UDARKA, VYSOKO( ON( LEFT, RIGHT), S KHOKHLOM ON( LEFT, RIGHT), S
 KRYZHEM), ZADERZHKA, ZELO, ZEVOK), TONAL RANGE MARK( MRACHNO, SVETLO, TRESVETLO)), NEUME(
 CHASHKA, CHELYUSTKA, DEMESTVENNY KLYUCH, DERBITSA, DOUBLE ZAPYATAYA, DUDA, DVA V CHELNU, FITA,
 GOLUBCHIK( BORZY, MRACHNY, SVETLY, TIKHY, TRESVETLY), KHAMILO, KLYUCH, KOBYLA, KRYUK(, TIKHY),
 KRYZH, KUFISMA, MECHIK(, KLYUCHENEPOSTOYANNY, KLYUCHEPOVODNY, KLYUCHEVOY, POVODNY), NEMKA,
 OBLAKO, OSOKA(, KLYUCHEVAYA( NEPOSTOYANNAYA, SVETLAYA), KRYUKOVAYA SVETLAYA, SVETLAYA,
 TRESVETLAYA), PALKA, PARAKLIT, PAUK, PEREVODKA(, NEPOSTOYANNAYA), PODCHASHIE, POLKULIZMY,
 REVERSED CHELYUSTKA, ROG, SKAMEYTSA( DVOECHELNAYA( KLYUCHEVAYA, NEPOSTOYANNAYA, PROSTAYA,
 SVETLAYA), KLYUCHENEPOSTOYANNAYA, KLYUCHEVAYA( SVETLAYA, TIKHAYA), MRACHNAYA, SVETLAYA, TIKHAYA,
 TRESVETLAYA), SLOZHITIE(, S KRYZHEM, S ZAPYATOY, ZAKRYTOE), STATYA(, NEPOSTOYANNAYA, S( DVUMYA
 ZAPYATYMI, KRYZHEM(, I ZAPYATOY), ROGOM, ZAPYATOY(, I KRYZHEM, I PODCHASHIEM)), ZAKRYTAYA(, S
 ZAPYATOY)), STOPITSA(, S OCHKOM, WITH SOROCHYA NOZHKA), STRELA( DVOECHELNAYA(, KLYUCHEVAYA),
 DVOECHELNOKRYZHEVAYA, DVOECHELNOPOVODNAYA(, KLYUCHEVAYA), GROMNAYA(, WITH SINGLE ZAPYATAYA),
 GROMOKRYZHEVAYA(, POVODNAYA), GROMOPOVODNAYA(, WITH( DOUBLE ZAPYATAYA, SINGLE ZAPYATAYA)),
 KLYUCHENEPOSTOYANNAYA, KLYUCHEPOVODNAYA, KRYUKOVAYA(, GROMNAYA(, WITH SINGLE ZAPYATAYA),
 GROMOKRYZHEVAYA(, POVODNAYA), GROMOPOVODNAYA(, WITH( DOUBLE ZAPYATAYA, SINGLE ZAPYATAYA)),
 POVODNAYA, TRYASKA), KRYZHEVAYA, MRACHNOTIKHAYA, NEPOSTOYANNAYA, POLUPOVODNAYA, POVODNAYA,
 PROSTAYA, TIKHAYA PUTNAYA, TRYASOGLASNAYA, TRYASOPOVODNAYA, TRYASOSTRELNAYA), VRAKHIYA(
 KLYUCHEVAYA( MRACHNAYA, PROSTAYA, SVETLAYA, TRESVETLAYA), MRACHNAYA, PROSTAYA, SVETLAYA,
 TRESVETLAYA), ZANOZHEK, ZAPYATAYA, ZMEYTSA), PRIZNAK MODIFIER( DIRECTION FLIP, KRYZH, LEVEL(-2,
-3), ROG)),ZOMBIE,ZWJ,ZWNBSP,ZWNJ,ZWSP"

end Montage.Text.Table
