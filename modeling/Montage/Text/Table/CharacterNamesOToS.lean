/-!
# Character names from O to S

The names of Unicode characters that start with the letters from O to S.
-/

namespace Montage.Text.Table

/-- Names of characters, where parentheses hold the ways to go on from one start and line
ends mean nothing. -/
def characterNamesOToR : String :=
"OBJECT REPLACEMENT CHARACTER,OBLIQUE( ANGLE OPENING( DOWN, UP), HYPHEN),OBSERVER EYE SYMBOL,OCR(
 AMOUNT OF CHECK, BELT BUCKLE, BOW TIE, BRANCH BANK IDENTIFICATION, CHAIR, CUSTOMER ACCOUNT
 NUMBER, DASH, DOUBLE BACKSLASH, FORK, HOOK, INVERTED FORK),OCTAGONAL SIGN,OCTOPUS,ODEN,OFFICE
 BUILDING,OGHAM( FEATHER MARK, LETTER( AILM, BEITH, CEIRT, COLL, DAIR, EABHADH, EADHADH,
 EAMHANCHOLL, FEARN, GORT, IFIN, IODHADH, LUIS, MUIN, NGEADAL, NION, ONN, OR, PEITH, RUIS, SAIL,
 STRAIF, TINNE, UATH, UILLEANN, UR), REVERSED FEATHER MARK, SPACE MARK),OGONEK,OHM SIGN,OIL DRUM,
OK HAND SIGN,OL CHIKI( AHAD, DIGIT( EIGHT, FIVE, FOUR, NINE, ONE, SEVEN, SIX, THREE, TWO, ZERO),
 GAAHLAA TTUDDAAG, LETTER( AAJ, AAK, AAM, AAW, AG, AL, ANG, AT, EDD, EN, EP, ERR, IH, INY, IR, IS,
 LA, LAA, LE, LI, LO, LU, OB, OH, OTT, OV, UC, UD, UNN, UY), MU( TTUDDAG,-GAAHLAA TTUDDAAG),
 PHAARKAA, PUNCTUATION( DOUBLE MUCAAD, MUCAAD), RELAA),OLD( CHINESE( HOOK MARK, ITERATION MARK),
 HUNGARIAN( CAPITAL LETTER( A, AA, AK, AMB, AND, CLOSE E, E, EB, EC, ECH, ECS, ED, EE, EF, EG,
 EGY, EH, EJ, EK, EL, ELY, EM, EMP, EN, ENC, ENT(,-SHAPED SIGN), ENY, EP, ER, ES, ESZ, ET, ETY,
 EV, EZ, EZS, I, II, NIKOLSBURG( OE, UE), O, OEE, OO, RUDIMENTA( OE, UE), SHORT ER, U, UNK, US,
 UU), NUMBER( FIFTY, FIVE, ONE(, HUNDRED, THOUSAND), TEN), SMALL LETTER( A, AA, AK, AMB, AND,
 CLOSE E, E, EB, EC, ECH, ECS, ED, EE, EF, EG, EGY, EH, EJ, EK, EL, ELY, EM, EMP, EN, ENC, ENT(,
-SHAPED SIGN), ENY, EP, ER, ES, ESZ, ET, ETY, EV, EZ, EZS, I, II, NIKOLSBURG( OE, UE), O, OEE, OO,
 RUDIMENTA( OE, UE), SHORT ER, U, UNK, US, UU)), ITALIC( LETTER( A, BE, CHE, DE, E, EF, EKS, EL,
 EM, EN, ER, ERS, ES, ESH, ESS, HE, I, II, KA, KE, KHE, KU, NORTHERN TSE, O, PE, PHE, SHE,
 SOUTHERN TSE, TE, THE, U, UU, VE, YE, ZE), NUMERAL( FIFTY, FIVE, ONE, TEN)), KEY, NORTH ARABIAN(
 LETTER( AIN, ALEF, BEH, DAD, DAL, ES(-1,-2,-3), FEH, GEEM, GHAIN, HAH, HEH, KAF, KHAH, LAM, MEEM,
 NOON, QAF, REH, SAD, TAH, TEH, THAL, THEH, WAW, YEH, ZAH, ZAIN), NUMBER( ONE, TEN, TWENTY)),
 PERMIC LETTER( AN, BUR, CHERY, DOI, DZHOI, DZITA, E, EF, GAI, HA, I, IA, IE, KOKE, LEI, MENOE,
 NENOE, O, OO, PEEI, REI, SHCHOOI, SHOOI, SII, TAI, TSIU, U, VER, VOOI, YA, YAT, YER, YERI, YERU,
 YRY, YU, ZATA, ZHOI), PERSIAN( NUMBER( HUNDRED, ONE, TEN, TWENTY, TWO), SIGN( A, AURAMAZDAA(,-2),
 AURAMAZDAAHA, BA, BAGA, BUUMISH, CA, DA, DAHYAAUSH(,-2), DI, DU, FA, GA, GU, HA, I, JA, JI, KA,
 KU, LA, MA, MI, MU, NA, NU, PA, RA, RU, SA, SHA, SSA, TA, THA, TU, U, VA, VI, XA, XSHAAYATHIYA,
 YA, ZA), WORD DIVIDER), PERSONAL COMPUTER, SOGDIAN( FRACTION ONE HALF, LETTER( ALEPH, ALTERNATE
 AYIN, AYIN, BETH, FINAL( ALEPH, BETH, HE, NUN(, WITH VERTICAL TAIL), SADHE(, WITH VERTICAL TAIL),
 TAW(, WITH VERTICAL TAIL)), GIMEL, HE, HETH, KAPH, LAMEDH, MEM, NUN, PE, RESH-AYIN-DALETH, SADHE,
 SAMEKH, SHIN, TAW, WAW, YODH, ZAYIN), LIGATURE AYIN-DALETH, NUMBER( FIVE, FOUR, ONE(, HUNDRED),
 TEN, THIRTY, THREE, TWENTY, TWO)), SOUTH ARABIAN( LETTER( ALEF, AYN, BETH, DALETH, DHADHE,
 DHALETH, FE, GHAYN, GIMEL, HE, HETH, KAPH, KHETH, LAMEDH, MEM, NUN, QOPH, RESH, SADHE, SAMEKH,
 SAT, SHIN, TAW, TETH, THAW, THETH, WAW, YODH, ZAYN), NUMBER( FIFTY, ONE), NUMERIC INDICATOR),
 TURKIC LETTER( ORKHON( A, AB, AD, AEB, AED, AEG, AEK, AEL, AEN, AER, AES, AET, AEY, AG, AL, AN,
 AQ, AR, AS, ASH, AT, AY, BASH, EC, ELT, EM, ENC, ENG, ENT, ENY, EP, ESH, EZ, I, IC, IQ, O, OE,
 OEK, OP, OQ, OT), YENISEI( A, AB, AD, AE, AEB, AEG, AEK, AEN, AENG, AET, AEY, AG, AL, ANG, AQ,
 AR, ASH, AT, AY, E, EC, ENC, ENT, ENY, ESH, EZ, I, IQ, OE, OEK, OQ)), UYGHUR( COMBINING( DOT(
 ABOVE, BELOW), TWO DOTS( ABOVE, BELOW)), LETTER( ALEPH, BETH, FINAL HETH, GIMEL-HETH, KAPH,
 LAMEDH, LESH, MEM, NUN, PE, RESH, SADHE, SAMEKH, SHIN, TAW, WAW, YODH, ZAYIN), PUNCTUATION( BAR,
 FOUR DOTS, TWO( BARS, DOTS)))),OLDER( ADULT, MAN, WOMAN),OLIVE,OM SYMBOL,ON WITH EXCLAMATION
 MARK WITH LEFT RIGHT ARROW ABOVE,ONCOMING( AUTOMOBILE, BUS, FIRE ENGINE, POLICE CAR, TAXI),ONE(
 BUTTON MOUSE, DOT( LEADER, OVER TWO DOTS PUNCTUATION),-PIECE SWIMSUIT),ONION,OPEN( BOOK, BOX,
 CENTRE( ASTERISK, BLACK STAR, CROSS, TEARDROP-SPOKED ASTERISK), FILE FOLDER, FOLDER, HANDS SIGN,
 LOCK, MAILBOX WITH( LOWERED FLAG, RAISED FLAG), SUBSET, SUPERSET,-CIRCUIT-OUTPUT( H-TYPE SYMBOL,
 L-TYPE SYMBOL),-OUTLINED RIGHTWARDS ARROW),OPERATING SYSTEM COMMAND,OPHIUCHUS,OPPOSITION,OPTICAL
 DISC(, ICON),OPTION KEY,OR WITH DOT INSIDE,ORANGE( BOOK, HEART),ORANGUTAN,ORIGIN(AL OF),ORIYA(
 AI LENGTH MARK, AU LENGTH MARK, DIGIT( EIGHT, FIVE, FOUR, NINE, ONE, SEVEN, SIX, THREE, TWO,
 ZERO), FRACTION( ONE( EIGHTH, HALF, QUARTER, SIXTEENTH), THREE( QUARTERS, SIXTEENTHS)), ISSHAR,
 LETTER( A, AA, AI, AU, BA, BHA, CA, CHA, DA, DDA, DDHA, DHA, E, GA, GHA, HA, I, II, JA, JHA, KA,
 KHA, LA, LLA, MA, NA, NGA, NNA, NYA, O, PA, PHA, RA, RHA, RRA, SA, SHA, SSA, TA, THA, TTA, TTHA,
 U, UU, VA, VOCALIC( L, LL, R, RR), WA, YA, YYA), SIGN( ANUSVARA, AVAGRAHA, CANDRABINDU, NUKTA,
 OVERLINE, VIRAMA, VISARGA), VOWEL SIGN( AA, AI, AU, E, I, II, O, U, UU, VOCALIC( L, LL, R, RR))),
ORNATE( LEFT PARENTHESIS, RIGHT PARENTHESIS),ORTHODOX CROSS,OSAGE( CAPITAL LETTER( A, AH, AI, AIN,
 BRA, CHA, DHA, E, EHCHA, EHKA, EHPA, EHTA, EHTSA, EIN, GHA, HA, HYA, I, KA, KHA, KYA, LA, MA, NA,
 O, OIN, PA, SA, SHA, TA, TSA, TSHA, U, WA, ZA, ZHA), SMALL LETTER( A, AH, AI, AIN, BRA, CHA, DHA,
 E, EHCHA, EHKA, EHPA, EHTA, EHTSA, EIN, GHA, HA, HYA, I, KA, KHA, KYA, LA, MA, NA, O, OIN, PA,
 SA, SHA, TA, TSA, TSHA, U, WA, ZA, ZHA)),OSC,OSMANYA( DIGIT( EIGHT, FIVE, FOUR, NINE, ONE, SEVEN,
 SIX, THREE, TWO, ZERO), LETTER( A, AA, ALEF, BA, CAYN, DEEL, DHA, E, EE, FA, GA, HA, I, JA, KAAF,
 KHA, LAAN, MIIN, NUUN, O, OO, QAAF, RA, SA, SHIIN, TA, U, WAW, XA, YA)),OTTER,OTTOMAN SIYAQ(
 ALTERNATE NUMBER( EIGHT, FIVE, FOUR(, HUNDRED), NINE, SEVEN, SIX(, HUNDRED), TEN(, THOUSAND),
 THREE, TWO(, THOUSAND)), FRACTION ONE( HALF, SIXTH), MARRATAN, NUMBER( EIGHT(, HUNDRED,
 THOUSAND), EIGHTY(, THOUSAND), FIFTY(, THOUSAND), FIVE(, HUNDRED, THOUSAND), FORTY(, THOUSAND),
 FOUR(, HUNDRED, THOUSAND), NINE(, HUNDRED, THOUSAND), NINETY(, THOUSAND), ONE(, HUNDRED,
 THOUSAND), SEVEN(, HUNDRED, THOUSAND), SEVENTY(, THOUSAND), SIX(, HUNDRED, THOUSAND), SIXTY(,
 THOUSAND), TEN(, THOUSAND), THIRTY(, THOUSAND), THREE(, HUNDRED, THOUSAND), TWENTY(, THOUSAND),
 TWO(, HUNDRED, THOUSAND))),OUNCE SIGN,OUTBOX TRAY,OUTLINED( BLACK STAR, GREEK CROSS, LATIN CROSS,
 WHITE STAR),OVERHEATED FACE,OVERLAP,OVERLAPPING( BLACK SQUARES, WHITE( AND BLACK SQUARES,
 SQUARES)),OVERLINE,OWL,OX,OYSTER,PACKAGE,PAD,PADDING CHARACTER,PAGE(, FACING UP, WITH( CIRCLED
 TEXT, CURL)),PAGER,PAGES,PAGODA,PAHAWH HMONG( CLAN SIGN( FAJ, HAM, HAWJ, KHAB, KOO, KWM, LAUJ,
 LIS, MUAS, PHAB, THOJ, TSAB, TSHEEJ, TSWB, VAJ, VWJ, XYOOJ, YAJ, YEEG), CONSONANT( AU, CAU, CHAU,
 HAU, HLAU, HNAU, LAU, MAU, NAU, NCHAU, NKAU, NLAU, NTHAU, NTSAU, PLHAU, QHAU, RAU, VAU, XAU,
 YAU), DIGIT( EIGHT, FIVE, FOUR, NINE, ONE, SEVEN, SIX, THREE, TWO, ZERO), MARK CIM( HOM, KES,
 KHAV, SO, SUAM, TAUM, TUB), NUMBER( HUNDRED MILLIONS, HUNDREDS, MILLIONS, TEN( BILLIONS,
 THOUSANDS), TENS, TRILLIONS), SIGN( AV, CIM( CHEEM, CUAM TSHOOJ, HAIS LUS NTOG NTOG, NRES TOS,
 PUB DAWB, TSOV ROG, TXWV(, CHWV)), HLI, HNUB, IB YAM, LOS, MEEJ( SUAB, TSEEB), MUS, NQIG, NTUJ,
 TAU, THIRD-STAGE HLI, TXHEEJ CEEV, VOS( FEEM, LUB, NRUA, SEEV, THIAB, THOM, TSHAB CEEB), XAUS,
 XIAB, XYEEM( FAIB, NTXIV, RHO, TOV), XYOO, ZWJ THAJ), VOWEL( KAAB, KAAV, KAB, KAIB, KAIV, KAUB,
 KAUV, KAV, KAWB, KAWV, KEB, KEEB, KEEV, KEV, KIAB, KIAV, KIB, KIV, KOB, KOOB, KOOV, KOV, KUAB,
 KUAV, KUB, KUV, KWB, KWV)),PALLAS,PALM( BRANCH, DOWN HAND, TREE, UP HAND),PALMS UP TOGETHER,
PALMYRENE( LEFT-POINTING FLEURON, LETTER( ALEPH, AYIN, BETH, DALETH, FINAL NUN, GIMEL, HE, HETH,
 KAPH, LAMEDH, MEM, NUN, PE, QOPH, RESH, SADHE, SAMEKH, SHIN, TAW, TETH, WAW, YODH, ZAYIN),
 NUMBER( FIVE, FOUR, ONE, TEN, THREE, TWENTY, TWO), RIGHT-POINTING FLEURON),PANCAKES,PANDA FACE,
PAPERCLIP,PARACHUTE,PARAGRAPH SEPARATOR,PARAGRAPHOS,PARAGRAPHUS MARK,PARALLEL( TO, WITH(
 HORIZONTAL STROKE, TILDE OPERATOR)),PARENTHESIZED( DIGIT( EIGHT, FIVE, FOUR, NINE, ONE, SEVEN,
 SIX, THREE, TWO), HANGUL( CHIEUCH(, A), CIEUC(, A, U), HIEUH(, A), IEUNG(, A), KHIEUKH(, A),
 KIYEOK(, A), MIEUM(, A), NIEUN(, A), PHIEUPH(, A), PIEUP(, A), RIEUL(, A), SIOS(, A), THIEUTH(,
 A), TIKEUT(, A)), IDEOGRAPH( ALLIANCE, CALL, CONGRATULATION, EARTH, EIGHT, ENTERPRISE, FESTIVAL,
 FINANCIAL, FIRE, FIVE, FOUR, HAVE, LABOR, METAL, MOON, NAME, NINE, ONE, REACH, REPRESENT,
 RESOURCE, REST, SELF, SEVEN, SIX, SOCIETY, SPECIAL, STOCK, STUDY, SUN, SUPERVISE, TEN, THREE,
 TWO, WATER, WOOD), KOREAN CHARACTER( O HU, OJEON), LATIN( CAPITAL LETTER( A, B, C, D, E, F, G, H,
 I, J, K, L, M, N, O, P, Q, R, S, T, U, V, W, X, Y, Z), SMALL LETTER( A, B, C, D, E, F, G, H, I,
 J, K, L, M, N, O, P, Q, R, S, T, U, V, W, X, Y, Z)), NUMBER( EIGHTEEN, ELEVEN, FIFTEEN, FOURTEEN,
 NINETEEN, SEVENTEEN, SIXTEEN, TEN, THIRTEEN, TWELVE, TWENTY)),PARROT,PART ALTERNATION MARK,
PARTIAL( DIFFERENTIAL, LINE( BACKWARD, DOWN, FORWARD, UP)),PARTIALLY-RECYCLED PAPER SYMBOL,
PARTNERSHIP SIGN,PARTY POPPER,PASSED SYMBOL,PASSENGER SHIP,PASSIVE-PULL(-DOWN-OUTPUT SYMBOL,
-UP-OUTPUT SYMBOL),PASSPORT CONTROL,PAU CIN HAU( GLOTTAL STOP(, FINAL, VARIANT), LETTER( A, BA,
 CA, CHA, DA, E, FA, FINAL( K, L, M, N, NG, P, T, W, Y), GA, HA, I, IA, KA, KHA, LA, MA, NA, NGA,
 O, PA, PHA, RA, SA, TA, THA, U, UA, VA, ZA), LOW-FALLING TONE(, FINAL, LONG(, FINAL)), MID-LEVEL
 TONE(, FINAL, LONG FINAL), RISING TONE(, FINAL, LONG(, FINAL)), SANDHI( GLOTTAL STOP(, FINAL),
 TONE(, FINAL, LONG(, FINAL)))),PAW PRINTS,PDF,PDI,PEACE SYMBOL,PEACH,PEACOCK,PEANUTS,PEAR,
PEDESTRIAN,PEN OVER STAMPED ENVELOPE,PENCIL,PENGUIN,PENSIVE FACE,PENTAGRAM,PEOPLE HUGGING,PER(
 MILLE SIGN, SIGN, TEN THOUSAND SIGN),PERCENT SIGN,PERFORMING ARTS,PERMANENT PAPER SIGN,
PERPENDICULAR(, WITH S),PERSEVERING FACE,PERSON( BOWING DEEPLY, CLIMBING, DOING CARTWHEEL,
 FROWNING, IN( LOTUS POSITION, STEAMY ROOM), RAISING BOTH HANDS IN CELEBRATION, WITH( BALL, BLOND
 HAIR, CROWN, FOLDED HANDS, HEADSCARF, POUTING FACE)),PERSONAL COMPUTER,PERSPECTIVE,PESETA SIGN,
PESO SIGN,PETRI DISH,PHAGS-PA( DOUBLE HEAD MARK, LETTER( A, ALTERNATE YA, ASPIRATED FA, BA, CA,
 CANDRABINDU, CHA, DA, DDA, DZA, E, EE, FA, GA, GGA, HA, I, JA, KA, KHA, LA, MA, NA, NGA, NNA,
 NYA, O, PA, PHA, QA, RA, SA, SHA, SMALL A, TA, THA, TSA, TSHA, TTA, TTHA, U, VOICED HA,
 VOICELESS SHA, WA, XA, YA, ZA, ZHA), MARK( DOUBLE SHAD, SHAD), SINGLE HEAD MARK, SUBJOINED
 LETTER( RA, WA, YA), SUPERFIXED LETTER RA),PHAISTOS DISC SIGN( ARROW, BEE, BEEHIVE, BOOMERANG,
 BOW, BULLS LEG, CAPTIVE, CARPENTRY PLANE, CAT, CHILD, CLUB, COLUMN, COMB, COMBINING OBLIQUE
 STROKE, DOLIUM, DOVE, EAGLE, FLUTE, GAUNTLET, GRATER, HELMET, HIDE, HORN, LID, LILY, MANACLES,
 MATTOCK, OX BACK, PAPYRUS, PEDESTRIAN, PLANE TREE, PLUMED HEAD, RAM, ROSETTE, SAW, SHIELD, SHIP,
 SLING, SMALL AXE, STRAINER, TATTOOED HEAD, TIARA, TUNNY, VINE, WAVY BAND, WOMAN),PHILIPPINE(
 DOUBLE PUNCTUATION, SINGLE PUNCTUATION),PHOENICIAN( LETTER( AIN, ALF, BET, DELT, GAML, HE, HET,
 KAF, LAMD, MEM, NUN, PE, QOF, ROSH, SADE, SEMK, SHIN, TAU, TET, WAU, YOD, ZAI), NUMBER( ONE(,
 HUNDRED), TEN, THREE, TWENTY, TWO), WORD SEPARATOR),PHOLUS,PICK,PICKUP TRUCK,PIE,PIG(, FACE,
 NOSE),PILCROW SIGN,PILE OF POO,PILL,PINATA,PINCHED FINGERS,PINCHING HAND,PINE DECORATION,
PINEAPPLE,PINWHEEL STAR,PISCES,PISTOL,PITCHFORK(, WITH TEE TOP),PLACARD,PLACE OF( INTEREST SIGN,
 WORSHIP),PLANCK CONSTANT(, OVER TWO PI),PLAYGROUND SLIDE,PLAYING CARD( ACE OF( CLUBS, DIAMONDS,
 HEARTS, SPADES), BACK, BLACK JOKER, EIGHT OF( CLUBS, DIAMONDS, HEARTS, SPADES), FIVE OF( CLUBS,
 DIAMONDS, HEARTS, SPADES), FOOL, FOUR OF( CLUBS, DIAMONDS, HEARTS, SPADES), JACK OF( CLUBS,
 DIAMONDS, HEARTS, SPADES), KING OF( CLUBS, DIAMONDS, HEARTS, SPADES), KNIGHT OF( CLUBS, DIAMONDS,
 HEARTS, SPADES), NINE OF( CLUBS, DIAMONDS, HEARTS, SPADES), QUEEN OF( CLUBS, DIAMONDS, HEARTS,
 SPADES), RED JOKER, SEVEN OF( CLUBS, DIAMONDS, HEARTS, SPADES), SIX OF( CLUBS, DIAMONDS, HEARTS,
 SPADES), TEN OF( CLUBS, DIAMONDS, HEARTS, SPADES), THREE OF( CLUBS, DIAMONDS, HEARTS, SPADES),
 TRUMP(-1,-10,-11,-12,-13,-14,-15,-16,-17,-18,-19,-2,-20,-21,-3,-4,-5,-6,-7,-8,-9), TWO OF( CLUBS,
 DIAMONDS, HEARTS, SPADES), WHITE JOKER),PLD,PLU,PLUNGER,PLUS( SIGN(, ABOVE EQUALS SIGN, IN( LEFT
 HALF CIRCLE, RIGHT HALF CIRCLE, TRIANGLE), WITH( BLACK TRIANGLE, CIRCUMFLEX ACCENT ABOVE, DOT
 BELOW, SMALL CIRCLE ABOVE, SUBSCRIPT TWO, TILDE( ABOVE, BELOW))),-MINUS SIGN),PLUTO(, FORM( FIVE,
 FOUR, THREE, TWO)),PM,POCKET CALCULATOR,POLICE( CAR, CARS REVOLVING LIGHT, OFFICER),POODLE,POP
 DIRECTIONAL( FORMATTING, ISOLATE),POPCORN,PORTABLE STEREO,POSEIDON,POSITION INDICATOR,POSTAL(
 HORN, MARK(, FACE)),POSTBOX,POT OF FOOD,POTABLE WATER SYMBOL,POTATO,POTTED PLANT,POUCH,POULTRY
 LEG,POUND SIGN,POURING LIQUID,POUTING( CAT FACE, FACE),POWER( ON( SYMBOL,-OFF SYMBOL), SLEEP
 SYMBOL, SYMBOL),PRAYER BEADS,PRECEDES(, ABOVE( ALMOST EQUAL TO, EQUALS SIGN, NOT( ALMOST EQUAL
 TO, EQUAL TO), SINGLE-LINE( EQUALS SIGN, NOT EQUAL TO)), BUT NOT EQUIVALENT TO, OR( EQUAL TO,
 EQUIVALENT TO), UNDER RELATION),PREGNANT( MAN, PERSON, WOMAN),PRESCRIPTION TAKE,PRESENTATION
 FORM FOR VERTICAL( COLON, COMMA, EM DASH, EN DASH, EXCLAMATION MARK, HORIZONTAL ELLIPSIS,
 IDEOGRAPHIC( COMMA, FULL STOP), LEFT( ANGLE BRACKET, BLACK LENTICULAR BRACKET, CORNER BRACKET,
 CURLY BRACKET, DOUBLE ANGLE BRACKET, PARENTHESIS, SQUARE BRACKET, TORTOISE SHELL BRACKET, WHITE(
 CORNER BRACKET, LENTICULAR BRACKET)), LOW LINE, QUESTION MARK, RIGHT( ANGLE BRACKET, BLACK
 LENTICULAR BRACKET, CORNER BRACKET, CURLY BRACKET, DOUBLE ANGLE BRACKET, PARENTHESIS, SQUARE
 BRACKET, TORTOISE SHELL BRACKET, WHITE( CORNER BRACKET, LENTICULAR( BRACKET, BRAKCET))),
 SEMICOLON, TWO DOT LEADER, WAVY LOW LINE),PRETZEL,PREVIOUS PAGE,PRIME,PRINCE,PRINCESS,PRINT
 SCREEN SYMBOL,PRINTER(, ICON),PRIVACY MESSAGE,PRIVATE USE( ONE, TWO,-1,-2),PROBING CANE,
PROHIBITED SIGN,PROJECTIVE,PROPERTY LINE,PROPORTION,PROPORTIONAL TO,PROSERPINA,PSALTER PAHLAVI(
 FOUR DOTS WITH( CROSS, DOT), LETTER( ALEPH, BETH, DALETH, GIMEL, HE, HETH, KAPH, LAMEDH,
 MEM-QOPH, NUN, PE, SADHE, SAMEKH, SHIN, TAW, WAW-AYIN-RESH, YODH, ZAYIN), NUMBER( FOUR, ONE(,
 HUNDRED), TEN, THREE, TWENTY, TWO), SECTION MARK, TURNED SECTION MARK),PU1,PU2,PUBLIC ADDRESS
 LOUDSPEAKER,PUNCTUATION SPACE,PUNCTUS ELEVATUS MARK,PURPLE HEART,PURSE,PUSHPIN,PUT LITTER IN ITS
 PLACE SYMBOL,QUADRANT( LOWER( LEFT, RIGHT), UPPER( LEFT(, AND( LOWER( LEFT AND LOWER RIGHT,
 RIGHT), UPPER RIGHT AND LOWER( LEFT, RIGHT))), RIGHT(, AND LOWER LEFT(, AND LOWER RIGHT)))),
QUADRUPLE( INTEGRAL OPERATOR, PRIME),QUARTER NOTE,QUATERNION INTEGRAL OPERATOR,QUESTION(
 EXCLAMATION MARK, MARK),QUESTIONED EQUAL TO,QUINCUNX,QUOTATION MARK,RABBIT(, FACE),RACCOON,
RACING( CAR, MOTORCYCLE),RADICAL SYMBOL BOTTOM,RADIO(, BUTTON),RADIOACTIVE SIGN,RAILWAY( CAR,
 TRACK),RAIN,RAINBOW,RAISED( BACK OF HAND, COMMA, DOT, DOTTED INTERPOLATION MARKER, FIST, HAND(,
 WITH( FINGERS SPLAYED, PART BETWEEN MIDDLE AND RING FINGERS)), INTERPOLATION MARKER, MC SIGN, MD
 SIGN, MR SIGN, SQUARE),RAM,RAT,RATIO,RAZOR,RECEIPT,RECORD SEPARATOR,RECREATIONAL VEHICLE,
RECYCLED PAPER SYMBOL,RECYCLING SYMBOL FOR( GENERIC MATERIALS, TYPE(-1 PLASTICS,-2 PLASTICS,-3
 PLASTICS,-4 PLASTICS,-5 PLASTICS,-6 PLASTICS,-7 PLASTICS)),RED( APPLE, GIFT ENVELOPE),REFERENCE
 MARK,REGIONAL INDICATOR SYMBOL LETTER( A, B, C, D, E, F, G, H, I, J, K, L, M, N, O, P, Q, R, S,
 T, U, V, W, X, Y, Z),REGISTERED SIGN,REJANG( CONSONANT SIGN( H, N, NG, R), LETTER( A, BA, CA, DA,
 GA, HA, JA, KA, LA, MA, MBA, NA, NDA, NGA, NGGA, NYA, NYJA, PA, RA, SA, TA, WA, YA), SECTION
 MARK, VIRAMA, VOWEL SIGN( AI, AU, E, EA, EU, I, O, U)),RELIEVED FACE,REMINDER RIBBON,REPLACEMENT
 CHARACTER,RESPONSE,RESTRICTED LEFT ENTRY(-1,-2),RESTROOM,RETURN( LEFT, RIGHT, SYMBOL),REVERSE(
 CHECKER BOARD, INDEX, LIGHT FOUR POINTED PINWHEEL STAR, LINE FEED, SOLIDUS(, OPERATOR, PRECEDING
 SUBSET, WITH HORIZONTAL STROKE), TILDE OPERATOR ABOVE( LEFTWARDS ARROW, RIGHTWARDS ARROW)),
REVERSED( ANGLE(, WITH UNDERBAR), COMMA, DOUBLE( PRIME(, QUOTATION MARK), STROKE NOT SIGN), EMPTY
 SET, FORKED PARAGRAPHOS, HAND WITH MIDDLE FINGER EXTENDED, NOT SIGN, PILCROW SIGN, PRIME,
 QUESTION MARK, RAISED HAND WITH FINGERS SPLAYED, RIGHT ANGLE, ROTATED FLORAL HEART BULLET,
 SANS-SERIF CAPITAL L, SEMICOLON, THUMBS( DOWN SIGN, UP SIGN), TILDE(, EQUALS), TRIPLE PRIME,
 VICTORY HAND),REVOLVING HEARTS,RHINOCEROS,RI,RIAL SIGN,RIBBON(, ARROW( DOWN( LEFT, RIGHT), LEFT(
 DOWN, UP), RIGHT( DOWN, UP), UP( LEFT, RIGHT))),RICE( BALL, CRACKER),RIFLE,RIGHT( AND( LOWER ONE
 EIGHTH BLOCK, UPPER ONE EIGHTH BLOCK), ANGER BUBBLE, ANGLE(, BRACKET(, WITH DOT), DOTTED
 SUBSTITUTION MARKER, SUBSTITUTION MARKER, VARIANT WITH SQUARE, WITH( ARC, DOWNWARDS ZIGZAG
 ARROW)), ARC GREATER-THAN BRACKET, ARROW WITH( CIRCLED PLUS, SMALL CIRCLE), BLACK( LENTICULAR
 BRACKET, TORTOISE SHELL BRACKET), CEILING, CORNER BRACKET, CURLY BRACKET(, LOWER HOOK, MIDDLE
 PIECE, UPPER HOOK), DOTTED SUBSTITUTION BRACKET, DOUBLE( ANGLE BRACKET, ARROW WITH ROUNDED HEAD,
 PARENTHESIS, QUOTATION MARK, WIGGLY FENCE), FISH TAIL, FIVE EIGHTHS BLOCK, FLOOR, HALF( BLACK(
 CIRCLE, STAR), BLOCK, FOLDER, MEDIUM SHADE, RUNNING MAN), HAND TELEPHONE RECEIVER, LOW
 PARAPHRASE BRACKET, NORMAL FACTOR SEMIDIRECT PRODUCT, ONE( EIGHTH BLOCK, QUARTER BLOCK), OPEN
 SQUARED DOT, OUTER JOIN, PARENTHESIS(, EXTENSION, LOWER HOOK, UPPER HOOK), RAISED OMISSION
 BRACKET, S-SHAPED BAG DELIMITER, SEMIDIRECT PRODUCT, SEVEN EIGHTHS BLOCK, SIDEWAYS U BRACKET,
 SINGLE QUOTATION MARK, SPEAKER(, WITH( ONE SOUND WAVE, THREE SOUND WAVES)), SPEECH BUBBLE,
 SQUARE BRACKET(, EXTENSION, LOWER CORNER, UPPER CORNER, WITH( DOUBLE STROKE, QUILL, STROKE, TICK
 IN( BOTTOM CORNER, TOP CORNER), UNDERBAR)), SUBSTITUTION BRACKET, TACK, THIRD WHITE RIGHT
 POINTING INDEX, THOUGHT BUBBLE, THREE( EIGHTHS BLOCK, QUARTERS BLOCK), TORTOISE SHELL BRACKET,
 TRANSPOSITION BRACKET, TRIANGLE(, ABOVE LEFT TRIANGLE), TRIANGULAR ONE QUARTER BLOCK, VERTICAL(
 BAR WITH QUILL, BOX LINE), WHITE( CORNER BRACKET, CURLY BRACKET, LENTICULAR BRACKET, PARENTHESIS,
 SQUARE BRACKET, TORTOISE SHELL BRACKET), WIGGLY FENCE,-FACING( ARMENIAN ETERNITY SIGN, FIST,
 SVASTI SIGN(, WITH DOTS)),-HANDED INTERLACED PENTAGRAM,-POINTING( ANGLE BRACKET, CURVED ANGLE
 BRACKET, DOUBLE ANGLE QUOTATION MARK, MAGNIFYING GLASS),-SHADED WHITE RIGHTWARDS ARROW,-SIDE ARC
 CLOCKWISE ARROW,-TO-LEFT( EMBEDDING, ISOLATE, MARK, OVERRIDE)),RIGHTHAND INTERIOR PRODUCT,
RIGHTWARDS( ARROW(, ABOVE( ALMOST EQUAL TO, REVERSE( ALMOST EQUAL TO, TILDE OPERATOR), SHORT
 LEFTWARDS ARROW, TILDE OPERATOR), AND UPPER AND LOWER ONE EIGHTH BLOCK, FROM BAR(, TO BLACK
 DIAMOND), OVER LEFTWARDS ARROW, THROUGH( GREATER-THAN, SUPERSET, X), TO( BAR, BLACK DIAMOND),
 WITH( CORNER DOWNWARDS, DOTTED STEM, DOUBLE VERTICAL STROKE, EQUILATERAL ARROWHEAD, HOOK, LARGE
 TRIANGLE ARROWHEAD, LOOP, MEDIUM TRIANGLE ARROWHEAD, NOTCHED TAIL, PLUS BELOW, SMALL(
 EQUILATERAL ARROWHEAD, TRIANGLE ARROWHEAD), STROKE, TAIL(, WITH( DOUBLE VERTICAL STROKE,
 VERTICAL STROKE)), TIP( DOWNWARDS, UPWARDS), VERTICAL STROKE),-TAIL), BACK-TILTED SHADOWED WHITE
 ARROW, BLACK( ARROW, CIRCLED WHITE ARROW), BOTTOM SHADED WHITE ARROW, COMPRESSED ARROW, DASHED
 ARROW, DOUBLE( ARROW(, FROM BAR, WITH( STROKE, VERTICAL STROKE),-TAIL), DASH ARROW), FINGER-POST
 ARROW, FRONT-TILTED SHADOWED WHITE ARROW, HAND, HARPOON( OVER LEFTWARDS HARPOON, WITH BARB( DOWN(
 ABOVE LEFTWARDS HARPOON WITH BARB DOWN, BELOW LONG DASH, FROM BAR, TO BAR), DOWNWARDS, UP( ABOVE(
 LEFTWARDS HARPOON WITH BARB UP, LONG DASH, RIGHTWARDS HARPOON WITH BARB DOWN), FROM BAR, TO BAR),
 UPWARDS)), HEAVY( ARROW, COMPRESSED ARROW), LEFT-SHADED WHITE ARROW, OPEN-HEADED ARROW, PAIRED
 ARROWS, QUADRUPLE ARROW, RIGHT-SHADED WHITE ARROW, ROCKET, SANS-SERIF ARROW, SQUARED ARROW,
 SQUIGGLE ARROW, TOP SHADED WHITE ARROW, TRIANGLE( ARROWHEAD,-HEADED( ARROW(, OVER LEFTWARDS
 TRIANGLE-HEADED ARROW, TO BAR, WITH( BOLD SHAFT, DOUBLE( HORIZONTAL STROKE, VERTICAL STROKE),
 HEAVY SHAFT, LONG TIP( DOWNWARDS, UPWARDS), MEDIUM SHAFT, NARROW SHAFT, VERY HEAVY SHAFT)),
 DASHED ARROW, PAIRED ARROWS)), TRIPLE( ARROW, DASH ARROW), TWO( HEADED ARROW,-HEADED( ARROW(
 FROM BAR, WITH( DOUBLE VERTICAL STROKE, TAIL(, WITH( DOUBLE VERTICAL STROKE, VERTICAL STROKE)),
 TRIANGLE ARROWHEADS, VERTICAL STROKE)), TRIPLE DASH ARROW)), WAVE ARROW, WHITE ARROW(, FROM WALL,
 WITHIN TRIANGLE ARROWHEAD)),RING(, ABOVE, BUOY, EQUAL TO, IN EQUAL TO, OPERATOR, POINT),RINGED
 PLANET,RINGING BELL,RISING DIAGONAL CROSSING( FALLING DIAGONAL, SOUTH EAST ARROW),RLE,RLI,RLM,
RLO,ROASTED SWEET POTATO,ROBOT FACE,ROCK,ROCKET,ROLL OF PAPER,ROLLED-UP NEWSPAPER,ROLLER( COASTER,
 SKATE),ROLLING ON THE FLOOR LAUGHING,ROMAN( AS SIGN, CENTURIAL SIGN, DENARIUS SIGN, DIMIDIA
 SEXTULA SIGN, DUPONDIUS SIGN, NUMERAL( EIGHT, ELEVEN, FIFTY(, EARLY FORM, THOUSAND), FIVE(,
 HUNDRED, THOUSAND), FOUR, NINE, ONE(, HUNDRED(, THOUSAND), THOUSAND(, C D)), REVERSED ONE
 HUNDRED, SEVEN, SIX(, LATE FORM), TEN(, THOUSAND), THREE, TWELVE, TWO), QUINARIUS SIGN, SEMUNCIA
 SIGN, SESTERTIUS SIGN, SEXTANS SIGN, SEXTULA SIGN, SILIQUA SIGN, UNCIA SIGN),ROOSTER,ROSE,
ROSETTE,ROTATED( CAPITAL Q, FLORAL HEART BULLET, HEAVY BLACK HEART BULLET, LIGHT FOUR POINTED
 BLACK CUSP, WHITE FOUR POINTED CUSP),ROUND( PUSHPIN, TARGET),ROUNDED SYMBOL FOR( CAI, FU, LU,
 SHOU, SHUANGXI, XI),ROWBOAT,RS,RUBLE SIGN,RUGBY FOOTBALL,RULE-DELAYED,RUMI( DIGIT( EIGHT, FIVE,
 FOUR, NINE, ONE, SEVEN, SIX, THREE, TWO), FRACTION( ONE( HALF, QUARTER, THIRD), TWO THIRDS),
 NUMBER( EIGHT HUNDRED, EIGHTY, FIFTY, FIVE HUNDRED, FORTY, FOUR HUNDRED, NINE HUNDRED, NINETY,
 ONE HUNDRED, SEVEN HUNDRED, SEVENTY, SIX HUNDRED, SIXTY, TEN, THIRTY, THREE HUNDRED, TWENTY, TWO
 HUNDRED)),RUNIC( ARLAUG SYMBOL, BELGTHOR SYMBOL, CROSS PUNCTUATION, LETTER( AC A, AESC, ALGIZ
 EOLHX, ANSUZ A, BERKANAN BEORC BJARKAN B, C, CALC, CEALC, CEN, CWEORTH, D, DAGAZ DAEG D, DOTTED(
-L,-N,-P), E, EAR, EHWAZ EH E, ENG, ETH, FEHU FEOH FE F, FRANKS CASKET( AC, AESC, EH, IS, OS), G,
 GAR, GEBO GYFU G, GER, HAEGL H, HAGLAZ H, ICELANDIC-YR, ING, INGWAZ, IOR, ISAZ IS ISS I, IWAZ
 EOH, JERAN J, K, KAUN K, KAUNA, LAUKAZ LAGU LOGR L, LONG-BRANCH(-AR AE,-HAGALL H,-MADR M,-OSS O,
-YR), MANNAZ MAN M, NAUDIZ NYD NAUD N, O, OE, ON, OO, OPEN-P, OS O, OTHALAN ETHEL O, PERTHO
 PEORTH P, Q, RAIDO RAD REID R, SH, SHORT-TWIG(-AR A,-BJARKAN B,-HAGALL H,-MADR M,-NAUD N,-OSS O,
-SOL S,-TYR T,-YR), SIGEL LONG-BRANCH-SOL S, SOWILO S, STAN, THURISAZ THURS THORN, TIWAZ TIR TYR
 T, URUZ UR U, V, W, WUNJO WYNN W, X, Y, YR, Z), MULTIPLE PUNCTUATION, SINGLE PUNCTUATION,
 TVIMADUR SYMBOL),RUNNER,RUNNING SHIRT WITH SASH,RUPEE SIGN,RUSSIAN ASTROLOGICAL SYMBOL( BINOVILE,
 NOVILE, QUINTILE, SENTAGON, TREDECILE, VIGINTILE)"

/-- Names of characters, where parentheses hold the ways to go on from one start and line
ends mean nothing. -/
def characterNamesS : String :=
"S IN TRIANGLE,SAFETY( PIN, VEST),SAGITTARIUS,SAILBOAT,SAKE BOTTLE AND CUP,SALT SHAKER,SALTIRE,
SALUTING FACE,SAMARITAN( ABBREVIATION MARK, LETTER( ALAF, BAA, BIT, DALAT, FI, GAMAN, IN, IT, IY,
 KAAF, LABAT, MIM, NUN, QUF, RISH, SHAN, SINGAAT, TAAF, TIT, TSAADIY, YUT, ZEN), MARK( DAGESH,
 EPENTHETIC YUT, IN(,-ALAF), NEQUDAA, OCCLUSION), MODIFIER LETTER( EPENTHETIC YUT, I, SHORT A),
 PUNCTUATION( AFSAAQ, ANGED, ANNAAU, ARKAANU, ATMAAU, BAU, MELODIC QITSA, NEQUDAA, QITSA,
 SHIYYAALAA, SOF MASHFAAT, TURU, ZAEF, ZIQAA), VOWEL SIGN( A, AA, E, I, LONG( A, AA, E, I, U), O,
 OVERLONG( A, AA), SHORT A, SUKUN, U)),SANDWICH,SANS-SERIF( HEAVY( DOUBLE( COMMA QUOTATION MARK
 ORNAMENT, TURNED COMMA QUOTATION MARK ORNAMENT), LOW DOUBLE COMMA QUOTATION MARK ORNAMENT),
 INTERROBANG ORNAMENT),SARI,SATELLITE(, ANTENNA),SATURN,SAURASHTRA( CONSONANT SIGN HAARU, DANDA,
 DIGIT( EIGHT, FIVE, FOUR, NINE, ONE, SEVEN, SIX, THREE, TWO, ZERO), DOUBLE DANDA, LETTER( A, AA,
 AI, AU, BA, BHA, CA, CHA, DA, DDA, DDHA, DHA, E, EE, GA, GHA, HA, I, II, JA, JHA, KA, KHA, LA,
 LLA, MA, NA, NGA, NNA, NYA, O, OO, PA, PHA, RA, SA, SHA, SSA, TA, THA, TTA, TTHA, U, UU, VA,
 VOCALIC( L, LL, R, RR), YA), SIGN( ANUSVARA, CANDRABINDU, VIRAMA, VISARGA), VOWEL SIGN( AA, AI,
 AU, E, EE, I, II, O, OO, U, UU, VOCALIC( L, LL, R, RR))),SAUROPOD,SAXOPHONE,SCALES,SCARF,SCHOOL(,
 SATCHEL),SCI,SCOOTER,SCORPION,SCORPIUS,SCREEN,SCREWDRIVER,SCRIPT( CAPITAL( B, E, F, H, I, L, M,
 P, R), LIGATURE ET ORNAMENT, SMALL( E, G, L, O)),SCROLL,SCRUPLE,SEAL,SEAT,SECOND PLACE MEDAL,
SECTION SIGN,SECTOR,SEDNA,SEE-NO-EVIL MONKEY,SEEDLING,SEGMENT,SEGMENTED DIGIT( EIGHT, FIVE, FOUR,
 NINE, ONE, SEVEN, SIX, THREE, TWO, ZERO),SELFIE,SEMICOLON,SEMIDIRECT PRODUCT WITH BOTTOM CLOSED,
SEMISEXTILE,SEPARATED SYMBOL,SERIOUS FACE WITH SYMBOLS COVERING MOUTH,SERVICE MARK,SESAME DOT,
SESQUIQUADRATE,SET( MINUS, TRANSMIT STATE),SEWING NEEDLE,SEXTILE,SGC,SHADOWED WHITE( CIRCLE,
 LATIN CROSS, STAR),SHALLOW PAN OF FOOD,SHAMROCK,SHARADA( ABBREVIATION SIGN, CONTINUATION SIGN,
 DANDA, DIGIT( EIGHT, FIVE, FOUR, NINE, ONE, SEVEN, SIX, THREE, TWO, ZERO), DOUBLE DANDA, EKAM,
 EXTRA SHORT VOWEL MARK, HEADSTROKE, LETTER( A, AA, AI, AU, BA, BHA, CA, CHA, DA, DDA, DDHA, DHA,
 E, GA, GHA, HA, I, II, JA, JHA, KA, KHA, LA, LLA, MA, NA, NGA, NNA, NYA, O, PA, PHA, RA, SA, SHA,
 SSA, TA, THA, TTA, TTHA, U, UU, VA, VOCALIC( L, LL, R, RR), YA), OM, SANDHI MARK, SECTION MARK(
-1,-2), SEPARATOR, SIGN( ANUSVARA, AVAGRAHA, CANDRABINDU, INVERTED CANDRABINDU, JIHVAMULIYA,
 NUKTA, SIDDHAM, UPADHMANIYA, VIRAMA, VISARGA), SUTRA MARK, VOWEL( MODIFIER MARK, SIGN( AA, AI,
 AU, E, I, II, O, PRISHTHAMATRA E, U, UU, VOCALIC( L, LL, R, RR)))),SHARK,SHAVED ICE,SHAVIAN
 LETTER( ADO, AGE, AH, AIR, ARE, ARRAY, ASH, AWE, BIB, CHURCH, DEAD, EAR, EAT, EGG, ERR, FEE, GAG,
 HA-HA, HUNG, IAN, ICE, IF, JUDGE, KICK, LOLL, MEASURE, MIME, NUN, OAK, OIL, ON, OOZE, OR, OUT,
 PEEP, ROAR, SO, SURE, THEY, THIGH, TOT, UP, VOW, WOE, WOOL, YEA, YEW, ZOO),SHEEP,SHIELD,SHIFT(
 IN, OUT),SHINTO SHRINE,SHIP,SHOCKED FACE WITH EXPLODING HEAD,SHOOTING STAR,SHOPPING( BAGS,
 TROLLEY),SHORT( BACKSLANTED SOUTH ARROW, BENT ARROW POINTING DOWNWARDS THEN NORTH EAST, DOWN
 TACK(, WITH OVERBAR), LEFT TACK, RIGHTWARDS ARROW ABOVE LEFTWARDS ARROW, SLANTED NORTH ARROW, UP
 TACK(, ABOVE SHORT DOWN TACK, WITH UNDERBAR)),SHORTCAKE,SHORTHAND FORMAT( CONTINUING OVERLAP,
 DOWN STEP, LETTER OVERLAP, UP STEP),SHORTS,SHOULDERED OPEN BOX,SHOWER,SHRIMP,SHRUG,SHUFFLE
 PRODUCT,SHY,SI,SIDDHAM( DANDA, DOUBLE DANDA, END OF TEXT MARK, LETTER( A, AA, AI, ALTERNATE U,
 AU, BA, BHA, CA, CHA, DA, DDA, DDHA, DHA, E, GA, GHA, HA, I, II, JA, JHA, KA, KHA, LA, MA, NA,
 NGA, NNA, NYA, O, PA, PHA, RA, SA, SHA, SSA, TA, THA, THREE-CIRCLE ALTERNATE I, TTA, TTHA,
 TWO-CIRCLE ALTERNATE( I, II), U, UU, VA, VOCALIC( L, LL, R, RR), YA), REPETITION MARK(-1,-2,-3),
 SECTION MARK( DOUBLE RING(, WITH RAYS), WITH( CIRCLES AND( FOUR ENCLOSURES, RAYS, TWO
 ENCLOSURES), DOUBLE CRESCENTS, QUADRUPLE CRESCENTS, RAYS AND DOTTED( CRESCENTS, DOUBLE CRESCENTS,
 TRIPLE CRESCENTS), SEPTUPLE CRESCENTS, TRIDENT AND( DOTTED CRESCENTS, U-SHAPED ORNAMENTS),
 TRIPLE CRESCENTS)), SEPARATOR( BAR, DOT), SIGN( ANUSVARA, CANDRABINDU, NUKTA, SIDDHAM, VIRAMA,
 VISARGA), VOWEL SIGN( AA, AI, ALTERNATE( U, UU), AU, E, I, II, O, U, UU, VOCALIC( R, RR))),
SIDEWAYS( BLACK( DOWN POINTING INDEX, LEFT POINTING INDEX, RIGHT POINTING INDEX, UP POINTING
 INDEX), WHITE( DOWN POINTING INDEX, LEFT POINTING INDEX, RIGHT POINTING INDEX, UP POINTING
 INDEX)),SIGN OF THE HORNS,SIGNWRITING( AIR( BLOW SMALL ROTATIONS, BLOWING OUT, SUCK SMALL
 ROTATIONS, SUCKING IN), BREATH( EXHALE, INHALE), BRUSH( BETWEEN, MULTIPLE, SINGLE), CHEEKS(
 NEUTRAL, PUFFED, SUCKED), COLON, COMMA, DREAMY EYEBROWS( DOWN NEUTRAL, NEUTRAL( DOWN, UP), UP
 NEUTRAL), DYNAMIC( ARROWHEAD( LARGE, SMALL), EVERY OTHER TIME, FAST, GRADUAL, RELAXED,
 SIMULTANEOUS(, ALTERNATING), SLOW, TENSE), EARS, EXCITEMENT, EYE( BLINK( MULTIPLE, SINGLE),
 WINK), EYEBROWS STRAIGHT( DOWN, NEUTRAL, UP), EYEGAZE(-FLOORPLANE( CURVED, STRAIGHT(,
 ALTERNATING, DOUBLE)),-WALLPLANE( CIRCLING, CURVED, STRAIGHT(, ALTERNATING, DOUBLE))), EYELASHES(
 DOWN, FLUTTERING, UP), EYES( CLOSED, HALF( CLOSED, OPEN), OPEN, SQUEEZED, WIDE OPEN, WIDENING
 MOVEMENT), FACE DIRECTION POSITION NOSE( FORWARD TILTING, UP OR DOWN(, TILTING)), FILL MODIFIER(
-2,-3,-4,-5,-6), FINGER, FLICK( LARGE( MULTIPLE, SINGLE), SEQUENTIAL, SMALL( MULTIPLE, SINGLE)),
 FLOORPLANE SHOULDER HIP MOVE, FOREHEAD( CONTACT, NEUTRAL, WRINKLED), FULL STOP, GRASP( BETWEEN,
 MULTIPLE, SINGLE), HAIR, HAND(-ANGLE(, INDEX(, MIDDLE( LITTLE, RING), RING LITTLE(, OUT), THUMB(,
 IN, OUT)), LITTLE( INDEX(, THUMB INDEX THUMB(, OUT)), UP), MIDDLE RING LITTLE(, IN, OUT), RING(
 DOWN MIDDLE THUMB INDEX CROSS, LITTLE)),-CIRCLE(, INDEX(, BENT, HINGE, MIDDLE(, CROSS LITTLE,
 CROSSED, LITTLE, RING, THUMB), RING LITTLE), LITTLE( INDEX, UP), MIDDLE( RING LITTLE(, BENT),
 UP), RING LITTLE),-CLAW(, FOUR FINGERS CONJOINED, INDEX THUMB CURVE THUMB INSIDE, MIDDLE RING
 LITTLE CONJOINED(, SIDE), NO THUMB, THUMB( FORWARD, SIDE)),-CUP(, FIVE FINGERS SPREAD(, OPEN),
 INDEX(, RING LITTLE, THUMB(, OPEN)), MIDDLE RING LITTLE, NO THUMB, OPEN(, NO THUMB, THUMB(
 FORWARD, SIDE)), THUMB( FORWARD, SIDE)),-CURLICUE(, INDEX RING LITTLE ON, MIDDLE RING LITTLE ON,
 OPEN),-FIST(, FOUR FINGERS CONJOINED BENT, HEEL, INDEX(, BENT(, OVER MIDDLE), CUPPED, HINGED(,
 LOW, MIDDLE UP(, THUMB SIDE)), MIDDLE(, BENT(, THUMB STRAIGHT), CONJOINED(, CUPPED(, THUMB
 FORWARD), HINGED(, THUMB SIDE), INDEX BENT, MIDDLE BENT, THUMB( FORWARD, SIDE(, BENT,
 CONJOINED))), CROSS LITTLE, CROSSED(, THUMB SIDE), HINGED(, SPREAD THUMB SIDE), LITTLE, RAISED
 KNUCKLES, RING(, BENT, CONJOINED), STRAIGHT THUMB BENT, THUMB(, ANGLED(, OUT), BENT, CIRCLED,
 CONJOINED HINGED, CUPPED, HINGED, HOOKED), UP SPREAD THUMB FORWARD), RAISED KNUCKLE, RING LITTLE,
 THUMB( ANGLED( IN MIDDLE UP, OUT MIDDLE UP), CIRCLE, CIRCLED MIDDLE UP, CUPPED MIDDLE UP,
 CURLICUE, CURVE THUMB( INSIDE, UNDER), FORWARD INDEX( BENT, STRAIGHT), HOOK, HOOKED MIDDLE(
 HINGED, UP), SIDE(, BOTH BENT, INDEX( BENT, HINGE), THUMB( BENT, CONJOINED, DIAGONAL))), UP
 MIDDLE HINGED(, THUMB( CONJOINED, SIDE))), LITTLE( BENT, DOWN(, OTHERS CIRCLED, RIPPLE( CURVED,
 STRAIGHT)), INDEX(, THUMB), RAISED KNUCKLE, THUMB, TOUCHES THUMB, UP), MIDDLE( BENT OVER INDEX,
 DOWN, LITTLE, RAISED KNUCKLE, RING LITTLE, THUMB( ANGLED( INDEX UP, OUT INDEX( CROSSED, UP)),
 CIRCLED INDEX( HINGED, UP), CUPPED INDEX UP, HOOKED INDEX UP, LITTLE), UP(, THUMB SIDE)), RING(
 DOWN, INDEX, LITTLE, MIDDLE(, CONJOINED, RAISED KNUCKLES), RAISED KNUCKLE, THUMB, UP), THUMB(,
 BETWEEN( INDEX MIDDLE(, STRAIGHT), MIDDLE RING, RING LITTLE), FORWARD, HEEL, OVER( FOUR RAISED
 KNUCKLES, TWO FINGERS), SIDE( BENT, CONJOINED, DIAGONAL), UNDER( FOUR FINGERS, INDEX BENT,
 LITTLE UP, THREE FINGERS, TWO FINGERS))),-FLAT(, BETWEEN PALM FACINGS, FIVE FINGERS SPREAD(,
 BENT, FOUR BENT, HINGED(, NO THUMB, THUMB SIDE), THUMB FORWARD), FOUR FINGERS(, BENT, CONJOINED(,
 SPLIT), HINGED), HEEL(, FIVE FINGERS SPREAD(, BENT, FOUR BENT), THUMB SIDE), SPLIT( CENTRE(,
 THUMB SIDE(, BENT)), INDEX THUMB SIDE, LITTLE), THUMB( BENT, FORWARD, SIDE)),-HINGE(, FIVE
 FINGERS SPREAD OPEN, FOUR FINGERS CONJOINED, INDEX(, HINGED, MIDDLE( LITTLE, RING(, CONJOINED)),
 RING LITTLE, THUMB(, LARGE, OPEN, SIDE, SMALL)), LITTLE(, INDEX(, THUMB), THUMB), MIDDLE(, RING
 LITTLE), NO THUMB, OPEN(, NO THUMB, THUMB( FORWARD, SIDE)), RING(, DOWN INDEX THUMB HOOK MIDDLE),
 SMALL, THUMB( BETWEEN MIDDLE RING, SIDE(, TOUCHING INDEX))),-HOOK(, CURLICUE, INDEX RING LITTLE(
 IN, OUT, UNDER), MIDDLE( RING LITTLE CONJOINED(, IN, OUT), THUMB), RING THUMB),-OVAL(, FIVE
 FINGERS SPREAD, INDEX, LITTLE UP, NO THUMB, RING LITTLE, THUMB( FORWARD, SIDE))), HEAD(,
 MOVEMENT( CIRCLE,-FLOORPLANE( CURVE, STRAIGHT),-WALLPLANE( CURVE, STRAIGHT, TILT)), RIM), LIMB(
 COMBINATION, LENGTH(-1,-2,-3,-4,-5,-6,-7)), LIP( LOWER OVER UPPER, UPPER OVER LOWER), LIPS
 PRESSED TOGETHER, LOCATION( DEPTH, HEAD NECK, HEIGHT, LIMBS DIGITS, TORSO, WIDTH,-FLOORPLANE
 SPACE,-WALLPLANE SPACE), MOUTH( CLOSED( CONTACT, FORWARD, NEUTRAL), CORNERS, FROWN(, OPEN,
 WRINKLED), KISS(, FORWARD, WRINKLED), OPEN( CIRCLE, FORWARD, OVAL(, WRINKLED, YAWN), RECTANGLE(,
 WRINKLED, YAWN), WRINKLED), SMILE(, OPEN, WRINKLED), TENSE(, FORWARD, SUCKED), WRINKLES( DOUBLE,
 SINGLE)), MOVEMENT(-DIAGONAL( AWAY( LARGE, LARGEST, MEDIUM, SMALL), BETWEEN( AWAY( LARGE,
 LARGEST, MEDIUM, SMALL), TOWARDS( LARGE, LARGEST, MEDIUM, SMALL)), TOWARDS( LARGE, LARGEST,
 MEDIUM, SMALL)),-FLOORPLANE( ARM CIRCLE HITTING WALL( LARGE( DOUBLE, SINGLE), MEDIUM( DOUBLE,
 SINGLE), SMALL( DOUBLE, SINGLE)), BEND, BOX( LARGE, MEDIUM, SMALL), CHECK, CORNER( LARGE, MEDIUM,
 SMALL), CROSS, CURVE( COMBINED, HITTING( CEILING( LARGE, SMALL), FLOOR( LARGE, SMALL)), LARGE,
 LARGEST, MEDIUM, SMALL), DOUBLE( ALTERNATING(, WRIST FLEX), STRAIGHT, WRIST FLEX), FINGER(
 CIRCLES HITTING WALL( DOUBLE, SINGLE), CONTACT), HUMP( HITTING( CEILING( LARGE( DOUBLE, TRIPLE),
 SMALL( DOUBLE, TRIPLE)), FLOOR( LARGE DOUBLE, SMALL DOUBLE, TRIPLE( LARGE TRIPLE, SMALL
 TRIPLE))), SMALL), JAW, LOOP( HITTING( CEILING( LARGE( DOUBLE, SINGLE), SMALL( DOUBLE, SINGLE)),
 FLOOR( LARGE( DOUBLE, SINGLE), SMALL( DOUBLE, SINGLE))), SMALL), PEAKS( LARGE, MEDIUM, SMALL),
 SHAKING PARALLEL, SINGLE( STRAIGHT( LARGE, LARGEST, MEDIUM, SMALL), WRIST FLEX), TRIPLE(
 ALTERNATING( MOVEMENT, WRIST FLEX), STRAIGHT MOVEMENT, WRIST FLEX), WAVE( HITTING( CEILING(
 LARGE, SMALL), FLOOR( LARGE, SMALL)), LARGE, SMALL, SNAKE), WRIST CIRCLE HITTING WALL( DOUBLE,
 SINGLE), ZIGZAG( LARGE, MEDIUM, SMALL)),-HINGE( DOWN SEQUENTIAL, SIDE TO SIDE SCISSORS, UP( DOWN(
 ALTERNATING( LARGE, SMALL), LARGE, SMALL), SEQUENTIAL)),-WALLPLANE( ARM CIRCLE( MEDIUM( DOUBLE,
 SINGLE), SMALL( DOUBLE, SINGLE)), BEND( LARGE, MEDIUM, SMALL), BOX( LARGE, MEDIUM, SMALL), CHECK(
 LARGE, MEDIUM, SMALL), CORNER( LARGE, MEDIUM, ROTATION, SMALL), CROSS, CURVE( HALF-CIRCLE( LARGE,
 LARGEST, MEDIUM, SMALL), HITTING( CHEST, FRONT WALL), QUARTER( LARGE, LARGEST, MEDIUM, SMALL),
 THEN STRAIGHT, THREE-QUARTER CIRCLE( MEDIUM, SMALL)), CURVED CROSS( MEDIUM, SMALL), DOUBLE(
 ALTERNATING(, WRIST FLEX), STRAIGHT, WRIST FLEX), FINGER( CIRCLES( DOUBLE, SINGLE), CONTACT),
 HUMP( HITTING( CHEST, FRONT WALL), LARGE, MEDIUM, SMALL), JAW, LOOP( HITTING( CHEST, FRONT WALL),
 LARGE, MEDIUM, SMALL(, DOUBLE)), PEAKS( LARGE, MEDIUM, SMALL), SHAKING, SINGLE( STRAIGHT( LARGE,
 LARGEST, MEDIUM, SMALL), WRIST FLEX), TRIPLE( ALTERNATING(, WRIST FLEX), STRAIGHT MOVEMENT,
 WRIST FLEX), WAVE( CURVE( DOUBLE( LARGE, MEDIUM, SMALL), TRIPLE( LARGE, MEDIUM, SMALL)),
 DIAGONAL PATH( LARGE, MEDIUM, SMALL), HITTING( CHEST, FRONT WALL)), WRIST CIRCLE FRONT( DOUBLE,
 SINGLE), ZIGZAG( LARGE, MEDIUM, SMALL))), NECK, NOSE( CONTACT, NEUTRAL, WIGGLES, WRINKLES),
 PARENTHESIS, ROTATION( MODIFIER(-10,-11,-12,-13,-14,-15,-16,-2,-3,-4,-5,-6,-7,-8,-9),-FLOORPLANE(
 ALTERNATING(, HITTING( CEILING, FLOOR)), DOUBLE(, HITTING( CEILING, FLOOR)), SINGLE(, HITTING(
 CEILING, FLOOR))),-WALLPLANE( ALTERNATE, ALTERNATING HITTING( CHEST, FRONT WALL), DOUBLE(,
 HITTING( CHEST, FRONT WALL)), SINGLE(, HITTING( CHEST, FRONT WALL)))), RUB( BETWEEN, MULTIPLE,
 SINGLE), SEMICOLON, SHOULDER( HIP( POSITIONS, SPINE), TILTING FROM WAIST), SQUEEZE( FLICK
 ALTERNATING, LARGE( MULTIPLE, SINGLE), SEQUENTIAL, SMALL( MULTIPLE, SINGLE)), STRIKE( BETWEEN,
 MULTIPLE, SINGLE), SURFACE( BETWEEN, SYMBOLS), TEETH(, BITE LIPS, MOVEMENT, ON( LIPS(, MOVEMENT),
 TONGUE(, MOVEMENT))), TENSE CHEEKS( HIGH, LOW, MIDDLE), TONGUE( CENTRE( INSIDE MOUTH, STICKING
 OUT), INSIDE MOUTH RELAXED, LICKING LIPS, MOVES AGAINST CHEEK, STICKING OUT FAR, TIP( BETWEEN
 LIPS, TOUCHING INSIDE MOUTH)), TORSO(-FLOORPLANE TWISTING,-WALLPLANE( CURVED BEND, STRAIGHT
 STRETCH)), TOUCH( BETWEEN, MULTIPLE, SINGLE), TRAVEL(-FLOORPLANE( ROTATION(-FLOORPLANE(
 ALTERNATING, DOUBLE, SINGLE),-WALLPLANE( ALTERNATING, DOUBLE, SINGLE)), SHAKING),-WALLPLANE( ARM
 SPIRAL( DOUBLE, SINGLE, TRIPLE), ROTATION(-FLOORPLANE( ALTERNATING, DOUBLE, SINGLE),-WALLPLANE(
 ALTERNATING, DOUBLE, SINGLE)), SHAKING)), UPPER BODY TILTING FROM HIP JOINTS, WALLPLANE SHOULDER
 HIP MOVE),SILHOUETTE OF JAPAN,SIMILAR( ABOVE( GREATER-THAN ABOVE EQUALS SIGN, LESS-THAN ABOVE
 EQUALS SIGN), MINUS SIMILAR, OR( GREATER-THAN, LESS-THAN)),SINE WAVE,SINGLE( CHARACTER
 INTRODUCER, GRAPHIC CHARACTER INTRODUCER, HIGH-REVERSED-9 QUOTATION MARK, LEFT-POINTING ANGLE
 QUOTATION MARK, LOW-9 QUOTATION MARK, RIGHT-POINTING ANGLE QUOTATION MARK, SHIFT( THREE, TWO),
-SHIFT(-2,-3)),SINHALA( ARCHAIC( DIGIT( EIGHT, FIVE, FOUR, NINE, ONE, SEVEN, SIX, THREE, TWO),
 NUMBER( EIGHTY, FIFTY, FORTY, NINETY, ONE( HUNDRED, THOUSAND), SEVENTY, SIXTY, TEN, THIRTY,
 TWENTY)), LETTER( AAYANNA, AEEYANNA, AEYANNA, AIYANNA, ALPAPRAANA( BAYANNA, CAYANNA, DAYANNA,
 DDAYANNA, GAYANNA, JAYANNA, KAYANNA, PAYANNA, TAYANNA, TTAYANNA), AMBA BAYANNA, AUYANNA, AYANNA,
 DANTAJA( LAYANNA, NAYANNA, SAYANNA), EEYANNA, EYANNA, FAYANNA, HAYANNA, IIYANNA, ILUUYANNA,
 ILUYANNA, IRUUYANNA, IRUYANNA, IYANNA, KANTAJA NAASIKYAYA, MAHAAPRAANA( BAYANNA, CAYANNA,
 DAYANNA, DDAYANNA, GAYANNA, JAYANNA, KAYANNA, PAYANNA, TAYANNA, TTAYANNA), MAYANNA, MUURDHAJA(
 LAYANNA, NAYANNA, SAYANNA), OOYANNA, OYANNA, RAYANNA, SANYAKA( DAYANNA, DDAYANNA, GAYANNA,
 JAYANNA), TAALUJA( NAASIKYAYA, SANYOOGA NAAKSIKYAYA, SAYANNA), UUYANNA, UYANNA, VAYANNA,
 YAYANNA), LITH DIGIT( EIGHT, FIVE, FOUR, NINE, ONE, SEVEN, SIX, THREE, TWO, ZERO), PUNCTUATION
 KUNDDALIYA, SIGN( AL-LAKUNA, ANUSVARAYA, CANDRABINDU, VISARGAYA), VOWEL SIGN( AELA-PILLA, DIGA(
 AEDA-PILLA, GAETTA-PILLA, GAYANUKITTA, IS-PILLA, KOMBUVA, PAA-PILLA), GAETTA-PILLA, GAYANUKITTA,
 KETTI( AEDA-PILLA, IS-PILLA, PAA-PILLA), KOMBU DEKA, KOMBUVA(, HAA( AELA-PILLA, DIGA AELA-PILLA,
 GAYANUKITTA)))),SIX( PETALLED BLACK AND WHITE FLORETTE, POINTED( BLACK STAR, PINWHEEL STAR, STAR
 WITH MIDDLE DOT),-PER-EM SPACE),SIXTEEN POINTED ASTERISK,SKATEBOARD,SKI AND SKI BOOT,SKIER,SKULL(
, AND CROSSBONES),SKUNK,SLANTED( EQUAL TO OR( GREATER-THAN(, WITH DOT INSIDE), LESS-THAN(, WITH
 DOT INSIDE)), NORTH ARROW WITH( HOOKED HEAD, HORIZONTAL TAIL)),SLAVONIC ASTERISK,SLED,SLEEPING(
 ACCOMMODATION, FACE, SYMBOL),SLEEPY FACE,SLEUTH OR SPY,SLICE OF PIZZA,SLIGHTLY( FROWNING FACE,
 SMILING FACE),SLOPE,SLOPING LARGE( AND, OR),SLOT MACHINE,SLOTH,SMALL( AIRPLANE, AMPERSAND,
 ASTERISK, BLUE DIAMOND, COLON, COMMA, COMMERCIAL AT, CONTAINS( AS MEMBER, WITH( OVERBAR,
 VERTICAL BAR AT END OF HORIZONTAL STROKE)), DOLLAR SIGN, ELEMENT OF(, WITH( OVERBAR, VERTICAL
 BAR AT END OF HORIZONTAL STROKE)), EM DASH, EQUALS SIGN, EXCLAMATION MARK, FULL STOP,
 GREATER-THAN SIGN, HYPHEN-MINUS, IDEOGRAPHIC COMMA, LEFT( CURLY BRACKET, PARENTHESIS, TORTOISE
 SHELL BRACKET), LESS-THAN SIGN, NUMBER SIGN, ORANGE DIAMOND, PERCENT SIGN, PLUS SIGN, QUESTION
 MARK, REVERSE SOLIDUS, RIGHT( CURLY BRACKET, PARENTHESIS, TORTOISE SHELL BRACKET), ROMAN NUMERAL(
 EIGHT, ELEVEN, FIFTY, FIVE(, HUNDRED), FOUR, NINE, ONE(, HUNDRED, THOUSAND), SEVEN, SIX, TEN,
 THREE, TWELVE, TWO), SEMICOLON, TILDE, TWO DOTS OVER ONE DOT PUNCTUATION, VEE WITH UNDERBAR),
SMALLER THAN(, OR EQUAL TO),SMASH PRODUCT,SMILE,SMILING( CAT FACE WITH( HEART-SHAPED EYES, OPEN
 MOUTH), FACE WITH( HALO, HEART-SHAPED EYES, HORNS, OPEN MOUTH(, AND( COLD SWEAT, SMILING EYES,
 TIGHTLY-CLOSED EYES)), SMILING EYES(, AND( HAND COVERING MOUTH, THREE HEARTS)), SUNGLASSES,
 TEAR)),SMIRKING FACE,SMOKING SYMBOL,SNAIL,SNAKE,SNEEZING FACE,SNOW CAPPED MOUNTAIN,SNOWBOARDER,
SNOWFLAKE,SNOWMAN(, WITHOUT SNOW),SO,SOCCER BALL,SOCKS,SOFT( HYPHEN, ICE CREAM, SHELL FLOPPY
 DISK),SOFTBALL,SOFTWARE-FUNCTION SYMBOL,SOGDIAN( COMBINING( CURVE( ABOVE, BELOW), DOT( ABOVE,
 BELOW), HOOK( ABOVE, BELOW), LONG HOOK BELOW, RESH BELOW, STROKE BELOW, TWO DOTS( ABOVE, BELOW)),
 INDEPENDENT SHIN, LETTER( ALEPH, AYIN, BETH, FETH, GIMEL, HE, HETH, KAPH, LAMEDH, LESH, MEM, NUN,
 PE, RESH-AYIN, SADHE, SAMEKH, SHIN, TAW, WAW, YODH, ZAYIN), NUMBER( ONE(, HUNDRED), TEN, TWENTY),
 PUNCTUATION( CIRCLE WITH DOT, HALF CIRCLE WITH DOT, TWO( CIRCLES WITH DOTS, VERTICAL BARS(, WITH
 DOTS)))),SOH,SOLID QUILT SQUARE ORNAMENT(, IN BLACK SQUARE),SOLIDUS(, WITH OVERBAR),SOM SIGN,
SOON WITH RIGHTWARDS ARROW ABOVE,SORA SOMPENG( DIGIT( EIGHT, FIVE, FOUR, NINE, ONE, SEVEN, SIX,
 THREE, TWO, ZERO), LETTER( AH, BAH, CAH, DAH, EEH, EH, GAH, HAH, IH, JAH, KAH, LAH, MAE, MAH,
 NAH, NGAH, NYAH, OH, PAH, RAH, SAH, TAH, UH, VAH, YAH)),SOS,SOUND RECORDING COPY(RIGHT),SOUTH(
 EAST( ARROW(, AND SOUTH WEST ARROW, CROSSING NORTH EAST ARROW, TO CORNER, WITH HOOK), BLACK
 ARROW, DOUBLE ARROW, POINTING( BUD, LEAF, VINE LEAF), SANS-SERIF ARROW, TRIANGLE-HEADED ARROW(,
 TO BAR), WHITE ARROW), WEST( ARROW(, AND NORTH WEST ARROW, WITH HOOK), BLACK ARROW, DOUBLE ARROW,
 POINTING( BUD, LEAF, VINE LEAF), SANS-SERIF ARROW, TRIANGLE-HEADED ARROW(, TO BAR), WHITE
 ARROW)),SOYOMBO( CLUSTER-INITIAL LETTER( LA, RA, SA, SHA), FINAL CONSONANT SIGN( -A, B, D, G, K,
 L, M, N, NG, R, S, SH), GEMINATION MARK, HEAD MARK WITH MOON AND SUN(, AND( FLAME, TRIPLE
 FLAME)), LETTER( -A, A, BA, BHA, CA, CHA, DA, DDA, DDHA, DHA, DZA, GA, GHA, HA, JA, JHA, KA, KHA,
 KSSA, LA, MA, NA, NGA, NNA, NYA, PA, PHA, RA, SA, SHA, SSA, TA, THA, TSA, TSHA, TTA, TTHA, VA,
 YA, ZA, ZHA), MARK( DOUBLE SHAD, PLUTA, SHAD, TSHEG), SIGN( ANUSVARA, JIHVAMULIYA, UPADHMANIYA,
 VISARGA), SUBJOINER, TERMINAL MARK(-1,-2), VOWEL( LENGTH MARK, SIGN( AI, AU, E, I, O, OE, U, UE,
 VOCALIC( L, R)))),SP,SPA,SPACE,SPAGHETTI,SPARKLE,SPARKLES,SPARKLING HEART,SPEAK-NO-EVIL MONKEY,
SPEAKER(, WITH( CANCELLATION STROKE, ONE SOUND WAVE, THREE SOUND WAVES)),SPEAKING HEAD IN
 SILHOUETTE,SPEECH BALLOON,SPEEDBOAT,SPESMILO SIGN,SPHERICAL ANGLE(, OPENING( LEFT, UP)),SPIDER(,
 WEB),SPIRAL( CALENDAR PAD, NOTE PAD, SHELL),SPLASHING SWEAT SYMBOL,SPONGE,SPOOL OF THREAD,SPOON,
SPORTS MEDAL,SPOUTING WHALE,SQUARE( A OVER M, AARU, AM, ANPEA, APAATO, ARUHUA, AU, BAARERU, BAR,
 BEETA, BIRU, BORUTO, BQ, BUSSYERU, C OVER KG, CAL, CAP, CC, CD, CM(, CUBED, SQUARED), CO,
 CORPORATION, CUP, DA, DAASU, DB, DESI, DJ, DL, DM(, CUBED, SQUARED), DORU, EEKAA, ERA NAME(
 HEISEI, MEIZI, REIWA, SYOUWA, TAISYOU), ERG, ESUKUUDO, EV, FM, FOOT, FOUR CORNERS, GAL, GANMA,
 GARON, GB, GHZ, GIGA, GINII, GIRUDAA, GPA, GURAMU, GURAMUTON, GY, HA, HAITU, HEKUTAARU, HERUTU,
 HG, HIRAGANA HOKA, HON, HOON, HOORU, HP, HPA, HUARADDO, HUIITO, HURAN, HZ, IMAGE OF(, OR( EQUAL
 TO, NOT EQUAL TO)), IN, ININGU, INTI, IU, K OHM, KA, KAIRI, KARATTO, KARORII, KB, KCAL, KEESU,
 KG, KHZ, KIRO, KIROGURAMU, KIROMEETORU, KIROWATTO, KK, KL, KM(, CAPITAL, CUBED, SQUARED), KOOPO,
 KORUNA, KPA, KT, KUROONE, KURUZEIRO, KV, KW, KYURII, LEFT OPEN BOX OPERATOR, LM, LN, LOG,
 LOZENGE, LX, M( CUBED, OHM, OVER( S, S SQUARED), SQUARED), MA, MAHHA, MAIKURO, MAIRU, MANSYON,
 MARUKU, MB(, SMALL), MEETORU, MEGA, MEGATON, MG, MHZ, MIKURON, MIL, MIRI, MIRIBAARU, ML, MM(,
 CUBED, SQUARED), MOL, MPA, MS, MU( A, F, G, L, M, S, V, W), MV(, MEGA), MW(, MEGA), NA, NANO, NF,
 NM, NOTTO, NS, NV, NW, ONSU, OOMU, ORIGIN(AL OF(, OR( EQUAL TO, NOT EQUAL TO))), OV, PA(, AMPS),
 PAASENTO, PAATU, PC, PEEZI, PENIHI, PENSU, PESO, PF, PH, PIASUTORU, PIKO, PIKURU, PM, POINTO,
 PONDO, POSITION INDICATOR, PPM, PR, PS, PV, PW, RAD(, OVER( S, S SQUARED)), REMU, RENTOGEN,
 RIGHT OPEN BOX OPERATOR, RIRA, RITTORU, ROOT, RUPII, RUUBURU, SAIKURU, SANTIIMU, SENTI, SENTO,
 SIRINGU, SR, SV, TARGET, THZ, TON, UON, V OVER M, WATTO, WB, WITH( BOTTOM HALF BLACK, CONTOURED
 OUTLINE, DIAGONAL CROSSHATCH FILL, HORIZONTAL FILL, LEFT HALF BLACK, LOWER( LEFT DIAGONAL HALF
 BLACK, RIGHT DIAGONAL HALF BLACK), ORTHOGONAL CROSSHATCH FILL, RIGHT HALF BLACK, TOP HALF BLACK,
 UPPER( LEFT( DIAGONAL HALF BLACK, TO LOWER RIGHT FILL), RIGHT( DIAGONAL HALF BLACK, TO LOWER
 LEFT FILL)), VERTICAL FILL), YAADO, YAARU, YUAN),SQUARED( ASTERISK, CJK UNIFIED IDEOGRAPH(-4E00,
-4E09,-4E2D,-4E8C,-4EA4,-518D,-521D,-524D,-5272,-53CC,-53F3,-5408,-5439,-55B6,-58F0,-591A,-5929,
-5B57,-5DE6,-5F8C,-624B,-6253,-6295,-6307,-6355,-6599,-65B0,-6620,-6708,-6709,-6E80,-6F14,-7121,
-751F,-7533,-7981,-7A7A,-7D42,-89E3,-8CA9,-8D70,-904A,-914D), CL, COOL, DOT OPERATOR, EIGHT K,
 FALLING DIAGONAL SLASH, FIVE POINT ONE, FOUR( DOT PUNCTUATION, K), FREE, HC, HDR, HI-RES, HV, ID,
 KATAKANA( DE, KOKO, SA), KEY, LATIN( CAPITAL LETTER( A, B, C, D, E, F, G, H, I, J, K, L, M, N, O,
 P, Q, R, S, T, U, V, W, X, Y, Z), SMALL LETTER D), LOGICAL( AND, OR), LOSSLESS, MINUS, MV, NEW,
 NG, OK, ONE HUNDRED TWENTY P, PLUS, PPV, RISING DIAGONAL SLASH, SALTIRE, SD, SECOND SCREEN,
 SEVEN POINT ONE, SHV, SIXTY P, SMALL CIRCLE, SOS, SQUARE, SS, THREE D, TIMES, TWENTY-TWO POINT
 TWO, TWO K, UHD, UP WITH EXCLAMATION MARK, VOD, VS, WC),SQUAT BLACK RIGHTWARDS ARROW,SQUID,SS2,
SS3,SSA,ST,STADIUM,STAFF OF( AESCULAPIUS, HERMES),STAMPED ENVELOPE,STANDING PERSON,STAR( AND
 CRESCENT, EQUALS, OF DAVID, OPERATOR, WITH( LEFT HALF BLACK, RIGHT HALF BLACK)),START OF(
 GUARDED AREA, HEADING, PROTECTED AREA, SELECTED AREA, STRING, TEXT),STATION,STATUE OF LIBERTY,
STEAM LOCOMOTIVE,STEAMING BOWL,STENOGRAPHIC FULL STOP,STETHOSCOPE,STICK FIGURE(, LEANING( LEFT,
 RIGHT), WITH( ARMS RAISED, DRESS)),STOCK CHART,STOPWATCH,STRAIGHT RULER,STRAIGHTNESS,STRAWBERRY,
STRESS OUTLINED WHITE STAR,STRICTLY EQUIVALENT TO,STRING TERMINATOR,STS,STUDIO MICROPHONE,STUFFED
 FLATBREAD,STUPA,STX,SUB,SUBSCRIPT( EIGHT, EQUALS SIGN, FIVE, FOUR, LEFT PARENTHESIS, MINUS, NINE,
 ONE, PLUS SIGN, RIGHT PARENTHESIS, SEVEN, SIX, THREE, TWO, ZERO),SUBSET( ABOVE( RIGHTWARDS ARROW,
 SUBSET, SUPERSET), OF(, ABOVE( ALMOST EQUAL TO, EQUALS SIGN, NOT EQUAL TO, TILDE OPERATOR), OR
 EQUAL TO(, WITH DOT ABOVE), WITH NOT EQUAL TO), WITH( DOT, MULTIPLICATION SIGN BELOW, PLUS SIGN
 BELOW)),SUBSTITUTE,SUCCEEDS(, ABOVE( ALMOST EQUAL TO, EQUALS SIGN, NOT( ALMOST EQUAL TO, EQUAL
 TO), SINGLE-LINE( EQUALS SIGN, NOT EQUAL TO)), BUT NOT EQUIVALENT TO, OR( EQUAL TO, EQUIVALENT
 TO), UNDER RELATION),SUMMATION( BOTTOM, TOP, WITH INTEGRAL),SUN(, BEHIND CLOUD, WITH FACE),
SUNDANESE( AVAGRAHA, CONSONANT SIGN( PAMINGKAL, PANYAKRA, PANYIKU, PASANGAN( MA, WA)), DIGIT(
 EIGHT, FIVE, FOUR, NINE, ONE, SEVEN, SIX, THREE, TWO, ZERO), LETTER( A, AE, BA, BHA, CA, DA, E,
 EU, FA, FINAL( K, M), GA, HA, I, JA, KA, KHA, LA, LEU, MA, NA, NGA, NYA, O, PA, QA, RA, REU, SA,
 SYA, TA, U, VA, WA, XA, YA, ZA), PUNCTUATION BINDU( BA SATANGA, CAKRA, DA SATANGA, KA SATANGA,
 LEU SATANGA, PANGLONG, PURNAMA, SURYA), SIGN( PAMAAEH, PANGLAYAR, PANGWISAD, PANYECEK, VIRAMA),
 VOWEL SIGN( PAMEPET, PANAELAENG, PANEULEUNG, PANGHULU, PANOLONG, PANYUKU)),SUNFLOWER,SUNRISE(,
 OVER MOUNTAINS),SUNSET OVER BUILDINGS,SUPERHERO,SUPERSCRIPT( EIGHT, EQUALS SIGN, FIVE, FOUR,
 LATIN SMALL LETTER( I, N), LEFT PARENTHESIS, MINUS, NINE, ONE, PLUS SIGN, RIGHT PARENTHESIS,
 SEVEN, SIX, THREE, TWO, ZERO),SUPERSET( ABOVE( LEFTWARDS ARROW, SUBSET, SUPERSET), BESIDE( AND
 JOINED BY DASH WITH SUBSET, SUBSET), OF(, ABOVE( ALMOST EQUAL TO, EQUALS SIGN, NOT EQUAL TO,
 TILDE OPERATOR), OR EQUAL TO(, WITH DOT ABOVE), WITH NOT EQUAL TO), PRECEDING SOLIDUS, WITH( DOT,
 MULTIPLICATION SIGN BELOW, PLUS SIGN BELOW)),SUPERVILLAIN,SURFACE INTEGRAL,SURFER,SUSHI,
SUSPENSION RAILWAY,SWAN,SWASH AMPERSAND ORNAMENT,SWIMMER,SWUNG DASH,SYLOTI NAGRI( LETTER( A, BHO,
 BO, CHO, CO, DDHO, DDO, DHO, DO, E, GHO, GO, HO, I, JHO, JO, KHO, KO, LO, MO, NO, O, PHO, PO, RO,
 RRO, SO, THO, TO, TTHO, TTO, U), POETRY MARK(-1,-2,-3,-4), SIGN( ALTERNATE HASANTA, ANUSVARA,
 DVISVARA, HASANTA), VOWEL SIGN( A, E, I, OO, U)),SYMBOL FOR( ACKNOWLEDGE, BACKSPACE, BELL,
 CANCEL, CARRIAGE RETURN, DATA LINK ESCAPE, DELETE(, FORM TWO), DEVICE CONTROL( FOUR, ONE, THREE,
 TWO), END OF( MEDIUM, TEXT, TRANSMISSION(, BLOCK)), ENQUIRY, ESCAPE, FILE SEPARATOR, FORM FEED,
 GROUP SEPARATOR, HORIZONTAL TABULATION, LINE FEED, MARKS CHAPTER, NEGATIVE ACKNOWLEDGE, NEWLINE,
 NULL, RECORD SEPARATOR, SAMARITAN SOURCE, SHIFT( IN, OUT), SPACE, START OF( HEADING, TEXT),
 SUBSTITUTE(, FORM TWO), SYNCHRONOUS IDLE, TYPE A ELECTRONICS, UNIT SEPARATOR, VERTICAL
 TABULATION),SYMMETRY,SYN,SYNAGOGUE,SYNCHRONOUS IDLE,SYRIAC( ABBREVIATION MARK, BARREKH, COLON
 SKEWED( LEFT, RIGHT), CONTRACTION, DOTTED ZLAMA( ANGULAR, HORIZONTAL), END OF PARAGRAPH, ESASA(
 ABOVE, BELOW), FEMININE DOT, HARKLEAN( ASTERISCUS, METOBELUS, OBELUS), HBASA( ABOVE, BELOW,
-ESASA DOTTED), HORIZONTAL COLON, LETTER( ALAPH, BETH, DALATH, DOTLESS DALATH RISH, E, FINAL
 SEMKATH, GAMAL(, GARSHUNI), HE, HETH, KAPH, LAMADH, MALAYALAM( BHA, JA, LLA, LLLA, NGA, NNA,
 NNNA, NYA, RA, SSA, TTA), MIM, NUN, PE, PERSIAN( BHETH, DHALATH, GHAMAL), QAPH, REVERSED PE,
 RISH, SADHE, SEMKATH, SHIN, SOGDIAN( FE, KHAPH, ZHAIN), SUPERSCRIPT ALAPH, TAW, TETH(, GARSHUNI),
 WAW, YUDH(, HE), ZAIN), MUSIC, OBLIQUE LINE( ABOVE, BELOW), PTHAHA( ABOVE, BELOW, DOTTED),
 QUSHSHAYA, RBASA( ABOVE, BELOW), RUKKAKHA, RWAHA, SUBLINEAR( COLON(, SKEWED( LEFT, RIGHT)), FULL
 STOP), SUPRALINEAR( COLON(, SKEWED LEFT), FULL STOP), THREE DOTS( ABOVE, BELOW), TWO VERTICAL
 DOTS( ABOVE, BELOW), ZQAPHA( ABOVE, BELOW, DOTTED)),SYRINGE"

end Montage.Text.Table
