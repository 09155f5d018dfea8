/-!
# Character names from M to R

The names that start with these letters, as alternatives of a tree. What names have in common is
written once, and in brackets behind it stands how they go on; nothing before the first bar means
that a name ends there.
-/
namespace MonkeyScan.CharacterName

/-- The tree of the names from M to R, in pieces. -/
def mToR : List String := [
  "M(A(CRON|G(E|IC WAND|NET)|H(AJANI (ABBREVIATION SIGN|L(ETTER (A|B(A|HA)|C(A|HA)|D(A|D(A|HA)|",
  "HA)|E|G(A|HA)|HA|I|J(A|HA)|K(A|HA)|LA|MA|N(A|NA|YA)|O|P(A|HA)|R(A|RA)|SA|T(A|HA|T(A|HA))|U|VA)",
  "|IGATURE SHRI)|S(ECTION MARK|IGN NUKTA))|JONG TILE (AUTUMN|BA(CK|MBOO)|CHRYSANTHEMUM|E(",
  "AST WIND|IGHT OF (BAMBOOS|C(HARACTERS|IRCLES)))|F(IVE OF (BAMBOOS|C(HARACTERS|IRCLES))|",
  "OUR OF (BAMBOOS|C(HARACTERS|IRCLES)))|GREEN DRAGON|JOKER|N(INE OF (BAMBOOS|C(HARACTERS|IRCLES)",
  ")|ORTH WIND)|O(NE OF (BAMBOOS|C(HARACTERS|IRCLES))|RCHID)|PLUM|RED DRAGON|S(EVEN OF (BAMBOOS|",
  "C(HARACTERS|IRCLES))|IX OF (BAMBOOS|C(HARACTERS|IRCLES))|OUTH WIND|PRING|UMMER)|T(HREE OF (",
  "BAMBOOS|C(HARACTERS|IRCLES))|WO OF (BAMBOOS|C(HARACTERS|IRCLES)))|W(EST WIND|HITE DRAGON|",
  "INTER)))|KASAR (ANGKA|END OF SECTION|LETTER (A|BA|CA|DA|GA|JA|KA|LA|MA|N(A|GA|YA)|PA|RA|SA|TA|",
  "VA|YA)|PASSIMBANG|VOWEL SIGN (E|I|O|U))|L(AYALAM (AU LENGTH MARK|D(ATE MARK|IGIT (EIGHT|F(IVE|",
  "OUR)|NINE|ONE|S(EVEN|IX)|T(HREE|WO)|ZERO))|FRACTION (ONE (EIGHTH|F(IFTH|ORTIETH)|HALF|",
  "ONE-HUNDRED-AND-SIXTIETH|QUARTER|SIXTEENTH|T(ENTH|WENTIETH))|THREE (EIGHTIETHS|QUARTERS|",
  "SIXTEENTHS|TWENTIETHS))|LETTER (A(|A|I|RCHAIC II|U)|B(A|HA)|C(A|H(A|ILLU (K|L(|L(|L))|M|N(|N)|",
  "RR|Y)))|D(A|D(A|HA)|HA|OT REPH)|E(|E)|G(A|HA)|HA|I(|I)|J(A|HA)|K(A|HA)|L(A|L(A|LA))|MA|N(A|GA|",
  "N(A|NA)|YA)|O(|O)|P(A|HA)|R(A|RA)|S(A|HA|SA)|T(A|HA|T(A|HA|TA))|U(|U)|V(A|EDIC ANUSVARA|",
  "OCALIC (L(|L)|R(|R)))|YA)|NUMBER (ONE (HUNDRED|THOUSAND)|TEN)|SIGN (A(NUSVARA|VAGRAHA)|C(",
  "ANDRABINDU|IRCULAR VIRAMA|OMBINING ANUSVARA ABOVE)|PARA|V(ERTICAL BAR VIRAMA|I(RAMA|SARGA)))|",
  "VOWEL SIGN (A(A|I|U)|E(|E)|I(|I)|O(|O)|U(|U)|VOCALIC (L(|L)|R(|R))))|E (AND FEMALE SIGN|SIGN|",
  "WITH STROKE (AND MALE AND FEMALE SIGN|SIGN))|TESE CROSS)|MMOTH|N(| (AND WOMAN HOLDING HANDS|",
  "DANCING|IN (BUSINESS SUIT LEVITATING|TUXEDO)|WITH (GUA PI MAO|TURBAN))|AT SIGN|DAIC (",
  "AFFRICATION MARK|GEMINATION MARK|LETTER (A(B|D|G|H|IN|K(|SA)|L|M|N|P|Q|R|S(|H|Z)|T(|T)|Z)|",
  "DUSHENNA|HALQA|I(N|T)|KAD|USHENNA)|PUNCTUATION|VOCALIZATION MARK)|GO|ICHAEAN (",
  "ABBREVIATION MARK (ABOVE|BELOW)|LETTER (A(AYIN|LEPH|YIN)|B(ETH|HETH)|D(ALETH|HAMEDH)|FE|G(",
  "HIMEL|IMEL)|HE(|TH)|J(AYIN|HAYIN)|K(APH|HAPH)|LAMEDH|MEM|NUN|PE|Q(HOPH|OPH)|RESH|S(A(DHE|MEKH)",
  "|HIN|SHIN)|T(AW|ETH|HAMEDH)|WAW|X(APH|OPH)|YODH|Z(AYIN|HAYIN))|NUMBER (FIVE|ONE(| HUNDRED)|T(",
  "EN|WENTY))|PUNCTUATION (DO(T(| WITHIN DOT)|UBLE DOT WITHIN DOT)|FLEURON|LINE FILLER|STAR|",
  "TWO DOTS)|SIGN UD)|S SHOE|TELPIECE CLOCK|UAL WHEELCHAIR)|P( SYMBOL FOR LIGHTHOUSE|LE LEAF)|R(",
  "CHEN (HEAD MARK|LETTER (-A|A|BA|C(A|HA)|D(A|ZA)|GA|HA|JA|K(A|HA)|LA|MA|N(A|GA|YA)|P(A|HA)|RA|",
  "S(A|HA)|T(A|HA|S(A|HA))|WA|YA|Z(A|HA))|MARK SHAD|S(IGN (ANUSVARA|CANDRABINDU)|",
  "UBJOINED LETTER (A|BA|C(A|HA)|D(A|ZA)|GA|HA|JA|K(A|HA)|LA|MA|N(A|GA|YA)|P(A|HA)|RA|S(A|HA)|T(",
  "A|HA|S(A|HA))|WA|YA|Z(A|HA)))|VOWEL SIGN (AA|E|I|O|U))|RIAGE SYMBOL|TIAL ARTS UNIFORM)|S(",
  "ARAM GONDI (DIGIT (EIGHT|F(IVE|OUR)|NINE|ONE|S(EVEN|IX)|T(HREE|WO)|ZERO)|LETTER (A(|A|I|U)|B(",
  "A|HA)|C(A|HA)|D(A|D(A|HA)|HA)|E|G(A|HA)|HA|I(|I)|J(A|HA|NYA)|K(A|HA|SSA)|L(A|LA)|MA|N(A|GA|NA|",
  "YA)|O|P(A|HA)|RA|S(A|HA|SA)|T(A|HA|RA|T(A|HA))|U(|U)|VA|YA)|R(A-KARA|EPHA)|SIGN (ANUSVARA|",
  "CANDRA|HALANTA|NUKTA|VISARGA)|V(IRAMA|OWEL SIGN (A(A|I|U)|E|I(|I)|O|U(|U)|VOCALIC R)))|",
  "CULINE ORDINAL INDICATOR|K WORK SYMBOL|U MARK)|T(E DRINK|HEMATICAL (BOLD (CAPITAL (A(|LPHA)|B(",
  "|ETA)|C(|HI)|D(|ELTA|IGAMMA)|E(|PSILON|TA)|F|G(|AMMA)|H|I(|OTA)|J|K(|APPA)|L(|AMDA)|M(|U)|N(|",
  "U)|O(|M(EGA|ICRON))|P(|HI|I|SI)|Q|R(|HO)|S(|IGMA)|T(|AU|HETA(| SYMBOL))|U(|PSILON)|V|W|X(|I)|",
  "Y|Z(|ETA))|DIGIT (EIGHT|F(IVE|OUR)|NINE|ONE|S(EVEN|IX)|T(HREE|WO)|ZERO)|EPSILON SYMBOL|",
  "FRAKTUR (CAPITAL (A|B|C|D|E|F|G|H|I|J|K|L|M|N|O|P|Q|R|S|T|U|V|W|X|Y|Z)|SMALL (A|B|C|D|E|F|G|H|",
  "I|J|K|L|M|N|O|P|Q|R|S|T|U|V|W|X|Y|Z))|ITALIC (CAPITAL (A(|LPHA)|B(|ETA)|C(|HI)|D(|ELTA)|E(|",
  "PSILON|TA)|F|G(|AMMA)|H|I(|OTA)|J|K(|APPA)|L(|AMDA)|M(|U)|N(|U)|O(|M(EGA|ICRON))|P(|HI|I|SI)|",
  "Q|R(|HO)|S(|IGMA)|T(|AU|HETA(| SYMBOL))|U(|PSILON)|V|W|X(|I)|Y|Z(|ETA))|EPSILON SYMBOL|",
  "KAPPA SYMBOL|NABLA|P(ARTIAL DIFFERENTIAL|HI SYMBOL|I SYMBOL)|RHO SYMBOL|SMALL (A(|LPHA)|B(|",
  "ETA)|C(|HI)|D(|ELTA)|E(|PSILON|TA)|F(|INAL SIGMA)|G(|AMMA)|H|I(|OTA)|J|K(|APPA)|L(|AMDA)|M(|U)",
  "|N(|U)|O(|M(EGA|ICRON))|P(|HI|I|SI)|Q|R(|HO)|S(|IGMA)|T(|AU|HETA)|U(|PSILON)|V|W|X(|I)|Y|Z(|",
  "ETA))|THETA SYMBOL)|KAPPA SYMBOL|NABLA|P(ARTIAL DIFFERENTIAL|HI SYMBOL|I SYMBOL)|RHO SYMBOL|S(",
  "CRIPT (CAPITAL (A|B|C|D|E|F|G|H|I|J|K|L|M|N|O|P|Q|R|S|T|U|V|W|X|Y|Z)|SMALL (A|B|C|D|E|F|G|H|I|",
  "J|K|L|M|N|O|P|Q|R|S|T|U|V|W|X|Y|Z))|MALL (A(|LPHA)|B(|ETA)|C(|HI)|D(|ELTA|IGAMMA)|E(|PSILON|",
  "TA)|F(|INAL SIGMA)|G(|AMMA)|H|I(|OTA)|J|K(|APPA)|L(|AMDA)|M(|U)|N(|U)|O(|M(EGA|ICRON))|P(|HI|",
  "I|SI)|Q|R(|HO)|S(|IGMA)|T(|AU|HETA)|U(|PSILON)|V|W|X(|I)|Y|Z(|ETA)))|THETA SYMBOL)|",
  "DOUBLE-STRUCK (CAPITAL (A|B|D|E|F|G|I|J|K|L|M|O|S|T|U|V|W|X|Y)|DIGIT (EIGHT|F(IVE|OUR)|NINE|",
  "ONE|S(EVEN|IX)|T(HREE|WO)|ZERO)|SMALL (A|B|C|D|E|F|G|H|I|J|K|L|M|N|O|P|Q|R|S|T|U|V|W|X|Y|Z))|",
  "F(ALLING DIAGONAL|RAKTUR (CAPITAL (A|B|D|E|F|G|J|K|L|M|N|O|P|Q|S|T|U|V|W|X|Y)|SMALL (A|B|C|D|",
  "E|F|G|H|I|J|K|L|M|N|O|P|Q|R|S|T|U|V|W|X|Y|Z)))|ITALIC (CAPITAL (A(|LPHA)|B(|ETA)|C(|HI)|D(|",
  "ELTA)|E(|PSILON|TA)|F|G(|AMMA)|H|I(|OTA)|J|K(|APPA)|L(|AMDA)|M(|U)|N(|U)|O(|M(EGA|ICRON))|P(|",
  "HI|I|SI)|Q|R(|HO)|S(|IGMA)|T(|AU|HETA(| SYMBOL))|U(|PSILON)|V|W|X(|I)|Y|Z(|ETA))|",
  "EPSILON SYMBOL|KAPPA SYMBOL|NABLA|P(ARTIAL DIFFERENTIAL|HI SYMBOL|I SYMBOL)|RHO SYMBOL|SMALL (",
  "A(|LPHA)|B(|ETA)|C(|HI)|D(|ELTA|OTLESS (I|J))|E(|PSILON|TA)|F(|INAL SIGMA)|G(|AMMA)|I(|OTA)|J|",
  "K(|APPA)|L(|AMDA)|M(|U)|N(|U)|O(|M(EGA|ICRON))|P(|HI|I|SI)|Q|R(|HO)|S(|IGMA)|T(|AU|HETA)|U(|",
  "PSILON)|V|W|X(|I)|Y|Z(|ETA))|THETA SYMBOL)|LEFT (ANGLE BRACKET|DOUBLE ANGLE BRACKET|",
  "FLATTENED PARENTHESIS|WHITE (SQUARE BRACKET|TORTOISE SHELL BRACKET))|MONOSPACE (CAPITAL (A|B|",
  "C|D|E|F|G|H|I|J|K|L|M|N|O|P|Q|R|S|T|U|V|W|X|Y|Z)|DIGIT (EIGHT|F(IVE|OUR)|NINE|ONE|S(EVEN|IX)|",
  "T(HREE|WO)|ZERO)|SMALL (A|B|C|D|E|F|G|H|I|J|K|L|M|N|O|P|Q|R|S|T|U|V|W|X|Y|Z))|RI(GHT (",
  "ANGLE BRACKET|DOUBLE ANGLE BRACKET|FLATTENED PARENTHESIS|WHITE (SQUARE BRACKET|",
  "TORTOISE SHELL BRACKET))|SING DIAGONAL)|S(ANS-SERIF (BOLD (CAPITAL (A(|LPHA)|B(|ETA)|C(|HI)|D(",
  "|ELTA)|E(|PSILON|TA)|F|G(|AMMA)|H|I(|OTA)|J|K(|APPA)|L(|AMDA)|M(|U)|N(|U)|O(|M(EGA|ICRON))|P(|",
  "HI|I|SI)|Q|R(|HO)|S(|IGMA)|T(|AU|HETA(| SYMBOL))|U(|PSILON)|V|W|X(|I)|Y|Z(|ETA))|DIGIT (EIGHT|",
  "F(IVE|OUR)|NINE|ONE|S(EVEN|IX)|T(HREE|WO)|ZERO)|EPSILON SYMBOL|ITALIC (CAPITAL (A(|LPHA)|B(|",
  "ETA)|C(|HI)|D(|ELTA)|E(|PSILON|TA)|F|G(|AMMA)|H|I(|OTA)|J|K(|APPA)|L(|AMDA)|M(|U)|N(|U)|O(|M(",
  "EGA|ICRON))|P(|HI|I|SI)|Q|R(|HO)|S(|IGMA)|T(|AU|HETA(| SYMBOL))|U(|PSILON)|V|W|X(|I)|Y|Z(|ETA)",
  ")|EPSILON SYMBOL|KAPPA SYMBOL|NABLA|P(ARTIAL DIFFERENTIAL|HI SYMBOL|I SYMBOL)|RHO SYMBOL|",
  "SMALL (A(|LPHA)|B(|ETA)|C(|HI)|D(|ELTA)|E(|PSILON|TA)|F(|INAL SIGMA)|G(|AMMA)|H|I(|OTA)|J|K(|",
  "APPA)|L(|AMDA)|M(|U)|N(|U)|O(|M(EGA|ICRON))|P(|HI|I|SI)|Q|R(|HO)|S(|IGMA)|T(|AU|HETA)|U(|",
  "PSILON)|V|W|X(|I)|Y|Z(|ETA))|THETA SYMBOL)|KAPPA SYMBOL|NABLA|P(ARTIAL DIFFERENTIAL|HI SYMBOL|",
  "I SYMBOL)|RHO SYMBOL|SMALL (A(|LPHA)|B(|ETA)|C(|HI)|D(|ELTA)|E(|PSILON|TA)|F(|INAL SIGMA)|G(|",
  "AMMA)|H|I(|OTA)|J|K(|APPA)|L(|AMDA)|M(|U)|N(|U)|O(|M(EGA|ICRON))|P(|HI|I|SI)|Q|R(|HO)|S(|IGMA)",
  "|T(|AU|HETA)|U(|PSILON)|V|W|X(|I)|Y|Z(|ETA))|THETA SYMBOL)|CAPITAL (A|B|C|D|E|F|G|H|I|J|K|L|M|",
  "N|O|P|Q|R|S|T|U|V|W|X|Y|Z)|DIGIT (EIGHT|F(IVE|OUR)|NINE|ONE|S(EVEN|IX)|T(HREE|WO)|ZERO)|",
  "ITALIC (CAPITAL (A|B|C|D|E|F|G|H|I|J|K|L|M|N|O|P|Q|R|S|T|U|V|W|X|Y|Z)|SMALL (A|B|C|D|E|F|G|H|",
  "I|J|K|L|M|N|O|P|Q|R|S|T|U|V|W|X|Y|Z))|SMALL (A|B|C|D|E|F|G|H|I|J|K|L|M|N|O|P|Q|R|S|T|U|V|W|X|",
  "Y|Z))|CRIPT (CAPITAL (A|C|D|G|J|K|N|O|P|Q|S|T|U|V|W|X|Y|Z)|SMALL (A|B|C|D|F|H|I|J|K|L|M|N|P|Q|",
  "R|S|T|U|V|W|X|Y|Z)))))|XIMIZE|YAN NUMERAL (E(IGHT(|EEN)|LEVEN)|F(I(FTEEN|VE)|OUR(|TEEN))|NINE(",
  "|TEEN)|ONE|S(EVEN(|TEEN)|IX(|TEEN))|T(EN|H(IRTEEN|REE)|W(ELVE|O))|ZERO))|E(A(SURED (ANGLE(| (",
  "OPENING LEFT|WITH OPEN ARM ENDING IN ARROW POINTING (DOWN AND (LEFT|RIGHT)|LEFT AND (DOWN|UP)|",
  "RIGHT AND (DOWN|UP)|UP AND (LEFT|RIGHT))))|BY|RIGHT ANGLE WITH DOT)|T ON BONE)|CHANICAL (ARM|",
  "LEG)|D(EFAIDRIN (C(APITAL LETTER (A(|I|TIU)|B|C|D|E|F|G|H(|P)|I|J|K(|P)|L|M|N(|G|Y)|O(|E)|P|Q|",
  "R|S|T|U|V|W|X|Y(|U)|Z)|OMMA)|DIGIT (EIGHT|F(IVE|OUR)|NINE|ONE(| ALTERNATE FORM)|S(EVEN|IX)|T(",
  "HREE(| ALTERNATE FORM)|WO(| ALTERNATE FORM))|ZERO)|EXCLAMATION OH|FULL STOP|NUMBER (E(IGHTEEN|",
  "LEVEN)|F(IFTEEN|OURTEEN)|NINETEEN|S(EVENTEEN|IXTEEN)|T(EN|HIRTEEN|WELVE))|S(MALL LETTER (A(|I|",
  "TIU)|B|C|D|E|F|G|H(|P)|I|J|K(|P)|L|M|N(|G|Y)|O(|E)|P|Q|R|S|T|U|V|W|X|Y(|U)|Z)|YMBOL AIVA))|I(",
  "EVAL (COMMA|EXCLAMATION MARK|QUESTION MARK)|UM (B(LACK CIRCLE|OLD WHITE CIRCLE)|EIGHT (",
  "POINTED BLACK STAR|SPOKED ASTERISK)|F(IVE SPOKED ASTERISK|LATTENED (LEFT PARENTHESIS ORNAMENT|",
  "RIGHT PARENTHESIS ORNAMENT)|OUR POINTED (BLACK STAR|PINWHEEL STAR))|GREEK CROSS|LEFT( (",
  "CURLY BRACKET ORNAMENT|PARENTHESIS ORNAMENT)|-POINTING ANGLE BRACKET ORNAMENT)|",
  "MATHEMATICAL SPACE|RIGHT( (CURLY BRACKET ORNAMENT|PARENTHESIS ORNAMENT)|",
  "-POINTING ANGLE BRACKET ORNAMENT)|S(ALTIRE|HADE|IX (POINTED BLACK STAR|SPOKED ASTERISK)|",
  "MALL WHITE CIRCLE)|THREE POINTED (BLACK STAR|PINWHEEL STAR)|VERTICAL BAR|WHITE (CIRCLE|SQUARE)",
  ")))|ETEI MAYEK (A(HANG KHUDAM|NJI|PUN IYEK)|CHEIKH(AN|EI)|DIGIT (EIGHT|F(IVE|OUR)|NINE|ONE|S(",
  "EVEN|IX)|T(HREE|WO)|ZERO)|L(ETTER (ATIYA|B(A|HAM)|CH(A|IL)|D(D(A|HA)|HOU|IL)|E|G(HOU|OK)|HUK|",
  "I(| LONSUM)|J(HAM|IL)|K(HOU|OK(| LONSUM))|LAI(| LONSUM)|MIT(| LONSUM)|N(A(| LONSUM)|GOU(|",
  " LONSUM)|NA|YA)|O|P(A(| LONSUM)|HAM)|RAI|S(AM|HA|SA)|T(HOU|IL(| LONSUM)|T(A|HA))|UN|WAI|YANG)|",
  "UM IYEK)|SYLLABLE REPETITION MARK|V(IRAMA|OWEL SIGN (A(A(I|U)|NAP|U)|CHEINAP|I(I|NAP)|NUNG|",
  "ONAP|SOUNAP|U(NAP|U)|VISARGA|YENAP))|WORD REPETITION MARK)|L(ON|TING FACE)|MO|N(DE KIKAKUI (",
  "COMBINING NUMBER (HUNDRED( THOUSANDS|S)|MILLIONS|T(E(ENS|N( THOUSANDS|S))|HOUSANDS))|DIGIT (",
  "EIGHT|F(IVE|OUR)|NINE|ONE|S(EVEN|IX)|T(HREE|WO))|SYLLABLE M(0(0(1 KI|2 KA|3 KU|4 WI|5 WA|6 WU|",
  "7 MIN|8 MAN|9 MUN)|1(0 BI|1 BA|2 BU|3 I|4 A|5 U|6 DI|7 DA|8 DU|9 SI)|2(0 SA|1 SU|2 TI|3 TA|",
  "4 TU|5 LI|6 LA|7 LU|8 JI|9 JA)|3(0 JU|1 YI|2 YA|3 YU|4 FI|5 FA|6 FU|7 NIN|8 NAN|9 NUN)|4(",
  "0 HEE|1 HA|2 HOO|3 NGGA|4 KPEE|5 WO|6 HUAN|7 MBEE|8 KO|9 WVA)|5(0 PU|1 PE|2 HEN|3 HIN|4 LOO|",
  "5 TE|6 GBA|7 NGON|8 NYAN|9 MEN)|6(0 NYON|1 WVI|2 MBA|3 JO|4 NDO|5 KEE|6 PO|7 NDOO|8 PI|9 TO)|",
  "7(0 GBO|1 GBOO|2 MBE|3 LE|4 KPU|5 FE|6 KOO|7 VO|8 FEE|9 SO)|8(0 YE|1 PEE|2 NGGU|3 HEEI|4 LEE|",
  "5 VE|6 LONG NGGE|7 HUN|8 FO|9 DEE)|9(0 NGGI|1 TEE|2 KPA|3 GBEE|4 MON|5 KE|6 HE|7 BE|8 NYEN|",
  "9 PA))|1(0(0 E|1 FAN|2 POO|3 BOO|4 TOO|5 LONG MBOO|6 LONG NGGOO|7 GBE|8 KPE|9 YEE)|1(",
  "0 LONG LE|1 GA|2 KPOO|3 JE|4 WOO|5 NGGEE|6 SE|7 NEN|8 WE|9 NDE)|2(0 NGGO|1 YO|2 MBU|3 NDI|",
  "4 GBI|5 NDU|6 WEE|7 NGGUA|8 HOOU|9 NDA)|3(0 HAN|1 IN|2 KPI|3 FOO|4 NJOO|5 IN|6 SOO|7 EI|8 BO|",
  "9 WVE)|4(0 HO|1 YOO|2 LONG MBO|3 WEI|4 VOO|5 MBI|6 NGGE|7 O|8 GBU|9 NJEE)|5(0 BEE|1 VU|2 NJA|",
  "3 LO|4 MUAN|5 GI|6 NGGOO|7 JEE|8 KPO|9 NGGAA)|6(0 JOO|1 LONG MBE|2 SEE|3 EE|4 NYIN|5 OO|",
  "6 GUEI|7 GUAN|8 GU|9 NON)|7(0 NYUN|1 RA|2 MBOO|3 VEE|4 MBO|5 LONG JO|6 HI|7 NGUAN|8 EN|9 KUA)|",
  "8(0 DOO|1 DO|2 VI|3 LONG NGGO|4 NGEN|5 VA|6 HU|7 MBUU|8 MBEE|9 MUEN)|9(0 GEE|1 NDEE|2 NJU|",
  "3 HON|4 WUI|5 AN|6 SIA|7 FUA))))|ORAH WITH NINE BRANCHES|S SYMBOL)|R(CURY|OITIC (CURSIVE (",
  "FRACTION (E(IGHT TWELFTHS|LEVEN TWELFTHS)|F(IVE TWELFTHS|OUR TWELFTHS)|NINE TWELFTHS|ONE (",
  "HALF|TWELFTH)|S(EVEN TWELFTHS|IX TWELFTHS)|T(EN TWELFTHS|HREE TWELFTHS|WO TWELFTHS))|L(ETTER (",
  "A(|RCHAIC SA)|BA|DA|E|HHA|I|K(A|HA)|LA|MA|N(A|E)|O|PA|QA|RA|S(A|E)|T(A|E|O)|WA|YA)|OGOGRAM (",
  "IMN|RMT))|NUMBER (EIGHT(| (HUNDRED(| THOUSAND)|THOUSAND)|Y THOUSAND)|F(I(FTY(| THOUSAND)|VE(|",
  " (HUNDRED(| THOUSAND)|THOUSAND)))|O(RTY(| THOUSAND)|UR(| (HUNDRED(| THOUSAND)|THOUSAND))))|",
  "NINE(| (HUNDRED(| THOUSAND)|THOUSAND)|TY THOUSAND)|ONE(| (HUNDRED(| THOUSAND)|THOUSAND))|S(",
  "EVEN(| (HUNDRED(| THOUSAND)|THOUSAND)|TY(| THOUSAND))|IX(| (HUNDRED(| THOUSAND)|THOUSAND)|TY(|",
  " THOUSAND)))|T(EN(| THOUSAND)|H(IRTY(| THOUSAND)|REE(| (HUNDRED(| THOUSAND)|THOUSAND)))|W(",
  "ENTY(| THOUSAND)|O(| (HUNDRED(| THOUSAND)|THOUSAND))))))|HIEROGLYPHIC (LETTER (A|BA(|-2)|DA|E|",
  "HHA|I|K(A|HA)|LA|MA|N(A(|-2)|E(|-2))|O|PA|QA|RA(|-2)|S(A(|-2)|E)|T(A(|-2)|E(|-2)|O)|WA|YA)|",
  "SYMBOL VIDJ(|-2)))|PERSON)|SSAGE WAITING|TR(ICAL (BREVE|LONG OVER (SHORT|TWO SHORTS)|",
  "PENTASEME|SHORT OVER LONG|T(ETRASEME|RISEME|WO SHORTS (JOINED|OVER LONG)))|O))|I(AO (LETTER (",
  "A(H|RCHAIC (MA|N(A|GA)|ZZA))|B(A|RI)|D(A|DA|LH(A|YA)|Z(A|HA|YI|ZA))|FA|G(A|H(A|HA))|H(A|HA)|",
  "KA|L(A|H(A|YA)|YA)|M(A|HA)|N(A(|SALIZATION)|G(A|HA)|HA|N(A|HA)|Y(A|HA))|P(A|LA)|Q(A|GA)|R(",
  "EFORMED T(ONE-(1|2|4|5|6|8)|SHA)|TE)|S(A|HA|SA|YI)|T(A|E|LH(A|YA)|ONE-(2|3|4|5|6|7|8)|S(A|E|",
  "HA|SA)|TA)|V(A|FA)|WA|XA|YI (DZHA|KA|NNA|PA|T(A|S(A|HA)|TA))|Z(A|HA|S(A|HA)|Z(A|S(A|YA)|YA)))|",
  "SIGN (ASPIRATION|CONSONANT MODIFIER BAR|REFORMED (ASPIRATION|VOICING))|TONE (ABOVE|BELOW|",
  "RIGHT|TOP RIGHT)|VOWEL SIGN (A(|A|E(|E)|HH|I|N(|G)|U)|E(|A|I|N(|G)|R(|R))|I(|A(|N(|G))|E|G|I|",
  "NG|O(|NG)|U)|N(|G)|O(|E(R|Y)|G|O|U)|ROUNDED ER(|R)|U(|A(|N(|G))|EI|I|NG|OG|U)|VW|W(|O)|Y(|I|",
  "UI)))|CR( (DASH SYMBOL|ON US SYMBOL)|O( SIGN|BE|PHONE|SCOPE))|D(DLE (DOT|",
  "THIRD WHITE RIGHT POINTING INDEX)|LINE HORIZONTAL ELLIPSIS)|L(ITARY (HELMET|MEDAL)|KY WAY|",
  "L SIGN)|N(I(BUS|DISC|MIZE)|US( (SIGN(| (IN TRIANGLE|WITH (COMMA ABOVE|DOT BELOW|FALLING DOTS|",
  "RISING DOTS)))|TILDE)|-OR-PLUS SIGN)|Y)|RROR(| BALL))|MSP|O(BILE PHONE(| (OFF|",
  "WITH RIGHTWARDS ARROW AT LEFT))|D(E(LS|RN PENTATHLON)|I( (ABBREVIATION SIGN|D(ANDA|IGIT (",
  "EIGHT|F(IVE|OUR)|NINE|ONE|S(EVEN|IX)|T(HREE|WO)|ZERO)|OUBLE DANDA)|LETTER (A(|A|I|U)|B(A|HA)|",
  "C(A|HA)|D(A|D(A|HA)|HA)|E|G(A|HA)|HA|I(|I)|J(A|HA)|K(A|HA)|L(A|LA)|MA|N(A|GA|NA|YA)|O|P(A|HA)|",
  "RA|S(A|HA|SA)|T(A|HA|T(A|HA))|U(|U)|V(A|OCALIC (L(|L)|R(|R)))|YA)|SIGN (A(NUSVARA|RDHACANDRA)|",
  "HUVA|VI(RAMA|SARGA))|VOWEL SIGN (A(A|I|U)|E|I(|I)|O|U(|U)|VOCALIC (L(|L)|R(|R))))|FIER (",
  "BREVE WITH INVERTED BREVE|LETTER (A(CUTE ACCENT|LVEOLAR CLICK|POSTROPHE)|B(EGIN (HIGH TONE|",
  "LOW TONE)|ILABIAL CLICK)|C(APITAL (A(|E)|B(|ARRED B)|C|D|E|F|G|H(| WITH STROKE)|I|J|K|L|M|N|O(",
  "|U)|P|Q|R(|EVERSED (E|N))|T|U|V|W)|ENTRED (LEFT HALF RING|RIGHT HALF RING)|HINESE TONE Y(ANG (",
  "PING|QU|RU|SHANG)|IN (PING|QU|RU|SHANG))|IRCUMFLEX ACCENT|OLON|ROSS ACCENT|YRILLIC (EN|",
  "HARD SIGN|SOFT SIGN))|D(ENTAL CLICK|O(T (HORIZONTAL BAR|SLASH|VERTICAL BAR)|UBLE (APOSTROPHE|",
  "PRIME)|WN (ARROWHEAD|TACK)))|E(ND (HIGH TONE|LOW TONE)|XTRA-(HIGH (DOTTED (LEFT-STEM TONE BAR|",
  "TONE BAR)|LEFT-STEM TONE BAR|TONE BAR)|LOW (DOTTED (LEFT-STEM TONE BAR|TONE BAR)|",
  "LEFT-STEM TONE BAR|TONE BAR)))|G(EORGIAN NAR|LOTTAL STOP(| WITH STROKE)|RAVE ACCENT)|H(",
  "ALF TRIANGULAR COLON|IGH (DOTTED (LEFT-STEM TONE BAR|TONE BAR)|LEFT-STEM TONE BAR|TONE BAR))|",
  "L(ATERAL CLICK|EFT (ARROWHEAD|HALF RING|TACK)|OW( (ACUTE ACCENT|CIRCUMFLEX ACCENT|DO(TTED (",
  "LEFT-STEM TONE BAR|TONE BAR)|WN ARROWHEAD)|GRAVE ACCENT|INVERTED EXCLAMATION MARK|LEFT( ARROW(",
  "|HEAD)|-STEM TONE BAR)|MACRON|RI(GHT ARROWHEAD|NG)|T(ILDE|ONE BAR)|UP ARROWHEAD|VERTICAL LINE)",
  "|ER RIGHT CORNER ANGLE))|M(ACRON|I(D( (DOTTED (LEFT-STEM TONE BAR|TONE BAR)|",
  "LEFT-STEM TONE BAR|TONE BAR)|DLE (DOUBLE (ACUTE ACCENT|GRAVE ACCENT)|GRAVE ACCENT))|NUS SIGN))",
  "|OPEN SHELF|P(LUS SIGN|RIME)|R(AISED (COLON|DOWN ARROW|EXCLAMATION MARK|",
  "INVERTED EXCLAMATION MARK|UP ARROW)|E(TROFLEX CLICK WITH RETROFLEX HOOK|VERSED (COMMA|",
  "GLOTTAL STOP(| WITH STROKE)))|HOTIC HOOK|IGHT (ARROWHEAD|HALF RING|TACK))|S(H(ELF|",
  "ORT EQUALS SIGN)|MALL (A(|E|IN|LPHA)|B(| WITH HOOK|ARRED O|ETA|OTTOM HALF O)|C(| WITH CURL|",
  "APITAL (AA|B|G(| WITH HOOK)|H|I(| WITH STROKE|NVERTED R)|L(| WITH BELT)|N|OE|R|U|Y)|HI|LOSED (",
  "OMEGA|REVERSED OPEN E))|D(| WITH (HOOK(| AND TAIL)|TAIL)|E(LTA|ZH DIGRAPH)|",
  "OTLESS J WITH STROKE(| AND HOOK)|Z DIGRAPH(| WITH (CURL|RETROFLEX HOOK)))|E(|NG|SH|TH|ZH)|F(|",
  "ENG DIGRAPH)|G(| WITH HOOK|AMMA|REEK (GAMMA|PHI))|H(| WITH (HOOK|STROKE)|ENG(| WITH HOOK))|I(",
  " WITH STROKE|OTA)|J(| WITH CROSSED-TAIL)|K|L(| WITH (BELT|INVERTED LAZY S|MIDDLE TILDE|",
  "PALATAL HOOK|RETROFLEX HOOK(| AND BELT))|EZH(| WITH RETROFLEX HOOK)|IGATURE OE|S DIGRAPH|",
  "Z DIGRAPH)|M(| WITH HOOK)|N WITH (LEFT HOOK|RETROFLEX HOOK)|O(| WITH STROKE|PEN (E|O))|P(|HI)|",
  "Q|R(| WITH (FISHHOOK|TAIL)|AMS HORN|EVERSED (E|GLOTTAL STOP|OPEN E))|S(| WITH (CURL|HOOK)|C(",
  "HWA|RIPT G)|IDEWAYS U)|T(| WITH (PALATAL HOOK|RETROFLEX HOOK)|C DIGRAPH WITH CURL|ESH DIGRAPH|",
  "HETA|OP HALF O|S DIGRAPH(| WITH RETROFLEX HOOK)|URNED (A(|E|LPHA)|H|I|M(| WITH LONG LEG)|",
  "OPEN E|R(| WITH (HOOK|LONG LEG(| AND RETROFLEX HOOK)))|V|W|Y(| WITH BELT)))|U(| (BAR|",
  "WITH LEFT HOOK)|PSILON)|V(| WITH (HOOK|RIGHT HOOK))|W|X|Y|Z(| WITH (CURL|RETROFLEX HOOK)))|",
  "TRESS AND (HIGH TONE|LOW TONE)|UPERSCRIPT (HALF TRIANGULAR COLON|TRIANGULAR COLON))|T(",
  "RIANGULAR COLON|URNED COMMA)|U(NASPIRATED|P (ARROWHEAD|TACK)|S)|V(ERTICAL LINE|OICING)|Y(",
  "ANG DEPARTING TONE MARK|IN DEPARTING TONE MARK))))|ULO TWO SUM)|N(EY( (BAG|WITH WINGS)|",
  "-MOUTH FACE)|GOLIAN (BIRGA(| WITH (DOUBLE ORNAMENT|ORNAMENT))|CO(LON|MMA)|D(IGIT (EIGHT|F(IVE|",
  "OUR)|NINE|ONE|S(EVEN|IX)|T(HREE|WO)|ZERO)|OUBLE BIRGA WITH ORNAMENT)|ELLIPSIS|F(OUR DOTS|",
  "REE VARIATION SELECTOR (FOUR|ONE|T(HREE|WO))|ULL STOP)|INVERTED BIRGA(| WITH DOUBLE ORNAMENT)|",
  "LETTER (A(|LI GALI (A(|H|NUSVARA ONE)|BALUDA|CA|D(A(|GALGA|MARU)|DA)|HALF (U|YA)|I(|",
  "NVERTED UBADAMA)|KA|N(GA|NA)|P(A|HA)|SSA|T(A|HREE BALUDA|T(A|HA))|UBADAMA|VISARGA ONE|Z(A|HA))",
  "|NG)|BA|CH(A(| WITH TWO DOTS)|I)|DA|E(|E)|FA|GA|HAA|I|JA|K(A|HA)|L(A|HA)|MA(|NCHU (ALI GALI (",
  "BHA|C(A|YA)|D(DHA|HA)|GHA|JHA|LHA|NGA|SSA|T(A|TA)|Z(A|HA))|FA|I|KA|RA|ZHA))|NA|O(|E)|PA|QA|RA|",
  "S(A|HA|IBE (ANG|CHA|DA|E|FA|GA(|A)|HA(|A)|I(|Y)|JA|KA|PA|RAA|SHA|T(A|SA)|U(|E)|Z(A|HA)))|T(A|",
  "ODO (A(LI GALI (TA|ZHA)|NG)|BA|CHA|D(A|ZA)|E|GA(|A)|HAA|I|J(A|IA)|KA|LONG VOWEL SIGN|MA|NIA|O(",
  "|E)|PA|QA|T(A|SA)|U(|E)|WA|YA)|SA)|U(|E)|WA|YA|Z(A|HI|RA))|MANCHU (COMMA|FULL STOP)|NIRUGU|",
  "ROTATED BIRGA(| WITH (DOUBLE ORNAMENT|ORNAMENT))|S(IBE SYLLABLE BOUNDARY MARKER|WIRL BIRGA(|",
  " WITH (DOUBLE ORNAMENT|ORNAMENT)))|T(ODO SOFT HYPHEN|RIPLE BIRGA WITH ORNAMENT|",
  "URNED SWIRL BIRGA WITH DOUBLE ORNAMENT)|VOWEL SEPARATOR)|KEY(| FACE)|O(GRAM FOR (EARTH|Y(ANG|",
  "IN))|RAIL|STABLE SYMBOL))|O(D BUBBLE|N (CAKE|VIEWING CEREMONY))|SQU(E|ITO)|T(HER CHRISTMAS|OR(",
  " (BOAT|SCOOTER)|IZED WHEELCHAIR|WAY))|U(NT( FUJI|AIN(| (BICYCLIST|CABLEWAY|RAILWAY)))|SE(| (",
  "FACE|TRAP))|TH)|VIE CAMERA|YAI)|RO (D(ANDA|IGIT (EIGHT|F(IVE|OUR)|NINE|ONE|S(EVEN|IX)|T(HREE|",
  "WO)|ZERO)|OUBLE DANDA)|LETTER (A|BA|CHU|DA(|I)|E(|A)|HA(I|O)|K(EAAE|HAI|O)|LA(|N)|M(AEM|IM)|N(",
  "GI|IN)|O(|L|O)|P(A|HI)|R(I|O)|SHI|T(A|EK|HEA)|WA|YO))|U(CH (GREATER-THAN|LESS-THAN)|LT(ANI (",
  "LETTER (A|B(A|HA)|C(A|HA)|D(A|D(A|DA|HA)|HA)|E|G(A|HA)|HA|I|J(A|JA)|K(A|HA)|LA|MA|N(A|NA|YA)|",
  "P(A|HA)|R(A|HA|RA)|SA|T(A|HA|T(A|HA))|U|VA|YA)|SECTION MARK)|I(MAP|PL(E MUSICAL NOTES|",
  "ICATION (SIGN(| (IN (DOUBLE CIRCLE|LEFT HALF CIRCLE|RIGHT HALF CIRCLE|TRIANGLE)|WITH (",
  "DOT ABOVE|UNDERBAR)))|X))|SET(| (MULTIPLICATION|UNION))))|S(HROOM|IC( (FLAT SIGN|NATURAL SIGN|",
  "SHARP SIGN)|AL (KEYBOARD(| WITH JACKS)|NOTE|S(CORE|YMBOL (ARPEGGIATO (DOWN|UP)|B(EGIN (BEAM|",
  "PHRASE|SLUR|TIE)|R(AC(E|KET)|E(ATH MARK|V(E|IS(| REST)))))|C( CLEF|AESURA|IRCLE X NOTEHEAD|L(",
  "I(MACUS|VIS)|USTER NOTEHEAD (BLACK|WHITE))|O(DA|M(BINING (A(CCENT(|-STACCATO)|UGMENTATION DOT)",
  "|BEND|DO(IT|UBLE TONGUE|WN BOW)|FL(AG-(1|2|3|4|5)|IP)|HARMONIC|LOURE|MARCATO(|-STACCATO)|RIP|",
  "S(MEAR|NAP PIZZICATO|PRECHGESANG STEM|T(ACCAT(ISSIMO|O)|EM))|T(ENUTO|R(EMOLO-(1|2|3)|",
  "IPLE TONGUE))|UP BOW)|MON TIME))|R(ESCENDO|OIX)|UT TIME)|D(A( CAPO|L SEGNO|MP(| ALL)|",
  "SHED BARLINE)|E(CRESCENDO|GREE SLASH)|OUBLE (BARLINE|FLAT|SHARP)|RUM CLEF-(1|2))|E(IGHTH (",
  "NOTE|REST)|ND (BEAM|OF STIMME|PHRASE|SLUR|TIE))|F( CLEF(| OTTAVA (ALTA|BASSA))|ERMATA(| BELOW)",
  "|I(N(AL BARLINE|GERED TREMOLO-(1|2|3))|VE-LINE STAFF)|LAT (DOWN|UP)|O(RTE|UR-(LINE STAFF|",
  "STRING FRETBOARD))|USA (BLACK|WHITE))|G( CLEF(| OTTAVA (ALTA|BASSA))|LISSANDO (DOWN|UP)|R(",
  "ACE NOTE (NO SLASH|SLASH)|EGORIAN (C CLEF|F CLEF)))|HA(LF (NOTE|PEDAL MARK|REST)|UPTSTIMME)|",
  "INVERTED TURN|K(IEVAN (C CLEF|E(IGHTH NOTE STEM (DOWN|UP)|ND OF PIECE)|F(INAL NOTE|LAT SIGN)|",
  "HALF NOTE|QUARTER NOTE STEM (DOWN|UP)|RECITATIVE MARK|WHOLE NOTE)|ORON)|L(EFT REPEAT SIGN|",
  "ONGA(| (IMPERFECTA REST|PERFECTA REST)))|M(AXIMA|EZZO|INIMA(| (BLACK|REST))|OON NOTEHEAD (",
  "BLACK|WHITE)|ULTI( REST|PLE MEASURE REST))|N(ATURAL (DOWN|UP)|EBENSTIMME|OTEHEAD BLACK|",
  "ULL NOTEHEAD)|O(NE( HUNDRED TWENTY-EIGHTH (NOTE|REST)|-LINE STAFF)|RNAMENT STROKE-(1(|0|1)|2|",
  "3|4|5|6|7|8|9)|TTAVA (ALTA|BASSA))|P(ARENTHESIS NOTEHEAD|E(DAL (MARK|UP MARK)|S SUBPUNCTIS)|",
  "IANO|LUS NOTEHEAD|O(DATUS|RRECTUS(| FLEXUS)))|QU(ARTER (NOTE|REST|TONE (FLAT|SHARP))|",
  "INDICESIMA (ALTA|BASSA))|R(E(PEAT( DOTS|ED FIGURE-(1|2|3))|VERSE FINAL BARLINE)|I(",
  "GHT REPEAT SIGN|NFORZANDO))|S(CANDICUS(| FLEXUS)|E(GNO|MI(BREVIS (BLACK|REST|WHITE)|MINIMA (",
  "BLACK|REST|WHITE)))|H(ARP (DOWN|UP)|ORT BARLINE)|I(NGLE BARLINE|X(-(LINE STAFF|",
  "STRING FRETBOARD)|T(EENTH (NOTE|REST)|Y-FOURTH (NOTE|REST))))|ORI|QUARE (B|NOTEHEAD (BLACK|",
  "WHITE))|UBITO)|T(EMPUS (IMPERFECTUM CUM PROLATIONE (IMPERFECTA(| DIMINUTION-(1|2|3))|PERFECTA)",
  "|PERFECTUM CUM PROLATIONE (IMPERFECTA|PERFECTA(| DIMINUTION-1)))|H(IRTY-SECOND (NOTE|REST)|",
  "REE-LINE STAFF)|ORCULUS(| RESUPINUS)|R(|IANGLE( NOTEHEAD (DOWN (BLACK|WHITE)|LEFT (BLACK|",
  "WHITE)|RIGHT (BLACK|WHITE)|UP (BLACK|RIGHT (BLACK|WHITE)|WHITE))|-ROUND NOTEHEAD DOWN (BLACK|",
  "WHITE)))|URN(| (SLASH|UP))|WO-LINE STAFF)|V(IRGA|OID NOTEHEAD)|W(HOLE (NOTE|REST)|",
  "ITH FINGERNAILS)|X NOTEHEAD|Z))))))|VS|W|YANMAR (CONSONANT SIGN (M(EDIAL (HA|RA|WA|YA)|",
  "ON MEDIAL (LA|MA|NA))|SHAN MEDIAL WA)|DIGIT (EIGHT|F(IVE|OUR)|NINE|ONE|S(EVEN|IX)|T(HREE|WO)|",
  "ZERO)|L(ETTER (A(|ITON RA|U)|B(A|HA)|C(A|HA)|D(A|D(A|HA)|HA)|E(|ASTERN PWO KAREN (GHWA|NNA|",
  "YWA))|G(A|HA|REAT SA)|HA|I(|I)|J(A|HA)|K(A|HA(|MTI (C(A|HA)|D(D(A|HA)|HA)|FA|GA|H(A|HA)|J(A|",
  "HA)|LLA|N(A|YA)|RA|SA|TT(A|HA)|XA|ZA)))|L(A|LA)|M(A|ON (BB(A|E)|E|JHA|NGA))|N(A|GA|N(A|YA)|YA)",
  "|O|P(A|HA)|R(A|UMAI PALAUNG FA)|S(A|GAW KAREN SHA|H(A(|N (A|B(A|HA)|C(A|HA)|DA|FA|G(A|HA)|HA|",
  "JHA|K(A|HA)|N(A|NA|YA)|PHA|THA|ZA))|WE PALAUNG (CHA|SHA))|SA)|T(A(|I LAING (B(A|HA)|D(A|D(A|",
  "HA)|HA)|FA|G(A|HA)|J(A|HA)|LLA|N(NA|YA)))|HA|T(A|HA))|U(|U)|VOCALIC (L(|L)|R(|R))|W(A|",
  "ESTERN PWO KAREN (PWA|THA))|YA)|OGOGRAM KHAMTI (HM|OAY|QN))|MODIFIER LETTER (",
  "KHAMTI REDUPLICATION|SHAN REDUPLICATION)|S(HAN DIGIT (EIGHT|F(IVE|OUR)|NINE|ONE|S(EVEN|IX)|T(",
  "HREE|WO)|ZERO)|IGN (A(NUSVARA|SAT)|DOT BELOW|KHAMTI TONE-(1|3)|LITTLE SECTION|PAO KAREN TONE|",
  "RUMAI PALAUNG TONE-5|S(ECTION|HAN (COUNCIL (EMPHATIC TONE|TONE-(2|3))|SAW|TONE-(2|3|5|6)))|",
  "TAI LAING TONE-(2|5)|VI(RAMA|SARGA)|WESTERN PWO KAREN TONE-(1|2|3|4|5))|YMBOL (A(",
  "FOREMENTIONED|ITON (EXCLAMATION|ONE|TWO))|COMPLETED|GENITIVE|LOCATIVE|SHAN (EXCLAMATION|ONE)))",
  "|T(AI LAING DIGIT (EIGHT|F(IVE|OUR)|NINE|ONE|S(EVEN|IX)|T(HREE|WO)|ZERO)|ONE MARK SGAW KAREN (",
  "HATHI|KE PHO))|VOWEL SIGN (A(A|I(|TON A(|I)))|E(| ABOVE)|GEBA KAREN I|I(|I)|KAYAH (EE|OE|U)|",
  "MON (II|O)|S(GAW KAREN EU|HAN (AA|E(| ABOVE)|FINAL Y))|TALL AA|U(|U)|VOCALIC (L(|L)|R(|R))|",
  "WESTERN PWO KAREN (EU|UE))))|N(-ARY (C(IRCLED (DOT OPERATOR|PLUS OPERATOR|TIMES OPERATOR)|",
  "OPRODUCT)|INTERSECTION|LOGICAL (AND|OR)|PRODUCT|S(QUARE (INTERSECTION OPERATOR|UNION OPERATOR)",
  "|UMMATION)|TIMES OPERATOR|UNION(| OPERATOR WITH (DOT|PLUS))|WHITE VERTICAL BAR)|A(B(ATAEAN (",
  "CRUCIFORM NUMBER FOUR|LETTER (A(LEPH|YIN)|BETH|DALETH|FINAL (ALEPH|BETH|HE|KAPH|LAMEDH|MEM|",
  "NUN|SHIN|YODH)|GIMEL|HE(|TH)|KAPH|LAMEDH|MEM|NUN|PE|QOPH|RESH|S(A(DHE|MEKH)|HIN)|T(AW|ETH)|",
  "WAW|YODH|ZAYIN)|NUMBER (F(IVE|OUR)|ONE(| HUNDRED)|T(EN|HREE|W(ENTY|O))))|LA)|I(L POLISH|",
  "RA SIGN)|K|ME BADGE|ND(|INAGARI (HEADSTROKE|LETTER (A(|A|I|U)|B(A|HA)|C(A|HA)|D(A|D(A|HA)|HA)|",
  "E|G(A|HA)|HA|I(|I)|J(A|HA)|K(A|HA)|L(A|LA)|MA|N(A|GA|NA|YA)|O|P(A|HA)|R(A|RA)|S(A|HA|SA)|T(A|",
  "HA|T(A|HA))|U(|U)|V(A|OCALIC R(|R))|YA)|SIGN (A(NUSVARA|VAGRAHA)|SIDDHAM|VI(RAMA|SARGA))|",
  "VOWEL SIGN (A(A|I|U)|E|I(|I)|O|PRISHTHAMATRA E|U(|U)|VOCALIC R(|R))))|RROW NO-BREAK SPACE|",
  "TIONAL (DIGIT SHAPES|PARK)|USEATED FACE|ZAR AMULET)|B(H|SP)|E(CKTIE|GAT(",
  "ED DOUBLE VERTICAL BAR DOUBLE RIGHT TURNSTILE|IVE (ACKNOWLEDGE|CIRCLED (DIGIT ZERO|",
  "LATIN CAPITAL LETTER (A|B|C|D|E|F|G|H|I|J|K|L|M|N|O|P|Q|R|S|T|U|V|W|X|Y|Z)|NUMBER (E(IGHTEEN|",
  "LEVEN)|F(IFTEEN|OURTEEN)|NINETEEN|S(EVENTEEN|IXTEEN)|T(HIRTEEN|WE(LVE|NTY)))|SQUARE|TRIANGLE)|",
  "DIAGONAL (CROSS|DIAMOND|MIDDLE RIGHT TO LOWER CENTRE)|SQUARED (AB|CROSS MARK|IC|",
  "LATIN CAPITAL LETTER (A|B|C|D|E|F|G|H|I|J|K|L|M|N|O|P|Q|R|S|T|U|V|W|X|Y|Z)|PA|QUESTION MARK|",
  "SA|WC)))|ITHER (A( SU(BSET OF NOR EQUAL TO|PERSET OF NOR EQUAL TO)|",
  "PPROXIMATELY NOR ACTUALLY EQUAL TO)|GREATER-THAN NOR (EQU(AL TO|IVALENT TO)|LESS-THAN)|",
  "LESS-THAN NOR (EQU(AL TO|IVALENT TO)|GREATER-THAN))|L|PTUNE(| FORM TWO)|RD FACE|S(SUS|T(",
  " WITH EGGS|ING DOLLS))|UT(ER|RAL (CHESS (BISHOP(| ROTATED (NINETY DEGREES|",
  "TWO HUNDRED SEVENTY DEGREES))|EQUIHOPPER(| ROTATED NINETY DEGREES)|K(ING(| ROTATED (",
  "NINETY DEGREES|TWO HUNDRED SEVENTY DEGREES))|NIGHT(| ROTATED (FORTY-FIVE DEGREES|",
  "NINETY DEGREES|ONE HUNDRED THIRTY-FIVE DEGREES|T(HREE HUNDRED FIFTEEN DEGREES|WO HUNDRED (",
  "SEVENTY DEGREES|TWENTY-FIVE DEGREES)))))|PAWN(| ROTATED (NINETY DEGREES|",
  "TWO HUNDRED SEVENTY DEGREES))|QUEEN(| ROTATED (NINETY DEGREES|TWO HUNDRED SEVENTY DEGREES))|",
  "ROOK(| ROTATED (NINETY DEGREES|TWO HUNDRED SEVENTY DEGREES))|TURNED (BISHOP|K(ING|NIGHT)|PAWN|",
  "QUEEN|ROOK))|FACE))|W( (LINE|MOON (SYMBOL|WITH FACE)|SHEQEL SIGN|TAI LUE (DIGIT (EIGHT|F(IVE|",
  "OUR)|NINE|ONE|S(EVEN|IX)|T(HREE|WO)|ZERO)|LETTER (FINAL (B|D|K|M|N(|G)|V)|HIGH (BA|DA|FA|HA|K(",
  "A|VA)|LA|MA|N(A|GA)|P(A|HA)|QA|S(A|UA)|T(A|HA|SA)|VA|X(A|VA)|YA)|LOW (BA|DA|FA|HA|K(A|VA)|LA|",
  "MA|N(A|GA)|P(A|HA)|QA|S(A|UA)|T(A|HA|SA)|VA|X(A|VA)|YA))|SIGN LAE(|V)|T(HAM DIGIT ONE|",
  "ONE MARK-(1|2))|VOWEL SIGN (A(A(|Y)|E|Y)|E|I(I|Y)|O(|A(|Y)|Y)|U(|E(|Y)|U|Y)|VOWEL SHORTENER)))",
  "|A (ABBREVIATION SIGN|COMMA|D(ANDA|IGIT (EIGHT|F(IVE|OUR)|NINE|ONE|S(EVEN|IX)|T(HREE|WO)|ZERO)",
  "|OUBLE (COMMA|DANDA))|GAP FILLER|INSERTION SIGN|LETTER (A(|A|I|U)|B(A|HA)|C(A|HA)|D(A|D(A|HA)|",
  "HA)|E|G(A|HA)|HA|I(|I)|J(A|HA)|K(A|HA)|L(A|HA)|M(A|HA)|N(A|G(A|HA)|HA|NA|Y(A|HA))|O|P(A|HA)|R(",
  "A|HA)|S(A|HA|SA)|T(A|HA|T(A|HA))|U(|U)|V(EDIC ANUSVARA|OCALIC (L(|L)|R(|R)))|WA|YA)|OM|",
  "PLACEHOLDER MARK|S(ANDHI MARK|I(DDHI|GN (A(NUSVARA|VAGRAHA)|CANDRABINDU|FINAL ANUSVARA|",
  "JIHVAMULIYA|NUKTA|UPADHMANIYA|VI(RAMA|SARGA))))|VOWEL SIGN (A(A|I|U)|E|I(|I)|O|U(|U)|VOCALIC (",
  "L(|L)|R(|R))))|LINE (LEFT|RIGHT)|SPAPER)|XT (LINE|PAGE))|I(GHT WITH STARS|NJA)|KO (COM(",
  "BINING (DOUBLE DOT ABOVE|LONG (DESCENDING TONE|HIGH TONE|LOW TONE|RISING TONE)|",
  "NASALIZATION MARK|SHORT (HIGH TONE|LOW TONE|RISING TONE))|MA)|D(ANTAYALAN|IGIT (EIGHT|F(IVE|",
  "OUR)|NINE|ONE|S(EVEN|IX)|T(HREE|WO)|ZERO)|OROME SIGN)|EXCLAMATION MARK|HIGH TONE APOSTROPHE|L(",
  "AJANYALAN|ETTER (A|BA|CHA|DA(|GBASINNA)|E(|E)|FA|GBA|HA|I|J(A|ONA (CHA|JA|RA))|KA|LA|MA|N(|A(|",
  " WOLOSO)|YA(| WOLOSO))|O(|O)|PA|R(A|RA)|SA|TA|U|WA|YA)|OW TONE APOSTROPHE)|SYMBOL (GBAKURUNEN|",
  "OO DENNEN)|TAMAN SIGN)|L|NBSP|O( (B(ICYCLES|REAK HERE)|ENTRY(| SIGN)|MOBILE PHONES|",
  "ONE UNDER EIGHTEEN SYMBOL|P(EDESTRIANS|IRACY)|SMOKING SYMBOL)|-BREAK SPACE|MI(",
  "NAL DIGIT SHAPES|SMA SIGN)|N(-(BREAKING HYPHEN|POTABLE WATER SYMBOL)|FORKING)|R(|",
  "DIC MARK SIGN|MAL SUBGROUP OF(| OR EQUAL TO)|TH( (EAST (A(ND SOUTH WEST ARROW|RROW(| (",
  "AND SOUTH EAST ARROW|CROSSING (NORTH WEST ARROW|SOUTH EAST ARROW)|WITH HOOK)))|BLACK ARROW|",
  "DOUBLE ARROW|POINTING (BUD|LEAF|VINE LEAF)|SANS-SERIF ARROW|TRIANGLE-HEADED ARROW(| TO BAR)|",
  "WHITE ARROW)|INDIC (FRACTION (ONE (EIGHTH|HALF|QUARTER|SIXTEENTH)|THREE (QUARTERS|SIXTEENTHS))",
  "|PLACEHOLDER MARK|QUA(NTITY MARK|RTER MARK)|RUPEE MARK)|WEST (A(ND SOUTH EAST ARROW|RROW(| (",
  "AND NORTH EAST ARROW|CROSSING NORTH EAST ARROW|TO (CORNER|LONG BAR)|WITH HOOK)))|BLACK ARROW|",
  "DOUBLE ARROW|POINTING (BUD|LEAF|VINE LEAF)|SANS-SERIF ARROW|TRIANGLE-HEADED ARROW(| TO BAR)|",
  "WHITE ARROW))|EAST-POINTING AIRPLANE))|SE|T( (A( SU(BSET OF|PERSET OF)|LMOST EQUAL TO|",
  "N ELEMENT OF|SYMPTOTICALLY EQUAL TO)|CHECK MARK|EQU(AL TO|IVALENT TO)|GREATER-THAN|",
  "IDENTICAL TO|LESS-THAN|NORMAL SUBGROUP OF(| OR EQUAL TO)|PARALLEL TO|S(IGN|QUARE (",
  "IMAGE OF OR EQUAL TO|ORIGINAL OF OR EQUAL TO))|T(ILDE|RUE))|CHED (L(",
  "EFT SEMICIRCLE WITH THREE DOTS|OWER RIGHT-SHADOWED WHITE RIGHTWARDS ARROW)|",
  "RIGHT SEMICIRCLE WITH THREE DOTS|UPPER RIGHT-SHADOWED WHITE RIGHTWARDS ARROW)|E(| PA(D|GE)|",
  "BOOK(| WITH DECORATIVE COVER))))|U(L(|L)|M(BER (E(IGHTEEN FULL STOP|LEVEN FULL STOP)|F(",
  "IFTEEN FULL STOP|OURTEEN FULL STOP)|NINETEEN FULL STOP|S(EVENTEEN FULL STOP|I(GN|",
  "XTEEN FULL STOP))|T(EN FULL STOP|HIRTEEN FULL STOP|WE(LVE FULL STOP|NTY FULL STOP)))|ERO SIGN)",
  "|SHU (CHARACTER-1B(1(7(0|1|2|3|4|5|6|7|8|9|A|B|C|D|E|F)|8(0|1|2|3|4|5|6|7|8|9|A|B|C|D|E|F)|9(",
  "0|1|2|3|4|5|6|7|8|9|A|B|C|D|E|F)|A(0|1|2|3|4|5|6|7|8|9|A|B|C|D|E|F)|B(0|1|2|3|4|5|6|7|8|9|A|B|",
  "C|D|E|F)|C(0|1|2|3|4|5|6|7|8|9|A|B|C|D|E|F)|D(0|1|2|3|4|5|6|7|8|9|A|B|C|D|E|F)|E(0|1|2|3|4|5|",
  "6|7|8|9|A|B|C|D|E|F)|F(0|1|2|3|4|5|6|7|8|9|A|B|C|D|E|F))|2(0(0|1|2|3|4|5|6|7|8|9|A|B|C|D|E|F)|",
  "1(0|1|2|3|4|5|6|7|8|9|A|B|C|D|E|F)|2(0|1|2|3|4|5|6|7|8|9|A|B|C|D|E|F)|3(0|1|2|3|4|5|6|7|8|9|A|",
  "B|C|D|E|F)|4(0|1|2|3|4|5|6|7|8|9|A|B|C|D|E|F)|5(0|1|2|3|4|5|6|7|8|9|A|B|C|D|E|F)|6(0|1|2|3|4|",
  "5|6|7|8|9|A|B|C|D|E|F)|7(0|1|2|3|4|5|6|7|8|9|A|B|C|D|E|F)|8(0|1|2|3|4|5|6|7|8|9|A|B|C|D|E|F)|",
  "9(0|1|2|3|4|5|6|7|8|9|A|B|C|D|E|F)|A(0|1|2|3|4|5|6|7|8|9|A|B|C|D|E|F)|B(0|1|2|3|4|5|6|7|8|9|A|",
  "B|C|D|E|F)|C(0|1|2|3|4|5|6|7|8|9|A|B|C|D|E|F)|D(0|1|2|3|4|5|6|7|8|9|A|B|C|D|E|F)|E(0|1|2|3|4|",
  "5|6|7|8|9|A|B|C|D|E|F)|F(0|1|2|3|4|5|6|7|8|9|A|B)))|ITERATION MARK)|T AND BOLT)|",
  "YIAKENG PUACHUE HMONG (CIRCLED CA|DIGIT (EIGHT|F(IVE|OUR)|NINE|ONE|S(EVEN|IX)|T(HREE|WO)|ZERO)",
  "|L(ETTER (A(|A)|CA|D(A|LA)|E(|E)|FA|GA|HA(|H)|I|KA|LA|M(A|LA)|N(A|CA|KA|P(A|LA)|QA|RA|T(A|SA|",
  "XA)|YA)|O(|O)|P(A|LA)|QA|R(A|RA)|SA|T(A|SA|XA)|U|VA|W|X(A|YA)|YA|ZA)|OGOGRAM NYAJ)|S(IGN (",
  "FOR (ANIMAL|INVERTEBRATE|LOCATION|PERSON|THING)|XW XW)|YLLABLE LENGTHENER)|TONE-(B|D|G|J|M|S|",
  "V)))|O(B(JECT REPLACEMENT CHARACTER|LIQUE (ANGLE OPENING (DOWN|UP)|HYPHEN)|SERVER EYE SYMBOL)|",
  "C(R (AMOUNT OF CHECK|B(ELT BUCKLE|OW TIE|RANCH BANK IDENTIFICATION)|C(HAIR|",
  "USTOMER ACCOUNT NUMBER)|D(ASH|OUBLE BACKSLASH)|FORK|HOOK|INVERTED FORK)|T(AGONAL SIGN|OPUS))|",
  "DEN|FFICE BUILDING|G(HAM (FEATHER MARK|LETTER (AILM|BEITH|C(EIRT|OLL)|DAIR|EA(BHADH|DHADH|",
  "MHANCHOLL)|FEARN|GORT|I(FIN|ODHADH)|LUIS|MUIN|N(GEADAL|ION)|O(NN|R)|PEITH|RUIS|S(AIL|TRAIF)|",
  "TINNE|U(ATH|ILLEANN|R))|REVERSED FEATHER MARK|SPACE MARK)|ONEK)|HM SIGN|IL DRUM|K HAND SIGN|L(",
  " CHIKI (AHAD|DIGIT (EIGHT|F(IVE|OUR)|NINE|ONE|S(EVEN|IX)|T(HREE|WO)|ZERO)|GAAHLAA TTUDDAAG|",
  "LETTER (A(A(J|K|M|W)|G|L|NG|T)|E(DD|N|P|RR)|I(H|NY|R|S)|L(A(|A)|E|I|O|U)|O(B|H|TT|V)|U(C|D|NN|",
  "Y))|MU( TTUDDAG|-GAAHLAA TTUDDAAG)|P(HAARKAA|UNCTUATION (DOUBLE MUCAAD|MUCAAD))|RELAA)|D( (",
  "CHINESE (HOOK MARK|ITERATION MARK)|HUNGARIAN (CAPITAL LETTER (A(|A|K|MB|ND)|CLOSE E|E(|B|C(|H|",
  "S)|D|E|F|G(|Y)|H|J|K|L(|Y)|M(|P)|N(|C|T(|-SHAPED SIGN)|Y)|P|R|S(|Z)|T(|Y)|V|Z(|S))|I(|I)|",
  "NIKOLSBURG (OE|UE)|O(|EE|O)|RUDIMENTA (OE|UE)|SHORT ER|U(|NK|S|U))|NUMBER (FI(FTY|VE)|ONE(| (",
  "HUNDRED|THOUSAND))|TEN)|SMALL LETTER (A(|A|K|MB|ND)|CLOSE E|E(|B|C(|H|S)|D|E|F|G(|Y)|H|J|K|L(|",
  "Y)|M(|P)|N(|C|T(|-SHAPED SIGN)|Y)|P|R|S(|Z)|T(|Y)|V|Z(|S))|I(|I)|NIKOLSBURG (OE|UE)|O(|EE|O)|",
  "RUDIMENTA (OE|UE)|SHORT ER|U(|NK|S|U)))|ITALIC (LETTER (A|BE|CHE|DE|E(|F|KS|L|M|N|R(|S)|S(|H|",
  "S))|HE|I(|I)|K(A|E|HE|U)|NORTHERN TSE|O|P(E|HE)|S(HE|OUTHERN TSE)|T(E|HE)|U(|U)|VE|YE|ZE)|",
  "NUMERAL (FI(FTY|VE)|ONE|TEN))|KEY|NORTH ARABIAN (LETTER (A(IN|LEF)|BEH|DA(D|L)|ES-(1|2|3)|FEH|",
  "G(EEM|HAIN)|H(AH|EH)|K(AF|HAH)|LAM|MEEM|NOON|QAF|REH|SAD|T(AH|EH|H(AL|EH))|WAW|YEH|ZA(H|IN))|",
  "NUMBER (ONE|T(EN|WENTY)))|PER(MIC LETTER (AN|BUR|CHERY|D(OI|Z(HOI|ITA))|E(|F)|GAI|HA|I(|A|E)|",
  "KOKE|LEI|MENOE|NENOE|O(|O)|PEEI|REI|S(H(CHOOI|OOI)|II)|T(AI|SIU)|U|V(ER|OOI)|Y(A(|T)|ER(|I|U)|",
  "RY|U)|Z(ATA|HOI))|S(IAN (NUMBER (HUNDRED|ONE|T(EN|W(ENTY|O)))|SIGN (A(|URAMAZDAA(|-2|HA))|B(A(",
  "|GA)|UUMISH)|CA|D(A(|HYAAUSH(|-2))|I|U)|FA|G(A|U)|HA|I|J(A|I)|K(A|U)|LA|M(A|I|U)|N(A|U)|PA|R(",
  "A|U)|S(A|HA|SA)|T(A|HA|U)|U|V(A|I)|X(A|SHAAYATHIYA)|YA|ZA)|WORD DIVIDER)|ONAL COMPUTER))|SO(",
  "GDIAN (FRACTION ONE HALF|L(ETTER (A(L(EPH|TERNATE AYIN)|YIN)|BETH|FINAL (ALEPH|BETH|HE|NUN(|",
  " WITH VERTICAL TAIL)|SADHE(| WITH VERTICAL TAIL)|TAW(| WITH VERTICAL TAIL))|GIMEL|HE(|TH)|",
  "KAPH|LAMEDH|MEM|NUN|PE|RESH-AYIN-DALETH|S(A(DHE|MEKH)|HIN)|TAW|WAW|YODH|ZAYIN)|",
  "IGATURE AYIN-DALETH)|NUMBER (F(IVE|OUR)|ONE(| HUNDRED)|T(EN|H(IRTY|REE)|W(ENTY|O))))|",
  "UTH ARABIAN (LETTER (A(LEF|YN)|BETH|D(ALETH|HA(DHE|LETH))|FE|G(HAYN|IMEL)|HE(|TH)|K(APH|HETH)|",
  "LAMEDH|MEM|NUN|QOPH|RESH|S(A(DHE|MEKH|T)|HIN)|T(AW|ETH|H(AW|ETH))|WAW|YODH|ZAYN)|NUM(BER (",
  "FIFTY|ONE)|ERIC INDICATOR)))|TURKIC LETTER (ORKHON (A(|B|D|E(B|D|G|K|L|N|R|S|T|Y)|G|L|N|Q|R|S(",
  "|H)|T|Y)|BASH|E(C|LT|M|N(C|G|T|Y)|P|SH|Z)|I(|C|Q)|O(|E(|K)|P|Q|T))|YENISEI (A(|B|D|E(|B|G|K|N(",
  "|G)|T|Y)|G|L|NG|Q|R|SH|T|Y)|E(|C|N(C|T|Y)|SH|Z)|I(|Q)|O(E(|K)|Q)))|UYGHUR (COMBINING (DOT (",
  "ABOVE|BELOW)|TWO DOTS (ABOVE|BELOW))|LETTER (ALEPH|BETH|FINAL HETH|GIMEL-HETH|KAPH|L(AMEDH|",
  "ESH)|MEM|NUN|PE|RESH|S(A(DHE|MEKH)|HIN)|TAW|WAW|YODH|ZAYIN)|PUNCTUATION (BAR|FOUR DOTS|TWO (",
  "BARS|DOTS))))|ER (ADULT|MAN|WOMAN))|IVE)|M SYMBOL|N( WITH EXCLAMATION MARK WITH LEFT RIGHT ",
  "ARROW ABOVE|COMING (AUTOMOBILE|BUS|FIRE ENGINE|POLICE CAR|TAXI)|E( (BUTTON MOUSE|DOT (LEADER|",
  "OVER TWO DOTS PUNCTUATION))|-PIECE SWIMSUIT)|ION)|P(E(N( (BO(OK|X)|CENTRE (ASTERISK|",
  "BLACK STAR|CROSS|TEARDROP-SPOKED ASTERISK)|F(ILE FOLDER|OLDER)|HANDS SIGN|LOCK|MAILBOX WITH (",
  "LOWERED FLAG|RAISED FLAG)|SU(BSET|PERSET))|-(CIRCUIT-OUTPUT (H-TYPE SYMBOL|L-TYPE SYMBOL)|",
  "OUTLINED RIGHTWARDS ARROW))|RATING SYSTEM COMMAND)|HIUCHUS|POSITION|TI(CAL DISC(| ICON)|",
  "ON KEY))|R( WITH DOT INSIDE|ANG(E (BOOK|HEART)|UTAN)|I(GINAL OF|YA (A(I LENGTH MARK|",
  "U LENGTH MARK)|DIGIT (EIGHT|F(IVE|OUR)|NINE|ONE|S(EVEN|IX)|T(HREE|WO)|ZERO)|FRACTION (ONE (",
  "EIGHTH|HALF|QUARTER|SIXTEENTH)|THREE (QUARTERS|SIXTEENTHS))|ISSHAR|LETTER (A(|A|I|U)|B(A|HA)|",
  "C(A|HA)|D(A|D(A|HA)|HA)|E|G(A|HA)|HA|I(|I)|J(A|HA)|K(A|HA)|L(A|LA)|MA|N(A|GA|NA|YA)|O|P(A|HA)|",
  "R(A|HA|RA)|S(A|HA|SA)|T(A|HA|T(A|HA))|U(|U)|V(A|OCALIC (L(|L)|R(|R)))|WA|Y(A|YA))|SIGN (A(",
  "NUSVARA|VAGRAHA)|CANDRABINDU|NUKTA|OVERLINE|VI(RAMA|SARGA))|VOWEL SIGN (A(A|I|U)|E|I(|I)|O|U(|",
  "U)|VOCALIC (L(|L)|R(|R)))))|NATE (LEFT PARENTHESIS|RIGHT PARENTHESIS)|THODOX CROSS)|S(AGE (",
  "CAPITAL LETTER (A(|H|I(|N))|BRA|CHA|DHA|E(|H(CHA|KA|PA|T(A|SA))|IN)|GHA|H(A|YA)|I|K(A|HA|YA)|",
  "LA|MA|NA|O(|IN)|PA|S(A|HA)|T(A|S(A|HA))|U|WA|Z(A|HA))|SMALL LETTER (A(|H|I(|N))|BRA|CHA|DHA|E(",
  "|H(CHA|KA|PA|T(A|SA))|IN)|GHA|H(A|YA)|I|K(A|HA|YA)|LA|MA|NA|O(|IN)|PA|S(A|HA)|T(A|S(A|HA))|U|",
  "WA|Z(A|HA)))|C|MANYA (DIGIT (EIGHT|F(IVE|OUR)|NINE|ONE|S(EVEN|IX)|T(HREE|WO)|ZERO)|LETTER (A(|",
  "A|LEF)|BA|CAYN|D(EEL|HA)|E(|E)|FA|GA|HA|I|JA|K(AAF|HA)|LAAN|MIIN|NUUN|O(|O)|QAAF|RA|S(A|HIIN)|",
  "TA|U|WAW|XA|YA)))|TT(ER|OMAN SIYAQ (ALTERNATE NUMBER (EIGHT|F(IVE|OUR(| HUNDRED))|NINE|S(EVEN|",
  "IX(| HUNDRED))|T(EN(| THOUSAND)|HREE|WO(| THOUSAND)))|FRACTION ONE (HALF|SIXTH)|MARRATAN|",
  "NUMBER (EIGHT(| (HUNDRED|THOUSAND)|Y(| THOUSAND))|F(I(FTY(| THOUSAND)|VE(| (HUNDRED|THOUSAND))",
  ")|O(RTY(| THOUSAND)|UR(| (HUNDRED|THOUSAND))))|NINE(| (HUNDRED|THOUSAND)|TY(| THOUSAND))|ONE(|",
  " (HUNDRED|THOUSAND))|S(EVEN(| (HUNDRED|THOUSAND)|TY(| THOUSAND))|IX(| (HUNDRED|THOUSAND)|TY(|",
  " THOUSAND)))|T(EN(| THOUSAND)|H(IRTY(| THOUSAND)|REE(| (HUNDRED|THOUSAND)))|W(ENTY(| THOUSAND)",
  "|O(| (HUNDRED|THOUSAND)))))))|U(NCE SIGN|T(BOX TRAY|LINED (BLACK STAR|GREEK CROSS|LATIN CROSS|",
  "WHITE STAR)))|VER(HEATED FACE|L(AP(|PING (BLACK SQUARES|WHITE (AND BLACK SQUARES|SQUARES)))|",
  "INE))|WL|X|YSTER)|P(A(CKAGE|D(|DING CHARACTER)|G(E(| (FACING UP|WITH C(IRCLED TEXT|URL))|R|S)|",
  "ODA)|HAWH HMONG (C(LAN SIGN (FAJ|HA(M|WJ)|K(HAB|OO|WM)|L(AUJ|IS)|MUAS|PHAB|T(HOJ|S(AB|HEEJ|WB)",
  ")|V(AJ|WJ)|XYOOJ|Y(AJ|EEG))|ONSONANT (AU|C(AU|HAU)|H(AU|LAU|NAU)|LAU|MAU|N(AU|CHAU|KAU|LAU|T(",
  "HAU|SAU))|PLHAU|QHAU|RAU|VAU|XAU|YAU))|DIGIT (EIGHT|F(IVE|OUR)|NINE|ONE|S(EVEN|IX)|T(HREE|WO)|",
  "ZERO)|MARK CIM (HOM|K(ES|HAV)|S(O|UAM)|T(AUM|UB))|NUMBER (HUNDRED( MILLIONS|S)|MILLIONS|T(EN(",
  " (BILLIONS|THOUSANDS)|S)|RILLIONS))|SIGN (AV|CIM (C(HEEM|UAM TSHOOJ)|HAIS LUS NTOG NTOG|",
  "NRES TOS|PUB DAWB|T(SOV ROG|XWV(| CHWV)))|H(LI|NUB)|IB YAM|LOS|M(EEJ (SUAB|TSEEB)|US)|N(QIG|",
  "TUJ)|T(AU|HIRD-STAGE HLI|XHEEJ CEEV)|VOS (FEEM|LUB|NRUA|SEEV|T(H(IAB|OM)|SHAB CEEB))|X(AUS|",
  "IAB|Y(EEM (FAIB|NTXIV|RHO|TOV)|OO))|ZWJ THAJ)|VOWEL K(A(A(B|V)|B|I(B|V)|U(B|V)|V|W(B|V))|E(B|",
  "E(B|V)|V)|I(A(B|V)|B|V)|O(B|O(B|V)|V)|U(A(B|V)|B|V)|W(B|V)))|L(LAS|M( (BRANCH|DOWN HAND|TREE|",
  "UP HAND)|S UP TOGETHER|YRENE (LE(FT-POINTING FLEURON|TTER (A(LEPH|YIN)|BETH|DALETH|FINAL NUN|",
  "GIMEL|HE(|TH)|KAPH|LAMEDH|MEM|NUN|PE|QOPH|RESH|S(A(DHE|MEKH)|HIN)|T(AW|ETH)|WAW|YODH|ZAYIN))|",
  "NUMBER (F(IVE|OUR)|ONE|T(EN|HREE|W(ENTY|O)))|RIGHT-POINTING FLEURON)))|N(CAKES|DA FACE)|",
  "PERCLIP|R(A(CHUTE|GRAPH( SEPARATOR|OS|US MARK)|LLEL (TO|WITH (HORIZONTAL STROKE|",
  "TILDE OPERATOR)))|ENTHESIZED (DIGIT (EIGHT|F(IVE|OUR)|NINE|ONE|S(EVEN|IX)|T(HREE|WO))|HANGUL (",
  "C(HIEUCH(| A)|IEUC(| (A|U)))|HIEUH(| A)|IEUNG(| A)|K(HIEUKH(| A)|IYEOK(| A))|MIEUM(| A)|NIEUN(",
  "| A)|P(HIEUPH(| A)|IEUP(| A))|RIEUL(| A)|SIOS(| A)|T(HIEUTH(| A)|IKEUT(| A)))|IDEOGRAPH (",
  "ALLIANCE|C(ALL|ONGRATULATION)|E(ARTH|IGHT|NTERPRISE)|F(ESTIVAL|I(NANCIAL|RE|VE)|OUR)|HAVE|",
  "LABOR|M(ETAL|OON)|N(AME|INE)|ONE|RE(ACH|PRESENT|S(OURCE|T))|S(E(LF|VEN)|IX|OCIETY|PECIAL|T(",
  "OCK|UDY)|U(N|PERVISE))|T(EN|HREE|WO)|W(ATER|OOD))|KOREAN CHARACTER O( HU|JEON)|LATIN (",
  "CAPITAL LETTER (A|B|C|D|E|F|G|H|I|J|K|L|M|N|O|P|Q|R|S|T|U|V|W|X|Y|Z)|SMALL LETTER (A|B|C|D|E|",
  "F|G|H|I|J|K|L|M|N|O|P|Q|R|S|T|U|V|W|X|Y|Z))|NUMBER (E(IGHTEEN|LEVEN)|F(IFTEEN|OURTEEN)|",
  "NINETEEN|S(EVENTEEN|IXTEEN)|T(EN|HIRTEEN|WE(LVE|NTY))))|ROT|T( ALTERNATION MARK|IAL( (",
  "DIFFERENTIAL|LINE (BACKWARD|DOWN|FORWARD|UP))|LY-RECYCLED PAPER SYMBOL)|NERSHIP SIGN|Y POPPER)",
  ")|SS(E(D SYMBOL|NGER SHIP)|IVE-PULL-(DOWN-OUTPUT SYMBOL|UP-OUTPUT SYMBOL)|PORT CONTROL)|",
  "U CIN HAU (GLOTTAL STOP(| (FINAL|VARIANT))|L(ETTER (A|BA|C(A|HA)|DA|E|F(A|INAL (K|L|M|N(|G)|P|",
  "T|W|Y))|GA|HA|I(|A)|K(A|HA)|LA|MA|N(A|GA)|O|P(A|HA)|RA|SA|T(A|HA)|U(|A)|VA|ZA)|",
  "OW-FALLING TONE(| (FINAL|LONG(| FINAL))))|MID-LEVEL TONE(| (FINAL|LONG FINAL))|RISING TONE(| (",
  "FINAL|LONG(| FINAL)))|SANDHI (GLOTTAL STOP(| FINAL)|TONE(| (FINAL|LONG(| FINAL)))))|W PRINTS)|",
  "D(F|I)|E(A(C(E SYMBOL|H|OCK)|NUTS|R)|DESTRIAN|N( OVER STAMPED ENVELOPE|CIL|GUIN|SIVE FACE|",
  "TAGRAM)|OPLE HUGGING|R( (MILLE SIGN|SIGN|TEN THOUSAND SIGN)|CENT SIGN|FORMING ARTS|",
  "MANENT PAPER SIGN|PENDICULAR(| WITH S)|S(EVERING FACE|ON( (BOWING DEEPLY|CLIMBING|",
  "DOING CARTWHEEL|FROWNING|IN (LOTUS POSITION|STEAMY ROOM)|RAISING BOTH HANDS IN CELEBRATION|",
  "WITH (B(ALL|LOND HAIR)|CROWN|FOLDED HANDS|HEADSCARF|POUTING FACE))|AL COMPUTER)|PECTIVE))|S(",
  "ETA SIGN|O SIGN)|TRI DISH)|H(A(GS-PA (DOUBLE HEAD MARK|LETTER (A(|LTERNATE YA|SPIRATED FA)|BA|",
  "C(A(|NDRABINDU)|HA)|D(A|DA|ZA)|E(|E)|FA|G(A|GA)|HA|I|JA|K(A|HA)|LA|MA|N(A|GA|NA|YA)|O|P(A|HA)|",
  "QA|RA|S(A|HA|MALL A)|T(A|HA|S(A|HA)|T(A|HA))|U|VOICE(D HA|LESS SHA)|WA|XA|YA|Z(A|HA))|MARK (",
  "DOUBLE SHAD|SHAD)|S(INGLE HEAD MARK|U(BJOINED LETTER (RA|WA|YA)|PERFIXED LETTER RA)))|",
  "ISTOS DISC SIGN (ARROW|B(EE(|HIVE)|O(OMERANG|W)|ULLS LEG)|C(A(PTIVE|RPENTRY PLANE|T)|HILD|LUB|",
  "O(LUMN|MB(|INING OBLIQUE STROKE)))|DO(LIUM|VE)|EAGLE|FLUTE|G(AUNTLET|RATER)|H(ELMET|IDE|ORN)|",
  "LI(D|LY)|MA(NACLES|TTOCK)|OX BACK|P(APYRUS|EDESTRIAN|L(ANE TREE|UMED HEAD))|R(AM|OSETTE)|S(AW|",
  "HI(ELD|P)|LING|MALL AXE|TRAINER)|T(ATTOOED HEAD|IARA|UNNY)|VINE|W(AVY BAND|OMAN)))|ILIPPINE (",
  "DOUBLE PUNCTUATION|SINGLE PUNCTUATION)|O(ENICIAN (LETTER (A(IN|LF)|BET|DELT|GAML|HE(|T)|KAF|",
  "LAMD|MEM|NUN|PE|QOF|ROSH|S(ADE|EMK|HIN)|T(AU|ET)|WAU|YOD|ZAI)|NUMBER (ONE(| HUNDRED)|T(EN|",
  "HREE|W(ENTY|O)))|WORD SEPARATOR)|LUS))|I(CK(|UP TRUCK)|E|G(| (FACE|NOSE))|L(CROW SIGN|",
  "E OF POO|L)|N(ATA|CH(ED FINGERS|ING HAND)|E( DECORATION|APPLE)|WHEEL STAR)|S(CES|TOL)|TCHFORK(",
  "| WITH TEE TOP))|L(A(C(ARD|E OF (INTEREST SIGN|WORSHIP))|NCK CONSTANT(| OVER TWO PI)|Y(",
  "GROUND SLIDE|ING CARD (ACE OF (CLUBS|DIAMONDS|HEARTS|SPADES)|B(ACK|LACK JOKER)|EIGHT OF (",
  "CLUBS|DIAMONDS|HEARTS|SPADES)|F(IVE OF (CLUBS|DIAMONDS|HEARTS|SPADES)|O(OL|UR OF (CLUBS|",
  "DIAMONDS|HEARTS|SPADES)))|JACK OF (CLUBS|DIAMONDS|HEARTS|SPADES)|K(ING OF (CLUBS|DIAMONDS|",
  "HEARTS|SPADES)|NIGHT OF (CLUBS|DIAMONDS|HEARTS|SPADES))|NINE OF (CLUBS|DIAMONDS|HEARTS|SPADES)",
  "|QUEEN OF (CLUBS|DIAMONDS|HEARTS|SPADES)|RED JOKER|S(EVEN OF (CLUBS|DIAMONDS|HEARTS|SPADES)|",
  "IX OF (CLUBS|DIAMONDS|HEARTS|SPADES))|T(EN OF (CLUBS|DIAMONDS|HEARTS|SPADES)|HREE OF (CLUBS|",
  "DIAMONDS|HEARTS|SPADES)|RUMP-(1(|0|1|2|3|4|5|6|7|8|9)|2(|0|1)|3|4|5|6|7|8|9)|WO OF (CLUBS|",
  "DIAMONDS|HEARTS|SPADES))|WHITE JOKER)))|D|U(|NGER|S( SIGN(| (ABOVE EQUALS SIGN|IN (",
  "LEFT HALF CIRCLE|RIGHT HALF CIRCLE|TRIANGLE)|WITH (BLACK TRIANGLE|CIRCUMFLEX ACCENT ABOVE|",
  "DOT BELOW|S(MALL CIRCLE ABOVE|UBSCRIPT TWO)|TILDE (ABOVE|BELOW))))|-MINUS SIGN)|TO(| FORM (F(",
  "IVE|OUR)|T(HREE|WO)))))|M|O(CKET CALCULATOR|LICE (CAR(|S REVOLVING LIGHT)|OFFICER)|ODLE|P(",
  " DIRECTIONAL (FORMATTING|ISOLATE)|CORN)|RTABLE STEREO|S(EIDON|ITION INDICATOR|T(AL (HORN|MARK(",
  "| FACE))|BOX))|T( OF FOOD|A(BLE WATER SYMBOL|TO)|TED PLANT)|U(CH|LTRY LEG|ND SIGN|RING LIQUID|",
  "TING (CAT FACE|FACE))|WER (ON( SYMBOL|-OFF SYMBOL)|S(LEEP SYMBOL|YMBOL)))|R(AYER BEADS|E(",
  "CEDES(| (ABOVE (ALMOST EQUAL TO|EQUALS SIGN|NOT (ALMOST EQUAL TO|EQUAL TO)|SINGLE-LINE (",
  "EQUALS SIGN|NOT EQUAL TO))|BUT NOT EQUIVALENT TO|OR EQU(AL TO|IVALENT TO)|UNDER RELATION))|",
  "GNANT (MAN|PERSON|WOMAN)|S(CRIPTION TAKE|ENTATION FORM FOR VERTICAL (CO(LON|MMA)|E(M DASH|",
  "N DASH|XCLAMATION MARK)|HORIZONTAL ELLIPSIS|IDEOGRAPHIC (COMMA|FULL STOP)|L(EFT (",
  "ANGLE BRACKET|BLACK LENTICULAR BRACKET|C(ORNER BRACKET|URLY BRACKET)|DOUBLE ANGLE BRACKET|",
  "PARENTHESIS|SQUARE BRACKET|TORTOISE SHELL BRACKET|WHITE (CORNER BRACKET|LENTICULAR BRACKET))|",
  "OW LINE)|QUESTION MARK|RIGHT (ANGLE BRACKET|BLACK LENTICULAR BRACKET|C(ORNER BRACKET|",
  "URLY BRACKET)|DOUBLE ANGLE BRACKET|PARENTHESIS|SQUARE BRACKET|TORTOISE SHELL BRACKET|WHITE (",
  "CORNER BRACKET|LENTICULAR BRA(CKET|KCET)))|SEMICOLON|TWO DOT LEADER|WAVY LOW LINE))|TZEL|",
  "VIOUS PAGE)|I(ME|N(CE(|SS)|T( SCREEN SYMBOL|ER(| ICON)))|VA(CY MESSAGE|TE USE( (ONE|TWO)|-(1|",
  "2))))|O(BING CANE|HIBITED SIGN|JECTIVE|P(ERTY LINE|ORTION(|AL TO))|SERPINA))|SALTER PAHLAVI (",
  "FOUR DOTS WITH (CROSS|DOT)|LETTER (ALEPH|BETH|DALETH|GIMEL|HE(|TH)|KAPH|LAMEDH|MEM-QOPH|NUN|",
  "PE|S(A(DHE|MEKH)|HIN)|TAW|WAW-AYIN-RESH|YODH|ZAYIN)|NUMBER (FOUR|ONE(| HUNDRED)|T(EN|HREE|W(",
  "ENTY|O)))|SECTION MARK|TURNED SECTION MARK)|U(1|2|BLIC ADDRESS LOUDSPEAKER|NCTU(ATION SPACE|",
  "S ELEVATUS MARK)|R(PLE HEART|SE)|SHPIN|T LITTER IN ITS PLACE SYMBOL))|QU(A(DR(ANT (LOWER (",
  "LEFT|RIGHT)|UPPER (LEFT(| AND (LOWER (LEFT AND LOWER RIGHT|RIGHT)|UPPER RIGHT AND LOWER (LEFT|",
  "RIGHT)))|RIGHT(| AND LOWER LEFT(| AND LOWER RIGHT))))|UPLE (INTEGRAL OPERATOR|PRIME))|",
  "RTER NOTE|TERNION INTEGRAL OPERATOR)|ESTION( (EXCLAMATION MARK|MARK)|ED EQUAL TO)|INCUNX|",
  "OTATION MARK)|R(A(BBIT(| FACE)|C(COON|ING (CAR|MOTORCYCLE))|DI(CAL SYMBOL BOTTOM|O(| BUTTON|",
  "ACTIVE SIGN))|I(LWAY (CAR|TRACK)|N(|BOW)|SED (BACK OF HAND|COMMA|DOT(|",
  "TED INTERPOLATION MARKER)|FIST|HAND(| WITH (FINGERS SPLAYED|",
  "PART BETWEEN MIDDLE AND RING FINGERS))|INTERPOLATION MARKER|M(C SIGN|D SIGN|R SIGN)|SQUARE))|",
  "M|T(|IO)|ZOR)|E(C(EIPT|ORD SEPARATOR|REATIONAL VEHICLE|YCL(ED PAPER SYMBOL|ING SYMBOL FOR (",
  "GENERIC MATERIALS|TYPE-(1 PLASTICS|2 PLASTICS|3 PLASTICS|4 PLASTICS|5 PLASTICS|6 PLASTICS|",
  "7 PLASTICS))))|D (APPLE|GIFT ENVELOPE)|FERENCE MARK|GI(ONAL INDICATOR SYMBOL LETTER (A|B|C|D|",
  "E|F|G|H|I|J|K|L|M|N|O|P|Q|R|S|T|U|V|W|X|Y|Z)|STERED SIGN)|JANG (CONSONANT SIGN (H|N(|G)|R)|",
  "LETTER (A|BA|CA|DA|GA|HA|JA|KA|LA|M(A|BA)|N(A|DA|G(A|GA)|Y(A|JA))|PA|RA|SA|TA|WA|YA)|",
  "SECTION MARK|V(IRAMA|OWEL SIGN (A(I|U)|E(|A|U)|I|O|U)))|LIEVED FACE|MINDER RIBBON|",
  "PLACEMENT CHARACTER|S(PONSE|TR(ICTED LEFT ENTRY-(1|2)|OOM))|TURN (LEFT|RIGHT|SYMBOL)|V(ERSE( (",
  "CHECKER BOARD|INDEX|LI(GHT FOUR POINTED PINWHEEL STAR|NE FEED)|SOLIDUS(| (OPERATOR|",
  "PRECEDING SUBSET|WITH HORIZONTAL STROKE))|TILDE OPERATOR ABOVE (LEFTWARDS ARROW|",
  "RIGHTWARDS ARROW))|D (ANGLE(| WITH UNDERBAR)|COMMA|DOUBLE (PRIME(| QUOTATION MARK)|",
  "STROKE NOT SIGN)|EMPTY SET|FORKED PARAGRAPHOS|HAND WITH MIDDLE FINGER EXTENDED|NOT SIGN|P(",
  "ILCROW SIGN|RIME)|QUESTION MARK|R(AISED HAND WITH FINGERS SPLAYED|IGHT ANGLE|",
  "OTATED FLORAL HEART BULLET)|S(ANS-SERIF CAPITAL L|EMICOLON)|T(HUMBS (DOWN SIGN|UP SIGN)|ILDE(|",
  " EQUALS)|RIPLE PRIME)|VICTORY HAND))|OLVING HEARTS))|HINOCEROS|I(|AL SIGN|BBON(| ARROW (DOWN (",
  "LEFT|RIGHT)|LEFT (DOWN|UP)|RIGHT (DOWN|UP)|UP (LEFT|RIGHT)))|CE (BALL|CRACKER)|FLE|GHT( (A(N(",
  "D (LOWER ONE EIGHTH BLOCK|UPPER ONE EIGHTH BLOCK)|G(ER BUBBLE|LE(| (BRACKET(| WITH DOT)|",
  "DOTTED SUBSTITUTION MARKER|SUBSTITUTION MARKER|VARIANT WITH SQUARE|WITH (ARC|",
  "DOWNWARDS ZIGZAG ARROW)))))|R(C GREATER-THAN BRACKET|ROW WITH (CIRCLED PLUS|SMALL CIRCLE)))|",
  "BLACK (LENTICULAR BRACKET|TORTOISE SHELL BRACKET)|C(EILING|ORNER BRACKET|URLY BRACKET(| (",
  "LOWER HOOK|MIDDLE PIECE|UPPER HOOK)))|DO(TTED SUBSTITUTION BRACKET|UBLE (A(NGLE BRACKET|",
  "RROW WITH ROUNDED HEAD)|PARENTHESIS|QUOTATION MARK|WIGGLY FENCE))|F(I(SH TAIL|",
  "VE EIGHTHS BLOCK)|LOOR)|HA(LF (BL(ACK (CIRCLE|STAR)|OCK)|FOLDER|MEDIUM SHADE|RUNNING MAN)|",
  "ND TELEPHONE RECEIVER)|LOW PARAPHRASE BRACKET|NORMAL FACTOR SEMIDIRECT PRODUCT|O(NE (",
  "EIGHTH BLOCK|QUARTER BLOCK)|PEN SQUARED DOT|UTER JOIN)|PARENTHESIS(| (EXTENSION|LOWER HOOK|",
  "UPPER HOOK))|RAISED OMISSION BRACKET|S(-SHAPED BAG DELIMITER|E(MIDIRECT PRODUCT|",
  "VEN EIGHTHS BLOCK)|I(DEWAYS U BRACKET|NGLE QUOTATION MARK)|PE(AKER(| WITH (ONE SOUND WAVE|",
  "THREE SOUND WAVES))|ECH BUBBLE)|QUARE BRACKET(| (EXTENSION|LOWER CORNER|UPPER CORNER|WITH (",
  "DOUBLE STROKE|QUILL|STROKE|TICK IN (BOTTOM CORNER|TOP CORNER)|UNDERBAR)))|UBSTITUTION BRACKET)",
  "|T(ACK|H(IRD WHITE RIGHT POINTING INDEX|OUGHT BUBBLE|REE (EIGHTHS BLOCK|QUARTERS BLOCK))|",
  "ORTOISE SHELL BRACKET|R(ANSPOSITION BRACKET|IANG(LE(| ABOVE LEFT TRIANGLE)|",
  "ULAR ONE QUARTER BLOCK)))|VERTICAL B(AR WITH QUILL|OX LINE)|W(HITE (C(ORNER BRACKET|",
  "URLY BRACKET)|LENTICULAR BRACKET|PARENTHESIS|SQUARE BRACKET|TORTOISE SHELL BRACKET)|",
  "IGGLY FENCE))|-(FACING (ARMENIAN ETERNITY SIGN|FIST|SVASTI SIGN(| WITH DOTS))|",
  "HANDED INTERLACED PENTAGRAM|POINTING (ANGLE BRACKET|CURVED ANGLE BRACKET|",
  "DOUBLE ANGLE QUOTATION MARK|MAGNIFYING GLASS)|S(HADED WHITE RIGHTWARDS ARROW|",
  "IDE ARC CLOCKWISE ARROW)|TO-LEFT (EMBEDDING|ISOLATE|MARK|OVERRIDE))|HAND INTERIOR PRODUCT|",
  "WARDS (ARROW(| (A(BOVE (ALMOST EQUAL TO|REVERSE (ALMOST EQUAL TO|TILDE OPERATOR)|",
  "SHORT LEFTWARDS ARROW|TILDE OPERATOR)|ND UPPER AND LOWER ONE EIGHTH BLOCK)|FROM BAR(|",
  " TO BLACK DIAMOND)|OVER LEFTWARDS ARROW|T(HROUGH (GREATER-THAN|SUPERSET|X)|O B(AR|",
  "LACK DIAMOND))|WITH (CORNER DOWNWARDS|DO(TTED STEM|UBLE VERTICAL STROKE)|",
  "EQUILATERAL ARROWHEAD|HOOK|L(ARGE TRIANGLE ARROWHEAD|OOP)|MEDIUM TRIANGLE ARROWHEAD|",
  "NOTCHED TAIL|PLUS BELOW|S(MALL (EQUILATERAL ARROWHEAD|TRIANGLE ARROWHEAD)|TROKE)|T(AIL(|",
  " WITH (DOUBLE VERTICAL STROKE|VERTICAL STROKE))|IP (DOWNWARDS|UPWARDS))|VERTICAL STROKE))|",
  "-TAIL)|B(ACK-TILTED SHADOWED WHITE ARROW|LACK (ARROW|CIRCLED WHITE ARROW)|",
  "OTTOM SHADED WHITE ARROW)|COMPRESSED ARROW|D(ASHED ARROW|OUBLE (ARROW(| (FROM BAR|WITH (",
  "STROKE|VERTICAL STROKE))|-TAIL)|DASH ARROW))|F(INGER-POST ARROW|",
  "RONT-TILTED SHADOWED WHITE ARROW)|H(A(ND|RPOON (OVER LEFTWARDS HARPOON|WITH BARB (DOWN( (",
  "ABOVE LEFTWARDS HARPOON WITH BARB DOWN|BELOW LONG DASH|FROM BAR|TO BAR)|WARDS)|UP( (ABOVE (L(",
  "EFTWARDS HARPOON WITH BARB UP|ONG DASH)|RIGHTWARDS HARPOON WITH BARB DOWN)|FROM BAR|TO BAR)|",
  "WARDS))))|EAVY (ARROW|COMPRESSED ARROW))|LEFT-SHADED WHITE ARROW|OPEN-HEADED ARROW|",
  "PAIRED ARROWS|QUADRUPLE ARROW|R(IGHT-SHADED WHITE ARROW|OCKET)|S(ANS-SERIF ARROW|QU(",
  "ARED ARROW|IGGLE ARROW))|T(OP SHADED WHITE ARROW|RI(ANGLE( ARROWHEAD|-HEADED (ARROW(| (",
  "OVER LEFTWARDS TRIANGLE-HEADED ARROW|TO BAR|WITH (BOLD SHAFT|DOUBLE (HORIZONTAL STROKE|",
  "VERTICAL STROKE)|HEAVY SHAFT|LONG TIP (DOWNWARDS|UPWARDS)|MEDIUM SHAFT|NARROW SHAFT|",
  "VERY HEAVY SHAFT)))|DASHED ARROW|PAIRED ARROWS))|PLE (ARROW|DASH ARROW))|WO( HEADED ARROW|",
  "-HEADED (ARROW (FROM BAR|WITH (DOUBLE VERTICAL STROKE|T(AIL(| WITH (DOUBLE VERTICAL STROKE|",
  "VERTICAL STROKE))|RIANGLE ARROWHEADS)|VERTICAL STROKE))|TRIPLE DASH ARROW)))|W(AVE ARROW|",
  "HITE ARROW(| (FROM WALL|WITHIN TRIANGLE ARROWHEAD)))))|NG(| (ABOVE|BUOY|EQUAL TO|IN EQUAL TO|",
  "OPERATOR|POINT)|ED PLANET|ING BELL)|SING DIAGONAL CROSSING (FALLING DIAGONAL|SOUTH EAST ARROW)",
  ")|L(E|I|M|O)|O(ASTED SWEET POTATO|BOT FACE|CK(|ET)|LL( OF PAPER|E(D-UP NEWSPAPER|R (COASTER|",
  "SKATE))|ING ON THE FLOOR LAUGHING)|MAN (AS SIGN|CENTURIAL SIGN|D(ENARIUS SIGN|",
  "IMIDIA SEXTULA SIGN|UPONDIUS SIGN)|NUMERAL (E(IGHT|LEVEN)|F(I(FTY(| (EARLY FORM|THOUSAND))|VE(",
  "| (HUNDRED|THOUSAND)))|OUR)|NINE|ONE(| (HUNDRED(| THOUSAND)|THOUSAND(| C D)))|",
  "REVERSED ONE HUNDRED|S(EVEN|IX(| LATE FORM))|T(EN(| THOUSAND)|HREE|W(ELVE|O)))|QUINARIUS SIGN|",
  "S(E(MUNCIA SIGN|STERTIUS SIGN|XT(ANS SIGN|ULA SIGN))|ILIQUA SIGN)|UNCIA SIGN)|OSTER|SE(|TTE)|",
  "TATED (CAPITAL Q|FLORAL HEART BULLET|HEAVY BLACK HEART BULLET|LIGHT FOUR POINTED BLACK CUSP|",
  "WHITE FOUR POINTED CUSP)|UND( (PUSHPIN|TARGET)|ED SYMBOL FOR (CAI|FU|LU|SH(OU|UANGXI)|XI))|",
  "WBOAT)|S|U(BLE SIGN|GBY FOOTBALL|LE-DELAYED|MI (DIGIT (EIGHT|F(IVE|OUR)|NINE|ONE|S(EVEN|IX)|T(",
  "HREE|WO))|FRACTION (ONE (HALF|QUARTER|THIRD)|TWO THIRDS)|NUMBER (EIGHT( HUNDRED|Y)|F(I(FTY|",
  "VE HUNDRED)|O(RTY|UR HUNDRED))|NINE( HUNDRED|TY)|ONE HUNDRED|S(EVEN( HUNDRED|TY)|IX( HUNDRED|",
  "TY))|T(EN|H(IRTY|REE HUNDRED)|W(ENTY|O HUNDRED))))|N(IC (ARLAUG SYMBOL|BELGTHOR SYMBOL|",
  "CROSS PUNCTUATION|LETTER (A(C A|ESC|LGIZ EOLHX|NSUZ A)|BERKANAN BEORC BJARKAN B|C(|ALC|E(ALC|",
  "N)|WEORTH)|D(|AGAZ DAEG D|OTTED-(L|N|P))|E(|AR|HWAZ EH E|NG|TH)|F(EHU FEOH FE F|RANKS CASKET (",
  "A(C|ESC)|EH|IS|OS))|G(|AR|E(BO GYFU G|R))|HA(EGL H|GLAZ H)|I(CELANDIC-YR|NG(|WAZ)|OR|",
  "SAZ IS ISS I|WAZ EOH)|JERAN J|K(|AUN( K|A))|L(AUKAZ LAGU LOGR L|ONG-BRANCH-(AR AE|HAGALL H|",
  "MADR M|OSS O|YR))|MANNAZ MAN M|NAUDIZ NYD NAUD N|O(|E|N|O|PEN-P|S O|THALAN ETHEL O)|",
  "PERTHO PEORTH P|Q|RAIDO RAD REID R|S(H(|ORT-TWIG-(AR A|BJARKAN B|HAGALL H|MADR M|NAUD N|OSS O|",
  "SOL S|TYR T|YR))|IGEL LONG-BRANCH-SOL S|OWILO S|TAN)|T(HURISAZ THURS THORN|IWAZ TIR TYR T)|",
  "URUZ UR U|V|W(|UNJO WYNN W)|X|Y(|R)|Z)|MULTIPLE PUNCTUATION|SINGLE PUNCTUATION|",
  "TVIMADUR SYMBOL)|N(ER|ING SHIRT WITH SASH))|PEE SIGN|SSIAN ASTROLOGICAL SYMBOL (BINOVILE|",
  "NOVILE|QUINTILE|SENTAGON|TREDECILE|VIGINTILE)))"]

end MonkeyScan.CharacterName
