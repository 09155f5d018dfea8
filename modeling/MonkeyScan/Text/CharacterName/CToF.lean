/-!
# Character names from C to F

The names that start with these letters, as alternatives of a tree. What names have in common is
written once, and in brackets behind it stands how they go on; nothing before the first bar means
that a name ends there.
-/
namespace MonkeyScan.CharacterName

/-- The tree of the names from C to F, in pieces. -/
def cToF : List String := [
  "C(A(CTUS|D(A UNA|UCEUS)|L(ENDAR|L ME HAND)|M(ERA(| WITH FLASH)|PING)|N(|ADIAN SYLLABICS (A(|A(",
  "|I|Y)|I(|VILIK B)|N|THAPASCAN (M|S)|Y)|B(EAVER DENE (L|R)|IBLE-CREE Y|LACKFOOT (A|E|I|K(A|E|I|",
  "O)|N(A|E|I|O)|O|S|W(|A|E|I|O)))|C(|A(|A(|I)|RRIER (CH(A|E(|E)|I|O|U)|D(E(E|N(E GEE|TAL S))|I|",
  "L(A|E(|E)|I|O|U)|Z(A|E(|E)|I|O|U))|EE|G(A(|A)|E(|E)|H(A|E(|E)|I|O|U)|I|O|U|W(A|U))|H(|EE|I|W(",
  "A|E(|E)|I|O|U))|I(|NITIAL Z)|J(A|E(|E)|I|J(A|E(|E)|I|O|U)|O|U|WA)|K(H(A|E(|E)|I|O|U)|K(|A|E(|",
  "E)|I|O|U))|L(A|E(|E)|H(A|E(|E)|I|O|U)|I|O|U)|M(A|E(|E)|I|O|U)|N(A|E(|E)|G|I|O|U)|P(|A|E(|E)|I|",
  "O|U)|R(A|E(|E)|I|O|U)|S(A|E(|E)|H(|A|E(|E)|I|O|U)|I|O|U)|T(H(A|E(|E)|I|O|U)|L(A|E(|E)|H(A|E(|",
  "E)|I|O|U)|I|O|U)|S(A|E(|E)|I|O|U)|T(A|E(|E)|I|O|S(A|E(|E)|I|O|U)|U))|W(A|E(|E)|I|O|U)|Y(A|E(|",
  "E)|I|O|U)|Z(|A|E(|E)|I|O|U)))|E|HI SIGN|I(|I)|O(|O)|W(A(|A)|E|I(|I)|O(|O)))|E(|ASTERN W|N)|F(|",
  "A(|A(|I))|E|I(|I|NAL (ACUTE|BOTTOM HALF RING|DO(UBLE (ACUTE|SHORT VERTICAL STROKES)|WN TACK)|",
  "GRAVE|MIDDLE DOT|PLUS|R(AISED DOT|I(GHT HALF RING|NG))|S(HORT HORIZONTAL STROKE|MALL RING)|",
  "TOP HALF RING))|O(|O)|ULL STOP|WAA)|GLOTTAL STOP|H(K|YPHEN)|I(|I|N)|K(|A(|A(|I)|Y)|E|I(|I)|O(|",
  "O)|W(|A(|A|Y)|E|I(|I)|O(|O)))|L(|A(|A(|I)|Y)|E|H(|A(|A)|I(|I)|O(|O))|I(|I)|O(|O)|W(A(|A)|E|I(|",
  "I)|O(|O)))|M(|A(|A(|I)|Y)|E(|DIAL (L|R))|H|I(|I)|O(|O(|SE-CREE SK))|W(A(|A)|E|I(|I)|O(|O)))|N(",
  "|-CREE TH(E|I(|I))|A(|A(|I)|SKAPI (CWAA|KWAA|MWAA|NWAA|S(-W|CWA|KW(|A)|PWA|TWA|WAA)|TWAA|W(AA|",
  "OO)|YWAA)|TTILIK (H(A(|A)|I(|I)|O(|O))|SHR(A(|A)|I(|I)|O(|O)))|Y)|E|G(|A(|A(|I)|I)|I(|I)|O(|O)",
  ")|H|I(|I)|NG(|A(|A)|I(|I)|O(|O))|O(|O|Y)|UNAV(IK H(|A(|A)|E|I(|I)|O(|O))|UT H)|W(A(|A)|E|I(|I)",
  "|O(|O)))|O(|JIBWAY (C|K|M|N(|W(I(|I)|O(|O)))|P|S(|H)|T)|N|O|Y)|P(|A(|A(|I)|Y)|E|I(|I)|O(|O|Y)|",
  "W(A(|A)|E|I(|I)|O(|O|Y)))|Q(|A(|A(|I)|I)|I(|I)|O(|O))|R(|-CREE R(E|WE)|A(|A(|I)|Y)|E|I(|I)|O(|",
  "O)|W(A(|A)|EE|I(|I)|O(|O)))|S(|A(|A(|I)|Y(|ISI (H(A|E|I|O(|O))|J(I|U(|U))|M|SH(A|E|I|O(|O)|WE)",
  "|TH|YI)))|E|H(|A(|A|Y)|E|I(|I)|O(|O|Y)|W(A(|A)|E|I(|I)|O(|O|Y)))|I(|I)|O(|O|UTH-SLAVEY K(AH|",
  "EH|IH|OH)|Y)|P(A|E|I|O)|W(|A(|A)|E|I(|I)|O(|O)))|T(|A(|A(|I)|Y)|E|H(|-CREE TH(|A(|A)|E|I(|I)|",
  "O(|O))|A(|A)|E|I(|I)|O(|O)|W(A(|A)|E))|I(|I)|LH(A|E|I|O(|O)|WE)|O(|O)|T(A|E|H(|A(|A)|E|I|O(|O)",
  "|WE)|I|O)|W(A(|A)|E|I(|I)|O(|O))|Y(A|E|I|O))|W(A(|A|Y)|E(|ST(-CREE (CW(A(|A)|E|I(|I)|O(|O))|",
  "FWAA|KW(A(|A)|E|I(|I)|O(|O))|L(|A(|A)|E|O(|O)|W(A(|A)|E|I(|I)|O(|O)))|M(|W(A(|A)|E|I(|I)|O(|O)",
  "))|NW(A(|A)|E)|P(|W(A(|A)|E|I(|I)|O(|O)))|R(|A|E|I|O|WAA)|S(HW(A(|A)|E|I(|I)|O(|O))|W(A(|A)|E|",
  "I(|I)|O(|O)))|T(HWAA|W(A(|A)|E|I(|I)|O(|O)))|W(A(|A)|E|I(|I)|O(|O))|Y(|W(A(|A)|E|I(|I)|O(|O)))",
  ")|ERN W))|I(|I)|O(|O(|DS-CREE (FINAL TH|TH(|A|E|I|O|W(A(|A)|EE|I(|I)|O(|O)))))))|Y(|-CREE (",
  "COO|KOO|LOO|MOO|NOO|OO|P(OO|WAA)|SOO|TOO|W|YOO)|A(|A(|I)|Y)|E|I(|I)|O(|O|Y)|W(A(|A)|E|I(|I)|O(",
  "|O))))|CE(L(| (CHARACTER|TAG)|LATION X)|R)|D(LE|Y)|NED FOOD|OE)|P(ITULUM|RICORN)|R( SLIDING|",
  "D (FILE BOX|INDEX(| DIVIDERS))|E( OF|T(| INSERTION POINT))|IAN LETTER (A(|2)|B|C-(18|39)|D(|2)",
  "|E(|2)|G(|2)|I(|I)|K(|2)|L(|D(|2))|M(|B(|2|3|4))|N(|D|G|N)|O|P(|2)|Q|R(|R)|S(|H(|2)|S|T(|2))|",
  "T(|T(|2))|U(|U(|U(|2|3|U)))|X)|O(N|USEL HORSE)|P( STREAMER|ENTRY SAW)|R(IAGE RETURN|OT))|STLE|",
  "T(| FACE(| WITH (TEARS OF JOY|WRY SMILE)))|U(CASIAN ALBANIAN (CITATION MARK|LETTER (A(LT|OR)|",
  "BET|C(A(R|YN)|H(A(|T)|I|OY)|YA(W|Y))|D(AT|YAN|Z(AY|YAY))|E(B|YN)|FAM|G(HEYS|IM)|HEYT|I(NYA|RB|",
  "WN)|J(AYN|HOX)|K(AR|IW)|L(AN|YIT)|MAQ|NOWC|ON|P(EN|IWR)|QA(R|Y)|RAT|S(EYK|H(A(|K)|OY))|T(AS|",
  "IWR|YAY)|VEYZ|XEYN|Y(AYD|OWD)|Z(ARL|H(A|IL))))|TION SIGN))|CH|E(DI( SIGN|LLA)|LTIC CROSS|NT(",
  " SIGN|RE( LINE SYMBOL|LINE (LOW LINE|OVERLINE)))|RES)|GJ|H(A(I(NS|R)|KMA (AU MARK|D(ANDA|",
  "IGIT (EIGHT|F(IVE|OUR)|NINE|ONE|S(EVEN|IX)|T(HREE|WO)|ZERO)|OUBLE DANDA)|LETTER (AA|B(AA|HAA)|",
  "C(AA|HAA)|D(AA|D(AA|HAA)|HAA)|E|G(AA|HAA)|HAA|I|J(AA|HAA)|K(AA|HAA)|L(AA|HAA)|MAA|N(AA|GAA|",
  "NAA|YAA)|P(AA|HAA)|RAA|SAA|T(AA|HAA|T(AA|HAA))|U|VAA|WAA|Y(AA|YAA))|MAAYYAA|O MARK|",
  "QUESTION MARK|S(ECTION MARK|IGN (ANUSVARA|CANDRABINDU|VISARGA))|V(IRAMA|OWEL SIGN (A(|A|I|U)|",
  "E(|I)|I(|I)|O(|I)|U(|U))))|M (CONSONANT SIGN (FINAL (H|M|NG)|LA|RA|WA|YA)|DIGIT (EIGHT|F(IVE|",
  "OUR)|NINE|ONE|S(EVEN|IX)|T(HREE|WO)|ZERO)|LETTER (A(|I)|B(A|BA|HA)|CH(A|HA)|D(A|DA|HA)|E|",
  "FINAL (CH|G|K|L|N(|G)|P|R|SS|T|Y)|G(A|HA)|HA|I|J(A|HA)|K(A|HA)|LA|M(A|UE)|N(A|G(A|UE)|H(A|JA|",
  "UE)|UE)|O|P(A|HA|PA)|RA|S(A|SA)|T(A|HA)|U|VA|YA)|PUNCTUATION (D(ANDA|OUBLE DANDA)|SPIRAL|",
  "TRIPLE DANDA)|VOWEL SIGN (A(A|I|U)|EI|I(|I)|O(|E)|U(|E)))|R(ACTER T(ABULATION(| (SET|",
  "WITH JUSTIFICATION))|IE)|T WITH (DOWNWARDS TREND|UPWARDS TREND(| AND YEN SIGN))))|E(CK( MARK|",
  "ER BOARD(| FILL))|E(RING MEGAPHONE|SE WEDGE)|QUERED FLAG|R(OKEE (LETTER (A|D(A|E|I|LA|O|U|V)|",
  "E|G(A|E|I|O|U|V)|H(A|E|I|NA|O|U|V)|I|KA|L(A|E|I|O|U|V)|M(A|E|I|O|U|V)|N(A(|H)|E|I|O|U|V)|O|QU(",
  "A|E|I|O|U|V)|S(|A|E|I|O|U|V)|T(A|E|I|L(A|E|I|O|U|V)|S(A|E|I|O|U|V))|U|V|W(A|E|I|O|U|V)|Y(A|E|",
  "I|O|U|V))|SMALL LETTER (A|D(A|E|I|LA|O|U|V)|E|G(A|E|I|O|U|V)|H(A|E|I|NA|O|U|V)|I|KA|L(A|E|I|O|",
  "U|V)|M(A|E|I|O|U|V)|N(A(|H)|E|I|O|U|V)|O|QU(A|E|I|O|U|V)|S(|A|E|I|O|U|V)|T(A|E|I|L(A|E|I|O|U|",
  "V)|S(A|E|I|O|U|V))|U|V|W(A|E|I|O|U|V)|Y(A|E|I|O|U|V)))|R(IES|Y BLOSSOM))|STNUT)|I( RHO|CKEN|",
  "LD(|REN CROSSING)|PMUNK|RON)|O(COLATE BAR|PSTICKS|RASMIAN (LETTER (A(LEPH|YIN)|BETH|",
  "CURLED WAW|DALETH|GIMEL|HE(|TH)|KAPH|LAMEDH|MEM|NUN|PE|RESH|S(AMEKH|HIN|MALL ALEPH)|TAW|WAW|",
  "YODH|ZAYIN)|NUMBER (FOUR|ONE(| HUNDRED)|T(EN|HREE|W(ENTY|O)))))|RISTMAS TREE|URCH)|I(NEMA|RC(",
  "LE( (DIVIDED BY HORIZONTAL BAR AND TOP HALF DIVIDED BY VERTICAL BAR|WITH (",
  "ALL BUT UPPER LEFT QUADRANT BLACK|HORIZONTAL BAR|L(EFT HALF BLACK|OWER HALF BLACK)|",
  "RIGHT HALF BLACK|S(MALL CIRCLE TO THE RIGHT|UPERIMPOSED X)|TWO HORIZONTAL STROKES TO THE ",
  "RIGHT|UPPER (HALF BLACK|RIGHT QUADRANT BLACK)|VERTICAL FILL))|D (A(NTICLOCKWISE( ARROW|",
  "-ROTATED DIVISION SIGN)|STERISK OPERATOR)|B(OLD X|ULLET)|C( WITH OVERLAID BACKSLASH|C|D|ROSS(",
  " (FORMEE(| WITH (FOUR DOTS|TWO DOTS))|POMMEE)|ING LANES))|D(ASH|I(GIT (EIGHT|F(IVE|OUR)|NINE|",
  "ONE|S(EVEN|IX)|T(HREE|WO)|ZERO)|VISION S(IGN|LASH))|O(LLAR SIGN WITH OVERLAID BACKSLASH|",
  "T OPERATOR))|EQUALS|GREATER-THAN|H(ANGUL (C(HIEUCH(| A)|IEUC(| A))|HIEUH(| A)|IEUNG(| (A|U))|",
  "K(HIEUKH(| A)|IYEOK(| A))|MIEUM(| A)|NIEUN(| A)|P(HIEUPH(| A)|IEUP(| A))|RIEUL(| A)|SIOS(| A)|",
  "T(HIEUTH(| A)|IKEUT(| A)))|EAVY WHITE RIGHTWARDS ARROW|ORIZONTAL BAR WITH NOTCH|UMAN FIGURE)|",
  "I(DEOGRAPH (A(CCEPT|DVANTAGE|LLIANCE|TTENTION)|C(ENTRE|O(NGRATULATION|PY|RRECT))|E(ARTH|IGHT|",
  "NTERPRISE|XCELLENT)|F(EMALE|I(NANCIAL|RE|VE)|OUR)|H(AVE|IGH)|ITEM|K(INDERGARTEN|OTO)|L(ABOR|",
  "EFT|OW)|M(ALE|E(DICINE|TAL)|OON)|N(AME|I(GHT|NE))|ONE|PRINT|QUESTION|R(E(LIGION|S(OURCE|T))|",
  "IGHT)|S(CHOOL|E(CRET|VEN)|IX|OCIETY|PECIAL|T(OCK|UDY)|U(ITABLE|N|PERVISE))|T(EN|HREE|WO)|W(",
  "ATER|OOD))|NFORMATION SOURCE|TALIC LATIN CAPITAL LETTER (C|R))|K(ATAKANA (A|E|H(A|E|I|O|U)|I|",
  "K(A|E|I|O|U)|M(A|E|I|O|U)|N(A|E|I|O|U)|O|R(A|E|I|O|U)|S(A|E|I|O|U)|T(A|E|I|O|U)|U|W(A|E|I|O)|",
  "Y(A|O|U))|OREAN CHARACTER (CHAMKO|JUEUI))|L(ATIN (CAPITAL LETTER (A|B|C|D|E|F|G|H|I|J|K|L|M|N|",
  "O|P|Q|R|S|T|U|V|W|X|Y|Z)|SMALL LETTER (A|B|C|D|E|F|G|H|I|J|K|L|M|N|O|P|Q|R|S|T|U|V|W|X|Y|Z))|",
  "ESS-THAN)|M(INUS|ULTIPLICATION SIGN WITH CIRCUMFLEX ACCENT)|NUMBER (E(IGHT(EEN|",
  "Y ON BLACK SQUARE)|LEVEN)|F(IFT(EEN|Y(| ON BLACK SQUARE))|O(RTY(| (EIGHT|F(IVE|OUR)|NINE|ON(",
  " BLACK SQUARE|E)|S(EVEN|IX)|T(HREE|WO)))|URTEEN))|NINETEEN|S(EVENT(EEN|Y ON BLACK SQUARE)|IXT(",
  "EEN|Y ON BLACK SQUARE))|T(EN(| ON BLACK SQUARE)|HIRT(EEN|Y(| (EIGHT|F(IVE|OUR)|NINE|ON(",
  " BLACK SQUARE|E)|S(EVEN|IX)|T(HREE|WO))))|WE(LVE|NTY(| (EIGHT|F(IVE|OUR)|NINE|ON(",
  " BLACK SQUARE|E)|S(EVEN|IX)|T(HREE|WO))))))|OPEN CENTRE EIGHT POINTED STAR|P(ARALLEL|",
  "ERPENDICULAR|LUS|OSTAL MARK)|R(EVERSE SOLIDUS|ING OPERATOR)|SQUARE|T(IMES|RIANGLE(| DOWN))|",
  "VERTICAL BAR|W(HITE (BULLET|STAR)|Z)|X|ZERO WITH SLASH))|U(LATION FUNCTION|MFLEX ACCENT|",
  "S TENT))|TYSCAPE(| AT DUSK))|JK (COMPATIBILITY IDEOGRAPH-(2F(8(0(0|1|2|3|4|5|6|7|8|9|A|B|C|D|",
  "E|F)|1(0|1|2|3|4|5|6|7|8|9|A|B|C|D|E|F)|2(0|1|2|3|4|5|6|7|8|9|A|B|C|D|E|F)|3(0|1|2|3|4|5|6|7|",
  "8|9|A|B|C|D|E|F)|4(0|1|2|3|4|5|6|7|8|9|A|B|C|D|E|F)|5(0|1|2|3|4|5|6|7|8|9|A|B|C|D|E|F)|6(0|1|",
  "2|3|4|5|6|7|8|9|A|B|C|D|E|F)|7(0|1|2|3|4|5|6|7|8|9|A|B|C|D|E|F)|8(0|1|2|3|4|5|6|7|8|9|A|B|C|D|",
  "E|F)|9(0|1|2|3|4|5|6|7|8|9|A|B|C|D|E|F)|A(0|1|2|3|4|5|6|7|8|9|A|B|C|D|E|F)|B(0|1|2|3|4|5|6|7|",
  "8|9|A|B|C|D|E|F)|C(0|1|2|3|4|5|6|7|8|9|A|B|C|D|E|F)|D(0|1|2|3|4|5|6|7|8|9|A|B|C|D|E|F)|E(0|1|",
  "2|3|4|5|6|7|8|9|A|B|C|D|E|F)|F(0|1|2|3|4|5|6|7|8|9|A|B|C|D|E|F))|9(0(0|1|2|3|4|5|6|7|8|9|A|B|",
  "C|D|E|F)|1(0|1|2|3|4|5|6|7|8|9|A|B|C|D|E|F)|2(0|1|2|3|4|5|6|7|8|9|A|B|C|D|E|F)|3(0|1|2|3|4|5|",
  "6|7|8|9|A|B|C|D|E|F)|4(0|1|2|3|4|5|6|7|8|9|A|B|C|D|E|F)|5(0|1|2|3|4|5|6|7|8|9|A|B|C|D|E|F)|6(",
  "0|1|2|3|4|5|6|7|8|9|A|B|C|D|E|F)|7(0|1|2|3|4|5|6|7|8|9|A|B|C|D|E|F)|8(0|1|2|3|4|5|6|7|8|9|A|B|",
  "C|D|E|F)|9(0|1|2|3|4|5|6|7|8|9|A|B|C|D|E|F)|A(0|1|2|3|4|5|6|7|8|9|A|B|C|D|E|F)|B(0|1|2|3|4|5|",
  "6|7|8|9|A|B|C|D|E|F)|C(0|1|2|3|4|5|6|7|8|9|A|B|C|D|E|F)|D(0|1|2|3|4|5|6|7|8|9|A|B|C|D|E|F)|E(",
  "0|1|2|3|4|5|6|7|8|9|A|B|C|D|E|F)|F(0|1|2|3|4|5|6|7|8|9|A|B|C|D|E|F))|A(0(0|1|2|3|4|5|6|7|8|9|",
  "A|B|C|D|E|F)|1(0|1|2|3|4|5|6|7|8|9|A|B|C|D)))|F(9(0(0|1|2|3|4|5|6|7|8|9|A|B|C|D|E|F)|1(0|1|2|",
  "3|4|5|6|7|8|9|A|B|C|D|E|F)|2(0|1|2|3|4|5|6|7|8|9|A|B|C|D|E|F)|3(0|1|2|3|4|5|6|7|8|9|A|B|C|D|E|",
  "F)|4(0|1|2|3|4|5|6|7|8|9|A|B|C|D|E|F)|5(0|1|2|3|4|5|6|7|8|9|A|B|C|D|E|F)|6(0|1|2|3|4|5|6|7|8|",
  "9|A|B|C|D|E|F)|7(0|1|2|3|4|5|6|7|8|9|A|B|C|D|E|F)|8(0|1|2|3|4|5|6|7|8|9|A|B|C|D|E|F)|9(0|1|2|",
  "3|4|5|6|7|8|9|A|B|C|D|E|F)|A(0|1|2|3|4|5|6|7|8|9|A|B|C|D|E|F)|B(0|1|2|3|4|5|6|7|8|9|A|B|C|D|E|",
  "F)|C(0|1|2|3|4|5|6|7|8|9|A|B|C|D|E|F)|D(0|1|2|3|4|5|6|7|8|9|A|B|C|D|E|F)|E(0|1|2|3|4|5|6|7|8|",
  "9|A|B|C|D|E|F)|F(0|1|2|3|4|5|6|7|8|9|A|B|C|D|E|F))|A(0(0|1|2|3|4|5|6|7|8|9|A|B|C|D|E|F)|1(0|1|",
  "2|3|4|5|6|7|8|9|A|B|C|D|E|F)|2(0|1|2|3|4|5|6|7|8|9|A|B|C|D|E|F)|3(0|1|2|3|4|5|6|7|8|9|A|B|C|D|",
  "E|F)|4(0|1|2|3|4|5|6|7|8|9|A|B|C|D|E|F)|5(0|1|2|3|4|5|6|7|8|9|A|B|C|D|E|F)|6(0|1|2|3|4|5|6|7|",
  "8|9|A|B|C|D)|7(0|1|2|3|4|5|6|7|8|9|A|B|C|D|E|F)|8(0|1|2|3|4|5|6|7|8|9|A|B|C|D|E|F)|9(0|1|2|3|",
  "4|5|6|7|8|9|A|B|C|D|E|F)|A(0|1|2|3|4|5|6|7|8|9|A|B|C|D|E|F)|B(0|1|2|3|4|5|6|7|8|9|A|B|C|D|E|F)",
  "|C(0|1|2|3|4|5|6|7|8|9|A|B|C|D|E|F)|D(0|1|2|3|4|5|6|7|8|9))))|RADICAL (B(AMBOO|LUE|O(",
  "LT OF CLOTH|NE|X)|RUSH (ONE|TWO))|C(-SIMPLIFIED (BIRD|CART|DRAGON|E(AT|VEN)|F(ISH|LY|ROG)|G(",
  "ATE|OLD)|HORSE|L(EAF|ONG)|S(ALT|EE|HELL|ILK|PEECH)|T(ANNED LEATHER|OOTH|URTLE)|WIND)|HOKE|I(",
  "TY|VILIAN)|L(IFF|OTHES)|OW)|D(EATH|IVINATION|OG)|E(AT (ONE|T(HREE|WO))|WE|YE)|F(IRE|OOT)|G(",
  "HOST|RASS (ONE|T(HREE|WO)))|H(AND|EA(D|RT (ONE|TWO))|ORN)|J(-SIMPLIFIED (DRAGON|EVEN|T(OOTH|",
  "URTLE))|ADE)|KNIFE (ONE|TWO)|L(AME (FOUR|ONE|T(HREE|WO))|ONG (ONE|TWO))|M(E(AT|SH)|O(ON|RTAR|",
  "THER|UND (ONE|TWO)))|NET (FOUR|ONE|T(HREE|WO))|OLD|P(AW (ONE|TWO)|ERSON)|R(A(IN|M|P)|EPEAT)|S(",
  "E(AL|COND (ONE|T(HREE|WO)))|HEEP|I(LK|MPLIFIED (H(ALF TREE TRUNK|ORN)|W(ALK|HEAT)|YELLOW))|",
  "MALL (ONE|TWO)|N(AKE|OUT (ONE|TWO))|PIRIT (ONE|TWO)|UN)|T(ABLE|HREAD|IGER|URTLE)|W(A(LK (ONE|",
  "TWO)|TER (ONE|TWO))|EST (ONE|TWO)))|STROKE (BXG|D|H(|G|P(|WG)|XWG|Z(|G|T|W(|G)|Z(|P|Z(|G))))|",
  "N|P(|D|G|Z)|Q|S(|G|P|T|W(|G|Z)|Z(|WG|Z))|T(|N)|WG|XG))|L(A(MSHELL MOBILE PHONE|PP(ER BOARD|",
  "ING HANDS SIGN)|SSICAL BUILDING)|EAR SCREEN SYMBOL|I(NKING (BEER MUGS|GLASSES)|PBOARD)|O(CK(",
  " FACE (E(IGHT( OCLOCK|-THIRTY)|LEVEN( OCLOCK|-THIRTY))|F(IVE( OCLOCK|-THIRTY)|OUR( OCLOCK|",
  "-THIRTY))|NINE( OCLOCK|-THIRTY)|ONE( OCLOCK|-THIRTY)|S(EVEN( OCLOCK|-THIRTY)|IX( OCLOCK|",
  "-THIRTY))|T(EN( OCLOCK|-THIRTY)|HREE( OCLOCK|-THIRTY)|W(ELVE( OCLOCK|-THIRTY)|O( OCLOCK|",
  "-THIRTY))))|WISE (C(LOSED CIRCLE ARROW|ONTOUR INTEGRAL)|DOWNWARDS AND UPWARDS OPEN CIRCLE ",
  "ARROWS|GAPPED CIRCLE ARROW|INTEGRAL|OPEN CIRCLE ARROW|RIGHT( AND LEFT SEMICIRCLE ARROWS|",
  "WARDS AND LEFTWARDS OPEN CIRCLE ARROWS(| WITH CIRCLED ONE OVERLAY))|T(OP SEMICIRCLE ARROW|",
  "RIANGLE-HEADED OPEN CIRCLE ARROW)))|SE( UP|D (BOOK|INTERSECTION WITH SERIFS|LOCK WITH KEY|",
  "MAILBOX WITH (LOWERED FLAG|RAISED FLAG)|SU(BSET(| OR EQUAL TO)|PERSET(| OR EQUAL TO))|U(",
  "MBRELLA|NION WITH SERIFS(| AND SMASH PRODUCT))))|UD(| WITH (LIGHTNING|RAIN|SNOW|TORNADO))|",
  "WN FACE))|O(AT|C(K(ROACH|TAIL GLASS)|ONUT)|FFIN|IN|L(LISION SYMBOL|ON(| (EQUALS|SIGN)))|M(",
  "BINING (A(CUTE( (ACCENT(| BELOW)|TONE MARK)|-(GRAVE-ACUTE|MACRON))|LMOST EQUAL TO (ABOVE|",
  "BELOW)|N(NUITY SYMBOL|TICLOCKWISE (ARROW ABOVE|RING OVERLAY))|STERISK (ABOVE|BELOW))|B(",
  "INDU BELOW|R(EVE(| BELOW|-MACRON)|IDGE (ABOVE|BELOW)))|C(A(NDRABINDU|RON(| BELOW))|EDILLA|",
  "IRCUMFLEX ACCENT(| BELOW)|LOCKWISE (ARROW ABOVE|RING OVERLAY)|O(MMA (ABOVE(| RIGHT)|BELOW)|",
  "NJOINING MACRON(| BELOW))|YRILLIC (DASIA PNEUMATA|HUNDRED (MILLIONS SIGN|THOUSANDS SIGN)|",
  "KAVYKA|LETTER (A|B(E|IG YUS)|CHE|D(E|JERV)|E(F|L|M|N|R|S(|-TE))|FITA|GHE|HA(|RD SIGN)|I(|E|",
  "OTIFIED (A|BIG YUS|E))|KA|LITTLE YUS|MONOGRAPH UK|O(|MEGA)|PE|S(H(A|CHA)|OFT SIGN)|T(E|SE)|U(|",
  "KRAINIAN IE)|VE|Y(AT|ERU|I|U)|Z(E|HE))|MILLIONS SIGN|P(A(LATALIZATION|YEROK)|OKRYTIE|",
  "SILI PNEUMATA)|T(EN MILLIONS SIGN|HOUSAND MILLIONS SIGN|ITLO(| (LEFT HALF|RIGHT HALF)))|VZMET)",
  ")|D(E(LETION MARK|VANAGARI (DIGIT (EIGHT|F(IVE|OUR)|NINE|ONE|S(EVEN|IX)|T(HREE|WO)|ZERO)|",
  "LETTER (A|KA|NA|PA|RA|U|VI)|SIGN AVAGRAHA))|IAERESIS(| BELOW|-RING)|O(T( (ABOVE(| (LEFT|RIGHT)",
  ")|BELOW(| LEFT))|TED (ACUTE ACCENT|GRAVE ACCENT))|UBLE( (ACUTE ACCENT|BREVE(| BELOW)|",
  "CIRCUMFLEX ABOVE|GRAVE ACCENT|INVERTED BREVE(| BELOW)|LOW LINE|MACRON(| BELOW)|O(",
  "PEN MARK BELOW|VERLINE)|P(ARENTHESES ABOVE|LUS SIGN (ABOVE|BELOW))|RI(GHTWARDS ARROW BELOW|",
  "NG BELOW)|TILDE(| (LEFT HALF|RIGHT HALF))|VERTICAL (LINE (ABOVE|BELOW)|STROKE OVERLAY))|",
  "D CIRCUMFLEX ACCENT)|WN( TACK BELOW|WARDS ARROW)))|E(NCLOSING (CIRCLE(| BACKSLASH)|DIAMOND|",
  "KEYCAP|S(CREEN|QUARE)|UPWARD POINTING TRIANGLE)|QUALS SIGN BELOW)|F(ERMATA|OUR DOTS ABOVE)|G(",
  "LAGOLITIC LETTER (AZU|B(IG YUS|UKY)|CHRIVI|D(JERVI|OBRO)|F(ITA|RITU)|GLAGOLI|HERU|I(|",
  "NITIAL IZHE|OTATED (BIG YUS|SMALL YUS)|ZHE)|KAKO|LJUDIJE|MYSLITE|NASHI|ONU|POKOJI|RITSI|S(H(A|",
  "TA)|LOVO|MALL YUS)|T(SI|VRIDO)|UKU|VEDE|Y(ATI|E(R(I|U)|STU)|O|U)|Z(EMLJA|HIVETE))|R(A(NTHA (",
  "DIGIT (F(IVE|OUR)|ONE|SIX|T(HREE|WO)|ZERO)|LETTER (A|KA|NA|PA|VI))|PHEME JOINER|VE( (ACCENT(|",
  " BELOW)|TONE MARK)|-(ACUTE-GRAVE|MACRON)))|EEK (DIALYTIKA TONOS|KORONIS|MUSICAL (PENTASEME|T(",
  "ETRASEME|RISEME))|PERISPOMENI|YPOGEGRAMMENI)))|HO(MOTHETIC ABOVE|OK ABOVE|RN)|I(N(FINITY|",
  "VERTED (BR(EVE(| BELOW)|IDGE BELOW)|DOUBLE ARCH (ABOVE|BELOW)))|S BELOW)|KA(TAKANA-HIRAGANA (",
  "SEMI-VOICED SOUND MARK|VOICED SOUND MARK)|VYKA ABOVE (LEFT|RIGHT))|L(ATIN (",
  "LETTER SMALL CAPITAL (G|L|M|N|R)|SMALL LETTER (A(| WITH DIAERESIS|E|LPHA|O|V)|B(|ETA)|C(|",
  " CEDILLA)|D|E(|SH|TH)|F(|LATTENED OPEN A ABOVE)|G|H|I(|NSULAR (D|G|R|T))|K|L(|",
  " WITH DOUBLE MIDDLE TILDE|ONG S)|M|N|O(| WITH (DIAERESIS|LIGHT CENTRALIZATION STROKE))|P|R(| (",
  "BELOW|ROTUNDA))|S(|CHWA)|T(|URNED W BELOW)|U(| WITH (DIAERESIS|LIGHT CENTRALIZATION STROKE))|",
  "V|W(| BELOW)|X|Z))|EFT( (A(NGLE (ABOVE|BELOW)|RROW( (ABOVE|BELOW)|HEAD (ABOVE|BELOW)))|HA(",
  "LF RING (ABOVE|BELOW)|RPOON ABOVE)|PARENTHESIS (ABOVE LEFT|BELOW LEFT)|RIGHT ARROW (ABOVE|",
  "BELOW)|TACK BELOW)|WARDS (ARROW OVERLAY|HARPOON WITH BARB DOWNWARDS))|IG(ATURE (LEFT HALF(|",
  " BELOW)|RIGHT HALF(| BELOW))|HT CENTRALIZATION STROKE BELOW)|O(NG (DOUBLE SOLIDUS OVERLAY|S(",
  "OLIDUS OVERLAY|TROKE OVERLAY)|VERTICAL LINE OVERLAY)|W LINE))|M(ACRON(| (BELOW|LEFT HALF(|",
  " BELOW)|RIGHT HALF(| BELOW))|-(ACUTE|BREVE|GRAVE))|INUS SIGN BELOW)|N(OT TILDE ABOVE|",
  "UMBER SIGN ABOVE)|O(GONEK(| ABOVE)|LD PERMIC LETTER (AN|DOI|NENOE|SII|ZATA)|PEN MARK BELOW|",
  "VERLINE)|P(A(LATALIZED HOOK BELOW|RENTHESES (ABOVE|BELOW|OVERLAY))|LUS SIGN (ABOVE|BELOW))|R(",
  "E(TROFLEX HOOK BELOW|VERSE( SOLIDUS OVERLAY|D COMMA ABOVE))|I(GHT( (ARROW( (ABOVE|BELOW)|",
  "HEAD (A(BOVE|ND (DOWN ARROWHEAD BELOW|UP ARROWHEAD BELOW))|BELOW))|HA(LF RING (ABOVE|BELOW)|",
  "RPOON ABOVE)|PARENTHESIS (ABOVE RIGHT|BELOW RIGHT)|TACK BELOW)|",
  "WARDS HARPOON WITH BARB DOWNWARDS)|NG (ABOVE|BELOW|OVERLAY)))|S(EAGULL BELOW|HORT (S(",
  "OLIDUS OVERLAY|TROKE OVERLAY)|VERTICAL LINE OVERLAY)|NAKE BELOW|QUARE B(ELOW|RACKETS ABOVE)|",
  "TRONG CENTRALIZATION STROKE BELOW|USPENSION MARK)|T(HREE DOTS ABOVE|ILDE(| (BELOW|",
  "LEFT HALF BELOW|OVERLAY|RIGHT HALF BELOW))|RIPLE (ACUTE ACCENT|DOT|UNDERDOT)|",
  "URNED COMMA ABOVE)|U(P( TACK (ABOVE|BELOW)|WARDS ARROW BELOW)|R ABOVE|S ABOVE)|VERTICAL (",
  "LINE (ABOVE|BELOW)|TILDE)|WI(DE (BRIDGE ABOVE|INVERTED BRIDGE BELOW)|GGLY LINE BELOW)|X( (",
  "ABOVE|BELOW)|-X BELOW)|ZIGZAG (ABOVE|BELOW))|ET|M(A|ERCIAL (AT|MINUS SIGN))|P(ASS|LEMENT|",
  "OSITION SYMBOL|RESSION))|N(F(ETTI BALL|OUNDED FACE|USED FACE)|GRUENT WITH DOT ABOVE|",
  "ICAL TAPER|JUNCTION|STRUCTION (SIGN|WORKER)|T(AINS (AS (MEMBER|NORMAL SUBGROUP(| OR EQUAL TO))",
  "|WITH (LONG HORIZONTAL STROKE|OVERBAR|VERTICAL BAR AT END OF HORIZONTAL STROKE))|",
  "INUOUS UNDERLINE SYMBOL|OUR INTEGRAL|ROL (KNOBS|SEQUENCE INTRODUCER))|VENIENCE STORE)|OK(",
  "ED RICE|I(E|NG))|P(TIC (C(APITAL LETTER (A(KHMIMIC KHEI|LFA)|BOHAIRIC KHEI|CR(OSSED SHEI|",
  "YPTOGRAMMIC (EIE|GANGIA|NI|SHEI))|D(ALDA|EI|IALECT-P (ALEF|HORI|KAPA|NI))|EIE|F(EI|I)|GA(MMA|",
  "NGIA)|H(ATE|ORI)|IAUDA|K(APA|H(EI|I)|SI)|L(-SHAPED HA|AULA)|MI|NI|O(|LD (COPTIC (AIN|DJA|ESH|",
  "GANGIA|H(A(|T)|EI|ORI)|OOU|SH(EI|IMA))|NUBIAN (N(GI|YI)|SHIMA|WAU))|OU)|P(I|SI)|RO|S(AMPI|H(",
  "EI|IMA)|IMA|OU)|T(AU|HETHE)|UA|VIDA|ZATA)|OMBINING (NI ABOVE|SPIRITUS (ASPER|LENIS)))|EPACT (",
  "DIGIT (EIGHT|F(IVE|OUR)|NINE|ONE|S(EVEN|IX)|T(HREE|WO))|NUMBER (EIGHT( HUNDRED|Y)|F(I(FTY|",
  "VE HUNDRED)|O(RTY|UR HUNDRED))|NINE( HUNDRED|TY)|ONE HUNDRED|S(EVEN( HUNDRED|TY)|IX( HUNDRED|",
  "TY))|T(EN|H(IRTY|REE HUNDRED)|W(ENTY|O HUNDRED)))|THOUSANDS MARK)|F(RACTION ONE HALF|ULL STOP)",
  "|MORPHOLOGICAL DIVIDER|OLD NUBIAN (DIRECT QUESTION MARK|FULL STOP|INDIRECT QUESTION MARK|",
  "VERSE DIVIDER)|S(MALL LETTER (A(KHMIMIC KHEI|LFA)|BOHAIRIC KHEI|CR(OSSED SHEI|YPTOGRAMMIC (",
  "EIE|GANGIA|NI|SHEI))|D(ALDA|EI|IALECT-P (ALEF|HORI|KAPA|NI))|EIE|F(EI|I)|GA(MMA|NGIA)|H(ATE|",
  "ORI)|IAUDA|K(APA|H(EI|I)|SI)|L(-SHAPED HA|AULA)|MI|NI|O(|LD (COPTIC (AIN|DJA|ESH|GANGIA|H(A(|",
  "T)|EI|ORI)|OOU|SH(EI|IMA))|NUBIAN (N(GI|YI)|SHIMA|WAU))|OU)|P(I|SI)|RO|S(AMPI|H(EI|IMA)|IMA|",
  "OU)|T(AU|HETHE)|UA|VIDA|ZATA)|YMBOL (K(AI|HI RO)|MI RO|PI RO|S(HIMA SIMA|TAUROS)|TAU RO)))|Y(",
  "LEFT SYMBOL|RIGHT SIGN))|R(AL|NISH VERSE DIVIDER|RESPONDS TO)|U(CH AND LAMP|NT(ER(BORE|SINK)|",
  "ING ROD (TENS DIGIT (EIGHT|F(IVE|OUR)|NINE|ONE|S(EVEN|IX)|T(HREE|WO))|UNIT DIGIT (EIGHT|F(IVE|",
  "OUR)|NINE|ONE|S(EVEN|IX)|T(HREE|WO))))|PLE WITH HEART)|W(| FACE))|R(|AB|E(DIT CARD|SCENT MOON)",
  "|ICKET(| BAT AND BALL)|O(CODILE|ISSANT|SS( (MARK|OF (JERUSALEM|LORRAINE)|P(ATTY WITH (",
  "LEFT CROSSBAR|RIGHT CROSSBAR)|OMMEE(| WITH HALF-CIRCLE BELOW)))|ED (FLAGS|",
  "NEGATIVE SQUARED LATIN CAPITAL LETTER P|SWORDS)|ING LANES)|WN)|U(TCH|ZEIRO SIGN)|Y(ING (",
  "CAT FACE|FACE)|STAL BALL))|SI|U(BE ROOT|CUMBER|NEIFORM (NUMERIC SIGN (E(IGHT (ASH|DISH|GESH2|",
  "SHAR2|U(| VARIANT FORM)|VARIANT FORM USSU(|3))|LAMITE (F(IFTY|ORTY)|ONE THIRD|TWO THIRDS))|F(",
  "IVE (ASH(| TENU)|B(AN2(| VARIANT FORM)|URU)|DISH|GESH(2|U)|S(HAR(2|U)|IXTHS DISH)|U(|",
  " VARIANT FORM))|OUR (ASH(| TENU)|B(AN2(| VARIANT FORM)|URU)|DISH|GESH(2|U)|SHAR(2|U)|U(|",
  " VARIANT FORM)|VARIANT FORM LIMMU(| (A|B)|4)))|NI(GIDA(ESH|MIN)|NE (ASH|DISH|GESH2|SHAR2|U(|",
  " VARIANT FORM)|VARIANT FORM ILIMMU(| A|3|4)))|O(LD ASSYRIAN ONE (QUARTER|SIXTH)|NE (B(AN2|URU)",
  "|E(IGHTH ASH|SHE3)|GESH(2|U)|HALF GUR|QUARTER (ASH|GUR)|SHARU|THIRD (DISH|VARIANT FORM A)))|S(",
  "EVEN (ASH|DISH|GESH2|SHAR2|U(| VARIANT FORM)|VARIANT FORM IMIN( (A|B)|3))|",
  "HAR2 TIMES GAL PLUS (DISH|MIN)|IX (ASH(| TENU)|DISH|GESH2|SHAR2|U(| VARIANT FORM)|",
  "VARIANT FORM ASH9))|T(HREE (ASH(| TENU)|B(AN2|URU(| VARIANT FORM))|DISH|GESH(2|U)|SHAR(2(|",
  " VARIANT FORM)|U(| VARIANT FORM))|VARIANT FORM ESH(16|21))|WO (ASH(| TENU)|B(AN2|URU)|ESHE3|",
  "GESH(2|U)|SHAR(2|U)|THIRDS (DISH|VARIANT FORM A))))|PUNCTUATION SIGN (DIAGONAL (COLON|",
  "QUADCOLON|TRICOLON)|OLD ASSYRIAN WORD DIVIDER|VERTICAL COLON)|SIGN (A(| TIMES (A|BAD|",
  "GAN2 TENU|HA|IGI|LAGAR GUNU|MUSH|SAG)|2|B(| (GUNU|TIMES (ASH2|DUN3 GUNU|GA(L|N2 TENU)|HA|I(",
  "GI GUNU|MIN)|LAGAB|NUN(| TENU)|SH(ESH|U2)|U PLUS U PLUS U))|2(| TIMES (A|BALAG|GAN2 TENU|",
  "ME PLUS EN|SHA3|TAK4)))|D(| TIMES ESH2)|K(| TIMES (ERIN2|SHITA PLUS GISH))|L(| TIMES (AL|DIM2|",
  "GISH|HA|K(AD3|I)|SHE|USH)|AN|EPH)|MAR(| TIMES (KUG|SHE))|N(| (OVER AN|PLUS NAGA (",
  "OPPOSING AN PLUS NAGA|SQUARED)|THREE TIMES)|SHE)|PIN|R(AD(| TIMES KUR)|KAB)|S(AL2|H(| (",
  "KABA TENU|OVER ASH (OVER ASH(| CROSSING ASH OVER ASH OVER ASH)|",
  "TUG2 OVER TUG2 TUG2 OVER TUG2 PAP)|ZIDA TENU)|2|GAB)))|B(A(|D(| TIMES DISH TENU)|G3|HAR2(|",
  " TIMES (AB2|NI|ZA))|L(| OVER BAL|AG)|R(|A2))|I(| TIMES (A|GAR|IGI GUNU))|U(| (CROSSING BU|",
  "OVER BU (AB|TIMES NA2|UN))|LUG(| OVER BULUG)|R(|2)))|D(A(| TIMES TAK4|G(| (KISIM5 TIMES (A(",
  " PLUS MASH|MAR)|B(ALAG|I)|G(A(| PLUS MASH)|I(|R2)|UD)|HA|IR(| PLUS LU)|KAK|L(A|U(| PLUS MASH2|",
  "M))|NE|PAP PLUS PAP|SI|TAK4|U(2 PLUS (GIR2|MASH)|SH))|TIMES KUR)|3)|M|R(|A(3|4)))|I(|B|M(|",
  " TIMES (IGI|SHE|U U U)|2(| TIMES UD))|N(| KASKAL U GUNU DISH)|SH(| PLUS SHU))|U(| (GUNU|",
  "OVER DU|SHESHIG)|B(| TIMES (ESH2|SHE)|2)|G(| TIMES (A(NSHE|SH(| AT LEFT))|D(IN|UN)|ERIN2|G(A|",
  "I(|R2 GUNU|SH))|H(A|I)|IGI GUNU|K(ASKAL|U(R|SHU2(| PLUS KASKAL)))|L(A(K-020|M(| TIMES KUR))|",
  "UH PLUS GISH)|M(ASH|ES|I)|NI|PI|S(HE|I GUNU))|UD)|H|N(|3(| GUNU(| GUNU))|4)|R2))|E(| (",
  "OVER E NUN OVER NUN|TIMES PAP)|2(| TIMES (A PLUS HA PLUS DA|GAR|KUR|MI|PAP|S(AL|HE)|U))|DIN|",
  "GIR|L|N(| (CROSSING EN|OPPOSING EN|SQUARED|TIMES (GAN2(| TENU)|ME)))|R(EN|IN2(| X))|SH2(|",
  " CROSSING ESH2)|ZEN(| (SHESHIG TIMES (ASH|HI|IGI GUNU|LA(|L)|ME(|S)|SU)|TIMES (A(| PLUS LAL(|",
  " TIMES LAL)|N)|BAD|DUN3 GUNU(| GUNU)|GUD|HA(| GUNU)|IGI GUNU|K(ASKAL(| SQUARED)|U3)|L(A(|",
  "L TIMES LAL)|I|U)|S(HE|U)|U(2|D)))))|G(A(| GUNU|2(| (OVER GA2|TIMES (A( PLUS (DA PLUS HA|HA|",
  "IGI)|B2 TENU PLUS TAB|N(| PLUS KAK PLUS A)|SH(|2(| PLUS GAL)))|B(A(D|HAR2|R PLUS RA)|UR(|",
  " PLUS RA))|D(A|I(|M (GUNU|TIMES SHE))|U(B|G TIMES (IGI GUNU|KASKAL)))|E(L(| PLUS LA)|N(|",
  " TIMES GAN2 TENU)|REN)|G(A(|N2 TENU|R(| PLUS (DI|NE)))|I(|4(| PLUS A)|R2 PLUS SU))|H(A( PLUS (",
  "A|LU PLUS ESH2)|L(| PLUS LA))|I PLUS LI|UB2)|I(GI GUNU|SH PLUS HU PLUS ASH)|K(A(K|SKAL)|ID(|",
  " PLUS LAL)|U(3 PLUS AN|SHU2 PLUS KASKAL))|L(A(|M(| TIMES KUR))|UH)|M(E PLUS EN|I|USH)|N(E(|",
  " PLUS (E2|GI))|UN(| OVER NUN))|PA|S(A(L|R)|H(E(| PLUS TUR)|I(D|M))|UM)|TAK4|U(|D(| PLUS DU))|",
  "ZIZ2)))|BA(| (CROSSING GABA|ROTATED NINETY DEGREES))|D(| OVER GAD GAR OVER GAR)|L(|",
  " GAD OVER GAD GAR OVER GAR|AM)|M|N(|2(| (CROSSING GAN2|OVER GAN2|TENU)))|R(|3)|SHAN)|E(22|",
  "SHTIN(| TIMES (KUR|U)))|I(| (CROSSING GI|TIMES (E|U))|4(| (CROSSING GI4|OVER GI4))|DIM|G|R(2(|",
  " GUNU)|3(| TIMES (A PLUS IGI|GAN2 TENU|IGI|LU PLUS IGI|PA)))|S(AL|H(| (CROSSING GISH|T(ENU|",
  "IMES (BAD|GISH CROSSING GISH|TAK4))))))|U(| CROSSING GU|2(| (GUNU|TIMES (IGI GUNU|KAK(|",
  " TIMES IGI GUNU)|NUN|SAL PLUS TUG2)))|D(| (OVER GUD LUGAL|PLUS GISH TIMES TAK4|TIMES (",
  "A PLUS KUR|KUR)))|L|M(| TIMES SHE)|R(|7|U(N|SH))))|H(A(| (GUNU|TENU(| GUNU))|L)|I(| TIMES (",
  "ASH(| OVER HI TIMES ASH|2)|BAD|DISH|GAD|KIN|NUN|SHE|U))|U(|B2(| TIMES (AN|HAL|KASKAL|LISH|UD))",
  "|L2|SH))|I(| A|B|DIM(| OVER IDIM (BUR|SQUARED))|G(|I(| (DIB|GUNU|",
  "OVER IGI SHIR OVER SHIR UD OVER UD|RI)))|L(| TIMES GAN2 TENU|2)|M(| (CROSSING IM|OPPOSING IM|",
  "SQUARED|TIMES TAK4)|IN)|N|R|SH)|K(A(| TIMES (A(|D(| PLUS KU3)|NSHE|SH(2|3))|B(A(D|LAG|R)|I|U)|",
  "E(RIN2|SH2)|G(A(|L|N2 TENU|R(| PLUS SHA3 PLUS A))|I(|R2|SH(| (CROSSING GISH|PLUS SAR)))|U(|D|",
  "R7))|HI TIMES ASH2|I(GI|M)|K(A(|K)|I(|D))|L(I|U(|M))|M(E(| PLUS (DU|GI|TE))|I(| PLUS NUNUZ))|",
  "N(E|UN)|P(A|I)|RU|S(A(|R)|H(A|E|ID|U(|L))|IG|UHUR)|T(AR|U)|U(| U U|2|D|MUM TIMES PA|R(|2)|SH)|",
  "ZI)|2(| CROSSING KA2)|B|D(2|3|4|5(| OVER KAD5))|K(| TIMES IGI GUNU)|L(| (CROSSING KAL|",
  "TIMES BAD))|M(2|4)|P ELAMITE|SKAL(| (LAGAB TIMES U OVER LAGAB TIMES U|",
  "OVER KASKAL LAGAB TIMES U OVER LAGAB TIMES U)))|ESH2|I(| TIMES (BAD|U(|D))|D|N|S(AL|H|IM5(|",
  " OVER KISIM5)))|U(| OVER HI TIMES ASH2 KU OVER HI TIMES ASH2|3|4(| VARIANT FORM)|7|L(| GUNU)|",
  "N|R(| OPPOSING KUR)|SHU2)|WU318)|L(A(|GA(B(| (SQUARED|TIMES (A(| PLUS (DA PLUS HA|GAR|LAL)|L|",
  "N|SH ZIDA TENU)|B(AD|I)|DAR|EN|G(A(|R)|I|UD(| PLUS GUD))|H(A(|L)|I TIMES NUN)|I(GI GUNU|M(|",
  " PLUS (HA|LU)))|K(I(|N)|U(3|L(| PLUS HI PLUS A)))|L(AGAB|ISH|U(|L))|M(E(| PLUS EN)|USH)|NE|S(",
  "H(E PLUS SUM|ITA PLUS GISH (PLUS ERIN2|TENU)|U2(| PLUS SHU2))|UM)|T(A(G|K4)|",
  "E PLUS A PLUS SU PLUS NA)|U(| PLUS (A|U PLUS U)|2 PLUS ASH|D|SH)|ZU OVER ZU)))|R(| (GUNU(|",
  " OVER LAGAR GUNU SHE)|TIMES SHE(| PLUS SUM))))|HSHU|K-(0(03|2(1|5)|30|5(0|1)|62|",
  "79 OVER LAK-079 GUNU|8(0|1 OVER LAK-081)|92)|1(30|42)|2(1(0|9)|2(0|5|8)|38|6(5|6))|3(4(3|7|8)|",
  "8(3|4)|90)|4(4(1|9(| TIMES (GU|IGI|PAP PLUS (LU3|PAP PLUS LU3)|U2 PLUS BA)))|5(0|7)|70|83|9(0|",
  "2|3|5))|550|6(08|17(| TIMES (ASH|BAD|DUN3 GUNU GUNU|KU3|LA|T(AR|E)|U(2|D|RUDA)))|36|48(|",
  " TIMES (DUB|GA|IGI(| GUNU)|NI|PAP PLUS PAP PLUS LU3|SHESH PLUS KI|U(D|RUDA))))|7(24|49))|L(|",
  " TIMES LAL)|M(| TIMES KUR(| PLUS RU)))|I(|L|MMU2|SH)|U(| TIMES BAD|2(| (CROSSING LU2|",
  "GUNU TIMES ASH|OPPOSING LU2|S(HESHIG(| TIMES BAD)|QUARED)|T(ENU|IMES (AL|BAD|DISH|ESH2(| (",
  "PLUS LAL|TENU))|GAN2 TENU|H(AL|I TIMES BAD)|IM|K(AD(2|3(| PLUS ASH))|I)|LA( PLUS ASH|GAB)|",
  "ME PLUS EN|N(E|U)|PAP(| PLUS PAP PLUS LU3)|S(HU|I( PLUS ASH|K2 PLUS BU))|T(AK4|UG2)))))|3|GAL(",
  "| (O(PPOSING LUGAL|VER LUGAL)|SHESHIG))|H|L|M(| OVER LUM(| GAR OVER GAR))))|M(A(| (GUNU|",
  "TIMES TAK4)|2|H|R|SH(|2))|E(|S(|H))|I(| PLUS ZA7|N)|U(| OVER MU|G(| GUNU)|NSUB|RGU2|SH(| (",
  "CROSSING MUSH|OVER MUSH(| TIMES (A PLUS NA|GA|KAK))|TIMES (A|KUR|ZA))|3(| (GUNU|TIMES (A(|",
  " PLUS DI)|DI|ZA))))))|N(A(|2|4|GA(| (INVERTED|OPPOSING NAGA|TIMES SHU TENU)|R)|M(| NUTILLU|2))",
  "|E(| (SHESHIG|TIMES (A|UD)))|I(| TIMES E|2|M(| TIMES GA(N2 TENU|R PLUS GAN2 TENU))|N(|9|DA2(|",
  " TIMES (A(N|SH(| PLUS ASH))|BAL|DIM GUNU|G(I(|SH)|U(D|L))|HI|KESH2|LAK-050|M(ASH|",
  "E PLUS GAN2 TENU)|N(E|UN)|PAP PLUS PAP|SHE(| PLUS A( AN|SH(| PLUS ASH)))|U(| PLUS U|",
  "2 PLUS ASH|RUDA|SH))))|SAG)|U(|11(| (OVER NU11 BUR OVER BUR|ROTATED NINETY DEGREES|TENU))|N(|",
  " (CROSSING NUN(| LAGAR OVER LAGAR)|LAGAR TIMES (GAR|MASH|SAL(| OVER NUN LAGAR TIMES SAL)|USH)|",
  "OVER NUN|TENU)|UZ(| (AB2 TIMES (ASHGAB|BI|DUG|GUD|IGI GUNU|KAD3|LA|NE|SILA3|U2)|",
  "KISIM5 TIMES BI(| U))))))|P(A(|D|N|P)|ESH2(| ASTERISK)|I(| (CROSSING PI|TIMES (A(|B)|B(I|U)|E|",
  "I(|B)|U(|2)))|R(2|IG(| (OPPOSING PIRIG|TIMES (KAL|UD|ZA))))))|R(A(|B)|I|U)|S(A(|G(| (GUNU(|",
  " TIMES HA)|NUTILLU|OVER SAG|TIMES (A|DU(|B)|EN|HA|IGI GUNU|K(AK|UR)|LUM|MI|NUN|S(AL|H(",
  "E AT LEFT|ID))|TA(B|K4)|U(2|B|M|R|SH))))|L(| LAGAB TIMES ASH2)|NGA2|R)|H(A(|3(| TIMES (A|BAD|",
  "GISH|NE|SHU2|TUR|U(| PLUS A)))|6(| TENU)|B6|R2)|E(| (HU|OVER SHE(| (GAD OVER GAD GAR OVER GAR|",
  "TAB OVER TAB GAR OVER GAR))|PLUS (HUB2|NAM2|SAR))|G9|N|SH(|2|LAM))|I(D(| TIMES (A|IM))|M(|",
  " TIMES (A|B(AL|ULUG)|DIN|GAR|IGI(| GUNU)|KUSHU2|LUL|MUG|SAL))|NIG|R(| (OVER SHIR BUR OVER BUR|",
  "TENU))|TA)|U(| OVER INVERTED SHU|2(| PLUS (DUG TIMES NI|E2 TIMES AN))|BUR))|I(| (GUNU|",
  "TIMES TAK4)|G(|4(| OVER SIG4 SHU2))|K2|LA3)|U(| OVER SU|D(|2)|HUR|M(|ASH)|R(|9)))|T(A(| (",
  "ASTERISK|GUNU|TIMES (HI|MI))|B(| (OVER TAB NI OVER NI DISH OVER DISH|SQUARED))|G(| TIMES (BI|",
  "GUD|SH(E|U)|TUG2|UD))|K4(| PLUS SAG)|R)|E(| GUNU)|I(| TENU|2|L|R(| (OVER TIR(|",
  " GAD OVER GAD GAR OVER GAR)|TIMES TAK4)))|U(|G2|K|M(| TIMES (GAN2 TENU|THREE DISH))|R(|",
  " OVER TUR ZA OVER ZA)))|U(| (GUD|OVER U (PA OVER PA GAR OVER GAR|SUR OVER SUR|",
  "U REVERSED OVER U REVERSED)|U(| U))|2|B|D(| (GUNU|KUSHU2|SHESHIG(| TIMES BAD)|TIMES (BAD|MI|",
  "U PLUS U PLUS U(| GUNU)))|UG)|M(| TIMES (LAGAB|ME(| PLUS DA)|SHA3|U)|BIN|UM(| TIMES (KASKAL|",
  "PA)))|N(| GUNU)|R(| (CROSSING UR|SHESHIG)|2(| (INVERTED|TIMES (A( PLUS (HA|NA)|L)|HA|NUN|U(2(|",
  " PLUS (ASH|BI))|D))))|4|I(|3)|U(| TIMES (A(|SHGAB)|BAR|D(ARA3|UN)|G(A(|L|N2 TENU|R)|U)|HA|I(",
  "GI|M|SH)|KI|L(AK-668|U(3|M))|MIN|PA|S(HE|IG4)|TU|U( PLUS GUD|D|RUDA))|DA(| TIMES U)))|SH(|",
  " TIMES (A|KU(|R)|TAK4)|2|UMX|X)|TUKI|Z(3(| TIMES KASKAL)|U))|Z(A(| (SQUARED TIMES KUR|TENU)|7|",
  "G|MX)|E2|I(| OVER ZI|3|B(| KABA TENU)|G|Z2)|U(| OVER ZU PLUS SAR|5(| TIMES (A|THREE DISH TENU)",
  ")|BUR|M))))|P( (ON BLACK SQUARE|WITH STRAW)|CAKE|IDO)|R(L(ING STONE|Y (BRACKET EXTENSION|LO(",
  "GICAL (AND|OR)|OP)))|R(ENCY (EXCHANGE|SIGN)|Y AND RICE)|VED STEM PARAGRAPH SIGN ORNAMENT)|ST(",
  "ARD|OMS)|T OF MEAT)|Y(CLONE|LINDRICITY|PR(IOT SYLLABLE (A|E|I|J(A|O)|K(A|E|I|O|U)|L(A|E|I|O|U)",
  "|M(A|E|I|O|U)|N(A|E|I|O|U)|O|P(A|E|I|O|U)|R(A|E|I|O|U)|S(A|E|I|O|U)|T(A|E|I|O|U)|U|W(A|E|I|O)|",
  "X(A|E)|Z(A|O))|O-MINOAN SIGN CM(0(0(1|2|4|5|6|7|8|9)|1(0|1|2(|B)|3|5|7|9)|2(1|3|4|5|6|7|8|9)|",
  "3(0|3|4|5|6|7|8|9)|4(0|1|4|6|7|9)|5(0|1|2|3|4|5|6|8|9)|6(0|1|2|3|4|6|7|8|9)|7(0|1|2|3|4|5(|B)|",
  "6|8|9)|8(0|1|2|3|4|5|6|7|8|9)|9(0|1|2|4|5|6|7|8|9))|1(0(0|1|2|3|4|5|7|8|9)|1(0|2|4))|30(1|2)))",
  "|RILLIC (CAPITAL L(ETTER (A(| WITH (BREVE|DIAERESIS)|BKHASIAN (CHE(| WITH DESCENDER)|DZE|HA)|",
  "LEUT KA)|B(A(RRED O(| WITH DIAERESIS)|SHKIR KA)|E|I(G YUS|NOCULAR O)|LENDED YUS|ROAD OMEGA|",
  "YELORUSSIAN-UKRAINIAN I)|C(CHE|HE(| WITH (D(ESCENDER|IAERESIS)|VERTICAL STROKE))|",
  "LOSED LITTLE YUS|ROSSED O)|D(CHE|E|JE(|RV)|OUBLE (MONOCULAR O|O)|WE|Z(E(|LO)|HE|WE|Z(E|HE)))|",
  "E(| WITH DIAERESIS|F|L(| WITH (DESCENDER|HOOK|MIDDLE HOOK|TAIL))|M(| WITH TAIL)|N(| WITH (",
  "DESCENDER|HOOK|LEFT HOOK|MIDDLE HOOK|TAIL))|R(| WITH TICK)|S(| WITH DESCENDER))|FITA|G(HE(|",
  " WITH (DESCENDER|MIDDLE HOOK|STROKE(| AND HOOK)|UPTURN))|JE)|H(A(| WITH (DESCENDER|HOOK|",
  "STROKE)|RD SIGN)|WE)|I(| WITH (DIAERESIS|GRAVE|MACRON)|E(| WITH (BREVE|GRAVE))|O(|T(A|IFIED (",
  "A|BIG YUS|CLOSED LITTLE YUS|E|LITTLE YUS|YAT)))|ZHITSA(| WITH DOUBLE GRAVE ACCENT))|JE|K(A(|",
  " WITH (DESCENDER|HOOK|STROKE|VERTICAL STROKE))|HAKASSIAN CHE|JE|O(MI (D(E|JE|ZJE)|LJE|NJE|SJE|",
  "TJE|ZJE)|PPA)|SI)|L(HA|ITTLE YUS|JE)|MONO(CULAR O|GRAPH UK)|N(EUTRAL YER|JE)|O(|",
  " WITH DIAERESIS|MEGA(| WITH TITLO)|T)|P(E(| WITH (DESCENDER|MIDDLE HOOK))|SI)|QA|R(EVERSED (",
  "DZE|TSE|YU|ZE)|HA|OUND OMEGA)|S(CHWA(| WITH DIAERESIS)|EMISOFT SIGN|H(A|CHA|HA(|",
  " WITH DESCENDER)|ORT (I(| WITH TAIL)|U)|WE)|OFT (DE|E(L|M)|SIGN)|TRAIGHT U(| WITH STROKE))|T(",
  "CHE|E(| WITH (DESCENDER|MIDDLE HOOK))|S(E|HE|SE|WE)|WE)|U(| WITH (D(IAERESIS|OUBLE ACUTE)|",
  "MACRON)|K(|RAINIAN IE))|VE|WE|Y(A(|E|T)|ERU(| WITH (BACK YER|DIAERESIS))|I|N|U)|Z(E(| WITH D(",
  "ESCENDER|IAERESIS)|MLYA)|H(E(| WITH (BREVE|D(ESCENDER|IAERESIS)))|WE)))|IGATURE (A IE|EN GHE|",
  "TE TSE))|KAVYKA|LETTER (MULTIOCULAR O|PALOCHKA|SMALL CAPITAL EL)|PAYEROK|SMALL L(ETTER (A(|",
  " WITH (BREVE|DIAERESIS)|BKHASIAN (CHE(| WITH DESCENDER)|DZE|HA)|LEUT KA)|B(A(RRED O(|",
  " WITH DIAERESIS)|SHKIR KA)|E|I(G YUS|NOCULAR O)|LENDED YUS|ROAD OMEGA|YELORUSSIAN-UKRAINIAN I)",
  "|C(CHE|HE(| WITH (D(ESCENDER|IAERESIS)|VERTICAL STROKE))|LOSED LITTLE YUS|ROSSED O)|D(CHE|E|",
  "JE(|RV)|OUBLE (MONOCULAR O|O)|WE|Z(E(|LO)|HE|WE|Z(E|HE)))|E(| WITH DIAERESIS|F|L(| WITH (",
  "DESCENDER|HOOK|MIDDLE HOOK|TAIL))|M(| WITH TAIL)|N(| WITH (DESCENDER|HOOK|LEFT HOOK|",
  "MIDDLE HOOK|TAIL))|R(| WITH TICK)|S(| WITH DESCENDER))|FITA|G(HE(| WITH (DESCENDER|",
  "MIDDLE HOOK|STROKE(| AND HOOK)|UPTURN))|JE)|H(A(| WITH (DESCENDER|HOOK|STROKE)|RD SIGN)|WE)|I(",
  "| WITH (DIAERESIS|GRAVE|MACRON)|E(| WITH (BREVE|GRAVE))|O(|T(A|IFIED (A|BIG YUS|",
  "CLOSED LITTLE YUS|E|LITTLE YUS|YAT)))|ZHITSA(| WITH DOUBLE GRAVE ACCENT))|JE|K(A(| WITH (",
  "DESCENDER|HOOK|STROKE|VERTICAL STROKE))|HAKASSIAN CHE|JE|O(MI (D(E|JE|ZJE)|LJE|NJE|SJE|TJE|",
  "ZJE)|PPA)|SI)|L(HA|ITTLE YUS|JE|ONG-LEGGED DE)|MONO(CULAR O|GRAPH UK)|N(ARROW O|EUTRAL YER|JE)",
  "|O(| WITH DIAERESIS|MEGA(| WITH TITLO)|T)|P(ALOCHKA|E(| WITH (DESCENDER|MIDDLE HOOK))|SI)|QA|",
  "R(EVERSED (DZE|TSE|YU|ZE)|HA|OUND( OMEGA|ED VE))|S(CHWA(| WITH DIAERESIS)|EMISOFT SIGN|H(A|",
  "CHA|HA(| WITH DESCENDER)|ORT (I(| WITH TAIL)|U)|WE)|OFT (DE|E(L|M)|SIGN)|TRAIGHT U(|",
  " WITH STROKE))|T(ALL (HARD SIGN|TE|YAT)|CHE|E(| WITH (DESCENDER|MIDDLE HOOK))|HREE-LEGGED TE|",
  "S(E|HE|SE|WE)|WE)|U(| WITH (D(IAERESIS|OUBLE ACUTE)|MACRON)|K(|RAINIAN IE)|NBLENDED UK)|VE|W(",
  "E|IDE ES)|Y(A(|E|T)|ERU(| WITH (BACK YER|DIAERESIS))|I|N|U)|Z(E(| WITH D(ESCENDER|IAERESIS)|",
  "MLYA)|H(E(| WITH (BREVE|D(ESCENDER|IAERESIS)))|WE)))|IGATURE (A IE|EN GHE|TE TSE))|",
  "THOUSANDS SIGN)))|D(A(GGER(| (KNIFE|WITH (LEFT GUARD|RIGHT GUARD)))|LET SYMBOL|N(CER|GO)|RK S(",
  "HADE|UNGLASSES)|SH( (SYMBOL|WITH LEFT UPTURN)|ED (LOW LINE|OVERLINE|",
  "TRIANGLE-HEADED RIGHTWARDS ARROW))|TA LINK ESCAPE)|C(1|2|3|4|S)|E(AF PERSON|C(I(DUOUS TREE|",
  "MAL (EXPONENT SYMBOL|SEPARATOR KEY SYMBOL))|REASE FONT SIZE SYMBOL)|ER|GREE (CELSIUS|",
  "FAHRENHEIT|SIGN)|L(|ETE|IVERY TRUCK|TA EQUAL TO)|NTISTRY SYMBOL LIGHT (DOWN AND HORIZONTAL(|",
  " WITH (CIRCLE|TRIANGLE|WAVE))|UP AND HORIZONTAL(| WITH (CIRCLE|TRIANGLE|WAVE))|VERTICAL (AND (",
  "BOTTOM (LEFT|RIGHT)|TOP (LEFT|RIGHT)|WAVE)|WITH (CIRCLE|TRIANGLE)))|PARTMENT STORE|",
  "RELICT HOUSE BUILDING|S(CENDING NODE|ER(ET (CAPITAL LETTER (AY|BEE|CHEE|DEE|E(F|L|M|N(|G)|R|S(",
  "|H)|TH|W)|GAY|H|JEE|KAY|LONG (A(|H)|E|I|O(|O))|O(I|W)|PEE|SHORT (A(|H)|E|I|O(|O))|T(EE|HEE)|",
  "VEE|WU|YEE|Z(EE|HEE))|SMALL LETTER (AY|BEE|CHEE|DEE|E(F|L|M|N(|G)|R|S(|H)|TH|W)|GAY|H|JEE|KAY|",
  "LONG (A(|H)|E|I|O(|O))|O(I|W)|PEE|SHORT (A(|H)|E|I|O(|O))|T(EE|HEE)|VEE|WU|YEE|Z(EE|HEE)))|T(|",
  " ISLAND))|KTOP (COMPUTER|WINDOW))|V(ANAGARI (A(BBREVIATION SIGN|CUTE ACCENT)|CARET|D(ANDA|",
  "IGIT (EIGHT|F(IVE|OUR)|NINE|ONE|S(EVEN|IX)|T(HREE|WO)|ZERO)|OUBLE DANDA)|G(AP FILLER|",
  "RAVE ACCENT)|HEADSTROKE|JAIN OM|LETTER (A(|A|I|U|W|Y)|B(A|BA|HA)|C(A(|NDRA (A|E|O))|HA)|D(A|D(",
  "A|D(A|HA)|HA)|HA)|E|FA|G(A|GA|H(A|HA)|LOTTAL STOP)|H(A|EAVY YA)|I(|I)|J(A|HA|JA)|K(A|H(A|HA))|",
  "L(A|L(A|LA))|MA(|RWARI DDA)|N(A|GA|N(A|NA)|YA)|O(|E|OE)|P(A|HA)|QA|R(A|HA|RA)|S(A|H(A|ORT (A|",
  "E|O))|SA)|T(A|HA|T(A|HA))|U(|E|U(|E))|V(A|OCALIC (L(|L)|R(|R)))|Y(A|YA)|Z(A|HA))|OM|S(IGN (A(",
  "NUSVARA|VAGRAHA)|CANDRABINDU(| (AVAGRAHA|T(HREE|WO)|VIRAMA))|DOUBLE CANDRABINDU VIRAMA|",
  "HIGH SPACING DOT|INVERTED CANDRABINDU|NUKTA|PUSHPIKA|S(IDDHAM|PACING CANDRABINDU)|VI(RAMA|",
  "SARGA))|TRESS SIGN (ANUDATTA|UDATTA))|VOWEL SIGN (A(A|I|U|W|Y)|CANDRA (E|LONG E|O)|E|I(|I)|O(|",
  "E|OE)|PRISHTHAMATRA E|SHORT (E|O)|U(|E|U(|E))|VOCALIC (L(|L)|R(|R))))|ICE CONTROL (FOUR|ONE|",
  "STRING|T(HREE|WO))))|I(A(ERESIS|M(ETER SIGN|OND (OPERATOR|SHAPE WITH A DOT INSIDE|TARGET|",
  "WITH (BOTTOM HALF BLACK|LEFT HALF BLACK|RIGHT HALF BLACK|TOP HALF BLACK))))|E( FACE-(1|2|3|4|",
  "5|6)|SEL LOCOMOTIVE)|FFERENCE BETWEEN|G(IT (EIGHT(| (COMMA|FULL STOP))|F(IVE(| (COMMA|",
  "FULL STOP))|OUR(| (COMMA|FULL STOP)))|NINE(| (COMMA|FULL STOP))|ONE(| (COMMA|FULL STOP))|S(",
  "EVEN(| (COMMA|FULL STOP))|IX(| (COMMA|FULL STOP)))|T(HREE(| (COMMA|FULL STOP))|WO(| (COMMA|",
  "FULL STOP)))|ZERO(| (COMMA|FULL STOP)))|RAM FOR (EARTH(|LY H(EAVEN|UMAN))|GREATER Y(ANG|IN)|H(",
  "EAVENLY EARTH|UMAN EARTH)|LESSER Y(ANG|IN)))|MENSION ORIGIN|NGBAT (CIRCLED SANS-SERIF (DIGIT (",
  "EIGHT|F(IVE|OUR)|NINE|ONE|S(EVEN|IX)|T(HREE|WO)|ZERO)|NUMBER TEN)|NEGATIVE CIRCLED (DIGIT (",
  "EIGHT|F(IVE|OUR)|NINE|ONE|S(EVEN|IX)|T(HREE|WO))|NUMBER TEN|SANS-SERIF (DIGIT (EIGHT|F(IVE|",
  "OUR)|NINE|ONE|S(EVEN|IX)|T(HREE|WO)|ZERO)|NUMBER TEN)))|RECT (CURRENT SYMBOL FORM TWO|HIT)|S(",
  "A(BLED CAR|PPOINTED (BUT RELIEVED FACE|FACE))|CONTINUOUS UNDERLINE SYMBOL|GUISED FACE)|",
  "TTO MARK|V(ES AKURU (D(IGIT (EIGHT|F(IVE|OUR)|NINE|ONE|S(EVEN|IX)|T(HREE|WO)|ZERO)|",
  "OUBLE DANDA)|END OF TEXT MARK|GAP FILLER|INITIAL RA|LETTER (A(|A)|B(A|HA)|C(A|HA)|D(A|D(A|HA)|",
  "HA)|E|G(A|HA)|HA|I(|I)|JA|K(A|HA)|L(A|LA)|MA|N(A|GA|NA|YA)|O|P(A|HA)|RA|S(A|HA|SA)|T(A|HA|TA)|",
  "U(|U)|VA|Y(A|YA)|ZA)|MEDIAL (RA|YA)|PREFIXED NASAL SIGN|SIGN (ANUSVARA|CANDRABINDU|HALANTA|",
  "NUKTA)|V(IRAMA|OWEL SIGN (A(A|I)|E|I(|I)|O|U(|U))))|I(DES|NG MASK|SION (S(IGN|LASH)|TIMES))|",
  "ORCE SYMBOL)|YA LAMP|ZZY (FACE|SYMBOL))|LE|NA DOUBLE HELIX|O( NOT LITTER SYMBOL|CUMENT(|",
  " WITH (PICTURE|TEXT(| AND PICTURE)))|DO|ES NOT (CONTAIN AS (MEMBER|NORMAL SUBGROUP(| OR EQUAL)",
  ")|DIVIDE(| WITH REVERSED NEGATION SLASH)|FORCE|PR(ECEDE(| OR EQUAL)|OVE)|SUCCEED(| OR EQUAL))|",
  "G(| FACE|RA (ABBREVIATION SIGN|LETTER (A(|A|I|U)|B(A|HA)|C(A|HA)|D(A|D(A|HA)|HA)|E|G(A|HA)|HA|",
  "I(|I)|J(A|HA)|K(A|HA)|LA|MA|N(A|GA|NA|YA)|O|P(A|HA)|R(A|RA)|S(A|HA|SA)|T(A|HA|T(A|HA))|U(|U)|",
  "VA|YA)|SIGN (ANUSVARA|NUKTA|VI(RAMA|SARGA))|VOWEL SIGN (A(A|I|U)|E|I(|I)|O|U(|U)|VOCALIC R(|R)",
  ")))|L(LAR SIGN|PHIN)|MINO TILE (HORIZONTAL( BACK|-0(0-0(0|1|2|3|4|5|6)|1-0(0|1|2|3|4|5|6)|2-0(",
  "0|1|2|3|4|5|6)|3-0(0|1|2|3|4|5|6)|4-0(0|1|2|3|4|5|6)|5-0(0|1|2|3|4|5|6)|6-0(0|1|2|3|4|5|6)))|",
  "VERTICAL( BACK|-0(0-0(0|1|2|3|4|5|6)|1-0(0|1|2|3|4|5|6)|2-0(0|1|2|3|4|5|6)|3-0(0|1|2|3|4|5|6)|",
  "4-0(0|1|2|3|4|5|6)|5-0(0|1|2|3|4|5|6)|6-0(0|1|2|3|4|5|6))))|NG SIGN|OR|T( (ABOVE|MINUS|",
  "OPERATOR|PLUS)|TED (C(IRCLE|ROSS)|FENCE|LINE FACE|OBELOS|RIGHT-POINTING ANGLE|S(OLIDUS|QUARE)|",
  "TRANSPOSITION MARKER))|U(BLE( (ACUTE ACCENT|C(IRCLED (DIGIT (EIGHT|F(IVE|OUR)|NINE|ONE|S(EVEN|",
  "IX)|T(HREE|WO))|NUMBER TEN)|OLON EQUAL|URLY LOOP)|D(AGGER|OWN TACK)|EXCLAMATION MARK|H(",
  "IGH-REVERSED-9 QUOTATION MARK|YPHEN)|INTE(GRAL|RSECTION)|L(EFT ARC GREATER-THAN BRACKET|O(",
  "GICAL (AND|OR)|W( LINE|-(9 QUOTATION MARK|REVERSED-9 QUOTATION MARK))))|NESTED (GREATER-THAN|",
  "LESS-THAN(| WITH UNDERBAR))|OBLIQUE HYPHEN|P(LUS|R(ECEDES|IME(| QUOTATION MARK)))|",
  "QUESTION MARK|RIGHT ARC LESS-THAN BRACKET|S(OLIDUS OPERATOR|QUARE (INTERSECTION|UNION)|T(",
  "ACKED COMMA|ROKE NOT SIGN)|U(BSET|CCEEDS|PERSET|SPENSION MARK))|U(NION|P TACK)|VERTICAL (BAR(|",
  " (DOUBLE (LEFT TURNSTILE|RIGHT TURNSTILE)|LEFT TURNSTILE))|LINE)|WAVY OVERLINE)|-(",
  "ENDED MULTIMAP|LINE (EQUAL TO OR (GREATER-THAN|LESS-THAN)|SLANTED (EQUAL TO OR (GREATER-THAN|",
  "LESS-THAN)|GREATER-THAN OR EQUAL TO|LESS-THAN OR EQUAL TO))|STRUCK (CAPITAL (C|GAMMA|H|N|P(|I)",
  "|Q|R|Z)|ITALIC (CAPITAL D|SMALL (D|E|I|J))|N-ARY SUMMATION|SMALL (GAMMA|PI)))|D (FEMALE SIGN|",
  "MALE SIGN|SYMBOL))|GHNUT)|VE OF PEACE|WN( (ARROWHEAD|FISH TAIL|RIGHT DIAGONAL ELLIPSIS|TACK(|",
  " WITH CIRCLE BELOW))|-POINTING (RED TRIANGLE|SMALL RED TRIANGLE|TRIANGLE WITH (",
  "LEFT HALF BLACK|RIGHT HALF BLACK))|WARD( FACING (HOOK(| WITH DOT)|NOTCHED HOOK(| WITH DOT))|",
  "S (A(NCORA|RROW(| (AND RIGHT ONE EIGHTH BLOCK|FROM BAR|LEFTWARDS OF UPWARDS ARROW|TO BAR|",
  "WITH (CORNER LEFTWARDS|DOUBLE STROKE|EQUILATERAL ARROWHEAD|HORIZONTAL STROKE|",
  "LARGE TRIANGLE ARROWHEAD|MEDIUM TRIANGLE ARROWHEAD|NOTCHED TAIL|SMALL (EQUILATERAL ARROWHEAD|",
  "TRIANGLE ARROWHEAD)|TIP (LEFTWARDS|RIGHTWARDS)))))|BLACK (ARROW|CIRCLED WHITE ARROW)|",
  "COMPRESSED ARROW|D(ASHED ARROW|OUBLE ARROW)|FINGER-POST ARROW|H(ARPOON WITH BARB (LEFT( (",
  "BESIDE (DOWNWARDS HARPOON WITH BARB RIGHT|UPWARDS HARPOON WITH BARB RIGHT)|FROM BAR|TO BAR)|",
  "WARDS)|RIGHT( (FROM BAR|TO BAR)|WARDS))|EAVY (ARROW|COMPRESSED ARROW))|PAIRED ARROWS|",
  "QUADRUPLE ARROW|ROCKET|S(ANS-SERIF ARROW|QUARED ARROW)|T(RI(ANGLE( ARROWHEAD|-HEADED (ARROW(|",
  " (LEFTWARDS OF UPWARDS TRIANGLE-HEADED ARROW|TO BAR|WITH (BOLD SHAFT|DOUBLE HORIZONTAL STROKE|",
  "HEAVY SHAFT|LONG TIP (LEFTWARDS|RIGHTWARDS)|MEDIUM SHAFT|NARROW SHAFT|VERY HEAVY SHAFT)))|",
  "DASHED ARROW|PAIRED ARROWS|ZIGZAG ARROW))|PLE ARROW)|WO( HEADED ARROW|",
  "-HEADED ARROW WITH TRIANGLE ARROWHEADS))|WHITE ARROW(| WITHIN TRIANGLE ARROWHEAD)|",
  "ZIGZAG ARROW))))|R(A(CHMA SIGN|FTING POINT RIGHTWARDS ARROW|GON(| FACE))|ESS|IVE SLOW SIGN|O(",
  "MEDARY CAMEL|OLING FACE|P( OF BLOOD|LET))|UM WITH DRUMSTICKS)|U(CK|MPLING|PLOYAN (AFFIX (",
  "ATTACHED (E HOOK|I HOOK|LEFT-TO-RIGHT SECANT|SECANT|TA(IL|NGENT(| HOOK)))|HIGH (ACUTE|CIRCLE|",
  "DOT|GRAVE|L(INE|ONG GRAVE)|TIGHT ACUTE|VERTICAL(| SECANT)|WAVE)|L(EFT HORIZONTAL SECANT|OW (A(",
  "CUTE|RROW)|CIRCLE|DOT|GRAVE|L(INE|ONG GRAVE)|TIGHT ACUTE|VERTICAL(| SECANT)|WAVE))|MID (",
  "HORIZONTAL SECANT|VERTICAL SECANT)|RIGHT HORIZONTAL SECANT)|DOUBLE MARK|LETTER (A(|OU)|B|D(|",
  " S|H)|E(|E|U)|F(| N)|G(| R S)|H(|L)|I(|E)|J(| (M(| S)|N(| S)|S(| WITH DOT)|WITH DOT(|",
  "S INSIDE AND ABOVE)))|K(| (M|R S)|K)|L(|H|ONG (I|U))|M(| (N(| S)|S|WITH DOT))|N(| (M(| S)|S|",
  "WITH DOT)|ASAL (A|I|O|U))|O(|A|OH|U|W)|P(| N|ERNIN A(M|N))|R(| S|H|OMANIAN (I|U))|S(| (J(| S)|",
  "K(| R)|M|N|P(| R)|S|T(| R)|WITH DOT(| BELOW))|HORT I|LOAN (AN|DH|E(E|H|N)|J|O(N|W)|U))|T(| (",
  "R S|S)|H)|U(| N|H|I)|V(|OCALIC M)|W(| R|A|EI|H|I|O(|W))|X(|W)|YE)|",
  "PUNCTUATION CHINOOK FULL STOP|SIGN O WITH CROSS|THICK LETTER SELECTOR))|VD)|E(-MAIL SYMBOL|A(",
  "GLE|R(| (OF (MAIZE|RICE)|WITH HEARING AID)|TH(| G(LOBE (A(MERICAS|SIA-AUSTRALIA)|",
  "EUROPE-AFRICA)|ROUND)))|ST SYRIAC CROSS)|DITORIAL CORONIS|G(G|YPTIAN HIEROGLYPH (A(0(0(1|2|3|",
  "4|5(|A)|6(|A|B)|7|8|9)|1(0|1|2|3|4(|A)|5|6|7(|A)|8|9)|2(0|1|2|3|4|5|6|7|8|9)|3(0|1|2(|A)|3|4|",
  "5|6|7|8|9)|4(0(|A)|1|2(|A)|3(|A)|4|5(|A)|6|7|8|9)|5(0|1|2|3|4|5|6|7|8|9)|6(0|1|2|3|4|5|6|7|8|",
  "9)|70)|A0(0(1|2|3|4|5|6|7(|A|B)|8|9)|1(0|1|2|3|4|5|6|7|8|9)|2(0|1|2|3|4|5|6|7|8|9)|3(0|1|2)))|",
  "B(00(1|2|3|4|5(|A)|6|7|8|9)|EGIN SEGMENT)|C0(0(1|2(|A|B|C)|3|4|5|6|7|8|9)|1(0(|A)|1|2|3|4|5|6|",
  "7|8|9)|2(0|1|2|3|4))|D0(0(1|2|3|4|5|6|7|8(|A)|9)|1(0|1|2|3|4|5|6|7|8|9)|2(0|1|2|3|4|5|6|7(|A)|",
  "8|9)|3(0|1(|A)|2|3|4(|A)|5|6|7|8|9)|4(0|1|2|3|4|5|6(|A)|7|8(|A)|9)|5(0(|A|B|C|D|E|F|G|H|I)|1|",
  "2(|A)|3|4(|A)|5|6|7|8|9)|6(0|1|2|3|4|5|6|7(|A|B|C|D|E|F|G|H)))|E(0(0(1|2|3|4|5|6|7|8(|A)|9(|A)",
  ")|1(0|1|2|3|4|5|6(|A)|7(|A)|8|9)|2(0(|A)|1|2|3|4|5|6|7|8(|A)|9)|3(0|1|2|3|4(|A)|6|7|8))|",
  "ND SEGMENT)|F0(0(1(|A)|2|3|4|5|6|7|8|9)|1(0|1|2|3(|A)|4|5|6|7|8|9)|2(0|1(|A)|2|3|4|5|6|7|8|9)|",
  "3(0|1(|A)|2|3|4|5|6|7(|A)|8(|A)|9)|4(0|1|2|3|4|5(|A)|6(|A)|7(|A)|8|9)|5(0|1(|A|B|C)|2|3))|G0(",
  "0(1|2|3|4|5|6(|A)|7(|A|B)|8|9)|1(0|1(|A)|2|3|4|5|6|7|8|9)|2(0(|A)|1|2|3|4|5|6(|A)|7|8|9)|3(0|",
  "1|2|3|4|5|6(|A)|7(|A)|8|9)|4(0|1|2|3(|A)|4|5(|A)|6|7|8|9)|5(0|1|2|3|4))|H(00(1|2|3|4|5|6(|A)|",
  "7|8)|ORIZONTAL JOINER)|I(0(0(1|2|3|4|5(|A)|6|7|8|9(|A))|1(0(|A)|1(|A)|2|3|4|5))|NSERT AT (",
  "BOTTOM (END|START)|TOP (END|START)))|K00(1|2|3|4|5|6|7|8)|L00(1|2(|A)|3|4|5|6(|A)|7|8)|M0(0(1(",
  "|A|B)|2|3(|A)|4|5|6|7|8|9)|1(0(|A)|1|2(|A|B|C|D|E|F|G|H)|3|4|5(|A)|6(|A)|7(|A)|8|9)|2(0|1|2(|",
  "A)|3|4(|A)|5|6|7|8(|A)|9)|3(0|1(|A)|2|3(|A|B)|4|5|6|7|8|9)|4(0(|A)|1|2|3|4))|N(0(0(1|2|3|4|5|",
  "6|7|8|9)|1(0|1|2|3|4|5|6|7|8(|A|B)|9)|2(0|1|2|3|4|5(|A)|6|7|8|9)|3(0|1|2|3(|A)|4(|A)|5(|A)|6|",
  "7(|A)|8|9)|4(0|1|2))|L0(0(1|2|3|4|5(|A)|6|7|8|9)|1(0|1|2|3|4|5|6|7(|A)|8|9)|20)|U0(0(1|2|3|4|",
  "5|6|7|8|9)|1(0(|A)|1(|A)|2|3|4|5|6|7|8(|A)|9)|2(0|1|2(|A))))|O(0(0(1(|A)|2|3|4|5(|A)|6(|A|B|C|",
  "D|E|F)|7|8|9)|1(0(|A|B|C)|1|2|3|4|5|6|7|8|9(|A))|2(0(|A)|1|2|3|4(|A)|5(|A)|6|7|8|9(|A))|3(0(|",
  "A)|1|2|3(|A)|4|5|6(|A|B|C|D)|7|8|9)|4(0|1|2|3|4|5|6|7|8|9)|5(0(|A|B)|1))|VERLAY MIDDLE)|P0(0(",
  "1(|A)|2|3(|A)|4|5|6|7|8|9)|1(0|1))|Q00(1|2|3|4|5|6|7)|R0(0(1|2(|A)|3(|A|B)|4|5|6|7|8|9)|1(0(|",
  "A)|1|2|3|4|5|6(|A)|7|8|9)|2(0|1|2|3|4|5|6|7|8|9))|S0(0(1|2(|A)|3|4|5|6(|A)|7|8|9)|1(0|1|2|3|4(",
  "|A|B)|5|6|7(|A)|8|9)|2(0|1|2|3|4|5|6(|A|B)|7|8|9)|3(0|1|2|3|4|5(|A)|6|7|8|9)|4(0|1|2|3|4|5|6))",
  "|T0(0(1|2|3(|A)|4|5|6|7(|A)|8(|A)|9(|A))|1(0|1(|A)|2|3|4|5|6(|A)|7|8|9)|2(0|1|2|3|4|5|6|7|8|9)",
  "|3(0|1|2(|A)|3(|A)|4|5|6))|U0(0(1|2|3|4|5|6(|A|B)|7|8|9)|1(0|1|2|3|4|5|6|7|8|9)|2(0|1|2|3(|A)|",
  "4|5|6|7|8|9(|A))|3(0|1|2(|A)|3|4|5|6|7|8|9)|4(0|1|2))|V(0(0(1(|A|B|C|D|E|F|G|H|I)|2(|A)|3|4|5|",
  "6|7(|A|B)|8|9)|1(0|1(|A|B|C)|2(|A|B)|3|4|5|6|7|8|9)|2(0(|A|B|C|D|E|F|G|H|I|J|K|L)|1|2|3(|A)|4|",
  "5|6|7|8(|A)|9(|A))|3(0(|A)|1(|A)|2|3(|A)|4|5|6|7(|A)|8|9)|40(|A))|ERTICAL JOINER)|W0(0(1|2|3(|",
  "A)|4|5|6|7|8|9(|A))|1(0(|A)|1|2|3|4(|A)|5|6|7(|A)|8(|A)|9)|2(0|1|2|3|4(|A)|5))|X00(1|2|3|4(|A|",
  "B)|5|6(|A)|7|8(|A))|Y00(1(|A)|2|3|4|5|6|7|8)|Z0(0(1|2(|A|B|C|D)|3(|A|B)|4(|A)|5(|A)|6|7|8|9)|",
  "1(0|1|2|3|4|5(|A|B|C|D|E|F|G|H|I)|6(|A|B|C|D|E|F|G|H)))))|IGHT( (P(",
  "ETALLED OUTLINED BLACK FLORETTE|OINTED (BLACK STAR|PINWHEEL STAR|RECTILINEAR BLACK STAR))|",
  "SPOKED ASTERISK|TEARDROP-SPOKED PROPELLER ASTERISK)|H NOTE)|JECT SYMBOL|L(BASAN LETTER (A|BE|",
  "C(E|HE)|D(E|HE)|E(|I)|FE|G(E|H(AMMA|E)|JE)|HE|I|JE|K(E|HE)|L(E|LE)|ME|N(A|DE|E|JE)|O|PE|QE|R(",
  "E|RE)|S(E|HE)|T(E|HE)|U|VE|XE|Y|Z(E|HE))|E(CTRIC( (ARROW|LIGHT BULB|PLUG|TORCH)|",
  "AL INTERSECTION)|MENT OF(| (OPENING (DOWNWARDS|UPWARDS)|WITH (DOT ABOVE|",
  "LONG HORIZONTAL STROKE|OVERBAR|TWO HORIZONTAL STROKES|UNDERBAR|",
  "VERTICAL BAR AT END OF HORIZONTAL STROKE)))|PHANT|VATOR)|F|YMAIC L(ETTER (A(LEPH|YIN)|BETH|",
  "DALETH|GIMEL|HE(|TH)|KAPH|LAMEDH|MEM|NUN|PE|QOPH|RESH|S(A(DHE|MEKH)|HIN)|T(AW|ETH)|WAW|YODH|",
  "ZAYIN)|IGATURE ZAYIN-YODH))|M( (DASH|QUAD|SPACE)|OJI (COMPONENT (BALD|CURLY HAIR|RED HAIR|",
  "WHITE HAIR)|MODIFIER FITZPATRICK TYPE-(1-2|3|4|5|6))|P(HASIS SYMBOL|TY (DOCUMENT|N(EST|OTE(|",
  " PA(D|GE)))|PAGE(|S)|SET(| WITH (LEFT ARROW ABOVE|OVERBAR|RIGHT ARROW ABOVE|",
  "SMALL CIRCLE ABOVE)))))|N( (DASH|QUAD|SPACE)|D (OF (GUARDED AREA|LINE|MEDIUM|PRO(OF|",
  "TECTED AREA)|SELECTED AREA|T(EXT|RANSMISSION(| BLOCK)))|WITH LEFTWARDS ARROW ABOVE)|Q(|UIRY)|",
  "TER SYMBOL|VELOPE(| WITH (DOWNWARDS ARROW ABOVE|LIGHTNING)))|O(L|M|T)|PA|QU(AL( (",
  "AND PARALLEL TO|TO (BY DEFINITION|OR (GREATER-THAN|LESS-THAN|PRECEDES|SUCCEEDS)))|S (COLON|",
  "SIGN(| (A(BOVE (LEFTWARDS ARROW|PLUS SIGN|RIGHTWARDS ARROW|TILDE OPERATOR)|",
  "ND SLANTED PARALLEL(| WITH TILDE ABOVE))|WITH (BUMPY ABOVE|DOT BELOW|INFINITY BELOW|",
  "TWO DOTS ABOVE AND TWO DOTS BELOW)))|WITH ASTERISK))|I(ANGULAR TO|VALENT (TO|",
  "WITH FOUR DOTS ABOVE)))|R(ASE TO THE (LEFT|RIGHT)|IS FORM (ONE|TWO)|ROR-BARRED (BLACK (CIRCLE|",
  "DIAMOND|SQUARE)|WHITE (CIRCLE|DIAMOND|SQUARE)))|S(A|C(|APE)|TIMATE(D SYMBOL|S))|T(B|HIOPIC (",
  "CO(LON|M(BINING (GEMINATION (AND VOWEL LENGTH MARK|MARK)|VOWEL LENGTH MARK)|MA))|DIGIT (EIGHT|",
  "F(IVE|OUR)|NINE|ONE|S(EVEN|IX)|T(HREE|WO))|FULL STOP|NUMBER (EIGHTY|F(IFTY|ORTY)|HUNDRED|",
  "NINETY|S(EVENTY|IXTY)|T(EN(| THOUSAND)|HIRTY|WENTY))|P(ARAGRAPH SEPARATOR|REFACE COLON)|",
  "QUESTION MARK|S(E(CTION MARK|MICOLON)|YLLABLE (B(A(|A)|B(A(|A)|E(|E)|I|O|U)|E(|E)|I|O(|A)|U|W(",
  "A|E(|E)|I))|C(A(|A)|C(A(|A)|E(|E)|H(A(|A)|E(|E)|H(A(|A)|E(|E)|I|O|U)|I|O|U)|I|O|U)|E(|E)|H(A(|",
  "A)|E(|E)|I|O(|A)|U|WA)|I|O(|A)|U|WA)|D(A(|A)|D(A(|A)|E(|E)|H(AA|E(|E)|I|O|U)|I|O(|A)|U|WA)|E(|",
  "E)|I|O(|A)|U|WA|Z(AA|E(|E)|I|O|U))|F(A(|A)|E(|E)|I|O|U|W(A|E(|E)|I)|YA)|G(A(|A)|E(|E)|G(A(|A)|",
  "E(|E)|I|O|U|W(A(|A)|E(|E)|I))|I|LOTTAL (A(|A)|E(|E)|I|O(|A)|U|WA)|O(|A)|U(|RAGE (BW(EE|I)|FW(",
  "EE|I)|GW(E(|E)|I)|HHWA|KW(E(|E)|I)|MW(EE|I)|PW(EE|I)|QW(E(|E)|I)))|W(A(|A)|E(|E)|I)|Y(A(|A)|E(",
  "|E)|I|O|U))|H(A(|A)|E(|E)|H(A(|A)|E(|E)|I|O|U|W(A|E(|E)|I)|Y(A(|A)|E(|E)|I|O|U))|I|O(|A)|U)|J(",
  "A(|A)|E(|E)|I|O(|A)|U|WA)|K(A(|A)|E(|E)|I|O(|A)|U|W(A(|A)|E(|E)|I)|X(A(|A)|E(|E)|I|O|U|W(A(|A)",
  "|E(|E)|I))|Y(A(|A)|E(|E)|I|O|U))|L(A(|A)|E(|E)|I|O(|A)|U|WA)|M(A(|A)|E(|E)|I|O(|A)|U|W(A|E(|E)",
  "|I)|YA)|N(A(|A)|E(|E)|I|O(|A)|U|WA|Y(A(|A)|E(|E)|I|O(|A)|U|WA))|P(A(|A)|E(|E)|H(A(|A|RYNGEAL (",
  "A(|A)|E(|E)|I|O|U))|E(|E)|I|O(|A)|U|WA)|I|O(|A)|U|W(A|E(|E)|I))|Q(A(|A)|E(|E)|H(A(|A)|E(|E)|I|",
  "O|U|W(A(|A)|E(|E)|I))|I|O(|A)|U|W(A(|A)|E(|E)|I)|Y(A(|A)|E(|E)|I|O|U))|R(A(|A)|E(|E)|I|O(|A)|",
  "U|WA|YA)|S(A(|A)|E(|BATBEIT (BWA|FWA|MWA|PWA)|E)|H(A(|A)|E(|E)|I|O(|A)|U|WA)|I|O(|A)|S(A(|A)|",
  "E(|E)|I|O|U)|U|WA|Z(A(|A)|E(|E)|I|O|U|WA))|T(A(|A)|E(|E)|H(A(|A)|E(|E)|I|O(|A)|U|WA)|I|O(|A)|",
  "S(A(|A)|E(|E)|I|O|U|WA)|TH(AA|E(|E)|I|O|U)|U|WA|Z(A(|A)|E(|E)|I|O(|A)|U))|V(A(|A)|E(|E)|I|O|U|",
  "WA)|W(A(|A)|E(|E)|I|O(|A)|U)|X(A(|A)|E(|E)|I|O(|A)|U|W(A(|A)|E(|E)|I)|Y(A(|A)|E(|E)|I|O|U))|Y(",
  "A(|A)|E(|E)|I|O(|A)|U)|Z(A(|A)|E(|E)|H(A(|A)|E(|E)|I|O|U|WA)|I|O(|A)|U|WA|Z(A(|A)|E(|E)|I|O|U)",
  ")))|TONAL MARK (CHIRET|D(ERET(|-HIDET)|IFAT)|HIDET|K(ENAT|URT)|RIKRIK|SHORT RIKRIK|YIZET)|",
  "WORDSPACE)|X)|U(LER CONSTANT|RO( SIGN|-CURRENCY SIGN|PEAN (CASTLE|POST OFFICE)))|",
  "VERGREEN TREE|X(C(ESS|LAMATION (MARK|QUESTION MARK))|PRESSIONLESS FACE|T(",
  "ENDED ARABIC-INDIC DIGIT (EIGHT|F(IVE|OUR)|NINE|ONE|S(EVEN|IX)|T(HREE|WO)|ZERO)|R(",
  "ATERRESTRIAL ALIEN|EMELY HEAVY (FIVE SPOKED ASTERISK|GREEK CROSS|S(ALTIRE|IX SPOKED ASTERISK)|",
  "WHITE (CIRCLE|SQUARE)))))|YE(|GLASSES|S))|F(A(C(E (HOLDING BACK TEARS|MASSAGE|PALM|S(",
  "AVOURING DELICIOUS FOOD|CREAMING IN FEAR)|THROWING A KISS|WITH( (CO(LD SWEAT|WBOY HAT)|",
  "DIAGONAL MOUTH|FINGER COVERING CLOSED LIPS|HEAD-BANDAGE|LOOK OF TRIUMPH|M(EDICAL MASK|ONOCLE)|",
  "NO GOOD GESTURE|O(K GESTURE|NE EYEBROW RAISED|PEN (EYES AND HAND OVER MOUTH|MOUTH(| (",
  "AND COLD SWEAT|VOMITING))))|P(ARTY HORN AND PARTY HAT|EEKING EYE|LEADING EYES)|ROLLING EYES|",
  "STUCK-OUT TONGUE(| AND (TIGHTLY-CLOSED EYES|WINKING EYE))|T(EARS OF JOY|HERMOMETER)|",
  "UNEVEN EYES AND WAVY MOUTH)|OUT MOUTH))|SIMILE SIGN|TORY)|IRY|L(AFEL|L(EN LEAF|ING DIAGONAL (",
  "CROSSING (NORTH EAST ARROW|RISING DIAGONAL)|IN WHITE CIRCLE IN BLACK SQUARE)))|MILY|",
  "RSI SYMBOL|THER CHRISTMAS|X (ICON|MACHINE))|E(A(RFUL FACE|THER)|M(ALE SIGN|",
  "ININE ORDINAL INDICATOR)|NCER|RR(IS WHEEL|Y))|F|I(ELD HOCKEY STICK AND BALL|GURE (DASH|SPACE)|",
  "L(E (CABINET|FOLDER|SEPARATOR)|M (FRAMES|PROJECTOR))|NITE PART INTEGRAL|R(E(| E(NGINE|",
  "XTINGUISHER)|CRACKER|WORK( SPARKLER|S))|ST (PLACE MEDAL|QUARTER MOON(| (SYMBOL|WITH FACE))|",
  "STRONG ISOLATE))|S(H(| CAKE WITH SWIRL DESIGN|EYE|ING POLE AND FISH)|TED HAND SIGN)|VE DOT (",
  "MARK|PUNCTUATION))|L(A(G IN HOLE|MINGO|T( SHOE|BREAD|NESS))|E(UR-DE-LIS|XED BICEPS)|O(",
  "PPY DISK|RAL HEART|WER(| P(LAYING CARDS|UNCTUATION MARK)))|USHED FACE|Y(|ING (DISC|ENVELOPE|",
  "SAUCER)))|O(G(|GY)|LDER|NDUE|OT(|PRINTS)|R( ALL|CES|K( AND KNIFE(| WITH PLATE)|ED PARAGRAPHOS|",
  "ING)|M FEED|TUNE COOKIE)|U(NTAIN|R( (BALLOON-SPOKED ASTERISK|C(LUB-SPOKED ASTERISK|",
  "ORNER ARROWS CIRCLING ANTICLOCKWISE)|DOT (MARK|PUNCTUATION)|LEAF CLOVER|POINTED BLACK STAR|",
  "TEARDROP-SPOKED ASTERISK)|-PER-EM SPACE|TH ROOT))|X FACE)|R(A(CTION (NUMERATOR ONE|SLASH)|",
  "ME WITH (AN X|PICTURE|TILES))|E(EZING FACE|NCH FR(ANC SIGN|IES))|IED SHRIMP|O(G FACE|NT-(",
  "FACING BABY CHICK|TILTED SHADOWED WHITE RIGHTWARDS ARROW)|WN(|ING FACE WITH OPEN MOUTH)))|S(|",
  "I)|U(EL PUMP|LL( (BLOCK|MOON (SYMBOL|WITH FACE)|OUTER JOIN|STOP)|WIDTH (A(MPERSAND|POSTROPHE|",
  "STERISK)|BROKEN BAR|C(ENT SIGN|IRCUMFLEX ACCENT|O(LON|MM(A|ERCIAL AT)))|D(IGIT (EIGHT|F(IVE|",
  "OUR)|NINE|ONE|S(EVEN|IX)|T(HREE|WO)|ZERO)|OLLAR SIGN)|E(QUALS SIGN|XCLAMATION MARK)|FULL STOP|",
  "GR(AVE ACCENT|EATER-THAN SIGN)|HYPHEN-MINUS|L(ATIN (CAPITAL LETTER (A|B|C|D|E|F|G|H|I|J|K|L|M|",
  "N|O|P|Q|R|S|T|U|V|W|X|Y|Z)|SMALL LETTER (A|B|C|D|E|F|G|H|I|J|K|L|M|N|O|P|Q|R|S|T|U|V|W|X|Y|Z))",
  "|E(FT (CURLY BRACKET|PARENTHESIS|SQUARE BRACKET|WHITE PARENTHESIS)|SS-THAN SIGN)|OW LINE)|",
  "MACRON|N(OT SIGN|UMBER SIGN)|P(ERCENT SIGN|LUS SIGN|OUND SIGN)|QU(ESTION MARK|OTATION MARK)|R(",
  "EVERSE SOLIDUS|IGHT (CURLY BRACKET|PARENTHESIS|SQUARE BRACKET|WHITE PARENTHESIS))|S(EMICOLON|",
  "OLIDUS)|TILDE|VERTICAL LINE|WON SIGN|YEN SIGN))|N(CTION APPLICATION|ERAL URN)|SE)|VS(1|2|3|4))"]

end MonkeyScan.CharacterName
