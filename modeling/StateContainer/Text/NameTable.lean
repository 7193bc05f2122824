/-
This file holds the names of characters, from the Unicode Character Database,
version 14.0: those of the Latin, Greek, Cyrillic, Hebrew, Arabic, Devanagari,
Thai and Japanese scripts, of punctuation, signs and arrows, and of pictures. The
names of ideographs are not in the table, since they are computed.
-/

namespace StateContainer.Text

private def nameLinesA0 : List String := [
  "SPACE;EXCLAMATION MARK;QUOTATION MARK;NUMBER SIGN;DOLLAR SIGN;PERCENT SIGN;AMPERSAND;",
  "APOSTROPHE;LEFT PARENTHESIS;RIGHT PARENTHESIS;ASTERISK;PLUS SIGN;COMMA;HYPHEN-MINUS;",
  "FULL STOP;SOLIDUS;DIGIT ZERO;DIGIT ONE;DIGIT TWO;DIGIT THREE;DIGIT FOUR;DIGIT FIVE;DIGIT SIX;",
  "DIGIT SEVEN;DIGIT EIGHT;DIGIT NINE;COLON;SEMICOLON;LESS-THAN SIGN;EQUALS SIGN;",
  "GREATER-THAN SIGN;QUESTION MARK;COMMERCIAL AT;LATIN CAPITAL LETTER A;LATIN CAPITAL LETTER B;",
  "LATIN CAPITAL LETTER C;LATIN CAPITAL LETTER D;LATIN CAPITAL LETTER E;LATIN CAPITAL LETTER F;",
  "LATIN CAPITAL LETTER G;LATIN CAPITAL LETTER H;LATIN CAPITAL LETTER I;LATIN CAPITAL LETTER J;",
  "LATIN CAPITAL LETTER K;LATIN CAPITAL LETTER L;LATIN CAPITAL LETTER M;LATIN CAPITAL LETTER N;",
  "LATIN CAPITAL LETTER O;LATIN CAPITAL LETTER P;LATIN CAPITAL LETTER Q;LATIN CAPITAL LETTER R;",
  "LATIN CAPITAL LETTER S;LATIN CAPITAL LETTER T;LATIN CAPITAL LETTER U;LATIN CAPITAL LETTER V;",
  "LATIN CAPITAL LETTER W;LATIN CAPITAL LETTER X;LATIN CAPITAL LETTER Y;LATIN CAPITAL LETTER Z;",
  "LEFT SQUARE BRACKET;REVERSE SOLIDUS;RIGHT SQUARE BRACKET;CIRCUMFLEX ACCENT;LOW LINE;",
  "GRAVE ACCENT;LATIN SMALL LETTER A;LATIN SMALL LETTER B;LATIN SMALL LETTER C;",
  "LATIN SMALL LETTER D;LATIN SMALL LETTER E;LATIN SMALL LETTER F;LATIN SMALL LETTER G;",
  "LATIN SMALL LETTER H;LATIN SMALL LETTER I;LATIN SMALL LETTER J;LATIN SMALL LETTER K;",
  "LATIN SMALL LETTER L;LATIN SMALL LETTER M;LATIN SMALL LETTER N;LATIN SMALL LETTER O;",
  "LATIN SMALL LETTER P;LATIN SMALL LETTER Q;LATIN SMALL LETTER R;LATIN SMALL LETTER S;",
  "LATIN SMALL LETTER T;LATIN SMALL LETTER U;LATIN SMALL LETTER V;LATIN SMALL LETTER W;",
  "LATIN SMALL LETTER X;LATIN SMALL LETTER Y;LATIN SMALL LETTER Z;LEFT CURLY BRACKET;",
  "VERTICAL LINE;RIGHT CURLY BRACKET;TILDE"]

private def nameLinesA1 : List String := [
  "NO-BREAK SPACE;INVERTED EXCLAMATION MARK;CENT SIGN;POUND SIGN;CURRENCY SIGN;YEN SIGN;",
  "BROKEN BAR;SECTION SIGN;DIAERESIS;COPYRIGHT SIGN;FEMININE ORDINAL INDICATOR;",
  "LEFT-POINTING DOUBLE ANGLE QUOTATION MARK;NOT SIGN;SOFT HYPHEN;REGISTERED SIGN;MACRON;",
  "DEGREE SIGN;PLUS-MINUS SIGN;SUPERSCRIPT TWO;SUPERSCRIPT THREE;ACUTE ACCENT;MICRO SIGN;",
  "PILCROW SIGN;MIDDLE DOT;CEDILLA;SUPERSCRIPT ONE;MASCULINE ORDINAL INDICATOR;",
  "RIGHT-POINTING DOUBLE ANGLE QUOTATION MARK;VULGAR FRACTION ONE QUARTER;",
  "VULGAR FRACTION ONE HALF;VULGAR FRACTION THREE QUARTERS;INVERTED QUESTION MARK;",
  "LATIN CAPITAL LETTER A WITH GRAVE;LATIN CAPITAL LETTER A WITH ACUTE;",
  "LATIN CAPITAL LETTER A WITH CIRCUMFLEX;LATIN CAPITAL LETTER A WITH TILDE;",
  "LATIN CAPITAL LETTER A WITH DIAERESIS;LATIN CAPITAL LETTER A WITH RING ABOVE;",
  "LATIN CAPITAL LETTER AE;LATIN CAPITAL LETTER C WITH CEDILLA;",
  "LATIN CAPITAL LETTER E WITH GRAVE;LATIN CAPITAL LETTER E WITH ACUTE;",
  "LATIN CAPITAL LETTER E WITH CIRCUMFLEX;LATIN CAPITAL LETTER E WITH DIAERESIS;",
  "LATIN CAPITAL LETTER I WITH GRAVE;LATIN CAPITAL LETTER I WITH ACUTE;",
  "LATIN CAPITAL LETTER I WITH CIRCUMFLEX;LATIN CAPITAL LETTER I WITH DIAERESIS;",
  "LATIN CAPITAL LETTER ETH;LATIN CAPITAL LETTER N WITH TILDE;LATIN CAPITAL LETTER O WITH GRAVE;",
  "LATIN CAPITAL LETTER O WITH ACUTE;LATIN CAPITAL LETTER O WITH CIRCUMFLEX;",
  "LATIN CAPITAL LETTER O WITH TILDE;LATIN CAPITAL LETTER O WITH DIAERESIS;MULTIPLICATION SIGN;",
  "LATIN CAPITAL LETTER O WITH STROKE;LATIN CAPITAL LETTER U WITH GRAVE;",
  "LATIN CAPITAL LETTER U WITH ACUTE;LATIN CAPITAL LETTER U WITH CIRCUMFLEX;",
  "LATIN CAPITAL LETTER U WITH DIAERESIS;LATIN CAPITAL LETTER Y WITH ACUTE;",
  "LATIN CAPITAL LETTER THORN;LATIN SMALL LETTER SHARP S;LATIN SMALL LETTER A WITH GRAVE;",
  "LATIN SMALL LETTER A WITH ACUTE;LATIN SMALL LETTER A WITH CIRCUMFLEX;",
  "LATIN SMALL LETTER A WITH TILDE;LATIN SMALL LETTER A WITH DIAERESIS;",
  "LATIN SMALL LETTER A WITH RING ABOVE;LATIN SMALL LETTER AE;LATIN SMALL LETTER C WITH CEDILLA;",
  "LATIN SMALL LETTER E WITH GRAVE;LATIN SMALL LETTER E WITH ACUTE;",
  "LATIN SMALL LETTER E WITH CIRCUMFLEX;LATIN SMALL LETTER E WITH DIAERESIS;",
  "LATIN SMALL LETTER I WITH GRAVE;LATIN SMALL LETTER I WITH ACUTE;",
  "LATIN SMALL LETTER I WITH CIRCUMFLEX;LATIN SMALL LETTER I WITH DIAERESIS;",
  "LATIN SMALL LETTER ETH;LATIN SMALL LETTER N WITH TILDE;LATIN SMALL LETTER O WITH GRAVE;",
  "LATIN SMALL LETTER O WITH ACUTE;LATIN SMALL LETTER O WITH CIRCUMFLEX;",
  "LATIN SMALL LETTER O WITH TILDE;LATIN SMALL LETTER O WITH DIAERESIS;DIVISION SIGN;",
  "LATIN SMALL LETTER O WITH STROKE;LATIN SMALL LETTER U WITH GRAVE;",
  "LATIN SMALL LETTER U WITH ACUTE;LATIN SMALL LETTER U WITH CIRCUMFLEX;",
  "LATIN SMALL LETTER U WITH DIAERESIS;LATIN SMALL LETTER Y WITH ACUTE;LATIN SMALL LETTER THORN;",
  "LATIN SMALL LETTER Y WITH DIAERESIS;LATIN CAPITAL LETTER A WITH MACRON;",
  "LATIN SMALL LETTER A WITH MACRON;LATIN CAPITAL LETTER A WITH BREVE;",
  "LATIN SMALL LETTER A WITH BREVE;LATIN CAPITAL LETTER A WITH OGONEK;",
  "LATIN SMALL LETTER A WITH OGONEK;LATIN CAPITAL LETTER C WITH ACUTE;",
  "LATIN SMALL LETTER C WITH ACUTE;LATIN CAPITAL LETTER C WITH CIRCUMFLEX;",
  "LATIN SMALL LETTER C WITH CIRCUMFLEX;LATIN CAPITAL LETTER C WITH DOT ABOVE;",
  "LATIN SMALL LETTER C WITH DOT ABOVE;LATIN CAPITAL LETTER C WITH CARON;",
  "LATIN SMALL LETTER C WITH CARON;LATIN CAPITAL LETTER D WITH CARON;",
  "LATIN SMALL LETTER D WITH CARON;LATIN CAPITAL LETTER D WITH STROKE;",
  "LATIN SMALL LETTER D WITH STROKE;LATIN CAPITAL LETTER E WITH MACRON;",
  "LATIN SMALL LETTER E WITH MACRON;LATIN CAPITAL LETTER E WITH BREVE;",
  "LATIN SMALL LETTER E WITH BREVE;LATIN CAPITAL LETTER E WITH DOT ABOVE;",
  "LATIN SMALL LETTER E WITH DOT ABOVE;LATIN CAPITAL LETTER E WITH OGONEK;",
  "LATIN SMALL LETTER E WITH OGONEK;LATIN CAPITAL LETTER E WITH CARON;",
  "LATIN SMALL LETTER E WITH CARON;LATIN CAPITAL LETTER G WITH CIRCUMFLEX;",
  "LATIN SMALL LETTER G WITH CIRCUMFLEX;LATIN CAPITAL LETTER G WITH BREVE;",
  "LATIN SMALL LETTER G WITH BREVE;LATIN CAPITAL LETTER G WITH DOT ABOVE;",
  "LATIN SMALL LETTER G WITH DOT ABOVE;LATIN CAPITAL LETTER G WITH CEDILLA;",
  "LATIN SMALL LETTER G WITH CEDILLA;LATIN CAPITAL LETTER H WITH CIRCUMFLEX;",
  "LATIN SMALL LETTER H WITH CIRCUMFLEX;LATIN CAPITAL LETTER H WITH STROKE;",
  "LATIN SMALL LETTER H WITH STROKE;LATIN CAPITAL LETTER I WITH TILDE;",
  "LATIN SMALL LETTER I WITH TILDE;LATIN CAPITAL LETTER I WITH MACRON;",
  "LATIN SMALL LETTER I WITH MACRON;LATIN CAPITAL LETTER I WITH BREVE;",
  "LATIN SMALL LETTER I WITH BREVE;LATIN CAPITAL LETTER I WITH OGONEK;",
  "LATIN SMALL LETTER I WITH OGONEK;LATIN CAPITAL LETTER I WITH DOT ABOVE;",
  "LATIN SMALL LETTER DOTLESS I;LATIN CAPITAL LIGATURE IJ;LATIN SMALL LIGATURE IJ;",
  "LATIN CAPITAL LETTER J WITH CIRCUMFLEX;LATIN SMALL LETTER J WITH CIRCUMFLEX;",
  "LATIN CAPITAL LETTER K WITH CEDILLA;LATIN SMALL LETTER K WITH CEDILLA;LATIN SMALL LETTER KRA;",
  "LATIN CAPITAL LETTER L WITH ACUTE;LATIN SMALL LETTER L WITH ACUTE;",
  "LATIN CAPITAL LETTER L WITH CEDILLA;LATIN SMALL LETTER L WITH CEDILLA;",
  "LATIN CAPITAL LETTER L WITH CARON;LATIN SMALL LETTER L WITH CARON;",
  "LATIN CAPITAL LETTER L WITH MIDDLE DOT;LATIN SMALL LETTER L WITH MIDDLE DOT;",
  "LATIN CAPITAL LETTER L WITH STROKE;LATIN SMALL LETTER L WITH STROKE;",
  "LATIN CAPITAL LETTER N WITH ACUTE;LATIN SMALL LETTER N WITH ACUTE;",
  "LATIN CAPITAL LETTER N WITH CEDILLA;LATIN SMALL LETTER N WITH CEDILLA;",
  "LATIN CAPITAL LETTER N WITH CARON;LATIN SMALL LETTER N WITH CARON;",
  "LATIN SMALL LETTER N PRECEDED BY APOSTROPHE;LATIN CAPITAL LETTER ENG;LATIN SMALL LETTER ENG;",
  "LATIN CAPITAL LETTER O WITH MACRON;LATIN SMALL LETTER O WITH MACRON;",
  "LATIN CAPITAL LETTER O WITH BREVE;LATIN SMALL LETTER O WITH BREVE;",
  "LATIN CAPITAL LETTER O WITH DOUBLE ACUTE;LATIN SMALL LETTER O WITH DOUBLE ACUTE;",
  "LATIN CAPITAL LIGATURE OE;LATIN SMALL LIGATURE OE;LATIN CAPITAL LETTER R WITH ACUTE;",
  "LATIN SMALL LETTER R WITH ACUTE;LATIN CAPITAL LETTER R WITH CEDILLA;",
  "LATIN SMALL LETTER R WITH CEDILLA;LATIN CAPITAL LETTER R WITH CARON;",
  "LATIN SMALL LETTER R WITH CARON;LATIN CAPITAL LETTER S WITH ACUTE;",
  "LATIN SMALL LETTER S WITH ACUTE;LATIN CAPITAL LETTER S WITH CIRCUMFLEX;",
  "LATIN SMALL LETTER S WITH CIRCUMFLEX;LATIN CAPITAL LETTER S WITH CEDILLA;",
  "LATIN SMALL LETTER S WITH CEDILLA;LATIN CAPITAL LETTER S WITH CARON;",
  "LATIN SMALL LETTER S WITH CARON;LATIN CAPITAL LETTER T WITH CEDILLA;",
  "LATIN SMALL LETTER T WITH CEDILLA;LATIN CAPITAL LETTER T WITH CARON;",
  "LATIN SMALL LETTER T WITH CARON;LATIN CAPITAL LETTER T WITH STROKE;",
  "LATIN SMALL LETTER T WITH STROKE;LATIN CAPITAL LETTER U WITH TILDE;",
  "LATIN SMALL LETTER U WITH TILDE;LATIN CAPITAL LETTER U WITH MACRON;",
  "LATIN SMALL LETTER U WITH MACRON;LATIN CAPITAL LETTER U WITH BREVE;",
  "LATIN SMALL LETTER U WITH BREVE;LATIN CAPITAL LETTER U WITH RING ABOVE;",
  "LATIN SMALL LETTER U WITH RING ABOVE;LATIN CAPITAL LETTER U WITH DOUBLE ACUTE;",
  "LATIN SMALL LETTER U WITH DOUBLE ACUTE;LATIN CAPITAL LETTER U WITH OGONEK;",
  "LATIN SMALL LETTER U WITH OGONEK;LATIN CAPITAL LETTER W WITH CIRCUMFLEX;",
  "LATIN SMALL LETTER W WITH CIRCUMFLEX;LATIN CAPITAL LETTER Y WITH CIRCUMFLEX;",
  "LATIN SMALL LETTER Y WITH CIRCUMFLEX;LATIN CAPITAL LETTER Y WITH DIAERESIS;",
  "LATIN CAPITAL LETTER Z WITH ACUTE;LATIN SMALL LETTER Z WITH ACUTE;",
  "LATIN CAPITAL LETTER Z WITH DOT ABOVE;LATIN SMALL LETTER Z WITH DOT ABOVE;",
  "LATIN CAPITAL LETTER Z WITH CARON;LATIN SMALL LETTER Z WITH CARON;LATIN SMALL LETTER LONG S;",
  "LATIN SMALL LETTER B WITH STROKE;LATIN CAPITAL LETTER B WITH HOOK;",
  "LATIN CAPITAL LETTER B WITH TOPBAR;LATIN SMALL LETTER B WITH TOPBAR;",
  "LATIN CAPITAL LETTER TONE SIX;LATIN SMALL LETTER TONE SIX;LATIN CAPITAL LETTER OPEN O;",
  "LATIN CAPITAL LETTER C WITH HOOK;LATIN SMALL LETTER C WITH HOOK;",
  "LATIN CAPITAL LETTER AFRICAN D;LATIN CAPITAL LETTER D WITH HOOK;",
  "LATIN CAPITAL LETTER D WITH TOPBAR;LATIN SMALL LETTER D WITH TOPBAR;",
  "LATIN SMALL LETTER TURNED DELTA;LATIN CAPITAL LETTER REVERSED E;LATIN CAPITAL LETTER SCHWA;",
  "LATIN CAPITAL LETTER OPEN E;LATIN CAPITAL LETTER F WITH HOOK;LATIN SMALL LETTER F WITH HOOK;",
  "LATIN CAPITAL LETTER G WITH HOOK;LATIN CAPITAL LETTER GAMMA;LATIN SMALL LETTER HV;",
  "LATIN CAPITAL LETTER IOTA;LATIN CAPITAL LETTER I WITH STROKE;",
  "LATIN CAPITAL LETTER K WITH HOOK;LATIN SMALL LETTER K WITH HOOK;",
  "LATIN SMALL LETTER L WITH BAR;LATIN SMALL LETTER LAMBDA WITH STROKE;",
  "LATIN CAPITAL LETTER TURNED M;LATIN CAPITAL LETTER N WITH LEFT HOOK;",
  "LATIN SMALL LETTER N WITH LONG RIGHT LEG;LATIN CAPITAL LETTER O WITH MIDDLE TILDE;",
  "LATIN CAPITAL LETTER O WITH HORN;LATIN SMALL LETTER O WITH HORN;LATIN CAPITAL LETTER OI;",
  "LATIN SMALL LETTER OI;LATIN CAPITAL LETTER P WITH HOOK;LATIN SMALL LETTER P WITH HOOK;",
  "LATIN LETTER YR;LATIN CAPITAL LETTER TONE TWO;LATIN SMALL LETTER TONE TWO;",
  "LATIN CAPITAL LETTER ESH;LATIN LETTER REVERSED ESH LOOP;",
  "LATIN SMALL LETTER T WITH PALATAL HOOK;LATIN CAPITAL LETTER T WITH HOOK;",
  "LATIN SMALL LETTER T WITH HOOK;LATIN CAPITAL LETTER T WITH RETROFLEX HOOK;",
  "LATIN CAPITAL LETTER U WITH HORN;LATIN SMALL LETTER U WITH HORN;LATIN CAPITAL LETTER UPSILON;",
  "LATIN CAPITAL LETTER V WITH HOOK;LATIN CAPITAL LETTER Y WITH HOOK;",
  "LATIN SMALL LETTER Y WITH HOOK;LATIN CAPITAL LETTER Z WITH STROKE;",
  "LATIN SMALL LETTER Z WITH STROKE;LATIN CAPITAL LETTER EZH;LATIN CAPITAL LETTER EZH REVERSED;",
  "LATIN SMALL LETTER EZH REVERSED;LATIN SMALL LETTER EZH WITH TAIL;",
  "LATIN LETTER TWO WITH STROKE;LATIN CAPITAL LETTER TONE FIVE;LATIN SMALL LETTER TONE FIVE;",
  "LATIN LETTER INVERTED GLOTTAL STOP WITH STROKE;LATIN LETTER WYNN;LATIN LETTER DENTAL CLICK;",
  "LATIN LETTER LATERAL CLICK;LATIN LETTER ALVEOLAR CLICK;LATIN LETTER RETROFLEX CLICK;",
  "LATIN CAPITAL LETTER DZ WITH CARON;LATIN CAPITAL LETTER D WITH SMALL LETTER Z WITH CARON;",
  "LATIN SMALL LETTER DZ WITH CARON;LATIN CAPITAL LETTER LJ;",
  "LATIN CAPITAL LETTER L WITH SMALL LETTER J;LATIN SMALL LETTER LJ;LATIN CAPITAL LETTER NJ;",
  "LATIN CAPITAL LETTER N WITH SMALL LETTER J;LATIN SMALL LETTER NJ;",
  "LATIN CAPITAL LETTER A WITH CARON;LATIN SMALL LETTER A WITH CARON;",
  "LATIN CAPITAL LETTER I WITH CARON;LATIN SMALL LETTER I WITH CARON;",
  "LATIN CAPITAL LETTER O WITH CARON;LATIN SMALL LETTER O WITH CARON;",
  "LATIN CAPITAL LETTER U WITH CARON;LATIN SMALL LETTER U WITH CARON;",
  "LATIN CAPITAL LETTER U WITH DIAERESIS AND MACRON;",
  "LATIN SMALL LETTER U WITH DIAERESIS AND MACRON;",
  "LATIN CAPITAL LETTER U WITH DIAERESIS AND ACUTE;",
  "LATIN SMALL LETTER U WITH DIAERESIS AND ACUTE;",
  "LATIN CAPITAL LETTER U WITH DIAERESIS AND CARON;",
  "LATIN SMALL LETTER U WITH DIAERESIS AND CARON;",
  "LATIN CAPITAL LETTER U WITH DIAERESIS AND GRAVE;",
  "LATIN SMALL LETTER U WITH DIAERESIS AND GRAVE;LATIN SMALL LETTER TURNED E;",
  "LATIN CAPITAL LETTER A WITH DIAERESIS AND MACRON;",
  "LATIN SMALL LETTER A WITH DIAERESIS AND MACRON;",
  "LATIN CAPITAL LETTER A WITH DOT ABOVE AND MACRON;",
  "LATIN SMALL LETTER A WITH DOT ABOVE AND MACRON;LATIN CAPITAL LETTER AE WITH MACRON;",
  "LATIN SMALL LETTER AE WITH MACRON;LATIN CAPITAL LETTER G WITH STROKE;",
  "LATIN SMALL LETTER G WITH STROKE;LATIN CAPITAL LETTER G WITH CARON;",
  "LATIN SMALL LETTER G WITH CARON;LATIN CAPITAL LETTER K WITH CARON;",
  "LATIN SMALL LETTER K WITH CARON;LATIN CAPITAL LETTER O WITH OGONEK;",
  "LATIN SMALL LETTER O WITH OGONEK;LATIN CAPITAL LETTER O WITH OGONEK AND MACRON;",
  "LATIN SMALL LETTER O WITH OGONEK AND MACRON;LATIN CAPITAL LETTER EZH WITH CARON;",
  "LATIN SMALL LETTER EZH WITH CARON;LATIN SMALL LETTER J WITH CARON;LATIN CAPITAL LETTER DZ;",
  "LATIN CAPITAL LETTER D WITH SMALL LETTER Z;LATIN SMALL LETTER DZ;",
  "LATIN CAPITAL LETTER G WITH ACUTE;LATIN SMALL LETTER G WITH ACUTE;LATIN CAPITAL LETTER HWAIR;",
  "LATIN CAPITAL LETTER WYNN;LATIN CAPITAL LETTER N WITH GRAVE;LATIN SMALL LETTER N WITH GRAVE;",
  "LATIN CAPITAL LETTER A WITH RING ABOVE AND ACUTE;",
  "LATIN SMALL LETTER A WITH RING ABOVE AND ACUTE;LATIN CAPITAL LETTER AE WITH ACUTE;",
  "LATIN SMALL LETTER AE WITH ACUTE;LATIN CAPITAL LETTER O WITH STROKE AND ACUTE;",
  "LATIN SMALL LETTER O WITH STROKE AND ACUTE;LATIN CAPITAL LETTER A WITH DOUBLE GRAVE;",
  "LATIN SMALL LETTER A WITH DOUBLE GRAVE;LATIN CAPITAL LETTER A WITH INVERTED BREVE;",
  "LATIN SMALL LETTER A WITH INVERTED BREVE;LATIN CAPITAL LETTER E WITH DOUBLE GRAVE;",
  "LATIN SMALL LETTER E WITH DOUBLE GRAVE;LATIN CAPITAL LETTER E WITH INVERTED BREVE;",
  "LATIN SMALL LETTER E WITH INVERTED BREVE;LATIN CAPITAL LETTER I WITH DOUBLE GRAVE;",
  "LATIN SMALL LETTER I WITH DOUBLE GRAVE;LATIN CAPITAL LETTER I WITH INVERTED BREVE;",
  "LATIN SMALL LETTER I WITH INVERTED BREVE;LATIN CAPITAL LETTER O WITH DOUBLE GRAVE;",
  "LATIN SMALL LETTER O WITH DOUBLE GRAVE;LATIN CAPITAL LETTER O WITH INVERTED BREVE;",
  "LATIN SMALL LETTER O WITH INVERTED BREVE;LATIN CAPITAL LETTER R WITH DOUBLE GRAVE;",
  "LATIN SMALL LETTER R WITH DOUBLE GRAVE;LATIN CAPITAL LETTER R WITH INVERTED BREVE;",
  "LATIN SMALL LETTER R WITH INVERTED BREVE;LATIN CAPITAL LETTER U WITH DOUBLE GRAVE;",
  "LATIN SMALL LETTER U WITH DOUBLE GRAVE;LATIN CAPITAL LETTER U WITH INVERTED BREVE;",
  "LATIN SMALL LETTER U WITH INVERTED BREVE;LATIN CAPITAL LETTER S WITH COMMA BELOW;",
  "LATIN SMALL LETTER S WITH COMMA BELOW;LATIN CAPITAL LETTER T WITH COMMA BELOW;",
  "LATIN SMALL LETTER T WITH COMMA BELOW;LATIN CAPITAL LETTER YOGH;LATIN SMALL LETTER YOGH;",
  "LATIN CAPITAL LETTER H WITH CARON;LATIN SMALL LETTER H WITH CARON;",
  "LATIN CAPITAL LETTER N WITH LONG RIGHT LEG;LATIN SMALL LETTER D WITH CURL;",
  "LATIN CAPITAL LETTER OU;LATIN SMALL LETTER OU;LATIN CAPITAL LETTER Z WITH HOOK;",
  "LATIN SMALL LETTER Z WITH HOOK;LATIN CAPITAL LETTER A WITH DOT ABOVE;",
  "LATIN SMALL LETTER A WITH DOT ABOVE;LATIN CAPITAL LETTER E WITH CEDILLA;",
  "LATIN SMALL LETTER E WITH CEDILLA;LATIN CAPITAL LETTER O WITH DIAERESIS AND MACRON;",
  "LATIN SMALL LETTER O WITH DIAERESIS AND MACRON;LATIN CAPITAL LETTER O WITH TILDE AND MACRON;",
  "LATIN SMALL LETTER O WITH TILDE AND MACRON;LATIN CAPITAL LETTER O WITH DOT ABOVE;",
  "LATIN SMALL LETTER O WITH DOT ABOVE;LATIN CAPITAL LETTER O WITH DOT ABOVE AND MACRON;",
  "LATIN SMALL LETTER O WITH DOT ABOVE AND MACRON;LATIN CAPITAL LETTER Y WITH MACRON;",
  "LATIN SMALL LETTER Y WITH MACRON;LATIN SMALL LETTER L WITH CURL;",
  "LATIN SMALL LETTER N WITH CURL;LATIN SMALL LETTER T WITH CURL;LATIN SMALL LETTER DOTLESS J;",
  "LATIN SMALL LETTER DB DIGRAPH;LATIN SMALL LETTER QP DIGRAPH;",
  "LATIN CAPITAL LETTER A WITH STROKE;LATIN CAPITAL LETTER C WITH STROKE;",
  "LATIN SMALL LETTER C WITH STROKE;LATIN CAPITAL LETTER L WITH BAR;",
  "LATIN CAPITAL LETTER T WITH DIAGONAL STROKE;LATIN SMALL LETTER S WITH SWASH TAIL;",
  "LATIN SMALL LETTER Z WITH SWASH TAIL;LATIN CAPITAL LETTER GLOTTAL STOP;",
  "LATIN SMALL LETTER GLOTTAL STOP;LATIN CAPITAL LETTER B WITH STROKE;",
  "LATIN CAPITAL LETTER U BAR;LATIN CAPITAL LETTER TURNED V;LATIN CAPITAL LETTER E WITH STROKE;",
  "LATIN SMALL LETTER E WITH STROKE;LATIN CAPITAL LETTER J WITH STROKE;",
  "LATIN SMALL LETTER J WITH STROKE;LATIN CAPITAL LETTER SMALL Q WITH HOOK TAIL;",
  "LATIN SMALL LETTER Q WITH HOOK TAIL;LATIN CAPITAL LETTER R WITH STROKE;",
  "LATIN SMALL LETTER R WITH STROKE;LATIN CAPITAL LETTER Y WITH STROKE;",
  "LATIN SMALL LETTER Y WITH STROKE"]

private def nameLinesA2 : List String := [
  "MODIFIER LETTER SMALL H;MODIFIER LETTER SMALL H WITH HOOK;MODIFIER LETTER SMALL J;",
  "MODIFIER LETTER SMALL R;MODIFIER LETTER SMALL TURNED R;",
  "MODIFIER LETTER SMALL TURNED R WITH HOOK;MODIFIER LETTER SMALL CAPITAL INVERTED R;",
  "MODIFIER LETTER SMALL W;MODIFIER LETTER SMALL Y;MODIFIER LETTER PRIME;",
  "MODIFIER LETTER DOUBLE PRIME;MODIFIER LETTER TURNED COMMA;MODIFIER LETTER APOSTROPHE;",
  "MODIFIER LETTER REVERSED COMMA;MODIFIER LETTER RIGHT HALF RING;",
  "MODIFIER LETTER LEFT HALF RING;MODIFIER LETTER GLOTTAL STOP;",
  "MODIFIER LETTER REVERSED GLOTTAL STOP;MODIFIER LETTER LEFT ARROWHEAD;",
  "MODIFIER LETTER RIGHT ARROWHEAD;MODIFIER LETTER UP ARROWHEAD;MODIFIER LETTER DOWN ARROWHEAD;",
  "MODIFIER LETTER CIRCUMFLEX ACCENT;CARON;MODIFIER LETTER VERTICAL LINE;MODIFIER LETTER MACRON;",
  "MODIFIER LETTER ACUTE ACCENT;MODIFIER LETTER GRAVE ACCENT;MODIFIER LETTER LOW VERTICAL LINE;",
  "MODIFIER LETTER LOW MACRON;MODIFIER LETTER LOW GRAVE ACCENT;MODIFIER LETTER LOW ACUTE ACCENT;",
  "MODIFIER LETTER TRIANGULAR COLON;MODIFIER LETTER HALF TRIANGULAR COLON;",
  "MODIFIER LETTER CENTRED RIGHT HALF RING;MODIFIER LETTER CENTRED LEFT HALF RING;",
  "MODIFIER LETTER UP TACK;MODIFIER LETTER DOWN TACK;MODIFIER LETTER PLUS SIGN;",
  "MODIFIER LETTER MINUS SIGN;BREVE;DOT ABOVE;RING ABOVE;OGONEK;SMALL TILDE;DOUBLE ACUTE ACCENT;",
  "MODIFIER LETTER RHOTIC HOOK;MODIFIER LETTER CROSS ACCENT;MODIFIER LETTER SMALL GAMMA;",
  "MODIFIER LETTER SMALL L;MODIFIER LETTER SMALL S;MODIFIER LETTER SMALL X;",
  "MODIFIER LETTER SMALL REVERSED GLOTTAL STOP;MODIFIER LETTER EXTRA-HIGH TONE BAR;",
  "MODIFIER LETTER HIGH TONE BAR;MODIFIER LETTER MID TONE BAR;MODIFIER LETTER LOW TONE BAR;",
  "MODIFIER LETTER EXTRA-LOW TONE BAR;MODIFIER LETTER YIN DEPARTING TONE MARK;",
  "MODIFIER LETTER YANG DEPARTING TONE MARK;MODIFIER LETTER VOICING;MODIFIER LETTER UNASPIRATED;",
  "MODIFIER LETTER DOUBLE APOSTROPHE;MODIFIER LETTER LOW DOWN ARROWHEAD;",
  "MODIFIER LETTER LOW UP ARROWHEAD;MODIFIER LETTER LOW LEFT ARROWHEAD;",
  "MODIFIER LETTER LOW RIGHT ARROWHEAD;MODIFIER LETTER LOW RING;",
  "MODIFIER LETTER MIDDLE GRAVE ACCENT;MODIFIER LETTER MIDDLE DOUBLE GRAVE ACCENT;",
  "MODIFIER LETTER MIDDLE DOUBLE ACUTE ACCENT;MODIFIER LETTER LOW TILDE;",
  "MODIFIER LETTER RAISED COLON;MODIFIER LETTER BEGIN HIGH TONE;MODIFIER LETTER END HIGH TONE;",
  "MODIFIER LETTER BEGIN LOW TONE;MODIFIER LETTER END LOW TONE;MODIFIER LETTER SHELF;",
  "MODIFIER LETTER OPEN SHELF;MODIFIER LETTER LOW LEFT ARROW;COMBINING GRAVE ACCENT;",
  "COMBINING ACUTE ACCENT;COMBINING CIRCUMFLEX ACCENT;COMBINING TILDE;COMBINING MACRON;",
  "COMBINING OVERLINE;COMBINING BREVE;COMBINING DOT ABOVE;COMBINING DIAERESIS;",
  "COMBINING HOOK ABOVE;COMBINING RING ABOVE;COMBINING DOUBLE ACUTE ACCENT;COMBINING CARON;",
  "COMBINING VERTICAL LINE ABOVE;COMBINING DOUBLE VERTICAL LINE ABOVE;",
  "COMBINING DOUBLE GRAVE ACCENT;COMBINING CANDRABINDU;COMBINING INVERTED BREVE;",
  "COMBINING TURNED COMMA ABOVE;COMBINING COMMA ABOVE;COMBINING REVERSED COMMA ABOVE;",
  "COMBINING COMMA ABOVE RIGHT;COMBINING GRAVE ACCENT BELOW;COMBINING ACUTE ACCENT BELOW;",
  "COMBINING LEFT TACK BELOW;COMBINING RIGHT TACK BELOW;COMBINING LEFT ANGLE ABOVE;",
  "COMBINING HORN;COMBINING LEFT HALF RING BELOW;COMBINING UP TACK BELOW;",
  "COMBINING DOWN TACK BELOW;COMBINING PLUS SIGN BELOW;COMBINING MINUS SIGN BELOW;",
  "COMBINING PALATALIZED HOOK BELOW;COMBINING RETROFLEX HOOK BELOW;COMBINING DOT BELOW;",
  "COMBINING DIAERESIS BELOW;COMBINING RING BELOW;COMBINING COMMA BELOW;COMBINING CEDILLA;",
  "COMBINING OGONEK;COMBINING VERTICAL LINE BELOW;COMBINING BRIDGE BELOW;",
  "COMBINING INVERTED DOUBLE ARCH BELOW;COMBINING CARON BELOW;COMBINING CIRCUMFLEX ACCENT BELOW;",
  "COMBINING BREVE BELOW;COMBINING INVERTED BREVE BELOW;COMBINING TILDE BELOW;",
  "COMBINING MACRON BELOW;COMBINING LOW LINE;COMBINING DOUBLE LOW LINE;COMBINING TILDE OVERLAY;",
  "COMBINING SHORT STROKE OVERLAY;COMBINING LONG STROKE OVERLAY;COMBINING SHORT SOLIDUS OVERLAY;",
  "COMBINING LONG SOLIDUS OVERLAY;COMBINING RIGHT HALF RING BELOW;",
  "COMBINING INVERTED BRIDGE BELOW;COMBINING SQUARE BELOW;COMBINING SEAGULL BELOW;",
  "COMBINING X ABOVE;COMBINING VERTICAL TILDE;COMBINING DOUBLE OVERLINE;",
  "COMBINING GRAVE TONE MARK;COMBINING ACUTE TONE MARK;COMBINING GREEK PERISPOMENI;",
  "COMBINING GREEK KORONIS;COMBINING GREEK DIALYTIKA TONOS;COMBINING GREEK YPOGEGRAMMENI;",
  "COMBINING BRIDGE ABOVE;COMBINING EQUALS SIGN BELOW;COMBINING DOUBLE VERTICAL LINE BELOW;",
  "COMBINING LEFT ANGLE BELOW;COMBINING NOT TILDE ABOVE;COMBINING HOMOTHETIC ABOVE;",
  "COMBINING ALMOST EQUAL TO ABOVE;COMBINING LEFT RIGHT ARROW BELOW;",
  "COMBINING UPWARDS ARROW BELOW;COMBINING GRAPHEME JOINER;COMBINING RIGHT ARROWHEAD ABOVE;",
  "COMBINING LEFT HALF RING ABOVE;COMBINING FERMATA;COMBINING X BELOW;",
  "COMBINING LEFT ARROWHEAD BELOW;COMBINING RIGHT ARROWHEAD BELOW;",
  "COMBINING RIGHT ARROWHEAD AND UP ARROWHEAD BELOW;COMBINING RIGHT HALF RING ABOVE;",
  "COMBINING DOT ABOVE RIGHT;COMBINING ASTERISK BELOW;COMBINING DOUBLE RING BELOW;",
  "COMBINING ZIGZAG ABOVE;COMBINING DOUBLE BREVE BELOW;COMBINING DOUBLE BREVE;",
  "COMBINING DOUBLE MACRON;COMBINING DOUBLE MACRON BELOW;COMBINING DOUBLE TILDE;",
  "COMBINING DOUBLE INVERTED BREVE;COMBINING DOUBLE RIGHTWARDS ARROW BELOW;",
  "COMBINING LATIN SMALL LETTER A;COMBINING LATIN SMALL LETTER E;COMBINING LATIN SMALL LETTER I;",
  "COMBINING LATIN SMALL LETTER O;COMBINING LATIN SMALL LETTER U;COMBINING LATIN SMALL LETTER C;",
  "COMBINING LATIN SMALL LETTER D;COMBINING LATIN SMALL LETTER H;COMBINING LATIN SMALL LETTER M;",
  "COMBINING LATIN SMALL LETTER R;COMBINING LATIN SMALL LETTER T;COMBINING LATIN SMALL LETTER V;",
  "COMBINING LATIN SMALL LETTER X;GREEK CAPITAL LETTER HETA;GREEK SMALL LETTER HETA;",
  "GREEK CAPITAL LETTER ARCHAIC SAMPI;GREEK SMALL LETTER ARCHAIC SAMPI;GREEK NUMERAL SIGN;",
  "GREEK LOWER NUMERAL SIGN;GREEK CAPITAL LETTER PAMPHYLIAN DIGAMMA;",
  "GREEK SMALL LETTER PAMPHYLIAN DIGAMMA"]

private def nameLinesA3 : List String := [
  "GREEK YPOGEGRAMMENI;GREEK SMALL REVERSED LUNATE SIGMA SYMBOL;",
  "GREEK SMALL DOTTED LUNATE SIGMA SYMBOL;GREEK SMALL REVERSED DOTTED LUNATE SIGMA SYMBOL;",
  "GREEK QUESTION MARK;GREEK CAPITAL LETTER YOT;;;;;GREEK TONOS;GREEK DIALYTIKA TONOS;",
  "GREEK CAPITAL LETTER ALPHA WITH TONOS;GREEK ANO TELEIA;",
  "GREEK CAPITAL LETTER EPSILON WITH TONOS;GREEK CAPITAL LETTER ETA WITH TONOS;",
  "GREEK CAPITAL LETTER IOTA WITH TONOS;;GREEK CAPITAL LETTER OMICRON WITH TONOS;;",
  "GREEK CAPITAL LETTER UPSILON WITH TONOS;GREEK CAPITAL LETTER OMEGA WITH TONOS;",
  "GREEK SMALL LETTER IOTA WITH DIALYTIKA AND TONOS;GREEK CAPITAL LETTER ALPHA;",
  "GREEK CAPITAL LETTER BETA;GREEK CAPITAL LETTER GAMMA;GREEK CAPITAL LETTER DELTA;",
  "GREEK CAPITAL LETTER EPSILON;GREEK CAPITAL LETTER ZETA;GREEK CAPITAL LETTER ETA;",
  "GREEK CAPITAL LETTER THETA;GREEK CAPITAL LETTER IOTA;GREEK CAPITAL LETTER KAPPA;",
  "GREEK CAPITAL LETTER LAMDA;GREEK CAPITAL LETTER MU;GREEK CAPITAL LETTER NU;",
  "GREEK CAPITAL LETTER XI;GREEK CAPITAL LETTER OMICRON;GREEK CAPITAL LETTER PI;",
  "GREEK CAPITAL LETTER RHO;;GREEK CAPITAL LETTER SIGMA;GREEK CAPITAL LETTER TAU;",
  "GREEK CAPITAL LETTER UPSILON;GREEK CAPITAL LETTER PHI;GREEK CAPITAL LETTER CHI;",
  "GREEK CAPITAL LETTER PSI;GREEK CAPITAL LETTER OMEGA;GREEK CAPITAL LETTER IOTA WITH DIALYTIKA;",
  "GREEK CAPITAL LETTER UPSILON WITH DIALYTIKA;GREEK SMALL LETTER ALPHA WITH TONOS;",
  "GREEK SMALL LETTER EPSILON WITH TONOS;GREEK SMALL LETTER ETA WITH TONOS;",
  "GREEK SMALL LETTER IOTA WITH TONOS;GREEK SMALL LETTER UPSILON WITH DIALYTIKA AND TONOS;",
  "GREEK SMALL LETTER ALPHA;GREEK SMALL LETTER BETA;GREEK SMALL LETTER GAMMA;",
  "GREEK SMALL LETTER DELTA;GREEK SMALL LETTER EPSILON;GREEK SMALL LETTER ZETA;",
  "GREEK SMALL LETTER ETA;GREEK SMALL LETTER THETA;GREEK SMALL LETTER IOTA;",
  "GREEK SMALL LETTER KAPPA;GREEK SMALL LETTER LAMDA;GREEK SMALL LETTER MU;",
  "GREEK SMALL LETTER NU;GREEK SMALL LETTER XI;GREEK SMALL LETTER OMICRON;GREEK SMALL LETTER PI;",
  "GREEK SMALL LETTER RHO;GREEK SMALL LETTER FINAL SIGMA;GREEK SMALL LETTER SIGMA;",
  "GREEK SMALL LETTER TAU;GREEK SMALL LETTER UPSILON;GREEK SMALL LETTER PHI;",
  "GREEK SMALL LETTER CHI;GREEK SMALL LETTER PSI;GREEK SMALL LETTER OMEGA;",
  "GREEK SMALL LETTER IOTA WITH DIALYTIKA;GREEK SMALL LETTER UPSILON WITH DIALYTIKA;",
  "GREEK SMALL LETTER OMICRON WITH TONOS;GREEK SMALL LETTER UPSILON WITH TONOS;",
  "GREEK SMALL LETTER OMEGA WITH TONOS;GREEK CAPITAL KAI SYMBOL;GREEK BETA SYMBOL;",
  "GREEK THETA SYMBOL;GREEK UPSILON WITH HOOK SYMBOL;GREEK UPSILON WITH ACUTE AND HOOK SYMBOL;",
  "GREEK UPSILON WITH DIAERESIS AND HOOK SYMBOL;GREEK PHI SYMBOL;GREEK PI SYMBOL;",
  "GREEK KAI SYMBOL;GREEK LETTER ARCHAIC KOPPA;GREEK SMALL LETTER ARCHAIC KOPPA;",
  "GREEK LETTER STIGMA;GREEK SMALL LETTER STIGMA;GREEK LETTER DIGAMMA;",
  "GREEK SMALL LETTER DIGAMMA;GREEK LETTER KOPPA;GREEK SMALL LETTER KOPPA;GREEK LETTER SAMPI;",
  "GREEK SMALL LETTER SAMPI;COPTIC CAPITAL LETTER SHEI;COPTIC SMALL LETTER SHEI;",
  "COPTIC CAPITAL LETTER FEI;COPTIC SMALL LETTER FEI;COPTIC CAPITAL LETTER KHEI;",
  "COPTIC SMALL LETTER KHEI;COPTIC CAPITAL LETTER HORI;COPTIC SMALL LETTER HORI;",
  "COPTIC CAPITAL LETTER GANGIA;COPTIC SMALL LETTER GANGIA;COPTIC CAPITAL LETTER SHIMA;",
  "COPTIC SMALL LETTER SHIMA;COPTIC CAPITAL LETTER DEI;COPTIC SMALL LETTER DEI;",
  "GREEK KAPPA SYMBOL;GREEK RHO SYMBOL;GREEK LUNATE SIGMA SYMBOL;GREEK LETTER YOT;",
  "GREEK CAPITAL THETA SYMBOL;GREEK LUNATE EPSILON SYMBOL;GREEK REVERSED LUNATE EPSILON SYMBOL;",
  "GREEK CAPITAL LETTER SHO;GREEK SMALL LETTER SHO;GREEK CAPITAL LUNATE SIGMA SYMBOL;",
  "GREEK CAPITAL LETTER SAN;GREEK SMALL LETTER SAN;GREEK RHO WITH STROKE SYMBOL;",
  "GREEK CAPITAL REVERSED LUNATE SIGMA SYMBOL;GREEK CAPITAL DOTTED LUNATE SIGMA SYMBOL;",
  "GREEK CAPITAL REVERSED DOTTED LUNATE SIGMA SYMBOL;CYRILLIC CAPITAL LETTER IE WITH GRAVE;",
  "CYRILLIC CAPITAL LETTER IO;CYRILLIC CAPITAL LETTER DJE;CYRILLIC CAPITAL LETTER GJE;",
  "CYRILLIC CAPITAL LETTER UKRAINIAN IE;CYRILLIC CAPITAL LETTER DZE;",
  "CYRILLIC CAPITAL LETTER BYELORUSSIAN-UKRAINIAN I;CYRILLIC CAPITAL LETTER YI;",
  "CYRILLIC CAPITAL LETTER JE;CYRILLIC CAPITAL LETTER LJE;CYRILLIC CAPITAL LETTER NJE;",
  "CYRILLIC CAPITAL LETTER TSHE;CYRILLIC CAPITAL LETTER KJE;",
  "CYRILLIC CAPITAL LETTER I WITH GRAVE;CYRILLIC CAPITAL LETTER SHORT U;",
  "CYRILLIC CAPITAL LETTER DZHE;CYRILLIC CAPITAL LETTER A;CYRILLIC CAPITAL LETTER BE;",
  "CYRILLIC CAPITAL LETTER VE;CYRILLIC CAPITAL LETTER GHE;CYRILLIC CAPITAL LETTER DE;",
  "CYRILLIC CAPITAL LETTER IE;CYRILLIC CAPITAL LETTER ZHE;CYRILLIC CAPITAL LETTER ZE;",
  "CYRILLIC CAPITAL LETTER I;CYRILLIC CAPITAL LETTER SHORT I;CYRILLIC CAPITAL LETTER KA;",
  "CYRILLIC CAPITAL LETTER EL;CYRILLIC CAPITAL LETTER EM;CYRILLIC CAPITAL LETTER EN;",
  "CYRILLIC CAPITAL LETTER O;CYRILLIC CAPITAL LETTER PE;CYRILLIC CAPITAL LETTER ER;",
  "CYRILLIC CAPITAL LETTER ES;CYRILLIC CAPITAL LETTER TE;CYRILLIC CAPITAL LETTER U;",
  "CYRILLIC CAPITAL LETTER EF;CYRILLIC CAPITAL LETTER HA;CYRILLIC CAPITAL LETTER TSE;",
  "CYRILLIC CAPITAL LETTER CHE;CYRILLIC CAPITAL LETTER SHA;CYRILLIC CAPITAL LETTER SHCHA;",
  "CYRILLIC CAPITAL LETTER HARD SIGN;CYRILLIC CAPITAL LETTER YERU;",
  "CYRILLIC CAPITAL LETTER SOFT SIGN;CYRILLIC CAPITAL LETTER E;CYRILLIC CAPITAL LETTER YU;",
  "CYRILLIC CAPITAL LETTER YA;CYRILLIC SMALL LETTER A;CYRILLIC SMALL LETTER BE;",
  "CYRILLIC SMALL LETTER VE;CYRILLIC SMALL LETTER GHE;CYRILLIC SMALL LETTER DE;",
  "CYRILLIC SMALL LETTER IE;CYRILLIC SMALL LETTER ZHE;CYRILLIC SMALL LETTER ZE;",
  "CYRILLIC SMALL LETTER I;CYRILLIC SMALL LETTER SHORT I;CYRILLIC SMALL LETTER KA;",
  "CYRILLIC SMALL LETTER EL;CYRILLIC SMALL LETTER EM;CYRILLIC SMALL LETTER EN;",
  "CYRILLIC SMALL LETTER O;CYRILLIC SMALL LETTER PE;CYRILLIC SMALL LETTER ER;",
  "CYRILLIC SMALL LETTER ES;CYRILLIC SMALL LETTER TE;CYRILLIC SMALL LETTER U;",
  "CYRILLIC SMALL LETTER EF;CYRILLIC SMALL LETTER HA;CYRILLIC SMALL LETTER TSE;",
  "CYRILLIC SMALL LETTER CHE;CYRILLIC SMALL LETTER SHA;CYRILLIC SMALL LETTER SHCHA;",
  "CYRILLIC SMALL LETTER HARD SIGN;CYRILLIC SMALL LETTER YERU;CYRILLIC SMALL LETTER SOFT SIGN;",
  "CYRILLIC SMALL LETTER E;CYRILLIC SMALL LETTER YU;CYRILLIC SMALL LETTER YA;",
  "CYRILLIC SMALL LETTER IE WITH GRAVE;CYRILLIC SMALL LETTER IO;CYRILLIC SMALL LETTER DJE;",
  "CYRILLIC SMALL LETTER GJE;CYRILLIC SMALL LETTER UKRAINIAN IE;CYRILLIC SMALL LETTER DZE;",
  "CYRILLIC SMALL LETTER BYELORUSSIAN-UKRAINIAN I;CYRILLIC SMALL LETTER YI;",
  "CYRILLIC SMALL LETTER JE;CYRILLIC SMALL LETTER LJE;CYRILLIC SMALL LETTER NJE;",
  "CYRILLIC SMALL LETTER TSHE;CYRILLIC SMALL LETTER KJE;CYRILLIC SMALL LETTER I WITH GRAVE;",
  "CYRILLIC SMALL LETTER SHORT U;CYRILLIC SMALL LETTER DZHE;CYRILLIC CAPITAL LETTER OMEGA;",
  "CYRILLIC SMALL LETTER OMEGA;CYRILLIC CAPITAL LETTER YAT;CYRILLIC SMALL LETTER YAT;",
  "CYRILLIC CAPITAL LETTER IOTIFIED E;CYRILLIC SMALL LETTER IOTIFIED E;",
  "CYRILLIC CAPITAL LETTER LITTLE YUS;CYRILLIC SMALL LETTER LITTLE YUS;",
  "CYRILLIC CAPITAL LETTER IOTIFIED LITTLE YUS;CYRILLIC SMALL LETTER IOTIFIED LITTLE YUS;",
  "CYRILLIC CAPITAL LETTER BIG YUS;CYRILLIC SMALL LETTER BIG YUS;",
  "CYRILLIC CAPITAL LETTER IOTIFIED BIG YUS;CYRILLIC SMALL LETTER IOTIFIED BIG YUS;",
  "CYRILLIC CAPITAL LETTER KSI;CYRILLIC SMALL LETTER KSI;CYRILLIC CAPITAL LETTER PSI;",
  "CYRILLIC SMALL LETTER PSI;CYRILLIC CAPITAL LETTER FITA;CYRILLIC SMALL LETTER FITA;",
  "CYRILLIC CAPITAL LETTER IZHITSA;CYRILLIC SMALL LETTER IZHITSA;",
  "CYRILLIC CAPITAL LETTER IZHITSA WITH DOUBLE GRAVE ACCENT;",
  "CYRILLIC SMALL LETTER IZHITSA WITH DOUBLE GRAVE ACCENT;CYRILLIC CAPITAL LETTER UK;",
  "CYRILLIC SMALL LETTER UK;CYRILLIC CAPITAL LETTER ROUND OMEGA;",
  "CYRILLIC SMALL LETTER ROUND OMEGA;CYRILLIC CAPITAL LETTER OMEGA WITH TITLO;",
  "CYRILLIC SMALL LETTER OMEGA WITH TITLO;CYRILLIC CAPITAL LETTER OT;CYRILLIC SMALL LETTER OT;",
  "CYRILLIC CAPITAL LETTER KOPPA;CYRILLIC SMALL LETTER KOPPA;CYRILLIC THOUSANDS SIGN;",
  "COMBINING CYRILLIC TITLO;COMBINING CYRILLIC PALATALIZATION;COMBINING CYRILLIC DASIA PNEUMATA;",
  "COMBINING CYRILLIC PSILI PNEUMATA;COMBINING CYRILLIC POKRYTIE;",
  "COMBINING CYRILLIC HUNDRED THOUSANDS SIGN;COMBINING CYRILLIC MILLIONS SIGN;",
  "CYRILLIC CAPITAL LETTER SHORT I WITH TAIL;CYRILLIC SMALL LETTER SHORT I WITH TAIL;",
  "CYRILLIC CAPITAL LETTER SEMISOFT SIGN;CYRILLIC SMALL LETTER SEMISOFT SIGN;",
  "CYRILLIC CAPITAL LETTER ER WITH TICK;CYRILLIC SMALL LETTER ER WITH TICK;",
  "CYRILLIC CAPITAL LETTER GHE WITH UPTURN;CYRILLIC SMALL LETTER GHE WITH UPTURN;",
  "CYRILLIC CAPITAL LETTER GHE WITH STROKE;CYRILLIC SMALL LETTER GHE WITH STROKE;",
  "CYRILLIC CAPITAL LETTER GHE WITH MIDDLE HOOK;CYRILLIC SMALL LETTER GHE WITH MIDDLE HOOK;",
  "CYRILLIC CAPITAL LETTER ZHE WITH DESCENDER;CYRILLIC SMALL LETTER ZHE WITH DESCENDER;",
  "CYRILLIC CAPITAL LETTER ZE WITH DESCENDER;CYRILLIC SMALL LETTER ZE WITH DESCENDER;",
  "CYRILLIC CAPITAL LETTER KA WITH DESCENDER;CYRILLIC SMALL LETTER KA WITH DESCENDER;",
  "CYRILLIC CAPITAL LETTER KA WITH VERTICAL STROKE;",
  "CYRILLIC SMALL LETTER KA WITH VERTICAL STROKE;CYRILLIC CAPITAL LETTER KA WITH STROKE;",
  "CYRILLIC SMALL LETTER KA WITH STROKE;CYRILLIC CAPITAL LETTER BASHKIR KA;",
  "CYRILLIC SMALL LETTER BASHKIR KA;CYRILLIC CAPITAL LETTER EN WITH DESCENDER;",
  "CYRILLIC SMALL LETTER EN WITH DESCENDER;CYRILLIC CAPITAL LIGATURE EN GHE;",
  "CYRILLIC SMALL LIGATURE EN GHE;CYRILLIC CAPITAL LETTER PE WITH MIDDLE HOOK;",
  "CYRILLIC SMALL LETTER PE WITH MIDDLE HOOK;CYRILLIC CAPITAL LETTER ABKHASIAN HA;",
  "CYRILLIC SMALL LETTER ABKHASIAN HA;CYRILLIC CAPITAL LETTER ES WITH DESCENDER;",
  "CYRILLIC SMALL LETTER ES WITH DESCENDER;CYRILLIC CAPITAL LETTER TE WITH DESCENDER;",
  "CYRILLIC SMALL LETTER TE WITH DESCENDER;CYRILLIC CAPITAL LETTER STRAIGHT U;",
  "CYRILLIC SMALL LETTER STRAIGHT U;CYRILLIC CAPITAL LETTER STRAIGHT U WITH STROKE;",
  "CYRILLIC SMALL LETTER STRAIGHT U WITH STROKE;CYRILLIC CAPITAL LETTER HA WITH DESCENDER;",
  "CYRILLIC SMALL LETTER HA WITH DESCENDER;CYRILLIC CAPITAL LIGATURE TE TSE;",
  "CYRILLIC SMALL LIGATURE TE TSE;CYRILLIC CAPITAL LETTER CHE WITH DESCENDER;",
  "CYRILLIC SMALL LETTER CHE WITH DESCENDER;CYRILLIC CAPITAL LETTER CHE WITH VERTICAL STROKE;",
  "CYRILLIC SMALL LETTER CHE WITH VERTICAL STROKE;CYRILLIC CAPITAL LETTER SHHA;",
  "CYRILLIC SMALL LETTER SHHA;CYRILLIC CAPITAL LETTER ABKHASIAN CHE;",
  "CYRILLIC SMALL LETTER ABKHASIAN CHE;CYRILLIC CAPITAL LETTER ABKHASIAN CHE WITH DESCENDER;",
  "CYRILLIC SMALL LETTER ABKHASIAN CHE WITH DESCENDER;CYRILLIC LETTER PALOCHKA;",
  "CYRILLIC CAPITAL LETTER ZHE WITH BREVE;CYRILLIC SMALL LETTER ZHE WITH BREVE;",
  "CYRILLIC CAPITAL LETTER KA WITH HOOK;CYRILLIC SMALL LETTER KA WITH HOOK;",
  "CYRILLIC CAPITAL LETTER EL WITH TAIL;CYRILLIC SMALL LETTER EL WITH TAIL;",
  "CYRILLIC CAPITAL LETTER EN WITH HOOK;CYRILLIC SMALL LETTER EN WITH HOOK;",
  "CYRILLIC CAPITAL LETTER EN WITH TAIL;CYRILLIC SMALL LETTER EN WITH TAIL;",
  "CYRILLIC CAPITAL LETTER KHAKASSIAN CHE;CYRILLIC SMALL LETTER KHAKASSIAN CHE;",
  "CYRILLIC CAPITAL LETTER EM WITH TAIL;CYRILLIC SMALL LETTER EM WITH TAIL;",
  "CYRILLIC SMALL LETTER PALOCHKA;CYRILLIC CAPITAL LETTER A WITH BREVE;",
  "CYRILLIC SMALL LETTER A WITH BREVE;CYRILLIC CAPITAL LETTER A WITH DIAERESIS;",
  "CYRILLIC SMALL LETTER A WITH DIAERESIS;CYRILLIC CAPITAL LIGATURE A IE;",
  "CYRILLIC SMALL LIGATURE A IE;CYRILLIC CAPITAL LETTER IE WITH BREVE;",
  "CYRILLIC SMALL LETTER IE WITH BREVE;CYRILLIC CAPITAL LETTER SCHWA;",
  "CYRILLIC SMALL LETTER SCHWA;CYRILLIC CAPITAL LETTER SCHWA WITH DIAERESIS;",
  "CYRILLIC SMALL LETTER SCHWA WITH DIAERESIS;CYRILLIC CAPITAL LETTER ZHE WITH DIAERESIS;",
  "CYRILLIC SMALL LETTER ZHE WITH DIAERESIS;CYRILLIC CAPITAL LETTER ZE WITH DIAERESIS;",
  "CYRILLIC SMALL LETTER ZE WITH DIAERESIS;CYRILLIC CAPITAL LETTER ABKHASIAN DZE;",
  "CYRILLIC SMALL LETTER ABKHASIAN DZE;CYRILLIC CAPITAL LETTER I WITH MACRON;",
  "CYRILLIC SMALL LETTER I WITH MACRON;CYRILLIC CAPITAL LETTER I WITH DIAERESIS;",
  "CYRILLIC SMALL LETTER I WITH DIAERESIS;CYRILLIC CAPITAL LETTER O WITH DIAERESIS;",
  "CYRILLIC SMALL LETTER O WITH DIAERESIS;CYRILLIC CAPITAL LETTER BARRED O;",
  "CYRILLIC SMALL LETTER BARRED O;CYRILLIC CAPITAL LETTER BARRED O WITH DIAERESIS;",
  "CYRILLIC SMALL LETTER BARRED O WITH DIAERESIS;CYRILLIC CAPITAL LETTER E WITH DIAERESIS;",
  "CYRILLIC SMALL LETTER E WITH DIAERESIS;CYRILLIC CAPITAL LETTER U WITH MACRON;",
  "CYRILLIC SMALL LETTER U WITH MACRON;CYRILLIC CAPITAL LETTER U WITH DIAERESIS;",
  "CYRILLIC SMALL LETTER U WITH DIAERESIS;CYRILLIC CAPITAL LETTER U WITH DOUBLE ACUTE;",
  "CYRILLIC SMALL LETTER U WITH DOUBLE ACUTE;CYRILLIC CAPITAL LETTER CHE WITH DIAERESIS;",
  "CYRILLIC SMALL LETTER CHE WITH DIAERESIS;CYRILLIC CAPITAL LETTER GHE WITH DESCENDER;",
  "CYRILLIC SMALL LETTER GHE WITH DESCENDER;CYRILLIC CAPITAL LETTER YERU WITH DIAERESIS;",
  "CYRILLIC SMALL LETTER YERU WITH DIAERESIS;CYRILLIC CAPITAL LETTER GHE WITH STROKE AND HOOK;",
  "CYRILLIC SMALL LETTER GHE WITH STROKE AND HOOK;CYRILLIC CAPITAL LETTER HA WITH HOOK;",
  "CYRILLIC SMALL LETTER HA WITH HOOK;CYRILLIC CAPITAL LETTER HA WITH STROKE;",
  "CYRILLIC SMALL LETTER HA WITH STROKE;CYRILLIC CAPITAL LETTER KOMI DE;",
  "CYRILLIC SMALL LETTER KOMI DE;CYRILLIC CAPITAL LETTER KOMI DJE;",
  "CYRILLIC SMALL LETTER KOMI DJE;CYRILLIC CAPITAL LETTER KOMI ZJE;",
  "CYRILLIC SMALL LETTER KOMI ZJE;CYRILLIC CAPITAL LETTER KOMI DZJE;",
  "CYRILLIC SMALL LETTER KOMI DZJE;CYRILLIC CAPITAL LETTER KOMI LJE;",
  "CYRILLIC SMALL LETTER KOMI LJE;CYRILLIC CAPITAL LETTER KOMI NJE;",
  "CYRILLIC SMALL LETTER KOMI NJE;CYRILLIC CAPITAL LETTER KOMI SJE;",
  "CYRILLIC SMALL LETTER KOMI SJE;CYRILLIC CAPITAL LETTER KOMI TJE;",
  "CYRILLIC SMALL LETTER KOMI TJE;CYRILLIC CAPITAL LETTER REVERSED ZE;",
  "CYRILLIC SMALL LETTER REVERSED ZE;CYRILLIC CAPITAL LETTER EL WITH HOOK;",
  "CYRILLIC SMALL LETTER EL WITH HOOK;CYRILLIC CAPITAL LETTER LHA;CYRILLIC SMALL LETTER LHA;",
  "CYRILLIC CAPITAL LETTER RHA;CYRILLIC SMALL LETTER RHA;CYRILLIC CAPITAL LETTER YAE;",
  "CYRILLIC SMALL LETTER YAE;CYRILLIC CAPITAL LETTER QA;CYRILLIC SMALL LETTER QA;",
  "CYRILLIC CAPITAL LETTER WE;CYRILLIC SMALL LETTER WE;CYRILLIC CAPITAL LETTER ALEUT KA;",
  "CYRILLIC SMALL LETTER ALEUT KA;CYRILLIC CAPITAL LETTER EL WITH MIDDLE HOOK;",
  "CYRILLIC SMALL LETTER EL WITH MIDDLE HOOK;CYRILLIC CAPITAL LETTER EN WITH MIDDLE HOOK;",
  "CYRILLIC SMALL LETTER EN WITH MIDDLE HOOK;CYRILLIC CAPITAL LETTER PE WITH DESCENDER;",
  "CYRILLIC SMALL LETTER PE WITH DESCENDER;CYRILLIC CAPITAL LETTER SHHA WITH DESCENDER;",
  "CYRILLIC SMALL LETTER SHHA WITH DESCENDER;CYRILLIC CAPITAL LETTER EN WITH LEFT HOOK;",
  "CYRILLIC SMALL LETTER EN WITH LEFT HOOK;CYRILLIC CAPITAL LETTER DZZHE;",
  "CYRILLIC SMALL LETTER DZZHE;CYRILLIC CAPITAL LETTER DCHE;CYRILLIC SMALL LETTER DCHE;",
  "CYRILLIC CAPITAL LETTER EL WITH DESCENDER;CYRILLIC SMALL LETTER EL WITH DESCENDER"]

private def nameLinesA4 : List String := [
  "HEBREW LETTER ALEF;HEBREW LETTER BET;HEBREW LETTER GIMEL;HEBREW LETTER DALET;",
  "HEBREW LETTER HE;HEBREW LETTER VAV;HEBREW LETTER ZAYIN;HEBREW LETTER HET;HEBREW LETTER TET;",
  "HEBREW LETTER YOD;HEBREW LETTER FINAL KAF;HEBREW LETTER KAF;HEBREW LETTER LAMED;",
  "HEBREW LETTER FINAL MEM;HEBREW LETTER MEM;HEBREW LETTER FINAL NUN;HEBREW LETTER NUN;",
  "HEBREW LETTER SAMEKH;HEBREW LETTER AYIN;HEBREW LETTER FINAL PE;HEBREW LETTER PE;",
  "HEBREW LETTER FINAL TSADI;HEBREW LETTER TSADI;HEBREW LETTER QOF;HEBREW LETTER RESH;",
  "HEBREW LETTER SHIN;HEBREW LETTER TAV"]

private def nameLinesA5 : List String := [
  "ARABIC LETTER HAMZA;ARABIC LETTER ALEF WITH MADDA ABOVE;ARABIC LETTER ALEF WITH HAMZA ABOVE;",
  "ARABIC LETTER WAW WITH HAMZA ABOVE;ARABIC LETTER ALEF WITH HAMZA BELOW;",
  "ARABIC LETTER YEH WITH HAMZA ABOVE;ARABIC LETTER ALEF;ARABIC LETTER BEH;",
  "ARABIC LETTER TEH MARBUTA;ARABIC LETTER TEH;ARABIC LETTER THEH;ARABIC LETTER JEEM;",
  "ARABIC LETTER HAH;ARABIC LETTER KHAH;ARABIC LETTER DAL;ARABIC LETTER THAL;ARABIC LETTER REH;",
  "ARABIC LETTER ZAIN;ARABIC LETTER SEEN;ARABIC LETTER SHEEN;ARABIC LETTER SAD;",
  "ARABIC LETTER DAD;ARABIC LETTER TAH;ARABIC LETTER ZAH;ARABIC LETTER AIN;ARABIC LETTER GHAIN;",
  "ARABIC LETTER KEHEH WITH TWO DOTS ABOVE;ARABIC LETTER KEHEH WITH THREE DOTS BELOW;",
  "ARABIC LETTER FARSI YEH WITH INVERTED V;ARABIC LETTER FARSI YEH WITH TWO DOTS ABOVE;",
  "ARABIC LETTER FARSI YEH WITH THREE DOTS ABOVE;ARABIC TATWEEL;ARABIC LETTER FEH;",
  "ARABIC LETTER QAF;ARABIC LETTER KAF;ARABIC LETTER LAM;ARABIC LETTER MEEM;ARABIC LETTER NOON;",
  "ARABIC LETTER HEH;ARABIC LETTER WAW;ARABIC LETTER ALEF MAKSURA;ARABIC LETTER YEH"]

private def nameLinesA6 : List String := [
  "ARABIC-INDIC DIGIT ZERO;ARABIC-INDIC DIGIT ONE;ARABIC-INDIC DIGIT TWO;",
  "ARABIC-INDIC DIGIT THREE;ARABIC-INDIC DIGIT FOUR;ARABIC-INDIC DIGIT FIVE;",
  "ARABIC-INDIC DIGIT SIX;ARABIC-INDIC DIGIT SEVEN;ARABIC-INDIC DIGIT EIGHT;",
  "ARABIC-INDIC DIGIT NINE"]

private def nameLinesA7 : List String := [
  "DEVANAGARI LETTER A;DEVANAGARI LETTER AA;DEVANAGARI LETTER I;DEVANAGARI LETTER II;",
  "DEVANAGARI LETTER U;DEVANAGARI LETTER UU;DEVANAGARI LETTER VOCALIC R;",
  "DEVANAGARI LETTER VOCALIC L;DEVANAGARI LETTER CANDRA E;DEVANAGARI LETTER SHORT E;",
  "DEVANAGARI LETTER E;DEVANAGARI LETTER AI;DEVANAGARI LETTER CANDRA O;",
  "DEVANAGARI LETTER SHORT O;DEVANAGARI LETTER O;DEVANAGARI LETTER AU;DEVANAGARI LETTER KA;",
  "DEVANAGARI LETTER KHA;DEVANAGARI LETTER GA;DEVANAGARI LETTER GHA;DEVANAGARI LETTER NGA;",
  "DEVANAGARI LETTER CA;DEVANAGARI LETTER CHA;DEVANAGARI LETTER JA;DEVANAGARI LETTER JHA;",
  "DEVANAGARI LETTER NYA;DEVANAGARI LETTER TTA;DEVANAGARI LETTER TTHA;DEVANAGARI LETTER DDA;",
  "DEVANAGARI LETTER DDHA;DEVANAGARI LETTER NNA;DEVANAGARI LETTER TA;DEVANAGARI LETTER THA;",
  "DEVANAGARI LETTER DA;DEVANAGARI LETTER DHA;DEVANAGARI LETTER NA;DEVANAGARI LETTER NNNA;",
  "DEVANAGARI LETTER PA;DEVANAGARI LETTER PHA;DEVANAGARI LETTER BA;DEVANAGARI LETTER BHA;",
  "DEVANAGARI LETTER MA;DEVANAGARI LETTER YA;DEVANAGARI LETTER RA;DEVANAGARI LETTER RRA;",
  "DEVANAGARI LETTER LA;DEVANAGARI LETTER LLA;DEVANAGARI LETTER LLLA;DEVANAGARI LETTER VA;",
  "DEVANAGARI LETTER SHA;DEVANAGARI LETTER SSA;DEVANAGARI LETTER SA;DEVANAGARI LETTER HA"]

private def nameLinesA8 : List String := [
  "DEVANAGARI DIGIT ZERO;DEVANAGARI DIGIT ONE;DEVANAGARI DIGIT TWO;DEVANAGARI DIGIT THREE;",
  "DEVANAGARI DIGIT FOUR;DEVANAGARI DIGIT FIVE;DEVANAGARI DIGIT SIX;DEVANAGARI DIGIT SEVEN;",
  "DEVANAGARI DIGIT EIGHT;DEVANAGARI DIGIT NINE"]

private def nameLinesA9 : List String := [
  "THAI CHARACTER KO KAI;THAI CHARACTER KHO KHAI;THAI CHARACTER KHO KHUAT;",
  "THAI CHARACTER KHO KHWAI;THAI CHARACTER KHO KHON;THAI CHARACTER KHO RAKHANG;",
  "THAI CHARACTER NGO NGU;THAI CHARACTER CHO CHAN;THAI CHARACTER CHO CHING;",
  "THAI CHARACTER CHO CHANG;THAI CHARACTER SO SO;THAI CHARACTER CHO CHOE;THAI CHARACTER YO YING;",
  "THAI CHARACTER DO CHADA;THAI CHARACTER TO PATAK;THAI CHARACTER THO THAN;",
  "THAI CHARACTER THO NANGMONTHO;THAI CHARACTER THO PHUTHAO;THAI CHARACTER NO NEN;",
  "THAI CHARACTER DO DEK;THAI CHARACTER TO TAO;THAI CHARACTER THO THUNG;",
  "THAI CHARACTER THO THAHAN;THAI CHARACTER THO THONG;THAI CHARACTER NO NU;",
  "THAI CHARACTER BO BAIMAI;THAI CHARACTER PO PLA;THAI CHARACTER PHO PHUNG;THAI CHARACTER FO FA;",
  "THAI CHARACTER PHO PHAN;THAI CHARACTER FO FAN;THAI CHARACTER PHO SAMPHAO;",
  "THAI CHARACTER MO MA;THAI CHARACTER YO YAK;THAI CHARACTER RO RUA;THAI CHARACTER RU;",
  "THAI CHARACTER LO LING;THAI CHARACTER LU;THAI CHARACTER WO WAEN;THAI CHARACTER SO SALA;",
  "THAI CHARACTER SO RUSI;THAI CHARACTER SO SUA;THAI CHARACTER HO HIP;THAI CHARACTER LO CHULA;",
  "THAI CHARACTER O ANG;THAI CHARACTER HO NOKHUK;THAI CHARACTER PAIYANNOI;THAI CHARACTER SARA A;",
  "THAI CHARACTER MAI HAN-AKAT;THAI CHARACTER SARA AA;THAI CHARACTER SARA AM;",
  "THAI CHARACTER SARA I;THAI CHARACTER SARA II;THAI CHARACTER SARA UE;THAI CHARACTER SARA UEE;",
  "THAI CHARACTER SARA U;THAI CHARACTER SARA UU;THAI CHARACTER PHINTHU;;;;;",
  "THAI CURRENCY SYMBOL BAHT;THAI CHARACTER SARA E;THAI CHARACTER SARA AE;THAI CHARACTER SARA O;",
  "THAI CHARACTER SARA AI MAIMUAN;THAI CHARACTER SARA AI MAIMALAI;THAI CHARACTER LAKKHANGYAO;",
  "THAI CHARACTER MAIYAMOK;THAI CHARACTER MAITAIKHU;THAI CHARACTER MAI EK;",
  "THAI CHARACTER MAI THO;THAI CHARACTER MAI TRI;THAI CHARACTER MAI CHATTAWA;",
  "THAI CHARACTER THANTHAKHAT;THAI CHARACTER NIKHAHIT;THAI CHARACTER YAMAKKAN;",
  "THAI CHARACTER FONGMAN;THAI DIGIT ZERO;THAI DIGIT ONE;THAI DIGIT TWO;THAI DIGIT THREE;",
  "THAI DIGIT FOUR;THAI DIGIT FIVE;THAI DIGIT SIX;THAI DIGIT SEVEN;THAI DIGIT EIGHT;",
  "THAI DIGIT NINE;THAI CHARACTER ANGKHANKHU;THAI CHARACTER KHOMUT"]

private def nameLinesB0 : List String := [
  "LATIN CAPITAL LETTER A WITH RING BELOW;LATIN SMALL LETTER A WITH RING BELOW;",
  "LATIN CAPITAL LETTER B WITH DOT ABOVE;LATIN SMALL LETTER B WITH DOT ABOVE;",
  "LATIN CAPITAL LETTER B WITH DOT BELOW;LATIN SMALL LETTER B WITH DOT BELOW;",
  "LATIN CAPITAL LETTER B WITH LINE BELOW;LATIN SMALL LETTER B WITH LINE BELOW;",
  "LATIN CAPITAL LETTER C WITH CEDILLA AND ACUTE;LATIN SMALL LETTER C WITH CEDILLA AND ACUTE;",
  "LATIN CAPITAL LETTER D WITH DOT ABOVE;LATIN SMALL LETTER D WITH DOT ABOVE;",
  "LATIN CAPITAL LETTER D WITH DOT BELOW;LATIN SMALL LETTER D WITH DOT BELOW;",
  "LATIN CAPITAL LETTER D WITH LINE BELOW;LATIN SMALL LETTER D WITH LINE BELOW;",
  "LATIN CAPITAL LETTER D WITH CEDILLA;LATIN SMALL LETTER D WITH CEDILLA;",
  "LATIN CAPITAL LETTER D WITH CIRCUMFLEX BELOW;LATIN SMALL LETTER D WITH CIRCUMFLEX BELOW;",
  "LATIN CAPITAL LETTER E WITH MACRON AND GRAVE;LATIN SMALL LETTER E WITH MACRON AND GRAVE;",
  "LATIN CAPITAL LETTER E WITH MACRON AND ACUTE;LATIN SMALL LETTER E WITH MACRON AND ACUTE;",
  "LATIN CAPITAL LETTER E WITH CIRCUMFLEX BELOW;LATIN SMALL LETTER E WITH CIRCUMFLEX BELOW;",
  "LATIN CAPITAL LETTER E WITH TILDE BELOW;LATIN SMALL LETTER E WITH TILDE BELOW;",
  "LATIN CAPITAL LETTER E WITH CEDILLA AND BREVE;LATIN SMALL LETTER E WITH CEDILLA AND BREVE;",
  "LATIN CAPITAL LETTER F WITH DOT ABOVE;LATIN SMALL LETTER F WITH DOT ABOVE;",
  "LATIN CAPITAL LETTER G WITH MACRON;LATIN SMALL LETTER G WITH MACRON;",
  "LATIN CAPITAL LETTER H WITH DOT ABOVE;LATIN SMALL LETTER H WITH DOT ABOVE;",
  "LATIN CAPITAL LETTER H WITH DOT BELOW;LATIN SMALL LETTER H WITH DOT BELOW;",
  "LATIN CAPITAL LETTER H WITH DIAERESIS;LATIN SMALL LETTER H WITH DIAERESIS;",
  "LATIN CAPITAL LETTER H WITH CEDILLA;LATIN SMALL LETTER H WITH CEDILLA;",
  "LATIN CAPITAL LETTER H WITH BREVE BELOW;LATIN SMALL LETTER H WITH BREVE BELOW;",
  "LATIN CAPITAL LETTER I WITH TILDE BELOW;LATIN SMALL LETTER I WITH TILDE BELOW;",
  "LATIN CAPITAL LETTER I WITH DIAERESIS AND ACUTE;",
  "LATIN SMALL LETTER I WITH DIAERESIS AND ACUTE;LATIN CAPITAL LETTER K WITH ACUTE;",
  "LATIN SMALL LETTER K WITH ACUTE;LATIN CAPITAL LETTER K WITH DOT BELOW;",
  "LATIN SMALL LETTER K WITH DOT BELOW;LATIN CAPITAL LETTER K WITH LINE BELOW;",
  "LATIN SMALL LETTER K WITH LINE BELOW;LATIN CAPITAL LETTER L WITH DOT BELOW;",
  "LATIN SMALL LETTER L WITH DOT BELOW;LATIN CAPITAL LETTER L WITH DOT BELOW AND MACRON;",
  "LATIN SMALL LETTER L WITH DOT BELOW AND MACRON;LATIN CAPITAL LETTER L WITH LINE BELOW;",
  "LATIN SMALL LETTER L WITH LINE BELOW;LATIN CAPITAL LETTER L WITH CIRCUMFLEX BELOW;",
  "LATIN SMALL LETTER L WITH CIRCUMFLEX BELOW;LATIN CAPITAL LETTER M WITH ACUTE;",
  "LATIN SMALL LETTER M WITH ACUTE;LATIN CAPITAL LETTER M WITH DOT ABOVE;",
  "LATIN SMALL LETTER M WITH DOT ABOVE;LATIN CAPITAL LETTER M WITH DOT BELOW;",
  "LATIN SMALL LETTER M WITH DOT BELOW;LATIN CAPITAL LETTER N WITH DOT ABOVE;",
  "LATIN SMALL LETTER N WITH DOT ABOVE;LATIN CAPITAL LETTER N WITH DOT BELOW;",
  "LATIN SMALL LETTER N WITH DOT BELOW;LATIN CAPITAL LETTER N WITH LINE BELOW;",
  "LATIN SMALL LETTER N WITH LINE BELOW;LATIN CAPITAL LETTER N WITH CIRCUMFLEX BELOW;",
  "LATIN SMALL LETTER N WITH CIRCUMFLEX BELOW;LATIN CAPITAL LETTER O WITH TILDE AND ACUTE;",
  "LATIN SMALL LETTER O WITH TILDE AND ACUTE;LATIN CAPITAL LETTER O WITH TILDE AND DIAERESIS;",
  "LATIN SMALL LETTER O WITH TILDE AND DIAERESIS;LATIN CAPITAL LETTER O WITH MACRON AND GRAVE;",
  "LATIN SMALL LETTER O WITH MACRON AND GRAVE;LATIN CAPITAL LETTER O WITH MACRON AND ACUTE;",
  "LATIN SMALL LETTER O WITH MACRON AND ACUTE;LATIN CAPITAL LETTER P WITH ACUTE;",
  "LATIN SMALL LETTER P WITH ACUTE;LATIN CAPITAL LETTER P WITH DOT ABOVE;",
  "LATIN SMALL LETTER P WITH DOT ABOVE;LATIN CAPITAL LETTER R WITH DOT ABOVE;",
  "LATIN SMALL LETTER R WITH DOT ABOVE;LATIN CAPITAL LETTER R WITH DOT BELOW;",
  "LATIN SMALL LETTER R WITH DOT BELOW;LATIN CAPITAL LETTER R WITH DOT BELOW AND MACRON;",
  "LATIN SMALL LETTER R WITH DOT BELOW AND MACRON;LATIN CAPITAL LETTER R WITH LINE BELOW;",
  "LATIN SMALL LETTER R WITH LINE BELOW;LATIN CAPITAL LETTER S WITH DOT ABOVE;",
  "LATIN SMALL LETTER S WITH DOT ABOVE;LATIN CAPITAL LETTER S WITH DOT BELOW;",
  "LATIN SMALL LETTER S WITH DOT BELOW;LATIN CAPITAL LETTER S WITH ACUTE AND DOT ABOVE;",
  "LATIN SMALL LETTER S WITH ACUTE AND DOT ABOVE;",
  "LATIN CAPITAL LETTER S WITH CARON AND DOT ABOVE;",
  "LATIN SMALL LETTER S WITH CARON AND DOT ABOVE;",
  "LATIN CAPITAL LETTER S WITH DOT BELOW AND DOT ABOVE;",
  "LATIN SMALL LETTER S WITH DOT BELOW AND DOT ABOVE;LATIN CAPITAL LETTER T WITH DOT ABOVE;",
  "LATIN SMALL LETTER T WITH DOT ABOVE;LATIN CAPITAL LETTER T WITH DOT BELOW;",
  "LATIN SMALL LETTER T WITH DOT BELOW;LATIN CAPITAL LETTER T WITH LINE BELOW;",
  "LATIN SMALL LETTER T WITH LINE BELOW;LATIN CAPITAL LETTER T WITH CIRCUMFLEX BELOW;",
  "LATIN SMALL LETTER T WITH CIRCUMFLEX BELOW;LATIN CAPITAL LETTER U WITH DIAERESIS BELOW;",
  "LATIN SMALL LETTER U WITH DIAERESIS BELOW;LATIN CAPITAL LETTER U WITH TILDE BELOW;",
  "LATIN SMALL LETTER U WITH TILDE BELOW;LATIN CAPITAL LETTER U WITH CIRCUMFLEX BELOW;",
  "LATIN SMALL LETTER U WITH CIRCUMFLEX BELOW;LATIN CAPITAL LETTER U WITH TILDE AND ACUTE;",
  "LATIN SMALL LETTER U WITH TILDE AND ACUTE;LATIN CAPITAL LETTER U WITH MACRON AND DIAERESIS;",
  "LATIN SMALL LETTER U WITH MACRON AND DIAERESIS;LATIN CAPITAL LETTER V WITH TILDE;",
  "LATIN SMALL LETTER V WITH TILDE;LATIN CAPITAL LETTER V WITH DOT BELOW;",
  "LATIN SMALL LETTER V WITH DOT BELOW;LATIN CAPITAL LETTER W WITH GRAVE;",
  "LATIN SMALL LETTER W WITH GRAVE;LATIN CAPITAL LETTER W WITH ACUTE;",
  "LATIN SMALL LETTER W WITH ACUTE;LATIN CAPITAL LETTER W WITH DIAERESIS;",
  "LATIN SMALL LETTER W WITH DIAERESIS;LATIN CAPITAL LETTER W WITH DOT ABOVE;",
  "LATIN SMALL LETTER W WITH DOT ABOVE;LATIN CAPITAL LETTER W WITH DOT BELOW;",
  "LATIN SMALL LETTER W WITH DOT BELOW;LATIN CAPITAL LETTER X WITH DOT ABOVE;",
  "LATIN SMALL LETTER X WITH DOT ABOVE;LATIN CAPITAL LETTER X WITH DIAERESIS;",
  "LATIN SMALL LETTER X WITH DIAERESIS;LATIN CAPITAL LETTER Y WITH DOT ABOVE;",
  "LATIN SMALL LETTER Y WITH DOT ABOVE;LATIN CAPITAL LETTER Z WITH CIRCUMFLEX;",
  "LATIN SMALL LETTER Z WITH CIRCUMFLEX;LATIN CAPITAL LETTER Z WITH DOT BELOW;",
  "LATIN SMALL LETTER Z WITH DOT BELOW;LATIN CAPITAL LETTER Z WITH LINE BELOW;",
  "LATIN SMALL LETTER Z WITH LINE BELOW;LATIN SMALL LETTER H WITH LINE BELOW;",
  "LATIN SMALL LETTER T WITH DIAERESIS;LATIN SMALL LETTER W WITH RING ABOVE;",
  "LATIN SMALL LETTER Y WITH RING ABOVE;LATIN SMALL LETTER A WITH RIGHT HALF RING;",
  "LATIN SMALL LETTER LONG S WITH DOT ABOVE;LATIN SMALL LETTER LONG S WITH DIAGONAL STROKE;",
  "LATIN SMALL LETTER LONG S WITH HIGH STROKE;LATIN CAPITAL LETTER SHARP S;",
  "LATIN SMALL LETTER DELTA;LATIN CAPITAL LETTER A WITH DOT BELOW;",
  "LATIN SMALL LETTER A WITH DOT BELOW;LATIN CAPITAL LETTER A WITH HOOK ABOVE;",
  "LATIN SMALL LETTER A WITH HOOK ABOVE;LATIN CAPITAL LETTER A WITH CIRCUMFLEX AND ACUTE;",
  "LATIN SMALL LETTER A WITH CIRCUMFLEX AND ACUTE;",
  "LATIN CAPITAL LETTER A WITH CIRCUMFLEX AND GRAVE;",
  "LATIN SMALL LETTER A WITH CIRCUMFLEX AND GRAVE;",
  "LATIN CAPITAL LETTER A WITH CIRCUMFLEX AND HOOK ABOVE;",
  "LATIN SMALL LETTER A WITH CIRCUMFLEX AND HOOK ABOVE;",
  "LATIN CAPITAL LETTER A WITH CIRCUMFLEX AND TILDE;",
  "LATIN SMALL LETTER A WITH CIRCUMFLEX AND TILDE;",
  "LATIN CAPITAL LETTER A WITH CIRCUMFLEX AND DOT BELOW;",
  "LATIN SMALL LETTER A WITH CIRCUMFLEX AND DOT BELOW;",
  "LATIN CAPITAL LETTER A WITH BREVE AND ACUTE;LATIN SMALL LETTER A WITH BREVE AND ACUTE;",
  "LATIN CAPITAL LETTER A WITH BREVE AND GRAVE;LATIN SMALL LETTER A WITH BREVE AND GRAVE;",
  "LATIN CAPITAL LETTER A WITH BREVE AND HOOK ABOVE;",
  "LATIN SMALL LETTER A WITH BREVE AND HOOK ABOVE;LATIN CAPITAL LETTER A WITH BREVE AND TILDE;",
  "LATIN SMALL LETTER A WITH BREVE AND TILDE;LATIN CAPITAL LETTER A WITH BREVE AND DOT BELOW;",
  "LATIN SMALL LETTER A WITH BREVE AND DOT BELOW;LATIN CAPITAL LETTER E WITH DOT BELOW;",
  "LATIN SMALL LETTER E WITH DOT BELOW;LATIN CAPITAL LETTER E WITH HOOK ABOVE;",
  "LATIN SMALL LETTER E WITH HOOK ABOVE;LATIN CAPITAL LETTER E WITH TILDE;",
  "LATIN SMALL LETTER E WITH TILDE;LATIN CAPITAL LETTER E WITH CIRCUMFLEX AND ACUTE;",
  "LATIN SMALL LETTER E WITH CIRCUMFLEX AND ACUTE;",
  "LATIN CAPITAL LETTER E WITH CIRCUMFLEX AND GRAVE;",
  "LATIN SMALL LETTER E WITH CIRCUMFLEX AND GRAVE;",
  "LATIN CAPITAL LETTER E WITH CIRCUMFLEX AND HOOK ABOVE;",
  "LATIN SMALL LETTER E WITH CIRCUMFLEX AND HOOK ABOVE;",
  "LATIN CAPITAL LETTER E WITH CIRCUMFLEX AND TILDE;",
  "LATIN SMALL LETTER E WITH CIRCUMFLEX AND TILDE;",
  "LATIN CAPITAL LETTER E WITH CIRCUMFLEX AND DOT BELOW;",
  "LATIN SMALL LETTER E WITH CIRCUMFLEX AND DOT BELOW;LATIN CAPITAL LETTER I WITH HOOK ABOVE;",
  "LATIN SMALL LETTER I WITH HOOK ABOVE;LATIN CAPITAL LETTER I WITH DOT BELOW;",
  "LATIN SMALL LETTER I WITH DOT BELOW;LATIN CAPITAL LETTER O WITH DOT BELOW;",
  "LATIN SMALL LETTER O WITH DOT BELOW;LATIN CAPITAL LETTER O WITH HOOK ABOVE;",
  "LATIN SMALL LETTER O WITH HOOK ABOVE;LATIN CAPITAL LETTER O WITH CIRCUMFLEX AND ACUTE;",
  "LATIN SMALL LETTER O WITH CIRCUMFLEX AND ACUTE;",
  "LATIN CAPITAL LETTER O WITH CIRCUMFLEX AND GRAVE;",
  "LATIN SMALL LETTER O WITH CIRCUMFLEX AND GRAVE;",
  "LATIN CAPITAL LETTER O WITH CIRCUMFLEX AND HOOK ABOVE;",
  "LATIN SMALL LETTER O WITH CIRCUMFLEX AND HOOK ABOVE;",
  "LATIN CAPITAL LETTER O WITH CIRCUMFLEX AND TILDE;",
  "LATIN SMALL LETTER O WITH CIRCUMFLEX AND TILDE;",
  "LATIN CAPITAL LETTER O WITH CIRCUMFLEX AND DOT BELOW;",
  "LATIN SMALL LETTER O WITH CIRCUMFLEX AND DOT BELOW;",
  "LATIN CAPITAL LETTER O WITH HORN AND ACUTE;LATIN SMALL LETTER O WITH HORN AND ACUTE;",
  "LATIN CAPITAL LETTER O WITH HORN AND GRAVE;LATIN SMALL LETTER O WITH HORN AND GRAVE;",
  "LATIN CAPITAL LETTER O WITH HORN AND HOOK ABOVE;",
  "LATIN SMALL LETTER O WITH HORN AND HOOK ABOVE;LATIN CAPITAL LETTER O WITH HORN AND TILDE;",
  "LATIN SMALL LETTER O WITH HORN AND TILDE;LATIN CAPITAL LETTER O WITH HORN AND DOT BELOW;",
  "LATIN SMALL LETTER O WITH HORN AND DOT BELOW;LATIN CAPITAL LETTER U WITH DOT BELOW;",
  "LATIN SMALL LETTER U WITH DOT BELOW;LATIN CAPITAL LETTER U WITH HOOK ABOVE;",
  "LATIN SMALL LETTER U WITH HOOK ABOVE;LATIN CAPITAL LETTER U WITH HORN AND ACUTE;",
  "LATIN SMALL LETTER U WITH HORN AND ACUTE;LATIN CAPITAL LETTER U WITH HORN AND GRAVE;",
  "LATIN SMALL LETTER U WITH HORN AND GRAVE;LATIN CAPITAL LETTER U WITH HORN AND HOOK ABOVE;",
  "LATIN SMALL LETTER U WITH HORN AND HOOK ABOVE;LATIN CAPITAL LETTER U WITH HORN AND TILDE;",
  "LATIN SMALL LETTER U WITH HORN AND TILDE;LATIN CAPITAL LETTER U WITH HORN AND DOT BELOW;",
  "LATIN SMALL LETTER U WITH HORN AND DOT BELOW;LATIN CAPITAL LETTER Y WITH GRAVE;",
  "LATIN SMALL LETTER Y WITH GRAVE;LATIN CAPITAL LETTER Y WITH DOT BELOW;",
  "LATIN SMALL LETTER Y WITH DOT BELOW;LATIN CAPITAL LETTER Y WITH HOOK ABOVE;",
  "LATIN SMALL LETTER Y WITH HOOK ABOVE;LATIN CAPITAL LETTER Y WITH TILDE;",
  "LATIN SMALL LETTER Y WITH TILDE;LATIN CAPITAL LETTER MIDDLE-WELSH LL;",
  "LATIN SMALL LETTER MIDDLE-WELSH LL;LATIN CAPITAL LETTER MIDDLE-WELSH V;",
  "LATIN SMALL LETTER MIDDLE-WELSH V;LATIN CAPITAL LETTER Y WITH LOOP;",
  "LATIN SMALL LETTER Y WITH LOOP"]

private def nameLinesB1 : List String := [
  "EN QUAD;EM QUAD;EN SPACE;EM SPACE;THREE-PER-EM SPACE;FOUR-PER-EM SPACE;SIX-PER-EM SPACE;",
  "FIGURE SPACE;PUNCTUATION SPACE;THIN SPACE;HAIR SPACE;ZERO WIDTH SPACE;ZERO WIDTH NON-JOINER;",
  "ZERO WIDTH JOINER;LEFT-TO-RIGHT MARK;RIGHT-TO-LEFT MARK;HYPHEN;NON-BREAKING HYPHEN;",
  "FIGURE DASH;EN DASH;EM DASH;HORIZONTAL BAR;DOUBLE VERTICAL LINE;DOUBLE LOW LINE;",
  "LEFT SINGLE QUOTATION MARK;RIGHT SINGLE QUOTATION MARK;SINGLE LOW-9 QUOTATION MARK;",
  "SINGLE HIGH-REVERSED-9 QUOTATION MARK;LEFT DOUBLE QUOTATION MARK;RIGHT DOUBLE QUOTATION MARK;",
  "DOUBLE LOW-9 QUOTATION MARK;DOUBLE HIGH-REVERSED-9 QUOTATION MARK;DAGGER;DOUBLE DAGGER;",
  "BULLET;TRIANGULAR BULLET;ONE DOT LEADER;TWO DOT LEADER;HORIZONTAL ELLIPSIS;HYPHENATION POINT;",
  "LINE SEPARATOR;PARAGRAPH SEPARATOR;LEFT-TO-RIGHT EMBEDDING;RIGHT-TO-LEFT EMBEDDING;",
  "POP DIRECTIONAL FORMATTING;LEFT-TO-RIGHT OVERRIDE;RIGHT-TO-LEFT OVERRIDE;",
  "NARROW NO-BREAK SPACE;PER MILLE SIGN;PER TEN THOUSAND SIGN;PRIME;DOUBLE PRIME;TRIPLE PRIME;",
  "REVERSED PRIME;REVERSED DOUBLE PRIME;REVERSED TRIPLE PRIME;CARET;",
  "SINGLE LEFT-POINTING ANGLE QUOTATION MARK;SINGLE RIGHT-POINTING ANGLE QUOTATION MARK;",
  "REFERENCE MARK;DOUBLE EXCLAMATION MARK;INTERROBANG;OVERLINE;UNDERTIE;CHARACTER TIE;",
  "CARET INSERTION POINT;ASTERISM;HYPHEN BULLET;FRACTION SLASH;LEFT SQUARE BRACKET WITH QUILL;",
  "RIGHT SQUARE BRACKET WITH QUILL;DOUBLE QUESTION MARK;QUESTION EXCLAMATION MARK;",
  "EXCLAMATION QUESTION MARK;TIRONIAN SIGN ET;REVERSED PILCROW SIGN;BLACK LEFTWARDS BULLET;",
  "BLACK RIGHTWARDS BULLET;LOW ASTERISK;REVERSED SEMICOLON;CLOSE UP;",
  "TWO ASTERISKS ALIGNED VERTICALLY;COMMERCIAL MINUS SIGN;SWUNG DASH;INVERTED UNDERTIE;",
  "FLOWER PUNCTUATION MARK;THREE DOT PUNCTUATION;QUADRUPLE PRIME;FOUR DOT PUNCTUATION;",
  "FIVE DOT PUNCTUATION;TWO DOT PUNCTUATION;FOUR DOT MARK;DOTTED CROSS;TRICOLON;",
  "VERTICAL FOUR DOTS;MEDIUM MATHEMATICAL SPACE;WORD JOINER;FUNCTION APPLICATION;",
  "INVISIBLE TIMES;INVISIBLE SEPARATOR;INVISIBLE PLUS;;LEFT-TO-RIGHT ISOLATE;",
  "RIGHT-TO-LEFT ISOLATE;FIRST STRONG ISOLATE;POP DIRECTIONAL ISOLATE;",
  "INHIBIT SYMMETRIC SWAPPING;ACTIVATE SYMMETRIC SWAPPING;INHIBIT ARABIC FORM SHAPING;",
  "ACTIVATE ARABIC FORM SHAPING;NATIONAL DIGIT SHAPES;NOMINAL DIGIT SHAPES;SUPERSCRIPT ZERO;",
  "SUPERSCRIPT LATIN SMALL LETTER I;;;SUPERSCRIPT FOUR;SUPERSCRIPT FIVE;SUPERSCRIPT SIX;",
  "SUPERSCRIPT SEVEN;SUPERSCRIPT EIGHT;SUPERSCRIPT NINE;SUPERSCRIPT PLUS SIGN;SUPERSCRIPT MINUS;",
  "SUPERSCRIPT EQUALS SIGN;SUPERSCRIPT LEFT PARENTHESIS;SUPERSCRIPT RIGHT PARENTHESIS;",
  "SUPERSCRIPT LATIN SMALL LETTER N;SUBSCRIPT ZERO;SUBSCRIPT ONE;SUBSCRIPT TWO;SUBSCRIPT THREE;",
  "SUBSCRIPT FOUR;SUBSCRIPT FIVE;SUBSCRIPT SIX;SUBSCRIPT SEVEN;SUBSCRIPT EIGHT;SUBSCRIPT NINE;",
  "SUBSCRIPT PLUS SIGN;SUBSCRIPT MINUS;SUBSCRIPT EQUALS SIGN;SUBSCRIPT LEFT PARENTHESIS;",
  "SUBSCRIPT RIGHT PARENTHESIS;;LATIN SUBSCRIPT SMALL LETTER A;LATIN SUBSCRIPT SMALL LETTER E;",
  "LATIN SUBSCRIPT SMALL LETTER O;LATIN SUBSCRIPT SMALL LETTER X;",
  "LATIN SUBSCRIPT SMALL LETTER SCHWA;LATIN SUBSCRIPT SMALL LETTER H;",
  "LATIN SUBSCRIPT SMALL LETTER K;LATIN SUBSCRIPT SMALL LETTER L;LATIN SUBSCRIPT SMALL LETTER M;",
  "LATIN SUBSCRIPT SMALL LETTER N;LATIN SUBSCRIPT SMALL LETTER P;LATIN SUBSCRIPT SMALL LETTER S;",
  "LATIN SUBSCRIPT SMALL LETTER T;;;;EURO-CURRENCY SIGN;COLON SIGN;CRUZEIRO SIGN;",
  "FRENCH FRANC SIGN;LIRA SIGN;MILL SIGN;NAIRA SIGN;PESETA SIGN;RUPEE SIGN;WON SIGN;",
  "NEW SHEQEL SIGN;DONG SIGN;EURO SIGN;KIP SIGN;TUGRIK SIGN;DRACHMA SIGN;GERMAN PENNY SIGN;",
  "PESO SIGN;GUARANI SIGN;AUSTRAL SIGN;HRYVNIA SIGN;CEDI SIGN;LIVRE TOURNOIS SIGN;SPESMILO SIGN;",
  "TENGE SIGN;INDIAN RUPEE SIGN;TURKISH LIRA SIGN;NORDIC MARK SIGN;MANAT SIGN;RUBLE SIGN;",
  "LARI SIGN;BITCOIN SIGN"]

private def nameLinesB2 : List String := [
  "COMBINING LEFT HARPOON ABOVE;COMBINING RIGHT HARPOON ABOVE;",
  "COMBINING LONG VERTICAL LINE OVERLAY;COMBINING SHORT VERTICAL LINE OVERLAY;",
  "COMBINING ANTICLOCKWISE ARROW ABOVE;COMBINING CLOCKWISE ARROW ABOVE;",
  "COMBINING LEFT ARROW ABOVE;COMBINING RIGHT ARROW ABOVE;COMBINING RING OVERLAY;",
  "COMBINING CLOCKWISE RING OVERLAY;COMBINING ANTICLOCKWISE RING OVERLAY;",
  "COMBINING THREE DOTS ABOVE;COMBINING FOUR DOTS ABOVE;COMBINING ENCLOSING CIRCLE;",
  "COMBINING ENCLOSING SQUARE;COMBINING ENCLOSING DIAMOND;COMBINING ENCLOSING CIRCLE BACKSLASH;",
  "COMBINING LEFT RIGHT ARROW ABOVE;COMBINING ENCLOSING SCREEN;COMBINING ENCLOSING KEYCAP;",
  "COMBINING ENCLOSING UPWARD POINTING TRIANGLE;COMBINING REVERSE SOLIDUS OVERLAY;",
  "COMBINING DOUBLE VERTICAL STROKE OVERLAY;COMBINING ANNUITY SYMBOL;COMBINING TRIPLE UNDERDOT;",
  "COMBINING WIDE BRIDGE ABOVE;COMBINING LEFTWARDS ARROW OVERLAY;",
  "COMBINING LONG DOUBLE SOLIDUS OVERLAY;COMBINING RIGHTWARDS HARPOON WITH BARB DOWNWARDS;",
  "COMBINING LEFTWARDS HARPOON WITH BARB DOWNWARDS;COMBINING LEFT ARROW BELOW;",
  "COMBINING RIGHT ARROW BELOW;COMBINING ASTERISK ABOVE"]

private def nameLinesB3 : List String := [
  "ACCOUNT OF;ADDRESSED TO THE SUBJECT;DOUBLE-STRUCK CAPITAL C;DEGREE CELSIUS;",
  "CENTRE LINE SYMBOL;CARE OF;CADA UNA;EULER CONSTANT;SCRUPLE;DEGREE FAHRENHEIT;SCRIPT SMALL G;",
  "SCRIPT CAPITAL H;BLACK-LETTER CAPITAL H;DOUBLE-STRUCK CAPITAL H;PLANCK CONSTANT;",
  "PLANCK CONSTANT OVER TWO PI;SCRIPT CAPITAL I;BLACK-LETTER CAPITAL I;SCRIPT CAPITAL L;",
  "SCRIPT SMALL L;L B BAR SYMBOL;DOUBLE-STRUCK CAPITAL N;NUMERO SIGN;SOUND RECORDING COPYRIGHT;",
  "SCRIPT CAPITAL P;DOUBLE-STRUCK CAPITAL P;DOUBLE-STRUCK CAPITAL Q;SCRIPT CAPITAL R;",
  "BLACK-LETTER CAPITAL R;DOUBLE-STRUCK CAPITAL R;PRESCRIPTION TAKE;RESPONSE;SERVICE MARK;",
  "TELEPHONE SIGN;TRADE MARK SIGN;VERSICLE;DOUBLE-STRUCK CAPITAL Z;OUNCE SIGN;OHM SIGN;",
  "INVERTED OHM SIGN;BLACK-LETTER CAPITAL Z;TURNED GREEK SMALL LETTER IOTA;KELVIN SIGN;",
  "ANGSTROM SIGN;SCRIPT CAPITAL B;BLACK-LETTER CAPITAL C;ESTIMATED SYMBOL;SCRIPT SMALL E;",
  "SCRIPT CAPITAL E;SCRIPT CAPITAL F;TURNED CAPITAL F;SCRIPT CAPITAL M;SCRIPT SMALL O;",
  "ALEF SYMBOL;BET SYMBOL;GIMEL SYMBOL;DALET SYMBOL;INFORMATION SOURCE;ROTATED CAPITAL Q;",
  "FACSIMILE SIGN;DOUBLE-STRUCK SMALL PI;DOUBLE-STRUCK SMALL GAMMA;DOUBLE-STRUCK CAPITAL GAMMA;",
  "DOUBLE-STRUCK CAPITAL PI;DOUBLE-STRUCK N-ARY SUMMATION;TURNED SANS-SERIF CAPITAL G;",
  "TURNED SANS-SERIF CAPITAL L;REVERSED SANS-SERIF CAPITAL L;TURNED SANS-SERIF CAPITAL Y;",
  "DOUBLE-STRUCK ITALIC CAPITAL D;DOUBLE-STRUCK ITALIC SMALL D;DOUBLE-STRUCK ITALIC SMALL E;",
  "DOUBLE-STRUCK ITALIC SMALL I;DOUBLE-STRUCK ITALIC SMALL J;PROPERTY LINE;TURNED AMPERSAND;",
  "PER SIGN;AKTIESELSKAB;TURNED SMALL F;SYMBOL FOR SAMARITAN SOURCE;VULGAR FRACTION ONE SEVENTH;",
  "VULGAR FRACTION ONE NINTH;VULGAR FRACTION ONE TENTH;VULGAR FRACTION ONE THIRD;",
  "VULGAR FRACTION TWO THIRDS;VULGAR FRACTION ONE FIFTH;VULGAR FRACTION TWO FIFTHS;",
  "VULGAR FRACTION THREE FIFTHS;VULGAR FRACTION FOUR FIFTHS;VULGAR FRACTION ONE SIXTH;",
  "VULGAR FRACTION FIVE SIXTHS;VULGAR FRACTION ONE EIGHTH;VULGAR FRACTION THREE EIGHTHS;",
  "VULGAR FRACTION FIVE EIGHTHS;VULGAR FRACTION SEVEN EIGHTHS;FRACTION NUMERATOR ONE;",
  "ROMAN NUMERAL ONE;ROMAN NUMERAL TWO;ROMAN NUMERAL THREE;ROMAN NUMERAL FOUR;",
  "ROMAN NUMERAL FIVE;ROMAN NUMERAL SIX;ROMAN NUMERAL SEVEN;ROMAN NUMERAL EIGHT;",
  "ROMAN NUMERAL NINE;ROMAN NUMERAL TEN;ROMAN NUMERAL ELEVEN;ROMAN NUMERAL TWELVE;",
  "ROMAN NUMERAL FIFTY;ROMAN NUMERAL ONE HUNDRED;ROMAN NUMERAL FIVE HUNDRED;",
  "ROMAN NUMERAL ONE THOUSAND;SMALL ROMAN NUMERAL ONE;SMALL ROMAN NUMERAL TWO;",
  "SMALL ROMAN NUMERAL THREE;SMALL ROMAN NUMERAL FOUR;SMALL ROMAN NUMERAL FIVE;",
  "SMALL ROMAN NUMERAL SIX;SMALL ROMAN NUMERAL SEVEN;SMALL ROMAN NUMERAL EIGHT;",
  "SMALL ROMAN NUMERAL NINE;SMALL ROMAN NUMERAL TEN;SMALL ROMAN NUMERAL ELEVEN;",
  "SMALL ROMAN NUMERAL TWELVE;SMALL ROMAN NUMERAL FIFTY;SMALL ROMAN NUMERAL ONE HUNDRED;",
  "SMALL ROMAN NUMERAL FIVE HUNDRED;SMALL ROMAN NUMERAL ONE THOUSAND;",
  "ROMAN NUMERAL ONE THOUSAND C D;ROMAN NUMERAL FIVE THOUSAND;ROMAN NUMERAL TEN THOUSAND;",
  "ROMAN NUMERAL REVERSED ONE HUNDRED;LATIN SMALL LETTER REVERSED C;ROMAN NUMERAL SIX LATE FORM;",
  "ROMAN NUMERAL FIFTY EARLY FORM;ROMAN NUMERAL FIFTY THOUSAND;",
  "ROMAN NUMERAL ONE HUNDRED THOUSAND;VULGAR FRACTION ZERO THIRDS;TURNED DIGIT TWO;",
  "TURNED DIGIT THREE"]

private def nameLinesB4 : List String := [
  "LEFTWARDS ARROW;UPWARDS ARROW;RIGHTWARDS ARROW;DOWNWARDS ARROW;LEFT RIGHT ARROW;",
  "UP DOWN ARROW;NORTH WEST ARROW;NORTH EAST ARROW;SOUTH EAST ARROW;SOUTH WEST ARROW;",
  "LEFTWARDS ARROW WITH STROKE;RIGHTWARDS ARROW WITH STROKE;LEFTWARDS WAVE ARROW;",
  "RIGHTWARDS WAVE ARROW;LEFTWARDS TWO HEADED ARROW;UPWARDS TWO HEADED ARROW;",
  "RIGHTWARDS TWO HEADED ARROW;DOWNWARDS TWO HEADED ARROW;LEFTWARDS ARROW WITH TAIL;",
  "RIGHTWARDS ARROW WITH TAIL;LEFTWARDS ARROW FROM BAR;UPWARDS ARROW FROM BAR;",
  "RIGHTWARDS ARROW FROM BAR;DOWNWARDS ARROW FROM BAR;UP DOWN ARROW WITH BASE;",
  "LEFTWARDS ARROW WITH HOOK;RIGHTWARDS ARROW WITH HOOK;LEFTWARDS ARROW WITH LOOP;",
  "RIGHTWARDS ARROW WITH LOOP;LEFT RIGHT WAVE ARROW;LEFT RIGHT ARROW WITH STROKE;",
  "DOWNWARDS ZIGZAG ARROW;UPWARDS ARROW WITH TIP LEFTWARDS;UPWARDS ARROW WITH TIP RIGHTWARDS;",
  "DOWNWARDS ARROW WITH TIP LEFTWARDS;DOWNWARDS ARROW WITH TIP RIGHTWARDS;",
  "RIGHTWARDS ARROW WITH CORNER DOWNWARDS;DOWNWARDS ARROW WITH CORNER LEFTWARDS;",
  "ANTICLOCKWISE TOP SEMICIRCLE ARROW;CLOCKWISE TOP SEMICIRCLE ARROW;",
  "NORTH WEST ARROW TO LONG BAR;LEFTWARDS ARROW TO BAR OVER RIGHTWARDS ARROW TO BAR;",
  "ANTICLOCKWISE OPEN CIRCLE ARROW;CLOCKWISE OPEN CIRCLE ARROW;",
  "LEFTWARDS HARPOON WITH BARB UPWARDS;LEFTWARDS HARPOON WITH BARB DOWNWARDS;",
  "UPWARDS HARPOON WITH BARB RIGHTWARDS;UPWARDS HARPOON WITH BARB LEFTWARDS;",
  "RIGHTWARDS HARPOON WITH BARB UPWARDS;RIGHTWARDS HARPOON WITH BARB DOWNWARDS;",
  "DOWNWARDS HARPOON WITH BARB RIGHTWARDS;DOWNWARDS HARPOON WITH BARB LEFTWARDS;",
  "RIGHTWARDS ARROW OVER LEFTWARDS ARROW;UPWARDS ARROW LEFTWARDS OF DOWNWARDS ARROW;",
  "LEFTWARDS ARROW OVER RIGHTWARDS ARROW;LEFTWARDS PAIRED ARROWS;UPWARDS PAIRED ARROWS;",
  "RIGHTWARDS PAIRED ARROWS;DOWNWARDS PAIRED ARROWS;LEFTWARDS HARPOON OVER RIGHTWARDS HARPOON;",
  "RIGHTWARDS HARPOON OVER LEFTWARDS HARPOON;LEFTWARDS DOUBLE ARROW WITH STROKE;",
  "LEFT RIGHT DOUBLE ARROW WITH STROKE;RIGHTWARDS DOUBLE ARROW WITH STROKE;",
  "LEFTWARDS DOUBLE ARROW;UPWARDS DOUBLE ARROW;RIGHTWARDS DOUBLE ARROW;DOWNWARDS DOUBLE ARROW;",
  "LEFT RIGHT DOUBLE ARROW;UP DOWN DOUBLE ARROW;NORTH WEST DOUBLE ARROW;NORTH EAST DOUBLE ARROW;",
  "SOUTH EAST DOUBLE ARROW;SOUTH WEST DOUBLE ARROW;LEFTWARDS TRIPLE ARROW;",
  "RIGHTWARDS TRIPLE ARROW;LEFTWARDS SQUIGGLE ARROW;RIGHTWARDS SQUIGGLE ARROW;",
  "UPWARDS ARROW WITH DOUBLE STROKE;DOWNWARDS ARROW WITH DOUBLE STROKE;LEFTWARDS DASHED ARROW;",
  "UPWARDS DASHED ARROW;RIGHTWARDS DASHED ARROW;DOWNWARDS DASHED ARROW;LEFTWARDS ARROW TO BAR;",
  "RIGHTWARDS ARROW TO BAR;LEFTWARDS WHITE ARROW;UPWARDS WHITE ARROW;RIGHTWARDS WHITE ARROW;",
  "DOWNWARDS WHITE ARROW;UPWARDS WHITE ARROW FROM BAR;UPWARDS WHITE ARROW ON PEDESTAL;",
  "UPWARDS WHITE ARROW ON PEDESTAL WITH HORIZONTAL BAR;",
  "UPWARDS WHITE ARROW ON PEDESTAL WITH VERTICAL BAR;UPWARDS WHITE DOUBLE ARROW;",
  "UPWARDS WHITE DOUBLE ARROW ON PEDESTAL;RIGHTWARDS WHITE ARROW FROM WALL;",
  "NORTH WEST ARROW TO CORNER;SOUTH EAST ARROW TO CORNER;UP DOWN WHITE ARROW;",
  "RIGHT ARROW WITH SMALL CIRCLE;DOWNWARDS ARROW LEFTWARDS OF UPWARDS ARROW;",
  "THREE RIGHTWARDS ARROWS;LEFTWARDS ARROW WITH VERTICAL STROKE;",
  "RIGHTWARDS ARROW WITH VERTICAL STROKE;LEFT RIGHT ARROW WITH VERTICAL STROKE;",
  "LEFTWARDS ARROW WITH DOUBLE VERTICAL STROKE;RIGHTWARDS ARROW WITH DOUBLE VERTICAL STROKE;",
  "LEFT RIGHT ARROW WITH DOUBLE VERTICAL STROKE;LEFTWARDS OPEN-HEADED ARROW;",
  "RIGHTWARDS OPEN-HEADED ARROW;LEFT RIGHT OPEN-HEADED ARROW;FOR ALL;COMPLEMENT;",
  "PARTIAL DIFFERENTIAL;THERE EXISTS;THERE DOES NOT EXIST;EMPTY SET;INCREMENT;NABLA;ELEMENT OF;",
  "NOT AN ELEMENT OF;SMALL ELEMENT OF;CONTAINS AS MEMBER;DOES NOT CONTAIN AS MEMBER;",
  "SMALL CONTAINS AS MEMBER;END OF PROOF;N-ARY PRODUCT;N-ARY COPRODUCT;N-ARY SUMMATION;",
  "MINUS SIGN;MINUS-OR-PLUS SIGN;DOT PLUS;DIVISION SLASH;SET MINUS;ASTERISK OPERATOR;",
  "RING OPERATOR;BULLET OPERATOR;SQUARE ROOT;CUBE ROOT;FOURTH ROOT;PROPORTIONAL TO;INFINITY;",
  "RIGHT ANGLE;ANGLE;MEASURED ANGLE;SPHERICAL ANGLE;DIVIDES;DOES NOT DIVIDE;PARALLEL TO;",
  "NOT PARALLEL TO;LOGICAL AND;LOGICAL OR;INTERSECTION;UNION;INTEGRAL;DOUBLE INTEGRAL;",
  "TRIPLE INTEGRAL;CONTOUR INTEGRAL;SURFACE INTEGRAL;VOLUME INTEGRAL;CLOCKWISE INTEGRAL;",
  "CLOCKWISE CONTOUR INTEGRAL;ANTICLOCKWISE CONTOUR INTEGRAL;THEREFORE;BECAUSE;RATIO;PROPORTION;",
  "DOT MINUS;EXCESS;GEOMETRIC PROPORTION;HOMOTHETIC;TILDE OPERATOR;REVERSED TILDE;",
  "INVERTED LAZY S;SINE WAVE;WREATH PRODUCT;NOT TILDE;MINUS TILDE;ASYMPTOTICALLY EQUAL TO;",
  "NOT ASYMPTOTICALLY EQUAL TO;APPROXIMATELY EQUAL TO;APPROXIMATELY BUT NOT ACTUALLY EQUAL TO;",
  "NEITHER APPROXIMATELY NOR ACTUALLY EQUAL TO;ALMOST EQUAL TO;NOT ALMOST EQUAL TO;",
  "ALMOST EQUAL OR EQUAL TO;TRIPLE TILDE;ALL EQUAL TO;EQUIVALENT TO;GEOMETRICALLY EQUIVALENT TO;",
  "DIFFERENCE BETWEEN;APPROACHES THE LIMIT;GEOMETRICALLY EQUAL TO;",
  "APPROXIMATELY EQUAL TO OR THE IMAGE OF;IMAGE OF OR APPROXIMATELY EQUAL TO;COLON EQUALS;",
  "EQUALS COLON;RING IN EQUAL TO;RING EQUAL TO;CORRESPONDS TO;ESTIMATES;EQUIANGULAR TO;",
  "STAR EQUALS;DELTA EQUAL TO;EQUAL TO BY DEFINITION;MEASURED BY;QUESTIONED EQUAL TO;",
  "NOT EQUAL TO;IDENTICAL TO;NOT IDENTICAL TO;STRICTLY EQUIVALENT TO;LESS-THAN OR EQUAL TO;",
  "GREATER-THAN OR EQUAL TO;LESS-THAN OVER EQUAL TO;GREATER-THAN OVER EQUAL TO;",
  "LESS-THAN BUT NOT EQUAL TO;GREATER-THAN BUT NOT EQUAL TO;MUCH LESS-THAN;MUCH GREATER-THAN;",
  "BETWEEN;NOT EQUIVALENT TO;NOT LESS-THAN;NOT GREATER-THAN;NEITHER LESS-THAN NOR EQUAL TO;",
  "NEITHER GREATER-THAN NOR EQUAL TO;LESS-THAN OR EQUIVALENT TO;GREATER-THAN OR EQUIVALENT TO;",
  "NEITHER LESS-THAN NOR EQUIVALENT TO;NEITHER GREATER-THAN NOR EQUIVALENT TO;",
  "LESS-THAN OR GREATER-THAN;GREATER-THAN OR LESS-THAN;NEITHER LESS-THAN NOR GREATER-THAN;",
  "NEITHER GREATER-THAN NOR LESS-THAN;PRECEDES;SUCCEEDS;PRECEDES OR EQUAL TO;",
  "SUCCEEDS OR EQUAL TO;PRECEDES OR EQUIVALENT TO;SUCCEEDS OR EQUIVALENT TO;DOES NOT PRECEDE;",
  "DOES NOT SUCCEED;SUBSET OF;SUPERSET OF;NOT A SUBSET OF;NOT A SUPERSET OF;",
  "SUBSET OF OR EQUAL TO;SUPERSET OF OR EQUAL TO;NEITHER A SUBSET OF NOR EQUAL TO;",
  "NEITHER A SUPERSET OF NOR EQUAL TO;SUBSET OF WITH NOT EQUAL TO;SUPERSET OF WITH NOT EQUAL TO;",
  "MULTISET;MULTISET MULTIPLICATION;MULTISET UNION;SQUARE IMAGE OF;SQUARE ORIGINAL OF;",
  "SQUARE IMAGE OF OR EQUAL TO;SQUARE ORIGINAL OF OR EQUAL TO;SQUARE CAP;SQUARE CUP;",
  "CIRCLED PLUS;CIRCLED MINUS;CIRCLED TIMES;CIRCLED DIVISION SLASH;CIRCLED DOT OPERATOR;",
  "CIRCLED RING OPERATOR;CIRCLED ASTERISK OPERATOR;CIRCLED EQUALS;CIRCLED DASH;SQUARED PLUS;",
  "SQUARED MINUS;SQUARED TIMES;SQUARED DOT OPERATOR;RIGHT TACK;LEFT TACK;DOWN TACK;UP TACK;",
  "ASSERTION;MODELS;TRUE;FORCES;TRIPLE VERTICAL BAR RIGHT TURNSTILE;",
  "DOUBLE VERTICAL BAR DOUBLE RIGHT TURNSTILE;DOES NOT PROVE;NOT TRUE;DOES NOT FORCE;",
  "NEGATED DOUBLE VERTICAL BAR DOUBLE RIGHT TURNSTILE;PRECEDES UNDER RELATION;",
  "SUCCEEDS UNDER RELATION;NORMAL SUBGROUP OF;CONTAINS AS NORMAL SUBGROUP;",
  "NORMAL SUBGROUP OF OR EQUAL TO;CONTAINS AS NORMAL SUBGROUP OR EQUAL TO;ORIGINAL OF;IMAGE OF;",
  "MULTIMAP;HERMITIAN CONJUGATE MATRIX;INTERCALATE;XOR;NAND;NOR;RIGHT ANGLE WITH ARC;",
  "RIGHT TRIANGLE;N-ARY LOGICAL AND;N-ARY LOGICAL OR;N-ARY INTERSECTION;N-ARY UNION;",
  "DIAMOND OPERATOR;DOT OPERATOR;STAR OPERATOR;DIVISION TIMES;BOWTIE;",
  "LEFT NORMAL FACTOR SEMIDIRECT PRODUCT;RIGHT NORMAL FACTOR SEMIDIRECT PRODUCT;",
  "LEFT SEMIDIRECT PRODUCT;RIGHT SEMIDIRECT PRODUCT;REVERSED TILDE EQUALS;CURLY LOGICAL OR;",
  "CURLY LOGICAL AND;DOUBLE SUBSET;DOUBLE SUPERSET;DOUBLE INTERSECTION;DOUBLE UNION;PITCHFORK;",
  "EQUAL AND PARALLEL TO;LESS-THAN WITH DOT;GREATER-THAN WITH DOT;VERY MUCH LESS-THAN;",
  "VERY MUCH GREATER-THAN;LESS-THAN EQUAL TO OR GREATER-THAN;GREATER-THAN EQUAL TO OR LESS-THAN;",
  "EQUAL TO OR LESS-THAN;EQUAL TO OR GREATER-THAN;EQUAL TO OR PRECEDES;EQUAL TO OR SUCCEEDS;",
  "DOES NOT PRECEDE OR EQUAL;DOES NOT SUCCEED OR EQUAL;NOT SQUARE IMAGE OF OR EQUAL TO;",
  "NOT SQUARE ORIGINAL OF OR EQUAL TO;SQUARE IMAGE OF OR NOT EQUAL TO;",
  "SQUARE ORIGINAL OF OR NOT EQUAL TO;LESS-THAN BUT NOT EQUIVALENT TO;",
  "GREATER-THAN BUT NOT EQUIVALENT TO;PRECEDES BUT NOT EQUIVALENT TO;",
  "SUCCEEDS BUT NOT EQUIVALENT TO;NOT NORMAL SUBGROUP OF;DOES NOT CONTAIN AS NORMAL SUBGROUP;",
  "NOT NORMAL SUBGROUP OF OR EQUAL TO;DOES NOT CONTAIN AS NORMAL SUBGROUP OR EQUAL;",
  "VERTICAL ELLIPSIS;MIDLINE HORIZONTAL ELLIPSIS;UP RIGHT DIAGONAL ELLIPSIS;",
  "DOWN RIGHT DIAGONAL ELLIPSIS;ELEMENT OF WITH LONG HORIZONTAL STROKE;",
  "ELEMENT OF WITH VERTICAL BAR AT END OF HORIZONTAL STROKE;",
  "SMALL ELEMENT OF WITH VERTICAL BAR AT END OF HORIZONTAL STROKE;ELEMENT OF WITH DOT ABOVE;",
  "ELEMENT OF WITH OVERBAR;SMALL ELEMENT OF WITH OVERBAR;ELEMENT OF WITH UNDERBAR;",
  "ELEMENT OF WITH TWO HORIZONTAL STROKES;CONTAINS WITH LONG HORIZONTAL STROKE;",
  "CONTAINS WITH VERTICAL BAR AT END OF HORIZONTAL STROKE;",
  "SMALL CONTAINS WITH VERTICAL BAR AT END OF HORIZONTAL STROKE;CONTAINS WITH OVERBAR;",
  "SMALL CONTAINS WITH OVERBAR;Z NOTATION BAG MEMBERSHIP;DIAMETER SIGN;ELECTRIC ARROW;HOUSE;",
  "UP ARROWHEAD;DOWN ARROWHEAD;PROJECTIVE;PERSPECTIVE;WAVY LINE;LEFT CEILING;RIGHT CEILING;",
  "LEFT FLOOR;RIGHT FLOOR;BOTTOM RIGHT CROP;BOTTOM LEFT CROP;TOP RIGHT CROP;TOP LEFT CROP;",
  "REVERSED NOT SIGN;SQUARE LOZENGE;ARC;SEGMENT;SECTOR;TELEPHONE RECORDER;POSITION INDICATOR;",
  "VIEWDATA SQUARE;PLACE OF INTEREST SIGN;TURNED NOT SIGN;WATCH;HOURGLASS;TOP LEFT CORNER;",
  "TOP RIGHT CORNER;BOTTOM LEFT CORNER;BOTTOM RIGHT CORNER;TOP HALF INTEGRAL;",
  "BOTTOM HALF INTEGRAL;FROWN;SMILE;UP ARROWHEAD BETWEEN TWO HORIZONTAL BARS;OPTION KEY;",
  "ERASE TO THE RIGHT;X IN A RECTANGLE BOX;KEYBOARD;LEFT-POINTING ANGLE BRACKET;",
  "RIGHT-POINTING ANGLE BRACKET;ERASE TO THE LEFT;BENZENE RING;CYLINDRICITY;ALL AROUND-PROFILE;",
  "SYMMETRY;TOTAL RUNOUT;DIMENSION ORIGIN;CONICAL TAPER;SLOPE;COUNTERBORE;COUNTERSINK;",
  "APL FUNCTIONAL SYMBOL I-BEAM;APL FUNCTIONAL SYMBOL SQUISH QUAD;",
  "APL FUNCTIONAL SYMBOL QUAD EQUAL;APL FUNCTIONAL SYMBOL QUAD DIVIDE;",
  "APL FUNCTIONAL SYMBOL QUAD DIAMOND;APL FUNCTIONAL SYMBOL QUAD JOT;",
  "APL FUNCTIONAL SYMBOL QUAD CIRCLE;APL FUNCTIONAL SYMBOL CIRCLE STILE;",
  "APL FUNCTIONAL SYMBOL CIRCLE JOT;APL FUNCTIONAL SYMBOL SLASH BAR;",
  "APL FUNCTIONAL SYMBOL BACKSLASH BAR;APL FUNCTIONAL SYMBOL QUAD SLASH;",
  "APL FUNCTIONAL SYMBOL QUAD BACKSLASH;APL FUNCTIONAL SYMBOL QUAD LESS-THAN;",
  "APL FUNCTIONAL SYMBOL QUAD GREATER-THAN;APL FUNCTIONAL SYMBOL LEFTWARDS VANE;",
  "APL FUNCTIONAL SYMBOL RIGHTWARDS VANE;APL FUNCTIONAL SYMBOL QUAD LEFTWARDS ARROW;",
  "APL FUNCTIONAL SYMBOL QUAD RIGHTWARDS ARROW;APL FUNCTIONAL SYMBOL CIRCLE BACKSLASH;",
  "APL FUNCTIONAL SYMBOL DOWN TACK UNDERBAR;APL FUNCTIONAL SYMBOL DELTA STILE;",
  "APL FUNCTIONAL SYMBOL QUAD DOWN CARET;APL FUNCTIONAL SYMBOL QUAD DELTA;",
  "APL FUNCTIONAL SYMBOL DOWN TACK JOT;APL FUNCTIONAL SYMBOL UPWARDS VANE;",
  "APL FUNCTIONAL SYMBOL QUAD UPWARDS ARROW;APL FUNCTIONAL SYMBOL UP TACK OVERBAR;",
  "APL FUNCTIONAL SYMBOL DEL STILE;APL FUNCTIONAL SYMBOL QUAD UP CARET;",
  "APL FUNCTIONAL SYMBOL QUAD DEL;APL FUNCTIONAL SYMBOL UP TACK JOT;",
  "APL FUNCTIONAL SYMBOL DOWNWARDS VANE;APL FUNCTIONAL SYMBOL QUAD DOWNWARDS ARROW;",
  "APL FUNCTIONAL SYMBOL QUOTE UNDERBAR;APL FUNCTIONAL SYMBOL DELTA UNDERBAR;",
  "APL FUNCTIONAL SYMBOL DIAMOND UNDERBAR;APL FUNCTIONAL SYMBOL JOT UNDERBAR;",
  "APL FUNCTIONAL SYMBOL CIRCLE UNDERBAR;APL FUNCTIONAL SYMBOL UP SHOE JOT;",
  "APL FUNCTIONAL SYMBOL QUOTE QUAD;APL FUNCTIONAL SYMBOL CIRCLE STAR;",
  "APL FUNCTIONAL SYMBOL QUAD COLON;APL FUNCTIONAL SYMBOL UP TACK DIAERESIS;",
  "APL FUNCTIONAL SYMBOL DEL DIAERESIS;APL FUNCTIONAL SYMBOL STAR DIAERESIS;",
  "APL FUNCTIONAL SYMBOL JOT DIAERESIS;APL FUNCTIONAL SYMBOL CIRCLE DIAERESIS;",
  "APL FUNCTIONAL SYMBOL DOWN SHOE STILE;APL FUNCTIONAL SYMBOL LEFT SHOE STILE;",
  "APL FUNCTIONAL SYMBOL TILDE DIAERESIS;APL FUNCTIONAL SYMBOL GREATER-THAN DIAERESIS;",
  "APL FUNCTIONAL SYMBOL COMMA BAR;APL FUNCTIONAL SYMBOL DEL TILDE;APL FUNCTIONAL SYMBOL ZILDE;",
  "APL FUNCTIONAL SYMBOL STILE TILDE;APL FUNCTIONAL SYMBOL SEMICOLON UNDERBAR;",
  "APL FUNCTIONAL SYMBOL QUAD NOT EQUAL;APL FUNCTIONAL SYMBOL QUAD QUESTION;",
  "APL FUNCTIONAL SYMBOL DOWN CARET TILDE;APL FUNCTIONAL SYMBOL UP CARET TILDE;",
  "APL FUNCTIONAL SYMBOL IOTA;APL FUNCTIONAL SYMBOL RHO;APL FUNCTIONAL SYMBOL OMEGA;",
  "APL FUNCTIONAL SYMBOL ALPHA UNDERBAR;APL FUNCTIONAL SYMBOL EPSILON UNDERBAR;",
  "APL FUNCTIONAL SYMBOL IOTA UNDERBAR;APL FUNCTIONAL SYMBOL OMEGA UNDERBAR;",
  "APL FUNCTIONAL SYMBOL ALPHA;NOT CHECK MARK;RIGHT ANGLE WITH DOWNWARDS ZIGZAG ARROW;",
  "SHOULDERED OPEN BOX;BELL SYMBOL;VERTICAL LINE WITH MIDDLE DOT;INSERTION SYMBOL;",
  "CONTINUOUS UNDERLINE SYMBOL;DISCONTINUOUS UNDERLINE SYMBOL;EMPHASIS SYMBOL;",
  "COMPOSITION SYMBOL;WHITE SQUARE WITH CENTRE VERTICAL LINE;ENTER SYMBOL;",
  "ALTERNATIVE KEY SYMBOL;HELM SYMBOL;CIRCLED HORIZONTAL BAR WITH NOTCH;CIRCLED TRIANGLE DOWN;",
  "BROKEN CIRCLE WITH NORTHWEST ARROW;UNDO SYMBOL;MONOSTABLE SYMBOL;HYSTERESIS SYMBOL;",
  "OPEN-CIRCUIT-OUTPUT H-TYPE SYMBOL;OPEN-CIRCUIT-OUTPUT L-TYPE SYMBOL;",
  "PASSIVE-PULL-DOWN-OUTPUT SYMBOL;PASSIVE-PULL-UP-OUTPUT SYMBOL;DIRECT CURRENT SYMBOL FORM TWO;",
  "SOFTWARE-FUNCTION SYMBOL;APL FUNCTIONAL SYMBOL QUAD;DECIMAL SEPARATOR KEY SYMBOL;",
  "PREVIOUS PAGE;NEXT PAGE;PRINT SCREEN SYMBOL;CLEAR SCREEN SYMBOL;LEFT PARENTHESIS UPPER HOOK;",
  "LEFT PARENTHESIS EXTENSION;LEFT PARENTHESIS LOWER HOOK;RIGHT PARENTHESIS UPPER HOOK;",
  "RIGHT PARENTHESIS EXTENSION;RIGHT PARENTHESIS LOWER HOOK;LEFT SQUARE BRACKET UPPER CORNER;",
  "LEFT SQUARE BRACKET EXTENSION;LEFT SQUARE BRACKET LOWER CORNER;",
  "RIGHT SQUARE BRACKET UPPER CORNER;RIGHT SQUARE BRACKET EXTENSION;",
  "RIGHT SQUARE BRACKET LOWER CORNER;LEFT CURLY BRACKET UPPER HOOK;",
  "LEFT CURLY BRACKET MIDDLE PIECE;LEFT CURLY BRACKET LOWER HOOK;CURLY BRACKET EXTENSION;",
  "RIGHT CURLY BRACKET UPPER HOOK;RIGHT CURLY BRACKET MIDDLE PIECE;",
  "RIGHT CURLY BRACKET LOWER HOOK;INTEGRAL EXTENSION;HORIZONTAL LINE EXTENSION;",
  "UPPER LEFT OR LOWER RIGHT CURLY BRACKET SECTION;",
  "UPPER RIGHT OR LOWER LEFT CURLY BRACKET SECTION;SUMMATION TOP;SUMMATION BOTTOM;",
  "TOP SQUARE BRACKET;BOTTOM SQUARE BRACKET;BOTTOM SQUARE BRACKET OVER TOP SQUARE BRACKET;",
  "RADICAL SYMBOL BOTTOM;LEFT VERTICAL BOX LINE;RIGHT VERTICAL BOX LINE;HORIZONTAL SCAN LINE-1;",
  "HORIZONTAL SCAN LINE-3;HORIZONTAL SCAN LINE-7;HORIZONTAL SCAN LINE-9;",
  "DENTISTRY SYMBOL LIGHT VERTICAL AND TOP RIGHT;",
  "DENTISTRY SYMBOL LIGHT VERTICAL AND BOTTOM RIGHT;DENTISTRY SYMBOL LIGHT VERTICAL WITH CIRCLE;",
  "DENTISTRY SYMBOL LIGHT DOWN AND HORIZONTAL WITH CIRCLE;",
  "DENTISTRY SYMBOL LIGHT UP AND HORIZONTAL WITH CIRCLE;",
  "DENTISTRY SYMBOL LIGHT VERTICAL WITH TRIANGLE;",
  "DENTISTRY SYMBOL LIGHT DOWN AND HORIZONTAL WITH TRIANGLE;",
  "DENTISTRY SYMBOL LIGHT UP AND HORIZONTAL WITH TRIANGLE;",
  "DENTISTRY SYMBOL LIGHT VERTICAL AND WAVE;",
  "DENTISTRY SYMBOL LIGHT DOWN AND HORIZONTAL WITH WAVE;",
  "DENTISTRY SYMBOL LIGHT UP AND HORIZONTAL WITH WAVE;",
  "DENTISTRY SYMBOL LIGHT DOWN AND HORIZONTAL;DENTISTRY SYMBOL LIGHT UP AND HORIZONTAL;",
  "DENTISTRY SYMBOL LIGHT VERTICAL AND TOP LEFT;DENTISTRY SYMBOL LIGHT VERTICAL AND BOTTOM LEFT;",
  "SQUARE FOOT;RETURN SYMBOL;EJECT SYMBOL;VERTICAL LINE EXTENSION;METRICAL BREVE;",
  "METRICAL LONG OVER SHORT;METRICAL SHORT OVER LONG;METRICAL LONG OVER TWO SHORTS;",
  "METRICAL TWO SHORTS OVER LONG;METRICAL TWO SHORTS JOINED;METRICAL TRISEME;METRICAL TETRASEME;",
  "METRICAL PENTASEME;EARTH GROUND;FUSE;TOP PARENTHESIS;BOTTOM PARENTHESIS;TOP CURLY BRACKET;",
  "BOTTOM CURLY BRACKET;TOP TORTOISE SHELL BRACKET;BOTTOM TORTOISE SHELL BRACKET;",
  "WHITE TRAPEZIUM;BENZENE RING WITH CIRCLE;STRAIGHTNESS;FLATNESS;AC CURRENT;",
  "ELECTRICAL INTERSECTION;DECIMAL EXPONENT SYMBOL;BLACK RIGHT-POINTING DOUBLE TRIANGLE;",
  "BLACK LEFT-POINTING DOUBLE TRIANGLE;BLACK UP-POINTING DOUBLE TRIANGLE;",
  "BLACK DOWN-POINTING DOUBLE TRIANGLE;BLACK RIGHT-POINTING DOUBLE TRIANGLE WITH VERTICAL BAR;",
  "BLACK LEFT-POINTING DOUBLE TRIANGLE WITH VERTICAL BAR;",
  "BLACK RIGHT-POINTING TRIANGLE WITH DOUBLE VERTICAL BAR;ALARM CLOCK;STOPWATCH;TIMER CLOCK;",
  "HOURGLASS WITH FLOWING SAND;BLACK MEDIUM LEFT-POINTING TRIANGLE;",
  "BLACK MEDIUM RIGHT-POINTING TRIANGLE;BLACK MEDIUM UP-POINTING TRIANGLE;",
  "BLACK MEDIUM DOWN-POINTING TRIANGLE;DOUBLE VERTICAL BAR;BLACK SQUARE FOR STOP;",
  "BLACK CIRCLE FOR RECORD;POWER SYMBOL;POWER ON-OFF SYMBOL;POWER ON SYMBOL;POWER SLEEP SYMBOL;",
  "OBSERVER EYE SYMBOL;SYMBOL FOR NULL;SYMBOL FOR START OF HEADING;SYMBOL FOR START OF TEXT;",
  "SYMBOL FOR END OF TEXT;SYMBOL FOR END OF TRANSMISSION;SYMBOL FOR ENQUIRY;"]

private def nameLinesB5 : List String := [
  "SYMBOL FOR ACKNOWLEDGE;SYMBOL FOR BELL;SYMBOL FOR BACKSPACE;SYMBOL FOR HORIZONTAL TABULATION;",
  "SYMBOL FOR LINE FEED;SYMBOL FOR VERTICAL TABULATION;SYMBOL FOR FORM FEED;",
  "SYMBOL FOR CARRIAGE RETURN;SYMBOL FOR SHIFT OUT;SYMBOL FOR SHIFT IN;",
  "SYMBOL FOR DATA LINK ESCAPE;SYMBOL FOR DEVICE CONTROL ONE;SYMBOL FOR DEVICE CONTROL TWO;",
  "SYMBOL FOR DEVICE CONTROL THREE;SYMBOL FOR DEVICE CONTROL FOUR;",
  "SYMBOL FOR NEGATIVE ACKNOWLEDGE;SYMBOL FOR SYNCHRONOUS IDLE;",
  "SYMBOL FOR END OF TRANSMISSION BLOCK;SYMBOL FOR CANCEL;SYMBOL FOR END OF MEDIUM;",
  "SYMBOL FOR SUBSTITUTE;SYMBOL FOR ESCAPE;SYMBOL FOR FILE SEPARATOR;SYMBOL FOR GROUP SEPARATOR;",
  "SYMBOL FOR RECORD SEPARATOR;SYMBOL FOR UNIT SEPARATOR;SYMBOL FOR SPACE;SYMBOL FOR DELETE;",
  "BLANK SYMBOL;OPEN BOX;SYMBOL FOR NEWLINE;SYMBOL FOR DELETE FORM TWO;",
  "SYMBOL FOR SUBSTITUTE FORM TWO"]

private def nameLinesB6 : List String := [
  "OCR HOOK;OCR CHAIR;OCR FORK;OCR INVERTED FORK;OCR BELT BUCKLE;OCR BOW TIE;",
  "OCR BRANCH BANK IDENTIFICATION;OCR AMOUNT OF CHECK;OCR DASH;OCR CUSTOMER ACCOUNT NUMBER;",
  "OCR DOUBLE BACKSLASH"]

private def nameLinesB7 : List String := [
  "CIRCLED DIGIT ONE;CIRCLED DIGIT TWO;CIRCLED DIGIT THREE;CIRCLED DIGIT FOUR;",
  "CIRCLED DIGIT FIVE;CIRCLED DIGIT SIX;CIRCLED DIGIT SEVEN;CIRCLED DIGIT EIGHT;",
  "CIRCLED DIGIT NINE;CIRCLED NUMBER TEN;CIRCLED NUMBER ELEVEN;CIRCLED NUMBER TWELVE;",
  "CIRCLED NUMBER THIRTEEN;CIRCLED NUMBER FOURTEEN;CIRCLED NUMBER FIFTEEN;",
  "CIRCLED NUMBER SIXTEEN;CIRCLED NUMBER SEVENTEEN;CIRCLED NUMBER EIGHTEEN;",
  "CIRCLED NUMBER NINETEEN;CIRCLED NUMBER TWENTY;PARENTHESIZED DIGIT ONE;",
  "PARENTHESIZED DIGIT TWO;PARENTHESIZED DIGIT THREE;PARENTHESIZED DIGIT FOUR;",
  "PARENTHESIZED DIGIT FIVE;PARENTHESIZED DIGIT SIX;PARENTHESIZED DIGIT SEVEN;",
  "PARENTHESIZED DIGIT EIGHT;PARENTHESIZED DIGIT NINE;PARENTHESIZED NUMBER TEN;",
  "PARENTHESIZED NUMBER ELEVEN;PARENTHESIZED NUMBER TWELVE;PARENTHESIZED NUMBER THIRTEEN;",
  "PARENTHESIZED NUMBER FOURTEEN;PARENTHESIZED NUMBER FIFTEEN;PARENTHESIZED NUMBER SIXTEEN;",
  "PARENTHESIZED NUMBER SEVENTEEN;PARENTHESIZED NUMBER EIGHTEEN;PARENTHESIZED NUMBER NINETEEN;",
  "PARENTHESIZED NUMBER TWENTY;DIGIT ONE FULL STOP;DIGIT TWO FULL STOP;DIGIT THREE FULL STOP;",
  "DIGIT FOUR FULL STOP;DIGIT FIVE FULL STOP;DIGIT SIX FULL STOP;DIGIT SEVEN FULL STOP;",
  "DIGIT EIGHT FULL STOP;DIGIT NINE FULL STOP;NUMBER TEN FULL STOP;NUMBER ELEVEN FULL STOP;",
  "NUMBER TWELVE FULL STOP;NUMBER THIRTEEN FULL STOP;NUMBER FOURTEEN FULL STOP;",
  "NUMBER FIFTEEN FULL STOP;NUMBER SIXTEEN FULL STOP;NUMBER SEVENTEEN FULL STOP;",
  "NUMBER EIGHTEEN FULL STOP;NUMBER NINETEEN FULL STOP;NUMBER TWENTY FULL STOP;",
  "PARENTHESIZED LATIN SMALL LETTER A;PARENTHESIZED LATIN SMALL LETTER B;",
  "PARENTHESIZED LATIN SMALL LETTER C;PARENTHESIZED LATIN SMALL LETTER D;",
  "PARENTHESIZED LATIN SMALL LETTER E;PARENTHESIZED LATIN SMALL LETTER F;",
  "PARENTHESIZED LATIN SMALL LETTER G;PARENTHESIZED LATIN SMALL LETTER H;",
  "PARENTHESIZED LATIN SMALL LETTER I;PARENTHESIZED LATIN SMALL LETTER J;",
  "PARENTHESIZED LATIN SMALL LETTER K;PARENTHESIZED LATIN SMALL LETTER L;",
  "PARENTHESIZED LATIN SMALL LETTER M;PARENTHESIZED LATIN SMALL LETTER N;",
  "PARENTHESIZED LATIN SMALL LETTER O;PARENTHESIZED LATIN SMALL LETTER P;",
  "PARENTHESIZED LATIN SMALL LETTER Q;PARENTHESIZED LATIN SMALL LETTER R;",
  "PARENTHESIZED LATIN SMALL LETTER S;PARENTHESIZED LATIN SMALL LETTER T;",
  "PARENTHESIZED LATIN SMALL LETTER U;PARENTHESIZED LATIN SMALL LETTER V;",
  "PARENTHESIZED LATIN SMALL LETTER W;PARENTHESIZED LATIN SMALL LETTER X;",
  "PARENTHESIZED LATIN SMALL LETTER Y;PARENTHESIZED LATIN SMALL LETTER Z;",
  "CIRCLED LATIN CAPITAL LETTER A;CIRCLED LATIN CAPITAL LETTER B;CIRCLED LATIN CAPITAL LETTER C;",
  "CIRCLED LATIN CAPITAL LETTER D;CIRCLED LATIN CAPITAL LETTER E;CIRCLED LATIN CAPITAL LETTER F;",
  "CIRCLED LATIN CAPITAL LETTER G;CIRCLED LATIN CAPITAL LETTER H;CIRCLED LATIN CAPITAL LETTER I;",
  "CIRCLED LATIN CAPITAL LETTER J;CIRCLED LATIN CAPITAL LETTER K;CIRCLED LATIN CAPITAL LETTER L;",
  "CIRCLED LATIN CAPITAL LETTER M;CIRCLED LATIN CAPITAL LETTER N;CIRCLED LATIN CAPITAL LETTER O;",
  "CIRCLED LATIN CAPITAL LETTER P;CIRCLED LATIN CAPITAL LETTER Q;CIRCLED LATIN CAPITAL LETTER R;",
  "CIRCLED LATIN CAPITAL LETTER S;CIRCLED LATIN CAPITAL LETTER T;CIRCLED LATIN CAPITAL LETTER U;",
  "CIRCLED LATIN CAPITAL LETTER V;CIRCLED LATIN CAPITAL LETTER W;CIRCLED LATIN CAPITAL LETTER X;",
  "CIRCLED LATIN CAPITAL LETTER Y;CIRCLED LATIN CAPITAL LETTER Z;CIRCLED LATIN SMALL LETTER A;",
  "CIRCLED LATIN SMALL LETTER B;CIRCLED LATIN SMALL LETTER C;CIRCLED LATIN SMALL LETTER D;",
  "CIRCLED LATIN SMALL LETTER E;CIRCLED LATIN SMALL LETTER F;CIRCLED LATIN SMALL LETTER G;",
  "CIRCLED LATIN SMALL LETTER H;CIRCLED LATIN SMALL LETTER I;CIRCLED LATIN SMALL LETTER J;",
  "CIRCLED LATIN SMALL LETTER K;CIRCLED LATIN SMALL LETTER L;CIRCLED LATIN SMALL LETTER M;",
  "CIRCLED LATIN SMALL LETTER N;CIRCLED LATIN SMALL LETTER O;CIRCLED LATIN SMALL LETTER P;",
  "CIRCLED LATIN SMALL LETTER Q;CIRCLED LATIN SMALL LETTER R;CIRCLED LATIN SMALL LETTER S;",
  "CIRCLED LATIN SMALL LETTER T;CIRCLED LATIN SMALL LETTER U;CIRCLED LATIN SMALL LETTER V;",
  "CIRCLED LATIN SMALL LETTER W;CIRCLED LATIN SMALL LETTER X;CIRCLED LATIN SMALL LETTER Y;",
  "CIRCLED LATIN SMALL LETTER Z;CIRCLED DIGIT ZERO;NEGATIVE CIRCLED NUMBER ELEVEN;",
  "NEGATIVE CIRCLED NUMBER TWELVE;NEGATIVE CIRCLED NUMBER THIRTEEN;",
  "NEGATIVE CIRCLED NUMBER FOURTEEN;NEGATIVE CIRCLED NUMBER FIFTEEN;",
  "NEGATIVE CIRCLED NUMBER SIXTEEN;NEGATIVE CIRCLED NUMBER SEVENTEEN;",
  "NEGATIVE CIRCLED NUMBER EIGHTEEN;NEGATIVE CIRCLED NUMBER NINETEEN;",
  "NEGATIVE CIRCLED NUMBER TWENTY;DOUBLE CIRCLED DIGIT ONE;DOUBLE CIRCLED DIGIT TWO;",
  "DOUBLE CIRCLED DIGIT THREE;DOUBLE CIRCLED DIGIT FOUR;DOUBLE CIRCLED DIGIT FIVE;",
  "DOUBLE CIRCLED DIGIT SIX;DOUBLE CIRCLED DIGIT SEVEN;DOUBLE CIRCLED DIGIT EIGHT;",
  "DOUBLE CIRCLED DIGIT NINE;DOUBLE CIRCLED NUMBER TEN;NEGATIVE CIRCLED DIGIT ZERO;",
  "BOX DRAWINGS LIGHT HORIZONTAL;BOX DRAWINGS HEAVY HORIZONTAL;BOX DRAWINGS LIGHT VERTICAL;",
  "BOX DRAWINGS HEAVY VERTICAL;BOX DRAWINGS LIGHT TRIPLE DASH HORIZONTAL;",
  "BOX DRAWINGS HEAVY TRIPLE DASH HORIZONTAL;BOX DRAWINGS LIGHT TRIPLE DASH VERTICAL;",
  "BOX DRAWINGS HEAVY TRIPLE DASH VERTICAL;BOX DRAWINGS LIGHT QUADRUPLE DASH HORIZONTAL;",
  "BOX DRAWINGS HEAVY QUADRUPLE DASH HORIZONTAL;BOX DRAWINGS LIGHT QUADRUPLE DASH VERTICAL;",
  "BOX DRAWINGS HEAVY QUADRUPLE DASH VERTICAL;BOX DRAWINGS LIGHT DOWN AND RIGHT;",
  "BOX DRAWINGS DOWN LIGHT AND RIGHT HEAVY;BOX DRAWINGS DOWN HEAVY AND RIGHT LIGHT;",
  "BOX DRAWINGS HEAVY DOWN AND RIGHT;BOX DRAWINGS LIGHT DOWN AND LEFT;",
  "BOX DRAWINGS DOWN LIGHT AND LEFT HEAVY;BOX DRAWINGS DOWN HEAVY AND LEFT LIGHT;",
  "BOX DRAWINGS HEAVY DOWN AND LEFT;BOX DRAWINGS LIGHT UP AND RIGHT;",
  "BOX DRAWINGS UP LIGHT AND RIGHT HEAVY;BOX DRAWINGS UP HEAVY AND RIGHT LIGHT;",
  "BOX DRAWINGS HEAVY UP AND RIGHT;BOX DRAWINGS LIGHT UP AND LEFT;",
  "BOX DRAWINGS UP LIGHT AND LEFT HEAVY;BOX DRAWINGS UP HEAVY AND LEFT LIGHT;",
  "BOX DRAWINGS HEAVY UP AND LEFT;BOX DRAWINGS LIGHT VERTICAL AND RIGHT;",
  "BOX DRAWINGS VERTICAL LIGHT AND RIGHT HEAVY;BOX DRAWINGS UP HEAVY AND RIGHT DOWN LIGHT;",
  "BOX DRAWINGS DOWN HEAVY AND RIGHT UP LIGHT;BOX DRAWINGS VERTICAL HEAVY AND RIGHT LIGHT;",
  "BOX DRAWINGS DOWN LIGHT AND RIGHT UP HEAVY;BOX DRAWINGS UP LIGHT AND RIGHT DOWN HEAVY;",
  "BOX DRAWINGS HEAVY VERTICAL AND RIGHT;BOX DRAWINGS LIGHT VERTICAL AND LEFT;",
  "BOX DRAWINGS VERTICAL LIGHT AND LEFT HEAVY;BOX DRAWINGS UP HEAVY AND LEFT DOWN LIGHT;",
  "BOX DRAWINGS DOWN HEAVY AND LEFT UP LIGHT;BOX DRAWINGS VERTICAL HEAVY AND LEFT LIGHT;",
  "BOX DRAWINGS DOWN LIGHT AND LEFT UP HEAVY;BOX DRAWINGS UP LIGHT AND LEFT DOWN HEAVY;",
  "BOX DRAWINGS HEAVY VERTICAL AND LEFT;BOX DRAWINGS LIGHT DOWN AND HORIZONTAL;",
  "BOX DRAWINGS LEFT HEAVY AND RIGHT DOWN LIGHT;BOX DRAWINGS RIGHT HEAVY AND LEFT DOWN LIGHT;",
  "BOX DRAWINGS DOWN LIGHT AND HORIZONTAL HEAVY;BOX DRAWINGS DOWN HEAVY AND HORIZONTAL LIGHT;",
  "BOX DRAWINGS RIGHT LIGHT AND LEFT DOWN HEAVY;BOX DRAWINGS LEFT LIGHT AND RIGHT DOWN HEAVY;",
  "BOX DRAWINGS HEAVY DOWN AND HORIZONTAL;BOX DRAWINGS LIGHT UP AND HORIZONTAL;",
  "BOX DRAWINGS LEFT HEAVY AND RIGHT UP LIGHT;BOX DRAWINGS RIGHT HEAVY AND LEFT UP LIGHT;",
  "BOX DRAWINGS UP LIGHT AND HORIZONTAL HEAVY;BOX DRAWINGS UP HEAVY AND HORIZONTAL LIGHT;",
  "BOX DRAWINGS RIGHT LIGHT AND LEFT UP HEAVY;BOX DRAWINGS LEFT LIGHT AND RIGHT UP HEAVY;",
  "BOX DRAWINGS HEAVY UP AND HORIZONTAL;BOX DRAWINGS LIGHT VERTICAL AND HORIZONTAL;",
  "BOX DRAWINGS LEFT HEAVY AND RIGHT VERTICAL LIGHT;",
  "BOX DRAWINGS RIGHT HEAVY AND LEFT VERTICAL LIGHT;",
  "BOX DRAWINGS VERTICAL LIGHT AND HORIZONTAL HEAVY;",
  "BOX DRAWINGS UP HEAVY AND DOWN HORIZONTAL LIGHT;",
  "BOX DRAWINGS DOWN HEAVY AND UP HORIZONTAL LIGHT;",
  "BOX DRAWINGS VERTICAL HEAVY AND HORIZONTAL LIGHT;",
  "BOX DRAWINGS LEFT UP HEAVY AND RIGHT DOWN LIGHT;",
  "BOX DRAWINGS RIGHT UP HEAVY AND LEFT DOWN LIGHT;",
  "BOX DRAWINGS LEFT DOWN HEAVY AND RIGHT UP LIGHT;",
  "BOX DRAWINGS RIGHT DOWN HEAVY AND LEFT UP LIGHT;",
  "BOX DRAWINGS DOWN LIGHT AND UP HORIZONTAL HEAVY;",
  "BOX DRAWINGS UP LIGHT AND DOWN HORIZONTAL HEAVY;",
  "BOX DRAWINGS RIGHT LIGHT AND LEFT VERTICAL HEAVY;",
  "BOX DRAWINGS LEFT LIGHT AND RIGHT VERTICAL HEAVY;BOX DRAWINGS HEAVY VERTICAL AND HORIZONTAL;",
  "BOX DRAWINGS LIGHT DOUBLE DASH HORIZONTAL;BOX DRAWINGS HEAVY DOUBLE DASH HORIZONTAL;",
  "BOX DRAWINGS LIGHT DOUBLE DASH VERTICAL;BOX DRAWINGS HEAVY DOUBLE DASH VERTICAL;",
  "BOX DRAWINGS DOUBLE HORIZONTAL;BOX DRAWINGS DOUBLE VERTICAL;",
  "BOX DRAWINGS DOWN SINGLE AND RIGHT DOUBLE;BOX DRAWINGS DOWN DOUBLE AND RIGHT SINGLE;",
  "BOX DRAWINGS DOUBLE DOWN AND RIGHT;BOX DRAWINGS DOWN SINGLE AND LEFT DOUBLE;",
  "BOX DRAWINGS DOWN DOUBLE AND LEFT SINGLE;BOX DRAWINGS DOUBLE DOWN AND LEFT;",
  "BOX DRAWINGS UP SINGLE AND RIGHT DOUBLE;BOX DRAWINGS UP DOUBLE AND RIGHT SINGLE;",
  "BOX DRAWINGS DOUBLE UP AND RIGHT;BOX DRAWINGS UP SINGLE AND LEFT DOUBLE;",
  "BOX DRAWINGS UP DOUBLE AND LEFT SINGLE;BOX DRAWINGS DOUBLE UP AND LEFT;",
  "BOX DRAWINGS VERTICAL SINGLE AND RIGHT DOUBLE;BOX DRAWINGS VERTICAL DOUBLE AND RIGHT SINGLE;",
  "BOX DRAWINGS DOUBLE VERTICAL AND RIGHT;BOX DRAWINGS VERTICAL SINGLE AND LEFT DOUBLE;",
  "BOX DRAWINGS VERTICAL DOUBLE AND LEFT SINGLE;BOX DRAWINGS DOUBLE VERTICAL AND LEFT;",
  "BOX DRAWINGS DOWN SINGLE AND HORIZONTAL DOUBLE;",
  "BOX DRAWINGS DOWN DOUBLE AND HORIZONTAL SINGLE;BOX DRAWINGS DOUBLE DOWN AND HORIZONTAL;",
  "BOX DRAWINGS UP SINGLE AND HORIZONTAL DOUBLE;BOX DRAWINGS UP DOUBLE AND HORIZONTAL SINGLE;",
  "BOX DRAWINGS DOUBLE UP AND HORIZONTAL;BOX DRAWINGS VERTICAL SINGLE AND HORIZONTAL DOUBLE;",
  "BOX DRAWINGS VERTICAL DOUBLE AND HORIZONTAL SINGLE;",
  "BOX DRAWINGS DOUBLE VERTICAL AND HORIZONTAL;BOX DRAWINGS LIGHT ARC DOWN AND RIGHT;",
  "BOX DRAWINGS LIGHT ARC DOWN AND LEFT;BOX DRAWINGS LIGHT ARC UP AND LEFT;",
  "BOX DRAWINGS LIGHT ARC UP AND RIGHT;BOX DRAWINGS LIGHT DIAGONAL UPPER RIGHT TO LOWER LEFT;",
  "BOX DRAWINGS LIGHT DIAGONAL UPPER LEFT TO LOWER RIGHT;BOX DRAWINGS LIGHT DIAGONAL CROSS;",
  "BOX DRAWINGS LIGHT LEFT;BOX DRAWINGS LIGHT UP;BOX DRAWINGS LIGHT RIGHT;",
  "BOX DRAWINGS LIGHT DOWN;BOX DRAWINGS HEAVY LEFT;BOX DRAWINGS HEAVY UP;",
  "BOX DRAWINGS HEAVY RIGHT;BOX DRAWINGS HEAVY DOWN;BOX DRAWINGS LIGHT LEFT AND HEAVY RIGHT;",
  "BOX DRAWINGS LIGHT UP AND HEAVY DOWN;BOX DRAWINGS HEAVY LEFT AND LIGHT RIGHT;",
  "BOX DRAWINGS HEAVY UP AND LIGHT DOWN;UPPER HALF BLOCK;LOWER ONE EIGHTH BLOCK;",
  "LOWER ONE QUARTER BLOCK;LOWER THREE EIGHTHS BLOCK;LOWER HALF BLOCK;LOWER FIVE EIGHTHS BLOCK;",
  "LOWER THREE QUARTERS BLOCK;LOWER SEVEN EIGHTHS BLOCK;FULL BLOCK;LEFT SEVEN EIGHTHS BLOCK;",
  "LEFT THREE QUARTERS BLOCK;LEFT FIVE EIGHTHS BLOCK;LEFT HALF BLOCK;LEFT THREE EIGHTHS BLOCK;",
  "LEFT ONE QUARTER BLOCK;LEFT ONE EIGHTH BLOCK;RIGHT HALF BLOCK;LIGHT SHADE;MEDIUM SHADE;",
  "DARK SHADE;UPPER ONE EIGHTH BLOCK;RIGHT ONE EIGHTH BLOCK;QUADRANT LOWER LEFT;",
  "QUADRANT LOWER RIGHT;QUADRANT UPPER LEFT;QUADRANT UPPER LEFT AND LOWER LEFT AND LOWER RIGHT;",
  "QUADRANT UPPER LEFT AND LOWER RIGHT;QUADRANT UPPER LEFT AND UPPER RIGHT AND LOWER LEFT;",
  "QUADRANT UPPER LEFT AND UPPER RIGHT AND LOWER RIGHT;QUADRANT UPPER RIGHT;",
  "QUADRANT UPPER RIGHT AND LOWER LEFT;QUADRANT UPPER RIGHT AND LOWER LEFT AND LOWER RIGHT;",
  "BLACK SQUARE;WHITE SQUARE;WHITE SQUARE WITH ROUNDED CORNERS;",
  "WHITE SQUARE CONTAINING BLACK SMALL SQUARE;SQUARE WITH HORIZONTAL FILL;",
  "SQUARE WITH VERTICAL FILL;SQUARE WITH ORTHOGONAL CROSSHATCH FILL;",
  "SQUARE WITH UPPER LEFT TO LOWER RIGHT FILL;SQUARE WITH UPPER RIGHT TO LOWER LEFT FILL;",
  "SQUARE WITH DIAGONAL CROSSHATCH FILL;BLACK SMALL SQUARE;WHITE SMALL SQUARE;BLACK RECTANGLE;",
  "WHITE RECTANGLE;BLACK VERTICAL RECTANGLE;WHITE VERTICAL RECTANGLE;BLACK PARALLELOGRAM;",
  "WHITE PARALLELOGRAM;BLACK UP-POINTING TRIANGLE;WHITE UP-POINTING TRIANGLE;",
  "BLACK UP-POINTING SMALL TRIANGLE;WHITE UP-POINTING SMALL TRIANGLE;",
  "BLACK RIGHT-POINTING TRIANGLE;WHITE RIGHT-POINTING TRIANGLE;",
  "BLACK RIGHT-POINTING SMALL TRIANGLE;WHITE RIGHT-POINTING SMALL TRIANGLE;",
  "BLACK RIGHT-POINTING POINTER;WHITE RIGHT-POINTING POINTER;BLACK DOWN-POINTING TRIANGLE;",
  "WHITE DOWN-POINTING TRIANGLE;BLACK DOWN-POINTING SMALL TRIANGLE;",
  "WHITE DOWN-POINTING SMALL TRIANGLE;BLACK LEFT-POINTING TRIANGLE;WHITE LEFT-POINTING TRIANGLE;",
  "BLACK LEFT-POINTING SMALL TRIANGLE;WHITE LEFT-POINTING SMALL TRIANGLE;",
  "BLACK LEFT-POINTING POINTER;WHITE LEFT-POINTING POINTER;BLACK DIAMOND;WHITE DIAMOND;",
  "WHITE DIAMOND CONTAINING BLACK SMALL DIAMOND;FISHEYE;LOZENGE;WHITE CIRCLE;DOTTED CIRCLE;",
  "CIRCLE WITH VERTICAL FILL;BULLSEYE;BLACK CIRCLE;CIRCLE WITH LEFT HALF BLACK;",
  "CIRCLE WITH RIGHT HALF BLACK;CIRCLE WITH LOWER HALF BLACK;CIRCLE WITH UPPER HALF BLACK;",
  "CIRCLE WITH UPPER RIGHT QUADRANT BLACK;CIRCLE WITH ALL BUT UPPER LEFT QUADRANT BLACK;",
  "LEFT HALF BLACK CIRCLE;RIGHT HALF BLACK CIRCLE;INVERSE BULLET;INVERSE WHITE CIRCLE;",
  "UPPER HALF INVERSE WHITE CIRCLE;LOWER HALF INVERSE WHITE CIRCLE;",
  "UPPER LEFT QUADRANT CIRCULAR ARC;UPPER RIGHT QUADRANT CIRCULAR ARC;",
  "LOWER RIGHT QUADRANT CIRCULAR ARC;LOWER LEFT QUADRANT CIRCULAR ARC;UPPER HALF CIRCLE;",
  "LOWER HALF CIRCLE;BLACK LOWER RIGHT TRIANGLE;BLACK LOWER LEFT TRIANGLE;",
  "BLACK UPPER LEFT TRIANGLE;BLACK UPPER RIGHT TRIANGLE;WHITE BULLET;",
  "SQUARE WITH LEFT HALF BLACK;SQUARE WITH RIGHT HALF BLACK;",
  "SQUARE WITH UPPER LEFT DIAGONAL HALF BLACK;SQUARE WITH LOWER RIGHT DIAGONAL HALF BLACK;",
  "WHITE SQUARE WITH VERTICAL BISECTING LINE;WHITE UP-POINTING TRIANGLE WITH DOT;",
  "UP-POINTING TRIANGLE WITH LEFT HALF BLACK;UP-POINTING TRIANGLE WITH RIGHT HALF BLACK;",
  "LARGE CIRCLE;WHITE SQUARE WITH UPPER LEFT QUADRANT;WHITE SQUARE WITH LOWER LEFT QUADRANT;",
  "WHITE SQUARE WITH LOWER RIGHT QUADRANT;WHITE SQUARE WITH UPPER RIGHT QUADRANT;",
  "WHITE CIRCLE WITH UPPER LEFT QUADRANT;WHITE CIRCLE WITH LOWER LEFT QUADRANT;",
  "WHITE CIRCLE WITH LOWER RIGHT QUADRANT;WHITE CIRCLE WITH UPPER RIGHT QUADRANT;",
  "UPPER LEFT TRIANGLE;UPPER RIGHT TRIANGLE;LOWER LEFT TRIANGLE;WHITE MEDIUM SQUARE;",
  "BLACK MEDIUM SQUARE;WHITE MEDIUM SMALL SQUARE;BLACK MEDIUM SMALL SQUARE;LOWER RIGHT TRIANGLE;",
  "BLACK SUN WITH RAYS;CLOUD;UMBRELLA;SNOWMAN;COMET;BLACK STAR;WHITE STAR;LIGHTNING;",
  "THUNDERSTORM;SUN;ASCENDING NODE;DESCENDING NODE;CONJUNCTION;OPPOSITION;BLACK TELEPHONE;",
  "WHITE TELEPHONE;BALLOT BOX;BALLOT BOX WITH CHECK;BALLOT BOX WITH X;SALTIRE;",
  "UMBRELLA WITH RAIN DROPS;HOT BEVERAGE;WHITE SHOGI PIECE;BLACK SHOGI PIECE;SHAMROCK;",
  "REVERSED ROTATED FLORAL HEART BULLET;BLACK LEFT POINTING INDEX;BLACK RIGHT POINTING INDEX;",
  "WHITE LEFT POINTING INDEX;WHITE UP POINTING INDEX;WHITE RIGHT POINTING INDEX;",
  "WHITE DOWN POINTING INDEX;SKULL AND CROSSBONES;CAUTION SIGN;RADIOACTIVE SIGN;BIOHAZARD SIGN;",
  "CADUCEUS;ANKH;ORTHODOX CROSS;CHI RHO;CROSS OF LORRAINE;CROSS OF JERUSALEM;STAR AND CRESCENT;",
  "FARSI SYMBOL;ADI SHAKTI;HAMMER AND SICKLE;PEACE SYMBOL;YIN YANG;TRIGRAM FOR HEAVEN;",
  "TRIGRAM FOR LAKE;TRIGRAM FOR FIRE;TRIGRAM FOR THUNDER;TRIGRAM FOR WIND;TRIGRAM FOR WATER;",
  "TRIGRAM FOR MOUNTAIN;TRIGRAM FOR EARTH;WHEEL OF DHARMA;WHITE FROWNING FACE;",
  "WHITE SMILING FACE;BLACK SMILING FACE;WHITE SUN WITH RAYS;FIRST QUARTER MOON;",
  "LAST QUARTER MOON;MERCURY;FEMALE SIGN;EARTH;MALE SIGN;JUPITER;SATURN;URANUS;NEPTUNE;PLUTO;",
  "ARIES;TAURUS;GEMINI;CANCER;LEO;VIRGO;LIBRA;SCORPIUS;SAGITTARIUS;CAPRICORN;AQUARIUS;PISCES;",
  "WHITE CHESS KING;WHITE CHESS QUEEN;WHITE CHESS ROOK;WHITE CHESS BISHOP;WHITE CHESS KNIGHT;",
  "WHITE CHESS PAWN;BLACK CHESS KING;BLACK CHESS QUEEN;BLACK CHESS ROOK;BLACK CHESS BISHOP;",
  "BLACK CHESS KNIGHT;BLACK CHESS PAWN;BLACK SPADE SUIT;WHITE HEART SUIT;WHITE DIAMOND SUIT;",
  "BLACK CLUB SUIT;WHITE SPADE SUIT;BLACK HEART SUIT;BLACK DIAMOND SUIT;WHITE CLUB SUIT;",
  "HOT SPRINGS;QUARTER NOTE;EIGHTH NOTE;BEAMED EIGHTH NOTES;BEAMED SIXTEENTH NOTES;",
  "MUSIC FLAT SIGN;MUSIC NATURAL SIGN;MUSIC SHARP SIGN;WEST SYRIAC CROSS;EAST SYRIAC CROSS;",
  "UNIVERSAL RECYCLING SYMBOL;RECYCLING SYMBOL FOR TYPE-1 PLASTICS;",
  "RECYCLING SYMBOL FOR TYPE-2 PLASTICS;RECYCLING SYMBOL FOR TYPE-3 PLASTICS;",
  "RECYCLING SYMBOL FOR TYPE-4 PLASTICS;RECYCLING SYMBOL FOR TYPE-5 PLASTICS;",
  "RECYCLING SYMBOL FOR TYPE-6 PLASTICS;RECYCLING SYMBOL FOR TYPE-7 PLASTICS;",
  "RECYCLING SYMBOL FOR GENERIC MATERIALS;BLACK UNIVERSAL RECYCLING SYMBOL;",
  "RECYCLED PAPER SYMBOL;PARTIALLY-RECYCLED PAPER SYMBOL;PERMANENT PAPER SIGN;WHEELCHAIR SYMBOL;",
  "DIE FACE-1;DIE FACE-2;DIE FACE-3;DIE FACE-4;DIE FACE-5;DIE FACE-6;",
  "WHITE CIRCLE WITH DOT RIGHT;WHITE CIRCLE WITH TWO DOTS;BLACK CIRCLE WITH WHITE DOT RIGHT;",
  "BLACK CIRCLE WITH TWO WHITE DOTS;MONOGRAM FOR YANG;MONOGRAM FOR YIN;DIGRAM FOR GREATER YANG;"]

private def nameLinesB8 : List String := [
  "DIGRAM FOR LESSER YIN;DIGRAM FOR LESSER YANG;DIGRAM FOR GREATER YIN;WHITE FLAG;BLACK FLAG;",
  "HAMMER AND PICK;ANCHOR;CROSSED SWORDS;STAFF OF AESCULAPIUS;SCALES;ALEMBIC;FLOWER;GEAR;",
  "STAFF OF HERMES;ATOM SYMBOL;FLEUR-DE-LIS;OUTLINED WHITE STAR;THREE LINES CONVERGING RIGHT;",
  "THREE LINES CONVERGING LEFT;WARNING SIGN;HIGH VOLTAGE SIGN;DOUBLED FEMALE SIGN;",
  "DOUBLED MALE SIGN;INTERLOCKED FEMALE AND MALE SIGN;MALE AND FEMALE SIGN;",
  "MALE WITH STROKE SIGN;MALE WITH STROKE AND MALE AND FEMALE SIGN;",
  "VERTICAL MALE WITH STROKE SIGN;HORIZONTAL MALE WITH STROKE SIGN;MEDIUM WHITE CIRCLE;",
  "MEDIUM BLACK CIRCLE;MEDIUM SMALL WHITE CIRCLE;MARRIAGE SYMBOL;DIVORCE SYMBOL;",
  "UNMARRIED PARTNERSHIP SYMBOL;COFFIN;FUNERAL URN;NEUTER;CERES;PALLAS;JUNO;VESTA;CHIRON;",
  "BLACK MOON LILITH;SEXTILE;SEMISEXTILE;QUINCUNX;SESQUIQUADRATE;SOCCER BALL;BASEBALL;",
  "SQUARED KEY;WHITE DRAUGHTS MAN;WHITE DRAUGHTS KING;BLACK DRAUGHTS MAN;BLACK DRAUGHTS KING;",
  "SNOWMAN WITHOUT SNOW;SUN BEHIND CLOUD;RAIN;BLACK SNOWMAN;THUNDER CLOUD AND RAIN;",
  "TURNED WHITE SHOGI PIECE;TURNED BLACK SHOGI PIECE;WHITE DIAMOND IN SQUARE;CROSSING LANES;",
  "DISABLED CAR;OPHIUCHUS;PICK;CAR SLIDING;HELMET WITH WHITE CROSS;CIRCLED CROSSING LANES;",
  "CHAINS;NO ENTRY;ALTERNATE ONE-WAY LEFT WAY TRAFFIC;BLACK TWO-WAY LEFT WAY TRAFFIC;",
  "WHITE TWO-WAY LEFT WAY TRAFFIC;BLACK LEFT LANE MERGE;WHITE LEFT LANE MERGE;DRIVE SLOW SIGN;",
  "HEAVY WHITE DOWN-POINTING TRIANGLE;LEFT CLOSED ENTRY;SQUARED SALTIRE;",
  "FALLING DIAGONAL IN WHITE CIRCLE IN BLACK SQUARE;BLACK TRUCK;RESTRICTED LEFT ENTRY-1;",
  "RESTRICTED LEFT ENTRY-2;ASTRONOMICAL SYMBOL FOR URANUS;",
  "HEAVY CIRCLE WITH STROKE AND TWO DOTS ABOVE;PENTAGRAM;RIGHT-HANDED INTERLACED PENTAGRAM;",
  "LEFT-HANDED INTERLACED PENTAGRAM;INVERTED PENTAGRAM;BLACK CROSS ON SHIELD;SHINTO SHRINE;",
  "CHURCH;CASTLE;HISTORIC SITE;GEAR WITHOUT HUB;GEAR WITH HANDLES;MAP SYMBOL FOR LIGHTHOUSE;",
  "MOUNTAIN;UMBRELLA ON GROUND;FOUNTAIN;FLAG IN HOLE;FERRY;SAILBOAT;SQUARE FOUR CORNERS;SKIER;",
  "ICE SKATE;PERSON WITH BALL;TENT;JAPANESE BANK SYMBOL;HEADSTONE GRAVEYARD SYMBOL;FUEL PUMP;",
  "CUP ON BLACK SQUARE;WHITE FLAG WITH HORIZONTAL MIDDLE BLACK STRIPE;BLACK SAFETY SCISSORS;",
  "UPPER BLADE SCISSORS;BLACK SCISSORS;LOWER BLADE SCISSORS;WHITE SCISSORS;",
  "WHITE HEAVY CHECK MARK;TELEPHONE LOCATION SIGN;TAPE DRIVE;AIRPLANE;ENVELOPE;RAISED FIST;",
  "RAISED HAND;VICTORY HAND;WRITING HAND;LOWER RIGHT PENCIL;PENCIL;UPPER RIGHT PENCIL;WHITE NIB;",
  "BLACK NIB;CHECK MARK;HEAVY CHECK MARK;MULTIPLICATION X;HEAVY MULTIPLICATION X;BALLOT X;",
  "HEAVY BALLOT X;OUTLINED GREEK CROSS;HEAVY GREEK CROSS;OPEN CENTRE CROSS;",
  "HEAVY OPEN CENTRE CROSS;LATIN CROSS;SHADOWED WHITE LATIN CROSS;OUTLINED LATIN CROSS;",
  "MALTESE CROSS;STAR OF DAVID;FOUR TEARDROP-SPOKED ASTERISK;FOUR BALLOON-SPOKED ASTERISK;",
  "HEAVY FOUR BALLOON-SPOKED ASTERISK;FOUR CLUB-SPOKED ASTERISK;BLACK FOUR POINTED STAR;",
  "WHITE FOUR POINTED STAR;SPARKLES;STRESS OUTLINED WHITE STAR;CIRCLED WHITE STAR;",
  "OPEN CENTRE BLACK STAR;BLACK CENTRE WHITE STAR;OUTLINED BLACK STAR;HEAVY OUTLINED BLACK STAR;",
  "PINWHEEL STAR;SHADOWED WHITE STAR;HEAVY ASTERISK;OPEN CENTRE ASTERISK;EIGHT SPOKED ASTERISK;",
  "EIGHT POINTED BLACK STAR;EIGHT POINTED PINWHEEL STAR;SIX POINTED BLACK STAR;",
  "EIGHT POINTED RECTILINEAR BLACK STAR;HEAVY EIGHT POINTED RECTILINEAR BLACK STAR;",
  "TWELVE POINTED BLACK STAR;SIXTEEN POINTED ASTERISK;TEARDROP-SPOKED ASTERISK;",
  "OPEN CENTRE TEARDROP-SPOKED ASTERISK;HEAVY TEARDROP-SPOKED ASTERISK;",
  "SIX PETALLED BLACK AND WHITE FLORETTE;BLACK FLORETTE;WHITE FLORETTE;",
  "EIGHT PETALLED OUTLINED BLACK FLORETTE;CIRCLED OPEN CENTRE EIGHT POINTED STAR;",
  "HEAVY TEARDROP-SPOKED PINWHEEL ASTERISK;SNOWFLAKE;TIGHT TRIFOLIATE SNOWFLAKE;",
  "HEAVY CHEVRON SNOWFLAKE;SPARKLE;HEAVY SPARKLE;BALLOON-SPOKED ASTERISK;",
  "EIGHT TEARDROP-SPOKED PROPELLER ASTERISK;HEAVY EIGHT TEARDROP-SPOKED PROPELLER ASTERISK;",
  "CROSS MARK;SHADOWED WHITE CIRCLE;NEGATIVE SQUARED CROSS MARK;",
  "LOWER RIGHT DROP-SHADOWED WHITE SQUARE;UPPER RIGHT DROP-SHADOWED WHITE SQUARE;",
  "LOWER RIGHT SHADOWED WHITE SQUARE;UPPER RIGHT SHADOWED WHITE SQUARE;",
  "BLACK QUESTION MARK ORNAMENT;WHITE QUESTION MARK ORNAMENT;WHITE EXCLAMATION MARK ORNAMENT;",
  "BLACK DIAMOND MINUS WHITE X;HEAVY EXCLAMATION MARK SYMBOL;LIGHT VERTICAL BAR;",
  "MEDIUM VERTICAL BAR;HEAVY VERTICAL BAR;HEAVY SINGLE TURNED COMMA QUOTATION MARK ORNAMENT;",
  "HEAVY SINGLE COMMA QUOTATION MARK ORNAMENT;HEAVY DOUBLE TURNED COMMA QUOTATION MARK ORNAMENT;",
  "HEAVY DOUBLE COMMA QUOTATION MARK ORNAMENT;HEAVY LOW SINGLE COMMA QUOTATION MARK ORNAMENT;",
  "HEAVY LOW DOUBLE COMMA QUOTATION MARK ORNAMENT;CURVED STEM PARAGRAPH SIGN ORNAMENT;",
  "HEAVY EXCLAMATION MARK ORNAMENT;HEAVY HEART EXCLAMATION MARK ORNAMENT;HEAVY BLACK HEART;",
  "ROTATED HEAVY BLACK HEART BULLET;FLORAL HEART;ROTATED FLORAL HEART BULLET;",
  "MEDIUM LEFT PARENTHESIS ORNAMENT;MEDIUM RIGHT PARENTHESIS ORNAMENT;",
  "MEDIUM FLATTENED LEFT PARENTHESIS ORNAMENT;MEDIUM FLATTENED RIGHT PARENTHESIS ORNAMENT;",
  "MEDIUM LEFT-POINTING ANGLE BRACKET ORNAMENT;MEDIUM RIGHT-POINTING ANGLE BRACKET ORNAMENT;",
  "HEAVY LEFT-POINTING ANGLE QUOTATION MARK ORNAMENT;",
  "HEAVY RIGHT-POINTING ANGLE QUOTATION MARK ORNAMENT;",
  "HEAVY LEFT-POINTING ANGLE BRACKET ORNAMENT;HEAVY RIGHT-POINTING ANGLE BRACKET ORNAMENT;",
  "LIGHT LEFT TORTOISE SHELL BRACKET ORNAMENT;LIGHT RIGHT TORTOISE SHELL BRACKET ORNAMENT;",
  "MEDIUM LEFT CURLY BRACKET ORNAMENT;MEDIUM RIGHT CURLY BRACKET ORNAMENT;",
  "DINGBAT NEGATIVE CIRCLED DIGIT ONE;DINGBAT NEGATIVE CIRCLED DIGIT TWO;",
  "DINGBAT NEGATIVE CIRCLED DIGIT THREE;DINGBAT NEGATIVE CIRCLED DIGIT FOUR;",
  "DINGBAT NEGATIVE CIRCLED DIGIT FIVE;DINGBAT NEGATIVE CIRCLED DIGIT SIX;",
  "DINGBAT NEGATIVE CIRCLED DIGIT SEVEN;DINGBAT NEGATIVE CIRCLED DIGIT EIGHT;",
  "DINGBAT NEGATIVE CIRCLED DIGIT NINE;DINGBAT NEGATIVE CIRCLED NUMBER TEN;",
  "DINGBAT CIRCLED SANS-SERIF DIGIT ONE;DINGBAT CIRCLED SANS-SERIF DIGIT TWO;",
  "DINGBAT CIRCLED SANS-SERIF DIGIT THREE;DINGBAT CIRCLED SANS-SERIF DIGIT FOUR;",
  "DINGBAT CIRCLED SANS-SERIF DIGIT FIVE;DINGBAT CIRCLED SANS-SERIF DIGIT SIX;",
  "DINGBAT CIRCLED SANS-SERIF DIGIT SEVEN;DINGBAT CIRCLED SANS-SERIF DIGIT EIGHT;",
  "DINGBAT CIRCLED SANS-SERIF DIGIT NINE;DINGBAT CIRCLED SANS-SERIF NUMBER TEN;",
  "DINGBAT NEGATIVE CIRCLED SANS-SERIF DIGIT ONE;DINGBAT NEGATIVE CIRCLED SANS-SERIF DIGIT TWO;",
  "DINGBAT NEGATIVE CIRCLED SANS-SERIF DIGIT THREE;",
  "DINGBAT NEGATIVE CIRCLED SANS-SERIF DIGIT FOUR;",
  "DINGBAT NEGATIVE CIRCLED SANS-SERIF DIGIT FIVE;DINGBAT NEGATIVE CIRCLED SANS-SERIF DIGIT SIX;",
  "DINGBAT NEGATIVE CIRCLED SANS-SERIF DIGIT SEVEN;",
  "DINGBAT NEGATIVE CIRCLED SANS-SERIF DIGIT EIGHT;",
  "DINGBAT NEGATIVE CIRCLED SANS-SERIF DIGIT NINE;",
  "DINGBAT NEGATIVE CIRCLED SANS-SERIF NUMBER TEN;HEAVY WIDE-HEADED RIGHTWARDS ARROW;",
  "HEAVY PLUS SIGN;HEAVY MINUS SIGN;HEAVY DIVISION SIGN;HEAVY SOUTH EAST ARROW;",
  "HEAVY RIGHTWARDS ARROW;HEAVY NORTH EAST ARROW;DRAFTING POINT RIGHTWARDS ARROW;",
  "HEAVY ROUND-TIPPED RIGHTWARDS ARROW;TRIANGLE-HEADED RIGHTWARDS ARROW;",
  "HEAVY TRIANGLE-HEADED RIGHTWARDS ARROW;DASHED TRIANGLE-HEADED RIGHTWARDS ARROW;",
  "HEAVY DASHED TRIANGLE-HEADED RIGHTWARDS ARROW;BLACK RIGHTWARDS ARROW;",
  "THREE-D TOP-LIGHTED RIGHTWARDS ARROWHEAD;THREE-D BOTTOM-LIGHTED RIGHTWARDS ARROWHEAD;",
  "BLACK RIGHTWARDS ARROWHEAD;HEAVY BLACK CURVED DOWNWARDS AND RIGHTWARDS ARROW;",
  "HEAVY BLACK CURVED UPWARDS AND RIGHTWARDS ARROW;SQUAT BLACK RIGHTWARDS ARROW;",
  "HEAVY CONCAVE-POINTED BLACK RIGHTWARDS ARROW;RIGHT-SHADED WHITE RIGHTWARDS ARROW;",
  "LEFT-SHADED WHITE RIGHTWARDS ARROW;BACK-TILTED SHADOWED WHITE RIGHTWARDS ARROW;",
  "FRONT-TILTED SHADOWED WHITE RIGHTWARDS ARROW;",
  "HEAVY LOWER RIGHT-SHADOWED WHITE RIGHTWARDS ARROW;",
  "HEAVY UPPER RIGHT-SHADOWED WHITE RIGHTWARDS ARROW;",
  "NOTCHED LOWER RIGHT-SHADOWED WHITE RIGHTWARDS ARROW;CURLY LOOP;",
  "NOTCHED UPPER RIGHT-SHADOWED WHITE RIGHTWARDS ARROW;CIRCLED HEAVY WHITE RIGHTWARDS ARROW;",
  "WHITE-FEATHERED RIGHTWARDS ARROW;BLACK-FEATHERED SOUTH EAST ARROW;",
  "BLACK-FEATHERED RIGHTWARDS ARROW;BLACK-FEATHERED NORTH EAST ARROW;",
  "HEAVY BLACK-FEATHERED SOUTH EAST ARROW;HEAVY BLACK-FEATHERED RIGHTWARDS ARROW;",
  "HEAVY BLACK-FEATHERED NORTH EAST ARROW;TEARDROP-BARBED RIGHTWARDS ARROW;",
  "HEAVY TEARDROP-SHANKED RIGHTWARDS ARROW;WEDGE-TAILED RIGHTWARDS ARROW;",
  "HEAVY WEDGE-TAILED RIGHTWARDS ARROW;OPEN-OUTLINED RIGHTWARDS ARROW;DOUBLE CURLY LOOP"]

private def nameLinesB9 : List String := [
  "LOZENGE DIVIDED BY HORIZONTAL RULE;WHITE CONCAVE-SIDED DIAMOND;",
  "WHITE CONCAVE-SIDED DIAMOND WITH LEFTWARDS TICK;",
  "WHITE CONCAVE-SIDED DIAMOND WITH RIGHTWARDS TICK;WHITE SQUARE WITH LEFTWARDS TICK;",
  "WHITE SQUARE WITH RIGHTWARDS TICK;MATHEMATICAL LEFT WHITE SQUARE BRACKET;",
  "MATHEMATICAL RIGHT WHITE SQUARE BRACKET;MATHEMATICAL LEFT ANGLE BRACKET;",
  "MATHEMATICAL RIGHT ANGLE BRACKET;MATHEMATICAL LEFT DOUBLE ANGLE BRACKET;",
  "MATHEMATICAL RIGHT DOUBLE ANGLE BRACKET;MATHEMATICAL LEFT WHITE TORTOISE SHELL BRACKET;",
  "MATHEMATICAL RIGHT WHITE TORTOISE SHELL BRACKET;MATHEMATICAL LEFT FLATTENED PARENTHESIS;",
  "MATHEMATICAL RIGHT FLATTENED PARENTHESIS;UPWARDS QUADRUPLE ARROW;DOWNWARDS QUADRUPLE ARROW;",
  "ANTICLOCKWISE GAPPED CIRCLE ARROW;CLOCKWISE GAPPED CIRCLE ARROW;",
  "RIGHT ARROW WITH CIRCLED PLUS;LONG LEFTWARDS ARROW;LONG RIGHTWARDS ARROW;",
  "LONG LEFT RIGHT ARROW;LONG LEFTWARDS DOUBLE ARROW;LONG RIGHTWARDS DOUBLE ARROW;",
  "LONG LEFT RIGHT DOUBLE ARROW;LONG LEFTWARDS ARROW FROM BAR;LONG RIGHTWARDS ARROW FROM BAR;",
  "LONG LEFTWARDS DOUBLE ARROW FROM BAR;LONG RIGHTWARDS DOUBLE ARROW FROM BAR;",
  "LONG RIGHTWARDS SQUIGGLE ARROW"]

private def nameLinesC0 : List String := [
  "RIGHTWARDS TWO-HEADED ARROW WITH VERTICAL STROKE;",
  "RIGHTWARDS TWO-HEADED ARROW WITH DOUBLE VERTICAL STROKE;",
  "LEFTWARDS DOUBLE ARROW WITH VERTICAL STROKE;RIGHTWARDS DOUBLE ARROW WITH VERTICAL STROKE;",
  "LEFT RIGHT DOUBLE ARROW WITH VERTICAL STROKE;RIGHTWARDS TWO-HEADED ARROW FROM BAR;",
  "LEFTWARDS DOUBLE ARROW FROM BAR;RIGHTWARDS DOUBLE ARROW FROM BAR;",
  "DOWNWARDS ARROW WITH HORIZONTAL STROKE;UPWARDS ARROW WITH HORIZONTAL STROKE;",
  "UPWARDS TRIPLE ARROW;DOWNWARDS TRIPLE ARROW;LEFTWARDS DOUBLE DASH ARROW;",
  "RIGHTWARDS DOUBLE DASH ARROW;LEFTWARDS TRIPLE DASH ARROW;RIGHTWARDS TRIPLE DASH ARROW;",
  "RIGHTWARDS TWO-HEADED TRIPLE DASH ARROW;RIGHTWARDS ARROW WITH DOTTED STEM;",
  "UPWARDS ARROW TO BAR;DOWNWARDS ARROW TO BAR;RIGHTWARDS ARROW WITH TAIL WITH VERTICAL STROKE;",
  "RIGHTWARDS ARROW WITH TAIL WITH DOUBLE VERTICAL STROKE;RIGHTWARDS TWO-HEADED ARROW WITH TAIL;",
  "RIGHTWARDS TWO-HEADED ARROW WITH TAIL WITH VERTICAL STROKE;",
  "RIGHTWARDS TWO-HEADED ARROW WITH TAIL WITH DOUBLE VERTICAL STROKE;LEFTWARDS ARROW-TAIL;",
  "RIGHTWARDS ARROW-TAIL;LEFTWARDS DOUBLE ARROW-TAIL;RIGHTWARDS DOUBLE ARROW-TAIL;",
  "LEFTWARDS ARROW TO BLACK DIAMOND;RIGHTWARDS ARROW TO BLACK DIAMOND;",
  "LEFTWARDS ARROW FROM BAR TO BLACK DIAMOND;RIGHTWARDS ARROW FROM BAR TO BLACK DIAMOND;",
  "NORTH WEST AND SOUTH EAST ARROW;NORTH EAST AND SOUTH WEST ARROW;NORTH WEST ARROW WITH HOOK;",
  "NORTH EAST ARROW WITH HOOK;SOUTH EAST ARROW WITH HOOK;SOUTH WEST ARROW WITH HOOK;",
  "NORTH WEST ARROW AND NORTH EAST ARROW;NORTH EAST ARROW AND SOUTH EAST ARROW;",
  "SOUTH EAST ARROW AND SOUTH WEST ARROW;SOUTH WEST ARROW AND NORTH WEST ARROW;",
  "RISING DIAGONAL CROSSING FALLING DIAGONAL;FALLING DIAGONAL CROSSING RISING DIAGONAL;",
  "SOUTH EAST ARROW CROSSING NORTH EAST ARROW;NORTH EAST ARROW CROSSING SOUTH EAST ARROW;",
  "FALLING DIAGONAL CROSSING NORTH EAST ARROW;RISING DIAGONAL CROSSING SOUTH EAST ARROW;",
  "NORTH EAST ARROW CROSSING NORTH WEST ARROW;NORTH WEST ARROW CROSSING NORTH EAST ARROW;",
  "WAVE ARROW POINTING DIRECTLY RIGHT;ARROW POINTING RIGHTWARDS THEN CURVING UPWARDS;",
  "ARROW POINTING RIGHTWARDS THEN CURVING DOWNWARDS;",
  "ARROW POINTING DOWNWARDS THEN CURVING LEFTWARDS;",
  "ARROW POINTING DOWNWARDS THEN CURVING RIGHTWARDS;RIGHT-SIDE ARC CLOCKWISE ARROW;",
  "LEFT-SIDE ARC ANTICLOCKWISE ARROW;TOP ARC ANTICLOCKWISE ARROW;BOTTOM ARC ANTICLOCKWISE ARROW;",
  "TOP ARC CLOCKWISE ARROW WITH MINUS;TOP ARC ANTICLOCKWISE ARROW WITH PLUS;",
  "LOWER RIGHT SEMICIRCULAR CLOCKWISE ARROW;LOWER LEFT SEMICIRCULAR ANTICLOCKWISE ARROW;",
  "ANTICLOCKWISE CLOSED CIRCLE ARROW;CLOCKWISE CLOSED CIRCLE ARROW;",
  "RIGHTWARDS ARROW ABOVE SHORT LEFTWARDS ARROW;LEFTWARDS ARROW ABOVE SHORT RIGHTWARDS ARROW;",
  "SHORT RIGHTWARDS ARROW ABOVE LEFTWARDS ARROW;RIGHTWARDS ARROW WITH PLUS BELOW;",
  "LEFTWARDS ARROW WITH PLUS BELOW;RIGHTWARDS ARROW THROUGH X;",
  "LEFT RIGHT ARROW THROUGH SMALL CIRCLE;UPWARDS TWO-HEADED ARROW FROM SMALL CIRCLE;",
  "LEFT BARB UP RIGHT BARB DOWN HARPOON;LEFT BARB DOWN RIGHT BARB UP HARPOON;",
  "UP BARB RIGHT DOWN BARB LEFT HARPOON;UP BARB LEFT DOWN BARB RIGHT HARPOON;",
  "LEFT BARB UP RIGHT BARB UP HARPOON;UP BARB RIGHT DOWN BARB RIGHT HARPOON;",
  "LEFT BARB DOWN RIGHT BARB DOWN HARPOON;UP BARB LEFT DOWN BARB LEFT HARPOON;",
  "LEFTWARDS HARPOON WITH BARB UP TO BAR;RIGHTWARDS HARPOON WITH BARB UP TO BAR;",
  "UPWARDS HARPOON WITH BARB RIGHT TO BAR;DOWNWARDS HARPOON WITH BARB RIGHT TO BAR;",
  "LEFTWARDS HARPOON WITH BARB DOWN TO BAR;RIGHTWARDS HARPOON WITH BARB DOWN TO BAR;",
  "UPWARDS HARPOON WITH BARB LEFT TO BAR;DOWNWARDS HARPOON WITH BARB LEFT TO BAR;",
  "LEFTWARDS HARPOON WITH BARB UP FROM BAR;RIGHTWARDS HARPOON WITH BARB UP FROM BAR;",
  "UPWARDS HARPOON WITH BARB RIGHT FROM BAR;DOWNWARDS HARPOON WITH BARB RIGHT FROM BAR;",
  "LEFTWARDS HARPOON WITH BARB DOWN FROM BAR;RIGHTWARDS HARPOON WITH BARB DOWN FROM BAR;",
  "UPWARDS HARPOON WITH BARB LEFT FROM BAR;DOWNWARDS HARPOON WITH BARB LEFT FROM BAR;",
  "LEFTWARDS HARPOON WITH BARB UP ABOVE LEFTWARDS HARPOON WITH BARB DOWN;",
  "UPWARDS HARPOON WITH BARB LEFT BESIDE UPWARDS HARPOON WITH BARB RIGHT;",
  "RIGHTWARDS HARPOON WITH BARB UP ABOVE RIGHTWARDS HARPOON WITH BARB DOWN;",
  "DOWNWARDS HARPOON WITH BARB LEFT BESIDE DOWNWARDS HARPOON WITH BARB RIGHT;",
  "LEFTWARDS HARPOON WITH BARB UP ABOVE RIGHTWARDS HARPOON WITH BARB UP;",
  "LEFTWARDS HARPOON WITH BARB DOWN ABOVE RIGHTWARDS HARPOON WITH BARB DOWN;",
  "RIGHTWARDS HARPOON WITH BARB UP ABOVE LEFTWARDS HARPOON WITH BARB UP;",
  "RIGHTWARDS HARPOON WITH BARB DOWN ABOVE LEFTWARDS HARPOON WITH BARB DOWN;",
  "LEFTWARDS HARPOON WITH BARB UP ABOVE LONG DASH;",
  "LEFTWARDS HARPOON WITH BARB DOWN BELOW LONG DASH;",
  "RIGHTWARDS HARPOON WITH BARB UP ABOVE LONG DASH;",
  "RIGHTWARDS HARPOON WITH BARB DOWN BELOW LONG DASH;",
  "UPWARDS HARPOON WITH BARB LEFT BESIDE DOWNWARDS HARPOON WITH BARB RIGHT;",
  "DOWNWARDS HARPOON WITH BARB LEFT BESIDE UPWARDS HARPOON WITH BARB RIGHT;",
  "RIGHT DOUBLE ARROW WITH ROUNDED HEAD;EQUALS SIGN ABOVE RIGHTWARDS ARROW;",
  "TILDE OPERATOR ABOVE RIGHTWARDS ARROW;LEFTWARDS ARROW ABOVE TILDE OPERATOR;",
  "RIGHTWARDS ARROW ABOVE TILDE OPERATOR;RIGHTWARDS ARROW ABOVE ALMOST EQUAL TO;",
  "LESS-THAN ABOVE LEFTWARDS ARROW;LEFTWARDS ARROW THROUGH LESS-THAN;",
  "GREATER-THAN ABOVE RIGHTWARDS ARROW;SUBSET ABOVE RIGHTWARDS ARROW;",
  "LEFTWARDS ARROW THROUGH SUBSET;SUPERSET ABOVE LEFTWARDS ARROW;LEFT FISH TAIL;RIGHT FISH TAIL;",
  "UP FISH TAIL;DOWN FISH TAIL"]

private def nameLinesC1 : List String := [
  "NORTH EAST WHITE ARROW;NORTH WEST WHITE ARROW;SOUTH EAST WHITE ARROW;SOUTH WEST WHITE ARROW;",
  "LEFT RIGHT WHITE ARROW;LEFTWARDS BLACK ARROW;UPWARDS BLACK ARROW;DOWNWARDS BLACK ARROW;",
  "NORTH EAST BLACK ARROW;NORTH WEST BLACK ARROW;SOUTH EAST BLACK ARROW;SOUTH WEST BLACK ARROW;",
  "LEFT RIGHT BLACK ARROW;UP DOWN BLACK ARROW;RIGHTWARDS ARROW WITH TIP DOWNWARDS;",
  "RIGHTWARDS ARROW WITH TIP UPWARDS;LEFTWARDS ARROW WITH TIP DOWNWARDS;",
  "LEFTWARDS ARROW WITH TIP UPWARDS;SQUARE WITH TOP HALF BLACK;SQUARE WITH BOTTOM HALF BLACK;",
  "SQUARE WITH UPPER RIGHT DIAGONAL HALF BLACK;SQUARE WITH LOWER LEFT DIAGONAL HALF BLACK;",
  "DIAMOND WITH LEFT HALF BLACK;DIAMOND WITH RIGHT HALF BLACK;DIAMOND WITH TOP HALF BLACK;",
  "DIAMOND WITH BOTTOM HALF BLACK;DOTTED SQUARE;BLACK LARGE SQUARE;WHITE LARGE SQUARE;",
  "BLACK VERY SMALL SQUARE;WHITE VERY SMALL SQUARE;BLACK PENTAGON;WHITE PENTAGON;WHITE HEXAGON;",
  "BLACK HEXAGON;HORIZONTAL BLACK HEXAGON;BLACK LARGE CIRCLE;BLACK MEDIUM DIAMOND;",
  "WHITE MEDIUM DIAMOND;BLACK MEDIUM LOZENGE;WHITE MEDIUM LOZENGE;BLACK SMALL DIAMOND;",
  "BLACK SMALL LOZENGE;WHITE SMALL LOZENGE;BLACK HORIZONTAL ELLIPSE;WHITE HORIZONTAL ELLIPSE;",
  "BLACK VERTICAL ELLIPSE;WHITE VERTICAL ELLIPSE;LEFT ARROW WITH SMALL CIRCLE;",
  "THREE LEFTWARDS ARROWS;LEFT ARROW WITH CIRCLED PLUS;LONG LEFTWARDS SQUIGGLE ARROW;",
  "LEFTWARDS TWO-HEADED ARROW WITH VERTICAL STROKE;",
  "LEFTWARDS TWO-HEADED ARROW WITH DOUBLE VERTICAL STROKE;LEFTWARDS TWO-HEADED ARROW FROM BAR;",
  "LEFTWARDS TWO-HEADED TRIPLE DASH ARROW;LEFTWARDS ARROW WITH DOTTED STEM;",
  "LEFTWARDS ARROW WITH TAIL WITH VERTICAL STROKE;",
  "LEFTWARDS ARROW WITH TAIL WITH DOUBLE VERTICAL STROKE;LEFTWARDS TWO-HEADED ARROW WITH TAIL;",
  "LEFTWARDS TWO-HEADED ARROW WITH TAIL WITH VERTICAL STROKE;",
  "LEFTWARDS TWO-HEADED ARROW WITH TAIL WITH DOUBLE VERTICAL STROKE;LEFTWARDS ARROW THROUGH X;",
  "WAVE ARROW POINTING DIRECTLY LEFT;EQUALS SIGN ABOVE LEFTWARDS ARROW;",
  "REVERSE TILDE OPERATOR ABOVE LEFTWARDS ARROW;LEFTWARDS ARROW ABOVE REVERSE ALMOST EQUAL TO;",
  "RIGHTWARDS ARROW THROUGH GREATER-THAN;RIGHTWARDS ARROW THROUGH SUPERSET;",
  "LEFTWARDS QUADRUPLE ARROW;RIGHTWARDS QUADRUPLE ARROW;",
  "REVERSE TILDE OPERATOR ABOVE RIGHTWARDS ARROW;RIGHTWARDS ARROW ABOVE REVERSE ALMOST EQUAL TO;",
  "TILDE OPERATOR ABOVE LEFTWARDS ARROW;LEFTWARDS ARROW ABOVE ALMOST EQUAL TO;",
  "LEFTWARDS ARROW ABOVE REVERSE TILDE OPERATOR;RIGHTWARDS ARROW ABOVE REVERSE TILDE OPERATOR;",
  "DOWNWARDS TRIANGLE-HEADED ZIGZAG ARROW;SHORT SLANTED NORTH ARROW;",
  "SHORT BACKSLANTED SOUTH ARROW;WHITE MEDIUM STAR;BLACK SMALL STAR;WHITE SMALL STAR;",
  "BLACK RIGHT-POINTING PENTAGON;WHITE RIGHT-POINTING PENTAGON;HEAVY LARGE CIRCLE"]

private def nameLinesC2 : List String := [
  "IDEOGRAPHIC SPACE;IDEOGRAPHIC COMMA;IDEOGRAPHIC FULL STOP;DITTO MARK;",
  "JAPANESE INDUSTRIAL STANDARD SYMBOL;IDEOGRAPHIC ITERATION MARK;IDEOGRAPHIC CLOSING MARK;",
  "IDEOGRAPHIC NUMBER ZERO;LEFT ANGLE BRACKET;RIGHT ANGLE BRACKET;LEFT DOUBLE ANGLE BRACKET;",
  "RIGHT DOUBLE ANGLE BRACKET;LEFT CORNER BRACKET;RIGHT CORNER BRACKET;",
  "LEFT WHITE CORNER BRACKET;RIGHT WHITE CORNER BRACKET;LEFT BLACK LENTICULAR BRACKET;",
  "RIGHT BLACK LENTICULAR BRACKET;POSTAL MARK;GETA MARK;LEFT TORTOISE SHELL BRACKET;",
  "RIGHT TORTOISE SHELL BRACKET;LEFT WHITE LENTICULAR BRACKET;RIGHT WHITE LENTICULAR BRACKET;",
  "LEFT WHITE TORTOISE SHELL BRACKET;RIGHT WHITE TORTOISE SHELL BRACKET;",
  "LEFT WHITE SQUARE BRACKET;RIGHT WHITE SQUARE BRACKET;WAVE DASH;",
  "REVERSED DOUBLE PRIME QUOTATION MARK;DOUBLE PRIME QUOTATION MARK;",
  "LOW DOUBLE PRIME QUOTATION MARK;POSTAL MARK FACE;HANGZHOU NUMERAL ONE;HANGZHOU NUMERAL TWO;",
  "HANGZHOU NUMERAL THREE;HANGZHOU NUMERAL FOUR;HANGZHOU NUMERAL FIVE;HANGZHOU NUMERAL SIX;",
  "HANGZHOU NUMERAL SEVEN;HANGZHOU NUMERAL EIGHT;HANGZHOU NUMERAL NINE;",
  "IDEOGRAPHIC LEVEL TONE MARK;IDEOGRAPHIC RISING TONE MARK;IDEOGRAPHIC DEPARTING TONE MARK;",
  "IDEOGRAPHIC ENTERING TONE MARK;HANGUL SINGLE DOT TONE MARK;HANGUL DOUBLE DOT TONE MARK;",
  "WAVY DASH;VERTICAL KANA REPEAT MARK;VERTICAL KANA REPEAT WITH VOICED SOUND MARK;",
  "VERTICAL KANA REPEAT MARK UPPER HALF;VERTICAL KANA REPEAT WITH VOICED SOUND MARK UPPER HALF;",
  "VERTICAL KANA REPEAT MARK LOWER HALF;CIRCLED POSTAL MARK;",
  "IDEOGRAPHIC TELEGRAPH LINE FEED SEPARATOR SYMBOL;HANGZHOU NUMERAL TEN;",
  "HANGZHOU NUMERAL TWENTY;HANGZHOU NUMERAL THIRTY;VERTICAL IDEOGRAPHIC ITERATION MARK;",
  "MASU MARK;PART ALTERNATION MARK;IDEOGRAPHIC VARIATION INDICATOR;IDEOGRAPHIC HALF FILL SPACE"]

private def nameLinesC3 : List String := [
  "HIRAGANA LETTER SMALL A;HIRAGANA LETTER A;HIRAGANA LETTER SMALL I;HIRAGANA LETTER I;",
  "HIRAGANA LETTER SMALL U;HIRAGANA LETTER U;HIRAGANA LETTER SMALL E;HIRAGANA LETTER E;",
  "HIRAGANA LETTER SMALL O;HIRAGANA LETTER O;HIRAGANA LETTER KA;HIRAGANA LETTER GA;",
  "HIRAGANA LETTER KI;HIRAGANA LETTER GI;HIRAGANA LETTER KU;HIRAGANA LETTER GU;",
  "HIRAGANA LETTER KE;HIRAGANA LETTER GE;HIRAGANA LETTER KO;HIRAGANA LETTER GO;",
  "HIRAGANA LETTER SA;HIRAGANA LETTER ZA;HIRAGANA LETTER SI;HIRAGANA LETTER ZI;",
  "HIRAGANA LETTER SU;HIRAGANA LETTER ZU;HIRAGANA LETTER SE;HIRAGANA LETTER ZE;",
  "HIRAGANA LETTER SO;HIRAGANA LETTER ZO;HIRAGANA LETTER TA;HIRAGANA LETTER DA;",
  "HIRAGANA LETTER TI;HIRAGANA LETTER DI;HIRAGANA LETTER SMALL TU;HIRAGANA LETTER TU;",
  "HIRAGANA LETTER DU;HIRAGANA LETTER TE;HIRAGANA LETTER DE;HIRAGANA LETTER TO;",
  "HIRAGANA LETTER DO;HIRAGANA LETTER NA;HIRAGANA LETTER NI;HIRAGANA LETTER NU;",
  "HIRAGANA LETTER NE;HIRAGANA LETTER NO;HIRAGANA LETTER HA;HIRAGANA LETTER BA;",
  "HIRAGANA LETTER PA;HIRAGANA LETTER HI;HIRAGANA LETTER BI;HIRAGANA LETTER PI;",
  "HIRAGANA LETTER HU;HIRAGANA LETTER BU;HIRAGANA LETTER PU;HIRAGANA LETTER HE;",
  "HIRAGANA LETTER BE;HIRAGANA LETTER PE;HIRAGANA LETTER HO;HIRAGANA LETTER BO;",
  "HIRAGANA LETTER PO;HIRAGANA LETTER MA;HIRAGANA LETTER MI;HIRAGANA LETTER MU;",
  "HIRAGANA LETTER ME;HIRAGANA LETTER MO;HIRAGANA LETTER SMALL YA;HIRAGANA LETTER YA;",
  "HIRAGANA LETTER SMALL YU;HIRAGANA LETTER YU;HIRAGANA LETTER SMALL YO;HIRAGANA LETTER YO;",
  "HIRAGANA LETTER RA;HIRAGANA LETTER RI;HIRAGANA LETTER RU;HIRAGANA LETTER RE;",
  "HIRAGANA LETTER RO;HIRAGANA LETTER SMALL WA;HIRAGANA LETTER WA;HIRAGANA LETTER WI;",
  "HIRAGANA LETTER WE;HIRAGANA LETTER WO;HIRAGANA LETTER N;HIRAGANA LETTER VU;",
  "HIRAGANA LETTER SMALL KA;HIRAGANA LETTER SMALL KE;;;",
  "COMBINING KATAKANA-HIRAGANA VOICED SOUND MARK;",
  "COMBINING KATAKANA-HIRAGANA SEMI-VOICED SOUND MARK;KATAKANA-HIRAGANA VOICED SOUND MARK;",
  "KATAKANA-HIRAGANA SEMI-VOICED SOUND MARK;HIRAGANA ITERATION MARK;",
  "HIRAGANA VOICED ITERATION MARK;HIRAGANA DIGRAPH YORI;KATAKANA-HIRAGANA DOUBLE HYPHEN;",
  "KATAKANA LETTER SMALL A;KATAKANA LETTER A;KATAKANA LETTER SMALL I;KATAKANA LETTER I;",
  "KATAKANA LETTER SMALL U;KATAKANA LETTER U;KATAKANA LETTER SMALL E;KATAKANA LETTER E;",
  "KATAKANA LETTER SMALL O;KATAKANA LETTER O;KATAKANA LETTER KA;KATAKANA LETTER GA;",
  "KATAKANA LETTER KI;KATAKANA LETTER GI;KATAKANA LETTER KU;KATAKANA LETTER GU;",
  "KATAKANA LETTER KE;KATAKANA LETTER GE;KATAKANA LETTER KO;KATAKANA LETTER GO;",
  "KATAKANA LETTER SA;KATAKANA LETTER ZA;KATAKANA LETTER SI;KATAKANA LETTER ZI;",
  "KATAKANA LETTER SU;KATAKANA LETTER ZU;KATAKANA LETTER SE;KATAKANA LETTER ZE;",
  "KATAKANA LETTER SO;KATAKANA LETTER ZO;KATAKANA LETTER TA;KATAKANA LETTER DA;",
  "KATAKANA LETTER TI;KATAKANA LETTER DI;KATAKANA LETTER SMALL TU;KATAKANA LETTER TU;",
  "KATAKANA LETTER DU;KATAKANA LETTER TE;KATAKANA LETTER DE;KATAKANA LETTER TO;",
  "KATAKANA LETTER DO;KATAKANA LETTER NA;KATAKANA LETTER NI;KATAKANA LETTER NU;",
  "KATAKANA LETTER NE;KATAKANA LETTER NO;KATAKANA LETTER HA;KATAKANA LETTER BA;",
  "KATAKANA LETTER PA;KATAKANA LETTER HI;KATAKANA LETTER BI;KATAKANA LETTER PI;",
  "KATAKANA LETTER HU;KATAKANA LETTER BU;KATAKANA LETTER PU;KATAKANA LETTER HE;",
  "KATAKANA LETTER BE;KATAKANA LETTER PE;KATAKANA LETTER HO;KATAKANA LETTER BO;",
  "KATAKANA LETTER PO;KATAKANA LETTER MA;KATAKANA LETTER MI;KATAKANA LETTER MU;",
  "KATAKANA LETTER ME;KATAKANA LETTER MO;KATAKANA LETTER SMALL YA;KATAKANA LETTER YA;",
  "KATAKANA LETTER SMALL YU;KATAKANA LETTER YU;KATAKANA LETTER SMALL YO;KATAKANA LETTER YO;",
  "KATAKANA LETTER RA;KATAKANA LETTER RI;KATAKANA LETTER RU;KATAKANA LETTER RE;",
  "KATAKANA LETTER RO;KATAKANA LETTER SMALL WA;KATAKANA LETTER WA;KATAKANA LETTER WI;",
  "KATAKANA LETTER WE;KATAKANA LETTER WO;KATAKANA LETTER N;KATAKANA LETTER VU;",
  "KATAKANA LETTER SMALL KA;KATAKANA LETTER SMALL KE;KATAKANA LETTER VA;KATAKANA LETTER VI;",
  "KATAKANA LETTER VE;KATAKANA LETTER VO;KATAKANA MIDDLE DOT;",
  "KATAKANA-HIRAGANA PROLONGED SOUND MARK;KATAKANA ITERATION MARK;",
  "KATAKANA VOICED ITERATION MARK;KATAKANA DIGRAPH KOTO"]

private def nameLinesC4 : List String := [
  "LATIN SMALL LIGATURE FF;LATIN SMALL LIGATURE FI;LATIN SMALL LIGATURE FL;",
  "LATIN SMALL LIGATURE FFI;LATIN SMALL LIGATURE FFL;LATIN SMALL LIGATURE LONG S T;",
  "LATIN SMALL LIGATURE ST"]

private def nameLinesC5 : List String := [
  "VARIATION SELECTOR-15;VARIATION SELECTOR-16"]

private def nameLinesC6 : List String := [
  "ZERO WIDTH NO-BREAK SPACE"]

private def nameLinesC7 : List String := [
  "FULLWIDTH EXCLAMATION MARK;FULLWIDTH QUOTATION MARK;FULLWIDTH NUMBER SIGN;",
  "FULLWIDTH DOLLAR SIGN;FULLWIDTH PERCENT SIGN;FULLWIDTH AMPERSAND;FULLWIDTH APOSTROPHE;",
  "FULLWIDTH LEFT PARENTHESIS;FULLWIDTH RIGHT PARENTHESIS;FULLWIDTH ASTERISK;",
  "FULLWIDTH PLUS SIGN;FULLWIDTH COMMA;FULLWIDTH HYPHEN-MINUS;FULLWIDTH FULL STOP;",
  "FULLWIDTH SOLIDUS;FULLWIDTH DIGIT ZERO;FULLWIDTH DIGIT ONE;FULLWIDTH DIGIT TWO;",
  "FULLWIDTH DIGIT THREE;FULLWIDTH DIGIT FOUR;FULLWIDTH DIGIT FIVE;FULLWIDTH DIGIT SIX;",
  "FULLWIDTH DIGIT SEVEN;FULLWIDTH DIGIT EIGHT;FULLWIDTH DIGIT NINE;FULLWIDTH COLON;",
  "FULLWIDTH SEMICOLON;FULLWIDTH LESS-THAN SIGN;FULLWIDTH EQUALS SIGN;",
  "FULLWIDTH GREATER-THAN SIGN;FULLWIDTH QUESTION MARK;FULLWIDTH COMMERCIAL AT;",
  "FULLWIDTH LATIN CAPITAL LETTER A;FULLWIDTH LATIN CAPITAL LETTER B;",
  "FULLWIDTH LATIN CAPITAL LETTER C;FULLWIDTH LATIN CAPITAL LETTER D;",
  "FULLWIDTH LATIN CAPITAL LETTER E;FULLWIDTH LATIN CAPITAL LETTER F;",
  "FULLWIDTH LATIN CAPITAL LETTER G;FULLWIDTH LATIN CAPITAL LETTER H;",
  "FULLWIDTH LATIN CAPITAL LETTER I;FULLWIDTH LATIN CAPITAL LETTER J;",
  "FULLWIDTH LATIN CAPITAL LETTER K;FULLWIDTH LATIN CAPITAL LETTER L;",
  "FULLWIDTH LATIN CAPITAL LETTER M;FULLWIDTH LATIN CAPITAL LETTER N;",
  "FULLWIDTH LATIN CAPITAL LETTER O;FULLWIDTH LATIN CAPITAL LETTER P;",
  "FULLWIDTH LATIN CAPITAL LETTER Q;FULLWIDTH LATIN CAPITAL LETTER R;",
  "FULLWIDTH LATIN CAPITAL LETTER S;FULLWIDTH LATIN CAPITAL LETTER T;",
  "FULLWIDTH LATIN CAPITAL LETTER U;FULLWIDTH LATIN CAPITAL LETTER V;",
  "FULLWIDTH LATIN CAPITAL LETTER W;FULLWIDTH LATIN CAPITAL LETTER X;",
  "FULLWIDTH LATIN CAPITAL LETTER Y;FULLWIDTH LATIN CAPITAL LETTER Z;",
  "FULLWIDTH LEFT SQUARE BRACKET;FULLWIDTH REVERSE SOLIDUS;FULLWIDTH RIGHT SQUARE BRACKET;",
  "FULLWIDTH CIRCUMFLEX ACCENT;FULLWIDTH LOW LINE;FULLWIDTH GRAVE ACCENT;",
  "FULLWIDTH LATIN SMALL LETTER A;FULLWIDTH LATIN SMALL LETTER B;FULLWIDTH LATIN SMALL LETTER C;",
  "FULLWIDTH LATIN SMALL LETTER D;FULLWIDTH LATIN SMALL LETTER E;FULLWIDTH LATIN SMALL LETTER F;",
  "FULLWIDTH LATIN SMALL LETTER G;FULLWIDTH LATIN SMALL LETTER H;FULLWIDTH LATIN SMALL LETTER I;",
  "FULLWIDTH LATIN SMALL LETTER J;FULLWIDTH LATIN SMALL LETTER K;FULLWIDTH LATIN SMALL LETTER L;",
  "FULLWIDTH LATIN SMALL LETTER M;FULLWIDTH LATIN SMALL LETTER N;FULLWIDTH LATIN SMALL LETTER O;",
  "FULLWIDTH LATIN SMALL LETTER P;FULLWIDTH LATIN SMALL LETTER Q;FULLWIDTH LATIN SMALL LETTER R;",
  "FULLWIDTH LATIN SMALL LETTER S;FULLWIDTH LATIN SMALL LETTER T;FULLWIDTH LATIN SMALL LETTER U;",
  "FULLWIDTH LATIN SMALL LETTER V;FULLWIDTH LATIN SMALL LETTER W;FULLWIDTH LATIN SMALL LETTER X;",
  "FULLWIDTH LATIN SMALL LETTER Y;FULLWIDTH LATIN SMALL LETTER Z;FULLWIDTH LEFT CURLY BRACKET;",
  "FULLWIDTH VERTICAL LINE;FULLWIDTH RIGHT CURLY BRACKET;FULLWIDTH TILDE"]

private def nameLinesC8 : List String := [
  "OBJECT REPLACEMENT CHARACTER;REPLACEMENT CHARACTER"]

private def nameLinesC9 : List String := [
  "CYCLONE;FOGGY;CLOSED UMBRELLA;NIGHT WITH STARS;SUNRISE OVER MOUNTAINS;SUNRISE;",
  "CITYSCAPE AT DUSK;SUNSET OVER BUILDINGS;RAINBOW;BRIDGE AT NIGHT;WATER WAVE;VOLCANO;MILKY WAY;",
  "EARTH GLOBE EUROPE-AFRICA;EARTH GLOBE AMERICAS;EARTH GLOBE ASIA-AUSTRALIA;",
  "GLOBE WITH MERIDIANS;NEW MOON SYMBOL;WAXING CRESCENT MOON SYMBOL;FIRST QUARTER MOON SYMBOL;",
  "WAXING GIBBOUS MOON SYMBOL;FULL MOON SYMBOL;WANING GIBBOUS MOON SYMBOL;",
  "LAST QUARTER MOON SYMBOL;WANING CRESCENT MOON SYMBOL;CRESCENT MOON;NEW MOON WITH FACE;",
  "FIRST QUARTER MOON WITH FACE;LAST QUARTER MOON WITH FACE;FULL MOON WITH FACE;SUN WITH FACE;",
  "GLOWING STAR;SHOOTING STAR;THERMOMETER;BLACK DROPLET;WHITE SUN;WHITE SUN WITH SMALL CLOUD;",
  "WHITE SUN BEHIND CLOUD;WHITE SUN BEHIND CLOUD WITH RAIN;CLOUD WITH RAIN;CLOUD WITH SNOW;",
  "CLOUD WITH LIGHTNING;CLOUD WITH TORNADO;FOG;WIND BLOWING FACE;HOT DOG;TACO;BURRITO;CHESTNUT;",
  "SEEDLING;EVERGREEN TREE;DECIDUOUS TREE;PALM TREE;CACTUS;HOT PEPPER;TULIP;CHERRY BLOSSOM;ROSE;",
  "HIBISCUS;SUNFLOWER;BLOSSOM;EAR OF MAIZE;EAR OF RICE;HERB;FOUR LEAF CLOVER;MAPLE LEAF;",
  "FALLEN LEAF;LEAF FLUTTERING IN WIND;MUSHROOM;TOMATO;AUBERGINE;GRAPES;MELON;WATERMELON;",
  "TANGERINE;LEMON;BANANA;PINEAPPLE;RED APPLE;GREEN APPLE;PEAR;PEACH;CHERRIES;STRAWBERRY;",
  "HAMBURGER;SLICE OF PIZZA;MEAT ON BONE;POULTRY LEG;RICE CRACKER;RICE BALL;COOKED RICE;",
  "CURRY AND RICE;STEAMING BOWL;SPAGHETTI;BREAD;FRENCH FRIES;ROASTED SWEET POTATO;DANGO;ODEN;",
  "SUSHI;FRIED SHRIMP;FISH CAKE WITH SWIRL DESIGN;SOFT ICE CREAM;SHAVED ICE;ICE CREAM;DOUGHNUT;",
  "COOKIE;CHOCOLATE BAR;CANDY;LOLLIPOP;CUSTARD;HONEY POT;SHORTCAKE;BENTO BOX;POT OF FOOD;",
  "COOKING;FORK AND KNIFE;TEACUP WITHOUT HANDLE;SAKE BOTTLE AND CUP;WINE GLASS;COCKTAIL GLASS;",
  "TROPICAL DRINK;BEER MUG;CLINKING BEER MUGS;BABY BOTTLE;FORK AND KNIFE WITH PLATE;",
  "BOTTLE WITH POPPING CORK;POPCORN;RIBBON;WRAPPED PRESENT;BIRTHDAY CAKE;JACK-O-LANTERN;",
  "CHRISTMAS TREE;FATHER CHRISTMAS;FIREWORKS;FIREWORK SPARKLER;BALLOON;PARTY POPPER;",
  "CONFETTI BALL;TANABATA TREE;CROSSED FLAGS;PINE DECORATION;JAPANESE DOLLS;CARP STREAMER;",
  "WIND CHIME;MOON VIEWING CEREMONY;SCHOOL SATCHEL;GRADUATION CAP;HEART WITH TIP ON THE LEFT;",
  "BOUQUET OF FLOWERS;MILITARY MEDAL;REMINDER RIBBON;MUSICAL KEYBOARD WITH JACKS;",
  "STUDIO MICROPHONE;LEVEL SLIDER;CONTROL KNOBS;BEAMED ASCENDING MUSICAL NOTES;",
  "BEAMED DESCENDING MUSICAL NOTES;FILM FRAMES;ADMISSION TICKETS;CAROUSEL HORSE;FERRIS WHEEL;",
  "ROLLER COASTER;FISHING POLE AND FISH;MICROPHONE;MOVIE CAMERA;CINEMA;HEADPHONE;ARTIST PALETTE;",
  "TOP HAT;CIRCUS TENT;TICKET;CLAPPER BOARD;PERFORMING ARTS;VIDEO GAME;DIRECT HIT;SLOT MACHINE;",
  "BILLIARDS;GAME DIE;BOWLING;FLOWER PLAYING CARDS;MUSICAL NOTE;MULTIPLE MUSICAL NOTES;",
  "SAXOPHONE;GUITAR;MUSICAL KEYBOARD;TRUMPET;VIOLIN;MUSICAL SCORE;RUNNING SHIRT WITH SASH;",
  "TENNIS RACQUET AND BALL;SKI AND SKI BOOT;BASKETBALL AND HOOP;CHEQUERED FLAG;SNOWBOARDER;",
  "RUNNER;SURFER;SPORTS MEDAL;TROPHY;HORSE RACING;AMERICAN FOOTBALL;RUGBY FOOTBALL;SWIMMER;",
  "WEIGHT LIFTER;GOLFER;RACING MOTORCYCLE;RACING CAR;CRICKET BAT AND BALL;VOLLEYBALL;",
  "FIELD HOCKEY STICK AND BALL;ICE HOCKEY STICK AND PUCK;TABLE TENNIS PADDLE AND BALL;",
  "SNOW CAPPED MOUNTAIN;CAMPING;BEACH WITH UMBRELLA;BUILDING CONSTRUCTION;HOUSE BUILDINGS;",
  "CITYSCAPE;DERELICT HOUSE BUILDING;CLASSICAL BUILDING;DESERT;DESERT ISLAND;NATIONAL PARK;",
  "STADIUM;HOUSE BUILDING;HOUSE WITH GARDEN;OFFICE BUILDING;JAPANESE POST OFFICE;",
  "EUROPEAN POST OFFICE;HOSPITAL;BANK;AUTOMATED TELLER MACHINE;HOTEL;LOVE HOTEL;",
  "CONVENIENCE STORE;SCHOOL;DEPARTMENT STORE;FACTORY;IZAKAYA LANTERN;JAPANESE CASTLE;",
  "EUROPEAN CASTLE;WHITE PENNANT;BLACK PENNANT;WAVING WHITE FLAG;WAVING BLACK FLAG;ROSETTE;",
  "BLACK ROSETTE;LABEL;BADMINTON RACQUET AND SHUTTLECOCK;BOW AND ARROW;AMPHORA;",
  "EMOJI MODIFIER FITZPATRICK TYPE-1-2;EMOJI MODIFIER FITZPATRICK TYPE-3;",
  "EMOJI MODIFIER FITZPATRICK TYPE-4;EMOJI MODIFIER FITZPATRICK TYPE-5;",
  "EMOJI MODIFIER FITZPATRICK TYPE-6;RAT;MOUSE;OX;WATER BUFFALO;COW;TIGER;LEOPARD;RABBIT;CAT;",
  "DRAGON;CROCODILE;WHALE;SNAIL;SNAKE;HORSE;RAM;GOAT;SHEEP;MONKEY;ROOSTER;CHICKEN;DOG;PIG;BOAR;",
  "ELEPHANT;OCTOPUS;SPIRAL SHELL;BUG;ANT;HONEYBEE;LADY BEETLE;FISH;TROPICAL FISH;BLOWFISH;",
  "TURTLE;HATCHING CHICK;BABY CHICK;FRONT-FACING BABY CHICK;BIRD;PENGUIN;KOALA;POODLE;",
  "DROMEDARY CAMEL;BACTRIAN CAMEL;DOLPHIN;MOUSE FACE;COW FACE;TIGER FACE;RABBIT FACE;CAT FACE;",
  "DRAGON FACE;SPOUTING WHALE;HORSE FACE;MONKEY FACE;DOG FACE;PIG FACE;FROG FACE;HAMSTER FACE;",
  "WOLF FACE;BEAR FACE;PANDA FACE;PIG NOSE;PAW PRINTS;CHIPMUNK;EYES;EYE;EAR;NOSE;MOUTH;TONGUE;",
  "WHITE UP POINTING BACKHAND INDEX;WHITE DOWN POINTING BACKHAND INDEX;",
  "WHITE LEFT POINTING BACKHAND INDEX;WHITE RIGHT POINTING BACKHAND INDEX;FISTED HAND SIGN;",
  "WAVING HAND SIGN;OK HAND SIGN;THUMBS UP SIGN;THUMBS DOWN SIGN;CLAPPING HANDS SIGN;",
  "OPEN HANDS SIGN;CROWN;WOMANS HAT;EYEGLASSES;NECKTIE;T-SHIRT;JEANS;DRESS;KIMONO;BIKINI;",
  "WOMANS CLOTHES;PURSE;HANDBAG;POUCH;MANS SHOE;ATHLETIC SHOE;HIGH-HEELED SHOE;WOMANS SANDAL;",
  "WOMANS BOOTS;FOOTPRINTS;BUST IN SILHOUETTE;BUSTS IN SILHOUETTE;BOY;GIRL;MAN;WOMAN;FAMILY;",
  "MAN AND WOMAN HOLDING HANDS;TWO MEN HOLDING HANDS;TWO WOMEN HOLDING HANDS;POLICE OFFICER;",
  "WOMAN WITH BUNNY EARS;BRIDE WITH VEIL;PERSON WITH BLOND HAIR;MAN WITH GUA PI MAO;",
  "MAN WITH TURBAN;OLDER MAN;OLDER WOMAN;BABY;CONSTRUCTION WORKER;PRINCESS;JAPANESE OGRE;",
  "JAPANESE GOBLIN;GHOST;BABY ANGEL;EXTRATERRESTRIAL ALIEN;ALIEN MONSTER;IMP;SKULL;",
  "INFORMATION DESK PERSON;GUARDSMAN;DANCER;LIPSTICK;NAIL POLISH;FACE MASSAGE;HAIRCUT;",
  "BARBER POLE;SYRINGE;PILL;KISS MARK;LOVE LETTER;RING;GEM STONE;KISS;BOUQUET;COUPLE WITH HEART;",
  "WEDDING;BEATING HEART;BROKEN HEART;TWO HEARTS;SPARKLING HEART;GROWING HEART;HEART WITH ARROW;",
  "BLUE HEART;GREEN HEART;YELLOW HEART;PURPLE HEART;HEART WITH RIBBON;REVOLVING HEARTS;",
  "HEART DECORATION;DIAMOND SHAPE WITH A DOT INSIDE;ELECTRIC LIGHT BULB;ANGER SYMBOL;BOMB;",
  "SLEEPING SYMBOL;COLLISION SYMBOL;SPLASHING SWEAT SYMBOL;DROPLET;DASH SYMBOL;PILE OF POO;",
  "FLEXED BICEPS;DIZZY SYMBOL;SPEECH BALLOON;THOUGHT BALLOON;WHITE FLOWER;HUNDRED POINTS SYMBOL;",
  "MONEY BAG;CURRENCY EXCHANGE;HEAVY DOLLAR SIGN;CREDIT CARD;BANKNOTE WITH YEN SIGN;",
  "BANKNOTE WITH DOLLAR SIGN;BANKNOTE WITH EURO SIGN;BANKNOTE WITH POUND SIGN;MONEY WITH WINGS;",
  "CHART WITH UPWARDS TREND AND YEN SIGN;SEAT;PERSONAL COMPUTER;BRIEFCASE;MINIDISC;FLOPPY DISK;",
  "OPTICAL DISC;DVD;FILE FOLDER;OPEN FILE FOLDER;PAGE WITH CURL;PAGE FACING UP;CALENDAR;",
  "TEAR-OFF CALENDAR;CARD INDEX;CHART WITH UPWARDS TREND;CHART WITH DOWNWARDS TREND;BAR CHART;",
  "CLIPBOARD;PUSHPIN;ROUND PUSHPIN;PAPERCLIP;STRAIGHT RULER;TRIANGULAR RULER;BOOKMARK TABS;",
  "LEDGER;NOTEBOOK;NOTEBOOK WITH DECORATIVE COVER;CLOSED BOOK;OPEN BOOK;GREEN BOOK;BLUE BOOK;",
  "ORANGE BOOK;BOOKS;NAME BADGE;SCROLL;MEMO;TELEPHONE RECEIVER;PAGER;FAX MACHINE;",
  "SATELLITE ANTENNA;PUBLIC ADDRESS LOUDSPEAKER;CHEERING MEGAPHONE;OUTBOX TRAY;INBOX TRAY;",
  "PACKAGE;E-MAIL SYMBOL;INCOMING ENVELOPE;ENVELOPE WITH DOWNWARDS ARROW ABOVE;",
  "CLOSED MAILBOX WITH LOWERED FLAG;CLOSED MAILBOX WITH RAISED FLAG;",
  "OPEN MAILBOX WITH RAISED FLAG;OPEN MAILBOX WITH LOWERED FLAG;POSTBOX;POSTAL HORN;NEWSPAPER;",
  "MOBILE PHONE;MOBILE PHONE WITH RIGHTWARDS ARROW AT LEFT;VIBRATION MODE;MOBILE PHONE OFF;",
  "NO MOBILE PHONES;ANTENNA WITH BARS;CAMERA;CAMERA WITH FLASH;VIDEO CAMERA;TELEVISION;RADIO;",
  "VIDEOCASSETTE;FILM PROJECTOR;PORTABLE STEREO;PRAYER BEADS;TWISTED RIGHTWARDS ARROWS;",
  "CLOCKWISE RIGHTWARDS AND LEFTWARDS OPEN CIRCLE ARROWS;",
  "CLOCKWISE RIGHTWARDS AND LEFTWARDS OPEN CIRCLE ARROWS WITH CIRCLED ONE OVERLAY;",
  "CLOCKWISE DOWNWARDS AND UPWARDS OPEN CIRCLE ARROWS;",
  "ANTICLOCKWISE DOWNWARDS AND UPWARDS OPEN CIRCLE ARROWS;LOW BRIGHTNESS SYMBOL;",
  "HIGH BRIGHTNESS SYMBOL;SPEAKER WITH CANCELLATION STROKE;SPEAKER;SPEAKER WITH ONE SOUND WAVE;",
  "SPEAKER WITH THREE SOUND WAVES;BATTERY;ELECTRIC PLUG;LEFT-POINTING MAGNIFYING GLASS;",
  "RIGHT-POINTING MAGNIFYING GLASS;LOCK WITH INK PEN;CLOSED LOCK WITH KEY;KEY;LOCK;OPEN LOCK;",
  "BELL;BELL WITH CANCELLATION STROKE;BOOKMARK;LINK SYMBOL;RADIO BUTTON;",
  "BACK WITH LEFTWARDS ARROW ABOVE;END WITH LEFTWARDS ARROW ABOVE;",
  "ON WITH EXCLAMATION MARK WITH LEFT RIGHT ARROW ABOVE;SOON WITH RIGHTWARDS ARROW ABOVE;",
  "TOP WITH UPWARDS ARROW ABOVE;NO ONE UNDER EIGHTEEN SYMBOL;KEYCAP TEN;",
  "INPUT SYMBOL FOR LATIN CAPITAL LETTERS;INPUT SYMBOL FOR LATIN SMALL LETTERS;",
  "INPUT SYMBOL FOR NUMBERS;INPUT SYMBOL FOR SYMBOLS;INPUT SYMBOL FOR LATIN LETTERS;FIRE;",
  "ELECTRIC TORCH;WRENCH;HAMMER;NUT AND BOLT;HOCHO;PISTOL;MICROSCOPE;TELESCOPE;CRYSTAL BALL;",
  "SIX POINTED STAR WITH MIDDLE DOT;JAPANESE SYMBOL FOR BEGINNER;TRIDENT EMBLEM;",
  "BLACK SQUARE BUTTON;WHITE SQUARE BUTTON;LARGE RED CIRCLE;LARGE BLUE CIRCLE;",
  "LARGE ORANGE DIAMOND;LARGE BLUE DIAMOND;SMALL ORANGE DIAMOND;SMALL BLUE DIAMOND;",
  "UP-POINTING RED TRIANGLE;DOWN-POINTING RED TRIANGLE;UP-POINTING SMALL RED TRIANGLE;",
  "DOWN-POINTING SMALL RED TRIANGLE;LOWER RIGHT SHADOWED WHITE CIRCLE;",
  "UPPER RIGHT SHADOWED WHITE CIRCLE;CIRCLED CROSS POMMEE;CROSS POMMEE WITH HALF-CIRCLE BELOW;",
  "CROSS POMMEE;NOTCHED LEFT SEMICIRCLE WITH THREE DOTS;",
  "NOTCHED RIGHT SEMICIRCLE WITH THREE DOTS;SYMBOL FOR MARKS CHAPTER;WHITE LATIN CROSS;",
  "HEAVY LATIN CROSS;CELTIC CROSS;OM SYMBOL;DOVE OF PEACE;KAABA;MOSQUE;SYNAGOGUE;",
  "MENORAH WITH NINE BRANCHES;BOWL OF HYGIEIA;CLOCK FACE ONE OCLOCK;CLOCK FACE TWO OCLOCK;",
  "CLOCK FACE THREE OCLOCK;CLOCK FACE FOUR OCLOCK;CLOCK FACE FIVE OCLOCK;CLOCK FACE SIX OCLOCK;",
  "CLOCK FACE SEVEN OCLOCK;CLOCK FACE EIGHT OCLOCK;CLOCK FACE NINE OCLOCK;CLOCK FACE TEN OCLOCK;",
  "CLOCK FACE ELEVEN OCLOCK;CLOCK FACE TWELVE OCLOCK;CLOCK FACE ONE-THIRTY;",
  "CLOCK FACE TWO-THIRTY;CLOCK FACE THREE-THIRTY;CLOCK FACE FOUR-THIRTY;CLOCK FACE FIVE-THIRTY;",
  "CLOCK FACE SIX-THIRTY;CLOCK FACE SEVEN-THIRTY;CLOCK FACE EIGHT-THIRTY;CLOCK FACE NINE-THIRTY;",
  "CLOCK FACE TEN-THIRTY;CLOCK FACE ELEVEN-THIRTY;CLOCK FACE TWELVE-THIRTY;RIGHT SPEAKER;",
  "RIGHT SPEAKER WITH ONE SOUND WAVE;RIGHT SPEAKER WITH THREE SOUND WAVES;BULLHORN;",
  "BULLHORN WITH SOUND WAVES;RINGING BELL;BOOK;CANDLE;MANTELPIECE CLOCK;",
  "BLACK SKULL AND CROSSBONES;NO PIRACY;HOLE;MAN IN BUSINESS SUIT LEVITATING;SLEUTH OR SPY;",
  "DARK SUNGLASSES;SPIDER;SPIDER WEB;JOYSTICK;MAN DANCING;LEFT HAND TELEPHONE RECEIVER;",
  "TELEPHONE RECEIVER WITH PAGE;RIGHT HAND TELEPHONE RECEIVER;WHITE TOUCHTONE TELEPHONE;",
  "BLACK TOUCHTONE TELEPHONE;TELEPHONE ON TOP OF MODEM;CLAMSHELL MOBILE PHONE;BACK OF ENVELOPE;",
  "STAMPED ENVELOPE;ENVELOPE WITH LIGHTNING;FLYING ENVELOPE;PEN OVER STAMPED ENVELOPE;",
  "LINKED PAPERCLIPS;BLACK PUSHPIN;LOWER LEFT PENCIL;LOWER LEFT BALLPOINT PEN;",
  "LOWER LEFT FOUNTAIN PEN;LOWER LEFT PAINTBRUSH;LOWER LEFT CRAYON;LEFT WRITING HAND;",
  "TURNED OK HAND SIGN;RAISED HAND WITH FINGERS SPLAYED;",
  "REVERSED RAISED HAND WITH FINGERS SPLAYED;REVERSED THUMBS UP SIGN;REVERSED THUMBS DOWN SIGN;",
  "REVERSED VICTORY HAND;REVERSED HAND WITH MIDDLE FINGER EXTENDED;",
  "RAISED HAND WITH PART BETWEEN MIDDLE AND RING FINGERS;WHITE DOWN POINTING LEFT HAND INDEX;",
  "SIDEWAYS WHITE LEFT POINTING INDEX;SIDEWAYS WHITE RIGHT POINTING INDEX;",
  "SIDEWAYS BLACK LEFT POINTING INDEX;SIDEWAYS BLACK RIGHT POINTING INDEX;",
  "BLACK LEFT POINTING BACKHAND INDEX;BLACK RIGHT POINTING BACKHAND INDEX;",
  "SIDEWAYS WHITE UP POINTING INDEX;SIDEWAYS WHITE DOWN POINTING INDEX;",
  "SIDEWAYS BLACK UP POINTING INDEX;SIDEWAYS BLACK DOWN POINTING INDEX;",
  "BLACK UP POINTING BACKHAND INDEX;BLACK DOWN POINTING BACKHAND INDEX;BLACK HEART;",
  "DESKTOP COMPUTER;KEYBOARD AND MOUSE;THREE NETWORKED COMPUTERS;PRINTER;POCKET CALCULATOR;",
  "BLACK HARD SHELL FLOPPY DISK;WHITE HARD SHELL FLOPPY DISK;SOFT SHELL FLOPPY DISK;",
  "TAPE CARTRIDGE;WIRED KEYBOARD;ONE BUTTON MOUSE;TWO BUTTON MOUSE;THREE BUTTON MOUSE;TRACKBALL;",
  "OLD PERSONAL COMPUTER;HARD DISK;SCREEN;PRINTER ICON;FAX ICON;OPTICAL DISC ICON;",
  "DOCUMENT WITH TEXT;DOCUMENT WITH TEXT AND PICTURE;DOCUMENT WITH PICTURE;FRAME WITH PICTURE;",
  "FRAME WITH TILES;FRAME WITH AN X;BLACK FOLDER;FOLDER;OPEN FOLDER;CARD INDEX DIVIDERS;",
  "CARD FILE BOX;FILE CABINET;EMPTY NOTE;EMPTY NOTE PAGE;EMPTY NOTE PAD;NOTE;NOTE PAGE;NOTE PAD;",
  "EMPTY DOCUMENT;EMPTY PAGE;EMPTY PAGES;DOCUMENT;PAGE;PAGES;WASTEBASKET;SPIRAL NOTE PAD;",
  "SPIRAL CALENDAR PAD;DESKTOP WINDOW;MINIMIZE;MAXIMIZE;OVERLAP;",
  "CLOCKWISE RIGHT AND LEFT SEMICIRCLE ARROWS;CANCELLATION X;INCREASE FONT SIZE SYMBOL;",
  "DECREASE FONT SIZE SYMBOL;COMPRESSION;OLD KEY;ROLLED-UP NEWSPAPER;PAGE WITH CIRCLED TEXT;",
  "STOCK CHART;DAGGER KNIFE;LIPS;SPEAKING HEAD IN SILHOUETTE;THREE RAYS ABOVE;THREE RAYS BELOW;",
  "THREE RAYS LEFT;THREE RAYS RIGHT;LEFT SPEECH BUBBLE;RIGHT SPEECH BUBBLE;TWO SPEECH BUBBLES;",
  "THREE SPEECH BUBBLES;LEFT THOUGHT BUBBLE;RIGHT THOUGHT BUBBLE;LEFT ANGER BUBBLE;",
  "RIGHT ANGER BUBBLE;MOOD BUBBLE;LIGHTNING MOOD BUBBLE;LIGHTNING MOOD;BALLOT BOX WITH BALLOT;",
  "BALLOT SCRIPT X;BALLOT BOX WITH SCRIPT X;BALLOT BOLD SCRIPT X;BALLOT BOX WITH BOLD SCRIPT X;",
  "LIGHT CHECK MARK;BALLOT BOX WITH BOLD CHECK;WORLD MAP;MOUNT FUJI;TOKYO TOWER;",
  "STATUE OF LIBERTY;SILHOUETTE OF JAPAN;MOYAI;GRINNING FACE;GRINNING FACE WITH SMILING EYES;",
  "FACE WITH TEARS OF JOY;SMILING FACE WITH OPEN MOUTH;",
  "SMILING FACE WITH OPEN MOUTH AND SMILING EYES;SMILING FACE WITH OPEN MOUTH AND COLD SWEAT;",
  "SMILING FACE WITH OPEN MOUTH AND TIGHTLY-CLOSED EYES;SMILING FACE WITH HALO;",
  "SMILING FACE WITH HORNS;WINKING FACE;SMILING FACE WITH SMILING EYES;",
  "FACE SAVOURING DELICIOUS FOOD;RELIEVED FACE;SMILING FACE WITH HEART-SHAPED EYES;",
  "SMILING FACE WITH SUNGLASSES;SMIRKING FACE;NEUTRAL FACE;EXPRESSIONLESS FACE;UNAMUSED FACE;",
  "FACE WITH COLD SWEAT;PENSIVE FACE;CONFUSED FACE;CONFOUNDED FACE;KISSING FACE;",
  "FACE THROWING A KISS;KISSING FACE WITH SMILING EYES;KISSING FACE WITH CLOSED EYES;",
  "FACE WITH STUCK-OUT TONGUE;FACE WITH STUCK-OUT TONGUE AND WINKING EYE;",
  "FACE WITH STUCK-OUT TONGUE AND TIGHTLY-CLOSED EYES;DISAPPOINTED FACE;WORRIED FACE;ANGRY FACE;",
  "POUTING FACE;CRYING FACE;PERSEVERING FACE;FACE WITH LOOK OF TRIUMPH;",
  "DISAPPOINTED BUT RELIEVED FACE;FROWNING FACE WITH OPEN MOUTH;ANGUISHED FACE;FEARFUL FACE;",
  "WEARY FACE;SLEEPY FACE;TIRED FACE;GRIMACING FACE;LOUDLY CRYING FACE;FACE WITH OPEN MOUTH;",
  "HUSHED FACE;FACE WITH OPEN MOUTH AND COLD SWEAT;FACE SCREAMING IN FEAR;ASTONISHED FACE;",
  "FLUSHED FACE;SLEEPING FACE;DIZZY FACE;FACE WITHOUT MOUTH;FACE WITH MEDICAL MASK;",
  "GRINNING CAT FACE WITH SMILING EYES;CAT FACE WITH TEARS OF JOY;",
  "SMILING CAT FACE WITH OPEN MOUTH;SMILING CAT FACE WITH HEART-SHAPED EYES;",
  "CAT FACE WITH WRY SMILE;KISSING CAT FACE WITH CLOSED EYES;POUTING CAT FACE;CRYING CAT FACE;",
  "WEARY CAT FACE;SLIGHTLY FROWNING FACE;SLIGHTLY SMILING FACE;UPSIDE-DOWN FACE;",
  "FACE WITH ROLLING EYES;FACE WITH NO GOOD GESTURE;FACE WITH OK GESTURE;PERSON BOWING DEEPLY;",
  "SEE-NO-EVIL MONKEY;HEAR-NO-EVIL MONKEY;SPEAK-NO-EVIL MONKEY;HAPPY PERSON RAISING ONE HAND;",
  "PERSON RAISING BOTH HANDS IN CELEBRATION;PERSON FROWNING;PERSON WITH POUTING FACE;",
  "PERSON WITH FOLDED HANDS"]

private def nameLinesD0 : List String := [
  "ROCKET;HELICOPTER;STEAM LOCOMOTIVE;RAILWAY CAR;HIGH-SPEED TRAIN;",
  "HIGH-SPEED TRAIN WITH BULLET NOSE;TRAIN;METRO;LIGHT RAIL;STATION;TRAM;TRAM CAR;BUS;",
  "ONCOMING BUS;TROLLEYBUS;BUS STOP;MINIBUS;AMBULANCE;FIRE ENGINE;POLICE CAR;",
  "ONCOMING POLICE CAR;TAXI;ONCOMING TAXI;AUTOMOBILE;ONCOMING AUTOMOBILE;RECREATIONAL VEHICLE;",
  "DELIVERY TRUCK;ARTICULATED LORRY;TRACTOR;MONORAIL;MOUNTAIN RAILWAY;SUSPENSION RAILWAY;",
  "MOUNTAIN CABLEWAY;AERIAL TRAMWAY;SHIP;ROWBOAT;SPEEDBOAT;HORIZONTAL TRAFFIC LIGHT;",
  "VERTICAL TRAFFIC LIGHT;CONSTRUCTION SIGN;POLICE CARS REVOLVING LIGHT;TRIANGULAR FLAG ON POST;",
  "DOOR;NO ENTRY SIGN;SMOKING SYMBOL;NO SMOKING SYMBOL;PUT LITTER IN ITS PLACE SYMBOL;",
  "DO NOT LITTER SYMBOL;POTABLE WATER SYMBOL;NON-POTABLE WATER SYMBOL;BICYCLE;NO BICYCLES;",
  "BICYCLIST;MOUNTAIN BICYCLIST;PEDESTRIAN;NO PEDESTRIANS;CHILDREN CROSSING;MENS SYMBOL;",
  "WOMENS SYMBOL;RESTROOM;BABY SYMBOL;TOILET;WATER CLOSET;SHOWER;BATH;BATHTUB;PASSPORT CONTROL;",
  "CUSTOMS;BAGGAGE CLAIM;LEFT LUGGAGE;TRIANGLE WITH ROUNDED CORNERS;PROHIBITED SIGN;",
  "CIRCLED INFORMATION SOURCE;BOYS SYMBOL;GIRLS SYMBOL;COUCH AND LAMP;SLEEPING ACCOMMODATION;",
  "SHOPPING BAGS;BELLHOP BELL;BED;PLACE OF WORSHIP;OCTAGONAL SIGN;SHOPPING TROLLEY;STUPA;PAGODA;",
  "HINDU TEMPLE;HUT;ELEVATOR;;;;;;PLAYGROUND SLIDE;WHEEL;RING BUOY;HAMMER AND WRENCH;SHIELD;",
  "OIL DRUM;MOTORWAY;RAILWAY TRACK;MOTOR BOAT;UP-POINTING MILITARY AIRPLANE;",
  "UP-POINTING AIRPLANE;UP-POINTING SMALL AIRPLANE;SMALL AIRPLANE;NORTHEAST-POINTING AIRPLANE;",
  "AIRPLANE DEPARTURE;AIRPLANE ARRIVING;;;;SATELLITE;ONCOMING FIRE ENGINE;DIESEL LOCOMOTIVE;",
  "PASSENGER SHIP;SCOOTER;MOTOR SCOOTER;CANOE;SLED;FLYING SAUCER;SKATEBOARD;AUTO RICKSHAW;",
  "PICKUP TRUCK;ROLLER SKATE"]

private def nameLinesD1 : List String := [
  "CIRCLED CROSS FORMEE WITH FOUR DOTS;CIRCLED CROSS FORMEE WITH TWO DOTS;CIRCLED CROSS FORMEE;",
  "LEFT HALF CIRCLE WITH FOUR DOTS;LEFT HALF CIRCLE WITH THREE DOTS;",
  "LEFT HALF CIRCLE WITH TWO DOTS;LEFT HALF CIRCLE WITH DOT;LEFT HALF CIRCLE;",
  "DOWNWARD FACING HOOK;DOWNWARD FACING NOTCHED HOOK;DOWNWARD FACING HOOK WITH DOT;",
  "DOWNWARD FACING NOTCHED HOOK WITH DOT;PINCHED FINGERS;WHITE HEART;BROWN HEART;PINCHING HAND;",
  "ZIPPER-MOUTH FACE;MONEY-MOUTH FACE;FACE WITH THERMOMETER;NERD FACE;THINKING FACE;",
  "FACE WITH HEAD-BANDAGE;ROBOT FACE;HUGGING FACE;SIGN OF THE HORNS;CALL ME HAND;",
  "RAISED BACK OF HAND;LEFT-FACING FIST;RIGHT-FACING FIST;HANDSHAKE;",
  "HAND WITH INDEX AND MIDDLE FINGERS CROSSED;I LOVE YOU HAND SIGN;FACE WITH COWBOY HAT;",
  "CLOWN FACE;NAUSEATED FACE;ROLLING ON THE FLOOR LAUGHING;DROOLING FACE;LYING FACE;FACE PALM;",
  "SNEEZING FACE;FACE WITH ONE EYEBROW RAISED;GRINNING FACE WITH STAR EYES;",
  "GRINNING FACE WITH ONE LARGE AND ONE SMALL EYE;FACE WITH FINGER COVERING CLOSED LIPS;",
  "SERIOUS FACE WITH SYMBOLS COVERING MOUTH;",
  "SMILING FACE WITH SMILING EYES AND HAND COVERING MOUTH;FACE WITH OPEN MOUTH VOMITING;",
  "SHOCKED FACE WITH EXPLODING HEAD;PREGNANT WOMAN;BREAST-FEEDING;PALMS UP TOGETHER;SELFIE;",
  "PRINCE;MAN IN TUXEDO;MOTHER CHRISTMAS;SHRUG;PERSON DOING CARTWHEEL;JUGGLING;FENCER;",
  "MODERN PENTATHLON;WRESTLERS;WATER POLO;HANDBALL;DIVING MASK;WILTED FLOWER;",
  "DRUM WITH DRUMSTICKS;CLINKING GLASSES;TUMBLER GLASS;SPOON;GOAL NET;RIFLE;FIRST PLACE MEDAL;",
  "SECOND PLACE MEDAL;THIRD PLACE MEDAL;BOXING GLOVE;MARTIAL ARTS UNIFORM;CURLING STONE;",
  "LACROSSE STICK AND BALL;SOFTBALL;FLYING DISC;CROISSANT;AVOCADO;CUCUMBER;BACON;POTATO;CARROT;",
  "BAGUETTE BREAD;GREEN SALAD;SHALLOW PAN OF FOOD;STUFFED FLATBREAD;EGG;GLASS OF MILK;PEANUTS;",
  "KIWIFRUIT;PANCAKES;DUMPLING;FORTUNE COOKIE;TAKEOUT BOX;CHOPSTICKS;BOWL WITH SPOON;",
  "CUP WITH STRAW;COCONUT;BROCCOLI;PIE;PRETZEL;CUT OF MEAT;SANDWICH;CANNED FOOD;LEAFY GREEN;",
  "MANGO;MOON CAKE;BAGEL;SMILING FACE WITH SMILING EYES AND THREE HEARTS;YAWNING FACE;",
  "SMILING FACE WITH TEAR;FACE WITH PARTY HORN AND PARTY HAT;",
  "FACE WITH UNEVEN EYES AND WAVY MOUTH;OVERHEATED FACE;FREEZING FACE;NINJA;DISGUISED FACE;",
  "FACE HOLDING BACK TEARS;FACE WITH PLEADING EYES;SARI;LAB COAT;GOGGLES;HIKING BOOT;FLAT SHOE;",
  "CRAB;LION FACE;SCORPION;TURKEY;UNICORN FACE;EAGLE;DUCK;BAT;SHARK;OWL;FOX FACE;BUTTERFLY;DEER;",
  "GORILLA;LIZARD;RHINOCEROS;SHRIMP;SQUID;GIRAFFE FACE;ZEBRA FACE;HEDGEHOG;SAUROPOD;T-REX;",
  "CRICKET;KANGAROO;LLAMA;PEACOCK;HIPPOPOTAMUS;PARROT;RACCOON;LOBSTER;MOSQUITO;MICROBE;BADGER;",
  "SWAN;MAMMOTH;DODO;SLOTH;OTTER;ORANGUTAN;SKUNK;FLAMINGO;OYSTER;BEAVER;BISON;SEAL;GUIDE DOG;",
  "PROBING CANE;EMOJI COMPONENT RED HAIR;EMOJI COMPONENT CURLY HAIR;EMOJI COMPONENT BALD;",
  "EMOJI COMPONENT WHITE HAIR;BONE;LEG;FOOT;TOOTH;SUPERHERO;SUPERVILLAIN;SAFETY VEST;",
  "EAR WITH HEARING AID;MOTORIZED WHEELCHAIR;MANUAL WHEELCHAIR;MECHANICAL ARM;MECHANICAL LEG;",
  "CHEESE WEDGE;CUPCAKE;SALT SHAKER;BEVERAGE BOX;GARLIC;ONION;FALAFEL;WAFFLE;BUTTER;MATE DRINK;",
  "ICE CUBE;BUBBLE TEA;TROLL;STANDING PERSON;KNEELING PERSON;DEAF PERSON;FACE WITH MONOCLE;",
  "ADULT;CHILD;OLDER ADULT;BEARDED PERSON;PERSON WITH HEADSCARF;PERSON IN STEAMY ROOM;",
  "PERSON CLIMBING;PERSON IN LOTUS POSITION;MAGE;FAIRY;VAMPIRE;MERPERSON;ELF;GENIE;ZOMBIE;BRAIN;",
  "ORANGE HEART;BILLED CAP;SCARF;GLOVES;COAT;SOCKS;RED GIFT ENVELOPE;FIRECRACKER;",
  "JIGSAW PUZZLE PIECE;TEST TUBE;PETRI DISH;DNA DOUBLE HELIX;COMPASS;ABACUS;FIRE EXTINGUISHER;",
  "TOOLBOX;BRICK;MAGNET;LUGGAGE;LOTION BOTTLE;SPOOL OF THREAD;BALL OF YARN;SAFETY PIN;",
  "TEDDY BEAR;BROOM;BASKET;ROLL OF PAPER;BAR OF SOAP;SPONGE;RECEIPT;NAZAR AMULET"]

private def nameLinesD2 : List String := [
  "BALLET SHOES;ONE-PIECE SWIMSUIT;BRIEFS;SHORTS;THONG SANDAL;;;;DROP OF BLOOD;ADHESIVE BANDAGE;",
  "STETHOSCOPE;X-RAY;CRUTCH;;;;YO-YO;KITE;PARACHUTE;BOOMERANG;MAGIC WAND;PINATA;NESTING DOLLS;;;",
  ";;;;;;;RINGED PLANET;CHAIR;RAZOR;AXE;DIYA LAMP;BANJO;MILITARY HELMET;ACCORDION;LONG DRUM;",
  "COIN;CARPENTRY SAW;SCREWDRIVER;LADDER;HOOK;MIRROR;WINDOW;PLUNGER;SEWING NEEDLE;KNOT;BUCKET;",
  "MOUSE TRAP;TOOTHBRUSH;HEADSTONE;PLACARD;ROCK;MIRROR BALL;IDENTIFICATION CARD;LOW BATTERY;",
  "HAMSA;;;;FLY;WORM;BEETLE;COCKROACH;POTTED PLANT;WOOD;FEATHER;LOTUS;CORAL;EMPTY NEST;",
  "NEST WITH EGGS;;;;;;ANATOMICAL HEART;LUNGS;PEOPLE HUGGING;PREGNANT MAN;PREGNANT PERSON;",
  "PERSON WITH CROWN;;;;;;;;;;;BLUEBERRIES;BELL PEPPER;OLIVE;FLATBREAD;TAMALE;FONDUE;TEAPOT;",
  "POURING LIQUID;BEANS;JAR;;;;;;;MELTING FACE;SALUTING FACE;",
  "FACE WITH OPEN EYES AND HAND OVER MOUTH;FACE WITH PEEKING EYE;FACE WITH DIAGONAL MOUTH;",
  "DOTTED LINE FACE;BITING LIP;BUBBLES;;;;;;;;;HAND WITH INDEX FINGER AND THUMB CROSSED;",
  "RIGHTWARDS HAND;LEFTWARDS HAND;PALM DOWN HAND;PALM UP HAND;INDEX POINTING AT THE VIEWER;",
  "HEART HANDS"]

/-- The blocks of named characters: the first code point of each, and the names in order, which
are empty for code points without a character. -/
def nameBlocks : List (Nat × List String) := [
  (0x20, nameLinesA0),
  (0xA0, nameLinesA1),
  (0x2B0, nameLinesA2),
  (0x37A, nameLinesA3),
  (0x5D0, nameLinesA4),
  (0x621, nameLinesA5),
  (0x660, nameLinesA6),
  (0x905, nameLinesA7),
  (0x966, nameLinesA8),
  (0xE01, nameLinesA9),
  (0x1E00, nameLinesB0),
  (0x2000, nameLinesB1),
  (0x20D0, nameLinesB2),
  (0x2100, nameLinesB3),
  (0x2190, nameLinesB4 ++ nameLinesB5),
  (0x2440, nameLinesB6),
  (0x2460, nameLinesB7 ++ nameLinesB8),
  (0x27E0, nameLinesB9),
  (0x2900, nameLinesC0),
  (0x2B00, nameLinesC1),
  (0x3000, nameLinesC2),
  (0x3041, nameLinesC3),
  (0xFB00, nameLinesC4),
  (0xFE0E, nameLinesC5),
  (0xFEFF, nameLinesC6),
  (0xFF01, nameLinesC7),
  (0xFFFC, nameLinesC8),
  (0x1F300, nameLinesC9),
  (0x1F680, nameLinesD0),
  (0x1F900, nameLinesD1),
  (0x1FA70, nameLinesD2)]

/-- Further names of some characters. -/
def furtherNames : List (String × Nat) := [
  ("NULL", 0x0), ("NUL", 0x0), ("START OF HEADING", 0x1), ("SOH", 0x1), ("START OF TEXT", 0x2),
  ("STX", 0x2), ("END OF TEXT", 0x3), ("ETX", 0x3), ("END OF TRANSMISSION", 0x4), ("EOT", 0x4),
  ("ENQUIRY", 0x5), ("ENQ", 0x5), ("ACKNOWLEDGE", 0x6), ("ACK", 0x6), ("ALERT", 0x7), ("BEL", 0x7),
  ("BACKSPACE", 0x8), ("BS", 0x8), ("CHARACTER TABULATION", 0x9), ("HORIZONTAL TABULATION", 0x9),
  ("HT", 0x9), ("TAB", 0x9), ("LINE FEED", 0xA), ("NEW LINE", 0xA), ("END OF LINE", 0xA),
  ("LF", 0xA), ("NL", 0xA), ("EOL", 0xA), ("LINE TABULATION", 0xB), ("VERTICAL TABULATION", 0xB),
  ("VT", 0xB), ("FORM FEED", 0xC), ("FF", 0xC), ("CARRIAGE RETURN", 0xD), ("CR", 0xD),
  ("ESCAPE", 0x1B), ("ESC", 0x1B), ("SP", 0x20), ("DELETE", 0x7F), ("DEL", 0x7F),
  ("NEXT LINE", 0x85), ("NEL", 0x85), ("NBSP", 0xA0), ("SHY", 0xAD), ("CGJ", 0x34F),
  ("ZWSP", 0x200B), ("ZWNJ", 0x200C), ("ZWJ", 0x200D), ("LRM", 0x200E), ("RLM", 0x200F),
  ("LRE", 0x202A), ("RLE", 0x202B), ("PDF", 0x202C), ("LRO", 0x202D), ("RLO", 0x202E),
  ("NNBSP", 0x202F), ("WJ", 0x2060), ("BYTE ORDER MARK", 0xFEFF), ("BOM", 0xFEFF),
  ("ZWNBSP", 0xFEFF), ("VS16", 0xFE0F), ("VS15", 0xFE0E), ("FILE SEPARATOR", 0x1C), ("FS", 0x1C),
  ("SUBSTITUTE", 0x1A), ("SUB", 0x1A), ("CANCEL", 0x18), ("CAN", 0x18)]

end StateContainer.Text
