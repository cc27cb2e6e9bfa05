/-!
The names of the characters of version 14 of Unicode, in the order of their
codes, and the other names that characters go by. An entry is a letter for how
much it shares with the name before it, `a` for nothing, and the rest of the
name; an entry with a plus sign says how many codes have no entry. Ideographs
and syllables that are named by a rule have no entries.
-/

namespace ControllerClient.Text

set_option maxRecDepth 20000

def characterNameEntriesA : List String := [
  "+20;aSPACE;aEXCLAMATION MARK;aQUOTATION MARK;aNUMBER SIGN;aDOLLAR SIGN;aPERCENT SIGN",
  "aAMPERSAND;bPOSTROPHE;aLEFT PARENTHESIS;aRIGHT PARENTHESIS;aASTERISK;aPLUS SIGN;aCOMMA",
  "aHYPHEN-MINUS;aFULL STOP;aSOLIDUS;aDIGIT ZERO;gONE;gTWO;hHREE;gFOUR;hIVE;gSIX;hEVEN;gEIGHT",
  "gNINE;aCOLON;aSEMICOLON;aLESS-THAN SIGN;aEQUALS SIGN;aGREATER-THAN SIGN;aQUESTION MARK",
  "aCOMMERCIAL AT;aLATIN CAPITAL LETTER A;vB;vC;vD;vE;vF;vG;vH;vI;vJ;vK;vL;vM;vN;vO;vP;vQ;vR;vS",
  "vT;vU;vV;vW;vX;vY;vZ;bEFT SQUARE BRACKET;aREVERSE SOLIDUS;bIGHT SQUARE BRACKET",
  "aCIRCUMFLEX ACCENT;aLOW LINE;aGRAVE ACCENT;aLATIN SMALL LETTER A;tB;tC;tD;tE;tF;tG;tH;tI;tJ",
  "tK;tL;tM;tN;tO;tP;tQ;tR;tS;tT;tU;tV;tW;tX;tY;tZ;bEFT CURLY BRACKET;aVERTICAL LINE",
  "aRIGHT CURLY BRACKET;aTILDE;+21;aNO-BREAK SPACE;aINVERTED EXCLAMATION MARK;aCENT SIGN",
  "aPOUND SIGN;aCURRENCY SIGN;aYEN SIGN;aBROKEN BAR;aSECTION SIGN;aDIAERESIS;aCOPYRIGHT SIGN",
  "aFEMININE ORDINAL INDICATOR;aLEFT-POINTING DOUBLE ANGLE QUOTATION MARK;aNOT SIGN",
  "aSOFT HYPHEN;aREGISTERED SIGN;aMACRON;aDEGREE SIGN;aPLUS-MINUS SIGN;aSUPERSCRIPT TWO;nHREE",
  "aACUTE ACCENT;aMICRO SIGN;aPILCROW SIGN;aMIDDLE DOT;aCEDILLA;aSUPERSCRIPT ONE",
  "aMASCULINE ORDINAL INDICATOR;aRIGHT-POINTING DOUBLE ANGLE QUOTATION MARK",
  "aVULGAR FRACTION ONE QUARTER;uHALF;qTHREE QUARTERS;aINVERTED QUESTION MARK",
  "aLATIN CAPITAL LETTER A WITH GRAVE;CACUTE;CCIRCUMFLEX;CTILDE;CDIAERESIS;CRING ABOVE;wE",
  "vC WITH CEDILLA;vE WITH GRAVE;CACUTE;CCIRCUMFLEX;CDIAERESIS;vI WITH GRAVE;CACUTE;CCIRCUMFLEX",
  "CDIAERESIS;vETH;vN WITH TILDE;vO WITH GRAVE;CACUTE;CCIRCUMFLEX;CTILDE;CDIAERESIS",
  "aMULTIPLICATION SIGN;aLATIN CAPITAL LETTER O WITH STROKE;vU WITH GRAVE;CACUTE;CCIRCUMFLEX",
  "CDIAERESIS;vY WITH ACUTE;vTHORN;gSMALL LETTER SHARP S;tA WITH GRAVE;AACUTE;ACIRCUMFLEX",
  "ATILDE;ADIAERESIS;ARING ABOVE;uE;tC WITH CEDILLA;tE WITH GRAVE;AACUTE;ACIRCUMFLEX;ADIAERESIS",
  "tI WITH GRAVE;AACUTE;ACIRCUMFLEX;ADIAERESIS;tETH;tN WITH TILDE;tO WITH GRAVE;AACUTE",
  "ACIRCUMFLEX;ATILDE;ADIAERESIS;aDIVISION SIGN;aLATIN SMALL LETTER O WITH STROKE;tU WITH GRAVE",
  "AACUTE;ACIRCUMFLEX;ADIAERESIS;tY WITH ACUTE;tTHORN;tY WITH DIAERESIS",
  "gCAPITAL LETTER A WITH MACRON;gSMALL LETTER A WITH MACRON;gCAPITAL LETTER A WITH BREVE",
  "gSMALL LETTER A WITH BREVE;gCAPITAL LETTER A WITH OGONEK;gSMALL LETTER A WITH OGONEK",
  "gCAPITAL LETTER C WITH ACUTE;gSMALL LETTER C WITH ACUTE;gCAPITAL LETTER C WITH CIRCUMFLEX",
  "gSMALL LETTER C WITH CIRCUMFLEX;gCAPITAL LETTER C WITH DOT ABOVE",
  "gSMALL LETTER C WITH DOT ABOVE;gCAPITAL LETTER C WITH CARON;gSMALL LETTER C WITH CARON",
  "gCAPITAL LETTER D WITH CARON;gSMALL LETTER D WITH CARON;gCAPITAL LETTER D WITH STROKE",
  "gSMALL LETTER D WITH STROKE;gCAPITAL LETTER E WITH MACRON;gSMALL LETTER E WITH MACRON",
  "gCAPITAL LETTER E WITH BREVE;gSMALL LETTER E WITH BREVE;gCAPITAL LETTER E WITH DOT ABOVE",
  "gSMALL LETTER E WITH DOT ABOVE;gCAPITAL LETTER E WITH OGONEK;gSMALL LETTER E WITH OGONEK",
  "gCAPITAL LETTER E WITH CARON;gSMALL LETTER E WITH CARON;gCAPITAL LETTER G WITH CIRCUMFLEX",
  "gSMALL LETTER G WITH CIRCUMFLEX;gCAPITAL LETTER G WITH BREVE;gSMALL LETTER G WITH BREVE",
  "gCAPITAL LETTER G WITH DOT ABOVE;gSMALL LETTER G WITH DOT ABOVE",
  "gCAPITAL LETTER G WITH CEDILLA;gSMALL LETTER G WITH CEDILLA",
  "gCAPITAL LETTER H WITH CIRCUMFLEX;gSMALL LETTER H WITH CIRCUMFLEX",
  "gCAPITAL LETTER H WITH STROKE;gSMALL LETTER H WITH STROKE;gCAPITAL LETTER I WITH TILDE",
  "gSMALL LETTER I WITH TILDE;gCAPITAL LETTER I WITH MACRON;gSMALL LETTER I WITH MACRON",
  "gCAPITAL LETTER I WITH BREVE;gSMALL LETTER I WITH BREVE;gCAPITAL LETTER I WITH OGONEK",
  "gSMALL LETTER I WITH OGONEK;gCAPITAL LETTER I WITH DOT ABOVE;gSMALL LETTER DOTLESS I",
  "gCAPITAL LIGATURE IJ;gSMALL LIGATURE IJ;gCAPITAL LETTER J WITH CIRCUMFLEX",
  "gSMALL LETTER J WITH CIRCUMFLEX;gCAPITAL LETTER K WITH CEDILLA;gSMALL LETTER K WITH CEDILLA",
  "uRA;gCAPITAL LETTER L WITH ACUTE;gSMALL LETTER L WITH ACUTE;gCAPITAL LETTER L WITH CEDILLA",
  "gSMALL LETTER L WITH CEDILLA;gCAPITAL LETTER L WITH CARON;gSMALL LETTER L WITH CARON",
  "gCAPITAL LETTER L WITH MIDDLE DOT;gSMALL LETTER L WITH MIDDLE DOT",
  "gCAPITAL LETTER L WITH STROKE;gSMALL LETTER L WITH STROKE;gCAPITAL LETTER N WITH ACUTE",
  "gSMALL LETTER N WITH ACUTE;gCAPITAL LETTER N WITH CEDILLA;gSMALL LETTER N WITH CEDILLA",
  "gCAPITAL LETTER N WITH CARON;gSMALL LETTER N WITH CARON;vPRECEDED BY APOSTROPHE",
  "gCAPITAL LETTER ENG;gSMALL LETTER ENG;gCAPITAL LETTER O WITH MACRON",
  "gSMALL LETTER O WITH MACRON;gCAPITAL LETTER O WITH BREVE;gSMALL LETTER O WITH BREVE",
  "gCAPITAL LETTER O WITH DOUBLE ACUTE;gSMALL LETTER O WITH DOUBLE ACUTE;gCAPITAL LIGATURE OE",
  "gSMALL LIGATURE OE;gCAPITAL LETTER R WITH ACUTE;gSMALL LETTER R WITH ACUTE",
  "gCAPITAL LETTER R WITH CEDILLA;gSMALL LETTER R WITH CEDILLA;gCAPITAL LETTER R WITH CARON",
  "gSMALL LETTER R WITH CARON;gCAPITAL LETTER S WITH ACUTE;gSMALL LETTER S WITH ACUTE",
  "gCAPITAL LETTER S WITH CIRCUMFLEX;gSMALL LETTER S WITH CIRCUMFLEX",
  "gCAPITAL LETTER S WITH CEDILLA;gSMALL LETTER S WITH CEDILLA;gCAPITAL LETTER S WITH CARON",
  "gSMALL LETTER S WITH CARON;gCAPITAL LETTER T WITH CEDILLA;gSMALL LETTER T WITH CEDILLA",
  "gCAPITAL LETTER T WITH CARON;gSMALL LETTER T WITH CARON;gCAPITAL LETTER T WITH STROKE",
  "gSMALL LETTER T WITH STROKE;gCAPITAL LETTER U WITH TILDE;gSMALL LETTER U WITH TILDE",
  "gCAPITAL LETTER U WITH MACRON;gSMALL LETTER U WITH MACRON;gCAPITAL LETTER U WITH BREVE",
  "gSMALL LETTER U WITH BREVE;gCAPITAL LETTER U WITH RING ABOVE;gSMALL LETTER U WITH RING ABOVE",
  "gCAPITAL LETTER U WITH DOUBLE ACUTE;gSMALL LETTER U WITH DOUBLE ACUTE",
  "gCAPITAL LETTER U WITH OGONEK;gSMALL LETTER U WITH OGONEK;gCAPITAL LETTER W WITH CIRCUMFLEX",
  "gSMALL LETTER W WITH CIRCUMFLEX;gCAPITAL LETTER Y WITH CIRCUMFLEX",
  "gSMALL LETTER Y WITH CIRCUMFLEX;gCAPITAL LETTER Y WITH DIAERESIS;vZ WITH ACUTE",
  "gSMALL LETTER Z WITH ACUTE;gCAPITAL LETTER Z WITH DOT ABOVE;gSMALL LETTER Z WITH DOT ABOVE",
  "gCAPITAL LETTER Z WITH CARON;gSMALL LETTER Z WITH CARON;tLONG S;tB WITH STROKE",
  "gCAPITAL LETTER B WITH HOOK;CTOPBAR;gSMALL LETTER B WITH TOPBAR;gCAPITAL LETTER TONE SIX",
  "gSMALL LETTER TONE SIX;gCAPITAL LETTER OPEN O;vC WITH HOOK;gSMALL LETTER C WITH HOOK",
  "gCAPITAL LETTER AFRICAN D;vD WITH HOOK;CTOPBAR;gSMALL LETTER D WITH TOPBAR;tTURNED DELTA",
  "gCAPITAL LETTER REVERSED E;vSCHWA;vOPEN E;vF WITH HOOK;gSMALL LETTER F WITH HOOK",
  "gCAPITAL LETTER G WITH HOOK;wAMMA;gSMALL LETTER HV;gCAPITAL LETTER IOTA;w WITH STROKE",
  "vK WITH HOOK;gSMALL LETTER K WITH HOOK;tL WITH BAR;uAMBDA WITH STROKE",
  "gCAPITAL LETTER TURNED M;vN WITH LEFT HOOK;gSMALL LETTER N WITH LONG RIGHT LEG",
  "gCAPITAL LETTER O WITH MIDDLE TILDE;CHORN;gSMALL LETTER O WITH HORN;gCAPITAL LETTER OI",
  "gSMALL LETTER OI;gCAPITAL LETTER P WITH HOOK;gSMALL LETTER P WITH HOOK;gLETTER YR",
  "gCAPITAL LETTER TONE TWO;gSMALL LETTER TONE TWO;gCAPITAL LETTER ESH",
  "gLETTER REVERSED ESH LOOP;gSMALL LETTER T WITH PALATAL HOOK;gCAPITAL LETTER T WITH HOOK",
  "gSMALL LETTER T WITH HOOK;gCAPITAL LETTER T WITH RETROFLEX HOOK;vU WITH HORN",
  "gSMALL LETTER U WITH HORN;gCAPITAL LETTER UPSILON;vV WITH HOOK;vY WITH HOOK",
  "gSMALL LETTER Y WITH HOOK;gCAPITAL LETTER Z WITH STROKE;gSMALL LETTER Z WITH STROKE",
  "gCAPITAL LETTER EZH;y REVERSED;gSMALL LETTER EZH REVERSED;xWITH TAIL;gLETTER TWO WITH STROKE",
  "gCAPITAL LETTER TONE FIVE;gSMALL LETTER TONE FIVE;gLETTER INVERTED GLOTTAL STOP WITH STROKE",
  "nWYNN;nDENTAL CLICK;nLATERAL CLICK;nALVEOLAR CLICK;nRETROFLEX CLICK",
  "gCAPITAL LETTER DZ WITH CARON;w WITH SMALL LETTER Z WITH CARON;gSMALL LETTER DZ WITH CARON",
  "gCAPITAL LETTER LJ;w WITH SMALL LETTER J;gSMALL LETTER LJ;gCAPITAL LETTER NJ",
  "w WITH SMALL LETTER J;gSMALL LETTER NJ;gCAPITAL LETTER A WITH CARON",
  "gSMALL LETTER A WITH CARON;gCAPITAL LETTER I WITH CARON;gSMALL LETTER I WITH CARON",
  "gCAPITAL LETTER O WITH CARON;gSMALL LETTER O WITH CARON;gCAPITAL LETTER U WITH CARON",
  "gSMALL LETTER U WITH CARON;gCAPITAL LETTER U WITH DIAERESIS AND MACRON",
  "gSMALL LETTER U WITH DIAERESIS AND MACRON;gCAPITAL LETTER U WITH DIAERESIS AND ACUTE",
  "gSMALL LETTER U WITH DIAERESIS AND ACUTE;gCAPITAL LETTER U WITH DIAERESIS AND CARON",
  "gSMALL LETTER U WITH DIAERESIS AND CARON;gCAPITAL LETTER U WITH DIAERESIS AND GRAVE",
  "gSMALL LETTER U WITH DIAERESIS AND GRAVE;tTURNED E",
  "gCAPITAL LETTER A WITH DIAERESIS AND MACRON;gSMALL LETTER A WITH DIAERESIS AND MACRON",
  "gCAPITAL LETTER A WITH DOT ABOVE AND MACRON;gSMALL LETTER A WITH DOT ABOVE AND MACRON",
  "gCAPITAL LETTER AE WITH MACRON;gSMALL LETTER AE WITH MACRON;gCAPITAL LETTER G WITH STROKE",
  "gSMALL LETTER G WITH STROKE;gCAPITAL LETTER G WITH CARON;gSMALL LETTER G WITH CARON",
  "gCAPITAL LETTER K WITH CARON;gSMALL LETTER K WITH CARON;gCAPITAL LETTER O WITH OGONEK",
  "gSMALL LETTER O WITH OGONEK;gCAPITAL LETTER O WITH OGONEK AND MACRON",
  "gSMALL LETTER O WITH OGONEK AND MACRON;gCAPITAL LETTER EZH WITH CARON",
  "gSMALL LETTER EZH WITH CARON;tJ WITH CARON;gCAPITAL LETTER DZ;w WITH SMALL LETTER Z",
  "gSMALL LETTER DZ;gCAPITAL LETTER G WITH ACUTE;gSMALL LETTER G WITH ACUTE",
  "gCAPITAL LETTER HWAIR;vWYNN;vN WITH GRAVE;gSMALL LETTER N WITH GRAVE",
  "gCAPITAL LETTER A WITH RING ABOVE AND ACUTE;gSMALL LETTER A WITH RING ABOVE AND ACUTE",
  "gCAPITAL LETTER AE WITH ACUTE;gSMALL LETTER AE WITH ACUTE",
  "gCAPITAL LETTER O WITH STROKE AND ACUTE;gSMALL LETTER O WITH STROKE AND ACUTE",
  "gCAPITAL LETTER A WITH DOUBLE GRAVE;gSMALL LETTER A WITH DOUBLE GRAVE",
  "gCAPITAL LETTER A WITH INVERTED BREVE;gSMALL LETTER A WITH INVERTED BREVE",
  "gCAPITAL LETTER E WITH DOUBLE GRAVE;gSMALL LETTER E WITH DOUBLE GRAVE",
  "gCAPITAL LETTER E WITH INVERTED BREVE;gSMALL LETTER E WITH INVERTED BREVE",
  "gCAPITAL LETTER I WITH DOUBLE GRAVE;gSMALL LETTER I WITH DOUBLE GRAVE",
  "gCAPITAL LETTER I WITH INVERTED BREVE;gSMALL LETTER I WITH INVERTED BREVE",
  "gCAPITAL LETTER O WITH DOUBLE GRAVE;gSMALL LETTER O WITH DOUBLE GRAVE",
  "gCAPITAL LETTER O WITH INVERTED BREVE;gSMALL LETTER O WITH INVERTED BREVE",
  "gCAPITAL LETTER R WITH DOUBLE GRAVE;gSMALL LETTER R WITH DOUBLE GRAVE",
  "gCAPITAL LETTER R WITH INVERTED BREVE;gSMALL LETTER R WITH INVERTED BREVE",
  "gCAPITAL LETTER U WITH DOUBLE GRAVE;gSMALL LETTER U WITH DOUBLE GRAVE",
  "gCAPITAL LETTER U WITH INVERTED BREVE;gSMALL LETTER U WITH INVERTED BREVE",
  "gCAPITAL LETTER S WITH COMMA BELOW;gSMALL LETTER S WITH COMMA BELOW",
  "gCAPITAL LETTER T WITH COMMA BELOW;gSMALL LETTER T WITH COMMA BELOW;gCAPITAL LETTER YOGH",
  "gSMALL LETTER YOGH;gCAPITAL LETTER H WITH CARON;gSMALL LETTER H WITH CARON",
  "gCAPITAL LETTER N WITH LONG RIGHT LEG;gSMALL LETTER D WITH CURL;gCAPITAL LETTER OU",
  "gSMALL LETTER OU;gCAPITAL LETTER Z WITH HOOK;gSMALL LETTER Z WITH HOOK",
  "gCAPITAL LETTER A WITH DOT ABOVE;gSMALL LETTER A WITH DOT ABOVE",
  "gCAPITAL LETTER E WITH CEDILLA;gSMALL LETTER E WITH CEDILLA",
  "gCAPITAL LETTER O WITH DIAERESIS AND MACRON;gSMALL LETTER O WITH DIAERESIS AND MACRON",
  "gCAPITAL LETTER O WITH TILDE AND MACRON;gSMALL LETTER O WITH TILDE AND MACRON",
  "gCAPITAL LETTER O WITH DOT ABOVE;gSMALL LETTER O WITH DOT ABOVE",
  "gCAPITAL LETTER O WITH DOT ABOVE AND MACRON;gSMALL LETTER O WITH DOT ABOVE AND MACRON",
  "gCAPITAL LETTER Y WITH MACRON;gSMALL LETTER Y WITH MACRON;tL WITH CURL;tN WITH CURL",
  "tT WITH CURL;tDOTLESS J;uB DIGRAPH;tQP DIGRAPH;gCAPITAL LETTER A WITH STROKE;vC WITH STROKE",
  "gSMALL LETTER C WITH STROKE;gCAPITAL LETTER L WITH BAR;vT WITH DIAGONAL STROKE",
  "gSMALL LETTER S WITH SWASH TAIL;tZ WITH SWASH TAIL;gCAPITAL LETTER GLOTTAL STOP",
  "gSMALL LETTER GLOTTAL STOP;gCAPITAL LETTER B WITH STROKE;vU BAR;vTURNED V;vE WITH STROKE",
  "gSMALL LETTER E WITH STROKE;gCAPITAL LETTER J WITH STROKE;gSMALL LETTER J WITH STROKE",
  "gCAPITAL LETTER SMALL Q WITH HOOK TAIL;gSMALL LETTER Q WITH HOOK TAIL",
  "gCAPITAL LETTER R WITH STROKE;gSMALL LETTER R WITH STROKE;gCAPITAL LETTER Y WITH STROKE",
  "gSMALL LETTER Y WITH STROKE;tTURNED A;tALPHA;tTURNED ALPHA;tB WITH HOOK;tOPEN O;tC WITH CURL",
  "tD WITH TAIL;AHOOK;tREVERSED E;tSCHWA;y WITH HOOK;tOPEN E;tREVERSED OPEN E;I WITH HOOK",
  "tCLOSED REVERSED OPEN E;tDOTLESS J WITH STROKE;tG WITH HOOK;tSCRIPT G",
  "gLETTER SMALL CAPITAL G;gSMALL LETTER GAMMA;tRAMS HORN;tTURNED H;tH WITH HOOK;uENG WITH HOOK",
  "tI WITH STROKE;uOTA;gLETTER SMALL CAPITAL I;gSMALL LETTER L WITH MIDDLE TILDE;ABELT",
  "ARETROFLEX HOOK;uEZH;tTURNED M;B WITH LONG LEG;tM WITH HOOK;tN WITH LEFT HOOK",
  "ARETROFLEX HOOK;gLETTER SMALL CAPITAL N;gSMALL LETTER BARRED O;gLETTER SMALL CAPITAL OE",
  "gSMALL LETTER CLOSED OMEGA;tPHI;tTURNED R;B WITH LONG LEG;HHOOK;tR WITH LONG LEG;ATAIL",
  "AFISHHOOK;uEVERSED R WITH FISHHOOK;gLETTER SMALL CAPITAL R;BINVERTED R",
  "gSMALL LETTER S WITH HOOK;tESH;tDOTLESS J WITH STROKE AND HOOK;tSQUAT REVERSED ESH",
  "tESH WITH CURL;tTURNED T;u WITH RETROFLEX HOOK;tU BAR;uPSILON;tV WITH HOOK;tTURNED V;AW;AY",
  "gLETTER SMALL CAPITAL Y;gSMALL LETTER Z WITH RETROFLEX HOOK;ACURL;tEZH;w WITH CURL",
  "gLETTER GLOTTAL STOP;nPHARYNGEAL VOICED FRICATIVE;nINVERTED GLOTTAL STOP;nSTRETCHED C",
  "nBILABIAL CLICK;nSMALL CAPITAL B;gSMALL LETTER CLOSED OPEN E",
  "gLETTER SMALL CAPITAL G WITH HOOK;BH;gSMALL LETTER J WITH CROSSED-TAIL;tTURNED K",
  "gLETTER SMALL CAPITAL L;gSMALL LETTER Q WITH HOOK;gLETTER GLOTTAL STOP WITH STROKE",
  "nREVERSED GLOTTAL STOP WITH STROKE;gSMALL LETTER DZ DIGRAPH;uEZH DIGRAPH",
  "uZ DIGRAPH WITH CURL;tTS DIGRAPH;uESH DIGRAPH;uC DIGRAPH WITH CURL;tFENG DIGRAPH;tLS DIGRAPH",
  "uZ DIGRAPH;gLETTER BILABIAL PERCUSSIVE;pDENTAL PERCUSSIVE",
  "gSMALL LETTER TURNED H WITH FISHHOOK;P AND TAIL;aMODIFIER LETTER SMALL H;x WITH HOOK;wJ;wR",
  "wTURNED R;E WITH HOOK;wCAPITAL INVERTED R;wW;wY;qPRIME;qDOUBLE PRIME;qTURNED COMMA",
  "qAPOSTROPHE;qREVERSED COMMA;rIGHT HALF RING;qLEFT HALF RING;qGLOTTAL STOP",
  "qREVERSED GLOTTAL STOP;qLEFT ARROWHEAD;qRIGHT ARROWHEAD;qUP ARROWHEAD;qDOWN ARROWHEAD",
  "qCIRCUMFLEX ACCENT;aCARON;aMODIFIER LETTER VERTICAL LINE;qMACRON;qACUTE ACCENT;qGRAVE ACCENT",
  "qLOW VERTICAL LINE;uMACRON;uGRAVE ACCENT;uACUTE ACCENT;qTRIANGULAR COLON",
  "qHALF TRIANGULAR COLON;qCENTRED RIGHT HALF RING;yLEFT HALF RING;qUP TACK;qDOWN TACK",
  "qPLUS SIGN;qMINUS SIGN;aBREVE;aDOT ABOVE;aRING ABOVE;aOGONEK;aSMALL TILDE",
  "aDOUBLE ACUTE ACCENT;aMODIFIER LETTER RHOTIC HOOK;qCROSS ACCENT;qSMALL GAMMA;wL;wS;wX",
  "wREVERSED GLOTTAL STOP;qEXTRA-HIGH TONE BAR;qHIGH TONE BAR;qMID TONE BAR;qLOW TONE BAR",
  "qEXTRA-LOW TONE BAR;qYIN DEPARTING TONE MARK;rANG DEPARTING TONE MARK;qVOICING;qUNASPIRATED",
  "qDOUBLE APOSTROPHE;qLOW DOWN ARROWHEAD;uUP ARROWHEAD;uLEFT ARROWHEAD;uRIGHT ARROWHEAD;wNG",
  "qMIDDLE GRAVE ACCENT;xDOUBLE GRAVE ACCENT;EACUTE ACCENT;qLOW TILDE;qRAISED COLON",
  "qBEGIN HIGH TONE;qEND HIGH TONE;qBEGIN LOW TONE;qEND LOW TONE;qSHELF;qOPEN SHELF",
  "qLOW LEFT ARROW;aCOMBINING GRAVE ACCENT;kACUTE ACCENT;kCIRCUMFLEX ACCENT;kTILDE;kMACRON",
  "kOVERLINE;kBREVE;kDOT ABOVE;lIAERESIS;kHOOK ABOVE;kRING ABOVE;kDOUBLE ACUTE ACCENT;kCARON",
  "kVERTICAL LINE ABOVE;kDOUBLE VERTICAL LINE ABOVE;rGRAVE ACCENT;kCANDRABINDU;kINVERTED BREVE",
  "kTURNED COMMA ABOVE;kCOMMA ABOVE;kREVERSED COMMA ABOVE;kCOMMA ABOVE RIGHT",
  "kGRAVE ACCENT BELOW;kACUTE ACCENT BELOW;kLEFT TACK BELOW;kRIGHT TACK BELOW;kLEFT ANGLE ABOVE",
  "kHORN;kLEFT HALF RING BELOW;kUP TACK BELOW;kDOWN TACK BELOW;kPLUS SIGN BELOW",
  "kMINUS SIGN BELOW;kPALATALIZED HOOK BELOW;kRETROFLEX HOOK BELOW;kDOT BELOW;lIAERESIS BELOW",
  "kRING BELOW;kCOMMA BELOW;lEDILLA;kOGONEK;kVERTICAL LINE BELOW;kBRIDGE BELOW",
  "kINVERTED DOUBLE ARCH BELOW;kCARON BELOW;lIRCUMFLEX ACCENT BELOW;kBREVE BELOW",
  "kINVERTED BREVE BELOW;kTILDE BELOW;kMACRON BELOW;kLOW LINE;kDOUBLE LOW LINE;kTILDE OVERLAY",
  "kSHORT STROKE OVERLAY;kLONG STROKE OVERLAY;kSHORT SOLIDUS OVERLAY;kLONG SOLIDUS OVERLAY",
  "kRIGHT HALF RING BELOW;kINVERTED BRIDGE BELOW;kSQUARE BELOW;lEAGULL BELOW;kX ABOVE",
  "kVERTICAL TILDE;kDOUBLE OVERLINE;kGRAVE TONE MARK;kACUTE TONE MARK;kGREEK PERISPOMENI",
  "qKORONIS;qDIALYTIKA TONOS;qYPOGEGRAMMENI;kBRIDGE ABOVE;kEQUALS SIGN BELOW",
  "kDOUBLE VERTICAL LINE BELOW;kLEFT ANGLE BELOW;kNOT TILDE ABOVE;kHOMOTHETIC ABOVE",
  "kALMOST EQUAL TO ABOVE;kLEFT RIGHT ARROW BELOW;kUPWARDS ARROW BELOW;kGRAPHEME JOINER",
  "kRIGHT ARROWHEAD ABOVE;kLEFT HALF RING ABOVE;kFERMATA;kX BELOW;kLEFT ARROWHEAD BELOW",
  "kRIGHT ARROWHEAD BELOW;AAND UP ARROWHEAD BELOW;qHALF RING ABOVE;kDOT ABOVE RIGHT",
  "kASTERISK BELOW;kDOUBLE RING BELOW;kZIGZAG ABOVE;kDOUBLE BREVE BELOW;w;rMACRON;x BELOW",
  "rTILDE;rINVERTED BREVE;rRIGHTWARDS ARROW BELOW;kLATIN SMALL LETTER A;DE;DI;DO;DU;DC;DD;DH;DM",
  "DR;DT;DV;DX;aGREEK CAPITAL LETTER HETA;gSMALL LETTER HETA;gCAPITAL LETTER ARCHAIC SAMPI",
  "gSMALL LETTER ARCHAIC SAMPI;gNUMERAL SIGN;gLOWER NUMERAL SIGN",
  "gCAPITAL LETTER PAMPHYLIAN DIGAMMA;gSMALL LETTER PAMPHYLIAN DIGAMMA;+2;gYPOGEGRAMMENI",
  "gSMALL REVERSED LUNATE SIGMA SYMBOL;mDOTTED LUNATE SIGMA SYMBOL",
  "mREVERSED DOTTED LUNATE SIGMA SYMBOL;gQUESTION MARK;gCAPITAL LETTER YOT;+4;gTONOS",
  "gDIALYTIKA TONOS;gCAPITAL LETTER ALPHA WITH TONOS;gANO TELEIA",
  "gCAPITAL LETTER EPSILON WITH TONOS;wTA WITH TONOS;vIOTA WITH TONOS;+1;vOMICRON WITH TONOS;+1",
  "vUPSILON WITH TONOS;vOMEGA WITH TONOS;gSMALL LETTER IOTA WITH DIALYTIKA AND TONOS",
  "gCAPITAL LETTER ALPHA;vBETA;vGAMMA;vDELTA;vEPSILON;vZETA;vETA;vTHETA;vIOTA;vKAPPA;vLAMDA;vMU",
  "vNU;vXI;vOMICRON;vPI;vRHO;+1;vSIGMA;vTAU;vUPSILON;vPHI;vCHI;vPSI;vOMEGA;vIOTA WITH DIALYTIKA",
  "vUPSILON WITH DIALYTIKA;gSMALL LETTER ALPHA WITH TONOS;tEPSILON WITH TONOS;uTA WITH TONOS",
  "tIOTA WITH TONOS;tUPSILON WITH DIALYTIKA AND TONOS;tALPHA;tBETA;tGAMMA;tDELTA;tEPSILON;tZETA",
  "tETA;tTHETA;tIOTA;tKAPPA;tLAMDA;tMU;tNU;tXI;tOMICRON;tPI;tRHO;tFINAL SIGMA;tSIGMA;tTAU",
  "tUPSILON;tPHI;tCHI;tPSI;tOMEGA;tIOTA WITH DIALYTIKA;tUPSILON WITH DIALYTIKA",
  "tOMICRON WITH TONOS;tUPSILON WITH TONOS;tOMEGA WITH TONOS;gCAPITAL KAI SYMBOL;gBETA SYMBOL",
  "gTHETA SYMBOL;gUPSILON WITH HOOK SYMBOL;tACUTE AND HOOK SYMBOL;tDIAERESIS AND HOOK SYMBOL",
  "gPHI SYMBOL;hI SYMBOL;gKAI SYMBOL;gLETTER ARCHAIC KOPPA;gSMALL LETTER ARCHAIC KOPPA",
  "gLETTER STIGMA;gSMALL LETTER STIGMA;gLETTER DIGAMMA;gSMALL LETTER DIGAMMA;gLETTER KOPPA",
  "gSMALL LETTER KOPPA;gLETTER SAMPI;gSMALL LETTER SAMPI;aCOPTIC CAPITAL LETTER SHEI",
  "hSMALL LETTER SHEI;hCAPITAL LETTER FEI;hSMALL LETTER FEI;hCAPITAL LETTER KHEI",
  "hSMALL LETTER KHEI;hCAPITAL LETTER HORI;hSMALL LETTER HORI;hCAPITAL LETTER GANGIA",
  "hSMALL LETTER GANGIA;hCAPITAL LETTER SHIMA;hSMALL LETTER SHIMA;hCAPITAL LETTER DEI",
  "hSMALL LETTER DEI;aGREEK KAPPA SYMBOL;gRHO SYMBOL;gLUNATE SIGMA SYMBOL;hETTER YOT",
  "gCAPITAL THETA SYMBOL;gLUNATE EPSILON SYMBOL;gREVERSED LUNATE EPSILON SYMBOL",
  "gCAPITAL LETTER SHO;gSMALL LETTER SHO;gCAPITAL LUNATE SIGMA SYMBOL;pETTER SAN",
  "gSMALL LETTER SAN;gRHO WITH STROKE SYMBOL;gCAPITAL REVERSED LUNATE SIGMA SYMBOL",
  "oDOTTED LUNATE SIGMA SYMBOL;oREVERSED DOTTED LUNATE SIGMA SYMBOL",
  "aCYRILLIC CAPITAL LETTER IE WITH GRAVE;zO;yDJE;yGJE;yUKRAINIAN IE;yDZE",
  "yBYELORUSSIAN-UKRAINIAN I;yYI;yJE;yLJE;yNJE;yTSHE;yKJE;yI WITH GRAVE;ySHORT U;yDZHE;yA;yBE",
  "yVE;yGHE;yDE;yIE;yZHE;zE;yI;ySHORT I;yKA;yEL;zM;zN;yO;yPE;yER;zS;yTE;yU;yEF;yHA;yTSE;yCHE",
  "ySHA;ACHA;yHARD SIGN;yYERU;ySOFT SIGN;yE;yYU;zA;jSMALL LETTER A;wBE;wVE;wGHE;wDE;wIE;wZHE;xE",
  "wI;wSHORT I;wKA;wEL;xM;xN;wO;wPE;wER;xS;wTE;wU;wEF;wHA;wTSE;wCHE;wSHA;yCHA;wHARD SIGN;wYERU",
  "wSOFT SIGN;wE;wYU;xA;wIE WITH GRAVE;xO;wDJE;wGJE;wUKRAINIAN IE;wDZE",
  "wBYELORUSSIAN-UKRAINIAN I;wYI;wJE;wLJE;wNJE;wTSHE;wKJE;wI WITH GRAVE;wSHORT U;wDZHE",
  "jCAPITAL LETTER OMEGA;jSMALL LETTER OMEGA;jCAPITAL LETTER YAT;jSMALL LETTER YAT",
  "jCAPITAL LETTER IOTIFIED E;jSMALL LETTER IOTIFIED E;jCAPITAL LETTER LITTLE YUS",
  "jSMALL LETTER LITTLE YUS;jCAPITAL LETTER IOTIFIED LITTLE YUS",
  "jSMALL LETTER IOTIFIED LITTLE YUS;jCAPITAL LETTER BIG YUS;jSMALL LETTER BIG YUS",
  "jCAPITAL LETTER IOTIFIED BIG YUS;jSMALL LETTER IOTIFIED BIG YUS;jCAPITAL LETTER KSI",
  "jSMALL LETTER KSI;jCAPITAL LETTER PSI;jSMALL LETTER PSI;jCAPITAL LETTER FITA",
  "jSMALL LETTER FITA;jCAPITAL LETTER IZHITSA;jSMALL LETTER IZHITSA",
  "jCAPITAL LETTER IZHITSA WITH DOUBLE GRAVE ACCENT",
  "jSMALL LETTER IZHITSA WITH DOUBLE GRAVE ACCENT;jCAPITAL LETTER UK;jSMALL LETTER UK",
  "jCAPITAL LETTER ROUND OMEGA;jSMALL LETTER ROUND OMEGA;jCAPITAL LETTER OMEGA WITH TITLO",
  "jSMALL LETTER OMEGA WITH TITLO;jCAPITAL LETTER OT;jSMALL LETTER OT;jCAPITAL LETTER KOPPA",
  "jSMALL LETTER KOPPA;jTHOUSANDS SIGN;bOMBINING CYRILLIC TITLO;tPALATALIZATION;tDASIA PNEUMATA",
  "tPSILI PNEUMATA;uOKRYTIE;tHUNDRED THOUSANDS SIGN;tMILLIONS SIGN",
  "bYRILLIC CAPITAL LETTER SHORT I WITH TAIL;jSMALL LETTER SHORT I WITH TAIL",
  "jCAPITAL LETTER SEMISOFT SIGN;jSMALL LETTER SEMISOFT SIGN;jCAPITAL LETTER ER WITH TICK",
  "jSMALL LETTER ER WITH TICK;jCAPITAL LETTER GHE WITH UPTURN;jSMALL LETTER GHE WITH UPTURN",
  "jCAPITAL LETTER GHE WITH STROKE;jSMALL LETTER GHE WITH STROKE",
  "jCAPITAL LETTER GHE WITH MIDDLE HOOK;jSMALL LETTER GHE WITH MIDDLE HOOK",
  "jCAPITAL LETTER ZHE WITH DESCENDER;jSMALL LETTER ZHE WITH DESCENDER",
  "jCAPITAL LETTER ZE WITH DESCENDER;jSMALL LETTER ZE WITH DESCENDER",
  "jCAPITAL LETTER KA WITH DESCENDER;jSMALL LETTER KA WITH DESCENDER",
  "jCAPITAL LETTER KA WITH VERTICAL STROKE;jSMALL LETTER KA WITH VERTICAL STROKE",
  "jCAPITAL LETTER KA WITH STROKE;jSMALL LETTER KA WITH STROKE;jCAPITAL LETTER BASHKIR KA",
  "jSMALL LETTER BASHKIR KA;jCAPITAL LETTER EN WITH DESCENDER;jSMALL LETTER EN WITH DESCENDER",
  "jCAPITAL LIGATURE EN GHE;jSMALL LIGATURE EN GHE;jCAPITAL LETTER PE WITH MIDDLE HOOK",
  "jSMALL LETTER PE WITH MIDDLE HOOK;jCAPITAL LETTER ABKHASIAN HA;jSMALL LETTER ABKHASIAN HA",
  "jCAPITAL LETTER ES WITH DESCENDER;jSMALL LETTER ES WITH DESCENDER",
  "jCAPITAL LETTER TE WITH DESCENDER;jSMALL LETTER TE WITH DESCENDER;jCAPITAL LETTER STRAIGHT U",
  "jSMALL LETTER STRAIGHT U;jCAPITAL LETTER STRAIGHT U WITH STROKE",
  "jSMALL LETTER STRAIGHT U WITH STROKE;jCAPITAL LETTER HA WITH DESCENDER",
  "jSMALL LETTER HA WITH DESCENDER;jCAPITAL LIGATURE TE TSE;jSMALL LIGATURE TE TSE",
  "jCAPITAL LETTER CHE WITH DESCENDER;jSMALL LETTER CHE WITH DESCENDER",
  "jCAPITAL LETTER CHE WITH VERTICAL STROKE;jSMALL LETTER CHE WITH VERTICAL STROKE",
  "jCAPITAL LETTER SHHA;jSMALL LETTER SHHA;jCAPITAL LETTER ABKHASIAN CHE",
  "jSMALL LETTER ABKHASIAN CHE;jCAPITAL LETTER ABKHASIAN CHE WITH DESCENDER",
  "jSMALL LETTER ABKHASIAN CHE WITH DESCENDER;jLETTER PALOCHKA;jCAPITAL LETTER ZHE WITH BREVE",
  "jSMALL LETTER ZHE WITH BREVE;jCAPITAL LETTER KA WITH HOOK;jSMALL LETTER KA WITH HOOK",
  "jCAPITAL LETTER EL WITH TAIL;jSMALL LETTER EL WITH TAIL;jCAPITAL LETTER EN WITH HOOK",
  "jSMALL LETTER EN WITH HOOK;jCAPITAL LETTER EN WITH TAIL;jSMALL LETTER EN WITH TAIL",
  "jCAPITAL LETTER KHAKASSIAN CHE;jSMALL LETTER KHAKASSIAN CHE;jCAPITAL LETTER EM WITH TAIL",
  "jSMALL LETTER EM WITH TAIL;wPALOCHKA;jCAPITAL LETTER A WITH BREVE;jSMALL LETTER A WITH BREVE",
  "jCAPITAL LETTER A WITH DIAERESIS;jSMALL LETTER A WITH DIAERESIS;jCAPITAL LIGATURE A IE",
  "jSMALL LIGATURE A IE;jCAPITAL LETTER IE WITH BREVE;jSMALL LETTER IE WITH BREVE",
  "jCAPITAL LETTER SCHWA;jSMALL LETTER SCHWA;jCAPITAL LETTER SCHWA WITH DIAERESIS",
  "jSMALL LETTER SCHWA WITH DIAERESIS;jCAPITAL LETTER ZHE WITH DIAERESIS",
  "jSMALL LETTER ZHE WITH DIAERESIS;jCAPITAL LETTER ZE WITH DIAERESIS",
  "jSMALL LETTER ZE WITH DIAERESIS;jCAPITAL LETTER ABKHASIAN DZE;jSMALL LETTER ABKHASIAN DZE",
  "jCAPITAL LETTER I WITH MACRON;jSMALL LETTER I WITH MACRON;jCAPITAL LETTER I WITH DIAERESIS",
  "jSMALL LETTER I WITH DIAERESIS;jCAPITAL LETTER O WITH DIAERESIS",
  "jSMALL LETTER O WITH DIAERESIS;jCAPITAL LETTER BARRED O;jSMALL LETTER BARRED O",
  "jCAPITAL LETTER BARRED O WITH DIAERESIS;jSMALL LETTER BARRED O WITH DIAERESIS",
  "jCAPITAL LETTER E WITH DIAERESIS;jSMALL LETTER E WITH DIAERESIS",
  "jCAPITAL LETTER U WITH MACRON;jSMALL LETTER U WITH MACRON;jCAPITAL LETTER U WITH DIAERESIS",
  "jSMALL LETTER U WITH DIAERESIS;jCAPITAL LETTER U WITH DOUBLE ACUTE",
  "jSMALL LETTER U WITH DOUBLE ACUTE;jCAPITAL LETTER CHE WITH DIAERESIS",
  "jSMALL LETTER CHE WITH DIAERESIS;jCAPITAL LETTER GHE WITH DESCENDER",
  "jSMALL LETTER GHE WITH DESCENDER;jCAPITAL LETTER YERU WITH DIAERESIS",
  "jSMALL LETTER YERU WITH DIAERESIS;jCAPITAL LETTER GHE WITH STROKE AND HOOK",
  "jSMALL LETTER GHE WITH STROKE AND HOOK;jCAPITAL LETTER HA WITH HOOK",
  "jSMALL LETTER HA WITH HOOK;jCAPITAL LETTER HA WITH STROKE;jSMALL LETTER HA WITH STROKE",
  "jCAPITAL LETTER KOMI DE;jSMALL LETTER KOMI DE;jCAPITAL LETTER KOMI DJE",
  "jSMALL LETTER KOMI DJE;jCAPITAL LETTER KOMI ZJE;jSMALL LETTER KOMI ZJE",
  "jCAPITAL LETTER KOMI DZJE;jSMALL LETTER KOMI DZJE;jCAPITAL LETTER KOMI LJE",
  "jSMALL LETTER KOMI LJE;jCAPITAL LETTER KOMI NJE;jSMALL LETTER KOMI NJE",
  "jCAPITAL LETTER KOMI SJE;jSMALL LETTER KOMI SJE;jCAPITAL LETTER KOMI TJE",
  "jSMALL LETTER KOMI TJE;jCAPITAL LETTER REVERSED ZE;jSMALL LETTER REVERSED ZE",
  "jCAPITAL LETTER EL WITH HOOK;jSMALL LETTER EL WITH HOOK;jCAPITAL LETTER LHA",
  "jSMALL LETTER LHA;jCAPITAL LETTER RHA;jSMALL LETTER RHA;jCAPITAL LETTER YAE",
  "jSMALL LETTER YAE;jCAPITAL LETTER QA;jSMALL LETTER QA;jCAPITAL LETTER WE;jSMALL LETTER WE",
  "jCAPITAL LETTER ALEUT KA;jSMALL LETTER ALEUT KA;jCAPITAL LETTER EL WITH MIDDLE HOOK",
  "jSMALL LETTER EL WITH MIDDLE HOOK;jCAPITAL LETTER EN WITH MIDDLE HOOK",
  "jSMALL LETTER EN WITH MIDDLE HOOK;jCAPITAL LETTER PE WITH DESCENDER",
  "jSMALL LETTER PE WITH DESCENDER;jCAPITAL LETTER SHHA WITH DESCENDER",
  "jSMALL LETTER SHHA WITH DESCENDER;jCAPITAL LETTER EN WITH LEFT HOOK",
  "jSMALL LETTER EN WITH LEFT HOOK;jCAPITAL LETTER DZZHE;jSMALL LETTER DZZHE",
  "jCAPITAL LETTER DCHE;jSMALL LETTER DCHE;jCAPITAL LETTER EL WITH DESCENDER",
  "jSMALL LETTER EL WITH DESCENDER;+1;aARMENIAN CAPITAL LETTER AYB;yBEN;yGIM;yDA;yECH;yZA;yEH",
  "zT;yTO;yZHE;yINI;yLIWN;yXEH;yCA;yKEN;yHO;yJA;yGHAD;yCHEH;yMEN;yYI;yNOW;ySHA;yVO;yCHA;yPEH",
  "yJHEH;yRA;ySEH;yVEW;yTIWN;yREH;yCO;yYIWN;yPIWR;yKEH;yOH;yFEH;+2",
  "jMODIFIER LETTER LEFT HALF RING;jAPOSTROPHE;jEMPHASIS MARK;kXCLAMATION MARK;jCOMMA",
  "jQUESTION MARK;jABBREVIATION MARK;jSMALL LETTER TURNED AYB;wAYB;wBEN;wGIM;wDA;wECH;wZA;wEH",
  "xT;wTO;wZHE;wINI;wLIWN;wXEH;wCA;wKEN;wHO;wJA;wGHAD;wCHEH;wMEN;wYI;wNOW;wSHA;wVO;wCHA;wPEH",
  "wJHEH;wRA;wSEH;wVEW;wTIWN;wREH;wCO;wYIWN;wPIWR;wKEH;wOH;wFEH;qIGATURE ECH YIWN",
  "qETTER YI WITH STROKE;jFULL STOP;jHYPHEN;+2;aRIGHT-FACING ARMENIAN ETERNITY SIGN",
  "aLEFT-FACING ARMENIAN ETERNITY SIGN;aARMENIAN DRAM SIGN;+1;aHEBREW ACCENT ETNAHTA;oSEGOL",
  "pHALSHELET;oZAQEF QATAN;uGADOL;oTIPEHA;oREVIA;oZARQA;oPASHTA;oYETIV;oTEVIR;oGERESH;u MUQDAM",
  "rSHAYIM;oQARNEY PARA;oTELISHA GEDOLA;oPAZER;oATNAH HAFUKH;oMUNAH;pAHAPAKH;pERKHA;u KEFULA",
  "oDARGA;oQADMA;oTELISHA QETANA;oYERAH BEN YOMO;oOLE;oILUY;oDEHI;oZINOR;hMARK MASORA CIRCLE",
  "hPOINT SHEVA;nHATAF SEGOL;tPATAH;tQAMATS;oIRIQ;nTSERE;nSEGOL;nPATAH;nQAMATS;nHOLAM",
  "s HASER FOR VAV;nQUBUTS;nDAGESH OR MAPIQ;nMETEG;iUNCTUATION MAQAF;iOINT RAFE",
  "iUNCTUATION PASEQ;iOINT SHIN DOT;oIN DOT;iUNCTUATION SOF PASUQ;hMARK UPPER DOT;mLOWER DOT",
  "hPUNCTUATION NUN HAFUKHA;iOINT QAMATS QATAN;+8;hLETTER ALEF;oBET;oGIMEL;oDALET;oHE;oVAV",
  "oZAYIN;oHET;oTET;oYOD;oFINAL KAF;oKAF;oLAMED;oFINAL MEM;oMEM;oFINAL NUN;oNUN;oSAMEKH;oAYIN",
  "oFINAL PE;oPE;oFINAL TSADI;oTSADI;oQOF;oRESH;oSHIN;oTAV;+4;hYOD TRIANGLE",
  "hLIGATURE YIDDISH DOUBLE VAV;yVAV YOD;yDOUBLE YOD;hPUNCTUATION GERESH;wSHAYIM;+b",
  "aARABIC NUMBER SIGN;hSIGN SANAH;hFOOTNOTE MARKER;hSIGN SAFHA;oMVAT;hNUMBER MARK ABOVE",
  "g-INDIC CUBE ROOT;nFOURTH ROOT;g RAY;g-INDIC PER MILLE SIGN;rTEN THOUSAND SIGN;bFGHANI SIGN",
  "bRABIC COMMA;hDATE SEPARATOR;hPOETIC VERSE SIGN;hSIGN MISRA;mSALLALLAHOU ALAYHE WASSALLAM",
  "mALAYHE ASSALLAM;mRAHMATULLAH ALAYHE;oDI ALLAHOU ANHU;mTAKHALLUS;iMALL HIGH TAH",
  "sLIGATURE ALEF WITH LAM WITH YEH;sZAIN;nFATHA;nDAMMA;nKASRA;iEMICOLON;hLETTER MARK",
  "hEND OF TEXT MARK;hTRIPLE DOT PUNCTUATION MARK;hQUESTION MARK;hLETTER KASHMIRI YEH;oHAMZA",
  "oALEF WITH MADDA ABOVE;yHAMZA ABOVE;oWAW WITH HAMZA ABOVE;oALEF WITH HAMZA BELOW",
  "oYEH WITH HAMZA ABOVE;oALEF;oBEH;oTEH MARBUTA;r;pHEH;oJEEM;oHAH;oKHAH;oDAL;oTHAL;oREH;oZAIN",
  "oSEEN;pHEEN;pAD;oDAD;oTAH;oZAH;oAIN;oGHAIN;oKEHEH WITH TWO DOTS ABOVE;AHREE DOTS BELOW",
  "oFARSI YEH WITH INVERTED V;DTWO DOTS ABOVE;EHREE DOTS ABOVE;hTATWEEL;hLETTER FEH;oQAF;oKAF",
  "oLAM;oMEEM;oNOON;oHEH;oWAW;oALEF MAKSURA;oYEH;hFATHATAN;hDAMMATAN;hKASRATAN;hFATHA;hDAMMA",
  "hKASRA;hSHADDA;iUKUN;hMADDAH ABOVE;hHAMZA ABOVE;nBELOW;hSUBSCRIPT ALEF;hINVERTED DAMMA",
  "hMARK NOON GHUNNA;hZWARAKAY;hVOWEL SIGN SMALL V ABOVE;sINVERTED SMALL V ABOVE;sDOT BELOW",
  "hREVERSED DAMMA;hFATHA WITH TWO DOTS;hWAVY HAMZA BELOW;g-INDIC DIGIT ZERO;tONE;tTWO;uHREE",
  "tFOUR;uIVE;tSIX;uEVEN;tEIGHT;tNINE;g PERCENT SIGN;hDECIMAL SEPARATOR;hTHOUSANDS SEPARATOR",
  "hFIVE POINTED STAR;hLETTER DOTLESS BEH;wQAF;oSUPERSCRIPT ALEF;oALEF WASLA",
  "uITH WAVY HAMZA ABOVE;JBELOW;oHIGH HAMZA;y ALEF;zWAW;oU WITH HAMZA ABOVE;oHIGH HAMZA YEH",
  "oTTEH;sEH;oBEEH;oTEH WITH RING;xTHREE DOTS ABOVE DOWNWARDS;oPEH;oTEHEH;oBEHEH",
  "oHAH WITH HAMZA ABOVE;xTWO DOTS VERTICAL ABOVE;oNYEH;oDYEH;oHAH WITH THREE DOTS ABOVE;oTCHEH",
  "tEH;oDDAL;pAL WITH RING;xDOT BELOW;G AND SMALL TAH;qHAL;pDAHAL;pUL",
  "pAL WITH THREE DOTS ABOVE DOWNWARDS;xFOUR DOTS ABOVE;oRREH;pEH WITH SMALL V;xRING;xDOT BELOW",
  "xSMALL V BELOW;xDOT BELOW AND DOT ABOVE;xTWO DOTS ABOVE;oJEH;oREH WITH FOUR DOTS ABOVE",
  "oSEEN WITH DOT BELOW AND DOT ABOVE;yTHREE DOTS BELOW;O AND THREE DOTS ABOVE",
  "pAD WITH TWO DOTS BELOW;yHREE DOTS ABOVE;oTAH WITH THREE DOTS ABOVE",
  "oAIN WITH THREE DOTS ABOVE;oDOTLESS FEH;oFEH WITH DOT MOVED BELOW;BBELOW;oVEH",
  "oFEH WITH THREE DOTS BELOW;oPEHEH;oQAF WITH DOT ABOVE;xTHREE DOTS ABOVE;oKEHEH;oSWASH KAF",
  "oKAF WITH RING;xDOT ABOVE;oNG;oKAF WITH THREE DOTS BELOW;oGAF;r WITH RING;oNGOEH",
  "oGAF WITH TWO DOTS BELOW;pUEH;pAF WITH THREE DOTS ABOVE;oLAM WITH SMALL V;xDOT ABOVE",
  "xTHREE DOTS ABOVE;IBELOW;oNOON WITH DOT BELOW;tGHUNNA;oRNOON;oNOON WITH RING",
  "yTHREE DOTS ABOVE;oHEH DOACHASHMEE;oTCHEH WITH DOT ABOVE;oHEH WITH YEH ABOVE;sGOAL",
  "w WITH HAMZA ABOVE;oTEH MARBUTA GOAL;oWAW WITH RING;oKIRGHIZ OE;oOE;oU;oYU;oKIRGHIZ YU",
  "oWAW WITH TWO DOTS ABOVE;oVE;oFARSI YEH;oYEH WITH TAIL;xSMALL V;oWAW WITH DOT ABOVE;oE",
  "oYEH WITH THREE DOTS BELOW;sBARREE;y WITH HAMZA ABOVE;hFULL STOP;hLETTER AE",
  "hSMALL HIGH LIGATURE SAD WITH LAM WITH ALEF MAKSURA;BQAF WITH LAM WITH ALEF MAKSURA",
  "sMEEM INITIAL FORM;sLAM ALEF;sJEEM;sTHREE DOTS;sSEEN;hEND OF AYAH;hSTART OF RUB EL HIZB",
  "iMALL HIGH ROUNDED ZERO;sUPRIGHT RECTANGULAR ZERO;sDOTLESS HEAD OF KHAH;sMEEM ISOLATED FORM",
  "nLOW SEEN;nHIGH MADDA;nWAW;nYEH;nHIGH YEH;sNOON;hPLACE OF SAJDAH;hEMPTY CENTRE LOW STOP",
  "uHIGH STOP;hROUNDED HIGH STOP WITH FILLED CENTRE;hSMALL LOW MEEM;hLETTER DAL WITH INVERTED V",
  "oREH WITH INVERTED V;aEXTENDED ARABIC-INDIC DIGIT ZERO;CONE;CTWO;DHREE;CFOUR;DIVE;CSIX;DEVEN",
  "CEIGHT;CNINE;aARABIC LETTER SHEEN WITH DOT BELOW;oDAD WITH DOT BELOW;oGHAIN WITH DOT BELOW",
  "hSIGN SINDHI AMPERSAND;tPOSTPOSITION MEN;hLETTER HEH WITH INVERTED V",
  "aSYRIAC END OF PARAGRAPH;hSUPRALINEAR FULL STOP;jBLINEAR FULL STOP;jPRALINEAR COLON",
  "jBLINEAR COLON;hHORIZONTAL COLON;hCOLON SKEWED LEFT;uRIGHT;hSUPRALINEAR COLON SKEWED LEFT",
  "jBLINEAR COLON SKEWED RIGHT;hCONTRACTION;hHARKLEAN OBELUS;qMETOBELUS;qASTERISCUS;+1",
  "hABBREVIATION MARK;hLETTER ALAPH;oSUPERSCRIPT ALAPH;oBETH;oGAMAL;t GARSHUNI;oDALATH",
  "pOTLESS DALATH RISH;oHE;oWAW;oZAIN;oHETH;oTETH;s GARSHUNI;oYUDH;s HE;oKAPH;oLAMADH;oMIM;oNUN",
  "oSEMKATH;oFINAL SEMKATH;oE;oPE;oREVERSED PE;oSADHE;oQAPH;oRISH;oSHIN;oTAW;oPERSIAN BHETH",
  "wGHAMAL;wDHALATH;hPTHAHA ABOVE;oBELOW;oDOTTED;hZQAPHA ABOVE;oBELOW;oDOTTED;hRBASA ABOVE",
  "nBELOW;hDOTTED ZLAMA HORIZONTAL;uANGULAR;hHBASA ABOVE;nBELOW;m-ESASA DOTTED;hESASA ABOVE",
  "nBELOW;hRWAHA;hFEMININE DOT;hQUSHSHAYA;hRUKKAKHA;hTWO VERTICAL DOTS ABOVE;zBELOW",
  "iHREE DOTS ABOVE;sBELOW;hOBLIQUE LINE ABOVE;uBELOW;hMUSIC;hBARREKH;+2;hLETTER SOGDIAN ZHAIN",
  "wKHAPH;wFE;aARABIC LETTER BEH WITH THREE DOTS HORIZONTALLY BELOW",
  "xDOT BELOW AND THREE DOTS ABOVE;xTHREE DOTS POINTING UPWARDS BELOW;ZBELOW AND TWO DOTS ABOVE",
  "yWO DOTS BELOW AND DOT ABOVE;xINVERTED SMALL V BELOW;xSMALL V;oHAH WITH TWO DOTS ABOVE",
  "yHREE DOTS POINTING UPWARDS BELOW;oDAL WITH TWO DOTS VERTICALLY BELOW AND SMALL TAH",
  "xINVERTED SMALL V BELOW;oREH WITH STROKE;oSEEN WITH FOUR DOTS ABOVE;oAIN WITH TWO DOTS ABOVE",
  "yHREE DOTS POINTING DOWNWARDS ABOVE;yWO DOTS VERTICALLY ABOVE;oFEH WITH TWO DOTS BELOW",
  "yHREE DOTS POINTING UPWARDS BELOW;oKEHEH WITH DOT ABOVE;zTHREE DOTS ABOVE",
  "KPOINTING UPWARDS BELOW;oMEEM WITH DOT ABOVE;CBELOW;oNOON WITH TWO DOTS BELOW;ySMALL TAH;EV",
  "oLAM WITH BAR;oREH WITH TWO DOTS VERTICALLY ABOVE;xHAMZA ABOVE",
  "oSEEN WITH TWO DOTS VERTICALLY ABOVE;oHAH WITH SMALL ARABIC LETTER TAH BELOW;VAND TWO DOTS",
  "oSEEN WITH SMALL ARABIC LETTER TAH AND TWO DOTS",
  "oREH WITH SMALL ARABIC LETTER TAH AND TWO DOTS;oHAH WITH SMALL ARABIC LETTER TAH ABOVE",
  "oALEF WITH EXTENDED ARABIC-INDIC DIGIT TWO ABOVE;Z THREE ABOVE",
  "oFARSI YEH WITH EXTENDED ARABIC-INDIC DIGIT TWO ABOVE;ZDIGIT THREE ABOVE;ZDIGIT FOUR BELOW",
  "oWAW WITH EXTENDED ARABIC-INDIC DIGIT TWO ABOVE;ZTHREE ABOVE",
  "oYEH BARREE WITH EXTENDED ARABIC-INDIC DIGIT TWO ABOVE;Z DIGIT THREE ABOVE",
  "oHAH WITH EXTENDED ARABIC-INDIC DIGIT FOUR BELOW",
  "oSEEN WITH EXTENDED ARABIC-INDIC DIGIT FOUR ABOVE;yINVERTED V;oKAF WITH TWO DOTS ABOVE",
  "aTHAANA LETTER HAA;oSHAVIYANI;oNOONU;oRAA;oBAA;oLHAVIYANI;oKAAFU;oALIFU;oVAAVU;oMEEMU;oFAAFU",
  "oDHAALU;oTHAA;oLAAMU;oGAAFU;pNAVIYANI;oSEENU;oDAVIYANI;oZAVIYANI;oTAVIYANI;oYAA;oPAVIYANI",
  "oJAVIYANI;oCHAVIYANI;oTTAA;oHHAA;oKHAA;oTHAALU;oZAA;oSHEENU;pAADHU;oDAADHU;oTO;oZO;oAINU",
  "oGHAINU;oQAAFU;oWAAVU;hABAFILI;iABAAFILI;hIBIFILI;hEEBEEFILI;hUBUFILI;hOOBOOFILI;hEBEFILI",
  "iYBEYFILI;hOBOFILI;iABOAFILI;hSUKUN;hLETTER NAA;+e;aNKO DIGIT ZERO;kONE;kTWO;lHREE;kFOUR",
  "lIVE;kSIX;lEVEN;kEIGHT;kNINE;eLETTER A;lEE;lI;lE;lU;lOO;m;lDAGBASINNA;lN;lBA;lPA;lTA;lJA",
  "lCHA;lDA;lRA;mRA;lSA;lGBA;lFA;lKA;lLA;lNA WOLOSO;lMA;lNYA;mA;lHA;lWA;lYA;lNYA WOLOSO",
  "lJONA JA;qCHA;qRA;eCOMBINING SHORT HIGH TONE;uLOW TONE;uRISING TONE;oLONG DESCENDING TONE",
  "tHIGH TONE;tLOW TONE;tRISING TONE;oNASALIZATION MARK;oDOUBLE DOT ABOVE;eHIGH TONE APOSTROPHE",
  "eLOW TONE APOSTROPHE;eSYMBOL OO DENNEN;lGBAKURUNEN;eCOMMA;eEXCLAMATION MARK;eLAJANYALAN;+2",
  "eDANTAYALAN;fOROME SIGN;eTAMAN SIGN;aSAMARITAN LETTER ALAF;rBIT;rGAMAN;rDALAT;rIY;rBAA;rZEN",
  "rIT;rTIT;rYUT;rKAAF;rLABAT;rMIM;rNUN;rSINGAAT;rIN;rFI;rTSAADIY;rQUF;rRISH;rSHAN;rTAAF",
  "kMARK IN;r-ALAF;pOCCLUSION;pDAGESH;lODIFIER LETTER EPENTHETIC YUT;lARK EPENTHETIC YUT",
  "kVOWEL SIGN LONG E;vE;vOVERLONG AA;vLONG AA;vAA;vOVERLONG A;vLONG A;vA",
  "kMODIFIER LETTER SHORT A;kVOWEL SIGN SHORT A;vLONG U;vU;kMODIFIER LETTER I",
  "kVOWEL SIGN LONG I;vI;vO;vSUKUN;kMARK NEQUDAA;+2;kPUNCTUATION NEQUDAA;wAFSAAQ;xNGED;wBAU",
  "wATMAAU;wSHIYYAALAA;kABBREVIATION MARK;kPUNCTUATION MELODIC QITSA;wZIQAA;wQITSA;wZAEF;wTURU",
  "wARKAANU;wSOF MASHFAAT;wANNAAU;+1;aMANDAIC LETTER HALQA;pAB;qG;qD;qH;pUSHENNA;pAZ;pIT;pATT",
  "qKSA;r;qL;qM;qN;qS;pIN;pAP;qSZ;qQ;qR;qSH;qT;pDUSHENNA;pKAD;pAIN;iAFFRICATION MARK",
  "iVOCALIZATION MARK;iGEMINATION MARK;+2;iPUNCTUATION;+1;aSYRIAC LETTER MALAYALAM NGA;yJA;yNYA",
  "yTTA;yNNA;ANA;yBHA;yRA;yLLA;ALA;ySSA;+5;aARABIC LETTER ALEF WITH ATTACHED FATHA",
  "HTOP RIGHT FATHA;yRIGHT MIDDLE STROKE;yLEFT MIDDLE STROKE;yATTACHED KASRA",
  "HBOTTOM RIGHT KASRA;HROUND DOT ABOVE;IIGHT ROUND DOT;HLEFT ROUND DOT;HROUND DOT BELOW",
  "yDOT ABOVE;yATTACHED TOP RIGHT FATHA AND DOT ABOVE;yRIGHT MIDDLE STROKE AND DOT ABOVE",
  "yATTACHED BOTTOM RIGHT KASRA AND DOT ABOVE;HTOP RIGHT FATHA AND LEFT RING",
  "yRIGHT MIDDLE STROKE AND LEFT RING;yATTACHED BOTTOM RIGHT KASRA AND LEFT RING;HRIGHT HAMZA",
  "HLEFT HAMZA;hTATWEEL WITH OVERSTRUCK HAMZA;FWAW;uTWO DOTS BELOW;hLETTER THIN YEH",
  "hBASELINE ROUND DOT;hRAISED ROUND DOT;hLETTER NOON WITH INVERTED SMALL V",
  "oHAH WITH INVERTED SMALL V BELOW;oTAH WITH DOT BELOW;xTHREE DOTS BELOW",
  "oKEHEH WITH TWO DOTS VERTICALLY BELOW;hVERTICAL TAIL;+1;hPOUND MARK ABOVE;iIASTRE MARK ABOVE",
  "+6;hSMALL HIGH WORD AL-JUZ;nLOW WORD ISHMAAM;xMAALA;wTASHEEL;hMADDA WAAJIB",
  "hSUPERSCRIPT ALEF MOKHASSAS;hDOUBLED MADDA;hHALF MADDA OVER MADDA",
  "hLETTER BEH WITH SMALL V BELOW;xHAMZA ABOVE;oJEEM WITH TWO DOTS ABOVE",
  "oTAH WITH TWO DOTS ABOVE;oFEH WITH DOT BELOW AND THREE DOTS ABOVE;oQAF WITH DOT BELOW",
  "oLAM WITH DOUBLE BAR;oMEEM WITH THREE DOTS ABOVE;oYEH WITH TWO DOTS BELOW AND HAMZA ABOVE",
  "QDOT ABOVE;oREH WITH LOOP;oWAW WITH DOT WITHIN;oROHINGYA YEH;oLOW ALEF",
  "oDAL WITH THREE DOTS BELOW;oSAD WITH THREE DOTS BELOW;oGAF WITH INVERTED STROKE",
  "oSTRAIGHT WAW;oZAIN WITH INVERTED V ABOVE;oAIN WITH THREE DOTS BELOW;oKAF WITH DOT BELOW",
  "oQAF WITH DOT BELOW AND NO DOTS ABOVE;oBEH WITH SMALL MEEM ABOVE;oPEH WITH SMALL MEEM ABOVE",
  "oTEH WITH SMALL TEH ABOVE;oREH WITH SMALL NOON ABOVE",
  "oYEH WITH TWO DOTS BELOW AND SMALL NOON ABOVE;oAFRICAN FEH;wQAF;wNOON;oPEH WITH SMALL V",
  "oTEH WITH SMALL V;pTEH WITH SMALL V;pCHEH WITH SMALL V;oKEHEH WITH SMALL V",
  "oGHAIN WITH THREE DOTS ABOVE;oAFRICAN QAF WITH THREE DOTS ABOVE;oJEEM WITH THREE DOTS ABOVE",
  "JBELOW;oLAM WITH SMALL ARABIC LETTER TAH ABOVE;oGRAF;hSMALL FARSI YEH;nHIGH FARSI YEH",
  "sYEH BARREE WITH TWO DOTS BELOW;sWORD SAH;sZAH;hLARGE ROUND DOT ABOVE;xBELOW;hSUKUN BELOW",
  "hLARGE CIRCLE BELOW;nROUND DOT INSIDE CIRCLE BELOW;hSMALL LOW WAW;nHIGH WORD AR-RUB;sSAD",
  "sAIN;sQAF;sNOON WITH KASRA;nLOW NOON WITH KASRA;nHIGH WORD ATH-THALATHA;yS-SAJDA;yN-NISF",
  "xSAKTA;xQIF;xWAQFA;sFOOTNOTE MARKER;sSIGN SAFHA;hDISPUTED END OF AYAH;hTURNED DAMMA BELOW",
  "hCURLY FATHA;nDAMMA;nKASRA;nFATHATAN;nDAMMATAN;nKASRATAN;hTONE ONE DOT ABOVE;mTWO DOTS ABOVE",
  "mLOOP ABOVE;mONE DOT BELOW;mTWO DOTS BELOW;mLOOP BELOW;hOPEN FATHATAN;mDAMMATAN;mKASRATAN",
  "hSMALL HIGH WAW;hFATHA WITH RING;sDOT ABOVE;hKASRA WITH DOT BELOW;hLEFT ARROWHEAD ABOVE",
  "hRIGHT ARROWHEAD ABOVE;hLEFT ARROWHEAD BELOW;hRIGHT ARROWHEAD BELOW",
  "hDOUBLE RIGHT ARROWHEAD ABOVE;J WITH DOT;hRIGHT ARROWHEAD ABOVE WITH DOT;hDAMMA WITH DOT",
  "hMARK SIDEWAYS NOON GHUNNA;aDEVANAGARI SIGN INVERTED CANDRABINDU;qCANDRABINDU;qANUSVARA",
  "qVISARGA;lLETTER SHORT A;sA;tA;sI;tI;sU;tU;sVOCALIC R;AL;sCANDRA E;sSHORT E;sE;sAI;sCANDRA O",
  "sSHORT O;sO;sAU;sKA;tHA;sGA;tHA;sNGA;sCA;tHA;sJA;tHA;sNYA;sTTA;uHA;sDDA;uHA;sNNA;sTA;tHA;sDA",
  "tHA;sNA;tNNA;sPA;tHA;sBA;tHA;sMA;sYA;sRA;tRA;sLA;tLA;uLA;sVA;sSHA;tSA;tA;sHA;lVOWEL SIGN OE",
  "xOE;lSIGN NUKTA;qAVAGRAHA;lVOWEL SIGN AA;wI;xI;wU;xU;wVOCALIC R;FR;wCANDRA E;wSHORT E;wE;wAI",
  "wCANDRA O;wSHORT O;wO;wAU;lSIGN VIRAMA;lVOWEL SIGN PRISHTHAMATRA E;wAW;lOM",
  "lSTRESS SIGN UDATTA;xANUDATTA;lGRAVE ACCENT;lACUTE ACCENT;lVOWEL SIGN CANDRA LONG E;wUE;xUE",
  "lLETTER QA;sKHHA;sGHHA;sZA;sDDDHA;sRHA;sFA;sYYA;sVOCALIC RR;ALL;lVOWEL SIGN VOCALIC L;FL",
  "lDANDA;mOUBLE DANDA;mIGIT ZERO;rONE;rTWO;sHREE;rFOUR;sIVE;rSIX;sEVEN;rEIGHT;rNINE",
  "lABBREVIATION SIGN;lSIGN HIGH SPACING DOT;lLETTER CANDRA A;sOE;tOE;sAW;sUE;tUE;sMARWARI DDA",
  "sZHA;sHEAVY YA;sGGA;sJJA;sGLOTTAL STOP;sDDDA;sBBA;aBENGALI ANJI;iSIGN CANDRABINDU;nANUSVARA",
  "nVISARGA;+1;iLETTER A;qA;pI;qI;pU;qU;pVOCALIC R;xL;+2;pE;pAI;+2;pO;pAU;pKA;qHA;pGA;qHA;pNGA",
  "pCA;qHA;pJA;qHA;pNYA;pTTA;rHA;pDDA;rHA;pNNA;pTA;qHA;pDA;qHA;pNA;+1;pPA;qHA;pBA;qHA;pMA;pYA",
  "pRA;+1;pLA;+3;pSHA;qSA;qA;pHA;+2;iSIGN NUKTA;nAVAGRAHA;iVOWEL SIGN AA;tI;uI;tU;uU;tVOCALIC R",
  "CR;+2;tE;tAI;+2;tO;tAU;iSIGN VIRAMA;iLETTER KHANDA TA;+8;iAU LENGTH MARK;+4;iLETTER RRA;qHA",
  "+1;pYYA;pVOCALIC RR;xLL;iVOWEL SIGN VOCALIC L;CL;+2;iDIGIT ZERO;oONE;oTWO;pHREE;oFOUR;pIVE",
  "oSIX;pEVEN;oEIGHT;oNINE;iLETTER RA WITH MIDDLE DIAGONAL;xLOWER DIAGONAL;iRUPEE MARK;oSIGN",
  "iCURRENCY NUMERATOR ONE;BTWO;CHREE;BFOUR;BONE LESS THAN THE DENOMINATOR;rDENOMINATOR SIXTEEN",
  "iISSHAR;iGANDA MARK;iLETTER VEDIC ANUSVARA;iABBREVIATION SIGN;iSANDHI MARK;+2",
  "aGURMUKHI SIGN ADAK BINDI;oBINDI;oVISARGA;+1;jLETTER A;rA;qI;rI;qU;rU;+4;qEE;qAI;+2;qOO;qAU",
  "qKA;rHA;qGA;rHA;qNGA;qCA;rHA;qJA;rHA;qNYA;qTTA;sHA;qDDA;sHA;qNNA;qTA;rHA;qDA;rHA;qNA;+1;qPA",
  "rHA;qBA;rHA;qMA;qYA;qRA;+1;qLA;rLA;+1;qVA;qSHA;+1;rA;qHA;+2;jSIGN NUKTA;+1;jVOWEL SIGN AA;uI",
  "vI;uU;vU;+4;uEE;uAI;+2;uOO;uAU;jSIGN VIRAMA;+3;oUDAAT;+7;jLETTER KHHA;qGHHA;qZA;qRRA;+1;qFA",
  "+7;jDIGIT ZERO;pONE;pTWO;qHREE;pFOUR;qIVE;pSIX;qEVEN;pEIGHT;pNINE;jTIPPI;jADDAK;jIRI;jURA",
  "jEK ONKAR;jSIGN YAKASH;jABBREVIATION SIGN;+a;cJARATI SIGN CANDRABINDU;oANUSVARA;oVISARGA;+1",
  "jLETTER A;rA;qI;rI;qU;rU;qVOCALIC R;yL;jVOWEL CANDRA E;+1;jLETTER E;qAI;jVOWEL CANDRA O;+1",
  "jLETTER O;qAU;qKA;rHA;qGA;rHA;qNGA;qCA;rHA;qJA;rHA;qNYA;qTTA;sHA;qDDA;sHA;qNNA;qTA;rHA;qDA",
  "rHA;qNA;+1;qPA;rHA;qBA;rHA;qMA;qYA;qRA;+1;qLA;rLA;+1;qVA;qSHA;rSA;rA;qHA;+2;jSIGN NUKTA",
  "oAVAGRAHA;jVOWEL SIGN AA;uI;vI;uU;vU;uVOCALIC R;DR;uCANDRA E;+1;uE;uAI;uCANDRA O;+1;uO;uAU",
  "jSIGN VIRAMA;+2;jOM;+f;jLETTER VOCALIC RR;yLL;jVOWEL SIGN VOCALIC L;DL;+2;jDIGIT ZERO;pONE",
  "pTWO;qHREE;pFOUR;qIVE;pSIX;qEVEN;pEIGHT;pNINE;jABBREVIATION SIGN;jRUPEE SIGN;+7;jLETTER ZHA",
  "jSIGN SUKUN;pHADDA;oMADDAH;oTHREE-DOT NUKTA ABOVE;oCIRCLE NUKTA ABOVE",
  "oTWO-CIRCLE NUKTA ABOVE;+1;aORIYA SIGN CANDRABINDU;lANUSVARA;lVISARGA;+1;gLETTER A;oA;nI;oI",
  "nU;oU;nVOCALIC R;vL;+2;nE;nAI;+2;nO;nAU;nKA;oHA;nGA;oHA;nNGA;nCA;oHA;nJA;oHA;nNYA;nTTA;pHA",
  "nDDA;pHA;nNNA;nTA;oHA;nDA;oHA;nNA;+1;nPA;oHA;nBA;oHA;nMA;nYA;nRA;+1;nLA;oLA;+1;nVA;nSHA;oSA",
  "oA;nHA;+2;gSIGN NUKTA;lAVAGRAHA;gVOWEL SIGN AA;rI;sI;rU;sU;rVOCALIC R;AR;+2;rE;rAI;+2;rO;rAU",
  "gSIGN VIRAMA;+7;lOVERLINE;gAI LENGTH MARK;hU LENGTH MARK;+4;gLETTER RRA;oHA;+1;nYYA",
  "nVOCALIC RR;vLL;gVOWEL SIGN VOCALIC L;AL;+2;gDIGIT ZERO;mONE;mTWO;nHREE;mFOUR;nIVE;mSIX",
  "nEVEN;mEIGHT;mNINE;gISSHAR;gLETTER WA;gFRACTION ONE QUARTER;tHALF;pTHREE QUARTERS",
  "pONE SIXTEENTH;tEIGHTH;pTHREE SIXTEENTHS;+a;aTAMIL SIGN ANUSVARA;lVISARGA;+1;gLETTER A;oA;nI",
  "oI;nU;oU;+3;nE;oE;nAI;+1;nO;oO;nAU;nKA;+3;nNGA;nCA;+1;nJA;+1;nNYA;nTTA;+3;nNNA;nTA;+3;nNA",
  "oNNA;nPA;+3;nMA;nYA;nRA;oRA;nLA;oLA;pLA;nVA;nSHA;oSA;oA;nHA;+4;gVOWEL SIGN AA;rI;sI;rU;sU;+3",
  "rE;sE;rAI;+1;rO;sO;rAU;gSIGN VIRAMA;+2;gOM;+6;gAU LENGTH MARK;+e;gDIGIT ZERO;mONE;mTWO;nHREE",
  "mFOUR;nIVE;mSIX;nEVEN;mEIGHT;mNINE;gNUMBER TEN;nONE HUNDRED;rTHOUSAND;gDAY SIGN;gMONTH SIGN",
  "gYEAR SIGN;gDEBIT SIGN;gCREDIT SIGN;gAS ABOVE SIGN;gRUPEE SIGN;gNUMBER SIGN;+5",
  "bELUGU SIGN COMBINING CANDRABINDU ABOVE;nANDRABINDU;mANUSVARA;mVISARGA",
  "mCOMBINING ANUSVARA ABOVE;hLETTER A;pA;oI;pI;oU;pU;oVOCALIC R;wL;+1;oE;pE;oAI;+1;oO;pO;oAU",
  "oKA;pHA;oGA;pHA;oNGA;oCA;pHA;oJA;pHA;oNYA;oTTA;qHA;oDDA;qHA;oNNA;oTA;pHA;oDA;pHA;oNA;+1;oPA",
  "pHA;oBA;pHA;oMA;oYA;oRA;pRA;oLA;pLA;qLA;oVA;oSHA;pSA;pA;oHA;+2;hSIGN NUKTA;mAVAGRAHA",
  "hVOWEL SIGN AA;sI;tI;sU;tU;sVOCALIC R;BR;+1;sE;tE;sAI;+1;sO;tO;sAU;hSIGN VIRAMA;+7",
  "hLENGTH MARK;hAI LENGTH MARK;+1;hLETTER TSA;oDZA;oRRRA;+2;oNAKAARA POLLU;+2;oVOCALIC RR;wLL",
  "hVOWEL SIGN VOCALIC L;BL;+2;hDIGIT ZERO;nONE;nTWO;oHREE;nFOUR;oIVE;nSIX;oEVEN;nEIGHT;nNINE",
  "+7;hSIGN SIDDHAM;hFRACTION DIGIT ZERO FOR ODD POWERS OF FOUR;wONE FOR ODD POWERS OF FOUR",
  "wTWO FOR ODD POWERS OF FOUR;xHREE FOR ODD POWERS OF FOUR;wONE FOR EVEN POWERS OF FOUR",
  "wTWO FOR EVEN POWERS OF FOUR;xHREE FOR EVEN POWERS OF FOUR;hSIGN TUUMU",
  "aKANNADA SIGN SPACING CANDRABINDU;nCANDRABINDU;nANUSVARA;nVISARGA;nSIDDHAM;iLETTER A;qA;pI",
  "qI;pU;qU;pVOCALIC R;xL;+1;pE;qE;pAI;+1;pO;qO;pAU;pKA;qHA;pGA;qHA;pNGA;pCA;qHA;pJA;qHA;pNYA",
  "pTTA;rHA;pDDA;rHA;pNNA;pTA;qHA;pDA;qHA;pNA;+1;pPA;qHA;pBA;qHA;pMA;pYA;pRA;qRA;pLA;qLA;+1;pVA",
  "pSHA;qSA;qA;pHA;+2;iSIGN NUKTA;nAVAGRAHA;iVOWEL SIGN AA;tI;uI;tU;uU;tVOCALIC R;CR;+1;tE;uE",
  "tAI;+1;tO;uO;tAU;iSIGN VIRAMA;+7;iLENGTH MARK;iAI LENGTH MARK;+6;iLETTER NAKAARA POLLU;pFA",
  "+1;pVOCALIC RR;xLL;iVOWEL SIGN VOCALIC L;CL;+2;iDIGIT ZERO;oONE;oTWO;pHREE;oFOUR;pIVE;oSIX",
  "pEVEN;oEIGHT;oNINE;+1;iSIGN JIHVAMULIYA;nUPADHMANIYA;+d",
  "aMALAYALAM SIGN COMBINING ANUSVARA ABOVE;qANDRABINDU;pANUSVARA;pVISARGA",
  "kLETTER VEDIC ANUSVARA;rA;sA;rI;sI;rU;sU;rVOCALIC R;zL;+1;rE;sE;rAI;+1;rO;sO;rAU;rKA;sHA;rGA",
  "sHA;rNGA;rCA;sHA;rJA;sHA;rNYA;rTTA;tHA;rDDA;tHA;rNNA;rTA;sHA;rDA;sHA;rNA;sNNA;rPA;sHA;rBA",
  "sHA;rMA;rYA;rRA;sRA;rLA;sLA;tLA;rVA;rSHA;sSA;sA;rHA;rTTTA;kSIGN VERTICAL BAR VIRAMA",
  "pCIRCULAR VIRAMA;pAVAGRAHA;kVOWEL SIGN AA;vI;wI;vU;wU;vVOCALIC R;ER;+1;vE;wE;vAI;+1;vO;wO",
  "vAU;kSIGN VIRAMA;kLETTER DOT REPH;kSIGN PARA;+4;kLETTER CHILLU M;yY;yLLL;kAU LENGTH MARK",
  "kFRACTION ONE ONE-HUNDRED-AND-SIXTIETH;xFORTIETH;tTHREE EIGHTIETHS;tONE TWENTIETH;yENTH",
  "tTHREE TWENTIETHS;tONE FIFTH;kLETTER ARCHAIC II;rVOCALIC RR;zLL;kVOWEL SIGN VOCALIC L;EL;+2",
  "kDIGIT ZERO;qONE;qTWO;rHREE;qFOUR;rIVE;qSIX;rEVEN;qEIGHT;qNINE;kNUMBER TEN;rONE HUNDRED",
  "vTHOUSAND;kFRACTION ONE QUARTER;xHALF;tTHREE QUARTERS;tONE SIXTEENTH;xEIGHTH",
  "tTHREE SIXTEENTHS;kDATE MARK;kLETTER CHILLU NN;z;yRR;yL;zL;yK;+1;aSINHALA SIGN CANDRABINDU",
  "nANUSVARAYA;nVISARGAYA;+1;iLETTER AYANNA;qAYANNA;qEYANNA;rEYANNA;pIYANNA;qIYANNA;pUYANNA",
  "qUYANNA;pIRUYANNA;sUYANNA;qLUYANNA;sUYANNA;pEYANNA;qEYANNA;pAIYANNA;pOYANNA;qOYANNA;pAUYANNA",
  "+3;qLPAPRAANA KAYANNA;pMAHAAPRAANA KAYANNA;pALPAPRAANA GAYANNA;pMAHAAPRAANA GAYANNA",
  "pKANTAJA NAASIKYAYA;pSANYAKA GAYANNA;pALPAPRAANA CAYANNA;pMAHAAPRAANA CAYANNA",
  "pALPAPRAANA JAYANNA;pMAHAAPRAANA JAYANNA;pTAALUJA NAASIKYAYA;xSANYOOGA NAAKSIKYAYA",
  "pSANYAKA JAYANNA;pALPAPRAANA TTAYANNA;pMAHAAPRAANA TTAYANNA;pALPAPRAANA DDAYANNA",
  "pMAHAAPRAANA DDAYANNA;qUURDHAJA NAYANNA;pSANYAKA DDAYANNA;pALPAPRAANA TAYANNA",
  "pMAHAAPRAANA TAYANNA;pALPAPRAANA DAYANNA;pMAHAAPRAANA DAYANNA;pDANTAJA NAYANNA;+1",
  "pSANYAKA DAYANNA;pALPAPRAANA PAYANNA;pMAHAAPRAANA PAYANNA;pALPAPRAANA BAYANNA",
  "pMAHAAPRAANA BAYANNA;rYANNA;pAMBA BAYANNA;pYAYANNA;pRAYANNA;+1;pDANTAJA LAYANNA;+2;pVAYANNA",
  "pTAALUJA SAYANNA;pMUURDHAJA SAYANNA;pDANTAJA SAYANNA;pHAYANNA;pMUURDHAJA LAYANNA;pFAYANNA;+3",
  "iSIGN AL-LAKUNA;+4;iVOWEL SIGN AELA-PILLA;tKETTI AEDA-PILLA;tDIGA AEDA-PILLA;tKETTI IS-PILLA",
  "tDIGA IS-PILLA;tKETTI PAA-PILLA;+1;tDIGA PAA-PILLA;+1;tGAETTA-PILLA;tKOMBUVA;tDIGA KOMBUVA",
  "tKOMBU DEKA;yVA HAA AELA-PILLA;FDIGA AELA-PILLA;FGAYANUKITTA;tGAYANUKITTA;+6",
  "iLITH DIGIT ZERO;tONE;tTWO;uHREE;tFOUR;uIVE;tSIX;uEVEN;tEIGHT;tNINE;+2",
  "iVOWEL SIGN DIGA GAETTA-PILLA;AYANUKITTA;iPUNCTUATION KUNDDALIYA;+c;aTHAI CHARACTER KO KAI",
  "qHO KHAI;vUAT;vWAI;vON;tRAKHANG;pNGO NGU;pCHO CHAN;vING;vANG;pSO SO;pCHO CHOE;pYO YING",
  "pDO CHADA;pTO PATAK;qHO THAN;tNANGMONTHO;tPHUTHAO;pNO NEN;pDO DEK;pTO TAO;qHO THUNG;vAHAN",
  "vONG;pNO NU;pBO BAIMAI;pPO PLA;qHO PHUNG;pFO FA;pPHO PHAN;pFO FAN;pPHO SAMPHAO;pMO MA",
  "pYO YAK;pRO RUA;qU;pLO LING;qU;pWO WAEN;pSO SALA;sRUSI;sSUA;pHO HIP;pLO CHULA;pO ANG",
  "pHO NOKHUK;pPAIYANNOI;pSARA A;pMAI HAN-AKAT;pSARA AA;vM;uI;vI;uUE;wE;v;vU;pPHINTHU;+4",
  "gURRENCY SYMBOL BAHT;gHARACTER SARA E;uAE;uO;uAI MAIMUAN;BALAI;pLAKKHANGYAO;pMAIYAMOK",
  "sTAIKHU;s EK;tTHO;uRI;tCHATTAWA;pTHANTHAKHAT;pNIKHAHIT;pYAMAKKAN;pFONGMAN;fDIGIT ZERO;lONE",
  "lTWO;mHREE;lFOUR;mIVE;lSIX;mEVEN;lEIGHT;lNINE;fCHARACTER ANGKHANKHU;pKHOMUT;+25",
  "aLAO LETTER KO;mHO SUNG;+1;pTAM;+1;lPALI GHA;lNGO;lCO;lPALI CHA;lSO TAM;+1;lPALI JHA;lNYO",
  "lPALI NYA;qTTA;sHA;qDDA;sHA;qNNA;lDO;lTO;mHO SUNG;pTAM;lPALI DHA;lNO;lBO;lPO;mHO SUNG",
  "lFO TAM;lPHO TAM;lFO SUNG;lPALI BHA;lMO;lYO;lLO LING;+1;pOOT;+1;lWO;lSANSKRIT SHA;vSA",
  "mO SUNG;lHO SUNG;lPALI LLA;lO;lHO TAM;eELLIPSIS;eVOWEL SIGN A;pMAI KAN;pAA;qM;pI;qI;pY;qY;pU",
  "qU;eSIGN PALI VIRAMA;eVOWEL SIGN MAI KON;eSEMIVOWEL SIGN LO;tNYO;+2;eVOWEL SIGN E;qI;pO;pAY",
  "qI;+1;eKO LA;+1;eTONE MAI EK;nTHO;oI;nCATAWA;eCANCELLATION MARK;eNIGGAHITA;+2;eDIGIT ZERO",
  "kONE;kTWO;lHREE;kFOUR;lIVE;kSIX;lEVEN;kEIGHT;kNINE;+2;eHO NO;hMO;eLETTER KHMU GO;qNYO;+20",
  "aTIBETAN SYLLABLE OM;iMARK GTER YIG MGO TRUNCATED A;A-UM RNAM BCAD MA;EGTER TSHEG MA",
  "nINITIAL YIG MGO MDUN MA;nCLOSING YIG MGO SGAB MA;oARET YIG MGO PHUR SHAD MA",
  "nYIG MGO TSHEG SHAD MA;nSBRUL SHAD;nBSKUR YIG MGO;oKA- SHOG YIG MGO;nINTERSYLLABIC TSHEG",
  "nDELIMITER TSHEG BSTAR;nSHAD;nNYIS SHAD;nTSHEG SHAD;nNYIS TSHEG SHAD;nRIN CHEN SPUNGS SHAD",
  "oGYA GRAM SHAD;nCARET -DZUD RTAGS ME LONG CAN;nGTER TSHEG;iLOGOTYPE SIGN CHAD RTAGS",
  "wLHAG RTAGS;iASTROLOGICAL SIGN SGRA GCAN -CHAR RTAGS;A-KHYUD PA;ASDONG TSHUGS",
  "iSIGN RDEL DKAR GCIG;yNYIS;ySUM;sNAG GCIG;xNYIS;sDKAR RDEL NAG;iDIGIT ZERO;oONE;oTWO;pHREE",
  "oFOUR;pIVE;oSIX;pEVEN;oEIGHT;oNINE;oHALF ONE;tTWO;uHREE;tFOUR;uIVE;tSIX;uEVEN;tEIGHT;tNINE",
  "tZERO;iMARK BSDUS RTAGS;nNGAS BZUNG NYI ZLA;nCARET -DZUD RTAGS BZHI MIG CAN",
  "nNGAS BZUNG SGOR RTAGS;nCHE MGO;nTSA -PHRU;nGUG RTAGS GYON;zAS;nANG KHANG GYON;zAS",
  "iSIGN YAR TSHES;nMAR TSHES;iLETTER KA;qHA;pGA;qHA;pNGA;pCA;qHA;pJA;+1;pNYA;pTTA;rHA;pDDA;rHA",
  "pNNA;pTA;qHA;pDA;qHA;pNA;pPA;qHA;pBA;qHA;pMA;pTSA;rHA;pDZA;rHA;pWA;pZHA;qA;p-A;pYA;pRA;pLA",
  "pSHA;qSA;qA;pHA;pA;pKSSA;pFIXED-FORM RA;pKKA;pRRA;+4;iVOWEL SIGN AA;tI;uI;tU;uU;tVOCALIC R",
  "CR;BL;CL;tE;uE;tO;uO;iSIGN RJES SU NGA RO;oNAM BCAD;iVOWEL SIGN REVERSED I;DI",
  "iSIGN NYI ZLA NAA DA;nSNA LDAN;iMARK HALANTA;nPALUTA;iSIGN LCI RTAGS;nYANG RTAGS",
  "nLCE TSA CAN;nMCHU CAN;nGRU CAN RGYINGS;rMED RGYINGS;nINVERTED MCHU CAN",
  "jUBJOINED SIGN LCE TSA CAN;xMCHU CAN;xINVERTED MCHU CAN;sLETTER KA;AHA;zGA;AHA;zNGA;zCA;AHA",
  "zJA;+1;zNYA;zTTA;BHA;zDDA;BHA;zNNA;zTA;AHA;zDA;AHA;zNA;zPA;AHA;zBA;AHA;zMA;zTSA;BHA;zDZA;BHA",
  "zWA;zZHA;AA;z-A;zYA;zRA;zLA;zSHA;ASA;AA;zHA;zA;zKSSA;zFIXED-FORM WA;KYA;KRA;+1;iKU RU KHA",
  "r BZHI MIG CAN;iCANTILLATION SIGN HEAVY BEAT;ALIGHT BEAT;ACANG TE-U;ASBUB -CHAL",
  "iSYMBOL DRIL BU;pRDO RJE;pPADMA GDAN;pRDO RJE RGYA GRAM;pPHUR PA;pNOR BU;v NYIS -KHYIL",
  "wGSUM -KHYIL;wBZHI -KHYIL;+1;jIGN RDEL NAG RDEL DKAR;wGSUM;iMARK BSKA- SHOG GI MGO RGYAN",
  "nMNYAM YIG GI MGO RGYAN;nNYIS TSHEG;nINITIAL BRDA RNYING YIG MGO MDUN MA",
  "nCLOSING BRDA RNYING YIG MGO SGAB MA;aRIGHT-FACING SVASTI SIGN;aLEFT-FACING SVASTI SIGN",
  "aRIGHT-FACING SVASTI SIGN WITH DOTS;aLEFT-FACING SVASTI SIGN WITH DOTS",
  "aTIBETAN MARK LEADING MCHAN RTAGS;nTRAILING MCHAN RTAGS;+25;aMYANMAR LETTER KA;qHA;pGA;qHA",
  "pNGA;pCA;qHA;pJA;qHA;pNYA;qNYA;pTTA;rHA;pDDA;rHA;pNNA;pTA;qHA;pDA;qHA;pNA;pPA;qHA;pBA;qHA",
  "pMA;pYA;pRA;pLA;pWA;pSA;pHA;pLLA;pA;pSHAN A;pI;qI;pU;qU;pE;pMON E;pO;pAU;iVOWEL SIGN TALL AA",
  "tAA;tI;uI;tU;uU;tE;tAI;tMON II;xO;tE ABOVE;iSIGN ANUSVARA;nDOT BELOW;nVISARGA;pRAMA;nASAT",
  "iCONSONANT SIGN MEDIAL YA;ERA;EWA;EHA;iLETTER GREAT SA;iDIGIT ZERO;oONE;oTWO;pHREE;oFOUR",
  "pIVE;oSIX;pEVEN;oEIGHT;oNINE;iSIGN LITTLE SECTION;nSECTION;jYMBOL LOCATIVE;pCOMPLETED",
  "pAFOREMENTIONED;pGENITIVE;iLETTER SHA;qSA;pVOCALIC R;yR;xL;yL;iVOWEL SIGN VOCALIC R;CR;BL;CL",
  "iLETTER MON NGA;tJHA;tBBA;vE;iCONSONANT SIGN MON MEDIAL NA;IMA;ILA;iLETTER SGAW KAREN SHA",
  "iVOWEL SIGN SGAW KAREN EU;iTONE MARK SGAW KAREN HATHI;DKE PHO;iLETTER WESTERN PWO KAREN THA",
  "HPWA;iVOWEL SIGN WESTERN PWO KAREN EU;LUE;iSIGN WESTERN PWO KAREN TONE-1;K2;K3;K4;K5",
  "iLETTER EASTERN PWO KAREN NNA;HYWA;HGHWA;iVOWEL SIGN GEBA KAREN I;tKAYAH OE;zU;zEE",
  "iLETTER SHAN KA;vHA;uGA;uCA;uZA;uNYA;uDA;uNA;uPHA;uFA;uBA;uTHA;uHA",
  "iCONSONANT SIGN SHAN MEDIAL WA;iVOWEL SIGN SHAN AA;yE;z ABOVE;yFINAL Y;iSIGN SHAN TONE-2;x3",
  "x5;x6;sCOUNCIL TONE-2;F3;AEMPHATIC TONE;iLETTER RUMAI PALAUNG FA;iSIGN RUMAI PALAUNG TONE-5",
  "jHAN DIGIT ZERO;tONE;tTWO;uHREE;tFOUR;uIVE;tSIX;uEVEN;tEIGHT;tNINE;jIGN KHAMTI TONE-1;z3",
  "iVOWEL SIGN AITON A;AI;iSYMBOL SHAN ONE;uEXCLAMATION;aGEORGIAN CAPITAL LETTER AN;yBAN;yGAN",
  "yDON;yEN;yVIN;yZEN;yTAN;yIN;yKAN;yLAS;yMAN;yNAR;yON;yPAR;yZHAR;yRAE;ySAN;yTAR;yUN;yPHAR",
  "yKHAR;yGHAN;yQAR;ySHIN;yCHIN;zAN;yJIL;yCIL;zHAR;yXAN;yJHAN;yHAE;zE;zIE;yWE;yHAR;zOE;+1;yYN",
  "+5;yAEN;+2;jLETTER AN;qBAN;qGAN;qDON;qEN;qVIN;qZEN;qTAN;qIN;qKAN;qLAS;qMAN;qNAR;qON;qPAR",
  "qZHAR;qRAE;qSAN;qTAR;qUN;qPHAR;qKHAR;qGHAN;qQAR;qSHIN;qCHIN;rAN;qJIL;qCIL;rHAR;qXAN;qJHAN",
  "qHAE;rE;rIE;qWE;qHAR;rOE;qFI;qYN;qELIFI;qTURNED GAN;qAIN;jPARAGRAPH SEPARATOR",
  "aMODIFIER LETTER GEORGIAN NAR;aGEORGIAN LETTER AEN;qHARD SIGN;qLABIAL SIGN",
  "aHANGUL CHOSEONG KIYEOK;qSSANGKIYEOK;qNIEUN;qTIKEUT;qSSANGTIKEUT;qRIEUL;qMIEUM;qPIEUP",
  "qSSANGPIEUP;rIOS;rSANGSIOS;qIEUNG;qCIEUC;qSSANGCIEUC;qCHIEUCH;qKHIEUKH;qTHIEUTH;qPHIEUPH",
  "qHIEUH;qNIEUN-KIYEOK;qSSANGNIEUN;qNIEUN-TIKEUT;wPIEUP;qTIKEUT-KIYEOK;qRIEUL-NIEUN",
  "qSSANGRIEUL;qRIEUL-HIEUH;qKAPYEOUNRIEUL;qMIEUM-PIEUP;qKAPYEOUNMIEUM;qPIEUP-KIYEOK;wNIEUN",
  "wTIKEUT;wSIOS;A-KIYEOK;BTIKEUT;BPIEUP;xSANGSIOS;xIOS-CIEUC;wCIEUC;xHIEUCH;wTHIEUTH;wPHIEUPH"]

def characterNameEntriesB : List String := [
  "qKAPYEOUNPIEUP;ySSANGPIEUP;qSIOS-KIYEOK;vNIEUN;vTIKEUT;vRIEUL;vMIEUM;vPIEUP;A-KIYEOK",
  "vSSANGSIOS;vIEUNG;vCIEUC;wHIEUCH;vKHIEUKH;vTHIEUTH;vPHIEUPH;vHIEUH;qCHITUEUMSIOS;zSANGSIOS",
  "rEONGCHIEUMSIOS;CSANGSIOS;qPANSIOS;qIEUNG-KIYEOK;wTIKEUT;wMIEUM;wPIEUP;wSIOS;wPANSIOS",
  "qSSANGIEUNG;qIEUNG-CIEUC;xHIEUCH;wTHIEUTH;wPHIEUPH;qYESIEUNG;qCIEUC-IEUNG;rHITUEUMCIEUC",
  "ySSANGCIEUC;rEONGCHIEUMCIEUC;BSSANGCIEUC;rHIEUCH-KHIEUKH;yHIEUH;tTUEUMCHIEUCH",
  "rEONGCHIEUMCHIEUCH;qPHIEUPH-PIEUP;qKAPYEOUNPHIEUPH;qSSANGHIEUH;qYEORINHIEUH;qKIYEOK-TIKEUT",
  "qNIEUN-SIOS;wCIEUC;wHIEUH;qTIKEUT-RIEUL;qFILLER;hJUNGSEONG FILLER;rA;sE;rYA;tE;rEO;s;rYEO;t",
  "rO;rWA;tE;rOE;rYO;rU;rWEO;t;sI;rYU;rEU;rYI;rI;rA-O;tU;rYA-O;uYO;rEO-O;uU;uEU;rYEO-O;vU;rO-EO",
  "u;tYE;tO;tU;rYO-YA;wE;vEO;uO;uI;rU-A;uE;tEO-EU;tYE;tU;rYU-A;uEO;v;uYEO;w;uU;uI;rEU-U;uEU",
  "rYI-U;rI-A;tYA;tO;tU;tEU;tARAEA;rARAEA;w-EO;xU;xI;rSSANGARAEA;rA-EU;rYA-U;sEO-YA;rO-YA;vE",
  "iONGSEONG KIYEOK;rSSANGKIYEOK;rKIYEOK-SIOS;rNIEUN;w-CIEUC;xHIEUH;rTIKEUT;rRIEUL;w-KIYEOK",
  "xMIEUM;xPIEUP;xSIOS;xTHIEUTH;xPHIEUPH;xHIEUH;rMIEUM;rPIEUP;w-SIOS;rSIOS;sSANGSIOS;rIEUNG",
  "rCIEUC;sHIEUCH;rKHIEUKH;rTHIEUTH;rPHIEUPH;rHIEUH;rKIYEOK-RIEUL;ySIOS-KIYEOK;rNIEUN-KIYEOK",
  "xTIKEUT;xSIOS;xPANSIOS;xTHIEUTH;rTIKEUT-KIYEOK;yRIEUL;rRIEUL-KIYEOK-SIOS;xNIEUN;xTIKEUT",
  "D-HIEUH;rSSANGRIEUL;rRIEUL-MIEUM-KIYEOK;DSIOS;xPIEUP-SIOS;DHIEUH;xKAPYEOUNPIEUP;xSSANGSIOS",
  "xPANSIOS;xKHIEUKH;xYEORINHIEUH;rMIEUM-KIYEOK;xRIEUL;xPIEUP;xSIOS;ySANGSIOS;xPANSIOS;xCHIEUCH",
  "xHIEUH;rKAPYEOUNMIEUM;rPIEUP-RIEUL;xPHIEUPH;xHIEUH;rKAPYEOUNPIEUP;rSIOS-KIYEOK;wTIKEUT",
  "wRIEUL;wPIEUP;rPANSIOS;rIEUNG-KIYEOK;xSSANGKIYEOK;rSSANGIEUNG;rIEUNG-KHIEUKH;rYESIEUNG",
  "z-SIOS;APANSIOS;rPHIEUPH-PIEUP;rKAPYEOUNPHIEUPH;rHIEUH-NIEUN;xRIEUL;xMIEUM;xPIEUP",
  "rYEORINHIEUH;rKIYEOK-NIEUN;yPIEUP;yCHIEUCH;yKHIEUKH;yHIEUH;rSSANGNIEUN;aETHIOPIC SYLLABLE HA",
  "tU;tI;tAA;tEE;u;tO;uA;sLA;tU;tI;tAA;tEE;u;tO;tWA;sHHA;uU;uI;uAA;uEE;v;uO;uWA;sMA;tU;tI;tAA",
  "tEE;u;tO;tWA;sSZA;uU;uI;uAA;uEE;v;uO;uWA;sRA;tU;tI;tAA;tEE;u;tO;tWA;sSA;tU;tI;tAA;tEE;u;tO",
  "tWA;tHA;uU;uI;uAA;uEE;v;uO;uWA;sQA;tU;tI;tAA;tEE;u;tO;uA;tWA;+1;uI;uAA;uEE;v;+2;tHA;uU;uI",
  "uAA;uEE;v;uO;+1;uWA;+1;vI;vAA;vEE;w;+2;sBA;tU;tI;tAA;tEE;u;tO;tWA;sVA;tU;tI;tAA;tEE;u;tO;tWA",
  "sTA;tU;tI;tAA;tEE;u;tO;tWA;sCA;tU;tI;tAA;tEE;u;tO;tWA;sXA;tU;tI;tAA;tEE;u;tO;uA;tWA;+1;uI",
  "uAA;uEE;v;+2;sNA;tU;tI;tAA;tEE;u;tO;tWA;tYA;uU;uI;uAA;uEE;v;uO;uWA;sGLOTTAL A;AU;AI;AAA;AEE",
  "B;AO;AWA;sKA;tU;tI;tAA;tEE;u;tO;uA;tWA;+1;uI;uAA;uEE;v;+2;tXA;uU;uI;uAA;uEE;v;uO;+1;uWA;+1",
  "vI;vAA;vEE;w;+2;sWA;tU;tI;tAA;tEE;u;tO;uA;sPHARYNGEAL A;DU;DI;DAA;DEE;E;DO;+1;sZA;tU;tI;tAA",
  "tEE;u;tO;tWA;tHA;uU;uI;uAA;uEE;v;uO;uWA;sYA;tU;tI;tAA;tEE;u;tO;uA;sDA;tU;tI;tAA;tEE;u;tO;tWA",
  "tDA;uU;uI;uAA;uEE;v;uO;uWA;sJA;tU;tI;tAA;tEE;u;tO;tWA;sGA;tU;tI;tAA;tEE;u;tO;uA;tWA;+1;uI",
  "uAA;uEE;v;+2;tGA;uU;uI;uAA;uEE;v;uO;uWAA;sTHA;uU;uI;uAA;uEE;v;uO;uWA;sCHA;uU;uI;uAA;uEE;v;uO",
  "uWA;sPHA;uU;uI;uAA;uEE;v;uO;uWA;sTSA;uU;uI;uAA;uEE;v;uO;uWA;tZA;uU;uI;uAA;uEE;v;uO;vA;sFA;tU",
  "tI;tAA;tEE;u;tO;tWA;sPA;tU;tI;tAA;tEE;u;tO;tWA;sRYA;sMYA;sFYA;+2",
  "jCOMBINING GEMINATION AND VOWEL LENGTH MARK;tVOWEL LENGTH MARK;tGEMINATION MARK",
  "jSECTION MARK;jWORDSPACE;jFULL STOP;jCOMMA;jSEMICOLON;jCOLON;jPREFACE COLON;jQUESTION MARK",
  "jPARAGRAPH SEPARATOR;jDIGIT ONE;pTWO;qHREE;pFOUR;qIVE;pSIX;qEVEN;pEIGHT;pNINE;jNUMBER TEN",
  "rWENTY;rHIRTY;qFORTY;rIFTY;qSIXTY;rEVENTY;qEIGHTY;qNINETY;qHUNDRED;qTEN THOUSAND;+3",
  "jSYLLABLE SEBATBEIT MWA;sMWI;uEE;v;sSEBATBEIT BWA;sBWI;uEE;v;sSEBATBEIT FWA;sFWI;uEE;v",
  "sSEBATBEIT PWA;sPWI;uEE;v;jTONAL MARK YIZET;uDERET;uRIKRIK;uSHORT RIKRIK;uDIFAT;uKENAT",
  "uCHIRET;uHIDET;uDERET-HIDET;uKURT;+6;aCHEROKEE LETTER A;qE;qI;qO;qU;qV;qGA;qKA;qGE;rI;rO;rU",
  "rV;qHA;rE;rI;rO;rU;rV;qLA;rE;rI;rO;rU;rV;qMA;rE;rI;rO;rU;qNA;qHNA;qNAH;rE;rI;rO;rU;rV;qQUA",
  "sE;sI;sO;sU;sV;qSA;r;rE;rI;rO;rU;rV;qDA;qTA;qDE;qTE;qDI;qTI;qDO;rU;rV;rLA;qTLA;sE;sI;sO;sU",
  "sV;rSA;sE;sI;sO;sU;sV;qWA;rE;rI;rO;rU;rV;qYA;rE;rI;rO;rU;rV;qMV;+2;jSMALL LETTER YE;xI;xO;xU",
  "xV;wMV;+2;bANADIAN SYLLABICS HYPHEN;tE;tAAI;tI;uI;tO;uO;tY-CREE OO;tCARRIER EE;BI;tA;uA;tWE",
  "vST-CREE WE;uI;uEST-CREE WI;uII;uEST-CREE WII;uO;uEST-CREE WO;uOO;uEST-CREE WOO;tNASKAPI WOO",
  "tWA;uEST-CREE WA;uAA;uEST-CREE WAA;tNASKAPI WAA;tAI;tY-CREE W;tGLOTTAL STOP;tFINAL ACUTE",
  "zGRAVE;zBOTTOM HALF RING;zTOP HALF RING;zRIGHT HALF RING;BNG;zDOUBLE ACUTE",
  "GSHORT VERTICAL STROKES;zMIDDLE DOT;zSHORT HORIZONTAL STROKE;zPLUS;zDOWN TACK;tEN;tIN;tON",
  "tAN;tPE;uAAI;uI;vI;uO;vO;tY-CREE POO;tCARRIER HEE;CI;tPA;vA;uWE;tWEST-CREE PWE;tPWI",
  "tWEST-CREE PWI;tPWII;tWEST-CREE PWII;tPWO;tWEST-CREE PWO;tPWOO;tWEST-CREE PWOO;tPWA",
  "tWEST-CREE PWA;tPWAA;tWEST-CREE PWAA;tY-CREE PWAA;tP;tWEST-CREE P;tCARRIER H;tTE;uAAI;uI;vI",
  "uO;vO;tY-CREE TOO;tCARRIER DEE;CI;tTA;vA;uWE;tWEST-CREE TWE;tTWI;tWEST-CREE TWI;tTWII",
  "tWEST-CREE TWII;tTWO;tWEST-CREE TWO;tTWOO;tWEST-CREE TWOO;tTWA;tWEST-CREE TWA;tTWAA",
  "tWEST-CREE TWAA;tNASKAPI TWAA;tT;uTE;vI;vO;vA;tKE;uAAI;uI;vI;uO;vO;tY-CREE KOO;tKA;vA;uWE",
  "tWEST-CREE KWE;tKWI;tWEST-CREE KWI;tKWII;tWEST-CREE KWII;tKWO;tWEST-CREE KWO;tKWOO",
  "tWEST-CREE KWOO;tKWA;tWEST-CREE KWA;tKWAA;tWEST-CREE KWAA;tNASKAPI KWAA;tK;uW",
  "tSOUTH-SLAVEY KEH;HIH;HOH;HAH;tCE;uAAI;uI;vI;uO;vO;tY-CREE COO;tCA;vA;uWE;tWEST-CREE CWE",
  "tCWI;tWEST-CREE CWI;tCWII;tWEST-CREE CWII;tCWO;tWEST-CREE CWO;tCWOO;tWEST-CREE CWOO;tCWA",
  "tWEST-CREE CWA;tCWAA;tWEST-CREE CWAA;tNASKAPI CWAA;tC;tSAYISI TH;tME;uAAI;uI;vI;uO;vO",
  "tY-CREE MOO;tMA;vA;uWE;tWEST-CREE MWE;tMWI;tWEST-CREE MWI;tMWII;tWEST-CREE MWII;tMWO",
  "tWEST-CREE MWO;tMWOO;tWEST-CREE MWOO;tMWA;tWEST-CREE MWA;tMWAA;tWEST-CREE MWAA;tNASKAPI MWAA",
  "tM;tWEST-CREE M;tMH;tATHAPASCAN M;tSAYISI M;tNE;uAAI;uI;vI;uO;vO;tY-CREE NOO;tNA;vA;uWE",
  "tWEST-CREE NWE;tNWA;tWEST-CREE NWA;tNWAA;tWEST-CREE NWAA;tNASKAPI NWAA;u;tCARRIER NG;tNH;tLE",
  "uAAI;uI;vI;uO;vO;tY-CREE LOO;tLA;vA;uWE;tWEST-CREE LWE;tLWI;tWEST-CREE LWI;tLWII",
  "tWEST-CREE LWII;tLWO;tWEST-CREE LWO;tLWOO;tWEST-CREE LWOO;tLWA;tWEST-CREE LWA;tLWAA",
  "tWEST-CREE LWAA;tL;tWEST-CREE L;tMEDIAL L;tSE;uAAI;uI;vI;uO;vO;tY-CREE SOO;tSA;vA;uWE",
  "tWEST-CREE SWE;tSWI;tWEST-CREE SWI;tSWII;tWEST-CREE SWII;tSWO;tWEST-CREE SWO;tSWOO",
  "tWEST-CREE SWOO;tSWA;tWEST-CREE SWA;tSWAA;tWEST-CREE SWAA;tNASKAPI SWAA;tS;tATHAPASCAN S;tSW",
  "tBLACKFOOT S;tMOOSE-CREE SK;tNASKAPI SKW;C-W;CPWA;CTWA;CKWA;CCWA;tSHE;vI;wI;vO;wO;vA;wA;vWE",
  "tWEST-CREE SHWE;tSHWI;tWEST-CREE SHWI;tSHWII;tWEST-CREE SHWII;tSHWO;tWEST-CREE SHWO;tSHWOO",
  "tWEST-CREE SHWOO;tSHWA;tWEST-CREE SHWA;tSHWAA;tWEST-CREE SHWAA;tSH;tYE;uAAI;uI;vI;uO;vO",
  "u-CREE YOO;uA;vA;uWE;tWEST-CREE YWE;tYWI;tWEST-CREE YWI;tYWII;tWEST-CREE YWII;tYWO",
  "tWEST-CREE YWO;tYWOO;tWEST-CREE YWOO;tYWA;tWEST-CREE YWA;tYWAA;tWEST-CREE YWAA;tNASKAPI YWAA",
  "tY;tBIBLE-CREE Y;tWEST-CREE Y;tSAYISI YI;tRE;u-CREE RE;tWEST-CREE LE;tRAAI;uI;vI;uO;vO",
  "tWEST-CREE LO;tRA;vA;tWEST-CREE LA;tRWAA;tWEST-CREE RWAA;tR;tWEST-CREE R;tMEDIAL R;tFE;uAAI",
  "uI;vI;uO;vO;uA;vA;uWAA;tWEST-CREE FWAA;tF;tTHE;tN-CREE THE;tTHI;tN-CREE THI;tTHII",
  "tN-CREE THII;tTHO;wO;vA;wA;vWAA;tWEST-CREE THWAA;tTH;uTHE;wI;wO;wA;w;uYE;vI;vO;vA",
  "tNUNAVIK HE;CI;DI;CO;DO;CA;DA;C;yUT H;tHK;tQAAI;uI;vI;uO;vO;uA;vA;u;tTLHE;wI;wO;wA",
  "tWEST-CREE RE;EI;EO;EA;tNGAAI;vI;wI;vO;wO;vA;wA;v;uNG;tSAYISI SHE;CI;CO;CA;tWOODS-CREE THE",
  "GI;GO;GA;G;tLHI;wI;vO;wO;vA;wA;v;tTH-CREE THE;DI;EI;DO;EO;DA;EA;D;tAIVILIK B;tBLACKFOOT E;DI",
  "DO;DA;DWE;EI;EO;EA;DNE;EI;EO;EA;DKE;EI;EO;EA;tSAYISI HE;BI;BO;BA;tCARRIER GHU;DO;DE;EE;DI;DA",
  "BRU;CO;CE;DE;CI;CA;BWU;CO;CE;DE;CI;CA;BHWU;DO;DE;EE;DI;DA;BTHU;DO;DE;EE;DI;DA;CTU;DO;DE;EE",
  "DI;DA;BPU;CO;CE;DE;CI;CA;C;BGU;CO;CE;DE;CI;CA;BKHU;DO;DE;EE;DI;DA;CKU;DO;DE;EE;DI;DA;D;BNU",
  "CO;CE;DE;CI;CA;BMU;CO;CE;DE;CI;CA;BYU;CO;CE;DE;CI;CA;BJU;tSAYISI JU;tCARRIER JO;CE;DE;CI",
  "tSAYISI JI;tCARRIER JA;CJU;DO;DE;EE;DI;DA;BLU;CO;CE;DE;CI;CA;BDLU;DO;DE;EE;DI;DA;BLHU;DO;DE",
  "EE;DI;DA;BTLHU;EO;EE;FE;EI;EA;DU;DO;DE;EE;DI;DA;BZU;CO;CE;DE;CI;CA;C;BINITIAL Z;BDZU;DO;DE",
  "EE;DI;DA;BSU;CO;CE;DE;CI;CA;CHU;DO;DE;EE;DI;DA;D;BTSU;DO;DE;EE;DI;DA;BCHU;DO;DE;EE;DI;DA",
  "BTTSU;EO;EE;FE;EI;EA;uHI SIGN;tFULL STOP;tQAI;tNGAI;uNGI;xI;wO;xO;wA;xA;tWOODS-CREE THWEE;HI",
  "II;HO;IO;HA;IA;EFINAL TH;tBLACKFOOT W;aOGHAM SPACE MARK;gLETTER BEITH;nLUIS;nFEARN;nSAIL",
  "nNION;nUATH;nDAIR;nTINNE;nCOLL;oEIRT;nMUIN;nGORT;nNGEADAL;nSTRAIF;nRUIS;nAILM;nONN;nUR",
  "nEADHADH;nIODHADH;nEABHADH;nOR;nUILLEANN;nIFIN;nEAMHANCHOLL;nPEITH;gFEATHER MARK",
  "gREVERSED FEATHER MARK;+3;aRUNIC LETTER FEHU FEOH FE F;nV;nURUZ UR U;nYR;o;nW",
  "nTHURISAZ THURS THORN;nETH;nANSUZ A;nOS O;nAC A;oESC;nLONG-BRANCH-OSS O;nSHORT-TWIG-OSS O;nO",
  "oE;oN;nRAIDO RAD REID R;nKAUNA;nCEN;nKAUN K;nG;nENG;nGEBO GYFU G;oAR;nWUNJO WYNN W;nHAGLAZ H",
  "pEGL H;nLONG-BRANCH-HAGALL H;nSHORT-TWIG-HAGALL H;nNAUDIZ NYD NAUD N;nSHORT-TWIG-NAUD N",
  "nDOTTED-N;nISAZ IS ISS I;nE;nJERAN J;nGER;nLONG-BRANCH-AR AE;nSHORT-TWIG-AR A;nIWAZ EOH",
  "nPERTHO PEORTH P;nALGIZ EOLHX;nSOWILO S;oIGEL LONG-BRANCH-SOL S;oHORT-TWIG-SOL S;nC;nZ",
  "nTIWAZ TIR TYR T;nSHORT-TWIG-TYR T;nD;nBERKANAN BEORC BJARKAN B;nSHORT-TWIG-BJARKAN B",
  "nDOTTED-P;nOPEN-P;nEHWAZ EH E;nMANNAZ MAN M;nLONG-BRANCH-MADR M;nSHORT-TWIG-MADR M",
  "nLAUKAZ LAGU LOGR L;nDOTTED-L;nINGWAZ;q;nDAGAZ DAEG D;nOTHALAN ETHEL O;nEAR;nIOR;nCWEORTH",
  "oALC;oEALC;nSTAN;nLONG-BRANCH-YR;nSHORT-TWIG-YR;nICELANDIC-YR;nQ;nX;gSINGLE PUNCTUATION",
  "gMULTIPLE PUNCTUATION;gCROSS PUNCTUATION;gARLAUG SYMBOL;gTVIMADUR SYMBOL;gBELGTHOR SYMBOL",
  "gLETTER K;nSH;nOO;nFRANKS CASKET OS;BIS;BEH;BAC;CESC;+7;aTAGALOG LETTER A;pI;pU;pKA;pGA;pNGA",
  "pTA;pDA;pNA;pPA;pBA;pMA;pYA;pRA;pLA;pWA;pSA;pHA;iVOWEL SIGN I;tU;iSIGN VIRAMA;nPAMUDPOD;+9",
  "iLETTER ARCHAIC RA;aHANUNOO LETTER A;pI;pU;pKA;pGA;pNGA;pTA;pDA;pNA;pPA;pBA;pMA;pYA;pRA;pLA",
  "pWA;pSA;pHA;iVOWEL SIGN I;tU;iSIGN PAMUDPOD;aPHILIPPINE SINGLE PUNCTUATION",
  "lDOUBLE PUNCTUATION;+9;aBUHID LETTER A;nI;nU;nKA;nGA;nNGA;nTA;nDA;nNA;nPA;nBA;nMA;nYA;nRA",
  "nLA;nWA;nSA;nHA;gVOWEL SIGN I;rU;+c;aTAGBANWA LETTER A;qI;qU;qKA;qGA;qNGA;qTA;qDA;qNA;qPA",
  "qBA;qMA;qYA;+1;qLA;qWA;qSA;+1;jVOWEL SIGN I;uU;+c;aKHMER LETTER KA;oHA;oO;oHO;nNGO;nCA;oHA",
  "oO;oHO;nNYO;nDA;nTTHA;nDO;nTTHO;nNNO;nTA;oHA;oO;oHO;nNO;nBA;nPHA;oO;oHO;nMO;nYO;nRO;nLO;nVO",
  "nSHA;oSO;oA;nHA;nLA;nQA;gINDEPENDENT VOWEL QAQ;AA;zI;AI;zU;AK;AU;BV;yRY;AY;yLY;AY;yQE;zAI",
  "zOO TYPE ONE;HTWO;zAU;gVOWEL INHERENT AQ;wA;mSIGN AA;rI;sI;rY;sY;rU;sU;sA;rOE;rYA;rIE;rE;rAE",
  "sI;rOO;rAU;gSIGN NIKAHIT;lREAHMUK;lYUUKALEAPINTU;lMUUSIKATOAN;lTRIISAP;lBANTOC;lROBAT",
  "lTOANDAKHIAT;lKAKABAT;lAHSDA;lSAMYOK SANNYA;lVIRIAM;lCOENG;lBATHAMASAT;lKHAN;lBARIYOOSAN",
  "lCAMNUC PII KUUH;lLEK TOO;lBEYYAL;lPHNAEK MUAN;lKOOMUUT;gCURRENCY SYMBOL RIEL",
  "gSIGN AVAKRAHASANYA;mTTHACAN;+2;gDIGIT ZERO;mONE;mTWO;nHREE;mFOUR;nIVE;mSIX;nEVEN;mEIGHT",
  "mNINE;+6;gSYMBOL LEK ATTAK SON;xMUOY;xPII;xBEI;yUON;xPRAM;B-MUOY;CPII;CBEI;DUON;+6",
  "aMONGOLIAN BIRGA;kELLIPSIS;kCOMMA;kFULL STOP;kCOLON;kFOUR DOTS;kTODO SOFT HYPHEN",
  "kSIBE SYLLABLE BOUNDARY MARKER;kMANCHU COMMA;rFULL STOP;kNIRUGU;kFREE VARIATION SELECTOR ONE",
  "ITWO;JHREE;kVOWEL SEPARATOR;kFREE VARIATION SELECTOR FOUR;kDIGIT ZERO;qONE;qTWO;rHREE;qFOUR",
  "rIVE;qSIX;rEVEN;qEIGHT;qNINE;+6;kLETTER A;rE;rI;rO;rU;rOE;rUE;rEE;rNA;rANG;rBA;rPA;rQA;rGA",
  "rMA;rLA;rSA;sHA;rTA;rDA;rCHA;rJA;rYA;rRA;rWA;rFA;rKA;sHA;rTSA;rZA;rHAA;rZRA;rLHA;rZHI;rCHI",
  "rTODO LONG VOWEL SIGN;wE;wI;wO;wU;wOE;wUE;wANG;wBA;wPA;wQA;wGA;wMA;wTA;wDA;wCHA;wJA;wTSA;wYA",
  "wWA;wKA;wGAA;wHAA;wJIA;wNIA;wDZA;rSIBE E;wI;xY;wUE;x;wANG;wKA;wGA;wHA;wPA;wSHA;wTA;wDA;wJA",
  "wFA;wGAA;wHAA;wTSA;wZA;wRAA;wCHA;wZHA;rMANCHU I;yKA;yRA;yFA;yZHA;rCHA WITH TWO DOTS;+7",
  "rALI GALI ANUSVARA ONE;AVISARGA ONE;ADAMARU;AUBADAMA;AINVERTED UBADAMA;ABALUDA;ATHREE BALUDA",
  "AA;AI;AKA;ANGA;ACA;ATTA;CHA;ADDA;ANNA;ATA;ADA;APA;BHA;ASSA;AZHA;BA;AAH;rTODO ALI GALI TA",
  "FZHA;rMANCHU ALI GALI GHA;HNGA;HCA;HJHA;HTTA;HDDHA;HTA;HDHA;HSSA;HCYA;HZHA;IA",
  "rALI GALI HALF U;FYA;rMANCHU ALI GALI BHA;rALI GALI DAGALGA;rMANCHU ALI GALI LHA;+5",
  "aCANADIAN SYLLABICS OY;tAY;uAY;tWAY;tPOY;uAY;uWOY;tTAY;tKAY;uWAY;tMAY;tNOY;uAY;tLAY;tSOY;uAY",
  "uHOY;vAY;vWOY;tYOY;uAY;tRAY;tNWI;tOJIBWAY NWI;tNWII;tOJIBWAY NWII;tNWO;tOJIBWAY NWO;tNWOO",
  "tOJIBWAY NWOO;tRWEE;vI;wI;vO;wO;vA;tOJIBWAY P;BT;BK;BC;BM;BN;BS;CH;tEASTERN W;tWESTERN W",
  "tFINAL SMALL RING;zRAISED DOT;tR-CREE RWE;tWEST-CREE LOO;EAA;tTHWE;wA;uTHWE;wOO;wAA;uLHWE",
  "wOO;tSAYISI SHWE;COO;AHOO;tCARRIER GWU;BDENE GEE;BGAA;CWA;tSAYISI JUU;tCARRIER JWA",
  "tBEAVER DENE L;FR;tCARRIER DENTAL S;+a;aLIMBU VOWEL-CARRIER LETTER;gLETTER KA;oHA;nGA;oHA",
  "nNGA;nCA;oHA;nJA;oHA;nYAN;nTA;oHA;nDA;oHA;nNA;nPA;oHA;nBA;oHA;nMA;nYA;nRA;nLA;nWA;nSHA;oSA",
  "oA;nHA;nGYAN;nTRA;+1;gVOWEL SIGN A;rI;rU;rEE;rAI;rOO;rAU;rE;rO;gSUBJOINED LETTER YA;xRA;xWA",
  "+4;hMALL LETTER KA;tNGA;tANUSVARA;tTA;tNA;tPA;tMA;tRA;tLA;hIGN MUKPHRENG;lKEMPHRENG;lSA-I;+4",
  "lLOO;+3;gEXCLAMATION MARK;gQUESTION MARK;gDIGIT ZERO;mONE;mTWO;nHREE;mFOUR;nIVE;mSIX;nEVEN",
  "mEIGHT;mNINE;aTAI LE LETTER KA;oXA;oNGA;oTSA;oSA;oYA;oTA;pHA;oLA;oPA;pHA;oMA;oFA;oVA;oHA;oQA",
  "oKHA;oTSHA;oNA;oA;oI;oEE;pH;oU;oOO;p;oUE;oE;oAUE;pI;+2;oTONE-2;t3;t4;t5;t6;+b",
  "aNEW TAI LUE LETTER HIGH QA;tLOW QA;tHIGH KA;yXA;yNGA;tLOW KA;xXA;xNGA;tHIGH TSA;ySA;yYA",
  "tLOW TSA;xSA;xYA;tHIGH TA;zHA;yNA;tLOW TA;yHA;xNA;tHIGH PA;zHA;yMA;tLOW PA;yHA;xMA;tHIGH FA",
  "yVA;yLA;tLOW FA;xVA;xLA;tHIGH HA;yDA;yBA;tLOW HA;xDA;xBA;tHIGH KVA;yXVA;tLOW KVA;xXVA",
  "tHIGH SUA;tLOW SUA;+4;mVOWEL SIGN VOWEL SHORTENER;xAA;xII;xU;yU;xE;xAE;xO;yA;xUE;xAY;yAY;xUY",
  "xOY;yAY;xUEY;xIY;mLETTER FINAL V;zNG;A;zM;zK;zD;zB;mTONE MARK-1;w2;+6;mDIGIT ZERO;sONE;sTWO",
  "tHREE;sFOUR;tIVE;sSIX;tEVEN;sEIGHT;sNINE;mTHAM DIGIT ONE;+3;mSIGN LAE;uV",
  "aKHMER SYMBOL PATHAMASAT;nMUOY KOET;nPII KOET;nBEI KOET;oUON KOET;nPRAM KOET;r-MUOY KOET",
  "sPII KOET;sBEI KOET;tUON KOET;nDAP KOET;q-MUOY KOET;rPII KOET;rBEI KOET;sUON KOET;rPRAM KOET",
  "nTUTEYASAT;nMUOY ROC;nPII ROC;nBEI ROC;oUON ROC;nPRAM ROC;r-MUOY ROC;sPII ROC;sBEI ROC",
  "tUON ROC;nDAP ROC;q-MUOY ROC;rPII ROC;rBEI ROC;sUON ROC;rPRAM ROC;aBUGINESE LETTER KA;qGA",
  "qNGA;sKA;qPA;qBA;qMA;rPA;qTA;qDA;qNA;rRA;qCA;qJA;qNYA;sCA;qYA;qRA;qLA;qVA;qSA;qA;qHA",
  "jVOWEL SIGN I;uU;uE;uO;uAE;+2;jPALLAWA;jEND OF SECTION;aTAI THAM LETTER HIGH KA;wHA;wXA",
  "qLOW KA;vXA;vHA;qNGA;qHIGH CA;wHA;qLOW CA;uSA;uCHA;qNYA;qRATA;qHIGH RATHA;qDA;qLOW RATHA",
  "qRANA;qHIGH TA;wHA;qLOW TA;vHA;qNA;qBA;qHIGH PA;wHA;vFA;qLOW PA;uFA;uPHA;qMA;qLOW YA",
  "qHIGH YA;qRA;rUE;qLA;rUE;qWA;qHIGH SHA;wSA;wA;vHA;qLLA;qA;qLOW HA;qI;rI;qU;rU;qEE;qOO;qLAE",
  "qGREAT SA;jCONSONANT SIGN MEDIAL RA;FLA;yLA TANG LAI;jSIGN MAI KANG LAI",
  "jCONSONANT SIGN FINAL NGA;yLOW PA;yHIGH RATHA OR LOW PA;yMA;yBA;ySA;+1;jSIGN SAKOT",
  "jVOWEL SIGN A;uMAI SAT;uAA;uTALL AA;uI;vI;uUE;vUE;v;vU;uO;vA BELOW;vY;uE;uAE;uOO;uAI",
  "uTHAM AI;uOA ABOVE;jSIGN MAI KANG;oTONE-1;t2;oKHUEN TONE-3;z4;z5;oRA HAAM;oMAI SAM",
  "oKHUEN-LUE KARAN;+2;jCOMBINING CRYPTOGRAMMIC DOT;jHORA DIGIT ZERO;uONE;uTWO;vHREE;uFOUR;vIVE",
  "uSIX;vEVEN;uEIGHT;uNINE;+6;jTHAM DIGIT ZERO;uONE;uTWO;vHREE;uFOUR;vIVE;uSIX;vEVEN;uEIGHT",
  "uNINE;+6;jSIGN WIANG;tWAAK;oSAWAN;oKEOW;oHOY;oDOKMAI;oREVERSED ROTATED RANA;oMAI YAMOK;oKAAN",
  "sKUU;oSATKAAN;vKUU;oHANG;oCAANG;+2;aCOMBINING DOUBLED CIRCUMFLEX ACCENT;lIAERESIS-RING",
  "kINFINITY;kDOWNWARDS ARROW;kTRIPLE DOT;kX-X BELOW;kWIGGLY LINE BELOW;kOPEN MARK BELOW",
  "kDOUBLE OPEN MARK BELOW;kLIGHT CENTRALIZATION STROKE BELOW",
  "kSTRONG CENTRALIZATION STROKE BELOW;kPARENTHESES ABOVE;kDOUBLE PARENTHESES ABOVE",
  "kPARENTHESES BELOW;wOVERLAY;kLATIN SMALL LETTER W BELOW;DTURNED W BELOW",
  "lEFT PARENTHESIS ABOVE LEFT;kRIGHT PARENTHESIS ABOVE RIGHT;kLEFT PARENTHESIS BELOW LEFT",
  "kRIGHT PARENTHESIS BELOW RIGHT;kSQUARE BRACKETS ABOVE;kNUMBER SIGN ABOVE",
  "kINVERTED DOUBLE ARCH ABOVE;kPLUS SIGN ABOVE;kDOUBLE PLUS SIGN ABOVE;BBELOW",
  "kTRIPLE ACUTE ACCENT;kLATIN SMALL LETTER INSULAR G;LR;LT;+31;aBALINESE SIGN ULU RICEM",
  "sCANDRA;oCECEK;oSURANG;oBISAH;jLETTER AKARA;v TEDUNG;qIKARA;v TEDUNG;qUKARA;v TEDUNG",
  "qRA REPA;x TEDUNG;qLA LENGA;y TEDUNG;qEKARA;qAIKARA;qOKARA;v TEDUNG;qKA;s MAHAPRANA;qGA",
  "s GORA;qNGA;qCA;s LACA;qJA;s JERA;qNYA;qTA LATIK;tMURDA MAHAPRANA;qDA MURDA ALPAPRANA",
  "zMAHAPRANA;qNA RAMBAT;qTA;s TAWA;qDA;s MADU;qNA;qPA;s KAPAL;qBA;s KEMBANG;qMA;qYA;qRA;qLA",
  "qWA;qSA SAGA;vPA;s;qHA;jSIGN REREKAN;jVOWEL SIGN TEDUNG;uULU;x SARI;uSUKU;y ILUT;uRA REPA",
  "B TEDUNG;uLA LENGA;C TEDUNG;uTALING;A REPA;BTEDUNG;BREPA TEDUNG;uPEPET;z TEDUNG;jADEG ADEG",
  "jLETTER KAF SASAK;rHOT SASAK;qTZIR SASAK;qEF SASAK;qVE SASAK;qZAL SASAK;qASYURA SASAK",
  "rRCHAIC JNYA;+3;jDIGIT ZERO;pONE;pTWO;qHREE;pFOUR;qIVE;pSIX;qEVEN;pEIGHT;pNINE;jPANTI;lMADA",
  "jWINDU;jCARIK PAMUNGKAH;pSIKI;pPAREREN;jPAMENENG;jMUSICAL SYMBOL DONG;zENG;zUNG;zANG",
  "C SURANG;zING;zAENG;zEUNG;zAING;ANG GEDE;yCOMBINING TEGEH;IENDEP;IKEMPUL;MLI;IJEGOGAN",
  "IKEMPUL WITH JEGOGAN;MLI WITH JEGOGAN;IBENDE;IGONG;yRIGHT-HAND OPEN DUG;PAG;JCLOSED TUK;RAK",
  "yLEFT-HAND OPEN PANG;OUNG;ICLOSED PLAK;RUK;IOPEN PING;jPANTI LANTANG;lMADA LANTANG;+1",
  "aSUNDANESE SIGN PANYECEK;sGLAYAR;tWISAD;kLETTER A;rI;rU;rAE;rO;rE;sU;rKA;rQA;rGA;rNGA;rCA",
  "rJA;rZA;rNYA;rTA;rDA;rNA;rPA;rFA;rVA;rBA;rMA;rYA;rRA;rLA;rWA;rSA;rXA;rHA",
  "kCONSONANT SIGN PAMINGKAL;BNYAKRA;DIKU;kVOWEL SIGN PANGHULU;yYUKU;yAELAENG;yOLONG;xMEPET",
  "xNEULEUNG;kSIGN PAMAAEH;pVIRAMA;kCONSONANT SIGN PASANGAN MA;IWA;kLETTER KHA;rSYA;kDIGIT ZERO",
  "qONE;qTWO;rHREE;qFOUR;rIVE;qSIX;rEVEN;qEIGHT;qNINE;kAVAGRAHA;kLETTER REU;rLEU;rBHA;rFINAL K",
  "xM;aBATAK LETTER A;nSIMALUNGUN A;nHA;nSIMALUNGUN HA;nMANDAILING HA;nBA;nKARO BA;nPA",
  "nSIMALUNGUN PA;nNA;nMANDAILING NA;nWA;nSIMALUNGUN WA;nPAKPAK WA;nGA;nSIMALUNGUN GA;nJA;nDA",
  "nRA;nSIMALUNGUN RA;nMA;nSIMALUNGUN MA;oOUTHERN TA;nNORTHERN TA;nSA;oIMALUNGUN SA",
  "nMANDAILING SA;nYA;nSIMALUNGUN YA;nNGA;nLA;nSIMALUNGUN LA;nNYA;nCA;nNDA;nMBA;nI;nU",
  "gSIGN TOMPI;gVOWEL SIGN E;rPAKPAK E;rEE;rI;rKARO I;rO;rKARO O;rU;s FOR SIMALUNGUN SA",
  "gCONSONANT SIGN NG;vH;gPANGOLAT;jONGONAN;+8;gSYMBOL BINDU NA METEK;tPINARBORAS;tJUDUL",
  "tPANGOLAT;aLEPCHA LETTER KA;pLA;pHA;oGA;pLA;oNGA;oCA;pHA;oJA;oNYA;oTA;pHA;oDA;oNA;oPA;pLA",
  "pHA;oFA;pLA;oBA;pLA;oMA;pLA;oTSA;qHA;oDZA;oYA;oRA;oLA;oHA;pLA;oVA;oSA;pHA;oWA;oA",
  "hSUBJOINED LETTER YA;yRA;hVOWEL SIGN AA;sI;sO;tO;sU;tU;sE;hCONSONANT SIGN K;wM;wL;wN;wP;wR",
  "wT;wNYIN-DO;wKANG;hSIGN RAN;mNUKTA;+3;hPUNCTUATION TA-ROL;tNYET THYOOM TA-ROL;tCER-WA",
  "tTSHOOK CER-WA;z;hDIGIT ZERO;nONE;nTWO;oHREE;nFOUR;oIVE;nSIX;oEVEN;nEIGHT;nNINE;+3",
  "hLETTER TTA;qHA;oDDA;aOL CHIKI DIGIT ZERO;pONE;pTWO;qHREE;pFOUR;qIVE;pSIX;qEVEN;pEIGHT;pNINE",
  "jLETTER LA;qAT;rG;rNG;rL;qLAA;qAAK;sJ;sM;sW;qLI;qIS;rH;rNY;rR;qLU;qUC;rD;rNN;rY;qLE;qEP;rDD",
  "rN;rRR;qLO;qOTT;rB;rV;rH;jMU TTUDDAG;jGAAHLAA TTUDDAAG;jMU-GAAHLAA TTUDDAAG;jRELAA;jPHAARKAA",
  "jAHAD;jPUNCTUATION MUCAAD;vDOUBLE MUCAAD;aCYRILLIC SMALL LETTER ROUNDED VE;wLONG-LEGGED DE",
  "wNARROW O;wWIDE ES;wTALL TE;xHREE-LEGGED TE;xALL HARD SIGN;BYAT;wUNBLENDED UK;+7",
  "aGEORGIAN MTAVRULI CAPITAL LETTER AN;HBAN;HGAN;HDON;HEN;HVIN;HZEN;HTAN;HIN;HKAN;HLAS;HMAN",
  "HNAR;HON;HPAR;HZHAR;HRAE;HSAN;HTAR;HUN;HPHAR;HKHAR;HGHAN;HQAR;HSHIN;HCHIN;IAN;HJIL;HCIL;IHAR",
  "HXAN;HJHAN;HHAE;IE;IIE;HWE;HHAR;IOE;HFI;HYN;HELIFI;HTURNED GAN;HAIN;+2;IEN;HHARD SIGN",
  "HLABIAL SIGN;aSUNDANESE PUNCTUATION BINDU SURYA;CPANGLONG;DURNAMA;CCAKRA;CLEU SATANGA",
  "CKA SATANGA;CDA SATANGA;CBA SATANGA;+8;aVEDIC TONE KARSHANA;lSHARA;lPRENKHA;gSIGN NIHSHVASA",
  "lYAJURVEDIC MIDLINE SVARITA;gTONE YAJURVEDIC AGGRAVATED INDEPENDENT SVARITA",
  "wINDEPENDENT SVARITA;wKATHAKA INDEPENDENT SVARITA;lCANDRA BELOW",
  "lYAJURVEDIC KATHAKA INDEPENDENT SVARITA SCHROEDER;lDOUBLE SVARITA;lTRIPLE SVARITA",
  "lKATHAKA ANUDATTA;lDOT BELOW;lTWO DOTS BELOW;mHREE DOTS BELOW",
  "lRIGVEDIC KASHMIRI INDEPENDENT SVARITA;lATHARVAVEDIC INDEPENDENT SVARITA",
  "gSIGN VISARGA SVARITA;tUDATTA;lREVERSED VISARGA UDATTA;lVISARGA ANUDATTA",
  "lREVERSED VISARGA ANUDATTA;lVISARGA UDATTA WITH TAIL;tANUDATTA WITH TAIL",
  "lANUSVARA ANTARGOMUKHA;uBAHIRGOMUKHA;uVAMAGOMUKHA;F WITH TAIL;lTIRYAK",
  "lHEXIFORM LONG ANUSVARA;lLONG ANUSVARA;lRTHANG LONG ANUSVARA;lANUSVARA UBHAYATO MUKHA",
  "mRDHAVISARGA;lROTATED ARDHAVISARGA;gTONE CANDRA ABOVE;gSIGN JIHVAMULIYA;lUPADHMANIYA",
  "lATIKRAMA;gTONE RING ABOVE;lDOUBLE RING ABOVE;gSIGN DOUBLE ANUSVARA ANTARGOMUKHA;+5",
  "aLATIN LETTER SMALL CAPITAL A;CE;gSMALL LETTER TURNED AE;gLETTER SMALL CAPITAL BARRED B;BC",
  "BD;BETH;C;gSMALL LETTER TURNED OPEN E;AI;gLETTER SMALL CAPITAL J;BK;BL WITH STROKE;BM",
  "BREVERSED N;BO;CPEN O;gSMALL LETTER SIDEWAYS O;DPEN O;D WITH STROKE;tTURNED OE",
  "gLETTER SMALL CAPITAL OU;gSMALL LETTER TOP HALF O;tBOTTOM HALF O;gLETTER SMALL CAPITAL P",
  "BREVERSED R;BTURNED R;C;BU;gSMALL LETTER SIDEWAYS U;CDIAERESIZED U;CTURNED M",
  "gLETTER SMALL CAPITAL V;BW;BZ;BEZH;nVOICED LARYNGEAL SPIRANT;nAIN",
  "aGREEK LETTER SMALL CAPITAL GAMMA;BLAMDA;BPI;BRHO;BPSI;aCYRILLIC LETTER SMALL CAPITAL EL",
  "aMODIFIER LETTER CAPITAL A;zE;yB;zARRED B;yD;yE;yREVERSED E;yG;yH;yI;yJ;yK;yL;yM;yN",
  "yREVERSED N;yO;zU;yP;yR;yT;yU;yW;qSMALL A;wTURNED A;wALPHA;wTURNED AE;wB;wD;wE;wSCHWA",
  "wOPEN E;wTURNED OPEN E;wG;wTURNED I;wK;wM;wENG;wO;xPEN O;wTOP HALF O;wBOTTOM HALF O;wP;wT;wU",
  "wSIDEWAYS U;wTURNED M;wV;wAIN;wBETA;wGREEK GAMMA;wDELTA;wGREEK PHI;wCHI",
  "aLATIN SUBSCRIPT SMALL LETTER I;DR;DU;DV;aGREEK SUBSCRIPT SMALL LETTER BETA;DGAMMA;DRHO;DPHI",
  "DCHI;aLATIN SMALL LETTER UE;tB WITH MIDDLE TILDE;tD WITH MIDDLE TILDE;tF WITH MIDDLE TILDE",
  "tM WITH MIDDLE TILDE;tN WITH MIDDLE TILDE;tP WITH MIDDLE TILDE;tR WITH MIDDLE TILDE",
  "AFISHHOOK AND MIDDLE TILDE;tS WITH MIDDLE TILDE;tT WITH MIDDLE TILDE;tZ WITH MIDDLE TILDE",
  "tTURNED G;aMODIFIER LETTER CYRILLIC EN;aLATIN SMALL LETTER INSULAR G;tTH WITH STRIKETHROUGH",
  "mCAPITAL LETTER I WITH STROKE;mLETTER IOTA WITH STROKE;tP WITH STROKE",
  "mCAPITAL LETTER U WITH STROKE;mLETTER UPSILON WITH STROKE;tB WITH PALATAL HOOK",
  "tD WITH PALATAL HOOK;tF WITH PALATAL HOOK;tG WITH PALATAL HOOK;tK WITH PALATAL HOOK",
  "tL WITH PALATAL HOOK;tM WITH PALATAL HOOK;tN WITH PALATAL HOOK;tP WITH PALATAL HOOK",
  "tR WITH PALATAL HOOK;tS WITH PALATAL HOOK;tESH WITH PALATAL HOOK;tV WITH PALATAL HOOK",
  "tX WITH PALATAL HOOK;tZ WITH PALATAL HOOK;tA WITH RETROFLEX HOOK;uLPHA WITH RETROFLEX HOOK",
  "tD WITH HOOK AND TAIL;tE WITH RETROFLEX HOOK;tOPEN E WITH RETROFLEX HOOK",
  "tREVERSED OPEN E WITH RETROFLEX HOOK;tSCHWA WITH RETROFLEX HOOK;tI WITH RETROFLEX HOOK",
  "tOPEN O WITH RETROFLEX HOOK;tESH WITH RETROFLEX HOOK;tU WITH RETROFLEX HOOK",
  "tEZH WITH RETROFLEX HOOK;aMODIFIER LETTER SMALL TURNED ALPHA;wC;x WITH CURL;wETH",
  "wREVERSED OPEN E;wF;wDOTLESS J WITH STROKE;wSCRIPT G;wTURNED H;wI WITH STROKE;xOTA",
  "wCAPITAL I;F WITH STROKE;wJ WITH CROSSED-TAIL;wL WITH RETROFLEX HOOK;DPALATAL HOOK",
  "wCAPITAL L;wM WITH HOOK;wTURNED M WITH LONG LEG;wN WITH LEFT HOOK;DRETROFLEX HOOK;wCAPITAL N",
  "wBARRED O;wPHI;wS WITH HOOK;wESH;wT WITH PALATAL HOOK;wU BAR;xPSILON;wCAPITAL U;wV WITH HOOK",
  "wTURNED V;wZ;x WITH RETROFLEX HOOK;DCURL;wEZH;wTHETA;aCOMBINING DOTTED GRAVE ACCENT",
  "rACUTE ACCENT;kSNAKE BELOW;lUSPENSION MARK;kMACRON-ACUTE;kGRAVE-MACRON;kMACRON-GRAVE",
  "kACUTE-MACRON;kGRAVE-ACUTE-GRAVE;kACUTE-GRAVE-ACUTE;kLATIN SMALL LETTER R BELOW",
  "kBREVE-MACRON;kMACRON-BREVE;kDOUBLE CIRCUMFLEX ABOVE;kOGONEK ABOVE;kZIGZAG BELOW;kIS BELOW",
  "kUR ABOVE;lS ABOVE;kLATIN SMALL LETTER FLATTENED OPEN A ABOVE;DAE;EO;EV;DC CEDILLA",
  "DINSULAR D;DETH;DG;qLETTER SMALL CAPITAL G;qSMALL LETTER K;DL;qLETTER SMALL CAPITAL L;LM",
  "qSMALL LETTER N;qLETTER SMALL CAPITAL N;LR;qSMALL LETTER R ROTUNDA;DS;DLONG S;DZ;DALPHA;DB",
  "EETA;DSCHWA;DF;DL WITH DOUBLE MIDDLE TILDE;DO WITH LIGHT CENTRALIZATION STROKE;DP;DESH",
  "DU WITH LIGHT CENTRALIZATION STROKE;DW;DA WITH DIAERESIS;DO WITH DIAERESIS;DU WITH DIAERESIS",
  "kUP TACK ABOVE;kKAVYKA ABOVE RIGHT;xLEFT;kDOT ABOVE LEFT;kWIDE INVERTED BRIDGE BELOW",
  "kDOT BELOW LEFT;lELETION MARK;lOUBLE INVERTED BREVE BELOW;kALMOST EQUAL TO BELOW",
  "kLEFT ARROWHEAD ABOVE;kRIGHT ARROWHEAD AND DOWN ARROWHEAD BELOW",
  "aLATIN CAPITAL LETTER A WITH RING BELOW;gSMALL LETTER A WITH RING BELOW",
  "gCAPITAL LETTER B WITH DOT ABOVE;gSMALL LETTER B WITH DOT ABOVE",
  "gCAPITAL LETTER B WITH DOT BELOW;gSMALL LETTER B WITH DOT BELOW",
  "gCAPITAL LETTER B WITH LINE BELOW;gSMALL LETTER B WITH LINE BELOW",
  "gCAPITAL LETTER C WITH CEDILLA AND ACUTE;gSMALL LETTER C WITH CEDILLA AND ACUTE",
  "gCAPITAL LETTER D WITH DOT ABOVE;gSMALL LETTER D WITH DOT ABOVE",
  "gCAPITAL LETTER D WITH DOT BELOW;gSMALL LETTER D WITH DOT BELOW",
  "gCAPITAL LETTER D WITH LINE BELOW;gSMALL LETTER D WITH LINE BELOW",
  "gCAPITAL LETTER D WITH CEDILLA;gSMALL LETTER D WITH CEDILLA",
  "gCAPITAL LETTER D WITH CIRCUMFLEX BELOW;gSMALL LETTER D WITH CIRCUMFLEX BELOW",
  "gCAPITAL LETTER E WITH MACRON AND GRAVE;gSMALL LETTER E WITH MACRON AND GRAVE",
  "gCAPITAL LETTER E WITH MACRON AND ACUTE;gSMALL LETTER E WITH MACRON AND ACUTE",
  "gCAPITAL LETTER E WITH CIRCUMFLEX BELOW;gSMALL LETTER E WITH CIRCUMFLEX BELOW",
  "gCAPITAL LETTER E WITH TILDE BELOW;gSMALL LETTER E WITH TILDE BELOW",
  "gCAPITAL LETTER E WITH CEDILLA AND BREVE;gSMALL LETTER E WITH CEDILLA AND BREVE",
  "gCAPITAL LETTER F WITH DOT ABOVE;gSMALL LETTER F WITH DOT ABOVE",
  "gCAPITAL LETTER G WITH MACRON;gSMALL LETTER G WITH MACRON;gCAPITAL LETTER H WITH DOT ABOVE",
  "gSMALL LETTER H WITH DOT ABOVE;gCAPITAL LETTER H WITH DOT BELOW",
  "gSMALL LETTER H WITH DOT BELOW;gCAPITAL LETTER H WITH DIAERESIS",
  "gSMALL LETTER H WITH DIAERESIS;gCAPITAL LETTER H WITH CEDILLA;gSMALL LETTER H WITH CEDILLA",
  "gCAPITAL LETTER H WITH BREVE BELOW;gSMALL LETTER H WITH BREVE BELOW",
  "gCAPITAL LETTER I WITH TILDE BELOW;gSMALL LETTER I WITH TILDE BELOW",
  "gCAPITAL LETTER I WITH DIAERESIS AND ACUTE;gSMALL LETTER I WITH DIAERESIS AND ACUTE",
  "gCAPITAL LETTER K WITH ACUTE;gSMALL LETTER K WITH ACUTE;gCAPITAL LETTER K WITH DOT BELOW",
  "gSMALL LETTER K WITH DOT BELOW;gCAPITAL LETTER K WITH LINE BELOW",
  "gSMALL LETTER K WITH LINE BELOW;gCAPITAL LETTER L WITH DOT BELOW",
  "gSMALL LETTER L WITH DOT BELOW;gCAPITAL LETTER L WITH DOT BELOW AND MACRON",
  "gSMALL LETTER L WITH DOT BELOW AND MACRON;gCAPITAL LETTER L WITH LINE BELOW",
  "gSMALL LETTER L WITH LINE BELOW;gCAPITAL LETTER L WITH CIRCUMFLEX BELOW",
  "gSMALL LETTER L WITH CIRCUMFLEX BELOW;gCAPITAL LETTER M WITH ACUTE",
  "gSMALL LETTER M WITH ACUTE;gCAPITAL LETTER M WITH DOT ABOVE;gSMALL LETTER M WITH DOT ABOVE",
  "gCAPITAL LETTER M WITH DOT BELOW;gSMALL LETTER M WITH DOT BELOW",
  "gCAPITAL LETTER N WITH DOT ABOVE;gSMALL LETTER N WITH DOT ABOVE",
  "gCAPITAL LETTER N WITH DOT BELOW;gSMALL LETTER N WITH DOT BELOW",
  "gCAPITAL LETTER N WITH LINE BELOW;gSMALL LETTER N WITH LINE BELOW",
  "gCAPITAL LETTER N WITH CIRCUMFLEX BELOW;gSMALL LETTER N WITH CIRCUMFLEX BELOW",
  "gCAPITAL LETTER O WITH TILDE AND ACUTE;gSMALL LETTER O WITH TILDE AND ACUTE",
  "gCAPITAL LETTER O WITH TILDE AND DIAERESIS;gSMALL LETTER O WITH TILDE AND DIAERESIS",
  "gCAPITAL LETTER O WITH MACRON AND GRAVE;gSMALL LETTER O WITH MACRON AND GRAVE",
  "gCAPITAL LETTER O WITH MACRON AND ACUTE;gSMALL LETTER O WITH MACRON AND ACUTE",
  "gCAPITAL LETTER P WITH ACUTE;gSMALL LETTER P WITH ACUTE;gCAPITAL LETTER P WITH DOT ABOVE",
  "gSMALL LETTER P WITH DOT ABOVE;gCAPITAL LETTER R WITH DOT ABOVE",
  "gSMALL LETTER R WITH DOT ABOVE;gCAPITAL LETTER R WITH DOT BELOW",
  "gSMALL LETTER R WITH DOT BELOW;gCAPITAL LETTER R WITH DOT BELOW AND MACRON",
  "gSMALL LETTER R WITH DOT BELOW AND MACRON;gCAPITAL LETTER R WITH LINE BELOW",
  "gSMALL LETTER R WITH LINE BELOW;gCAPITAL LETTER S WITH DOT ABOVE",
  "gSMALL LETTER S WITH DOT ABOVE;gCAPITAL LETTER S WITH DOT BELOW",
  "gSMALL LETTER S WITH DOT BELOW;gCAPITAL LETTER S WITH ACUTE AND DOT ABOVE",
  "gSMALL LETTER S WITH ACUTE AND DOT ABOVE;gCAPITAL LETTER S WITH CARON AND DOT ABOVE",
  "gSMALL LETTER S WITH CARON AND DOT ABOVE;gCAPITAL LETTER S WITH DOT BELOW AND DOT ABOVE",
  "gSMALL LETTER S WITH DOT BELOW AND DOT ABOVE;gCAPITAL LETTER T WITH DOT ABOVE",
  "gSMALL LETTER T WITH DOT ABOVE;gCAPITAL LETTER T WITH DOT BELOW",
  "gSMALL LETTER T WITH DOT BELOW;gCAPITAL LETTER T WITH LINE BELOW",
  "gSMALL LETTER T WITH LINE BELOW;gCAPITAL LETTER T WITH CIRCUMFLEX BELOW",
  "gSMALL LETTER T WITH CIRCUMFLEX BELOW;gCAPITAL LETTER U WITH DIAERESIS BELOW",
  "gSMALL LETTER U WITH DIAERESIS BELOW;gCAPITAL LETTER U WITH TILDE BELOW",
  "gSMALL LETTER U WITH TILDE BELOW;gCAPITAL LETTER U WITH CIRCUMFLEX BELOW",
  "gSMALL LETTER U WITH CIRCUMFLEX BELOW;gCAPITAL LETTER U WITH TILDE AND ACUTE",
  "gSMALL LETTER U WITH TILDE AND ACUTE;gCAPITAL LETTER U WITH MACRON AND DIAERESIS",
  "gSMALL LETTER U WITH MACRON AND DIAERESIS;gCAPITAL LETTER V WITH TILDE",
  "gSMALL LETTER V WITH TILDE;gCAPITAL LETTER V WITH DOT BELOW;gSMALL LETTER V WITH DOT BELOW",
  "gCAPITAL LETTER W WITH GRAVE;gSMALL LETTER W WITH GRAVE;gCAPITAL LETTER W WITH ACUTE",
  "gSMALL LETTER W WITH ACUTE;gCAPITAL LETTER W WITH DIAERESIS;gSMALL LETTER W WITH DIAERESIS",
  "gCAPITAL LETTER W WITH DOT ABOVE;gSMALL LETTER W WITH DOT ABOVE",
  "gCAPITAL LETTER W WITH DOT BELOW;gSMALL LETTER W WITH DOT BELOW",
  "gCAPITAL LETTER X WITH DOT ABOVE;gSMALL LETTER X WITH DOT ABOVE",
  "gCAPITAL LETTER X WITH DIAERESIS;gSMALL LETTER X WITH DIAERESIS",
  "gCAPITAL LETTER Y WITH DOT ABOVE;gSMALL LETTER Y WITH DOT ABOVE",
  "gCAPITAL LETTER Z WITH CIRCUMFLEX;gSMALL LETTER Z WITH CIRCUMFLEX",
  "gCAPITAL LETTER Z WITH DOT BELOW;gSMALL LETTER Z WITH DOT BELOW",
  "gCAPITAL LETTER Z WITH LINE BELOW;gSMALL LETTER Z WITH LINE BELOW;tH WITH LINE BELOW",
  "tT WITH DIAERESIS;tW WITH RING ABOVE;tY WITH RING ABOVE;tA WITH RIGHT HALF RING",
  "tLONG S WITH DOT ABOVE;GIAGONAL STROKE;FHIGH STROKE;gCAPITAL LETTER SHARP S",
  "gSMALL LETTER DELTA;gCAPITAL LETTER A WITH DOT BELOW;gSMALL LETTER A WITH DOT BELOW",
  "gCAPITAL LETTER A WITH HOOK ABOVE;gSMALL LETTER A WITH HOOK ABOVE",
  "gCAPITAL LETTER A WITH CIRCUMFLEX AND ACUTE;gSMALL LETTER A WITH CIRCUMFLEX AND ACUTE",
  "gCAPITAL LETTER A WITH CIRCUMFLEX AND GRAVE;gSMALL LETTER A WITH CIRCUMFLEX AND GRAVE",
  "gCAPITAL LETTER A WITH CIRCUMFLEX AND HOOK ABOVE",
  "gSMALL LETTER A WITH CIRCUMFLEX AND HOOK ABOVE;gCAPITAL LETTER A WITH CIRCUMFLEX AND TILDE",
  "gSMALL LETTER A WITH CIRCUMFLEX AND TILDE;gCAPITAL LETTER A WITH CIRCUMFLEX AND DOT BELOW",
  "gSMALL LETTER A WITH CIRCUMFLEX AND DOT BELOW;gCAPITAL LETTER A WITH BREVE AND ACUTE",
  "gSMALL LETTER A WITH BREVE AND ACUTE;gCAPITAL LETTER A WITH BREVE AND GRAVE",
  "gSMALL LETTER A WITH BREVE AND GRAVE;gCAPITAL LETTER A WITH BREVE AND HOOK ABOVE",
  "gSMALL LETTER A WITH BREVE AND HOOK ABOVE;gCAPITAL LETTER A WITH BREVE AND TILDE",
  "gSMALL LETTER A WITH BREVE AND TILDE;gCAPITAL LETTER A WITH BREVE AND DOT BELOW",
  "gSMALL LETTER A WITH BREVE AND DOT BELOW;gCAPITAL LETTER E WITH DOT BELOW",
  "gSMALL LETTER E WITH DOT BELOW;gCAPITAL LETTER E WITH HOOK ABOVE",
  "gSMALL LETTER E WITH HOOK ABOVE;gCAPITAL LETTER E WITH TILDE;gSMALL LETTER E WITH TILDE",
  "gCAPITAL LETTER E WITH CIRCUMFLEX AND ACUTE;gSMALL LETTER E WITH CIRCUMFLEX AND ACUTE",
  "gCAPITAL LETTER E WITH CIRCUMFLEX AND GRAVE;gSMALL LETTER E WITH CIRCUMFLEX AND GRAVE",
  "gCAPITAL LETTER E WITH CIRCUMFLEX AND HOOK ABOVE",
  "gSMALL LETTER E WITH CIRCUMFLEX AND HOOK ABOVE;gCAPITAL LETTER E WITH CIRCUMFLEX AND TILDE",
  "gSMALL LETTER E WITH CIRCUMFLEX AND TILDE;gCAPITAL LETTER E WITH CIRCUMFLEX AND DOT BELOW",
  "gSMALL LETTER E WITH CIRCUMFLEX AND DOT BELOW;gCAPITAL LETTER I WITH HOOK ABOVE",
  "gSMALL LETTER I WITH HOOK ABOVE;gCAPITAL LETTER I WITH DOT BELOW",
  "gSMALL LETTER I WITH DOT BELOW;gCAPITAL LETTER O WITH DOT BELOW",
  "gSMALL LETTER O WITH DOT BELOW;gCAPITAL LETTER O WITH HOOK ABOVE",
  "gSMALL LETTER O WITH HOOK ABOVE;gCAPITAL LETTER O WITH CIRCUMFLEX AND ACUTE",
  "gSMALL LETTER O WITH CIRCUMFLEX AND ACUTE;gCAPITAL LETTER O WITH CIRCUMFLEX AND GRAVE",
  "gSMALL LETTER O WITH CIRCUMFLEX AND GRAVE;gCAPITAL LETTER O WITH CIRCUMFLEX AND HOOK ABOVE",
  "gSMALL LETTER O WITH CIRCUMFLEX AND HOOK ABOVE;gCAPITAL LETTER O WITH CIRCUMFLEX AND TILDE",
  "gSMALL LETTER O WITH CIRCUMFLEX AND TILDE;gCAPITAL LETTER O WITH CIRCUMFLEX AND DOT BELOW",
  "gSMALL LETTER O WITH CIRCUMFLEX AND DOT BELOW;gCAPITAL LETTER O WITH HORN AND ACUTE",
  "gSMALL LETTER O WITH HORN AND ACUTE;gCAPITAL LETTER O WITH HORN AND GRAVE",
  "gSMALL LETTER O WITH HORN AND GRAVE;gCAPITAL LETTER O WITH HORN AND HOOK ABOVE",
  "gSMALL LETTER O WITH HORN AND HOOK ABOVE;gCAPITAL LETTER O WITH HORN AND TILDE",
  "gSMALL LETTER O WITH HORN AND TILDE;gCAPITAL LETTER O WITH HORN AND DOT BELOW",
  "gSMALL LETTER O WITH HORN AND DOT BELOW;gCAPITAL LETTER U WITH DOT BELOW",
  "gSMALL LETTER U WITH DOT BELOW;gCAPITAL LETTER U WITH HOOK ABOVE",
  "gSMALL LETTER U WITH HOOK ABOVE;gCAPITAL LETTER U WITH HORN AND ACUTE",
  "gSMALL LETTER U WITH HORN AND ACUTE;gCAPITAL LETTER U WITH HORN AND GRAVE",
  "gSMALL LETTER U WITH HORN AND GRAVE;gCAPITAL LETTER U WITH HORN AND HOOK ABOVE",
  "gSMALL LETTER U WITH HORN AND HOOK ABOVE;gCAPITAL LETTER U WITH HORN AND TILDE",
  "gSMALL LETTER U WITH HORN AND TILDE;gCAPITAL LETTER U WITH HORN AND DOT BELOW",
  "gSMALL LETTER U WITH HORN AND DOT BELOW;gCAPITAL LETTER Y WITH GRAVE",
  "gSMALL LETTER Y WITH GRAVE;gCAPITAL LETTER Y WITH DOT BELOW;gSMALL LETTER Y WITH DOT BELOW",
  "gCAPITAL LETTER Y WITH HOOK ABOVE;gSMALL LETTER Y WITH HOOK ABOVE",
  "gCAPITAL LETTER Y WITH TILDE;gSMALL LETTER Y WITH TILDE;gCAPITAL LETTER MIDDLE-WELSH LL",
  "gSMALL LETTER MIDDLE-WELSH LL;gCAPITAL LETTER MIDDLE-WELSH V;gSMALL LETTER MIDDLE-WELSH V",
  "gCAPITAL LETTER Y WITH LOOP;gSMALL LETTER Y WITH LOOP;aGREEK SMALL LETTER ALPHA WITH PSILI",
  "EDASIA;EPSILI AND VARIA;EDASIA AND VARIA;EPSILI AND OXIA;EDASIA AND OXIA",
  "EPSILI AND PERISPOMENI;EDASIA AND PERISPOMENI;gCAPITAL LETTER ALPHA WITH PSILI;GDASIA",
  "GPSILI AND VARIA;GDASIA AND VARIA;GPSILI AND OXIA;GDASIA AND OXIA;GPSILI AND PERISPOMENI",
  "GDASIA AND PERISPOMENI;gSMALL LETTER EPSILON WITH PSILI;GDASIA;GPSILI AND VARIA",
  "GDASIA AND VARIA;GPSILI AND OXIA;GDASIA AND OXIA;+2;gCAPITAL LETTER EPSILON WITH PSILI",
  "IDASIA;IPSILI AND VARIA;IDASIA AND VARIA;IPSILI AND OXIA;IDASIA AND OXIA;+2",
  "gSMALL LETTER ETA WITH PSILI;CDASIA;CPSILI AND VARIA;CDASIA AND VARIA;CPSILI AND OXIA",
  "CDASIA AND OXIA;CPSILI AND PERISPOMENI;CDASIA AND PERISPOMENI;gCAPITAL LETTER ETA WITH PSILI",
  "EDASIA;EPSILI AND VARIA;EDASIA AND VARIA;EPSILI AND OXIA;EDASIA AND OXIA",
  "EPSILI AND PERISPOMENI;EDASIA AND PERISPOMENI;gSMALL LETTER IOTA WITH PSILI;DDASIA",
  "DPSILI AND VARIA;DDASIA AND VARIA;DPSILI AND OXIA;DDASIA AND OXIA;DPSILI AND PERISPOMENI",
  "DDASIA AND PERISPOMENI;gCAPITAL LETTER IOTA WITH PSILI;FDASIA;FPSILI AND VARIA",
  "FDASIA AND VARIA;FPSILI AND OXIA;FDASIA AND OXIA;FPSILI AND PERISPOMENI",
  "FDASIA AND PERISPOMENI;gSMALL LETTER OMICRON WITH PSILI;GDASIA;GPSILI AND VARIA",
  "GDASIA AND VARIA;GPSILI AND OXIA;GDASIA AND OXIA;+2;gCAPITAL LETTER OMICRON WITH PSILI",
  "IDASIA;IPSILI AND VARIA;IDASIA AND VARIA;IPSILI AND OXIA;IDASIA AND OXIA;+2",
  "gSMALL LETTER UPSILON WITH PSILI;GDASIA;GPSILI AND VARIA;GDASIA AND VARIA;GPSILI AND OXIA",
  "GDASIA AND OXIA;GPSILI AND PERISPOMENI;GDASIA AND PERISPOMENI;+1",
  "gCAPITAL LETTER UPSILON WITH DASIA;+1;N AND VARIA;+1;SOXIA;+1;SPERISPOMENI",
  "gSMALL LETTER OMEGA WITH PSILI;EDASIA;EPSILI AND VARIA;EDASIA AND VARIA;EPSILI AND OXIA",
  "EDASIA AND OXIA;EPSILI AND PERISPOMENI;EDASIA AND PERISPOMENI",
  "gCAPITAL LETTER OMEGA WITH PSILI;GDASIA;GPSILI AND VARIA;GDASIA AND VARIA;GPSILI AND OXIA",
  "GDASIA AND OXIA;GPSILI AND PERISPOMENI;GDASIA AND PERISPOMENI;gSMALL LETTER ALPHA WITH VARIA",
  "EOXIA;tEPSILON WITH VARIA;GOXIA;uTA WITH VARIA;COXIA;tIOTA WITH VARIA;DOXIA",
  "tOMICRON WITH VARIA;GOXIA;tUPSILON WITH VARIA;GOXIA;tOMEGA WITH VARIA;EOXIA;+2",
  "tALPHA WITH PSILI AND YPOGEGRAMMENI;EDASIA AND YPOGEGRAMMENI",
  "EPSILI AND VARIA AND YPOGEGRAMMENI;EDASIA AND VARIA AND YPOGEGRAMMENI",
  "EPSILI AND OXIA AND YPOGEGRAMMENI;EDASIA AND OXIA AND YPOGEGRAMMENI",
  "EPSILI AND PERISPOMENI AND YPOGEGRAMMENI;EDASIA AND PERISPOMENI AND YPOGEGRAMMENI",
  "gCAPITAL LETTER ALPHA WITH PSILI AND PROSGEGRAMMENI;GDASIA AND PROSGEGRAMMENI",
  "GPSILI AND VARIA AND PROSGEGRAMMENI;GDASIA AND VARIA AND PROSGEGRAMMENI",
  "GPSILI AND OXIA AND PROSGEGRAMMENI;GDASIA AND OXIA AND PROSGEGRAMMENI",
  "GPSILI AND PERISPOMENI AND PROSGEGRAMMENI;GDASIA AND PERISPOMENI AND PROSGEGRAMMENI",
  "gSMALL LETTER ETA WITH PSILI AND YPOGEGRAMMENI;CDASIA AND YPOGEGRAMMENI",
  "CPSILI AND VARIA AND YPOGEGRAMMENI;CDASIA AND VARIA AND YPOGEGRAMMENI",
  "CPSILI AND OXIA AND YPOGEGRAMMENI;CDASIA AND OXIA AND YPOGEGRAMMENI",
  "CPSILI AND PERISPOMENI AND YPOGEGRAMMENI;CDASIA AND PERISPOMENI AND YPOGEGRAMMENI",
  "gCAPITAL LETTER ETA WITH PSILI AND PROSGEGRAMMENI;EDASIA AND PROSGEGRAMMENI",
  "EPSILI AND VARIA AND PROSGEGRAMMENI;EDASIA AND VARIA AND PROSGEGRAMMENI",
  "EPSILI AND OXIA AND PROSGEGRAMMENI;EDASIA AND OXIA AND PROSGEGRAMMENI",
  "EPSILI AND PERISPOMENI AND PROSGEGRAMMENI;EDASIA AND PERISPOMENI AND PROSGEGRAMMENI",
  "gSMALL LETTER OMEGA WITH PSILI AND YPOGEGRAMMENI;EDASIA AND YPOGEGRAMMENI",
  "EPSILI AND VARIA AND YPOGEGRAMMENI;EDASIA AND VARIA AND YPOGEGRAMMENI",
  "EPSILI AND OXIA AND YPOGEGRAMMENI;EDASIA AND OXIA AND YPOGEGRAMMENI",
  "EPSILI AND PERISPOMENI AND YPOGEGRAMMENI;EDASIA AND PERISPOMENI AND YPOGEGRAMMENI",
  "gCAPITAL LETTER OMEGA WITH PSILI AND PROSGEGRAMMENI;GDASIA AND PROSGEGRAMMENI",
  "GPSILI AND VARIA AND PROSGEGRAMMENI;GDASIA AND VARIA AND PROSGEGRAMMENI",
  "GPSILI AND OXIA AND PROSGEGRAMMENI;GDASIA AND OXIA AND PROSGEGRAMMENI",
  "GPSILI AND PERISPOMENI AND PROSGEGRAMMENI;GDASIA AND PERISPOMENI AND PROSGEGRAMMENI",
  "gSMALL LETTER ALPHA WITH VRACHY;EMACRON;EVARIA AND YPOGEGRAMMENI;EYPOGEGRAMMENI",
  "EOXIA AND YPOGEGRAMMENI;+1;EPERISPOMENI;P AND YPOGEGRAMMENI",
  "gCAPITAL LETTER ALPHA WITH VRACHY;GMACRON;GVARIA;GOXIA;GPROSGEGRAMMENI;gKORONIS",
  "gPROSGEGRAMMENI;hSILI;hERISPOMENI;gDIALYTIKA AND PERISPOMENI",
  "gSMALL LETTER ETA WITH VARIA AND YPOGEGRAMMENI;CYPOGEGRAMMENI;COXIA AND YPOGEGRAMMENI;+1",
  "CPERISPOMENI;N AND YPOGEGRAMMENI;gCAPITAL LETTER EPSILON WITH VARIA;IOXIA;wTA WITH VARIA",
  "EOXIA;EPROSGEGRAMMENI;gPSILI AND VARIA;qOXIA;qPERISPOMENI;gSMALL LETTER IOTA WITH VRACHY",
  "DMACRON;DDIALYTIKA AND VARIA;ROXIA;+2;DPERISPOMENI;DDIALYTIKA AND PERISPOMENI",
  "gCAPITAL LETTER IOTA WITH VRACHY;FMACRON;FVARIA;FOXIA;+1;gDASIA AND VARIA;qOXIA;qPERISPOMENI",
  "gSMALL LETTER UPSILON WITH VRACHY;GMACRON;GDIALYTIKA AND VARIA;UOXIA;tRHO WITH PSILI;CDASIA",
  "tUPSILON WITH PERISPOMENI;GDIALYTIKA AND PERISPOMENI;gCAPITAL LETTER UPSILON WITH VRACHY",
  "IMACRON;IVARIA;IOXIA;vRHO WITH DASIA;gDIALYTIKA AND VARIA;uOXIA;gVARIA;+2",
  "gSMALL LETTER OMEGA WITH VARIA AND YPOGEGRAMMENI;EYPOGEGRAMMENI;EOXIA AND YPOGEGRAMMENI;+1",
  "EPERISPOMENI;P AND YPOGEGRAMMENI;gCAPITAL LETTER OMICRON WITH VARIA;IOXIA;xEGA WITH VARIA",
  "GOXIA;GPROSGEGRAMMENI;gOXIA;gDASIA;+1;aEN QUAD;bM QUAD;bN SPACE;bM SPACE;aTHREE-PER-EM SPACE",
  "aFOUR-PER-EM SPACE;aSIX-PER-EM SPACE;aFIGURE SPACE;aPUNCTUATION SPACE;aTHIN SPACE",
  "aHAIR SPACE;aZERO WIDTH SPACE;lNON-JOINER;lJOINER;aLEFT-TO-RIGHT MARK;aRIGHT-TO-LEFT MARK",
  "aHYPHEN;aNON-BREAKING HYPHEN;aFIGURE DASH;aEN DASH;bM DASH;aHORIZONTAL BAR",
  "aDOUBLE VERTICAL LINE;hLOW LINE;aLEFT SINGLE QUOTATION MARK;aRIGHT SINGLE QUOTATION MARK",
  "aSINGLE LOW-9 QUOTATION MARK;hHIGH-REVERSED-9 QUOTATION MARK;aLEFT DOUBLE QUOTATION MARK",
  "aRIGHT DOUBLE QUOTATION MARK;aDOUBLE LOW-9 QUOTATION MARK;hHIGH-REVERSED-9 QUOTATION MARK",
  "bAGGER;bOUBLE DAGGER;aBULLET;aTRIANGULAR BULLET;aONE DOT LEADER;aTWO DOT LEADER",
  "aHORIZONTAL ELLIPSIS;bYPHENATION POINT;aLINE SEPARATOR;aPARAGRAPH SEPARATOR",
  "aLEFT-TO-RIGHT EMBEDDING;aRIGHT-TO-LEFT EMBEDDING;aPOP DIRECTIONAL FORMATTING",
  "aLEFT-TO-RIGHT OVERRIDE;aRIGHT-TO-LEFT OVERRIDE;aNARROW NO-BREAK SPACE;aPER MILLE SIGN",
  "eTEN THOUSAND SIGN;bRIME;aDOUBLE PRIME;aTRIPLE PRIME;aREVERSED PRIME;jDOUBLE PRIME",
  "jTRIPLE PRIME;aCARET;aSINGLE LEFT-POINTING ANGLE QUOTATION MARK",
  "hRIGHT-POINTING ANGLE QUOTATION MARK;aREFERENCE MARK;aDOUBLE EXCLAMATION MARK;aINTERROBANG",
  "aOVERLINE;aUNDERTIE;aCHARACTER TIE;bARET INSERTION POINT;aASTERISM;aHYPHEN BULLET",
  "aFRACTION SLASH;aLEFT SQUARE BRACKET WITH QUILL;aRIGHT SQUARE BRACKET WITH QUILL",
  "aDOUBLE QUESTION MARK;aQUESTION EXCLAMATION MARK;aEXCLAMATION QUESTION MARK",
  "aTIRONIAN SIGN ET;aREVERSED PILCROW SIGN;aBLACK LEFTWARDS BULLET;gRIGHTWARDS BULLET",
  "aLOW ASTERISK;aREVERSED SEMICOLON;aCLOSE UP;aTWO ASTERISKS ALIGNED VERTICALLY",
  "aCOMMERCIAL MINUS SIGN;aSWUNG DASH;aINVERTED UNDERTIE;aFLOWER PUNCTUATION MARK",
  "aTHREE DOT PUNCTUATION;aQUADRUPLE PRIME;aFOUR DOT PUNCTUATION;bIVE DOT PUNCTUATION",
  "aTWO DOT PUNCTUATION;aFOUR DOT MARK;aDOTTED CROSS;aTRICOLON;aVERTICAL FOUR DOTS",
  "aMEDIUM MATHEMATICAL SPACE;aWORD JOINER;aFUNCTION APPLICATION;aINVISIBLE TIMES;kSEPARATOR",
  "kPLUS;+1;aLEFT-TO-RIGHT ISOLATE;aRIGHT-TO-LEFT ISOLATE;aFIRST STRONG ISOLATE",
  "aPOP DIRECTIONAL ISOLATE;aINHIBIT SYMMETRIC SWAPPING;aACTIVATE SYMMETRIC SWAPPING",
  "aINHIBIT ARABIC FORM SHAPING;aACTIVATE ARABIC FORM SHAPING;aNATIONAL DIGIT SHAPES",
  "bOMINAL DIGIT SHAPES;aSUPERSCRIPT ZERO;mLATIN SMALL LETTER I;+2;mFOUR;nIVE;mSIX;nEVEN;mEIGHT",
  "mNINE;mPLUS SIGN;mMINUS;mEQUALS SIGN;mLEFT PARENTHESIS;mRIGHT PARENTHESIS",
  "mLATIN SMALL LETTER N;cBSCRIPT ZERO;kONE;kTWO;lHREE;kFOUR;lIVE;kSIX;lEVEN;kEIGHT;kNINE",
  "kPLUS SIGN;kMINUS;kEQUALS SIGN;kLEFT PARENTHESIS;kRIGHT PARENTHESIS;+1",
  "aLATIN SUBSCRIPT SMALL LETTER A;DE;DO;DX;DSCHWA;DH;DK;DL;DM;DN;DP;DS;DT;+3",
  "aEURO-CURRENCY SIGN;aCOLON SIGN;bRUZEIRO SIGN;aFRENCH FRANC SIGN;aLIRA SIGN;aMILL SIGN",
  "aNAIRA SIGN;aPESETA SIGN;aRUPEE SIGN;aWON SIGN;aNEW SHEQEL SIGN;aDONG SIGN;aEURO SIGN",
  "aKIP SIGN;aTUGRIK SIGN;aDRACHMA SIGN;aGERMAN PENNY SIGN;aPESO SIGN;aGUARANI SIGN",
  "aAUSTRAL SIGN;aHRYVNIA SIGN;aCEDI SIGN;aLIVRE TOURNOIS SIGN;aSPESMILO SIGN;aTENGE SIGN",
  "aINDIAN RUPEE SIGN;aTURKISH LIRA SIGN;aNORDIC MARK SIGN;aMANAT SIGN;aRUBLE SIGN;aLARI SIGN",
  "aBITCOIN SIGN;aSOM SIGN;+f;aCOMBINING LEFT HARPOON ABOVE;kRIGHT HARPOON ABOVE",
  "kLONG VERTICAL LINE OVERLAY;kSHORT VERTICAL LINE OVERLAY;kANTICLOCKWISE ARROW ABOVE",
  "kCLOCKWISE ARROW ABOVE;kLEFT ARROW ABOVE;kRIGHT ARROW ABOVE;mNG OVERLAY",
  "kCLOCKWISE RING OVERLAY;kANTICLOCKWISE RING OVERLAY;kTHREE DOTS ABOVE;kFOUR DOTS ABOVE",
  "kENCLOSING CIRCLE;uSQUARE;uDIAMOND;uCIRCLE BACKSLASH;kLEFT RIGHT ARROW ABOVE",
  "kENCLOSING SCREEN;uKEYCAP;uUPWARD POINTING TRIANGLE;kREVERSE SOLIDUS OVERLAY",
  "kDOUBLE VERTICAL STROKE OVERLAY;kANNUITY SYMBOL;kTRIPLE UNDERDOT;kWIDE BRIDGE ABOVE",
  "kLEFTWARDS ARROW OVERLAY;lONG DOUBLE SOLIDUS OVERLAY;kRIGHTWARDS HARPOON WITH BARB DOWNWARDS",
  "kLEFTWARDS HARPOON WITH BARB DOWNWARDS;o ARROW BELOW;kRIGHT ARROW BELOW;kASTERISK ABOVE;+f",
  "aACCOUNT OF;bDDRESSED TO THE SUBJECT;aDOUBLE-STRUCK CAPITAL C;bEGREE CELSIUS",
  "aCENTRE LINE SYMBOL;bARE OF;cDA UNA;aEULER CONSTANT;aSCRUPLE;aDEGREE FAHRENHEIT",
  "aSCRIPT SMALL G;hCAPITAL H;aBLACK-LETTER CAPITAL H;aDOUBLE-STRUCK CAPITAL H;aPLANCK CONSTANT",
  "p OVER TWO PI;aSCRIPT CAPITAL I;aBLACK-LETTER CAPITAL I;aSCRIPT CAPITAL L;hSMALL L",
  "aL B BAR SYMBOL;aDOUBLE-STRUCK CAPITAL N;aNUMERO SIGN;aSOUND RECORDING COPYRIGHT",
  "bCRIPT CAPITAL P;aDOUBLE-STRUCK CAPITAL P;wQ;aSCRIPT CAPITAL R;aBLACK-LETTER CAPITAL R",
  "aDOUBLE-STRUCK CAPITAL R;aPRESCRIPTION TAKE;aRESPONSE;aSERVICE MARK;aTELEPHONE SIGN",
  "bRADE MARK SIGN;aVERSICLE;aDOUBLE-STRUCK CAPITAL Z;aOUNCE SIGN;bHM SIGN;aINVERTED OHM SIGN",
  "aBLACK-LETTER CAPITAL Z;aTURNED GREEK SMALL LETTER IOTA;aKELVIN SIGN;aANGSTROM SIGN",
  "aSCRIPT CAPITAL B;aBLACK-LETTER CAPITAL C;aESTIMATED SYMBOL;aSCRIPT SMALL E;hCAPITAL E;pF",
  "aTURNED CAPITAL F;aSCRIPT CAPITAL M;hSMALL O;aALEF SYMBOL;aBET SYMBOL;aGIMEL SYMBOL",
  "aDALET SYMBOL;aINFORMATION SOURCE;aROTATED CAPITAL Q;aFACSIMILE SIGN;aDOUBLE-STRUCK SMALL PI",
  "uGAMMA;oCAPITAL GAMMA;wPI;oN-ARY SUMMATION;aTURNED SANS-SERIF CAPITAL G;AL",
  "aREVERSED SANS-SERIF CAPITAL L;aTURNED SANS-SERIF CAPITAL Y;aDOUBLE-STRUCK ITALIC CAPITAL D",
  "vSMALL D;BE;BI;BJ;aPROPERTY LINE;aTURNED AMPERSAND;aPER SIGN;aAKTIESELSKAB;aTURNED SMALL F",
  "aSYMBOL FOR SAMARITAN SOURCE;aVULGAR FRACTION ONE SEVENTH;uNINTH;uTENTH;vHIRD;qTWO THIRDS",
  "qONE FIFTH;qTWO FIFTHS;rHREE FIFTHS;qFOUR FIFTHS;qONE SIXTH;qFIVE SIXTHS;qONE EIGHTH",
  "qTHREE EIGHTHS;qFIVE EIGHTHS;qSEVEN EIGHTHS;aFRACTION NUMERATOR ONE;aROMAN NUMERAL ONE;oTWO",
  "pHREE;oFOUR;pIVE;oSIX;pEVEN;oEIGHT;oNINE;oTEN;oELEVEN;oTWELVE;oFIFTY;oONE HUNDRED",
  "oFIVE HUNDRED;oONE THOUSAND;aSMALL ROMAN NUMERAL ONE;uTWO;vHREE;uFOUR;vIVE;uSIX;vEVEN;uEIGHT",
  "uNINE;uTEN;uELEVEN;uTWELVE;uFIFTY;uONE HUNDRED;uFIVE HUNDRED;uONE THOUSAND",
  "aROMAN NUMERAL ONE THOUSAND C D;oFIVE THOUSAND;oTEN THOUSAND;oREVERSED ONE HUNDRED",
  "aLATIN SMALL LETTER REVERSED C;aROMAN NUMERAL SIX LATE FORM;oFIFTY EARLY FORM;uTHOUSAND",
  "oONE HUNDRED THOUSAND;aVULGAR FRACTION ZERO THIRDS;aTURNED DIGIT TWO;oHREE;+4",
  "aLEFTWARDS ARROW;aUPWARDS ARROW;aRIGHTWARDS ARROW;aDOWNWARDS ARROW;aLEFT RIGHT ARROW",
  "aUP DOWN ARROW;aNORTH WEST ARROW;gEAST ARROW;aSOUTH EAST ARROW;gWEST ARROW",
  "aLEFTWARDS ARROW WITH STROKE;aRIGHTWARDS ARROW WITH STROKE;aLEFTWARDS WAVE ARROW",
  "aRIGHTWARDS WAVE ARROW;aLEFTWARDS TWO HEADED ARROW;aUPWARDS TWO HEADED ARROW",
  "aRIGHTWARDS TWO HEADED ARROW;aDOWNWARDS TWO HEADED ARROW;aLEFTWARDS ARROW WITH TAIL",
  "aRIGHTWARDS ARROW WITH TAIL;aLEFTWARDS ARROW FROM BAR;aUPWARDS ARROW FROM BAR",
  "aRIGHTWARDS ARROW FROM BAR;aDOWNWARDS ARROW FROM BAR;aUP DOWN ARROW WITH BASE",
  "aLEFTWARDS ARROW WITH HOOK;aRIGHTWARDS ARROW WITH HOOK;aLEFTWARDS ARROW WITH LOOP",
  "aRIGHTWARDS ARROW WITH LOOP;aLEFT RIGHT WAVE ARROW;lARROW WITH STROKE",
  "aDOWNWARDS ZIGZAG ARROW;aUPWARDS ARROW WITH TIP LEFTWARDS;xRIGHTWARDS",
  "aDOWNWARDS ARROW WITH TIP LEFTWARDS;zRIGHTWARDS;aRIGHTWARDS ARROW WITH CORNER DOWNWARDS",
  "aDOWNWARDS ARROW WITH CORNER LEFTWARDS;aANTICLOCKWISE TOP SEMICIRCLE ARROW",
  "aCLOCKWISE TOP SEMICIRCLE ARROW;aNORTH WEST ARROW TO LONG BAR",
  "aLEFTWARDS ARROW TO BAR OVER RIGHTWARDS ARROW TO BAR;aANTICLOCKWISE OPEN CIRCLE ARROW",
  "aCLOCKWISE OPEN CIRCLE ARROW;aLEFTWARDS HARPOON WITH BARB UPWARDS;CDOWNWARDS",
  "aUPWARDS HARPOON WITH BARB RIGHTWARDS;ALEFTWARDS;aRIGHTWARDS HARPOON WITH BARB UPWARDS",
  "DDOWNWARDS;aDOWNWARDS HARPOON WITH BARB RIGHTWARDS;CLEFTWARDS",
  "aRIGHTWARDS ARROW OVER LEFTWARDS ARROW;aUPWARDS ARROW LEFTWARDS OF DOWNWARDS ARROW",
  "aLEFTWARDS ARROW OVER RIGHTWARDS ARROW;kPAIRED ARROWS;aUPWARDS PAIRED ARROWS",
  "aRIGHTWARDS PAIRED ARROWS;aDOWNWARDS PAIRED ARROWS",
  "aLEFTWARDS HARPOON OVER RIGHTWARDS HARPOON;aRIGHTWARDS HARPOON OVER LEFTWARDS HARPOON",
  "aLEFTWARDS DOUBLE ARROW WITH STROKE;e RIGHT DOUBLE ARROW WITH STROKE",
  "aRIGHTWARDS DOUBLE ARROW WITH STROKE;aLEFTWARDS DOUBLE ARROW;aUPWARDS DOUBLE ARROW",
  "aRIGHTWARDS DOUBLE ARROW;aDOWNWARDS DOUBLE ARROW;aLEFT RIGHT DOUBLE ARROW",
  "aUP DOWN DOUBLE ARROW;aNORTH WEST DOUBLE ARROW;gEAST DOUBLE ARROW;aSOUTH EAST DOUBLE ARROW",
  "gWEST DOUBLE ARROW;aLEFTWARDS TRIPLE ARROW;aRIGHTWARDS TRIPLE ARROW",
  "aLEFTWARDS SQUIGGLE ARROW;aRIGHTWARDS SQUIGGLE ARROW;aUPWARDS ARROW WITH DOUBLE STROKE",
  "aDOWNWARDS ARROW WITH DOUBLE STROKE;aLEFTWARDS DASHED ARROW;aUPWARDS DASHED ARROW",
  "aRIGHTWARDS DASHED ARROW;aDOWNWARDS DASHED ARROW;aLEFTWARDS ARROW TO BAR",
  "aRIGHTWARDS ARROW TO BAR;aLEFTWARDS WHITE ARROW;aUPWARDS WHITE ARROW;aRIGHTWARDS WHITE ARROW",
  "aDOWNWARDS WHITE ARROW;aUPWARDS WHITE ARROW FROM BAR;uON PEDESTAL;F WITH HORIZONTAL BAR",
  "LVERTICAL BAR;oDOUBLE ARROW;A ON PEDESTAL;aRIGHTWARDS WHITE ARROW FROM WALL",
  "aNORTH WEST ARROW TO CORNER;aSOUTH EAST ARROW TO CORNER;aUP DOWN WHITE ARROW",
  "aRIGHT ARROW WITH SMALL CIRCLE;aDOWNWARDS ARROW LEFTWARDS OF UPWARDS ARROW",
  "aTHREE RIGHTWARDS ARROWS;aLEFTWARDS ARROW WITH VERTICAL STROKE",
  "aRIGHTWARDS ARROW WITH VERTICAL STROKE;aLEFT RIGHT ARROW WITH VERTICAL STROKE",
  "eWARDS ARROW WITH DOUBLE VERTICAL STROKE;aRIGHTWARDS ARROW WITH DOUBLE VERTICAL STROKE",
  "aLEFT RIGHT ARROW WITH DOUBLE VERTICAL STROKE;eWARDS OPEN-HEADED ARROW",
  "aRIGHTWARDS OPEN-HEADED ARROW;aLEFT RIGHT OPEN-HEADED ARROW;aFOR ALL;aCOMPLEMENT",
  "aPARTIAL DIFFERENTIAL;aTHERE EXISTS;gDOES NOT EXIST;aEMPTY SET;aINCREMENT;aNABLA;aELEMENT OF",
  "aNOT AN ELEMENT OF;aSMALL ELEMENT OF;aCONTAINS AS MEMBER;aDOES NOT CONTAIN AS MEMBER",
  "aSMALL CONTAINS AS MEMBER;aEND OF PROOF;aN-ARY PRODUCT;gCOPRODUCT;gSUMMATION;aMINUS SIGN",
  "f-OR-PLUS SIGN;aDOT PLUS;bIVISION SLASH;aSET MINUS;aASTERISK OPERATOR;aRING OPERATOR",
  "aBULLET OPERATOR;aSQUARE ROOT;aCUBE ROOT;aFOURTH ROOT;aPROPORTIONAL TO;aINFINITY",
  "aRIGHT ANGLE;aANGLE;aMEASURED ANGLE;aSPHERICAL ANGLE;aDIVIDES;bOES NOT DIVIDE;aPARALLEL TO",
  "aNOT PARALLEL TO;aLOGICAL AND;iOR;aINTERSECTION;aUNION;aINTEGRAL;aDOUBLE INTEGRAL",
  "aTRIPLE INTEGRAL;aCONTOUR INTEGRAL;aSURFACE INTEGRAL;aVOLUME INTEGRAL;aCLOCKWISE INTEGRAL",
  "kCONTOUR INTEGRAL;aANTICLOCKWISE CONTOUR INTEGRAL;aTHEREFORE;aBECAUSE;aRATIO;aPROPORTION",
  "aDOT MINUS;aEXCESS;aGEOMETRIC PROPORTION;aHOMOTHETIC;aTILDE OPERATOR;aREVERSED TILDE",
  "aINVERTED LAZY S;aSINE WAVE;aWREATH PRODUCT;aNOT TILDE;aMINUS TILDE;aASYMPTOTICALLY EQUAL TO",
  "aNOT ASYMPTOTICALLY EQUAL TO;aAPPROXIMATELY EQUAL TO;oBUT NOT ACTUALLY EQUAL TO",
  "aNEITHER APPROXIMATELY NOR ACTUALLY EQUAL TO;aALMOST EQUAL TO;aNOT ALMOST EQUAL TO",
  "aALMOST EQUAL OR EQUAL TO;aTRIPLE TILDE;aALL EQUAL TO;aEQUIVALENT TO",
  "aGEOMETRICALLY EQUIVALENT TO;aDIFFERENCE BETWEEN;aAPPROACHES THE LIMIT",
  "aGEOMETRICALLY EQUAL TO;aAPPROXIMATELY EQUAL TO OR THE IMAGE OF",
  "aIMAGE OF OR APPROXIMATELY EQUAL TO;aCOLON EQUALS;aEQUALS COLON;aRING IN EQUAL TO;fEQUAL TO",
  "aCORRESPONDS TO;aESTIMATES;bQUIANGULAR TO;aSTAR EQUALS;aDELTA EQUAL TO",
  "aEQUAL TO BY DEFINITION;aMEASURED BY;aQUESTIONED EQUAL TO;aNOT EQUAL TO;aIDENTICAL TO",
  "aNOT IDENTICAL TO;aSTRICTLY EQUIVALENT TO;aLESS-THAN OR EQUAL TO;aGREATER-THAN OR EQUAL TO",
  "aLESS-THAN OVER EQUAL TO;aGREATER-THAN OVER EQUAL TO;aLESS-THAN BUT NOT EQUAL TO",
  "aGREATER-THAN BUT NOT EQUAL TO;aMUCH LESS-THAN;fGREATER-THAN;aBETWEEN;aNOT EQUIVALENT TO",
  "eLESS-THAN;eGREATER-THAN;bEITHER LESS-THAN NOR EQUAL TO;iGREATER-THAN NOR EQUAL TO",
  "aLESS-THAN OR EQUIVALENT TO;aGREATER-THAN OR EQUIVALENT TO",
  "aNEITHER LESS-THAN NOR EQUIVALENT TO;iGREATER-THAN NOR EQUIVALENT TO",
  "aLESS-THAN OR GREATER-THAN;aGREATER-THAN OR LESS-THAN;aNEITHER LESS-THAN NOR GREATER-THAN",
  "iGREATER-THAN NOR LESS-THAN;aPRECEDES;aSUCCEEDS;aPRECEDES OR EQUAL TO;aSUCCEEDS OR EQUAL TO",
  "aPRECEDES OR EQUIVALENT TO;aSUCCEEDS OR EQUIVALENT TO;aDOES NOT PRECEDE;jSUCCEED;aSUBSET OF",
  "cPERSET OF;aNOT A SUBSET OF;iPERSET OF;aSUBSET OF OR EQUAL TO;cPERSET OF OR EQUAL TO",
  "aNEITHER A SUBSET OF NOR EQUAL TO;mPERSET OF NOR EQUAL TO;aSUBSET OF WITH NOT EQUAL TO",
  "cPERSET OF WITH NOT EQUAL TO;aMULTISET;i MULTIPLICATION;jUNION;aSQUARE IMAGE OF;hORIGINAL OF",
  "hIMAGE OF OR EQUAL TO;hORIGINAL OF OR EQUAL TO;hCAP;iUP;aCIRCLED PLUS;iMINUS;iTIMES",
  "iDIVISION SLASH;jOT OPERATOR;iRING OPERATOR;iASTERISK OPERATOR;iEQUALS;iDASH;aSQUARED PLUS",
  "iMINUS;iTIMES;iDOT OPERATOR;aRIGHT TACK;aLEFT TACK;aDOWN TACK;aUP TACK;aASSERTION;aMODELS",
  "aTRUE;aFORCES;aTRIPLE VERTICAL BAR RIGHT TURNSTILE",
  "aDOUBLE VERTICAL BAR DOUBLE RIGHT TURNSTILE;cES NOT PROVE;aNOT TRUE;aDOES NOT FORCE",
  "aNEGATED DOUBLE VERTICAL BAR DOUBLE RIGHT TURNSTILE;aPRECEDES UNDER RELATION",
  "aSUCCEEDS UNDER RELATION;aNORMAL SUBGROUP OF;aCONTAINS AS NORMAL SUBGROUP",
  "aNORMAL SUBGROUP OF OR EQUAL TO;aCONTAINS AS NORMAL SUBGROUP OR EQUAL TO;aORIGINAL OF",
  "aIMAGE OF;aMULTIMAP;aHERMITIAN CONJUGATE MATRIX;aINTERCALATE;aXOR;aNAND;bOR",
  "aRIGHT ANGLE WITH ARC;gTRIANGLE;aN-ARY LOGICAL AND;oOR;gINTERSECTION;gUNION",
  "aDIAMOND OPERATOR;bOT OPERATOR;aSTAR OPERATOR;aDIVISION TIMES;aBOWTIE",
  "aLEFT NORMAL FACTOR SEMIDIRECT PRODUCT;aRIGHT NORMAL FACTOR SEMIDIRECT PRODUCT",
  "aLEFT SEMIDIRECT PRODUCT;aRIGHT SEMIDIRECT PRODUCT;bEVERSED TILDE EQUALS;aCURLY LOGICAL OR",
  "oAND;aDOUBLE SUBSET;jPERSET;hINTERSECTION;hUNION;aPITCHFORK;aEQUAL AND PARALLEL TO",
  "aLESS-THAN WITH DOT;aGREATER-THAN WITH DOT;aVERY MUCH LESS-THAN;kGREATER-THAN"]

def characterNameEntriesC : List String := [
  "aLESS-THAN EQUAL TO OR GREATER-THAN;aGREATER-THAN EQUAL TO OR LESS-THAN",
  "aEQUAL TO OR LESS-THAN;mGREATER-THAN;mPRECEDES;mSUCCEEDS;aDOES NOT PRECEDE OR EQUAL",
  "jSUCCEED OR EQUAL;aNOT SQUARE IMAGE OF OR EQUAL TO;lORIGINAL OF OR EQUAL TO",
  "aSQUARE IMAGE OF OR NOT EQUAL TO;hORIGINAL OF OR NOT EQUAL TO",
  "aLESS-THAN BUT NOT EQUIVALENT TO;aGREATER-THAN BUT NOT EQUIVALENT TO",
  "aPRECEDES BUT NOT EQUIVALENT TO;aSUCCEEDS BUT NOT EQUIVALENT TO;aNOT NORMAL SUBGROUP OF",
  "aDOES NOT CONTAIN AS NORMAL SUBGROUP;aNOT NORMAL SUBGROUP OF OR EQUAL TO",
  "aDOES NOT CONTAIN AS NORMAL SUBGROUP OR EQUAL;aVERTICAL ELLIPSIS",
  "aMIDLINE HORIZONTAL ELLIPSIS;aUP RIGHT DIAGONAL ELLIPSIS;aDOWN RIGHT DIAGONAL ELLIPSIS",
  "aELEMENT OF WITH LONG HORIZONTAL STROKE;qVERTICAL BAR AT END OF HORIZONTAL STROKE",
  "aSMALL ELEMENT OF WITH VERTICAL BAR AT END OF HORIZONTAL STROKE;aELEMENT OF WITH DOT ABOVE",
  "qOVERBAR;aSMALL ELEMENT OF WITH OVERBAR;aELEMENT OF WITH UNDERBAR;qTWO HORIZONTAL STROKES",
  "aCONTAINS WITH LONG HORIZONTAL STROKE;oVERTICAL BAR AT END OF HORIZONTAL STROKE",
  "aSMALL CONTAINS WITH VERTICAL BAR AT END OF HORIZONTAL STROKE;aCONTAINS WITH OVERBAR",
  "aSMALL CONTAINS WITH OVERBAR;aZ NOTATION BAG MEMBERSHIP;aDIAMETER SIGN;aELECTRIC ARROW",
  "aHOUSE;aUP ARROWHEAD;aDOWN ARROWHEAD;aPROJECTIVE;bERSPECTIVE;aWAVY LINE;aLEFT CEILING",
  "aRIGHT CEILING;aLEFT FLOOR;aRIGHT FLOOR;aBOTTOM RIGHT CROP;hLEFT CROP;aTOP RIGHT CROP",
  "eLEFT CROP;aREVERSED NOT SIGN;aSQUARE LOZENGE;aARC;aSEGMENT;cCTOR;aTELEPHONE RECORDER",
  "aPOSITION INDICATOR;aVIEWDATA SQUARE;aPLACE OF INTEREST SIGN;aTURNED NOT SIGN;aWATCH",
  "aHOURGLASS;aTOP LEFT CORNER;eRIGHT CORNER;aBOTTOM LEFT CORNER;hRIGHT CORNER",
  "aTOP HALF INTEGRAL;aBOTTOM HALF INTEGRAL;aFROWN;aSMILE",
  "aUP ARROWHEAD BETWEEN TWO HORIZONTAL BARS;aOPTION KEY;aERASE TO THE RIGHT",
  "aX IN A RECTANGLE BOX;aKEYBOARD;aLEFT-POINTING ANGLE BRACKET;aRIGHT-POINTING ANGLE BRACKET",
  "aERASE TO THE LEFT;aBENZENE RING;aCYLINDRICITY;aALL AROUND-PROFILE;aSYMMETRY;aTOTAL RUNOUT",
  "aDIMENSION ORIGIN;aCONICAL TAPER;aSLOPE;aCOUNTERBORE;hSINK;aAPL FUNCTIONAL SYMBOL I-BEAM",
  "wSQUISH QUAD;wQUAD EQUAL;BDIVIDE;DAMOND;BJOT;BCIRCLE;wCIRCLE STILE;DJOT;wSLASH BAR",
  "wBACKSLASH BAR;wQUAD SLASH;BBACKSLASH;BLESS-THAN;BGREATER-THAN;wLEFTWARDS VANE",
  "wRIGHTWARDS VANE;wQUAD LEFTWARDS ARROW;BRIGHTWARDS ARROW;wCIRCLE BACKSLASH",
  "wDOWN TACK UNDERBAR;xELTA STILE;wQUAD DOWN CARET;CELTA;wDOWN TACK JOT;wUPWARDS VANE",
  "wQUAD UPWARDS ARROW;wUP TACK OVERBAR;wDEL STILE;wQUAD UP CARET;BDEL;wUP TACK JOT",
  "wDOWNWARDS VANE;wQUAD DOWNWARDS ARROW;yOTE UNDERBAR;wDELTA UNDERBAR;xIAMOND UNDERBAR",
  "wJOT UNDERBAR;wCIRCLE UNDERBAR;wUP SHOE JOT;wQUOTE QUAD;wCIRCLE STAR;wQUAD COLON",
  "wUP TACK DIAERESIS;wDEL DIAERESIS;wSTAR DIAERESIS;wJOT DIAERESIS;wCIRCLE DIAERESIS",
  "wDOWN SHOE STILE;wLEFT SHOE STILE;wTILDE DIAERESIS;wGREATER-THAN DIAERESIS;wCOMMA BAR",
  "wDEL TILDE;wZILDE;wSTILE TILDE;xEMICOLON UNDERBAR;wQUAD NOT EQUAL;BQUESTION",
  "wDOWN CARET TILDE;wUP CARET TILDE;wIOTA;wRHO;wOMEGA;wALPHA UNDERBAR;wEPSILON UNDERBAR",
  "wIOTA UNDERBAR;wOMEGA UNDERBAR;wALPHA;aNOT CHECK MARK",
  "aRIGHT ANGLE WITH DOWNWARDS ZIGZAG ARROW;aSHOULDERED OPEN BOX;aBELL SYMBOL",
  "aVERTICAL LINE WITH MIDDLE DOT;aINSERTION SYMBOL;aCONTINUOUS UNDERLINE SYMBOL",
  "aDISCONTINUOUS UNDERLINE SYMBOL;aEMPHASIS SYMBOL;aCOMPOSITION SYMBOL",
  "aWHITE SQUARE WITH CENTRE VERTICAL LINE;aENTER SYMBOL;aALTERNATIVE KEY SYMBOL;aHELM SYMBOL",
  "aCIRCLED HORIZONTAL BAR WITH NOTCH;iTRIANGLE DOWN;aBROKEN CIRCLE WITH NORTHWEST ARROW",
  "aUNDO SYMBOL;aMONOSTABLE SYMBOL;aHYSTERESIS SYMBOL;aOPEN-CIRCUIT-OUTPUT H-TYPE SYMBOL",
  "uL-TYPE SYMBOL;aPASSIVE-PULL-DOWN-OUTPUT SYMBOL;nUP-OUTPUT SYMBOL",
  "aDIRECT CURRENT SYMBOL FORM TWO;aSOFTWARE-FUNCTION SYMBOL;aAPL FUNCTIONAL SYMBOL QUAD",
  "aDECIMAL SEPARATOR KEY SYMBOL;aPREVIOUS PAGE;aNEXT PAGE;aPRINT SCREEN SYMBOL",
  "aCLEAR SCREEN SYMBOL;aLEFT PARENTHESIS UPPER HOOK;rEXTENSION;rLOWER HOOK",
  "aRIGHT PARENTHESIS UPPER HOOK;sEXTENSION;sLOWER HOOK;aLEFT SQUARE BRACKET UPPER CORNER",
  "uEXTENSION;uLOWER CORNER;aRIGHT SQUARE BRACKET UPPER CORNER;vEXTENSION;vLOWER CORNER",
  "aLEFT CURLY BRACKET UPPER HOOK;tMIDDLE PIECE;tLOWER HOOK;aCURLY BRACKET EXTENSION",
  "aRIGHT CURLY BRACKET UPPER HOOK;uMIDDLE PIECE;uLOWER HOOK;aINTEGRAL EXTENSION",
  "aHORIZONTAL LINE EXTENSION;aUPPER LEFT OR LOWER RIGHT CURLY BRACKET SECTION",
  "gRIGHT OR LOWER LEFT CURLY BRACKET SECTION;aSUMMATION TOP;kBOTTOM;aTOP SQUARE BRACKET",
  "aBOTTOM SQUARE BRACKET;v OVER TOP SQUARE BRACKET;aRADICAL SYMBOL BOTTOM",
  "aLEFT VERTICAL BOX LINE;aRIGHT VERTICAL BOX LINE;aHORIZONTAL SCAN LINE-1;v3;v7;v9",
  "aDENTISTRY SYMBOL LIGHT VERTICAL AND TOP RIGHT;KBOTTOM RIGHT;GWITH CIRCLE",
  "xDOWN AND HORIZONTAL WITH CIRCLE;xUP AND HORIZONTAL WITH CIRCLE;xVERTICAL WITH TRIANGLE",
  "xDOWN AND HORIZONTAL WITH TRIANGLE;xUP AND HORIZONTAL WITH TRIANGLE;xVERTICAL AND WAVE",
  "xDOWN AND HORIZONTAL WITH WAVE;xUP AND HORIZONTAL WITH WAVE;xDOWN AND HORIZONTAL",
  "xUP AND HORIZONTAL;xVERTICAL AND TOP LEFT;KBOTTOM LEFT;aSQUARE FOOT;aRETURN SYMBOL",
  "aEJECT SYMBOL;aVERTICAL LINE EXTENSION;aMETRICAL BREVE;jLONG OVER SHORT;jSHORT OVER LONG",
  "jLONG OVER TWO SHORTS;jTWO SHORTS OVER LONG;uJOINED;kRISEME;kETRASEME;jPENTASEME",
  "aEARTH GROUND;aFUSE;aTOP PARENTHESIS;aBOTTOM PARENTHESIS;aTOP CURLY BRACKET",
  "aBOTTOM CURLY BRACKET;aTOP TORTOISE SHELL BRACKET;aBOTTOM TORTOISE SHELL BRACKET",
  "aWHITE TRAPEZIUM;aBENZENE RING WITH CIRCLE;aSTRAIGHTNESS;aFLATNESS;aAC CURRENT",
  "aELECTRICAL INTERSECTION;aDECIMAL EXPONENT SYMBOL;aBLACK RIGHT-POINTING DOUBLE TRIANGLE",
  "gLEFT-POINTING DOUBLE TRIANGLE;gUP-POINTING DOUBLE TRIANGLE;gDOWN-POINTING DOUBLE TRIANGLE",
  "gRIGHT-POINTING DOUBLE TRIANGLE WITH VERTICAL BAR",
  "gLEFT-POINTING DOUBLE TRIANGLE WITH VERTICAL BAR",
  "gRIGHT-POINTING TRIANGLE WITH DOUBLE VERTICAL BAR;aALARM CLOCK;aSTOPWATCH;aTIMER CLOCK",
  "aHOURGLASS WITH FLOWING SAND;aBLACK MEDIUM LEFT-POINTING TRIANGLE;nRIGHT-POINTING TRIANGLE",
  "nUP-POINTING TRIANGLE;nDOWN-POINTING TRIANGLE;aDOUBLE VERTICAL BAR;aBLACK SQUARE FOR STOP",
  "gCIRCLE FOR RECORD;aPOWER SYMBOL;gON-OFF SYMBOL;i SYMBOL;gSLEEP SYMBOL;aOBSERVER EYE SYMBOL",
  "aSYMBOL FOR NULL;lSTART OF HEADING;uTEXT;lEND OF TEXT;tRANSMISSION;nQUIRY;lACKNOWLEDGE;lBELL",
  "mACKSPACE;lHORIZONTAL TABULATION;lLINE FEED;lVERTICAL TABULATION;lFORM FEED;lCARRIAGE RETURN",
  "lSHIFT OUT;rIN;lDATA LINK ESCAPE;mEVICE CONTROL ONE;ATWO;BHREE;AFOUR;lNEGATIVE ACKNOWLEDGE",
  "lSYNCHRONOUS IDLE;lEND OF TRANSMISSION BLOCK;lCANCEL;lEND OF MEDIUM;lSUBSTITUTE;lESCAPE",
  "lFILE SEPARATOR;lGROUP SEPARATOR;lRECORD SEPARATOR;lUNIT SEPARATOR;lSPACE;lDELETE",
  "aBLANK SYMBOL;aOPEN BOX;aSYMBOL FOR NEWLINE;lDELETE FORM TWO;lSUBSTITUTE FORM TWO;+19",
  "aOCR HOOK;eCHAIR;eFORK;eINVERTED FORK;eBELT BUCKLE;fOW TIE;fRANCH BANK IDENTIFICATION",
  "eAMOUNT OF CHECK;eDASH;eCUSTOMER ACCOUNT NUMBER;eDOUBLE BACKSLASH;+15;aCIRCLED DIGIT ONE",
  "oTWO;pHREE;oFOUR;pIVE;oSIX;pEVEN;oEIGHT;oNINE;iNUMBER TEN;pELEVEN;pTWELVE;qHIRTEEN;pFOURTEEN",
  "qIFTEEN;pSIXTEEN;qEVENTEEN;pEIGHTEEN;pNINETEEN;pTWENTY;aPARENTHESIZED DIGIT ONE;uTWO;vHREE",
  "uFOUR;vIVE;uSIX;vEVEN;uEIGHT;uNINE;oNUMBER TEN;vELEVEN;vTWELVE;wHIRTEEN;vFOURTEEN;wIFTEEN",
  "vSIXTEEN;wEVENTEEN;vEIGHTEEN;vNINETEEN;vTWENTY;aDIGIT ONE FULL STOP;gTWO FULL STOP",
  "hHREE FULL STOP;gFOUR FULL STOP;hIVE FULL STOP;gSIX FULL STOP;hEVEN FULL STOP",
  "gEIGHT FULL STOP;gNINE FULL STOP;aNUMBER TEN FULL STOP;hELEVEN FULL STOP;hTWELVE FULL STOP",
  "iHIRTEEN FULL STOP;hFOURTEEN FULL STOP;iIFTEEN FULL STOP;hSIXTEEN FULL STOP",
  "iEVENTEEN FULL STOP;hEIGHTEEN FULL STOP;hNINETEEN FULL STOP;hTWENTY FULL STOP",
  "aPARENTHESIZED LATIN SMALL LETTER A;HB;HC;HD;HE;HF;HG;HH;HI;HJ;HK;HL;HM;HN;HO;HP;HQ;HR;HS;HT",
  "HU;HV;HW;HX;HY;HZ;aCIRCLED LATIN CAPITAL LETTER A;DB;DC;DD;DE;DF;DG;DH;DI;DJ;DK;DL;DM;DN;DO",
  "DP;DQ;DR;DS;DT;DU;DV;DW;DX;DY;DZ;oSMALL LETTER A;BB;BC;BD;BE;BF;BG;BH;BI;BJ;BK;BL;BM;BN;BO",
  "BP;BQ;BR;BS;BT;BU;BV;BW;BX;BY;BZ;iDIGIT ZERO;aNEGATIVE CIRCLED NUMBER ELEVEN;yTWELVE",
  "zHIRTEEN;yFOURTEEN;zIFTEEN;ySIXTEEN;zEVENTEEN;yEIGHTEEN;yNINETEEN;yTWENTY",
  "aDOUBLE CIRCLED DIGIT ONE;vTWO;wHREE;vFOUR;wIVE;vSIX;wEVEN;vEIGHT;vNINE;pNUMBER TEN",
  "aNEGATIVE CIRCLED DIGIT ZERO;aBOX DRAWINGS LIGHT HORIZONTAL;nHEAVY HORIZONTAL",
  "nLIGHT VERTICAL;nHEAVY VERTICAL;nLIGHT TRIPLE DASH HORIZONTAL;nHEAVY TRIPLE DASH HORIZONTAL",
  "nLIGHT TRIPLE DASH VERTICAL;nHEAVY TRIPLE DASH VERTICAL;nLIGHT QUADRUPLE DASH HORIZONTAL",
  "nHEAVY QUADRUPLE DASH HORIZONTAL;nLIGHT QUADRUPLE DASH VERTICAL",
  "nHEAVY QUADRUPLE DASH VERTICAL;nLIGHT DOWN AND RIGHT;nDOWN LIGHT AND RIGHT HEAVY",
  "sHEAVY AND RIGHT LIGHT;nHEAVY DOWN AND RIGHT;nLIGHT DOWN AND LEFT;nDOWN LIGHT AND LEFT HEAVY",
  "sHEAVY AND LEFT LIGHT;nHEAVY DOWN AND LEFT;nLIGHT UP AND RIGHT;nUP LIGHT AND RIGHT HEAVY",
  "qHEAVY AND RIGHT LIGHT;nHEAVY UP AND RIGHT;nLIGHT UP AND LEFT;nUP LIGHT AND LEFT HEAVY",
  "qHEAVY AND LEFT LIGHT;nHEAVY UP AND LEFT;nLIGHT VERTICAL AND RIGHT",
  "nVERTICAL LIGHT AND RIGHT HEAVY;nUP HEAVY AND RIGHT DOWN LIGHT",
  "nDOWN HEAVY AND RIGHT UP LIGHT;nVERTICAL HEAVY AND RIGHT LIGHT",
  "nDOWN LIGHT AND RIGHT UP HEAVY;nUP LIGHT AND RIGHT DOWN HEAVY;nHEAVY VERTICAL AND RIGHT",
  "nLIGHT VERTICAL AND LEFT;nVERTICAL LIGHT AND LEFT HEAVY;nUP HEAVY AND LEFT DOWN LIGHT",
  "nDOWN HEAVY AND LEFT UP LIGHT;nVERTICAL HEAVY AND LEFT LIGHT;nDOWN LIGHT AND LEFT UP HEAVY",
  "nUP LIGHT AND LEFT DOWN HEAVY;nHEAVY VERTICAL AND LEFT;nLIGHT DOWN AND HORIZONTAL",
  "oEFT HEAVY AND RIGHT DOWN LIGHT;nRIGHT HEAVY AND LEFT DOWN LIGHT",
  "nDOWN LIGHT AND HORIZONTAL HEAVY;sHEAVY AND HORIZONTAL LIGHT",
  "nRIGHT LIGHT AND LEFT DOWN HEAVY;nLEFT LIGHT AND RIGHT DOWN HEAVY;nHEAVY DOWN AND HORIZONTAL",
  "nLIGHT UP AND HORIZONTAL;oEFT HEAVY AND RIGHT UP LIGHT;nRIGHT HEAVY AND LEFT UP LIGHT",
  "nUP LIGHT AND HORIZONTAL HEAVY;qHEAVY AND HORIZONTAL LIGHT;nRIGHT LIGHT AND LEFT UP HEAVY",
  "nLEFT LIGHT AND RIGHT UP HEAVY;nHEAVY UP AND HORIZONTAL;nLIGHT VERTICAL AND HORIZONTAL",
  "oEFT HEAVY AND RIGHT VERTICAL LIGHT;nRIGHT HEAVY AND LEFT VERTICAL LIGHT",
  "nVERTICAL LIGHT AND HORIZONTAL HEAVY;nUP HEAVY AND DOWN HORIZONTAL LIGHT",
  "nDOWN HEAVY AND UP HORIZONTAL LIGHT;nVERTICAL HEAVY AND HORIZONTAL LIGHT",
  "nLEFT UP HEAVY AND RIGHT DOWN LIGHT;nRIGHT UP HEAVY AND LEFT DOWN LIGHT",
  "nLEFT DOWN HEAVY AND RIGHT UP LIGHT;nRIGHT DOWN HEAVY AND LEFT UP LIGHT",
  "nDOWN LIGHT AND UP HORIZONTAL HEAVY;nUP LIGHT AND DOWN HORIZONTAL HEAVY",
  "nRIGHT LIGHT AND LEFT VERTICAL HEAVY;nLEFT LIGHT AND RIGHT VERTICAL HEAVY",
  "nHEAVY VERTICAL AND HORIZONTAL;nLIGHT DOUBLE DASH HORIZONTAL;nHEAVY DOUBLE DASH HORIZONTAL",
  "nLIGHT DOUBLE DASH VERTICAL;nHEAVY DOUBLE DASH VERTICAL;nDOUBLE HORIZONTAL;uVERTICAL",
  "pWN SINGLE AND RIGHT DOUBLE;sDOUBLE AND RIGHT SINGLE;pUBLE DOWN AND RIGHT",
  "pWN SINGLE AND LEFT DOUBLE;sDOUBLE AND LEFT SINGLE;pUBLE DOWN AND LEFT",
  "nUP SINGLE AND RIGHT DOUBLE;qDOUBLE AND RIGHT SINGLE;nDOUBLE UP AND RIGHT",
  "nUP SINGLE AND LEFT DOUBLE;qDOUBLE AND LEFT SINGLE;nDOUBLE UP AND LEFT",
  "nVERTICAL SINGLE AND RIGHT DOUBLE;wDOUBLE AND RIGHT SINGLE;nDOUBLE VERTICAL AND RIGHT",
  "nVERTICAL SINGLE AND LEFT DOUBLE;wDOUBLE AND LEFT SINGLE;nDOUBLE VERTICAL AND LEFT",
  "pWN SINGLE AND HORIZONTAL DOUBLE;sDOUBLE AND HORIZONTAL SINGLE;pUBLE DOWN AND HORIZONTAL",
  "nUP SINGLE AND HORIZONTAL DOUBLE;qDOUBLE AND HORIZONTAL SINGLE;nDOUBLE UP AND HORIZONTAL",
  "nVERTICAL SINGLE AND HORIZONTAL DOUBLE;wDOUBLE AND HORIZONTAL SINGLE",
  "nDOUBLE VERTICAL AND HORIZONTAL;nLIGHT ARC DOWN AND RIGHT;GLEFT;xUP AND LEFT;ERIGHT",
  "tDIAGONAL UPPER RIGHT TO LOWER LEFT;ILEFT TO LOWER RIGHT;CCROSS;tLEFT;tUP;tRIGHT;tDOWN",
  "nHEAVY LEFT;tUP;tRIGHT;tDOWN;nLIGHT LEFT AND HEAVY RIGHT;tUP AND HEAVY DOWN",
  "nHEAVY LEFT AND LIGHT RIGHT;tUP AND LIGHT DOWN;aUPPER HALF BLOCK;aLOWER ONE EIGHTH BLOCK",
  "kQUARTER BLOCK;gTHREE EIGHTHS BLOCK;gHALF BLOCK;gFIVE EIGHTHS BLOCK;gTHREE QUARTERS BLOCK",
  "gSEVEN EIGHTHS BLOCK;aFULL BLOCK;aLEFT SEVEN EIGHTHS BLOCK;fTHREE QUARTERS BLOCK",
  "fFIVE EIGHTHS BLOCK;fHALF BLOCK;fTHREE EIGHTHS BLOCK;fONE QUARTER BLOCK;jEIGHTH BLOCK",
  "aRIGHT HALF BLOCK;aLIGHT SHADE;aMEDIUM SHADE;aDARK SHADE;aUPPER ONE EIGHTH BLOCK",
  "aRIGHT ONE EIGHTH BLOCK;aQUADRANT LOWER LEFT;pRIGHT;jUPPER LEFT",
  "t AND LOWER LEFT AND LOWER RIGHT;ERIGHT;yUPPER RIGHT AND LOWER LEFT;URIGHT;pRIGHT",
  "u AND LOWER LEFT;J AND LOWER RIGHT;aBLACK SQUARE;aWHITE SQUARE;m WITH ROUNDED CORNERS",
  "nCONTAINING BLACK SMALL SQUARE;aSQUARE WITH HORIZONTAL FILL;mVERTICAL FILL",
  "mORTHOGONAL CROSSHATCH FILL;mUPPER LEFT TO LOWER RIGHT FILL;sRIGHT TO LOWER LEFT FILL",
  "mDIAGONAL CROSSHATCH FILL;aBLACK SMALL SQUARE;aWHITE SMALL SQUARE;aBLACK RECTANGLE",
  "aWHITE RECTANGLE;aBLACK VERTICAL RECTANGLE;aWHITE VERTICAL RECTANGLE;aBLACK PARALLELOGRAM",
  "aWHITE PARALLELOGRAM;aBLACK UP-POINTING TRIANGLE;aWHITE UP-POINTING TRIANGLE",
  "aBLACK UP-POINTING SMALL TRIANGLE;aWHITE UP-POINTING SMALL TRIANGLE",
  "aBLACK RIGHT-POINTING TRIANGLE;aWHITE RIGHT-POINTING TRIANGLE",
  "aBLACK RIGHT-POINTING SMALL TRIANGLE;aWHITE RIGHT-POINTING SMALL TRIANGLE",
  "aBLACK RIGHT-POINTING POINTER;aWHITE RIGHT-POINTING POINTER;aBLACK DOWN-POINTING TRIANGLE",
  "aWHITE DOWN-POINTING TRIANGLE;aBLACK DOWN-POINTING SMALL TRIANGLE",
  "aWHITE DOWN-POINTING SMALL TRIANGLE;aBLACK LEFT-POINTING TRIANGLE",
  "aWHITE LEFT-POINTING TRIANGLE;aBLACK LEFT-POINTING SMALL TRIANGLE",
  "aWHITE LEFT-POINTING SMALL TRIANGLE;aBLACK LEFT-POINTING POINTER",
  "aWHITE LEFT-POINTING POINTER;aBLACK DIAMOND;aWHITE DIAMOND;n CONTAINING BLACK SMALL DIAMOND",
  "aFISHEYE;aLOZENGE;aWHITE CIRCLE;aDOTTED CIRCLE;aCIRCLE WITH VERTICAL FILL;aBULLSEYE",
  "bLACK CIRCLE;aCIRCLE WITH LEFT HALF BLACK;mRIGHT HALF BLACK;mLOWER HALF BLACK",
  "mUPPER HALF BLACK;sRIGHT QUADRANT BLACK;mALL BUT UPPER LEFT QUADRANT BLACK",
  "aLEFT HALF BLACK CIRCLE;aRIGHT HALF BLACK CIRCLE;aINVERSE BULLET;iWHITE CIRCLE",
  "aUPPER HALF INVERSE WHITE CIRCLE;aLOWER HALF INVERSE WHITE CIRCLE",
  "aUPPER LEFT QUADRANT CIRCULAR ARC;gRIGHT QUADRANT CIRCULAR ARC",
  "aLOWER RIGHT QUADRANT CIRCULAR ARC;gLEFT QUADRANT CIRCULAR ARC;aUPPER HALF CIRCLE",
  "aLOWER HALF CIRCLE;aBLACK LOWER RIGHT TRIANGLE;mLEFT TRIANGLE;gUPPER LEFT TRIANGLE",
  "mRIGHT TRIANGLE;aWHITE BULLET;aSQUARE WITH LEFT HALF BLACK;mRIGHT HALF BLACK",
  "mUPPER LEFT DIAGONAL HALF BLACK;mLOWER RIGHT DIAGONAL HALF BLACK",
  "aWHITE SQUARE WITH VERTICAL BISECTING LINE;gUP-POINTING TRIANGLE WITH DOT",
  "aUP-POINTING TRIANGLE WITH LEFT HALF BLACK;ARIGHT HALF BLACK;aLARGE CIRCLE",
  "aWHITE SQUARE WITH UPPER LEFT QUADRANT;sLOWER LEFT QUADRANT;yRIGHT QUADRANT",
  "sUPPER RIGHT QUADRANT;gCIRCLE WITH UPPER LEFT QUADRANT;sLOWER LEFT QUADRANT;yRIGHT QUADRANT",
  "sUPPER RIGHT QUADRANT;aUPPER LEFT TRIANGLE;gRIGHT TRIANGLE;aLOWER LEFT TRIANGLE",
  "aWHITE MEDIUM SQUARE;aBLACK MEDIUM SQUARE;aWHITE MEDIUM SMALL SQUARE",
  "aBLACK MEDIUM SMALL SQUARE;aLOWER RIGHT TRIANGLE;aBLACK SUN WITH RAYS;aCLOUD;aUMBRELLA",
  "aSNOWMAN;aCOMET;aBLACK STAR;aWHITE STAR;aLIGHTNING;aTHUNDERSTORM;aSUN;aASCENDING NODE",
  "aDESCENDING NODE;aCONJUNCTION;aOPPOSITION;aBLACK TELEPHONE;aWHITE TELEPHONE;aBALLOT BOX",
  "k WITH CHECK;qX;aSALTIRE;aUMBRELLA WITH RAIN DROPS;aHOT BEVERAGE;aWHITE SHOGI PIECE",
  "aBLACK SHOGI PIECE;aSHAMROCK;aREVERSED ROTATED FLORAL HEART BULLET",
  "aBLACK LEFT POINTING INDEX;gRIGHT POINTING INDEX;aWHITE LEFT POINTING INDEX",
  "gUP POINTING INDEX;gRIGHT POINTING INDEX;gDOWN POINTING INDEX;aSKULL AND CROSSBONES",
  "aCAUTION SIGN;aRADIOACTIVE SIGN;aBIOHAZARD SIGN;aCADUCEUS;aANKH;aORTHODOX CROSS;aCHI RHO",
  "bROSS OF LORRAINE;jJERUSALEM;aSTAR AND CRESCENT;aFARSI SYMBOL;aADI SHAKTI;aHAMMER AND SICKLE",
  "aPEACE SYMBOL;aYIN YANG;aTRIGRAM FOR HEAVEN;mLAKE;mFIRE;mTHUNDER;mWIND;nATER;mMOUNTAIN",
  "mEARTH;aWHEEL OF DHARMA;cITE FROWNING FACE;gSMILING FACE;aBLACK SMILING FACE",
  "aWHITE SUN WITH RAYS;aFIRST QUARTER MOON;aLAST QUARTER MOON;aMERCURY;aFEMALE SIGN;aEARTH",
  "aMALE SIGN;aJUPITER;aSATURN;aURANUS;aNEPTUNE;aPLUTO;aARIES;aTAURUS;aGEMINI;aCANCER;aLEO",
  "aVIRGO;aLIBRA;aSCORPIUS;bAGITTARIUS;aCAPRICORN;aAQUARIUS;aPISCES;aWHITE CHESS KING;mQUEEN",
  "mROOK;mBISHOP;mKNIGHT;mPAWN;aBLACK CHESS KING;mQUEEN;mROOK;mBISHOP;mKNIGHT;mPAWN;gSPADE SUIT",
  "aWHITE HEART SUIT;gDIAMOND SUIT;aBLACK CLUB SUIT;aWHITE SPADE SUIT;aBLACK HEART SUIT",
  "gDIAMOND SUIT;aWHITE CLUB SUIT;aHOT SPRINGS;aQUARTER NOTE;aEIGHTH NOTE;aBEAMED EIGHTH NOTES",
  "hSIXTEENTH NOTES;aMUSIC FLAT SIGN;gNATURAL SIGN;gSHARP SIGN;aWEST SYRIAC CROSS",
  "aEAST SYRIAC CROSS;aUNIVERSAL RECYCLING SYMBOL;aRECYCLING SYMBOL FOR TYPE-1 PLASTICS",
  "A2 PLASTICS;A3 PLASTICS;A4 PLASTICS;A5 PLASTICS;A6 PLASTICS;A7 PLASTICS;vGENERIC MATERIALS",
  "aBLACK UNIVERSAL RECYCLING SYMBOL;aRECYCLED PAPER SYMBOL;aPARTIALLY-RECYCLED PAPER SYMBOL",
  "bERMANENT PAPER SIGN;aWHEELCHAIR SYMBOL;aDIE FACE-1;j2;j3;j4;j5;j6",
  "aWHITE CIRCLE WITH DOT RIGHT;sTWO DOTS;aBLACK CIRCLE WITH WHITE DOT RIGHT;sTWO WHITE DOTS",
  "aMONOGRAM FOR YANG;oIN;aDIGRAM FOR GREATER YANG;lLESSER YIN;tANG;lGREATER YIN;aWHITE FLAG",
  "aBLACK FLAG;aHAMMER AND PICK;aANCHOR;aCROSSED SWORDS;aSTAFF OF AESCULAPIUS;bCALES;aALEMBIC",
  "aFLOWER;aGEAR;aSTAFF OF HERMES;aATOM SYMBOL;aFLEUR-DE-LIS;aOUTLINED WHITE STAR",
  "aTHREE LINES CONVERGING RIGHT;xLEFT;aWARNING SIGN;aHIGH VOLTAGE SIGN;aDOUBLED FEMALE SIGN",
  "iMALE SIGN;aINTERLOCKED FEMALE AND MALE SIGN;aMALE AND FEMALE SIGN;fWITH STROKE SIGN",
  "rAND MALE AND FEMALE SIGN;aVERTICAL MALE WITH STROKE SIGN;aHORIZONTAL MALE WITH STROKE SIGN",
  "aMEDIUM WHITE CIRCLE;hBLACK CIRCLE;hSMALL WHITE CIRCLE;bARRIAGE SYMBOL;aDIVORCE SYMBOL",
  "aUNMARRIED PARTNERSHIP SYMBOL;aCOFFIN;aFUNERAL URN;aNEUTER;aCERES;aPALLAS;aJUNO;aVESTA",
  "aCHIRON;aBLACK MOON LILITH;aSEXTILE;cMISEXTILE;aQUINCUNX;aSESQUIQUADRATE;bOCCER BALL",
  "aBASEBALL;aSQUARED KEY;aWHITE DRAUGHTS MAN;pKING;aBLACK DRAUGHTS MAN;pKING",
  "aSNOWMAN WITHOUT SNOW;bUN BEHIND CLOUD;aRAIN;aBLACK SNOWMAN;aTHUNDER CLOUD AND RAIN",
  "bURNED WHITE SHOGI PIECE;hBLACK SHOGI PIECE;aWHITE DIAMOND IN SQUARE;aCROSSING LANES",
  "aDISABLED CAR;aOPHIUCHUS;aPICK;aCAR SLIDING;aHELMET WITH WHITE CROSS;aCIRCLED CROSSING LANES",
  "bHAINS;aNO ENTRY;aALTERNATE ONE-WAY LEFT WAY TRAFFIC;aBLACK TWO-WAY LEFT WAY TRAFFIC",
  "aWHITE TWO-WAY LEFT WAY TRAFFIC;aBLACK LEFT LANE MERGE;aWHITE LEFT LANE MERGE",
  "aDRIVE SLOW SIGN;aHEAVY WHITE DOWN-POINTING TRIANGLE;aLEFT CLOSED ENTRY;aSQUARED SALTIRE",
  "aFALLING DIAGONAL IN WHITE CIRCLE IN BLACK SQUARE;aBLACK TRUCK;aRESTRICTED LEFT ENTRY-1;w2",
  "aASTRONOMICAL SYMBOL FOR URANUS;aHEAVY CIRCLE WITH STROKE AND TWO DOTS ABOVE;aPENTAGRAM",
  "aRIGHT-HANDED INTERLACED PENTAGRAM;aLEFT-HANDED INTERLACED PENTAGRAM;aINVERTED PENTAGRAM",
  "aBLACK CROSS ON SHIELD;aSHINTO SHRINE;aCHURCH;bASTLE;aHISTORIC SITE;aGEAR WITHOUT HUB",
  "j HANDLES;aMAP SYMBOL FOR LIGHTHOUSE;bOUNTAIN;aUMBRELLA ON GROUND;aFOUNTAIN;bLAG IN HOLE",
  "bERRY;aSAILBOAT;bQUARE FOUR CORNERS;bKIER;aICE SKATE;aPERSON WITH BALL;aTENT",
  "aJAPANESE BANK SYMBOL;aHEADSTONE GRAVEYARD SYMBOL;aFUEL PUMP;aCUP ON BLACK SQUARE",
  "aWHITE FLAG WITH HORIZONTAL MIDDLE BLACK STRIPE;aBLACK SAFETY SCISSORS;aUPPER BLADE SCISSORS",
  "aBLACK SCISSORS;aLOWER BLADE SCISSORS;aWHITE SCISSORS;gHEAVY CHECK MARK",
  "aTELEPHONE LOCATION SIGN;bAPE DRIVE;aAIRPLANE;aENVELOPE;aRAISED FIST;hHAND;aVICTORY HAND",
  "aWRITING HAND;aLOWER RIGHT PENCIL;aPENCIL;aUPPER RIGHT PENCIL;aWHITE NIB;aBLACK NIB",
  "aCHECK MARK;aHEAVY CHECK MARK;aMULTIPLICATION X;aHEAVY MULTIPLICATION X;aBALLOT X",
  "aHEAVY BALLOT X;aOUTLINED GREEK CROSS;aHEAVY GREEK CROSS;aOPEN CENTRE CROSS",
  "aHEAVY OPEN CENTRE CROSS;aLATIN CROSS;aSHADOWED WHITE LATIN CROSS;aOUTLINED LATIN CROSS",
  "aMALTESE CROSS;aSTAR OF DAVID;aFOUR TEARDROP-SPOKED ASTERISK;fBALLOON-SPOKED ASTERISK",
  "aHEAVY FOUR BALLOON-SPOKED ASTERISK;aFOUR CLUB-SPOKED ASTERISK;aBLACK FOUR POINTED STAR",
  "aWHITE FOUR POINTED STAR;aSPARKLES;bTRESS OUTLINED WHITE STAR;aCIRCLED WHITE STAR",
  "aOPEN CENTRE BLACK STAR;aBLACK CENTRE WHITE STAR;aOUTLINED BLACK STAR",
  "aHEAVY OUTLINED BLACK STAR;aPINWHEEL STAR;aSHADOWED WHITE STAR;aHEAVY ASTERISK",
  "aOPEN CENTRE ASTERISK;aEIGHT SPOKED ASTERISK;gPOINTED BLACK STAR;oPINWHEEL STAR",
  "aSIX POINTED BLACK STAR;aEIGHT POINTED RECTILINEAR BLACK STAR",
  "aHEAVY EIGHT POINTED RECTILINEAR BLACK STAR;aTWELVE POINTED BLACK STAR",
  "aSIXTEEN POINTED ASTERISK;aTEARDROP-SPOKED ASTERISK;aOPEN CENTRE TEARDROP-SPOKED ASTERISK",
  "aHEAVY TEARDROP-SPOKED ASTERISK;aSIX PETALLED BLACK AND WHITE FLORETTE;aBLACK FLORETTE",
  "aWHITE FLORETTE;aEIGHT PETALLED OUTLINED BLACK FLORETTE",
  "aCIRCLED OPEN CENTRE EIGHT POINTED STAR;aHEAVY TEARDROP-SPOKED PINWHEEL ASTERISK;aSNOWFLAKE",
  "aTIGHT TRIFOLIATE SNOWFLAKE;aHEAVY CHEVRON SNOWFLAKE;aSPARKLE;aHEAVY SPARKLE",
  "aBALLOON-SPOKED ASTERISK;aEIGHT TEARDROP-SPOKED PROPELLER ASTERISK",
  "aHEAVY EIGHT TEARDROP-SPOKED PROPELLER ASTERISK;aCROSS MARK;aSHADOWED WHITE CIRCLE",
  "aNEGATIVE SQUARED CROSS MARK;aLOWER RIGHT DROP-SHADOWED WHITE SQUARE",
  "aUPPER RIGHT DROP-SHADOWED WHITE SQUARE;aLOWER RIGHT SHADOWED WHITE SQUARE",
  "aUPPER RIGHT SHADOWED WHITE SQUARE;aBLACK QUESTION MARK ORNAMENT",
  "aWHITE QUESTION MARK ORNAMENT;gEXCLAMATION MARK ORNAMENT;aBLACK DIAMOND MINUS WHITE X",
  "aHEAVY EXCLAMATION MARK SYMBOL;aLIGHT VERTICAL BAR;aMEDIUM VERTICAL BAR;aHEAVY VERTICAL BAR",
  "gSINGLE TURNED COMMA QUOTATION MARK ORNAMENT;nCOMMA QUOTATION MARK ORNAMENT",
  "gDOUBLE TURNED COMMA QUOTATION MARK ORNAMENT;nCOMMA QUOTATION MARK ORNAMENT",
  "gLOW SINGLE COMMA QUOTATION MARK ORNAMENT;kDOUBLE COMMA QUOTATION MARK ORNAMENT",
  "aCURVED STEM PARAGRAPH SIGN ORNAMENT;aHEAVY EXCLAMATION MARK ORNAMENT",
  "gHEART EXCLAMATION MARK ORNAMENT;gBLACK HEART;aROTATED HEAVY BLACK HEART BULLET",
  "aFLORAL HEART;aROTATED FLORAL HEART BULLET;aMEDIUM LEFT PARENTHESIS ORNAMENT",
  "hRIGHT PARENTHESIS ORNAMENT;hFLATTENED LEFT PARENTHESIS ORNAMENT;rRIGHT PARENTHESIS ORNAMENT",
  "hLEFT-POINTING ANGLE BRACKET ORNAMENT;hRIGHT-POINTING ANGLE BRACKET ORNAMENT",
  "aHEAVY LEFT-POINTING ANGLE QUOTATION MARK ORNAMENT",
  "gRIGHT-POINTING ANGLE QUOTATION MARK ORNAMENT;gLEFT-POINTING ANGLE BRACKET ORNAMENT",
  "gRIGHT-POINTING ANGLE BRACKET ORNAMENT;aLIGHT LEFT TORTOISE SHELL BRACKET ORNAMENT",
  "gRIGHT TORTOISE SHELL BRACKET ORNAMENT;aMEDIUM LEFT CURLY BRACKET ORNAMENT",
  "hRIGHT CURLY BRACKET ORNAMENT;aDINGBAT NEGATIVE CIRCLED DIGIT ONE;FTWO;GHREE;FFOUR;GIVE;FSIX",
  "GEVEN;FEIGHT;FNINE;zNUMBER TEN;iCIRCLED SANS-SERIF DIGIT ONE;HTWO;IHREE;HFOUR;IIVE;HSIX",
  "IEVEN;HEIGHT;HNINE;BNUMBER TEN;iNEGATIVE CIRCLED SANS-SERIF DIGIT ONE;QTWO;RHREE;QFOUR;RIVE",
  "QSIX;REVEN;QEIGHT;QNINE;KNUMBER TEN;aHEAVY WIDE-HEADED RIGHTWARDS ARROW;gPLUS SIGN",
  "gMINUS SIGN;gDIVISION SIGN;gSOUTH EAST ARROW;gRIGHTWARDS ARROW;gNORTH EAST ARROW",
  "aDRAFTING POINT RIGHTWARDS ARROW;aHEAVY ROUND-TIPPED RIGHTWARDS ARROW",
  "aTRIANGLE-HEADED RIGHTWARDS ARROW;aHEAVY TRIANGLE-HEADED RIGHTWARDS ARROW",
  "aDASHED TRIANGLE-HEADED RIGHTWARDS ARROW;aHEAVY DASHED TRIANGLE-HEADED RIGHTWARDS ARROW",
  "aBLACK RIGHTWARDS ARROW;aTHREE-D TOP-LIGHTED RIGHTWARDS ARROWHEAD",
  "iBOTTOM-LIGHTED RIGHTWARDS ARROWHEAD;aBLACK RIGHTWARDS ARROWHEAD",
  "aHEAVY BLACK CURVED DOWNWARDS AND RIGHTWARDS ARROW;tUPWARDS AND RIGHTWARDS ARROW",
  "aSQUAT BLACK RIGHTWARDS ARROW;aHEAVY CONCAVE-POINTED BLACK RIGHTWARDS ARROW",
  "aRIGHT-SHADED WHITE RIGHTWARDS ARROW;aLEFT-SHADED WHITE RIGHTWARDS ARROW",
  "aBACK-TILTED SHADOWED WHITE RIGHTWARDS ARROW;aFRONT-TILTED SHADOWED WHITE RIGHTWARDS ARROW",
  "aHEAVY LOWER RIGHT-SHADOWED WHITE RIGHTWARDS ARROW",
  "gUPPER RIGHT-SHADOWED WHITE RIGHTWARDS ARROW",
  "aNOTCHED LOWER RIGHT-SHADOWED WHITE RIGHTWARDS ARROW;aCURLY LOOP",
  "aNOTCHED UPPER RIGHT-SHADOWED WHITE RIGHTWARDS ARROW;aCIRCLED HEAVY WHITE RIGHTWARDS ARROW",
  "aWHITE-FEATHERED RIGHTWARDS ARROW;aBLACK-FEATHERED SOUTH EAST ARROW;qRIGHTWARDS ARROW",
  "qNORTH EAST ARROW;aHEAVY BLACK-FEATHERED SOUTH EAST ARROW;wRIGHTWARDS ARROW",
  "wNORTH EAST ARROW;aTEARDROP-BARBED RIGHTWARDS ARROW;aHEAVY TEARDROP-SHANKED RIGHTWARDS ARROW",
  "aWEDGE-TAILED RIGHTWARDS ARROW;aHEAVY WEDGE-TAILED RIGHTWARDS ARROW",
  "aOPEN-OUTLINED RIGHTWARDS ARROW;aDOUBLE CURLY LOOP;aTHREE DIMENSIONAL ANGLE",
  "aWHITE TRIANGLE CONTAINING SMALL WHITE TRIANGLE;aPERPENDICULAR;aOPEN SUBSET;hPERSET",
  "aLEFT S-SHAPED BAG DELIMITER;aRIGHT S-SHAPED BAG DELIMITER;aOR WITH DOT INSIDE",
  "aREVERSE SOLIDUS PRECEDING SUBSET;aSUPERSET PRECEDING SOLIDUS",
  "aVERTICAL BAR WITH HORIZONTAL STROKE;aMATHEMATICAL RISING DIAGONAL;aLONG DIVISION",
  "aMATHEMATICAL FALLING DIAGONAL;aSQUARED LOGICAL AND;qOR;aWHITE DIAMOND WITH CENTRED DOT",
  "aAND WITH DOT;aELEMENT OF OPENING UPWARDS;aLOWER RIGHT CORNER WITH DOT",
  "aUPPER LEFT CORNER WITH DOT;aLEFT OUTER JOIN;aRIGHT OUTER JOIN;aFULL OUTER JOIN",
  "aLARGE UP TACK;gDOWN TACK;bEFT AND RIGHT DOUBLE TURNSTILE;pTACK;fMULTIMAP;bONG RIGHT TACK",
  "fLEFT TACK;aUP TACK WITH CIRCLE ABOVE;aLOZENGE DIVIDED BY HORIZONTAL RULE",
  "aWHITE CONCAVE-SIDED DIAMOND;B WITH LEFTWARDS TICK;HRIGHTWARDS TICK",
  "gSQUARE WITH LEFTWARDS TICK;sRIGHTWARDS TICK;aMATHEMATICAL LEFT WHITE SQUARE BRACKET",
  "nRIGHT WHITE SQUARE BRACKET;nLEFT ANGLE BRACKET;nRIGHT ANGLE BRACKET",
  "nLEFT DOUBLE ANGLE BRACKET;nRIGHT DOUBLE ANGLE BRACKET;nLEFT WHITE TORTOISE SHELL BRACKET",
  "nRIGHT WHITE TORTOISE SHELL BRACKET;nLEFT FLATTENED PARENTHESIS;nRIGHT FLATTENED PARENTHESIS",
  "aUPWARDS QUADRUPLE ARROW;aDOWNWARDS QUADRUPLE ARROW;aANTICLOCKWISE GAPPED CIRCLE ARROW",
  "aCLOCKWISE GAPPED CIRCLE ARROW;aRIGHT ARROW WITH CIRCLED PLUS;aLONG LEFTWARDS ARROW",
  "fRIGHTWARDS ARROW;fLEFT RIGHT ARROW;jWARDS DOUBLE ARROW;fRIGHTWARDS DOUBLE ARROW",
  "fLEFT RIGHT DOUBLE ARROW;jWARDS ARROW FROM BAR;fRIGHTWARDS ARROW FROM BAR",
  "fLEFTWARDS DOUBLE ARROW FROM BAR;fRIGHTWARDS DOUBLE ARROW FROM BAR;qSQUIGGLE ARROW",
  "aBRAILLE PATTERN BLANK;qDOTS-1;v2;v12;v3;v13;v23;v123;v4;v14;v24;v124;v34;v134;v234;v1234;v5",
  "v15;v25;v125;v35;v135;v235;v1235;v45;v145;v245;v1245;v345;v1345;v2345;v12345;v6;v16;v26;v126",
  "v36;v136;v236;v1236;v46;v146;v246;v1246;v346;v1346;v2346;v12346;v56;v156;v256;v1256;v356",
  "v1356;v2356;v12356;v456;v1456;v2456;v12456;v3456;v13456;v23456;v123456;v7;v17;v27;v127;v37",
  "v137;v237;v1237;v47;v147;v247;v1247;v347;v1347;v2347;v12347;v57;v157;v257;v1257;v357;v1357",
  "v2357;v12357;v457;v1457;v2457;v12457;v3457;v13457;v23457;v123457;v67;v167;v267;v1267;v367",
  "v1367;v2367;v12367;v467;v1467;v2467;v12467;v3467;v13467;v23467;v123467;v567;v1567;v2567",
  "v12567;v3567;v13567;v23567;v123567;v4567;v14567;v24567;v124567;v34567;v134567;v234567",
  "v1234567;v8;v18;v28;v128;v38;v138;v238;v1238;v48;v148;v248;v1248;v348;v1348;v2348;v12348;v58",
  "v158;v258;v1258;v358;v1358;v2358;v12358;v458;v1458;v2458;v12458;v3458;v13458;v23458;v123458",
  "v68;v168;v268;v1268;v368;v1368;v2368;v12368;v468;v1468;v2468;v12468;v3468;v13468;v23468",
  "v123468;v568;v1568;v2568;v12568;v3568;v13568;v23568;v123568;v4568;v14568;v24568;v124568",
  "v34568;v134568;v234568;v1234568;v78;v178;v278;v1278;v378;v1378;v2378;v12378;v478;v1478;v2478",
  "v12478;v3478;v13478;v23478;v123478;v578;v1578;v2578;v12578;v3578;v13578;v23578;v123578;v4578",
  "v14578;v24578;v124578;v34578;v134578;v234578;v1234578;v678;v1678;v2678;v12678;v3678;v13678",
  "v23678;v123678;v4678;v14678;v24678;v124678;v34678;v134678;v234678;v1234678;v5678;v15678",
  "v25678;v125678;v35678;v135678;v235678;v1235678;v45678;v145678;v245678;v1245678;v345678",
  "v1345678;v2345678;v12345678;aRIGHTWARDS TWO-HEADED ARROW WITH VERTICAL STROKE",
  "HDOUBLE VERTICAL STROKE;aLEFTWARDS DOUBLE ARROW WITH VERTICAL STROKE",
  "aRIGHTWARDS DOUBLE ARROW WITH VERTICAL STROKE;aLEFT RIGHT DOUBLE ARROW WITH VERTICAL STROKE",
  "aRIGHTWARDS TWO-HEADED ARROW FROM BAR;aLEFTWARDS DOUBLE ARROW FROM BAR",
  "aRIGHTWARDS DOUBLE ARROW FROM BAR;aDOWNWARDS ARROW WITH HORIZONTAL STROKE",
  "aUPWARDS ARROW WITH HORIZONTAL STROKE;iTRIPLE ARROW;aDOWNWARDS TRIPLE ARROW",
  "aLEFTWARDS DOUBLE DASH ARROW;aRIGHTWARDS DOUBLE DASH ARROW;aLEFTWARDS TRIPLE DASH ARROW",
  "aRIGHTWARDS TRIPLE DASH ARROW;mWO-HEADED TRIPLE DASH ARROW;lARROW WITH DOTTED STEM",
  "aUPWARDS ARROW TO BAR;aDOWNWARDS ARROW TO BAR",
  "aRIGHTWARDS ARROW WITH TAIL WITH VERTICAL STROKE;GDOUBLE VERTICAL STROKE",
  "lTWO-HEADED ARROW WITH TAIL;L WITH VERTICAL STROKE;RDOUBLE VERTICAL STROKE",
  "aLEFTWARDS ARROW-TAIL;aRIGHTWARDS ARROW-TAIL;aLEFTWARDS DOUBLE ARROW-TAIL",
  "aRIGHTWARDS DOUBLE ARROW-TAIL;aLEFTWARDS ARROW TO BLACK DIAMOND",
  "aRIGHTWARDS ARROW TO BLACK DIAMOND;aLEFTWARDS ARROW FROM BAR TO BLACK DIAMOND",
  "aRIGHTWARDS ARROW FROM BAR TO BLACK DIAMOND;aNORTH WEST AND SOUTH EAST ARROW",
  "gEAST AND SOUTH WEST ARROW;gWEST ARROW WITH HOOK;gEAST ARROW WITH HOOK",
  "aSOUTH EAST ARROW WITH HOOK;gWEST ARROW WITH HOOK;aNORTH WEST ARROW AND NORTH EAST ARROW",
  "gEAST ARROW AND SOUTH EAST ARROW;aSOUTH EAST ARROW AND SOUTH WEST ARROW",
  "gWEST ARROW AND NORTH WEST ARROW;aRISING DIAGONAL CROSSING FALLING DIAGONAL",
  "aFALLING DIAGONAL CROSSING RISING DIAGONAL;aSOUTH EAST ARROW CROSSING NORTH EAST ARROW",
  "aNORTH EAST ARROW CROSSING SOUTH EAST ARROW;aFALLING DIAGONAL CROSSING NORTH EAST ARROW",
  "aRISING DIAGONAL CROSSING SOUTH EAST ARROW;aNORTH EAST ARROW CROSSING NORTH WEST ARROW",
  "gWEST ARROW CROSSING NORTH EAST ARROW;aWAVE ARROW POINTING DIRECTLY RIGHT",
  "aARROW POINTING RIGHTWARDS THEN CURVING UPWARDS;NDOWNWARDS;pDOWNWARDS THEN CURVING LEFTWARDS",
  "MRIGHTWARDS;aRIGHT-SIDE ARC CLOCKWISE ARROW;aLEFT-SIDE ARC ANTICLOCKWISE ARROW",
  "aTOP ARC ANTICLOCKWISE ARROW;aBOTTOM ARC ANTICLOCKWISE ARROW",
  "aTOP ARC CLOCKWISE ARROW WITH MINUS;iANTICLOCKWISE ARROW WITH PLUS",
  "aLOWER RIGHT SEMICIRCULAR CLOCKWISE ARROW;gLEFT SEMICIRCULAR ANTICLOCKWISE ARROW",
  "aANTICLOCKWISE CLOSED CIRCLE ARROW;aCLOCKWISE CLOSED CIRCLE ARROW",
  "aRIGHTWARDS ARROW ABOVE SHORT LEFTWARDS ARROW;aLEFTWARDS ARROW ABOVE SHORT RIGHTWARDS ARROW",
  "aSHORT RIGHTWARDS ARROW ABOVE LEFTWARDS ARROW;aRIGHTWARDS ARROW WITH PLUS BELOW",
  "aLEFTWARDS ARROW WITH PLUS BELOW;aRIGHTWARDS ARROW THROUGH X",
  "aLEFT RIGHT ARROW THROUGH SMALL CIRCLE;aUPWARDS TWO-HEADED ARROW FROM SMALL CIRCLE",
  "aLEFT BARB UP RIGHT BARB DOWN HARPOON;kDOWN RIGHT BARB UP HARPOON",
  "aUP BARB RIGHT DOWN BARB LEFT HARPOON;iLEFT DOWN BARB RIGHT HARPOON",
  "aLEFT BARB UP RIGHT BARB UP HARPOON;aUP BARB RIGHT DOWN BARB RIGHT HARPOON",
  "aLEFT BARB DOWN RIGHT BARB DOWN HARPOON;aUP BARB LEFT DOWN BARB LEFT HARPOON",
  "aLEFTWARDS HARPOON WITH BARB UP TO BAR;aRIGHTWARDS HARPOON WITH BARB UP TO BAR",
  "aUPWARDS HARPOON WITH BARB RIGHT TO BAR;aDOWNWARDS HARPOON WITH BARB RIGHT TO BAR",
  "aLEFTWARDS HARPOON WITH BARB DOWN TO BAR;aRIGHTWARDS HARPOON WITH BARB DOWN TO BAR",
  "aUPWARDS HARPOON WITH BARB LEFT TO BAR;aDOWNWARDS HARPOON WITH BARB LEFT TO BAR",
  "aLEFTWARDS HARPOON WITH BARB UP FROM BAR;aRIGHTWARDS HARPOON WITH BARB UP FROM BAR",
  "aUPWARDS HARPOON WITH BARB RIGHT FROM BAR;aDOWNWARDS HARPOON WITH BARB RIGHT FROM BAR",
  "aLEFTWARDS HARPOON WITH BARB DOWN FROM BAR;aRIGHTWARDS HARPOON WITH BARB DOWN FROM BAR",
  "aUPWARDS HARPOON WITH BARB LEFT FROM BAR;aDOWNWARDS HARPOON WITH BARB LEFT FROM BAR",
  "aLEFTWARDS HARPOON WITH BARB UP ABOVE LEFTWARDS HARPOON WITH BARB DOWN",
  "aUPWARDS HARPOON WITH BARB LEFT BESIDE UPWARDS HARPOON WITH BARB RIGHT",
  "aRIGHTWARDS HARPOON WITH BARB UP ABOVE RIGHTWARDS HARPOON WITH BARB DOWN",
  "aDOWNWARDS HARPOON WITH BARB LEFT BESIDE DOWNWARDS HARPOON WITH BARB RIGHT",
  "aLEFTWARDS HARPOON WITH BARB UP ABOVE RIGHTWARDS HARPOON WITH BARB UP",
  "CDOWN ABOVE RIGHTWARDS HARPOON WITH BARB DOWN",
  "aRIGHTWARDS HARPOON WITH BARB UP ABOVE LEFTWARDS HARPOON WITH BARB UP",
  "DDOWN ABOVE LEFTWARDS HARPOON WITH BARB DOWN;aLEFTWARDS HARPOON WITH BARB UP ABOVE LONG DASH",
  "CDOWN BELOW LONG DASH;aRIGHTWARDS HARPOON WITH BARB UP ABOVE LONG DASH;DDOWN BELOW LONG DASH",
  "aUPWARDS HARPOON WITH BARB LEFT BESIDE DOWNWARDS HARPOON WITH BARB RIGHT",
  "aDOWNWARDS HARPOON WITH BARB LEFT BESIDE UPWARDS HARPOON WITH BARB RIGHT",
  "aRIGHT DOUBLE ARROW WITH ROUNDED HEAD;aEQUALS SIGN ABOVE RIGHTWARDS ARROW",
  "aTILDE OPERATOR ABOVE RIGHTWARDS ARROW;aLEFTWARDS ARROW ABOVE TILDE OPERATOR",
  "aRIGHTWARDS ARROW ABOVE TILDE OPERATOR;xALMOST EQUAL TO;aLESS-THAN ABOVE LEFTWARDS ARROW",
  "cFTWARDS ARROW THROUGH LESS-THAN;aGREATER-THAN ABOVE RIGHTWARDS ARROW",
  "aSUBSET ABOVE RIGHTWARDS ARROW;aLEFTWARDS ARROW THROUGH SUBSET",
  "aSUPERSET ABOVE LEFTWARDS ARROW;aLEFT FISH TAIL;aRIGHT FISH TAIL;aUP FISH TAIL",
  "aDOWN FISH TAIL;aTRIPLE VERTICAL BAR DELIMITER;aZ NOTATION SPOT;lTYPE COLON",
  "aLEFT WHITE CURLY BRACKET;aRIGHT WHITE CURLY BRACKET;aLEFT WHITE PARENTHESIS",
  "aRIGHT WHITE PARENTHESIS;aZ NOTATION LEFT IMAGE BRACKET;lRIGHT IMAGE BRACKET",
  "lLEFT BINDING BRACKET;lRIGHT BINDING BRACKET;aLEFT SQUARE BRACKET WITH UNDERBAR",
  "aRIGHT SQUARE BRACKET WITH UNDERBAR;aLEFT SQUARE BRACKET WITH TICK IN TOP CORNER",
  "aRIGHT SQUARE BRACKET WITH TICK IN BOTTOM CORNER",
  "aLEFT SQUARE BRACKET WITH TICK IN BOTTOM CORNER",
  "aRIGHT SQUARE BRACKET WITH TICK IN TOP CORNER;aLEFT ANGLE BRACKET WITH DOT",
  "aRIGHT ANGLE BRACKET WITH DOT;aLEFT ARC LESS-THAN BRACKET;aRIGHT ARC GREATER-THAN BRACKET",
  "aDOUBLE LEFT ARC GREATER-THAN BRACKET;hRIGHT ARC LESS-THAN BRACKET",
  "aLEFT BLACK TORTOISE SHELL BRACKET;aRIGHT BLACK TORTOISE SHELL BRACKET;aDOTTED FENCE",
  "aVERTICAL ZIGZAG LINE;aMEASURED ANGLE OPENING LEFT;aRIGHT ANGLE VARIANT WITH SQUARE",
  "aMEASURED RIGHT ANGLE WITH DOT;aANGLE WITH S INSIDE;bCUTE ANGLE",
  "aSPHERICAL ANGLE OPENING LEFT;yUP;aTURNED ANGLE;aREVERSED ANGLE;aANGLE WITH UNDERBAR",
  "aREVERSED ANGLE WITH UNDERBAR;aOBLIQUE ANGLE OPENING UP;wDOWN",
  "aMEASURED ANGLE WITH OPEN ARM ENDING IN ARROW POINTING UP AND RIGHT;ZNG UP AND LEFT",
  "ZNG DOWN AND RIGHT;ZNG DOWN AND LEFT;ZNG RIGHT AND UP;ZNG LEFT AND UP;ZNG RIGHT AND DOWN",
  "ZNG LEFT AND DOWN;aREVERSED EMPTY SET;aEMPTY SET WITH OVERBAR;pSMALL CIRCLE ABOVE",
  "pRIGHT ARROW ABOVE;pLEFT ARROW ABOVE;aCIRCLE WITH HORIZONTAL BAR;gD VERTICAL BAR;iPARALLEL",
  "iREVERSE SOLIDUS;iPERPENDICULAR",
  "g DIVIDED BY HORIZONTAL BAR AND TOP HALF DIVIDED BY VERTICAL BAR;hWITH SUPERIMPOSED X",
  "gD ANTICLOCKWISE-ROTATED DIVISION SIGN;aUP ARROW THROUGH CIRCLE;aCIRCLED WHITE BULLET",
  "iBULLET;iLESS-THAN;iGREATER-THAN;g WITH SMALL CIRCLE TO THE RIGHT",
  "mTWO HORIZONTAL STROKES TO THE RIGHT;aSQUARED RISING DIAGONAL SLASH;iFALLING DIAGONAL SLASH",
  "iASTERISK;iSMALL CIRCLE;jQUARE;aTWO JOINED SQUARES;bRIANGLE WITH DOT ABOVE;oUNDERBAR",
  "aS IN TRIANGLE;aTRIANGLE WITH SERIFS AT BOTTOM;aRIGHT TRIANGLE ABOVE LEFT TRIANGLE",
  "aLEFT TRIANGLE BESIDE VERTICAL BAR;aVERTICAL BAR BESIDE RIGHT TRIANGLE",
  "aBOWTIE WITH LEFT HALF BLACK;mRIGHT HALF BLACK;bLACK BOWTIE;aTIMES WITH LEFT HALF BLACK",
  "lRIGHT HALF BLACK;aWHITE HOURGLASS;aBLACK HOURGLASS;aLEFT WIGGLY FENCE;aRIGHT WIGGLY FENCE",
  "aLEFT DOUBLE WIGGLY FENCE;aRIGHT DOUBLE WIGGLY FENCE;aINCOMPLETE INFINITY;aTIE OVER INFINITY",
  "aINFINITY NEGATED WITH VERTICAL BAR;aDOUBLE-ENDED MULTIMAP;aSQUARE WITH CONTOURED OUTLINE",
  "aINCREASES AS;aSHUFFLE PRODUCT;aEQUALS SIGN AND SLANTED PARALLEL;G WITH TILDE ABOVE",
  "aIDENTICAL TO AND SLANTED PARALLEL;aGLEICH STARK;aTHERMODYNAMIC",
  "aDOWN-POINTING TRIANGLE WITH LEFT HALF BLACK;CRIGHT HALF BLACK",
  "aBLACK DIAMOND WITH DOWN ARROW;gLOZENGE;aWHITE CIRCLE WITH DOWN ARROW",
  "aBLACK CIRCLE WITH DOWN ARROW;aERROR-BARRED WHITE SQUARE;nBLACK SQUARE;nWHITE DIAMOND",
  "nBLACK DIAMOND;nWHITE CIRCLE;nBLACK CIRCLE;aRULE-DELAYED;bEVERSE SOLIDUS OPERATOR",
  "aSOLIDUS WITH OVERBAR;aREVERSE SOLIDUS WITH HORIZONTAL STROKE;aBIG SOLIDUS;eREVERSE SOLIDUS",
  "aDOUBLE PLUS;aTRIPLE PLUS;aLEFT-POINTING CURVED ANGLE BRACKET",
  "aRIGHT-POINTING CURVED ANGLE BRACKET;aTINY;aMINY;aN-ARY CIRCLED DOT OPERATOR;oPLUS OPERATOR",
  "oTIMES OPERATOR;gUNION OPERATOR WITH DOT;APLUS;gSQUARE INTERSECTION OPERATOR;nUNION OPERATOR",
  "aTWO LOGICAL AND OPERATOR;mOR OPERATOR;aN-ARY TIMES OPERATOR;aMODULO TWO SUM",
  "aSUMMATION WITH INTEGRAL;aQUADRUPLE INTEGRAL OPERATOR;aFINITE PART INTEGRAL",
  "aINTEGRAL WITH DOUBLE STROKE;jAVERAGE WITH SLASH;aCIRCULATION FUNCTION",
  "aANTICLOCKWISE INTEGRATION;aLINE INTEGRATION WITH RECTANGULAR PATH AROUND POLE",
  "wSEMICIRCULAR PATH AROUND POLE;rNOT INCLUDING THE POLE;aINTEGRAL AROUND A POINT OPERATOR",
  "aQUATERNION INTEGRAL OPERATOR;aINTEGRAL WITH LEFTWARDS ARROW WITH HOOK;oTIMES SIGN",
  "oINTERSECTION;oUNION;oOVERBAR;oUNDERBAR;aJOIN;aLARGE LEFT TRIANGLE OPERATOR",
  "aZ NOTATION SCHEMA COMPOSITION;sPIPING;tROJECTION;aPLUS SIGN WITH SMALL CIRCLE ABOVE",
  "pCIRCUMFLEX ACCENT ABOVE;pTILDE ABOVE;pDOT BELOW;pTILDE BELOW;pSUBSCRIPT TWO;pBLACK TRIANGLE",
  "aMINUS SIGN WITH COMMA ABOVE;qDOT BELOW;qFALLING DOTS;qRISING DOTS",
  "aPLUS SIGN IN LEFT HALF CIRCLE;nRIGHT HALF CIRCLE;aVECTOR OR CROSS PRODUCT",
  "aMULTIPLICATION SIGN WITH DOT ABOVE;zUNDERBAR;aSEMIDIRECT PRODUCT WITH BOTTOM CLOSED",
  "bMASH PRODUCT;aMULTIPLICATION SIGN IN LEFT HALF CIRCLE;xRIGHT HALF CIRCLE",
  "aCIRCLED MULTIPLICATION SIGN WITH CIRCUMFLEX ACCENT;aMULTIPLICATION SIGN IN DOUBLE CIRCLE",
  "aCIRCLED DIVISION SIGN;aPLUS SIGN IN TRIANGLE;aMINUS SIGN IN TRIANGLE",
  "bULTIPLICATION SIGN IN TRIANGLE;aINTERIOR PRODUCT;aRIGHTHAND INTERIOR PRODUCT",
  "aZ NOTATION RELATIONAL COMPOSITION;aAMALGAMATION OR COPRODUCT;aINTERSECTION WITH DOT",
  "aUNION WITH MINUS SIGN;lOVERBAR;aINTERSECTION WITH OVERBAR;sLOGICAL AND",
  "aUNION WITH LOGICAL OR;gABOVE INTERSECTION;aINTERSECTION ABOVE UNION",
  "aUNION ABOVE BAR ABOVE INTERSECTION;aINTERSECTION ABOVE BAR ABOVE UNION",
  "aUNION BESIDE AND JOINED WITH UNION;aINTERSECTION BESIDE AND JOINED WITH INTERSECTION",
  "aCLOSED UNION WITH SERIFS;hINTERSECTION WITH SERIFS;aDOUBLE SQUARE INTERSECTION;oUNION",
  "aCLOSED UNION WITH SERIFS AND SMASH PRODUCT;aLOGICAL AND WITH DOT ABOVE;iOR WITH DOT ABOVE",
  "aDOUBLE LOGICAL AND;pOR;aTWO INTERSECTING LOGICAL AND;zOR;aSLOPING LARGE OR;oAND",
  "aLOGICAL OR OVERLAPPING LOGICAL AND;iAND WITH MIDDLE STEM;iOR WITH MIDDLE STEM",
  "iAND WITH HORIZONTAL DASH;iOR WITH HORIZONTAL DASH;iAND WITH DOUBLE OVERBAR;rUNDERBAR",
  "rDOUBLE UNDERBAR;aSMALL VEE WITH UNDERBAR;aLOGICAL OR WITH DOUBLE OVERBAR;xUNDERBAR",
  "aZ NOTATION DOMAIN ANTIRESTRICTION;lRANGE ANTIRESTRICTION;aEQUALS SIGN WITH DOT BELOW",
  "aIDENTICAL WITH DOT ABOVE;aTRIPLE HORIZONTAL BAR WITH DOUBLE VERTICAL STROKE",
  "BTRIPLE VERTICAL STROKE;bILDE OPERATOR WITH DOT ABOVE;uRISING DOTS;aSIMILAR MINUS SIMILAR",
  "aCONGRUENT WITH DOT ABOVE;aEQUALS WITH ASTERISK;aALMOST EQUAL TO WITH CIRCUMFLEX ACCENT",
  "bPPROXIMATELY EQUAL OR EQUAL TO;aEQUALS SIGN ABOVE PLUS SIGN;aPLUS SIGN ABOVE EQUALS SIGN",
  "aEQUALS SIGN ABOVE TILDE OPERATOR;aDOUBLE COLON EQUAL;aTWO CONSECUTIVE EQUALS SIGNS",
  "bHREE CONSECUTIVE EQUALS SIGNS;aEQUALS SIGN WITH TWO DOTS ABOVE AND TWO DOTS BELOW",
  "dIVALENT WITH FOUR DOTS ABOVE;aLESS-THAN WITH CIRCLE INSIDE;aGREATER-THAN WITH CIRCLE INSIDE",
  "aLESS-THAN WITH QUESTION MARK ABOVE;aGREATER-THAN WITH QUESTION MARK ABOVE",
  "aLESS-THAN OR SLANTED EQUAL TO;aGREATER-THAN OR SLANTED EQUAL TO",
  "aLESS-THAN OR SLANTED EQUAL TO WITH DOT INSIDE",
  "aGREATER-THAN OR SLANTED EQUAL TO WITH DOT INSIDE",
  "aLESS-THAN OR SLANTED EQUAL TO WITH DOT ABOVE",
  "aGREATER-THAN OR SLANTED EQUAL TO WITH DOT ABOVE",
  "aLESS-THAN OR SLANTED EQUAL TO WITH DOT ABOVE RIGHT",
  "aGREATER-THAN OR SLANTED EQUAL TO WITH DOT ABOVE LEFT;aLESS-THAN OR APPROXIMATE",
  "aGREATER-THAN OR APPROXIMATE;aLESS-THAN AND SINGLE-LINE NOT EQUAL TO",
  "aGREATER-THAN AND SINGLE-LINE NOT EQUAL TO;aLESS-THAN AND NOT APPROXIMATE",
  "aGREATER-THAN AND NOT APPROXIMATE;aLESS-THAN ABOVE DOUBLE-LINE EQUAL ABOVE GREATER-THAN",
  "aGREATER-THAN ABOVE DOUBLE-LINE EQUAL ABOVE LESS-THAN;aLESS-THAN ABOVE SIMILAR OR EQUAL",
  "aGREATER-THAN ABOVE SIMILAR OR EQUAL;aLESS-THAN ABOVE SIMILAR ABOVE GREATER-THAN",
  "aGREATER-THAN ABOVE SIMILAR ABOVE LESS-THAN",
  "aLESS-THAN ABOVE GREATER-THAN ABOVE DOUBLE-LINE EQUAL",
  "aGREATER-THAN ABOVE LESS-THAN ABOVE DOUBLE-LINE EQUAL",
  "aLESS-THAN ABOVE SLANTED EQUAL ABOVE GREATER-THAN ABOVE SLANTED EQUAL",
  "aGREATER-THAN ABOVE SLANTED EQUAL ABOVE LESS-THAN ABOVE SLANTED EQUAL",
  "aSLANTED EQUAL TO OR LESS-THAN;uGREATER-THAN;uLESS-THAN WITH DOT INSIDE",
  "uGREATER-THAN WITH DOT INSIDE;aDOUBLE-LINE EQUAL TO OR LESS-THAN;yGREATER-THAN",
  "mSLANTED EQUAL TO OR LESS-THAN;GGREATER-THAN;aSIMILAR OR LESS-THAN;lGREATER-THAN",
  "iABOVE LESS-THAN ABOVE EQUALS SIGN;oGREATER-THAN ABOVE EQUALS SIGN;aDOUBLE NESTED LESS-THAN",
  "oGREATER-THAN;oLESS-THAN WITH UNDERBAR;aGREATER-THAN OVERLAPPING LESS-THAN;nBESIDE LESS-THAN",
  "aLESS-THAN CLOSED BY CURVE;aGREATER-THAN CLOSED BY CURVE",
  "aLESS-THAN CLOSED BY CURVE ABOVE SLANTED EQUAL",
  "aGREATER-THAN CLOSED BY CURVE ABOVE SLANTED EQUAL;aSMALLER THAN;aLARGER THAN",
  "aSMALLER THAN OR EQUAL TO;aLARGER THAN OR EQUAL TO;aEQUALS SIGN WITH BUMPY ABOVE",
  "aPRECEDES ABOVE SINGLE-LINE EQUALS SIGN;aSUCCEEDS ABOVE SINGLE-LINE EQUALS SIGN",
  "aPRECEDES ABOVE SINGLE-LINE NOT EQUAL TO;aSUCCEEDS ABOVE SINGLE-LINE NOT EQUAL TO",
  "aPRECEDES ABOVE EQUALS SIGN;aSUCCEEDS ABOVE EQUALS SIGN;aPRECEDES ABOVE NOT EQUAL TO",
  "aSUCCEEDS ABOVE NOT EQUAL TO;aPRECEDES ABOVE ALMOST EQUAL TO;aSUCCEEDS ABOVE ALMOST EQUAL TO",
  "aPRECEDES ABOVE NOT ALMOST EQUAL TO;aSUCCEEDS ABOVE NOT ALMOST EQUAL TO;aDOUBLE PRECEDES",
  "hSUCCEEDS;aSUBSET WITH DOT;cPERSET WITH DOT;cBSET WITH PLUS SIGN BELOW",
  "cPERSET WITH PLUS SIGN BELOW;cBSET WITH MULTIPLICATION SIGN BELOW",
  "cPERSET WITH MULTIPLICATION SIGN BELOW;cBSET OF OR EQUAL TO WITH DOT ABOVE",
  "cPERSET OF OR EQUAL TO WITH DOT ABOVE;cBSET OF ABOVE EQUALS SIGN",
  "cPERSET OF ABOVE EQUALS SIGN;cBSET OF ABOVE TILDE OPERATOR;cPERSET OF ABOVE TILDE OPERATOR",
  "cBSET OF ABOVE ALMOST EQUAL TO;cPERSET OF ABOVE ALMOST EQUAL TO;cBSET OF ABOVE NOT EQUAL TO",
  "cPERSET OF ABOVE NOT EQUAL TO;bQUARE LEFT OPEN BOX OPERATOR;hRIGHT OPEN BOX OPERATOR",
  "aCLOSED SUBSET;jPERSET;jBSET OR EQUAL TO;jPERSET OR EQUAL TO;aSUBSET ABOVE SUPERSET",
  "cPERSET ABOVE SUBSET;cBSET ABOVE SUBSET;cPERSET ABOVE SUPERSET;jBESIDE SUBSET",
  "qAND JOINED BY DASH WITH SUBSET;aELEMENT OF OPENING DOWNWARDS;aPITCHFORK WITH TEE TOP",
  "aTRANSVERSAL INTERSECTION;aFORKING;aNONFORKING;aSHORT LEFT TACK;gDOWN TACK;gUP TACK",
  "aPERPENDICULAR WITH S;aVERTICAL BAR TRIPLE RIGHT TURNSTILE",
  "aDOUBLE VERTICAL BAR LEFT TURNSTILE;aVERTICAL BAR DOUBLE LEFT TURNSTILE",
  "aDOUBLE VERTICAL BAR DOUBLE LEFT TURNSTILE;aLONG DASH FROM LEFT MEMBER OF DOUBLE VERTICAL",
  "aSHORT DOWN TACK WITH OVERBAR;gUP TACK WITH UNDERBAR;oABOVE SHORT DOWN TACK",
  "aDOUBLE DOWN TACK;hUP TACK;hSTROKE NOT SIGN;aREVERSED DOUBLE STROKE NOT SIGN",
  "aDOES NOT DIVIDE WITH REVERSED NEGATION SLASH;aVERTICAL LINE WITH CIRCLE ABOVE;ABELOW",
  "aDOWN TACK WITH CIRCLE BELOW;aPARALLEL WITH HORIZONTAL STROKE;oTILDE OPERATOR",
  "aTRIPLE VERTICAL BAR BINARY RELATION;uWITH HORIZONTAL STROKE;hCOLON OPERATOR",
  "hNESTED LESS-THAN;oGREATER-THAN;aDOUBLE-LINE SLANTED LESS-THAN OR EQUAL TO",
  "uGREATER-THAN OR EQUAL TO;aTRIPLE SOLIDUS BINARY RELATION",
  "aLARGE TRIPLE VERTICAL BAR OPERATOR;aDOUBLE SOLIDUS OPERATOR;aWHITE VERTICAL BAR",
  "aN-ARY WHITE VERTICAL BAR;bORTH EAST WHITE ARROW;gWEST WHITE ARROW;aSOUTH EAST WHITE ARROW",
  "gWEST WHITE ARROW;aLEFT RIGHT WHITE ARROW;eWARDS BLACK ARROW;aUPWARDS BLACK ARROW",
  "aDOWNWARDS BLACK ARROW;aNORTH EAST BLACK ARROW;gWEST BLACK ARROW;aSOUTH EAST BLACK ARROW",
  "gWEST BLACK ARROW;aLEFT RIGHT BLACK ARROW;aUP DOWN BLACK ARROW",
  "aRIGHTWARDS ARROW WITH TIP DOWNWARDS;AUPWARDS;aLEFTWARDS ARROW WITH TIP DOWNWARDS;zUPWARDS",
  "aSQUARE WITH TOP HALF BLACK;mBOTTOM HALF BLACK;mUPPER RIGHT DIAGONAL HALF BLACK",
  "mLOWER LEFT DIAGONAL HALF BLACK;aDIAMOND WITH LEFT HALF BLACK;nRIGHT HALF BLACK",
  "nTOP HALF BLACK;nBOTTOM HALF BLACK;bOTTED SQUARE;aBLACK LARGE SQUARE;aWHITE LARGE SQUARE",
  "aBLACK VERY SMALL SQUARE;aWHITE VERY SMALL SQUARE;aBLACK PENTAGON;aWHITE PENTAGON;gHEXAGON",
  "aBLACK HEXAGON;aHORIZONTAL BLACK HEXAGON;aBLACK LARGE CIRCLE;gMEDIUM DIAMOND",
  "aWHITE MEDIUM DIAMOND;aBLACK MEDIUM LOZENGE;aWHITE MEDIUM LOZENGE;aBLACK SMALL DIAMOND",
  "mLOZENGE;aWHITE SMALL LOZENGE;aBLACK HORIZONTAL ELLIPSE;aWHITE HORIZONTAL ELLIPSE",
  "aBLACK VERTICAL ELLIPSE;aWHITE VERTICAL ELLIPSE;aLEFT ARROW WITH SMALL CIRCLE",
  "aTHREE LEFTWARDS ARROWS;aLEFT ARROW WITH CIRCLED PLUS;bONG LEFTWARDS SQUIGGLE ARROW",
  "bEFTWARDS TWO-HEADED ARROW WITH VERTICAL STROKE;GDOUBLE VERTICAL STROKE;BFROM BAR",
  "vTRIPLE DASH ARROW;kARROW WITH DOTTED STEM;vTAIL WITH VERTICAL STROKE",
  "FDOUBLE VERTICAL STROKE;kTWO-HEADED ARROW WITH TAIL;K WITH VERTICAL STROKE",
  "QDOUBLE VERTICAL STROKE;kARROW THROUGH X;aWAVE ARROW POINTING DIRECTLY LEFT",
  "aEQUALS SIGN ABOVE LEFTWARDS ARROW;aREVERSE TILDE OPERATOR ABOVE LEFTWARDS ARROW",
  "aLEFTWARDS ARROW ABOVE REVERSE ALMOST EQUAL TO;aRIGHTWARDS ARROW THROUGH GREATER-THAN",
  "zSUPERSET;aLEFTWARDS QUADRUPLE ARROW;aRIGHTWARDS QUADRUPLE ARROW",
  "bEVERSE TILDE OPERATOR ABOVE RIGHTWARDS ARROW;bIGHTWARDS ARROW ABOVE REVERSE ALMOST EQUAL TO",
  "aTILDE OPERATOR ABOVE LEFTWARDS ARROW;aLEFTWARDS ARROW ABOVE ALMOST EQUAL TO",
  "wREVERSE TILDE OPERATOR;aRIGHTWARDS ARROW ABOVE REVERSE TILDE OPERATOR",
  "aDOWNWARDS TRIANGLE-HEADED ZIGZAG ARROW;aSHORT SLANTED NORTH ARROW;gBACKSLANTED SOUTH ARROW",
  "aWHITE MEDIUM STAR;aBLACK SMALL STAR;aWHITE SMALL STAR;aBLACK RIGHT-POINTING PENTAGON",
  "aWHITE RIGHT-POINTING PENTAGON;aHEAVY LARGE CIRCLE;gOVAL WITH OVAL INSIDE",
  "gCIRCLE WITH CIRCLE INSIDE;m;mD SALTIRE;aSLANTED NORTH ARROW WITH HOOKED HEAD",
  "aBACKSLANTED SOUTH ARROW WITH HOOKED TAIL;aSLANTED NORTH ARROW WITH HORIZONTAL TAIL",
  "aBACKSLANTED SOUTH ARROW WITH HORIZONTAL TAIL;bENT ARROW POINTING DOWNWARDS THEN NORTH EAST",
  "aSHORT BENT ARROW POINTING DOWNWARDS THEN NORTH EAST;aLEFTWARDS TRIANGLE-HEADED ARROW",
  "aUPWARDS TRIANGLE-HEADED ARROW;aRIGHTWARDS TRIANGLE-HEADED ARROW",
  "aDOWNWARDS TRIANGLE-HEADED ARROW;aLEFT RIGHT TRIANGLE-HEADED ARROW",
  "aUP DOWN TRIANGLE-HEADED ARROW;aNORTH WEST TRIANGLE-HEADED ARROW;gEAST TRIANGLE-HEADED ARROW",
  "aSOUTH EAST TRIANGLE-HEADED ARROW;gWEST TRIANGLE-HEADED ARROW",
  "aLEFTWARDS TRIANGLE-HEADED DASHED ARROW;aUPWARDS TRIANGLE-HEADED DASHED ARROW",
  "aRIGHTWARDS TRIANGLE-HEADED DASHED ARROW;aDOWNWARDS TRIANGLE-HEADED DASHED ARROW",
  "aCLOCKWISE TRIANGLE-HEADED OPEN CIRCLE ARROW",
  "aANTICLOCKWISE TRIANGLE-HEADED OPEN CIRCLE ARROW;aLEFTWARDS TRIANGLE-HEADED ARROW TO BAR",
  "aUPWARDS TRIANGLE-HEADED ARROW TO BAR;aRIGHTWARDS TRIANGLE-HEADED ARROW TO BAR",
  "aDOWNWARDS TRIANGLE-HEADED ARROW TO BAR;+2;aNORTH WEST TRIANGLE-HEADED ARROW TO BAR",
  "gEAST TRIANGLE-HEADED ARROW TO BAR;aSOUTH EAST TRIANGLE-HEADED ARROW TO BAR",
  "gWEST TRIANGLE-HEADED ARROW TO BAR",
  "aLEFTWARDS TRIANGLE-HEADED ARROW WITH DOUBLE HORIZONTAL STROKE",
  "aUPWARDS TRIANGLE-HEADED ARROW WITH DOUBLE HORIZONTAL STROKE",
  "aRIGHTWARDS TRIANGLE-HEADED ARROW WITH DOUBLE HORIZONTAL STROKE",
  "aDOWNWARDS TRIANGLE-HEADED ARROW WITH DOUBLE HORIZONTAL STROKE;aHORIZONTAL TAB KEY",
  "aVERTICAL TAB KEY;aLEFTWARDS TRIANGLE-HEADED ARROW OVER RIGHTWARDS TRIANGLE-HEADED ARROW",
  "aUPWARDS TRIANGLE-HEADED ARROW LEFTWARDS OF DOWNWARDS TRIANGLE-HEADED ARROW",
  "aRIGHTWARDS TRIANGLE-HEADED ARROW OVER LEFTWARDS TRIANGLE-HEADED ARROW",
  "aDOWNWARDS TRIANGLE-HEADED ARROW LEFTWARDS OF UPWARDS TRIANGLE-HEADED ARROW",
  "aLEFTWARDS TRIANGLE-HEADED PAIRED ARROWS;aUPWARDS TRIANGLE-HEADED PAIRED ARROWS",
  "aRIGHTWARDS TRIANGLE-HEADED PAIRED ARROWS;aDOWNWARDS TRIANGLE-HEADED PAIRED ARROWS",
  "aLEFTWARDS BLACK CIRCLED WHITE ARROW;aUPWARDS BLACK CIRCLED WHITE ARROW",
  "aRIGHTWARDS BLACK CIRCLED WHITE ARROW;aDOWNWARDS BLACK CIRCLED WHITE ARROW",
  "aANTICLOCKWISE TRIANGLE-HEADED RIGHT U-SHAPED ARROW;EBOTTOM U-SHAPED ARROW",
  "ELEFT U-SHAPED ARROW;ETOP U-SHAPED ARROW;aRETURN LEFT;hRIGHT;aNEWLINE LEFT;iRIGHT",
  "aFOUR CORNER ARROWS CIRCLING ANTICLOCKWISE;aRIGHTWARDS BLACK ARROW;+1",
  "aSYMBOL FOR TYPE A ELECTRONICS;aTHREE-D TOP-LIGHTED LEFTWARDS EQUILATERAL ARROWHEAD",
  "iRIGHT-LIGHTED UPWARDS EQUILATERAL ARROWHEAD;iTOP-LIGHTED RIGHTWARDS EQUILATERAL ARROWHEAD",
  "iLEFT-LIGHTED DOWNWARDS EQUILATERAL ARROWHEAD;aBLACK LEFTWARDS EQUILATERAL ARROWHEAD",
  "gUPWARDS EQUILATERAL ARROWHEAD;gRIGHTWARDS EQUILATERAL ARROWHEAD",
  "gDOWNWARDS EQUILATERAL ARROWHEAD;aDOWNWARDS TRIANGLE-HEADED ARROW WITH LONG TIP LEFTWARDS",
  "URIGHTWARDS;aUPWARDS TRIANGLE-HEADED ARROW WITH LONG TIP LEFTWARDS;SRIGHTWARDS",
  "aLEFTWARDS TRIANGLE-HEADED ARROW WITH LONG TIP UPWARDS",
  "aRIGHTWARDS TRIANGLE-HEADED ARROW WITH LONG TIP UPWARDS",
  "aLEFTWARDS TRIANGLE-HEADED ARROW WITH LONG TIP DOWNWARDS",
  "aRIGHTWARDS TRIANGLE-HEADED ARROW WITH LONG TIP DOWNWARDS",
  "aBLACK CURVED DOWNWARDS AND LEFTWARDS ARROW;BRIGHTWARDS ARROW;nUPWARDS AND LEFTWARDS ARROW",
  "zRIGHTWARDS ARROW;nLEFTWARDS AND UPWARDS ARROW;nRIGHTWARDS AND UPWARDS ARROW",
  "nLEFTWARDS AND DOWNWARDS ARROW;nRIGHTWARDS AND DOWNWARDS ARROW;aRIBBON ARROW DOWN LEFT",
  "sRIGHT;nUP LEFT;qRIGHT;nLEFT UP;nRIGHT UP;nLEFT DOWN;nRIGHT DOWN",
  "aUPWARDS WHITE ARROW FROM BAR WITH HORIZONTAL BAR;c ARROWHEAD IN A RECTANGLE BOX",
  "aOVERLAPPING WHITE SQUARES;sAND BLACK SQUARES;mBLACK SQUARES;aBALLOT BOX WITH LIGHT X",
  "aCIRCLED X;iBOLD X;aBLACK SQUARE CENTRED;gDIAMOND CENTRED;aTURNED BLACK PENTAGON",
  "aHORIZONTAL BLACK OCTAGON;aBLACK OCTAGON;gMEDIUM UP-POINTING TRIANGLE CENTRED",
  "nDOWN-POINTING TRIANGLE CENTRED;nLEFT-POINTING TRIANGLE CENTRED",
  "nRIGHT-POINTING TRIANGLE CENTRED;aNEPTUNE FORM TWO;aTOP HALF BLACK CIRCLE",
  "aBOTTOM HALF BLACK CIRCLE;aLIGHT FOUR POINTED BLACK CUSP",
  "aROTATED LIGHT FOUR POINTED BLACK CUSP;aWHITE FOUR POINTED CUSP",
  "aROTATED WHITE FOUR POINTED CUSP;aSQUARE POSITION INDICATOR;aUNCERTAINTY SIGN;aGROUP MARK",
  "aPLUTO FORM TWO;mHREE;lFOUR;mIVE;aTRANSPLUTO;aPROSERPINA;aASTRAEA;aHYGIEA;aPHOLUS;aNESSUS",
  "aWHITE MOON SELENA;aBLACK DIAMOND ON CROSS;aTRUE LIGHT MOON ARTA;aCUPIDO;aHADES;aZEUS",
  "aKRONOS;aAPOLLON;bDMETOS;aVULCANUS;aPOSEIDON;aLEFT HALF BLACK STAR;aRIGHT HALF BLACK STAR",
  "aSTAR WITH LEFT HALF BLACK;kRIGHT HALF BLACK",
  "aLEFTWARDS TWO-HEADED ARROW WITH TRIANGLE ARROWHEADS",
  "aUPWARDS TWO-HEADED ARROW WITH TRIANGLE ARROWHEADS",
  "aRIGHTWARDS TWO-HEADED ARROW WITH TRIANGLE ARROWHEADS",
  "aDOWNWARDS TWO-HEADED ARROW WITH TRIANGLE ARROWHEADS;aERIS FORM ONE;kTWO;aSEDNA"]

def characterNameEntriesD : List String := [
  "aRUSSIAN ASTROLOGICAL SYMBOL VIGINTILE;CNOVILE;CQUINTILE;CBINOVILE;CSENTAGON;CTREDECILE",
  "aEQUALS SIGN WITH INFINITY BELOW;aUNITED SYMBOL;aSEPARATED SYMBOL;aDOUBLED SYMBOL",
  "aPASSED SYMBOL;aREVERSED RIGHT ANGLE;aHELLSCHREIBER PAUSE SYMBOL",
  "aGLAGOLITIC CAPITAL LETTER AZU;ABUKY;AVEDE;AGLAGOLI;ADOBRO;AYESTU;AZHIVETE;ADZELO;AZEMLJA",
  "AIZHE;BNITIAL IZHE;B;ADJERVI;AKAKO;ALJUDIJE;AMYSLITE;ANASHI;AONU;APOKOJI;ARITSI;ASLOVO",
  "ATVRIDO;AUKU;AFRITU;AHERU;AOTU;APE;ASHTA;ATSI;ACHRIVI;ASHA;AYERU;DI;BATI;ASPIDERY HA;AYU",
  "ASMALL YUS;J WITH TAIL;AYO;AIOTATED SMALL YUS;ABIG YUS;AIOTATED BIG YUS;AFITA;AIZHITSA",
  "ASHTAPIC;ATROKUTASTI A;ALATINATE MYSLITE;ACAUDATE CHRIVI;lSMALL LETTER AZU;yBUKY;yVEDE",
  "yGLAGOLI;yDOBRO;yYESTU;yZHIVETE;yDZELO;yZEMLJA;yIZHE;zNITIAL IZHE;z;yDJERVI;yKAKO;yLJUDIJE",
  "yMYSLITE;yNASHI;yONU;yPOKOJI;yRITSI;ySLOVO;yTVRIDO;yUKU;yFRITU;yHERU;yOTU;yPE;ySHTA;yTSI",
  "yCHRIVI;ySHA;yYERU;BI;zATI;ySPIDERY HA;yYU;ySMALL YUS;H WITH TAIL;yYO;yIOTATED SMALL YUS",
  "yBIG YUS;yIOTATED BIG YUS;yFITA;yIZHITSA;ySHTAPIC;yTROKUTASTI A;yLATINATE MYSLITE",
  "yCAUDATE CHRIVI;aLATIN CAPITAL LETTER L WITH DOUBLE BAR;gSMALL LETTER L WITH DOUBLE BAR",
  "gCAPITAL LETTER L WITH MIDDLE TILDE;vP WITH STROKE;vR WITH TAIL;gSMALL LETTER A WITH STROKE",
  "tT WITH DIAGONAL STROKE;gCAPITAL LETTER H WITH DESCENDER;gSMALL LETTER H WITH DESCENDER",
  "gCAPITAL LETTER K WITH DESCENDER;gSMALL LETTER K WITH DESCENDER",
  "gCAPITAL LETTER Z WITH DESCENDER;gSMALL LETTER Z WITH DESCENDER;gCAPITAL LETTER ALPHA",
  "vM WITH HOOK;vTURNED A;DLPHA;gSMALL LETTER V WITH RIGHT HOOK;gCAPITAL LETTER W WITH HOOK",
  "gSMALL LETTER W WITH HOOK;tV WITH CURL;gCAPITAL LETTER HALF H;gSMALL LETTER HALF H",
  "tTAILLESS PHI;tE WITH NOTCH;tTURNED R WITH TAIL;tO WITH LOW RING INSIDE",
  "gLETTER SMALL CAPITAL TURNED E;gSUBSCRIPT SMALL LETTER J;aMODIFIER LETTER CAPITAL V",
  "aLATIN CAPITAL LETTER S WITH SWASH TAIL;vZ WITH SWASH TAIL;aCOPTIC CAPITAL LETTER ALFA",
  "hSMALL LETTER ALFA;hCAPITAL LETTER VIDA;hSMALL LETTER VIDA;hCAPITAL LETTER GAMMA",
  "hSMALL LETTER GAMMA;hCAPITAL LETTER DALDA;hSMALL LETTER DALDA;hCAPITAL LETTER EIE",
  "hSMALL LETTER EIE;hCAPITAL LETTER SOU;hSMALL LETTER SOU;hCAPITAL LETTER ZATA",
  "hSMALL LETTER ZATA;hCAPITAL LETTER HATE;hSMALL LETTER HATE;hCAPITAL LETTER THETHE",
  "hSMALL LETTER THETHE;hCAPITAL LETTER IAUDA;hSMALL LETTER IAUDA;hCAPITAL LETTER KAPA",
  "hSMALL LETTER KAPA;hCAPITAL LETTER LAULA;hSMALL LETTER LAULA;hCAPITAL LETTER MI",
  "hSMALL LETTER MI;hCAPITAL LETTER NI;hSMALL LETTER NI;hCAPITAL LETTER KSI;hSMALL LETTER KSI",
  "hCAPITAL LETTER O;hSMALL LETTER O;hCAPITAL LETTER PI;hSMALL LETTER PI;hCAPITAL LETTER RO",
  "hSMALL LETTER RO;hCAPITAL LETTER SIMA;hSMALL LETTER SIMA;hCAPITAL LETTER TAU",
  "hSMALL LETTER TAU;hCAPITAL LETTER UA;hSMALL LETTER UA;hCAPITAL LETTER FI;hSMALL LETTER FI",
  "hCAPITAL LETTER KHI;hSMALL LETTER KHI;hCAPITAL LETTER PSI;hSMALL LETTER PSI",
  "hCAPITAL LETTER OOU;hSMALL LETTER OOU;hCAPITAL LETTER DIALECT-P ALEF",
  "hSMALL LETTER DIALECT-P ALEF;hCAPITAL LETTER OLD COPTIC AIN;hSMALL LETTER OLD COPTIC AIN",
  "hCAPITAL LETTER CRYPTOGRAMMIC EIE;hSMALL LETTER CRYPTOGRAMMIC EIE",
  "hCAPITAL LETTER DIALECT-P KAPA;hSMALL LETTER DIALECT-P KAPA;hCAPITAL LETTER DIALECT-P NI",
  "hSMALL LETTER DIALECT-P NI;hCAPITAL LETTER CRYPTOGRAMMIC NI;hSMALL LETTER CRYPTOGRAMMIC NI",
  "hCAPITAL LETTER OLD COPTIC OOU;hSMALL LETTER OLD COPTIC OOU;hCAPITAL LETTER SAMPI",
  "hSMALL LETTER SAMPI;hCAPITAL LETTER CROSSED SHEI;hSMALL LETTER CROSSED SHEI",
  "hCAPITAL LETTER OLD COPTIC SHEI;hSMALL LETTER OLD COPTIC SHEI;hCAPITAL LETTER OLD COPTIC ESH",
  "hSMALL LETTER OLD COPTIC ESH;hCAPITAL LETTER AKHMIMIC KHEI;hSMALL LETTER AKHMIMIC KHEI",
  "hCAPITAL LETTER DIALECT-P HORI;hSMALL LETTER DIALECT-P HORI;hCAPITAL LETTER OLD COPTIC HORI",
  "hSMALL LETTER OLD COPTIC HORI;hCAPITAL LETTER OLD COPTIC HA;hSMALL LETTER OLD COPTIC HA",
  "hCAPITAL LETTER L-SHAPED HA;hSMALL LETTER L-SHAPED HA;hCAPITAL LETTER OLD COPTIC HEI",
  "hSMALL LETTER OLD COPTIC HEI;hCAPITAL LETTER OLD COPTIC HAT;hSMALL LETTER OLD COPTIC HAT",
  "hCAPITAL LETTER OLD COPTIC GANGIA;hSMALL LETTER OLD COPTIC GANGIA",
  "hCAPITAL LETTER OLD COPTIC DJA;hSMALL LETTER OLD COPTIC DJA;hCAPITAL LETTER OLD COPTIC SHIMA",
  "hSMALL LETTER OLD COPTIC SHIMA;hCAPITAL LETTER OLD NUBIAN SHIMA",
  "hSMALL LETTER OLD NUBIAN SHIMA;hCAPITAL LETTER OLD NUBIAN NGI;hSMALL LETTER OLD NUBIAN NGI",
  "hCAPITAL LETTER OLD NUBIAN NYI;hSMALL LETTER OLD NUBIAN NYI;hCAPITAL LETTER OLD NUBIAN WAU",
  "hSMALL LETTER OLD NUBIAN WAU;iYMBOL KAI;oMI RO;oPI RO;oSTAUROS;oTAU RO;oKHI RO;oSHIMA SIMA",
  "hCAPITAL LETTER CRYPTOGRAMMIC SHEI;hSMALL LETTER CRYPTOGRAMMIC SHEI",
  "hCAPITAL LETTER CRYPTOGRAMMIC GANGIA;hSMALL LETTER CRYPTOGRAMMIC GANGIA;hCOMBINING NI ABOVE",
  "rSPIRITUS ASPER;ALENIS;iAPITAL LETTER BOHAIRIC KHEI;hSMALL LETTER BOHAIRIC KHEI;+5",
  "hOLD NUBIAN FULL STOP;sDIRECT QUESTION MARK;sINDIRECT QUESTION MARK;sVERSE DIVIDER",
  "hFRACTION ONE HALF;iULL STOP;hMORPHOLOGICAL DIVIDER;aGEORGIAN SMALL LETTER AN;wBAN;wGAN;wDON",
  "wEN;wVIN;wZEN;wTAN;wIN;wKAN;wLAS;wMAN;wNAR;wON;wPAR;wZHAR;wRAE;wSAN;wTAR;wUN;wPHAR;wKHAR",
  "wGHAN;wQAR;wSHIN;wCHIN;xAN;wJIL;wCIL;xHAR;wXAN;wJHAN;wHAE;xE;xIE;wWE;wHAR;xOE;+1;wYN;+5;wAEN",
  "+2;aTIFINAGH LETTER YA;sB;tH;sG;tHH;qBERBER ACADEMY YAJ;qYAJ;sD;tH;tD;uH;rEY;rAF;sK",
  "qTUAREG YAK;qYAKHH;sH;qBERBER ACADEMY YAH;qTUAREG YAH;qYAHH;sA;sKH;qTUAREG YAKH;qYAQ",
  "qTUAREG YAQ;qYI;rAZH;qAHAGGAR YAZH;qTUAREG YAZH;qYAL;sM;sN;qTUAREG YAGN;zNG;qYAP;rU;rAR;tR",
  "sGH;qTUAREG YAGH;qAYER YAGH;qYAS;tS;tH;sT;tH;sCH;sTT;sV;sW;sY;sZ;qTAWELLEMET YAZ;qYAZZ;rE;rO",
  "+7;jMODIFIER LETTER LABIALIZATION MARK;jSEPARATOR MARK;+e;jCONSONANT JOINER",
  "aETHIOPIC SYLLABLE LOA;sMOA;sROA;sSOA;tHOA;sBOA;sTOA;sCOA;sNOA;tYOA;sGLOTTAL OA;sZOA;sDOA",
  "tDOA;sJOA;sTHOA;sCHOA;sPHOA;tOA;sGGWA;vI;vEE;w;+9;sSSA;uU;uI;uAA;uEE;v;uO;+1;sCCA;uU;uI;uAA",
  "uEE;v;uO;+1;sZZA;uU;uI;uAA;uEE;v;uO;+1;sCCHA;vU;vI;vAA;vEE;w;vO;+1;sQYA;uU;uI;uAA;uEE;v;uO",
  "+1;sKYA;uU;uI;uAA;uEE;v;uO;+1;sXYA;uU;uI;uAA;uEE;v;uO;+1;sGYA;uU;uI;uAA;uEE;v;uO;+1",
  "aCOMBINING CYRILLIC LETTER BE;AVE;AGHE;ADE;AZHE;BE;AKA;AEL;BM;BN;AO;APE;AER;BS;ATE;AHA;ATSE",
  "ACHE;ASHA;CCHA;AFITA;AES-TE;AA;AIE;ADJERV;AMONOGRAPH UK;AYAT;BU;AIOTIFIED A;ALITTLE YUS",
  "ABIG YUS;AIOTIFIED BIG YUS;aRIGHT ANGLE SUBSTITUTION MARKER;mDOTTED SUBSTITUTION MARKER",
  "aLEFT SUBSTITUTION BRACKET;aRIGHT SUBSTITUTION BRACKET;aLEFT DOTTED SUBSTITUTION BRACKET",
  "aRIGHT DOTTED SUBSTITUTION BRACKET;bAISED INTERPOLATION MARKER;hDOTTED INTERPOLATION MARKER",
  "aDOTTED TRANSPOSITION MARKER;aLEFT TRANSPOSITION BRACKET;aRIGHT TRANSPOSITION BRACKET",
  "bAISED SQUARE;aLEFT RAISED OMISSION BRACKET;aRIGHT RAISED OMISSION BRACKET",
  "aEDITORIAL CORONIS;aPARAGRAPHOS;aFORKED PARAGRAPHOS;aREVERSED FORKED PARAGRAPHOS",
  "aHYPODIASTOLE;aDOTTED OBELOS;cWNWARDS ANCORA;aUPWARDS ANCORA;aDOTTED RIGHT-POINTING ANGLE",
  "cUBLE OBLIQUE HYPHEN;aINVERTED INTERROBANG;aPALM BRANCH;aHYPHEN WITH DIAERESIS",
  "aTILDE WITH RING ABOVE;aLEFT LOW PARAPHRASE BRACKET;aRIGHT LOW PARAPHRASE BRACKET",
  "aTILDE WITH DOT ABOVE;pBELOW;aLEFT VERTICAL BAR WITH QUILL;aRIGHT VERTICAL BAR WITH QUILL",
  "aTOP LEFT HALF BRACKET;eRIGHT HALF BRACKET;aBOTTOM LEFT HALF BRACKET;hRIGHT HALF BRACKET",
  "aLEFT SIDEWAYS U BRACKET;aRIGHT SIDEWAYS U BRACKET;aLEFT DOUBLE PARENTHESIS",
  "aRIGHT DOUBLE PARENTHESIS;aTWO DOTS OVER ONE DOT PUNCTUATION",
  "aONE DOT OVER TWO DOTS PUNCTUATION;aSQUARED FOUR DOT PUNCTUATION;aFIVE DOT MARK",
  "aREVERSED QUESTION MARK;aVERTICAL TILDE;aRING POINT;aWORD SEPARATOR MIDDLE DOT;aTURNED COMMA",
  "aRAISED DOT;hCOMMA;aTURNED SEMICOLON;aDAGGER WITH LEFT GUARD;mRIGHT GUARD;aTURNED DAGGER",
  "bOP HALF SECTION SIGN;bWO-EM DASH;bHREE-EM DASH;aSTENOGRAPHIC FULL STOP;aVERTICAL SIX DOTS",
  "aWIGGLY VERTICAL LINE;aCAPITULUM;aDOUBLE HYPHEN;aREVERSED COMMA",
  "aDOUBLE LOW-REVERSED-9 QUOTATION MARK;bASH WITH LEFT UPTURN;bOUBLE SUSPENSION MARK",
  "aINVERTED LOW KAVYKA;t WITH KAVYKA ABOVE;aLOW KAVYKA;k WITH DOT;aDOUBLE STACKED COMMA",
  "cTTED SOLIDUS;aTRIPLE DAGGER;aMEDIEVAL COMMA;aPARAGRAPHUS MARK;bUNCTUS ELEVATUS MARK",
  "aCORNISH VERSE DIVIDER;bROSS PATTY WITH RIGHT CROSSBAR;rLEFT CROSSBAR",
  "aTIRONIAN SIGN CAPITAL ET;aMEDIEVAL EXCLAMATION MARK;jQUESTION MARK",
  "aLEFT SQUARE BRACKET WITH STROKE;aRIGHT SQUARE BRACKET WITH STROKE",
  "aLEFT SQUARE BRACKET WITH DOUBLE STROKE;aRIGHT SQUARE BRACKET WITH DOUBLE STROKE",
  "aTOP HALF LEFT PARENTHESIS;jRIGHT PARENTHESIS;aBOTTOM HALF LEFT PARENTHESIS",
  "mRIGHT PARENTHESIS;aOBLIQUE HYPHEN;+22;aCJK RADICAL REPEAT;mCLIFF;mSECOND ONE;tTWO;uHREE",
  "mPERSON;mBOX;mTABLE;mKNIFE ONE;sTWO;mDIVINATION;mSEAL;nMALL ONE;sTWO;mLAME ONE;rTWO;sHREE",
  "rFOUR;mSNAKE;mTHREAD;mSNOUT ONE;sTWO;mHEART ONE;sTWO;nAND;mRAP;+1;mCHOKE;mSUN;mMOON;mDEATH",
  "mMOTHER;mCIVILIAN;mWATER ONE;sTWO;mFIRE;mPAW ONE;qTWO;mSIMPLIFIED HALF TREE TRUNK;mCOW;mDOG",
  "mJADE;mBOLT OF CLOTH;mEYE;mSPIRIT ONE;tTWO;mBAMBOO;mSILK;mC-SIMPLIFIED SILK;mNET ONE;qTWO",
  "rHREE;qFOUR;mMESH;mSHEEP;mRAM;mEWE;mOLD;mBRUSH ONE;sTWO;mMEAT;nORTAR;mGRASS ONE;sTWO;tHREE",
  "mTIGER;mCLOTHES;mWEST ONE;rTWO;mC-SIMPLIFIED SEE;mSIMPLIFIED HORN;mHORN;mC-SIMPLIFIED SPEECH",
  "AHELL;mFOOT;mC-SIMPLIFIED CART;mSIMPLIFIED WALK;mWALK ONE;rTWO;mCITY;n-SIMPLIFIED GOLD",
  "mLONG ONE;rTWO;mC-SIMPLIFIED LONG;zGATE;mMOUND ONE;sTWO;mRAIN;mBLUE",
  "mC-SIMPLIFIED TANNED LEATHER;zLEAF;zWIND;zFLY;mEAT ONE;qTWO;rHREE;mC-SIMPLIFIED EAT;mHEAD",
  "mC-SIMPLIFIED HORSE;mBONE;mGHOST;mC-SIMPLIFIED FISH;zBIRD;zSALT;mSIMPLIFIED WHEAT;xYELLOW",
  "mC-SIMPLIFIED FROG;mJ-SIMPLIFIED EVEN;mC-SIMPLIFIED EVEN;mJ-SIMPLIFIED TOOTH",
  "mC-SIMPLIFIED TOOTH;mJ-SIMPLIFIED DRAGON;mC-SIMPLIFIED DRAGON;mTURTLE;mJ-SIMPLIFIED TURTLE",
  "mC-SIMPLIFIED TURTLE;+c;aKANGXI RADICAL ONE;pLINE;pDOT;pSLASH;qECOND;pHOOK;pTWO;pLID;pMAN",
  "pLEGS;pENTER;qIGHT;pDOWN BOX;pCOVER;pICE;pTABLE;pOPEN BOX;pKNIFE;pPOWER;pWRAP;pSPOON",
  "pRIGHT OPEN BOX;pHIDING ENCLOSURE;pTEN;pDIVINATION;pSEAL;pCLIFF;pPRIVATE;pAGAIN;pMOUTH",
  "pENCLOSURE;qARTH;pSCHOLAR;pGO;r SLOWLY;pEVENING;pBIG;pWOMAN;pCHILD;pROOF;pINCH;pSMALL;pLAME",
  "pCORPSE;pSPROUT;pMOUNTAIN;pRIVER;pWORK;pONESELF;pTURBAN;pDRY;pSHORT THREAD;pDOTTED CLIFF",
  "pLONG STRIDE;pTWO HANDS;pSHOOT;pBOW;pSNOUT;pBRISTLE;pSTEP;pHEART;qALBERD;pDOOR;pHAND;pBRANCH",
  "pRAP;pSCRIPT;pDIPPER;pAXE;pSQUARE;pNOT;pSUN;qAY;pMOON;pTREE;pLACK;pSTOP;pDEATH;pWEAPON",
  "pDO NOT;pCOMPARE;pFUR;pCLAN;pSTEAM;pWATER;pFIRE;pCLAW;pFATHER;pDOUBLE X;pHALF TREE TRUNK",
  "pSLICE;pFANG;pCOW;pDOG;pPROFOUND;pJADE;pMELON;pTILE;pSWEET;pLIFE;pUSE;pFIELD;pBOLT OF CLOTH",
  "pSICKNESS;pDOTTED TENT;pWHITE;pSKIN;pDISH;pEYE;pSPEAR;pARROW;pSTONE;qPIRIT;pTRACK;pGRAIN",
  "pCAVE;pSTAND;pBAMBOO;pRICE;pSILK;pJAR;pNET;pSHEEP;pFEATHER;pOLD;pAND;pPLOW;pEAR;pBRUSH;pMEAT",
  "qINISTER;pSELF;pARRIVE;pMORTAR;pTONGUE;pOPPOSE;pBOAT;pSTOPPING;pCOLOR;pGRASS;pTIGER;pINSECT",
  "pBLOOD;pWALK ENCLOSURE;pCLOTHES;pWEST;pSEE;pHORN;pSPEECH;pVALLEY;pBEAN;pPIG;pBADGER;pSHELL",
  "pRED;qUN;pFOOT;pBODY;pCART;pBITTER;pMORNING;pWALK;pCITY;pWINE;pDISTINGUISH;pVILLAGE;pGOLD",
  "pLONG;pGATE;pMOUND;pSLAVE;qHORT TAILED BIRD;pRAIN;pBLUE;pWRONG;pFACE;pLEATHER",
  "pTANNED LEATHER;pLEEK;pSOUND;pLEAF;pWIND;pFLY;pEAT;pHEAD;pFRAGRANT;pHORSE;pBONE;pTALL;pHAIR",
  "pFIGHT;pSACRIFICIAL WINE;pCAULDRON;pGHOST;pFISH;pBIRD;pSALT;pDEER;pWHEAT;pHEMP;pYELLOW",
  "pMILLET;pBLACK;pEMBROIDERY;pFROG;pTRIPOD;pDRUM;pRAT;pNOSE;pEVEN;pTOOTH;pDRAGON;pTURTLE",
  "pFLUTE;+1a;aIDEOGRAPHIC DESCRIPTION CHARACTER LEFT TO RIGHT;IABOVE TO BELOW",
  "ILEFT TO MIDDLE AND RIGHT;IABOVE TO MIDDLE AND BELOW;IFULL SURROUND;ISURROUND FROM ABOVE",
  "WBELOW;WLEFT;WUPPER LEFT;ZER RIGHT;WLOWER LEFT;IOVERLAID;+4;mSPACE;mCOMMA;mFULL STOP",
  "aDITTO MARK;aJAPANESE INDUSTRIAL STANDARD SYMBOL;aIDEOGRAPHIC ITERATION MARK;mCLOSING MARK",
  "mNUMBER ZERO;aLEFT ANGLE BRACKET;aRIGHT ANGLE BRACKET;aLEFT DOUBLE ANGLE BRACKET",
  "aRIGHT DOUBLE ANGLE BRACKET;aLEFT CORNER BRACKET;aRIGHT CORNER BRACKET",
  "aLEFT WHITE CORNER BRACKET;aRIGHT WHITE CORNER BRACKET;aLEFT BLACK LENTICULAR BRACKET",
  "aRIGHT BLACK LENTICULAR BRACKET;aPOSTAL MARK;aGETA MARK;aLEFT TORTOISE SHELL BRACKET",
  "aRIGHT TORTOISE SHELL BRACKET;aLEFT WHITE LENTICULAR BRACKET;aRIGHT WHITE LENTICULAR BRACKET",
  "aLEFT WHITE TORTOISE SHELL BRACKET;aRIGHT WHITE TORTOISE SHELL BRACKET",
  "aLEFT WHITE SQUARE BRACKET;aRIGHT WHITE SQUARE BRACKET;aWAVE DASH",
  "aREVERSED DOUBLE PRIME QUOTATION MARK;aDOUBLE PRIME QUOTATION MARK",
  "aLOW DOUBLE PRIME QUOTATION MARK;aPOSTAL MARK FACE;aHANGZHOU NUMERAL ONE;rTWO;sHREE;rFOUR",
  "sIVE;rSIX;sEVEN;rEIGHT;rNINE;aIDEOGRAPHIC LEVEL TONE MARK;mRISING TONE MARK",
  "mDEPARTING TONE MARK;mENTERING TONE MARK;aHANGUL SINGLE DOT TONE MARK;hDOUBLE DOT TONE MARK",
  "aWAVY DASH;aVERTICAL KANA REPEAT MARK;vWITH VOICED SOUND MARK;vMARK UPPER HALF",
  "vWITH VOICED SOUND MARK UPPER HALF;vMARK LOWER HALF;aCIRCLED POSTAL MARK",
  "aIDEOGRAPHIC TELEGRAPH LINE FEED SEPARATOR SYMBOL;aHANGZHOU NUMERAL TEN;sWENTY;sHIRTY",
  "aVERTICAL IDEOGRAPHIC ITERATION MARK;aMASU MARK;aPART ALTERNATION MARK",
  "aIDEOGRAPHIC VARIATION INDICATOR;mHALF FILL SPACE;+1;aHIRAGANA LETTER SMALL A;qA;qSMALL I;qI",
  "qSMALL U;qU;qSMALL E;qE;qSMALL O;qO;qKA;qGA;qKI;qGI;qKU;qGU;qKE;qGE;qKO;qGO;qSA;qZA;qSI;qZI",
  "qSU;qZU;qSE;qZE;qSO;qZO;qTA;qDA;qTI;qDI;qSMALL TU;qTU;qDU;qTE;qDE;qTO;qDO;qNA;rI;rU;rE;rO",
  "qHA;qBA;qPA;qHI;qBI;qPI;qHU;qBU;qPU;qHE;qBE;qPE;qHO;qBO;qPO;qMA;rI;rU;rE;rO;qSMALL YA;qYA",
  "qSMALL YU;qYU;qSMALL YO;qYO;qRA;rI;rU;rE;rO;qSMALL WA;qWA;rI;rE;rO;qN;qVU;qSMALL KA;xE;+2",
  "aCOMBINING KATAKANA-HIRAGANA VOICED SOUND MARK;CSEMI-VOICED SOUND MARK",
  "aKATAKANA-HIRAGANA VOICED SOUND MARK;sSEMI-VOICED SOUND MARK;aHIRAGANA ITERATION MARK",
  "jVOICED ITERATION MARK;jDIGRAPH YORI;aKATAKANA-HIRAGANA DOUBLE HYPHEN;i LETTER SMALL A;qA",
  "qSMALL I;qI;qSMALL U;qU;qSMALL E;qE;qSMALL O;qO;qKA;qGA;qKI;qGI;qKU;qGU;qKE;qGE;qKO;qGO;qSA",
  "qZA;qSI;qZI;qSU;qZU;qSE;qZE;qSO;qZO;qTA;qDA;qTI;qDI;qSMALL TU;qTU;qDU;qTE;qDE;qTO;qDO;qNA;rI",
  "rU;rE;rO;qHA;qBA;qPA;qHI;qBI;qPI;qHU;qBU;qPU;qHE;qBE;qPE;qHO;qBO;qPO;qMA;rI;rU;rE;rO",
  "qSMALL YA;qYA;qSMALL YU;qYU;qSMALL YO;qYO;qRA;rI;rU;rE;rO;qSMALL WA;qWA;rI;rE;rO;qN;qVU",
  "qSMALL KA;xE;qVA;rI;rE;rO;jMIDDLE DOT;i-HIRAGANA PROLONGED SOUND MARK;i ITERATION MARK",
  "jVOICED ITERATION MARK;jDIGRAPH KOTO;+5;aBOPOMOFO LETTER B;qP;qM;qF;qD;qT;qN;qL;qG;qK;qH;qJ",
  "qQ;qX;qZH;qCH;qSH;qR;qZ;qC;qS;qA;qO;qE;rH;qAI;qEI;qAU;qOU;qAN;qEN;qANG;qENG;rR;qI;qU;qIU;qV",
  "qNG;qGN;qIH;qO WITH DOT ABOVE;qNN;+1;aHANGUL LETTER KIYEOK;oSSANGKIYEOK;oKIYEOK-SIOS;oNIEUN",
  "t-CIEUC;uHIEUH;oTIKEUT;oSSANGTIKEUT;oRIEUL;t-KIYEOK;uMIEUM;uPIEUP;uSIOS;uTHIEUTH;uPHIEUPH",
  "uHIEUH;oMIEUM;oPIEUP;oSSANGPIEUP;oPIEUP-SIOS;oSIOS;pSANGSIOS;oIEUNG;oCIEUC;oSSANGCIEUC",
  "oCHIEUCH;oKHIEUKH;oTHIEUTH;oPHIEUPH;oHIEUH;oA;pE;oYA;qE;oEO;p;oYEO;q;oO;oWA;qE;oOE;oYO;oU",
  "oWEO;q;pI;oYU;oEU;oYI;oI;hFILLER;hLETTER SSANGNIEUN;oNIEUN-TIKEUT;uSIOS;uPANSIOS",
  "oRIEUL-KIYEOK-SIOS;uTIKEUT;uPIEUP-SIOS;vANSIOS;uYEORINHIEUH;oMIEUM-PIEUP;uSIOS;uPANSIOS",
  "oKAPYEOUNMIEUM;oPIEUP-KIYEOK;uTIKEUT;uSIOS-KIYEOK;zTIKEUT;uCIEUC;uTHIEUTH;oKAPYEOUNPIEUP",
  "wSSANGPIEUP;oSIOS-KIYEOK;tNIEUN;tTIKEUT;tPIEUP;tCIEUC;oPANSIOS;oSSANGIEUNG;oYESIEUNG;w-SIOS",
  "xPANSIOS;oKAPYEOUNPHIEUPH;oSSANGHIEUH;oYEORINHIEUH;pO-YA;tE;rI;pU-YEO;t;rI;oARAEA;tE;+1",
  "aIDEOGRAPHIC ANNOTATION LINKING MARK;xREVERSE MARK;xONE MARK;xTWO MARK;yHREE MARK;xFOUR MARK",
  "xTOP MARK;xMIDDLE MARK;xBOTTOM MARK;xFIRST MARK;xSECOND MARK;xTHIRD MARK;xFOURTH MARK",
  "xHEAVEN MARK;xEARTH MARK;xMAN MARK;aBOPOMOFO LETTER BU;qZI;qJI;qGU;qEE;rNN;qOO;rNN;qIR;qANN",
  "qINN;qUNN;qIM;qNGG;qAINN;rUNN;rM;qOM;rNG;qINNN;jFINAL LETTER P;wT;wK;wH;jLETTER GH;qLH;qZY",
  "jFINAL LETTER G;jLETTER GW;qKW;qOE;qAH;aCJK STROKE T;lWG;lXG;lBXG;lSW;lHZZ;nG;mP;mZWG;lSZWG",
  "lHZT;nZP;mPWG;mZW;nZZ;lN;lH;lS;lP;lSP;lD;lHZ;mG;lSZ;mWZ;mT;mG;lPD;mZ;lTN;lSZZ;mWG;lHXWG",
  "mZZZG;lPG;lQ;+c;aKATAKANA LETTER SMALL KU;wSI;xU;wTO;wNU;wHA;xI;xU;xE;xO;wMU;wRA;xI;xU;xE;xO",
  "aPARENTHESIZED HANGUL KIYEOK;vNIEUN;vTIKEUT;vRIEUL;vMIEUM;vPIEUP;vSIOS;vIEUNG;vCIEUC;wHIEUCH",
  "vKHIEUKH;vTHIEUTH;vPHIEUPH;vHIEUH;vKIYEOK A;vNIEUN A;vTIKEUT A;vRIEUL A;vMIEUM A;vPIEUP A",
  "vSIOS A;vIEUNG A;vCIEUC A;wHIEUCH A;vKHIEUKH A;vTHIEUTH A;vPHIEUPH A;vHIEUH A;vCIEUC U",
  "oKOREAN CHARACTER OJEON;G HU;+1;oIDEOGRAPH ONE;yTWO;zHREE;yFOUR;zIVE;ySIX;zEVEN;yEIGHT;yNINE",
  "yTEN;yMOON;yFIRE;yWATER;zOOD;yMETAL;yEARTH;ySUN;zTOCK;yHAVE;ySOCIETY;yNAME;ySPECIAL",
  "yFINANCIAL;yCONGRATULATION;yLABOR;yREPRESENT;yCALL;ySTUDY;zUPERVISE;yENTERPRISE;yRESOURCE",
  "yALLIANCE;yFESTIVAL;yREST;ySELF;yREACH;aCIRCLED IDEOGRAPH QUESTION;sKINDERGARTEN;sSCHOOL",
  "sKOTO;iNUMBER TEN ON BLACK SQUARE;qWENTY ON BLACK SQUARE;qHIRTY ON BLACK SQUARE",
  "pFORTY ON BLACK SQUARE;qIFTY ON BLACK SQUARE;pSIXTY ON BLACK SQUARE;qEVENTY ON BLACK SQUARE",
  "pEIGHTY ON BLACK SQUARE;aPARTNERSHIP SIGN;aCIRCLED NUMBER TWENTY ONE;wTWO;xHREE;wFOUR;xIVE",
  "wSIX;xEVEN;wEIGHT;wNINE;qHIRTY;v ONE;wTWO;xHREE;wFOUR;xIVE;iHANGUL KIYEOK;pNIEUN;pTIKEUT",
  "pRIEUL;pMIEUM;pPIEUP;pSIOS;pIEUNG;pCIEUC;qHIEUCH;pKHIEUKH;pTHIEUTH;pPHIEUPH;pHIEUH;pKIYEOK A",
  "pNIEUN A;pTIKEUT A;pRIEUL A;pMIEUM A;pPIEUP A;pSIOS A;pIEUNG A;pCIEUC A;qHIEUCH A;pKHIEUKH A",
  "pTHIEUTH A;pPHIEUPH A;pHIEUH A;iKOREAN CHARACTER CHAMKO;zJUEUI;iHANGUL IEUNG U",
  "aKOREAN STANDARD SYMBOL;aCIRCLED IDEOGRAPH ONE;sTWO;tHREE;sFOUR;tIVE;sSIX;tEVEN;sEIGHT;sNINE",
  "sTEN;sMOON;sFIRE;sWATER;tOOD;sMETAL;sEARTH;sSUN;tTOCK;sHAVE;sSOCIETY;sNAME;sSPECIAL",
  "sFINANCIAL;sCONGRATULATION;sLABOR;sSECRET;sMALE;sFEMALE;sSUITABLE;sEXCELLENT;sPRINT",
  "sATTENTION;sITEM;sREST;sCOPY;uRRECT;sHIGH;sCENTRE;sLOW;tEFT;sRIGHT;sMEDICINE;sRELIGION",
  "sSTUDY;tUPERVISE;sENTERPRISE;sRESOURCE;sALLIANCE;sNIGHT;iNUMBER THIRTY SIX;xEVEN;wEIGHT",
  "wNINE;pFORTY;u ONE;vTWO;wHREE;vFOUR;wIVE;vSIX;wEVEN;vEIGHT;vNINE;qIFTY",
  "aIDEOGRAPHIC TELEGRAPH SYMBOL FOR JANUARY;HFEBRUARY;HMARCH;HAPRIL;HMAY;HJUNE;JLY;HAUGUST",
  "HSEPTEMBER;HOCTOBER;HNOVEMBER;HDECEMBER;aSQUARE HG;hERG;iV;aLIMITED LIABILITY SIGN",
  "aCIRCLED KATAKANA A;rI;rU;rE;rO;rKA;sI;sU;sE;sO;rSA;sI;sU;sE;sO;rTA;sI;sU;sE;sO;rNA;sI;sU;sE",
  "sO;rHA;sI;sU;sE;sO;rMA;sI;sU;sE;sO;rYA;sU;sO;rRA;sI;sU;sE;sO;rWA;sI;sE;sO",
  "aSQUARE ERA NAME REIWA;hAPAATO;iRUHUA;iNPEA;iARU;hININGU;jTI;hUON;hESUKUUDO;iEKAA;hONSU;iOMU",
  "hKAIRI;jRATTO;kORII;hGARON;jNMA;iIGA;jNII;hKYURII;hGIRUDAA;hKIRO;lGURAMU;lMEETORU;lWATTO",
  "hGURAMU;nTON;hKURUZEIRO;kOONE;iEESU;iORUNA;jOPO;hSAIKURU;jNTIIMU;iIRINGU;iENTI;lO;hDAASU",
  "iESI;iORU;hTON;hNANO;iOTTO;hHAITU;hPAASENTO;kTU;hBAARERU;hPIASUTORU;jKURU;kO;hBIRU;hHUARADDO",
  "jIITO;hBUSSYERU;hHURAN;iEKUTAARU;hPESO;jNIHI;hHERUTU;hPENSU;jEZI;hBEETA;hPOINTO;hBORUTO;hHON",
  "hPONDO;hHOORU;kN;hMAIKURO;kRU;jHHA;jRUKU;jNSYON;iIKURON;jRI;lBAARU;iEGA;lTON;jETORU;hYAADO",
  "kRU;iUAN;hRITTORU;jRA;iUPII;jUBURU;iEMU;jNTOGEN;hWATTO",
  "aIDEOGRAPHIC TELEGRAPH SYMBOL FOR HOUR ZERO;MONE;MTWO;NHREE;MFOUR;NIVE;MSIX;NEVEN;MEIGHT",
  "MNINE;MTEN;MELEVEN;MTWELVE;NHIRTEEN;MFOURTEEN;NIFTEEN;MSIXTEEN;NEVENTEEN;MEIGHTEEN;MNINETEEN",
  "MTWENTY;S-ONE;TTWO;UHREE;TFOUR;aSQUARE HPA;hDA;hAU;hBAR;hOV;hPC;hDM;j SQUARED;kCUBED;hIU",
  "hERA NAME HEISEI;qSYOUWA;qTAISYOU;qMEIZI;hCORPORATION;hPA AMPS;hNA;hMU A;iA;hKA;iB;hMB;hGB",
  "hCAL;hKCAL;hPF;hNF;hMU F;kG;iG;hKG;hHZ;hKHZ;hMHZ;hGHZ;hTHZ;hMU L;iL;hDL;hKL;hFM;hNM;hMU M;iM",
  "hCM;hKM;hMM SQUARED;hCM SQUARED;hM SQUARED;hKM SQUARED;hMM CUBED;hCM CUBED;hM CUBED",
  "hKM CUBED;hM OVER S;p SQUARED;hPA;hKPA;hMPA;hGPA;hRAD;k OVER S;r SQUARED;hPS;hNS;hMU S;iS",
  "hPV;hNV;hMU V;iV;hKV;hMV MEGA;hPW;hNW;hMU W;iW;hKW;hMW MEGA;hK OHM;hM OHM;hAM;hBQ;hCC;iD",
  "i OVER KG;iO;hDB;hGY;hHA;iP;hIN;hKK;iM CAPITAL;iT;hLM;iN;iOG;iX;hMB SMALL;iIL;iOL;hPH;iM;iPM",
  "iR;hSR;iV;hWB;hV OVER M;hA OVER M;aIDEOGRAPHIC TELEGRAPH SYMBOL FOR DAY ONE;LTWO;MHREE;LFOUR",
  "MIVE;LSIX;MEVEN;LEIGHT;LNINE;LTEN;LELEVEN;LTWELVE;MHIRTEEN;LFOURTEEN;MIFTEEN;LSIXTEEN",
  "MEVENTEEN;LEIGHTEEN;LNINETEEN;LTWENTY;R-ONE;STWO;THREE;SFOUR;TIVE;SSIX;TEVEN;SEIGHT;SNINE",
  "MHIRTY;R-ONE;aSQUARE GAL;+19c0;aHEXAGRAM FOR THE CREATIVE HEAVEN;rRECEPTIVE EARTH",
  "nDIFFICULTY AT THE BEGINNING;nYOUTHFUL FOLLY;nWAITING;nCONFLICT;nTHE ARMY;nHOLDING TOGETHER",
  "nSMALL TAMING;nTREADING;nPEACE;nSTANDSTILL;nFELLOWSHIP;nGREAT POSSESSION;nMODESTY",
  "nENTHUSIASM;nFOLLOWING;nWORK ON THE DECAYED;nAPPROACH;nCONTEMPLATION;nBITING THROUGH;nGRACE",
  "nSPLITTING APART;nRETURN;nINNOCENCE;nGREAT TAMING;nMOUTH CORNERS;nGREAT PREPONDERANCE",
  "nTHE ABYSMAL WATER;rCLINGING FIRE;nINFLUENCE;nDURATION;nRETREAT;nGREAT POWER;nPROGRESS",
  "nDARKENING OF THE LIGHT;nTHE FAMILY;nOPPOSITION;oBSTRUCTION;nDELIVERANCE;pCREASE;nINCREASE",
  "nBREAKTHROUGH;nCOMING TO MEET;nGATHERING TOGETHER;nPUSHING UPWARD;nOPPRESSION;nTHE WELL",
  "nREVOLUTION;nTHE CAULDRON;rAROUSING THUNDER;rKEEPING STILL MOUNTAIN;nDEVELOPMENT",
  "nTHE MARRYING MAIDEN;nABUNDANCE;nTHE WANDERER;rGENTLE WIND;rJOYOUS LAKE;nDISPERSION",
  "nLIMITATION;nINNER TRUTH;nSMALL PREPONDERANCE;nAFTER COMPLETION;nBEFORE COMPLETION;+5200",
  "aYI SYLLABLE IT;nX;n;nP;nET;oX;o;oP;mAT;nX;n;nP;mUOX;o;oP;mOT;nX;n;nP;mEX;n;mWU;mBIT;oX;o;oP",
  "oET;pX;p;pP;nAT;oX;o;oP;nUOX;p;pP;nOT;oX;o;oP;nEX;o;oP;nUT;oX;o;oP;oRX;p;nYT;oX;o;oP;oRX;p",
  "mPIT;oX;o;oP;oEX;p;pP;nAT;oX;o;oP;nUOX;p;pP;nOT;oX;o;oP;nUT;oX;o;oP;oRX;p;nYT;oX;o;oP;oRX;p",
  "mBBIT;pX;p;pP;pET;qX;q;qP;oAT;pX;p;pP;oUOX;q;qP;oOT;pX;p;pP;oEX;p;pP;oUT;pX;p;pP;pRX;q;oYT",
  "pX;p;pP;mNBIT;pX;p;pP;pEX;q;qP;oAT;pX;p;pP;oOT;pX;p;pP;oUT;pX;p;pP;pRX;q;oYT;pX;p;pP;pRX;q",
  "mHMIT;pX;p;pP;pEX;q;qP;oAT;pX;p;pP;oUOX;q;qP;oOT;pX;p;pP;oUT;pX;p;pP;pRX;q;oYX;p;pP;pRX;q",
  "mMIT;oX;o;oP;oEX;p;pP;nAT;oX;o;oP;nUOT;pX;p;pP;nOT;oX;o;oP;nEX;o;nUT;oX;o;oP;oRX;p;nYT;oX;o",
  "oP;mFIT;oX;o;oP;nAT;oX;o;oP;nOX;o;oP;nUT;oX;o;oP;oRX;p;nYT;oX;o;oP;mVIT;oX;o;oP;oET;pX;p;pP",
  "nAT;oX;o;oP;nOT;oX;o;oP;nEX;oP;nUT;oX;o;oP;oRX;p;nYT;oX;o;oP;oRX;p;mDIT;oX;o;oP;oEX;p;pP;nAT",
  "oX;o;oP;nUOX;p;nOT;oX;o;oP;nEX;o;oP;nUT;oX;o;oP;oRX;p;mTIT;oX;o;oP;oEX;p;pP;nAT;oX;o;oP;nUOT",
  "pX;p;pP;nOT;oX;o;oP;nEX;o;oP;nUT;oX;o;oP;oRX;p;mDDIT;pX;p;pP;pEX;q;qP;oAT;pX;p;pP;oUOX;q;qP",
  "oOT;pX;p;pP;oEX;p;pP;oUT;pX;p;pP;pRX;q;mNDIT;pX;p;pP;pEX;q;oAT;pX;p;pP;oOT;pX;p;pP;oEX;p;pP",
  "oUT;pX;p;pP;pRX;q;mHNIT;pX;p;pP;pET;qX;q;qP;oAT;pX;p;pP;oUOX;q;oOT;pX;pP;oEX;p;pP;oUT;mNIT",
  "oX;o;oP;oEX;p;pP;nAX;o;oP;nUOX;p;pP;nOT;oX;o;oP;nEX;o;oP;nUT;oX;o;oP;oRX;p;mHLIT;pX;p;pP;pEX",
  "q;qP;oAT;pX;p;pP;oUOX;q;qP;oOX;p;pP;oEX;p;pP;oUT;pX;p;pP;pRX;q;oYT;pX;p;pP;pRX;q;mLIT;oX;o",
  "oP;oET;pX;p;pP;nAT;oX;o;oP;nUOT;pX;p;pP;nOT;oX;o;oP;nEX;o;oP;nUT;oX;o;oP;oRX;p;nYT;oX;o;oP",
  "oRX;p;mGIT;oX;o;oP;oET;pX;p;pP;nAT;oX;o;oP;nUOT;pX;p;pP;nOT;oX;o;oP;nET;oX;o;oP;nUT;oX;o;oP",
  "oRX;p;mKIT;oX;o;oP;oEX;p;pP;nAT;oX;o;oP;nUOX;p;pP;nOT;oX;o;oP;nET;oX;o;oP;nUT;oX;o;oP;oRX;p",
  "mGGIT;pX;p;pEX;q;qP;oAT;pX;p;pP;oUOT;qX;q;qP;oOT;pX;p;pP;oET;pX;p;pP;oUT;pX;p;pP;pRX;q",
  "mMGIEX;q;oAT;pX;p;pP;oUOX;q;qP;oOT;pX;p;pP;oEX;p;pP;oUT;pX;p;pP;pRX;q;mHXIT;pX;p;pP;pET;qX;q",
  "qP;oAT;pX;p;pP;oUOT;qX;q;qP;oOT;pX;p;pP;oEX;p;pP;mNGIEX;q;qP;oAT;pX;p;pP;oUOT;qX;q;oOT;pX;p",
  "pP;oEX;p;pP;mHIT;oEX;p;nAT;oX;o;oP;nUOT;pX;p;pP;nOT;oX;o;oP;nEX;o;oP;mWAT;oX;o;oP;nUOX;p;pP",
  "nOX;o;oP;nEX;o;oP;mZIT;oX;o;oP;oEX;p;pP;nAT;oX;o;oP;nUOX;p;pP;nOT;oX;o;oP;nEX;o;oP;nUT;oX;o",
  "oP;oRX;p;nYT;oX;o;oP;oRX;p;mCIT;oX;o;oP;oET;pX;p;pP;nAT;oX;o;oP;nUOX;p;pP;nOT;oX;o;oP;nEX;o",
  "oP;nUT;oX;o;oP;oRX;p;nYT;oX;o;oP;oRX;p;mZZIT;pX;p;pP;pET;qX;q;qP;oAT;pX;p;pP;oOX;p;pP;oEX;p",
  "pP;oUX;p;pP;pRX;q;oYT;pX;p;pP;pRX;q;mNZIT;pX;p;pP;pEX;q;qP;oAT;pX;p;pP;oUOX;q;oOX;pP;oEX;p",
  "oUX;p;pP;pRX;q;oYT;pX;p;pP;pRX;q;mSIT;oX;o;oP;oEX;p;pP;nAT;oX;o;oP;nUOX;p;pP;nOT;oX;o;oP;nEX",
  "o;oP;nUT;oX;o;oP;oRX;p;nYT;oX;o;oP;oRX;p;nSIT;pX;p;pP;pEX;q;qP;oAT;pX;p;pP;oOT;pX;p;pP;oEX;p",
  "pP;oUT;pX;p;pP;oYT;pX;p;pP;pRX;q;mZHAT;pX;p;pP;oUOX;q;qP;oOT;pX;p;pP;oET;pX;p;pP;oUT;pX;p;pP",
  "pRX;q;oYT;pX;p;pP;pRX;q;mCHAT;pX;p;pP;oUOT;qX;q;qP;oOT;pX;p;pP;oET;pX;p;pP;oUX;p;pP;pRX;q",
  "oYT;pX;p;pP;pRX;q;mRRAX;p;oUOX;q;oOT;pX;p;pP;oET;pX;p;pP;oUT;pX;p;pP;pRX;q;oYT;pX;p;pP;pRX;q",
  "mNRAT;pX;p;pP;oOX;p;pP;oET;pX;p;pP;oUT;pX;p;pP;pRX;q;oYT;pX;p;pP;pRX;q;mSHAT;pX;p;pP;oUOX;q",
  "qP;oOT;pX;p;pP;oET;pX;p;pP;oUT;pX;p;pP;pRX;q;oYT;pX;p;pP;pRX;q;mRAT;oX;o;oP;nUOX;p;pP;nOT;oX",
  "o;oP;nEX;o;oP;nUT;oX;o;oP;oRX;p;nYT;oX;o;oP;oRX;p;mJIT;oX;o;oP;oET;pX;p;pP;nUOT;pX;p;pP;nOT",
  "oX;o;oP;nUT;oX;o;oP;oRX;p;nYT;oX;o;oP;oRX;p;mQIT;oX;o;oP;oET;pX;p;pP;nUOT;pX;p;pP;nOT;oX;o",
  "oP;nUT;oX;o;oP;oRX;p;nYT;oX;o;oP;oRX;p;mJJIT;pX;p;pP;pET;qX;q;qP;oUOX;q;qP;oOT;pX;p;pP;oUT",
  "pX;p;pP;pRX;q;oYT;pX;p;pP;mNJIT;pX;p;pP;pET;qX;q;qP;oUOX;q;oOT;pX;p;pP;oUX;p;pP;pRX;q;oYT;pX",
  "p;pP;pRX;q;nYIT;pX;p;pP;pET;qX;q;qP;oUOX;q;qP;oOT;pX;p;pP;oUT;pX;p;pP;mXIT;oX;o;oP;oET;pX;p",
  "pP;nUOX;p;nOT;oX;o;oP;nYT;oX;o;oP;oRX;p;mYIT;oX;o;oP;oET;pX;p;pP;nUOT;pX;p;pP;nOT;oX;o;oP",
  "nUT;oX;o;oP;oRX;p;nYT;oX;o;oP;oRX;p;+3;dRADICAL QOT;lLI;lKIT;lNYIP;lCYP;lSSI;lGGOP;mEP;lMI",
  "lHXIT;lLYR;lBBUT;lMOP;lYO;lPUT;lHXUO;lTAT;lGA;lZUP;lCYT;lDDUR;lBUR;lGGUO;lNYOP;lTU;lOP;lJJUT",
  "lZOT;lPYT;lHMO;lYIT;lVUR;lSHY;lVEP;lZA;lJO;lNZUP;lJJY;lGOT;lJJIE;lWO;lDU;lSHUR;lLIE;lCY;mUOP",
  "mIP;lHXOP;lSHAT;lZUR;lSHOP;lCHE;lZZIET;lNBIE;lKE;+9;aLISU LETTER BA;mPA;nHA;mDA;mTA;nHA;mGA",
  "mKA;nHA;mJA;mCA;nHA;mDZA;mTSA;oHA;mMA;mNA;mLA;mSA;mZHA;nA;mNGA;mHA;mXA;mHHA;mFA;mWA;mSHA;mYA",
  "mGHA;mA;nE;mE;nU;mI;mO;mU;nE;nH;mOE;mTONE MYA TI;rNA PO;rMYA CYA;vBO;vNA;vJEU",
  "fPUNCTUATION COMMA;rFULL STOP;aVAI SYLLABLE EE;pN;nHEE;nWEE;qN;nPEE;nBHEE;oEE;nMBEE;nKPEE",
  "nMGBEE;nGBEE;nFEE;nVEE;nTEE;oHEE;nDHEE;pHEE;nLEE;nREE;nDEE;nNDEE;nSEE;oHEE;nZEE;oHEE;nCEE",
  "nJEE;nNJEE;nYEE;nKEE;nNGGEE;nGEE;nMEE;nNEE;oYEE;nI;oN;nHI;pN;nWI;pN;nPI;nBHI;oI;nMBI;nKPI",
  "nMGBI;nGBI;nFI;nVI;nTI;oHI;nDHI;pHI;nLI;nRI;nDI;nNDI;nSI;oHI;nZI;oHI;nCI;nJI;nNJI;nYI;nKI",
  "nNGGI;nGI;nMI;nNI;oYI;nA;oN;nNGAN;nHA;pN;nWA;pN;nPA;nBHA;oA;nMBA;nKPA;qN;nMGBA;nGBA;nFA;nVA",
  "nTA;oHA;nDHA;pHA;nLA;nRA;nDA;nNDA;nSA;oHA;nZA;oHA;nCA;nJA;nNJA;nYA;nKA;pN;nNGGA;nGA;nMA;nNA",
  "oYA;nOO;pN;nHOO;nWOO;qN;nPOO;nBHOO;oOO;nMBOO;nKPOO;nMGBOO;nGBOO;nFOO;nVOO;nTOO;oHOO;nDHOO",
  "pHOO;nLOO;nROO;nDOO;nNDOO;nSOO;oHOO;nZOO;oHOO;nCOO;nJOO;nNJOO;nYOO;nKOO;nNGGOO;nGOO;nMOO",
  "nNOO;oYOO;nU;oN;nHU;pN;nWU;pN;nPU;nBHU;oU;nMBU;nKPU;nMGBU;nGBU;nFU;nVU;nTU;oHU;nDHU;pHU;nLU",
  "nRU;nDU;nNDU;nSU;oHU;nZU;oHU;nCU;nJU;nNJU;nYU;nKU;nNGGU;nGU;nMU;nNU;oYU;nO;oN;nNGON;nHO;pN",
  "nWO;pN;nPO;nBHO;oO;nMBO;nKPO;nMGBO;nGBO;qN;nFO;nVO;nTO;oHO;nDHO;pHO;nLO;nRO;nDO;nNDO;nSO;oHO",
  "nZO;oHO;nCO;nJO;nNJO;nYO;nKO;nNGGO;nGO;nMO;nNO;oYO;nE;oN;nNGEN;nHE;pN;nWE;pN;nPE;nBHE;oE",
  "nMBE;nKPE;qN;nMGBE;nGBE;qN;nFE;nVE;nTE;oHE;nDHE;pHE;nLE;nRE;nDE;nNDE;nSE;oHE;nZE;oHE;nCE;nJE",
  "nNJE;nYE;nKE;nNGGE;rN;nGE;pN;nME;nNE;oYE;oG;nLENGTHENER;eCOMMA;eFULL STOP;eQUESTION MARK",
  "eSYLLABLE NDOLE FA;tKA;tSOO;gMBOL FEENG;lKEENG;lTING;lNII;lBANG;lFAA;lTAA;lDANG;mOONG;lKUNG",
  "lTONG;lDO-O;lJONG;eDIGIT ZERO;kONE;kTWO;lHREE;kFOUR;lIVE;kSIX;lEVEN;kEIGHT;kNINE",
  "eSYLLABLE NDOLE MA;tDO;+14;aCYRILLIC CAPITAL LETTER ZEMLYA;jSMALL LETTER ZEMLYA",
  "jCAPITAL LETTER DZELO;jSMALL LETTER DZELO;jCAPITAL LETTER REVERSED DZE",
  "jSMALL LETTER REVERSED DZE;jCAPITAL LETTER IOTA;jSMALL LETTER IOTA;jCAPITAL LETTER DJERV",
  "jSMALL LETTER DJERV;jCAPITAL LETTER MONOGRAPH UK;jSMALL LETTER MONOGRAPH UK",
  "jCAPITAL LETTER BROAD OMEGA;jSMALL LETTER BROAD OMEGA;jCAPITAL LETTER NEUTRAL YER",
  "jSMALL LETTER NEUTRAL YER;jCAPITAL LETTER YERU WITH BACK YER",
  "jSMALL LETTER YERU WITH BACK YER;jCAPITAL LETTER IOTIFIED YAT;jSMALL LETTER IOTIFIED YAT",
  "jCAPITAL LETTER REVERSED YU;jSMALL LETTER REVERSED YU;jCAPITAL LETTER IOTIFIED A",
  "jSMALL LETTER IOTIFIED A;jCAPITAL LETTER CLOSED LITTLE YUS;jSMALL LETTER CLOSED LITTLE YUS",
  "jCAPITAL LETTER BLENDED YUS;jSMALL LETTER BLENDED YUS",
  "jCAPITAL LETTER IOTIFIED CLOSED LITTLE YUS;jSMALL LETTER IOTIFIED CLOSED LITTLE YUS",
  "jCAPITAL LETTER YN;jSMALL LETTER YN;jCAPITAL LETTER REVERSED TSE;jSMALL LETTER REVERSED TSE",
  "jCAPITAL LETTER SOFT DE;jSMALL LETTER SOFT DE;jCAPITAL LETTER SOFT EL;jSMALL LETTER SOFT EL",
  "jCAPITAL LETTER SOFT EM;jSMALL LETTER SOFT EM;jCAPITAL LETTER MONOCULAR O",
  "jSMALL LETTER MONOCULAR O;jCAPITAL LETTER BINOCULAR O;jSMALL LETTER BINOCULAR O",
  "jCAPITAL LETTER DOUBLE MONOCULAR O;jSMALL LETTER DOUBLE MONOCULAR O;jLETTER MULTIOCULAR O",
  "bOMBINING CYRILLIC VZMET;tTEN MILLIONS SIGN;tHUNDRED MILLIONS SIGN;tTHOUSAND MILLIONS SIGN",
  "aSLAVONIC ASTERISK;aCOMBINING CYRILLIC LETTER UKRAINIAN IE;AI;AYI;AU;AHARD SIGN;AYERU",
  "ASOFT SIGN;AOMEGA;tKAVYKA;tPAYEROK;bYRILLIC KAVYKA;jPAYEROK;jCAPITAL LETTER DWE",
  "jSMALL LETTER DWE;jCAPITAL LETTER DZWE;jSMALL LETTER DZWE;jCAPITAL LETTER ZHWE",
  "jSMALL LETTER ZHWE;jCAPITAL LETTER CCHE;jSMALL LETTER CCHE;jCAPITAL LETTER DZZE",
  "jSMALL LETTER DZZE;jCAPITAL LETTER TE WITH MIDDLE HOOK;jSMALL LETTER TE WITH MIDDLE HOOK",
  "jCAPITAL LETTER TWE;jSMALL LETTER TWE;jCAPITAL LETTER TSWE;jSMALL LETTER TSWE",
  "jCAPITAL LETTER TSSE;jSMALL LETTER TSSE;jCAPITAL LETTER TCHE;jSMALL LETTER TCHE",
  "jCAPITAL LETTER HWE;jSMALL LETTER HWE;jCAPITAL LETTER SHWE;jSMALL LETTER SHWE",
  "jCAPITAL LETTER DOUBLE O;jSMALL LETTER DOUBLE O;jCAPITAL LETTER CROSSED O",
  "jSMALL LETTER CROSSED O;aMODIFIER LETTER CYRILLIC HARD SIGN;zSOFT SIGN",
  "aCOMBINING CYRILLIC LETTER EF;AIOTIFIED E;aBAMUM LETTER A;nKA;nU;nKU;nEE;nREE;nTAE;nO;nNYI",
  "nI;nLA;nPA;nRII;pEE;nLEEEE;nMEEEE;nTAA;nNDAA;oJAEM;nM;nSUU;nMU;nSHII;oI;oHEUX;oEUX;nKYEE;oET",
  "nNUAE;p;oJUAE;nYOQ;nSHU;nYUQ;oA;nNSHA;nKEUX;nPEUX;nNJEE;oTEE;nPUE;nWUE;nPEE;nFEE;nRU;nLU;nMI",
  "nNI;nREUX;oAE;nKEN;nNGKWAEN;pGA;pA;nSHO;nPUAE;nFU;oOM;nWA;nNA;nLI;nPI;nLOQ;nKO;nMBEN;nREN",
  "nMEN;oA;nTI;nKI;nMO;oBAA;nTET;nKPA;nTEN;nNTUU;nSAMBA;nFAAMAE;nKOVUU;pGHOM",
  "gCOMBINING MARK KOQNDON;vTUKWENTIS;gNJAEMLI;gFULL STOP;gCOLON;iMMA;gSEMICOLON;gQUESTION MARK",
  "+8;aMODIFIER LETTER CHINESE TONE YIN PING;EANG PING;EIN SHANG;EANG SHANG;EIN QU;EANG QU",
  "EIN RU;EANG RU;qEXTRA-HIGH DOTTED TONE BAR;qHIGH DOTTED TONE BAR;qMID DOTTED TONE BAR",
  "qLOW DOTTED TONE BAR;qEXTRA-LOW DOTTED TONE BAR;wHIGH DOTTED LEFT-STEM TONE BAR",
  "qHIGH DOTTED LEFT-STEM TONE BAR;qMID DOTTED LEFT-STEM TONE BAR",
  "qLOW DOTTED LEFT-STEM TONE BAR;qEXTRA-LOW DOTTED LEFT-STEM TONE BAR;wHIGH LEFT-STEM TONE BAR",
  "qHIGH LEFT-STEM TONE BAR;qMID LEFT-STEM TONE BAR;qLOW LEFT-STEM TONE BAR",
  "qEXTRA-LOW LEFT-STEM TONE BAR;qDOT VERTICAL BAR;uSLASH;uHORIZONTAL BAR",
  "qLOWER RIGHT CORNER ANGLE;qRAISED UP ARROW;xDOWN ARROW;xEXCLAMATION MARK",
  "xINVERTED EXCLAMATION MARK;qLOW INVERTED EXCLAMATION MARK;qSTRESS AND HIGH TONE;BLOW TONE",
  "aLATIN CAPITAL LETTER EGYPTOLOGICAL ALEF;gSMALL LETTER EGYPTOLOGICAL ALEF",
  "gCAPITAL LETTER EGYPTOLOGICAL AIN;gSMALL LETTER EGYPTOLOGICAL AIN;gCAPITAL LETTER HENG",
  "gSMALL LETTER HENG;gCAPITAL LETTER TZ;gSMALL LETTER TZ;gCAPITAL LETTER TRESILLO",
  "gSMALL LETTER TRESILLO;gCAPITAL LETTER CUATRILLO;gSMALL LETTER CUATRILLO",
  "gCAPITAL LETTER CUATRILLO WITH COMMA;gSMALL LETTER CUATRILLO WITH COMMA",
  "gLETTER SMALL CAPITAL F;BS;gCAPITAL LETTER AA;gSMALL LETTER AA;gCAPITAL LETTER AO",
  "gSMALL LETTER AO;gCAPITAL LETTER AU;gSMALL LETTER AU;gCAPITAL LETTER AV;gSMALL LETTER AV",
  "gCAPITAL LETTER AV WITH HORIZONTAL BAR;gSMALL LETTER AV WITH HORIZONTAL BAR",
  "gCAPITAL LETTER AY;gSMALL LETTER AY;gCAPITAL LETTER REVERSED C WITH DOT",
  "gSMALL LETTER REVERSED C WITH DOT;gCAPITAL LETTER K WITH STROKE;gSMALL LETTER K WITH STROKE",
  "gCAPITAL LETTER K WITH DIAGONAL STROKE;gSMALL LETTER K WITH DIAGONAL STROKE",
  "gCAPITAL LETTER K WITH STROKE AND DIAGONAL STROKE",
  "gSMALL LETTER K WITH STROKE AND DIAGONAL STROKE;gCAPITAL LETTER BROKEN L",
  "gSMALL LETTER BROKEN L;gCAPITAL LETTER L WITH HIGH STROKE;gSMALL LETTER L WITH HIGH STROKE",
  "gCAPITAL LETTER O WITH LONG STROKE OVERLAY;gSMALL LETTER O WITH LONG STROKE OVERLAY",
  "gCAPITAL LETTER O WITH LOOP;gSMALL LETTER O WITH LOOP;gCAPITAL LETTER OO;gSMALL LETTER OO",
  "gCAPITAL LETTER P WITH STROKE THROUGH DESCENDER",
  "gSMALL LETTER P WITH STROKE THROUGH DESCENDER;gCAPITAL LETTER P WITH FLOURISH",
  "gSMALL LETTER P WITH FLOURISH;gCAPITAL LETTER P WITH SQUIRREL TAIL",
  "gSMALL LETTER P WITH SQUIRREL TAIL;gCAPITAL LETTER Q WITH STROKE THROUGH DESCENDER",
  "gSMALL LETTER Q WITH STROKE THROUGH DESCENDER;gCAPITAL LETTER Q WITH DIAGONAL STROKE",
  "gSMALL LETTER Q WITH DIAGONAL STROKE;gCAPITAL LETTER R ROTUNDA;gSMALL LETTER R ROTUNDA",
  "gCAPITAL LETTER RUM ROTUNDA;gSMALL LETTER RUM ROTUNDA;gCAPITAL LETTER V WITH DIAGONAL STROKE",
  "gSMALL LETTER V WITH DIAGONAL STROKE;gCAPITAL LETTER VY;gSMALL LETTER VY",
  "gCAPITAL LETTER VISIGOTHIC Z;gSMALL LETTER VISIGOTHIC Z;gCAPITAL LETTER THORN WITH STROKE",
  "gSMALL LETTER THORN WITH STROKE;gCAPITAL LETTER THORN WITH STROKE THROUGH DESCENDER",
  "gSMALL LETTER THORN WITH STROKE THROUGH DESCENDER;gCAPITAL LETTER VEND;gSMALL LETTER VEND",
  "gCAPITAL LETTER ET;gSMALL LETTER ET;gCAPITAL LETTER IS;gSMALL LETTER IS;gCAPITAL LETTER CON",
  "gSMALL LETTER CON;aMODIFIER LETTER US;aLATIN SMALL LETTER DUM;tLUM;tMUM;tNUM;tRUM",
  "gLETTER SMALL CAPITAL RUM;gSMALL LETTER TUM;tUM;gCAPITAL LETTER INSULAR D",
  "gSMALL LETTER INSULAR D;gCAPITAL LETTER INSULAR F;gSMALL LETTER INSULAR F",
  "gCAPITAL LETTER INSULAR G;vTURNED INSULAR G;gSMALL LETTER TURNED INSULAR G",
  "gCAPITAL LETTER TURNED L;gSMALL LETTER TURNED L;gCAPITAL LETTER INSULAR R",
  "gSMALL LETTER INSULAR R;gCAPITAL LETTER INSULAR S;gSMALL LETTER INSULAR S",
  "gCAPITAL LETTER INSULAR T;gSMALL LETTER INSULAR T;aMODIFIER LETTER LOW CIRCUMFLEX ACCENT",
  "qCOLON;qSHORT EQUALS SIGN;aLATIN CAPITAL LETTER SALTILLO;gSMALL LETTER SALTILLO",
  "gCAPITAL LETTER TURNED H;gSMALL LETTER L WITH RETROFLEX HOOK AND BELT",
  "gLETTER SINOLOGICAL DOT;gCAPITAL LETTER N WITH DESCENDER;gSMALL LETTER N WITH DESCENDER",
  "gCAPITAL LETTER C WITH BAR;gSMALL LETTER C WITH BAR;APALATAL HOOK;tH WITH PALATAL HOOK",
  "gCAPITAL LETTER B WITH FLOURISH;gSMALL LETTER B WITH FLOURISH;gCAPITAL LETTER F WITH STROKE",
  "gSMALL LETTER F WITH STROKE;gCAPITAL LETTER VOLAPUK AE;gSMALL LETTER VOLAPUK AE",
  "gCAPITAL LETTER VOLAPUK OE;gSMALL LETTER VOLAPUK OE;gCAPITAL LETTER VOLAPUK UE",
  "gSMALL LETTER VOLAPUK UE;gCAPITAL LETTER G WITH OBLIQUE STROKE",
  "gSMALL LETTER G WITH OBLIQUE STROKE;gCAPITAL LETTER K WITH OBLIQUE STROKE",
  "gSMALL LETTER K WITH OBLIQUE STROKE;gCAPITAL LETTER N WITH OBLIQUE STROKE",
  "gSMALL LETTER N WITH OBLIQUE STROKE;gCAPITAL LETTER R WITH OBLIQUE STROKE",
  "gSMALL LETTER R WITH OBLIQUE STROKE;gCAPITAL LETTER S WITH OBLIQUE STROKE",
  "gSMALL LETTER S WITH OBLIQUE STROKE;gCAPITAL LETTER H WITH HOOK;vREVERSED OPEN E;vSCRIPT G",
  "vL WITH BELT;vSMALL CAPITAL I;gLETTER SMALL CAPITAL Q;gCAPITAL LETTER TURNED K;CT",
  "vJ WITH CROSSED-TAIL;vCHI;vBETA;gSMALL LETTER BETA;gCAPITAL LETTER OMEGA;gSMALL LETTER OMEGA",
  "gCAPITAL LETTER U WITH STROKE;gSMALL LETTER U WITH STROKE;gCAPITAL LETTER GLOTTAL A",
  "gSMALL LETTER GLOTTAL A;gCAPITAL LETTER GLOTTAL I;gSMALL LETTER GLOTTAL I",
  "gCAPITAL LETTER GLOTTAL U;gSMALL LETTER GLOTTAL U;gCAPITAL LETTER OLD POLISH O",
  "gSMALL LETTER OLD POLISH O;gCAPITAL LETTER ANGLICANA W;gSMALL LETTER ANGLICANA W",
  "gCAPITAL LETTER C WITH PALATAL HOOK;vS WITH HOOK;vZ WITH PALATAL HOOK",
  "vD WITH SHORT STROKE OVERLAY;gSMALL LETTER D WITH SHORT STROKE OVERLAY",
  "gCAPITAL LETTER S WITH SHORT STROKE OVERLAY;gSMALL LETTER S WITH SHORT STROKE OVERLAY;+5",
  "gCAPITAL LETTER CLOSED INSULAR G;gSMALL LETTER CLOSED INSULAR G;+1;tDOUBLE THORN;+1;AWYNN",
  "gCAPITAL LETTER MIDDLE SCOTS S;gSMALL LETTER MIDDLE SCOTS S;gCAPITAL LETTER SIGMOID S",
  "gSMALL LETTER SIGMOID S;+18;aMODIFIER LETTER CAPITAL C;yF;yQ",
  "aLATIN CAPITAL LETTER REVERSED HALF H;gSMALL LETTER REVERSED HALF H",
  "gEPIGRAPHIC LETTER SIDEWAYS I;aMODIFIER LETTER CAPITAL H WITH STROKE;qSMALL LIGATURE OE",
  "aLATIN LETTER SMALL CAPITAL TURNED M;gEPIGRAPHIC LETTER REVERSED F;HP;yINVERTED M;z LONGA",
  "yARCHAIC M;aSYLOTI NAGRI LETTER A;uI;nSIGN DVISVARA;nLETTER U;uE;uO;nSIGN HASANTA;nLETTER KO",
  "vHO;uGO;vHO;nSIGN ANUSVARA;nLETTER CO;vHO;uJO;vHO;uTTO;wHO;uDDO;wHO;uTO;vHO;uDO;vHO;uNO;uPO",
  "vHO;uBO;vHO;uMO;uRO;uLO;uRRO;uSO;uHO;nVOWEL SIGN A;yI;yU;yE;yOO;nPOETRY MARK-1;z2;z3;z4",
  "nSIGN ALTERNATE HASANTA;+3;aNORTH INDIC FRACTION ONE QUARTER;zHALF;vTHREE QUARTERS",
  "vONE SIXTEENTH;zEIGHTH;vTHREE SIXTEENTHS;mQUARTER MARK;mPLACEHOLDER MARK;mRUPEE MARK",
  "mQUANTITY MARK;+6;aPHAGS-PA LETTER KA;rHA;qGA;qNGA;qCA;rHA;qJA;qNYA;qTA;rHA;qDA;qNA;qPA;rHA",
  "qBA;qMA;qTSA;sHA;qDZA;qWA;qZHA;rA;qSMALL A;qYA;qRA;qLA;qSHA;rA;qHA;qA;qI;qU;qE;qO;qQA;qXA",
  "qFA;qGGA;qEE;jSUBJOINED LETTER WA;AYA;jLETTER TTA;sHA;qDDA;qNNA;qALTERNATE YA;qVOICELESS SHA",
  "vD HA;qASPIRATED FA;jSUBJOINED LETTER RA;lPERFIXED LETTER RA;jLETTER CANDRABINDU",
  "jSINGLE HEAD MARK;jDOUBLE HEAD MARK;jMARK SHAD;oDOUBLE SHAD;+8;aSAURASHTRA SIGN ANUSVARA",
  "qVISARGA;lLETTER A;tA;sI;tI;sU;tU;sVOCALIC R;BR;AL;BL;sE;tE;sAI;sO;tO;sAU;sKA;tHA;sGA;tHA",
  "sNGA;sCA;tHA;sJA;tHA;sNYA;sTTA;uHA;sDDA;uHA;sNNA;sTA;tHA;sDA;tHA;sNA;sPA;tHA;sBA;tHA;sMA;sYA",
  "sRA;sLA;sVA;sSHA;tSA;tA;sHA;sLLA;lCONSONANT SIGN HAARU;lVOWEL SIGN AA;wI;xI;wU;xU;wVOCALIC R",
  "FR;EL;FL;wE;xE;wAI;wO;xO;wAU;lSIGN VIRAMA;qCANDRABINDU;+8;lDANDA;mOUBLE DANDA;mIGIT ZERO",
  "rONE;rTWO;sHREE;rFOUR;sIVE;rSIX;sEVEN;rEIGHT;rNINE;+6;aCOMBINING DEVANAGARI DIGIT ZERO;BONE",
  "BTWO;CHREE;BFOUR;CIVE;BSIX;CEVEN;BEIGHT;BNINE;vLETTER A;CU;CKA;CNA;CPA;CRA;CVI",
  "vSIGN AVAGRAHA;aDEVANAGARI SIGN SPACING CANDRABINDU;qCANDRABINDU VIRAMA",
  "qDOUBLE CANDRABINDU VIRAMA;qCANDRABINDU TWO;DHREE;CAVAGRAHA;qPUSHPIKA;lGAP FILLER;lCARET",
  "lHEADSTROKE;lSIGN SIDDHAM;lJAIN OM;lLETTER AY;lVOWEL SIGN AY;aKAYAH LI DIGIT ZERO;pONE;pTWO",
  "qHREE;pFOUR;qIVE;pSIX;qEVEN;pEIGHT;pNINE;jLETTER KA;rHA;qGA;qNGA;qSA;rHA;qZA;qNYA;qTA;qHTA",
  "qNA;qPA;rHA;qMA;qDA;qBA;qRA;qYA;qLA;qWA;qTHA;qHA;qVA;qCA;qA;qOE;qI;qOO;jVOWEL UE;pE;pU;pEE",
  "pO;jTONE PLOPHU;oCALYA;t PLOPHU;jSIGN CWI;oSHYA;aREJANG LETTER KA;oGA;oNGA;oTA;oDA;oNA;oPA",
  "oBA;oMA;oCA;oJA;oNYA;oSA;oRA;oLA;oYA;oWA;oHA;oMBA;oNGGA;pDA;pYJA;oA;hVOWEL SIGN I;sU;sE;sAI",
  "sO;sAU;sEU;tA;hCONSONANT SIGN NG;x;wR;wH;hVIRAMA;+b;hSECTION MARK",
  "aHANGUL CHOSEONG TIKEUT-MIEUM;xPIEUP;xSIOS;xCIEUC;qRIEUL-KIYEOK;wSSANGKIYEOK;wTIKEUT",
  "wSSANGTIKEUT;wMIEUM;wPIEUP;wSSANGPIEUP;wKAPYEOUNPIEUP;wSIOS;wCIEUC;wKHIEUKH;qMIEUM-KIYEOK",
  "wTIKEUT;wSIOS;qPIEUP-SIOS-THIEUTH;wKHIEUKH;wHIEUH;qSSANGSIOS-PIEUP;qIEUNG-RIEUL;wHIEUH",
  "qSSANGCIEUC-HIEUH;vTHIEUTH;qPHIEUPH-HIEUH;qHIEUH-SIOS;qSSANGYEORINHIEUH;+3",
  "aJAVANESE SIGN PANYANGGA;oCECAK;oLAYAR;oWIGNYAN;jLETTER A;qI KAWI;r;rI;qU;qPA CEREK",
  "qNGA LELET;z RASWADI;qE;qAI;qO;qKA;s SASAK;tMURDA;qGA;s MURDA;qNGA;qCA;s MURDA;qJA",
  "qNYA MURDA;qJA MAHAPRANA;qNYA;qTTA;t MAHAPRANA;qDDA;t MAHAPRANA;qNA MURDA;qTA;s MURDA;qDA",
  "s MAHAPRANA;qNA;qPA;s MURDA;qBA;s MURDA;qMA;qYA;qRA;s AGUNG;qLA;qWA;qSA MURDA;uAHAPRANA;s",
  "qHA;jSIGN CECAK TELU;jVOWEL SIGN TARUNG;vOLONG;uWULU;y MELIK;uSUKU;y MENDUT;uTALING",
  "uDIRGA MURE;uPEPET;jCONSONANT SIGN KERET;yPENGKAL;yCAKRA;jPANGKON;jLEFT RERENGGAN",
  "jRIGHT RERENGGAN;jPADA ANDAP;oMADYA;oLUHUR;oWINDU;oPANGKAT;oLINGSA;pUNGSI;oADEG;s ADEG",
  "oPISELEH;jTURNED PADA PISELEH;+1;jPANGRANGKEP;jDIGIT ZERO;pONE;pTWO;qHREE;pFOUR;qIVE;pSIX",
  "qEVEN;pEIGHT;pNINE;+4;jPADA TIRTA TUMETES;oISEN-ISEN;aMYANMAR LETTER SHAN GHA;uCHA;uJHA;uNNA",
  "uBHA;iSIGN SHAN SAW;iMODIFIER LETTER SHAN REDUPLICATION;iLETTER TAI LAING NYA;zFA;zGA;AHA",
  "zJA;AHA;zDDA;BHA;zNNA;iTAI LAING DIGIT ZERO;yONE;yTWO;zHREE;yFOUR;zIVE;ySIX;zEVEN;yEIGHT",
  "yNINE;iLETTER TAI LAING LLA;zDA;AHA;zBA;AHA;+1;aCHAM LETTER A;mI;mU;mE;mAI;mO;mKA;nHA;mGA",
  "nHA;mNGUE;oA;mCHA;oHA;mJA;nHA;mNHUE;oA;oJA;mTA;nHA;mDA;nHA;mNUE;nA;mDDA;mPA;nPA;nHA;mBA;nHA",
  "mMUE;nA;mBBA;mYA;mRA;mLA;mVA;mSSA;nA;mHA;fVOWEL SIGN AA;qI;rI;qEI;qU;qOE;r;qAI;rU;qUE",
  "fCONSONANT SIGN YA;uRA;uLA;uWA;+9;fLETTER FINAL K;sG;sNG;fCONSONANT SIGN FINAL NG",
  "fLETTER FINAL CH;sT;sN;sP;sY;sR;sL;sSS;fCONSONANT SIGN FINAL M;AH;+2;fDIGIT ZERO;lONE;lTWO",
  "mHREE;lFOUR;mIVE;lSIX;mEVEN;lEIGHT;lNINE;+2;fPUNCTUATION SPIRAL;rDANDA;sOUBLE DANDA",
  "rTRIPLE DANDA;aMYANMAR LETTER KHAMTI GA;wCA;xHA;wJA;xHA;wNYA;wTTA;yHA;wDDA;yHA;xHA;wNA;wSA",
  "wHA;xHA;wFA;iMODIFIER LETTER KHAMTI REDUPLICATION;iLETTER KHAMTI XA;wZA;wRA",
  "jOGOGRAM KHAMTI OAY;yQN;yHM;iSYMBOL AITON EXCLAMATION;vONE;vTWO;iLETTER AITON RA",
  "iSIGN PAO KAREN TONE;nTAI LAING TONE-2;C5;iLETTER SHWE PALAUNG CHA;CSHA",
  "aTAI VIET LETTER LOW KO;qHIGH KO;qLOW KHO;qHIGH KHO;qLOW KHHO;qHIGH KHHO;qLOW GO;qHIGH GO",
  "qLOW NGO;qHIGH NGO;qLOW CO;qHIGH CO;qLOW CHO;qHIGH CHO;qLOW SO;qHIGH SO;qLOW NYO;qHIGH NYO",
  "qLOW DO;qHIGH DO;qLOW TO;qHIGH TO;qLOW THO;qHIGH THO;qLOW NO;qHIGH NO;qLOW BO;qHIGH BO",
  "qLOW PO;qHIGH PO;qLOW PHO;qHIGH PHO;qLOW FO;qHIGH FO;qLOW MO;qHIGH MO;qLOW YO;qHIGH YO",
  "qLOW RO;qHIGH RO;qLOW LO;qHIGH LO;qLOW VO;qHIGH VO;qLOW HO;qHIGH HO;qLOW O;qHIGH O;jMAI KANG",
  "jVOWEL AA;pI;pUE;q;pE;pO;jMAI KHIT;jVOWEL IA;pUEA;qA;pAUE;qY;qN;qM;jTONE MAI EK;sNUENG;sTHO",
  "sSONG;+18;jSYMBOL KON;qNUENG;qSAM;qHO HOI;qKOI KOI;aMEETEI MAYEK LETTER E;uO;uCHA;uNYA;uTTA",
  "wHA;uDDA;wHA;uNNA;uSHA;vSA;nVOWEL SIGN II;yUU;yAAI;zU;zAU;nCHEIKHAN;nAHANG KHUDAM;oNJI",
  "nSYLLABLE REPETITION MARK;nWORD REPETITION MARK;nVOWEL SIGN VISARGA;oIRAMA;+a",
  "aETHIOPIC SYLLABLE TTHU;vI;vAA;vEE;w;vO;+2;sDDHU;vI;vAA;vEE;w;vO;+2;tZU;uI;uAA;uEE;v;uO;+9",
  "sCCHHA;wU;wI;wAA;wEE;x;wO;+1;sBBA;uU;uI;uAA;uEE;v;uO;+1;aLATIN SMALL LETTER BARRED ALPHA",
  "tA REVERSED-SCHWA;tBLACKLETTER E;uARRED E;tE WITH FLOURISH;tLENIS F",
  "tSCRIPT G WITH CROSSED-TAIL;tL WITH INVERTED LAZY S;ADOUBLE MIDDLE TILDE;AMIDDLE RING",
  "tM WITH CROSSED-TAIL;tN WITH CROSSED-TAIL;tENG WITH CROSSED-TAIL;tBLACKLETTER O",
  "G WITH STROKE;tOPEN O WITH STROKE;tINVERTED OE;tTURNED OE WITH STROKE;IHORIZONTAL STROKE",
  "B OPEN-O;I WITH STROKE;tSTIRRUP R;gLETTER SMALL CAPITAL R WITH RIGHT LEG",
  "gSMALL LETTER R WITHOUT HANDLE;tDOUBLE R;tR WITH CROSSED-TAIL;tDOUBLE R WITH CROSSED-TAIL",
  "tSCRIPT R;B WITH RING;tBASELINE ESH;tU WITH SHORT RIGHT LEG;vBAR WITH SHORT RIGHT LEG;uI",
  "tTURNED UI;tU WITH LEFT HOOK;tCHI;w WITH LOW RIGHT RING;GLEFT SERIF;tX WITH LOW RIGHT RING",
  "CNG LEFT LEG;N AND LOW RIGHT RING;OWITH SERIF;tY WITH SHORT RIGHT LEG",
  "aMODIFIER BREVE WITH INVERTED BREVE;jLETTER SMALL HENG;wL WITH INVERTED LAZY S;DMIDDLE TILDE",
  "wU WITH LEFT HOOK;aLATIN SMALL LETTER SAKHA YAT;tIOTIFIED E;tOPEN OE;tUO;tINVERTED ALPHA",
  "aGREEK LETTER SMALL CAPITAL OMEGA;aLATIN SMALL LETTER DZ DIGRAPH WITH RETROFLEX HOOK",
  "tTS DIGRAPH WITH RETROFLEX HOOK;uURNED R WITH MIDDLE TILDE;aMODIFIER LETTER SMALL TURNED W",
  "qLEFT TACK;qRIGHT TACK;+4;aCHEROKEE SMALL LETTER A;wE;wI;wO;wU;wV;wGA;wKA;wGE;xI;xO;xU;xV",
  "wHA;xE;xI;xO;xU;xV;wLA;xE;xI;xO;xU;xV;wMA;xE;xI;xO;xU;wNA;wHNA;wNAH;xE;xI;xO;xU;xV;wQUA;yE",
  "yI;yO;yU;yV;wSA;x;xE;xI;xO;xU;xV;wDA;wTA;wDE;wTE;wDI;wTI;wDO;xU;xV;xLA;wTLA;yE;yI;yO;yU;yV",
  "xSA;yE;yI;yO;yU;yV;wWA;xE;xI;xO;xU;xV;wYA;aMEETEI MAYEK LETTER KOK;uSAM;uLAI;uMIT;uPA;uNA",
  "uCHIL;uTIL;uKHOU;uNGOU;uTHOU;uWAI;uYANG;uHUK;uUN;uI;uPHAM;uATIYA;uGOK;uJHAM;uRAI;uBA;uJIL",
  "uDIL;uGHOU;uDHOU;uBHAM;uKOK LONSUM;uLAI LONSUM;uMIT LONSUM;uPA LONSUM;uNA LONSUM;uTIL LONSUM",
  "uNGOU LONSUM;uI LONSUM;nVOWEL SIGN ONAP;yINAP;yANAP;yYENAP;ySOUNAP;yUNAP;yCHEINAP;yNUNG",
  "nCHEIKHEI;nLUM IYEK;nAPUN IYEK;+2;nDIGIT ZERO;tONE;tTWO;uHREE;tFOUR;uIVE;tSIX;uEVEN;tEIGHT",
  "tNINE;+2bb6;aHANGUL JUNGSEONG O-YEO;tO-I;rYO-A;vE;uEO;rU-YEO;tI-I;rYU-AE;uO;rEU-A;uEO;v;uO",
  "rI-YA-O;vE;uEO;v;tO-I;tYO;uU;tI;rARAEA-A;xE;+4;iONGSEONG NIEUN-RIEUL;xCHIEUCH;rSSANGTIKEUT",
  "C-PIEUP;rTIKEUT-PIEUP;ySIOS;C-KIYEOK;yCIEUC;zHIEUCH;yTHIEUTH;rRIEUL-SSANGKIYEOK",
  "xKIYEOK-HIEUH;rSSANGRIEUL-KHIEUKH;rRIEUL-MIEUM-HIEUH;xPIEUP-TIKEUT;DPHIEUPH;xYESIEUNG",
  "zORINHIEUH-HIEUH;rKAPYEOUNRIEUL;rMIEUM-NIEUN;xSSANGNIEUN;rSSANGMIEUM;rMIEUM-PIEUP-SIOS",
  "xCIEUC;rPIEUP-TIKEUT;xRIEUL-PHIEUPH;xMIEUM;rSSANGPIEUP;rPIEUP-SIOS-TIKEUT;xCIEUC;yHIEUCH",
  "rSIOS-MIEUM;wKAPYEOUNPIEUP;sSANGSIOS-KIYEOK;BTIKEUT;sIOS-PANSIOS;wCIEUC;xHIEUCH;wTHIEUTH",
  "wHIEUH;rPANSIOS-PIEUP;zKAPYEOUNPIEUP;rYESIEUNG-MIEUM;AHIEUH;rCIEUC-PIEUP;xSSANGPIEUP",
  "rSSANGCIEUC;rPHIEUPH-SIOS;zTHIEUTH;+2304;aLATIN SMALL LIGATURE FF;wI;wL;wFI;xL;vLONG S T;vST",
  "+c;aARMENIAN SMALL LIGATURE MEN NOW;CECH;CINI;yVEW NOW;yMEN XEH;+5",
  "aHEBREW LETTER YOD WITH HIRIQ;hPOINT JUDEO-SPANISH VARIKA;hLIGATURE YIDDISH YOD YOD PATAH",
  "iETTER ALTERNATIVE AYIN;oWIDE ALEF;tDALET;tHE;tKAF;tLAMED;tFINAL MEM;tRESH;tTAV",
  "oALTERNATIVE PLUS SIGN;oSHIN WITH SHIN DOT;zIN DOT;yDAGESH AND SHIN DOT;KIN DOT",
  "oALEF WITH PATAH;yQAMATS;yMAPIQ;oBET WITH DAGESH;oGIMEL WITH DAGESH;oDALET WITH DAGESH",
  "oHE WITH MAPIQ;oVAV WITH DAGESH;oZAYIN WITH DAGESH;+1;oTET WITH DAGESH;oYOD WITH DAGESH",
  "oFINAL KAF WITH DAGESH;oKAF WITH DAGESH;oLAMED WITH DAGESH;+1;oMEM WITH DAGESH;+1",
  "oNUN WITH DAGESH;oSAMEKH WITH DAGESH;+1;oFINAL PE WITH DAGESH;oPE WITH DAGESH;+1",
  "oTSADI WITH DAGESH;oQOF WITH DAGESH;oRESH WITH DAGESH;oSHIN WITH DAGESH;oTAV WITH DAGESH",
  "oVAV WITH HOLAM;oBET WITH RAFE;oKAF WITH RAFE;oPE WITH RAFE;iIGATURE ALEF LAMED",
  "aARABIC LETTER ALEF WASLA ISOLATED FORM;zFINAL FORM;oBEEH ISOLATED FORM;tFINAL FORM",
  "tINITIAL FORM;tMEDIAL FORM;oPEH ISOLATED FORM;sFINAL FORM;sINITIAL FORM;sMEDIAL FORM",
  "oBEHEH ISOLATED FORM;uFINAL FORM;uINITIAL FORM;uMEDIAL FORM;oTTEHEH ISOLATED FORM",
  "vFINAL FORM;vINITIAL FORM;vMEDIAL FORM;pEHEH ISOLATED FORM;uFINAL FORM;uINITIAL FORM",
  "uMEDIAL FORM;pTEH ISOLATED FORM;tFINAL FORM;tINITIAL FORM;tMEDIAL FORM;oVEH ISOLATED FORM",
  "sFINAL FORM;sINITIAL FORM;sMEDIAL FORM;oPEHEH ISOLATED FORM;uFINAL FORM;uINITIAL FORM",
  "uMEDIAL FORM;oDYEH ISOLATED FORM;tFINAL FORM;tINITIAL FORM;tMEDIAL FORM;oNYEH ISOLATED FORM",
  "tFINAL FORM;tINITIAL FORM;tMEDIAL FORM;oTCHEH ISOLATED FORM;uFINAL FORM;uINITIAL FORM",
  "uMEDIAL FORM;tEH ISOLATED FORM;wFINAL FORM;wINITIAL FORM;wMEDIAL FORM;oDDAHAL ISOLATED FORM",
  "vFINAL FORM;pAHAL ISOLATED FORM;uFINAL FORM;pUL ISOLATED FORM;sFINAL FORM;pDAL ISOLATED FORM",
  "tFINAL FORM;oJEH ISOLATED FORM;sFINAL FORM;oRREH ISOLATED FORM;tFINAL FORM",
  "oKEHEH ISOLATED FORM;uFINAL FORM;uINITIAL FORM;uMEDIAL FORM;oGAF ISOLATED FORM;sFINAL FORM",
  "sINITIAL FORM;sMEDIAL FORM;pUEH ISOLATED FORM;tFINAL FORM;tINITIAL FORM;tMEDIAL FORM",
  "oNGOEH ISOLATED FORM;uFINAL FORM;uINITIAL FORM;uMEDIAL FORM;pOON GHUNNA ISOLATED FORM",
  "AFINAL FORM;oRNOON ISOLATED FORM;uFINAL FORM;uINITIAL FORM;uMEDIAL FORM",
  "oHEH WITH YEH ABOVE ISOLATED FORM;HFINAL FORM;sGOAL ISOLATED FORM;xFINAL FORM;xINITIAL FORM",
  "xMEDIAL FORM;sDOACHASHMEE ISOLATED FORM;EFINAL FORM;EINITIAL FORM;EMEDIAL FORM",
  "oYEH BARREE ISOLATED FORM;zFINAL FORM;zWITH HAMZA ABOVE ISOLATED FORM;QFINAL FORM",
  "hSYMBOL DOT ABOVE;sBELOW;oTWO DOTS ABOVE;xBELOW;pHREE DOTS ABOVE;zBELOW",
  "zPOINTING DOWNWARDS ABOVE;SBELOW;oFOUR DOTS ABOVE;yBELOW;oDOUBLE VERTICAL BAR BELOW",
  "oTWO DOTS VERTICALLY ABOVE;IBELOW;oRING;oSMALL TAH ABOVE;yBELOW;oWASLA ABOVE;+10",
  "hLETTER NG ISOLATED FORM;rFINAL FORM;rINITIAL FORM;rMEDIAL FORM;oU ISOLATED FORM;qFINAL FORM",
  "oOE ISOLATED FORM;rFINAL FORM;oYU ISOLATED FORM;rFINAL FORM",
  "oU WITH HAMZA ABOVE ISOLATED FORM;oVE ISOLATED FORM;rFINAL FORM;oKIRGHIZ OE ISOLATED FORM",
  "zFINAL FORM;wYU ISOLATED FORM;zFINAL FORM;oE ISOLATED FORM;qFINAL FORM;qINITIAL FORM",
  "qMEDIAL FORM;oUIGHUR KAZAKH KIRGHIZ ALEF MAKSURA INITIAL FORM;XMEDIAL FORM",
  "iIGATURE YEH WITH HAMZA ABOVE WITH ALEF ISOLATED FORM;VFINAL FORM;RE ISOLATED FORM",
  "TFINAL FORM;QWAW ISOLATED FORM;UFINAL FORM;QU ISOLATED FORM;SFINAL FORM;QOE ISOLATED FORM",
  "TFINAL FORM;QYU ISOLATED FORM;TFINAL FORM;QE ISOLATED FORM;SFINAL FORM;SINITIAL FORM",
  "qUIGHUR KIRGHIZ YEH WITH HAMZA ABOVE WITH ALEF MAKSURA ISOLATED FORM",
  "Z WITH ALEF MAKSURA FINAL FORM;Z WITH ALEF MAKSURA INITIAL FORM",
  "iETTER FARSI YEH ISOLATED FORM;yFINAL FORM;yINITIAL FORM;yMEDIAL FORM",
  "iIGATURE YEH WITH HAMZA ABOVE WITH JEEM ISOLATED FORM;QHAH ISOLATED FORM;QMEEM ISOLATED FORM",
  "QALEF MAKSURA ISOLATED FORM;QYEH ISOLATED FORM;qBEH WITH JEEM ISOLATED FORM",
  "zHAH ISOLATED FORM;zKHAH ISOLATED FORM;zMEEM ISOLATED FORM;zALEF MAKSURA ISOLATED FORM",
  "zYEH ISOLATED FORM;qTEH WITH JEEM ISOLATED FORM;zHAH ISOLATED FORM;zKHAH ISOLATED FORM",
  "zMEEM ISOLATED FORM;zALEF MAKSURA ISOLATED FORM;zYEH ISOLATED FORM",
  "rHEH WITH JEEM ISOLATED FORM;AMEEM ISOLATED FORM;AALEF MAKSURA ISOLATED FORM",
  "AYEH ISOLATED FORM;qJEEM WITH HAH ISOLATED FORM;AMEEM ISOLATED FORM",
  "qHAH WITH JEEM ISOLATED FORM;zMEEM ISOLATED FORM;qKHAH WITH JEEM ISOLATED FORM",
  "AHAH ISOLATED FORM;AMEEM ISOLATED FORM;qSEEN WITH JEEM ISOLATED FORM;AHAH ISOLATED FORM",
  "AKHAH ISOLATED FORM;AMEEM ISOLATED FORM;rAD WITH HAH ISOLATED FORM;zMEEM ISOLATED FORM",
  "qDAD WITH JEEM ISOLATED FORM;zHAH ISOLATED FORM;zKHAH ISOLATED FORM;zMEEM ISOLATED FORM",
  "qTAH WITH HAH ISOLATED FORM;zMEEM ISOLATED FORM;qZAH WITH MEEM ISOLATED FORM",
  "qAIN WITH JEEM ISOLATED FORM;zMEEM ISOLATED FORM;qGHAIN WITH JEEM ISOLATED FORM",
  "BMEEM ISOLATED FORM;qFEH WITH JEEM ISOLATED FORM;zHAH ISOLATED FORM;zKHAH ISOLATED FORM",
  "zMEEM ISOLATED FORM;zALEF MAKSURA ISOLATED FORM;zYEH ISOLATED FORM",
  "qQAF WITH HAH ISOLATED FORM;zMEEM ISOLATED FORM;zALEF MAKSURA ISOLATED FORM",
  "zYEH ISOLATED FORM;qKAF WITH ALEF ISOLATED FORM;zJEEM ISOLATED FORM;zHAH ISOLATED FORM",
  "zKHAH ISOLATED FORM;zLAM ISOLATED FORM;zMEEM ISOLATED FORM;zALEF MAKSURA ISOLATED FORM",
  "zYEH ISOLATED FORM;qLAM WITH JEEM ISOLATED FORM;zHAH ISOLATED FORM;zKHAH ISOLATED FORM",
  "zMEEM ISOLATED FORM;zALEF MAKSURA ISOLATED FORM;zYEH ISOLATED FORM",
  "qMEEM WITH JEEM ISOLATED FORM;AHAH ISOLATED FORM;AKHAH ISOLATED FORM;AMEEM ISOLATED FORM",
  "AALEF MAKSURA ISOLATED FORM;AYEH ISOLATED FORM;qNOON WITH JEEM ISOLATED FORM",
  "AHAH ISOLATED FORM;AKHAH ISOLATED FORM;AMEEM ISOLATED FORM;AALEF MAKSURA ISOLATED FORM",
  "AYEH ISOLATED FORM;qHEH WITH JEEM ISOLATED FORM;zMEEM ISOLATED FORM",
  "zALEF MAKSURA ISOLATED FORM;zYEH ISOLATED FORM;qYEH WITH JEEM ISOLATED FORM",
  "zHAH ISOLATED FORM;zKHAH ISOLATED FORM;zMEEM ISOLATED FORM;zALEF MAKSURA ISOLATED FORM",
  "zYEH ISOLATED FORM;qTHAL WITH SUPERSCRIPT ALEF ISOLATED FORM",
  "qREH WITH SUPERSCRIPT ALEF ISOLATED FORM;qALEF MAKSURA WITH SUPERSCRIPT ALEF ISOLATED FORM",
  "qSHADDA WITH DAMMATAN ISOLATED FORM;CKASRATAN ISOLATED FORM;CFATHA ISOLATED FORM",
  "CDAMMA ISOLATED FORM;CKASRA ISOLATED FORM;CSUPERSCRIPT ALEF ISOLATED FORM",
  "qYEH WITH HAMZA ABOVE WITH REH FINAL FORM;QZAIN FINAL FORM;QMEEM FINAL FORM;QNOON FINAL FORM",
  "QALEF MAKSURA FINAL FORM;QYEH FINAL FORM;qBEH WITH REH FINAL FORM;zZAIN FINAL FORM",
  "zMEEM FINAL FORM;zNOON FINAL FORM;zALEF MAKSURA FINAL FORM;zYEH FINAL FORM",
  "qTEH WITH REH FINAL FORM;zZAIN FINAL FORM;zMEEM FINAL FORM;zNOON FINAL FORM",
  "zALEF MAKSURA FINAL FORM;zYEH FINAL FORM;rHEH WITH REH FINAL FORM;AZAIN FINAL FORM",
  "AMEEM FINAL FORM;ANOON FINAL FORM;AALEF MAKSURA FINAL FORM;AYEH FINAL FORM",
  "qFEH WITH ALEF MAKSURA FINAL FORM;zYEH FINAL FORM;qQAF WITH ALEF MAKSURA FINAL FORM",
  "zYEH FINAL FORM;qKAF WITH ALEF FINAL FORM;zLAM FINAL FORM;zMEEM FINAL FORM",
  "zALEF MAKSURA FINAL FORM;zYEH FINAL FORM;qLAM WITH MEEM FINAL FORM;zALEF MAKSURA FINAL FORM",
  "zYEH FINAL FORM;qMEEM WITH ALEF FINAL FORM;AMEEM FINAL FORM;qNOON WITH REH FINAL FORM",
  "AZAIN FINAL FORM;AMEEM FINAL FORM;ANOON FINAL FORM;AALEF MAKSURA FINAL FORM;AYEH FINAL FORM",
  "qALEF MAKSURA WITH SUPERSCRIPT ALEF FINAL FORM;qYEH WITH REH FINAL FORM;zZAIN FINAL FORM",
  "zMEEM FINAL FORM;zNOON FINAL FORM;zALEF MAKSURA FINAL FORM;zYEH FINAL FORM",
  "zHAMZA ABOVE WITH JEEM INITIAL FORM;QHAH INITIAL FORM;QKHAH INITIAL FORM;QMEEM INITIAL FORM",
  "QHEH INITIAL FORM;qBEH WITH JEEM INITIAL FORM;zHAH INITIAL FORM;zKHAH INITIAL FORM",
  "zMEEM INITIAL FORM;zHEH INITIAL FORM;qTEH WITH JEEM INITIAL FORM;zHAH INITIAL FORM",
  "zKHAH INITIAL FORM;zMEEM INITIAL FORM;zHEH INITIAL FORM;rHEH WITH MEEM INITIAL FORM",
  "qJEEM WITH HAH INITIAL FORM;AMEEM INITIAL FORM;qHAH WITH JEEM INITIAL FORM",
  "zMEEM INITIAL FORM;qKHAH WITH JEEM INITIAL FORM;AMEEM INITIAL FORM",
  "qSEEN WITH JEEM INITIAL FORM;AHAH INITIAL FORM;AKHAH INITIAL FORM;AMEEM INITIAL FORM",
  "rAD WITH HAH INITIAL FORM;zKHAH INITIAL FORM;zMEEM INITIAL FORM;qDAD WITH JEEM INITIAL FORM",
  "zHAH INITIAL FORM;zKHAH INITIAL FORM;zMEEM INITIAL FORM;qTAH WITH HAH INITIAL FORM",
  "qZAH WITH MEEM INITIAL FORM;qAIN WITH JEEM INITIAL FORM;zMEEM INITIAL FORM",
  "qGHAIN WITH JEEM INITIAL FORM;BMEEM INITIAL FORM;qFEH WITH JEEM INITIAL FORM",
  "zHAH INITIAL FORM;zKHAH INITIAL FORM;zMEEM INITIAL FORM;qQAF WITH HAH INITIAL FORM",
  "zMEEM INITIAL FORM;qKAF WITH JEEM INITIAL FORM;zHAH INITIAL FORM;zKHAH INITIAL FORM",
  "zLAM INITIAL FORM;zMEEM INITIAL FORM;qLAM WITH JEEM INITIAL FORM;zHAH INITIAL FORM",
  "zKHAH INITIAL FORM;zMEEM INITIAL FORM;zHEH INITIAL FORM;qMEEM WITH JEEM INITIAL FORM",
  "AHAH INITIAL FORM;AKHAH INITIAL FORM;AMEEM INITIAL FORM;qNOON WITH JEEM INITIAL FORM",
  "AHAH INITIAL FORM;AKHAH INITIAL FORM;AMEEM INITIAL FORM;AHEH INITIAL FORM",
  "qHEH WITH JEEM INITIAL FORM;zMEEM INITIAL FORM;zSUPERSCRIPT ALEF INITIAL FORM",
  "qYEH WITH JEEM INITIAL FORM;zHAH INITIAL FORM;zKHAH INITIAL FORM;zMEEM INITIAL FORM",
  "zHEH INITIAL FORM;AAMZA ABOVE WITH MEEM MEDIAL FORM;QHEH MEDIAL FORM",
  "qBEH WITH MEEM MEDIAL FORM;zHEH MEDIAL FORM;qTEH WITH MEEM MEDIAL FORM;zHEH MEDIAL FORM",
  "rHEH WITH MEEM MEDIAL FORM;AHEH MEDIAL FORM;qSEEN WITH MEEM MEDIAL FORM;AHEH MEDIAL FORM",
  "rHEEN WITH MEEM MEDIAL FORM;BHEH MEDIAL FORM;qKAF WITH LAM MEDIAL FORM;zMEEM MEDIAL FORM",
  "qLAM WITH MEEM MEDIAL FORM;qNOON WITH MEEM MEDIAL FORM;AHEH MEDIAL FORM",
  "qYEH WITH MEEM MEDIAL FORM;zHEH MEDIAL FORM;qSHADDA WITH FATHA MEDIAL FORM",
  "CDAMMA MEDIAL FORM;CKASRA MEDIAL FORM;qTAH WITH ALEF MAKSURA ISOLATED FORM",
  "zYEH ISOLATED FORM;qAIN WITH ALEF MAKSURA ISOLATED FORM;zYEH ISOLATED FORM",
  "qGHAIN WITH ALEF MAKSURA ISOLATED FORM;BYEH ISOLATED FORM"]

def characterNameEntriesE : List String := [
  "qSEEN WITH ALEF MAKSURA ISOLATED FORM;AYEH ISOLATED FORM",
  "rHEEN WITH ALEF MAKSURA ISOLATED FORM;BYEH ISOLATED FORM",
  "qHAH WITH ALEF MAKSURA ISOLATED FORM;zYEH ISOLATED FORM",
  "qJEEM WITH ALEF MAKSURA ISOLATED FORM;AYEH ISOLATED FORM",
  "qKHAH WITH ALEF MAKSURA ISOLATED FORM;AYEH ISOLATED FORM",
  "qSAD WITH ALEF MAKSURA ISOLATED FORM;zYEH ISOLATED FORM;qDAD WITH ALEF MAKSURA ISOLATED FORM",
  "zYEH ISOLATED FORM;qSHEEN WITH JEEM ISOLATED FORM;BHAH ISOLATED FORM;BKHAH ISOLATED FORM",
  "BMEEM ISOLATED FORM;BREH ISOLATED FORM;rEEN WITH REH ISOLATED FORM",
  "rAD WITH REH ISOLATED FORM;qDAD WITH REH ISOLATED FORM;qTAH WITH ALEF MAKSURA FINAL FORM",
  "zYEH FINAL FORM;qAIN WITH ALEF MAKSURA FINAL FORM;zYEH FINAL FORM",
  "qGHAIN WITH ALEF MAKSURA FINAL FORM;BYEH FINAL FORM;qSEEN WITH ALEF MAKSURA FINAL FORM",
  "AYEH FINAL FORM;rHEEN WITH ALEF MAKSURA FINAL FORM;BYEH FINAL FORM",
  "qHAH WITH ALEF MAKSURA FINAL FORM;zYEH FINAL FORM;qJEEM WITH ALEF MAKSURA FINAL FORM",
  "AYEH FINAL FORM;qKHAH WITH ALEF MAKSURA FINAL FORM;AYEH FINAL FORM",
  "qSAD WITH ALEF MAKSURA FINAL FORM;zYEH FINAL FORM;qDAD WITH ALEF MAKSURA FINAL FORM",
  "zYEH FINAL FORM;qSHEEN WITH JEEM FINAL FORM;BHAH FINAL FORM;BKHAH FINAL FORM",
  "BMEEM FINAL FORM;BREH FINAL FORM;rEEN WITH REH FINAL FORM;rAD WITH REH FINAL FORM",
  "qDAD WITH REH FINAL FORM;qSHEEN WITH JEEM INITIAL FORM;BHAH INITIAL FORM;BKHAH INITIAL FORM",
  "BMEEM INITIAL FORM;rEEN WITH HEH INITIAL FORM;rHEEN WITH HEH INITIAL FORM",
  "qTAH WITH MEEM INITIAL FORM;qSEEN WITH JEEM MEDIAL FORM;AHAH MEDIAL FORM;AKHAH MEDIAL FORM",
  "rHEEN WITH JEEM MEDIAL FORM;BHAH MEDIAL FORM;BKHAH MEDIAL FORM;qTAH WITH MEEM MEDIAL FORM",
  "qZAH WITH MEEM MEDIAL FORM;qALEF WITH FATHATAN FINAL FORM;JISOLATED FORM",
  "aORNATE LEFT PARENTHESIS;hRIGHT PARENTHESIS;aARABIC LIGATURE RAHIMAHU ALLAAH;sDI ALLAAHU ANH",
  "GAA;GUM;IAA;HNNA;qSALLALLAAHU ALAYHI WA-AALIH;qALAYHI AS-SALAAM;wM AS-SALAAM;xAA AS-SALAAM",
  "w AS-SALAATU WAS-SALAAM;qQUDDISA SIRRAH;qSALLALLAHU ALAYHI WAAALIHEE WA-SALLAM",
  "qALAYHAA AS-SALAAM;qTABAARAKA WA-TAAALAA;qRAHIMAHUM ALLAAH",
  "qTEH WITH JEEM WITH MEEM INITIAL FORM;zHAH WITH JEEM FINAL FORM;NINITIAL FORM",
  "IMEEM INITIAL FORM;zKHAH WITH MEEM INITIAL FORM;zMEEM WITH JEEM INITIAL FORM",
  "JHAH INITIAL FORM;JKHAH INITIAL FORM;qJEEM WITH MEEM WITH HAH FINAL FORM;OINITIAL FORM",
  "qHAH WITH MEEM WITH YEH FINAL FORM;JALEF MAKSURA FINAL FORM",
  "qSEEN WITH HAH WITH JEEM INITIAL FORM;AJEEM WITH HAH INITIAL FORM;KALEF MAKSURA FINAL FORM",
  "AMEEM WITH HAH FINAL FORM;OINITIAL FORM;KJEEM INITIAL FORM;KMEEM FINAL FORM;PINITIAL FORM",
  "rAD WITH HAH WITH HAH FINAL FORM;MINITIAL FORM;zMEEM WITH MEEM FINAL FORM",
  "rHEEN WITH HAH WITH MEEM FINAL FORM;PINITIAL FORM;BJEEM WITH YEH FINAL FORM",
  "BMEEM WITH KHAH FINAL FORM;QINITIAL FORM;LMEEM FINAL FORM;QINITIAL FORM",
  "qDAD WITH HAH WITH ALEF MAKSURA FINAL FORM;zKHAH WITH MEEM FINAL FORM;OINITIAL FORM",
  "qTAH WITH MEEM WITH HAH FINAL FORM;NINITIAL FORM;JMEEM INITIAL FORM;JYEH FINAL FORM",
  "qAIN WITH JEEM WITH MEEM FINAL FORM;zMEEM WITH MEEM FINAL FORM;OINITIAL FORM",
  "JALEF MAKSURA FINAL FORM;qGHAIN WITH MEEM WITH MEEM FINAL FORM;LYEH FINAL FORM",
  "LALEF MAKSURA FINAL FORM;qFEH WITH KHAH WITH MEEM FINAL FORM;OINITIAL FORM",
  "qQAF WITH MEEM WITH HAH FINAL FORM;JMEEM FINAL FORM;qLAM WITH HAH WITH MEEM FINAL FORM",
  "IYEH FINAL FORM;IALEF MAKSURA FINAL FORM;zJEEM WITH JEEM INITIAL FORM;OFINAL FORM",
  "zKHAH WITH MEEM FINAL FORM;OINITIAL FORM;zMEEM WITH HAH FINAL FORM;NINITIAL FORM",
  "qMEEM WITH HAH WITH JEEM INITIAL FORM;JMEEM INITIAL FORM;JYEH FINAL FORM",
  "AJEEM WITH HAH INITIAL FORM;KMEEM INITIAL FORM;AKHAH WITH JEEM INITIAL FORM",
  "KMEEM INITIAL FORM;+2;AJEEM WITH KHAH INITIAL FORM;qHEH WITH MEEM WITH JEEM INITIAL FORM",
  "JMEEM INITIAL FORM;qNOON WITH HAH WITH MEEM INITIAL FORM;JALEF MAKSURA FINAL FORM",
  "AJEEM WITH MEEM FINAL FORM;PINITIAL FORM;KALEF MAKSURA FINAL FORM;AMEEM WITH YEH FINAL FORM",
  "KALEF MAKSURA FINAL FORM;qYEH WITH MEEM WITH MEEM FINAL FORM;OINITIAL FORM",
  "qBEH WITH KHAH WITH YEH FINAL FORM;qTEH WITH JEEM WITH YEH FINAL FORM",
  "JALEF MAKSURA FINAL FORM;zKHAH WITH YEH FINAL FORM;JALEF MAKSURA FINAL FORM",
  "zMEEM WITH YEH FINAL FORM;JALEF MAKSURA FINAL FORM;qJEEM WITH MEEM WITH YEH FINAL FORM",
  "AHAH WITH ALEF MAKSURA FINAL FORM;AMEEM WITH ALEF MAKSURA FINAL FORM",
  "qSEEN WITH KHAH WITH ALEF MAKSURA FINAL FORM;rAD WITH HAH WITH YEH FINAL FORM",
  "rHEEN WITH HAH WITH YEH FINAL FORM;qDAD WITH HAH WITH YEH FINAL FORM",
  "qLAM WITH JEEM WITH YEH FINAL FORM;zMEEM WITH YEH FINAL FORM",
  "qYEH WITH HAH WITH YEH FINAL FORM;zJEEM WITH YEH FINAL FORM;zMEEM WITH YEH FINAL FORM",
  "qMEEM WITH MEEM WITH YEH FINAL FORM;qQAF WITH MEEM WITH YEH FINAL FORM",
  "qNOON WITH HAH WITH YEH FINAL FORM;qQAF WITH MEEM WITH HAH INITIAL FORM",
  "qLAM WITH HAH WITH MEEM INITIAL FORM;qAIN WITH MEEM WITH YEH FINAL FORM",
  "qKAF WITH MEEM WITH YEH FINAL FORM;qNOON WITH JEEM WITH HAH INITIAL FORM",
  "qMEEM WITH KHAH WITH YEH FINAL FORM;qLAM WITH JEEM WITH MEEM INITIAL FORM",
  "qKAF WITH MEEM WITH MEEM FINAL FORM;qLAM WITH JEEM WITH MEEM FINAL FORM",
  "qNOON WITH JEEM WITH HAH FINAL FORM;qJEEM WITH HAH WITH YEH FINAL FORM",
  "qHAH WITH JEEM WITH YEH FINAL FORM;qMEEM WITH JEEM WITH YEH FINAL FORM",
  "qFEH WITH MEEM WITH YEH FINAL FORM;qBEH WITH HAH WITH YEH FINAL FORM",
  "qKAF WITH MEEM WITH MEEM INITIAL FORM;qAIN WITH JEEM WITH MEEM INITIAL FORM",
  "qSAD WITH MEEM WITH MEEM INITIAL FORM;rEEN WITH KHAH WITH YEH FINAL FORM",
  "qNOON WITH JEEM WITH YEH FINAL FORM;+7;qSALAAMUHU ALAYNAA;+20",
  "tLA USED AS KORANIC STOP SIGN ISOLATED FORM;qQALA USED AS KORANIC STOP SIGN ISOLATED FORM",
  "qALLAH ISOLATED FORM;rKBAR ISOLATED FORM;qMOHAMMAD ISOLATED FORM;qSALAM ISOLATED FORM",
  "qRASOUL ISOLATED FORM;qALAYHE ISOLATED FORM;qWASALLAM ISOLATED FORM;qSALLA ISOLATED FORM",
  "vLLAHOU ALAYHE WASALLAM;qJALLAJALALOUHOU;aRIAL SIGN",
  "aARABIC LIGATURE BISMILLAH AR-RAHMAN AR-RAHEEM;qSUBHAANAHU WA TAAALAA;qAZZA WA JALL",
  "aVARIATION SELECTOR-1;t2;t3;t4;t5;t6;t7;t8;t9;t10;u1;u2;u3;u4;u5;u6",
  "aPRESENTATION FORM FOR VERTICAL COMMA;FIDEOGRAPHIC COMMA;RFULL STOP;FCOLON;FSEMICOLON",
  "FEXCLAMATION MARK;FQUESTION MARK;FLEFT WHITE LENTICULAR BRACKET",
  "FRIGHT WHITE LENTICULAR BRAKCET;FHORIZONTAL ELLIPSIS;+6;aCOMBINING LIGATURE LEFT HALF",
  "tRIGHT HALF;kDOUBLE TILDE LEFT HALF;xRIGHT HALF;kMACRON LEFT HALF;rRIGHT HALF",
  "kCONJOINING MACRON;kLIGATURE LEFT HALF BELOW;tRIGHT HALF BELOW;kTILDE LEFT HALF BELOW",
  "qRIGHT HALF BELOW;kMACRON LEFT HALF BELOW;rRIGHT HALF BELOW;kCONJOINING MACRON BELOW",
  "lYRILLIC TITLO LEFT HALF;zRIGHT HALF;aPRESENTATION FORM FOR VERTICAL TWO DOT LEADER;FEM DASH",
  "GN DASH;FLOW LINE;FWAVY LOW LINE;FLEFT PARENTHESIS;FRIGHT PARENTHESIS;FLEFT CURLY BRACKET",
  "FRIGHT CURLY BRACKET;FLEFT TORTOISE SHELL BRACKET;FRIGHT TORTOISE SHELL BRACKET",
  "FLEFT BLACK LENTICULAR BRACKET;FRIGHT BLACK LENTICULAR BRACKET;FLEFT DOUBLE ANGLE BRACKET",
  "FRIGHT DOUBLE ANGLE BRACKET;FLEFT ANGLE BRACKET;FRIGHT ANGLE BRACKET;FLEFT CORNER BRACKET",
  "FRIGHT CORNER BRACKET;FLEFT WHITE CORNER BRACKET;FRIGHT WHITE CORNER BRACKET;aSESAME DOT",
  "aWHITE SESAME DOT;aPRESENTATION FORM FOR VERTICAL LEFT SQUARE BRACKET;FRIGHT SQUARE BRACKET",
  "aDASHED OVERLINE;aCENTRELINE OVERLINE;aWAVY OVERLINE;aDOUBLE WAVY OVERLINE;bASHED LOW LINE",
  "aCENTRELINE LOW LINE;aWAVY LOW LINE;aSMALL COMMA;gIDEOGRAPHIC COMMA;gFULL STOP;+1;gSEMICOLON",
  "gCOLON;gQUESTION MARK;gEXCLAMATION MARK;hM DASH;gLEFT PARENTHESIS;gRIGHT PARENTHESIS",
  "gLEFT CURLY BRACKET;gRIGHT CURLY BRACKET;gLEFT TORTOISE SHELL BRACKET",
  "gRIGHT TORTOISE SHELL BRACKET;gNUMBER SIGN;gAMPERSAND;hSTERISK;gPLUS SIGN;gHYPHEN-MINUS",
  "gLESS-THAN SIGN;gGREATER-THAN SIGN;gEQUALS SIGN;+1;gREVERSE SOLIDUS;gDOLLAR SIGN",
  "gPERCENT SIGN;gCOMMERCIAL AT;+4;aARABIC FATHATAN ISOLATED FORM;hTATWEEL WITH FATHATAN ABOVE",
  "hDAMMATAN ISOLATED FORM;hTAIL FRAGMENT;hKASRATAN ISOLATED FORM;+1;hFATHA ISOLATED FORM",
  "nMEDIAL FORM;hDAMMA ISOLATED FORM;nMEDIAL FORM;hKASRA ISOLATED FORM;nMEDIAL FORM",
  "hSHADDA ISOLATED FORM;oMEDIAL FORM;iUKUN ISOLATED FORM;nMEDIAL FORM",
  "hLETTER HAMZA ISOLATED FORM;oALEF WITH MADDA ABOVE ISOLATED FORM;KFINAL FORM",
  "yHAMZA ABOVE ISOLATED FORM;KFINAL FORM;oWAW WITH HAMZA ABOVE ISOLATED FORM;JFINAL FORM",
  "oALEF WITH HAMZA BELOW ISOLATED FORM;KFINAL FORM;oYEH WITH HAMZA ABOVE ISOLATED FORM",
  "JFINAL FORM;JINITIAL FORM;JMEDIAL FORM;oALEF ISOLATED FORM;tFINAL FORM;oBEH ISOLATED FORM",
  "sFINAL FORM;sINITIAL FORM;sMEDIAL FORM;oTEH MARBUTA ISOLATED FORM;AFINAL FORM;sISOLATED FORM",
  "sFINAL FORM;sINITIAL FORM;sMEDIAL FORM;pHEH ISOLATED FORM;tFINAL FORM;tINITIAL FORM",
  "tMEDIAL FORM;oJEEM ISOLATED FORM;tFINAL FORM;tINITIAL FORM;tMEDIAL FORM;oHAH ISOLATED FORM",
  "sFINAL FORM;sINITIAL FORM;sMEDIAL FORM;oKHAH ISOLATED FORM;tFINAL FORM;tINITIAL FORM",
  "tMEDIAL FORM;oDAL ISOLATED FORM;sFINAL FORM;oTHAL ISOLATED FORM;tFINAL FORM",
  "oREH ISOLATED FORM;sFINAL FORM;oZAIN ISOLATED FORM;tFINAL FORM;oSEEN ISOLATED FORM",
  "tFINAL FORM;tINITIAL FORM;tMEDIAL FORM;pHEEN ISOLATED FORM;uFINAL FORM;uINITIAL FORM",
  "uMEDIAL FORM;pAD ISOLATED FORM;sFINAL FORM;sINITIAL FORM;sMEDIAL FORM;oDAD ISOLATED FORM",
  "sFINAL FORM;sINITIAL FORM;sMEDIAL FORM;oTAH ISOLATED FORM;sFINAL FORM;sINITIAL FORM",
  "sMEDIAL FORM;oZAH ISOLATED FORM;sFINAL FORM;sINITIAL FORM;sMEDIAL FORM;oAIN ISOLATED FORM",
  "sFINAL FORM;sINITIAL FORM;sMEDIAL FORM;oGHAIN ISOLATED FORM;uFINAL FORM;uINITIAL FORM",
  "uMEDIAL FORM;oFEH ISOLATED FORM;sFINAL FORM;sINITIAL FORM;sMEDIAL FORM;oQAF ISOLATED FORM",
  "sFINAL FORM;sINITIAL FORM;sMEDIAL FORM;oKAF ISOLATED FORM;sFINAL FORM;sINITIAL FORM",
  "sMEDIAL FORM;oLAM ISOLATED FORM;sFINAL FORM;sINITIAL FORM;sMEDIAL FORM;oMEEM ISOLATED FORM",
  "tFINAL FORM;tINITIAL FORM;tMEDIAL FORM;oNOON ISOLATED FORM;tFINAL FORM;tINITIAL FORM",
  "tMEDIAL FORM;oHEH ISOLATED FORM;sFINAL FORM;sINITIAL FORM;sMEDIAL FORM;oWAW ISOLATED FORM",
  "sFINAL FORM;oALEF MAKSURA ISOLATED FORM;BFINAL FORM;oYEH ISOLATED FORM;sFINAL FORM",
  "sINITIAL FORM;sMEDIAL FORM;iIGATURE LAM WITH ALEF WITH MADDA ABOVE ISOLATED FORM;VFINAL FORM",
  "JHAMZA ABOVE ISOLATED FORM;VFINAL FORM;PBELOW ISOLATED FORM;VFINAL FORM;EISOLATED FORM",
  "EFINAL FORM;+2;aZERO WIDTH NO-BREAK SPACE;+1;aFULLWIDTH EXCLAMATION MARK;kQUOTATION MARK",
  "kNUMBER SIGN;kDOLLAR SIGN;kPERCENT SIGN;kAMPERSAND;lPOSTROPHE;kLEFT PARENTHESIS",
  "kRIGHT PARENTHESIS;kASTERISK;kPLUS SIGN;kCOMMA;kHYPHEN-MINUS;kFULL STOP;kSOLIDUS;kDIGIT ZERO",
  "qONE;qTWO;rHREE;qFOUR;rIVE;qSIX;rEVEN;qEIGHT;qNINE;kCOLON;kSEMICOLON;kLESS-THAN SIGN",
  "kEQUALS SIGN;kGREATER-THAN SIGN;kQUESTION MARK;kCOMMERCIAL AT;kLATIN CAPITAL LETTER A;FB;FC",
  "FD;FE;FF;FG;FH;FI;FJ;FK;FL;FM;FN;FO;FP;FQ;FR;FS;FT;FU;FV;FW;FX;FY;FZ;lEFT SQUARE BRACKET",
  "kREVERSE SOLIDUS;lIGHT SQUARE BRACKET;kCIRCUMFLEX ACCENT;kLOW LINE;kGRAVE ACCENT",
  "kLATIN SMALL LETTER A;DB;DC;DD;DE;DF;DG;DH;DI;DJ;DK;DL;DM;DN;DO;DP;DQ;DR;DS;DT;DU;DV;DW;DX",
  "DY;DZ;lEFT CURLY BRACKET;kVERTICAL LINE;kRIGHT CURLY BRACKET;kTILDE;kLEFT WHITE PARENTHESIS",
  "kRIGHT WHITE PARENTHESIS;aHALFWIDTH IDEOGRAPHIC FULL STOP;kLEFT CORNER BRACKET",
  "kRIGHT CORNER BRACKET;kIDEOGRAPHIC COMMA;kKATAKANA MIDDLE DOT;tLETTER WO;ASMALL A;GI;GU;GE",
  "GO;GYA;HU;HO;GTU;s-HIRAGANA PROLONGED SOUND MARK;s LETTER A;AI;AU;AE;AO;AKA;BI;BU;BE;BO;ASA",
  "BI;BU;BE;BO;ATA;BI;BU;BE;BO;ANA;BI;BU;BE;BO;AHA;BI;BU;BE;BO;AMA;BI;BU;BE;BO;AYA;BU;BO;ARA;BI",
  "BU;BE;BO;AWA;AN;tVOICED SOUND MARK;tSEMI-VOICED SOUND MARK;kHANGUL FILLER;rLETTER KIYEOK",
  "ySSANGKIYEOK;yKIYEOK-SIOS;yNIEUN;D-CIEUC;EHIEUH;yTIKEUT;ySSANGTIKEUT;yRIEUL;D-KIYEOK;EMIEUM",
  "EPIEUP;ESIOS;ETHIEUTH;EPHIEUPH;EHIEUH;yMIEUM;yPIEUP;ySSANGPIEUP;yPIEUP-SIOS;ySIOS;zSANGSIOS",
  "yIEUNG;yCIEUC;ySSANGCIEUC;yCHIEUCH;yKHIEUKH;yTHIEUTH;yPHIEUPH;yHIEUH;+3;yA;zE;yYA;AE;yEO;z",
  "+2;yYEO;A;yO;yWA;AE;yOE;+2;yYO;yU;yWEO;A;zI;yYU;+2;yEU;yYI;yI;+3;aFULLWIDTH CENT SIGN",
  "kPOUND SIGN;kNOT SIGN;kMACRON;kBROKEN BAR;kYEN SIGN;kWON SIGN;+1",
  "aHALFWIDTH FORMS LIGHT VERTICAL;kLEFTWARDS ARROW;kUPWARDS ARROW;kRIGHTWARDS ARROW",
  "kDOWNWARDS ARROW;kBLACK SQUARE;kWHITE CIRCLE;+a;aINTERLINEAR ANNOTATION ANCHOR;xSEPARATOR",
  "xTERMINATOR;aOBJECT REPLACEMENT CHARACTER;aREPLACEMENT CHARACTER;+2",
  "aLINEAR B SYLLABLE B008 A;u38 E;u28 I;u61 O;u10 U;u01 DA;u45 DE;u07 DI;u14 DO;u51 DU;v7 JA",
  "u46 JE;+1;u36 JO;u65 JU;u77 KA;u44 KE;u67 KI;u70 KO;u81 KU;v0 MA;u13 ME;u73 MI;u15 MO;u23 MU",
  "u06 NA;u24 NE;u30 NI;u52 NO;v5 NU;u03 PA;u72 PE;u39 PI;u11 PO;u50 PU;u16 QA;u78 QE;u21 QI",
  "u32 QO;+1;u60 RA;u27 RE;u53 RI;u02 RO;u26 RU;u31 SA;u09 SE;u41 SI;u12 SO;u58 SU;v9 TA;u04 TE",
  "u37 TI;u05 TO;u69 TU;u54 WA;u75 WE;u40 WI;v2 WO;+1;u17 ZA;u74 ZE;+1;u20 ZO;v5 A2;u43 A3",
  "u85 AU;u71 DWE;u90 DWO;u48 NWA;u29 PU2;u62 PTE;u76 RA2;u33 RA3;u68 RO2;v6 TA2;u87 TWE",
  "u91 TWO;+2;lMBOL B018;t9;s22;s34;s47;t9;s56;s63;t4;s79;s82;t3;t6;t9;+22;jIDEOGRAM B100 MAN",
  "v2 WOMAN;v4 DEER;v5 EQUID;wF MARE;wM STALLION;v6F EWE;wM RAM;v7F SHE-GOAT;wM HE-GOAT;v8F SOW",
  "wM BOAR;v9F COW;wM BULL;u20 WHEAT;v1 BARLEY;v2 OLIVE;v3 SPICE;v5 CYPERUS;jMONOGRAM B127 KAPO",
  "v8 KANAKO;jIDEOGRAM B130 OIL;v1 WINE;v2;jMONOGRAM B133 AREPA;v5 MERI;jIDEOGRAM B140 BRONZE",
  "v1 GOLD;v2;v5 WOOL;v6;u50;v1 HORN;v2;v3;v4;jMONOGRAM B156 TURO2;jIDEOGRAM B157;v8;v9 CLOTH",
  "u60;v1;v2 GARMENT;v3 ARMOUR;v4;v5;v6;v7;v8;v9;u70;v1;v2;v3 MONTH;v4;v6 TREE;v7;v8;v9;u80;v1",
  "v2;v3;v4;v5;v9;u90;v1 HELMET;t220 FOOTSTOOL;v5 BATHTUB;u30 SPEAR;v1 ARROW;v2;v3 SWORD;v4;v6",
  "u40 WHEELED CHARIOT;v1 CHARIOT;v2 CHARIOT FRAME;v3 WHEEL;v5;v6;jMONOGRAM B247 DIPTE",
  "jIDEOGRAM B248;v9;u51;v2;v3;v4 DART;v5;v6;v7;v8;v9;sVESSEL B155;A200;C1;C2;C3;C4;C5;C6;C7;C8",
  "C9;B10;C1;C2;C3;C4;C5;C6;C7;C8;C9;B21;C2;C6;C7;C8;C9;B50;A305;+5;aAEGEAN WORD SEPARATOR LINE",
  "wDOT;hCHECK MARK;+4;hNUMBER ONE;oTWO;pHREE;oFOUR;pIVE;oSIX;pEVEN;oEIGHT;oNINE;oTEN;pWENTY",
  "pHIRTY;oFORTY;pIFTY;oSIXTY;pEVENTY;oEIGHTY;oNINETY;oONE HUNDRED;oTWO HUNDRED;pHREE HUNDRED",
  "oFOUR HUNDRED;pIVE HUNDRED;oSIX HUNDRED;pEVEN HUNDRED;oEIGHT HUNDRED;oNINE HUNDRED",
  "oONE THOUSAND;oTWO THOUSAND;pHREE THOUSAND;oFOUR THOUSAND;pIVE THOUSAND;oSIX THOUSAND",
  "pEVEN THOUSAND;oEIGHT THOUSAND;oNINE THOUSAND;oTEN THOUSAND;pWENTY THOUSAND;pHIRTY THOUSAND",
  "oFORTY THOUSAND;pIFTY THOUSAND;oSIXTY THOUSAND;pEVENTY THOUSAND;oEIGHTY THOUSAND",
  "oNINETY THOUSAND;+3;hWEIGHT BASE UNIT;oFIRST SUBUNIT;oSECOND SUBUNIT;oTHIRD SUBUNIT",
  "oFOURTH SUBUNIT;hDRY MEASURE FIRST SUBUNIT;hLIQUID MEASURE FIRST SUBUNIT",
  "hMEASURE SECOND SUBUNIT;pTHIRD SUBUNIT;aGREEK ACROPHONIC ATTIC ONE QUARTER;BHALF;BDRACHMA",
  "xFIVE;zFTY;zVE HUNDRED;CTHOUSAND;zFTY THOUSAND;zVE TALENTS;xTEN TALENTS;xFIFTY TALENTS",
  "xONE HUNDRED TALENTS;xFIVE HUNDRED TALENTS;xONE THOUSAND TALENTS;xFIVE THOUSAND TALENTS",
  "CSTATERS;xTEN STATERS;xFIFTY STATERS;xONE HUNDRED STATERS;xFIVE HUNDRED STATERS",
  "xONE THOUSAND STATERS;xTEN THOUSAND STATERS;xFIFTY THOUSAND STATERS;xTEN MNAS",
  "rHERAEUM ONE PLETHRON;rTHESPIAN ONE;rHERMIONIAN ONE;rEPIDAUREAN TWO;rTHESPIAN TWO",
  "rCYRENAIC TWO DRACHMAS;rEPIDAUREAN TWO DRACHMAS;rTROEZENIAN FIVE;CTEN;F ALTERNATE FORM",
  "rHERMIONIAN TEN;rMESSENIAN TEN;rTHESPIAN TEN;BHIRTY;sROEZENIAN FIFTY;H ALTERNATE FORM",
  "rHERMIONIAN FIFTY;rTHESPIAN FIFTY;AONE HUNDRED;ATHREE HUNDRED;rEPIDAUREAN FIVE HUNDRED",
  "rTROEZENIAN FIVE HUNDRED;sHESPIAN FIVE HUNDRED;rCARYSTIAN FIVE HUNDRED;rNAXIAN FIVE HUNDRED",
  "rTHESPIAN ONE THOUSAND;AFIVE THOUSAND;rDELPHIC FIVE MNAS;rSTRATIAN FIFTY MNAS;gONE HALF SIGN",
  "t ALTERNATE FORM;gTWO THIRDS SIGN;hHREE QUARTERS SIGN;gYEAR SIGN;gTALENT SIGN;gDRACHMA SIGN",
  "gOBOL SIGN;gTWO OBOLS SIGN;hHREE OBOLS SIGN;gFOUR OBOLS SIGN;hIVE OBOLS SIGN;gMETRETES SIGN",
  "gKYATHOS BASE SIGN;gLITRA SIGN;gOUNKIA SIGN;gXESTES SIGN;gARTABE SIGN;iOURA SIGN",
  "gGRAMMA SIGN;gTRYBLION BASE SIGN;gZERO SIGN;gONE QUARTER SIGN;gSINUSOID SIGN;gINDICTION SIGN",
  "aNOMISMA SIGN;+1;aROMAN SEXTANS SIGN;gUNCIA SIGN;gSEMUNCIA SIGN;iXTULA SIGN",
  "gDIMIDIA SEXTULA SIGN;gSILIQUA SIGN;gDENARIUS SIGN;gQUINARIUS SIGN;gSESTERTIUS SIGN",
  "gDUPONDIUS SIGN;gAS SIGN;gCENTURIAL SIGN;aASCIA SYMBOL;+3;aGREEK SYMBOL TAU RHO;+2f",
  "aPHAISTOS DISC SIGN PEDESTRIAN;uLUMED HEAD;tTATTOOED HEAD;tCAPTIVE;uHILD;tWOMAN;tHELMET",
  "tGAUNTLET;tTIARA;tARROW;tBOW;tSHIELD;tCLUB;tMANACLES;vTTOCK;tSAW;tLID;tBOOMERANG",
  "tCARPENTRY PLANE;tDOLIUM;tCOMB;tSLING;tCOLUMN;tBEEHIVE;tSHIP;tHORN;uIDE;tBULLS LEG;tCAT;tRAM",
  "tEAGLE;tDOVE;tTUNNY;tBEE;tPLANE TREE;tVINE;tPAPYRUS;tROSETTE;tLILY;tOX BACK;tFLUTE;tGRATER",
  "tSTRAINER;uMALL AXE;tWAVY BAND;tCOMBINING OBLIQUE STROKE;+82;aLYCIAN LETTER A;oE;oB;pH;oG;oD",
  "oI;oW;oZ;oTH;oJ;oK;oQ;oL;oM;oN;oMM;oNN;oU;oP;oKK;oR;oS;oT;pT;oAN;oEN;oH;oX;+3",
  "aCARIAN LETTER A;oP2;oD;oL;oUUU;oR;oLD;oA2;oQ;oB;oM;oO;oD2;oT;oSH;q2;p;oC-18;oU;oNN;oX;oN",
  "oTT2;oP;oSS;oI;oE;oUUUU;oK;p2;oND;oUU;oG;p2;oST;q2;oNG;oII;oC-39;oTT;oUUU2;oRR;oMB;q2;q3;q4",
  "oLD2;oE2;oUUU3;+f;bOPTIC EPACT THOUSANDS MARK;nDIGIT ONE;tTWO;uHREE;tFOUR;uIVE;tSIX;uEVEN",
  "tEIGHT;tNINE;nNUMBER TEN;vWENTY;vHIRTY;uFORTY;vIFTY;uSIXTY;vEVENTY;uEIGHTY;uNINETY",
  "uONE HUNDRED;uTWO HUNDRED;vHREE HUNDRED;uFOUR HUNDRED;vIVE HUNDRED;uSIX HUNDRED",
  "vEVEN HUNDRED;uEIGHT HUNDRED;uNINE HUNDRED;+4;aOLD ITALIC LETTER A;sBE;sKE;sDE;sE;sVE;sZE",
  "sHE;sTHE;sI;sKA;sEL;tM;tN;tSH;sO;sPE;sSHE;sKU;sER;tS;sTE;sU;sEKS;sPHE;sKHE;sEF;tRS;sCHE;sII",
  "sUU;sESS;lNUMERAL ONE;tFIVE;tTEN;tFIFTY;+9;lLETTER YE;sNORTHERN TSE;sSOUTHERN TSE",
  "aGOTHIC LETTER AHSA;oBAIRKAN;oGIBA;oDAGS;oAIHVUS;oQAIRTHRA;oIUJA;oHAGL;oTHIUTH;oEIS;oKUSMA",
  "oLAGUS;oMANNA;oNAUTHS;oJER;oURUS;oPAIRTHRA;oNINETY;oRAIDA;oSAUIL;oTEIWS;oWINJA;oFAIHU;oIGGWS",
  "oHWAIR;oOTHAL;oNINE HUNDRED;+5;aOLD PERMIC LETTER AN;sBUR;sGAI;sDOI;sE;sZHOI;sDZHOI;sZATA",
  "sDZITA;sI;sKOKE;sLEI;sMENOE;sNENOE;sVOOI;sPEEI;sREI;sSII;sTAI;sU;sCHERY;sSHOOI;uCHOOI;sYRY",
  "tERU;sO;tO;sEF;sHA;sTSIU;sVER;sYER;vI;tAT;sIE;sYU;tA;sIA;aCOMBINING OLD PERMIC LETTER AN",
  "CDOI;CZATA;CNENOE;CSII;+5;aUGARITIC LETTER ALPA;qBETA;qGAMLA;qKHA;qDELTA;qHO;qWO;qZETA;qHOTA",
  "qTET;qYOD;qKAF;qSHIN;qLAMDA;qMEM;qDHAL;qNUN;qZU;qSAMKA;qAIN;qPU;qSADE;qQOPA;qRASHA;qTHANNA",
  "qGHAIN;qTO;qI;qU;qSSU;+1;jWORD DIVIDER;aOLD PERSIAN SIGN A;rI;rU;rKA;sU;rGA;sU;rXA;rCA;rJA",
  "sI;rTA;sU;rDA;sI;sU;rTHA;rPA;rBA;rFA;rNA;sU;rMA;sI;sU;rYA;rVA;sI;rRA;sU;rLA;rSA;rZA;rSHA;sSA",
  "rHA;+4;rAURAMAZDAA;B-2;BHA;rXSHAAYATHIYA;rDAHYAAUSH;A-2;rBAGA;sUUMISH;mWORD DIVIDER",
  "mNUMBER ONE;tTWO;uEN;uWENTY;tHUNDRED;+2a;aDESERET CAPITAL LETTER LONG I;CE;CA;DH;CO;DO",
  "xSHORT I;DE;DA;EH;DO;EO;xAY;xOW;xWU;xYEE;xH;xPEE;xBEE;xTEE;xDEE;xCHEE;xJEE;xKAY;xGAY;xEF",
  "xVEE;xETH;xTHEE;xES;xZEE;xESH;xZHEE;xER;yL;yM;yN;zG;xOI;xEW;iSMALL LETTER LONG I;AE;AA;BH;AO",
  "BO;vSHORT I;BE;BA;CH;BO;CO;vAY;vOW;vWU;vYEE;vH;vPEE;vBEE;vTEE;vDEE;vCHEE;vJEE;vKAY;vGAY;vEF",
  "vVEE;vETH;vTHEE;vES;vZEE;vESH;vZHEE;vER;wL;wM;wN;xG;vOI;vEW;aSHAVIAN LETTER PEEP;pTOT;pKICK",
  "pFEE;pTHIGH;pSO;qURE;pCHURCH;pYEA;pHUNG;pBIB;pDEAD;pGAG;pVOW;pTHEY;pZOO;pMEASURE;pJUDGE;pWOE",
  "pHA-HA;pLOLL;pMIME;pIF;pEGG;pASH;qDO;pON;pWOOL;pOUT;pAH;pROAR;pNUN;pEAT;pAGE;pICE;pUP;pOAK",
  "qOZE;qIL;pAWE;qRE;pOR;pAIR;pERR;pARRAY;pEAR;pIAN;pYEW;aOSMANYA LETTER ALEF;pBA;pTA;pJA;pXA",
  "pKHA;pDEEL;pRA;pSA;qHIIN;pDHA;pCAYN;pGA;pFA;pQAAF;pKAAF;pLAAN;pMIIN;pNUUN;pWAW;pHA;pYA;pA;pE",
  "pI;pO;pU;pAA;pEE;pOO;+2;iDIGIT ZERO;oONE;oTWO;pHREE;oFOUR;pIVE;oSIX;pEVEN;oEIGHT;oNINE;+6",
  "cAGE CAPITAL LETTER A;wI;xN;wH;vBRA;vCHA;vEHCHA;w;wIN;vHA;wYA;vI;vKA;vEHKA;vKYA;vLA;vMA;vNA",
  "vO;wIN;vPA;vEHPA;vSA;wHA;vTA;vEHTA;vTSA;vEHTSA;vTSHA;vDHA;vU;vWA;vKHA;vGHA;vZA;wHA;+4",
  "gSMALL LETTER A;uI;vN;uH;tBRA;tCHA;tEHCHA;u;uIN;tHA;uYA;tI;tKA;tEHKA;tKYA;tLA;tMA;tNA;tO;uIN",
  "tPA;tEHPA;tSA;uHA;tTA;tEHTA;tTSA;tEHTSA;tTSHA;tDHA;tU;tWA;tKHA;tGHA;tZA;uHA;+4",
  "aELBASAN LETTER A;pBE;pCE;qHE;pDE;pNDE;pDHE;pEI;q;pFE;pGE;qJE;pHE;pI;pJE;pKE;pLE;qLE;pME;pNE",
  "qA;qJE;pO;pPE;pQE;pRE;qRE;pSE;qHE;pTE;qHE;pU;pVE;pXE;pY;pZE;qHE;pGHE;rAMMA;pKHE;+8",
  "aCAUCASIAN ALBANIAN LETTER ALT;ABET;AGIM;ADAT;AEB;AZARL;AEYN;AZHIL;ATAS;ACHA;AYOWD;AZHA;AIRB",
  "ASHA;ALAN;AINYA;AXEYN;ADYAN;ACAR;AJHOX;AKAR;ALYIT;AHEYT;AQAY;AAOR;ACHOY;CI;BYAY;AMAQ;AQAR",
  "ANOWC;ADZYAY;ASHAK;AJAYN;AON;ATYAY;AFAM;ADZAY;ACHAT;APEN;AGHEYS;ARAT;ASEYK;AVEYZ;ATIWR;ASHOY",
  "AIWN;ACYAW;BAYN;AYAYD;APIWR;AKIW;+b;tCITATION MARK;aVITHKUQI CAPITAL LETTER A;yBBE;zE;yCE",
  "zHE;yDE;zHE;yEI;z;yFE;yGA;+1;yHA;zHA;yI;zJE;yJE;yKA;yLA;zLA;yME;yNE;zJE;yO;yPE;yQA;yRE;+1",
  "ySE;zHE;yTE;zHE;yU;yVE;yXE;+1;yY;yZE;+1;jSMALL LETTER A;wBBE;xE;wCE;xHE;wDE;xHE;wEI;x;wFE",
  "wGA;+1;wHA;xHA;wI;xJE;wJE;wKA;wLA;xLA;wME;wNE;xJE;wO;wPE;wQA;wRE;+1;wSE;xHE;wTE;xHE;wU;wVE",
  "wXE;+1;wY;wZE;+43;aLINEAR A SIGN AB001;s2;s3;s4;s5;s6;s7;s8;s9;r10;s1;s3;s6;s7;r20;s1;tF;tM",
  "s2;tF;tM;s3;tM;s4;s6;s7;s8;p028B;pB029;r30;s1;s4;s7;s8;s9;r40;s1;s4;s5;s6;s7;s8;s9;r50;s1;s3",
  "s4;s5;s6;s7;s8;s9;r60;s1;s5;s6;s7;s9;r70;s3;s4;s6;s7;s8;s9;r80;s1;s2;s5;s6;s7;p100-102;pB118",
  "r20;p120B;pB122;s3;r31A;tB;p131C;pB164;r71;r80;s8;r91;p301;r2;r3;r4;r5;r6;r7;r8;r9A;sB;sC",
  "q10;r1;r2;r3A;sB;sC;r4;r5;r6;r7;r8;r9;q20;r1;r2;r3;r4;r5;r6;r7;r8;r9;q30;r1;r2;r3;r4;r5;r6",
  "r7;r8;r9;q40;r1;r2;r3;r4;r5;r6;r7;r8;r9;q50;r1;r2;r3;r4;r5;r6;r7;r8;r9;q60;r1;r2;r3;r4;r5;r6",
  "r7;r8;r9;q70;r1;p400-VAS;r1-VAS;r2-VAS;r3-VAS;r4-VAS;r5-VAS;r6-VAS;r7-VAS;r8-VAS;r9-VAS",
  "q10-VAS;r1-VAS;r2-VAS;r3-VAS;r4-VAS;r5-VAS;r6-VAS;r7-VAS;r8-VAS;p501;r2;r3;r4;r5;r6;r8;r9",
  "q10;r1;r2;r3;r5;r6;q20;r1;r3;r4;r5;r6;r7;r8;r9;q30;r1;r2;r4;r5;r6;r7;r8;r9;q40;r1;r2;r5;r7",
  "r8;r9;q50;r1;r2;r3;r4;r5;r6;r7;r9;q63;r4;r5;r6;r8;r9;q70;r1;r2;r3;r4;r5;r6;r7;r8;r9;q80;r1",
  "r2;r3;r4;r5;r6;r7;r8;r9;q91;r2;r4;r5;r6;r8;p600;r1;r2;r3;r4;r6;r8;r9;q10;r1;r2;r3;r4;r5;r6",
  "r7;r8;r9;q20;r1;r2;r3;r4;r6;r7;r8;r9;q34;r7;r8;q40;r2;r3;r4;r5;r6;r8;r9;q51;r2;r3;r4;r5;r6",
  "r7;r8;r9;q60;r1;r2;r3;r4;+9;p701 A;r2 B;r3 D;r4 E;r5 F;r6 H;r7 J;r8 K;r9 L;s-2 L2;t3 L3",
  "t4 L4;t6 L6;q10 W;r1 X;r2 Y;r3 OMEGA;r4 ABB;r5 BB;r7 DD;q26 EYYY;q32 JE;+a;p800;r1;r2;r3;r4",
  "r5;r6;r7;+18;aMODIFIER LETTER SMALL CAPITAL AA;rUPERSCRIPT TRIANGULAR COLON",
  "CHALF TRIANGULAR COLON;rMALL AE;wCAPITAL B;wB WITH HOOK;+1;wDZ DIGRAPH;G WITH RETROFLEX HOOK",
  "MCURL;xEZH DIGRAPH;x WITH TAIL;DHOOK;H AND TAIL;wREVERSED E;wCLOSED REVERSED OPEN E",
  "wFENG DIGRAPH;wRAMS HORN;wCAPITAL G;wG WITH HOOK;wCAPITAL G WITH HOOK;wH WITH STROKE",
  "wCAPITAL H;wHENG WITH HOOK;wDOTLESS J WITH STROKE AND HOOK;wLS DIGRAPH;xZ DIGRAPH",
  "x WITH BELT;wCAPITAL L WITH BELT;wL WITH RETROFLEX HOOK AND BELT;xEZH;A WITH RETROFLEX HOOK",
  "wTURNED Y;E WITH BELT;wO WITH STROKE;wCAPITAL OE;xLOSED OMEGA;wQ;wTURNED R WITH LONG LEG",
  "S AND RETROFLEX HOOK;wR WITH TAIL;DFISHHOOK;wCAPITAL R;wTC DIGRAPH WITH CURL;xS DIGRAPH",
  "G WITH RETROFLEX HOOK;xESH DIGRAPH;x WITH RETROFLEX HOOK;wV WITH RIGHT HOOK;+1;wCAPITAL Y",
  "qGLOTTAL STOP WITH STROKE;qREVERSED GLOTTAL STOP WITH STROKE;qBILABIAL CLICK;qDENTAL CLICK",
  "qLATERAL CLICK;qALVEOLAR CLICK;qRETROFLEX CLICK WITH RETROFLEX HOOK;qSMALL S WITH CURL;+45",
  "aCYPRIOT SYLLABLE A;rE;rI;rO;rU;rJA;+2;sO;+1;rKA;sE;sI;sO;sU;rLA;sE;sI;sO;sU;rMA;sE;sI;sO;sU",
  "rNA;sE;sI;sO;sU;rPA;sE;sI;sO;sU;rRA;sE;sI;sO;sU;rSA;sE;sI;sO;sU;rTA;sE;sI;sO;sU;rWA;sE;sI;sO",
  "+1;rXA;sE;+3;rZA;+2;sO;aIMPERIAL ARAMAIC LETTER ALEPH;yBETH;yGIMEL;yDALETH;yHE;yWAW;yZAYIN",
  "yHETH;yTETH;yYODH;yKAPH;yLAMEDH;yMEM;yNUN;ySAMEKH;yAYIN;yPE;ySADHE;yQOPH;yRESH;ySHIN;yTAW;+1",
  "rSECTION SIGN;rNUMBER ONE;yTWO;zHREE;zEN;zWENTY;yONE HUNDRED;CTHOUSAND;yTEN THOUSAND",
  "aPALMYRENE LETTER ALEPH;rBETH;rGIMEL;rDALETH;rHE;rWAW;rZAYIN;rHETH;rTETH;rYODH;rKAPH;rLAMEDH",
  "rMEM;rFINAL NUN;rNUN;rSAMEKH;rAYIN;rPE;rSADHE;rQOPH;rRESH;rSHIN;rTAW;mFT-POINTING FLEURON",
  "kRIGHT-POINTING FLEURON;kNUMBER ONE;rTWO;sHREE;rFOUR;sIVE;rTEN;sWENTY",
  "aNABATAEAN LETTER FINAL ALEPH;rALEPH;rFINAL BETH;rBETH;rGIMEL;rDALETH;rFINAL HE;rHE;rWAW",
  "rZAYIN;rHETH;rTETH;rFINAL YODH;rYODH;rFINAL KAPH;rKAPH;rFINAL LAMEDH;rLAMEDH;rFINAL MEM;rMEM",
  "rFINAL NUN;rNUN;rSAMEKH;rAYIN;rPE;rSADHE;rQOPH;rRESH;rFINAL SHIN;rSHIN;rTAW;+8;kNUMBER ONE",
  "rTWO;sHREE;rFOUR;kCRUCIFORM NUMBER FOUR;kNUMBER FIVE;rTEN;sWENTY;rONE HUNDRED;+30",
  "aHATRAN LETTER ALEPH;oBETH;oGIMEL;oDALETH-RESH;oHE;oWAW;oZAYN;oHETH;oTETH;oYODH;oKAPH",
  "oLAMEDH;oMEM;oNUN;oSAMEKH;oAYN;oPE;oSADHE;oQOPH;+1;oSHIN;oTAW;+5;hNUMBER ONE;oFIVE;oTEN",
  "pWENTY;oONE HUNDRED;aPHOENICIAN LETTER ALF;sBET;sGAML;sDELT;sHE;sWAU;sZAI;sHET;sTET;sYOD",
  "sKAF;sLAMD;sMEM;sNUN;sSEMK;sAIN;sPE;sSADE;sQOF;sROSH;sSHIN;sTAU;lNUMBER ONE;sTEN;tWENTY",
  "sONE HUNDRED;sTWO;tHREE;+3;lWORD SEPARATOR;aLYDIAN LETTER A;oB;oG;oD;oE;oV;oI;oY;oK;oL;oM;oN",
  "oO;oR;oSS;oT;oU;oF;oQ;oS;oTT;oAN;oEN;oLY;oNN;oC;+5;hTRIANGULAR MARK;+40",
  "aMEROITIC HIEROGLYPHIC LETTER A;DE;DI;DO;DYA;DWA;DBA;F-2;DPA;DMA;DNA;F-2;EE;F-2;DRA;F-2;DLA",
  "DKHA;DHHA;DSA;F-2;EE;DKA;DQA;DTA;F-2;EE;F-2;EO;DDA;wSYMBOL VIDJ;H-2;jCURSIVE LETTER A;yE;yI",
  "yO;yYA;yWA;yBA;yPA;yMA;yNA;zE;yRA;yLA;yKHA;yHHA;ySA;yARCHAIC SA;ySE;yKA;yQA;yTA;zE;zO;yDA;+4",
  "rFRACTION ELEVEN TWELFTHS;AONE HALF;rLOGOGRAM RMT;AIMN;rNUMBER ONE;yTWO;zHREE;yFOUR;zIVE",
  "ySIX;zEVEN;yEIGHT;yNINE;yTEN;zWENTY;zHIRTY;yFORTY;zIFTY;ySIXTY;zEVENTY;+2;yONE HUNDRED",
  "yTWO HUNDRED;zHREE HUNDRED;yFOUR HUNDRED;zIVE HUNDRED;ySIX HUNDRED;zEVEN HUNDRED",
  "yEIGHT HUNDRED;yNINE HUNDRED;yONE THOUSAND;yTWO THOUSAND;zHREE THOUSAND;yFOUR THOUSAND",
  "zIVE THOUSAND;ySIX THOUSAND;zEVEN THOUSAND;yEIGHT THOUSAND;yNINE THOUSAND;yTEN THOUSAND",
  "zWENTY THOUSAND;zHIRTY THOUSAND;yFORTY THOUSAND;zIFTY THOUSAND;ySIXTY THOUSAND",
  "zEVENTY THOUSAND;yEIGHTY THOUSAND;yNINETY THOUSAND;yONE HUNDRED THOUSAND",
  "yTWO HUNDRED THOUSAND;zHREE HUNDRED THOUSAND;yFOUR HUNDRED THOUSAND;zIVE HUNDRED THOUSAND",
  "ySIX HUNDRED THOUSAND;zEVEN HUNDRED THOUSAND;yEIGHT HUNDRED THOUSAND;yNINE HUNDRED THOUSAND",
  "rFRACTION ONE TWELFTH;ATWO TWELFTHS;BHREE TWELFTHS;AFOUR TWELFTHS;BIVE TWELFTHS",
  "ASIX TWELFTHS;BEVEN TWELFTHS;AEIGHT TWELFTHS;ANINE TWELFTHS;ATEN TWELFTHS",
  "aKHAROSHTHI LETTER A;lVOWEL SIGN I;wU;wVOCALIC R;+1;wE;wO;+5;rLENGTH MARK",
  "lSIGN DOUBLE RING BELOW;qANUSVARA;qVISARGA;lLETTER KA;tHA;sGA;tHA;+1;sCA;tHA;sJA;+1;sNYA",
  "sTTA;uHA;sDDA;uHA;sNNA;sTA;tHA;sDA;tHA;sNA;sPA;tHA;sBA;tHA;sMA;sYA;sRA;sLA;sVA;sSHA;tSA;tA",
  "sZA;sHA;sKKA;sTTTHA;vA;sVHA;+2;lSIGN BAR ABOVE;qCAUDA;qDOT BELOW;+4;lVIRAMA;lDIGIT ONE;rTWO",
  "sHREE;rFOUR;lNUMBER TEN;tWENTY;sONE HUNDRED;wTHOUSAND;lFRACTION ONE HALF;+7;lPUNCTUATION DOT",
  "xSMALL CIRCLE;xCIRCLE;yRESCENT BAR;xMANGALAM;xLOTUS;xDANDA;yOUBLE DANDA;xLINES;+7",
  "aOLD SOUTH ARABIAN LETTER HE;zLAMEDH;zHETH;zMEM;zQOPH;zWAW;zSHIN;zRESH;zBETH;zTAW;zSAT;zKAPH",
  "zNUN;zKHETH;zSADHE;BMEKH;zFE;zALEF;AYN;zDHADHE;zGIMEL;zDALETH;zGHAYN;zTETH;zZAYN;zDHALETH",
  "zYODH;zTHAW;BETH;sNUMBER ONE;zFIFTY;vERIC INDICATOR;eNORTH ARABIAN LETTER HEH;zLAM;zHAH",
  "zMEEM;zQAF;zWAW;zES-2;zREH;zBEH;zTEH;zES-1;zKAF;zNOON;zKHAH;zSAD;zES-3;zFEH;zALEF;AIN;zDAD",
  "zGEEM;zDAL;zGHAIN;zTAH;zZAIN;zTHAL;zYEH;zTHEH;zZAH;sNUMBER ONE;zTEN;AWENTY;+20",
  "aMANICHAEAN LETTER ALEPH;sBETH;tHETH;sGIMEL;tHIMEL;sDALETH;sHE;sWAW;lSIGN UD;lLETTER ZAYIN",
  "tHAYIN;sJAYIN;tHAYIN;sHETH;sTETH;sYODH;sKAPH;sXAPH;sKHAPH;sLAMEDH;sDHAMEDH;sTHAMEDH;sMEM",
  "sNUN;sSAMEKH;sAYIN;tAYIN;sPE;sFE;sSADHE;sQOPH;sXOPH;sQHOPH;sRESH;sSHIN;tSHIN;sTAW",
  "lABBREVIATION MARK ABOVE;DBELOW;+4;lNUMBER ONE;sFIVE;sTEN;tWENTY;sONE HUNDRED",
  "lPUNCTUATION STAR;xFLEURON;xDOUBLE DOT WITHIN DOT;zT WITHIN DOT;A;xTWO DOTS;xLINE FILLER;+9",
  "aAVESTAN LETTER A;qA;qO;qAO;qN;qAN;qE;rE;pE;qE;pO;qO;pI;qI;pU;qU;pKE;pXE;qYE;qVE;pGE;qGE;qHE",
  "pCE;pJE;pTE;qHE;pDE;qHE;pTTE;pPE;pFE;pBE;qHE;pNGE;rYE;rVE;qE;qYE;qNE;pME;pHME;pYYE;qE;pVE",
  "pRE;pLE;pSE;pZE;pSHE;pZHE;pSHYE;qSHE;pHE;+3;iABBREVIATION MARK",
  "aTINY TWO DOTS OVER ONE DOT PUNCTUATION;aSMALL TWO DOTS OVER ONE DOT PUNCTUATION",
  "aLARGE TWO DOTS OVER ONE DOT PUNCTUATION;gONE DOT OVER TWO DOTS PUNCTUATION",
  "gTWO RINGS OVER ONE RING PUNCTUATION;gONE RING OVER TWO RINGS PUNCTUATION",
  "aINSCRIPTIONAL PARTHIAN LETTER ALEPH;EBETH;EGIMEL;EDALETH;EHE;EWAW;EZAYIN;EHETH;ETETH;EYODH",
  "EKAPH;ELAMEDH;EMEM;ENUN;ESAMEKH;EAYIN;EPE;ESADHE;EQOPH;ERESH;ESHIN;ETAW;+2;xNUMBER ONE;ETWO",
  "FHREE;EFOUR;ETEN;FWENTY;EONE HUNDRED;ITHOUSAND;qHLAVI LETTER ALEPH;DBETH;DGIMEL;DDALETH;DHE",
  "DWAW-AYIN-RESH;DZAYIN;DHETH;DTETH;DYODH;DKAPH;DLAMEDH;DMEM-QOPH;DNUN;DSAMEKH;DPE;DSADHE;EHIN",
  "DTAW;+5;wNUMBER ONE;DTWO;EHREE;DFOUR;DTEN;EWENTY;DONE HUNDRED;HTHOUSAND",
  "aPSALTER PAHLAVI LETTER ALEPH;xBETH;xGIMEL;xDALETH;xHE;xWAW-AYIN-RESH;xZAYIN;xHETH;xYODH",
  "xKAPH;xLAMEDH;xMEM-QOPH;xNUN;xSAMEKH;xPE;xSADHE;yHIN;xTAW;+7;qSECTION MARK",
  "qTURNED SECTION MARK;qFOUR DOTS WITH CROSS;FDOT;+c;qNUMBER ONE;xTWO;yHREE;xFOUR;xTEN;yWENTY",
  "xONE HUNDRED;+50;aOLD TURKIC LETTER ORKHON A;sYENISEI A;BE;sORKHON I;sYENISEI I;AE;sORKHON O",
  "AE;sYENISEI OE;sORKHON AB;sYENISEI AB;sORKHON AEB;sYENISEI AEB;sORKHON AG;sYENISEI AG",
  "sORKHON AEG;sYENISEI AEG;sORKHON AD;sYENISEI AD;sORKHON AED;zEZ;sYENISEI EZ;sORKHON AY",
  "sYENISEI AY;sORKHON AEY;sYENISEI AEY;sORKHON AEK;sYENISEI AEK;sORKHON OEK;sYENISEI OEK",
  "sORKHON AL;sYENISEI AL;sORKHON AEL;zELT;AM;zAN;AEN;sYENISEI AEN;sORKHON ENT;sYENISEI ENT",
  "sORKHON ENC;sYENISEI ENC;sORKHON ENY;sYENISEI ENY;AANG;sORKHON ENG;sYENISEI AENG;sORKHON EP",
  "zOP;zIC;zEC;sYENISEI EC;sORKHON AQ;sYENISEI AQ;sORKHON IQ;sYENISEI IQ;sORKHON OQ;sYENISEI OQ",
  "sORKHON AR;sYENISEI AR;sORKHON AER;AS;AES;ASH;sYENISEI ASH;sORKHON ESH;sYENISEI ESH",
  "sORKHON AT;sYENISEI AT;sORKHON AET;sYENISEI AET;sORKHON OT;zBASH;+37",
  "eHUNGARIAN CAPITAL LETTER A;EA;DEB;DAMB;DEC;ENC;ECS;ED;DAND;DE;DCLOSE E;DEE;EF;EG;FY;EH;DI",
  "EI;DEJ;EK;DAK;DUNK;DEL;FY;EM;EN;FY;DO;EO;DNIKOLSBURG OE;DRUDIMENTA OE;DOEE;DEP;EMP;ER",
  "DSHORT ER;DES;FZ;ET;ENT;ETY;ECH;DU;EU;DNIKOLSBURG UE;DRUDIMENTA UE;DEV;EZ;FS;ENT-SHAPED SIGN",
  "DUS;+d;oSMALL LETTER A;CA;BEB;BAMB;BEC;CNC;CCS;CD;BAND;BE;BCLOSE E;BEE;CF;CG;DY;CH;BI;CI;BEJ",
  "CK;BAK;BUNK;BEL;DY;CM;CN;DY;BO;CO;BNIKOLSBURG OE;BRUDIMENTA OE;BOEE;BEP;CMP;CR;BSHORT ER;BES",
  "DZ;CT;CNT;CTY;CCH;BU;CU;BNIKOLSBURG UE;BRUDIMENTA UE;BEV;CZ;DS;CNT-SHAPED SIGN;BUS;+7",
  "oNUMBER ONE;vFIVE;vTEN;vFIFTY;vONE HUNDRED;zTHOUSAND;aHANIFI ROHINGYA LETTER A;xBA;xPA;xTA",
  "yTA;xJA;xCA;xHA;xKHA;xFA;xDA;yDA;xRA;yRA;xZA;xSA;yHA;xKA;xGA;xLA;xMA;xNA;xWA;xKINNA WA;xYA",
  "xKINNA YA;xNGA;yYA;xVA;qVOWEL A;wI;wU;wE;wO;qMARK SAKIN;vNA KHONNA;qSIGN HARBAHAY;vTAHALA",
  "xNA;xSSI;+8;qDIGIT ZERO;wONE;wTWO;xHREE;wFOUR;xIVE;wSIX;xEVEN;wEIGHT;wNINE;+126",
  "aRUMI DIGIT ONE;lTWO;mHREE;lFOUR;mIVE;lSIX;mEVEN;lEIGHT;lNINE;fNUMBER TEN;nWENTY;nHIRTY",
  "mFORTY;nIFTY;mSIXTY;nEVENTY;mEIGHTY;mNINETY;mONE HUNDRED;mTWO HUNDRED;nHREE HUNDRED",
  "mFOUR HUNDRED;nIVE HUNDRED;mSIX HUNDRED;nEVEN HUNDRED;mEIGHT HUNDRED;mNINE HUNDRED",
  "fFRACTION ONE HALF;sQUARTER;sTHIRD;oTWO THIRDS;+1;aYEZIDI LETTER ELIF;oBE;oPE;pHE;oTHE;oSE",
  "oCIM;pHIM;qHIM;oHHA;oXA;oDAL;oZAL;oRA;pHA;oZA;oJA;oSIN;pHIN;pAD;oDAD;oTA;oZE;oEYN;oXHEYN;oFA",
  "oVA;q ALTERNATE FORM;oQAF;oKAF;pHAF;oGAF;oLAM;oMIM;oNUN;oUM;oWAW;oOW;oEW;oHAY;oYOT;oET;+1",
  "hCOMBINING HAMZA MARK;rMADDA MARK;hHYPHENATION MARK;+2;hLETTER LAM WITH DOT ABOVE",
  "oYOT WITH CIRCUMFLEX ABOVE;+4e;aOLD SOGDIAN LETTER ALEPH;tFINAL ALEPH;tBETH;tFINAL BETH",
  "tGIMEL;tHE;tFINAL HE;tWAW;tZAYIN;tHETH;tYODH;tKAPH;tLAMEDH;tMEM;tNUN;tFINAL NUN",
  "C WITH VERTICAL TAIL;tSAMEKH;tAYIN;uLTERNATE AYIN;tPE;tSADHE;tFINAL SADHE",
  "E WITH VERTICAL TAIL;tRESH-AYIN-DALETH;tSHIN;tTAW;tFINAL TAW;C WITH VERTICAL TAIL",
  "mNUMBER ONE;tTWO;uHREE;tFOUR;uIVE;tTEN;uWENTY;uHIRTY;tONE HUNDRED;mFRACTION ONE HALF",
  "mLIGATURE AYIN-DALETH;+8;aSOGDIAN LETTER ALEPH;pBETH;pGIMEL;pHE;pWAW;pZAYIN;pHETH;pYODH",
  "pKAPH;pLAMEDH;pMEM;pNUN;pSAMEKH;pAYIN;pPE;pSADHE;pRESH-AYIN;pSHIN;pTAW;pFETH;pLESH",
  "iINDEPENDENT SHIN;iCOMBINING DOT BELOW;sTWO DOTS BELOW;sDOT ABOVE;sTWO DOTS ABOVE",
  "sCURVE ABOVE;yBELOW;sHOOK ABOVE;xBELOW;sLONG HOOK BELOW;sRESH BELOW;sSTROKE BELOW",
  "iNUMBER ONE;pTEN;qWENTY;pONE HUNDRED;iPUNCTUATION TWO VERTICAL BARS;L WITH DOTS",
  "uCIRCLE WITH DOT;uTWO CIRCLES WITH DOTS;uHALF CIRCLE WITH DOT;+16;aOLD UYGHUR LETTER ALEPH",
  "sBETH;sGIMEL-HETH;sWAW;sZAYIN;sFINAL HETH;sYODH;sKAPH;sLAMEDH;sMEM;sNUN;sSAMEKH;sPE;sSADHE",
  "sRESH;sSHIN;sTAW;sLESH;lCOMBINING DOT ABOVE;zBELOW;vTWO DOTS ABOVE;EBELOW;lPUNCTUATION BAR",
  "xTWO BARS;BDOTS;xFOUR DOTS;+26;aCHORASMIAN LETTER ALEPH;sSMALL ALEPH;sBETH;sGIMEL;sDALETH",
  "sHE;sWAW;sCURLED WAW;sZAYIN;sHETH;sYODH;sKAPH;sLAMEDH;sMEM;sNUN;sSAMEKH;sAYIN;sPE;sRESH",
  "sSHIN;sTAW;lNUMBER ONE;sTWO;tHREE;sFOUR;sTEN;tWENTY;sONE HUNDRED;+14;aELYMAIC LETTER ALEPH",
  "pBETH;pGIMEL;pDALETH;pHE;pWAW;pZAYIN;pHETH;pTETH;pYODH;pKAPH;pLAMEDH;pMEM;pNUN;pSAMEKH;pAYIN",
  "pPE;pSADHE;pQOPH;pRESH;pSHIN;pTAW;jIGATURE ZAYIN-YODH;+9;aBRAHMI SIGN CANDRABINDU;mANUSVARA",
  "mVISARGA;mJIHVAMULIYA;mUPADHMANIYA;hLETTER A;pA;oI;pI;oU;pU;oVOCALIC R;xR;wL;xL;oE;oAI;oO",
  "oAU;oKA;pHA;oGA;pHA;oNGA;oCA;pHA;oJA;pHA;oNYA;oTTA;qHA;oDDA;qHA;oNNA;oTA;pHA;oDA;pHA;oNA;oPA",
  "pHA;oBA;pHA;oMA;oYA;oRA;oLA;oVA;oSHA;pSA;pA;oHA;oLLA;oOLD TAMIL LLLA;yRRA;yNNNA",
  "hVOWEL SIGN AA;sBHATTIPROLU AA;sI;tI;sU;tU;sVOCALIC R;BR;AL;BL;sE;sAI;sO;sAU;iIRAMA;hDANDA",
  "iOUBLE DANDA;hPUNCTUATION DOT;vUBLE DOT;tLINE;tCRESCENT BAR;tLOTUS;+4;hNUMBER ONE;oTWO;pHREE",
  "oFOUR;pIVE;oSIX;pEVEN;oEIGHT;oNINE;oTEN;pWENTY;pHIRTY;oFORTY;pIFTY;oSIXTY;pEVENTY;oEIGHTY",
  "oNINETY;oONE HUNDRED;sTHOUSAND;hDIGIT ZERO;nONE;nTWO;oHREE;nFOUR;oIVE;nSIX;oEVEN;nEIGHT",
  "nNINE;hSIGN OLD TAMIL VIRAMA;hLETTER OLD TAMIL SHORT E;EO;hVOWEL SIGN OLD TAMIL SHORT E;IO",
  "hLETTER OLD TAMIL LLA;+9;hNUMBER JOINER;aKAITHI SIGN CANDRABINDU;mANUSVARA;mVISARGA",
  "hLETTER A;pA;oI;pI;oU;pU;oE;oAI;oO;oAU;oKA;pHA;oGA;pHA;oNGA;oCA;pHA;oJA;pHA;oNYA;oTTA;qHA",
  "oDDA;qDHA;qHA;oRHA;oNNA;oTA;pHA;oDA;pHA;oNA;oPA;pHA;oBA;pHA;oMA;oYA;oRA;oLA;oVA;oSHA;pSA;pA",
  "oHA;hVOWEL SIGN AA;sI;tI;sU;tU;sE;sAI;sO;sAU;hSIGN VIRAMA;mNUKTA;hABBREVIATION SIGN",
  "hENUMERATION SIGN;hNUMBER SIGN;hSECTION MARK;hDOUBLE SECTION MARK;iANDA;iOUBLE DANDA",
  "hVOWEL SIGN VOCALIC R;+a;hNUMBER SIGN ABOVE;+2;aSORA SOMPENG LETTER SAH;uTAH;uBAH;uCAH;uDAH",
  "uGAH;uMAH;uNGAH;uLAH;uNAH;uVAH;uPAH;uYAH;uRAH;uHAH;uKAH;uJAH;uNYAH;uAH;uEEH;uIH;uUH;uOH;uEH",
  "uMAE;+7;nDIGIT ZERO;tONE;tTWO;uHREE;tFOUR;uIVE;tSIX;uEVEN;tEIGHT;tNINE;+6",
  "aCHAKMA SIGN CANDRABINDU;mANUSVARA;mVISARGA;hLETTER AA;oI;oU;oE;oKAA;pHAA;oGAA;pHAA;oNGAA",
  "oCAA;pHAA;oJAA;pHAA;oNYAA;oTTAA;qHAA;oDDAA;qHAA;oNNAA;oTAA;pHAA;oDAA;pHAA;oNAA;oPAA;pHAA",
  "oBAA;pHAA;oMAA;oYYAA;pAA;oRAA;oLAA;oWAA;oSAA;oHAA;hVOWEL SIGN A;sI;tI;sU;tU;sE;sAI;sO;sAU",
  "sOI;hO MARK;hAU MARK;hVIRAMA;hMAAYYAA;+1;hDIGIT ZERO;nONE;nTWO;oHREE;nFOUR;oIVE;nSIX;oEVEN",
  "nEIGHT;nNINE;hSECTION MARK;hDANDA;iOUBLE DANDA;hQUESTION MARK;hLETTER LHAA;hVOWEL SIGN AA",
  "sEI;hLETTER VAA;+8;aMAHAJANI LETTER A;qI;qU;qE;qO;qKA;rHA;qGA;rHA;qCA;rHA;qJA;rHA;qNYA;qTTA",
  "sHA;qDDA;sHA;qNNA;qTA;rHA;qDA;rHA;qNA;qPA;rHA;qBA;rHA;qMA;qRA;qLA;qVA;qSA;qHA;qRRA",
  "jSIGN NUKTA;jABBREVIATION SIGN;jSECTION MARK;jLIGATURE SHRI;+9;aSHARADA SIGN CANDRABINDU",
  "nANUSVARA;nVISARGA;iLETTER A;qA;pI;qI;pU;qU;pVOCALIC R;yR;xL;yL;pE;pAI;pO;pAU;pKA;qHA;pGA",
  "qHA;pNGA;pCA;qHA;pJA;qHA;pNYA;pTTA;rHA;pDDA;rHA;pNNA;pTA;qHA;pDA;qHA;pNA;pPA;qHA;pBA;qHA;pMA",
  "pYA;pRA;pLA;qLA;pVA;pSHA;qSA;qA;pHA;iVOWEL SIGN AA;tI;uI;tU;uU;tVOCALIC R;CR;BL;CL;tE;tAI;tO",
  "tAU;iSIGN VIRAMA;nAVAGRAHA;nJIHVAMULIYA;nUPADHMANIYA;iOM;iDANDA;jOUBLE DANDA",
  "iABBREVIATION SIGN;iSEPARATOR;jANDHI MARK;jIGN NUKTA;iVOWEL MODIFIER MARK",
  "iEXTRA SHORT VOWEL MARK;iSUTRA MARK;iVOWEL SIGN PRISHTHAMATRA E;iSIGN INVERTED CANDRABINDU",
  "iDIGIT ZERO;oONE;oTWO;pHREE;oFOUR;pIVE;oSIX;pEVEN;oEIGHT;oNINE;iEKAM;iSIGN SIDDHAM",
  "iHEADSTROKE;iCONTINUATION SIGN;iSECTION MARK-1;v2;+1;bINHALA ARCHAIC DIGIT ONE;wTWO;xHREE",
  "wFOUR;xIVE;wSIX;xEVEN;wEIGHT;wNINE;qNUMBER TEN;yWENTY;yHIRTY;xFORTY;yIFTY;xSIXTY;yEVENTY",
  "xEIGHTY;xNINETY;xONE HUNDRED;BTHOUSAND;+b;aKHOJKI LETTER A;pA;oI;oU;oE;oAI;oO;oAU;oKA;pHA",
  "oGA;pGA;pHA;oNGA;oCA;pHA;oJA;pJA;+1;oNYA;oTTA;qHA;oDDA;qHA;oNNA;oTA;pHA;oDA;pDDA;pHA;oNA;oPA",
  "pHA;oBA;pBA;pHA;oMA;oYA;oRA;oLA;oVA;oSA;oHA;oLLA;hVOWEL SIGN AA;sI;tI;sU;sE;sAI;sO;sAU",
  "hSIGN ANUSVARA;mVIRAMA;mNUKTA;mSHADDA;hDANDA;iOUBLE DANDA;hWORD SEPARATOR;hSECTION MARK",
  "hDOUBLE SECTION MARK;hABBREVIATION SIGN;hSIGN SUKUN;+41;aMULTANI LETTER A;pI;pU;pE;pKA;qHA",
  "pGA;+1;qHA;+1;pCA;qHA;pJA;qJA;+1;pNYA;pTTA;rHA;pDDA;rDA;rHA;pNNA;pTA;qHA;pDA;qHA;pNA;pPA;qHA",
  "pBA;+1;qHA;pMA;pYA;pRA;pLA;pVA;pSA;pHA;pRRA;qHA;iSECTION MARK;+6;aKHUDAWADI LETTER A;sA;rI",
  "sI;rU;sU;rE;rAI;rO;rAU;rKA;sHA;rGA;sGA;sHA;rNGA;rCA;sHA;rJA;sJA;sHA;rNYA;rTTA;tHA;rDDA;tDA",
  "rRRA;rDDHA;rNNA;rTA;sHA;rDA;sHA;rNA;rPA;sHA;rBA;sBA;sHA;rMA;rYA;rRA;rLA;rVA;rSHA;sA;rHA",
  "kSIGN ANUSVARA;kVOWEL SIGN AA;vI;wI;vU;wU;vE;vAI;vO;vAU;kSIGN NUKTA;pVIRAMA;+5;kDIGIT ZERO",
  "qONE;qTWO;rHREE;qFOUR;rIVE;qSIX;rEVEN;qEIGHT;qNINE;+6;aGRANTHA SIGN COMBINING ANUSVARA ABOVE",
  "oANDRABINDU;nANUSVARA;nVISARGA;+1;iLETTER A;qA;pI;qI;pU;qU;pVOCALIC R;xL;+2;pEE;pAI;+2;pOO",
  "pAU;pKA;qHA;pGA;qHA;pNGA;pCA;qHA;pJA;qHA;pNYA;pTTA;rHA;pDDA;rHA;pNNA;pTA;qHA;pDA;qHA;pNA;+1",
  "pPA;qHA;pBA;qHA;pMA;pYA;pRA;+1;pLA;qLA;+1;pVA;pSHA;qSA;qA;pHA;+1;aCOMBINING BINDU BELOW",
  "aGRANTHA SIGN NUKTA;nAVAGRAHA;iVOWEL SIGN AA;tI;uI;tU;uU;tVOCALIC R;CR;+2;tEE;tAI;+2;tOO;tAU",
  "iSIGN VIRAMA;+2;iOM;+6;iAU LENGTH MARK;+5;iSIGN PLUTA;iLETTER VEDIC ANUSVARA",
  "vDOUBLE ANUSVARA;qOCALIC RR;xLL;iVOWEL SIGN VOCALIC L;CL;+2;aCOMBINING GRANTHA DIGIT ZERO",
  "yONE;yTWO;zHREE;yFOUR;zIVE;ySIX;+3;sLETTER A;zKA;zNA;zVI;zPA;+8b;aNEWA LETTER A;nA;mI;nI;mU",
  "nU;mVOCALIC R;vR;uL;vL;mE;mAI;mO;mAU;mKA;nHA;mGA;nHA;mNGA;oHA;mCA;nHA;mJA;nHA;mNYA;oHA;mTTA",
  "oHA;mDDA;oHA;mNNA;mTA;nHA;mDA;nHA;mNA;nHA;mPA;nHA;mBA;nHA;mMA;nHA;mYA;mRA;nHA;mLA;nHA;mWA",
  "mSHA;nSA;nA;mHA;fVOWEL SIGN AA;qI;rI;qU;rU;qVOCALIC R;zR;yL;zL;qE;qAI;qO;qAU;fSIGN VIRAMA",
  "kCANDRABINDU;kANUSVARA;kVISARGA;kNUKTA;kAVAGRAHA;kFINAL ANUSVARA;fOM;fSIDDHI;fDANDA",
  "gOUBLE DANDA;fCOMMA;fGAP FILLER;fABBREVIATION SIGN;fDIGIT ZERO;lONE;lTWO;mHREE;lFOUR;mIVE",
  "lSIX;mEVEN;lEIGHT;lNINE;gOUBLE COMMA;fPLACEHOLDER MARK;+1;fINSERTION SIGN;fSANDHI MARK",
  "fLETTER VEDIC ANUSVARA;fSIGN JIHVAMULIYA;kUPADHMANIYA;+1e;aTIRHUTA ANJI;iLETTER A;qA;pI;qI",
  "pU;qU;pVOCALIC R;yR;xL;yL;pE;pAI;pO;pAU;pKA;qHA;pGA;qHA;pNGA;pCA;qHA;pJA;qHA;pNYA;pTTA;rHA",
  "pDDA;rHA;pNNA;pTA;qHA;pDA;qHA;pNA;pPA;qHA;pBA;qHA;pMA;pYA;pRA;pLA;pVA;pSHA;qSA;qA;pHA",
  "iVOWEL SIGN AA;tI;uI;tU;uU;tVOCALIC R;CR;BL;CL;tE;tSHORT E;tAI;tO;tSHORT O;tAU",
  "iSIGN CANDRABINDU;nANUSVARA;nVISARGA;pRAMA;nNUKTA;nAVAGRAHA;iGVANG;iABBREVIATION SIGN;iOM;+8",
  "iDIGIT ZERO;oONE;oTWO;pHREE;oFOUR;pIVE;oSIX;pEVEN;oEIGHT;oNINE;+a6;aSIDDHAM LETTER A;qA;pI",
  "qI;pU;qU;pVOCALIC R;yR;xL;yL;pE;pAI;pO;pAU;pKA;qHA;pGA;qHA;pNGA;pCA;qHA;pJA;qHA;pNYA;pTTA",
  "rHA;pDDA;rHA;pNNA;pTA;qHA;pDA;qHA;pNA;pPA;qHA;pBA;qHA;pMA;pYA;pRA;pLA;pVA;pSHA;qSA;qA;pHA",
  "iVOWEL SIGN AA;tI;uI;tU;uU;tVOCALIC R;CR;+2;tE;tAI;tO;tAU;iSIGN CANDRABINDU;nANUSVARA",
  "nVISARGA;pRAMA;nNUKTA;nSIDDHAM;iDANDA;jOUBLE DANDA;iSEPARATOR DOT;sBAR;iREPETITION MARK-1;y2",
  "y3;iEND OF TEXT MARK;iSECTION MARK WITH TRIDENT AND U-SHAPED ORNAMENTS;MDOTTED CRESCENTS",
  "ARAYS AND DOTTED CRESCENTS;QDOUBLE CRESCENTS;QTRIPLE CRESCENTS;vDOUBLE RING;G WITH RAYS",
  "vWITH DOUBLE CRESCENTS;ATRIPLE CRESCENTS;AQUADRUPLE CRESCENTS;ASEPTUPLE CRESCENTS",
  "ACIRCLES AND RAYS;MTWO ENCLOSURES;MFOUR ENCLOSURES;iLETTER THREE-CIRCLE ALTERNATE I",
  "qWO-CIRCLE ALTERNATE I;LI;pALTERNATE U;iVOWEL SIGN ALTERNATE U;EU;+22;aMODI LETTER A;nA;mI",
  "nI;mU;nU;mVOCALIC R;vR;uL;vL;mE;mAI;mO;mAU;mKA;nHA;mGA;nHA;mNGA;mCA;nHA;mJA;nHA;mNYA;mTTA",
  "oHA;mDDA;oHA;mNNA;mTA;nHA;mDA;nHA;mNA;mPA;nHA;mBA;nHA;mMA;mYA;mRA;mLA;mVA;mSHA;nSA;nA;mHA",
  "mLLA;fVOWEL SIGN AA;qI;rI;qU;rU;qVOCALIC R;zR;yL;zL;qE;qAI;qO;qAU;fSIGN ANUSVARA;kVISARGA",
  "mRAMA;kARDHACANDRA;fDANDA;gOUBLE DANDA;fABBREVIATION SIGN;fSIGN HUVA;+b;fDIGIT ZERO;lONE",
  "lTWO;mHREE;lFOUR;mIVE;lSIX;mEVEN;lEIGHT;lNINE;+6;cNGOLIAN BIRGA WITH ORNAMENT;kROTATED BIRGA",
  "kDOUBLE BIRGA WITH ORNAMENT;kTRIPLE BIRGA WITH ORNAMENT;kBIRGA WITH DOUBLE ORNAMENT",
  "kROTATED BIRGA WITH ORNAMENT;DDOUBLE ORNAMENT;kINVERTED BIRGA;y WITH DOUBLE ORNAMENT",
  "kSWIRL BIRGA;v WITH ORNAMENT;BDOUBLE ORNAMENT;kTURNED SWIRL BIRGA WITH DOUBLE ORNAMENT;+13",
  "aTAKRI LETTER A;oA;nI;oI;nU;oU;nE;nAI;nO;nAU;nKA;oHA;nGA;oHA;nNGA;nCA;oHA;nJA;oHA;nNYA;nTTA",
  "pHA;nDDA;pHA;nNNA;nTA;oHA;nDA;oHA;nNA;nPA;oHA;nBA;oHA;nMA;nYA;nRA;nLA;nVA;nSHA;oA;nHA;nRRA",
  "gSIGN ANUSVARA;lVISARGA;gVOWEL SIGN AA;rI;sI;rU;sU;rE;rAI;rO;rAU;gSIGN VIRAMA;lNUKTA",
  "gLETTER ARCHAIC KHA;gABBREVIATION SIGN;+6;gDIGIT ZERO;mONE;mTWO;nHREE;mFOUR;nIVE;mSIX;nEVEN",
  "mEIGHT;mNINE;+36;aAHOM LETTER KA;nHA;mNGA;nA;mTA;mALTERNATE TA;mPA;nHA;mBA;mMA;mJA;mCHA;mTHA",
  "mRA;mLA;mSA;mNYA;mHA;mA;mDA;nHA;mGA;mALTERNATE GA;mGHA;mBHA;mJHA;mALTERNATE BA;+2",
  "fCONSONANT SIGN MEDIAL LA;BRA;BLIGATING RA;fVOWEL SIGN A;rA;qI;rI;qU;rU;qE;qAW;qO;qAI;rM",
  "fSIGN KILLER;+4;fDIGIT ZERO;lONE;lTWO;mHREE;lFOUR;mIVE;lSIX;mEVEN;lEIGHT;lNINE;fNUMBER TEN",
  "nWENTY;fSIGN SMALL SECTION;lECTION;kRULAI;gYMBOL VI;fLETTER CA;mTTA;oHA;mDDA;oHA;mNNA;mLLA",
  "+b9;aDOGRA LETTER A;oA;nI;oI;nU;oU;nE;nAI;nO;nAU;nKA;oHA;nGA;oHA;nNGA;nCA;oHA;nJA;oHA;nNYA",
  "nTTA;pHA;nDDA;pHA;nNNA;nTA;oHA;nDA;oHA;nNA;nPA;oHA;nBA;oHA;nMA;nYA;nRA;nLA;nVA;nSHA;oSA;oA",
  "nHA;nRRA;gVOWEL SIGN AA;rI;sI;rU;sU;rVOCALIC R;AR;rE;rAI;rO;rAU;gSIGN ANUSVARA;lVISARGA",
  "nRAMA;lNUKTA;gABBREVIATION SIGN;+64;aWARANG CITI CAPITAL LETTER NGAA;BA;BWI;BYU;CA;CO;BII",
  "BUU;BE;BO;BANG;BGA;BKO;BENY;BYUJ;BUC;BENN;BODD;BTTE;BNUNG;BDA;BAT;CM;BBU;BPU;BHIYO;COLO;DRR",
  "CAR;BSSUU;CII;BVIYO;mSMALL LETTER NGAA;zA;zWI;zYU;AA;AO;zII;zUU;zE;zO;zANG;zGA;zKO;zENY;zYUJ",
  "zUC;zENN;zODD;zTTE;zNUNG;zDA;zAT;AM;zBU;zPU;zHIYO;AOLO;BRR;AAR;zSSUU;AII;zVIYO;mDIGIT ZERO",
  "sONE;sTWO;tHREE;sFOUR;tIVE;sSIX;tEVEN;sEIGHT;sNINE;mNUMBER TEN;uWENTY;uHIRTY;tFORTY;uIFTY",
  "tSIXTY;uEVENTY;tEIGHTY;tNINETY;+c;mOM;aDIVES AKURU LETTER A;uA;tI;uI;tU;uU;tE;+2;tO;+2;tKA",
  "uHA;tGA;uHA;tNGA;tCA;uHA;tJA;+1;tNYA;tTTA;+1;tDDA;vHA;tNNA;tTA;uHA;tDA;uHA;tNA;tPA;uHA;tBA",
  "uHA;tMA;tYA;uYA;tRA;tLA;tVA;tSHA;uSA;uA;tHA;tLLA;tZA;mVOWEL SIGN AA;xI;yI;xU;yU;xE;+1;xAI;xO",
  "+2;mSIGN ANUSVARA;rCANDRABINDU;rHALANTA;mVIRAMA;mPREFIXED NASAL SIGN;mMEDIAL YA;mINITIAL RA",
  "mMEDIAL RA;mSIGN NUKTA;mDOUBLE DANDA;mGAP FILLER;mEND OF TEXT MARK;+9;mDIGIT ZERO;sONE;sTWO",
  "tHREE;sFOUR;tIVE;sSIX;tEVEN;sEIGHT;sNINE;+46;aNANDINAGARI LETTER A;uA;tI;uI;tU;uU;tVOCALIC R",
  "CR;+2;tE;tAI;tO;tAU;tKA;uHA;tGA;uHA;tNGA;tCA;uHA;tJA;uHA;tNYA;tTTA;vHA;tDDA;vHA;tNNA;tTA;uHA",
  "tDA;uHA;tNA;tPA;uHA;tBA;uHA;tMA;tYA;tRA;tLA;tVA;tSHA;uSA;uA;tHA;tLLA;tRRA;mVOWEL SIGN AA;xI",
  "yI;xU;yU;xVOCALIC R;GR;+2;xE;xAI;xO;xAU;mSIGN ANUSVARA;rVISARGA;tRAMA;rAVAGRAHA;rSIDDHAM",
  "mHEADSTROKE;mVOWEL SIGN PRISHTHAMATRA E;+1b;aZANABAZAR SQUARE LETTER A;rVOWEL SIGN I;CUE;D",
  "CE;COE;D;CAI;DU;CREVERSED I;xLENGTH MARK;rLETTER KA;zHA;yGA;zHA;yNGA;yCA;zHA;yJA;yNYA;yTTA",
  "AHA;yDDA;AHA;yNNA;yTA;zHA;yDA;zHA;yNA;yPA;zHA;yBA;zHA;yMA;yTSA;AHA;yDZA;AHA;yZHA;zA;y-A;yYA",
  "yRA;yLA;yVA;ySHA;zSA;zA;yHA;yKSSA;rFINAL CONSONANT MARK;rSIGN VIRAMA;wCANDRABINDU",
  "H WITH ORNAMENT;C WITH ORNAMENT;wANUSVARA;wVISARGA;rCLUSTER-INITIAL LETTER RA",
  "zFINAL LETTER YA;MRA;MLA;MVA;rINITIAL HEAD MARK;rCLOSING HEAD MARK;rMARK TSHEG;wSHAD",
  "wDOUBLE SHAD;wLONG TSHEG;rINITIAL DOUBLE-LINED HEAD MARK;rCLOSING DOUBLE-LINED HEAD MARK",
  "rSUBJOINER;+8;aSOYOMBO LETTER A;iVOWEL SIGN I;tUE;u;tE;tO;uE;tAI;uU;tVOCALIC R;BL",
  "oLENGTH MARK;iLETTER KA;qHA;pGA;qHA;pNGA;pCA;qHA;pJA;qHA;pNYA;pTTA;rHA;pDDA;rHA;pNNA;pTA;qHA",
  "pDA;qHA;pNA;pPA;qHA;pBA;qHA;pMA;pTSA;rHA;pDZA;pZHA;qA;p-A;pYA;pRA;pLA;pVA;pSHA;qSA;qA;pHA",
  "pKSSA;iSIGN JIHVAMULIYA;nUPADHMANIYA;iCLUSTER-INITIAL LETTER RA;FLA;FSHA;GA",
  "iFINAL CONSONANT SIGN G;DK;DNG;DD;DN;DB;DM;DR;DL;DSH;E;D-A;iSIGN ANUSVARA;nVISARGA",
  "iGEMINATION MARK;iSUBJOINER;iMARK TSHEG;nSHAD;nDOUBLE SHAD;nPLUTA",
  "iHEAD MARK WITH MOON AND SUN AND TRIPLE FLAME;OFLAME;J;iTERMINAL MARK-1;w2;+d",
  "aCANADIAN SYLLABICS NATTILIK HI;EI;DO;EO;DA;EA;CSHRI;GI;FO;GO;FA;GA;tSPE;vI;vO;vA",
  "aPAU CIN HAU LETTER PA;tKA;tLA;tMA;tDA;tZA;tVA;tNGA;tHA;tGA;tKHA;tSA;tBA;tCA;tTA;uHA;tNA",
  "tPHA;tRA;tFA;tCHA;tA;tE;tI;tO;tU;uA;tIA;tFINAL P;zK;zT;zM;zN;zL;zW;zNG;zY;mRISING TONE LONG",
  "x;mSANDHI GLOTTAL STOP;mRISING TONE LONG FINAL;yFINAL;mSANDHI GLOTTAL STOP FINAL;tTONE LONG",
  "x;x LONG FINAL;yFINAL;mMID-LEVEL TONE;mGLOTTAL STOP VARIANT;mMID-LEVEL TONE LONG FINAL",
  "BFINAL;mLOW-FALLING TONE LONG;C;mGLOTTAL STOP;mLOW-FALLING TONE LONG FINAL;DFINAL",
  "mGLOTTAL STOP FINAL;+107;aBHAIKSUKI LETTER A;sA;rI;sI;rU;sU;rVOCALIC R;AR;zL;+1;rE;rAI;rO",
  "rAU;rKA;sHA;rGA;sHA;rNGA;rCA;sHA;rJA;sHA;rNYA;rTTA;tHA;rDDA;tHA;rNNA;rTA;sHA;rDA;sHA;rNA;rPA",
  "sHA;rBA;sHA;rMA;rYA;rRA;rLA;rVA;rSHA;sSA;sA;rHA;kVOWEL SIGN AA;vI;wI;vU;wU;vVOCALIC R;ER;DL",
  "+1;vE;vAI;vO;vAU;kSIGN CANDRABINDU;pANUSVARA;pVISARGA;rRAMA;pAVAGRAHA;kDANDA;lOUBLE DANDA",
  "kWORD SEPARATOR;kGAP FILLER-1;v2;+a;kDIGIT ZERO;qONE;qTWO;rHREE;qFOUR;rIVE;qSIX;rEVEN;qEIGHT",
  "qNINE;kNUMBER ONE;rTWO;sHREE;rFOUR;sIVE;rSIX;sEVEN;rEIGHT;rNINE;rTEN;sWENTY;sHIRTY;rFORTY",
  "sIFTY;rSIXTY;sEVENTY;rEIGHTY;rNINETY;kHUNDREDS UNIT MARK;+3;aMARCHEN HEAD MARK;iMARK SHAD",
  "iLETTER KA;qHA;pGA;pNGA;pCA;qHA;pJA;pNYA;pTA;qHA;pDA;pNA;pPA;qHA;pBA;pMA;pTSA;rHA;pDZA;pWA",
  "pZHA;qA;p-A;pYA;pRA;pLA;pSHA;qA;pHA;pA;+2;iSUBJOINED LETTER KA;AHA;zGA;zNGA;zCA;AHA;zJA;zNYA",
  "zTA;AHA;zDA;zNA;zPA;AHA;zBA;zMA;zTSA;BHA;zDZA;zWA;zZHA;AA;+1;zYA;zRA;zLA;zSHA;AA;zHA;zA",
  "iVOWEL SIGN AA;tI;tU;tE;tO;iSIGN ANUSVARA;nCANDRABINDU;+49;cSARAM GONDI LETTER A;wA;vI;wI;vU",
  "wU;vE;+1;vAI;vO;+1;vAU;vKA;wHA;vGA;wHA;vNGA;vCA;wHA;vJA;wHA;vNYA;vTTA;xHA;vDDA;xHA;vNNA;vTA",
  "wHA;vDA;wHA;vNA;vPA;wHA;vBA;wHA;vMA;vYA;vRA;vLA;vVA;vSHA;wSA;wA;vHA;vLLA;vKSSA;vJNYA;vTRA",
  "oVOWEL SIGN AA;zI;AI;zU;AU;zVOCALIC R;+3;zE;+1;zAI;zO;+1;zAU;oSIGN ANUSVARA;tVISARGA;tNUKTA",
  "tCANDRA;tHALANTA;oVIRAMA;oREPHA;pA-KARA;+8;oDIGIT ZERO;uONE;uTWO;vHREE;uFOUR;vIVE;uSIX;vEVEN",
  "uEIGHT;uNINE;+6;aGUNJALA GONDI LETTER A;wA;vI;wI;vU;wU;+1;vEE;vAI;+1;vOO;vAU;vYA;vVA;vBA;wHA",
  "vMA;vKA;wHA;vTA;wHA;vLA;vGA;wHA;vDA;wHA;vNA;vCA;wHA;vTTA;xHA;vLLA;vJA;wHA;vDDA;xHA;vNGA;vPA",
  "wHA;vHA;vRA;vSA;oVOWEL SIGN AA;zI;AI;zU;AU;+1;zEE;zAI;+1;zOO;zAU;oSIGN ANUSVARA;tVISARGA",
  "oVIRAMA;oOM;+7;oDIGIT ZERO;uONE;uTWO;vHREE;uFOUR;vIVE;uSIX;vEVEN;uEIGHT;uNINE;+136",
  "aMAKASAR LETTER KA;pGA;pNGA;pPA;pBA;pMA;pTA;pDA;pNA;pCA;pJA;pNYA;pYA;pRA;pLA;pVA;pSA;pA",
  "iANGKA;iVOWEL SIGN I;tU;tE;tO;iPASSIMBANG;iEND OF SECTION;+b7;aLISU LETTER YHA;+f",
  "aTAMIL FRACTION ONE THREE-HUNDRED-AND-TWENTIETH;tONE-HUNDRED-AND-SIXTIETH;tEIGHTIETH",
  "tSIXTY-FOURTH;tFORTIETH;tTHIRTY-SECOND;pTHREE EIGHTIETHS;vSIXTY-FOURTHS;pONE TWENTIETH",
  "tSIXTEENTH-1;D2;tTENTH;tEIGHTH;pTHREE TWENTIETHS;vSIXTEENTHS;pONE FIFTH;tQUARTER;tHALF-1;y2",
  "pTHREE QUARTERS;pDOWNSCALING FACTOR KIIZH;gSIGN NEL;lCEVITU;lAAZHAAKKU;lUZHAKKU;lMUUVUZHAKKU",
  "lKURUNI;lPATHAKKU;lMUKKURUNI;lKAACU;lPANAM;mON;lVARAAKAN;lPAARAM;lKUZHI;lVELI",
  "gWET CULTIVATION SIGN;gDRY CULTIVATION SIGN;gLAND SIGN;gSALT PAN SIGN",
  "gTRADITIONAL CREDIT SIGN;sNUMBER SIGN;gCURRENT SIGN;gAND ODD SIGN;gSPENT SIGN;gTOTAL SIGN",
  "gIN POSSESSION SIGN;gSTARTING FROM SIGN;hIGN MUTHALIYA;lVAKAIYARAA;+d",
  "gPUNCTUATION END OF TEXT;aCUNEIFORM SIGN A;q TIMES A;xBAD;xGAN2 TENU;xHA;xIGI;xLAGAR GUNU",
  "xMUSH;xSAG;q2;qB;r TIMES ASH2;yDUN3 GUNU;yGAL;AN2 TENU;yHA;yIGI GUNU;zMIN;yLAGAB;ySHESH",
  "yU PLUS U PLUS U;sGUNU;r2;s TIMES BALAG;zGAN2 TENU;zME PLUS EN;zSHA3;zTAK4;qD;qK",
  "r TIMES ERIN2;ySHITA PLUS GISH;qL;r TIMES AL;yDIM2;yGISH;yHA;yKAD3;zI;ySHE;yUSH;rAN;rEPH",
  "qMAR;t TIMES SHE;qN;r OVER AN;sTHREE TIMES;sPLUS NAGA OPPOSING AN PLUS NAGA;CSQUARED;rSHE",
  "qPIN;qRAD;t TIMES KUR;rKAB;qSAL2;rH;s ZIDA TENU;tKABA TENU",
  "tOVER ASH TUG2 OVER TUG2 TUG2 OVER TUG2 PAP;COVER ASH;K CROSSING ASH OVER ASH OVER ASH;s2",
  "sGAB;pBA;rD;rG3;rHAR2;rL;s OVER BAL;sAG;rR;sA2;qI;r TIMES A;yGAR;yIGI GUNU;qU;r OVER BU AB",
  "AUN;sCROSSING BU;rLUG;u OVER BULUG;rR;s2;pDA;rG;s KISIM5 TIMES A PLUS MASH;HMAR;GBALAG;HI",
  "GGA;I PLUS MASH;HI;IR2;HUD;GHA;GIR;I PLUS LU;GKAK;GLA;HU;I PLUS MASH2;IM;GNE;GPAP PLUS PAP",
  "GSI;GTAK4;GU2 PLUS GIR2;HSH;rM;rR;sA3;t4;qI;rB;rM;s TIMES SHE;s2;rN;s KASKAL U GUNU DISH;rSH",
  "qU;r OVER DU;sGUNU;sSHESHIG;rB;s TIMES ESH2;s2;rG;sUD;rH;rN;s3;t GUNU;y GUNU;s4;rR2;pE",
  "q TIMES PAP;rOVER E NUN OVER NUN;q2;r TIMES A PLUS HA PLUS DA;yGAR;yMI;ySAL;zHE;yU;qDIN;qGIR",
  "qL;qN;r TIMES GAN2;C TENU;yME;sCROSSING EN;sOPPOSING EN;sSQUARED;qREN;rIN2;qSH2;qZEN",
  "t TIMES A;B PLUS LAL;K TIMES LAL;BN;ABAD;ADUN3 GUNU;J GUNU;AHA;C GUNU;AIGI GUNU;AKASKAL",
  "G SQUARED;BU3;ALA;CL TIMES LAL;BI;BU;AU2;BD;pGA;r GUNU;r2;s TIMES A PLUS DA PLUS HA;GHA;GIGI",
  "AB2 TENU PLUS TAB;AN;ASH;C2 PLUS GAL;zBAD;BR PLUS RA;AUR;C PLUS RA;zDA;AI;BM TIMES SHE;AUB",
  "zEL;B PLUS LA;AN;B TIMES GAN2 TENU;zGAN2 TENU;BR;AI;B4;C PLUS A;BR2 PLUS SU",
  "zHA PLUS LU PLUS ESH2;BL;C PLUS LA;AI PLUS LI;AUB2;zIGI GUNU;ASH PLUS HU PLUS ASH;zKAK;BSKAL",
  "AID;C PLUS LAL;AU3 PLUS AN;zLA;zME PLUS EN;AI;zNUN;C OVER NUN;zPA;zSAL;BR;AHE;C PLUS TUR;BID",
  "AUM;zTAK4;zU;AD;B PLUS DU;tOVER GA2;rBA;t CROSSING GABA;rD;s OVER GAD GAR OVER GAR;rL",
  "s GAD OVER GAD GAR OVER GAR;sAM;rM;rN;s2;t TENU;uOVER GAN2;uCROSSING GAN2;rR;s3;rSHAN",
  "qESHTIN;w TIMES KUR;qI;r TIMES E;yU;sCROSSING GI;r4;s OVER GI4;tCROSSING GI4;rDIM;rR2;t GUNU",
  "s3;t TIMES A PLUS IGI;AGAN2 TENU;AIGI;ALU PLUS IGI;APA;rSAL;sH;t CROSSING GISH;uTIMES BAD",
  "ATAK4;vENU;qU;r CROSSING GU;r2;s TIMES KAK;C TIMES IGI GUNU;zNUN;zSAL PLUS TUG2;tGUNU;rD",
  "s TIMES A PLUS KUR;zKUR;tOVER GUD LUGAL;rL;rM;s TIMES SHE;rR;s7;sUN;tSH;pHA;r TENU;sGUNU;rL",
  "qI;r TIMES ASH;B2;yBAD;yDISH;yGAD;yKIN;yNUN;ySHE;yU;qU;rB2;t TIMES AN;AHAL;AKASKAL;ALISH;AUD",
  "rL2;pI;q A;qB;qDIM;t OVER IDIM BUR;ESQUARED;qG;rI;s DIB;tRI",
  "tOVER IGI SHIR OVER SHIR UD OVER UD;tGUNU;qL;r TIMES GAN2 TENU;r2;qM;r TIMES TAK4",
  "sCROSSING IM;sOPPOSING IM;sSQUARED;rIN;qN;qR;qSH;pKA;r TIMES A;zD;A PLUS KU3;zSH2;yBAD;ALAG",
  "AR;zI;yERIN2;zSH2;yGA;AL;AN2 TENU;AR;B PLUS SHA3 PLUS A;zI;AR2;ASH PLUS SAR;DCROSSING GISH",
  "zU;AR7;yIGI;zM;yKAK;zI;AD;yLI;zU;yME;A PLUS DU;GGI;GTE;zI;A PLUS NUNUZ;yNE;zUN;yPI;yRU;ySA",
  "AR;zHA;AE;AID;AU;zIG;zUHUR;yTAR;yU;z2;zD;zMUM TIMES PA;zSH;yZI;r2;s CROSSING KA2;rB;rD2;s3",
  "s4;s5;t OVER KAD5;rK;s TIMES IGI GUNU;rL;s TIMES BAD;tCROSSING KAL;rM2;s4;rSKAL",
  "v LAGAB TIMES U OVER LAGAB TIMES U;wOVER KASKAL LAGAB TIMES U OVER LAGAB TIMES U;qESH2;qI",
  "r TIMES BAD;yU;zD;rD;rN;rSAL;sH;sIM5;v OVER KISIM5;qU",
  "r OVER HI TIMES ASH2 KU OVER HI TIMES ASH2;r3;r4;s VARIANT FORM;r7;rL;s GUNU;rN;rR",
  "s OPPOSING KUR;rSHU2;qWU318;pLA;rGAB;u TIMES A;C PLUS DA PLUS HA;IGAR;ILAL;CL;CN",
  "CSH ZIDA TENU;BBAD;CI;BDAR;BEN;BGA;DR;CUD;E PLUS GUD;BHA;DL;CI TIMES NUN;BIGI GUNU;CM",
  "D PLUS HA;JLU;BKI;DN;CU3;DL;E PLUS HI PLUS A;BLAGAB;CISH;CU;DL;BME;D PLUS EN;CUSH;BNE",
  "BSHE PLUS SUM;DITA PLUS GISH PLUS ERIN2;RTENU;DU2;F PLUS SHU2;CUM;BTAG;DK4",
  "CE PLUS A PLUS SU PLUS NA;BU;C PLUS A;IU PLUS U;C2 PLUS ASH;CD;CSH;vSQUARED;tR;u TIMES SHE",
  "E PLUS SUM;vGUNU;z OVER LAGAR GUNU SHE;rHSHU;rL;s TIMES LAL;rM;s TIMES KUR;C PLUS RU;qI;rL",
  "rMMU2;rSH;qU;r TIMES BAD;r2;s TIMES AL;zBAD;zESH2;D TENU;zGAN2 TENU;zHI TIMES BAD;zIM;zKAD2",
  "C3;D PLUS ASH;AI;zLA PLUS ASH;BGAB;zME PLUS EN;zNE;AU;zSI PLUS ASH;BK2 PLUS BU;zTUG2;uENU",
  "tCROSSING LU2;tOPPOSING LU2;tSQUARED;uHESHIG;r3;rGAL;u OVER LUGAL;wPPOSING LUGAL;vSHESHIG;rH",
  "rL;rM;s OVER LUM;B GAR OVER GAR;pMA;r TIMES TAK4;sGUNU;r2;rH;rR;rSH;t2;qE;rS;qI;rN;qU",
  "r OVER MU;rG;s GUNU;rNSUB;rRGU2;rSH;t TIMES A;AKUR;AZA;uOVER MUSH;D TIMES A PLUS NA",
  "uCROSSING MUSH;t3;u TIMES A;C PLUS DI;BDI;vGUNU;pNA;r2;rGA;t INVERTED;uTIMES SHU TENU",
  "uOPPOSING NAGA;tR;rM NUTILLU;s;s2;qE;r TIMES A;yUD;sSHESHIG;qI;r TIMES E;r2;rM",
  "s TIMES GAN2 TENU;BR PLUS GAN2 TENU;rNDA2;v TIMES AN;DSH;F PLUS ASH;CGUD;CME PLUS GAN2 TENU",
  "CNE;DUN;CSHE;F PLUS A AN;MSH;O PLUS ASH;CU2 PLUS ASH;DSH;rSAG;qU;r11;rN;s LAGAR TIMES GAR",
  "FMASH;FSAL;I OVER NUN LAGAR TIMES SAL;FUSH;tTENU;tOVER NUN;tCROSSING NUN;F LAGAR OVER LAGAR",
  "sUZ;u AB2 TIMES ASHGAB;FBI;FDUG;FGUD;FIGI GUNU;FKAD3;FLA;FNE;FSILA3;FU2;vKISIM5 TIMES BI;K U",
  "pPA;rD;rN;rP;qESH2;qI;r TIMES A;zB;yBI;zU;yE;yI;zB;yU;z2;sCROSSING PI;rRIG;u TIMES KAL;BUD",
  "BZA;vOPPOSING PIRIG;pRA;rB;qI;qU;pSA;rG NUTILLU;s;s TIMES A;zDU;BB;zHA;zKAK;AUR;zLUM;zMI",
  "zNUN;zSAL;AHID;zTAB;zU2;AB;AM;AR;ASH;tOVER SAG;tGUNU;rL;s LAGAB TIMES ASH2;rNGA2;rR;qHA;s3",
  "t TIMES A;ABAD;AGISH;ANE;ASHU2;ATUR;AU;B PLUS A;s6;sB6;sR2;rE;s HU",
  "tOVER SHE GAD OVER GAD GAR OVER GAR;CTAB OVER TAB GAR OVER GAR;sG9;sN;sSH;u2;uLAM;rID",
  "t TIMES A;AIM;sM;t TIMES A;ABAL;BULUG;ADIN;AGAR;AIGI;D GUNU;AKUSHU2;ALUL;AMUG;ASAL;sNIG;sR",
  "t TENU;uOVER SHIR BUR OVER BUR;sTA;rU;s OVER INVERTED SHU;s2;sBUR;qI;r GUNU;rG;s4",
  "t OVER SIG4 SHU2;rK2;rLA3;qU;r OVER SU;rD;s2;rHUR;rM;sASH;rR;s9;pTA;r ASTERISK;sTIMES HI;yMI",
  "sGUNU;rB;s OVER TAB NI OVER NI DISH OVER DISH;tSQUARED;rG;s TIMES BI;zGUD;zSHE;BU;zTUG2;zUD",
  "rK4;rR;qE;r GUNU;qI;r TENU;rL;rR;s TIMES TAK4;tOVER TIR;B GAD OVER GAD GAR OVER GAR;qU;rG2",
  "rK;rM;rR;s OVER TUR ZA OVER ZA;pU;q GUD;rU U;rOVER U PA OVER PA GAR OVER GAR;ySUR OVER SUR",
  "yU REVERSED OVER U REVERSED;q2;qB;qD;r KUSHU2;sTIMES BAD;yMI;yU PLUS U PLUS U;N GUNU;sGUNU",
  "sSHESHIG;z TIMES BAD;rUG;qM;r TIMES LAGAB;yME PLUS DA;ySHA3;yU;rBIN;rUM;t TIMES KASKAL;APA",
  "qN;r GUNU;qR;r CROSSING UR;sSHESHIG;r2;s TIMES A PLUS HA;GNA;AL;zHA;zNUN;zU2;B PLUS ASH;HBI",
  "r4;rI;s3;rU;s TIMES A;ASHGAB;zBAR;zDUN;zGA;BL;BN2 TENU;BR;AU;zHA;zIGI;AM;ASH;zKI;zLUM;zMIN",
  "zPA;zSHE;AIG4;zTU;zU PLUS GUD;AD;ARUDA;sDA;u TIMES U;qSH;s TIMES A;zKU;BR;zTAK4;sX;s2;sUMX",
  "qTUKI;qZ3;s TIMES KASKAL;rU;pZA;r TENU;sSQUARED TIMES KUR;rG;rMX;qE2;qI;r OVER ZI;r3;rB",
  "s KABA TENU;rG;rZ2;qU;r5;s TIMES A;rBUR;rM;pKAP ELAMITE;pAB TIMES NUN;r2 TIMES A",
  "qMAR TIMES KUG;pDAG KISIM5 TIMES U2 PLUS MASH;s3;qISH PLUS SHU;qUB TIMES SHE;pEZEN TIMES GUD",
  "ASHE;pGA2 TIMES AN PLUS KAK PLUS A;ASH2;qE22;qIG;pHUSH;pKA TIMES ANSHE;zSH3;yGISH;zUD",
  "yHI TIMES ASH2;yLUM;yPA;ySHUL;yTU;yUR2;pLAGAB TIMES GI;qU2 SHESHIG TIMES BAD",
  "tTIMES ESH2 PLUS LAL;zSHU;pMESH;qUSH3 TIMES ZA;pNA4;qIN;s9;sDA2 TIMES BAL;CGI",
  "qU11 ROTATED NINETY DEGREES;pPESH2 ASTERISK;qIR2;pSAG TIMES IGI GUNU;pTI2;pUM TIMES ME;q U",
  "+66;kNUMERIC SIGN TWO ASH;yHREE ASH;xFOUR ASH;yIVE ASH;xSIX ASH;yEVEN ASH;xEIGHT ASH",
  "xNINE ASH;xTHREE DISH;xFOUR DISH;yIVE DISH;xSIX DISH;yEVEN DISH;xEIGHT DISH;xNINE DISH",
  "xFOUR U;yIVE U;xSIX U;yEVEN U;xEIGHT U;xNINE U;xONE GESH2;xTWO GESH2;yHREE GESH2;xFOUR GESH2",
  "yIVE GESH2;xSIX GESH2;yEVEN GESH2;xEIGHT GESH2;xNINE GESH2;xONE GESHU;xTWO GESHU;yHREE GESHU",
  "xFOUR GESHU;yIVE GESHU;xTWO SHAR2;yHREE SHAR2;I VARIANT FORM;xFOUR SHAR2;yIVE SHAR2"]

def characterNameEntriesF : List String := [
  "xSIX SHAR2;yEVEN SHAR2;xEIGHT SHAR2;xNINE SHAR2;xONE SHARU;xTWO SHARU;yHREE SHARU",
  "I VARIANT FORM;xFOUR SHARU;yIVE SHARU;xSHAR2 TIMES GAL PLUS DISH;SMIN;xONE BURU;xTWO BURU",
  "yHREE BURU;H VARIANT FORM;xFOUR BURU;yIVE BURU;xTHREE VARIANT FORM ESH16;T21",
  "xFOUR VARIANT FORM LIMMU;U4;U A;VB;xSIX VARIANT FORM ASH9;yEVEN VARIANT FORM IMIN3;U A;VB",
  "xEIGHT VARIANT FORM USSU;U3;xNINE VARIANT FORM ILIMMU;V3;V4;V A;xTWO ASH TENU;yHREE ASH TENU",
  "xFOUR ASH TENU;yIVE ASH TENU;xSIX ASH TENU;xONE BAN2;xTWO BAN2;yHREE BAN2;xFOUR BAN2",
  "G VARIANT FORM;yIVE BAN2;G VARIANT FORM;xNIGIDAMIN;DESH;xONE ESHE3;xTWO ESHE3",
  "xONE THIRD DISH;xTWO THIRDS DISH;xFIVE SIXTHS DISH;xONE THIRD VARIANT FORM A",
  "xTWO THIRDS VARIANT FORM A;xONE EIGHTH ASH;BQUARTER ASH;yLD ASSYRIAN ONE SIXTH;OQUARTER",
  "yNE QUARTER GUR;BHALF GUR;xELAMITE ONE THIRD;FTWO THIRDS;FFORTY;GIFTY;xFOUR U VARIANT FORM",
  "yIVE U VARIANT FORM;xSIX U VARIANT FORM;yEVEN U VARIANT FORM;xEIGHT U VARIANT FORM",
  "xNINE U VARIANT FORM;+1;kPUNCTUATION SIGN OLD ASSYRIAN WORD DIVIDER;BVERTICAL COLON",
  "BDIAGONAL COLON;KTRICOLON;KQUADCOLON;+b;kSIGN AB TIMES NUN TENU;ySHU2;qD TIMES ESH2",
  "pBAD TIMES DISH TENU;rHAR2 TIMES AB2;CNI;CZA;qU OVER BU TIMES NA2;pDA TIMES TAK4",
  "rG TIMES KUR;qIM TIMES IGI;zU U U;s2 TIMES UD;qUG TIMES ANSHE;ASH;C AT LEFT;zDIN;AUN;zERIN2",
  "zGA;AI;BR2 GUNU;BSH;zHA;AI;zIGI GUNU;zKASKAL;AUR;BSHU2;F PLUS KASKAL;zLAK-020;BM;C TIMES KUR",
  "AUH PLUS GISH;zMASH;AES;AI;zNI;zPI;zSHE;AI GUNU;pE2 TIMES KUR;yPAP;qRIN2 X",
  "qSH2 CROSSING ESH2;qZEN SHESHIG TIMES ASH;IHI;IIGI GUNU;ILA;KL;IME;KS;ISU;uTIMES SU",
  "pGA2 TIMES BAHAR2;zDIM GUNU;AUG TIMES IGI GUNU;JKASKAL;zEREN;zGA;BR PLUS DI;INE;zHA PLUS A",
  "zKUSHU2 PLUS KASKAL;zLAM;C TIMES KUR;AUH;zMUSH;zNE;B PLUS E2;HGI;zSHIM;zZIZ2",
  "rBA ROTATED NINETY DEGREES;qESHTIN TIMES U;qISH TIMES GISH CROSSING GISH;qU2 TIMES IGI GUNU",
  "rD PLUS GISH TIMES TAK4;pHA TENU GUNU;qI TIMES ASH OVER HI TIMES ASH;pKA TIMES BU;yKA;yU U U",
  "zR;pLAGAB TIMES ZU OVER ZU;rK-003;u21;v5;u30;u50;v1;u62;u79 OVER LAK-079 GUNU;u80",
  "v1 OVER LAK-081;u92;t130;u42;t210;v9;u20;v5;v8;u38;u65;v6;t343;v7;v8;u83;v4;u90;t441;v9",
  "w TIMES GU;DIGI;DPAP PLUS LU3;MPAP PLUS LU3;DU2 PLUS BA;u50;v7;u70;u83;u90;v2;v3;v5;t550",
  "t608;u17;w TIMES ASH;DBAD;DDUN3 GUNU GUNU;DKU3;DLA;DTAR;EE;DU2;ED;ERUDA;u36;u48;w TIMES DUB",
  "DGA;DIGI;G GUNU;DNI;DPAP PLUS PAP PLUS LU3;DSHESH PLUS KI;DUD;ERUDA;t724;u49",
  "qU2 GUNU TIMES ASH;tTIMES DISH;zHAL;zPAP;C PLUS PAP PLUS LU3;zTAK4;pMI PLUS ZA7",
  "qUSH OVER MUSH TIMES GA;KKAK;pNINDA2 TIMES DIM GUNU;CGISH;DUL;CHI;CKESH2;CLAK-050;CMASH",
  "CPAP PLUS PAP;CU;D PLUS U;DRUDA;pSAG GUNU TIMES HA;tTIMES EN;zSHE AT LEFT;zTAK4;qHA6 TENU",
  "rE OVER SHE;tPLUS HUB2;yNAM2;ySAR;rU2 PLUS DUG TIMES NI;zE2 TIMES AN;qI TIMES TAK4",
  "pTAK4 PLUS SAG;qUM TIMES GAN2 TENU;zTHREE DISH;pUR2 INVERTED;tTIMES UD;rU TIMES DARA3",
  "zLAK-668;AU3;pZA7;qU OVER ZU PLUS SAR;r5 TIMES THREE DISH TENU;+a4c;bYPRO-MINOAN SIGN CM001",
  "w2;w4;w5;w6;w7;w8;w9;v10;w1;w2;xB;w3;w5;w7;w9;v21;w3;w4;w5;w6;w7;w8;w9;v30;w3;w4;w5;w6;w7;w8",
  "w9;v40;w1;w4;w6;w7;w9;v50;w1;w2;w3;w4;w5;w6;w8;w9;v60;w1;w2;w3;w4;w6;w7;w8;w9;v70;w1;w2;w3",
  "w4;w5;xB;w6;w8;w9;v80;w1;w2;w3;w4;w5;w6;w7;w8;w9;v90;w1;w2;w4;w5;w6;w7;w8;w9;u100;w1;w2;w3",
  "w4;w5;w7;w8;w9;v10;w2;w4;u301;w2;+d;aEGYPTIAN HIEROGLYPH A001;x2;x3;x4;x5;yA;x6;yA;yB;x7;x8",
  "x9;w10;x1;x2;x3;x4;yA;x5;x6;x7;yA;x8;x9;w20;x1;x2;x3;x4;x5;x6;x7;x8;x9;w30;x1;x2;yA;x3;x4;x5",
  "x6;x7;x8;x9;w40;yA;x1;x2;yA;x3;yA;x4;x5;yA;x6;x7;x8;x9;w50;x1;x2;x3;x4;x5;x6;x7;x8;x9;w60;x1",
  "x2;x3;x4;x5;x6;x7;x8;x9;w70;uB001;x2;x3;x4;x5;yA;x6;x7;x8;x9;uC001;x2;yA;yB;yC;x3;x4;x5;x6",
  "x7;x8;x9;w10;yA;x1;x2;x3;x4;x5;x6;x7;x8;x9;w20;x1;x2;x3;x4;uD001;x2;x3;x4;x5;x6;x7;x8;yA;x9",
  "w10;x1;x2;x3;x4;x5;x6;x7;x8;x9;w20;x1;x2;x3;x4;x5;x6;x7;yA;x8;x9;w30;x1;yA;x2;x3;x4;yA;x5;x6",
  "x7;x8;x9;w40;x1;x2;x3;x4;x5;x6;yA;x7;x8;yA;x9;w50;yA;yB;yC;yD;yE;yF;yG;yH;yI;x1;x2;yA;x3;x4",
  "yA;x5;x6;x7;x8;x9;w60;x1;x2;x3;x4;x5;x6;x7;yA;yB;yC;yD;yE;yF;yG;yH;uE001;x2;x3;x4;x5;x6;x7",
  "x8;yA;x9;yA;w10;x1;x2;x3;x4;x5;x6;yA;x7;yA;x8;x9;w20;yA;x1;x2;x3;x4;x5;x6;x7;x8;yA;x9;w30;x1",
  "x2;x3;x4;yA;x6;x7;x8;uF001;yA;x2;x3;x4;x5;x6;x7;x8;x9;w10;x1;x2;x3;yA;x4;x5;x6;x7;x8;x9;w20",
  "x1;yA;x2;x3;x4;x5;x6;x7;x8;x9;w30;x1;yA;x2;x3;x4;x5;x6;x7;yA;x8;yA;x9;w40;x1;x2;x3;x4;x5;yA",
  "x6;yA;x7;yA;x8;x9;w50;x1;yA;yB;yC;x2;x3;uG001;x2;x3;x4;x5;x6;yA;x7;yA;yB;x8;x9;w10;x1;yA;x2",
  "x3;x4;x5;x6;x7;x8;x9;w20;yA;x1;x2;x3;x4;x5;x6;yA;x7;x8;x9;w30;x1;x2;x3;x4;x5;x6;yA;x7;yA;x8",
  "x9;w40;x1;x2;x3;yA;x4;x5;yA;x6;x7;x8;x9;w50;x1;x2;x3;x4;uH001;x2;x3;x4;x5;x6;yA;x7;x8;uI001",
  "x2;x3;x4;x5;yA;x6;x7;x8;x9;yA;w10;yA;x1;yA;x2;x3;x4;x5;uK001;x2;x3;x4;x5;x6;x7;x8;uL001;x2",
  "yA;x3;x4;x5;x6;yA;x7;x8;uM001;yA;yB;x2;x3;yA;x4;x5;x6;x7;x8;x9;w10;yA;x1;x2;yA;yB;yC;yD;yE",
  "yF;yG;yH;x3;x4;x5;yA;x6;yA;x7;yA;x8;x9;w20;x1;x2;yA;x3;x4;yA;x5;x6;x7;x8;yA;x9;w30;x1;yA;x2",
  "x3;yA;yB;x4;x5;x6;x7;x8;x9;w40;yA;x1;x2;x3;x4;uN001;x2;x3;x4;x5;x6;x7;x8;x9;w10;x1;x2;x3;x4",
  "x5;x6;x7;x8;yA;yB;x9;w20;x1;x2;x3;x4;x5;yA;x6;x7;x8;x9;w30;x1;x2;x3;yA;x4;yA;x5;yA;x6;x7;yA",
  "x8;x9;w40;x1;x2;vL001;y2;y3;y4;y5;zA;y6;y7;y8;y9;x10;y1;y2;y3;y4;y5;y6;y7;zA;y8;y9;x20;vU001",
  "y2;y3;y4;y5;y6;y7;y8;y9;x10;zA;y1;zA;y2;y3;y4;y5;y6;y7;y8;zA;y9;x20;y1;y2;zA;uO001;yA;x2;x3",
  "x4;x5;yA;x6;yA;yB;yC;yD;yE;yF;x7;x8;x9;w10;yA;yB;yC;x1;x2;x3;x4;x5;x6;x7;x8;x9;yA;w20;yA;x1",
  "x2;x3;x4;yA;x5;yA;x6;x7;x8;x9;yA;w30;yA;x1;x2;x3;yA;x4;x5;x6;yA;yB;yC;yD;x7;x8;x9;w40;x1;x2",
  "x3;x4;x5;x6;x7;x8;x9;w50;yA;yB;x1;uP001;yA;x2;x3;yA;x4;x5;x6;x7;x8;x9;w10;x1;uQ001;x2;x3;x4",
  "x5;x6;x7;uR001;x2;yA;x3;yA;yB;x4;x5;x6;x7;x8;x9;w10;yA;x1;x2;x3;x4;x5;x6;yA;x7;x8;x9;w20;x1",
  "x2;x3;x4;x5;x6;x7;x8;x9;uS001;x2;yA;x3;x4;x5;x6;yA;x7;x8;x9;w10;x1;x2;x3;x4;yA;yB;x5;x6;x7",
  "yA;x8;x9;w20;x1;x2;x3;x4;x5;x6;yA;yB;x7;x8;x9;w30;x1;x2;x3;x4;x5;yA;x6;x7;x8;x9;w40;x1;x2;x3",
  "x4;x5;x6;uT001;x2;x3;yA;x4;x5;x6;x7;yA;x8;yA;x9;yA;w10;x1;yA;x2;x3;x4;x5;x6;yA;x7;x8;x9;w20",
  "x1;x2;x3;x4;x5;x6;x7;x8;x9;w30;x1;x2;yA;x3;yA;x4;x5;x6;uU001;x2;x3;x4;x5;x6;yA;yB;x7;x8;x9",
  "w10;x1;x2;x3;x4;x5;x6;x7;x8;x9;w20;x1;x2;x3;yA;x4;x5;x6;x7;x8;x9;yA;w30;x1;x2;yA;x3;x4;x5;x6",
  "x7;x8;x9;w40;x1;x2;uV001;yA;yB;yC;yD;yE;yF;yG;yH;yI;x2;yA;x3;x4;x5;x6;x7;yA;yB;x8;x9;w10;x1",
  "yA;yB;yC;x2;yA;yB;x3;x4;x5;x6;x7;x8;x9;w20;yA;yB;yC;yD;yE;yF;yG;yH;yI;yJ;yK;yL;x1;x2;x3;yA",
  "x4;x5;x6;x7;x8;yA;x9;yA;w30;yA;x1;yA;x2;x3;yA;x4;x5;x6;x7;yA;x8;x9;w40;yA;uW001;x2;x3;yA;x4",
  "x5;x6;x7;x8;x9;yA;w10;yA;x1;x2;x3;x4;yA;x5;x6;x7;yA;x8;yA;x9;w20;x1;x2;x3;x4;yA;x5;uX001;x2",
  "x3;x4;yA;yB;x5;x6;yA;x7;x8;yA;uY001;yA;x2;x3;x4;x5;x6;x7;x8;uZ001;x2;yA;yB;yC;yD;x3;yA;yB;x4",
  "yA;x5;yA;x6;x7;x8;x9;w10;x1;x2;x3;x4;x5;yA;yB;yC;yD;yE;yF;yG;yH;yI;x6;yA;yB;yC;yD;yE;yF;yG",
  "yH;uAA001;y2;y3;y4;y5;y6;y7;zA;zB;y8;y9;x10;y1;y2;y3;y4;y5;y6;y7;y8;y9;x20;y1;y2;y3;y4;y5;y6",
  "y7;y8;y9;x30;y1;y2;+1;uVERTICAL JOINER;uHORIZONTAL JOINER;uINSERT AT TOP START;EBOTTOM START",
  "ETOP END;EBOTTOM END;uOVERLAY MIDDLE;uBEGIN SEGMENT;uEND SEGMENT;+fc7",
  "aANATOLIAN HIEROGLYPH A001;y2;y3;y4;y5;y6;y7;y8;y9;x10;zA;y1;y2;y3;y4;y5;y6;y7;y8;y9;x20;y1",
  "y2;y3;y4;y5;y6;zA;y7;y8;y9;x30;y1;y2;y3;y4;y5;y6;y7;y8;y9;zA;x40;y1;zA;y2;y3;y4;y5;zA;y6;zA",
  "zB;y7;y8;y9;x50;y1;y2;y3;y4;y5;y6;y7;y8;y9;x60;y1;y2;y3;y4;y5;y6;zA;zB;zC;y7;y8;y9;x70;y1;y2",
  "y3;y4;y5;y6;y7;y8;y9;x80;y1;y2;y3;y4;y5;y6;y7;y8;y9;x90;y1;y2;y3;y4;y5;y6;y7;zA;y8;zA;y9",
  "w100;zA;y1;zA;y2;zA;y3;y4;zA;zB;zC;y5;zA;zB;y6;y7;zA;zB;zC;y8;y9;x10;zA;zB;y1;y2;y3;y4;y5;zA",
  "y6;y7;y8;y9;x20;y1;y2;y3;y4;y5;zA;y6;y7;y8;y9;x30;y1;y2;y3;y4;y5;zA;y6;y7;y8;y9;x40;y1;y2;y3",
  "y4;y5;y6;y7;y8;y9;x50;y1;y2;y3;y4;y5;y6;y7;y8;y9;x60;y1;y2;y3;y4;y5;y6;y7;y8;y9;x70;y1;y2;y3",
  "y4;y5;y6;y7;y8;y9;x80;y1;y2;y3;y4;y5;y6;y7;y8;y9;x90;y1;y2;y3;y4;y5;y6;y7;y8;y9;w200;y1;y2",
  "zA;zB;y3;y4;y5;y6;y7;zA;y8;y9;zA;x10;y1;y2;y3;y4;y5;zA;y6;zA;y7;y8;y9;x20;y1;y2;y3;y4;y5;y6",
  "y7;zA;y8;y9;x30;y1;y2;y3;y4;y5;y6;y7;y8;y9;x40;y1;y2;y3;y4;y5;y6;y7;y8;y9;x50;y1;y2;y3;y4;y5",
  "y6;y7;y8;y9;x60;y1;y2;y3;y4;y5;y6;y7;zA;y8;y9;x70;y1;y2;y3;y4;y5;y6;y7;y8;y9;x80;y1;y2;y3;y4",
  "y5;y6;y7;y8;y9;zA;x90;y1;y2;y3;y4;zA;y5;y6;y7;y8;y9;zA;w300;y1;y2;y3;y4;y5;y6;y7;y8;y9;zA",
  "x10;y1;y2;y3;y4;y5;y6;y7;y8;y9;x20;y1;y2;y3;y4;y5;y6;y7;y8;y9;zA;x30;y1;y2A;zB;zC;y3;y4;y5",
  "y6;zA;zB;zC;y7;y8;y9;x40;y1;y2;y3;y4;y5;y6;y7;y8;y9;x50;y1;y2;y3;y4;y5;y6;y7;y8;y9;zA;x60;y1",
  "y2;y3;y4;zA;y5;y6;y7;y8;zA;y9;x70;y1;zA;y2;y3;y4;y5;y6;y7;y8;y9;x80;y1;zA;y2;y3 RA OR RI;zA",
  "y4;y5;y6;zA;y7;y8;y9;x90;y1;y2;y3 EIGHT;y4;y5;y6;y7;y8;y9;w400;y1;y2;y3;y4;y5;y6;y7;y8;y9",
  "x10 BEGIN LOGOGRAM MARK;zA END LOGOGRAM MARK;y1;y2;y3;y4;y5;y6;y7;y8;y9;x20;y1;y2;y3;y4;y5",
  "y6;y7;y8;y9;x30;y1;y2;y3;y4;y5;y6;y7;y8;y9;x40;y1;y2;y3;y4;y5;y6;y7;y8;y9;x50;zA;y1;y2;y3;y4",
  "y5;y6;y7;zA;y8;y9;x60;y1;y2;y3;y4;y5;y6;y7;y8;y9;x70;y1;y2;y3;y4;y5;y6;y7;y8;y9;x80;y1;y2;y3",
  "y4;y5;y6;y7;y8;y9;x90;y1;y2;y3;y4;y5;y6;y7;w501;y2;y3;y4;y5;y6;y7;y8;y9;x10;y1;y2;y3;y4;y5",
  "y6;y7;y8;y9;x20;y1;y2;y3;y4;y5;y6;y7;y8;y9;x30;+21b9;aBAMUM LETTER PHASE-A NGKUE MFON",
  "vGBIEE FON;vPON MFON PIPAEMGBIEE;KBA;vNAA MFON;vSHUENSHUET;vTITA MFON;vNZA MFON",
  "vSHINDA PA NJI;vPON PA NJI PIPAEMGBIEE;MBA;vMAEMBGBIEE;vTU MAEMBA;vNGANGU;vMAEMVEUX;xNSUAE",
  "wVEUAENGAM;vSEUNYAM;vNTOQPEN;vKEUKEUTNDA;vNKINDI;vSUU;vNGKUENZEUM;vLAPAQ;wET KUT;vNTAP MFAA",
  "vMAEKEUP;vPASHAE;vGHEUAERAE;vPAMSHAE;vMON NGGEUAET;vNZUN MEUT;vU YUQ NAE;vGHEUAEGHEUAE",
  "vNTAP NTAA;vSISA;vMGBASA;wEUNJOMNDEUQ;wOOMPUQ;vKAFA;vPA LEERAEWA;vNDA LEERAEWA;vPET",
  "vMAEMKPEN;vNIKA;vPUP;vTUAEP;vLUAEP;vSONJAM;vTEUTEUWEN;vMAENYI;vKET;vNDAANGGEUAET;vKUOQ",
  "vMOOMEUT;vSHUM;vLOMMAE;vFIRI;vROM;vKPOQ;vSOQ;vMAP PIEET;vSHIRAE;vNTAP;vSHOQ NSHUT YUM",
  "vNYIT MONGKEUAEQ;vPAARAE;vNKAARAE;vUNKNOWN;vNGGEN;vMAESI;vNJAM;vMBANYI;vNYET;vTEUAEN;vSOT",
  "vPAAM;vNSHIEE;vMAEM;vNYI;vKAQ;vNSHA;vVEE;vLU;vNEN;wAQ;vMBAQ;tB NSHUET;vTU MAEMGBIEE;vSIEE",
  "wET TU;vLOM NTEUM;vMBA MAELEE;vKIEEM;vYEURAE;vMBAARAE;vKAM;vPEESHI;vYAFU LEERAEWA",
  "vLAM NSHUT NYAM;vNTIEE SHEUOQ;wDU NJAA;vGHEUGHEUAEM;vPIT;vTU NSIEE;vSHET NJAQ;yUAEQTU",
  "vMFON TEUAEQ;wBIT MBAAKET;vNYI NTEUM;vKEUPUQ;vGHEUGHEN;vKEUYEUX;vLAANAE;vPARUM;vVEUM",
  "vNGKINDI MVOP;xGEU MBU;vWUAET;vSAKEUAE;vTAAM;vMEUQ;vNGGUOQ;B LARGE;vMFIYAQ;vSUE;vMBEURI",
  "wONTIEEN;vNYAEMAE;vPUNGAAM;vMEUT NGGEET;vFEUX;vMBUOQ;vFEE;vKEUAEM;vMA NJEUAENA;AUQA;vLET",
  "vNGGAAM;wSEN;vMA;vKIQ;vNGOM;tC NGKUE MAEMBA;wZA;vYUM;vWANGKUOQ;vNGGEN;wDEUAEREE;wGKAQ",
  "vGHARAE;vMBEEKEET;vGBAYI;vNYIR MKPARAQ MEUN;wTU MBIT;vMBEUM;vPIRIEEN;vNDOMBU",
  "vMBAA CABBAGE-TREE;vKEUSHEUAEP;vGHAP;vKEUKAQ;vYU MUOMAE;vNZEUM;vMBUE;vNSEUAEN;vMBIT;vYEUQ",
  "vKPARAQ;wAA;vSEUX;vNDIDA;vTAASHAE;vNJUEQ;vTITA YUE;vSUAET;vNGGUAEN NYAM;vVEUX;vNANSANAQ",
  "vMA KEUAERI;vNTAA;wGGUON;vLAP;vMBIRIEEN;wGBASAQ;vNTEUNGBA;vTEUTEUX;vNGGUM;vFUE;vNDEUT;wSA",
  "xHAQ;vBUNG;vVEUAEPEN;vMBERAE;vRU;vNJAEM;vLAM;vTITUAEP;vNSUOT NGOM;wJEEEE;vKET;vNGGU;vMAESI",
  "wBUAEM;vLU;vKUT;vNJAM;wGOM;vWUP;vNGGUEET;wSOM;wTEN;vKUOP NKAARAE;vNSUN;wDAM;vMA NSIEE;vYAA",
  "vNDAP;vSHUEQ;wETFON;vMBI;wAEMBA;wBANYI;vKEUSEUX;vMBEUX;vKEUM;vMBAA PICKET;vYUWOQ;vNJEUX",
  "vMIEE;wUAE;vSHIQ;vKEN LAW;zFATIGUE;vNGAQ;wAQ;vLIQ;vPIN;wEN;vTET;tD MBUO;vWAP;vNJI;vMFON",
  "vNJIEE;vLIEE;vNJEUT;wSHEE;wGGAAMAE;wYAM;vWUAEN;vNGKUN;vSHEE;vNGKAP;vKEUAETMEUN;vTEUT;vSHEUAE",
  "vNJAP;vSUE;vKET;vYAEMMAE;vKUOM;vSAP;vMFEUT;vNDEUX;vMALEERI;wEUT;vSEUAEQ;vYEN;vNJEUAEM",
  "vKEUOT MBUAE;vNGKEURI;vTU;vGHAA;vNGKYEE;vFEUFEUAET;vNDEE;vMGBOFUM;vLEUAEP;vNDON;vMONI;wGBEUN",
  "vPUUT;vMGBIEE;wFO;vLUM;vNSIEEP;vMBAA;vKWAET;vNYET;vTEUAEN;vSOT;vYUWOQ;vKEUM;vRAEM;vTEEEE",
  "vNGKEUAEQ;vMFEUAE;vNSIEET;vKEUP;vPIP;wEUTAE;vNYUE;vLET;vNGGAAM;vMFIEE;vNGGWAEN;vYUOM;vPAP",
  "vYUOP;vNDAM;wTEUM;vSUAE;vKUN;vNGGEUX;xKIEE;vTUOT;vMEUN;vKUQ;vNSUM;vTEUN;vMAENJET;vNGGAP",
  "vLEUM;vNGGUOM;wSHUT;wJUEQ;vGHEUAE;vKU;vREN OLD;vTAE;wOQ;vNYI;vRII;vLEEEE;vMEEEE;w;vSUU;vMU",
  "vSHII;xEUX;vKYEE;vNU;vSHU;vNTEE;vPEE;vNI;vSHOQ;vPUQ;vMVOP;vLOQ;vREN MUCH;vTI;vNTUU",
  "vMBAA SEVEN;vSAQ;vFAA;tE NDAP;vTOON;vMBEUM;vLAP;vVOM;vLOON;vPAA;vSOM;vRAQ;vNSHUOP;wDUN;vPUAE",
  "vTAM;vNGKA;vKPEUX;vWUO;vSEE;vNGGEUAET;vPAAM;vTOO;vKUOP;vLOM;vNSHIEE;wGOP;vMAEM;vNGKEUX;xOQ",
  "wSHUE;vRIMGBA;vNJEUX;vPEEM;vSAA;vNGGURAE;vMGBA;vGHEUX;vNGKEUAEM;wJAEMLI;vMAP;vLOOT;vNGGEEEE",
  "wDIQ;vTAEN NTEUM;vSET;vPUM;vNDAA SOFTNESS;wGGUAESHAE NYAM;vYIEE;vGHEUN;vTUAE;vYEUAE;vPO",
  "vTUMAE;vKEUAE;vSUAEN;vTEUAEQ;vVEUAE;vWEUX;vLAAM;vPU;vTAAQ;vGHAAMAE;vNGEUREUT;vSHEUAEQ;vMGBEN",
  "wBEE;vNZAQ;wKOM;vGBET;vTUM;vKUET;vYAP;vNYI CLEAVER;vYIT;vMFEUQ;vNDIAQ;vPIEEQ;vYUEQ;vLEUAEM",
  "vFUE;vGBEUX;vNGKUP;vKET;vMAE;vNGKAAMI;vGHET;vFA;vNTUM;vPEUT;vYEUM;vNGGEUAE;wYI BETWEEN;wZUQ",
  "vPOON;vMIEE;vFUET;vNAE;vMUAE;vGHEUAE;vFU I;vMVI;vPUAQ;vNGKUM;vKUT;vPIET;vNTAP;vYEUAET;vNGGUP",
  "vPA PEOPLE;vFU CALL;wOM;vNJEE;vA;vTOQ;vO;vI;vLAQ;vPA PLURAL;vTAA;xQ;vNDAA MY HOUSE;vSHIQ",
  "vYEUX;vNGUAE;vYUAEN;wOQ SWIMMING;zCOVER;wUQ;xN;vKEUX;vPEUX;vNJEE EPOCH;vPUE;vWUE;vFEE;vVEE",
  "vLU;vMI;vREUX;wAE;vNGUAET;xA;vSHO;yQ;vFU REMEDY;vNA;vPI;vLOQ;vKO;vMEN;wA;xQ;vTEU;vKI;vMON",
  "vTEN;vFAQ;vGHOM;tF KA;vU;vKU;vEE;vREE;vTAE;vNYI;vLA;vRII;xEE;vMEEEE;vTAA;vNDAA;wJAEM;vM;vSUU",
  "wHII;wI;wEUX;vKYEE;wET;vNUAE;x;wJUAE;vYOQ;vSHU;vYA;vNSHA;vPEUX;vNTEE;vWUE;vPEE;vRU;vNI;vREUX",
  "vKEN;vNGKWAEN;xGA;vSHO;vPUAE;vFOM;vWA;vLI;wOQ;vKO;vMBEN;vREN;vMA;wO;wBAA;vTET;vKPA;vSAMBA",
  "vVUEQ;+7;aMRO LETTER TA;lNGI;lYO;lMIM;lBA;lDA;lA;lPHI;lKHAI;lHAO;lDAI;lCHU;lKEAAE;lOL;lMAEM",
  "lNIN;lPA;lOO;m;lRO;lSHI;lTHEA;lEA;lWA;lE;lKO;lLAN;n;lHAI;lRI;lTEK;+1;eDIGIT ZERO;kONE;kTWO",
  "lHREE;kFOUR;lIVE;kSIX;lEVEN;kEIGHT;kNINE;+4;fANDA;fOUBLE DANDA;aTANGSA LETTER OZ;pC;pQ;pX",
  "oAZ;pC;pQ;pX;oVZ;pC;pQ;pX;oEZ;pC;pQ;pX;oIZ;pC;pQ;pX;oUZ;pC;pQ;pX;oAWZ;qC;qQ;qX;oUIZ;qC;qQ;qX",
  "oFINAL NG;oLONG UEX;oSHORT UEZ;uAWX;oUEC;qZ;qQ;qX;pIUZ;rC;rQ;rX;oMZ;pC;pQ;pX;oKA;pHA;oGA",
  "oNGA;oSA;oYA;oWA;oPA;oNYA;oPHA;oBA;oMA;oNA;oHA;oLA;oHTA;oTA;oDA;oRA;oNHA;oSHA;oCA;oTSA;oGHA",
  "oHTTA;oTHA;oXA;oFA;oDHA;oCHA;oZA;+1;hDIGIT ZERO;nONE;nTWO;oHREE;nFOUR;oIVE;nSIX;oEVEN;nEIGHT",
  "nNINE;+6;aBASSA VAH LETTER ENNI;rKA;rSE;rFA;rMBE;rYIE;rGAH;rDHII;rKPAH;rJO;rHWAH;rWA;rZO",
  "rGBU;rDO;rCE;rUWU;rTO;rBA;rVU;rYEIN;rPA;rWADDA;rA;rO;sO;rU;rEE;s;rI;+2;kCOMBINING HIGH TONE",
  "uLOW TONE;uMID TONE;uLOW-MID TONE;uHIGH-LOW TONE;kFULL STOP;+a;aPAHAWH HMONG VOWEL KEEB;wV",
  "uIB;vV;uAUB;wV;uUB;vV;uEB;vV;uAIB;wV;uOOB;wV;uAWB;wV;uUAB;wV;uOB;vV;uIAB;wV;uAB;vV;uWB;vV",
  "uAAB;wV;nCONSONANT VAU;xNTSAU;xLAU;xHAU;xNLAU;xRAU;xNKAU;xQHAU;xYAU;xHLAU;xMAU;xCHAU;xNCHAU",
  "xHNAU;xPLHAU;xNTHAU;yAU;xAU;xXAU;xCAU;nMARK CIM TUB;wSO;wKES;xHAV;wSUAM;wHOM;wTAUM",
  "nSIGN VOS THOM;xSHAB CEEB;sCIM CHEEM;sVOS THIAB;wFEEM;sXYEEM NTXIV;yRHO;yTOV;yFAIB;sVOS SEEV",
  "sMEEJ SUAB;sVOS NRUA;sIB YAM;sXAUS;sCIM TSOV ROG;+a;nDIGIT ZERO;tONE;tTWO;uHREE;tFOUR;uIVE",
  "tSIX;uEVEN;tEIGHT;tNINE;+1;nNUMBER TENS;uHUNDREDS;uTEN THOUSANDS;uMILLIONS;uHUNDRED MILLIONS",
  "uTEN BILLIONS;vRILLIONS;+1;nSIGN VOS LUB;sXYOO;sHLI;sTHIRD-STAGE HLI;sZWJ THAJ;sHNUB;sNQIG",
  "sXIAB;sNTUJ;sAV;sTXHEEJ CEEV;sMEEJ TSEEB;sTAU;sLOS;sMUS;sCIM HAIS LUS NTOG NTOG;wCUAM TSHOOJ",
  "wTXWV;A CHWV;wPUB DAWB;wNRES TOS;+5;nCLAN SIGN TSHEEJ;xYEEG;xLIS;yAUJ;xXYOOJ;xKOO;xHAWJ",
  "xMUAS;xTHOJ;ySAB;xPHAB;xKHAB;xHAM;xVAJ;xFAJ;xYAJ;xTSWB;xKWM;xVWJ;+2b0",
  "aMEDEFAIDRIN CAPITAL LETTER M;BS;BV;BW;BATIU;BZ;BKP;BP;BT;BG;BF;BI;BK;BA;BJ;BE;BB;BC;BU;BYU",
  "BL;BQ;BHP;BNY;BX;BD;BOE;BN;BR;BO;BAI;BY;mSMALL LETTER M;zS;zV;zW;zATIU;zZ;zKP;zP;zT;zG;zF;zI",
  "zK;zA;zJ;zE;zB;zC;zU;zYU;zL;zQ;zHP;zNY;zX;zD;zOE;zN;zR;zO;zAI;zY;mDIGIT ZERO;sONE;sTWO;tHREE",
  "sFOUR;tIVE;sSIX;tEVEN;sEIGHT;sNINE;mNUMBER TEN;tELEVEN;tTWELVE;uHIRTEEN;tFOURTEEN;uIFTEEN",
  "tSIXTEEN;uEVENTEEN;tEIGHTEEN;tNINETEEN;mDIGIT ONE ALTERNATE FORM;sTWO ALTERNATE FORM",
  "tHREE ALTERNATE FORM;mCOMMA;mFULL STOP;mSYMBOL AIVA;mEXCLAMATION OH;+65;bIAO LETTER PA;mBA",
  "mYI PA;mPLA;mMA;nHA;mARCHAIC MA;mFA;mVA;nFA;mTA;mDA;mYI TTA;qA;mTTA;mDDA;mNA;nHA;mYI NNA",
  "mARCHAIC NA;mNNA;oHA;mLA;nYA;nHA;oYA;mTLHA;mDLHA;mTLHYA;mDLHYA;mKA;mGA;mYI KA;mQA;nGA;mNGA",
  "oHA;mARCHAIC NGA;mHA;mXA;mGHA;oHA;mTSSA;mDZZA;mNYA;oHA;mTSHA;mDZHA;mYI TSHA;pDZHA",
  "mREFORMED TSHA;mSHA;nSA;mZHA;nSHA;mTSA;mDZA;mYI TSA;mSA;mZA;nSA;nZA;oSA;mARCHAIC ZZA;mZZYA",
  "oSYA;mWA;mAH;mHHA;mBRI;mSYI;mDZYI;mTE;nSE;mRTE;+4;fSIGN CONSONANT MODIFIER BAR",
  "fLETTER NASALIZATION;fSIGN ASPIRATION;kREFORMED VOICING;tASPIRATION;fVOWEL SIGN A;rA;rHH;rN",
  "sG;qO;rO;qWO;r;qE;rN;sG;qOEY;qI;rA;sN;tG;rO;rE;rI;rU;rNG;qU;rA;sN;tG;rU;rEI;rNG;qY;rI;qAE;sE",
  "qERR;qROUNDED ERR;qER;qROUNDED ER;qAI;qEI;qAU;qOU;qN;rG;qUOG;qYUI;qOG;rER;qVW;qIG;qEA;qIONG",
  "qUI;+7;fTONE RIGHT;kTOP RIGHT;kABOVE;kBELOW;fLETTER TONE-2;r3;r4;r5;r6;r7;r8",
  "mREFORMED TONE-1;A2;A4;A5;A6;A8;+40;aTANGUT ITERATION MARK;aNUSHU ITERATION MARK",
  "aOLD CHINESE HOOK MARK;mITERATION MARK;aKHITAN SMALL SCRIPT FILLER;+b",
  "aVIETNAMESE ALTERNATE READING MARK CA;INHAY;+180e;aTANGUT COMPONENT-001;t2;t3;t4;t5;t6;t7;t8",
  "t9;s10;t1;t2;t3;t4;t5;t6;t7;t8;t9;s20;t1;t2;t3;t4;t5;t6;t7;t8;t9;s30;t1;t2;t3;t4;t5;t6;t7;t8",
  "t9;s40;t1;t2;t3;t4;t5;t6;t7;t8;t9;s50;t1;t2;t3;t4;t5;t6;t7;t8;t9;s60;t1;t2;t3;t4;t5;t6;t7;t8",
  "t9;s70;t1;t2;t3;t4;t5;t6;t7;t8;t9;s80;t1;t2;t3;t4;t5;t6;t7;t8;t9;s90;t1;t2;t3;t4;t5;t6;t7;t8",
  "t9;r100;t1;t2;t3;t4;t5;t6;t7;t8;t9;s10;t1;t2;t3;t4;t5;t6;t7;t8;t9;s20;t1;t2;t3;t4;t5;t6;t7",
  "t8;t9;s30;t1;t2;t3;t4;t5;t6;t7;t8;t9;s40;t1;t2;t3;t4;t5;t6;t7;t8;t9;s50;t1;t2;t3;t4;t5;t6;t7",
  "t8;t9;s60;t1;t2;t3;t4;t5;t6;t7;t8;t9;s70;t1;t2;t3;t4;t5;t6;t7;t8;t9;s80;t1;t2;t3;t4;t5;t6;t7",
  "t8;t9;s90;t1;t2;t3;t4;t5;t6;t7;t8;t9;r200;t1;t2;t3;t4;t5;t6;t7;t8;t9;s10;t1;t2;t3;t4;t5;t6",
  "t7;t8;t9;s20;t1;t2;t3;t4;t5;t6;t7;t8;t9;s30;t1;t2;t3;t4;t5;t6;t7;t8;t9;s40;t1;t2;t3;t4;t5;t6",
  "t7;t8;t9;s50;t1;t2;t3;t4;t5;t6;t7;t8;t9;s60;t1;t2;t3;t4;t5;t6;t7;t8;t9;s70;t1;t2;t3;t4;t5;t6",
  "t7;t8;t9;s80;t1;t2;t3;t4;t5;t6;t7;t8;t9;s90;t1;t2;t3;t4;t5;t6;t7;t8;t9;r300;t1;t2;t3;t4;t5",
  "t6;t7;t8;t9;s10;t1;t2;t3;t4;t5;t6;t7;t8;t9;s20;t1;t2;t3;t4;t5;t6;t7;t8;t9;s30;t1;t2;t3;t4;t5",
  "t6;t7;t8;t9;s40;t1;t2;t3;t4;t5;t6;t7;t8;t9;s50;t1;t2;t3;t4;t5;t6;t7;t8;t9;s60;t1;t2;t3;t4;t5",
  "t6;t7;t8;t9;s70;t1;t2;t3;t4;t5;t6;t7;t8;t9;s80;t1;t2;t3;t4;t5;t6;t7;t8;t9;s90;t1;t2;t3;t4;t5",
  "t6;t7;t8;t9;r400;t1;t2;t3;t4;t5;t6;t7;t8;t9;s10;t1;t2;t3;t4;t5;t6;t7;t8;t9;s20;t1;t2;t3;t4",
  "t5;t6;t7;t8;t9;s30;t1;t2;t3;t4;t5;t6;t7;t8;t9;s40;t1;t2;t3;t4;t5;t6;t7;t8;t9;s50;t1;t2;t3;t4",
  "t5;t6;t7;t8;t9;s60;t1;t2;t3;t4;t5;t6;t7;t8;t9;s70;t1;t2;t3;t4;t5;t6;t7;t8;t9;s80;t1;t2;t3;t4",
  "t5;t6;t7;t8;t9;s90;t1;t2;t3;t4;t5;t6;t7;t8;t9;r500;t1;t2;t3;t4;t5;t6;t7;t8;t9;s10;t1;t2;t3",
  "t4;t5;t6;t7;t8;t9;s20;t1;t2;t3;t4;t5;t6;t7;t8;t9;s30;t1;t2;t3;t4;t5;t6;t7;t8;t9;s40;t1;t2;t3",
  "t4;t5;t6;t7;t8;t9;s50;t1;t2;t3;t4;t5;t6;t7;t8;t9;s60;t1;t2;t3;t4;t5;t6;t7;t8;t9;s70;t1;t2;t3",
  "t4;t5;t6;t7;t8;t9;s80;t1;t2;t3;t4;t5;t6;t7;t8;t9;s90;t1;t2;t3;t4;t5;t6;t7;t8;t9;r600;t1;t2",
  "t3;t4;t5;t6;t7;t8;t9;s10;t1;t2;t3;t4;t5;t6;t7;t8;t9;s20;t1;t2;t3;t4;t5;t6;t7;t8;t9;s30;t1;t2",
  "t3;t4;t5;t6;t7;t8;t9;s40;t1;t2;t3;t4;t5;t6;t7;t8;t9;s50;t1;t2;t3;t4;t5;t6;t7;t8;t9;s60;t1;t2",
  "t3;t4;t5;t6;t7;t8;t9;s70;t1;t2;t3;t4;t5;t6;t7;t8;t9;s80;t1;t2;t3;t4;t5;t6;t7;t8;t9;s90;t1;t2",
  "t3;t4;t5;t6;t7;t8;t9;r700;t1;t2;t3;t4;t5;t6;t7;t8;t9;s10;t1;t2;t3;t4;t5;t6;t7;t8;t9;s20;t1",
  "t2;t3;t4;t5;t6;t7;t8;t9;s30;t1;t2;t3;t4;t5;t6;t7;t8;t9;s40;t1;t2;t3;t4;t5;t6;t7;t8;t9;s50;t1",
  "t2;t3;t4;t5;t6;t7;t8;t9;s60;t1;t2;t3;t4;t5;t6;t7;t8;+24f0;aKATAKANA LETTER MINNAN TONE-2;C3",
  "C4;C5;+1;C7;C8;xNASALIZED TONE-1;M2;M3;M4;M5;+1;M7;M8;+1;qARCHAIC E",
  "aHIRAGANA LETTER ARCHAIC YE;bENTAIGANA LETTER A-1;u2;u3;uWO;sI-1;u2;u3;u4;sU-1;u2;u3;u4;u5",
  "sE-2;u3;u4;u5;u6;sO-1;u2;u3;sKA-1;v2;v3;v4;v5;v6;v7;v8;v9;v10;w1;vKE;tI-1;v2;v3;v4;v5;v6;v7",
  "v8;tU-1;v2;v3;v4;v5;v6;v7;tE-1;v2;v3;v4;v5;v6;tO-1;v2;v3;vKI;sSA-1;v2;v3;v4;v5;v6;v7;v8;tI-1",
  "v2;v3;v4;v5;v6;tU-1;v2;v3;v4;v5;v6;v7;v8;tE-1;v2;v3;v4;v5;tO-1;v2;v3;v4;v5;v6;v7;sTA-1;v2;v3",
  "v4;tI-1;v2;v3;v4;v5;v6;v7;tU-1;v2;v3;v4;vTO;tE-1;v2;v3;v4;v5;v6;v7;v8;v9;tO-1;v2;v3;v4;v5;v6",
  "vRA;sNA-1;v2;v3;v4;v5;v6;v7;v8;v9;tI-1;v2;v3;v4;v5;v6;v7;vTE;tU-1;v2;v3;tE-1;v2;v3;v4;v5;v6",
  "vKO;tO-1;v2;v3;v4;v5;sHA-1;v2;v3;v4;v5;v6;v7;v8;v9;v10;w1;tI-1;v2;v3;v4;v5;v6;v7;tU-1;v2;v3",
  "tE-1;v2;v3;v4;v5;v6;v7;tO-1;v2;v3;v4;v5;v6;v7;v8;sMA-1;v2;v3;v4;v5;v6;v7;tI-1;v2;v3;v4;v5;v6",
  "v7;tU-1;v2;v3;v4;tE-1;v2;vMA;tO-1;v2;v3;v4;v5;v6;sYA-1;v2;v3;v4;v5;vYO;tU-1;v2;v3;v4;tO-1;v2",
  "v3;v4;v5;v6;sRA-1;v2;v3;v4;tI-1;v2;v3;v4;v5;v6;v7;tU-1;v2;v3;v4;v5;v6;tE-1;v2;v3;v4;tO-1;v2",
  "v3;v4;v5;v6;sWA-1;v2;v3;v4;v5;tI-1;v2;v3;v4;v5;tE-1;v2;v3;v4;tO-1;v2;v3;v4;v5;v6;v7",
  "sN-MU-MO-1;A2;bIRAGANA LETTER ARCHAIC WU;aKATAKANA LETTER ARCHAIC YI;zE;yWU;+2d",
  "aHIRAGANA LETTER SMALL WI;xE;xO;+11;aKATAKANA LETTER SMALL WI;xE;xO;wN;+a98",
  "aDUPLOYAN LETTER H;qX;qP;qT;qF;qK;qL;qB;qD;qV;qG;qR;qP N;qD S;qF N;qK M;qR S;qTH;qSLOAN DH",
  "qDH;qKK;qSLOAN J;qHL;qLH;qRH;qM;qN;qJ;qS;qM N;qN M;qJ M;qS J;qM WITH DOT;qN WITH DOT",
  "qJ WITH DOT;AS INSIDE AND ABOVE;qS WITH DOT;A BELOW;qM S;qN S;qJ S;qS S;qM N S;qN M S;qJ M S",
  "qS J S;qJ S WITH DOT;sN;t S;qS T;t R;sP;t R;qT S;sR S;qW;rH;r R;qS N;sM;qK R S;qG R S;qS K",
  "t R;qA;qSLOAN OW;qOA;r;qAOU;qI;qE;qIE;qSHORT I;qUI;qEE;qSLOAN EH;qROMANIAN I;qSLOAN EE",
  "qLONG I;qYE;qU;qEU;qXW;qU N;qLONG U;qROMANIAN U;qUH;qSLOAN U;qOOH;rW;rU;qWA;rO;rI;rEI;rOW",
  "qNASAL U;wO;wI;wA;qPERNIN AN;yM;qSLOAN EN;wAN;wON;qVOCALIC M;+5",
  "jAFFIX LEFT HORIZONTAL SECANT;pMID HORIZONTAL SECANT;pRIGHT HORIZONTAL SECANT",
  "pLOW VERTICAL SECANT;pMID VERTICAL SECANT;pHIGH VERTICAL SECANT;pATTACHED SECANT",
  "yLEFT-TO-RIGHT SECANT;yTANGENT;AIL;yE HOOK;yI HOOK;yTANGENT HOOK;+3;pHIGH ACUTE;uTIGHT ACUTE",
  "uGRAVE;uLONG GRAVE;uDOT;uCIRCLE;uLINE;uWAVE;uVERTICAL;+7;pLOW ACUTE;tTIGHT ACUTE;tGRAVE",
  "tLONG GRAVE;tDOT;tCIRCLE;tLINE;tWAVE;tVERTICAL;tARROW;+2;jSIGN O WITH CROSS",
  "jTHICK LETTER SELECTOR;jDOUBLE MARK;jPUNCTUATION CHINOOK FULL STOP",
  "aSHORTHAND FORMAT LETTER OVERLAP;rCONTINUING OVERLAP;rDOWN STEP;rUP STEP;+125c",
  "aZNAMENNY COMBINING MARK GORAZDO NIZKO S KRYZHEM ON LEFT;yNIZKO S KRYZHEM ON LEFT",
  "yTSATA ON LEFT;yGORAZDO NIZKO ON LEFT;yNIZKO ON LEFT;ySREDNE ON LEFT;yMALO POVYSHE ON LEFT",
  "yPOVYSHE ON LEFT;yVYSOKO ON LEFT;yMALO POVYSHE S KHOKHLOM ON LEFT",
  "yPOVYSHE S KHOKHLOM ON LEFT;yVYSOKO S KHOKHLOM ON LEFT;yGORAZDO NIZKO S KRYZHEM ON RIGHT",
  "yNIZKO S KRYZHEM ON RIGHT;yTSATA ON RIGHT;yGORAZDO NIZKO ON RIGHT;yNIZKO ON RIGHT",
  "ySREDNE ON RIGHT;yMALO POVYSHE ON RIGHT;yPOVYSHE ON RIGHT;yVYSOKO ON RIGHT",
  "yMALO POVYSHE S KHOKHLOM ON RIGHT;yPOVYSHE S KHOKHLOM ON RIGHT;yVYSOKO S KHOKHLOM ON RIGHT",
  "yTSATA S KRYZHEM;yMALO POVYSHE S KRYZHEM;ySTRANNO MALO POVYSHE;yPOVYSHE S KRYZHEM;HTRANNO",
  "yVYSOKO S KRYZHEM;yMALO POVYSHE STRANNO;yGORAZDO VYSOKO;yZELO;yON;yRAVNO;yTIKHAYA;yBORZAYA",
  "yUDARKA;yPODVERTKA;yLOMKA;yKUPNAYA;zACHKA;yZEVOK;ySKOBA;yRAZSEKA;yKRYZH ON LEFT;+2",
  "tTONAL RANGE MARK MRACHNO;KSVETLO;KTRESVETLO;tMARK ZADERZHKA;yDEMESTVENNY ZADERZHKA",
  "yOTSECHKA;yPODCHASHIE;I WITH VERTICAL STROKE;yCHASHKA;F POLNAYA;yOBLACHKO;ySOROCHYA NOZHKA",
  "yTOCHKA;yDVOETOCHIE;tATTACHING VERTICAL OMET;tMARK CURVED OMET;yKRYZH",
  "tLOWER TONAL RANGE INDICATOR;jPRIZNAK MODIFIER LEVEL-2;G3;ADIRECTION FLIP;AKRYZH;AROG;+9",
  "jNEUME KRYUK;u TIKHY;pPARAKLIT;pDVA V CHELNU;pKLYUCH;pZANOZHEK;pSTOPITSA;x S OCHKOM",
  "pPEREVODKA;y NEPOSTOYANNAYA;pSTOPITSA WITH SOROCHYA NOZHKA;pCHELYUSTKA;pPALKA;pZAPYATAYA",
  "pGOLUBCHIK BORZY;zTIKHY;zMRACHNY;zSVETLY;zTRESVETLY;pVRAKHIYA PROSTAYA;yMRACHNAYA;ySVETLAYA",
  "yTRESVETLAYA;yKLYUCHEVAYA PROSTAYA;KMRACHNAYA;KSVETLAYA;KTRESVETLAYA;pDOUBLE ZAPYATAYA",
  "pREVERSED CHELYUSTKA;pDERBITSA;pKHAMILO;pCHASHKA;pPODCHASHIE;pSKAMEYTSA MRACHNAYA;zSVETLAYA",
  "zTRESVETLAYA;AIKHAYA;pDEMESTVENNY KLYUCH;pSKAMEYTSA KLYUCHEVAYA SVETLAYA;GNEPOSTOYANNAYA",
  "GVAYA TIKHAYA;zDVOECHELNAYA PROSTAYA;MSVETLAYA;MNEPOSTOYANNAYA;MKLYUCHEVAYA;qLOZHITIE",
  "y S ZAPYATOY;zZAKRYTOE;zS KRYZHEM;pKRYZH;pROG;pFITA;pKOBYLA;pZMEYTSA;pSTATYA;v S ZAPYATOY",
  "yKRYZHEM;yZAPYATOY I KRYZHEM;yKRYZHEM I ZAPYATOY;wZAKRYTAYA;F S ZAPYATOY;wS ROGOM",
  "yDVUMYA ZAPYATYMI;yZAPYATOY I PODCHASHIEM;pPOLKULIZMY;pSTATYA NEPOSTOYANNAYA;rRELA PROSTAYA",
  "wMRACHNOTIKHAYA;wKRYZHEVAYA;wPOLUPOVODNAYA;yVODNAYA;wNEPOSTOYANNAYA;wKLYUCHEPOVODNAYA",
  "DNEPOSTOYANNAYA;wTIKHAYA PUTNAYA;wDVOECHELNAYA;FOKRYZHEVAYA;GPOVODNAYA;FAYA KLYUCHEVAYA",
  "FOPOVODNAYA KLYUCHEVAYA;wGROMNAYA WITH SINGLE ZAPYATAYA;AOPOVODNAYA WITH SINGLE ZAPYATAYA",
  "ANAYA;AOPOVODNAYA;K WITH DOUBLE ZAPYATAYA;BKRYZHEVAYA;L POVODNAYA;pMECHIK;v POVODNY",
  "wKLYUCHEVOY;DPOVODNY;DNEPOSTOYANNY;pSTRELA TRYASOGLASNAYA;CPOVODNAYA;CSTRELNAYA;pOSOKA",
  "u SVETLAYA;vTRESVETLAYA;vKRYUKOVAYA SVETLAYA;wLYUCHEVAYA SVETLAYA;HNEPOSTOYANNAYA",
  "pSTRELA KRYUKOVAYA;G POVODNAYA;HGROMNAYA WITH SINGLE ZAPYATAYA",
  "LOPOVODNAYA WITH SINGLE ZAPYATAYA;LNAYA;LOPOVODNAYA;V WITH DOUBLE ZAPYATAYA;MKRYZHEVAYA",
  "W POVODNAYA;HTRYASKA;pKUFISMA;pOBLAKO;pDUDA;pNEMKA;pPAUK;+3c;aBYZANTINE MUSICAL SYMBOL PSILI",
  "zDASEIA;zPERISPOMENI;zOXEIA EKFONITIKON;FDIPLI;zVAREIA EKFONITIKON;GDIPLI;zKATHISTI",
  "zSYRMATIKI;zPARAKLITIKI;zYPOKRISIS;I DIPLI;zKREMASTI;zAPESO EKFONITIKON;zEXO EKFONITIKON",
  "zTELEIA;zKENTIMATA;zAPOSTROFOS;J DIPLI;zSYNEVMA;zTHITA;zOLIGON ARCHAION;zGORGON ARCHAION",
  "zPSILON;zCHAMILON;zVATHY;zISON ARCHAION;zKENTIMA ARCHAION;GTA ARCHAION;zSAXIMATA;zPARICHON",
  "zSTAVROS APODEXIA;zOXEIAI ARCHAION;zVAREIAI ARCHAION;zAPODERMA ARCHAION;CTHEMA;zKLASMA",
  "zREVMA;zPIASMA ARCHAION;zTINAGMA;zANATRICHISMA;zSEISMA;AYNAGMA ARCHAION;HMETA STAVROU",
  "zOYRANISMA ARCHAION;zTHEMA;zLEMOI;zDYO;zTRIA;AESSERA;zKRATIMATA;zAPESO EXO NEO",
  "zFTHORA ARCHAION;zIMIFTHORA;zTROMIKON ARCHAION;zKATAVA TROMIKON;zPELASTON;ASIFISTON",
  "zKONTEVMA;zCHOREVMA ARCHAION;zRAPISMA;zPARAKALESMA ARCHAION;ELITIKI ARCHAION;zICHADIN;zNANA",
  "zPETASMA;zKONTEVMA ALLO;zTROMIKON ALLO;zSTRAGGISMATA;zGRONTHISMATA;zISON NEO;zOLIGON NEO",
  "AXEIA NEO;zPETASTI;zKOUFISMA;zPETASTOKOUFISMA;zKRATIMOKOUFISMA;zPELASTON NEO",
  "zKENTIMATA NEO ANO;G NEO ANO;zYPSILI;zAPOSTROFOS NEO;II SYNDESMOS NEO;zYPORROI",
  "zKRATIMOYPORROON;zELAFRON;zCHAMILI;zMIKRON ISON;zVAREIA NEO;zPIASMA NEO;ASIFISTON NEO",
  "zOMALON;zANTIKENOMA;zLYGISMA;zPARAKLITIKI NEO;EALESMA NEO;zETERON PARAKALESMA;zKYLISMA",
  "zANTIKENOKYLISMA;zTROMIKON NEO;zEKSTREPTON;zSYNAGMA NEO;BRMA;zCHOREVMA NEO;zEPEGERMA",
  "zSEISMA NEO;zXIRON KLASMA;zTROMIKOPSIFISTON;zPSIFISTOLYGISMA;zTROMIKOLYGISMA;GPARAKALESMA",
  "zPSIFISTOPARAKALESMA;zTROMIKOSYNAGMA;zPSIFISTOSYNAGMA;zGORGOSYNTHETON;zARGOSYNTHETON",
  "zETERON ARGOSYNTHETON;zOYRANISMA NEO;zTHEMATISMOS ESO;MXO;E APLOUN;CS KAI APOTHES;zKATAVASMA",
  "zENDOFONON;zYFEN KATO;EANO;zSTAVROS;zKLASMA ANO;zDIPLI ARCHAION;zKRATIMA ARCHAION;ILLO;HNEO",
  "zAPODERMA NEO;BLI;zDIPLI;zTRIPLI;AETRAPLI;zKORONIS;zLEIMMA ENOS CHRONOU;GDYO CHRONON",
  "GTRION CHRONON;HESSARON CHRONON;GIMISEOS CHRONOU;zGORGON NEO ANO;GPARESTIGMENON ARISTERA",
  "UDEXIA;zDIGORGON;H PARESTIGMENON ARISTERA KATO;ZSTERA ANO;WDEXIA;zTRIGORGON;zARGON",
  "zIMIDIARGON;zDIARGON;zAGOGI POLI ARGI;FARGOTERI;II;FMETRIA;HSI;FGORGI;JOTERI;FPOLI GORGI",
  "zMARTYRIA PROTOS ICHOS;IALLI PROTOS ICHOS;IDEYTEROS ICHOS;IALLI DEYTEROS ICHOS;ITRITOS ICHOS",
  "LFONIAS;JETARTOS ICHOS;RLEGETOS ICHOS;ILEGETOS ICHOS;IPLAGIOS ICHOS;zISAKIA TELOUS ICHIMATOS",
  "zAPOSTROFOI TELOUS ICHIMATOS;zFANEROSIS TETRAFONIAS;JMONOFONIAS;JDIFONIAS",
  "zMARTYRIA VARYS ICHOS;IPROTOVARYS ICHOS;JLAGIOS TETARTOS ICHOS;zGORTHMIKON N APLOUN;MDIPLOUN",
  "zENARXIS KAI FTHORA VOU;zIMIFONON;DTHORON;zFTHORA ARCHAION DEYTEROU ICHOU;GDIATONIKI PA",
  "QNANA;GNAOS ICHOS;GDIATONIKI DI;GSKLIRON DIATONON DI;GDIATONIKI KE;QZO;QNI KATO;TANO",
  "GMALAKON CHROMA DIFONIAS;VMONOFONIAS;AHTORA SKLIRON CHROMA VASIS",
  "ATHORA SKLIRON CHROMA SYNAFI;GNENANO;zCHROA ZYGOS;FKLITON;FSPATHI",
  "zFTHORA I YFESIS TETARTIMORION;GENARMONIOS ANTIFONIA;zYFESIS TRITIMORION;zDIESIS TRITIMORION",
  "HETARTIMORION;GAPLI DYO DODEKATA;GMONOGRAMMOS TESSERA DODEKATA;GDIGRAMMOS EX DODEKATA",
  "GTRIGRAMMOS OKTO DODEKATA;zYFESIS APLI DYO DODEKATA;GMONOGRAMMOS TESSERA DODEKATA",
  "GDIGRAMMOS EX DODEKATA;GTRIGRAMMOS OKTO DODEKATA;zGENIKI DIESIS;GYFESIS;zDIASTOLI APLI MIKRI",
  "OEGALI;IDIPLI;ITHESEOS;zSIMANSIS THESEOS;P DISIMOU;QTRISIMOU;RETRASIMOU;IARSEOS;O DISIMOU",
  "PTRISIMOU;QETRASIMOU;zDIGRAMMA GG;BFTOGGOS OU;zSTIGMA;zARKTIKO PA;HVOU;HGA;HDI;HKE;HZO;HNI",
  "zKENTIMATA NEO MESO;G NEO MESO;GTA NEO KATO;G NEO KATO;ALASMA KATO;zGORGON NEO KATO;+a",
  "aMUSICAL SYMBOL SINGLE BARLINE;pDOUBLE BARLINE;pFINAL BARLINE;pREVERSE FINAL BARLINE",
  "pDASHED BARLINE;pSHORT BARLINE;pLEFT REPEAT SIGN;pRIGHT REPEAT SIGN;qEPEAT DOTS;pDAL SEGNO",
  "r CAPO;pSEGNO;pCODA;pREPEATED FIGURE-1;F2;F3;pFERMATA;w BELOW;pBREATH MARK;pCAESURA;pBRACE",
  "tKET;pONE-LINE STAFF;pTWO-LINE STAFF;qHREE-LINE STAFF;pFOUR-LINE STAFF;qIVE-LINE STAFF",
  "pSIX-LINE STAFF;tSTRING FRETBOARD;pFOUR-STRING FRETBOARD;pG CLEF;v OTTAVA ALTA;DBASSA",
  "pC CLEF;pF CLEF;v OTTAVA ALTA;DBASSA;pDRUM CLEF-1;z2;+2;pMULTIPLE MEASURE REST;pDOUBLE SHARP",
  "wFLAT;pFLAT UP;uDOWN;pNATURAL UP;xDOWN;pSHARP UP;vDOWN;pQUARTER TONE SHARP;CFLAT",
  "pCOMMON TIME;qUT TIME;pOTTAVA ALTA;wBASSA;pQUINDICESIMA ALTA;CBASSA;pMULTI REST;pWHOLE REST",
  "pHALF REST;pQUARTER REST;pEIGHTH REST;pSIXTEENTH REST;pTHIRTY-SECOND REST;pSIXTY-FOURTH REST",
  "pONE HUNDRED TWENTY-EIGHTH REST;pX NOTEHEAD;pPLUS NOTEHEAD;pCIRCLE X NOTEHEAD",
  "pSQUARE NOTEHEAD WHITE;FBLACK;pTRIANGLE NOTEHEAD UP WHITE;KBLACK;HLEFT WHITE;MBLACK",
  "HRIGHT WHITE;NBLACK;HDOWN WHITE;MBLACK;HUP RIGHT WHITE;QBLACK;pMOON NOTEHEAD WHITE;DBLACK",
  "pTRIANGLE-ROUND NOTEHEAD DOWN WHITE;SBLACK;pPARENTHESIS NOTEHEAD;pVOID NOTEHEAD",
  "pNOTEHEAD BLACK;qULL NOTEHEAD;pCLUSTER NOTEHEAD WHITE;GBLACK;pBREVE;pWHOLE NOTE;pHALF NOTE",
  "pQUARTER NOTE;pEIGHTH NOTE;pSIXTEENTH NOTE;pTHIRTY-SECOND NOTE;pSIXTY-FOURTH NOTE",
  "pONE HUNDRED TWENTY-EIGHTH NOTE;pCOMBINING STEM;APRECHGESANG STEM;zTREMOLO-1;H2;H3",
  "pFINGERED TREMOLO-1;G2;G3;pCOMBINING AUGMENTATION DOT;zFLAG-1;E2;E3;E4;E5;pBEGIN BEAM",
  "pEND BEAM;pBEGIN TIE;pEND TIE;pBEGIN SLUR;pEND SLUR;pBEGIN PHRASE;pEND PHRASE",
  "pCOMBINING ACCENT;zSTACCATO;zTENUTO;zSTACCATISSIMO;zMARCATO;G-STACCATO;zACCENT-STACCATO",
  "zLOURE;pARPEGGIATO UP;ADOWN;pCOMBINING DOIT;zRIP;zFLIP;zSMEAR;zBEND;zDOUBLE TONGUE",
  "zTRIPLE TONGUE;pRINFORZANDO;pSUBITO;pZ;pPIANO;pMEZZO;pFORTE;pCRESCENDO;pDECRESCENDO",
  "pGRACE NOTE SLASH;ANO SLASH;pTR;qURN;pINVERTED TURN;pTURN SLASH;uUP;pORNAMENT STROKE-1;F2;F3",
  "F4;F5;F6;F7;F8;F9;F10;G1;pHAUPTSTIMME;pNEBENSTIMME;pEND OF STIMME;pDEGREE SLASH",
  "pCOMBINING DOWN BOW;zUP BOW;zHARMONIC;zSNAP PIZZICATO;pPEDAL MARK;vUP MARK;pHALF PEDAL MARK",
  "pGLISSANDO UP;zDOWN;pWITH FINGERNAILS;pDAMP;t ALL;pMAXIMA;pLONGA;pBREVIS;pSEMIBREVIS WHITE",
  "ABLACK;pMINIMA;v BLACK;pSEMIMINIMA WHITE;ABLACK;pFUSA WHITE;uBLACK;pLONGA PERFECTA REST",
  "vIMPERFECTA REST;pBREVIS REST;pSEMIBREVIS REST;pMINIMA REST;pSEMIMINIMA REST",
  "pTEMPUS PERFECTUM CUM PROLATIONE PERFECTA;VIMPERFECTA;VPERFECTA DIMINUTION-1",
  "wIMPERFECTUM CUM PROLATIONE PERFECTA;XIMPERFECTA;ZPERFECTA DIMINUTION-1",
  "ZPERFECTA DIMINUTION-2;ZPERFECTA DIMINUTION-3;pCROIX;pGREGORIAN C CLEF;zF CLEF;pSQUARE B",
  "pVIRGA;pPODATUS;pCLIVIS;pSCANDICUS;pCLIMACUS;pTORCULUS;pPORRECTUS;y FLEXUS;pSCANDICUS FLEXUS",
  "pTORCULUS RESUPINUS;pPES SUBPUNCTIS;pKIEVAN C CLEF;wEND OF PIECE;wFINAL NOTE",
  "wRECITATIVE MARK;wWHOLE NOTE;wHALF NOTE;wQUARTER NOTE STEM DOWN;OUP;wEIGHTH NOTE STEM DOWN",
  "NUP;wFLAT SIGN;pSORI;pKORON;+15;aGREEK VOCAL NOTATION SYMBOL-1;C2;C3;C4;C5;C6;C7;C8;C9;C10",
  "D1;D2;D3;D4;D5;D6;D7;D8;D9;C20;D1;D2;D3;D4;C50;D1;D2;D3;D4;gINSTRUMENTAL NOTATION SYMBOL-1",
  "J2;J4;J5;J7;J8;J11;K2;K3;K4;K7;K8;K9;J23;K4;K5;K6;K7;K9;J30;K2;K6;K7;K8;K9;J40;K2;K3;K5;K7",
  "K8;K9;J50;K1;K2;K3;K4;aCOMBINING GREEK MUSICAL TRISEME;zETRASEME;yPENTASEME",
  "aGREEK MUSICAL LEIMMA;+9a;aMAYAN NUMERAL ZERO;oONE;oTWO;pHREE;oFOUR;pIVE;oSIX;pEVEN;oEIGHT",
  "oNINE;oTEN;oELEVEN;oTWELVE;pHIRTEEN;oFOURTEEN;pIFTEEN;oSIXTEEN;pEVENTEEN;oEIGHTEEN;oNINETEEN",
  "+c;bONOGRAM FOR EARTH;aDIGRAM FOR HEAVENLY EARTH;mUMAN EARTH;lEARTHLY HEAVEN;uUMAN;q",
  "aTETRAGRAM FOR CENTRE;oFULL CIRCLE;oMIRED;oBARRIER;oKEEPING SMALL;oCONTRARIETY;oASCENT",
  "oOPPOSITION;oBRANCHING OUT;oDEFECTIVENESS OR DISTORTION;pIVERGENCE;oYOUTHFULNESS;oINCREASE",
  "oPENETRATION;oREACH;oCONTACT;oHOLDING BACK;oWAITING;oFOLLOWING;oADVANCE;oRELEASE;qSISTANCE",
  "oEASE;oJOY;oCONTENTION;oENDEAVOUR;oDUTIES;oCHANGE;oDECISIVENESS;oBOLD RESOLUTION;oPACKING",
  "oLEGION;oCLOSENESS;oKINSHIP;oGATHERING;oSTRENGTH;oPURITY;oFULLNESS;oRESIDENCE;oLAW OR MODEL",
  "oRESPONSE;oGOING TO MEET;oENCOUNTERS;oSTOVE;oGREATNESS;oENLARGEMENT;oPATTERN;oRITUAL;oFLIGHT",
  "oVASTNESS OR WASTING;oCONSTANCY;oMEASURE;oETERNITY;oUNITY;oDIMINISHMENT;oCLOSED MOUTH",
  "oGUARDEDNESS;pATHERING IN;oMASSING;oACCUMULATION;oEMBELLISHMENT;oDOUBT;oWATCH;oSINKING",
  "oINNER;oDEPARTURE;pARKENING;pIMMING;oEXHAUSTION;oSEVERANCE;pTOPPAGE;oHARDNESS;oCOMPLETION",
  "pLOSURE;oFAILURE;oAGGRAVATION;oCOMPLIANCE;oON THE VERGE;oDIFFICULTIES;oLABOURING;oFOSTERING",
  "+9;aCOUNTING ROD UNIT DIGIT ONE;yTWO;zHREE;yFOUR;zIVE;ySIX;zEVEN;yEIGHT;yNINE",
  "nTENS DIGIT ONE;yTWO;zHREE;yFOUR;zIVE;ySIX;zEVEN;yEIGHT;yNINE;aIDEOGRAPHIC TALLY MARK ONE",
  "xTWO;yHREE;xFOUR;yIVE;aTALLY MARK ONE;lFIVE;+87;aMATHEMATICAL BOLD CAPITAL A;AB;AC;AD;AE;AF",
  "AG;AH;AI;AJ;AK;AL;AM;AN;AO;AP;AQ;AR;AS;AT;AU;AV;AW;AX;AY;AZ;sSMALL A;yB;yC;yD;yE;yF;yG;yH;yI",
  "yJ;yK;yL;yM;yN;yO;yP;yQ;yR;yS;yT;yU;yV;yW;yX;yY;yZ;nITALIC CAPITAL A;CB;CC;CD;CE;CF;CG;CH;CI",
  "CJ;CK;CL;CM;CN;CO;CP;CQ;CR;CS;CT;CU;CV;CW;CX;CY;CZ;uSMALL A;AB;AC;AD;AE;AF;AG;+1;AI;AJ;AK;AL",
  "AM;AN;AO;AP;AQ;AR;AS;AT;AU;AV;AW;AX;AY;AZ;nBOLD ITALIC CAPITAL A;HB;HC;HD;HE;HF;HG;HH;HI;HJ",
  "HK;HL;HM;HN;HO;HP;HQ;HR;HS;HT;HU;HV;HW;HX;HY;HZ;zSMALL A;FB;FC;FD;FE;FF;FG;FH;FI;FJ;FK;FL;FM",
  "FN;FO;FP;FQ;FR;FS;FT;FU;FV;FW;FX;FY;FZ;nSCRIPT CAPITAL A;+1;CC;CD;+2;CG;+2;CJ;CK;+2;CN;CO;CP",
  "CQ;+1;CS;CT;CU;CV;CW;CX;CY;CZ;uSMALL A;AB;AC;AD;+1;AF;+1;AH;AI;AJ;AK;AL;AM;AN;+1;AP;AQ;AR;AS",
  "AT;AU;AV;AW;AX;AY;AZ;nBOLD SCRIPT CAPITAL A;HB;HC;HD;HE;HF;HG;HH;HI;HJ;HK;HL;HM;HN;HO;HP;HQ",
  "HR;HS;HT;HU;HV;HW;HX;HY;HZ;zSMALL A;FB;FC;FD;FE;FF;FG;FH;FI;FJ;FK;FL;FM;FN;FO;FP;FQ;FR;FS;FT",
  "FU;FV;FW;FX;FY;FZ;nFRAKTUR CAPITAL A;DB;+1;DD;DE;DF;DG;+2;DJ;DK;DL;DM;DN;DO;DP;DQ;+1;DS;DT",
  "DU;DV;DW;DX;DY;+1;vSMALL A;BB;BC;BD;BE;BF;BG;BH;BI;BJ;BK;BL;BM;BN;BO;BP;BQ;BR;BS;BT;BU;BV;BW",
  "BX;BY;BZ;nDOUBLE-STRUCK CAPITAL A;JB;+1;JD;JE;JF;JG;+1;JI;JJ;JK;JL;JM;+1;JO;+3;JS;JT;JU;JV",
  "JW;JX;JY;+1;BSMALL A;HB;HC;HD;HE;HF;HG;HH;HI;HJ;HK;HL;HM;HN;HO;HP;HQ;HR;HS;HT;HU;HV;HW;HX;HY",
  "HZ;nBOLD FRAKTUR CAPITAL A;IB;IC;ID;IE;IF;IG;IH;II;IJ;IK;IL;IM;IN;IO;IP;IQ;IR;IS;IT;IU;IV;IW",
  "IX;IY;IZ;ASMALL A;GB;GC;GD;GE;GF;GG;GH;GI;GJ;GK;GL;GM;GN;GO;GP;GQ;GR;GS;GT;GU;GV;GW;GX;GY;GZ",
  "nSANS-SERIF CAPITAL A;GB;GC;GD;GE;GF;GG;GH;GI;GJ;GK;GL;GM;GN;GO;GP;GQ;GR;GS;GT;GU;GV;GW;GX",
  "GY;GZ;ySMALL A;EB;EC;ED;EE;EF;EG;EH;EI;EJ;EK;EL;EM;EN;EO;EP;EQ;ER;ES;ET;EU;EV;EW;EX;EY;EZ",
  "yBOLD CAPITAL A;LB;LC;LD;LE;LF;LG;LH;LI;LJ;LK;LL;LM;LN;LO;LP;LQ;LR;LS;LT;LU;LV;LW;LX;LY;LZ",
  "DSMALL A;JB;JC;JD;JE;JF;JG;JH;JI;JJ;JK;JL;JM;JN;JO;JP;JQ;JR;JS;JT;JU;JV;JW;JX;JY;JZ",
  "yITALIC CAPITAL A;NB;NC;ND;NE;NF;NG;NH;NI;NJ;NK;NL;NM;NN;NO;NP;NQ;NR;NS;NT;NU;NV;NW;NX;NY;NZ",
  "FSMALL A;LB;LC;LD;LE;LF;LG;LH;LI;LJ;LK;LL;LM;LN;LO;LP;LQ;LR;LS;LT;LU;LV;LW;LX;LY;LZ",
  "yBOLD ITALIC CAPITAL A;SB;SC;SD;SE;SF;SG;SH;SI;SJ;SK;SL;SM;SN;SO;SP;SQ;SR;SS;ST;SU;SV;SW;SX",
  "SY;SZ;KSMALL A;QB;QC;QD;QE;QF;QG;QH;QI;QJ;QK;QL;QM;QN;QO;QP;QQ;QR;QS;QT;QU;QV;QW;QX;QY;QZ",
  "nMONOSPACE CAPITAL A;FB;FC;FD;FE;FF;FG;FH;FI;FJ;FK;FL;FM;FN;FO;FP;FQ;FR;FS;FT;FU;FV;FW;FX;FY",
  "FZ;xSMALL A;DB;DC;DD;DE;DF;DG;DH;DI;DJ;DK;DL;DM;DN;DO;DP;DQ;DR;DS;DT;DU;DV;DW;DX;DY;DZ",
  "nITALIC SMALL DOTLESS I;IJ;+2;nBOLD CAPITAL ALPHA;ABETA;AGAMMA;ADELTA;AEPSILON;AZETA;AETA",
  "ATHETA;AIOTA;AKAPPA;ALAMDA;AMU;ANU;AXI;AOMICRON;API;ARHO;ATHETA SYMBOL;ASIGMA;ATAU;AUPSILON",
  "APHI;ACHI;APSI;AOMEGA;sNABLA;sSMALL ALPHA;yBETA;yGAMMA;yDELTA;yEPSILON;yZETA;yETA;yTHETA",
  "yIOTA;yKAPPA;yLAMDA;yMU;yNU;yXI;yOMICRON;yPI;yRHO;yFINAL SIGMA;ySIGMA;yTAU;yUPSILON;yPHI",
  "yCHI;yPSI;yOMEGA;sPARTIAL DIFFERENTIAL;sEPSILON SYMBOL;sTHETA SYMBOL;sKAPPA SYMBOL",
  "sPHI SYMBOL;sRHO SYMBOL;sPI SYMBOL;nITALIC CAPITAL ALPHA;CBETA;CGAMMA;CDELTA;CEPSILON;CZETA",
  "CETA;CTHETA;CIOTA;CKAPPA;CLAMDA;CMU;CNU;CXI;COMICRON;CPI;CRHO;CTHETA SYMBOL;CSIGMA;CTAU",
  "CUPSILON;CPHI;CCHI;CPSI;COMEGA;uNABLA;uSMALL ALPHA;ABETA;AGAMMA;ADELTA;AEPSILON;AZETA;AETA",
  "ATHETA;AIOTA;AKAPPA;ALAMDA;AMU;ANU;AXI;AOMICRON;API;ARHO;AFINAL SIGMA;ASIGMA;ATAU;AUPSILON",
  "APHI;ACHI;APSI;AOMEGA;uPARTIAL DIFFERENTIAL;uEPSILON SYMBOL;uTHETA SYMBOL;uKAPPA SYMBOL",
  "uPHI SYMBOL;uRHO SYMBOL;uPI SYMBOL;nBOLD ITALIC CAPITAL ALPHA;HBETA;HGAMMA;HDELTA;HEPSILON",
  "HZETA;HETA;HTHETA;HIOTA;HKAPPA;HLAMDA;HMU;HNU;HXI;HOMICRON;HPI;HRHO;HTHETA SYMBOL;HSIGMA",
  "HTAU;HUPSILON;HPHI;HCHI;HPSI;HOMEGA;zNABLA;zSMALL ALPHA;FBETA;FGAMMA;FDELTA;FEPSILON;FZETA",
  "FETA;FTHETA;FIOTA;FKAPPA;FLAMDA;FMU;FNU;FXI;FOMICRON;FPI;FRHO;FFINAL SIGMA;FSIGMA;FTAU",
  "FUPSILON;FPHI;FCHI;FPSI;FOMEGA;zPARTIAL DIFFERENTIAL;zEPSILON SYMBOL;zTHETA SYMBOL",
  "zKAPPA SYMBOL;zPHI SYMBOL;zRHO SYMBOL;zPI SYMBOL;nSANS-SERIF BOLD CAPITAL ALPHA;LBETA;LGAMMA",
  "LDELTA;LEPSILON;LZETA;LETA;LTHETA;LIOTA;LKAPPA;LLAMDA;LMU;LNU;LXI;LOMICRON;LPI;LRHO",
  "LTHETA SYMBOL;LSIGMA;LTAU;LUPSILON;LPHI;LCHI;LPSI;LOMEGA;DNABLA;DSMALL ALPHA;JBETA;JGAMMA",
  "JDELTA;JEPSILON;JZETA;JETA;JTHETA;JIOTA;JKAPPA;JLAMDA;JMU;JNU;JXI;JOMICRON;JPI;JRHO",
  "JFINAL SIGMA;JSIGMA;JTAU;JUPSILON;JPHI;JCHI;JPSI;JOMEGA;DPARTIAL DIFFERENTIAL",
  "DEPSILON SYMBOL;DTHETA SYMBOL;DKAPPA SYMBOL;DPHI SYMBOL;DRHO SYMBOL;DPI SYMBOL",
  "DITALIC CAPITAL ALPHA;SBETA;SGAMMA;SDELTA;SEPSILON;SZETA;SETA;STHETA;SIOTA;SKAPPA;SLAMDA;SMU",
  "SNU;SXI;SOMICRON;SPI;SRHO;STHETA SYMBOL;SSIGMA;STAU;SUPSILON;SPHI;SCHI;SPSI;SOMEGA;KNABLA",
  "KSMALL ALPHA;QBETA;QGAMMA;QDELTA;QEPSILON;QZETA;QETA;QTHETA;QIOTA;QKAPPA;QLAMDA;QMU;QNU;QXI",
  "QOMICRON;QPI;QRHO;QFINAL SIGMA;QSIGMA;QTAU;QUPSILON;QPHI;QCHI;QPSI;QOMEGA",
  "KPARTIAL DIFFERENTIAL;KEPSILON SYMBOL;KTHETA SYMBOL;KKAPPA SYMBOL;KPHI SYMBOL;KRHO SYMBOL",
  "KPI SYMBOL;nBOLD CAPITAL DIGAMMA;sSMALL DIGAMMA;+2;sDIGIT ZERO;yONE;yTWO;zHREE;yFOUR;zIVE",
  "ySIX;zEVEN;yEIGHT;yNINE;nDOUBLE-STRUCK DIGIT ZERO;HONE;HTWO;IHREE;HFOUR;IIVE;HSIX;IEVEN",
  "HEIGHT;HNINE;nSANS-SERIF DIGIT ZERO;EONE;ETWO;FHREE;EFOUR;FIVE;ESIX;FEVEN;EEIGHT;ENINE",
  "yBOLD DIGIT ZERO;JONE;JTWO;KHREE;JFOUR;KIVE;JSIX;KEVEN;JEIGHT;JNINE;nMONOSPACE DIGIT ZERO",
  "DONE;DTWO;EHREE;DFOUR;EIVE;DSIX;EEVEN;DEIGHT;DNINE;aSIGNWRITING HAND-FIST INDEX",
  "rCIRCLE INDEX;sUP INDEX;rOVAL INDEX;rHINGE INDEX;rANGLE INDEX;rFIST INDEX BENT",
  "rCIRCLE INDEX BENT;rFIST THUMB UNDER INDEX BENT;wINDEX RAISED KNUCKLE;CCUPPED;CHINGED;I LOW",
  "rCIRCLE INDEX HINGE;rFIST INDEX MIDDLE;rCIRCLE INDEX MIDDLE;rFIST INDEX MIDDLE BENT",
  "JRAISED KNUCKLES;JHINGED;CUP MIDDLE HINGED;CHINGED MIDDLE UP;CMIDDLE CONJOINED;S INDEX BENT",
  "TMIDDLE BENT;TCUPPED;THINGED;KROSSED;rCIRCLE INDEX MIDDLE CROSSED",
  "rFIST MIDDLE BENT OVER INDEX;wINDEX BENT OVER MIDDLE;CMIDDLE THUMB",
  "rCIRCLE INDEX MIDDLE THUMB;rFIST INDEX MIDDLE STRAIGHT THUMB BENT;JBENT THUMB STRAIGHT",
  "JTHUMB BENT;JHINGED SPREAD THUMB SIDE;CUP MIDDLE HINGED THUMB SIDE;ZCONJOINED",
  "CHINGED MIDDLE UP THUMB SIDE;CMIDDLE UP SPREAD THUMB FORWARD;JTHUMB CUPPED;QIRCLED;PHOOKED",
  "QINGED;wTHUMB BETWEEN INDEX MIDDLE STRAIGHT;wINDEX MIDDLE CONJOINED THUMB SIDE",
  "ZSIDE CONJOINED;ZSIDE BENT;wMIDDLE THUMB HOOKED INDEX UP;wINDEX THUMB HOOKED MIDDLE UP",
  "CMIDDLE CONJOINED HINGED THUMB SIDE;KROSSED THUMB SIDE;KONJOINED THUMB FORWARD",
  "TCUPPED THUMB FORWARD;wMIDDLE THUMB CUPPED INDEX UP;wINDEX THUMB CUPPED MIDDLE UP",
  "wMIDDLE THUMB CIRCLED INDEX UP;XHINGED;wINDEX THUMB ANGLED OUT MIDDLE UP;PIN MIDDLE UP",
  "ICIRCLED MIDDLE UP;CMIDDLE THUMB CONJOINED HINGED;PANGLED OUT;V",
  "wMIDDLE THUMB ANGLED OUT INDEX UP;Z CROSSED;QINDEX UP;wINDEX THUMB HOOKED MIDDLE HINGED",
  "sLAT FOUR FINGERS;I BENT;JHINGED;JCONJOINED;S SPLIT;rCLAW FOUR FINGERS CONJOINED",
  "rFIST FOUR FINGERS CONJOINED BENT;rHINGE FOUR FINGERS CONJOINED;rFLAT FIVE FINGERS SPREAD",
  "wHEEL FIVE FINGERS SPREAD;wFIVE FINGERS SPREAD FOUR BENT;wHEEL FIVE FINGERS SPREAD FOUR BENT",
  "wFIVE FINGERS SPREAD BENT;wHEEL FIVE FINGERS SPREAD BENT;wFIVE FINGERS SPREAD THUMB FORWARD",
  "rCUP FIVE FINGERS SPREAD;O OPEN;rHINGE FIVE FINGERS SPREAD OPEN;rOVAL FIVE FINGERS SPREAD",
  "rFLAT FIVE FINGERS SPREAD HINGED;W THUMB SIDE;XNO THUMB;v;v BETWEEN PALM FACINGS;wHEEL",
  "wTHUMB SIDE;wHEEL THUMB SIDE;wTHUMB BENT;CFORWARD;wSPLIT INDEX THUMB SIDE;CCENTRE",
  "I THUMB SIDE;T BENT;CLITTLE;rCLAW;v THUMB SIDE;wNO THUMB;wTHUMB FORWARD;rHOOK CURLICUE;v",
  "rCUP OPEN;u;u OPEN THUMB SIDE;vTHUMB SIDE;vOPEN NO THUMB;vNO THUMB;vOPEN THUMB FORWARD",
  "vTHUMB FORWARD;tRLICUE OPEN;z;sIRCLE;rOVAL;v THUMB SIDE;wNO THUMB;wTHUMB FORWARD;rHINGE OPEN",
  "B THUMB FORWARD;w;w SMALL;xOPEN THUMB SIDE;xTHUMB SIDE;xOPEN NO THUMB;xNO THUMB",
  "xTHUMB SIDE TOUCHING INDEX;DBETWEEN MIDDLE RING;rANGLE;rFIST INDEX MIDDLE RING",
  "rCIRCLE INDEX MIDDLE RING;rHINGE INDEX MIDDLE RING;rANGLE INDEX MIDDLE RING;rHINGE LITTLE",
  "rFIST INDEX MIDDLE RING BENT;OCONJOINED;rHINGE INDEX MIDDLE RING CONJOINED;rFIST LITTLE DOWN",
  "H RIPPLE STRAIGHT;PCURVED;IOTHERS CIRCLED;DUP;wTHUMB UNDER LITTLE UP;rCIRCLE LITTLE UP",
  "rOVAL LITTLE UP;rANGLE LITTLE UP;rFIST LITTLE RAISED KNUCKLE;DBENT;DTOUCHES THUMB;EHUMB",
  "rHINGE LITTLE THUMB;rFIST LITTLE INDEX THUMB;rHINGE LITTLE INDEX THUMB",
  "rANGLE LITTLE INDEX THUMB INDEX THUMB OUT;ZMB;rFIST LITTLE INDEX;rCIRCLE LITTLE INDEX",
  "rHINGE LITTLE INDEX;rANGLE LITTLE INDEX;rFIST INDEX MIDDLE LITTLE",
  "rCIRCLE INDEX MIDDLE LITTLE;rHINGE INDEX MIDDLE LITTLE;xRING;rANGLE INDEX MIDDLE LITTLE",
  "rFIST INDEX MIDDLE CROSS LITTLE;rCIRCLE INDEX MIDDLE CROSS LITTLE;rFIST RING DOWN",
  "rHINGE RING DOWN INDEX THUMB HOOK MIDDLE;rANGLE RING DOWN MIDDLE THUMB INDEX CROSS",
  "rFIST RING UP;BRAISED KNUCKLE;BLITTLE;rCIRCLE RING LITTLE;rOVAL RING LITTLE",
  "rANGLE RING LITTLE;rFIST RING MIDDLE;H CONJOINED;IRAISED KNUCKLES;BINDEX;BTHUMB",
  "rHOOK RING THUMB;rFIST INDEX RING LITTLE;rCIRCLE INDEX RING LITTLE",
  "sURLICUE INDEX RING LITTLE ON;rHOOK INDEX RING LITTLE OUT;OIN;OUNDER;rCUP INDEX RING LITTLE",
  "rHINGE INDEX RING LITTLE;rANGLE INDEX RING LITTLE OUT;O;rFIST MIDDLE DOWN;rHINGE MIDDLE",
  "rFIST MIDDLE UP;rCIRCLE MIDDLE UP;rFIST MIDDLE RAISED KNUCKLE;DUP THUMB SIDE",
  "rHOOK MIDDLE THUMB;rFIST MIDDLE THUMB LITTLE;DLITTLE;DRING LITTLE;rCIRCLE MIDDLE RING LITTLE",
  "sURLICUE MIDDLE RING LITTLE ON;tP MIDDLE RING LITTLE;rHINGE MIDDLE RING LITTLE",
  "rANGLE MIDDLE RING LITTLE OUT;QIN;P;rCIRCLE MIDDLE RING LITTLE BENT",
  "sLAW MIDDLE RING LITTLE CONJOINED;Y SIDE;rHOOK MIDDLE RING LITTLE CONJOINED OUT;ZIN;Y",
  "sINGE INDEX HINGED;rFIST INDEX THUMB SIDE;rHINGE INDEX THUMB SIDE",
  "rFIST INDEX THUMB SIDE THUMB DIAGONAL;TCONJOINED;TBENT;NINDEX BENT;NBOTH BENT;NINDEX HINGE",
  "IFORWARD INDEX STRAIGHT;WBENT;IHOOK;ICURLICUE;LVE THUMB INSIDE",
  "rCLAW INDEX THUMB CURVE THUMB INSIDE;rFIST INDEX THUMB CURVE THUMB UNDER;JIRCLE",
  "rCUP INDEX THUMB;G OPEN;rHINGE INDEX THUMB OPEN;JLARGE;I;I SMALL;rANGLE INDEX THUMB OUT;JIN",
  "I;rFIST THUMB;B HEEL;CSIDE DIAGONAL;HCONJOINED;HBENT;CFORWARD;CBETWEEN INDEX MIDDLE",
  "KMIDDLE RING;KRING LITTLE;CUNDER TWO FINGERS;COVER TWO FINGERS;CUNDER THREE FINGERS",
  "IFOUR FINGERS;COVER FOUR RAISED KNUCKLES;v;v HEEL;mTOUCH SINGLE;sMULTIPLE;sBETWEEN",
  "mGRASP SINGLE;sMULTIPLE;sBETWEEN;mSTRIKE SINGLE;tMULTIPLE;tBETWEEN;mBRUSH SINGLE;sMULTIPLE",
  "sBETWEEN;mRUB SINGLE;qMULTIPLE;qBETWEEN;mSURFACE SYMBOLS;uBETWEEN;nQUEEZE LARGE SINGLE",
  "uSMALL SINGLE;uLARGE MULTIPLE;uSMALL MULTIPLE;vEQUENTIAL;mFLICK LARGE SINGLE;sSMALL SINGLE",
  "sLARGE MULTIPLE;sSMALL MULTIPLE;tEQUENTIAL;mSQUEEZE FLICK ALTERNATING",
  "mMOVEMENT-HINGE UP DOWN LARGE;JSMALL;ESEQUENTIAL;BDOWN SEQUENTIAL;BUP DOWN ALTERNATING LARGE",
  "VSMALL;BSIDE TO SIDE SCISSORS;vWALLPLANE FINGER CONTACT;vFLOORPLANE FINGER CONTACT",
  "vWALLPLANE SINGLE STRAIGHT SMALL;VMEDIUM;VLARGE;ZEST;MWRIST FLEX;FDOUBLE STRAIGHT",
  "MWRIST FLEX;MALTERNATING;X WRIST FLEX;FCROSS;FTRIPLE STRAIGHT MOVEMENT;MWRIST FLEX",
  "MALTERNATING;X WRIST FLEX;FBEND SMALL;KMEDIUM;KLARGE;FCORNER SMALL;MMEDIUM;MLARGE;MROTATION",
  "GHECK SMALL;LMEDIUM;LLARGE;FBOX SMALL;JMEDIUM;JLARGE;FZIGZAG SMALL;MMEDIUM;MLARGE",
  "FPEAKS SMALL;LMEDIUM;LLARGE;mTRAVEL-WALLPLANE ROTATION-WALLPLANE SINGLE;WDOUBLE;WALTERNATING",
  "MFLOORPLANE SINGLE;XDOUBLE;XALTERNATING;DSHAKING;DARM SPIRAL SINGLE;ODOUBLE;OTRIPLE",
  "mMOVEMENT-DIAGONAL AWAY SMALL;JMEDIUM;JLARGE;OST;ETOWARDS SMALL;MMEDIUM;MLARGE;RST",
  "EBETWEEN AWAY SMALL;RMEDIUM;RLARGE;WST;MTOWARDS SMALL;UMEDIUM;ULARGE;ZST",
  "vFLOORPLANE SINGLE STRAIGHT SMALL;WMEDIUM;WLARGE;ZGEST;NWRIST FLEX;GDOUBLE STRAIGHT",
  "NWRIST FLEX;NALTERNATING;Y WRIST FLEX;GCROSS;GTRIPLE STRAIGHT MOVEMENT;NWRIST FLEX",
  "NALTERNATING MOVEMENT;ZWRIST FLEX;GBEND;GCORNER SMALL;NMEDIUM;NLARGE;HHECK;GBOX SMALL",
  "KMEDIUM;KLARGE;GZIGZAG SMALL;NMEDIUM;NLARGE;GPEAKS SMALL;MMEDIUM;MLARGE",
  "mTRAVEL-FLOORPLANE ROTATION-FLOORPLANE SINGLE;YDOUBLE;YALTERNATING;NWALLPLANE SINGLE;XDOUBLE",
  "XALTERNATING;ESHAKING;mMOVEMENT-WALLPLANE CURVE QUARTER SMALL;TMEDIUM;TLARGE;YST",
  "LHALF-CIRCLE SMALL;XMEDIUM;XLARGE;ZRGEST;LTHREE-QUARTER CIRCLE SMALL;ZCIRCLE MEDIUM",
  "FHUMP SMALL;KMEDIUM;KLARGE;FLOOP SMALL;KMEDIUM;KLARGE;KSMALL DOUBLE;FWAVE CURVE DOUBLE SMALL",
  "XMEDIUM;XLARGE;QTRIPLE SMALL;XMEDIUM;XLARGE;FCURVE THEN STRAIGHT;KD CROSS SMALL;SMEDIUM",
  "mROTATION-WALLPLANE SINGLE;FDOUBLE;FALTERNATE;mMOVEMENT-WALLPLANE SHAKING",
  "FCURVE HITTING FRONT WALL;FHUMP HITTING FRONT WALL;FLOOP HITTING FRONT WALL",
  "FWAVE HITTING FRONT WALL;mROTATION-WALLPLANE SINGLE HITTING FRONT WALL",
  "FDOUBLE HITTING FRONT WALL;FALTERNATING HITTING FRONT WALL",
  "mMOVEMENT-WALLPLANE CURVE HITTING CHEST;FHUMP HITTING CHEST;FLOOP HITTING CHEST",
  "FWAVE HITTING CHEST;mROTATION-WALLPLANE SINGLE HITTING CHEST;FDOUBLE HITTING CHEST",
  "FALTERNATING HITTING CHEST;mMOVEMENT-WALLPLANE WAVE DIAGONAL PATH SMALL;YMEDIUM;YLARGE",
  "vFLOORPLANE CURVE HITTING CEILING SMALL;ZNG LARGE;GHUMP HITTING CEILING SMALL DOUBLE",
  "ZG LARGE DOUBLE;ZG SMALL TRIPLE;ZG LARGE TRIPLE;GLOOP HITTING CEILING SMALL SINGLE",
  "ZG LARGE SINGLE;ZG SMALL DOUBLE;ZG LARGE DOUBLE;GWAVE HITTING CEILING SMALL;ZG LARGE",
  "mROTATION-FLOORPLANE SINGLE HITTING CEILING;GDOUBLE HITTING CEILING",
  "GALTERNATING HITTING CEILING;mMOVEMENT-FLOORPLANE CURVE HITTING FLOOR SMALL;Z LARGE",
  "GHUMP HITTING FLOOR SMALL DOUBLE;ZLARGE DOUBLE;ZTRIPLE SMALL TRIPLE;ZTRIPLE LARGE TRIPLE",
  "GLOOP HITTING FLOOR SMALL SINGLE;ZLARGE SINGLE;ZSMALL DOUBLE;ZLARGE DOUBLE",
  "GWAVE HITTING FLOOR SMALL;ZLARGE;mROTATION-FLOORPLANE SINGLE HITTING FLOOR",
  "GDOUBLE HITTING FLOOR;GALTERNATING HITTING FLOOR;mMOVEMENT-FLOORPLANE CURVE SMALL;MMEDIUM",
  "MLARGE;RST;MCOMBINED;GHUMP SMALL;GLOOP SMALL;GWAVE SNAKE;MMALL;LLARGE",
  "mROTATION-FLOORPLANE SINGLE;GDOUBLE;GALTERNATING;mMOVEMENT-FLOORPLANE SHAKING PARALLEL",
  "vWALLPLANE ARM CIRCLE SMALL SINGLE;QMEDIUM SINGLE;QSMALL DOUBLE;QMEDIUM DOUBLE",
  "vFLOORPLANE ARM CIRCLE HITTING WALL SMALL SINGLE;ZWALL MEDIUM SINGLE;ZWALL LARGE SINGLE",
  "ZWALL SMALL DOUBLE;ZWALL MEDIUM DOUBLE;ZWALL LARGE DOUBLE",
  "vWALLPLANE WRIST CIRCLE FRONT SINGLE;YDOUBLE;vFLOORPLANE WRIST CIRCLE HITTING WALL SINGLE",
  "ZG WALL DOUBLE;vWALLPLANE FINGER CIRCLES SINGLE;UDOUBLE",
  "vFLOORPLANE FINGER CIRCLES HITTING WALL SINGLE;ZING WALL DOUBLE;mDYNAMIC ARROWHEAD SMALL",
  "ELARGE;uFAST;uSLOW;uTENSE;uRELAXED;uSIMULTANEOUS;G ALTERNATING;uEVERY OTHER TIME;uGRADUAL",
  "mHEAD;q RIM;rMOVEMENT-WALLPLANE STRAIGHT;KTILT;AFLOORPLANE STRAIGHT;AWALLPLANE CURVE",
  "AFLOORPLANE CURVE;z CIRCLE;mFACE DIRECTION POSITION NOSE FORWARD TILTING;PUP OR DOWN",
  "Z TILTING;mEYEBROWS STRAIGHT UP;ENEUTRAL;EDOWN;mDREAMY EYEBROWS NEUTRAL DOWN;CDOWN NEUTRAL",
  "CUP NEUTRAL;CNEUTRAL UP;mFOREHEAD NEUTRAL;vCONTACT;vWRINKLED;mEYES OPEN;rSQUEEZED;rCLOSED",
  "p BLINK SINGLE;wMULTIPLE;pS HALF OPEN;rWIDE OPEN;rHALF CLOSED;rWIDENING MOVEMENT;p WINK",
  "pLASHES UP;wDOWN;wFLUTTERING;pGAZE-WALLPLANE STRAIGHT;M DOUBLE;NALTERNATING",
  "uFLOORPLANE STRAIGHT;N DOUBLE;OALTERNATING;uWALLPLANE CURVED;uFLOORPLANE CURVED",
  "uWALLPLANE CIRCLING;mCHEEKS PUFFED;tNEUTRAL;tSUCKED;mTENSE CHEEKS HIGH;zMIDDLE;zLOW;mEARS",
  "mNOSE NEUTRAL;rCONTACT;rWRINKLES;sIGGLES;mAIR BLOWING OUT;qSUCKING IN;qBLOW SMALL ROTATIONS",
  "qSUCK SMALL ROTATIONS;mBREATH INHALE;tEXHALE;mMOUTH CLOSED NEUTRAL;zFORWARD;zCONTACT;sSMILE",
  "x WRINKLED;yOPEN;sFROWN;x WRINKLED;yOPEN;sOPEN CIRCLE;xFORWARD;xWRINKLED;xOVAL;B WRINKLED",
  "CYAWN;xRECTANGLE;G WRINKLED;HYAWN;sKISS;w FORWARD;xWRINKLED;sTENSE;x FORWARD;ySUCKED",
  "mLIPS PRESSED TOGETHER;p LOWER OVER UPPER;qUPPER OVER LOWER;mMOUTH CORNERS;sWRINKLES SINGLE",
  "BDOUBLE;mTONGUE STICKING OUT FAR;tLICKING LIPS;tTIP BETWEEN LIPS;xTOUCHING INSIDE MOUTH",
  "tINSIDE MOUTH RELAXED;tMOVES AGAINST CHEEK;tCENTRE STICKING OUT;AINSIDE MOUTH;nEETH",
  "r MOVEMENT;sON TONGUE;B MOVEMENT;vLIPS;z MOVEMENT;sBITE LIPS;mMOVEMENT-WALLPLANE JAW",
  "vFLOORPLANE JAW;mNECK;mHAIR;mEXCITEMENT;mSHOULDER HIP SPINE;zPOSITIONS",
  "mWALLPLANE SHOULDER HIP MOVE;mFLOORPLANE SHOULDER HIP MOVE;mSHOULDER TILTING FROM WAIST",
  "mTORSO-WALLPLANE STRAIGHT STRETCH;CCURVED BEND;sFLOORPLANE TWISTING",
  "mUPPER BODY TILTING FROM HIP JOINTS;mLIMB COMBINATION;rLENGTH-1;y2;y3;y4;y5;y6;y7;mFINGER",
  "mLOCATION-WALLPLANE SPACE;vFLOORPLANE SPACE;u HEIGHT;vWIDTH;vDEPTH;vHEAD NECK;vTORSO",
  "vLIMBS DIGITS;mCOMMA;mFULL STOP;mSEMICOLON;mCOLON;mPARENTHESIS;+f;mFILL MODIFIER-2;A3;A4;A5",
  "A6;+1;mROTATION MODIFIER-2;E3;E4;E5;E6;E7;E8;E9;E10;F1;F2;F3;F4;F5;F6;+450",
  "aLATIN SMALL LETTER FENG DIGRAPH WITH TRILL;tREVERSED SCRIPT G",
  "gLETTER SMALL CAPITAL TURNED G;gSMALL LETTER REVERSED K;gLETTER SMALL CAPITAL L WITH BELT",
  "gSMALL LETTER LEZH WITH RETROFLEX HOOK;tTURNED Y WITH BELT;tREVERSED ENG",
  "tTURNED R WITH LONG LEG AND RETROFLEX HOOK;u WITH HOOK AND RETROFLEX HOOK",
  "gLETTER RETROFLEX CLICK WITH RETROFLEX HOOK;gSMALL LETTER ESH WITH DOUBLE BAR;M AND CURL",
  "tTURNED T WITH CURL;gLETTER INVERTED GLOTTAL STOP WITH CURL;nSTRETCHED C WITH CURL",
  "oMALL CAPITAL TURNED K;gSMALL LETTER L WITH FISHHOOK;tDEZH DIGRAPH WITH PALATAL HOOK",
  "tL WITH BELT AND PALATAL HOOK;tENG WITH PALATAL HOOK;tTURNED R WITH PALATAL HOOK",
  "tR WITH FISHHOOK AND PALATAL HOOK;tTESH DIGRAPH WITH PALATAL HOOK;tEZH WITH PALATAL HOOK",
  "tDEZH DIGRAPH WITH RETROFLEX HOOK;tI WITH STROKE AND RETROFLEX HOOK;tO WITH RETROFLEX HOOK",
  "tTESH DIGRAPH WITH RETROFLEX HOOK;tC WITH RETROFLEX HOOK;tS WITH CURL;+e1",
  "aCOMBINING GLAGOLITIC LETTER AZU;CBUKY;CVEDE;CGLAGOLI;CDOBRO;CYESTU;CZHIVETE;+1;DEMLJA;CIZHE",
  "DNITIAL IZHE;D;CDJERVI;CKAKO;CLJUDIJE;CMYSLITE;CNASHI;CONU;CPOKOJI;CRITSI;CSLOVO;CTVRIDO",
  "CUKU;CFRITU;CHERU;+2;CSHTA;CTSI;CCHRIVI;CSHA;CYERU;FI;DATI;+1;DU;CSMALL YUS;+1;CYO",
  "CIOTATED SMALL YUS;CBIG YUS;CIOTATED BIG YUS;CFITA;+d5;aNYIAKENG PUACHUE HMONG LETTER MA",
  "ETSA;ENTA;ETA;EHA;ENA;EXA;ENKA;ECA;ELA;ESA;EZA;ENCA;FTSA;EKA;EDA;ENYA;FRA;EVA;ENTXA;ETXA;EFA",
  "ERA;EQA;EYA;ENQA;EPA;EXYA;ENPA;EDLA;ENPLA;EHAH;EMLA;EPLA;EGA;ERRA;EA;FA;EI;EU;EO;FO;EE;FE;EW",
  "+3;xTONE-B;CM;CJ;CV;CS;CG;CD;xSIGN FOR PERSON;GTHING;GLOCATION;GANIMAL;GINVERTEBRATE;CXW XW",
  "yYLLABLE LENGTHENER;+2;xDIGIT ZERO;DONE;DTWO;EHREE;DFOUR;EIVE;DSIX;EEVEN;DEIGHT;DNINE;+4",
  "xLOGOGRAM NYAJ;xCIRCLED CA;+140;aTOTO LETTER PA;mBA;mTA;mDA;mKA;mGA;mMA;mNA;nGA;mSA;mCHA;mYA",
  "mWA;mJA;mHA;mRA;mLA;mI;mBREATHY I;mIU;mBREATHY IU;mU;mE;mBREATHY E;mEO;mBREATHY EO;mO;mAE",
  "mBREATHY AE;mA;fSIGN RISING TONE;+11;aWANCHO LETTER AA;p;oBA;oCA;oDA;oGA;oYA;oPHA;oLA;oNA",
  "oPA;oTA;pHA;oFA;oSA;pHA;oJA;oZA;oWA;oVA;oKA;oO;oAU;oRA;oMA;oKHA;oHA;oE;oI;oNGA;oU;oLLHA;oTSA",
  "pRA;oONG;oAANG;pNG;oING;oON;oEN;oAAN;oNYA;oUEN;oYIH;hTONE TUP;pNI;mKOI;pNI;hDIGIT ZERO;nONE",
  "nTWO;oHREE;nFOUR;oIVE;nSIX;oEVEN;nEIGHT;nNINE;+5;hNGUN SIGN;+4e0;aETHIOPIC SYLLABLE HHYA;vU",
  "vI;vAA;vEE;w;vO;+1;sGURAGE HHWA;sHHWI;vEE;w;+1;sGURAGE MWI;BEE;+1;zQWI;BEE;C;zBWI;BEE;zKWI",
  "BEE;C;zGWI;BEE;C;zFWI;BEE;zPWI;BEE;+1;aMENDE KIKAKUI SYLLABLE M001 KI;A2 KA;A3 KU;z65 KEE",
  "z95 KE;z76 KOO;z48 KO;y179 KUA;y004 WI;A5 WA;A6 WU;y126 WEE;z18 WE;A4 WOO;y045 WO;y194 WUI",
  "z43 WEI;y061 WVI;z49 WVA;y139 WVE;y007 MIN;A8 MAN;A9 MUN;z59 MEN;z94 MON;y154 MUAN;z89 MUEN",
  "y010 BI;A1 BA;A2 BU;y150 BEE;y097 BE;y103 BOO;z38 BO;y013 I;A4 A;A5 U;y163 EE;z00 E;z65 OO",
  "z47 O;z37 EI;A1 IN;A5 IN;z95 AN;z78 EN;y019 SI;z20 SA;A1 SU;y162 SEE;z16 SE;z36 SOO;y079 SO",
  "y196 SIA;y025 LI;A6 LA;A7 LU;z84 LEE;z73 LE;z54 LOO;y153 LO;z10 LONG LE;y016 DI;A7 DA;A8 DU",
  "z89 DEE;y180 DOO;A1 DO;y022 TI;A3 TA;A4 TU;z91 TEE;z55 TE;y104 TOO;y069 TO;z28 JI;A9 JA",
  "z30 JU;y157 JEE;z13 JE;z60 JOO;y063 JO;y175 LONG JO;y031 YI;A2 YA;A3 YU;y109 YEE;y080 YE",
  "y141 YOO;z21 YO;y034 FI;A5 FA;A6 FU;z78 FEE;A5 FE;y133 FOO;y088 FO;y197 FUA;z01 FAN;y037 NIN",
  "A8 NAN;A9 NUN;y117 NEN;z69 NON;z76 HI;y041 HA;y186 HU;y040 HEE;z96 HE;z42 HOO;y140 HO",
  "y083 HEEI;y128 HOOU;y053 HIN;y130 HAN;y087 HUN;z52 HEN;y193 HON;y046 HUAN;z90 NGGI;z43 NGGA",
  "z82 NGGU;y115 NGGEE;z46 NGGE;z56 NGGOO;z20 NGGO;z59 NGGAA;z27 NGGUA;y086 LONG NGGE",
  "y106 LONG NGGOO;z83 LONG NGGO;z55 GI;z11 GA;z68 GU;z90 GEE;z66 GUEI;A7 GUAN;z84 NGEN",
  "y057 NGON;y177 NGUAN;y068 PI;z99 PA;z50 PU;z81 PEE;z51 PE;y102 POO;y066 PO;y145 MBI;y062 MBA",
  "y122 MBU;y047 MBEE;y188 MBEE;y072 MBE;y172 MBOO;A4 MBO;z87 MBUU;z61 LONG MBE;z05 LONG MBOO",
  "z42 LONG MBO;z32 KPI;y092 KPA;z74 KPU;z44 KPEE;y108 KPE;z12 KPOO;z58 KPO;z24 GBI;y056 GBA",
  "y148 GBU;y093 GBEE;y107 GBE;y071 GBOO;A0 GBO;y171 RA;z23 NDI;A9 NDA;A5 NDU;z91 NDEE;z19 NDE",
  "y067 NDOO;A4 NDO;y152 NJA;z92 NJU;z49 NJEE;z34 NJOO;z82 VI;A5 VA;z51 VU;z73 VEE;y085 VE",
  "y144 VOO;y077 VO;y164 NYIN;y058 NYAN;y170 NYUN;y098 NYEN;z60 NYON;+2;oDIGIT ONE;uTWO;vHREE",
  "uFOUR;vIVE;uSIX;vEVEN;uEIGHT;uNINE;oCOMBINING NUMBER TEENS;HNS;FHUNDREDS;FTHOUSANDS",
  "GEN THOUSANDS;FHUNDRED THOUSANDS;FMILLIONS;+29;aADLAM CAPITAL LETTER ALIF;vDAALI;vLAAM;vMIIM",
  "vBA;vSINNYIIYHE;vPE;vBHE;vRA;vE;vFA;vI;vO;vDHA;vYHE;vWAW;vNUN;vKAF;vYA;vU;vJIIM;vCHI;vHA",
  "vQAAF;vGA;vNYA;vTU;vNHA;vVA;vKHA;vGBE;vZAL;vKPO;vSHA;gSMALL LETTER ALIF;tDAALI;tLAAM;tMIIM",
  "tBA;tSINNYIIYHE;tPE;tBHE;tRA;tE;tFA;tI;tO;tDHA;tYHE;tWAW;tNUN;tKAF;tYA;tU;tJIIM;tCHI;tHA",
  "tQAAF;tGA;tNYA;tTU;tNHA;tVA;tKHA;tGBE;tZAL;tKPO;tSHA;gALIF LENGTHENER;gVOWEL LENGTHENER",
  "gGEMINATION MARK;gHAMZA;gCONSONANT MODIFIER;gGEMINATE CONSONANT MODIFIER;gNUKTA",
  "hASALIZATION MARK;+4;gDIGIT ZERO;mONE;mTWO;nHREE;mFOUR;nIVE;mSIX;nEVEN;mEIGHT;mNINE;+4",
  "gINITIAL EXCLAMATION MARK;oQUESTION MARK;+311;aINDIC SIYAQ NUMBER ONE;tTWO;uHREE;tFOUR;uIVE",
  "tSIX;uEVEN;tEIGHT;tNINE;tTEN;uWENTY;uHIRTY;tFORTY;uIFTY;tSIXTY;uEVENTY;tEIGHTY;tNINETY",
  "tONE HUNDRED;tTWO HUNDRED;uHREE HUNDRED;tFOUR HUNDRED;uIVE HUNDRED;tSIX HUNDRED",
  "uEVEN HUNDRED;tEIGHT HUNDRED;tNINE HUNDRED;tONE THOUSAND;tTWO THOUSAND;uHREE THOUSAND",
  "tFOUR THOUSAND;uIVE THOUSAND;tSIX THOUSAND;uEVEN THOUSAND;tEIGHT THOUSAND;tNINE THOUSAND",
  "tTEN THOUSAND;uWENTY THOUSAND;uHIRTY THOUSAND;tFORTY THOUSAND;uIFTY THOUSAND;tSIXTY THOUSAND",
  "uEVENTY THOUSAND;tEIGHTY THOUSAND;tNINETY THOUSAND;tLAKH;xAN;mLAKH MARK;mNUMBER KAROR;yAN"]

def characterNameEntriesG : List String := [
  "tPREFIXED ONE;CTWO;DHREE;CFOUR;DIVE;CSIX;DEVEN;CEIGHT;CNINE;mPLACEHOLDER",
  "mFRACTION ONE QUARTER;zHALF;vTHREE QUARTERS;mRUPEE MARK;mNUMBER ALTERNATE ONE;DTWO",
  "EEN THOUSAND;mALTERNATE LAKH MARK;+4c;aOTTOMAN SIYAQ NUMBER ONE;vTWO;wHREE;vFOUR;wIVE;vSIX",
  "wEVEN;vEIGHT;vNINE;vTEN;wWENTY;wHIRTY;vFORTY;wIFTY;vSIXTY;wEVENTY;vEIGHTY;vNINETY",
  "vONE HUNDRED;vTWO HUNDRED;wHREE HUNDRED;vFOUR HUNDRED;wIVE HUNDRED;vSIX HUNDRED",
  "wEVEN HUNDRED;vEIGHT HUNDRED;vNINE HUNDRED;vONE THOUSAND;vTWO THOUSAND;wHREE THOUSAND",
  "vFOUR THOUSAND;wIVE THOUSAND;vSIX THOUSAND;wEVEN THOUSAND;vEIGHT THOUSAND;vNINE THOUSAND",
  "vTEN THOUSAND;wWENTY THOUSAND;wHIRTY THOUSAND;vFORTY THOUSAND;wIFTY THOUSAND;vSIXTY THOUSAND",
  "wEVENTY THOUSAND;vEIGHTY THOUSAND;vNINETY THOUSAND;oMARRATAN;oALTERNATE NUMBER TWO;GHREE",
  "FFOUR;GIVE;FSIX;GEVEN;FEIGHT;FNINE;FTEN;FFOUR HUNDRED;FSIX HUNDRED;FTWO THOUSAND",
  "GEN THOUSAND;oFRACTION ONE HALF;BSIXTH;+c2;aARABIC MATHEMATICAL ALEF;uBEH;uJEEM;uDAL;+1;uWAW",
  "uZAIN;uHAH;uTAH;uYEH;uKAF;uLAM;uMEEM;uNOON;uSEEN;uAIN;uFEH;uSAD;uQAF;uREH;uSHEEN;uTEH;vHEH",
  "uKHAH;uTHAL;uDAD;uZAH;uGHAIN;uDOTLESS BEH;CNOON;CFEH;CQAF;+1;uINITIAL BEH;CJEEM;+1;CHEH;+2",
  "DAH;+1;CYEH;CKAF;CLAM;CMEEM;CNOON;CSEEN;CAIN;CFEH;CSAD;CQAF;+1;CSHEEN;CTEH;DHEH;CKHAH;+1",
  "CDAD;+1;CGHAIN;+6;uTAILED JEEM;+4;BHAH;+1;BYEH;+1;BLAM;+1;BNOON;BSEEN;BAIN;+1;BSAD;BQAF;+1",
  "BSHEEN;+2;BKHAH;+1;BDAD;+1;BGHAIN;+1;BDOTLESS NOON;+1;JQAF;+1;uSTRETCHED BEH;EJEEM;+1;EHEH",
  "+2;FAH;ETAH;EYEH;EKAF;+1;EMEEM;ENOON;ESEEN;EAIN;EFEH;ESAD;EQAF;+1;ESHEEN;ETEH;FHEH;EKHAH;+1",
  "EDAD;EZAH;EGHAIN;EDOTLESS BEH;+1;MFEH;+1;uLOOPED ALEF;BBEH;BJEEM;BDAL;BHEH;BWAW;BZAIN;BHAH",
  "BTAH;BYEH;+1;BLAM;BMEEM;BNOON;BSEEN;BAIN;BFEH;BSAD;BQAF;BREH;BSHEEN;BTEH;CHEH;BKHAH;BTHAL",
  "BDAD;BZAH;BGHAIN;+5;uDOUBLE-STRUCK BEH;IJEEM;IDAL;+1;IWAW;IZAIN;IHAH;ITAH;IYEH;+1;ILAM;IMEEM",
  "INOON;ISEEN;IAIN;IFEH;ISAD;IQAF;IREH;ISHEEN;ITEH;JHEH;IKHAH;ITHAL;IDAD;IZAH;IGHAIN;+34",
  "uOPERATOR MEEM WITH HAH WITH TATWEEL;DHAH WITH DAL;+10e;aMAHJONG TILE EAST WIND;nSOUTH WIND",
  "nWEST WIND;nNORTH WIND;nRED DRAGON;nGREEN DRAGON;nWHITE DRAGON;nONE OF CHARACTERS",
  "nTWO OF CHARACTERS;oHREE OF CHARACTERS;nFOUR OF CHARACTERS;oIVE OF CHARACTERS",
  "nSIX OF CHARACTERS;oEVEN OF CHARACTERS;nEIGHT OF CHARACTERS;nNINE OF CHARACTERS",
  "nONE OF BAMBOOS;nTWO OF BAMBOOS;oHREE OF BAMBOOS;nFOUR OF BAMBOOS;oIVE OF BAMBOOS",
  "nSIX OF BAMBOOS;oEVEN OF BAMBOOS;nEIGHT OF BAMBOOS;nNINE OF BAMBOOS;nONE OF CIRCLES",
  "nTWO OF CIRCLES;oHREE OF CIRCLES;nFOUR OF CIRCLES;oIVE OF CIRCLES;nSIX OF CIRCLES",
  "oEVEN OF CIRCLES;nEIGHT OF CIRCLES;nNINE OF CIRCLES;nPLUM;nORCHID;nBAMBOO;nCHRYSANTHEMUM",
  "nSPRING;oUMMER;nAUTUMN;nWINTER;nJOKER;nBACK;+4;aDOMINO TILE HORIZONTAL BACK;w-00-00;B1;B2;B3",
  "B4;B5;B6;y1-00;B1;B2;B3;B4;B5;B6;y2-00;B1;B2;B3;B4;B5;B6;y3-00;B1;B2;B3;B4;B5;B6;y4-00;B1;B2",
  "B3;B4;B5;B6;y5-00;B1;B2;B3;B4;B5;B6;y6-00;B1;B2;B3;B4;B5;B6;mVERTICAL BACK;u-00-00;z1;z2;z3",
  "z4;z5;z6;w1-00;z1;z2;z3;z4;z5;z6;w2-00;z1;z2;z3;z4;z5;z6;w3-00;z1;z2;z3;z4;z5;z6;w4-00;z1;z2",
  "z3;z4;z5;z6;w5-00;z1;z2;z3;z4;z5;z6;w6-00;z1;z2;z3;z4;z5;z6;+c;aPLAYING CARD BACK",
  "nACE OF SPADES;nTWO OF SPADES;oHREE OF SPADES;nFOUR OF SPADES;oIVE OF SPADES;nSIX OF SPADES",
  "oEVEN OF SPADES;nEIGHT OF SPADES;nNINE OF SPADES;nTEN OF SPADES;nJACK OF SPADES",
  "nKNIGHT OF SPADES;nQUEEN OF SPADES;nKING OF SPADES;+2;nACE OF HEARTS;nTWO OF HEARTS",
  "oHREE OF HEARTS;nFOUR OF HEARTS;oIVE OF HEARTS;nSIX OF HEARTS;oEVEN OF HEARTS",
  "nEIGHT OF HEARTS;nNINE OF HEARTS;nTEN OF HEARTS;nJACK OF HEARTS;nKNIGHT OF HEARTS",
  "nQUEEN OF HEARTS;nKING OF HEARTS;nRED JOKER;+1;nACE OF DIAMONDS;nTWO OF DIAMONDS",
  "oHREE OF DIAMONDS;nFOUR OF DIAMONDS;oIVE OF DIAMONDS;nSIX OF DIAMONDS;oEVEN OF DIAMONDS",
  "nEIGHT OF DIAMONDS;nNINE OF DIAMONDS;nTEN OF DIAMONDS;nJACK OF DIAMONDS;nKNIGHT OF DIAMONDS",
  "nQUEEN OF DIAMONDS;nKING OF DIAMONDS;nBLACK JOKER;+1;nACE OF CLUBS;nTWO OF CLUBS",
  "oHREE OF CLUBS;nFOUR OF CLUBS;oIVE OF CLUBS;nSIX OF CLUBS;oEVEN OF CLUBS;nEIGHT OF CLUBS",
  "nNINE OF CLUBS;nTEN OF CLUBS;nJACK OF CLUBS;nKNIGHT OF CLUBS;nQUEEN OF CLUBS;nKING OF CLUBS",
  "nWHITE JOKER;nFOOL;nTRUMP-1;t2;t3;t4;t5;t6;t7;t8;t9;t10;u1;u2;u3;u4;u5;u6;u7;u8;u9;t20;u1;+a",
  "aDIGIT ZERO FULL STOP;lCOMMA;gONE COMMA;gTWO COMMA;hHREE COMMA;gFOUR COMMA;hIVE COMMA",
  "gSIX COMMA;hEVEN COMMA;gEIGHT COMMA;gNINE COMMA;cNGBAT CIRCLED SANS-SERIF DIGIT ZERO",
  "iNEGATIVE CIRCLED SANS-SERIF DIGIT ZERO;aCIRCLED ZERO WITH SLASH;iANTICLOCKWISE ARROW",
  "iDOLLAR SIGN WITH OVERLAID BACKSLASH;aPARENTHESIZED LATIN CAPITAL LETTER A;JB;JC;JD;JE;JF;JG",
  "JH;JI;JJ;JK;JL;JM;JN;JO;JP;JQ;JR;JS;JT;JU;JV;JW;JX;JY;JZ",
  "aTORTOISE SHELL BRACKETED LATIN CAPITAL LETTER S;aCIRCLED ITALIC LATIN CAPITAL LETTER C;KR",
  "iCD;iWZ;bOPYLEFT SYMBOL;aSQUARED LATIN CAPITAL LETTER A;DB;DC;DD;DE;DF;DG;DH;DI;DJ;DK;DL;DM",
  "DN;DO;DP;DQ;DR;DS;DT;DU;DV;DW;DX;DY;DZ;iHV;iMV;iSD;jS;iPPV;iWC",
  "aNEGATIVE CIRCLED LATIN CAPITAL LETTER A;MB;MC;MD;ME;MF;MG;MH;MI;MJ;MK;ML;MM;MN;MO;MP;MQ;MR",
  "MS;MT;MU;MV;MW;MX;MY;MZ;aRAISED MC SIGN;iD SIGN;iR SIGN;aCIRCLED CC",
  "j WITH OVERLAID BACKSLASH;iHUMAN FIGURE;aNEGATIVE SQUARED LATIN CAPITAL LETTER A;MB;MC;MD;ME",
  "MF;MG;MH;MI;MJ;MK;ML;MM;MN;MO;MP;MQ;MR;MS;MT;MU;MV;MW;MX;MY;MZ",
  "aCROSSED NEGATIVE SQUARED LATIN CAPITAL LETTER P;aNEGATIVE SQUARED IC;rPA;rSA;rAB;rWC",
  "aSQUARE DJ;gD CL;jOOL;iFREE;iID;iNEW;jG;iOK;iSOS;iUP WITH EXCLAMATION MARK;iVS;iTHREE D",
  "iSECOND SCREEN;iTWO K;iFOUR K;iEIGHT K;iFIVE POINT ONE;iSEVEN POINT ONE",
  "iTWENTY-TWO POINT TWO;iSIXTY P;iONE HUNDRED TWENTY P;iLATIN SMALL LETTER D;iHC;jDR;jI-RES",
  "iLOSSLESS;iSHV;iUHD;iVOD;aMASK WORK SYMBOL;+38;aREGIONAL INDICATOR SYMBOL LETTER A;HB;HC;HD",
  "HE;HF;HG;HH;HI;HJ;HK;HL;HM;HN;HO;HP;HQ;HR;HS;HT;HU;HV;HW;HX;HY;HZ;aSQUARE HIRAGANA HOKA",
  "gD KATAKANA KOKO;rSA;+d;iCJK UNIFIED IDEOGRAPH-624B;E5B57;F3CC;iKATAKANA DE",
  "iCJK UNIFIED IDEOGRAPH-4E8C;E591A;E89E3;E5929;E4EA4;E6620;E7121;E6599;E524D;FF8C;F18D;E65B0",
  "E521D;E7D42;F51F;E8CA9;E58F0;F439;E6F14;F295;F355;E4E00;H9;E904A;E5DE6;E4E2D;E53F3;E6307",
  "E8D70;E6253;E7981;FA7A;E5408;E6E80;F709;H8;E7533;E5272;F5B6;E914D;+4",
  "aTORTOISE SHELL BRACKETED CJK UNIFIED IDEOGRAPH-672C;V4E09;X8C;V5B89;V70B9;V6253;V76D7;V52DD",
  "V6557;+7;aCIRCLED IDEOGRAPH ADVANTAGE;tCCEPT;+e;aROUNDED SYMBOL FOR FU;tLU;tSHOU;tXI",
  "tSHUANGXI;tCAI;+9a;aCYCLONE;aFOGGY;aCLOSED UMBRELLA;aNIGHT WITH STARS",
  "aSUNRISE OVER MOUNTAINS;h;aCITYSCAPE AT DUSK;aSUNSET OVER BUILDINGS;aRAINBOW",
  "aBRIDGE AT NIGHT;aWATER WAVE;aVOLCANO;aMILKY WAY;aEARTH GLOBE EUROPE-AFRICA;mAMERICAS",
  "nSIA-AUSTRALIA;aGLOBE WITH MERIDIANS;aNEW MOON SYMBOL;aWAXING CRESCENT MOON SYMBOL",
  "aFIRST QUARTER MOON SYMBOL;aWAXING GIBBOUS MOON SYMBOL;aFULL MOON SYMBOL",
  "aWANING GIBBOUS MOON SYMBOL;aLAST QUARTER MOON SYMBOL;aWANING CRESCENT MOON SYMBOL",
  "aCRESCENT MOON;aNEW MOON WITH FACE;aFIRST QUARTER MOON WITH FACE",
  "aLAST QUARTER MOON WITH FACE;aFULL MOON WITH FACE;aSUN WITH FACE;aGLOWING STAR",
  "aSHOOTING STAR;aTHERMOMETER;aBLACK DROPLET;aWHITE SUN;j WITH SMALL CLOUD;kBEHIND CLOUD",
  "w WITH RAIN;aCLOUD WITH RAIN;lSNOW;lLIGHTNING;lTORNADO;aFOG;aWIND BLOWING FACE;aHOT DOG",
  "aTACO;aBURRITO;aCHESTNUT;aSEEDLING;aEVERGREEN TREE;aDECIDUOUS TREE;aPALM TREE;aCACTUS",
  "aHOT PEPPER;aTULIP;aCHERRY BLOSSOM;aROSE;aHIBISCUS;aSUNFLOWER;aBLOSSOM;aEAR OF MAIZE;hRICE",
  "aHERB;aFOUR LEAF CLOVER;aMAPLE LEAF;aFALLEN LEAF;aLEAF FLUTTERING IN WIND;aMUSHROOM;aTOMATO",
  "aAUBERGINE;aGRAPES;aMELON;aWATERMELON;aTANGERINE;aLEMON;aBANANA;aPINEAPPLE;aRED APPLE",
  "aGREEN APPLE;aPEAR;dCH;aCHERRIES;aSTRAWBERRY;aHAMBURGER;aSLICE OF PIZZA;aMEAT ON BONE",
  "aPOULTRY LEG;aRICE CRACKER;fBALL;aCOOKED RICE;bURRY AND RICE;aSTEAMING BOWL;bPAGHETTI;aBREAD",
  "aFRENCH FRIES;aROASTED SWEET POTATO;aDANGO;aODEN;aSUSHI;aFRIED SHRIMP",
  "bISH CAKE WITH SWIRL DESIGN;aSOFT ICE CREAM;bHAVED ICE;aICE CREAM;aDOUGHNUT;aCOOKIE",
  "bHOCOLATE BAR;bANDY;aLOLLIPOP;aCUSTARD;aHONEY POT;aSHORTCAKE;aBENTO BOX;aPOT OF FOOD",
  "aCOOKING;aFORK AND KNIFE;aTEACUP WITHOUT HANDLE;aSAKE BOTTLE AND CUP;aWINE GLASS",
  "aCOCKTAIL GLASS;aTROPICAL DRINK;aBEER MUG;aCLINKING BEER MUGS;aBABY BOTTLE",
  "aFORK AND KNIFE WITH PLATE;aBOTTLE WITH POPPING CORK;aPOPCORN;aRIBBON;aWRAPPED PRESENT",
  "aBIRTHDAY CAKE;aJACK-O-LANTERN;aCHRISTMAS TREE;aFATHER CHRISTMAS;bIREWORKS;i SPARKLER",
  "aBALLOON;aPARTY POPPER;aCONFETTI BALL;aTANABATA TREE;aCROSSED FLAGS;aPINE DECORATION",
  "aJAPANESE DOLLS;aCARP STREAMER;aWIND CHIME;aMOON VIEWING CEREMONY;aSCHOOL SATCHEL",
  "aGRADUATION CAP;aHEART WITH TIP ON THE LEFT;aBOUQUET OF FLOWERS;aMILITARY MEDAL",
  "aREMINDER RIBBON;aMUSICAL KEYBOARD WITH JACKS;aSTUDIO MICROPHONE;aLEVEL SLIDER",
  "aCONTROL KNOBS;aBEAMED ASCENDING MUSICAL NOTES;hDESCENDING MUSICAL NOTES;aFILM FRAMES",
  "aADMISSION TICKETS;aCAROUSEL HORSE;aFERRIS WHEEL;aROLLER COASTER;aFISHING POLE AND FISH",
  "aMICROPHONE;bOVIE CAMERA;aCINEMA;aHEADPHONE;aARTIST PALETTE;aTOP HAT;aCIRCUS TENT;aTICKET",
  "aCLAPPER BOARD;aPERFORMING ARTS;aVIDEO GAME;aDIRECT HIT;aSLOT MACHINE;aBILLIARDS;aGAME DIE",
  "aBOWLING;aFLOWER PLAYING CARDS;aMUSICAL NOTE;cLTIPLE MUSICAL NOTES;aSAXOPHONE;aGUITAR",
  "aMUSICAL KEYBOARD;aTRUMPET;aVIOLIN;aMUSICAL SCORE;aRUNNING SHIRT WITH SASH",
  "aTENNIS RACQUET AND BALL;aSKI AND SKI BOOT;aBASKETBALL AND HOOP;aCHEQUERED FLAG;aSNOWBOARDER",
  "aRUNNER;aSURFER;bPORTS MEDAL;aTROPHY;aHORSE RACING;aAMERICAN FOOTBALL;aRUGBY FOOTBALL",
  "aSWIMMER;aWEIGHT LIFTER;aGOLFER;aRACING MOTORCYCLE;hCAR;aCRICKET BAT AND BALL;aVOLLEYBALL",
  "aFIELD HOCKEY STICK AND BALL;aICE HOCKEY STICK AND PUCK;aTABLE TENNIS PADDLE AND BALL",
  "aSNOW CAPPED MOUNTAIN;aCAMPING;aBEACH WITH UMBRELLA;bUILDING CONSTRUCTION;aHOUSE BUILDINGS",
  "aCITYSCAPE;aDERELICT HOUSE BUILDING;aCLASSICAL BUILDING;aDESERT;g ISLAND;aNATIONAL PARK",
  "aSTADIUM;aHOUSE BUILDING;gWITH GARDEN;aOFFICE BUILDING;aJAPANESE POST OFFICE",
  "aEUROPEAN POST OFFICE;aHOSPITAL;aBANK;aAUTOMATED TELLER MACHINE;aHOTEL;aLOVE HOTEL",
  "aCONVENIENCE STORE;aSCHOOL;aDEPARTMENT STORE;aFACTORY;aIZAKAYA LANTERN;aJAPANESE CASTLE",
  "aEUROPEAN CASTLE;aWHITE PENNANT;aBLACK PENNANT;aWAVING WHITE FLAG;hBLACK FLAG;aROSETTE",
  "aBLACK ROSETTE;aLABEL;aBADMINTON RACQUET AND SHUTTLECOCK;bOW AND ARROW;aAMPHORA",
  "aEMOJI MODIFIER FITZPATRICK TYPE-1-2;G3;G4;G5;G6;aRAT;aMOUSE;aOX;aWATER BUFFALO;aCOW;aTIGER",
  "aLEOPARD;aRABBIT;aCAT;aDRAGON;aCROCODILE;aWHALE;aSNAIL;dKE;aHORSE;aRAM;aGOAT;aSHEEP;aMONKEY",
  "aROOSTER;aCHICKEN;aDOG;aPIG;aBOAR;aELEPHANT;aOCTOPUS;aSPIRAL SHELL;aBUG;aANT;aHONEYBEE",
  "aLADY BEETLE;aFISH;aTROPICAL FISH;aBLOWFISH;aTURTLE;aHATCHING CHICK;aBABY CHICK",
  "aFRONT-FACING BABY CHICK;aBIRD;aPENGUIN;aKOALA;aPOODLE;aDROMEDARY CAMEL;aBACTRIAN CAMEL",
  "aDOLPHIN;aMOUSE FACE;aCOW FACE;aTIGER FACE;aRABBIT FACE;aCAT FACE;aDRAGON FACE",
  "aSPOUTING WHALE;aHORSE FACE;aMONKEY FACE;aDOG FACE;aPIG FACE;aFROG FACE;aHAMSTER FACE",
  "aWOLF FACE;aBEAR FACE;aPANDA FACE;bIG NOSE;bAW PRINTS;aCHIPMUNK;aEYES;d;bAR;aNOSE;aMOUTH",
  "aTONGUE;aWHITE UP POINTING BACKHAND INDEX;gDOWN POINTING BACKHAND INDEX",
  "gLEFT POINTING BACKHAND INDEX;gRIGHT POINTING BACKHAND INDEX;aFISTED HAND SIGN",
  "aWAVING HAND SIGN;aOK HAND SIGN;aTHUMBS UP SIGN;hDOWN SIGN;aCLAPPING HANDS SIGN",
  "aOPEN HANDS SIGN;aCROWN;aWOMANS HAT;aEYEGLASSES;aNECKTIE;aT-SHIRT;aJEANS;aDRESS;aKIMONO",
  "aBIKINI;aWOMANS CLOTHES;aPURSE;aHANDBAG;aPOUCH;aMANS SHOE;aATHLETIC SHOE;aHIGH-HEELED SHOE",
  "aWOMANS SANDAL;hBOOTS;aFOOTPRINTS;aBUST IN SILHOUETTE;eS IN SILHOUETTE;bOY;aGIRL;aMAN;aWOMAN",
  "aFAMILY;aMAN AND WOMAN HOLDING HANDS;aTWO MEN HOLDING HANDS;eWOMEN HOLDING HANDS",
  "aPOLICE OFFICER;aWOMAN WITH BUNNY EARS;aBRIDE WITH VEIL;aPERSON WITH BLOND HAIR",
  "aMAN WITH GUA PI MAO;jTURBAN;aOLDER MAN;gWOMAN;aBABY;aCONSTRUCTION WORKER;aPRINCESS",
  "aJAPANESE OGRE;jGOBLIN;aGHOST;aBABY ANGEL;aEXTRATERRESTRIAL ALIEN;aALIEN MONSTER;aIMP;aSKULL",
  "aINFORMATION DESK PERSON;aGUARDSMAN;aDANCER;aLIPSTICK;aNAIL POLISH;aFACE MASSAGE;aHAIRCUT",
  "aBARBER POLE;aSYRINGE;aPILL;aKISS MARK;aLOVE LETTER;aRING;aGEM STONE;aKISS;aBOUQUET",
  "aCOUPLE WITH HEART;aWEDDING;aBEATING HEART;bROKEN HEART;aTWO HEARTS;aSPARKLING HEART",
  "aGROWING HEART;aHEART WITH ARROW;aBLUE HEART;aGREEN HEART;aYELLOW HEART;aPURPLE HEART",
  "aHEART WITH RIBBON;aREVOLVING HEARTS;aHEART DECORATION;aDIAMOND SHAPE WITH A DOT INSIDE",
  "aELECTRIC LIGHT BULB;aANGER SYMBOL;aBOMB;aSLEEPING SYMBOL;aCOLLISION SYMBOL",
  "aSPLASHING SWEAT SYMBOL;aDROPLET;bASH SYMBOL;aPILE OF POO;aFLEXED BICEPS;aDIZZY SYMBOL",
  "aSPEECH BALLOON;aTHOUGHT BALLOON;aWHITE FLOWER;aHUNDRED POINTS SYMBOL;aMONEY BAG",
  "aCURRENCY EXCHANGE;aHEAVY DOLLAR SIGN;aCREDIT CARD;aBANKNOTE WITH YEN SIGN;oDOLLAR SIGN",
  "oEURO SIGN;oPOUND SIGN;aMONEY WITH WINGS;aCHART WITH UPWARDS TREND AND YEN SIGN;aSEAT",
  "aPERSONAL COMPUTER;aBRIEFCASE;aMINIDISC;aFLOPPY DISK;aOPTICAL DISC;aDVD;aFILE FOLDER",
  "aOPEN FILE FOLDER;aPAGE WITH CURL;fFACING UP;aCALENDAR;aTEAR-OFF CALENDAR;aCARD INDEX",
  "bHART WITH UPWARDS TREND;lDOWNWARDS TREND;aBAR CHART;aCLIPBOARD;aPUSHPIN;aROUND PUSHPIN",
  "aPAPERCLIP;aSTRAIGHT RULER;aTRIANGULAR RULER;aBOOKMARK TABS;aLEDGER;aNOTEBOOK",
  "i WITH DECORATIVE COVER;aCLOSED BOOK;aOPEN BOOK;aGREEN BOOK;aBLUE BOOK;aORANGE BOOK;aBOOKS",
  "aNAME BADGE;aSCROLL;aMEMO;aTELEPHONE RECEIVER;aPAGER;aFAX MACHINE;aSATELLITE ANTENNA",
  "aPUBLIC ADDRESS LOUDSPEAKER;aCHEERING MEGAPHONE;aOUTBOX TRAY;aINBOX TRAY;aPACKAGE",
  "aE-MAIL SYMBOL;aINCOMING ENVELOPE;aENVELOPE WITH DOWNWARDS ARROW ABOVE",
  "aCLOSED MAILBOX WITH LOWERED FLAG;uRAISED FLAG;aOPEN MAILBOX WITH RAISED FLAG;sLOWERED FLAG",
  "aPOSTBOX;eAL HORN;aNEWSPAPER;aMOBILE PHONE;m WITH RIGHTWARDS ARROW AT LEFT;aVIBRATION MODE",
  "aMOBILE PHONE OFF;aNO MOBILE PHONES;aANTENNA WITH BARS;aCAMERA;g WITH FLASH;aVIDEO CAMERA",
  "aTELEVISION;aRADIO;aVIDEOCASSETTE;aFILM PROJECTOR;aPORTABLE STEREO;bRAYER BEADS",
  "aTWISTED RIGHTWARDS ARROWS;aCLOCKWISE RIGHTWARDS AND LEFTWARDS OPEN CIRCLE ARROWS",
  "ZWS WITH CIRCLED ONE OVERLAY;kDOWNWARDS AND UPWARDS OPEN CIRCLE ARROWS",
  "aANTICLOCKWISE DOWNWARDS AND UPWARDS OPEN CIRCLE ARROWS;aLOW BRIGHTNESS SYMBOL",
  "aHIGH BRIGHTNESS SYMBOL;aSPEAKER WITH CANCELLATION STROKE;h;h WITH ONE SOUND WAVE",
  "nTHREE SOUND WAVES;aBATTERY;aELECTRIC PLUG;aLEFT-POINTING MAGNIFYING GLASS",
  "aRIGHT-POINTING MAGNIFYING GLASS;aLOCK WITH INK PEN;aCLOSED LOCK WITH KEY;aKEY;aLOCK",
  "aOPEN LOCK;aBELL;e WITH CANCELLATION STROKE;bOOKMARK;aLINK SYMBOL;aRADIO BUTTON",
  "aBACK WITH LEFTWARDS ARROW ABOVE;aEND WITH LEFTWARDS ARROW ABOVE",
  "aON WITH EXCLAMATION MARK WITH LEFT RIGHT ARROW ABOVE;aSOON WITH RIGHTWARDS ARROW ABOVE",
  "aTOP WITH UPWARDS ARROW ABOVE;aNO ONE UNDER EIGHTEEN SYMBOL;aKEYCAP TEN",
  "aINPUT SYMBOL FOR LATIN CAPITAL LETTERS;xSMALL LETTERS;rNUMBERS;rSYMBOLS;rLATIN LETTERS",
  "aFIRE;aELECTRIC TORCH;aWRENCH;aHAMMER;aNUT AND BOLT;aHOCHO;aPISTOL;aMICROSCOPE;aTELESCOPE",
  "aCRYSTAL BALL;aSIX POINTED STAR WITH MIDDLE DOT;aJAPANESE SYMBOL FOR BEGINNER",
  "aTRIDENT EMBLEM;aBLACK SQUARE BUTTON;aWHITE SQUARE BUTTON;aLARGE RED CIRCLE;gBLUE CIRCLE",
  "gORANGE DIAMOND;gBLUE DIAMOND;aSMALL ORANGE DIAMOND;gBLUE DIAMOND;aUP-POINTING RED TRIANGLE",
  "aDOWN-POINTING RED TRIANGLE;aUP-POINTING SMALL RED TRIANGLE",
  "aDOWN-POINTING SMALL RED TRIANGLE;aLOWER RIGHT SHADOWED WHITE CIRCLE",
  "aUPPER RIGHT SHADOWED WHITE CIRCLE;aCIRCLED CROSS POMMEE;bROSS POMMEE WITH HALF-CIRCLE BELOW",
  "m;aNOTCHED LEFT SEMICIRCLE WITH THREE DOTS;iRIGHT SEMICIRCLE WITH THREE DOTS",
  "aSYMBOL FOR MARKS CHAPTER;aWHITE LATIN CROSS;aHEAVY LATIN CROSS;aCELTIC CROSS;aOM SYMBOL",
  "aDOVE OF PEACE;aKAABA;aMOSQUE;aSYNAGOGUE;aMENORAH WITH NINE BRANCHES;aBOWL OF HYGIEIA",
  "aCLOCK FACE ONE OCLOCK;lTWO OCLOCK;mHREE OCLOCK;lFOUR OCLOCK;mIVE OCLOCK;lSIX OCLOCK",
  "mEVEN OCLOCK;lEIGHT OCLOCK;lNINE OCLOCK;lTEN OCLOCK;lELEVEN OCLOCK;lTWELVE OCLOCK",
  "lONE-THIRTY;lTWO-THIRTY;mHREE-THIRTY;lFOUR-THIRTY;mIVE-THIRTY;lSIX-THIRTY;mEVEN-THIRTY",
  "lEIGHT-THIRTY;lNINE-THIRTY;lTEN-THIRTY;lELEVEN-THIRTY;lTWELVE-THIRTY;aRIGHT SPEAKER",
  "n WITH ONE SOUND WAVE;tTHREE SOUND WAVES;aBULLHORN;i WITH SOUND WAVES;aRINGING BELL;aBOOK",
  "aCANDLE;aMANTELPIECE CLOCK;aBLACK SKULL AND CROSSBONES;aNO PIRACY;aHOLE",
  "aMAN IN BUSINESS SUIT LEVITATING;aSLEUTH OR SPY;aDARK SUNGLASSES;aSPIDER;g WEB;aJOYSTICK",
  "aMAN DANCING;aLEFT HAND TELEPHONE RECEIVER;aTELEPHONE RECEIVER WITH PAGE",
  "aRIGHT HAND TELEPHONE RECEIVER;aWHITE TOUCHTONE TELEPHONE;aBLACK TOUCHTONE TELEPHONE",
  "aTELEPHONE ON TOP OF MODEM;aCLAMSHELL MOBILE PHONE;aBACK OF ENVELOPE;aSTAMPED ENVELOPE",
  "aENVELOPE WITH LIGHTNING;aFLYING ENVELOPE;aPEN OVER STAMPED ENVELOPE;aLINKED PAPERCLIPS",
  "aBLACK PUSHPIN;aLOWER LEFT PENCIL;lBALLPOINT PEN;lFOUNTAIN PEN;lPAINTBRUSH;lCRAYON",
  "bEFT WRITING HAND;aTURNED OK HAND SIGN;aRAISED HAND WITH FINGERS SPLAYED",
  "bEVERSED RAISED HAND WITH FINGERS SPLAYED;jTHUMBS UP SIGN;qDOWN SIGN;jVICTORY HAND",
  "jHAND WITH MIDDLE FINGER EXTENDED;bAISED HAND WITH PART BETWEEN MIDDLE AND RING FINGERS",
  "aWHITE DOWN POINTING LEFT HAND INDEX;aSIDEWAYS WHITE LEFT POINTING INDEX",
  "pRIGHT POINTING INDEX;jBLACK LEFT POINTING INDEX;pRIGHT POINTING INDEX",
  "aBLACK LEFT POINTING BACKHAND INDEX;gRIGHT POINTING BACKHAND INDEX",
  "aSIDEWAYS WHITE UP POINTING INDEX;pDOWN POINTING INDEX;jBLACK UP POINTING INDEX",
  "pDOWN POINTING INDEX;aBLACK UP POINTING BACKHAND INDEX;gDOWN POINTING BACKHAND INDEX;gHEART",
  "aDESKTOP COMPUTER;aKEYBOARD AND MOUSE;aTHREE NETWORKED COMPUTERS;aPRINTER;bOCKET CALCULATOR",
  "aBLACK HARD SHELL FLOPPY DISK;aWHITE HARD SHELL FLOPPY DISK;aSOFT SHELL FLOPPY DISK",
  "aTAPE CARTRIDGE;aWIRED KEYBOARD;aONE BUTTON MOUSE;aTWO BUTTON MOUSE;bHREE BUTTON MOUSE",
  "bRACKBALL;aOLD PERSONAL COMPUTER;aHARD DISK;aSCREEN;aPRINTER ICON;aFAX ICON",
  "aOPTICAL DISC ICON;aDOCUMENT WITH TEXT;s AND PICTURE;oPICTURE;aFRAME WITH PICTURE;lTILES",
  "lAN X;aBLACK FOLDER;aFOLDER;aOPEN FOLDER;aCARD INDEX DIVIDERS;fFILE BOX;aFILE CABINET",
  "aEMPTY NOTE;k PAGE;nD;aNOTE;e PAGE;hD;aEMPTY DOCUMENT;gPAGE;kS;aDOCUMENT;aPAGE;eS",
  "aWASTEBASKET;aSPIRAL NOTE PAD;hCALENDAR PAD;aDESKTOP WINDOW;aMINIMIZE;bAXIMIZE;aOVERLAP",
  "aCLOCKWISE RIGHT AND LEFT SEMICIRCLE ARROWS;bANCELLATION X;aINCREASE FONT SIZE SYMBOL",
  "aDECREASE FONT SIZE SYMBOL;aCOMPRESSION;aOLD KEY;aROLLED-UP NEWSPAPER",
  "aPAGE WITH CIRCLED TEXT;aSTOCK CHART;aDAGGER KNIFE;aLIPS;aSPEAKING HEAD IN SILHOUETTE",
  "aTHREE RAYS ABOVE;lBELOW;lLEFT;lRIGHT;aLEFT SPEECH BUBBLE;aRIGHT SPEECH BUBBLE",
  "aTWO SPEECH BUBBLES;bHREE SPEECH BUBBLES;aLEFT THOUGHT BUBBLE;aRIGHT THOUGHT BUBBLE",
  "aLEFT ANGER BUBBLE;aRIGHT ANGER BUBBLE;aMOOD BUBBLE;aLIGHTNING MOOD BUBBLE;o",
  "aBALLOT BOX WITH BALLOT;hSCRIPT X;hBOX WITH SCRIPT X;jLD SCRIPT X;jX WITH BOLD SCRIPT X",
  "aLIGHT CHECK MARK;aBALLOT BOX WITH BOLD CHECK;aWORLD MAP;aMOUNT FUJI;aTOKYO TOWER",
  "aSTATUE OF LIBERTY;bILHOUETTE OF JAPAN;aMOYAI;aGRINNING FACE;n WITH SMILING EYES",
  "aFACE WITH TEARS OF JOY;aSMILING FACE WITH OPEN MOUTH;C AND SMILING EYES;HCOLD SWEAT",
  "HTIGHTLY-CLOSED EYES;sHALO;tORNS;aWINKING FACE;aSMILING FACE WITH SMILING EYES",
  "aFACE SAVOURING DELICIOUS FOOD;aRELIEVED FACE;aSMILING FACE WITH HEART-SHAPED EYES",
  "sSUNGLASSES;dRKING FACE;aNEUTRAL FACE;aEXPRESSIONLESS FACE;aUNAMUSED FACE",
  "aFACE WITH COLD SWEAT;aPENSIVE FACE;aCONFUSED FACE;eOUNDED FACE;aKISSING FACE",
  "aFACE THROWING A KISS;aKISSING FACE WITH SMILING EYES;sCLOSED EYES",
  "aFACE WITH STUCK-OUT TONGUE;A AND WINKING EYE;FTIGHTLY-CLOSED EYES;aDISAPPOINTED FACE",
  "aWORRIED FACE;aANGRY FACE;aPOUTING FACE;aCRYING FACE;aPERSEVERING FACE",
  "aFACE WITH LOOK OF TRIUMPH;aDISAPPOINTED BUT RELIEVED FACE;aFROWNING FACE WITH OPEN MOUTH",
  "aANGUISHED FACE;aFEARFUL FACE;aWEARY FACE;aSLEEPY FACE;aTIRED FACE;aGRIMACING FACE",
  "aLOUDLY CRYING FACE;aFACE WITH OPEN MOUTH;aHUSHED FACE;aFACE WITH OPEN MOUTH AND COLD SWEAT",
  "fSCREAMING IN FEAR;aASTONISHED FACE;aFLUSHED FACE;aSLEEPING FACE;aDIZZY FACE",
  "aFACE WITHOUT MOUTH;j MEDICAL MASK;aGRINNING CAT FACE WITH SMILING EYES",
  "aCAT FACE WITH TEARS OF JOY;aSMILING CAT FACE WITH OPEN MOUTH;wHEART-SHAPED EYES",
  "aCAT FACE WITH WRY SMILE;aKISSING CAT FACE WITH CLOSED EYES;aPOUTING CAT FACE",
  "aCRYING CAT FACE;aWEARY CAT FACE;aSLIGHTLY FROWNING FACE;jSMILING FACE;aUPSIDE-DOWN FACE",
  "aFACE WITH ROLLING EYES;kNO GOOD GESTURE;kOK GESTURE;aPERSON BOWING DEEPLY",
  "aSEE-NO-EVIL MONKEY;aHEAR-NO-EVIL MONKEY;aSPEAK-NO-EVIL MONKEY",
  "aHAPPY PERSON RAISING ONE HAND;aPERSON RAISING BOTH HANDS IN CELEBRATION;hFROWNING",
  "hWITH POUTING FACE;mFOLDED HANDS;aNORTH WEST POINTING LEAF;aSOUTH WEST POINTING LEAF",
  "aNORTH EAST POINTING LEAF;aSOUTH EAST POINTING LEAF;aTURNED NORTH WEST POINTING LEAF",
  "hSOUTH WEST POINTING LEAF;hNORTH EAST POINTING LEAF;hSOUTH EAST POINTING LEAF",
  "aNORTH WEST POINTING VINE LEAF;aSOUTH WEST POINTING VINE LEAF;aNORTH EAST POINTING VINE LEAF",
  "aSOUTH EAST POINTING VINE LEAF;aHEAVY NORTH WEST POINTING VINE LEAF",
  "gSOUTH WEST POINTING VINE LEAF;gNORTH EAST POINTING VINE LEAF;gSOUTH EAST POINTING VINE LEAF",
  "aNORTH WEST POINTING BUD;aSOUTH WEST POINTING BUD;aNORTH EAST POINTING BUD",
  "aSOUTH EAST POINTING BUD;aHEAVY NORTH WEST POINTING BUD;gSOUTH WEST POINTING BUD",
  "gNORTH EAST POINTING BUD;gSOUTH EAST POINTING BUD;bOLLOW QUILT SQUARE ORNAMENT",
  "C IN BLACK SQUARE;aSOLID QUILT SQUARE ORNAMENT;B IN BLACK SQUARE;aLEFTWARDS ROCKET",
  "aUPWARDS ROCKET;aRIGHTWARDS ROCKET;aDOWNWARDS ROCKET;aSCRIPT LIGATURE ET ORNAMENT",
  "aHEAVY SCRIPT LIGATURE ET ORNAMENT;aLIGATURE OPEN ET ORNAMENT",
  "aHEAVY LIGATURE OPEN ET ORNAMENT;gAMPERSAND ORNAMENT;aSWASH AMPERSAND ORNAMENT",
  "bANS-SERIF HEAVY DOUBLE TURNED COMMA QUOTATION MARK ORNAMENT;yCOMMA QUOTATION MARK ORNAMENT",
  "rLOW DOUBLE COMMA QUOTATION MARK ORNAMENT;aHEAVY INTERROBANG ORNAMENT",
  "aSANS-SERIF INTERROBANG ORNAMENT;aHEAVY SANS-SERIF INTERROBANG ORNAMENT;aVERY HEAVY SOLIDUS",
  "lREVERSE SOLIDUS;aCHECKER BOARD;aREVERSE CHECKER BOARD;bOCKET;aHELICOPTER;aSTEAM LOCOMOTIVE",
  "aRAILWAY CAR;aHIGH-SPEED TRAIN;q WITH BULLET NOSE;aTRAIN;aMETRO;aLIGHT RAIL;aSTATION;aTRAM",
  "e CAR;aBUS;aONCOMING BUS;aTROLLEYBUS;aBUS STOP;aMINIBUS;aAMBULANCE;aFIRE ENGINE;aPOLICE CAR",
  "aONCOMING POLICE CAR;aTAXI;aONCOMING TAXI;aAUTOMOBILE;aONCOMING AUTOMOBILE",
  "aRECREATIONAL VEHICLE;aDELIVERY TRUCK;aARTICULATED LORRY;aTRACTOR;aMONORAIL;cUNTAIN RAILWAY",
  "aSUSPENSION RAILWAY;aMOUNTAIN CABLEWAY;aAERIAL TRAMWAY;aSHIP;aROWBOAT;aSPEEDBOAT",
  "aHORIZONTAL TRAFFIC LIGHT;aVERTICAL TRAFFIC LIGHT;aCONSTRUCTION SIGN",
  "aPOLICE CARS REVOLVING LIGHT;aTRIANGULAR FLAG ON POST;aDOOR;aNO ENTRY SIGN;aSMOKING SYMBOL",
  "aNO SMOKING SYMBOL;aPUT LITTER IN ITS PLACE SYMBOL;aDO NOT LITTER SYMBOL",
  "aPOTABLE WATER SYMBOL;aNON-POTABLE WATER SYMBOL;aBICYCLE;aNO BICYCLES;aBICYCLIST",
  "aMOUNTAIN BICYCLIST;aPEDESTRIAN;aNO PEDESTRIANS;aCHILDREN CROSSING;aMENS SYMBOL",
  "aWOMENS SYMBOL;aRESTROOM;aBABY SYMBOL;aTOILET;aWATER CLOSET;aSHOWER;aBATH;eTUB",
  "aPASSPORT CONTROL;aCUSTOMS;aBAGGAGE CLAIM;aLEFT LUGGAGE;aTRIANGLE WITH ROUNDED CORNERS",
  "aPROHIBITED SIGN;aCIRCLED INFORMATION SOURCE;aBOYS SYMBOL;aGIRLS SYMBOL;aCOUCH AND LAMP",
  "aSLEEPING ACCOMMODATION;bHOPPING BAGS;aBELLHOP BELL;cD;aPLACE OF WORSHIP;aOCTAGONAL SIGN",
  "aSHOPPING TROLLEY;bTUPA;aPAGODA;aHINDU TEMPLE;bUT;aELEVATOR;+5;aPLAYGROUND SLIDE;aWHEEL",
  "aRING BUOY;aHAMMER AND WRENCH;aSHIELD;aOIL DRUM;aMOTORWAY;aRAILWAY TRACK;aMOTOR BOAT",
  "aUP-POINTING MILITARY AIRPLANE;mAIRPLANE;mSMALL AIRPLANE;aSMALL AIRPLANE",
  "aNORTHEAST-POINTING AIRPLANE;aAIRPLANE DEPARTURE;jARRIVING;+3;aSATELLITE",
  "aONCOMING FIRE ENGINE;aDIESEL LOCOMOTIVE;aPASSENGER SHIP;aSCOOTER;aMOTOR SCOOTER;aCANOE",
  "aSLED;aFLYING SAUCER;aSKATEBOARD;aAUTO RICKSHAW;aPICKUP TRUCK;aROLLER SKATE;+3",
  "aALCHEMICAL SYMBOL FOR QUINTESSENCE;wAIR;wFIRE;wEARTH;wWATER;wAQUAFORTIS;A REGIA;G-2;BVITAE",
  "G-2;wVINEGAR;D-2;E3;wSULFUR;wPHILOSOPHERS SULFUR;wBLACK SULFUR;wMERCURY SUBLIMATE;N-2;O3",
  "wCINNABAR;wSALT;wNITRE;wVITRIOL;D-2;wROCK SALT;F-2;wGOLD;wSILVER;wIRON ORE;E-2",
  "wCROCUS OF IRON;wREGULUS OF IRON;wCOPPER ORE;wIRON-COPPER ORE;wSUBLIMATE OF COPPER",
  "wCROCUS OF COPPER;M-2;xOPPER ANTIMONIATE;wSALT OF COPPER ANTIMONIATE",
  "xUBLIMATE OF SALT OF COPPER;wVERDIGRIS;wTIN ORE;wLEAD ORE;wANTIMONY ORE",
  "wSUBLIMATE OF ANTIMONY;xALT OF ANTIMONY;xUBLIMATE OF SALT OF ANTIMONY;wVINEGAR OF ANTIMONY",
  "wREGULUS OF ANTIMONY;P-2;D;D-2;E3;E4;wALKALI;C-2;wMARCASITE;wSAL-AMMONIAC;wARSENIC;wREALGAR",
  "D-2;wAURIPIGMENT;wBISMUTH ORE;wTARTAR;C-2;wQUICK LIME;wBORAX;B-2;C3;wALUM;wOIL;wSPIRIT",
  "wTINCTURE;wGUM;wWAX;wPOWDER;wCALX;wTUTTY;wCAPUT MORTUUM;wSCEPTER OF JOVE;wCADUCEUS;wTRIDENT",
  "wSTARRED TRIDENT;wLODESTONE;wSOAP;wURINE;wHORSE DUNG;wASHES;wPOT ASHES;wBRICK",
  "wPOWDERED BRICK;wAMALGAM;wSTRATUM SUPER STRATUM;R-2;xUBLIMATION;wPRECIPITATE;wDISTILL;zSOLVE",
  "E-2;wPURIFY;yTREFACTION;wCRUCIBLE;E-2;F3;F4;F5;wALEMBIC;wBATH OF MARY;EVAPOURS;wRETORT;wHOUR",
  "wNIGHT;wDAY-NIGHT;wMONTH;wHALF DRAM;BOUNCE;+c;aBLACK LEFT-POINTING ISOSCELES RIGHT TRIANGLE",
  "gUP-POINTING ISOSCELES RIGHT TRIANGLE;gRIGHT-POINTING ISOSCELES RIGHT TRIANGLE",
  "gDOWN-POINTING ISOSCELES RIGHT TRIANGLE;gSLIGHTLY SMALL CIRCLE;aMEDIUM BOLD WHITE CIRCLE",
  "aBOLD WHITE CIRCLE;aHEAVY WHITE CIRCLE;aVERY HEAVY WHITE CIRCLE",
  "aEXTREMELY HEAVY WHITE CIRCLE;aWHITE CIRCLE CONTAINING BLACK SMALL CIRCLE;aROUND TARGET",
  "aBLACK TINY SQUARE;gSLIGHTLY SMALL SQUARE;aLIGHT WHITE SQUARE;aMEDIUM WHITE SQUARE",
  "aBOLD WHITE SQUARE;aHEAVY WHITE SQUARE;aVERY HEAVY WHITE SQUARE",
  "aEXTREMELY HEAVY WHITE SQUARE;aWHITE SQUARE CONTAINING BLACK VERY SMALL SQUARE",
  "EMEDIUM SQUARE;aSQUARE TARGET;aBLACK TINY DIAMOND;gVERY SMALL DIAMOND;gMEDIUM SMALL DIAMOND",
  "aWHITE DIAMOND CONTAINING BLACK VERY SMALL DIAMOND;FMEDIUM DIAMOND;aDIAMOND TARGET",
  "aBLACK TINY LOZENGE;gVERY SMALL LOZENGE;gMEDIUM SMALL LOZENGE",
  "aWHITE LOZENGE CONTAINING BLACK SMALL LOZENGE;aTHIN GREEK CROSS;aLIGHT GREEK CROSS",
  "aMEDIUM GREEK CROSS;aBOLD GREEK CROSS;aVERY BOLD GREEK CROSS;fHEAVY GREEK CROSS",
  "aEXTREMELY HEAVY GREEK CROSS;aTHIN SALTIRE;aLIGHT SALTIRE;aMEDIUM SALTIRE;aBOLD SALTIRE",
  "aHEAVY SALTIRE;aVERY HEAVY SALTIRE;aEXTREMELY HEAVY SALTIRE;aLIGHT FIVE SPOKED ASTERISK",
  "aMEDIUM FIVE SPOKED ASTERISK;aBOLD FIVE SPOKED ASTERISK;aHEAVY FIVE SPOKED ASTERISK",
  "aVERY HEAVY FIVE SPOKED ASTERISK;aEXTREMELY HEAVY FIVE SPOKED ASTERISK",
  "aLIGHT SIX SPOKED ASTERISK;aMEDIUM SIX SPOKED ASTERISK;aBOLD SIX SPOKED ASTERISK",
  "aHEAVY SIX SPOKED ASTERISK;aVERY HEAVY SIX SPOKED ASTERISK",
  "aEXTREMELY HEAVY SIX SPOKED ASTERISK;aLIGHT EIGHT SPOKED ASTERISK",
  "aMEDIUM EIGHT SPOKED ASTERISK;aBOLD EIGHT SPOKED ASTERISK;aHEAVY EIGHT SPOKED ASTERISK",
  "aVERY HEAVY EIGHT SPOKED ASTERISK;aLIGHT THREE POINTED BLACK STAR",
  "aMEDIUM THREE POINTED BLACK STAR;aTHREE POINTED BLACK STAR",
  "aMEDIUM THREE POINTED PINWHEEL STAR;aLIGHT FOUR POINTED BLACK STAR",
  "aMEDIUM FOUR POINTED BLACK STAR;aFOUR POINTED BLACK STAR;aMEDIUM FOUR POINTED PINWHEEL STAR",
  "aREVERSE LIGHT FOUR POINTED PINWHEEL STAR;aLIGHT FIVE POINTED BLACK STAR",
  "aHEAVY FIVE POINTED BLACK STAR;aMEDIUM SIX POINTED BLACK STAR;aHEAVY SIX POINTED BLACK STAR",
  "aSIX POINTED PINWHEEL STAR;aMEDIUM EIGHT POINTED BLACK STAR;aHEAVY EIGHT POINTED BLACK STAR",
  "aVERY HEAVY EIGHT POINTED BLACK STAR;aHEAVY EIGHT POINTED PINWHEEL STAR",
  "aLIGHT TWELVE POINTED BLACK STAR;aHEAVY TWELVE POINTED BLACK STAR;vPINWHEEL STAR",
  "aCIRCLED TRIANGLE;aNEGATIVE CIRCLED TRIANGLE;aCIRCLED SQUARE;aNEGATIVE CIRCLED SQUARE;+7",
  "aLARGE ORANGE CIRCLE;gYELLOW CIRCLE;gGREEN CIRCLE;gPURPLE CIRCLE;gBROWN CIRCLE;gRED SQUARE",
  "gBLUE SQUARE;gORANGE SQUARE;gYELLOW SQUARE;gGREEN SQUARE;gPURPLE SQUARE;gBROWN SQUARE;+4",
  "aHEAVY EQUALS SIGN;+f;aLEFTWARDS ARROW WITH SMALL TRIANGLE ARROWHEAD",
  "aUPWARDS ARROW WITH SMALL TRIANGLE ARROWHEAD;aRIGHTWARDS ARROW WITH SMALL TRIANGLE ARROWHEAD",
  "aDOWNWARDS ARROW WITH SMALL TRIANGLE ARROWHEAD",
  "aLEFTWARDS ARROW WITH MEDIUM TRIANGLE ARROWHEAD",
  "aUPWARDS ARROW WITH MEDIUM TRIANGLE ARROWHEAD",
  "aRIGHTWARDS ARROW WITH MEDIUM TRIANGLE ARROWHEAD",
  "aDOWNWARDS ARROW WITH MEDIUM TRIANGLE ARROWHEAD",
  "aLEFTWARDS ARROW WITH LARGE TRIANGLE ARROWHEAD;aUPWARDS ARROW WITH LARGE TRIANGLE ARROWHEAD",
  "aRIGHTWARDS ARROW WITH LARGE TRIANGLE ARROWHEAD",
  "aDOWNWARDS ARROW WITH LARGE TRIANGLE ARROWHEAD;+4",
  "aLEFTWARDS ARROW WITH SMALL EQUILATERAL ARROWHEAD",
  "aUPWARDS ARROW WITH SMALL EQUILATERAL ARROWHEAD",
  "aRIGHTWARDS ARROW WITH SMALL EQUILATERAL ARROWHEAD",
  "aDOWNWARDS ARROW WITH SMALL EQUILATERAL ARROWHEAD",
  "aLEFTWARDS ARROW WITH EQUILATERAL ARROWHEAD;aUPWARDS ARROW WITH EQUILATERAL ARROWHEAD",
  "aRIGHTWARDS ARROW WITH EQUILATERAL ARROWHEAD;aDOWNWARDS ARROW WITH EQUILATERAL ARROWHEAD",
  "aHEAVY LEFTWARDS ARROW WITH EQUILATERAL ARROWHEAD;gUPWARDS ARROW WITH EQUILATERAL ARROWHEAD",
  "gRIGHTWARDS ARROW WITH EQUILATERAL ARROWHEAD;gDOWNWARDS ARROW WITH EQUILATERAL ARROWHEAD",
  "gLEFTWARDS ARROW WITH LARGE EQUILATERAL ARROWHEAD",
  "gUPWARDS ARROW WITH LARGE EQUILATERAL ARROWHEAD",
  "gRIGHTWARDS ARROW WITH LARGE EQUILATERAL ARROWHEAD",
  "gDOWNWARDS ARROW WITH LARGE EQUILATERAL ARROWHEAD",
  "aLEFTWARDS TRIANGLE-HEADED ARROW WITH NARROW SHAFT",
  "aUPWARDS TRIANGLE-HEADED ARROW WITH NARROW SHAFT",
  "aRIGHTWARDS TRIANGLE-HEADED ARROW WITH NARROW SHAFT",
  "aDOWNWARDS TRIANGLE-HEADED ARROW WITH NARROW SHAFT",
  "aLEFTWARDS TRIANGLE-HEADED ARROW WITH MEDIUM SHAFT",
  "aUPWARDS TRIANGLE-HEADED ARROW WITH MEDIUM SHAFT",
  "aRIGHTWARDS TRIANGLE-HEADED ARROW WITH MEDIUM SHAFT",
  "aDOWNWARDS TRIANGLE-HEADED ARROW WITH MEDIUM SHAFT",
  "aLEFTWARDS TRIANGLE-HEADED ARROW WITH BOLD SHAFT",
  "aUPWARDS TRIANGLE-HEADED ARROW WITH BOLD SHAFT",
  "aRIGHTWARDS TRIANGLE-HEADED ARROW WITH BOLD SHAFT",
  "aDOWNWARDS TRIANGLE-HEADED ARROW WITH BOLD SHAFT",
  "aLEFTWARDS TRIANGLE-HEADED ARROW WITH HEAVY SHAFT",
  "aUPWARDS TRIANGLE-HEADED ARROW WITH HEAVY SHAFT",
  "aRIGHTWARDS TRIANGLE-HEADED ARROW WITH HEAVY SHAFT",
  "aDOWNWARDS TRIANGLE-HEADED ARROW WITH HEAVY SHAFT",
  "aLEFTWARDS TRIANGLE-HEADED ARROW WITH VERY HEAVY SHAFT",
  "aUPWARDS TRIANGLE-HEADED ARROW WITH VERY HEAVY SHAFT",
  "aRIGHTWARDS TRIANGLE-HEADED ARROW WITH VERY HEAVY SHAFT",
  "aDOWNWARDS TRIANGLE-HEADED ARROW WITH VERY HEAVY SHAFT;aLEFTWARDS FINGER-POST ARROW",
  "aUPWARDS FINGER-POST ARROW;aRIGHTWARDS FINGER-POST ARROW;aDOWNWARDS FINGER-POST ARROW",
  "aLEFTWARDS SQUARED ARROW;aUPWARDS SQUARED ARROW;aRIGHTWARDS SQUARED ARROW",
  "aDOWNWARDS SQUARED ARROW;aLEFTWARDS COMPRESSED ARROW;aUPWARDS COMPRESSED ARROW",
  "aRIGHTWARDS COMPRESSED ARROW;aDOWNWARDS COMPRESSED ARROW;aLEFTWARDS HEAVY COMPRESSED ARROW",
  "aUPWARDS HEAVY COMPRESSED ARROW;aRIGHTWARDS HEAVY COMPRESSED ARROW",
  "aDOWNWARDS HEAVY COMPRESSED ARROW;aLEFTWARDS HEAVY ARROW;aUPWARDS HEAVY ARROW",
  "aRIGHTWARDS HEAVY ARROW;aDOWNWARDS HEAVY ARROW;+8;aLEFTWARDS SANS-SERIF ARROW",
  "aUPWARDS SANS-SERIF ARROW;aRIGHTWARDS SANS-SERIF ARROW;aDOWNWARDS SANS-SERIF ARROW",
  "aNORTH WEST SANS-SERIF ARROW;gEAST SANS-SERIF ARROW;aSOUTH EAST SANS-SERIF ARROW",
  "gWEST SANS-SERIF ARROW;aLEFT RIGHT SANS-SERIF ARROW;aUP DOWN SANS-SERIF ARROW;+6",
  "aWIDE-HEADED LEFTWARDS LIGHT BARB ARROW;mUPWARDS LIGHT BARB ARROW",
  "mRIGHTWARDS LIGHT BARB ARROW;mDOWNWARDS LIGHT BARB ARROW;mNORTH WEST LIGHT BARB ARROW",
  "sEAST LIGHT BARB ARROW;mSOUTH EAST LIGHT BARB ARROW;sWEST LIGHT BARB ARROW",
  "mLEFTWARDS BARB ARROW;mUPWARDS BARB ARROW;mRIGHTWARDS BARB ARROW;mDOWNWARDS BARB ARROW",
  "mNORTH WEST BARB ARROW;sEAST BARB ARROW;mSOUTH EAST BARB ARROW;sWEST BARB ARROW",
  "mLEFTWARDS MEDIUM BARB ARROW;mUPWARDS MEDIUM BARB ARROW;mRIGHTWARDS MEDIUM BARB ARROW",
  "mDOWNWARDS MEDIUM BARB ARROW;mNORTH WEST MEDIUM BARB ARROW;sEAST MEDIUM BARB ARROW",
  "mSOUTH EAST MEDIUM BARB ARROW;sWEST MEDIUM BARB ARROW;mLEFTWARDS HEAVY BARB ARROW",
  "mUPWARDS HEAVY BARB ARROW;mRIGHTWARDS HEAVY BARB ARROW;mDOWNWARDS HEAVY BARB ARROW",
  "mNORTH WEST HEAVY BARB ARROW;sEAST HEAVY BARB ARROW;mSOUTH EAST HEAVY BARB ARROW",
  "sWEST HEAVY BARB ARROW;mLEFTWARDS VERY HEAVY BARB ARROW;mUPWARDS VERY HEAVY BARB ARROW",
  "mRIGHTWARDS VERY HEAVY BARB ARROW;mDOWNWARDS VERY HEAVY BARB ARROW",
  "mNORTH WEST VERY HEAVY BARB ARROW;sEAST VERY HEAVY BARB ARROW",
  "mSOUTH EAST VERY HEAVY BARB ARROW;sWEST VERY HEAVY BARB ARROW;+8",
  "aLEFTWARDS TRIANGLE ARROWHEAD;aUPWARDS TRIANGLE ARROWHEAD;aRIGHTWARDS TRIANGLE ARROWHEAD",
  "aDOWNWARDS TRIANGLE ARROWHEAD;aLEFTWARDS WHITE ARROW WITHIN TRIANGLE ARROWHEAD",
  "aUPWARDS WHITE ARROW WITHIN TRIANGLE ARROWHEAD",
  "aRIGHTWARDS WHITE ARROW WITHIN TRIANGLE ARROWHEAD",
  "aDOWNWARDS WHITE ARROW WITHIN TRIANGLE ARROWHEAD;aLEFTWARDS ARROW WITH NOTCHED TAIL",
  "aUPWARDS ARROW WITH NOTCHED TAIL;aRIGHTWARDS ARROW WITH NOTCHED TAIL",
  "aDOWNWARDS ARROW WITH NOTCHED TAIL;aHEAVY ARROW SHAFT WIDTH ONE;yTWO THIRDS;yONE HALF;CTHIRD",
  "aLEFTWARDS BOTTOM-SHADED WHITE ARROW;aRIGHTWARDS BOTTOM SHADED WHITE ARROW",
  "aLEFTWARDS TOP SHADED WHITE ARROW;aRIGHTWARDS TOP SHADED WHITE ARROW",
  "aLEFTWARDS LEFT-SHADED WHITE ARROW;aRIGHTWARDS RIGHT-SHADED WHITE ARROW",
  "aLEFTWARDS RIGHT-SHADED WHITE ARROW;aRIGHTWARDS LEFT-SHADED WHITE ARROW",
  "aLEFTWARDS BACK-TILTED SHADOWED WHITE ARROW;aRIGHTWARDS BACK-TILTED SHADOWED WHITE ARROW",
  "aLEFTWARDS FRONT-TILTED SHADOWED WHITE ARROW;aRIGHTWARDS FRONT-TILTED SHADOWED WHITE ARROW",
  "aWHITE ARROW SHAFT WIDTH ONE;yTWO THIRDS;+2;aARROW POINTING UPWARDS THEN NORTH WEST",
  "pRIGHTWARDS THEN CURVING SOUTH WEST;+4e;aCIRCLED CROSS FORMEE WITH FOUR DOTS;ATWO DOTS;u",
  "aLEFT HALF CIRCLE WITH FOUR DOTS;wTHREE DOTS;xWO DOTS;wDOT;q;aDOWNWARD FACING HOOK",
  "qNOTCHED HOOK;qHOOK WITH DOT;qNOTCHED HOOK WITH DOT;aPINCHED FINGERS;aWHITE HEART",
  "aBROWN HEART;aPINCHING HAND;aZIPPER-MOUTH FACE;aMONEY-MOUTH FACE;aFACE WITH THERMOMETER",
  "aNERD FACE;aTHINKING FACE;aFACE WITH HEAD-BANDAGE;aROBOT FACE;aHUGGING FACE",
  "aSIGN OF THE HORNS;aCALL ME HAND;aRAISED BACK OF HAND;aLEFT-FACING FIST;aRIGHT-FACING FIST",
  "aHANDSHAKE;e WITH INDEX AND MIDDLE FINGERS CROSSED;aI LOVE YOU HAND SIGN",
  "aFACE WITH COWBOY HAT;aCLOWN FACE;aNAUSEATED FACE;aROLLING ON THE FLOOR LAUGHING",
  "aDROOLING FACE;aLYING FACE;aFACE PALM;aSNEEZING FACE;aFACE WITH ONE EYEBROW RAISED",
  "aGRINNING FACE WITH STAR EYES;tONE LARGE AND ONE SMALL EYE",
  "aFACE WITH FINGER COVERING CLOSED LIPS;aSERIOUS FACE WITH SYMBOLS COVERING MOUTH",
  "bMILING FACE WITH SMILING EYES AND HAND COVERING MOUTH;aFACE WITH OPEN MOUTH VOMITING",
  "aSHOCKED FACE WITH EXPLODING HEAD;aPREGNANT WOMAN;aBREAST-FEEDING;aPALMS UP TOGETHER;aSELFIE",
  "aPRINCE;aMAN IN TUXEDO;bOTHER CHRISTMAS;aSHRUG;aPERSON DOING CARTWHEEL;aJUGGLING;aFENCER",
  "aMODERN PENTATHLON;aWRESTLERS;bATER POLO;aHANDBALL;aDIVING MASK;aWILTED FLOWER",
  "aDRUM WITH DRUMSTICKS;aCLINKING GLASSES;aTUMBLER GLASS;aSPOON;aGOAL NET;aRIFLE",
  "aFIRST PLACE MEDAL;aSECOND PLACE MEDAL;aTHIRD PLACE MEDAL;aBOXING GLOVE",
  "aMARTIAL ARTS UNIFORM;aCURLING STONE;aLACROSSE STICK AND BALL;aSOFTBALL;aFLYING DISC",
  "aCROISSANT;aAVOCADO;aCUCUMBER;aBACON;aPOTATO;aCARROT;aBAGUETTE BREAD;aGREEN SALAD",
  "aSHALLOW PAN OF FOOD;bTUFFED FLATBREAD;aEGG;aGLASS OF MILK;aPEANUTS;aKIWIFRUIT;aPANCAKES",
  "aDUMPLING;aFORTUNE COOKIE;aTAKEOUT BOX;aCHOPSTICKS;aBOWL WITH SPOON;aCUP WITH STRAW;bOCONUT",
  "aBROCCOLI;aPIE;bRETZEL;aCUT OF MEAT;aSANDWICH;aCANNED FOOD;aLEAFY GREEN;aMANGO;bOON CAKE",
  "aBAGEL;aSMILING FACE WITH SMILING EYES AND THREE HEARTS;aYAWNING FACE",
  "aSMILING FACE WITH TEAR;aFACE WITH PARTY HORN AND PARTY HAT;kUNEVEN EYES AND WAVY MOUTH",
  "aOVERHEATED FACE;aFREEZING FACE;aNINJA;aDISGUISED FACE;aFACE HOLDING BACK TEARS",
  "fWITH PLEADING EYES;aSARI;aLAB COAT;aGOGGLES;aHIKING BOOT;aFLAT SHOE;aCRAB;aLION FACE",
  "aSCORPION;aTURKEY;aUNICORN FACE;aEAGLE;aDUCK;aBAT;aSHARK;aOWL;aFOX FACE;aBUTTERFLY;aDEER",
  "aGORILLA;aLIZARD;aRHINOCEROS;aSHRIMP;bQUID;aGIRAFFE FACE;aZEBRA FACE;aHEDGEHOG;aSAUROPOD",
  "aT-REX;aCRICKET;aKANGAROO;aLLAMA;aPEACOCK;aHIPPOPOTAMUS;aPARROT;aRACCOON;aLOBSTER;aMOSQUITO",
  "bICROBE;aBADGER;aSWAN;aMAMMOTH;aDODO;aSLOTH;aOTTER;bRANGUTAN;aSKUNK;aFLAMINGO;aOYSTER",
  "aBEAVER;bISON;aSEAL;aGUIDE DOG;aPROBING CANE;aEMOJI COMPONENT RED HAIR;qCURLY HAIR;qBALD",
  "qWHITE HAIR;aBONE;aLEG;aFOOT;aTOOTH;aSUPERHERO;fVILLAIN;bAFETY VEST;aEAR WITH HEARING AID",
  "aMOTORIZED WHEELCHAIR;bANUAL WHEELCHAIR;bECHANICAL ARM;lLEG;aCHEESE WEDGE;bUPCAKE",
  "aSALT SHAKER;aBEVERAGE BOX;aGARLIC;aONION;aFALAFEL;aWAFFLE;aBUTTER;aMATE DRINK;aICE CUBE",
  "aBUBBLE TEA;aTROLL;aSTANDING PERSON;aKNEELING PERSON;aDEAF PERSON;aFACE WITH MONOCLE;aADULT",
  "aCHILD;aOLDER ADULT;aBEARDED PERSON;aPERSON WITH HEADSCARF;hIN STEAMY ROOM;hCLIMBING",
  "hIN LOTUS POSITION;aMAGE;aFAIRY;aVAMPIRE;aMERPERSON;aELF;aGENIE;aZOMBIE;aBRAIN;aORANGE HEART",
  "aBILLED CAP;aSCARF;aGLOVES;aCOAT;aSOCKS;aRED GIFT ENVELOPE;aFIRECRACKER;aJIGSAW PUZZLE PIECE",
  "aTEST TUBE;aPETRI DISH;aDNA DOUBLE HELIX;aCOMPASS;aABACUS;aFIRE EXTINGUISHER;aTOOLBOX;aBRICK",
  "aMAGNET;aLUGGAGE;bOTION BOTTLE;aSPOOL OF THREAD;aBALL OF YARN;aSAFETY PIN;aTEDDY BEAR;aBROOM",
  "bASKET;aROLL OF PAPER;aBAR OF SOAP;aSPONGE;aRECEIPT;aNAZAR AMULET;bEUTRAL CHESS KING;oQUEEN",
  "oROOK;oBISHOP;oKNIGHT;oPAWN;aWHITE CHESS KNIGHT ROTATED FORTY-FIVE DEGREES",
  "aBLACK CHESS KNIGHT ROTATED FORTY-FIVE DEGREES",
  "aNEUTRAL CHESS KNIGHT ROTATED FORTY-FIVE DEGREES;aWHITE CHESS KING ROTATED NINETY DEGREES",
  "mQUEEN ROTATED NINETY DEGREES;mROOK ROTATED NINETY DEGREES;mBISHOP ROTATED NINETY DEGREES",
  "mKNIGHT ROTATED NINETY DEGREES;mPAWN ROTATED NINETY DEGREES",
  "aBLACK CHESS KING ROTATED NINETY DEGREES;mQUEEN ROTATED NINETY DEGREES",
  "mROOK ROTATED NINETY DEGREES;mBISHOP ROTATED NINETY DEGREES;mKNIGHT ROTATED NINETY DEGREES",
  "mPAWN ROTATED NINETY DEGREES;aNEUTRAL CHESS KING ROTATED NINETY DEGREES",
  "oQUEEN ROTATED NINETY DEGREES;oROOK ROTATED NINETY DEGREES;oBISHOP ROTATED NINETY DEGREES",
  "oKNIGHT ROTATED NINETY DEGREES;oPAWN ROTATED NINETY DEGREES",
  "aWHITE CHESS KNIGHT ROTATED ONE HUNDRED THIRTY-FIVE DEGREES",
  "aBLACK CHESS KNIGHT ROTATED ONE HUNDRED THIRTY-FIVE DEGREES",
  "aNEUTRAL CHESS KNIGHT ROTATED ONE HUNDRED THIRTY-FIVE DEGREES;aWHITE CHESS TURNED KING",
  "tQUEEN;tROOK;tBISHOP;tKNIGHT;tPAWN;aBLACK CHESS TURNED KING;tQUEEN;tROOK;tBISHOP;tKNIGHT",
  "tPAWN;aNEUTRAL CHESS TURNED KING;vQUEEN;vROOK;vBISHOP;vKNIGHT;vPAWN",
  "aWHITE CHESS KNIGHT ROTATED TWO HUNDRED TWENTY-FIVE DEGREES",
  "aBLACK CHESS KNIGHT ROTATED TWO HUNDRED TWENTY-FIVE DEGREES",
  "aNEUTRAL CHESS KNIGHT ROTATED TWO HUNDRED TWENTY-FIVE DEGREES",
  "aWHITE CHESS KING ROTATED TWO HUNDRED SEVENTY DEGREES",
  "mQUEEN ROTATED TWO HUNDRED SEVENTY DEGREES;mROOK ROTATED TWO HUNDRED SEVENTY DEGREES",
  "mBISHOP ROTATED TWO HUNDRED SEVENTY DEGREES;mKNIGHT ROTATED TWO HUNDRED SEVENTY DEGREES",
  "mPAWN ROTATED TWO HUNDRED SEVENTY DEGREES",
  "aBLACK CHESS KING ROTATED TWO HUNDRED SEVENTY DEGREES",
  "mQUEEN ROTATED TWO HUNDRED SEVENTY DEGREES;mROOK ROTATED TWO HUNDRED SEVENTY DEGREES",
  "mBISHOP ROTATED TWO HUNDRED SEVENTY DEGREES;mKNIGHT ROTATED TWO HUNDRED SEVENTY DEGREES",
  "mPAWN ROTATED TWO HUNDRED SEVENTY DEGREES",
  "aNEUTRAL CHESS KING ROTATED TWO HUNDRED SEVENTY DEGREES",
  "oQUEEN ROTATED TWO HUNDRED SEVENTY DEGREES;oROOK ROTATED TWO HUNDRED SEVENTY DEGREES",
  "oBISHOP ROTATED TWO HUNDRED SEVENTY DEGREES;oKNIGHT ROTATED TWO HUNDRED SEVENTY DEGREES",
  "oPAWN ROTATED TWO HUNDRED SEVENTY DEGREES",
  "aWHITE CHESS KNIGHT ROTATED THREE HUNDRED FIFTEEN DEGREES",
  "aBLACK CHESS KNIGHT ROTATED THREE HUNDRED FIFTEEN DEGREES",
  "aNEUTRAL CHESS KNIGHT ROTATED THREE HUNDRED FIFTEEN DEGREES;aWHITE CHESS EQUIHOPPER",
  "aBLACK CHESS EQUIHOPPER;aNEUTRAL CHESS EQUIHOPPER",
  "aWHITE CHESS EQUIHOPPER ROTATED NINETY DEGREES",
  "aBLACK CHESS EQUIHOPPER ROTATED NINETY DEGREES",
  "aNEUTRAL CHESS EQUIHOPPER ROTATED NINETY DEGREES;aWHITE CHESS KNIGHT-QUEEN;tROOK;tBISHOP",
  "aBLACK CHESS KNIGHT-QUEEN;tROOK;tBISHOP;+c;aXIANGQI RED GENERAL;mMANDARIN;mELEPHANT;mHORSE",
  "mCHARIOT;nANNON;mSOLDIER;iBLACK GENERAL;oMANDARIN;oELEPHANT;oHORSE;oCHARIOT;pANNON;oSOLDIER",
  "+2;aBALLET SHOES;aONE-PIECE SWIMSUIT;aBRIEFS;aSHORTS;aTHONG SANDAL;+3;aDROP OF BLOOD",
  "aADHESIVE BANDAGE;aSTETHOSCOPE;aX-RAY;aCRUTCH;+3;aYO-YO;aKITE;aPARACHUTE;aBOOMERANG",
  "aMAGIC WAND;aPINATA;aNESTING DOLLS;+9;aRINGED PLANET;aCHAIR;aRAZOR;aAXE;aDIYA LAMP;aBANJO",
  "aMILITARY HELMET;aACCORDION;aLONG DRUM;aCOIN;bARPENTRY SAW;aSCREWDRIVER;aLADDER;aHOOK",
  "aMIRROR;aWINDOW;aPLUNGER;aSEWING NEEDLE;aKNOT;aBUCKET;aMOUSE TRAP;aTOOTHBRUSH;aHEADSTONE",
  "aPLACARD;aROCK;aMIRROR BALL;aIDENTIFICATION CARD;aLOW BATTERY;aHAMSA;+3;aFLY;aWORM;aBEETLE",
  "aCOCKROACH;aPOTTED PLANT;aWOOD;aFEATHER;aLOTUS;aCORAL;aEMPTY NEST;aNEST WITH EGGS;+5",
  "aANATOMICAL HEART;aLUNGS;aPEOPLE HUGGING;bREGNANT MAN;jPERSON;bERSON WITH CROWN;+a",
  "aBLUEBERRIES;bELL PEPPER;aOLIVE;aFLATBREAD;aTAMALE;aFONDUE;aTEAPOT;aPOURING LIQUID;aBEANS",
  "aJAR;+6;aMELTING FACE;aSALUTING FACE;aFACE WITH OPEN EYES AND HAND OVER MOUTH;kPEEKING EYE",
  "kDIAGONAL MOUTH;aDOTTED LINE FACE;aBITING LIP;bUBBLES;+8",
  "aHAND WITH INDEX FINGER AND THUMB CROSSED;aRIGHTWARDS HAND;aLEFTWARDS HAND;aPALM DOWN HAND",
  "fUP HAND;aINDEX POINTING AT THE VIEWER;aHEART HANDS;+9;aBLOCK SEXTANT-1;o2;o12;o3;o13;o23",
  "o123;o4;o14;o24;o124;o34;o134;o234;o1234;o5;o15;o25;o125;o35;o235;o1235;o45;o145;o245;o1245",
  "o345;o1345;o2345;o12345;o6;o16;o26;o126;o36;o136;o236;o1236;o46;o146;p246;o346;o1346;o2346",
  "o12346;o56;o156;o256;o1256;o356;o1356;o2356;o12356;o456;o1456;o2456;o12456;o3456;o13456",
  "o23456;aLOWER LEFT BLOCK DIAGONAL LOWER MIDDLE LEFT TO LOWER CENTRE;ZR RIGHT",
  "AUPPER MIDDLE LEFT TO LOWER CENTRE;ZR RIGHT;GLEFT TO LOWER CENTRE",
  "gRIGHT BLOCK DIAGONAL UPPER MIDDLE LEFT TO UPPER CENTRE;ZER RIGHT",
  "BLOWER MIDDLE LEFT TO UPPER CENTRE;ZER RIGHT;HLEFT TO UPPER CENTRE",
  "HMIDDLE LEFT TO UPPER MIDDLE RIGHT;HCENTRE TO LOWER MIDDLE RIGHT;HLEFT TO LOWER MIDDLE RIGHT",
  "HCENTRE TO UPPER MIDDLE RIGHT;HLEFT TO UPPER MIDDLE RIGHT;HCENTRE TO UPPER RIGHT",
  "gLEFT BLOCK DIAGONAL UPPER CENTRE TO UPPER MIDDLE RIGHT;GLEFT TO UPPER MIDDLE RIGHT",
  "GCENTRE TO LOWER MIDDLE RIGHT;GLEFT TO LOWER MIDDLE RIGHT;GCENTRE TO LOWER RIGHT",
  "GMIDDLE LEFT TO LOWER MIDDLE RIGHT",
  "aUPPER RIGHT BLOCK DIAGONAL LOWER MIDDLE LEFT TO LOWER CENTRE;ZER RIGHT",
  "BUPPER MIDDLE LEFT TO LOWER CENTRE;ZER RIGHT;HLEFT TO LOWER CENTRE",
  "gLEFT BLOCK DIAGONAL UPPER MIDDLE LEFT TO UPPER CENTRE;ZR RIGHT",
  "ALOWER MIDDLE LEFT TO UPPER CENTRE;ZR RIGHT;GLEFT TO UPPER CENTRE",
  "GMIDDLE LEFT TO UPPER MIDDLE RIGHT;GCENTRE TO LOWER MIDDLE RIGHT;GLEFT TO LOWER MIDDLE RIGHT",
  "GCENTRE TO UPPER MIDDLE RIGHT;GLEFT TO UPPER MIDDLE RIGHT;GCENTRE TO UPPER RIGHT",
  "gRIGHT BLOCK DIAGONAL UPPER CENTRE TO UPPER MIDDLE RIGHT;HLEFT TO UPPER MIDDLE RIGHT",
  "HCENTRE TO LOWER MIDDLE RIGHT;HLEFT TO LOWER MIDDLE RIGHT;HCENTRE TO LOWER RIGHT",
  "HMIDDLE LEFT TO LOWER MIDDLE RIGHT;gAND RIGHT AND LOWER TRIANGULAR THREE QUARTERS BLOCK",
  "aLEFT AND LOWER AND RIGHT TRIANGULAR THREE QUARTERS BLOCK",
  "aUPPER AND LEFT AND LOWER TRIANGULAR THREE QUARTERS BLOCK",
  "aLEFT AND UPPER AND RIGHT TRIANGULAR THREE QUARTERS BLOCK;fTRIANGULAR ONE QUARTER BLOCK",
  "aUPPER TRIANGULAR ONE QUARTER BLOCK;aRIGHT TRIANGULAR ONE QUARTER BLOCK",
  "aLOWER TRIANGULAR ONE QUARTER BLOCK;aVERTICAL ONE EIGHTH BLOCK-2;A3;A4;A5;A6;A7",
  "aHORIZONTAL ONE EIGHTH BLOCK-2;C3;C4;C5;C6;C7;aLEFT AND LOWER ONE EIGHTH BLOCK",
  "jUPPER ONE EIGHTH BLOCK;aRIGHT AND UPPER ONE EIGHTH BLOCK;kLOWER ONE EIGHTH BLOCK",
  "aUPPER AND LOWER ONE EIGHTH BLOCK;aHORIZONTAL ONE EIGHTH BLOCK-1358;aUPPER ONE QUARTER BLOCK",
  "gTHREE EIGHTHS BLOCK;gFIVE EIGHTHS BLOCK;gTHREE QUARTERS BLOCK;gSEVEN EIGHTHS BLOCK",
  "aRIGHT ONE QUARTER BLOCK;gTHREE EIGHTHS BLOCK;gFIVE EIGHTHS BLOCK;gTHREE QUARTERS BLOCK",
  "gSEVEN EIGHTHS BLOCK;aLEFT HALF MEDIUM SHADE;aRIGHT HALF MEDIUM SHADE",
  "aUPPER HALF MEDIUM SHADE;aLOWER HALF MEDIUM SHADE;aINVERSE MEDIUM SHADE",
  "aUPPER HALF BLOCK AND LOWER HALF INVERSE MEDIUM SHADE",
  "lINVERSE MEDIUM SHADE AND LOWER HALF BLOCK;+1",
  "aLEFT HALF INVERSE MEDIUM SHADE AND RIGHT HALF BLOCK;aCHECKER BOARD FILL",
  "aINVERSE CHECKER BOARD FILL;aHEAVY HORIZONTAL FILL;aUPPER LEFT TO LOWER RIGHT FILL",
  "gRIGHT TO LOWER LEFT FILL;gAND LOWER TRIANGULAR HALF BLOCK",
  "aLEFT AND RIGHT TRIANGULAR HALF BLOCK;aUPPER LEFT TRIANGULAR MEDIUM SHADE",
  "gRIGHT TRIANGULAR MEDIUM SHADE;aLOWER RIGHT TRIANGULAR MEDIUM SHADE",
  "gLEFT TRIANGULAR MEDIUM SHADE;aBOX DRAWINGS LIGHT DIAGONAL UPPER CENTRE TO MIDDLE LEFT",
  "ZRIGHT;CMIDDLE LEFT TO LOWER CENTRE;JRIGHT TO LOWER CENTRE",
  "CUPPER CENTRE TO MIDDLE LEFT TO LOWER CENTRE;ZRIGHT TO LOWER CENTRE",
  "CMIDDLE LEFT TO LOWER CENTRE TO MIDDLE RIGHT;RUPPER CENTRE TO MIDDLE RIGHT",
  "CUPPER CENTRE TO MIDDLE LEFT AND MIDDLE RIGHT TO LOWER CENTRE",
  "ZRIGHT AND MIDDLE LEFT TO LOWER CENTRE;ZRIGHT TO LOWER CENTRE TO MIDDLE LEFT",
  "ZLEFT TO LOWER CENTRE TO MIDDLE RIGHT",
  "CMIDDLE LEFT TO UPPER CENTRE TO MIDDLE RIGHT TO LOWER CENTRE",
  "JRIGHT TO UPPER CENTRE TO MIDDLE LEFT TO LOWER CENTRE;CDIAMOND",
  "tHORIZONTAL WITH VERTICAL STROKE;aARROWHEAD-SHAPED POINTER;aINVERSE CHECK MARK",
  "aLEFT HALF RUNNING MAN;aRIGHT HALF RUNNING MAN;aINVERSE DOWNWARDS ARROW WITH TIP LEFTWARDS",
  "aLEFTWARDS ARROW AND UPPER AND LOWER ONE EIGHTH BLOCK",
  "aRIGHTWARDS ARROW AND UPPER AND LOWER ONE EIGHTH BLOCK",
  "aDOWNWARDS ARROW AND RIGHT ONE EIGHTH BLOCK;aUPWARDS ARROW AND RIGHT ONE EIGHTH BLOCK",
  "aLEFT HALF FOLDER;aRIGHT HALF FOLDER;aVOIDED GREEK CROSS;aRIGHT OPEN SQUARED DOT",
  "aNEGATIVE DIAGONAL CROSS;sMIDDLE RIGHT TO LOWER CENTRE;sDIAMOND",
  "aWHITE HEAVY SALTIRE WITH ROUNDED CORNERS;aLEFT THIRD WHITE RIGHT POINTING INDEX",
  "aMIDDLE THIRD WHITE RIGHT POINTING INDEX;aRIGHT THIRD WHITE RIGHT POINTING INDEX",
  "aNEGATIVE SQUARED QUESTION MARK;aSTICK FIGURE;m WITH ARMS RAISED;nLEANING LEFT;vRIGHT",
  "nWITH DRESS;aWHITE UP-POINTING CHEVRON;+25;aSEGMENTED DIGIT ZERO;qONE;qTWO;rHREE;qFOUR;rIVE",
  "qSIX;rEVEN;qEIGHT;qNINE;+c0407;aLANGUAGE TAG;+1e;aTAG SPACE;eEXCLAMATION MARK",
  "eQUOTATION MARK;eNUMBER SIGN;eDOLLAR SIGN;ePERCENT SIGN;eAMPERSAND;fPOSTROPHE",
  "eLEFT PARENTHESIS;eRIGHT PARENTHESIS;eASTERISK;ePLUS SIGN;eCOMMA;eHYPHEN-MINUS;eFULL STOP",
  "eSOLIDUS;eDIGIT ZERO;kONE;kTWO;lHREE;kFOUR;lIVE;kSIX;lEVEN;kEIGHT;kNINE;eCOLON;eSEMICOLON",
  "eLESS-THAN SIGN;eEQUALS SIGN;eGREATER-THAN SIGN;eQUESTION MARK;eCOMMERCIAL AT",
  "eLATIN CAPITAL LETTER A;zB;zC;zD;zE;zF;zG;zH;zI;zJ;zK;zL;zM;zN;zO;zP;zQ;zR;zS;zT;zU;zV;zW;zX",
  "zY;zZ;fEFT SQUARE BRACKET;eREVERSE SOLIDUS;fIGHT SQUARE BRACKET;eCIRCUMFLEX ACCENT;eLOW LINE",
  "eGRAVE ACCENT;eLATIN SMALL LETTER A;xB;xC;xD;xE;xF;xG;xH;xI;xJ;xK;xL;xM;xN;xO;xP;xQ;xR;xS;xT",
  "xU;xV;xW;xX;xY;xZ;fEFT CURLY BRACKET;eVERTICAL LINE;eRIGHT CURLY BRACKET;eTILDE;aCANCEL TAG",
  "+80;aVARIATION SELECTOR-17;u8;u9;t20;u1;u2;u3;u4;u5;u6;u7;u8;u9;t30;u1;u2;u3;u4;u5;u6;u7;u8",
  "u9;t40;u1;u2;u3;u4;u5;u6;u7;u8;u9;t50;u1;u2;u3;u4;u5;u6;u7;u8;u9;t60;u1;u2;u3;u4;u5;u6;u7;u8",
  "u9;t70;u1;u2;u3;u4;u5;u6;u7;u8;u9;t80;u1;u2;u3;u4;u5;u6;u7;u8;u9;t90;u1;u2;u3;u4;u5;u6;u7;u8",
  "u9;t100;v1;v2;v3;v4;v5;v6;v7;v8;v9;u10;v1;v2;v3;v4;v5;v6;v7;v8;v9;u20;v1;v2;v3;v4;v5;v6;v7",
  "v8;v9;u30;v1;v2;v3;v4;v5;v6;v7;v8;v9;u40;v1;v2;v3;v4;v5;v6;v7;v8;v9;u50;v1;v2;v3;v4;v5;v6;v7",
  "v8;v9;u60;v1;v2;v3;v4;v5;v6;v7;v8;v9;u70;v1;v2;v3;v4;v5;v6;v7;v8;v9;u80;v1;v2;v3;v4;v5;v6;v7",
  "v8;v9;u90;v1;v2;v3;v4;v5;v6;v7;v8;v9;t200;v1;v2;v3;v4;v5;v6;v7;v8;v9;u10;v1;v2;v3;v4;v5;v6",
  "v7;v8;v9;u20;v1;v2;v3;v4;v5;v6;v7;v8;v9;u30;v1;v2;v3;v4;v5;v6;v7;v8;v9;u40;v1;v2;v3;v4;v5;v6",
  "v7;v8;v9;u50;v1;v2;v3;v4;v5;v6"]

def characterNameEntries : List (List String) :=
  [characterNameEntriesA, characterNameEntriesB, characterNameEntriesC,
    characterNameEntriesD, characterNameEntriesE, characterNameEntriesF, characterNameEntriesG]

def characterAliasEntries : List String := [
  "NULL=0;NUL=0;START OF HEADING=1;SOH=1;START OF TEXT=2;STX=2;END OF TEXT=3;ETX=3",
  "END OF TRANSMISSION=4;EOT=4;ENQUIRY=5;ENQ=5;ACKNOWLEDGE=6;ACK=6;ALERT=7;BEL=7;BACKSPACE=8",
  "BS=8;CHARACTER TABULATION=9;HORIZONTAL TABULATION=9;HT=9;TAB=9;LINE FEED=A;NEW LINE=A",
  "END OF LINE=A;EOL=A;LF=A;NL=A;LINE TABULATION=B;VERTICAL TABULATION=B;VT=B;FORM FEED=C;FF=C",
  "CARRIAGE RETURN=D;CR=D;SHIFT OUT=E;LOCKING-SHIFT ONE=E;SO=E;SHIFT IN=F;LOCKING-SHIFT ZERO=F",
  "SI=F;DATA LINK ESCAPE=10;DLE=10;DEVICE CONTROL ONE=11;DC1=11;DEVICE CONTROL TWO=12;DC2=12",
  "DEVICE CONTROL THREE=13;DC3=13;DEVICE CONTROL FOUR=14;DC4=14;NEGATIVE ACKNOWLEDGE=15;NAK=15",
  "SYNCHRONOUS IDLE=16;SYN=16;END OF TRANSMISSION BLOCK=17;ETB=17;CANCEL=18;CAN=18",
  "END OF MEDIUM=19;EOM=19;SUBSTITUTE=1A;SUB=1A;ESCAPE=1B;ESC=1B;INFORMATION SEPARATOR FOUR=1C",
  "FILE SEPARATOR=1C;FS=1C;INFORMATION SEPARATOR THREE=1D;GROUP SEPARATOR=1D;GS=1D",
  "INFORMATION SEPARATOR TWO=1E;RECORD SEPARATOR=1E;RS=1E;INFORMATION SEPARATOR ONE=1F",
  "UNIT SEPARATOR=1F;US=1F;SP=20;DELETE=7F;DEL=7F;PADDING CHARACTER=80;PAD=80",
  "HIGH OCTET PRESET=81;HOP=81;BREAK PERMITTED HERE=82;BPH=82;NO BREAK HERE=83;NBH=83;INDEX=84",
  "IND=84;NEXT LINE=85;NEL=85;START OF SELECTED AREA=86;SSA=86;END OF SELECTED AREA=87;ESA=87",
  "CHARACTER TABULATION SET=88;HORIZONTAL TABULATION SET=88;HTS=88",
  "CHARACTER TABULATION WITH JUSTIFICATION=89;HORIZONTAL TABULATION WITH JUSTIFICATION=89",
  "HTJ=89;LINE TABULATION SET=8A;VERTICAL TABULATION SET=8A;VTS=8A;PARTIAL LINE FORWARD=8B",
  "PARTIAL LINE DOWN=8B;PLD=8B;PARTIAL LINE BACKWARD=8C;PARTIAL LINE UP=8C;PLU=8C",
  "REVERSE LINE FEED=8D;REVERSE INDEX=8D;RI=8D;SINGLE SHIFT TWO=8E;SINGLE-SHIFT-2=8E;SS2=8E",
  "SINGLE SHIFT THREE=8F;SINGLE-SHIFT-3=8F;SS3=8F;DEVICE CONTROL STRING=90;DCS=90",
  "PRIVATE USE ONE=91;PRIVATE USE-1=91;PU1=91;PRIVATE USE TWO=92;PRIVATE USE-2=92;PU2=92",
  "SET TRANSMIT STATE=93;STS=93;CANCEL CHARACTER=94;CCH=94;MESSAGE WAITING=95;MW=95",
  "START OF GUARDED AREA=96;START OF PROTECTED AREA=96;SPA=96;END OF GUARDED AREA=97",
  "END OF PROTECTED AREA=97;EPA=97;START OF STRING=98;SOS=98",
  "SINGLE GRAPHIC CHARACTER INTRODUCER=99;SGC=99;SINGLE CHARACTER INTRODUCER=9A;SCI=9A",
  "CONTROL SEQUENCE INTRODUCER=9B;CSI=9B;STRING TERMINATOR=9C;ST=9C;OPERATING SYSTEM COMMAND=9D",
  "OSC=9D;PRIVACY MESSAGE=9E;PM=9E;APPLICATION PROGRAM COMMAND=9F;APC=9F;NBSP=A0;SHY=AD",
  "LATIN CAPITAL LETTER GHA=1A2;LATIN SMALL LETTER GHA=1A3;CGJ=34F;ALM=61C",
  "SYRIAC SUBLINEAR COLON SKEWED LEFT=709;KANNADA LETTER LLLA=CDE;LAO LETTER FO FON=E9D",
  "LAO LETTER FO FAY=E9F;LAO LETTER RO=EA3;LAO LETTER LO=EA5",
  "TIBETAN MARK BKA- SHOG GI MGO RGYAN=FD0;HANGUL JONGSEONG YESIEUNG-KIYEOK=11EC",
  "HANGUL JONGSEONG YESIEUNG-SSANGKIYEOK=11ED;HANGUL JONGSEONG SSANGYESIEUNG=11EE",
  "HANGUL JONGSEONG YESIEUNG-KHIEUKH=11EF;FVS1=180B;FVS2=180C;FVS3=180D;MVS=180E;FVS4=180F",
  "ZWSP=200B;ZWNJ=200C;ZWJ=200D;LRM=200E;RLM=200F;LRE=202A;RLE=202B;PDF=202C;LRO=202D;RLO=202E",
  "NNBSP=202F;MMSP=205F;WJ=2060;LRI=2066;RLI=2067;FSI=2068;PDI=2069",
  "WEIERSTRASS ELLIPTIC FUNCTION=2118;MICR ON US SYMBOL=2448;MICR DASH SYMBOL=2449",
  "LEFTWARDS TRIANGLE-HEADED ARROW WITH DOUBLE VERTICAL STROKE=2B7A",
  "RIGHTWARDS TRIANGLE-HEADED ARROW WITH DOUBLE VERTICAL STROKE=2B7C",
  "YI SYLLABLE ITERATION MARK=A015;MYANMAR LETTER KHAMTI LLA=AA6E;VS1=FE00;VS2=FE01;VS3=FE02",
  "VS4=FE03;VS5=FE04;VS6=FE05;VS7=FE06;VS8=FE07;VS9=FE08;VS10=FE09;VS11=FE0A;VS12=FE0B",
  "VS13=FE0C;VS14=FE0D;VS15=FE0E;VS16=FE0F",
  "PRESENTATION FORM FOR VERTICAL RIGHT WHITE LENTICULAR BRACKET=FE18;BYTE ORDER MARK=FEFF",
  "BOM=FEFF;ZWNBSP=FEFF;CUNEIFORM SIGN NU11 TENU=122D4",
  "CUNEIFORM SIGN NU11 OVER NU11 BUR OVER BUR=122D5;MEDEFAIDRIN CAPITAL LETTER H=16E56",
  "MEDEFAIDRIN CAPITAL LETTER NG=16E57;MEDEFAIDRIN SMALL LETTER H=16E76",
  "MEDEFAIDRIN SMALL LETTER NG=16E77;HENTAIGANA LETTER E-1=1B001",
  "BYZANTINE MUSICAL SYMBOL FTHORA SKLIRON CHROMA VASIS=1D0C5;VS17=E0100;VS18=E0101;VS19=E0102",
  "VS20=E0103;VS21=E0104;VS22=E0105;VS23=E0106;VS24=E0107;VS25=E0108;VS26=E0109;VS27=E010A",
  "VS28=E010B;VS29=E010C;VS30=E010D;VS31=E010E;VS32=E010F;VS33=E0110;VS34=E0111;VS35=E0112",
  "VS36=E0113;VS37=E0114;VS38=E0115;VS39=E0116;VS40=E0117;VS41=E0118;VS42=E0119;VS43=E011A",
  "VS44=E011B;VS45=E011C;VS46=E011D;VS47=E011E;VS48=E011F;VS49=E0120;VS50=E0121;VS51=E0122",
  "VS52=E0123;VS53=E0124;VS54=E0125;VS55=E0126;VS56=E0127;VS57=E0128;VS58=E0129;VS59=E012A",
  "VS60=E012B;VS61=E012C;VS62=E012D;VS63=E012E;VS64=E012F;VS65=E0130;VS66=E0131;VS67=E0132",
  "VS68=E0133;VS69=E0134;VS70=E0135;VS71=E0136;VS72=E0137;VS73=E0138;VS74=E0139;VS75=E013A",
  "VS76=E013B;VS77=E013C;VS78=E013D;VS79=E013E;VS80=E013F;VS81=E0140;VS82=E0141;VS83=E0142",
  "VS84=E0143;VS85=E0144;VS86=E0145;VS87=E0146;VS88=E0147;VS89=E0148;VS90=E0149;VS91=E014A",
  "VS92=E014B;VS93=E014C;VS94=E014D;VS95=E014E;VS96=E014F;VS97=E0150;VS98=E0151;VS99=E0152",
  "VS100=E0153;VS101=E0154;VS102=E0155;VS103=E0156;VS104=E0157;VS105=E0158;VS106=E0159",
  "VS107=E015A;VS108=E015B;VS109=E015C;VS110=E015D;VS111=E015E;VS112=E015F;VS113=E0160",
  "VS114=E0161;VS115=E0162;VS116=E0163;VS117=E0164;VS118=E0165;VS119=E0166;VS120=E0167",
  "VS121=E0168;VS122=E0169;VS123=E016A;VS124=E016B;VS125=E016C;VS126=E016D;VS127=E016E",
  "VS128=E016F;VS129=E0170;VS130=E0171;VS131=E0172;VS132=E0173;VS133=E0174;VS134=E0175",
  "VS135=E0176;VS136=E0177;VS137=E0178;VS138=E0179;VS139=E017A;VS140=E017B;VS141=E017C",
  "VS142=E017D;VS143=E017E;VS144=E017F;VS145=E0180;VS146=E0181;VS147=E0182;VS148=E0183",
  "VS149=E0184;VS150=E0185;VS151=E0186;VS152=E0187;VS153=E0188;VS154=E0189;VS155=E018A",
  "VS156=E018B;VS157=E018C;VS158=E018D;VS159=E018E;VS160=E018F;VS161=E0190;VS162=E0191",
  "VS163=E0192;VS164=E0193;VS165=E0194;VS166=E0195;VS167=E0196;VS168=E0197;VS169=E0198",
  "VS170=E0199;VS171=E019A;VS172=E019B;VS173=E019C;VS174=E019D;VS175=E019E;VS176=E019F",
  "VS177=E01A0;VS178=E01A1;VS179=E01A2;VS180=E01A3;VS181=E01A4;VS182=E01A5;VS183=E01A6",
  "VS184=E01A7;VS185=E01A8;VS186=E01A9;VS187=E01AA;VS188=E01AB;VS189=E01AC;VS190=E01AD",
  "VS191=E01AE;VS192=E01AF;VS193=E01B0;VS194=E01B1;VS195=E01B2;VS196=E01B3;VS197=E01B4",
  "VS198=E01B5;VS199=E01B6;VS200=E01B7;VS201=E01B8;VS202=E01B9;VS203=E01BA;VS204=E01BB",
  "VS205=E01BC;VS206=E01BD;VS207=E01BE;VS208=E01BF;VS209=E01C0;VS210=E01C1;VS211=E01C2",
  "VS212=E01C3;VS213=E01C4;VS214=E01C5;VS215=E01C6;VS216=E01C7;VS217=E01C8;VS218=E01C9",
  "VS219=E01CA;VS220=E01CB;VS221=E01CC;VS222=E01CD;VS223=E01CE;VS224=E01CF;VS225=E01D0",
  "VS226=E01D1;VS227=E01D2;VS228=E01D3;VS229=E01D4;VS230=E01D5;VS231=E01D6;VS232=E01D7",
  "VS233=E01D8;VS234=E01D9;VS235=E01DA;VS236=E01DB;VS237=E01DC;VS238=E01DD;VS239=E01DE",
  "VS240=E01DF;VS241=E01E0;VS242=E01E1;VS243=E01E2;VS244=E01E3;VS245=E01E4;VS246=E01E5",
  "VS247=E01E6;VS248=E01E7;VS249=E01E8;VS250=E01E9;VS251=E01EA;VS252=E01EB;VS253=E01EC",
  "VS254=E01ED;VS255=E01EE;VS256=E01EF"]

end ControllerClient.Text
