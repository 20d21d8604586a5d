/-!
# Names of European characters

Letters of Europe and of the Americas: Latin, Greek, Cyrillic, Armenian, Georgian, Cherokee and
more, their marks, and the punctuation that they share.
-/

namespace Casebook.Text.NameTable

/-- The names, in the form of a table of names. -/
def europe : List String :=
  ["0ACUTE ACCENT|0AMPERSAND|0APOSTROPHE|0ARMENIAN ABBREVIATION MARK|1APOSTROPHE",
    "1CAPITAL LETTER AYB|3BEN|3CA|3CHA|3CHEH|3CO|3DA|3ECH|3EH|3ET|3FEH|3GHAD|3GIM|3HO|3INI|3JA",
    "3JHEH|3KEH|3KEN|3LIWN|3MEN|3NOW|3OH|3PEH|3PIWR|3RA|3REH|3SEH|3SHA|3TIWN|3TO|3VEW|3VO|3XEH|3YI",
    "3YIWN|3ZA|3ZHE|1COMMA|1DRAM SIGN|1EMPHASIS MARK|1EXCLAMATION MARK|1FULL STOP|1HYPHEN",
    "1MODIFIER LETTER LEFT HALF RING|1QUESTION MARK|1SMALL LETTER AYB|3BEN|3CA|3CHA|3CHEH|3CO|3DA",
    "3ECH|3EH|3ET|3FEH|3GHAD|3GIM|3HO|3INI|3JA|3JHEH|3KEH|3KEN|3LIWN|3MEN|3NOW|3OH|3PEH|3PIWR|3RA",
    "3REH|3SEH|3SHA|3TIWN|3TO|3TURNED AYB|3VEW|3VO|3XEH|3YI|4WITH STROKE|3YIWN|3ZA|3ZHE",
    "2LIGATURE ECH YIWN|3MEN ECH|4INI|4NOW|4XEH|3VEW NOW|0ASTERISK|0BREVE|0BROKEN BAR",
    "0CANADIAN SYLLABICS A|2AA|2AAI|2AAY|2AI|2AIVILIK B|2AN|2ATHAPASCAN M|3S|2AY|2BEAVER DENE L|4R",
    "2BIBLE-CREE Y|2BLACKFOOT A|3E|3I|3KA|3KE|3KI|3KO|3NA|3NE|3NI|3NO|3O|3S|3W|3WA|3WE|3WI|3WO|2C",
    "2CA|2CAA|2CAAI|2CARRIER CHA|3CHE|3CHEE|3CHI|3CHO|3CHU|3DEE|3DENE GEE|3DENTAL S|3DI|3DLA|3DLE",
    "3DLEE|3DLI|3DLO|3DLU|3DZA|3DZE|3DZEE|3DZI|3DZO|3DZU|3EE|3GA|3GAA|3GE|3GEE|3GHA|3GHE|3GHEE",
    "3GHI|3GHO|3GHU|3GI|3GO|3GU|3GWA|3GWU|3H|3HEE|3HI|3HWA|3HWE|3HWEE|3HWI|3HWO|3HWU|3I|3INITIAL Z",
    "3JA|3JE|3JEE|3JI|3JJA|3JJE|3JJEE|3JJI|3JJO|3JJU|3JO|3JU|3JWA|3KHA|3KHE|3KHEE|3KHI|3KHO|3KHU",
    "3KK|3KKA|3KKE|3KKEE|3KKI|3KKO|3KKU|3LA|3LE|3LEE|3LHA|3LHE|3LHEE|3LHI|3LHO|3LHU|3LI|3LO|3LU",
    "3MA|3ME|3MEE|3MI|3MO|3MU|3NA|3NE|3NEE|3NG|3NI|3NO|3NU|3P|3PA|3PE|3PEE|3PI|3PO|3PU|3RA|3RE",
    "3REE|3RI|3RO|3RU|3SA|3SE|3SEE|3SH|3SHA|3SHE|3SHEE|3SHI|3SHO|3SHU|3SI|3SO|3SU|3THA|3THE|3THEE",
    "3THI|3THO|3THU|3TLA|3TLE|3TLEE|3TLHA|3TLHE|3TLHEE|3TLHI|3TLHO|3TLHU|3TLI|3TLO|3TLU|3TSA|3TSE",
    "3TSEE|3TSI|3TSO|3TSU|3TTA|3TTE|3TTEE|3TTI|3TTO|3TTSA|3TTSE|3TTSEE|3TTSI|3TTSO|3TTSU|3TTU|3WA",
    "3WE|3WEE|3WI|3WO|3WU|3YA|3YE|3YEE|3YI|3YO|3YU|3Z|3ZA|3ZE|3ZEE|3ZI|3ZO|3ZU|2CE|2CHI SIGN|2CI",
    "2CII|2CO|2COO|2CWA|2CWAA|2CWE|2CWI|2CWII|2CWO|2CWOO|2E|2EASTERN W|2EN|2F|2FA|2FAA|2FAAI|2FE",
    "2FI|2FII|2FINAL ACUTE|3BOTTOM HALF RING|3DOUBLE ACUTE|4SHORT VERTICAL STROKES|3DOWN TACK",
    "3GRAVE|3MIDDLE DOT|3PLUS|3RAISED DOT|3RIGHT HALF RING|3RING|3SHORT HORIZONTAL STROKE",
    "3SMALL RING|3TOP HALF RING|2FO|2FOO|2FULL STOP|2FWAA|2GLOTTAL STOP|2HK|2HYPHEN|2I|2II|2IN|2K",
    "2KA|2KAA|2KAAI|2KAY|2KE|2KI|2KII|2KO|2KOO|2KW|2KWA|2KWAA|2KWAY|2KWE|2KWI|2KWII|2KWO|2KWOO|2L",
    "2LA|2LAA|2LAAI|2LAY|2LE|2LH|2LHA|2LHAA|2LHI|2LHII|2LHO|2LHOO|2LI|2LII|2LO|2LOO|2LWA|2LWAA",
    "2LWE|2LWI|2LWII|2LWO|2LWOO|2M|2MA|2MAA|2MAAI|2MAY|2ME|2MEDIAL L|3R|2MH|2MI|2MII|2MO|2MOO",
    "2MOOSE-CREE SK|2MWA|2MWAA|2MWE|2MWI|2MWII|2MWO|2MWOO|2N|2N-CREE THE|3THI|3THII|2NA|2NAA|2NAAI",
    "2NASKAPI CWAA|3KWAA|3MWAA|3NWAA|3S-W|3SCWA|3SKW|3SKWA|3SPWA|3STWA|3SWAA|3TWAA|3WAA|3WOO|3YWAA",
    "2NATTILIK HA|3HAA|3HI|3HII|3HO|3HOO|3SHRA|3SHRAA|3SHRI|3SHRII|3SHRO|3SHROO|2NAY|2NE|2NG|2NGA",
    "2NGAA|2NGAAI|2NGAI|2NGI|2NGII|2NGO|2NGOO|2NH|2NI|2NII|2NNG|2NNGA|2NNGAA|2NNGI|2NNGII|2NNGO",
    "2NNGOO|2NO|2NOO|2NOY|2NUNAVIK H|3HA|3HAA|3HE|3HI|3HII|3HO|3HOO|2NUNAVUT H|2NWA|2NWAA|2NWE",
    "2NWI|2NWII|2NWO|2NWOO|2O|2OJIBWAY C|3K|3M|3N|3NWI|3NWII|3NWO|3NWOO|3P|3S|3SH|3T|2ON|2OO|2OY",
    "2P|2PA|2PAA|2PAAI|2PAY|2PE|2PI|2PII|2PO|2POO|2POY|2PWA|2PWAA|2PWE|2PWI|2PWII|2PWO|2PWOO|2PWOY",
    "2Q|2QA|2QAA|2QAAI|2QAI|2QI|2QII|2QO|2QOO|2R|2R-CREE RE|3RWE|2RA|2RAA|2RAAI|2RAY|2RE|2RI|2RII",
    "2RO|2ROO|2RWA|2RWAA|2RWEE|2RWI|2RWII|2RWO|2RWOO|2S|2SA|2SAA|2SAAI|2SAY|2SAYISI HA|3HE|3HI|3HO",
    "3HOO|3JI|3JU|3JUU|3M|3SHA|3SHE|3SHI|3SHO|3SHOO|3SHWE|3TH|3YI|2SE|2SH|2SHA|2SHAA|2SHAY|2SHE",
    "2SHI|2SHII|2SHO|2SHOO|2SHOY|2SHWA|2SHWAA|2SHWE|2SHWI|2SHWII|2SHWO|2SHWOO|2SHWOY|2SI|2SII|2SO",
    "2SOO|2SOUTH-SLAVEY KAH|3KEH|3KIH|3KOH|2SOY|2SPA|2SPE|2SPI|2SPO|2SW|2SWA|2SWAA|2SWE|2SWI|2SWII",
    "2SWO|2SWOO|2T|2TA|2TAA|2TAAI|2TAY|2TE|2TH|2TH-CREE TH|3THA|3THAA|3THE|3THI|3THII|3THO|3THOO",
    "2THA|2THAA|2THE|2THI|2THII|2THO|2THOO|2THWA|2THWAA|2THWE|2TI|2TII|2TLHA|2TLHE|2TLHI|2TLHO",
    "2TLHOO|2TLHWE|2TO|2TOO|2TTA|2TTE|2TTH|2TTHA|2TTHAA|2TTHE|2TTHI|2TTHO|2TTHOO|2TTHWE|2TTI|2TTO",
    "2TWA|2TWAA|2TWE|2TWI|2TWII|2TWO|2TWOO|2TYA|2TYE|2TYI|2TYO|2WA|2WAA|2WAY|2WE|2WEST-CREE CWA",
    "3CWAA|3CWE|3CWI|3CWII|3CWO|3CWOO|3FWAA|3KWA|3KWAA|3KWE|3KWI|3KWII|3KWO|3KWOO|3L|3LA|3LAA|3LE",
    "3LO|3LOO|3LWA|3LWAA|3LWE|3LWI|3LWII|3LWO|3LWOO|3M|3MWA|3MWAA|3MWE|3MWI|3MWII|3MWO|3MWOO|3NWA",
    "3NWAA|3NWE|3P|3PWA|3PWAA|3PWE|3PWI|3PWII|3PWO|3PWOO|3R|3RA|3RE|3RI|3RO|3RWAA|3SHWA|3SHWAA",
    "3SHWE|3SHWI|3SHWII|3SHWO|3SHWOO|3SWA|3SWAA|3SWE|3SWI|3SWII|3SWO|3SWOO|3THWAA|3TWA|3TWAA|3TWE",
    "3TWI|3TWII|3TWO|3TWOO|3WA|3WAA|3WE|3WI|3WII|3WO|3WOO|3Y|3YWA|3YWAA|3YWE|3YWI|3YWII|3YWO|3YWOO",
    "2WESTERN W|2WI|2WII|2WO|2WOO|2WOODS-CREE FINAL TH|3TH|3THA|3THE|3THI|3THO|3THWA|3THWAA|3THWEE",
    "3THWI|3THWII|3THWO|3THWOO|2Y|2Y-CREE COO|3KOO|3LOO|3MOO|3NOO|3OO|3POO|3PWAA|3SOO|3TOO|3W|3YOO",
    "2YA|2YAA|2YAAI|2YAY|2YE|2YI|2YII|2YO|2YOO|2YOY|2YWA|2YWAA|2YWE|2YWI|2YWII|2YWO|2YWOO|0CARON",
    "0CAUCASIAN ALBANIAN CITATION MARK|2LETTER ALT|3AOR|3BET|3CAR|3CAYN|3CHA|3CHAT|3CHI|3CHOY",
    "3CYAW|3CYAY|3DAT|3DYAN|3DZAY|3DZYAY|3EB|3EYN|3FAM|3GHEYS|3GIM|3HEYT|3INYA|3IRB|3IWN|3JAYN",
    "3JHOX|3KAR|3KIW|3LAN|3LYIT|3MAQ|3NOWC|3ON|3PEN|3PIWR|3QAR|3QAY|3RAT|3SEYK|3SHA|3SHAK|3SHOY",
    "3TAS|3TIWR|3TYAY|3VEYZ|3XEYN|3YAYD|3YOWD|3ZARL|3ZHA|3ZHIL|0CEDILLA|0CENT SIGN",
    "0CHEROKEE LETTER A|2DA|2DE|2DI|2DLA|2DO|2DU|2DV|2E|2GA|2GE|2GI|2GO|2GU|2GV|2HA|2HE|2HI|2HNA",
    "2HO|2HU|2HV|2I|2KA|2LA|2LE|2LI|2LO|2LU|2LV|2MA|2ME|2MI|2MO|2MU|2MV|2NA|2NAH|2NE|2NI|2NO|2NU",
    "2NV|2O|2QUA|2QUE|2QUI|2QUO|2QUU|2QUV|2S|2SA|2SE|2SI|2SO|2SU|2SV|2TA|2TE|2TI|2TLA|2TLE|2TLI",
    "2TLO|2TLU|2TLV|2TSA|2TSE|2TSI|2TSO|2TSU|2TSV|2U|2V|2WA|2WE|2WI|2WO|2WU|2WV|2YA|2YE|2YI|2YO",
    "2YU|2YV|1SMALL LETTER A|3DA|3DE|3DI|3DLA|3DO|3DU|3DV|3E|3GA|3GE|3GI|3GO|3GU|3GV|3HA|3HE|3HI",
    "3HNA|3HO|3HU|3HV|3I|3KA|3LA|3LE|3LI|3LO|3LU|3LV|3MA|3ME|3MI|3MO|3MU|3MV|3NA|3NAH|3NE|3NI|3NO",
    "3NU|3NV|3O|3QUA|3QUE|3QUI|3QUO|3QUU|3QUV|3S|3SA|3SE|3SI|3SO|3SU|3SV|3TA|3TE|3TI|3TLA|3TLE",
    "3TLI|3TLO|3TLU|3TLV|3TSA|3TSE|3TSI|3TSO|3TSU|3TSV|3U|3V|3WA|3WE|3WI|3WO|3WU|3WV|3YA|3YE|3YI",
    "3YO|3YU|3YV|0CIRCUMFLEX ACCENT|0COLON|0COMBINING ACUTE ACCENT|3BELOW|2TONE MARK",
    "1ACUTE-GRAVE-ACUTE|1ACUTE-MACRON|1ALMOST EQUAL TO ABOVE|4BELOW|1ASTERISK BELOW|1BREVE|2BELOW",
    "1BREVE-MACRON|1BRIDGE ABOVE|2BELOW|1CANDRABINDU|1CARON|2BELOW|1CEDILLA|1CIRCUMFLEX ACCENT",
    "3BELOW|1COMMA ABOVE|3RIGHT|2BELOW|1CYRILLIC DASIA PNEUMATA|2HUNDRED MILLIONS SIGN",
    "3THOUSANDS SIGN|2KAVYKA|2LETTER A|3BE|3BIG YUS|3CHE|3DE|3DJERV|3EF|3EL|3EM|3EN|3ER|3ES|3ES-TE",
    "3FITA|3GHE|3HA|3HARD SIGN|3I|3IE|3IOTIFIED A|4BIG YUS|4E|3KA|3LITTLE YUS|3MONOGRAPH UK|3O",
    "3OMEGA|3PE|3SHA|3SHCHA|3SOFT SIGN|3TE|3TSE|3U|3UKRAINIAN IE|3VE|3YAT|3YERU|3YI|3YU|3ZE|3ZHE",
    "2MILLIONS SIGN|2PALATALIZATION|2PAYEROK|2POKRYTIE|2PSILI PNEUMATA|2TEN MILLIONS SIGN",
    "2THOUSAND MILLIONS SIGN|2TITLO|2VZMET|1DELETION MARK|1DIAERESIS|2BELOW|1DIAERESIS-RING",
    "1DOT ABOVE|3LEFT|3RIGHT|2BELOW|3LEFT|1DOTTED ACUTE ACCENT|2GRAVE ACCENT|1DOUBLE ACUTE ACCENT",
    "2BREVE|3BELOW|2CIRCUMFLEX ABOVE|2GRAVE ACCENT|2INVERTED BREVE|4BELOW|2LOW LINE|2MACRON|3BELOW",
    "2OPEN MARK BELOW|2OVERLINE|2PARENTHESES ABOVE|2PLUS SIGN ABOVE|4BELOW|2RIGHTWARDS ARROW BELOW",
    "2RING BELOW|2TILDE|2VERTICAL LINE ABOVE|4BELOW|1DOUBLED CIRCUMFLEX ACCENT|1DOWN TACK BELOW",
    "1DOWNWARDS ARROW|1EQUALS SIGN BELOW|1FERMATA|1GLAGOLITIC LETTER AZU|3BIG YUS|3BUKY|3CHRIVI",
    "3DJERVI|3DOBRO|3FITA|3FRITU|3GLAGOLI|3HERU|3I|3INITIAL IZHE|3IOTATED BIG YUS|4SMALL YUS|3IZHE",
    "3KAKO|3LJUDIJE|3MYSLITE|3NASHI|3ONU|3POKOJI|3RITSI|3SHA|3SHTA|3SLOVO|3SMALL YUS|3TSI|3TVRIDO",
    "3UKU|3VEDE|3YATI|3YERI|3YERU|3YESTU|3YO|3YU|3ZEMLJA|3ZHIVETE|1GRAPHEME JOINER|1GRAVE ACCENT",
    "3BELOW|2TONE MARK|1GRAVE-ACUTE-GRAVE|1GRAVE-MACRON|1GREEK DIALYTIKA TONOS|2KORONIS",
    "2PERISPOMENI|2YPOGEGRAMMENI|1HOMOTHETIC ABOVE|1HOOK ABOVE|1HORN|1INFINITY|1INVERTED BREVE",
    "3BELOW|2BRIDGE BELOW|2DOUBLE ARCH ABOVE|4BELOW|1IS BELOW|1KAVYKA ABOVE LEFT|3RIGHT",
    "1LATIN LETTER SMALL CAPITAL G|5L|5M|5N|5R|2SMALL LETTER A|5WITH DIAERESIS|4AE|4ALPHA|4AO|4AV",
    "4B|4BETA|4C|5CEDILLA|4D|4E|4ESH|4ETH|4F|4FLATTENED OPEN A ABOVE|4G|4H|4I|4INSULAR D|5G|5R|5T",
    "4K|4L|5WITH DOUBLE MIDDLE TILDE|4LONG S|4M|4N|4O|5WITH DIAERESIS|6LIGHT CENTRALIZATION STROKE",
    "4P|4R|5BELOW|5ROTUNDA|4S|4SCHWA|4T|4TURNED W BELOW|4U|5WITH DIAERESIS",
    "6LIGHT CENTRALIZATION STROKE|4V|4W|5BELOW|4X|4Z|1LEFT ANGLE ABOVE|3BELOW|2ARROWHEAD ABOVE",
    "3BELOW|2HALF RING ABOVE|4BELOW|2PARENTHESIS ABOVE LEFT|3BELOW LEFT|2RIGHT ARROW BELOW",
    "2TACK BELOW|1LIGHT CENTRALIZATION STROKE BELOW|1LONG SOLIDUS OVERLAY|2STROKE OVERLAY",
    "1LOW LINE|1MACRON|2BELOW|1MACRON-ACUTE|1MACRON-BREVE|1MACRON-GRAVE|1MINUS SIGN BELOW",
    "1NOT TILDE ABOVE|1NUMBER SIGN ABOVE|1OGONEK|2ABOVE|1OLD PERMIC LETTER AN|4DOI|4NENOE|4SII",
    "4ZATA|1OPEN MARK BELOW|1OVERLINE|1PALATALIZED HOOK BELOW|1PARENTHESES ABOVE|2BELOW|2OVERLAY",
    "1PLUS SIGN ABOVE|3BELOW|1RETROFLEX HOOK BELOW|1REVERSED COMMA ABOVE|1RIGHT ARROWHEAD ABOVE",
    "3AND DOWN ARROWHEAD BELOW|4UP ARROWHEAD BELOW|3BELOW|2HALF RING ABOVE|4BELOW",
    "2PARENTHESIS ABOVE RIGHT|3BELOW RIGHT|2TACK BELOW|1RING ABOVE|2BELOW|1SEAGULL BELOW",
    "1SHORT SOLIDUS OVERLAY|2STROKE OVERLAY|1SNAKE BELOW|1SQUARE BELOW|2BRACKETS ABOVE",
    "1STRONG CENTRALIZATION STROKE BELOW|1SUSPENSION MARK|1TILDE|2BELOW|2OVERLAY",
    "1TRIPLE ACUTE ACCENT|2DOT|1TURNED COMMA ABOVE|1UP TACK ABOVE|3BELOW|1UPWARDS ARROW BELOW",
    "1UR ABOVE|1US ABOVE|1VERTICAL LINE ABOVE|3BELOW|2TILDE|1WIDE INVERTED BRIDGE BELOW",
    "1WIGGLY LINE BELOW|1X ABOVE|2BELOW|1X-X BELOW|1ZIGZAG ABOVE|2BELOW|0COMMA|0COMMERCIAL AT",
    "0COPTIC CAPITAL LETTER AKHMIMIC KHEI|3ALFA|3BOHAIRIC KHEI|3CROSSED SHEI|3CRYPTOGRAMMIC EIE",
    "4GANGIA|4NI|4SHEI|3DALDA|3DEI|3DIALECT-P ALEF|4HORI|4KAPA|4NI|3EIE|3FEI|3FI|3GAMMA|3GANGIA",
    "3HATE|3HORI|3IAUDA|3KAPA|3KHEI|3KHI|3KSI|3L-SHAPED HA|3LAULA|3MI|3NI|3O|3OLD COPTIC AIN|5DJA",
    "5ESH|5GANGIA|5HA|5HAT|5HEI|5HORI|5OOU|5SHEI|5SHIMA|4NUBIAN NGI|5NYI|5SHIMA|5WAU|3OOU|3PI|3PSI",
    "3RO|3SAMPI|3SHEI|3SHIMA|3SIMA|3SOU|3TAU|3THETHE|3UA|3VIDA|3ZATA|1COMBINING NI ABOVE",
    "2SPIRITUS ASPER|3LENIS|1EPACT DIGIT EIGHT|3FIVE|3FOUR|3NINE|3ONE|3SEVEN|3SIX|3THREE|3TWO",
    "2NUMBER EIGHT HUNDRED|3EIGHTY|3FIFTY|3FIVE HUNDRED|3FORTY|3FOUR HUNDRED|3NINE HUNDRED|3NINETY",
    "3ONE HUNDRED|3SEVEN HUNDRED|3SEVENTY|3SIX HUNDRED|3SIXTY|3TEN|3THIRTY|3THREE HUNDRED|3TWENTY",
    "3TWO HUNDRED|2THOUSANDS MARK|1FRACTION ONE HALF|1FULL STOP|1MORPHOLOGICAL DIVIDER",
    "1OLD NUBIAN DIRECT QUESTION MARK|3FULL STOP|3INDIRECT QUESTION MARK|3VERSE DIVIDER",
    "1SMALL LETTER AKHMIMIC KHEI|3ALFA|3BOHAIRIC KHEI|3CROSSED SHEI|3CRYPTOGRAMMIC EIE|4GANGIA|4NI",
    "4SHEI|3DALDA|3DEI|3DIALECT-P ALEF|4HORI|4KAPA|4NI|3EIE|3FEI|3FI|3GAMMA|3GANGIA|3HATE|3HORI",
    "3IAUDA|3KAPA|3KHEI|3KHI|3KSI|3L-SHAPED HA|3LAULA|3MI|3NI|3O|3OLD COPTIC AIN|5DJA|5ESH|5GANGIA",
    "5HA|5HAT|5HEI|5HORI|5OOU|5SHEI|5SHIMA|4NUBIAN NGI|5NYI|5SHIMA|5WAU|3OOU|3PI|3PSI|3RO|3SAMPI",
    "3SHEI|3SHIMA|3SIMA|3SOU|3TAU|3THETHE|3UA|3VIDA|3ZATA|1SYMBOL KAI|2KHI RO|2MI RO|2PI RO",
    "2SHIMA SIMA|2STAUROS|2TAU RO|0COPYRIGHT SIGN|0CURRENCY SIGN|0CYRILLIC CAPITAL LETTER A",
    "4WITH BREVE|5DIAERESIS|3ABKHASIAN CHE|5WITH DESCENDER|4DZE|4HA|3ALEUT KA|3BARRED O",
    "5WITH DIAERESIS|3BASHKIR KA|3BE|3BIG YUS|3BINOCULAR O|3BLENDED YUS|3BROAD OMEGA",
    "3BYELORUSSIAN-UKRAINIAN I|3CCHE|3CHE|4WITH DESCENDER|5DIAERESIS|5VERTICAL STROKE",
    "3CLOSED LITTLE YUS|3CROSSED O|3DCHE|3DE|3DJE|3DJERV|3DOUBLE MONOCULAR O|4O|3DWE|3DZE|3DZELO",
    "3DZHE|3DZWE|3DZZE|3DZZHE|3E|4WITH DIAERESIS|3EF|3EL|4WITH DESCENDER|5HOOK|5MIDDLE HOOK|5TAIL",
    "3EM|4WITH TAIL|3EN|4WITH DESCENDER|5HOOK|5LEFT HOOK|5MIDDLE HOOK|5TAIL|3ER|4WITH TICK|3ES",
    "4WITH DESCENDER|3FITA|3GHE|4WITH DESCENDER|5MIDDLE HOOK|5STROKE|6AND HOOK|5UPTURN|3GJE|3HA",
    "4WITH DESCENDER|5HOOK|5STROKE|3HARD SIGN|3HWE|3I|4WITH DIAERESIS|5GRAVE|5MACRON|3IE",
    "4WITH BREVE|5GRAVE|3IO|3IOTA|3IOTIFIED A|4BIG YUS|4CLOSED LITTLE YUS|4E|4LITTLE YUS|4YAT",
    "3IZHITSA|4WITH DOUBLE GRAVE ACCENT|3JE|3KA|4WITH DESCENDER|5HOOK|5STROKE|5VERTICAL STROKE",
    "3KHAKASSIAN CHE|3KJE|3KOMI DE|4DJE|4DZJE|4LJE|4NJE|4SJE|4TJE|4ZJE|3KOPPA|3KSI|3LHA",
    "3LITTLE YUS|3LJE|3MONOCULAR O|3MONOGRAPH UK|3NEUTRAL YER|3NJE|3O|4WITH DIAERESIS|3OMEGA",
    "4WITH TITLO|3OT|3PE|4WITH DESCENDER|5MIDDLE HOOK|3PSI|3QA|3REVERSED DZE|4TSE|4YU|4ZE|3RHA",
    "3ROUND OMEGA|3SCHWA|4WITH DIAERESIS|3SEMISOFT SIGN|3SHA|3SHCHA|3SHHA|4WITH DESCENDER|3SHORT I",
    "5WITH TAIL|4U|3SHWE|3SOFT DE|4EL|4EM|4SIGN|3STRAIGHT U|5WITH STROKE|3TCHE|3TE|4WITH DESCENDER",
    "5MIDDLE HOOK|3TSE|3TSHE|3TSSE|3TSWE|3TWE|3U|4WITH DIAERESIS|5DOUBLE ACUTE|5MACRON|3UK",
    "3UKRAINIAN IE|3VE|3WE|3YA|3YAE|3YAT|3YERU|4WITH BACK YER|5DIAERESIS|3YI|3YN|3YU|3ZE",
    "4WITH DESCENDER|5DIAERESIS|3ZEMLYA|3ZHE|4WITH BREVE|5DESCENDER|5DIAERESIS|3ZHWE",
    "2LIGATURE A IE|3EN GHE|3TE TSE|1KAVYKA|1LETTER MULTIOCULAR O|2PALOCHKA|2SMALL CAPITAL EL",
    "1PAYEROK|1SMALL LETTER A|4WITH BREVE|5DIAERESIS|3ABKHASIAN CHE|5WITH DESCENDER|4DZE|4HA",
    "3ALEUT KA|3BARRED O|5WITH DIAERESIS|3BASHKIR KA|3BE|3BIG YUS|3BINOCULAR O|3BLENDED YUS",
    "3BROAD OMEGA|3BYELORUSSIAN-UKRAINIAN I|3CCHE|3CHE|4WITH DESCENDER|5DIAERESIS|5VERTICAL STROKE",
    "3CLOSED LITTLE YUS|3CROSSED O|3DCHE|3DE|3DJE|3DJERV|3DOUBLE MONOCULAR O|4O|3DWE|3DZE|3DZELO",
    "3DZHE|3DZWE|3DZZE|3DZZHE|3E|4WITH DIAERESIS|3EF|3EL|4WITH DESCENDER|5HOOK|5MIDDLE HOOK|5TAIL",
    "3EM|4WITH TAIL|3EN|4WITH DESCENDER|5HOOK|5LEFT HOOK|5MIDDLE HOOK|5TAIL|3ER|4WITH TICK|3ES",
    "4WITH DESCENDER|3FITA|3GHE|4WITH DESCENDER|5MIDDLE HOOK|5STROKE|6AND HOOK|5UPTURN|3GJE|3HA",
    "4WITH DESCENDER|5HOOK|5STROKE|3HARD SIGN|3HWE|3I|4WITH DIAERESIS|5GRAVE|5MACRON|3IE",
    "4WITH BREVE|5GRAVE|3IO|3IOTA|3IOTIFIED A|4BIG YUS|4CLOSED LITTLE YUS|4E|4LITTLE YUS|4YAT",
    "3IZHITSA|4WITH DOUBLE GRAVE ACCENT|3JE|3KA|4WITH DESCENDER|5HOOK|5STROKE|5VERTICAL STROKE",
    "3KHAKASSIAN CHE|3KJE|3KOMI DE|4DJE|4DZJE|4LJE|4NJE|4SJE|4TJE|4ZJE|3KOPPA|3KSI|3LHA",
    "3LITTLE YUS|3LJE|3LONG-LEGGED DE|3MONOCULAR O|3MONOGRAPH UK|3NARROW O|3NEUTRAL YER|3NJE|3O",
    "4WITH DIAERESIS|3OMEGA|4WITH TITLO|3OT|3PALOCHKA|3PE|4WITH DESCENDER|5MIDDLE HOOK|3PSI|3QA",
    "3REVERSED DZE|4TSE|4YU|4ZE|3RHA|3ROUND OMEGA|3ROUNDED VE|3SCHWA|4WITH DIAERESIS",
    "3SEMISOFT SIGN|3SHA|3SHCHA|3SHHA|4WITH DESCENDER|3SHORT I|5WITH TAIL|4U|3SHWE|3SOFT DE|4EL",
    "4EM|4SIGN|3STRAIGHT U|5WITH STROKE|3TALL HARD SIGN|4TE|4YAT|3TCHE|3TE|4WITH DESCENDER",
    "5MIDDLE HOOK|3THREE-LEGGED TE|3TSE|3TSHE|3TSSE|3TSWE|3TWE|3U|4WITH DIAERESIS|5DOUBLE ACUTE",
    "5MACRON|3UK|3UKRAINIAN IE|3UNBLENDED UK|3VE|3WE|3WIDE ES|3YA|3YAE|3YAT|3YERU|4WITH BACK YER",
    "5DIAERESIS|3YI|3YN|3YU|3ZE|4WITH DESCENDER|5DIAERESIS|3ZEMLYA|3ZHE|4WITH BREVE|5DESCENDER",
    "5DIAERESIS|3ZHWE|2LIGATURE A IE|3EN GHE|3TE TSE|1THOUSANDS SIGN|0DEGREE SIGN",
    "0DESERET CAPITAL LETTER AY|3BEE|3CHEE|3DEE|3EF|3EL|3EM|3EN|3ENG|3ER|3ES|3ESH|3ETH|3EW|3GAY|3H",
    "3JEE|3KAY|3LONG A|4AH|4E|4I|4O|4OO|3OI|3OW|3PEE|3SHORT A|4AH|4E|4I|4O|4OO|3TEE|3THEE|3VEE|3WU",
    "3YEE|3ZEE|3ZHEE|1SMALL LETTER AY|3BEE|3CHEE|3DEE|3EF|3EL|3EM|3EN|3ENG|3ER|3ES|3ESH|3ETH|3EW",
    "3GAY|3H|3JEE|3KAY|3LONG A|4AH|4E|4I|4O|4OO|3OI|3OW|3PEE|3SHORT A|4AH|4E|4I|4O|4OO|3TEE|3THEE",
    "3VEE|3WU|3YEE|3ZEE|3ZHEE|0DIAERESIS|0DIGIT EIGHT|1FIVE|1FOUR|1NINE|1ONE|1SEVEN|1SIX|1THREE",
    "1TWO|1ZERO|0DIVISION SIGN|0DOLLAR SIGN|0DOT ABOVE|0DOUBLE ACUTE ACCENT",
    "0DUPLOYAN AFFIX ATTACHED E HOOK|3I HOOK|3LEFT-TO-RIGHT SECANT|3SECANT|3TAIL|3TANGENT|4HOOK",
    "2HIGH ACUTE|3CIRCLE|3DOT|3GRAVE|3LINE|3LONG GRAVE|3TIGHT ACUTE|3VERTICAL|4SECANT|3WAVE",
    "2LEFT HORIZONTAL SECANT|2LOW ACUTE|3ARROW|3CIRCLE|3DOT|3GRAVE|3LINE|3LONG GRAVE|3TIGHT ACUTE",
    "3VERTICAL|4SECANT|3WAVE|2MID HORIZONTAL SECANT|3VERTICAL SECANT|2RIGHT HORIZONTAL SECANT",
    "1DOUBLE MARK|1LETTER A|2AOU|2B|2D|3S|2DH|2E|2EE|2EU|2F|3N|2G|3R S|2H|2HL|2I|2IE|2J|3M|4S|3N",
    "4S|3S|4WITH DOT|3WITH DOT|4DOTS INSIDE AND ABOVE|2K|3M|3R S|2KK|2L|2LH|2LONG I|3U|2M|3N|4S|3S",
    "3WITH DOT|2N|3M|4S|3S|3WITH DOT|2NASAL A|3I|3O|3U|2O|2OA|2OOH|2OU|2OW|2P|3N|2PERNIN AM|3AN|2R",
    "3S|2RH|2ROMANIAN I|3U|2S|3J|4S|3K|4R|3M|3N|3P|4R|3S|3T|4R|3WITH DOT|5BELOW|2SHORT I|2SLOAN AN",
    "3DH|3EE|3EH|3EN|3J|3ON|3OW|3U|2T|3R S|3S|2TH|2U|3N|2UH|2UI|2V|2VOCALIC M|2W|3R|2WA|2WEI|2WH",
    "2WI|2WO|2WOW|2X|2XW|2YE|1PUNCTUATION CHINOOK FULL STOP|1SIGN O WITH CROSS",
    "1THICK LETTER SELECTOR|0ELBASAN LETTER A|2BE|2CE|2CHE|2DE|2DHE|2E|2EI|2FE|2GE|2GHAMMA|2GHE",
    "2GJE|2HE|2I|2JE|2KE|2KHE|2LE|2LLE|2ME|2NA|2NDE|2NE|2NJE|2O|2PE|2QE|2RE|2RRE|2SE|2SHE|2TE|2THE",
    "2U|2VE|2XE|2Y|2ZE|2ZHE|0EQUALS SIGN|0EXCLAMATION MARK|0FEMININE ORDINAL INDICATOR|0FULL STOP",
    "0GEORGIAN CAPITAL LETTER AEN|3AN|3BAN|3CAN|3CHAR|3CHIN|3CIL|3DON|3EN|3GAN|3GHAN|3HAE|3HAR|3HE",
    "3HIE|3HOE|3IN|3JHAN|3JIL|3KAN|3KHAR|3LAS|3MAN|3NAR|3ON|3PAR|3PHAR|3QAR|3RAE|3SAN|3SHIN|3TAN",
    "3TAR|3UN|3VIN|3WE|3XAN|3YN|3ZEN|3ZHAR|1LETTER AEN|2AIN|2AN|2BAN|2CAN|2CHAR|2CHIN|2CIL|2DON",
    "2ELIFI|2EN|2FI|2GAN|2GHAN|2HAE|2HAR|2HARD SIGN|2HE|2HIE|2HOE|2IN|2JHAN|2JIL|2KAN|2KHAR",
    "2LABIAL SIGN|2LAS|2MAN|2NAR|2ON|2PAR|2PHAR|2QAR|2RAE|2SAN|2SHIN|2TAN|2TAR|2TURNED GAN|2UN",
    "2VIN|2WE|2XAN|2YN|2ZEN|2ZHAR|1MTAVRULI CAPITAL LETTER AEN|4AIN|4AN|4BAN|4CAN|4CHAR|4CHIN|4CIL",
    "4DON|4ELIFI|4EN|4FI|4GAN|4GHAN|4HAE|4HAR|4HARD SIGN|4HE|4HIE|4HOE|4IN|4JHAN|4JIL|4KAN|4KHAR",
    "4LABIAL SIGN|4LAS|4MAN|4NAR|4ON|4PAR|4PHAR|4QAR|4RAE|4SAN|4SHIN|4TAN|4TAR|4TURNED GAN|4UN",
    "4VIN|4WE|4XAN|4YN|4ZEN|4ZHAR|1PARAGRAPH SEPARATOR|1SMALL LETTER AEN|3AN|3BAN|3CAN|3CHAR|3CHIN",
    "3CIL|3DON|3EN|3GAN|3GHAN|3HAE|3HAR|3HE|3HIE|3HOE|3IN|3JHAN|3JIL|3KAN|3KHAR|3LAS|3MAN|3NAR|3ON",
    "3PAR|3PHAR|3QAR|3RAE|3SAN|3SHIN|3TAN|3TAR|3UN|3VIN|3WE|3XAN|3YN|3ZEN|3ZHAR",
    "0GLAGOLITIC CAPITAL LETTER AZU|3BIG YUS|3BUKY|3CAUDATE CHRIVI|3CHRIVI|3DJERVI|3DOBRO|3DZELO",
    "3FITA|3FRITU|3GLAGOLI|3HERU|3I|3INITIAL IZHE|3IOTATED BIG YUS|4SMALL YUS|3IZHE|3IZHITSA|3KAKO",
    "3LATINATE MYSLITE|3LJUDIJE|3MYSLITE|3NASHI|3ONU|3OTU|3PE|3POKOJI|3RITSI|3SHA|3SHTA|3SHTAPIC",
    "3SLOVO|3SMALL YUS|5WITH TAIL|3SPIDERY HA|3TROKUTASTI A|3TSI|3TVRIDO|3UKU|3VEDE|3YATI|3YERI",
    "3YERU|3YESTU|3YO|3YU|3ZEMLJA|3ZHIVETE|1SMALL LETTER AZU|3BIG YUS|3BUKY|3CAUDATE CHRIVI",
    "3CHRIVI|3DJERVI|3DOBRO|3DZELO|3FITA|3FRITU|3GLAGOLI|3HERU|3I|3INITIAL IZHE|3IOTATED BIG YUS",
    "4SMALL YUS|3IZHE|3IZHITSA|3KAKO|3LATINATE MYSLITE|3LJUDIJE|3MYSLITE|3NASHI|3ONU|3OTU|3PE",
    "3POKOJI|3RITSI|3SHA|3SHTA|3SHTAPIC|3SLOVO|3SMALL YUS|5WITH TAIL|3SPIDERY HA|3TROKUTASTI A",
    "3TSI|3TVRIDO|3UKU|3VEDE|3YATI|3YERI|3YERU|3YESTU|3YO|3YU|3ZEMLJA|3ZHIVETE|0GOTHIC LETTER AHSA",
    "2AIHVUS|2BAIRKAN|2DAGS|2EIS|2FAIHU|2GIBA|2HAGL|2HWAIR|2IGGWS|2IUJA|2JER|2KUSMA|2LAGUS|2MANNA",
    "2NAUTHS|2NINE HUNDRED|2NINETY|2OTHAL|2PAIRTHRA|2QAIRTHRA|2RAIDA|2SAUIL|2TEIWS|2THIUTH|2URUS",
    "2WINJA|0GRAVE ACCENT|0GREATER-THAN SIGN|0GREEK ANO TELEIA|1BETA SYMBOL",
    "1CAPITAL DOTTED LUNATE SIGMA SYMBOL|2KAI SYMBOL|2LETTER ALPHA|4WITH DASIA|6AND OXIA",
    "8AND PROSGEGRAMMENI|7PERISPOMENI|8AND PROSGEGRAMMENI|7PROSGEGRAMMENI|7VARIA",
    "8AND PROSGEGRAMMENI|5MACRON|5OXIA|5PROSGEGRAMMENI|5PSILI|6AND OXIA|8AND PROSGEGRAMMENI",
    "7PERISPOMENI|8AND PROSGEGRAMMENI|7PROSGEGRAMMENI|7VARIA|8AND PROSGEGRAMMENI|5TONOS|5VARIA",
    "5VRACHY|3ARCHAIC SAMPI|3BETA|3CHI|3DELTA|3EPSILON|4WITH DASIA|6AND OXIA|7VARIA|5OXIA|5PSILI",
    "6AND OXIA|7VARIA|5TONOS|5VARIA|3ETA|4WITH DASIA|6AND OXIA|8AND PROSGEGRAMMENI|7PERISPOMENI",
    "8AND PROSGEGRAMMENI|7PROSGEGRAMMENI|7VARIA|8AND PROSGEGRAMMENI|5OXIA|5PROSGEGRAMMENI|5PSILI",
    "6AND OXIA|8AND PROSGEGRAMMENI|7PERISPOMENI|8AND PROSGEGRAMMENI|7PROSGEGRAMMENI|7VARIA",
    "8AND PROSGEGRAMMENI|5TONOS|5VARIA|3GAMMA|3HETA|3IOTA|4WITH DASIA|6AND OXIA|7PERISPOMENI",
    "7VARIA|5DIALYTIKA|5MACRON|5OXIA|5PSILI|6AND OXIA|7PERISPOMENI|7VARIA|5TONOS|5VARIA|5VRACHY",
    "3KAPPA|3LAMDA|3MU|3NU|3OMEGA|4WITH DASIA|6AND OXIA|8AND PROSGEGRAMMENI|7PERISPOMENI",
    "8AND PROSGEGRAMMENI|7PROSGEGRAMMENI|7VARIA|8AND PROSGEGRAMMENI|5OXIA|5PROSGEGRAMMENI|5PSILI",
    "6AND OXIA|8AND PROSGEGRAMMENI|7PERISPOMENI|8AND PROSGEGRAMMENI|7PROSGEGRAMMENI|7VARIA",
    "8AND PROSGEGRAMMENI|5TONOS|5VARIA|3OMICRON|4WITH DASIA|6AND OXIA|7VARIA|5OXIA|5PSILI",
    "6AND OXIA|7VARIA|5TONOS|5VARIA|3PAMPHYLIAN DIGAMMA|3PHI|3PI|3PSI|3RHO|4WITH DASIA|3SAN|3SHO",
    "3SIGMA|3TAU|3THETA|3UPSILON|4WITH DASIA|6AND OXIA|7PERISPOMENI|7VARIA|5DIALYTIKA|5MACRON",
    "5OXIA|5TONOS|5VARIA|5VRACHY|3XI|3YOT|3ZETA|2LUNATE SIGMA SYMBOL",
    "2REVERSED DOTTED LUNATE SIGMA SYMBOL|3LUNATE SIGMA SYMBOL|2THETA SYMBOL|1DASIA|2AND OXIA",
    "3PERISPOMENI|3VARIA|1DIALYTIKA AND OXIA|3PERISPOMENI|3VARIA|2TONOS|1KAI SYMBOL|1KAPPA SYMBOL",
    "1KORONIS|1LETTER ARCHAIC KOPPA|2DIGAMMA|2KOPPA|2SAMPI|2SMALL CAPITAL GAMMA|4LAMDA|4OMEGA|4PI",
    "4PSI|4RHO|2STIGMA|2YOT|1LOWER NUMERAL SIGN|1LUNATE EPSILON SYMBOL|2SIGMA SYMBOL|1NUMERAL SIGN",
    "1OXIA|1PERISPOMENI|1PHI SYMBOL|1PI SYMBOL|1PROSGEGRAMMENI|1PSILI|2AND OXIA|3PERISPOMENI",
    "3VARIA|1QUESTION MARK|1REVERSED LUNATE EPSILON SYMBOL|1RHO SYMBOL|2WITH STROKE SYMBOL",
    "1SMALL DOTTED LUNATE SIGMA SYMBOL|2LETTER ALPHA|4WITH DASIA|6AND OXIA|8AND YPOGEGRAMMENI",
    "7PERISPOMENI|8AND YPOGEGRAMMENI|7VARIA|8AND YPOGEGRAMMENI|7YPOGEGRAMMENI|5MACRON|5OXIA",
    "6AND YPOGEGRAMMENI|5PERISPOMENI|6AND YPOGEGRAMMENI|5PSILI|6AND OXIA|8AND YPOGEGRAMMENI",
    "7PERISPOMENI|8AND YPOGEGRAMMENI|7VARIA|8AND YPOGEGRAMMENI|7YPOGEGRAMMENI|5TONOS|5VARIA",
    "6AND YPOGEGRAMMENI|5VRACHY|5YPOGEGRAMMENI|3ARCHAIC KOPPA|4SAMPI|3BETA|3CHI|3DELTA|3DIGAMMA",
    "3EPSILON|4WITH DASIA|6AND OXIA|7VARIA|5OXIA|5PSILI|6AND OXIA|7VARIA|5TONOS|5VARIA|3ETA",
    "4WITH DASIA|6AND OXIA|8AND YPOGEGRAMMENI|7PERISPOMENI|8AND YPOGEGRAMMENI|7VARIA",
    "8AND YPOGEGRAMMENI|7YPOGEGRAMMENI|5OXIA|6AND YPOGEGRAMMENI|5PERISPOMENI|6AND YPOGEGRAMMENI",
    "5PSILI|6AND OXIA|8AND YPOGEGRAMMENI|7PERISPOMENI|8AND YPOGEGRAMMENI|7VARIA|8AND YPOGEGRAMMENI",
    "7YPOGEGRAMMENI|5TONOS|5VARIA|6AND YPOGEGRAMMENI|5YPOGEGRAMMENI|3FINAL SIGMA|3GAMMA|3HETA",
    "3IOTA|4WITH DASIA|6AND OXIA|7PERISPOMENI|7VARIA|5DIALYTIKA|6AND OXIA|7PERISPOMENI|7TONOS",
    "7VARIA|5MACRON|5OXIA|5PERISPOMENI|5PSILI|6AND OXIA|7PERISPOMENI|7VARIA|5TONOS|5VARIA|5VRACHY",
    "3KAPPA|3KOPPA|3LAMDA|3MU|3NU|3OMEGA|4WITH DASIA|6AND OXIA|8AND YPOGEGRAMMENI|7PERISPOMENI",
    "8AND YPOGEGRAMMENI|7VARIA|8AND YPOGEGRAMMENI|7YPOGEGRAMMENI|5OXIA|6AND YPOGEGRAMMENI",
    "5PERISPOMENI|6AND YPOGEGRAMMENI|5PSILI|6AND OXIA|8AND YPOGEGRAMMENI|7PERISPOMENI",
    "8AND YPOGEGRAMMENI|7VARIA|8AND YPOGEGRAMMENI|7YPOGEGRAMMENI|5TONOS|5VARIA|6AND YPOGEGRAMMENI",
    "5YPOGEGRAMMENI|3OMICRON|4WITH DASIA|6AND OXIA|7VARIA|5OXIA|5PSILI|6AND OXIA|7VARIA|5TONOS",
    "5VARIA|3PAMPHYLIAN DIGAMMA|3PHI|3PI|3PSI|3RHO|4WITH DASIA|5PSILI|3SAMPI|3SAN|3SHO|3SIGMA",
    "3STIGMA|3TAU|3THETA|3UPSILON|4WITH DASIA|6AND OXIA|7PERISPOMENI|7VARIA|5DIALYTIKA|6AND OXIA",
    "7PERISPOMENI|7TONOS|7VARIA|5MACRON|5OXIA|5PERISPOMENI|5PSILI|6AND OXIA|7PERISPOMENI|7VARIA",
    "5TONOS|5VARIA|5VRACHY|3XI|3ZETA|2REVERSED DOTTED LUNATE SIGMA SYMBOL|3LUNATE SIGMA SYMBOL",
    "1SUBSCRIPT SMALL LETTER BETA|4CHI|4GAMMA|4PHI|4RHO|1THETA SYMBOL|1TONOS",
    "1UPSILON WITH ACUTE AND HOOK SYMBOL|3DIAERESIS AND HOOK SYMBOL|3HOOK SYMBOL|1VARIA",
    "1YPOGEGRAMMENI|0HYPHEN-MINUS|0INVERTED EXCLAMATION MARK|1QUESTION MARK",
    "0LATIN CAPITAL LETTER A|4WITH ACUTE|5BREVE|6AND ACUTE|7DOT BELOW|7GRAVE|7HOOK ABOVE|7TILDE",
    "5CARON|5CIRCUMFLEX|6AND ACUTE|7DOT BELOW|7GRAVE|7HOOK ABOVE|7TILDE|5DIAERESIS|6AND MACRON",
    "5DOT ABOVE|7AND MACRON|6BELOW|5DOUBLE GRAVE|5GRAVE|5HOOK ABOVE|5INVERTED BREVE|5MACRON",
    "5OGONEK|5RING ABOVE|7AND ACUTE|6BELOW|5STROKE|5TILDE|3AA|3AE|4WITH ACUTE|5MACRON|3AFRICAN D",
    "3ALPHA|3ANGLICANA W|3AO|3AU|3AV|4WITH HORIZONTAL BAR|3AY|3B|4WITH DOT ABOVE|6BELOW|5FLOURISH",
    "5HOOK|5LINE BELOW|5STROKE|5TOPBAR|3BETA|3BROKEN L|3C|4WITH ACUTE|5BAR|5CARON|5CEDILLA",
    "6AND ACUTE|5CIRCUMFLEX|5DOT ABOVE|5HOOK|5PALATAL HOOK|5STROKE|3CHI|3CLOSED INSULAR G|3CON",
    "3CUATRILLO|4WITH COMMA|3D|4WITH CARON|5CEDILLA|5CIRCUMFLEX BELOW|5DOT ABOVE|6BELOW|5HOOK",
    "5LINE BELOW|5SHORT STROKE OVERLAY|5SMALL LETTER Z|8WITH CARON|5STROKE|5TOPBAR|3DZ|4WITH CARON",
    "3E|4WITH ACUTE|5BREVE|5CARON|5CEDILLA|6AND BREVE|5CIRCUMFLEX|6AND ACUTE|7DOT BELOW|7GRAVE",
    "7HOOK ABOVE|7TILDE|6BELOW|5DIAERESIS|5DOT ABOVE|6BELOW|5DOUBLE GRAVE|5GRAVE|5HOOK ABOVE",
    "5INVERTED BREVE|5MACRON|6AND ACUTE|7GRAVE|5OGONEK|5STROKE|5TILDE|6BELOW|3EGYPTOLOGICAL AIN",
    "4ALEF|3ENG|3ESH|3ET|3ETH|3EZH|4REVERSED|4WITH CARON|3F|4WITH DOT ABOVE|5HOOK|5STROKE|3G",
    "4WITH ACUTE|5BREVE|5CARON|5CEDILLA|5CIRCUMFLEX|5DOT ABOVE|5HOOK|5MACRON|5OBLIQUE STROKE",
    "5STROKE|3GAMMA|3GHA|3GLOTTAL A|4I|4STOP|4U|3H|4WITH BREVE BELOW|5CARON|5CEDILLA|5CIRCUMFLEX",
    "5DESCENDER|5DIAERESIS|5DOT ABOVE|6BELOW|5HOOK|5STROKE|3HALF H|3HENG|3HWAIR|3I|4WITH ACUTE",
    "5BREVE|5CARON|5CIRCUMFLEX|5DIAERESIS|6AND ACUTE|5DOT ABOVE|6BELOW|5DOUBLE GRAVE|5GRAVE",
    "5HOOK ABOVE|5INVERTED BREVE|5MACRON|5OGONEK|5STROKE|5TILDE|6BELOW|3INSULAR D|4F|4G|4R|4S|4T",
    "3IOTA|3IS|3J|4WITH CIRCUMFLEX|5CROSSED-TAIL|5STROKE|3K|4WITH ACUTE|5CARON|5CEDILLA|5DESCENDER",
    "5DIAGONAL STROKE|5DOT BELOW|5HOOK|5LINE BELOW|5OBLIQUE STROKE|5STROKE|6AND DIAGONAL STROKE|3L",
    "4WITH ACUTE|5BAR|5BELT|5CARON|5CEDILLA|5CIRCUMFLEX BELOW|5DOT BELOW|7AND MACRON|5DOUBLE BAR",
    "5HIGH STROKE|5LINE BELOW|5MIDDLE DOT|6TILDE|5SMALL LETTER J|5STROKE|3LJ|3M|4WITH ACUTE",
    "5DOT ABOVE|6BELOW|5HOOK|3MIDDLE SCOTS S|3MIDDLE-WELSH LL|4V|3N|4WITH ACUTE|5CARON|5CEDILLA",
    "5CIRCUMFLEX BELOW|5DESCENDER|5DOT ABOVE|6BELOW|5GRAVE|5LEFT HOOK|5LINE BELOW|5LONG RIGHT LEG",
    "5OBLIQUE STROKE|5SMALL LETTER J|5TILDE|3NJ|3O|4WITH ACUTE|5BREVE|5CARON|5CIRCUMFLEX",
    "6AND ACUTE|7DOT BELOW|7GRAVE|7HOOK ABOVE|7TILDE|5DIAERESIS|6AND MACRON|5DOT ABOVE|7AND MACRON",
    "6BELOW|5DOUBLE ACUTE|6GRAVE|5GRAVE|5HOOK ABOVE|5HORN|6AND ACUTE|7DOT BELOW|7GRAVE|7HOOK ABOVE",
    "7TILDE|5INVERTED BREVE|5LONG STROKE OVERLAY|5LOOP|5MACRON|6AND ACUTE|7GRAVE|5MIDDLE TILDE",
    "5OGONEK|6AND MACRON|5STROKE|6AND ACUTE|5TILDE|6AND ACUTE|7DIAERESIS|7MACRON|3OI|3OLD POLISH O",
    "3OMEGA|3OO|3OPEN E|4O|3OU|3P|4WITH ACUTE|5DOT ABOVE|5FLOURISH|5HOOK|5SQUIRREL TAIL|5STROKE",
    "6THROUGH DESCENDER|3Q|4WITH DIAGONAL STROKE|5STROKE THROUGH DESCENDER|3R|4ROTUNDA|4WITH ACUTE",
    "5CARON|5CEDILLA|5DOT ABOVE|6BELOW|7AND MACRON|5DOUBLE GRAVE|5INVERTED BREVE|5LINE BELOW",
    "5OBLIQUE STROKE|5STROKE|5TAIL|3REVERSED C WITH DOT|4E|4HALF H|4OPEN E|3RUM ROTUNDA|3S",
    "4WITH ACUTE|6AND DOT ABOVE|5CARON|6AND DOT ABOVE|5CEDILLA|5CIRCUMFLEX|5COMMA BELOW|5DOT ABOVE",
    "6BELOW|7AND DOT ABOVE|5HOOK|5OBLIQUE STROKE|5SHORT STROKE OVERLAY|5SWASH TAIL|3SALTILLO",
    "3SCHWA|3SCRIPT G|3SHARP S|3SIGMOID S|3SMALL CAPITAL I|4Q WITH HOOK TAIL|3T|4WITH CARON",
    "5CEDILLA|5CIRCUMFLEX BELOW|5COMMA BELOW|5DIAGONAL STROKE|5DOT ABOVE|6BELOW|5HOOK|5LINE BELOW",
    "5RETROFLEX HOOK|5STROKE|3THORN|4WITH STROKE|6THROUGH DESCENDER|3TONE FIVE|4SIX|4TWO|3TRESILLO",
    "3TURNED A|4ALPHA|4H|4INSULAR G|4K|4L|4M|4T|4V|3TZ|3U|4BAR|4WITH ACUTE|5BREVE|5CARON",
    "5CIRCUMFLEX|6BELOW|5DIAERESIS|6AND ACUTE|7CARON|7GRAVE|7MACRON|6BELOW|5DOT BELOW",
    "5DOUBLE ACUTE|6GRAVE|5GRAVE|5HOOK ABOVE|5HORN|6AND ACUTE|7DOT BELOW|7GRAVE|7HOOK ABOVE|7TILDE",
    "5INVERTED BREVE|5MACRON|6AND DIAERESIS|5OGONEK|5RING ABOVE|5STROKE|5TILDE|6AND ACUTE|6BELOW",
    "3UPSILON|3V|4WITH DIAGONAL STROKE|5DOT BELOW|5HOOK|5TILDE|3VEND|3VISIGOTHIC Z|3VOLAPUK AE|4OE",
    "4UE|3VY|3W|4WITH ACUTE|5CIRCUMFLEX|5DIAERESIS|5DOT ABOVE|6BELOW|5GRAVE|5HOOK|3WYNN|3X",
    "4WITH DIAERESIS|5DOT ABOVE|3Y|4WITH ACUTE|5CIRCUMFLEX|5DIAERESIS|5DOT ABOVE|6BELOW|5GRAVE",
    "5HOOK|6ABOVE|5LOOP|5MACRON|5STROKE|5TILDE|3YOGH|3Z|4WITH ACUTE|5CARON|5CIRCUMFLEX|5DESCENDER",
    "5DOT ABOVE|6BELOW|5HOOK|5LINE BELOW|5PALATAL HOOK|5STROKE|5SWASH TAIL|2LIGATURE IJ|3OE",
    "1EPIGRAPHIC LETTER ARCHAIC M|3I LONGA|3INVERTED M|3REVERSED F|4P|3SIDEWAYS I|1LETTER AIN",
    "2ALVEOLAR CLICK|2BIDENTAL PERCUSSIVE|2BILABIAL CLICK|3PERCUSSIVE|2DENTAL CLICK|2GLOTTAL STOP",
    "4WITH STROKE|2INVERTED GLOTTAL STOP|5WITH CURL|6STROKE|2LATERAL CLICK",
    "2PHARYNGEAL VOICED FRICATIVE|2RETROFLEX CLICK|4WITH RETROFLEX HOOK|2REVERSED ESH LOOP",
    "3GLOTTAL STOP WITH STROKE|2SINOLOGICAL DOT|2SMALL CAPITAL A|4AE|4B|4BARRED B|4C|4D|4E|4ETH",
    "4EZH|4F|4G|5WITH HOOK|4H|4I|4INVERTED R|4J|4K|4L|5WITH BELT|6STROKE|4M|4N|4O|4OE|4OPEN O|4OU",
    "4P|4Q|4R|5WITH RIGHT LEG|4REVERSED N|5R|4RUM|4S|4T|4TURNED E|5G|5K|5M|5R|4U|4V|4W|4Y|4Z",
    "2STRETCHED C|4WITH CURL|2TWO WITH STROKE|2VOICED LARYNGEAL SPIRANT|2WYNN|2YR",
    "1SMALL CAPITAL LETTER I WITH STROKE|4U WITH STROKE|2LETTER A|4REVERSED-SCHWA|4WITH ACUTE",
    "5BREVE|6AND ACUTE|7DOT BELOW|7GRAVE|7HOOK ABOVE|7TILDE|5CARON|5CIRCUMFLEX|6AND ACUTE",
    "7DOT BELOW|7GRAVE|7HOOK ABOVE|7TILDE|5DIAERESIS|6AND MACRON|5DOT ABOVE|7AND MACRON|6BELOW",
    "5DOUBLE GRAVE|5GRAVE|5HOOK ABOVE|5INVERTED BREVE|5MACRON|5OGONEK|5RETROFLEX HOOK",
    "5RIGHT HALF RING|5RING ABOVE|7AND ACUTE|6BELOW|5STROKE|5TILDE|3AA|3AE|4WITH ACUTE|5MACRON",
    "3ALPHA|4WITH RETROFLEX HOOK|3ANGLICANA W|3AO|3AU|3AV|4WITH HORIZONTAL BAR|3AY|3B",
    "4WITH DOT ABOVE|6BELOW|5FLOURISH|5HOOK|5LINE BELOW|5MIDDLE TILDE|5PALATAL HOOK|5STROKE",
    "5TOPBAR|3BARRED ALPHA|4E|4O|3BASELINE ESH|3BETA|3BLACKLETTER E|4O|5WITH STROKE|3BOTTOM HALF O",
    "3BROKEN L|3C|4WITH ACUTE|5BAR|5CARON|5CEDILLA|6AND ACUTE|5CIRCUMFLEX|5CURL|5DOT ABOVE|5HOOK",
    "5PALATAL HOOK|5RETROFLEX HOOK|5STROKE|3CHI|4WITH LOW LEFT SERIF|6RIGHT RING|3CLOSED INSULAR G",
    "4OMEGA|4OPEN E|4REVERSED OPEN E|3CON|3CUATRILLO|4WITH COMMA|3D|4WITH CARON|5CEDILLA",
    "5CIRCUMFLEX BELOW|5CURL|5DOT ABOVE|6BELOW|5HOOK|6AND TAIL|5LINE BELOW|5MIDDLE TILDE",
    "5PALATAL HOOK|5SHORT STROKE OVERLAY|5STROKE|5TAIL|5TOPBAR|3DB DIGRAPH|3DELTA|3DEZH DIGRAPH",
    "5WITH PALATAL HOOK|6RETROFLEX HOOK|3DOTLESS I|4J|5WITH STROKE|7AND HOOK|3DOUBLE R",
    "5WITH CROSSED-TAIL|4THORN|4WYNN|3DUM|3DZ|4DIGRAPH|5WITH CURL|6RETROFLEX HOOK|4WITH CARON|3E",
    "4WITH ACUTE|5BREVE|5CARON|5CEDILLA|6AND BREVE|5CIRCUMFLEX|6AND ACUTE|7DOT BELOW|7GRAVE",
    "7HOOK ABOVE|7TILDE|6BELOW|5DIAERESIS|5DOT ABOVE|6BELOW|5DOUBLE GRAVE|5FLOURISH|5GRAVE",
    "5HOOK ABOVE|5INVERTED BREVE|5MACRON|6AND ACUTE|7GRAVE|5NOTCH|5OGONEK|5RETROFLEX HOOK|5STROKE",
    "5TILDE|6BELOW|3EGYPTOLOGICAL AIN|4ALEF|3ENG|4WITH CROSSED-TAIL|5PALATAL HOOK|3ESH|4WITH CURL",
    "5DOUBLE BAR|7AND CURL|5PALATAL HOOK|5RETROFLEX HOOK|3ET|3ETH|3EZH|4REVERSED|4WITH CARON|5CURL",
    "5PALATAL HOOK|5RETROFLEX HOOK|5TAIL|3F|4WITH DOT ABOVE|5HOOK|5MIDDLE TILDE|5PALATAL HOOK",
    "5STROKE|3FENG DIGRAPH|5WITH TRILL|3G|4WITH ACUTE|5BREVE|5CARON|5CEDILLA|5CIRCUMFLEX",
    "5DOT ABOVE|5HOOK|5MACRON|5OBLIQUE STROKE|5PALATAL HOOK|5STROKE|3GAMMA|3GHA|3GLOTTAL A|4I",
    "4STOP|4U|3H|4WITH BREVE BELOW|5CARON|5CEDILLA|5CIRCUMFLEX|5DESCENDER|5DIAERESIS|5DOT ABOVE",
    "6BELOW|5HOOK|5LINE BELOW|5PALATAL HOOK|5STROKE|3HALF H|3HENG|4WITH HOOK|3HV|3I|4WITH ACUTE",
    "5BREVE|5CARON|5CIRCUMFLEX|5DIAERESIS|6AND ACUTE|5DOT BELOW|5DOUBLE GRAVE|5GRAVE|5HOOK ABOVE",
    "5INVERTED BREVE|5MACRON|5OGONEK|5RETROFLEX HOOK|5STROKE|6AND RETROFLEX HOOK|5TILDE|6BELOW",
    "3INSULAR D|4F|4G|4R|4S|4T|3INVERTED ALPHA|4OE|3IOTA|4WITH STROKE|3IOTIFIED E|3IS|3J",
    "4WITH CARON|5CIRCUMFLEX|5CROSSED-TAIL|5STROKE|3K|4WITH ACUTE|5CARON|5CEDILLA|5DESCENDER",
    "5DIAGONAL STROKE|5DOT BELOW|5HOOK|5LINE BELOW|5OBLIQUE STROKE|5PALATAL HOOK|5STROKE",
    "6AND DIAGONAL STROKE|3KRA|3L|4WITH ACUTE|5BAR|5BELT|6AND PALATAL HOOK|5CARON|5CEDILLA",
    "5CIRCUMFLEX BELOW|5CURL|5DOT BELOW|7AND MACRON|5DOUBLE BAR|6MIDDLE TILDE|5FISHHOOK",
    "5HIGH STROKE|5INVERTED LAZY S|5LINE BELOW|5MIDDLE DOT|6RING|6TILDE|5PALATAL HOOK",
    "5RETROFLEX HOOK|7AND BELT|5STROKE|3LAMBDA WITH STROKE|3LENIS F|3LEZH|4WITH RETROFLEX HOOK|3LJ",
    "3LONG S|5WITH DIAGONAL STROKE|6DOT ABOVE|6HIGH STROKE|3LS DIGRAPH|3LUM|3LZ DIGRAPH|3M",
    "4WITH ACUTE|5CROSSED-TAIL|5DOT ABOVE|6BELOW|5HOOK|5MIDDLE TILDE|5PALATAL HOOK|3MIDDLE SCOTS S",
    "3MIDDLE-WELSH LL|4V|3MUM|3N|4PRECEDED BY APOSTROPHE|4WITH ACUTE|5CARON|5CEDILLA",
    "5CIRCUMFLEX BELOW|5CROSSED-TAIL|5CURL|5DESCENDER|5DOT ABOVE|6BELOW|5GRAVE|5LEFT HOOK",
    "5LINE BELOW|5LONG RIGHT LEG|5MIDDLE TILDE|5OBLIQUE STROKE|5PALATAL HOOK|5RETROFLEX HOOK",
    "5TILDE|3NJ|3NUM|3O|4WITH ACUTE|5BREVE|5CARON|5CIRCUMFLEX|6AND ACUTE|7DOT BELOW|7GRAVE",
    "7HOOK ABOVE|7TILDE|5DIAERESIS|6AND MACRON|5DOT ABOVE|7AND MACRON|6BELOW|5DOUBLE ACUTE|6GRAVE",
    "5GRAVE|5HOOK ABOVE|5HORN|6AND ACUTE|7DOT BELOW|7GRAVE|7HOOK ABOVE|7TILDE|5INVERTED BREVE",
    "5LONG STROKE OVERLAY|5LOOP|5LOW RING INSIDE|5MACRON|6AND ACUTE|7GRAVE|5OGONEK|6AND MACRON",
    "5RETROFLEX HOOK|5STROKE|6AND ACUTE|5TILDE|6AND ACUTE|7DIAERESIS|7MACRON|3OI|3OLD POLISH O",
    "3OMEGA|3OO|3OPEN E|5WITH RETROFLEX HOOK|4O|5WITH RETROFLEX HOOK|6STROKE|4OE|3OU|3P",
    "4WITH ACUTE|5DOT ABOVE|5FLOURISH|5HOOK|5MIDDLE TILDE|5PALATAL HOOK|5SQUIRREL TAIL|5STROKE",
    "6THROUGH DESCENDER|3PHI|3Q|4WITH DIAGONAL STROKE|5HOOK|6TAIL|5STROKE THROUGH DESCENDER",
    "3QP DIGRAPH|3R|4ROTUNDA|4WITH ACUTE|5CARON|5CEDILLA|5CROSSED-TAIL|5DOT ABOVE|6BELOW",
    "7AND MACRON|5DOUBLE GRAVE|5FISHHOOK|6AND MIDDLE TILDE|7PALATAL HOOK|5INVERTED BREVE",
    "5LINE BELOW|5LONG LEG|5MIDDLE TILDE|5OBLIQUE STROKE|5PALATAL HOOK|5STROKE|5TAIL",
    "4WITHOUT HANDLE|3RAMS HORN|3REVERSED C WITH DOT|4E|4ENG|4HALF H|4K|4OPEN E|6WITH HOOK",
    "7RETROFLEX HOOK|4R WITH FISHHOOK|4SCRIPT G|3RUM|4ROTUNDA|3S|4WITH ACUTE|6AND DOT ABOVE|5CARON",
    "6AND DOT ABOVE|5CEDILLA|5CIRCUMFLEX|5COMMA BELOW|5CURL|5DOT ABOVE|6BELOW|7AND DOT ABOVE|5HOOK",
    "5MIDDLE TILDE|5OBLIQUE STROKE|5PALATAL HOOK|5SHORT STROKE OVERLAY|5SWASH TAIL|3SAKHA YAT",
    "3SALTILLO|3SCHWA|4WITH HOOK|5RETROFLEX HOOK|3SCRIPT G|5WITH CROSSED-TAIL|4R|5WITH RING",
    "3SHARP S|3SIDEWAYS DIAERESIZED U|4O|5WITH STROKE|4OPEN O|4TURNED M|4U|3SIGMOID S",
    "3SQUAT REVERSED ESH|3STIRRUP R|3T|4WITH CARON|5CEDILLA|5CIRCUMFLEX BELOW|5COMMA BELOW|5CURL",
    "5DIAERESIS|5DIAGONAL STROKE|5DOT ABOVE|6BELOW|5HOOK|6AND RETROFLEX HOOK|5LINE BELOW",
    "5MIDDLE TILDE|5PALATAL HOOK|5RETROFLEX HOOK|5STROKE|3TAILLESS PHI|3TC DIGRAPH WITH CURL",
    "3TESH DIGRAPH|5WITH PALATAL HOOK|6RETROFLEX HOOK|3TH WITH STRIKETHROUGH|3THORN|4WITH STROKE",
    "6THROUGH DESCENDER|3TONE FIVE|4SIX|4TWO|3TOP HALF O|3TRESILLO|3TS DIGRAPH",
    "5WITH RETROFLEX HOOK|3TUM|3TURNED A|4AE|4ALPHA|4DELTA|4E|4G|4H|5WITH FISHHOOK|7AND TAIL|4I",
    "4INSULAR G|4K|4L|4M|5WITH LONG LEG|4O OPEN-O|6WITH STROKE|4OE|5WITH HORIZONTAL STROKE|6STROKE",
    "4OPEN E|4R|5WITH HOOK|6LONG LEG|8AND RETROFLEX HOOK|6MIDDLE TILDE|6PALATAL HOOK|6TAIL|4T",
    "5WITH CURL|4UI|4V|4W|4Y|5WITH BELT|3TZ|3U|4BAR|5WITH SHORT RIGHT LEG|4WITH ACUTE|5BREVE",
    "5CARON|5CIRCUMFLEX|6BELOW|5DIAERESIS|6AND ACUTE|7CARON|7GRAVE|7MACRON|6BELOW|5DOT BELOW",
    "5DOUBLE ACUTE|6GRAVE|5GRAVE|5HOOK ABOVE|5HORN|6AND ACUTE|7DOT BELOW|7GRAVE|7HOOK ABOVE|7TILDE",
    "5INVERTED BREVE|5LEFT HOOK|5MACRON|6AND DIAERESIS|5OGONEK|5RETROFLEX HOOK|5RING ABOVE",
    "5SHORT RIGHT LEG|5STROKE|5TILDE|6AND ACUTE|6BELOW|3UE|3UI|3UM|3UO|3UPSILON|4WITH STROKE|3V",
    "4WITH CURL|5DIAGONAL STROKE|5DOT BELOW|5HOOK|5PALATAL HOOK|5RIGHT HOOK|5TILDE|3VEND",
    "3VISIGOTHIC Z|3VOLAPUK AE|4OE|4UE|3VY|3W|4WITH ACUTE|5CIRCUMFLEX|5DIAERESIS|5DOT ABOVE|6BELOW",
    "5GRAVE|5HOOK|5RING ABOVE|3X|4WITH DIAERESIS|5DOT ABOVE|5LONG LEFT LEG|8AND LOW RIGHT RING",
    "8WITH SERIF|5LOW RIGHT RING|5PALATAL HOOK|3Y|4WITH ACUTE|5CIRCUMFLEX|5DIAERESIS|5DOT ABOVE",
    "6BELOW|5GRAVE|5HOOK|6ABOVE|5LOOP|5MACRON|5RING ABOVE|5SHORT RIGHT LEG|5STROKE|5TILDE|3YOGH|3Z",
    "4WITH ACUTE|5CARON|5CIRCUMFLEX|5CURL|5DESCENDER|5DOT ABOVE|6BELOW|5HOOK|5LINE BELOW",
    "5MIDDLE TILDE|5PALATAL HOOK|5RETROFLEX HOOK|5STROKE|5SWASH TAIL|2LIGATURE FF|3FFI|3FFL|3FI",
    "3FL|3IJ|3LONG S T|3OE|3ST|1SUBSCRIPT SMALL LETTER I|4J|4R|4U|4V|0LEFT CURLY BRACKET",
    "1PARENTHESIS|1SQUARE BRACKET|0LEFT-FACING ARMENIAN ETERNITY SIGN",
    "0LEFT-POINTING DOUBLE ANGLE QUOTATION MARK|0LESS-THAN SIGN|0LOW LINE|0MACRON",
    "0MASCULINE ORDINAL INDICATOR|0MICRO SIGN|0MIDDLE DOT|0MODIFIER BREVE WITH INVERTED BREVE",
    "1LETTER ACUTE ACCENT|2ALVEOLAR CLICK|2APOSTROPHE|2BEGIN HIGH TONE|3LOW TONE|2BILABIAL CLICK",
    "2CAPITAL A|3AE|3B|3BARRED B|3C|3D|3E|3F|3G|3H|4WITH STROKE|3I|3J|3K|3L|3M|3N|3O|3OU|3P|3Q|3R",
    "3REVERSED E|4N|3T|3U|3V|3W|2CENTRED LEFT HALF RING|3RIGHT HALF RING|2CHINESE TONE YANG PING",
    "5QU|5RU|5SHANG|4YIN PING|5QU|5RU|5SHANG|2CIRCUMFLEX ACCENT|2COLON|2CROSS ACCENT|2CYRILLIC EN",
    "3HARD SIGN|3SOFT SIGN|2DENTAL CLICK|2DOT HORIZONTAL BAR|3SLASH|3VERTICAL BAR",
    "2DOUBLE APOSTROPHE|3PRIME|2DOWN ARROWHEAD|3TACK|2END HIGH TONE|3LOW TONE",
    "2EXTRA-HIGH DOTTED LEFT-STEM TONE BAR|4TONE BAR|3LEFT-STEM TONE BAR|3TONE BAR",
    "2EXTRA-LOW DOTTED LEFT-STEM TONE BAR|4TONE BAR|3LEFT-STEM TONE BAR|3TONE BAR|2GEORGIAN NAR",
    "2GLOTTAL STOP|4WITH STROKE|2GRAVE ACCENT|2HALF TRIANGULAR COLON",
    "2HIGH DOTTED LEFT-STEM TONE BAR|4TONE BAR|3LEFT-STEM TONE BAR|3TONE BAR|2LATERAL CLICK",
    "2LEFT ARROWHEAD|3HALF RING|3TACK|2LOW ACUTE ACCENT|3CIRCUMFLEX ACCENT",
    "3DOTTED LEFT-STEM TONE BAR|4TONE BAR|3DOWN ARROWHEAD|3GRAVE ACCENT|3INVERTED EXCLAMATION MARK",
    "3LEFT ARROW|4ARROWHEAD|3LEFT-STEM TONE BAR|3MACRON|3RIGHT ARROWHEAD|3RING|3TILDE|3TONE BAR",
    "3UP ARROWHEAD|3VERTICAL LINE|2LOWER RIGHT CORNER ANGLE|2MACRON|2MID DOTTED LEFT-STEM TONE BAR",
    "4TONE BAR|3LEFT-STEM TONE BAR|3TONE BAR|2MIDDLE DOUBLE ACUTE ACCENT|4GRAVE ACCENT",
    "3GRAVE ACCENT|2MINUS SIGN|2OPEN SHELF|2PLUS SIGN|2PRIME|2RAISED COLON|3DOWN ARROW",
    "3EXCLAMATION MARK|3INVERTED EXCLAMATION MARK|3UP ARROW|2RETROFLEX CLICK WITH RETROFLEX HOOK",
    "2REVERSED COMMA|3GLOTTAL STOP|5WITH STROKE|2RHOTIC HOOK|2RIGHT ARROWHEAD|3HALF RING|3TACK",
    "2SHELF|2SHORT EQUALS SIGN|2SMALL A|3AE|3AIN|3ALPHA|3B|4WITH HOOK|3BARRED O|3BETA",
    "3BOTTOM HALF O|3C|4WITH CURL|3CAPITAL AA|4B|4G|5WITH HOOK|4H|4I|5WITH STROKE|4INVERTED R|4L",
    "5WITH BELT|4N|4OE|4R|4U|4Y|3CHI|3CLOSED OMEGA|4REVERSED OPEN E|3D|4WITH HOOK|6AND TAIL|5TAIL",
    "3DELTA|3DEZH DIGRAPH|3DOTLESS J WITH STROKE|7AND HOOK|3DZ DIGRAPH|5WITH CURL|6RETROFLEX HOOK",
    "3E|3ENG|3ESH|3ETH|3EZH|3F|3FENG DIGRAPH|3G|4WITH HOOK|3GAMMA|3GREEK GAMMA|4PHI|3H|4WITH HOOK",
    "5STROKE|3HENG|4WITH HOOK|3I WITH STROKE|3IOTA|3J|4WITH CROSSED-TAIL|3K|3L|4WITH BELT",
    "5INVERTED LAZY S|5MIDDLE TILDE|5PALATAL HOOK|5RETROFLEX HOOK|7AND BELT|3LEZH",
    "4WITH RETROFLEX HOOK|3LIGATURE OE|3LS DIGRAPH|3LZ DIGRAPH|3M|4WITH HOOK|3N WITH LEFT HOOK",
    "5RETROFLEX HOOK|3O|4WITH STROKE|3OPEN E|4O|3P|3PHI|3Q|3R|4WITH FISHHOOK|5TAIL|3RAMS HORN",
    "3REVERSED E|4GLOTTAL STOP|4OPEN E|3S|4WITH CURL|5HOOK|3SCHWA|3SCRIPT G|3SIDEWAYS U|3T",
    "4WITH PALATAL HOOK|5RETROFLEX HOOK|3TC DIGRAPH WITH CURL|3TESH DIGRAPH|3THETA|3TOP HALF O",
    "3TS DIGRAPH|5WITH RETROFLEX HOOK|3TURNED A|4AE|4ALPHA|4H|4I|4M|5WITH LONG LEG|4OPEN E|4R",
    "5WITH HOOK|6LONG LEG|8AND RETROFLEX HOOK|4V|4W|4Y|5WITH BELT|3U|4BAR|4WITH LEFT HOOK|3UPSILON",
    "3V|4WITH HOOK|5RIGHT HOOK|3W|3X|3Y|3Z|4WITH CURL|5RETROFLEX HOOK|2STRESS AND HIGH TONE",
    "4LOW TONE|2SUPERSCRIPT HALF TRIANGULAR COLON|3TRIANGULAR COLON|2TRIANGULAR COLON",
    "2TURNED COMMA|2UNASPIRATED|2UP ARROWHEAD|3TACK|2US|2VERTICAL LINE|2VOICING",
    "2YANG DEPARTING TONE MARK|2YIN DEPARTING TONE MARK|0MULTIPLICATION SIGN|0NO-BREAK SPACE",
    "0NOT SIGN|0NUMBER SIGN|0OGHAM FEATHER MARK|1LETTER AILM|2BEITH|2CEIRT|2COLL|2DAIR|2EABHADH",
    "2EADHADH|2EAMHANCHOLL|2FEARN|2GORT|2IFIN|2IODHADH|2LUIS|2MUIN|2NGEADAL|2NION|2ONN|2OR|2PEITH",
    "2RUIS|2SAIL|2STRAIF|2TINNE|2UATH|2UILLEANN|2UR|1REVERSED FEATHER MARK|1SPACE MARK|0OGONEK",
    "0OLD HUNGARIAN CAPITAL LETTER A|4AA|4AK|4AMB|4AND|4CLOSE E|4E|4EB|4EC|4ECH|4ECS|4ED|4EE|4EF",
    "4EG|4EGY|4EH|4EJ|4EK|4EL|4ELY|4EM|4EMP|4EN|4ENC|4ENT|4ENT-SHAPED SIGN|4ENY|4EP|4ER|4ES|4ESZ",
    "4ET|4ETY|4EV|4EZ|4EZS|4I|4II|4NIKOLSBURG OE|5UE|4O|4OEE|4OO|4RUDIMENTA OE|5UE|4SHORT ER|4U",
    "4UNK|4US|4UU|2NUMBER FIFTY|3FIVE|3ONE|4HUNDRED|4THOUSAND|3TEN|2SMALL LETTER A|4AA|4AK|4AMB",
    "4AND|4CLOSE E|4E|4EB|4EC|4ECH|4ECS|4ED|4EE|4EF|4EG|4EGY|4EH|4EJ|4EK|4EL|4ELY|4EM|4EMP|4EN",
    "4ENC|4ENT|4ENT-SHAPED SIGN|4ENY|4EP|4ER|4ES|4ESZ|4ET|4ETY|4EV|4EZ|4EZS|4I|4II|4NIKOLSBURG OE",
    "5UE|4O|4OEE|4OO|4RUDIMENTA OE|5UE|4SHORT ER|4U|4UNK|4US|4UU|1ITALIC LETTER A|3BE|3CHE|3DE|3E",
    "3EF|3EKS|3EL|3EM|3EN|3ER|3ERS|3ES|3ESH|3ESS|3HE|3I|3II|3KA|3KE|3KHE|3KU|3NORTHERN TSE|3O|3PE",
    "3PHE|3SHE|3SOUTHERN TSE|3TE|3THE|3U|3UU|3VE|3YE|3ZE|2NUMERAL FIFTY|3FIVE|3ONE|3TEN",
    "1PERMIC LETTER AN|3BUR|3CHERY|3DOI|3DZHOI|3DZITA|3E|3EF|3GAI|3HA|3I|3IA|3IE|3KOKE|3LEI|3MENOE",
    "3NENOE|3O|3OO|3PEEI|3REI|3SHCHOOI|3SHOOI|3SII|3TAI|3TSIU|3U|3VER|3VOOI|3YA|3YAT|3YER|3YERI",
    "3YERU|3YRY|3YU|3ZATA|3ZHOI|0OSAGE CAPITAL LETTER A|3AH|3AI|3AIN|3BRA|3CHA|3DHA|3E|3EHCHA",
    "3EHKA|3EHPA|3EHTA|3EHTSA|3EIN|3GHA|3HA|3HYA|3I|3KA|3KHA|3KYA|3LA|3MA|3NA|3O|3OIN|3PA|3SA|3SHA",
    "3TA|3TSA|3TSHA|3U|3WA|3ZA|3ZHA|1SMALL LETTER A|3AH|3AI|3AIN|3BRA|3CHA|3DHA|3E|3EHCHA|3EHKA",
    "3EHPA|3EHTA|3EHTSA|3EIN|3GHA|3HA|3HYA|3I|3KA|3KHA|3KYA|3LA|3MA|3NA|3O|3OIN|3PA|3SA|3SHA|3TA",
    "3TSA|3TSHA|3U|3WA|3ZA|3ZHA|0PERCENT SIGN|0PILCROW SIGN|0PLUS SIGN|0PLUS-MINUS SIGN",
    "0POUND SIGN|0QUESTION MARK|0QUOTATION MARK|0REGISTERED SIGN|0REVERSE SOLIDUS",
    "0RIGHT CURLY BRACKET|1PARENTHESIS|1SQUARE BRACKET|0RIGHT-FACING ARMENIAN ETERNITY SIGN",
    "0RIGHT-POINTING DOUBLE ANGLE QUOTATION MARK|0RING ABOVE|0RUNIC ARLAUG SYMBOL|1BELGTHOR SYMBOL",
    "1CROSS PUNCTUATION|1LETTER AC A|2AESC|2ALGIZ EOLHX|2ANSUZ A|2BERKANAN BEORC BJARKAN B|2C",
    "2CALC|2CEALC|2CEN|2CWEORTH|2D|2DAGAZ DAEG D|2DOTTED-L|2DOTTED-N|2DOTTED-P|2E|2EAR|2EHWAZ EH E",
    "2ENG|2ETH|2FEHU FEOH FE F|2FRANKS CASKET AC|4AESC|4EH|4IS|4OS|2G|2GAR|2GEBO GYFU G|2GER",
    "2HAEGL H|2HAGLAZ H|2ICELANDIC-YR|2ING|2INGWAZ|2IOR|2ISAZ IS ISS I|2IWAZ EOH|2JERAN J|2K",
    "2KAUN K|2KAUNA|2LAUKAZ LAGU LOGR L|2LONG-BRANCH-AR AE|2LONG-BRANCH-HAGALL H",
    "2LONG-BRANCH-MADR M|2LONG-BRANCH-OSS O|2LONG-BRANCH-YR|2MANNAZ MAN M|2NAUDIZ NYD NAUD N|2O",
    "2OE|2ON|2OO|2OPEN-P|2OS O|2OTHALAN ETHEL O|2PERTHO PEORTH P|2Q|2RAIDO RAD REID R|2SH",
    "2SHORT-TWIG-AR A|2SHORT-TWIG-BJARKAN B|2SHORT-TWIG-HAGALL H|2SHORT-TWIG-MADR M",
    "2SHORT-TWIG-NAUD N|2SHORT-TWIG-OSS O|2SHORT-TWIG-SOL S|2SHORT-TWIG-TYR T|2SHORT-TWIG-YR",
    "2SIGEL LONG-BRANCH-SOL S|2SOWILO S|2STAN|2THURISAZ THURS THORN|2TIWAZ TIR TYR T|2URUZ UR U|2V",
    "2W|2WUNJO WYNN W|2X|2Y|2YR|2Z|1MULTIPLE PUNCTUATION|1SINGLE PUNCTUATION|1TVIMADUR SYMBOL",
    "0SECTION SIGN|0SEMICOLON|0SHAVIAN LETTER ADO|2AGE|2AH|2AIR|2ARE|2ARRAY|2ASH|2AWE|2BIB|2CHURCH",
    "2DEAD|2EAR|2EAT|2EGG|2ERR|2FEE|2GAG|2HA-HA|2HUNG|2IAN|2ICE|2IF|2JUDGE|2KICK|2LOLL|2MEASURE",
    "2MIME|2NUN|2OAK|2OIL|2ON|2OOZE|2OR|2OUT|2PEEP|2ROAR|2SO|2SURE|2THEY|2THIGH|2TOT|2UP|2VOW|2WOE",
    "2WOOL|2YEA|2YEW|2ZOO|0SHORTHAND FORMAT CONTINUING OVERLAP|2DOWN STEP|2LETTER OVERLAP|2UP STEP",
    "0SLAVONIC ASTERISK|0SMALL TILDE|0SOFT HYPHEN|0SOLIDUS|0SPACE|0SUPERSCRIPT ONE|1THREE|1TWO",
    "0TILDE|0VERTICAL LINE|0VITHKUQI CAPITAL LETTER A|3BBE|3BE|3CE|3CHE|3DE|3DHE|3E|3EI|3FE|3GA",
    "3HA|3HHA|3I|3IJE|3JE|3KA|3LA|3LLA|3ME|3NE|3NJE|3O|3PE|3QA|3RE|3SE|3SHE|3TE|3THE|3U|3VE|3XE|3Y",
    "3ZE|1SMALL LETTER A|3BBE|3BE|3CE|3CHE|3DE|3DHE|3E|3EI|3FE|3GA|3HA|3HHA|3I|3IJE|3JE|3KA|3LA",
    "3LLA|3ME|3NE|3NJE|3O|3PE|3QA|3RE|3SE|3SHE|3TE|3THE|3U|3VE|3XE|3Y|3ZE",
    "0VULGAR FRACTION ONE HALF|3QUARTER|2THREE QUARTERS|0YEN SIGN"]

end Casebook.Text.NameTable
