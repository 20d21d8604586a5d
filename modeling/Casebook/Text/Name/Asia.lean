/-!
# Names of characters of South and Southeast Asia

Letters and syllables of India, Tibet, Burma, Thailand, Indonesia and their neighbours.
-/

namespace Casebook.Text.NameTable

/-- The names, in the form of a table of names. -/
def asia : List String :=
  ["0AHOM CONSONANT SIGN MEDIAL LA|4LIGATING RA|4RA|1DIGIT EIGHT|2FIVE|2FOUR|2NINE|2ONE|2SEVEN",
    "2SIX|2THREE|2TWO|2ZERO|1LETTER A|2ALTERNATE BA|3GA|3TA|2BA|2BHA|2CA|2CHA|2DA|2DDA|2DDHA|2DHA",
    "2GA|2GHA|2HA|2JA|2JHA|2KA|2KHA|2LA|2LLA|2MA|2NA|2NGA|2NNA|2NYA|2PA|2PHA|2RA|2SA|2TA|2THA|2TTA",
    "2TTHA|1NUMBER TEN|2TWENTY|1SIGN KILLER|2RULAI|2SECTION|2SMALL SECTION|1SYMBOL VI",
    "1VOWEL SIGN A|3AA|3AI|3AM|3AW|3E|3I|3II|3O|3U|3UU|0BALINESE ADEG ADEG|1CARIK PAMUNGKAH",
    "2PAREREN|2SIKI|1DIGIT EIGHT|2FIVE|2FOUR|2NINE|2ONE|2SEVEN|2SIX|2THREE|2TWO|2ZERO",
    "1LETTER AIKARA|2AKARA|3TEDUNG|2ARCHAIC JNYA|2ASYURA SASAK|2BA|3KEMBANG|2CA|3LACA|2DA|3MADU",
    "3MURDA ALPAPRANA|4MAHAPRANA|2EF SASAK|2EKARA|2GA|3GORA|2HA|2IKARA|3TEDUNG|2JA|3JERA|2KA",
    "3MAHAPRANA|2KAF SASAK|2KHOT SASAK|2LA|3LENGA|4TEDUNG|2MA|2NA|3RAMBAT|2NGA|2NYA|2OKARA|3TEDUNG",
    "2PA|3KAPAL|2RA|3REPA|4TEDUNG|2SA|3SAGA|3SAPA|2TA|3LATIK|3MURDA MAHAPRANA|3TAWA|2TZIR SASAK",
    "2UKARA|3TEDUNG|2VE SASAK|2WA|2YA|2ZAL SASAK|1MUSICAL SYMBOL COMBINING BENDE|4ENDEP|4GONG",
    "4JEGOGAN|4KEMPLI|5WITH JEGOGAN|4KEMPUL|5WITH JEGOGAN|4TEGEH|3DAENG|3DAING|3DANG|4GEDE|4SURANG",
    "3DENG|3DEUNG|3DING|3DONG|3DUNG|3LEFT-HAND CLOSED PLAK|5PLUK|4OPEN PANG|5PING|5PUNG",
    "3RIGHT-HAND CLOSED TAK|5TUK|4OPEN DAG|5DUG|1PAMADA|2LANTANG|1PAMENENG|1PANTI|2LANTANG",
    "1SIGN BISAH|2CECEK|2REREKAN|2SURANG|2ULU CANDRA|3RICEM|1VOWEL SIGN LA LENGA|5TEDUNG|3PEPET",
    "4TEDUNG|3RA REPA|5TEDUNG|3SUKU|4ILUT|3TALING|4REPA|5TEDUNG|4TEDUNG|3TEDUNG|3ULU|4SARI|1WINDU",
    "0BATAK CONSONANT SIGN H|3NG|1LETTER A|2BA|2CA|2DA|2GA|2HA|2I|2JA|2KARO BA|2LA|2MA",
    "2MANDAILING HA|3NA|3SA|2MBA|2NA|2NDA|2NGA|2NORTHERN TA|2NYA|2PA|2PAKPAK WA|2RA|2SA",
    "2SIMALUNGUN A|3GA|3HA|3LA|3MA|3PA|3RA|3SA|3WA|3YA|2SOUTHERN TA|2U|2WA|2YA|1PANGOLAT",
    "1PANONGONAN|1SIGN TOMPI|1SYMBOL BINDU JUDUL|3NA METEK|3PANGOLAT|3PINARBORAS|1VOWEL SIGN E|3EE",
    "3I|3KARO I|4O|3O|3PAKPAK E|3U|4FOR SIMALUNGUN SA|0BENGALI ABBREVIATION SIGN|1ANJI",
    "1AU LENGTH MARK|1CURRENCY DENOMINATOR SIXTEEN|2NUMERATOR FOUR|3ONE|4LESS THAN THE DENOMINATOR",
    "3THREE|3TWO|1DIGIT EIGHT|2FIVE|2FOUR|2NINE|2ONE|2SEVEN|2SIX|2THREE|2TWO|2ZERO|1GANDA MARK",
    "1ISSHAR|1LETTER A|2AA|2AI|2AU|2BA|2BHA|2CA|2CHA|2DA|2DDA|2DDHA|2DHA|2E|2GA|2GHA|2HA|2I|2II",
    "2JA|2JHA|2KA|2KHA|2KHANDA TA|2LA|2MA|2NA|2NGA|2NNA|2NYA|2O|2PA|2PHA|2RA|3WITH LOWER DIAGONAL",
    "4MIDDLE DIAGONAL|2RHA|2RRA|2SA|2SHA|2SSA|2TA|2THA|2TTA|2TTHA|2U|2UU|2VEDIC ANUSVARA",
    "2VOCALIC L|3LL|3R|3RR|2YA|2YYA|1RUPEE MARK|2SIGN|1SANDHI MARK|1SIGN ANUSVARA|2AVAGRAHA",
    "2CANDRABINDU|2NUKTA|2VIRAMA|2VISARGA|1VOWEL SIGN AA|3AI|3AU|3E|3I|3II|3O|3U|3UU|3VOCALIC L",
    "4LL|4R|4RR|0BHAIKSUKI DANDA|1DIGIT EIGHT|2FIVE|2FOUR|2NINE|2ONE|2SEVEN|2SIX|2THREE|2TWO|2ZERO",
    "1DOUBLE DANDA|1GAP FILLER-1|2FILLER-2|1HUNDREDS UNIT MARK|1LETTER A|2AA|2AI|2AU|2BA|2BHA|2CA",
    "2CHA|2DA|2DDA|2DDHA|2DHA|2E|2GA|2GHA|2HA|2I|2II|2JA|2JHA|2KA|2KHA|2LA|2MA|2NA|2NGA|2NNA|2NYA",
    "2O|2PA|2PHA|2RA|2SA|2SHA|2SSA|2TA|2THA|2TTA|2TTHA|2U|2UU|2VA|2VOCALIC L|3R|3RR|2YA",
    "1NUMBER EIGHT|2EIGHTY|2FIFTY|2FIVE|2FORTY|2FOUR|2NINE|2NINETY|2ONE|2SEVEN|2SEVENTY|2SIX",
    "2SIXTY|2TEN|2THIRTY|2THREE|2TWENTY|2TWO|1SIGN ANUSVARA|2AVAGRAHA|2CANDRABINDU|2VIRAMA",
    "2VISARGA|1VOWEL SIGN AA|3AI|3AU|3E|3I|3II|3O|3U|3UU|3VOCALIC L|4R|4RR|1WORD SEPARATOR",
    "0BRAHMI DANDA|1DIGIT EIGHT|2FIVE|2FOUR|2NINE|2ONE|2SEVEN|2SIX|2THREE|2TWO|2ZERO|1DOUBLE DANDA",
    "1LETTER A|2AA|2AI|2AU|2BA|2BHA|2CA|2CHA|2DA|2DDA|2DDHA|2DHA|2E|2GA|2GHA|2HA|2I|2II|2JA|2JHA",
    "2KA|2KHA|2LA|2LLA|2MA|2NA|2NGA|2NNA|2NYA|2O|2OLD TAMIL LLA|4LLLA|4NNNA|4RRA|4SHORT E|5O|2PA",
    "2PHA|2RA|2SA|2SHA|2SSA|2TA|2THA|2TTA|2TTHA|2U|2UU|2VA|2VOCALIC L|3LL|3R|3RR|2YA|1NUMBER EIGHT",
    "2EIGHTY|2FIFTY|2FIVE|2FORTY|2FOUR|2JOINER|2NINE|2NINETY|2ONE|3HUNDRED|3THOUSAND|2SEVEN",
    "2SEVENTY|2SIX|2SIXTY|2TEN|2THIRTY|2THREE|2TWENTY|2TWO|1PUNCTUATION CRESCENT BAR|2DOT",
    "2DOUBLE DOT|2LINE|2LOTUS|1SIGN ANUSVARA|2CANDRABINDU|2JIHVAMULIYA|2OLD TAMIL VIRAMA",
    "2UPADHMANIYA|2VISARGA|1VIRAMA|1VOWEL SIGN AA|3AI|3AU|3BHATTIPROLU AA|3E|3I|3II|3O",
    "3OLD TAMIL SHORT E|6O|3U|3UU|3VOCALIC L|4LL|4R|4RR|0BUGINESE END OF SECTION|1LETTER A|2BA|2CA",
    "2DA|2GA|2HA|2JA|2KA|2LA|2MA|2MPA|2NA|2NGA|2NGKA|2NRA|2NYA|2NYCA|2PA|2RA|2SA|2TA|2VA|2YA",
    "1PALLAWA|1VOWEL SIGN AE|3E|3I|3O|3U|0BUHID LETTER A|2BA|2DA|2GA|2HA|2I|2KA|2LA|2MA|2NA|2NGA",
    "2PA|2RA|2SA|2TA|2U|2WA|2YA|1VOWEL SIGN I|3U|0CHAKMA AU MARK|1DANDA|1DIGIT EIGHT|2FIVE|2FOUR",
    "2NINE|2ONE|2SEVEN|2SIX|2THREE|2TWO|2ZERO|1DOUBLE DANDA|1LETTER AA|2BAA|2BHAA|2CAA|2CHAA|2DAA",
    "2DDAA|2DDHAA|2DHAA|2E|2GAA|2GHAA|2HAA|2I|2JAA|2JHAA|2KAA|2KHAA|2LAA|2LHAA|2MAA|2NAA|2NGAA",
    "2NNAA|2NYAA|2PAA|2PHAA|2RAA|2SAA|2TAA|2THAA|2TTAA|2TTHAA|2U|2VAA|2WAA|2YAA|2YYAA|1MAAYYAA",
    "1O MARK|1QUESTION MARK|1SECTION MARK|1SIGN ANUSVARA|2CANDRABINDU|2VISARGA|1VIRAMA",
    "1VOWEL SIGN A|3AA|3AI|3AU|3E|3EI|3I|3II|3O|3OI|3U|3UU|0CHAM CONSONANT SIGN FINAL H|4M|4NG|3LA",
    "3RA|3WA|3YA|1DIGIT EIGHT|2FIVE|2FOUR|2NINE|2ONE|2SEVEN|2SIX|2THREE|2TWO|2ZERO|1LETTER A|2AI",
    "2BA|2BBA|2BHA|2CHA|2CHHA|2DA|2DDA|2DHA|2E|2FINAL CH|3G|3K|3L|3N|3NG|3P|3R|3SS|3T|3Y|2GA|2GHA",
    "2HA|2I|2JA|2JHA|2KA|2KHA|2LA|2MA|2MUE|2NA|2NGA|2NGUE|2NHA|2NHJA|2NHUE|2NUE|2O|2PA|2PHA|2PPA",
    "2RA|2SA|2SSA|2TA|2THA|2U|2VA|2YA|1PUNCTUATION DANDA|2DOUBLE DANDA|2SPIRAL|2TRIPLE DANDA",
    "1VOWEL SIGN AA|3AI|3AU|3EI|3I|3II|3O|3OE|3U|3UE|0COMBINING BINDU BELOW",
    "1DEVANAGARI DIGIT EIGHT|3FIVE|3FOUR|3NINE|3ONE|3SEVEN|3SIX|3THREE|3TWO|3ZERO|2LETTER A|3KA",
    "3NA|3PA|3RA|3U|3VI|2SIGN AVAGRAHA|1GRANTHA DIGIT FIVE|3FOUR|3ONE|3SIX|3THREE|3TWO|3ZERO",
    "2LETTER A|3KA|3NA|3PA|3VI|0DEVANAGARI ABBREVIATION SIGN|1ACUTE ACCENT|1CARET|1DANDA",
    "1DIGIT EIGHT|2FIVE|2FOUR|2NINE|2ONE|2SEVEN|2SIX|2THREE|2TWO|2ZERO|1DOUBLE DANDA|1GAP FILLER",
    "1GRAVE ACCENT|1HEADSTROKE|1JAIN OM|1LETTER A|2AA|2AI|2AU|2AW|2AY|2BA|2BBA|2BHA|2CA|2CANDRA A",
    "3E|3O|2CHA|2DA|2DDA|2DDDA|2DDDHA|2DDHA|2DHA|2E|2FA|2GA|2GGA|2GHA|2GHHA|2GLOTTAL STOP|2HA",
    "2HEAVY YA|2I|2II|2JA|2JHA|2JJA|2KA|2KHA|2KHHA|2LA|2LLA|2LLLA|2MA|2MARWARI DDA|2NA|2NGA|2NNA",
    "2NNNA|2NYA|2O|2OE|2OOE|2PA|2PHA|2QA|2RA|2RHA|2RRA|2SA|2SHA|2SHORT A|3E|3O|2SSA|2TA|2THA|2TTA",
    "2TTHA|2U|2UE|2UU|2UUE|2VA|2VOCALIC L|3LL|3R|3RR|2YA|2YYA|2ZA|2ZHA|1OM|1SIGN ANUSVARA",
    "2AVAGRAHA|2CANDRABINDU|3AVAGRAHA|3THREE|3TWO|3VIRAMA|2DOUBLE CANDRABINDU VIRAMA",
    "2HIGH SPACING DOT|2INVERTED CANDRABINDU|2NUKTA|2PUSHPIKA|2SIDDHAM|2SPACING CANDRABINDU",
    "2VIRAMA|2VISARGA|1STRESS SIGN ANUDATTA|3UDATTA|1VOWEL SIGN AA|3AI|3AU|3AW|3AY|3CANDRA E",
    "4LONG E|4O|3E|3I|3II|3O|3OE|3OOE|3PRISHTHAMATRA E|3SHORT E|4O|3U|3UE|3UU|3UUE|3VOCALIC L|4LL",
    "4R|4RR|0DIVES AKURU DIGIT EIGHT|3FIVE|3FOUR|3NINE|3ONE|3SEVEN|3SIX|3THREE|3TWO|3ZERO",
    "2DOUBLE DANDA|2END OF TEXT MARK|2GAP FILLER|2INITIAL RA|2LETTER A|3AA|3BA|3BHA|3CA|3CHA|3DA",
    "3DDA|3DDHA|3DHA|3E|3GA|3GHA|3HA|3I|3II|3JA|3KA|3KHA|3LA|3LLA|3MA|3NA|3NGA|3NNA|3NYA|3O|3PA",
    "3PHA|3RA|3SA|3SHA|3SSA|3TA|3THA|3TTA|3U|3UU|3VA|3YA|3YYA|3ZA|2MEDIAL RA|3YA",
    "2PREFIXED NASAL SIGN|2SIGN ANUSVARA|3CANDRABINDU|3HALANTA|3NUKTA|2VIRAMA|2VOWEL SIGN AA|4AI",
    "4E|4I|4II|4O|4U|4UU|0DOGRA ABBREVIATION SIGN|1LETTER A|2AA|2AI|2AU|2BA|2BHA|2CA|2CHA|2DA|2DDA",
    "2DDHA|2DHA|2E|2GA|2GHA|2HA|2I|2II|2JA|2JHA|2KA|2KHA|2LA|2MA|2NA|2NGA|2NNA|2NYA|2O|2PA|2PHA",
    "2RA|2RRA|2SA|2SHA|2SSA|2TA|2THA|2TTA|2TTHA|2U|2UU|2VA|2YA|1SIGN ANUSVARA|2NUKTA|2VIRAMA",
    "2VISARGA|1VOWEL SIGN AA|3AI|3AU|3E|3I|3II|3O|3U|3UU|3VOCALIC R|4RR|0GRANTHA AU LENGTH MARK",
    "1LETTER A|2AA|2AI|2AU|2BA|2BHA|2CA|2CHA|2DA|2DDA|2DDHA|2DHA|2EE|2GA|2GHA|2HA|2I|2II|2JA|2JHA",
    "2KA|2KHA|2LA|2LLA|2MA|2NA|2NGA|2NNA|2NYA|2OO|2PA|2PHA|2RA|2SA|2SHA|2SSA|2TA|2THA|2TTA|2TTHA",
    "2U|2UU|2VA|2VEDIC ANUSVARA|3DOUBLE ANUSVARA|2VOCALIC L|3LL|3R|3RR|2YA|1OM|1SIGN ANUSVARA",
    "2AVAGRAHA|2CANDRABINDU|2COMBINING ANUSVARA ABOVE|2NUKTA|2PLUTA|2VIRAMA|2VISARGA",
    "1VOWEL SIGN AA|3AI|3AU|3EE|3I|3II|3OO|3U|3UU|3VOCALIC L|4LL|4R|4RR",
    "0GUJARATI ABBREVIATION SIGN|1DIGIT EIGHT|2FIVE|2FOUR|2NINE|2ONE|2SEVEN|2SIX|2THREE|2TWO|2ZERO",
    "1LETTER A|2AA|2AI|2AU|2BA|2BHA|2CA|2CHA|2DA|2DDA|2DDHA|2DHA|2E|2GA|2GHA|2HA|2I|2II|2JA|2JHA",
    "2KA|2KHA|2LA|2LLA|2MA|2NA|2NGA|2NNA|2NYA|2O|2PA|2PHA|2RA|2SA|2SHA|2SSA|2TA|2THA|2TTA|2TTHA|2U",
    "2UU|2VA|2VOCALIC L|3LL|3R|3RR|2YA|2ZHA|1OM|1RUPEE SIGN|1SIGN ANUSVARA|2AVAGRAHA|2CANDRABINDU",
    "2CIRCLE NUKTA ABOVE|2MADDAH|2NUKTA|2SHADDA|2SUKUN|2THREE-DOT NUKTA ABOVE",
    "2TWO-CIRCLE NUKTA ABOVE|2VIRAMA|2VISARGA|1VOWEL CANDRA E|3O|2SIGN AA|3AI|3AU|3CANDRA E|4O|3E",
    "3I|3II|3O|3U|3UU|3VOCALIC L|4LL|4R|4RR|0GUNJALA GONDI DIGIT EIGHT|3FIVE|3FOUR|3NINE|3ONE",
    "3SEVEN|3SIX|3THREE|3TWO|3ZERO|2LETTER A|3AA|3AI|3AU|3BA|3BHA|3CA|3CHA|3DA|3DDA|3DDHA|3DHA|3EE",
    "3GA|3GHA|3HA|3I|3II|3JA|3JHA|3KA|3KHA|3LA|3LLA|3MA|3NA|3NGA|3OO|3PA|3PHA|3RA|3SA|3TA|3THA",
    "3TTA|3TTHA|3U|3UU|3VA|3YA|2OM|2SIGN ANUSVARA|3VISARGA|2VIRAMA|2VOWEL SIGN AA|4AI|4AU|4EE|4I",
    "4II|4OO|4U|4UU|0GURMUKHI ABBREVIATION SIGN|1ADDAK|1DIGIT EIGHT|2FIVE|2FOUR|2NINE|2ONE|2SEVEN",
    "2SIX|2THREE|2TWO|2ZERO|1EK ONKAR|1IRI|1LETTER A|2AA|2AI|2AU|2BA|2BHA|2CA|2CHA|2DA|2DDA|2DDHA",
    "2DHA|2EE|2FA|2GA|2GHA|2GHHA|2HA|2I|2II|2JA|2JHA|2KA|2KHA|2KHHA|2LA|2LLA|2MA|2NA|2NGA|2NNA",
    "2NYA|2OO|2PA|2PHA|2RA|2RRA|2SA|2SHA|2TA|2THA|2TTA|2TTHA|2U|2UU|2VA|2YA|2ZA|1SIGN ADAK BINDI",
    "2BINDI|2NUKTA|2UDAAT|2VIRAMA|2VISARGA|2YAKASH|1TIPPI|1URA|1VOWEL SIGN AA|3AI|3AU|3EE|3I|3II",
    "3OO|3U|3UU|0HANUNOO LETTER A|2BA|2DA|2GA|2HA|2I|2KA|2LA|2MA|2NA|2NGA|2PA|2RA|2SA|2TA|2U|2WA",
    "2YA|1SIGN PAMUDPOD|1VOWEL SIGN I|3U|0JAVANESE CONSONANT SIGN CAKRA|3KERET|3PENGKAL",
    "1DIGIT EIGHT|2FIVE|2FOUR|2NINE|2ONE|2SEVEN|2SIX|2THREE|2TWO|2ZERO|1LEFT RERENGGAN|1LETTER A",
    "2AI|2BA|3MURDA|2CA|3MURDA|2DA|3MAHAPRANA|2DDA|3MAHAPRANA|2E|2GA|3MURDA|2HA|2I|3KAWI|2II|2JA",
    "3MAHAPRANA|2KA|3MURDA|3SASAK|2LA|2MA|2NA|3MURDA|2NGA|3LELET|4RASWADI|2NYA|3MURDA|2O|2PA",
    "3CEREK|3MURDA|2RA|3AGUNG|2SA|3MAHAPRANA|3MURDA|2TA|3MURDA|2TTA|3MAHAPRANA|2U|2WA|2YA",
    "1PADA ADEG|3ADEG|2ANDAP|2ISEN-ISEN|2LINGSA|2LUHUR|2LUNGSI|2MADYA|2PANGKAT|2PISELEH",
    "2TIRTA TUMETES|2WINDU|1PANGKON|1PANGRANGKEP|1RIGHT RERENGGAN|1SIGN CECAK|3TELU|2LAYAR",
    "2PANYANGGA|2WIGNYAN|1TURNED PADA PISELEH|1VOWEL SIGN DIRGA MURE|3PEPET|3SUKU|4MENDUT|3TALING",
    "3TARUNG|3TOLONG|3WULU|4MELIK|0KAITHI ABBREVIATION SIGN|1DANDA|1DOUBLE DANDA|2SECTION MARK",
    "1ENUMERATION SIGN|1LETTER A|2AA|2AI|2AU|2BA|2BHA|2CA|2CHA|2DA|2DDA|2DDDHA|2DDHA|2DHA|2E|2GA",
    "2GHA|2HA|2I|2II|2JA|2JHA|2KA|2KHA|2LA|2MA|2NA|2NGA|2NNA|2NYA|2O|2PA|2PHA|2RA|2RHA|2SA|2SHA",
    "2SSA|2TA|2THA|2TTA|2TTHA|2U|2UU|2VA|2YA|1NUMBER SIGN|3ABOVE|1SECTION MARK|1SIGN ANUSVARA",
    "2CANDRABINDU|2NUKTA|2VIRAMA|2VISARGA|1VOWEL SIGN AA|3AI|3AU|3E|3I|3II|3O|3U|3UU|3VOCALIC R",
    "0KANNADA AI LENGTH MARK|1DIGIT EIGHT|2FIVE|2FOUR|2NINE|2ONE|2SEVEN|2SIX|2THREE|2TWO|2ZERO",
    "1LENGTH MARK|1LETTER A|2AA|2AI|2AU|2BA|2BHA|2CA|2CHA|2DA|2DDA|2DDHA|2DHA|2E|2EE|2FA|2GA|2GHA",
    "2HA|2I|2II|2JA|2JHA|2KA|2KHA|2LA|2LLA|2LLLA|2MA|2NA|2NAKAARA POLLU|2NGA|2NNA|2NYA|2O|2OO|2PA",
    "2PHA|2RA|2RRA|2SA|2SHA|2SSA|2TA|2THA|2TTA|2TTHA|2U|2UU|2VA|2VOCALIC L|3LL|3R|3RR|2YA",
    "1SIGN ANUSVARA|2AVAGRAHA|2CANDRABINDU|2JIHVAMULIYA|2NUKTA|2SIDDHAM|2SPACING CANDRABINDU",
    "2UPADHMANIYA|2VIRAMA|2VISARGA|1VOWEL SIGN AA|3AI|3AU|3E|3EE|3I|3II|3O|3OO|3U|3UU|3VOCALIC L",
    "4LL|4R|4RR|0KAYAH LI DIGIT EIGHT|3FIVE|3FOUR|3NINE|3ONE|3SEVEN|3SIX|3THREE|3TWO|3ZERO",
    "2LETTER A|3BA|3CA|3DA|3GA|3HA|3HTA|3I|3KA|3KHA|3LA|3MA|3NA|3NGA|3NYA|3OE|3OO|3PA|3PHA|3RA|3SA",
    "3SHA|3TA|3THA|3VA|3WA|3YA|3ZA|2SIGN CWI|3SHYA|2TONE CALYA|4PLOPHU|3PLOPHU|2VOWEL E|3EE|3O|3U",
    "3UE|0KHAROSHTHI DIGIT FOUR|2ONE|2THREE|2TWO|1FRACTION ONE HALF|1LETTER A|2BA|2BHA|2CA|2CHA",
    "2DA|2DDA|2DDHA|2DHA|2GA|2GHA|2HA|2JA|2KA|2KHA|2KKA|2LA|2MA|2NA|2NNA|2NYA|2PA|2PHA|2RA|2SA",
    "2SHA|2SSA|2TA|2THA|2TTA|2TTHA|2TTTA|2TTTHA|2VA|2VHA|2YA|2ZA|1NUMBER ONE HUNDRED|3THOUSAND",
    "2TEN|2TWENTY|1PUNCTUATION CIRCLE|2CRESCENT BAR|2DANDA|2DOT|2DOUBLE DANDA|2LINES|2LOTUS",
    "2MANGALAM|2SMALL CIRCLE|1SIGN ANUSVARA|2BAR ABOVE|2CAUDA|2DOT BELOW|2DOUBLE RING BELOW",
    "2VISARGA|1VIRAMA|1VOWEL LENGTH MARK|2SIGN E|3I|3O|3U|3VOCALIC R|0KHMER CURRENCY SYMBOL RIEL",
    "1DIGIT EIGHT|2FIVE|2FOUR|2NINE|2ONE|2SEVEN|2SIX|2THREE|2TWO|2ZERO|1INDEPENDENT VOWEL LY|3LYY",
    "3QAA|3QAI|3QAQ|3QAU|3QE|3QI|3QII|3QOO TYPE ONE|5TWO|3QU|3QUK|3QUU|3QUUV|3RY|3RYY|1LETTER BA",
    "2CA|2CHA|2CHO|2CO|2DA|2DO|2HA|2KA|2KHA|2KHO|2KO|2LA|2LO|2MO|2NGO|2NNO|2NO|2NYO|2PHA|2PHO|2PO",
    "2QA|2RO|2SA|2SHA|2SSO|2TA|2THA|2THO|2TO|2TTHA|2TTHO|2VO|2YO|1SIGN AHSDA|2ATTHACAN",
    "2AVAKRAHASANYA|2BANTOC|2BARIYOOSAN|2BATHAMASAT|2BEYYAL|2CAMNUC PII KUUH|2COENG|2KAKABAT|2KHAN",
    "2KOOMUUT|2LEK TOO|2MUUSIKATOAN|2NIKAHIT|2PHNAEK MUAN|2REAHMUK|2ROBAT|2SAMYOK SANNYA",
    "2TOANDAKHIAT|2TRIISAP|2VIRIAM|2YUUKALEAPINTU|1SYMBOL BEI KOET|3ROC|2BUON KOET|3ROC|2DAP KOET",
    "3ROC|2DAP-BEI KOET|3ROC|2DAP-BUON KOET|3ROC|2DAP-MUOY KOET|3ROC|2DAP-PII KOET|3ROC",
    "2DAP-PRAM KOET|3ROC|2LEK ATTAK BEI|4BUON|4MUOY|4PII|4PRAM|4PRAM-BEI|4PRAM-BUON|4PRAM-MUOY",
    "4PRAM-PII|4SON|2MUOY KOET|3ROC|2PATHAMASAT|2PII KOET|3ROC|2PRAM KOET|3ROC|2PRAM-BEI KOET|3ROC",
    "2PRAM-BUON KOET|3ROC|2PRAM-MUOY KOET|3ROC|2PRAM-PII KOET|3ROC|2TUTEYASAT|1VOWEL INHERENT AA",
    "3AQ|2SIGN AA|3AE|3AI|3AU|3E|3I|3IE|3II|3OE|3OO|3U|3UA|3UU|3Y|3YA|3YY",
    "0KHOJKI ABBREVIATION SIGN|1DANDA|1DOUBLE DANDA|2SECTION MARK|1LETTER A|2AA|2AI|2AU|2BA|2BBA",
    "2BHA|2CA|2CHA|2DA|2DDA|2DDDA|2DDHA|2DHA|2E|2GA|2GGA|2GHA|2HA|2I|2JA|2JJA|2KA|2KHA|2LA|2LLA",
    "2MA|2NA|2NGA|2NNA|2NYA|2O|2PA|2PHA|2RA|2SA|2TA|2THA|2TTA|2TTHA|2U|2VA|2YA|1SECTION MARK",
    "1SIGN ANUSVARA|2NUKTA|2SHADDA|2SUKUN|2VIRAMA|1VOWEL SIGN AA|3AI|3AU|3E|3I|3II|3O|3U",
    "1WORD SEPARATOR|0KHUDAWADI DIGIT EIGHT|2FIVE|2FOUR|2NINE|2ONE|2SEVEN|2SIX|2THREE|2TWO|2ZERO",
    "1LETTER A|2AA|2AI|2AU|2BA|2BBA|2BHA|2CA|2CHA|2DA|2DDA|2DDDA|2DDHA|2DHA|2E|2GA|2GGA|2GHA|2HA",
    "2I|2II|2JA|2JHA|2JJA|2KA|2KHA|2LA|2MA|2NA|2NGA|2NNA|2NYA|2O|2PA|2PHA|2RA|2RRA|2SA|2SHA|2TA",
    "2THA|2TTA|2TTHA|2U|2UU|2VA|2YA|1SIGN ANUSVARA|2NUKTA|2VIRAMA|1VOWEL SIGN AA|3AI|3AU|3E|3I|3II",
    "3O|3U|3UU|0LAO CANCELLATION MARK|1DIGIT EIGHT|2FIVE|2FOUR|2NINE|2ONE|2SEVEN|2SIX|2THREE|2TWO",
    "2ZERO|1ELLIPSIS|1HO MO|2NO|1KO LA|1LETTER BO|2CO|2DO|2FO FAY|3FON|3SUNG|3TAM|2HO SUNG|3TAM",
    "2KHMU GO|3NYO|2KHO SUNG|3TAM|2KO|2LO|3LING|3LOOT|2MO|2NGO|2NO|2NYO|2O|2PALI BHA|3CHA|3DDA",
    "3DDHA|3DHA|3GHA|3JHA|3LLA|3NNA|3NYA|3TTA|3TTHA|2PHO SUNG|3TAM|2PO|2RO|2SANSKRIT SHA|3SSA",
    "2SO SUNG|3TAM|2THO SUNG|3TAM|2TO|2WO|2YO|1NIGGAHITA|1SEMIVOWEL SIGN LO|3NYO|1SIGN PALI VIRAMA",
    "1TONE MAI CATAWA|3EK|3THO|3TI|1VOWEL SIGN A|3AA|3AI|3AM|3AY|3E|3EI|3I|3II|3MAI KAN|4KON|3O|3U",
    "3UU|3Y|3YY|0LEFT-FACING SVASTI SIGN|3WITH DOTS|0LEPCHA CONSONANT SIGN K|3KANG|3L|3M|3N",
    "3NYIN-DO|3P|3R|3T|1DIGIT EIGHT|2FIVE|2FOUR|2NINE|2ONE|2SEVEN|2SIX|2THREE|2TWO|2ZERO|1LETTER A",
    "2BA|2BLA|2CA|2CHA|2DA|2DDA|2DZA|2FA|2FLA|2GA|2GLA|2HA|2HLA|2JA|2KA|2KHA|2KLA|2LA|2MA|2MLA|2NA",
    "2NGA|2NYA|2PA|2PHA|2PLA|2RA|2SA|2SHA|2TA|2THA|2TSA|2TSHA|2TTA|2TTHA|2VA|2WA|2YA",
    "1PUNCTUATION CER-WA|2NYET THYOOM TA-ROL|2TA-ROL|2TSHOOK|3CER-WA|1SIGN NUKTA|2RAN",
    "1SUBJOINED LETTER RA|3YA|1VOWEL SIGN AA|3E|3I|3O|3OO|3U|3UU|0LIMBU DIGIT EIGHT|2FIVE|2FOUR",
    "2NINE|2ONE|2SEVEN|2SIX|2THREE|2TWO|2ZERO|1EXCLAMATION MARK|1LETTER BA|2BHA|2CA|2CHA|2DA|2DHA",
    "2GA|2GHA|2GYAN|2HA|2JA|2JHA|2KA|2KHA|2LA|2MA|2NA|2NGA|2PA|2PHA|2RA|2SA|2SHA|2SSA|2TA|2THA",
    "2TRA|2WA|2YA|2YAN|1QUESTION MARK|1SIGN KEMPHRENG|2LOO|2MUKPHRENG|2SA-I|1SMALL LETTER ANUSVARA",
    "3KA|3LA|3MA|3NA|3NGA|3PA|3RA|3TA|1SUBJOINED LETTER RA|3WA|3YA|1VOWEL SIGN A|3AI|3AU|3E|3EE|3I",
    "3O|3OO|3U|1VOWEL-CARRIER LETTER|0LISU LETTER YHA|0MAHAJANI ABBREVIATION SIGN|1LETTER A|2BA",
    "2BHA|2CA|2CHA|2DA|2DDA|2DDHA|2DHA|2E|2GA|2GHA|2HA|2I|2JA|2JHA|2KA|2KHA|2LA|2MA|2NA|2NNA|2NYA",
    "2O|2PA|2PHA|2RA|2RRA|2SA|2TA|2THA|2TTA|2TTHA|2U|2VA|1LIGATURE SHRI|1SECTION MARK|1SIGN NUKTA",
    "0MAKASAR ANGKA|1END OF SECTION|1LETTER A|2BA|2CA|2DA|2GA|2JA|2KA|2LA|2MA|2NA|2NGA|2NYA|2PA",
    "2RA|2SA|2TA|2VA|2YA|1PASSIMBANG|1VOWEL SIGN E|3I|3O|3U|0MALAYALAM AU LENGTH MARK|1DATE MARK",
    "1DIGIT EIGHT|2FIVE|2FOUR|2NINE|2ONE|2SEVEN|2SIX|2THREE|2TWO|2ZERO|1FRACTION ONE EIGHTH|3FIFTH",
    "3FORTIETH|3HALF|3ONE-HUNDRED-AND-SIXTIETH|3QUARTER|3SIXTEENTH|3TENTH|3TWENTIETH",
    "2THREE EIGHTIETHS|3QUARTERS|3SIXTEENTHS|3TWENTIETHS|1LETTER A|2AA|2AI|2ARCHAIC II|2AU|2BA",
    "2BHA|2CA|2CHA|2CHILLU K|3L|3LL|3LLL|3M|3N|3NN|3RR|3Y|2DA|2DDA|2DDHA|2DHA|2DOT REPH|2E|2EE|2GA",
    "2GHA|2HA|2I|2II|2JA|2JHA|2KA|2KHA|2LA|2LLA|2LLLA|2MA|2NA|2NGA|2NNA|2NNNA|2NYA|2O|2OO|2PA|2PHA",
    "2RA|2RRA|2SA|2SHA|2SSA|2TA|2THA|2TTA|2TTHA|2TTTA|2U|2UU|2VA|2VEDIC ANUSVARA|2VOCALIC L|3LL|3R",
    "3RR|2YA|1NUMBER ONE HUNDRED|3THOUSAND|2TEN|1SIGN ANUSVARA|2AVAGRAHA|2CANDRABINDU",
    "2CIRCULAR VIRAMA|2COMBINING ANUSVARA ABOVE|2PARA|2VERTICAL BAR VIRAMA|2VIRAMA|2VISARGA",
    "1VOWEL SIGN AA|3AI|3AU|3E|3EE|3I|3II|3O|3OO|3U|3UU|3VOCALIC L|4LL|4R|4RR|0MARCHEN HEAD MARK",
    "1LETTER -A|2A|2BA|2CA|2CHA|2DA|2DZA|2GA|2HA|2JA|2KA|2KHA|2LA|2MA|2NA|2NGA|2NYA|2PA|2PHA|2RA",
    "2SA|2SHA|2TA|2THA|2TSA|2TSHA|2WA|2YA|2ZA|2ZHA|1MARK SHAD|1SIGN ANUSVARA|2CANDRABINDU",
    "1SUBJOINED LETTER A|3BA|3CA|3CHA|3DA|3DZA|3GA|3HA|3JA|3KA|3KHA|3LA|3MA|3NA|3NGA|3NYA|3PA|3PHA",
    "3RA|3SA|3SHA|3TA|3THA|3TSA|3TSHA|3WA|3YA|3ZA|3ZHA|1VOWEL SIGN AA|3E|3I|3O|3U",
    "0MASARAM GONDI DIGIT EIGHT|3FIVE|3FOUR|3NINE|3ONE|3SEVEN|3SIX|3THREE|3TWO|3ZERO|2LETTER A|3AA",
    "3AI|3AU|3BA|3BHA|3CA|3CHA|3DA|3DDA|3DDHA|3DHA|3E|3GA|3GHA|3HA|3I|3II|3JA|3JHA|3JNYA|3KA|3KHA",
    "3KSSA|3LA|3LLA|3MA|3NA|3NGA|3NNA|3NYA|3O|3PA|3PHA|3RA|3SA|3SHA|3SSA|3TA|3THA|3TRA|3TTA|3TTHA",
    "3U|3UU|3VA|3YA|2RA-KARA|2REPHA|2SIGN ANUSVARA|3CANDRA|3HALANTA|3NUKTA|3VISARGA|2VIRAMA",
    "2VOWEL SIGN AA|4AI|4AU|4E|4I|4II|4O|4U|4UU|4VOCALIC R|0MEETEI MAYEK AHANG KHUDAM|2ANJI",
    "2APUN IYEK|2CHEIKHAN|2CHEIKHEI|2DIGIT EIGHT|3FIVE|3FOUR|3NINE|3ONE|3SEVEN|3SIX|3THREE|3TWO",
    "3ZERO|2LETTER ATIYA|3BA|3BHAM|3CHA|3CHIL|3DDA|3DDHA|3DHOU|3DIL|3E|3GHOU|3GOK|3HUK|3I|4LONSUM",
    "3JHAM|3JIL|3KHOU|3KOK|4LONSUM|3LAI|4LONSUM|3MIT|4LONSUM|3NA|4LONSUM|3NGOU|4LONSUM|3NNA|3NYA",
    "3O|3PA|4LONSUM|3PHAM|3RAI|3SAM|3SHA|3SSA|3THOU|3TIL|4LONSUM|3TTA|3TTHA|3UN|3WAI|3YANG",
    "2LUM IYEK|2SYLLABLE REPETITION MARK|2VIRAMA|2VOWEL SIGN AAI|4AAU|4ANAP|4AU|4CHEINAP|4II|4INAP",
    "4NUNG|4ONAP|4SOUNAP|4UNAP|4UU|4VISARGA|4YENAP|2WORD REPETITION MARK|0MODI ABBREVIATION SIGN",
    "1DANDA|1DIGIT EIGHT|2FIVE|2FOUR|2NINE|2ONE|2SEVEN|2SIX|2THREE|2TWO|2ZERO|1DOUBLE DANDA",
    "1LETTER A|2AA|2AI|2AU|2BA|2BHA|2CA|2CHA|2DA|2DDA|2DDHA|2DHA|2E|2GA|2GHA|2HA|2I|2II|2JA|2JHA",
    "2KA|2KHA|2LA|2LLA|2MA|2NA|2NGA|2NNA|2NYA|2O|2PA|2PHA|2RA|2SA|2SHA|2SSA|2TA|2THA|2TTA|2TTHA|2U",
    "2UU|2VA|2VOCALIC L|3LL|3R|3RR|2YA|1SIGN ANUSVARA|2ARDHACANDRA|2HUVA|2VIRAMA|2VISARGA",
    "1VOWEL SIGN AA|3AI|3AU|3E|3I|3II|3O|3U|3UU|3VOCALIC L|4LL|4R|4RR|0MONGOLIAN BIRGA",
    "2WITH DOUBLE ORNAMENT|3ORNAMENT|1COLON|1COMMA|1DIGIT EIGHT|2FIVE|2FOUR|2NINE|2ONE|2SEVEN|2SIX",
    "2THREE|2TWO|2ZERO|1DOUBLE BIRGA WITH ORNAMENT|1ELLIPSIS|1FOUR DOTS",
    "1FREE VARIATION SELECTOR FOUR|4ONE|4THREE|4TWO|1FULL STOP|1INVERTED BIRGA",
    "3WITH DOUBLE ORNAMENT|1LETTER A|2ALI GALI A|4AH|4ANUSVARA ONE|4BALUDA|4CA|4DA|4DAGALGA",
    "4DAMARU|4DDA|4HALF U|5YA|4I|4INVERTED UBADAMA|4KA|4NGA|4NNA|4PA|4PHA|4SSA|4TA|4THREE BALUDA",
    "4TTA|4TTHA|4UBADAMA|4VISARGA ONE|4ZA|4ZHA|2ANG|2BA|2CHA|3WITH TWO DOTS|2CHI|2DA|2E|2EE|2FA",
    "2GA|2HAA|2I|2JA|2KA|2KHA|2LA|2LHA|2MA|2MANCHU ALI GALI BHA|5CA|5CYA|5DDHA|5DHA|5GHA|5JHA|5LHA",
    "5NGA|5SSA|5TA|5TTA|5ZA|5ZHA|3FA|3I|3KA|3RA|3ZHA|2NA|2O|2OE|2PA|2QA|2RA|2SA|2SHA|2SIBE ANG",
    "3CHA|3DA|3E|3FA|3GA|3GAA|3HA|3HAA|3I|3IY|3JA|3KA|3PA|3RAA|3SHA|3TA|3TSA|3U|3UE|3ZA|3ZHA|2TA",
    "2TODO ALI GALI TA|5ZHA|3ANG|3BA|3CHA|3DA|3DZA|3E|3GA|3GAA|3HAA|3I|3JA|3JIA|3KA",
    "3LONG VOWEL SIGN|3MA|3NIA|3O|3OE|3PA|3QA|3TA|3TSA|3U|3UE|3WA|3YA|2TSA|2U|2UE|2WA|2YA|2ZA|2ZHI",
    "2ZRA|1MANCHU COMMA|2FULL STOP|1NIRUGU|1ROTATED BIRGA|3WITH DOUBLE ORNAMENT|4ORNAMENT",
    "1SIBE SYLLABLE BOUNDARY MARKER|1SWIRL BIRGA|3WITH DOUBLE ORNAMENT|4ORNAMENT|1TODO SOFT HYPHEN",
    "1TRIPLE BIRGA WITH ORNAMENT|1TURNED SWIRL BIRGA WITH DOUBLE ORNAMENT|1VOWEL SEPARATOR",
    "0MRO DANDA|1DIGIT EIGHT|2FIVE|2FOUR|2NINE|2ONE|2SEVEN|2SIX|2THREE|2TWO|2ZERO|1DOUBLE DANDA",
    "1LETTER A|2BA|2CHU|2DA|2DAI|2E|2EA|2HAI|2HAO|2KEAAE|2KHAI|2KO|2LA|2LAN|2MAEM|2MIM|2NGI|2NIN",
    "2O|2OL|2OO|2PA|2PHI|2RI|2RO|2SHI|2TA|2TEK|2THEA|2WA|2YO|0MULTANI LETTER A|2BA|2BHA|2CA|2CHA",
    "2DA|2DDA|2DDDA|2DDHA|2DHA|2E|2GA|2GHA|2HA|2I|2JA|2JJA|2KA|2KHA|2LA|2MA|2NA|2NNA|2NYA|2PA|2PHA",
    "2RA|2RHA|2RRA|2SA|2TA|2THA|2TTA|2TTHA|2U|2VA|2YA|1SECTION MARK",
    "0MYANMAR CONSONANT SIGN MEDIAL HA|4RA|4WA|4YA|3MON MEDIAL LA|5MA|5NA|3SHAN MEDIAL WA",
    "1DIGIT EIGHT|2FIVE|2FOUR|2NINE|2ONE|2SEVEN|2SIX|2THREE|2TWO|2ZERO|1LETTER A|2AITON RA|2AU|2BA",
    "2BHA|2CA|2CHA|2DA|2DDA|2DDHA|2DHA|2E|2EASTERN PWO KAREN GHWA|5NNA|5YWA|2GA|2GHA|2GREAT SA|2HA",
    "2I|2II|2JA|2JHA|2KA|2KHA|2KHAMTI CA|3CHA|3DDA|3DDHA|3DHA|3FA|3GA|3HA|3HHA|3JA|3JHA|3LLA|3NA",
    "3NYA|3RA|3SA|3TTA|3TTHA|3XA|3ZA|2LA|2LLA|2MA|2MON BBA|3BBE|3E|3JHA|3NGA|2NA|2NGA|2NNA|2NNYA",
    "2NYA|2O|2PA|2PHA|2RA|2RUMAI PALAUNG FA|2SA|2SGAW KAREN SHA|2SHA|2SHAN A|3BA|3BHA|3CA|3CHA|3DA",
    "3FA|3GA|3GHA|3HA|3JHA|3KA|3KHA|3NA|3NNA|3NYA|3PHA|3THA|3ZA|2SHWE PALAUNG CHA|4SHA|2SSA|2TA",
    "2TAI LAING BA|4BHA|4DA|4DDA|4DDHA|4DHA|4FA|4GA|4GHA|4JA|4JHA|4LLA|4NNA|4NYA|2THA|2TTA|2TTHA",
    "2U|2UU|2VOCALIC L|3LL|3R|3RR|2WA|2WESTERN PWO KAREN PWA|5THA|2YA|1LOGOGRAM KHAMTI HM|3OAY|3QN",
    "1MODIFIER LETTER KHAMTI REDUPLICATION|3SHAN REDUPLICATION|1SHAN DIGIT EIGHT|3FIVE|3FOUR|3NINE",
    "3ONE|3SEVEN|3SIX|3THREE|3TWO|3ZERO|1SIGN ANUSVARA|2ASAT|2DOT BELOW|2KHAMTI TONE-1|3TONE-3",
    "2LITTLE SECTION|2PAO KAREN TONE|2RUMAI PALAUNG TONE-5|2SECTION|2SHAN COUNCIL EMPHATIC TONE",
    "4TONE-2|4TONE-3|3SAW|3TONE-2|3TONE-3|3TONE-5|3TONE-6|2TAI LAING TONE-2|4TONE-5|2VIRAMA",
    "2VISARGA|2WESTERN PWO KAREN TONE-1|5TONE-2|5TONE-3|5TONE-4|5TONE-5|1SYMBOL AFOREMENTIONED",
    "2AITON EXCLAMATION|3ONE|3TWO|2COMPLETED|2GENITIVE|2LOCATIVE|2SHAN EXCLAMATION|3ONE",
    "1TAI LAING DIGIT EIGHT|4FIVE|4FOUR|4NINE|4ONE|4SEVEN|4SIX|4THREE|4TWO|4ZERO",
    "1TONE MARK SGAW KAREN HATHI|5KE PHO|1VOWEL SIGN AA|3AI|3AITON A|4AI|3E|4ABOVE|3GEBA KAREN I",
    "3I|3II|3KAYAH EE|4OE|4U|3MON II|4O|3SGAW KAREN EU|3SHAN AA|4E|5ABOVE|4FINAL Y|3TALL AA|3U|3UU",
    "3VOCALIC L|4LL|4R|4RR|3WESTERN PWO KAREN EU|6UE|0NANDINAGARI HEADSTROKE|1LETTER A|2AA|2AI|2AU",
    "2BA|2BHA|2CA|2CHA|2DA|2DDA|2DDHA|2DHA|2E|2GA|2GHA|2HA|2I|2II|2JA|2JHA|2KA|2KHA|2LA|2LLA|2MA",
    "2NA|2NGA|2NNA|2NYA|2O|2PA|2PHA|2RA|2RRA|2SA|2SHA|2SSA|2TA|2THA|2TTA|2TTHA|2U|2UU|2VA",
    "2VOCALIC R|3RR|2YA|1SIGN ANUSVARA|2AVAGRAHA|2SIDDHAM|2VIRAMA|2VISARGA|1VOWEL SIGN AA|3AI|3AU",
    "3E|3I|3II|3O|3PRISHTHAMATRA E|3U|3UU|3VOCALIC R|4RR|0NEW TAI LUE DIGIT EIGHT|4FIVE|4FOUR",
    "4NINE|4ONE|4SEVEN|4SIX|4THREE|4TWO|4ZERO|3LETTER FINAL B|5D|5K|5M|5N|5NG|5V|4HIGH BA|5DA|5FA",
    "5HA|5KA|5KVA|5LA|5MA|5NA|5NGA|5PA|5PHA|5QA|5SA|5SUA|5TA|5THA|5TSA|5VA|5XA|5XVA|5YA|4LOW BA",
    "5DA|5FA|5HA|5KA|5KVA|5LA|5MA|5NA|5NGA|5PA|5PHA|5QA|5SA|5SUA|5TA|5THA|5TSA|5VA|5XA|5XVA|5YA",
    "3SIGN LAE|4LAEV|3THAM DIGIT ONE|3TONE MARK-1|4MARK-2|3VOWEL SIGN AA|5AAY|5AE|5AY|5E|5II|5IY",
    "5O|5OA|5OAY|5OY|5U|5UE|5UEY|5UU|5UY|5VOWEL SHORTENER|0NEWA ABBREVIATION SIGN|1COMMA|1DANDA",
    "1DIGIT EIGHT|2FIVE|2FOUR|2NINE|2ONE|2SEVEN|2SIX|2THREE|2TWO|2ZERO|1DOUBLE COMMA|2DANDA",
    "1GAP FILLER|1INSERTION SIGN|1LETTER A|2AA|2AI|2AU|2BA|2BHA|2CA|2CHA|2DA|2DDA|2DDHA|2DHA|2E",
    "2GA|2GHA|2HA|2I|2II|2JA|2JHA|2KA|2KHA|2LA|2LHA|2MA|2MHA|2NA|2NGA|2NGHA|2NHA|2NNA|2NYA|2NYHA",
    "2O|2PA|2PHA|2RA|2RHA|2SA|2SHA|2SSA|2TA|2THA|2TTA|2TTHA|2U|2UU|2VEDIC ANUSVARA|2VOCALIC L|3LL",
    "3R|3RR|2WA|2YA|1OM|1PLACEHOLDER MARK|1SANDHI MARK|1SIDDHI|1SIGN ANUSVARA|2AVAGRAHA",
    "2CANDRABINDU|2FINAL ANUSVARA|2JIHVAMULIYA|2NUKTA|2UPADHMANIYA|2VIRAMA|2VISARGA|1VOWEL SIGN AA",
    "3AI|3AU|3E|3I|3II|3O|3U|3UU|3VOCALIC L|4LL|4R|4RR|0NORTH INDIC FRACTION ONE EIGHTH|4HALF",
    "4QUARTER|4SIXTEENTH|3THREE QUARTERS|4SIXTEENTHS|2PLACEHOLDER MARK|2QUANTITY MARK",
    "2QUARTER MARK|2RUPEE MARK|0NYIAKENG PUACHUE HMONG CIRCLED CA|3DIGIT EIGHT|4FIVE|4FOUR|4NINE",
    "4ONE|4SEVEN|4SIX|4THREE|4TWO|4ZERO|3LETTER A|4AA|4CA|4DA|4DLA|4E|4EE|4FA|4GA|4HA|4HAH|4I|4KA",
    "4LA|4MA|4MLA|4NA|4NCA|4NKA|4NPA|4NPLA|4NQA|4NRA|4NTA|4NTSA|4NTXA|4NYA|4O|4OO|4PA|4PLA|4QA|4RA",
    "4RRA|4SA|4TA|4TSA|4TXA|4U|4VA|4W|4XA|4XYA|4YA|4ZA|3LOGOGRAM NYAJ|3SIGN FOR ANIMAL",
    "5INVERTEBRATE|5LOCATION|5PERSON|5THING|4XW XW|3SYLLABLE LENGTHENER|3TONE-B|3TONE-D|3TONE-G",
    "3TONE-J|3TONE-M|3TONE-S|3TONE-V|0OL CHIKI AHAD|2DIGIT EIGHT|3FIVE|3FOUR|3NINE|3ONE|3SEVEN",
    "3SIX|3THREE|3TWO|3ZERO|2GAAHLAA TTUDDAAG|2LETTER AAJ|3AAK|3AAM|3AAW|3AG|3AL|3ANG|3AT|3EDD|3EN",
    "3EP|3ERR|3IH|3INY|3IR|3IS|3LA|3LAA|3LE|3LI|3LO|3LU|3OB|3OH|3OTT|3OV|3UC|3UD|3UNN|3UY",
    "2MU TTUDDAG|2MU-GAAHLAA TTUDDAAG|2PHAARKAA|2PUNCTUATION DOUBLE MUCAAD|3MUCAAD|2RELAA",
    "0ORIYA AI LENGTH MARK|1AU LENGTH MARK|1DIGIT EIGHT|2FIVE|2FOUR|2NINE|2ONE|2SEVEN|2SIX|2THREE",
    "2TWO|2ZERO|1FRACTION ONE EIGHTH|3HALF|3QUARTER|3SIXTEENTH|2THREE QUARTERS|3SIXTEENTHS|1ISSHAR",
    "1LETTER A|2AA|2AI|2AU|2BA|2BHA|2CA|2CHA|2DA|2DDA|2DDHA|2DHA|2E|2GA|2GHA|2HA|2I|2II|2JA|2JHA",
    "2KA|2KHA|2LA|2LLA|2MA|2NA|2NGA|2NNA|2NYA|2O|2PA|2PHA|2RA|2RHA|2RRA|2SA|2SHA|2SSA|2TA|2THA",
    "2TTA|2TTHA|2U|2UU|2VA|2VOCALIC L|3LL|3R|3RR|2WA|2YA|2YYA|1SIGN ANUSVARA|2AVAGRAHA",
    "2CANDRABINDU|2NUKTA|2OVERLINE|2VIRAMA|2VISARGA|1VOWEL SIGN AA|3AI|3AU|3E|3I|3II|3O|3U|3UU",
    "3VOCALIC L|4LL|4R|4RR|0PAHAWH HMONG CLAN SIGN FAJ|4HAM|4HAWJ|4KHAB|4KOO|4KWM|4LAUJ|4LIS|4MUAS",
    "4PHAB|4THOJ|4TSAB|4TSHEEJ|4TSWB|4VAJ|4VWJ|4XYOOJ|4YAJ|4YEEG|2CONSONANT AU|3CAU|3CHAU|3HAU",
    "3HLAU|3HNAU|3LAU|3MAU|3NAU|3NCHAU|3NKAU|3NLAU|3NTHAU|3NTSAU|3PLHAU|3QHAU|3RAU|3VAU|3XAU|3YAU",
    "2DIGIT EIGHT|3FIVE|3FOUR|3NINE|3ONE|3SEVEN|3SIX|3THREE|3TWO|3ZERO|2MARK CIM HOM|4KES|4KHAV",
    "4SO|4SUAM|4TAUM|4TUB|2NUMBER HUNDRED MILLIONS|3HUNDREDS|3MILLIONS|3TEN BILLIONS|4THOUSANDS",
    "3TENS|3TRILLIONS|2SIGN AV|3CIM CHEEM|4CUAM TSHOOJ|4HAIS LUS NTOG NTOG|4NRES TOS|4PUB DAWB",
    "4TSOV ROG|4TXWV|5CHWV|3HLI|3HNUB|3IB YAM|3LOS|3MEEJ SUAB|4TSEEB|3MUS|3NQIG|3NTUJ|3TAU",
    "3THIRD-STAGE HLI|3TXHEEJ CEEV|3VOS FEEM|4LUB|4NRUA|4SEEV|4THIAB|4THOM|4TSHAB CEEB|3XAUS|3XIAB",
    "3XYEEM FAIB|4NTXIV|4RHO|4TOV|3XYOO|3ZWJ THAJ|2VOWEL KAAB|3KAAV|3KAB|3KAIB|3KAIV|3KAUB|3KAUV",
    "3KAV|3KAWB|3KAWV|3KEB|3KEEB|3KEEV|3KEV|3KIAB|3KIAV|3KIB|3KIV|3KOB|3KOOB|3KOOV|3KOV|3KUAB",
    "3KUAV|3KUB|3KUV|3KWB|3KWV|0PAU CIN HAU GLOTTAL STOP|5FINAL|5VARIANT|3LETTER A|4BA|4CA|4CHA",
    "4DA|4E|4FA|4FINAL K|5L|5M|5N|5NG|5P|5T|5W|5Y|4GA|4HA|4I|4IA|4KA|4KHA|4LA|4MA|4NA|4NGA|4O|4PA",
    "4PHA|4RA|4SA|4TA|4THA|4U|4UA|4VA|4ZA|3LOW-FALLING TONE|5FINAL|5LONG|6FINAL|3MID-LEVEL TONE",
    "5FINAL|5LONG FINAL|3RISING TONE|5FINAL|5LONG|6FINAL|3SANDHI GLOTTAL STOP|6FINAL|4TONE|5FINAL",
    "5LONG|6FINAL|0PHAGS-PA DOUBLE HEAD MARK|1LETTER A|2ALTERNATE YA|2ASPIRATED FA|2BA|2CA",
    "2CANDRABINDU|2CHA|2DA|2DDA|2DZA|2E|2EE|2FA|2GA|2GGA|2HA|2I|2JA|2KA|2KHA|2LA|2MA|2NA|2NGA|2NNA",
    "2NYA|2O|2PA|2PHA|2QA|2RA|2SA|2SHA|2SMALL A|2TA|2THA|2TSA|2TSHA|2TTA|2TTHA|2U|2VOICED HA",
    "2VOICELESS SHA|2WA|2XA|2YA|2ZA|2ZHA|1MARK DOUBLE SHAD|2SHAD|1SINGLE HEAD MARK",
    "1SUBJOINED LETTER RA|3WA|3YA|1SUPERFIXED LETTER RA|0PHILIPPINE DOUBLE PUNCTUATION",
    "1SINGLE PUNCTUATION|0REJANG CONSONANT SIGN H|3N|3NG|3R|1LETTER A|2BA|2CA|2DA|2GA|2HA|2JA|2KA",
    "2LA|2MA|2MBA|2NA|2NDA|2NGA|2NGGA|2NYA|2NYJA|2PA|2RA|2SA|2TA|2WA|2YA|1SECTION MARK|1VIRAMA",
    "1VOWEL SIGN AI|3AU|3E|3EA|3EU|3I|3O|3U|0RIGHT-FACING SVASTI SIGN|3WITH DOTS",
    "0SAURASHTRA CONSONANT SIGN HAARU|1DANDA|1DIGIT EIGHT|2FIVE|2FOUR|2NINE|2ONE|2SEVEN|2SIX",
    "2THREE|2TWO|2ZERO|1DOUBLE DANDA|1LETTER A|2AA|2AI|2AU|2BA|2BHA|2CA|2CHA|2DA|2DDA|2DDHA|2DHA",
    "2E|2EE|2GA|2GHA|2HA|2I|2II|2JA|2JHA|2KA|2KHA|2LA|2LLA|2MA|2NA|2NGA|2NNA|2NYA|2O|2OO|2PA|2PHA",
    "2RA|2SA|2SHA|2SSA|2TA|2THA|2TTA|2TTHA|2U|2UU|2VA|2VOCALIC L|3LL|3R|3RR|2YA|1SIGN ANUSVARA",
    "2CANDRABINDU|2VIRAMA|2VISARGA|1VOWEL SIGN AA|3AI|3AU|3E|3EE|3I|3II|3O|3OO|3U|3UU|3VOCALIC L",
    "4LL|4R|4RR|0SHARADA ABBREVIATION SIGN|1CONTINUATION SIGN|1DANDA|1DIGIT EIGHT|2FIVE|2FOUR",
    "2NINE|2ONE|2SEVEN|2SIX|2THREE|2TWO|2ZERO|1DOUBLE DANDA|1EKAM|1EXTRA SHORT VOWEL MARK",
    "1HEADSTROKE|1LETTER A|2AA|2AI|2AU|2BA|2BHA|2CA|2CHA|2DA|2DDA|2DDHA|2DHA|2E|2GA|2GHA|2HA|2I",
    "2II|2JA|2JHA|2KA|2KHA|2LA|2LLA|2MA|2NA|2NGA|2NNA|2NYA|2O|2PA|2PHA|2RA|2SA|2SHA|2SSA|2TA|2THA",
    "2TTA|2TTHA|2U|2UU|2VA|2VOCALIC L|3LL|3R|3RR|2YA|1OM|1SANDHI MARK|1SECTION MARK-1|2MARK-2",
    "1SEPARATOR|1SIGN ANUSVARA|2AVAGRAHA|2CANDRABINDU|2INVERTED CANDRABINDU|2JIHVAMULIYA|2NUKTA",
    "2SIDDHAM|2UPADHMANIYA|2VIRAMA|2VISARGA|1SUTRA MARK|1VOWEL MODIFIER MARK|2SIGN AA|3AI|3AU|3E",
    "3I|3II|3O|3PRISHTHAMATRA E|3U|3UU|3VOCALIC L|4LL|4R|4RR|0SIDDHAM DANDA|1DOUBLE DANDA",
    "1END OF TEXT MARK|1LETTER A|2AA|2AI|2ALTERNATE U|2AU|2BA|2BHA|2CA|2CHA|2DA|2DDA|2DDHA|2DHA|2E",
    "2GA|2GHA|2HA|2I|2II|2JA|2JHA|2KA|2KHA|2LA|2MA|2NA|2NGA|2NNA|2NYA|2O|2PA|2PHA|2RA|2SA|2SHA",
    "2SSA|2TA|2THA|2THREE-CIRCLE ALTERNATE I|2TTA|2TTHA|2TWO-CIRCLE ALTERNATE I|4II|2U|2UU|2VA",
    "2VOCALIC L|3LL|3R|3RR|2YA|1REPETITION MARK-1|2MARK-2|2MARK-3|1SECTION MARK DOUBLE RING",
    "5WITH RAYS|3WITH CIRCLES AND FOUR ENCLOSURES|6RAYS|6TWO ENCLOSURES|4DOUBLE CRESCENTS",
    "4QUADRUPLE CRESCENTS|4RAYS AND DOTTED CRESCENTS|7DOUBLE CRESCENTS|7TRIPLE CRESCENTS",
    "4SEPTUPLE CRESCENTS|4TRIDENT AND DOTTED CRESCENTS|6U-SHAPED ORNAMENTS|4TRIPLE CRESCENTS",
    "1SEPARATOR BAR|2DOT|1SIGN ANUSVARA|2CANDRABINDU|2NUKTA|2SIDDHAM|2VIRAMA|2VISARGA",
    "1VOWEL SIGN AA|3AI|3ALTERNATE U|4UU|3AU|3E|3I|3II|3O|3U|3UU|3VOCALIC R|4RR",
    "0SINHALA ARCHAIC DIGIT EIGHT|3FIVE|3FOUR|3NINE|3ONE|3SEVEN|3SIX|3THREE|3TWO|2NUMBER EIGHTY",
    "3FIFTY|3FORTY|3NINETY|3ONE HUNDRED|4THOUSAND|3SEVENTY|3SIXTY|3TEN|3THIRTY|3TWENTY",
    "1LETTER AAYANNA|2AEEYANNA|2AEYANNA|2AIYANNA|2ALPAPRAANA BAYANNA|3CAYANNA|3DAYANNA|3DDAYANNA",
    "3GAYANNA|3JAYANNA|3KAYANNA|3PAYANNA|3TAYANNA|3TTAYANNA|2AMBA BAYANNA|2AUYANNA|2AYANNA",
    "2DANTAJA LAYANNA|3NAYANNA|3SAYANNA|2EEYANNA|2EYANNA|2FAYANNA|2HAYANNA|2IIYANNA|2ILUUYANNA",
    "2ILUYANNA|2IRUUYANNA|2IRUYANNA|2IYANNA|2KANTAJA NAASIKYAYA|2MAHAAPRAANA BAYANNA|3CAYANNA",
    "3DAYANNA|3DDAYANNA|3GAYANNA|3JAYANNA|3KAYANNA|3PAYANNA|3TAYANNA|3TTAYANNA|2MAYANNA",
    "2MUURDHAJA LAYANNA|3NAYANNA|3SAYANNA|2OOYANNA|2OYANNA|2RAYANNA|2SANYAKA DAYANNA|3DDAYANNA",
    "3GAYANNA|3JAYANNA|2TAALUJA NAASIKYAYA|3SANYOOGA NAAKSIKYAYA|3SAYANNA|2UUYANNA|2UYANNA",
    "2VAYANNA|2YAYANNA|1LITH DIGIT EIGHT|3FIVE|3FOUR|3NINE|3ONE|3SEVEN|3SIX|3THREE|3TWO|3ZERO",
    "1PUNCTUATION KUNDDALIYA|1SIGN AL-LAKUNA|2ANUSVARAYA|2CANDRABINDU|2VISARGAYA",
    "1VOWEL SIGN AELA-PILLA|3DIGA AEDA-PILLA|4GAETTA-PILLA|4GAYANUKITTA|4IS-PILLA|4KOMBUVA",
    "4PAA-PILLA|3GAETTA-PILLA|3GAYANUKITTA|3KETTI AEDA-PILLA|4IS-PILLA|4PAA-PILLA|3KOMBU DEKA",
    "3KOMBUVA|4HAA AELA-PILLA|5DIGA AELA-PILLA|5GAYANUKITTA|0SORA SOMPENG DIGIT EIGHT|3FIVE|3FOUR",
    "3NINE|3ONE|3SEVEN|3SIX|3THREE|3TWO|3ZERO|2LETTER AH|3BAH|3CAH|3DAH|3EEH|3EH|3GAH|3HAH|3IH",
    "3JAH|3KAH|3LAH|3MAE|3MAH|3NAH|3NGAH|3NYAH|3OH|3PAH|3RAH|3SAH|3TAH|3UH|3VAH|3YAH",
    "0SOYOMBO CLUSTER-INITIAL LETTER LA|3RA|3SA|3SHA|1FINAL CONSONANT SIGN -A|4B|4D|4G|4K|4L|4M|4N",
    "4NG|4R|4S|4SH|1GEMINATION MARK|1HEAD MARK WITH MOON AND SUN|7AND FLAME|8TRIPLE FLAME",
    "1LETTER -A|2A|2BA|2BHA|2CA|2CHA|2DA|2DDA|2DDHA|2DHA|2DZA|2GA|2GHA|2HA|2JA|2JHA|2KA|2KHA|2KSSA",
    "2LA|2MA|2NA|2NGA|2NNA|2NYA|2PA|2PHA|2RA|2SA|2SHA|2SSA|2TA|2THA|2TSA|2TSHA|2TTA|2TTHA|2VA|2YA",
    "2ZA|2ZHA|1MARK DOUBLE SHAD|2PLUTA|2SHAD|2TSHEG|1SIGN ANUSVARA|2JIHVAMULIYA|2UPADHMANIYA",
    "2VISARGA|1SUBJOINER|1TERMINAL MARK-1|2MARK-2|1VOWEL LENGTH MARK|2SIGN AI|3AU|3E|3I|3O|3OE|3U",
    "3UE|3VOCALIC L|4R|0SUNDANESE AVAGRAHA|1CONSONANT SIGN PAMINGKAL|3PANYAKRA|3PANYIKU",
    "3PASANGAN MA|4WA|1DIGIT EIGHT|2FIVE|2FOUR|2NINE|2ONE|2SEVEN|2SIX|2THREE|2TWO|2ZERO|1LETTER A",
    "2AE|2BA|2BHA|2CA|2DA|2E|2EU|2FA|2FINAL K|3M|2GA|2HA|2I|2JA|2KA|2KHA|2LA|2LEU|2MA|2NA|2NGA",
    "2NYA|2O|2PA|2QA|2RA|2REU|2SA|2SYA|2TA|2U|2VA|2WA|2XA|2YA|2ZA|1PUNCTUATION BINDU BA SATANGA",
    "3CAKRA|3DA SATANGA|3KA SATANGA|3LEU SATANGA|3PANGLONG|3PURNAMA|3SURYA|1SIGN PAMAAEH",
    "2PANGLAYAR|2PANGWISAD|2PANYECEK|2VIRAMA|1VOWEL SIGN PAMEPET|3PANAELAENG|3PANEULEUNG|3PANGHULU",
    "3PANOLONG|3PANYUKU|0SYLOTI NAGRI LETTER A|3BHO|3BO|3CHO|3CO|3DDHO|3DDO|3DHO|3DO|3E|3GHO|3GO",
    "3HO|3I|3JHO|3JO|3KHO|3KO|3LO|3MO|3NO|3O|3PHO|3PO|3RO|3RRO|3SO|3THO|3TO|3TTHO|3TTO|3U",
    "2POETRY MARK-1|3MARK-2|3MARK-3|3MARK-4|2SIGN ALTERNATE HASANTA|3ANUSVARA|3DVISVARA|3HASANTA",
    "2VOWEL SIGN A|4E|4I|4OO|4U|0TAGALOG LETTER A|2ARCHAIC RA|2BA|2DA|2GA|2HA|2I|2KA|2LA|2MA|2NA",
    "2NGA|2PA|2RA|2SA|2TA|2U|2WA|2YA|1SIGN PAMUDPOD|2VIRAMA|1VOWEL SIGN I|3U|0TAGBANWA LETTER A",
    "2BA|2DA|2GA|2I|2KA|2LA|2MA|2NA|2NGA|2PA|2SA|2TA|2U|2WA|2YA|1VOWEL SIGN I|3U|0TAI LE LETTER A",
    "3AI|3AUE|3E|3EE|3EH|3FA|3HA|3I|3KA|3KHA|3LA|3MA|3NA|3NGA|3O|3OO|3PA|3PHA|3QA|3SA|3TA|3THA",
    "3TONE-2|3TONE-3|3TONE-4|3TONE-5|3TONE-6|3TSA|3TSHA|3U|3UE|3VA|3XA|3YA",
    "1THAM COMBINING CRYPTOGRAMMIC DOT|2CONSONANT SIGN BA|4FINAL NGA|4HIGH RATHA OR LOW PA",
    "4LA TANG LAI|4LOW PA|4MA|4MEDIAL LA|5RA|4SA|2HORA DIGIT EIGHT|4FIVE|4FOUR|4NINE|4ONE|4SEVEN",
    "4SIX|4THREE|4TWO|4ZERO|2LETTER A|3BA|3DA|3EE|3GREAT SA|3HIGH CA|4CHA|4FA|4HA|4KA|4KHA|4KXA",
    "4PA|4PHA|4RATHA|4SA|4SHA|4SSA|4TA|4THA|4YA|3I|3II|3LA|3LAE|3LLA|3LOW CA|4CHA|4FA|4HA|4KA|4KHA",
    "4KXA|4PA|4PHA|4RATHA|4SA|4TA|4THA|4YA|3LUE|3MA|3NA|3NGA|3NYA|3OO|3RA|3RANA|3RATA|3RUE|3U|3UU",
    "3WA|2SIGN CAANG|3DOKMAI|3HANG|3HOY|3KAAN|3KAANKUU|3KEOW|3KHUEN TONE-3|4TONE-4|4TONE-5",
    "3KHUEN-LUE KARAN|3MAI KANG|5LAI|4SAM|4YAMOK|3RA HAAM|3REVERSED ROTATED RANA|3SAKOT|3SATKAAN",
    "3SATKAANKUU|3SAWAN|3TONE-1|3TONE-2|3WIANG|3WIANGWAAK|2THAM DIGIT EIGHT|4FIVE|4FOUR|4NINE|4ONE",
    "4SEVEN|4SIX|4THREE|4TWO|4ZERO|2VOWEL SIGN A|4AA|4AE|4AI|4E|4I|4II|4MAI SAT|4O|4OA ABOVE",
    "5BELOW|4OO|4OY|4TALL AA|4THAM AI|4U|4UE|4UU|4UUE|1VIET LETTER HIGH BO|4CHO|4CO|4DO|4FO|4GO",
    "4HO|4KHHO|4KHO|4KO|4LO|4MO|4NGO|4NO|4NYO|4O|4PHO|4PO|4RO|4SO|4THO|4TO|4VO|4YO|3LOW BO|4CHO",
    "4CO|4DO|4FO|4GO|4HO|4KHHO|4KHO|4KO|4LO|4MO|4NGO|4NO|4NYO|4O|4PHO|4PO|4RO|4SO|4THO|4TO|4VO|4YO",
    "2MAI KANG|3KHIT|2SYMBOL HO HOI|3KOI KOI|3KON|3NUENG|3SAM|2TONE MAI EK|4NUENG|4SONG|4THO",
    "2VOWEL AA|3AM|3AN|3AUE|3AY|3E|3I|3IA|3O|3U|3UA|3UE|3UEA|0TAKRI ABBREVIATION SIGN|1DIGIT EIGHT",
    "2FIVE|2FOUR|2NINE|2ONE|2SEVEN|2SIX|2THREE|2TWO|2ZERO|1LETTER A|2AA|2AI|2ARCHAIC KHA|2AU|2BA",
    "2BHA|2CA|2CHA|2DA|2DDA|2DDHA|2DHA|2E|2GA|2GHA|2HA|2I|2II|2JA|2JHA|2KA|2KHA|2LA|2MA|2NA|2NGA",
    "2NNA|2NYA|2O|2PA|2PHA|2RA|2RRA|2SA|2SHA|2TA|2THA|2TTA|2TTHA|2U|2UU|2VA|2YA|1SIGN ANUSVARA",
    "2NUKTA|2VIRAMA|2VISARGA|1VOWEL SIGN AA|3AI|3AU|3E|3I|3II|3O|3U|3UU|0TAMIL AND ODD SIGN",
    "1AS ABOVE SIGN|1AU LENGTH MARK|1CREDIT SIGN|1CURRENT SIGN|1DAY SIGN|1DEBIT SIGN|1DIGIT EIGHT",
    "2FIVE|2FOUR|2NINE|2ONE|2SEVEN|2SIX|2THREE|2TWO|2ZERO|1DRY CULTIVATION SIGN",
    "1FRACTION DOWNSCALING FACTOR KIIZH|2ONE EIGHTH|3EIGHTIETH|3FIFTH|3FORTIETH|3HALF-1|3HALF-2",
    "3ONE-HUNDRED-AND-SIXTIETH|3QUARTER|3SIXTEENTH-1|3SIXTEENTH-2|3SIXTY-FOURTH|3TENTH",
    "3THIRTY-SECOND|3THREE-HUNDRED-AND-TWENTIETH|3TWENTIETH|2THREE EIGHTIETHS|3QUARTERS",
    "3SIXTEENTHS|3SIXTY-FOURTHS|3TWENTIETHS|1IN POSSESSION SIGN|1LAND SIGN|1LETTER A|2AA|2AI|2AU",
    "2CA|2E|2EE|2HA|2I|2II|2JA|2KA|2LA|2LLA|2LLLA|2MA|2NA|2NGA|2NNA|2NNNA|2NYA|2O|2OO|2PA|2RA|2RRA",
    "2SA|2SHA|2SSA|2TA|2TTA|2U|2UU|2VA|2YA|1MONTH SIGN|1NUMBER ONE HUNDRED|3THOUSAND|2SIGN|2TEN",
    "1OM|1PUNCTUATION END OF TEXT|1RUPEE SIGN|1SALT PAN SIGN|1SIGN AAZHAAKKU|2ANUSVARA|2CEVITU",
    "2KAACU|2KURUNI|2KUZHI|2MUKKURUNI|2MUTHALIYA|2MUUVUZHAKKU|2NEL|2PAARAM|2PANAM|2PATHAKKU|2PON",
    "2UZHAKKU|2VAKAIYARAA|2VARAAKAN|2VELI|2VIRAMA|2VISARGA|1SPENT SIGN|1STARTING FROM SIGN",
    "1TOTAL SIGN|1TRADITIONAL CREDIT SIGN|2NUMBER SIGN|1VOWEL SIGN AA|3AI|3AU|3E|3EE|3I|3II|3O|3OO",
    "3U|3UU|1WET CULTIVATION SIGN|1YEAR SIGN|0TANGSA DIGIT EIGHT|2FIVE|2FOUR|2NINE|2ONE|2SEVEN",
    "2SIX|2THREE|2TWO|2ZERO|1LETTER AC|2AQ|2AWC|2AWQ|2AWX|2AWZ|2AX|2AZ|2BA|2CA|2CHA|2DA|2DHA|2EC",
    "2EQ|2EX|2EZ|2FA|2FINAL NG|2GA|2GHA|2HA|2HTA|2HTTA|2IC|2IQ|2IX|2IZ|2KA|2KHA|2LA|2LONG UEX|2MA",
    "2MC|2MQ|2MX|2MZ|2NA|2NGA|2NHA|2NYA|2OC|2OQ|2OX|2OZ|2PA|2PHA|2RA|2SA|2SHA|2SHORT AWX|3UEZ|2TA",
    "2THA|2TSA|2UC|2UEC|2UEQ|2UEX|2UEZ|2UIC|2UIQ|2UIUC|2UIUQ|2UIUX|2UIUZ|2UIX|2UIZ|2UQ|2UX|2UZ|2VC",
    "2VQ|2VX|2VZ|2WA|2XA|2YA|2ZA|0TELUGU AI LENGTH MARK|1DIGIT EIGHT|2FIVE|2FOUR|2NINE|2ONE|2SEVEN",
    "2SIX|2THREE|2TWO|2ZERO|1FRACTION DIGIT ONE FOR EVEN POWERS OF FOUR|5ODD POWERS OF FOUR",
    "3THREE FOR EVEN POWERS OF FOUR|5ODD POWERS OF FOUR|3TWO FOR EVEN POWERS OF FOUR",
    "5ODD POWERS OF FOUR|3ZERO FOR ODD POWERS OF FOUR|1LENGTH MARK|1LETTER A|2AA|2AI|2AU|2BA|2BHA",
    "2CA|2CHA|2DA|2DDA|2DDHA|2DHA|2DZA|2E|2EE|2GA|2GHA|2HA|2I|2II|2JA|2JHA|2KA|2KHA|2LA|2LLA|2LLLA",
    "2MA|2NA|2NAKAARA POLLU|2NGA|2NNA|2NYA|2O|2OO|2PA|2PHA|2RA|2RRA|2RRRA|2SA|2SHA|2SSA|2TA|2THA",
    "2TSA|2TTA|2TTHA|2U|2UU|2VA|2VOCALIC L|3LL|3R|3RR|2YA|1SIGN ANUSVARA|2AVAGRAHA|2CANDRABINDU",
    "2COMBINING ANUSVARA ABOVE|3CANDRABINDU ABOVE|2NUKTA|2SIDDHAM|2TUUMU|2VIRAMA|2VISARGA",
    "1VOWEL SIGN AA|3AI|3AU|3E|3EE|3I|3II|3O|3OO|3U|3UU|3VOCALIC L|4LL|4R|4RR",
    "0THAI CHARACTER ANGKHANKHU|2BO BAIMAI|2CHO CHAN|3CHANG|3CHING|3CHOE|2DO CHADA|3DEK|2FO FA",
    "3FAN|2FONGMAN|2HO HIP|3NOKHUK|2KHO KHAI|3KHON|3KHUAT|3KHWAI|3RAKHANG|2KHOMUT|2KO KAI",
    "2LAKKHANGYAO|2LO CHULA|3LING|2LU|2MAI CHATTAWA|3EK|3HAN-AKAT|3THO|3TRI|2MAITAIKHU|2MAIYAMOK",
    "2MO MA|2NGO NGU|2NIKHAHIT|2NO NEN|3NU|2O ANG|2PAIYANNOI|2PHINTHU|2PHO PHAN|3PHUNG|3SAMPHAO",
    "2PO PLA|2RO RUA|2RU|2SARA A|3AA|3AE|3AI MAIMALAI|4MAIMUAN|3AM|3E|3I|3II|3O|3U|3UE|3UEE|3UU",
    "2SO RUSI|3SALA|3SO|3SUA|2THANTHAKHAT|2THO NANGMONTHO|3PHUTHAO|3THAHAN|3THAN|3THONG|3THUNG",
    "2TO PATAK|3TAO|2WO WAEN|2YAMAKKAN|2YO YAK|3YING|1CURRENCY SYMBOL BAHT|1DIGIT EIGHT|2FIVE",
    "2FOUR|2NINE|2ONE|2SEVEN|2SIX|2THREE|2TWO|2ZERO|0TIBETAN ASTROLOGICAL SIGN -KHYUD PA",
    "3SDONG TSHUGS|3SGRA GCAN -CHAR RTAGS|1CANTILLATION SIGN CANG TE-U|3HEAVY BEAT|3LIGHT BEAT",
    "3SBUB -CHAL|1DIGIT EIGHT|2FIVE|2FOUR|2HALF EIGHT|3FIVE|3FOUR|3NINE|3ONE|3SEVEN|3SIX|3THREE",
    "3TWO|3ZERO|2NINE|2ONE|2SEVEN|2SIX|2THREE|2TWO|2ZERO|1KU RU KHA|4BZHI MIG CAN|1LETTER -A|2A",
    "2BA|2BHA|2CA|2CHA|2DA|2DDA|2DDHA|2DHA|2DZA|2DZHA|2FIXED-FORM RA|2GA|2GHA|2HA|2JA|2KA|2KHA",
    "2KKA|2KSSA|2LA|2MA|2NA|2NGA|2NNA|2NYA|2PA|2PHA|2RA|2RRA|2SA|2SHA|2SSA|2TA|2THA|2TSA|2TSHA",
    "2TTA|2TTHA|2WA|2YA|2ZA|2ZHA|1LOGOTYPE SIGN CHAD RTAGS|3LHAG RTAGS|1MARK ANG KHANG GYAS|4GYON",
    "2BKA- SHOG GI MGO RGYAN|4YIG MGO|2BSDUS RTAGS|2BSKA- SHOG GI MGO RGYAN|2BSKUR YIG MGO",
    "2CARET -DZUD RTAGS BZHI MIG CAN|5ME LONG CAN|3YIG MGO PHUR SHAD MA|2CHE MGO",
    "2CLOSING BRDA RNYING YIG MGO SGAB MA|3YIG MGO SGAB MA|2DELIMITER TSHEG BSTAR|2GTER TSHEG",
    "3YIG MGO -UM GTER TSHEG MA|6RNAM BCAD MA|5TRUNCATED A|2GUG RTAGS GYAS|4GYON|2HALANTA",
    "2INITIAL BRDA RNYING YIG MGO MDUN MA|3YIG MGO MDUN MA|2INTERSYLLABIC TSHEG",
    "2LEADING MCHAN RTAGS|2MNYAM YIG GI MGO RGYAN|2NGAS BZUNG NYI ZLA|4SGOR RTAGS|2NYIS SHAD",
    "3TSHEG|4SHAD|2PALUTA|2RGYA GRAM SHAD|2RIN CHEN SPUNGS SHAD|2SBRUL SHAD|2SHAD",
    "2TRAILING MCHAN RTAGS|2TSA -PHRU|2TSHEG SHAD|2YIG MGO TSHEG SHAD MA|1SIGN GRU CAN RGYINGS",
    "3MED RGYINGS|2INVERTED MCHU CAN|2LCE TSA CAN|2LCI RTAGS|2MAR TSHES|2MCHU CAN|2NYI ZLA NAA DA",
    "2RDEL DKAR GCIG|4GNYIS|4GSUM|4RDEL NAG|3NAG GCIG|4GNYIS|4GSUM|4RDEL DKAR|2RJES SU NGA RO",
    "2RNAM BCAD|2SNA LDAN|2YANG RTAGS|2YAR TSHES|1SUBJOINED LETTER -A|3A|3BA|3BHA|3CA|3CHA|3DA",
    "3DDA|3DDHA|3DHA|3DZA|3DZHA|3FIXED-FORM RA|4WA|4YA|3GA|3GHA|3HA|3JA|3KA|3KHA|3KSSA|3LA|3MA|3NA",
    "3NGA|3NNA|3NYA|3PA|3PHA|3RA|3SA|3SHA|3SSA|3TA|3THA|3TSA|3TSHA|3TTA|3TTHA|3WA|3YA|3ZA|3ZHA",
    "2SIGN INVERTED MCHU CAN|3LCE TSA CAN|3MCHU CAN|1SYLLABLE OM|1SYMBOL DRIL BU|2NOR BU",
    "4BZHI -KHYIL|4GSUM -KHYIL|4NYIS -KHYIL|2PADMA GDAN|2PHUR PA|2RDO RJE|4RGYA GRAM",
    "1VOWEL SIGN AA|3E|3EE|3I|3II|3O|3OO|3REVERSED I|4II|3U|3UU|3VOCALIC L|4LL|4R|4RR",
    "0TIRHUTA ABBREVIATION SIGN|1ANJI|1DIGIT EIGHT|2FIVE|2FOUR|2NINE|2ONE|2SEVEN|2SIX|2THREE|2TWO",
    "2ZERO|1GVANG|1LETTER A|2AA|2AI|2AU|2BA|2BHA|2CA|2CHA|2DA|2DDA|2DDHA|2DHA|2E|2GA|2GHA|2HA|2I",
    "2II|2JA|2JHA|2KA|2KHA|2LA|2MA|2NA|2NGA|2NNA|2NYA|2O|2PA|2PHA|2RA|2SA|2SHA|2SSA|2TA|2THA|2TTA",
    "2TTHA|2U|2UU|2VA|2VOCALIC L|3LL|3R|3RR|2YA|1OM|1SIGN ANUSVARA|2AVAGRAHA|2CANDRABINDU|2NUKTA",
    "2VIRAMA|2VISARGA|1VOWEL SIGN AA|3AI|3AU|3E|3I|3II|3O|3SHORT E|4O|3U|3UU|3VOCALIC L|4LL|4R|4RR",
    "0TOTO LETTER A|2AE|2BA|2BREATHY AE|3E|3EO|3I|3IU|2CHA|2DA|2E|2EO|2GA|2HA|2I|2IU|2JA|2KA|2LA",
    "2MA|2NA|2NGA|2O|2PA|2RA|2SA|2TA|2U|2WA|2YA|1SIGN RISING TONE",
    "0VEDIC SIGN ANUSVARA ANTARGOMUKHA|3BAHIRGOMUKHA|3UBHAYATO MUKHA|3VAMAGOMUKHA|4WITH TAIL",
    "2ARDHAVISARGA|2ATIKRAMA|2DOUBLE ANUSVARA ANTARGOMUKHA|2HEXIFORM LONG ANUSVARA|2JIHVAMULIYA",
    "2LONG ANUSVARA|2NIHSHVASA|2REVERSED VISARGA ANUDATTA|4UDATTA|2ROTATED ARDHAVISARGA",
    "2RTHANG LONG ANUSVARA|2TIRYAK|2UPADHMANIYA|2VISARGA ANUDATTA|4WITH TAIL|3SVARITA|3UDATTA",
    "4WITH TAIL|2YAJURVEDIC MIDLINE SVARITA|1TONE ATHARVAVEDIC INDEPENDENT SVARITA|2CANDRA ABOVE",
    "3BELOW|2DOT BELOW|2DOUBLE RING ABOVE|3SVARITA|2KARSHANA|2KATHAKA ANUDATTA|2PRENKHA",
    "2RIGVEDIC KASHMIRI INDEPENDENT SVARITA|2RING ABOVE|2SHARA|2THREE DOTS BELOW|2TRIPLE SVARITA",
    "2TWO DOTS BELOW|2YAJURVEDIC AGGRAVATED INDEPENDENT SVARITA|3INDEPENDENT SVARITA",
    "3KATHAKA INDEPENDENT SVARITA|6SCHROEDER|0WANCHO DIGIT EIGHT|2FIVE|2FOUR|2NINE|2ONE|2SEVEN",
    "2SIX|2THREE|2TWO|2ZERO|1LETTER A|2AA|2AAN|2AANG|2ANG|2AU|2BA|2CA|2DA|2E|2EN|2FA|2GA|2HA|2I",
    "2ING|2JA|2KA|2KHA|2LA|2LLHA|2MA|2NA|2NGA|2NYA|2O|2ON|2ONG|2PA|2PHA|2RA|2SA|2SHA|2TA|2THA|2TRA",
    "2TSA|2U|2UEN|2VA|2WA|2YA|2YIH|2ZA|1NGUN SIGN|1TONE KOI|2KOINI|2TUP|2TUPNI",
    "0WARANG CITI CAPITAL LETTER A|4AM|4ANG|4AT|4BU|4DA|4E|4ENN|4ENY|4GA|4HAR|4HIYO|4HOLO|4HORR",
    "4II|4KO|4NGAA|4NUNG|4O|4ODD|4PU|4SII|4SSUU|4TTE|4UC|4UU|4VIYO|4WI|4YA|4YO|4YU|4YUJ",
    "2DIGIT EIGHT|3FIVE|3FOUR|3NINE|3ONE|3SEVEN|3SIX|3THREE|3TWO|3ZERO|2NUMBER EIGHTY|3FIFTY",
    "3FORTY|3NINETY|3SEVENTY|3SIXTY|3TEN|3THIRTY|3TWENTY|2OM|2SMALL LETTER A|4AM|4ANG|4AT|4BU|4DA",
    "4E|4ENN|4ENY|4GA|4HAR|4HIYO|4HOLO|4HORR|4II|4KO|4NGAA|4NUNG|4O|4ODD|4PU|4SII|4SSUU|4TTE|4UC",
    "4UU|4VIYO|4WI|4YA|4YO|4YU|4YUJ|0ZANABAZAR SQUARE CLOSING DOUBLE-LINED HEAD MARK|3HEAD MARK",
    "2CLUSTER-FINAL LETTER LA|4RA|4VA|4YA|2CLUSTER-INITIAL LETTER RA|2FINAL CONSONANT MARK",
    "2INITIAL DOUBLE-LINED HEAD MARK|3HEAD MARK|2LETTER -A|3A|3BA|3BHA|3CA|3CHA|3DA|3DDA|3DDHA",
    "3DHA|3DZA|3DZHA|3GA|3GHA|3HA|3JA|3KA|3KHA|3KSSA|3LA|3MA|3NA|3NGA|3NNA|3NYA|3PA|3PHA|3RA|3SA",
    "3SHA|3SSA|3TA|3THA|3TSA|3TSHA|3TTA|3TTHA|3VA|3YA|3ZA|3ZHA|2MARK DOUBLE SHAD|3LONG TSHEG|3SHAD",
    "3TSHEG|2SIGN ANUSVARA|3CANDRA WITH ORNAMENT|3CANDRABINDU|4WITH ORNAMENT|3VIRAMA|3VISARGA",
    "2SUBJOINER|2VOWEL LENGTH MARK|3SIGN AI|4AU|4E|4I|4O|4OE|4REVERSED I|4U|4UE"]

end Casebook.Text.NameTable
