/-!
# Names of East Asian characters

Letters and syllables of China, Japan and Korea, parts of ideographs, and the forms of their
printing.
-/

namespace Casebook.Text.NameTable

/-- The names, in the form of a table of names. -/
def eastAsia : List String :=
  ["0BOPOMOFO FINAL LETTER G|3H|3K|3P|3T|1LETTER A|2AH|2AI|2AINN|2AM|2AN|2ANG|2ANN|2AU|2AUNN|2B",
    "2BU|2C|2CH|2D|2E|2EE|2EH|2EI|2EN|2ENG|2ENN|2ER|2F|2G|2GH|2GN|2GU|2GW|2H|2I|2IH|2IM|2INN|2INNN",
    "2IR|2IU|2J|2JI|2K|2KW|2L|2LH|2M|2N|2NG|2NGG|2NN|2O|3WITH DOT ABOVE|2OE|2OM|2ONG|2ONN|2OO|2OU",
    "2P|2Q|2R|2S|2SH|2T|2U|2UNN|2V|2X|2Z|2ZH|2ZI|2ZY|0CENTRELINE LOW LINE|1OVERLINE",
    "0CIRCLED HANGUL CHIEUCH|3A|2CIEUC|3A|2HIEUH|3A|2IEUNG|3A|3U|2KHIEUKH|3A|2KIYEOK|3A|2MIEUM|3A",
    "2NIEUN|3A|2PHIEUPH|3A|2PIEUP|3A|2RIEUL|3A|2SIOS|3A|2THIEUTH|3A|2TIKEUT|3A|1IDEOGRAPH ACCEPT",
    "2ADVANTAGE|2ALLIANCE|2ATTENTION|2CENTRE|2CONGRATULATION|2COPY|2CORRECT|2EARTH|2EIGHT",
    "2ENTERPRISE|2EXCELLENT|2FEMALE|2FINANCIAL|2FIRE|2FIVE|2FOUR|2HAVE|2HIGH|2ITEM|2KINDERGARTEN",
    "2KOTO|2LABOR|2LEFT|2LOW|2MALE|2MEDICINE|2METAL|2MOON|2NAME|2NIGHT|2NINE|2ONE|2PRINT|2QUESTION",
    "2RELIGION|2RESOURCE|2REST|2RIGHT|2SCHOOL|2SECRET|2SEVEN|2SIX|2SOCIETY|2SPECIAL|2STOCK|2STUDY",
    "2SUITABLE|2SUN|2SUPERVISE|2TEN|2THREE|2TWO|2WATER|2WOOD|1KATAKANA A|2E|2HA|2HE|2HI|2HO|2HU|2I",
    "2KA|2KE|2KI|2KO|2KU|2MA|2ME|2MI|2MO|2MU|2NA|2NE|2NI|2NO|2NU|2O|2RA|2RE|2RI|2RO|2RU|2SA|2SE",
    "2SI|2SO|2SU|2TA|2TE|2TI|2TO|2TU|2U|2WA|2WE|2WI|2WO|2YA|2YO|2YU|1KOREAN CHARACTER CHAMKO",
    "3JUEUI|1NUMBER EIGHTY ON BLACK SQUARE|2FIFTY|3ON BLACK SQUARE|2FORTY|3EIGHT|3FIVE|3FOUR|3NINE",
    "3ON BLACK SQUARE|3ONE|3SEVEN|3SIX|3THREE|3TWO|2SEVENTY ON BLACK SQUARE|2SIXTY ON BLACK SQUARE",
    "2TEN ON BLACK SQUARE|2THIRTY|3EIGHT|3FIVE|3FOUR|3NINE|3ON BLACK SQUARE|3ONE|3SEVEN|3SIX",
    "3THREE|3TWO|2TWENTY EIGHT|3FIVE|3FOUR|3NINE|3ON BLACK SQUARE|3ONE|3SEVEN|3SIX|3THREE|3TWO",
    "1POSTAL MARK|0CJK RADICAL BAMBOO|2BLUE|2BOLT OF CLOTH|2BONE|2BOX|2BRUSH ONE|3TWO",
    "2C-SIMPLIFIED BIRD|3CART|3DRAGON|3EAT|3EVEN|3FISH|3FLY|3FROG|3GATE|3GOLD|3HORSE|3LEAF|3LONG",
    "3SALT|3SEE|3SHELL|3SILK|3SPEECH|3TANNED LEATHER|3TOOTH|3TURTLE|3WIND|2CHOKE|2CITY|2CIVILIAN",
    "2CLIFF|2CLOTHES|2COW|2DEATH|2DIVINATION|2DOG|2EAT ONE|3THREE|3TWO|2EWE|2EYE|2FIRE|2FOOT",
    "2GHOST|2GRASS ONE|3THREE|3TWO|2HAND|2HEAD|2HEART ONE|3TWO|2HORN|2J-SIMPLIFIED DRAGON|3EVEN",
    "3TOOTH|3TURTLE|2JADE|2KNIFE ONE|3TWO|2LAME FOUR|3ONE|3THREE|3TWO|2LONG ONE|3TWO|2MEAT|2MESH",
    "2MOON|2MORTAR|2MOTHER|2MOUND ONE|3TWO|2NET FOUR|3ONE|3THREE|3TWO|2OLD|2PAW ONE|3TWO|2PERSON",
    "2RAIN|2RAM|2RAP|2REPEAT|2SEAL|2SECOND ONE|3THREE|3TWO|2SHEEP|2SILK",
    "2SIMPLIFIED HALF TREE TRUNK|3HORN|3WALK|3WHEAT|3YELLOW|2SMALL ONE|3TWO|2SNAKE|2SNOUT ONE|3TWO",
    "2SPIRIT ONE|3TWO|2SUN|2TABLE|2THREAD|2TIGER|2TURTLE|2WALK ONE|3TWO|2WATER ONE|3TWO|2WEST ONE",
    "3TWO|1STROKE BXG|2D|2H|2HG|2HP|2HPWG|2HXWG|2HZ|2HZG|2HZT|2HZW|2HZWG|2HZZ|2HZZP|2HZZZ|2HZZZG",
    "2N|2P|2PD|2PG|2PZ|2Q|2S|2SG|2SP|2ST|2SW|2SWG|2SWZ|2SZ|2SZWG|2SZZ|2T|2TN|2WG|2XG",
    "0COMBINING KATAKANA-HIRAGANA SEMI-VOICED SOUND MARK|2VOICED SOUND MARK",
    "0COUNTING ROD TENS DIGIT EIGHT|4FIVE|4FOUR|4NINE|4ONE|4SEVEN|4SIX|4THREE|4TWO",
    "2UNIT DIGIT EIGHT|4FIVE|4FOUR|4NINE|4ONE|4SEVEN|4SIX|4THREE|4TWO|0DASHED LOW LINE|1OVERLINE",
    "0DIGRAM FOR EARTH|2EARTHLY HEAVEN|3HUMAN|2HEAVENLY EARTH|2HUMAN EARTH|0DITTO MARK",
    "0DOUBLE PRIME QUOTATION MARK|1WAVY OVERLINE|0FULLWIDTH AMPERSAND|1APOSTROPHE|1ASTERISK",
    "1BROKEN BAR|1CENT SIGN|1CIRCUMFLEX ACCENT|1COLON|1COMMA|1COMMERCIAL AT|1DIGIT EIGHT|2FIVE",
    "2FOUR|2NINE|2ONE|2SEVEN|2SIX|2THREE|2TWO|2ZERO|1DOLLAR SIGN|1EQUALS SIGN|1EXCLAMATION MARK",
    "1FULL STOP|1GRAVE ACCENT|1GREATER-THAN SIGN|1HYPHEN-MINUS|1LATIN CAPITAL LETTER A|4B|4C|4D|4E",
    "4F|4G|4H|4I|4J|4K|4L|4M|4N|4O|4P|4Q|4R|4S|4T|4U|4V|4W|4X|4Y|4Z|2SMALL LETTER A|4B|4C|4D|4E|4F",
    "4G|4H|4I|4J|4K|4L|4M|4N|4O|4P|4Q|4R|4S|4T|4U|4V|4W|4X|4Y|4Z|1LEFT CURLY BRACKET|2PARENTHESIS",
    "2SQUARE BRACKET|2WHITE PARENTHESIS|1LESS-THAN SIGN|1LOW LINE|1MACRON|1NOT SIGN|1NUMBER SIGN",
    "1PERCENT SIGN|1PLUS SIGN|1POUND SIGN|1QUESTION MARK|1QUOTATION MARK|1REVERSE SOLIDUS",
    "1RIGHT CURLY BRACKET|2PARENTHESIS|2SQUARE BRACKET|2WHITE PARENTHESIS|1SEMICOLON|1SOLIDUS",
    "1TILDE|1VERTICAL LINE|1WON SIGN|1YEN SIGN|0GETA MARK|0HALFWIDTH BLACK SQUARE|1DOWNWARDS ARROW",
    "1FORMS LIGHT VERTICAL|1HANGUL FILLER|2LETTER A|3AE|3CHIEUCH|3CIEUC|3E|3EO|3EU|3HIEUH|3I",
    "3IEUNG|3KHIEUKH|3KIYEOK|3KIYEOK-SIOS|3MIEUM|3NIEUN|3NIEUN-CIEUC|3NIEUN-HIEUH|3O|3OE|3PHIEUPH",
    "3PIEUP|3PIEUP-SIOS|3RIEUL|3RIEUL-HIEUH|3RIEUL-KIYEOK|3RIEUL-MIEUM|3RIEUL-PHIEUPH|3RIEUL-PIEUP",
    "3RIEUL-SIOS|3RIEUL-THIEUTH|3SIOS|3SSANGCIEUC|3SSANGKIYEOK|3SSANGPIEUP|3SSANGSIOS|3SSANGTIKEUT",
    "3THIEUTH|3TIKEUT|3U|3WA|3WAE|3WE|3WEO|3WI|3YA|3YAE|3YE|3YEO|3YI|3YO|3YU|1IDEOGRAPHIC COMMA",
    "2FULL STOP|1KATAKANA LETTER A|3E|3HA|3HE|3HI|3HO|3HU|3I|3KA|3KE|3KI|3KO|3KU|3MA|3ME|3MI|3MO",
    "3MU|3N|3NA|3NE|3NI|3NO|3NU|3O|3RA|3RE|3RI|3RO|3RU|3SA|3SE|3SI|3SMALL A|4E|4I|4O|4TU|4U|4YA",
    "4YO|4YU|3SO|3SU|3TA|3TE|3TI|3TO|3TU|3U|3WA|3WO|3YA|3YO|3YU|2MIDDLE DOT",
    "2SEMI-VOICED SOUND MARK|2VOICED SOUND MARK|1KATAKANA-HIRAGANA PROLONGED SOUND MARK",
    "1LEFT CORNER BRACKET|1LEFTWARDS ARROW|1RIGHT CORNER BRACKET|1RIGHTWARDS ARROW|1UPWARDS ARROW",
    "1WHITE CIRCLE|0HANGUL CHOSEONG CEONGCHIEUMCHIEUCH|2CEONGCHIEUMCIEUC|2CEONGCHIEUMSIOS",
    "2CEONGCHIEUMSSANGCIEUC|2CEONGCHIEUMSSANGSIOS|2CHIEUCH|2CHIEUCH-HIEUH|2CHIEUCH-KHIEUKH",
    "2CHITUEUMCHIEUCH|2CHITUEUMCIEUC|2CHITUEUMSIOS|2CHITUEUMSSANGCIEUC|2CHITUEUMSSANGSIOS|2CIEUC",
    "2CIEUC-IEUNG|2FILLER|2HIEUH|2HIEUH-SIOS|2IEUNG|2IEUNG-CHIEUCH|2IEUNG-CIEUC|2IEUNG-HIEUH",
    "2IEUNG-KIYEOK|2IEUNG-MIEUM|2IEUNG-PANSIOS|2IEUNG-PHIEUPH|2IEUNG-PIEUP|2IEUNG-RIEUL",
    "2IEUNG-SIOS|2IEUNG-THIEUTH|2IEUNG-TIKEUT|2KAPYEOUNMIEUM|2KAPYEOUNPHIEUPH|2KAPYEOUNPIEUP",
    "2KAPYEOUNRIEUL|2KAPYEOUNSSANGPIEUP|2KHIEUKH|2KIYEOK|2KIYEOK-TIKEUT|2MIEUM|2MIEUM-KIYEOK",
    "2MIEUM-PIEUP|2MIEUM-SIOS|2MIEUM-TIKEUT|2NIEUN|2NIEUN-CIEUC|2NIEUN-HIEUH|2NIEUN-KIYEOK",
    "2NIEUN-PIEUP|2NIEUN-SIOS|2NIEUN-TIKEUT|2PANSIOS|2PHIEUPH|2PHIEUPH-HIEUH|2PHIEUPH-PIEUP|2PIEUP",
    "2PIEUP-CHIEUCH|2PIEUP-CIEUC|2PIEUP-HIEUH|2PIEUP-KHIEUKH|2PIEUP-KIYEOK|2PIEUP-NIEUN",
    "2PIEUP-PHIEUPH|2PIEUP-SIOS|2PIEUP-SIOS-CIEUC|2PIEUP-SIOS-KIYEOK|2PIEUP-SIOS-PIEUP",
    "2PIEUP-SIOS-THIEUTH|2PIEUP-SIOS-TIKEUT|2PIEUP-SSANGSIOS|2PIEUP-THIEUTH|2PIEUP-TIKEUT|2RIEUL",
    "2RIEUL-CIEUC|2RIEUL-HIEUH|2RIEUL-KAPYEOUNPIEUP|2RIEUL-KHIEUKH|2RIEUL-KIYEOK|2RIEUL-MIEUM",
    "2RIEUL-NIEUN|2RIEUL-PIEUP|2RIEUL-SIOS|2RIEUL-SSANGKIYEOK|2RIEUL-SSANGPIEUP|2RIEUL-SSANGTIKEUT",
    "2RIEUL-TIKEUT|2SIOS|2SIOS-CHIEUCH|2SIOS-CIEUC|2SIOS-HIEUH|2SIOS-IEUNG|2SIOS-KHIEUKH",
    "2SIOS-KIYEOK|2SIOS-MIEUM|2SIOS-NIEUN|2SIOS-PHIEUPH|2SIOS-PIEUP|2SIOS-PIEUP-KIYEOK|2SIOS-RIEUL",
    "2SIOS-SSANGSIOS|2SIOS-THIEUTH|2SIOS-TIKEUT|2SSANGCIEUC|2SSANGCIEUC-HIEUH|2SSANGHIEUH",
    "2SSANGIEUNG|2SSANGKIYEOK|2SSANGNIEUN|2SSANGPIEUP|2SSANGRIEUL|2SSANGSIOS|2SSANGSIOS-PIEUP",
    "2SSANGTHIEUTH|2SSANGTIKEUT|2SSANGYEORINHIEUH|2THIEUTH|2TIKEUT|2TIKEUT-CIEUC|2TIKEUT-KIYEOK",
    "2TIKEUT-MIEUM|2TIKEUT-PIEUP|2TIKEUT-RIEUL|2TIKEUT-SIOS|2YEORINHIEUH|2YESIEUNG",
    "1DOUBLE DOT TONE MARK|1FILLER|1JONGSEONG CHIEUCH|2CIEUC|2CIEUC-PIEUP|2CIEUC-SSANGPIEUP|2HIEUH",
    "2HIEUH-MIEUM|2HIEUH-NIEUN|2HIEUH-PIEUP|2HIEUH-RIEUL|2IEUNG|2IEUNG-KHIEUKH|2IEUNG-KIYEOK",
    "2IEUNG-SSANGKIYEOK|2KAPYEOUNMIEUM|2KAPYEOUNPHIEUPH|2KAPYEOUNPIEUP|2KAPYEOUNRIEUL|2KHIEUKH",
    "2KIYEOK|2KIYEOK-CHIEUCH|2KIYEOK-HIEUH|2KIYEOK-KHIEUKH|2KIYEOK-NIEUN|2KIYEOK-PIEUP",
    "2KIYEOK-RIEUL|2KIYEOK-SIOS|2KIYEOK-SIOS-KIYEOK|2MIEUM|2MIEUM-CHIEUCH|2MIEUM-CIEUC",
    "2MIEUM-HIEUH|2MIEUM-KIYEOK|2MIEUM-NIEUN|2MIEUM-PANSIOS|2MIEUM-PIEUP|2MIEUM-PIEUP-SIOS",
    "2MIEUM-RIEUL|2MIEUM-SIOS|2MIEUM-SSANGNIEUN|2MIEUM-SSANGSIOS|2NIEUN|2NIEUN-CHIEUCH",
    "2NIEUN-CIEUC|2NIEUN-HIEUH|2NIEUN-KIYEOK|2NIEUN-PANSIOS|2NIEUN-RIEUL|2NIEUN-SIOS",
    "2NIEUN-THIEUTH|2NIEUN-TIKEUT|2PANSIOS|2PANSIOS-KAPYEOUNPIEUP|2PANSIOS-PIEUP|2PHIEUPH",
    "2PHIEUPH-PIEUP|2PHIEUPH-SIOS|2PHIEUPH-THIEUTH|2PIEUP|2PIEUP-CHIEUCH|2PIEUP-CIEUC|2PIEUP-HIEUH",
    "2PIEUP-MIEUM|2PIEUP-PHIEUPH|2PIEUP-RIEUL|2PIEUP-RIEUL-PHIEUPH|2PIEUP-SIOS|2PIEUP-SIOS-TIKEUT",
    "2PIEUP-TIKEUT|2RIEUL|2RIEUL-HIEUH|2RIEUL-KAPYEOUNPIEUP|2RIEUL-KHIEUKH|2RIEUL-KIYEOK",
    "2RIEUL-KIYEOK-HIEUH|2RIEUL-KIYEOK-SIOS|2RIEUL-MIEUM|2RIEUL-MIEUM-HIEUH|2RIEUL-MIEUM-KIYEOK",
    "2RIEUL-MIEUM-SIOS|2RIEUL-NIEUN|2RIEUL-PANSIOS|2RIEUL-PHIEUPH|2RIEUL-PIEUP|2RIEUL-PIEUP-HIEUH",
    "2RIEUL-PIEUP-PHIEUPH|2RIEUL-PIEUP-SIOS|2RIEUL-PIEUP-TIKEUT|2RIEUL-SIOS|2RIEUL-SSANGKIYEOK",
    "2RIEUL-SSANGSIOS|2RIEUL-THIEUTH|2RIEUL-TIKEUT|2RIEUL-TIKEUT-HIEUH|2RIEUL-YEORINHIEUH",
    "2RIEUL-YEORINHIEUH-HIEUH|2RIEUL-YESIEUNG|2SIOS|2SIOS-CHIEUCH|2SIOS-CIEUC|2SIOS-HIEUH",
    "2SIOS-KAPYEOUNPIEUP|2SIOS-KIYEOK|2SIOS-MIEUM|2SIOS-PANSIOS|2SIOS-PIEUP|2SIOS-RIEUL",
    "2SIOS-THIEUTH|2SIOS-TIKEUT|2SSANGCIEUC|2SSANGIEUNG|2SSANGKIYEOK|2SSANGMIEUM|2SSANGNIEUN",
    "2SSANGPIEUP|2SSANGRIEUL|2SSANGRIEUL-KHIEUKH|2SSANGSIOS|2SSANGSIOS-KIYEOK|2SSANGSIOS-TIKEUT",
    "2SSANGTIKEUT|2SSANGTIKEUT-PIEUP|2SSANGYESIEUNG|2THIEUTH|2TIKEUT|2TIKEUT-CHIEUCH|2TIKEUT-CIEUC",
    "2TIKEUT-KIYEOK|2TIKEUT-PIEUP|2TIKEUT-RIEUL|2TIKEUT-SIOS|2TIKEUT-SIOS-KIYEOK|2TIKEUT-THIEUTH",
    "2YEORINHIEUH|2YESIEUNG|2YESIEUNG-HIEUH|2YESIEUNG-KHIEUKH|2YESIEUNG-KIYEOK|2YESIEUNG-MIEUM",
    "2YESIEUNG-PANSIOS|2YESIEUNG-SIOS|2YESIEUNG-SSANGKIYEOK|1JUNGSEONG A|2A-EU|2A-O|2A-U|2AE",
    "2ARAEA|2ARAEA-A|2ARAEA-E|2ARAEA-EO|2ARAEA-I|2ARAEA-U|2E|2EO|2EO-EU|2EO-O|2EO-U|2EU|2EU-A",
    "2EU-E|2EU-EO|2EU-EU|2EU-O|2EU-U|2FILLER|2I|2I-A|2I-ARAEA|2I-EU|2I-I|2I-O|2I-O-I|2I-U|2I-YA",
    "2I-YA-O|2I-YAE|2I-YE|2I-YEO|2I-YO|2I-YU|2O|2O-E|2O-EO|2O-O|2O-O-I|2O-U|2O-YA|2O-YAE|2O-YE",
    "2O-YEO|2OE|2SSANGARAEA|2U|2U-A|2U-AE|2U-EO-EU|2U-I-I|2U-U|2U-YE|2U-YEO|2WA|2WAE|2WE|2WEO|2WI",
    "2YA|2YA-O|2YA-U|2YA-YO|2YAE|2YE|2YEO|2YEO-O|2YEO-U|2YEO-YA|2YI|2YI-U|2YO|2YO-A|2YO-AE|2YO-EO",
    "2YO-I|2YO-O|2YO-YA|2YO-YAE|2YO-YEO|2YU|2YU-A|2YU-AE|2YU-E|2YU-EO|2YU-I|2YU-O|2YU-U|2YU-YE",
    "2YU-YEO|1LETTER A|2AE|2ARAEA|2ARAEAE|2CHIEUCH|2CIEUC|2E|2EO|2EU|2HIEUH|2I|2IEUNG",
    "2KAPYEOUNMIEUM|2KAPYEOUNPHIEUPH|2KAPYEOUNPIEUP|2KAPYEOUNSSANGPIEUP|2KHIEUKH|2KIYEOK",
    "2KIYEOK-SIOS|2MIEUM|2MIEUM-PANSIOS|2MIEUM-PIEUP|2MIEUM-SIOS|2NIEUN|2NIEUN-CIEUC|2NIEUN-HIEUH",
    "2NIEUN-PANSIOS|2NIEUN-SIOS|2NIEUN-TIKEUT|2O|2OE|2PANSIOS|2PHIEUPH|2PIEUP|2PIEUP-CIEUC",
    "2PIEUP-KIYEOK|2PIEUP-SIOS|2PIEUP-SIOS-KIYEOK|2PIEUP-SIOS-TIKEUT|2PIEUP-THIEUTH|2PIEUP-TIKEUT",
    "2RIEUL|2RIEUL-HIEUH|2RIEUL-KIYEOK|2RIEUL-KIYEOK-SIOS|2RIEUL-MIEUM|2RIEUL-PANSIOS",
    "2RIEUL-PHIEUPH|2RIEUL-PIEUP|2RIEUL-PIEUP-SIOS|2RIEUL-SIOS|2RIEUL-THIEUTH|2RIEUL-TIKEUT",
    "2RIEUL-YEORINHIEUH|2SIOS|2SIOS-CIEUC|2SIOS-KIYEOK|2SIOS-NIEUN|2SIOS-PIEUP|2SIOS-TIKEUT",
    "2SSANGCIEUC|2SSANGHIEUH|2SSANGIEUNG|2SSANGKIYEOK|2SSANGNIEUN|2SSANGPIEUP|2SSANGSIOS",
    "2SSANGTIKEUT|2THIEUTH|2TIKEUT|2U|2WA|2WAE|2WE|2WEO|2WI|2YA|2YAE|2YE|2YEO|2YEORINHIEUH",
    "2YESIEUNG|2YESIEUNG-PANSIOS|2YESIEUNG-SIOS|2YI|2YO|2YO-I|2YO-YA|2YO-YAE|2YU|2YU-I|2YU-YE",
    "2YU-YEO|1SINGLE DOT TONE MARK|0HANGZHOU NUMERAL EIGHT|2FIVE|2FOUR|2NINE|2ONE|2SEVEN|2SIX|2TEN",
    "2THIRTY|2THREE|2TWENTY|2TWO|0HENTAIGANA LETTER A-1|2A-2|2A-3|2A-WO|2E-1|2E-2|2E-3|2E-4|2E-5",
    "2E-6|2HA-1|2HA-10|2HA-11|2HA-2|2HA-3|2HA-4|2HA-5|2HA-6|2HA-7|2HA-8|2HA-9|2HE-1|2HE-2|2HE-3",
    "2HE-4|2HE-5|2HE-6|2HE-7|2HI-1|2HI-2|2HI-3|2HI-4|2HI-5|2HI-6|2HI-7|2HO-1|2HO-2|2HO-3|2HO-4",
    "2HO-5|2HO-6|2HO-7|2HO-8|2HU-1|2HU-2|2HU-3|2I-1|2I-2|2I-3|2I-4|2KA-1|2KA-10|2KA-11|2KA-2|2KA-3",
    "2KA-4|2KA-5|2KA-6|2KA-7|2KA-8|2KA-9|2KA-KE|2KE-1|2KE-2|2KE-3|2KE-4|2KE-5|2KE-6|2KI-1|2KI-2",
    "2KI-3|2KI-4|2KI-5|2KI-6|2KI-7|2KI-8|2KO-1|2KO-2|2KO-3|2KO-KI|2KU-1|2KU-2|2KU-3|2KU-4|2KU-5",
    "2KU-6|2KU-7|2MA-1|2MA-2|2MA-3|2MA-4|2MA-5|2MA-6|2MA-7|2ME-1|2ME-2|2ME-MA|2MI-1|2MI-2|2MI-3",
    "2MI-4|2MI-5|2MI-6|2MI-7|2MO-1|2MO-2|2MO-3|2MO-4|2MO-5|2MO-6|2MU-1|2MU-2|2MU-3|2MU-4",
    "2N-MU-MO-1|2N-MU-MO-2|2NA-1|2NA-2|2NA-3|2NA-4|2NA-5|2NA-6|2NA-7|2NA-8|2NA-9|2NE-1|2NE-2|2NE-3",
    "2NE-4|2NE-5|2NE-6|2NE-KO|2NI-1|2NI-2|2NI-3|2NI-4|2NI-5|2NI-6|2NI-7|2NI-TE|2NO-1|2NO-2|2NO-3",
    "2NO-4|2NO-5|2NU-1|2NU-2|2NU-3|2O-1|2O-2|2O-3|2RA-1|2RA-2|2RA-3|2RA-4|2RE-1|2RE-2|2RE-3|2RE-4",
    "2RI-1|2RI-2|2RI-3|2RI-4|2RI-5|2RI-6|2RI-7|2RO-1|2RO-2|2RO-3|2RO-4|2RO-5|2RO-6|2RU-1|2RU-2",
    "2RU-3|2RU-4|2RU-5|2RU-6|2SA-1|2SA-2|2SA-3|2SA-4|2SA-5|2SA-6|2SA-7|2SA-8|2SE-1|2SE-2|2SE-3",
    "2SE-4|2SE-5|2SI-1|2SI-2|2SI-3|2SI-4|2SI-5|2SI-6|2SO-1|2SO-2|2SO-3|2SO-4|2SO-5|2SO-6|2SO-7",
    "2SU-1|2SU-2|2SU-3|2SU-4|2SU-5|2SU-6|2SU-7|2SU-8|2TA-1|2TA-2|2TA-3|2TA-4|2TE-1|2TE-2|2TE-3",
    "2TE-4|2TE-5|2TE-6|2TE-7|2TE-8|2TE-9|2TI-1|2TI-2|2TI-3|2TI-4|2TI-5|2TI-6|2TI-7|2TO-1|2TO-2",
    "2TO-3|2TO-4|2TO-5|2TO-6|2TO-RA|2TU-1|2TU-2|2TU-3|2TU-4|2TU-TO|2U-1|2U-2|2U-3|2U-4|2U-5|2WA-1",
    "2WA-2|2WA-3|2WA-4|2WA-5|2WE-1|2WE-2|2WE-3|2WE-4|2WI-1|2WI-2|2WI-3|2WI-4|2WI-5|2WO-1|2WO-2",
    "2WO-3|2WO-4|2WO-5|2WO-6|2WO-7|2YA-1|2YA-2|2YA-3|2YA-4|2YA-5|2YA-YO|2YO-1|2YO-2|2YO-3|2YO-4",
    "2YO-5|2YO-6|2YU-1|2YU-2|2YU-3|2YU-4|0HIRAGANA DIGRAPH YORI|1ITERATION MARK|1LETTER A",
    "2ARCHAIC WU|3YE|2BA|2BE|2BI|2BO|2BU|2DA|2DE|2DI|2DO|2DU|2E|2GA|2GE|2GI|2GO|2GU|2HA|2HE|2HI",
    "2HO|2HU|2I|2KA|2KE|2KI|2KO|2KU|2MA|2ME|2MI|2MO|2MU|2N|2NA|2NE|2NI|2NO|2NU|2O|2PA|2PE|2PI|2PO",
    "2PU|2RA|2RE|2RI|2RO|2RU|2SA|2SE|2SI|2SMALL A|3E|3I|3KA|3KE|3O|3TU|3U|3WA|3WE|3WI|3WO|3YA|3YO",
    "3YU|2SO|2SU|2TA|2TE|2TI|2TO|2TU|2U|2VU|2WA|2WE|2WI|2WO|2YA|2YO|2YU|2ZA|2ZE|2ZI|2ZO|2ZU",
    "1VOICED ITERATION MARK|0IDEOGRAPHIC ANNOTATION BOTTOM MARK|2EARTH MARK|2FIRST MARK|2FOUR MARK",
    "2FOURTH MARK|2HEAVEN MARK|2LINKING MARK|2MAN MARK|2MIDDLE MARK|2ONE MARK|2REVERSE MARK",
    "2SECOND MARK|2THIRD MARK|2THREE MARK|2TOP MARK|2TWO MARK|1CLOSING MARK|1COMMA",
    "1DEPARTING TONE MARK|1DESCRIPTION CHARACTER ABOVE TO BELOW|5MIDDLE AND BELOW|3FULL SURROUND",
    "3LEFT TO MIDDLE AND RIGHT|5RIGHT|3OVERLAID|3SURROUND FROM ABOVE|5BELOW|5LEFT|5LOWER LEFT",
    "5UPPER LEFT|6RIGHT|1ENTERING TONE MARK|1FULL STOP|1HALF FILL SPACE|1ITERATION MARK",
    "1LEVEL TONE MARK|1NUMBER ZERO|1RISING TONE MARK|1SPACE|1TALLY MARK FIVE|3FOUR|3ONE|3THREE",
    "3TWO|1TELEGRAPH LINE FEED SEPARATOR SYMBOL|2SYMBOL FOR APRIL|4AUGUST|4DAY EIGHT|5EIGHTEEN",
    "5ELEVEN|5FIFTEEN|5FIVE|5FOUR|5FOURTEEN|5NINE|5NINETEEN|5ONE|5SEVEN|5SEVENTEEN|5SIX|5SIXTEEN",
    "5TEN|5THIRTEEN|5THIRTY|5THIRTY-ONE|5THREE|5TWELVE|5TWENTY|5TWENTY-EIGHT|5TWENTY-FIVE",
    "5TWENTY-FOUR|5TWENTY-NINE|5TWENTY-ONE|5TWENTY-SEVEN|5TWENTY-SIX|5TWENTY-THREE|5TWENTY-TWO",
    "5TWO|4DECEMBER|4FEBRUARY|4HOUR EIGHT|5EIGHTEEN|5ELEVEN|5FIFTEEN|5FIVE|5FOUR|5FOURTEEN|5NINE",
    "5NINETEEN|5ONE|5SEVEN|5SEVENTEEN|5SIX|5SIXTEEN|5TEN|5THIRTEEN|5THREE|5TWELVE|5TWENTY",
    "5TWENTY-FOUR|5TWENTY-ONE|5TWENTY-THREE|5TWENTY-TWO|5TWO|5ZERO|4JANUARY|4JULY|4JUNE|4MARCH",
    "4MAY|4NOVEMBER|4OCTOBER|4SEPTEMBER|1VARIATION INDICATOR|0JAPANESE INDUSTRIAL STANDARD SYMBOL",
    "0KANGXI RADICAL AGAIN|2AND|2ARRIVE|2ARROW|2AXE|2BADGER|2BAMBOO|2BEAN|2BIG|2BIRD|2BITTER",
    "2BLACK|2BLOOD|2BLUE|2BOAT|2BODY|2BOLT OF CLOTH|2BONE|2BOW|2BRANCH|2BRISTLE|2BRUSH|2CART",
    "2CAULDRON|2CAVE|2CHILD|2CITY|2CLAN|2CLAW|2CLIFF|2CLOTHES|2COLOR|2COMPARE|2CORPSE|2COVER|2COW",
    "2DEATH|2DEER|2DIPPER|2DISH|2DISTINGUISH|2DIVINATION|2DO NOT|2DOG|2DOOR|2DOT|2DOTTED CLIFF",
    "3TENT|2DOUBLE X|2DOWN BOX|2DRAGON|2DRUM|2DRY|2EAR|2EARTH|2EAT|2EIGHT|2EMBROIDERY|2ENCLOSURE",
    "2ENTER|2EVEN|2EVENING|2EYE|2FACE|2FANG|2FATHER|2FEATHER|2FIELD|2FIGHT|2FIRE|2FISH|2FLUTE|2FLY",
    "2FOOT|2FRAGRANT|2FROG|2FUR|2GATE|2GHOST|2GO|3SLOWLY|2GOLD|2GRAIN|2GRASS|2HAIR|2HALBERD",
    "2HALF TREE TRUNK|2HAND|2HEAD|2HEART|2HEMP|2HIDING ENCLOSURE|2HOOK|2HORN|2HORSE|2ICE|2INCH",
    "2INSECT|2JADE|2JAR|2KNIFE|2LACK|2LAME|2LEAF|2LEATHER|2LEEK|2LEGS|2LID|2LIFE|2LINE|2LONG",
    "3STRIDE|2MAN|2MEAT|2MELON|2MILLET|2MINISTER|2MOON|2MORNING|2MORTAR|2MOUND|2MOUNTAIN|2MOUTH",
    "2NET|2NOSE|2NOT|2OLD|2ONE|2ONESELF|2OPEN BOX|2OPPOSE|2PIG|2PLOW|2POWER|2PRIVATE|2PROFOUND",
    "2RAIN|2RAP|2RAT|2RED|2RICE|2RIGHT OPEN BOX|2RIVER|2ROOF|2RUN|2SACRIFICIAL WINE|2SALT|2SAY",
    "2SCHOLAR|2SCRIPT|2SEAL|2SECOND|2SEE|2SELF|2SHEEP|2SHELL|2SHOOT|2SHORT TAILED BIRD|3THREAD",
    "2SICKNESS|2SILK|2SKIN|2SLASH|2SLAVE|2SLICE|2SMALL|2SNOUT|2SOUND|2SPEAR|2SPEECH|2SPIRIT|2SPOON",
    "2SPROUT|2SQUARE|2STAND|2STEAM|2STEP|2STONE|2STOP|2STOPPING|2SUN|2SWEET|2TABLE|2TALL",
    "2TANNED LEATHER|2TEN|2TIGER|2TILE|2TONGUE|2TOOTH|2TRACK|2TREE|2TRIPOD|2TURBAN|2TURTLE|2TWO",
    "3HANDS|2USE|2VALLEY|2VILLAGE|2WALK|3ENCLOSURE|2WATER|2WEAPON|2WEST|2WHEAT|2WHITE|2WIND|2WINE",
    "2WOMAN|2WORK|2WRAP|2WRONG|2YELLOW|0KATAKANA DIGRAPH KOTO|1ITERATION MARK|1LETTER A|2ARCHAIC E",
    "3WU|3YE|3YI|2BA|2BE|2BI|2BO|2BU|2DA|2DE|2DI|2DO|2DU|2E|2GA|2GE|2GI|2GO|2GU|2HA|2HE|2HI|2HO",
    "2HU|2I|2KA|2KE|2KI|2KO|2KU|2MA|2ME|2MI|2MINNAN NASALIZED TONE-1|4TONE-2|4TONE-3|4TONE-4",
    "4TONE-5|4TONE-7|4TONE-8|3TONE-2|3TONE-3|3TONE-4|3TONE-5|3TONE-7|3TONE-8|2MO|2MU|2N|2NA|2NE",
    "2NI|2NO|2NU|2O|2PA|2PE|2PI|2PO|2PU|2RA|2RE|2RI|2RO|2RU|2SA|2SE|2SI|2SMALL A|3E|3HA|3HE|3HI",
    "3HO|3HU|3I|3KA|3KE|3KU|3MU|3N|3NU|3O|3RA|3RE|3RI|3RO|3RU|3SI|3SU|3TO|3TU|3U|3WA|3WE|3WI|3WO",
    "3YA|3YO|3YU|2SO|2SU|2TA|2TE|2TI|2TO|2TU|2U|2VA|2VE|2VI|2VO|2VU|2WA|2WE|2WI|2WO|2YA|2YO|2YU",
    "2ZA|2ZE|2ZI|2ZO|2ZU|1MIDDLE DOT|1VOICED ITERATION MARK|0KATAKANA-HIRAGANA DOUBLE HYPHEN",
    "1PROLONGED SOUND MARK|1SEMI-VOICED SOUND MARK|1VOICED SOUND MARK|0KHITAN SMALL SCRIPT FILLER",
    "0KOREAN STANDARD SYMBOL|0LEFT ANGLE BRACKET|1BLACK LENTICULAR BRACKET|1CORNER BRACKET",
    "1DOUBLE ANGLE BRACKET|1TORTOISE SHELL BRACKET|1WHITE CORNER BRACKET|2LENTICULAR BRACKET",
    "2SQUARE BRACKET|2TORTOISE SHELL BRACKET|0LIMITED LIABILITY SIGN|0LISU LETTER A|2AE|2BA|2CA",
    "2CHA|2DA|2DZA|2E|2EU|2FA|2GA|2GHA|2HA|2HHA|2I|2JA|2KA|2KHA|2LA|2MA|2NA|2NGA|2O|2OE|2PA|2PHA",
    "2SA|2SHA|2TA|2THA|2TONE MYA BO|4CYA|4JEU|4NA|4TI|3NA PO|2TSA|2TSHA|2U|2UE|2UH|2WA|2XA|2YA|2ZA",
    "2ZHA|1PUNCTUATION COMMA|2FULL STOP|0LOW DOUBLE PRIME QUOTATION MARK|0MASU MARK",
    "0MIAO LETTER AH|2ARCHAIC MA|3NA|3NGA|3ZZA|2BA|2BRI|2DA|2DDA|2DLHA|2DLHYA|2DZA|2DZHA|2DZYI",
    "2DZZA|2FA|2GA|2GHA|2GHHA|2HA|2HHA|2KA|2LA|2LHA|2LHYA|2LYA|2MA|2MHA|2NA|2NASALIZATION|2NGA",
    "2NGHA|2NHA|2NNA|2NNHA|2NYA|2NYHA|2PA|2PLA|2QA|2QGA|2REFORMED TONE-1|3TONE-2|3TONE-4|3TONE-5",
    "3TONE-6|3TONE-8|3TSHA|2RTE|2SA|2SHA|2SSA|2SYI|2TA|2TE|2TLHA|2TLHYA|2TONE-2|2TONE-3|2TONE-4",
    "2TONE-5|2TONE-6|2TONE-7|2TONE-8|2TSA|2TSE|2TSHA|2TSSA|2TTA|2VA|2VFA|2WA|2XA|2YI DZHA|3KA|3NNA",
    "3PA|3TA|3TSA|3TSHA|3TTA|2ZA|2ZHA|2ZSA|2ZSHA|2ZZA|2ZZSA|2ZZSYA|2ZZYA|1SIGN ASPIRATION",
    "2CONSONANT MODIFIER BAR|2REFORMED ASPIRATION|3VOICING|1TONE ABOVE|2BELOW|2RIGHT|2TOP RIGHT",
    "1VOWEL SIGN A|3AA|3AE|3AEE|3AHH|3AI|3AN|3ANG|3AU|3E|3EA|3EI|3EN|3ENG|3ER|3ERR|3I|3IA|3IAN",
    "3IANG|3IE|3IG|3II|3ING|3IO|3IONG|3IU|3N|3NG|3O|3OER|3OEY|3OG|3OO|3OU|3ROUNDED ER|4ERR|3U|3UA",
    "3UAN|3UANG|3UEI|3UI|3UNG|3UOG|3UU|3VW|3W|3WO|3Y|3YI|3YUI|0MONOGRAM FOR EARTH",
    "0NUSHU ITERATION MARK|0OLD CHINESE HOOK MARK|2ITERATION MARK|0PARENTHESIZED HANGUL CHIEUCH|3A",
    "2CIEUC|3A|3U|2HIEUH|3A|2IEUNG|3A|2KHIEUKH|3A|2KIYEOK|3A|2MIEUM|3A|2NIEUN|3A|2PHIEUPH|3A",
    "2PIEUP|3A|2RIEUL|3A|2SIOS|3A|2THIEUTH|3A|2TIKEUT|3A|1IDEOGRAPH ALLIANCE|2CALL|2CONGRATULATION",
    "2EARTH|2EIGHT|2ENTERPRISE|2FESTIVAL|2FINANCIAL|2FIRE|2FIVE|2FOUR|2HAVE|2LABOR|2METAL|2MOON",
    "2NAME|2NINE|2ONE|2REACH|2REPRESENT|2RESOURCE|2REST|2SELF|2SEVEN|2SIX|2SOCIETY|2SPECIAL|2STOCK",
    "2STUDY|2SUN|2SUPERVISE|2TEN|2THREE|2TWO|2WATER|2WOOD|1KOREAN CHARACTER O HU|3OJEON",
    "0PART ALTERNATION MARK|0PARTNERSHIP SIGN|0POSTAL MARK|2FACE",
    "0PRESENTATION FORM FOR VERTICAL EM DASH|4EN DASH|4LEFT ANGLE BRACKET",
    "5BLACK LENTICULAR BRACKET|5CORNER BRACKET|5CURLY BRACKET|5DOUBLE ANGLE BRACKET|5PARENTHESIS",
    "5SQUARE BRACKET|5TORTOISE SHELL BRACKET|5WHITE CORNER BRACKET|4LOW LINE|4RIGHT ANGLE BRACKET",
    "5BLACK LENTICULAR BRACKET|5CORNER BRACKET|5CURLY BRACKET|5DOUBLE ANGLE BRACKET|5PARENTHESIS",
    "5SQUARE BRACKET|5TORTOISE SHELL BRACKET|5WHITE CORNER BRACKET|4TWO DOT LEADER|4WAVY LOW LINE",
    "0REVERSED DOUBLE PRIME QUOTATION MARK|0RIGHT ANGLE BRACKET|1BLACK LENTICULAR BRACKET",
    "1CORNER BRACKET|1DOUBLE ANGLE BRACKET|1TORTOISE SHELL BRACKET|1WHITE CORNER BRACKET",
    "2LENTICULAR BRACKET|2SQUARE BRACKET|2TORTOISE SHELL BRACKET|0ROUNDED SYMBOL FOR CAI|3FU|3LU",
    "3SHOU|3SHUANGXI|3XI|0SESAME DOT|0SQUARE A OVER M|1AARU|1AM|1ANPEA|1APAATO|1ARUHUA|1AU",
    "1BAARERU|1BAR|1BEETA|1BIRU|1BORUTO|1BQ|1BUSSYERU|1C OVER KG|1CAL|1CC|1CD|1CM|2CUBED|2SQUARED",
    "1CO|1CORPORATION|1DA|1DAASU|1DB|1DESI|1DL|1DM|2CUBED|2SQUARED|1DORU|1EEKAA|1ERA NAME HEISEI",
    "3MEIZI|3REIWA|3SYOUWA|3TAISYOU|1ERG|1ESUKUUDO|1EV|1FM|1GAL|1GANMA|1GARON|1GB|1GHZ|1GIGA",
    "1GINII|1GIRUDAA|1GPA|1GURAMU|1GURAMUTON|1GY|1HA|1HAITU|1HEKUTAARU|1HERUTU|1HG|1HIRAGANA HOKA",
    "1HON|1HOON|1HOORU|1HP|1HPA|1HUARADDO|1HUIITO|1HURAN|1HZ|1IN|1ININGU|1INTI|1IU|1K OHM|1KA",
    "1KAIRI|1KARATTO|1KARORII|1KB|1KCAL|1KEESU|1KG|1KHZ|1KIRO|1KIROGURAMU|1KIROMEETORU|1KIROWATTO",
    "1KK|1KL|1KM|2CAPITAL|2CUBED|2SQUARED|1KOOPO|1KORUNA|1KPA|1KT|1KUROONE|1KURUZEIRO|1KV|1KW",
    "1KYURII|1LM|1LN|1LOG|1LX|1M CUBED|2OHM|2OVER S|4SQUARED|2SQUARED|1MA|1MAHHA|1MAIKURO|1MAIRU",
    "1MANSYON|1MARUKU|1MB|2SMALL|1MEETORU|1MEGA|1MEGATON|1MG|1MHZ|1MIKURON|1MIL|1MIRI|1MIRIBAARU",
    "1ML|1MM|2CUBED|2SQUARED|1MOL|1MPA|1MS|1MU A|2F|2G|2L|2M|2S|2V|2W|1MV|2MEGA|1MW|2MEGA|1NA",
    "1NANO|1NF|1NM|1NOTTO|1NS|1NV|1NW|1ONSU|1OOMU|1OV|1PA|2AMPS|1PAASENTO|1PAATU|1PC|1PEEZI",
    "1PENIHI|1PENSU|1PESO|1PF|1PH|1PIASUTORU|1PIKO|1PIKURU|1PM|1POINTO|1PONDO|1PPM|1PR|1PS|1PV|1PW",
    "1RAD|2OVER S|4SQUARED|1REMU|1RENTOGEN|1RIRA|1RITTORU|1RUPII|1RUUBURU|1SAIKURU|1SANTIIMU",
    "1SENTI|1SENTO|1SIRINGU|1SR|1SV|1THZ|1TON|1UON|1V OVER M|1WATTO|1WB|1YAADO|1YAARU|1YUAN",
    "0SQUARED CJK UNIFIED IDEOGRAPH-4E00|3IDEOGRAPH-4E09|3IDEOGRAPH-4E2D|3IDEOGRAPH-4E8C",
    "3IDEOGRAPH-4EA4|3IDEOGRAPH-518D|3IDEOGRAPH-521D|3IDEOGRAPH-524D|3IDEOGRAPH-5272",
    "3IDEOGRAPH-53CC|3IDEOGRAPH-53F3|3IDEOGRAPH-5408|3IDEOGRAPH-5439|3IDEOGRAPH-55B6",
    "3IDEOGRAPH-58F0|3IDEOGRAPH-591A|3IDEOGRAPH-5929|3IDEOGRAPH-5B57|3IDEOGRAPH-5DE6",
    "3IDEOGRAPH-5F8C|3IDEOGRAPH-624B|3IDEOGRAPH-6253|3IDEOGRAPH-6295|3IDEOGRAPH-6307",
    "3IDEOGRAPH-6355|3IDEOGRAPH-6599|3IDEOGRAPH-65B0|3IDEOGRAPH-6620|3IDEOGRAPH-6708",
    "3IDEOGRAPH-6709|3IDEOGRAPH-6E80|3IDEOGRAPH-6F14|3IDEOGRAPH-7121|3IDEOGRAPH-751F",
    "3IDEOGRAPH-7533|3IDEOGRAPH-7981|3IDEOGRAPH-7A7A|3IDEOGRAPH-7D42|3IDEOGRAPH-89E3",
    "3IDEOGRAPH-8CA9|3IDEOGRAPH-8D70|3IDEOGRAPH-904A|3IDEOGRAPH-914D|1KATAKANA DE|2KOKO|2SA",
    "0TALLY MARK FIVE|2ONE|0TANGUT ITERATION MARK|0TETRAGRAM FOR ACCUMULATION|2ADVANCE",
    "2AGGRAVATION|2ASCENT|2BARRIER|2BOLD RESOLUTION|2BRANCHING OUT|2CENTRE|2CHANGE|2CLOSED MOUTH",
    "2CLOSENESS|2CLOSURE|2COMPLETION|2COMPLIANCE|2CONSTANCY|2CONTACT|2CONTENTION|2CONTRARIETY",
    "2DARKENING|2DECISIVENESS|2DEFECTIVENESS OR DISTORTION|2DEPARTURE|2DIFFICULTIES|2DIMINISHMENT",
    "2DIMMING|2DIVERGENCE|2DOUBT|2DUTIES|2EASE|2EMBELLISHMENT|2ENCOUNTERS|2ENDEAVOUR|2ENLARGEMENT",
    "2ETERNITY|2EXHAUSTION|2FAILURE|2FLIGHT|2FOLLOWING|2FOSTERING|2FULL CIRCLE|2FULLNESS",
    "2GATHERING|3IN|2GOING TO MEET|2GREATNESS|2GUARDEDNESS|2HARDNESS|2HOLDING BACK|2INCREASE",
    "2INNER|2JOY|2KEEPING SMALL|2KINSHIP|2LABOURING|2LAW OR MODEL|2LEGION|2MASSING|2MEASURE|2MIRED",
    "2ON THE VERGE|2OPPOSITION|2PACKING|2PATTERN|2PENETRATION|2PURITY|2REACH|2RELEASE|2RESIDENCE",
    "2RESISTANCE|2RESPONSE|2RITUAL|2SEVERANCE|2SINKING|2STOPPAGE|2STOVE|2STRENGTH|2UNITY",
    "2VASTNESS OR WASTING|2WAITING|2WATCH|2YOUTHFULNESS",
    "0TORTOISE SHELL BRACKETED CJK UNIFIED IDEOGRAPH-4E09|5IDEOGRAPH-4E8C|5IDEOGRAPH-52DD",
    "5IDEOGRAPH-5B89|5IDEOGRAPH-6253|5IDEOGRAPH-6557|5IDEOGRAPH-672C|5IDEOGRAPH-70B9",
    "5IDEOGRAPH-76D7|0VERTICAL IDEOGRAPHIC ITERATION MARK|1KANA REPEAT MARK|4LOWER HALF",
    "4UPPER HALF|3WITH VOICED SOUND MARK|7UPPER HALF|0VIETNAMESE ALTERNATE READING MARK CA|4NHAY",
    "0WAVE DASH|0WAVY DASH|1LOW LINE|1OVERLINE|0WHITE SESAME DOT|0YI RADICAL BBUT|2BUR|2CHE|2CIP",
    "2CUOP|2CY|2CYP|2CYT|2DDUR|2DU|2GA|2GEP|2GGOP|2GGUO|2GOT|2HMO|2HXIT|2HXOP|2HXUO|2JJIE|2JJUT",
    "2JJY|2JO|2KE|2KIT|2LI|2LIE|2LYR|2MI|2MOP|2NBIE|2NYIP|2NYOP|2NZUP|2OP|2PUT|2PYT|2QOT|2SHAT",
    "2SHOP|2SHUR|2SHY|2SSI|2TAT|2TU|2VEP|2VUR|2WO|2YIT|2YO|2ZA|2ZOT|2ZUP|2ZUR|2ZZIET|1SYLLABLE A",
    "2AP|2AT|2AX|2BA|2BAP|2BAT|2BAX|2BBA|2BBAP|2BBAT|2BBAX|2BBE|2BBEP|2BBEX|2BBI|2BBIE|2BBIEP",
    "2BBIET|2BBIEX|2BBIP|2BBIT|2BBIX|2BBO|2BBOP|2BBOT|2BBOX|2BBU|2BBUO|2BBUOP|2BBUOX|2BBUP|2BBUR",
    "2BBURX|2BBUT|2BBUX|2BBY|2BBYP|2BBYT|2BBYX|2BE|2BEP|2BEX|2BI|2BIE|2BIEP|2BIET|2BIEX|2BIP|2BIT",
    "2BIX|2BO|2BOP|2BOT|2BOX|2BU|2BUO|2BUOP|2BUOX|2BUP|2BUR|2BURX|2BUT|2BUX|2BY|2BYP|2BYR|2BYRX",
    "2BYT|2BYX|2CA|2CAP|2CAT|2CAX|2CE|2CEP|2CEX|2CHA|2CHAP|2CHAT|2CHAX|2CHE|2CHEP|2CHET|2CHEX|2CHO",
    "2CHOP|2CHOT|2CHOX|2CHU|2CHUO|2CHUOP|2CHUOT|2CHUOX|2CHUP|2CHUR|2CHURX|2CHUX|2CHY|2CHYP|2CHYR",
    "2CHYRX|2CHYT|2CHYX|2CI|2CIE|2CIEP|2CIET|2CIEX|2CIP|2CIT|2CIX|2CO|2COP|2COT|2COX|2CU|2CUO",
    "2CUOP|2CUOX|2CUP|2CUR|2CURX|2CUT|2CUX|2CY|2CYP|2CYR|2CYRX|2CYT|2CYX|2DA|2DAP|2DAT|2DAX|2DDA",
    "2DDAP|2DDAT|2DDAX|2DDE|2DDEP|2DDEX|2DDI|2DDIE|2DDIEP|2DDIEX|2DDIP|2DDIT|2DDIX|2DDO|2DDOP",
    "2DDOT|2DDOX|2DDU|2DDUO|2DDUOP|2DDUOX|2DDUP|2DDUR|2DDURX|2DDUT|2DDUX|2DE|2DEP|2DEX|2DI|2DIE",
    "2DIEP|2DIEX|2DIP|2DIT|2DIX|2DO|2DOP|2DOT|2DOX|2DU|2DUO|2DUOX|2DUP|2DUR|2DURX|2DUT|2DUX|2E|2EX",
    "2FA|2FAP|2FAT|2FAX|2FI|2FIP|2FIT|2FIX|2FO|2FOP|2FOX|2FU|2FUP|2FUR|2FURX|2FUT|2FUX|2FY|2FYP",
    "2FYT|2FYX|2GA|2GAP|2GAT|2GAX|2GE|2GEP|2GET|2GEX|2GGA|2GGAP|2GGAT|2GGAX|2GGE|2GGEP|2GGET|2GGEX",
    "2GGI|2GGIE|2GGIEP|2GGIEX|2GGIT|2GGIX|2GGO|2GGOP|2GGOT|2GGOX|2GGU|2GGUO|2GGUOP|2GGUOT|2GGUOX",
    "2GGUP|2GGUR|2GGURX|2GGUT|2GGUX|2GI|2GIE|2GIEP|2GIET|2GIEX|2GIP|2GIT|2GIX|2GO|2GOP|2GOT|2GOX",
    "2GU|2GUO|2GUOP|2GUOT|2GUOX|2GUP|2GUR|2GURX|2GUT|2GUX|2HA|2HAP|2HAT|2HAX|2HE|2HEP|2HEX|2HIE",
    "2HIEX|2HIT|2HLA|2HLAP|2HLAT|2HLAX|2HLE|2HLEP|2HLEX|2HLI|2HLIE|2HLIEP|2HLIEX|2HLIP|2HLIT|2HLIX",
    "2HLO|2HLOP|2HLOX|2HLU|2HLUO|2HLUOP|2HLUOX|2HLUP|2HLUR|2HLURX|2HLUT|2HLUX|2HLY|2HLYP|2HLYR",
    "2HLYRX|2HLYT|2HLYX|2HMA|2HMAP|2HMAT|2HMAX|2HMI|2HMIE|2HMIEP|2HMIEX|2HMIP|2HMIT|2HMIX|2HMO",
    "2HMOP|2HMOT|2HMOX|2HMU|2HMUO|2HMUOP|2HMUOX|2HMUP|2HMUR|2HMURX|2HMUT|2HMUX|2HMY|2HMYP|2HMYR",
    "2HMYRX|2HMYX|2HNA|2HNAP|2HNAT|2HNAX|2HNE|2HNEP|2HNEX|2HNI|2HNIE|2HNIEP|2HNIET|2HNIEX|2HNIP",
    "2HNIT|2HNIX|2HNOP|2HNOT|2HNOX|2HNUO|2HNUOX|2HNUT|2HO|2HOP|2HOT|2HOX|2HUO|2HUOP|2HUOT|2HUOX",
    "2HXA|2HXAP|2HXAT|2HXAX|2HXE|2HXEP|2HXEX|2HXI|2HXIE|2HXIEP|2HXIET|2HXIEX|2HXIP|2HXIT|2HXIX",
    "2HXO|2HXOP|2HXOT|2HXOX|2HXUO|2HXUOP|2HXUOT|2HXUOX|2I|2IE|2IEP|2IET|2IEX|2IP|2IT",
    "2ITERATION MARK|2IX|2JI|2JIE|2JIEP|2JIET|2JIEX|2JIP|2JIT|2JIX|2JJI|2JJIE|2JJIEP|2JJIET|2JJIEX",
    "2JJIP|2JJIT|2JJIX|2JJO|2JJOP|2JJOT|2JJOX|2JJU|2JJUO|2JJUOP|2JJUOX|2JJUP|2JJUR|2JJURX|2JJUT",
    "2JJUX|2JJY|2JJYP|2JJYT|2JJYX|2JO|2JOP|2JOT|2JOX|2JU|2JUO|2JUOP|2JUOT|2JUOX|2JUP|2JUR|2JURX",
    "2JUT|2JUX|2JY|2JYP|2JYR|2JYRX|2JYT|2JYX|2KA|2KAP|2KAT|2KAX|2KE|2KEP|2KET|2KEX|2KI|2KIE|2KIEP",
    "2KIEX|2KIP|2KIT|2KIX|2KO|2KOP|2KOT|2KOX|2KU|2KUO|2KUOP|2KUOX|2KUP|2KUR|2KURX|2KUT|2KUX|2LA",
    "2LAP|2LAT|2LAX|2LE|2LEP|2LEX|2LI|2LIE|2LIEP|2LIET|2LIEX|2LIP|2LIT|2LIX|2LO|2LOP|2LOT|2LOX|2LU",
    "2LUO|2LUOP|2LUOT|2LUOX|2LUP|2LUR|2LURX|2LUT|2LUX|2LY|2LYP|2LYR|2LYRX|2LYT|2LYX|2MA|2MAP|2MAT",
    "2MAX|2ME|2MEX|2MGA|2MGAP|2MGAT|2MGAX|2MGE|2MGEP|2MGEX|2MGIE|2MGIEX|2MGO|2MGOP|2MGOT|2MGOX",
    "2MGU|2MGUO|2MGUOP|2MGUOX|2MGUP|2MGUR|2MGURX|2MGUT|2MGUX|2MI|2MIE|2MIEP|2MIEX|2MIP|2MIT|2MIX",
    "2MO|2MOP|2MOT|2MOX|2MU|2MUO|2MUOP|2MUOT|2MUOX|2MUP|2MUR|2MURX|2MUT|2MUX|2MY|2MYP|2MYT|2MYX",
    "2NA|2NAP|2NAX|2NBA|2NBAP|2NBAT|2NBAX|2NBI|2NBIE|2NBIEP|2NBIEX|2NBIP|2NBIT|2NBIX|2NBO|2NBOP",
    "2NBOT|2NBOX|2NBU|2NBUP|2NBUR|2NBURX|2NBUT|2NBUX|2NBY|2NBYP|2NBYR|2NBYRX|2NBYT|2NBYX|2NDA",
    "2NDAP|2NDAT|2NDAX|2NDE|2NDEP|2NDEX|2NDI|2NDIE|2NDIEX|2NDIP|2NDIT|2NDIX|2NDO|2NDOP|2NDOT|2NDOX",
    "2NDU|2NDUP|2NDUR|2NDURX|2NDUT|2NDUX|2NE|2NEP|2NEX|2NGA|2NGAP|2NGAT|2NGAX|2NGE|2NGEP|2NGEX",
    "2NGIE|2NGIEP|2NGIEX|2NGO|2NGOP|2NGOT|2NGOX|2NGUO|2NGUOT|2NGUOX|2NI|2NIE|2NIEP|2NIEX|2NIP|2NIT",
    "2NIX|2NJI|2NJIE|2NJIEP|2NJIET|2NJIEX|2NJIP|2NJIT|2NJIX|2NJO|2NJOP|2NJOT|2NJOX|2NJU|2NJUO",
    "2NJUOX|2NJUP|2NJUR|2NJURX|2NJUX|2NJY|2NJYP|2NJYR|2NJYRX|2NJYT|2NJYX|2NO|2NOP|2NOT|2NOX|2NRA",
    "2NRAP|2NRAT|2NRAX|2NRE|2NREP|2NRET|2NREX|2NRO|2NROP|2NROX|2NRU|2NRUP|2NRUR|2NRURX|2NRUT|2NRUX",
    "2NRY|2NRYP|2NRYR|2NRYRX|2NRYT|2NRYX|2NU|2NUO|2NUOP|2NUOX|2NUP|2NUR|2NURX|2NUT|2NUX|2NYI|2NYIE",
    "2NYIEP|2NYIET|2NYIEX|2NYIP|2NYIT|2NYIX|2NYO|2NYOP|2NYOT|2NYOX|2NYU|2NYUO|2NYUOP|2NYUOX|2NYUP",
    "2NYUT|2NYUX|2NZA|2NZAP|2NZAT|2NZAX|2NZE|2NZEX|2NZI|2NZIE|2NZIEP|2NZIEX|2NZIP|2NZIT|2NZIX",
    "2NZOP|2NZOX|2NZU|2NZUO|2NZUOX|2NZUP|2NZUR|2NZURX|2NZUX|2NZY|2NZYP|2NZYR|2NZYRX|2NZYT|2NZYX|2O",
    "2OP|2OT|2OX|2PA|2PAP|2PAT|2PAX|2PI|2PIE|2PIEP|2PIEX|2PIP|2PIT|2PIX|2PO|2POP|2POT|2POX|2PU",
    "2PUO|2PUOP|2PUOX|2PUP|2PUR|2PURX|2PUT|2PUX|2PY|2PYP|2PYR|2PYRX|2PYT|2PYX|2QI|2QIE|2QIEP|2QIET",
    "2QIEX|2QIP|2QIT|2QIX|2QO|2QOP|2QOT|2QOX|2QU|2QUO|2QUOP|2QUOT|2QUOX|2QUP|2QUR|2QURX|2QUT|2QUX",
    "2QY|2QYP|2QYR|2QYRX|2QYT|2QYX|2RA|2RAP|2RAT|2RAX|2RE|2REP|2REX|2RO|2ROP|2ROT|2ROX|2RRA|2RRAX",
    "2RRE|2RREP|2RRET|2RREX|2RRO|2RROP|2RROT|2RROX|2RRU|2RRUO|2RRUOX|2RRUP|2RRUR|2RRURX|2RRUT",
    "2RRUX|2RRY|2RRYP|2RRYR|2RRYRX|2RRYT|2RRYX|2RU|2RUO|2RUOP|2RUOX|2RUP|2RUR|2RURX|2RUT|2RUX|2RY",
    "2RYP|2RYR|2RYRX|2RYT|2RYX|2SA|2SAP|2SAT|2SAX|2SE|2SEP|2SEX|2SHA|2SHAP|2SHAT|2SHAX|2SHE|2SHEP",
    "2SHET|2SHEX|2SHO|2SHOP|2SHOT|2SHOX|2SHU|2SHUO|2SHUOP|2SHUOX|2SHUP|2SHUR|2SHURX|2SHUT|2SHUX",
    "2SHY|2SHYP|2SHYR|2SHYRX|2SHYT|2SHYX|2SI|2SIE|2SIEP|2SIEX|2SIP|2SIT|2SIX|2SO|2SOP|2SOT|2SOX",
    "2SSA|2SSAP|2SSAT|2SSAX|2SSE|2SSEP|2SSEX|2SSI|2SSIE|2SSIEP|2SSIEX|2SSIP|2SSIT|2SSIX|2SSO|2SSOP",
    "2SSOT|2SSOX|2SSU|2SSUP|2SSUT|2SSUX|2SSY|2SSYP|2SSYR|2SSYRX|2SSYT|2SSYX|2SU|2SUO|2SUOP|2SUOX",
    "2SUP|2SUR|2SURX|2SUT|2SUX|2SY|2SYP|2SYR|2SYRX|2SYT|2SYX|2TA|2TAP|2TAT|2TAX|2TE|2TEP|2TEX|2TI",
    "2TIE|2TIEP|2TIEX|2TIP|2TIT|2TIX|2TO|2TOP|2TOT|2TOX|2TU|2TUO|2TUOP|2TUOT|2TUOX|2TUP|2TUR|2TURX",
    "2TUT|2TUX|2UO|2UOP|2UOX|2VA|2VAP|2VAT|2VAX|2VEP|2VEX|2VI|2VIE|2VIEP|2VIET|2VIEX|2VIP|2VIT",
    "2VIX|2VO|2VOP|2VOT|2VOX|2VU|2VUP|2VUR|2VURX|2VUT|2VUX|2VY|2VYP|2VYR|2VYRX|2VYT|2VYX|2WA|2WAP",
    "2WAT|2WAX|2WE|2WEP|2WEX|2WO|2WOP|2WOX|2WU|2WUO|2WUOP|2WUOX|2XI|2XIE|2XIEP|2XIET|2XIEX|2XIP",
    "2XIT|2XIX|2XO|2XOP|2XOT|2XOX|2XUO|2XUOX|2XY|2XYP|2XYR|2XYRX|2XYT|2XYX|2YI|2YIE|2YIEP|2YIET",
    "2YIEX|2YIP|2YIT|2YIX|2YO|2YOP|2YOT|2YOX|2YU|2YUO|2YUOP|2YUOT|2YUOX|2YUP|2YUR|2YURX|2YUT|2YUX",
    "2YY|2YYP|2YYR|2YYRX|2YYT|2YYX|2ZA|2ZAP|2ZAT|2ZAX|2ZE|2ZEP|2ZEX|2ZHA|2ZHAP|2ZHAT|2ZHAX|2ZHE",
    "2ZHEP|2ZHET|2ZHEX|2ZHO|2ZHOP|2ZHOT|2ZHOX|2ZHU|2ZHUO|2ZHUOP|2ZHUOX|2ZHUP|2ZHUR|2ZHURX|2ZHUT",
    "2ZHUX|2ZHY|2ZHYP|2ZHYR|2ZHYRX|2ZHYT|2ZHYX|2ZI|2ZIE|2ZIEP|2ZIEX|2ZIP|2ZIT|2ZIX|2ZO|2ZOP|2ZOT",
    "2ZOX|2ZU|2ZUO|2ZUOP|2ZUOX|2ZUP|2ZUR|2ZURX|2ZUT|2ZUX|2ZY|2ZYP|2ZYR|2ZYRX|2ZYT|2ZYX|2ZZA|2ZZAP",
    "2ZZAT|2ZZAX|2ZZE|2ZZEP|2ZZEX|2ZZI|2ZZIE|2ZZIEP|2ZZIET|2ZZIEX|2ZZIP|2ZZIT|2ZZIX|2ZZO|2ZZOP",
    "2ZZOX|2ZZU|2ZZUP|2ZZUR|2ZZURX|2ZZUX|2ZZY|2ZZYP|2ZZYR|2ZZYRX|2ZZYT|2ZZYX"]

end Casebook.Text.NameTable
