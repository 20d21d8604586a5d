/-!
# Names of African characters

Ethiopic, Vai, Bamum, Tifinagh and other letters of Africa.
-/

namespace Casebook.Text.NameTable

/-- The names, in the form of a table of names. -/
def africa : List String :=
  ["0ADLAM ALIF LENGTHENER|1CAPITAL LETTER ALIF|3BA|3BHE|3CHI|3DAALI|3DHA|3E|3FA|3GA|3GBE|3HA|3I",
    "3JIIM|3KAF|3KHA|3KPO|3LAAM|3MIIM|3NHA|3NUN|3NYA|3O|3PE|3QAAF|3RA|3SHA|3SINNYIIYHE|3TU|3U|3VA",
    "3WAW|3YA|3YHE|3ZAL|1CONSONANT MODIFIER|1DIGIT EIGHT|2FIVE|2FOUR|2NINE|2ONE|2SEVEN|2SIX|2THREE",
    "2TWO|2ZERO|1GEMINATE CONSONANT MODIFIER|1GEMINATION MARK|1HAMZA|1INITIAL EXCLAMATION MARK",
    "2QUESTION MARK|1NASALIZATION MARK|1NUKTA|1SMALL LETTER ALIF|3BA|3BHE|3CHI|3DAALI|3DHA|3E|3FA",
    "3GA|3GBE|3HA|3I|3JIIM|3KAF|3KHA|3KPO|3LAAM|3MIIM|3NHA|3NUN|3NYA|3O|3PE|3QAAF|3RA|3SHA",
    "3SINNYIIYHE|3TU|3U|3VA|3WAW|3YA|3YHE|3ZAL|1VOWEL LENGTHENER|0BAMUM COLON",
    "1COMBINING MARK KOQNDON|3TUKWENTIS|1COMMA|1FULL STOP|1LETTER A|2EE|2FAAMAE|2FEE|2FOM|2FU|2I",
    "2KA|2KEN|2KET|2KEUX|2KI|2KO|2KOGHOM|2KOVUU|2KPA|2KU|2KYEE|2LA|2LEEEE|2LI|2LOQ|2LU|2M|2MA",
    "2MBAA|2MBEN|2MEEEE|2MEN|2MI|2MO|2MU|2NA|2NDAA|2NGA|2NGGA|2NGKWAEN|2NI|2NJAEM|2NJEE|2NJUAE",
    "2NSHA|2NTEE|2NTUU|2NU|2NUAE|2NYI|2O|2PA|2PEE|2PEUX|2PHASE-A FIRI|3GBIEE FON|3GHEUAEGHEUAE",
    "3GHEUAERAE|3KAFA|3KAQ|3KET|3KEUKEUTNDA|3KPOQ|3KUOQ|3LAPAQ|3LET KUT|3LOMMAE|3LU|3LUAEP",
    "3MAEKEUP|3MAEM|3MAEMBGBIEE|3MAEMKPEN|3MAEMVEUX|3MAENYI|3MAESI|3MANSUAE|3MAP PIEET|3MBANYI",
    "3MBAQ|3MEUNJOMNDEUQ|3MGBASA|3MON NGGEUAET|3MOOMEUT|3MOOMPUQ|3MVEUAENGAM|3NAA MFON|3NAQ",
    "3NDA LEERAEWA|3NDAANGGEUAET|3NEN|3NGANGU|3NGGEN|3NGKUE MFON|3NGKUENZEUM|3NIKA|3NJAM|3NKAARAE",
    "3NKINDI|3NSHA|3NSHIEE|3NTAP|4MFAA|4NTAA|3NTOQPEN|3NYET|3NYI|3NYIT MONGKEUAEQ|3NZA MFON",
    "3NZUN MEUT|3PA LEERAEWA|3PAAM|3PAARAE|3PAMSHAE|3PASHAE|3PET|3PON MFON PIPAEMBA|5PIPAEMGBIEE",
    "4PA NJI PIPAEMBA|6PIPAEMGBIEE|3PUP|3ROM|3SEUNYAM|3SHINDA PA NJI|3SHIRAE|3SHOQ NSHUT YUM",
    "3SHUENSHUET|3SHUM|3SISA|3SONJAM|3SOQ|3SOT|3SUU|3TEUAEN|3TEUTEUWEN|3TITA MFON|3TU MAEMBA",
    "3TUAEP|3U YUQ NAE|3UNKNOWN|3VEE|2PHASE-B FEE|3FEUX|3GHEUGHEN|3GHEUGHEUAEM|3KAM|3KEUAEM",
    "3KEUPUQ|3KEUYEUX|3KIEEM|3KIQ|3LAANAE|3LAM NSHUT NYAM|3LET|3LOM NTEUM|3MA|4NJEUAENA|4NJUQA",
    "3MBA MAELEE|3MBAARAE|3MBEURI|3MBIT MBAAKET|3MBUOQ|3MEUQ|3MEUT NGGEET|3MFIYAQ|3MFON TEUAEQ",
    "3MONTIEEN|3NDU NJAA|3NGGAAM|3NGGEU MBU|3NGGUOQ|4LARGE|3NGKINDI MVOP|3NGOM|3NSEN|3NSHUET",
    "3NTIEE SHEUOQ|3NYAEMAE|3NYI NTEUM|3PARUM|3PEESHI|3PIT|3PUNGAAM|3SAKEUAE|3SET TU|3SHET NJAQ",
    "3SHEUAEQTU|3SIEE|3SUE|3TAAM|3TU MAEMGBIEE|4NSIEE|3VEUM|3WUAET|3YAFU LEERAEWA|3YEURAE",
    "2PHASE-C BUNG|3FUE|3GBAYI|3GHAP|3GHARAE|3KAA|3KEN FATIGUE|4LAW|3KET|3KEUKAQ|3KEUM|3KEUSEUX",
    "3KEUSHEUAEP|3KPARAQ|3KUOP NKAARAE|3KUT|3LAM|3LAP|3LIQ|3LU|3MA KEUAERI|4NSIEE|3MAEMBA|3MAESI",
    "3MBAA CABBAGE-TREE|4PICKET|3MBANYI|3MBEEKEET|3MBERAE|3MBEUM|3MBEUX|3MBI|3MBIRIEEN|3MBIT",
    "3MBUAEM|3MBUE|3MGBASAQ|3MIEE|3MUAE|3NANSANAQ|3NAQ|3NDAM|3NDAP|3NDEUAEREE|3NDEUT|3NDIDA",
    "3NDOMBU|3NGAQ|3NGGEN|3NGGU|3NGGUAEN NYAM|3NGGUEET|3NGGUM|3NGGUON|3NGKAQ|3NGKUE MAEMBA|3NGOM",
    "3NJAEM|3NJAM|3NJEEEE|3NJEUX|3NJUEQ|3NSA|3NSEUAEN|3NSHAQ|3NSOM|3NSUN|3NSUOT NGOM|3NTAA|3NTEN",
    "3NTEUNGBA|3NTU MBIT|3NYIR MKPARAQ MEUN|3NZA|3NZEUM|3PEN|3PIN|3PIRIEEN|3RU|3SETFON|3SEUX|3SHIQ",
    "3SHUEQ|3SUAET|3TAASHAE|3TET|3TEUTEUX|3TITA YUE|3TITUAEP|3VEUAEPEN|3VEUX|3WANGKUOQ|3WUP|3YAA",
    "3YEUQ|3YU MUOMAE|3YUM|3YUWOQ|2PHASE-D FAA|3FEUFEUAET|3GHAA|3GHEUAE|3KET|3KEUAETMEUN|3KEUM",
    "3KEUOT MBUAE|3KEUP|3KU|3KUN|3KUOM|3KUQ|3KWAET|3KYEE|3LEEEE|3LET|3LEUAEP|3LEUM|3LIEE|3LOQ|3LUM",
    "3M|3MAENJET|3MALEERI|3MBAA|4SEVEN|3MBUO|3MEEEE|3MEUN|3MEUT|3MFEUAE|3MFEUT|3MFIEE|3MFO|3MFON",
    "3MGBEUN|3MGBIEE|3MGBOFUM|3MONI|3MU|3MVOP|3NDAM|3NDEE|3NDEUX|3NDON|3NGGAAM|3NGGAAMAE|3NGGAP",
    "3NGGEUX|3NGGUOM|3NGGWAEN|3NGKAP|3NGKEUAEQ|3NGKEURI|3NGKIEE|3NGKUN|3NGKYEE|3NI|3NJAP|3NJEUAEM",
    "3NJEUT|3NJI|3NJIEE|3NJUEQ|3NSHEE|3NSHUT|3NSIEEP|3NSIEET|3NSUM|3NTEE|3NTEUM|3NTUU|3NU|3NYAM",
    "3NYET|3NYI|3NYUE|3PAP|3PEE|3PEUTAE|3PIP|3PUQ|3PUUT|3RAEM|3REN MUCH|4OLD|3RII|3SAP|3SAQ",
    "3SEUAEQ|3SHEE|3SHEUAE|3SHEUX|3SHII|3SHOQ|3SHU|3SOT|3SUAE|3SUE|3SUU|3TAE|3TEEEE|3TEUAEN|3TEUN",
    "3TEUT|3TI|3TOQ|3TU|3TUOT|3WAP|3WUAEN|3YAEMMAE|3YEN|3YUOM|3YUOP|3YUWOQ|2PHASE-E A|3FA|3FAQ",
    "3FEE|3FOM|3FU CALL|4I|4REMEDY|3FUE|3FUET|3GBET|3GBEUX|3GHAAMAE|3GHET|3GHEUAE|3GHEUN|3GHEUX",
    "3GHOM|3I|3KET|3KEUAE|3KEUX|3KI|3KO|3KPEUX|3KUET|3KUOP|3KUT|3LAAM|3LAP|3LAQ|3LEUAEM|3LOM|3LOON",
    "3LOOT|3LOQ|3LU|3MA|3MAE|3MAEM|3MAP|3MAQ|3MBEE|3MBEUM|3MEN|3MFEUQ|3MGBA|3MGBEN|3MI|3MIEE|3MON",
    "3MUAE|3MVI|3NA|3NAE|3NDAA MY HOUSE|4SOFTNESS|3NDAP|3NDIAQ|3NDIQ|3NDUN|3NGA|3NGEUREUT|3NGGEEEE",
    "3NGGEUAE|3NGGEUAET|3NGGUAESHAE NYAM|3NGGUP|3NGGURAE|3NGKA|3NGKAAMI|3NGKEUAEM|3NGKEUX|3NGKUM",
    "3NGKUP|3NGOP|3NGOQ|3NGUAE|3NGUAET|3NJAEMLI|3NJEE|4EPOCH|3NJEUX|3NKOM|3NSHIEE|3NSHUE|3NSHUOP",
    "3NTAP|3NTUM|3NYI BETWEEN|4CLEAVER|3NZAQ|3NZUQ|3O|3PA PEOPLE|4PLURAL|3PAA|3PAAM|3PEEM|3PEUT",
    "3PEUX|3PI|3PIEEQ|3PIET|3PO|3POON|3PU|3PUAE|3PUAQ|3PUE|3PUM|3RAE|3RAQ|3REUX|3RIMGBA|3SAA|3SEE",
    "3SET|3SHEUAEQ|3SHIQ|3SHO|3SHOQ|3SOM|3SUAEN|3TAA|3TAAQ|3TAEN NTEUM|3TAM|3TAQ|3TEN|3TEU|3TEUAEQ",
    "3TOO|3TOON|3TOQ|3TUAE|3TUM|3TUMAE|3VEE|3VEUAE|3VOM|3WEUX|3WUE|3WUO|3YAP|3YEUAE|3YEUAET|3YEUM",
    "3YEUX|3YIEE|3YIT|3YOQ COVER|4SWIMMING|3YUAEN|3YUEQ|3YUN|3YUQ|2PHASE-F EE|3FOM|3KA|3KEN|3KET",
    "3KO|3KPA|3KU|3KYEE|3LA|3LI|3LOQ|3M|3MA|3MBAA|3MBEN|3MEEEE|3MO|3NDAA|3NGGA|3NGKWAEN|3NI|3NJAEM",
    "3NJUAE|3NSHA|3NTEE|3NU|3NUAE|3NYI|3PEE|3PEUX|3PUAE|3REE|3REN|3REUX|3RIEE|3RII|3RU|3SAMBA",
    "3SEUX|3SHII|3SHO|3SHU|3SI|3SUU|3TAA|3TAE|3TET|3U|3VUEQ|3WA|3WUE|3YA|3YOQ|2PI|2PUAE|2PUE|2RAE",
    "2REE|2REN|2REUX|2RIEE|2RII|2RU|2SAMBA|2SEUX|2SHEUX|2SHII|2SHO|2SHU|2SI|2SUU|2TAA|2TAE|2TEN",
    "2TET|2TI|2U|2WA|2WUE|2YA|2YOQ|2YUQ|1NJAEMLI|1QUESTION MARK|1SEMICOLON",
    "0BASSA VAH COMBINING HIGH TONE|3HIGH-LOW TONE|3LOW TONE|3LOW-MID TONE|3MID TONE|2FULL STOP",
    "2LETTER A|3BA|3CE|3DHII|3DO|3E|3EE|3ENNI|3FA|3GAH|3GBU|3HWAH|3I|3JO|3KA|3KPAH|3MBE|3O|3OO|3PA",
    "3SE|3TO|3U|3UWU|3VU|3WA|3WADDA|3YEIN|3YIE|3ZO|0ETHIOPIC COLON",
    "1COMBINING GEMINATION AND VOWEL LENGTH MARK|3MARK|2VOWEL LENGTH MARK|1COMMA|1DIGIT EIGHT",
    "2FIVE|2FOUR|2NINE|2ONE|2SEVEN|2SIX|2THREE|2TWO|1FULL STOP|1NUMBER EIGHTY|2FIFTY|2FORTY",
    "2HUNDRED|2NINETY|2SEVENTY|2SIXTY|2TEN|3THOUSAND|2THIRTY|2TWENTY|1PARAGRAPH SEPARATOR",
    "1PREFACE COLON|1QUESTION MARK|1SECTION MARK|1SEMICOLON|1SYLLABLE BA|2BAA|2BBA|2BBAA|2BBE",
    "2BBEE|2BBI|2BBO|2BBU|2BE|2BEE|2BI|2BO|2BOA|2BU|2BWA|2BWE|2BWEE|2BWI|2CA|2CAA|2CCA|2CCAA|2CCE",
    "2CCEE|2CCHA|2CCHAA|2CCHE|2CCHEE|2CCHHA|2CCHHAA|2CCHHE|2CCHHEE|2CCHHI|2CCHHO|2CCHHU|2CCHI",
    "2CCHO|2CCHU|2CCI|2CCO|2CCU|2CE|2CEE|2CHA|2CHAA|2CHE|2CHEE|2CHI|2CHO|2CHOA|2CHU|2CHWA|2CI|2CO",
    "2COA|2CU|2CWA|2DA|2DAA|2DDA|2DDAA|2DDE|2DDEE|2DDHAA|2DDHE|2DDHEE|2DDHI|2DDHO|2DDHU|2DDI|2DDO",
    "2DDOA|2DDU|2DDWA|2DE|2DEE|2DI|2DO|2DOA|2DU|2DWA|2DZAA|2DZE|2DZEE|2DZI|2DZO|2DZU|2FA|2FAA|2FE",
    "2FEE|2FI|2FO|2FU|2FWA|2FWE|2FWEE|2FWI|2FYA|2GA|2GAA|2GE|2GEE|2GGA|2GGAA|2GGE|2GGEE|2GGI|2GGO",
    "2GGU|2GGWA|2GGWAA|2GGWE|2GGWEE|2GGWI|2GI|2GLOTTAL A|3AA|3E|3EE|3I|3O|3OA|3U|3WA|2GO|2GOA|2GU",
    "2GURAGE BWEE|3BWI|3FWEE|3FWI|3GWE|3GWEE|3GWI|3HHWA|3KWE|3KWEE|3KWI|3MWEE|3MWI|3PWEE|3PWI|3QWE",
    "3QWEE|3QWI|2GWA|2GWAA|2GWE|2GWEE|2GWI|2GYA|2GYAA|2GYE|2GYEE|2GYI|2GYO|2GYU|2HA|2HAA|2HE|2HEE",
    "2HHA|2HHAA|2HHE|2HHEE|2HHI|2HHO|2HHU|2HHWA|2HHWE|2HHWEE|2HHWI|2HHYA|2HHYAA|2HHYE|2HHYEE|2HHYI",
    "2HHYO|2HHYU|2HI|2HO|2HOA|2HU|2JA|2JAA|2JE|2JEE|2JI|2JO|2JOA|2JU|2JWA|2KA|2KAA|2KE|2KEE|2KI",
    "2KO|2KOA|2KU|2KWA|2KWAA|2KWE|2KWEE|2KWI|2KXA|2KXAA|2KXE|2KXEE|2KXI|2KXO|2KXU|2KXWA|2KXWAA",
    "2KXWE|2KXWEE|2KXWI|2KYA|2KYAA|2KYE|2KYEE|2KYI|2KYO|2KYU|2LA|2LAA|2LE|2LEE|2LI|2LO|2LOA|2LU",
    "2LWA|2MA|2MAA|2ME|2MEE|2MI|2MO|2MOA|2MU|2MWA|2MWE|2MWEE|2MWI|2MYA|2NA|2NAA|2NE|2NEE|2NI|2NO",
    "2NOA|2NU|2NWA|2NYA|2NYAA|2NYE|2NYEE|2NYI|2NYO|2NYOA|2NYU|2NYWA|2PA|2PAA|2PE|2PEE|2PHA|2PHAA",
    "2PHARYNGEAL A|3AA|3E|3EE|3I|3O|3U|2PHE|2PHEE|2PHI|2PHO|2PHOA|2PHU|2PHWA|2PI|2PO|2POA|2PU|2PWA",
    "2PWE|2PWEE|2PWI|2QA|2QAA|2QE|2QEE|2QHA|2QHAA|2QHE|2QHEE|2QHI|2QHO|2QHU|2QHWA|2QHWAA|2QHWE",
    "2QHWEE|2QHWI|2QI|2QO|2QOA|2QU|2QWA|2QWAA|2QWE|2QWEE|2QWI|2QYA|2QYAA|2QYE|2QYEE|2QYI|2QYO|2QYU",
    "2RA|2RAA|2RE|2REE|2RI|2RO|2ROA|2RU|2RWA|2RYA|2SA|2SAA|2SE|2SEBATBEIT BWA|3FWA|3MWA|3PWA|2SEE",
    "2SHA|2SHAA|2SHE|2SHEE|2SHI|2SHO|2SHOA|2SHU|2SHWA|2SI|2SO|2SOA|2SSA|2SSAA|2SSE|2SSEE|2SSI|2SSO",
    "2SSU|2SU|2SWA|2SZA|2SZAA|2SZE|2SZEE|2SZI|2SZO|2SZU|2SZWA|2TA|2TAA|2TE|2TEE|2THA|2THAA|2THE",
    "2THEE|2THI|2THO|2THOA|2THU|2THWA|2TI|2TO|2TOA|2TSA|2TSAA|2TSE|2TSEE|2TSI|2TSO|2TSU|2TSWA",
    "2TTHAA|2TTHE|2TTHEE|2TTHI|2TTHO|2TTHU|2TU|2TWA|2TZA|2TZAA|2TZE|2TZEE|2TZI|2TZO|2TZOA|2TZU|2VA",
    "2VAA|2VE|2VEE|2VI|2VO|2VU|2VWA|2WA|2WAA|2WE|2WEE|2WI|2WO|2WOA|2WU|2XA|2XAA|2XE|2XEE|2XI|2XO",
    "2XOA|2XU|2XWA|2XWAA|2XWE|2XWEE|2XWI|2XYA|2XYAA|2XYE|2XYEE|2XYI|2XYO|2XYU|2YA|2YAA|2YE|2YEE",
    "2YI|2YO|2YOA|2YU|2ZA|2ZAA|2ZE|2ZEE|2ZHA|2ZHAA|2ZHE|2ZHEE|2ZHI|2ZHO|2ZHU|2ZHWA|2ZI|2ZO|2ZOA",
    "2ZU|2ZWA|2ZZA|2ZZAA|2ZZE|2ZZEE|2ZZI|2ZZO|2ZZU|1TONAL MARK CHIRET|3DERET|3DERET-HIDET|3DIFAT",
    "3HIDET|3KENAT|3KURT|3RIKRIK|3SHORT RIKRIK|3YIZET|1WORDSPACE|0MEDEFAIDRIN CAPITAL LETTER A|3AI",
    "3ATIU|3B|3C|3D|3E|3F|3G|3H|3HP|3I|3J|3K|3KP|3L|3M|3N|3NG|3NY|3O|3OE|3P|3Q|3R|3S|3T|3U|3V|3W",
    "3X|3Y|3YU|3Z|1COMMA|1DIGIT EIGHT|2FIVE|2FOUR|2NINE|2ONE|3ALTERNATE FORM|2SEVEN|2SIX|2THREE",
    "3ALTERNATE FORM|2TWO|3ALTERNATE FORM|2ZERO|1EXCLAMATION OH|1FULL STOP|1NUMBER EIGHTEEN",
    "2ELEVEN|2FIFTEEN|2FOURTEEN|2NINETEEN|2SEVENTEEN|2SIXTEEN|2TEN|2THIRTEEN|2TWELVE",
    "1SMALL LETTER A|3AI|3ATIU|3B|3C|3D|3E|3F|3G|3H|3HP|3I|3J|3K|3KP|3L|3M|3N|3NG|3NY|3O|3OE|3P|3Q",
    "3R|3S|3T|3U|3V|3W|3X|3Y|3YU|3Z|1SYMBOL AIVA|0MENDE KIKAKUI COMBINING NUMBER HUNDRED THOUSANDS",
    "4HUNDREDS|4MILLIONS|4TEENS|4TEN THOUSANDS|4TENS|4THOUSANDS|2DIGIT EIGHT|3FIVE|3FOUR|3NINE",
    "3ONE|3SEVEN|3SIX|3THREE|3TWO|2SYLLABLE M001 KI|3M002 KA|3M003 KU|3M004 WI|3M005 WA|3M006 WU",
    "3M007 MIN|3M008 MAN|3M009 MUN|3M010 BI|3M011 BA|3M012 BU|3M013 I|3M014 A|3M015 U|3M016 DI",
    "3M017 DA|3M018 DU|3M019 SI|3M020 SA|3M021 SU|3M022 TI|3M023 TA|3M024 TU|3M025 LI|3M026 LA",
    "3M027 LU|3M028 JI|3M029 JA|3M030 JU|3M031 YI|3M032 YA|3M033 YU|3M034 FI|3M035 FA|3M036 FU",
    "3M037 NIN|3M038 NAN|3M039 NUN|3M040 HEE|3M041 HA|3M042 HOO|3M043 NGGA|3M044 KPEE|3M045 WO",
    "3M046 HUAN|3M047 MBEE|3M048 KO|3M049 WVA|3M050 PU|3M051 PE|3M052 HEN|3M053 HIN|3M054 LOO",
    "3M055 TE|3M056 GBA|3M057 NGON|3M058 NYAN|3M059 MEN|3M060 NYON|3M061 WVI|3M062 MBA|3M063 JO",
    "3M064 NDO|3M065 KEE|3M066 PO|3M067 NDOO|3M068 PI|3M069 TO|3M070 GBO|3M071 GBOO|3M072 MBE",
    "3M073 LE|3M074 KPU|3M075 FE|3M076 KOO|3M077 VO|3M078 FEE|3M079 SO|3M080 YE|3M081 PEE",
    "3M082 NGGU|3M083 HEEI|3M084 LEE|3M085 VE|3M086 LONG NGGE|3M087 HUN|3M088 FO|3M089 DEE",
    "3M090 NGGI|3M091 TEE|3M092 KPA|3M093 GBEE|3M094 MON|3M095 KE|3M096 HE|3M097 BE|3M098 NYEN",
    "3M099 PA|3M100 E|3M101 FAN|3M102 POO|3M103 BOO|3M104 TOO|3M105 LONG MBOO|3M106 LONG NGGOO",
    "3M107 GBE|3M108 KPE|3M109 YEE|3M110 LONG LE|3M111 GA|3M112 KPOO|3M113 JE|3M114 WOO",
    "3M115 NGGEE|3M116 SE|3M117 NEN|3M118 WE|3M119 NDE|3M120 NGGO|3M121 YO|3M122 MBU|3M123 NDI",
    "3M124 GBI|3M125 NDU|3M126 WEE|3M127 NGGUA|3M128 HOOU|3M129 NDA|3M130 HAN|3M131 IN|3M132 KPI",
    "3M133 FOO|3M134 NJOO|3M135 IN|3M136 SOO|3M137 EI|3M138 BO|3M139 WVE|3M140 HO|3M141 YOO",
    "3M142 LONG MBO|3M143 WEI|3M144 VOO|3M145 MBI|3M146 NGGE|3M147 O|3M148 GBU|3M149 NJEE",
    "3M150 BEE|3M151 VU|3M152 NJA|3M153 LO|3M154 MUAN|3M155 GI|3M156 NGGOO|3M157 JEE|3M158 KPO",
    "3M159 NGGAA|3M160 JOO|3M161 LONG MBE|3M162 SEE|3M163 EE|3M164 NYIN|3M165 OO|3M166 GUEI",
    "3M167 GUAN|3M168 GU|3M169 NON|3M170 NYUN|3M171 RA|3M172 MBOO|3M173 VEE|3M174 MBO",
    "3M175 LONG JO|3M176 HI|3M177 NGUAN|3M178 EN|3M179 KUA|3M180 DOO|3M181 DO|3M182 VI",
    "3M183 LONG NGGO|3M184 NGEN|3M185 VA|3M186 HU|3M187 MBUU|3M188 MBEE|3M189 MUEN|3M190 GEE",
    "3M191 NDEE|3M192 NJU|3M193 HON|3M194 WUI|3M195 AN|3M196 SIA|3M197 FUA",
    "0NKO COMBINING DOUBLE DOT ABOVE|2LONG DESCENDING TONE|3HIGH TONE|3LOW TONE|3RISING TONE",
    "2NASALIZATION MARK|2SHORT HIGH TONE|3LOW TONE|3RISING TONE|1COMMA|1DANTAYALAN|1DIGIT EIGHT",
    "2FIVE|2FOUR|2NINE|2ONE|2SEVEN|2SIX|2THREE|2TWO|2ZERO|1DOROME SIGN|1EXCLAMATION MARK",
    "1HIGH TONE APOSTROPHE|1LAJANYALAN|1LETTER A|2BA|2CHA|2DA|2DAGBASINNA|2E|2EE|2FA|2GBA|2HA|2I",
    "2JA|2JONA CHA|3JA|3RA|2KA|2LA|2MA|2N|2NA|3WOLOSO|2NYA|3WOLOSO|2O|2OO|2PA|2RA|2RRA|2SA|2TA|2U",
    "2WA|2YA|1LOW TONE APOSTROPHE|1SYMBOL GBAKURUNEN|2OO DENNEN|1TAMAN SIGN|0OSMANYA DIGIT EIGHT",
    "2FIVE|2FOUR|2NINE|2ONE|2SEVEN|2SIX|2THREE|2TWO|2ZERO|1LETTER A|2AA|2ALEF|2BA|2CAYN|2DEEL|2DHA",
    "2E|2EE|2FA|2GA|2HA|2I|2JA|2KAAF|2KHA|2LAAN|2MIIN|2NUUN|2O|2OO|2QAAF|2RA|2SA|2SHIIN|2TA|2U",
    "2WAW|2XA|2YA|0TIFINAGH CONSONANT JOINER|1LETTER AHAGGAR YAZH|2AYER YAGH|2BERBER ACADEMY YAH",
    "4YAJ|2TAWELLEMET YAZ|2TUAREG YAGH|3YAGN|3YAH|3YAK|3YAKH|3YANG|3YAQ|3YAZH|2YA|2YAA|2YAB|2YABH",
    "2YACH|2YAD|2YADD|2YADDH|2YADH|2YAF|2YAG|2YAGH|2YAGHH|2YAH|2YAHH|2YAJ|2YAK|2YAKH|2YAKHH|2YAL",
    "2YAM|2YAN|2YAP|2YAQ|2YAR|2YARR|2YAS|2YASH|2YASS|2YAT|2YATH|2YATT|2YAV|2YAW|2YAY|2YAZ|2YAZH",
    "2YAZZ|2YE|2YEY|2YI|2YO|2YU|1MODIFIER LETTER LABIALIZATION MARK|1SEPARATOR MARK|0VAI COMMA",
    "1DIGIT EIGHT|2FIVE|2FOUR|2NINE|2ONE|2SEVEN|2SIX|2THREE|2TWO|2ZERO|1FULL STOP|1QUESTION MARK",
    "1SYLLABLE A|2AN|2BA|2BE|2BEE|2BHA|2BHE|2BHEE|2BHI|2BHO|2BHOO|2BHU|2BI|2BO|2BOO|2BU|2CA|2CE",
    "2CEE|2CI|2CO|2COO|2CU|2DA|2DE|2DEE|2DHA|2DHE|2DHEE|2DHHA|2DHHE|2DHHEE|2DHHI|2DHHO|2DHHOO",
    "2DHHU|2DHI|2DHO|2DHOO|2DHU|2DI|2DO|2DOO|2DU|2E|2EE|2EEN|2EN|2FA|2FE|2FEE|2FI|2FO|2FOO|2FU|2GA",
    "2GBA|2GBE|2GBEE|2GBEN|2GBI|2GBO|2GBON|2GBOO|2GBU|2GE|2GEE|2GEN|2GI|2GO|2GOO|2GU|2HA|2HAN|2HE",
    "2HEE|2HEN|2HI|2HIN|2HO|2HON|2HOO|2HU|2HUN|2I|2IN|2JA|2JE|2JEE|2JI|2JO|2JOO|2JU|2KA|2KAN|2KE",
    "2KEE|2KI|2KO|2KOO|2KPA|2KPAN|2KPE|2KPEE|2KPEN|2KPI|2KPO|2KPOO|2KPU|2KU|2LA|2LE|2LEE",
    "2LENGTHENER|2LI|2LO|2LOO|2LU|2MA|2MBA|2MBE|2MBEE|2MBI|2MBO|2MBOO|2MBU|2ME|2MEE|2MGBA|2MGBE",
    "2MGBEE|2MGBI|2MGBO|2MGBOO|2MGBU|2MI|2MO|2MOO|2MU|2NA|2NDA|2NDE|2NDEE|2NDI|2NDO|2NDOLE DO|3FA",
    "3KA|3MA|3SOO|2NDOO|2NDU|2NE|2NEE|2NG|2NGAN|2NGEN|2NGGA|2NGGE|2NGGEE|2NGGEN|2NGGI|2NGGO|2NGGOO",
    "2NGGU|2NGON|2NI|2NJA|2NJE|2NJEE|2NJI|2NJO|2NJOO|2NJU|2NO|2NOO|2NU|2NYA|2NYE|2NYEE|2NYI|2NYO",
    "2NYOO|2NYU|2O|2ON|2OO|2OON|2PA|2PE|2PEE|2PI|2PO|2POO|2PU|2RA|2RE|2REE|2RI|2RO|2ROO|2RU|2SA",
    "2SE|2SEE|2SHA|2SHE|2SHEE|2SHI|2SHO|2SHOO|2SHU|2SI|2SO|2SOO|2SU|2TA|2TE|2TEE|2THA|2THE|2THEE",
    "2THI|2THO|2THOO|2THU|2TI|2TO|2TOO|2TU|2U|2UN|2VA|2VE|2VEE|2VI|2VO|2VOO|2VU|2WA|2WAN|2WE|2WEE",
    "2WEEN|2WEN|2WI|2WIN|2WO|2WON|2WOO|2WOON|2WU|2WUN|2YA|2YE|2YEE|2YI|2YO|2YOO|2YU|2ZA|2ZE|2ZEE",
    "2ZHA|2ZHE|2ZHEE|2ZHI|2ZHO|2ZHOO|2ZHU|2ZI|2ZO|2ZOO|2ZU|1SYMBOL BANG|2DANG|2DO-O|2DOONG|2FAA",
    "2FEENG|2JONG|2KEENG|2KUNG|2NII|2TAA|2TING|2TONG"]

end Casebook.Text.NameTable
