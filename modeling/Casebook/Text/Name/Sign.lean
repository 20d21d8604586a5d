/-!
# Names of signs

Punctuation, signs of sciences and arts, pictures, controls, and whatever belongs to no script.
-/

namespace Casebook.Text.NameTable

/-- The names, in the form of a table of names. -/
def sign : List String :=
  ["0ABACUS|0AC CURRENT|0ACCORDION|0ACCOUNT OF|0ACK|0ACKNOWLEDGE|0ACTIVATE ARABIC FORM SHAPING",
    "1SYMMETRIC SWAPPING|0ACUTE ANGLE|0ADDRESSED TO THE SUBJECT|0ADHESIVE BANDAGE|0ADI SHAKTI",
    "0ADMETOS|0ADMISSION TICKETS|0ADULT|0AERIAL TRAMWAY|0AIRPLANE|1ARRIVING|1DEPARTURE",
    "0AKTIESELSKAB|0ALARM CLOCK|0ALCHEMICAL SYMBOL FOR AIR|3ALEMBIC|3ALKALI|3ALKALI-2|3ALUM",
    "3AMALGAM|3ANTIMONY ORE|3AQUA REGIA|4REGIA-2|4VITAE|4VITAE-2|3AQUAFORTIS|3ARSENIC|3ASHES",
    "3AURIPIGMENT|3BATH OF MARY|5VAPOURS|3BISMUTH ORE|3BLACK SULFUR|3BORAX|3BORAX-2|3BORAX-3",
    "3BRICK|3CADUCEUS|3CALX|3CAPUT MORTUUM|3CINNABAR|3COPPER ANTIMONIATE|4ORE|3CROCUS OF COPPER",
    "5COPPER-2|5IRON|3CRUCIBLE|3CRUCIBLE-2|3CRUCIBLE-3|3CRUCIBLE-4|3CRUCIBLE-5|3DAY-NIGHT",
    "3DISSOLVE|3DISSOLVE-2|3DISTILL|3EARTH|3FIRE|3GOLD|3GUM|3HALF DRAM|4OUNCE|3HORSE DUNG|3HOUR",
    "3IRON ORE|4ORE-2|3IRON-COPPER ORE|3LEAD ORE|3LODESTONE|3MARCASITE|3MERCURY SUBLIMATE",
    "4SUBLIMATE-2|4SUBLIMATE-3|3MONTH|3NIGHT|3NITRE|3OIL|3PHILOSOPHERS SULFUR|3POT ASHES|3POWDER",
    "3POWDERED BRICK|3PRECIPITATE|3PURIFY|3PUTREFACTION|3QUICK LIME|3QUINTESSENCE|3REALGAR",
    "3REALGAR-2|3REGULUS|4OF ANTIMONY|5ANTIMONY-2|5IRON|3REGULUS-2|3REGULUS-3|3REGULUS-4|3RETORT",
    "3ROCK SALT|4SALT-2|3SAL-AMMONIAC|3SALT|4OF ANTIMONY|5COPPER ANTIMONIATE|3SCEPTER OF JOVE",
    "3SILVER|3SOAP|3SPIRIT|3STARRED TRIDENT|3STRATUM SUPER STRATUM|5STRATUM-2",
    "3SUBLIMATE OF ANTIMONY|5COPPER|5SALT OF ANTIMONY|7COPPER|3SUBLIMATION|3SULFUR|3TARTAR",
    "3TARTAR-2|3TIN ORE|3TINCTURE|3TRIDENT|3TUTTY|3URINE|3VERDIGRIS|3VINEGAR|4OF ANTIMONY",
    "3VINEGAR-2|3VINEGAR-3|3VITRIOL|3VITRIOL-2|3WATER|3WAX|0ALEF SYMBOL|0ALEMBIC|0ALERT",
    "0ALIEN MONSTER|0ALL AROUND-PROFILE|1EQUAL TO|0ALM|0ALMOST EQUAL OR EQUAL TO|2TO",
    "3WITH CIRCUMFLEX ACCENT|0ALTERNATE ONE-WAY LEFT WAY TRAFFIC|0ALTERNATIVE KEY SYMBOL",
    "0AMALGAMATION OR COPRODUCT|0AMBULANCE|0AMERICAN FOOTBALL|0AMPHORA|0ANATOMICAL HEART|0ANCHOR",
    "0AND WITH DOT|0ANGER SYMBOL|0ANGLE|1WITH S INSIDE|2UNDERBAR|0ANGRY FACE|0ANGSTROM SIGN",
    "0ANGUISHED FACE|0ANKH|0ANT|0ANTENNA WITH BARS|0ANTICLOCKWISE CLOSED CIRCLE ARROW",
    "1CONTOUR INTEGRAL|1DOWNWARDS AND UPWARDS OPEN CIRCLE ARROWS|1GAPPED CIRCLE ARROW|1INTEGRATION",
    "1OPEN CIRCLE ARROW|1TOP SEMICIRCLE ARROW|1TRIANGLE-HEADED BOTTOM U-SHAPED ARROW",
    "2LEFT U-SHAPED ARROW|2OPEN CIRCLE ARROW|2RIGHT U-SHAPED ARROW|2TOP U-SHAPED ARROW|0APC",
    "0APL FUNCTIONAL SYMBOL ALPHA|4UNDERBAR|3BACKSLASH BAR|3CIRCLE BACKSLASH|4DIAERESIS|4JOT|4STAR",
    "4STILE|4UNDERBAR|3COMMA BAR|3DEL DIAERESIS|4STILE|4TILDE|3DELTA STILE|4UNDERBAR",
    "3DIAMOND UNDERBAR|3DOWN CARET TILDE|4SHOE STILE|4TACK JOT|5UNDERBAR|3DOWNWARDS VANE",
    "3EPSILON UNDERBAR|3GREATER-THAN DIAERESIS|3I-BEAM|3IOTA|4UNDERBAR|3JOT DIAERESIS|4UNDERBAR",
    "3LEFT SHOE STILE|3LEFTWARDS VANE|3OMEGA|4UNDERBAR|3QUAD|4BACKSLASH|4CIRCLE|4COLON|4DEL|4DELTA",
    "4DIAMOND|4DIVIDE|4DOWN CARET|4DOWNWARDS ARROW|4EQUAL|4GREATER-THAN|4JOT|4LEFTWARDS ARROW",
    "4LESS-THAN|4NOT EQUAL|4QUESTION|4RIGHTWARDS ARROW|4SLASH|4UP CARET|4UPWARDS ARROW|3QUOTE QUAD",
    "4UNDERBAR|3RHO|3RIGHTWARDS VANE|3SEMICOLON UNDERBAR|3SLASH BAR|3SQUISH QUAD|3STAR DIAERESIS",
    "3STILE TILDE|3TILDE DIAERESIS|3UP CARET TILDE|4SHOE JOT|4TACK DIAERESIS|5JOT|5OVERBAR",
    "3UPWARDS VANE|3ZILDE|0APOLLON|0APPLICATION PROGRAM COMMAND|0APPROACHES THE LIMIT",
    "0APPROXIMATELY BUT NOT ACTUALLY EQUAL TO|1EQUAL OR EQUAL TO|2TO|3OR THE IMAGE OF|0AQUARIUS",
    "0ARC|0ARIES|0ARROW POINTING DOWNWARDS THEN CURVING LEFTWARDS|5RIGHTWARDS",
    "2RIGHTWARDS THEN CURVING DOWNWARDS|5SOUTH WEST|5UPWARDS|2UPWARDS THEN NORTH WEST",
    "0ARROWHEAD-SHAPED POINTER|0ARTICULATED LORRY|0ARTIST PALETTE|0ASCENDING NODE|0ASCIA SYMBOL",
    "0ASSERTION|0ASTERISK OPERATOR|0ASTERISM|0ASTONISHED FACE|0ASTRAEA",
    "0ASTRONOMICAL SYMBOL FOR URANUS|0ASYMPTOTICALLY EQUAL TO|0ATHLETIC SHOE|0ATOM SYMBOL",
    "0AUBERGINE|0AUSTRAL SIGN|0AUTO RICKSHAW|0AUTOMATED TELLER MACHINE|0AUTOMOBILE|0AVOCADO|0AXE",
    "0BABY|1ANGEL|1BOTTLE|1CHICK|1SYMBOL|0BACK OF ENVELOPE|1WITH LEFTWARDS ARROW ABOVE",
    "0BACK-TILTED SHADOWED WHITE RIGHTWARDS ARROW|0BACKSLANTED SOUTH ARROW WITH HOOKED TAIL",
    "4HORIZONTAL TAIL|0BACKSPACE|0BACON|0BACTRIAN CAMEL|0BADGER|0BADMINTON RACQUET AND SHUTTLECOCK",
    "0BAGEL|0BAGGAGE CLAIM|0BAGUETTE BREAD|0BALL OF YARN|0BALLET SHOES|0BALLOON",
    "0BALLOON-SPOKED ASTERISK|0BALLOT BOLD SCRIPT X|1BOX|2WITH BALLOT|3BOLD CHECK|4SCRIPT X|3CHECK",
    "3LIGHT X|3SCRIPT X|3X|1SCRIPT X|1X|0BANANA|0BANJO|0BANK|0BANKNOTE WITH DOLLAR SIGN|2EURO SIGN",
    "2POUND SIGN|2YEN SIGN|0BAR CHART|1OF SOAP|0BARBER POLE|0BASEBALL|0BASKET|0BASKETBALL AND HOOP",
    "0BAT|0BATH|0BATHTUB|0BATTERY|0BEACH WITH UMBRELLA|0BEAMED ASCENDING MUSICAL NOTES",
    "1DESCENDING MUSICAL NOTES|1EIGHTH NOTES|1SIXTEENTH NOTES|0BEANS|0BEAR FACE|0BEARDED PERSON",
    "0BEATING HEART|0BEAVER|0BECAUSE|0BED|0BEER MUG|0BEETLE|0BEL|0BELL|1PEPPER|1SYMBOL",
    "1WITH CANCELLATION STROKE|0BELLHOP BELL|0BENT ARROW POINTING DOWNWARDS THEN NORTH EAST",
    "0BENTO BOX|0BENZENE RING|2WITH CIRCLE|0BET SYMBOL|0BETWEEN|0BEVERAGE BOX|0BICYCLE|0BICYCLIST",
    "0BIG REVERSE SOLIDUS|1SOLIDUS|0BIKINI|0BILLED CAP|0BILLIARDS|0BIOHAZARD SIGN|0BIRD",
    "0BIRTHDAY CAKE|0BISON|0BITCOIN SIGN|0BITING LIP|0BLACK BOWTIE|1CENTRE WHITE STAR",
    "1CHESS BISHOP|3ROTATED NINETY DEGREES|4TWO HUNDRED SEVENTY DEGREES|2EQUIHOPPER",
    "3ROTATED NINETY DEGREES|2KING|3ROTATED NINETY DEGREES|4TWO HUNDRED SEVENTY DEGREES|2KNIGHT",
    "3ROTATED FORTY-FIVE DEGREES|4NINETY DEGREES|4ONE HUNDRED THIRTY-FIVE DEGREES",
    "4THREE HUNDRED FIFTEEN DEGREES|4TWO HUNDRED SEVENTY DEGREES|6TWENTY-FIVE DEGREES",
    "2KNIGHT-BISHOP|2KNIGHT-QUEEN|2KNIGHT-ROOK|2PAWN|3ROTATED NINETY DEGREES",
    "4TWO HUNDRED SEVENTY DEGREES|2QUEEN|3ROTATED NINETY DEGREES|4TWO HUNDRED SEVENTY DEGREES",
    "2ROOK|3ROTATED NINETY DEGREES|4TWO HUNDRED SEVENTY DEGREES|2TURNED BISHOP|3KING|3KNIGHT|3PAWN",
    "3QUEEN|3ROOK|1CIRCLE|2FOR RECORD|2WITH DOWN ARROW|3TWO WHITE DOTS|3WHITE DOT RIGHT|1CLUB SUIT",
    "1CROSS ON SHIELD|1CURVED DOWNWARDS AND LEFTWARDS ARROW|4RIGHTWARDS ARROW",
    "2LEFTWARDS AND DOWNWARDS ARROW|4UPWARDS ARROW|2RIGHTWARDS AND DOWNWARDS ARROW|4UPWARDS ARROW",
    "2UPWARDS AND LEFTWARDS ARROW|4RIGHTWARDS ARROW|1DIAMOND|2CENTRED|2MINUS WHITE X|2ON CROSS",
    "2SUIT|2WITH DOWN ARROW|1DOWN POINTING BACKHAND INDEX|1DOWN-POINTING DOUBLE TRIANGLE",
    "2ISOSCELES RIGHT TRIANGLE|2SMALL TRIANGLE|2TRIANGLE|1DOWNWARDS EQUILATERAL ARROWHEAD",
    "1DRAUGHTS KING|2MAN|1DROPLET|1FLAG|1FLORETTE|1FOLDER|1FOUR POINTED STAR",
    "1HARD SHELL FLOPPY DISK|1HEART|2SUIT|1HEXAGON|1HORIZONTAL ELLIPSE|1HOURGLASS|1LARGE CIRCLE",
    "2SQUARE|1LEFT LANE MERGE|2POINTING BACKHAND INDEX|3INDEX|1LEFT-POINTING DOUBLE TRIANGLE",
    "4WITH VERTICAL BAR|2ISOSCELES RIGHT TRIANGLE|2POINTER|2SMALL TRIANGLE|2TRIANGLE",
    "1LEFTWARDS BULLET|2EQUILATERAL ARROWHEAD|1LOWER LEFT TRIANGLE|2RIGHT TRIANGLE|1LOZENGE",
    "1MEDIUM DIAMOND|2DOWN-POINTING TRIANGLE|4CENTRED|2LEFT-POINTING TRIANGLE|4CENTRED|2LOZENGE",
    "2RIGHT-POINTING TRIANGLE|4CENTRED|2SMALL DIAMOND|3LOZENGE|3SQUARE|2SQUARE",
    "2UP-POINTING TRIANGLE|4CENTRED|1MOON LILITH|1NIB|1OCTAGON|1PARALLELOGRAM|1PENNANT|1PENTAGON",
    "1PUSHPIN|1QUESTION MARK ORNAMENT|1RECTANGLE|1RIGHT POINTING BACKHAND INDEX|3INDEX",
    "1RIGHT-POINTING DOUBLE TRIANGLE|4WITH VERTICAL BAR|2ISOSCELES RIGHT TRIANGLE|2PENTAGON",
    "2POINTER|2SMALL TRIANGLE|2TRIANGLE|3WITH DOUBLE VERTICAL BAR|1RIGHTWARDS ARROW|2ARROWHEAD",
    "2BULLET|2EQUILATERAL ARROWHEAD|1ROSETTE|1SAFETY SCISSORS|1SCISSORS|1SHOGI PIECE",
    "1SKULL AND CROSSBONES|1SLIGHTLY SMALL CIRCLE|3SQUARE|1SMALL DIAMOND|2LOZENGE|2SQUARE|2STAR",
    "1SMILING FACE|1SNOWMAN|1SPADE SUIT|1SQUARE|2BUTTON|2CENTRED|2FOR STOP|1STAR|1SUN WITH RAYS",
    "1TELEPHONE|1TINY DIAMOND|2LOZENGE|2SQUARE|1TOUCHTONE TELEPHONE|1TRUCK",
    "1TWO-WAY LEFT WAY TRAFFIC|1UNIVERSAL RECYCLING SYMBOL|1UP POINTING BACKHAND INDEX",
    "1UP-POINTING DOUBLE TRIANGLE|2ISOSCELES RIGHT TRIANGLE|2SMALL TRIANGLE|2TRIANGLE",
    "1UPPER LEFT TRIANGLE|2RIGHT TRIANGLE|1UPWARDS EQUILATERAL ARROWHEAD|1VERTICAL ELLIPSE",
    "2RECTANGLE|1VERY SMALL DIAMOND|3LOZENGE|3SQUARE|0BLACK-FEATHERED NORTH EAST ARROW",
    "1RIGHTWARDS ARROW|1SOUTH EAST ARROW|0BLACK-LETTER CAPITAL C|2H|2I|2R|2Z|0BLANK SYMBOL",
    "0BLOCK SEXTANT-1|1SEXTANT-12|1SEXTANT-123|1SEXTANT-1234|1SEXTANT-12345|1SEXTANT-12346",
    "1SEXTANT-1235|1SEXTANT-12356|1SEXTANT-1236|1SEXTANT-124|1SEXTANT-1245|1SEXTANT-12456",
    "1SEXTANT-1246|1SEXTANT-125|1SEXTANT-1256|1SEXTANT-126|1SEXTANT-13|1SEXTANT-134|1SEXTANT-1345",
    "1SEXTANT-13456|1SEXTANT-1346|1SEXTANT-1356|1SEXTANT-136|1SEXTANT-14|1SEXTANT-145",
    "1SEXTANT-1456|1SEXTANT-146|1SEXTANT-15|1SEXTANT-156|1SEXTANT-16|1SEXTANT-2|1SEXTANT-23",
    "1SEXTANT-234|1SEXTANT-2345|1SEXTANT-23456|1SEXTANT-2346|1SEXTANT-235|1SEXTANT-2356",
    "1SEXTANT-236|1SEXTANT-24|1SEXTANT-245|1SEXTANT-2456|1SEXTANT-25|1SEXTANT-256|1SEXTANT-26",
    "1SEXTANT-3|1SEXTANT-34|1SEXTANT-345|1SEXTANT-3456|1SEXTANT-346|1SEXTANT-35|1SEXTANT-356",
    "1SEXTANT-36|1SEXTANT-4|1SEXTANT-45|1SEXTANT-456|1SEXTANT-46|1SEXTANT-5|1SEXTANT-56|1SEXTANT-6",
    "0BLOSSOM|0BLOWFISH|0BLUE BOOK|1HEART|0BLUEBERRIES|0BOAR|0BOLD EIGHT SPOKED ASTERISK",
    "1FIVE SPOKED ASTERISK|1GREEK CROSS|1SALTIRE|1SIX SPOKED ASTERISK|1WHITE CIRCLE|2SQUARE|0BOM",
    "0BOMB|0BONE|0BOOK|0BOOKMARK|1TABS|0BOOKS|0BOOMERANG|0BOTTLE WITH POPPING CORK",
    "0BOTTOM ARC ANTICLOCKWISE ARROW|1CURLY BRACKET|1HALF BLACK CIRCLE|2INTEGRAL|2LEFT PARENTHESIS",
    "2RIGHT PARENTHESIS|1LEFT CORNER|2CROP|2HALF BRACKET|1PARENTHESIS|1RIGHT CORNER|2CROP",
    "2HALF BRACKET|1SQUARE BRACKET|3OVER TOP SQUARE BRACKET|1TORTOISE SHELL BRACKET|0BOUQUET",
    "1OF FLOWERS|0BOW AND ARROW|0BOWL OF HYGIEIA|1WITH SPOON|0BOWLING|0BOWTIE",
    "1WITH LEFT HALF BLACK|2RIGHT HALF BLACK|0BOX DRAWINGS DOUBLE DOWN AND HORIZONTAL|5LEFT|5RIGHT",
    "3HORIZONTAL|3UP AND HORIZONTAL|5LEFT|5RIGHT|3VERTICAL|4AND HORIZONTAL|5LEFT|5RIGHT",
    "2DOWN DOUBLE AND HORIZONTAL SINGLE|5LEFT SINGLE|5RIGHT SINGLE|3HEAVY AND HORIZONTAL LIGHT",
    "5LEFT LIGHT|6UP LIGHT|5RIGHT LIGHT|6UP LIGHT|5UP HORIZONTAL LIGHT|3LIGHT AND HORIZONTAL HEAVY",
    "5LEFT HEAVY|6UP HEAVY|5RIGHT HEAVY|6UP HEAVY|5UP HORIZONTAL HEAVY",
    "3SINGLE AND HORIZONTAL DOUBLE|5LEFT DOUBLE|5RIGHT DOUBLE|2HEAVY DOUBLE DASH HORIZONTAL",
    "5VERTICAL|3DOWN|4AND HORIZONTAL|5LEFT|5RIGHT|3HORIZONTAL|3LEFT|4AND LIGHT RIGHT",
    "3QUADRUPLE DASH HORIZONTAL|5VERTICAL|3RIGHT|3TRIPLE DASH HORIZONTAL|5VERTICAL|3UP",
    "4AND HORIZONTAL|5LEFT|5LIGHT DOWN|5RIGHT|3VERTICAL|4AND HORIZONTAL|5LEFT|5RIGHT",
    "2LEFT DOWN HEAVY AND RIGHT UP LIGHT|3HEAVY AND RIGHT DOWN LIGHT|6UP LIGHT|6VERTICAL LIGHT",
    "3LIGHT AND RIGHT DOWN HEAVY|6UP HEAVY|6VERTICAL HEAVY|3UP HEAVY AND RIGHT DOWN LIGHT",
    "2LIGHT ARC DOWN AND LEFT|6RIGHT|4UP AND LEFT|6RIGHT|3DIAGONAL CROSS|4DIAMOND",
    "4MIDDLE LEFT TO LOWER CENTRE|9TO MIDDLE RIGHT|7UPPER CENTRE TO MIDDLE RIGHT",
    "9TO MIDDLE RIGHT TO LOWER CENTRE|5RIGHT TO LOWER CENTRE",
    "7UPPER CENTRE TO MIDDLE LEFT TO LOWER CENTRE|4UPPER CENTRE TO MIDDLE LEFT",
    "9AND MIDDLE RIGHT TO LOWER CENTRE|9TO LOWER CENTRE|9TO LOWER CENTRE TO MIDDLE RIGHT|8RIGHT",
    "9AND MIDDLE LEFT TO LOWER CENTRE|9TO LOWER CENTRE|9TO LOWER CENTRE TO MIDDLE LEFT",
    "5LEFT TO LOWER RIGHT|5RIGHT TO LOWER LEFT|3DOUBLE DASH HORIZONTAL|5VERTICAL|3DOWN",
    "4AND HORIZONTAL|5LEFT|5RIGHT|3HORIZONTAL|4WITH VERTICAL STROKE|3LEFT|4AND HEAVY RIGHT",
    "3QUADRUPLE DASH HORIZONTAL|5VERTICAL|3RIGHT|3TRIPLE DASH HORIZONTAL|5VERTICAL|3UP",
    "4AND HEAVY DOWN|5HORIZONTAL|5LEFT|5RIGHT|3VERTICAL|4AND HORIZONTAL|5LEFT|5RIGHT",
    "2RIGHT DOWN HEAVY AND LEFT UP LIGHT|3HEAVY AND LEFT DOWN LIGHT|6UP LIGHT|6VERTICAL LIGHT",
    "3LIGHT AND LEFT DOWN HEAVY|6UP HEAVY|6VERTICAL HEAVY|3UP HEAVY AND LEFT DOWN LIGHT",
    "2UP DOUBLE AND HORIZONTAL SINGLE|5LEFT SINGLE|5RIGHT SINGLE|3HEAVY AND DOWN HORIZONTAL LIGHT",
    "5HORIZONTAL LIGHT|5LEFT DOWN LIGHT|6LIGHT|5RIGHT DOWN LIGHT|6LIGHT",
    "3LIGHT AND DOWN HORIZONTAL HEAVY|5HORIZONTAL HEAVY|5LEFT DOWN HEAVY|6HEAVY|5RIGHT DOWN HEAVY",
    "6HEAVY|3SINGLE AND HORIZONTAL DOUBLE|5LEFT DOUBLE|5RIGHT DOUBLE",
    "2VERTICAL DOUBLE AND HORIZONTAL SINGLE|5LEFT SINGLE|5RIGHT SINGLE|3HEAVY AND HORIZONTAL LIGHT",
    "5LEFT LIGHT|5RIGHT LIGHT|3LIGHT AND HORIZONTAL HEAVY|5LEFT HEAVY|5RIGHT HEAVY",
    "3SINGLE AND HORIZONTAL DOUBLE|5LEFT DOUBLE|5RIGHT DOUBLE|0BOXING GLOVE|0BOY|0BOYS SYMBOL|0BPH",
    "0BRAILLE PATTERN BLANK|0BRAIN|0BREAD|0BREAK PERMITTED HERE|0BREAST-FEEDING|0BRICK",
    "0BRIDE WITH VEIL|0BRIDGE AT NIGHT|0BRIEFCASE|0BRIEFS|0BROCCOLI",
    "0BROKEN CIRCLE WITH NORTHWEST ARROW|1HEART|0BROOM|0BROWN HEART|0BS|0BUBBLE TEA|0BUBBLES",
    "0BUCKET|0BUG|0BUILDING CONSTRUCTION|0BULLET|1OPERATOR|0BULLHORN|1WITH SOUND WAVES|0BULLSEYE",
    "0BURRITO|0BUS|1STOP|0BUST IN SILHOUETTE|0BUSTS IN SILHOUETTE|0BUTTER|0BUTTERFLY",
    "0BYTE ORDER MARK|0BYZANTINE MUSICAL SYMBOL AGOGI ARGI|4ARGOTERI|4GORGI|4GORGOTERI|4MESI",
    "4METRIA|4POLI ARGI|5GORGI|3ANATRICHISMA|3ANTIKENOKYLISMA|3ANTIKENOMA|3APESO EKFONITIKON",
    "4EXO NEO|3APLI|3APODERMA ARCHAION|4NEO|3APOSTROFOI SYNDESMOS NEO|4TELOUS ICHIMATOS",
    "3APOSTROFOS|4DIPLI|4NEO|3APOTHEMA|3ARGON|3ARGOSYNTHETON|3ARKTIKO DI|4GA|4KE|4NI|4PA|4VOU|4ZO",
    "3CHAMILI|3CHAMILON|3CHOREVMA ARCHAION|4NEO|3CHROA KLITON|4SPATHI|4ZYGOS|3DASEIA|3DIARGON",
    "3DIASTOLI APLI MEGALI|5MIKRI|4DIPLI|4THESEOS|3DIESIS APLI DYO DODEKATA|4DIGRAMMOS EX DODEKATA",
    "4MONOGRAMMOS TESSERA DODEKATA|4TETARTIMORION|4TRIGRAMMOS OKTO DODEKATA|4TRITIMORION",
    "3DIFTOGGOS OU|3DIGORGON|4PARESTIGMENON ARISTERA ANO|6KATO|5DEXIA|3DIGRAMMA GG|3DIPLI",
    "4ARCHAION|3DYO|3EKSTREPTON|3ELAFRON|3ENARXIS KAI FTHORA VOU|3ENDOFONON|3EPEGERMA",
    "3ETERON ARGOSYNTHETON|4PARAKALESMA|3EXO EKFONITIKON|3FANEROSIS DIFONIAS|4MONOFONIAS",
    "4TETRAFONIAS|3FHTORA SKLIRON CHROMA VASIS|3FTHORA ARCHAION|5DEYTEROU ICHOU|4DIATONIKI DI|5KE",
    "5NANA|5NI ANO|6KATO|5PA|5ZO|4ENARMONIOS ANTIFONIA|4I YFESIS TETARTIMORION",
    "4MALAKON CHROMA DIFONIAS|6MONOFONIAS|4NAOS ICHOS|4NENANO|4SKLIRON CHROMA SYNAFI|6VASIS",
    "5DIATONON DI|3GENIKI DIESIS|4YFESIS|3GORGON ARCHAION|4NEO ANO|5KATO|4PARESTIGMENON ARISTERA",
    "5DEXIA|3GORGOSYNTHETON|3GORTHMIKON N APLOUN|5DIPLOUN|3GRONTHISMATA|3ICHADIN|3IMIDIARGON",
    "3IMIFONON|3IMIFTHORA|3IMIFTHORON|3ISAKIA TELOUS ICHIMATOS|3ISON ARCHAION|4NEO",
    "3KATAVA TROMIKON|3KATAVASMA|3KATHISTI|3KENTIMA ARCHAION|4NEO ANO|5KATO|5MESO|3KENTIMATA",
    "4ARCHAION|4NEO ANO|5KATO|5MESO|3KLASMA|4ANO|4KATO|3KONTEVMA|4ALLO|3KORONIS|3KOUFISMA",
    "3KRATIMA ALLO|4ARCHAION|4NEO|3KRATIMATA|3KRATIMOKOUFISMA|3KRATIMOYPORROON|3KREMASTI|3KYLISMA",
    "3LEIMMA DYO CHRONON|4ENOS CHRONOU|4IMISEOS CHRONOU|4TESSARON CHRONON|4TRION CHRONON|3LEMOI",
    "3LYGISMA|3MARTYRIA ALLI DEYTEROS ICHOS|5PROTOS ICHOS|4DEYTEROS ICHOS|4LEGETOS ICHOS",
    "4PLAGIOS ICHOS|5TETARTOS ICHOS|4PROTOS ICHOS|4PROTOVARYS ICHOS|4TETARTOS ICHOS|5LEGETOS ICHOS",
    "4TRIFONIAS|4TRITOS ICHOS|4VARYS ICHOS|3MIKRON ISON|3NANA|3OLIGON ARCHAION|4NEO|3OMALON",
    "3OXEIA DIPLI|4EKFONITIKON|4NEO|3OXEIAI ARCHAION|3OYRANISMA ARCHAION|4NEO",
    "3PARAKALESMA ARCHAION|4NEO|3PARAKLITIKI|4ARCHAION|4NEO|3PARICHON|3PELASTON|4NEO|3PERISPOMENI",
    "3PETASMA|3PETASTI|3PETASTOKOUFISMA|3PIASMA ARCHAION|4NEO|3PSIFISTOLYGISMA|3PSIFISTON|4NEO",
    "3PSIFISTOPARAKALESMA|3PSIFISTOSYNAGMA|3PSILI|3PSILON|3RAPISMA|3REVMA|3SAXIMATA|3SEISMA|4NEO",
    "3SIMANSIS ARSEOS|5DISIMOU|5TETRASIMOU|5TRISIMOU|4THESEOS|5DISIMOU|5TETRASIMOU|5TRISIMOU",
    "3STAVROS|4APODEXIA|3STIGMA|3STRAGGISMATA|3SYNAGMA ARCHAION|4META STAVROU|4NEO|3SYNEVMA|3SYRMA",
    "3SYRMATIKI|3TELEIA|3TESSERA|3TETRAPLI|3THEMA|4APLOUN|3THEMATISMOS ESO|4EXO|3THES KAI APOTHES",
    "3THITA|3TINAGMA|3TRIA|3TRIGORGON|3TRIPLI|3TROMIKOLYGISMA|3TROMIKON ALLO|4ARCHAION|4NEO",
    "3TROMIKOPARAKALESMA|3TROMIKOPSIFISTON|3TROMIKOSYNAGMA|3VAREIA DIPLI|4EKFONITIKON|4NEO",
    "3VAREIAI ARCHAION|3VATHY|3XIRON KLASMA|3YFEN ANO|4KATO|3YFESIS APLI DYO DODEKATA",
    "4DIGRAMMOS EX DODEKATA|4MONOGRAMMOS TESSERA DODEKATA|4TRIGRAMMOS OKTO DODEKATA|4TRITIMORION",
    "3YPOKRISIS|4DIPLI|3YPORROI|3YPSILI|0CACTUS|0CADA UNA|0CADUCEUS|0CALENDAR|0CALL ME HAND",
    "0CAMERA|1WITH FLASH|0CAMPING|0CAN|0CANCEL|1CHARACTER|1TAG|0CANCELLATION X|0CANCER|0CANDLE",
    "0CANDY|0CANNED FOOD|0CANOE|0CAPITULUM|0CAPRICORN|0CAR SLIDING|0CARD FILE BOX|1INDEX|2DIVIDERS",
    "0CARE OF|0CARET|1INSERTION POINT|0CAROUSEL HORSE|0CARP STREAMER|0CARPENTRY SAW",
    "0CARRIAGE RETURN|0CARROT|0CASTLE|0CAT|1FACE|2WITH TEARS OF JOY|3WRY SMILE|0CAUTION SIGN|0CCH",
    "0CEDI SIGN|0CELTIC CROSS|0CENTRE LINE SYMBOL|0CERES|0CGJ|0CHAINS|0CHAIR|0CHARACTER TABULATION",
    "2SET|2WITH JUSTIFICATION|1TIE|0CHART WITH DOWNWARDS TREND|2UPWARDS TREND|4AND YEN SIGN",
    "0CHECK MARK|0CHECKER BOARD|2FILL|0CHEERING MEGAPHONE|0CHEESE WEDGE|0CHEQUERED FLAG|0CHERRIES",
    "0CHERRY BLOSSOM|0CHESTNUT|0CHI RHO|0CHICKEN|0CHILD|0CHILDREN CROSSING|0CHIPMUNK|0CHIRON",
    "0CHOCOLATE BAR|0CHOPSTICKS|0CHRISTMAS TREE|0CHURCH|0CINEMA",
    "0CIRCLE DIVIDED BY HORIZONTAL BAR AND TOP HALF DIVIDED BY VERTICAL BAR",
    "1WITH ALL BUT UPPER LEFT QUADRANT BLACK|2HORIZONTAL BAR|2LEFT HALF BLACK|2LOWER HALF BLACK",
    "2RIGHT HALF BLACK|2SMALL CIRCLE TO THE RIGHT|2SUPERIMPOSED X",
    "2TWO HORIZONTAL STROKES TO THE RIGHT|2UPPER HALF BLACK|3RIGHT QUADRANT BLACK|2VERTICAL FILL",
    "0CIRCLED ANTICLOCKWISE ARROW|1ANTICLOCKWISE-ROTATED DIVISION SIGN|1ASTERISK OPERATOR|1BOLD X",
    "1BULLET|1C WITH OVERLAID BACKSLASH|1CC|1CD|1CROSS FORMEE|3WITH FOUR DOTS|4TWO DOTS|2POMMEE",
    "1CROSSING LANES|1DASH|1DIGIT EIGHT|2FIVE|2FOUR|2NINE|2ONE|2SEVEN|2SIX|2THREE|2TWO|2ZERO",
    "1DIVISION SIGN|2SLASH|1DOLLAR SIGN WITH OVERLAID BACKSLASH|1DOT OPERATOR|1EQUALS",
    "1GREATER-THAN|1HEAVY WHITE RIGHTWARDS ARROW|1HORIZONTAL BAR WITH NOTCH|1HUMAN FIGURE",
    "1INFORMATION SOURCE|1ITALIC LATIN CAPITAL LETTER C|5R|1LATIN CAPITAL LETTER A|4B|4C|4D|4E|4F",
    "4G|4H|4I|4J|4K|4L|4M|4N|4O|4P|4Q|4R|4S|4T|4U|4V|4W|4X|4Y|4Z|2SMALL LETTER A|4B|4C|4D|4E|4F|4G",
    "4H|4I|4J|4K|4L|4M|4N|4O|4P|4Q|4R|4S|4T|4U|4V|4W|4X|4Y|4Z|1LESS-THAN|1MINUS",
    "1MULTIPLICATION SIGN WITH CIRCUMFLEX ACCENT|1NUMBER EIGHTEEN|2ELEVEN|2FIFTEEN|2FOURTEEN",
    "2NINETEEN|2SEVENTEEN|2SIXTEEN|2TEN|2THIRTEEN|2TWELVE|2TWENTY|1OPEN CENTRE EIGHT POINTED STAR",
    "1PARALLEL|1PERPENDICULAR|1PLUS|1REVERSE SOLIDUS|1RING OPERATOR|1SQUARE|1TIMES|1TRIANGLE|2DOWN",
    "1VERTICAL BAR|1WHITE BULLET|2STAR|1WZ|1X|1ZERO WITH SLASH|0CIRCULATION FUNCTION|0CIRCUS TENT",
    "0CITYSCAPE|1AT DUSK|0CLAMSHELL MOBILE PHONE|0CLAPPER BOARD|0CLAPPING HANDS SIGN",
    "0CLASSICAL BUILDING|0CLEAR SCREEN SYMBOL|0CLINKING BEER MUGS|1GLASSES|0CLIPBOARD",
    "0CLOCK FACE EIGHT OCLOCK|2EIGHT-THIRTY|2ELEVEN OCLOCK|2ELEVEN-THIRTY|2FIVE OCLOCK",
    "2FIVE-THIRTY|2FOUR OCLOCK|2FOUR-THIRTY|2NINE OCLOCK|2NINE-THIRTY|2ONE OCLOCK|2ONE-THIRTY",
    "2SEVEN OCLOCK|2SEVEN-THIRTY|2SIX OCLOCK|2SIX-THIRTY|2TEN OCLOCK|2TEN-THIRTY|2THREE OCLOCK",
    "2THREE-THIRTY|2TWELVE OCLOCK|2TWELVE-THIRTY|2TWO OCLOCK|2TWO-THIRTY",
    "0CLOCKWISE CLOSED CIRCLE ARROW|1CONTOUR INTEGRAL|1DOWNWARDS AND UPWARDS OPEN CIRCLE ARROWS",
    "1GAPPED CIRCLE ARROW|1INTEGRAL|1OPEN CIRCLE ARROW|1RIGHT AND LEFT SEMICIRCLE ARROWS",
    "1RIGHTWARDS AND LEFTWARDS OPEN CIRCLE ARROWS|7WITH CIRCLED ONE OVERLAY|1TOP SEMICIRCLE ARROW",
    "1TRIANGLE-HEADED OPEN CIRCLE ARROW|0CLOSE UP|0CLOSED BOOK|1INTERSECTION WITH SERIFS",
    "1LOCK WITH KEY|1MAILBOX WITH LOWERED FLAG|3RAISED FLAG|1SUBSET|2OR EQUAL TO|1SUPERSET",
    "2OR EQUAL TO|1UMBRELLA|1UNION WITH SERIFS|4AND SMASH PRODUCT|0CLOUD|1WITH LIGHTNING|2RAIN",
    "2SNOW|2TORNADO|0CLOWN FACE|0COAT|0COCKROACH|0COCKTAIL GLASS|0COCONUT|0COFFIN|0COIN",
    "0COLLISION SYMBOL|0COLON EQUALS|1SIGN|0COMBINING ANNUITY SYMBOL|1ANTICLOCKWISE ARROW ABOVE",
    "2RING OVERLAY|1ASTERISK ABOVE|1CLOCKWISE ARROW ABOVE|2RING OVERLAY|1CONJOINING MACRON|3BELOW",
    "1CYRILLIC TITLO LEFT HALF|3RIGHT HALF|1DOUBLE TILDE LEFT HALF|3RIGHT HALF",
    "2VERTICAL STROKE OVERLAY|1ENCLOSING CIRCLE|3BACKSLASH|2DIAMOND|2KEYCAP|2SCREEN|2SQUARE",
    "2UPWARD POINTING TRIANGLE|1FOUR DOTS ABOVE|1LEFT ARROW ABOVE|3BELOW|2HARPOON ABOVE",
    "2RIGHT ARROW ABOVE|1LEFTWARDS ARROW OVERLAY|2HARPOON WITH BARB DOWNWARDS|1LIGATURE LEFT HALF",
    "4BELOW|2RIGHT HALF|4BELOW|1LONG DOUBLE SOLIDUS OVERLAY|2VERTICAL LINE OVERLAY",
    "1MACRON LEFT HALF|4BELOW|2RIGHT HALF|4BELOW|1REVERSE SOLIDUS OVERLAY|1RIGHT ARROW ABOVE",
    "3BELOW|2HARPOON ABOVE|1RIGHTWARDS HARPOON WITH BARB DOWNWARDS|1RING OVERLAY",
    "1SHORT VERTICAL LINE OVERLAY|1THREE DOTS ABOVE|1TILDE LEFT HALF BELOW|2RIGHT HALF BELOW",
    "1TRIPLE UNDERDOT|1WIDE BRIDGE ABOVE|0COMET|0COMMERCIAL MINUS SIGN|0COMPASS|0COMPLEMENT",
    "0COMPOSITION SYMBOL|0COMPRESSION|0CONFETTI BALL|0CONFOUNDED FACE|0CONFUSED FACE",
    "0CONGRUENT WITH DOT ABOVE|0CONICAL TAPER|0CONJUNCTION|0CONSTRUCTION SIGN|1WORKER",
    "0CONTAINS AS MEMBER|2NORMAL SUBGROUP|4OR EQUAL TO|1WITH LONG HORIZONTAL STROKE|2OVERBAR",
    "2VERTICAL BAR AT END OF HORIZONTAL STROKE|0CONTINUOUS UNDERLINE SYMBOL|0CONTOUR INTEGRAL",
    "0CONTROL KNOBS|1SEQUENCE INTRODUCER|0CONVENIENCE STORE|0COOKED RICE|0COOKIE|0COOKING",
    "0COPYLEFT SYMBOL|0CORAL|0CORNISH VERSE DIVIDER|0CORRESPONDS TO|0COUCH AND LAMP|0COUNTERBORE",
    "0COUNTERSINK|0COUPLE WITH HEART|0COW|1FACE|0CR|0CRAB|0CREDIT CARD|0CRESCENT MOON|0CRICKET",
    "1BAT AND BALL|0CROCODILE|0CROISSANT|0CROSS MARK|1OF JERUSALEM|2LORRAINE",
    "1PATTY WITH LEFT CROSSBAR|3RIGHT CROSSBAR|1POMMEE|2WITH HALF-CIRCLE BELOW|0CROSSED FLAGS",
    "1NEGATIVE SQUARED LATIN CAPITAL LETTER P|1SWORDS|0CROSSING LANES|0CROWN|0CRUTCH",
    "0CRUZEIRO SIGN|0CRYING CAT FACE|1FACE|0CRYSTAL BALL|0CSI|0CUBE ROOT|0CUCUMBER",
    "0CUP ON BLACK SQUARE|1WITH STRAW|0CUPCAKE|0CUPIDO|0CURLING STONE|0CURLY BRACKET EXTENSION",
    "1LOGICAL AND|2OR|1LOOP|0CURRENCY EXCHANGE|0CURRY AND RICE",
    "0CURVED STEM PARAGRAPH SIGN ORNAMENT|0CUSTARD|0CUSTOMS|0CUT OF MEAT|0CYCLONE|0CYLINDRICITY",
    "0DAGGER|1KNIFE|1WITH LEFT GUARD|2RIGHT GUARD|0DALET SYMBOL|0DANCER|0DANGO|0DARK SHADE",
    "1SUNGLASSES|0DASH SYMBOL|1WITH LEFT UPTURN|0DASHED TRIANGLE-HEADED RIGHTWARDS ARROW",
    "0DATA LINK ESCAPE|0DC1|0DC2|0DC3|0DC4|0DCS|0DEAF PERSON|0DECIDUOUS TREE",
    "0DECIMAL EXPONENT SYMBOL|1SEPARATOR KEY SYMBOL|0DECREASE FONT SIZE SYMBOL|0DEER",
    "0DEGREE CELSIUS|1FAHRENHEIT|0DEL|0DELETE|0DELIVERY TRUCK|0DELTA EQUAL TO",
    "0DENTISTRY SYMBOL LIGHT DOWN AND HORIZONTAL|6WITH CIRCLE|7TRIANGLE|7WAVE|3UP AND HORIZONTAL",
    "6WITH CIRCLE|7TRIANGLE|7WAVE|3VERTICAL AND BOTTOM LEFT|6RIGHT|5TOP LEFT|6RIGHT|5WAVE",
    "4WITH CIRCLE|5TRIANGLE|0DEPARTMENT STORE|0DERELICT HOUSE BUILDING|0DESCENDING NODE|0DESERT",
    "1ISLAND|0DESKTOP COMPUTER|1WINDOW|0DEVICE CONTROL FOUR|2ONE|2STRING|2THREE|2TWO",
    "0DIAMETER SIGN|0DIAMOND OPERATOR|1SHAPE WITH A DOT INSIDE|1TARGET|1WITH BOTTOM HALF BLACK",
    "2LEFT HALF BLACK|2RIGHT HALF BLACK|2TOP HALF BLACK|0DIE FACE-1|1FACE-2|1FACE-3|1FACE-4",
    "1FACE-5|1FACE-6|0DIESEL LOCOMOTIVE|0DIFFERENCE BETWEEN|0DIGIT EIGHT COMMA|2FULL STOP",
    "1FIVE COMMA|2FULL STOP|1FOUR COMMA|2FULL STOP|1NINE COMMA|2FULL STOP|1ONE COMMA|2FULL STOP",
    "1SEVEN COMMA|2FULL STOP|1SIX COMMA|2FULL STOP|1THREE COMMA|2FULL STOP|1TWO COMMA|2FULL STOP",
    "1ZERO COMMA|2FULL STOP|0DIGRAM FOR GREATER YANG|3YIN|2LESSER YANG|3YIN|0DIMENSION ORIGIN",
    "0DINGBAT CIRCLED SANS-SERIF DIGIT EIGHT|4FIVE|4FOUR|4NINE|4ONE|4SEVEN|4SIX|4THREE|4TWO|4ZERO",
    "3NUMBER TEN|1NEGATIVE CIRCLED DIGIT EIGHT|4FIVE|4FOUR|4NINE|4ONE|4SEVEN|4SIX|4THREE|4TWO",
    "3NUMBER TEN|3SANS-SERIF DIGIT EIGHT|5FIVE|5FOUR|5NINE|5ONE|5SEVEN|5SIX|5THREE|5TWO|5ZERO",
    "4NUMBER TEN|0DIRECT CURRENT SYMBOL FORM TWO|1HIT|0DISABLED CAR",
    "0DISAPPOINTED BUT RELIEVED FACE|1FACE|0DISCONTINUOUS UNDERLINE SYMBOL|0DISGUISED FACE",
    "0DIVIDES|0DIVING MASK|0DIVISION SLASH|1TIMES|0DIVORCE SYMBOL|0DIYA LAMP|0DIZZY FACE|1SYMBOL",
    "0DLE|0DNA DOUBLE HELIX|0DO NOT LITTER SYMBOL|0DOCUMENT|1WITH PICTURE|2TEXT|3AND PICTURE|0DODO",
    "0DOES NOT CONTAIN AS MEMBER|4NORMAL SUBGROUP|6OR EQUAL|2DIVIDE|3WITH REVERSED NEGATION SLASH",
    "2FORCE|2PRECEDE|3OR EQUAL|2PROVE|2SUCCEED|3OR EQUAL|0DOG|1FACE|0DOLPHIN",
    "0DOMINO TILE HORIZONTAL BACK|2HORIZONTAL-00-00|2HORIZONTAL-00-01|2HORIZONTAL-00-02",
    "2HORIZONTAL-00-03|2HORIZONTAL-00-04|2HORIZONTAL-00-05|2HORIZONTAL-00-06|2HORIZONTAL-01-00",
    "2HORIZONTAL-01-01|2HORIZONTAL-01-02|2HORIZONTAL-01-03|2HORIZONTAL-01-04|2HORIZONTAL-01-05",
    "2HORIZONTAL-01-06|2HORIZONTAL-02-00|2HORIZONTAL-02-01|2HORIZONTAL-02-02|2HORIZONTAL-02-03",
    "2HORIZONTAL-02-04|2HORIZONTAL-02-05|2HORIZONTAL-02-06|2HORIZONTAL-03-00|2HORIZONTAL-03-01",
    "2HORIZONTAL-03-02|2HORIZONTAL-03-03|2HORIZONTAL-03-04|2HORIZONTAL-03-05|2HORIZONTAL-03-06",
    "2HORIZONTAL-04-00|2HORIZONTAL-04-01|2HORIZONTAL-04-02|2HORIZONTAL-04-03|2HORIZONTAL-04-04",
    "2HORIZONTAL-04-05|2HORIZONTAL-04-06|2HORIZONTAL-05-00|2HORIZONTAL-05-01|2HORIZONTAL-05-02",
    "2HORIZONTAL-05-03|2HORIZONTAL-05-04|2HORIZONTAL-05-05|2HORIZONTAL-05-06|2HORIZONTAL-06-00",
    "2HORIZONTAL-06-01|2HORIZONTAL-06-02|2HORIZONTAL-06-03|2HORIZONTAL-06-04|2HORIZONTAL-06-05",
    "2HORIZONTAL-06-06|2VERTICAL BACK|2VERTICAL-00-00|2VERTICAL-00-01|2VERTICAL-00-02",
    "2VERTICAL-00-03|2VERTICAL-00-04|2VERTICAL-00-05|2VERTICAL-00-06|2VERTICAL-01-00",
    "2VERTICAL-01-01|2VERTICAL-01-02|2VERTICAL-01-03|2VERTICAL-01-04|2VERTICAL-01-05",
    "2VERTICAL-01-06|2VERTICAL-02-00|2VERTICAL-02-01|2VERTICAL-02-02|2VERTICAL-02-03",
    "2VERTICAL-02-04|2VERTICAL-02-05|2VERTICAL-02-06|2VERTICAL-03-00|2VERTICAL-03-01",
    "2VERTICAL-03-02|2VERTICAL-03-03|2VERTICAL-03-04|2VERTICAL-03-05|2VERTICAL-03-06",
    "2VERTICAL-04-00|2VERTICAL-04-01|2VERTICAL-04-02|2VERTICAL-04-03|2VERTICAL-04-04",
    "2VERTICAL-04-05|2VERTICAL-04-06|2VERTICAL-05-00|2VERTICAL-05-01|2VERTICAL-05-02",
    "2VERTICAL-05-03|2VERTICAL-05-04|2VERTICAL-05-05|2VERTICAL-05-06|2VERTICAL-06-00",
    "2VERTICAL-06-01|2VERTICAL-06-02|2VERTICAL-06-03|2VERTICAL-06-04|2VERTICAL-06-05",
    "2VERTICAL-06-06|0DONG SIGN|0DOOR|0DOT MINUS|1OPERATOR|1PLUS|0DOTTED CIRCLE|1CROSS|1FENCE",
    "1LINE FACE|1OBELOS|1RIGHT-POINTING ANGLE|1SOLIDUS|1SQUARE|1TRANSPOSITION MARKER",
    "0DOUBLE CIRCLED DIGIT EIGHT|3FIVE|3FOUR|3NINE|3ONE|3SEVEN|3SIX|3THREE|3TWO|2NUMBER TEN",
    "1COLON EQUAL|1CURLY LOOP|1DAGGER|1DOWN TACK|1EXCLAMATION MARK|1HIGH-REVERSED-9 QUOTATION MARK",
    "1HYPHEN|1INTEGRAL|1INTERSECTION|1LEFT ARC GREATER-THAN BRACKET|1LOGICAL AND|2OR|1LOW LINE",
    "1LOW-9 QUOTATION MARK|1LOW-REVERSED-9 QUOTATION MARK|1NESTED GREATER-THAN|2LESS-THAN",
    "3WITH UNDERBAR|1OBLIQUE HYPHEN|1PLUS|1PRECEDES|1PRIME|1QUESTION MARK",
    "1RIGHT ARC LESS-THAN BRACKET|1SOLIDUS OPERATOR|1SQUARE INTERSECTION|2UNION|1STACKED COMMA",
    "1STROKE NOT SIGN|1SUBSET|1SUCCEEDS|1SUPERSET|1SUSPENSION MARK|1UNION|1UP TACK|1VERTICAL BAR",
    "3DOUBLE LEFT TURNSTILE|4RIGHT TURNSTILE|3LEFT TURNSTILE|2LINE|0DOUBLE-ENDED MULTIMAP",
    "0DOUBLE-LINE EQUAL TO OR GREATER-THAN|4LESS-THAN|1SLANTED EQUAL TO OR GREATER-THAN|5LESS-THAN",
    "2GREATER-THAN OR EQUAL TO|2LESS-THAN OR EQUAL TO|0DOUBLE-STRUCK CAPITAL C|2GAMMA|2H|2N|2P|2PI",
    "2Q|2R|2Z|1ITALIC CAPITAL D|2SMALL D|3E|3I|3J|1N-ARY SUMMATION|1SMALL GAMMA|2PI",
    "0DOUBLED FEMALE SIGN|1MALE SIGN|1SYMBOL|0DOUGHNUT|0DOVE OF PEACE|0DOWN ARROWHEAD|1FISH TAIL",
    "1RIGHT DIAGONAL ELLIPSIS|1TACK|2WITH CIRCLE BELOW|0DOWN-POINTING RED TRIANGLE",
    "1SMALL RED TRIANGLE|1TRIANGLE WITH LEFT HALF BLACK|3RIGHT HALF BLACK|0DOWNWARD FACING HOOK",
    "3WITH DOT|2NOTCHED HOOK|4WITH DOT|0DOWNWARDS ANCORA|1ARROW|2AND RIGHT ONE EIGHTH BLOCK",
    "2FROM BAR|2LEFTWARDS OF UPWARDS ARROW|2TO BAR|2WITH CORNER LEFTWARDS|3DOUBLE STROKE",
    "3EQUILATERAL ARROWHEAD|3HORIZONTAL STROKE|3LARGE TRIANGLE ARROWHEAD",
    "3MEDIUM TRIANGLE ARROWHEAD|3NOTCHED TAIL|3SMALL EQUILATERAL ARROWHEAD|4TRIANGLE ARROWHEAD",
    "3TIP LEFTWARDS|4RIGHTWARDS|1BLACK ARROW|2CIRCLED WHITE ARROW|1COMPRESSED ARROW|1DASHED ARROW",
    "1DOUBLE ARROW|1FINGER-POST ARROW",
    "1HARPOON WITH BARB LEFT BESIDE DOWNWARDS HARPOON WITH BARB RIGHT",
    "6UPWARDS HARPOON WITH BARB RIGHT|5FROM BAR|5TO BAR|4LEFTWARDS|4RIGHT FROM BAR|5TO BAR",
    "4RIGHTWARDS|1HEAVY ARROW|2COMPRESSED ARROW|1PAIRED ARROWS|1QUADRUPLE ARROW|1ROCKET",
    "1SANS-SERIF ARROW|1SQUARED ARROW|1TRIANGLE ARROWHEAD|1TRIANGLE-HEADED ARROW",
    "3LEFTWARDS OF UPWARDS TRIANGLE-HEADED ARROW|3TO BAR|3WITH BOLD SHAFT",
    "4DOUBLE HORIZONTAL STROKE|4HEAVY SHAFT|4LONG TIP LEFTWARDS|6RIGHTWARDS|4MEDIUM SHAFT",
    "4NARROW SHAFT|4VERY HEAVY SHAFT|2DASHED ARROW|2PAIRED ARROWS|2ZIGZAG ARROW|1TRIPLE ARROW",
    "1TWO HEADED ARROW|1TWO-HEADED ARROW WITH TRIANGLE ARROWHEADS|1WHITE ARROW",
    "3WITHIN TRIANGLE ARROWHEAD|1ZIGZAG ARROW|0DRACHMA SIGN|0DRAFTING POINT RIGHTWARDS ARROW",
    "0DRAGON|1FACE|0DRESS|0DRIVE SLOW SIGN|0DROMEDARY CAMEL|0DROOLING FACE|0DROP OF BLOOD|0DROPLET",
    "0DRUM WITH DRUMSTICKS|0DUCK|0DUMPLING|0DVD|0E-MAIL SYMBOL|0EAGLE|0EAR|1OF MAIZE|2RICE",
    "1WITH HEARING AID|0EARTH|1GLOBE AMERICAS|2ASIA-AUSTRALIA|2EUROPE-AFRICA|1GROUND",
    "0EAST SYRIAC CROSS|0EDITORIAL CORONIS|0EGG|0EIGHT PETALLED OUTLINED BLACK FLORETTE",
    "1POINTED BLACK STAR|2PINWHEEL STAR|2RECTILINEAR BLACK STAR|1SPOKED ASTERISK",
    "1TEARDROP-SPOKED PROPELLER ASTERISK|0EIGHTH NOTE|0EJECT SYMBOL|0ELECTRIC ARROW|1LIGHT BULB",
    "1PLUG|1TORCH|0ELECTRICAL INTERSECTION|0ELEMENT OF|2OPENING DOWNWARDS|3UPWARDS|2WITH DOT ABOVE",
    "3LONG HORIZONTAL STROKE|3OVERBAR|3TWO HORIZONTAL STROKES|3UNDERBAR",
    "3VERTICAL BAR AT END OF HORIZONTAL STROKE|0ELEPHANT|0ELEVATOR|0ELF|0EM DASH|1QUAD|1SPACE",
    "0EMOJI COMPONENT BALD|2CURLY HAIR|2RED HAIR|2WHITE HAIR|1MODIFIER FITZPATRICK TYPE-1-2",
    "3TYPE-3|3TYPE-4|3TYPE-5|3TYPE-6|0EMPHASIS SYMBOL|0EMPTY DOCUMENT|1NEST|1NOTE|2PAD|2PAGE|1PAGE",
    "1PAGES|1SET|2WITH LEFT ARROW ABOVE|3OVERBAR|3RIGHT ARROW ABOVE|3SMALL CIRCLE ABOVE|0EN DASH",
    "1QUAD|1SPACE|0END OF GUARDED AREA|2LINE|2MEDIUM|2PROOF|2PROTECTED AREA|2SELECTED AREA|2TEXT",
    "2TRANSMISSION|3BLOCK|1WITH LEFTWARDS ARROW ABOVE|0ENQ|0ENQUIRY|0ENTER SYMBOL|0ENVELOPE",
    "1WITH DOWNWARDS ARROW ABOVE|2LIGHTNING|0EOL|0EOM|0EOT|0EPA|0EQUAL AND PARALLEL TO",
    "1TO BY DEFINITION|2OR GREATER-THAN|3LESS-THAN|3PRECEDES|3SUCCEEDS|0EQUALS COLON",
    "1SIGN ABOVE LEFTWARDS ARROW|3PLUS SIGN|3RIGHTWARDS ARROW|3TILDE OPERATOR",
    "2AND SLANTED PARALLEL|5WITH TILDE ABOVE|2WITH BUMPY ABOVE|3DOT BELOW|3INFINITY BELOW",
    "3TWO DOTS ABOVE AND TWO DOTS BELOW|1WITH ASTERISK|0EQUIANGULAR TO|0EQUIVALENT TO",
    "1WITH FOUR DOTS ABOVE|0ERASE TO THE LEFT|3RIGHT|0ERIS FORM ONE|2TWO",
    "0ERROR-BARRED BLACK CIRCLE|2DIAMOND|2SQUARE|1WHITE CIRCLE|2DIAMOND|2SQUARE|0ESA|0ESC|0ESCAPE",
    "0ESTIMATED SYMBOL|0ESTIMATES|0ETB|0ETX|0EULER CONSTANT|0EURO SIGN|0EURO-CURRENCY SIGN",
    "0EUROPEAN CASTLE|1POST OFFICE|0EVERGREEN TREE|0EXCESS|0EXCLAMATION QUESTION MARK",
    "0EXPRESSIONLESS FACE|0EXTRATERRESTRIAL ALIEN|0EXTREMELY HEAVY FIVE SPOKED ASTERISK",
    "2GREEK CROSS|2SALTIRE|2SIX SPOKED ASTERISK|2WHITE CIRCLE|3SQUARE|0EYE|0EYEGLASSES|0EYES",
    "0FACE HOLDING BACK TEARS|1MASSAGE|1PALM|1SAVOURING DELICIOUS FOOD|1SCREAMING IN FEAR",
    "1THROWING A KISS|1WITH COLD SWEAT|2COWBOY HAT|2DIAGONAL MOUTH|2FINGER COVERING CLOSED LIPS",
    "2HEAD-BANDAGE|2LOOK OF TRIUMPH|2MEDICAL MASK|2MONOCLE|2NO GOOD GESTURE|2OK GESTURE",
    "2ONE EYEBROW RAISED|2OPEN EYES AND HAND OVER MOUTH|3MOUTH|4AND COLD SWEAT|4VOMITING",
    "2PARTY HORN AND PARTY HAT|2PEEKING EYE|2PLEADING EYES|2ROLLING EYES|2STUCK-OUT TONGUE",
    "4AND TIGHTLY-CLOSED EYES|5WINKING EYE|2TEARS OF JOY|2THERMOMETER|2UNEVEN EYES AND WAVY MOUTH",
    "1WITHOUT MOUTH|0FACSIMILE SIGN|0FACTORY|0FAIRY|0FALAFEL|0FALLEN LEAF",
    "0FALLING DIAGONAL CROSSING NORTH EAST ARROW|3RISING DIAGONAL|2IN WHITE CIRCLE IN BLACK SQUARE",
    "0FAMILY|0FARSI SYMBOL|0FATHER CHRISTMAS|0FAX ICON|1MACHINE|0FEARFUL FACE|0FEATHER",
    "0FEMALE SIGN|0FENCER|0FERRIS WHEEL|0FERRY|0FF|0FIELD HOCKEY STICK AND BALL|0FIGURE DASH",
    "1SPACE|0FILE CABINET|1FOLDER|1SEPARATOR|0FILM FRAMES|1PROJECTOR|0FINITE PART INTEGRAL|0FIRE",
    "1ENGINE|1EXTINGUISHER|0FIRECRACKER|0FIREWORK SPARKLER|0FIREWORKS|0FIRST PLACE MEDAL",
    "1QUARTER MOON|3SYMBOL|3WITH FACE|1STRONG ISOLATE|0FISH|1CAKE WITH SWIRL DESIGN|0FISHEYE",
    "0FISHING POLE AND FISH|0FISTED HAND SIGN|0FIVE DOT MARK|2PUNCTUATION|0FLAG IN HOLE|0FLAMINGO",
    "0FLAT SHOE|0FLATBREAD|0FLATNESS|0FLEUR-DE-LIS|0FLEXED BICEPS|0FLOPPY DISK|0FLORAL HEART",
    "0FLOWER|1PLAYING CARDS|1PUNCTUATION MARK|0FLUSHED FACE|0FLY|0FLYING DISC|1ENVELOPE|1SAUCER",
    "0FOG|0FOGGY|0FOLDER|0FONDUE|0FOOT|0FOOTPRINTS|0FOR ALL|0FORCES|0FORK AND KNIFE|3WITH PLATE",
    "0FORKED PARAGRAPHOS|0FORKING|0FORM FEED|0FORTUNE COOKIE|0FOUNTAIN",
    "0FOUR BALLOON-SPOKED ASTERISK|1CLUB-SPOKED ASTERISK|1CORNER ARROWS CIRCLING ANTICLOCKWISE",
    "1DOT MARK|2PUNCTUATION|1LEAF CLOVER|1POINTED BLACK STAR|1TEARDROP-SPOKED ASTERISK",
    "0FOUR-PER-EM SPACE|0FOURTH ROOT|0FOX FACE|0FRACTION NUMERATOR ONE|1SLASH|0FRAME WITH AN X",
    "2PICTURE|2TILES|0FREEZING FACE|0FRENCH FRANC SIGN|1FRIES|0FRIED SHRIMP|0FROG FACE",
    "0FRONT-FACING BABY CHICK|0FRONT-TILTED SHADOWED WHITE RIGHTWARDS ARROW|0FROWN",
    "0FROWNING FACE WITH OPEN MOUTH|0FS|0FSI|0FUEL PUMP|0FULL BLOCK|1MOON SYMBOL|2WITH FACE",
    "1OUTER JOIN|0FUNCTION APPLICATION|0FUNERAL URN|0FUSE|0FVS1|0FVS2|0FVS3|0FVS4|0GAME DIE",
    "0GARLIC|0GEAR|1WITH HANDLES|1WITHOUT HUB|0GEM STONE|0GEMINI|0GENIE|0GEOMETRIC PROPORTION",
    "0GEOMETRICALLY EQUAL TO|1EQUIVALENT TO|0GERMAN PENNY SIGN|0GHOST|0GIMEL SYMBOL|0GIRAFFE FACE",
    "0GIRL|0GIRLS SYMBOL|0GLASS OF MILK|0GLEICH STARK|0GLOBE WITH MERIDIANS|0GLOVES|0GLOWING STAR",
    "0GOAL NET|0GOAT|0GOGGLES|0GOLFER|0GORILLA|0GRADUATION CAP|0GRAPES",
    "0GREATER-THAN ABOVE DOUBLE-LINE EQUAL ABOVE LESS-THAN|2LESS-THAN ABOVE DOUBLE-LINE EQUAL",
    "2RIGHTWARDS ARROW|2SIMILAR ABOVE LESS-THAN|3OR EQUAL",
    "2SLANTED EQUAL ABOVE LESS-THAN ABOVE SLANTED EQUAL|1AND NOT APPROXIMATE",
    "2SINGLE-LINE NOT EQUAL TO|1BESIDE LESS-THAN|1BUT NOT EQUAL TO|3EQUIVALENT TO|1CLOSED BY CURVE",
    "4ABOVE SLANTED EQUAL|1EQUAL TO OR LESS-THAN|1OR APPROXIMATE|2EQUAL TO|2EQUIVALENT TO",
    "2LESS-THAN|2SLANTED EQUAL TO|5WITH DOT ABOVE|8LEFT|7INSIDE|1OVER EQUAL TO",
    "1OVERLAPPING LESS-THAN|1WITH CIRCLE INSIDE|2DOT|2QUESTION MARK ABOVE",
    "0GREEK ACROPHONIC ATTIC FIFTY|4STATERS|4TALENTS|4THOUSAND|5STATERS|3FIVE|4HUNDRED|5STATERS",
    "5TALENTS|4STATERS|4TALENTS|4THOUSAND|5TALENTS|3ONE DRACHMA|4HALF|4HUNDRED STATERS|5TALENTS",
    "4QUARTER|4THOUSAND STATERS|5TALENTS|3TEN MNAS|4STATERS|4TALENTS|4THOUSAND STATERS",
    "2CARYSTIAN FIVE HUNDRED|2CYRENAIC TWO DRACHMAS|2DELPHIC FIVE MNAS|2EPIDAUREAN FIVE HUNDRED",
    "3TWO|4DRACHMAS|2HERAEUM ONE PLETHRON|2HERMIONIAN FIFTY|3ONE|3TEN|2MESSENIAN TEN",
    "2NAXIAN FIVE HUNDRED|2STRATIAN FIFTY MNAS|2THESPIAN FIFTY|3FIVE HUNDRED|4THOUSAND|3ONE",
    "4HUNDRED|4THOUSAND|3TEN|3THIRTY|3THREE HUNDRED|3TWO|2TROEZENIAN FIFTY|4ALTERNATE FORM|3FIVE",
    "4HUNDRED|3TEN|4ALTERNATE FORM|1AROURA SIGN|1ARTABE SIGN|1DRACHMA SIGN|1FIVE OBOLS SIGN",
    "1FOUR OBOLS SIGN|1GRAMMA SIGN|1INDICTION SIGN|1KYATHOS BASE SIGN|1LITRA SIGN|1METRETES SIGN",
    "1OBOL SIGN|1ONE HALF SIGN|4ALTERNATE FORM|2QUARTER SIGN|1OUNKIA SIGN|1SINUSOID SIGN",
    "1SYMBOL TAU RHO|1TALENT SIGN|1THREE OBOLS SIGN|2QUARTERS SIGN|1TRYBLION BASE SIGN",
    "1TWO OBOLS SIGN|2THIRDS SIGN|1XESTES SIGN|1YEAR SIGN|1ZERO SIGN|0GREEN APPLE|1BOOK|1HEART",
    "1SALAD|0GRIMACING FACE|0GRINNING CAT FACE WITH SMILING EYES|1FACE",
    "2WITH ONE LARGE AND ONE SMALL EYE|3SMILING EYES|3STAR EYES|0GROUP MARK|1SEPARATOR",
    "0GROWING HEART|0GS|0GUARANI SIGN|0GUARDSMAN|0GUIDE DOG|0GUITAR|0HADES|0HAIR SPACE|0HAIRCUT",
    "0HAMBURGER|0HAMMER|1AND PICK|2SICKLE|2WRENCH|0HAMSA|0HAMSTER FACE",
    "0HAND WITH INDEX AND MIDDLE FINGERS CROSSED|3FINGER AND THUMB CROSSED|0HANDBAG|0HANDBALL",
    "0HANDSHAKE|0HAPPY PERSON RAISING ONE HAND|0HARD DISK|0HATCHING CHICK|0HEADPHONE|0HEADSTONE",
    "1GRAVEYARD SYMBOL|0HEAR-NO-EVIL MONKEY|0HEART DECORATION|1HANDS|1WITH ARROW|2RIBBON",
    "2TIP ON THE LEFT|0HEAVY AMPERSAND ORNAMENT|1ARROW SHAFT WIDTH ONE|5HALF|5THIRD|4TWO THIRDS",
    "1ASTERISK|1BALLOT X|1BLACK CURVED DOWNWARDS AND RIGHTWARDS ARROW",
    "3UPWARDS AND RIGHTWARDS ARROW|2HEART|1BLACK-FEATHERED NORTH EAST ARROW|2RIGHTWARDS ARROW",
    "2SOUTH EAST ARROW|1CHECK MARK|1CHEVRON SNOWFLAKE|1CIRCLE|2WITH CIRCLE INSIDE",
    "3STROKE AND TWO DOTS ABOVE|1CIRCLED SALTIRE|1CONCAVE-POINTED BLACK RIGHTWARDS ARROW",
    "1DASHED TRIANGLE-HEADED RIGHTWARDS ARROW|1DIVISION SIGN|1DOLLAR SIGN",
    "1DOUBLE COMMA QUOTATION MARK ORNAMENT|2TURNED COMMA QUOTATION MARK ORNAMENT",
    "1DOWNWARDS ARROW WITH EQUILATERAL ARROWHEAD|4LARGE EQUILATERAL ARROWHEAD",
    "1EIGHT POINTED BLACK STAR|3PINWHEEL STAR|3RECTILINEAR BLACK STAR|2SPOKED ASTERISK",
    "2TEARDROP-SPOKED PROPELLER ASTERISK|1EQUALS SIGN|1EXCLAMATION MARK ORNAMENT|3SYMBOL",
    "1FIVE POINTED BLACK STAR|2SPOKED ASTERISK|1FOUR BALLOON-SPOKED ASTERISK|1GREEK CROSS",
    "1HEART EXCLAMATION MARK ORNAMENT|1HORIZONTAL FILL|1INTERROBANG ORNAMENT|1LARGE CIRCLE",
    "1LATIN CROSS|1LEFT-POINTING ANGLE BRACKET ORNAMENT|3QUOTATION MARK ORNAMENT",
    "1LEFTWARDS ARROW WITH EQUILATERAL ARROWHEAD|4LARGE EQUILATERAL ARROWHEAD",
    "1LIGATURE OPEN ET ORNAMENT|1LOW DOUBLE COMMA QUOTATION MARK ORNAMENT",
    "2SINGLE COMMA QUOTATION MARK ORNAMENT|1LOWER RIGHT-SHADOWED WHITE RIGHTWARDS ARROW",
    "1MINUS SIGN|1MULTIPLICATION X|1NORTH EAST ARROW|3POINTING BUD|4VINE LEAF|2WEST POINTING BUD",
    "4VINE LEAF|1OPEN CENTRE CROSS|1OUTLINED BLACK STAR|1OVAL WITH OVAL INSIDE|1PLUS SIGN",
    "1RIGHT-POINTING ANGLE BRACKET ORNAMENT|3QUOTATION MARK ORNAMENT|1RIGHTWARDS ARROW",
    "3WITH EQUILATERAL ARROWHEAD|4LARGE EQUILATERAL ARROWHEAD|1ROUND-TIPPED RIGHTWARDS ARROW",
    "1SALTIRE|1SANS-SERIF INTERROBANG ORNAMENT|1SCRIPT LIGATURE ET ORNAMENT",
    "1SINGLE COMMA QUOTATION MARK ORNAMENT|2TURNED COMMA QUOTATION MARK ORNAMENT",
    "1SIX POINTED BLACK STAR|2SPOKED ASTERISK|1SOUTH EAST ARROW|3POINTING BUD|4VINE LEAF",
    "2WEST POINTING BUD|4VINE LEAF|1SPARKLE|1TEARDROP-SHANKED RIGHTWARDS ARROW",
    "1TEARDROP-SPOKED ASTERISK|2PINWHEEL ASTERISK|1TRIANGLE-HEADED RIGHTWARDS ARROW",
    "1TWELVE POINTED BLACK STAR|3PINWHEEL STAR|1UPPER RIGHT-SHADOWED WHITE RIGHTWARDS ARROW",
    "1UPWARDS ARROW WITH EQUILATERAL ARROWHEAD|4LARGE EQUILATERAL ARROWHEAD|1VERTICAL BAR",
    "1WEDGE-TAILED RIGHTWARDS ARROW|1WHITE CIRCLE|2DOWN-POINTING TRIANGLE|2SQUARE",
    "1WIDE-HEADED RIGHTWARDS ARROW|0HEDGEHOG|0HELICOPTER|0HELLSCHREIBER PAUSE SYMBOL|0HELM SYMBOL",
    "0HELMET WITH WHITE CROSS|0HERB|0HERMITIAN CONJUGATE MATRIX|0HEXAGRAM FOR ABUNDANCE",
    "2AFTER COMPLETION|2APPROACH|2BEFORE COMPLETION|2BITING THROUGH|2BREAKTHROUGH|2COMING TO MEET",
    "2CONFLICT|2CONTEMPLATION|2DARKENING OF THE LIGHT|2DECREASE|2DELIVERANCE|2DEVELOPMENT",
    "2DIFFICULTY AT THE BEGINNING|2DISPERSION|2DURATION|2ENTHUSIASM|2FELLOWSHIP|2FOLLOWING",
    "2GATHERING TOGETHER|2GRACE|2GREAT POSSESSION|3POWER|3PREPONDERANCE|3TAMING|2HOLDING TOGETHER",
    "2INCREASE|2INFLUENCE|2INNER TRUTH|2INNOCENCE|2LIMITATION|2MODESTY|2MOUTH CORNERS|2OBSTRUCTION",
    "2OPPOSITION|2OPPRESSION|2PEACE|2PROGRESS|2PUSHING UPWARD|2RETREAT|2RETURN|2REVOLUTION",
    "2SMALL PREPONDERANCE|3TAMING|2SPLITTING APART|2STANDSTILL|2THE ABYSMAL WATER|3ARMY",
    "3AROUSING THUNDER|3CAULDRON|3CLINGING FIRE|3CREATIVE HEAVEN|3FAMILY|3GENTLE WIND|3JOYOUS LAKE",
    "3KEEPING STILL MOUNTAIN|3MARRYING MAIDEN|3RECEPTIVE EARTH|3WANDERER|3WELL|2TREADING|2WAITING",
    "2WORK ON THE DECAYED|2YOUTHFUL FOLLY|0HIBISCUS|0HIGH BRIGHTNESS SYMBOL|1OCTET PRESET",
    "1VOLTAGE SIGN|0HIGH-HEELED SHOE|0HIGH-SPEED TRAIN|2WITH BULLET NOSE|0HIKING BOOT",
    "0HINDU TEMPLE|0HIPPOPOTAMUS|0HISTORIC SITE|0HOCHO|0HOLE|0HOLLOW QUILT SQUARE ORNAMENT",
    "4IN BLACK SQUARE|0HOMOTHETIC|0HONEY POT|0HONEYBEE|0HOOK|0HOP|0HORIZONTAL BAR|1BLACK HEXAGON",
    "2OCTAGON|1ELLIPSIS|1LINE EXTENSION|1MALE WITH STROKE SIGN|1ONE EIGHTH BLOCK-1358|3BLOCK-2",
    "3BLOCK-3|3BLOCK-4|3BLOCK-5|3BLOCK-6|3BLOCK-7|1SCAN LINE-1|2LINE-3|2LINE-7|2LINE-9|1TAB KEY",
    "1TABULATION|2SET|2WITH JUSTIFICATION|1TRAFFIC LIGHT|0HORSE|1FACE|1RACING|0HOSPITAL",
    "0HOT BEVERAGE|1DOG|1PEPPER|1SPRINGS|0HOTEL|0HOURGLASS|1WITH FLOWING SAND|0HOUSE|1BUILDING",
    "1BUILDINGS|1WITH GARDEN|0HRYVNIA SIGN|0HT|0HTJ|0HTS|0HUGGING FACE|0HUNDRED POINTS SYMBOL",
    "0HUSHED FACE|0HUT|0HYGIEA|0HYPHEN|1BULLET|1WITH DIAERESIS|0HYPHENATION POINT|0HYPODIASTOLE",
    "0HYSTERESIS SYMBOL|0I LOVE YOU HAND SIGN|0ICE CREAM|1CUBE|1HOCKEY STICK AND PUCK|1SKATE",
    "0IDENTICAL TO|2AND SLANTED PARALLEL|1WITH DOT ABOVE|0IDENTIFICATION CARD|0IMAGE OF",
    "2OR APPROXIMATELY EQUAL TO|0IMP|0INBOX TRAY|0INCOMING ENVELOPE|0INCOMPLETE INFINITY",
    "0INCREASE FONT SIZE SYMBOL|0INCREASES AS|0INCREMENT|0IND|0INDEX|1POINTING AT THE VIEWER",
    "0INDIAN RUPEE SIGN|0INFINITY|1NEGATED WITH VERTICAL BAR|0INFORMATION DESK PERSON",
    "1SEPARATOR FOUR|2ONE|2THREE|2TWO|1SOURCE|0INHIBIT ARABIC FORM SHAPING|1SYMMETRIC SWAPPING",
    "0INPUT SYMBOL FOR LATIN CAPITAL LETTERS|4LETTERS|4SMALL LETTERS|3NUMBERS|3SYMBOLS",
    "0INSERTION SYMBOL|0INTEGRAL|1AROUND A POINT OPERATOR|1AVERAGE WITH SLASH|1EXTENSION",
    "1WITH DOUBLE STROKE|2INTERSECTION|2LEFTWARDS ARROW WITH HOOK|2OVERBAR|2TIMES SIGN|2UNDERBAR",
    "2UNION|0INTERCALATE|0INTERIOR PRODUCT|0INTERLINEAR ANNOTATION ANCHOR|2SEPARATOR|2TERMINATOR",
    "0INTERLOCKED FEMALE AND MALE SIGN|0INTERROBANG|0INTERSECTION|1ABOVE BAR ABOVE UNION|2UNION",
    "1BESIDE AND JOINED WITH INTERSECTION|1WITH DOT|2LOGICAL AND|2OVERBAR|0INVERSE BULLET",
    "1CHECK MARK|1CHECKER BOARD FILL|1DOWNWARDS ARROW WITH TIP LEFTWARDS|1MEDIUM SHADE",
    "1WHITE CIRCLE|0INVERTED INTERROBANG|1LAZY S|1LOW KAVYKA|3WITH KAVYKA ABOVE|1OHM SIGN",
    "1PENTAGRAM|1UNDERTIE|0INVISIBLE PLUS|1SEPARATOR|1TIMES|0IZAKAYA LANTERN|0JACK-O-LANTERN",
    "0JAPANESE BANK SYMBOL|1CASTLE|1DOLLS|1GOBLIN|1OGRE|1POST OFFICE|1SYMBOL FOR BEGINNER|0JAR",
    "0JEANS|0JIGSAW PUZZLE PIECE|0JOIN|0JOYSTICK|0JUGGLING|0JUNO|0JUPITER|0KAABA|0KANGAROO",
    "0KELVIN SIGN|0KEY|0KEYBOARD|1AND MOUSE|0KEYCAP TEN|0KIMONO|0KIP SIGN|0KISS|1MARK",
    "0KISSING CAT FACE WITH CLOSED EYES|1FACE|2WITH CLOSED EYES|3SMILING EYES|0KITE|0KIWIFRUIT",
    "0KNEELING PERSON|0KNOT|0KOALA|0KRONOS|0L B BAR SYMBOL|0LAB COAT|0LABEL",
    "0LACROSSE STICK AND BALL|0LADDER|0LADY BEETLE|0LANGUAGE TAG|0LARGE BLUE CIRCLE|2DIAMOND",
    "2SQUARE|1BROWN CIRCLE|2SQUARE|1CIRCLE|1DOWN TACK|1GREEN CIRCLE|2SQUARE",
    "1LEFT TRIANGLE OPERATOR|1ORANGE CIRCLE|2DIAMOND|2SQUARE|1PURPLE CIRCLE|2SQUARE|1RED CIRCLE",
    "2SQUARE|1TRIPLE VERTICAL BAR OPERATOR|1UP TACK|1YELLOW CIRCLE|2SQUARE|0LARGER THAN",
    "2OR EQUAL TO|0LARI SIGN|0LAST QUARTER MOON|3SYMBOL|3WITH FACE|0LATIN CROSS",
    "1SMALL LETTER REVERSED C|1SUBSCRIPT SMALL LETTER A|4E|4H|4K|4L|4M|4N|4O|4P|4S|4SCHWA|4T|4X",
    "0LEAF FLUTTERING IN WIND|0LEAFY GREEN|0LEDGER",
    "0LEFT AND LOWER AND RIGHT TRIANGULAR THREE QUARTERS BLOCK|3ONE EIGHTH BLOCK",
    "2RIGHT DOUBLE TURNSTILE|3TACK|3TRIANGULAR HALF BLOCK",
    "2UPPER AND RIGHT TRIANGULAR THREE QUARTERS BLOCK|3ONE EIGHTH BLOCK|1ANGER BUBBLE",
    "1ANGLE BRACKET WITH DOT|1ARC LESS-THAN BRACKET|1ARROW WITH CIRCLED PLUS|3SMALL CIRCLE",
    "1BARB DOWN RIGHT BARB DOWN HARPOON|5UP HARPOON|2UP RIGHT BARB DOWN HARPOON|5UP HARPOON",
    "1BLACK TORTOISE SHELL BRACKET|1CEILING|1CLOSED ENTRY|1CURLY BRACKET LOWER HOOK|3MIDDLE PIECE",
    "3UPPER HOOK|1DOTTED SUBSTITUTION BRACKET|1DOUBLE PARENTHESIS|2QUOTATION MARK|2WIGGLY FENCE",
    "1FISH TAIL|1FIVE EIGHTHS BLOCK|1FLOOR|1HALF BLACK CIRCLE|3STAR|2BLOCK|2CIRCLE|3WITH DOT",
    "4FOUR DOTS|4THREE DOTS|4TWO DOTS|2FOLDER|2INVERSE MEDIUM SHADE AND RIGHT HALF BLOCK",
    "2MEDIUM SHADE|2RUNNING MAN|1HAND TELEPHONE RECEIVER|1LOW PARAPHRASE BRACKET|1LUGGAGE",
    "1MULTIMAP|1NORMAL FACTOR SEMIDIRECT PRODUCT|1ONE EIGHTH BLOCK|2QUARTER BLOCK|1OUTER JOIN",
    "1PARENTHESIS EXTENSION|2LOWER HOOK|2UPPER HOOK|1RAISED OMISSION BRACKET|1RIGHT ARROW",
    "3THROUGH SMALL CIRCLE|3WITH DOUBLE VERTICAL STROKE|4STROKE|4VERTICAL STROKE|2BLACK ARROW",
    "2DOUBLE ARROW|4WITH STROKE|5VERTICAL STROKE|2OPEN-HEADED ARROW|2SANS-SERIF ARROW",
    "2TRIANGLE-HEADED ARROW|2WAVE ARROW|2WHITE ARROW|1S-SHAPED BAG DELIMITER|1SEMIDIRECT PRODUCT",
    "1SEVEN EIGHTHS BLOCK|1SIDEWAYS U BRACKET|1SINGLE QUOTATION MARK|1SPEECH BUBBLE",
    "1SQUARE BRACKET EXTENSION|3LOWER CORNER|3UPPER CORNER|3WITH DOUBLE STROKE|4QUILL|4STROKE",
    "4TICK IN BOTTOM CORNER|6TOP CORNER|4UNDERBAR|1SUBSTITUTION BRACKET|1TACK",
    "1THIRD WHITE RIGHT POINTING INDEX|1THOUGHT BUBBLE|1THREE EIGHTHS BLOCK|2QUARTERS BLOCK",
    "1TRANSPOSITION BRACKET|1TRIANGLE BESIDE VERTICAL BAR|1TRIANGULAR ONE QUARTER BLOCK",
    "1VERTICAL BAR WITH QUILL|2BOX LINE|1WHITE CURLY BRACKET|2PARENTHESIS|1WIGGLY FENCE",
    "1WRITING HAND|0LEFT-FACING FIST|0LEFT-HANDED INTERLACED PENTAGRAM",
    "0LEFT-POINTING ANGLE BRACKET|1CURVED ANGLE BRACKET|1MAGNIFYING GLASS",
    "0LEFT-SHADED WHITE RIGHTWARDS ARROW|0LEFT-SIDE ARC ANTICLOCKWISE ARROW",
    "0LEFT-TO-RIGHT EMBEDDING|1ISOLATE|1MARK|1OVERRIDE|0LEFTWARDS ARROW|2ABOVE ALMOST EQUAL TO",
    "3REVERSE ALMOST EQUAL TO|4TILDE OPERATOR|3SHORT RIGHTWARDS ARROW|3TILDE OPERATOR",
    "2AND UPPER AND LOWER ONE EIGHTH BLOCK|2FROM BAR|4TO BLACK DIAMOND|2OVER RIGHTWARDS ARROW",
    "2THROUGH LESS-THAN|3SUBSET|3X|2TO BAR|4OVER RIGHTWARDS ARROW TO BAR|3BLACK DIAMOND",
    "2WITH DOTTED STEM|3DOUBLE VERTICAL STROKE|3EQUILATERAL ARROWHEAD|3HOOK",
    "3LARGE TRIANGLE ARROWHEAD|3LOOP|3MEDIUM TRIANGLE ARROWHEAD|3NOTCHED TAIL|3PLUS BELOW",
    "3SMALL EQUILATERAL ARROWHEAD|4TRIANGLE ARROWHEAD|3STROKE|3TAIL|4WITH DOUBLE VERTICAL STROKE",
    "5VERTICAL STROKE|3TIP DOWNWARDS|4UPWARDS|3VERTICAL STROKE|1ARROW-TAIL",
    "1BACK-TILTED SHADOWED WHITE ARROW|1BLACK ARROW|2CIRCLED WHITE ARROW",
    "1BOTTOM-SHADED WHITE ARROW|1COMPRESSED ARROW|1DASHED ARROW|1DOUBLE ARROW|3FROM BAR",
    "3WITH STROKE|4VERTICAL STROKE|2ARROW-TAIL|2DASH ARROW|1FINGER-POST ARROW",
    "1FRONT-TILTED SHADOWED WHITE ARROW|1HAND|1HARPOON OVER RIGHTWARDS HARPOON",
    "2WITH BARB DOWN ABOVE RIGHTWARDS HARPOON WITH BARB DOWN|5BELOW LONG DASH|5FROM BAR|5TO BAR",
    "4DOWNWARDS|4UP ABOVE LEFTWARDS HARPOON WITH BARB DOWN|6LONG DASH",
    "6RIGHTWARDS HARPOON WITH BARB UP|5FROM BAR|5TO BAR|4UPWARDS|1HEAVY ARROW|2COMPRESSED ARROW",
    "1LEFT-SHADED WHITE ARROW|1OPEN-HEADED ARROW|1PAIRED ARROWS|1QUADRUPLE ARROW",
    "1RIGHT-SHADED WHITE ARROW|1ROCKET|1SANS-SERIF ARROW|1SQUARED ARROW|1SQUIGGLE ARROW",
    "1TOP SHADED WHITE ARROW|1TRIANGLE ARROWHEAD|1TRIANGLE-HEADED ARROW",
    "3OVER RIGHTWARDS TRIANGLE-HEADED ARROW|3TO BAR|3WITH BOLD SHAFT|4DOUBLE HORIZONTAL STROKE",
    "5VERTICAL STROKE|4HEAVY SHAFT|4LONG TIP DOWNWARDS|6UPWARDS|4MEDIUM SHAFT|4NARROW SHAFT",
    "4VERY HEAVY SHAFT|2DASHED ARROW|2PAIRED ARROWS|1TRIPLE ARROW|2DASH ARROW|1TWO HEADED ARROW",
    "1TWO-HEADED ARROW FROM BAR|3WITH DOUBLE VERTICAL STROKE|4TAIL|5WITH DOUBLE VERTICAL STROKE",
    "6VERTICAL STROKE|4TRIANGLE ARROWHEADS|4VERTICAL STROKE|2TRIPLE DASH ARROW|1WAVE ARROW",
    "1WHITE ARROW|3WITHIN TRIANGLE ARROWHEAD|0LEG|0LEMON|0LEO|0LEOPARD",
    "0LESS-THAN ABOVE DOUBLE-LINE EQUAL ABOVE GREATER-THAN|2GREATER-THAN ABOVE DOUBLE-LINE EQUAL",
    "2LEFTWARDS ARROW|2SIMILAR ABOVE GREATER-THAN|3OR EQUAL",
    "2SLANTED EQUAL ABOVE GREATER-THAN ABOVE SLANTED EQUAL|1AND NOT APPROXIMATE",
    "2SINGLE-LINE NOT EQUAL TO|1BUT NOT EQUAL TO|3EQUIVALENT TO|1CLOSED BY CURVE",
    "4ABOVE SLANTED EQUAL|1EQUAL TO OR GREATER-THAN|1OR APPROXIMATE|2EQUAL TO|2EQUIVALENT TO",
    "2GREATER-THAN|2SLANTED EQUAL TO|5WITH DOT ABOVE|8RIGHT|7INSIDE|1OVER EQUAL TO",
    "1WITH CIRCLE INSIDE|2DOT|2QUESTION MARK ABOVE|0LEVEL SLIDER|0LF|0LIBRA",
    "0LIGATURE OPEN ET ORNAMENT|0LIGHT CHECK MARK|1EIGHT SPOKED ASTERISK|1FIVE POINTED BLACK STAR",
    "2SPOKED ASTERISK|1FOUR POINTED BLACK CUSP|4STAR|1GREEK CROSS",
    "1LEFT TORTOISE SHELL BRACKET ORNAMENT|1RAIL|1RIGHT TORTOISE SHELL BRACKET ORNAMENT|1SALTIRE",
    "1SHADE|1SIX SPOKED ASTERISK|1THREE POINTED BLACK STAR|1TWELVE POINTED BLACK STAR",
    "1VERTICAL BAR|1WHITE SQUARE|0LIGHTNING|1MOOD|2BUBBLE|0LINE FEED",
    "1INTEGRATION NOT INCLUDING THE POLE|2WITH RECTANGULAR PATH AROUND POLE",
    "3SEMICIRCULAR PATH AROUND POLE|1SEPARATOR|1TABULATION|2SET|0LINK SYMBOL|0LINKED PAPERCLIPS",
    "0LION FACE|0LIPS|0LIPSTICK|0LIRA SIGN|0LIVRE TOURNOIS SIGN|0LIZARD|0LLAMA|0LOBSTER|0LOCK",
    "1WITH INK PEN|0LOCKING-SHIFT ONE|1ZERO|0LOGICAL AND|2WITH DOT ABOVE|3DOUBLE OVERBAR|4UNDERBAR",
    "3HORIZONTAL DASH|3MIDDLE STEM|3UNDERBAR|1OR|2OVERLAPPING LOGICAL AND|2WITH DOT ABOVE",
    "3DOUBLE OVERBAR|4UNDERBAR|3HORIZONTAL DASH|3MIDDLE STEM|0LOLLIPOP",
    "0LONG DASH FROM LEFT MEMBER OF DOUBLE VERTICAL|1DIVISION|1DRUM|1LEFT RIGHT ARROW",
    "3DOUBLE ARROW|2TACK|1LEFTWARDS ARROW|3FROM BAR|2DOUBLE ARROW|4FROM BAR|2SQUIGGLE ARROW",
    "1RIGHT TACK|1RIGHTWARDS ARROW|3FROM BAR|2DOUBLE ARROW|4FROM BAR|2SQUIGGLE ARROW",
    "0LOTION BOTTLE|0LOTUS|0LOUDLY CRYING FACE|0LOVE HOTEL|1LETTER|0LOW ASTERISK|1BATTERY",
    "1BRIGHTNESS SYMBOL|1KAVYKA|2WITH DOT|0LOWER BLADE SCISSORS|1FIVE EIGHTHS BLOCK|1HALF BLOCK",
    "2CIRCLE|2INVERSE WHITE CIRCLE|2MEDIUM SHADE|1LEFT BALLPOINT PEN",
    "2BLOCK DIAGONAL LOWER MIDDLE LEFT TO LOWER CENTRE|9RIGHT|4UPPER CENTRE TO LOWER MIDDLE RIGHT",
    "8RIGHT|7UPPER MIDDLE RIGHT|5LEFT TO LOWER CENTRE|8MIDDLE RIGHT|7UPPER MIDDLE RIGHT",
    "5MIDDLE LEFT TO LOWER CENTRE|9MIDDLE RIGHT|9RIGHT|2CRAYON|2FOUNTAIN PEN|2PAINTBRUSH|2PENCIL",
    "2QUADRANT CIRCULAR ARC|2SEMICIRCULAR ANTICLOCKWISE ARROW|2TRIANGLE|2TRIANGULAR MEDIUM SHADE",
    "1ONE EIGHTH BLOCK|2QUARTER BLOCK|1RIGHT BLOCK DIAGONAL LOWER CENTRE TO LOWER MIDDLE RIGHT",
    "7UPPER MIDDLE RIGHT|8RIGHT|5LEFT TO LOWER MIDDLE RIGHT|7UPPER CENTRE|8MIDDLE RIGHT",
    "5MIDDLE LEFT TO UPPER CENTRE|9MIDDLE RIGHT|9RIGHT|4UPPER MIDDLE LEFT TO UPPER CENTRE|9RIGHT",
    "2CORNER WITH DOT|2DROP-SHADOWED WHITE SQUARE|2PENCIL|2QUADRANT CIRCULAR ARC",
    "2SEMICIRCULAR CLOCKWISE ARROW|2SHADOWED WHITE CIRCLE|4SQUARE|2TRIANGLE",
    "2TRIANGULAR MEDIUM SHADE|1SEVEN EIGHTHS BLOCK|1THREE EIGHTHS BLOCK|2QUARTERS BLOCK",
    "1TRIANGULAR ONE QUARTER BLOCK|0LOZENGE|1DIVIDED BY HORIZONTAL RULE|0LRE|0LRI|0LRM|0LRO",
    "0LUGGAGE|0LUNGS|0LYING FACE|0MAGE|0MAGIC WAND|0MAGNET|0MAHJONG TILE AUTUMN|2BACK|2BAMBOO",
    "2CHRYSANTHEMUM|2EAST WIND|2EIGHT OF BAMBOOS|4CHARACTERS|4CIRCLES|2FIVE OF BAMBOOS|4CHARACTERS",
    "4CIRCLES|2FOUR OF BAMBOOS|4CHARACTERS|4CIRCLES|2GREEN DRAGON|2JOKER|2NINE OF BAMBOOS",
    "4CHARACTERS|4CIRCLES|2NORTH WIND|2ONE OF BAMBOOS|4CHARACTERS|4CIRCLES|2ORCHID|2PLUM",
    "2RED DRAGON|2SEVEN OF BAMBOOS|4CHARACTERS|4CIRCLES|2SIX OF BAMBOOS|4CHARACTERS|4CIRCLES",
    "2SOUTH WIND|2SPRING|2SUMMER|2THREE OF BAMBOOS|4CHARACTERS|4CIRCLES|2TWO OF BAMBOOS",
    "4CHARACTERS|4CIRCLES|2WEST WIND|2WHITE DRAGON|2WINTER|0MALE AND FEMALE SIGN|1SIGN",
    "1WITH STROKE AND MALE AND FEMALE SIGN|3SIGN|0MALTESE CROSS|0MAMMOTH|0MAN",
    "1AND WOMAN HOLDING HANDS|1DANCING|1IN BUSINESS SUIT LEVITATING|2TUXEDO|1WITH GUA PI MAO",
    "2TURBAN|0MANAT SIGN|0MANGO|0MANS SHOE|0MANTELPIECE CLOCK|0MANUAL WHEELCHAIR",
    "0MAP SYMBOL FOR LIGHTHOUSE|0MAPLE LEAF|0MARRIAGE SYMBOL|0MARTIAL ARTS UNIFORM",
    "0MASK WORK SYMBOL|0MATE DRINK|0MATHEMATICAL BOLD CAPITAL A|3ALPHA|3B|3BETA|3C|3CHI|3D|3DELTA",
    "3DIGAMMA|3E|3EPSILON|3ETA|3F|3G|3GAMMA|3H|3I|3IOTA|3J|3K|3KAPPA|3L|3LAMDA|3M|3MU|3N|3NU|3O",
    "3OMEGA|3OMICRON|3P|3PHI|3PI|3PSI|3Q|3R|3RHO|3S|3SIGMA|3T|3TAU|3THETA|4SYMBOL|3U|3UPSILON|3V",
    "3W|3X|3XI|3Y|3Z|3ZETA|2DIGIT EIGHT|3FIVE|3FOUR|3NINE|3ONE|3SEVEN|3SIX|3THREE|3TWO|3ZERO",
    "2EPSILON SYMBOL|2FRAKTUR CAPITAL A|4B|4C|4D|4E|4F|4G|4H|4I|4J|4K|4L|4M|4N|4O|4P|4Q|4R|4S|4T",
    "4U|4V|4W|4X|4Y|4Z|3SMALL A|4B|4C|4D|4E|4F|4G|4H|4I|4J|4K|4L|4M|4N|4O|4P|4Q|4R|4S|4T|4U|4V|4W",
    "4X|4Y|4Z|2ITALIC CAPITAL A|4ALPHA|4B|4BETA|4C|4CHI|4D|4DELTA|4E|4EPSILON|4ETA|4F|4G|4GAMMA|4H",
    "4I|4IOTA|4J|4K|4KAPPA|4L|4LAMDA|4M|4MU|4N|4NU|4O|4OMEGA|4OMICRON|4P|4PHI|4PI|4PSI|4Q|4R|4RHO",
    "4S|4SIGMA|4T|4TAU|4THETA|5SYMBOL|4U|4UPSILON|4V|4W|4X|4XI|4Y|4Z|4ZETA|3EPSILON SYMBOL",
    "3KAPPA SYMBOL|3NABLA|3PARTIAL DIFFERENTIAL|3PHI SYMBOL|3PI SYMBOL|3RHO SYMBOL|3SMALL A|4ALPHA",
    "4B|4BETA|4C|4CHI|4D|4DELTA|4E|4EPSILON|4ETA|4F|4FINAL SIGMA|4G|4GAMMA|4H|4I|4IOTA|4J|4K",
    "4KAPPA|4L|4LAMDA|4M|4MU|4N|4NU|4O|4OMEGA|4OMICRON|4P|4PHI|4PI|4PSI|4Q|4R|4RHO|4S|4SIGMA|4T",
    "4TAU|4THETA|4U|4UPSILON|4V|4W|4X|4XI|4Y|4Z|4ZETA|3THETA SYMBOL|2KAPPA SYMBOL|2NABLA",
    "2PARTIAL DIFFERENTIAL|2PHI SYMBOL|2PI SYMBOL|2RHO SYMBOL|2SCRIPT CAPITAL A|4B|4C|4D|4E|4F|4G",
    "4H|4I|4J|4K|4L|4M|4N|4O|4P|4Q|4R|4S|4T|4U|4V|4W|4X|4Y|4Z|3SMALL A|4B|4C|4D|4E|4F|4G|4H|4I|4J",
    "4K|4L|4M|4N|4O|4P|4Q|4R|4S|4T|4U|4V|4W|4X|4Y|4Z|2SMALL A|3ALPHA|3B|3BETA|3C|3CHI|3D|3DELTA",
    "3DIGAMMA|3E|3EPSILON|3ETA|3F|3FINAL SIGMA|3G|3GAMMA|3H|3I|3IOTA|3J|3K|3KAPPA|3L|3LAMDA|3M|3MU",
    "3N|3NU|3O|3OMEGA|3OMICRON|3P|3PHI|3PI|3PSI|3Q|3R|3RHO|3S|3SIGMA|3T|3TAU|3THETA|3U|3UPSILON|3V",
    "3W|3X|3XI|3Y|3Z|3ZETA|2THETA SYMBOL|1DOUBLE-STRUCK CAPITAL A|3B|3D|3E|3F|3G|3I|3J|3K|3L|3M|3O",
    "3S|3T|3U|3V|3W|3X|3Y|2DIGIT EIGHT|3FIVE|3FOUR|3NINE|3ONE|3SEVEN|3SIX|3THREE|3TWO|3ZERO",
    "2SMALL A|3B|3C|3D|3E|3F|3G|3H|3I|3J|3K|3L|3M|3N|3O|3P|3Q|3R|3S|3T|3U|3V|3W|3X|3Y|3Z",
    "1FALLING DIAGONAL|1FRAKTUR CAPITAL A|3B|3D|3E|3F|3G|3J|3K|3L|3M|3N|3O|3P|3Q|3S|3T|3U|3V|3W|3X",
    "3Y|2SMALL A|3B|3C|3D|3E|3F|3G|3H|3I|3J|3K|3L|3M|3N|3O|3P|3Q|3R|3S|3T|3U|3V|3W|3X|3Y|3Z",
    "1ITALIC CAPITAL A|3ALPHA|3B|3BETA|3C|3CHI|3D|3DELTA|3E|3EPSILON|3ETA|3F|3G|3GAMMA|3H|3I|3IOTA",
    "3J|3K|3KAPPA|3L|3LAMDA|3M|3MU|3N|3NU|3O|3OMEGA|3OMICRON|3P|3PHI|3PI|3PSI|3Q|3R|3RHO|3S|3SIGMA",
    "3T|3TAU|3THETA|4SYMBOL|3U|3UPSILON|3V|3W|3X|3XI|3Y|3Z|3ZETA|2EPSILON SYMBOL|2KAPPA SYMBOL",
    "2NABLA|2PARTIAL DIFFERENTIAL|2PHI SYMBOL|2PI SYMBOL|2RHO SYMBOL|2SMALL A|3ALPHA|3B|3BETA|3C",
    "3CHI|3D|3DELTA|3DOTLESS I|4J|3E|3EPSILON|3ETA|3F|3FINAL SIGMA|3G|3GAMMA|3I|3IOTA|3J|3K|3KAPPA",
    "3L|3LAMDA|3M|3MU|3N|3NU|3O|3OMEGA|3OMICRON|3P|3PHI|3PI|3PSI|3Q|3R|3RHO|3S|3SIGMA|3T|3TAU",
    "3THETA|3U|3UPSILON|3V|3W|3X|3XI|3Y|3Z|3ZETA|2THETA SYMBOL|1LEFT ANGLE BRACKET",
    "2DOUBLE ANGLE BRACKET|2FLATTENED PARENTHESIS|2WHITE SQUARE BRACKET|3TORTOISE SHELL BRACKET",
    "1MONOSPACE CAPITAL A|3B|3C|3D|3E|3F|3G|3H|3I|3J|3K|3L|3M|3N|3O|3P|3Q|3R|3S|3T|3U|3V|3W|3X|3Y",
    "3Z|2DIGIT EIGHT|3FIVE|3FOUR|3NINE|3ONE|3SEVEN|3SIX|3THREE|3TWO|3ZERO|2SMALL A|3B|3C|3D|3E|3F",
    "3G|3H|3I|3J|3K|3L|3M|3N|3O|3P|3Q|3R|3S|3T|3U|3V|3W|3X|3Y|3Z|1RIGHT ANGLE BRACKET",
    "2DOUBLE ANGLE BRACKET|2FLATTENED PARENTHESIS|2WHITE SQUARE BRACKET|3TORTOISE SHELL BRACKET",
    "1RISING DIAGONAL|1SANS-SERIF BOLD CAPITAL A|4ALPHA|4B|4BETA|4C|4CHI|4D|4DELTA|4E|4EPSILON",
    "4ETA|4F|4G|4GAMMA|4H|4I|4IOTA|4J|4K|4KAPPA|4L|4LAMDA|4M|4MU|4N|4NU|4O|4OMEGA|4OMICRON|4P|4PHI",
    "4PI|4PSI|4Q|4R|4RHO|4S|4SIGMA|4T|4TAU|4THETA|5SYMBOL|4U|4UPSILON|4V|4W|4X|4XI|4Y|4Z|4ZETA",
    "3DIGIT EIGHT|4FIVE|4FOUR|4NINE|4ONE|4SEVEN|4SIX|4THREE|4TWO|4ZERO|3EPSILON SYMBOL",
    "3ITALIC CAPITAL A|5ALPHA|5B|5BETA|5C|5CHI|5D|5DELTA|5E|5EPSILON|5ETA|5F|5G|5GAMMA|5H|5I|5IOTA",
    "5J|5K|5KAPPA|5L|5LAMDA|5M|5MU|5N|5NU|5O|5OMEGA|5OMICRON|5P|5PHI|5PI|5PSI|5Q|5R|5RHO|5S|5SIGMA",
    "5T|5TAU|5THETA|6SYMBOL|5U|5UPSILON|5V|5W|5X|5XI|5Y|5Z|5ZETA|4EPSILON SYMBOL|4KAPPA SYMBOL",
    "4NABLA|4PARTIAL DIFFERENTIAL|4PHI SYMBOL|4PI SYMBOL|4RHO SYMBOL|4SMALL A|5ALPHA|5B|5BETA|5C",
    "5CHI|5D|5DELTA|5E|5EPSILON|5ETA|5F|5FINAL SIGMA|5G|5GAMMA|5H|5I|5IOTA|5J|5K|5KAPPA|5L|5LAMDA",
    "5M|5MU|5N|5NU|5O|5OMEGA|5OMICRON|5P|5PHI|5PI|5PSI|5Q|5R|5RHO|5S|5SIGMA|5T|5TAU|5THETA|5U",
    "5UPSILON|5V|5W|5X|5XI|5Y|5Z|5ZETA|4THETA SYMBOL|3KAPPA SYMBOL|3NABLA|3PARTIAL DIFFERENTIAL",
    "3PHI SYMBOL|3PI SYMBOL|3RHO SYMBOL|3SMALL A|4ALPHA|4B|4BETA|4C|4CHI|4D|4DELTA|4E|4EPSILON",
    "4ETA|4F|4FINAL SIGMA|4G|4GAMMA|4H|4I|4IOTA|4J|4K|4KAPPA|4L|4LAMDA|4M|4MU|4N|4NU|4O|4OMEGA",
    "4OMICRON|4P|4PHI|4PI|4PSI|4Q|4R|4RHO|4S|4SIGMA|4T|4TAU|4THETA|4U|4UPSILON|4V|4W|4X|4XI|4Y|4Z",
    "4ZETA|3THETA SYMBOL|2CAPITAL A|3B|3C|3D|3E|3F|3G|3H|3I|3J|3K|3L|3M|3N|3O|3P|3Q|3R|3S|3T|3U|3V",
    "3W|3X|3Y|3Z|2DIGIT EIGHT|3FIVE|3FOUR|3NINE|3ONE|3SEVEN|3SIX|3THREE|3TWO|3ZERO",
    "2ITALIC CAPITAL A|4B|4C|4D|4E|4F|4G|4H|4I|4J|4K|4L|4M|4N|4O|4P|4Q|4R|4S|4T|4U|4V|4W|4X|4Y|4Z",
    "3SMALL A|4B|4C|4D|4E|4F|4G|4H|4I|4J|4K|4L|4M|4N|4O|4P|4Q|4R|4S|4T|4U|4V|4W|4X|4Y|4Z|2SMALL A",
    "3B|3C|3D|3E|3F|3G|3H|3I|3J|3K|3L|3M|3N|3O|3P|3Q|3R|3S|3T|3U|3V|3W|3X|3Y|3Z|1SCRIPT CAPITAL A",
    "3C|3D|3G|3J|3K|3N|3O|3P|3Q|3S|3T|3U|3V|3W|3X|3Y|3Z|2SMALL A|3B|3C|3D|3F|3H|3I|3J|3K|3L|3M|3N",
    "3P|3Q|3R|3S|3T|3U|3V|3W|3X|3Y|3Z|0MAXIMIZE|0MAYAN NUMERAL EIGHT|2EIGHTEEN|2ELEVEN|2FIFTEEN",
    "2FIVE|2FOUR|2FOURTEEN|2NINE|2NINETEEN|2ONE|2SEVEN|2SEVENTEEN|2SIX|2SIXTEEN|2TEN|2THIRTEEN",
    "2THREE|2TWELVE|2TWO|2ZERO|0MEASURED ANGLE|2OPENING LEFT",
    "2WITH OPEN ARM ENDING IN ARROW POINTING DOWN AND LEFT|9DOWN AND RIGHT|9LEFT AND DOWN",
    "9LEFT AND UP|9RIGHT AND DOWN|9RIGHT AND UP|9UP AND LEFT|9UP AND RIGHT|1BY",
    "1RIGHT ANGLE WITH DOT|0MEAT ON BONE|0MECHANICAL ARM|1LEG|0MEDIEVAL COMMA|1EXCLAMATION MARK",
    "1QUESTION MARK|0MEDIUM BLACK CIRCLE|1BOLD WHITE CIRCLE|1EIGHT POINTED BLACK STAR",
    "2SPOKED ASTERISK|1FIVE SPOKED ASTERISK|1FLATTENED LEFT PARENTHESIS ORNAMENT",
    "2RIGHT PARENTHESIS ORNAMENT|1FOUR POINTED BLACK STAR|3PINWHEEL STAR|1GREEK CROSS",
    "1LEFT CURLY BRACKET ORNAMENT|2PARENTHESIS ORNAMENT|1LEFT-POINTING ANGLE BRACKET ORNAMENT",
    "1MATHEMATICAL SPACE|1RIGHT CURLY BRACKET ORNAMENT|2PARENTHESIS ORNAMENT",
    "1RIGHT-POINTING ANGLE BRACKET ORNAMENT|1SALTIRE|1SHADE|1SIX POINTED BLACK STAR",
    "2SPOKED ASTERISK|1SMALL WHITE CIRCLE|1THREE POINTED BLACK STAR|3PINWHEEL STAR|1VERTICAL BAR",
    "1WHITE CIRCLE|2SQUARE|0MELON|0MELTING FACE|0MEMO|0MENORAH WITH NINE BRANCHES|0MENS SYMBOL",
    "0MERCURY|0MERPERSON|0MESSAGE WAITING|0METRICAL BREVE|1LONG OVER SHORT|3TWO SHORTS|1PENTASEME",
    "1SHORT OVER LONG|1TETRASEME|1TRISEME|1TWO SHORTS JOINED|3OVER LONG|0METRO|0MICR DASH SYMBOL",
    "1ON US SYMBOL|0MICROBE|0MICROPHONE|0MICROSCOPE|0MIDDLE THIRD WHITE RIGHT POINTING INDEX",
    "0MIDLINE HORIZONTAL ELLIPSIS|0MILITARY HELMET|1MEDAL|0MILKY WAY|0MILL SIGN|0MINIBUS|0MINIDISC",
    "0MINIMIZE|0MINUS SIGN|2IN TRIANGLE|2WITH COMMA ABOVE|3DOT BELOW|3FALLING DOTS|3RISING DOTS",
    "1TILDE|0MINUS-OR-PLUS SIGN|0MINY|0MIRROR|1BALL|0MMSP|0MOBILE PHONE|2OFF",
    "2WITH RIGHTWARDS ARROW AT LEFT|0MODELS|0MODERN PENTATHLON|0MODULO TWO SUM|0MONEY BAG",
    "1WITH WINGS|0MONEY-MOUTH FACE|0MONKEY|1FACE|0MONOGRAM FOR YANG|2YIN|0MONORAIL",
    "0MONOSTABLE SYMBOL|0MOOD BUBBLE|0MOON CAKE|1VIEWING CEREMONY|0MOSQUE|0MOSQUITO",
    "0MOTHER CHRISTMAS|0MOTOR BOAT|1SCOOTER|0MOTORIZED WHEELCHAIR|0MOTORWAY|0MOUNT FUJI|0MOUNTAIN",
    "1BICYCLIST|1CABLEWAY|1RAILWAY|0MOUSE|1FACE|1TRAP|0MOUTH|0MOVIE CAMERA|0MOYAI",
    "0MUCH GREATER-THAN|1LESS-THAN|0MULTIMAP|0MULTIPLE MUSICAL NOTES",
    "0MULTIPLICATION SIGN IN DOUBLE CIRCLE|3LEFT HALF CIRCLE|3RIGHT HALF CIRCLE|3TRIANGLE",
    "2WITH DOT ABOVE|3UNDERBAR|1X|0MULTISET|1MULTIPLICATION|1UNION|0MUSHROOM|0MUSIC FLAT SIGN",
    "1NATURAL SIGN|1SHARP SIGN|0MUSICAL KEYBOARD|2WITH JACKS|1NOTE|1SCORE|1SYMBOL ARPEGGIATO DOWN",
    "3UP|2BEGIN BEAM|3PHRASE|3SLUR|3TIE|2BRACE|2BRACKET|2BREATH MARK|2BREVE|2BREVIS|3REST|2C CLEF",
    "2CAESURA|2CIRCLE X NOTEHEAD|2CLIMACUS|2CLIVIS|2CLUSTER NOTEHEAD BLACK|4WHITE|2CODA",
    "2COMBINING ACCENT|3ACCENT-STACCATO|3AUGMENTATION DOT|3BEND|3DOIT|3DOUBLE TONGUE|3DOWN BOW",
    "3FLAG-1|3FLAG-2|3FLAG-3|3FLAG-4|3FLAG-5|3FLIP|3HARMONIC|3LOURE|3MARCATO|3MARCATO-STACCATO",
    "3RIP|3SMEAR|3SNAP PIZZICATO|3SPRECHGESANG STEM|3STACCATISSIMO|3STACCATO|3STEM|3TENUTO",
    "3TREMOLO-1|3TREMOLO-2|3TREMOLO-3|3TRIPLE TONGUE|3UP BOW|2COMMON TIME|2CRESCENDO|2CROIX",
    "2CUT TIME|2DA CAPO|2DAL SEGNO|2DAMP|3ALL|2DASHED BARLINE|2DECRESCENDO|2DEGREE SLASH",
    "2DOUBLE BARLINE|3FLAT|3SHARP|2DRUM CLEF-1|3CLEF-2|2EIGHTH NOTE|3REST|2END BEAM|3OF STIMME",
    "3PHRASE|3SLUR|3TIE|2F CLEF|4OTTAVA ALTA|5BASSA|2FERMATA|3BELOW|2FINAL BARLINE",
    "2FINGERED TREMOLO-1|3TREMOLO-2|3TREMOLO-3|2FIVE-LINE STAFF|2FLAT DOWN|3UP|2FORTE",
    "2FOUR-LINE STAFF|2FOUR-STRING FRETBOARD|2FUSA BLACK|3WHITE|2G CLEF|4OTTAVA ALTA|5BASSA",
    "2GLISSANDO DOWN|3UP|2GRACE NOTE NO SLASH|4SLASH|2GREGORIAN C CLEF|3F CLEF|2HALF NOTE",
    "3PEDAL MARK|3REST|2HAUPTSTIMME|2INVERTED TURN|2KIEVAN C CLEF|3EIGHTH NOTE STEM DOWN|6UP",
    "3END OF PIECE|3FINAL NOTE|3FLAT SIGN|3HALF NOTE|3QUARTER NOTE STEM DOWN|6UP|3RECITATIVE MARK",
    "3WHOLE NOTE|2KORON|2LEFT REPEAT SIGN|2LONGA|3IMPERFECTA REST|3PERFECTA REST|2MAXIMA|2MEZZO",
    "2MINIMA|3BLACK|3REST|2MOON NOTEHEAD BLACK|4WHITE|2MULTI REST|2MULTIPLE MEASURE REST",
    "2NATURAL DOWN|3UP|2NEBENSTIMME|2NOTEHEAD BLACK|2NULL NOTEHEAD|2ONE HUNDRED TWENTY-EIGHTH NOTE",
    "5REST|2ONE-LINE STAFF|2ORNAMENT STROKE-1|3STROKE-10|3STROKE-11|3STROKE-2|3STROKE-3|3STROKE-4",
    "3STROKE-5|3STROKE-6|3STROKE-7|3STROKE-8|3STROKE-9|2OTTAVA ALTA|3BASSA|2PARENTHESIS NOTEHEAD",
    "2PEDAL MARK|3UP MARK|2PES SUBPUNCTIS|2PIANO|2PLUS NOTEHEAD|2PODATUS|2PORRECTUS|3FLEXUS",
    "2QUARTER NOTE|3REST|3TONE FLAT|4SHARP|2QUINDICESIMA ALTA|3BASSA|2REPEAT DOTS",
    "2REPEATED FIGURE-1|3FIGURE-2|3FIGURE-3|2REVERSE FINAL BARLINE|2RIGHT REPEAT SIGN|2RINFORZANDO",
    "2SCANDICUS|3FLEXUS|2SEGNO|2SEMIBREVIS BLACK|3REST|3WHITE|2SEMIMINIMA BLACK|3REST|3WHITE",
    "2SHARP DOWN|3UP|2SHORT BARLINE|2SINGLE BARLINE|2SIX-LINE STAFF|2SIX-STRING FRETBOARD",
    "2SIXTEENTH NOTE|3REST|2SIXTY-FOURTH NOTE|3REST|2SORI|2SQUARE B|3NOTEHEAD BLACK|4WHITE|2SUBITO",
    "2TEMPUS IMPERFECTUM CUM PROLATIONE IMPERFECTA|7DIMINUTION-1|7DIMINUTION-2|7DIMINUTION-3",
    "6PERFECTA|3PERFECTUM CUM PROLATIONE IMPERFECTA|6PERFECTA|7DIMINUTION-1|2THIRTY-SECOND NOTE",
    "3REST|2THREE-LINE STAFF|2TORCULUS|3RESUPINUS|2TR|2TRIANGLE NOTEHEAD DOWN BLACK|5WHITE",
    "4LEFT BLACK|5WHITE|4RIGHT BLACK|5WHITE|4UP BLACK|5RIGHT BLACK|6WHITE|5WHITE",
    "2TRIANGLE-ROUND NOTEHEAD DOWN BLACK|5WHITE|2TURN|3SLASH|3UP|2TWO-LINE STAFF|2VIRGA",
    "2VOID NOTEHEAD|2WHOLE NOTE|3REST|2WITH FINGERNAILS|2X NOTEHEAD|2Z|0MVS|0MW",
    "0N-ARY CIRCLED DOT OPERATOR|2PLUS OPERATOR|2TIMES OPERATOR|1COPRODUCT|1INTERSECTION",
    "1LOGICAL AND|2OR|1PRODUCT|1SQUARE INTERSECTION OPERATOR|2UNION OPERATOR|1SUMMATION",
    "1TIMES OPERATOR|1UNION|2OPERATOR WITH DOT|4PLUS|1WHITE VERTICAL BAR|0NABLA|0NAIL POLISH",
    "0NAIRA SIGN|0NAK|0NAME BADGE|0NAND|0NARROW NO-BREAK SPACE|0NATIONAL DIGIT SHAPES|1PARK",
    "0NAUSEATED FACE|0NAZAR AMULET|0NBH|0NBSP|0NECKTIE",
    "0NEGATED DOUBLE VERTICAL BAR DOUBLE RIGHT TURNSTILE|0NEGATIVE ACKNOWLEDGE|1CIRCLED DIGIT ZERO",
    "2LATIN CAPITAL LETTER A|5B|5C|5D|5E|5F|5G|5H|5I|5J|5K|5L|5M|5N|5O|5P|5Q|5R|5S|5T|5U|5V|5W|5X",
    "5Y|5Z|2NUMBER EIGHTEEN|3ELEVEN|3FIFTEEN|3FOURTEEN|3NINETEEN|3SEVENTEEN|3SIXTEEN|3THIRTEEN",
    "3TWELVE|3TWENTY|2SQUARE|2TRIANGLE|1DIAGONAL CROSS|2DIAMOND|2MIDDLE RIGHT TO LOWER CENTRE",
    "1SQUARED AB|2CROSS MARK|2IC|2LATIN CAPITAL LETTER A|5B|5C|5D|5E|5F|5G|5H|5I|5J|5K|5L|5M|5N|5O",
    "5P|5Q|5R|5S|5T|5U|5V|5W|5X|5Y|5Z|2PA|2QUESTION MARK|2SA|2WC|0NEITHER A SUBSET OF NOR EQUAL TO",
    "2SUPERSET OF NOR EQUAL TO|1APPROXIMATELY NOR ACTUALLY EQUAL TO|1GREATER-THAN NOR EQUAL TO",
    "3EQUIVALENT TO|3LESS-THAN|1LESS-THAN NOR EQUAL TO|3EQUIVALENT TO|3GREATER-THAN|0NEL|0NEPTUNE",
    "1FORM TWO|0NERD FACE|0NESSUS|0NEST WITH EGGS|0NESTING DOLLS|0NEUTER|0NEUTRAL CHESS BISHOP",
    "3ROTATED NINETY DEGREES|4TWO HUNDRED SEVENTY DEGREES|2EQUIHOPPER|3ROTATED NINETY DEGREES",
    "2KING|3ROTATED NINETY DEGREES|4TWO HUNDRED SEVENTY DEGREES|2KNIGHT",
    "3ROTATED FORTY-FIVE DEGREES|4NINETY DEGREES|4ONE HUNDRED THIRTY-FIVE DEGREES",
    "4THREE HUNDRED FIFTEEN DEGREES|4TWO HUNDRED SEVENTY DEGREES|6TWENTY-FIVE DEGREES|2PAWN",
    "3ROTATED NINETY DEGREES|4TWO HUNDRED SEVENTY DEGREES|2QUEEN|3ROTATED NINETY DEGREES",
    "4TWO HUNDRED SEVENTY DEGREES|2ROOK|3ROTATED NINETY DEGREES|4TWO HUNDRED SEVENTY DEGREES",
    "2TURNED BISHOP|3KING|3KNIGHT|3PAWN|3QUEEN|3ROOK|1FACE|0NEW LINE|1MOON SYMBOL|2WITH FACE",
    "1SHEQEL SIGN|0NEWLINE LEFT|1RIGHT|0NEWSPAPER|0NEXT LINE|1PAGE|0NIGHT WITH STARS|0NINJA|0NL",
    "0NNBSP|0NO BICYCLES|1BREAK HERE|1ENTRY|2SIGN|1MOBILE PHONES|1ONE UNDER EIGHTEEN SYMBOL",
    "1PEDESTRIANS|1PIRACY|1SMOKING SYMBOL|0NOMINAL DIGIT SHAPES|0NOMISMA SIGN|0NON-BREAKING HYPHEN",
    "0NON-POTABLE WATER SYMBOL|0NONFORKING|0NOR|0NORDIC MARK SIGN|0NORMAL SUBGROUP OF|3OR EQUAL TO",
    "0NORTH EAST AND SOUTH WEST ARROW|2ARROW|3AND SOUTH EAST ARROW|3CROSSING NORTH WEST ARROW",
    "4SOUTH EAST ARROW|3WITH HOOK|2BLACK ARROW|2DOUBLE ARROW|2POINTING BUD|3LEAF|3VINE LEAF",
    "2SANS-SERIF ARROW|2TRIANGLE-HEADED ARROW|4TO BAR|2WHITE ARROW|1WEST AND SOUTH EAST ARROW",
    "2ARROW|3AND NORTH EAST ARROW|3CROSSING NORTH EAST ARROW|3TO CORNER|4LONG BAR|3WITH HOOK",
    "2BLACK ARROW|2DOUBLE ARROW|2POINTING BUD|3LEAF|3VINE LEAF|2SANS-SERIF ARROW",
    "2TRIANGLE-HEADED ARROW|4TO BAR|2WHITE ARROW|0NORTHEAST-POINTING AIRPLANE|0NOSE",
    "0NOT A SUBSET OF|2SUPERSET OF|1ALMOST EQUAL TO|1AN ELEMENT OF|1ASYMPTOTICALLY EQUAL TO",
    "1CHECK MARK|1EQUAL TO|1EQUIVALENT TO|1GREATER-THAN|1IDENTICAL TO|1LESS-THAN",
    "1NORMAL SUBGROUP OF|4OR EQUAL TO|1PARALLEL TO|1SQUARE IMAGE OF OR EQUAL TO",
    "2ORIGINAL OF OR EQUAL TO|1TILDE|1TRUE|0NOTCHED LEFT SEMICIRCLE WITH THREE DOTS",
    "1LOWER RIGHT-SHADOWED WHITE RIGHTWARDS ARROW|1RIGHT SEMICIRCLE WITH THREE DOTS",
    "1UPPER RIGHT-SHADOWED WHITE RIGHTWARDS ARROW|0NOTE|1PAD|1PAGE|0NOTEBOOK",
    "1WITH DECORATIVE COVER|0NUL|0NULL|0NUMBER EIGHTEEN FULL STOP|1ELEVEN FULL STOP",
    "1FIFTEEN FULL STOP|1FOURTEEN FULL STOP|1NINETEEN FULL STOP|1SEVENTEEN FULL STOP",
    "1SIXTEEN FULL STOP|1TEN FULL STOP|1THIRTEEN FULL STOP|1TWELVE FULL STOP|1TWENTY FULL STOP",
    "0NUMERO SIGN|0NUT AND BOLT|0OBJECT REPLACEMENT CHARACTER|0OBLIQUE ANGLE OPENING DOWN|3UP",
    "1HYPHEN|0OBSERVER EYE SYMBOL|0OCR AMOUNT OF CHECK|1BELT BUCKLE|1BOW TIE",
    "1BRANCH BANK IDENTIFICATION|1CHAIR|1CUSTOMER ACCOUNT NUMBER|1DASH|1DOUBLE BACKSLASH|1FORK",
    "1HOOK|1INVERTED FORK|0OCTAGONAL SIGN|0OCTOPUS|0ODEN|0OFFICE BUILDING|0OHM SIGN|0OIL DRUM",
    "0OK HAND SIGN|0OLD KEY|1PERSONAL COMPUTER|1TURKIC LETTER ORKHON A|4AB|4AD|4AEB|4AED|4AEG|4AEK",
    "4AEL|4AEN|4AER|4AES|4AET|4AEY|4AG|4AL|4AN|4AQ|4AR|4AS|4ASH|4AT|4AY|4BASH|4EC|4ELT|4EM|4ENC",
    "4ENG|4ENT|4ENY|4EP|4ESH|4EZ|4I|4IC|4IQ|4O|4OE|4OEK|4OP|4OQ|4OT|3YENISEI A|4AB|4AD|4AE|4AEB",
    "4AEG|4AEK|4AEN|4AENG|4AET|4AEY|4AG|4AL|4ANG|4AQ|4AR|4ASH|4AT|4AY|4E|4EC|4ENC|4ENT|4ENY|4ESH",
    "4EZ|4I|4IQ|4OE|4OEK|4OQ|0OLDER ADULT|1MAN|1WOMAN|0OLIVE|0OM SYMBOL",
    "0ON WITH EXCLAMATION MARK WITH LEFT RIGHT ARROW ABOVE|0ONCOMING AUTOMOBILE|1BUS|1FIRE ENGINE",
    "1POLICE CAR|1TAXI|0ONE BUTTON MOUSE|1DOT LEADER|2OVER TWO DOTS PUNCTUATION",
    "0ONE-PIECE SWIMSUIT|0ONION|0OPEN BOOK|1BOX|1CENTRE ASTERISK|2BLACK STAR|2CROSS",
    "2TEARDROP-SPOKED ASTERISK|1FILE FOLDER|1FOLDER|1HANDS SIGN|1LOCK|1MAILBOX WITH LOWERED FLAG",
    "3RAISED FLAG|1SUBSET|1SUPERSET|0OPEN-CIRCUIT-OUTPUT H-TYPE SYMBOL|1L-TYPE SYMBOL",
    "0OPEN-OUTLINED RIGHTWARDS ARROW|0OPERATING SYSTEM COMMAND|0OPHIUCHUS|0OPPOSITION",
    "0OPTICAL DISC|2ICON|0OPTION KEY|0OR WITH DOT INSIDE|0ORANGE BOOK|1HEART|0ORANGUTAN",
    "0ORIGINAL OF|0ORTHODOX CROSS|0OSC|0OTTER|0OUNCE SIGN|0OUTBOX TRAY|0OUTLINED BLACK STAR",
    "1GREEK CROSS|1LATIN CROSS|1WHITE STAR|0OVERHEATED FACE|0OVERLAP|0OVERLAPPING BLACK SQUARES",
    "1WHITE AND BLACK SQUARES|2SQUARES|0OVERLINE|0OWL|0OX|0OYSTER|0PACKAGE|0PAD|0PADDING CHARACTER",
    "0PAGE|1FACING UP|1WITH CIRCLED TEXT|2CURL|0PAGER|0PAGES|0PAGODA|0PALLAS|0PALM BRANCH",
    "1DOWN HAND|1TREE|1UP HAND|0PALMS UP TOGETHER|0PANCAKES|0PANDA FACE|0PAPERCLIP|0PARACHUTE",
    "0PARAGRAPH SEPARATOR|0PARAGRAPHOS|0PARAGRAPHUS MARK|0PARALLEL TO|1WITH HORIZONTAL STROKE",
    "2TILDE OPERATOR|0PARENTHESIZED DIGIT EIGHT|2FIVE|2FOUR|2NINE|2ONE|2SEVEN|2SIX|2THREE|2TWO",
    "1LATIN CAPITAL LETTER A|4B|4C|4D|4E|4F|4G|4H|4I|4J|4K|4L|4M|4N|4O|4P|4Q|4R|4S|4T|4U|4V|4W|4X",
    "4Y|4Z|2SMALL LETTER A|4B|4C|4D|4E|4F|4G|4H|4I|4J|4K|4L|4M|4N|4O|4P|4Q|4R|4S|4T|4U|4V|4W|4X|4Y",
    "4Z|1NUMBER EIGHTEEN|2ELEVEN|2FIFTEEN|2FOURTEEN|2NINETEEN|2SEVENTEEN|2SIXTEEN|2TEN|2THIRTEEN",
    "2TWELVE|2TWENTY|0PARROT|0PARTIAL DIFFERENTIAL|1LINE BACKWARD|2DOWN|2FORWARD|2UP",
    "0PARTIALLY-RECYCLED PAPER SYMBOL|0PARTY POPPER|0PASSED SYMBOL|0PASSENGER SHIP",
    "0PASSIVE-PULL-DOWN-OUTPUT SYMBOL|0PASSIVE-PULL-UP-OUTPUT SYMBOL|0PASSPORT CONTROL|0PAW PRINTS",
    "0PDF|0PDI|0PEACE SYMBOL|0PEACH|0PEACOCK|0PEANUTS|0PEAR|0PEDESTRIAN|0PEN OVER STAMPED ENVELOPE",
    "0PENCIL|0PENGUIN|0PENSIVE FACE|0PENTAGRAM|0PEOPLE HUGGING|0PER MILLE SIGN|1SIGN",
    "1TEN THOUSAND SIGN|0PERFORMING ARTS|0PERMANENT PAPER SIGN|0PERPENDICULAR|1WITH S",
    "0PERSEVERING FACE|0PERSON BOWING DEEPLY|1CLIMBING|1DOING CARTWHEEL|1FROWNING",
    "1IN LOTUS POSITION|2STEAMY ROOM|1RAISING BOTH HANDS IN CELEBRATION|1WITH BALL|2BLOND HAIR",
    "2CROWN|2FOLDED HANDS|2HEADSCARF|2POUTING FACE|0PERSONAL COMPUTER|0PERSPECTIVE|0PESETA SIGN",
    "0PESO SIGN|0PETRI DISH|0PHOLUS|0PICK|0PICKUP TRUCK|0PIE|0PIG|1FACE|1NOSE|0PILE OF POO|0PILL",
    "0PINATA|0PINCHED FINGERS|0PINCHING HAND|0PINE DECORATION|0PINEAPPLE|0PINWHEEL STAR|0PISCES",
    "0PISTOL|0PITCHFORK|1WITH TEE TOP|0PLACARD|0PLACE OF INTEREST SIGN|2WORSHIP|0PLANCK CONSTANT",
    "2OVER TWO PI|0PLAYGROUND SLIDE|0PLAYING CARD ACE OF CLUBS|4DIAMONDS|4HEARTS|4SPADES|2BACK",
    "2BLACK JOKER|2EIGHT OF CLUBS|4DIAMONDS|4HEARTS|4SPADES|2FIVE OF CLUBS|4DIAMONDS|4HEARTS",
    "4SPADES|2FOOL|2FOUR OF CLUBS|4DIAMONDS|4HEARTS|4SPADES|2JACK OF CLUBS|4DIAMONDS|4HEARTS",
    "4SPADES|2KING OF CLUBS|4DIAMONDS|4HEARTS|4SPADES|2KNIGHT OF CLUBS|4DIAMONDS|4HEARTS|4SPADES",
    "2NINE OF CLUBS|4DIAMONDS|4HEARTS|4SPADES|2QUEEN OF CLUBS|4DIAMONDS|4HEARTS|4SPADES|2RED JOKER",
    "2SEVEN OF CLUBS|4DIAMONDS|4HEARTS|4SPADES|2SIX OF CLUBS|4DIAMONDS|4HEARTS|4SPADES",
    "2TEN OF CLUBS|4DIAMONDS|4HEARTS|4SPADES|2THREE OF CLUBS|4DIAMONDS|4HEARTS|4SPADES|2TRUMP-1",
    "2TRUMP-10|2TRUMP-11|2TRUMP-12|2TRUMP-13|2TRUMP-14|2TRUMP-15|2TRUMP-16|2TRUMP-17|2TRUMP-18",
    "2TRUMP-19|2TRUMP-2|2TRUMP-20|2TRUMP-21|2TRUMP-3|2TRUMP-4|2TRUMP-5|2TRUMP-6|2TRUMP-7|2TRUMP-8",
    "2TRUMP-9|2TWO OF CLUBS|4DIAMONDS|4HEARTS|4SPADES|2WHITE JOKER|0PLD|0PLU|0PLUNGER",
    "0PLUS SIGN ABOVE EQUALS SIGN|2IN LEFT HALF CIRCLE|3RIGHT HALF CIRCLE|3TRIANGLE",
    "2WITH BLACK TRIANGLE|3CIRCUMFLEX ACCENT ABOVE|3DOT BELOW|3SMALL CIRCLE ABOVE|3SUBSCRIPT TWO",
    "3TILDE ABOVE|4BELOW|0PLUTO|1FORM FIVE|2FOUR|2THREE|2TWO|0PM|0POCKET CALCULATOR|0POLICE CAR",
    "1CARS REVOLVING LIGHT|1OFFICER|0POODLE|0POP DIRECTIONAL FORMATTING|2ISOLATE|0POPCORN",
    "0PORTABLE STEREO|0POSEIDON|0POSITION INDICATOR|0POSTAL HORN|0POSTBOX|0POT OF FOOD",
    "0POTABLE WATER SYMBOL|0POTATO|0POTTED PLANT|0POUCH|0POULTRY LEG|0POURING LIQUID",
    "0POUTING CAT FACE|1FACE|0POWER ON SYMBOL|1ON-OFF SYMBOL|1SLEEP SYMBOL|1SYMBOL|0PRAYER BEADS",
    "0PRECEDES|1ABOVE ALMOST EQUAL TO|2EQUALS SIGN|2NOT ALMOST EQUAL TO|3EQUAL TO",
    "2SINGLE-LINE EQUALS SIGN|3NOT EQUAL TO|1BUT NOT EQUIVALENT TO|1OR EQUAL TO|2EQUIVALENT TO",
    "1UNDER RELATION|0PREGNANT MAN|1PERSON|1WOMAN|0PRESCRIPTION TAKE",
    "0PRESENTATION FORM FOR VERTICAL COLON|4COMMA|4EXCLAMATION MARK|4HORIZONTAL ELLIPSIS",
    "4IDEOGRAPHIC COMMA|5FULL STOP|4LEFT WHITE LENTICULAR BRACKET|4QUESTION MARK",
    "4RIGHT WHITE LENTICULAR BRACKET|7BRAKCET|4SEMICOLON|0PRETZEL|0PREVIOUS PAGE|0PRIME|0PRINCE",
    "0PRINCESS|0PRINT SCREEN SYMBOL|0PRINTER|1ICON|0PRIVACY MESSAGE|0PRIVATE USE ONE|2TWO|1USE-1",
    "1USE-2|0PROBING CANE|0PROHIBITED SIGN|0PROJECTIVE|0PROPERTY LINE|0PROPORTION|0PROPORTIONAL TO",
    "0PROSERPINA|0PU1|0PU2|0PUBLIC ADDRESS LOUDSPEAKER|0PUNCTUATION SPACE|0PUNCTUS ELEVATUS MARK",
    "0PURPLE HEART|0PURSE|0PUSHPIN|0PUT LITTER IN ITS PLACE SYMBOL|0QUADRANT LOWER LEFT|2RIGHT",
    "1UPPER LEFT|3AND LOWER LEFT AND LOWER RIGHT|5RIGHT|4UPPER RIGHT AND LOWER LEFT|8RIGHT|2RIGHT",
    "3AND LOWER LEFT|6AND LOWER RIGHT|0QUADRUPLE INTEGRAL OPERATOR|1PRIME|0QUARTER NOTE",
    "0QUATERNION INTEGRAL OPERATOR|0QUESTION EXCLAMATION MARK|0QUESTIONED EQUAL TO|0QUINCUNX",
    "0RABBIT|1FACE|0RACCOON|0RACING CAR|1MOTORCYCLE|0RADICAL SYMBOL BOTTOM|0RADIO|1BUTTON",
    "0RADIOACTIVE SIGN|0RAILWAY CAR|1TRACK|0RAIN|0RAINBOW|0RAISED BACK OF HAND|1COMMA|1DOT",
    "1DOTTED INTERPOLATION MARKER|1FIST|1HAND|2WITH FINGERS SPLAYED",
    "3PART BETWEEN MIDDLE AND RING FINGERS|1INTERPOLATION MARKER|1MC SIGN|1MD SIGN|1MR SIGN",
    "1SQUARE|0RAM|0RAT|0RATIO|0RAZOR|0RECEIPT|0RECORD SEPARATOR|0RECREATIONAL VEHICLE",
    "0RECYCLED PAPER SYMBOL|0RECYCLING SYMBOL FOR GENERIC MATERIALS|3TYPE-1 PLASTICS",
    "3TYPE-2 PLASTICS|3TYPE-3 PLASTICS|3TYPE-4 PLASTICS|3TYPE-5 PLASTICS|3TYPE-6 PLASTICS",
    "3TYPE-7 PLASTICS|0RED APPLE|1GIFT ENVELOPE|0REFERENCE MARK",
    "0REGIONAL INDICATOR SYMBOL LETTER A|4B|4C|4D|4E|4F|4G|4H|4I|4J|4K|4L|4M|4N|4O|4P|4Q|4R|4S|4T",
    "4U|4V|4W|4X|4Y|4Z|0RELIEVED FACE|0REMINDER RIBBON|0REPLACEMENT CHARACTER|0RESPONSE",
    "0RESTRICTED LEFT ENTRY-1|2ENTRY-2|0RESTROOM|0RETURN LEFT|1RIGHT|1SYMBOL",
    "0REVERSE CHECKER BOARD|1INDEX|1LIGHT FOUR POINTED PINWHEEL STAR|1LINE FEED|1SOLIDUS OPERATOR",
    "2PRECEDING SUBSET|2WITH HORIZONTAL STROKE|1TILDE OPERATOR ABOVE LEFTWARDS ARROW",
    "4RIGHTWARDS ARROW|0REVERSED ANGLE|2WITH UNDERBAR|1COMMA|1DOUBLE PRIME|2STROKE NOT SIGN",
    "1EMPTY SET|1FORKED PARAGRAPHOS|1HAND WITH MIDDLE FINGER EXTENDED|1NOT SIGN|1PILCROW SIGN",
    "1PRIME|1QUESTION MARK|1RAISED HAND WITH FINGERS SPLAYED|1RIGHT ANGLE",
    "1ROTATED FLORAL HEART BULLET|1SANS-SERIF CAPITAL L|1SEMICOLON|1THUMBS DOWN SIGN|2UP SIGN",
    "1TILDE|2EQUALS|1TRIPLE PRIME|1VICTORY HAND|0REVOLVING HEARTS|0RHINOCEROS|0RI|0RIBBON",
    "1ARROW DOWN LEFT|3RIGHT|2LEFT DOWN|3UP|2RIGHT DOWN|3UP|2UP LEFT|3RIGHT|0RICE BALL|1CRACKER",
    "0RIFLE|0RIGHT AND LOWER ONE EIGHTH BLOCK|2UPPER ONE EIGHTH BLOCK|1ANGER BUBBLE|1ANGLE",
    "2BRACKET WITH DOT|2DOTTED SUBSTITUTION MARKER|2SUBSTITUTION MARKER|2VARIANT WITH SQUARE",
    "2WITH ARC|3DOWNWARDS ZIGZAG ARROW|1ARC GREATER-THAN BRACKET|1ARROW WITH CIRCLED PLUS",
    "3SMALL CIRCLE|1BLACK TORTOISE SHELL BRACKET|1CEILING|1CURLY BRACKET LOWER HOOK|3MIDDLE PIECE",
    "3UPPER HOOK|1DOTTED SUBSTITUTION BRACKET|1DOUBLE ARROW WITH ROUNDED HEAD|2PARENTHESIS",
    "2QUOTATION MARK|2WIGGLY FENCE|1FISH TAIL|1FIVE EIGHTHS BLOCK|1FLOOR|1HALF BLACK CIRCLE|3STAR",
    "2BLOCK|2FOLDER|2MEDIUM SHADE|2RUNNING MAN|1HAND TELEPHONE RECEIVER|1LOW PARAPHRASE BRACKET",
    "1NORMAL FACTOR SEMIDIRECT PRODUCT|1ONE EIGHTH BLOCK|2QUARTER BLOCK|1OPEN SQUARED DOT",
    "1OUTER JOIN|1PARENTHESIS EXTENSION|2LOWER HOOK|2UPPER HOOK|1RAISED OMISSION BRACKET",
    "1S-SHAPED BAG DELIMITER|1SEMIDIRECT PRODUCT|1SEVEN EIGHTHS BLOCK|1SIDEWAYS U BRACKET",
    "1SINGLE QUOTATION MARK|1SPEAKER|2WITH ONE SOUND WAVE|3THREE SOUND WAVES|1SPEECH BUBBLE",
    "1SQUARE BRACKET EXTENSION|3LOWER CORNER|3UPPER CORNER|3WITH DOUBLE STROKE|4QUILL|4STROKE",
    "4TICK IN BOTTOM CORNER|6TOP CORNER|4UNDERBAR|1SUBSTITUTION BRACKET|1TACK",
    "1THIRD WHITE RIGHT POINTING INDEX|1THOUGHT BUBBLE|1THREE EIGHTHS BLOCK|2QUARTERS BLOCK",
    "1TRANSPOSITION BRACKET|1TRIANGLE|2ABOVE LEFT TRIANGLE|1TRIANGULAR ONE QUARTER BLOCK",
    "1VERTICAL BAR WITH QUILL|2BOX LINE|1WHITE CURLY BRACKET|2PARENTHESIS|1WIGGLY FENCE",
    "0RIGHT-FACING FIST|0RIGHT-HANDED INTERLACED PENTAGRAM|0RIGHT-POINTING ANGLE BRACKET",
    "1CURVED ANGLE BRACKET|1MAGNIFYING GLASS|0RIGHT-SHADED WHITE RIGHTWARDS ARROW",
    "0RIGHT-SIDE ARC CLOCKWISE ARROW|0RIGHT-TO-LEFT EMBEDDING|1ISOLATE|1MARK|1OVERRIDE",
    "0RIGHTHAND INTERIOR PRODUCT|0RIGHTWARDS ARROW|2ABOVE ALMOST EQUAL TO|3REVERSE ALMOST EQUAL TO",
    "4TILDE OPERATOR|3SHORT LEFTWARDS ARROW|3TILDE OPERATOR|2AND UPPER AND LOWER ONE EIGHTH BLOCK",
    "2FROM BAR|4TO BLACK DIAMOND|2OVER LEFTWARDS ARROW|2THROUGH GREATER-THAN|3SUPERSET|3X|2TO BAR",
    "3BLACK DIAMOND|2WITH CORNER DOWNWARDS|3DOTTED STEM|3DOUBLE VERTICAL STROKE",
    "3EQUILATERAL ARROWHEAD|3HOOK|3LARGE TRIANGLE ARROWHEAD|3LOOP|3MEDIUM TRIANGLE ARROWHEAD",
    "3NOTCHED TAIL|3PLUS BELOW|3SMALL EQUILATERAL ARROWHEAD|4TRIANGLE ARROWHEAD|3STROKE|3TAIL",
    "4WITH DOUBLE VERTICAL STROKE|5VERTICAL STROKE|3TIP DOWNWARDS|4UPWARDS|3VERTICAL STROKE",
    "1ARROW-TAIL|1BACK-TILTED SHADOWED WHITE ARROW|1BLACK ARROW|2CIRCLED WHITE ARROW",
    "1BOTTOM SHADED WHITE ARROW|1COMPRESSED ARROW|1DASHED ARROW|1DOUBLE ARROW|3FROM BAR",
    "3WITH STROKE|4VERTICAL STROKE|2ARROW-TAIL|2DASH ARROW|1FINGER-POST ARROW",
    "1FRONT-TILTED SHADOWED WHITE ARROW|1HAND|1HARPOON OVER LEFTWARDS HARPOON",
    "2WITH BARB DOWN ABOVE LEFTWARDS HARPOON WITH BARB DOWN|5BELOW LONG DASH|5FROM BAR|5TO BAR",
    "4DOWNWARDS|4UP ABOVE LEFTWARDS HARPOON WITH BARB UP|6LONG DASH",
    "6RIGHTWARDS HARPOON WITH BARB DOWN|5FROM BAR|5TO BAR|4UPWARDS|1HEAVY ARROW|2COMPRESSED ARROW",
    "1LEFT-SHADED WHITE ARROW|1OPEN-HEADED ARROW|1PAIRED ARROWS|1QUADRUPLE ARROW",
    "1RIGHT-SHADED WHITE ARROW|1ROCKET|1SANS-SERIF ARROW|1SQUARED ARROW|1SQUIGGLE ARROW",
    "1TOP SHADED WHITE ARROW|1TRIANGLE ARROWHEAD|1TRIANGLE-HEADED ARROW",
    "3OVER LEFTWARDS TRIANGLE-HEADED ARROW|3TO BAR|3WITH BOLD SHAFT|4DOUBLE HORIZONTAL STROKE",
    "5VERTICAL STROKE|4HEAVY SHAFT|4LONG TIP DOWNWARDS|6UPWARDS|4MEDIUM SHAFT|4NARROW SHAFT",
    "4VERY HEAVY SHAFT|2DASHED ARROW|2PAIRED ARROWS|1TRIPLE ARROW|2DASH ARROW|1TWO HEADED ARROW",
    "1TWO-HEADED ARROW FROM BAR|3WITH DOUBLE VERTICAL STROKE|4TAIL|5WITH DOUBLE VERTICAL STROKE",
    "6VERTICAL STROKE|4TRIANGLE ARROWHEADS|4VERTICAL STROKE|2TRIPLE DASH ARROW|1WAVE ARROW",
    "1WHITE ARROW|3FROM WALL|3WITHIN TRIANGLE ARROWHEAD|0RING|1BUOY|1EQUAL TO|1IN EQUAL TO",
    "1OPERATOR|1POINT|0RINGED PLANET|0RINGING BELL|0RISING DIAGONAL CROSSING FALLING DIAGONAL",
    "3SOUTH EAST ARROW|0RLE|0RLI|0RLM|0RLO|0ROASTED SWEET POTATO|0ROBOT FACE|0ROCK|0ROCKET",
    "0ROLL OF PAPER|0ROLLED-UP NEWSPAPER|0ROLLER COASTER|1SKATE|0ROLLING ON THE FLOOR LAUGHING",
    "0ROMAN AS SIGN|1CENTURIAL SIGN|1DENARIUS SIGN|1DIMIDIA SEXTULA SIGN|1DUPONDIUS SIGN",
    "1NUMERAL EIGHT|2ELEVEN|2FIFTY|3EARLY FORM|3THOUSAND|2FIVE|3HUNDRED|3THOUSAND|2FOUR|2NINE|2ONE",
    "3HUNDRED|4THOUSAND|3THOUSAND|4C D|2REVERSED ONE HUNDRED|2SEVEN|2SIX|3LATE FORM|2TEN|3THOUSAND",
    "2THREE|2TWELVE|2TWO|1QUINARIUS SIGN|1SEMUNCIA SIGN|1SESTERTIUS SIGN|1SEXTANS SIGN",
    "1SEXTULA SIGN|1SILIQUA SIGN|1UNCIA SIGN|0ROOSTER|0ROSE|0ROSETTE|0ROTATED CAPITAL Q",
    "1FLORAL HEART BULLET|1HEAVY BLACK HEART BULLET|1LIGHT FOUR POINTED BLACK CUSP",
    "1WHITE FOUR POINTED CUSP|0ROUND PUSHPIN|1TARGET|0ROWBOAT|0RS|0RUBLE SIGN|0RUGBY FOOTBALL",
    "0RULE-DELAYED|0RUNNER|0RUNNING SHIRT WITH SASH|0RUPEE SIGN",
    "0RUSSIAN ASTROLOGICAL SYMBOL BINOVILE|3NOVILE|3QUINTILE|3SENTAGON|3TREDECILE|3VIGINTILE",
    "0S IN TRIANGLE|0SAFETY PIN|1VEST|0SAGITTARIUS|0SAILBOAT|0SAKE BOTTLE AND CUP|0SALT SHAKER",
    "0SALTIRE|0SALUTING FACE|0SANDWICH|0SANS-SERIF HEAVY DOUBLE COMMA QUOTATION MARK ORNAMENT",
    "3TURNED COMMA QUOTATION MARK ORNAMENT|2LOW DOUBLE COMMA QUOTATION MARK ORNAMENT",
    "1INTERROBANG ORNAMENT|0SARI|0SATELLITE|1ANTENNA|0SATURN|0SAUROPOD|0SAXOPHONE|0SCALES|0SCARF",
    "0SCHOOL|1SATCHEL|0SCI|0SCOOTER|0SCORPION|0SCORPIUS|0SCREEN|0SCREWDRIVER|0SCRIPT CAPITAL B|2E",
    "2F|2H|2I|2L|2M|2P|2R|1LIGATURE ET ORNAMENT|1SMALL E|2G|2L|2O|0SCROLL|0SCRUPLE|0SEAL|0SEAT",
    "0SECOND PLACE MEDAL|0SECTOR|0SEDNA|0SEE-NO-EVIL MONKEY|0SEEDLING|0SEGMENT",
    "0SEGMENTED DIGIT EIGHT|2FIVE|2FOUR|2NINE|2ONE|2SEVEN|2SIX|2THREE|2TWO|2ZERO|0SELFIE",
    "0SEMIDIRECT PRODUCT WITH BOTTOM CLOSED|0SEMISEXTILE|0SEPARATED SYMBOL",
    "0SERIOUS FACE WITH SYMBOLS COVERING MOUTH|0SERVICE MARK|0SESQUIQUADRATE|0SET MINUS",
    "1TRANSMIT STATE|0SEWING NEEDLE|0SEXTILE|0SGC|0SHADOWED WHITE CIRCLE|2LATIN CROSS|2STAR",
    "0SHALLOW PAN OF FOOD|0SHAMROCK|0SHARK|0SHAVED ICE|0SHEEP|0SHIELD|0SHIFT IN|1OUT",
    "0SHINTO SHRINE|0SHIP|0SHOCKED FACE WITH EXPLODING HEAD|0SHOOTING STAR|0SHOPPING BAGS|1TROLLEY",
    "0SHORT BACKSLANTED SOUTH ARROW|1BENT ARROW POINTING DOWNWARDS THEN NORTH EAST|1DOWN TACK",
    "3WITH OVERBAR|1LEFT TACK|1RIGHTWARDS ARROW ABOVE LEFTWARDS ARROW|1SLANTED NORTH ARROW",
    "1UP TACK|3ABOVE SHORT DOWN TACK|3WITH UNDERBAR|0SHORTCAKE|0SHORTS|0SHOULDERED OPEN BOX",
    "0SHOWER|0SHRIMP|0SHRUG|0SHUFFLE PRODUCT|0SHY|0SI|0SIDEWAYS BLACK DOWN POINTING INDEX",
    "2LEFT POINTING INDEX|2RIGHT POINTING INDEX|2UP POINTING INDEX|1WHITE DOWN POINTING INDEX",
    "2LEFT POINTING INDEX|2RIGHT POINTING INDEX|2UP POINTING INDEX|0SIGN OF THE HORNS",
    "0SIGNWRITING AIR BLOW SMALL ROTATIONS|2BLOWING OUT|2SUCK SMALL ROTATIONS|2SUCKING IN",
    "1BREATH EXHALE|2INHALE|1BRUSH BETWEEN|2MULTIPLE|2SINGLE|1CHEEKS NEUTRAL|2PUFFED|2SUCKED",
    "1COLON|1COMMA|1DREAMY EYEBROWS DOWN NEUTRAL|3NEUTRAL DOWN|4UP|3UP NEUTRAL",
    "1DYNAMIC ARROWHEAD LARGE|3SMALL|2EVERY OTHER TIME|2FAST|2GRADUAL|2RELAXED|2SIMULTANEOUS",
    "3ALTERNATING|2SLOW|2TENSE|1EARS|1EXCITEMENT|1EYE BLINK MULTIPLE|3SINGLE|2WINK",
    "1EYEBROWS STRAIGHT DOWN|3NEUTRAL|3UP|1EYEGAZE-FLOORPLANE CURVED|2STRAIGHT|3ALTERNATING",
    "3DOUBLE|1EYEGAZE-WALLPLANE CIRCLING|2CURVED|2STRAIGHT|3ALTERNATING|3DOUBLE|1EYELASHES DOWN",
    "2FLUTTERING|2UP|1EYES CLOSED|2HALF CLOSED|3OPEN|2OPEN|2SQUEEZED|2WIDE OPEN|2WIDENING MOVEMENT",
    "1FACE DIRECTION POSITION NOSE FORWARD TILTING|5UP OR DOWN|8TILTING|1FILL MODIFIER-2",
    "2MODIFIER-3|2MODIFIER-4|2MODIFIER-5|2MODIFIER-6|1FINGER|1FLICK LARGE MULTIPLE|3SINGLE",
    "2SEQUENTIAL|2SMALL MULTIPLE|3SINGLE|1FLOORPLANE SHOULDER HIP MOVE|1FOREHEAD CONTACT|2NEUTRAL",
    "2WRINKLED|1FULL STOP|1GRASP BETWEEN|2MULTIPLE|2SINGLE|1HAIR|1HAND-ANGLE|2INDEX|3MIDDLE LITTLE",
    "4RING|3RING LITTLE|5OUT|3THUMB|4IN|4OUT|2LITTLE INDEX|4THUMB INDEX THUMB|7OUT|3UP",
    "2MIDDLE RING LITTLE|5IN|5OUT|2RING DOWN MIDDLE THUMB INDEX CROSS|3LITTLE|1HAND-CIRCLE|2INDEX",
    "3BENT|3HINGE|3MIDDLE|4CROSS LITTLE|4CROSSED|4LITTLE|4RING|4THUMB|3RING LITTLE|2LITTLE INDEX",
    "3UP|2MIDDLE RING LITTLE|5BENT|3UP|2RING LITTLE|1HAND-CLAW|2FOUR FINGERS CONJOINED",
    "2INDEX THUMB CURVE THUMB INSIDE|2MIDDLE RING LITTLE CONJOINED|6SIDE|2NO THUMB|2THUMB FORWARD",
    "3SIDE|1HAND-CUP|2FIVE FINGERS SPREAD|5OPEN|2INDEX|3RING LITTLE|3THUMB|4OPEN",
    "2MIDDLE RING LITTLE|2NO THUMB|2OPEN|3NO THUMB|3THUMB FORWARD|4SIDE|2THUMB FORWARD|3SIDE",
    "1HAND-CURLICUE|2INDEX RING LITTLE ON|2MIDDLE RING LITTLE ON|2OPEN|1HAND-FIST",
    "2FOUR FINGERS CONJOINED BENT|2HEEL|2INDEX|3BENT|4OVER MIDDLE|3CUPPED|3HINGED|4LOW|4MIDDLE UP",
    "6THUMB SIDE|3MIDDLE|4BENT|5THUMB STRAIGHT|4CONJOINED|5CUPPED|6THUMB FORWARD|5HINGED",
    "6THUMB SIDE|5INDEX BENT|5MIDDLE BENT|5THUMB FORWARD|6SIDE|7BENT|7CONJOINED|4CROSS LITTLE",
    "4CROSSED|5THUMB SIDE|4HINGED|5SPREAD THUMB SIDE|4LITTLE|4RAISED KNUCKLES|4RING|5BENT",
    "5CONJOINED|4STRAIGHT THUMB BENT|4THUMB|5ANGLED|6OUT|5BENT|5CIRCLED|5CONJOINED HINGED|5CUPPED",
    "5HINGED|5HOOKED|4UP SPREAD THUMB FORWARD|3RAISED KNUCKLE|3RING LITTLE",
    "3THUMB ANGLED IN MIDDLE UP|5OUT MIDDLE UP|4CIRCLE|4CIRCLED MIDDLE UP|4CUPPED MIDDLE UP",
    "4CURLICUE|4CURVE THUMB INSIDE|6UNDER|4FORWARD INDEX BENT|6STRAIGHT|4HOOK",
    "4HOOKED MIDDLE HINGED|6UP|4SIDE|5BOTH BENT|5INDEX BENT|6HINGE|5THUMB BENT|6CONJOINED",
    "6DIAGONAL|3UP MIDDLE HINGED|6THUMB CONJOINED|7SIDE|2LITTLE BENT|3DOWN|4OTHERS CIRCLED",
    "4RIPPLE CURVED|5STRAIGHT|3INDEX|4THUMB|3RAISED KNUCKLE|3THUMB|3TOUCHES THUMB|3UP",
    "2MIDDLE BENT OVER INDEX|3DOWN|3LITTLE|3RAISED KNUCKLE|3RING LITTLE|3THUMB ANGLED INDEX UP",
    "5OUT INDEX CROSSED|7UP|4CIRCLED INDEX HINGED|6UP|4CUPPED INDEX UP|4HOOKED INDEX UP|4LITTLE",
    "3UP|4THUMB SIDE|2RING DOWN|3INDEX|3LITTLE|3MIDDLE|4CONJOINED|4RAISED KNUCKLES|3RAISED KNUCKLE",
    "3THUMB|3UP|2THUMB|3BETWEEN INDEX MIDDLE|6STRAIGHT|4MIDDLE RING|4RING LITTLE|3FORWARD|3HEEL",
    "3OVER FOUR RAISED KNUCKLES|4TWO FINGERS|3SIDE BENT|4CONJOINED|4DIAGONAL|3UNDER FOUR FINGERS",
    "4INDEX BENT|4LITTLE UP|4THREE FINGERS|4TWO FINGERS|1HAND-FLAT|2BETWEEN PALM FACINGS",
    "2FIVE FINGERS SPREAD|5BENT|5FOUR BENT|5HINGED|6NO THUMB|6THUMB SIDE|5THUMB FORWARD",
    "2FOUR FINGERS|4BENT|4CONJOINED|5SPLIT|4HINGED|2HEEL|3FIVE FINGERS SPREAD|6BENT|6FOUR BENT",
    "3THUMB SIDE|2SPLIT CENTRE|4THUMB SIDE|6BENT|3INDEX THUMB SIDE|3LITTLE|2THUMB BENT|3FORWARD",
    "3SIDE|1HAND-HINGE|2FIVE FINGERS SPREAD OPEN|2FOUR FINGERS CONJOINED|2INDEX|3HINGED",
    "3MIDDLE LITTLE|4RING|5CONJOINED|3RING LITTLE|3THUMB|4LARGE|4OPEN|4SIDE|4SMALL|2LITTLE|3INDEX",
    "4THUMB|3THUMB|2MIDDLE|3RING LITTLE|2NO THUMB|2OPEN|3NO THUMB|3THUMB FORWARD|4SIDE|2RING",
    "3DOWN INDEX THUMB HOOK MIDDLE|2SMALL|2THUMB BETWEEN MIDDLE RING|3SIDE|4TOUCHING INDEX",
    "1HAND-HOOK|2CURLICUE|2INDEX RING LITTLE IN|5OUT|5UNDER|2MIDDLE RING LITTLE CONJOINED|6IN|6OUT",
    "3THUMB|2RING THUMB|1HAND-OVAL|2FIVE FINGERS SPREAD|2INDEX|2LITTLE UP|2NO THUMB|2RING LITTLE",
    "2THUMB FORWARD|3SIDE|1HEAD|2MOVEMENT CIRCLE|2MOVEMENT-FLOORPLANE CURVE|3STRAIGHT",
    "2MOVEMENT-WALLPLANE CURVE|3STRAIGHT|3TILT|2RIM|1LIMB COMBINATION|2LENGTH-1|2LENGTH-2",
    "2LENGTH-3|2LENGTH-4|2LENGTH-5|2LENGTH-6|2LENGTH-7|1LIP LOWER OVER UPPER|2UPPER OVER LOWER",
    "1LIPS PRESSED TOGETHER|1LOCATION DEPTH|2HEAD NECK|2HEIGHT|2LIMBS DIGITS|2TORSO|2WIDTH",
    "1LOCATION-FLOORPLANE SPACE|1LOCATION-WALLPLANE SPACE|1MOUTH CLOSED CONTACT|3FORWARD|3NEUTRAL",
    "2CORNERS|2FROWN|3OPEN|3WRINKLED|2KISS|3FORWARD|3WRINKLED|2OPEN CIRCLE|3FORWARD|3OVAL",
    "4WRINKLED|4YAWN|3RECTANGLE|4WRINKLED|4YAWN|3WRINKLED|2SMILE|3OPEN|3WRINKLED|2TENSE|3FORWARD",
    "3SUCKED|2WRINKLES DOUBLE|3SINGLE|1MOVEMENT-DIAGONAL AWAY LARGE|3LARGEST|3MEDIUM|3SMALL",
    "2BETWEEN AWAY LARGE|4LARGEST|4MEDIUM|4SMALL|3TOWARDS LARGE|4LARGEST|4MEDIUM|4SMALL",
    "2TOWARDS LARGE|3LARGEST|3MEDIUM|3SMALL",
    "1MOVEMENT-FLOORPLANE ARM CIRCLE HITTING WALL LARGE DOUBLE|7SINGLE|6MEDIUM DOUBLE|7SINGLE",
    "6SMALL DOUBLE|7SINGLE|2BEND|2BOX LARGE|3MEDIUM|3SMALL|2CHECK|2CORNER LARGE|3MEDIUM|3SMALL",
    "2CROSS|2CURVE COMBINED|3HITTING CEILING LARGE|5SMALL|4FLOOR LARGE|5SMALL|3LARGE|3LARGEST",
    "3MEDIUM|3SMALL|2DOUBLE ALTERNATING|4WRIST FLEX|3STRAIGHT|3WRIST FLEX",
    "2FINGER CIRCLES HITTING WALL DOUBLE|6SINGLE|3CONTACT|2HUMP HITTING CEILING LARGE DOUBLE",
    "6TRIPLE|5SMALL DOUBLE|6TRIPLE|4FLOOR LARGE DOUBLE|5SMALL DOUBLE|5TRIPLE LARGE TRIPLE",
    "6SMALL TRIPLE|3SMALL|2JAW|2LOOP HITTING CEILING LARGE DOUBLE|6SINGLE|5SMALL DOUBLE|6SINGLE",
    "4FLOOR LARGE DOUBLE|6SINGLE|5SMALL DOUBLE|6SINGLE|3SMALL|2PEAKS LARGE|3MEDIUM|3SMALL",
    "2SHAKING PARALLEL|2SINGLE STRAIGHT LARGE|4LARGEST|4MEDIUM|4SMALL|3WRIST FLEX",
    "2TRIPLE ALTERNATING MOVEMENT|4WRIST FLEX|3STRAIGHT MOVEMENT|3WRIST FLEX",
    "2WAVE HITTING CEILING LARGE|5SMALL|4FLOOR LARGE|5SMALL|3LARGE|3SMALL|3SNAKE",
    "2WRIST CIRCLE HITTING WALL DOUBLE|6SINGLE|2ZIGZAG LARGE|3MEDIUM|3SMALL",
    "1MOVEMENT-HINGE DOWN SEQUENTIAL|2SIDE TO SIDE SCISSORS|2UP DOWN ALTERNATING LARGE|5SMALL",
    "4LARGE|4SMALL|3SEQUENTIAL|1MOVEMENT-WALLPLANE ARM CIRCLE MEDIUM DOUBLE|5SINGLE|4SMALL DOUBLE",
    "5SINGLE|2BEND LARGE|3MEDIUM|3SMALL|2BOX LARGE|3MEDIUM|3SMALL|2CHECK LARGE|3MEDIUM|3SMALL",
    "2CORNER LARGE|3MEDIUM|3ROTATION|3SMALL|2CROSS|2CURVE HALF-CIRCLE LARGE|4LARGEST|4MEDIUM",
    "4SMALL|3HITTING CHEST|4FRONT WALL|3QUARTER LARGE|4LARGEST|4MEDIUM|4SMALL|3THEN STRAIGHT",
    "3THREE-QUARTER CIRCLE MEDIUM|5SMALL|2CURVED CROSS MEDIUM|4SMALL|2DOUBLE ALTERNATING",
    "4WRIST FLEX|3STRAIGHT|3WRIST FLEX|2FINGER CIRCLES DOUBLE|4SINGLE|3CONTACT|2HUMP HITTING CHEST",
    "4FRONT WALL|3LARGE|3MEDIUM|3SMALL|2JAW|2LOOP HITTING CHEST|4FRONT WALL|3LARGE|3MEDIUM|3SMALL",
    "4DOUBLE|2PEAKS LARGE|3MEDIUM|3SMALL|2SHAKING|2SINGLE STRAIGHT LARGE|4LARGEST|4MEDIUM|4SMALL",
    "3WRIST FLEX|2TRIPLE ALTERNATING|4WRIST FLEX|3STRAIGHT MOVEMENT|3WRIST FLEX",
    "2WAVE CURVE DOUBLE LARGE|5MEDIUM|5SMALL|4TRIPLE LARGE|5MEDIUM|5SMALL|3DIAGONAL PATH LARGE",
    "5MEDIUM|5SMALL|3HITTING CHEST|4FRONT WALL|2WRIST CIRCLE FRONT DOUBLE|5SINGLE|2ZIGZAG LARGE",
    "3MEDIUM|3SMALL|1NECK|1NOSE CONTACT|2NEUTRAL|2WIGGLES|2WRINKLES|1PARENTHESIS",
    "1ROTATION MODIFIER-10|2MODIFIER-11|2MODIFIER-12|2MODIFIER-13|2MODIFIER-14|2MODIFIER-15",
    "2MODIFIER-16|2MODIFIER-2|2MODIFIER-3|2MODIFIER-4|2MODIFIER-5|2MODIFIER-6|2MODIFIER-7",
    "2MODIFIER-8|2MODIFIER-9|1ROTATION-FLOORPLANE ALTERNATING|3HITTING CEILING|4FLOOR|2DOUBLE",
    "3HITTING CEILING|4FLOOR|2SINGLE|3HITTING CEILING|4FLOOR|1ROTATION-WALLPLANE ALTERNATE",
    "2ALTERNATING HITTING CHEST|4FRONT WALL|2DOUBLE|3HITTING CHEST|4FRONT WALL|2SINGLE",
    "3HITTING CHEST|4FRONT WALL|1RUB BETWEEN|2MULTIPLE|2SINGLE|1SEMICOLON|1SHOULDER HIP POSITIONS",
    "3SPINE|2TILTING FROM WAIST|1SQUEEZE FLICK ALTERNATING|2LARGE MULTIPLE|3SINGLE|2SEQUENTIAL",
    "2SMALL MULTIPLE|3SINGLE|1STRIKE BETWEEN|2MULTIPLE|2SINGLE|1SURFACE BETWEEN|2SYMBOLS|1TEETH",
    "2BITE LIPS|2MOVEMENT|2ON LIPS|4MOVEMENT|3TONGUE|4MOVEMENT|1TENSE CHEEKS HIGH|3LOW|3MIDDLE",
    "1TONGUE CENTRE INSIDE MOUTH|3STICKING OUT|2INSIDE MOUTH RELAXED|2LICKING LIPS",
    "2MOVES AGAINST CHEEK|2STICKING OUT FAR|2TIP BETWEEN LIPS|3TOUCHING INSIDE MOUTH",
    "1TORSO-FLOORPLANE TWISTING|1TORSO-WALLPLANE CURVED BEND|2STRAIGHT STRETCH|1TOUCH BETWEEN",
    "2MULTIPLE|2SINGLE|1TRAVEL-FLOORPLANE ROTATION-FLOORPLANE ALTERNATING|3DOUBLE|3SINGLE",
    "2ROTATION-WALLPLANE ALTERNATING|3DOUBLE|3SINGLE|2SHAKING|1TRAVEL-WALLPLANE ARM SPIRAL DOUBLE",
    "4SINGLE|4TRIPLE|2ROTATION-FLOORPLANE ALTERNATING|3DOUBLE|3SINGLE",
    "2ROTATION-WALLPLANE ALTERNATING|3DOUBLE|3SINGLE|2SHAKING|1UPPER BODY TILTING FROM HIP JOINTS",
    "1WALLPLANE SHOULDER HIP MOVE|0SILHOUETTE OF JAPAN",
    "0SIMILAR ABOVE GREATER-THAN ABOVE EQUALS SIGN|2LESS-THAN ABOVE EQUALS SIGN|1MINUS SIMILAR",
    "1OR GREATER-THAN|2LESS-THAN|0SINE WAVE|0SINGLE CHARACTER INTRODUCER",
    "1GRAPHIC CHARACTER INTRODUCER|1HIGH-REVERSED-9 QUOTATION MARK",
    "1LEFT-POINTING ANGLE QUOTATION MARK|1LOW-9 QUOTATION MARK",
    "1RIGHT-POINTING ANGLE QUOTATION MARK|1SHIFT THREE|2TWO|0SINGLE-SHIFT-2|0SINGLE-SHIFT-3",
    "0SIX PETALLED BLACK AND WHITE FLORETTE|1POINTED BLACK STAR|2PINWHEEL STAR",
    "2STAR WITH MIDDLE DOT|0SIX-PER-EM SPACE|0SIXTEEN POINTED ASTERISK|0SKATEBOARD",
    "0SKI AND SKI BOOT|0SKIER|0SKULL|1AND CROSSBONES|0SKUNK|0SLANTED EQUAL TO OR GREATER-THAN",
    "5WITH DOT INSIDE|4LESS-THAN|5WITH DOT INSIDE|1NORTH ARROW WITH HOOKED HEAD|4HORIZONTAL TAIL",
    "0SLED|0SLEEPING ACCOMMODATION|1FACE|1SYMBOL|0SLEEPY FACE|0SLEUTH OR SPY|0SLICE OF PIZZA",
    "0SLIGHTLY FROWNING FACE|1SMILING FACE|0SLOPE|0SLOPING LARGE AND|2OR|0SLOT MACHINE|0SLOTH",
    "0SMALL AIRPLANE|1AMPERSAND|1ASTERISK|1BLUE DIAMOND|1COLON|1COMMA|1COMMERCIAL AT",
    "1CONTAINS AS MEMBER|2WITH OVERBAR|3VERTICAL BAR AT END OF HORIZONTAL STROKE|1DOLLAR SIGN",
    "1ELEMENT OF|3WITH OVERBAR|4VERTICAL BAR AT END OF HORIZONTAL STROKE|1EM DASH|1EQUALS SIGN",
    "1EXCLAMATION MARK|1FULL STOP|1GREATER-THAN SIGN|1HYPHEN-MINUS|1IDEOGRAPHIC COMMA",
    "1LEFT CURLY BRACKET|2PARENTHESIS|2TORTOISE SHELL BRACKET|1LESS-THAN SIGN|1NUMBER SIGN",
    "1ORANGE DIAMOND|1PERCENT SIGN|1PLUS SIGN|1QUESTION MARK|1REVERSE SOLIDUS|1RIGHT CURLY BRACKET",
    "2PARENTHESIS|2TORTOISE SHELL BRACKET|1ROMAN NUMERAL EIGHT|3ELEVEN|3FIFTY|3FIVE|4HUNDRED|3FOUR",
    "3NINE|3ONE|4HUNDRED|4THOUSAND|3SEVEN|3SIX|3TEN|3THREE|3TWELVE|3TWO|1SEMICOLON",
    "1VEE WITH UNDERBAR|0SMALLER THAN|2OR EQUAL TO|0SMASH PRODUCT|0SMILE",
    "0SMILING CAT FACE WITH HEART-SHAPED EYES|4OPEN MOUTH|1FACE WITH HALO|3HEART-SHAPED EYES",
    "3HORNS|3OPEN MOUTH|5AND COLD SWEAT|6SMILING EYES|6TIGHTLY-CLOSED EYES|3SMILING EYES",
    "5AND HAND COVERING MOUTH|6THREE HEARTS|3SUNGLASSES|3TEAR|0SMIRKING FACE|0SMOKING SYMBOL",
    "0SNAIL|0SNAKE|0SNEEZING FACE|0SNOW CAPPED MOUNTAIN|0SNOWBOARDER|0SNOWFLAKE|0SNOWMAN",
    "1WITHOUT SNOW|0SO|0SOCCER BALL|0SOCKS|0SOFT ICE CREAM|1SHELL FLOPPY DISK|0SOFTBALL",
    "0SOFTWARE-FUNCTION SYMBOL|0SOH|0SOLID QUILT SQUARE ORNAMENT|4IN BLACK SQUARE",
    "0SOLIDUS WITH OVERBAR|0SOM SIGN|0SOON WITH RIGHTWARDS ARROW ABOVE|0SOS",
    "0SOUND RECORDING COPYRIGHT|0SOUTH EAST ARROW|3AND SOUTH WEST ARROW|3CROSSING NORTH EAST ARROW",
    "3TO CORNER|3WITH HOOK|2BLACK ARROW|2DOUBLE ARROW|2POINTING BUD|3LEAF|3VINE LEAF",
    "2SANS-SERIF ARROW|2TRIANGLE-HEADED ARROW|4TO BAR|2WHITE ARROW|1WEST ARROW",
    "3AND NORTH WEST ARROW|3WITH HOOK|2BLACK ARROW|2DOUBLE ARROW|2POINTING BUD|3LEAF|3VINE LEAF",
    "2SANS-SERIF ARROW|2TRIANGLE-HEADED ARROW|4TO BAR|2WHITE ARROW|0SP|0SPA|0SPAGHETTI|0SPARKLE",
    "0SPARKLES|0SPARKLING HEART|0SPEAK-NO-EVIL MONKEY|0SPEAKER|1WITH CANCELLATION STROKE",
    "2ONE SOUND WAVE|2THREE SOUND WAVES|0SPEAKING HEAD IN SILHOUETTE|0SPEECH BALLOON|0SPEEDBOAT",
    "0SPESMILO SIGN|0SPHERICAL ANGLE|2OPENING LEFT|3UP|0SPIDER|1WEB|0SPIRAL CALENDAR PAD|1NOTE PAD",
    "1SHELL|0SPLASHING SWEAT SYMBOL|0SPONGE|0SPOOL OF THREAD|0SPOON|0SPORTS MEDAL|0SPOUTING WHALE",
    "0SQUARE CAP|1CUP|1DJ|1FOOT|1FOUR CORNERS|1IMAGE OF|3OR EQUAL TO|4NOT EQUAL TO",
    "1LEFT OPEN BOX OPERATOR|1LOZENGE|1ORIGINAL OF|3OR EQUAL TO|4NOT EQUAL TO|1POSITION INDICATOR",
    "1RIGHT OPEN BOX OPERATOR|1ROOT|1TARGET|1WITH BOTTOM HALF BLACK|2CONTOURED OUTLINE",
    "2DIAGONAL CROSSHATCH FILL|2HORIZONTAL FILL|2LEFT HALF BLACK|2LOWER LEFT DIAGONAL HALF BLACK",
    "3RIGHT DIAGONAL HALF BLACK|2ORTHOGONAL CROSSHATCH FILL|2RIGHT HALF BLACK|2TOP HALF BLACK",
    "2UPPER LEFT DIAGONAL HALF BLACK|4TO LOWER RIGHT FILL|3RIGHT DIAGONAL HALF BLACK",
    "4TO LOWER LEFT FILL|2VERTICAL FILL|0SQUARED ASTERISK|1CL|1COOL|1DOT OPERATOR|1EIGHT K",
    "1FALLING DIAGONAL SLASH|1FIVE POINT ONE|1FOUR DOT PUNCTUATION|2K|1FREE|1HC|1HDR|1HI-RES|1HV",
    "1ID|1KEY|1LATIN CAPITAL LETTER A|4B|4C|4D|4E|4F|4G|4H|4I|4J|4K|4L|4M|4N|4O|4P|4Q|4R|4S|4T|4U",
    "4V|4W|4X|4Y|4Z|2SMALL LETTER D|1LOGICAL AND|2OR|1LOSSLESS|1MINUS|1MV|1NEW|1NG|1OK",
    "1ONE HUNDRED TWENTY P|1PLUS|1PPV|1RISING DIAGONAL SLASH|1SALTIRE|1SD|1SECOND SCREEN",
    "1SEVEN POINT ONE|1SHV|1SIXTY P|1SMALL CIRCLE|1SOS|1SQUARE|1SS|1THREE D|1TIMES",
    "1TWENTY-TWO POINT TWO|1TWO K|1UHD|1UP WITH EXCLAMATION MARK|1VOD|1VS|1WC",
    "0SQUAT BLACK RIGHTWARDS ARROW|0SQUID|0SS2|0SS3|0SSA|0ST|0STADIUM|0STAFF OF AESCULAPIUS",
    "2HERMES|0STAMPED ENVELOPE|0STANDING PERSON|0STAR AND CRESCENT|1EQUALS|1OF DAVID|1OPERATOR",
    "1WITH LEFT HALF BLACK|2RIGHT HALF BLACK|0START OF GUARDED AREA|2HEADING|2PROTECTED AREA",
    "2SELECTED AREA|2STRING|2TEXT|0STATION|0STATUE OF LIBERTY|0STEAM LOCOMOTIVE|0STEAMING BOWL",
    "0STENOGRAPHIC FULL STOP|0STETHOSCOPE|0STICK FIGURE|2LEANING LEFT|3RIGHT|2WITH ARMS RAISED",
    "3DRESS|0STOCK CHART|0STOPWATCH|0STRAIGHT RULER|0STRAIGHTNESS|0STRAWBERRY",
    "0STRESS OUTLINED WHITE STAR|0STRICTLY EQUIVALENT TO|0STRING TERMINATOR|0STS",
    "0STUDIO MICROPHONE|0STUFFED FLATBREAD|0STUPA|0STX|0SUB|0SUBSCRIPT EIGHT|1EQUALS SIGN|1FIVE",
    "1FOUR|1LEFT PARENTHESIS|1MINUS|1NINE|1ONE|1PLUS SIGN|1RIGHT PARENTHESIS|1SEVEN|1SIX|1THREE",
    "1TWO|1ZERO|0SUBSET ABOVE RIGHTWARDS ARROW|2SUBSET|2SUPERSET|1OF|2ABOVE ALMOST EQUAL TO",
    "3EQUALS SIGN|3NOT EQUAL TO|3TILDE OPERATOR|2OR EQUAL TO|5WITH DOT ABOVE|2WITH NOT EQUAL TO",
    "1WITH DOT|2MULTIPLICATION SIGN BELOW|2PLUS SIGN BELOW|0SUBSTITUTE|0SUCCEEDS",
    "1ABOVE ALMOST EQUAL TO|2EQUALS SIGN|2NOT ALMOST EQUAL TO|3EQUAL TO|2SINGLE-LINE EQUALS SIGN",
    "3NOT EQUAL TO|1BUT NOT EQUIVALENT TO|1OR EQUAL TO|2EQUIVALENT TO|1UNDER RELATION",
    "0SUMMATION BOTTOM|1TOP|1WITH INTEGRAL|0SUN|1BEHIND CLOUD|1WITH FACE|0SUNFLOWER|0SUNRISE",
    "1OVER MOUNTAINS|0SUNSET OVER BUILDINGS|0SUPERHERO|0SUPERSCRIPT EIGHT|1EQUALS SIGN|1FIVE|1FOUR",
    "1LATIN SMALL LETTER I|4N|1LEFT PARENTHESIS|1MINUS|1NINE|1PLUS SIGN|1RIGHT PARENTHESIS|1SEVEN",
    "1SIX|1ZERO|0SUPERSET ABOVE LEFTWARDS ARROW|2SUBSET|2SUPERSET",
    "1BESIDE AND JOINED BY DASH WITH SUBSET|2SUBSET|1OF|2ABOVE ALMOST EQUAL TO|3EQUALS SIGN",
    "3NOT EQUAL TO|3TILDE OPERATOR|2OR EQUAL TO|5WITH DOT ABOVE|2WITH NOT EQUAL TO",
    "1PRECEDING SOLIDUS|1WITH DOT|2MULTIPLICATION SIGN BELOW|2PLUS SIGN BELOW|0SUPERVILLAIN",
    "0SURFACE INTEGRAL|0SURFER|0SUSHI|0SUSPENSION RAILWAY|0SWAN|0SWASH AMPERSAND ORNAMENT|0SWIMMER",
    "0SWUNG DASH|0SYMBOL FOR ACKNOWLEDGE|2BACKSPACE|2BELL|2CANCEL|2CARRIAGE RETURN",
    "2DATA LINK ESCAPE|2DELETE|3FORM TWO|2DEVICE CONTROL FOUR|4ONE|4THREE|4TWO|2END OF MEDIUM",
    "4TEXT|4TRANSMISSION|5BLOCK|2ENQUIRY|2ESCAPE|2FILE SEPARATOR|2FORM FEED|2GROUP SEPARATOR",
    "2HORIZONTAL TABULATION|2LINE FEED|2MARKS CHAPTER|2NEGATIVE ACKNOWLEDGE|2NEWLINE|2NULL",
    "2RECORD SEPARATOR|2SAMARITAN SOURCE|2SHIFT IN|3OUT|2SPACE|2START OF HEADING|4TEXT|2SUBSTITUTE",
    "3FORM TWO|2SYNCHRONOUS IDLE|2TYPE A ELECTRONICS|2UNIT SEPARATOR|2VERTICAL TABULATION",
    "0SYMMETRY|0SYN|0SYNAGOGUE|0SYNCHRONOUS IDLE|0SYRINGE|0T-REX|0T-SHIRT|0TAB",
    "0TABLE TENNIS PADDLE AND BALL|0TACO|0TAG AMPERSAND|1APOSTROPHE|1ASTERISK|1CIRCUMFLEX ACCENT",
    "1COLON|1COMMA|1COMMERCIAL AT|1DIGIT EIGHT|2FIVE|2FOUR|2NINE|2ONE|2SEVEN|2SIX|2THREE|2TWO",
    "2ZERO|1DOLLAR SIGN|1EQUALS SIGN|1EXCLAMATION MARK|1FULL STOP|1GRAVE ACCENT|1GREATER-THAN SIGN",
    "1HYPHEN-MINUS|1LATIN CAPITAL LETTER A|4B|4C|4D|4E|4F|4G|4H|4I|4J|4K|4L|4M|4N|4O|4P|4Q|4R|4S",
    "4T|4U|4V|4W|4X|4Y|4Z|2SMALL LETTER A|4B|4C|4D|4E|4F|4G|4H|4I|4J|4K|4L|4M|4N|4O|4P|4Q|4R|4S|4T",
    "4U|4V|4W|4X|4Y|4Z|1LEFT CURLY BRACKET|2PARENTHESIS|2SQUARE BRACKET|1LESS-THAN SIGN|1LOW LINE",
    "1NUMBER SIGN|1PERCENT SIGN|1PLUS SIGN|1QUESTION MARK|1QUOTATION MARK|1REVERSE SOLIDUS",
    "1RIGHT CURLY BRACKET|2PARENTHESIS|2SQUARE BRACKET|1SEMICOLON|1SOLIDUS|1SPACE|1TILDE",
    "1VERTICAL LINE|0TAKEOUT BOX|0TAMALE|0TANABATA TREE|0TANGERINE|0TAPE CARTRIDGE|1DRIVE|0TAURUS",
    "0TAXI|0TEACUP WITHOUT HANDLE|0TEAPOT|0TEAR-OFF CALENDAR|0TEARDROP-BARBED RIGHTWARDS ARROW",
    "0TEARDROP-SPOKED ASTERISK|0TEDDY BEAR|0TELEPHONE LOCATION SIGN|1ON TOP OF MODEM|1RECEIVER",
    "2WITH PAGE|1RECORDER|1SIGN|0TELESCOPE|0TELEVISION|0TENGE SIGN|0TENNIS RACQUET AND BALL|0TENT",
    "0TEST TUBE|0THERE DOES NOT EXIST|1EXISTS|0THEREFORE|0THERMODYNAMIC|0THERMOMETER",
    "0THIN GREEK CROSS|1SALTIRE|1SPACE|0THINKING FACE|0THIRD PLACE MEDAL|0THONG SANDAL",
    "0THOUGHT BALLOON|0THREE BUTTON MOUSE|1CONSECUTIVE EQUALS SIGNS|1DIMENSIONAL ANGLE",
    "1DOT PUNCTUATION|1LEFTWARDS ARROWS|1LINES CONVERGING LEFT|3RIGHT|1NETWORKED COMPUTERS",
    "1POINTED BLACK STAR|1RAYS ABOVE|2BELOW|2LEFT|2RIGHT|1RIGHTWARDS ARROWS|1SPEECH BUBBLES",
    "0THREE-D BOTTOM-LIGHTED RIGHTWARDS ARROWHEAD|1LEFT-LIGHTED DOWNWARDS EQUILATERAL ARROWHEAD",
    "1RIGHT-LIGHTED UPWARDS EQUILATERAL ARROWHEAD|1TOP-LIGHTED LEFTWARDS EQUILATERAL ARROWHEAD",
    "2RIGHTWARDS ARROWHEAD|3EQUILATERAL ARROWHEAD|0THREE-EM DASH|0THREE-PER-EM SPACE",
    "0THUMBS DOWN SIGN|1UP SIGN|0THUNDER CLOUD AND RAIN|0THUNDERSTORM|0TICKET|0TIE OVER INFINITY",
    "0TIGER|1FACE|0TIGHT TRIFOLIATE SNOWFLAKE|0TILDE OPERATOR|2ABOVE LEFTWARDS ARROW",
    "3RIGHTWARDS ARROW|2WITH DOT ABOVE|3RISING DOTS|1WITH DOT ABOVE|3BELOW|2RING ABOVE",
    "0TIMER CLOCK|0TIMES WITH LEFT HALF BLACK|2RIGHT HALF BLACK|0TINY|0TIRED FACE",
    "0TIRONIAN SIGN CAPITAL ET|2ET|0TOILET|0TOKYO TOWER|0TOMATO|0TONGUE|0TOOLBOX|0TOOTH",
    "0TOOTHBRUSH|0TOP ARC ANTICLOCKWISE ARROW|4WITH PLUS|2CLOCKWISE ARROW WITH MINUS",
    "1CURLY BRACKET|1HALF BLACK CIRCLE|2INTEGRAL|2LEFT PARENTHESIS|2RIGHT PARENTHESIS",
    "2SECTION SIGN|1HAT|1LEFT CORNER|2CROP|2HALF BRACKET|1PARENTHESIS|1RIGHT CORNER|2CROP",
    "2HALF BRACKET|1SQUARE BRACKET|1TORTOISE SHELL BRACKET|1WITH UPWARDS ARROW ABOVE",
    "0TORTOISE SHELL BRACKETED LATIN CAPITAL LETTER S|0TOTAL RUNOUT|0TRACKBALL|0TRACTOR",
    "0TRADE MARK SIGN|0TRAIN|0TRAM|1CAR|0TRANSPLUTO|0TRANSVERSAL INTERSECTION",
    "0TRIANGLE WITH DOT ABOVE|2ROUNDED CORNERS|2SERIFS AT BOTTOM|2UNDERBAR",
    "0TRIANGLE-HEADED RIGHTWARDS ARROW|0TRIANGULAR BULLET|1FLAG ON POST|1RULER|0TRICOLON",
    "0TRIDENT EMBLEM|0TRIGRAM FOR EARTH|2FIRE|2HEAVEN|2LAKE|2MOUNTAIN|2THUNDER|2WATER|2WIND",
    "0TRIPLE COLON OPERATOR|1DAGGER|1HORIZONTAL BAR WITH DOUBLE VERTICAL STROKE",
    "4TRIPLE VERTICAL STROKE|1INTEGRAL|1NESTED GREATER-THAN|2LESS-THAN|1PLUS|1PRIME",
    "1SOLIDUS BINARY RELATION|1TILDE|1VERTICAL BAR BINARY RELATION|3DELIMITER|3RIGHT TURNSTILE",
    "3WITH HORIZONTAL STROKE|0TROLL|0TROLLEYBUS|0TROPHY|0TROPICAL DRINK|1FISH|0TRUE",
    "1LIGHT MOON ARTA|0TRUMPET|0TUGRIK SIGN|0TULIP|0TUMBLER GLASS|0TURKEY|0TURKISH LIRA SIGN",
    "0TURNED AMPERSAND|1ANGLE|1BLACK PENTAGON|2SHOGI PIECE|1CAPITAL F|1COMMA|1DAGGER|1DIGIT THREE",
    "2TWO|1GREEK SMALL LETTER IOTA|1NORTH EAST POINTING LEAF|2WEST POINTING LEAF|1NOT SIGN",
    "1OK HAND SIGN|1SANS-SERIF CAPITAL G|3L|3Y|1SEMICOLON|1SMALL F|1SOUTH EAST POINTING LEAF",
    "2WEST POINTING LEAF|1WHITE SHOGI PIECE|0TURTLE|0TWELVE POINTED BLACK STAR",
    "0TWISTED RIGHTWARDS ARROWS|0TWO ASTERISKS ALIGNED VERTICALLY|1BUTTON MOUSE",
    "1CONSECUTIVE EQUALS SIGNS|1DOT LEADER|2PUNCTUATION|1DOTS OVER ONE DOT PUNCTUATION|1HEARTS",
    "1INTERSECTING LOGICAL AND|3OR|1JOINED SQUARES|1LOGICAL AND OPERATOR|2OR OPERATOR",
    "1MEN HOLDING HANDS|1SPEECH BUBBLES|1WOMEN HOLDING HANDS|0TWO-EM DASH|0UMBRELLA|1ON GROUND",
    "1WITH RAIN DROPS|0UNAMUSED FACE|0UNCERTAINTY SIGN|0UNDERTIE|0UNDO SYMBOL|0UNICORN FACE|0UNION",
    "1ABOVE BAR ABOVE INTERSECTION|2INTERSECTION|1BESIDE AND JOINED WITH UNION|1WITH LOGICAL OR",
    "2MINUS SIGN|2OVERBAR|0UNIT SEPARATOR|0UNITED SYMBOL|0UNIVERSAL RECYCLING SYMBOL",
    "0UNMARRIED PARTNERSHIP SYMBOL|0UP ARROW THROUGH CIRCLE|1ARROWHEAD",
    "2BETWEEN TWO HORIZONTAL BARS|2IN A RECTANGLE BOX|1BARB LEFT DOWN BARB LEFT HARPOON",
    "5RIGHT HARPOON|2RIGHT DOWN BARB LEFT HARPOON|5RIGHT HARPOON|1DOWN ARROW|3WITH BASE",
    "2BLACK ARROW|2DOUBLE ARROW|2SANS-SERIF ARROW|2TRIANGLE-HEADED ARROW|2WHITE ARROW|1FISH TAIL",
    "1RIGHT DIAGONAL ELLIPSIS|1TACK|2WITH CIRCLE ABOVE|0UP-POINTING AIRPLANE|1MILITARY AIRPLANE",
    "1RED TRIANGLE|1SMALL AIRPLANE|2RED TRIANGLE|1TRIANGLE WITH LEFT HALF BLACK|3RIGHT HALF BLACK",
    "0UPPER AND LEFT AND LOWER TRIANGULAR THREE QUARTERS BLOCK|2LOWER ONE EIGHTH BLOCK",
    "3TRIANGULAR HALF BLOCK|2RIGHT AND LOWER TRIANGULAR THREE QUARTERS BLOCK|1BLADE SCISSORS",
    "1FIVE EIGHTHS BLOCK|1HALF BLOCK|3AND LOWER HALF INVERSE MEDIUM SHADE|2CIRCLE",
    "2INVERSE MEDIUM SHADE AND LOWER HALF BLOCK|3WHITE CIRCLE|2MEDIUM SHADE",
    "1LEFT BLOCK DIAGONAL LOWER CENTRE TO LOWER MIDDLE RIGHT|7UPPER MIDDLE RIGHT|8RIGHT",
    "5LEFT TO LOWER MIDDLE RIGHT|7UPPER CENTRE|8MIDDLE RIGHT|5MIDDLE LEFT TO UPPER CENTRE",
    "9MIDDLE RIGHT|9RIGHT|4UPPER MIDDLE LEFT TO UPPER CENTRE|9RIGHT|2CORNER WITH DOT",
    "2OR LOWER RIGHT CURLY BRACKET SECTION|2QUADRANT CIRCULAR ARC|2TO LOWER RIGHT FILL|2TRIANGLE",
    "2TRIANGULAR MEDIUM SHADE|1ONE EIGHTH BLOCK|2QUARTER BLOCK",
    "1RIGHT BLOCK DIAGONAL LOWER MIDDLE LEFT TO LOWER CENTRE|9RIGHT",
    "4UPPER CENTRE TO LOWER MIDDLE RIGHT|8RIGHT|7UPPER MIDDLE RIGHT|5LEFT TO LOWER CENTRE",
    "8MIDDLE RIGHT|7UPPER MIDDLE RIGHT|5MIDDLE LEFT TO LOWER CENTRE|9MIDDLE RIGHT|9RIGHT",
    "2DROP-SHADOWED WHITE SQUARE|2OR LOWER LEFT CURLY BRACKET SECTION|2PENCIL",
    "2QUADRANT CIRCULAR ARC|2SHADOWED WHITE CIRCLE|4SQUARE|2TO LOWER LEFT FILL|2TRIANGLE",
    "2TRIANGULAR MEDIUM SHADE|1SEVEN EIGHTHS BLOCK|1THREE EIGHTHS BLOCK|2QUARTERS BLOCK",
    "1TRIANGULAR ONE QUARTER BLOCK|0UPSIDE-DOWN FACE|0UPWARDS ANCORA|1ARROW",
    "2AND RIGHT ONE EIGHTH BLOCK|2FROM BAR|2LEFTWARDS OF DOWNWARDS ARROW|2TO BAR",
    "2WITH DOUBLE STROKE|3EQUILATERAL ARROWHEAD|3HORIZONTAL STROKE|3LARGE TRIANGLE ARROWHEAD",
    "3MEDIUM TRIANGLE ARROWHEAD|3NOTCHED TAIL|3SMALL EQUILATERAL ARROWHEAD|4TRIANGLE ARROWHEAD",
    "3TIP LEFTWARDS|4RIGHTWARDS|1BLACK ARROW|2CIRCLED WHITE ARROW|1COMPRESSED ARROW|1DASHED ARROW",
    "1DOUBLE ARROW|1FINGER-POST ARROW",
    "1HARPOON WITH BARB LEFT BESIDE DOWNWARDS HARPOON WITH BARB RIGHT",
    "6UPWARDS HARPOON WITH BARB RIGHT|5FROM BAR|5TO BAR|4LEFTWARDS|4RIGHT FROM BAR|5TO BAR",
    "4RIGHTWARDS|1HEAVY ARROW|2COMPRESSED ARROW|1PAIRED ARROWS|1QUADRUPLE ARROW|1ROCKET",
    "1SANS-SERIF ARROW|1SQUARED ARROW|1TRIANGLE ARROWHEAD|1TRIANGLE-HEADED ARROW",
    "3LEFTWARDS OF DOWNWARDS TRIANGLE-HEADED ARROW|3TO BAR|3WITH BOLD SHAFT",
    "4DOUBLE HORIZONTAL STROKE|4HEAVY SHAFT|4LONG TIP LEFTWARDS|6RIGHTWARDS|4MEDIUM SHAFT",
    "4NARROW SHAFT|4VERY HEAVY SHAFT|2DASHED ARROW|2PAIRED ARROWS|1TRIPLE ARROW|1TWO HEADED ARROW",
    "1TWO-HEADED ARROW FROM SMALL CIRCLE|3WITH TRIANGLE ARROWHEADS|1WHITE ARROW|3FROM BAR",
    "5WITH HORIZONTAL BAR|3ON PEDESTAL|5WITH HORIZONTAL BAR|6VERTICAL BAR",
    "3WITHIN TRIANGLE ARROWHEAD|2DOUBLE ARROW|4ON PEDESTAL|0URANUS|0US|0VAMPIRE",
    "0VECTOR OR CROSS PRODUCT|0VERSICLE|0VERTICAL BAR BESIDE RIGHT TRIANGLE|2DOUBLE LEFT TURNSTILE",
    "2TRIPLE RIGHT TURNSTILE|2WITH HORIZONTAL STROKE|1ELLIPSIS|1FOUR DOTS|1LINE EXTENSION",
    "2WITH CIRCLE ABOVE|4BELOW|3MIDDLE DOT|1MALE WITH STROKE SIGN|1ONE EIGHTH BLOCK-2|3BLOCK-3",
    "3BLOCK-4|3BLOCK-5|3BLOCK-6|3BLOCK-7|1SIX DOTS|1TAB KEY|1TABULATION|2SET|1TILDE|1TRAFFIC LIGHT",
    "1ZIGZAG LINE|0VERY BOLD GREEK CROSS|1HEAVY EIGHT POINTED BLACK STAR|3SPOKED ASTERISK",
    "2FIVE SPOKED ASTERISK|2GREEK CROSS|2REVERSE SOLIDUS|2SALTIRE|2SIX SPOKED ASTERISK|2SOLIDUS",
    "2WHITE CIRCLE|3SQUARE|1MUCH GREATER-THAN|2LESS-THAN|0VESTA|0VIBRATION MODE|0VICTORY HAND",
    "0VIDEO CAMERA|1GAME|0VIDEOCASSETTE|0VIEWDATA SQUARE|0VIOLIN|0VIRGO|0VOIDED GREEK CROSS",
    "0VOLCANO|0VOLLEYBALL|0VOLUME INTEGRAL|0VT|0VTS|0VULCANUS|0VULGAR FRACTION FIVE EIGHTHS",
    "3SIXTHS|2FOUR FIFTHS|2ONE EIGHTH|3FIFTH|3NINTH|3SEVENTH|3SIXTH|3TENTH|3THIRD|2SEVEN EIGHTHS",
    "2THREE EIGHTHS|3FIFTHS|2TWO FIFTHS|3THIRDS|2ZERO THIRDS|0WAFFLE|0WANING CRESCENT MOON SYMBOL",
    "1GIBBOUS MOON SYMBOL|0WARNING SIGN|0WASTEBASKET|0WATCH|0WATER BUFFALO|1CLOSET|1POLO|1WAVE",
    "0WATERMELON|0WAVE ARROW POINTING DIRECTLY LEFT|4RIGHT|0WAVING BLACK FLAG|1HAND SIGN",
    "1WHITE FLAG|0WAVY LINE|0WAXING CRESCENT MOON SYMBOL|1GIBBOUS MOON SYMBOL|0WEARY CAT FACE",
    "1FACE|0WEDDING|0WEDGE-TAILED RIGHTWARDS ARROW|0WEIERSTRASS ELLIPTIC FUNCTION|0WEIGHT LIFTER",
    "0WEST SYRIAC CROSS|0WHALE|0WHEEL|1OF DHARMA|0WHEELCHAIR SYMBOL|0WHITE ARROW SHAFT WIDTH ONE",
    "4TWO THIRDS|1BULLET|1CHESS BISHOP|3ROTATED NINETY DEGREES|4TWO HUNDRED SEVENTY DEGREES",
    "2EQUIHOPPER|3ROTATED NINETY DEGREES|2KING|3ROTATED NINETY DEGREES",
    "4TWO HUNDRED SEVENTY DEGREES|2KNIGHT|3ROTATED FORTY-FIVE DEGREES|4NINETY DEGREES",
    "4ONE HUNDRED THIRTY-FIVE DEGREES|4THREE HUNDRED FIFTEEN DEGREES|4TWO HUNDRED SEVENTY DEGREES",
    "6TWENTY-FIVE DEGREES|2KNIGHT-BISHOP|2KNIGHT-QUEEN|2KNIGHT-ROOK|2PAWN|3ROTATED NINETY DEGREES",
    "4TWO HUNDRED SEVENTY DEGREES|2QUEEN|3ROTATED NINETY DEGREES|4TWO HUNDRED SEVENTY DEGREES",
    "2ROOK|3ROTATED NINETY DEGREES|4TWO HUNDRED SEVENTY DEGREES|2TURNED BISHOP|3KING|3KNIGHT|3PAWN",
    "3QUEEN|3ROOK|1CIRCLE|2CONTAINING BLACK SMALL CIRCLE|2WITH DOT RIGHT|3DOWN ARROW",
    "3LOWER LEFT QUADRANT|4RIGHT QUADRANT|3TWO DOTS|3UPPER LEFT QUADRANT|4RIGHT QUADRANT",
    "1CLUB SUIT|1CONCAVE-SIDED DIAMOND|3WITH LEFTWARDS TICK|4RIGHTWARDS TICK|1DIAMOND",
    "2CONTAINING BLACK MEDIUM DIAMOND|4SMALL DIAMOND|4VERY SMALL DIAMOND|2IN SQUARE|2SUIT",
    "2WITH CENTRED DOT|1DOWN POINTING BACKHAND INDEX|3INDEX|3LEFT HAND INDEX",
    "1DOWN-POINTING SMALL TRIANGLE|2TRIANGLE|1DRAUGHTS KING|2MAN|1EXCLAMATION MARK ORNAMENT|1FLAG",
    "2WITH HORIZONTAL MIDDLE BLACK STRIPE|1FLORETTE|1FLOWER|1FOUR POINTED CUSP|3STAR",
    "1FROWNING FACE|1HARD SHELL FLOPPY DISK|1HEART|2SUIT|1HEAVY CHECK MARK",
    "2SALTIRE WITH ROUNDED CORNERS|1HEXAGON|1HORIZONTAL ELLIPSE|1HOURGLASS|1LARGE SQUARE",
    "1LATIN CROSS|1LEFT LANE MERGE|2POINTING BACKHAND INDEX|3INDEX|1LEFT-POINTING POINTER",
    "2SMALL TRIANGLE|2TRIANGLE|1LOZENGE CONTAINING BLACK SMALL LOZENGE|1MEDIUM DIAMOND|2LOZENGE",
    "2SMALL SQUARE|2SQUARE|2STAR|1MOON SELENA|1NIB|1PARALLELOGRAM|1PENNANT|1PENTAGON",
    "1QUESTION MARK ORNAMENT|1RECTANGLE|1RIGHT POINTING BACKHAND INDEX|3INDEX",
    "1RIGHT-POINTING PENTAGON|2POINTER|2SMALL TRIANGLE|2TRIANGLE|1SCISSORS|1SHOGI PIECE",
    "1SMALL LOZENGE|2SQUARE|2STAR|1SMILING FACE|1SPADE SUIT|1SQUARE|2BUTTON",
    "2CONTAINING BLACK MEDIUM SQUARE|4SMALL SQUARE|4VERY SMALL SQUARE|2WITH CENTRE VERTICAL LINE",
    "3LEFTWARDS TICK|3LOWER LEFT QUADRANT|4RIGHT QUADRANT|3RIGHTWARDS TICK|3ROUNDED CORNERS",
    "3UPPER LEFT QUADRANT|4RIGHT QUADRANT|3VERTICAL BISECTING LINE|1STAR|1SUN|2BEHIND CLOUD",
    "4WITH RAIN|2WITH RAYS|3SMALL CLOUD|1TELEPHONE|1TOUCHTONE TELEPHONE|1TRAPEZIUM",
    "1TRIANGLE CONTAINING SMALL WHITE TRIANGLE|1TWO-WAY LEFT WAY TRAFFIC",
    "1UP POINTING BACKHAND INDEX|3INDEX|1UP-POINTING CHEVRON|2SMALL TRIANGLE|2TRIANGLE|3WITH DOT",
    "1VERTICAL BAR|2ELLIPSE|2RECTANGLE|1VERY SMALL SQUARE|0WHITE-FEATHERED RIGHTWARDS ARROW",
    "0WIDE-HEADED DOWNWARDS BARB ARROW|2HEAVY BARB ARROW|2LIGHT BARB ARROW|2MEDIUM BARB ARROW",
    "2VERY HEAVY BARB ARROW|1LEFTWARDS BARB ARROW|2HEAVY BARB ARROW|2LIGHT BARB ARROW",
    "2MEDIUM BARB ARROW|2VERY HEAVY BARB ARROW|1NORTH EAST BARB ARROW|3HEAVY BARB ARROW",
    "3LIGHT BARB ARROW|3MEDIUM BARB ARROW|3VERY HEAVY BARB ARROW|2WEST BARB ARROW",
    "3HEAVY BARB ARROW|3LIGHT BARB ARROW|3MEDIUM BARB ARROW|3VERY HEAVY BARB ARROW",
    "1RIGHTWARDS BARB ARROW|2HEAVY BARB ARROW|2LIGHT BARB ARROW|2MEDIUM BARB ARROW",
    "2VERY HEAVY BARB ARROW|1SOUTH EAST BARB ARROW|3HEAVY BARB ARROW|3LIGHT BARB ARROW",
    "3MEDIUM BARB ARROW|3VERY HEAVY BARB ARROW|2WEST BARB ARROW|3HEAVY BARB ARROW",
    "3LIGHT BARB ARROW|3MEDIUM BARB ARROW|3VERY HEAVY BARB ARROW|1UPWARDS BARB ARROW",
    "2HEAVY BARB ARROW|2LIGHT BARB ARROW|2MEDIUM BARB ARROW|2VERY HEAVY BARB ARROW",
    "0WIGGLY VERTICAL LINE|0WILTED FLOWER|0WIND BLOWING FACE|1CHIME|0WINDOW|0WINE GLASS",
    "0WINKING FACE|0WIRED KEYBOARD|0WJ|0WOLF FACE|0WOMAN|1WITH BUNNY EARS|0WOMANS BOOTS|1CLOTHES",
    "1HAT|1SANDAL|0WOMENS SYMBOL|0WON SIGN|0WOOD|0WORD JOINER|1SEPARATOR MIDDLE DOT|0WORLD MAP",
    "0WORM|0WORRIED FACE|0WRAPPED PRESENT|0WREATH PRODUCT|0WRENCH|0WRESTLERS|0WRITING HAND",
    "0X IN A RECTANGLE BOX|0X-RAY|0XIANGQI BLACK CANNON|2CHARIOT|2ELEPHANT|2GENERAL|2HORSE",
    "2MANDARIN|2SOLDIER|1RED CANNON|2CHARIOT|2ELEPHANT|2GENERAL|2HORSE|2MANDARIN|2SOLDIER|0XOR",
    "0YAWNING FACE|0YELLOW HEART|0YIN YANG|0YO-YO|0Z NOTATION BAG MEMBERSHIP",
    "2DOMAIN ANTIRESTRICTION|2LEFT BINDING BRACKET|3IMAGE BRACKET|2RANGE ANTIRESTRICTION",
    "2RELATIONAL COMPOSITION|2RIGHT BINDING BRACKET|3IMAGE BRACKET|2SCHEMA COMPOSITION|3PIPING",
    "3PROJECTION|2SPOT|2TYPE COLON|0ZEBRA FACE|0ZERO WIDTH JOINER|2NO-BREAK SPACE|2NON-JOINER",
    "2SPACE|0ZEUS|0ZIPPER-MOUTH FACE|0ZNAMENNY COMBINING ATTACHING VERTICAL OMET",
    "2LOWER TONAL RANGE INDICATOR|2MARK BORZAYA|3CHASHKA|4POLNAYA|3CURVED OMET",
    "3DEMESTVENNY ZADERZHKA|3DVOETOCHIE|3GORAZDO NIZKO ON LEFT|6RIGHT|5S KRYZHEM ON LEFT|8RIGHT",
    "4VYSOKO|3KACHKA|3KRYZH|4ON LEFT|3KUPNAYA|3LOMKA|3MALO POVYSHE ON LEFT|6RIGHT",
    "5S KHOKHLOM ON LEFT|8RIGHT|6KRYZHEM|5STRANNO|3NIZKO ON LEFT|5RIGHT|4S KRYZHEM ON LEFT|7RIGHT",
    "3OBLACHKO|3ON|3OTSECHKA|3PODCHASHIE|4WITH VERTICAL STROKE|3PODVERTKA|3POVYSHE ON LEFT|5RIGHT",
    "4S KHOKHLOM ON LEFT|7RIGHT|5KRYZHEM|4STRANNO|3RAVNO|3RAZSEKA|3SKOBA|3SOROCHYA NOZHKA",
    "3SREDNE ON LEFT|5RIGHT|3STRANNO MALO POVYSHE|3TIKHAYA|3TOCHKA|3TSATA ON LEFT|5RIGHT",
    "4S KRYZHEM|3UDARKA|3VYSOKO ON LEFT|5RIGHT|4S KHOKHLOM ON LEFT|7RIGHT|5KRYZHEM|3ZADERZHKA",
    "3ZELO|3ZEVOK|2TONAL RANGE MARK MRACHNO|5SVETLO|5TRESVETLO|1NEUME CHASHKA|2CHELYUSTKA",
    "2DEMESTVENNY KLYUCH|2DERBITSA|2DOUBLE ZAPYATAYA|2DUDA|2DVA V CHELNU|2FITA|2GOLUBCHIK BORZY",
    "3MRACHNY|3SVETLY|3TIKHY|3TRESVETLY|2KHAMILO|2KLYUCH|2KOBYLA|2KRYUK|3TIKHY|2KRYZH|2KUFISMA",
    "2MECHIK|3KLYUCHENEPOSTOYANNY|3KLYUCHEPOVODNY|3KLYUCHEVOY|3POVODNY|2NEMKA|2OBLAKO|2OSOKA",
    "3KLYUCHEVAYA NEPOSTOYANNAYA|4SVETLAYA|3KRYUKOVAYA SVETLAYA|3SVETLAYA|3TRESVETLAYA|2PALKA",
    "2PARAKLIT|2PAUK|2PEREVODKA|3NEPOSTOYANNAYA|2PODCHASHIE|2POLKULIZMY|2REVERSED CHELYUSTKA|2ROG",
    "2SKAMEYTSA DVOECHELNAYA KLYUCHEVAYA|4NEPOSTOYANNAYA|4PROSTAYA|4SVETLAYA",
    "3KLYUCHENEPOSTOYANNAYA|3KLYUCHEVAYA SVETLAYA|4TIKHAYA|3MRACHNAYA|3SVETLAYA|3TIKHAYA",
    "3TRESVETLAYA|2SLOZHITIE|3S KRYZHEM|4ZAPYATOY|3ZAKRYTOE|2STATYA|3NEPOSTOYANNAYA",
    "3S DVUMYA ZAPYATYMI|4KRYZHEM|5I ZAPYATOY|4ROGOM|4ZAPYATOY|5I KRYZHEM|6PODCHASHIEM|3ZAKRYTAYA",
    "4S ZAPYATOY|2STOPITSA|3S OCHKOM|3WITH SOROCHYA NOZHKA|2STRELA DVOECHELNAYA|4KLYUCHEVAYA",
    "3DVOECHELNOKRYZHEVAYA|3DVOECHELNOPOVODNAYA|4KLYUCHEVAYA|3GROMNAYA|4WITH SINGLE ZAPYATAYA",
    "3GROMOKRYZHEVAYA|4POVODNAYA|3GROMOPOVODNAYA|4WITH DOUBLE ZAPYATAYA|5SINGLE ZAPYATAYA",
    "3KLYUCHENEPOSTOYANNAYA|3KLYUCHEPOVODNAYA|3KRYUKOVAYA|4GROMNAYA|5WITH SINGLE ZAPYATAYA",
    "4GROMOKRYZHEVAYA|5POVODNAYA|4GROMOPOVODNAYA|5WITH DOUBLE ZAPYATAYA|6SINGLE ZAPYATAYA",
    "4POVODNAYA|4TRYASKA|3KRYZHEVAYA|3MRACHNOTIKHAYA|3NEPOSTOYANNAYA|3POLUPOVODNAYA|3POVODNAYA",
    "3PROSTAYA|3TIKHAYA PUTNAYA|3TRYASOGLASNAYA|3TRYASOPOVODNAYA|3TRYASOSTRELNAYA",
    "2VRAKHIYA KLYUCHEVAYA MRACHNAYA|4PROSTAYA|4SVETLAYA|4TRESVETLAYA|3MRACHNAYA|3PROSTAYA",
    "3SVETLAYA|3TRESVETLAYA|2ZANOZHEK|2ZAPYATAYA|2ZMEYTSA|1PRIZNAK MODIFIER DIRECTION FLIP|3KRYZH",
    "3LEVEL-2|3LEVEL-3|3ROG|0ZOMBIE|0ZWJ|0ZWNBSP|0ZWNJ|0ZWSP"]

end Casebook.Text.NameTable
