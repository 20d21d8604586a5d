/-!
# Names of ancient characters

Cuneiform, hieroglyphs, and the syllables of Crete and Cyprus.
-/

namespace Casebook.Text.NameTable

/-- The names, in the form of a table of names. -/
def ancient : List String :=
  ["0AEGEAN CHECK MARK|1DRY MEASURE FIRST SUBUNIT|1LIQUID MEASURE FIRST SUBUNIT",
    "1MEASURE SECOND SUBUNIT|2THIRD SUBUNIT|1NUMBER EIGHT|3HUNDRED|3THOUSAND|2EIGHTY|3THOUSAND",
    "2FIFTY|3THOUSAND|2FIVE|3HUNDRED|3THOUSAND|2FORTY|3THOUSAND|2FOUR|3HUNDRED|3THOUSAND|2NINE",
    "3HUNDRED|3THOUSAND|2NINETY|3THOUSAND|2ONE|3HUNDRED|3THOUSAND|2SEVEN|3HUNDRED|3THOUSAND",
    "2SEVENTY|3THOUSAND|2SIX|3HUNDRED|3THOUSAND|2SIXTY|3THOUSAND|2TEN|3THOUSAND|2THIRTY|3THOUSAND",
    "2THREE|3HUNDRED|3THOUSAND|2TWENTY|3THOUSAND|2TWO|3HUNDRED|3THOUSAND|1WEIGHT BASE UNIT",
    "2FIRST SUBUNIT|2FOURTH SUBUNIT|2SECOND SUBUNIT|2THIRD SUBUNIT|1WORD SEPARATOR DOT|3LINE",
    "0ANATOLIAN HIEROGLYPH A001|2A002|2A003|2A004|2A005|2A006|2A007|2A008|2A009|2A010|2A010A|2A011",
    "2A012|2A013|2A014|2A015|2A016|2A017|2A018|2A019|2A020|2A021|2A022|2A023|2A024|2A025|2A026",
    "2A026A|2A027|2A028|2A029|2A030|2A031|2A032|2A033|2A034|2A035|2A036|2A037|2A038|2A039|2A039A",
    "2A040|2A041|2A041A|2A042|2A043|2A044|2A045|2A045A|2A046|2A046A|2A046B|2A047|2A048|2A049|2A050",
    "2A051|2A052|2A053|2A054|2A055|2A056|2A057|2A058|2A059|2A060|2A061|2A062|2A063|2A064|2A065",
    "2A066|2A066A|2A066B|2A066C|2A067|2A068|2A069|2A070|2A071|2A072|2A073|2A074|2A075|2A076|2A077",
    "2A078|2A079|2A080|2A081|2A082|2A083|2A084|2A085|2A086|2A087|2A088|2A089|2A090|2A091|2A092",
    "2A093|2A094|2A095|2A096|2A097|2A097A|2A098|2A098A|2A099|2A100|2A100A|2A101|2A101A|2A102",
    "2A102A|2A103|2A104|2A104A|2A104B|2A104C|2A105|2A105A|2A105B|2A106|2A107|2A107A|2A107B|2A107C",
    "2A108|2A109|2A110|2A110A|2A110B|2A111|2A112|2A113|2A114|2A115|2A115A|2A116|2A117|2A118|2A119",
    "2A120|2A121|2A122|2A123|2A124|2A125|2A125A|2A126|2A127|2A128|2A129|2A130|2A131|2A132|2A133",
    "2A134|2A135|2A135A|2A136|2A137|2A138|2A139|2A140|2A141|2A142|2A143|2A144|2A145|2A146|2A147",
    "2A148|2A149|2A150|2A151|2A152|2A153|2A154|2A155|2A156|2A157|2A158|2A159|2A160|2A161|2A162",
    "2A163|2A164|2A165|2A166|2A167|2A168|2A169|2A170|2A171|2A172|2A173|2A174|2A175|2A176|2A177",
    "2A178|2A179|2A180|2A181|2A182|2A183|2A184|2A185|2A186|2A187|2A188|2A189|2A190|2A191|2A192",
    "2A193|2A194|2A195|2A196|2A197|2A198|2A199|2A200|2A201|2A202|2A202A|2A202B|2A203|2A204|2A205",
    "2A206|2A207|2A207A|2A208|2A209|2A209A|2A210|2A211|2A212|2A213|2A214|2A215|2A215A|2A216|2A216A",
    "2A217|2A218|2A219|2A220|2A221|2A222|2A223|2A224|2A225|2A226|2A227|2A227A|2A228|2A229|2A230",
    "2A231|2A232|2A233|2A234|2A235|2A236|2A237|2A238|2A239|2A240|2A241|2A242|2A243|2A244|2A245",
    "2A246|2A247|2A248|2A249|2A250|2A251|2A252|2A253|2A254|2A255|2A256|2A257|2A258|2A259|2A260",
    "2A261|2A262|2A263|2A264|2A265|2A266|2A267|2A267A|2A268|2A269|2A270|2A271|2A272|2A273|2A274",
    "2A275|2A276|2A277|2A278|2A279|2A280|2A281|2A282|2A283|2A284|2A285|2A286|2A287|2A288|2A289",
    "2A289A|2A290|2A291|2A292|2A293|2A294|2A294A|2A295|2A296|2A297|2A298|2A299|2A299A|2A300|2A301",
    "2A302|2A303|2A304|2A305|2A306|2A307|2A308|2A309|2A309A|2A310|2A311|2A312|2A313|2A314|2A315",
    "2A316|2A317|2A318|2A319|2A320|2A321|2A322|2A323|2A324|2A325|2A326|2A327|2A328|2A329|2A329A",
    "2A330|2A331|2A332A|2A332B|2A332C|2A333|2A334|2A335|2A336|2A336A|2A336B|2A336C|2A337|2A338",
    "2A339|2A340|2A341|2A342|2A343|2A344|2A345|2A346|2A347|2A348|2A349|2A350|2A351|2A352|2A353",
    "2A354|2A355|2A356|2A357|2A358|2A359|2A359A|2A360|2A361|2A362|2A363|2A364|2A364A|2A365|2A366",
    "2A367|2A368|2A368A|2A369|2A370|2A371|2A371A|2A372|2A373|2A374|2A375|2A376|2A377|2A378|2A379",
    "2A380|2A381|2A381A|2A382|2A383 RA OR RI|2A383A|2A384|2A385|2A386|2A386A|2A387|2A388|2A389",
    "2A390|2A391|2A392|2A393 EIGHT|2A394|2A395|2A396|2A397|2A398|2A399|2A400|2A401|2A402|2A403",
    "2A404|2A405|2A406|2A407|2A408|2A409|2A410 BEGIN LOGOGRAM MARK|2A410A END LOGOGRAM MARK|2A411",
    "2A412|2A413|2A414|2A415|2A416|2A417|2A418|2A419|2A420|2A421|2A422|2A423|2A424|2A425|2A426",
    "2A427|2A428|2A429|2A430|2A431|2A432|2A433|2A434|2A435|2A436|2A437|2A438|2A439|2A440|2A441",
    "2A442|2A443|2A444|2A445|2A446|2A447|2A448|2A449|2A450|2A450A|2A451|2A452|2A453|2A454|2A455",
    "2A456|2A457|2A457A|2A458|2A459|2A460|2A461|2A462|2A463|2A464|2A465|2A466|2A467|2A468|2A469",
    "2A470|2A471|2A472|2A473|2A474|2A475|2A476|2A477|2A478|2A479|2A480|2A481|2A482|2A483|2A484",
    "2A485|2A486|2A487|2A488|2A489|2A490|2A491|2A492|2A493|2A494|2A495|2A496|2A497|2A501|2A502",
    "2A503|2A504|2A505|2A506|2A507|2A508|2A509|2A510|2A511|2A512|2A513|2A514|2A515|2A516|2A517",
    "2A518|2A519|2A520|2A521|2A522|2A523|2A524|2A525|2A526|2A527|2A528|2A529|2A530",
    "0CARIAN LETTER A|2A2|2B|2C-18|2C-39|2D|2D2|2E|2E2|2G|2G2|2I|2II|2K|2K2|2L|2LD|2LD2|2M|2MB",
    "2MB2|2MB3|2MB4|2N|2ND|2NG|2NN|2O|2P|2P2|2Q|2R|2RR|2S|2SH|2SH2|2SS|2ST|2ST2|2T|2TT|2TT2|2U|2UU",
    "2UUU|2UUU2|2UUU3|2UUUU|2X|0COMBINING GREEK MUSICAL PENTASEME|3TETRASEME|3TRISEME",
    "0CUNEIFORM NUMERIC SIGN EIGHT ASH|4DISH|4GESH2|4SHAR2|4U|5VARIANT FORM|4VARIANT FORM USSU",
    "6USSU3|3ELAMITE FIFTY|4FORTY|4ONE THIRD|4TWO THIRDS|3FIVE ASH|5TENU|4BAN2|5VARIANT FORM|4BURU",
    "4DISH|4GESH2|4GESHU|4SHAR2|4SHARU|4SIXTHS DISH|4U|5VARIANT FORM|3FOUR ASH|5TENU|4BAN2",
    "5VARIANT FORM|4BURU|4DISH|4GESH2|4GESHU|4SHAR2|4SHARU|4U|5VARIANT FORM|4VARIANT FORM LIMMU|7A",
    "7B|6LIMMU4|3NIGIDAESH|3NIGIDAMIN|3NINE ASH|4DISH|4GESH2|4SHAR2|4U|5VARIANT FORM",
    "4VARIANT FORM ILIMMU|7A|6ILIMMU3|6ILIMMU4|3OLD ASSYRIAN ONE QUARTER|6SIXTH|3ONE BAN2|4BURU",
    "4EIGHTH ASH|4ESHE3|4GESH2|4GESHU|4HALF GUR|4QUARTER ASH|5GUR|4SHARU|4THIRD DISH",
    "5VARIANT FORM A|3SEVEN ASH|4DISH|4GESH2|4SHAR2|4U|5VARIANT FORM|4VARIANT FORM IMIN A|7B",
    "6IMIN3|3SHAR2 TIMES GAL PLUS DISH|7MIN|3SIX ASH|5TENU|4DISH|4GESH2|4SHAR2|4U|5VARIANT FORM",
    "4VARIANT FORM ASH9|3THREE ASH|5TENU|4BAN2|4BURU|5VARIANT FORM|4DISH|4GESH2|4GESHU|4SHAR2",
    "5VARIANT FORM|4SHARU|5VARIANT FORM|4VARIANT FORM ESH16|6ESH21|3TWO ASH|5TENU|4BAN2|4BURU",
    "4ESHE3|4GESH2|4GESHU|4SHAR2|4SHARU|4THIRDS DISH|5VARIANT FORM A",
    "1PUNCTUATION SIGN DIAGONAL COLON|4QUADCOLON|4TRICOLON|3OLD ASSYRIAN WORD DIVIDER",
    "3VERTICAL COLON|1SIGN A|3TIMES A|4BAD|4GAN2 TENU|4HA|4IGI|4LAGAR GUNU|4MUSH|4SAG|2A2|2AB",
    "3GUNU|3TIMES ASH2|4DUN3 GUNU|4GAL|4GAN2 TENU|4HA|4IGI GUNU|4IMIN|4LAGAB|4NUN|5TENU|4SHESH",
    "4SHU2|4U PLUS U PLUS U|2AB2|3TIMES A|4BALAG|4GAN2 TENU|4ME PLUS EN|4SHA3|4TAK4|2AD",
    "3TIMES ESH2|2AK|3TIMES ERIN2|4SHITA PLUS GISH|2AL|3TIMES AL|4DIM2|4GISH|4HA|4KAD3|4KI|4SHE",
    "4USH|2ALAN|2ALEPH|2AMAR|3TIMES KUG|4SHE|2AN|3OVER AN|3PLUS NAGA OPPOSING AN PLUS NAGA",
    "5SQUARED|3THREE TIMES|2ANSHE|2APIN|2ARAD|3TIMES KUR|2ARKAB|2ASAL2|2ASH|3KABA TENU",
    "3OVER ASH OVER ASH|7CROSSING ASH OVER ASH OVER ASH|5TUG2 OVER TUG2 TUG2 OVER TUG2 PAP",
    "3ZIDA TENU|2ASH2|2ASHGAB|2BA|2BAD|3TIMES DISH TENU|2BAG3|2BAHAR2|3TIMES AB2|4NI|4ZA|2BAL",
    "3OVER BAL|2BALAG|2BAR|2BARA2|2BI|3TIMES A|4GAR|4IGI GUNU|2BU|3CROSSING BU|3OVER BU AB",
    "5TIMES NA2|5UN|2BULUG|3OVER BULUG|2BUR|2BUR2|2DA|3TIMES TAK4|2DAG|3KISIM5 TIMES A PLUS MASH",
    "5AMAR|5BALAG|5BI|5GA|6PLUS MASH|5GI|5GIR2|5GUD|5HA|5IR|6PLUS LU|5KAK|5LA|5LU|6PLUS MASH2|5LUM",
    "5NE|5PAP PLUS PAP|5SI|5TAK4|5U2 PLUS GIR2|7MASH|5USH|3TIMES KUR|2DAG3|2DAM|2DAR|2DARA3|2DARA4",
    "2DI|2DIB|2DIM|3TIMES IGI|4SHE|4U U U|2DIM2|3TIMES UD|2DIN|3KASKAL U GUNU DISH|2DISH|3PLUS SHU",
    "2DU|3GUNU|3OVER DU|3SHESHIG|2DUB|3TIMES ESH2|4SHE|2DUB2|2DUG|3TIMES ANSHE|4ASH|5AT LEFT|4DIN",
    "4DUN|4ERIN2|4GA|4GI|4GIR2 GUNU|4GISH|4HA|4HI|4IGI GUNU|4KASKAL|4KUR|4KUSHU2|5PLUS KASKAL",
    "4LAK-020|4LAM|5TIMES KUR|4LUH PLUS GISH|4MASH|4MES|4MI|4NI|4PI|4SHE|4SI GUNU|2DUGUD|2DUH|2DUN",
    "2DUN3|3GUNU|4GUNU|2DUN4|2DUR2|2E|3OVER E NUN OVER NUN|3TIMES PAP|2E2|3TIMES A PLUS HA PLUS DA",
    "4GAR|4KUR|4MI|4PAP|4SAL|4SHE|4U|2EDIN|2EGIR|2EL|2EN|3CROSSING EN|3OPPOSING EN|3SQUARED",
    "3TIMES GAN2|5TENU|4ME|2EREN|2ERIN2|3X|2ESH2|3CROSSING ESH2|2EZEN|3SHESHIG TIMES ASH|5HI",
    "5IGI GUNU|5LA|5LAL|5ME|5MES|5SU|3TIMES A|5PLUS LAL|7TIMES LAL|4AN|4BAD|4DUN3 GUNU|6GUNU|4GUD",
    "4HA|5GUNU|4IGI GUNU|4KASKAL|5SQUARED|4KU3|4LA|4LAL TIMES LAL|4LI|4LU|4SHE|4SU|4U2|4UD|2GA",
    "3GUNU|2GA2|3OVER GA2|3TIMES A PLUS DA PLUS HA|6HA|6IGI|4AB2 TENU PLUS TAB|4AN",
    "5PLUS KAK PLUS A|4ASH|4ASH2|5PLUS GAL|4BAD|4BAHAR2|4BAR PLUS RA|4BUR|5PLUS RA|4DA|4DI",
    "4DIM GUNU|5TIMES SHE|4DUB|4DUG TIMES IGI GUNU|6KASKAL|4EL|5PLUS LA|4EN|5TIMES GAN2 TENU|4EREN",
    "4GA|4GAN2 TENU|4GAR|5PLUS DI|6NE|4GI|4GI4|5PLUS A|4GIR2 PLUS SU|4HA PLUS A|6LU PLUS ESH2|4HAL",
    "5PLUS LA|4HI PLUS LI|4HUB2|4IGI GUNU|4ISH PLUS HU PLUS ASH|4KAK|4KASKAL|4KID|5PLUS LAL",
    "4KU3 PLUS AN|4KUSHU2 PLUS KASKAL|4LA|4LAM|5TIMES KUR|4LUH|4ME PLUS EN|4MI|4MUSH|4NE|5PLUS E2",
    "6GI|4NUN|5OVER NUN|4PA|4SAL|4SAR|4SHE|5PLUS TUR|4SHID|4SHIM|4SUM|4TAK4|4U|4UD|5PLUS DU|4ZIZ2",
    "2GABA|3CROSSING GABA|3ROTATED NINETY DEGREES|2GAD|3OVER GAD GAR OVER GAR|2GAL",
    "3GAD OVER GAD GAR OVER GAR|2GALAM|2GAM|2GAN|2GAN2|3CROSSING GAN2|3OVER GAN2|3TENU|2GAR|2GAR3",
    "2GASHAN|2GE22|2GESHTIN|3TIMES KUR|4U|2GI|3CROSSING GI|3TIMES E|4U|2GI4|3CROSSING GI4",
    "3OVER GI4|2GIDIM|2GIG|2GIR2|3GUNU|2GIR3|3TIMES A PLUS IGI|4GAN2 TENU|4IGI|4LU PLUS IGI|4PA",
    "2GISAL|2GISH|3CROSSING GISH|3TENU|3TIMES BAD|4GISH CROSSING GISH|4TAK4|2GU|3CROSSING GU|2GU2",
    "3GUNU|3TIMES IGI GUNU|4KAK|5TIMES IGI GUNU|4NUN|4SAL PLUS TUG2|2GUD|3OVER GUD LUGAL",
    "3PLUS GISH TIMES TAK4|3TIMES A PLUS KUR|4KUR|2GUL|2GUM|3TIMES SHE|2GUR|2GUR7|2GURUN|2GURUSH",
    "2HA|3GUNU|3TENU|4GUNU|2HAL|2HI|3TIMES ASH|5OVER HI TIMES ASH|4ASH2|4BAD|4DISH|4GAD|4KIN|4NUN",
    "4SHE|4U|2HU|2HUB2|3TIMES AN|4HAL|4KASKAL|4LISH|4UD|2HUL2|2HUSH|2I|3A|2IB|2IDIM|3OVER IDIM BUR",
    "5SQUARED|2IG|2IGI|3DIB|3GUNU|3OVER IGI SHIR OVER SHIR UD OVER UD|3RI|2IL|3TIMES GAN2 TENU",
    "2IL2|2IM|3CROSSING IM|3OPPOSING IM|3SQUARED|3TIMES TAK4|2IMIN|2IN|2IR|2ISH|2KA|3TIMES A|4AD",
    "5PLUS KU3|4ANSHE|4ASH2|4ASH3|4BAD|4BALAG|4BAR|4BI|4BU|4ERIN2|4ESH2|4GA|4GAL|4GAN2 TENU|4GAR",
    "5PLUS SHA3 PLUS A|4GI|4GIR2|4GISH|5CROSSING GISH|5PLUS SAR|4GU|4GUD|4GUR7|4HI TIMES ASH2|4IGI",
    "4IM|4KA|4KAK|4KI|4KID|4LI|4LU|4LUM|4ME|5PLUS DU|6GI|6TE|4MI|5PLUS NUNUZ|4NE|4NUN|4PA|4PI|4RU",
    "4SA|4SAR|4SHA|4SHE|4SHID|4SHU|4SHUL|4SIG|4SUHUR|4TAR|4TU|4U|5U U|4U2|4UD|4UMUM TIMES PA|4UR",
    "4UR2|4USH|4ZI|2KA2|3CROSSING KA2|2KAB|2KAD2|2KAD3|2KAD4|2KAD5|3OVER KAD5|2KAK|3TIMES IGI GUNU",
    "2KAL|3CROSSING KAL|3TIMES BAD|2KAM2|2KAM4|2KAP ELAMITE|2KASKAL",
    "3LAGAB TIMES U OVER LAGAB TIMES U|3OVER KASKAL LAGAB TIMES U OVER LAGAB TIMES U|2KESH2|2KI",
    "3TIMES BAD|4U|4UD|2KID|2KIN|2KISAL|2KISH|2KISIM5|3OVER KISIM5|2KU",
    "3OVER HI TIMES ASH2 KU OVER HI TIMES ASH2|2KU3|2KU4|3VARIANT FORM|2KU7|2KUL|3GUNU|2KUN|2KUR",
    "3OPPOSING KUR|2KUSHU2|2KWU318|2LA|2LAGAB|3SQUARED|3TIMES A|5PLUS DA PLUS HA|6GAR|6LAL|4AL|4AN",
    "4ASH ZIDA TENU|4BAD|4BI|4DAR|4EN|4GA|4GAR|4GI|4GUD|5PLUS GUD|4HA|4HAL|4HI TIMES NUN|4IGI GUNU",
    "4IM|5PLUS HA|6LU|4KI|4KIN|4KU3|4KUL|5PLUS HI PLUS A|4LAGAB|4LISH|4LU|4LUL|4ME|5PLUS EN|4MUSH",
    "4NE|4SHE PLUS SUM|4SHITA PLUS GISH PLUS ERIN2|7TENU|4SHU2|5PLUS SHU2|4SUM|4TAG|4TAK4",
    "4TE PLUS A PLUS SU PLUS NA|4U|5PLUS A|6U PLUS U|4U2 PLUS ASH|4UD|4USH|4ZU OVER ZU|2LAGAR",
    "3GUNU|4OVER LAGAR GUNU SHE|3TIMES SHE|5PLUS SUM|2LAHSHU|2LAK-003|2LAK-021|2LAK-025|2LAK-030",
    "2LAK-050|2LAK-051|2LAK-062|2LAK-079 OVER LAK-079 GUNU|2LAK-080|2LAK-081 OVER LAK-081|2LAK-092",
    "2LAK-130|2LAK-142|2LAK-210|2LAK-219|2LAK-220|2LAK-225|2LAK-228|2LAK-238|2LAK-265|2LAK-266",
    "2LAK-343|2LAK-347|2LAK-348|2LAK-383|2LAK-384|2LAK-390|2LAK-441|2LAK-449|3TIMES GU|4IGI",
    "4PAP PLUS LU3|6PAP PLUS LU3|4U2 PLUS BA|2LAK-450|2LAK-457|2LAK-470|2LAK-483|2LAK-490|2LAK-492",
    "2LAK-493|2LAK-495|2LAK-550|2LAK-608|2LAK-617|3TIMES ASH|4BAD|4DUN3 GUNU GUNU|4KU3|4LA|4TAR",
    "4TE|4U2|4UD|4URUDA|2LAK-636|2LAK-648|3TIMES DUB|4GA|4IGI|5GUNU|4NI|4PAP PLUS PAP PLUS LU3",
    "4SHESH PLUS KI|4UD|4URUDA|2LAK-724|2LAK-749|2LAL|3TIMES LAL|2LAM|3TIMES KUR|5PLUS RU|2LI|2LIL",
    "2LIMMU2|2LISH|2LU|3TIMES BAD|2LU2|3CROSSING LU2|3GUNU TIMES ASH|3OPPOSING LU2|3SHESHIG",
    "4TIMES BAD|3SQUARED|3TENU|3TIMES AL|4BAD|4DISH|4ESH2|5PLUS LAL|5TENU|4GAN2 TENU|4HAL",
    "4HI TIMES BAD|4IM|4KAD2|4KAD3|5PLUS ASH|4KI|4LA PLUS ASH|4LAGAB|4ME PLUS EN|4NE|4NU|4PAP",
    "5PLUS PAP PLUS LU3|4SHU|4SI PLUS ASH|4SIK2 PLUS BU|4TAK4|4TUG2|2LU3|2LUGAL|3OPPOSING LUGAL",
    "3OVER LUGAL|3SHESHIG|2LUH|2LUL|2LUM|3OVER LUM|5GAR OVER GAR|2MA|3GUNU|3TIMES TAK4|2MA2|2MAH",
    "2MAR|2MASH|2MASH2|2ME|2MES|2MESH|2MI|3PLUS ZA7|2MIN|2MU|3OVER MU|2MUG|3GUNU|2MUNSUB|2MURGU2",
    "2MUSH|3CROSSING MUSH|3OVER MUSH|5TIMES A PLUS NA|6GA|6KAK|3TIMES A|4KUR|4ZA|2MUSH3|3GUNU",
    "3TIMES A|5PLUS DI|4DI|4ZA|2NA|2NA2|2NA4|2NAGA|3INVERTED|3OPPOSING NAGA|3TIMES SHU TENU|2NAGAR",
    "2NAM|3NUTILLU|2NAM2|2NE|3SHESHIG|3TIMES A|4UD|2NI|3TIMES E|2NI2|2NIM|3TIMES GAN2 TENU",
    "4GAR PLUS GAN2 TENU|2NIN|2NIN9|2NINDA2|3TIMES AN|4ASH|5PLUS ASH|4BAL|4DIM GUNU|4GI|4GISH|4GUD",
    "4GUL|4HI|4KESH2|4LAK-050|4MASH|4ME PLUS GAN2 TENU|4NE|4NUN|4PAP PLUS PAP|4SHE|5PLUS A AN|6ASH",
    "7PLUS ASH|4U|5PLUS U|4U2 PLUS ASH|4URUDA|4USH|2NISAG|2NU|2NU11|3OVER NU11 BUR OVER BUR",
    "3ROTATED NINETY DEGREES|3TENU|2NUN|3CROSSING NUN|5LAGAR OVER LAGAR|3LAGAR TIMES GAR|5MASH",
    "5SAL|6OVER NUN LAGAR TIMES SAL|5USH|3OVER NUN|3TENU|2NUNUZ|3AB2 TIMES ASHGAB|5BI|5DUG|5GUD",
    "5IGI GUNU|5KAD3|5LA|5NE|5SILA3|5U2|3KISIM5 TIMES BI|6U|2PA|2PAD|2PAN|2PAP|2PESH2|3ASTERISK",
    "2PI|3CROSSING PI|3TIMES A|4AB|4BI|4BU|4E|4I|4IB|4U|4U2|2PIR2|2PIRIG|3OPPOSING PIRIG",
    "3TIMES KAL|4UD|4ZA|2RA|2RAB|2RI|2RU|2SA|2SAG|3GUNU|4TIMES HA|3NUTILLU|3OVER SAG|3TIMES A|4DU",
    "4DUB|4EN|4HA|4IGI GUNU|4KAK|4KUR|4LUM|4MI|4NUN|4SAL|4SHE AT LEFT|4SHID|4TAB|4TAK4|4U2|4UB|4UM",
    "4UR|4USH|2SAL|3LAGAB TIMES ASH2|2SANGA2|2SAR|2SHA|2SHA3|3TIMES A|4BAD|4GISH|4NE|4SHU2|4TUR|4U",
    "5PLUS A|2SHA6|3TENU|2SHAB6|2SHAR2|2SHE|3HU|3OVER SHE|5GAD OVER GAD GAR OVER GAR",
    "5TAB OVER TAB GAR OVER GAR|3PLUS HUB2|4NAM2|4SAR|2SHEG9|2SHEN|2SHESH|2SHESH2|2SHESHLAM|2SHID",
    "3TIMES A|4IM|2SHIM|3TIMES A|4BAL|4BULUG|4DIN|4GAR|4IGI|5GUNU|4KUSHU2|4LUL|4MUG|4SAL|2SHINIG",
    "2SHIR|3OVER SHIR BUR OVER BUR|3TENU|2SHITA|2SHU|3OVER INVERTED SHU|2SHU2|3PLUS DUG TIMES NI",
    "4E2 TIMES AN|2SHUBUR|2SI|3GUNU|3TIMES TAK4|2SIG|2SIG4|3OVER SIG4 SHU2|2SIK2|2SILA3|2SU",
    "3OVER SU|2SUD|2SUD2|2SUHUR|2SUM|2SUMASH|2SUR|2SUR9|2TA|3ASTERISK|3GUNU|3TIMES HI|4MI|2TAB",
    "3OVER TAB NI OVER NI DISH OVER DISH|3SQUARED|2TAG|3TIMES BI|4GUD|4SHE|4SHU|4TUG2|4UD|2TAK4",
    "3PLUS SAG|2TAR|2TE|3GUNU|2TI|3TENU|2TI2|2TIL|2TIR|3OVER TIR|5GAD OVER GAD GAR OVER GAR",
    "3TIMES TAK4|2TU|2TUG2|2TUK|2TUM|3TIMES GAN2 TENU|4THREE DISH|2TUR|3OVER TUR ZA OVER ZA|2U",
    "3GUD|3OVER U PA OVER PA GAR OVER GAR|5SUR OVER SUR|5U REVERSED OVER U REVERSED|3U|4U|2U2|2UB",
    "2UD|3GUNU|3KUSHU2|3SHESHIG|4TIMES BAD|3TIMES BAD|4MI|4U PLUS U PLUS U|9GUNU|2UDUG|2UM",
    "3TIMES LAGAB|4ME|5PLUS DA|4SHA3|4U|2UMBIN|2UMUM|3TIMES KASKAL|4PA|2UN|3GUNU|2UR|3CROSSING UR",
    "3SHESHIG|2UR2|3INVERTED|3TIMES A PLUS HA|6NA|4AL|4HA|4NUN|4U2|5PLUS ASH|6BI|4UD|2UR4|2URI",
    "2URI3|2URU|3TIMES A|4ASHGAB|4BAR|4DARA3|4DUN|4GA|4GAL|4GAN2 TENU|4GAR|4GU|4HA|4IGI|4IM|4ISH",
    "4KI|4LAK-668|4LU3|4LUM|4MIN|4PA|4SHE|4SIG4|4TU|4U PLUS GUD|4UD|4URUDA|2URUDA|3TIMES U|2USH",
    "3TIMES A|4KU|4KUR|4TAK4|2USH2|2USHUMX|2USHX|2UTUKI|2UZ3|3TIMES KASKAL|2UZU|2ZA",
    "3SQUARED TIMES KUR|3TENU|2ZA7|2ZAG|2ZAMX|2ZE2|2ZI|3OVER ZI|2ZI3|2ZIB|3KABA TENU|2ZIG|2ZIZ2",
    "2ZU|3OVER ZU PLUS SAR|2ZU5|3TIMES A|4THREE DISH TENU|2ZUBUR|2ZUM|0CYPRIOT SYLLABLE A|2E|2I",
    "2JA|2JO|2KA|2KE|2KI|2KO|2KU|2LA|2LE|2LI|2LO|2LU|2MA|2ME|2MI|2MO|2MU|2NA|2NE|2NI|2NO|2NU|2O",
    "2PA|2PE|2PI|2PO|2PU|2RA|2RE|2RI|2RO|2RU|2SA|2SE|2SI|2SO|2SU|2TA|2TE|2TI|2TO|2TU|2U|2WA|2WE",
    "2WI|2WO|2XA|2XE|2ZA|2ZO|0CYPRO-MINOAN SIGN CM001|2CM002|2CM004|2CM005|2CM006|2CM007|2CM008",
    "2CM009|2CM010|2CM011|2CM012|2CM012B|2CM013|2CM015|2CM017|2CM019|2CM021|2CM023|2CM024|2CM025",
    "2CM026|2CM027|2CM028|2CM029|2CM030|2CM033|2CM034|2CM035|2CM036|2CM037|2CM038|2CM039|2CM040",
    "2CM041|2CM044|2CM046|2CM047|2CM049|2CM050|2CM051|2CM052|2CM053|2CM054|2CM055|2CM056|2CM058",
    "2CM059|2CM060|2CM061|2CM062|2CM063|2CM064|2CM066|2CM067|2CM068|2CM069|2CM070|2CM071|2CM072",
    "2CM073|2CM074|2CM075|2CM075B|2CM076|2CM078|2CM079|2CM080|2CM081|2CM082|2CM083|2CM084|2CM085",
    "2CM086|2CM087|2CM088|2CM089|2CM090|2CM091|2CM092|2CM094|2CM095|2CM096|2CM097|2CM098|2CM099",
    "2CM100|2CM101|2CM102|2CM103|2CM104|2CM105|2CM107|2CM108|2CM109|2CM110|2CM112|2CM114|2CM301",
    "2CM302|0EGYPTIAN HIEROGLYPH A001|2A002|2A003|2A004|2A005|2A005A|2A006|2A006A|2A006B|2A007",
    "2A008|2A009|2A010|2A011|2A012|2A013|2A014|2A014A|2A015|2A016|2A017|2A017A|2A018|2A019|2A020",
    "2A021|2A022|2A023|2A024|2A025|2A026|2A027|2A028|2A029|2A030|2A031|2A032|2A032A|2A033|2A034",
    "2A035|2A036|2A037|2A038|2A039|2A040|2A040A|2A041|2A042|2A042A|2A043|2A043A|2A044|2A045|2A045A",
    "2A046|2A047|2A048|2A049|2A050|2A051|2A052|2A053|2A054|2A055|2A056|2A057|2A058|2A059|2A060",
    "2A061|2A062|2A063|2A064|2A065|2A066|2A067|2A068|2A069|2A070|2AA001|2AA002|2AA003|2AA004",
    "2AA005|2AA006|2AA007|2AA007A|2AA007B|2AA008|2AA009|2AA010|2AA011|2AA012|2AA013|2AA014|2AA015",
    "2AA016|2AA017|2AA018|2AA019|2AA020|2AA021|2AA022|2AA023|2AA024|2AA025|2AA026|2AA027|2AA028",
    "2AA029|2AA030|2AA031|2AA032|2B001|2B002|2B003|2B004|2B005|2B005A|2B006|2B007|2B008|2B009",
    "2BEGIN SEGMENT|2C001|2C002|2C002A|2C002B|2C002C|2C003|2C004|2C005|2C006|2C007|2C008|2C009",
    "2C010|2C010A|2C011|2C012|2C013|2C014|2C015|2C016|2C017|2C018|2C019|2C020|2C021|2C022|2C023",
    "2C024|2D001|2D002|2D003|2D004|2D005|2D006|2D007|2D008|2D008A|2D009|2D010|2D011|2D012|2D013",
    "2D014|2D015|2D016|2D017|2D018|2D019|2D020|2D021|2D022|2D023|2D024|2D025|2D026|2D027|2D027A",
    "2D028|2D029|2D030|2D031|2D031A|2D032|2D033|2D034|2D034A|2D035|2D036|2D037|2D038|2D039|2D040",
    "2D041|2D042|2D043|2D044|2D045|2D046|2D046A|2D047|2D048|2D048A|2D049|2D050|2D050A|2D050B",
    "2D050C|2D050D|2D050E|2D050F|2D050G|2D050H|2D050I|2D051|2D052|2D052A|2D053|2D054|2D054A|2D055",
    "2D056|2D057|2D058|2D059|2D060|2D061|2D062|2D063|2D064|2D065|2D066|2D067|2D067A|2D067B|2D067C",
    "2D067D|2D067E|2D067F|2D067G|2D067H|2E001|2E002|2E003|2E004|2E005|2E006|2E007|2E008|2E008A",
    "2E009|2E009A|2E010|2E011|2E012|2E013|2E014|2E015|2E016|2E016A|2E017|2E017A|2E018|2E019|2E020",
    "2E020A|2E021|2E022|2E023|2E024|2E025|2E026|2E027|2E028|2E028A|2E029|2E030|2E031|2E032|2E033",
    "2E034|2E034A|2E036|2E037|2E038|2END SEGMENT|2F001|2F001A|2F002|2F003|2F004|2F005|2F006|2F007",
    "2F008|2F009|2F010|2F011|2F012|2F013|2F013A|2F014|2F015|2F016|2F017|2F018|2F019|2F020|2F021",
    "2F021A|2F022|2F023|2F024|2F025|2F026|2F027|2F028|2F029|2F030|2F031|2F031A|2F032|2F033|2F034",
    "2F035|2F036|2F037|2F037A|2F038|2F038A|2F039|2F040|2F041|2F042|2F043|2F044|2F045|2F045A|2F046",
    "2F046A|2F047|2F047A|2F048|2F049|2F050|2F051|2F051A|2F051B|2F051C|2F052|2F053|2G001|2G002",
    "2G003|2G004|2G005|2G006|2G006A|2G007|2G007A|2G007B|2G008|2G009|2G010|2G011|2G011A|2G012|2G013",
    "2G014|2G015|2G016|2G017|2G018|2G019|2G020|2G020A|2G021|2G022|2G023|2G024|2G025|2G026|2G026A",
    "2G027|2G028|2G029|2G030|2G031|2G032|2G033|2G034|2G035|2G036|2G036A|2G037|2G037A|2G038|2G039",
    "2G040|2G041|2G042|2G043|2G043A|2G044|2G045|2G045A|2G046|2G047|2G048|2G049|2G050|2G051|2G052",
    "2G053|2G054|2H001|2H002|2H003|2H004|2H005|2H006|2H006A|2H007|2H008|2HORIZONTAL JOINER|2I001",
    "2I002|2I003|2I004|2I005|2I005A|2I006|2I007|2I008|2I009|2I009A|2I010|2I010A|2I011|2I011A|2I012",
    "2I013|2I014|2I015|2INSERT AT BOTTOM END|5START|4TOP END|5START|2K001|2K002|2K003|2K004|2K005",
    "2K006|2K007|2K008|2L001|2L002|2L002A|2L003|2L004|2L005|2L006|2L006A|2L007|2L008|2M001|2M001A",
    "2M001B|2M002|2M003|2M003A|2M004|2M005|2M006|2M007|2M008|2M009|2M010|2M010A|2M011|2M012|2M012A",
    "2M012B|2M012C|2M012D|2M012E|2M012F|2M012G|2M012H|2M013|2M014|2M015|2M015A|2M016|2M016A|2M017",
    "2M017A|2M018|2M019|2M020|2M021|2M022|2M022A|2M023|2M024|2M024A|2M025|2M026|2M027|2M028|2M028A",
    "2M029|2M030|2M031|2M031A|2M032|2M033|2M033A|2M033B|2M034|2M035|2M036|2M037|2M038|2M039|2M040",
    "2M040A|2M041|2M042|2M043|2M044|2N001|2N002|2N003|2N004|2N005|2N006|2N007|2N008|2N009|2N010",
    "2N011|2N012|2N013|2N014|2N015|2N016|2N017|2N018|2N018A|2N018B|2N019|2N020|2N021|2N022|2N023",
    "2N024|2N025|2N025A|2N026|2N027|2N028|2N029|2N030|2N031|2N032|2N033|2N033A|2N034|2N034A|2N035",
    "2N035A|2N036|2N037|2N037A|2N038|2N039|2N040|2N041|2N042|2NL001|2NL002|2NL003|2NL004|2NL005",
    "2NL005A|2NL006|2NL007|2NL008|2NL009|2NL010|2NL011|2NL012|2NL013|2NL014|2NL015|2NL016|2NL017",
    "2NL017A|2NL018|2NL019|2NL020|2NU001|2NU002|2NU003|2NU004|2NU005|2NU006|2NU007|2NU008|2NU009",
    "2NU010|2NU010A|2NU011|2NU011A|2NU012|2NU013|2NU014|2NU015|2NU016|2NU017|2NU018|2NU018A|2NU019",
    "2NU020|2NU021|2NU022|2NU022A|2O001|2O001A|2O002|2O003|2O004|2O005|2O005A|2O006|2O006A|2O006B",
    "2O006C|2O006D|2O006E|2O006F|2O007|2O008|2O009|2O010|2O010A|2O010B|2O010C|2O011|2O012|2O013",
    "2O014|2O015|2O016|2O017|2O018|2O019|2O019A|2O020|2O020A|2O021|2O022|2O023|2O024|2O024A|2O025",
    "2O025A|2O026|2O027|2O028|2O029|2O029A|2O030|2O030A|2O031|2O032|2O033|2O033A|2O034|2O035|2O036",
    "2O036A|2O036B|2O036C|2O036D|2O037|2O038|2O039|2O040|2O041|2O042|2O043|2O044|2O045|2O046|2O047",
    "2O048|2O049|2O050|2O050A|2O050B|2O051|2OVERLAY MIDDLE|2P001|2P001A|2P002|2P003|2P003A|2P004",
    "2P005|2P006|2P007|2P008|2P009|2P010|2P011|2Q001|2Q002|2Q003|2Q004|2Q005|2Q006|2Q007|2R001",
    "2R002|2R002A|2R003|2R003A|2R003B|2R004|2R005|2R006|2R007|2R008|2R009|2R010|2R010A|2R011|2R012",
    "2R013|2R014|2R015|2R016|2R016A|2R017|2R018|2R019|2R020|2R021|2R022|2R023|2R024|2R025|2R026",
    "2R027|2R028|2R029|2S001|2S002|2S002A|2S003|2S004|2S005|2S006|2S006A|2S007|2S008|2S009|2S010",
    "2S011|2S012|2S013|2S014|2S014A|2S014B|2S015|2S016|2S017|2S017A|2S018|2S019|2S020|2S021|2S022",
    "2S023|2S024|2S025|2S026|2S026A|2S026B|2S027|2S028|2S029|2S030|2S031|2S032|2S033|2S034|2S035",
    "2S035A|2S036|2S037|2S038|2S039|2S040|2S041|2S042|2S043|2S044|2S045|2S046|2T001|2T002|2T003",
    "2T003A|2T004|2T005|2T006|2T007|2T007A|2T008|2T008A|2T009|2T009A|2T010|2T011|2T011A|2T012",
    "2T013|2T014|2T015|2T016|2T016A|2T017|2T018|2T019|2T020|2T021|2T022|2T023|2T024|2T025|2T026",
    "2T027|2T028|2T029|2T030|2T031|2T032|2T032A|2T033|2T033A|2T034|2T035|2T036|2U001|2U002|2U003",
    "2U004|2U005|2U006|2U006A|2U006B|2U007|2U008|2U009|2U010|2U011|2U012|2U013|2U014|2U015|2U016",
    "2U017|2U018|2U019|2U020|2U021|2U022|2U023|2U023A|2U024|2U025|2U026|2U027|2U028|2U029|2U029A",
    "2U030|2U031|2U032|2U032A|2U033|2U034|2U035|2U036|2U037|2U038|2U039|2U040|2U041|2U042|2V001",
    "2V001A|2V001B|2V001C|2V001D|2V001E|2V001F|2V001G|2V001H|2V001I|2V002|2V002A|2V003|2V004|2V005",
    "2V006|2V007|2V007A|2V007B|2V008|2V009|2V010|2V011|2V011A|2V011B|2V011C|2V012|2V012A|2V012B",
    "2V013|2V014|2V015|2V016|2V017|2V018|2V019|2V020|2V020A|2V020B|2V020C|2V020D|2V020E|2V020F",
    "2V020G|2V020H|2V020I|2V020J|2V020K|2V020L|2V021|2V022|2V023|2V023A|2V024|2V025|2V026|2V027",
    "2V028|2V028A|2V029|2V029A|2V030|2V030A|2V031|2V031A|2V032|2V033|2V033A|2V034|2V035|2V036",
    "2V037|2V037A|2V038|2V039|2V040|2V040A|2VERTICAL JOINER|2W001|2W002|2W003|2W003A|2W004|2W005",
    "2W006|2W007|2W008|2W009|2W009A|2W010|2W010A|2W011|2W012|2W013|2W014|2W014A|2W015|2W016|2W017",
    "2W017A|2W018|2W018A|2W019|2W020|2W021|2W022|2W023|2W024|2W024A|2W025|2X001|2X002|2X003|2X004",
    "2X004A|2X004B|2X005|2X006|2X006A|2X007|2X008|2X008A|2Y001|2Y001A|2Y002|2Y003|2Y004|2Y005",
    "2Y006|2Y007|2Y008|2Z001|2Z002|2Z002A|2Z002B|2Z002C|2Z002D|2Z003|2Z003A|2Z003B|2Z004|2Z004A",
    "2Z005|2Z005A|2Z006|2Z007|2Z008|2Z009|2Z010|2Z011|2Z012|2Z013|2Z014|2Z015|2Z015A|2Z015B|2Z015C",
    "2Z015D|2Z015E|2Z015F|2Z015G|2Z015H|2Z015I|2Z016|2Z016A|2Z016B|2Z016C|2Z016D|2Z016E|2Z016F",
    "2Z016G|2Z016H|0GREEK INSTRUMENTAL NOTATION SYMBOL-1|3SYMBOL-11|3SYMBOL-12|3SYMBOL-13",
    "3SYMBOL-14|3SYMBOL-17|3SYMBOL-18|3SYMBOL-19|3SYMBOL-2|3SYMBOL-23|3SYMBOL-24|3SYMBOL-25",
    "3SYMBOL-26|3SYMBOL-27|3SYMBOL-29|3SYMBOL-30|3SYMBOL-32|3SYMBOL-36|3SYMBOL-37|3SYMBOL-38",
    "3SYMBOL-39|3SYMBOL-4|3SYMBOL-40|3SYMBOL-42|3SYMBOL-43|3SYMBOL-45|3SYMBOL-47|3SYMBOL-48",
    "3SYMBOL-49|3SYMBOL-5|3SYMBOL-50|3SYMBOL-51|3SYMBOL-52|3SYMBOL-53|3SYMBOL-54|3SYMBOL-7",
    "3SYMBOL-8|1MUSICAL LEIMMA|1VOCAL NOTATION SYMBOL-1|3SYMBOL-10|3SYMBOL-11|3SYMBOL-12",
    "3SYMBOL-13|3SYMBOL-14|3SYMBOL-15|3SYMBOL-16|3SYMBOL-17|3SYMBOL-18|3SYMBOL-19|3SYMBOL-2",
    "3SYMBOL-20|3SYMBOL-21|3SYMBOL-22|3SYMBOL-23|3SYMBOL-24|3SYMBOL-3|3SYMBOL-4|3SYMBOL-5",
    "3SYMBOL-50|3SYMBOL-51|3SYMBOL-52|3SYMBOL-53|3SYMBOL-54|3SYMBOL-6|3SYMBOL-7|3SYMBOL-8",
    "3SYMBOL-9|0IMPERIAL ARAMAIC LETTER ALEPH|3AYIN|3BETH|3DALETH|3GIMEL|3HE|3HETH|3KAPH|3LAMEDH",
    "3MEM|3NUN|3PE|3QOPH|3RESH|3SADHE|3SAMEKH|3SHIN|3TAW|3TETH|3WAW|3YODH|3ZAYIN|2NUMBER ONE",
    "4HUNDRED|4THOUSAND|3TEN|4THOUSAND|3THREE|3TWENTY|3TWO|2SECTION SIGN",
    "0INSCRIPTIONAL PAHLAVI LETTER ALEPH|3BETH|3DALETH|3GIMEL|3HE|3HETH|3KAPH|3LAMEDH|3MEM-QOPH",
    "3NUN|3PE|3SADHE|3SAMEKH|3SHIN|3TAW|3TETH|3WAW-AYIN-RESH|3YODH|3ZAYIN|2NUMBER FOUR|3ONE",
    "4HUNDRED|4THOUSAND|3TEN|3THREE|3TWENTY|3TWO|1PARTHIAN LETTER ALEPH|3AYIN|3BETH|3DALETH|3GIMEL",
    "3HE|3HETH|3KAPH|3LAMEDH|3MEM|3NUN|3PE|3QOPH|3RESH|3SADHE|3SAMEKH|3SHIN|3TAW|3TETH|3WAW|3YODH",
    "3ZAYIN|2NUMBER FOUR|3ONE|4HUNDRED|4THOUSAND|3TEN|3THREE|3TWENTY|3TWO|0LINEAR A SIGN A028B",
    "3A100-102|3A120B|3A131C|3A301|3A302|3A303|3A304|3A305|3A306|3A307|3A308|3A309A|3A309B|3A309C",
    "3A310|3A311|3A312|3A313A|3A313B|3A313C|3A314|3A315|3A316|3A317|3A318|3A319|3A320|3A321|3A322",
    "3A323|3A324|3A325|3A326|3A327|3A328|3A329|3A330|3A331|3A332|3A333|3A334|3A335|3A336|3A337",
    "3A338|3A339|3A340|3A341|3A342|3A343|3A344|3A345|3A346|3A347|3A348|3A349|3A350|3A351|3A352",
    "3A353|3A354|3A355|3A356|3A357|3A358|3A359|3A360|3A361|3A362|3A363|3A364|3A365|3A366|3A367",
    "3A368|3A369|3A370|3A371|3A400-VAS|3A401-VAS|3A402-VAS|3A403-VAS|3A404-VAS|3A405-VAS|3A406-VAS",
    "3A407-VAS|3A408-VAS|3A409-VAS|3A410-VAS|3A411-VAS|3A412-VAS|3A413-VAS|3A414-VAS|3A415-VAS",
    "3A416-VAS|3A417-VAS|3A418-VAS|3A501|3A502|3A503|3A504|3A505|3A506|3A508|3A509|3A510|3A511",
    "3A512|3A513|3A515|3A516|3A520|3A521|3A523|3A524|3A525|3A526|3A527|3A528|3A529|3A530|3A531",
    "3A532|3A534|3A535|3A536|3A537|3A538|3A539|3A540|3A541|3A542|3A545|3A547|3A548|3A549|3A550",
    "3A551|3A552|3A553|3A554|3A555|3A556|3A557|3A559|3A563|3A564|3A565|3A566|3A568|3A569|3A570",
    "3A571|3A572|3A573|3A574|3A575|3A576|3A577|3A578|3A579|3A580|3A581|3A582|3A583|3A584|3A585",
    "3A586|3A587|3A588|3A589|3A591|3A592|3A594|3A595|3A596|3A598|3A600|3A601|3A602|3A603|3A604",
    "3A606|3A608|3A609|3A610|3A611|3A612|3A613|3A614|3A615|3A616|3A617|3A618|3A619|3A620|3A621",
    "3A622|3A623|3A624|3A626|3A627|3A628|3A629|3A634|3A637|3A638|3A640|3A642|3A643|3A644|3A645",
    "3A646|3A648|3A649|3A651|3A652|3A653|3A654|3A655|3A656|3A657|3A658|3A659|3A660|3A661|3A662",
    "3A663|3A664|3A701 A|3A702 B|3A703 D|3A704 E|3A705 F|3A706 H|3A707 J|3A708 K|3A709 L",
    "3A709-2 L2|3A709-3 L3|3A709-4 L4|3A709-6 L6|3A710 W|3A711 X|3A712 Y|3A713 OMEGA|3A714 ABB",
    "3A715 BB|3A717 DD|3A726 EYYY|3A732 JE|3A800|3A801|3A802|3A803|3A804|3A805|3A806|3A807|3AB001",
    "3AB002|3AB003|3AB004|3AB005|3AB006|3AB007|3AB008|3AB009|3AB010|3AB011|3AB013|3AB016|3AB017",
    "3AB020|3AB021|3AB021F|3AB021M|3AB022|3AB022F|3AB022M|3AB023|3AB023M|3AB024|3AB026|3AB027",
    "3AB028|3AB029|3AB030|3AB031|3AB034|3AB037|3AB038|3AB039|3AB040|3AB041|3AB044|3AB045|3AB046",
    "3AB047|3AB048|3AB049|3AB050|3AB051|3AB053|3AB054|3AB055|3AB056|3AB057|3AB058|3AB059|3AB060",
    "3AB061|3AB065|3AB066|3AB067|3AB069|3AB070|3AB073|3AB074|3AB076|3AB077|3AB078|3AB079|3AB080",
    "3AB081|3AB082|3AB085|3AB086|3AB087|3AB118|3AB120|3AB122|3AB123|3AB131A|3AB131B|3AB164|3AB171",
    "3AB180|3AB188|3AB191|1B IDEOGRAM B100 MAN|3B102 WOMAN|3B104 DEER|3B105 EQUID|3B105F MARE",
    "3B105M STALLION|3B106F EWE|3B106M RAM|3B107F SHE-GOAT|3B107M HE-GOAT|3B108F SOW|3B108M BOAR",
    "3B109F COW|3B109M BULL|3B120 WHEAT|3B121 BARLEY|3B122 OLIVE|3B123 SPICE|3B125 CYPERUS",
    "3B130 OIL|3B131 WINE|3B132|3B140 BRONZE|3B141 GOLD|3B142|3B145 WOOL|3B146|3B150|3B151 HORN",
    "3B152|3B153|3B154|3B157|3B158|3B159 CLOTH|3B160|3B161|3B162 GARMENT|3B163 ARMOUR|3B164|3B165",
    "3B166|3B167|3B168|3B169|3B170|3B171|3B172|3B173 MONTH|3B174|3B176 TREE|3B177|3B178|3B179",
    "3B180|3B181|3B182|3B183|3B184|3B185|3B189|3B190|3B191 HELMET|3B220 FOOTSTOOL|3B225 BATHTUB",
    "3B230 SPEAR|3B231 ARROW|3B232|3B233 SWORD|3B234|3B236|3B240 WHEELED CHARIOT|3B241 CHARIOT",
    "3B242 CHARIOT FRAME|3B243 WHEEL|3B245|3B246|3B248|3B249|3B251|3B252|3B253|3B254 DART|3B255",
    "3B256|3B257|3B258|3B259|3VESSEL B155|4B200|4B201|4B202|4B203|4B204|4B205|4B206|4B207|4B208",
    "4B209|4B210|4B211|4B212|4B213|4B214|4B215|4B216|4B217|4B218|4B219|4B221|4B222|4B226|4B227",
    "4B228|4B229|4B250|4B305|2MONOGRAM B127 KAPO|3B128 KANAKO|3B133 AREPA|3B135 MERI|3B156 TURO2",
    "3B247 DIPTE|2SYLLABLE B001 DA|3B002 RO|3B003 PA|3B004 TE|3B005 TO|3B006 NA|3B007 DI|3B008 A",
    "3B009 SE|3B010 U|3B011 PO|3B012 SO|3B013 ME|3B014 DO|3B015 MO|3B016 QA|3B017 ZA|3B020 ZO",
    "3B021 QI|3B023 MU|3B024 NE|3B025 A2|3B026 RU|3B027 RE|3B028 I|3B029 PU2|3B030 NI|3B031 SA",
    "3B032 QO|3B033 RA3|3B036 JO|3B037 TI|3B038 E|3B039 PI|3B040 WI|3B041 SI|3B042 WO|3B043 A3",
    "3B044 KE|3B045 DE|3B046 JE|3B048 NWA|3B050 PU|3B051 DU|3B052 NO|3B053 RI|3B054 WA|3B055 NU",
    "3B057 JA|3B058 SU|3B059 TA|3B060 RA|3B061 O|3B062 PTE|3B065 JU|3B066 TA2|3B067 KI|3B068 RO2",
    "3B069 TU|3B070 KO|3B071 DWE|3B072 PE|3B073 MI|3B074 ZE|3B075 WE|3B076 RA2|3B077 KA|3B078 QE",
    "3B080 MA|3B081 KU|3B085 AU|3B087 TWE|3B090 DWO|3B091 TWO|2SYMBOL B018|3B019|3B022|3B034|3B047",
    "3B049|3B056|3B063|3B064|3B079|3B082|3B083|3B086|3B089|0LYCIAN LETTER A|2AN|2B|2BH|2D|2E|2EN",
    "2G|2H|2I|2J|2K|2KK|2L|2M|2MM|2N|2NN|2P|2Q|2R|2S|2T|2TH|2TT|2U|2W|2X|2Z|0LYDIAN LETTER A|2AN",
    "2B|2C|2D|2E|2EN|2F|2G|2I|2K|2L|2LY|2M|2N|2NN|2O|2Q|2R|2S|2SS|2T|2TT|2U|2V|2Y|1TRIANGULAR MARK",
    "0MEROITIC CURSIVE FRACTION EIGHT TWELFTHS|3ELEVEN TWELFTHS|3FIVE TWELFTHS|3FOUR TWELFTHS",
    "3NINE TWELFTHS|3ONE HALF|4TWELFTH|3SEVEN TWELFTHS|3SIX TWELFTHS|3TEN TWELFTHS|3THREE TWELFTHS",
    "3TWO TWELFTHS|2LETTER A|3ARCHAIC SA|3BA|3DA|3E|3HHA|3I|3KA|3KHA|3LA|3MA|3NA|3NE|3O|3PA|3QA",
    "3RA|3SA|3SE|3TA|3TE|3TO|3WA|3YA|2LOGOGRAM IMN|3RMT|2NUMBER EIGHT|4HUNDRED|5THOUSAND|4THOUSAND",
    "3EIGHTY THOUSAND|3FIFTY|4THOUSAND|3FIVE|4HUNDRED|5THOUSAND|4THOUSAND|3FORTY|4THOUSAND|3FOUR",
    "4HUNDRED|5THOUSAND|4THOUSAND|3NINE|4HUNDRED|5THOUSAND|4THOUSAND|3NINETY THOUSAND|3ONE",
    "4HUNDRED|5THOUSAND|4THOUSAND|3SEVEN|4HUNDRED|5THOUSAND|4THOUSAND|3SEVENTY|4THOUSAND|3SIX",
    "4HUNDRED|5THOUSAND|4THOUSAND|3SIXTY|4THOUSAND|3TEN|4THOUSAND|3THIRTY|4THOUSAND|3THREE",
    "4HUNDRED|5THOUSAND|4THOUSAND|3TWENTY|4THOUSAND|3TWO|4HUNDRED|5THOUSAND|4THOUSAND",
    "1HIEROGLYPHIC LETTER A|3BA|3BA-2|3DA|3E|3HHA|3I|3KA|3KHA|3LA|3MA|3NA|3NA-2|3NE|3NE-2|3O|3PA",
    "3QA|3RA|3RA-2|3SA|3SA-2|3SE|3TA|3TA-2|3TE|3TE-2|3TO|3WA|3YA|2SYMBOL VIDJ|3VIDJ-2",
    "0OLD NORTH ARABIAN LETTER AIN|4ALEF|4BEH|4DAD|4DAL|4ES-1|4ES-2|4ES-3|4FEH|4GEEM|4GHAIN|4HAH",
    "4HEH|4KAF|4KHAH|4LAM|4MEEM|4NOON|4QAF|4REH|4SAD|4TAH|4TEH|4THAL|4THEH|4WAW|4YEH|4ZAH|4ZAIN",
    "3NUMBER ONE|4TEN|4TWENTY|1PERSIAN NUMBER HUNDRED|3ONE|3TEN|3TWENTY|3TWO|2SIGN A|3AURAMAZDAA",
    "3AURAMAZDAA-2|3AURAMAZDAAHA|3BA|3BAGA|3BUUMISH|3CA|3DA|3DAHYAAUSH|3DAHYAAUSH-2|3DI|3DU|3FA",
    "3GA|3GU|3HA|3I|3JA|3JI|3KA|3KU|3LA|3MA|3MI|3MU|3NA|3NU|3PA|3RA|3RU|3SA|3SHA|3SSA|3TA|3THA|3TU",
    "3U|3VA|3VI|3XA|3XSHAAYATHIYA|3YA|3ZA|2WORD DIVIDER|1SOUTH ARABIAN LETTER ALEF|4AYN|4BETH",
    "4DALETH|4DHADHE|4DHALETH|4FE|4GHAYN|4GIMEL|4HE|4HETH|4KAPH|4KHETH|4LAMEDH|4MEM|4NUN|4QOPH",
    "4RESH|4SADHE|4SAMEKH|4SAT|4SHIN|4TAW|4TETH|4THAW|4THETH|4WAW|4YODH|4ZAYN|3NUMBER FIFTY|4ONE",
    "3NUMERIC INDICATOR|0PHAISTOS DISC SIGN ARROW|3BEE|3BEEHIVE|3BOOMERANG|3BOW|3BULLS LEG",
    "3CAPTIVE|3CARPENTRY PLANE|3CAT|3CHILD|3CLUB|3COLUMN|3COMB|3COMBINING OBLIQUE STROKE|3DOLIUM",
    "3DOVE|3EAGLE|3FLUTE|3GAUNTLET|3GRATER|3HELMET|3HIDE|3HORN|3LID|3LILY|3MANACLES|3MATTOCK",
    "3OX BACK|3PAPYRUS|3PEDESTRIAN|3PLANE TREE|3PLUMED HEAD|3RAM|3ROSETTE|3SAW|3SHIELD|3SHIP",
    "3SLING|3SMALL AXE|3STRAINER|3TATTOOED HEAD|3TIARA|3TUNNY|3VINE|3WAVY BAND|3WOMAN",
    "0PHOENICIAN LETTER AIN|2ALF|2BET|2DELT|2GAML|2HE|2HET|2KAF|2LAMD|2MEM|2NUN|2PE|2QOF|2ROSH",
    "2SADE|2SEMK|2SHIN|2TAU|2TET|2WAU|2YOD|2ZAI|1NUMBER ONE|3HUNDRED|2TEN|2THREE|2TWENTY|2TWO",
    "1WORD SEPARATOR|0PSALTER PAHLAVI LETTER ALEPH|3BETH|3DALETH|3GIMEL|3HE|3HETH|3KAPH|3LAMEDH",
    "3MEM-QOPH|3NUN|3PE|3SADHE|3SAMEKH|3WAW-AYIN-RESH|3YODH|3ZAYIN|0UGARITIC LETTER AIN|2ALPA",
    "2BETA|2DELTA|2DHAL|2GAMLA|2GHAIN|2HO|2HOTA|2I|2KAF|2KHA|2LAMDA|2MEM|2NUN|2PU|2QOPA|2RASHA",
    "2SADE|2SAMKA|2SHIN|2SSU|2TET|2THANNA|2TO|2U|2WO|2YOD|2ZETA|2ZU|1WORD DIVIDER"]

end Casebook.Text.NameTable
