/-!
# Names of characters of the Middle East

Hebrew, Arabic, Syriac, Mandaic and other letters of the Middle East.
-/

namespace Casebook.Text.NameTable

/-- The names, in the form of a table of names. -/
def middleEast : List String :=
  ["0AFGHANI SIGN|0ARABIC BASELINE ROUND DOT|1COMMA|1CURLY DAMMA|2DAMMATAN|2FATHA|2FATHATAN",
    "2KASRA|2KASRATAN|1DAMMA|2ISOLATED FORM|2MEDIAL FORM|2WITH DOT|1DAMMATAN|2ISOLATED FORM",
    "1DATE SEPARATOR|1DECIMAL SEPARATOR|1DISPUTED END OF AYAH|1DOUBLE RIGHT ARROWHEAD ABOVE",
    "5WITH DOT|1DOUBLED MADDA|1EMPTY CENTRE HIGH STOP|3LOW STOP|1END OF AYAH|3TEXT MARK|1FATHA",
    "2ISOLATED FORM|2MEDIAL FORM|2WITH DOT ABOVE|3RING|3TWO DOTS|1FATHATAN|2ISOLATED FORM",
    "1FIVE POINTED STAR|1FOOTNOTE MARKER|1FULL STOP|1HALF MADDA OVER MADDA|1HAMZA ABOVE|2BELOW",
    "1INVERTED DAMMA|1KASRA|2ISOLATED FORM|2MEDIAL FORM|2WITH DOT BELOW|1KASRATAN|2ISOLATED FORM",
    "1LARGE CIRCLE BELOW|2ROUND DOT ABOVE|4BELOW|4INSIDE CIRCLE BELOW|1LEFT ARROWHEAD ABOVE|3BELOW",
    "1LETTER AE|2AFRICAN FEH|3NOON|3QAF|4WITH THREE DOTS ABOVE|2AIN|3FINAL FORM|3INITIAL FORM",
    "3ISOLATED FORM|3MEDIAL FORM|3WITH THREE DOTS ABOVE|6BELOW|6POINTING DOWNWARDS ABOVE",
    "4TWO DOTS ABOVE|6VERTICALLY ABOVE|2ALEF|3FINAL FORM|3ISOLATED FORM|3MAKSURA|4FINAL FORM",
    "4ISOLATED FORM|3WASLA|4FINAL FORM|4ISOLATED FORM|3WITH ATTACHED BOTTOM RIGHT KASRA",
    "8AND DOT ABOVE|9LEFT RING|5FATHA|5KASRA|5LEFT HAMZA|6ROUND DOT|5RIGHT HAMZA|6ROUND DOT",
    "5ROUND DOT ABOVE|7BELOW|5TOP RIGHT FATHA|8AND DOT ABOVE|9LEFT RING|4DOT ABOVE",
    "4EXTENDED ARABIC-INDIC DIGIT THREE ABOVE|7TWO ABOVE|4HAMZA ABOVE|6FINAL FORM|6ISOLATED FORM",
    "5BELOW|6FINAL FORM|6ISOLATED FORM|4LEFT MIDDLE STROKE|4MADDA ABOVE|6FINAL FORM|6ISOLATED FORM",
    "4RIGHT MIDDLE STROKE|7AND DOT ABOVE|8LEFT RING|4WAVY HAMZA ABOVE|6BELOW|2BEEH|3FINAL FORM",
    "3INITIAL FORM|3ISOLATED FORM|3MEDIAL FORM|2BEH|3FINAL FORM|3INITIAL FORM|3ISOLATED FORM",
    "3MEDIAL FORM|3WITH DOT BELOW AND THREE DOTS ABOVE|4HAMZA ABOVE|4INVERTED SMALL V BELOW",
    "4SMALL MEEM ABOVE|5V|6BELOW|4THREE DOTS HORIZONTALLY BELOW|6POINTING UPWARDS BELOW",
    "9AND TWO DOTS ABOVE|4TWO DOTS BELOW AND DOT ABOVE|2BEHEH|3FINAL FORM|3INITIAL FORM",
    "3ISOLATED FORM|3MEDIAL FORM|2DAD|3FINAL FORM|3INITIAL FORM|3ISOLATED FORM|3MEDIAL FORM",
    "3WITH DOT BELOW|2DAHAL|3FINAL FORM|3ISOLATED FORM|2DAL|3FINAL FORM|3ISOLATED FORM",
    "3WITH DOT BELOW|6AND SMALL TAH|4FOUR DOTS ABOVE|4INVERTED SMALL V BELOW|5V|4RING",
    "4THREE DOTS ABOVE DOWNWARDS|6BELOW|4TWO DOTS VERTICALLY BELOW AND SMALL TAH|2DDAHAL",
    "3FINAL FORM|3ISOLATED FORM|2DDAL|3FINAL FORM|3ISOLATED FORM|2DOTLESS BEH|3FEH|3QAF|2DUL",
    "3FINAL FORM|3ISOLATED FORM|2DYEH|3FINAL FORM|3INITIAL FORM|3ISOLATED FORM|3MEDIAL FORM|2E",
    "3FINAL FORM|3INITIAL FORM|3ISOLATED FORM|3MEDIAL FORM|2FARSI YEH|4FINAL FORM|4INITIAL FORM",
    "4ISOLATED FORM|4MEDIAL FORM|4WITH EXTENDED ARABIC-INDIC DIGIT FOUR BELOW|8THREE ABOVE",
    "8TWO ABOVE|5INVERTED V|5THREE DOTS ABOVE|5TWO DOTS ABOVE|2FEH|3FINAL FORM|3INITIAL FORM",
    "3ISOLATED FORM|3MEDIAL FORM|3WITH DOT BELOW|6AND THREE DOTS ABOVE|5MOVED BELOW",
    "4THREE DOTS BELOW|6POINTING UPWARDS BELOW|4TWO DOTS BELOW|2GAF|3FINAL FORM|3INITIAL FORM",
    "3ISOLATED FORM|3MEDIAL FORM|3WITH INVERTED STROKE|4RING|4THREE DOTS ABOVE|4TWO DOTS BELOW",
    "2GHAIN|3FINAL FORM|3INITIAL FORM|3ISOLATED FORM|3MEDIAL FORM|3WITH DOT BELOW",
    "4THREE DOTS ABOVE|2GRAF|2GUEH|3FINAL FORM|3INITIAL FORM|3ISOLATED FORM|3MEDIAL FORM|2HAH",
    "3FINAL FORM|3INITIAL FORM|3ISOLATED FORM|3MEDIAL FORM",
    "3WITH EXTENDED ARABIC-INDIC DIGIT FOUR BELOW|4HAMZA ABOVE|4INVERTED SMALL V BELOW",
    "4SMALL ARABIC LETTER TAH ABOVE|8AND TWO DOTS|8BELOW|4THREE DOTS ABOVE|6POINTING UPWARDS BELOW",
    "4TWO DOTS ABOVE|6VERTICAL ABOVE|2HAMZA|3ISOLATED FORM|2HEH|3DOACHASHMEE|4FINAL FORM",
    "4INITIAL FORM|4ISOLATED FORM|4MEDIAL FORM|3FINAL FORM|3GOAL|4FINAL FORM|4INITIAL FORM",
    "4ISOLATED FORM|4MEDIAL FORM|4WITH HAMZA ABOVE|3INITIAL FORM|3ISOLATED FORM|3MEDIAL FORM",
    "3WITH INVERTED V|4YEH ABOVE|6FINAL FORM|6ISOLATED FORM|2HIGH HAMZA|4ALEF|4WAW|4YEH|2JEEM",
    "3FINAL FORM|3INITIAL FORM|3ISOLATED FORM|3MEDIAL FORM|3WITH THREE DOTS ABOVE|6BELOW",
    "4TWO DOTS ABOVE|2JEH|3FINAL FORM|3ISOLATED FORM|2KAF|3FINAL FORM|3INITIAL FORM|3ISOLATED FORM",
    "3MEDIAL FORM|3WITH DOT ABOVE|5BELOW|4RING|4THREE DOTS BELOW|4TWO DOTS ABOVE|2KASHMIRI YEH",
    "2KEHEH|3FINAL FORM|3INITIAL FORM|3ISOLATED FORM|3MEDIAL FORM|3WITH DOT ABOVE|4SMALL V",
    "4THREE DOTS ABOVE|6BELOW|6POINTING UPWARDS BELOW|4TWO DOTS ABOVE|6VERTICALLY BELOW|2KHAH",
    "3FINAL FORM|3INITIAL FORM|3ISOLATED FORM|3MEDIAL FORM|2KIRGHIZ OE|4FINAL FORM|4ISOLATED FORM",
    "3YU|4FINAL FORM|4ISOLATED FORM|2LAM|3FINAL FORM|3INITIAL FORM|3ISOLATED FORM|3MEDIAL FORM",
    "3WITH BAR|4DOT ABOVE|4DOUBLE BAR|4SMALL ARABIC LETTER TAH ABOVE|5V|4THREE DOTS ABOVE|6BELOW",
    "2LOW ALEF|2MARK|2MEEM|3FINAL FORM|3INITIAL FORM|3ISOLATED FORM|3MEDIAL FORM|3WITH DOT ABOVE",
    "5BELOW|4THREE DOTS ABOVE|2NG|3FINAL FORM|3INITIAL FORM|3ISOLATED FORM|3MEDIAL FORM|2NGOEH",
    "3FINAL FORM|3INITIAL FORM|3ISOLATED FORM|3MEDIAL FORM|2NOON|3FINAL FORM|3GHUNNA|4FINAL FORM",
    "4ISOLATED FORM|3INITIAL FORM|3ISOLATED FORM|3MEDIAL FORM|3WITH DOT BELOW|4INVERTED SMALL V",
    "4RING|4SMALL TAH|5V|4THREE DOTS ABOVE|4TWO DOTS BELOW|2NYEH|3FINAL FORM|3INITIAL FORM",
    "3ISOLATED FORM|3MEDIAL FORM|2OE|3FINAL FORM|3ISOLATED FORM|2PEH|3FINAL FORM|3INITIAL FORM",
    "3ISOLATED FORM|3MEDIAL FORM|3WITH SMALL MEEM ABOVE|5V|2PEHEH|3FINAL FORM|3INITIAL FORM",
    "3ISOLATED FORM|3MEDIAL FORM|2QAF|3FINAL FORM|3INITIAL FORM|3ISOLATED FORM|3MEDIAL FORM",
    "3WITH DOT ABOVE|5BELOW|6AND NO DOTS ABOVE|4THREE DOTS ABOVE|2REH|3FINAL FORM|3ISOLATED FORM",
    "3WITH DOT BELOW|6AND DOT ABOVE|4FOUR DOTS ABOVE|4HAMZA ABOVE|4INVERTED V|4LOOP|4RING",
    "4SMALL ARABIC LETTER TAH AND TWO DOTS|5NOON ABOVE|5V|6BELOW|4STROKE|4TWO DOTS ABOVE",
    "6VERTICALLY ABOVE|2RNOON|3FINAL FORM|3INITIAL FORM|3ISOLATED FORM|3MEDIAL FORM|2ROHINGYA YEH",
    "2RREH|3FINAL FORM|3ISOLATED FORM|2SAD|3FINAL FORM|3INITIAL FORM|3ISOLATED FORM|3MEDIAL FORM",
    "3WITH THREE DOTS ABOVE|6BELOW|4TWO DOTS BELOW|2SEEN|3FINAL FORM|3INITIAL FORM|3ISOLATED FORM",
    "3MEDIAL FORM|3WITH DOT BELOW AND DOT ABOVE|4EXTENDED ARABIC-INDIC DIGIT FOUR ABOVE",
    "4FOUR DOTS ABOVE|4INVERTED V|4SMALL ARABIC LETTER TAH AND TWO DOTS|4THREE DOTS BELOW",
    "7AND THREE DOTS ABOVE|4TWO DOTS VERTICALLY ABOVE|2SHEEN|3FINAL FORM|3INITIAL FORM",
    "3ISOLATED FORM|3MEDIAL FORM|3WITH DOT BELOW|2STRAIGHT WAW|2SUPERSCRIPT ALEF|2SWASH KAF|2TAH",
    "3FINAL FORM|3INITIAL FORM|3ISOLATED FORM|3MEDIAL FORM|3WITH DOT BELOW|4THREE DOTS ABOVE",
    "6BELOW|4TWO DOTS ABOVE|2TCHEH|3FINAL FORM|3INITIAL FORM|3ISOLATED FORM|3MEDIAL FORM",
    "3WITH DOT ABOVE|4SMALL V|2TCHEHEH|3FINAL FORM|3INITIAL FORM|3ISOLATED FORM|3MEDIAL FORM|2TEH",
    "3FINAL FORM|3INITIAL FORM|3ISOLATED FORM|3MARBUTA|4FINAL FORM|4GOAL|4ISOLATED FORM",
    "3MEDIAL FORM|3WITH RING|4SMALL TEH ABOVE|5V|4THREE DOTS ABOVE DOWNWARDS|2TEHEH|3FINAL FORM",
    "3INITIAL FORM|3ISOLATED FORM|3MEDIAL FORM|2THAL|3FINAL FORM|3ISOLATED FORM|2THEH|3FINAL FORM",
    "3INITIAL FORM|3ISOLATED FORM|3MEDIAL FORM|2THIN YEH|2TTEH|3FINAL FORM|3INITIAL FORM",
    "3ISOLATED FORM|3MEDIAL FORM|3WITH SMALL V|2TTEHEH|3FINAL FORM|3INITIAL FORM|3ISOLATED FORM",
    "3MEDIAL FORM|2U|3FINAL FORM|3ISOLATED FORM|3WITH HAMZA ABOVE|6ISOLATED FORM",
    "2UIGHUR KAZAKH KIRGHIZ ALEF MAKSURA INITIAL FORM|7MEDIAL FORM|2VE|3FINAL FORM|3ISOLATED FORM",
    "2VEH|3FINAL FORM|3INITIAL FORM|3ISOLATED FORM|3MEDIAL FORM|2WAW|3FINAL FORM|3ISOLATED FORM",
    "3WITH DOT ABOVE|5WITHIN|4EXTENDED ARABIC-INDIC DIGIT THREE ABOVE|7TWO ABOVE|4HAMZA ABOVE",
    "6FINAL FORM|6ISOLATED FORM|4RING|4TWO DOTS ABOVE|2YEH|3BARREE|4FINAL FORM|4ISOLATED FORM",
    "4WITH EXTENDED ARABIC-INDIC DIGIT THREE ABOVE|8TWO ABOVE|5HAMZA ABOVE|7FINAL FORM",
    "7ISOLATED FORM|3FINAL FORM|3INITIAL FORM|3ISOLATED FORM|3MEDIAL FORM|3WITH HAMZA ABOVE",
    "6FINAL FORM|6INITIAL FORM|6ISOLATED FORM|6MEDIAL FORM|4SMALL V|4TAIL|4THREE DOTS BELOW",
    "4TWO DOTS BELOW AND DOT ABOVE|8HAMZA ABOVE|8SMALL NOON ABOVE|2YU|3FINAL FORM|3ISOLATED FORM",
    "2ZAH|3FINAL FORM|3INITIAL FORM|3ISOLATED FORM|3MEDIAL FORM|2ZAIN|3FINAL FORM|3ISOLATED FORM",
    "3WITH INVERTED V ABOVE|1LIGATURE AIN WITH ALEF MAKSURA FINAL FORM|6ISOLATED FORM",
    "4JEEM INITIAL FORM|5ISOLATED FORM|5WITH MEEM FINAL FORM|7INITIAL FORM|4MEEM INITIAL FORM",
    "5ISOLATED FORM|5WITH ALEF MAKSURA FINAL FORM|6MEEM FINAL FORM|7INITIAL FORM|6YEH FINAL FORM",
    "4YEH FINAL FORM|5ISOLATED FORM|2AKBAR ISOLATED FORM|2ALAYHAA AS-SALAAM|2ALAYHE ISOLATED FORM",
    "2ALAYHI AS-SALAAM|3AS-SALAATU WAS-SALAAM|2ALAYHIM AS-SALAAM|2ALAYHIMAA AS-SALAAM",
    "2ALEF MAKSURA WITH SUPERSCRIPT ALEF FINAL FORM|7ISOLATED FORM|3WITH FATHATAN FINAL FORM",
    "5ISOLATED FORM|2ALLAH ISOLATED FORM|2AZZA WA JALL|2BEH WITH ALEF MAKSURA FINAL FORM",
    "6ISOLATED FORM|4HAH INITIAL FORM|5ISOLATED FORM|5WITH YEH FINAL FORM|4HEH INITIAL FORM",
    "5MEDIAL FORM|4JEEM INITIAL FORM|5ISOLATED FORM|4KHAH INITIAL FORM|5ISOLATED FORM",
    "5WITH YEH FINAL FORM|4MEEM FINAL FORM|5INITIAL FORM|5ISOLATED FORM|5MEDIAL FORM",
    "4NOON FINAL FORM|4REH FINAL FORM|4YEH FINAL FORM|5ISOLATED FORM|4ZAIN FINAL FORM",
    "2BISMILLAH AR-RAHMAN AR-RAHEEM|2DAD WITH ALEF MAKSURA FINAL FORM|6ISOLATED FORM",
    "4HAH INITIAL FORM|5ISOLATED FORM|5WITH ALEF MAKSURA FINAL FORM|6YEH FINAL FORM",
    "4JEEM INITIAL FORM|5ISOLATED FORM|4KHAH INITIAL FORM|5ISOLATED FORM|5WITH MEEM FINAL FORM",
    "7INITIAL FORM|4MEEM INITIAL FORM|5ISOLATED FORM|4REH FINAL FORM|5ISOLATED FORM",
    "4YEH FINAL FORM|5ISOLATED FORM|2FEH WITH ALEF MAKSURA FINAL FORM|6ISOLATED FORM",
    "4HAH INITIAL FORM|5ISOLATED FORM|4JEEM INITIAL FORM|5ISOLATED FORM|4KHAH INITIAL FORM",
    "5ISOLATED FORM|5WITH MEEM FINAL FORM|7INITIAL FORM|4MEEM INITIAL FORM|5ISOLATED FORM",
    "5WITH YEH FINAL FORM|4YEH FINAL FORM|5ISOLATED FORM|2GHAIN WITH ALEF MAKSURA FINAL FORM",
    "6ISOLATED FORM|4JEEM INITIAL FORM|5ISOLATED FORM|4MEEM INITIAL FORM|5ISOLATED FORM",
    "5WITH ALEF MAKSURA FINAL FORM|6MEEM FINAL FORM|6YEH FINAL FORM|4YEH FINAL FORM|5ISOLATED FORM",
    "2HAH WITH ALEF MAKSURA FINAL FORM|6ISOLATED FORM|4JEEM INITIAL FORM|5ISOLATED FORM",
    "5WITH YEH FINAL FORM|4MEEM INITIAL FORM|5ISOLATED FORM|5WITH ALEF MAKSURA FINAL FORM",
    "6YEH FINAL FORM|4YEH FINAL FORM|5ISOLATED FORM|2HEH WITH ALEF MAKSURA ISOLATED FORM",
    "4JEEM INITIAL FORM|5ISOLATED FORM|4MEEM INITIAL FORM|5ISOLATED FORM|5WITH JEEM INITIAL FORM",
    "6MEEM INITIAL FORM|4SUPERSCRIPT ALEF INITIAL FORM|4YEH ISOLATED FORM|2JALLAJALALOUHOU",
    "2JEEM WITH ALEF MAKSURA FINAL FORM|6ISOLATED FORM|4HAH INITIAL FORM|5ISOLATED FORM",
    "5WITH ALEF MAKSURA FINAL FORM|6YEH FINAL FORM|4MEEM INITIAL FORM|5ISOLATED FORM",
    "5WITH ALEF MAKSURA FINAL FORM|6HAH FINAL FORM|7INITIAL FORM|6YEH FINAL FORM|4YEH FINAL FORM",
    "5ISOLATED FORM|2KAF WITH ALEF FINAL FORM|5ISOLATED FORM|5MAKSURA FINAL FORM|6ISOLATED FORM",
    "4HAH INITIAL FORM|5ISOLATED FORM|4JEEM INITIAL FORM|5ISOLATED FORM|4KHAH INITIAL FORM",
    "5ISOLATED FORM|4LAM FINAL FORM|5INITIAL FORM|5ISOLATED FORM|5MEDIAL FORM|4MEEM FINAL FORM",
    "5INITIAL FORM|5ISOLATED FORM|5MEDIAL FORM|5WITH MEEM FINAL FORM|7INITIAL FORM|6YEH FINAL FORM",
    "4YEH FINAL FORM|5ISOLATED FORM|2KHAH WITH ALEF MAKSURA FINAL FORM|6ISOLATED FORM",
    "4HAH ISOLATED FORM|4JEEM INITIAL FORM|5ISOLATED FORM|4MEEM INITIAL FORM|5ISOLATED FORM",
    "4YEH FINAL FORM|5ISOLATED FORM|2LAM WITH ALEF FINAL FORM|5ISOLATED FORM|5MAKSURA FINAL FORM",
    "6ISOLATED FORM|5WITH HAMZA ABOVE FINAL FORM|8ISOLATED FORM|7BELOW FINAL FORM|8ISOLATED FORM",
    "6MADDA ABOVE FINAL FORM|8ISOLATED FORM|4HAH INITIAL FORM|5ISOLATED FORM",
    "5WITH ALEF MAKSURA FINAL FORM|6MEEM FINAL FORM|7INITIAL FORM|6YEH FINAL FORM",
    "4HEH INITIAL FORM|4JEEM INITIAL FORM|5ISOLATED FORM|5WITH JEEM FINAL FORM|7INITIAL FORM",
    "6MEEM FINAL FORM|7INITIAL FORM|6YEH FINAL FORM|4KHAH INITIAL FORM|5ISOLATED FORM",
    "5WITH MEEM FINAL FORM|7INITIAL FORM|4MEEM FINAL FORM|5INITIAL FORM|5ISOLATED FORM",
    "5MEDIAL FORM|5WITH HAH FINAL FORM|7INITIAL FORM|6YEH FINAL FORM|4YEH FINAL FORM",
    "5ISOLATED FORM|2MEEM WITH ALEF FINAL FORM|5MAKSURA ISOLATED FORM|4HAH INITIAL FORM",
    "5ISOLATED FORM|5WITH JEEM INITIAL FORM|6MEEM INITIAL FORM|6YEH FINAL FORM|4JEEM INITIAL FORM",
    "5ISOLATED FORM|5WITH HAH INITIAL FORM|6KHAH INITIAL FORM|6MEEM INITIAL FORM|6YEH FINAL FORM",
    "4KHAH INITIAL FORM|5ISOLATED FORM|5WITH JEEM INITIAL FORM|6MEEM INITIAL FORM|6YEH FINAL FORM",
    "4MEEM FINAL FORM|5INITIAL FORM|5ISOLATED FORM|5WITH YEH FINAL FORM|4YEH ISOLATED FORM",
    "2MOHAMMAD ISOLATED FORM|2NOON WITH ALEF MAKSURA FINAL FORM|6ISOLATED FORM|4HAH INITIAL FORM",
    "5ISOLATED FORM|5WITH ALEF MAKSURA FINAL FORM|6MEEM INITIAL FORM|6YEH FINAL FORM",
    "4HEH INITIAL FORM|5MEDIAL FORM|4JEEM INITIAL FORM|5ISOLATED FORM",
    "5WITH ALEF MAKSURA FINAL FORM|6HAH FINAL FORM|7INITIAL FORM|6MEEM FINAL FORM|7INITIAL FORM",
    "6YEH FINAL FORM|4KHAH INITIAL FORM|5ISOLATED FORM|4MEEM FINAL FORM|5INITIAL FORM",
    "5ISOLATED FORM|5MEDIAL FORM|5WITH ALEF MAKSURA FINAL FORM|6YEH FINAL FORM|4NOON FINAL FORM",
    "4REH FINAL FORM|4YEH FINAL FORM|5ISOLATED FORM|4ZAIN FINAL FORM",
    "2QAF WITH ALEF MAKSURA FINAL FORM|6ISOLATED FORM|4HAH INITIAL FORM|5ISOLATED FORM",
    "4MEEM INITIAL FORM|5ISOLATED FORM|5WITH HAH FINAL FORM|7INITIAL FORM|6MEEM FINAL FORM",
    "6YEH FINAL FORM|4YEH FINAL FORM|5ISOLATED FORM|2QALA USED AS KORANIC STOP SIGN ISOLATED FORM",
    "2QUDDISA SIRRAH|2RADI ALLAAHU ANH|4ANHAA|4ANHUM|4ANHUMAA|4ANHUNNA|2RAHIMAHU ALLAAH",
    "2RAHIMAHUM ALLAAH|2RASOUL ISOLATED FORM|2REH WITH SUPERSCRIPT ALEF ISOLATED FORM",
    "2SAD WITH ALEF MAKSURA FINAL FORM|6ISOLATED FORM|4HAH INITIAL FORM|5ISOLATED FORM",
    "5WITH HAH FINAL FORM|7INITIAL FORM|6YEH FINAL FORM|4KHAH INITIAL FORM|4MEEM INITIAL FORM",
    "5ISOLATED FORM|5WITH MEEM FINAL FORM|7INITIAL FORM|4REH FINAL FORM|5ISOLATED FORM",
    "4YEH FINAL FORM|5ISOLATED FORM|2SALAAMUHU ALAYNAA|2SALAM ISOLATED FORM|2SALLA ISOLATED FORM",
    "3USED AS KORANIC STOP SIGN ISOLATED FORM|2SALLALLAAHU ALAYHI WA-AALIH",
    "2SALLALLAHOU ALAYHE WASALLAM|2SALLALLAHU ALAYHI WAAALIHEE WA-SALLAM",
    "2SEEN WITH ALEF MAKSURA FINAL FORM|6ISOLATED FORM|4HAH INITIAL FORM|5ISOLATED FORM",
    "5MEDIAL FORM|5WITH JEEM INITIAL FORM|4HEH INITIAL FORM|5MEDIAL FORM|4JEEM INITIAL FORM",
    "5ISOLATED FORM|5MEDIAL FORM|5WITH ALEF MAKSURA FINAL FORM|6HAH INITIAL FORM",
    "4KHAH INITIAL FORM|5ISOLATED FORM|5MEDIAL FORM|5WITH ALEF MAKSURA FINAL FORM|6YEH FINAL FORM",
    "4MEEM INITIAL FORM|5ISOLATED FORM|5MEDIAL FORM|5WITH HAH FINAL FORM|7INITIAL FORM",
    "6JEEM INITIAL FORM|6MEEM FINAL FORM|7INITIAL FORM|4REH FINAL FORM|5ISOLATED FORM",
    "4YEH FINAL FORM|5ISOLATED FORM|2SHADDA WITH DAMMA ISOLATED FORM|5MEDIAL FORM",
    "4DAMMATAN ISOLATED FORM|4FATHA ISOLATED FORM|5MEDIAL FORM|4KASRA ISOLATED FORM|5MEDIAL FORM",
    "4KASRATAN ISOLATED FORM|4SUPERSCRIPT ALEF ISOLATED FORM|2SHEEN WITH ALEF MAKSURA FINAL FORM",
    "6ISOLATED FORM|4HAH FINAL FORM|5INITIAL FORM|5ISOLATED FORM|5MEDIAL FORM",
    "5WITH MEEM FINAL FORM|7INITIAL FORM|6YEH FINAL FORM|4HEH INITIAL FORM|5MEDIAL FORM",
    "4JEEM FINAL FORM|5INITIAL FORM|5ISOLATED FORM|5MEDIAL FORM|5WITH YEH FINAL FORM",
    "4KHAH FINAL FORM|5INITIAL FORM|5ISOLATED FORM|5MEDIAL FORM|4MEEM FINAL FORM|5INITIAL FORM",
    "5ISOLATED FORM|5MEDIAL FORM|5WITH KHAH FINAL FORM|7INITIAL FORM|6MEEM FINAL FORM",
    "7INITIAL FORM|4REH FINAL FORM|5ISOLATED FORM|4YEH FINAL FORM|5ISOLATED FORM",
    "2SUBHAANAHU WA TAAALAA|2TABAARAKA WA-TAAALAA|2TAH WITH ALEF MAKSURA FINAL FORM|6ISOLATED FORM",
    "4HAH INITIAL FORM|5ISOLATED FORM|4MEEM INITIAL FORM|5ISOLATED FORM|5MEDIAL FORM",
    "5WITH HAH FINAL FORM|7INITIAL FORM|6MEEM INITIAL FORM|6YEH FINAL FORM|4YEH FINAL FORM",
    "5ISOLATED FORM|2TEH WITH ALEF MAKSURA FINAL FORM|6ISOLATED FORM|4HAH INITIAL FORM",
    "5ISOLATED FORM|5WITH JEEM FINAL FORM|7INITIAL FORM|6MEEM INITIAL FORM|4HEH INITIAL FORM",
    "5MEDIAL FORM|4JEEM INITIAL FORM|5ISOLATED FORM|5WITH ALEF MAKSURA FINAL FORM",
    "6MEEM INITIAL FORM|6YEH FINAL FORM|4KHAH INITIAL FORM|5ISOLATED FORM",
    "5WITH ALEF MAKSURA FINAL FORM|6MEEM INITIAL FORM|6YEH FINAL FORM|4MEEM FINAL FORM",
    "5INITIAL FORM|5ISOLATED FORM|5MEDIAL FORM|5WITH ALEF MAKSURA FINAL FORM|6HAH INITIAL FORM",
    "6JEEM INITIAL FORM|6KHAH INITIAL FORM|6YEH FINAL FORM|4NOON FINAL FORM|4REH FINAL FORM",
    "4YEH FINAL FORM|5ISOLATED FORM|4ZAIN FINAL FORM|2THAL WITH SUPERSCRIPT ALEF ISOLATED FORM",
    "2THEH WITH ALEF MAKSURA FINAL FORM|6ISOLATED FORM|4HEH MEDIAL FORM|4JEEM ISOLATED FORM",
    "4MEEM FINAL FORM|5INITIAL FORM|5ISOLATED FORM|5MEDIAL FORM|4NOON FINAL FORM|4REH FINAL FORM",
    "4YEH FINAL FORM|5ISOLATED FORM|4ZAIN FINAL FORM",
    "2UIGHUR KIRGHIZ YEH WITH HAMZA ABOVE WITH ALEF MAKSURA FINAL FORM|9ALEF MAKSURA INITIAL FORM",
    "9ALEF MAKSURA ISOLATED FORM|2WASALLAM ISOLATED FORM|2YEH WITH ALEF MAKSURA FINAL FORM",
    "6ISOLATED FORM|4HAH INITIAL FORM|5ISOLATED FORM|5WITH YEH FINAL FORM",
    "4HAMZA ABOVE WITH AE FINAL FORM|8ISOLATED FORM|7ALEF FINAL FORM|8ISOLATED FORM",
    "8MAKSURA FINAL FORM|9ISOLATED FORM|7E FINAL FORM|8INITIAL FORM|8ISOLATED FORM",
    "7HAH INITIAL FORM|8ISOLATED FORM|7HEH INITIAL FORM|8MEDIAL FORM|7JEEM INITIAL FORM",
    "8ISOLATED FORM|7KHAH INITIAL FORM|7MEEM FINAL FORM|8INITIAL FORM|8ISOLATED FORM|8MEDIAL FORM",
    "7NOON FINAL FORM|7OE FINAL FORM|8ISOLATED FORM|7REH FINAL FORM|7U FINAL FORM|8ISOLATED FORM",
    "7WAW FINAL FORM|8ISOLATED FORM|7YEH FINAL FORM|8ISOLATED FORM|7YU FINAL FORM|8ISOLATED FORM",
    "7ZAIN FINAL FORM|4HEH INITIAL FORM|5MEDIAL FORM|4JEEM INITIAL FORM|5ISOLATED FORM",
    "5WITH YEH FINAL FORM|4KHAH INITIAL FORM|5ISOLATED FORM|4MEEM FINAL FORM|5INITIAL FORM",
    "5ISOLATED FORM|5MEDIAL FORM|5WITH MEEM FINAL FORM|7INITIAL FORM|6YEH FINAL FORM",
    "4NOON FINAL FORM|4REH FINAL FORM|4YEH FINAL FORM|5ISOLATED FORM|4ZAIN FINAL FORM",
    "2ZAH WITH MEEM INITIAL FORM|5ISOLATED FORM|5MEDIAL FORM|1MADDA WAAJIB|1MADDAH ABOVE",
    "1MARK NOON GHUNNA|2SIDEWAYS NOON GHUNNA|1MATHEMATICAL AIN|2ALEF|2BEH|2DAD|2DAL|2DOTLESS BEH",
    "3FEH|3NOON|3QAF|2DOUBLE-STRUCK AIN|3BEH|3DAD|3DAL|3FEH|3GHAIN|3HAH|3JEEM|3KHAH|3LAM|3MEEM",
    "3NOON|3QAF|3REH|3SAD|3SEEN|3SHEEN|3TAH|3TEH|3THAL|3THEH|3WAW|3YEH|3ZAH|3ZAIN|2FEH|2GHAIN|2HAH",
    "2INITIAL AIN|3BEH|3DAD|3FEH|3GHAIN|3HAH|3HEH|3JEEM|3KAF|3KHAH|3LAM|3MEEM|3NOON|3QAF|3SAD",
    "3SEEN|3SHEEN|3TEH|3THEH|3YEH|2JEEM|2KAF|2KHAH|2LAM|2LOOPED AIN|3ALEF|3BEH|3DAD|3DAL|3FEH",
    "3GHAIN|3HAH|3HEH|3JEEM|3KHAH|3LAM|3MEEM|3NOON|3QAF|3REH|3SAD|3SEEN|3SHEEN|3TAH|3TEH|3THAL",
    "3THEH|3WAW|3YEH|3ZAH|3ZAIN|2MEEM|2NOON|2OPERATOR HAH WITH DAL|3MEEM WITH HAH WITH TATWEEL",
    "2QAF|2REH|2SAD|2SEEN|2SHEEN|2STRETCHED AIN|3BEH|3DAD|3DOTLESS BEH|4FEH|3FEH|3GHAIN|3HAH|3HEH",
    "3JEEM|3KAF|3KHAH|3MEEM|3NOON|3QAF|3SAD|3SEEN|3SHEEN|3TAH|3TEH|3THEH|3YEH|3ZAH|2TAH",
    "2TAILED AIN|3DAD|3DOTLESS NOON|4QAF|3GHAIN|3HAH|3JEEM|3KHAH|3LAM|3NOON|3QAF|3SAD|3SEEN|3SHEEN",
    "3YEH|2TEH|2THAL|2THEH|2WAW|2YEH|2ZAH|2ZAIN|1NUMBER MARK ABOVE|2SIGN|1OPEN DAMMATAN|2FATHATAN",
    "2KASRATAN|1PERCENT SIGN|1PIASTRE MARK ABOVE|1PLACE OF SAJDAH|1POETIC VERSE SIGN",
    "1POUND MARK ABOVE|1QUESTION MARK|1RAISED ROUND DOT|1RAY|1REVERSED DAMMA",
    "1RIGHT ARROWHEAD ABOVE|4WITH DOT|3BELOW|1ROUNDED HIGH STOP WITH FILLED CENTRE|1SEMICOLON",
    "1SHADDA|2ISOLATED FORM|2MEDIAL FORM|1SIGN ALAYHE ASSALLAM|2MISRA|2RADI ALLAHOU ANHU",
    "2RAHMATULLAH ALAYHE|2SAFHA|2SALLALLAHOU ALAYHE WASSALLAM|2SAMVAT|2SANAH|2SINDHI AMPERSAND",
    "3POSTPOSITION MEN|2TAKHALLUS|1SMALL DAMMA|2FARSI YEH|2FATHA|2HIGH AIN|3DOTLESS HEAD OF KHAH",
    "3FARSI YEH|3FOOTNOTE MARKER|3JEEM|3LAM ALEF|3LIGATURE ALEF WITH LAM WITH YEH",
    "4QAF WITH LAM WITH ALEF MAKSURA|4SAD WITH LAM WITH ALEF MAKSURA|3MADDA|3MEEM INITIAL FORM",
    "4ISOLATED FORM|3NOON|4WITH KASRA|3QAF|3ROUNDED ZERO|3SAD|3SEEN|3SIGN SAFHA|3TAH|3THREE DOTS",
    "3UPRIGHT RECTANGULAR ZERO|3WAW|3WORD AL-JUZ|4AN-NISF|4AR-RUB|4AS-SAJDA|4ATH-THALATHA|4QIF",
    "4SAH|4SAKTA|4WAQFA|3YEH|4BARREE WITH TWO DOTS BELOW|3ZAH|3ZAIN|2KASRA|2LOW MEEM",
    "3NOON WITH KASRA|3SEEN|3WAW|3WORD IMAALA|4ISHMAAM|4TASHEEL|2WAW|2YEH|1START OF RUB EL HIZB",
    "1SUBSCRIPT ALEF|1SUKUN|2BELOW|2ISOLATED FORM|2MEDIAL FORM|1SUPERSCRIPT ALEF MOKHASSAS",
    "1SYMBOL DOT ABOVE|3BELOW|2DOUBLE VERTICAL BAR BELOW|2FOUR DOTS ABOVE|4BELOW|2RING",
    "2SMALL TAH ABOVE|4BELOW|2THREE DOTS ABOVE|4BELOW|4POINTING DOWNWARDS ABOVE|6BELOW",
    "2TWO DOTS ABOVE|4BELOW|4VERTICALLY ABOVE|5BELOW|2WASLA ABOVE|1TAIL FRAGMENT|1TATWEEL",
    "2WITH FATHATAN ABOVE|3OVERSTRUCK HAMZA|4WAW|3TWO DOTS BELOW|1THOUSANDS SEPARATOR",
    "1TONE LOOP ABOVE|3BELOW|2ONE DOT ABOVE|4BELOW|2TWO DOTS ABOVE|4BELOW",
    "1TRIPLE DOT PUNCTUATION MARK|1TURNED DAMMA BELOW|1VERTICAL TAIL|1VOWEL SIGN DOT BELOW",
    "3INVERTED SMALL V ABOVE|3SMALL V ABOVE|1WAVY HAMZA BELOW|1ZWARAKAY|0ARABIC-INDIC CUBE ROOT",
    "1DIGIT EIGHT|2FIVE|2FOUR|2NINE|2ONE|2SEVEN|2SIX|2THREE|2TWO|2ZERO|1FOURTH ROOT",
    "1PER MILLE SIGN|2TEN THOUSAND SIGN|0AVESTAN ABBREVIATION MARK|1LETTER A|2AA|2AAN|2AAO|2AE",
    "2AEE|2AN|2AO|2BE|2BHE|2CE|2DE|2DHE|2E|2EE|2FE|2GE|2GGE|2GHE|2HE|2HME|2I|2II|2JE|2KE|2LE|2ME",
    "2NE|2NGE|2NGVE|2NGYE|2NNE|2NYE|2O|2OO|2PE|2RE|2SE|2SHE|2SHYE|2SSHE|2TE|2THE|2TTE|2U|2UU|2VE",
    "2XE|2XVE|2XYE|2YE|2YYE|2ZE|2ZHE|0CHORASMIAN LETTER ALEPH|2AYIN|2BETH|2CURLED WAW|2DALETH",
    "2GIMEL|2HE|2HETH|2KAPH|2LAMEDH|2MEM|2NUN|2PE|2RESH|2SAMEKH|2SHIN|2SMALL ALEPH|2TAW|2WAW|2YODH",
    "2ZAYIN|1NUMBER FOUR|2ONE|3HUNDRED|2TEN|2THREE|2TWENTY|2TWO|0ELYMAIC LETTER ALEPH|2AYIN|2BETH",
    "2DALETH|2GIMEL|2HE|2HETH|2KAPH|2LAMEDH|2MEM|2NUN|2PE|2QOPH|2RESH|2SADHE|2SAMEKH|2SHIN|2TAW",
    "2TETH|2WAW|2YODH|2ZAYIN|1LIGATURE ZAYIN-YODH|0EXTENDED ARABIC-INDIC DIGIT EIGHT|3FIVE|3FOUR",
    "3NINE|3ONE|3SEVEN|3SIX|3THREE|3TWO|3ZERO|0HANIFI ROHINGYA DIGIT EIGHT|3FIVE|3FOUR|3NINE|3ONE",
    "3SEVEN|3SIX|3THREE|3TWO|3ZERO|2LETTER A|3BA|3CA|3DA|3DDA|3FA|3GA|3HA|3JA|3KA|3KHA|3KINNA WA",
    "4YA|3LA|3MA|3NA|3NGA|3NYA|3PA|3RA|3RRA|3SA|3SHA|3TA|3TTA|3VA|3WA|3YA|3ZA|2MARK NA KHONNA",
    "3SAKIN|2SIGN HARBAHAY|3TAHALA|3TANA|3TASSI|2VOWEL A|3E|3I|3O|3U|0HATRAN LETTER ALEPH|2AYN",
    "2BETH|2DALETH-RESH|2GIMEL|2HE|2HETH|2KAPH|2LAMEDH|2MEM|2NUN|2PE|2QOPH|2SADHE|2SAMEKH|2SHIN",
    "2TAW|2TETH|2WAW|2YODH|2ZAYN|1NUMBER FIVE|2ONE|3HUNDRED|2TEN|2TWENTY",
    "0HEBREW ACCENT ATNAH HAFUKH|2DARGA|2DEHI|2ETNAHTA|2GERESH|3MUQDAM|2GERSHAYIM|2ILUY|2MAHAPAKH",
    "2MERKHA|3KEFULA|2MUNAH|2OLE|2PASHTA|2PAZER|2QADMA|2QARNEY PARA|2REVIA|2SEGOL|2SHALSHELET",
    "2TELISHA GEDOLA|3QETANA|2TEVIR|2TIPEHA|2YERAH BEN YOMO|2YETIV|2ZAQEF GADOL|3QATAN|2ZARQA",
    "2ZINOR|1LETTER ALEF|3WITH MAPIQ|4PATAH|4QAMATS|2ALTERNATIVE AYIN|3PLUS SIGN|2AYIN|2BET",
    "3WITH DAGESH|4RAFE|2DALET|3WITH DAGESH|2FINAL KAF|4WITH DAGESH|3MEM|3NUN|3PE|4WITH DAGESH",
    "3TSADI|2GIMEL|3WITH DAGESH|2HE|3WITH MAPIQ|2HET|2KAF|3WITH DAGESH|4RAFE|2LAMED|3WITH DAGESH",
    "2MEM|3WITH DAGESH|2NUN|3WITH DAGESH|2PE|3WITH DAGESH|4RAFE|2QOF|3WITH DAGESH|2RESH",
    "3WITH DAGESH|2SAMEKH|3WITH DAGESH|2SHIN|3WITH DAGESH|5AND SHIN DOT|6SIN DOT|4SHIN DOT",
    "4SIN DOT|2TAV|3WITH DAGESH|2TET|3WITH DAGESH|2TSADI|3WITH DAGESH|2VAV|3WITH DAGESH|4HOLAM",
    "2WIDE ALEF|3DALET|3FINAL MEM|3HE|3KAF|3LAMED|3RESH|3TAV|2YOD|3WITH DAGESH|4HIRIQ|2ZAYIN",
    "3WITH DAGESH|1LIGATURE ALEF LAMED|2YIDDISH DOUBLE VAV|4YOD|3VAV YOD|3YOD YOD PATAH",
    "1MARK LOWER DOT|2MASORA CIRCLE|2UPPER DOT|1POINT DAGESH OR MAPIQ|2HATAF PATAH|3QAMATS|3SEGOL",
    "2HIRIQ|2HOLAM|3HASER FOR VAV|2JUDEO-SPANISH VARIKA|2METEG|2PATAH|2QAMATS|3QATAN|2QUBUTS|2RAFE",
    "2SEGOL|2SHEVA|2SHIN DOT|2SIN DOT|2TSERE|1PUNCTUATION GERESH|2GERSHAYIM|2MAQAF|2NUN HAFUKHA",
    "2PASEQ|2SOF PASUQ|1YOD TRIANGLE|0INDIC SIYAQ ALTERNATE LAKH MARK|2FRACTION ONE HALF|4QUARTER",
    "3THREE QUARTERS|2LAKH MARK|2NUMBER ALTERNATE ONE|4TEN THOUSAND|4TWO|3EIGHT|4HUNDRED|4THOUSAND",
    "3EIGHTY|4THOUSAND|3FIFTY|4THOUSAND|3FIVE|4HUNDRED|4THOUSAND|3FORTY|4THOUSAND|3FOUR|4HUNDRED",
    "4THOUSAND|3KAROR|3KARORAN|3LAKH|3LAKHAN|3NINE|4HUNDRED|4THOUSAND|3NINETY|4THOUSAND|3ONE",
    "4HUNDRED|4THOUSAND|3PREFIXED EIGHT|4FIVE|4FOUR|4NINE|4ONE|4SEVEN|4SIX|4THREE|4TWO|3SEVEN",
    "4HUNDRED|4THOUSAND|3SEVENTY|4THOUSAND|3SIX|4HUNDRED|4THOUSAND|3SIXTY|4THOUSAND|3TEN|4THOUSAND",
    "3THIRTY|4THOUSAND|3THREE|4HUNDRED|4THOUSAND|3TWENTY|4THOUSAND|3TWO|4HUNDRED|4THOUSAND",
    "2PLACEHOLDER|2RUPEE MARK|0LARGE ONE DOT OVER TWO DOTS PUNCTUATION",
    "2RING OVER TWO RINGS PUNCTUATION|1TWO DOTS OVER ONE DOT PUNCTUATION",
    "2RINGS OVER ONE RING PUNCTUATION|0MANDAIC AFFRICATION MARK|1GEMINATION MARK|1LETTER AB|2AD",
    "2AG|2AH|2AIN|2AK|2AKSA|2AL|2AM|2AN|2AP|2AQ|2AR|2AS|2ASH|2ASZ|2AT|2ATT|2AZ|2DUSHENNA|2HALQA",
    "2IN|2IT|2KAD|2USHENNA|1PUNCTUATION|1VOCALIZATION MARK|0MANICHAEAN ABBREVIATION MARK ABOVE",
    "3BELOW|1LETTER AAYIN|2ALEPH|2AYIN|2BETH|2BHETH|2DALETH|2DHAMEDH|2FE|2GHIMEL|2GIMEL|2HE|2HETH",
    "2JAYIN|2JHAYIN|2KAPH|2KHAPH|2LAMEDH|2MEM|2NUN|2PE|2QHOPH|2QOPH|2RESH|2SADHE|2SAMEKH|2SHIN",
    "2SSHIN|2TAW|2TETH|2THAMEDH|2WAW|2XAPH|2XOPH|2YODH|2ZAYIN|2ZHAYIN|1NUMBER FIVE|2ONE|3HUNDRED",
    "2TEN|2TWENTY|1PUNCTUATION DOT|3WITHIN DOT|2DOUBLE DOT WITHIN DOT|2FLEURON|2LINE FILLER|2STAR",
    "2TWO DOTS|1SIGN UD|0NABATAEAN CRUCIFORM NUMBER FOUR|1LETTER ALEPH|2AYIN|2BETH|2DALETH",
    "2FINAL ALEPH|3BETH|3HE|3KAPH|3LAMEDH|3MEM|3NUN|3SHIN|3YODH|2GIMEL|2HE|2HETH|2KAPH|2LAMEDH",
    "2MEM|2NUN|2PE|2QOPH|2RESH|2SADHE|2SAMEKH|2SHIN|2TAW|2TETH|2WAW|2YODH|2ZAYIN|1NUMBER FIVE",
    "2FOUR|2ONE|3HUNDRED|2TEN|2THREE|2TWENTY|2TWO|0OLD SOGDIAN FRACTION ONE HALF|2LETTER ALEPH",
    "3ALTERNATE AYIN|3AYIN|3BETH|3FINAL ALEPH|4BETH|4HE|4NUN|5WITH VERTICAL TAIL|4SADHE",
    "5WITH VERTICAL TAIL|4TAW|5WITH VERTICAL TAIL|3GIMEL|3HE|3HETH|3KAPH|3LAMEDH|3MEM|3NUN|3PE",
    "3RESH-AYIN-DALETH|3SADHE|3SAMEKH|3SHIN|3TAW|3WAW|3YODH|3ZAYIN|2LIGATURE AYIN-DALETH",
    "2NUMBER FIVE|3FOUR|3ONE|4HUNDRED|3TEN|3THIRTY|3THREE|3TWENTY|3TWO|1UYGHUR COMBINING DOT ABOVE",
    "4BELOW|3TWO DOTS ABOVE|5BELOW|2LETTER ALEPH|3BETH|3FINAL HETH|3GIMEL-HETH|3KAPH|3LAMEDH|3LESH",
    "3MEM|3NUN|3PE|3RESH|3SADHE|3SAMEKH|3SHIN|3TAW|3WAW|3YODH|3ZAYIN|2PUNCTUATION BAR|3FOUR DOTS",
    "3TWO BARS|4DOTS|0ORNATE LEFT PARENTHESIS|1RIGHT PARENTHESIS",
    "0OTTOMAN SIYAQ ALTERNATE NUMBER EIGHT|4FIVE|4FOUR|5HUNDRED|4NINE|4SEVEN|4SIX|5HUNDRED|4TEN",
    "5THOUSAND|4THREE|4TWO|5THOUSAND|2FRACTION ONE HALF|4SIXTH|2MARRATAN|2NUMBER EIGHT|4HUNDRED",
    "4THOUSAND|3EIGHTY|4THOUSAND|3FIFTY|4THOUSAND|3FIVE|4HUNDRED|4THOUSAND|3FORTY|4THOUSAND|3FOUR",
    "4HUNDRED|4THOUSAND|3NINE|4HUNDRED|4THOUSAND|3NINETY|4THOUSAND|3ONE|4HUNDRED|4THOUSAND|3SEVEN",
    "4HUNDRED|4THOUSAND|3SEVENTY|4THOUSAND|3SIX|4HUNDRED|4THOUSAND|3SIXTY|4THOUSAND|3TEN|4THOUSAND",
    "3THIRTY|4THOUSAND|3THREE|4HUNDRED|4THOUSAND|3TWENTY|4THOUSAND|3TWO|4HUNDRED|4THOUSAND",
    "0PALMYRENE LEFT-POINTING FLEURON|1LETTER ALEPH|2AYIN|2BETH|2DALETH|2FINAL NUN|2GIMEL|2HE",
    "2HETH|2KAPH|2LAMEDH|2MEM|2NUN|2PE|2QOPH|2RESH|2SADHE|2SAMEKH|2SHIN|2TAW|2TETH|2WAW|2YODH",
    "2ZAYIN|1NUMBER FIVE|2FOUR|2ONE|2TEN|2THREE|2TWENTY|2TWO|1RIGHT-POINTING FLEURON",
    "0PSALTER PAHLAVI FOUR DOTS WITH CROSS|5DOT|2LETTER SHIN|3TAW|2NUMBER FOUR|3ONE|4HUNDRED|3TEN",
    "3THREE|3TWENTY|3TWO|2SECTION MARK|2TURNED SECTION MARK|0RIAL SIGN|0RUMI DIGIT EIGHT|2FIVE",
    "2FOUR|2NINE|2ONE|2SEVEN|2SIX|2THREE|2TWO|1FRACTION ONE HALF|3QUARTER|3THIRD|2TWO THIRDS",
    "1NUMBER EIGHT HUNDRED|2EIGHTY|2FIFTY|2FIVE HUNDRED|2FORTY|2FOUR HUNDRED|2NINE HUNDRED|2NINETY",
    "2ONE HUNDRED|2SEVEN HUNDRED|2SEVENTY|2SIX HUNDRED|2SIXTY|2TEN|2THIRTY|2THREE HUNDRED|2TWENTY",
    "2TWO HUNDRED|0SAMARITAN ABBREVIATION MARK|1LETTER ALAF|2BAA|2BIT|2DALAT|2FI|2GAMAN|2IN|2IT",
    "2IY|2KAAF|2LABAT|2MIM|2NUN|2QUF|2RISH|2SHAN|2SINGAAT|2TAAF|2TIT|2TSAADIY|2YUT|2ZEN",
    "1MARK DAGESH|2EPENTHETIC YUT|2IN|2IN-ALAF|2NEQUDAA|2OCCLUSION|1MODIFIER LETTER EPENTHETIC YUT",
    "3I|3SHORT A|1PUNCTUATION AFSAAQ|2ANGED|2ANNAAU|2ARKAANU|2ATMAAU|2BAU|2MELODIC QITSA|2NEQUDAA",
    "2QITSA|2SHIYYAALAA|2SOF MASHFAAT|2TURU|2ZAEF|2ZIQAA|1VOWEL SIGN A|3AA|3E|3I|3LONG A|4AA|4E|4I",
    "4U|3O|3OVERLONG A|4AA|3SHORT A|3SUKUN|3U|0SMALL TWO DOTS OVER ONE DOT PUNCTUATION",
    "0SOGDIAN COMBINING CURVE ABOVE|3BELOW|2DOT ABOVE|3BELOW|2HOOK ABOVE|3BELOW|2LONG HOOK BELOW",
    "2RESH BELOW|2STROKE BELOW|2TWO DOTS ABOVE|4BELOW|1INDEPENDENT SHIN|1LETTER ALEPH|2AYIN|2BETH",
    "2FETH|2GIMEL|2HE|2HETH|2KAPH|2LAMEDH|2LESH|2MEM|2NUN|2PE|2RESH-AYIN|2SADHE|2SAMEKH|2SHIN|2TAW",
    "2WAW|2YODH|2ZAYIN|1NUMBER ONE|3HUNDRED|2TEN|2TWENTY|1PUNCTUATION CIRCLE WITH DOT",
    "2HALF CIRCLE WITH DOT|2TWO CIRCLES WITH DOTS|3VERTICAL BARS|5WITH DOTS",
    "0SYRIAC ABBREVIATION MARK|1BARREKH|1COLON SKEWED LEFT|3RIGHT|1CONTRACTION",
    "1DOTTED ZLAMA ANGULAR|3HORIZONTAL|1END OF PARAGRAPH|1ESASA ABOVE|2BELOW|1FEMININE DOT",
    "1HARKLEAN ASTERISCUS|2METOBELUS|2OBELUS|1HBASA ABOVE|2BELOW|1HBASA-ESASA DOTTED",
    "1HORIZONTAL COLON|1LETTER ALAPH|2BETH|2DALATH|2DOTLESS DALATH RISH|2E|2FINAL SEMKATH|2GAMAL",
    "3GARSHUNI|2HE|2HETH|2KAPH|2LAMADH|2MALAYALAM BHA|3JA|3LLA|3LLLA|3NGA|3NNA|3NNNA|3NYA|3RA|3SSA",
    "3TTA|2MIM|2NUN|2PE|2PERSIAN BHETH|3DHALATH|3GHAMAL|2QAPH|2REVERSED PE|2RISH|2SADHE|2SEMKATH",
    "2SHIN|2SOGDIAN FE|3KHAPH|3ZHAIN|2SUPERSCRIPT ALAPH|2TAW|2TETH|3GARSHUNI|2WAW|2YUDH|3HE|2ZAIN",
    "1MUSIC|1OBLIQUE LINE ABOVE|3BELOW|1PTHAHA ABOVE|2BELOW|2DOTTED|1QUSHSHAYA|1RBASA ABOVE|2BELOW",
    "1RUKKAKHA|1RWAHA|1SUBLINEAR COLON|3SKEWED LEFT|4RIGHT|2FULL STOP|1SUPRALINEAR COLON",
    "3SKEWED LEFT|2FULL STOP|1THREE DOTS ABOVE|3BELOW|1TWO VERTICAL DOTS ABOVE|4BELOW",
    "1ZQAPHA ABOVE|2BELOW|2DOTTED|0THAANA AABAAFILI|1ABAFILI|1EBEFILI|1EEBEEFILI|1EYBEYFILI",
    "1IBIFILI|1LETTER AINU|2ALIFU|2BAA|2CHAVIYANI|2DAADHU|2DAVIYANI|2DHAALU|2FAAFU|2GAAFU|2GHAINU",
    "2GNAVIYANI|2HAA|2HHAA|2JAVIYANI|2KAAFU|2KHAA|2LAAMU|2LHAVIYANI|2MEEMU|2NAA|2NOONU|2PAVIYANI",
    "2QAAFU|2RAA|2SAADHU|2SEENU|2SHAVIYANI|2SHEENU|2TAVIYANI|2THAA|2THAALU|2TO|2TTAA|2VAAVU|2WAAVU",
    "2YAA|2ZAA|2ZAVIYANI|2ZO|1OABOAFILI|1OBOFILI|1OOBOOFILI|1SUKUN|1UBUFILI",
    "0TINY TWO DOTS OVER ONE DOT PUNCTUATION|0YEZIDI COMBINING HAMZA MARK|2MADDA MARK",
    "1HYPHENATION MARK|1LETTER BE|2CHHIM|2CHIM|2CIM|2DAD|2DAL|2ELIF|2ET|2EW|2EYN|2FA|2GAF|2HAY",
    "2HHA|2JA|2KAF|2KHAF|2LAM|3WITH DOT ABOVE|2MIM|2NUN|2OW|2PE|2PHE|2QAF|2RA|2RHA|2SAD|2SE|2SHIN",
    "2SIN|2TA|2THE|2UM|2VA|3ALTERNATE FORM|2WAW|2XA|2XHEYN|2YOT|3WITH CIRCUMFLEX ABOVE|2ZA|2ZAL",
    "2ZE"]

end Casebook.Text.NameTable
