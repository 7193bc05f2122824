/-
This file holds how characters of identifiers are decomposed and composed, from
the Unicode Character Database, version 14.0: the full compatibility
decompositions of the characters that identifiers may hold, the canonical
compositions of two characters, and the combining classes. Syllables of Hangul
are not in the tables, since they are computed.
-/

namespace StateContainer.Text

private def decompositionLinesA : List String := [
  "ªa µμ ºo ÀA\u0300 ÁA\u0301 ÂA\u0302 ÃA\u0303 ÄA\u0308 ÅA\u030a ÇC\u0327 ÈE\u0300 ÉE\u0301",
  "ÊE\u0302 ËE\u0308 ÌI\u0300 ÍI\u0301 ÎI\u0302 ÏI\u0308 ÑN\u0303 ÒO\u0300 ÓO\u0301 ÔO\u0302",
  "ÕO\u0303 ÖO\u0308 ÙU\u0300 ÚU\u0301 ÛU\u0302 ÜU\u0308 ÝY\u0301 àa\u0300 áa\u0301 âa\u0302",
  "ãa\u0303 äa\u0308 åa\u030a çc\u0327 èe\u0300 ée\u0301 êe\u0302 ëe\u0308 ìi\u0300 íi\u0301",
  "îi\u0302 ïi\u0308 ñn\u0303 òo\u0300 óo\u0301 ôo\u0302 õo\u0303 öo\u0308 ùu\u0300 úu\u0301",
  "ûu\u0302 üu\u0308 ýy\u0301 ÿy\u0308 ĀA\u0304 āa\u0304 ĂA\u0306 ăa\u0306 ĄA\u0328 ąa\u0328",
  "ĆC\u0301 ćc\u0301 ĈC\u0302 ĉc\u0302 ĊC\u0307 ċc\u0307 ČC\u030c čc\u030c ĎD\u030c ďd\u030c",
  "ĒE\u0304 ēe\u0304 ĔE\u0306 ĕe\u0306 ĖE\u0307 ėe\u0307 ĘE\u0328 ęe\u0328 ĚE\u030c ěe\u030c",
  "ĜG\u0302 ĝg\u0302 ĞG\u0306 ğg\u0306 ĠG\u0307 ġg\u0307 ĢG\u0327 ģg\u0327 ĤH\u0302 ĥh\u0302",
  "ĨI\u0303 ĩi\u0303 ĪI\u0304 īi\u0304 ĬI\u0306 ĭi\u0306 ĮI\u0328 įi\u0328 İI\u0307 ĲIJ ĳij",
  "ĴJ\u0302 ĵj\u0302 ĶK\u0327 ķk\u0327 ĹL\u0301 ĺl\u0301 ĻL\u0327 ļl\u0327 ĽL\u030c ľl\u030c",
  "ĿL· ŀl· ŃN\u0301 ńn\u0301 ŅN\u0327 ņn\u0327 ŇN\u030c ňn\u030c ŉʼn ŌO\u0304 ōo\u0304",
  "ŎO\u0306 ŏo\u0306 ŐO\u030b őo\u030b ŔR\u0301 ŕr\u0301 ŖR\u0327 ŗr\u0327 ŘR\u030c řr\u030c",
  "ŚS\u0301 śs\u0301 ŜS\u0302 ŝs\u0302 ŞS\u0327 şs\u0327 ŠS\u030c šs\u030c ŢT\u0327 ţt\u0327",
  "ŤT\u030c ťt\u030c ŨU\u0303 ũu\u0303 ŪU\u0304 ūu\u0304 ŬU\u0306 ŭu\u0306 ŮU\u030a ůu\u030a",
  "ŰU\u030b űu\u030b ŲU\u0328 ųu\u0328 ŴW\u0302 ŵw\u0302 ŶY\u0302 ŷy\u0302 ŸY\u0308 ŹZ\u0301",
  "źz\u0301 ŻZ\u0307 żz\u0307 ŽZ\u030c žz\u030c ſs ƠO\u031b ơo\u031b ƯU\u031b ưu\u031b",
  "ǄDZ\u030c ǅDz\u030c ǆdz\u030c ǇLJ ǈLj ǉlj ǊNJ ǋNj ǌnj ǍA\u030c ǎa\u030c ǏI\u030c ǐi\u030c",
  "ǑO\u030c ǒo\u030c ǓU\u030c ǔu\u030c ǕU\u0308\u0304 ǖu\u0308\u0304 ǗU\u0308\u0301",
  "ǘu\u0308\u0301 ǙU\u0308\u030c ǚu\u0308\u030c ǛU\u0308\u0300 ǜu\u0308\u0300 ǞA\u0308\u0304",
  "ǟa\u0308\u0304 ǠA\u0307\u0304 ǡa\u0307\u0304 ǢÆ\u0304 ǣæ\u0304 ǦG\u030c ǧg\u030c ǨK\u030c",
  "ǩk\u030c ǪO\u0328 ǫo\u0328 ǬO\u0328\u0304 ǭo\u0328\u0304 ǮƷ\u030c ǯʒ\u030c ǰj\u030c ǱDZ ǲDz",
  "ǳdz ǴG\u0301 ǵg\u0301 ǸN\u0300 ǹn\u0300 ǺA\u030a\u0301 ǻa\u030a\u0301 ǼÆ\u0301 ǽæ\u0301",
  "ǾØ\u0301 ǿø\u0301 ȀA\u030f ȁa\u030f ȂA\u0311 ȃa\u0311 ȄE\u030f ȅe\u030f ȆE\u0311 ȇe\u0311",
  "ȈI\u030f ȉi\u030f ȊI\u0311 ȋi\u0311 ȌO\u030f ȍo\u030f ȎO\u0311 ȏo\u0311 ȐR\u030f ȑr\u030f",
  "ȒR\u0311 ȓr\u0311 ȔU\u030f ȕu\u030f ȖU\u0311 ȗu\u0311 ȘS\u0326 șs\u0326 ȚT\u0326 țt\u0326",
  "ȞH\u030c ȟh\u030c ȦA\u0307 ȧa\u0307 ȨE\u0327 ȩe\u0327 ȪO\u0308\u0304 ȫo\u0308\u0304",
  "ȬO\u0303\u0304 ȭo\u0303\u0304 ȮO\u0307 ȯo\u0307 ȰO\u0307\u0304 ȱo\u0307\u0304 ȲY\u0304",
  "ȳy\u0304 ʰh ʱɦ ʲj ʳr ʴɹ ʵɻ ʶʁ ʷw ʸy ˠɣ ˡl ˢs ˣx ˤʕ \u0340\u0300 \u0341\u0301 \u0343\u0313",
  "\u0344\u0308\u0301 ʹʹ ΆΑ\u0301 ·· ΈΕ\u0301 ΉΗ\u0301 ΊΙ\u0301 ΌΟ\u0301 ΎΥ\u0301 ΏΩ\u0301",
  "ΐι\u0308\u0301 ΪΙ\u0308 ΫΥ\u0308 άα\u0301 έε\u0301 ήη\u0301 ίι\u0301 ΰυ\u0308\u0301",
  "ϊι\u0308 ϋυ\u0308 όο\u0301 ύυ\u0301 ώω\u0301 ϐβ ϑθ ϒΥ ϓΥ\u0301 ϔΥ\u0308 ϕφ ϖπ ϰκ ϱρ ϲς ϴΘ",
  "ϵε ϹΣ ЀЕ\u0300 ЁЕ\u0308 ЃГ\u0301 ЇІ\u0308 ЌК\u0301 ЍИ\u0300 ЎУ\u0306 ЙИ\u0306 йи\u0306",
  "ѐе\u0300 ёе\u0308 ѓг\u0301 їі\u0308 ќк\u0301 ѝи\u0300 ўу\u0306 ѶѴ\u030f ѷѵ\u030f ӁЖ\u0306",
  "ӂж\u0306 ӐА\u0306 ӑа\u0306 ӒА\u0308 ӓа\u0308 ӖЕ\u0306 ӗе\u0306 ӚӘ\u0308 ӛә\u0308 ӜЖ\u0308",
  "ӝж\u0308 ӞЗ\u0308 ӟз\u0308 ӢИ\u0304 ӣи\u0304 ӤИ\u0308 ӥи\u0308 ӦО\u0308 ӧо\u0308 ӪӨ\u0308",
  "ӫө\u0308 ӬЭ\u0308 ӭэ\u0308 ӮУ\u0304 ӯу\u0304 ӰУ\u0308 ӱу\u0308 ӲУ\u030b ӳу\u030b ӴЧ\u0308",
  "ӵч\u0308 ӸЫ\u0308 ӹы\u0308 ևեւ \u0622\u0627\u0653 \u0623\u0627\u0654 \u0624\u0648\u0654",
  "\u0625\u0627\u0655 \u0626\u064a\u0654 \u0675\u0627\u0674 \u0676\u0648\u0674",
  "\u0677\u06c7\u0674 \u0678\u064a\u0674 \u06c0\u06d5\u0654 \u06c2\u06c1\u0654",
  "\u06d3\u06d2\u0654 ऩन\u093c ऱर\u093c ऴळ\u093c क़क\u093c ख़ख\u093c ग़ग\u093c ज़ज\u093c ड़ड\u093c",
  "ढ़ढ\u093c फ़फ\u093c य़य\u093c \u09cb\u09c7\u09be \u09cc\u09c7\u09d7 ড়ড\u09bc ঢ়ঢ\u09bc য়য\u09bc",
  "ਲ਼ਲ\u0a3c ਸ਼ਸ\u0a3c ਖ਼ਖ\u0a3c ਗ਼ਗ\u0a3c ਜ਼ਜ\u0a3c ਫ਼ਫ\u0a3c \u0b48\u0b47\u0b56 \u0b4b\u0b47\u0b3e",
  "\u0b4c\u0b47\u0b57 ଡ଼ଡ\u0b3c ଢ଼ଢ\u0b3c ஔஒ\u0bd7 \u0bca\u0bc6\u0bbe \u0bcb\u0bc7\u0bbe",
  "\u0bcc\u0bc6\u0bd7 \u0c48\u0c46\u0c56 \u0cc0\u0cbf\u0cd5 \u0cc7\u0cc6\u0cd5",
  "\u0cc8\u0cc6\u0cd6 \u0cca\u0cc6\u0cc2 \u0ccb\u0cc6\u0cc2\u0cd5 \u0d4a\u0d46\u0d3e",
  "\u0d4b\u0d47\u0d3e \u0d4c\u0d46\u0d57 \u0dda\u0dd9\u0dca \u0ddc\u0dd9\u0dcf",
  "\u0ddd\u0dd9\u0dcf\u0dca \u0dde\u0dd9\u0ddf ำ\u0e4dา ຳ\u0ecdາ ໜຫນ ໝຫມ གྷག\u0fb7 ཌྷཌ\u0fb7",
  "དྷད\u0fb7 བྷབ\u0fb7 ཛྷཛ\u0fb7 ཀྵཀ\u0fb5 \u0f73\u0f71\u0f72 \u0f75\u0f71\u0f74",
  "\u0f76\u0fb2\u0f80 \u0f77\u0fb2\u0f71\u0f80 \u0f78\u0fb3\u0f80 \u0f79\u0fb3\u0f71\u0f80",
  "\u0f81\u0f71\u0f80 \u0f93\u0f92\u0fb7 \u0f9d\u0f9c\u0fb7 \u0fa2\u0fa1\u0fb7",
  "\u0fa7\u0fa6\u0fb7 \u0fac\u0fab\u0fb7 \u0fb9\u0f90\u0fb5 ဦဥ\u102e ჼნ ᬆᬅ\u1b35 ᬈᬇ\u1b35",
  "ᬊᬉ\u1b35 ᬌᬋ\u1b35 ᬎᬍ\u1b35 ᬒᬑ\u1b35 \u1b3b\u1b3a\u1b35 \u1b3d\u1b3c\u1b35",
  "\u1b40\u1b3e\u1b35 \u1b41\u1b3f\u1b35 \u1b43\u1b42\u1b35 ᴬA ᴭÆ ᴮB ᴰD ᴱE ᴲƎ ᴳG ᴴH ᴵI ᴶJ ᴷK",
  "ᴸL ᴹM ᴺN ᴼO ᴽȢ ᴾP ᴿR ᵀT ᵁU ᵂW ᵃa ᵄɐ ᵅɑ ᵆᴂ ᵇb ᵈd ᵉe ᵊə ᵋɛ ᵌɜ ᵍg ᵏk ᵐm ᵑŋ ᵒo ᵓɔ ᵔᴖ ᵕᴗ ᵖp ᵗt",
  "ᵘu ᵙᴝ ᵚɯ ᵛv ᵜᴥ ᵝβ ᵞγ ᵟδ ᵠφ ᵡχ ᵢi ᵣr ᵤu ᵥv ᵦβ ᵧγ ᵨρ ᵩφ ᵪχ ᵸн ᶛɒ ᶜc ᶝɕ ᶞð ᶟɜ ᶠf ᶡɟ ᶢɡ ᶣɥ ᶤɨ",
  "ᶥɩ ᶦɪ ᶧᵻ ᶨʝ ᶩɭ ᶪᶅ ᶫʟ ᶬɱ ᶭɰ ᶮɲ ᶯɳ ᶰɴ ᶱɵ ᶲɸ ᶳʂ ᶴʃ ᶵƫ ᶶʉ ᶷʊ ᶸᴜ ᶹʋ ᶺʌ ᶻz ᶼʐ ᶽʑ ᶾʒ ᶿθ ḀA\u0325",
  "ḁa\u0325 ḂB\u0307 ḃb\u0307 ḄB\u0323 ḅb\u0323 ḆB\u0331 ḇb\u0331 ḈC\u0327\u0301",
  "ḉc\u0327\u0301 ḊD\u0307 ḋd\u0307 ḌD\u0323 ḍd\u0323 ḎD\u0331 ḏd\u0331 ḐD\u0327 ḑd\u0327",
  "ḒD\u032d ḓd\u032d ḔE\u0304\u0300 ḕe\u0304\u0300 ḖE\u0304\u0301 ḗe\u0304\u0301 ḘE\u032d",
  "ḙe\u032d ḚE\u0330 ḛe\u0330 ḜE\u0327\u0306 ḝe\u0327\u0306 ḞF\u0307 ḟf\u0307 ḠG\u0304",
  "ḡg\u0304 ḢH\u0307 ḣh\u0307 ḤH\u0323 ḥh\u0323 ḦH\u0308 ḧh\u0308 ḨH\u0327 ḩh\u0327 ḪH\u032e",
  "ḫh\u032e ḬI\u0330 ḭi\u0330 ḮI\u0308\u0301 ḯi\u0308\u0301 ḰK\u0301 ḱk\u0301 ḲK\u0323",
  "ḳk\u0323 ḴK\u0331 ḵk\u0331 ḶL\u0323 ḷl\u0323 ḸL\u0323\u0304 ḹl\u0323\u0304 ḺL\u0331",
  "ḻl\u0331 ḼL\u032d ḽl\u032d ḾM\u0301 ḿm\u0301 ṀM\u0307 ṁm\u0307 ṂM\u0323 ṃm\u0323 ṄN\u0307",
  "ṅn\u0307 ṆN\u0323 ṇn\u0323 ṈN\u0331 ṉn\u0331 ṊN\u032d ṋn\u032d ṌO\u0303\u0301",
  "ṍo\u0303\u0301 ṎO\u0303\u0308 ṏo\u0303\u0308 ṐO\u0304\u0300 ṑo\u0304\u0300 ṒO\u0304\u0301",
  "ṓo\u0304\u0301 ṔP\u0301 ṕp\u0301 ṖP\u0307 ṗp\u0307 ṘR\u0307 ṙr\u0307 ṚR\u0323 ṛr\u0323",
  "ṜR\u0323\u0304 ṝr\u0323\u0304 ṞR\u0331 ṟr\u0331 ṠS\u0307 ṡs\u0307 ṢS\u0323 ṣs\u0323",
  "ṤS\u0301\u0307 ṥs\u0301\u0307 ṦS\u030c\u0307 ṧs\u030c\u0307 ṨS\u0323\u0307 ṩs\u0323\u0307",
  "ṪT\u0307 ṫt\u0307 ṬT\u0323 ṭt\u0323 ṮT\u0331 ṯt\u0331 ṰT\u032d ṱt\u032d ṲU\u0324 ṳu\u0324",
  "ṴU\u0330 ṵu\u0330 ṶU\u032d ṷu\u032d ṸU\u0303\u0301 ṹu\u0303\u0301 ṺU\u0304\u0308",
  "ṻu\u0304\u0308 ṼV\u0303 ṽv\u0303 ṾV\u0323 ṿv\u0323 ẀW\u0300 ẁw\u0300 ẂW\u0301 ẃw\u0301",
  "ẄW\u0308 ẅw\u0308 ẆW\u0307 ẇw\u0307 ẈW\u0323 ẉw\u0323 ẊX\u0307 ẋx\u0307 ẌX\u0308 ẍx\u0308",
  "ẎY\u0307 ẏy\u0307 ẐZ\u0302 ẑz\u0302 ẒZ\u0323 ẓz\u0323 ẔZ\u0331 ẕz\u0331 ẖh\u0331 ẗt\u0308",
  "ẘw\u030a ẙy\u030a ẚaʾ ẛs\u0307 ẠA\u0323 ạa\u0323 ẢA\u0309 ảa\u0309 ẤA\u0302\u0301",
  "ấa\u0302\u0301 ẦA\u0302\u0300 ầa\u0302\u0300 ẨA\u0302\u0309 ẩa\u0302\u0309 ẪA\u0302\u0303",
  "ẫa\u0302\u0303 ẬA\u0323\u0302 ậa\u0323\u0302 ẮA\u0306\u0301 ắa\u0306\u0301 ẰA\u0306\u0300",
  "ằa\u0306\u0300 ẲA\u0306\u0309 ẳa\u0306\u0309 ẴA\u0306\u0303 ẵa\u0306\u0303 ẶA\u0323\u0306",
  "ặa\u0323\u0306 ẸE\u0323 ẹe\u0323 ẺE\u0309 ẻe\u0309 ẼE\u0303 ẽe\u0303 ẾE\u0302\u0301",
  "ếe\u0302\u0301 ỀE\u0302\u0300 ềe\u0302\u0300 ỂE\u0302\u0309 ểe\u0302\u0309 ỄE\u0302\u0303",
  "ễe\u0302\u0303 ỆE\u0323\u0302 ệe\u0323\u0302 ỈI\u0309 ỉi\u0309 ỊI\u0323 ịi\u0323 ỌO\u0323",
  "ọo\u0323 ỎO\u0309 ỏo\u0309 ỐO\u0302\u0301 ốo\u0302\u0301 ỒO\u0302\u0300 ồo\u0302\u0300",
  "ỔO\u0302\u0309 ổo\u0302\u0309 ỖO\u0302\u0303 ỗo\u0302\u0303 ỘO\u0323\u0302 ộo\u0323\u0302",
  "ỚO\u031b\u0301 ớo\u031b\u0301 ỜO\u031b\u0300 ờo\u031b\u0300 ỞO\u031b\u0309 ởo\u031b\u0309",
  "ỠO\u031b\u0303 ỡo\u031b\u0303 ỢO\u031b\u0323 ợo\u031b\u0323 ỤU\u0323 ụu\u0323 ỦU\u0309",
  "ủu\u0309 ỨU\u031b\u0301 ứu\u031b\u0301 ỪU\u031b\u0300 ừu\u031b\u0300 ỬU\u031b\u0309",
  "ửu\u031b\u0309 ỮU\u031b\u0303 ữu\u031b\u0303 ỰU\u031b\u0323 ựu\u031b\u0323 ỲY\u0300",
  "ỳy\u0300 ỴY\u0323 ỵy\u0323 ỶY\u0309 ỷy\u0309 ỸY\u0303 ỹy\u0303 ἀα\u0313 ἁα\u0314",
  "ἂα\u0313\u0300 ἃα\u0314\u0300 ἄα\u0313\u0301 ἅα\u0314\u0301 ἆα\u0313\u0342 ἇα\u0314\u0342",
  "ἈΑ\u0313 ἉΑ\u0314 ἊΑ\u0313\u0300 ἋΑ\u0314\u0300 ἌΑ\u0313\u0301 ἍΑ\u0314\u0301",
  "ἎΑ\u0313\u0342 ἏΑ\u0314\u0342 ἐε\u0313 ἑε\u0314 ἒε\u0313\u0300 ἓε\u0314\u0300",
  "ἔε\u0313\u0301 ἕε\u0314\u0301 ἘΕ\u0313 ἙΕ\u0314 ἚΕ\u0313\u0300 ἛΕ\u0314\u0300",
  "ἜΕ\u0313\u0301 ἝΕ\u0314\u0301 ἠη\u0313 ἡη\u0314 ἢη\u0313\u0300 ἣη\u0314\u0300",
  "ἤη\u0313\u0301 ἥη\u0314\u0301 ἦη\u0313\u0342 ἧη\u0314\u0342 ἨΗ\u0313 ἩΗ\u0314",
  "ἪΗ\u0313\u0300 ἫΗ\u0314\u0300 ἬΗ\u0313\u0301 ἭΗ\u0314\u0301 ἮΗ\u0313\u0342 ἯΗ\u0314\u0342",
  "ἰι\u0313 ἱι\u0314 ἲι\u0313\u0300 ἳι\u0314\u0300 ἴι\u0313\u0301 ἵι\u0314\u0301",
  "ἶι\u0313\u0342 ἷι\u0314\u0342 ἸΙ\u0313 ἹΙ\u0314 ἺΙ\u0313\u0300 ἻΙ\u0314\u0300",
  "ἼΙ\u0313\u0301 ἽΙ\u0314\u0301 ἾΙ\u0313\u0342 ἿΙ\u0314\u0342 ὀο\u0313 ὁο\u0314",
  "ὂο\u0313\u0300 ὃο\u0314\u0300 ὄο\u0313\u0301 ὅο\u0314\u0301 ὈΟ\u0313 ὉΟ\u0314",
  "ὊΟ\u0313\u0300 ὋΟ\u0314\u0300 ὌΟ\u0313\u0301 ὍΟ\u0314\u0301 ὐυ\u0313 ὑυ\u0314",
  "ὒυ\u0313\u0300 ὓυ\u0314\u0300 ὔυ\u0313\u0301 ὕυ\u0314\u0301 ὖυ\u0313\u0342 ὗυ\u0314\u0342",
  "ὙΥ\u0314 ὛΥ\u0314\u0300 ὝΥ\u0314\u0301 ὟΥ\u0314\u0342 ὠω\u0313 ὡω\u0314 ὢω\u0313\u0300",
  "ὣω\u0314\u0300 ὤω\u0313\u0301 ὥω\u0314\u0301 ὦω\u0313\u0342 ὧω\u0314\u0342 ὨΩ\u0313",
  "ὩΩ\u0314 ὪΩ\u0313\u0300 ὫΩ\u0314\u0300 ὬΩ\u0313\u0301 ὭΩ\u0314\u0301 ὮΩ\u0313\u0342",
  "ὯΩ\u0314\u0342 ὰα\u0300 άα\u0301 ὲε\u0300 έε\u0301 ὴη\u0300 ήη\u0301 ὶι\u0300 ίι\u0301",
  "ὸο\u0300 όο\u0301 ὺυ\u0300 ύυ\u0301 ὼω\u0300 ώω\u0301 ᾀα\u0313\u0345 ᾁα\u0314\u0345",
  "ᾂα\u0313\u0300\u0345 ᾃα\u0314\u0300\u0345 ᾄα\u0313\u0301\u0345 ᾅα\u0314\u0301\u0345",
  "ᾆα\u0313\u0342\u0345 ᾇα\u0314\u0342\u0345 ᾈΑ\u0313\u0345 ᾉΑ\u0314\u0345",
  "ᾊΑ\u0313\u0300\u0345 ᾋΑ\u0314\u0300\u0345 ᾌΑ\u0313\u0301\u0345 ᾍΑ\u0314\u0301\u0345",
  "ᾎΑ\u0313\u0342\u0345 ᾏΑ\u0314\u0342\u0345 ᾐη\u0313\u0345 ᾑη\u0314\u0345",
  "ᾒη\u0313\u0300\u0345 ᾓη\u0314\u0300\u0345 ᾔη\u0313\u0301\u0345 ᾕη\u0314\u0301\u0345",
  "ᾖη\u0313\u0342\u0345 ᾗη\u0314\u0342\u0345 ᾘΗ\u0313\u0345 ᾙΗ\u0314\u0345",
  "ᾚΗ\u0313\u0300\u0345 ᾛΗ\u0314\u0300\u0345 ᾜΗ\u0313\u0301\u0345 ᾝΗ\u0314\u0301\u0345",
  "ᾞΗ\u0313\u0342\u0345 ᾟΗ\u0314\u0342\u0345 ᾠω\u0313\u0345 ᾡω\u0314\u0345",
  "ᾢω\u0313\u0300\u0345 ᾣω\u0314\u0300\u0345 ᾤω\u0313\u0301\u0345 ᾥω\u0314\u0301\u0345",
  "ᾦω\u0313\u0342\u0345 ᾧω\u0314\u0342\u0345 ᾨΩ\u0313\u0345 ᾩΩ\u0314\u0345",
  "ᾪΩ\u0313\u0300\u0345 ᾫΩ\u0314\u0300\u0345 ᾬΩ\u0313\u0301\u0345 ᾭΩ\u0314\u0301\u0345",
  "ᾮΩ\u0313\u0342\u0345 ᾯΩ\u0314\u0342\u0345 ᾰα\u0306 ᾱα\u0304 ᾲα\u0300\u0345 ᾳα\u0345",
  "ᾴα\u0301\u0345 ᾶα\u0342 ᾷα\u0342\u0345 ᾸΑ\u0306 ᾹΑ\u0304 ᾺΑ\u0300 ΆΑ\u0301 ᾼΑ\u0345 ιι",
  "ῂη\u0300\u0345 ῃη\u0345 ῄη\u0301\u0345 ῆη\u0342 ῇη\u0342\u0345 ῈΕ\u0300 ΈΕ\u0301 ῊΗ\u0300",
  "ΉΗ\u0301 ῌΗ\u0345 ῐι\u0306 ῑι\u0304 ῒι\u0308\u0300 ΐι\u0308\u0301 ῖι\u0342 ῗι\u0308\u0342",
  "ῘΙ\u0306 ῙΙ\u0304 ῚΙ\u0300 ΊΙ\u0301 ῠυ\u0306 ῡυ\u0304 ῢυ\u0308\u0300 ΰυ\u0308\u0301",
  "ῤρ\u0313 ῥρ\u0314 ῦυ\u0342 ῧυ\u0308\u0342 ῨΥ\u0306 ῩΥ\u0304 ῪΥ\u0300 ΎΥ\u0301 ῬΡ\u0314",
  "ῲω\u0300\u0345 ῳω\u0345 ῴω\u0301\u0345 ῶω\u0342 ῷω\u0342\u0345 ῸΟ\u0300 ΌΟ\u0301 ῺΩ\u0300",
  "ΏΩ\u0301 ῼΩ\u0345 ⁱi ⁿn ₐa ₑe ₒo ₓx ₔə ₕh ₖk ₗl ₘm ₙn ₚp ₛs ₜt ℂC ℇƐ ℊg ℋH ℌH ℍH ℎh ℏħ ℐI",
  "ℑI ℒL ℓl ℕN ℙP ℚQ ℛR ℜR ℝR ℤZ ΩΩ ℨZ KK ÅA\u030a ℬB ℭC ℯe ℰE ℱF ℳM ℴo ℵ\u05d0 ℶ\u05d1",
  "ℷ\u05d2 ℸ\u05d3 ℹi ℼπ ℽγ ℾΓ ℿΠ ⅅD ⅆd ⅇe ⅈi ⅉj ⅠI ⅡII ⅢIII ⅣIV ⅤV ⅥVI ⅦVII ⅧVIII ⅨIX ⅩX ⅪXI",
  "ⅫXII ⅬL ⅭC ⅮD ⅯM ⅰi ⅱii ⅲiii ⅳiv ⅴv ⅵvi ⅶvii ⅷviii ⅸix ⅹx ⅺxi ⅻxii ⅼl ⅽc ⅾd ⅿm ⱼj ⱽV ⵯⵡ 〸十",
  "〹卄 〺卅 がか\u3099 ぎき\u3099 ぐく\u3099 げけ\u3099 ごこ\u3099 ざさ\u3099 じし\u3099 ずす\u3099 ぜせ\u3099",
  "ぞそ\u3099 だた\u3099 ぢち\u3099 づつ\u3099 でて\u3099 どと\u3099 ばは\u3099 ぱは\u309a びひ\u3099 ぴひ\u309a",
  "ぶふ\u3099 ぷふ\u309a べへ\u3099 ぺへ\u309a ぼほ\u3099 ぽほ\u309a ゔう\u3099 ゞゝ\u3099 ゟより ガカ\u3099",
  "ギキ\u3099 グク\u3099 ゲケ\u3099 ゴコ\u3099 ザサ\u3099 ジシ\u3099 ズス\u3099 ゼセ\u3099 ゾソ\u3099 ダタ\u3099",
  "ヂチ\u3099 ヅツ\u3099 デテ\u3099 ドト\u3099 バハ\u3099 パハ\u309a ビヒ\u3099 ピヒ\u309a ブフ\u3099 プフ\u309a",
  "ベヘ\u3099 ペヘ\u309a ボホ\u3099 ポホ\u309a ヴウ\u3099 ヷワ\u3099 ヸヰ\u3099 ヹヱ\u3099 ヺヲ\u3099 ヾヽ\u3099",
  "ヿコト ㄱᄀ ㄲᄁ ㄳᆪ ㄴᄂ ㄵᆬ ㄶᆭ ㄷᄃ ㄸᄄ ㄹᄅ ㄺᆰ ㄻᆱ ㄼᆲ ㄽᆳ ㄾᆴ ㄿᆵ ㅀᄚ ㅁᄆ ㅂᄇ ㅃᄈ ㅄᄡ ㅅᄉ ㅆᄊ ㅇᄋ ㅈᄌ ㅉᄍ ㅊᄎ ㅋᄏ ㅌᄐ ㅍᄑ",
  "ㅎᄒ ㅏᅡ ㅐᅢ ㅑᅣ ㅒᅤ ㅓᅥ ㅔᅦ ㅕᅧ ㅖᅨ ㅗᅩ ㅘᅪ ㅙᅫ ㅚᅬ ㅛᅭ ㅜᅮ ㅝᅯ ㅞᅰ ㅟᅱ ㅠᅲ ㅡᅳ ㅢᅴ ㅣᅵ ㅤᅠ ㅥᄔ ㅦᄕ ㅧᇇ ㅨᇈ ㅩᇌ ㅪᇎ ㅫᇓ",
  "ㅬᇗ ㅭᇙ ㅮᄜ ㅯᇝ ㅰᇟ ㅱᄝ ㅲᄞ ㅳᄠ ㅴᄢ ㅵᄣ ㅶᄧ ㅷᄩ ㅸᄫ ㅹᄬ ㅺᄭ ㅻᄮ ㅼᄯ ㅽᄲ ㅾᄶ ㅿᅀ ㆀᅇ ㆁᅌ ㆂᇱ ㆃᇲ ㆄᅗ ㆅᅘ ㆆᅙ ㆇᆄ ㆈᆅ ㆉᆈ",
  "ㆊᆑ ㆋᆒ ㆌᆔ ㆍᆞ ㆎᆡ ꚜъ ꚝь ꝰꝯ ꟲC ꟳF ꟴQ ꟸĦ ꟹœ ꭜꜧ ꭝꬷ ꭞɫ ꭟꭒ ꭩʍ 豈豈 更更 車車 賈賈 滑滑 串串 句句 龜龜 龜龜 契契 金金 喇喇",
  "奈奈 懶懶 癩癩 羅羅 蘿蘿 螺螺 裸裸 邏邏 樂樂 洛洛 烙烙 珞珞 落落 酪酪 駱駱 亂亂 卵卵 欄欄 爛爛 蘭蘭 鸞鸞 嵐嵐 濫濫 藍藍 襤襤 拉拉 臘臘 蠟蠟 廊廊 朗朗"]

private def decompositionLinesB : List String := [
  "浪浪 狼狼 郎郎 來來 冷冷 勞勞 擄擄 櫓櫓 爐爐 盧盧 老老 蘆蘆 虜虜 路路 露露 魯魯 鷺鷺 碌碌 祿祿 綠綠 菉菉 錄錄 鹿鹿 論論 壟壟 弄弄 籠籠 聾聾 牢牢 磊磊",
  "賂賂 雷雷 壘壘 屢屢 樓樓 淚淚 漏漏 累累 縷縷 陋陋 勒勒 肋肋 凜凜 凌凌 稜稜 綾綾 菱菱 陵陵 讀讀 拏拏 樂樂 諾諾 丹丹 寧寧 怒怒 率率 異異 北北 磻磻 便便",
  "復復 不不 泌泌 數數 索索 參參 塞塞 省省 葉葉 說說 殺殺 辰辰 沈沈 拾拾 若若 掠掠 略略 亮亮 兩兩 凉凉 梁梁 糧糧 良良 諒諒 量量 勵勵 呂呂 女女 廬廬 旅旅",
  "濾濾 礪礪 閭閭 驪驪 麗麗 黎黎 力力 曆曆 歷歷 轢轢 年年 憐憐 戀戀 撚撚 漣漣 煉煉 璉璉 秊秊 練練 聯聯 輦輦 蓮蓮 連連 鍊鍊 列列 劣劣 咽咽 烈烈 裂裂 說說",
  "廉廉 念念 捻捻 殮殮 簾簾 獵獵 令令 囹囹 寧寧 嶺嶺 怜怜 玲玲 瑩瑩 羚羚 聆聆 鈴鈴 零零 靈靈 領領 例例 禮禮 醴醴 隸隸 惡惡 了了 僚僚 寮寮 尿尿 料料 樂樂",
  "燎燎 療療 蓼蓼 遼遼 龍龍 暈暈 阮阮 劉劉 杻杻 柳柳 流流 溜溜 琉琉 留留 硫硫 紐紐 類類 六六 戮戮 陸陸 倫倫 崙崙 淪淪 輪輪 律律 慄慄 栗栗 率率 隆隆 利利",
  "吏吏 履履 易易 李李 梨梨 泥泥 理理 痢痢 罹罹 裏裏 裡裡 里里 離離 匿匿 溺溺 吝吝 燐燐 璘璘 藺藺 隣隣 鱗鱗 麟麟 林林 淋淋 臨臨 立立 笠笠 粒粒 狀狀 炙炙",
  "識識 什什 茶茶 刺刺 切切 度度 拓拓 糖糖 宅宅 洞洞 暴暴 輻輻 行行 降降 見見 廓廓 兀兀 嗀嗀 塚塚 晴晴 凞凞 猪猪 益益 礼礼 神神 祥祥 福福 靖靖 精精 羽羽",
  "蘒蘒 諸諸 逸逸 都都 飯飯 飼飼 館館 鶴鶴 郞郞 隷隷 侮侮 僧僧 免免 勉勉 勤勤 卑卑 喝喝 嘆嘆 器器 塀塀 墨墨 層層 屮屮 悔悔 慨慨 憎憎 懲懲 敏敏 既既 暑暑",
  "梅梅 海海 渚渚 漢漢 煮煮 爫爫 琢琢 碑碑 社社 祉祉 祈祈 祐祐 祖祖 祝祝 禍禍 禎禎 穀穀 突突 節節 練練 縉縉 繁繁 署署 者者 臭臭 艹艹 艹艹 著著 褐褐 視視",
  "謁謁 謹謹 賓賓 贈贈 辶辶 逸逸 難難 響響 頻頻 恵恵 𤋮𤋮 舘舘 並並 况况 全全 侀侀 充充 冀冀 勇勇 勺勺 喝喝 啕啕 喙喙 嗢嗢 塚塚 墳墳 奄奄 奔奔 婢婢 嬨嬨",
  "廒廒 廙廙 彩彩 徭徭 惘惘 慎慎 愈愈 憎憎 慠慠 懲懲 戴戴 揄揄 搜搜 摒摒 敖敖 晴晴 朗朗 望望 杖杖 歹歹 殺殺 流流 滛滛 滋滋 漢漢 瀞瀞 煮煮 瞧瞧 爵爵 犯犯",
  "猪猪 瑱瑱 甆甆 画画 瘝瘝 瘟瘟 益益 盛盛 直直 睊睊 着着 磌磌 窱窱 節節 类类 絛絛 練練 缾缾 者者 荒荒 華華 蝹蝹 襁襁 覆覆 視視 調調 諸諸 請請 謁謁 諾諾",
  "諭諭 謹謹 變變 贈贈 輸輸 遲遲 醙醙 鉶鉶 陼陼 難難 靖靖 韛韛 響響 頋頋 頻頻 鬒鬒 龜龜 𢡊𢡊 𢡄𢡄 𣏕𣏕 㮝㮝 䀘䀘 䀹䀹 𥉉𥉉 𥳐𥳐 𧻓𧻓 齃齃 龎龎 ﬀff ﬁfi",
  "ﬂfl ﬃffi ﬄffl ﬅst ﬆst ﬓմն ﬔմե ﬕմի ﬖվն ﬗմխ \ufb1d\u05d9\u05b4 \ufb1f\u05f2\u05b7",
  "\ufb20\u05e2 \ufb21\u05d0 \ufb22\u05d3 \ufb23\u05d4 \ufb24\u05db \ufb25\u05dc \ufb26\u05dd",
  "\ufb27\u05e8 \ufb28\u05ea \ufb2a\u05e9\u05c1 \ufb2b\u05e9\u05c2 \ufb2c\u05e9\u05bc\u05c1",
  "\ufb2d\u05e9\u05bc\u05c2 \ufb2e\u05d0\u05b7 \ufb2f\u05d0\u05b8 \ufb30\u05d0\u05bc",
  "\ufb31\u05d1\u05bc \ufb32\u05d2\u05bc \ufb33\u05d3\u05bc \ufb34\u05d4\u05bc",
  "\ufb35\u05d5\u05bc \ufb36\u05d6\u05bc \ufb38\u05d8\u05bc \ufb39\u05d9\u05bc",
  "\ufb3a\u05da\u05bc \ufb3b\u05db\u05bc \ufb3c\u05dc\u05bc \ufb3e\u05de\u05bc",
  "\ufb40\u05e0\u05bc \ufb41\u05e1\u05bc \ufb43\u05e3\u05bc \ufb44\u05e4\u05bc",
  "\ufb46\u05e6\u05bc \ufb47\u05e7\u05bc \ufb48\u05e8\u05bc \ufb49\u05e9\u05bc",
  "\ufb4a\u05ea\u05bc \ufb4b\u05d5\u05b9 \ufb4c\u05d1\u05bf \ufb4d\u05db\u05bf",
  "\ufb4e\u05e4\u05bf \ufb4f\u05d0\u05dc \ufb50\u0671 \ufb51\u0671 \ufb52\u067b \ufb53\u067b",
  "\ufb54\u067b \ufb55\u067b \ufb56\u067e \ufb57\u067e \ufb58\u067e \ufb59\u067e \ufb5a\u0680",
  "\ufb5b\u0680 \ufb5c\u0680 \ufb5d\u0680 \ufb5e\u067a \ufb5f\u067a \ufb60\u067a \ufb61\u067a",
  "\ufb62\u067f \ufb63\u067f \ufb64\u067f \ufb65\u067f \ufb66\u0679 \ufb67\u0679 \ufb68\u0679",
  "\ufb69\u0679 \ufb6a\u06a4 \ufb6b\u06a4 \ufb6c\u06a4 \ufb6d\u06a4 \ufb6e\u06a6 \ufb6f\u06a6",
  "\ufb70\u06a6 \ufb71\u06a6 \ufb72\u0684 \ufb73\u0684 \ufb74\u0684 \ufb75\u0684 \ufb76\u0683",
  "\ufb77\u0683 \ufb78\u0683 \ufb79\u0683 \ufb7a\u0686 \ufb7b\u0686 \ufb7c\u0686 \ufb7d\u0686",
  "\ufb7e\u0687 \ufb7f\u0687 \ufb80\u0687 \ufb81\u0687 \ufb82\u068d \ufb83\u068d \ufb84\u068c",
  "\ufb85\u068c \ufb86\u068e \ufb87\u068e \ufb88\u0688 \ufb89\u0688 \ufb8a\u0698 \ufb8b\u0698",
  "\ufb8c\u0691 \ufb8d\u0691 \ufb8e\u06a9 \ufb8f\u06a9 \ufb90\u06a9 \ufb91\u06a9 \ufb92\u06af",
  "\ufb93\u06af \ufb94\u06af \ufb95\u06af \ufb96\u06b3 \ufb97\u06b3 \ufb98\u06b3 \ufb99\u06b3",
  "\ufb9a\u06b1 \ufb9b\u06b1 \ufb9c\u06b1 \ufb9d\u06b1 \ufb9e\u06ba \ufb9f\u06ba \ufba0\u06bb",
  "\ufba1\u06bb \ufba2\u06bb \ufba3\u06bb \ufba4\u06d5\u0654 \ufba5\u06d5\u0654 \ufba6\u06c1",
  "\ufba7\u06c1 \ufba8\u06c1 \ufba9\u06c1 \ufbaa\u06be \ufbab\u06be \ufbac\u06be \ufbad\u06be",
  "\ufbae\u06d2 \ufbaf\u06d2 \ufbb0\u06d2\u0654 \ufbb1\u06d2\u0654 \ufbd3\u06ad \ufbd4\u06ad",
  "\ufbd5\u06ad \ufbd6\u06ad \ufbd7\u06c7 \ufbd8\u06c7 \ufbd9\u06c6 \ufbda\u06c6 \ufbdb\u06c8",
  "\ufbdc\u06c8 \ufbdd\u06c7\u0674 \ufbde\u06cb \ufbdf\u06cb \ufbe0\u06c5 \ufbe1\u06c5",
  "\ufbe2\u06c9 \ufbe3\u06c9 \ufbe4\u06d0 \ufbe5\u06d0 \ufbe6\u06d0 \ufbe7\u06d0 \ufbe8\u0649",
  "\ufbe9\u0649 \ufbea\u064a\u0654\u0627 \ufbeb\u064a\u0654\u0627 \ufbec\u064a\u0654\u06d5",
  "\ufbed\u064a\u0654\u06d5 \ufbee\u064a\u0654\u0648 \ufbef\u064a\u0654\u0648",
  "\ufbf0\u064a\u0654\u06c7 \ufbf1\u064a\u0654\u06c7 \ufbf2\u064a\u0654\u06c6",
  "\ufbf3\u064a\u0654\u06c6 \ufbf4\u064a\u0654\u06c8 \ufbf5\u064a\u0654\u06c8",
  "\ufbf6\u064a\u0654\u06d0 \ufbf7\u064a\u0654\u06d0 \ufbf8\u064a\u0654\u06d0",
  "\ufbf9\u064a\u0654\u0649 \ufbfa\u064a\u0654\u0649 \ufbfb\u064a\u0654\u0649 \ufbfc\u06cc",
  "\ufbfd\u06cc \ufbfe\u06cc \ufbff\u06cc \ufc00\u064a\u0654\u062c \ufc01\u064a\u0654\u062d",
  "\ufc02\u064a\u0654\u0645 \ufc03\u064a\u0654\u0649 \ufc04\u064a\u0654\u064a",
  "\ufc05\u0628\u062c \ufc06\u0628\u062d \ufc07\u0628\u062e \ufc08\u0628\u0645",
  "\ufc09\u0628\u0649 \ufc0a\u0628\u064a \ufc0b\u062a\u062c \ufc0c\u062a\u062d",
  "\ufc0d\u062a\u062e \ufc0e\u062a\u0645 \ufc0f\u062a\u0649 \ufc10\u062a\u064a",
  "\ufc11\u062b\u062c \ufc12\u062b\u0645 \ufc13\u062b\u0649 \ufc14\u062b\u064a",
  "\ufc15\u062c\u062d \ufc16\u062c\u0645 \ufc17\u062d\u062c \ufc18\u062d\u0645",
  "\ufc19\u062e\u062c \ufc1a\u062e\u062d \ufc1b\u062e\u0645 \ufc1c\u0633\u062c",
  "\ufc1d\u0633\u062d \ufc1e\u0633\u062e \ufc1f\u0633\u0645 \ufc20\u0635\u062d",
  "\ufc21\u0635\u0645 \ufc22\u0636\u062c \ufc23\u0636\u062d \ufc24\u0636\u062e",
  "\ufc25\u0636\u0645 \ufc26\u0637\u062d \ufc27\u0637\u0645 \ufc28\u0638\u0645",
  "\ufc29\u0639\u062c \ufc2a\u0639\u0645 \ufc2b\u063a\u062c \ufc2c\u063a\u0645",
  "\ufc2d\u0641\u062c \ufc2e\u0641\u062d \ufc2f\u0641\u062e \ufc30\u0641\u0645",
  "\ufc31\u0641\u0649 \ufc32\u0641\u064a \ufc33\u0642\u062d \ufc34\u0642\u0645",
  "\ufc35\u0642\u0649 \ufc36\u0642\u064a \ufc37\u0643\u0627 \ufc38\u0643\u062c",
  "\ufc39\u0643\u062d \ufc3a\u0643\u062e \ufc3b\u0643\u0644 \ufc3c\u0643\u0645",
  "\ufc3d\u0643\u0649 \ufc3e\u0643\u064a \ufc3f\u0644\u062c \ufc40\u0644\u062d",
  "\ufc41\u0644\u062e \ufc42\u0644\u0645 \ufc43\u0644\u0649 \ufc44\u0644\u064a",
  "\ufc45\u0645\u062c \ufc46\u0645\u062d \ufc47\u0645\u062e \ufc48\u0645\u0645",
  "\ufc49\u0645\u0649 \ufc4a\u0645\u064a \ufc4b\u0646\u062c \ufc4c\u0646\u062d",
  "\ufc4d\u0646\u062e \ufc4e\u0646\u0645 \ufc4f\u0646\u0649 \ufc50\u0646\u064a",
  "\ufc51\u0647\u062c \ufc52\u0647\u0645 \ufc53\u0647\u0649 \ufc54\u0647\u064a",
  "\ufc55\u064a\u062c \ufc56\u064a\u062d \ufc57\u064a\u062e \ufc58\u064a\u0645",
  "\ufc59\u064a\u0649 \ufc5a\u064a\u064a \ufc5b\u0630\u0670 \ufc5c\u0631\u0670",
  "\ufc5d\u0649\u0670 \ufc64\u064a\u0654\u0631 \ufc65\u064a\u0654\u0632",
  "\ufc66\u064a\u0654\u0645 \ufc67\u064a\u0654\u0646 \ufc68\u064a\u0654\u0649",
  "\ufc69\u064a\u0654\u064a \ufc6a\u0628\u0631 \ufc6b\u0628\u0632 \ufc6c\u0628\u0645",
  "\ufc6d\u0628\u0646 \ufc6e\u0628\u0649 \ufc6f\u0628\u064a \ufc70\u062a\u0631",
  "\ufc71\u062a\u0632 \ufc72\u062a\u0645 \ufc73\u062a\u0646 \ufc74\u062a\u0649",
  "\ufc75\u062a\u064a \ufc76\u062b\u0631 \ufc77\u062b\u0632 \ufc78\u062b\u0645",
  "\ufc79\u062b\u0646 \ufc7a\u062b\u0649 \ufc7b\u062b\u064a \ufc7c\u0641\u0649",
  "\ufc7d\u0641\u064a \ufc7e\u0642\u0649 \ufc7f\u0642\u064a \ufc80\u0643\u0627",
  "\ufc81\u0643\u0644 \ufc82\u0643\u0645 \ufc83\u0643\u0649 \ufc84\u0643\u064a",
  "\ufc85\u0644\u0645 \ufc86\u0644\u0649 \ufc87\u0644\u064a \ufc88\u0645\u0627",
  "\ufc89\u0645\u0645 \ufc8a\u0646\u0631 \ufc8b\u0646\u0632 \ufc8c\u0646\u0645",
  "\ufc8d\u0646\u0646 \ufc8e\u0646\u0649 \ufc8f\u0646\u064a \ufc90\u0649\u0670",
  "\ufc91\u064a\u0631 \ufc92\u064a\u0632 \ufc93\u064a\u0645 \ufc94\u064a\u0646",
  "\ufc95\u064a\u0649 \ufc96\u064a\u064a \ufc97\u064a\u0654\u062c \ufc98\u064a\u0654\u062d",
  "\ufc99\u064a\u0654\u062e \ufc9a\u064a\u0654\u0645 \ufc9b\u064a\u0654\u0647",
  "\ufc9c\u0628\u062c \ufc9d\u0628\u062d \ufc9e\u0628\u062e \ufc9f\u0628\u0645",
  "\ufca0\u0628\u0647 \ufca1\u062a\u062c \ufca2\u062a\u062d \ufca3\u062a\u062e",
  "\ufca4\u062a\u0645 \ufca5\u062a\u0647 \ufca6\u062b\u0645 \ufca7\u062c\u062d",
  "\ufca8\u062c\u0645 \ufca9\u062d\u062c \ufcaa\u062d\u0645 \ufcab\u062e\u062c",
  "\ufcac\u062e\u0645 \ufcad\u0633\u062c \ufcae\u0633\u062d \ufcaf\u0633\u062e",
  "\ufcb0\u0633\u0645 \ufcb1\u0635\u062d \ufcb2\u0635\u062e \ufcb3\u0635\u0645",
  "\ufcb4\u0636\u062c \ufcb5\u0636\u062d \ufcb6\u0636\u062e \ufcb7\u0636\u0645",
  "\ufcb8\u0637\u062d \ufcb9\u0638\u0645 \ufcba\u0639\u062c \ufcbb\u0639\u0645",
  "\ufcbc\u063a\u062c \ufcbd\u063a\u0645 \ufcbe\u0641\u062c \ufcbf\u0641\u062d",
  "\ufcc0\u0641\u062e \ufcc1\u0641\u0645 \ufcc2\u0642\u062d \ufcc3\u0642\u0645",
  "\ufcc4\u0643\u062c \ufcc5\u0643\u062d \ufcc6\u0643\u062e \ufcc7\u0643\u0644",
  "\ufcc8\u0643\u0645 \ufcc9\u0644\u062c \ufcca\u0644\u062d \ufccb\u0644\u062e",
  "\ufccc\u0644\u0645 \ufccd\u0644\u0647 \ufcce\u0645\u062c \ufccf\u0645\u062d",
  "\ufcd0\u0645\u062e \ufcd1\u0645\u0645 \ufcd2\u0646\u062c \ufcd3\u0646\u062d",
  "\ufcd4\u0646\u062e \ufcd5\u0646\u0645 \ufcd6\u0646\u0647 \ufcd7\u0647\u062c",
  "\ufcd8\u0647\u0645 \ufcd9\u0647\u0670 \ufcda\u064a\u062c \ufcdb\u064a\u062d",
  "\ufcdc\u064a\u062e \ufcdd\u064a\u0645 \ufcde\u064a\u0647 \ufcdf\u064a\u0654\u0645",
  "\ufce0\u064a\u0654\u0647 \ufce1\u0628\u0645 \ufce2\u0628\u0647 \ufce3\u062a\u0645",
  "\ufce4\u062a\u0647 \ufce5\u062b\u0645 \ufce6\u062b\u0647 \ufce7\u0633\u0645",
  "\ufce8\u0633\u0647 \ufce9\u0634\u0645 \ufcea\u0634\u0647 \ufceb\u0643\u0644",
  "\ufcec\u0643\u0645 \ufced\u0644\u0645 \ufcee\u0646\u0645 \ufcef\u0646\u0647",
  "\ufcf0\u064a\u0645 \ufcf1\u064a\u0647 \ufcf2\u0640\u064e\u0651 \ufcf3\u0640\u064f\u0651",
  "\ufcf4\u0640\u0650\u0651 \ufcf5\u0637\u0649 \ufcf6\u0637\u064a \ufcf7\u0639\u0649",
  "\ufcf8\u0639\u064a \ufcf9\u063a\u0649 \ufcfa\u063a\u064a \ufcfb\u0633\u0649",
  "\ufcfc\u0633\u064a \ufcfd\u0634\u0649 \ufcfe\u0634\u064a \ufcff\u062d\u0649",
  "\ufd00\u062d\u064a \ufd01\u062c\u0649 \ufd02\u062c\u064a \ufd03\u062e\u0649",
  "\ufd04\u062e\u064a \ufd05\u0635\u0649 \ufd06\u0635\u064a \ufd07\u0636\u0649",
  "\ufd08\u0636\u064a \ufd09\u0634\u062c \ufd0a\u0634\u062d \ufd0b\u0634\u062e",
  "\ufd0c\u0634\u0645 \ufd0d\u0634\u0631 \ufd0e\u0633\u0631 \ufd0f\u0635\u0631",
  "\ufd10\u0636\u0631 \ufd11\u0637\u0649 \ufd12\u0637\u064a \ufd13\u0639\u0649",
  "\ufd14\u0639\u064a \ufd15\u063a\u0649 \ufd16\u063a\u064a \ufd17\u0633\u0649",
  "\ufd18\u0633\u064a \ufd19\u0634\u0649 \ufd1a\u0634\u064a \ufd1b\u062d\u0649",
  "\ufd1c\u062d\u064a \ufd1d\u062c\u0649 \ufd1e\u062c\u064a \ufd1f\u062e\u0649",
  "\ufd20\u062e\u064a \ufd21\u0635\u0649 \ufd22\u0635\u064a \ufd23\u0636\u0649",
  "\ufd24\u0636\u064a \ufd25\u0634\u062c \ufd26\u0634\u062d \ufd27\u0634\u062e",
  "\ufd28\u0634\u0645 \ufd29\u0634\u0631 \ufd2a\u0633\u0631 \ufd2b\u0635\u0631",
  "\ufd2c\u0636\u0631 \ufd2d\u0634\u062c \ufd2e\u0634\u062d \ufd2f\u0634\u062e",
  "\ufd30\u0634\u0645 \ufd31\u0633\u0647 \ufd32\u0634\u0647 \ufd33\u0637\u0645",
  "\ufd34\u0633\u062c \ufd35\u0633\u062d \ufd36\u0633\u062e \ufd37\u0634\u062c",
  "\ufd38\u0634\u062d \ufd39\u0634\u062e \ufd3a\u0637\u0645 \ufd3b\u0638\u0645",
  "\ufd3c\u0627\u064b \ufd3d\u0627\u064b \ufd50\u062a\u062c\u0645 \ufd51\u062a\u062d\u062c",
  "\ufd52\u062a\u062d\u062c \ufd53\u062a\u062d\u0645 \ufd54\u062a\u062e\u0645",
  "\ufd55\u062a\u0645\u062c \ufd56\u062a\u0645\u062d \ufd57\u062a\u0645\u062e",
  "\ufd58\u062c\u0645\u062d \ufd59\u062c\u0645\u062d \ufd5a\u062d\u0645\u064a",
  "\ufd5b\u062d\u0645\u0649 \ufd5c\u0633\u062d\u062c \ufd5d\u0633\u062c\u062d",
  "\ufd5e\u0633\u062c\u0649 \ufd5f\u0633\u0645\u062d \ufd60\u0633\u0645\u062d",
  "\ufd61\u0633\u0645\u062c \ufd62\u0633\u0645\u0645 \ufd63\u0633\u0645\u0645",
  "\ufd64\u0635\u062d\u062d \ufd65\u0635\u062d\u062d \ufd66\u0635\u0645\u0645",
  "\ufd67\u0634\u062d\u0645 \ufd68\u0634\u062d\u0645 \ufd69\u0634\u062c\u064a",
  "\ufd6a\u0634\u0645\u062e \ufd6b\u0634\u0645\u062e \ufd6c\u0634\u0645\u0645",
  "\ufd6d\u0634\u0645\u0645 \ufd6e\u0636\u062d\u0649 \ufd6f\u0636\u062e\u0645",
  "\ufd70\u0636\u062e\u0645 \ufd71\u0637\u0645\u062d \ufd72\u0637\u0645\u062d",
  "\ufd73\u0637\u0645\u0645 \ufd74\u0637\u0645\u064a \ufd75\u0639\u062c\u0645"]

private def decompositionLinesC : List String := [
  "\ufd76\u0639\u0645\u0645 \ufd77\u0639\u0645\u0645 \ufd78\u0639\u0645\u0649",
  "\ufd79\u063a\u0645\u0645 \ufd7a\u063a\u0645\u064a \ufd7b\u063a\u0645\u0649",
  "\ufd7c\u0641\u062e\u0645 \ufd7d\u0641\u062e\u0645 \ufd7e\u0642\u0645\u062d",
  "\ufd7f\u0642\u0645\u0645 \ufd80\u0644\u062d\u0645 \ufd81\u0644\u062d\u064a",
  "\ufd82\u0644\u062d\u0649 \ufd83\u0644\u062c\u062c \ufd84\u0644\u062c\u062c",
  "\ufd85\u0644\u062e\u0645 \ufd86\u0644\u062e\u0645 \ufd87\u0644\u0645\u062d",
  "\ufd88\u0644\u0645\u062d \ufd89\u0645\u062d\u062c \ufd8a\u0645\u062d\u0645",
  "\ufd8b\u0645\u062d\u064a \ufd8c\u0645\u062c\u062d \ufd8d\u0645\u062c\u0645",
  "\ufd8e\u0645\u062e\u062c \ufd8f\u0645\u062e\u0645 \ufd92\u0645\u062c\u062e",
  "\ufd93\u0647\u0645\u062c \ufd94\u0647\u0645\u0645 \ufd95\u0646\u062d\u0645",
  "\ufd96\u0646\u062d\u0649 \ufd97\u0646\u062c\u0645 \ufd98\u0646\u062c\u0645",
  "\ufd99\u0646\u062c\u0649 \ufd9a\u0646\u0645\u064a \ufd9b\u0646\u0645\u0649",
  "\ufd9c\u064a\u0645\u0645 \ufd9d\u064a\u0645\u0645 \ufd9e\u0628\u062e\u064a",
  "\ufd9f\u062a\u062c\u064a \ufda0\u062a\u062c\u0649 \ufda1\u062a\u062e\u064a",
  "\ufda2\u062a\u062e\u0649 \ufda3\u062a\u0645\u064a \ufda4\u062a\u0645\u0649",
  "\ufda5\u062c\u0645\u064a \ufda6\u062c\u062d\u0649 \ufda7\u062c\u0645\u0649",
  "\ufda8\u0633\u062e\u0649 \ufda9\u0635\u062d\u064a \ufdaa\u0634\u062d\u064a",
  "\ufdab\u0636\u062d\u064a \ufdac\u0644\u062c\u064a \ufdad\u0644\u0645\u064a",
  "\ufdae\u064a\u062d\u064a \ufdaf\u064a\u062c\u064a \ufdb0\u064a\u0645\u064a",
  "\ufdb1\u0645\u0645\u064a \ufdb2\u0642\u0645\u064a \ufdb3\u0646\u062d\u064a",
  "\ufdb4\u0642\u0645\u062d \ufdb5\u0644\u062d\u0645 \ufdb6\u0639\u0645\u064a",
  "\ufdb7\u0643\u0645\u064a \ufdb8\u0646\u062c\u062d \ufdb9\u0645\u062e\u064a",
  "\ufdba\u0644\u062c\u0645 \ufdbb\u0643\u0645\u0645 \ufdbc\u0644\u062c\u0645",
  "\ufdbd\u0646\u062c\u062d \ufdbe\u062c\u062d\u064a \ufdbf\u062d\u062c\u064a",
  "\ufdc0\u0645\u062c\u064a \ufdc1\u0641\u0645\u064a \ufdc2\u0628\u062d\u064a",
  "\ufdc3\u0643\u0645\u0645 \ufdc4\u0639\u062c\u0645 \ufdc5\u0635\u0645\u0645",
  "\ufdc6\u0633\u062e\u064a \ufdc7\u0646\u062c\u064a \ufdf0\u0635\u0644\u06d2",
  "\ufdf1\u0642\u0644\u06d2 \ufdf2\u0627\u0644\u0644\u0647 \ufdf3\u0627\u0643\u0628\u0631",
  "\ufdf4\u0645\u062d\u0645\u062f \ufdf5\u0635\u0644\u0639\u0645",
  "\ufdf6\u0631\u0633\u0648\u0644 \ufdf7\u0639\u0644\u064a\u0647",
  "\ufdf8\u0648\u0633\u0644\u0645 \ufdf9\u0635\u0644\u0649 ︳_ ︴_ ﹍_ ﹎_ ﹏_ \ufe71\u0640\u064b",
  "\ufe77\u0640\u064e \ufe79\u0640\u064f \ufe7b\u0640\u0650 \ufe7d\u0640\u0651",
  "\ufe7f\u0640\u0652 \ufe80\u0621 \ufe81\u0627\u0653 \ufe82\u0627\u0653 \ufe83\u0627\u0654",
  "\ufe84\u0627\u0654 \ufe85\u0648\u0654 \ufe86\u0648\u0654 \ufe87\u0627\u0655",
  "\ufe88\u0627\u0655 \ufe89\u064a\u0654 \ufe8a\u064a\u0654 \ufe8b\u064a\u0654",
  "\ufe8c\u064a\u0654 \ufe8d\u0627 \ufe8e\u0627 \ufe8f\u0628 \ufe90\u0628 \ufe91\u0628",
  "\ufe92\u0628 \ufe93\u0629 \ufe94\u0629 \ufe95\u062a \ufe96\u062a \ufe97\u062a \ufe98\u062a",
  "\ufe99\u062b \ufe9a\u062b \ufe9b\u062b \ufe9c\u062b \ufe9d\u062c \ufe9e\u062c \ufe9f\u062c",
  "\ufea0\u062c \ufea1\u062d \ufea2\u062d \ufea3\u062d \ufea4\u062d \ufea5\u062e \ufea6\u062e",
  "\ufea7\u062e \ufea8\u062e \ufea9\u062f \ufeaa\u062f \ufeab\u0630 \ufeac\u0630 \ufead\u0631",
  "\ufeae\u0631 \ufeaf\u0632 \ufeb0\u0632 \ufeb1\u0633 \ufeb2\u0633 \ufeb3\u0633 \ufeb4\u0633",
  "\ufeb5\u0634 \ufeb6\u0634 \ufeb7\u0634 \ufeb8\u0634 \ufeb9\u0635 \ufeba\u0635 \ufebb\u0635",
  "\ufebc\u0635 \ufebd\u0636 \ufebe\u0636 \ufebf\u0636 \ufec0\u0636 \ufec1\u0637 \ufec2\u0637",
  "\ufec3\u0637 \ufec4\u0637 \ufec5\u0638 \ufec6\u0638 \ufec7\u0638 \ufec8\u0638 \ufec9\u0639",
  "\ufeca\u0639 \ufecb\u0639 \ufecc\u0639 \ufecd\u063a \ufece\u063a \ufecf\u063a \ufed0\u063a",
  "\ufed1\u0641 \ufed2\u0641 \ufed3\u0641 \ufed4\u0641 \ufed5\u0642 \ufed6\u0642 \ufed7\u0642",
  "\ufed8\u0642 \ufed9\u0643 \ufeda\u0643 \ufedb\u0643 \ufedc\u0643 \ufedd\u0644 \ufede\u0644",
  "\ufedf\u0644 \ufee0\u0644 \ufee1\u0645 \ufee2\u0645 \ufee3\u0645 \ufee4\u0645 \ufee5\u0646",
  "\ufee6\u0646 \ufee7\u0646 \ufee8\u0646 \ufee9\u0647 \ufeea\u0647 \ufeeb\u0647 \ufeec\u0647",
  "\ufeed\u0648 \ufeee\u0648 \ufeef\u0649 \ufef0\u0649 \ufef1\u064a \ufef2\u064a \ufef3\u064a",
  "\ufef4\u064a \ufef5\u0644\u0627\u0653 \ufef6\u0644\u0627\u0653 \ufef7\u0644\u0627\u0654",
  "\ufef8\u0644\u0627\u0654 \ufef9\u0644\u0627\u0655 \ufefa\u0644\u0627\u0655",
  "\ufefb\u0644\u0627 \ufefc\u0644\u0627 ０0 １1 ２2 ３3 ４4 ５5 ６6 ７7 ８8 ９9 ＡA ＢB ＣC ＤD ＥE ＦF ＧG ＨH",
  "ＩI ＪJ ＫK ＬL ＭM ＮN ＯO ＰP ＱQ ＲR ＳS ＴT ＵU ＶV ＷW ＸX ＹY ＺZ ＿_ ａa ｂb ｃc ｄd ｅe ｆf ｇg ｈh ｉi ｊj ｋk",
  "ｌl ｍm ｎn ｏo ｐp ｑq ｒr ｓs ｔt ｕu ｖv ｗw ｘx ｙy ｚz ｦヲ ｧァ ｨィ ｩゥ ｪェ ｫォ ｬャ ｭュ ｮョ ｯッ ｰー ｱア ｲイ ｳウ ｴエ",
  "ｵオ ｶカ ｷキ ｸク ｹケ ｺコ ｻサ ｼシ ｽス ｾセ ｿソ ﾀタ ﾁチ ﾂツ ﾃテ ﾄト ﾅナ ﾆニ ﾇヌ ﾈネ ﾉノ ﾊハ ﾋヒ ﾌフ ﾍヘ ﾎホ ﾏマ ﾐミ ﾑム ﾒメ",
  "ﾓモ ﾔヤ ﾕユ ﾖヨ ﾗラ ﾘリ ﾙル ﾚレ ﾛロ ﾜワ ﾝン ﾞ\u3099 ﾟ\u309a ﾠᅠ ﾡᄀ ﾢᄁ ﾣᆪ ﾤᄂ ﾥᆬ ﾦᆭ ﾧᄃ ﾨᄄ ﾩᄅ ﾪᆰ ﾫᆱ ﾬᆲ ﾭᆳ",
  "ﾮᆴ ﾯᆵ ﾰᄚ ﾱᄆ ﾲᄇ ﾳᄈ ﾴᄡ ﾵᄉ ﾶᄊ ﾷᄋ ﾸᄌ ﾹᄍ ﾺᄎ ﾻᄏ ﾼᄐ ﾽᄑ ﾾᄒ ￂᅡ ￃᅢ ￄᅣ ￅᅤ ￆᅥ ￇᅦ ￊᅧ ￋᅨ ￌᅩ ￍᅪ ￎᅫ ￏᅬ ￒᅭ",
  "ￓᅮ ￔᅯ ￕᅰ ￖᅱ ￗᅲ ￚᅳ ￛᅴ ￜᅵ 𐞁ː 𐞂ˑ 𐞃æ 𐞄ʙ 𐞅ɓ 𐞇ʣ 𐞈ꭦ 𐞉ʥ 𐞊ʤ 𐞋ɖ 𐞌ɗ 𐞍ᶑ 𐞎ɘ 𐞏ɞ 𐞐ʩ 𐞑ɤ 𐞒ɢ 𐞓ɠ 𐞔ʛ 𐞕ħ 𐞖ʜ 𐞗ɧ",
  "𐞘ʄ 𐞙ʪ 𐞚ʫ 𐞛ɬ 𐞜𝼄 𐞝ꞎ 𐞞ɮ 𐞟𝼅 𐞠ʎ 𐞡𝼆 𐞢ø 𐞣ɶ 𐞤ɷ 𐞥q 𐞦ɺ 𐞧𝼈 𐞨ɽ 𐞩ɾ 𐞪ʀ 𐞫ʨ 𐞬ʦ 𐞭ꭧ 𐞮ʧ 𐞯ʈ 𐞰ⱱ 𐞲ʏ 𐞳ʡ 𐞴ʢ 𐞵ʘ 𐞶ǀ",
  "𐞷ǁ 𐞸ǂ 𐞹𝼊 𐞺𝼞 𑂚𑂚 𑂜𑂜 𑂫𑂫 𑄮𑄮 𑄯𑄯 𑍋𑍋 𑍌𑍌 𑒻𑒻 𑒼𑒼 𑒾𑒾 𑖺𑖺 𑖻𑖻 𑤸𑤸 𝐀A 𝐁B 𝐂C 𝐃D 𝐄E 𝐅F 𝐆G 𝐇H 𝐈I",
  "𝐉J 𝐊K 𝐋L 𝐌M 𝐍N 𝐎O 𝐏P 𝐐Q 𝐑R 𝐒S 𝐓T 𝐔U 𝐕V 𝐖W 𝐗X 𝐘Y 𝐙Z 𝐚a 𝐛b 𝐜c 𝐝d 𝐞e 𝐟f 𝐠g 𝐡h 𝐢i 𝐣j 𝐤k 𝐥l 𝐦m",
  "𝐧n 𝐨o 𝐩p 𝐪q 𝐫r 𝐬s 𝐭t 𝐮u 𝐯v 𝐰w 𝐱x 𝐲y 𝐳z 𝐴A 𝐵B 𝐶C 𝐷D 𝐸E 𝐹F 𝐺G 𝐻H 𝐼I 𝐽J 𝐾K 𝐿L 𝑀M 𝑁N 𝑂O 𝑃P 𝑄Q",
  "𝑅R 𝑆S 𝑇T 𝑈U 𝑉V 𝑊W 𝑋X 𝑌Y 𝑍Z 𝑎a 𝑏b 𝑐c 𝑑d 𝑒e 𝑓f 𝑔g 𝑖i 𝑗j 𝑘k 𝑙l 𝑚m 𝑛n 𝑜o 𝑝p 𝑞q 𝑟r 𝑠s 𝑡t 𝑢u 𝑣v",
  "𝑤w 𝑥x 𝑦y 𝑧z 𝑨A 𝑩B 𝑪C 𝑫D 𝑬E 𝑭F 𝑮G 𝑯H 𝑰I 𝑱J 𝑲K 𝑳L 𝑴M 𝑵N 𝑶O 𝑷P 𝑸Q 𝑹R 𝑺S 𝑻T 𝑼U 𝑽V 𝑾W 𝑿X 𝒀Y 𝒁Z",
  "𝒂a 𝒃b 𝒄c 𝒅d 𝒆e 𝒇f 𝒈g 𝒉h 𝒊i 𝒋j 𝒌k 𝒍l 𝒎m 𝒏n 𝒐o 𝒑p 𝒒q 𝒓r 𝒔s 𝒕t 𝒖u 𝒗v 𝒘w 𝒙x 𝒚y 𝒛z 𝒜A 𝒞C 𝒟D 𝒢G",
  "𝒥J 𝒦K 𝒩N 𝒪O 𝒫P 𝒬Q 𝒮S 𝒯T 𝒰U 𝒱V 𝒲W 𝒳X 𝒴Y 𝒵Z 𝒶a 𝒷b 𝒸c 𝒹d 𝒻f 𝒽h 𝒾i 𝒿j 𝓀k 𝓁l 𝓂m 𝓃n 𝓅p 𝓆q 𝓇r 𝓈s",
  "𝓉t 𝓊u 𝓋v 𝓌w 𝓍x 𝓎y 𝓏z 𝓐A 𝓑B 𝓒C 𝓓D 𝓔E 𝓕F 𝓖G 𝓗H 𝓘I 𝓙J 𝓚K 𝓛L 𝓜M 𝓝N 𝓞O 𝓟P 𝓠Q 𝓡R 𝓢S 𝓣T 𝓤U 𝓥V 𝓦W",
  "𝓧X 𝓨Y 𝓩Z 𝓪a 𝓫b 𝓬c 𝓭d 𝓮e 𝓯f 𝓰g 𝓱h 𝓲i 𝓳j 𝓴k 𝓵l 𝓶m 𝓷n 𝓸o 𝓹p 𝓺q 𝓻r 𝓼s 𝓽t 𝓾u 𝓿v 𝔀w 𝔁x 𝔂y 𝔃z 𝔄A",
  "𝔅B 𝔇D 𝔈E 𝔉F 𝔊G 𝔍J 𝔎K 𝔏L 𝔐M 𝔑N 𝔒O 𝔓P 𝔔Q 𝔖S 𝔗T 𝔘U 𝔙V 𝔚W 𝔛X 𝔜Y 𝔞a 𝔟b 𝔠c 𝔡d 𝔢e 𝔣f 𝔤g 𝔥h 𝔦i 𝔧j",
  "𝔨k 𝔩l 𝔪m 𝔫n 𝔬o 𝔭p 𝔮q 𝔯r 𝔰s 𝔱t 𝔲u 𝔳v 𝔴w 𝔵x 𝔶y 𝔷z 𝔸A 𝔹B 𝔻D 𝔼E 𝔽F 𝔾G 𝕀I 𝕁J 𝕂K 𝕃L 𝕄M 𝕆O 𝕊S 𝕋T",
  "𝕌U 𝕍V 𝕎W 𝕏X 𝕐Y 𝕒a 𝕓b 𝕔c 𝕕d 𝕖e 𝕗f 𝕘g 𝕙h 𝕚i 𝕛j 𝕜k 𝕝l 𝕞m 𝕟n 𝕠o 𝕡p 𝕢q 𝕣r 𝕤s 𝕥t 𝕦u 𝕧v 𝕨w 𝕩x 𝕪y",
  "𝕫z 𝕬A 𝕭B 𝕮C 𝕯D 𝕰E 𝕱F 𝕲G 𝕳H 𝕴I 𝕵J 𝕶K 𝕷L 𝕸M 𝕹N 𝕺O 𝕻P 𝕼Q 𝕽R 𝕾S 𝕿T 𝖀U 𝖁V 𝖂W 𝖃X 𝖄Y 𝖅Z 𝖆a 𝖇b 𝖈c",
  "𝖉d 𝖊e 𝖋f 𝖌g 𝖍h 𝖎i 𝖏j 𝖐k 𝖑l 𝖒m 𝖓n 𝖔o 𝖕p 𝖖q 𝖗r 𝖘s 𝖙t 𝖚u 𝖛v 𝖜w 𝖝x 𝖞y 𝖟z 𝖠A 𝖡B 𝖢C 𝖣D 𝖤E 𝖥F 𝖦G",
  "𝖧H 𝖨I 𝖩J 𝖪K 𝖫L 𝖬M 𝖭N 𝖮O 𝖯P 𝖰Q 𝖱R 𝖲S 𝖳T 𝖴U 𝖵V 𝖶W 𝖷X 𝖸Y 𝖹Z 𝖺a 𝖻b 𝖼c 𝖽d 𝖾e 𝖿f 𝗀g 𝗁h 𝗂i 𝗃j 𝗄k",
  "𝗅l 𝗆m 𝗇n 𝗈o 𝗉p 𝗊q 𝗋r 𝗌s 𝗍t 𝗎u 𝗏v 𝗐w 𝗑x 𝗒y 𝗓z 𝗔A 𝗕B 𝗖C 𝗗D 𝗘E 𝗙F 𝗚G 𝗛H 𝗜I 𝗝J 𝗞K 𝗟L 𝗠M 𝗡N 𝗢O",
  "𝗣P 𝗤Q 𝗥R 𝗦S 𝗧T 𝗨U 𝗩V 𝗪W 𝗫X 𝗬Y 𝗭Z 𝗮a 𝗯b 𝗰c 𝗱d 𝗲e 𝗳f 𝗴g 𝗵h 𝗶i 𝗷j 𝗸k 𝗹l 𝗺m 𝗻n 𝗼o 𝗽p 𝗾q 𝗿r 𝘀s",
  "𝘁t 𝘂u 𝘃v 𝘄w 𝘅x 𝘆y 𝘇z 𝘈A 𝘉B 𝘊C 𝘋D 𝘌E 𝘍F 𝘎G 𝘏H 𝘐I 𝘑J 𝘒K 𝘓L 𝘔M 𝘕N 𝘖O 𝘗P 𝘘Q 𝘙R 𝘚S 𝘛T 𝘜U 𝘝V 𝘞W",
  "𝘟X 𝘠Y 𝘡Z 𝘢a 𝘣b 𝘤c 𝘥d 𝘦e 𝘧f 𝘨g 𝘩h 𝘪i 𝘫j 𝘬k 𝘭l 𝘮m 𝘯n 𝘰o 𝘱p 𝘲q 𝘳r 𝘴s 𝘵t 𝘶u 𝘷v 𝘸w 𝘹x 𝘺y 𝘻z 𝘼A",
  "𝘽B 𝘾C 𝘿D 𝙀E 𝙁F 𝙂G 𝙃H 𝙄I 𝙅J 𝙆K 𝙇L 𝙈M 𝙉N 𝙊O 𝙋P 𝙌Q 𝙍R 𝙎S 𝙏T 𝙐U 𝙑V 𝙒W 𝙓X 𝙔Y 𝙕Z 𝙖a 𝙗b 𝙘c 𝙙d 𝙚e",
  "𝙛f 𝙜g 𝙝h 𝙞i 𝙟j 𝙠k 𝙡l 𝙢m 𝙣n 𝙤o 𝙥p 𝙦q 𝙧r 𝙨s 𝙩t 𝙪u 𝙫v 𝙬w 𝙭x 𝙮y 𝙯z 𝙰A 𝙱B 𝙲C 𝙳D 𝙴E 𝙵F 𝙶G 𝙷H 𝙸I",
  "𝙹J 𝙺K 𝙻L 𝙼M 𝙽N 𝙾O 𝙿P 𝚀Q 𝚁R 𝚂S 𝚃T 𝚄U 𝚅V 𝚆W 𝚇X 𝚈Y 𝚉Z 𝚊a 𝚋b 𝚌c 𝚍d 𝚎e 𝚏f 𝚐g 𝚑h 𝚒i 𝚓j 𝚔k 𝚕l 𝚖m",
  "𝚗n 𝚘o 𝚙p 𝚚q 𝚛r 𝚜s 𝚝t 𝚞u 𝚟v 𝚠w 𝚡x 𝚢y 𝚣z 𝚤ı 𝚥ȷ 𝚨Α 𝚩Β 𝚪Γ 𝚫Δ 𝚬Ε 𝚭Ζ 𝚮Η 𝚯Θ 𝚰Ι 𝚱Κ 𝚲Λ 𝚳Μ 𝚴Ν 𝚵Ξ 𝚶Ο",
  "𝚷Π 𝚸Ρ 𝚹Θ 𝚺Σ 𝚻Τ 𝚼Υ 𝚽Φ 𝚾Χ 𝚿Ψ 𝛀Ω 𝛂α 𝛃β 𝛄γ 𝛅δ 𝛆ε 𝛇ζ 𝛈η 𝛉θ 𝛊ι 𝛋κ 𝛌λ 𝛍μ 𝛎ν 𝛏ξ 𝛐ο 𝛑π 𝛒ρ 𝛓ς 𝛔σ 𝛕τ",
  "𝛖υ 𝛗φ 𝛘χ 𝛙ψ 𝛚ω 𝛜ε 𝛝θ 𝛞κ 𝛟φ 𝛠ρ 𝛡π 𝛢Α 𝛣Β 𝛤Γ 𝛥Δ 𝛦Ε 𝛧Ζ 𝛨Η 𝛩Θ 𝛪Ι 𝛫Κ 𝛬Λ 𝛭Μ 𝛮Ν 𝛯Ξ 𝛰Ο 𝛱Π 𝛲Ρ 𝛳Θ 𝛴Σ",
  "𝛵Τ 𝛶Υ 𝛷Φ 𝛸Χ 𝛹Ψ 𝛺Ω 𝛼α 𝛽β 𝛾γ 𝛿δ 𝜀ε 𝜁ζ 𝜂η 𝜃θ 𝜄ι 𝜅κ 𝜆λ 𝜇μ 𝜈ν 𝜉ξ 𝜊ο 𝜋π 𝜌ρ 𝜍ς 𝜎σ 𝜏τ 𝜐υ 𝜑φ 𝜒χ 𝜓ψ",
  "𝜔ω 𝜖ε 𝜗θ 𝜘κ 𝜙φ 𝜚ρ 𝜛π 𝜜Α 𝜝Β 𝜞Γ 𝜟Δ 𝜠Ε 𝜡Ζ 𝜢Η 𝜣Θ 𝜤Ι 𝜥Κ 𝜦Λ 𝜧Μ 𝜨Ν 𝜩Ξ 𝜪Ο 𝜫Π 𝜬Ρ 𝜭Θ 𝜮Σ 𝜯Τ 𝜰Υ 𝜱Φ 𝜲Χ",
  "𝜳Ψ 𝜴Ω 𝜶α 𝜷β 𝜸γ 𝜹δ 𝜺ε 𝜻ζ 𝜼η 𝜽θ 𝜾ι 𝜿κ 𝝀λ 𝝁μ 𝝂ν 𝝃ξ 𝝄ο 𝝅π 𝝆ρ 𝝇ς 𝝈σ 𝝉τ 𝝊υ 𝝋φ 𝝌χ 𝝍ψ 𝝎ω 𝝐ε 𝝑θ 𝝒κ",
  "𝝓φ 𝝔ρ 𝝕π 𝝖Α 𝝗Β 𝝘Γ 𝝙Δ 𝝚Ε 𝝛Ζ 𝝜Η 𝝝Θ 𝝞Ι 𝝟Κ 𝝠Λ 𝝡Μ 𝝢Ν 𝝣Ξ 𝝤Ο 𝝥Π 𝝦Ρ 𝝧Θ 𝝨Σ 𝝩Τ 𝝪Υ 𝝫Φ 𝝬Χ 𝝭Ψ 𝝮Ω 𝝰α 𝝱β",
  "𝝲γ 𝝳δ 𝝴ε 𝝵ζ 𝝶η 𝝷θ 𝝸ι 𝝹κ 𝝺λ 𝝻μ 𝝼ν 𝝽ξ 𝝾ο 𝝿π 𝞀ρ 𝞁ς 𝞂σ 𝞃τ 𝞄υ 𝞅φ 𝞆χ 𝞇ψ 𝞈ω 𝞊ε 𝞋θ 𝞌κ 𝞍φ 𝞎ρ 𝞏π 𝞐Α",
  "𝞑Β 𝞒Γ 𝞓Δ 𝞔Ε 𝞕Ζ 𝞖Η 𝞗Θ 𝞘Ι 𝞙Κ 𝞚Λ 𝞛Μ 𝞜Ν 𝞝Ξ 𝞞Ο 𝞟Π 𝞠Ρ 𝞡Θ 𝞢Σ 𝞣Τ 𝞤Υ 𝞥Φ 𝞦Χ 𝞧Ψ 𝞨Ω 𝞪α 𝞫β 𝞬γ 𝞭δ 𝞮ε 𝞯ζ",
  "𝞰η 𝞱θ 𝞲ι 𝞳κ 𝞴λ 𝞵μ 𝞶ν 𝞷ξ 𝞸ο 𝞹π 𝞺ρ 𝞻ς 𝞼σ 𝞽τ 𝞾υ 𝞿φ 𝟀χ 𝟁ψ 𝟂ω 𝟄ε 𝟅θ 𝟆κ 𝟇φ 𝟈ρ 𝟉π 𝟊Ϝ 𝟋ϝ 𝟎0 𝟏1 𝟐2",
  "𝟑3 𝟒4 𝟓5 𝟔6 𝟕7 𝟖8 𝟗9 𝟘0 𝟙1 𝟚2 𝟛3 𝟜4 𝟝5 𝟞6 𝟟7 𝟠8 𝟡9 𝟢0 𝟣1 𝟤2 𝟥3 𝟦4 𝟧5 𝟨6 𝟩7 𝟪8 𝟫9 𝟬0 𝟭1 𝟮2",
  "𝟯3 𝟰4 𝟱5 𝟲6 𝟳7 𝟴8 𝟵9 𝟶0 𝟷1 𝟸2 𝟹3 𝟺4 𝟻5 𝟼6 𝟽7 𝟾8 𝟿9 𞸀\u0627 𞸁\u0628 𞸂\u062c 𞸃\u062f 𞸅\u0648",
  "𞸆\u0632 𞸇\u062d 𞸈\u0637 𞸉\u064a 𞸊\u0643 𞸋\u0644 𞸌\u0645 𞸍\u0646 𞸎\u0633 𞸏\u0639 𞸐\u0641",
  "𞸑\u0635 𞸒\u0642 𞸓\u0631 𞸔\u0634 𞸕\u062a 𞸖\u062b 𞸗\u062e 𞸘\u0630 𞸙\u0636 𞸚\u0638 𞸛\u063a",
  "𞸜\u066e 𞸝\u06ba 𞸞\u06a1 𞸟\u066f 𞸡\u0628 𞸢\u062c 𞸤\u0647 𞸧\u062d 𞸩\u064a 𞸪\u0643 𞸫\u0644",
  "𞸬\u0645 𞸭\u0646 𞸮\u0633 𞸯\u0639 𞸰\u0641 𞸱\u0635 𞸲\u0642 𞸴\u0634 𞸵\u062a 𞸶\u062b 𞸷\u062e",
  "𞸹\u0636 𞸻\u063a 𞹂\u062c 𞹇\u062d 𞹉\u064a 𞹋\u0644 𞹍\u0646 𞹎\u0633 𞹏\u0639 𞹑\u0635 𞹒\u0642",
  "𞹔\u0634 𞹗\u062e 𞹙\u0636 𞹛\u063a 𞹝\u06ba 𞹟\u066f 𞹡\u0628 𞹢\u062c 𞹤\u0647 𞹧\u062d 𞹨\u0637",
  "𞹩\u064a 𞹪\u0643 𞹬\u0645 𞹭\u0646 𞹮\u0633 𞹯\u0639 𞹰\u0641 𞹱\u0635 𞹲\u0642 𞹴\u0634 𞹵\u062a",
  "𞹶\u062b 𞹷\u062e 𞹹\u0636 𞹺\u0638 𞹻\u063a 𞹼\u066e 𞹾\u06a1 𞺀\u0627 𞺁\u0628 𞺂\u062c 𞺃\u062f",
  "𞺄\u0647 𞺅\u0648 𞺆\u0632 𞺇\u062d 𞺈\u0637 𞺉\u064a 𞺋\u0644 𞺌\u0645 𞺍\u0646 𞺎\u0633 𞺏\u0639",
  "𞺐\u0641 𞺑\u0635 𞺒\u0642 𞺓\u0631 𞺔\u0634 𞺕\u062a 𞺖\u062b 𞺗\u062e 𞺘\u0630 𞺙\u0636 𞺚\u0638",
  "𞺛\u063a 𞺡\u0628 𞺢\u062c 𞺣\u062f 𞺥\u0648 𞺦\u0632 𞺧\u062d 𞺨\u0637 𞺩\u064a 𞺫\u0644 𞺬\u0645",
  "𞺭\u0646 𞺮\u0633 𞺯\u0639 𞺰\u0641 𞺱\u0635 𞺲\u0642 𞺳\u0631 𞺴\u0634 𞺵\u062a 𞺶\u062b 𞺷\u062e",
  "𞺸\u0630 𞺹\u0636 𞺺\u0638 𞺻\u063a 🯰0 🯱1 🯲2 🯳3 🯴4 🯵5 🯶6 🯷7 🯸8 🯹9 丽丽 丸丸 乁乁 𠄢𠄢 你你 侮侮 侻侻 倂倂 偺偺 備備",
  "僧僧 像像 㒞㒞 𠘺𠘺 免免 兔兔 兤兤 具具 𠔜𠔜 㒹㒹 內內 再再 𠕋𠕋 冗冗 冤冤 仌仌 冬冬 况况 𩇟𩇟 凵凵 刃刃 㓟㓟 刻刻 剆剆 割割 剷剷 㔕㔕 勇勇 勉勉 勤勤",
  "勺勺 包包 匆匆 北北 卉卉 卑卑 博博 即即 卽卽 卿卿 卿卿 卿卿 𠨬𠨬 灰灰 及及 叟叟 𠭣𠭣 叫叫 叱叱 吆吆 咞咞 吸吸 呈呈 周周 咢咢 哶哶 唐唐 啓啓 啣啣 善善",
  "善善 喙喙 喫喫 喳喳 嗂嗂 圖圖 嘆嘆 圗圗 噑噑 噴噴 切切 壮壮 城城 埴埴 堍堍 型型 堲堲 報報 墬墬 𡓤𡓤 売売 壷壷 夆夆 多多 夢夢 奢奢 𡚨𡚨 𡛪𡛪 姬姬 娛娛",
  "娧娧 姘姘 婦婦 㛮㛮 㛼㛼 嬈嬈 嬾嬾 嬾嬾 𡧈𡧈 寃寃 寘寘 寧寧 寳寳 𡬘𡬘 寿寿 将将 当当 尢尢 㞁㞁 屠屠 屮屮 峀峀 岍岍 𡷤𡷤 嵃嵃 𡷦𡷦 嵮嵮 嵫嵫 嵼嵼 巡巡",
  "巢巢 㠯㠯 巽巽 帨帨 帽帽 幩幩 㡢㡢 𢆃𢆃 㡼㡼 庰庰 庳庳 庶庶 廊廊 𪎒𪎒 廾廾 𢌱𢌱 𢌱𢌱 舁舁 弢弢 弢弢 㣇㣇 𣊸𣊸 𦇚𦇚 形形 彫彫 㣣㣣 徚徚 忍忍 志志 忹忹",
  "悁悁 㤺㤺 㤜㤜 悔悔 𢛔𢛔 惇惇 慈慈 慌慌 慎慎 慌慌 慺慺 憎憎 憲憲 憤憤 憯憯 懞懞 懲懲 懶懶 成成 戛戛 扝扝 抱抱 拔拔 捐捐 𢬌𢬌 挽挽 拼拼 捨捨 掃掃 揤揤",
  "𢯱𢯱 搢搢 揅揅 掩掩 㨮㨮 摩摩 摾摾 撝撝 摷摷 㩬㩬 敏敏 敬敬 𣀊𣀊 旣旣 書書 晉晉 㬙㬙 暑暑 㬈㬈 㫤㫤 冒冒 冕冕 最最 暜暜 肭肭 䏙䏙 朗朗 望望 朡朡 杞杞",
  "杓杓 𣏃𣏃 㭉㭉 柺柺 枅枅 桒桒 梅梅 𣑭𣑭 梎梎 栟栟 椔椔 㮝㮝 楂楂 榣榣 槪槪 檨檨 𣚣𣚣 櫛櫛 㰘㰘 次次 𣢧𣢧 歔歔 㱎㱎 歲歲 殟殟 殺殺 殻殻 𣪍𣪍 𡴋𡴋 𣫺𣫺",
  "汎汎 𣲼𣲼 沿沿 泍泍 汧汧 洖洖 派派 海海 流流 浩浩 浸浸 涅涅 𣴞𣴞 洴洴 港港 湮湮 㴳㴳 滋滋 滇滇 𣻑𣻑 淹淹 潮潮 𣽞𣽞 𣾎𣾎 濆濆 瀹瀹 瀞瀞 瀛瀛 㶖㶖 灊灊",
  "災災 灷灷 炭炭 𠔥𠔥 煅煅 𤉣𤉣 熜熜 𤎫𤎫 爨爨 爵爵 牐牐 𤘈𤘈 犀犀 犕犕 𤜵𤜵 𤠔𤠔 獺獺 王王 㺬㺬 玥玥 㺸㺸 㺸㺸 瑇瑇 瑜瑜 瑱瑱 璅璅 瓊瓊 㼛㼛 甤甤 𤰶𤰶",
  "甾甾 𤲒𤲒 異異 𢆟𢆟 瘐瘐 𤾡𤾡 𤾸𤾸 𥁄𥁄 㿼㿼 䀈䀈 直直 𥃳𥃳 𥃲𥃲 𥄙𥄙 𥄳𥄳 眞眞 真真 真真 睊睊 䀹䀹 瞋瞋 䁆䁆 䂖䂖 𥐝𥐝 硎硎 碌碌 磌磌 䃣䃣 𥘦𥘦 祖祖",
  "𥚚𥚚 𥛅𥛅 福福 秫秫 䄯䄯 穀穀 穊穊 穏穏 𥥼𥥼 𥪧𥪧 𥪧𥪧 竮竮 䈂䈂 𥮫𥮫 篆篆 築築 䈧䈧 𥲀𥲀 糒糒 䊠䊠 糨糨 糣糣 紀紀 𥾆𥾆 絣絣 䌁䌁 緇緇 縂縂 繅繅 䌴䌴",
  "𦈨𦈨 𦉇𦉇 䍙䍙 𦋙𦋙 罺罺 𦌾𦌾 羕羕 翺翺 者者 𦓚𦓚 𦔣𦔣 聠聠 𦖨𦖨 聰聰 𣍟𣍟 䏕䏕 育育 脃脃 䐋䐋 脾脾 媵媵 𦞧𦞧 𦞵𦞵 𣎓𣎓 𣎜𣎜 舁舁 舄舄 辞辞 䑫䑫 芑芑",
  "芋芋 芝芝 劳劳 花花 芳芳 芽芽 苦苦 𦬼𦬼 若若 茝茝 荣荣 莭莭 茣茣 莽莽 菧菧 著著 荓荓 菊菊 菌菌 菜菜 𦰶𦰶 𦵫𦵫 𦳕𦳕 䔫䔫 蓱蓱 蓳蓳 蔖蔖 𧏊𧏊 蕤蕤 𦼬𦼬",
  "䕝䕝 䕡䕡 𦾱𦾱 𧃒𧃒 䕫䕫 虐虐 虜虜 虧虧 虩虩 蚩蚩 蚈蚈 蜎蜎 蛢蛢 蝹蝹 蜨蜨 蝫蝫 螆螆 䗗䗗 蟡蟡 蠁蠁 䗹䗹 衠衠 衣衣 𧙧𧙧 裗裗 裞裞 䘵䘵 裺裺 㒻㒻 𧢮𧢮",
  "𧥦𧥦 䚾䚾 䛇䛇 誠誠 諭諭 變變 豕豕 𧲨𧲨 貫貫 賁賁 贛贛 起起 𧼯𧼯 𠠄𠠄 跋跋 趼趼 跰跰 𠣞𠣞 軔軔 輸輸 𨗒𨗒 𨗭𨗭 邔邔 郱郱 鄑鄑 𨜮𨜮 鄛鄛 鈸鈸 鋗鋗 鋘鋘",
  "鉼鉼 鏹鏹 鐕鐕 𨯺𨯺 開開 䦕䦕 閷閷 𨵷𨵷 䧦䧦 雃雃 嶲嶲 霣霣 𩅅𩅅 𩈚𩈚 䩮䩮 䩶䩶 韠韠 𩐊𩐊 䪲䪲 𩒖𩒖 頋頋 頋頋 頩頩 𩖶𩖶 飢飢 䬳䬳 餩餩 馧馧 駂駂 駾駾",
  "䯎䯎 𩬰𩬰 鬒鬒 鱀鱀 鳽鳽 䳎䳎 䳭䳭 鵧鵧 𪃎𪃎 䳸䳸 𪄅𪄅 𪈎𪈎 𪊑𪊑 麻麻 䵖䵖 黹黹 黾黾 鼅鼅 鼏鼏 鼖鼖 鼻鼻 𪘀𪘀"]

/-- Each character with its decomposition behind it. -/
def decompositions : List (List Char) :=
  ((decompositionLinesA ++ decompositionLinesB ++ decompositionLinesC).flatMap (·.splitOn " ")).map String.toList

private def compositionLinesA : List String := [
  "ÀA\u0300 ÁA\u0301 ÂA\u0302 ÃA\u0303 ÄA\u0308 ÅA\u030a ÇC\u0327 ÈE\u0300 ÉE\u0301 ÊE\u0302",
  "ËE\u0308 ÌI\u0300 ÍI\u0301 ÎI\u0302 ÏI\u0308 ÑN\u0303 ÒO\u0300 ÓO\u0301 ÔO\u0302 ÕO\u0303",
  "ÖO\u0308 ÙU\u0300 ÚU\u0301 ÛU\u0302 ÜU\u0308 ÝY\u0301 àa\u0300 áa\u0301 âa\u0302 ãa\u0303",
  "äa\u0308 åa\u030a çc\u0327 èe\u0300 ée\u0301 êe\u0302 ëe\u0308 ìi\u0300 íi\u0301 îi\u0302",
  "ïi\u0308 ñn\u0303 òo\u0300 óo\u0301 ôo\u0302 õo\u0303 öo\u0308 ùu\u0300 úu\u0301 ûu\u0302",
  "üu\u0308 ýy\u0301 ÿy\u0308 ĀA\u0304 āa\u0304 ĂA\u0306 ăa\u0306 ĄA\u0328 ąa\u0328 ĆC\u0301",
  "ćc\u0301 ĈC\u0302 ĉc\u0302 ĊC\u0307 ċc\u0307 ČC\u030c čc\u030c ĎD\u030c ďd\u030c ĒE\u0304",
  "ēe\u0304 ĔE\u0306 ĕe\u0306 ĖE\u0307 ėe\u0307 ĘE\u0328 ęe\u0328 ĚE\u030c ěe\u030c ĜG\u0302",
  "ĝg\u0302 ĞG\u0306 ğg\u0306 ĠG\u0307 ġg\u0307 ĢG\u0327 ģg\u0327 ĤH\u0302 ĥh\u0302 ĨI\u0303",
  "ĩi\u0303 ĪI\u0304 īi\u0304 ĬI\u0306 ĭi\u0306 ĮI\u0328 įi\u0328 İI\u0307 ĴJ\u0302 ĵj\u0302",
  "ĶK\u0327 ķk\u0327 ĹL\u0301 ĺl\u0301 ĻL\u0327 ļl\u0327 ĽL\u030c ľl\u030c ŃN\u0301 ńn\u0301",
  "ŅN\u0327 ņn\u0327 ŇN\u030c ňn\u030c ŌO\u0304 ōo\u0304 ŎO\u0306 ŏo\u0306 ŐO\u030b őo\u030b",
  "ŔR\u0301 ŕr\u0301 ŖR\u0327 ŗr\u0327 ŘR\u030c řr\u030c ŚS\u0301 śs\u0301 ŜS\u0302 ŝs\u0302",
  "ŞS\u0327 şs\u0327 ŠS\u030c šs\u030c ŢT\u0327 ţt\u0327 ŤT\u030c ťt\u030c ŨU\u0303 ũu\u0303",
  "ŪU\u0304 ūu\u0304 ŬU\u0306 ŭu\u0306 ŮU\u030a ůu\u030a ŰU\u030b űu\u030b ŲU\u0328 ųu\u0328",
  "ŴW\u0302 ŵw\u0302 ŶY\u0302 ŷy\u0302 ŸY\u0308 ŹZ\u0301 źz\u0301 ŻZ\u0307 żz\u0307 ŽZ\u030c",
  "žz\u030c ƠO\u031b ơo\u031b ƯU\u031b ưu\u031b ǍA\u030c ǎa\u030c ǏI\u030c ǐi\u030c ǑO\u030c",
  "ǒo\u030c ǓU\u030c ǔu\u030c ǕÜ\u0304 ǖü\u0304 ǗÜ\u0301 ǘü\u0301 ǙÜ\u030c ǚü\u030c ǛÜ\u0300",
  "ǜü\u0300 ǞÄ\u0304 ǟä\u0304 ǠȦ\u0304 ǡȧ\u0304 ǢÆ\u0304 ǣæ\u0304 ǦG\u030c ǧg\u030c ǨK\u030c",
  "ǩk\u030c ǪO\u0328 ǫo\u0328 ǬǪ\u0304 ǭǫ\u0304 ǮƷ\u030c ǯʒ\u030c ǰj\u030c ǴG\u0301 ǵg\u0301",
  "ǸN\u0300 ǹn\u0300 ǺÅ\u0301 ǻå\u0301 ǼÆ\u0301 ǽæ\u0301 ǾØ\u0301 ǿø\u0301 ȀA\u030f ȁa\u030f",
  "ȂA\u0311 ȃa\u0311 ȄE\u030f ȅe\u030f ȆE\u0311 ȇe\u0311 ȈI\u030f ȉi\u030f ȊI\u0311 ȋi\u0311",
  "ȌO\u030f ȍo\u030f ȎO\u0311 ȏo\u0311 ȐR\u030f ȑr\u030f ȒR\u0311 ȓr\u0311 ȔU\u030f ȕu\u030f",
  "ȖU\u0311 ȗu\u0311 ȘS\u0326 șs\u0326 ȚT\u0326 țt\u0326 ȞH\u030c ȟh\u030c ȦA\u0307 ȧa\u0307",
  "ȨE\u0327 ȩe\u0327 ȪÖ\u0304 ȫö\u0304 ȬÕ\u0304 ȭõ\u0304 ȮO\u0307 ȯo\u0307 ȰȮ\u0304 ȱȯ\u0304",
  "ȲY\u0304 ȳy\u0304 ΅¨\u0301 ΆΑ\u0301 ΈΕ\u0301 ΉΗ\u0301 ΊΙ\u0301 ΌΟ\u0301 ΎΥ\u0301 ΏΩ\u0301",
  "ΐϊ\u0301 ΪΙ\u0308 ΫΥ\u0308 άα\u0301 έε\u0301 ήη\u0301 ίι\u0301 ΰϋ\u0301 ϊι\u0308 ϋυ\u0308",
  "όο\u0301 ύυ\u0301 ώω\u0301 ϓϒ\u0301 ϔϒ\u0308 ЀЕ\u0300 ЁЕ\u0308 ЃГ\u0301 ЇІ\u0308 ЌК\u0301",
  "ЍИ\u0300 ЎУ\u0306 ЙИ\u0306 йи\u0306 ѐе\u0300 ёе\u0308 ѓг\u0301 їі\u0308 ќк\u0301 ѝи\u0300",
  "ўу\u0306 ѶѴ\u030f ѷѵ\u030f ӁЖ\u0306 ӂж\u0306 ӐА\u0306 ӑа\u0306 ӒА\u0308 ӓа\u0308 ӖЕ\u0306",
  "ӗе\u0306 ӚӘ\u0308 ӛә\u0308 ӜЖ\u0308 ӝж\u0308 ӞЗ\u0308 ӟз\u0308 ӢИ\u0304 ӣи\u0304 ӤИ\u0308",
  "ӥи\u0308 ӦО\u0308 ӧо\u0308 ӪӨ\u0308 ӫө\u0308 ӬЭ\u0308 ӭэ\u0308 ӮУ\u0304 ӯу\u0304 ӰУ\u0308",
  "ӱу\u0308 ӲУ\u030b ӳу\u030b ӴЧ\u0308 ӵч\u0308 ӸЫ\u0308 ӹы\u0308 \u0622\u0627\u0653",
  "\u0623\u0627\u0654 \u0624\u0648\u0654 \u0625\u0627\u0655 \u0626\u064a\u0654",
  "\u06c0\u06d5\u0654 \u06c2\u06c1\u0654 \u06d3\u06d2\u0654 ऩन\u093c ऱर\u093c ऴळ\u093c",
  "\u09cb\u09c7\u09be \u09cc\u09c7\u09d7 \u0b48\u0b47\u0b56 \u0b4b\u0b47\u0b3e",
  "\u0b4c\u0b47\u0b57 ஔஒ\u0bd7 \u0bca\u0bc6\u0bbe \u0bcb\u0bc7\u0bbe \u0bcc\u0bc6\u0bd7",
  "\u0c48\u0c46\u0c56 \u0cc0\u0cbf\u0cd5 \u0cc7\u0cc6\u0cd5 \u0cc8\u0cc6\u0cd6",
  "\u0cca\u0cc6\u0cc2 \u0ccb\u0cca\u0cd5 \u0d4a\u0d46\u0d3e \u0d4b\u0d47\u0d3e",
  "\u0d4c\u0d46\u0d57 \u0dda\u0dd9\u0dca \u0ddc\u0dd9\u0dcf \u0ddd\u0ddc\u0dca",
  "\u0dde\u0dd9\u0ddf ဦဥ\u102e ᬆᬅ\u1b35 ᬈᬇ\u1b35 ᬊᬉ\u1b35 ᬌᬋ\u1b35 ᬎᬍ\u1b35 ᬒᬑ\u1b35",
  "\u1b3b\u1b3a\u1b35 \u1b3d\u1b3c\u1b35 \u1b40\u1b3e\u1b35 \u1b41\u1b3f\u1b35",
  "\u1b43\u1b42\u1b35 ḀA\u0325 ḁa\u0325 ḂB\u0307 ḃb\u0307 ḄB\u0323 ḅb\u0323 ḆB\u0331 ḇb\u0331",
  "ḈÇ\u0301 ḉç\u0301 ḊD\u0307 ḋd\u0307 ḌD\u0323 ḍd\u0323 ḎD\u0331 ḏd\u0331 ḐD\u0327 ḑd\u0327",
  "ḒD\u032d ḓd\u032d ḔĒ\u0300 ḕē\u0300 ḖĒ\u0301 ḗē\u0301 ḘE\u032d ḙe\u032d ḚE\u0330 ḛe\u0330",
  "ḜȨ\u0306 ḝȩ\u0306 ḞF\u0307 ḟf\u0307 ḠG\u0304 ḡg\u0304 ḢH\u0307 ḣh\u0307 ḤH\u0323 ḥh\u0323",
  "ḦH\u0308 ḧh\u0308 ḨH\u0327 ḩh\u0327 ḪH\u032e ḫh\u032e ḬI\u0330 ḭi\u0330 ḮÏ\u0301 ḯï\u0301",
  "ḰK\u0301 ḱk\u0301 ḲK\u0323 ḳk\u0323 ḴK\u0331 ḵk\u0331 ḶL\u0323 ḷl\u0323 ḸḶ\u0304 ḹḷ\u0304",
  "ḺL\u0331 ḻl\u0331 ḼL\u032d ḽl\u032d ḾM\u0301 ḿm\u0301 ṀM\u0307 ṁm\u0307 ṂM\u0323 ṃm\u0323",
  "ṄN\u0307 ṅn\u0307 ṆN\u0323 ṇn\u0323 ṈN\u0331 ṉn\u0331 ṊN\u032d ṋn\u032d ṌÕ\u0301 ṍõ\u0301",
  "ṎÕ\u0308 ṏõ\u0308 ṐŌ\u0300 ṑō\u0300 ṒŌ\u0301 ṓō\u0301 ṔP\u0301 ṕp\u0301 ṖP\u0307 ṗp\u0307",
  "ṘR\u0307 ṙr\u0307 ṚR\u0323 ṛr\u0323 ṜṚ\u0304 ṝṛ\u0304 ṞR\u0331 ṟr\u0331 ṠS\u0307 ṡs\u0307",
  "ṢS\u0323 ṣs\u0323 ṤŚ\u0307 ṥś\u0307 ṦŠ\u0307 ṧš\u0307 ṨṢ\u0307 ṩṣ\u0307 ṪT\u0307 ṫt\u0307",
  "ṬT\u0323 ṭt\u0323 ṮT\u0331 ṯt\u0331 ṰT\u032d ṱt\u032d ṲU\u0324 ṳu\u0324 ṴU\u0330 ṵu\u0330",
  "ṶU\u032d ṷu\u032d ṸŨ\u0301 ṹũ\u0301 ṺŪ\u0308 ṻū\u0308 ṼV\u0303 ṽv\u0303 ṾV\u0323 ṿv\u0323",
  "ẀW\u0300 ẁw\u0300 ẂW\u0301 ẃw\u0301 ẄW\u0308 ẅw\u0308 ẆW\u0307 ẇw\u0307 ẈW\u0323 ẉw\u0323",
  "ẊX\u0307 ẋx\u0307 ẌX\u0308 ẍx\u0308 ẎY\u0307 ẏy\u0307 ẐZ\u0302 ẑz\u0302 ẒZ\u0323 ẓz\u0323",
  "ẔZ\u0331 ẕz\u0331 ẖh\u0331 ẗt\u0308 ẘw\u030a ẙy\u030a ẛſ\u0307 ẠA\u0323 ạa\u0323 ẢA\u0309",
  "ảa\u0309 ẤÂ\u0301 ấâ\u0301 ẦÂ\u0300 ầâ\u0300 ẨÂ\u0309 ẩâ\u0309 ẪÂ\u0303 ẫâ\u0303 ẬẠ\u0302",
  "ậạ\u0302 ẮĂ\u0301 ắă\u0301 ẰĂ\u0300 ằă\u0300 ẲĂ\u0309 ẳă\u0309 ẴĂ\u0303 ẵă\u0303 ẶẠ\u0306",
  "ặạ\u0306 ẸE\u0323 ẹe\u0323 ẺE\u0309 ẻe\u0309 ẼE\u0303 ẽe\u0303 ẾÊ\u0301 ếê\u0301 ỀÊ\u0300",
  "ềê\u0300 ỂÊ\u0309 ểê\u0309 ỄÊ\u0303 ễê\u0303 ỆẸ\u0302 ệẹ\u0302 ỈI\u0309 ỉi\u0309 ỊI\u0323",
  "ịi\u0323 ỌO\u0323 ọo\u0323 ỎO\u0309 ỏo\u0309 ỐÔ\u0301 ốô\u0301 ỒÔ\u0300 ồô\u0300 ỔÔ\u0309",
  "ổô\u0309 ỖÔ\u0303 ỗô\u0303 ỘỌ\u0302 ộọ\u0302 ỚƠ\u0301 ớơ\u0301 ỜƠ\u0300 ờơ\u0300 ỞƠ\u0309",
  "ởơ\u0309 ỠƠ\u0303 ỡơ\u0303 ỢƠ\u0323 ợơ\u0323 ỤU\u0323 ụu\u0323 ỦU\u0309 ủu\u0309 ỨƯ\u0301",
  "ứư\u0301 ỪƯ\u0300 ừư\u0300 ỬƯ\u0309 ửư\u0309 ỮƯ\u0303 ữư\u0303 ỰƯ\u0323 ựư\u0323 ỲY\u0300",
  "ỳy\u0300 ỴY\u0323 ỵy\u0323 ỶY\u0309 ỷy\u0309 ỸY\u0303 ỹy\u0303 ἀα\u0313 ἁα\u0314 ἂἀ\u0300",
  "ἃἁ\u0300 ἄἀ\u0301 ἅἁ\u0301 ἆἀ\u0342 ἇἁ\u0342 ἈΑ\u0313 ἉΑ\u0314 ἊἈ\u0300 ἋἉ\u0300 ἌἈ\u0301",
  "ἍἉ\u0301 ἎἈ\u0342 ἏἉ\u0342 ἐε\u0313 ἑε\u0314 ἒἐ\u0300 ἓἑ\u0300 ἔἐ\u0301 ἕἑ\u0301 ἘΕ\u0313",
  "ἙΕ\u0314 ἚἘ\u0300 ἛἙ\u0300 ἜἘ\u0301 ἝἙ\u0301 ἠη\u0313 ἡη\u0314 ἢἠ\u0300 ἣἡ\u0300 ἤἠ\u0301",
  "ἥἡ\u0301 ἦἠ\u0342 ἧἡ\u0342 ἨΗ\u0313 ἩΗ\u0314 ἪἨ\u0300 ἫἩ\u0300 ἬἨ\u0301 ἭἩ\u0301 ἮἨ\u0342",
  "ἯἩ\u0342 ἰι\u0313 ἱι\u0314 ἲἰ\u0300 ἳἱ\u0300 ἴἰ\u0301 ἵἱ\u0301 ἶἰ\u0342 ἷἱ\u0342 ἸΙ\u0313",
  "ἹΙ\u0314 ἺἸ\u0300 ἻἹ\u0300 ἼἸ\u0301 ἽἹ\u0301 ἾἸ\u0342 ἿἹ\u0342 ὀο\u0313 ὁο\u0314 ὂὀ\u0300",
  "ὃὁ\u0300 ὄὀ\u0301 ὅὁ\u0301 ὈΟ\u0313 ὉΟ\u0314 ὊὈ\u0300 ὋὉ\u0300 ὌὈ\u0301 ὍὉ\u0301 ὐυ\u0313",
  "ὑυ\u0314 ὒὐ\u0300 ὓὑ\u0300 ὔὐ\u0301 ὕὑ\u0301 ὖὐ\u0342 ὗὑ\u0342 ὙΥ\u0314 ὛὙ\u0300 ὝὙ\u0301",
  "ὟὙ\u0342 ὠω\u0313 ὡω\u0314 ὢὠ\u0300 ὣὡ\u0300 ὤὠ\u0301 ὥὡ\u0301 ὦὠ\u0342 ὧὡ\u0342 ὨΩ\u0313",
  "ὩΩ\u0314 ὪὨ\u0300 ὫὩ\u0300 ὬὨ\u0301 ὭὩ\u0301 ὮὨ\u0342 ὯὩ\u0342 ὰα\u0300 ὲε\u0300 ὴη\u0300",
  "ὶι\u0300 ὸο\u0300 ὺυ\u0300 ὼω\u0300 ᾀἀ\u0345 ᾁἁ\u0345 ᾂἂ\u0345 ᾃἃ\u0345 ᾄἄ\u0345 ᾅἅ\u0345",
  "ᾆἆ\u0345 ᾇἇ\u0345 ᾈἈ\u0345 ᾉἉ\u0345 ᾊἊ\u0345 ᾋἋ\u0345 ᾌἌ\u0345 ᾍἍ\u0345 ᾎἎ\u0345 ᾏἏ\u0345",
  "ᾐἠ\u0345 ᾑἡ\u0345 ᾒἢ\u0345 ᾓἣ\u0345 ᾔἤ\u0345 ᾕἥ\u0345 ᾖἦ\u0345 ᾗἧ\u0345 ᾘἨ\u0345 ᾙἩ\u0345",
  "ᾚἪ\u0345 ᾛἫ\u0345 ᾜἬ\u0345 ᾝἭ\u0345 ᾞἮ\u0345 ᾟἯ\u0345 ᾠὠ\u0345 ᾡὡ\u0345 ᾢὢ\u0345 ᾣὣ\u0345",
  "ᾤὤ\u0345 ᾥὥ\u0345 ᾦὦ\u0345 ᾧὧ\u0345 ᾨὨ\u0345 ᾩὩ\u0345 ᾪὪ\u0345 ᾫὫ\u0345 ᾬὬ\u0345 ᾭὭ\u0345",
  "ᾮὮ\u0345 ᾯὯ\u0345 ᾰα\u0306 ᾱα\u0304 ᾲὰ\u0345 ᾳα\u0345 ᾴά\u0345 ᾶα\u0342 ᾷᾶ\u0345 ᾸΑ\u0306",
  "ᾹΑ\u0304 ᾺΑ\u0300 ᾼΑ\u0345 ῁¨\u0342 ῂὴ\u0345 ῃη\u0345 ῄή\u0345 ῆη\u0342 ῇῆ\u0345 ῈΕ\u0300",
  "ῊΗ\u0300 ῌΗ\u0345 ῍᾿\u0300 ῎᾿\u0301 ῏᾿\u0342 ῐι\u0306 ῑι\u0304 ῒϊ\u0300 ῖι\u0342 ῗϊ\u0342",
  "ῘΙ\u0306 ῙΙ\u0304 ῚΙ\u0300 ῝῾\u0300 ῞῾\u0301 ῟῾\u0342 ῠυ\u0306 ῡυ\u0304 ῢϋ\u0300 ῤρ\u0313",
  "ῥρ\u0314 ῦυ\u0342 ῧϋ\u0342 ῨΥ\u0306 ῩΥ\u0304 ῪΥ\u0300 ῬΡ\u0314 ῭¨\u0300 ῲὼ\u0345 ῳω\u0345",
  "ῴώ\u0345 ῶω\u0342 ῷῶ\u0345 ῸΟ\u0300 ῺΩ\u0300 ῼΩ\u0345 ↚←\u0338 ↛→\u0338 ↮↔\u0338 ⇍⇐\u0338",
  "⇎⇔\u0338 ⇏⇒\u0338 ∄∃\u0338 ∉∈\u0338 ∌∋\u0338 ∤∣\u0338 ∦∥\u0338 ≁∼\u0338 ≄≃\u0338 ≇≅\u0338",
  "≉≈\u0338 ≠=\u0338 ≢≡\u0338 ≭≍\u0338 ≮<\u0338 ≯>\u0338 ≰≤\u0338 ≱≥\u0338 ≴≲\u0338 ≵≳\u0338",
  "≸≶\u0338 ≹≷\u0338 ⊀≺\u0338 ⊁≻\u0338 ⊄⊂\u0338 ⊅⊃\u0338 ⊈⊆\u0338 ⊉⊇\u0338 ⊬⊢\u0338 ⊭⊨\u0338",
  "⊮⊩\u0338 ⊯⊫\u0338 ⋠≼\u0338 ⋡≽\u0338 ⋢⊑\u0338 ⋣⊒\u0338 ⋪⊲\u0338 ⋫⊳\u0338 ⋬⊴\u0338 ⋭⊵\u0338",
  "がか\u3099 ぎき\u3099 ぐく\u3099 げけ\u3099 ごこ\u3099 ざさ\u3099 じし\u3099 ずす\u3099 ぜせ\u3099 ぞそ\u3099",
  "だた\u3099 ぢち\u3099 づつ\u3099 でて\u3099 どと\u3099 ばは\u3099 ぱは\u309a びひ\u3099 ぴひ\u309a ぶふ\u3099",
  "ぷふ\u309a べへ\u3099 ぺへ\u309a ぼほ\u3099 ぽほ\u309a ゔう\u3099 ゞゝ\u3099 ガカ\u3099 ギキ\u3099 グク\u3099",
  "ゲケ\u3099 ゴコ\u3099 ザサ\u3099 ジシ\u3099 ズス\u3099 ゼセ\u3099 ゾソ\u3099 ダタ\u3099 ヂチ\u3099 ヅツ\u3099",
  "デテ\u3099 ドト\u3099 バハ\u3099 パハ\u309a ビヒ\u3099 ピヒ\u309a ブフ\u3099 プフ\u309a ベヘ\u3099 ペヘ\u309a",
  "ボホ\u3099 ポホ\u309a ヴウ\u3099 ヷワ\u3099 ヸヰ\u3099 ヹヱ\u3099 ヺヲ\u3099 ヾヽ\u3099 𑂚𑂚 𑂜𑂜 𑂫𑂫 𑄮𑄮 𑄯𑄯",
  "𑍋𑍋 𑍌𑍌 𑒻𑒻 𑒼𑒼 𑒾𑒾 𑖺𑖺 𑖻𑖻 𑤸𑤸"]

/-- Each composed character with the two characters that make it up behind it. -/
def compositions : List (List Char) :=
  ((compositionLinesA).flatMap (·.splitOn " ")).map String.toList

/-- The spans of the characters that combine with those before them, each with its class. -/
def combiningSpans : List (Nat × Nat × Nat) := [
  (0x300, 0x314, 230), (0x315, 0x315, 232), (0x316, 0x319, 220), (0x31A, 0x31A, 232),
  (0x31B, 0x31B, 216), (0x31C, 0x320, 220), (0x321, 0x322, 202), (0x323, 0x326, 220),
  (0x327, 0x328, 202), (0x329, 0x333, 220), (0x334, 0x338, 1), (0x339, 0x33C, 220),
  (0x33D, 0x344, 230), (0x345, 0x345, 240), (0x346, 0x346, 230), (0x347, 0x349, 220),
  (0x34A, 0x34C, 230), (0x34D, 0x34E, 220), (0x350, 0x352, 230), (0x353, 0x356, 220),
  (0x357, 0x357, 230), (0x358, 0x358, 232), (0x359, 0x35A, 220), (0x35B, 0x35B, 230),
  (0x35C, 0x35C, 233), (0x35D, 0x35E, 234), (0x35F, 0x35F, 233), (0x360, 0x361, 234),
  (0x362, 0x362, 233), (0x363, 0x36F, 230), (0x483, 0x487, 230), (0x591, 0x591, 220),
  (0x592, 0x595, 230), (0x596, 0x596, 220), (0x597, 0x599, 230), (0x59A, 0x59A, 222),
  (0x59B, 0x59B, 220), (0x59C, 0x5A1, 230), (0x5A2, 0x5A7, 220), (0x5A8, 0x5A9, 230),
  (0x5AA, 0x5AA, 220), (0x5AB, 0x5AC, 230), (0x5AD, 0x5AD, 222), (0x5AE, 0x5AE, 228),
  (0x5AF, 0x5AF, 230), (0x5B0, 0x5B0, 10), (0x5B1, 0x5B1, 11), (0x5B2, 0x5B2, 12),
  (0x5B3, 0x5B3, 13), (0x5B4, 0x5B4, 14), (0x5B5, 0x5B5, 15), (0x5B6, 0x5B6, 16),
  (0x5B7, 0x5B7, 17), (0x5B8, 0x5B8, 18), (0x5B9, 0x5BA, 19), (0x5BB, 0x5BB, 20),
  (0x5BC, 0x5BC, 21), (0x5BD, 0x5BD, 22), (0x5BF, 0x5BF, 23), (0x5C1, 0x5C1, 24),
  (0x5C2, 0x5C2, 25), (0x5C4, 0x5C4, 230), (0x5C5, 0x5C5, 220), (0x5C7, 0x5C7, 18),
  (0x610, 0x617, 230), (0x618, 0x618, 30), (0x619, 0x619, 31), (0x61A, 0x61A, 32),
  (0x64B, 0x64B, 27), (0x64C, 0x64C, 28), (0x64D, 0x64D, 29), (0x64E, 0x64E, 30),
  (0x64F, 0x64F, 31), (0x650, 0x650, 32), (0x651, 0x651, 33), (0x652, 0x652, 34),
  (0x653, 0x654, 230), (0x655, 0x656, 220), (0x657, 0x65B, 230), (0x65C, 0x65C, 220),
  (0x65D, 0x65E, 230), (0x65F, 0x65F, 220), (0x670, 0x670, 35), (0x6D6, 0x6DC, 230),
  (0x6DF, 0x6E2, 230), (0x6E3, 0x6E3, 220), (0x6E4, 0x6E4, 230), (0x6E7, 0x6E8, 230),
  (0x6EA, 0x6EA, 220), (0x6EB, 0x6EC, 230), (0x6ED, 0x6ED, 220), (0x711, 0x711, 36),
  (0x730, 0x730, 230), (0x731, 0x731, 220), (0x732, 0x733, 230), (0x734, 0x734, 220),
  (0x735, 0x736, 230), (0x737, 0x739, 220), (0x73A, 0x73A, 230), (0x73B, 0x73C, 220),
  (0x73D, 0x73D, 230), (0x73E, 0x73E, 220), (0x73F, 0x741, 230), (0x742, 0x742, 220),
  (0x743, 0x743, 230), (0x744, 0x744, 220), (0x745, 0x745, 230), (0x746, 0x746, 220),
  (0x747, 0x747, 230), (0x748, 0x748, 220), (0x749, 0x74A, 230), (0x7EB, 0x7F1, 230),
  (0x7F2, 0x7F2, 220), (0x7F3, 0x7F3, 230), (0x7FD, 0x7FD, 220), (0x816, 0x819, 230),
  (0x81B, 0x823, 230), (0x825, 0x827, 230), (0x829, 0x82D, 230), (0x859, 0x85B, 220),
  (0x898, 0x898, 230), (0x899, 0x89B, 220), (0x89C, 0x89F, 230), (0x8CA, 0x8CE, 230),
  (0x8CF, 0x8D3, 220), (0x8D4, 0x8E1, 230), (0x8E3, 0x8E3, 220), (0x8E4, 0x8E5, 230),
  (0x8E6, 0x8E6, 220), (0x8E7, 0x8E8, 230), (0x8E9, 0x8E9, 220), (0x8EA, 0x8EC, 230),
  (0x8ED, 0x8EF, 220), (0x8F0, 0x8F0, 27), (0x8F1, 0x8F1, 28), (0x8F2, 0x8F2, 29),
  (0x8F3, 0x8F5, 230), (0x8F6, 0x8F6, 220), (0x8F7, 0x8F8, 230), (0x8F9, 0x8FA, 220),
  (0x8FB, 0x8FF, 230), (0x93C, 0x93C, 7), (0x94D, 0x94D, 9), (0x951, 0x951, 230),
  (0x952, 0x952, 220), (0x953, 0x954, 230), (0x9BC, 0x9BC, 7), (0x9CD, 0x9CD, 9),
  (0x9FE, 0x9FE, 230), (0xA3C, 0xA3C, 7), (0xA4D, 0xA4D, 9), (0xABC, 0xABC, 7), (0xACD, 0xACD, 9),
  (0xB3C, 0xB3C, 7), (0xB4D, 0xB4D, 9), (0xBCD, 0xBCD, 9), (0xC3C, 0xC3C, 7), (0xC4D, 0xC4D, 9),
  (0xC55, 0xC55, 84), (0xC56, 0xC56, 91), (0xCBC, 0xCBC, 7), (0xCCD, 0xCCD, 9), (0xD3B, 0xD3C, 9),
  (0xD4D, 0xD4D, 9), (0xDCA, 0xDCA, 9), (0xE38, 0xE39, 103), (0xE3A, 0xE3A, 9),
  (0xE48, 0xE4B, 107), (0xEB8, 0xEB9, 118), (0xEBA, 0xEBA, 9), (0xEC8, 0xECB, 122),
  (0xF18, 0xF19, 220), (0xF35, 0xF35, 220), (0xF37, 0xF37, 220), (0xF39, 0xF39, 216),
  (0xF71, 0xF71, 129), (0xF72, 0xF72, 130), (0xF74, 0xF74, 132), (0xF7A, 0xF7D, 130),
  (0xF80, 0xF80, 130), (0xF82, 0xF83, 230), (0xF84, 0xF84, 9), (0xF86, 0xF87, 230),
  (0xFC6, 0xFC6, 220), (0x1037, 0x1037, 7), (0x1039, 0x103A, 9), (0x108D, 0x108D, 220),
  (0x135D, 0x135F, 230), (0x1714, 0x1715, 9), (0x1734, 0x1734, 9), (0x17D2, 0x17D2, 9),
  (0x17DD, 0x17DD, 230), (0x18A9, 0x18A9, 228), (0x1939, 0x1939, 222), (0x193A, 0x193A, 230),
  (0x193B, 0x193B, 220), (0x1A17, 0x1A17, 230), (0x1A18, 0x1A18, 220), (0x1A60, 0x1A60, 9),
  (0x1A75, 0x1A7C, 230), (0x1A7F, 0x1A7F, 220), (0x1AB0, 0x1AB4, 230), (0x1AB5, 0x1ABA, 220),
  (0x1ABB, 0x1ABC, 230), (0x1ABD, 0x1ABD, 220), (0x1ABF, 0x1AC0, 220), (0x1AC1, 0x1AC2, 230),
  (0x1AC3, 0x1AC4, 220), (0x1AC5, 0x1AC9, 230), (0x1ACA, 0x1ACA, 220), (0x1ACB, 0x1ACE, 230),
  (0x1B34, 0x1B34, 7), (0x1B44, 0x1B44, 9), (0x1B6B, 0x1B6B, 230), (0x1B6C, 0x1B6C, 220),
  (0x1B6D, 0x1B73, 230), (0x1BAA, 0x1BAB, 9), (0x1BE6, 0x1BE6, 7), (0x1BF2, 0x1BF3, 9),
  (0x1C37, 0x1C37, 7), (0x1CD0, 0x1CD2, 230), (0x1CD4, 0x1CD4, 1), (0x1CD5, 0x1CD9, 220),
  (0x1CDA, 0x1CDB, 230), (0x1CDC, 0x1CDF, 220), (0x1CE0, 0x1CE0, 230), (0x1CE2, 0x1CE8, 1),
  (0x1CED, 0x1CED, 220), (0x1CF4, 0x1CF4, 230), (0x1CF8, 0x1CF9, 230), (0x1DC0, 0x1DC1, 230),
  (0x1DC2, 0x1DC2, 220), (0x1DC3, 0x1DC9, 230), (0x1DCA, 0x1DCA, 220), (0x1DCB, 0x1DCC, 230),
  (0x1DCD, 0x1DCD, 234), (0x1DCE, 0x1DCE, 214), (0x1DCF, 0x1DCF, 220), (0x1DD0, 0x1DD0, 202),
  (0x1DD1, 0x1DF5, 230), (0x1DF6, 0x1DF6, 232), (0x1DF7, 0x1DF8, 228), (0x1DF9, 0x1DF9, 220),
  (0x1DFA, 0x1DFA, 218), (0x1DFB, 0x1DFB, 230), (0x1DFC, 0x1DFC, 233), (0x1DFD, 0x1DFD, 220),
  (0x1DFE, 0x1DFE, 230), (0x1DFF, 0x1DFF, 220), (0x20D0, 0x20D1, 230), (0x20D2, 0x20D3, 1),
  (0x20D4, 0x20D7, 230), (0x20D8, 0x20DA, 1), (0x20DB, 0x20DC, 230), (0x20E1, 0x20E1, 230),
  (0x20E5, 0x20E6, 1), (0x20E7, 0x20E7, 230), (0x20E8, 0x20E8, 220), (0x20E9, 0x20E9, 230),
  (0x20EA, 0x20EB, 1), (0x20EC, 0x20EF, 220), (0x20F0, 0x20F0, 230), (0x2CEF, 0x2CF1, 230),
  (0x2D7F, 0x2D7F, 9), (0x2DE0, 0x2DFF, 230), (0x302A, 0x302A, 218), (0x302B, 0x302B, 228),
  (0x302C, 0x302C, 232), (0x302D, 0x302D, 222), (0x302E, 0x302F, 224), (0x3099, 0x309A, 8),
  (0xA66F, 0xA66F, 230), (0xA674, 0xA67D, 230), (0xA69E, 0xA69F, 230), (0xA6F0, 0xA6F1, 230),
  (0xA806, 0xA806, 9), (0xA82C, 0xA82C, 9), (0xA8C4, 0xA8C4, 9), (0xA8E0, 0xA8F1, 230),
  (0xA92B, 0xA92D, 220), (0xA953, 0xA953, 9), (0xA9B3, 0xA9B3, 7), (0xA9C0, 0xA9C0, 9),
  (0xAAB0, 0xAAB0, 230), (0xAAB2, 0xAAB3, 230), (0xAAB4, 0xAAB4, 220), (0xAAB7, 0xAAB8, 230),
  (0xAABE, 0xAABF, 230), (0xAAC1, 0xAAC1, 230), (0xAAF6, 0xAAF6, 9), (0xABED, 0xABED, 9),
  (0xFB1E, 0xFB1E, 26), (0xFE20, 0xFE26, 230), (0xFE27, 0xFE2D, 220), (0xFE2E, 0xFE2F, 230),
  (0x101FD, 0x101FD, 220), (0x102E0, 0x102E0, 220), (0x10376, 0x1037A, 230),
  (0x10A0D, 0x10A0D, 220), (0x10A0F, 0x10A0F, 230), (0x10A38, 0x10A38, 230), (0x10A39, 0x10A39, 1),
  (0x10A3A, 0x10A3A, 220), (0x10A3F, 0x10A3F, 9), (0x10AE5, 0x10AE5, 230), (0x10AE6, 0x10AE6, 220),
  (0x10D24, 0x10D27, 230), (0x10EAB, 0x10EAC, 230), (0x10F46, 0x10F47, 220),
  (0x10F48, 0x10F4A, 230), (0x10F4B, 0x10F4B, 220), (0x10F4C, 0x10F4C, 230),
  (0x10F4D, 0x10F50, 220), (0x10F82, 0x10F82, 230), (0x10F83, 0x10F83, 220),
  (0x10F84, 0x10F84, 230), (0x10F85, 0x10F85, 220), (0x11046, 0x11046, 9), (0x11070, 0x11070, 9),
  (0x1107F, 0x1107F, 9), (0x110B9, 0x110B9, 9), (0x110BA, 0x110BA, 7), (0x11100, 0x11102, 230),
  (0x11133, 0x11134, 9), (0x11173, 0x11173, 7), (0x111C0, 0x111C0, 9), (0x111CA, 0x111CA, 7),
  (0x11235, 0x11235, 9), (0x11236, 0x11236, 7), (0x112E9, 0x112E9, 7), (0x112EA, 0x112EA, 9),
  (0x1133B, 0x1133C, 7), (0x1134D, 0x1134D, 9), (0x11366, 0x1136C, 230), (0x11370, 0x11374, 230),
  (0x11442, 0x11442, 9), (0x11446, 0x11446, 7), (0x1145E, 0x1145E, 230), (0x114C2, 0x114C2, 9),
  (0x114C3, 0x114C3, 7), (0x115BF, 0x115BF, 9), (0x115C0, 0x115C0, 7), (0x1163F, 0x1163F, 9),
  (0x116B6, 0x116B6, 9), (0x116B7, 0x116B7, 7), (0x1172B, 0x1172B, 9), (0x11839, 0x11839, 9),
  (0x1183A, 0x1183A, 7), (0x1193D, 0x1193E, 9), (0x11943, 0x11943, 7), (0x119E0, 0x119E0, 9),
  (0x11A34, 0x11A34, 9), (0x11A47, 0x11A47, 9), (0x11A99, 0x11A99, 9), (0x11C3F, 0x11C3F, 9),
  (0x11D42, 0x11D42, 7), (0x11D44, 0x11D45, 9), (0x11D97, 0x11D97, 9), (0x16AF0, 0x16AF4, 1),
  (0x16B30, 0x16B36, 230), (0x16FF0, 0x16FF1, 6), (0x1BC9E, 0x1BC9E, 1), (0x1D165, 0x1D166, 216),
  (0x1D167, 0x1D169, 1), (0x1D16D, 0x1D16D, 226), (0x1D16E, 0x1D172, 216), (0x1D17B, 0x1D182, 220),
  (0x1D185, 0x1D189, 230), (0x1D18A, 0x1D18B, 220), (0x1D1AA, 0x1D1AD, 230),
  (0x1D242, 0x1D244, 230), (0x1E000, 0x1E006, 230), (0x1E008, 0x1E018, 230),
  (0x1E01B, 0x1E021, 230), (0x1E023, 0x1E024, 230), (0x1E026, 0x1E02A, 230),
  (0x1E130, 0x1E136, 230), (0x1E2AE, 0x1E2AE, 230), (0x1E2EC, 0x1E2EF, 230),
  (0x1E8D0, 0x1E8D6, 220), (0x1E944, 0x1E949, 230), (0x1E94A, 0x1E94A, 7)]

end StateContainer.Text
