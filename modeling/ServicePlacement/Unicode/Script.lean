import ServicePlacement.CharSet

/-!
Scripts, and the wider sets of characters that are used with a script.
-/
namespace ServicePlacement.Unicode

def scriptTable : List (List String × String) := [
  (["adlm", "adlam"], "1e90g4skqki"),
  (["aghb", "caucasianalbanian"], "1053g3krh"),
  (["ahom"], "1170g1rivk1n"),
  (["arab", "arabic"],
    "60glhmhuhjh2ghqr1qh6sh2i5g3gfg1vhil4rh1tf25g7j1g16ri5gi3mnh2g1g7glh8nf6j1v4jj3nkdf0gkh1rhih
     hihhqhkhhhhmhkhhhhhhjhihhihhhhhhhhhhihhikhnhkhkhhhqh1hljhlh1h3ki"),
  (["armi", "imperialaramaic"], "1084g1mhp"),
  (["armn", "armenian"], "53h2mi3iijf58jl"),
  (["avst", "avestan"], "10b0g3mjn"),
  (["bali", "balinese"], "1b0g4th3i"),
  (["bamu", "bamum"], "a6ag5oc10o23p"),
  (["bass", "bassavah"], "16adg1uim"),
  (["batk", "batak"], "1bcg3kok"),
  (["beng", "bengali"], "98gkhoiii1mhnhhjkipiiikohkihli1p"),
  (["bhks", "bhaiksuki"], "11c0gph2thuq1t"),
  (["bopo", "bopomofo"], "2eqi2e1p2r7g2g"),
  (["brah", "brahmi"], "1100g4uk2kph"),
  (["brai", "braille"], "280g10g"),
  (["bugi", "buginese"], "1a0g1sii"),
  (["buhd", "buhid"], "174g1k"),
  (["cakm", "chakma"], "1110g3lh1i"),
  (["cans", "canadianaboriginal"], "140g28g23g4m101bq1g"),
  (["cari", "carian"], "102ag3h"),
  (["cham"], "aa0g3npuiqik"),
  (["cher", "cherokee"], "13ag5mim977i5g"),
  (["chrs", "chorasmian"], "10fbg1s"),
  (["copt", "coptic", "qaac"], "3eiu289g7kln"),
  (["cpmn", "cyprominoan"], "12f9g6j"),
  (["cprt", "cypriot"], "1080gmihh2shijhih"),
  (["cyrl", "cyrillic"], "40g8liap175gragh4sh106n2g784g6g578uie20g3u2hh"),
  (["deva", "devanagari"], "90g5hkvi1q9f6g2g720gq"),
  (["diak", "divesakuru"], "1190gnihiohih1uhiispq"),
  (["dogr", "dogra"], "1180g3s"),
  (["dsrt", "deseret"], "1040g5g"),
  (["dupl", "duployan"], "1bc0g6rltjpnqik"),
  (["egyp", "egyptianhieroglyphs"], "1300g45mqf9r"),
  (["elba", "elbasan"], "1050g2o"),
  (["elym", "elymaic"], "10feg1n"),
  (["ethi", "ethiopic"],
    "120g4phkinhhhki2phki2hhkinhhhkivh3phki4ji2gj1q19em1npnhnhnhnhnhnhnhn7d2imimimpnhn13cbhnhkhi
     hv"),
  (["geor", "georgian"], "10ag2mhhlhi2rhkb9g2rij104g2mhhlh"),
  (["glag", "glagolitic"], "2c0g6g1b3agnh1hinhihl"),
  (["gong", "gunjalagondi"], "11d6gmhih2lhihmnq"),
  (["gonm", "masaramgondi"], "11d0gnhih2sjhhihpoq"),
  (["goth", "gothic"], "1033g1r"),
  (["gran", "grantha"], "1130gkhoiii1mhnhihlipiiijihmhlninjl"),
  (["grek", "greek"],
    "37gkhjikhhkhhhhjhhh1kh3vu1g192ml3ilkl5kh14g1mimi2mimiohhhhhhh1vi3lhvhuimh1jijhp12nh8a3uh55d
     q4v1hhd05v4m"),
  (["gujr", "gujarati"], "a8hjhphjh1mhnhihliqhjhjihvkisnn"),
  (["guru", "gurmukhi"], "a0hjhmkii1mhnhihihiihhlkiijjhnkhhn1h"),
  (["hang", "hangul"], "110g10g1e2ui10h5u7h1v4h1v76eh1t28j2baks1nk3h27ak1vjmimimij"),
  (["hani", "han"],
    "2e8g1qh5psdm2vhhh1ppuk3ck19cg4g520g590g16ui6q750oisi900ua6eg2g103qmdui168iu1d3hv26u9ai21u5e
     i134rl106g"),
  (["hano", "hanunoo"], "172g1l"),
  (["hatr", "hatran"], "108eg1jhill"),
  (["hebr", "hebrew"], "59h3no1rkmf52o1qhlhhhihihq"),
  (["hira", "hiragana"], "304h5mmj17f6h11v1ih1tj40ath"),
  (["hluw", "anatolianhieroglyphs"], "1440g24n"),
  (["hmng", "pahawhhmong"], "16b0g4mqqhnh1ll1j"),
  (["hmnp", "nyiakengpuachuehmong"], "1e10g2tjuiqki"),
  (["hung", "oldhungarian"], "10c8g3jt3jnm"),
  (["ital", "olditalic"], "1030g2kpj"),
  (["java", "javanese"], "a98g4uiqki"),
  (["kali", "kayahli"], "a90g2uhh"),
  (["kana", "katakana"], "30ah5qijfg1gdg2vh5occ0uqh2tb05ikhnhihh11vj3ihuk"),
  (["kawi"], "11f0g1hh2pj1t"),
  (["khar", "kharoshthi"], "10a0gkhilohjh1tijkqnp"),
  (["khmr", "khmer"], "178g5uiqmq1em2g"),
  (["khoj", "khojki"], "1120g1ih2v"),
  (["kits", "khitansmallscript"], "16fekh1b1r1dm2ph"),
  (["knda", "kannada"], "c8gthjh1nhqhliphjhknimihkiqhj"),
  (["kthi", "kaithi"], "1108g4jqh"),
  (["lana", "taitham"], "1a2g3vh1tirmqmu"),
  (["laoo", "lao"], "e8hihhhlh1ohhh1nilhhhnhqik"),
  (["latn", "latin"],
    "4h1qm1q2vhvhl1nh1vh1ch2nl1a1r2mm3hlklth4m4h10g17hhth1gt8timh1rh1h2padn2g7aai6mj4jiihhho1lu3
     3g2rhphk4f9mn41q1qm1q82lmh2qhpd74l1vmm"),
  (["lepc", "lepcha"], "1c0g3ojvjj"),
  (["limb", "limbu"], "190g1vhskskhjs"),
  (["lina", "lineara"], "1060g13np1mqo"),
  (["linb", "linearb"], "1000gsh1qh1jhihviu2i7r"),
  (["lisu"], "a4dg3g7abgh"),
  (["lyci", "lycian"], "1028g1t"),
  (["lydi", "lydian"], "1092g1qlh"),
  (["mahj", "mahajani"], "1115g2n"),
  (["maka", "makasar"], "11eeg1p"),
  (["mand", "mandaic"], "84g1sih"),
  (["mani", "manichaean"], "10acg2nks"),
  (["marc", "marchen"], "11c7g2gi1mhu"),
  (["medf", "medefaidrin"], "16e4g5r"),
  (["mend", "mendekikakui"], "1e80gcli1g"),
  (["merc", "meroiticcursive"], "109ag1ok1ki2u"),
  (["mero", "meroitichieroglyphs"], "1098g2g"),
  (["mlym", "malayalam"], "d0gthjh3jhjhmk1gi1q"),
  (["modi"], "1160g4lrq"),
  (["mong", "mongolian"], "180giihh1km5pn2rfdblt"),
  (["mroo", "mro"], "16a4g1vhqki"),
  (["mtei", "meeteimayek"], "aaeg1ncp2uiq"),
  (["mult", "multani"], "1128gnhhhkhvhr"),
  (["mymr", "myanmar"], "100gag994g1v6h2g6c5g1k"),
  (["nagm", "nagmundari"], "1e4dg2q"),
  (["nand", "nandinagari"], "119agoi2uir"),
  (["narb", "oldnortharabian"], "10a8g2g"),
  (["nbat", "nabataean"], "1088g1vop"),
  (["newa"], "1140g5shl"),
  (["nkoo", "nko"], "7cg3rij"),
  (["nshu", "nushu"], "16fehh418u18s"),
  (["ogam", "ogham"], "168g1t"),
  (["olck", "olchiki"], "1c5g3g"),
  (["orkh", "oldturkic"], "10c0g4p"),
  (["orya", "oriya"], "b0hjhoiii1mhnhihlipiiijnjkihli1i"),
  (["osge", "osage"], "104bg2kk2k"),
  (["osma", "osmanya"], "1048g1uiq"),
  (["ougr", "olduyghur"], "10f7g1q"),
  (["palm", "palmyrene"], "1086g2g"),
  (["pauc", "paucinhau"], "11acg3p"),
  (["perm", "oldpermic"], "1035g2r"),
  (["phag", "phagspa"], "a84g3o"),
  (["phli", "inscriptionalpahlavi"], "10b6g1jlo"),
  (["phlp", "psalterpahlavi"], "10b8g1inksn"),
  (["phnx", "phoenician"], "1090g1sjh"),
  (["plrd", "miao"], "16f0g4rk3pn1h"),
  (["prti", "inscriptionalparthian"], "10b4g1mio"),
  (["rjng", "rejang"], "a93g2krh"),
  (["rohg", "hanifirohingya"], "10d0g2ooq"),
  (["runr", "runic"], "16ag4rjr"),
  (["samr", "samaritan"], "80g2uiv"),
  (["sarb", "oldsoutharabian"], "10a6g2g"),
  (["saur", "saurashtra"], "a88g4mos"),
  (["sgnw", "signwriting"], "1d80g28svlhv"),
  (["shaw", "shavian"], "1045g3g"),
  (["shrd", "sharada"], "1118g6g"),
  (["sidd", "siddham"], "1158g3mi2m"),
  (["sind", "khudawadi"], "112bg3rlq"),
  (["sinh", "sinhala"], "d8hjh1ij1ohphhinjhkmhhhomqij103es1k"),
  (["sogd", "sogdian"], "10f3g2q"),
  (["sogo", "oldsogdian"], "10f0g2o"),
  (["sora", "sorasompeng"], "110dg1pnq"),
  (["soyo", "soyombo"], "11a5g5j"),
  (["sund", "sundanese"], "1b8g4g10go"),
  (["sylo", "sylotinagri"], "a80g2t"),
  (["syrc", "syriac"], "70guh3sij11gr"),
  (["tagb", "tagbanwa"], "176gthjhi"),
  (["takr", "takri"], "1168g3qmq"),
  (["tale", "taile"], "195g1uil"),
  (["talu", "newtailue"], "198g2sk1qmrji"),
  (["taml", "tamil"], "b8iihmjjhkjihhhijijjjskljjhkihmhu1l113cl3ith"),
  (["tang", "tangut"], "16fegh1v17foo30g20gp"),
  (["tavt", "taiviet"], "aa8g4j1ol"),
  (["telu", "telugu"], "c0gthjh1nh1giphjhknihjihikiqnp"),
  (["tfng", "tifinagh"], "2d3g3oniuh"),
  (["tglg", "tagalog"], "170g1mph"),
  (["thaa", "thaana"], "78g3i"),
  (["thai"], "e0h3ql1s"),
  (["tibt", "tibetan"], "f0g4oh2kk2nh2khvhnki"),
  (["tirh", "tirhuta"], "1148g4ooq"),
  (["tnsa", "tangsa"], "16a7g4vhq"),
  (["toto"], "1e29g1v"),
  (["ugar", "ugaritic"], "1038g1uhh"),
  (["vaii", "vai"], "a50g12s"),
  (["vith", "vithkuqi"], "1057grhvhnhihrhvhnhi"),
  (["wara", "warangciti"], "118ag5jsh"),
  (["wcho", "wancho"], "1e2cg3qlh"),
  (["xpeo", "oldpersian"], "103ag2kku"),
  (["xsux", "cuneiform"], "1200g39q6m6vhlrck"),
  (["yezi", "yezidi"], "10e8g2qhjii"),
  (["yiii", "yi"], "a00g48tj3n"),
  (["zanb", "zanabazarsquare"], "11a0g4o"),
  (["zinh", "inherited", "qaai"],
    "30g7g11li1ckr1qh2egk115r1v20hjhthnkhmhjicm4g20sici2hf3pk6ricd6l1g1gu3cvheih105qhbbck2ui1n22
     gj1hoin1ukc2f5ifg"),
  (["zyyy", "common"],
    "g4h1qm1q2vhvhl1nh1vh1ch2nlli1k7khphmhhh27thmhuhjh2gh9sh20kh8hi4dph19lk12ih5evj4nicrihh4ctht
     hnkhmhjih30lsi5nhrjrhv1h2h3v2mhjimh1rh1h2pjk29q1mr1l3ag10g27ki2gh6p20g5u19i1lhhh1pvokk5rijh
     5qi9j1g2g2mph3g4g1v5h2vh5oao19cg4g590g2i6mjalqfkhagh18rhui51diidgq1m2jh1jhk9jhh2g1qm1qrqh2t
     i4gnhnql10ijk2tjp5gt3j2tek1rb9akkf5sfqm1bk9s7k3sfmq2ni3uj1hoin1uk3tdl1ks1ks5np1p8n5lh4nhiih
     iiikhshhhnh4hhkiohnh1shkhlhhjnh15ki12ki3i147h4k4s3t2ci2sk6ksvivhvh2lqau3o1qhit2skpnium9q3do
     k1hjtj7nk5vmskhvsk3ooqm2oo1uiski3u15ksuitjql3onvirmpn9jh6mc040nh1u6g"),
  (["gara", "garay"], "10d4g2mj1toi"),
  (["gukh", "gurungkhema"], "1610g3q"),
  (["krai", "kiratrai"], "16d4g3q"),
  (["onao", "olonal"], "1e5dg2rkh"),
  (["sunu", "sunuwar"], "11bcg2iuq"),
  (["todr", "todhri"], "105cg3k"),
  (["tutg", "tulutigalari"], "1138gqhhihh2mhqhhihhkhqhioi")]

/-- Where the characters used with a script differ from those that belong to it. -/
def extensionTable : List (List String × String) := [
  (["adlm"], "61vh2gh1a0uhdfhh"),
  (["aghb"], "30kh2sh2sh"),
  (["arab"], "60shuhjh2ghqr1qh19duhdfhhcefsi5ag1s"),
  (["armn"], "30oh"),
  (["avst"], "bnh2d7oi"),
  (["beng"], "2bsh69ki1hi136qhhhiihhohohihkhij8bfph"),
  (["bopo"], "2cnhhjth2d2njkqhtqkihmhcjhcd4pi11ql"),
  (["bugi"], "a9cvh"),
  (["buhd"], "173li"),
  (["cakm"], "9emq65gq"),
  (["cari"], "bnh1faihihddjh"),
  (["cher"], "30gjhhmi1miri"),
  (["copt"], "bnh24ohjihh6si2aahhd4co1s"),
  (["cpmn"], "1010gi"),
  (["cprt"], "1010gjk2tjp"),
  (["cyrl"], "2bsh4jjhhhhhhihlh17ji197hh104qh"),
  (["deva"], "2bsh69ki1hi136q2nhi3fmh873vq"),
  (["dogr"], "96ks9ecgq"),
  (["dupl"], "bnh24vihh1oi2b1nh18e6jk"),
  (["elba"], "bnh24th"),
  (["ethi"], "30uh"),
  (["geor"], "bnh4dhhb7hhf5uhddmh"),
  (["glag"], "bnh24rhhh17uhih10hhb7hhf5uhdeoh782rh"),
  (["gong"], "bnh8asi"),
  (["gonm"], "96ki"),
  (["goth"], "bnh24siih2oh"),
  (["gran"], "95hi1hi28gu10dshhi1ujji3fmhf24qhc9kihh"),
  (["grek"], "bnh24oiihhhhhqh2uhih2uh1a4ri29rh"),
  (["gujr"], "95hi1hi9ecqq"),
  (["guru"], "95hi1hi9ecqq"),
  (["hang"], "300hjkqht1ghmhcjhcd4pi11ql"),
  (["hani"],
    "bnh2f3o1ghjihhqhtqkihmhkkbrh9k1g2g2mph3g2o3o3hvs3jh5o1pql6g1v730ho573ti11qld3fq1i1edui"),
  (["hano"], "173li"),
  (["hebr"], "30ni"),
  (["hira"], "300hjkqht1gmhhki5rkjh5qicd4oi11qlqh2ti"),
  (["hung"], "205qhihddjhvh"),
  (["java"], "a9cvh"),
  (["kali"], "a92uh"),
  (["kana"], "30lh1th2cdtjkqht1gmhhki5rkjh5qicd4oi11qlqh2ti"),
  (["khoj"], "aemq9d4gq"),
  (["knda"], "95hi1hi136qhhimh1nhhh8b3rm"),
  (["kthi"], "96mq24chh79fuq"),
  (["latn"], "bnh20khqhhjhhphhh2mvhihhvjnihi2mhlhkt11li4cqi7aohcfsh23mhcghd2mh78eoo22mh"),
  (["limb"], "96lh"),
  (["lina"], "1010n2t"),
  (["linb"], "1010gjk2tjp"),
  (["lisu"], "2bsh1gh2d3si"),
  (["lyci"], "205qh"),
  (["lydi"], "bnh2d7ph"),
  (["mahj"], "bnh8ass9ecgq"),
  (["mand"], "64gh"),
  (["mani"], "64gh"),
  (["mero"], "205th"),
  (["mlym"], "95hi1hi137kh1nh8b3tj"),
  (["modi"], "a83gq"),
  (["mong"], "180iihh82phfdhilk"),
  (["mult"], "a6mq"),
  (["mymr"], "a92uh"),
  (["nand"], "95hh1ii38gqffphohnh8b3lm"),
  (["nkoo"], "60shuhjhf71ui"),
  (["orkh"], "205qhddlh"),
  (["orya"], "95hi1hi137kh1nh"),
  (["osge"], "30hhihmh4sh"),
  (["ougr"], "64gh104bhh"),
  (["perm"], "bnh24ohljqh16vh"),
  (["phag"], "180iihh82phfdih"),
  (["phlp"], "64gh"),
  (["rohg"], "60shuhjh2gh9jh"),
  (["runr"], "16erj"),
  (["samr"], "2e3hh"),
  (["shaw"], "bnh"),
  (["shrd"], "95hh138lhhhiiih8b4vmih"),
  (["sind"], "96ki9ecqq"),
  (["sinh"], "96ki138sh"),
  (["sogd"], "64gh"),
  (["sylo"], "96ki8gq"),
  (["syrc"], "30jiiihh1ojnihi2dqhuiih2ghqr1qh178nhhh"),
  (["tagb"], "173li"),
  (["takr"], "96ki9ecqq"),
  (["tale"], "30gilijhd3jq"),
  (["taml"], "95hi1hi137kh8c1oh6a0thhh3ni"),
  (["tang"], "2ffg1g1evh"),
  (["telu"], "95hi1hi137kh1nh"),
  (["tfng"], "30ihhhhk1ph"),
  (["tglg"], "173li"),
  (["thaa"], "60shuiih4gqf78ohqh"),
  (["thai"], "2bsh1qh2rh2th"),
  (["tibt"], "300ok"),
  (["tirh"], "95hi1hi138sh8b3tq"),
  (["toto"], "2bsh"),
  (["yezi"], "60shuhjh4gq"),
  (["yiii"], "300hilqiodvhce6ll"),
  (["zinh"],
    "30gvhihhvjnihi1ghih1ihlhkt11li1ckr1qh2egi137tjhthnkhmhjicmi3mhhh2flhf3pk6rid24lh105qh"),
  (["zyyy"],
    "bnh20khqhhjhhphhh9qh29nhuhjh2gh32ji79lh5evj4nicrihh4cththnkhmhjih33kh1vhqhihdbph1oiqhkhhh1a
     s1ghjihhqht1gmhhkk5rijh5qi9j1g2g2mph3g2o3o3hvs3jh5o1pql6g1v730ho12oqfkhagh536ui10li11qlqh2t
     i16gjk2tjp1ah1rb9akk16bs1i1edui"),
  (["gara"], "60shuhjh"),
  (["gukh"], "96lh"),
  (["onao"], "96ki"),
  (["sunu"], "30gihhphih1shjh"),
  (["todr"], "30hhihihphhh4qh"),
  (["tutg"], "cemq100ihhh8b3rmbrh")]

def script? (name : String) : Option CharSet :=
  (scriptTable.find? fun e => e.1.contains name).map fun e => .ofDistances e.2

def scriptExtension? (name : String) : Option CharSet := do
  let e ← scriptTable.find? fun e => e.1.contains name
  let own := CharSet.ofDistances e.2
  match extensionTable.find? fun d => d.1.head? == e.1.head? with
  | some d => return own.symmDiff (.ofDistances d.2)
  | none => return own

end ServicePlacement.Unicode
