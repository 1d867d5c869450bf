import ServicePlacement.Unicode.Category

/-!
The properties that a character has or has not. A property is kept as a union of general categories
and the places where it differs from that union.
-/
namespace ServicePlacement.Unicode

/-- The names of each property, the categories next to it, and where it differs from them. -/
def binaryTable : List (List String × List String × String) := [
  (["ahex", "asciihexdigit"], [], "3gqnm1qm"),
  (["alpha", "alphabetic"], ["lm", "lo", "nl"],
    "4h1qm1q3qhq1nh1vhcjhkkdgh1r9lh1t1hiijjhhmhhjhhh1kh5jh8roamh2mp2p2nuhhhihihh4or3gthn1gh6lnkk
     iikh2jh1u1g6mr6lijphjhk6qh3ssjnm1k3miivhiljqi1tj3qniiiiqhqi1tj3qlkiiikh1uijhrj3qohjhi1li1mj
     kj3qniiiipiqi1uh3rljjhjqh2ol3pnhjhjoiri1tj3qnhjhjoirivhsk3qnhjhjqhqi1tj4rmhhho1ii3thin1ih6j
     himhi1ghaj1jprh2k6ushhik1nkkjhjinjktshhqki2mhhlhi2rij2ag5mim31ki1ui1ui1ui4i1jbsi2ih7mskpdul
     3pqi1k4qirj3hl3gv3sj1upii3pr3i1j4prl2rij4g2s3vth2i3o2ir11mimi2mimiohhhhhhh1vi3lhnhhjjhnjkim
     ktljhn10lhkhiqhhjlmhhhhhhkhmkhikllkh3ki33h3k71m7si6nmkjis2mhhlhbi2g784g2umok1sii8i4uh1njkh3
     uiihhho1oijhnhoh1nl5oi3i1ghh3ph2ml1ss2tk3gs2lh4jushoi2tj3ihhjiilh2sllh3q2rlpn5g2jo4f1lnslmh
     40i1qm1q41rl8l5g6g2kk2k7krhvhnhihrhvhnhi44kjhilk27g3jt3j3hk2o1mjhm1m12li4vh10jj3lu2tirj2tpp
     h3tj2ks1ii3pj3gtui5spihmhih9tq1nk3qniiiiqhqi5kphhihhkhi6nthj6q1ietnin1ti5ivhh6qr6nu10ht6n4g
     5gmhiiijhhh8unimkh1sq2qlhk1ir2uu19nohn5j1mhu7qmjhhihjhhjh4ilhihk15skpihh3gnjj41dt1hd1h4gcvh
     h3nnk5ti4cash176h5lh4nhiihiiikhshhhnh4hhkiohnh1shkhlhhjnh15ki1ph1ph1vh1ph1vh1ph1vh1ph1vh1ph
     o73kqh1kmmdlnh1hinhihl6kh87g4kjh7eo1qm1qm1q"),
  (["bidic", "bidicontrol"], [], "61sh19fhi1ql3nk"),
  (["bidim", "bidimirrored"], [],
    "2oi1ihhh1shhh1thhh2thvhe7uk75ti99siqi3miuibhhcgkjmjhjijkhkhhhhkplhh1ilkpihhhoh2giklhpii1jli
     pliik1oi1gok1kini43tu4qhikhihjlkljju19j1mimhuohnmjhklhiilkhhjiiqmiis1jhkihhhihhklimj1oirikk
     hiiik2rioh2olhhhjlljkhjlhh10gh20jkjihiuiiq2ro1arqioce3tmliaii1ihhh1shhh1thhhhihid77nh3ph3ph
     3ph3ph"),
  (["ci", "caseignorable"], ["cf", "lm", "me", "mn", "sk"],
    "2nhmhrh7sh2cvh1dnh9kh1a2jiqhihdderh3uhihbhhmhrh"),
  (["cased"], [],
    "4h1qm1q2vhqhkhl1nh1vhcjhkkdgh2kni1ul6gh2qkiiikhhmhhjhhh1kh5jh8roamh2mp2pb1n2mhhlhi2rhk2ag5m
     im88irl2rij4gcg4g11mimi2mimiohhhhhhh1vi3lhnhhjjhnjkimktljhn7khth1gt6lhkhiqhhjlmhhhhhhkhmkhi
     kllkh1h2gji33h3k71melmkjis2mhhlh791i2u1i1u8k6mjkh3uiihhho1llhj33l2rhum5g4f4gnsl40p1qm1q4al5
     g6g2kk2k7krhvhnhihrhvhnhi1cjhijh2qhp4cl3jt3j5t1mq1mb1q4g556g4g658g5lh4nhiihiiikhshhhnh4hhki
     ohnh1shkhlhhjnh15ki1ph1ph1vh1ph1vh1ph1vh1ph1vh1pho73kqh1kmm10l3u89i4k7es1qm1qm1q"),
  (["cwcf", "changeswhencasefolded"], ["lt", "lu"],
    "blh2ph6ph3lh1clh7shtn1pijh19hhe1o5mim88ip21hiekoooooqjihqjih2qjih10qhkhjjijihjlmhjhjiiihhqi
     lh1q1g34m1q86ag5g4f4gnsld8eo1q1q1q1q1q1qhhiihiiikho1q1q1qihkiohn1rihkhlhhjn1r1q1q1q1q1q1q1q
     1q1q1q1q1u1p2h1p2h1p2h1p2h1p2hh"),
  (["cwcm", "changeswhencasemapped"], [],
    "4h1qm1q3qhq1nh1vh4gh5kh1siuiihhk5th1im1rhihhhijihkhlihhiihnhihhijmlhqiamh2qkiijjhhmhhjhhh1k
     h2vj2hhlh8loamh2mq2nb1o2mhhlhi2rij2ag5mim88irl2rijbphjh1gh7h9sihh7mimi2mimiohhhhhhh1vi3lhnh
     hjjhnjkimktljhn12phjimh1rh1h2gji33h3k71m7hhihin6mnkjis2mhhlh791i2u1i1s8mui3upvjjilh1ph1uiik
     n1oi35sh1s5g4f4gnsl40p1qm1q4al5g6g2kk2k7krhvhnhihrhvhnhi6cj3jt3j5t1mq1mb1q4g556g4g7a8g4k"),
  (["cwl", "changeswhenlowercased"], ["lt", "lu"],
    "3dij1d2thkhjjijihjlmhjhjiiihhqilh1q1g34m1q1af3g1q1q1q1q1q1qhhiihiiikho1q1q1qihkiohn1rihkhlh
     hjn1r1q1q1q1q1q1q1q1q1q1q1q1u1p2h1p2h1p2h1p2h1p2hh"),
  (["cwt", "changeswhentitlecased"], ["ll"],
    "13oh5kh1siuhjhlhihih2mh2vh1im1rhihhhijihkhlihhiihnhihhijmlhhhoi1h9lhbmh16jh2nhb4n2rijc0g2s3
     vtijh1ghs10hihh26qhjijh1rhkhkhiiok2m1g35g1q78nhihil6oh7a4ri3vo1lhmh1ph2jhhh2kh33l2jhnlp128b
     h1q1qnh1i1q1q1qkhhhnhr1q1q1q1q1q1q1q1q1q1q1q1q1q1q1q1q1q1s1s1phm1q1phm1q1phm1q1phm1q1phmhh7
     3kqh1kmm"),
  (["cwu", "changeswhenuppercased"], ["ll", "lt"],
    "13oh5kh1siuhjh6ih1im1rhihhhijihkhlihhiihnhihhijmlhhhoi1h9lhbmh16jh2nh177n2s3vtijh1ghs10hihh
     26qhjijh1rhkhkhiiok2m1g35g1q78nhihil6oh7a4ri3vo1lhmh1ph2jhhh2kh33l2jhnlp128bh1q1qnh1i1q1q1q
     khhhnhr1q1q1q1q1q1q1q1q1q1q1q1q1q1q1q1q1q1s1s1phm1q1phm1q1phm1q1phm1q1phmhh73kqh1kmm"),
  (["dash"], ["pd"], "205jh2nhvh18mh"),
  (["di", "defaultignorablecodepoint"], [],
    "ath2ahh2cshb4ii65ji5ll7frl1ql3h1g10fkhcc9r1gevhagh4vpbcank14cvoc2e8l100g"),
  (["dep", "deprecated"], [], "14ph52ph90jhhh82pi8clm2bpiddcdmh"),
  (["dia", "diacritic"], ["sk"],
    "bnh1fo1iksulnhhh1h4vholm1hhlh10oldhh3n1hh1rhhhihh8moki8mikijj4j1r5rr3qr2ii6uhvo2pq1g1s3th1g
     hjk1sh4qh1gh6uh1gh6uh1gh2vj3sh1ghnh7nh6uh1gh6uh1gh6ti1gh7sh6vhsmhh6rhtl4ri1rhhhhhki4ijhi3uh
     7ghhi2oikl1pnhhqi2chj3bki1uh9krph15rj12kh1koih3gvir6ohvh2mp3mi3qhri4ii4gm5i1pkhmhij3i3v5ps2
     lreevj13th1fqm6pi6hh757ihsihh1si5ii2lp6oh6vish2lh9nh1r1i3pk2kh5vhsh2kh9lj4hk3jh6lkph8ii4f3g
     h9j1h25t1g14gh2ti34gh49vmh2qhp27tjkhali23rm2mh1ql18vj4mr3hkcgh2ph4oi7oi3uh4shpj6oibii5gi1gh
     1onjl5pjhiti5vhjh7rifri7uh7mi7jh10ti10iikh9sh5jh1ih5hh1alh10ihhi5hh1api1nh14esv2cdph9cgl3rn
     23ki22i1h5gi3ffukhnhi1f0h2ui1n22gjjmooin1uke8i3ucin17nh3tk2fui2egn6tjhjabgl"),
  (["emoji"], [],
    "2jhmhlq6vhkh1f8thshdoh1mh5qmvi16vishamh1prkjcnheniqhph3qkhlphihiiihkhihhiihjhjiojlhhhlsriih
     hihh1ihii1imhhhijilhiikiriliihlihhhi1kilmhkihkhihimhhihhhhhmhjhmhqivhihkhhhkjhhri3gjphuhuh1
     7ki1cvj1ji3jhkh4dqhsh25phhh1bd6qhcqhagisiuhiq4r1qhi1nh1khip1liau2ii7giihji5jijh10nh3vrmh1on
     iioshikihkitiihoiphljsjojihhhkhmhjhm5m3g4mloijkqjhhijhiqejskh11r2vhqhbp7gtjql3onvirmp"),
  (["ecomp", "emojicomponent"], [], "2jhmhlq1fdjhdlhdd2rhf3dm1q1frl5bgkc066s6g"),
  (["emod", "emojimodifier"], [], "1f3frl"),
  (["ebase", "emojimodifierbase"], [],
    "261thdrh1gk1cc7nh3sjihij7liir1l1jjhkjhjnhhh1ohcpikh1lhkiaujjl5jh1gjphrh23vhihoomhpqij3oh3ti
     hihh1hjhtelj2qp"),
  (["epres", "emojipresentation"], [],
    "231qictkjhih20pi1li3is2rh1jhthoi1hiliohlh1lhnihhkhihnhki1sh2jhhhkjhh3tj1ohuh35ri3jhkh1c4auh
     cqhbuhiq4r1qhh1oh1khilhj1liau2hsph4mh1ms2rkls1hjhj4nhhhbri3vtkh1o1ih1qith5m5l3g4mmhjjijkkri
     npejskh11r2vhqhbp7gtjql3onvirmp"),
  (["extpict", "extendedpictographic"], [],
    "aphkh1f8thshdoh1mh5qmvi16vish5vh4mh1prkjcnheniqhph3qkhmhsh7iq7mirhhhhmhjhmhqivhihkhhhkjhhrl
     2tjphuhuh17ki1cvj1ji3jhkh4dqhsh25phhh1bd6m10gtj1vh3smsiuhiq1i3p1rvqh1khiphkp1bil13uo10q3g8g
     7ks5l2rsk3ooqm2oo1u5is2vhqh1bp10g3fu"),
  (["ext", "extender"], [],
    "bnh21oi36uh1bph27mh8ph5ph2fgh7vh94jh3oh26jh18uh4kh138ph2rl6ni5tj6f1mh5fmh3cih1mh8ph6sh1li54
     7rh81gi5crh1rhkh4cnh12lh7ki1fij4cvh50api49sihh715oi4bhh35kj"),
  (["grbase", "graphemebase"],
    ["lm", "lo", "mc", "nd", "nl", "no", "pc", "pd", "po", "sc", "sk", "sm", "so", "zs"],
    "2oi1n1rhhj1rhh2thphlhk1nh1vhcjhkkdgh1rcgkiijjhhmhhjhhh1kh5jh8roamh2mp2p43lh1oh16mh1oh6mh1oh
     eohhhkihipi6nh1oh7nhvh15qk16i2mhhlhi2rij2ag5mim29ti7oh1uh40ghlhhhli6lh4ni8srl2rij4g2s3vth2i
     6l11mimi2mimiohhhhhhh1vi3lhnhhjjhnjkimktljhn1ro1piqi3miui7jhkhiqhhjlmhhhhhhkhmkhikllkh3ki18
     jk1ti43tu4vi1vq19j1m3vk2gi20i7si6nmkjis2mhhlhdkkjihiuiiq1oh1io1arqiohjui761g2u1i1s8m4uh1njk
     h3uiihhho1oijh15oh6sh16v2rlpn5g4f4gnsl22midni1s1gii1gmapi1n1rhhj1rhhhihi3qi46g5g6g2kk2k7krh
     vhnhihrhvhnhi6cj3jt3j5t1mq1m43qh7kh10ohuhph6ghphihhjlheghshfhh10mh1ep4g5ghsh60jh4efu4g17gi6
     17jimm28t5lh4nhiihiiikhshhhnh4hhkiohnh1shkhlhhjnh15ki1ph1ph1vh1ph1vh1ph1vh1ph1vh1pho73kqh1k
     mm9dl4k"),
  (["grext", "graphemeextend"], ["me", "mn"],
    "9buh1oh16mh1oh6mh1oheohhhkihipi6nh1oh7nhvh93lh1uh40ghlhhhli6lh4ni41oh102hi792jh6sh55dti122g
     h7kh10ohuhph6ghphihhjlheghshfhh10mh27phsh60jh50aui617jimmc2eat6g"),
  (["grlink", "graphemelink"], [],
    "94th7vh7vh7vh7vh7vh7vh7vh6ti1gh7sh6vh7vhcphbki6dpi1uh9th28thejh6li4mi118rh7a8mh2lh9nh8uh6sh
     13lhfmh5e5hh60mh2phuh3ph7pi8rh7khbkh6ih8gj7hh7vhfsh7vh7mh7kh10th10jiahh5jh1ih5hh1alh10ki5hh
     1api41esh"),
  (["hex", "hexdigit"], [], "3gqnm1qmfeapqnm1qm"),
  (["hyphen"], [], "2th7vh4dsh127rh80pie0lh2ejhcd6nhaph5nh"),
  (["idsb", "idsbinaryoperator"], [], "2ffgiiq1fhh"),
  (["idst", "idstrinaryoperator"], [], "2ffii"),
  (["idsu", "idsunaryoperator"], [], "2ffui"),
  (["idcompatmathcontinue"], [], "biilh1fbmhjrhv17jhkh1mh1b4aih1ph1vh1ph1vh1ph1vh1ph1vh1ph"),
  (["idcompatmathstart"], [], "220ihkh1mh1b4aih1ph1vh1ph1vh1ph1vh1ph1vh1ph"),
  (["idc", "idcontinue"], ["lm", "lo", "mc", "mn", "nd", "nl", "pc"],
    "4h1qm1q3qhhho1nh1vhcjhkkdgh1rcgkiijjhhmlhhh1kh5jh8roamh2mp2pb1n2mhhlhi2rij26pp2u5mim5dsh2al
     rl2rij4g2s3vth2i6l11mimi2mimiohhhhhhh1vi3lhnhhjjhnjkimktljhnvifkhkhiqhhimmhhhhhhrkhikllkh3k
     ia7r7si6nmkjis2mhhlh10hh26ri5uh754k2u1i1s8m4uh1njkh3uiihhho1oijh33l2rlpn5g4f4gnsl40p1qm1qqh
     49q5g6g2kk2k7krhvhnhihrhvhnhi6cj3jt3j5t1mq1mb1q4g556g4g658g5lh4nhiihiiikhshhhnh4hhkiohnh1sh
     khlhhjnh15ki1ph1ph1vh1ph1vh1ph1vh1ph1vh1pho73kqh1kmm9dl4k"),
  (["ids", "idstart"], ["lm", "lo", "nl"],
    "4h1qm1q3qhq1nh1vhcjhkkdgh1rcgkiijjhhmhhjhhh1kh5jh8roamh2mp2pb1n2mhhlhi2rij2ag5mim48ni3fprl2
     rij4g2s3vth2i6l11mimi2mimiohhhhhhh1vi3lhnhhjjhnjkimktljhn10lhkhiqhhimmhhhhhhrkhikllkh3kia7r
     7si6nmkjis2mhhlh10hh26ri75aj2u1i1s8m4uh1njkh3uiihhho1oijh33l2rlpn5g4f4gnsl40p1qm1q4al5g6g2k
     k2k7krhvhnhihrhvhnhi6cj3jt3j5t1mq1mb1q4g556g4g658g5lh4nhiihiiikhshhhnh4hhkiohnh1shkhlhhjnh1
     5ki1ph1ph1vh1ph1vh1ph1vh1ph1vh1pho73kqh1kmm9dl4k"),
  (["ideo", "ideographic"], [],
    "300mi1ppuj3cl19cg4g520g590g16ui6q750qh1r17foo4dm2pq246n18s4d0ka6eg2g103qmdui168iu1d3hv26u9a
     i21u5ei134rl106g"),
  (["joinc", "joincontrol"], [], "200si"),
  (["loe", "logicalorderexception"], [], "e4gl7rlafgjih90fqiihhi"),
  (["lower", "lowercase"], ["ll"],
    "aqhvh1flpni1ul6gh3khd8hhc2v3vth2i2l2bhhth1gtdj1g35g1q79ii7a1uidih8hjji36ikph5c1mhijh2qhpd87
     l3u"),
  (["math"], ["sm"],
    "5uh37hjih1qiii1c2gh1rjrh2gk1oiui4htkhjikl1ihkhiqhhjlmhjiiihjhmjkll4rlikhihihhhliikik1iiihhh
     nhhmi12ikaoihh1oh1hh1btispllliiijluhhhim1oi3phhh1tkpi15mi1vq19j1m3vk2gid46jhhhkhdjhhhd4ch5l
     h4nhiihiiikhshhhnh4hhkiohnh1shkhlhhjnh15ki1ph1ph1vh1ph1vh1ph1vh1ph1vh1phoi3i160gkh1rhihhihh
     qhkhhhhmhkhhhhhhjhihhihhhhhhhhhhihhikhnhkhkhhhqh1hljhlh1h"),
  (["mcm", "modifiercombiningmark"], [], "65kiih8jhmhji1ehihjjh1vh"),
  (["nchar", "noncharactercodepoint"], [],
    "fddg2g20uifffuifffuifffuifffuifffuifffuifffuifffuifffuifffuifffuifffuifffuifffuifffuifffui"),
  (["oalpha", "otheralphabetic"], [],
    "34lh1tt24guhhhihihh4or3gthn1gh6lnkkiikh2jh1u1g6mr6lijphjhk6qh3ssjnm1k3miivhiljqi1tj3qniiiiq
     hqi1tj3qlkiiikh1uijhrj3qohjhi1li1mjkj3qniiiipiqi1uh3rljjhjqh2ol3pnhjhjoiri1tj3qnhjhjoirivhs
     k3qnhjhjqhqi1tj4rmhhho1ii3thin1ih6jhimhi1ghaj1jprh2k6ushhik1nkkjhjinjktshhqk67ki1ui1ui1ui4i
     1jbsi2ih7mskpdul3pqi1k4qirj3hl3gv3sj1upii3pr3i1j19s2i6ch3k8fm2g787ko2ii16ihoh1nl5oi3i1ghh3p
     h2ml1ss2tk3gs2lh4jushoi2tj3ihhjiilh2sllheto4f3jh85nl68mjhilk31kk4hh14hi4vh10jj3lu2tirj2tpph
     3tj2ks1ii3pj3gtui5spihmhih9tq1nk3qniiiiqhqi5kphhihhkhi6nthj6q1ietnin1ti5ivhh6qr6nu10htfnmhi
     iijhhh8unimkh1sq2qlhk1ir2uu19nohn5j1mhu7qmjhhihjhhjh4ilhihk15skpihh3gnjj41dt1he2ghh3nnk5ti4
     cash236hnh1hinhihl6kh8bnh7eo1qm1qm1q"),
  (["odi", "otherdefaultignorablecodepoint"], [],
    "34vhe0vi65ji8avh10fuhce3rh4vpd000nhh1u6g8gfge1g"),
  (["ogrext", "othergraphemeextend"], [],
    "9buh1oh16mh1oh6mh1oheohhhkihipi6nh1oh7nhvh93lh1uh40ghlhhhli6lh4ni41oh102hi792jh6sh55dti122g
     h7kh10ohuhph6ghphihhjlheghshfhh10mh27phsh60jh50aui617jimmc2eat6g"),
  (["oidc", "otheridcontinue"], [], "bnh2cvhfehp66oh63hi10ethce6ph"),
  (["oids", "otheridstart"], [], "188li89hh1lhf6si"),
  (["olower", "otherlowercase"], [],
    "aqhvh1flpni1ul6gh3khd8hhc2v3vth2i2l2bhhth1gtdj1g35g1q79ii7a1uidih8hjji36ikph5c1mhijh2qhpd87
     l3u"),
  (["omath", "othermath"], [],
    "5uh37hjih1qiii1c2gh1rjrh2gk1oiui4htkhjikl1ihkhiqhhjlmhjiiihjhmjkll4rlikhihihhhliikik1iiihhh
     nhhmi12ikaoihh1oh1hh1btispllliiijluhhhim1oi3phhh1tkpi15mi1vq19j1m3vk2gid46jhhhkhdjhhhd4ch5l
     h4nhiihiiikhshhhnh4hhkiohnh1shkhlhhjnh15ki1ph1ph1vh1ph1vh1ph1vh1ph1vh1phoi3i160gkh1rhihhihh
     qhkhhhhmhkhhhhhhjhihhihhhhhhhhhhihhikhnhkhkhhhqh1hljhlh1h"),
  (["oupper", "otheruppercase"], [], "216g1g34m1q1cc6g1qm1qm1q"),
  (["patsyn", "patternsyntax"], [],
    "2hvqn1qkhh1qk2inhhhihhhikhkhjh1nh1vh1f1o1oovi1jhq13h2dgag27m1u46s20g8g18hjk1pvhcd0ti10li"),
  (["patws", "patternwhitespace"], [], "pl1ih6kh1f8oi1oi"),
  (["pcm", "prependedconcatenationmark"], [], "60gmdnh3hh18gi5gh107dqhvh"),
  (["qmark", "quotationmark"], [], "2ihkh8jhvh1f5so1pie0nh1cpktjce2hkbthkh5qi"),
  (["radical"], [], "2e8g1qh5psdm"),
  (["ri", "regionalindicator"], [], "1f1em1q"),
  (["sterm", "sentenceterminal"], [],
    "2hhsh1gh54ph9jjbkh2rjfmh3thhhji12li6eki31mhki30lhcmi9ti2thlh13qi16ikaiiqiii1tjbri4hi3akh1ni
     pjcavj13ihth1mi1ath74fsh10uiejhjh17ui5mi5vh9oi9jj9gifph522mhii3rhjiaphsh1gh4hhafki4ftl2skbt
     i7lk7vj8himh1gi5oihi6sh12qi7li17lilv6pifpj20lhhhfri5ni1aki2bki4qi4b2pi8lh4hirh22pi12oh4e0mh
     1deoh"),
  (["sd", "softdotted"], [],
    "6pickh11ph1uh3kh1kh14gh6ihhh190ph3jhthjh8kh9th1alhdmib3ih1a7ali3ii3ii3ii3ii3ii3ii3ii3ii3ii3
     ii3ii3ii88mh13hi1qh"),
  (["term", "terminalpunctuation"], [],
    "2hhqhhhrijh33uhoh20hh3ph4ohuhhjbkh2rrhheri3mmho1vh10li4fkiashkm13ni31lo30lh7sj4ni9tjjh2nkii
     13qi16ikaiiqihj1tjbrl3ui3akh1nipjcavj13ihthkhqhhiji1asi74fri10tjejl17ui5mi5vh9nj9jj7vh1gifp
     h522mhii3pjhkaphqhhhrijh4hhih43qh3gh48mhcnh13mi9om4km5pk3bol2skbtn7gk7vj8himh1gi5ol6sh12qi7
     ljsi16mkjv6pifpj20lhhhfri5niki19uj2th28li4qi52rl45fpi8lh4hjqh22pi12ni4e0mh1denk"),
  (["uideo", "unifiedideograph"], [],
    "340g19cg4g520g5a0uihhhiqhhhhiij105dma6eg2g103qmdui168iu1d3hv26u11ai134rl106g"),
  (["upper", "uppercase"], ["lu"], "216g1g34m1q1cc6g1qm1qm1q"),
  (["vs", "variationselector"], [], "180rjhhe5fg1gd02fgfg"),
  (["wspace", "whitespace", "space"], ["zs"], "pl7nh1faii"),
  (["xidc", "xidcontinue"], ["lm", "lo", "mc", "mn", "nd", "nl", "pc"],
    "4h1qm1q3qhhho1nh1vhcjhkkdgh1rcgkiiikhhmlhhh1kh5jh8roamh2mp2pb1n2mhhlhi2rij26pp2u5mim5dsh2al
     rl2rij4g2s3vth2i6l11mimi2mimiohhhhhhh1vi3lhnhhjjhnjkimktljhnvifkhkhiqhhimmhhhhhhrkhikllkh3k
     ia7r7si6nmkjis2mhhlh10hh2crh754k2u1i1s8m4uh1njkh3uiihhho1oijh33l2rlpn5g4f4gnsl14mm19mi7khhh
     hhhhhhhhhhhhai1qm1qqh49q5g6g2kk2k7krhvhnhihrhvhnhi6cj3jt3j5t1mq1mb1q4g556g4g658g5lh4nhiihii
     ikhshhhnh4hhkiohnh1shkhlhhjnh15ki1ph1ph1vh1ph1vh1ph1vh1ph1vh1pho73kqh1kmm9dl4k"),
  (["xids", "xidstart"], ["lm", "lo", "nl"],
    "4h1qm1q3qhq1nh1vhcjhkkdgh1rcgkiiikhhmhhjhhh1kh5jh8roamh2mp2p8aqh7vh1es2mhhlhi2rij2ag5mim48n
     i3fprl2rij4g2s3vth2i6l11mimi2mimiohhhhhhh1vi3lhnhhjjhnjkimktljhn10lhkhiqhhimmhhhhhhrkhikllk
     h3kia7r7si6nmkjis2mhhlh10hh781g2u1i1s8m4uh1njkh3uiihhho1oijh33l2rlpn5g4f4gnsl14mm19mi7khhhh
     hhhhhhhhhhhai1qm1q4ji46g5g6g2kk2k7krhvhnhihrhvhnhi6cj3jt3j5t1mq1mb1q4g556g4g658g5lh4nhiihii
     ikhshhhnh4hhkiohnh1shkhlhhjnh15ki1ph1ph1vh1ph1vh1ph1vh1ph1vh1pho73kqh1kmm9dl4k")]

def differing? (table : List (List String × List String × String)) (name : String) :
    Option CharSet :=
  (table.find? fun e => e.1.contains name).map fun e =>
    (categoryUnion e.2.1).symmDiff (.ofDistances e.2.2)

def binary? (name : String) : Option CharSet := differing? binaryTable name

end ServicePlacement.Unicode
