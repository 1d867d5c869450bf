import ServicePlacement.CharSet

/-!
The general categories of characters: the two-letter categories, and the wider ones that are put
together from them. Names are in lower case, without spaces, hyphens and underscores.
-/
namespace ServicePlacement.Unicode

def categoryTable : List (List String × String) := [
  (["cc", "control", "cntrl"], "g2g5v2h"),
  (["cf", "format"],
    "ath55im1mhcgh3hh18gi5ghf2rh7fsl1ql3hlhqde8vhfpj10chhvh236i1g886gk14cvoc2e8mh1u6g"),
  (["co", "privateuse"], "e00g190ge070gfffuifffu"),
  (["ll", "lowercaseletter"],
    "6h1q3qh2p1ohohhhhhhhhhhhhhhhhhhhhhhhhhhhhhhhhhhhhhhhhhhhhhhhhhhhhhhhihhhhhhhhhhhhhhhihhhhhh
     hhhhhhhhhhhhhhhhhhhhhhhhhhhhhhhhhhhhhhhhihhhhjihhhihjikhihjjihihhhhhihhihhihjhhhiiijmhihihh
     hhhhhhhhhhhhhhihhhhhhhhhhhhhhhhhiihhhjhhhhhhhhhhhhhhhhhhhhhhhhhhhhhhhhhhhhhhhhhhhhhhhhhhhhh
     hhhhhnihiihhkhhhhhhhh4lh1rchhhhjhjj1ih1r2jhijjhhhhhhhhhhhhhhhhhhhhhhhlhhihii3j3ghhhhhhhhhhh
     hhhhhhhhhhhhhhhhhhhhhhhphhhhhhhhhhhhhhhhhhhhhhhhhhhhhhhhhhhhhhhhhhhhhhhhhhhhhihhhhhhhhhhhhi
     hhhhhhhhhhhhhhhhhhhhhhhhhhhhhhhhhhhhhhhhhhhhhhhhhhhhhhhhhhhhhhhhhhhhhhhhhhhhhhhhhhhhhhhhhhh
     hhhhh3g2pb4n2rij2fom88iphh7l2s3vth2i6mhhhhhhhhhhhhhhhhhhhhhhhhhhhhhhhhhhhhhhhhhhhhhhhhhhhhh
     hhhhhhhhhhhhhhhhhhhhhhhhhhhhhhhhhhhhhhhhhhhhhhhhhhhhhhhhhhhhhhhhhhhhhhhhhhhhhhhhhhhhhhhhhhh
     hhhhphhhhhhhhhhhhhhhhhhhhhhhhhhhhhhhhhhhhhhhhhhhhhhhhhhhhhhhhhhhhhhhhhhhhhhhhhhhhhhhhhhhhhh
     hhhhhhhhhhhpomqoooomqoooouioooooolhimhjjhiokiiooqjhi11ihjijh1rhkhkhiiokkh3lhaar3ghhjihhhhhh
     khhihmlhhhhhhhhhhhhhhhhhhhhhhhhhhhhhhhhhhhhhhhhhhhhhhhhhhhhhhhhhhhhhhhhhhhhhhhhhhhhhhhhhhhh
     hhhhhhhhhhhhhhinhhhkhs2mhhlh791jhhhhhhhhhhhhhhhhhhhhhhhhhhhhhhhhhhhhhhhhhhhhh1jhhhhhhhhhhhh
     hhhhhhhhhhhhhhh8nhhhhhhhhhhhhjhhhhhhhhhhhhhhhhhhhhhhhhhhhhhhhhhhhhhhhhhhhhhhhhhhhhhhhhhhhhh
     hhohhhhihhhhhhhhhkhhhihhjhhhhhhhhhhhhhhhhhhhhlhlhhhhhhhhhhhhhhhkhhhihjhhhhhhhhhhh1qhjh33l2r
     lpn5g4f4gnsl42p1q4ct2o8o2k9rrhvhnhi70j3j7t1mb3q2g558g2g659q1q1qnh1i1q1q1qkhhhnhr1q1q1q1q1q1
     q1q1q1q1q1q1q1q1q1q1q1q1s1s1phm1q1phm1q1phm1q1phm1q1phmhh73kqh1kmm9fn2i"),
  (["lm", "modifierletter"],
    "2bg1iksulnhhh8lhlh1duhemhaki10tikh1vhphjhaghanh4dkh7vh23lh6dqh6rh26jh1dgmau3vth2i2l2bhhth1g
     tbdvifhhbvh1dlh2rllh6hi5tj6f1mh4eim10uh7ih1si7pp5gh1nh6pjji1dlh1mh8ph6sh1li6nkph540mh2ti7eg
     mh2qhp59jh2gh5ddgk1fsj2oi22mt4gihh400skhnhi303h3ucpn3ath45vh"),
  (["lo", "otherletter"],
    "aqhvh10ghkkdgh33r1rkk2t2ghq2jih6jhh1oiqjih1ghh1u1t5prh1o2h1l1m2q1pnrl1ohm1h2p3r3mjh1ihnq1gv
     koiii1mhnhhjkjh1ghtihjuiqhomkii1mhnhihihi1vkhh1jj1gphjh1mhnhihljh1ihvi1nhroiii1mhnhihljh1ui
     hjvh1hhhmjjhkjihhhijijjjs1mh3kohjh1nh1gjh1qjihii1uhkohjh1nhqhljh1vihivi1hphjh2pih1ghljoj1om
     l1ij1ohphhin3q3ghism3rihhhlh1ohhhqhiphil1nk2gh3voh2k1rl7j2r1kh1gmkkjhjinjktsh7h14phkinhhhki
     2phki2hhkinhhhkivh3phki4j2l1g7h26si1hh1ql4rmon1it1ju1iuthjv3k2oh4j2jh3lnli2ihhl4mq1v3h1uilr
     2sk1q3m1np3lbg2v1ho3m1utiq2s1q2k2pjq1u7hkhmhijh43qkbfn3o1o1npnhnhnhnhnhnhnhn22nh3lhk5mohh5q
     khl2rh5u1h2g3g1g20g19cg4g521lh47n4j2oo10sk1gqi4ih3h4maph6nhjnhjhkh1n1t3ku3i3umjhhir1sq1n1p1
     tn2v2tlipqlh2p1njho1k1ghmjhj3ihhjiilihhh1oijrnhumimimpnhn9h2j1t2baks1nk3h210k16ui6q4jhhqhth
     lhhhihih6s2h16r1i4gi3m2os7klh8n6pqh2ti1vjmimimij2jsh1qh1jhihviu2i7r18l1tj3h2v2gt1khom2mq1ui
     2kko8g4u6i2oo3k5s3ks13np1mqo9omihh2shijhi1nq1np1v4h1jhiq1mq1q4m3omi4ghvkhjh1t2q1tj1t2joh1s1
     r3mq1mq1jt1i6u4pbn2k2mkhh13g2qmi1gj3r1tqho1m2q1i2u1l1r1ns3l3piiht2t2g1p1q2k1thiho2jjhs3guk1
     lhhh2j1ih1p1ji3vnhhhkhvhqn2v2moiii1mhnhihljh1ihsl1uqhhihh2mhh1phhh2s3l1ik1kj1u3g1kihhbo2v2p
     k2k3g1kh3r2rth4n1r2lnbp2sdjoihiohih1ovhhh5uoi2n1ghhh1shq2onh1lhr2u1jh1i4pcn2h1vph2l1hh3h1u7
     gnhih2m1lh1pmhih2guh14n1jvhhth2i7sh4v39qemcka4s6hv43g1hm1pf9rl24n1abp1u6ei23pn1v1h4v1h1u1i3
     g3j1ll1j1bj2o19l4rlhav17foo4dm2pq22fn12jvh1tjihuko18s90k6rltjpnq227gh1fl2t2hh14h1u1i2s1ek1r
     el1uih1evnhkhihvhcl53rkh1rhihhihhqhkhhhhmhkhhhhhhjhihhihhhhhhhhhhihhikhnhkhkhhhqh1hljhlh1h1
     14ka6eg2g103qmdui168iu1d3hv26u9ai21u5ei134rl106g"),
  (["lt", "titlecaseletter"], "1clhihih2mh1d9loooooshvh2vh"),
  (["lu", "uppercaseletter"],
    "4h1q6l1nhn2hhhhhhhhhhhhhhhhhhhhhhhhhhhhhhhhhhhhhhhhhhhhhhhhhhhhhhhhihhhhhhhhhhhhhhhihhhhhhh
     hhhhhhhhhhhhhhhhhhhhhhhhhhhhhhhhhhhhhhhihhhhjihhhihjikhihjjihihhhhhihhihhihjhhhijhnhihihihh
     hhhhhhhhhhhhhihhhhhhhhhhhhhhhhhihihhjhhhhhhhhhhhhhhhhhhhhhhhhhhhhhhhhhhhhhhhhhhhhhhhhhhhhhh
     hhhhnihiihhkhhhhhhhh12hhhhjhohmhhjhhhih1hhp2jhijjhhhhhhhhhhhhhhhhhhhhhhhlhihhii3j3ghhhhhhhh
     hhhhhhhhhhhhhhhhhhhhhhhhhphhhhhhhhhhhhhhhhhhhhhhhhhhhhhhhhhhhhhhhhhhhhhhhhhhhhhhihhhhhhhhhh
     hhihhhhhhhhhhhhhhhhhhhhhhhhhhhhhhhhhhhhhhhhhhhhhhhhhhhhhhhhhhhhhhhhhhhhhhhhhhhhhhhhhhhhhhhh
     hhhhhhhi2mb4p2mhhlh2di5m89jhm2rij14ghhhhhhhhhhhhhhhhhhhhhhhhhhhhhhhhhhhhhhhhhhhhhhhhhhhhhhh
     hhhhhhhhhhhhhhhhhhhhhhhhhhhhhhhhhhhhhhhhhhhhhhhhhhhhhhhhhhhhhhhhhhhhhhhhhhhhhhhhhhhhhhhhhhh
     hhhphhhhhhhhhhhhhhhhhhhhhhhhhhhhhhhhhhhhhhhhhhhhhhhhhhhhhhhhhhhhhhhhhhhhhhhhhhhhhhhhhhhhhhh
     hhhhhhhhhhpoomqoooomrhhhhhhhoo4okskskslrk10mhkhjjijihjlmhhhhhhkikqilh3tha7s3g3ghhjihhhhhhkh
     hihojhhhhhhhhhhhhhhhhhhhhhhhhhhhhhhhhhhhhhhhhhhhhhhhhhhhhhhhhhhhhhhhhhhhhhhhhhhhhhhhhhhhhhh
     hhhhhhhhhhhhohhhkh794thhhhhhhhhhhhhhhhhhhhhhhhhhhhhhhhhhhhhhhhhhhhh1jhhhhhhhhhhhhhhhhhhhhhh
     hhhhh8nhhhhhhhhhhhhhjhhhhhhhhhhhhhhhhhhhhhhhhhhhhhhhhhhhhhhhhhhhhhhhhhhhhhhhhhhhhhqhhhhihhh
     hhhhhkhhhihhhjhhhhhhhhhhhhhhhhhhhhlhlhhhhhhhhhhhhhhhkhhhijhlhhhhhhh1oh572r1q4cl2o8o2k9srhvh
     nhi6eq3j9t1mb3q2g558g2g65ag1q1q1q1q1q1qhhiihiiikho1q1q1qihkiohn1rihkhlhhjn1r1q1q1q1q1q1q1q1
     q1q1q1q1u1p2h1p2h1p2h1p2h1p2hh113l2i"),
  (["mc", "spacingmark"],
    "90jh3nhijokhi3ii3qjmiiiqh2rh3qj4ih3qjohhi3li3qhhhmiiiqh6mihijjhjqh2pj3tk3ti3qhhliihipi1shui
     3qjljhjqh2qi4rjmo1ii14qi3vharikhmhii1piqjin1liimihqj67oh1uh8hhnohi15qkijkihmegi3qhhhphhiom9
     hh3ghlhhlhi3th1uhkiih3shijhhji3gooiarh1lh133mi77fjiih5oi3i1g8ui2vh3gikiij6uiii1oh2thhh6thii
     lhetihihihh641jhhh7vh2tjki7jh1oi3rh3gjpith5tjjihhaqj1vi3qihkiiijphqi5kjnhihhkhihh6ljoijh6qj
     mhhkihetjmkih7hjoihh6thhimh6nhhikh10ljphfnmhikhihhh8ujokkh5kh1ti3uh19nhuh6qhnhihdllkihh15ui
     sh3gioihh41eoje2k3n6oi617jimm"),
  (["me", "enclosingmark"], "48oi163kh61ukhj858rj"),
  (["mn", "nonspacingmark"],
    "30g7g11jl10p2thhhihihh4or3g1l1gh6lnimiihk2jh1u1r5rr3qpph1okhphjhl2rj3rp2q1oh2g3nhhhkokhjnqi
     1th3qhkkoh1ki1qhii3phkikiijjh1uijhri3phklhikh1ki1mmhh3qhihhkohniri1uh3thsh3ihjh3nhhjljhknir
     i1th3qhihmhli1ki1si3pikkoh1ki1th4ohnjhh5qhinso6ihiprn4pi1rhhhhh3nuhlhilrh2kph6mkhmhiii1pikj
     1gkthiimhvh2bvj3bij1ti1ui1ui4gihnohirph2tjhh7li2ih7mjkiphmjdriih3qhhnhhhhiomqih3guh1g3hk3gh
     hlhhlh2opsi2gkiihj3ohhijhhj3qoii9ojhthnkhmhjicm4g2dgtkhjsbfuj8th6g2g22qk6ri75dkhkq2gi5gi11g
     hjhkh1pilh9ni1q1ith2mo1pr2uj3ghikii2nh4jmiiiishoh2vh3jhhjiilihh2qioheuhihkh4f3gh2eh1g1g1g3c
     theih9ll68mjhilk2ojkhali23tk4hl13ti4vk4mr3hk7rh3mv2phiiqj3hkiinh3tj2klho3uhsi3kpqkih5vjihhi
     mhih9thjo1li3pijh2lnjl4mmthhhhhui5loijhh1nh5kmhhkihieukmihi1ri5loihhi6qhhhimhh6lhhhikhl10jp
     hi10gihhkh9gkiikh2gq2omikohpmij2uthi19mnhmhh5i1minhihi7qmjhhihnhh4oijhhh15riri3kllhhh1nh14e
     lhmv2ccosjj9cgl3rn41oh3vk5hh4cboi126h2ui1n22gj1hoin1uk9kj7br3nk3iohuh1mlhv55gnh1hinhihl6kha
     gn17nh3tk1fskfui2egn6tnc17blfg"),
  (["nd", "decimalnumber", "digit"],
    "3gq62mq8mqcmq19sq7mq7mq7mq7mq7mq7mq7mq7mq7mq6gq7mq4mq11mq4mq74mq2mq12sq8gqamqmqbmq5mq8mqmq8
     9cmq2amq2mqcmq1mq5mq19mq531mq58mq88mqmq31sq8gq3sq9gq11mq15mq7mq17mq6mqm1k4sq1amq6mq29mq5mqf
     mq4mq1amq41dmq92mq5mq8mq21mq5f7mqadk3i94gq1amq1fmqfnq35lq129mq"),
  (["nl", "letternumber"], "16euja6v2jike7uh1ppuj76arq5a5g3l1cshoh8ml202q6v"),
  (["no", "othernumber"],
    "biilhij93lm17om7oj8lndpn1hp1bhq43l1k47jq1egh69lhjmmqcm1g2ph2dm3s4u1m27m1u56ph49kk8qq1uohv2g
     q2nv757gm58dh2t4hk1hi15l1r2kk53ko1pn2np4rl1mmagii1gi2u4gp3ki1uj4rl6oo1oo2pn14qm16g1v9uq2qk7
     gn8m1k17r1k54li1aup36n1j35j1l4b8mn31u1n642p1ks1k6s1p154up3ah3rhjhk4s2thv3cit"),
  (["pc", "connectorpunctuation"], "5vh1fdvi1jhdddui1ojevh"),
  (["pd", "dashpunctuation"],
    "2th55sh3jhe4hh40lh80pme0hhih1vikh1sh1buh1jh6vhcd9gi2lhqhaphe6gh13uh"),
  (["pe", "closepunctuation"],
    "2ph3jh1vhebthhh75uh9aph3nhvh27qhhh1uh43uhhhhhhhhhhhhh5gh2ghhhhhhhhh19khhhhhhhhhhhhhhhhhhhhh
     4ghhh2hh42lhhhhhhh2shhhhhhh1ashhhhhhhhhjhhhhhhhiicd1uhdph1thhhhhhhhhhhhhhhjh1hhhhhhaqh3jh1v
     hihih"),
  (["pf", "finalpunctuation"], "brh1f5thjh1shdcohhhkhihvhjh"),
  (["pi", "initialpunctuation"], "arh1f6shiiih1phdcohhhkhihvhjh"),
  (["po", "otherpunctuation"],
    "2hjhjihhhhiqiji1rh4khlhuinh2buhoh1dim2ph3mhihih2si1kihithhj4qk6mh2ruepj3mv1vh10liqh8sh7oh7p
     h18mhsh16vh5qhqiaovhh7gh4qlki6vmarh26kp30lh7sj4ni9tjhj2lmhk13pidoi8gnhmagiqn1sj7sk3rl3ui4go
     rh34iiooopikijjrhhhqc9qkhi7gh8vikjihiphihhiiqlhqikhhhtij1asj3phbth740ii10tj6jhqh7jm17sk5mi2
     ojhh3hi2vh6ht1gi7sk7ui1gifph522knih1mh1kiikjjhknjmhhi9ljhjihhhhiqiji1rh2khii19qj29sh3gh19uh
     2enhcnh1vh11gp2mh7gn4in5pk3bol2skbtn6tihk7uk3gi4vkkhthhj5om6rh12qihi7ilqihh6ohfq1n6pj1st4sh
     8ijfsh10oj9rh5so5jjhl5tqdnh5vl2qi28li4qtavh47glb7si3a7ri8lh4hloh22oj12nk14nh4cbsh1denlb7jh3
     5ui"),
  (["ps", "openpunctuation"],
    "2oh3ih1vhebuhhh75uh97uhjh2mh3nhvh27qhhh1uh43uhhhhhhhhhhhhh5gh2ghhhhhhhhh19khhhhhhhhhhhhhhhh
     hhhhh4ghhh2hh42lhhhhhhh1ph1ihhhhhhh1ashhhhhhhhhjhhhhhhhihcd2hhdnh1thhhhhhhhhhhhhhhjh1hhhhhh
     aqh3ih1vhjhih"),
  (["sc", "currencysymbol"],
    "2kh7tk4eph7rh1fii1fiinhflh10nh24lh99rh8ck2h877nh55cjh6sh9qhdriji1ffmkc31uh9bgh"),
  (["sk", "modifiersymbol"],
    "5uhhh4nhmhkhjh20pksulnhhh1h7lhui50ih173khhjrjtjtjti109si766j1npi6ni3dghui504m1h37rhhhaihf41
     nl"),
  (["sm", "mathsymbol"],
    "2rh1gj3thhh2thkh2lh1vh2fuh20vj1a3rhth2njtj8rh2nlmh4kllikhihihnh1viihhh1v10s2gi5qh1u1p2om1dl
     hph3mo6vh15gli1vq1g10g8j1m3vk2gi10i3g1limcfdsh33ohhjakh1gj3thhh8jhmkdahic93hh1ph1vh1ph1vh1p
     h1vh1ph1vh1ph172si"),
  (["so", "othersymbol"],
    "amhihkhhh3dhh10qi7vicuhqh1jifnh20jh17lh8imhh8khcvh2ph18njvhhjim1khhhhh8lohmhilkcli2fgq2djh2
     dih9t2i16hqpp58jihkhiqhhimmhhhhhhkhriuhhihh3qiplikhihihnh1viihhh1v10sok1kini5hh1u1p2om4o1mr
     5h4u1mbnhph3mo6vhfo2s2s4g10g20g3g1lim2ni2gh6pelm16li2u1qh5psdm1q1gkhtish1limi15gikq2g2mph1g
     1vr1uohv2gq2nv14g19cg4g569g3n36hkqihh23tj52cm1g7vh2tj1ekhjhkiti13pp3p1hijhtjh2v2t67qi24vhc7
     mh89lok1h4b4qklh515mhf6jfg1g1bk9s7k3sfmq2ni3slj1min1uk3t1l4ijhbq5n4ap20g3nk3iohuhi6cohb5sh8
     hh2dh2sk6ksvivhvh2l1nah3o1tt2skpnium9qfrl2dok1hjtj7nk5vmskhvsk3ooqm2oo1uiski3u15ksuitjql3on
     virmpn9jh5s"),
  (["zl", "lineseparator"], "202oh"),
  (["zp", "paragraphseparator"], "202ph"),
  (["zs", "spaceseparator"], "2gh7vh15dvh97vr2kh2vhfagh")]

def categoryGroups : List (List String × List String) := [
  (["l", "letter"], ["ll", "lm", "lo", "lt", "lu"]),
  (["lc", "casedletter"], ["ll", "lt", "lu"]),
  (["m", "mark", "combiningmark"], ["mc", "me", "mn"]),
  (["n", "number"], ["nd", "nl", "no"]),
  (["p", "punctuation", "punct"], ["pc", "pd", "pe", "pf", "pi", "po", "ps"]),
  (["s", "symbol"], ["sc", "sk", "sm", "so"]),
  (["z", "separator"], ["zl", "zp", "zs"])]

def leafCategory (name : String) : CharSet :=
  match categoryTable.find? fun e => e.1.head? == some name with
  | some e => .ofDistances e.2
  | none => .empty

def categoryUnion (names : List String) : CharSet := .unions (names.map leafCategory)

def surrogates : CharSet := .range 0xD800 0xDFFF

def unassigned : CharSet :=
  (CharSet.unions (surrogates :: categoryTable.map fun e => .ofDistances e.2)).compl

def category? (name : String) : Option CharSet :=
  match name with
  | "any" => some CharSet.full
  | "ascii" => some (.range 0 0x7F)
  | "assigned" => some unassigned.compl
  | "cn" | "unassigned" => some unassigned
  | "c" | "other" =>
    some (.unions [unassigned, surrogates, categoryUnion ["cc", "cf", "co"]])
  | _ =>
    match categoryTable.find? fun e => e.1.contains name with
    | some e => some (.ofDistances e.2)
    | none => (categoryGroups.find? fun e => e.1.contains name).map fun e => categoryUnion e.2

end ServicePlacement.Unicode
