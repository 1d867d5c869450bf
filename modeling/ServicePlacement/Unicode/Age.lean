import ServicePlacement.CharSet

/-!
The version of the standard in which a code point was first assigned.
-/
namespace ServicePlacement.Unicode

def ageTable : List (List String × String) := [
  (["1.1", "v11"],
    "g1fmk1u3o5pn2vhq1m4m1qi1iikhjhlnhhh1kh2shnjhhhhhhhh1itsh4ihsh2pp3liiiij1sioii3n2minh2nhh2mq
     hps1rll1nhuhjhh1ql1jtui4oilhvh1uiq20njh3li1iilj1p1gjhoiii1mhnhhjkihhniiijphkihli1lnhimkii1m
     hnhihihiihhlkiijrkhhnvsjhnhhhjh1mhnhihliqhjhjihvhlq1hjhoiii1mhnhiikiojiijoikihjkr1hihmjjhkj
     ihhhijijjjohjkljjhkphvsujhohjh1nhqhlknhjhknipikq1iihohjh1nhqhlknhjhkninhhikq1iihohjh1nh1gkm
     ijhkphoikq9h3qk1t2lihhiihhihmkhnhjhhhhiihthjilhhhmiqii1ci2mq2nkhk5ql4kl5ic0m9rl5qm1mimi2mim
     iohhhhhhh1vi3lhvhuimh1jijhph2vh1n2jnj1r1hr2l1i1u3p1q3gt5r1lfiuhh7p8l2l1rr1l8r1l9mq5g1g1km5m
     9hkhki1sh2jhhhkjhhninu1vj1ohu84h3onhh5kkmi5um2ok5uh1g6g1tj2k1s1sj3ivsk2vh7nk6ji1v1a0h51am40
     5q1a2udinslm1phlhhhihih6s2h16t1g4gi3m2os2kks1lkqh1jhkkjhhh8nihh5ui5ujmimimijjnhnuj"),
  (["2.0", "v20"],
    "59h1hht1kh93r4oh2hn1rkmhhh1ljnhheehh20vh8b5k2bak1285qifffuifffuifffuifffuifffuifffuifffuiff
     fuifffuifffuifffuifffuifffu2000i"),
  (["2.1", "v21"], "20ashdf4vh"),
  (["3.0", "v30"],
    "1fmk1uoi1i7ll3hhql5np1jh7khjhhhhhhh1uhsh4ihsh2qiik5si9shcoj6iilhvh2qlhuh1uj1r3l3h5dhih1ij1o
     hphhinjhkmhhho1ij17lh2rh1njnhhjhvih3g2ihlhihnjkm1q1amnh3vhhhkinhhhki2nhhhki1vhhhkinhhhkinhn
     h1nh1vhhhkinh2nh1jm1s2j5ls27mp1tj5h8v5tjq1mvhqm5oo2q78lh1om5vj3ii5li4oh6np10th7phh1u8qi1cpo
     2hh5mi18u10g58g1qh5psdm1qs3sjjh16h1o24o19bm524q48tj1ii1ghshjhh565mh4drj"),
  (["3.1", "v31"],
    "3fkif9dq2g51g1vhks1rbl2mi2mcbbifmq2njbk22i5lh4nhiihiiikhshhhkhih4hhkiohnh1shkhlhhjnh15ik12i
     k3i280ga6dn512p21ub05ejh1u6g"),
  (["3.2", "v32"],
    "22gh12uh1jt6oi1sh9ji3piiiii3h1g15ui14hh94li60nthnr1np1ksthjhi8djhmlkhnlth3ui3in5ivaosfiu7sh
     1u3k11s1k9nq5oo1mi5qsiqduu5q1sk1g10g20g53rj5nioi5uhfg1g5hv5hv71eii1ghshjh556q3r39hhj1g3li2s
     heri"),
  (["4.0", "v40"],
    "22hh1ij7ni3v1h5golj9nl20kkpp4gj9livh2tj1tj1bkhboh4jhhh8oh5kjth4jh3rh8hochib1vh1iq10m1tjsksk
     hj2qil6r2g30g6s2eniemh29ji12uh11ki7koui45uu70vi3hh2ri4ukank6ji1vh19cg4gaffth4pi1bnsh1qh1jhi
     hviu2i7rljk2tjp24g1uhh8mi2m5giq35mmihh2shijhihcacg5n16qhc2c3ufg"),
  (["4.1", "v41"],
    "23nr11ml9vkfmiaqh2ij4jh1ih3qmfh1u20vh5gh1enh2vh3epi12nihh10qh3vh3vh2nh1vh1vh1vhvh2nh1ni1v1q
     5em2qm1qmqki2g1sii34s5o29hihn3hl1tk3lh5ghvh28kr23sh6li1irl1g10un34nmes2vh2v2h6ru2tq3mph1g1n
     pnhnhnhnhnhnhnhn2h1oki3ai1gauh6d2n1m74k1nep2s524k6q33mq32m4r21l2kku62qkhilohjh1rkjkpopc7an4
     m45ui"),
  (["5.0", "v50"],
    "24iu12rj15hh2qm1gkamh20l3r18gihi36iitie0t4sk2t24nn3ji2esk5ti3lh25ns2cqh11kk34pnlk13stnk7a9v
     kli11u3o608o1qlh16eg36v9h6jtkaees1i45oi"),
  (["5.1", "v51"],
    "37gkii5nhbnh8s1geilrl2gl12u1i1fhiduh2jhcuh1ti6sh6sh1qioi1kobthmh1tismjn1eri6hhjj4thlhihnjkm
     1q4gki80qh2dl2rjs4m3ojvj3j14r1sblk5qm16kh8rh5uh3lk51kh1lqjk10oh1vk32rlk2pjl11ojhjkm16i2g1ok
     i1j2fshai1k6ddoo53s12s1k2gi1io1s8jli6r6ul8g4lps2m5krhag3npuiqik53ckj36ps3k2u8i1tj3h64v1qlhc
     7eph1edm2sk6k"),
  (["5.2", "v52"],
    "52ki2dq2uivchh4thmh2ji8gh5dpkchkbsl4kl5im20gh27mp23g4mbki2uh4l3vh1tirmqmu22i2j10qh2boj9nj3m
     h25uh2bli1tjkqh1jhhk1o5nh3ftl11mhti6rn13vh41is6d7ko50k3g1ag5o13oqam1s6k1tj4uhrki8g1sk4j1ole
     g2uiq2bbm1nk3h226vjddi1mhpbqi14k2g8g3mj1ti1rlo8g4p21n1v20h4i1f3u42vbcdhrl1vihrhhhihjhjlohnh
     1phhiihqkih6vhv2iupb4bn103l"),
  (["6.0", "v60"],
    "52mifoh3uh1eg1sihdri1jhmi1rl1fqm1bhh1gh1jh23tk4pi38ii86h3kok1fsh29oo1sh32vr2dqh1jhhk1thki1s
     h2jhhhkjpi3kj1ohuhui5aghuh43oj74ali12rihiuq5gh30mmimimpnhn508j1g143u4uk1u579g23p45cni409uvi
     uivhv5ghhrhhhihjhjlohnhqmphhiihqkihq4r1qhi2vp1liau2hvmh4mj1ks2lhl1l1hv3vhhhbmhkj3u1i1o9jlh1
     ghjhhhhhhhjhmikhhikhskr3g4m3q7kbfcsdu"),
  (["6.1", "v61"],
    "58vh7kh29rhhr3n1r1fhh3eti1enhlh2vjaarjsm10go2rkadkhhh52ki3jhlh3oicqq719gh6ano2jhfii1mh4ti2e
     m1n4f3nif5g3omi71g1pnqm3lhu3s4pnq4am3ooq583m4lr2v1g1h7e6gkh1rhihhihhqhkhhhhmhkhhhhhhjhihhih
     hhhhhhhhhihhikhnhkhkhhhqh1hljhlh1h3ki27oi3dkkbsh1ghjhhhhhhhjhmikhhikh"),
  (["6.2", "v62"], "20bqh"),
  (["6.3", "v63"], "61sh1a4pk"),
  (["7.0", "v70"],
    "37vh1aoo5ti7mh29rhrm4sh7ohnh27vh3jh4sh7vhekq90ho22ki19hv23pietv2clj33mn30lh44sjq1qi2gi2ijsh
     o26qn785lmfmsrjii4lh1eo1v7tkbg3gki52chn35ti1jh13v1s2jh3g2r18l2oo3krh9g13np1mqofo3vop1dg2g2g
     2nks8p1inksn4cvhdg2n5mhshm1kr1ih2r7i3rlqnjhoiii1mhnhihlipiiijphlninjl10r4ooqam3mi1i3m4lrq24
     m5jsh1cg3p87m2qcqslh45cr1vhqki6g1uimq4mqqhnh1ll1j507g6rltjpnqio2b5scli1g7eoh2g1m1li21ksph4m
     h1ms2lhlkls1hn4nhhhbmhki3vikn1t1ih2ph5m4mit3g4mq1gtjk8s5l2rsk3ooqm2oo1u"),
  (["8.0", "v80"],
    "8bji2uh21lh16gh10kh69lhimccghcria6gk73dtp6cohfgh2im14ki26iks5g526uiabg1jhillbsii1gi2u28g3jt
     3jnm4cpkulagnhhhkhvhr5mh4vh27p1k12i1qjvk1gc5phemck1ebs24n8b9nr61n28svlhv187tj4ui4vl2kofvh4r
     lfji8rh23vp6nl3rhbe5v168i"),
  (["9.0", "v90"],
    "8bmo1mv39thcuhkjhn1njf0np17ih5fvka4ki796ph11mh58cni32h2kk2kd4ih1ch5qhhhh20it59jph2thuq1tj2g
     i1mhu532ph1v17et1j2fj550tnh1hinhihl8dl4rlqki83r1i8uh33uh2ph12si2hj22imhoohishskv2mt"),
  (["10.0", "v100"],
    "86gr19hifsm20gh3qifbqhfuk2clh33vh7dih27il2ekh6ean1l634ij16dg4oo3ki1nhl25tnhih2sjhhihpoq528n
     h402g11t5h18s3f6km46ti2ii20ns1jhoohi1ph1it2mm3o1nd4cp1d3h"),
  (["11.0", "v110"],
    "56gh2nh6mh20tjdjh12qh7nh18th7vhbfjh41n2rijefqj1m1pkv24rl2egh6ebrl7bvhoi14ki613ki1ih2bn2ooq1
     cm2oo2q17jh7mj1fkh12ih2brhel3s26hh2cimhih2lhihmnq13m1p4f4n5r195il4aeu1k7un18fo4k47qh5cphdrk
     17kj1slikjhhk1ortqni2k1p6gu"),
  (["12.0", "v120"],
    "c7nh20uhihihhmkhnhniihthe3vhecuh3lh24vh796qmil39vi647o1n46oh25oh2enoi2uir9vi53q3ith143gp3b0
     smkh2vp5qi180um295oj1hk2f9o2tjuiqki17g3qlh64rh3bl3t42uh56oh2khels12hj2vh3hhph2pmjiqmjoij3g5
     k1skkjljtm"),
  (["12.1", "v121"], "32fvh"),
  (["13.0", "v130"],
    "8buq28th1auh7shd3ti10dmh2boj36ol1bfmq523gt7cqk2qi3lh33rk563ghcej2qhjiifu1s17rh8mi28qhli49un
     ihiohih1uhiispq65mh503jhri1b0h1ej2qp640kj5tj3th52oi2ji1bji5qh6lhki2qimj1thaohukv1jnnpjtn2p9
     jh3n2lqaadtn592i134r"),
  (["14.0", "v140"],
    "61th25i1vhimo1lh1ir36ph2gh7vha2vhnhphevh2bhu7th3gi27rh2clhb6uh2vh1fjr719vj7cgiuihhhl1oj53ct
     h17t1g7vh2ui77grhvhnhihrhvhnhi1cjmh2qhp7bl1qemm4sh5fmh8mn36p1g14dg6j3a7t4vhq452mkhnhi12gk1d
     dt2ui1np7k22lid1l1v37h1v53hnhkhihveduj11gh18oh5ihaui2skqkoj1hjmoonabeni105lk"),
  (["15.0", "v150"],
    "cfjh1dqh1002uj33vj8buq3fm1hh2pj1s14dlhp1t7cdsh2ih216q1kc5hm10l3u2hh44g2q11eih9njkl5ph29rjvi
     2kjrjhhuiqishuibc4gh5c1m106g"),
  (["15.1", "v151"], "2ffsk1evh2ba0g26u"),
  (["16.0", "v160"],
    "89nh12bmi2vh10pi79sjdbqi75eljsj5dej3k74s2mj1toi13ij3nh48jqhhihh2mhqhhihhkhqhioi2et1k4ds2iuq
     36gh150lf9r1d0l3qc0m3q1f8lh3f0gfqm1bk171s2rkh12biqki1cnhlh2uhnh1lhihpheh2l")]

def age? (name : String) : Option CharSet := do
  let i ← ageTable.findIdx? fun e => e.1.contains name
  return .unions ((ageTable.take (i + 1)).map fun e => .ofDistances e.2)

end ServicePlacement.Unicode
