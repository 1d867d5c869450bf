import ServicePlacement.Unicode.Binary

/-!
The classes by which text is cut into user-perceived characters, words and sentences.
-/
namespace ServicePlacement.Unicode

def characterBreakTable : List (List String × List String × String) := [
  (["cn", "control"], ["cc", "cf"], "qhih5fimdnh3hh18gi5gh172pi1qi3rhdf8qp10ckhvhcef3ihhfufge1g"),
  (["cr"], [], "th"),
  (["ex", "extend"], ["me", "mn"],
    "9buh1oh16mh1oh6mh1oheohhhkihipi6nh1oh7nhvh93lh1uh40ghlhhhli6lh4ni41oh102hi792jh6sh55dti122g
     h7kh10ohuhph6ghphihhjlheghshfhh10mh27phsh60jh50aui617jimm228olc0c2g6g"),
  (["l"], [], "110g6g980g1t"),
  (["lf"], [], "qh"),
  (["lv"], [],
    "ac0gh1rh1rh1rh1rh1rh1rh1rh1rh1rh1rh1rh1rh1rh1rh1rh1rh1rh1rh1rh1rh1rh1rh1rh1rh1rh1rh1rh1rh1r
     h1rh1rh1rh1rh1rh1rh1rh1rh1rh1rh1rh1rh1rh1rh1rh1rh1rh1rh1rh1rh1rh1rh1rh1rh1rh1rh1rh1rh1rh1rh
     1rh1rh1rh1rh1rh1rh1rh1rh1rh1rh1rh1rh1rh1rh1rh1rh1rh1rh1rh1rh1rh1rh1rh1rh1rh1rh1rh1rh1rh1rh1
     rh1rh1rh1rh1rh1rh1rh1rh1rh1rh1rh1rh1rh1rh1rh1rh1rh1rh1rh1rh1rh1rh1rh1rh1rh1rh1rh1rh1rh1rh1r
     h1rh1rh1rh1rh1rh1rh1rh1rh1rh1rh1rh1rh1rh1rh1rh1rh1rh1rh1rh1rh1rh1rh1rh1rh1rh1rh1rh1rh1rh1rh
     1rh1rh1rh1rh1rh1rh1rh1rh1rh1rh1rh1rh1rh1rh1rh1rh1rh1rh1rh1rh1rh1rh1rh1rh1rh1rh1rh1rh1rh1rh1
     rh1rh1rh1rh1rh1rh1rh1rh1rh1rh1rh1rh1rh1rh1rh1rh1rh1rh1rh1rh1rh1rh1rh1rh1rh1rh1rh1rh1rh1rh1r
     h1rh1rh1rh1rh1rh1rh1rh1rh1rh1rh1rh1rh1rh1rh1rh1rh1rh1rh1rh1rh1rh1rh1rh1rh1rh1rh1rh1rh1rh1rh
     1rh1rh1rh1rh1rh1rh1rh1rh1rh1rh1rh1rh1rh1rh1rh1rh1rh1rh1rh1rh1rh1rh1rh1rh1rh1rh1rh1rh1rh1rh1
     rh1rh1rh1rh1rh1rh1rh1rh1rh1rh1rh1rh1rh1rh1rh1rh1rh1rh1rh1rh1rh1rh1rh1rh1rh1rh1rh1rh1rh1rh1r
     h1rh1rh1rh1rh1rh1rh1rh1rh1rh1rh1rh1rh1rh1rh1rh1rh1rh1rh1rh1rh1rh1rh1rh1rh1rh1rh1rh1rh1rh1rh
     1rh1rh1rh1rh1rh1rh1rh1rh1rh1rh1rh1rh1rh1rh1rh1rh1rh1rh1rh1rh1rh1rh1rh1rh1rh1rh1rh1rh1rh1rh1
     rh1rh1rh1rh1rh1rh1rh1rh1rh1rh1rh1rh1rh1rh1rh1rh1rh1rh1rh1rh1rh1rh1rh1rh1rh1rh1rh1rh1rh1rh1r
     h1rh1rh1rh1rh1rh"),
  (["lvt"], [],
    "ac0h1rh1rh1rh1rh1rh1rh1rh1rh1rh1rh1rh1rh1rh1rh1rh1rh1rh1rh1rh1rh1rh1rh1rh1rh1rh1rh1rh1rh1rh
     1rh1rh1rh1rh1rh1rh1rh1rh1rh1rh1rh1rh1rh1rh1rh1rh1rh1rh1rh1rh1rh1rh1rh1rh1rh1rh1rh1rh1rh1rh1
     rh1rh1rh1rh1rh1rh1rh1rh1rh1rh1rh1rh1rh1rh1rh1rh1rh1rh1rh1rh1rh1rh1rh1rh1rh1rh1rh1rh1rh1rh1r
     h1rh1rh1rh1rh1rh1rh1rh1rh1rh1rh1rh1rh1rh1rh1rh1rh1rh1rh1rh1rh1rh1rh1rh1rh1rh1rh1rh1rh1rh1rh
     1rh1rh1rh1rh1rh1rh1rh1rh1rh1rh1rh1rh1rh1rh1rh1rh1rh1rh1rh1rh1rh1rh1rh1rh1rh1rh1rh1rh1rh1rh1
     rh1rh1rh1rh1rh1rh1rh1rh1rh1rh1rh1rh1rh1rh1rh1rh1rh1rh1rh1rh1rh1rh1rh1rh1rh1rh1rh1rh1rh1rh1r
     h1rh1rh1rh1rh1rh1rh1rh1rh1rh1rh1rh1rh1rh1rh1rh1rh1rh1rh1rh1rh1rh1rh1rh1rh1rh1rh1rh1rh1rh1rh
     1rh1rh1rh1rh1rh1rh1rh1rh1rh1rh1rh1rh1rh1rh1rh1rh1rh1rh1rh1rh1rh1rh1rh1rh1rh1rh1rh1rh1rh1rh1
     rh1rh1rh1rh1rh1rh1rh1rh1rh1rh1rh1rh1rh1rh1rh1rh1rh1rh1rh1rh1rh1rh1rh1rh1rh1rh1rh1rh1rh1rh1r
     h1rh1rh1rh1rh1rh1rh1rh1rh1rh1rh1rh1rh1rh1rh1rh1rh1rh1rh1rh1rh1rh1rh1rh1rh1rh1rh1rh1rh1rh1rh
     1rh1rh1rh1rh1rh1rh1rh1rh1rh1rh1rh1rh1rh1rh1rh1rh1rh1rh1rh1rh1rh1rh1rh1rh1rh1rh1rh1rh1rh1rh1
     rh1rh1rh1rh1rh1rh1rh1rh1rh1rh1rh1rh1rh1rh1rh1rh1rh1rh1rh1rh1rh1rh1rh1rh1rh1rh1rh1rh1rh1rh1r
     h1rh1rh1rh1rh1rh1rh1rh1rh1rh1rh1rh1rh1rh1rh1rh1rh1rh1rh1rh1rh1rh1rh1rh1rh1rh1rh1rh1rh1rh1rh
     1rh1rh1rh1rh1rh1r"),
  (["pp", "prepend"], [], "60gmdnh3hh18gi5gh46rh1036uhvhfki20th56thhh14im2bsh1brh"),
  (["ri", "regionalindicator"], [], "1f1em1q"),
  (["sm", "spacingmark"], ["mc"],
    "9buh1oh16mh1oh6mh1oheohhhkihipi6nh1oh7nhvh5jh7vh17nirh2pjin1lhjmihqj67oh1uh32shhidghlhhhli6
     lh4ni143qi792jh6shbqhhh674ih7kh10ohuhph6ghphihhjlheghshfhh10mh6pi20uhsh60jh50aui617jimm"),
  (["t"], [], "11ao5oc5cr3h"),
  (["v"], [], "116g4oc60o1n959shjk"),
  (["zwj"], [], "200th")]

def wordBreakTable : List (List String × List String × String) := [
  (["cr"], [], "th"),
  (["dq", "doublequote"], [], "2ih"),
  (["ex", "extendnumlet"], ["pc"], "202vh"),
  (["extend"], ["mc", "me", "mn"], "200shdf9hif45rlc0c2g6g"),
  (["fo", "format"], ["cf"], "60gmdnh3hh18gi5gh172ojf0avhvhcef5i6g"),
  (["hl", "hebrewletter"], [], "5dg1rkkf52qhhqhthlhhhihihq"),
  (["ka", "katakana"], [], "303hl6lij5rhkfg1gdg2vh5occ0u3ob05ikhnhihh11vj3ihuk"),
  (["le", "aletter"], ["lm", "lo", "nl"],
    "4h1qm1q3qhq1nh1vhcjhkkdgh1r1iksmmilnhhh1h7gkiijjhhmhhjhhh1kh5jh8roamh2mjjhhh2phh4l1rkl11rh6
     fh3ghisn3qihhhlh1ohhhqhiphilhh1lk12g2r1kh1gmkkjhjinjktsh1h2mhhlhi2rij2ag5mim38i3k2jhkh17j1u
     ilr2sk1q5m3l5ih1dorl2rij4g2s3vth2i6l11mimi2mimiohhhhhhh1vi3lhnhhjjhnjkimktljhn10lhkhiqhhjlm
     hhhhhhkhmkhikllkh3ki33h3k71m7si6nmkjis2mhhlh2doi1ppnlijm5mmjh5qhkfg1g20g19cg4g520g64g2u1i1s
     6svp5gh1nhmh3uiihhho1oijh1ellhqql6h1njhj3ihhjiilihhh1oj5i2skpn5g4d4g16ui6q2mnsllhhqhthlhhhi
     hihq3dh1qm1qr3q46g5g6g2kk2k7krhvhnhihrhvhnhi6cj3jt3j5t1mq1m97q1r2ln15p4g556g4g18g17foo4dm2p
     q22enkhnhih12jvh1tjihuko18s210k5lh4nhiihiiikhshhhnh4hhkiohnh1shkhlhhjnh15ki1ph1ph1vh1ph1vh1
     ph1vh1ph1vh1pho73kqh1kmm9dl4k7es1qm1qm1qe7ma6eg2g103qmdui168iu1d3hv26u9ai21u5ei134rl106g"),
  (["lf"], [], "qh"),
  (["mb", "midnumlet"], [], "2uh1fepiqhde2thbkhmh"),
  (["ml", "midletter"], [], "3qh7sh2cvh1dnh9kh1a3ihdderh4hhckh"),
  (["mn", "midnum"], [], "2shuh34ih20qh8ii5uh18rh184rhde0rhjhbnhuh"),
  (["nl", "newline"], [], "ri7oh1faii"),
  (["nu", "numeric"], ["nd"], "60gm6lh7hh1bii5gh10fnhf6eihvh"),
  (["ri", "regionalindicator"], [], "1f1em1q"),
  (["sq", "singlequote"], [], "2nh"),
  (["wsegspace"], ["zs"], "agh1f6mh2nh"),
  (["zwj"], [], "200th")]

def sentenceBreakTable : List (List String × List String × String) := [
  (["at", "aterm"], [], "2uh1fflhde2thbrh"),
  (["cl", "close"], [],
    "2ihkj3hhhh1thhh2thvhe7uk75ti97ro1piqi3miui27pk1ti43gmnu4vi1vq19j1m3vk2gi40iuuiiq1oh1io1arqi
     ohjcd1uidni1s1gii1gmapi3hhhh1thhhhihif71ij"),
  (["cr"], [], "th"),
  (["ex", "extend"], ["mc", "me", "mn"], "200sidf9gid008g6g"),
  (["fo", "format"], ["cf"], "60gmdnh1bii5gh172pif0avhvhcef5i6g"),
  (["le", "oletter"], ["lm", "lo", "nl"],
    "aqhvh1flpni1ul9lh27ohads2rhkb9g2rij6s3vth2i2l2bhhth1gtcj2gafsi7a1uidih8hjji36ikph543ki7eghi
     jh2qhpd87l3u"),
  (["lf"], [], "qh"),
  (["lo", "lower"], ["ll"],
    "aqhvh1flpni1ul9lhd5l2rhkc2s3vth2i2l2bhhth1gtdj1g35g1q79ii7a1uidih8hjji36ikph5c1mhijh2qhpd87
     l3u"),
  (["nu", "numeric"], ["nd"], "60gm6li7gh1bii5gh10fnhf6eihvh"),
  (["sc", "scontinue"], [], "2sisi34ih1duhaui1eqh100phlh80qifeshce0uihi1si1tiiiihqhaoisi4oh"),
  (["se", "sep"], [], "8lh1faii"),
  (["sp"], ["zs"], "phhi"),
  (["st", "sterm"], [],
    "2hh1th54ph9jjbkh2rjfmh3thhhji12li6eki31mhki30lhcmi9ti2thlh13qi16ikaiiqiii1tjbri4hi3bsipjcav
     j13ihth1mi1ath74fsh10uiejhjh17ui5mi5vh9oi9jj9gifph522mhii3viaph1th4hhafki4ftl2skbti7lk7vj8h
     imh1gi5oihi6sh12qi7li17lilv6pifpj20lhhhfri5ni1aki2bki4qi4b2pi8lh4hirh22pi12oh4e0mh1deoh"),
  (["up", "upper"], ["lt", "lu"], "1c9g2rij4ag1g34m1q1cc6g1qm1qm1q")]

def characterBreak? (name : String) : Option CharSet := differing? characterBreakTable name

def wordBreak? (name : String) : Option CharSet := differing? wordBreakTable name

def sentenceBreak? (name : String) : Option CharSet := differing? sentenceBreakTable name

end ServicePlacement.Unicode
