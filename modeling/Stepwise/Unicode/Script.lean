import Stepwise.Unicode.Category

/-!
# Scripts

Every code point belongs to one script. The table gives the scripts by their
four-letter names, in runs, as `categoryTable` does for the categories; what
belongs to none is `Zzzz`. Some characters are used with several scripts, and for
these a second table gives all of them, the script they belong to among them only
where it is in use.
-/

namespace Stepwise.Unicode

/-- The runs of scripts, from the first code point to the last. -/
def scriptTable : String :=
  "41Zyyy1aLatn6Zyyy1aLatn2fZyyyLatnfZyyyLatn5Zyyy17LatnZyyy1fLatnZyyy1c1Latn27Zyyy5Latn
    5Zyyy2Bopo14Zyyy70Zinh4GrekZyyy3Grek2Zzzz4GrekZyyyGrek4ZzzzGrekZyyyGrekZyyy3GrekZzzz
    GrekZzzz14GrekZzzz3fGrekeCopt10Grek85Cyrl2Zinha9CyrlZzzz26Armn2Zzzz32Armn2Zzzz3ArmnZ
    zzz37Hebr8Zzzz1bHebr4Zzzz6HebrbZzzz5ArabZyyy6ArabZyyyeArabZyyy3ArabZyyy20ArabZyyyaAr
    abbZinh1aArabZinh6cArabZyyy22ArabeSyrcZzzz3cSyrc2Zzzz3Syrc30Arab32ThaaeZzzz3bNkoo2Zz
    zz3Nkoo2eSamr2ZzzzfSamrZzzz1cMand2ZzzzMandZzzzbSyrc5Zzzz1fArabZzzz2Arab5Zzzz4bArabZy
    yy1dArab51Deva4ZinhfDeva2Zyyy1aDeva4BengZzzz8Beng2Zzzz2Beng2Zzzz16BengZzzz7BengZzzzB
    eng3Zzzz4Beng2Zzzz9Beng2Zzzz2Beng2Zzzz4Beng8ZzzzBeng4Zzzz2BengZzzz5Beng2Zzzz19Beng2Z
    zzz3GuruZzzz6Guru4Zzzz2Guru2Zzzz16GuruZzzz7GuruZzzz2GuruZzzz2GuruZzzz2Guru2ZzzzGuruZ
    zzz5Guru4Zzzz2Guru2Zzzz3Guru3ZzzzGuru7Zzzz4GuruZzzzGuru7Zzzz11GuruaZzzz3GujrZzzz9Guj
    rZzzz3GujrZzzz16GujrZzzz7GujrZzzz2GujrZzzz5Gujr2ZzzzaGujrZzzz3GujrZzzz3Gujr2ZzzzGujr
    fZzzz4Gujr2ZzzzcGujr7Zzzz7GujrZzzz3OryaZzzz8Orya2Zzzz2Orya2Zzzz16OryaZzzz7OryaZzzz2O
    ryaZzzz5Orya2Zzzz9Orya2Zzzz2Orya2Zzzz3Orya7Zzzz3Orya4Zzzz2OryaZzzz5Orya2Zzzz12OryaaZ
    zzz2TamlZzzz6Taml3Zzzz3TamlZzzz4Taml3Zzzz2TamlZzzzTamlZzzz2Taml3Zzzz2Taml3Zzzz3Taml3
    ZzzzcTaml4Zzzz5Taml3Zzzz3TamlZzzz4Taml2ZzzzTaml6ZzzzTamleZzzz15Taml5ZzzzdTeluZzzz3Te
    luZzzz17TeluZzzz10Telu2Zzzz9TeluZzzz3TeluZzzz4Telu7Zzzz2TeluZzzz3Telu2ZzzzTelu2Zzzz4
    Telu2ZzzzaTelu7Zzzz9TeludKndaZzzz3KndaZzzz17KndaZzzzaKndaZzzz5Knda2Zzzz9KndaZzzz3Knd
    aZzzz4Knda7Zzzz2Knda6Zzzz2KndaZzzz4Knda2ZzzzaKndaZzzz3KndacZzzzdMlymZzzz3MlymZzzz33M
    lymZzzz3MlymZzzz6Mlym4Zzzz10Mlym2Zzzz1aMlymZzzz3SinhZzzz12Sinh3Zzzz18SinhZzzz9SinhZz
    zzSinh2Zzzz7Sinh3ZzzzSinh4Zzzz6SinhZzzzSinhZzzz8Sinh6ZzzzaSinh2Zzzz3SinhcZzzz3aThai4
    ZzzzZyyy1cThai25Zzzz2LaooZzzzLaooZzzz5LaooZzzz18LaooZzzzLaooZzzz17Laoo2Zzzz5LaooZzzz
    LaooZzzz7LaooZzzzaLaoo2Zzzz4Laoo20Zzzz48TibtZzzz24Tibt4Zzzz27TibtZzzz24TibtZzzzfTibt
    Zzzz7Tibt4Zyyy2Tibt25Zzzza0Mymr26GeorZzzzGeor5ZzzzGeor2Zzzz2bGeorZyyy4Geor100Hang49E
    thiZzzz4Ethi2Zzzz7EthiZzzzEthiZzzz4Ethi2Zzzz29EthiZzzz4Ethi2Zzzz21EthiZzzz4Ethi2Zzzz
    7EthiZzzzEthiZzzz4Ethi2ZzzzfEthiZzzz39EthiZzzz4Ethi2Zzzz43Ethi2Zzzz20Ethi3Zzzz1aEthi
    6Zzzz56Cher2Zzzz6Cher2Zzzz280Cans1dOgam3Zzzz4bRunr3ZyyybRunr7Zzzz16Tglg9ZzzzTglg15Ha
    no2Zyyy9Zzzz14BuhdcZzzzdTagbZzzz3TagbZzzz2TagbcZzzz5eKhmr2ZzzzaKhmr6ZzzzaKhmr6Zzzz2M
    ong2ZyyyMongZyyy14Mong6Zzzz59Mong7Zzzz2bMong5Zzzz46CansaZzzz1fLimbZzzzcLimb4ZzzzcLim
    b4ZzzzLimb3ZzzzcLimb1eTale2Zzzz5TalebZzzz2cTalu4Zzzz1aTalu6ZzzzbTalu3Zzzz2Talu20Khmr
    1cBugi2Zzzz2Bugi3fLanaZzzz1dLana2ZzzzbLana6ZzzzaLana6ZzzzeLana2Zzzz1fZinh31Zzzz4dBal
    iZzzz32Bali40Sund34Batk8Zzzz4Batk38Lepc3ZzzzfLepc3Zzzz3Lepc30OlckbCyrl5Zzzz2bGeor2Zz
    zz3Geor8Sund8Zzzz3ZinhZyyydZinhZyyy7Zinh4ZyyyZinh6ZyyyZinh3Zyyy2ZinhZyyy5Zzzz26Latn5
    GrekCyrl31Latn5Grek4Latn5GrekdLatnCyrl46LatnGrek40Zinh100Latn16Grek2Zzzz6Grek2Zzzz26
    Grek2Zzzz6Grek2Zzzz8GrekZzzzGrekZzzzGrekZzzzGrekZzzz1fGrek2Zzzz35GrekZzzzfGrekZzzzeG
    rek2Zzzz6GrekZzzz13Grek2Zzzz3GrekZzzz9GrekZzzzcZyyy2Zinh57ZyyyZzzzbZyyyLatn2ZzzzbZyy
    yLatnfZyyyZzzzdLatn3Zzzz21ZyyyfZzzz21ZinhfZzzz26ZyyyGrek3Zyyy2Latn6ZyyyLatn1bZyyyLat
    n11Zyyy29Latn3Zyyy4Zzzz29aZyyy16ZzzzbZyyy15Zzzz3a0Zyyy100Brai274Zyyy2Zzzz20ZyyyZzzz6
    9Zyyy60Glag20Latn74Copt5Zzzz7Copt26GeorZzzzGeor5ZzzzGeor2Zzzz38Tfng7Zzzz2TfngeZzzzTf
    ng17Ethi9Zzzz7EthiZzzz7EthiZzzz7EthiZzzz7EthiZzzz7EthiZzzz7EthiZzzz7EthiZzzz7EthiZzz
    z20Cyrl5eZyyy22Zzzz1aHaniZzzz59HanicZzzzd6Hani1aZzzz15ZyyyHaniZyyyHani19Zyyy9Hani4Zi
    nh2Hang8Zyyy4Hani4ZyyyZzzz56Hira2Zzzz2Zinh2Zyyy3HiraZyyy5aKana2Zyyy3Kana5Zzzz2bBopoZ
    zzz5eHangZzzz10Zyyy20Bopo26Zyyy9ZzzzZyyy10Kana1fHangZzzz40Zyyy1fHang51Zyyy2fKanaZyyy
    58Kanaa8Zyyy19c0Hani40Zyyy5200Hani48dYiii3Zzzz37Yiii9Zzzz30Lisu12cVaii14Zzzz60Cyrl58
    Bamu8Zzzz22Zyyy66Latn3Zyyy43Latn2Zzzz2LatnZzzzLatnZzzz8Latn15ZzzzeLatn2dSylo3ZzzzaZy
    yy6Zzzz38Phag8Zzzz46Saur8ZzzzcSaur6Zzzz20Deva2eKaliZyyyKali24RjngbZzzzRjng1dHang3Zzz
    z4eJavaZzzzZyyyaJava4Zzzz2Java1fMymrZzzz37Cham9ZzzzeCham2ZzzzaCham2Zzzz4Cham20Mymr43
    Tavt18Zzzz5Tavt17MteiaZzzz6Ethi2Zzzz6Ethi2Zzzz6Ethi9Zzzz7EthiZzzz7EthiZzzz2bLatnZyyy
    9LatnGrek4Latn2Zyyy4Zzzz50Cher2eMtei2ZzzzaMtei6Zzzz2ba4HangcZzzz17Hang4Zzzz31Hang210
    4Zzzz16eHani2Zzzz6aHani26Zzzz7LatncZzzz5Armn5Zzzz1aHebrZzzz5HebrZzzzHebrZzzz2HebrZzz
    z2HebrZzzzaHebr73Arab10Zzzz16bArab2Zyyy50Arab2Zzzz36Arab7ZzzzArab20Zzzz10Arab10Zinha
    Zyyy6ZzzzeZinh2Cyrl23ZyyyZzzz13ZyyyZzzz4Zyyy4Zzzz5ArabZzzz87Arab2ZzzzZyyyZzzz20Zyyy1
    aLatn6Zyyy1aLatnbZyyyaKanaZyyy2dKana2Zyyy1fHang3Zzzz6Hang2Zzzz6Hang2Zzzz6Hang2Zzzz3H
    ang3Zzzz7ZyyyZzzz7ZyyyaZzzz5Zyyy2ZzzzcLinbZzzz1aLinbZzzz13LinbZzzz2LinbZzzzfLinb2Zzz
    zeLinb22Zzzz7bLinb5Zzzz3Zyyy4Zzzz2dZyyy3Zzzz9Zyyy4fGrekZzzzdZyyy3ZzzzGrek2fZzzz2dZyy
    yZinh82Zzzz1dLyci3Zzzz31CarifZzzzZinh1bZyyy4Zzzz24Ital9Zzzz3Ital1bGoth5Zzzz2bPerm5Zz
    zz1eUgarZzzzUgar24Xpeo4ZzzzeXpeo2aZzzz50Dsrt30Shaw1eOsma2ZzzzaOsma6Zzzz24Osge4Zzzz24
    Osge4Zzzz28Elba8Zzzz34AghbbZzzzAghbbVithZzzzfVithZzzz7VithZzzz2VithZzzzbVithZzzzfVit
    hZzzz7VithZzzz2Vith3Zzzz34TodrcZzzz137Lina9Zzzz16LinaaZzzz8Lina18Zzzz6LatnZzzz2aLatn
    Zzzz9Latn45Zzzz6Cprt2ZzzzCprtZzzz2cCprtZzzz2Cprt3ZzzzCprt2ZzzzCprt16ArmiZzzz9Armi20P
    alm1fNbat8Zzzz9Nbat30Zzzz13HatrZzzz2Hatr5Zzzz5Hatr1cPhnx3ZzzzPhnx1aLydi5ZzzzLydi40Zz
    zz20Mero18Merc4Zzzz14Merc2Zzzz2eMerc4KharZzzz2Khar5Zzzz8KharZzzz3KharZzzz1dKhar2Zzzz
    3Khar4ZzzzaKhar7Zzzz9Khar7Zzzz20Sarb20Narb20Zzzz27Mani4ZzzzcMani9Zzzz36Avst3Zzzz7Avs
    t16Prti2Zzzz8Prti13Phli5Zzzz8Phli12Phlp7Zzzz4PhlpcZzzz7Phlp50Zzzz49Orkh37Zzzz33Hungd
    Zzzz33Hung7Zzzz6Hung28Rohg8ZzzzaRohg6Zzzz26Gara3Zzzz1dGara8Zzzz2Garad0Zzzz1fArabZzzz
    2aYeziZzzz3Yezi2Zzzz2Yezi10Zzzz3Arab37Zzzz4Arab28Sogo8Zzzz2aSogd16Zzzz1aOugr26Zzzz1c
    Chrs14Zzzz17Elym9Zzzz4eBrah4Zzzz24Brah9ZzzzBrah43KthiaZzzzKthi2Zzzz19Sora7ZzzzaSora6
    Zzzz35CakmZzzz12Cakm8Zzzz27Mahj9Zzzz60ShrdZzzz14SinhbZzzz12KhojZzzz2fKhoj3eZzzz7Mult
    ZzzzMultZzzz4MultZzzzfMultZzzzbMult6Zzzz3bSind5ZzzzaSind6Zzzz4GranZzzz8Gran2Zzzz2Gra
    n2Zzzz16GranZzzz7GranZzzz2GranZzzz5GranZzzzZinh9Gran2Zzzz2Gran2Zzzz3Gran2ZzzzGran6Zz
    zzGran5Zzzz7Gran2Zzzz7Gran3Zzzz5GranbZzzzaTutgZzzzTutg2ZzzzTutgZzzz26TutgZzzzaTutgZz
    zzTutg2ZzzzTutgZzzz4TutgZzzzaTutgZzzz2Tutg8Zzzz2Tutg1dZzzz5cNewaZzzz5Newa1eZzzz48Tir
    h8ZzzzaTirha6Zzzz36Sidd2Zzzz26Sidd22Zzzz45ModibZzzzaModi6ZzzzdMong13Zzzz3aTakr6Zzzza
    Takr6Zzzz14Mymr1cZzzz1bAhom2ZzzzfAhom4Zzzz17Ahomb9Zzzz3cDogr64Zzzz53WaracZzzzWara7Di
    ak2ZzzzDiak2Zzzz8DiakZzzz2DiakZzzz1eDiakZzzz2Diak2ZzzzcDiak9ZzzzaDiak46Zzzz8Nand2Zzz
    z2eNand2ZzzzbNand1bZzzz48Zanb8Zzzz53SoyodZzzz10Cans39Pauc7ZzzzaDevab6Zzzz22SunueZzzz
    aSunu6Zzzz9BhksZzzz2dBhksZzzzeBhksaZzzz1dBhks3Zzzz20Marc2Zzzz16MarcZzzzeMarc49Zzzz7G
    onmZzzz2GonmZzzz2cGonm3ZzzzGonmZzzz2GonmZzzz9Gonm8ZzzzaGonm6Zzzz6GongZzzz2GongZzzz25
    GongZzzz2GongZzzz6Gong7ZzzzaGong136Zzzz19Maka7Zzzz11KawiZzzz29Kawi3Zzzz1dKawi55ZzzzL
    isufZzzz32TamldZzzzTaml39aXsux66Zzzz6fXsuxZzzz5XsuxbZzzzc4Xsuxa4cZzzz63CpmndZzzz456E
    gypaZzzzf9bEgyp5Zzzz247Hluw1ab9Zzzz3aGukh6c6Zzzz239Bamu7Zzzz1fMrooZzzzaMroo4Zzzz2Mro
    o4fTnsaZzzzaTnsa6Zzzz1eBass2Zzzz6BassaZzzz46HmngaZzzzaHmngZzzz7HmngZzzz15Hmng5Zzzz13
    Hmng1b0Zzzz3aKraic6Zzzz5bMedf65Zzzz4bPlrd4Zzzz39Plrd7Zzzz11Plrd40ZzzzTangNshu2HaniKi
    tsbZzzz2HanieZzzz17f8Tang8Zzzz300Tang1d6Kits29ZzzzKits9Tang22e7Zzzz4KanaZzzz7KanaZzz
    z2KanaZzzzKana11fHira3KanafZzzzHira1dZzzz3Hira2ZzzzKanaeZzzz4Kana8Zzzz18cNshu904Zzzz
    6bDupl5ZzzzdDupl3Zzzz9Dupl7ZzzzaDupl2Zzzz4Dupl4Zyyyf5cZzzzfaZyyy6Zzzz1b4Zyyy4cZzzz2e
    Zinh2Zzzz17Zinh9Zzzz74Zyyy3cZzzzf6ZyyyaZzzz27Zyyy2Zzzz3eZyyy3Zinh11Zyyy8Zinh2Zyyy7Zi
    nh1eZyyy4Zinh3dZyyy15Zzzz46Grek7aZzzz14ZyyycZzzz14ZyyycZzzz57Zyyy9Zzzz19Zyyy87Zzzz55
    ZyyyZzzz47ZyyyZzzz2Zyyy2ZzzzZyyy2Zzzz2Zyyy2Zzzz4ZyyyZzzzcZyyyZzzzZyyyZzzz7ZyyyZzzz41
    ZyyyZzzz4Zyyy2Zzzz8ZyyyZzzz7ZyyyZzzz1cZyyyZzzz4ZyyyZzzz5ZyyyZzzzZyyy3Zzzz7ZyyyZzzz15
    4Zyyy2Zzzz124Zyyy2Zzzz32Zyyy28cSgnwfZzzz5SgnwZzzzfSgnw450Zzzz1fLatn6Zzzz6Latnd5Zzzz7
    GlagZzzz11Glag2Zzzz7GlagZzzz2GlagZzzz5Glag5Zzzz3eCyrl21ZzzzCyrl70Zzzz2dHmnp3ZzzzeHmn
    p2ZzzzaHmnp4Zzzz2Hmnp140Zzzz1fToto11Zzzz3aWcho5ZzzzWcho1d0Zzzz2aNagmd6Zzzz2bOnao4Zzz
    zOnao1e0Zzzz7EthiZzzz4EthiZzzz2EthiZzzzfEthiZzzzc5Mend2Zzzz10Mend29Zzzz4cAdlm4ZzzzaA
    dlm4Zzzz2Adlm311Zzzz44Zyyy4cZzzz3dZyyyc2Zzzz4ArabZzzz1bArabZzzz2ArabZzzzArab2ZzzzAra
    bZzzzaArabZzzz4ArabZzzzArabZzzzArab6ZzzzArab4ZzzzArabZzzzArabZzzzArabZzzz3ArabZzzz2A
    rabZzzzArab2ZzzzArabZzzzArabZzzzArabZzzzArabZzzzArabZzzz2ArabZzzzArab2Zzzz4ArabZzzz7
    ArabZzzz4ArabZzzz4ArabZzzzArabZzzzaArabZzzz11Arab5Zzzz3ArabZzzz5ArabZzzz11Arab34Zzzz
    2Arab10eZzzz2cZyyy4Zzzz64ZyyycZzzzfZyyy2ZzzzfZyyyZzzzfZyyyZzzz25ZyyyaZzzzaeZyyy38Zzz
    z1aZyyyHira2ZyyydZzzz2cZyyy4Zzzz9Zyyy7Zzzz2ZyyyeZzzz6Zyyy9aZzzz3d8Zyyy4Zzzz11Zyyy3Zz
    zzdZyyy3Zzzz77Zyyy4Zzzz5fZyyy6ZzzzcZyyy4ZzzzZyyyfZzzzcZyyy4Zzzz38Zyyy8ZzzzaZyyy6Zzzz
    28Zyyy8Zzzz1eZyyy2ZzzzcZyyy4Zzzz2Zyyy3eZzzz154ZyyycZzzzeZyyy2ZzzzdZyyy3ZzzzaZyyy5Zzz
    z38Zyyy7ZzzzfZyyy2ZzzzbZyyy6Zzzz9Zyyy7Zzzz93ZyyyZzzz66Zyyy406Zzzza6e0Hani20Zzzz103aH
    ani6ZzzzdeHani2Zzzz1682HanieZzzz1d31HanifZzzz26eHani9a2Zzzz21eHani5e2Zzzz134bHani5Zz
    zz1060Haniadc51ZzzzZyyy1eZzzz60Zyyy80Zzzzf0Zinh2fe10Zzzz"

/-- Characters that are used with several scripts, or with another one than their
own: code points, and then the scripts. -/
def extensionTable : String :=
  "b7 Avst Cari Copt Dupl Elba Geor Glag Gong Goth Grek Hani Latn Lydi Mahj Perm Shaw;
    2bc Beng Cyrl Deva Latn Lisu Thai Toto; 2c7 2c9-2cb 2d9 Bopo Latn; 2cd Latn Lisu;
    2d7 Latn Thai; 300 Cher Copt Cyrl Grek Latn Perm Sunu Tale; 301 Cher Cyrl Grek Latn
    Osge Sunu Tale Todr; 302 Cher Cyrl Latn Tfng; 303 Glag Latn Sunu Syrc Thai; 304 Aghb
    Cher Copt Cyrl Goth Grek Latn Osge Syrc Tfng Todr; 305 Copt Elba Glag Goth Kana
    Latn; 306 Cyrl Grek Latn Perm; 307 Copt Dupl Hebr Latn Perm Syrc Tale Tfng Todr; 308
    Armn Cyrl Dupl Goth Grek Hebr Latn Perm Syrc Tale; 309 Latn Tfng; 30a Dupl Latn
    Syrc; 30b Cher Cyrl Latn Osge; 30c Cher Latn Tale; 30d 310 Latn Sunu; 30e Ethi Latn;
    311 Cyrl Latn Todr; 313 Grek Latn Perm Todr; 320 325 32e Latn Syrc; 323 Cher Dupl
    Kana Latn Syrc; 324 Cher Dupl Latn Syrc; 32d Latn Sunu Syrc; 330 Cher Latn Syrc; 331
    Aghb Cher Goth Latn Sunu Thai; 342 345 1dc0-1dc1 Grek; 358 Latn Osge; 35e Aghb Latn
    Todr; 363-36f Latn; 374-375 Copt Grek; 483 Cyrl Perm; 484 487 2e43 a66f Cyrl Glag;
    485-486 Cyrl Latn; 589 Armn Geor Glag; 60c 61b Arab Gara Nkoo Rohg Syrc Thaa Yezi;
    61c Arab Syrc Thaa; 61f Adlm Arab Gara Nkoo Rohg Syrc Thaa Yezi; 640 Adlm Arab Mand
    Mani Ougr Phlp Rohg Sogd Syrc; 64b-655 670 Arab Syrc; 660-669 Arab Thaa Yezi; 6d4
    Arab Rohg; 951 Beng Deva Gran Gujr Guru Knda Latn Mlym Orya Shrd Taml Telu Tirh; 952
    Beng Deva Gran Gujr Guru Knda Latn Mlym Orya Taml Telu Tirh; 964 Beng Deva Dogr Gong
    Gonm Gran Gujr Guru Knda Mahj Mlym Nand Onao Orya Sind Sinh Sylo Takr Taml Telu
    Tirh; 965 Beng Deva Dogr Gong Gonm Gran Gujr Gukh Guru Knda Limb Mahj Mlym Nand Onao
    Orya Sind Sinh Sylo Takr Taml Telu Tirh; 966-96f Deva Dogr Kthi Mahj; 9e6-9ef Beng
    Cakm Sylo; a66-a6f Guru Mult; ae6-aef Gujr Khoj; be6-bf3 11301 11303 1133b-1133c
    11fd0-11fd1 11fd3 Gran Taml; ce6-cef Knda Nand Tutg; 1040-1049 Cakm Mymr Tale; 10fb
    Geor Glag Latn; 16eb-16ed Runr; 1735-1736 Buhd Hano Tagb Tglg; 1802-1803 1805 Mong
    Phag; 1cd0 1cd2 Beng Deva Gran Knda; 1cd1 1cd4 1cdb 1cde-1cdf 1ce2-1ce8 1ceb-1cec
    1cee-1cf1 Deva; 1cd3 Deva Gran Knda; 1cd5-1cd6 1cd8 1ce1 1cea 1ced 1cf5-1cf6 Beng
    Deva; 1cd7 1cd9 1cdc-1cdd 1ce0 Deva Shrd; 1cda Deva Knda Mlym Orya Taml Telu; 1ce9
    Deva Nand; 1cf2 Beng Deva Gran Knda Mlym Nand Orya Sinh Telu Tirh Tutg; 1cf3
    1cf8-1cf9 Deva Gran; 1cf4 Deva Gran Knda Tutg; 1cf7 Beng; 1cfa Nand; 1df8 Cyrl Latn
    Syrc; 1dfa Syrc; 202f Latn Mong Phag; 204f Adlm Arab; 205a Cari Geor Glag Hung Lyci
    Orkh; 205d Cari Grek Hung Mero; 20f0 Deva Gran Latn; 2e17 Copt Latn; 2e30 Avst Orkh;
    2e31 Avst Cari Geor Hung Kthi Lydi Samr; 2e3c 1bca0-1bca3 Dupl; 2e41 Adlm Arab Hung;
    2ff0-2fff 31ef Hani Tang; 3001 Bopo Hang Hani Hira Kana Mong Yiii; 3002 Bopo Hang
    Hani Hira Kana Mong Phag Yiii; 3003 3013 301c-301f 3030 3037 fe45-fe46 Bopo Hang
    Hani Hira Kana; 3006 303e-303f 3190-319f 31c0-31e5 3220-3247 3280-32b0 32c0-32cb
    32ff 3358-3370 337b-337f 33e0-33fe 1d360-1d371 1f250-1f251 Hani; 3008-3009 Bopo Hang
    Hani Hira Kana Mong Tibt Yiii; 300a-300b Bopo Hang Hani Hira Kana Lisu Mong Tibt
    Yiii; 300c-3011 3014-301b 30fb ff61-ff65 Bopo Hang Hani Hira Kana Yiii; 302a-302d
    Bopo Hani; 3031-3035 3099-309c 30a0 30fc ff70 ff9e-ff9f Hira Kana; 303c-303d Hani
    Hira Kana; a700-a707 Hani Latn; a830-a832 Deva Dogr Gujr Guru Khoj Knda Kthi Mahj
    Mlym Modi Nand Shrd Sind Takr Tirh Tutg; a833-a835 Deva Dogr Gujr Guru Khoj Knda
    Kthi Mahj Modi Nand Shrd Sind Takr Tirh Tutg; a836-a837 a839 Deva Dogr Gujr Guru
    Khoj Kthi Mahj Modi Sind Takr Tirh; a838 Deva Dogr Gujr Guru Khoj Kthi Mahj Modi
    Shrd Sind Takr Tirh; a8f1 Beng Deva Tutg; a8f3 Deva Taml; a92e Kali Latn Mymr; a9cf
    Bugi Java; fd3e-fd3f Arab Nkoo; fdf2 fdfd Arab Thaa; 10100-10101 Cpmn Cprt Linb;
    10102 10137-1013f Cprt Linb; 10107-10133 Cprt Lina Linb; 102e0-102fb Arab Copt;
    10af2 Mani Ougr"

/-- The four-letter name of each script, followed by the names under which it
may be asked for, without case, blanks, hyphens and low lines. -/
def scriptNames : String :=
  "Zyyy zyyy common; Latn latn latin; Bopo bopo bopomofo; Zinh zinh inherited qaai; Grek
    grek greek; Copt copt coptic qaac; Cyrl cyrl cyrillic; Armn armn armenian; Hebr hebr
    hebrew; Arab arab arabic; Syrc syrc syriac; Thaa thaa thaana; Nkoo nkoo nko; Samr
    samr samaritan; Mand mand mandaic; Deva deva devanagari; Beng beng bengali; Guru
    guru gurmukhi; Gujr gujr gujarati; Orya orya oriya; Taml taml tamil; Telu telu
    telugu; Knda knda kannada; Mlym mlym malayalam; Sinh sinh sinhala; Thai thai; Laoo
    laoo lao; Tibt tibt tibetan; Mymr mymr myanmar; Geor geor georgian; Hang hang
    hangul; Ethi ethi ethiopic; Cher cher cherokee; Cans cans canadianaboriginal; Ogam
    ogam ogham; Runr runr runic; Tglg tglg tagalog; Hano hano hanunoo; Buhd buhd buhid;
    Tagb tagb tagbanwa; Khmr khmr khmer; Mong mong mongolian; Limb limb limbu; Tale tale
    taile; Talu talu newtailue; Bugi bugi buginese; Lana lana taitham; Bali bali
    balinese; Sund sund sundanese; Batk batk batak; Lepc lepc lepcha; Olck olck olchiki;
    Brai brai braille; Glag glag glagolitic; Tfng tfng tifinagh; Hani hani han; Hira
    hira hiragana; Kana kana katakana; Yiii yiii yi; Lisu lisu; Vaii vaii vai; Bamu bamu
    bamum; Sylo sylo sylotinagri; Phag phag phagspa; Saur saur saurashtra; Kali kali
    kayahli; Rjng rjng rejang; Java java javanese; Cham cham; Tavt tavt taiviet; Mtei
    mtei meeteimayek; Linb linb linearb; Lyci lyci lycian; Cari cari carian; Ital ital
    olditalic; Goth goth gothic; Perm perm oldpermic; Ugar ugar ugaritic; Xpeo xpeo
    oldpersian; Dsrt dsrt deseret; Shaw shaw shavian; Osma osma osmanya; Osge osge
    osage; Elba elba elbasan; Aghb aghb caucasianalbanian; Vith vith vithkuqi; Todr todr
    todhri; Lina lina lineara; Cprt cprt cypriot; Armi armi imperialaramaic; Palm palm
    palmyrene; Nbat nbat nabataean; Hatr hatr hatran; Phnx phnx phoenician; Lydi lydi
    lydian; Mero mero meroitichieroglyphs; Merc merc meroiticcursive; Khar khar
    kharoshthi; Sarb sarb oldsoutharabian; Narb narb oldnortharabian; Mani mani
    manichaean; Avst avst avestan; Prti prti inscriptionalparthian; Phli phli
    inscriptionalpahlavi; Phlp phlp psalterpahlavi; Orkh orkh oldturkic; Hung hung
    oldhungarian; Rohg rohg hanifirohingya; Gara gara garay; Yezi yezi yezidi; Sogo sogo
    oldsogdian; Sogd sogd sogdian; Ougr ougr olduyghur; Chrs chrs chorasmian; Elym elym
    elymaic; Brah brah brahmi; Kthi kthi kaithi; Sora sora sorasompeng; Cakm cakm
    chakma; Mahj mahj mahajani; Shrd shrd sharada; Khoj khoj khojki; Mult mult multani;
    Sind sind khudawadi; Gran gran grantha; Tutg tutg tulutigalari; Newa newa; Tirh tirh
    tirhuta; Sidd sidd siddham; Modi modi; Takr takr takri; Ahom ahom; Dogr dogr dogra;
    Wara wara warangciti; Diak diak divesakuru; Nand nand nandinagari; Zanb zanb
    zanabazarsquare; Soyo soyo soyombo; Pauc pauc paucinhau; Sunu sunu sunuwar; Bhks
    bhks bhaiksuki; Marc marc marchen; Gonm gonm masaramgondi; Gong gong gunjalagondi;
    Maka maka makasar; Kawi kawi; Xsux xsux cuneiform; Cpmn cpmn cyprominoan; Egyp egyp
    egyptianhieroglyphs; Hluw hluw anatolianhieroglyphs; Gukh gukh gurungkhema; Mroo
    mroo mro; Tnsa tnsa tangsa; Bass bass bassavah; Hmng hmng pahawhhmong; Krai krai
    kiratrai; Medf medf medefaidrin; Plrd plrd miao; Tang tang tangut; Nshu nshu nushu;
    Kits kits khitansmallscript; Dupl dupl duployan; Sgnw sgnw signwriting; Hmnp hmnp
    nyiakengpuachuehmong; Toto toto; Wcho wcho wancho; Nagm nagm nagmundari; Onao onao
    olonal; Mend mend mendekikakui; Adlm adlm adlam"

/-- The scripts, each with its runs. -/
def scriptRuns : List (String × Nat × Nat) := readRuns 4 scriptTable

/-- The parts of a table between semicolons, each cut into words. -/
def tableEntries (table : String) : List (List String) :=
  (table.splitOn ";").map CharSet.tableWords

/-- The four-letter name of the script of this name. -/
def scriptCode? (name : String) : Option String :=
  ((tableEntries scriptNames).find? fun entry => entry.tail.contains name).bind (·.head?)

/-- The characters of the script with this four-letter name. -/
def ofScript (code : String) : CharSet :=
  CharSet.ofRanges (scriptRuns.filterMap fun r => if r.1 == code then some r.2 else none)

/-- The characters of the script of this name. -/
def script? (name : String) : Option CharSet := (scriptCode? name).map ofScript

/-- The characters of some entries of `extensionTable`. -/
def extensionSet (entries : List (List String)) : CharSet :=
  CharSet.ofTable (" ".intercalate entries.flatten)

/-- The characters that are used with the script of this name. -/
def scriptExtensions? (name : String) : Option CharSet := do
  let code ← scriptCode? name
  let isCode (w : String) : Bool := w.toList.head?.any Char.isUpper
  let entries := tableEntries extensionTable
  let codes (entry : List String) : List String := entry.filter fun w => !isCode w
  let several := extensionSet (entries.map codes)
  let shared := extensionSet ((entries.filter fun entry => entry.contains code).map codes)
  return ((ofScript code).diff several).union shared

end Stepwise.Unicode
