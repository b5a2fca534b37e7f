import Stepwise.Unicode.CharSet

/-!
# General categories

Every code point has one general category. The table gives them in order of
code points as runs: the length of a run in hexadecimal, left out when it is
one, and then its category. All other classes are built from it: the decimal
digits of a pattern, the characters of a word, and those that can be printed.
-/

namespace Stepwise.Unicode

/-- The runs of general categories, from the first code point to the last. -/
def categoryTable : String :=
  "20CcZs3PoSc3PoPsPePoSmPoPd2PoaNd2Po3Sm2Po1aLuPsPoPeSkPcSk1aLlPsSmPeSm21CcZsPo4ScSoPoS
    kSoLoPiSmCfSoSkSoSm2NoSkLl2PoSkNoLoPf3NoPo17LuSm7Lu18LlSm8LlLuLlLuLlLuLlLuLlLuLlLuLl
    LuLlLuLlLuLlLuLlLuLlLuLlLuLlLuLlLuLlLuLlLuLlLuLlLuLlLuLlLuLlLuLlLuLlLuLlLuLlLuLlLuLl
    Lu2LlLuLlLuLlLuLlLuLlLuLlLuLlLuLlLu2LlLuLlLuLlLuLlLuLlLuLlLuLlLuLlLuLlLuLlLuLlLuLlLu
    LlLuLlLuLlLuLlLuLlLuLlLuLlLuLlLuLlLuLlLuLlLuLl2LuLlLuLlLu3Ll2LuLlLuLl2LuLl3Lu2Ll4LuL
    l2LuLl3Lu3Ll2LuLl2LuLlLuLlLuLl2LuLlLu2LlLuLl2LuLl3LuLlLuLl2Lu2LlLoLu3Ll4LoLuLtLlLuLt
    LlLuLtLlLuLlLuLlLuLlLuLlLuLlLuLlLuLlLu2LlLuLlLuLlLuLlLuLlLuLlLuLlLuLlLuLlLu2LlLuLtLl
    LuLl3LuLlLuLlLuLlLuLlLuLlLuLlLuLlLuLlLuLlLuLlLuLlLuLlLuLlLuLlLuLlLuLlLuLlLuLlLuLlLuL
    lLuLlLuLlLuLlLuLlLuLlLuLlLuLlLuLlLuLlLu7Ll2LuLl2Lu2LlLuLl4LuLlLuLlLuLlLuLlLu45LlLo1b
    Ll12Lm4SkcLmeSk5Lm7SkLmSkLm11Sk70MnLuLlLuLlLmSkLuLl2CnLm3LlPoLu4Cn2SkLuPo3LuCnLuCn2L
    uLl11LuCn9Lu23LlLu2Ll3Lu3LlLuLlLuLlLuLlLuLlLuLlLuLlLuLlLuLlLuLlLuLlLuLlLu5LlLuLlSmLu
    Ll2Lu2Ll33Lu30LlLuLlLuLlLuLlLuLlLuLlLuLlLuLlLuLlLuLlLuLlLuLlLuLlLuLlLuLlLuLlLuLlLuLl
    So5Mn2MeLuLlLuLlLuLlLuLlLuLlLuLlLuLlLuLlLuLlLuLlLuLlLuLlLuLlLuLlLuLlLuLlLuLlLuLlLuLl
    LuLlLuLlLuLlLuLlLuLlLuLlLuLlLuLl2LuLlLuLlLuLlLuLlLuLlLuLlLu2LlLuLlLuLlLuLlLuLlLuLlLu
    LlLuLlLuLlLuLlLuLlLuLlLuLlLuLlLuLlLuLlLuLlLuLlLuLlLuLlLuLlLuLlLuLlLuLlLuLlLuLlLuLlLu
    LlLuLlLuLlLuLlLuLlLuLlLuLlLuLlLuLlLuLlLuLlLuLlLuLlLuLlLuLlLuLlLuLlLuLlLuLlLuLlLuLlLu
    LlCn26Lu2CnLm6Po29LlPoPd2Cn2SoScCn2dMnPdMnPo2MnPo2MnPoMn8Cn1bLo4Cn4Lo2PobCn6Cf3Sm2Po
    Sc2Po2SobMnPoCf3Po20LoLmaLo15MnaNd4Po2LoMn63LoPoLo7MnCfSo6Mn2Lm2MnSo4Mn2LoaNd3Lo2SoL
    oePoCnCfLoMn1eLo1bMn2Cn59LobMnLoeCnaNd21Lo9Mn2LmSo3PoLm2CnMn2Sc16Lo4MnLm9MnLm3MnLm5M
    n2CnfPoCn19Lo3Mn2CnPoCnbLo5Cn18LoSk6LoCn2Cf5Cn9Mn29LoLm18MnCf20MnMc36LoMnMcMnLo3Mc8M
    n4McMn2McLo7MnaLo2Mn2PoaNdPoLmfLoMn2McCn8Lo2Cn2Lo2Cn16LoCn7LoCnLo3Cn4Lo2CnMnLo3Mc4Mn
    2Cn2Mc2Cn2McMnLo8CnMc4Cn2LoCn3Lo2Mn2CnaNd2Lo2Sc6NoSoScLoPoMn2Cn2MnMcCn6Lo4Cn2Lo2Cn16
    LoCn7LoCn2LoCn2LoCn2Lo2CnMnCn3Mc2Mn4Cn2Mn2Cn3Mn3CnMn7Cn4LoCnLo7CnaNd2Mn3LoMnPoaCn2Mn
    McCn9LoCn3LoCn16LoCn7LoCn2LoCn5Lo2CnMnLo3Mc5MnCn2MnMcCn2McMn2CnLofCn2Lo2Mn2CnaNdPoSc
    7CnLo6MnCnMn2McCn8Lo2Cn2Lo2Cn16LoCn7LoCn2LoCn5Lo2CnMnLoMcMnMc4Mn2Cn2Mc2Cn2McMn7Cn2Mn
    Mc4Cn2LoCn3Lo2Mn2CnaNdSoLo6NoaCnMnLoCn6Lo3Cn3LoCn4Lo3Cn2LoCnLoCn2Lo3Cn2Lo3Cn3Lo3CncL
    o4Cn2McMn2Mc3Cn3McCn3McMn2CnLo6CnMceCnaNd3No6SoScSo5CnMn3McMn8LoCn3LoCn17LoCn10Lo2Cn
    MnLo3Mn4McCn3MnCn4Mn7Cn2MnCn3Lo2CnLo2Cn2Lo2Mn2CnaNd7CnPo7NoSoLoMn2McPo8LoCn3LoCn17Lo
    CnaLoCn5Lo2CnMnLoMcMn5McCnMn2McCn2Mc2Mn7Cn2Mc6Cn2LoCn2Lo2Mn2CnaNdCn2LoMccCn2Mn2Mc9Lo
    Cn3LoCn29Lo2MnLo3Mc4MnCn3McCn3McMnLoSo4Cn3LoMc7No3Lo2Mn2CnaNd9NoSo6LoCnMn2McCn12Lo3C
    n18LoCn9LoCnLo2Cn7Lo3CnMn4Cn3Mc3MnCnMnCn8Mc6CnaNd2Cn2McPocCn30LoMn2Lo7Mn4CnSc6LoLm8M
    nPoaNd2Po25Cn2LoCnLoCn5LoCn18LoCnLoCnaLoMn2Lo9MnLo2Cn5LoCnLmCn7MnCnaNd2Cn4Lo20CnLo3S
    ofPoSoPo3So2Mn6SoaNdaNoSoMnSoMnSoMnPsPePsPe2Mc8LoCn24Lo4CneMnMc5MnPo2Mn5LobMnCn24MnC
    n8SoMn6SoCn2So5Po4So2Po25Cn2bLo2Mc4MnMc6MnMc2Mn2Mc2MnLoaNd6Po6Lo2Mc2Mn4Lo3MnLo3Mc2Lo
    7Mc3Lo4MndLoMn2Mc2Mn6McMnLoMcaNd3McMn2So26LuCnLu5CnLu2Cn2bLlPoLm3Ll149LoCn4Lo2Cn7LoC
    nLoCn4Lo2Cn29LoCn4Lo2Cn21LoCn4Lo2Cn7LoCnLoCn4Lo2CnfLoCn39LoCn4Lo2Cn43Lo2Cn3Mn9Po14No
    3Cn10LoaSo6Cn56Lu2Cn6Ll2CnPd26cLoSoPo11LoZs1aLoPsPe3Cn4bLo3Po3Nl8Lo7Cn12Lo3MnMc9Cn13
    Lo2MnMc2Po9Cn12Lo2MncCndLoCn3LoCn2MncCn34Lo2MnMc7Mn8McMn2McbMn3PoLm3PoScLoMn2CnaNd6C
    naNo6Cn6PoPd4Po3MnCfMnaNd6Cn23LoLm35Lo7Cn5Lo2Mn22LoMnLo5Cn46LoaCn1fLoCn3Mn4Mc2Mn3Mc4
    Cn2McMn6Mc3Mn4CnSo3Cn2PoaNd1eLo2Cn5LobCn2cLo4Cn1aLo6CnaNdNo3Cn22So17Lo2Mn2McMn2Cn2Po
    35LoMcMnMc7MnCnMnMcMn2Mc8Mn6McaMn2CnMnaNd6CnaNd6Cn7PoLm6Po2CneMnMe10Mn31Cn4MnMc2fLoM
    nMc5MnMcMn5McMn2Mc8LoCn2PoaNd7PoaSo9Mn9So3Po2MnMc1eLoMc4Mn2Mc2MnMc3Mn2LoaNd2cLoMnMc2
    Mn3McMnMc3Mn2Mc8Cn4Po24Lo8Mc8Mn2Mc2Mn3Cn5PoaNd3Cn3LoaNd1eLo6Lm2Po9LlLuLl5Cn2bLu2Cn3L
    u8Po8Cn3MnPodMnMc7Mn4LoMn6LoMn2LoMc2MnLo5Cn2cLl3fLmdLlLm22Ll25Lm40MnLuLlLuLlLuLlLuLl
    LuLlLuLlLuLlLuLlLuLlLuLlLuLlLuLlLuLlLuLlLuLlLuLlLuLlLuLlLuLlLuLlLuLlLuLlLuLlLuLlLuLl
    LuLlLuLlLuLlLuLlLuLlLuLlLuLlLuLlLuLlLuLlLuLlLuLlLuLlLuLlLuLlLuLlLuLlLuLlLuLlLuLlLuLl
    LuLlLuLlLuLlLuLlLuLlLuLlLuLlLuLlLuLlLuLlLuLlLuLlLuLlLuLlLuLlLuLlLuLlLuLlLuLlLuLlLuLl
    LuLlLuLlLuLlLuLlLuLlLuLlLuLlLu9LlLuLlLuLlLuLlLuLlLuLlLuLlLuLlLuLlLuLlLuLlLuLlLuLlLuL
    lLuLlLuLlLuLlLuLlLuLlLuLlLuLlLuLlLuLlLuLlLuLlLuLlLuLlLuLlLuLlLuLlLuLlLuLlLuLlLuLlLuL
    lLuLlLuLlLuLlLuLlLuLlLuLlLuLlLuLlLuLlLuLlLuLlLuLlLuLlLuLlLu9Ll8Lu6Ll2Cn6Lu2Cn8Ll8Lu8
    Ll8Lu6Ll2Cn6Lu2Cn8LlCnLuCnLuCnLuCnLu8Ll8LueLl2Cn8Ll8Lt8Ll8Lt8Ll8Lt5LlCn2Ll4LuLtSkLl3
    Sk3LlCn2Ll4LuLt3Sk4Ll2Cn2Ll4LuCn3Sk8Ll5Lu3Sk2Cn3LlCn2Ll4LuLt2SkCnbZs5Cf6Pd2PoPiPfPs2
    PiPfPsPi8PoZlZp5CfZs9PoPiPf4Po2Pc3PoSmPsPebPoSmPoPcaPoZs5CfCnaCfNoLm2Cn6No3SmPsPeLma
    No3SmPsPeCndLm3Cn21ScfCndMn4MeMn3MecMnfCn2SoLu4SoLu2SoLl3Lu2Ll3LuLlSoLu2SoSm5Lu6SoLu
    SoLuSoLuSo4LuSoLl4LuLl4LoLl2So2Ll2Lu5SmLu4LlSoSm2SoLlSo10No23NlLuLl4NlNo2So4Cn5Sm5So
    2Sm4SoSm2SoSm2SoSm7SoSm1fSo2Sm2SoSmSoSm1fSo10cSm8SoPsPePsPe14So2Sm7SoPsPe51SoSm1eSo1
    9Sm28So6Sm48So16CnbSo15Cn3cNo4eSo16Nob7SoSm9SoSm36So8Sm6fSoSmf8SoPsPePsPePsPePsPePsP
    ePsPePsPe1eNo2cSo5SmPsPe1fSmPsPePsPePsPePsPePsPe10Sm100So83SmPsPePsPePsPePsPePsPePsP
    ePsPePsPePsPePsPePsPe3fSmPsPePsPe20SmPsPe102Sm30So15Sm2So6Sm27So2Cn20SoCn69So30Lu30L
    lLuLl3Lu2LlLuLlLuLlLuLl4LuLlLu2LlLu6Ll2Lm3LuLlLuLlLuLlLuLlLuLlLuLlLuLlLuLlLuLlLuLlLu
    LlLuLlLuLlLuLlLuLlLuLlLuLlLuLlLuLlLuLlLuLlLuLlLuLlLuLlLuLlLuLlLuLlLuLlLuLlLuLlLuLlLu
    LlLuLlLuLlLuLlLuLlLuLlLuLlLuLlLuLlLuLlLuLlLuLlLuLlLuLlLuLlLuLlLuLlLuLlLu2Ll6SoLuLlLu
    Ll3MnLuLl5Cn4PoNo2Po26LlCnLl5CnLl2Cn38Lo7CnLmPoeCnMn17Lo9Cn7LoCn7LoCn7LoCn7LoCn7LoCn
    7LoCn7LoCn7LoCn20Mn2PoPiPfPiPf3PoPiPfPoPiPf9PoPd2PoPdPoPiPf2PoPiPfPsPePsPePsPePsPe5P
    oLmaPo2Pd4PoPdPoPsdPo2So3PoPsPePsPePsPePsPePd22Cn1aSoCn59SocCnd6So1aCn10SoZs3PoSoLmL
    oNlPsPePsPePsPePsPePsPe2SoPsPePsPePsPePsPePdPs2PeSo9Nl4Mn2McPd5Lm2So3NlLmLoPo2SoCn56
    Lo2Cn2Mn2Sk2LmLoPd5aLoPo3LmLo5Cn2bLoCn5eLoCn2So4NoaSo20Lo26So9CnSo10Lo1fSoCnaNo1eSo8
    NoSofNo20SoaNo27SofNo140So19c0Lo40So5215LoLm477Lo3Cn37So9Cn28Lo6Lm2Po10cLoLm3Po10Loa
    Nd2Lo14CnLuLlLuLlLuLlLuLlLuLlLuLlLuLlLuLlLuLlLuLlLuLlLuLlLuLlLuLlLuLlLuLlLuLlLuLlLuL
    lLuLlLuLlLuLlLuLlLoMn3MePoaMnPoLmLuLlLuLlLuLlLuLlLuLlLuLlLuLlLuLlLuLlLuLlLuLlLuLlLuL
    lLuLl2Lm2Mn46LoaNl2Mn6Po8Cn17Sk9Lm2SkLuLlLuLlLuLlLuLlLuLlLuLlLu3LlLuLlLuLlLuLlLuLlLu
    LlLuLlLuLlLuLlLuLlLuLlLuLlLuLlLuLlLuLlLuLlLuLlLuLlLuLlLuLlLuLlLuLlLuLlLuLlLuLlLuLlLu
    LlLuLlLuLlLuLlLuLlLuLlLm8LlLuLlLuLl2LuLlLuLlLuLlLuLlLuLlLm2SkLuLlLuLlLoLuLlLu3LlLuLl
    LuLlLuLlLuLlLuLlLuLlLuLlLuLlLuLlLuLl5LuLl5LuLlLuLlLuLlLuLlLuLlLuLlLuLlLuLl4LuLlLuLl2
    LuLl2CnLuLlCnLlCnLlLuLlLuLlLuLlLu15Cn3LmLuLlLo2LmLl7LoMn3LoMn4LoMn17Lo2Mc2MnMc4SoMn3
    Cn6No2SoScSo6Cn34Lo4Po8Cn2Mc32Lo10Mc2Mn8Cn2PoaNd6Cn12Mn6Lo3PoLoPo2LoMnaNd1cLo8Mn2Po1
    7LobMn2McbCnPo1dLo3Cn3MnMc2fLoMn2Mc4Mn2Mc2Mn3McdPoCnLmaNd4Cn2Po5LoMnLm9LoaNd5LoCn29L
    o6Mn2Mc2Mn2Mc2Mn9Cn3LoMn8LoMnMc2CnaNd2Cn4Po10LoLm6Lo3SoLoMcMnMc32LoMnLo3Mn2Lo2Mn5Lo2
    MnLoMnLo18Cn2LoLm2PobLoMc2Mn2Mc2PoLo2LmMcMnaCn6Lo2Cn6Lo2Cn6Lo9Cn7LoCn7LoCn2bLlSk4Lm9
    LlLm2Sk4Cn50Ll23Lo2McMn2McMn2McPoMcMn2CnaNd6Cn2ba4LocCn17Lo4Cn31Lo4Cn800Cs1900Co16eL
    o2Cn6aLo26Cn7LlcCn5Ll5CnLoMnaLoSmdLoCn5LoCnLoCn2LoCn2LoCn6cLo11Sk10Cn16bLoPePs10So40
    Lo2Cn36Lo7CnSo20CncLoSc3So10Mn7PoPsPePo6Cn10MnPo2Pd2PcPsPePsPePsPePsPePsPePsPePsPePs
    Pe2PoPsPe4Po3Pc3PoCn4PoPdPsPePsPePsPe3PoSmPd3SmCnPoSc2Po4Cn5LoCn87Lo2CnCfCn3PoSc3PoP
    sPePoSmPoPd2PoaNd2Po3Sm2Po1aLuPsPoPeSkPcSk1aLlPsSmPeSmPsPePoPsPe2PoaLoLm2dLo2Lm1fLo3
    Cn6Lo2Cn6Lo2Cn6Lo2Cn3Lo3Cn2ScSmSkSo2ScCnSo4Sm2SoaCn3Cf2So2CncLoCn1aLoCn13LoCn2LoCnfL
    o2CneLo22Cn7bLo5Cn3Po4Cn2dNo3Cn9So35Nl4No11So2No3SoCndSo3CnSo2fCn2dSoMn82Cn1dLo3Cn31
    LofCnMn1bNo4Cn20Lo4No9Cn14LoNl8LoNl5Cn26Lo5Mn5Cn1eLoCnPo24Lo4Cn8LoPo5Nl2aCn28Lu28Ll4
    eLo2CnaNd6Cn24Lu4Cn24Ll4Cn28Lo8Cn34LobCnPobLuCnfLuCn7LuCn2LuCnbLlCnfLlCn7LlCn2Ll3Cn3
    4LocCn137Lo9Cn16LoaCn8Lo18Cn6LmCn2aLmCn9Lm45Cn6Lo2CnLoCn2cLoCn2Lo3CnLo2Cn17LoCnPo8No
    17Lo2So7No1fLo8Cn9No30Cn13LoCn2Lo5Cn5No16Lo6No3CnPo1aLo5CnPo40Cn38Lo4Cn2No2Lo10No2Cn
    2eNoLo3MnCn2Mn5Cn4Mn4LoCn3LoCn1dLo2Cn3Mn4CnMn9No7Cn9Po7Cn1dLo2NoPo1dLo3No20Cn8LoSo1c
    Lo2Mn4Cn5No7Po9Cn36Lo3Cn7Po16Lo2Cn8No13Lo5Cn8No12Lo7Cn4PocCn7No50Cn49Lo37Cn33LudCn33
    Ll7Cn6No24Lo4Mn8CnaNd6CnaNd4LoLmLo16Lu3Cn5MnPdLm16Ll8Cn2Smd0Cn1fNoCn2aLoCn2MnPd2Cn2L
    o10Cn3Lo37Cn4Mn1dLoaNoLo8Cn16LobMn4No5Po16Cn12Lo4Mn4Po26Cn15Lo7No14Cn17Lo9CnMcMnMc35
    LofMn7Po4Cn14NoaNdMn2Lo2MnLo9Cn3MnMc2dLo3Mc4Mn2Mc2Mn2PoCf4PoMnaCnCf2Cn19Lo7CnaNd6Cn3
    Mn24Lo5MnMc8MnCnaNd4PoLo2McLo8Cn23LoMn2PoLo9Cn2MnMc30Lo3Mc9Mn2Mc4Lo4Po4MnPoMcMnaNdLo
    PoLo3PoCn14NobCn12LoCn19Lo3Mc3Mn2McMnMc2Mn6PoMn2LoMn3eCn7LoCnLoCn4LoCnfLoCnaLoPo6Cn2
    fLoMn3Mc8Mn5CnaNd6Cn2Mn2McCn8Lo2Cn2Lo2Cn16LoCn7LoCn2LoCn5LoCn2MnLo2McMn4Mc2Cn2Mc2Cn3
    Mc2CnLo6CnMc5Cn5Lo2Mc2Cn7Mn3Cn5MnbCnaLoCnLo2CnLoCn26LoCnLo3Mc6MnCnMc2CnMcCn4McCn2McM
    nMcMnLoMnLo2PoCn2Po8Cn2Mn1dCn35Lo3Mc8Mn2Mc3MnMcMn4Lo5PoaNd2PoCnPoMn3Lo1eCn30Lo3Mc6Mn
    McMn4Mc2MnMc2Mn2LoPoLo8CnaNda6Cn2fLo3Mc4Mn2Cn4Mc2MnMc2Mn17Po4Lo2Mn22Cn30Lo3Mc8Mn2McM
    nMc2Mn3PoLobCnaNd6CndPo13Cn2bLoMnMcMn2Mc6MnMcMnLoPo6CnaNd6Cn14Nd1cCn1bLo2CnMnMcMn2Mc
    4MnMc5Mn4CnaNd2No3PoSo7Lob9Cn2cLo3Mc9MnMc2MnPo64Cn20Lu20LlaNd9NocCn8Lo2CnLo2Cn8LoCn2
    LoCn18Lo6McCn2Mc2Cn2MnMcMnLoMcLoMcMn3Po9CnaNd46Cn8Lo2Cn27Lo3Mc4Mn2Cn2Mn4McMnLoPoLoMc
    1bCnLoaMn28Lo6MnMcLo4Mn8PoMn8CnLo6Mn2Mc3Mn2eLodMnMc2Mn3PoLo5PodCn49Lo7CnaPob6Cn21LoP
    oeCnaNd6Cn9LoCn25LoMc7MnCn6MnMcMnLo5PoaCnaNd13No3Cn2Po1eLo2Cn16MnCnMc7MnMc2MnMc2Mn49
    Cn7LoCn2LoCn26Lo6Mn3CnMnCn2MnCn7MnLoMn8CnaNd6Cn6LoCn2LoCn20Lo5McCn2MnCn2McMnMcMnLo7C
    naNd136Cn13Lo2Mn2Mc2Po7Cn2MnLoMcdLoCn22Lo2Mc5Mn3Cn2McMnMcMndPoaNdMn55CnLofCn15No8So4
    Sc11SodCnPo39aLo66Cn6fNlCn5PobCnc4Loa4cCn61Lo2PodCn430Lo10CfMn6LofMnaCnf9bLo5Cn247Lo
    1ab9Cn1eLocMn3Mc3MnaNd6c6Cn239Lo7Cn1fLoCnaNd4Cn2Po4fLoCnaNd6Cn1eLo2Cn5MnPoaCn30Lo7Mn
    5Po4So4LmPoSoaCnaNdCn7NoCn15Lo5Cn13Lo1b0Cn3Lm28Lo2Lm3PoaNdc6Cn20Lu20Ll17No4Po65Cn4bL
    o4CnMnLo37Mc7Cn4MndLm40Cn2LmPoLmMnbCn2MceCn17f8Lo8Cn4d6Lo29CnaLo22e7Cn4LmCn7LmCn2LmC
    n123LofCnLo1dCn3Lo2CnLoeCn4Lo8Cn18cLo904Cn6bLo5CndLo3Cn9Lo7CnaLo2CnSo2MnPo4Cff5cCnf0
    SoaNd6Cn1b4So4cCn2eMn2Cn17Mn9Cn74So3cCnf6SoaCn27So2Cn3cSo2Mc3Mn3So6Mc8Cf8Mn2So7Mn1eS
    o4Mn3dSo15Cn42So3MnSo7aCn14NocCn14NocCn57So9Cn19No87Cn1aLu1aLl1aLu7LlCn12Ll1aLu1aLlL
    uCn2Lu2CnLu2Cn2Lu2Cn4LuCn8Lu4LlCnLlCn7LlCnbLl1aLu1aLl2LuCn4Lu2Cn8LuCn7LuCn1aLl2LuCn4
    LuCn5LuCnLu3Cn7LuCn1aLl1aLu1aLl1aLu1aLl1aLu1aLl1aLu1aLl1aLu1aLl1aLu1cLl2Cn19LuSm19Ll
    Sm6Ll19LuSm19LlSm6Ll19LuSm19LlSm6Ll19LuSm19LlSm6Ll19LuSm19LlSm6LlLuLl2Cn32Nd200So37M
    n4So32Mn8SoMneSoMn2So5PofCn5MnCnfMn450CnaLlLo14Ll6Cn6Lld5Cn7MnCn11Mn2Cn7MnCn2MnCn5Mn
    5Cn3eLm21CnMn70Cn2dLo3Cn7Mn7Lm2CnaNd4CnLoSo140Cn1eLoMn11Cn2cLo4MnaNd5CnSc1d0Cn1bLoLm
    4MnaNdd6Cn1eLo2MnLoaNd4CnPo1e0Cn7LoCn4LoCn2LoCnfLoCnc5Lo2Cn9No7Mn29Cn22Lu22Ll7MnLm4C
    naNd4Cn2Po311Cn3bNoSo3NoSc4No4cCn2dNoSofNoc2Cn4LoCn1bLoCn2LoCnLo2CnLoCnaLoCn4LoCnLoC
    nLo6CnLo4CnLoCnLoCnLoCn3LoCn2LoCnLo2CnLoCnLoCnLoCnLoCnLoCn2LoCnLo2Cn4LoCn7LoCn4LoCn4
    LoCnLoCnaLoCn11Lo5Cn3LoCn5LoCn11Lo34Cn2Sm10eCn2cSo4Cn64SocCnfSo2CnfSoCnfSoCn25SoaCnd
    Noa1So38Cn1dSodCn2cSo4Cn9So7Cn2SoeCn6So9aCnfbSo5Sk2d8So4Cn11So3CndSo3Cn77So4Cn5fSo6C
    ncSo4CnSofCncSo4Cn38So8CnaSo6Cn28So8Cn1eSo2CncSo4Cn2So3eCn154SocCneSo2CndSo3CnaSo5Cn
    38So7CnfSo2CnbSo6Cn9So7Cn93SoCn5cSoaNd406Cna6e0Lo20Cn103aLo6CndeLo2Cn1682LoeCn1d31Lo
    fCn26eLo9a2Cn21eLo5e2Cn134bLo5Cn1060Loadc51CnCf1eCn60Cf80Cnf0Mnfe10CnfffeCo2CnfffeCo
    2Cn"

/-- Reads runs of a hexadecimal length and a name of `width` letters that
begins with a capital, and gives each run its first and last code point. -/
def readRuns (width : Nat) (table : String) : List (String × Nat × Nat) :=
  go (CharSet.tableChars table).length 0 0 (CharSet.tableChars table)
where
  go : Nat → Nat → Nat → List Char → List (String × Nat × Nat)
    | 0, _, _, _ => []
    | _, _, _, [] => []
    | fuel + 1, start, n, c :: rest =>
      match CharSet.hexDigit? c with
      | some d => go fuel start (n * 16 + d) rest
      | none =>
        let length := if n = 0 then 1 else n
        (String.ofList ((c :: rest).take width), start, start + length - 1) ::
          go fuel (start + length) 0 ((c :: rest).drop width)

/-- The general categories, each with its runs. -/
def categoryRuns : List (String × Nat × Nat) := readRuns 2 categoryTable

/-- The characters whose general category is one of `names`. -/
def ofCategories (names : List String) : CharSet :=
  CharSet.ofRanges
    (categoryRuns.filterMap fun r => if names.contains r.1 then some r.2 else none)

/-- The short and long names under which a category or a group of categories
may be asked for, and its members. Names are given without case, blanks,
hyphens and low lines. Surrogates are no characters, and cannot be asked for by
themselves. -/
def categoryNames : List (List String × List String) :=
  [ (["l", "letter"], ["Lu", "Ll", "Lt", "Lm", "Lo"]),
    (["lc", "casedletter"], ["Lu", "Ll", "Lt"]),
    (["lu", "uppercaseletter"], ["Lu"]),
    (["ll", "lowercaseletter"], ["Ll"]),
    (["lt", "titlecaseletter"], ["Lt"]),
    (["lm", "modifierletter"], ["Lm"]),
    (["lo", "otherletter"], ["Lo"]),
    (["m", "mark", "combiningmark"], ["Mn", "Mc", "Me"]),
    (["mn", "nonspacingmark"], ["Mn"]),
    (["mc", "spacingmark"], ["Mc"]),
    (["me", "enclosingmark"], ["Me"]),
    (["n", "number"], ["Nd", "Nl", "No"]),
    (["nd", "decimalnumber", "digit"], ["Nd"]),
    (["nl", "letternumber"], ["Nl"]),
    (["no", "othernumber"], ["No"]),
    (["p", "punctuation", "punct"], ["Pc", "Pd", "Ps", "Pe", "Pi", "Pf", "Po"]),
    (["pc", "connectorpunctuation"], ["Pc"]),
    (["pd", "dashpunctuation"], ["Pd"]),
    (["ps", "openpunctuation"], ["Ps"]),
    (["pe", "closepunctuation"], ["Pe"]),
    (["pi", "initialpunctuation"], ["Pi"]),
    (["pf", "finalpunctuation"], ["Pf"]),
    (["po", "otherpunctuation"], ["Po"]),
    (["s", "symbol"], ["Sm", "Sc", "Sk", "So"]),
    (["sm", "mathsymbol"], ["Sm"]),
    (["sc", "currencysymbol"], ["Sc"]),
    (["sk", "modifiersymbol"], ["Sk"]),
    (["so", "othersymbol"], ["So"]),
    (["z", "separator"], ["Zs", "Zl", "Zp"]),
    (["zs", "spaceseparator"], ["Zs"]),
    (["zl", "lineseparator"], ["Zl"]),
    (["zp", "paragraphseparator"], ["Zp"]),
    (["c", "other"], ["Cc", "Cf", "Cn", "Co", "Cs"]),
    (["cc", "control", "cntrl"], ["Cc"]),
    (["cf", "format"], ["Cf"]),
    (["cn", "unassigned"], ["Cn"]),
    (["co", "privateuse"], ["Co"]) ]

/-- The characters of the category, or group of categories, of this name. -/
def category? (name : String) : Option CharSet :=
  if name == "any" then some CharSet.all
  else if name == "ascii" then some (CharSet.ofRanges [(0, 0x7F)])
  else if name == "assigned" then some (ofCategories ["Cn"]).complement
  else (categoryNames.find? fun entry => entry.1.contains name).map
    fun entry => ofCategories entry.2

end Stepwise.Unicode
