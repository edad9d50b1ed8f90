import DocQuery.Text.Edition

/-! Scripts of characters.

Every character belongs to one script of four letters; those that many scripts share
belong to `Zyyy`, and marks that take the script of what they stand on to `Zinh`. Of
shared characters a second table lists the scripts that use them (`extensions`). -/
namespace DocQuery.Text

/-- The scripts of the latest edition. -/
def scripts : List String := [
  "Zyyy65Latn26Zyyy6Latn26Zyyy47Latn1Zyyy15Latn1Zyyy5Latn23Zyyy1Latn31Zyyy1Latn449Zyyy39Latn5Zyyy",
  "5Bopo2Zyyy20Zinh112Grek4Zyyy1Grek3Zzzz2Grek4Zyyy1Grek1Zzzz4Grek1Zyyy1Grek1Zyyy1Grek3Zzzz1Grek1",
  "Zzzz1Grek20Zzzz1Grek63Copt14Grek16Cyrl133Zinh2Cyrl169Zzzz1Armn38Zzzz2Armn50Zzzz2Armn3Zzzz1Hebr",
  "55Zzzz8Hebr27Zzzz4Hebr6Zzzz11Arab5Zyyy1Arab6Zyyy1Arab14Zyyy1Arab3Zyyy1Arab32Zyyy1Arab10Zinh11A",
  "rab26Zinh1Arab108Zyyy1Arab34Syrc14Zzzz1Syrc60Zzzz2Syrc3Arab48Thaa50Zzzz14Nkoo59Zzzz2Nkoo3Samr4",
  "6Zzzz2Samr15Zzzz1Mand28Zzzz2Mand1Zzzz1Syrc11Zzzz5Arab34Zzzz5Arab75Zyyy1Arab29Deva81Zinh4Deva15",
  "Zyyy2Deva26Beng4Zzzz1Beng8Zzzz2Beng2Zzzz2Beng22Zzzz1Beng7Zzzz1Beng1Zzzz3Beng4Zzzz2Beng9Zzzz2Be",
  "ng2Zzzz2Beng4Zzzz8Beng1Zzzz4Beng2Zzzz1Beng5Zzzz2Beng25Zzzz2Guru3Zzzz1Guru6Zzzz4Guru2Zzzz2Guru2",
  "2Zzzz1Guru7Zzzz1Guru2Zzzz1Guru2Zzzz1Guru2Zzzz2Guru1Zzzz1Guru5Zzzz4Guru2Zzzz2Guru3Zzzz3Guru1Zzz",
  "z7Guru4Zzzz1Guru1Zzzz7Guru17Zzzz10Gujr3Zzzz1Gujr9Zzzz1Gujr3Zzzz1Gujr22Zzzz1Gujr7Zzzz1Gujr2Zzzz",
  "1Gujr5Zzzz2Gujr10Zzzz1Gujr3Zzzz1Gujr3Zzzz2Gujr1Zzzz15Gujr4Zzzz2Gujr12Zzzz7Gujr7Zzzz1Orya3Zzzz1",
  "Orya8Zzzz2Orya2Zzzz2Orya22Zzzz1Orya7Zzzz1Orya2Zzzz1Orya5Zzzz2Orya9Zzzz2Orya2Zzzz2Orya3Zzzz7Ory",
  "a3Zzzz4Orya2Zzzz1Orya5Zzzz2Orya18Zzzz10Taml2Zzzz1Taml6Zzzz3Taml3Zzzz1Taml4Zzzz3Taml2Zzzz1Taml1",
  "Zzzz1Taml2Zzzz3Taml2Zzzz3Taml3Zzzz3Taml12Zzzz4Taml5Zzzz3Taml3Zzzz1Taml4Zzzz2Taml1Zzzz6Taml1Zzz",
  "z14Taml21Zzzz5Telu13Zzzz1Telu3Zzzz1Telu23Zzzz1Telu16Zzzz2Telu9Zzzz1Telu3Zzzz1Telu4Zzzz7Telu2Zz",
  "zz1Telu3Zzzz1Telu2Zzzz2Telu4Zzzz2Telu10Zzzz7Telu9Knda13Zzzz1Knda3Zzzz1Knda23Zzzz1Knda10Zzzz1Kn",
  "da5Zzzz2Knda9Zzzz1Knda3Zzzz1Knda4Zzzz7Knda2Zzzz5Knda3Zzzz1Knda4Zzzz2Knda10Zzzz1Knda3Zzzz12Mlym",
  "13Zzzz1Mlym3Zzzz1Mlym51Zzzz1Mlym3Zzzz1Mlym6Zzzz4Mlym16Zzzz2Mlym26Zzzz1Sinh3Zzzz1Sinh18Zzzz3Sin",
  "h24Zzzz1Sinh9Zzzz1Sinh1Zzzz2Sinh7Zzzz3Sinh1Zzzz4Sinh6Zzzz1Sinh1Zzzz1Sinh8Zzzz6Sinh10Zzzz2Sinh3",
  "Zzzz12Thai58Zzzz4Zyyy1Thai28Zzzz37Laoo2Zzzz1Laoo1Zzzz1Laoo5Zzzz1Laoo24Zzzz1Laoo1Zzzz1Laoo23Zzz",
  "z2Laoo5Zzzz1Laoo1Zzzz1Laoo7Zzzz1Laoo10Zzzz2Laoo4Zzzz32Tibt72Zzzz1Tibt36Zzzz4Tibt39Zzzz1Tibt36Z",
  "zzz1Tibt15Zzzz1Tibt7Zyyy4Tibt2Zzzz37Mymr160Geor38Zzzz1Geor1Zzzz5Geor1Zzzz2Geor43Zyyy1Geor4Hang",
  "256Ethi73Zzzz1Ethi4Zzzz2Ethi7Zzzz1Ethi1Zzzz1Ethi4Zzzz2Ethi41Zzzz1Ethi4Zzzz2Ethi33Zzzz1Ethi4Zzz",
  "z2Ethi7Zzzz1Ethi1Zzzz1Ethi4Zzzz2Ethi15Zzzz1Ethi57Zzzz1Ethi4Zzzz2Ethi67Zzzz2Ethi32Zzzz3Ethi26Zz",
  "zz6Cher86Zzzz2Cher6Zzzz2Cans640Ogam29Zzzz3Runr75Zyyy3Runr11Zzzz7Tglg22Zzzz9Tglg1Hano21Zyyy2Zzz",
  "z9Buhd20Zzzz12Tagb13Zzzz1Tagb3Zzzz1Tagb2Zzzz12Khmr94Zzzz2Khmr10Zzzz6Khmr10Zzzz6Mong2Zyyy2Mong1",
  "Zyyy1Mong20Zzzz6Mong89Zzzz7Mong43Zzzz5Cans70Zzzz10Limb31Zzzz1Limb12Zzzz4Limb12Zzzz4Limb1Zzzz3L",
  "imb12Tale30Zzzz2Tale5Zzzz11Talu44Zzzz4Talu26Zzzz6Talu11Zzzz3Talu2Khmr32Bugi28Zzzz2Bugi2Lana63Z",
  "zzz1Lana29Zzzz2Lana11Zzzz6Lana10Zzzz6Lana14Zzzz2Zinh46Zzzz2Zinh12Zzzz20Bali77Zzzz1Bali50Sund64",
  "Batk52Zzzz8Batk4Lepc56Zzzz3Lepc15Zzzz3Lepc3Olck48Cyrl11Zzzz5Geor43Zzzz2Geor3Sund8Zzzz8Zinh3Zyy",
  "y1Zinh13Zyyy1Zinh7Zyyy4Zinh1Zyyy6Zinh1Zyyy3Zinh2Zyyy1Zzzz5Latn38Grek5Cyrl1Latn49Grek5Latn4Grek",
  "5Latn13Cyrl1Latn70Grek1Zinh64Latn256Grek22Zzzz2Grek6Zzzz2Grek38Zzzz2Grek6Zzzz2Grek8Zzzz1Grek1Z",
  "zzz1Grek1Zzzz1Grek1Zzzz1Grek31Zzzz2Grek53Zzzz1Grek15Zzzz1Grek14Zzzz2Grek6Zzzz1Grek19Zzzz2Grek3",
  "Zzzz1Grek9Zzzz1Zyyy12Zinh2Zyyy87Zzzz1Zyyy11Latn1Zzzz2Zyyy11Latn1Zyyy15Zzzz1Latn13Zzzz3Zyyy34Zz",
  "zz14Zinh33Zzzz15Zyyy38Grek1Zyyy3Latn2Zyyy6Latn1Zyyy27Latn1Zyyy17Latn41Zyyy3Zzzz4Zyyy666Zzzz22Z",
  "yyy11Zzzz21Zyyy928Brai256Zyyy628Zzzz2Zyyy138Glag96Latn32Copt116Zzzz5Copt7Geor38Zzzz1Geor1Zzzz5",
  "Geor1Zzzz2Tfng56Zzzz7Tfng2Zzzz14Tfng1Ethi23Zzzz9Ethi7Zzzz1Ethi7Zzzz1Ethi7Zzzz1Ethi7Zzzz1Ethi7Z",
  "zzz1Ethi7Zzzz1Ethi7Zzzz1Ethi7Zzzz1Cyrl32Zyyy94Zzzz34Hani26Zzzz1Hani89Zzzz12Hani214Zzzz26Zyyy21",
  "Hani1Zyyy1Hani1Zyyy25Hani9Zinh4Hang2Zyyy8Hani4Zyyy4Zzzz1Hira86Zzzz2Zinh2Zyyy2Hira3Zyyy1Kana90Z",
  "yyy2Kana3Zzzz5Bopo43Zzzz1Hang94Zzzz1Zyyy16Bopo32Zyyy38Zzzz9Zyyy1Kana16Hang31Zzzz1Zyyy64Hang31Z",
  "yyy81Kana47Zyyy1Kana88Zyyy168Hani6592Zyyy64Hani20992Yiii1165Zzzz3Yiii55Zzzz9Lisu48Vaii300Zzzz2",
  "0Cyrl96Bamu88Zzzz8Zyyy34Latn102Zyyy3Latn82Zzzz20Latn15Sylo45Zzzz3Zyyy10Zzzz6Phag56Zzzz8Saur70Z",
  "zzz8Saur12Zzzz6Deva32Kali46Zyyy1Kali1Rjng36Zzzz11Rjng1Hang29Zzzz3Java78Zzzz1Zyyy1Java10Zzzz4Ja",
  "va2Mymr31Zzzz1Cham55Zzzz9Cham14Zzzz2Cham10Zzzz2Cham4Mymr32Tavt67Zzzz24Tavt5Mtei23Zzzz10Ethi6Zz",
  "zz2Ethi6Zzzz2Ethi6Zzzz9Ethi7Zzzz1Ethi7Zzzz1Latn43Zyyy1Latn9Grek1Latn4Zyyy2Zzzz4Cher80Mtei46Zzz",
  "z2Mtei10Zzzz6Hang11172Zzzz12Hang23Zzzz4Hang49Zzzz8452Hani366Zzzz2Hani106Zzzz38Latn7Zzzz12Armn5",
  "Zzzz5Hebr26Zzzz1Hebr5Zzzz1Hebr1Zzzz1Hebr2Zzzz1Hebr2Zzzz1Hebr10Arab494Zyyy2Arab144Zzzz32Arab16Z",
  "inh16Zyyy10Zzzz6Zinh14Cyrl2Zyyy35Zzzz1Zyyy19Zzzz1Zyyy4Zzzz4Arab5Zzzz1Arab135Zzzz2Zyyy1Zzzz1Zyy",
  "y32Latn26Zyyy6Latn26Zyyy11Kana10Zyyy1Kana45Zyyy2Hang31Zzzz3Hang6Zzzz2Hang6Zzzz2Hang6Zzzz2Hang3",
  "Zzzz3Zyyy7Zzzz1Zyyy7Zzzz10Zyyy5Zzzz2Linb12Zzzz1Linb26Zzzz1Linb19Zzzz1Linb2Zzzz1Linb15Zzzz2Linb",
  "14Zzzz34Linb123Zzzz5Zyyy3Zzzz4Zyyy45Zzzz3Zyyy9Grek79Zzzz1Zyyy13Zzzz3Grek1Zzzz47Zyyy45Zinh1Zzzz",
  "130Lyci29Zzzz3Cari49Zzzz15Zinh1Zyyy27Zzzz4Ital36Zzzz9Ital3Goth27Zzzz5Perm43Zzzz5Ugar30Zzzz1Uga",
  "r1Xpeo36Zzzz4Xpeo14Zzzz42Dsrt80Shaw48Osma30Zzzz2Osma10Zzzz6Osge36Zzzz4Osge36Zzzz4Elba40Zzzz8Ag",
  "hb52Zzzz11Aghb1Vith11Zzzz1Vith15Zzzz1Vith7Zzzz1Vith2Zzzz1Vith11Zzzz1Vith15Zzzz1Vith7Zzzz1Vith2",
  "Zzzz3Todr52Zzzz12Lina311Zzzz9Lina22Zzzz10Lina8Zzzz24Latn6Zzzz1Latn42Zzzz1Latn9Zzzz69Cprt6Zzzz2",
  "Cprt1Zzzz1Cprt44Zzzz1Cprt2Zzzz3Cprt1Zzzz2Cprt1Armi22Zzzz1Armi9Palm32Nbat31Zzzz8Nbat9Zzzz48Hatr",
  "19Zzzz1Hatr2Zzzz5Hatr5Phnx28Zzzz3Phnx1Lydi26Zzzz5Lydi1Sidt26Zzzz38Mero32Merc24Zzzz4Merc20Zzzz2",
  "Merc46Khar4Zzzz1Khar2Zzzz5Khar8Zzzz1Khar3Zzzz1Khar29Zzzz2Khar3Zzzz4Khar10Zzzz7Khar9Zzzz7Sarb32",
  "Narb32Zzzz32Mani39Zzzz4Mani12Zzzz9Avst54Zzzz3Avst7Prti22Zzzz2Prti8Phli19Zzzz5Phli8Phlp18Zzzz7P",
  "hlp4Zzzz12Phlp7Zzzz80Orkh73Zzzz55Hung51Zzzz13Hung51Zzzz7Hung6Rohg40Zzzz8Rohg10Zzzz6Gara38Zzzz3",
  "Gara29Zzzz8Gara2Zzzz208Arab31Zzzz1Yezi42Zzzz1Yezi3Zzzz2Yezi2Zzzz16Arab6Zzzz8Arab9Zzzz33Arab6So",
  "go40Zzzz8Sogd42Zzzz22Ougr26Zzzz38Chrs28Zzzz20Elym23Zzzz9Brah78Zzzz4Brah36Zzzz9Brah1Kthi67Zzzz1",
  "0Kthi1Zzzz2Sora25Zzzz7Sora10Zzzz6Cakm53Zzzz1Cakm18Zzzz8Mahj39Zzzz9Shrd96Zzzz1Sinh20Zzzz11Khoj1",
  "8Zzzz1Khoj47Zzzz62Mult7Zzzz1Mult1Zzzz1Mult4Zzzz1Mult15Zzzz1Mult11Zzzz6Sind59Zzzz5Sind10Zzzz6Gr",
  "an4Zzzz1Gran8Zzzz2Gran2Zzzz2Gran22Zzzz1Gran7Zzzz1Gran2Zzzz1Gran5Zzzz1Zinh1Gran9Zzzz2Gran2Zzzz2",
  "Gran3Zzzz2Gran1Zzzz6Gran1Zzzz5Gran7Zzzz2Gran7Zzzz3Gran5Zzzz11Tutg10Zzzz1Tutg1Zzzz2Tutg1Zzzz1Tu",
  "tg38Zzzz1Tutg10Zzzz1Tutg1Zzzz2Tutg1Zzzz1Tutg4Zzzz1Tutg10Zzzz1Tutg2Zzzz8Tutg2Zzzz29Newa92Zzzz1N",
  "ewa5Zzzz30Tirh72Zzzz8Tirh10Zzzz166Sidd54Zzzz2Sidd38Zzzz34Modi69Zzzz11Modi10Zzzz6Mong13Zzzz19Ta",
  "kr58Zzzz6Takr10Zzzz6Mymr20Zzzz28Ahom27Zzzz2Ahom15Zzzz4Ahom23Zzzz185Dogr60Zzzz100Wara83Zzzz12Wa",
  "ra1Diak7Zzzz2Diak1Zzzz2Diak8Zzzz1Diak2Zzzz1Diak30Zzzz1Diak2Zzzz2Diak12Zzzz9Diak10Zzzz70Nand8Zz",
  "zz2Nand46Zzzz2Nand11Zzzz27Zanb72Zzzz8Soyo83Zzzz13Cans16Pauc57Zzzz7Deva10Zzzz86Shrd8Zzzz88Sunu3",
  "4Zzzz14Sunu10Zzzz6Bhks9Zzzz1Bhks45Zzzz1Bhks14Zzzz10Bhks29Zzzz3Marc32Zzzz2Marc22Zzzz1Marc14Zzzz",
  "73Gonm7Zzzz1Gonm2Zzzz1Gonm44Zzzz3Gonm1Zzzz1Gonm2Zzzz1Gonm9Zzzz8Gonm10Zzzz6Gong6Zzzz1Gong2Zzzz1",
  "Gong37Zzzz1Gong2Zzzz1Gong6Zzzz7Gong10Zzzz6Tols44Zzzz4Tols10Zzzz246Maka25Zzzz7Kawi17Zzzz1Kawi41",
  "Zzzz3Kawi29Zzzz85Lisu1Zzzz15Taml50Zzzz13Taml1Xsux922Zzzz102Xsux111Zzzz1Xsux5Zzzz11Xsux196Zzzz2",
  "636Cpmn99Zzzz13Egyp1110Zzzz10Egyp3995Zzzz5Hluw583Zzzz6841Gukh58Zzzz1734Bamu569Zzzz7Mroo31Zzzz1",
  "Mroo10Zzzz4Mroo2Tnsa79Zzzz1Tnsa10Zzzz6Bass30Zzzz2Bass6Zzzz10Hmng70Zzzz10Hmng10Zzzz1Hmng7Zzzz1H",
  "mng21Zzzz5Hmng19Zzzz432Krai58Zzzz198Medf91Zzzz5Berf25Zzzz2Berf25Zzzz44Plrd75Zzzz4Plrd57Zzzz7Pl",
  "rd17Zzzz64Tang1Nshu1Hani2Kits1Zzzz11Hani7Zzzz9Tang6912Kits470Zzzz41Kits1Tang31Zzzz97Tang115Zzz",
  "z8701Kana4Zzzz1Kana7Zzzz1Kana2Zzzz1Kana1Hira287Kana3Zzzz15Hira1Zzzz29Hira3Zzzz2Kana1Zzzz14Kana",
  "4Zzzz8Nshu396Zzzz2308Dupl107Zzzz5Dupl13Zzzz3Dupl9Zzzz7Dupl10Zzzz2Dupl4Zyyy4Zzzz3932Zyyy253Zzzz",
  "3Zyyy436Zzzz6Zyyy23Zzzz15Zyyy17Zzzz15Zinh46Zzzz2Zinh23Zzzz9Zyyy116Zzzz60Zyyy246Zzzz10Zyyy39Zzz",
  "z2Zyyy62Zinh3Zyyy17Zinh8Zyyy2Zinh7Zyyy30Zinh4Zyyy61Zzzz21Grek70Zzzz122Zyyy20Zzzz12Zyyy20Zzzz12",
  "Zyyy87Zzzz9Zyyy25Zzzz135Zyyy85Zzzz1Zyyy71Zzzz1Zyyy2Zzzz2Zyyy1Zzzz2Zyyy2Zzzz2Zyyy4Zzzz1Zyyy12Zz",
  "zz1Zyyy1Zzzz1Zyyy7Zzzz1Zyyy65Zzzz1Zyyy4Zzzz2Zyyy8Zzzz1Zyyy7Zzzz1Zyyy28Zzzz1Zyyy4Zzzz1Zyyy5Zzzz",
  "1Zyyy1Zzzz3Zyyy7Zzzz1Zyyy340Zzzz2Zyyy292Zzzz2Zyyy50Sgnw652Zzzz15Sgnw5Zzzz1Sgnw15Zzzz1104Latn31",
  "Zzzz6Latn6Zzzz213Glag7Zzzz1Glag17Zzzz2Glag7Zzzz1Glag2Zzzz1Glag5Zzzz5Cyrl62Zzzz33Cyrl1Zzzz112Hm",
  "np45Zzzz3Hmnp14Zzzz2Hmnp10Zzzz4Hmnp2Zzzz320Toto31Zzzz17Wcho58Zzzz5Wcho1Zzzz464Nagm42Zzzz214Ona",
  "o43Zzzz4Onao1Zzzz192Tayo31Zzzz1Tayo22Zzzz8Tayo2Zzzz224Ethi7Zzzz1Ethi4Zzzz1Ethi2Zzzz1Ethi15Zzzz",
  "1Mend197Zzzz2Mend16Zzzz41Adlm76Zzzz4Adlm10Zzzz4Adlm2Zzzz785Zyyy68Zzzz76Zyyy61Zzzz194Arab4Zzzz1",
  "Arab27Zzzz1Arab2Zzzz1Arab1Zzzz2Arab1Zzzz1Arab10Zzzz1Arab4Zzzz1Arab1Zzzz1Arab1Zzzz6Arab1Zzzz4Ar",
  "ab1Zzzz1Arab1Zzzz1Arab1Zzzz1Arab3Zzzz1Arab2Zzzz1Arab1Zzzz2Arab1Zzzz1Arab1Zzzz1Arab1Zzzz1Arab1Z",
  "zzz1Arab1Zzzz1Arab2Zzzz1Arab1Zzzz2Arab4Zzzz1Arab7Zzzz1Arab4Zzzz1Arab4Zzzz1Arab1Zzzz1Arab10Zzzz",
  "1Arab17Zzzz5Arab3Zzzz1Arab5Zzzz1Arab17Zzzz52Arab2Zzzz270Zyyy44Zzzz4Zyyy100Zzzz12Zyyy15Zzzz2Zyy",
  "y15Zzzz1Zyyy15Zzzz1Zyyy37Zzzz10Zyyy174Zzzz56Zyyy26Hira1Zyyy2Zzzz13Zyyy44Zzzz4Zyyy9Zzzz7Zyyy2Zz",
  "zz14Zyyy6Zzzz154Zyyy985Zzzz3Zyyy17Zzzz3Zyyy13Zzzz3Zyyy218Zzzz6Zyyy12Zzzz4Zyyy1Zzzz15Zyyy12Zzzz",
  "4Zyyy56Zzzz8Zyyy10Zzzz6Zyyy40Zzzz8Zyyy30Zzzz2Zyyy12Zzzz4Zyyy2Zzzz14Zyyy9Zzzz39Zyyy344Zzzz8Zyyy",
  "14Zzzz2Zyyy13Zzzz3Zyyy11Zzzz3Zyyy57Zzzz1Zyyy1Zzzz4Zyyy16Zzzz2Zyyy12Zzzz4Zyyy10Zzzz7Zyyy147Zzzz",
  "1Zyyy103Zzzz1029Hani42720Zzzz32Hani4382Zzzz2Hani5774Zzzz2Hani7473Zzzz15Hani622Zzzz2466Hani542Z",
  "zzz1506Hani4939Zzzz5Hani8490Zzzz707463Zyyy1Zzzz30Zyyy96Zzzz128Zinh240Zzzz196112"]

/-- Characters with the scripts that use them, where these are not the script that the
character belongs to. A hyphen stands for no list. -/
def extensions : List String := [
  "-183AvstCariCoptDuplElbaGeorGlagGongGothGrekHaniLatnLydiMahjPermShaw1-516BengCyrlDevaLatnLisuT",
  "haiToto1-10BopoLatn1-1BopoLatn3-1LatnLisu1-9LatnThai1-1BopoLatn1-38CherCoptCyrlGrekLatnPermSun",
  "uTale1CherCyrlGrekLatnOsgeSunuTaleTodr1CherCyrlLatnTfng1GlagLatnSunuSyrcThai1AghbCherCoptCyrlG",
  "othGrekLatnOsgeSyrcTfngTodr1CoptElbaGlagGothKanaLatn1CyrlGrekLatnPermTfng1CoptDuplHebrLatnPerm",
  "SyrcTaleTfngTodr1ArmnCyrlDuplGothGrekHebrLatnPermSyrcTaleTfng1LatnTfng1DuplLatnSyrc1CherCyrlLa",
  "tnOsge1CherLatnTale1LatnSunu1EthiLatn1-1LatnSunu1CyrlLatnTodr1-1GrekLatnPermTodr1-15CherDuplKa",
  "naLatnSyrcTfng1CherDuplLatnSyrc1LatnSyrc1-7LatnSunuSyrc1LatnSyrc1-1CherLatnSyrc1AghbCherGothLa",
  "tnSunuSyrcThai1-16Grek1-2Grek1-18LatnOsge1-5AghbLatnTodr1-4Latn13-4CoptGrek2-269CyrlPerm1CyrlG",
  "lag1CyrlLatn2CyrlGlag1-257ArmnGeorGlag1-130ArabGaraNkooRohgSyrcThaaYezi1-14ArabGaraNkooRohgSyr",
  "cThaaYezi1ArabSyrcThaa1-2AdlmArabGaraNkooRohgSyrcThaaYezi1-32AdlmArabMandManiOugrPhlpRohgSogdS",
  "yrc1-10ArabSyrc11-10ArabThaaYezi10-6ArabSyrc1-99ArabRohg1-636BengDevaGranGujrGuruKndaLatnMlymN",
  "andNewaOryaShrdTamlTeluTirh1BengDevaGranGujrGuruKndaLatnMlymNewaOryaTamlTeluTirh1-17BengDevaDo",
  "grGongGonmGranGujrGuruKndaMahjMlymNandOnaoOryaSindSinhSyloTakrTamlTeluTirh1BengDevaDogrGongGon",
  "mGranGujrGukhGuruKndaLimbMahjMlymNandOnaoOryaSindSinhSyloTakrTamlTeluTirh1DevaDogrKthiMahj10-1",
  "18BengCakmSylo10-118GuruMult10-118GujrKhoj10-246GranTaml14-242KndaNandTutg10-848CakmMymrTale10",
  "-177GeorGlagLatn1-1519Runr3-71BuhdHanoTagbTglg2-203MongPhag2-1MongPhag1-1226BengDevaGranKnda1D",
  "eva1BengDevaGranKnda1DevaGranKnda1Deva1BengDevaNewaTeluTirh1BengDevaTelu1DevaNewaShrd1BengDeva",
  "NewaTelu1DevaShrd1DevaKndaMlymOryaTamlTelu1Deva1DevaShrd2Deva2DevaShrd1BengDeva1DevaNewaTirh1D",
  "eva6DevaNandNewa1BengDevaShrd1DevaNewa1Deva1BengDevaNewaShrd1Deva4BengDevaGranKndaMlymNandOrya",
  "SinhTeluTirhTutg1DevaGran1DevaGranKndaTutg1BengDeva2Beng1DevaGran2Nand1-197Grek2-54CyrlLatnSyr",
  "c1-1Syrc1-564LatnMongPhag1-31AdlmArab1-10CariGeorGlagHungLyciOrkh1-2CariGrekHungMero1-146DevaG",
  "ranLatn1-3366CoptLatn1-24AvstOrkh1AvstCariGeorHungKthiLydiSamr1-10Dupl1-4AdlmArabHung1-1CyrlGl",
  "ag1-428HaniTang16-1BopoHangHaniHiraKanaMongYiii1BopoHangHaniHiraKanaMongPhagYiii1BopoHangHaniH",
  "iraKana1-2Hani1-1BopoHangHaniHiraKanaMongTibtYiii2BopoHangHaniHiraKanaLisuMongTibtYiii2BopoHan",
  "gHaniHiraKanaYiii6-1BopoHangHaniHiraKana1BopoHangHaniHiraKanaYiii8BopoHangHaniHiraKana4-10Bopo",
  "Hani4-2BopoHangHaniHiraKana1HiraKana5-1BopoHangHaniHiraKana1-4HaniHiraKana2Hani2-89HiraKana4-3",
  "HiraKana1-90BopoHangHaniHiraKanaYiii1HiraKana1-147Hani16-32Hani38-9HaniTang1-48Hani40-56Hani49",
  "-15Hani12-51Hani1-88Hani25-10Hani5-96Hani31-29296CyrlGlag1-144HaniLatn8-296DevaDogrGujrGuruKho",
  "jKndaKthiMahjMlymModiNandShrdSindTakrTirhTutg3DevaDogrGujrGuruKhojKndaKthiMahjModiNandShrdSind",
  "TakrTirhTutg3DevaDogrGujrGuruKhojKthiMahjModiSindTakrTirh2DevaDogrGujrGuruKhojKthiMahjModiShrd",
  "SindTakrTirh1DevaDogrGujrGuruKhojKthiMahjModiSindTakrTirh1-183BengDevaTutg1-1DevaTaml1-58KaliL",
  "atnMymr1-160BugiJava1-21358ArabNkoo2-178ArabThaa1-10ArabThaa1-71BopoHangHaniHiraKana2-282BopoH",
  "angHaniHiraKanaYiii5-10HiraKana1-45HiraKana2-352CpmnCprtLinb2CprtLinb1-4CprtLinaLinb45-3CprtLi",
  "nb9-416ArabCopt28-2038ManiOugr1-2062GranTaml1-1GranTaml1-55GranTaml2-3219GranTaml2-1GranTaml1-",
  "40140Dupl4-5820Hani18-7902Hani2"]

/-- The four letters and the name of each script. -/
def scriptNames : List (String × String) := [
  ("Zyyy", "Common"), ("Latn", "Latin"), ("Bopo", "Bopomofo"), ("Zinh", "Inherited"),
  ("Grek", "Greek"), ("Copt", "Coptic"), ("Cyrl", "Cyrillic"), ("Armn", "Armenian"),
  ("Hebr", "Hebrew"), ("Arab", "Arabic"), ("Syrc", "Syriac"), ("Thaa", "Thaana"), ("Nkoo", "Nko"),
  ("Samr", "Samaritan"), ("Mand", "Mandaic"), ("Deva", "Devanagari"), ("Beng", "Bengali"),
  ("Guru", "Gurmukhi"), ("Gujr", "Gujarati"), ("Orya", "Oriya"), ("Taml", "Tamil"),
  ("Telu", "Telugu"), ("Knda", "Kannada"), ("Mlym", "Malayalam"), ("Sinh", "Sinhala"),
  ("Thai", "Thai"), ("Laoo", "Lao"), ("Tibt", "Tibetan"), ("Mymr", "Myanmar"),
  ("Geor", "Georgian"), ("Hang", "Hangul"), ("Ethi", "Ethiopic"), ("Cher", "Cherokee"),
  ("Cans", "Canadian_Aboriginal"), ("Ogam", "Ogham"), ("Runr", "Runic"), ("Tglg", "Tagalog"),
  ("Hano", "Hanunoo"), ("Buhd", "Buhid"), ("Tagb", "Tagbanwa"), ("Khmr", "Khmer"),
  ("Mong", "Mongolian"), ("Limb", "Limbu"), ("Tale", "Tai_Le"), ("Talu", "New_Tai_Lue"),
  ("Bugi", "Buginese"), ("Lana", "Tai_Tham"), ("Bali", "Balinese"), ("Sund", "Sundanese"),
  ("Batk", "Batak"), ("Lepc", "Lepcha"), ("Olck", "Ol_Chiki"), ("Brai", "Braille"),
  ("Glag", "Glagolitic"), ("Tfng", "Tifinagh"), ("Hani", "Han"), ("Hira", "Hiragana"),
  ("Kana", "Katakana"), ("Yiii", "Yi"), ("Lisu", "Lisu"), ("Vaii", "Vai"), ("Bamu", "Bamum"),
  ("Sylo", "Syloti_Nagri"), ("Phag", "Phags_Pa"), ("Saur", "Saurashtra"), ("Kali", "Kayah_Li"),
  ("Rjng", "Rejang"), ("Java", "Javanese"), ("Cham", "Cham"), ("Tavt", "Tai_Viet"),
  ("Mtei", "Meetei_Mayek"), ("Linb", "Linear_B"), ("Lyci", "Lycian"), ("Cari", "Carian"),
  ("Ital", "Old_Italic"), ("Goth", "Gothic"), ("Perm", "Old_Permic"), ("Ugar", "Ugaritic"),
  ("Xpeo", "Old_Persian"), ("Dsrt", "Deseret"), ("Shaw", "Shavian"), ("Osma", "Osmanya"),
  ("Osge", "Osage"), ("Elba", "Elbasan"), ("Aghb", "Caucasian_Albanian"), ("Vith", "Vithkuqi"),
  ("Lina", "Linear_A"), ("Cprt", "Cypriot"), ("Armi", "Imperial_Aramaic"), ("Palm", "Palmyrene"),
  ("Nbat", "Nabataean"), ("Hatr", "Hatran"), ("Phnx", "Phoenician"), ("Lydi", "Lydian"),
  ("Mero", "Meroitic_Hieroglyphs"), ("Merc", "Meroitic_Cursive"), ("Khar", "Kharoshthi"),
  ("Sarb", "Old_South_Arabian"), ("Narb", "Old_North_Arabian"), ("Mani", "Manichaean"),
  ("Avst", "Avestan"), ("Prti", "Inscriptional_Parthian"), ("Phli", "Inscriptional_Pahlavi"),
  ("Phlp", "Psalter_Pahlavi"), ("Orkh", "Old_Turkic"), ("Hung", "Old_Hungarian"),
  ("Rohg", "Hanifi_Rohingya"), ("Yezi", "Yezidi"), ("Sogo", "Old_Sogdian"), ("Sogd", "Sogdian"),
  ("Ougr", "Old_Uyghur"), ("Chrs", "Chorasmian"), ("Elym", "Elymaic"), ("Brah", "Brahmi"),
  ("Kthi", "Kaithi"), ("Sora", "Sora_Sompeng"), ("Cakm", "Chakma"), ("Mahj", "Mahajani"),
  ("Shrd", "Sharada"), ("Khoj", "Khojki"), ("Mult", "Multani"), ("Sind", "Khudawadi"),
  ("Gran", "Grantha"), ("Newa", "Newa"), ("Tirh", "Tirhuta"), ("Sidd", "Siddham"),
  ("Modi", "Modi"), ("Takr", "Takri"), ("Ahom", "Ahom"), ("Dogr", "Dogra"),
  ("Wara", "Warang_Citi"), ("Diak", "Dives_Akuru"), ("Nand", "Nandinagari"),
  ("Zanb", "Zanabazar_Square"), ("Soyo", "Soyombo"), ("Pauc", "Pau_Cin_Hau"),
  ("Bhks", "Bhaiksuki"), ("Marc", "Marchen"), ("Gonm", "Masaram_Gondi"),
  ("Gong", "Gunjala_Gondi"), ("Maka", "Makasar"), ("Kawi", "Kawi"), ("Xsux", "Cuneiform"),
  ("Cpmn", "Cypro_Minoan"), ("Egyp", "Egyptian_Hieroglyphs"), ("Hluw", "Anatolian_Hieroglyphs"),
  ("Mroo", "Mro"), ("Tnsa", "Tangsa"), ("Bass", "Bassa_Vah"), ("Hmng", "Pahawh_Hmong"),
  ("Medf", "Medefaidrin"), ("Plrd", "Miao"), ("Tang", "Tangut"), ("Nshu", "Nushu"),
  ("Kits", "Khitan_Small_Script"), ("Dupl", "Duployan"), ("Sgnw", "SignWriting"),
  ("Hmnp", "Nyiakeng_Puachue_Hmong"), ("Toto", "Toto"), ("Wcho", "Wancho"),
  ("Nagm", "Nag_Mundari"), ("Mend", "Mende_Kikakui"), ("Adlm", "Adlam"), ("Gara", "Garay"),
  ("Gukh", "Gurung_Khema"), ("Krai", "Kirat_Rai"), ("Onao", "Ol_Onal"), ("Sunu", "Sunuwar"),
  ("Todr", "Todhri"), ("Tutg", "Tulu_Tigalari")]

def scriptRuns : Array Run := Run.table scripts

def extensionRuns : Array Run := Run.table extensions

/-- The letters of a script begin at a multiple of four in a list of scripts. -/
def listsScript (code : List Char) : List Char → Bool
  | a :: b :: c :: d :: rest => code == [a, b, c, d] || listsScript code rest
  | _ => false

/-- The characters that belong to a script. -/
def scriptSet (edition : Edition) (code : String) : CharSet :=
  (CharSet.ofRuns scriptRuns (· == code)).intersection edition.assigned

/-- The characters that a script uses. -/
def scriptExtensionSet (edition : Edition) (code : String) : CharSet :=
  let listed := CharSet.ofRuns extensionRuns (· != "-")
  let listing := CharSet.ofRuns extensionRuns fun codes =>
    listsScript code.toList codes.toList
  ((scriptSet edition code).difference listed).union (listing.intersection edition.assigned)

end DocQuery.Text
