import DocReview.Text.Table
/-!
# Compatibility — one spelling per name

Two names are the same when their compatibility forms are: every character is replaced by its compatibility
decomposition, marks are put into canonical order, and what can be composed is composed again.  The tables hold the
characters that can stand in a name.
-/
namespace DocReview.Text

/-- Runs of characters with a one-character decomposition: first, last, image of the first. -/
def singleDecompositions : List Nat := hexRows
  [0x1000aa000aa00061000b5000b5003bc000ba000ba0006f0017f0017f00073002b0002b000068002b1002b100266002b2002b20006a,
  0x1002b3002b300072002b4002b400279002b5002b50027b002b6002b600281002b7002b700077002b8002b800079002e0002e000263,
  0x1002e1002e10006c002e2002e200073002e3002e300078002e4002e4002950034000341003000034300343003130037400374002b9,
  0x10038700387000b7003d0003d0003b2003d1003d1003b8003d2003d2003a5003d5003d5003c6003d6003d6003c0003f0003f0003ba,
  0x1003f1003f2003c1003f4003f400398003f5003f5003b5003f9003f9003a3010fc010fc010dc01d2c01d2c0004101d2d01d2d000c6,
  0x101d2e01d2e0004201d3001d310004401d3201d320018e01d3301d3a0004701d3c01d3c0004f01d3d01d3d0022201d3e01d3e00050,
  0x101d3f01d3f0005201d4001d410005401d4201d420005701d4301d430006101d4401d450025001d4601d4601d0201d4701d4700062,
  0x101d4801d490006401d4a01d4a0025901d4b01d4c0025b01d4d01d4d0006701d4f01d4f0006b01d5001d500006d01d5101d510014b,
  0x101d5201d520006f01d5301d530025401d5401d5501d1601d5601d560007001d5701d580007401d5901d5901d1d01d5a01d5a0026f,
  0x101d5b01d5b0007601d5c01d5c01d2501d5d01d5f003b201d6001d61003c601d6201d620006901d6301d630007201d6401d6500075,
  0x101d6601d67003b201d6801d68003c101d6901d6a003c601d7801d780043d01d9b01d9b0025201d9c01d9c0006301d9d01d9d00255,
  0x101d9e01d9e000f001d9f01d9f0025c01da001da00006601da101da10025f01da201da20026101da301da30026501da401da600268,
  0x101da701da701d7b01da801da80029d01da901da90026d01daa01daa01d8501dab01dab0029f01dac01dac0027101dad01dad00270,
  0x101dae01db10027201db201db20027801db301db40028201db501db5001ab01db601db70028901db801db801d1c01db901dba0028b,
  0x101dbb01dbb0007a01dbc01dbe0029001dbf01dbf003b801fbe01fbe003b90207102071000690207f0207f0006e020900209000061,
  0x102091020910006502092020920006f02093020930007802094020940025902095020950006802096020990006b0209a0209a00070,
  0x10209b0209c000730210202102000430210702107001900210a0210a000670210b0210b000480210c0210c000480210d0210d00048,
  0x10210e0210e000680210f0210f0012702110021100004902111021110004902112021120004c02113021130006c02115021150004e,
  0x1021190211b000500211c0211c000520211d0211d0005202124021240005a0212602126003a902128021280005a0212a0212a0004b,
  0x10212c0212d000420212f0212f0006502130021310004502133021330004d02134021340006f0213502138005d0021390213900069,
  0x10213c0213c003c00213d0213d003b30213e0213e003930213f0213f003a0021450214500044021460214700064021480214900069,
  0x10216002160000490216402164000560216902169000580216c0216c0004c0216d0216e000430216f0216f0004d021700217000069,
  0x10217402174000760217902179000780217c0217c0006c0217d0217e000630217f0217f0006d02c7c02c7c0006a02c7d02c7d00056,
  0x102d6f02d6f02d61030380303805341030390303a053440313103132011000313303133011aa0313403134011020313503136011ac,
  0x10313703139011030313a0313f011b003140031400111a031410314301106031440314401121031450314e011090314f0316301161,
  0x10316403164011600316503166011140316703168011c70316903169011cc0316a0316a011ce0316b0316b011d30316c0316c011d7,
  0x10316d0316d011d90316e0316e0111c0316f0316f011dd0317003170011df03171031720111d031730317301120031740317501122,
  0x1031760317601127031770317701129031780317c0112b0317d0317d011320317e0317e011360317f0317f01140031800318001147,
  0x103181031810114c0318203183011f10318403186011570318703188011840318903189011880318a0318b011910318c0318c01194,
  0x10318d0318d0119e0318e0318e011a10a69c0a69c0044a0a69d0a69d0044c0a7700a7700a76f0a7f20a7f2000430a7f30a7f300046,
  0x10a7f40a7f4000510a7f80a7f8001260a7f90a7f9001530ab5c0ab5c0a7270ab5d0ab5d0ab370ab5e0ab5e0026b0ab5f0ab5f0ab52,
  0x10ab690ab690028d0f9000f90008c480f9010f901066f40f9020f90208eca0f9030f90308cc80f9040f90406ed10f9050f90504e32,
  0x10f9060f906053e50f9070f90709f9c0f9080f90809f9c0f9090f909059510f90a0f90a091d10f90b0f90b055870f90c0f90c05948,
  0x10f90d0f90d061f60f90e0f90e076690f90f0f90f07f850f9100f9100863f0f9110f911087ba0f9120f912088f80f9130f9130908f,
  0x10f9140f91406a020f9150f91506d1b0f9160f916070d90f9170f917073de0f9180f9180843d0f9190f9190916a0f91a0f91a099f1,
  0x10f91b0f91b04e820f91c0f91c053750f91d0f91d06b040f91e0f91e0721b0f91f0f91f0862d0f9200f92009e1e0f9210f92105d50,
  0x10f9220f92206feb0f9230f923085cd0f9240f924089640f9250f925062c90f9260f926081d80f9270f9270881f0f9280f92805eca,
  0x10f9290f929067170f92a0f92a06d6a0f92b0f92b072fc0f92c0f92c090ce0f92d0f92d04f860f92e0f92e051b70f92f0f92f052de,
  0x10f9300f930064c40f9310f93106ad30f9320f932072100f9330f933076e70f9340f934080010f9350f935086060f9360f9360865c,
  0x10f9370f93708def0f9380f938097320f9390f93909b6f0f93a0f93a09dfa0f93b0f93b0788c0f93c0f93c0797f0f93d0f93d07da0,
  0x10f93e0f93e083c90f93f0f93f093040f9400f94009e7f0f9410f94108ad60f9420f942058df0f9430f94305f040f9440f94407c60,
  0x10f9450f9450807e0f9460f946072620f9470f947078ca0f9480f94808cc20f9490f949096f70f94a0f94a058d80f94b0f94b05c62,
  0x10f94c0f94c06a130f94d0f94d06dda0f94e0f94e06f0f0f94f0f94f07d2f0f9500f95007e370f9510f9510964b0f9520f952052d2,
  0x10f9530f9530808b0f9540f954051dc0f9550f955051cc0f9560f95607a1c0f9570f95707dbe0f9580f958083f10f9590f95909675,
  0x10f95a0f95a08b800f95b0f95b062cf0f95c0f95c06a020f95d0f95d08afe0f95e0f95e04e390f95f0f95f05be70f9600f96006012,
  0x10f9610f961073870f9620f962075700f9630f963053170f9640f964078fb0f9650f96504fbf0f9660f96605fa90f9670f96704e0d,
  0x10f9680f96806ccc0f9690f969065780f96a0f96a07d220f96b0f96b053c30f96c0f96c0585e0f96d0f96d077010f96e0f96e08449,
  0x10f96f0f96f08aaa0f9700f97006bba0f9710f97108fb00f9720f97206c880f9730f973062fe0f9740f974082e50f9750f975063a0,
  0x10f9760f976075650f9770f97704eae0f9780f978051690f9790f979051c90f97a0f97a068810f97b0f97b07ce70f97c0f97c0826f,
  0x10f97d0f97d08ad20f97e0f97e091cf0f97f0f97f052f50f9800f980054420f9810f981059730f9820f98205eec0f9830f983065c5,
  0x10f9840f98406ffe0f9850f9850792a0f9860f986095ad0f9870f98709a6a0f9880f98809e970f9890f98909ece0f98a0f98a0529b,
  0x10f98b0f98b066c60f98c0f98c06b770f98d0f98d08f620f98e0f98e05e740f98f0f98f061900f9900f990062000f9910f9910649a,
  0x10f9920f99206f230f9930f993071490f9940f994074890f9950f995079ca0f9960f99607df40f9970f9970806f0f9980f99808f26,
  0x10f9990f999084ee0f99a0f99a090230f99b0f99b0934a0f99c0f99c052170f99d0f99d052a30f99e0f99e054bd0f99f0f99f070c8,
  0x10f9a00f9a0088c20f9a10f9a108aaa0f9a20f9a205ec90f9a30f9a305ff50f9a40f9a40637b0f9a50f9a506bae0f9a60f9a607c3e,
  0x10f9a70f9a7073750f9a80f9a804ee40f9a90f9a9056f90f9aa0f9aa05be70f9ab0f9ab05dba0f9ac0f9ac0601c0f9ad0f9ad073b2,
  0x10f9ae0f9ae074690f9af0f9af07f9a0f9b00f9b0080460f9b10f9b1092340f9b20f9b2096f60f9b30f9b3097480f9b40f9b409818,
  0x10f9b50f9b504f8b0f9b60f9b6079ae0f9b70f9b7091b40f9b80f9b8096b80f9b90f9b9060e10f9ba0f9ba04e860f9bb0f9bb050da,
  0x10f9bc0f9bc05bee0f9bd0f9bd05c3f0f9be0f9be065990f9bf0f9bf06a020f9c00f9c0071ce0f9c10f9c1076420f9c20f9c2084fc,
  0x10f9c30f9c30907c0f9c40f9c409f8d0f9c50f9c5066880f9c60f9c60962e0f9c70f9c7052890f9c80f9c80677b0f9c90f9c9067f3,
  0x10f9ca0f9ca06d410f9cb0f9cb06e9c0f9cc0f9cc074090f9cd0f9cd075590f9ce0f9ce0786b0f9cf0f9cf07d100f9d00f9d00985e,
  0x10f9d10f9d10516d0f9d20f9d20622e0f9d30f9d3096780f9d40f9d40502b0f9d50f9d505d190f9d60f9d606dea0f9d70f9d708f2a,
  0x10f9d80f9d805f8b0f9d90f9d9061440f9da0f9da068170f9db0f9db073870f9dc0f9dc096860f9dd0f9dd052290f9de0f9de0540f,
  0x10f9df0f9df05c650f9e00f9e0066130f9e10f9e10674e0f9e20f9e2068a80f9e30f9e306ce50f9e40f9e4074060f9e50f9e5075e2,
  0x10f9e60f9e607f790f9e70f9e7088cf0f9e80f9e8088e10f9e90f9e9091cc0f9ea0f9ea096e20f9eb0f9eb0533f0f9ec0f9ec06eba,
  0x10f9ed0f9ed0541d0f9ee0f9ee071d00f9ef0f9ef074980f9f00f9f0085fa0f9f10f9f1096a30f9f20f9f209c570f9f30f9f309e9f,
  0x10f9f40f9f4067970f9f50f9f506dcb0f9f60f9f6081e80f9f70f9f707acb0f9f80f9f807b200f9f90f9f907c920f9fa0f9fa072c0,
  0x10f9fb0f9fb070990f9fc0f9fc08b580f9fd0f9fd04ec00f9fe0f9fe083360f9ff0f9ff0523a0fa000fa00052070fa010fa0105ea6,
  0x10fa020fa02062d30fa030fa0307cd60fa040fa0405b850fa050fa0506d1e0fa060fa06066b40fa070fa0708f3b0fa080fa080884c,
  0x10fa090fa090964d0fa0a0fa0a0898b0fa0b0fa0b05ed30fa0c0fa0c051400fa0d0fa0d055c00fa100fa100585a0fa120fa1206674,
  0x10fa150fa15051de0fa160fa160732a0fa170fa17076ca0fa180fa180793c0fa190fa190795e0fa1a0fa1a079650fa1b0fa1b0798f,
  0x10fa1c0fa1c097560fa1d0fa1d07cbe0fa1e0fa1e07fbd0fa200fa20086120fa220fa2208af80fa250fa25090380fa260fa26090fd,
  0x10fa2a0fa2a098ef0fa2b0fa2b098fc0fa2c0fa2c099280fa2d0fa2d09db40fa2e0fa2e090de0fa2f0fa2f096b70fa300fa3004fae,
  0x10fa310fa31050e70fa320fa320514d0fa330fa33052c90fa340fa34052e40fa350fa35053510fa360fa360559d0fa370fa3705606,
  0x10fa380fa38056680fa390fa39058400fa3a0fa3a058a80fa3b0fa3b05c640fa3c0fa3c05c6e0fa3d0fa3d060940fa3e0fa3e06168,
  0x10fa3f0fa3f0618e0fa400fa40061f20fa410fa410654f0fa420fa42065e20fa430fa43066910fa440fa44068850fa450fa4506d77,
  0x10fa460fa4606e1a0fa470fa4706f220fa480fa480716e0fa490fa490722b0fa4a0fa4a074220fa4b0fa4b078910fa4c0fa4c0793e,
  0x10fa4d0fa4d079490fa4e0fa4e079480fa4f0fa4f079500fa500fa50079560fa510fa510795d0fa520fa530798d0fa540fa5407a40,
  0x10fa550fa5507a810fa560fa5607bc00fa570fa5707df40fa580fa5807e090fa590fa5907e410fa5a0fa5a07f720fa5b0fa5b08005,
  0x10fa5c0fa5c081ed0fa5d0fa5d082790fa5e0fa5e082790fa5f0fa5f084570fa600fa60089100fa610fa61089960fa620fa6208b01,
  0x10fa630fa6308b390fa640fa6408cd30fa650fa6508d080fa660fa6608fb60fa670fa67090380fa680fa68096e30fa690fa69097ff,
  0x10fa6a0fa6a0983b0fa6b0fa6b060750fa6c0fa6c242ee0fa6d0fa6d082180fa700fa7004e260fa710fa71051b50fa720fa7205168,
  0x10fa730fa7304f800fa740fa74051450fa750fa75051800fa760fa76052c70fa770fa77052fa0fa780fa780559d0fa790fa7905555,
  0x10fa7a0fa7a055990fa7b0fa7b055e20fa7c0fa7c0585a0fa7d0fa7d058b30fa7e0fa7e059440fa7f0fa7f059540fa800fa8005a62,
  0x10fa810fa8105b280fa820fa8205ed20fa830fa8305ed90fa840fa8405f690fa850fa8505fad0fa860fa86060d80fa870fa870614e,
  0x10fa880fa88061080fa890fa890618e0fa8a0fa8a061600fa8b0fa8b061f20fa8c0fa8c062340fa8d0fa8d063c40fa8e0fa8e0641c,
  0x10fa8f0fa8f064520fa900fa90065560fa910fa91066740fa920fa92067170fa930fa930671b0fa940fa94067560fa950fa9506b79,
  0x10fa960fa9606bba0fa970fa9706d410fa980fa9806edb0fa990fa9906ecb0fa9a0fa9a06f220fa9b0fa9b0701e0fa9c0fa9c0716e,
  0x10fa9d0fa9d077a70fa9e0fa9e072350fa9f0fa9f072af0faa00faa00732a0faa10faa1074710faa20faa2075060faa30faa30753b,
  0x10faa40faa40761d0faa50faa50761f0faa60faa6076ca0faa70faa7076db0faa80faa8076f40faa90faa90774a0faaa0faaa07740,
  0x10faab0faab078cc0faac0faac07ab10faad0faad07bc00faae0faae07c7b0faaf0faaf07d5b0fab00fab007df40fab10fab107f3e,
  0x10fab20fab2080050fab30fab3083520fab40fab4083ef0fab50fab5087790fab60fab6089410fab70fab7089860fab80fab808996,
  0x10fab90fab908abf0faba0faba08af80fabb0fabb08acb0fabc0fabc08b010fabd0fabd08afe0fabe0fabe08aed0fabf0fabf08b39,
  0x10fac00fac008b8a0fac10fac108d080fac20fac208f380fac30fac3090720fac40fac4091990fac50fac5092760fac60fac60967c,
  0x10fac70fac7096e30fac80fac8097560fac90fac9097db0faca0faca097ff0facb0facb0980b0facc0facc0983b0facd0facd09b12,
  0x10face0face09f9c0facf0facf2284a0fad00fad0228440fad10fad1233d50fad20fad203b9d0fad30fad3040180fad40fad404039,
  0x10fad50fad5252490fad60fad625cd00fad70fad727ed30fad80fad809f430fad90fad909f8e0fb200fb20005e20fb210fb21005d0,
  0x10fb220fb23005d30fb240fb26005db0fb270fb27005e80fb280fb28005ea0fb500fb50006710fb510fb51006710fb520fb520067b,
  0x10fb530fb530067b0fb540fb540067b0fb550fb550067b0fb560fb560067e0fb570fb570067e0fb580fb580067e0fb590fb590067e,
  0x10fb5a0fb5a006800fb5b0fb5b006800fb5c0fb5c006800fb5d0fb5d006800fb5e0fb5e0067a0fb5f0fb5f0067a0fb600fb600067a,
  0x10fb610fb610067a0fb620fb620067f0fb630fb630067f0fb640fb640067f0fb650fb650067f0fb660fb66006790fb670fb6700679,
  0x10fb680fb68006790fb690fb69006790fb6a0fb6a006a40fb6b0fb6b006a40fb6c0fb6c006a40fb6d0fb6d006a40fb6e0fb6e006a6,
  0x10fb6f0fb6f006a60fb700fb70006a60fb710fb71006a60fb720fb72006840fb730fb73006840fb740fb74006840fb750fb7500684,
  0x10fb760fb76006830fb770fb77006830fb780fb78006830fb790fb79006830fb7a0fb7a006860fb7b0fb7b006860fb7c0fb7c00686,
  0x10fb7d0fb7e006860fb7f0fb7f006870fb800fb80006870fb810fb81006870fb820fb820068d0fb830fb830068d0fb840fb840068c,
  0x10fb850fb850068c0fb860fb860068e0fb870fb870068e0fb880fb88006880fb890fb89006880fb8a0fb8a006980fb8b0fb8b00698,
  0x10fb8c0fb8c006910fb8d0fb8d006910fb8e0fb8e006a90fb8f0fb8f006a90fb900fb90006a90fb910fb91006a90fb920fb92006af,
  0x10fb930fb93006af0fb940fb94006af0fb950fb95006af0fb960fb96006b30fb970fb97006b30fb980fb98006b30fb990fb99006b3,
  0x10fb9a0fb9a006b10fb9b0fb9b006b10fb9c0fb9c006b10fb9d0fb9d006b10fb9e0fb9e006ba0fb9f0fba0006ba0fba10fba1006bb,
  0x10fba20fba2006bb0fba30fba3006bb0fba60fba6006c10fba70fba7006c10fba80fba8006c10fba90fba9006c10fbaa0fbaa006be,
  0x10fbab0fbab006be0fbac0fbac006be0fbad0fbad006be0fbae0fbae006d20fbaf0fbaf006d20fbd30fbd3006ad0fbd40fbd4006ad,
  0x10fbd50fbd5006ad0fbd60fbd6006ad0fbd70fbd7006c70fbd80fbd8006c70fbd90fbd9006c60fbda0fbda006c60fbdb0fbdb006c8,
  0x10fbdc0fbdc006c80fbde0fbde006cb0fbdf0fbdf006cb0fbe00fbe0006c50fbe10fbe1006c50fbe20fbe2006c90fbe30fbe3006c9,
  0x10fbe40fbe4006d00fbe50fbe5006d00fbe60fbe6006d00fbe70fbe7006d00fbe80fbe8006490fbe90fbe9006490fbfc0fbfc006cc,
  0x10fbfd0fbfd006cc0fbfe0fbfe006cc0fbff0fbff006cc0fe330fe330005f0fe340fe340005f0fe4d0fe4d0005f0fe4e0fe4e0005f,
  0x10fe4f0fe4f0005f0fe800fe80006210fe8d0fe8d006270fe8e0fe8f006270fe900fe90006280fe910fe91006280fe920fe9300628,
  0x10fe940fe95006290fe960fe960062a0fe970fe970062a0fe980fe990062a0fe9a0fe9a0062b0fe9b0fe9b0062b0fe9c0fe9d0062b,
  0x10fe9e0fe9e0062c0fe9f0fe9f0062c0fea00fea10062c0fea20fea20062d0fea30fea30062d0fea40fea50062d0fea60fea60062e,
  0x10fea70fea70062e0fea80fea90062e0feaa0feab0062f0feac0fead006300feae0feaf006310feb00feb1006320feb20feb200633,
  0x10feb30feb3006330feb40feb5006330feb60feb6006340feb70feb7006340feb80feb9006340feba0feba006350febb0febb00635,
  0x10febc0febd006350febe0febe006360febf0febf006360fec00fec1006360fec20fec2006370fec30fec3006370fec40fec500637,
  0x10fec60fec6006380fec70fec7006380fec80fec9006380feca0feca006390fecb0fecb006390fecc0fecd006390fece0fece0063a,
  0x10fecf0fecf0063a0fed00fed00063a0fed10fed1006410fed20fed2006410fed30fed3006410fed40fed5006410fed60fed600642,
  0x10fed70fed7006420fed80fed9006420feda0feda006430fedb0fedb006430fedc0fedd006430fede0fede006440fedf0fedf00644,
  0x10fee00fee1006440fee20fee2006450fee30fee3006450fee40fee5006450fee60fee6006460fee70fee7006460fee80fee900646,
  0x10feea0feea006470feeb0feeb006470feec0feed006470feee0feef006480fef00fef1006490fef20fef20064a0fef30fef30064a,
  0x10fef40fef40064a0ff100ff19000300ff210ff3a000410ff3f0ff3f0005f0ff410ff5a000610ff660ff66030f20ff670ff67030a1,
  0x10ff680ff68030a30ff690ff69030a50ff6a0ff6a030a70ff6b0ff6b030a90ff6c0ff6c030e30ff6d0ff6d030e50ff6e0ff6e030e7,
  0x10ff6f0ff6f030c30ff700ff70030fc0ff710ff71030a20ff720ff72030a40ff730ff73030a60ff740ff74030a80ff750ff76030aa,
  0x10ff770ff77030ad0ff780ff78030af0ff790ff79030b10ff7a0ff7a030b30ff7b0ff7b030b50ff7c0ff7c030b70ff7d0ff7d030b9,
  0x10ff7e0ff7e030bb0ff7f0ff7f030bd0ff800ff80030bf0ff810ff81030c10ff820ff82030c40ff830ff83030c60ff840ff84030c8,
  0x10ff850ff8a030ca0ff8b0ff8b030d20ff8c0ff8c030d50ff8d0ff8d030d80ff8e0ff8e030db0ff8f0ff93030de0ff940ff94030e4,
  0x10ff950ff95030e60ff960ff9b030e80ff9c0ff9c030ef0ff9d0ff9d030f30ff9e0ff9f030990ffa00ffa0011600ffa10ffa201100,
  0x10ffa30ffa3011aa0ffa40ffa4011020ffa50ffa6011ac0ffa70ffa9011030ffaa0ffaf011b00ffb00ffb00111a0ffb10ffb301106,
  0x10ffb40ffb4011210ffb50ffbe011090ffc20ffc7011610ffca0ffcf011670ffd20ffd70116d0ffda0ffdc011731078110782002d0,
  0x11078310783000e61078410784002991078510785002531078710787002a310788107880ab661078910789002a51078a1078a002a4,
  0x11078b1078c002561078d1078d01d911078e1078e002581078f1078f0025e1079010790002a9107911079100264107921079200262,
  0x110793107930026010794107940029b10795107950012710796107960029c107971079700267107981079800284107991079a002aa,
  0x11079b1079b0026c1079c1079c1df041079d1079d0a78e1079e1079e0026e1079f1079f1df05107a0107a00028e107a1107a11df06,
  0x1107a2107a2000f8107a3107a400276107a5107a500071107a6107a60027a107a7107a71df08107a8107a90027d107aa107aa00280,
  0x1107ab107ab002a8107ac107ac002a6107ad107ad0ab67107ae107ae002a7107af107af00288107b0107b002c71107b2107b20028f,
  0x1107b3107b4002a1107b5107b500298107b6107b8001c0107b9107b91df0a107ba107ba1df1e1d4001d419000411d41a1d43300061,
  0x11d4341d44d000411d44e1d454000611d4561d467000691d4681d481000411d4821d49b000611d49c1d49c000411d49e1d49f00043,
  0x11d4a21d4a2000471d4a51d4a60004a1d4a91d4ac0004e1d4ae1d4b5000531d4b61d4b9000611d4bb1d4bb000661d4bd1d4c300068,
  0x11d4c51d4cf000701d4d01d4e9000411d4ea1d503000611d5041d505000411d5071d50a000441d50d1d5140004a1d5161d51c00053,
  0x11d51e1d537000611d5381d539000411d53b1d53e000441d5401d544000491d5461d5460004f1d54a1d550000531d5521d56b00061,
  0x11d56c1d585000411d5861d59f000611d5a01d5b9000411d5ba1d5d3000611d5d41d5ed000411d5ee1d607000611d6081d62100041,
  0x11d6221d63b000611d63c1d655000411d6561d66f000611d6701d689000411d68a1d6a3000611d6a41d6a4001311d6a51d6a500237,
  0x11d6a81d6b8003911d6b91d6b9003981d6ba1d6c0003a31d6c21d6da003b11d6dc1d6dc003b51d6dd1d6dd003b81d6de1d6de003ba,
  0x11d6df1d6df003c61d6e01d6e0003c11d6e11d6e1003c01d6e21d6f2003911d6f31d6f3003981d6f41d6fa003a31d6fc1d714003b1,
  0x11d7161d716003b51d7171d717003b81d7181d718003ba1d7191d719003c61d71a1d71a003c11d71b1d71b003c01d71c1d72c00391,
  0x11d72d1d72d003981d72e1d734003a31d7361d74e003b11d7501d750003b51d7511d751003b81d7521d752003ba1d7531d753003c6,
  0x11d7541d754003c11d7551d755003c01d7561d766003911d7671d767003981d7681d76e003a31d7701d788003b11d78a1d78a003b5,
  0x11d78b1d78b003b81d78c1d78c003ba1d78d1d78d003c61d78e1d78e003c11d78f1d78f003c01d7901d7a0003911d7a11d7a100398,
  0x11d7a21d7a8003a31d7aa1d7c2003b11d7c41d7c4003b51d7c51d7c5003b81d7c61d7c6003ba1d7c71d7c7003c61d7c81d7c8003c1,
  0x11d7c91d7c9003c01d7ca1d7cb003dc1d7ce1d7d7000301d7d81d7e1000301d7e21d7eb000301d7ec1d7f5000301d7f61d7ff00030,
  0x11ee001ee01006271ee021ee020062c1ee031ee030062f1ee051ee05006481ee061ee06006321ee071ee070062d1ee081ee0800637,
  0x11ee091ee090064a1ee0a1ee0d006431ee0e1ee0e006331ee0f1ee0f006391ee101ee10006411ee111ee11006351ee121ee1200642,
  0x11ee131ee13006311ee141ee14006341ee151ee160062a1ee171ee170062e1ee181ee18006301ee191ee19006361ee1a1ee1a00638,
  0x11ee1b1ee1b0063a1ee1c1ee1c0066e1ee1d1ee1d006ba1ee1e1ee1e006a11ee1f1ee1f0066f1ee211ee21006281ee221ee220062c,
  0x11ee241ee24006471ee271ee270062d1ee291ee290064a1ee2a1ee2d006431ee2e1ee2e006331ee2f1ee2f006391ee301ee3000641,
  0x11ee311ee31006351ee321ee32006421ee341ee34006341ee351ee360062a1ee371ee370062e1ee391ee39006361ee3b1ee3b0063a,
  0x11ee421ee420062c1ee471ee470062d1ee491ee490064a1ee4b1ee4b006441ee4d1ee4d006461ee4e1ee4e006331ee4f1ee4f00639,
  0x11ee511ee51006351ee521ee52006421ee541ee54006341ee571ee570062e1ee591ee59006361ee5b1ee5b0063a1ee5d1ee5d006ba,
  0x11ee5f1ee5f0066f1ee611ee61006281ee621ee620062c1ee641ee64006471ee671ee670062d1ee681ee68006371ee691ee690064a,
  0x11ee6a1ee6a006431ee6c1ee6d006451ee6e1ee6e006331ee6f1ee6f006391ee701ee70006411ee711ee71006351ee721ee7200642,
  0x11ee741ee74006341ee751ee760062a1ee771ee770062e1ee791ee79006361ee7a1ee7a006381ee7b1ee7b0063a1ee7c1ee7c0066e,
  0x11ee7e1ee7e006a11ee801ee81006271ee821ee820062c1ee831ee830062f1ee841ee85006471ee861ee86006321ee871ee870062d,
  0x11ee881ee88006371ee891ee890064a1ee8b1ee8d006441ee8e1ee8e006331ee8f1ee8f006391ee901ee90006411ee911ee9100635,
  0x11ee921ee92006421ee931ee93006311ee941ee94006341ee951ee960062a1ee971ee970062e1ee981ee98006301ee991ee9900636,
  0x11ee9a1ee9a006381ee9b1ee9b0063a1eea11eea1006281eea21eea20062c1eea31eea30062f1eea51eea5006481eea61eea600632,
  0x11eea71eea70062d1eea81eea8006371eea91eea90064a1eeab1eead006441eeae1eeae006331eeaf1eeaf006391eeb01eeb000641,
  0x11eeb11eeb1006351eeb21eeb2006421eeb31eeb3006311eeb41eeb4006341eeb51eeb60062a1eeb71eeb70062e1eeb81eeb800630,
  0x11eeb91eeb9006361eeba1eeba006381eebb1eebb0063a1fbf01fbf9000302f8002f80004e3d2f8012f80104e382f8022f80204e41,
  0x12f8032f803201222f8042f80404f602f8052f80504fae2f8062f80604fbb2f8072f807050022f8082f8080507a2f8092f80905099,
  0x12f80a2f80a050e72f80b2f80b050cf2f80c2f80c0349e2f80d2f80d2063a2f80e2f80e0514d2f80f2f80f051542f8102f81005164,
  0x12f8112f811051772f8122f8122051c2f8132f813034b92f8142f814051672f8152f8150518d2f8162f8162054b2f8172f81705197,
  0x12f8182f818051a42f8192f81904ecc2f81a2f81a051ac2f81b2f81b051b52f81c2f81c291df2f81d2f81d051f52f81e2f81e05203,
  0x12f81f2f81f034df2f8202f8200523b2f8212f821052462f8222f822052722f8232f823052772f8242f824035152f8252f825052c7,
  0x12f8262f826052c92f8272f827052e42f8282f828052fa2f8292f82a053052f82b2f82b053172f82c2f82c053492f82d2f82d05351,
  0x12f82e2f82e0535a2f82f2f82f053732f8302f8300537d2f8312f8310537f2f8322f8320537f2f8332f8330537f2f8342f83420a2c,
  0x12f8352f835070702f8362f836053ca2f8372f837053df2f8382f83820b632f8392f839053eb2f83a2f83a053f12f83b2f83b05406,
  0x12f83c2f83c0549e2f83d2f83d054382f83e2f83e054482f83f2f83f054682f8402f840054a22f8412f841054f62f8422f84205510,
  0x12f8432f843055532f8442f844055632f8452f845055842f8462f846055842f8472f847055992f8482f848055ab2f8492f849055b3,
  0x12f84a2f84a055c22f84b2f84b057162f84c2f84c056062f84d2f84d057172f84e2f84e056512f84f2f84f056742f8502f85005207,
  0x12f8512f851058ee2f8522f852057ce2f8532f853057f42f8542f8540580d2f8552f8550578b2f8562f856058322f8572f85705831,
  0x12f8582f858058ac2f8592f859214e42f85a2f85a058f22f85b2f85b058f72f85c2f85c059062f85d2f85d0591a2f85e2f85e05922,
  0x12f85f2f85f059622f8602f860216a82f8612f861216ea2f8622f862059ec2f8632f86305a1b2f8642f86405a272f8652f865059d8,
  0x12f8662f86605a662f8672f867036ee2f8682f868036fc2f8692f86905b082f86a2f86a05b3e2f86b2f86b05b3e2f86c2f86c219c8,
  0x12f86d2f86d05bc32f86e2f86e05bd82f86f2f86f05be72f8702f87005bf32f8712f87121b182f8722f87205bff2f8732f87305c06,
  0x12f8742f87405f532f8752f87505c222f8762f876037812f8772f87705c602f8782f87805c6e2f8792f87905cc02f87a2f87a05c8d,
  0x12f87b2f87b21de42f87c2f87c05d432f87d2f87d21de62f87e2f87e05d6e2f87f2f87f05d6b2f8802f88005d7c2f8812f88205de1,
  0x12f8832f8830382f2f8842f88405dfd2f8852f88505e282f8862f88605e3d2f8872f88705e692f8882f888038622f8892f88922183,
  0x12f88a2f88a0387c2f88b2f88b05eb02f88c2f88c05eb32f88d2f88d05eb62f88e2f88e05eca2f88f2f88f2a3922f8902f89005efe,
  0x12f8912f891223312f8922f892223312f8932f893082012f8942f89405f222f8952f89505f222f8962f896038c72f8972f897232b8,
  0x12f8982f898261da2f8992f89905f622f89a2f89a05f6b2f89b2f89b038e32f89c2f89c05f9a2f89d2f89d05fcd2f89e2f89e05fd7,
  0x12f89f2f89f05ff92f8a02f8a0060812f8a12f8a10393a2f8a22f8a20391c2f8a32f8a3060942f8a42f8a4226d42f8a52f8a5060c7,
  0x12f8a62f8a6061482f8a72f8a70614c2f8a82f8a80614e2f8a92f8a90614c2f8aa2f8aa0617a2f8ab2f8ab0618e2f8ac2f8ac061b2,
  0x12f8ad2f8ad061a42f8ae2f8ae061af2f8af2f8af061de2f8b02f8b0061f22f8b12f8b1061f62f8b22f8b2062102f8b32f8b30621b,
  0x12f8b42f8b40625d2f8b52f8b5062b12f8b62f8b6062d42f8b72f8b7063502f8b82f8b822b0c2f8b92f8b90633d2f8ba2f8ba062fc,
  0x12f8bb2f8bb063682f8bc2f8bc063832f8bd2f8bd063e42f8be2f8be22bf12f8bf2f8bf064222f8c02f8c0063c52f8c12f8c1063a9,
  0x12f8c22f8c203a2e2f8c32f8c3064692f8c42f8c40647e2f8c52f8c50649d2f8c62f8c6064772f8c72f8c703a6c2f8c82f8c80654f,
  0x12f8c92f8c90656c2f8ca2f8ca2300a2f8cb2f8cb065e32f8cc2f8cc066f82f8cd2f8cd066492f8ce2f8ce03b192f8cf2f8cf06691,
  0x12f8d02f8d003b082f8d12f8d103ae42f8d22f8d2051922f8d32f8d3051952f8d42f8d4067002f8d52f8d50669c2f8d62f8d6080ad,
  0x12f8d72f8d7043d92f8d82f8d8067172f8d92f8d90671b2f8da2f8da067212f8db2f8db0675e2f8dc2f8dc067532f8dd2f8dd233c3,
  0x12f8de2f8de03b492f8df2f8df067fa2f8e02f8e0067852f8e12f8e1068522f8e22f8e2068852f8e32f8e32346d2f8e42f8e40688e,
  0x12f8e52f8e50681f2f8e62f8e6069142f8e72f8e703b9d2f8e82f8e8069422f8e92f8e9069a32f8ea2f8ea069ea2f8eb2f8eb06aa8,
  0x12f8ec2f8ec236a32f8ed2f8ed06adb2f8ee2f8ee03c182f8ef2f8ef06b212f8f02f8f0238a72f8f12f8f106b542f8f22f8f203c4e,
  0x12f8f32f8f306b722f8f42f8f406b9f2f8f52f8f606bba2f8f72f8f723a8d2f8f82f8f821d0b2f8f92f8f923afa2f8fa2f8fa06c4e,
  0x12f8fb2f8fb23cbc2f8fc2f8fc06cbf2f8fd2f8fd06ccd2f8fe2f8fe06c672f8ff2f8ff06d162f9002f90006d3e2f9012f90106d77,
  0x12f9022f90206d412f9032f90306d692f9042f90406d782f9052f90506d852f9062f90623d1e2f9072f90706d342f9082f90806e2f,
  0x12f9092f90906e6e2f90a2f90a03d332f90b2f90b06ecb2f90c2f90c06ec72f90d2f90d23ed12f90e2f90e06df92f90f2f90f06f6e,
  0x12f9102f91023f5e2f9112f91123f8e2f9122f91206fc62f9132f913070392f9142f9140701e2f9152f9150701b2f9162f91603d96,
  0x12f9172f9170704a2f9182f9180707d2f9192f919070772f91a2f91a070ad2f91b2f91b205252f91c2f91c071452f91d2f91d24263,
  0x12f91e2f91e0719c2f91f2f91f243ab2f9202f920072282f9212f921072352f9222f922072502f9232f923246082f9242f92407280,
  0x12f9252f925072952f9262f926247352f9272f927248142f9282f9280737a2f9292f9290738b2f92a2f92a03eac2f92b2f92b073a5,
  0x12f92c2f92c03eb82f92d2f92d03eb82f92e2f92e074472f92f2f92f0745c2f9302f930074712f9312f931074852f9322f932074ca,
  0x12f9332f93303f1b2f9342f934075242f9352f93524c362f9362f9360753e2f9372f93724c922f9382f938075702f9392f9392219f,
  0x12f93a2f93a076102f93b2f93b24fa12f93c2f93c24fb82f93d2f93d250442f93e2f93e03ffc2f93f2f93f040082f9402f940076f4,
  0x12f9412f941250f32f9422f942250f22f9432f943251192f9442f944251332f9452f9460771e2f9472f9470771f2f9482f9480774a,
  0x12f9492f949040392f94a2f94a0778b2f94b2f94b040462f94c2f94c040962f94d2f94d2541d2f94e2f94e0784e2f94f2f94f0788c,
  0x12f9502f950078cc2f9512f951040e32f9522f952256262f9532f953079562f9542f9542569a2f9552f955256c52f9562f9560798f,
  0x12f9572f957079eb2f9582f9580412f2f9592f95907a402f95a2f95a07a4a2f95b2f95b07a4f2f95c2f95c2597c2f95d2f95d25aa7,
  0x12f95e2f95e25aa72f95f2f95f07aee2f9602f960042022f9612f96125bab2f9622f96207bc62f9632f96307bc92f9642f96404227,
  0x12f9652f96525c802f9662f96607cd22f9672f967042a02f9682f96807ce82f9692f96907ce32f96a2f96a07d002f96b2f96b25f86,
  0x12f96c2f96c07d632f96d2f96d043012f96e2f96e07dc72f96f2f96f07e022f9702f97007e452f9712f971043342f9722f97226228,
  0x12f9732f973262472f9742f974043592f9752f975262d92f9762f97607f7a2f9772f9772633e2f9782f97807f952f9792f97907ffa,
  0x12f97a2f97a080052f97b2f97b264da2f97c2f97c265232f97d2f97d080602f97e2f97e265a82f97f2f97f080702f9802f9802335f,
  0x12f9812f981043d52f9822f982080b22f9832f983081032f9842f9840440b2f9852f9850813e2f9862f98605ab52f9872f987267a7,
  0x12f9882f988267b52f9892f989233932f98a2f98a2339c2f98b2f98b082012f98c2f98c082042f98d2f98d08f9e2f98e2f98e0446b,
  0x12f98f2f98f082912f9902f9900828b2f9912f9910829d2f9922f992052b32f9932f993082b12f9942f994082b32f9952f995082bd,
  0x12f9962f996082e62f9972f99726b3c2f9982f998082e52f9992f9990831d2f99a2f99a083632f99b2f99b083ad2f99c2f99c08323,
  0x12f99d2f99d083bd2f99e2f99e083e72f99f2f99f084572f9a02f9a0083532f9a12f9a1083ca2f9a22f9a2083cc2f9a32f9a3083dc,
  0x12f9a42f9a426c362f9a52f9a526d6b2f9a62f9a626cd52f9a72f9a70452b2f9a82f9a8084f12f9a92f9a9084f32f9aa2f9aa08516,
  0x12f9ab2f9ab273ca2f9ac2f9ac085642f9ad2f9ad26f2c2f9ae2f9ae0455d2f9af2f9af045612f9b02f9b026fb12f9b12f9b1270d2,
  0x12f9b22f9b20456b2f9b32f9b3086502f9b42f9b40865c2f9b52f9b5086672f9b62f9b6086692f9b72f9b7086a92f9b82f9b808688,
  0x12f9b92f9b90870e2f9ba2f9ba086e22f9bb2f9bb087792f9bc2f9bc087282f9bd2f9bd0876b2f9be2f9be087862f9bf2f9bf045d7,
  0x12f9c02f9c0087e12f9c12f9c1088012f9c22f9c2045f92f9c32f9c3088602f9c42f9c4088632f9c52f9c5276672f9c62f9c6088d7,
  0x12f9c72f9c7088de2f9c82f9c8046352f9c92f9c9088fa2f9ca2f9ca034bb2f9cb2f9cb278ae2f9cc2f9cc279662f9cd2f9cd046be,
  0x12f9ce2f9ce046c72f9cf2f9cf08aa02f9d02f9d008aed2f9d12f9d108b8a2f9d22f9d208c552f9d32f9d327ca82f9d42f9d408cab,
  0x12f9d52f9d508cc12f9d62f9d608d1b2f9d72f9d708d772f9d82f9d827f2f2f9d92f9d9208042f9da2f9da08dcb2f9db2f9db08dbc,
  0x12f9dc2f9dc08df02f9dd2f9dd208de2f9de2f9de08ed42f9df2f9df08f382f9e02f9e0285d22f9e12f9e1285ed2f9e22f9e209094,
  0x12f9e32f9e3090f12f9e42f9e4091112f9e52f9e52872e2f9e62f9e60911b2f9e72f9e7092382f9e82f9e9092d72f9ea2f9ea0927c,
  0x12f9eb2f9eb093f92f9ec2f9ec094152f9ed2f9ed28bfa2f9ee2f9ee0958b2f9ef2f9ef049952f9f02f9f0095b72f9f12f9f128d77,
  0x12f9f22f9f2049e62f9f32f9f3096c32f9f42f9f405db22f9f52f9f5097232f9f62f9f6291452f9f72f9f72921a2f9f82f9f804a6e,
  0x12f9f92f9f904a762f9fa2f9fa097e02f9fb2f9fb2940a2f9fc2f9fc04ab22f9fd2f9fd294962f9fe2f9fe0980b2f9ff2f9ff0980b,
  0x12fa002fa00098292fa012fa01295b62fa022fa02098e22fa032fa0304b332fa042fa04099292fa052fa05099a72fa062fa06099c2,
  0x12fa072fa07099fe2fa082fa0804bce2fa092fa0929b302fa0a2fa0a09b122fa0b2fa0b09c402fa0c2fa0c09cfd2fa0d2fa0d04cce,
  0x12fa0e2fa0e04ced2fa0f2fa0f09d672fa102fa102a0ce2fa112fa1104cf82fa122fa122a1052fa132fa132a20e2fa142fa142a291,
  0x12fa152fa1509ebb2fa162fa1604d562fa172fa1709ef92fa182fa1809efe2fa192fa1909f052fa1a2fa1a09f0f2fa1b2fa1b09f16,
  0x12fa1c2fa1c09f3b2fa1d2fa1d2a600]

/-- Characters with a longer decomposition: the character, the length, the decomposition. -/
def longDecompositions : List Nat := hexRows
  [0x1000c0000020004100300000c1000020004100301000c2000020004100302000c3000020004100303000c4000020004100308000c5,
  0x100002000410030a000c7000020004300327000c8000020004500300000c9000020004500301000ca000020004500302000cb00002,
  0x10004500308000cc000020004900300000cd000020004900301000ce000020004900302000cf000020004900308000d1000020004e,
  0x100303000d2000020004f00300000d3000020004f00301000d4000020004f00302000d5000020004f00303000d6000020004f00308,
  0x1000d9000020005500300000da000020005500301000db000020005500302000dc000020005500308000dd000020005900301000e0,
  0x1000020006100300000e1000020006100301000e2000020006100302000e3000020006100303000e4000020006100308000e500002,
  0x1000610030a000e7000020006300327000e8000020006500300000e9000020006500301000ea000020006500302000eb0000200065,
  0x100308000ec000020006900300000ed000020006900301000ee000020006900302000ef000020006900308000f1000020006e00303,
  0x1000f2000020006f00300000f3000020006f00301000f4000020006f00302000f5000020006f00303000f6000020006f00308000f9,
  0x1000020007500300000fa000020007500301000fb000020007500302000fc000020007500308000fd000020007900301000ff00002,
  0x1000790030800100000020004100304001010000200061003040010200002000410030600103000020006100306001040000200041,
  0x1003280010500002000610032800106000020004300301001070000200063003010010800002000430030200109000020006300302,
  0x10010a0000200043003070010b0000200063003070010c00002000430030c0010d00002000630030c0010e00002000440030c0010f,
  0x100002000640030c001120000200045003040011300002000650030400114000020004500306001150000200065003060011600002,
  0x100045003070011700002000650030700118000020004500328001190000200065003280011a00002000450030c0011b0000200065,
  0x10030c0011c0000200047003020011d0000200067003020011e0000200047003060011f00002000670030600120000020004700307,
  0x1001210000200067003070012200002000470032700123000020006700327001240000200048003020012500002000680030200128,
  0x1000020004900303001290000200069003030012a0000200049003040012b0000200069003040012c0000200049003060012d00002,
  0x100069003060012e0000200049003280012f000020006900328001300000200049003070013200002000490004a001330000200069,
  0x10006a00134000020004a0030200135000020006a0030200136000020004b0032700137000020006b0032700139000020004c00301,
  0x10013a000020006c003010013b000020004c003270013c000020006c003270013d000020004c0030c0013e000020006c0030c0013f,
  0x1000020004c000b700140000020006c000b700143000020004e0030100144000020006e0030100145000020004e003270014600002,
  0x10006e0032700147000020004e0030c00148000020006e0030c0014900002002bc0006e0014c000020004f003040014d000020006f,
  0x1003040014e000020004f003060014f000020006f0030600150000020004f0030b00151000020006f0030b00154000020005200301,
  0x10015500002000720030100156000020005200327001570000200072003270015800002000520030c0015900002000720030c0015a,
  0x10000200053003010015b0000200073003010015c0000200053003020015d0000200073003020015e0000200053003270015f00002,
  0x100073003270016000002000530030c0016100002000730030c0016200002000540032700163000020007400327001640000200054,
  0x10030c0016500002000740030c00168000020005500303001690000200075003030016a0000200055003040016b000020007500304,
  0x10016c0000200055003060016d0000200075003060016e00002000550030a0016f00002000750030a0017000002000550030b00171,
  0x100002000750030b001720000200055003280017300002000750032800174000020005700302001750000200077003020017600002,
  0x10005900302001770000200079003020017800002000590030800179000020005a003010017a000020007a003010017b000020005a,
  0x1003070017c000020007a003070017d000020005a0030c0017e000020007a0030c001a0000020004f0031b001a1000020006f0031b,
  0x1001af00002000550031b001b000002000750031b001c400003000440005a0030c001c500003000440007a0030c001c60000300064,
  0x10007a0030c001c7000020004c0004a001c8000020004c0006a001c9000020006c0006a001ca000020004e0004a001cb000020004e,
  0x10006a001cc000020006e0006a001cd00002000410030c001ce00002000610030c001cf00002000490030c001d000002000690030c,
  0x1001d1000020004f0030c001d2000020006f0030c001d300002000550030c001d400002000750030c001d500003000550030800304,
  0x1001d600003000750030800304001d700003000550030800301001d800003000750030800301001d90000300055003080030c001da,
  0x10000300075003080030c001db00003000550030800300001dc00003000750030800300001de00003000410030800304001df00003,
  0x1000610030800304001e000003000410030700304001e100003000610030700304001e200002000c600304001e300002000e600304,
  0x1001e600002000470030c001e700002000670030c001e8000020004b0030c001e9000020006b0030c001ea000020004f00328001eb,
  0x1000020006f00328001ec000030004f0032800304001ed000030006f0032800304001ee00002001b70030c001ef00002002920030c,
  0x1001f0000020006a0030c001f100002000440005a001f200002000440007a001f300002000640007a001f4000020004700301001f5,
  0x1000020006700301001f8000020004e00300001f9000020006e00300001fa00003000410030a00301001fb00003000610030a00301,
  0x1001fc00002000c600301001fd00002000e600301001fe00002000d800301001ff00002000f8003010020000002000410030f00201,
  0x100002000610030f00202000020004100311002030000200061003110020400002000450030f0020500002000650030f0020600002,
  0x10004500311002070000200065003110020800002000490030f0020900002000690030f0020a0000200049003110020b0000200069,
  0x1003110020c000020004f0030f0020d000020006f0030f0020e000020004f003110020f000020006f003110021000002000520030f,
  0x10021100002000720030f00212000020005200311002130000200072003110021400002000550030f0021500002000750030f00216,
  0x10000200055003110021700002000750031100218000020005300326002190000200073003260021a0000200054003260021b00002,
  0x100074003260021e00002000480030c0021f00002000680030c0022600002000410030700227000020006100307002280000200045,
  0x100327002290000200065003270022a000030004f00308003040022b000030006f00308003040022c000030004f00303003040022d,
  0x1000030006f00303003040022e000020004f003070022f000020006f0030700230000030004f003070030400231000030006f00307,
  0x1003040023200002000590030400233000020007900304003440000200308003010038600002003910030100388000020039500301,
  0x1003890000200397003010038a0000200399003010038c000020039f003010038e00002003a5003010038f00002003a90030100390,
  0x100003003b90030800301003aa000020039900308003ab00002003a500308003ac00002003b100301003ad00002003b500301003ae,
  0x100002003b700301003af00002003b900301003b000003003c50030800301003ca00002003b900308003cb00002003c500308003cc,
  0x100002003bf00301003cd00002003c500301003ce00002003c900301003d300002003a500301003d400002003a5003080040000002,
  0x100415003000040100002004150030800403000020041300301004070000200406003080040c000020041a003010040d0000200418,
  0x1003000040e00002004230030600419000020041800306004390000200438003060045000002004350030000451000020043500308,
  0x100453000020043300301004570000200456003080045c000020043a003010045d0000200438003000045e00002004430030600476,
  0x100002004740030f0047700002004750030f004c1000020041600306004c2000020043600306004d0000020041000306004d100002,
  0x10043000306004d2000020041000308004d3000020043000308004d6000020041500306004d7000020043500306004da00002004d8,
  0x100308004db00002004d900308004dc000020041600308004dd000020043600308004de000020041700308004df000020043700308,
  0x1004e2000020041800304004e3000020043800304004e4000020041800308004e5000020043800308004e6000020041e00308004e7,
  0x1000020043e00308004ea00002004e800308004eb00002004e900308004ec000020042d00308004ed000020044d00308004ee00002,
  0x10042300304004ef000020044300304004f0000020042300308004f1000020044300308004f200002004230030b004f30000200443,
  0x10030b004f4000020042700308004f5000020044700308004f8000020042b00308004f9000020044b0030800587000020056500582,
  0x10062200002006270065300623000020062700654006240000200648006540062500002006270065500626000020064a0065400675,
  0x1000020062700674006760000200648006740067700002006c70067400678000020064a00674006c000002006d500654006c200002,
  0x1006c100654006d300002006d2006540092900002009280093c0093100002009300093c0093400002009330093c009580000200915,
  0x10093c0095900002009160093c0095a00002009170093c0095b000020091c0093c0095c00002009210093c0095d00002009220093c,
  0x10095e000020092b0093c0095f000020092f0093c009cb00002009c7009be009cc00002009c7009d7009dc00002009a1009bc009dd,
  0x100002009a2009bc009df00002009af009bc00a330000200a3200a3c00a360000200a3800a3c00a590000200a1600a3c00a5a00002,
  0x100a1700a3c00a5b0000200a1c00a3c00a5e0000200a2b00a3c00b480000200b4700b5600b4b0000200b4700b3e00b4c0000200b47,
  0x100b5700b5c0000200b2100b3c00b5d0000200b2200b3c00b940000200b9200bd700bca0000200bc600bbe00bcb0000200bc700bbe,
  0x100bcc0000200bc600bd700c480000200c4600c5600cc00000200cbf00cd500cc70000200cc600cd500cc80000200cc600cd600cca,
  0x10000200cc600cc200ccb0000300cc600cc200cd500d4a0000200d4600d3e00d4b0000200d4700d3e00d4c0000200d4600d5700dda,
  0x10000200dd900dca00ddc0000200dd900dcf00ddd0000300dd900dcf00dca00dde0000200dd900ddf00e330000200e4d00e3200eb3,
  0x10000200ecd00eb200edc0000200eab00e9900edd0000200eab00ea100f430000200f4200fb700f4d0000200f4c00fb700f5200002,
  0x100f5100fb700f570000200f5600fb700f5c0000200f5b00fb700f690000200f4000fb500f730000200f7100f7200f750000200f71,
  0x100f7400f760000200fb200f8000f770000300fb200f7100f8000f780000200fb300f8000f790000300fb300f7100f8000f8100002,
  0x100f7100f8000f930000200f9200fb700f9d0000200f9c00fb700fa20000200fa100fb700fa70000200fa600fb700fac0000200fab,
  0x100fb700fb90000200f9000fb50102600002010250102e01b060000201b0501b3501b080000201b0701b3501b0a0000201b0901b35,
  0x101b0c0000201b0b01b3501b0e0000201b0d01b3501b120000201b1101b3501b3b0000201b3a01b3501b3d0000201b3c01b3501b40,
  0x10000201b3e01b3501b410000201b3f01b3501b430000201b4201b3501e0000002000410032501e0100002000610032501e0200002,
  0x1000420030701e0300002000620030701e0400002000420032301e0500002000620032301e0600002000420033101e070000200062,
  0x10033101e080000300043003270030101e090000300063003270030101e0a00002000440030701e0b00002000640030701e0c00002,
  0x1000440032301e0d00002000640032301e0e00002000440033101e0f00002000640033101e1000002000440032701e110000200064,
  0x10032701e1200002000440032d01e1300002000640032d01e140000300045003040030001e150000300065003040030001e1600003,
  0x100045003040030101e170000300065003040030101e1800002000450032d01e1900002000650032d01e1a00002000450033001e1b,
  0x100002000650033001e1c0000300045003270030601e1d0000300065003270030601e1e00002000460030701e1f000020006600307,
  0x101e2000002000470030401e2100002000670030401e2200002000480030701e2300002000680030701e2400002000480032301e25,
  0x100002000680032301e2600002000480030801e2700002000680030801e2800002000480032701e2900002000680032701e2a00002,
  0x1000480032e01e2b00002000680032e01e2c00002000490033001e2d00002000690033001e2e0000300049003080030101e2f00003,
  0x100069003080030101e30000020004b0030101e31000020006b0030101e32000020004b0032301e33000020006b0032301e3400002,
  0x10004b0033101e35000020006b0033101e36000020004c0032301e37000020006c0032301e38000030004c003230030401e3900003,
  0x10006c003230030401e3a000020004c0033101e3b000020006c0033101e3c000020004c0032d01e3d000020006c0032d01e3e00002,
  0x10004d0030101e3f000020006d0030101e40000020004d0030701e41000020006d0030701e42000020004d0032301e43000020006d,
  0x10032301e44000020004e0030701e45000020006e0030701e46000020004e0032301e47000020006e0032301e48000020004e00331,
  0x101e49000020006e0033101e4a000020004e0032d01e4b000020006e0032d01e4c000030004f003030030101e4d000030006f00303,
  0x10030101e4e000030004f003030030801e4f000030006f003030030801e50000030004f003040030001e51000030006f0030400300,
  0x101e52000030004f003040030101e53000030006f003040030101e5400002000500030101e5500002000700030101e560000200050,
  0x10030701e5700002000700030701e5800002000520030701e5900002000720030701e5a00002000520032301e5b000020007200323,
  0x101e5c0000300052003230030401e5d0000300072003230030401e5e00002000520033101e5f00002000720033101e600000200053,
  0x10030701e6100002000730030701e6200002000530032301e6300002000730032301e640000300053003010030701e650000300073,
  0x1003010030701e6600003000530030c0030701e6700003000730030c0030701e680000300053003230030701e69000030007300323,
  0x10030701e6a00002000540030701e6b00002000740030701e6c00002000540032301e6d00002000740032301e6e000020005400331,
  0x101e6f00002000740033101e7000002000540032d01e7100002000740032d01e7200002000550032401e7300002000750032401e74,
  0x100002000550033001e7500002000750033001e7600002000550032d01e7700002000750032d01e780000300055003030030101e79,
  0x10000300075003030030101e7a0000300055003040030801e7b0000300075003040030801e7c00002000560030301e7d0000200076,
  0x10030301e7e00002000560032301e7f00002000760032301e8000002000570030001e8100002000770030001e82000020005700301,
  0x101e8300002000770030101e8400002000570030801e8500002000770030801e8600002000570030701e8700002000770030701e88,
  0x100002000570032301e8900002000770032301e8a00002000580030701e8b00002000780030701e8c00002000580030801e8d00002,
  0x1000780030801e8e00002000590030701e8f00002000790030701e90000020005a0030201e91000020007a0030201e92000020005a,
  0x10032301e93000020007a0032301e94000020005a0033101e95000020007a0033101e9600002000680033101e97000020007400308,
  0x101e9800002000770030a01e9900002000790030a01e9a0000200061002be01e9b00002000730030701ea000002000410032301ea1,
  0x100002000610032301ea200002000410030901ea300002000610030901ea40000300041003020030101ea500003000610030200301,
  0x101ea60000300041003020030001ea70000300061003020030001ea80000300041003020030901ea90000300061003020030901eaa,
  0x10000300041003020030301eab0000300061003020030301eac0000300041003230030201ead0000300061003230030201eae00003,
  0x100041003060030101eaf0000300061003060030101eb00000300041003060030001eb10000300061003060030001eb20000300041,
  0x1003060030901eb30000300061003060030901eb40000300041003060030301eb50000300061003060030301eb6000030004100323,
  0x10030601eb70000300061003230030601eb800002000450032301eb900002000650032301eba00002000450030901ebb0000200065,
  0x10030901ebc00002000450030301ebd00002000650030301ebe0000300045003020030101ebf0000300065003020030101ec000003,
  0x100045003020030001ec10000300065003020030001ec20000300045003020030901ec30000300065003020030901ec40000300045,
  0x1003020030301ec50000300065003020030301ec60000300045003230030201ec70000300065003230030201ec8000020004900309,
  0x101ec900002000690030901eca00002000490032301ecb00002000690032301ecc000020004f0032301ecd000020006f0032301ece,
  0x1000020004f0030901ecf000020006f0030901ed0000030004f003020030101ed1000030006f003020030101ed2000030004f00302,
  0x10030001ed3000030006f003020030001ed4000030004f003020030901ed5000030006f003020030901ed6000030004f0030200303,
  0x101ed7000030006f003020030301ed8000030004f003230030201ed9000030006f003230030201eda000030004f0031b0030101edb,
  0x1000030006f0031b0030101edc000030004f0031b0030001edd000030006f0031b0030001ede000030004f0031b0030901edf00003,
  0x10006f0031b0030901ee0000030004f0031b0030301ee1000030006f0031b0030301ee2000030004f0031b0032301ee3000030006f,
  0x10031b0032301ee400002000550032301ee500002000750032301ee600002000550030901ee700002000750030901ee80000300055,
  0x10031b0030101ee900003000750031b0030101eea00003000550031b0030001eeb00003000750031b0030001eec00003000550031b,
  0x10030901eed00003000750031b0030901eee00003000550031b0030301eef00003000750031b0030301ef000003000550031b00323,
  0x101ef100003000750031b0032301ef200002000590030001ef300002000790030001ef400002000590032301ef5000020007900323,
  0x101ef600002000590030901ef700002000790030901ef800002000590030301ef900002000790030301f0000002003b10031301f01,
  0x100002003b10031401f0200003003b1003130030001f0300003003b1003140030001f0400003003b1003130030101f0500003003b1,
  0x1003140030101f0600003003b1003130034201f0700003003b1003140034201f0800002003910031301f0900002003910031401f0a,
  0x10000300391003130030001f0b0000300391003140030001f0c0000300391003130030101f0d0000300391003140030101f0e00003,
  0x100391003130034201f0f0000300391003140034201f1000002003b50031301f1100002003b50031401f1200003003b50031300300,
  0x101f1300003003b5003140030001f1400003003b5003130030101f1500003003b5003140030101f1800002003950031301f1900002,
  0x1003950031401f1a0000300395003130030001f1b0000300395003140030001f1c0000300395003130030101f1d000030039500314,
  0x10030101f2000002003b70031301f2100002003b70031401f2200003003b7003130030001f2300003003b7003140030001f2400003,
  0x1003b7003130030101f2500003003b7003140030101f2600003003b7003130034201f2700003003b7003140034201f280000200397,
  0x10031301f2900002003970031401f2a0000300397003130030001f2b0000300397003140030001f2c0000300397003130030101f2d,
  0x10000300397003140030101f2e0000300397003130034201f2f0000300397003140034201f3000002003b90031301f3100002003b9,
  0x10031401f3200003003b9003130030001f3300003003b9003140030001f3400003003b9003130030101f3500003003b90031400301,
  0x101f3600003003b9003130034201f3700003003b9003140034201f3800002003990031301f3900002003990031401f3a0000300399,
  0x1003130030001f3b0000300399003140030001f3c0000300399003130030101f3d0000300399003140030101f3e000030039900313,
  0x10034201f3f0000300399003140034201f4000002003bf0031301f4100002003bf0031401f4200003003bf003130030001f4300003,
  0x1003bf003140030001f4400003003bf003130030101f4500003003bf003140030101f48000020039f0031301f49000020039f00314,
  0x101f4a000030039f003130030001f4b000030039f003140030001f4c000030039f003130030101f4d000030039f003140030101f50,
  0x100002003c50031301f5100002003c50031401f5200003003c5003130030001f5300003003c5003140030001f5400003003c500313,
  0x10030101f5500003003c5003140030101f5600003003c5003130034201f5700003003c5003140034201f5900002003a50031401f5b,
  0x100003003a5003140030001f5d00003003a5003140030101f5f00003003a5003140034201f6000002003c90031301f6100002003c9,
  0x10031401f6200003003c9003130030001f6300003003c9003140030001f6400003003c9003130030101f6500003003c90031400301,
  0x101f6600003003c9003130034201f6700003003c9003140034201f6800002003a90031301f6900002003a90031401f6a00003003a9,
  0x1003130030001f6b00003003a9003140030001f6c00003003a9003130030101f6d00003003a9003140030101f6e00003003a900313,
  0x10034201f6f00003003a9003140034201f7000002003b10030001f7100002003b10030101f7200002003b50030001f7300002003b5,
  0x10030101f7400002003b70030001f7500002003b70030101f7600002003b90030001f7700002003b90030101f7800002003bf00300,
  0x101f7900002003bf0030101f7a00002003c50030001f7b00002003c50030101f7c00002003c90030001f7d00002003c90030101f80,
  0x100003003b1003130034501f8100003003b1003140034501f8200004003b100313003000034501f8300004003b1003140030000345,
  0x101f8400004003b100313003010034501f8500004003b100314003010034501f8600004003b100313003420034501f8700004003b1,
  0x100314003420034501f880000300391003130034501f890000300391003140034501f8a000040039100313003000034501f8b00004,
  0x10039100314003000034501f8c000040039100313003010034501f8d000040039100314003010034501f8e00004003910031300342,
  0x10034501f8f000040039100314003420034501f9000003003b7003130034501f9100003003b7003140034501f9200004003b700313,
  0x1003000034501f9300004003b700314003000034501f9400004003b700313003010034501f9500004003b700314003010034501f96,
  0x100004003b700313003420034501f9700004003b700314003420034501f980000300397003130034501f9900003003970031400345,
  0x101f9a000040039700313003000034501f9b000040039700314003000034501f9c000040039700313003010034501f9d0000400397,
  0x100314003010034501f9e000040039700313003420034501f9f000040039700314003420034501fa000003003c9003130034501fa1,
  0x100003003c9003140034501fa200004003c900313003000034501fa300004003c900314003000034501fa400004003c90031300301,
  0x10034501fa500004003c900314003010034501fa600004003c900313003420034501fa700004003c900314003420034501fa800003,
  0x1003a9003130034501fa900003003a9003140034501faa00004003a900313003000034501fab00004003a900314003000034501fac,
  0x100004003a900313003010034501fad00004003a900314003010034501fae00004003a900313003420034501faf00004003a900314,
  0x1003420034501fb000002003b10030601fb100002003b10030401fb200003003b1003000034501fb300002003b10034501fb400003,
  0x1003b1003010034501fb600002003b10034201fb700003003b1003420034501fb800002003910030601fb900002003910030401fba,
  0x100002003910030001fbb00002003910030101fbc00002003910034501fc200003003b7003000034501fc300002003b70034501fc4,
  0x100003003b7003010034501fc600002003b70034201fc700003003b7003420034501fc800002003950030001fc9000020039500301,
  0x101fca00002003970030001fcb00002003970030101fcc00002003970034501fd000002003b90030601fd100002003b90030401fd2,
  0x100003003b9003080030001fd300003003b9003080030101fd600002003b90034201fd700003003b9003080034201fd80000200399,
  0x10030601fd900002003990030401fda00002003990030001fdb00002003990030101fe000002003c50030601fe100002003c500304,
  0x101fe200003003c5003080030001fe300003003c5003080030101fe400002003c10031301fe500002003c10031401fe600002003c5,
  0x10034201fe700003003c5003080034201fe800002003a50030601fe900002003a50030401fea00002003a50030001feb00002003a5,
  0x10030101fec00002003a10031401ff200003003c9003000034501ff300002003c90034501ff400003003c9003010034501ff600002,
  0x1003c90034201ff700003003c9003420034501ff8000020039f0030001ff9000020039f0030101ffa00002003a90030001ffb00002,
  0x1003a90030101ffc00002003a9003450212b00002000410030a0216100002000490004902162000030004900049000490216300002,
  0x1000490005602165000020005600049021660000300056000490004902167000040005600049000490004902168000020004900058,
  0x10216a0000200058000490216b00003000580004900049021710000200069000690217200003000690006900069021730000200069,
  0x100076021750000200076000690217600003000760006900069021770000400076000690006900069021780000200069000780217a,
  0x10000200078000690217b000030007800069000690304c000020304b030990304e000020304d0309903050000020304f0309903052,
  0x10000203051030990305400002030530309903056000020305503099030580000203057030990305a0000203059030990305c00002,
  0x10305b030990305e000020305d0309903060000020305f030990306200002030610309903065000020306403099030670000203066,
  0x1030990306900002030680309903070000020306f0309903071000020306f0309a030730000203072030990307400002030720309a,
  0x1030760000203075030990307700002030750309a030790000203078030990307a00002030780309a0307c000020307b030990307d,
  0x1000020307b0309a030940000203046030990309e000020309d030990309f00002030880308a030ac00002030ab03099030ae00002,
  0x1030ad03099030b000002030af03099030b200002030b103099030b400002030b303099030b600002030b503099030b800002030b7,
  0x103099030ba00002030b903099030bc00002030bb03099030be00002030bd03099030c000002030bf03099030c200002030c103099,
  0x1030c500002030c403099030c700002030c603099030c900002030c803099030d000002030cf03099030d100002030cf0309a030d3,
  0x100002030d203099030d400002030d20309a030d600002030d503099030d700002030d50309a030d900002030d803099030da00002,
  0x1030d80309a030dc00002030db03099030dd00002030db0309a030f400002030a603099030f700002030ef03099030f800002030f0,
  0x103099030f900002030f103099030fa00002030f203099030fe00002030fd03099030ff00002030b3030c80fb00000020006600066,
  0x10fb010000200066000690fb0200002000660006c0fb03000030006600066000690fb040000300066000660006c0fb050000200073,
  0x1000740fb060000200073000740fb130000200574005760fb140000200574005650fb1500002005740056b0fb16000020057e00576,
  0x10fb1700002005740056d0fb1d00002005d9005b40fb1f00002005f2005b70fb2a00002005e9005c10fb2b00002005e9005c20fb2c,
  0x100003005e9005bc005c10fb2d00003005e9005bc005c20fb2e00002005d0005b70fb2f00002005d0005b80fb3000002005d0005bc,
  0x10fb3100002005d1005bc0fb3200002005d2005bc0fb3300002005d3005bc0fb3400002005d4005bc0fb3500002005d5005bc0fb36,
  0x100002005d6005bc0fb3800002005d8005bc0fb3900002005d9005bc0fb3a00002005da005bc0fb3b00002005db005bc0fb3c00002,
  0x1005dc005bc0fb3e00002005de005bc0fb4000002005e0005bc0fb4100002005e1005bc0fb4300002005e3005bc0fb4400002005e4,
  0x1005bc0fb4600002005e6005bc0fb4700002005e7005bc0fb4800002005e8005bc0fb4900002005e9005bc0fb4a00002005ea005bc,
  0x10fb4b00002005d5005b90fb4c00002005d1005bf0fb4d00002005db005bf0fb4e00002005e4005bf0fb4f00002005d0005dc0fba4,
  0x100002006d5006540fba500002006d5006540fbb000002006d2006540fbb100002006d2006540fbdd00002006c7006740fbea00003,
  0x10064a00654006270fbeb000030064a00654006270fbec000030064a00654006d50fbed000030064a00654006d50fbee000030064a,
  0x100654006480fbef000030064a00654006480fbf0000030064a00654006c70fbf1000030064a00654006c70fbf2000030064a00654,
  0x1006c60fbf3000030064a00654006c60fbf4000030064a00654006c80fbf5000030064a00654006c80fbf6000030064a00654006d0,
  0x10fbf7000030064a00654006d00fbf8000030064a00654006d00fbf9000030064a00654006490fbfa000030064a00654006490fbfb,
  0x1000030064a00654006490fc00000030064a006540062c0fc01000030064a006540062d0fc02000030064a00654006450fc0300003,
  0x10064a00654006490fc04000030064a006540064a0fc0500002006280062c0fc0600002006280062d0fc0700002006280062e0fc08,
  0x10000200628006450fc090000200628006490fc0a00002006280064a0fc0b000020062a0062c0fc0c000020062a0062d0fc0d00002,
  0x10062a0062e0fc0e000020062a006450fc0f000020062a006490fc10000020062a0064a0fc11000020062b0062c0fc12000020062b,
  0x1006450fc13000020062b006490fc14000020062b0064a0fc15000020062c0062d0fc16000020062c006450fc17000020062d0062c,
  0x10fc18000020062d006450fc19000020062e0062c0fc1a000020062e0062d0fc1b000020062e006450fc1c00002006330062c0fc1d,
  0x100002006330062d0fc1e00002006330062e0fc1f0000200633006450fc2000002006350062d0fc210000200635006450fc2200002,
  0x1006360062c0fc2300002006360062d0fc2400002006360062e0fc250000200636006450fc2600002006370062d0fc270000200637,
  0x1006450fc280000200638006450fc2900002006390062c0fc2a0000200639006450fc2b000020063a0062c0fc2c000020063a00645,
  0x10fc2d00002006410062c0fc2e00002006410062d0fc2f00002006410062e0fc300000200641006450fc310000200641006490fc32,
  0x100002006410064a0fc3300002006420062d0fc340000200642006450fc350000200642006490fc3600002006420064a0fc3700002,
  0x100643006270fc3800002006430062c0fc3900002006430062d0fc3a00002006430062e0fc3b0000200643006440fc3c0000200643,
  0x1006450fc3d0000200643006490fc3e00002006430064a0fc3f00002006440062c0fc4000002006440062d0fc4100002006440062e,
  0x10fc420000200644006450fc430000200644006490fc4400002006440064a0fc4500002006450062c0fc4600002006450062d0fc47,
  0x100002006450062e0fc480000200645006450fc490000200645006490fc4a00002006450064a0fc4b00002006460062c0fc4c00002,
  0x1006460062d0fc4d00002006460062e0fc4e0000200646006450fc4f0000200646006490fc5000002006460064a0fc510000200647,
  0x10062c0fc520000200647006450fc530000200647006490fc5400002006470064a0fc55000020064a0062c0fc56000020064a0062d,
  0x10fc57000020064a0062e0fc58000020064a006450fc59000020064a006490fc5a000020064a0064a0fc5b0000200630006700fc5c,
  0x10000200631006700fc5d0000200649006700fc64000030064a00654006310fc65000030064a00654006320fc66000030064a00654,
  0x1006450fc67000030064a00654006460fc68000030064a00654006490fc69000030064a006540064a0fc6a0000200628006310fc6b,
  0x10000200628006320fc6c0000200628006450fc6d0000200628006460fc6e0000200628006490fc6f00002006280064a0fc7000002,
  0x10062a006310fc71000020062a006320fc72000020062a006450fc73000020062a006460fc74000020062a006490fc75000020062a,
  0x10064a0fc76000020062b006310fc77000020062b006320fc78000020062b006450fc79000020062b006460fc7a000020062b00649,
  0x10fc7b000020062b0064a0fc7c0000200641006490fc7d00002006410064a0fc7e0000200642006490fc7f00002006420064a0fc80,
  0x10000200643006270fc810000200643006440fc820000200643006450fc830000200643006490fc8400002006430064a0fc8500002,
  0x100644006450fc860000200644006490fc8700002006440064a0fc880000200645006270fc890000200645006450fc8a0000200646,
  0x1006310fc8b0000200646006320fc8c0000200646006450fc8d0000200646006460fc8e0000200646006490fc8f00002006460064a,
  0x10fc900000200649006700fc91000020064a006310fc92000020064a006320fc93000020064a006450fc94000020064a006460fc95,
  0x1000020064a006490fc96000020064a0064a0fc97000030064a006540062c0fc98000030064a006540062d0fc99000030064a00654,
  0x10062e0fc9a000030064a00654006450fc9b000030064a00654006470fc9c00002006280062c0fc9d00002006280062d0fc9e00002,
  0x1006280062e0fc9f0000200628006450fca00000200628006470fca1000020062a0062c0fca2000020062a0062d0fca3000020062a,
  0x10062e0fca4000020062a006450fca5000020062a006470fca6000020062b006450fca7000020062c0062d0fca8000020062c00645,
  0x10fca9000020062d0062c0fcaa000020062d006450fcab000020062e0062c0fcac000020062e006450fcad00002006330062c0fcae,
  0x100002006330062d0fcaf00002006330062e0fcb00000200633006450fcb100002006350062d0fcb200002006350062e0fcb300002,
  0x100635006450fcb400002006360062c0fcb500002006360062d0fcb600002006360062e0fcb70000200636006450fcb80000200637,
  0x10062d0fcb90000200638006450fcba00002006390062c0fcbb0000200639006450fcbc000020063a0062c0fcbd000020063a00645,
  0x10fcbe00002006410062c0fcbf00002006410062d0fcc000002006410062e0fcc10000200641006450fcc200002006420062d0fcc3,
  0x10000200642006450fcc400002006430062c0fcc500002006430062d0fcc600002006430062e0fcc70000200643006440fcc800002,
  0x100643006450fcc900002006440062c0fcca00002006440062d0fccb00002006440062e0fccc0000200644006450fccd0000200644,
  0x1006470fcce00002006450062c0fccf00002006450062d0fcd000002006450062e0fcd10000200645006450fcd200002006460062c,
  0x10fcd300002006460062d0fcd400002006460062e0fcd50000200646006450fcd60000200646006470fcd700002006470062c0fcd8,
  0x10000200647006450fcd90000200647006700fcda000020064a0062c0fcdb000020064a0062d0fcdc000020064a0062e0fcdd00002,
  0x10064a006450fcde000020064a006470fcdf000030064a00654006450fce0000030064a00654006470fce10000200628006450fce2,
  0x10000200628006470fce3000020062a006450fce4000020062a006470fce5000020062b006450fce6000020062b006470fce700002,
  0x100633006450fce80000200633006470fce90000200634006450fcea0000200634006470fceb0000200643006440fcec0000200643,
  0x1006450fced0000200644006450fcee0000200646006450fcef0000200646006470fcf0000020064a006450fcf1000020064a00647,
  0x10fcf200003006400064e006510fcf300003006400064f006510fcf4000030064000650006510fcf50000200637006490fcf600002,
  0x1006370064a0fcf70000200639006490fcf800002006390064a0fcf9000020063a006490fcfa000020063a0064a0fcfb0000200633,
  0x1006490fcfc00002006330064a0fcfd0000200634006490fcfe00002006340064a0fcff000020062d006490fd00000020062d0064a,
  0x10fd01000020062c006490fd02000020062c0064a0fd03000020062e006490fd04000020062e0064a0fd050000200635006490fd06,
  0x100002006350064a0fd070000200636006490fd0800002006360064a0fd0900002006340062c0fd0a00002006340062d0fd0b00002,
  0x1006340062e0fd0c0000200634006450fd0d0000200634006310fd0e0000200633006310fd0f0000200635006310fd100000200636,
  0x1006310fd110000200637006490fd1200002006370064a0fd130000200639006490fd1400002006390064a0fd15000020063a00649,
  0x10fd16000020063a0064a0fd170000200633006490fd1800002006330064a0fd190000200634006490fd1a00002006340064a0fd1b,
  0x1000020062d006490fd1c000020062d0064a0fd1d000020062c006490fd1e000020062c0064a0fd1f000020062e006490fd2000002,
  0x10062e0064a0fd210000200635006490fd2200002006350064a0fd230000200636006490fd2400002006360064a0fd250000200634,
  0x10062c0fd2600002006340062d0fd2700002006340062e0fd280000200634006450fd290000200634006310fd2a000020063300631,
  0x10fd2b0000200635006310fd2c0000200636006310fd2d00002006340062c0fd2e00002006340062d0fd2f00002006340062e0fd30,
  0x10000200634006450fd310000200633006470fd320000200634006470fd330000200637006450fd3400002006330062c0fd3500002,
  0x1006330062d0fd3600002006330062e0fd3700002006340062c0fd3800002006340062d0fd3900002006340062e0fd3a0000200637,
  0x1006450fd3b0000200638006450fd3c00002006270064b0fd3d00002006270064b0fd50000030062a0062c006450fd51000030062a,
  0x10062d0062c0fd52000030062a0062d0062c0fd53000030062a0062d006450fd54000030062a0062e006450fd55000030062a00645,
  0x10062c0fd56000030062a006450062d0fd57000030062a006450062e0fd58000030062c006450062d0fd59000030062c006450062d,
  0x10fd5a000030062d006450064a0fd5b000030062d00645006490fd5c00003006330062d0062c0fd5d00003006330062c0062d0fd5e,
  0x100003006330062c006490fd5f0000300633006450062d0fd600000300633006450062d0fd610000300633006450062c0fd6200003,
  0x10063300645006450fd63000030063300645006450fd6400003006350062d0062d0fd6500003006350062d0062d0fd660000300635,
  0x100645006450fd6700003006340062d006450fd6800003006340062d006450fd6900003006340062c0064a0fd6a000030063400645,
  0x10062e0fd6b0000300634006450062e0fd6c000030063400645006450fd6d000030063400645006450fd6e00003006360062d00649,
  0x10fd6f00003006360062e006450fd7000003006360062e006450fd710000300637006450062d0fd720000300637006450062d0fd73,
  0x1000030063700645006450fd740000300637006450064a0fd7500003006390062c006450fd76000030063900645006450fd7700003,
  0x10063900645006450fd78000030063900645006490fd79000030063a00645006450fd7a000030063a006450064a0fd7b000030063a,
  0x100645006490fd7c00003006410062e006450fd7d00003006410062e006450fd7e0000300642006450062d0fd7f000030064200645,
  0x1006450fd8000003006440062d006450fd8100003006440062d0064a0fd8200003006440062d006490fd8300003006440062c0062c,
  0x10fd8400003006440062c0062c0fd8500003006440062e006450fd8600003006440062e006450fd870000300644006450062d0fd88,
  0x10000300644006450062d0fd8900003006450062d0062c0fd8a00003006450062d006450fd8b00003006450062d0064a0fd8c00003,
  0x1006450062c0062d0fd8d00003006450062c006450fd8e00003006450062e0062c0fd8f00003006450062e006450fd920000300645,
  0x10062c0062e0fd930000300647006450062c0fd94000030064700645006450fd9500003006460062d006450fd9600003006460062d,
  0x1006490fd9700003006460062c006450fd9800003006460062c006450fd9900003006460062c006490fd9a0000300646006450064a,
  0x10fd9b000030064600645006490fd9c000030064a00645006450fd9d000030064a00645006450fd9e00003006280062e0064a0fd9f,
  0x1000030062a0062c0064a0fda0000030062a0062c006490fda1000030062a0062e0064a0fda2000030062a0062e006490fda300003,
  0x10062a006450064a0fda4000030062a00645006490fda5000030062c006450064a0fda6000030062c0062d006490fda7000030062c,
  0x100645006490fda800003006330062e006490fda900003006350062d0064a0fdaa00003006340062d0064a0fdab00003006360062d,
  0x10064a0fdac00003006440062c0064a0fdad0000300644006450064a0fdae000030064a0062d0064a0fdaf000030064a0062c0064a,
  0x10fdb0000030064a006450064a0fdb10000300645006450064a0fdb20000300642006450064a0fdb300003006460062d0064a0fdb4,
  0x10000300642006450062d0fdb500003006440062d006450fdb60000300639006450064a0fdb70000300643006450064a0fdb800003,
  0x1006460062c0062d0fdb900003006450062e0064a0fdba00003006440062c006450fdbb000030064300645006450fdbc0000300644,
  0x10062c006450fdbd00003006460062c0062d0fdbe000030062c0062d0064a0fdbf000030062d0062c0064a0fdc000003006450062c,
  0x10064a0fdc10000300641006450064a0fdc200003006280062d0064a0fdc3000030064300645006450fdc400003006390062c00645,
  0x10fdc5000030063500645006450fdc600003006330062e0064a0fdc700003006460062c0064a0fdf0000030063500644006d20fdf1,
  0x1000030064200644006d20fdf200004006270064400644006470fdf300004006270064300628006310fdf400004006450062d00645,
  0x10062f0fdf500004006350064400639006450fdf600004006310063300648006440fdf70000400639006440064a006470fdf800004,
  0x1006480063300644006450fdf9000030063500644006490fe7100002006400064b0fe7700002006400064e0fe7900002006400064f,
  0x10fe7b0000200640006500fe7d0000200640006510fe7f0000200640006520fe810000200627006530fe820000200627006530fe83,
  0x10000200627006540fe840000200627006540fe850000200648006540fe860000200648006540fe870000200627006550fe8800002,
  0x100627006550fe89000020064a006540fe8a000020064a006540fe8b000020064a006540fe8c000020064a006540fef50000300644,
  0x100627006530fef6000030064400627006530fef7000030064400627006540fef8000030064400627006540fef9000030064400627,
  0x1006550fefa000030064400627006550fefb0000200644006270fefc0000200644006271109a0000211099110ba1109c000021109b,
  0x1110ba110ab00002110a5110ba1112e0000211131111271112f0000211132111271134b00002113471133e1134c000021134711357,
  0x1114bb00002114b9114ba114bc00002114b9114b0114be00002114b9114bd115ba00002115b8115af115bb00002115b9115af11938,
  0x1000021193511930]

/-- Runs of characters with a combining class other than 0: first, last, class. -/
def combiningClasses : List Nat := hexRows
  [0x10030000314000e60031500315000e80031600319000dc0031a0031a000e80031b0031b000d80031c00320000dc0032100322000ca,
  0x10032300326000dc0032700328000ca0032900333000dc003340033800001003390033c000dc0033d00344000e60034500345000f0,
  0x10034600346000e60034700349000dc0034a0034c000e60034d0034e000dc0035000352000e60035300356000dc0035700357000e6,
  0x10035800358000e8003590035a000dc0035b0035b000e60035c0035c000e90035d0035e000ea0035f0035f000e90036000361000ea,
  0x10036200362000e9003630036f000e60048300487000e60059100591000dc0059200595000e60059600596000dc0059700599000e6,
  0x10059a0059a000de0059b0059b000dc0059c005a1000e6005a2005a7000dc005a8005a9000e6005aa005aa000dc005ab005ac000e6,
  0x1005ad005ad000de005ae005ae000e4005af005af000e6005b0005b00000a005b1005b10000b005b2005b20000c005b3005b30000d,
  0x1005b4005b40000e005b5005b50000f005b6005b600010005b7005b700011005b8005b800012005b9005ba00013005bb005bb00014,
  0x1005bc005bc00015005bd005bd00016005bf005bf00017005c1005c100018005c2005c200019005c4005c4000e6005c5005c5000dc,
  0x1005c7005c7000120061000617000e600618006180001e00619006190001f0061a0061a000200064b0064b0001b0064c0064c0001c,
  0x10064d0064d0001d0064e0064e0001e0064f0064f0001f0065000650000200065100651000210065200652000220065300654000e6,
  0x10065500656000dc006570065b000e60065c0065c000dc0065d0065e000e60065f0065f000dc006700067000023006d6006dc000e6,
  0x1006df006e2000e6006e3006e3000dc006e4006e4000e6006e7006e8000e6006ea006ea000dc006eb006ec000e6006ed006ed000dc,
  0x10071100711000240073000730000e60073100731000dc0073200733000e60073400734000dc0073500736000e60073700739000dc,
  0x10073a0073a000e60073b0073c000dc0073d0073d000e60073e0073e000dc0073f00741000e60074200742000dc0074300743000e6,
  0x10074400744000dc0074500745000e60074600746000dc0074700747000e60074800748000dc007490074a000e6007eb007f1000e6,
  0x1007f2007f2000dc007f3007f3000e6007fd007fd000dc0081600819000e60081b00823000e60082500827000e6008290082d000e6,
  0x1008590085b000dc0089800898000e6008990089b000dc0089c0089f000e6008ca008ce000e6008cf008d3000dc008d4008e1000e6,
  0x1008e3008e3000dc008e4008e5000e6008e6008e6000dc008e7008e8000e6008e9008e9000dc008ea008ec000e6008ed008ef000dc,
  0x1008f0008f00001b008f1008f10001c008f2008f20001d008f3008f5000e6008f6008f6000dc008f7008f8000e6008f9008fa000dc,
  0x1008fb008ff000e60093c0093c000070094d0094d000090095100951000e60095200952000dc0095300954000e6009bc009bc00007,
  0x1009cd009cd00009009fe009fe000e600a3c00a3c0000700a4d00a4d0000900abc00abc0000700acd00acd0000900b3c00b3c00007,
  0x100b4d00b4d0000900bcd00bcd0000900c3c00c3c0000700c4d00c4d0000900c5500c550005400c5600c560005b00cbc00cbc00007,
  0x100ccd00ccd0000900d3b00d3c0000900d4d00d4d0000900dca00dca0000900e3800e390006700e3a00e3a0000900e4800e4b0006b,
  0x100eb800eb90007600eba00eba0000900ec800ecb0007a00f1800f19000dc00f3500f35000dc00f3700f37000dc00f3900f39000d8,
  0x100f7100f710008100f7200f720008200f7400f740008400f7a00f7d0008200f8000f800008200f8200f83000e600f8400f8400009,
  0x100f8600f87000e600fc600fc6000dc010370103700007010390103a000090108d0108d000dc0135d0135f000e6017140171500009,
  0x1017340173400009017d2017d200009017dd017dd000e6018a9018a9000e40193901939000de0193a0193a000e60193b0193b000dc,
  0x101a1701a17000e601a1801a18000dc01a6001a600000901a7501a7c000e601a7f01a7f000dc01ab001ab4000e601ab501aba000dc,
  0x101abb01abc000e601abd01abd000dc01abf01ac0000dc01ac101ac2000e601ac301ac4000dc01ac501ac9000e601aca01aca000dc,
  0x101acb01ace000e601b3401b340000701b4401b440000901b6b01b6b000e601b6c01b6c000dc01b6d01b73000e601baa01bab00009,
  0x101be601be60000701bf201bf30000901c3701c370000701cd001cd2000e601cd401cd40000101cd501cd9000dc01cda01cdb000e6,
  0x101cdc01cdf000dc01ce001ce0000e601ce201ce80000101ced01ced000dc01cf401cf4000e601cf801cf9000e601dc001dc1000e6,
  0x101dc201dc2000dc01dc301dc9000e601dca01dca000dc01dcb01dcc000e601dcd01dcd000ea01dce01dce000d601dcf01dcf000dc,
  0x101dd001dd0000ca01dd101df5000e601df601df6000e801df701df8000e401df901df9000dc01dfa01dfa000da01dfb01dfb000e6,
  0x101dfc01dfc000e901dfd01dfd000dc01dfe01dfe000e601dff01dff000dc020d0020d1000e6020d2020d300001020d4020d7000e6,
  0x1020d8020da00001020db020dc000e6020e1020e1000e6020e5020e600001020e7020e7000e6020e8020e8000dc020e9020e9000e6,
  0x1020ea020eb00001020ec020ef000dc020f0020f0000e602cef02cf1000e602d7f02d7f0000902de002dff000e60302a0302a000da,
  0x10302b0302b000e40302c0302c000e80302d0302d000de0302e0302f000e0030990309a000080a66f0a66f000e60a6740a67d000e6,
  0x10a69e0a69f000e60a6f00a6f1000e60a8060a806000090a82c0a82c000090a8c40a8c4000090a8e00a8f1000e60a92b0a92d000dc,
  0x10a9530a953000090a9b30a9b3000070a9c00a9c0000090aab00aab0000e60aab20aab3000e60aab40aab4000dc0aab70aab8000e6,
  0x10aabe0aabf000e60aac10aac1000e60aaf60aaf6000090abed0abed000090fb1e0fb1e0001a0fe200fe26000e60fe270fe2d000dc,
  0x10fe2e0fe2f000e6101fd101fd000dc102e0102e0000dc103761037a000e610a0d10a0d000dc10a0f10a0f000e610a3810a38000e6,
  0x110a3910a390000110a3a10a3a000dc10a3f10a3f0000910ae510ae5000e610ae610ae6000dc10d2410d27000e610eab10eac000e6,
  0x110f4610f47000dc10f4810f4a000e610f4b10f4b000dc10f4c10f4c000e610f4d10f50000dc10f8210f82000e610f8310f83000dc,
  0x110f8410f84000e610f8510f85000dc1104611046000091107011070000091107f1107f00009110b9110b900009110ba110ba00007,
  0x11110011102000e6111331113400009111731117300007111c0111c000009111ca111ca00007112351123500009112361123600007,
  0x1112e9112e900007112ea112ea000091133b1133c000071134d1134d00009113661136c000e61137011374000e6114421144200009,
  0x11144611446000071145e1145e000e6114c2114c200009114c3114c300007115bf115bf00009115c0115c0000071163f1163f00009,
  0x1116b6116b600009116b7116b7000071172b1172b000091183911839000091183a1183a000071193d1193e00009119431194300007,
  0x1119e0119e00000911a3411a340000911a4711a470000911a9911a990000911c3f11c3f0000911d4211d420000711d4411d4500009,
  0x111d9711d970000916af016af40000116b3016b36000e616ff016ff1000061bc9e1bc9e000011d1651d166000d81d1671d16900001,
  0x11d16d1d16d000e21d16e1d172000d81d17b1d182000dc1d1851d189000e61d18a1d18b000dc1d1aa1d1ad000e61d2421d244000e6,
  0x11e0001e006000e61e0081e018000e61e01b1e021000e61e0231e024000e61e0261e02a000e61e1301e136000e61e2ae1e2ae000e6,
  0x11e2ec1e2ef000e61e8d01e8d6000dc1e9441e949000e61e94a1e94a00007]

/-- Pairs that compose: first, second, composite. -/
def compositions : List Nat := hexRows
  [0x10003c003380226e0003d00338022600003e003380226f0004100300000c00004100301000c10004100302000c20004100303000c3,
  0x10004100304001000004100306001020004100307002260004100308000c4000410030901ea2000410030a000c5000410030c001cd,
  0x1000410030f00200000410031100202000410032301ea0000410032501e00000410032800104000420030701e02000420032301e04,
  0x1000420033101e0600043003010010600043003020010800043003070010a000430030c0010c0004300327000c7000440030701e0a,
  0x1000440030c0010e000440032301e0c000440032701e10000440032d01e12000440033101e0e0004500300000c80004500301000c9,
  0x10004500302000ca000450030301ebc0004500304001120004500306001140004500307001160004500308000cb000450030901eba,
  0x1000450030c0011a000450030f00204000450031100206000450032301eb8000450032700228000450032800118000450032d01e18,
  0x1000450033001e1a000460030701e1e0004700301001f400047003020011c000470030401e2000047003060011e000470030700120,
  0x1000470030c001e6000470032700122000480030200124000480030701e22000480030801e26000480030c0021e000480032301e24,
  0x1000480032701e28000480032e01e2a0004900300000cc0004900301000cd0004900302000ce00049003030012800049003040012a,
  0x100049003060012c0004900307001300004900308000cf000490030901ec8000490030c001cf000490030f0020800049003110020a,
  0x1000490032301eca00049003280012e000490033001e2c0004a00302001340004b0030101e300004b0030c001e80004b0032301e32,
  0x10004b00327001360004b0033101e340004c00301001390004c0030c0013d0004c0032301e360004c003270013b0004c0032d01e3c,
  0x10004c0033101e3a0004d0030101e3e0004d0030701e400004d0032301e420004e00300001f80004e00301001430004e00303000d1,
  0x10004e0030701e440004e0030c001470004e0032301e460004e00327001450004e0032d01e4a0004e0033101e480004f00300000d2,
  0x10004f00301000d30004f00302000d40004f00303000d50004f003040014c0004f003060014e0004f003070022e0004f00308000d6,
  0x10004f0030901ece0004f0030b001500004f0030c001d10004f0030f0020c0004f003110020e0004f0031b001a00004f0032301ecc,
  0x10004f00328001ea000500030101e54000500030701e56000520030100154000520030701e58000520030c00158000520030f00210,
  0x1000520031100212000520032301e5a000520032700156000520033101e5e00053003010015a00053003020015c000530030701e60,
  0x1000530030c00160000530032301e6200053003260021800053003270015e000540030701e6a000540030c00164000540032301e6c,
  0x100054003260021a000540032700162000540032d01e70000540033101e6e0005500300000d90005500301000da0005500302000db,
  0x100055003030016800055003040016a00055003060016c0005500308000dc000550030901ee6000550030a0016e000550030b00170,
  0x1000550030c001d3000550030f00214000550031100216000550031b001af000550032301ee4000550032401e72000550032800172,
  0x1000550032d01e76000550033001e74000560030301e7c000560032301e7e000570030001e80000570030101e82000570030200174,
  0x1000570030701e86000570030801e84000570032301e88000580030701e8a000580030801e8c000590030001ef20005900301000dd,
  0x1000590030200176000590030301ef8000590030400232000590030701e8e000590030800178000590030901ef6000590032301ef4,
  0x10005a00301001790005a0030201e900005a003070017b0005a0030c0017d0005a0032301e920005a0033101e940006100300000e0,
  0x10006100301000e10006100302000e20006100303000e30006100304001010006100306001030006100307002270006100308000e4,
  0x1000610030901ea3000610030a000e5000610030c001ce000610030f00201000610031100203000610032301ea1000610032501e01,
  0x1000610032800105000620030701e03000620032301e05000620033101e0700063003010010700063003020010900063003070010b,
  0x1000630030c0010d0006300327000e7000640030701e0b000640030c0010f000640032301e0d000640032701e11000640032d01e13,
  0x1000640033101e0f0006500300000e80006500301000e90006500302000ea000650030301ebd000650030400113000650030600115,
  0x10006500307001170006500308000eb000650030901ebb000650030c0011b000650030f00205000650031100207000650032301eb9,
  0x1000650032700229000650032800119000650032d01e19000650033001e1b000660030701e1f0006700301001f500067003020011d,
  0x1000670030401e2100067003060011f000670030700121000670030c001e7000670032700123000680030200125000680030701e23,
  0x1000680030801e27000680030c0021f000680032301e25000680032701e29000680032e01e2b000680033101e960006900300000ec,
  0x10006900301000ed0006900302000ee00069003030012900069003040012b00069003060012d0006900308000ef000690030901ec9,
  0x1000690030c001d0000690030f0020900069003110020b000690032301ecb00069003280012f000690033001e2d0006a0030200135,
  0x10006a0030c001f00006b0030101e310006b0030c001e90006b0032301e330006b00327001370006b0033101e350006c003010013a,
  0x10006c0030c0013e0006c0032301e370006c003270013c0006c0032d01e3d0006c0033101e3b0006d0030101e3f0006d0030701e41,
  0x10006d0032301e430006e00300001f90006e00301001440006e00303000f10006e0030701e450006e0030c001480006e0032301e47,
  0x10006e00327001460006e0032d01e4b0006e0033101e490006f00300000f20006f00301000f30006f00302000f40006f00303000f5,
  0x10006f003040014d0006f003060014f0006f003070022f0006f00308000f60006f0030901ecf0006f0030b001510006f0030c001d2,
  0x10006f0030f0020d0006f003110020f0006f0031b001a10006f0032301ecd0006f00328001eb000700030101e55000700030701e57,
  0x1000720030100155000720030701e59000720030c00159000720030f00211000720031100213000720032301e5b000720032700157,
  0x1000720033101e5f00073003010015b00073003020015d000730030701e61000730030c00161000730032301e63000730032600219,
  0x100073003270015f000740030701e6b000740030801e97000740030c00165000740032301e6d00074003260021b000740032700163,
  0x1000740032d01e71000740033101e6f0007500300000f90007500301000fa0007500302000fb00075003030016900075003040016b,
  0x100075003060016d0007500308000fc000750030901ee7000750030a0016f000750030b00171000750030c001d4000750030f00215,
  0x1000750031100217000750031b001b0000750032301ee5000750032401e73000750032800173000750032d01e77000750033001e75,
  0x1000760030301e7d000760032301e7f000770030001e81000770030101e83000770030200175000770030701e87000770030801e85,
  0x1000770030a01e98000770032301e89000780030701e8b000780030801e8d000790030001ef30007900301000fd000790030200177,
  0x1000790030301ef9000790030400233000790030701e8f0007900308000ff000790030901ef7000790030a01e99000790032301ef5,
  0x10007a003010017a0007a0030201e910007a003070017c0007a0030c0017e0007a0032301e930007a0033101e95000a80030001fed,
  0x1000a80030100385000a80034201fc1000c20030001ea6000c20030101ea4000c20030301eaa000c20030901ea8000c400304001de,
  0x1000c500301001fa000c600301001fc000c600304001e2000c70030101e08000ca0030001ec0000ca0030101ebe000ca0030301ec4,
  0x1000ca0030901ec2000cf0030101e2e000d40030001ed2000d40030101ed0000d40030301ed6000d40030901ed4000d50030101e4c,
  0x1000d5003040022c000d50030801e4e000d6003040022a000d800301001fe000dc00300001db000dc00301001d7000dc00304001d5,
  0x1000dc0030c001d9000e20030001ea7000e20030101ea5000e20030301eab000e20030901ea9000e400304001df000e500301001fb,
  0x1000e600301001fd000e600304001e3000e70030101e09000ea0030001ec1000ea0030101ebf000ea0030301ec5000ea0030901ec3,
  0x1000ef0030101e2f000f40030001ed3000f40030101ed1000f40030301ed7000f40030901ed5000f50030101e4d000f5003040022d,
  0x1000f50030801e4f000f6003040022b000f800301001ff000fc00300001dc000fc00301001d8000fc00304001d6000fc0030c001da,
  0x1001020030001eb0001020030101eae001020030301eb4001020030901eb2001030030001eb1001030030101eaf001030030301eb5,
  0x1001030030901eb3001120030001e14001120030101e16001130030001e15001130030101e170014c0030001e500014c0030101e52,
  0x10014d0030001e510014d0030101e530015a0030701e640015b0030701e65001600030701e66001610030701e67001680030101e78,
  0x1001690030101e790016a0030801e7a0016b0030801e7b0017f0030701e9b001a00030001edc001a00030101eda001a00030301ee0,
  0x1001a00030901ede001a00032301ee2001a10030001edd001a10030101edb001a10030301ee1001a10030901edf001a10032301ee3,
  0x1001af0030001eea001af0030101ee8001af0030301eee001af0030901eec001af0032301ef0001b00030001eeb001b00030101ee9,
  0x1001b00030301eef001b00030901eed001b00032301ef1001b70030c001ee001ea00304001ec001eb00304001ed0022600304001e0,
  0x10022700304001e1002280030601e1c002290030601e1d0022e00304002300022f0030400231002920030c001ef003910030001fba,
  0x1003910030100386003910030401fb9003910030601fb8003910031301f08003910031401f09003910034501fbc003950030001fc8,
  0x1003950030100388003950031301f18003950031401f19003970030001fca003970030100389003970031301f28003970031401f29,
  0x1003970034501fcc003990030001fda00399003010038a003990030401fd9003990030601fd80039900308003aa003990031301f38,
  0x1003990031401f390039f0030001ff80039f003010038c0039f0031301f480039f0031401f49003a10031401fec003a50030001fea,
  0x1003a5003010038e003a50030401fe9003a50030601fe8003a500308003ab003a50031401f59003a90030001ffa003a9003010038f,
  0x1003a90031301f68003a90031401f69003a90034501ffc003ac0034501fb4003ae0034501fc4003b10030001f70003b100301003ac,
  0x1003b10030401fb1003b10030601fb0003b10031301f00003b10031401f01003b10034201fb6003b10034501fb3003b50030001f72,
  0x1003b500301003ad003b50031301f10003b50031401f11003b70030001f74003b700301003ae003b70031301f20003b70031401f21,
  0x1003b70034201fc6003b70034501fc3003b90030001f76003b900301003af003b90030401fd1003b90030601fd0003b900308003ca,
  0x1003b90031301f30003b90031401f31003b90034201fd6003bf0030001f78003bf00301003cc003bf0031301f40003bf0031401f41,
  0x1003c10031301fe4003c10031401fe5003c50030001f7a003c500301003cd003c50030401fe1003c50030601fe0003c500308003cb,
  0x1003c50031301f50003c50031401f51003c50034201fe6003c90030001f7c003c900301003ce003c90031301f60003c90031401f61,
  0x1003c90034201ff6003c90034501ff3003ca0030001fd2003ca0030100390003ca0034201fd7003cb0030001fe2003cb00301003b0,
  0x1003cb0034201fe7003ce0034501ff4003d200301003d3003d200308003d40040600308004070041000306004d00041000308004d2,
  0x10041300301004030041500300004000041500306004d60041500308004010041600306004c10041600308004dc0041700308004de,
  0x100418003000040d0041800304004e20041800306004190041800308004e40041a003010040c0041e00308004e60042300304004ee,
  0x100423003060040e0042300308004f0004230030b004f20042700308004f40042b00308004f80042d00308004ec0043000306004d1,
  0x10043000308004d30043300301004530043500300004500043500306004d70043500308004510043600306004c20043600308004dd,
  0x10043700308004df00438003000045d0043800304004e30043800306004390043800308004e50043a003010045c0043e00308004e7,
  0x10044300304004ef00443003060045e0044300308004f1004430030b004f30044700308004f50044b00308004f90044d00308004ed,
  0x1004560030800457004740030f00476004750030f00477004d800308004da004d900308004db004e800308004ea004e900308004eb,
  0x10062700653006220062700654006230062700655006250064800654006240064a0065400626006c100654006c2006d200654006d3,
  0x1006d500654006c0009280093c00929009300093c00931009330093c00934009c7009be009cb009c7009d7009cc00b4700b3e00b4b,
  0x100b4700b5600b4800b4700b5700b4c00b9200bd700b9400bc600bbe00bca00bc600bd700bcc00bc700bbe00bcb00c4600c5600c48,
  0x100cbf00cd500cc000cc600cc200cca00cc600cd500cc700cc600cd600cc800cca00cd500ccb00d4600d3e00d4a00d4600d5700d4c,
  0x100d4700d3e00d4b00dd900dca00dda00dd900dcf00ddc00dd900ddf00dde00ddc00dca00ddd010250102e0102601b0501b3501b06,
  0x101b0701b3501b0801b0901b3501b0a01b0b01b3501b0c01b0d01b3501b0e01b1101b3501b1201b3a01b3501b3b01b3c01b3501b3d,
  0x101b3e01b3501b4001b3f01b3501b4101b4201b3501b4301e360030401e3801e370030401e3901e5a0030401e5c01e5b0030401e5d,
  0x101e620030701e6801e630030701e6901ea00030201eac01ea00030601eb601ea10030201ead01ea10030601eb701eb80030201ec6,
  0x101eb90030201ec701ecc0030201ed801ecd0030201ed901f000030001f0201f000030101f0401f000034201f0601f000034501f80,
  0x101f010030001f0301f010030101f0501f010034201f0701f010034501f8101f020034501f8201f030034501f8301f040034501f84,
  0x101f050034501f8501f060034501f8601f070034501f8701f080030001f0a01f080030101f0c01f080034201f0e01f080034501f88,
  0x101f090030001f0b01f090030101f0d01f090034201f0f01f090034501f8901f0a0034501f8a01f0b0034501f8b01f0c0034501f8c,
  0x101f0d0034501f8d01f0e0034501f8e01f0f0034501f8f01f100030001f1201f100030101f1401f110030001f1301f110030101f15,
  0x101f180030001f1a01f180030101f1c01f190030001f1b01f190030101f1d01f200030001f2201f200030101f2401f200034201f26,
  0x101f200034501f9001f210030001f2301f210030101f2501f210034201f2701f210034501f9101f220034501f9201f230034501f93,
  0x101f240034501f9401f250034501f9501f260034501f9601f270034501f9701f280030001f2a01f280030101f2c01f280034201f2e,
  0x101f280034501f9801f290030001f2b01f290030101f2d01f290034201f2f01f290034501f9901f2a0034501f9a01f2b0034501f9b,
  0x101f2c0034501f9c01f2d0034501f9d01f2e0034501f9e01f2f0034501f9f01f300030001f3201f300030101f3401f300034201f36,
  0x101f310030001f3301f310030101f3501f310034201f3701f380030001f3a01f380030101f3c01f380034201f3e01f390030001f3b,
  0x101f390030101f3d01f390034201f3f01f400030001f4201f400030101f4401f410030001f4301f410030101f4501f480030001f4a,
  0x101f480030101f4c01f490030001f4b01f490030101f4d01f500030001f5201f500030101f5401f500034201f5601f510030001f53,
  0x101f510030101f5501f510034201f5701f590030001f5b01f590030101f5d01f590034201f5f01f600030001f6201f600030101f64,
  0x101f600034201f6601f600034501fa001f610030001f6301f610030101f6501f610034201f6701f610034501fa101f620034501fa2,
  0x101f630034501fa301f640034501fa401f650034501fa501f660034501fa601f670034501fa701f680030001f6a01f680030101f6c,
  0x101f680034201f6e01f680034501fa801f690030001f6b01f690030101f6d01f690034201f6f01f690034501fa901f6a0034501faa,
  0x101f6b0034501fab01f6c0034501fac01f6d0034501fad01f6e0034501fae01f6f0034501faf01f700034501fb201f740034501fc2,
  0x101f7c0034501ff201fb60034501fb701fbf0030001fcd01fbf0030101fce01fbf0034201fcf01fc60034501fc701ff60034501ff7,
  0x101ffe0030001fdd01ffe0030101fde01ffe0034201fdf02190003380219a02192003380219b0219400338021ae021d000338021cd,
  0x1021d200338021cf021d400338021ce0220300338022040220800338022090220b003380220c022230033802224022250033802226,
  0x10223c00338022410224300338022440224500338022470224800338022490224d003380226d022610033802262022640033802270,
  0x10226500338022710227200338022740227300338022750227600338022780227700338022790227a00338022800227b0033802281,
  0x10227c00338022e00227d00338022e10228200338022840228300338022850228600338022880228700338022890229100338022e2,
  0x10229200338022e3022a200338022ac022a800338022ad022a900338022ae022ab00338022af022b200338022ea022b300338022eb,
  0x1022b400338022ec022b500338022ed0304603099030940304b030990304c0304d030990304e0304f0309903050030510309903052,
  0x103053030990305403055030990305603057030990305803059030990305a0305b030990305c0305d030990305e0305f0309903060,
  0x10306103099030620306403099030650306603099030670306803099030690306f03099030700306f0309a03071030720309903073,
  0x1030720309a03074030750309903076030750309a03077030780309903079030780309a0307a0307b030990307c0307b0309a0307d,
  0x10309d030990309e030a603099030f4030ab03099030ac030ad03099030ae030af03099030b0030b103099030b2030b303099030b4,
  0x1030b503099030b6030b703099030b8030b903099030ba030bb03099030bc030bd03099030be030bf03099030c0030c103099030c2,
  0x1030c403099030c5030c603099030c7030c803099030c9030cf03099030d0030cf0309a030d1030d203099030d3030d20309a030d4,
  0x1030d503099030d6030d50309a030d7030d803099030d9030d80309a030da030db03099030dc030db0309a030dd030ef03099030f7,
  0x1030f003099030f8030f103099030f9030f203099030fa030fd03099030fe11099110ba1109a1109b110ba1109c110a5110ba110ab,
  0x111131111271112e11132111271112f113471133e1134b11347113571134c114b9114b0114bc114b9114ba114bb114b9114bd114be,
  0x1115b8115af115ba115b9115af115bb119351193011938]

def singleImage? : List Nat → Nat → Option Nat
  | lo :: hi :: image :: rest, n => if lo ≤ n ∧ n ≤ hi then some (image + (n - lo)) else singleImage? rest n
  | _, _ => none

/-- Walks a table of length-prefixed entries; the bound is its number of words. -/
def longImage? : Nat → List Nat → Nat → Option (List Nat)
  | bound + 1, c :: len :: rest, n =>
    if c = n then some (rest.take len) else longImage? bound (rest.drop len) n
  | _, _, _ => none

def classIn : List Nat → Nat → Nat
  | lo :: hi :: k :: rest, n => if lo ≤ n ∧ n ≤ hi then k else classIn rest n
  | _, _ => 0

def composite? : List Nat → Nat → Nat → Option Nat
  | a :: b :: c :: rest, x, y => if a = x ∧ b = y then some c else composite? rest x y
  | _, _, _ => none

/-- A Hangul syllable is a leading consonant, a vowel and perhaps a trailing consonant. -/
def decomposeHangul? (n : Nat) : Option (List Nat) :=
  if 0xac00 ≤ n ∧ n ≤ 0xd7a3 then
    let s := n - 0xac00
    let t := s % 28
    some ([0x1100 + s / 588, 0x1161 + s % 588 / 28] ++ (if t = 0 then [] else [0x11a7 + t]))
  else none

def composeHangul? (a b : Nat) : Option Nat :=
  if 0x1100 ≤ a ∧ a ≤ 0x1112 ∧ 0x1161 ≤ b ∧ b ≤ 0x1175 then
    some (0xac00 + ((a - 0x1100) * 21 + (b - 0x1161)) * 28)
  else if 0xac00 ≤ a ∧ a ≤ 0xd7a3 ∧ (a - 0xac00) % 28 = 0 ∧ 0x11a7 < b ∧ b ≤ 0x11c2 then
    some (a + (b - 0x11a7))
  else none

def decompose (n : Nat) : List Nat :=
  if n < 128 then [n]
  else match decomposeHangul? n with
    | some ds => ds
    | none => match singleImage? singleDecompositions n with
      | some m => [m]
      | none => (longImage? longDecompositions.length longDecompositions n).getD [n]

def combiningClass (n : Nat) : Nat := if n < 0x300 then 0 else classIn combiningClasses n

/-- Puts a mark behind the marks of no higher class at the end of a text read backwards. -/
def insertMark (k n : Nat) : List (Nat × Nat) → List (Nat × Nat)
  | [] => [(k, n)]
  | (k', n') :: rest => if k < k' then (k', n') :: insertMark k n rest else (k, n) :: (k', n') :: rest

/-- Canonical order: each run of marks sorted by class, equal classes in their order. -/
def reorder (ns : List Nat) : List (Nat × Nat) :=
  (ns.foldl (fun acc n =>
    let k := combiningClass n
    if k = 0 then (0, n) :: acc else insertMark k n acc) []).reverse

def compose? (a b : Nat) : Option Nat := (composeHangul? a b).orElse fun _ => composite? compositions a b

/-- A text being composed: what is finished, backwards; the last starter; the marks that stayed behind it, backwards,
and the class of the last of them. -/
structure Composing where
  done : List Nat := []
  starter : Option Nat := none
  marks : List Nat := []
  last : Nat := 0

namespace Composing

def flush (s : Composing) : List Nat := s.marks ++ s.starter.toList ++ s.done

/-- A character joins the starter unless a mark of no lower class stands between. -/
def push (s : Composing) (k n : Nat) : Composing :=
  let joined := if s.marks.isEmpty || s.last < k then s.starter.bind (compose? · n) else none
  match joined with
  | some c => { s with starter := some c }
  | none => if k = 0 then { done := s.flush, starter := some n } else { s with marks := n :: s.marks, last := k }

end Composing

def compatibilityForm (cs : List Char) : List Char :=
  if cs.all fun c => c.toNat < 128 then cs
  else
    let marked := reorder (cs.flatMap fun c => decompose c.toNat)
    ((marked.foldl (fun s p => s.push p.1 p.2) ({} : Composing)).flush.reverse).map Char.ofNat

end DocReview.Text
