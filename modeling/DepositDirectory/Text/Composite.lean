import DepositDirectory.Text.Image

/-!
# Composite characters

A letter with a mark on it is one character or two.  Some characters are other spellings of another
one, and some letters with marks are spelled with two characters only, though there is one for both.
The syllables of Hangul follow from the numbers of their letters.
-/

namespace DepositDirectory.Text

/-- Letters that take a mark, and the characters that they become with it, in the same order. -/
structure Marking where
  mark : Nat
  bases : String
  wholes : String

def markings : List Marking :=
  [⟨0x300, "AEIOUaeiouÜüNnЕИеиĒēŌōWwÂâĂăÊêÔôƠơƯưYy", "ÀÈÌÒÙàèìòùǛǜǸǹЀЍѐѝḔḕṐṑẀẁẦầẰằỀềỒồỜờỪừỲỳ"⟩,
   ⟨0x300, "ἀἁἈἉἐἑἘἙἠἡἨἩἰἱἸἹὀὁὈὉὐὑὙὠὡὨὩαεηιουωΑΕΗ᾿", "ἂἃἊἋἒἓἚἛἢἣἪἫἲἳἺἻὂὃὊὋὒὓὛὢὣὪὫὰὲὴὶὸὺὼᾺῈῊ῍"⟩,
   ⟨0x300, "ϊΙ῾ϋΥ¨ΟΩ", "ῒῚ῝ῢῪ῭ῸῺ"⟩,
   ⟨0x301, "AEIOUYaeiouyCcLlNnRrSsZzÜüGgÅåÆæØø¨ΑΕΗ", "ÁÉÍÓÚÝáéíóúýĆćĹĺŃńŔŕŚśŹźǗǘǴǵǺǻǼǽǾǿ΅ΆΈΉ"⟩,
   ⟨0x301, "ΙΟΥΩϊαεηιϋουωϒГКгкÇçĒēÏïKkMmÕõŌōPpŨũWw", "ΊΌΎΏΐάέήίΰόύώϓЃЌѓќḈḉḖḗḮḯḰḱḾḿṌṍṒṓṔṕṸṹẂẃ"⟩,
   ⟨0x301, "ÂâĂăÊêÔôƠơƯưἀἁἈἉἐἑἘἙἠἡἨἩἰἱἸἹὀὁὈὉὐὑὙὠὡὨ", "ẤấẮắẾếỐốỚớỨứἄἅἌἍἔἕἜἝἤἥἬἭἴἵἼἽὄὅὌὍὔὕὝὤὥὬ"⟩,
   ⟨0x301, "Ὡ᾿῾", "Ὥ῎῞"⟩,
   ⟨0x302, "AEIOUaeiouCcGgHhJjSsWwYyZzẠạẸẹỌọ", "ÂÊÎÔÛâêîôûĈĉĜĝĤĥĴĵŜŝŴŵŶŷẐẑẬậỆệỘộ"⟩,
   ⟨0x303, "ANOanoIiUuVvÂâĂăEeÊêÔôƠơƯưYy", "ÃÑÕãñõĨĩŨũṼṽẪẫẴẵẼẽỄễỖỗỠỡỮữỸỹ"⟩,
   ⟨0x304, "AaEeIiOoUuÜüÄäȦȧÆæǪǫÖöÕõȮȯYyИиУуGgḶḷṚṛ", "ĀāĒēĪīŌōŪūǕǖǞǟǠǡǢǣǬǭȪȫȬȭȰȱȲȳӢӣӮӯḠḡḸḹṜṝ"⟩,
   ⟨0x304, "αΑιΙυΥ", "ᾱᾹῑῙῡῩ"⟩,
   ⟨0x306, "AaEeGgIiOoUuУИиуЖжАаЕеȨȩẠạαΑιΙυΥ", "ĂăĔĕĞğĬĭŎŏŬŭЎЙйўӁӂӐӑӖӗḜḝẶặᾰᾸῐῘῠῨ"⟩,
   ⟨0x307, "CcEeGgIZzAaOoBbDdFfHhMmNnPpRrSsŚśŠšṢṣT", "ĊċĖėĠġİŻżȦȧȮȯḂḃḊḋḞḟḢḣṀṁṄṅṖṗṘṙṠṡṤṥṦṧṨṩṪ"⟩,
   ⟨0x307, "tWwXxYyſ𐗒𐗚", "ṫẆẇẊẋẎẏẛ𐗉𐗤"⟩,
   ⟨0x308, "AEIOUaeiouyYΙΥιυϒЕІеіАаӘәЖжЗзИиОоӨөЭэУ", "ÄËÏÖÜäëïöüÿŸΪΫϊϋϔЁЇёїӒӓӚӛӜӝӞӟӤӥӦӧӪӫӬӭӰ"⟩,
   ⟨0x308, "уЧчЫыHhÕõŪūWwXxt", "ӱӴӵӸӹḦḧṎṏṺṻẄẅẌẍẗ"⟩,
   ⟨0x309, "AaÂâĂăEeÊêIiOoÔôƠơUuƯưYy", "ẢảẨẩẲẳẺẻỂểỈỉỎỏỔổỞởỦủỬửỶỷ"⟩, ⟨0x30A, "AaUuwy", "ÅåŮůẘẙ"⟩,
   ⟨0x30B, "OoUuУу", "ŐőŰűӲӳ"⟩,
   ⟨0x30C, "CcDdEeLlNnRrSsTtZzAaIiOoUuÜüGgKkƷʒjHh", "ČčĎďĚěĽľŇňŘřŠšŤťŽžǍǎǏǐǑǒǓǔǙǚǦǧǨǩǮǯǰȞȟ"⟩,
   ⟨0x30F, "AaEeIiOoRrUuѴѵ", "ȀȁȄȅȈȉȌȍȐȑȔȕѶѷ"⟩, ⟨0x311, "AaEeIiOoRrUu", "ȂȃȆȇȊȋȎȏȒȓȖȗ"⟩,
   ⟨0x313, "αΑεΕηΗιΙοΟυωΩρ", "ἀἈἐἘἠἨἰἸὀὈὐὠὨῤ"⟩, ⟨0x314, "αΑεΕηΗιΙοΟυΥωΩρΡ", "ἁἉἑἙἡἩἱἹὁὉὑὙὡὩῥῬ"⟩,
   ⟨0x31B, "OoUu", "ƠơƯư"⟩,
   ⟨0x323, "BbDdHhKkLlMmNnRrSsTtVvWwZzAaEeIiOoƠơUu", "ḄḅḌḍḤḥḲḳḶḷṂṃṆṇṚṛṢṣṬṭṾṿẈẉẒẓẠạẸẹỊịỌọỢợỤụ"⟩,
   ⟨0x323, "ƯưYy", "ỰựỴỵ"⟩, ⟨0x324, "Uu", "Ṳṳ"⟩, ⟨0x325, "Aa", "Ḁḁ"⟩, ⟨0x326, "SsTt", "ȘșȚț"⟩,
   ⟨0x327, "CcGgKkLlNnRrSsTtEeDdHh", "ÇçĢģĶķĻļŅņŖŗŞşŢţȨȩḐḑḨḩ"⟩, ⟨0x328, "AaEeIiUuOo", "ĄąĘęĮįŲųǪǫ"⟩,
   ⟨0x32D, "DdEeLlNnTtUu", "ḒḓḘḙḼḽṊṋṰṱṶṷ"⟩, ⟨0x32E, "Hh", "Ḫḫ"⟩, ⟨0x330, "EeIiUu", "ḚḛḬḭṴṵ"⟩,
   ⟨0x331, "BbDdKkLlNnRrTtZzh", "ḆḇḎḏḴḵḺḻṈṉṞṟṮṯẔẕẖ"⟩,
   ⟨0x338, "←→↔⇐⇔⇒∃∈∋∣∥∼≃≅≈=≡≍<>≤≥≲≳≶≷≺≻⊂⊃⊆⊇⊢⊨⊩⊫≼≽", "↚↛↮⇍⇎⇏∄∉∌∤∦≁≄≇≉≠≢≭≮≯≰≱≴≵≸≹⊀⊁⊄⊅⊈⊉⊬⊭⊮⊯⋠⋡"⟩,
   ⟨0x338, "⊑⊒⊲⊳⊴⊵", "⋢⋣⋪⋫⋬⋭"⟩,
   ⟨0x342, "ἀἁἈἉἠἡἨἩἰἱἸἹὐὑὙὠὡὨὩα¨η᾿ιϊ῾υϋω", "ἆἇἎἏἦἧἮἯἶἷἾἿὖὗὟὦὧὮὯᾶ῁ῆ῏ῖῗ῟ῦῧῶ"⟩,
   ⟨0x345, "ἀἁἂἃἄἅἆἇἈἉἊἋἌἍἎἏἠἡἢἣἤἥἦἧἨἩἪἫἬἭἮἯὠὡὢὣὤὥ", "ᾀᾁᾂᾃᾄᾅᾆᾇᾈᾉᾊᾋᾌᾍᾎᾏᾐᾑᾒᾓᾔᾕᾖᾗᾘᾙᾚᾛᾜᾝᾞᾟᾠᾡᾢᾣᾤᾥ"⟩,
   ⟨0x345, "ὦὧὨὩὪὫὬὭὮὯὰαάᾶΑὴηήῆΗὼωώῶΩ", "ᾦᾧᾨᾩᾪᾫᾬᾭᾮᾯᾲᾳᾴᾷᾼῂῃῄῇῌῲῳῴῷῼ"⟩, ⟨0x653, "ا", "آ"⟩,
   ⟨0x654, "اويەہے", "أؤئۀۂۓ"⟩, ⟨0x655, "ا", "إ"⟩, ⟨0x93C, "नरळ", "ऩऱऴ"⟩, ⟨0x9BE, "ে", "ো"⟩,
   ⟨0x9D7, "ে", "ৌ"⟩, ⟨0xB3E, "େ", "ୋ"⟩, ⟨0xB56, "େ", "ୈ"⟩, ⟨0xB57, "େ", "ୌ"⟩, ⟨0xBBE, "ெே", "ொோ"⟩,
   ⟨0xBD7, "ஒெ", "ஔௌ"⟩, ⟨0xC56, "ె", "ై"⟩, ⟨0xCC2, "ೆ", "ೊ"⟩, ⟨0xCD5, "ಿೆೊ", "ೀೇೋ"⟩,
   ⟨0xCD6, "ೆ", "ೈ"⟩, ⟨0xD3E, "െേ", "ൊോ"⟩, ⟨0xD57, "െ", "ൌ"⟩, ⟨0xDCA, "ෙො", "ේෝ"⟩,
   ⟨0xDCF, "ෙ", "ො"⟩, ⟨0xDDF, "ෙ", "ෞ"⟩, ⟨0x102E, "ဥ", "ဦ"⟩, ⟨0x1B35, "ᬅᬇᬉᬋᬍᬑᬺᬼᬾᬿᭂ", "ᬆᬈᬊᬌᬎᬒᬻᬽᭀᭁᭃ"⟩,
   ⟨0x3099, "かきくけこさしすせそたちつてとはひふへほうゝカキクケコサシスセソタチツテトハ", "がぎぐげござじずぜぞだぢづでどばびぶべぼゔゞガギグゲゴザジズゼゾダヂヅデドバ"⟩,
   ⟨0x3099, "ヒフヘホウワヰヱヲヽ", "ビブベボヴヷヸヹヺヾ"⟩, ⟨0x309A, "はひふへほハヒフヘホ", "ぱぴぷぺぽパピプペポ"⟩,
   ⟨0x110BA, "𑂙𑂛𑂥", "𑂚𑂜𑂫"⟩, ⟨0x11127, "𑄱𑄲", "𑄮𑄯"⟩, ⟨0x1133E, "𑍇", "𑍋"⟩,
   ⟨0x11357, "𑍇", "𑍌"⟩, ⟨0x113B8, "𑏂", "𑏇"⟩, ⟨0x113BB, "𑎄", "𑎅"⟩, ⟨0x113C2, "𑎎", "𑎎𑏅"⟩,
   ⟨0x113C9, "𑎂𑎐𑏂", "𑎃𑎑𑏈"⟩, ⟨0x114B0, "𑒹", "𑒼"⟩, ⟨0x114BA, "𑒹", "𑒻"⟩,
   ⟨0x114BD, "𑒹", "𑒾"⟩, ⟨0x115AF, "𑖸𑖹", "𑖺𑖻"⟩, ⟨0x11930, "𑤵", "𑤸"⟩, ⟨0x1611E, "𖄞", "𖄡"⟩,
   ⟨0x1611F, "𖄢𖄡𖄢", "𖄣𖄤𖄦𖄧"⟩, ⟨0x16120, "𖄡𖄞", "𖄥𖄨"⟩, ⟨0x16129, "𖄞", "𖄢"⟩,
   ⟨0x16D67, "𖵧𖵣𖵩", "𖵨𖵩𖵪"⟩]

def looseMarkings : List Marking :=
  [⟨0x301, "̈", "̈́"⟩, ⟨0x338, "⫝", "⫝̸"⟩, ⟨0x5B4, "י", "יִ"⟩, ⟨0x5B7, "ײא", "ײַאַ"⟩, ⟨0x5B8, "א", "אָ"⟩,
   ⟨0x5B9, "ו", "וֹ"⟩, ⟨0x5BC, "אבגדהוזטיךכלמנסףפצקרשת", "אּבּגּדּהּוּזּטּיּךּכּלּמּנּסּףּפּצּקּרּשּתּ"⟩,
   ⟨0x5BF, "בכפ", "בֿכֿפֿ"⟩, ⟨0x5C1, "ששּ", "שׁשּׁ"⟩, ⟨0x5C2, "ששּ", "שׂשּׂ"⟩, ⟨0x93C, "कखगजडढफय", "क़ख़ग़ज़ड़ढ़फ़य़"⟩,
   ⟨0x9BC, "ডঢয", "ড়ঢ়য়"⟩, ⟨0xA3C, "ਲਸਖਗਜਫ", "ਲ਼ਸ਼ਖ਼ਗ਼ਜ਼ਫ਼"⟩, ⟨0xB3C, "ଡଢ", "ଡ଼ଢ଼"⟩, ⟨0xF72, "ཱ", "ཱི"⟩,
   ⟨0xF74, "ཱ", "ཱུ"⟩, ⟨0xF80, "ྲླཱ", "ྲྀླཱྀྀ"⟩, ⟨0xFB5, "ཀྐ", "ཀྵྐྵ"⟩,
   ⟨0xFB7, "གཌདབཛྒྜྡྦྫ", "གྷཌྷདྷབྷཛྷྒྷྜྷྡྷྦྷྫྷ"⟩, ⟨0x1D165, "𝅗𝅘𝆹𝆺", "𝅗𝅥𝅘𝅥𝆹𝅥𝆺𝅥"⟩,
   ⟨0x1D16E, "𝅘𝅥𝆹𝅥𝆺𝅥", "𝅘𝅥𝅮𝆹𝅥𝅮𝆺𝅥𝅮"⟩, ⟨0x1D16F, "𝅘𝅥𝆹𝅥𝆺𝅥", "𝅘𝅥𝅯𝆹𝅥𝅯𝆺𝅥𝅯"⟩, ⟨0x1D170, "𝅘𝅥", "𝅘𝅥𝅰"⟩,
   ⟨0x1D171, "𝅘𝅥", "𝅘𝅥𝅱"⟩, ⟨0x1D172, "𝅘𝅥", "𝅘𝅥𝅲"⟩]

def respellings : List Images :=
  [⟨0x340, "̀ ́"⟩, ⟨0x343, "̓"⟩, ⟨0x374, "ʹ"⟩, ⟨0x37E, ";"⟩, ⟨0x387, "·"⟩, ⟨0x1F71, "ά"⟩,
   ⟨0x1F73, "έ"⟩, ⟨0x1F75, "ή"⟩, ⟨0x1F77, "ί"⟩, ⟨0x1F79, "ό"⟩, ⟨0x1F7B, "ύ"⟩, ⟨0x1F7D, "ώ"⟩,
   ⟨0x1FBB, "Ά"⟩, ⟨0x1FBE, "ι"⟩, ⟨0x1FC9, "Έ"⟩, ⟨0x1FCB, "Ή"⟩, ⟨0x1FD3, "ΐ"⟩, ⟨0x1FDB, "Ί"⟩,
   ⟨0x1FE3, "ΰ"⟩, ⟨0x1FEB, "Ύ"⟩, ⟨0x1FEE, "΅ \x60"⟩, ⟨0x1FF9, "Ό"⟩, ⟨0x1FFB, "Ώ"⟩, ⟨0x1FFD, "´"⟩,
   ⟨0x2000, "   "⟩, ⟨0x2126, "Ω"⟩, ⟨0x212A, "K Å"⟩, ⟨0x2329, "〈 〉"⟩,
   ⟨0xF900, "豈 更 車 賈 滑 串 句 龜 龜 契 金 喇 奈 懶 癩 羅 蘿 螺 裸 邏 樂 洛 烙 珞 落 酪 駱 亂 卵 欄 爛 蘭 鸞 嵐 濫 藍 襤 拉"⟩,
   ⟨0xF926, "臘 蠟 廊 朗 浪 狼 郎 來 冷 勞 擄 櫓 爐 盧 老 蘆 虜 路 露 魯 鷺 碌 祿 綠 菉 錄 鹿 論 壟 弄 籠 聾 牢 磊 賂 雷 壘 屢"⟩,
   ⟨0xF94C, "樓 淚 漏 累 縷 陋 勒 肋 凜 凌 稜 綾 菱 陵 讀 拏 樂 諾 丹 寧 怒 率 異 北 磻 便 復 不 泌 數 索 參 塞 省 葉 說 殺 辰"⟩,
   ⟨0xF972, "沈 拾 若 掠 略 亮 兩 凉 梁 糧 良 諒 量 勵 呂 女 廬 旅 濾 礪 閭 驪 麗 黎 力 曆 歷 轢 年 憐 戀 撚 漣 煉 璉 秊 練 聯"⟩,
   ⟨0xF998, "輦 蓮 連 鍊 列 劣 咽 烈 裂 說 廉 念 捻 殮 簾 獵 令 囹 寧 嶺 怜 玲 瑩 羚 聆 鈴 零 靈 領 例 禮 醴 隸 惡 了 僚 寮 尿"⟩,
   ⟨0xF9BE, "料 樂 燎 療 蓼 遼 龍 暈 阮 劉 杻 柳 流 溜 琉 留 硫 紐 類 六 戮 陸 倫 崙 淪 輪 律 慄 栗 率 隆 利 吏 履 易 李 梨 泥"⟩,
   ⟨0xF9E4, "理 痢 罹 裏 裡 里 離 匿 溺 吝 燐 璘 藺 隣 鱗 麟 林 淋 臨 立 笠 粒 狀 炙 識 什 茶 刺 切 度 拓 糖 宅 洞 暴 輻 行 降"⟩,
   ⟨0xFA0A, "見 廓 兀 嗀"⟩, ⟨0xFA10, "塚"⟩, ⟨0xFA12, "晴"⟩, ⟨0xFA15, "凞 猪 益 礼 神 祥 福 靖 精 羽"⟩,
   ⟨0xFA20, "蘒"⟩, ⟨0xFA22, "諸"⟩, ⟨0xFA25, "逸 都"⟩,
   ⟨0xFA2A, "飯 飼 館 鶴 郞 隷 侮 僧 免 勉 勤 卑 喝 嘆 器 塀 墨 層 屮 悔 慨 憎 懲 敏 既 暑 梅 海 渚 漢 煮 爫 琢 碑 社 祉 祈 祐"⟩,
   ⟨0xFA50, "祖 祝 禍 禎 穀 突 節 練 縉 繁 署 者 臭 艹 艹 著 褐 視 謁 謹 賓 贈 辶 逸 難 響 頻 恵 𤋮 舘"⟩,
   ⟨0xFA70, "並 况 全 侀 充 冀 勇 勺 喝 啕 喙 嗢 塚 墳 奄 奔 婢 嬨 廒 廙 彩 徭 惘 慎 愈 憎 慠 懲 戴 揄 搜 摒 敖 晴 朗 望 杖 歹"⟩,
   ⟨0xFA96, "殺 流 滛 滋 漢 瀞 煮 瞧 爵 犯 猪 瑱 甆 画 瘝 瘟 益 盛 直 睊 着 磌 窱 節 类 絛 練 缾 者 荒 華 蝹 襁 覆 視 調 諸 請"⟩,
   ⟨0xFABC, "謁 諾 諭 謹 變 贈 輸 遲 醙 鉶 陼 難 靖 韛 響 頋 頻 鬒 龜 𢡊 𢡄 𣏕 㮝 䀘 䀹 𥉉 𥳐 𧻓 齃 龎"⟩,
   ⟨0x2F800, "丽 丸 乁 𠄢 你 侮 侻 倂 偺 備 僧 像 㒞 𠘺 免 兔 兤 具 𠔜 㒹 內 再 𠕋 冗 冤 仌 冬 况 𩇟 凵 刃 㓟 刻 剆 割 剷 㔕 勇"⟩,
   ⟨0x2F826, "勉 勤 勺 包 匆 北 卉 卑 博 即 卽 卿 卿 卿 𠨬 灰 及 叟 𠭣 叫 叱 吆 咞 吸 呈 周 咢 哶 唐 啓 啣 善 善 喙 喫 喳 嗂 圖"⟩,
   ⟨0x2F84C, "嘆 圗 噑 噴 切 壮 城 埴 堍 型 堲 報 墬 𡓤 売 壷 夆 多 夢 奢 𡚨 𡛪 姬 娛 娧 姘 婦 㛮 㛼 嬈 嬾 嬾 𡧈 寃 寘 寧 寳 𡬘"⟩,
   ⟨0x2F872, "寿 将 当 尢 㞁 屠 屮 峀 岍 𡷤 嵃 𡷦 嵮 嵫 嵼 巡 巢 㠯 巽 帨 帽 幩 㡢 𢆃 㡼 庰 庳 庶 廊 𪎒 廾 𢌱 𢌱 舁 弢 弢 㣇 𣊸"⟩,
   ⟨0x2F898, "𦇚 形 彫 㣣 徚 忍 志 忹 悁 㤺 㤜 悔 𢛔 惇 慈 慌 慎 慌 慺 憎 憲 憤 憯 懞 懲 懶 成 戛 扝 抱 拔 捐 𢬌 挽 拼 捨 掃 揤"⟩,
   ⟨0x2F8BE, "𢯱 搢 揅 掩 㨮 摩 摾 撝 摷 㩬 敏 敬 𣀊 旣 書 晉 㬙 暑 㬈 㫤 冒 冕 最 暜 肭 䏙 朗 望 朡 杞 杓 𣏃 㭉 柺 枅 桒 梅 𣑭"⟩,
   ⟨0x2F8E4, "梎 栟 椔 㮝 楂 榣 槪 檨 𣚣 櫛 㰘 次 𣢧 歔 㱎 歲 殟 殺 殻 𣪍 𡴋 𣫺 汎 𣲼 沿 泍 汧 洖 派 海 流 浩 浸 涅 𣴞 洴 港 湮"⟩,
   ⟨0x2F90A, "㴳 滋 滇 𣻑 淹 潮 𣽞 𣾎 濆 瀹 瀞 瀛 㶖 灊 災 灷 炭 𠔥 煅 𤉣 熜 𤎫 爨 爵 牐 𤘈 犀 犕 𤜵 𤠔 獺 王 㺬 玥 㺸 㺸 瑇 瑜"⟩,
   ⟨0x2F930, "瑱 璅 瓊 㼛 甤 𤰶 甾 𤲒 異 𢆟 瘐 𤾡 𤾸 𥁄 㿼 䀈 直 𥃳 𥃲 𥄙 𥄳 眞 真 真 睊 䀹 瞋 䁆 䂖 𥐝 硎 碌 磌 䃣 𥘦 祖 𥚚 𥛅"⟩,
   ⟨0x2F956, "福 秫 䄯 穀 穊 穏 𥥼 𥪧 𥪧 竮 䈂 𥮫 篆 築 䈧 𥲀 糒 䊠 糨 糣 紀 𥾆 絣 䌁 緇 縂 繅 䌴 𦈨 𦉇 䍙 𦋙 罺 𦌾 羕 翺 者 𦓚"⟩,
   ⟨0x2F97C, "𦔣 聠 𦖨 聰 𣍟 䏕 育 脃 䐋 脾 媵 𦞧 𦞵 𣎓 𣎜 舁 舄 辞 䑫 芑 芋 芝 劳 花 芳 芽 苦 𦬼 若 茝 荣 莭 茣 莽 菧 著 荓 菊"⟩,
   ⟨0x2F9A2, "菌 菜 𦰶 𦵫 𦳕 䔫 蓱 蓳 蔖 𧏊 蕤 𦼬 䕝 䕡 𦾱 𧃒 䕫 虐 虜 虧 虩 蚩 蚈 蜎 蛢 蝹 蜨 蝫 螆 䗗 蟡 蠁 䗹 衠 衣 𧙧 裗 裞"⟩,
   ⟨0x2F9C8, "䘵 裺 㒻 𧢮 𧥦 䚾 䛇 誠 諭 變 豕 𧲨 貫 賁 贛 起 𧼯 𠠄 跋 趼 跰 𠣞 軔 輸 𨗒 𨗭 邔 郱 鄑 𨜮 鄛 鈸 鋗 鋘 鉼 鏹 鐕 𨯺"⟩,
   ⟨0x2F9EE, "開 䦕 閷 𨵷 䧦 雃 嶲 霣 𩅅 𩈚 䩮 䩶 韠 𩐊 䪲 𩒖 頋 頋 頩 𩖶 飢 䬳 餩 馧 駂 駾 䯎 𩬰 鬒 鱀 鳽 䳎 䳭 鵧 𪃎 䳸 𪄅 𪈎"⟩,
   ⟨0x2FA14, "𪊑 麻 䵖 黹 黾 鼅 鼏 鼖 鼻 𪘀"⟩]

/-! ## Hangul -/

/-- The parts of a syllable of Hangul: two letters, and a third where there is one. -/
def syllableParts? (c : Char) : Option (List Char) :=
  let index := c.toNat - 0xAC00
  if 0xAC00 ≤ c.toNat ∧ c.toNat ≤ 0xD7A3 then
    let leading := Char.ofNat (0x1100 + index / 588)
    let vowel := Char.ofNat (0x1161 + index % 588 / 28)
    let trailing := if index % 28 = 0 then [] else [Char.ofNat (0x11A7 + index % 28)]
    some (leading :: vowel :: trailing)
  else none

/-- A syllable of Hangul from a first letter and a vowel, or from such a syllable and a third. -/
def syllable? (first second : Char) : Option Char :=
  let a := first.toNat
  let b := second.toNat
  if 0x1100 ≤ a ∧ a ≤ 0x1112 ∧ 0x1161 ≤ b ∧ b ≤ 0x1175 then
    some (Char.ofNat (0xAC00 + ((a - 0x1100) * 21 + (b - 0x1161)) * 28))
  else if 0xAC00 ≤ a ∧ a ≤ 0xD7A3 ∧ (a - 0xAC00) % 28 = 0 ∧ 0x11A8 ≤ b ∧ b ≤ 0x11C2 then
    some (Char.ofNat (a + (b - 0x11A7)))
  else none

/-! ## Letters with marks -/

def Marking.parts? (marking : Marking) (c : Char) : Option (Char × Char) := do
  let index ← marking.wholes.toList.idxOf? c
  let base ← marking.bases.toList[index]?
  some (base, Char.ofNat marking.mark)

def Marking.whole? (marking : Marking) (base : Char) : Option Char := do
  let index ← marking.bases.toList.idxOf? base
  marking.wholes.toList[index]?

def takeMarks (count : Nat) (c : Char) (marks : List Char) : List Char :=
  match count with
  | 0 => c :: marks
  | count + 1 =>
      match (markings ++ looseMarkings).findSome? (·.parts? c) with
      | some (base, mark) => takeMarks count base (mark :: marks)
      | none => c :: marks

/-- The characters that a character is made of; no letter has more than three marks. -/
def parts (c : Char) : List Char :=
  match syllableParts? c with
  | some letters => letters
  | none =>
      match imageIn? respellings c with
      | some image => image.flatMap fun c => takeMarks 3 c []
      | none => takeMarks 3 c []

def whole? (first second : Char) : Option Char :=
  (syllable? first second).or
    ((markings.filter (·.mark = second.toNat)).findSome? (·.whole? first))

end DepositDirectory.Text
