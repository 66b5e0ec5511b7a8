import DepositDirectory.Text.CaseSpan
import DepositDirectory.Text.Image
import DepositDirectory.Text.Range
import DepositDirectory.Text.Unassigned
import DepositDirectory.Url.Domain.Addition

/-!
# Characters of domains

A domain is read without regard to case, width, style and the like: each of its characters stands
for others, for nothing, or may not be there at all.
-/

namespace DepositDirectory.Url.Domain

open Text (Images Range imageIn? isUnassigned lowerChar)

def imageRows : List Images :=
  [⟨0xAA, "a"⟩, ⟨0xB2, "2 3"⟩, ⟨0xB5, "μ"⟩, ⟨0xB9, "1 o"⟩, ⟨0xBC, "1⁄4 1⁄2 3⁄4"⟩, ⟨0x130, "i̇"⟩,
   ⟨0x132, "ij ij"⟩, ⟨0x13F, "l· l·"⟩, ⟨0x149, "ʼn"⟩, ⟨0x17F, "s"⟩,
   ⟨0x1C4, "dž dž dž lj lj lj nj nj nj"⟩, ⟨0x1F1, "dz dz dz"⟩, ⟨0x2B0, "h ɦ j r ɹ ɻ ʁ w y"⟩,
   ⟨0x2E0, "ɣ l s x ʕ"⟩, ⟨0x345, "ι"⟩, ⟨0x3D0, "β θ υ ύ ϋ φ π"⟩, ⟨0x3F0, "κ ρ σ"⟩, ⟨0x3F5, "ε"⟩,
   ⟨0x3F9, "σ"⟩, ⟨0x558, "է"⟩, ⟨0x587, "եւ"⟩, ⟨0x675, "اٴ وٴ ۇٴ يٴ"⟩, ⟨0xE33, "ํา"⟩, ⟨0xEB3, "ໍາ"⟩,
   ⟨0xEDC, "ຫນ ຫມ"⟩, ⟨0xF0C, "་"⟩, ⟨0xF77, "ྲཱྀ"⟩, ⟨0xF79, "ླཱྀ"⟩, ⟨0x10FC, "ნ"⟩,
   ⟨0x1C80, "в д о с т т ъ ѣ ꙋ"⟩, ⟨0x1D2C, "a æ b"⟩, ⟨0x1D30, "d e ǝ g h i j k l m n"⟩,
   ⟨0x1D3C, "o ȣ p r t u w a ɐ ɑ ᴂ b d e ə ɛ ɜ g"⟩,
   ⟨0x1D4F, "k m ŋ o ɔ ᴖ ᴗ p t u ᴝ ɯ v ᴥ β γ δ φ χ i r u v β γ ρ φ χ"⟩, ⟨0x1D78, "н"⟩,
   ⟨0x1D9B, "ɒ c ɕ ð ɜ f ɟ ɡ ɥ ɨ ɩ ɪ ᵻ ʝ ɭ ᶅ ʟ ɱ ɰ ɲ ɳ ɴ ɵ ɸ ʂ ʃ ƫ ʉ ʊ ᴜ ʋ ʌ z ʐ ʑ ʒ θ"⟩,
   ⟨0x1E9A, "aʾ ṡ"⟩,
   ⟨0x1F80, "ἀι ἁι ἂι ἃι ἄι ἅι ἆι ἇι ἀι ἁι ἂι ἃι ἄι ἅι ἆι ἇι ἠι ἡι ἢι ἣι ἤι ἥι ἦι ἧι ἠι"⟩,
   ⟨0x1F99, "ἡι ἢι ἣι ἤι ἥι ἦι ἧι ὠι ὡι ὢι ὣι ὤι ὥι ὦι ὧι ὠι ὡι ὢι ὣι ὤι ὥι ὦι ὧι"⟩,
   ⟨0x1FB2, "ὰι αι άι"⟩, ⟨0x1FB7, "ᾶι"⟩, ⟨0x1FBC, "αι"⟩, ⟨0x1FC2, "ὴι ηι ήι"⟩, ⟨0x1FC7, "ῆι"⟩,
   ⟨0x1FCC, "ηι"⟩, ⟨0x1FF2, "ὼι ωι ώι"⟩, ⟨0x1FF7, "ῶι"⟩, ⟨0x1FFC, "ωι"⟩, ⟨0x2011, "‐"⟩,
   ⟨0x2033, "′′ ′′′"⟩, ⟨0x2036, "‵‵ ‵‵‵"⟩, ⟨0x203C, "!!"⟩, ⟨0x2047, "?? ?! !?"⟩, ⟨0x2057, "′′′′"⟩,
   ⟨0x2070, "0 i"⟩, ⟨0x2074, "4 5 6 7 8 9 + − = ( ) n 0 1 2 3 4 5 6 7 8 9 + − = ( )"⟩,
   ⟨0x2090, "a e o x ə h k l m n p s t w y z"⟩, ⟨0x20A8, "rs"⟩, ⟨0x2100, "a/c a/s c °c"⟩,
   ⟨0x2105, "c/o c/u ɛ"⟩, ⟨0x2109, "°f g h h h h ħ i i l l"⟩, ⟨0x2115, "n no"⟩,
   ⟨0x2119, "p q r r r"⟩, ⟨0x2120, "sm tel tm"⟩, ⟨0x2124, "z"⟩, ⟨0x2128, "z"⟩, ⟨0x212C, "b c"⟩,
   ⟨0x212F, "e e f"⟩, ⟨0x2133, "m o א ב ג ד i"⟩, ⟨0x213B, "fax π γ γ π ∑"⟩, ⟨0x2145, "d d e i j"⟩,
   ⟨0x2150, "1⁄7 1⁄9 1⁄10 1⁄3 2⁄3 1⁄5 2⁄5 3⁄5 4⁄5 1⁄6 5⁄6 1⁄8 3⁄8 5⁄8 7⁄8 1⁄ i ii iii iv"⟩,
   ⟨0x2164, "v vi vii viii ix x xi xii l c d m i ii iii iv v vi vii viii ix x xi xii l c"⟩,
   ⟨0x217E, "d m"⟩, ⟨0x2189, "0⁄3"⟩, ⟨0x222C, "∫∫ ∫∫∫"⟩, ⟨0x222F, "∮∮ ∮∮∮"⟩,
   ⟨0x2460, "1 2 3 4 5 6 7 8 9 10 11 12 13 14 15 16 17 18 19 20 (1) (2) (3) (4) (5) (6)"⟩,
   ⟨0x247A, "(7) (8) (9) (10) (11) (12) (13) (14) (15) (16) (17) (18) (19) (20)"⟩,
   ⟨0x249C, "(a) (b) (c) (d) (e) (f) (g) (h) (i) (j) (k) (l) (m) (n) (o) (p) (q) (r) (s)"⟩,
   ⟨0x24AF, "(t) (u) (v) (w) (x) (y) (z) a b c d e f g h i j k l m n o p q r s t u v w x"⟩,
   ⟨0x24CE, "y z a b c d e f g h i j k l m n o p q r s t u v w x y z 0"⟩, ⟨0x2A0C, "∫∫∫∫"⟩,
   ⟨0x2A74, "::= == ==="⟩, ⟨0x2C7C, "j v"⟩, ⟨0x2D6F, "ⵡ"⟩, ⟨0x2E9F, "母"⟩, ⟨0x2EF3, "龟"⟩,
   ⟨0x2F00, "一 丨 丶 丿 乙 亅 二 亠 人 儿 入 八 冂 冖 冫 几 凵 刀 力 勹 匕 匚 匸 十 卜 卩 厂 厶 又 口 囗 土 士 夂 夊 夕 大 女"⟩,
   ⟨0x2F26, "子 宀 寸 小 尢 尸 屮 山 巛 工 己 巾 干 幺 广 廴 廾 弋 弓 彐 彡 彳 心 戈 戶 手 支 攴 文 斗 斤 方 无 日 曰 月 木 欠"⟩,
   ⟨0x2F4C, "止 歹 殳 毋 比 毛 氏 气 水 火 爪 父 爻 爿 片 牙 牛 犬 玄 玉 瓜 瓦 甘 生 用 田 疋 疒 癶 白 皮 皿 目 矛 矢 石 示 禸"⟩,
   ⟨0x2F72, "禾 穴 立 竹 米 糸 缶 网 羊 羽 老 而 耒 耳 聿 肉 臣 自 至 臼 舌 舛 舟 艮 色 艸 虍 虫 血 行 衣 襾 見 角 言 谷 豆 豕"⟩,
   ⟨0x2F98, "豸 貝 赤 走 足 身 車 辛 辰 辵 邑 酉 釆 里 金 長 門 阜 隶 隹 雨 靑 非 面 革 韋 韭 音 頁 風 飛 食 首 香 馬 骨 高 髟"⟩,
   ⟨0x2FBE, "鬥 鬯 鬲 鬼 魚 鳥 鹵 鹿 麥 麻 黃 黍 黑 黹 黽 鼎 鼓 鼠 鼻 齊 齒 龍 龜 龠"⟩, ⟨0x3002, "."⟩, ⟨0x3036, "〒"⟩,
   ⟨0x3038, "十 卄 卅"⟩, ⟨0x309F, "より"⟩, ⟨0x30FF, "コト"⟩,
   ⟨0x3131, "ᄀ ᄁ ᆪ ᄂ ᆬ ᆭ ᄃ ᄄ ᄅ ᆰ ᆱ ᆲ ᆳ ᆴ ᆵ ᄚ ᄆ ᄇ ᄈ ᄡ ᄉ ᄊ ᄋ ᄌ ᄍ ᄎ ᄏ ᄐ ᄑ ᄒ ᅡ ᅢ ᅣ ᅤ ᅥ ᅦ ᅧ ᅨ"⟩,
   ⟨0x3157, "ᅩ ᅪ ᅫ ᅬ ᅭ ᅮ ᅯ ᅰ ᅱ ᅲ ᅳ ᅴ ᅵ"⟩,
   ⟨0x3165, "ᄔ ᄕ ᇇ ᇈ ᇌ ᇎ ᇓ ᇗ ᇙ ᄜ ᇝ ᇟ ᄝ ᄞ ᄠ ᄢ ᄣ ᄧ ᄩ ᄫ ᄬ ᄭ ᄮ ᄯ ᄲ ᄶ ᅀ ᅇ ᅌ ᇱ ᇲ ᅗ ᅘ ᅙ ᆄ ᆅ ᆈ ᆑ"⟩,
   ⟨0x318B, "ᆒ ᆔ ᆞ ᆡ"⟩, ⟨0x3192, "一 二 三 四 上 中 下 甲 乙 丙 丁 天 地 人"⟩,
   ⟨0x3200, "(ᄀ) (ᄂ) (ᄃ) (ᄅ) (ᄆ) (ᄇ) (ᄉ) (ᄋ) (ᄌ) (ᄎ) (ᄏ) (ᄐ) (ᄑ) (ᄒ) (가) (나) (다) (라) (마)"⟩,
   ⟨0x3213, "(바) (사) (아) (자) (차) (카) (타) (파) (하) (주) (오전) (오후)"⟩,
   ⟨0x3220, "(一) (二) (三) (四) (五) (六) (七) (八) (九) (十) (月) (火) (水) (木) (金) (土) (日) (株) (有)"⟩,
   ⟨0x3233, "(社) (名) (特) (財) (祝) (労) (代) (呼) (学) (監) (企) (資) (協) (祭) (休) (自) (至) 問 幼 文 箏"⟩,
   ⟨0x3250, "pte 21 22 23 24 25 26 27 28 29 30 31 32 33 34 35 ᄀ ᄂ ᄃ ᄅ ᄆ ᄇ ᄉ ᄋ ᄌ ᄎ ᄏ ᄐ ᄑ ᄒ"⟩,
   ⟨0x326E, "가 나 다 라 마 바 사 아 자 차 카 타 파 하 참고 주의 우"⟩,
   ⟨0x3280, "一 二 三 四 五 六 七 八 九 十 月 火 水 木 金 土 日 株 有 社 名 特 財 祝 労 秘 男 女 適 優 印 注 項 休 写 正 上 中"⟩,
   ⟨0x32A6, "下 左 右 医 宗 学 監 企 資 協 夜 36 37 38 39 40 41 42 43 44 45 46 47 48 49 50 1月 2月 3月"⟩,
   ⟨0x32C3, "4月 5月 6月 7月 8月 9月 10月 11月 12月 hg erg ev ltd ア イ ウ エ オ カ キ ク ケ コ サ シ ス セ ソ タ"⟩,
   ⟨0x32E0, "チ ツ テ ト ナ ニ ヌ ネ ノ ハ ヒ フ ヘ ホ マ ミ ム メ モ ヤ ユ ヨ ラ リ ル レ ロ ワ ヰ ヱ ヲ 令和 アパート アルファ"⟩,
   ⟨0x3302, "アンペア アール イニング インチ ウォン エスクード エーカー オンス オーム カイリ カラット カロリー ガロン ガンマ ギガ ギニー キュリー"⟩,
   ⟨0x3313, "ギルダー キロ キログラム キロメートル キロワット グラム グラムトン クルゼイロ クローネ ケース コルナ コーポ サイクル サンチーム シリング"⟩,
   ⟨0x3322, "センチ セント ダース デシ ドル トン ナノ ノット ハイツ パーセント パーツ バーレル ピアストル ピクル ピコ ビル ファラッド フィート"⟩,
   ⟨0x3334, "ブッシェル フラン ヘクタール ペソ ペニヒ ヘルツ ペンス ページ ベータ ポイント ボルト ホン ポンド ホール ホーン マイクロ マイル マッハ"⟩,
   ⟨0x3346, "マルク マンション ミクロン ミリ ミリバール メガ メガトン メートル ヤード ヤール ユアン リットル リラ ルピー ルーブル レム レントゲン"⟩,
   ⟨0x3357, "ワット 0点 1点 2点 3点 4点 5点 6点 7点 8点 9点 10点 11点 12点 13点 14点 15点 16点 17点 18点 19点"⟩,
   ⟨0x336C, "20点 21点 22点 23点 24点 hpa da au bar ov pc dm dm2 dm3 iu 平成 昭和 大正 明治 株式会社 pa na"⟩,
   ⟨0x3382, "μa ma ka kb mb gb cal kcal pf nf μf μg mg kg hz khz mhz ghz thz μl ml dl kl"⟩,
   ⟨0x3399, "fm nm μm mm cm km mm2 cm2 m2 km2 mm3 cm3 m3 km3 m∕s m∕s2 pa kpa mpa gpa rad"⟩,
   ⟨0x33AE, "rad∕s rad∕s2 ps ns μs ms pv nv μv mv kv mv pw nw μw mw kw mw kω mω"⟩,
   ⟨0x33C3, "bq cc cd c∕kg"⟩, ⟨0x33C8, "db gy ha hp in kk km kt lm ln log lx mb mil mol ph"⟩,
   ⟨0x33D9, "ppm pr sr sv wb v∕m a∕m 1日 2日 3日 4日 5日 6日 7日 8日 9日 10日 11日 12日 13日 14日 15日"⟩,
   ⟨0x33EF, "16日 17日 18日 19日 20日 21日 22日 23日 24日 25日 26日 27日 28日 29日 30日 31日 gal"⟩, ⟨0xA69C, "ъ ь"⟩,
   ⟨0xA770, "ꝯ"⟩, ⟨0xA7DD, "ɷ ɸ ɹ ɺ ɻ ɼ"⟩, ⟨0xA7F1, "s c f q"⟩, ⟨0xA7F8, "ħ œ"⟩,
   ⟨0xAB5C, "ꜧ ꬷ ɫ ꭒ"⟩, ⟨0xAB69, "ʍ"⟩, ⟨0xAB6C, "ꭋ"⟩,
   ⟨0xFB00, "ff fi fl ffi ffl st st"⟩, ⟨0xFB13, "մն մե մի վն մխ"⟩, ⟨0xFB20, "ע א ד ה כ ל ם ר ת +"⟩,
   ⟨0xFB4F, "אל ٱ ٱ ٻ ٻ ٻ ٻ پ پ پ پ ڀ ڀ ڀ ڀ ٺ ٺ ٺ ٺ ٿ ٿ ٿ ٿ ٹ ٹ ٹ ٹ ڤ ڤ ڤ ڤ ڦ ڦ ڦ ڦ ڄ ڄ ڄ"⟩,
   ⟨0xFB75, "ڄ ڃ ڃ ڃ ڃ چ چ چ چ ڇ ڇ ڇ ڇ ڍ ڍ ڌ ڌ ڎ ڎ ڈ ڈ ژ ژ ڑ ڑ ک ک ک ک گ گ گ گ ڳ ڳ ڳ ڳ ڱ"⟩,
   ⟨0xFB9B, "ڱ ڱ ڱ ں ں ڻ ڻ ڻ ڻ ۀ ۀ ہ ہ ہ ہ ھ ھ ھ ھ ے ے ۓ ۓ"⟩,
   ⟨0xFBD3, "ڭ ڭ ڭ ڭ ۇ ۇ ۆ ۆ ۈ ۈ ۇٴ ۋ ۋ ۅ ۅ ۉ ۉ ې ې ې ې ى ى ئا ئا ئە ئە ئو ئو ئۇ ئۇ ئۆ ئۆ"⟩,
   ⟨0xFBF4, "ئۈ ئۈ ئې ئې ئې ئى ئى ئى ی ی ی ی ئج ئح ئم ئى ئي بج بح بخ بم بى بي تج تح تخ تم"⟩,
   ⟨0xFC0F, "تى تي ثج ثم ثى ثي جح جم حج حم خج خح خم سج سح سخ سم صح صم ضج ضح ضخ ضم طح طم"⟩,
   ⟨0xFC28, "ظم عج عم غج غم فج فح فخ فم فى في قح قم قى قي كا كج كح كخ كل كم كى كي لج لح"⟩,
   ⟨0xFC41, "لخ لم لى لي مج مح مخ مم مى مي نج نح نخ نم نى ني هج هم هى هي يج يح يخ يم يى"⟩,
   ⟨0xFC5A, "يي ذٰ رٰ ىٰ"⟩,
   ⟨0xFC64, "ئر ئز ئم ئن ئى ئي بر بز بم بن بى بي تر تز تم تن تى تي ثر ثز ثم ثن ثى ثي فى"⟩,
   ⟨0xFC7D, "في قى قي كا كل كم كى كي لم لى لي ما مم نر نز نم نن نى ني ىٰ ير يز يم ين يى"⟩,
   ⟨0xFC96, "يي ئج ئح ئخ ئم ئه بج بح بخ بم به تج تح تخ تم ته ثم جح جم حج حم خج خم سج سح"⟩,
   ⟨0xFCAF, "سخ سم صح صخ صم ضج ضح ضخ ضم طح ظم عج عم غج غم فج فح فخ فم قح قم كج كح كخ كل"⟩,
   ⟨0xFCC8, "كم لج لح لخ لم له مج مح مخ مم نج نح نخ نم نه هج هم هٰ يج يح يخ يم يه ئم ئه"⟩,
   ⟨0xFCE1, "بم به تم ته ثم ثه سم سه شم شه كل كم لم نم نه يم يه ـَّ ـُّ ـِّ طى طي عى عي"⟩,
   ⟨0xFCF9, "غى غي سى سي شى شي حى حي جى جي خى خي صى صي ضى ضي شج شح شخ شم شر سر صر ضر طى"⟩,
   ⟨0xFD12, "طي عى عي غى غي سى سي شى شي حى حي جى جي خى خي صى صي ضى ضي شج شح شخ شم شر سر"⟩,
   ⟨0xFD2B, "صر ضر شج شح شخ شم سه شه طم سج سح سخ شج شح شخ طم ظم اً اً"⟩,
   ⟨0xFD50, "تجم تحج تحج تحم تخم تمج تمح تمخ جمح جمح حمي حمى سحج سجح سجى سمح سمح سمج سمم"⟩,
   ⟨0xFD63, "سمم صحح صحح صمم شحم شحم شجي شمخ شمخ شمم شمم ضحى ضخم ضخم طمح طمح طمم طمي عجم"⟩,
   ⟨0xFD76, "عمم عمم عمى غمم غمي غمى فخم فخم قمح قمم لحم لحي لحى لجج لجج لخم لخم لمح لمح"⟩,
   ⟨0xFD89, "محج محم محي مجح مجم مخج مخم"⟩,
   ⟨0xFD92, "مجخ همج همم نحم نحى نجم نجم نجى نمي نمى يمم يمم بخي تجي تجى تخي تخى تمي تمى"⟩,
   ⟨0xFDA5, "جمي جحى جمى سخى صحي شحي ضحي لجي لمي يحي يجي يمي ممي قمي نحي قمح لحم عمي كمي"⟩,
   ⟨0xFDB8, "نجح مخي لجم كمم لجم نجح جحي حجي مجي فمي بحي كمم عجم صمم سخي نجي"⟩,
   ⟨0xFDF0, "صلے قلے الله اكبر محمد صلعم رسول عليه وسلم صلى"⟩, ⟨0xFDFC, "ریال"⟩, ⟨0xFE10, ", 、"⟩,
   ⟨0xFE13, ": ; ! ? 〖 〗"⟩, ⟨0xFE31, "— – _ _ ( ) \x7b \x7d 〔 〕 【 】 《 》 〈 〉 「 」 『 』"⟩,
   ⟨0xFE47, "[ ]"⟩, ⟨0xFE4D, "_ _ _ , 、"⟩, ⟨0xFE54, "; : ? ! — ( ) \x7b \x7d 〔 〕 # & * + - < > ="⟩,
   ⟨0xFE68, "\\ $ % @"⟩, ⟨0xFE71, "ـً"⟩, ⟨0xFE77, "ـَ"⟩, ⟨0xFE79, "ـُ"⟩, ⟨0xFE7B, "ـِ"⟩,
   ⟨0xFE7D, "ـّ"⟩,
   ⟨0xFE7F, "ـْ ء آ آ أ أ ؤ ؤ إ إ ئ ئ ئ ئ ا ا ب ب ب ب ة ة ت ت ت ت ث ث ث ث ج ج ج ج ح ح ح ح"⟩,
   ⟨0xFEA5, "خ خ خ خ د د ذ ذ ر ر ز ز س س س س ش ش ش ش ص ص ص ص ض ض ض ض ط ط ط ط ظ ظ ظ ظ ع ع"⟩,
   ⟨0xFECB, "ع ع غ غ غ غ ف ف ف ف ق ق ق ق ك ك ك ك ل ل ل ل م م م م ن ن ن ن ه ه ه ه و و ى ى"⟩,
   ⟨0xFEF1, "ي ي ي ي لآ لآ لأ لأ لإ لإ لا لا"⟩,
   ⟨0xFF01, "! \" # $ % & ' ( ) * + , - . / 0 1 2 3 4 5 6 7 8 9 : ; < = > ? @ a b c d e f"⟩,
   ⟨0xFF27, "g h i j k l m n o p q r s t u v w x y z [ \\ ] ^ _ \x60 a b c d e f g h i j"⟩,
   ⟨0xFF4B, "k l m n o p q r s t u v w x y z \x7b | \x7d ~ ⦅ ⦆ . 「 」 、 ・ ヲ ァ ィ ゥ ェ ォ ャ ュ"⟩,
   ⟨0xFF6E, "ョ ッ ー ア イ ウ エ オ カ キ ク ケ コ サ シ ス セ ソ タ チ ツ テ ト ナ ニ ヌ ネ ノ ハ ヒ フ ヘ ホ マ ミ ム メ モ"⟩,
   ⟨0xFF94, "ヤ ユ ヨ ラ リ ル レ ロ ワ ン ゙ ゚"⟩,
   ⟨0xFFA1, "ᄀ ᄁ ᆪ ᄂ ᆬ ᆭ ᄃ ᄄ ᄅ ᆰ ᆱ ᆲ ᆳ ᆴ ᆵ ᄚ ᄆ ᄇ ᄈ ᄡ ᄉ ᄊ ᄋ ᄌ ᄍ ᄎ ᄏ ᄐ ᄑ ᄒ"⟩, ⟨0xFFC2, "ᅡ ᅢ ᅣ ᅤ ᅥ ᅦ"⟩,
   ⟨0xFFCA, "ᅧ ᅨ ᅩ ᅪ ᅫ ᅬ"⟩, ⟨0xFFD2, "ᅭ ᅮ ᅯ ᅰ ᅱ ᅲ"⟩, ⟨0xFFDA, "ᅳ ᅴ ᅵ"⟩, ⟨0xFFE0, "¢ £ ¬"⟩,
   ⟨0xFFE4, "¦ ¥ ₩"⟩, ⟨0xFFE8, "│ ← ↑ → ↓ ■ ○"⟩, ⟨0x10781, "ː ˑ æ ʙ ɓ"⟩,
   ⟨0x10787, "ʣ ꭦ ʥ ʤ ɖ ɗ ᶑ ɘ ɞ ʩ ɤ ɢ ɠ ʛ ħ ʜ ɧ ʄ ʪ ʫ ɬ 𝼄 ꞎ ɮ 𝼅 ʎ 𝼆 ø ɶ ɷ q ɺ 𝼈 ɽ ɾ ʀ ʨ ʦ"⟩,
   ⟨0x107AD, "ꭧ ʧ ʈ ⱱ"⟩, ⟨0x107B2, "ʏ ʡ ʢ ʘ ǀ ǁ ǂ 𝼊 𝼞 ʇ ʖ ʗ ʞ"⟩,
   ⟨0x1CCD6, "a b c d e f g h i j k l m n o p q r s t u v w x y z 0 1 2 3 4 5 6 7 8 9"⟩,
   ⟨0x1D400, "a b c d e f g h i j k l m n o p q r s t u v w x y z a b c d e f g h i j k l"⟩,
   ⟨0x1D426, "m n o p q r s t u v w x y z a b c d e f g h i j k l m n o p q r s t u v w x"⟩,
   ⟨0x1D44C, "y z a b c d e f g"⟩,
   ⟨0x1D456, "i j k l m n o p q r s t u v w x y z a b c d e f g h i j k l m n o p q r s t"⟩,
   ⟨0x1D47C, "u v w x y z a b c d e f g h i j k l m n o p q r s t u v w x y z a"⟩, ⟨0x1D49E, "c d"⟩,
   ⟨0x1D4A2, "g"⟩, ⟨0x1D4A5, "j k"⟩, ⟨0x1D4A9, "n o p q"⟩, ⟨0x1D4AE, "s t u v w x y z a b c d"⟩,
   ⟨0x1D4BB, "f"⟩, ⟨0x1D4BD, "h i j k l m n"⟩,
   ⟨0x1D4C5, "p q r s t u v w x y z a b c d e f g h i j k l m n o p q r s t u v w x y z a"⟩,
   ⟨0x1D4EB, "b c d e f g h i j k l m n o p q r s t u v w x y z a b"⟩, ⟨0x1D507, "d e f g"⟩,
   ⟨0x1D50D, "j k l m n o p q"⟩, ⟨0x1D516, "s t u v w x y"⟩,
   ⟨0x1D51E, "a b c d e f g h i j k l m n o p q r s t u v w x y z a b"⟩, ⟨0x1D53B, "d e f g"⟩,
   ⟨0x1D540, "i j k l m"⟩, ⟨0x1D546, "o"⟩, ⟨0x1D54A, "s t u v w x y"⟩,
   ⟨0x1D552, "a b c d e f g h i j k l m n o p q r s t u v w x y z a b c d e f g h i j k l"⟩,
   ⟨0x1D578, "m n o p q r s t u v w x y z a b c d e f g h i j k l m n o p q r s t u v w x"⟩,
   ⟨0x1D59E, "y z a b c d e f g h i j k l m n o p q r s t u v w x y z a b c d e f g h i j"⟩,
   ⟨0x1D5C4, "k l m n o p q r s t u v w x y z a b c d e f g h i j k l m n o p q r s t u v"⟩,
   ⟨0x1D5EA, "w x y z a b c d e f g h i j k l m n o p q r s t u v w x y z a b c d e f g h"⟩,
   ⟨0x1D610, "i j k l m n o p q r s t u v w x y z a b c d e f g h i j k l m n o p q r s t"⟩,
   ⟨0x1D636, "u v w x y z a b c d e f g h i j k l m n o p q r s t u v w x y z a b c d e f"⟩,
   ⟨0x1D65C, "g h i j k l m n o p q r s t u v w x y z a b c d e f g h i j k l m n o p q r"⟩,
   ⟨0x1D682, "s t u v w x y z a b c d e f g h i j k l m n o p q r s t u v w x y z ı ȷ ss"⟩,
   ⟨0x1D6A8, "α β γ δ ε ζ η θ ι κ λ μ ν ξ ο π ρ θ σ τ υ φ χ ψ ω ∇ α β γ δ ε ζ η θ ι κ λ μ"⟩,
   ⟨0x1D6CE, "ν ξ ο π ρ σ σ τ υ φ χ ψ ω ∂ ε θ κ φ ρ π α β γ δ ε ζ η θ ι κ λ μ ν ξ ο π ρ θ"⟩,
   ⟨0x1D6F4, "σ τ υ φ χ ψ ω ∇ α β γ δ ε ζ η θ ι κ λ μ ν ξ ο π ρ σ σ τ υ φ χ ψ ω ∂ ε θ κ φ"⟩,
   ⟨0x1D71A, "ρ π α β γ δ ε ζ η θ ι κ λ μ ν ξ ο π ρ θ σ τ υ φ χ ψ ω ∇ α β γ δ ε ζ η θ ι κ"⟩,
   ⟨0x1D740, "λ μ ν ξ ο π ρ σ σ τ υ φ χ ψ ω ∂ ε θ κ φ ρ π α β γ δ ε ζ η θ ι κ λ μ ν ξ ο π"⟩,
   ⟨0x1D766, "ρ θ σ τ υ φ χ ψ ω ∇ α β γ δ ε ζ η θ ι κ λ μ ν ξ ο π ρ σ σ τ υ φ χ ψ ω ∂ ε θ"⟩,
   ⟨0x1D78C, "κ φ ρ π α β γ δ ε ζ η θ ι κ λ μ ν ξ ο π ρ θ σ τ υ φ χ ψ ω ∇ α β γ δ ε ζ η θ"⟩,
   ⟨0x1D7B2, "ι κ λ μ ν ξ ο π ρ σ σ τ υ φ χ ψ ω ∂ ε θ κ φ ρ π ϝ ϝ"⟩,
   ⟨0x1D7CE, "0 1 2 3 4 5 6 7 8 9 0 1 2 3 4 5 6 7 8 9 0 1 2 3 4 5 6 7 8 9 0 1 2 3 4 5 6 7"⟩,
   ⟨0x1D7F4, "8 9 0 1 2 3 4 5 6 7 8 9"⟩,
   ⟨0x1E030, "а б в г д е ж з и к л м о п р с т у ф х ц ч ш ы э ю ꚉ ә і ј ө ү ӏ а б в г д"⟩,
   ⟨0x1E056, "е ж з и к л о п с у ф х ц ч ш ъ ы ґ і ѕ џ ҫ ꙑ ұ"⟩, ⟨0x1EE00, "ا ب ج د"⟩,
   ⟨0x1EE05, "و ز ح ط ي ك ل م ن س ع ف ص ق ر ش ت ث خ ذ ض ظ غ ٮ ں ڡ ٯ"⟩, ⟨0x1EE21, "ب ج"⟩,
   ⟨0x1EE24, "ه"⟩, ⟨0x1EE27, "ح"⟩, ⟨0x1EE29, "ي ك ل م ن س ع ف ص ق"⟩, ⟨0x1EE34, "ش ت ث خ"⟩,
   ⟨0x1EE39, "ض"⟩, ⟨0x1EE3B, "غ"⟩, ⟨0x1EE42, "ج"⟩, ⟨0x1EE47, "ح"⟩, ⟨0x1EE49, "ي"⟩, ⟨0x1EE4B, "ل"⟩,
   ⟨0x1EE4D, "ن س ع"⟩, ⟨0x1EE51, "ص ق"⟩, ⟨0x1EE54, "ش"⟩, ⟨0x1EE57, "خ"⟩, ⟨0x1EE59, "ض"⟩,
   ⟨0x1EE5B, "غ"⟩, ⟨0x1EE5D, "ں"⟩, ⟨0x1EE5F, "ٯ"⟩, ⟨0x1EE61, "ب ج"⟩, ⟨0x1EE64, "ه"⟩,
   ⟨0x1EE67, "ح ط ي ك"⟩, ⟨0x1EE6C, "م ن س ع ف ص ق"⟩, ⟨0x1EE74, "ش ت ث خ"⟩, ⟨0x1EE79, "ض ظ غ ٮ"⟩,
   ⟨0x1EE7E, "ڡ"⟩, ⟨0x1EE80, "ا ب ج د ه و ز ح ط ي"⟩, ⟨0x1EE8B, "ل م ن س ع ف ص ق ر ش ت ث خ ذ ض ظ غ"⟩,
   ⟨0x1EEA1, "ب ج د"⟩, ⟨0x1EEA5, "و ز ح ط ي"⟩, ⟨0x1EEAB, "ل م ن س ع ف ص ق ر ش ت ث خ ذ ض ظ غ"⟩,
   ⟨0x1F101, "0, 1, 2, 3, 4, 5, 6, 7, 8, 9,"⟩,
   ⟨0x1F110, "(a) (b) (c) (d) (e) (f) (g) (h) (i) (j) (k) (l) (m) (n) (o) (p) (q) (r) (s)"⟩,
   ⟨0x1F123, "(t) (u) (v) (w) (x) (y) (z) 〔s〕 c r cd wz"⟩,
   ⟨0x1F130, "a b c d e f g h i j k l m n o p q r s t u v w x y z hv mv sd ss ppv wc"⟩,
   ⟨0x1F16A, "mc md mr"⟩, ⟨0x1F190, "dj"⟩, ⟨0x1F200, "ほか ココ サ"⟩,
   ⟨0x1F210, "手 字 双 デ 二 多 解 天 交 映 無 料 前 後 再 新 初 終 生 販 声 吹 演 投 捕 一 三 遊 左 中 右 指 走 打 禁 空 合 満"⟩,
   ⟨0x1F236, "有 月 申 割 営 配"⟩, ⟨0x1F240, "〔本〕 〔三〕 〔二〕 〔安〕 〔点〕 〔打〕 〔盗〕 〔勝〕 〔敗〕"⟩, ⟨0x1F250, "得 可"⟩,
   ⟨0x1FBF0, "0 1 2 3 4 5 6 7 8 9"⟩]

def silentRanges : List Range :=
  [⟨0xAD, 0xAD⟩, ⟨0x34F, 0x34F⟩, ⟨0x115F, 0x1160⟩, ⟨0x17B4, 0x17B5⟩, ⟨0x180B, 0x180F⟩,
   ⟨0x200B, 0x200B⟩, ⟨0x2060, 0x2064⟩, ⟨0x206A, 0x206F⟩, ⟨0x3164, 0x3164⟩, ⟨0xFE00, 0xFE0F⟩,
   ⟨0xFEFF, 0xFEFF⟩, ⟨0xFFA0, 0xFFA0⟩, ⟨0x1BCA0, 0x1BCA3⟩, ⟨0x1D173, 0x1D17A⟩, ⟨0xE0100, 0xE01EF⟩]

/--
Controls, formats, marks of composition and what stands for a text with a space, which no domain
holds.
-/
def barredRanges : List Range :=
  [⟨0x80, 0xA0⟩, ⟨0xA8, 0xA8⟩, ⟨0xAF, 0xAF⟩, ⟨0xB4, 0xB4⟩, ⟨0xB8, 0xB8⟩, ⟨0x2D8, 0x2DD⟩,
   ⟨0x37A, 0x37A⟩, ⟨0x384, 0x385⟩, ⟨0x600, 0x605⟩, ⟨0x61C, 0x61C⟩, ⟨0x6DD, 0x6DD⟩, ⟨0x70F, 0x70F⟩,
   ⟨0x890, 0x891⟩, ⟨0x8E2, 0x8E2⟩, ⟨0x1680, 0x1680⟩, ⟨0x1FBD, 0x1FBD⟩, ⟨0x1FBF, 0x1FC1⟩,
   ⟨0x1FCD, 0x1FCF⟩, ⟨0x1FDD, 0x1FDF⟩, ⟨0x1FED, 0x1FEE⟩, ⟨0x1FFD, 0x1FFE⟩, ⟨0x2000, 0x200A⟩,
   ⟨0x200E, 0x200F⟩, ⟨0x2017, 0x2017⟩, ⟨0x2024, 0x2026⟩, ⟨0x2028, 0x202F⟩, ⟨0x203E, 0x203E⟩,
   ⟨0x205F, 0x205F⟩, ⟨0x2066, 0x2069⟩, ⟨0x2488, 0x249B⟩, ⟨0x2FF0, 0x3000⟩, ⟨0x309B, 0x309C⟩,
   ⟨0x31EF, 0x31EF⟩, ⟨0x33C2, 0x33C2⟩, ⟨0x33C7, 0x33C7⟩, ⟨0x33D8, 0x33D8⟩, ⟨0xFC5E, 0xFC63⟩,
   ⟨0xFDFA, 0xFDFB⟩, ⟨0xFE12, 0xFE12⟩, ⟨0xFE19, 0xFE19⟩, ⟨0xFE30, 0xFE30⟩, ⟨0xFE49, 0xFE4C⟩,
   ⟨0xFE52, 0xFE52⟩, ⟨0xFE70, 0xFE70⟩, ⟨0xFE72, 0xFE72⟩, ⟨0xFE74, 0xFE74⟩, ⟨0xFE76, 0xFE76⟩,
   ⟨0xFE78, 0xFE78⟩, ⟨0xFE7A, 0xFE7A⟩, ⟨0xFE7C, 0xFE7C⟩, ⟨0xFE7E, 0xFE7E⟩, ⟨0xFFE3, 0xFFE3⟩,
   ⟨0xFFF9, 0xFFFD⟩, ⟨0x110BD, 0x110BD⟩, ⟨0x110CD, 0x110CD⟩, ⟨0x13430, 0x1343F⟩, ⟨0x1F100, 0x1F100⟩,
   ⟨0xE0001, 0xE0001⟩, ⟨0xE0020, 0xE007F⟩]

/-- A letter without its case, which is lower case; capitals are kept in Cherokee alone. -/
def foldCase (c : Char) : Char :=
  let n := c.toNat
  if 0x13A0 ≤ n ∧ n ≤ 0x13F5 then c
  else if 0x13F8 ≤ n ∧ n ≤ 0x13FD then Char.ofNat (n - 8)
  else if 0xAB70 ≤ n ∧ n ≤ 0xABBF then Char.ofNat (n - 0x97D0)
  else lowerChar c

def image? (c : Char) : Option (List Char) :=
  if c.toNat < 0x80 then some [c.toLower]
  else if Range.anyHolds silentRanges c then some []
  else if Range.anyHolds barredRanges c || (isUnassigned c && !isAddition c) then none
  else some ((imageIn? imageRows c).getD [foldCase c])

end DepositDirectory.Url.Domain
