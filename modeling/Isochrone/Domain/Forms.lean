import Isochrone.Text.Pieces

/-!
# Characters with a written-out form

Characters that stand in names for other characters one by one. A row holds a code point and
words between blanks: the first word is the form of that code point, the second that of the
next, and so on; a character that is its own form may stand between others. By the Unicode
Standard version 17.
-/

namespace Isochrone.Domain

/-- Letters and ligatures of the alphabets, and small raised letters. -/
private def letters : List (Nat × String) := [
  (0xaa, "a"), (0xb2, "2 3"), (0xb5, "μ"), (0xb9, "1 o » 1⁄4 1⁄2 3⁄4"),
  (0x130, "i̇ ı ij ij ĵ ĵ ķ"), (0x139, "ĺ ĺ ļ ļ ľ ľ l· l· ł ł ń ń ņ ņ ň ň ʼn"),
  (0x178, "ÿ ź ź ż ż ž ž s ƀ ɓ ƃ ƃ ƅ ƅ ɔ ƈ ƈ ɖ ɗ ƌ"), (0x18e, "ǝ ə ɛ ƒ ƒ ɠ ɣ ƕ ɩ ɨ ƙ"),
  (0x19c, "ɯ ɲ ƞ ɵ ơ ơ ƣ ƣ ƥ ƥ ʀ ƨ ƨ ʃ"), (0x1ac, "ƭ ƭ ʈ ư ư ʊ ʋ ƴ ƴ ƶ ƶ ʒ ƹ"), (0x1bc, "ƽ"),
  (0x1c4, "dž dž dž lj lj lj nj nj nj"), (0x1f1, "dz dz dz ǵ ǵ ƕ ƿ"), (0x220, "ƞ"),
  (0x23a, "ⱥ ȼ ȼ ƚ ⱦ"), (0x241, "ɂ ɂ ƀ ʉ ʌ ɇ ɇ ɉ ɉ ɋ ɋ ɍ ɍ ɏ"), (0x2b0, "h ɦ j r ɹ ɻ ʁ w y"),
  (0x2e0, "ɣ l s x ʕ"), (0x340, "̀ ́ ͂ ̓ ̈́ ι"), (0x370, "ͱ ͱ ͳ ͳ ʹ ͵ ͷ"), (0x37e, "; ϳ"),
  (0x386, "ά · έ ή ί"), (0x38c, "ό"), (0x38e, "ύ ώ"), (0x3cf, "ϗ β θ υ ύ ϋ φ π"),
  (0x3f0, "κ ρ σ ϳ θ ε ϶ ϸ ϸ σ ϻ"), (0x3fd, "ͻ ͼ ͽ"), (0x4c0, "ӏ"), (0x587, "եւ"),
  (0x675, "اٴ وٴ ۇٴ يٴ"), (0x958, "क़ ख़ ग़ ज़ ड़ ढ़ फ़ य़"), (0x9dc, "ড় ঢ়"), (0x9df, "য়"),
  (0xa33, "ਲ਼"), (0xa36, "ਸ਼"), (0xa59, "ਖ਼ ਗ਼ ਜ਼"), (0xa5e, "ਫ਼"), (0xb5c, "ଡ଼ ଢ଼"),
  (0xe33, "ํา"), (0xeb3, "ໍາ"), (0xedc, "ຫນ ຫມ"), (0xf0c, "་"), (0xf43, "གྷ"), (0xf4d, "ཌྷ"),
  (0xf52, "དྷ"), (0xf57, "བྷ"), (0xf5c, "ཛྷ"), (0xf69, "ཀྵ"), (0xf73, "ཱི ུ ཱུ ྲྀ ྲཱྀ ླྀ ླཱྀ"),
  (0xf81, "ཱྀ"), (0xf93, "ྒྷ"), (0xf9d, "ྜྷ"), (0xfa2, "ྡྷ"), (0xfa7, "ྦྷ"), (0xfac, "ྫྷ"),
  (0xfb9, "ྐྵ"), (0x10c7, "ⴧ"), (0x10cd, "ⴭ"), (0x10fc, "ნ"), (0x1c80, "в д о с т т ъ ѣ ꙋ ᲊ"),
  (0x1cbd, "ჽ ჾ ჿ"), (0x1d2c, "a æ b ᴯ d e ǝ"),
  (0x1d3c, "o ȣ p r t u w a ɐ ɑ ᴂ b d e ə ɛ ɜ g ᵎ k m ŋ o ɔ ᴖ ᴗ p t u ᴝ ɯ v ᴥ β γ δ φ χ i r u v β γ"),
  (0x1d68, "ρ φ χ"), (0x1d78, "н"),
  (0x1d9b, "ɒ c ɕ ð ɜ f ɟ ɡ ɥ ɨ ɩ ɪ ᵻ ʝ ɭ ᶅ ʟ ɱ ɰ ɲ ɳ ɴ ɵ ɸ ʂ ʃ ƫ ʉ ʊ ᴜ ʋ ʌ z ʐ ʑ ʒ θ"),
  (0x1e9a, "aʾ ṡ"), (0x1e9e, "ß"), (0x1f59, "ὑ"), (0x1f5b, "ὓ"), (0x1f5d, "ὕ"), (0x1f5f, "ὗ"),
  (0x1f71, "ά ὲ έ ὴ ή ὶ ί ὸ ό ὺ ύ ὼ ώ"),
  (0x1f80, "ἀι ἁι ἂι ἃι ἄι ἅι ἆι ἇι ἀι ἁι ἂι ἃι ἄι ἅι ἆι ἇι ἠι ἡι ἢι ἣι ἤι ἥι ἦι ἧι ἠι ἡι ἢι ἣι ἤι"),
  (0x1f9d, "ἥι ἦι ἧι ὠι ὡι ὢι ὣι ὤι ὥι ὦι ὧι ὠι ὡι ὢι ὣι ὤι ὥι ὦι ὧι"), (0x1fb2, "ὰι αι άι"),
  (0x1fb7, "ᾶι ᾰ ᾱ ὰ ά αι"), (0x1fbe, "ι"), (0x1fc2, "ὴι ηι ήι"), (0x1fc7, "ῆι ὲ έ ὴ ή ηι"),
  (0x1fd3, "ΐ"), (0x1fd8, "ῐ ῑ ὶ ί"), (0x1fe3, "ΰ"), (0x1fe8, "ῠ ῡ ὺ ύ ῥ"), (0x1fef, "`"),
  (0x1ff2, "ὼι ωι ώι"), (0x1ff7, "ῶι ὸ ό ὼ ώ ωι"), (0xa69c, "ъ ь"), (0xa770, "ꝯ"),
  (0xa779, "ꝺ ꝺ ꝼ ꝼ ᵹ ꝿ ꝿ ꞁ ꞁ ꞃ ꞃ ꞅ ꞅ ꞇ"), (0xa78b, "ꞌ ꞌ ɥ"), (0xa790, "ꞑ ꞑ ꞓ"),
  (0xa7aa, "ɦ ɜ ɡ ɬ ɪ ꞯ ʞ ʇ ʝ ꭓ"), (0xa7c4, "ꞔ ʂ ᶎ ꟈ ꟈ ꟊ ꟊ ɤ"), (0xa7dc, "ƛ"),
  (0xa7f1, "s c f q ꟶ"), (0xa7f8, "ħ œ"), (0xab5c, "ꜧ ꬷ ɫ ꭒ"), (0xab69, "ʍ"),
  (0xfb00, "ff fi fl ffi ffl st st"), (0xfb13, "մն մե մի վն մխ"), (0x10594, "𐖻 𐖼"),
  (0x10781, "ː ˑ æ ʙ ɓ"),
  (0x10787, "ʣ ꭦ ʥ ʤ ɖ ɗ ᶑ ɘ ɞ ʩ ɤ ɢ ɠ ʛ ħ ʜ ɧ ʄ ʪ ʫ ɬ 𝼄 ꞎ ɮ 𝼅 ʎ 𝼆 ø ɶ ɷ q ɺ 𝼈 ɽ ɾ ʀ ʨ ʦ ꭧ ʧ ʈ ⱱ"),
  (0x107b2, "ʏ ʡ ʢ ʘ ǀ ǁ ǂ 𝼊 𝼞"), (0x1e039, "к л м"), (0x1e047, "ы э ю ꚉ ә і ј ө ү ӏ"),
  (0x1e05a, "к л о п с"), (0x1e065, "ъ ы ґ і ѕ џ ҫ ꙑ ұ")]

/-- Symbols that stand for letters, digits or several of them. -/
private def symbols : List (Nat × String) := [
  (0x2011, "‐"), (0x2033, "′′ ′′′ ‵ ‵‵ ‵‵‵"), (0x203c, "!!"), (0x2057, "′′′′"), (0x2070, "0 i"),
  (0x207a, "+ − = ( ) n"), (0x208a, "+ − = ( )"), (0x2090, "a e o x ə h k l m n p s t"),
  (0x20a8, "rs"), (0x2102, "c °c"), (0x2107, "ɛ ℈ °f g h h h h ħ i i l l ℔ n no"),
  (0x2119, "p q r r r"),
  (0x2120, "sm tel tm ℣ z ℥ ω ℧ z ℩ k å b c ℮ e e f ⅎ m o א ב ג ד i ℺ fax π γ γ π ∑"),
  (0x2145, "d d e i j"),
  (0x2150, "1⁄7 1⁄9 1⁄10 1⁄3 2⁄3 1⁄5 2⁄5 3⁄5 4⁄5 1⁄6 5⁄6 1⁄8 3⁄8 5⁄8 7⁄8 1⁄ i ii iii iv v vi vii"),
  (0x2167, "viii ix x xi xii l c d m i ii iii iv v vi vii viii ix x xi xii l c d m"),
  (0x2183, "ↄ"), (0x2189, "0⁄3"), (0x222c, "∫∫ ∫∫∫ ∮ ∮∮ ∮∮∮"), (0x2329, "〈 〉"),
  (0x2469, "10 11 12 13 14 15 16 17 18 19 20 (1) (2) (3) (4) (5) (6) (7) (8) (9) (10) (11) (12) (13)"),
  (0x2481, "(14) (15) (16) (17) (18) (19) (20)"),
  (0x249c, "(a) (b) (c) (d) (e) (f) (g) (h) (i) (j) (k) (l) (m) (n) (o) (p) (q) (r) (s) (t) (u) (v)"),
  (0x24b2, "(w) (x) (y) (z)"), (0x24ea, "0"), (0x2a0c, "∫∫∫∫"), (0x2a75, "== ==="),
  (0x2adc, "⫝̸"), (0x2c60, "ⱡ ⱡ ɫ ᵽ ɽ"), (0x2c67, "ⱨ ⱨ ⱪ ⱪ ⱬ ⱬ ɑ ɱ ɐ ɒ ⱱ ⱳ"), (0x2c75, "ⱶ"),
  (0x2c7c, "j v ȿ ɀ"), (0x2ceb, "ⳬ ⳬ ⳮ"), (0x2cf2, "ⳳ"), (0x2d6f, "ⵡ"),
  (0x1d15e, "𝅗𝅥 𝅘𝅥 𝅘𝅥𝅮 𝅘𝅥𝅯 𝅘𝅥𝅰 𝅘𝅥𝅱 𝅘𝅥𝅲"), (0x1d1bb, "𝆹𝅥 𝆺𝅥 𝆹𝅥𝅮 𝆺𝅥𝅮 𝆹𝅥𝅯 𝆺𝅥𝅯"), (0x1d49c, "a"),
  (0x1d49e, "c d"), (0x1d4a2, "g"), (0x1d4a5, "j k"), (0x1d4a9, "n o p q"), (0x1d4b6, "a b c d"),
  (0x1d4bb, "f"), (0x1d4bd, "h"), (0x1d504, "a b"), (0x1d507, "d e f g"), (0x1d538, "a b"),
  (0x1d53b, "d e f g"), (0x1d540, "i j k l m"), (0x1d546, "o"), (0x1d6a4, "ı ȷ"), (0x1d6b9, "θ"),
  (0x1d6c1, "∇"), (0x1d6d3, "σ"), (0x1d6db, "∂ ε θ κ φ ρ π"), (0x1d6f3, "θ"), (0x1d6fb, "∇"),
  (0x1d70d, "σ"), (0x1d715, "∂ ε θ κ φ ρ π"), (0x1d72d, "θ"), (0x1d735, "∇"), (0x1d747, "σ"),
  (0x1d74f, "∂ ε θ κ φ ρ π"), (0x1d767, "θ"), (0x1d76f, "∇"), (0x1d781, "σ"),
  (0x1d789, "∂ ε θ κ φ ρ π"), (0x1d7a1, "θ"), (0x1d7a9, "∇"), (0x1d7bb, "σ"),
  (0x1d7c3, "∂ ε θ κ φ ρ π ϝ ϝ"), (0x1f101, "0, 1, 2, 3, 4, 5, 6, 7, 8, 9,"),
  (0x1f110, "(a) (b) (c) (d) (e) (f) (g) (h) (i) (j) (k) (l) (m) (n) (o) (p) (q) (r) (s) (t) (u) (v)"),
  (0x1f126, "(w) (x) (y) (z) 〔s〕 c r cd wz"), (0x1f14a, "hv mv sd ss ppv wc"),
  (0x1f16a, "mc md mr"), (0x1f190, "dj")]

/-- Radicals, enclosed and squared words, and wide and narrow forms. -/
private def radicals : List (Nat × String) := [
  (0x2e9f, "母"), (0x2ef3, "龟"),
  (0x2f00, "一 丨 丶 丿 乙 亅 二 亠 人 儿 入 八 冂 冖 冫 几 凵 刀 力 勹 匕 匚 匸 十 卜 卩 厂 厶 又 口 囗 土 士 夂 夊 夕 大 女 子 宀 寸 小 尢 尸"),
  (0x2f2c, "屮 山 巛 工 己 巾 干 幺 广 廴 廾 弋 弓 彐 彡 彳 心 戈 戶 手 支 攴 文 斗 斤 方 无 日 曰 月 木 欠 止 歹 殳 毋 比 毛 氏 气 水 火 爪 父"),
  (0x2f58, "爻 爿 片 牙 牛 犬 玄 玉 瓜 瓦 甘 生 用 田 疋 疒 癶 白 皮 皿 目 矛 矢 石 示 禸 禾 穴 立 竹 米 糸 缶 网 羊 羽 老 而 耒 耳 聿 肉 臣 自"),
  (0x2f84, "至 臼 舌 舛 舟 艮 色 艸 虍 虫 血 行 衣 襾 見 角 言 谷 豆 豕 豸 貝 赤 走 足 身 車 辛 辰 辵 邑 酉 釆 里 金 長 門 阜 隶 隹 雨 靑 非 面"),
  (0x2fb0, "革 韋 韭 音 頁 風 飛 食 首 香 馬 骨 高 髟 鬥 鬯 鬲 鬼 魚 鳥 鹵 鹿 麥 麻 黃 黍 黑 黹 黽 鼎 鼓 鼠 鼻 齊 齒 龍 龜 龠"),
  (0x3002, "."), (0x3036, "〒 〷 十 卄 卅"), (0x309f, "より"), (0x30ff, "コト"),
  (0x3131, "ᄀ ᄁ ᆪ ᄂ ᆬ ᆭ ᄃ ᄄ ᄅ"), (0x3140, "ᄚ ᄆ ᄇ ᄈ ᄡ"),
  (0x3165, "ᄔ ᄕ ᇇ ᇈ ᇌ ᇎ ᇓ ᇗ ᇙ ᄜ ᇝ ᇟ ᄝ ᄞ ᄠ ᄢ ᄣ ᄧ ᄩ ᄫ ᄬ ᄭ ᄮ ᄯ ᄲ ᄶ ᅀ ᅇ ᅌ ᇱ ᇲ ᅗ ᅘ ᅙ ᆄ ᆅ ᆈ ᆑ ᆒ ᆔ ᆞ ᆡ"),
  (0x3192, "一 二 三 四 上 中 下 甲 乙 丙 丁 天 地 人"),
  (0x3200, "(ᄀ) (ᄂ) (ᄃ) (ᄅ) (ᄆ) (ᄇ) (ᄉ) (ᄋ) (ᄌ) (ᄎ) (ᄏ) (ᄐ) (ᄑ) (ᄒ) (가) (나) (다) (라) (마) (바) (사) (아)"),
  (0x3216, "(자) (차) (카) (타) (파) (하) (주) (오전) (오후)"),
  (0x3220, "(一) (二) (三) (四) (五) (六) (七) (八) (九) (十) (月) (火) (水) (木) (金) (土) (日) (株) (有) (社) (名) (特)"),
  (0x3236, "(財) (祝) (労) (代) (呼) (学) (監) (企) (資) (協) (祭) (休) (自) (至) 問 幼 文 箏"),
  (0x3250, "pte 21 22 23 24 25 26 27 28 29 30 31 32 33 34 35 ᄀ ᄂ ᄃ ᄅ ᄆ ᄇ ᄉ ᄋ ᄌ ᄎ ᄏ ᄐ ᄑ ᄒ 가 나 다 라 마 바"),
  (0x3274, "사 아 자 차 카 타 파 하 참고 주의 우 ㉿ 一 二 三 四 五 六 七 八 九 十 月 火 水 木 金 土 日 株 有 社 名 特 財 祝 労 秘 男 女 適 優 印"),
  (0x329f, "注 項 休 写 正 上 中 下 左 右 医 宗 学 監 企 資 協 夜 36 37 38 39 40 41 42 43 44 45 46 47 48 49 50 1月 2月"),
  (0x32c2, "3月 4月 5月 6月 7月 8月 9月 10月 11月 12月 hg erg ev ltd ア イ ウ エ オ カ キ ク ケ コ サ シ ス セ ソ タ チ ツ テ ト"),
  (0x32ea, "ヒ フ ヘ ホ マ ミ ム メ モ ヤ ユ"),
  (0x32fb, "ワ ヰ ヱ ヲ 令和 アパート アルファ アンペア アール イニング インチ ウォン エスクード エーカー オンス オーム カイリ カラット カロリー ガロン ガンマ ギガ"),
  (0x3311, "ギニー キュリー ギルダー キロ キログラム キロメートル キロワット グラム グラムトン クルゼイロ クローネ ケース コルナ コーポ サイクル サンチーム シリング センチ"),
  (0x3323, "セント ダース デシ ドル トン ナノ ノット ハイツ パーセント パーツ バーレル ピアストル ピクル ピコ ビル ファラッド フィート ブッシェル フラン ヘクタール ペソ"),
  (0x3338, "ペニヒ ヘルツ ペンス ページ ベータ ポイント ボルト ホン ポンド ホール ホーン マイクロ マイル マッハ マルク マンション ミクロン ミリ ミリバール メガ メガトン"),
  (0x334d, "メートル ヤード ヤール ユアン リットル リラ ルピー ルーブル レム レントゲン ワット 0点 1点 2点 3点 4点 5点 6点 7点 8点 9点 10点 11点 12点"),
  (0x3365, "13点 14点 15点 16点 17点 18点 19点 20点 21点 22点 23点 24点 hpa da au bar ov pc dm dm2 dm3 iu 平成 昭和"),
  (0x337d, "大正 明治 株式会社 pa na μa ma ka kb mb gb cal kcal pf nf μf μg mg kg hz khz mhz ghz thz μl ml"),
  (0x3397, "dl kl fm nm μm mm cm km mm2 cm2 m2 km2 mm3 cm3 m3 km3 m∕s m∕s2 pa kpa mpa gpa rad rad∕s"),
  (0x33af, "rad∕s2 ps ns μs ms pv nv μv mv kv mv pw nw μw mw kw mw kω mω"),
  (0x33c3, "bq cc cd c∕kg"), (0x33c8, "db gy ha hp in kk km kt lm ln log lx mb mil mol ph"),
  (0x33d9, "ppm pr sr sv wb v∕m a∕m 1日 2日 3日 4日 5日 6日 7日 8日 9日 10日 11日 12日 13日 14日 15日 16日 17日 18日"),
  (0x33f2, "19日 20日 21日 22日 23日 24日 25日 26日 27日 28日 29日 30日 31日 gal"), (0xfe10, ", 、"),
  (0xfe14, "; !"), (0xfe17, "〖 〗"), (0xfe31, "— – _ _ ( ) \x7b \x7d 〔 〕 【 】 《 》 〈 〉 「 」 『 』"),
  (0xfe4d, "_ _ _ , 、"), (0xfe54, ";"), (0xfe57, "! — ( ) \x7b \x7d 〔 〕"),
  (0xfe60, "& * + - < > ="), (0xfe69, "$"), (0xff01, "! \""), (0xff04, "$"), (0xff06, "&"),
  (0xff1b, "; < = >"),
  (0xff5d, "\x7d ~ ⦅ ⦆ . 「 」 、 ・ ヲ ァ ィ ゥ ェ ォ ャ ュ ョ ッ ー ア イ ウ エ オ カ キ ク ケ コ サ シ ス セ ソ タ チ ツ テ ト"),
  (0xff8b, "ヒ フ ヘ ホ マ ミ ム メ モ ヤ ユ"), (0xff9c, "ワ ン ゙ ゚"), (0xffa1, "ᄀ ᄁ ᆪ ᄂ ᆬ ᆭ ᄃ ᄄ ᄅ"),
  (0xffb0, "ᄚ ᄆ ᄇ ᄈ ᄡ"), (0xffda, "ᅳ ᅴ ᅵ"), (0xffe0, "¢ £ ¬"), (0xffe4, "¦ ¥ ₩"),
  (0xffe8, "│ ← ↑ → ↓ ■ ○"), (0x1f200, "ほか ココ サ"),
  (0x1f210, "手 字 双 デ 二 多 解 天 交 映 無 料 前 後 再 新 初 終 生 販 声 吹 演 投 捕 一 三 遊 左 中 右 指 走 打 禁 空 合 満 有 月 申 割 営 配"),
  (0x1f240, "〔本〕 〔三〕 〔二〕 〔安〕 〔点〕 〔打〕 〔盗〕 〔勝〕 〔敗〕"), (0x1f250, "得 可")]

/-- Ideographs with a second code point. -/
private def ideographs : List (Nat × String) := [
  (0xf900, "豈 更 車 賈 滑 串 句 龜 龜 契 金 喇 奈 懶 癩 羅 蘿 螺 裸 邏 樂 洛 烙 珞 落 酪 駱 亂 卵 欄 爛 蘭 鸞 嵐 濫 藍 襤 拉 臘 蠟 廊 朗 浪 狼"),
  (0xf92c, "郎 來 冷 勞 擄 櫓 爐 盧 老 蘆 虜 路 露 魯 鷺 碌 祿 綠 菉 錄 鹿 論 壟 弄 籠 聾 牢 磊 賂 雷 壘 屢 樓 淚 漏 累 縷 陋 勒 肋 凜 凌 稜 綾"),
  (0xf958, "菱 陵 讀 拏 樂 諾 丹 寧 怒 率 異 北 磻 便 復 不 泌 數 索 參 塞 省 葉 說 殺 辰 沈 拾 若 掠 略 亮 兩 凉 梁 糧 良 諒 量 勵 呂 女 廬 旅"),
  (0xf984, "濾 礪 閭 驪 麗 黎 力 曆 歷 轢 年 憐 戀 撚 漣 煉 璉 秊 練 聯 輦 蓮 連 鍊 列 劣 咽 烈 裂 說 廉 念 捻 殮 簾 獵 令 囹 寧 嶺 怜 玲 瑩 羚"),
  (0xf9b0, "聆 鈴 零 靈 領 例 禮 醴 隸 惡 了 僚 寮 尿 料 樂 燎 療 蓼 遼 龍 暈 阮 劉 杻 柳 流 溜 琉 留 硫 紐 類 六 戮 陸 倫 崙 淪 輪 律 慄 栗 率"),
  (0xf9dc, "隆 利 吏 履 易 李 梨 泥 理 痢 罹 裏 裡 里 離 匿 溺 吝 燐 璘 藺 隣 鱗 麟 林 淋 臨 立 笠 粒 狀 炙 識 什 茶 刺 切 度 拓 糖 宅 洞 暴 輻"),
  (0xfa08, "行 降 見 廓 兀 嗀"), (0xfa10, "塚 﨑 晴"), (0xfa15, "凞 猪 益 礼 神 祥 福 靖 精 羽 﨟 蘒 﨡 諸"),
  (0xfa25, "逸 都"),
  (0xfa2a, "飯 飼 館 鶴 郞 隷 侮 僧 免 勉 勤 卑 喝 嘆 器 塀 墨 層 屮 悔 慨 憎 懲 敏 既 暑 梅 海 渚 漢 煮 爫 琢 碑 社 祉 祈 祐 祖 祝 禍 禎 穀 突"),
  (0xfa56, "節 練 縉 繁 署 者 臭 艹 艹 著 褐 視 謁 謹 賓 贈 辶 逸 難 響 頻 恵 𤋮 舘"),
  (0xfa70, "並 况 全 侀 充 冀 勇 勺 喝 啕 喙 嗢 塚 墳 奄 奔 婢 嬨 廒 廙 彩 徭 惘 慎 愈 憎 慠 懲 戴 揄 搜 摒 敖 晴 朗 望 杖 歹 殺 流 滛 滋 漢 瀞"),
  (0xfa9c, "煮 瞧 爵 犯 猪 瑱 甆 画 瘝 瘟 益 盛 直 睊 着 磌 窱 節 类 絛 練 缾 者 荒 華 蝹 襁 覆 視 調 諸 請 謁 諾 諭 謹 變 贈 輸 遲 醙 鉶 陼 難"),
  (0xfac8, "靖 韛 響 頋 頻 鬒 龜 𢡊 𢡄 𣏕 㮝 䀘 䀹 𥉉 𥳐 𧻓 齃 龎"),
  (0x2f800, "丽 丸 乁 𠄢 你 侮 侻 倂 偺 備 僧 像 㒞 𠘺 免 兔 兤 具 𠔜 㒹 內 再 𠕋 冗 冤 仌 冬 况 𩇟 凵 刃 㓟 刻 剆 割 剷 㔕 勇 勉 勤 勺 包 匆 北"),
  (0x2f82c, "卉 卑 博 即 卽 卿 卿 卿 𠨬 灰 及 叟 𠭣 叫 叱 吆 咞 吸 呈 周 咢 哶 唐 啓 啣 善 善 喙 喫 喳 嗂 圖 嘆 圗 噑 噴 切 壮 城 埴 堍 型 堲 報"),
  (0x2f858, "墬 𡓤 売 壷 夆 多 夢 奢 𡚨 𡛪 姬 娛 娧 姘 婦 㛮 㛼 嬈 嬾 嬾 𡧈 寃 寘 寧 寳 𡬘 寿 将 当 尢 㞁 屠 屮 峀 岍 𡷤 嵃 𡷦 嵮 嵫 嵼 巡 巢 㠯"),
  (0x2f884, "巽 帨 帽 幩 㡢 𢆃 㡼 庰 庳 庶 廊 𪎒 廾 𢌱 𢌱 舁 弢 弢 㣇 𣊸 𦇚 形 彫 㣣 徚 忍 志 忹 悁 㤺 㤜 悔 𢛔 惇 慈 慌 慎 慌 慺 憎 憲 憤 憯 懞"),
  (0x2f8b0, "懲 懶 成 戛 扝 抱 拔 捐 𢬌 挽 拼 捨 掃 揤 𢯱 搢 揅 掩 㨮 摩 摾 撝 摷 㩬 敏 敬 𣀊 旣 書 晉 㬙 暑 㬈 㫤 冒 冕 最 暜 肭 䏙 朗 望 朡 杞"),
  (0x2f8dc, "杓 𣏃 㭉 柺 枅 桒 梅 𣑭 梎 栟 椔 㮝 楂 榣 槪 檨 𣚣 櫛 㰘 次 𣢧 歔 㱎 歲 殟 殺 殻 𣪍 𡴋 𣫺 汎 𣲼 沿 泍 汧 洖 派 海 流 浩 浸 涅 𣴞 洴"),
  (0x2f908, "港 湮 㴳 滋 滇 𣻑 淹 潮 𣽞 𣾎 濆 瀹 瀞 瀛 㶖 灊 災 灷 炭 𠔥 煅 𤉣 熜 𤎫 爨 爵 牐 𤘈 犀 犕 𤜵 𤠔 獺 王 㺬 玥 㺸 㺸 瑇 瑜 瑱 璅 瓊 㼛"),
  (0x2f934, "甤 𤰶 甾 𤲒 異 𢆟 瘐 𤾡 𤾸 𥁄 㿼 䀈 直 𥃳 𥃲 𥄙 𥄳 眞 真 真 睊 䀹 瞋 䁆 䂖 𥐝 硎 碌 磌 䃣 𥘦 祖 𥚚 𥛅 福 秫 䄯 穀 穊 穏 𥥼 𥪧 𥪧 竮"),
  (0x2f960, "䈂 𥮫 篆 築 䈧 𥲀 糒 䊠 糨 糣 紀 𥾆 絣 䌁 緇 縂 繅 䌴 𦈨 𦉇 䍙 𦋙 罺 𦌾 羕 翺 者 𦓚 𦔣 聠 𦖨 聰 𣍟 䏕 育 脃 䐋 脾 媵 𦞧 𦞵 𣎓 𣎜 舁"),
  (0x2f98c, "舄 辞 䑫 芑 芋 芝 劳 花 芳 芽 苦 𦬼 若 茝 荣 莭 茣 莽 菧 著 荓 菊 菌 菜 𦰶 𦵫 𦳕 䔫 蓱 蓳 蔖 𧏊 蕤 𦼬 䕝 䕡 𦾱 𧃒 䕫 虐 虜 虧 虩 蚩"),
  (0x2f9b8, "蚈 蜎 蛢 蝹 蜨 蝫 螆 䗗 蟡 蠁 䗹 衠 衣 𧙧 裗 裞 䘵 裺 㒻 𧢮 𧥦 䚾 䛇 誠 諭 變 豕 𧲨 貫 賁 贛 起 𧼯 𠠄 跋 趼 跰 𠣞 軔 輸 𨗒 𨗭 邔 郱"),
  (0x2f9e4, "鄑 𨜮 鄛 鈸 鋗 鋘 鉼 鏹 鐕 𨯺 開 䦕 閷 𨵷 䧦 雃 嶲 霣 𩅅 𩈚 䩮 䩶 韠 𩐊 䪲 𩒖 頋 頋 頩 𩖶 飢 䬳 餩 馧 駂 駾 䯎 𩬰 鬒 鱀 鳽 䳎 䳭 鵧"),
  (0x2fa10, "𪃎 䳸 𪄅 𪈎 𪊑 麻 䵖 黹 黾 鼅 鼏 鼖 鼻 𪘀")]

/-- Letters of Hebrew and Arabic in a given position, and their ligatures. -/
private def presentation : List (Nat × String) := [
  (0xfb1d, "יִ ﬞ ײַ ע א ד ה כ ל ם ר ת + שׁ שׂ שּׁ שּׂ אַ אָ אּ בּ גּ דּ הּ וּ זּ"),
  (0xfb38, "טּ יּ ךּ כּ לּ"), (0xfb3e, "מּ"), (0xfb40, "נּ סּ"), (0xfb43, "ףּ פּ"),
  (0xfb46, "צּ קּ רּ שּ תּ וֹ בֿ כֿ פֿ אל ٱ ٱ ٻ ٻ ٻ ٻ پ پ پ پ ڀ ڀ ڀ ڀ ٺ ٺ ٺ ٺ ٿ ٿ ٿ ٿ ٹ ٹ ٹ ٹ ڤ ڤ ڤ"),
  (0xfb6d, "ڤ ڦ ڦ ڦ ڦ ڄ ڄ ڄ ڄ ڃ ڃ ڃ ڃ چ چ چ چ ڇ ڇ ڇ ڇ ڍ ڍ ڌ ڌ ڎ ڎ ڈ ڈ ژ ژ ڑ ڑ ک ک ک ک گ گ گ گ ڳ ڳ ڳ"),
  (0xfb99, "ڳ ڱ ڱ ڱ ڱ ں ں ڻ ڻ ڻ ڻ ۀ ۀ ہ ہ ہ ہ ھ ھ ھ ھ ے ے ۓ ۓ"),
  (0xfbd3, "ڭ ڭ ڭ ڭ ۇ ۇ ۆ ۆ ۈ ۈ ۇٴ ۋ ۋ ۅ ۅ ۉ ۉ ې ې ې ې ى ى ئا ئا ئە ئە ئو ئو ئۇ ئۇ ئۆ ئۆ ئۈ ئۈ ئې ئې"),
  (0xfbf8, "ئې ئى ئى ئى ی ی ی ی ئج ئح ئم ئى ئي بج بح بخ بم بى بي تج تح تخ تم تى تي ثج ثم ثى ثي جح جم"),
  (0xfc17, "حج حم خج خح خم سج سح سخ سم صح صم ضج ضح ضخ ضم طح طم ظم عج عم غج غم فج فح فخ فم فى في قح"),
  (0xfc34, "قم قى قي كا كج كح كخ كل كم كى كي لج لح لخ لم لى لي مج مح مخ مم مى مي نج نح نخ نم نى ني"),
  (0xfc51, "هج هم هى هي يج يح يخ يم يى يي ذٰ رٰ ىٰ"),
  (0xfc64, "ئر ئز ئم ئن ئى ئي بر بز بم بن بى بي تر تز تم تن تى تي ثر ثز ثم ثن ثى ثي فى في قى قي كا"),
  (0xfc81, "كل كم كى كي لم لى لي ما مم نر نز نم نن نى ني ىٰ ير يز يم ين يى يي ئج ئح ئخ ئم ئه بج بح"),
  (0xfc9e, "بخ بم به تج تح تخ تم ته ثم جح جم حج حم خج خم سج سح سخ سم صح صخ صم ضج ضح ضخ ضم طح ظم عج"),
  (0xfcbb, "عم غج غم فج فح فخ فم قح قم كج كح كخ كل كم لج لح لخ لم له مج مح مخ مم نج نح نخ نم نه هج"),
  (0xfcd8, "هم هٰ يج يح يخ يم يه ئم ئه بم به تم ته ثم ثه سم سه شم شه كل كم لم نم نه يم يه ـَّ ـُّ"),
  (0xfcf4, "ـِّ طى طي عى عي غى غي سى سي شى شي حى حي جى جي خى خي صى صي ضى ضي شج شح شخ شم شر سر صر ضر"),
  (0xfd11, "طى طي عى عي غى غي سى سي شى شي حى حي جى جي خى خي صى صي ضى ضي شج شح شخ شم شر سر صر ضر شج"),
  (0xfd2e, "شح شخ شم سه شه طم سج سح سخ شج شح شخ طم ظم اً اً"),
  (0xfd50, "تجم تحج تحج تحم تخم تمج تمح تمخ جمح جمح حمي حمى سحج سجح سجى سمح سمح سمج سمم سمم صحح صحح"),
  (0xfd66, "صمم شحم شحم شجي شمخ شمخ شمم شمم ضحى ضخم ضخم طمح طمح طمم طمي عجم عمم عمم عمى غمم غمي غمى"),
  (0xfd7c, "فخم فخم قمح قمم لحم لحي لحى لجج لجج لخم لخم لمح لمح محج محم محي مجح مجم مخج مخم"),
  (0xfd92, "مجخ همج همم نحم نحى نجم نجم نجى نمي نمى يمم يمم بخي تجي تجى تخي تخى تمي تمى جمي جحى جمى"),
  (0xfda8, "سخى صحي شحي ضحي لجي لمي يحي يجي يمي ممي قمي نحي قمح لحم عمي كمي نجح مخي لجم كمم لجم نجح"),
  (0xfdbe, "جحي حجي مجي فمي بحي كمم عجم صمم سخي نجي"),
  (0xfdf0, "صلے قلے الله اكبر محمد صلعم رسول عليه وسلم صلى"), (0xfdfc, "ریال"), (0xfe71, "ـً"),
  (0xfe77, "ـَ"), (0xfe79, "ـُ"), (0xfe7b, "ـِ"), (0xfe7d, "ـّ"),
  (0xfe7f, "ـْ ء آ آ أ أ ؤ ؤ إ إ ئ ئ ئ ئ ا ا ب ب ب ب ة ة ت ت ت ت ث ث ث ث ج ج ج ج ح ح ح ح خ خ خ خ د د"),
  (0xfeab, "ذ ذ ر ر ز ز س س س س ش ش ش ش ص ص ص ص ض ض ض ض ط ط ط ط ظ ظ ظ ظ ع ع ع ع غ غ غ غ ف ف ف ف ق ق"),
  (0xfed7, "ق ق ك ك ك ك ل ل ل ل م م م م ن ن ن ن ه ه ه ه و و ى ى ي ي ي ي لآ لآ لأ لأ لإ لإ لا لا"),
  (0x1ee00, "ا ب ج د"), (0x1ee05, "و ز ح ط ي ك ل م ن س ع ف ص ق ر ش ت ث خ ذ ض ظ غ ٮ ں ڡ ٯ"),
  (0x1ee21, "ب ج"), (0x1ee24, "ه"), (0x1ee27, "ح"), (0x1ee29, "ي ك ل م ن س ع ف ص ق"),
  (0x1ee34, "ش ت ث خ"), (0x1ee39, "ض"), (0x1ee3b, "غ"), (0x1ee42, "ج"), (0x1ee47, "ح"),
  (0x1ee49, "ي"), (0x1ee4b, "ل"), (0x1ee4d, "ن س ع"), (0x1ee51, "ص ق"), (0x1ee54, "ش"),
  (0x1ee57, "خ"), (0x1ee59, "ض"), (0x1ee5b, "غ"), (0x1ee5d, "ں"), (0x1ee5f, "ٯ"),
  (0x1ee61, "ب ج"), (0x1ee64, "ه"), (0x1ee67, "ح ط ي ك"), (0x1ee6c, "م ن س ع ف ص ق"),
  (0x1ee74, "ش ت ث خ"), (0x1ee79, "ض ظ غ ٮ"), (0x1ee7e, "ڡ"), (0x1ee80, "ا ب ج د ه و ز ح ط ي"),
  (0x1ee8b, "ل م ن س ع ف ص ق ر ش ت ث خ ذ ض ظ غ"), (0x1eea1, "ب ج د"), (0x1eea5, "و ز ح ط ي"),
  (0x1eeab, "ل م ن س ع ف ص ق ر ش ت ث خ ذ ض ظ غ")]

/-- The words of the rows, each row with its first code point. -/
def forms : List (Nat × List (List Char)) :=
  (letters ++ symbols ++ radicals ++ ideographs ++ presentation).map fun (first, words) =>
    (first, Text.pieces ' ' words.toList)

/-- The written-out form of a code point. -/
def form? (n : Nat) : Option (List Char) :=
  forms.findSome? fun (first, words) => if first ≤ n then words[n - first]? else none

end Isochrone.Domain
