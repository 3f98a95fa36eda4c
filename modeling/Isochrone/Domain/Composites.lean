import Isochrone.Text.Pieces

/-!
# Composite characters

Characters that stand for another character with a mark. A row holds the mark and pairs
between blanks, each a base and the composite that it forms with the mark. A composite whose
base is a composite itself comes before that one, so that one pass through the table takes a
character apart.
-/

namespace Isochrone.Domain

/-- A character that stands for a base with a mark. -/
structure Composite where
  whole : Char
  base : Char
  mark : Char
  deriving DecidableEq, Repr

/-- Composites over composites, those with three marks first. -/
private def nested : List (Nat × String) := [
  (0x345, "ἂᾂ ἃᾃ ἄᾄ ἅᾅ ἆᾆ ἇᾇ Ἂᾊ Ἃᾋ Ἄᾌ Ἅᾍ Ἆᾎ Ἇᾏ ἢᾒ ἣᾓ ἤᾔ ἥᾕ ἦᾖ ἧᾗ Ἢᾚ Ἣᾛ Ἤᾜ Ἥᾝ Ἦᾞ Ἧᾟ ὢᾢ ὣᾣ ὤᾤ ὥᾥ"),
  (0x345, "ὦᾦ ὧᾧ Ὢᾪ Ὣᾫ Ὤᾬ Ὥᾭ Ὦᾮ Ὧᾯ"),
  (0x300, "ÜǛ üǜ ĒḔ ēḕ ŌṐ ōṑ ÂẦ âầ ĂẰ ăằ ÊỀ êề ÔỒ ôồ ƠỜ ơờ ƯỪ ưừ ἀἂ ἁἃ ἈἊ ἉἋ ἐἒ ἑἓ ἘἚ ἙἛ ἠἢ ἡἣ"),
  (0x300, "ἨἪ ἩἫ ἰἲ ἱἳ ἸἺ ἹἻ ὀὂ ὁὃ ὈὊ ὉὋ ὐὒ ὑὓ ὙὛ ὠὢ ὡὣ ὨὪ ὩὫ ϊῒ ϋῢ"),
  (0x301, "ÜǗ üǘ ÅǺ åǻ ϊΐ ϋΰ ÇḈ çḉ ĒḖ ēḗ ÏḮ ïḯ ÕṌ õṍ ŌṒ ōṓ ŨṸ ũṹ ÂẤ âấ ĂẮ ăắ ÊẾ êế ÔỐ ôố ƠỚ ơớ"),
  (0x301, "ƯỨ ưứ ἀἄ ἁἅ ἈἌ ἉἍ ἐἔ ἑἕ ἘἜ ἙἝ ἠἤ ἡἥ ἨἬ ἩἭ ἰἴ ἱἵ ἸἼ ἹἽ ὀὄ ὁὅ ὈὌ ὉὍ ὐὔ ὑὕ ὙὝ ὠὤ ὡὥ ὨὬ"),
  (0x301, "ὩὭ"), (0x302, "ẠẬ ạậ ẸỆ ẹệ ỌỘ ọộ"), (0x303, "ÂẪ âẫ ĂẴ ăẵ ÊỄ êễ ÔỖ ôỗ ƠỠ ơỡ ƯỮ ưữ"),
  (0x304, "ÜǕ üǖ ÄǞ äǟ ȦǠ ȧǡ ǪǬ ǫǭ ÖȪ öȫ ÕȬ õȭ ȮȰ ȯȱ ḶḸ ḷḹ ṚṜ ṛṝ"), (0x306, "ȨḜ ȩḝ ẠẶ ạặ"),
  (0x307, "ŚṤ śṥ ŠṦ šṧ ṢṨ ṣṩ"), (0x308, "ÕṎ õṏ ŪṺ ūṻ"),
  (0x309, "ÂẨ âẩ ĂẲ ăẳ ÊỂ êể ÔỔ ôổ ƠỞ ơở ƯỬ ưử"), (0x30c, "ÜǙ üǚ"), (0x323, "ƠỢ ơợ ƯỰ ưự"),
  (0x342, "ἀἆ ἁἇ ἈἎ ἉἏ ἠἦ ἡἧ ἨἮ ἩἯ ἰἶ ἱἷ ἸἾ ἹἿ ὐὖ ὑὗ ὙὟ ὠὦ ὡὧ ὨὮ ὩὯ ϊῗ ϋῧ"),
  (0x345, "ἀᾀ ἁᾁ Ἀᾈ Ἁᾉ ἠᾐ ἡᾑ Ἠᾘ Ἡᾙ ὠᾠ ὡᾡ Ὠᾨ Ὡᾩ ὰᾲ άᾴ ᾶᾷ ὴῂ ήῄ ῆῇ ὼῲ ώῴ ῶῷ"), (0xcd5, "ೊೋ"),
  (0xdca, "ොෝ"), (0x1611f, "𖄡𖄦 𖄢𖄧"), (0x16120, "𖄡𖄨"), (0x16d67, "𖵩𖵪")]

/-- Composites over plain bases. -/
private def simple : List (Nat × String) := [
  (0x300, "AÀ EÈ IÌ OÒ UÙ aà eè iì oò uù NǸ nǹ ЕЀ ИЍ еѐ иѝ WẀ wẁ YỲ yỳ αὰ εὲ ηὴ ιὶ οὸ υὺ ωὼ ΑᾺ"),
  (0x300, "ΕῈ ΗῊ ᾿῍ ΙῚ ῾῝ ΥῪ ¨῭ ΟῸ ΩῺ"),
  (0x301, "AÁ EÉ IÍ OÓ UÚ YÝ aá eé ií oó uú yý CĆ cć LĹ lĺ NŃ nń RŔ rŕ SŚ sś ZŹ zź GǴ gǵ ÆǼ æǽ"),
  (0x301, "ØǾ øǿ ¨΅ ΑΆ ΕΈ ΗΉ ΙΊ ΟΌ ΥΎ ΩΏ αά εέ ηή ιί οό υύ ωώ ϒϓ ГЃ КЌ гѓ кќ KḰ kḱ MḾ mḿ PṔ pṕ"),
  (0x301, "WẂ wẃ ᾿῎ ῾῞"),
  (0x302, "AÂ EÊ IÎ OÔ UÛ aâ eê iî oô uû CĈ cĉ GĜ gĝ HĤ hĥ JĴ jĵ SŜ sŝ WŴ wŵ YŶ yŷ ZẐ zẑ"),
  (0x303, "AÃ NÑ OÕ aã nñ oõ IĨ iĩ UŨ uũ VṼ vṽ EẼ eẽ YỸ yỹ"),
  (0x304, "AĀ aā EĒ eē IĪ iī OŌ oō UŪ uū ÆǢ æǣ YȲ yȳ ИӢ иӣ УӮ уӯ GḠ gḡ αᾱ ΑᾹ ιῑ ΙῙ υῡ ΥῩ"),
  (0x306, "AĂ aă EĔ eĕ GĞ gğ IĬ iĭ OŎ oŏ UŬ uŭ УЎ ИЙ ий уў ЖӁ жӂ АӐ аӑ ЕӖ еӗ αᾰ ΑᾸ ιῐ ΙῘ υῠ ΥῨ"),
  (0x307, "CĊ cċ EĖ eė GĠ gġ Iİ ZŻ zż AȦ aȧ OȮ oȯ BḂ bḃ DḊ dḋ FḞ fḟ HḢ hḣ MṀ mṁ NṄ nṅ PṖ pṗ RṘ"),
  (0x307, "rṙ SṠ sṡ TṪ tṫ WẆ wẇ XẊ xẋ YẎ yẏ ſẛ 𐗒𐗉 𐗚𐗤"),
  (0x308, "AÄ EË IÏ OÖ UÜ aä eë iï oö uü yÿ YŸ ΙΪ ΥΫ ιϊ υϋ ϒϔ ЕЁ ІЇ её ії АӒ аӓ ӘӚ әӛ ЖӜ жӝ ЗӞ"),
  (0x308, "зӟ ИӤ иӥ ОӦ оӧ ӨӪ өӫ ЭӬ эӭ УӰ уӱ ЧӴ чӵ ЫӸ ыӹ HḦ hḧ WẄ wẅ XẌ xẍ tẗ"),
  (0x309, "AẢ aả EẺ eẻ IỈ iỉ OỎ oỏ UỦ uủ YỶ yỷ"), (0x30a, "AÅ aå UŮ uů wẘ yẙ"),
  (0x30b, "OŐ oő UŰ uű УӲ уӳ"),
  (0x30c, "CČ cč DĎ dď EĚ eě LĽ lľ NŇ nň RŘ rř SŠ sš TŤ tť ZŽ zž AǍ aǎ IǏ iǐ OǑ oǒ UǓ uǔ GǦ gǧ"),
  (0x30c, "KǨ kǩ ƷǮ ʒǯ jǰ HȞ hȟ"), (0x30f, "AȀ aȁ EȄ eȅ IȈ iȉ OȌ oȍ RȐ rȑ UȔ uȕ ѴѶ ѵѷ"),
  (0x311, "AȂ aȃ EȆ eȇ IȊ iȋ OȎ oȏ RȒ rȓ UȖ uȗ"),
  (0x313, "αἀ ΑἈ εἐ ΕἘ ηἠ ΗἨ ιἰ ΙἸ οὀ ΟὈ υὐ ωὠ ΩὨ ρῤ"),
  (0x314, "αἁ ΑἉ εἑ ΕἙ ηἡ ΗἩ ιἱ ΙἹ οὁ ΟὉ υὑ ΥὙ ωὡ ΩὩ ρῥ ΡῬ"), (0x31b, "OƠ oơ UƯ uư"),
  (0x323, "BḄ bḅ DḌ dḍ HḤ hḥ KḲ kḳ LḶ lḷ MṂ mṃ NṆ nṇ RṚ rṛ SṢ sṣ TṬ tṭ VṾ vṿ WẈ wẉ ZẒ zẓ AẠ aạ"),
  (0x323, "EẸ eẹ IỊ iị OỌ oọ UỤ uụ YỴ yỵ"), (0x324, "UṲ uṳ"), (0x325, "AḀ aḁ"),
  (0x326, "SȘ sș TȚ tț"),
  (0x327, "CÇ cç GĢ gģ KĶ kķ LĻ lļ NŅ nņ RŖ rŗ SŞ sş TŢ tţ EȨ eȩ DḐ dḑ HḨ hḩ"),
  (0x328, "AĄ aą EĘ eę IĮ iį UŲ uų OǪ oǫ"), (0x32d, "DḒ dḓ EḘ eḙ LḼ lḽ NṊ nṋ TṰ tṱ UṶ uṷ"),
  (0x32e, "HḪ hḫ"), (0x330, "EḚ eḛ IḬ iḭ UṴ uṵ"),
  (0x331, "BḆ bḇ DḎ dḏ KḴ kḵ LḺ lḻ NṈ nṉ RṞ rṟ TṮ tṯ ZẔ zẕ hẖ"),
  (0x338, "←↚ →↛ ↔↮ ⇐⇍ ⇔⇎ ⇒⇏ ∃∄ ∈∉ ∋∌ ∣∤ ∥∦ ∼≁ ≃≄ ≅≇ ≈≉ =≠ ≡≢ ≍≭ <≮ >≯ ≤≰ ≥≱ ≲≴ ≳≵ ≶≸ ≷≹ ≺⊀ ≻⊁"),
  (0x338, "⊂⊄ ⊃⊅ ⊆⊈ ⊇⊉ ⊢⊬ ⊨⊭ ⊩⊮ ⊫⊯ ≼⋠ ≽⋡ ⊑⋢ ⊒⋣ ⊲⋪ ⊳⋫ ⊴⋬ ⊵⋭"), (0x342, "αᾶ ¨῁ ηῆ ᾿῏ ιῖ ῾῟ υῦ ωῶ"),
  (0x345, "αᾳ Αᾼ ηῃ Ηῌ ωῳ Ωῼ"), (0x653, "اآ"), (0x654, "اأ وؤ يئ ەۀ ہۂ ےۓ"), (0x655, "اإ"),
  (0x93c, "नऩ रऱ ळऴ"), (0x9be, "েো"), (0x9d7, "েৌ"), (0xb3e, "େୋ"), (0xb56, "େୈ"), (0xb57, "େୌ"),
  (0xbbe, "ெொ ேோ"), (0xbd7, "ஒஔ ெௌ"), (0xc56, "ెై"), (0xcc2, "ೆೊ"), (0xcd5, "ಿೀ ೆೇ"),
  (0xcd6, "ೆೈ"), (0xd3e, "െൊ േോ"), (0xd57, "െൌ"), (0xdca, "ෙේ"), (0xdcf, "ෙො"), (0xddf, "ෙෞ"),
  (0x102e, "ဥဦ"), (0x1b35, "ᬅᬆ ᬇᬈ ᬉᬊ ᬋᬌ ᬍᬎ ᬑᬒ ᬺᬻ ᬼᬽ ᬾᭀ ᬿᭁ ᭂᭃ"),
  (0x3099, "かが きぎ くぐ けげ こご さざ しじ すず せぜ そぞ ただ ちぢ つづ てで とど はば ひび ふぶ へべ ほぼ うゔ ゝゞ カガ キギ クグ ケゲ コゴ サザ"),
  (0x3099, "シジ スズ セゼ ソゾ タダ チヂ ツヅ テデ トド ハバ ヒビ フブ ヘベ ホボ ウヴ ワヷ ヰヸ ヱヹ ヲヺ ヽヾ"),
  (0x309a, "はぱ ひぴ ふぷ へぺ ほぽ ハパ ヒピ フプ ヘペ ホポ"), (0x110ba, "𑂙𑂚 𑂛𑂜 𑂥𑂫"), (0x11127, "𑄱𑄮 𑄲𑄯"),
  (0x1133e, "𑍇𑍋"), (0x11357, "𑍇𑍌"), (0x113b8, "𑏅𑎸"), (0x113bb, "𑎄𑎅"), (0x113c2, "𑎋𑎎 𑏅𑏂"),
  (0x113c9, "𑎂𑎃 𑎐𑎑 𑏅𑏉"), (0x114b0, "𑒹𑒼"), (0x114ba, "𑒹𑒻"), (0x114bd, "𑒹𑒾"), (0x115af, "𑖸𑖺 𑖹𑖻"),
  (0x11930, "𑤵𑤸"), (0x1611e, "𖄡𖄞"), (0x1611f, "𖄦 𖄩𖄤"), (0x16120, "𖄨"), (0x16129, "𖄡𖄩"),
  (0x16d67, "𖵨𖵧 𖵣𖵩")]

/-- The composites of a row. -/
def compositesOf (mark : Nat) (pairs : String) : List Composite :=
  (Text.pieces ' ' pairs.toList).filterMap fun
    | [base, whole] => some ⟨whole, base, Char.ofNat mark⟩
    | _ => none

/-- All composites but the syllables of Hangul. -/
def composites : List Composite :=
  (nested ++ simple).flatMap fun (mark, pairs) => compositesOf mark pairs

end Isochrone.Domain
