import Herald.Url.Name.Ranges

/-!
# Composite characters

Characters that stand for a character and a mark behind it, as far as folding leaves them.
-/

namespace Herald.Url.Name

/-- For each mark the characters that take it in, each in front of the one that holds both. -/
def compositeRows : List (Nat × String) := [
  (0x0300, "aà eè iì oò uù üǜ nǹ еѐ иѝ ēḕ ōṑ wẁ âầ ăằ êề ôồ ơờ ưừ yỳ ἀἂ ἁἃ ἐἒ ἑἓ ἠἢ ἡἣ ἰἲ ἱἳ ὀὂ ὁὃ ὐὒ ὑὓ ὠὢ ὡὣ αὰ εὲ ηὴ ιὶ οὸ υὺ ωὼ ϊῒ ϋῢ"),
  (0x0301, "aá eé ií oó uú yý cć lĺ nń rŕ sś zź üǘ gǵ åǻ æǽ øǿ ϊΐ αά εέ ηή ιί ϋΰ οό υύ ωώ гѓ кќ çḉ ēḗ ïḯ kḱ mḿ õṍ ōṓ pṕ ũṹ wẃ âấ ăắ êế ôố ơớ ưứ ἀἄ ἁἅ ἐἔ ἑἕ ἠἤ ἡἥ ἰἴ ἱἵ ὀὄ ὁὅ ὐὔ ὑὕ ὠὤ ὡὥ"),
  (0x0302, "aâ eê iî oô uû cĉ gĝ hĥ jĵ sŝ wŵ yŷ zẑ ạậ ẹệ ọộ"),
  (0x0303, "aã nñ oõ iĩ uũ vṽ âẫ ăẵ eẽ êễ ôỗ ơỡ ưữ yỹ"),
  (0x0304, "aā eē iī oō uū üǖ äǟ ȧǡ æǣ ǫǭ öȫ õȭ ȯȱ yȳ иӣ уӯ gḡ ḷḹ ṛṝ αᾱ ιῑ υῡ"),
  (0x0306, "aă eĕ gğ iĭ oŏ uŭ ий уў жӂ аӑ еӗ ȩḝ ạặ αᾰ ιῐ υῠ"),
  (0x0307, "cċ eė gġ zż aȧ oȯ bḃ dḋ fḟ hḣ mṁ nṅ pṗ rṙ sṡ śṥ šṧ ṣṩ tṫ wẇ xẋ yẏ 𐗒𐗉 𐗚𐗤"),
  (0x0308, "aä eë iï oö uü yÿ ιϊ υϋ её ії аӓ әӛ жӝ зӟ иӥ оӧ өӫ эӭ уӱ чӵ ыӹ hḧ õṏ ūṻ wẅ xẍ tẗ"),
  (0x0309, "aả âẩ ăẳ eẻ êể iỉ oỏ ôổ ơở uủ ưử yỷ"),
  (0x030A, "aå uů wẘ yẙ"),
  (0x030B, "oő uű уӳ"),
  (0x030C, "cč dď eě lľ nň rř sš tť zž aǎ iǐ oǒ uǔ üǚ gǧ kǩ ʒǯ jǰ hȟ"),
  (0x030F, "aȁ eȅ iȉ oȍ rȑ uȕ ѵѷ"),
  (0x0311, "aȃ eȇ iȋ oȏ rȓ uȗ"),
  (0x0313, "αἀ εἐ ηἠ ιἰ οὀ υὐ ωὠ ρῤ"),
  (0x0314, "αἁ εἑ ηἡ ιἱ οὁ υὑ ωὡ ρῥ"),
  (0x031B, "oơ uư"),
  (0x0323, "bḅ dḍ hḥ kḳ lḷ mṃ nṇ rṛ sṣ tṭ vṿ wẉ zẓ aạ eẹ iị oọ ơợ uụ ưự yỵ"),
  (0x0324, "uṳ"),
  (0x0325, "aḁ"),
  (0x0326, "sș tț"),
  (0x0327, "cç gģ kķ lļ nņ rŗ sş tţ eȩ dḑ hḩ"),
  (0x0328, "aą eę iį uų oǫ"),
  (0x032D, "dḓ eḙ lḽ nṋ tṱ uṷ"),
  (0x032E, "hḫ"),
  (0x0330, "eḛ iḭ uṵ"),
  (0x0331, "bḇ dḏ kḵ lḻ nṉ rṟ tṯ zẕ hẖ"),
  (0x0338, "←↚ →↛ ↔↮ ⇐⇍ ⇔⇎ ⇒⇏ ∃∄ ∈∉ ∋∌ ∣∤ ∥∦ ∼≁ ≃≄ ≅≇ ≈≉ =≠ ≡≢ ≍≭ <≮ >≯ ≤≰ ≥≱ ≲≴ ≳≵ ≶≸ ≷≹ ≺⊀ ≻⊁ ⊂⊄ ⊃⊅ ⊆⊈ ⊇⊉ ⊢⊬ ⊨⊭ ⊩⊮ ⊫⊯ ≼⋠ ≽⋡ ⊑⋢ ⊒⋣ ⊲⋪ ⊳⋫ ⊴⋬ ⊵⋭"),
  (0x0342, "ἀἆ ἁἇ ἠἦ ἡἧ ἰἶ ἱἷ ὐὖ ὑὗ ὠὦ ὡὧ αᾶ ηῆ ιῖ ϊῗ υῦ ϋῧ ωῶ"),
  (0x0653, "اآ"),
  (0x0654, "اأ وؤ يئ ەۀ ہۂ ےۓ"),
  (0x0655, "اإ"),
  (0x093C, "नऩ रऱ ळऴ"),
  (0x09BE, "\u09c7\u09cb"),
  (0x09D7, "\u09c7\u09cc"),
  (0x0B3E, "\u0b47\u0b4b"),
  (0x0B56, "\u0b47\u0b48"),
  (0x0B57, "\u0b47\u0b4c"),
  (0x0BBE, "\u0bc6\u0bca \u0bc7\u0bcb"),
  (0x0BD7, "ஒஔ \u0bc6\u0bcc"),
  (0x0C56, "\u0c46\u0c48"),
  (0x0CC2, "\u0cc6\u0cca"),
  (0x0CD5, "\u0cbf\u0cc0 \u0cc6\u0cc7 \u0cca\u0ccb"),
  (0x0CD6, "\u0cc6\u0cc8"),
  (0x0D3E, "\u0d46\u0d4a \u0d47\u0d4b"),
  (0x0D57, "\u0d46\u0d4c"),
  (0x0DCA, "\u0dd9\u0dda \u0ddc\u0ddd"),
  (0x0DCF, "\u0dd9\u0ddc"),
  (0x0DDF, "\u0dd9\u0dde"),
  (0x102E, "ဥဦ"),
  (0x1B35, "ᬅᬆ ᬇᬈ ᬉᬊ ᬋᬌ ᬍᬎ ᬑᬒ \u1b3a\u1b3b \u1b3c\u1b3d \u1b3e\u1b40 \u1b3f\u1b41 \u1b42\u1b43"),
  (0x3099, "かが きぎ くぐ けげ こご さざ しじ すず せぜ そぞ ただ ちぢ つづ てで とど はば ひび ふぶ へべ ほぼ うゔ ゝゞ カガ キギ クグ ケゲ コゴ サザ シジ スズ セゼ ソゾ タダ チヂ ツヅ テデ トド ハバ ヒビ フブ ヘベ ホボ ウヴ ワヷ ヰヸ ヱヹ ヲヺ ヽヾ"),
  (0x309A, "はぱ ひぴ ふぷ へぺ ほぽ ハパ ヒピ フプ ヘペ ホポ"),
  (0x110BA, "𑂙𑂚 𑂛𑂜 𑂥𑂫"),
  (0x11127, "𑄱𑄮 𑄲𑄯"),
  (0x1133E, "𑍇𑍋"),
  (0x11357, "𑍇𑍌"),
  (0x113B8, "𑏅𑎸"),
  (0x113BB, "𑎄𑎅"),
  (0x113C2, "𑎋𑎎 𑏅𑏂"),
  (0x113C9, "𑎂𑎃 𑎐𑎑 𑏅𑏉"),
  (0x114B0, "𑒹𑒼"),
  (0x114BA, "𑒹𑒻"),
  (0x114BD, "𑒹𑒾"),
  (0x115AF, "𑖸𑖺 𑖹𑖻"),
  (0x11930, "𑤵𑤸"),
  (0x1611E, "𖄡𖄞"),
  (0x1611F, "𖄦 𖄩𖄤 𖄡𖄦 𖄢𖄧"),
  (0x16120, "𖄨 𖄡𖄨"),
  (0x16129, "𖄡𖄩"),
  (0x16D67, "𖵨𖵧 𖵣𖵩 𖵩𖵪")]

end Herald.Url.Name
