import CallDispatch.Text.Pieces

/-!
# Characters that are replaced in domain names

Domain names are compared as they are written once every character has been replaced by the one that
stands for it: capital letters by small ones, letters of other widths and shapes by plain ones, and
signs that abbreviate some characters by those. A few characters that show nothing are dropped.

## Main definitions

* `Replacement.replaced`: what stands for a character.
-/

namespace CallDispatch.Url.Replacement

open Text

/-! ## Tables -/

/-- First and last number of every run of characters outside ASCII that are replaced by one other
each, the step between them, and what the first is replaced by: the others are replaced by
characters at the same distance. -/
def shifts : List (Nat × Nat × Nat × Nat) := [
  (0xC0, 0xD6, 1, 0xE0), (0x100, 0x12E, 2, 0x101), (0x14A, 0x176, 2, 0x14B),
  (0x1CD, 0x1DB, 2, 0x1CE), (0x1DE, 0x1EE, 2, 0x1DF), (0x1F8, 0x21E, 2, 0x1F9),
  (0x222, 0x232, 2, 0x223), (0x391, 0x3A1, 1, 0x3B1), (0x3D8, 0x3EE, 2, 0x3D9),
  (0x400, 0x40F, 1, 0x450), (0x410, 0x42F, 1, 0x430), (0x460, 0x480, 2, 0x461),
  (0x48A, 0x4BE, 2, 0x48B), (0x4C1, 0x4CD, 2, 0x4C2), (0x4D0, 0x52E, 2, 0x4D1),
  (0x531, 0x556, 1, 0x561), (0x10A0, 0x10C5, 1, 0x2D00), (0x1C90, 0x1CBA, 1, 0x10D0),
  (0x1E00, 0x1E94, 2, 0x1E01), (0x1EA0, 0x1EFE, 2, 0x1EA1), (0x24B6, 0x24CF, 1, 0x61),
  (0x24D0, 0x24E9, 1, 0x61), (0x2C00, 0x2C2F, 1, 0x2C30), (0x2C80, 0x2CE2, 2, 0x2C81),
  (0x314F, 0x3163, 1, 0x1161), (0xA640, 0xA66C, 2, 0xA641), (0xA680, 0xA69A, 2, 0xA681),
  (0xA722, 0xA72E, 2, 0xA723), (0xA732, 0xA76E, 2, 0xA733), (0xA796, 0xA7A8, 2, 0xA797),
  (0xA7B4, 0xA7C2, 2, 0xA7B5), (0xA7CC, 0xA7DA, 2, 0xA7CD), (0xAB70, 0xABBF, 1, 0x13A0),
  (0xFF01, 0xFF20, 1, 0x21), (0xFF21, 0xFF3A, 1, 0x61), (0xFF3B, 0xFF5E, 1, 0x5B),
  (0x10400, 0x10427, 1, 0x10428), (0x104B0, 0x104D3, 1, 0x104D8), (0x1057C, 0x1058A, 1, 0x105A3),
  (0x10C80, 0x10CB2, 1, 0x10CC0), (0x10D50, 0x10D65, 1, 0x10D70), (0x118A0, 0x118BF, 1, 0x118C0),
  (0x16E40, 0x16E5F, 1, 0x16E60), (0x16EA0, 0x16EB8, 1, 0x16EBB), (0x1CCD6, 0x1CCEF, 1, 0x61),
  (0x1D400, 0x1D419, 1, 0x61), (0x1D41A, 0x1D433, 1, 0x61), (0x1D434, 0x1D44D, 1, 0x61),
  (0x1D456, 0x1D467, 1, 0x69), (0x1D468, 0x1D481, 1, 0x61), (0x1D482, 0x1D49B, 1, 0x61),
  (0x1D4B7, 0x1D4CF, 2, 0x62), (0x1D4D0, 0x1D4E9, 1, 0x61), (0x1D4EA, 0x1D503, 1, 0x61),
  (0x1D50E, 0x1D51C, 2, 0x6B), (0x1D51E, 0x1D537, 1, 0x61), (0x1D552, 0x1D56B, 1, 0x61),
  (0x1D56C, 0x1D585, 1, 0x61), (0x1D586, 0x1D59F, 1, 0x61), (0x1D5A0, 0x1D5B9, 1, 0x61),
  (0x1D5BA, 0x1D5D3, 1, 0x61), (0x1D5D4, 0x1D5ED, 1, 0x61), (0x1D5EE, 0x1D607, 1, 0x61),
  (0x1D608, 0x1D621, 1, 0x61), (0x1D622, 0x1D63B, 1, 0x61), (0x1D63C, 0x1D655, 1, 0x61),
  (0x1D656, 0x1D66F, 1, 0x61), (0x1D670, 0x1D689, 1, 0x61), (0x1D68A, 0x1D6A3, 1, 0x61),
  (0x1D6A8, 0x1D6B8, 1, 0x3B1), (0x1D6C2, 0x1D6D2, 1, 0x3B1), (0x1D6E2, 0x1D6F2, 1, 0x3B1),
  (0x1D6FC, 0x1D70C, 1, 0x3B1), (0x1D71C, 0x1D72C, 1, 0x3B1), (0x1D736, 0x1D746, 1, 0x3B1),
  (0x1D756, 0x1D766, 1, 0x3B1), (0x1D770, 0x1D780, 1, 0x3B1), (0x1D790, 0x1D7A0, 1, 0x3B1),
  (0x1D7AA, 0x1D7BA, 1, 0x3B1), (0x1E900, 0x1E921, 1, 0x1E922), (0x1F130, 0x1F149, 1, 0x61)]

/-- First and last number of every other run of characters outside ASCII, and what they are replaced
by, with bars between them; those with nothing between the bars stand for themselves. -/
def wordings : List (Nat × Nat × String) := [
  (0xA0, 0xBE, " |||||||| ̈||a||||| ̄|||2|3| ́|μ||| ̧|1|o||1⁄4|1⁄2|3⁄4"),
  (0xD8, 0xDE, "ø|ù|ú|û|ü|ý|þ"), (0x130, 0x149, "i̇||ij|ij|ĵ||ķ|||ĺ||ļ||ľ||l·|l·|ł||ń||ņ||ň||ʼn"),
  (0x178, 0x1A4, "ÿ|ź||ż||ž||s||ɓ|ƃ||ƅ||ɔ|ƈ||ɖ|ɗ|ƌ|||ǝ|ə|ɛ|ƒ||ɠ|ɣ||ɩ|ɨ|ƙ||||ɯ|ɲ||ɵ|ơ||ƣ||ƥ"),
  (0x1A6, 0x1CC, "ʀ|ƨ||ʃ|||ƭ||ʈ|ư||ʊ|ʋ|ƴ||ƶ||ʒ|ƹ||||ƽ||||||||dž|dž|dž|lj|lj|lj|nj|nj|nj"),
  (0x1F1, 0x1F7, "dz|dz|dz|ǵ||ƕ|ƿ"), (0x220, 0x220, "ƞ"),
  (0x23A, 0x24E, "ⱥ|ȼ||ƚ|ⱦ|||ɂ||ƀ|ʉ|ʌ|ɇ||ɉ||ɋ||ɍ||ɏ"), (0x2B0, 0x2B8, "h|ɦ|j|r|ɹ|ɻ|ʁ|w|y"),
  (0x2D8, 0x2E4, " ̆| ̇| ̊| ̨| ̃| ̋|||ɣ|l|s|x|ʕ"), (0x340, 0x345, "̀|́||̓|̈́|ι"),
  (0x370, 0x38F, "ͱ||ͳ||ʹ||ͷ|||| ι||||;|ϳ||||| ́| ̈́|ά|·|έ|ή|ί||ό||ύ|ώ"),
  (0x3A3, 0x3AB, "σ|τ|υ|φ|χ|ψ|ω|ϊ|ϋ"), (0x3CF, 0x3D6, "ϗ|β|θ|υ|ύ|ϋ|φ|π"),
  (0x3F0, 0x3FF, "κ|ρ|σ||θ|ε||ϸ||σ|ϻ|||ͻ|ͼ|ͽ"), (0x4C0, 0x4C0, "ӏ"), (0x587, 0x587, "եւ"),
  (0x675, 0x678, "اٴ|وٴ|ۇٴ|يٴ"), (0x958, 0x95F, "क़|ख़|ग़|ज़|ड़|ढ़|फ़|य़"),
  (0x9DC, 0x9DF, "ড়|ঢ়||য়"), (0xA33, 0xA36, "ਲ਼|||ਸ਼"), (0xA59, 0xA5E, "ਖ਼|ਗ਼|ਜ਼|||ਫ਼"),
  (0xB5C, 0xB5D, "ଡ଼|ଢ଼"), (0xE33, 0xE33, "ํา"), (0xEB3, 0xEB3, "ໍາ"), (0xEDC, 0xEDD, "ຫນ|ຫມ"),
  (0xF0C, 0xF0C, "་"), (0xF43, 0xF43, "གྷ"), (0xF4D, 0xF5C, "ཌྷ|||||དྷ|||||བྷ|||||ཛྷ"),
  (0xF69, 0xF69, "ཀྵ"), (0xF73, 0xF81, "ཱི||ཱུ|ྲྀ|ྲཱྀ|ླྀ|ླཱྀ||||||||ཱྀ"), (0xF93, 0xF93, "ྒྷ"),
  (0xF9D, 0xFAC, "ྜྷ|||||ྡྷ|||||ྦྷ|||||ྫྷ"), (0xFB9, 0xFB9, "ྐྵ"), (0x10C7, 0x10CD, "ⴧ||||||ⴭ"),
  (0x10FC, 0x10FC, "ნ"), (0x13F8, 0x13FD, "Ᏸ|Ᏹ|Ᏺ|Ᏻ|Ᏼ|Ᏽ"), (0x1C80, 0x1C89, "в|д|о|с|т|т|ъ|ѣ|ꙋ|ᲊ"),
  (0x1CBD, 0x1CBF, "ჽ|ჾ|ჿ"),
  (0x1D2C, 0x1D51, "a|æ|b||d|e|ǝ|g|h|i|j|k|l|m|n||o|ȣ|p|r|t|u|w|a|ɐ|ɑ|ᴂ|b|d|e|ə|ɛ|ɜ|g||k|m|ŋ"),
  (0x1D52, 0x1D6A, "o|ɔ|ᴖ|ᴗ|p|t|u|ᴝ|ɯ|v|ᴥ|β|γ|δ|φ|χ|i|r|u|v|β|γ|ρ|φ|χ"), (0x1D78, 0x1D78, "н"),
  (0x1D9B, 0x1DBE, "ɒ|c|ɕ|ð|ɜ|f|ɟ|ɡ|ɥ|ɨ|ɩ|ɪ|ᵻ|ʝ|ɭ|ᶅ|ʟ|ɱ|ɰ|ɲ|ɳ|ɴ|ɵ|ɸ|ʂ|ʃ|ƫ|ʉ|ʊ|ᴜ|ʋ|ʌ|z|ʐ|ʑ|ʒ"),
  (0x1DBF, 0x1DBF, "θ"), (0x1E9A, 0x1E9E, "aʾ|ṡ|||ß"), (0x1F08, 0x1F0F, "ἀ|ἁ|ἂ|ἃ|ἄ|ἅ|ἆ|ἇ"),
  (0x1F18, 0x1F1D, "ἐ|ἑ|ἒ|ἓ|ἔ|ἕ"), (0x1F28, 0x1F2F, "ἠ|ἡ|ἢ|ἣ|ἤ|ἥ|ἦ|ἧ"),
  (0x1F38, 0x1F3F, "ἰ|ἱ|ἲ|ἳ|ἴ|ἵ|ἶ|ἷ"), (0x1F48, 0x1F4D, "ὀ|ὁ|ὂ|ὃ|ὄ|ὅ"),
  (0x1F59, 0x1F5F, "ὑ||ὓ||ὕ||ὗ"),
  (0x1F68, 0x1F8A, "ὠ|ὡ|ὢ|ὣ|ὤ|ὥ|ὦ|ὧ||ά||έ||ή||ί||ό||ύ||ώ|||ἀι|ἁι|ἂι|ἃι|ἄι|ἅι|ἆι|ἇι|ἀι|ἁι|ἂι"),
  (0x1F8B, 0x1FA2, "ἃι|ἄι|ἅι|ἆι|ἇι|ἠι|ἡι|ἢι|ἣι|ἤι|ἥι|ἦι|ἧι|ἠι|ἡι|ἢι|ἣι|ἤι|ἥι|ἦι|ἧι|ὠι|ὡι|ὢι"),
  (0x1FA3, 0x1FBE, "ὣι|ὤι|ὥι|ὦι|ὧι|ὠι|ὡι|ὢι|ὣι|ὤι|ὥι|ὦι|ὧι|||ὰι|αι|άι|||ᾶι|ᾰ|ᾱ|ὰ|ά|αι| ̓|ι"),
  (0x1FBF, 0x1FDE, " ̓| ͂| ̈͂|ὴι|ηι|ήι|||ῆι|ὲ|έ|ὴ|ή|ηι| ̓̀| ̓́| ̓͂||||ΐ|||||ῐ|ῑ|ὶ|ί|| ̔̀| ̔́"),
  (0x1FDF, 0x2000, " ̔͂||||ΰ|||||ῠ|ῡ|ὺ|ύ|ῥ| ̈̀| ̈́|\x60|||ὼι|ωι|ώι|||ῶι|ὸ|ό|ὼ|ώ|ωι| ́| ̔|| "),
  (0x2001, 0x2017, " | | | | | | | | | |||||||‐|||||| ̳"),
  (0x202F, 0x203E, " ||||′′|′′′||‵‵|‵‵‵|||||!!|| ̅"), (0x2047, 0x2049, "??|?!|!?"),
  (0x2057, 0x205F, "′′′′|||||||| "),
  (0x2070, 0x2095, "0|i|||4|5|6|7|8|9|+|−|=|(|)|n|0|1|2|3|4|5|6|7|8|9|+|−|=|(|)||a|e|o|x|ə|h"),
  (0x2096, 0x209C, "k|l|m|n|p|s|t"), (0x20A8, 0x20A8, "rs"),
  (0x2100, 0x2120, "a/c|a/s|c|°c||c/o|c/u|ɛ||°f|g|h|h|h|h|ħ|i|i|l|l||n|no|||p|q|r|r|r|||sm"),
  (0x2121, 0x2147, "tel|tm||z||ω||z||k|å|b|c||e|e|f|ⅎ|m|o|א|ב|ג|ד|i||fax|π|γ|γ|π|∑|||||d|d|e"),
  (0x2148, 0x215E, "i|j|||||||1⁄7|1⁄9|1⁄10|1⁄3|2⁄3|1⁄5|2⁄5|3⁄5|4⁄5|1⁄6|5⁄6|1⁄8|3⁄8|5⁄8|7⁄8"),
  (0x215F, 0x2176, "1⁄|i|ii|iii|iv|v|vi|vii|viii|ix|x|xi|xii|l|c|d|m|i|ii|iii|iv|v|vi|vii"),
  (0x2177, 0x2189, "viii|ix|x|xi|xii|l|c|d|m||||ↄ||||||0⁄3"), (0x222C, 0x2230, "∫∫|∫∫∫||∮∮|∮∮∮"),
  (0x2329, 0x232A, "〈|〉"),
  (0x2460, 0x2478, "1|2|3|4|5|6|7|8|9|10|11|12|13|14|15|16|17|18|19|20|(1)|(2)|(3)|(4)|(5)"),
  (0x2479, 0x2487, "(6)|(7)|(8)|(9)|(10)|(11)|(12)|(13)|(14)|(15)|(16)|(17)|(18)|(19)|(20)"),
  (0x249C, 0x24AD, "(a)|(b)|(c)|(d)|(e)|(f)|(g)|(h)|(i)|(j)|(k)|(l)|(m)|(n)|(o)|(p)|(q)|(r)"),
  (0x24AE, 0x24B5, "(s)|(t)|(u)|(v)|(w)|(x)|(y)|(z)"), (0x24EA, 0x24EA, "0"),
  (0x2A0C, 0x2A0C, "∫∫∫∫"), (0x2A74, 0x2A76, "::=|==|==="), (0x2ADC, 0x2ADC, "⫝̸"),
  (0x2C60, 0x2C7F, "ⱡ||ɫ|ᵽ|ɽ|||ⱨ||ⱪ||ⱬ||ɑ|ɱ|ɐ|ɒ||ⱳ|||ⱶ|||||||j|v|ȿ|ɀ"),
  (0x2CEB, 0x2CF2, "ⳬ||ⳮ|||||ⳳ"), (0x2D6F, 0x2D6F, "ⵡ"), (0x2E9F, 0x2E9F, "母"),
  (0x2EF3, 0x2EF3, "龟"),
  (0x2F00, 0x2F23, "一|丨|丶|丿|乙|亅|二|亠|人|儿|入|八|冂|冖|冫|几|凵|刀|力|勹|匕|匚|匸|十|卜|卩|厂|厶|又|口|囗|土|士|夂|夊|夕"),
  (0x2F24, 0x2F47, "大|女|子|宀|寸|小|尢|尸|屮|山|巛|工|己|巾|干|幺|广|廴|廾|弋|弓|彐|彡|彳|心|戈|戶|手|支|攴|文|斗|斤|方|无|日"),
  (0x2F48, 0x2F6B, "曰|月|木|欠|止|歹|殳|毋|比|毛|氏|气|水|火|爪|父|爻|爿|片|牙|牛|犬|玄|玉|瓜|瓦|甘|生|用|田|疋|疒|癶|白|皮|皿"),
  (0x2F6C, 0x2F8F, "目|矛|矢|石|示|禸|禾|穴|立|竹|米|糸|缶|网|羊|羽|老|而|耒|耳|聿|肉|臣|自|至|臼|舌|舛|舟|艮|色|艸|虍|虫|血|行"),
  (0x2F90, 0x2FB3, "衣|襾|見|角|言|谷|豆|豕|豸|貝|赤|走|足|身|車|辛|辰|辵|邑|酉|釆|里|金|長|門|阜|隶|隹|雨|靑|非|面|革|韋|韭|音"),
  (0x2FB4, 0x2FD5, "頁|風|飛|食|首|香|馬|骨|高|髟|鬥|鬯|鬲|鬼|魚|鳥|鹵|鹿|麥|麻|黃|黍|黑|黹|黽|鼎|鼓|鼠|鼻|齊|齒|龍|龜|龠"),
  (0x3000, 0x3002, " ||."), (0x3036, 0x303A, "〒||十|卄|卅"), (0x309B, 0x309F, " ゙| ゚|||より"),
  (0x30FF, 0x30FF, "コト"),
  (0x3131, 0x314E, "ᄀ|ᄁ|ᆪ|ᄂ|ᆬ|ᆭ|ᄃ|ᄄ|ᄅ|ᆰ|ᆱ|ᆲ|ᆳ|ᆴ|ᆵ|ᄚ|ᄆ|ᄇ|ᄈ|ᄡ|ᄉ|ᄊ|ᄋ|ᄌ|ᄍ|ᄎ|ᄏ|ᄐ|ᄑ|ᄒ"),
  (0x3165, 0x3188, "ᄔ|ᄕ|ᇇ|ᇈ|ᇌ|ᇎ|ᇓ|ᇗ|ᇙ|ᄜ|ᇝ|ᇟ|ᄝ|ᄞ|ᄠ|ᄢ|ᄣ|ᄧ|ᄩ|ᄫ|ᄬ|ᄭ|ᄮ|ᄯ|ᄲ|ᄶ|ᅀ|ᅇ|ᅌ|ᇱ|ᇲ|ᅗ|ᅘ|ᅙ|ᆄ|ᆅ"),
  (0x3189, 0x319F, "ᆈ|ᆑ|ᆒ|ᆔ|ᆞ|ᆡ||||一|二|三|四|上|中|下|甲|乙|丙|丁|天|地|人"),
  (0x3200, 0x3211, "(ᄀ)|(ᄂ)|(ᄃ)|(ᄅ)|(ᄆ)|(ᄇ)|(ᄉ)|(ᄋ)|(ᄌ)|(ᄎ)|(ᄏ)|(ᄐ)|(ᄑ)|(ᄒ)|(가)|(나)|(다)|(라)"),
  (0x3212, 0x3223, "(마)|(바)|(사)|(아)|(자)|(차)|(카)|(타)|(파)|(하)|(주)|(오전)|(오후)||(一)|(二)|(三)|(四)"),
  (0x3224, 0x3235, "(五)|(六)|(七)|(八)|(九)|(十)|(月)|(火)|(水)|(木)|(金)|(土)|(日)|(株)|(有)|(社)|(名)|(特)"),
  (0x3236, 0x3247, "(財)|(祝)|(労)|(代)|(呼)|(学)|(監)|(企)|(資)|(協)|(祭)|(休)|(自)|(至)|問|幼|文|箏"),
  (0x3250, 0x326B, "pte|21|22|23|24|25|26|27|28|29|30|31|32|33|34|35|ᄀ|ᄂ|ᄃ|ᄅ|ᄆ|ᄇ|ᄉ|ᄋ|ᄌ|ᄎ|ᄏ|ᄐ"),
  (0x326C, 0x328F, "ᄑ|ᄒ|가|나|다|라|마|바|사|아|자|차|카|타|파|하|참고|주의|우||一|二|三|四|五|六|七|八|九|十|月|火|水|木|金|土"),
  (0x3290, 0x32B2, "日|株|有|社|名|特|財|祝|労|秘|男|女|適|優|印|注|項|休|写|正|上|中|下|左|右|医|宗|学|監|企|資|協|夜|36|37"),
  (0x32B3, 0x32C9, "38|39|40|41|42|43|44|45|46|47|48|49|50|1月|2月|3月|4月|5月|6月|7月|8月|9月|10月"),
  (0x32CA, 0x32E8, "11月|12月|hg|erg|ev|ltd|ア|イ|ウ|エ|オ|カ|キ|ク|ケ|コ|サ|シ|ス|セ|ソ|タ|チ|ツ|テ|ト|ナ|ニ|ヌ|ネ|ノ"),
  (0x32E9, 0x3304, "ハ|ヒ|フ|ヘ|ホ|マ|ミ|ム|メ|モ|ヤ|ユ|ヨ|ラ|リ|ル|レ|ロ|ワ|ヰ|ヱ|ヲ|令和|アパート|アルファ|アンペア|アール|イニング"),
  (0x3305, 0x3314, "インチ|ウォン|エスクード|エーカー|オンス|オーム|カイリ|カラット|カロリー|ガロン|ガンマ|ギガ|ギニー|キュリー|ギルダー|キロ"),
  (0x3315, 0x3322, "キログラム|キロメートル|キロワット|グラム|グラムトン|クルゼイロ|クローネ|ケース|コルナ|コーポ|サイクル|サンチーム|シリング|センチ"),
  (0x3323, 0x3333, "セント|ダース|デシ|ドル|トン|ナノ|ノット|ハイツ|パーセント|パーツ|バーレル|ピアストル|ピクル|ピコ|ビル|ファラッド|フィート"),
  (0x3334, 0x3344, "ブッシェル|フラン|ヘクタール|ペソ|ペニヒ|ヘルツ|ペンス|ページ|ベータ|ポイント|ボルト|ホン|ポンド|ホール|ホーン|マイクロ|マイル"),
  (0x3345, 0x3355, "マッハ|マルク|マンション|ミクロン|ミリ|ミリバール|メガ|メガトン|メートル|ヤード|ヤール|ユアン|リットル|リラ|ルピー|ルーブル|レム"),
  (0x3356, 0x3369, "レントゲン|ワット|0点|1点|2点|3点|4点|5点|6点|7点|8点|9点|10点|11点|12点|13点|14点|15点|16点|17点"),
  (0x336A, 0x337D, "18点|19点|20点|21点|22点|23点|24点|hpa|da|au|bar|ov|pc|dm|dm2|dm3|iu|平成|昭和|大正"),
  (0x337E, 0x3392, "明治|株式会社|pa|na|μa|ma|ka|kb|mb|gb|cal|kcal|pf|nf|μf|μg|mg|kg|hz|khz|mhz"),
  (0x3393, 0x33A7, "ghz|thz|μl|ml|dl|kl|fm|nm|μm|mm|cm|km|mm2|cm2|m2|km2|mm3|cm3|m3|km3|m∕s"),
  (0x33A8, 0x33BB, "m∕s2|pa|kpa|mpa|gpa|rad|rad∕s|rad∕s2|ps|ns|μs|ms|pv|nv|μv|mv|kv|mv|pw|nw"),
  (0x33BC, 0x33D3, "μw|mw|kw|mw|kω|mω||bq|cc|cd|c∕kg||db|gy|ha|hp|in|kk|km|kt|lm|ln|log|lx"),
  (0x33D4, 0x33E9, "mb|mil|mol|ph||ppm|pr|sr|sv|wb|v∕m|a∕m|1日|2日|3日|4日|5日|6日|7日|8日|9日|10日"),
  (0x33EA, 0x33FB, "11日|12日|13日|14日|15日|16日|17日|18日|19日|20日|21日|22日|23日|24日|25日|26日|27日|28日"),
  (0x33FC, 0x33FF, "29日|30日|31日|gal"), (0xA69C, 0xA69D, "ъ|ь"), (0xA770, 0xA770, "ꝯ"),
  (0xA779, 0xA792, "ꝺ||ꝼ||ᵹ|ꝿ||ꞁ||ꞃ||ꞅ||ꞇ|||||ꞌ||ɥ|||ꞑ||ꞓ"), (0xA7AA, 0xA7B3, "ɦ|ɜ|ɡ|ɬ|ɪ||ʞ|ʇ|ʝ|ꭓ"),
  (0xA7C4, 0xA7CB, "ꞔ|ʂ|ᶎ|ꟈ||ꟊ||ɤ"), (0xA7DC, 0xA7DC, "ƛ"), (0xA7F1, 0xA7F9, "s|c|f|q|ꟶ|||ħ|œ"),
  (0xAB5C, 0xAB5F, "ꜧ|ꬷ|ɫ|ꭒ"), (0xAB69, 0xAB69, "ʍ"),
  (0xF900, 0xF923, "豈|更|車|賈|滑|串|句|龜|龜|契|金|喇|奈|懶|癩|羅|蘿|螺|裸|邏|樂|洛|烙|珞|落|酪|駱|亂|卵|欄|爛|蘭|鸞|嵐|濫|藍"),
  (0xF924, 0xF947, "襤|拉|臘|蠟|廊|朗|浪|狼|郎|來|冷|勞|擄|櫓|爐|盧|老|蘆|虜|路|露|魯|鷺|碌|祿|綠|菉|錄|鹿|論|壟|弄|籠|聾|牢|磊"),
  (0xF948, 0xF96B, "賂|雷|壘|屢|樓|淚|漏|累|縷|陋|勒|肋|凜|凌|稜|綾|菱|陵|讀|拏|樂|諾|丹|寧|怒|率|異|北|磻|便|復|不|泌|數|索|參"),
  (0xF96C, 0xF98F, "塞|省|葉|說|殺|辰|沈|拾|若|掠|略|亮|兩|凉|梁|糧|良|諒|量|勵|呂|女|廬|旅|濾|礪|閭|驪|麗|黎|力|曆|歷|轢|年|憐"),
  (0xF990, 0xF9B3, "戀|撚|漣|煉|璉|秊|練|聯|輦|蓮|連|鍊|列|劣|咽|烈|裂|說|廉|念|捻|殮|簾|獵|令|囹|寧|嶺|怜|玲|瑩|羚|聆|鈴|零|靈"),
  (0xF9B4, 0xF9D7, "領|例|禮|醴|隸|惡|了|僚|寮|尿|料|樂|燎|療|蓼|遼|龍|暈|阮|劉|杻|柳|流|溜|琉|留|硫|紐|類|六|戮|陸|倫|崙|淪|輪"),
  (0xF9D8, 0xF9FB, "律|慄|栗|率|隆|利|吏|履|易|李|梨|泥|理|痢|罹|裏|裡|里|離|匿|溺|吝|燐|璘|藺|隣|鱗|麟|林|淋|臨|立|笠|粒|狀|炙"),
  (0xF9FC, 0xFA22, "識|什|茶|刺|切|度|拓|糖|宅|洞|暴|輻|行|降|見|廓|兀|嗀|||塚||晴|||凞|猪|益|礼|神|祥|福|靖|精|羽||蘒||諸"),
  (0xFA25, 0xFA4A, "逸|都||||飯|飼|館|鶴|郞|隷|侮|僧|免|勉|勤|卑|喝|嘆|器|塀|墨|層|屮|悔|慨|憎|懲|敏|既|暑|梅|海|渚|漢|煮|爫|琢"),
  (0xFA4B, 0xFA6D, "碑|社|祉|祈|祐|祖|祝|禍|禎|穀|突|節|練|縉|繁|署|者|臭|艹|艹|著|褐|視|謁|謹|賓|贈|辶|逸|難|響|頻|恵|𤋮|舘"),
  (0xFA70, 0xFA93, "並|况|全|侀|充|冀|勇|勺|喝|啕|喙|嗢|塚|墳|奄|奔|婢|嬨|廒|廙|彩|徭|惘|慎|愈|憎|慠|懲|戴|揄|搜|摒|敖|晴|朗|望"),
  (0xFA94, 0xFAB7, "杖|歹|殺|流|滛|滋|漢|瀞|煮|瞧|爵|犯|猪|瑱|甆|画|瘝|瘟|益|盛|直|睊|着|磌|窱|節|类|絛|練|缾|者|荒|華|蝹|襁|覆"),
  (0xFAB8, 0xFAD9, "視|調|諸|請|謁|諾|諭|謹|變|贈|輸|遲|醙|鉶|陼|難|靖|韛|響|頋|頻|鬒|龜|𢡊|𢡄|𣏕|㮝|䀘|䀹|𥉉|𥳐|𧻓|齃|龎"),
  (0xFB00, 0xFB06, "ff|fi|fl|ffi|ffl|st|st"),
  (0xFB13, 0xFB31, "մն|մե|մի|վն|մխ||||||יִ||ײַ|ע|א|ד|ה|כ|ל|ם|ר|ת|+|שׁ|שׂ|שּׁ|שּׂ|אַ|אָ|אּ|בּ"),
  (0xFB32, 0xFB4C, "גּ|דּ|הּ|וּ|זּ||טּ|יּ|ךּ|כּ|לּ||מּ||נּ|סּ||ףּ|פּ||צּ|קּ|רּ|שּ|תּ|וֹ|בֿ"),
  (0xFB4D, 0xFB6F, "כֿ|פֿ|אל|ٱ|ٱ|ٻ|ٻ|ٻ|ٻ|پ|پ|پ|پ|ڀ|ڀ|ڀ|ڀ|ٺ|ٺ|ٺ|ٺ|ٿ|ٿ|ٿ|ٿ|ٹ|ٹ|ٹ|ٹ|ڤ|ڤ|ڤ|ڤ|ڦ|ڦ"),
  (0xFB70, 0xFB93, "ڦ|ڦ|ڄ|ڄ|ڄ|ڄ|ڃ|ڃ|ڃ|ڃ|چ|چ|چ|چ|ڇ|ڇ|ڇ|ڇ|ڍ|ڍ|ڌ|ڌ|ڎ|ڎ|ڈ|ڈ|ژ|ژ|ڑ|ڑ|ک|ک|ک|ک|گ|گ"),
  (0xFB94, 0xFBB1, "گ|گ|ڳ|ڳ|ڳ|ڳ|ڱ|ڱ|ڱ|ڱ|ں|ں|ڻ|ڻ|ڻ|ڻ|ۀ|ۀ|ہ|ہ|ہ|ہ|ھ|ھ|ھ|ھ|ے|ے|ۓ|ۓ"),
  (0xFBD3, 0xFBF1, "ڭ|ڭ|ڭ|ڭ|ۇ|ۇ|ۆ|ۆ|ۈ|ۈ|ۇٴ|ۋ|ۋ|ۅ|ۅ|ۉ|ۉ|ې|ې|ې|ې|ى|ى|ئا|ئا|ئە|ئە|ئو|ئو|ئۇ|ئۇ"),
  (0xFBF2, 0xFC0A, "ئۆ|ئۆ|ئۈ|ئۈ|ئې|ئې|ئې|ئى|ئى|ئى|ی|ی|ی|ی|ئج|ئح|ئم|ئى|ئي|بج|بح|بخ|بم|بى|بي"),
  (0xFC0B, 0xFC22, "تج|تح|تخ|تم|تى|تي|ثج|ثم|ثى|ثي|جح|جم|حج|حم|خج|خح|خم|سج|سح|سخ|سم|صح|صم|ضج"),
  (0xFC23, 0xFC3A, "ضح|ضخ|ضم|طح|طم|ظم|عج|عم|غج|غم|فج|فح|فخ|فم|فى|في|قح|قم|قى|قي|كا|كج|كح|كخ"),
  (0xFC3B, 0xFC52, "كل|كم|كى|كي|لج|لح|لخ|لم|لى|لي|مج|مح|مخ|مم|مى|مي|نج|نح|نخ|نم|نى|ني|هج|هم"),
  (0xFC53, 0xFC68, "هى|هي|يج|يح|يخ|يم|يى|يي|ذٰ|رٰ|ىٰ| ٌّ| ٍّ| َّ| ُّ| ِّ| ّٰ|ئر|ئز|ئم|ئن|ئى"),
  (0xFC69, 0xFC80, "ئي|بر|بز|بم|بن|بى|بي|تر|تز|تم|تن|تى|تي|ثر|ثز|ثم|ثن|ثى|ثي|فى|في|قى|قي|كا"),
  (0xFC81, 0xFC98, "كل|كم|كى|كي|لم|لى|لي|ما|مم|نر|نز|نم|نن|نى|ني|ىٰ|ير|يز|يم|ين|يى|يي|ئج|ئح"),
  (0xFC99, 0xFCB0, "ئخ|ئم|ئه|بج|بح|بخ|بم|به|تج|تح|تخ|تم|ته|ثم|جح|جم|حج|حم|خج|خم|سج|سح|سخ|سم"),
  (0xFCB1, 0xFCC8, "صح|صخ|صم|ضج|ضح|ضخ|ضم|طح|ظم|عج|عم|غج|غم|فج|فح|فخ|فم|قح|قم|كج|كح|كخ|كل|كم"),
  (0xFCC9, 0xFCE0, "لج|لح|لخ|لم|له|مج|مح|مخ|مم|نج|نح|نخ|نم|نه|هج|هم|هٰ|يج|يح|يخ|يم|يه|ئم|ئه"),
  (0xFCE1, 0xFCF7, "بم|به|تم|ته|ثم|ثه|سم|سه|شم|شه|كل|كم|لم|نم|نه|يم|يه|ـَّ|ـُّ|ـِّ|طى|طي|عى"),
  (0xFCF8, 0xFD0F, "عي|غى|غي|سى|سي|شى|شي|حى|حي|جى|جي|خى|خي|صى|صي|ضى|ضي|شج|شح|شخ|شم|شر|سر|صر"),
  (0xFD10, 0xFD27, "ضر|طى|طي|عى|عي|غى|غي|سى|سي|شى|شي|حى|حي|جى|جي|خى|خي|صى|صي|ضى|ضي|شج|شح|شخ"),
  (0xFD28, 0xFD3D, "شم|شر|سر|صر|ضر|شج|شح|شخ|شم|سه|شه|طم|سج|سح|سخ|شج|شح|شخ|طم|ظم|اً|اً"),
  (0xFD50, 0xFD61, "تجم|تحج|تحج|تحم|تخم|تمج|تمح|تمخ|جمح|جمح|حمي|حمى|سحج|سجح|سجى|سمح|سمح|سمج"),
  (0xFD62, 0xFD73, "سمم|سمم|صحح|صحح|صمم|شحم|شحم|شجي|شمخ|شمخ|شمم|شمم|ضحى|ضخم|ضخم|طمح|طمح|طمم"),
  (0xFD74, 0xFD85, "طمي|عجم|عمم|عمم|عمى|غمم|غمي|غمى|فخم|فخم|قمح|قمم|لحم|لحي|لحى|لجج|لجج|لخم"),
  (0xFD86, 0xFD98, "لخم|لمح|لمح|محج|محم|محي|مجح|مجم|مخج|مخم|||مجخ|همج|همم|نحم|نحى|نجم|نجم"),
  (0xFD99, 0xFDAA, "نجى|نمي|نمى|يمم|يمم|بخي|تجي|تجى|تخي|تخى|تمي|تمى|جمي|جحى|جمى|سخى|صحي|شحي"),
  (0xFDAB, 0xFDBC, "ضحي|لجي|لمي|يحي|يجي|يمي|ممي|قمي|نحي|قمح|لحم|عمي|كمي|نجح|مخي|لجم|كمم|لجم"),
  (0xFDBD, 0xFDC7, "نجح|جحي|حجي|مجي|فمي|بحي|كمم|عجم|صمم|سخي|نجي"),
  (0xFDF0, 0xFDFA, "صلے|قلے|الله|اكبر|محمد|صلعم|رسول|عليه|وسلم|صلى|صلى الله عليه وسلم"),
  (0xFDFB, 0xFDFC, "جل جلاله|ریال"), (0xFE10, 0xFE18, ",|、||:|;|!|?|〖|〗"),
  (0xFE31, 0xFE50, "—|–|_|_|(|)|\x7b|\x7d|〔|〕|【|】|《|》|〈|〉|「|」|『|』|||[|]| ̅| ̅| ̅| ̅|_|_|_|,"),
  (0xFE51, 0xFE72, "、|||;|:|?|!|—|(|)|\x7b|\x7d|〔|〕|#|&|*|+|-|<|>|=||\x5c|$|%|@||||| ً|ـً| ٌ"),
  (0xFE74, 0xFE92, " ٍ|| َ|ـَ| ُ|ـُ| ِ|ـِ| ّ|ـّ| ْ|ـْ|ء|آ|آ|أ|أ|ؤ|ؤ|إ|إ|ئ|ئ|ئ|ئ|ا|ا|ب|ب|ب|ب"),
  (0xFE93, 0xFEB6, "ة|ة|ت|ت|ت|ت|ث|ث|ث|ث|ج|ج|ج|ج|ح|ح|ح|ح|خ|خ|خ|خ|د|د|ذ|ذ|ر|ر|ز|ز|س|س|س|س|ش|ش"),
  (0xFEB7, 0xFEDA, "ش|ش|ص|ص|ص|ص|ض|ض|ض|ض|ط|ط|ط|ط|ظ|ظ|ظ|ظ|ع|ع|ع|ع|غ|غ|غ|غ|ف|ف|ف|ف|ق|ق|ق|ق|ك|ك"),
  (0xFEDB, 0xFEFB, "ك|ك|ل|ل|ل|ل|م|م|م|م|ن|ن|ن|ن|ه|ه|ه|ه|و|و|ى|ى|ي|ي|ي|ي|لآ|لآ|لأ|لأ|لإ|لإ|لا"),
  (0xFEFC, 0xFEFC, "لا"),
  (0xFF5F, 0xFF82, "⦅|⦆|.|「|」|、|・|ヲ|ァ|ィ|ゥ|ェ|ォ|ャ|ュ|ョ|ッ|ー|ア|イ|ウ|エ|オ|カ|キ|ク|ケ|コ|サ|シ|ス|セ|ソ|タ|チ|ツ"),
  (0xFF83, 0xFFA7, "テ|ト|ナ|ニ|ヌ|ネ|ノ|ハ|ヒ|フ|ヘ|ホ|マ|ミ|ム|メ|モ|ヤ|ユ|ヨ|ラ|リ|ル|レ|ロ|ワ|ン|゙|゚||ᄀ|ᄁ|ᆪ|ᄂ|ᆬ|ᆭ|ᄃ"),
  (0xFFA8, 0xFFCE, "ᄄ|ᄅ|ᆰ|ᆱ|ᆲ|ᆳ|ᆴ|ᆵ|ᄚ|ᄆ|ᄇ|ᄈ|ᄡ|ᄉ|ᄊ|ᄋ|ᄌ|ᄍ|ᄎ|ᄏ|ᄐ|ᄑ|ᄒ||||ᅡ|ᅢ|ᅣ|ᅤ|ᅥ|ᅦ|||ᅧ|ᅨ|ᅩ|ᅪ|ᅫ"),
  (0xFFCF, 0xFFEE, "ᅬ|||ᅭ|ᅮ|ᅯ|ᅰ|ᅱ|ᅲ|||ᅳ|ᅴ|ᅵ||||¢|£|¬| ̄|¦|¥|₩||│|←|↑|→|↓|■|○"),
  (0x10570, 0x1057A, "𐖗|𐖘|𐖙|𐖚|𐖛|𐖜|𐖝|𐖞|𐖟|𐖠|𐖡"), (0x1058C, 0x10595, "𐖳|𐖴|𐖵|𐖶|𐖷|𐖸|𐖹||𐖻|𐖼"),
  (0x10781, 0x107A5, "ː|ˑ|æ|ʙ|ɓ||ʣ|ꭦ|ʥ|ʤ|ɖ|ɗ|ᶑ|ɘ|ɞ|ʩ|ɤ|ɢ|ɠ|ʛ|ħ|ʜ|ɧ|ʄ|ʪ|ʫ|ɬ|𝼄|ꞎ|ɮ|𝼅|ʎ|𝼆|ø|ɶ|ɷ|q"),
  (0x107A6, 0x107BA, "ɺ|𝼈|ɽ|ɾ|ʀ|ʨ|ʦ|ꭧ|ʧ|ʈ|ⱱ||ʏ|ʡ|ʢ|ʘ|ǀ|ǁ|ǂ|𝼊|𝼞"),
  (0x1CCF0, 0x1CCF9, "0|1|2|3|4|5|6|7|8|9"), (0x1D15E, 0x1D164, "𝅗𝅥|𝅘𝅥|𝅘𝅥𝅮|𝅘𝅥𝅯|𝅘𝅥𝅰|𝅘𝅥𝅱|𝅘𝅥𝅲"),
  (0x1D1BB, 0x1D1C0, "𝆹𝅥|𝆺𝅥|𝆹𝅥𝅮|𝆺𝅥𝅮|𝆹𝅥𝅯|𝆺𝅥𝅯"), (0x1D44E, 0x1D454, "a|b|c|d|e|f|g"),
  (0x1D49C, 0x1D4CA, "a||c|d|||g|||j|k|||n|o|p|q||s|t|u|v|w|x|y|z|a||c||||||i||k||m||||q||s||u"),
  (0x1D4CC, 0x1D4CE, "w||y"), (0x1D504, 0x1D51B, "a|b||d|e|f|g|||j||l||n||p||||t||v||x"),
  (0x1D538, 0x1D550, "a|b||d|e|f|g||i|j|k|l|m||o||||s|t|u|v|w|x|y"), (0x1D6A4, 0x1D6A5, "ı|ȷ"),
  (0x1D6B9, 0x1D6C1, "θ|σ|τ|υ|φ|χ|ψ|ω|∇"), (0x1D6D3, 0x1D6E1, "σ|σ|τ|υ|φ|χ|ψ|ω|∂|ε|θ|κ|φ|ρ|π"),
  (0x1D6F3, 0x1D6FB, "θ|σ|τ|υ|φ|χ|ψ|ω|∇"), (0x1D70D, 0x1D71B, "σ|σ|τ|υ|φ|χ|ψ|ω|∂|ε|θ|κ|φ|ρ|π"),
  (0x1D72D, 0x1D735, "θ|σ|τ|υ|φ|χ|ψ|ω|∇"), (0x1D747, 0x1D755, "σ|σ|τ|υ|φ|χ|ψ|ω|∂|ε|θ|κ|φ|ρ|π"),
  (0x1D767, 0x1D76F, "θ|σ|τ|υ|φ|χ|ψ|ω|∇"), (0x1D781, 0x1D78F, "σ|σ|τ|υ|φ|χ|ψ|ω|∂|ε|θ|κ|φ|ρ|π"),
  (0x1D7A1, 0x1D7A9, "θ|σ|τ|υ|φ|χ|ψ|ω|∇"),
  (0x1D7BB, 0x1D7DF, "σ|σ|τ|υ|φ|χ|ψ|ω|∂|ε|θ|κ|φ|ρ|π|ϝ|ϝ|||0|1|2|3|4|5|6|7|8|9|0|1|2|3|4|5|6|7"),
  (0x1D7E0, 0x1D7FF, "8|9|0|1|2|3|4|5|6|7|8|9|0|1|2|3|4|5|6|7|8|9|0|1|2|3|4|5|6|7|8|9"),
  (0x1E030, 0x1E053, "а|б|в|г|д|е|ж|з|и|к|л|м|о|п|р|с|т|у|ф|х|ц|ч|ш|ы|э|ю|ꚉ|ә|і|ј|ө|ү|ӏ|а|б|в"),
  (0x1E054, 0x1E06D, "г|д|е|ж|з|и|к|л|о|п|с|у|ф|х|ц|ч|ш|ъ|ы|ґ|і|ѕ|џ|ҫ|ꙑ|ұ"),
  (0x1EE00, 0x1EE24, "ا|ب|ج|د||و|ز|ح|ط|ي|ك|ل|م|ن|س|ع|ف|ص|ق|ر|ش|ت|ث|خ|ذ|ض|ظ|غ|ٮ|ں|ڡ|ٯ||ب|ج||ه"),
  (0x1EE27, 0x1EE54, "ح||ي|ك|ل|م|ن|س|ع|ف|ص|ق||ش|ت|ث|خ||ض||غ|||||||ج|||||ح||ي||ل||ن|س|ع||ص|ق||ش"),
  (0x1EE57, 0x1EE81, "خ||ض||غ||ں||ٯ||ب|ج||ه|||ح|ط|ي|ك||م|ن|س|ع|ف|ص|ق||ش|ت|ث|خ||ض|ظ|غ|ٮ||ڡ||ا|ب"),
  (0x1EE82, 0x1EEA9, "ج|د|ه|و|ز|ح|ط|ي||ل|م|ن|س|ع|ف|ص|ق|ر|ش|ت|ث|خ|ذ|ض|ظ|غ||||||ب|ج|د||و|ز|ح|ط|ي"),
  (0x1EEAB, 0x1EEBB, "ل|م|ن|س|ع|ف|ص|ق|ر|ش|ت|ث|خ|ذ|ض|ظ|غ"),
  (0x1F101, 0x1F118, "0,|1,|2,|3,|4,|5,|6,|7,|8,|9,||||||(a)|(b)|(c)|(d)|(e)|(f)|(g)|(h)|(i)"),
  (0x1F119, 0x1F12A, "(j)|(k)|(l)|(m)|(n)|(o)|(p)|(q)|(r)|(s)|(t)|(u)|(v)|(w)|(x)|(y)|(z)|〔s〕"),
  (0x1F12B, 0x1F12E, "c|r|cd|wz"), (0x1F14A, 0x1F14F, "hv|mv|sd|ss|ppv|wc"),
  (0x1F16A, 0x1F16C, "mc|md|mr"), (0x1F190, 0x1F190, "dj"), (0x1F200, 0x1F202, "ほか|ココ|サ"),
  (0x1F210, 0x1F233, "手|字|双|デ|二|多|解|天|交|映|無|料|前|後|再|新|初|終|生|販|声|吹|演|投|捕|一|三|遊|左|中|右|指|走|打|禁|空"),
  (0x1F234, 0x1F251, "合|満|有|月|申|割|営|配|||||〔本〕|〔三〕|〔二〕|〔安〕|〔点〕|〔打〕|〔盗〕|〔勝〕|〔敗〕||||||||得|可"),
  (0x1FBF0, 0x1FBF9, "0|1|2|3|4|5|6|7|8|9"),
  (0x2F800, 0x2F823, "丽|丸|乁|𠄢|你|侮|侻|倂|偺|備|僧|像|㒞|𠘺|免|兔|兤|具|𠔜|㒹|內|再|𠕋|冗|冤|仌|冬|况|𩇟|凵|刃|㓟|刻|剆|割|剷"),
  (0x2F824, 0x2F847, "㔕|勇|勉|勤|勺|包|匆|北|卉|卑|博|即|卽|卿|卿|卿|𠨬|灰|及|叟|𠭣|叫|叱|吆|咞|吸|呈|周|咢|哶|唐|啓|啣|善|善|喙"),
  (0x2F848, 0x2F86B, "喫|喳|嗂|圖|嘆|圗|噑|噴|切|壮|城|埴|堍|型|堲|報|墬|𡓤|売|壷|夆|多|夢|奢|𡚨|𡛪|姬|娛|娧|姘|婦|㛮|㛼|嬈|嬾|嬾"),
  (0x2F86C, 0x2F88F, "𡧈|寃|寘|寧|寳|𡬘|寿|将|当|尢|㞁|屠|屮|峀|岍|𡷤|嵃|𡷦|嵮|嵫|嵼|巡|巢|㠯|巽|帨|帽|幩|㡢|𢆃|㡼|庰|庳|庶|廊|𪎒"),
  (0x2F890, 0x2F8B3, "廾|𢌱|𢌱|舁|弢|弢|㣇|𣊸|𦇚|形|彫|㣣|徚|忍|志|忹|悁|㤺|㤜|悔|𢛔|惇|慈|慌|慎|慌|慺|憎|憲|憤|憯|懞|懲|懶|成|戛"),
  (0x2F8B4, 0x2F8D7, "扝|抱|拔|捐|𢬌|挽|拼|捨|掃|揤|𢯱|搢|揅|掩|㨮|摩|摾|撝|摷|㩬|敏|敬|𣀊|旣|書|晉|㬙|暑|㬈|㫤|冒|冕|最|暜|肭|䏙"),
  (0x2F8D8, 0x2F8FB, "朗|望|朡|杞|杓|𣏃|㭉|柺|枅|桒|梅|𣑭|梎|栟|椔|㮝|楂|榣|槪|檨|𣚣|櫛|㰘|次|𣢧|歔|㱎|歲|殟|殺|殻|𣪍|𡴋|𣫺|汎|𣲼"),
  (0x2F8FC, 0x2F91F, "沿|泍|汧|洖|派|海|流|浩|浸|涅|𣴞|洴|港|湮|㴳|滋|滇|𣻑|淹|潮|𣽞|𣾎|濆|瀹|瀞|瀛|㶖|灊|災|灷|炭|𠔥|煅|𤉣|熜|𤎫"),
  (0x2F920, 0x2F943, "爨|爵|牐|𤘈|犀|犕|𤜵|𤠔|獺|王|㺬|玥|㺸|㺸|瑇|瑜|瑱|璅|瓊|㼛|甤|𤰶|甾|𤲒|異|𢆟|瘐|𤾡|𤾸|𥁄|㿼|䀈|直|𥃳|𥃲|𥄙"),
  (0x2F944, 0x2F967, "𥄳|眞|真|真|睊|䀹|瞋|䁆|䂖|𥐝|硎|碌|磌|䃣|𥘦|祖|𥚚|𥛅|福|秫|䄯|穀|穊|穏|𥥼|𥪧|𥪧|竮|䈂|𥮫|篆|築|䈧|𥲀|糒|䊠"),
  (0x2F968, 0x2F98B, "糨|糣|紀|𥾆|絣|䌁|緇|縂|繅|䌴|𦈨|𦉇|䍙|𦋙|罺|𦌾|羕|翺|者|𦓚|𦔣|聠|𦖨|聰|𣍟|䏕|育|脃|䐋|脾|媵|𦞧|𦞵|𣎓|𣎜|舁"),
  (0x2F98C, 0x2F9AF, "舄|辞|䑫|芑|芋|芝|劳|花|芳|芽|苦|𦬼|若|茝|荣|莭|茣|莽|菧|著|荓|菊|菌|菜|𦰶|𦵫|𦳕|䔫|蓱|蓳|蔖|𧏊|蕤|𦼬|䕝|䕡"),
  (0x2F9B0, 0x2F9D3, "𦾱|𧃒|䕫|虐|虜|虧|虩|蚩|蚈|蜎|蛢|蝹|蜨|蝫|螆|䗗|蟡|蠁|䗹|衠|衣|𧙧|裗|裞|䘵|裺|㒻|𧢮|𧥦|䚾|䛇|誠|諭|變|豕|𧲨"),
  (0x2F9D4, 0x2F9F7, "貫|賁|贛|起|𧼯|𠠄|跋|趼|跰|𠣞|軔|輸|𨗒|𨗭|邔|郱|鄑|𨜮|鄛|鈸|鋗|鋘|鉼|鏹|鐕|𨯺|開|䦕|閷|𨵷|䧦|雃|嶲|霣|𩅅|𩈚"),
  (0x2F9F8, 0x2FA1B, "䩮|䩶|韠|𩐊|䪲|𩒖|頋|頋|頩|𩖶|飢|䬳|餩|馧|駂|駾|䯎|𩬰|鬒|鱀|鳽|䳎|䳭|鵧|𪃎|䳸|𪄅|𪈎|𪊑|麻|䵖|黹|黾|鼅|鼏|鼖"),
  (0x2FA1C, 0x2FA1D, "鼻|𪘀")]

/-- First and last number of every run of characters that are dropped. -/
def droppedRanges : List (Nat × Nat) := [
  (0xAD, 0xAD), (0x34F, 0x34F), (0x115F, 0x1160), (0x17B4, 0x17B5), (0x180B, 0x180F),
  (0x200B, 0x200B), (0x2060, 0x2064), (0x206A, 0x206F), (0x3164, 0x3164), (0xFE00, 0xFE0F),
  (0xFEFF, 0xFEFF), (0xFFA0, 0xFFA0), (0x1BCA0, 0x1BCA3), (0x1D173, 0x1D17A), (0xE0100, 0xE01EF)]

/-! ## Replacing -/

/-- The character that the shifts put in place of one. -/
def shifted? (n : Nat) : Option Nat :=
  (shifts.find? fun (first, last, step, _) =>
    first ≤ n && n ≤ last && (n - first) % step == 0).map
      fun (first, _, _, target) => target + (n - first)

/-- The characters that the wordings put in place of one. -/
def worded? (n : Nat) : Option (List Char) :=
  match wordings.find? fun (first, last, _) => first ≤ n && n ≤ last with
  | some (first, _, words) => (pieces '|' words.toList)[n - first]?.filter (· ≠ [])
  | none => none

/-- Whether the character is dropped. -/
def isDropped (n : Nat) : Bool :=
  droppedRanges.any fun (first, last) => first ≤ n && n ≤ last

/-- What stands for a character. -/
def replaced (c : Char) : List Char :=
  if c.toNat < 128 then [c.toLower]
  else if isDropped c.toNat then []
  else match shifted? c.toNat with
    | some n => [Char.ofNat n]
    | none => (worded? c.toNat).getD [c]

end CallDispatch.Url.Replacement
