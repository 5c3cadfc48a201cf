import Textbase.Text.Lowercase
import Textbase.Text.Printable

/-! What the characters of a name are mapped to before it is looked at: capital letters to small
ones, forms of a character to the character itself, and marks of layout to nothing. -/
namespace Textbase.Url.Domain

def ignored : Text.Ranges :=
  [(0x00AD, 0x00AD), (0x034F, 0x034F), (0x115F, 0x1160), (0x17B4, 0x17B5), (0x180B, 0x180F),
   (0x200B, 0x200B), (0x2060, 0x2064), (0x206A, 0x206F), (0x3164, 0x3164), (0xFE00, 0xFE0F),
   (0xFEFF, 0xFEFF), (0xFFA0, 0xFFA0), (0x1BCA0, 0x1BCA3), (0x1D173, 0x1D17A), (0xE0100, 0xE01EF)]

/-- Printable characters that no name holds, or whose image no name holds. -/
def refused : Text.Ranges :=
  [(0x00A8, 0x00A8), (0x00AF, 0x00AF), (0x00B4, 0x00B4), (0x00B8, 0x00B8), (0x02D8, 0x02DD),
   (0x037A, 0x037A), (0x0384, 0x0385), (0x1FBD, 0x1FBD), (0x1FBF, 0x1FC1), (0x1FCD, 0x1FCF),
   (0x1FDD, 0x1FDF), (0x1FED, 0x1FEE), (0x1FFD, 0x1FFE), (0x2017, 0x2017), (0x2024, 0x2026),
   (0x203E, 0x203E), (0x2047, 0x2049), (0x2100, 0x2101), (0x2105, 0x2106), (0x2488, 0x249B),
   (0x2A74, 0x2A74), (0x2FF0, 0x2FFF), (0x309B, 0x309C), (0x31EF, 0x31EF), (0x33C2, 0x33C2),
   (0x33C7, 0x33C7), (0x33D8, 0x33D8), (0xFC5E, 0xFC63), (0xFDFA, 0xFDFB), (0xFE12, 0xFE13),
   (0xFE16, 0xFE16), (0xFE19, 0xFE19), (0xFE30, 0xFE30), (0xFE47, 0xFE4C), (0xFE52, 0xFE52),
   (0xFE55, 0xFE56), (0xFE5F, 0xFE5F), (0xFE64, 0xFE65), (0xFE68, 0xFE68), (0xFE6A, 0xFE6B),
   (0xFE70, 0xFE70), (0xFE72, 0xFE72), (0xFE74, 0xFE74), (0xFE76, 0xFE76), (0xFE78, 0xFE78),
   (0xFE7A, 0xFE7A), (0xFE7C, 0xFE7C), (0xFE7E, 0xFE7E), (0xFF03, 0xFF03), (0xFF05, 0xFF05),
   (0xFF0F, 0xFF0F), (0xFF1A, 0xFF1A), (0xFF1C, 0xFF1C), (0xFF1E, 0xFF20), (0xFF3B, 0xFF3E),
   (0xFF5C, 0xFF5C), (0xFFE3, 0xFFE3), (0xFFFC, 0xFFFD), (0x1F100, 0x1F100)]

/-- Images of consecutive characters, of which `first` is the first. -/
structure Images where
  first : Nat
  images : String

def singleImages : List Images :=
  [⟨0x00AA, "a"⟩, ⟨0x00B2, "23"⟩, ⟨0x00B5, "μ"⟩, ⟨0x00B9, "1o"⟩, ⟨0x017F, "s"⟩,
   ⟨0x02B0, "hɦjrɹɻʁwy"⟩, ⟨0x02E0, "ɣlsxʕ"⟩, ⟨0x0340, "\u0300\u0301"⟩, ⟨0x0343, "\u0313"⟩,
   ⟨0x0345, "ι"⟩, ⟨0x0374, "ʹ"⟩, ⟨0x037E, ";"⟩, ⟨0x0387, "·"⟩, ⟨0x03D0, "βθυύϋφπ"⟩,
   ⟨0x03F0, "κρσ"⟩, ⟨0x03F5, "ε"⟩, ⟨0x03F9, "σ"⟩, ⟨0x0F0C, "་"⟩, ⟨0x10FC, "ნ"⟩, ⟨0x13F8, "ᏰᏱᏲᏳᏴᏵ"⟩,
   ⟨0x1C80, "вдосттъѣꙋ"⟩, ⟨0x1D2C, "aæb"⟩, ⟨0x1D30, "deǝghijklmn"⟩, ⟨0x1D3C, "oȣprtuwaɐɑᴂbdeəɛɜg"⟩,
   ⟨0x1D4F, "kmŋoɔᴖᴗptuᴝɯvᴥβγδφχiruvβγρφχ"⟩, ⟨0x1D78, "н"⟩,
   ⟨0x1D9B, "ɒcɕðɜfɟɡɥɨɩɪᵻʝɭᶅʟɱɰɲɳɴɵɸʂʃƫʉʊᴜʋʌzʐʑʒθ"⟩, ⟨0x1E9B, "ṡ"⟩, ⟨0x1F71, "ά"⟩, ⟨0x1F73, "έ"⟩,
   ⟨0x1F75, "ή"⟩, ⟨0x1F77, "ί"⟩, ⟨0x1F79, "ό"⟩, ⟨0x1F7B, "ύ"⟩, ⟨0x1F7D, "ώ"⟩, ⟨0x1FBB, "ά"⟩,
   ⟨0x1FBE, "ι"⟩, ⟨0x1FC9, "έ"⟩, ⟨0x1FCB, "ή"⟩, ⟨0x1FD3, "ΐ"⟩, ⟨0x1FDB, "ί"⟩, ⟨0x1FE3, "ΰ"⟩,
   ⟨0x1FEB, "ύ"⟩, ⟨0x1FEF, "\x60"⟩, ⟨0x1FF9, "ό"⟩, ⟨0x1FFB, "ώ"⟩, ⟨0x2011, "‐"⟩, ⟨0x2070, "0i"⟩,
   ⟨0x2074, "456789+−=()n0123456789+−=()"⟩, ⟨0x2090, "aeoxəhklmnpst"⟩, ⟨0x2102, "c"⟩,
   ⟨0x2107, "ɛ"⟩, ⟨0x210A, "ghhhhħiill"⟩, ⟨0x2115, "n"⟩, ⟨0x2119, "pqrrr"⟩, ⟨0x2124, "z"⟩,
   ⟨0x2128, "z"⟩, ⟨0x212C, "bc"⟩, ⟨0x212F, "eef"⟩, ⟨0x2133, "moאבגדi"⟩, ⟨0x213C, "πγγπ∑"⟩,
   ⟨0x2145, "ddeij"⟩, ⟨0x2160, "i"⟩, ⟨0x2164, "v"⟩, ⟨0x2169, "x"⟩, ⟨0x216C, "lcdmi"⟩,
   ⟨0x2174, "v"⟩, ⟨0x2179, "x"⟩, ⟨0x217C, "lcdm"⟩, ⟨0x2329, "〈〉"⟩, ⟨0x2460, "123456789"⟩,
   ⟨0x24B6, "abcdefghijklmnopqrstuvwxyzabcdefghijklmnopqrstuvwxyz0"⟩, ⟨0x2C7C, "jv"⟩,
   ⟨0x2D6F, "ⵡ"⟩, ⟨0x2E9F, "母"⟩, ⟨0x2EF3, "龟"⟩,
   ⟨0x2F00, "一丨丶丿乙亅二亠人儿入八冂冖冫几凵刀力勹匕匚匸十卜卩厂厶又口囗土士夂夊夕大女子宀寸小尢尸屮山巛工己巾干幺广廴廾弋弓彐彡彳心戈戶手支攴文斗斤方无日曰月木欠止歹"⟩,
   ⟨0x2F4E, "殳毋比毛氏气水火爪父爻爿片牙牛犬玄玉瓜瓦甘生用田疋疒癶白皮皿目矛矢石示禸禾穴立竹米糸缶网羊羽老而耒耳聿肉臣自至臼舌舛舟艮色艸虍虫血行衣襾見角言谷豆豕豸貝赤走"⟩,
   ⟨0x2F9C, "足身車辛辰辵邑酉釆里金長門阜隶隹雨靑非面革韋韭音頁風飛食首香馬骨高髟鬥鬯鬲鬼魚鳥鹵鹿麥麻黃黍黑黹黽鼎鼓鼠鼻齊齒龍龜龠"⟩, ⟨0x3002, "."⟩,
   ⟨0x3036, "〒"⟩, ⟨0x3038, "十卄卅"⟩, ⟨0x3131, "ᄀᄁᆪᄂᆬᆭᄃᄄᄅᆰᆱᆲᆳᆴᆵᄚᄆᄇᄈᄡᄉᄊᄋᄌᄍᄎᄏᄐᄑ하ᅢᅣᅤᅥᅦᅧᅨᅩᅪᅫᅬᅭᅮᅯᅰᅱᅲᅳᅴᅵ"⟩,
   ⟨0x3165, "ᄔᄕᇇᇈᇌᇎᇓᇗᇙᄜᇝᇟᄝᄞᄠᄢᄣᄧᄩᄫᄬᄭᄮᄯᄲᄶᅀᅇᅌᇱᇲᅗᅘᅙᆄᆅᆈᆑᆒᆔᆞᆡ"⟩, ⟨0x3192, "一二三四上中下甲乙丙丁天地人"⟩,
   ⟨0x3244, "問幼文箏"⟩, ⟨0x3260, "ᄀᄂᄃᄅᄆᄇᄉᄋᄌᄎᄏᄐᄑᄒ가나다라마바사아자차카타파하"⟩, ⟨0x327E, "우"⟩,
   ⟨0x3280, "一二三四五六七八九十月火水木金土日株有社名特財祝労秘男女適優印注項休写正上中下左右医宗学監企資協夜"⟩,
   ⟨0x32D0, "アイウエオカキクケコサシスセソタチツテトナニヌネノハヒフヘホマミムメモヤユヨラリルレロワヰヱヲ"⟩, ⟨0xA69C, "ъь"⟩, ⟨0xA770, "ꝯ"⟩,
   ⟨0xA7F1, "scfq"⟩, ⟨0xA7F8, "ħœ"⟩, ⟨0xAB5C, "ꜧꬷɫꭒ"⟩, ⟨0xAB69, "ʍ"⟩,
   ⟨0xAB70, "ᎠᎡᎢᎣᎤᎥᎦᎧᎨᎩᎪᎫᎬᎭᎮᎯᎰᎱᎲᎳᎴᎵᎶᎷᎸᎹᎺᎻᎼᎽᎾᎿᏀᏁᏂᏃᏄᏅᏆᏇᏈᏉᏊᏋᏌᏍᏎᏏᏐᏑᏒᏓᏔᏕᏖᏗᏘᏙᏚᏛᏜᏝᏞᏟᏠᏡᏢᏣᏤᏥᏦᏧᏨᏩᏪᏫᏬᏭ"⟩,
   ⟨0xABBE, "ᏮᏯ"⟩,
   ⟨0xF900, "豈更車賈滑串句龜龜契金喇奈懶癩羅蘿螺裸邏樂洛烙珞落酪駱亂卵欄爛蘭鸞嵐濫藍襤拉臘蠟廊朗浪狼郎來冷勞擄櫓爐盧老蘆虜路露魯鷺碌祿綠菉錄鹿論壟弄籠聾牢磊賂雷壘屢樓淚"⟩,
   ⟨0xF94E, "漏累縷陋勒肋凜凌稜綾菱陵讀拏樂諾丹寧怒率異北磻便復不泌數索參塞省葉說殺辰沈拾若掠略亮兩凉梁糧良諒量勵呂女廬旅濾礪閭驪麗黎力曆歷轢年憐戀撚漣煉璉秊練聯輦蓮連鍊"⟩,
   ⟨0xF99C, "列劣咽烈裂說廉念捻殮簾獵令囹寧嶺怜玲瑩羚聆鈴零靈領例禮醴隸惡了僚寮尿料樂燎療蓼遼龍暈阮劉杻柳流溜琉留硫紐類六戮陸倫崙淪輪律慄栗率隆利吏履易李梨泥理痢罹裏裡里"⟩,
   ⟨0xF9EA, "離匿溺吝燐璘藺隣鱗麟林淋臨立笠粒狀炙識什茶刺切度拓糖宅洞暴輻行降見廓兀嗀"⟩, ⟨0xFA10, "塚"⟩, ⟨0xFA12, "晴"⟩,
   ⟨0xFA15, "凞猪益礼神祥福靖精羽"⟩, ⟨0xFA20, "蘒"⟩, ⟨0xFA22, "諸"⟩, ⟨0xFA25, "逸都"⟩,
   ⟨0xFA2A, "飯飼館鶴郞隷侮僧免勉勤卑喝嘆器塀墨層屮悔慨憎懲敏既暑梅海渚漢煮爫琢碑社祉祈祐祖祝禍禎穀突節練縉繁署者臭艹艹著褐視謁謹賓贈辶逸難響頻恵𤋮舘"⟩,
   ⟨0xFA70, "並况全侀充冀勇勺喝啕喙嗢塚墳奄奔婢嬨廒廙彩徭惘慎愈憎慠懲戴揄搜摒敖晴朗望杖歹殺流滛滋漢瀞煮瞧爵犯猪瑱甆画瘝瘟益盛直睊着磌窱節类絛練缾者荒華蝹襁覆視調諸請謁諾"⟩,
   ⟨0xFABE, "諭謹變贈輸遲醙鉶陼難靖韛響頋頻鬒龜𢡊𢡄𣏕㮝䀘䀹𥉉𥳐𧻓齃龎"⟩, ⟨0xFB20, "עאדהכלםרת+"⟩,
   ⟨0xFB50, "ٱٱٻٻٻٻپپپپڀڀڀڀٺٺٺٺٿٿٿٿٹٹٹٹڤڤڤڤڦڦڦڦڄڄڄڄڃڃڃڃچچچچڇڇڇڇڍڍڌڌڎڎڈڈژژڑڑککککگگگگڳڳڳڳڱڱڱڱ"⟩,
   ⟨0xFB9E, "ںںڻڻڻڻۀۀہہہہھھھھےےۓۓ"⟩, ⟨0xFBD3, "ڭڭڭڭۇۇۆۆۈۈ"⟩, ⟨0xFBDE, "ۋۋۅۅۉۉېېېېىى"⟩,
   ⟨0xFBFC, "یییی"⟩, ⟨0xFE10, ",、"⟩, ⟨0xFE14, ";!"⟩, ⟨0xFE17, "〖〗"⟩,
   ⟨0xFE31, "—–__()\x7b\x7d〔〕【】《》〈〉「」『』"⟩, ⟨0xFE4D, "___,、"⟩, ⟨0xFE54, ";"⟩,
   ⟨0xFE57, "!—()\x7b\x7d〔〕"⟩, ⟨0xFE60, "&*+-"⟩, ⟨0xFE66, "="⟩, ⟨0xFE69, "$"⟩,
   ⟨0xFE80, "ءآآأأؤؤإإئئئئااببببةةتتتتثثثثججججححححخخخخددذذررززسسسسششششصصصصضضضضططططظظظظععععغ"⟩,
   ⟨0xFECE, "غغغففففققققككككللللممممننننههههووىىيييي"⟩, ⟨0xFF01, "!\""⟩, ⟨0xFF04, "$"⟩,
   ⟨0xFF06, "&'()*+,-."⟩, ⟨0xFF10, "0123456789"⟩, ⟨0xFF1B, ";"⟩, ⟨0xFF1D, "="⟩,
   ⟨0xFF21, "abcdefghijklmnopqrstuvwxyz"⟩, ⟨0xFF3F, "_\x60abcdefghijklmnopqrstuvwxyz\x7b"⟩,
   ⟨0xFF5D, "\x7d~⦅⦆.「」、・ヲァィゥェォャュョッーアイウエオカキクケコサシスセソタチツテトナニヌネノハヒフヘホマミムメモヤユヨラリルレロワン\u3099"⟩,
   ⟨0xFF9F, "\u309a"⟩, ⟨0xFFA1, "ᄀᄁᆪᄂᆬᆭᄃᄄᄅᆰᆱᆲᆳᆴᆵᄚᄆᄇᄈᄡᄉᄊᄋᄌᄍᄎᄏᄐᄑᄒ"⟩, ⟨0xFFC2, "ᅡᅢᅣᅤᅥᅦ"⟩,
   ⟨0xFFCA, "ᅧᅨᅩᅪᅫᅬ"⟩, ⟨0xFFD2, "ᅭᅮᅯᅰᅱᅲ"⟩, ⟨0xFFDA, "ᅳᅴᅵ"⟩, ⟨0xFFE0, "¢£¬"⟩, ⟨0xFFE4, "¦¥₩"⟩,
   ⟨0xFFE8, "│←↑→↓■○"⟩, ⟨0x10781, "ːˑæʙɓ"⟩,
   ⟨0x10787, "ʣꭦʥʤɖɗᶑɘɞʩɤɢɠʛħʜɧʄʪʫɬ𝼄ꞎɮ𝼅ʎ𝼆øɶɷqɺ𝼈ɽɾʀʨʦꭧʧʈⱱ"⟩, ⟨0x107B2, "ʏʡʢʘǀǁǂ𝼊𝼞"⟩,
   ⟨0x1CCD6, "abcdefghijklmnopqrstuvwxyz0123456789"⟩,
   ⟨0x1D400, "abcdefghijklmnopqrstuvwxyzabcdefghijklmnopqrstuvwxyzabcdefghijklmnopqrstuvwxyz"⟩,
   ⟨0x1D44E, "abcdefg"⟩,
   ⟨0x1D456, "ijklmnopqrstuvwxyzabcdefghijklmnopqrstuvwxyzabcdefghijklmnopqrstuvwxyza"⟩,
   ⟨0x1D49E, "cd"⟩, ⟨0x1D4A2, "g"⟩, ⟨0x1D4A5, "jk"⟩, ⟨0x1D4A9, "nopq"⟩, ⟨0x1D4AE, "stuvwxyzabcd"⟩,
   ⟨0x1D4BB, "f"⟩, ⟨0x1D4BD, "hijklmn"⟩,
   ⟨0x1D4C5, "pqrstuvwxyzabcdefghijklmnopqrstuvwxyzabcdefghijklmnopqrstuvwxyzab"⟩,
   ⟨0x1D507, "defg"⟩, ⟨0x1D50D, "jklmnopq"⟩, ⟨0x1D516, "stuvwxy"⟩,
   ⟨0x1D51E, "abcdefghijklmnopqrstuvwxyzab"⟩, ⟨0x1D53B, "defg"⟩, ⟨0x1D540, "ijklm"⟩,
   ⟨0x1D546, "o"⟩, ⟨0x1D54A, "stuvwxy"⟩,
   ⟨0x1D552, "abcdefghijklmnopqrstuvwxyzabcdefghijklmnopqrstuvwxyzabcdefghijklmnopqrstuvwxyz"⟩,
   ⟨0x1D5A0, "abcdefghijklmnopqrstuvwxyzabcdefghijklmnopqrstuvwxyzabcdefghijklmnopqrstuvwxyz"⟩,
   ⟨0x1D5EE, "abcdefghijklmnopqrstuvwxyzabcdefghijklmnopqrstuvwxyzabcdefghijklmnopqrstuvwxyz"⟩,
   ⟨0x1D63C, "abcdefghijklmnopqrstuvwxyzabcdefghijklmnopqrstuvwxyzabcdefghijklmnopqrstuvwxyz"⟩,
   ⟨0x1D68A, "abcdefghijklmnopqrstuvwxyzıȷ"⟩,
   ⟨0x1D6A8, "αβγδεζηθικλμνξοπρθστυφχψω∇αβγδεζηθικλμνξοπρσστυφχψω∂εθκφρπαβγδεζηθικλμνξοπρθστ"⟩,
   ⟨0x1D6F6, "υφχψω∇αβγδεζηθικλμνξοπρσστυφχψω∂εθκφρπαβγδεζηθικλμνξοπρθστυφχψω∇αβγδεζηθικλμνξ"⟩,
   ⟨0x1D744, "οπρσστυφχψω∂εθκφρπαβγδεζηθικλμνξοπρθστυφχψω∇αβγδεζηθικλμνξοπρσστυφχψω∂εθκφρπαβ"⟩,
   ⟨0x1D792, "γδεζηθικλμνξοπρθστυφχψω∇αβγδεζηθικλμνξοπρσστυφχψω∂εθκφρπϝϝ"⟩,
   ⟨0x1D7CE, "01234567890123456789012345678901234567890123456789"⟩,
   ⟨0x1E030, "абвгдежзиклмопрстуфхцчшыэюꚉәіјөүӏабвгдежзиклопсуфхцчшъыґіѕџҫꙑұ"⟩, ⟨0x1EE00, "ابجد"⟩,
   ⟨0x1EE05, "وزحطيكلمنسعفصقرشتثخذضظغٮںڡٯ"⟩, ⟨0x1EE21, "بج"⟩, ⟨0x1EE24, "ه"⟩, ⟨0x1EE27, "ح"⟩,
   ⟨0x1EE29, "يكلمنسعفصق"⟩, ⟨0x1EE34, "شتثخ"⟩, ⟨0x1EE39, "ض"⟩, ⟨0x1EE3B, "غ"⟩, ⟨0x1EE42, "ج"⟩,
   ⟨0x1EE47, "ح"⟩, ⟨0x1EE49, "ي"⟩, ⟨0x1EE4B, "ل"⟩, ⟨0x1EE4D, "نسع"⟩, ⟨0x1EE51, "صق"⟩,
   ⟨0x1EE54, "ش"⟩, ⟨0x1EE57, "خ"⟩, ⟨0x1EE59, "ض"⟩, ⟨0x1EE5B, "غ"⟩, ⟨0x1EE5D, "ں"⟩, ⟨0x1EE5F, "ٯ"⟩,
   ⟨0x1EE61, "بج"⟩, ⟨0x1EE64, "ه"⟩, ⟨0x1EE67, "حطيك"⟩, ⟨0x1EE6C, "منسعفصق"⟩, ⟨0x1EE74, "شتثخ"⟩,
   ⟨0x1EE79, "ضظغٮ"⟩, ⟨0x1EE7E, "ڡ"⟩, ⟨0x1EE80, "ابجدهوزحطي"⟩, ⟨0x1EE8B, "لمنسعفصقرشتثخذضظغ"⟩,
   ⟨0x1EEA1, "بجد"⟩, ⟨0x1EEA5, "وزحطي"⟩, ⟨0x1EEAB, "لمنسعفصقرشتثخذضظغ"⟩, ⟨0x1F12B, "cr"⟩,
   ⟨0x1F130, "abcdefghijklmnopqrstuvwxyz"⟩, ⟨0x1F202, "サ"⟩,
   ⟨0x1F210, "手字双デ二多解天交映無料前後再新初終生販声吹演投捕一三遊左中右指走打禁空合満有月申割営配"⟩, ⟨0x1F250, "得可"⟩,
   ⟨0x1FBF0, "0123456789"⟩,
   ⟨0x2F800, "丽丸乁𠄢你侮侻倂偺備僧像㒞𠘺免兔兤具𠔜㒹內再𠕋冗冤仌冬况𩇟凵刃㓟刻剆割剷㔕勇勉勤勺包匆北卉卑博即卽卿卿卿𠨬灰及叟𠭣叫叱吆咞吸呈周咢哶唐啓啣善善喙喫喳嗂圖嘆圗"⟩,
   ⟨0x2F84E, "噑噴切壮城埴堍型堲報墬𡓤売壷夆多夢奢𡚨𡛪姬娛娧姘婦㛮㛼嬈嬾嬾𡧈寃寘寧寳𡬘寿将当尢㞁屠屮峀岍𡷤嵃𡷦嵮嵫嵼巡巢㠯巽帨帽幩㡢𢆃㡼庰庳庶廊𪎒廾𢌱𢌱舁弢弢㣇𣊸𦇚形彫㣣"⟩,
   ⟨0x2F89C, "徚忍志忹悁㤺㤜悔𢛔惇慈慌慎慌慺憎憲憤憯懞懲懶成戛扝抱拔捐𢬌挽拼捨掃揤𢯱搢揅掩㨮摩摾撝摷㩬敏敬𣀊旣書晉㬙暑㬈㫤冒冕最暜肭䏙朗望朡杞杓𣏃㭉柺枅桒梅𣑭梎栟椔㮝楂榣"⟩,
   ⟨0x2F8EA, "槪檨𣚣櫛㰘次𣢧歔㱎歲殟殺殻𣪍𡴋𣫺汎𣲼沿泍汧洖派海流浩浸涅𣴞洴港湮㴳滋滇𣻑淹潮𣽞𣾎濆瀹瀞瀛㶖灊災灷炭𠔥煅𤉣熜𤎫爨爵牐𤘈犀犕𤜵𤠔獺王㺬玥㺸㺸瑇瑜瑱璅瓊㼛甤𤰶甾𤲒"⟩,
   ⟨0x2F938, "異𢆟瘐𤾡𤾸𥁄㿼䀈直𥃳𥃲𥄙𥄳眞真真睊䀹瞋䁆䂖𥐝硎碌磌䃣𥘦祖𥚚𥛅福秫䄯穀穊穏𥥼𥪧𥪧竮䈂𥮫篆築䈧𥲀糒䊠糨糣紀𥾆絣䌁緇縂繅䌴𦈨𦉇䍙𦋙罺𦌾羕翺者𦓚𦔣聠𦖨聰𣍟䏕育脃䐋脾"⟩,
   ⟨0x2F986, "媵𦞧𦞵𣎓𣎜舁舄辞䑫芑芋芝劳花芳芽苦𦬼若茝荣莭茣莽菧著荓菊菌菜𦰶𦵫𦳕䔫蓱蓳蔖𧏊蕤𦼬䕝䕡𦾱𧃒䕫虐虜虧虩蚩蚈蜎蛢蝹蜨蝫螆䗗蟡蠁䗹衠衣𧙧裗裞䘵裺㒻𧢮𧥦䚾䛇誠諭變豕𧲨"⟩,
   ⟨0x2F9D4, "貫賁贛起𧼯𠠄跋趼跰𠣞軔輸𨗒𨗭邔郱鄑𨜮鄛鈸鋗鋘鉼鏹鐕𨯺開䦕閷𨵷䧦雃嶲霣𩅅𩈚䩮䩶韠𩐊䪲𩒖頋頋頩𩖶飢䬳餩馧駂駾䯎𩬰鬒鱀鳽䳎䳭鵧𪃎䳸𪄅𪈎𪊑麻䵖黹黾鼅鼏鼖鼻𪘀"⟩]

/-- Every character has an image of several; there are spaces between them. -/
def longImages : List Images :=
  [⟨0x00BC, "1⁄4 1⁄2 3⁄4"⟩, ⟨0x0132, "ij ij"⟩, ⟨0x013F, "l· l·"⟩, ⟨0x0149, "ʼn"⟩,
   ⟨0x01C4, "dž dž dž lj lj lj nj nj nj"⟩, ⟨0x01F1, "dz dz dz"⟩, ⟨0x0344, "\u0308\u0301"⟩,
   ⟨0x0587, "եւ"⟩, ⟨0x0675, "اٴ وٴ ۇٴ يٴ"⟩,
   ⟨0x0958, "क\u093c ख\u093c ग\u093c ज\u093c ड\u093c ढ\u093c फ\u093c य\u093c"⟩,
   ⟨0x09DC, "ড\u09bc ঢ\u09bc"⟩, ⟨0x09DF, "য\u09bc"⟩, ⟨0x0A33, "ਲ\u0a3c"⟩, ⟨0x0A36, "ਸ\u0a3c"⟩,
   ⟨0x0A59, "ਖ\u0a3c ਗ\u0a3c ਜ\u0a3c"⟩, ⟨0x0A5E, "ਫ\u0a3c"⟩, ⟨0x0B5C, "ଡ\u0b3c ଢ\u0b3c"⟩,
   ⟨0x0E33, "\u0e4dา"⟩, ⟨0x0EB3, "\u0ecdາ"⟩, ⟨0x0EDC, "ຫນ ຫມ"⟩, ⟨0x0F43, "ག\u0fb7"⟩,
   ⟨0x0F4D, "ཌ\u0fb7"⟩, ⟨0x0F52, "ད\u0fb7"⟩, ⟨0x0F57, "བ\u0fb7"⟩, ⟨0x0F5C, "ཛ\u0fb7"⟩,
   ⟨0x0F69, "ཀ\u0fb5"⟩, ⟨0x0F73, "\u0f71\u0f72"⟩,
   ⟨0x0F75, "\u0f71\u0f74 \u0fb2\u0f80 \u0fb2\u0f71\u0f80 \u0fb3\u0f80 \u0fb3\u0f71\u0f80"⟩,
   ⟨0x0F81, "\u0f71\u0f80"⟩, ⟨0x0F93, "\u0f92\u0fb7"⟩, ⟨0x0F9D, "\u0f9c\u0fb7"⟩,
   ⟨0x0FA2, "\u0fa1\u0fb7"⟩, ⟨0x0FA7, "\u0fa6\u0fb7"⟩, ⟨0x0FAC, "\u0fab\u0fb7"⟩,
   ⟨0x0FB9, "\u0f90\u0fb5"⟩, ⟨0x1E9A, "aʾ"⟩,
   ⟨0x1F80, "ἀι ἁι ἂι ἃι ἄι ἅι ἆι ἇι ἀι ἁι ἂι ἃι ἄι ἅι ἆι ἇι ἠι ἡι ἢι ἣι ἤι ἥι ἦι ἧι ἠι ἡι"⟩,
   ⟨0x1F9A, "ἢι ἣι ἤι ἥι ἦι ἧι ὠι ὡι ὢι ὣι ὤι ὥι ὦι ὧι ὠι ὡι ὢι ὣι ὤι ὥι ὦι ὧι"⟩,
   ⟨0x1FB2, "ὰι αι άι"⟩, ⟨0x1FB7, "ᾶι"⟩, ⟨0x1FBC, "αι"⟩, ⟨0x1FC2, "ὴι ηι ήι"⟩, ⟨0x1FC7, "ῆι"⟩,
   ⟨0x1FCC, "ηι"⟩, ⟨0x1FF2, "ὼι ωι ώι"⟩, ⟨0x1FF7, "ῶι"⟩, ⟨0x1FFC, "ωι"⟩, ⟨0x2033, "′′ ′′′"⟩,
   ⟨0x2036, "‵‵ ‵‵‵"⟩, ⟨0x203C, "!!"⟩, ⟨0x2057, "′′′′"⟩, ⟨0x20A8, "rs"⟩, ⟨0x2103, "°c"⟩,
   ⟨0x2109, "°f"⟩, ⟨0x2116, "no"⟩, ⟨0x2120, "sm tel tm"⟩, ⟨0x213B, "fax"⟩,
   ⟨0x2150, "1⁄7 1⁄9 1⁄10 1⁄3 2⁄3 1⁄5 2⁄5 3⁄5 4⁄5 1⁄6 5⁄6 1⁄8 3⁄8 5⁄8 7⁄8 1⁄"⟩,
   ⟨0x2161, "ii iii iv"⟩, ⟨0x2165, "vi vii viii ix"⟩, ⟨0x216A, "xi xii"⟩, ⟨0x2171, "ii iii iv"⟩,
   ⟨0x2175, "vi vii viii ix"⟩, ⟨0x217A, "xi xii"⟩, ⟨0x2189, "0⁄3"⟩, ⟨0x222C, "∫∫ ∫∫∫"⟩,
   ⟨0x222F, "∮∮ ∮∮∮"⟩,
   ⟨0x2469, "10 11 12 13 14 15 16 17 18 19 20 (1) (2) (3) (4) (5) (6) (7) (8) (9) (10) (11)"⟩,
   ⟨0x247F, "(12) (13) (14) (15) (16) (17) (18) (19) (20)"⟩,
   ⟨0x249C, "(a) (b) (c) (d) (e) (f) (g) (h) (i) (j) (k) (l) (m) (n) (o) (p) (q) (r) (s)"⟩,
   ⟨0x24AF, "(t) (u) (v) (w) (x) (y) (z)"⟩, ⟨0x2A0C, "∫∫∫∫"⟩, ⟨0x2A75, "== ==="⟩,
   ⟨0x2ADC, "⫝\u0338"⟩, ⟨0x309F, "より"⟩, ⟨0x30FF, "コト"⟩,
   ⟨0x3200, "(ᄀ) (ᄂ) (ᄃ) (ᄅ) (ᄆ) (ᄇ) (ᄉ) (ᄋ) (ᄌ) (ᄎ) (ᄏ) (ᄐ) (ᄑ) (ᄒ) (가) (나) (다) (라) (마)"⟩,
   ⟨0x3213, "(바) (사) (아) (자) (차) (카) (타) (파) (하) (주) (오전) (오후)"⟩,
   ⟨0x3220, "(一) (二) (三) (四) (五) (六) (七) (八) (九) (十) (月) (火) (水) (木) (金) (土) (日) (株) (有)"⟩,
   ⟨0x3233, "(社) (名) (特) (財) (祝) (労) (代) (呼) (学) (監) (企) (資) (協) (祭) (休) (自) (至)"⟩,
   ⟨0x3250, "pte 21 22 23 24 25 26 27 28 29 30 31 32 33 34 35"⟩, ⟨0x327C, "참고 주의"⟩,
   ⟨0x32B1, "36 37 38 39 40 41 42 43 44 45 46 47 48 49 50 1月 2月 3月 4月 5月 6月 7月 8月 9月 10月"⟩,
   ⟨0x32CA, "11月 12月 hg erg ev ltd"⟩,
   ⟨0x32FF, "令和 アパート アルファ アンペア アール イニング インチ ウォン エスクード エーカー オンス オーム カイリ カラット カロリー ガロン ガンマ ギガ"⟩,
   ⟨0x3311, "ギニー キュリー ギルダー キロ キログラム キロメートル キロワット グラム グラムトン クルゼイロ クローネ ケース コルナ コーポ サイクル"⟩,
   ⟨0x3320, "サンチーム シリング センチ セント ダース デシ ドル トン ナノ ノット ハイツ パーセント パーツ バーレル ピアストル ピクル ピコ ビル"⟩,
   ⟨0x3332, "ファラッド フィート ブッシェル フラン ヘクタール ペソ ペニヒ ヘルツ ペンス ページ ベータ ポイント ボルト ホン ポンド ホール ホーン マイクロ"⟩,
   ⟨0x3344, "マイル マッハ マルク マンション ミクロン ミリ ミリバール メガ メガトン メートル ヤード ヤール ユアン リットル リラ ルピー ルーブル レム"⟩,
   ⟨0x3356, "レントゲン ワット 0点 1点 2点 3点 4点 5点 6点 7点 8点 9点 10点 11点 12点 13点 14点 15点 16点 17点 18点"⟩,
   ⟨0x336B, "19点 20点 21点 22点 23点 24点 hpa da au bar ov pc dm dm2 dm3 iu 平成 昭和 大正 明治 株式会社 pa"⟩,
   ⟨0x3381, "na μa ma ka kb mb gb cal kcal pf nf μf μg mg kg hz khz mhz ghz thz μl ml dl kl"⟩,
   ⟨0x3399, "fm nm μm mm cm km mm2 cm2 m2 km2 mm3 cm3 m3 km3 m∕s m∕s2 pa kpa mpa gpa rad"⟩,
   ⟨0x33AE, "rad∕s rad∕s2 ps ns μs ms pv nv μv mv kv mv pw nw μw mw kw mw kω mω"⟩,
   ⟨0x33C3, "bq cc cd c∕kg"⟩, ⟨0x33C8, "db gy ha hp in kk km kt lm ln log lx mb mil mol ph"⟩,
   ⟨0x33D9, "ppm pr sr sv wb v∕m a∕m 1日 2日 3日 4日 5日 6日 7日 8日 9日 10日 11日 12日 13日 14日 15日 16日"⟩,
   ⟨0x33F0, "17日 18日 19日 20日 21日 22日 23日 24日 25日 26日 27日 28日 29日 30日 31日 gal"⟩,
   ⟨0xFB00, "ff fi fl ffi ffl st st"⟩, ⟨0xFB13, "մն մե մի վն մխ"⟩, ⟨0xFB1D, "י\u05b4"⟩,
   ⟨0xFB1F, "ײ\u05b7"⟩,
   ⟨0xFB2A, "ש\u05c1 ש\u05c2 ש\u05bc\u05c1 ש\u05bc\u05c2 א\u05b7 א\u05b8 א\u05bc ב\u05bc"⟩,
   ⟨0xFB32, "ג\u05bc ד\u05bc ה\u05bc ו\u05bc ז\u05bc"⟩,
   ⟨0xFB38, "ט\u05bc י\u05bc ך\u05bc כ\u05bc ל\u05bc"⟩, ⟨0xFB3E, "מ\u05bc"⟩,
   ⟨0xFB40, "נ\u05bc ס\u05bc"⟩, ⟨0xFB43, "ף\u05bc פ\u05bc"⟩,
   ⟨0xFB46, "צ\u05bc ק\u05bc ר\u05bc ש\u05bc ת\u05bc ו\u05b9 ב\u05bf כ\u05bf פ\u05bf אל"⟩,
   ⟨0xFBDD, "ۇٴ"⟩, ⟨0xFBEA, "ئا ئا ئە ئە ئو ئو ئۇ ئۇ ئۆ ئۆ ئۈ ئۈ ئې ئې ئې ئى ئى ئى"⟩,
   ⟨0xFC00, "ئج ئح ئم ئى ئي بج بح بخ بم بى بي تج تح تخ تم تى تي ثج ثم ثى ثي جح جم حج حم خج"⟩,
   ⟨0xFC1A, "خح خم سج سح سخ سم صح صم ضج ضح ضخ ضم طح طم ظم عج عم غج غم فج فح فخ فم فى في قح"⟩,
   ⟨0xFC34, "قم قى قي كا كج كح كخ كل كم كى كي لج لح لخ لم لى لي مج مح مخ مم مى مي نج نح نخ"⟩,
   ⟨0xFC4E, "نم نى ني هج هم هى هي يج يح يخ يم يى يي ذ\u0670 ر\u0670 ى\u0670"⟩,
   ⟨0xFC64, "ئر ئز ئم ئن ئى ئي بر بز بم بن بى بي تر تز تم تن تى تي ثر ثز ثم ثن ثى ثي فى في"⟩,
   ⟨0xFC7E, "قى قي كا كل كم كى كي لم لى لي ما مم نر نز نم نن نى ني ى\u0670 ير يز يم ين يى"⟩,
   ⟨0xFC96, "يي ئج ئح ئخ ئم ئه بج بح بخ بم به تج تح تخ تم ته ثم جح جم حج حم خج خم سج سح سخ"⟩,
   ⟨0xFCB0, "سم صح صخ صم ضج ضح ضخ ضم طح ظم عج عم غج غم فج فح فخ فم قح قم كج كح كخ كل كم لج"⟩,
   ⟨0xFCCA, "لح لخ لم له مج مح مخ مم نج نح نخ نم نه هج هم ه\u0670 يج يح يخ يم يه ئم ئه بم"⟩,
   ⟨0xFCE2, "به تم ته ثم ثه سم سه شم شه كل كم لم نم نه يم يه ـ\u064e\u0651 ـ\u064f\u0651"⟩,
   ⟨0xFCF4, "ـ\u0650\u0651 طى طي عى عي غى غي سى سي شى شي حى حي جى جي خى خي صى صي ضى ضي شج"⟩,
   ⟨0xFD0A, "شح شخ شم شر سر صر ضر طى طي عى عي غى غي سى سي شى شي حى حي جى جي خى خي صى صي ضى"⟩,
   ⟨0xFD24, "ضي شج شح شخ شم شر سر صر ضر شج شح شخ شم سه شه طم سج سح سخ شج شح شخ طم ظم"⟩,
   ⟨0xFD3C, "ا\u064b ا\u064b"⟩,
   ⟨0xFD50, "تجم تحج تحج تحم تخم تمج تمح تمخ جمح جمح حمي حمى سحج سجح سجى سمح سمح سمج سمم"⟩,
   ⟨0xFD63, "سمم صحح صحح صمم شحم شحم شجي شمخ شمخ شمم شمم ضحى ضخم ضخم طمح طمح طمم طمي عجم"⟩,
   ⟨0xFD76, "عمم عمم عمى غمم غمي غمى فخم فخم قمح قمم لحم لحي لحى لجج لجج لخم لخم لمح لمح"⟩,
   ⟨0xFD89, "محج محم محي مجح مجم مخج مخم"⟩,
   ⟨0xFD92, "مجخ همج همم نحم نحى نجم نجم نجى نمي نمى يمم يمم بخي تجي تجى تخي تخى تمي تمى"⟩,
   ⟨0xFDA5, "جمي جحى جمى سخى صحي شحي ضحي لجي لمي يحي يجي يمي ممي قمي نحي قمح لحم عمي كمي"⟩,
   ⟨0xFDB8, "نجح مخي لجم كمم لجم نجح جحي حجي مجي فمي بحي كمم عجم صمم سخي نجي"⟩,
   ⟨0xFDF0, "صلے قلے الله اكبر محمد صلعم رسول عليه وسلم صلى"⟩, ⟨0xFDFC, "ریال"⟩,
   ⟨0xFE71, "ـ\u064b"⟩, ⟨0xFE77, "ـ\u064e"⟩, ⟨0xFE79, "ـ\u064f"⟩, ⟨0xFE7B, "ـ\u0650"⟩,
   ⟨0xFE7D, "ـ\u0651"⟩, ⟨0xFE7F, "ـ\u0652"⟩, ⟨0xFEF5, "لآ لآ لأ لأ لإ لإ لا لا"⟩,
   ⟨0x1D15E, "𝅗𝅥 𝅘𝅥 𝅘𝅥𝅮 𝅘𝅥𝅯 𝅘𝅥𝅰 𝅘𝅥𝅱 𝅘𝅥𝅲"⟩, ⟨0x1D1BB, "𝆹𝅥 𝆺𝅥 𝆹𝅥𝅮 𝆺𝅥𝅮 𝆹𝅥𝅯 𝆺𝅥𝅯"⟩,
   ⟨0x1F101, "0, 1, 2, 3, 4, 5, 6, 7, 8, 9,"⟩,
   ⟨0x1F110, "(a) (b) (c) (d) (e) (f) (g) (h) (i) (j) (k) (l) (m) (n) (o) (p) (q) (r) (s)"⟩,
   ⟨0x1F123, "(t) (u) (v) (w) (x) (y) (z) 〔s〕"⟩, ⟨0x1F12D, "cd wz"⟩,
   ⟨0x1F14A, "hv mv sd ss ppv wc"⟩, ⟨0x1F16A, "mc md mr"⟩, ⟨0x1F190, "dj"⟩, ⟨0x1F200, "ほか ココ"⟩,
   ⟨0x1F240, "〔本〕 〔三〕 〔二〕 〔安〕 〔点〕 〔打〕 〔盗〕 〔勝〕 〔敗〕"⟩]

/-- The entry of a code point, found by its distance from the first one of the group. -/
def entry? (n : Nat) (entriesOf : String → List Text) : List Images → Option Text
  | [] => none
  | x :: xs =>
    if n < x.first then none
    else match (entriesOf x.images)[n - x.first]? with
      | some t => some t
      | none => entry? n entriesOf xs

def imageOf? (n : Nat) : Option Text :=
  match entry? n (fun s => s.toList.map fun c => [c]) singleImages with
  | some t => some t
  | none => entry? n (fun s => s.toList.splitOnP (· == ' ')) longImages

/-- Capital letters of the one script in which they stay as they are. -/
def isCherokee (n : Nat) : Bool := 0x13A0 ≤ n && n ≤ 0x13F5

def isJoiner (c : Char) : Bool := c == '\u200c' || c == '\u200d'

def isForbidden (c : Char) : Bool :=
  c ≤ ' ' || c == '\x7f' || "%#/:<>?@[\\]^|".toList.contains c

def image? (c : Char) : Option Text :=
  let n := c.toNat
  if n < 128 then if isForbidden c then none else some [c.toLower]
  else if Text.Ranges.has n ignored then some []
  else if isJoiner c then some [c]
  else if Text.Ranges.has n Text.unprintable || Text.Ranges.has n refused then none
  else match imageOf? n with
    | some t => some t
    | none => some (if isCherokee n then [c] else Text.lowerChar c)

end Textbase.Url.Domain
