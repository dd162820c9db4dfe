import Utterance.Pattern.Property.Basic

/-!
The scripts that characters belong to, and those that a character of several scripts is used in.
-/

namespace Utterance.Pattern.Property

def scripts : List Property := [
  { names := ["Adlm", "Adlam"], more := "1e900 4c 4 a 4 2" },
  { names := ["Aghb", "Caucasian_Albanian"], more := "10530 34 b 1" },
  { names := ["Ahom"], more := "11700 1b 2 f 4 17" },
  { names := ["Arab", "Arabic"], more := "
    600 5 1 6 1 e 1 3 1 20 1 a b 1a 1 6c 1 22 50 30 f0 1f 1 2 5 4b 1 1d f250 73 10 16b 2 50 2 36 7 1 20 10
    70 5 1 87 f63 1f 43 3 37 4 df00 4 1 1b 1 2 1 1 2 1 1 a 1 4 1 1 1 1 6 1 4 1 1 1 1 1 1 3 1 2 1 1 2 1 1 1
    1 1 1 1 1 1 1 2 1 1 2 4 1 7 1 4 1 4 1 1 1 a 1 11 5 3 1 5 1 11 34 2" },
  { names := ["Armi", "Imperial_Aramaic"], more := "10840 16 1 9" },
  { names := ["Armn", "Armenian"], more := "531 26 2 32 2 3 f583 5" },
  { names := ["Avst", "Avestan"], more := "10b00 36 3 7" },
  { names := ["Bali", "Balinese"], more := "1b00 4d 1 32" },
  { names := ["Bamu", "Bamum"], more := "a6a0 58 c108 239" },
  { names := ["Bass", "Bassa_Vah"], more := "16ad0 1e 2 6" },
  { names := ["Batk", "Batak"], more := "1bc0 34 8 4" },
  { names := ["Beng", "Bengali"], more := "980 4 1 8 2 2 2 16 1 7 1 1 3 4 2 9 2 2 2 4 8 1 4 2 1 5 2 19" },
  { names := ["Bhks", "Bhaiksuki"], more := "11c00 9 1 2d 1 e a 1d" },
  { names := ["Bopo", "Bopomofo"], more := "2ea 2 2e19 2b 70 20" },
  { names := ["Brah", "Brahmi"], more := "11000 4e 4 24 9 1" },
  { names := ["Brai", "Braille"], more := "2800 100" },
  { names := ["Bugi", "Buginese"], more := "1a00 1c 2 2" },
  { names := ["Buhd", "Buhid"], more := "1740 14" },
  { names := ["Cakm", "Chakma"], more := "11100 35 1 12" },
  { names := ["Cans", "Canadian_Aboriginal"], more := "1400 280 230 46 101ba 10" },
  { names := ["Cari", "Carian"], more := "102a0 31" },
  { names := ["Cham"], more := "aa00 37 9 e 2 a 2 4" },
  { names := ["Cher", "Cherokee"], more := "13a0 56 2 6 9772 50" },
  { names := ["Chrs", "Chorasmian"], more := "10fb0 1c" },
  { names := ["Copt", "Coptic", "Qaac"], more := "3e2 e 2890 74 5 7" },
  { names := ["Cpmn", "Cypro_Minoan"], more := "12f90 63" },
  { names := ["Cprt", "Cypriot"], more := "10800 6 2 1 1 2c 1 2 3 1 2 1" },
  { names := ["Cyrl", "Cyrillic"], more := "
    400 85 2 a9 1750 b a0 1 4c 1 1067 20 7840 60 578e 2 e200 3e 21 1" },
  { names := ["Deva", "Devanagari"], more := "900 51 4 f 2 1a 9f60 20 7200 a" },
  { names := ["Diak", "Dives_Akuru"], more := "11900 7 2 1 2 8 1 2 1 1e 1 2 2 c 9 a" },
  { names := ["Dogr", "Dogra"], more := "11800 3c" },
  { names := ["Dsrt", "Deseret"], more := "10400 50" },
  { names := ["Dupl", "Duployan"], more := "1bc00 6b 5 d 3 9 7 a 2 4" },
  { names := ["Egyp", "Egyptian_Hieroglyphs"], more := "13000 456 a f9b" },
  { names := ["Elba", "Elbasan"], more := "10500 28" },
  { names := ["Elym", "Elymaic"], more := "10fe0 17" },
  { names := ["Ethi", "Ethiopic"], more := "
    1200 49 1 4 2 7 1 1 1 4 2 29 1 4 2 21 1 4 2 7 1 1 1 4 2 f 1 39 1 4 2 43 2 20 3 1a 19e6 17 9 7 1 7 1 7
    1 7 1 7 1 7 1 7 1 7 7d22 6 2 6 2 6 9 7 1 7 13cb1 7 1 4 1 2 1 f" },
  { names := ["Gara", "Garay"], more := "10d40 26 3 1d 8 2" },
  { names := ["Geor", "Georgian"], more := "10a0 26 1 1 5 1 2 2b 1 4 b90 2b 2 3 1040 26 1 1 5 1" },
  { names := ["Glag", "Glagolitic"], more := "2c00 60 1b3a0 7 1 11 2 7 1 2 1 5" },
  { names := ["Gong", "Gunjala_Gondi"], more := "11d60 6 1 2 1 25 1 2 1 6 7 a" },
  { names := ["Gonm", "Masaram_Gondi"], more := "11d00 7 1 2 1 2c 3 1 1 2 1 9 8 a" },
  { names := ["Goth", "Gothic"], more := "10330 1b" },
  { names := ["Gran", "Grantha"], more := "
    11300 4 1 8 2 2 2 16 1 7 1 2 1 5 2 9 2 2 2 3 2 1 6 1 5 7 2 7 3 5" },
  { names := ["Grek", "Greek"], more := "
    370 4 1 3 2 4 1 1 4 1 1 1 1 3 1 1 1 14 1 3f e 10 1926 5 32 5 4 5 54 1 140 16 2 6 2 26 2 6 2 8 1 1 1 1
    1 1 1 1f 2 35 1 f 1 e 2 6 1 13 2 3 1 9 127 1 8a3e 1 55da 4f 11 1 d05f 46" },
  { names := ["Gujr", "Gujarati"], more := "a81 3 1 9 1 3 1 16 1 7 1 2 1 5 2 a 1 3 1 3 2 1 f 4 2 c 7 7" },
  { names := ["Gukh", "Gurung_Khema"], more := "16100 3a" },
  { names := ["Guru", "Gurmukhi"], more := "
    a01 3 1 6 4 2 2 16 1 7 1 2 1 2 1 2 2 1 1 5 4 2 2 3 3 1 7 4 1 1 7 11" },
  { names := ["Hang", "Hangul"], more := "
    1100 100 1e2e 2 101 5e 71 1f 41 1f 76e1 1d 283 2ba4 c 17 4 31 27a4 1f 3 6 2 6 2 6 2 3" },
  { names := ["Hani", "Han"], more := "
    2e80 1a 1 59 c d6 2f 1 1 1 19 9 e 4 3c4 19c0 40 5200 5900 16e 2 6a 7508 2 c 2 900e a6e0 20 103a 6 de 2
    1682 e 1d31 f 26e 9a2 21e 5e2 134b 5 1060" },
  { names := ["Hano", "Hanunoo"], more := "1720 15" },
  { names := ["Hatr", "Hatran"], more := "108e0 13 1 2 5 5" },
  { names := ["Hebr", "Hebrew"], more := "591 37 8 1b 4 6 f528 1a 1 5 1 1 1 2 1 2 1 a" },
  { names := ["Hira", "Hiragana"], more := "3041 56 6 3 17f61 11f 12 1 1d 3 40ad 1" },
  { names := ["Hluw", "Anatolian_Hieroglyphs"], more := "14400 247" },
  { names := ["Hmng", "Pahawh_Hmong"], more := "16b00 46 a a 1 7 1 15 5 13" },
  { names := ["Hmnp", "Nyiakeng_Puachue_Hmong"], more := "1e100 2d 3 e 2 a 4 2" },
  { names := ["Hung", "Old_Hungarian"], more := "10c80 33 d 33 7 6" },
  { names := ["Ital", "Old_Italic"], more := "10300 24 9 3" },
  { names := ["Java", "Javanese"], more := "a980 4e 2 a 4 2" },
  { names := ["Kali", "Kayah_Li"], more := "a900 2e 1 1" },
  { names := ["Kana", "Katakana"], more := "
    30a1 5a 2 3 f0 10 d0 2f 1 58 cc0e a 1 2d b052 4 1 7 1 2 1 1 11f 3 32 1 e 4" },
  { names := ["Kawi"], more := "11f00 11 1 29 3 1d" },
  { names := ["Khar", "Kharoshthi"], more := "10a00 4 1 2 5 8 1 3 1 1d 2 3 4 a 7 9" },
  { names := ["Khmr", "Khmer"], more := "1780 5e 2 a 6 a 1e6 20" },
  { names := ["Khoj", "Khojki"], more := "11200 12 1 2f" },
  { names := ["Kits", "Khitan_Small_Script"], more := "16fe4 1 1b1b 1d6 29 1" },
  { names := ["Knda", "Kannada"], more := "c80 d 1 3 1 17 1 a 1 5 2 9 1 3 1 4 7 2 6 2 1 4 2 a 1 3" },
  { names := ["Krai", "Kirat_Rai"], more := "16d40 3a" },
  { names := ["Kthi", "Kaithi"], more := "11080 43 a 1" },
  { names := ["Lana", "Tai_Tham"], more := "1a20 3f 1 1d 2 b 6 a 6 e" },
  { names := ["Laoo", "Lao"], more := "e81 2 1 1 1 5 1 18 1 1 1 17 2 5 1 1 1 7 1 a 2 4" },
  { names := ["Latn", "Latin"], more := "
    41 1a 6 1a 2f 1 f 1 5 17 1 1f 1 1c1 27 5 1a1b 26 6 31 5 4 5 d 1 46 41 100 171 1 d 1 10 d 8d 2 6 1 1b 1
    11 29 ad7 20 7aa2 66 3 43 2 2 1 1 1 8 15 e 330 2b 1 9 1 4 4f96 7 41a 1a 6 1a 825 6 1 2a 1 9 d745 1f 6
    6" },
  { names := ["Lepc", "Lepcha"], more := "1c00 38 3 f 3 3" },
  { names := ["Limb", "Limbu"], more := "1900 1f 1 c 4 c 4 1 3 c" },
  { names := ["Lina", "Linear_A"], more := "10600 137 9 16 a 8" },
  { names := ["Linb", "Linear_B"], more := "10000 c 1 1a 1 13 1 2 1 f 2 e 22 7b" },
  { names := ["Lisu"], more := "a4d0 30 7ab0 1" },
  { names := ["Lyci", "Lycian"], more := "10280 1d" },
  { names := ["Lydi", "Lydian"], more := "10920 1a 5 1" },
  { names := ["Mahj", "Mahajani"], more := "11150 27" },
  { names := ["Maka", "Makasar"], more := "11ee0 19" },
  { names := ["Mand", "Mandaic"], more := "840 1c 2 1" },
  { names := ["Mani", "Manichaean"], more := "10ac0 27 4 c" },
  { names := ["Marc", "Marchen"], more := "11c70 20 2 16 1 e" },
  { names := ["Medf", "Medefaidrin"], more := "16e40 5b" },
  { names := ["Mend", "Mende_Kikakui"], more := "1e800 c5 2 10" },
  { names := ["Merc", "Meroitic_Cursive"], more := "109a0 18 4 14 2 2e" },
  { names := ["Mero", "Meroitic_Hieroglyphs"], more := "10980 20" },
  { names := ["Mlym", "Malayalam"], more := "d00 d 1 3 1 33 1 3 1 6 4 10 2 1a" },
  { names := ["Modi"], more := "11600 45 b a" },
  { names := ["Mong", "Mongolian"], more := "1800 2 2 1 1 14 6 59 7 2b fdb5 d" },
  { names := ["Mroo", "Mro"], more := "16a40 1f 1 a 4 2" },
  { names := ["Mtei", "Meetei_Mayek"], more := "aae0 17 c9 2e 2 a" },
  { names := ["Mult", "Multani"], more := "11280 7 1 1 1 4 1 f 1 b" },
  { names := ["Mymr", "Myanmar"], more := "1000 a0 9940 1f 61 20 6c50 14" },
  { names := ["Nagm", "Nag_Mundari"], more := "1e4d0 2a" },
  { names := ["Nand", "Nandinagari"], more := "119a0 8 2 2e 2 b" },
  { names := ["Narb", "Old_North_Arabian"], more := "10a80 20" },
  { names := ["Nbat", "Nabataean"], more := "10880 1f 8 9" },
  { names := ["Newa"], more := "11400 5c 1 5" },
  { names := ["Nkoo", "Nko"], more := "7c0 3b 2 3" },
  { names := ["Nshu", "Nushu"], more := "16fe1 1 418e 18c" },
  { names := ["Ogam", "Ogham"], more := "1680 1d" },
  { names := ["Olck", "Ol_Chiki"], more := "1c50 30" },
  { names := ["Onao", "Ol_Onal"], more := "1e5d0 2b 4 1" },
  { names := ["Orkh", "Old_Turkic"], more := "10c00 49" },
  { names := ["Orya", "Oriya"], more := "b01 3 1 8 2 2 2 16 1 7 1 2 1 5 2 9 2 2 2 3 7 3 4 2 1 5 2 12" },
  { names := ["Osge", "Osage"], more := "104b0 24 4 24" },
  { names := ["Osma", "Osmanya"], more := "10480 1e 2 a" },
  { names := ["Ougr", "Old_Uyghur"], more := "10f70 1a" },
  { names := ["Palm", "Palmyrene"], more := "10860 20" },
  { names := ["Pauc", "Pau_Cin_Hau"], more := "11ac0 39" },
  { names := ["Perm", "Old_Permic"], more := "10350 2b" },
  { names := ["Phag", "Phags_Pa"], more := "a840 38" },
  { names := ["Phli", "Inscriptional_Pahlavi"], more := "10b60 13 5 8" },
  { names := ["Phlp", "Psalter_Pahlavi"], more := "10b80 12 7 4 c 7" },
  { names := ["Phnx", "Phoenician"], more := "10900 1c 3 1" },
  { names := ["Plrd", "Miao"], more := "16f00 4b 4 39 7 11" },
  { names := ["Prti", "Inscriptional_Parthian"], more := "10b40 16 2 8" },
  { names := ["Rjng", "Rejang"], more := "a930 24 b 1" },
  { names := ["Rohg", "Hanifi_Rohingya"], more := "10d00 28 8 a" },
  { names := ["Runr", "Runic"], more := "16a0 4b 3 b" },
  { names := ["Samr", "Samaritan"], more := "800 2e 2 f" },
  { names := ["Sarb", "Old_South_Arabian"], more := "10a60 20" },
  { names := ["Saur", "Saurashtra"], more := "a880 46 8 c" },
  { names := ["Sgnw", "SignWriting"], more := "1d800 28c f 5 1 f" },
  { names := ["Shaw", "Shavian"], more := "10450 30" },
  { names := ["Shrd", "Sharada"], more := "11180 60" },
  { names := ["Sidd", "Siddham"], more := "11580 36 2 26" },
  { names := ["Sind", "Khudawadi"], more := "112b0 3b 5 a" },
  { names := ["Sinh", "Sinhala"], more := "d81 3 1 12 3 18 1 9 1 1 2 7 3 1 4 6 1 1 1 8 6 a 2 3 103ec 14" },
  { names := ["Sogd", "Sogdian"], more := "10f30 2a" },
  { names := ["Sogo", "Old_Sogdian"], more := "10f00 28" },
  { names := ["Sora", "Sora_Sompeng"], more := "110d0 19 7 a" },
  { names := ["Soyo", "Soyombo"], more := "11a50 53" },
  { names := ["Sund", "Sundanese"], more := "1b80 40 100 8" },
  { names := ["Sunu", "Sunuwar"], more := "11bc0 22 e a" },
  { names := ["Sylo", "Syloti_Nagri"], more := "a800 2d" },
  { names := ["Syrc", "Syriac"], more := "700 e 1 3c 2 3 110 b" },
  { names := ["Tagb", "Tagbanwa"], more := "1760 d 1 3 1 2" },
  { names := ["Takr", "Takri"], more := "11680 3a 6 a" },
  { names := ["Tale", "Tai_Le"], more := "1950 1e 2 5" },
  { names := ["Talu", "New_Tai_Lue"], more := "1980 2c 4 1a 6 b 3 2" },
  { names := ["Taml", "Tamil"], more := "
    b82 2 1 6 3 3 1 4 3 2 1 1 1 2 3 2 3 3 3 c 4 5 3 3 1 4 2 1 6 1 e 15 113c5 32 d 1" },
  { names := ["Tang", "Tangut"], more := "16fe0 1 1f 17f8 8 300 200 9" },
  { names := ["Tavt", "Tai_Viet"], more := "aa80 43 18 5" },
  { names := ["Telu", "Telugu"], more := "c00 d 1 3 1 17 1 10 2 9 1 3 1 4 7 2 1 3 2 1 2 4 2 a 7 9" },
  { names := ["Tfng", "Tifinagh"], more := "2d30 38 7 2 e 1" },
  { names := ["Tglg", "Tagalog"], more := "1700 16 9 1" },
  { names := ["Thaa", "Thaana"], more := "780 32" },
  { names := ["Thai"], more := "e01 3a 5 1c" },
  { names := ["Tibt", "Tibetan"], more := "f00 48 1 24 4 27 1 24 1 f 1 7 4 2" },
  { names := ["Tirh", "Tirhuta"], more := "11480 48 8 a" },
  { names := ["Tnsa", "Tangsa"], more := "16a70 4f 1 a" },
  { names := ["Todr", "Todhri"], more := "105c0 34" },
  { names := ["Toto"], more := "1e290 1f" },
  { names := ["Tutg", "Tulu_Tigalari"], more := "11380 a 1 1 2 1 1 26 1 a 1 1 2 1 1 4 1 a 1 2 8 2" },
  { names := ["Ugar", "Ugaritic"], more := "10380 1e 1 1" },
  { names := ["Vaii", "Vai"], more := "a500 12c" },
  { names := ["Vith", "Vithkuqi"], more := "10570 b 1 f 1 7 1 2 1 b 1 f 1 7 1 2" },
  { names := ["Wara", "Warang_Citi"], more := "118a0 53 c 1" },
  { names := ["Wcho", "Wancho"], more := "1e2c0 3a 5 1" },
  { names := ["Xpeo", "Old_Persian"], more := "103a0 24 4 e" },
  { names := ["Xsux", "Cuneiform"], more := "12000 39a 66 6f 1 5 b c4" },
  { names := ["Yezi", "Yezidi"], more := "10e80 2a 1 3 2 2" },
  { names := ["Yiii", "Yi"], more := "a000 48d 3 37" },
  { names := ["Zanb", "Zanabazar_Square"], more := "11a00 48" },
  { names := ["Zinh", "Inherited", "Qaai"], more := "
    300 70 115 2 1c4 b 1a 1 2e0 4 115b 1f 201 3 1 d 1 7 4 1 6 1 3 2 c6 40 20c 2 c2 21 f39 4 6b 2 cd65 10
    10 e 3cf 1 e2 1 105a 1 bbc4 2e 2 17 220 3 11 8 2 7 1e 4 c2f52 f0" },
  { names := ["Zyyy", "Common"], categories := ["Ps", "Pe", "Pi", "Pf"], more := "
    0 28 2 17 1b 1 1 3 1b 1 1 2c 2 e 2 4 17 1 1f 1 1c1 27 5 5 2 14 74 1 9 1 6 1 1 1 27d 1 6 1 e 1 3 1 20 1
    9c 1 204 1 81 2 4d9 1 195 4 122 1 5ef 3 47 2 cb 2 1 1 4cd 1 d 1 7 4 1 6 1 3 2 1 305 c 2 a 8 19 2 a 2
    1e 1 b 3 9 3 d 13 21 3f 26 1 3 2 6 1 1b 1 11 29 3 4 178 4 1d 2 ff 16 b 15 308 e 4f 2 1f a 10 100 83 16
    3f 4 20 2 176 2 20 1 69 200 2 4 3 2 1 2 e 2 2 a 18 1 12 8 1 192 15 1 1 b 2 8 1 3 1 f 8 4 4 5b 2 3 1 5a
    2 93 10 20 26 9 1 30 40 1f 51 2f 1 58 a8 19c0 40 5900 22 66 3 a5 a f4 1 a0 1 18b 1 e 2 52a4 7 2 1 16 5
    10 2 2 a 1 5 6 8 1 4 93 1 1 7 2 17 1b 1 1 3 1b 1 1 1 2 1 2 2 a 1 2d 2 40 7 1 7 a 5 102 3 4 2d 3 9 50 d
    33 2d e4 1b b9a4 4 f5c fa 6 1b4 9c 74 3c f6 a 27 2 3e 3 11 8 2 7 1e 4 3d d5 14 c 14 c 57 9 19 87 55 1
    47 1 2 2 1 2 2 2 4 1 c 1 1 1 7 1 41 1 4 2 8 1 7 1 1c 1 4 1 5 1 1 3 7 1 154 2 124 2 32 1471 44 4c 3d
    2c2 2c 4 64 c f 2 f 1 f 1 25 a ae 38 1a 1 2 d 2c 4 9 7 2 e 6 9a 3d8 4 11 3 d 3 77 4 5f 6 c 4 1 f c 4
    38 8 a 6 28 8 1e 2 c 4 2 3e 154 c e 2 d 3 a 5 38 7 f 2 b 6 9 7 93 1 66 c0407 1 1e 60",
    less := "f3a 4 75d 2" }]

/-- What is used in a script, by its code, besides its own characters, and its own characters that are used
in certain scripts only. -/
def scriptExtensions : List Property := [
  { names := ["Adlm"], more := "61f 1 20 1 1a0e 1 df1 1" },
  { names := ["Aghb"], more := "304 1 2c 1 2c 1" },
  { names := ["Arab"], more := "60c 1 e 1 3 1 20 1 a b 1a 1 19de 1 df1 1 cefc 2 5a0 1c" },
  { names := ["Armn"], more := "308 1" },
  { names := ["Avst"], more := "b7 1 2d78 2" },
  { names := ["Beng"], more := "
    2bc 1 694 2 11 2 136a 1 1 1 2 2 1 1 8 1 8 1 2 1 4 1 2 3 8bf9 1" },
  { names := ["Bopo"], more := "2c7 1 1 3 d 1 2d27 3 4 a 1 d a 4 2 1 6 1 c3 1 cd49 2 11a 5" },
  { names := ["Bugi"], more := "a9cf 1" },
  { names := ["Buhd"], more := "1735 2" },
  { names := ["Cakm"], more := "9e6 a 650 a" },
  { names := ["Cari"], more := "b7 1 1fa2 1 2 1 dd3 1" },
  { names := ["Cher"], more := "300 3 1 1 6 2 16 2 b 2" },
  { names := ["Copt"], more := "b7 1 248 1 3 2 1 1 6c 2 2aa1 1 d4c8 1c" },
  { names := ["Cpmn"], more := "10100 2" },
  { names := ["Cprt"], more := "10100 3 4 2d 3 9" },
  { names := ["Cyrl"], more := "2bc 1 43 3 1 1 1 1 1 1 2 1 5 1 173 2 1971 1 104a 1" },
  { names := ["Deva"], more := "2bc 1 694 2 11 2 136a 27 1 2 3f6 1 873f a" },
  { names := ["Dogr"], more := "964 c 9ec0 a" },
  { names := ["Dupl"], more := "b7 1 24f 2 1 1 18 2 2b17 1 18e63 4" },
  { names := ["Elba"], more := "b7 1 24d 1" },
  { names := ["Ethi"], more := "30e 1" },
  { names := ["Gara"], more := "60c 1 e 1 3 1" },
  { names := ["Geor"], more := "b7 1 4d1 1 b71 1 f5e 1 dd6 1" },
  { names := ["Glag"], more := "b7 1 24b 1 1 1 17e 1 2 1 101 1 b71 1 f5e 1 de8 1 782b 1" },
  { names := ["Gong"], more := "b7 1 8ac 2" },
  { names := ["Gonm"], more := "964 2" },
  { names := ["Goth"], more := "b7 1 24c 2 2 1 28 1" },
  { names := ["Gran"], more := "951 2 11 2 280 e 10dc 1 1 2 1e 3 3 2 3f6 1 f24a 1 c94 2 1 1" },
  { names := ["Grek"], more := "b7 1 248 2 2 1 1 1 1 1 a 1 2e 1 2 1 2e 1 1a4b 2 29b 1" },
  { names := ["Gujr"], more := "951 2 11 2 9eca a" },
  { names := ["Gukh"], more := "965 1" },
  { names := ["Guru"], more := "951 2 11 2 9eca a" },
  { names := ["Hang"], more := "3001 3 4 a 1 d 10 1 6 1 c3 1 cd49 2 11a 5" },
  { names := ["Hani"], more := "
    b7 1 2f38 10 1 3 2 1 1 a 1 d a 4 2 1 6 1 4 4 bb 1 94 10 20 26 9 1 30 28 38 31 f c 33 1 58 19 a 5 60 1f
    7301 8 573d 2 11a 5 d3fa 12 1ede 2" },
  { names := ["Hano"], more := "1735 2" },
  { names := ["Hebr"], more := "307 2" },
  { names := ["Hira"], more := "
    3001 3 4 a 1 d 10 6 1 1 4 2 5b 4 3 1 5a 2 cd48 2 11a 5 a 1 2d 2" },
  { names := ["Hung"], more := "205a 1 2 1 dd3 1 f 1" },
  { names := ["Java"], more := "a9cf 1" },
  { names := ["Kali"], more := "a92e 1" },
  { names := ["Kana"], more := "
    305 1 1d 1 2cdd 3 4 a 1 d 10 6 1 1 4 2 5b 4 3 1 5a 2 cd48 2 11a 5 a 1 2d 2" },
  { names := ["Khoj"], more := "ae6 a 9d40 a" },
  { names := ["Knda"], more := "951 2 11 2 136a 1 1 2 6 1 17 1 1 1 8b3b 6" },
  { names := ["Kthi"], more := "966 a 24c1 1 79fe a" },
  { names := ["Latn"], more := "
    b7 1 204 1 a 1 1 3 1 1 9 1 1 1 26 f 1 2 1 1 f 3 7 2 1 2 26 1 5 1 4 d 115 2 4ca 2 7a8 1 cfc 1 236 1 c0
    1 d26 1 78e8 8 226 1" },
  { names := ["Limb"], more := "965 1" },
  { names := ["Lina"], more := "10107 2d" },
  { names := ["Linb"], more := "10100 3 4 2d 3 9" },
  { names := ["Lisu"], more := "2bc 1 10 1 2d3c 2" },
  { names := ["Lyci"], more := "205a 1" },
  { names := ["Lydi"], more := "b7 1 2d79 1" },
  { names := ["Mahj"], more := "b7 1 8ac c 9ec0 a" },
  { names := ["Mand"], more := "640 1" },
  { names := ["Mani"], more := "640 1" },
  { names := ["Mero"], more := "205d 1" },
  { names := ["Mlym"], more := "951 2 11 2 1374 1 17 1 8b3d 3" },
  { names := ["Modi"], more := "a830 a" },
  { names := ["Mong"], more := "1802 2 1 1 829 1 fd1 2 5 4" },
  { names := ["Mult"], more := "a66 a" },
  { names := ["Mymr"], more := "a92e 1" },
  { names := ["Nand"], more := "951 1 12 2 380 a ff9 1 8 1 7 1 8b35 6" },
  { names := ["Newa"], more := "951 2 1382 1 1 2 9 1 6 1 1 1 1 1" },
  { names := ["Nkoo"], more := "60c 1 e 1 3 1 f71e 2" },
  { names := ["Onao"], more := "964 2" },
  { names := ["Orkh"], more := "205a 1 dd5 1" },
  { names := ["Orya"], more := "951 2 11 2 1374 1 17 1" },
  { names := ["Osge"], more := "301 1 2 1 6 1 4c 1" },
  { names := ["Ougr"], more := "640 1 104b1 1" },
  { names := ["Perm"], more := "b7 1 248 1 5 3 a 1 16f 1" },
  { names := ["Phag"], more := "1802 2 1 1 829 1 fd2 1" },
  { names := ["Phlp"], more := "640 1" },
  { names := ["Rohg"], more := "60c 1 e 1 3 1 20 1 93 1" },
  { names := ["Runr"], more := "16eb 3" },
  { names := ["Samr"], more := "2e31 1" },
  { names := ["Shaw"], more := "b7 1" },
  { names := ["Shrd"], more := "951 1 1385 1 1 1 2 2 2 1 9 1 2 1 8b42 6 2 1" },
  { names := ["Sind"], more := "964 2 9eca a" },
  { names := ["Sinh"], more := "964 2 138c 1" },
  { names := ["Sogd"], more := "640 1" },
  { names := ["Sunu"], more := "300 2 1 1 9 1 2 1 1c 1 3 1" },
  { names := ["Sylo"], more := "964 2 80 a" },
  { names := ["Syrc"], more := "
    303 2 2 2 1 1 18 3 7 2 1 2 2da 1 e 2 2 1 20 1 a b 1a 1 1787 1 1 1" },
  { names := ["Tagb"], more := "1735 2" },
  { names := ["Takr"], more := "964 2 9eca a" },
  { names := ["Tale"], more := "300 2 5 2 3 1 d33 a" },
  { names := ["Taml"], more := "951 2 11 2 1374 1 8c18 1 6a0d 1 1 1 37 2" },
  { names := ["Tang"], more := "2ff0 10 1ef 1" },
  { names := ["Telu"], more := "951 2 11 2 136f 2 1 1 1 1 17 1" },
  { names := ["Tfng"], more := "302 1 1 1 1 4 19 1" },
  { names := ["Tglg"], more := "1735 2" },
  { names := ["Thaa"], more := "60c 1 e 2 2 1 40 a f788 1 a 1" },
  { names := ["Thai"], more := "2bc 1 1a 1 2b 1 2d 1" },
  { names := ["Tibt"], more := "3008 4" },
  { names := ["Tirh"], more := "951 2 11 2 136f 1 c 1 f 1 8b3d a" },
  { names := ["Todr"], more := "301 1 2 1 2 1 9 1 1 1 4a 1" },
  { names := ["Toto"], more := "2bc 1" },
  { names := ["Tutg"], more := "ce6 a 1002 1 1 1 8b3b 6 bb 1" },
  { names := ["Yezi"], more := "60c 1 e 1 3 1 40 a" },
  { names := ["Yiii"], more := "3001 2 5 a 2 8 df 1 ce65 5" },
  { names := ["Zinh"], less := "
    300 f 1 2 1 1 f 3 7 2 1 2 10 1 2 1 12 1 5 1 4 d 115 2 1c4 b 1a 1 2e0 2 137d 3 1 d 1 7 4 1 6 1 3 2 c6 2
    36 1 1 1 2f5 1 f39 4 6b 2 d245 1 105a 1" },
  { names := ["Zyyy"], less := "
    b7 1 204 1 a 1 1 3 1 1 9 1 1 1 9a 1 297 1 e 1 3 1 20 1 323 2 795 1 5ef 3 47 2 cb 2 1 1 4cd 1 d 1 7 4 1
    6 1 3 2 1 334 1 1f 1 a 1 2 1 db9 1 18 2 a 1 4 1 1 1 1ac 10 1 3 2 1 1 a 1 d 10 6 1 1 4 4 5b 2 3 1 5a 2
    93 10 20 26 9 1 30 28 38 31 f c 33 1 58 19 a 5 60 1f 7301 8 128 a f4 1 a0 1 536e 2 105 2 11a 5 a 1 2d
    2 160 3 4 2d 3 9 1a1 1b b9a4 4 16bc 12 1ede 2" }]

def script? (name : String) : Option CharSet :=
  find? scripts name

def usedIn? (name : String) : Option CharSet :=
  (named? scripts name).map fun own =>
    match scriptExtensions.find? (·.names.any own.names.contains) with
    | some other => (own.set.union other.added).diff other.removed
    | none => own.set

end Utterance.Pattern.Property
