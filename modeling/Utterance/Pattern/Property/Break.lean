import Utterance.Pattern.Property.Basic

/-!
The classes that characters have when text is cut into signs, words and sentences.
-/

namespace Utterance.Pattern.Property

/-- The classes of characters where text is cut into signs. -/
def signBreaks : List Property := [
  { names := ["Control", "CN"], categories := ["Cc"], more := "
    ad 1 56e 1 11f1 1 7fc 1 2 2 18 7 31 10 de8f 1 f0 c 3434 10 8860 4 14cf 8 c2e85 20 60 80 f0 e10",
    less := "a 1 2 1" },
  { names := ["CR"], more := "d 1" },
  { names := ["Extend", "EX"], categories := ["Mn", "Me"], more := "
    9be 1 18 1 166 1 18 1 66 1 18 1 e8 1 1 1 4 2 1 2 9 2 67 1 18 1 77 1 f 1 935 1 1e 1 400 1 5 1 1 1 5 2
    65 1 47 2 418 1 1021 2 7923 1 6c 1 55dd 2 1220 1 74 1 108 1 e 1 9 1 60 1 9 1 2 1 1 3 5 1 e0 1 c 1 f1 1
    106 1 279 1 c 1 603 1 50ae 2 6173 2 6 6 2288 5 c0c20 60" },
  { names := ["L"], more := "1100 60 9800 1d" },
  { names := ["LF"], more := "a 1" },
  { names := ["LV"], more := "
    ac00 1 1b 1 1b 1 1b 1 1b 1 1b 1 1b 1 1b 1 1b 1 1b 1 1b 1 1b 1 1b 1 1b 1 1b 1 1b 1 1b 1 1b 1 1b 1 1b 1
    1b 1 1b 1 1b 1 1b 1 1b 1 1b 1 1b 1 1b 1 1b 1 1b 1 1b 1 1b 1 1b 1 1b 1 1b 1 1b 1 1b 1 1b 1 1b 1 1b 1 1b
    1 1b 1 1b 1 1b 1 1b 1 1b 1 1b 1 1b 1 1b 1 1b 1 1b 1 1b 1 1b 1 1b 1 1b 1 1b 1 1b 1 1b 1 1b 1 1b 1 1b 1
    1b 1 1b 1 1b 1 1b 1 1b 1 1b 1 1b 1 1b 1 1b 1 1b 1 1b 1 1b 1 1b 1 1b 1 1b 1 1b 1 1b 1 1b 1 1b 1 1b 1 1b
    1 1b 1 1b 1 1b 1 1b 1 1b 1 1b 1 1b 1 1b 1 1b 1 1b 1 1b 1 1b 1 1b 1 1b 1 1b 1 1b 1 1b 1 1b 1 1b 1 1b 1
    1b 1 1b 1 1b 1 1b 1 1b 1 1b 1 1b 1 1b 1 1b 1 1b 1 1b 1 1b 1 1b 1 1b 1 1b 1 1b 1 1b 1 1b 1 1b 1 1b 1 1b
    1 1b 1 1b 1 1b 1 1b 1 1b 1 1b 1 1b 1 1b 1 1b 1 1b 1 1b 1 1b 1 1b 1 1b 1 1b 1 1b 1 1b 1 1b 1 1b 1 1b 1
    1b 1 1b 1 1b 1 1b 1 1b 1 1b 1 1b 1 1b 1 1b 1 1b 1 1b 1 1b 1 1b 1 1b 1 1b 1 1b 1 1b 1 1b 1 1b 1 1b 1 1b
    1 1b 1 1b 1 1b 1 1b 1 1b 1 1b 1 1b 1 1b 1 1b 1 1b 1 1b 1 1b 1 1b 1 1b 1 1b 1 1b 1 1b 1 1b 1 1b 1 1b 1
    1b 1 1b 1 1b 1 1b 1 1b 1 1b 1 1b 1 1b 1 1b 1 1b 1 1b 1 1b 1 1b 1 1b 1 1b 1 1b 1 1b 1 1b 1 1b 1 1b 1 1b
    1 1b 1 1b 1 1b 1 1b 1 1b 1 1b 1 1b 1 1b 1 1b 1 1b 1 1b 1 1b 1 1b 1 1b 1 1b 1 1b 1 1b 1 1b 1 1b 1 1b 1
    1b 1 1b 1 1b 1 1b 1 1b 1 1b 1 1b 1 1b 1 1b 1 1b 1 1b 1 1b 1 1b 1 1b 1 1b 1 1b 1 1b 1 1b 1 1b 1 1b 1 1b
    1 1b 1 1b 1 1b 1 1b 1 1b 1 1b 1 1b 1 1b 1 1b 1 1b 1 1b 1 1b 1 1b 1 1b 1 1b 1 1b 1 1b 1 1b 1 1b 1 1b 1
    1b 1 1b 1 1b 1 1b 1 1b 1 1b 1 1b 1 1b 1 1b 1 1b 1 1b 1 1b 1 1b 1 1b 1 1b 1 1b 1 1b 1 1b 1 1b 1 1b 1 1b
    1 1b 1 1b 1 1b 1 1b 1 1b 1 1b 1 1b 1 1b 1 1b 1 1b 1 1b 1 1b 1 1b 1 1b 1 1b 1 1b 1 1b 1 1b 1 1b 1 1b 1
    1b 1 1b 1 1b 1 1b 1 1b 1 1b 1 1b 1 1b 1 1b 1 1b 1 1b 1 1b 1 1b 1 1b 1 1b 1 1b 1 1b 1 1b 1 1b 1 1b 1 1b
    1 1b 1 1b 1 1b 1 1b 1 1b 1 1b 1 1b 1 1b 1 1b 1 1b 1 1b 1 1b 1 1b 1 1b 1 1b 1 1b 1 1b 1 1b 1 1b 1 1b 1
    1b 1 1b 1 1b 1 1b 1 1b 1 1b 1 1b 1 1b 1 1b 1 1b 1 1b 1 1b 1 1b 1 1b 1 1b 1 1b 1 1b 1 1b 1 1b 1 1b 1 1b
    1 1b 1 1b 1 1b 1 1b 1 1b 1 1b 1 1b 1 1b 1 1b 1 1b 1 1b 1 1b 1 1b 1 1b 1 1b 1 1b 1 1b 1 1b 1 1b 1 1b 1
    1b 1 1b 1 1b 1 1b 1 1b 1 1b 1 1b 1 1b 1 1b 1 1b 1" },
  { names := ["LVT"], more := "
    ac01 1b 1 1b 1 1b 1 1b 1 1b 1 1b 1 1b 1 1b 1 1b 1 1b 1 1b 1 1b 1 1b 1 1b 1 1b 1 1b 1 1b 1 1b 1 1b 1 1b
    1 1b 1 1b 1 1b 1 1b 1 1b 1 1b 1 1b 1 1b 1 1b 1 1b 1 1b 1 1b 1 1b 1 1b 1 1b 1 1b 1 1b 1 1b 1 1b 1 1b 1
    1b 1 1b 1 1b 1 1b 1 1b 1 1b 1 1b 1 1b 1 1b 1 1b 1 1b 1 1b 1 1b 1 1b 1 1b 1 1b 1 1b 1 1b 1 1b 1 1b 1 1b
    1 1b 1 1b 1 1b 1 1b 1 1b 1 1b 1 1b 1 1b 1 1b 1 1b 1 1b 1 1b 1 1b 1 1b 1 1b 1 1b 1 1b 1 1b 1 1b 1 1b 1
    1b 1 1b 1 1b 1 1b 1 1b 1 1b 1 1b 1 1b 1 1b 1 1b 1 1b 1 1b 1 1b 1 1b 1 1b 1 1b 1 1b 1 1b 1 1b 1 1b 1 1b
    1 1b 1 1b 1 1b 1 1b 1 1b 1 1b 1 1b 1 1b 1 1b 1 1b 1 1b 1 1b 1 1b 1 1b 1 1b 1 1b 1 1b 1 1b 1 1b 1 1b 1
    1b 1 1b 1 1b 1 1b 1 1b 1 1b 1 1b 1 1b 1 1b 1 1b 1 1b 1 1b 1 1b 1 1b 1 1b 1 1b 1 1b 1 1b 1 1b 1 1b 1 1b
    1 1b 1 1b 1 1b 1 1b 1 1b 1 1b 1 1b 1 1b 1 1b 1 1b 1 1b 1 1b 1 1b 1 1b 1 1b 1 1b 1 1b 1 1b 1 1b 1 1b 1
    1b 1 1b 1 1b 1 1b 1 1b 1 1b 1 1b 1 1b 1 1b 1 1b 1 1b 1 1b 1 1b 1 1b 1 1b 1 1b 1 1b 1 1b 1 1b 1 1b 1 1b
    1 1b 1 1b 1 1b 1 1b 1 1b 1 1b 1 1b 1 1b 1 1b 1 1b 1 1b 1 1b 1 1b 1 1b 1 1b 1 1b 1 1b 1 1b 1 1b 1 1b 1
    1b 1 1b 1 1b 1 1b 1 1b 1 1b 1 1b 1 1b 1 1b 1 1b 1 1b 1 1b 1 1b 1 1b 1 1b 1 1b 1 1b 1 1b 1 1b 1 1b 1 1b
    1 1b 1 1b 1 1b 1 1b 1 1b 1 1b 1 1b 1 1b 1 1b 1 1b 1 1b 1 1b 1 1b 1 1b 1 1b 1 1b 1 1b 1 1b 1 1b 1 1b 1
    1b 1 1b 1 1b 1 1b 1 1b 1 1b 1 1b 1 1b 1 1b 1 1b 1 1b 1 1b 1 1b 1 1b 1 1b 1 1b 1 1b 1 1b 1 1b 1 1b 1 1b
    1 1b 1 1b 1 1b 1 1b 1 1b 1 1b 1 1b 1 1b 1 1b 1 1b 1 1b 1 1b 1 1b 1 1b 1 1b 1 1b 1 1b 1 1b 1 1b 1 1b 1
    1b 1 1b 1 1b 1 1b 1 1b 1 1b 1 1b 1 1b 1 1b 1 1b 1 1b 1 1b 1 1b 1 1b 1 1b 1 1b 1 1b 1 1b 1 1b 1 1b 1 1b
    1 1b 1 1b 1 1b 1 1b 1 1b 1 1b 1 1b 1 1b 1 1b 1 1b 1 1b 1 1b 1 1b 1 1b 1 1b 1 1b 1 1b 1 1b 1 1b 1 1b 1
    1b 1 1b 1 1b 1 1b 1 1b 1 1b 1 1b 1 1b 1 1b 1 1b 1 1b 1 1b 1 1b 1 1b 1 1b 1 1b 1 1b 1 1b 1 1b 1 1b 1 1b
    1 1b 1 1b 1 1b 1 1b 1 1b 1 1b 1 1b 1 1b 1 1b 1 1b 1 1b 1 1b 1 1b 1 1b 1 1b 1 1b 1 1b 1 1b 1 1b 1 1b 1
    1b 1 1b 1 1b 1 1b 1 1b 1 1b 1 1b 1 1b 1 1b 1 1b 1 1b 1 1b 1 1b 1 1b 1 1b 1 1b 1 1b 1 1b 1 1b 1 1b 1 1b
    1 1b 1 1b 1 1b 1 1b 1 1b 1 1b 1 1b 1 1b 1 1b 1 1b" },
  { names := ["Prepend", "PP"], more := "
    600 6 d7 1 31 1 180 2 50 1 46b 1 1036e 1 f 1 f4 2 20d 1 56d 1 1 1 f8 1 49 6 2bc 1 1bb 1" },
  { names := ["Regional_Indicator", "RI"], more := "1f1e6 1a" },
  { names := ["SpacingMark", "SM"], categories := ["Mc"], more := "e33 1 7f 1", less := "
    9be 1 18 1 166 1 18 1 66 1 18 1 e8 1 1 1 4 2 1 2 9 2 67 1 18 1 77 1 f 1 24b 2 b 1 29 3 2 7 15 1 3 6 2
    1 a 3 678 1 1e 1 32c 1 1 2 d0 1 5 1 1 1 5 2 65 1 47 2 143a 2 7923 1 6c 1 ba 1 1 1 6742 1 74 1 108 1 e
    1 9 1 60 1 9 1 2 1 1 3 5 1 e0 1 c 1 f1 1 106 1 69 2 20e 1 c 1 603 1 50ae 2 6173 2 6 6" },
  { names := ["T"], more := "11a8 58 c5cb 31" },
  { names := ["V"], more := "1160 48 c608 17 959c 1 3 4" },
  { names := ["ZWJ"], more := "200d 1" }]

/-- The classes of characters where text is cut into words. -/
def wordBreaks : List Property := [
  { names := ["ALetter", "LE"], categories := ["Lu", "Ll", "Lt", "Lm", "Lo", "Nl"], more := "
    2c2 4 c 6 6 2 5 7 1 1 1 11 25a 3 1 1 2b 1 68 1 1ec2 34 821e f 9 2 67 2 3d0 1 145d4 1a 6 1a 6 1a",
    less := "
    5d0 1b 4 4 80e 30 1 2 c 7 3a 2 1 1 1 5 1 18 1 1 1 a 1 2 9 1 2 5 1 1 15 4 120 2b 14 1 10 6 4 4 3 1 3 2
    7 3 4 d c 1 6f1 34 23 1 4 1 173 1e 2 5 b 2c 4 1a 56 35 52 1 155e 2 19 9 7 5 2 3 6 56 6 3 1 5a 1 4 f0
    10 200 19c0 40 5200 9e0 5 1 a a 5 61 17 3 1 3 32 1 1 3 2 2 5 2 1 1 1 18 3 4e22 16e 2 6a 43 1 1 a 1 d 1
    5 1 1 1 2 1 2 1 a 416 3a 1760 1b 25 7 58b9 17f8 8 4d6 29 a 22e7 4 1 7 1 2 1 123 f 1 1d 3 2 1 e 4 8 18c
    4d04 a6e0 20 103a 6 de 2 1682 e 1d31 f 26e 9a2 21e 5e2 134b 5 1060" },
  { names := ["CR"], more := "d 1" },
  { names := ["Double_Quote", "DQ"], more := "22 1" },
  { names := ["Extend"], categories := ["Mn", "Mc", "Me"], more := "200c 1 df91 2 f45b 5 c0c20 60" },
  { names := ["ExtendNumLet", "EX"], categories := ["Pc"], more := "202f 1" },
  { names := ["Format", "FO"], categories := ["Cf"], less := "200b 3 de012 60" },
  { names := ["Hebrew_Letter", "HL"], more := "5d0 1b 4 4 f52a 1 1 a 1 d 1 5 1 1 1 2 1 2 1 a" },
  { names := ["Katakana", "KA"], more := "
    3031 5 65 2 3 5b 1 4 f0 10 d0 2f 1 58 cc0e 38 b052 4 1 7 1 2 1 1 11f 3 32 1 e 4" },
  { names := ["LF"], more := "a 1" },
  { names := ["MidLetter", "ML"], more := "3a 1 7c 1 2cf 1 1d7 1 94 1 1a32 1 ddeb 1 41 1 c4 1" },
  { names := ["MidNum", "MN"], more := "
    2c 1 e 1 342 1 20a 1 82 2 5e 1 18b 1 184b 1 ddcb 1 3 1 3b 1 3 1 b7 1 e 1" },
  { names := ["MidNumLet", "MB"], more := "2e 1 1fe9 2 a 1 de2d 1 b4 1 6 1" },
  { names := ["Newline", "NL"], categories := ["Zl", "Zp"], more := "b 2 78 1" },
  { names := ["Numeric", "NU"], categories := ["Nd"], more := "66b 1" },
  { names := ["Regional_Indicator", "RI"], more := "1f1e6 1a" },
  { names := ["Single_Quote", "SQ"], more := "27 1" },
  { names := ["WSegSpace"], categories := ["Zs"], less := "a0 1 1f66 1 27 1" },
  { names := ["ZWJ"], more := "200d 1" }]

/-- The classes of characters where text is cut into sentences. -/
def sentenceBreaks : List Property := [
  { names := ["ATerm", "AT"], more := "2e 1 1ff5 1 de2d 1 bb 1" },
  { names := ["CR"], more := "d 1" },
  { names := ["Close", "CL"], categories := ["Ps", "Pe", "Pi", "Pf"],
    more := "22 1 4 1 2733 6 69f 2 4 3 2 1 1c86a 3" },
  { names := ["Extend", "EX"], categories := ["Mn", "Mc", "Me"], more := "200c 2 df90 2 d0080 60" },
  { names := ["Format", "FO"], categories := ["Cf"], less := "200c 2 de012 60" },
  { names := ["LF"], more := "a 1" },
  { names := ["Lower", "LO"], categories := ["Ll"], more := "
    aa 1 f 1 1f5 9 7 2 1e 5 95 1 d81 1 c2f 3f d 1 22 25 2b1 1 d 1 10 d d3 10 350 1a 792 2 7a1e 2 d2 1 81 3
    3 2 362 4 9 1 5c16 1 2 3 1 2a 1 9 d875 3e", less := "10d0 2b 2 3" },
  { names := ["Numeric", "NU"], categories := ["Nd"], more := "66b 2" },
  { names := ["OLetter", "LE"], categories := ["Lm", "Lo", "Nl"], more := "5f3 1 adc 2b 2 3 b90 2b 2 3",
    less := "
    aa 1 f 1 1f5 9 7 2 1e 5 95 1 d81 1 c2f 3f d 1 22 25 2b1 1 d 1 10 d c3 20 afc 2 7a1e 2 d2 1 81 3 3 2
    362 4 9 1 5434 2 7e0 1 2 3 1 2a 1 9 d875 3e" },
  { names := ["SContinue", "SC"], more := "
    2c 2 c 1 522 1 ae 2 1ea 1 1009 1 5 1 80a 2 fec 1 ce0e 2 1 1 1d 2 1d 2 3 1 2 1 a 1 a8 2 c 1 49 1" },
  { names := ["STerm", "ST"], more := "
    21 1 1d 1 549 1 93 3 b4 1 2b 3 f6 1 3d 1 1 1 3 2 125 2 6e4 2 316 1 4 2 305 1 c6 2 cc 1 5 1 13a 2 162 4
    a2 2 a 2 2 2 1d 3 bb 2 41 2 3bc 2 9 3 de4 1 d 1 16 2 1ad 1 74fc 1 10e 2 e3 1 3 1 17e 2 56 2 5f 1 98 2
    93 3 90 2 f9 1 526a 2 a9 1 1d 1 41 1 af4 2 4fd 5 2c 4 bd 2 75 4 7f 3 81 2 6 1 10 2 58 2 1 2 6c 1 12a 2
    75 2 175 2 5 f 69 2 f9 3 205 1 1 1 fb 2 57 2 1a4 2 2b4 2 4a 2 4b29 2 85 1 41 2 b 1 229 2 128 1 4e06 1
    1de8 1" },
  { names := ["Sep", "SE"], categories := ["Zl", "Zp"], more := "85 1" },
  { names := ["Sp"], categories := ["Zs"], more := "9 1 1 2" },
  { names := ["Upper", "UP"], categories := ["Lu", "Lt"], more := "2160 10 346 1a 1cc60 1a 6 1a 6 1a",
    less := "1c90 2b 2 3" }]

end Utterance.Pattern.Property
