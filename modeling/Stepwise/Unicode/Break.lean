import Stepwise.Unicode.Property

/-!
# Breaks

Three properties tell where a text may be divided: between the characters that a
reader takes for one, between words, and between sentences. Each has a few
values, and what is left over has none that could be asked for.
-/

namespace Stepwise.Unicode

/-- The values of `Grapheme_Cluster_Break`, but for the syllables of Hangul. -/
def graphemeRules : List ClassRule :=
  [ { names := "spacingmark sm"
      categories := "Mc"
      more := "e33 eb3"
      without := "extend"
      less := "102b-102c 1038 1062-1064 1067-106d 1083 1087-108c 108f 109a-109c 1a61
        1a63-1a64 aa7b aa7d 11720-11721" },
    { names := "extend ex"
      parts := "graphemeextend emojimodifier" },
    { names := "control cn"
      categories := "Cc Cf Zl Zp"
      more := "2065 fff0-fff8 e0000 e0002-e001f e0080-e00ff e01f0-e0fff"
      without := "cr lf prependedconcatenationmark"
      less := "200c-200d e0020-e007f" },
    { names := "prepend pp"
      parts := "prependedconcatenationmark"
      more := "d4e 111c2-111c3 113d1 1193f 11941 11a3a 11a84-11a89 11d46 11f02" },
    { names := "cr"
      more := "d" },
    { names := "l"
      more := "1100-115f a960-a97c" },
    { names := "lf"
      more := "a" },
    { names := "regionalindicator ri"
      more := "1f1e6-1f1ff" },
    { names := "t"
      more := "11a8-11ff d7cb-d7fb" },
    { names := "v"
      more := "1160-11a7 d7b0-d7c6 16d63 16d67-16d6a" },
    { names := "zwj"
      more := "200d" } ]

/-- The values of `Word_Break`. -/
def wordRules : List ClassRule :=
  [ { names := "aletter le"
      parts := "alphabetic"
      more := "2c2-2c5 2d2-2d7 2de-2df 2e5-2eb 2ed 2ef-2ff 55a-55c 55e 58a 5f3 70f
        a708-a716 a720-a721 a789-a78a ab5b"
      without := "ideographic katakana extend hebrewletter"
      less := "e01-e30 e32-e33 e40-e46 e81-e82 e84 e86-e8a e8c-ea3 ea5 ea7-eb0 eb2-eb3
        ebd ec0-ec4 ec6 edc-edf 1000-102a 103f 1050-1055 105a-105d 1061 1065-1066
        106e-1070 1075-1081 108e 1780-17b3 17d7 17dc 1950-196d 1970-1974 1980-19ab
        19b0-19c9 1a20-1a54 1aa7 3041-3096 309d-309f a9e0-a9e4 a9e6-a9ef a9fa-a9fe
        aa60-aa76 aa7a aa7e-aaaf aab1 aab5-aab6 aab9-aabd aac0 aac2 aadb-aadd
        11700-1171a 11740-11746 1b001-1b11f 1b132 1b150-1b152" },
    { names := "format fo"
      categories := "Cf"
      less := "600-605 6dd 70f 890-891 8e2 200b-200d 110bd 110cd e0020-e007f" },
    { names := "extend"
      categories := "Mc"
      parts := "graphemeextend emojimodifier" },
    { names := "hebrewletter hl"
      more := "5d0-5ea 5ef-5f2 fb1d fb1f-fb28 fb2a-fb36 fb38-fb3c fb3e fb40-fb41
        fb43-fb44 fb46-fb4f" },
    { names := "katakana ka"
      more := "3031-3035 309b-309c 30a0-30fa 30fc-30ff 31f0-31ff 32d0-32fe 3300-3357
        ff66-ff9d 1aff0-1aff3 1aff5-1affb 1affd-1affe 1b000 1b120-1b122 1b155
        1b164-1b167" },
    { names := "extendnumlet ex"
      categories := "Pc"
      more := "202f" },
    { names := "numeric nu"
      categories := "Nd"
      more := "600-605 66b 6dd 890-891 8e2 19da 110bd 110cd" },
    { names := "wsegspace"
      categories := "Zs"
      less := "a0 2007 202f" },
    { names := "cr"
      more := "d" },
    { names := "doublequote dq"
      more := "22" },
    { names := "lf"
      more := "a" },
    { names := "midletter ml"
      more := "3a b7 387 55f 5f4 2027 fe13 fe55 ff1a" },
    { names := "midnum mn"
      more := "2c 3b 37e 589 60c-60d 66c 7f8 2044 fe50 fe54 ff0c ff1b" },
    { names := "midnumlet mb"
      more := "2e 2018-2019 2024 fe52 ff07 ff0e" },
    { names := "newline nl"
      more := "b-c 85 2028-2029" },
    { names := "regionalindicator ri"
      more := "1f1e6-1f1ff" },
    { names := "singlequote sq"
      more := "27" },
    { names := "zwj"
      more := "200d" } ]

/-- The values of `Sentence_Break`. -/
def sentenceRules : List ClassRule :=
  [ { names := "oletter le"
      parts := "alphabetic"
      more := "5f3"
      without := "lower upper extend" },
    { names := "upper up"
      categories := "Lt"
      parts := "uppercase"
      less := "1c90-1cba 1cbd-1cbf" },
    { names := "lower lo"
      parts := "lowercase"
      without := "extend"
      less := "10d0-10fa 10fd-10ff" },
    { names := "format fo"
      categories := "Cf"
      less := "600-605 6dd 890-891 8e2 200c-200d 110bd 110cd e0020-e007f" },
    { names := "extend ex"
      categories := "Mc"
      parts := "graphemeextend"
      more := "200d" },
    { names := "close cl"
      categories := "Ps Pe Pi Pf"
      more := "22 27 275b-2760 2e00-2e01 2e06-2e08 2e0b 1f676-1f678" },
    { names := "numeric nu"
      categories := "Nd"
      more := "600-605 66b-66c 6dd 890-891 8e2 19da 110bd 110cd" },
    { names := "sterm st"
      parts := "sentenceterminal"
      without := "aterm" },
    { names := "aterm at"
      more := "2e 2024 fe52 ff0e" },
    { names := "cr"
      more := "d" },
    { names := "lf"
      more := "a" },
    { names := "scontinue sc"
      more := "2c-2d 3a-3b 37e 55d 60c-60d 7f8 1802 1808 2013-2014 3001 fe10-fe11
        fe13-fe14 fe31-fe32 fe50-fe51 fe54-fe55 fe58 fe63 ff0c-ff0d ff1a-ff1b ff64" },
    { names := "sep se"
      more := "85 2028-2029" },
    { names := "sp"
      more := "9 b-c 20 a0 1680 2000-200a 202f 205f 3000" } ]

/-- The syllables of Hangul. -/
def hangulSyllable : CharSet := CharSet.ofRanges [(0xAC00, 0xD7A3)]

/-- The syllables of Hangul without a closing consonant. With one there are
twenty-seven to each. -/
def openSyllable : CharSet :=
  CharSet.ofRanges ((List.range 399).map fun i => (0xAC00 + 28 * i, 0xAC00 + 28 * i))

/-- The characters with this value of `Grapheme_Cluster_Break`. -/
def graphemeBreak? (name : String) : Option CharSet :=
  if name == "lv" then some openSyllable
  else if name == "lvt" then some (hangulSyllable.diff openSyllable)
  else ClassRule.findFirst? property? graphemeRules name

/-- The characters with this value of `Word_Break`. -/
def wordBreak? (name : String) : Option CharSet :=
  ClassRule.findFirst? property? wordRules name

/-- The characters with this value of `Sentence_Break`. -/
def sentenceBreak? (name : String) : Option CharSet :=
  ClassRule.findFirst? property? sentenceRules name

end Stepwise.Unicode
