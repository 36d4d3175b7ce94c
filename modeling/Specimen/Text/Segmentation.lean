import Specimen.Text.Property
import Specimen.Text.Script

set_option autoImplicit false

/-!
# Boundaries in texts

Where a text may be cut into graphemes, words and sentences depends on what its characters are for
each of the three purposes. What is in no list below is of no kind.

## Main definitions

* `Specimen.Text.Segmentation.graphemeBreaks`, `Specimen.Text.Segmentation.wordBreaks`,
  `Specimen.Text.Segmentation.sentenceBreaks` — the kinds of characters, by their names.
-/

namespace Specimen.Text.Segmentation

open Category Property

/-- The characters of the script with a name. -/
def scriptCodes (name : String) : CodeSet :=
  ((Script.find? name.toList).map Script.codes).getD .empty

/-- The end of a line as one character. -/
def lineFeed : CodeSet := .single 0xA

/-- The carriage return. -/
def carriageReturn : CodeSet := .single 0xD

/-- The character that joins those around it. -/
def joiner : CodeSet := .single 0x200D

/-! ## Graphemes -/

/-- Characters that extend a grapheme. -/
def graphemeExtending : CodeSet := graphemeExtend.union emojiModifier

/-- Control characters, and all that is not shown. -/
def graphemeControl : CodeSet :=
  (CodeSet.unions [control, lineSeparator, paragraphSeparator, format,
    unassigned.intersect defaultIgnorable]).difference
    (.unions [graphemeExtend, joinControl, prependedConcatenationMark, lineFeed, carriageReturn])

/-- Signs that belong to the grapheme after them. -/
def graphemePrepend : CodeSet :=
  prependedConcatenationMark.union
    (.read ["D4E 111C2-111C3 113D1 1193F 11941 11A3A 11A84-11A89 11D46 11F02"])

/-- Marks with room of their own that begin a grapheme. -/
def separateMark : CodeSet := .read [
  "102B-102C 1038 1062-1064 1067-106D 1083 1087-108C 108F 109A-109C 1A61 1A63-1A64 AA7B AA7D",
  "11720-11721"]

/-- Marks with room of their own that belong to a grapheme. -/
def graphemeSpacingMark : CodeSet :=
  (spacingMark.difference (graphemeExtending.union separateMark)).union (.read ["E33 EB3"])

/-- Syllables of two parts. -/
def openSyllable : CodeSet := .ofRuns (CodeSet.steps 0xAC00 0xD788 28)

/-- Syllables of three parts. -/
def closedSyllable : CodeSet := (CodeSet.read ["AC00-D7A3"]).difference openSyllable

/-- What characters are for graphemes. -/
def graphemeBreaks : List (List String × CodeSet) := [
  (["Control", "CN"], graphemeControl), (["CR"], carriageReturn), (["LF"], lineFeed),
  (["Extend", "EX"], graphemeExtending), (["Prepend", "PP"], graphemePrepend),
  (["SpacingMark", "SM"], graphemeSpacingMark), (["Regional_Indicator", "RI"], regionalIndicator),
  (["L"], .read ["1100-115F A960-A97C"]), (["V"], .read ["1160-11A7 16D63 16D67-16D6A D7B0-D7C6"]),
  (["T"], .read ["11A8-11FF D7CB-D7FB"]), (["LV"], openSyllable), (["LVT"], closedSyllable),
  (["ZWJ"], joiner)]

/-! ## Words -/

/-- Characters that extend a word. -/
def wordExtend : CodeSet := (graphemeExtending.union spacingMark).difference joiner

/-- Format characters within words. -/
def wordFormat : CodeSet :=
  format.difference (.unions [wordExtend, joinControl, .single 0x200B])

/-- Characters like those of the script Katakana. -/
def wordKatakana : CodeSet :=
  (scriptCodes "Katakana").union (.read ["3031-3035 309B-309C 30A0 30FC FF70"])

/-- Letters of the script Hebrew. -/
def wordHebrew : CodeSet := (scriptCodes "Hebrew").intersect otherLetter

/-- Scripts that are written without blanks. -/
def unspacedScripts : List String := [
  "Thai", "Lao", "Myanmar", "Khmer", "Tai_Le", "New_Tai_Lue", "Tai_Tham", "Tai_Viet", "Ahom",
  "Hiragana"]

/-- Letters of words, and signs like them. -/
def wordLetter : CodeSet :=
  (alphabetic.union (.read [
    "2C2-2C5 2D2-2D7 2DE-2DF 2E5-2EB 2ED 2EF-2FF 55A-55C 55E 58A 5F3 A708-A716 A720-A721",
    "A789-A78A AB5B"])).difference
    (.unions ([ideographic, wordKatakana, wordHebrew, wordExtend] ++
      unspacedScripts.map scriptCodes))

/-- What characters are for words. -/
def wordBreaks : List (List String × CodeSet) := [
  (["ALetter", "LE"], wordLetter), (["CR"], carriageReturn), (["LF"], lineFeed),
  (["Newline", "NL"], .read ["B-C 85 2028-2029"]), (["Double_Quote", "DQ"], .single 0x22),
  (["Single_Quote", "SQ"], .single 0x27), (["Extend"], wordExtend),
  (["ExtendNumLet", "EX"], connectorPunctuation.union (.single 0x202F)),
  (["Format", "FO"], wordFormat), (["Hebrew_Letter", "HL"], wordHebrew),
  (["Katakana", "KA"], wordKatakana), (["MidLetter", "ML"], .read ["3A B7 387 55F 5F4 2027 FE13",
    "FE55 FF1A"]), (["MidNum", "MN"], .read ["2C 3B 37E 589 60C-60D 66C 7F8 2044 FE10 FE14 FE50",
    "FE54 FF0C FF1B"]), (["MidNumLet", "MB"], .read ["2E 2018-2019 2024 FE52 FF07 FF0E"]),
  (["Numeric", "NU"], decimalNumber.union (.single 0x66B)),
  (["Regional_Indicator", "RI"], regionalIndicator),
  (["WSegSpace"], .read ["20 1680 2000-2006 2008-200A 205F 3000"]), (["ZWJ"], joiner)]

/-! ## Sentences -/

/-- Characters that extend what is in a sentence. -/
def sentenceExtend : CodeSet := .unions [graphemeExtend, spacingMark, joiner]

/-- Small letters, but not those of a script whose sentences begin with them. -/
def sentenceLower : CodeSet :=
  lowercase.difference (sentenceExtend.union (.read ["10D0-10FA 10FD-10FF"]))

/-- Capital letters, but not those of a script without them in sentences. -/
def sentenceUpper : CodeSet :=
  (uppercase.union titlecaseLetter).difference (.read ["1C90-1CBA 1CBD-1CBF"])

/-- All other letters. -/
def sentenceLetter : CodeSet :=
  (alphabetic.union (.single 0x5F3)).difference
    (.unions [sentenceLower, sentenceUpper, sentenceExtend])

/-- Dots, which may end a sentence. -/
def dot : CodeSet := .read ["2E 2024 FE52 FF0E"]

/-- Signs that end a sentence. -/
def sentenceEnd : CodeSet := sentenceTerminal.difference dot

/-- Brackets and quotation marks. -/
def sentenceClose : CodeSet :=
  (CodeSet.unions [openPunctuation, closePunctuation, initialPunctuation, finalPunctuation,
    .read ["22 27 275B-2760 2E00-2E01 2E06-2E08 2E0B 1F676-1F678"]]).difference
    (dot.union sentenceEnd)

/-- The ends of paragraphs. -/
def paragraphEnd : CodeSet := .read ["85 2028-2029"]

/-- What characters are for sentences. -/
def sentenceBreaks : List (List String × CodeSet) := [
  (["ATerm", "AT"], dot), (["CR"], carriageReturn), (["LF"], lineFeed),
  (["Close", "CL"], sentenceClose), (["Extend", "EX"], sentenceExtend),
  (["Format", "FO"], format.difference (sentenceExtend.union joinControl)),
  (["Lower", "LO"], sentenceLower), (["Upper", "UP"], sentenceUpper),
  (["OLetter", "LE"], sentenceLetter),
  (["Numeric", "NU"], decimalNumber.union (.read ["66B-66C"])),
  (["SContinue", "SC"], .read ["2C-2D 3A 55D 60C-60D 7F8 1802 1808 2013-2014 3001 FE10-FE11 FE13",
    "FE31-FE32 FE50-FE51 FE55 FE58 FE63 FF0C-FF0D FF1A FF64"]),
  (["STerm", "ST"], sentenceEnd), (["Sep", "SE"], paragraphEnd),
  (["Sp", "SP"], whiteSpace.difference (.unions [lineFeed, carriageReturn, paragraphEnd]))]

end Specimen.Text.Segmentation
