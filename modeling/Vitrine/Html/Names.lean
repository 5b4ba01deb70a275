import Vitrine.Html.Names.Capital
import Vitrine.Html.Names.FirstHalf
import Vitrine.Html.Names.SecondHalf
import Vitrine.Text.Sorted

/-!
# Named characters

`Names.find?` gives the characters that a name stands for in HTML and in everything that borrows its
names. Some names stand for a character with a mark that follows it; and some old names may be written
without the semicolon at the end.
-/

namespace Vitrine.Html.Names

open Text (findSorted?)

/-! ## Pairs and short spellings -/

/-- Names of two characters, in code point order. -/
def pairs : Array (String × Nat × Nat) := #[
  ("NotEqualTilde", 0x2242, 0x338), ("NotGreaterFullEqual", 0x2267, 0x338),
  ("NotGreaterGreater", 0x226b, 0x338), ("NotGreaterSlantEqual", 0x2a7e, 0x338),
  ("NotHumpDownHump", 0x224e, 0x338), ("NotHumpEqual", 0x224f, 0x338),
  ("NotLeftTriangleBar", 0x29cf, 0x338), ("NotLessLess", 0x226a, 0x338),
  ("NotLessSlantEqual", 0x2a7d, 0x338), ("NotNestedGreaterGreater", 0x2aa2, 0x338),
  ("NotNestedLessLess", 0x2aa1, 0x338), ("NotPrecedesEqual", 0x2aaf, 0x338),
  ("NotRightTriangleBar", 0x29d0, 0x338), ("NotSquareSubset", 0x228f, 0x338),
  ("NotSquareSuperset", 0x2290, 0x338), ("NotSubset", 0x2282, 0x20d2),
  ("NotSucceedsEqual", 0x2ab0, 0x338), ("NotSucceedsTilde", 0x227f, 0x338),
  ("NotSuperset", 0x2283, 0x20d2), ("ThickSpace", 0x205f, 0x200a), ("acE", 0x223e, 0x333),
  ("bne", 0x3d, 0x20e5), ("bnequiv", 0x2261, 0x20e5), ("caps", 0x2229, 0xfe00),
  ("cups", 0x222a, 0xfe00), ("fjlig", 0x66, 0x6a), ("gesl", 0x22db, 0xfe00),
  ("gvertneqq", 0x2269, 0xfe00), ("gvnE", 0x2269, 0xfe00), ("lates", 0x2aad, 0xfe00),
  ("lesg", 0x22da, 0xfe00), ("lvertneqq", 0x2268, 0xfe00), ("lvnE", 0x2268, 0xfe00),
  ("nGg", 0x22d9, 0x338), ("nGt", 0x226b, 0x20d2), ("nGtv", 0x226b, 0x338),
  ("nLl", 0x22d8, 0x338), ("nLt", 0x226a, 0x20d2), ("nLtv", 0x226a, 0x338),
  ("nang", 0x2220, 0x20d2), ("napE", 0x2a70, 0x338), ("napid", 0x224b, 0x338),
  ("nbump", 0x224e, 0x338), ("nbumpe", 0x224f, 0x338), ("ncongdot", 0x2a6d, 0x338),
  ("nedot", 0x2250, 0x338), ("nesim", 0x2242, 0x338), ("ngE", 0x2267, 0x338),
  ("ngeqq", 0x2267, 0x338), ("ngeqslant", 0x2a7e, 0x338), ("nges", 0x2a7e, 0x338),
  ("nlE", 0x2266, 0x338), ("nleqq", 0x2266, 0x338), ("nleqslant", 0x2a7d, 0x338),
  ("nles", 0x2a7d, 0x338), ("notinE", 0x22f9, 0x338), ("notindot", 0x22f5, 0x338),
  ("nparsl", 0x2afd, 0x20e5), ("npart", 0x2202, 0x338), ("npre", 0x2aaf, 0x338),
  ("npreceq", 0x2aaf, 0x338), ("nrarrc", 0x2933, 0x338), ("nrarrw", 0x219d, 0x338),
  ("nsce", 0x2ab0, 0x338), ("nsubE", 0x2ac5, 0x338), ("nsubset", 0x2282, 0x20d2),
  ("nsubseteqq", 0x2ac5, 0x338), ("nsucceq", 0x2ab0, 0x338), ("nsupE", 0x2ac6, 0x338),
  ("nsupset", 0x2283, 0x20d2), ("nsupseteqq", 0x2ac6, 0x338), ("nvap", 0x224d, 0x20d2),
  ("nvge", 0x2265, 0x20d2), ("nvgt", 0x3e, 0x20d2), ("nvle", 0x2264, 0x20d2),
  ("nvlt", 0x3c, 0x20d2), ("nvltrie", 0x22b4, 0x20d2), ("nvrtrie", 0x22b5, 0x20d2),
  ("nvsim", 0x223c, 0x20d2), ("race", 0x223d, 0x331), ("smtes", 0x2aac, 0xfe00),
  ("sqcaps", 0x2293, 0xfe00), ("sqcups", 0x2294, 0xfe00), ("varsubsetneq", 0x228a, 0xfe00),
  ("varsubsetneqq", 0x2acb, 0xfe00), ("varsupsetneq", 0x228b, 0xfe00),
  ("varsupsetneqq", 0x2acc, 0xfe00), ("vnsub", 0x2282, 0x20d2), ("vnsup", 0x2283, 0x20d2),
  ("vsubnE", 0x2acb, 0xfe00), ("vsubne", 0x228a, 0xfe00), ("vsupnE", 0x2acc, 0xfe00),
  ("vsupne", 0x228b, 0xfe00)]

/-- Names that need no semicolon, in code point order. -/
def unterminated : List String := [
  "AElig", "AMP", "Aacute", "Acirc", "Agrave", "Aring", "Atilde", "Auml", "COPY", "Ccedil", "ETH",
  "Eacute", "Ecirc", "Egrave", "Euml", "GT", "Iacute", "Icirc", "Igrave", "Iuml", "LT", "Ntilde",
  "Oacute", "Ocirc", "Ograve", "Oslash", "Otilde", "Ouml", "QUOT", "REG", "THORN", "Uacute",
  "Ucirc", "Ugrave", "Uuml", "Yacute", "aacute", "acirc", "acute", "aelig", "agrave", "amp",
  "aring", "atilde", "auml", "brvbar", "ccedil", "cedil", "cent", "copy", "curren", "deg",
  "divide", "eacute", "ecirc", "egrave", "eth", "euml", "frac12", "frac14", "frac34", "gt",
  "iacute", "icirc", "iexcl", "igrave", "iquest", "iuml", "laquo", "lt", "macr", "micro",
  "middot", "nbsp", "not", "ntilde", "oacute", "ocirc", "ograve", "ordf", "ordm", "oslash",
  "otilde", "ouml", "para", "plusmn", "pound", "quot", "raquo", "reg", "sect", "shy", "sup1",
  "sup2", "sup3", "szlig", "thorn", "times", "uacute", "ucirc", "ugrave", "uml", "uuml", "yacute",
  "yen", "yuml"]

/-! ## Looking a name up -/

/-- The one or two characters that `name`, written without `&` and `;`, stands for. -/
def find? (name : String) : Option (List Char) :=
  match findSorted? capital name <|> findSorted? firstHalf name <|> findSorted? secondHalf name with
  | some n => some [Char.ofNat n]
  | none => (findSorted? pairs name).map fun (a, b) => [Char.ofNat a, Char.ofNat b]

/-- The longest beginning of `word` that is a name which needs no semicolon. -/
def longestUnterminated? (word : List Char) : Option String :=
  unterminated.foldl (fun best name =>
    if name.toList.isPrefixOf word && (best.getD "").length < name.length then some name else best)
    none

end Vitrine.Html.Names
